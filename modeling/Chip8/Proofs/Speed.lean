import Mathlib
import Chip8.Image

/-!
# Proofs/Speed — which clock speeds a machine can have

The arithmetic of doubles goes through `Float.Model.unpack`, and `Binary.ofFloat` reads the bits by
itself.  The two readings agree (`Binary.ofFloat_eq`), so that what is rounded and what is compared
is the same number.

A speed passes the check for its sign if it is positive **or not a number**
(`not_le_zero_iff`), and of those that pass, the ones that are not a number and the ones so small
that a million over them is infinite have no period.  `refusal?` says which speed is refused for
what, and `Machine.create` refuses nothing else (`Machine.create_real_eq_error_iff`).
-/

open Float.Model UnpackedFloat

namespace Chip8

/-! ## Two readings of the bits -/

namespace Binary

/-- The parts of an unpacked double: the least exponent goes with a zero. -/
def ofUnpacked : UnpackedFloat → Binary
  | .infinity s => .infinite (s == .negative)
  | .notANumber => .nan
  | .zero s => .finite (s == .negative) 0 (-1074)
  | .finite s m e _ => .finite (s == .negative) m e

variable (b : BitVec 64)

theorem toNat_unpackMantissa :
    (@unpackMantissa Format.binary64 b).toNat = b.toNat % leastFull := by
  simp [unpackMantissa, leastFull]

theorem toNat_unpackExponent :
    (@unpackExponent Format.binary64 b).toNat = (b.toNat >>> 52) % 0x800 := by
  simp [unpackExponent]

theorem unpackSign_eq_negative :
    (Sign.ofBitVec (@unpackSign Format.binary64 b) == .negative)
      = ((b.toNat >>> 63) % 2 == 1) := by
  have h : (@unpackSign Format.binary64 b).toNat = (b.toNat >>> 63) % 2 := by
    simp [unpackSign]
  rw [← h]
  rcases BitVec.eq_zero_or_eq_one (@unpackSign Format.binary64 b) with h | h <;>
    rw [h] <;> rfl

/-- The bit in front of a full mantissa. -/
theorem toNat_append_implicit (m : BitVec 52) : (1#1 ++ m).toNat = leastFull + m.toNat := by
  rw [BitVec.toNat_append, ← Nat.shiftLeft_add_eq_or_of_lt m.isLt]
  rfl

theorem ofBits_toNat :
    ofBits b.toNat = ofUnpacked (UnpackedFloat.unpack Format.binary64 b) := by
  have full : (b.toNat >>> 52) % 0x800 = 2047
      ↔ @unpackExponent Format.binary64 b = -1#11 := by
    rw [← toNat_unpackExponent, ← BitVec.toNat_inj]; rfl
  have least : (b.toNat >>> 52) % 0x800 = 0
      ↔ @unpackExponent Format.binary64 b = 0#11 := by
    rw [← toNat_unpackExponent, ← BitVec.toNat_inj]; rfl
  have blank : b.toNat % leastFull = 0 ↔ @unpackMantissa Format.binary64 b = 0#52 := by
    rw [← toNat_unpackMantissa, ← BitVec.toNat_inj]; rfl
  simp only [ofBits, UnpackedFloat.unpack, full, least, blank, ← unpackSign_eq_negative]
  split_ifs with h₁ h₂ h₃ h₄
  · rfl
  · rfl
  · simp [ofUnpacked, blank.2 h₄]
  · simp [ofUnpacked, h₃, Format.exponentBias, toNat_unpackMantissa]
  · simp [ofUnpacked, toNat_append_implicit, Format.exponentBias, toNat_unpackMantissa,
      toNat_unpackExponent]

/-- **The bits of a double read by hand are the number that its arithmetic is about.** -/
theorem ofFloat_eq (x : Float) : ofFloat x = ofUnpacked x.toModel.unpack :=
  ofBits_toNat x.toModel.toBits.toBitVec

end Binary

/-! ## What is not a number, and what is infinite -/

theorem eq_nan_iff (x : Float) : x = Float.nan ↔ x.toModel.unpack = .notANumber := by
  have h : x.isNaN ↔ x.toModel.unpack = .notANumber := isNaN_iff
  rwa [Float.isNaN_eq_decide_eq_nan, decide_eq_true_eq] at h

theorem ne_nan_of_isInf {x : Float} (h : x.isInf) : x ≠ Float.nan := by
  rintro rfl
  exact absurd h (by decide)

/-- The nearest integer is there for all doubles but those that are not a number or infinite. -/
theorem nearestInt_eq (x : Float) :
    nearestInt x =
      if x = Float.nan then .error .notANumber
      else if x.isInf then .error .infinite
      else .ok ((Binary.ofFloat x).round?.getD 0) := by
  rw [nearestInt, Binary.ofFloat_eq]
  split_ifs with hn hi
  · rw [(eq_nan_iff x).1 hn]
    rfl
  · rw [Float.isInf, Float.Model.isInf] at hi
    cases h : x.toModel.unpack <;> simp_all [UnpackedFloat.isInf, Binary.ofUnpacked]
  · rw [eq_nan_iff] at hn
    rw [Float.isInf, Float.Model.isInf] at hi
    cases h : x.toModel.unpack <;> simp_all [UnpackedFloat.isInf, Binary.ofUnpacked]

/-! ## Signs and quotients -/

theorem unpack_zero : (0.0 : Float).toModel.unpack = .zero .positive := by rfl

theorem unpack_million :
    (1000000.0 : Float).toModel.unpack
      = .finite .positive 0x1E848000000000 (-33) (by decide) := by rfl

/-- **What is not at most zero is positive or not a number.** -/
theorem not_le_zero_iff (x : Float) : ¬x ≤ 0.0 ↔ x = Float.nan ∨ 0.0 < x := by
  simp only [eq_nan_iff, LE.le, LT.lt, Float.le, Float.lt, Float.Model.le, Float.Model.lt,
    UnpackedFloat.le, UnpackedFloat.lt, unpack_zero]
  rcases x.toModel.unpack with ⟨_ | _⟩ | _ | _ | ⟨_ | _, m, e, h⟩ <;>
    simp [UnpackedFloat.compare]

/-- Packing makes no number into one that is none. -/
theorem isNaN_unpack_pack (f : UnpackedFloat) :
    (UnpackedFloat.unpack Format.binary64 (UnpackedFloat.pack Format.binary64 f)).isNaN
      = f.isNaN := by
  fun_cases UnpackedFloat.pack with
  | case1 => rfl
  | case2 s => cases s <;> rfl
  | case3 s => cases s <;> rfl
  | case4 s m e hm biased overflow => cases s <;> rfl
  | case5 s m e hm width biased small normal =>
    have notFull : BitVec.ofNat Format.binary64.exponentBits biased ≠ -1#11 := by
      intro h
      have := congrArg BitVec.toNat h
      simp at this small
      omega
    simp only [UnpackedFloat.unpack, unpackExponent_packComponents, notFull, if_false]
    split_ifs <;> rfl
  | case6 s m e hm width biased small subnormal =>
    have notFull : 0#11 ≠ -1#11 := by decide
    simp only [UnpackedFloat.unpack, unpackExponent_packComponents, notFull, if_false]
    split_ifs <;> rfl

theorem isNaN_roundWithAccuracy (spec : Format) (s : Sign) (m : Nat) (e : Int) (a : Accuracy) :
    (roundWithAccuracy spec s m e a).isNaN = false := by
  simp only [roundWithAccuracy]
  split <;> rfl

/-- A million over a double is not a number just where the double is none. -/
theorem million_div_eq_nan_iff (x : Float) : 1000000.0 / x = Float.nan ↔ x = Float.nan := by
  have h : (1000000.0 / x).toModel.unpack.isNaN = x.toModel.unpack.isNaN := calc
    _ = (UnpackedFloat.div Format.binary64 (1000000.0 : Float).toModel.unpack
          x.toModel.unpack).isNaN := isNaN_unpack_pack _
    _ = x.toModel.unpack.isNaN := by
      rw [unpack_million]
      cases x.toModel.unpack <;> first | rfl | exact isNaN_roundWithAccuracy ..
  rw [eq_nan_iff, eq_nan_iff, ← isNaN_iff, ← isNaN_iff, h]

/-! ## Speeds -/

/-- What a clock speed is refused for: its sign, that it is no number, or that a cycle would be
endless. -/
def refusal? (x : Float) : Option Refusal :=
  if x ≤ 0.0 then some (.clockSpeed (Decimal.text x))
  else if x = Float.nan then some .notANumber
  else if (1000000.0 / x).isInf then some .infinite
  else none

/-- A speed that passes the check for its sign is refused just if its quotient cannot be rounded. -/
theorem refusal?_of_not_le {x : Float} (h : ¬x ≤ 0.0) :
    (refusal? x = some .notANumber ↔ x = Float.nan)
      ∧ (refusal? x = some .infinite ↔ (1000000.0 / x).isInf)
      ∧ (refusal? x = none ↔ x ≠ Float.nan ∧ ¬(1000000.0 / x).isInf) := by
  have apart : (1000000.0 / x).isInf → x ≠ Float.nan := fun hi =>
    mt (million_div_eq_nan_iff x).2 (ne_nan_of_isInf hi)
  rw [refusal?, if_neg h]
  split_ifs with hn hi
  · simpa [hn] using fun hi => apart hi hn
  · simp [hn, hi]
  · simp [hn, hi]

namespace Number

theorem atMostZero_real (x : Float) : (real x).atMostZero = decide (x ≤ 0.0) := rfl

theorem period_real_eq_error_iff {x : Float} {r : Refusal} :
    (real x).period = .error r ↔ refusal? x = some r := by
  rw [period, refusal?, atMostZero_real]
  by_cases hle : x ≤ 0.0
  · simp [hle, shown]
  simp only [hle, decide_false, Bool.false_eq_true, if_false, nearestInt_eq,
    million_div_eq_nan_iff]
  split_ifs <;> simp [Except.map]

end Number

namespace Machine

variable (image : Array UInt8) (generator : Generator) {x : Float}

/-- **Of a machine nothing but its clock speed is refused.** -/
theorem create_real_eq_error_iff {r : Refusal} :
    create image (.real x) generator = .error r ↔ refusal? x = some r := by
  rw [← Number.period_real_eq_error_iff, create]
  rcases (Number.real x).period with e | p <;>
    simp [bind, Except.bind, pure, Except.pure]

theorem exists_create_real_iff :
    (∃ m, create image (.real x) generator = .ok m) ↔ refusal? x = none := by
  simp only [Option.eq_none_iff_forall_ne_some, ne_eq,
    ← create_real_eq_error_iff image generator]
  cases create image (.real x) generator <;> simp

end Machine

/-- Contents are cut to the program region; none but empty ones are refused. -/
theorem Loading.result_ofContents {contents : Array UInt8} {source : Text} (h : contents ≠ #[]) :
    (ofContents contents source).result = .ok (contents.extract 0 programSize) := by
  rw [ofContents, if_neg (by simpa using h)]
  dsimp only
  split_ifs with hlong
  · rfl
  all_goals rw [Array.extract_eq_self_of_le (by omega)]

theorem Machine.ofContents_eq_create {contents : Array UInt8} (h : contents ≠ #[]) (x : Float)
    (generator : Generator) :
    ofContents contents x generator
      = create (contents.extract 0 programSize) (.real x) generator := by
  rw [ofContents, Loading.result_ofContents h]
  rfl

end Chip8
