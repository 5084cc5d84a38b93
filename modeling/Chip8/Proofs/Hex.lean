import Mathlib
import Chip8.Text.Hex

/-!
# Proofs/Hex — a numeral of full width spells its number

`Hex.Spells` says what a hexadecimal numeral of a number of places means, without saying how it is
written.  A text that is wide enough for its number spells it (`text_spells`), and a numeral spells
one number only (`Spells.unique`).  A numeral of any width and sign is read back as its number
(`number_chars`).
-/

namespace Chip8.Hex

/-- A text spells a number in a number of hexadecimal digits; `ds` are its digits from the ones
on. -/
def Spells (t : String) (width : Nat) (n : Int) : Prop :=
  ∃ ds : List Nat, t.toList = ds.reverse.map digit ∧ ds.length = width ∧ (∀ d ∈ ds, d < 16) ∧
    ((Nat.ofDigits 16 ds : Nat) : Int) = n

theorem value?_digit {d : Nat} (h : d < 16) : value? (digit d) = some d := by
  have hall : ∀ e ∈ List.range 16, value? (digit e) = some e := by decide
  exact hall d (List.mem_range.mpr h)

/-- **A numeral spells one number only.** -/
theorem Spells.unique {t : String} {width width' : Nat} {n n' : Int} (h : Spells t width n)
    (h' : Spells t width' n') : n = n' := by
  obtain ⟨ds, ht, -, hlt, rfl⟩ := h
  obtain ⟨ds', ht', -, hlt', rfl⟩ := h'
  have hread : ∀ {l : List Nat}, (∀ d ∈ l, d < 16) →
      (l.reverse.map digit).map value? = l.reverse.map some := by
    intro l hl
    rw [List.map_map]
    exact List.map_congr_left fun d hd => value?_digit (hl d (List.mem_reverse.mp hd))
  have hsome : ds.reverse.map some = ds'.reverse.map some := by
    rw [← hread hlt, ← hread hlt', ← ht, ← ht']
  rw [List.reverse_injective (List.map_injective_iff.mpr (Option.some_injective _) hsome)]

theorem digits_eq {n : Nat} : 0 < n → digits n = (Nat.digits 16 n).reverse.map digit := by
  induction n using digits.induct with
  | case1 n hlt =>
    intro hn
    rw [digits, if_pos hlt, Nat.digits_of_lt 16 n hn.ne' hlt]
    rfl
  | case2 n hge ih =>
    intro hn
    rw [digits, if_neg hge, ih (by omega), Nat.digits_def' (by decide) hn]
    simp

/-- **The characters are the digits in all their places**, the leading zeros among them. -/
theorem chars_eq {width : Nat} (hw : 0 < width) (n : Nat) :
    chars width n = (Nat.digitsAppend 16 width n).reverse.map digit := by
  have hzero : digit 0 = '0' := by decide
  have hsign : sign (n : Int) = [] := if_neg (by omega)
  rw [chars, hsign, Int.natAbs_natCast, Nat.digitsAppend]
  obtain rfl | hn := Nat.eq_zero_or_pos n
  · obtain ⟨w, rfl⟩ : ∃ w, width = w + 1 := ⟨width - 1, by omega⟩
    have hdigits : digits 0 = ['0'] := by rw [digits, if_pos (by decide), hzero]
    simp [hdigits, hzero, ← List.replicate_succ']
  · simp [digits_eq hn, hzero]

/-- **A text that is wide enough spells its number.** -/
theorem text_spells {width : Nat} {n : Int} (hw : 0 < width) (h0 : 0 ≤ n) (hn : n < 16 ^ width) :
    Spells (text width n) width n := by
  obtain ⟨n, rfl⟩ := Int.eq_ofNat_of_zero_le h0
  have hlt : n < 16 ^ width := by exact_mod_cast hn
  refine ⟨Nat.digitsAppend 16 width n, ?_, Nat.length_digitsAppend (by decide) width hlt,
    Nat.lt_of_mem_digitsAppend (by decide) width, ?_⟩
  · rw [← chars_eq hw]
    exact String.toList_ofList
  · rw [Nat.digitsAppend, Nat.ofDigits_append_replicate_zero, Nat.ofDigits_digits]

/-! ## Reading a numeral -/

/-- The number that a row of hexadecimal digits means. -/
def value (ds : List Char) : Nat := ds.foldl (fun n c => 16 * n + (value? c).getD 0) 0

/-- The number that a hexadecimal numeral means, with a minus sign in front or without. -/
def number : List Char → Int
  | '-' :: ds => -(value ds : Int)
  | ds => value ds

theorem isAlphanum_digit {d : Nat} (h : d < 16) : (digit d).isAlphanum := by
  have hall : ∀ e ∈ List.range 16, (digit e).isAlphanum := by decide
  exact hall d (List.mem_range.mpr h)

theorem value_append_digit (ds : List Char) {d : Nat} (h : d < 16) :
    value (ds ++ [digit d]) = 16 * value ds + d := by
  rw [value, List.foldl_append, List.foldl_cons, List.foldl_nil, value?_digit h]
  rfl

theorem value_digits (n : Nat) : value (digits n) = n := by
  induction n using digits.induct with
  | case1 n hlt =>
    rw [digits, if_pos hlt]
    exact (value_append_digit [] hlt).trans (Nat.zero_add n)
  | case2 n hge ih =>
    rw [digits, if_neg hge, value_append_digit _ (Nat.mod_lt n (by decide)), ih]
    omega

/-- Zeros in front of the digits say nothing. -/
theorem value_replicate_zero (k : Nat) (ds : List Char) :
    value (List.replicate k '0' ++ ds) = value ds := by
  induction k with
  | zero => rfl
  | succ k ih => rw [List.replicate_succ, List.cons_append, ← ih]; rfl

theorem mem_digits {n : Nat} {c : Char} (h : c ∈ digits n) : ∃ d < 16, c = digit d := by
  induction n using digits.induct with
  | case1 n hlt =>
    rw [digits, if_pos hlt, List.mem_singleton] at h
    exact ⟨n, hlt, h⟩
  | case2 n hge ih =>
    rw [digits, if_neg hge, List.mem_append, List.mem_singleton] at h
    obtain h | rfl := h
    · exact ih h
    · exact ⟨n % 16, Nat.mod_lt n (by decide), rfl⟩

/-- A numeral is made of digits, with a minus sign for a negative number only. -/
theorem mem_chars {width : Nat} {n : Int} {c : Char} (h : c ∈ chars width n) :
    (n < 0 ∧ c = '-') ∨ ∃ d < 16, c = digit d := by
  have hzero : '0' = digit 0 := by decide
  simp only [chars, sign, List.mem_append, List.mem_replicate] at h
  obtain (h | ⟨-, rfl⟩) | h := h
  · split at h
    case isTrue hn => exact .inl ⟨hn, List.mem_singleton.mp h⟩
    case isFalse => exact absurd h List.not_mem_nil
  · exact .inr ⟨0, by decide, hzero⟩
  · exact .inr (mem_digits h)

theorem number_of_not_mem {ds : List Char} (h : '-' ∉ ds) : number ds = value ds := by
  rw [number]
  rintro ds' rfl
  exact h List.mem_cons_self

/-- **A numeral is read back as its number**, whatever its width and its sign. -/
theorem number_chars (width : Nat) (n : Int) : number (chars width n) = n := by
  obtain hn | hn := lt_or_ge n 0
  · rw [chars, sign, if_pos hn, List.append_assoc, List.singleton_append, number,
      value_replicate_zero, value_digits]
    omega
  · have hminus : '-' ∉ chars width n := by
      intro h
      obtain ⟨hneg, -⟩ | ⟨d, hd, hc⟩ := mem_chars h
      · omega
      · exact absurd (isAlphanum_digit hd) (hc ▸ by decide)
    rw [number_of_not_mem hminus, chars, sign, if_neg (by omega), List.nil_append,
      value_replicate_zero, value_digits]
    omega

end Chip8.Hex
