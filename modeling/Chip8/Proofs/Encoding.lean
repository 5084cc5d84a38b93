import Mathlib
import Chip8.Proofs.Execution

/-!
# Proofs/Encoding — the words of an instruction

`Instruction.encode` writes an instruction as a word, with zeros in the bits that its pattern
ignores.  Decoding undoes it (`decode_encode`), and what it makes of a decoded word is that word
without its ignored bits (`encode_decode`, `Opcode.essence`).  So two words have one instruction
just if they are `Opcode.Alike` (`decode_eq_decode_iff`).  Two variants keep their word whole;
`decode_eq_noOp_iff` and `decode_eq_unknown_iff` say which words these are.
-/

namespace Chip8

/-! ## Words from their fields -/

namespace Opcode

/-- The word of a group and an address. -/
def ofAddress (g a : Int) : Int := 0x1000 * g + a

/-- The word of a group, a register and a byte. -/
def ofData (g x d : Int) : Int := ofAddress g (0x100 * x + d)

/-- The word of four nibbles. -/
def ofNibbles (g x y n : Int) : Int := ofData g x (0x10 * y + n)

section

variable {g a x d y n : Int}

theorem group_ofAddress (ha : 0 ≤ a ∧ a < 0x1000) : group (ofAddress g a) = g := by
  rw [group, ofAddress]
  omega

theorem address_ofAddress (ha : 0 ≤ a ∧ a < 0x1000) : address (ofAddress g a) = a := by
  rw [address, ofAddress]
  omega

theorem group_ofData (hx : 0 ≤ x ∧ x < 0x10) (hd : 0 ≤ d ∧ d < 0x100) :
    group (ofData g x d) = g :=
  group_ofAddress (by omega)

theorem high_ofData (hx : 0 ≤ x ∧ x < 0x10) (hd : 0 ≤ d ∧ d < 0x100) :
    high (ofData g x d) = x := by
  rw [high, ofData, ofAddress]
  omega

theorem data_ofData (hd : 0 ≤ d ∧ d < 0x100) : data (ofData g x d) = d := by
  rw [data, ofData, ofAddress]
  omega

theorem group_ofNibbles (hx : 0 ≤ x ∧ x < 0x10) (hy : 0 ≤ y ∧ y < 0x10)
    (hn : 0 ≤ n ∧ n < 0x10) : group (ofNibbles g x y n) = g :=
  group_ofData hx (by omega)

theorem high_ofNibbles (hx : 0 ≤ x ∧ x < 0x10) (hy : 0 ≤ y ∧ y < 0x10)
    (hn : 0 ≤ n ∧ n < 0x10) : high (ofNibbles g x y n) = x :=
  high_ofData hx (by omega)

theorem data_ofNibbles (hy : 0 ≤ y ∧ y < 0x10) (hn : 0 ≤ n ∧ n < 0x10) :
    data (ofNibbles g x y n) = 0x10 * y + n :=
  data_ofData (by omega)

theorem low_ofNibbles (hy : 0 ≤ y ∧ y < 0x10) (hn : 0 ≤ n ∧ n < 0x10) :
    low (ofNibbles g x y n) = y := by
  rw [low, ofNibbles, ofData, ofAddress]
  omega

theorem nibble_ofNibbles (hn : 0 ≤ n ∧ n < 0x10) : nibble (ofNibbles g x y n) = n := by
  rw [nibble, ofNibbles, ofData, ofAddress]
  omega

end

/-! Fields that are put together again give the word. -/

section

variable {g w : Int}

theorem ofAddress_address (hg : group w = g) : ofAddress g (address w) = w := by
  rw [← hg, ofAddress, group, address]
  omega

theorem ofData_data (hg : group w = g) : ofData g (high w) (data w) = w := by
  rw [← hg, ofData, ofAddress, group, high, data]
  omega

theorem ofNibbles_nibble (hg : group w = g) : ofNibbles g (high w) (low w) (nibble w) = w := by
  rw [← hg, ofNibbles, ofData, ofAddress, group, high, low, nibble]
  omega

theorem exists_high (w : Int) : ∃ x : Nibble, high w = x :=
  ⟨⟨(high w).toNat, by rw [high]; omega⟩, by simp only [high]; omega⟩

theorem exists_low (w : Int) : ∃ y : Nibble, low w = y :=
  ⟨⟨(low w).toNat, by rw [low]; omega⟩, by simp only [low]; omega⟩

/-- Where the low byte is known, the second nibble is all that is left. -/
theorem exists_eq_of_data {y n : Int} (hg : group w = g) (hd : data w = 0x10 * y + n)
    (hn : 0 ≤ n ∧ n < 0x10) : ∃ x : Nibble, w = ofNibbles g x y n := by
  obtain ⟨x, hx⟩ := exists_high w
  have hlow : low w = y := by rw [data] at hd; rw [low]; omega
  have hnibble : nibble w = n := by rw [data] at hd; rw [nibble]; omega
  exact ⟨x, by rw [← hx, ← hlow, ← hnibble, ofNibbles_nibble hg]⟩

/-- Where the second and the lowest nibble are known, the third is all that is left. -/
theorem exists_eq_of_nibble {x n : Int} (hg : group w = g) (hx : high w = x) (hn : nibble w = n) :
    ∃ y : Nibble, w = ofNibbles g x y n := by
  obtain ⟨y, hy⟩ := exists_low w
  exact ⟨y, by rw [← hx, ← hy, ← hn, ofNibbles_nibble hg]⟩

end

end Opcode

/-! ## Instructions as words -/

namespace Instruction

open Opcode

/-- The word of an instruction, with zeros in the bits that its pattern ignores. -/
def encode : Instruction → Int
  | clearScreen => 0x00E0
  | ret => 0x00EE
  | jump a => ofAddress 0x1 a
  | call a => ofAddress 0x2 a
  | jumpFromOffset a => ofAddress 0xB a
  | skipIfEqualData x d => ofData 0x3 x d
  | skipIfNotEqualData x d => ofData 0x4 x d
  | skipIfEqualRegister x y => ofNibbles 0x5 x y 0x0
  | skipIfNotEqualRegister x y => ofNibbles 0x9 x y 0x0
  | loadData x d => ofData 0x6 x d
  | addData x d => ofData 0x7 x d
  | loadRegister x y => ofNibbles 0x8 x y 0x0
  | or x y => ofNibbles 0x8 x y 0x1
  | and x y => ofNibbles 0x8 x y 0x2
  | xor x y => ofNibbles 0x8 x y 0x3
  | add x y => ofNibbles 0x8 x y 0x4
  | sub x y => ofNibbles 0x8 x y 0x5
  | shiftRight x => ofNibbles 0x8 x 0x0 0x6
  | negatedSub x y => ofNibbles 0x8 x y 0x7
  | shiftLeft x => ofNibbles 0x8 x 0x0 0xE
  | setAddressRegister a => ofAddress 0xA a
  | random x d => ofData 0xC x d
  | draw x y r => ofNibbles 0xD x y r
  | skipIfPressed x => ofData 0xE x 0x9E
  | skipIfNotPressed x => ofData 0xE x 0xA1
  | loadDelayTimer x => ofData 0xF x 0x07
  | awaitKeyPress x => ofData 0xF x 0x0A
  | setDelayTimer x => ofData 0xF x 0x15
  | setSoundTimer x => ofData 0xF x 0x18
  | addAddressRegister x => ofData 0xF x 0x1E
  | loadFontSprite x => ofData 0xF x 0x29
  | storeBcd x => ofData 0xF x 0x33
  | storeRegisters x => ofData 0xF x 0x55
  | readRegisters x => ofData 0xF x 0x65
  | noOp w => w
  | unknown w => w

/-- An instruction that has a pattern of its own; the two others stand for all words without one. -/
def HasPattern (i : Instruction) : Prop := ∀ w, i ≠ .noOp w ∧ i ≠ .unknown w

/-- **An instruction is the decoding of its word.** -/
theorem decode_encode {i : Instruction} (hi : i.Fits) (hp : i.HasPattern) :
    decode i.encode = i := by
  simp only [Fits, fields, Field.bound] at hi
  cases i
  case noOp w => exact absurd rfl (hp w).1
  case unknown w => exact absurd rfl (hp w).2
  case clearScreen => decide
  case ret => decide
  all_goals
    simp only [List.mem_cons, List.not_mem_nil, or_false, forall_eq_or_imp, forall_eq] at hi
    simp [encode, decode, decodeArithmetic, decodeKey, decodeMisc, group_ofAddress,
      address_ofAddress, group_ofData, high_ofData, data_ofData, group_ofNibbles, high_ofNibbles,
      low_ofNibbles, nibble_ofNibbles, hi]

/-- The word of an instruction that fits its fields has sixteen bits. -/
theorem encode_bounds {i : Instruction} (hi : i.Fits) : 0 ≤ i.encode ∧ i.encode ≤ 0xFFFF := by
  simp only [Fits, fields, Field.bound] at hi
  cases i
  all_goals
    simp only [List.mem_cons, List.not_mem_nil, or_false, forall_eq_or_imp, forall_eq] at hi
    simp only [encode, ofNibbles, ofData, ofAddress]
    omega

theorem decode?_eq_ok_iff {w : Int} {i : Instruction} :
    decode? w = .ok i ↔ (0 ≤ w ∧ w ≤ 0xFFFF) ∧ decode w = i := by
  rw [decode?]
  split_ifs with h <;> simp [h]

end Instruction

/-! ## What decoding forgets -/

namespace Opcode

/-- Words that differ at most in bits that are ignored: the second nibble of `0nE0` and `0nEE`, and
the third of `8xy6` and `8xyE`. -/
inductive Alike : Int → Int → Prop
  | same (w : Int) : Alike w w
  | clearScreen (n n' : Nibble) : Alike (ofNibbles 0x0 n 0xE 0x0) (ofNibbles 0x0 n' 0xE 0x0)
  | ret (n n' : Nibble) : Alike (ofNibbles 0x0 n 0xE 0xE) (ofNibbles 0x0 n' 0xE 0xE)
  | shiftRight (x y y' : Nibble) : Alike (ofNibbles 0x8 x y 0x6) (ofNibbles 0x8 x y' 0x6)
  | shiftLeft (x y y' : Nibble) : Alike (ofNibbles 0x8 x y 0xE) (ofNibbles 0x8 x y' 0xE)

/-- The word with zeros in its ignored bits. -/
def essence (w : Int) : Int :=
  if group w = 0x0 ∧ (data w = 0xE0 ∨ data w = 0xEE) then data w
  else if group w = 0x8 ∧ (nibble w = 0x6 ∨ nibble w = 0xE) then w - 0x10 * low w
  else w

section

variable {v w : Int}

theorem group_essence (w : Int) : group (essence w) = group w := by
  unfold essence
  split_ifs <;> simp only [group, data, low] at * <;> omega

theorem nibble_essence (w : Int) : nibble (essence w) = nibble w := by
  unfold essence
  split_ifs <;> simp only [nibble, data] <;> omega

theorem data_essence (hg : group w = 0x0) : data (essence w) = data w := by
  unfold essence
  split_ifs with _ h
  · exact Int.emod_emod_of_dvd w (dvd_refl _)
  · omega
  · rfl

theorem high_essence (hg : group w = 0x8) : high (essence w) = high w := by
  unfold essence
  split_ifs with h
  · omega
  · simp only [high, low]
    omega
  · rfl

/-- Two groups alone have words with ignored bits. -/
theorem essence_of_group (h0 : group w ≠ 0x0) (h8 : group w ≠ 0x8) : essence w = w := by
  rw [essence, if_neg fun h => h0 h.1, if_neg fun h => h8 h.1]

theorem essence_of_data (hg : group w = 0x0) (hd : ¬(data w = 0xE0 ∨ data w = 0xEE)) :
    essence w = w := by
  have h8 : group w ≠ 0x8 := by omega
  rw [essence, if_neg fun h => hd h.2, if_neg fun h => h8 h.1]

theorem essence_of_nibble (hg : group w = 0x8) (hn : ¬(nibble w = 0x6 ∨ nibble w = 0xE)) :
    essence w = w := by
  have h0 : group w ≠ 0x0 := by omega
  rw [essence, if_neg fun h => h0 h.1, if_neg fun h => hn h.2]

theorem alike_of_data (hv : group v = 0x0) (hw : group w = 0x0)
    (hd : data v = 0xE0 ∨ data v = 0xEE) (h : data v = data w) : Alike v w := by
  obtain hd | hd := hd
  · obtain ⟨n, rfl⟩ := exists_eq_of_data (y := 0xE) (n := 0x0) hv hd (by decide)
    obtain ⟨n', rfl⟩ := exists_eq_of_data (y := 0xE) (n := 0x0) hw (h ▸ hd) (by decide)
    exact .clearScreen n n'
  · obtain ⟨n, rfl⟩ := exists_eq_of_data (y := 0xE) (n := 0xE) hv hd (by decide)
    obtain ⟨n', rfl⟩ := exists_eq_of_data (y := 0xE) (n := 0xE) hw (h ▸ hd) (by decide)
    exact .ret n n'

theorem alike_of_nibble (hv : group v = 0x8) (hw : group w = 0x8)
    (hn : nibble v = 0x6 ∨ nibble v = 0xE) (hx : high v = high w) (h : nibble v = nibble w) :
    Alike v w := by
  obtain ⟨x, hhigh⟩ := exists_high v
  obtain hn | hn := hn
  · obtain ⟨y, rfl⟩ := exists_eq_of_nibble hv hhigh hn
    obtain ⟨y', rfl⟩ := exists_eq_of_nibble hw (hx ▸ hhigh) (h ▸ hn)
    exact .shiftRight x y y'
  · obtain ⟨y, rfl⟩ := exists_eq_of_nibble hv hhigh hn
    obtain ⟨y', rfl⟩ := exists_eq_of_nibble hw (hx ▸ hhigh) (h ▸ hn)
    exact .shiftLeft x y y'

/-- **Words that are one but for their ignored bits are alike.** -/
theorem alike_of_essence (h : essence v = essence w) : Alike v w := by
  have hgroup : group v = group w := by rw [← group_essence v, h, group_essence]
  have hnibble : nibble v = nibble w := by rw [← nibble_essence v, h, nibble_essence]
  -- where neither word has ignored bits they are equal
  have hwhole (hv : essence v = v) (hw : essence w = w) : Alike v w := by
    rw [← hv, h, hw]
    exact .same w
  by_cases h0 : group v = 0x0
  · have hdata : data v = data w := by rw [← data_essence h0, h, data_essence (hgroup ▸ h0)]
    by_cases hd : data v = 0xE0 ∨ data v = 0xEE
    · exact alike_of_data h0 (hgroup ▸ h0) hd hdata
    · exact hwhole (essence_of_data h0 hd) (essence_of_data (hgroup ▸ h0) (hdata ▸ hd))
  by_cases h8 : group v = 0x8
  · have hhigh : high v = high w := by rw [← high_essence h8, h, high_essence (hgroup ▸ h8)]
    by_cases hn : nibble v = 0x6 ∨ nibble v = 0xE
    · exact alike_of_nibble h8 (hgroup ▸ h8) hn hhigh hnibble
    · exact hwhole (essence_of_nibble h8 hn) (essence_of_nibble (hgroup ▸ h8) (hnibble ▸ hn))
  exact hwhole (essence_of_group h0 h8) (essence_of_group (hgroup ▸ h0) (hgroup ▸ h8))

end

end Opcode

namespace Instruction

open Opcode

section

variable {v w : Int}

theorem encode_decodeSystem (hg : group w = 0x0) : (decodeSystem w).encode = essence w := by
  unfold decodeSystem essence
  split_ifs <;> grind [encode]

theorem encode_decodeArithmetic (hg : group w = 0x8) :
    (decodeArithmetic w).encode = essence w := by
  have h0 : 0 ≤ nibble w := by rw [nibble]; omega
  have hw := ofNibbles_nibble hg
  have hshift : ofNibbles 0x8 (high w) 0x0 (nibble w) = w - 0x10 * low w := by
    simp only [ofNibbles, ofData, ofAddress] at hw ⊢
    omega
  unfold decodeArithmetic essence
  split <;> grind [encode]

theorem encode_decodeKey (hg : group w = 0xE) : (decodeKey w).encode = w := by
  have hw := ofData_data hg
  unfold decodeKey
  split_ifs <;> grind [encode]

theorem encode_decodeMisc (hg : group w = 0xF) : (decodeMisc w).encode = w := by
  have h0 : 0 ≤ data w := by rw [data]; omega
  have hw := ofData_data hg
  unfold decodeMisc
  split <;> grind [encode]

theorem group_bounds (h : 0 ≤ w ∧ w ≤ 0xFFFF) : 0 ≤ group w ∧ group w ≤ 0xF := by
  rw [group]
  omega

/-- **Decoding forgets the ignored bits and nothing else.** -/
theorem encode_decode (h : 0 ≤ w ∧ w ≤ 0xFFFF) : (decode w).encode = essence w := by
  have hbounds := group_bounds h
  unfold decode
  split
  case h_1 hg => exact encode_decodeSystem (by omega)
  case h_9 hg => exact encode_decodeArithmetic (by omega)
  -- no other group has ignored bits
  case h_16 =>
    have hg : group w = 0xF := by grind
    rw [encode_decodeMisc hg, essence_of_group (by omega) (by omega)]
  all_goals rw [essence_of_group (by omega) (by omega)]
  case h_6 hg =>
    have hw := ofNibbles_nibble (g := 0x5) (w := w) (by omega)
    split_ifs <;> grind [encode]
  case h_10 hg =>
    have hw := ofNibbles_nibble (g := 0x9) (w := w) (by omega)
    split_ifs <;> grind [encode]
  case h_14 hg => exact ofNibbles_nibble (by omega)
  case h_15 hg => exact encode_decodeKey (by omega)
  case h_2 | h_3 | h_11 | h_12 => exact ofAddress_address (by omega)
  all_goals exact ofData_data (by omega)

theorem decode_of_alike (h : Alike v w) : decode v = decode w := by
  have bounds (x : Nibble) : 0 ≤ (x : Int) ∧ (x : Int) < 0x10 := by omega
  cases h <;>
    simp [decode, decodeSystem, decodeArithmetic, group_ofNibbles, high_ofNibbles, data_ofNibbles,
      nibble_ofNibbles, bounds]

/-- **Two words have one instruction just if they are alike.** -/
theorem decode_eq_decode_iff (hv : 0 ≤ v ∧ v ≤ 0xFFFF) (hw : 0 ≤ w ∧ w ≤ 0xFFFF) :
    decode v = decode w ↔ Alike v w := by
  refine ⟨fun h => alike_of_essence ?_, decode_of_alike⟩
  rw [← encode_decode hv, h, encode_decode hw]

end

end Instruction

/-! ## Words without an instruction of their own -/

/-- The words of the five groups with gaps that fit no pattern of their group. -/
def Opcode.Patternless (w : Int) : Prop :=
  (group w = 0x5 ∨ group w = 0x9) ∧ nibble w ≠ 0x0 ∨
  group w = 0x8 ∧ nibble w ∉ [0x0, 0x1, 0x2, 0x3, 0x4, 0x5, 0x6, 0x7, 0xE] ∨
  group w = 0xE ∧ data w ∉ [0x9E, 0xA1] ∨
  group w = 0xF ∧ data w ∉ [0x07, 0x0A, 0x15, 0x18, 0x1E, 0x29, 0x33, 0x55, 0x65]

theorem Opcode.Patternless.bounds {w : Int} (h : Opcode.Patternless w) : 0 ≤ w ∧ w ≤ 0xFFFF := by
  simp only [Patternless, group] at h
  omega

namespace Instruction

open Opcode

variable {v w : Int}

theorem decodeArithmetic_eq_unknown_iff : decodeArithmetic v = .unknown w ↔
    v = w ∧ nibble v ∉ [0x0, 0x1, 0x2, 0x3, 0x4, 0x5, 0x6, 0x7, 0xE] := by
  have h0 : 0 ≤ nibble v := by rw [nibble]; omega
  simp only [List.mem_cons, List.not_mem_nil, or_false]
  unfold decodeArithmetic
  split <;> grind

theorem decodeKey_eq_unknown_iff :
    decodeKey v = .unknown w ↔ v = w ∧ data v ∉ [0x9E, 0xA1] := by
  unfold decodeKey
  split_ifs <;> simp [*]

theorem decodeMisc_eq_unknown_iff : decodeMisc v = .unknown w ↔
    v = w ∧ data v ∉ [0x07, 0x0A, 0x15, 0x18, 0x1E, 0x29, 0x33, 0x55, 0x65] := by
  have h0 : 0 ≤ data v := by rw [data]; omega
  simp only [List.mem_cons, List.not_mem_nil, or_false]
  unfold decodeMisc
  split <;> grind

/-- **Unknown are the words that fit no pattern of their group.** -/
theorem decode_eq_unknown_iff (h : 0 ≤ v ∧ v ≤ 0xFFFF) :
    decode v = .unknown w ↔ v = w ∧ Patternless w := by
  have hbounds := group_bounds h
  have hcongr : v = w ∧ Patternless w ↔ v = w ∧ Patternless v :=
    and_congr_right fun h => by rw [h]
  rw [hcongr]
  unfold Patternless decode decodeSystem
  repeat' split
  all_goals
    simp only [reduceCtorEq, unknown.injEq, decodeArithmetic_eq_unknown_iff,
      decodeKey_eq_unknown_iff, decodeMisc_eq_unknown_iff]
    grind

/-- **Without effect are the words of group 0** that neither clear the screen nor return. -/
theorem decode_eq_noOp_iff (h : 0 ≤ v ∧ v ≤ 0xFFFF) :
    decode v = .noOp w ↔ v = w ∧ w < 0x1000 ∧ data w ≠ 0xE0 ∧ data w ≠ 0xEE := by
  have hbounds := group_bounds h
  have hlow : v < 0x1000 ↔ group v = 0x0 := by rw [group]; omega
  unfold decode decodeSystem decodeArithmetic decodeKey decodeMisc
  repeat' split
  all_goals grind

end Instruction

end Chip8
