import Mathlib
import Chip8.Instruction
import Chip8.Proofs.Hex

/-!
# Proofs/Assembly — the text of an instruction names it

The engine is a reader of assembly.  A text is cut at its spaces into a mnemonic and columns
(`words_text`), a column is known by its first character (`Column.read_operand`), and `ofColumns?`
finds the variant that has these columns.  What is written is read back as the instruction it was
written for (`ofText?_text`), whatever its operands, so that one text belongs to one instruction
(`text_inj`).
-/

namespace Chip8.Instruction

/-! ## Words -/

/-- Without a space and without a comma. -/
def Bare (s : String) : Prop := ∀ c ∈ s.toList, c ≠ ' ' ∧ c ≠ ','

/-- The parts of assembly between its spaces, the commas left out. -/
def words (t : String) : List (List Char) := (t.toList.filter (· ≠ ',')).splitOn ' '

theorem filter_of_bare {s : String} (h : Bare s) : s.toList.filter (· ≠ ',') = s.toList :=
  List.filter_eq_self.mpr fun c hc => decide_eq_true (h c hc).2

/-- The words are cut apart where they were joined. -/
theorem splitOn_of_bare {ws : List String} (h : ∀ w ∈ ws, Bare w) (hne : ws ≠ []) :
    ([' '].intercalate (ws.map String.toList)).splitOn ' ' = ws.map String.toList := by
  refine List.splitOn_intercalate ' ' (fun l hl => ?_) (by simpa using hne)
  obtain ⟨w, hw, rfl⟩ := List.mem_map.mp hl
  exact fun hc => (h w hw ' ' hc).1 rfl

theorem filter_intercalate {ws : List String} (h : ∀ w ∈ ws, Bare w) :
    (", ".intercalate ws).toList.filter (· ≠ ',') = [' '].intercalate (ws.map String.toList) := by
  induction ws with
  | nil => rfl
  | cons w ws ih =>
    obtain ⟨hw, hws⟩ := List.forall_mem_cons.mp h
    cases ws with
    | nil => simpa using filter_of_bare hw
    | cons v vs =>
      rw [String.intercalate_cons_cons, String.toList_append, String.toList_append,
        List.filter_append, List.filter_append, filter_of_bare hw, ih hws]
      simp

theorem bare_mnemonic (i : Instruction) : Bare i.mnemonic := by
  cases i <;> simp [Bare, mnemonic]

theorem bare_of_isAlphanum {c : Char} (h : c.isAlphanum) : c ≠ ' ' ∧ c ≠ ',' := by
  constructor
  · rintro rfl
    exact absurd h (by decide)
  · rintro rfl
    exact absurd h (by decide)

/-- A number in decimal is made of digits and at most a minus sign. -/
theorem mem_toString {n : Int} {c : Char} (h : c ∈ (toString n).toList) :
    c = '-' ∨ c.isDigit := by
  rw [Int.toString_eq_repr, Int.repr_eq_if] at h
  split at h
  · rw [Nat.toList_repr] at h
    exact .inr (Nat.isDigit_of_mem_toDigits (by decide) (by decide) h)
  · rw [String.toList_append, Nat.toList_repr, List.mem_append] at h
    obtain h | h := h
    · exact .inl (List.mem_singleton.mp h)
    · exact .inr (Nat.isDigit_of_mem_toDigits (by decide) (by decide) h)

/-- A mark and a numeral after it are free of spaces and commas. -/
theorem bare_numeral {mark : String} (hmark : Bare mark) (width : Nat) (n : Int) :
    Bare (mark ++ Hex.text width n) := by
  intro c hc
  rw [String.toList_append, Hex.text, String.toList_ofList, List.mem_append] at hc
  obtain hc | hc := hc
  · exact hmark c hc
  · obtain ⟨-, rfl⟩ | ⟨d, hd, rfl⟩ := Hex.mem_chars hc
    · decide
    · exact bare_of_isAlphanum (Hex.isAlphanum_digit hd)

theorem bare_operand (f : Field) (n : Int) : Bare (f.operand n) := by
  cases f with
  | x => exact bare_numeral (by simp [Bare]) 0 n
  | y => exact bare_numeral (by simp [Bare]) 0 n
  | data => exact bare_numeral (by simp [Bare]) 2 n
  | address => exact bare_numeral (by simp [Bare]) 3 n
  | opcode => exact bare_numeral (by simp [Bare]) 4 n
  | rows =>
    intro c hc
    obtain rfl | hdigit := mem_toString hc
    · decide
    · exact bare_of_isAlphanum (by simp [Char.isAlphanum, hdigit])

/-- The parts of the machine that a column may name. -/
def parts : List String := ["V0", "I", "DT", "ST", "K", "F", "B", "[I]"]

/-- A column is an operand or one of the parts. -/
theorem mem_columns {i : Instruction} {s : String} (h : s ∈ i.columns) :
    s ∈ i.operands ∨ s ∈ parts := by
  cases i <;> simp [columns, parts] at h ⊢ <;> tauto

theorem bare_columns {i : Instruction} {s : String} (h : s ∈ i.columns) : Bare s := by
  obtain h | h := mem_columns h
  · obtain ⟨⟨f, n⟩, -, rfl⟩ := List.mem_map.mp h
    exact bare_operand f n
  · have hparts : ∀ p ∈ parts, Bare p := by simp [parts, Bare]
    exact hparts s h

/-- **The words of assembly are the mnemonic and the columns.** -/
theorem words_text (i : Instruction) :
    words i.text = (i.mnemonic :: i.columns).map String.toList := by
  have hbare : ∀ w ∈ i.mnemonic :: i.columns, Bare w :=
    List.forall_mem_cons.mpr ⟨bare_mnemonic i, fun _ => bare_columns⟩
  have hfilter : i.text.toList.filter (· ≠ ',') =
      [' '].intercalate ((i.mnemonic :: i.columns).map String.toList) := by
    rw [text]
    split
    case h_1 hnone =>
      rw [hnone]
      simpa using filter_of_bare (bare_mnemonic i)
    case h_2 hne =>
      have hcols : i.columns.map String.toList ≠ [] := fun h => hne (List.map_eq_nil_iff.mp h)
      rw [String.toList_append, String.toList_append, List.filter_append, List.filter_append,
        filter_of_bare (bare_mnemonic i), filter_intercalate fun _ => bare_columns, List.map_cons,
        List.intercalate_cons_of_ne_nil hcols]
      rfl
  rw [words, hfilter, splitOn_of_bare hbare (List.cons_ne_nil _ _)]

/-! ## Columns -/

/-- What a column says: an operand of one of four kinds, or a part of the machine. -/
inductive Column
  | register (n : Int)
  | data (n : Int)
  | word (n : Int)
  | rows (n : Int)
  | part (name : String)
  deriving DecidableEq

/-- What an operand says in its column; addresses and whole words are marked alike. -/
def Column.ofField : Field → Int → Column
  | .x, n => register n
  | .y, n => register n
  | .data, n => data n
  | .address, n => word n
  | .opcode, n => word n
  | .rows, n => rows n

/-- What the characters of a column say.  The register `V0` is a number like the others. -/
def Column.read : List Char → Column
  | 'V' :: ds => register (Hex.number ds)
  | '#' :: ds => data (Hex.number ds)
  | '$' :: ds => word (Hex.number ds)
  | cs =>
    if cs.all fun c => c = '-' || c.isDigit then rows ((String.ofList cs).toInt?.getD 0)
    else part (String.ofList cs)

/-- No mark is a minus sign or a digit, so that a row of these is a row count. -/
theorem Column.read_decimal {cs : List Char} (h : cs.all fun c => c = '-' || c.isDigit) :
    read cs = rows ((String.ofList cs).toInt?.getD 0) := by
  unfold read
  split
  case h_1 => exact absurd h (by simp)
  case h_2 => exact absurd h (by simp)
  case h_3 => exact absurd h (by simp)
  case h_4 => rw [if_pos h]

theorem Column.read_rows (n : Int) : read (toString n).toList = rows n := by
  have hall : (toString n).toList.all fun c => c = '-' || c.isDigit :=
    List.all_eq_true.mpr fun c hc => by simpa using mem_toString hc
  rw [read_decimal hall, String.ofList_toList, Int.toString_eq_repr, Int.toInt?_repr,
    Option.getD_some]

/-- **An operand is read back from its column.** -/
theorem Column.read_operand (f : Field) (n : Int) : read (f.operand n).toList = ofField f n := by
  cases f with
  | rows => exact read_rows n
  | _ =>
    simp only [Field.operand, Hex.text, String.toList_append, String.toList_ofList]
    exact congrArg _ (Hex.number_chars _ n)

/-! ## Instructions -/

/-- The instruction with a mnemonic and columns. -/
def ofColumns? : String → List Column → Option Instruction
  | "CLS", [] => some clearScreen
  | "RET", [] => some ret
  | "JP", [.word a] => some (jump a)
  | "CALL", [.word a] => some (call a)
  | "JP", [.register 0, .word a] => some (jumpFromOffset a)
  | "SE", [.register x, .data d] => some (skipIfEqualData x d)
  | "SNE", [.register x, .data d] => some (skipIfNotEqualData x d)
  | "SE", [.register x, .register y] => some (skipIfEqualRegister x y)
  | "SNE", [.register x, .register y] => some (skipIfNotEqualRegister x y)
  | "LD", [.register x, .data d] => some (loadData x d)
  | "ADD", [.register x, .data d] => some (addData x d)
  | "LD", [.register x, .register y] => some (loadRegister x y)
  | "OR", [.register x, .register y] => some (or x y)
  | "AND", [.register x, .register y] => some (and x y)
  | "XOR", [.register x, .register y] => some (xor x y)
  | "ADD", [.register x, .register y] => some (add x y)
  | "SUB", [.register x, .register y] => some (sub x y)
  | "SHR", [.register x] => some (shiftRight x)
  | "SUBN", [.register x, .register y] => some (negatedSub x y)
  | "SHL", [.register x] => some (shiftLeft x)
  | "LD", [.part "I", .word a] => some (setAddressRegister a)
  | "RND", [.register x, .data d] => some (random x d)
  | "DRW", [.register x, .register y, .rows r] => some (draw x y r)
  | "SKP", [.register x] => some (skipIfPressed x)
  | "SKNP", [.register x] => some (skipIfNotPressed x)
  | "LD", [.register x, .part "DT"] => some (loadDelayTimer x)
  | "LD", [.register x, .part "K"] => some (awaitKeyPress x)
  | "LD", [.part "DT", .register x] => some (setDelayTimer x)
  | "LD", [.part "ST", .register x] => some (setSoundTimer x)
  | "ADD", [.part "I", .register x] => some (addAddressRegister x)
  | "LD", [.part "F", .register x] => some (loadFontSprite x)
  | "LD", [.part "B", .register x] => some (storeBcd x)
  | "LD", [.part "[I]", .register x] => some (storeRegisters x)
  | "LD", [.register x, .part "[I]"] => some (readRegisters x)
  | "SYS", [.word w] => some (noOp w)
  | "UNKNOWN", [.word w] => some (unknown w)
  | _, _ => none

/-- The instruction that assembly names. -/
def ofText? (t : String) : Option Instruction :=
  match words t with
  | [] => none
  | m :: cols => ofColumns? (String.ofList m) (cols.map Column.read)

theorem ofColumns?_columns (i : Instruction) :
    ofColumns? i.mnemonic (i.columns.map fun c => Column.read c.toList) = some i := by
  cases i <;>
    simp only [columns, operands, fields, List.map_cons, List.map_nil, List.cons_append,
      List.nil_append, Column.read_operand] <;>
    rfl

/-- **What is written is read back**, with operands of any size and sign. -/
theorem ofText?_text (i : Instruction) : ofText? i.text = some i := by
  rw [ofText?, words_text, List.map_cons]
  simp only [List.map_map, String.ofList_toList]
  exact ofColumns?_columns i

/-- **One text belongs to one instruction.** -/
theorem text_inj {i j : Instruction} : i.text = j.text ↔ i = j := by
  refine ⟨fun h => Option.some.inj ?_, congrArg text⟩
  rw [← ofText?_text i, ← ofText?_text j, h]

end Chip8.Instruction
