import Mathlib
import Chip8.Instruction.Decoding
import Chip8.Machine.Execution
import Chip8.Proofs.Action

/-!
# Proofs/Execution — what a decoded instruction does to a state

A decoded instruction `Fits`: every operand lies within the bounds of its field.  The instructions
that are one or two actions on registers and counter are worked out by `Proofs/Action`; here are
those that go along a row of bytes.  Writing a row (`on_writeRow`) is the common form of storing
registers and decimal digits: it ends at the first address it may not write, and what was written
before stays.
-/

namespace Chip8

/-! ## Operands -/

/-- The number of values that an operand of a decoded instruction can have. -/
def Field.bound : Field → Int
  | x => 0x10
  | y => 0x10
  | data => 0x100
  | address => 0x1000
  | rows => 0x10
  | opcode => 0x10000

/-- Every operand lies within the bounds of its field. -/
def Instruction.Fits (i : Instruction) : Prop := ∀ p ∈ i.fields, 0 ≤ p.2 ∧ p.2 < p.1.bound

/-- **A decoded instruction fits its fields.** -/
theorem Instruction.decode_fits {w : Int} (h : 0 ≤ w ∧ w ≤ 0xFFFF) : (decode w).Fits := by
  unfold decode decodeSystem decodeArithmetic decodeKey decodeMisc
  repeat' split
  all_goals
    simp only [Fits, fields, Field.bound, Opcode.address, Opcode.high, Opcode.low, Opcode.data,
      Opcode.nibble, List.mem_cons, List.not_mem_nil, or_false, forall_eq_or_imp, forall_eq,
      false_imp_iff, implies_true]
    try omega

theorem UInt8.ofInt_toNat (b : UInt8) : UInt8.ofInt (b.toNat : Int) = b := by
  have h := b.toNat_lt
  rw [UInt8.ofInt, Int.emod_eq_of_lt (by omega) (by simpa using h), Int.toNat_natCast,
    UInt8.ofNat_toNat]

/-! ## The call stack -/

namespace CallStack

theorem length_frames (s : CallStack) : s.frames.length = s.depth := by
  have h := s.depth_le
  simp [frames, h]

/-- A push on a stack with room adds the low sixteen bits of the address. -/
theorem push_of_lt {s : CallStack} (h : s.depth < 16) (a : Int) :
    ∃ t, s.push a = .ok t ∧ t.frames = s.frames ++ [a % 0x10000] := by
  refine ⟨_, dif_pos h, ?_⟩
  have hbits : ((UInt16.ofInt a).toNat : Int) = a % 0x10000 := by
    simp [UInt16.ofInt]
    omega
  have hlen : s.depth < s.slots.toList.length := by simpa using h
  rw [frames, frames, Vector.toList_set, List.take_add_one, List.take_set_of_le (le_refl _),
    List.getElem?_set_self hlen, List.map_append]
  simp [hbits]

theorem push_of_full {s : CallStack} (h : s.depth = 16) (a : Int) :
    s.push a = .error (.stackOverflow a) := dif_neg (by omega)

/-- **A pop takes the newest frame off**, if there is one. -/
theorem pop_cases (s : CallStack) :
    (s.frames = [] ∧ s.pop = .error .stackUnderflow) ∨
      ∃ a t, s.frames = t.frames ++ [a] ∧ s.pop = .ok (a, t) := by
  rcases s with ⟨slots, _ | n, h⟩
  · exact .inl ⟨rfl, rfl⟩
  · refine .inr ⟨_, _, ?_, rfl⟩
    have hlen : n < slots.toList.length := by simp; omega
    rw [frames, List.take_add_one, List.getElem?_eq_getElem hlen, List.map_append]
    rfl

end CallStack

/-! ## Rows of bytes written to the memory -/

/-- The memory with the bytes of a row replaced from an address on, as far as there are any. -/
def Memory.storeRow (m : Memory) (a : Int) : List UInt8 → Memory
  | [] => m
  | b :: row => (m.store a b).storeRow (a + 1) row

namespace Memory

theorem store_of_le (m : Memory) {a : Int} (h : 0x1000 ≤ a) (b : UInt8) : m.store a b = m := by
  have hle : 0xE00 ≤ (a - 0x200).toNat := by omega
  simp [store, Vector.setIfInBounds_eq_of_size_le hle]

theorem storeRow_of_le (row : List UInt8) : ∀ (m : Memory) {a : Int}, 0x1000 ≤ a →
    m.storeRow a row = m := by
  induction row with
  | nil => exact fun _ _ _ => rfl
  | cons b row ih =>
    intro m a h
    rw [storeRow, m.store_of_le h, ih m (by omega)]

/-- **A row stored in the program region is found there**, up to the end of the memory, and every
other byte is as it was. -/
theorem byte_storeRow (row : List UInt8) : ∀ (m : Memory) {a : Int}, 0x200 ≤ a →
    ∀ {c : Int}, c < 0x1000 → (m.storeRow a row).byte c =
      if c < a then m.byte c else row[(c - a).toNat]?.getD (m.byte c) := by
  induction row with
  | nil => exact fun _ _ _ _ _ => by simp [storeRow]
  | cons b row ih =>
    intro m a ha c hc
    by_cases hend : 0x1000 ≤ a
    · rw [storeRow_of_le _ _ hend, if_pos (by omega)]
    · rw [storeRow, ih (m.store a b) (by omega) hc, m.byte_store (by omega) b]
      rcases lt_trichotomy c a with hlt | rfl | hgt
      · rw [if_pos (by omega), if_neg hlt.ne, if_pos hlt]
      · simp
      · have hsucc : (c - a).toNat = (c - (a + 1)).toNat + 1 := by omega
        rw [if_neg (by omega), if_neg hgt.ne', if_neg (by omega), hsucc,
          List.getElem?_cons_succ]

theorem storeRow_words (row : List UInt8) : ∀ (m : Memory) (a : Int),
    (m.storeRow a row).words = m.words := by
  induction row with
  | nil => exact fun _ _ => rfl
  | cons b row ih => exact fun m a => ih (m.store a b) (a + 1)

theorem Guarded.store {m : Memory} (h : m.Guarded) (a : Int) (b : UInt8) :
    (m.store a b).Guarded := h

end Memory

namespace Action

/-- Writes a row of values from an address on. -/
def writeRow (a : Int) : List Int → Action Unit
  | [] => pure ()
  | v :: row => do
    writeMemory a v
    writeRow (a + 1) row

theorem on_writeRow_of_lt {s : State} (hs : s.memory.Guarded) {a : Int} (h0 : 0 ≤ a)
    (h : a < 0x200) (v : Int) (row : List Int) :
    (writeRow a (v :: row)).on s = (.error (.fault (.readOnly a (UInt8.ofInt v).toNat)), s) := by
  have hin : 0 ≤ a ∧ a < 0x1000 := by omega
  simp only [writeRow, on_bind, on_writeMemory hs, if_pos hin, if_pos h]

/-- **A row that starts in the program region is written up to the end of the memory**, and fails
if it goes on behind it. -/
theorem on_writeRow_of_le (row : List Int) :
    ∀ {s : State}, s.memory.Guarded → ∀ {a : Int}, 0x200 ≤ a → ∀ v : Int,
    (writeRow a (v :: row)).on s =
      (if a + row.length < 0x1000 then .ok () else .error (.fault (.invalidAddress (max a 0x1000))),
        { s with memory := s.memory.storeRow a ((v :: row).map UInt8.ofInt) }) := by
  induction row with
  | nil =>
    intro s hs a ha v
    by_cases h : a < 0x1000
    · simp [writeRow, on_writeMemory hs, h, show 0 ≤ a by omega, show ¬ a < 0x200 by omega,
        Memory.storeRow]
    · simp [writeRow, on_writeMemory hs, h, Memory.storeRow, s.memory.store_of_le (not_lt.mp h),
        max_eq_left (not_lt.mp h)]
  | cons w row ih =>
    intro s hs a ha v
    rw [writeRow, on_bind, on_writeMemory hs]
    by_cases h : a < 0x1000
    · have hin : 0 ≤ a ∧ a < 0x1000 := by omega
      have hmax : max (a + 1) 0x1000 = max a 0x1000 := by omega
      have hlen : a + 1 + row.length = a + (w :: row).length := by simp; omega
      rw [if_pos hin, if_neg (not_lt.mpr ha)]
      refine (ih (s := { s with memory := s.memory.store a (UInt8.ofInt v) })
        (hs.store a _) (by omega) w).trans ?_
      rw [hmax, hlen]
      rfl
    · have hin : ¬ (0 ≤ a ∧ a < 0x1000) := by omega
      have hlen : ¬ a + (w :: row).length < 0x1000 := by omega
      rw [if_neg hin, if_neg hlen, max_eq_left (not_lt.mp h),
        Memory.storeRow_of_le _ _ (not_lt.mp h)]

/-- **A row that starts in the interpreter region is not written at all.** -/
theorem on_writeRow {s : State} (hs : s.memory.Guarded) {a : Int} (h0 : 0 ≤ a) (v : Int)
    (row : List Int) :
    (writeRow a (v :: row)).on s =
      if a < 0x200 then (.error (.fault (.readOnly a (UInt8.ofInt v).toNat)), s)
      else (if a + row.length < 0x1000 then .ok ()
        else .error (.fault (.invalidAddress (max a 0x1000))),
        { s with memory := s.memory.storeRow a ((v :: row).map UInt8.ofInt) }) := by
  split
  · rw [on_writeRow_of_lt hs h0 ‹_›]
  · rw [on_writeRow_of_le row hs (not_lt.mp ‹_›)]

/-- The values of some registers in a row. -/
def values (regs : Registers) (r n : Nat) : List Int :=
  (List.range' r n).map fun k => ((regs.byte k).toNat : Int)

theorem length_values (regs : Registers) (r n : Nat) : (values regs r n).length = n := by
  simp [values]

theorem on_storeFrom (n : Nat) : ∀ {s : State}, s.memory.Guarded → ∀ {r : Nat}, r + n ≤ 16 →
    (storeFrom r n).on s = (writeRow (s.registers.i + r) (values s.registers r n)).on s := by
  induction n with
  | zero => exact fun _ _ _ => rfl
  | succ n ih =>
    intro s hs r hr
    have hx : 0 ≤ (r : Int) ∧ (r : Int) < 16 := by omega
    have hv : values s.registers r (n + 1)
        = ((s.registers.byte r).toNat : Int) :: values s.registers (r + 1) n := rfl
    rw [hv, storeFrom, writeRow]
    simp only [on_bind, on_readRegister hx, on_get, on_writeMemory hs]
    by_cases hin : 0 ≤ s.registers.i + r ∧ s.registers.i + r < 0x1000
    · by_cases hp : s.registers.i + r < 0x200
      · simp only [if_pos hin, if_pos hp]
      · simp only [if_pos hin, if_neg hp]
        refine (ih (s := { s with memory := s.memory.store _ _ }) (hs.store _ _)
          (by omega)).trans ?_
        simp only [Nat.cast_add, Nat.cast_one, add_assoc]
    · simp only [if_neg hin]

/-- Storing registers is writing the row of their values. -/
theorem on_storeRegisters {x : Int} (hx : 0 ≤ x ∧ x < 16) {s : State} (hs : s.memory.Guarded) :
    (Instruction.storeRegisters x).execute.on s = (writeRow s.registers.i
      ((s.registers.byte 0).toNat :: values s.registers 1 x.toNat)).on s := by
  have hn : (x + 1).toNat = x.toNat + 1 := by omega
  rw [Instruction.execute, hn, on_storeFrom _ hs (by omega), Nat.cast_zero, add_zero]
  rfl

/-- Storing the decimal digits of a value is writing the row of them. -/
theorem on_storeBcd {x : Int} (hx : 0 ≤ x ∧ x < 16) (s : State) :
    (Instruction.storeBcd x).execute.on s = (writeRow s.registers.i
      [(s.registers.byte x).toNat / 100, (s.registers.byte x).toNat / 10 % 10,
        (s.registers.byte x).toNat % 10]).on s := by
  have h2 : s.registers.i + 2 = s.registers.i + 1 + 1 := by omega
  simp only [Instruction.execute, writeRow, bind_pure_unit, on_bind, on_readRegister hx, on_get, h2]

end Action

/-! ## Rows of bytes read from the memory -/

/-- The state with registers filled from the row of bytes at `I`, as far as there are any. -/
def State.loadRow (s : State) : Nat → Nat → State
  | _, 0 => s
  | r, n + 1 =>
    if s.registers.i + r < 0x1000 then
      (s.put r (s.memory.byte (s.registers.i + r))).loadRow (r + 1) n
    else s

namespace Action

/-- **Registers are loaded up to the end of the memory**, and the load fails if it goes on behind
it. -/
theorem on_loadFrom (n : Nat) : ∀ {s : State}, 0 ≤ s.registers.i → ∀ {r : Nat}, r + n < 16 →
    (loadFrom r (n + 1)).on s =
      (if s.registers.i + r + n < 0x1000 then .ok ()
        else .error (.fault (.invalidAddress (max (s.registers.i + r) 0x1000))),
        s.loadRow r (n + 1)) := by
  induction n with
  | zero =>
    intro s hi r hr
    have hx : 0 ≤ (r : Int) ∧ (r : Int) < 16 := by omega
    by_cases h : s.registers.i + r < 0x1000
    · simp [loadFrom, h, show 0 ≤ s.registers.i + (r : Int) by omega, hx, State.loadRow,
        UInt8.ofInt_toNat]
    · simp [loadFrom, h, State.loadRow, max_eq_left (not_lt.mp h)]
  | succ n ih =>
    intro s hi r hr
    have hx : 0 ≤ (r : Int) ∧ (r : Int) < 16 := by omega
    rw [loadFrom, State.loadRow]
    by_cases h : s.registers.i + r < 0x1000
    · have hin : 0 ≤ s.registers.i + r ∧ s.registers.i + r < 0x1000 := by omega
      simp only [on_bind, on_get, on_readMemory, if_pos hin, on_writeRegister hx, if_pos h,
        UInt8.ofInt_toNat]
      rw [ih (by exact hi) (by omega)]
      have hmax : max (s.registers.i + (r + 1 : Nat)) 0x1000 = max (s.registers.i + r) 0x1000 := by
        omega
      have hlen : s.registers.i + (r + 1 : Nat) + n = s.registers.i + r + (n + 1 : Nat) := by omega
      rw [State.put_i, hmax, hlen]
    · have hin : ¬ (0 ≤ s.registers.i + r ∧ s.registers.i + r < 0x1000) := by omega
      have hlen : ¬ s.registers.i + r + (n + 1 : Nat) < 0x1000 := by omega
      simp only [on_bind, on_get, on_readMemory, if_neg hin, if_neg h, if_neg hlen,
        max_eq_left (not_lt.mp h)]

theorem on_readRegisters {x : Int} (hx : 0 ≤ x ∧ x < 16) {s : State} (hi : 0 ≤ s.registers.i) :
    (Instruction.readRegisters x).execute.on s =
      (if s.registers.i + x < 0x1000 then .ok ()
        else .error (.fault (.invalidAddress (max s.registers.i 0x1000))),
        s.loadRow 0 (x.toNat + 1)) := by
  have hn : (x + 1).toNat = x.toNat + 1 := by omega
  rw [Instruction.execute, hn, on_loadFrom _ hi (by omega), Nat.cast_zero, add_zero,
    Int.toNat_of_nonneg hx.1]

end Action

/-! ## Sprites -/

/-- The sprite of a number of rows at `I`. -/
def State.sprite (s : State) (rows : Int) : List UInt8 :=
  (s.memory.toList.drop s.registers.i.toNat).take rows.toNat

/-- The screen and the collision of drawing the sprite at `I`. -/
def State.stroke (s : State) (x y rows : Int) : Display.Stroke :=
  Display.Stroke.rows { display := s.display, erased := false }
    (s.registers.byte x).toNat (s.registers.byte y).toNat (s.sprite rows)

/-- The state in which the sprite at `I` is drawn. -/
def State.drawn (s : State) (x y rows : Int) : State :=
  { s with display := (s.stroke x y rows).display }.put 15
    (if (s.stroke x y rows).erased then 1 else 0)

/-- **A sprite is drawn if it lies in one region**, and else nothing is. -/
theorem Action.on_drawSprite {x y rows : Int} (hx : 0 ≤ x ∧ x < 16) (hy : 0 ≤ y ∧ y < 16)
    (hrows : 0 ≤ rows ∧ rows < 16) {s : State} (hi : 0 ≤ s.registers.i) :
    (drawSprite x y rows).on s =
      if 0x1000 < s.registers.i + rows then
        (.error (.fault (.invalidRange s.registers.i (s.registers.i + rows))), s)
      else if s.registers.i < 0x200 ∧ 0x200 < s.registers.i + rows then
        (.error (.fault (.straddlingRange s.registers.i (s.registers.i + rows))), s)
      else (.ok (), s.drawn x y rows) := by
  have hlen : (s.sprite rows).length ≤ 15 := by simp [State.sprite]; omega
  have hdiff : s.registers.i + rows - s.registers.i = rows := by omega
  by_cases hend : 0x1000 < s.registers.i + rows
  · simp [drawSprite, Memory.slice_eq, hend, hi, hrows, not_le.mpr hend]
  · by_cases hspan : s.registers.i < 0x200 ∧ 0x200 < s.registers.i + rows
    · simp [drawSprite, Memory.slice_eq, hend, hi, hrows, not_lt.mp hend, hspan]
    · have hdraw : s.display.draw (s.registers.byte x).toNat (s.registers.byte y).toNat
          (s.sprite rows) = .ok ((s.stroke x y rows).erased, (s.stroke x y rows).display) :=
        if_pos hlen
      have hslice : s.memory.slice s.registers.i (s.registers.i + rows) = .ok (s.sprite rows) := by
        rw [Memory.slice_eq, if_pos (by omega), if_neg hspan, hdiff, State.sprite]
      simp only [drawSprite, on_bind, on_get, hslice, on_ofResult, on_readRegister hx,
        on_readRegister hy, hdraw, on_ofRefusal_ok, on_modify, on_writeFlag, if_neg hend,
        if_neg hspan, State.drawn]

end Chip8
