import Mathlib
import Chip8.Machine.State
import Chip8.Proofs.Memory

/-!
# Proofs/Action — actions as functions on states

`Action.on` is an action applied to a state: what it gives, and the state it leaves behind even
where it fails.  A chain of actions is worked out by `on_bind` and one equation for each action on
registers, memory and counter; the operands are integers within the bounds of their field.
-/

namespace Chip8

/-! ## Faults that can be worded -/

theorem Decimal.isLong_eq_false {n : Int} (h : n.natAbs < 10 ^ 20) : isLong n = false := by
  have hle : 20 ≤ maxDigits := by decide
  unfold isLong firstLong
  generalize maxDigits = k at hle ⊢
  exact decide_eq_false (not_le.mpr (h.trans_le (Nat.pow_le_pow_right (by decide) hle)))

theorem Fault.raised_eq {f : Fault} (h : f.hasLongNumber = false) : f.raised = .fault f := by
  simp [raised, h]

/-! ## Registers by number -/

/-- The nibble of the low four bits. -/
def Nibble.ofInt (n : Int) : Nibble := ⟨(n % 16).toNat, by omega⟩

theorem Nibble.ofInt?_eq_some {n : Int} (h : 0 ≤ n ∧ n < 16) :
    Nibble.ofInt? n = some (Nibble.ofInt n) := by
  have hn : n.toNat = (n % 16).toNat := by omega
  simp [Nibble.ofInt?, Nibble.ofInt, h, hn]

theorem Nibble.ofInt?_eq_none {n : Int} (h : ¬ (0 ≤ n ∧ n < 16)) : Nibble.ofInt? n = none :=
  dif_neg h

namespace Registers

/-- The byte in the register of a number. -/
def byte (regs : Registers) (x : Int) : UInt8 := regs.data.read (Nibble.ofInt x)

theorem index_eq {x : Int} (h : 0 ≤ x ∧ x < 16) : index x = .ok (Nibble.ofInt x) := by
  simp [index, Nibble.ofInt?_eq_some h]

theorem read_eq (regs : Registers) {x : Int} (h : 0 ≤ x ∧ x < 16) :
    regs.read x = .ok ((regs.byte x).toNat : Int) := by
  simp only [read, index_eq h, bind, Except.bind, pure, Except.pure, byte]

end Registers

namespace State

/-- The state with a byte put into the register of a number. -/
def put (s : State) (x : Int) (b : UInt8) : State :=
  { s with registers := { s.registers with data := s.registers.data.write (Nibble.ofInt x) b } }

@[simp] theorem put_memory (s : State) (x : Int) (b : UInt8) : (s.put x b).memory = s.memory := rfl

@[simp] theorem put_i (s : State) (x : Int) (b : UInt8) :
    (s.put x b).registers.i = s.registers.i := rfl

theorem isPressed_eq (s : State) (c : Int) :
    s.isPressed c = if 0 ≤ c ∧ c < 16 then .ok (s.keys.read (Nibble.ofInt c))
      else .error (Fault.invalidKey c).raised := by
  by_cases h : 0 ≤ c ∧ c < 16
  · simp [isPressed, key, Nibble.ofInt?_eq_some h, h, bind, Except.bind, pure, Except.pure]
  · simp [isPressed, key, Nibble.ofInt?_eq_none h, h, bind, Except.bind]

theorem isPressed_byte (s : State) (b : UInt8) :
    s.isPressed b.toNat = if b.toNat < 16 then .ok (s.keys.read (Nibble.ofInt b.toNat))
      else .error (.fault (.invalidKey b.toNat)) := by
  have hb := b.toNat_lt
  have hshort : (Fault.invalidKey b.toNat).hasLongNumber = false :=
    Decimal.isLong_eq_false (by omega)
  have hiff : (0 ≤ (b.toNat : Int) ∧ (b.toNat : Int) < 16) ↔ b.toNat < 16 := by omega
  rw [isPressed_eq, Fault.raised_eq hshort]
  simp only [hiff]

end State

namespace Action

/-! ## Chains of actions -/

variable {α β : Type}

/-- What an action gives on a state, and the state it leaves. -/
def on (a : Action α) (s : State) : Except Failure α × State := a.run s

@[simp] theorem on_pure (x : α) (s : State) : (pure x : Action α).on s = (.ok x, s) := rfl

@[simp] theorem on_throw (e : Failure) (s : State) :
    (throw e : Action α).on s = (.error e, s) := rfl

@[simp] theorem on_get (s : State) : (get : Action State).on s = (.ok s, s) := rfl

@[simp] theorem on_modify (f : State → State) (s : State) :
    (modify f : Action Unit).on s = (.ok (), f s) := rfl

/-- **A failure ends a chain with the state it left**, and a value is handed on. -/
@[simp] theorem on_bind (a : Action α) (f : α → Action β) (s : State) :
    (a >>= f).on s = match a.on s with
      | (.ok x, s) => (f x).on s
      | (.error e, s) => (.error e, s) := by
  change (ExceptT.bindCont f (a.on s).1 : StateM State _) (a.on s).2 = _
  rcases a.on s with ⟨_ | _, _⟩ <;> rfl

@[simp] theorem on_ofResult (r : Except Failure α) (s : State) : (ofResult r).on s = (r, s) := by
  cases r <;> rfl

@[simp] theorem on_ofFault_ok (x : α) (s : State) : (ofFault (.ok x)).on s = (.ok x, s) := rfl

@[simp] theorem on_ofFault_error (f : Fault) (s : State) :
    (ofFault (.error f) : Action α).on s = (.error (.fault f), s) := rfl

@[simp] theorem on_ofRefusal_ok (x : α) (s : State) : (ofRefusal (.ok x)).on s = (.ok x, s) := rfl

/-! ## Registers, memory and counter -/

@[simp] theorem on_readRegister {x : Int} (h : 0 ≤ x ∧ x < 16) (s : State) :
    (readRegister x).on s = (.ok ((s.registers.byte x).toNat : Int), s) := by
  simp [readRegister, Registers.read_eq _ h]

@[simp] theorem on_writeRegister {x : Int} (h : 0 ≤ x ∧ x < 16) (v : Int) (s : State) :
    (writeRegister x v).on s = (.ok (), s.put x (UInt8.ofInt v)) := by
  simp only [writeRegister, Registers.write, Registers.index_eq h, bind, Except.bind, pure,
    Except.pure]
  rfl

@[simp] theorem on_writeFlag (b : Bool) (s : State) :
    (writeFlag b).on s = (.ok (), s.put 15 (if b then 1 else 0)) := by
  cases b <;> exact on_writeRegister (by decide) _ s

@[simp] theorem on_modifyRegisters (f : Registers → Registers) (s : State) :
    (modifyRegisters f).on s = (.ok (), { s with registers := f s.registers }) := rfl

@[simp] theorem on_readMemory (a : Int) (s : State) :
    (readMemory a).on s =
      if 0 ≤ a ∧ a < 0x1000 then (.ok ((s.memory.byte a).toNat : Int), s)
      else (.error (.fault (.invalidAddress a)), s) := by
  simp only [readMemory, on_bind, on_get, Memory.read_eq]
  by_cases h : 0 ≤ a ∧ a < 0x1000
  · simp only [if_pos h, on_ofResult, on_pure]
  · simp only [if_neg h, on_ofResult]

theorem on_writeMemory {s : State} (hs : s.memory.Guarded) (a v : Int) :
    (writeMemory a v).on s =
      if 0 ≤ a ∧ a < 0x1000 then
        if a < 0x200 then (.error (.fault (.readOnly a (UInt8.ofInt v).toNat)), s)
        else (.ok (), { s with memory := s.memory.store a (UInt8.ofInt v) })
      else (.error (.fault (.invalidAddress a)), s) := by
  by_cases h : 0 ≤ a ∧ a < 0x1000 <;> by_cases hp : a < 0x200 <;>
    simp [writeMemory, Memory.write_eq hs, h, hp]

@[simp] theorem on_jump (a : Int) (s : State) :
    (Action.jump a).on s =
      if 0x200 ≤ a ∧ a < 0x1000 then
        (.ok (), { s with memory := { s.memory with counter := a - 0x200 } })
      else (.error (.fault (.outsideProgram a)), s) := by
  by_cases h : 0x200 ≤ a ∧ a < 0x1000 <;> simp [Action.jump, Memory.jump, h]

@[simp] theorem on_skipIf (c : Bool) (s : State) :
    (skipIf c).on s = (.ok (), if c then { s with memory := s.memory.skip } else s) := by
  cases c <;> rfl

end Action

end Chip8
