import Mathlib
import Chip8.Proofs.Invariant

/-!
# Proofs/Faults — when a step fails, and how

`Machine.obstacle` is the class of the fault that the next step will meet, read off the word at the
counter, the address register, the newest return address and one byte register.  A reachable machine
fails on exactly these obstacles (`step_raises_iff`), and nothing is ever refused: what
could be (a sprite of too many rows, a register number above fifteen) no word can ask for.
-/

namespace Chip8

/-! ## Classes of faults -/

/-- The classes of faults; a word that is no instruction is part of its class. -/
inductive Fault.Kind
  | invalidRegister
  | memoryBounds
  | readOnlyMemory
  | stackOverflow
  | stackUnderflow
  | unknownOpcode (word : Int)
  | programExhausted
  | invalidKey
  deriving DecidableEq, Repr

/-- The class of a fault. -/
def Fault.kind : Fault → Kind
  | invalidRegister _ => .invalidRegister
  | noRegister _ => .invalidRegister
  | outsideProgram _ => .memoryBounds
  | invalidAddress _ => .memoryBounds
  | invalidRange .. => .memoryBounds
  | straddlingRange .. => .memoryBounds
  | deviceOffset .. => .memoryBounds
  | deviceRange .. => .memoryBounds
  | readOnly .. => .readOnlyMemory
  | stackOverflow _ => .stackOverflow
  | stackUnderflow => .stackUnderflow
  | unknownOpcode w => .unknownOpcode w
  | programExhausted _ => .programExhausted
  | invalidKey _ => .invalidKey
  | noKey _ => .invalidKey

/-! ## Obstacles -/

/-- The class of the fault that an instruction meets in a state. -/
def State.obstacle (s : State) : Instruction → Option Fault.Kind
  | .unknown w => some (.unknownOpcode w)
  | .call a =>
    if s.stack.depth = 16 then some .stackOverflow
    else if a < 0x200 then some .memoryBounds
    else none
  | .ret =>
    match s.stack.frames.getLast? with
    | none => some .stackUnderflow
    | some a => if a = 0x1000 then some .memoryBounds else none
  | .jump a => if a < 0x200 then some .memoryBounds else none
  | .jumpFromOffset a =>
    if 0x200 ≤ (s.registers.byte 0).toNat + a ∧ (s.registers.byte 0).toNat + a ≤ 0xFFF then none
    else some .memoryBounds
  | .skipIfPressed x => if 15 < (s.registers.byte x).toNat then some .invalidKey else none
  | .skipIfNotPressed x => if 15 < (s.registers.byte x).toNat then some .invalidKey else none
  | .draw _ _ rows =>
    if 0x1000 < s.registers.i + rows then some .memoryBounds
    else if s.registers.i < 0x200 ∧ 0x200 < s.registers.i + rows then some .memoryBounds
    else none
  | .storeBcd _ =>
    if s.registers.i < 0x200 then some .readOnlyMemory
    else if 0xFFD < s.registers.i then some .memoryBounds
    else none
  | .storeRegisters x =>
    if s.registers.i < 0x200 then some .readOnlyMemory
    else if 0xFFF < s.registers.i + x then some .memoryBounds
    else none
  | .readRegisters x => if 0xFFF < s.registers.i + x then some .memoryBounds else none
  | _ => none

/-- The class of the fault that the next step meets. -/
def Machine.obstacle (m : Machine) : Option Fault.Kind :=
  if 0xFFF ≤ m.counter then some .programExhausted else m.state.obstacle m.next

/-- A result is a value if there is no obstacle, and else a fault of its class. -/
def Meets {α : Type} (r : Except Failure α) : Option Fault.Kind → Prop
  | none => ∃ a, r = .ok a
  | some k => ∃ f, r = .error (.fault f) ∧ f.kind = k

theorem Meets.fault_iff {α : Type} {r : Except Failure α} {o : Option Fault.Kind} (h : Meets r o)
    (k : Fault.Kind) : (∃ f, r = .error (.fault f) ∧ f.kind = k) ↔ o = some k := by
  cases o with
  | none =>
    obtain ⟨a, rfl⟩ := h
    simp
  | some k' =>
    obtain ⟨f, rfl, rfl⟩ := h
    simp

theorem Meets.ok_iff {α : Type} {r : Except Failure α} {o : Option Fault.Kind} (h : Meets r o) :
    (∃ a, r = .ok a) ↔ o = none := by
  cases o with
  | none => exact ⟨fun _ => rfl, fun _ => h⟩
  | some k' =>
    obtain ⟨f, rfl, -⟩ := h
    simp

theorem Meets.map {α β : Type} {r : Except Failure α} {o : Option Fault.Kind} (h : Meets r o)
    (f : α → β) : Meets (r.map f) o := by
  cases o with
  | none =>
    obtain ⟨a, rfl⟩ := h
    exact ⟨f a, rfl⟩
  | some k =>
    obtain ⟨g, rfl, hk⟩ := h
    exact ⟨g, rfl, hk⟩

/-! ## Instructions -/

theorem Meets.jump {a : Int} {s : State} {o : Option Fault.Kind}
    (h : o = if 0x200 ≤ a ∧ a < 0x1000 then none else some .memoryBounds) :
    Meets ((Action.jump a).on s).1 o := by
  rw [h, Action.on_jump]
  split_ifs
  · exact ⟨(), rfl⟩
  · exact ⟨_, rfl, rfl⟩

open Chip8.Action in
/-- **An instruction fails on its obstacle and on nothing else.** -/
theorem Instruction.execute_meets {i : Instruction} (hi : i.Fits) {s : State} (h : s.Valid) :
    Meets (i.execute.on s).1 (s.obstacle i) := by
  have hI := h.address
  cases i <;> simp only [Fits, fields, Field.bound, List.mem_cons, List.not_mem_nil, or_false,
    forall_eq_or_imp, forall_eq] at hi
  case unknown w => exact ⟨_, rfl, rfl⟩
  case jump a =>
    refine Meets.jump ?_
    rw [State.obstacle]
    split_ifs <;> first | rfl | omega
  case jumpFromOffset a =>
    simp only [execute, on_bind, on_readRegister (x := 0) (by decide)]
    refine Meets.jump ?_
    simp only [State.obstacle]
    split_ifs <;> first | rfl | omega
  case ret =>
    obtain ⟨hf, hp⟩ | ⟨a, t, hf, hp⟩ := s.stack.pop_cases
    · simp only [State.obstacle, execute, on_bind, on_get, hf, hp, List.getLast?_nil]
      exact ⟨_, rfl, rfl⟩
    · have ha := h.frames a (by simp [hf])
      simp only [State.obstacle, execute, on_bind, on_get, hf, hp, on_ofFault_ok, on_modify,
        List.getLast?_append, List.getLast?_singleton, Option.some_or]
      refine Meets.jump ?_
      split_ifs <;> first | rfl | omega
  case call a =>
    by_cases hd : s.stack.depth = 16
    · simp only [State.obstacle, execute, on_bind, on_get, CallStack.push_of_full hd, if_pos hd]
      exact ⟨_, rfl, rfl⟩
    · have hlt : s.stack.depth < 16 := lt_of_le_of_ne s.stack.depth_le hd
      obtain ⟨t, hp, -⟩ := CallStack.push_of_lt hlt s.memory.counterAddress
      simp only [State.obstacle, execute, on_bind, on_get, hp, on_ofFault_ok, on_modify, if_neg hd]
      refine Meets.jump ?_
      split_ifs <;> first | rfl | omega
  case skipIfPressed x | skipIfNotPressed x =>
    by_cases hk : 15 < (s.registers.byte x).toNat
    · have hn : ¬ (s.registers.byte x).toNat < 16 := by omega
      simp only [State.obstacle, execute, on_bind, on_get, on_readRegister hi, on_ofResult,
        State.isPressed_byte, if_neg hn, if_pos hk]
      exact ⟨_, rfl, rfl⟩
    · have hn : (s.registers.byte x).toNat < 16 := by omega
      simp only [State.obstacle, execute, on_bind, on_get, on_readRegister hi, on_ofResult,
        State.isPressed_byte, if_pos hn, if_neg hk, on_skipIf]
      exact ⟨_, rfl⟩
  case draw x y rows =>
    rw [execute, on_drawSprite hi.1 hi.2.1 hi.2.2 hI.1]
    simp only [State.obstacle]
    split_ifs <;> first | exact ⟨_, rfl⟩ | exact ⟨_, rfl, rfl⟩
  case storeBcd x =>
    rw [on_storeBcd hi, on_writeRow h.guarded hI.1]
    simp only [State.obstacle, List.length_cons, List.length_nil]
    split_ifs <;> first | exact ⟨_, rfl⟩ | exact ⟨_, rfl, rfl⟩ | omega
  case storeRegisters x =>
    rw [on_storeRegisters hi h.guarded, on_writeRow h.guarded hI.1]
    simp only [State.obstacle, length_values]
    split_ifs <;> first | exact ⟨_, rfl⟩ | exact ⟨_, rfl, rfl⟩ | omega
  case readRegisters x =>
    rw [on_readRegisters hi hI.1]
    simp only [State.obstacle]
    split_ifs <;> first | exact ⟨_, rfl⟩ | exact ⟨_, rfl, rfl⟩ | omega
  -- all others have no way to fail
  all_goals
    simp only [execute, settle, awaitKey, on_bind, on_get, on_readRegister, on_writeRegister,
      on_writeFlag, on_modify, on_modifyRegisters, on_pure, on_skipIf, Registers.index_eq,
      on_ofResult, hi, and_self]
    exact ⟨_, rfl⟩

/-! ## Steps -/

theorem State.obstacle_fetched (s : State) (i : Instruction) :
    s.fetched.obstacle i = s.obstacle i := by
  cases i <;> rfl

theorem State.obstacle_unknown {s : State} {i : Instruction} {w : Int}
    (h : s.obstacle i = some (.unknownOpcode w)) : i = .unknown w := by
  unfold State.obstacle at h
  repeat' split at h
  all_goals cases h
  rfl

theorem Instruction.decode_unknown {w v : Int} (h : decode w = .unknown v) : v = w := by
  unfold decode decodeSystem decodeArithmetic decodeKey decodeMisc at h
  repeat' split at h
  all_goals cases h
  all_goals rfl

namespace Machine

theorem step_meets {m : Machine} (h : m.state.Valid) : Meets m.step.result m.obstacle := by
  have hc := h.counter.1
  by_cases hlt : m.counter < 0xFFF
  · rw [step_result hc hlt, obstacle, if_neg (not_le.mpr hlt), ← State.obstacle_fetched]
    exact (Instruction.execute_meets m.next_fits (fetched_valid h hlt).1).map _
  · rw [step_of_exhausted hc (not_lt.mp hlt), obstacle, if_pos (not_lt.mp hlt)]
    exact ⟨_, rfl, rfl⟩

/-- A step fails with a fault of a class. -/
def Raises (m : Machine) (k : Fault.Kind) : Prop :=
  ∃ f, m.step.result = .error (.fault f) ∧ f.kind = k

/-- **A reachable machine fails a step with the fault of its obstacle, and with nothing else**: it
completes the instruction if there is none. -/
theorem step_raises_iff {m : Machine} (h : m.Reachable) :
    (∀ k, m.Raises k ↔ m.obstacle = some k) ∧
      (∀ w, m.Raises (.unknownOpcode w) → w = m.state.memory.wordAt m.counter) ∧
      ((∃ snapshot, m.step.result = .ok snapshot) ↔ m.obstacle = none) := by
  have hm := step_meets h.valid
  refine ⟨hm.fault_iff, fun w hw => ?_, hm.ok_iff⟩
  have ho := (hm.fault_iff _).mp hw
  rw [obstacle] at ho
  split at ho
  · cases ho
  · exact Instruction.decode_unknown (State.obstacle_unknown ho)

/-- A return without a call. -/
theorem step_raises_return :
    let m := fresh #[0x00, 0xEE] 2000 (by decide) (.cycling #[])
    m.Reachable ∧ m.Raises .stackUnderflow :=
  have hm := reachable_fresh _ (n := 500) (by decide) _
  ⟨hm, ((step_raises_iff hm).1 _).mpr (by rw [obstacle, next_fresh]; rfl)⟩

end Machine

end Chip8
