import Mathlib
import Chip8.Proofs.Faults
import Chip8.Proofs.Time

/-!
# Proofs/Effect — the state that an instruction leaves, as one function of the state before it

`State.effect` gives every instruction the state it leaves, also where it fails.  Together with
`State.obstacle`, which says whether it fails, it is all that a step does to a valid machine
(`step_of_none`, `step_machine_of_some`), so that what follows is read off these two functions and
no action is opened again.  `Machine.Runs` are the two ways in which one instruction is carried out,
and `Machine.doesIf_of_effect` tells what it does once for both.
-/

namespace Chip8

namespace State

/-! ## Kinds of effects -/

/-- The value in the register of a number. -/
def value (s : State) (x : Int) : Int := (s.registers.byte x).toNat

theorem value_fetched (s : State) (x : Int) : s.fetched.value x = s.value x := rfl

theorem value_put (s : State) (x : Int) (b : UInt8) : (s.put x b).value x = b.toNat := by
  simp [value, put, Registers.byte, Bank.read, Bank.write]

theorem value_put_of_ne (s : State) {x y : Int} (hx : 0 ≤ x ∧ x < 16) (hy : 0 ≤ y ∧ y < 16)
    (hne : x ≠ y) (b : UInt8) : (s.put x b).value y = s.value y := by
  have hindex : (Nibble.ofInt x : Nat) ≠ Nibble.ofInt y := by
    simp only [Nibble.ofInt]
    omega
  simp only [value, put, Registers.byte, Bank.read, Bank.write, Fin.getElem_fin,
    Vector.getElem_set_ne _ _ hindex]

theorem value_bounds (s : State) (x : Int) : 0 ≤ s.value x ∧ s.value x < 0x100 := by
  have h := (s.registers.byte x).toNat_lt
  simp only [value]
  omega

/-- The state with the counter at an offset into the program region. -/
def withCounter (s : State) (c : Int) : State := { s with memory := { s.memory with counter := c } }

theorem value_withCounter (s : State) (c x : Int) : (s.withCounter c).value x = s.value x := rfl

/-- The state with the counter at an address of the program region, and unchanged for any other. -/
def jumped (s : State) (a : Int) : State :=
  if 0x200 ≤ a ∧ a < 0x1000 then { s with memory := { s.memory with counter := a - 0x200 } } else s

/-- The state with the next instruction passed over where a condition holds. -/
def skipped (s : State) (c : Bool) : State := if c then { s with memory := s.memory.skip } else s

/-- The state with a flag and, put behind it, a result. -/
def settled (s : State) (x : Int) (flag : Bool) (result : Int) : State :=
  (s.put 15 (if flag then 1 else 0)).put x (UInt8.ofInt result)

/-- The state with a row of bytes written to the addresses from `I` on; nothing is written if the
row starts in the interpreter region. -/
def stored (s : State) (row : List UInt8) : State :=
  if s.registers.i < 0x200 then s
  else { s with memory := s.memory.storeRow s.registers.i row }

/-- The decimal digits of the value in a register. -/
def digits (s : State) (x : Int) : List UInt8 :=
  [s.value x / 100, s.value x / 10 % 10, s.value x % 10].map UInt8.ofInt

/-- The bytes in the registers up to that of a number. -/
def bytesUpTo (s : State) (x : Int) : List UInt8 :=
  (List.range (x.toNat + 1)).map fun k => s.registers.byte k

/-! ## Effects -/

/-- The state that an instruction leaves, whether it fails or not. -/
def effect (s : State) : Instruction → State
  | .clearScreen => { s with display := Display.blank }
  | .ret =>
    match s.stack.pop with
    | .ok (a, stack) => { s with stack }.jumped a
    | .error _ => s
  | .jump a => s.jumped a
  | .call a =>
    match s.stack.push s.memory.counterAddress with
    | .ok stack => { s with stack }.jumped a
    | .error _ => s
  | .jumpFromOffset a => s.jumped (s.value 0 + a)
  | .skipIfEqualData x d => s.skipped (s.value x == d)
  | .skipIfNotEqualData x d => s.skipped (s.value x != d)
  | .skipIfEqualRegister x y => s.skipped (s.value x == s.value y)
  | .skipIfNotEqualRegister x y => s.skipped (s.value x != s.value y)
  | .loadData x d => s.put x (UInt8.ofInt d)
  | .addData x d => s.put x (UInt8.ofInt (s.value x + d))
  | .loadRegister x y => s.put x (s.registers.byte y)
  | .or x y => s.put x (s.registers.byte x ||| s.registers.byte y)
  | .and x y => s.put x (s.registers.byte x &&& s.registers.byte y)
  | .xor x y => s.put x (s.registers.byte x ^^^ s.registers.byte y)
  | .add x y => s.settled x (s.value x + s.value y > 0xFF) (s.value x + s.value y)
  | .sub x y => s.settled x (s.value x > s.value y) (s.value x - s.value y)
  | .shiftRight x => s.settled x (s.value x % 2 == 1) (s.value x / 2)
  | .negatedSub x y => s.settled x (s.value y > s.value x) (s.value y - s.value x)
  | .shiftLeft x => s.settled x (s.value x / 0x80 == 1) (2 * s.value x)
  | .setAddressRegister a => { s with registers := { s.registers with i := a } }
  | .random x d =>
    let (v, generator) := s.generator.between 0 0xFF
    { s with generator }.put x (UInt8.ofInt (v.toNat &&& (d % 0x100).toNat : Nat))
  | .draw x y rows =>
    if 0x1000 < s.registers.i + rows then s
    else if s.registers.i < 0x200 ∧ 0x200 < s.registers.i + rows then s
    else s.drawn x y rows
  | .skipIfPressed x =>
    if 15 < s.value x then s else s.skipped (s.keys.read (Nibble.ofInt (s.value x)))
  | .skipIfNotPressed x =>
    if 15 < s.value x then s else s.skipped !(s.keys.read (Nibble.ofInt (s.value x)))
  | .loadDelayTimer x => s.put x (UInt8.ofInt s.registers.delay)
  | .awaitKeyPress x => { s with awaiting := some (Nibble.ofInt x) }
  | .setDelayTimer x => { s with registers := { s.registers with delay := s.value x } }
  | .setSoundTimer _ => s
  | .addAddressRegister x =>
    { s with registers := { s.registers with i := (s.registers.i + s.value x) % 0x10000 } }
  | .loadFontSprite x => { s with registers := { s.registers with i := 5 * (s.value x % 0x10) } }
  | .storeBcd x => s.stored (s.digits x)
  | .storeRegisters x => s.stored (s.bytesUpTo x)
  | .readRegisters x => s.loadRow 0 (x.toNat + 1)
  | .noOp _ => s
  | .unknown _ => s

theorem bytesUpTo_eq (s : State) (x : Int) : s.bytesUpTo x
    = (((s.registers.byte 0).toNat : Int) :: Action.values s.registers 1 x.toNat).map
      UInt8.ofInt := by
  have hrange : List.range (x.toNat + 1) = 0 :: List.range' 1 x.toNat := by
    rw [List.range_eq_range', List.range'_succ]
  simp [bytesUpTo, Action.values, hrange, UInt8.ofInt_toNat]

end State

namespace Action

theorem on_jump_state (a : Int) (s : State) : ((Action.jump a).on s).2 = s.jumped a := by
  rw [on_jump, State.jumped]
  split <;> rfl

theorem on_skipIf_state (c : Bool) (s : State) : ((skipIf c).on s).2 = s.skipped c := by
  rw [on_skipIf, State.skipped]

theorem on_settle_state {x : Int} (hx : 0 ≤ x ∧ x < 16) (flag : Bool) (result : Int) (s : State) :
    ((settle x flag result).on s).2 = s.settled x flag result := by
  simp only [settle, on_bind, on_writeFlag, on_writeRegister hx, State.settled]

end Action

open Chip8.Action in
/-- **An instruction leaves its effect, whether it fails or not.** -/
theorem Instruction.execute_effect {i : Instruction} (hi : i.Fits) {s : State} (h : s.Valid) :
    (i.execute.on s).2 = s.effect i := by
  have hI := h.address.1
  cases i <;> simp only [Fits, fields, Field.bound, List.mem_cons, List.not_mem_nil, or_false,
    forall_eq_or_imp, forall_eq] at hi
  case ret =>
    simp only [execute, State.effect, on_bind, on_get]
    rcases s.stack.pop with f | ⟨a, t⟩
    · rfl
    · simp only [on_ofFault_ok, on_modify, on_jump_state]
  case call a =>
    simp only [execute, State.effect, on_bind, on_get]
    rcases s.stack.push s.memory.counterAddress with f | t
    · rfl
    · simp only [on_ofFault_ok, on_modify, on_jump_state]
  case jump a => exact on_jump_state a s
  case jumpFromOffset a =>
    simp only [execute, on_bind, on_readRegister (x := 0) (by decide), on_jump_state]
    rfl
  case skipIfPressed x | skipIfNotPressed x =>
    by_cases hk : 15 < s.value x
    · have hn : ¬ (s.registers.byte x).toNat < 16 := by rw [State.value] at hk; omega
      simp only [execute, State.effect, on_bind, on_get, on_readRegister hi, on_ofResult,
        State.isPressed_byte, if_neg hn, if_pos hk]
    · have hn : (s.registers.byte x).toNat < 16 := by rw [State.value] at hk; omega
      simp only [execute, State.effect, on_bind, on_get, on_readRegister hi, on_ofResult,
        State.isPressed_byte, if_pos hn, if_neg hk, on_skipIf_state]
      rfl
  case skipIfEqualData | skipIfNotEqualData | skipIfEqualRegister | skipIfNotEqualRegister =>
    simp only [execute, on_bind, on_readRegister, hi, and_self, on_skipIf_state]
    rfl
  case draw x y rows =>
    rw [execute, on_drawSprite hi.1 hi.2.1 hi.2.2 hI]
    simp only [State.effect]
    split_ifs <;> rfl
  case storeBcd x =>
    rw [on_storeBcd hi, on_writeRow h.guarded hI, State.effect, State.stored]
    split_ifs <;> rfl
  case storeRegisters x =>
    rw [on_storeRegisters hi h.guarded, on_writeRow h.guarded hI, State.effect, State.stored,
      State.bytesUpTo_eq]
    split_ifs <;> rfl
  case readRegisters x => rw [on_readRegisters hi hI, State.effect]
  case loadRegister | or | and | xor =>
    simp only [execute, State.effect, on_bind, on_readRegister, on_writeRegister, hi, and_self,
      Int.toNat_natCast, ← UInt8.toNat_or, ← UInt8.toNat_and, ← UInt8.toNat_xor,
      UInt8.ofInt_toNat]
  case add | sub | negatedSub | shiftRight | shiftLeft =>
    simp only [execute, on_bind, on_readRegister, on_settle_state, hi, and_self]
    rfl
  -- all others are a row of changes that cannot fail
  all_goals
    simp only [execute, State.effect, State.value, awaitKey, on_bind, on_get, on_readRegister,
      on_writeRegister, on_modify, on_modifyRegisters, on_pure, on_throw, Registers.index_eq,
      on_ofResult, hi, and_self]

/-! ## Steps -/

namespace Machine

variable {m : Machine}

theorem failure_eq_none_iff (h : m.state.Valid) : m.step.failure = none ↔ m.obstacle = none := by
  rw [← (step_meets h).ok_iff, Step.failure]
  rcases m.step.result with e | snapshot <;> simp

theorem obstacle_eq_of_lt (hlt : m.counter < 0xFFF) : m.obstacle = m.state.obstacle m.next :=
  if_neg (not_le.mpr hlt)

theorem lt_of_obstacle (ho : m.obstacle ≠ some .programExhausted) : m.counter < 0xFFF := by
  by_contra hle
  exact ho (if_pos (not_lt.mp hle))

theorem outcome_state (h : m.state.Valid) (hlt : m.counter < 0xFFF) :
    m.outcome.2 = m.state.fetched.effect m.next :=
  Instruction.execute_effect m.next_fits (fetched_valid h hlt).1

theorem outcome_meets (h : m.state.Valid) (hlt : m.counter < 0xFFF) :
    Meets m.outcome.1 (m.state.obstacle m.next) := by
  rw [← State.obstacle_fetched]
  exact Instruction.execute_meets m.next_fits (fetched_valid h hlt).1

/-- **A step that meets no obstacle has the effect of its instruction and is counted.** -/
theorem step_of_none (h : m.state.Valid) (ho : m.obstacle = none) :
    m.step =
      { machine := { m with state := m.state.fetched.effect m.next, count := m.count + 1 }
        fetched := some (m.state.memory.wordAt m.counter)
        result := .ok { counter := m.counter, opcode := m.state.memory.wordAt m.counter
                        instruction := m.next, count := (m.count + 1 : Nat) } } := by
  have hlt : m.counter < 0xFFF := lt_of_obstacle (by simp [ho])
  obtain ⟨⟨⟩, hr⟩ : ∃ u, m.outcome.1 = .ok u := by
    have hmeets := outcome_meets h hlt
    rwa [← obstacle_eq_of_lt hlt, ho] at hmeets
  have hout : m.outcome = (.ok (), m.state.fetched.effect m.next) :=
    Prod.ext hr (outcome_state h hlt)
  rw [step_of_lt h.counter.1 hlt, hout]

theorem step_of_next (h : m.state.Valid) (hlt : m.counter < 0xFFF) {i : Instruction}
    (hnext : m.next = i) (ho : m.state.obstacle i = none) :
    m.step.failure = none ∧ m.step.machine.state = m.state.fetched.effect i := by
  have hm : m.obstacle = none := by rw [obstacle_eq_of_lt hlt, hnext, ho]
  exact ⟨(failure_eq_none_iff h).mpr hm, by rw [step_of_none h hm, hnext]⟩

/-- **A step that fetches a word and meets an obstacle has the effect of its instruction and is not
counted.** -/
theorem step_machine_of_some (h : m.state.Valid) (hlt : m.counter < 0xFFF)
    (ho : m.obstacle ≠ none) :
    m.step.machine = { m with state := m.state.fetched.effect m.next } := by
  obtain ⟨k, hk⟩ := Option.ne_none_iff_exists'.mp ho
  obtain ⟨f, hr, -⟩ : ∃ f, m.outcome.1 = .error (.fault f) ∧ f.kind = k := by
    have hmeets := outcome_meets h hlt
    rwa [← obstacle_eq_of_lt hlt, hk] at hmeets
  have hout : m.outcome = (.error (.fault f), m.state.fetched.effect m.next) :=
    Prod.ext hr (outcome_state h hlt)
  rw [step_of_lt h.counter.1 hlt, hout]

/-! ## Runs of one instruction

What an instruction does is told once for both ways in which it comes about: by itself, and in a
step that fetches it, where the counter is behind the word before it starts. -/

/-- What an instruction gives and the machine that it leaves, executed as it is or fetched by a
step. -/
inductive Runs (m : Machine) (i : Instruction) : Except Failure Unit → Machine → Prop
  | executed : Runs m i (m.execute i).1 (m.execute i).2
  | fetched : m.next = i → m.counter < 0xFFF →
      Runs m i (m.step.result.map fun _ => ()) m.step.machine

variable {m' : Machine} {i : Instruction} {r : Except Failure Unit}

/-- **A run fails on the obstacle of its instruction**, and completes it if there is none. -/
theorem Runs.meets (h : m.state.Valid) (hi : i.Fits) (hr : m.Runs i r m') :
    Meets r (m.state.obstacle i) := by
  cases hr with
  | executed => exact Instruction.execute_meets hi h
  | fetched hnext hlt =>
    have hm := (step_meets h).map fun _ => ()
    rwa [obstacle_eq_of_lt hlt, hnext] at hm

/-- **A run leaves the effect of its instruction**, wherever it takes the counter to be. -/
theorem Runs.exists_effect (h : m.state.Valid) (hi : i.Fits) (hr : m.Runs i r m') :
    ∃ c, (m.state.withCounter c).Valid ∧ m'.state = (m.state.withCounter c).effect i := by
  cases hr with
  | executed => exact ⟨m.state.memory.counter, h, Instruction.execute_effect hi h⟩
  | fetched hnext hlt =>
    refine ⟨m.state.memory.counter + 2, (fetched_valid h hlt).1, ?_⟩
    rw [step_state h.counter.1 hlt, outcome_state h hlt, hnext]
    rfl

theorem Runs.eq_ok_iff (h : m.state.Valid) (hi : i.Fits) (hr : m.Runs i r m') :
    r = .ok () ↔ m.state.obstacle i = none := by
  rw [← (hr.meets h hi).ok_iff]
  exact ⟨fun hok => ⟨(), hok⟩, fun ⟨_, hok⟩ => hok⟩

/-- Every run of an instruction goes well just if a condition holds, and leaves then a state of some
kind. -/
def DoesIf (m : Machine) (i : Instruction) (C : Prop) (P : State → Prop) : Prop :=
  ∀ r m', m.Runs i r m' → (r = .ok () ↔ C) ∧ (C → P m'.state)

/-- Every run of an instruction goes well and leaves a state of some kind. -/
def Does (m : Machine) (i : Instruction) (P : State → Prop) : Prop :=
  ∀ r m', m.Runs i r m' → r = .ok () ∧ P m'.state

theorem DoesIf.does {C : Prop} {P : State → Prop} (h : m.DoesIf i C P) (hC : C) : m.Does i P :=
  fun r m' hr => ⟨(h r m' hr).1.mpr hC, (h r m' hr).2 hC⟩

theorem Does.execute {P : State → Prop} (h : m.Does i P) :
    ∃ m', m.execute i = (.ok (), m') ∧ P m'.state :=
  have ⟨hok, hP⟩ := h _ _ .executed
  ⟨_, Prod.ext hok rfl, hP⟩

theorem doesIf_of_effect (h : m.state.Valid) (hi : i.Fits) {C : Prop} {P : State → Prop}
    (hC : m.state.obstacle i = none ↔ C)
    (hP : ∀ c, (m.state.withCounter c).Valid → C → P ((m.state.withCounter c).effect i)) :
    m.DoesIf i C P := by
  intro r m' hr
  obtain ⟨c, hvalid, hstate⟩ := hr.exists_effect h hi
  exact ⟨(hr.eq_ok_iff h hi).trans hC, fun hc => hstate ▸ hP c hvalid hc⟩

theorem does_of_effect (h : m.state.Valid) (hi : i.Fits) (ho : m.state.obstacle i = none)
    {P : State → Prop} (hP : ∀ c, P ((m.state.withCounter c).effect i)) : m.Does i P :=
  (doesIf_of_effect h hi ⟨fun _ => trivial, fun _ => ho⟩ fun c _ _ => hP c).does trivial

end Machine

end Chip8
