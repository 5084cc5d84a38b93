import Mathlib
import Chip8.Proofs.Effect

/-!
# Proofs/Frame — what each instruction may change

`Instruction.writes` lists the parts of a state that an instruction may change, apart from the
counter.  Every other part is as it was (`State.effect_changesOnly`), whatever the operands are and
whether the instruction fails or not: each kind of effect has its own law, and an instruction is one
or two of them.  What a step that goes well does to the return addresses is a `Machine.Turn`
(`Machine.step_frames`), and both together say what such a step changes (`Machine.step_frame`).
-/

namespace Chip8

/-! ## Parts of a state -/

namespace State

/-- A part of a state, the counter apart. -/
inductive Part
  /-- The byte at an address. -/
  | byte (a : Int)
  /-- The number of words of the program. -/
  | words
  | register (k : Nibble)
  | address
  | delay
  | sound
  | stack
  | display
  | keys
  | awaiting
  | generator

namespace Part

/-- A part is the same in two states. -/
def Same (s s' : State) : Part → Prop
  | byte a => s'.memory.byte a = s.memory.byte a
  | words => s'.memory.words = s.memory.words
  | register k => s'.registers.data.read k = s.registers.data.read k
  | address => s'.registers.i = s.registers.i
  | delay => s'.registers.delay = s.registers.delay
  | sound => s'.registers.sound = s.registers.sound
  | stack => s'.stack = s.stack
  | display => s'.display = s.display
  | keys => s'.keys = s.keys
  | awaiting => s'.awaiting = s.awaiting
  | generator => s'.generator = s.generator

/-- The byte register of a number. -/
def v (x : Int) : Part := register (Nibble.ofInt x)

/-- The byte registers up to that of a number. -/
def upTo (x : Int) : Set Part := {p | ∃ k : Nibble, p = register k ∧ (k : Nat) ≤ x}

/-- The bytes from an address up to but not including another. -/
def bytes (a b : Int) : Set Part := {p | ∃ c, p = byte c ∧ a ≤ c ∧ c < b}

end Part

end State

/-- The parts that an instruction may change where the address register holds `i`. -/
def Instruction.writes (i : Int) : Instruction → Set State.Part
  | clearScreen => {.display}
  | ret => {.stack}
  | call _ => {.stack}
  | loadData x _ => {.v x}
  | addData x _ => {.v x}
  | loadRegister x _ => {.v x}
  | or x _ => {.v x}
  | and x _ => {.v x}
  | xor x _ => {.v x}
  | add x _ => {.v x, .v 15}
  | sub x _ => {.v x, .v 15}
  | shiftRight x => {.v x, .v 15}
  | negatedSub x _ => {.v x, .v 15}
  | shiftLeft x => {.v x, .v 15}
  | setAddressRegister _ => {.address}
  | random x _ => {.v x, .generator}
  | draw .. => {.display, .v 15}
  | loadDelayTimer x => {.v x}
  | awaitKeyPress _ => {.awaiting}
  | setDelayTimer _ => {.delay}
  | addAddressRegister _ => {.address}
  | loadFontSprite _ => {.address}
  | storeBcd _ => State.Part.bytes i (i + 3)
  | storeRegisters x => State.Part.bytes i (i + x + 1)
  | readRegisters x => State.Part.upTo x
  | jump _ | jumpFromOffset _ | skipIfEqualData .. | skipIfNotEqualData .. | skipIfEqualRegister ..
  | skipIfNotEqualRegister .. | skipIfPressed _ | skipIfNotPressed _ | setSoundTimer _ | noOp _
  | unknown _ => ∅

namespace Instruction

variable {i : Instruction} {a : Int}

/-- Only returns and calls may change the stack. -/
theorem stack_mem_writes : .stack ∈ i.writes a ↔ i = .ret ∨ ∃ target, i = .call target := by
  cases i <;> simp [writes, State.Part.v, State.Part.upTo, State.Part.bytes]

/-- Only an instruction that awaits a key may change which register a key is awaited for. -/
theorem awaiting_mem_writes : .awaiting ∈ i.writes a ↔ ∃ x, i = .awaitKeyPress x := by
  cases i <;> simp [writes, State.Part.v, State.Part.upTo, State.Part.bytes]

end Instruction

/-! ## Kinds of effects -/

namespace State

/-- Two states differ at most in the counter and in some parts. -/
def ChangesOnly (W : Set Part) (s s' : State) : Prop := ∀ p ∉ W, p.Same s s'

namespace ChangesOnly

variable {W W' : Set Part} {s s' s'' : State}

theorem refl (W : Set Part) (s : State) : ChangesOnly W s s := by
  intro p _
  cases p <;> rfl

theorem trans (h : ChangesOnly W s s') (h' : ChangesOnly W s' s'') : ChangesOnly W s s'' := by
  intro p hp
  have hfirst := h p hp
  have hsecond := h' p hp
  cases p <;> exact hsecond.trans hfirst

theorem mono (h : ChangesOnly W s s') (hW : W ⊆ W') : ChangesOnly W' s s' :=
  fun p hp => h p fun hmem => hp (hW hmem)

theorem counter (W : Set Part) (s : State) (c : Int) :
    ChangesOnly W s { s with memory := { s.memory with counter := c } } := by
  intro p _
  cases p <;> rfl

theorem jumped (W : Set Part) (s : State) (a : Int) : ChangesOnly W s (s.jumped a) := by
  rw [State.jumped]
  split
  · exact counter W s _
  · exact refl W s

theorem skipped (W : Set Part) (s : State) (c : Bool) : ChangesOnly W s (s.skipped c) := by
  cases c
  · exact refl W s
  · exact counter W s _

theorem put {x : Int} (hx : .v x ∈ W) (s : State) (b : UInt8) : ChangesOnly W s (s.put x b) := by
  intro p hp
  cases p with
  | register k =>
    have hne : (Nibble.ofInt x : Nat) ≠ k := fun heq => hp (Fin.ext heq ▸ hx)
    exact Vector.getElem_set_ne (Nibble.ofInt x).isLt k.isLt hne
  | _ => rfl

theorem settled {x : Int} (hx : .v x ∈ W) (hflag : .v 15 ∈ W) (s : State) (flag : Bool)
    (result : Int) : ChangesOnly W s (s.settled x flag result) :=
  (put hflag s _).trans (put hx _ _)

theorem drawn (x y rows : Int) (hdisplay : .display ∈ W) (hflag : .v 15 ∈ W) (s : State) :
    ChangesOnly W s (s.drawn x y rows) := by
  refine trans ?_ (put hflag { s with display := (s.stroke x y rows).display } _)
  intro p hp
  cases p with
  | display => exact absurd hdisplay hp
  | _ => rfl

/-- A row that is stored changes its own bytes only. -/
theorem stored (s : State) (row : List UInt8) :
    ChangesOnly (Part.bytes s.registers.i (s.registers.i + row.length)) s (s.stored row) := by
  rw [State.stored]
  split
  · exact refl _ s
  · intro p hp
    cases p with
    | byte c =>
      have hout : c < s.registers.i ∨ s.registers.i + row.length ≤ c := by
        by_contra hin
        exact hp ⟨c, rfl, by omega⟩
      by_cases hend : 0x1000 ≤ c
      · exact (Memory.byte_of_end _ hend).trans (s.memory.byte_of_end hend).symm
      · refine (Memory.byte_storeRow row s.memory (by omega) (by omega)).trans ?_
        split
        · rfl
        · rw [List.getElem?_eq_none (by omega), Option.getD_none]
    | words => exact Memory.storeRow_words row s.memory s.registers.i
    | _ => rfl

/-- Registers that are loaded in a row change only themselves. -/
theorem loadRow (n : Nat) : ∀ (s : State) (r : Nat),
    (∀ k : Nat, r ≤ k → k < r + n → .v k ∈ W) → ChangesOnly W s (s.loadRow r n) := by
  induction n with
  | zero => exact fun s _ _ => refl W s
  | succ n ih =>
    intro s r hW
    rw [State.loadRow]
    split
    · exact (put (hW r (le_refl r) (by omega)) s _).trans
        (ih _ (r + 1) fun k hk hlt => hW k (by omega) (by omega))
    · exact refl W s

end ChangesOnly

/-! ## Instructions -/

/-- **An instruction changes what it may change and nothing else**, whether it fails or not. -/
theorem effect_changesOnly {i : Instruction} (hi : i.Fits) (s : State) :
    ChangesOnly (i.writes s.registers.i) s (s.effect i) := by
  cases i <;> simp only [Instruction.Fits, Instruction.fields, Field.bound, List.mem_cons,
    List.not_mem_nil, or_false, forall_eq_or_imp, forall_eq] at hi
  case ret =>
    rw [effect]
    rcases s.stack.pop with f | ⟨a, stack⟩
    · exact .refl _ s
    · refine .trans (fun p hp => ?_) (.jumped _ { s with stack } a)
      cases p <;> first | rfl | exact absurd rfl hp
  case call a =>
    rw [effect]
    rcases s.stack.push s.memory.counterAddress with f | stack
    · exact .refl _ s
    · refine .trans (fun p hp => ?_) (.jumped _ { s with stack } a)
      cases p <;> first | rfl | exact absurd rfl hp
  case jump | jumpFromOffset => exact .jumped _ s _
  case skipIfEqualData | skipIfNotEqualData | skipIfEqualRegister | skipIfNotEqualRegister =>
    exact .skipped _ s _
  case skipIfPressed | skipIfNotPressed =>
    rw [effect]
    split
    · exact .refl _ s
    · exact .skipped _ s _
  case loadData | addData | loadRegister | or | and | xor | loadDelayTimer =>
    exact .put (Set.mem_singleton _) s _
  case add | sub | negatedSub | shiftRight | shiftLeft =>
    exact .settled (.inl rfl) (.inr rfl) s _ _
  case random x d =>
    refine .trans (fun p hp => ?_)
      (.put (.inl rfl) { s with generator := (s.generator.between 0 0xFF).2 } _)
    cases p <;> first | rfl | exact absurd (.inr rfl) hp
  case draw x y rows =>
    rw [effect]
    split_ifs
    · exact .refl _ s
    · exact .refl _ s
    · exact .drawn x y rows (.inl rfl) (.inr rfl) s
  case storeBcd x => exact .stored s (s.digits x)
  case storeRegisters x =>
    refine (ChangesOnly.stored s (s.bytesUpTo x)).mono ?_
    rintro _ ⟨c, rfl, hc⟩
    have hlen : (s.bytesUpTo x).length = x.toNat + 1 := by simp [bytesUpTo]
    exact ⟨c, rfl, by omega⟩
  case readRegisters x =>
    refine .loadRow _ s 0 fun k _ hlt => ⟨_, rfl, ?_⟩
    simp only [Nibble.ofInt]
    omega
  case setSoundTimer | noOp | unknown => exact .refl _ s
  -- all others change one part as a whole
  all_goals
    intro p hp
    cases p <;> first | rfl | exact absurd rfl hp

/-- It makes no difference where the counter is. -/
theorem effect_withCounter_changesOnly {i : Instruction} (hi : i.Fits) (s : State) (c : Int) :
    ChangesOnly (i.writes s.registers.i) s ((s.withCounter c).effect i) :=
  (ChangesOnly.counter _ s c).trans (effect_changesOnly hi (s.withCounter c))

theorem effect_stack {i : Instruction} (hi : i.Fits) (s : State) (hcall : ¬ ∃ a, i = .call a)
    (hret : i ≠ .ret) : (s.effect i).stack = s.stack :=
  effect_changesOnly hi s .stack fun hmem =>
    (Instruction.stack_mem_writes.mp hmem).elim hret hcall

theorem effect_awaiting {i : Instruction} (hi : i.Fits) (s : State)
    (hawait : ¬ ∃ x, i = .awaitKeyPress x) : (s.effect i).awaiting = s.awaiting :=
  effect_changesOnly hi s .awaiting fun hmem => hawait (Instruction.awaiting_mem_writes.mp hmem)

/-- **What is stored lies in the program region** where the instruction meets no obstacle. -/
theorem writes_program {s : State} {i : Instruction} (ho : s.obstacle i = none) {a : Int}
    (ha : .byte a ∈ i.writes s.registers.i) : 0x200 ≤ a ∧ a ≤ 0xFFF := by
  cases i
  case storeBcd | storeRegisters =>
    obtain ⟨c, hc, hle⟩ := ha
    cases hc
    rw [obstacle] at ho
    split_ifs at ho
    omega
  case readRegisters x =>
    obtain ⟨k, hk, -⟩ := ha
    cases hk
  all_goals simp [Instruction.writes, Part.v] at ha

end State

/-! ## Calls and returns in a state -/

namespace State

theorem jumped_stack (s : State) (a : Int) : (s.jumped a).stack = s.stack :=
  ChangesOnly.jumped ∅ s a .stack (Set.notMem_empty _)

theorem jumped_counter (s : State) {a : Int} (h : 0x200 ≤ a ∧ a < 0x1000) :
    (s.jumped a).memory.counterAddress = a := by
  rw [jumped, if_pos h]
  simp only [Memory.counterAddress]
  omega

/-- A push of the address behind the word that was fetched. -/
theorem Valid.push_fetched {s : State} (h : s.Valid) (hlt : s.memory.counterAddress < 0xFFF)
    (hd : s.stack.depth < 16) :
    ∃ t, s.fetched.stack.push s.fetched.memory.counterAddress = .ok t ∧
      t.frames = s.stack.frames ++ [s.memory.counterAddress + 2] := by
  obtain ⟨t, hpush, hframes⟩ :=
    CallStack.push_of_lt (s := s.fetched.stack) hd s.fetched.memory.counterAddress
  have hc := h.counter
  have haddress : s.fetched.memory.counterAddress % 0x10000 = s.memory.counterAddress + 2 := by
    simp only [fetched_memory, Memory.counterAddress] at hlt ⊢
    omega
  exact ⟨t, hpush, by rw [hframes, haddress, fetched_stack]⟩

theorem depth_lt_of_call {s : State} {a : Int} (h : s.obstacle (.call a) ≠ some .stackOverflow) :
    s.stack.depth < 16 :=
  lt_of_le_of_ne s.stack.depth_le fun hfull => h (if_pos hfull)

theorem obstacle_ret {s : State} {l : List Int} {a : Int} (h : s.stack.frames = l ++ [a]) :
    s.obstacle .ret = if a = 0x1000 then some .memoryBounds else none := by
  simp only [obstacle, h, List.getLast?_append, List.getLast?_singleton, Option.some_or]

end State

namespace Machine

/-- The return addresses in use, oldest first. -/
def frames (m : Machine) : List Int := m.state.stack.frames

/-- The number of return addresses in use. -/
def depth (m : Machine) : Nat := m.state.stack.depth

theorem length_frames (m : Machine) : m.frames.length = m.depth := m.state.stack.length_frames

/-! ## The stack under one step -/

/-- What a step does to the return addresses: a call adds the address behind itself, a return goes
to the newest and takes it off, and nothing else changes them. -/
inductive Turn (m m' : Machine) : Prop
  | called {a : Int} : m.next = .call a → m'.frames = m.frames ++ [m.counter + 2] → Turn m m'
  | returned : m.next = .ret → m.frames = m'.frames ++ [m'.counter] → Turn m m'
  | passed : (∀ a, m.next ≠ .call a) → m.next ≠ .ret → m'.frames = m.frames → Turn m m'

/-- **A step that goes well adds a frame, takes one off, or leaves them all.** -/
theorem step_frames {m : Machine} (h : m.state.Valid) (hok : m.step.failure = none) :
    m.Turn m.step.machine := by
  have ho := (failure_eq_none_iff h).mp hok
  have hlt : m.counter < 0xFFF := lt_of_obstacle (by simp [ho])
  have hstep := step_of_none h ho
  rw [obstacle_eq_of_lt hlt] at ho
  rw [hstep]
  by_cases hcall : ∃ a, m.next = .call a
  · obtain ⟨a, hnext⟩ := hcall
    rw [hnext] at ho
    have hd := State.depth_lt_of_call (s := m.state) (a := a) (by simp [ho])
    obtain ⟨t, hpush, hframes⟩ := h.push_fetched hlt hd
    refine .called hnext ?_
    simp only [hnext, frames, State.effect, hpush, State.jumped_stack, hframes]
    rfl
  · by_cases hret : m.next = .ret
    · rw [hret] at ho
      obtain ⟨hf, -⟩ | ⟨a, t, hf, hpop⟩ := m.state.fetched.stack.pop_cases
      · have hf' : m.state.stack.frames = [] := hf
        simp [State.obstacle, hf'] at ho
      · have hf' : m.state.stack.frames = t.frames ++ [a] := hf
        have ha := h.frames a (by simp [hf'])
        have hne : a ≠ 0x1000 := fun hend => by simp [State.obstacle_ret hf', hend] at ho
        refine .returned hret ?_
        have hjump := State.jumped_counter { m.state.fetched with stack := t }
          (a := a) (by omega)
        simp only [hret, frames, counter, State.effect, hpop, State.jumped_stack, hjump, hf']
    · have hstack := State.effect_stack m.next_fits m.state.fetched hcall hret
      exact .passed (fun a ha => hcall ⟨a, ha⟩) hret (congrArg CallStack.frames hstack)

/-! ## Steps that go well -/

variable {m : Machine}

/-- **What a step changes.**  A step that goes well changes the counter, the number of instructions
and what its instruction may change; the times in store, like everything else, are as they were.  It
stores in the program region only, a call adds a frame to those there are, and a return takes the
newest off. -/
theorem step_frame (h : m.Reachable) {s : Snapshot} (hs : m.step.result = .ok s) :
    m.step.machine = { m with state := m.step.machine.state, count := m.count + 1 } ∧
    m.state.ChangesOnly (s.instruction.writes m.state.registers.i) m.step.machine.state ∧
    (∀ a, .byte a ∈ s.instruction.writes m.state.registers.i → 0x200 ≤ a ∧ a ≤ 0xFFF) ∧
    (∀ a, s.instruction = .call a → m.step.machine.frames = m.frames ++ [m.counter + 2]) ∧
    (s.instruction = .ret → m.frames = m.step.machine.frames ++ [m.step.machine.counter]) := by
  have hv := h.valid
  have hok : m.step.failure = none := by rw [Step.failure, hs]
  have ho := (failure_eq_none_iff hv).mp hok
  have hlt : m.counter < 0xFFF := lt_of_obstacle (by simp [ho])
  obtain rfl := snapshot_eq hv.counter.1 hlt hs
  rw [obstacle_eq_of_lt hlt] at ho
  refine ⟨?_, ?_, fun a => State.writes_program ho, fun a hcall => ?_, fun hret => ?_⟩
  · rw [step_of_none hv ((failure_eq_none_iff hv).mp hok)]
  · rw [step_state hv.counter.1 hlt, outcome_state hv hlt]
    exact (State.ChangesOnly.counter _ m.state _).trans
      (State.effect_changesOnly m.next_fits m.state.fetched)
  · obtain ⟨-, hframes⟩ | ⟨hret, -⟩ | ⟨hnone, -⟩ := step_frames hv hok
    · exact hframes
    · exact absurd (hcall.symm.trans hret) (by simp)
    · exact absurd hcall (hnone a)
  · obtain ⟨hcall, -⟩ | ⟨-, hframes⟩ | ⟨-, hnone, -⟩ := step_frames hv hok
    · exact absurd (hret.symm.trans hcall) (by simp)
    · exact hframes
    · exact absurd hret hnone

/-- An addition to the flag register itself, which changes that register and nothing else. -/
theorem step_frame_flag :
    let m := fresh #[0x8F, 0x14] 2000 (by decide) (.cycling #[])
    m.Reachable ∧ (∃ s, m.step.result = .ok s ∧ s.instruction = .add 15 1) ∧
      m.state.ChangesOnly {.register 15} m.step.machine.state := by
  intro m
  have hm : m.Reachable := reachable_fresh _ (n := 500) (by decide) _
  have hnext : m.next = .add 15 1 := by rw [next_fresh]; rfl
  have hlt : m.counter < 0xFFF := by decide
  have ho : m.obstacle = none := by rw [obstacle_eq_of_lt hlt, hnext]; rfl
  obtain ⟨s, hs⟩ := (step_meets hm.valid).ok_iff.mpr ho
  have hi : s.instruction = .add 15 1 := by rw [snapshot_eq hm.valid.counter.1 hlt hs, hnext]
  have hframe := (step_frame hm hs).2.1
  rw [hi] at hframe
  exact ⟨hm, ⟨s, hs, hi⟩, hframe.mono (by rintro p (rfl | rfl) <;> rfl)⟩

end Machine

end Chip8
