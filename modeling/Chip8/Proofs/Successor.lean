import Mathlib
import Chip8.Proofs.Remains

/-!
# Proofs/Successor — where the counter goes

An instruction sends the counter to an address (`State.target?`), passes over the next instruction
(`State.skips`), or leaves the counter behind its own word; whatever else it does, it does not move
the counter (`State.Valid.effect_counter`).  So the address behind a step that goes well can be told
from the state before it (`State.successor`).  A skip alone is not checked against the end of the
memory, and two skips with opposite conditions (`Instruction.Opposite`) go different ways.
-/

namespace Chip8

/-! ## Targets and skips -/

namespace State

/-- The address that an instruction sends the counter to: that of a jump or a call, or the newest
return address. -/
def target? (s : State) : Instruction → Option Int
  | .jump a => some a
  | .call a => some a
  | .ret => s.stack.frames.getLast?
  | .jumpFromOffset a => some (s.value 0 + a)
  | _ => none

/-- Whether an instruction is a skip whose condition holds. -/
def skips (s : State) : Instruction → Bool
  | .skipIfEqualData x d => s.value x == d
  | .skipIfNotEqualData x d => s.value x != d
  | .skipIfEqualRegister x y => s.value x == s.value y
  | .skipIfNotEqualRegister x y => s.value x != s.value y
  | .skipIfPressed x => s.keys.read (Nibble.ofInt (s.value x))
  | .skipIfNotPressed x => !s.keys.read (Nibble.ofInt (s.value x))
  | _ => false

/-- The address at which a program goes on from an instruction at the counter. -/
def successor (s : State) (i : Instruction) : Int :=
  (s.target? i).getD (s.memory.counterAddress + if s.skips i then 4 else 2)

theorem target?_fetched (s : State) (i : Instruction) : s.fetched.target? i = s.target? i := by
  cases i <;> rfl

theorem skips_fetched (s : State) (i : Instruction) : s.fetched.skips i = s.skips i := by
  cases i <;> rfl

theorem skipped_counter (s : State) (c : Bool) :
    (s.skipped c).memory.counterAddress = s.memory.counterAddress + if c then 2 else 0 := by
  cases c
  · exact (add_zero _).symm
  · simp only [skipped, Memory.skip, Memory.counterAddress, if_true]
    omega

theorem stored_counter (s : State) (row : List UInt8) :
    (s.stored row).memory.counterAddress = s.memory.counterAddress := by
  rw [stored_eq]
  split
  · rfl
  · rw [Memory.counterAddress, Memory.overlaid_counter, Memory.counterAddress]

/-- **The target of an instruction that meets no obstacle lies in the program region.** -/
theorem Valid.target_bounds {s : State} (h : s.Valid) {i : Instruction} (hi : i.Fits)
    (ho : s.obstacle i = none) {a : Int} (ha : s.target? i = some a) : 0x200 ≤ a ∧ a < 0x1000 := by
  cases i <;> simp only [Instruction.Fits, Instruction.fields, Field.bound, List.mem_cons,
    List.not_mem_nil, or_false, forall_eq_or_imp, forall_eq] at hi
  case jump b =>
    obtain rfl := Option.some.inj ha
    rw [obstacle] at ho
    split at ho
    · cases ho
    · omega
  case call b =>
    obtain rfl := Option.some.inj ha
    rw [obstacle] at ho
    split_ifs at ho
    omega
  case ret =>
    have hmem := h.frames a (List.mem_of_getLast? ha)
    have hlast : s.stack.frames.getLast? = some a := ha
    simp only [obstacle, hlast] at ho
    split at ho
    · cases ho
    · omega
  case jumpFromOffset b =>
    obtain rfl := Option.some.inj ha
    rw [obstacle] at ho
    split at ho
    · rw [value]
      omega
    · cases ho
  all_goals cases ha

/-- **An instruction that meets no obstacle sends the counter to its target**, and one that has
none moves it by one word if it is a skip whose condition holds, and else not at all. -/
theorem Valid.effect_counter {s : State} (h : s.Valid) {i : Instruction} (hi : i.Fits)
    (ho : s.obstacle i = none) : (s.effect i).memory.counterAddress =
      (s.target? i).getD (s.memory.counterAddress + if s.skips i then 2 else 0) := by
  have hbounds (a : Int) := h.target_bounds hi ho (a := a)
  cases i
  case jump a => exact s.jumped_counter (hbounds a rfl)
  case jumpFromOffset a => exact s.jumped_counter (hbounds _ rfl)
  case call a =>
    have hd := depth_lt_of_call (s := s) (a := a) (by simp [ho])
    obtain ⟨t, hpush, -⟩ := CallStack.push_of_lt hd s.memory.counterAddress
    simp only [effect, hpush]
    exact jumped_counter { s with stack := t } (hbounds a rfl)
  case ret =>
    obtain ⟨hf, -⟩ | ⟨a, t, hf, hpop⟩ := s.stack.pop_cases
    · simp [obstacle, hf] at ho
    · have hlast : s.target? .ret = some a := by simp [target?, hf]
      simp only [effect, hpop, hlast, Option.getD_some]
      exact jumped_counter { s with stack := t } (hbounds a hlast)
  case skipIfEqualData | skipIfNotEqualData | skipIfEqualRegister | skipIfNotEqualRegister =>
    exact s.skipped_counter _
  case skipIfPressed x | skipIfNotPressed x =>
    rw [obstacle] at ho
    split at ho
    · cases ho
    · rw [effect, if_neg (by rw [value]; omega)]
      exact s.skipped_counter _
  case draw x y rows =>
    have hmemory : (s.effect (.draw x y rows)).memory = s.memory := by
      rw [effect]
      split_ifs <;> rfl
    rw [hmemory]
    exact (add_zero _).symm
  case storeBcd x => exact (s.stored_counter _).trans (add_zero _).symm
  case storeRegisters x => exact (s.stored_counter _).trans (add_zero _).symm
  case readRegisters x =>
    rw [effect, loadRow_zero (hi (.x, x) (List.mem_singleton_self _))]
    exact (add_zero _).symm
  -- all others leave the memory alone
  all_goals exact (add_zero _).symm

end State

/-! ## Skips with opposite conditions -/

/-- Two skips of which one is made just if the other is not. -/
inductive Instruction.Opposite : Instruction → Instruction → Prop
  | data (x d : Int) : Opposite (.skipIfEqualData x d) (.skipIfNotEqualData x d)
  | registers (x y : Int) : Opposite (.skipIfEqualRegister x y) (.skipIfNotEqualRegister x y)
  | key (x : Int) : Opposite (.skipIfPressed x) (.skipIfNotPressed x)

namespace Instruction.Opposite

variable {i j : Instruction}

theorem fits (h : i.Opposite j) (hi : i.Fits) : j.Fits := by
  cases h <;> exact hi

theorem target_eq_none (h : i.Opposite j) (s : State) :
    s.target? i = none ∧ s.target? j = none := by
  cases h <;> exact ⟨rfl, rfl⟩

variable {s s' : State}

/-- What the two ask for are registers and keys. -/
theorem obstacle_eq (h : i.Opposite j) (hregs : s'.registers = s.registers) :
    s'.obstacle j = s.obstacle i := by
  cases h <;> simp only [State.obstacle, hregs]

theorem skips_eq (h : i.Opposite j) (hregs : s'.registers = s.registers)
    (hkeys : s'.keys = s.keys) : s'.skips j = !s.skips i := by
  cases h <;> simp only [State.skips, State.value, hregs, hkeys, bne]

end Instruction.Opposite

/-! ## Steps -/

namespace Machine

variable {m : Machine}

/-- **A step that meets no obstacle leads to the successor of its instruction.** -/
theorem step_counter (h : m.state.Valid) (ho : m.obstacle = none) :
    m.step.machine.counter = m.state.successor m.next := by
  have hlt : m.counter < 0xFFF := lt_of_obstacle (by simp [ho])
  rw [obstacle_eq_of_lt hlt, ← State.obstacle_fetched] at ho
  rw [counter, step_state h.counter.1 hlt, outcome_state h hlt,
    (fetched_valid h hlt).1.effect_counter m.next_fits ho, State.target?_fetched,
    State.skips_fetched, State.successor]
  congr 1
  simp only [State.fetched_memory, Memory.counterAddress]
  split <;> omega

/-- An instruction by itself moves the counter as it does behind a fetch. -/
theorem execute_counter (h : m.state.Valid) {i : Instruction} (hi : i.Fits)
    (ho : m.state.obstacle i = none) : (m.execute i).2.counter =
      (m.state.target? i).getD (m.counter + if m.state.skips i then 2 else 0) := by
  have hstate : (m.execute i).2.state = m.state.effect i := Instruction.execute_effect hi h
  rw [counter, hstate, h.effect_counter hi ho, counter]

theorem execute_ok_iff (h : m.state.Valid) {i : Instruction} (hi : i.Fits) :
    (m.execute i).1 = .ok () ↔ m.state.obstacle i = none :=
  (Runs.executed (m := m) (i := i)).eq_ok_iff h hi

/-- **Of two opposite skips one is made and the other is not.** -/
theorem execute_opposite (h : m.state.Valid) {i j : Instruction} (hij : i.Opposite j) (hi : i.Fits)
    (hok : (m.execute i).1 = .ok ()) : (m.execute j).1 = .ok () ∧
      ((m.execute i).2.counter = m.counter + 2 ∧ (m.execute j).2.counter = m.counter ∨
        (m.execute i).2.counter = m.counter ∧ (m.execute j).2.counter = m.counter + 2) := by
  have ho := (execute_ok_iff h hi).mp hok
  have ho' : m.state.obstacle j = none := (hij.obstacle_eq rfl).trans ho
  obtain ⟨ht, ht'⟩ := hij.target_eq_none m.state
  refine ⟨(execute_ok_iff h (hij.fits hi)).mpr ho', ?_⟩
  rw [execute_counter h hi ho, execute_counter h (hij.fits hi) ho', ht, ht',
    hij.skips_eq rfl rfl]
  cases m.state.skips i
  · exact .inr ⟨add_zero _, rfl⟩
  · exact .inl ⟨rfl, add_zero _⟩

/-- **Two machines at opposite skips go different ways**, if they agree on registers and keys. -/
theorem step_opposite {m' : Machine} (h : m.state.Valid) (h' : m'.state.Valid)
    (hc : m'.counter = m.counter) (hregs : m'.state.registers = m.state.registers)
    (hkeys : m'.state.keys = m.state.keys) (hnext : m.next.Opposite m'.next)
    (hok : m.step.failure = none) : m'.step.failure = none ∧
      (m.step.machine.counter = m.counter + 4 ∧ m'.step.machine.counter = m.counter + 2 ∨
        m.step.machine.counter = m.counter + 2 ∧ m'.step.machine.counter = m.counter + 4) := by
  have ho := (failure_eq_none_iff h).mp hok
  have hlt : m.counter < 0xFFF := lt_of_obstacle (by simp [ho])
  have ho' : m'.obstacle = none := by
    rw [obstacle_eq_of_lt (hc ▸ hlt), hnext.obstacle_eq hregs, ← obstacle_eq_of_lt hlt, ho]
  obtain ⟨ht, -⟩ := hnext.target_eq_none m.state
  obtain ⟨-, ht'⟩ := hnext.target_eq_none m'.state
  refine ⟨(failure_eq_none_iff h').mpr ho', ?_⟩
  rw [step_counter h ho, step_counter h' ho', State.successor, State.successor, ht, ht',
    hnext.skips_eq hregs hkeys]
  change m.counter + _ = _ ∧ m'.counter + _ = _ ∨ m.counter + _ = _ ∧ m'.counter + _ = _
  rw [hc]
  cases m.state.skips m.next
  · exact .inr ⟨rfl, rfl⟩
  · exact .inl ⟨rfl, rfl⟩

/-- **Where a program goes on.**  A step that goes well leads to the target of its instruction, if
it has one, behind the next instruction, if it is a skip whose condition held, and else behind its
own word.  This is never further than one word behind the memory, and behind it at all only by a
skip that was made at its last two words.  Of two opposite skips in one state, executed as they are
or fetched from the same address, one is made and the other is not. -/
theorem step_successor (hm : m.Reachable) :
    (∀ s, m.step.result = .ok s →
      m.step.machine.counter = m.state.successor s.instruction ∧
      (0x200 ≤ m.step.machine.counter ∧ m.step.machine.counter ≤ 0x1002) ∧
      (0x1000 < m.step.machine.counter →
        m.state.skips s.instruction = true ∧ (m.counter = 0xFFD ∨ m.counter = 0xFFE))) ∧
    (∀ {i j : Instruction}, i.Opposite j → i.Fits → (m.execute i).1 = .ok () →
      (m.execute j).1 = .ok () ∧
      ((m.execute i).2.counter = m.counter + 2 ∧ (m.execute j).2.counter = m.counter ∨
        (m.execute i).2.counter = m.counter ∧ (m.execute j).2.counter = m.counter + 2)) ∧
    ∀ {m' : Machine}, m'.Reachable → m'.counter = m.counter →
      m'.state.registers = m.state.registers → m'.state.keys = m.state.keys →
      m.next.Opposite m'.next → m.step.failure = none → m'.step.failure = none ∧
      (m.step.machine.counter = m.counter + 4 ∧ m'.step.machine.counter = m.counter + 2 ∨
        m.step.machine.counter = m.counter + 2 ∧ m'.step.machine.counter = m.counter + 4) := by
  refine ⟨fun s hs => ?_, execute_opposite hm.valid,
    fun hm' => step_opposite hm.valid hm'.valid⟩
  have hok : m.step.failure = none := by rw [Step.failure, hs]
  have ho := (failure_eq_none_iff hm.valid).mp hok
  have hlt : m.counter < 0xFFF := lt_of_obstacle (by simp [ho])
  obtain rfl := snapshot_eq hm.valid.counter.1 hlt hs
  have hsuccessor := step_counter hm.valid ho
  have hc := (step_valid hm.valid).counter
  refine ⟨hsuccessor, ?_, fun hover => ?_⟩
  · simp only [counter, Memory.counterAddress]
    omega
  · rw [hsuccessor] at hover
    rw [obstacle_eq_of_lt hlt] at ho
    rcases ht : m.state.target? m.next with _ | a
    · have hcounter : m.state.memory.counterAddress = m.counter := rfl
      rw [State.successor, ht, Option.getD_none, hcounter] at hover
      split at hover
      · exact ⟨‹_›, by omega⟩
      · omega
    · rw [State.successor, ht, Option.getD_some] at hover
      have hbounds := hm.valid.target_bounds m.next_fits ho ht
      omega

/-- Two machines that have just started, at opposite skips on a register that holds zero. -/
theorem step_successor_start :
    let m := fresh #[0x30, 0x00] 2000 (by decide) (.cycling #[])
    let m' := fresh #[0x40, 0x00] 2000 (by decide) (.cycling #[])
    m.Reachable ∧ m'.Reachable ∧ m.next.Opposite m'.next ∧
      (∃ s, m.step.result = .ok s ∧ s.instruction = .skipIfEqualData 0 0) ∧
      m.step.machine.counter = 0x204 ∧ m'.step.machine.counter = 0x202 := by
  intro m m'
  have hm : m.Reachable := reachable_fresh _ (n := 500) (by decide) _
  have hm' : m'.Reachable := reachable_fresh _ (n := 500) (by decide) _
  have hnext : m.next = .skipIfEqualData 0 0 := by rw [next_fresh]; rfl
  have hnext' : m'.next = .skipIfNotEqualData 0 0 := by rw [next_fresh]; rfl
  have hopposite : m.next.Opposite m'.next := by
    rw [hnext, hnext']
    exact .data 0 0
  have hlt : m.counter < 0xFFF := by decide
  obtain ⟨s, hs⟩ : ∃ s, m.step.result = .ok s :=
    (step_meets hm.valid).ok_iff.mpr (by rw [obstacle_eq_of_lt hlt, hnext]; rfl)
  have hi : s.instruction = .skipIfEqualData 0 0 := by
    rw [snapshot_eq hm.valid.counter.1 hlt hs, hnext]
  obtain ⟨hsteps, -, hpairs⟩ := step_successor hm
  have hcounter : m.step.machine.counter = 0x204 := by
    rw [(hsteps s hs).1, hi]
    rfl
  have hc : m'.counter = m.counter := by decide
  have hregs : m'.state.registers = m.state.registers := rfl
  have hkeys : m'.state.keys = m.state.keys := rfl
  obtain ⟨-, ⟨-, h⟩ | ⟨h, -⟩⟩ := hpairs hm' hc hregs hkeys hopposite (by rw [Step.failure, hs])
  · exact ⟨hm, hm', hopposite, ⟨s, hs, hi⟩, hcounter, h⟩
  · rw [hcounter] at h
    exact absurd h (by decide)

end Machine

end Chip8
