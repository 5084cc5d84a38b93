import Mathlib
import Chip8.Proofs.Returns

/-!
# Proofs/Remains — what a failing step leaves

A step that finds no word to fetch changes nothing, and the machine stays like this until a reset
(`Exhausted.foldl_after`).  Any other failing step has moved the counter behind its word.  Most
instructions find out that they fail before they change anything; `State.remains` is what the others
leave.  Rows of bytes are cut where the memory ends: byte by byte, `Memory.overlaid` says what a row
that is written leaves there, and `State.loaded` says which registers a row that is read has filled.
-/

namespace Chip8

/-! ## Rows that are cut -/

/-- The memory with other bytes in the program region. -/
def Memory.withCells (m : Memory) (cells : Vector UInt8 0xE00) : Memory :=
  { m with program := { m.program with cells } }

theorem Memory.withCells_counter (m : Memory) (cells : Vector UInt8 0xE00) :
    (m.withCells cells).counter = m.counter := rfl

/-- The memory with a row of bytes laid over the program region from an address on: what would lie
behind the end is lost, and every other byte is as it was. -/
def Memory.overlaid (m : Memory) (a : Int) (row : List UInt8) : Memory :=
  m.withCells (Vector.ofFn fun k =>
    if (k : Nat) + 0x200 < a then m.program.cells[k]
    else row[((k : Nat) + 0x200 - a).toNat]?.getD m.program.cells[k])

theorem Memory.overlaid_counter (m : Memory) (a : Int) (row : List UInt8) :
    (m.overlaid a row).counter = m.counter := m.withCells_counter _

/-- A row that begins behind the end is lost as a whole. -/
theorem Memory.overlaid_of_le (m : Memory) {a : Int} (ha : 0x1000 ≤ a) (row : List UInt8) :
    m.overlaid a row = m := by
  refine congrArg m.withCells (Vector.ext fun k hk => ?_)
  rw [Vector.getElem_ofFn, if_pos (by simp only; omega)]
  rfl

theorem Memory.overlaid_nil (m : Memory) (a : Int) : m.overlaid a [] = m := by
  refine congrArg m.withCells (Vector.ext fun k hk => ?_)
  simp

theorem Memory.overlaid_cons (m : Memory) {a : Int} (ha : 0x200 ≤ a) (b : UInt8)
    (row : List UInt8) : m.overlaid a (b :: row) = (m.store a b).overlaid (a + 1) row := by
  refine congrArg m.withCells (Vector.ext fun k hk => ?_)
  have hset : (m.store a b).program.cells[k]
      = if (a - 0x200).toNat = k then b else m.program.cells[k] := by
    simp [store, Vector.getElem_setIfInBounds]
  simp only [Vector.getElem_ofFn, Fin.getElem_fin, hset]
  rcases lt_trichotomy ((k : Int) + 0x200) a with hlt | heq | hgt
  · rw [if_pos hlt, if_pos (by omega), if_neg (by omega)]
  · have hk0 : ((k : Int) + 0x200 - a).toNat = 0 := by omega
    rw [if_neg (by omega), if_pos (by omega), if_pos (by omega), hk0]
    rfl
  · have hsucc : ((k : Int) + 0x200 - a).toNat = ((k : Int) + 0x200 - (a + 1)).toNat + 1 := by
      omega
    rw [if_neg (by omega), if_neg (by omega), if_neg (by omega), hsucc, List.getElem?_cons_succ]

/-- **A row is written byte by byte**, up to the end of the memory. -/
theorem Memory.storeRow_eq (row : List UInt8) : ∀ (m : Memory) {a : Int}, 0x200 ≤ a →
    m.storeRow a row = m.overlaid a row := by
  induction row with
  | nil => exact fun m a _ => (m.overlaid_nil a).symm
  | cons b row ih =>
    intro m a ha
    rw [storeRow, ih _ (by omega), m.overlaid_cons ha]

namespace State

/-- The state with other bytes in the registers. -/
def withData (s : State) (data : Bank UInt8) : State :=
  { s with registers := { s.registers with data } }

/-- The state with the registers up to that of a number filled from the bytes at `I`, as far as the
memory has any; every other register is as it was. -/
def loaded (s : State) (x : Int) : State :=
  s.withData (Vector.ofFn fun k =>
    if (k : Nat) ≤ x ∧ s.registers.i + (k : Nat) < 0x1000 then
      s.memory.byte (s.registers.i + (k : Nat))
    else s.registers.data.read k)

theorem loaded_of_le {s : State} (hi : 0x1000 ≤ s.registers.i) (x : Int) : s.loaded x = s := by
  refine congrArg s.withData (Vector.ext fun k hk => ?_)
  rw [Vector.getElem_ofFn, if_neg (by omega)]
  rfl

theorem loadRow_eq (n : Nat) : ∀ (s : State) (r : Nat), r + n ≤ 16 →
    s.loadRow r n = s.withData (Vector.ofFn fun k =>
      if r ≤ (k : Nat) ∧ (k : Nat) < r + n ∧ s.registers.i + (k : Nat) < 0x1000 then
        s.memory.byte (s.registers.i + (k : Nat))
      else s.registers.data.read k) := by
  induction n with
  | zero =>
    intro s r _
    refine congrArg s.withData (Vector.ext fun k hk => ?_)
    rw [Vector.getElem_ofFn, if_neg (by omega)]
    rfl
  | succ n ih =>
    intro s r hr
    rw [loadRow]
    split
    · rw [ih _ _ (by omega)]
      refine congrArg s.withData (Vector.ext fun k hk => ?_)
      have hput : (s.put r (s.memory.byte (s.registers.i + r))).registers.data.read ⟨k, hk⟩
          = if r = k then s.memory.byte (s.registers.i + r)
            else s.registers.data.read ⟨k, hk⟩ := by
        have hindex : (Nibble.ofInt r : Nat) = r := by simp only [Nibble.ofInt]; omega
        simp [put, Bank.read, Bank.write, Vector.getElem_set, hindex]
      simp only [Vector.getElem_ofFn, hput, put_i]
      rcases lt_trichotomy r k with hlt | rfl | hgt
      · have hiff : (r + 1 ≤ k ∧ k < r + 1 + n ∧ s.registers.i + (k : Int) < 0x1000)
            ↔ (r ≤ k ∧ k < r + (n + 1) ∧ s.registers.i + (k : Int) < 0x1000) := by omega
        simp only [if_neg hlt.ne, hiff]
        rfl
      · rw [if_neg (by omega), if_pos rfl, if_pos (by omega)]
      · rw [if_neg (by omega), if_neg (by omega), if_neg (by omega)]
    · refine congrArg s.withData (Vector.ext fun k hk => ?_)
      rw [Vector.getElem_ofFn, if_neg (by omega)]
      rfl

/-! ## What a failing instruction leaves -/

/-- What an instruction that fails leaves of its work, the counter being behind its word: a call has
put its return address on the stack, if there was room, a return has taken the newest off, if there
was one, and the rows of bytes are cut at the end of the memory.  All others leave nothing. -/
def remains (s : State) : Instruction → State
  | .call _ =>
    match s.stack.push s.memory.counterAddress with
    | .ok stack => { s with stack }
    | .error _ => s
  | .ret =>
    match s.stack.pop with
    | .ok (_, stack) => { s with stack }
    | .error _ => s
  | .storeBcd x =>
    if s.registers.i < 0x200 then s
    else { s with memory := s.memory.overlaid s.registers.i (s.digits x) }
  | .storeRegisters x =>
    if s.registers.i < 0x200 then s
    else { s with memory := s.memory.overlaid s.registers.i (s.bytesUpTo x) }
  | .readRegisters x => s.loaded x
  | _ => s

theorem jumped_of_not {s : State} {a : Int} (h : ¬ (0x200 ≤ a ∧ a < 0x1000)) : s.jumped a = s :=
  if_neg h

theorem stored_eq (s : State) (row : List UInt8) : s.stored row =
    if s.registers.i < 0x200 then s
    else { s with memory := s.memory.overlaid s.registers.i row } := by
  rw [stored]
  split
  · rfl
  · rw [Memory.storeRow_eq row s.memory (not_lt.mp ‹_›)]

theorem loadRow_zero {x : Int} (hx : 0 ≤ x ∧ x < 16) (s : State) :
    s.loadRow 0 (x.toNat + 1) = s.loaded x := by
  rw [loadRow_eq _ s 0 (by omega), loaded]
  refine congrArg s.withData (Vector.ext fun k hk => ?_)
  have hiff : (0 ≤ k ∧ k < 0 + (x.toNat + 1) ∧ s.registers.i + (k : Int) < 0x1000)
      ↔ ((k : Int) ≤ x ∧ s.registers.i + (k : Int) < 0x1000) := by omega
  simp only [Vector.getElem_ofFn, hiff]

/-- **An instruction that meets an obstacle has no effect but what remains of it.** -/
theorem effect_of_obstacle {s : State} {i : Instruction} (hi : i.Fits)
    (ho : s.obstacle i ≠ none) : s.effect i = s.remains i := by
  cases i <;> simp only [Instruction.Fits, Instruction.fields, Field.bound, List.mem_cons,
    List.not_mem_nil, or_false, forall_eq_or_imp, forall_eq] at hi
  case call a =>
    by_cases hd : s.stack.depth = 16
    · simp only [effect, remains, CallStack.push_of_full hd]
    · obtain ⟨t, hpush, -⟩ := CallStack.push_of_lt (lt_of_le_of_ne s.stack.depth_le hd)
        s.memory.counterAddress
      have ha : ¬ (0x200 ≤ a ∧ a < 0x1000) := fun ha =>
        ho (by rw [obstacle, if_neg hd, if_neg (not_lt.mpr ha.1)])
      simp only [effect, remains, hpush, jumped_of_not ha]
  case ret =>
    obtain ⟨-, hpop⟩ | ⟨a, t, hf, hpop⟩ := s.stack.pop_cases
    · simp only [effect, remains, hpop]
    · have ha : ¬ (0x200 ≤ a ∧ a < 0x1000) := fun ha =>
        ho (by rw [obstacle_ret hf, if_neg (by omega)])
      simp only [effect, remains, hpop, jumped_of_not ha]
  case jump a =>
    have ha : ¬ (0x200 ≤ a ∧ a < 0x1000) := fun ha =>
      ho (by rw [obstacle, if_neg (not_lt.mpr ha.1)])
    exact jumped_of_not ha
  case jumpFromOffset a =>
    have ha : ¬ (0x200 ≤ s.value 0 + a ∧ s.value 0 + a < 0x1000) := fun ha =>
      ho (if_pos (by rw [value] at ha; omega))
    exact jumped_of_not ha
  case skipIfPressed x | skipIfNotPressed x =>
    have hk : 15 < s.value x := by
      by_contra hk
      exact ho (if_neg (by rw [value] at hk; omega))
    rw [effect, if_pos hk, remains]
    all_goals simp
  case draw x y rows =>
    rw [effect]
    split_ifs with h₁ h₂
    · rfl
    · rfl
    · exact absurd (by rw [obstacle, if_neg h₁, if_neg h₂]) ho
  case storeBcd x => exact stored_eq s (s.digits x)
  case storeRegisters x => exact stored_eq s (s.bytesUpTo x)
  case readRegisters x => exact loadRow_zero hi s
  case unknown => rfl
  -- all others meet no obstacle
  all_goals exact absurd rfl ho

theorem remains_counter (s : State) (i : Instruction) :
    (s.remains i).memory.counter = s.memory.counter := by
  cases i
  case call | ret =>
    rw [remains]
    split <;> rfl
  case storeBcd | storeRegisters =>
    rw [remains]
    split
    · rfl
    · exact Memory.overlaid_counter _ _ _
  all_goals rfl

/-- An instruction that can fail in the middle of its work: a call or a return at its jump, and a
row of bytes that begins within the memory at the end of it. -/
def leavesPart (s : State) : Instruction → Prop
  | .call _ => True
  | .ret => True
  | .storeBcd _ => s.registers.i ≤ 0xFFF
  | .storeRegisters _ => s.registers.i ≤ 0xFFF
  | .readRegisters _ => s.registers.i ≤ 0xFFF
  | _ => False

theorem leavesPart_fetched (s : State) (i : Instruction) :
    s.fetched.leavesPart i = s.leavesPart i := by
  cases i <;> rfl

/-- **Nothing remains of an instruction that is refused before it starts**: of any that does not
leave parts, and of those that do where the stack or the interpreter region stops them. -/
theorem remains_of_refused {s : State} {i : Instruction} {k : Fault.Kind}
    (ho : s.obstacle i = some k) (hk : ¬ (k = .memoryBounds ∧ s.leavesPart i)) :
    s.remains i = s := by
  cases i
  case call a =>
    by_cases hd : s.stack.depth = 16
    · simp only [remains, CallStack.push_of_full hd]
    · rw [obstacle, if_neg hd] at ho
      split at ho
      · exact absurd ⟨(Option.some.inj ho).symm, trivial⟩ hk
      · cases ho
  case ret =>
    obtain ⟨-, hpop⟩ | ⟨a, t, hf, -⟩ := s.stack.pop_cases
    · simp only [remains, hpop]
    · rw [obstacle_ret hf] at ho
      split at ho
      · exact absurd ⟨(Option.some.inj ho).symm, trivial⟩ hk
      · cases ho
  case storeBcd | storeRegisters =>
    rw [obstacle] at ho
    rw [remains]
    split_ifs at ho with h₁
    · rw [if_pos h₁]
    · have hi : ¬ s.registers.i ≤ 0xFFF := fun hi => hk ⟨(Option.some.inj ho).symm, hi⟩
      rw [if_neg h₁, s.memory.overlaid_of_le (by omega)]
  case readRegisters =>
    rw [obstacle] at ho
    split at ho
    · have hi : ¬ s.registers.i ≤ 0xFFF := fun hi => hk ⟨(Option.some.inj ho).symm, hi⟩
      exact loaded_of_le (by omega) _
    · cases ho
  all_goals rfl

theorem obstacle_ne_exhausted (s : State) (i : Instruction) :
    s.obstacle i ≠ some .programExhausted := by
  unfold obstacle
  repeat' split
  all_goals simp

end State

/-! ## A machine that has run out of words -/

namespace Machine

variable {m : Machine}

/-- A machine that has run out of words. -/
def Exhausted (m : Machine) : Prop := m.state.Valid ∧ 0xFFF ≤ m.counter

theorem raises_iff (h : m.state.Valid) (k : Fault.Kind) : m.Raises k ↔ m.obstacle = some k :=
  (step_meets h).fault_iff k

theorem raises_exhausted_iff (h : m.state.Valid) : m.Raises .programExhausted ↔ m.Exhausted := by
  refine (raises_iff h _).trans ⟨fun ho => ⟨h, ?_⟩, fun hx => if_pos hx.2⟩
  by_contra hlt
  rw [obstacle_eq_of_lt (not_le.mp hlt)] at ho
  exact m.state.obstacle_ne_exhausted m.next ho

theorem Exhausted.step_machine (h : m.Exhausted) : m.step.machine = m := by
  rw [step_of_exhausted h.1.counter.1 h.2]

/-- **No call but a reset brings a machine back that has run out of words.** -/
theorem Exhausted.after (h : m.Exhausted) {c : Call} (hc : c ≠ .reset) : (m.after c).Exhausted := by
  have hstep : ∀ m : Machine, m.Exhausted → m.step.machine.Exhausted := fun m h => by
    rwa [h.step_machine]
  refine after_induct (fun m _ => hstep m) (fun _ _ _ h => h)
    (fun _ h => ⟨runTimers_valid h.1, h.2⟩) (fun m code pressed m' hk h => ?_) h c
    (fun _ => hstep m h) (fun hreset => absurd hreset hc)
  obtain rfl := eq_keyed_of_updateKey hk
  exact ⟨updateKey_valid h.1 hk, h.2⟩

theorem Exhausted.foldl_after (calls : List Call) : ∀ {m : Machine}, m.Exhausted → .reset ∉ calls →
    (calls.foldl Machine.after m).Exhausted := by
  induction calls with
  | nil => exact fun h _ => h
  | cons c calls ih =>
    intro m h hc
    rw [List.mem_cons, not_or] at hc
    exact ih (h.after (Ne.symm hc.1)) hc.2

/-! ## A step that fails -/

theorem step_of_obstacle (h : m.state.Valid) (hlt : m.counter < 0xFFF) (ho : m.obstacle ≠ none) :
    m.step.machine = { m with state := m.state.fetched.remains m.next } := by
  rw [step_machine_of_some h hlt ho, State.effect_of_obstacle m.next_fits]
  rwa [State.obstacle_fetched, ← obstacle_eq_of_lt hlt]

theorem step_frames_of_call (h : m.state.Valid) (hlt : m.counter < 0xFFF) {a : Int}
    (hnext : m.next = .call a) (ho : m.obstacle = some .memoryBounds) :
    m.step.machine.frames = m.frames ++ [m.counter + 2] := by
  rw [step_of_obstacle h hlt (by simp [ho])]
  rw [obstacle_eq_of_lt hlt, hnext] at ho
  have hd := State.depth_lt_of_call (s := m.state) (a := a) (by simp [ho])
  obtain ⟨t, hpush, hframes⟩ := h.push_fetched hlt hd
  simp only [hnext, frames, State.remains, hpush, hframes]
  rfl

theorem step_frames_of_ret (h : m.state.Valid) (hlt : m.counter < 0xFFF) (hnext : m.next = .ret)
    (ho : m.obstacle = some .memoryBounds) : m.frames = m.step.machine.frames ++ [0x1000] := by
  rw [step_of_obstacle h hlt (by simp [ho])]
  rw [obstacle_eq_of_lt hlt, hnext, ← State.obstacle_fetched] at ho
  obtain ⟨hf, -⟩ | ⟨a, t, hf, hpop⟩ := m.state.fetched.stack.pop_cases
  · simp only [State.obstacle, hf] at ho
    cases ho
  · obtain rfl : a = 0x1000 := by
      by_contra hne
      rw [State.obstacle_ret hf, if_neg hne] at ho
      cases ho
    simp only [hnext, frames, State.remains, hpop]
    exact hf

/-- **What a failing step leaves.**  Nothing is counted.  A machine that has run out of words is
left as it was, and stays out of words until a reset.  Any other is left with its counter behind the
word and what remains of the instruction, which is nothing unless it ran into the bounds of the
memory in the middle of its work: a call then leaves its return address, and a return has taken off
its own. -/
theorem failing_step (h : m.Reachable) (hfail : m.step.failure ≠ none) :
    m.step.machine.count = m.count ∧
    (m.Raises .programExhausted → m.step.machine = m ∧
      ∀ calls : List Call, .reset ∉ calls →
        (calls.foldl after m).Raises .programExhausted) ∧
    (¬ m.Raises .programExhausted → m.step.machine.counter = m.counter + 2 ∧
      m.step.machine = { m with state := m.state.fetched.remains m.next }) ∧
    (¬ m.Raises .programExhausted → ¬ (m.Raises .memoryBounds ∧ m.state.leavesPart m.next) →
      m.step.machine = { m with state := m.state.fetched }) ∧
    (∀ a, m.next = .call a → m.Raises .memoryBounds →
      m.step.machine.frames = m.frames ++ [m.counter + 2]) ∧
    (m.next = .ret → m.Raises .memoryBounds →
      m.frames = m.step.machine.frames ++ [0x1000]) := by
  have hv := h.valid
  obtain ⟨k, hk⟩ := Option.ne_none_iff_exists'.mp ((failure_eq_none_iff hv).not.mp hfail)
  have hstep (hlt : m.counter < 0xFFF) := step_of_obstacle hv hlt (by simp [hk])
  have hlt (hx : ¬ m.Raises .programExhausted) : m.counter < 0xFFF :=
    not_le.mp fun hle => hx ((raises_exhausted_iff hv).mpr ⟨hv, hle⟩)
  have hbounds (hb : m.Raises .memoryBounds) :
      m.counter < 0xFFF ∧ m.obstacle = some .memoryBounds := by
    have ho := (raises_iff hv _).mp hb
    exact ⟨lt_of_obstacle (by simp [ho]), ho⟩
  refine ⟨?_, fun hx => ?_, fun hx => ⟨?_, hstep (hlt hx)⟩, fun hx hb => ?_,
    fun a hnext hb => step_frames_of_call hv (hbounds hb).1 hnext (hbounds hb).2,
    fun hnext hb => step_frames_of_ret hv (hbounds hb).1 hnext (hbounds hb).2⟩
  · by_cases hx : m.Raises .programExhausted
    · rw [((raises_exhausted_iff hv).mp hx).step_machine]
    · rw [hstep (hlt hx)]
  · have hexhausted := (raises_exhausted_iff hv).mp hx
    refine ⟨hexhausted.step_machine, fun calls hc => ?_⟩
    have hafter := hexhausted.foldl_after calls hc
    exact (raises_exhausted_iff hafter.1).mpr hafter
  · rw [hstep (hlt hx)]
    simp only [counter, Memory.counterAddress, State.remains_counter, State.fetched_memory]
    omega
  · have ho : m.state.fetched.obstacle m.next = some k := by
      rw [State.obstacle_fetched, ← obstacle_eq_of_lt (hlt hx), hk]
    rw [hstep (hlt hx), State.remains_of_refused ho]
    rw [State.leavesPart_fetched]
    exact fun hpart => hb ⟨(raises_iff hv _).mpr (hpart.1 ▸ hk), hpart.2⟩

/-- Two registers stored to the last byte of the memory. -/
theorem failing_step_store :
    let m := fresh #[0xAF, 0xFF, 0xF1, 0x55] 2000 (by decide) (.cycling #[])
    m.step.machine.Reachable ∧ m.step.machine.step.failure ≠ none ∧
      m.step.machine.step.machine.counter = m.step.machine.counter + 2 ∧
      m.step.machine.step.machine = { m.step.machine with
        state := m.step.machine.state.fetched.remains (.storeRegisters 1) } := by
  intro m
  have hm : m.Reachable := reachable_fresh _ (n := 500) (by decide) _
  have hm₁ : m.step.machine.Reachable := hm.step
  have hnext : m.next = .setAddressRegister 0xFFF := by rw [next_fresh]; rfl
  obtain ⟨-, hstep⟩ := step_of_next hm.valid (by decide) hnext rfl
  have hmem : m.step.machine.state.memory = { m.state.memory with counter := 2 } := by
    rw [hstep]
    rfl
  have hnext₁ : m.step.machine.next = .storeRegisters 1 := by
    rw [next_of_load (n := 2) (by decide) hmem]
    rfl
  have ho₁ : m.step.machine.obstacle = some .memoryBounds := by
    rw [obstacle_eq_of_lt (by rw [counter, hmem]; decide), hnext₁, hstep]
    rfl
  have hfail : m.step.machine.step.failure ≠ none :=
    (failure_eq_none_iff hm₁.valid).not.mpr (by simp [ho₁])
  have hx : ¬ m.step.machine.Raises .programExhausted :=
    (raises_iff hm₁.valid _).not.mpr (by simp [ho₁])
  obtain ⟨hcounter, hleft⟩ := (failing_step hm₁ hfail).2.2.1 hx
  rw [hnext₁] at hleft
  exact ⟨hm₁, hfail, hcounter, hleft⟩

end Machine

end Chip8
