import Mathlib
import Chip8.Disassembly
import Chip8.Machine
import Chip8.Proofs.Execution

/-!
# Proofs/Calls — the calls of a host and the machines they lead to

A machine is `Reachable` if a program image was loaded into it and any calls were made on it since,
whether they went well or not; `Machine.after` is the machine that a call leaves.  A step that can
fetch has the outcome of its instruction (`step_of_lt`), and what one step keeps, a stretch of time
keeps (`advance_induct`) and so does every call (`Reachable.induct`).
-/

namespace Chip8

/-! ## One step -/

/-- The state with its counter behind the word that is fetched. -/
def State.fetched (s : State) : State :=
  { s with memory := { s.memory with counter := s.memory.counter + 2 } }

@[simp] theorem State.fetched_stack (s : State) : s.fetched.stack = s.stack := rfl

@[simp] theorem State.fetched_memory (s : State) :
    s.fetched.memory = { s.memory with counter := s.memory.counter + 2 } := rfl

@[simp] theorem State.fetched_awaiting (s : State) : s.fetched.awaiting = s.awaiting := rfl

namespace Machine

/-- The instruction at the counter. -/
def next (m : Machine) : Instruction := Instruction.decode (m.state.memory.wordAt m.counter)

theorem next_fits (m : Machine) : m.next.Fits :=
  Instruction.decode_fits (m.state.memory.wordAt_bounds m.counter)

/-- What the instruction at the counter gives, and the state it leaves. -/
def outcome (m : Machine) : Except Failure Unit × State := m.next.execute.on m.state.fetched

theorem step_of_exhausted {m : Machine} (hc : 0 ≤ m.state.memory.counter)
    (h : 0xFFF ≤ m.counter) :
    m.step = { machine := m, fetched := none
               result := .error (.fault (.programExhausted m.counter)) } := by
  have hn : ¬ m.state.memory.counterAddress < 0xFFF := not_lt.mpr h
  simp only [step, Memory.fetch_eq hc, if_neg hn]

/-- **A step that can fetch has the outcome of its instruction**, and counts it if it succeeded. -/
theorem step_of_lt {m : Machine} (hc : 0 ≤ m.state.memory.counter) (h : m.counter < 0xFFF) :
    m.step = match m.outcome with
      | (.ok (), s) =>
        { machine := { m with state := s, count := m.count + 1 }
          fetched := some (m.state.memory.wordAt m.counter)
          result := .ok { counter := m.counter, opcode := m.state.memory.wordAt m.counter
                          instruction := m.next, count := (m.count + 1 : Nat) } }
      | (.error e, s) =>
        { machine := { m with state := s }
          fetched := some (m.state.memory.wordAt m.counter)
          result := .error e } := by
  have hlt : m.state.memory.counterAddress < 0xFFF := h
  have hrun : ExceptT.run
      (Instruction.decode (m.state.memory.wordAt m.state.memory.counterAddress)).execute
      { m.state with memory := { m.state.memory with counter := m.state.memory.counter + 2 } }
        = m.outcome := rfl
  simp only [step, Memory.fetch_eq hc, if_pos hlt, execute, hrun]
  rcases m.outcome with ⟨_ | _, _⟩ <;> rfl

theorem step_state {m : Machine} (hc : 0 ≤ m.state.memory.counter) (h : m.counter < 0xFFF) :
    m.step.machine.state = m.outcome.2 := by
  rw [step_of_lt hc h]
  rcases m.outcome with ⟨_ | _, _⟩ <;> rfl

theorem step_result {m : Machine} (hc : 0 ≤ m.state.memory.counter) (h : m.counter < 0xFFF) :
    m.step.result = m.outcome.1.map fun _ =>
      { counter := m.counter, opcode := m.state.memory.wordAt m.counter
        instruction := m.next, count := (m.count + 1 : Nat) } := by
  rw [step_of_lt hc h]
  rcases m.outcome with ⟨_ | _, _⟩ <;> rfl

/-- The record of a completed step: where the counter was, the word there and its instruction. -/
theorem snapshot_eq {m : Machine} (hc : 0 ≤ m.state.memory.counter) (h : m.counter < 0xFFF)
    {s : Snapshot} (hs : m.step.result = .ok s) :
    s = { counter := m.counter, opcode := m.state.memory.wordAt m.counter
          instruction := m.next, count := (m.count + 1 : Nat) } := by
  rw [step_result hc h] at hs
  rcases hout : m.outcome.1 with e | u <;> rw [hout] at hs <;> cases hs
  rfl

theorem step_fetched {m : Machine} (hc : 0 ≤ m.state.memory.counter) : m.step.fetched =
    if m.counter < 0xFFF then some (m.state.memory.wordAt m.counter) else none := by
  split
  · rw [step_of_lt hc ‹_›]
    rcases m.outcome with ⟨_ | _, _⟩ <;> rfl
  · rw [step_of_exhausted hc (not_lt.mp ‹_›)]

/-! ## Time does not reach into a step -/

/-- The machine with other times in store. -/
def withTime (m : Machine) (c t : Nat) : Machine := { m with sinceCycle := c, sinceTimer := t }

/-- **A step neither reads nor changes the times in store.** -/
theorem step_withTime (m : Machine) (c t : Nat) :
    (m.withTime c t).step = { m.step with machine := m.step.machine.withTime c t } := by
  rcases hf : m.state.memory.fetch with _ | (_ | ⟨w, memory⟩)
  · simp only [step, withTime, hf]
  · simp only [step, withTime, hf]
    rfl
  · rcases hr : ExceptT.run (Instruction.decode w).execute { m.state with memory }
      with ⟨_ | _, _⟩ <;> simp only [step, withTime, counter, execute, hf, hr]

/-- A step changes nothing but the state and the count. -/
theorem step_machine (m : Machine) :
    m.step.machine = { m with state := m.step.machine.state, count := m.step.machine.count } := by
  rcases hf : m.state.memory.fetch with _ | (_ | ⟨w, memory⟩)
  · simp only [step, hf]
  · simp only [step, hf]
  · rcases hr : ExceptT.run (Instruction.decode w).execute { m.state with memory }
      with ⟨_ | _, _⟩ <;> simp only [step, execute, hf, hr]

/-- A step does not change how long a cycle is. -/
theorem step_cycle (m : Machine) : m.step.machine.cycle = m.cycle := by rw [step_machine]

/-- A step does not change the program image that a reset loads. -/
theorem step_image (m : Machine) : m.step.machine.image = m.image := by rw [step_machine]

end Machine

/-! ## Making a machine, and keys -/

namespace Machine

/-- The machine that nothing has happened to since its image was loaded. -/
def fresh (image : Array UInt8) (cycle : Nat) (cycle_pos : 0 < cycle) (generator : Generator) :
    Machine where
  image := image
  cycle := cycle
  cycle_pos := cycle_pos
  state := State.initial image generator
  count := 0
  sinceCycle := 0
  sinceTimer := 0

theorem next_of_load {m : Machine} {image : Array UInt8} {n : Nat} (hn : n < 0xDFF)
    (hm : m.state.memory = { Memory.load image with counter := n }) :
    m.next = Instruction.decode (Memory.word (image[n]?.getD 0) (image[n + 1]?.getD 0)) := by
  have hcounter : m.counter = n + 0x200 := by rw [counter, hm]; rfl
  have hbyte : ∀ a : Int, 0x200 ≤ a ∧ a < 0x1000 →
      m.state.memory.byte a = image[(a - 0x200).toNat]?.getD 0 := by
    intro a ha
    rw [hm, ← Memory.byte_load image ha]
    rfl
  have h0 : ((n : Int) + 0x200 - 0x200).toNat = n := by omega
  have h1 : ((n : Int) + 0x200 + 1 - 0x200).toNat = n + 1 := by omega
  rw [next, Memory.wordAt, hcounter, hbyte _ (by omega), hbyte _ (by omega), h0, h1]

theorem next_fresh (image : Array UInt8) (cycle : Nat) (pos : 0 < cycle) (generator : Generator) :
    (fresh image cycle pos generator).next
      = Instruction.decode (Memory.word (image[0]?.getD 0) (image[1]?.getD 0)) :=
  next_of_load (n := 0) (by decide) rfl

theorem create_ok {image : Array UInt8} {speed : Number} {generator : Generator} {m : Machine}
    (h : create image speed generator = .ok m) :
    ∃ cycle, ∃ pos : 0 < cycle, speed.period = .ok ⟨cycle, pos⟩ ∧
      m = fresh image cycle pos generator := by
  simp only [create] at h
  rcases hp : speed.period with _ | ⟨cycle, pos⟩
  · rw [hp] at h
    cases h
  · rw [hp] at h
    exact ⟨cycle, pos, rfl, (Except.ok.inj h).symm⟩

/-- A whole number of cycles a second makes a machine. -/
theorem create_whole (image : Array UInt8) {n : Nat} (hn : 0 < n) (generator : Generator) :
    create image (.whole n) generator
      = .ok (fresh image (max 1 (roundHalfEven 1000000 n)) (by omega) generator) := by
  have h0 : ¬ (Number.whole n).atMostZero = true := by
    simpa [Number.atMostZero] using hn.ne'
  rw [create, Number.period, if_neg h0]
  rfl

/-- The machine after a key went down or up. -/
def keyed (m : Machine) (k : Nibble) (pressed : Bool) : Machine :=
  { m with state := { m.state with
      keys := m.state.keys.write k pressed
      registers := { m.state.registers with
        data := match m.state.awaiting, pressed with
          | some r, true => m.state.registers.data.write r (UInt8.ofNat k)
          | _, _ => m.state.registers.data }
      awaiting := if pressed then none else m.state.awaiting } }

theorem keyed_memory (m : Machine) (k : Nibble) (pressed : Bool) :
    (m.keyed k pressed).state.memory = m.state.memory := rfl

/-- **A key event changes the machine if its code is that of a key**, and is refused otherwise. -/
theorem updateKey_eq (m : Machine) (code : Int) (pressed : Bool) :
    m.updateKey code pressed =
      if 0 ≤ code ∧ code < 16 then .ok (m.keyed (Nibble.ofInt code) pressed)
      else .error (Fault.invalidKey code).raised := by
  by_cases h : 0 ≤ code ∧ code < 16
  · rw [if_pos h, updateKey, State.key, Nibble.ofInt?_eq_some h]
    rcases ha : m.state.awaiting with _ | r <;> cases pressed <;>
      simp only [bind, Except.bind, pure, Except.pure, keyed, ha] <;> rfl
  · rw [if_neg h, updateKey, State.key, Nibble.ofInt?_eq_none h]
    rfl

theorem eq_keyed_of_updateKey {m m' : Machine} {code : Int} {pressed : Bool}
    (h : m.updateKey code pressed = .ok m') : m' = m.keyed (Nibble.ofInt code) pressed := by
  rw [updateKey_eq] at h
  split_ifs at h
  exact (Except.ok.inj h).symm

theorem updateKey_nibble (m : Machine) (k : Nibble) (pressed : Bool) :
    m.updateKey (k : Nat) pressed = .ok (m.keyed k pressed) := by
  have hk : Nibble.ofInt (k : Nat) = k := Fin.ext (by simp only [Nibble.ofInt]; omega)
  rw [updateKey_eq, if_pos (by omega), hk]

end Machine

/-! ## Scanning in place

A scan moves the counter of the memory it reads and puts it back.  It is therefore the same as
`Machine.scan`, which reads through a counter of its own. -/

namespace Memory

/-- The words that some fetches in a row give, and the memory with its counter behind them. -/
def fetchRow : Nat → Memory → List Int × Memory
  | 0, m => ([], m)
  | n + 1, m =>
    match m.fetch with
    | .ok (some (word, m)) => ((word :: (fetchRow n m).1), (fetchRow n m).2)
    | _ => ([], m)

theorem fetchRow_eq (n : Nat) : ∀ {m : Memory}, 0 ≤ m.counter →
    ∃ c, fetchRow n m = (m.fetchMany n, { m with counter := c }) := by
  induction n with
  | zero => exact fun {m} _ => ⟨m.counter, rfl⟩
  | succ n ih =>
    intro m hc
    rw [fetchRow, fetchMany, fetch_eq hc]
    by_cases h : m.counterAddress < 0xFFF
    · obtain ⟨c, hrow⟩ := ih (m := { m with counter := m.counter + 2 }) (by simp only; omega)
      exact ⟨c, by simp only [if_pos h, hrow]⟩
    · exact ⟨m.counter, by simp only [if_neg h]⟩

end Memory

namespace Machine

/-- The words of the program and their instructions, read through the counter, which is put back. -/
def scanInPlace (m : Machine) : List (Int × Instruction) × Machine :=
  let row := Memory.fetchRow m.state.memory.words { m.state.memory with counter := 0 }
  (row.1.map fun word => (word, Instruction.decode word),
    { m with state := { m.state with
        memory := { row.2 with counter := m.state.memory.counter } } })

/-- **A scan in place gives what a scan gives and changes nothing.** -/
theorem scanInPlace_eq (m : Machine) : m.scanInPlace = (m.scan, m) := by
  obtain ⟨c, hrow⟩ := Memory.fetchRow_eq m.state.memory.words
    (m := { m.state.memory with counter := 0 }) (le_refl 0)
  simp only [scanInPlace, scan, hrow]

end Machine

/-! ## Calls -/

/-- A call that a host makes on a machine. -/
inductive Call
  | step
  | advance (micros : Int)
  | elapse (time : Elapsed)
  | updateKey (code : Int) (pressed : Bool)
  | reset
  | scan
  | disassemble (start length : Int)

namespace Machine

/-- The machine that a call leaves, whether it went well or not.  A key that is refused changes
nothing, and a disassembly only reads. -/
def after (m : Machine) : Call → Machine
  | .step => m.step.machine
  | .advance micros => (m.advance micros).machine
  | .elapse time => (m.elapse time).machine
  | .updateKey code pressed => (m.updateKey code pressed).toOption.getD m
  | .reset => m.reset
  | .scan => m.scanInPlace.2
  | .disassemble _ _ => m

/-- A machine that was made from a program image and on which any calls were made since. -/
inductive Reachable : Machine → Prop
  | create {image : Array UInt8} {speed : Number} {generator : Generator} {m : Machine} :
      Machine.create image speed generator = .ok m → Reachable m
  | call {m : Machine} (c : Call) : Reachable m → Reachable (m.after c)

theorem Reachable.step {m : Machine} (h : m.Reachable) : m.step.machine.Reachable := h.call .step

theorem reachable_fresh (image : Array UInt8) {n : Nat} (hn : 0 < n) (generator : Generator) :
    (fresh image (max 1 (roundHalfEven 1000000 n)) (by omega) generator).Reachable :=
  .create (create_whole image hn generator)

/-! ## What a step keeps, a call keeps -/

section Kept

variable {P : Machine → Prop}

theorem runSlots_induct (hstep : ∀ m, m.state.awaiting = none → P m → P m.step.machine)
    (htime : ∀ m c t, P m → P (m.withTime c t)) (n : Nat) :
    ∀ (m : Machine) (trace : Array Int), P m → P (runSlots n m trace).machine := by
  induction n with
  | zero => exact fun _ _ h => h
  | succ n ih =>
    intro m trace h
    rw [runSlots]
    split
    · exact htime m _ _ h
    · rename_i hw
      have hs := hstep (m.charge 1) (Option.not_isSome_iff_eq_none.mp hw)
        (htime m (m.sinceCycle - 1 * m.cycle) m.sinceTimer h)
      simp only
      split
      · exact ih _ _ hs
      · exact hs

/-- **What a step that no awaited key holds up keeps whatever time is in store, and timer ticks
keep, a stretch of time keeps.** -/
theorem advance_induct (hstep : ∀ m, m.state.awaiting = none → P m → P m.step.machine)
    (htime : ∀ m c t, P m → P (m.withTime c t)) (htick : ∀ m, P m → P m.runTimers)
    {m : Machine} (micros : Int) (h : P m) : P (m.advance micros).machine := by
  rw [advance]
  split
  · exact h
  · have hrun := fun n => runSlots_induct hstep htime n _ #[]
      (htime m (m.sinceCycle + micros.toNat) (m.sinceTimer + micros.toNat) h)
    simp only
    split
    · exact hrun _
    · exact htick _ (hrun _)

/-- **What the parts of calls keep, every call keeps**, apart from a step and a reset. -/
theorem after_induct (hstep : ∀ m, m.state.awaiting = none → P m → P m.step.machine)
    (htime : ∀ m c t, P m → P (m.withTime c t)) (htick : ∀ m, P m → P m.runTimers)
    (hkey : ∀ m code pressed m', m.updateKey code pressed = .ok m' → P m → P m')
    {m : Machine} (h : P m) (c : Call) (hc : c = .step → P m.step.machine)
    (hreset : c = .reset → P m.reset) : P (m.after c) := by
  cases c with
  | step => exact hc rfl
  | advance micros => exact advance_induct hstep htime htick micros h
  | elapse time =>
    rw [after, elapse]
    split
    · exact advance_induct hstep htime htick _ h
    · exact h
  | updateKey code pressed =>
    rw [after]
    rcases hk : m.updateKey code pressed with _ | m'
    · exact h
    · exact hkey m code pressed m' hk h
  | reset => exact hreset rfl
  | scan => rwa [after, scanInPlace_eq]
  | disassemble => exact h

/-- **What every kind of call keeps, every reachable machine has.** -/
theorem Reachable.induct {m : Machine} (hm : m.Reachable)
    (hcreate : ∀ image speed generator m, Machine.create image speed generator = .ok m → P m)
    (hstep : ∀ m, P m → P m.step.machine) (htime : ∀ m c t, P m → P (m.withTime c t))
    (htick : ∀ m, P m → P m.runTimers)
    (hkey : ∀ m code pressed m', m.updateKey code pressed = .ok m' → P m → P m')
    (hreset : ∀ m, P m → P m.reset) : P m := by
  induction hm with
  | create h => exact hcreate _ _ _ _ h
  | @call m c _ ih =>
    exact after_induct (fun m _ => hstep m) htime htick hkey ih c (fun _ => hstep m ih)
      fun _ => hreset m ih

end Kept

end Machine

end Chip8
