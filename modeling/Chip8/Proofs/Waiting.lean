import Mathlib
import Chip8.Proofs.Listing
import Chip8.Proofs.Returns

/-!
# Proofs/Waiting — while a key is awaited

An `IdleCall` lets time pass, lets a key go up, or only looks.  As long as a key is awaited, idle
calls change nothing but the keys, the timers and the times in store (`idleAll_stays`), and each of
them fails exactly where its arguments are wrong (`idle_failure`).  Slots that pass meanwhile are
used up: when a key goes down, the next stretch of time has only its own slots and what was left of
one, and it starts at the counter (`waiting_protocol`).  The counter is behind the instruction that
awaits the key, unless a step was taken while the key was awaited (`Patient.behind`): a step does
not look whether one is.
-/

namespace Chip8

/-! ## The first words of a row of slots -/

namespace Machine

/-- A slot runs at most one word. -/
theorem size_stepSlot_trace (m : Machine) : m.stepSlot.trace.size ≤ 1 := by
  rw [stepSlot]
  rcases (m.charge 1).step.fetched with _ | w <;> simp

theorem size_spend_trace (n : Nat) : ∀ m : Machine, (spend n m).trace.size ≤ n := by
  induction n with
  | zero => exact fun _ => le_refl 0
  | succ n ih =>
    intro m
    by_cases hw : m.isWaiting = true
    · rw [spend_of_waiting hw]
      exact Nat.zero_le _
    · have hslot := m.size_stepSlot_trace
      rw [spend_succ hw]
      rcases hf : m.stepSlot.failure with _ | e
      · have hrest := ih m.stepSlot.machine
        rw [Stretch.andThen_of_none hf]
        simp only [Array.size_append]
        omega
      · rw [Stretch.andThen_of_some hf]
        omega

/-- The first word that a row of slots runs is the one at the counter. -/
theorem spend_trace_head {m : Machine} (h : m.state.Valid) (hw : ¬ m.isWaiting = true) (n : Nat) :
    (spend n m).trace[0]? =
      if 0 < n ∧ m.counter < 0xFFF then some (m.state.memory.wordAt m.counter) else none := by
  cases n with
  | zero => simp [spend_zero, still]
  | succ n =>
    have hword : (m.charge 1).step.fetched =
        if m.counter < 0xFFF then some (m.state.memory.wordAt m.counter) else none :=
      step_fetched (m := m.charge 1) h.counter.1
    rw [spend_succ hw]
    by_cases hlt : m.counter < 0xFFF
    · rw [if_pos hlt] at hword
      rw [if_pos ⟨Nat.succ_pos n, hlt⟩]
      rcases hf : m.stepSlot.failure with _ | e
      · rw [Stretch.andThen_of_none hf]
        simp [stepSlot, hword]
      · rw [Stretch.andThen_of_some hf]
        simp [stepSlot, hword]
    · have hexhausted := step_of_exhausted (m := m.charge 1) h.counter.1 (not_lt.mp hlt)
      have hf : m.stepSlot.failure = some (.fault (.programExhausted m.counter)) := by
        rw [stepSlot, hexhausted]
        rfl
      rw [Stretch.andThen_of_some hf, if_neg fun hn => hlt hn.2, stepSlot, hexhausted]
      rfl

end Machine

/-! ## Disassembly -/

/-- The failure of a result, if it is one. -/
def failureOf {α : Type} : Except Failure α → Option Failure
  | .ok _ => none
  | .error e => some e

namespace Memory

/-- **A disassembly fails only where it starts below zero**, and has a word to read there. -/
theorem failureOf_disassemble (m : Memory) (start length : Int) :
    failureOf (m.disassemble start length) =
      if start < 0 ∧ 2 ≤ length then some (.fault (.invalidAddress start)) else none := by
  rw [disassemble]
  by_cases hbad : start < 0 ∧ 2 ≤ length
  · obtain ⟨n, hn⟩ : ∃ n, ((min (start + length) 0x1000 - start) / 2).toNat = n + 1 :=
      ⟨((min (start + length) 0x1000 - start) / 2).toNat - 1, by omega⟩
    have hpeek : m.peek start = .error (.fault (.invalidAddress start)) := by
      rw [peek_eq, if_neg (by omega), if_neg (by omega)]
    rw [if_pos hbad, hn, lines, hpeek]
    rfl
  · rw [if_neg hbad]
    by_cases h0 : 0 ≤ start
    · by_cases hn : ((min (start + length) 0x1000 - start) / 2).toNat = 0
      · simp only [hn]
        rfl
      · simp only [m.lines_eq ((min (start + length) 0x1000 - start) / 2).toNat h0 (by omega)]
        rfl
    · have hn : ((min (start + length) 0x1000 - start) / 2).toNat = 0 := by omega
      simp only [hn]
      rfl

end Memory

/-! ## Idle calls -/

/-- A call that presses no key and takes no step of its own: time passes, a key goes up, a key that
does not exist goes down, or a host looks at a key, at the program or at the memory. -/
inductive IdleCall
  | advance (micros : Nat)
  | key (code : Int) (pressed : Bool) (idle : pressed = true → ¬ (0 ≤ code ∧ code < 16))
  | isPressed (code : Int)
  | scan
  | disassemble (start length : Int)

/-- How a call with a key code fails: at a code that is no key's there is a fault that shows it,
and a refusal in its place where it has too many digits to be shown. -/
def keyFailure (code : Int) : Option Failure :=
  if 0 ≤ code ∧ code < 16 then none
  else if Decimal.isLong code then some (.refusal .longNumber)
  else some (.fault (.invalidKey code))

/-- How an idle call fails while a key is awaited. -/
def IdleCall.failure : IdleCall → Option Failure
  | advance _ => none
  | key code _ _ => keyFailure code
  | isPressed code => keyFailure code
  | scan => none
  | disassemble start length =>
    if start < 0 ∧ 2 ≤ length then some (.fault (.invalidAddress start)) else none

namespace Machine

/-- The machine that an idle call leaves, and how the call fails. -/
def idle (m : Machine) : IdleCall → Machine × Option Failure
  | .advance micros => ((m.advance micros).machine, (m.advance micros).failure)
  | .key code pressed _ =>
    ((m.updateKey code pressed).toOption.getD m, failureOf (m.updateKey code pressed))
  | .isPressed code => (m, failureOf (m.state.isPressed code))
  | .scan => (m.scanInPlace.2, none)
  | .disassemble start length => (m, failureOf (m.state.memory.disassemble start length))

/-- The machine that some idle calls leave. -/
def idleAll (m : Machine) (calls : List IdleCall) : Machine :=
  calls.foldl (fun m c => (m.idle c).1) m

/-- The machine with other keys, timers and times in store. -/
def idled (m : Machine) (keys : Bank Bool) (delay sound : Int) (c t : Nat) : Machine :=
  { m with
    state := { m.state with keys, registers := { m.state.registers with delay, sound } }
    sinceCycle := c
    sinceTimer := t }

/-- A machine that differs at most in the keys, the timers and the times in store. -/
def Stays (m m' : Machine) : Prop := ∃ keys delay sound c t, m' = m.idled keys delay sound c t

/-- The machine whose awaited key went down: the key is held, its number is in the register, and no
key is awaited. -/
def woken (m : Machine) (r k : Nibble) : Machine :=
  { m with state := { m.state with
      keys := m.state.keys.write k true
      registers := { m.state.registers with
        data := m.state.registers.data.write r (UInt8.ofNat k) }
      awaiting := none } }

variable {m m' m'' : Machine} {r : Nibble}

namespace Stays

theorem refl (m : Machine) : m.Stays m := ⟨_, _, _, _, _, rfl⟩

theorem trans (h : m.Stays m') (h' : m'.Stays m'') : m.Stays m'' := by
  obtain ⟨_, _, _, _, _, rfl⟩ := h
  obtain ⟨keys, delay, sound, c, t, rfl⟩ := h'
  exact ⟨keys, delay, sound, c, t, rfl⟩

theorem awaiting_eq (h : m.Stays m') : m'.state.awaiting = m.state.awaiting := by
  obtain ⟨_, _, _, _, _, rfl⟩ := h
  rfl

theorem memory_eq (h : m.Stays m') : m'.state.memory = m.state.memory := by
  obtain ⟨_, _, _, _, _, rfl⟩ := h
  rfl

theorem cycle_eq (h : m.Stays m') : m'.cycle = m.cycle := by
  obtain ⟨_, _, _, _, _, rfl⟩ := h
  rfl

end Stays

theorem isWaiting_of_awaiting (hr : m.state.awaiting = some r) : m.isWaiting = true := by
  rw [isWaiting, hr]
  rfl

/-- **While a key is awaited, time only ticks.** -/
theorem advance_of_awaiting (hr : m.state.awaiting = some r) (n : Nat) :
    m.advance n = ((m.ticked ((m.sinceTimer + n) / timerPeriod)).withTime
      ((m.sinceCycle + n) % m.cycle) ((m.sinceTimer + n) % timerPeriod)).still := by
  have hspend := spend_of_waiting (isWaiting_of_awaiting hr) ((m.sinceCycle + n) / m.cycle)
  rw [advance_eq_spend (by rw [hspend]; rfl), hspend]
  rfl

theorem updateKey_woken (hr : m.state.awaiting = some r) (k : Nibble) :
    m.updateKey (k : Nat) true = .ok (m.woken r k) := by
  rw [updateKey_nibble]
  simp only [keyed, hr]
  rfl

theorem keyFailure_eq (code : Int) : keyFailure code =
    if 0 ≤ code ∧ code < 16 then none else some (Fault.invalidKey code).raised := by
  rw [keyFailure, Fault.raised, Fault.hasLongNumber]
  split_ifs <;> rfl

theorem failureOf_updateKey (m : Machine) (code : Int) (pressed : Bool) :
    failureOf (m.updateKey code pressed) = keyFailure code := by
  rw [updateKey_eq, keyFailure_eq]
  split <;> rfl

/-- **While a key is awaited, an idle call changes nothing but keys, timers and times in store.** -/
theorem idle_stays (hr : m.state.awaiting = some r) (c : IdleCall) : m.Stays (m.idle c).1 := by
  cases c with
  | advance micros =>
    rw [idle, advance_of_awaiting hr]
    exact ⟨_, _, _, _, _, rfl⟩
  | key code pressed hidle =>
    rw [idle, updateKey_eq]
    split
    · have hup : pressed = false := by
        rw [← Bool.not_eq_true]
        exact fun hdown => hidle hdown ‹_›
      refine ⟨m.state.keys.write (Nibble.ofInt code) false, m.state.registers.delay,
        m.state.registers.sound, m.sinceCycle, m.sinceTimer, ?_⟩
      simp only [hup, keyed, idled, hr]
      rfl
    · exact Stays.refl m
  | scan =>
    rw [idle, scanInPlace_eq]
    exact Stays.refl m
  | isPressed | disassemble => exact Stays.refl m

/-- **While a key is awaited, an idle call fails only on its own arguments.** -/
theorem idle_failure (hr : m.state.awaiting = some r) (c : IdleCall) :
    (m.idle c).2 = c.failure := by
  cases c with
  | advance micros =>
    rw [idle, advance_of_awaiting hr]
    rfl
  | key code pressed => exact m.failureOf_updateKey code pressed
  | isPressed code =>
    rw [idle, State.isPressed_eq, IdleCall.failure, keyFailure_eq]
    split <;> rfl
  | scan => rfl
  | disassemble start length => exact m.state.memory.failureOf_disassemble start length

theorem idleAll_stays (calls : List IdleCall) : ∀ {m : Machine}, m.state.awaiting = some r →
    m.Stays (m.idleAll calls) := by
  induction calls with
  | nil => exact fun {m} _ => Stays.refl m
  | cons c calls ih =>
    intro m hr
    have hc := idle_stays hr c
    exact hc.trans (ih (hc.awaiting_eq.trans hr))

theorem idleAll_reachable (calls : List IdleCall) : ∀ {m : Machine}, m.Reachable →
    (m.idleAll calls).Reachable := by
  induction calls with
  | nil => exact fun h => h
  | cons c calls ih =>
    intro m h
    refine ih ?_
    cases c with
    | advance micros => exact h.call (.advance micros)
    | key code pressed => exact h.call (.updateKey code pressed)
    | scan => exact h.call .scan
    | isPressed | disassemble => exact h

/-! ## The time that is left -/

theorem idle_advance_sinceCycle (hr : m.state.awaiting = some r) (n : Nat) :
    (m.idle (.advance n)).1.sinceCycle < m.cycle := by
  rw [idle, advance_of_awaiting hr]
  exact Nat.mod_lt _ m.cycle_pos

theorem idle_sinceCycle (hr : m.state.awaiting = some r) (h : m.sinceCycle < m.cycle)
    (c : IdleCall) : (m.idle c).1.sinceCycle < m.cycle := by
  cases c with
  | advance n => exact idle_advance_sinceCycle hr n
  | key code pressed =>
    rw [idle, updateKey_eq]
    split <;> exact h
  | scan => rwa [idle, scanInPlace_eq]
  | isPressed | disassemble => exact h

/-- **Once time has passed in a wait, less than one slot is left.** -/
theorem idleAll_sinceCycle (calls : List IdleCall) : ∀ {m : Machine}, m.state.awaiting = some r →
    (m.sinceCycle < m.cycle ∨ ∃ n, .advance n ∈ calls) →
    (m.idleAll calls).sinceCycle < m.cycle := by
  induction calls with
  | nil => exact fun {m} _ h => h.resolve_right (by simp)
  | cons c calls ih =>
    intro m hr h
    have hc := idle_stays hr c
    rw [← hc.cycle_eq]
    refine ih (hc.awaiting_eq.trans hr) ?_
    rw [hc.cycle_eq]
    obtain hlt | ⟨n, hn⟩ := h
    · exact .inl (idle_sinceCycle hr hlt c)
    · obtain rfl | hn := List.mem_cons.mp hn
      · exact .inl (idle_advance_sinceCycle hr n)
      · exact .inr ⟨n, hn⟩

/-- **The slots behind a wait** are those that the time in store and the time that passes make, and
they begin at the counter. -/
theorem woken_advance (h : m.state.Valid) (r k : Nibble) (n : Nat) :
    ((m.woken r k).advance n).trace.size ≤ (m.sinceCycle + n) / m.cycle ∧
      ((m.woken r k).advance n).trace[0]? =
        if m.cycle ≤ m.sinceCycle + n ∧ m.counter < 0xFFF then
          some (m.state.memory.wordAt m.counter)
        else none := by
  have hslots : 0 < (m.sinceCycle + n) / m.cycle ↔ m.cycle ≤ m.sinceCycle + n := by
    simp [Nat.div_pos_iff, m.cycle_pos]
  have hvalid : (m.woken r k).state.Valid := { h with }
  have hhead := spend_trace_head hvalid (by simp [isWaiting, woken]) ((m.sinceCycle + n) / m.cycle)
  simp only [hslots] at hhead
  rw [(Machine.advance_slots _ n).2]
  exact ⟨size_spend_trace _ _, hhead⟩

/-! ## Where a wait begins -/

/-- A machine on which no step was taken since it last began to await a key. -/
inductive Patient : Machine → Prop
  | free {m : Machine} : m.Reachable → m.state.awaiting = none → Patient m
  | call {m : Machine} (c : Call) : Patient m → (c = .step → m.state.awaiting = none) →
      Patient (m.after c)

theorem Patient.reachable (h : m.Patient) : m.Reachable := by
  induction h with
  | free h => exact h
  | call c _ _ ih => exact ih.call c

theorem Patient.step (h : m.Patient) (hn : m.state.awaiting = none) : m.step.machine.Patient :=
  h.call .step fun _ => hn

/-- The counter is behind an instruction that awaits the key that is awaited, if one is. -/
def Behind (m : Machine) : Prop :=
  ∀ r : Nibble, m.state.awaiting = some r → 0x202 ≤ m.counter ∧
    Instruction.decode (m.state.memory.wordAt (m.counter - 2)) = .awaitKeyPress (r : Nat)

/-- **A step that no awaited key holds up leaves the counter behind its instruction** where it
begins to await one. -/
theorem step_behind (h : m.state.Valid) (hn : m.state.awaiting = none) :
    m.step.machine.Behind := by
  by_cases hlt : m.counter < 0xFFF
  · have hstate : m.step.machine.state = m.state.fetched.effect m.next := by
      rw [step_state h.counter.1 hlt, outcome_state h hlt]
    by_cases hawait : ∃ x, m.next = .awaitKeyPress x
    · obtain ⟨x, hx⟩ := hawait
      have hfits : 0 ≤ x ∧ x < 16 := by
        have hfits := m.next_fits
        rw [hx] at hfits
        exact hfits (.x, x) (by simp [Instruction.fields])
      rw [hx] at hstate
      intro r hr
      rw [hstate] at hr
      have hr' : ((r : Nat) : Int) = x := by
        rw [← Option.some.inj hr, Nibble.ofInt]
        simp only
        omega
      have hcounter : m.step.machine.counter = m.counter + 2 := by
        rw [counter, hstate]
        simp only [State.effect, State.fetched_memory, counter, Memory.counterAddress]
        omega
      have hword : m.step.machine.state.memory.wordAt m.counter
          = m.state.memory.wordAt m.counter := by
        rw [hstate]
        rfl
      rw [hcounter, Int.add_sub_cancel, hword, hr']
      refine ⟨?_, hx⟩
      have hc := h.counter.1
      simp only [counter, Memory.counterAddress]
      omega
    · intro r hr
      rw [hstate, State.effect_awaiting m.next_fits m.state.fetched hawait] at hr
      rw [show m.state.fetched.awaiting = none from hn] at hr
      cases hr
  · intro r hr
    rw [step_of_exhausted h.counter.1 (not_lt.mp hlt)] at hr
    rw [hn] at hr
    cases hr

theorem Patient.behind (h : m.Patient) : m.Behind := by
  induction h with
  | free _ hn =>
    intro r hr
    rw [hn] at hr
    cases hr
  | @call m c hp hs ih =>
    have hv := hp.reachable.valid
    -- validity goes along, since only a valid machine steps as `step_behind` says
    refine (after_induct (P := fun m => m.state.Valid ∧ m.Behind)
      (fun _ hn h => ⟨step_valid h.1, step_behind h.1 hn⟩) (fun _ _ _ h => h)
      (fun _ h => ⟨runTimers_valid h.1, h.2⟩) (fun m code pressed m' hk h => ?_) ⟨hv, ih⟩ c
      (fun hc => ⟨step_valid hv, step_behind hv (hs hc)⟩)
      (fun _ => ⟨State.valid_initial _ _, fun r hr => by cases hr⟩)).2
    refine ⟨updateKey_valid h.1 hk, ?_⟩
    obtain rfl := eq_keyed_of_updateKey hk
    cases pressed with
    | false => exact h.2
    | true => exact fun r hr => by cases hr

/-! ## The wait as a whole -/

/-- **Waiting for a key.**  Any idle calls leave the machine as it is but for keys, timers and times
in store, and an idle call behind them fails only on its own arguments.  The first key that goes
down then is put into the register, is held, and ends the wait, and nothing else changes.  If time
passed in the wait, less than one slot is left over, and the next stretch of time runs no more words
than its slots, beginning with the one at the counter, where the wait found it.  That one is behind
the instruction that awaits the key if no step was taken since. -/
theorem waiting_protocol (h : m.Reachable) (hr : m.state.awaiting = some r)
    (calls : List IdleCall) :
    m.Stays (m.idleAll calls) ∧
    (∀ c : IdleCall, ((m.idleAll calls).idle c).2 = c.failure) ∧
    (∀ k : Nibble, (m.idleAll calls).updateKey (k : Nat) true
      = .ok ((m.idleAll calls).woken r k)) ∧
    ((∃ n, .advance n ∈ calls) → (m.idleAll calls).sinceCycle < m.cycle ∧
      ∀ (k : Nibble) (n : Nat), (((m.idleAll calls).woken r k).advance n).trace.size
          ≤ ((m.idleAll calls).sinceCycle + n) / m.cycle ∧
        (((m.idleAll calls).woken r k).advance n).trace[0]? =
          if m.cycle ≤ (m.idleAll calls).sinceCycle + n ∧ m.counter < 0xFFF then
            some (m.state.memory.wordAt m.counter)
          else none) ∧
    (m.Patient → 0x202 ≤ m.counter ∧
      Instruction.decode (m.state.memory.wordAt (m.counter - 2)) = .awaitKeyPress (r : Nat)) := by
  have hstays := idleAll_stays calls hr
  have hr' := hstays.awaiting_eq.trans hr
  refine ⟨hstays, idle_failure hr', updateKey_woken hr', fun hadvance => ?_,
    fun hp => hp.behind r hr⟩
  refine ⟨idleAll_sinceCycle calls hr (.inr hadvance), fun k n => ?_⟩
  have hwoken := woken_advance (idleAll_reachable calls h).valid r k n
  rwa [hstays.cycle_eq, counter, hstays.memory_eq] at hwoken

/-- A wait in which time passes, a key is refused and the program is scanned. -/
theorem waiting_protocol_await :
    let m := fresh #[0xF0, 0x0A] 2000 (by decide) (.cycling #[])
    let calls : List IdleCall := [.advance 3500, .key 99 true (by decide), .scan]
    (m.step.machine.Reachable ∧ m.step.machine.state.awaiting = some 0 ∧
      (∃ n, .advance n ∈ calls) ∧ m.step.machine.Patient) ∧
    m.step.machine.Stays (m.step.machine.idleAll calls) ∧
    (m.step.machine.idleAll calls).sinceCycle < m.step.machine.cycle ∧
    0x202 ≤ m.step.machine.counter := by
  intro m calls
  have hm : m.Reachable := reachable_fresh _ (n := 500) (by decide) _
  have hnext : m.next = .awaitKeyPress 0 := by rw [next_fresh]; rfl
  have hr : m.step.machine.state.awaiting = some 0 := by
    rw [(step_of_next hm.valid (by decide) hnext rfl).2]
    rfl
  have hp : m.step.machine.Patient := (Patient.free hm rfl).step rfl
  have hcalls : ∃ n, .advance n ∈ calls := ⟨3500, List.mem_cons_self⟩
  obtain ⟨hstays, -, -, htime, hbehind⟩ := waiting_protocol hm.step hr calls
  exact ⟨⟨hm.step, hr, hcalls, hp⟩, hstays, (htime hcalls).1, (hbehind hp).1⟩

/-- A step that is taken in a wait can go back to the instruction that awaits the key, and then the
next stretch of time begins with that one again, and not with the one behind it. -/
theorem wait_stepped :
    let m := fresh #[0xF0, 0x0A, 0x12, 0x00] 2000 (by decide) (.cycling #[])
    (m.step.machine.step.machine.Reachable ∧ m.next = .awaitKeyPress 0 ∧
      m.step.machine.step.machine.state.awaiting = some 0) ∧
    (((m.step.machine.step.machine.idleAll [.advance 2000]).woken 0 5).advance 2000).trace[0]?
      = some (m.state.memory.wordAt m.counter) ∧
    m.state.memory.wordAt m.counter ≠ m.state.memory.wordAt (m.counter + 2) := by
  intro m
  have hm : m.Reachable := reachable_fresh _ (n := 500) (by decide) _
  have hnext : m.next = .awaitKeyPress 0 := by rw [next_fresh]; rfl
  obtain ⟨-, hstep⟩ := step_of_next hm.valid (by decide) hnext rfl
  have hmem : m.step.machine.state.memory = { m.state.memory with counter := 2 } := by
    rw [hstep]
    rfl
  -- the wait has begun, and the step in it goes back
  have hnext₁ : m.step.machine.next = .jump 0x200 := by
    rw [next_of_load (n := 2) (by decide) hmem]
    rfl
  obtain ⟨-, hstep₁⟩ := step_of_next hm.step.valid (by rw [counter, hmem]; decide) hnext₁ rfl
  have hr : m.step.machine.step.machine.state.awaiting = some 0 := by
    rw [hstep₁, State.effect_awaiting (hnext₁ ▸ next_fits _) _ (by simp), State.fetched_awaiting,
      hstep]
    rfl
  have hmem₁ : m.step.machine.step.machine.state.memory
      = { m.state.memory with counter := 0 } := by
    rw [hstep₁, State.effect, State.jumped, if_pos (by decide), State.fetched_memory, hmem]
    rfl
  have hfirst : m.step.machine.step.machine.state.memory.wordAt
      m.step.machine.step.machine.counter = m.state.memory.wordAt m.counter := by
    rw [counter, hmem₁, Memory.wordAt_counter]
    rfl
  have hstays := idleAll_stays [.advance 2000] hr
  obtain ⟨-, hhead⟩ := woken_advance (idleAll_reachable [.advance 2000] hm.step.step).valid 0 5 2000
  rw [hstays.cycle_eq, counter, hstays.memory_eq, step_cycle, step_cycle,
    if_pos ⟨Nat.le_add_left 2000 _, by rw [hmem₁]; decide⟩] at hhead
  refine ⟨⟨hm.step.step, hnext, hr⟩, hhead.trans (congrArg some hfirst), fun heq => ?_⟩
  -- the word behind the one that awaits the key is the jump
  have hbehind : m.state.memory.wordAt (m.counter + 2)
      = m.step.machine.state.memory.wordAt m.step.machine.counter := by
    rw [counter, counter, hmem, Memory.wordAt_counter]
    rfl
  have hsame : m.next = m.step.machine.next :=
    congrArg Instruction.decode (heq.trans hbehind)
  rw [hnext, hnext₁] at hsame
  cases hsame

end Machine

end Chip8
