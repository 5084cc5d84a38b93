import Mathlib
import Chip8.Proofs.Drive
import Chip8.Proofs.Waiting

/-!
# Proofs/Timers — a timer knows the time that passed and nothing else

What a timer will show after some more time, `Timer.due`, is the quantity that carries the proof: a
call that lets time pass takes its time from it, and no other call changes it (`due_after`), unless
an instruction sets the timer.  A whole row of calls therefore takes the time of the row from it
(`due_afterAll`), in whatever pieces, at whatever speed and whatever runs meanwhile.  The delay
timer is set by one instruction and the sound timer by none (`timers_afterAll`).
-/

namespace Chip8

/-! ## Timers -/

/-- One of the two timers. -/
inductive Timer
  | delay
  | sound

namespace Timer

/-- What a timer shows. -/
def value : Timer → State → Int
  | delay, s => s.registers.delay
  | sound, s => s.registers.sound

/-- An instruction sets a timer. -/
def SetBy : Timer → Instruction → Prop
  | delay, i => ∃ x, i = .setDelayTimer x
  | sound, _ => False

/-- **An instruction that does not set a timer leaves it alone**, also where it fails. -/
theorem value_effect (t : Timer) {i : Instruction} (hi : i.Fits) (hset : ¬ t.SetBy i) (s : State) :
    t.value (s.effect i) = t.value s := by
  have hsame := State.effect_changesOnly hi s
  cases t with
  | delay =>
    refine hsame .delay fun hmem => hset ?_
    cases i <;>
      simp_all [Instruction.writes, State.Part.v, State.Part.upTo, State.Part.bytes, SetBy]
  | sound =>
    refine hsame .sound ?_
    cases i <;> simp [Instruction.writes, State.Part.v, State.Part.upTo, State.Part.bytes]

theorem value_nonneg (t : Timer) {s : State} (h : s.Valid) : 0 ≤ t.value s := by
  cases t with
  | delay => exact h.delay.1
  | sound => exact h.sound.ge

theorem value_ticked (t : Timer) {s : State} (h : s.Valid) (ticks : Nat) :
    t.value (s.ticked ticks) = max 0 (t.value s - ticks) := by
  have hnonneg := t.value_nonneg h
  cases t <;> exact Machine.countDown_of_nonneg hnonneg ticks

end Timer

namespace Machine

/-! ## One call -/

/-- The words that a call runs. -/
def executed (m : Machine) : Call → List Int
  | .step => m.step.fetched.toList
  | .advance micros => (m.advance micros).trace.toList
  | .elapse time => (m.elapse time).trace.toList
  | _ => []

theorem executed_of_micros (m : Machine) {c : Call} {micros : Int} (h : c.micros? = some micros) :
    m.executed c = (m.advance micros).trace.toList := by
  cases c with
  | advance n =>
    obtain rfl := Option.some.inj h
    rfl
  | elapse time =>
    rw [Call.micros?] at h
    rcases ht : time.micros with _ | n <;> rw [ht] at h
    · cases h
    · obtain rfl := Option.some.inj h
      rw [executed, elapse, ht]
  | _ => cases h

theorem step_value (t : Timer) {m : Machine} (h : m.state.Valid)
    (hset : ∀ w ∈ m.step.fetched, ¬ t.SetBy (Instruction.decode w)) :
    t.value m.step.machine.state = t.value m.state := by
  by_cases hlt : m.counter < 0xFFF
  · rw [step_fetched h.counter.1, if_pos hlt] at hset
    rw [step_state h.counter.1 hlt, outcome_state h hlt]
    exact (t.value_effect m.next_fits (hset _ rfl) m.state.fetched).trans (by cases t <;> rfl)
  · rw [step_of_exhausted h.counter.1 (not_lt.mp hlt)]

/-- **Slots leave a timer alone that no instruction in them sets.** -/
theorem spend_value (t : Timer) (n : Nat) : ∀ {m : Machine}, m.state.Valid →
    (∀ w ∈ (spend n m).trace, ¬ t.SetBy (Instruction.decode w)) →
    t.value (spend n m).machine.state = t.value m.state := by
  induction n with
  | zero => exact fun _ _ => rfl
  | succ n ih =>
    intro m h hset
    by_cases hw : m.isWaiting = true
    · rw [spend_of_waiting hw]
      rfl
    · rw [spend_succ hw] at hset ⊢
      have hslot : (∀ w ∈ m.stepSlot.trace, ¬ t.SetBy (Instruction.decode w)) →
          t.value m.stepSlot.machine.state = t.value m.state := fun hfirst =>
        step_value t (m := m.charge 1) h fun w hw => hfirst w (Option.mem_toArray.mpr hw)
      rcases hf : m.stepSlot.failure with _ | e
      · rw [Stretch.andThen_of_none hf] at hset ⊢
        refine (ih (step_valid (m := m.charge 1) h) fun w hw => ?_).trans (hslot fun w hw => ?_)
        · exact hset w (Array.mem_append_right _ hw)
        · exact hset w (Array.mem_append_left _ hw)
      · rw [Stretch.andThen_of_some hf] at hset ⊢
        exact hslot hset

/-- A call that lets no time pass leaves a timer alone that it does not set. -/
theorem after_value (t : Timer) {m : Machine} (h : m.state.Valid) {c : Call} (hc : c.micros? = none)
    (hr : c ≠ .reset) (hset : ∀ w ∈ m.executed c, ¬ t.SetBy (Instruction.decode w)) :
    t.value (m.after c).state = t.value m.state := by
  cases c with
  | step => exact step_value t h fun w hw => hset w (Option.mem_toList.mpr hw)
  | advance => cases hc
  | elapse time =>
    rw [Call.micros?] at hc
    rcases ht : time.micros with _ | n <;> rw [ht] at hc
    · rw [after, elapse, ht]
    · cases hc
  | updateKey code pressed =>
    rw [after, updateKey_eq]
    split <;> cases t <;> rfl
  | reset => exact absurd rfl hr
  | scan => rw [after, scanInPlace_eq]
  | disassemble => rfl

/-- **A stretch of time that returns takes its ticks from a timer that nothing in it sets**, and
leaves less than one tick in store. -/
theorem advance_value (t : Timer) {m : Machine} (h : m.state.Valid) {n : Nat}
    (hf : (m.advance n).failure = none)
    (hset : ∀ w ∈ (m.advance n).trace, ¬ t.SetBy (Instruction.decode w)) :
    t.value (m.advance n).machine.state
        = max 0 (t.value m.state - ((m.sinceTimer + n) / timerPeriod : Nat)) ∧
      (m.advance n).machine.sinceTimer = (m.sinceTimer + n) % timerPeriod := by
  obtain ⟨hfail, htrace⟩ := m.advance_slots n
  rw [htrace] at hset
  have hspend := spend_value t ((m.sinceCycle + n) / m.cycle) h hset
  have hvalid := spend_valid ((m.sinceCycle + n) / m.cycle) h
  rw [advance_eq_spend (hfail.symm.trans hf)]
  refine ⟨(t.value_ticked hvalid _).trans ?_, rfl⟩
  rw [hspend]

/-! ## What a timer will show -/

end Machine

/-- The microseconds that a call lets pass. -/
def Call.lasts (c : Call) : Nat := (c.micros?.getD 0).toNat

namespace Machine

/-- What a timer will show after some more microseconds, if nothing sets it. -/
def due (t : Timer) (m : Machine) (micros : Nat) : Int :=
  max 0 (t.value m.state - ((m.sinceTimer + micros) / timerPeriod : Nat))

/-- A call goes on with a run: it is no reset, and if it lets time pass, it returns. -/
def Proceeds (m : Machine) (c : Call) : Prop :=
  c ≠ .reset ∧ ∀ micros, c.micros? = some micros → (m.advance micros).failure = none

theorem nonneg_of_returns {m : Machine} {micros : Int} (h : (m.advance micros).failure = none) :
    0 ≤ micros := by
  by_contra hneg
  rw [advance, if_pos (not_le.mp hneg)] at h
  cases h

/-- **A call takes its time from what is due, and nothing else.** -/
theorem due_after (t : Timer) {m : Machine} (h : m.state.Valid) {c : Call} (hc : m.Proceeds c)
    (hset : ∀ w ∈ m.executed c, ¬ t.SetBy (Instruction.decode w)) (later : Nat) :
    (m.after c).due t later = m.due t (c.lasts + later) := by
  rcases hmicros : c.micros? with _ | micros
  · have hvalue := after_value t h hmicros hc.1 hset
    obtain ⟨-, -, htimer⟩ := after_times m hmicros hc.1
    rw [due, due, hvalue, htimer, Call.lasts, hmicros]
    simp
  · have hf := hc.2 micros hmicros
    obtain ⟨n, rfl⟩ := Int.eq_ofNat_of_zero_le (nonneg_of_returns hf)
    rw [m.executed_of_micros hmicros] at hset
    obtain ⟨hvalue, htimer⟩ := advance_value t h hf fun w hw => hset w (Array.mem_toList_iff.mpr hw)
    rw [m.after_of_micros hmicros, due, due, hvalue, htimer, Call.lasts, hmicros]
    simp only [Option.getD_some, Int.toNat_natCast, timerPeriod]
    omega

/-! ## Calls in a row -/

/-- The machine that some calls leave. -/
def afterAll (m : Machine) (calls : List Call) : Machine := calls.foldl after m

/-- The words that some calls run. -/
def executedAll : Machine → List Call → List Int
  | _, [] => []
  | m, c :: calls => m.executed c ++ executedAll (m.after c) calls

/-- Every one of some calls goes on with the run. -/
def ProceedsAll : Machine → List Call → Prop
  | _, [] => True
  | m, c :: calls => m.Proceeds c ∧ ProceedsAll (m.after c) calls

theorem after_valid {m : Machine} (h : m.state.Valid) (c : Call) : (m.after c).state.Valid :=
  after_induct (P := fun m => m.state.Valid) (fun _ _ => step_valid) (fun _ _ _ h => h)
    (fun _ => runTimers_valid) (fun _ _ _ _ hk h => updateKey_valid h hk) h c
    (fun _ => step_valid h) fun _ => State.valid_initial _ _

/-- **Calls in a row take their whole time from what is due.** -/
theorem due_afterAll (t : Timer) (calls : List Call) : ∀ {m : Machine}, m.state.Valid →
    m.ProceedsAll calls → (∀ w ∈ m.executedAll calls, ¬ t.SetBy (Instruction.decode w)) →
    ∀ later, (m.afterAll calls).due t later = m.due t ((calls.map Call.lasts).sum + later) := by
  induction calls with
  | nil =>
    intro m _ _ _ later
    rw [List.map_nil, List.sum_nil, Nat.zero_add]
    rfl
  | cons c calls ih =>
    intro m h hc hset later
    obtain ⟨hfirst, hrest⟩ := hc
    have hset' := fun w hw => hset w (List.mem_append_right _ hw)
    rw [List.map_cons, List.sum_cons, Nat.add_assoc,
      ← due_after t h hfirst fun w hw => hset w (List.mem_append_left _ hw)]
    exact ih (after_valid h c) hrest hset' later

theorem sinceTimer_after {m : Machine} {c : Call} (hc : m.Proceeds c)
    (hlt : m.sinceTimer < timerPeriod ∨ c.micros?.isSome) :
    (m.after c).sinceTimer < timerPeriod := by
  rcases hmicros : c.micros? with _ | micros
  · obtain ⟨-, -, htimer⟩ := after_times m hmicros hc.1
    rw [htimer]
    exact hlt.resolve_right (by simp [hmicros])
  · obtain ⟨slots, ticks, hl⟩ := m.advance_lapse micros
    rw [m.after_of_micros hmicros]
    exact (hl.times.2.2.2 (hc.2 micros hmicros)).2

/-- Less than one tick is in store behind calls one of which lets time pass. -/
theorem sinceTimer_afterAll (calls : List Call) : ∀ {m : Machine}, m.ProceedsAll calls →
    (m.sinceTimer < timerPeriod ∨ ∃ c ∈ calls, c.micros?.isSome) →
    (m.afterAll calls).sinceTimer < timerPeriod := by
  induction calls with
  | nil => exact fun _ hlt => hlt.resolve_right (by simp)
  | cons c calls ih =>
    intro m hc hlt
    obtain ⟨hfirst, hrest⟩ := hc
    refine ih hrest ?_
    obtain hm | ⟨c', hmem, htime⟩ := hlt
    · exact .inl (sinceTimer_after hfirst (.inl hm))
    · obtain rfl | hmem := List.mem_cons.mp hmem
      · exact .inl (sinceTimer_after hfirst (.inr htime))
      · exact .inr ⟨c', hmem, htime⟩

theorem afterAll_valid (calls : List Call) : ∀ {m : Machine}, m.state.Valid →
    (m.afterAll calls).state.Valid := by
  induction calls with
  | nil => exact fun h => h
  | cons c calls ih => exact fun h => ih (after_valid h c)

/-- A timer behind calls one of which lets time pass. -/
theorem value_afterAll (t : Timer) {m : Machine} (h : m.state.Valid) {calls : List Call}
    (hc : m.ProceedsAll calls) (htime : ∃ c ∈ calls, c.micros?.isSome)
    (hset : ∀ w ∈ m.executedAll calls, ¬ t.SetBy (Instruction.decode w)) :
    t.value (m.afterAll calls).state = m.due t (calls.map Call.lasts).sum := by
  -- less than one tick is in store at the end, so that what is due then is what the timer shows
  have hticks : (m.afterAll calls).sinceTimer / timerPeriod = 0 :=
    Nat.div_eq_of_lt (sinceTimer_afterAll calls hc (.inr htime))
  have hdue := due_afterAll t calls h hc hset 0
  rw [Nat.add_zero, due, Nat.add_zero, hticks] at hdue
  rw [← hdue]
  have hnonneg := t.value_nonneg (afterAll_valid calls h)
  omega

/-- A step that comes to await a key, two pieces of time, and a key that goes up between them: all
of it goes on, and nothing runs but the word at the counter. -/
theorem proceedsAll_await {m : Machine} (h : m.state.Valid) (hlt : m.counter < 0xFFF) {x : Int}
    (hnext : m.next = .awaitKeyPress x) (a b : Nat) :
    m.ProceedsAll [.step, .advance a, .updateKey 5 false, .advance b] ∧
      m.executedAll [.step, .advance a, .updateKey 5 false, .advance b]
        = [m.state.memory.wordAt m.counter] := by
  obtain ⟨-, hstep⟩ := step_of_next h hlt hnext rfl
  have hr : (m.after .step).state.awaiting = some (Nibble.ofInt x) := by
    rw [after, hstep]
    rfl
  have hr' := (idleAll_stays [.advance a, .key 5 false (by decide)] hr).awaiting_eq.trans hr
  have hfirst : (m.after .step).advance a = Machine.still _ := advance_of_awaiting hr a
  have hsecond : ((m.after .step).after (.advance a) |>.after (.updateKey 5 false)).advance b
      = Machine.still _ := advance_of_awaiting hr' b
  refine ⟨⟨⟨by simp, fun _ h => by cases h⟩, ⟨by simp, fun _ h => ?_⟩,
    ⟨by simp, fun _ h => by cases h⟩, ⟨by simp, fun _ h => ?_⟩, trivial⟩, ?_⟩
  · obtain rfl := Option.some.inj h
    rw [hfirst, still]
  · obtain rfl := Option.some.inj h
    rw [hsecond, still]
  · simp only [executedAll, executed, hfirst, hsecond, still, step_fetched h.counter.1, if_pos hlt]
    rfl

/-- **A timer knows the time that passed and nothing else.**  After calls of which none resets the
machine, at least one lets time pass and all that do return, the delay timer is down by the ticks
that were due, and not below zero, if no instruction sets it; so is the sound timer, whatever
instructions run. -/
theorem timers_afterAll {m : Machine} (h : m.Reachable) {calls : List Call}
    (hc : m.ProceedsAll calls) (htime : ∃ c ∈ calls, c.micros?.isSome) :
    let ticks : Nat := (m.sinceTimer + (calls.map Call.lasts).sum) / timerPeriod
    ((∀ w ∈ m.executedAll calls, ∀ x, Instruction.decode w ≠ .setDelayTimer x) →
      (m.afterAll calls).state.registers.delay = max 0 (m.state.registers.delay - ticks)) ∧
    (m.afterAll calls).state.registers.sound = max 0 (m.state.registers.sound - ticks) := by
  intro ticks
  refine ⟨fun hset => ?_, ?_⟩
  · exact value_afterAll .delay h.valid hc htime fun w hw ⟨x, hx⟩ => hset w hw x hx
  · exact value_afterAll .sound h.valid hc htime fun _ _ hset => hset

/-- Sixty milliseconds in two pieces, with a step before them and a key event between, while a delay
timer of nine runs: three ticks, one of them out of what both pieces left over. -/
theorem timers_afterAll_pieces :
    let m := fresh #[0x60, 0x09, 0xF0, 0x15, 0xF0, 0x0A] 2000 (by decide) (.cycling #[])
    let calls : List Call := [.step, .advance 20000, .updateKey 5 false, .advance 40000]
    (m.step.machine.step.machine.Reachable ∧ m.step.machine.step.machine.ProceedsAll calls ∧
      (∃ c ∈ calls, c.micros?.isSome) ∧
      ∀ w ∈ m.step.machine.step.machine.executedAll calls,
        ∀ x, Instruction.decode w ≠ .setDelayTimer x) ∧
    (m.step.machine.step.machine.afterAll calls).state.registers.delay = 6 := by
  intro m calls
  have hm : m.Reachable := reachable_fresh _ (n := 500) (by decide) _
  have hnext : m.next = .loadData 0 9 := by rw [next_fresh]; rfl
  obtain ⟨-, hstep⟩ := step_of_next hm.valid (by decide) hnext rfl
  have hmem : m.step.machine.state.memory = { m.state.memory with counter := 2 } := by
    rw [hstep]
    rfl
  have hnext₁ : m.step.machine.next = .setDelayTimer 0 := by
    rw [next_of_load (n := 2) (by decide) hmem]
    rfl
  obtain ⟨-, hstep₁⟩ := step_of_next hm.step.valid (by rw [counter, hmem]; decide) hnext₁ rfl
  have hmem₁ : m.step.machine.step.machine.state.memory
      = { m.state.memory with counter := 4 } := by
    rw [hstep₁, State.effect, State.fetched_memory, hmem]
    rfl
  have hdelay : m.step.machine.step.machine.state.registers.delay = 9 := by
    rw [hstep₁, State.effect, State.value_fetched, hstep, State.effect, State.value_put]
    rfl
  have hnext₂ : m.step.machine.step.machine.next = .awaitKeyPress 0 := by
    rw [next_of_load (n := 4) (by decide) hmem₁]
    rfl
  have hlt : m.step.machine.step.machine.counter < 0xFFF := by rw [counter, hmem₁]; decide
  have hreach := hm.step.step
  have htimer : m.step.machine.step.machine.sinceTimer = 0 := by
    rw [step_machine, step_machine]
    rfl
  obtain ⟨hc, hwords⟩ := proceedsAll_await hreach.valid hlt hnext₂ 20000 40000
  have htime : ∃ c ∈ calls, c.micros?.isSome := ⟨.advance 20000, by simp [calls], rfl⟩
  have hset : ∀ w ∈ m.step.machine.step.machine.executedAll calls,
      ∀ x, Instruction.decode w ≠ .setDelayTimer x := by
    intro w hw x
    obtain rfl := List.mem_singleton.mp (hwords ▸ hw)
    rw [show Instruction.decode _ = _ from hnext₂]
    simp
  refine ⟨⟨hreach, hc, htime, hset⟩, ((timers_afterAll hreach hc htime).1 hset).trans ?_⟩
  rw [hdelay, htimer]
  decide

end Machine

end Chip8
