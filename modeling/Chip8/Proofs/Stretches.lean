import Mathlib
import Chip8.Proofs.Effect

/-!
# Proofs/Stretches — time passes the same in one stretch or in many

A stretch of time is its slots and, behind them, its ticks.  Cut into pieces, the slots are the same
but ticks come between them, so that the timers are lower when an instruction runs.  The two
instructions that read or write the delay timer see this (`Instruction.usesDelay`); all others
commute with ticks (`step_ticked`), and slots and ticks add up over the pieces, remainders included
(`advance_add`).  Hence `advanceEach_eq_advance`.
-/

namespace Chip8

/-! ## One stretch behind another -/

/-- A stretch of time and, unless it failed, another behind it. -/
def Stretch.andThen (s : Stretch) (f : Machine → Stretch) : Stretch :=
  match s.failure with
  | some _ => s
  | none =>
    { machine := (f s.machine).machine
      trace := s.trace ++ (f s.machine).trace
      failure := (f s.machine).failure }

namespace Stretch

theorem andThen_of_none {s : Stretch} (h : s.failure = none) (f : Machine → Stretch) :
    s.andThen f =
      { machine := (f s.machine).machine
        trace := s.trace ++ (f s.machine).trace
        failure := (f s.machine).failure } := by
  rw [andThen, h]

theorem andThen_of_some {s : Stretch} {e : Failure} (h : s.failure = some e)
    (f : Machine → Stretch) : s.andThen f = s := by
  rw [andThen, h]

theorem andThen_assoc (s : Stretch) (f g : Machine → Stretch) :
    (s.andThen f).andThen g = s.andThen fun m => (f m).andThen g := by
  rcases hs : s.failure with _ | e
  · rcases hf : (f s.machine).failure with _ | e <;>
      simp only [andThen, hs, hf, Array.append_assoc]
  · simp only [andThen_of_some hs]

/-- The same stretch, left at another machine. -/
def leaving (s : Stretch) (m : Machine) : Stretch := { s with machine := m }

@[simp] theorem leaving_trace (s : Stretch) (m : Machine) : (s.leaving m).trace = s.trace := rfl

@[simp] theorem leaving_failure (s : Stretch) (m : Machine) :
    (s.leaving m).failure = s.failure := rfl

theorem leaving_andThen_of_none {s : Stretch} (h : s.failure = none) (m : Machine)
    (f : Machine → Stretch) : (s.leaving m).andThen f =
      { machine := (f m).machine
        trace := s.trace ++ (f m).trace
        failure := (f m).failure } :=
  andThen_of_none (s := s.leaving m) h f

theorem leaving_andThen_of_some {s : Stretch} {e : Failure} (h : s.failure = some e) (m : Machine)
    (f : Machine → Stretch) : (s.leaving m).andThen f = s.leaving m :=
  andThen_of_some (s := s.leaving m) h f

theorem andThen_failure_eq_none {s : Stretch} {f : Machine → Stretch} :
    (s.andThen f).failure = none ↔ s.failure = none ∧ (f s.machine).failure = none := by
  rcases hs : s.failure with _ | e
  · simp [andThen_of_none hs]
  · simp [andThen_of_some hs, hs]

end Stretch

namespace Machine

/-- The stretch that leaves a machine as it is. -/
def still (m : Machine) : Stretch := { machine := m, trace := #[], failure := none }

/-! ## Slots in a row -/

/-- Uses up a number of slots. -/
def spend (n : Nat) (m : Machine) : Stretch := runSlots n m #[]

/-- One slot in which an instruction runs. -/
def stepSlot (m : Machine) : Stretch where
  machine := (m.charge 1).step.machine
  trace := (m.charge 1).step.fetched.toArray
  failure := (m.charge 1).step.failure

/-- A slot that goes well runs the word at the counter. -/
theorem stepSlot_trace {m : Machine} (h : m.state.Valid) (hok : m.stepSlot.failure = none) :
    m.stepSlot.trace = #[m.state.memory.wordAt m.counter] := by
  have ho := (failure_eq_none_iff (m := m.charge 1) h).mp hok
  rw [stepSlot, step_of_none (m := m.charge 1) h ho]
  rfl

theorem runSlots_trace (n : Nat) : ∀ (m : Machine) (trace : Array Int),
    runSlots n m trace =
      { machine := (spend n m).machine
        trace := trace ++ (spend n m).trace
        failure := (spend n m).failure } := by
  have hpush : ∀ (o : Option Int) (trace : Array Int),
      o.elim trace trace.push = trace ++ o.elim #[] (#[] : Array Int).push := by
    rintro (_ | w) trace <;> simp
  induction n with
  | zero => simp [spend, runSlots]
  | succ n ih =>
    intro m trace
    rw [spend, runSlots, runSlots]
    split
    · simp
    · simp only
      split
      · rw [ih _ (Option.elim _ trace _), ih _ (Option.elim _ #[] _), hpush _ trace]
        simp only [Array.append_assoc]
      · rw [hpush _ trace]

theorem spend_zero (m : Machine) : spend 0 m = m.still := rfl

theorem spend_of_waiting {m : Machine} (h : m.isWaiting = true) (n : Nat) :
    spend n m = (m.charge n).still := by
  cases n with
  | zero => simp only [spend_zero, charge, Nat.zero_mul, Nat.sub_zero]
  | succ n => rw [spend, runSlots, if_pos (show m.state.awaiting.isSome = true from h), still]

theorem spend_succ {m : Machine} (h : ¬ m.isWaiting = true) (n : Nat) :
    spend (n + 1) m = m.stepSlot.andThen (spend n) := by
  have hpush : ∀ o : Option Int, o.elim #[] (#[] : Array Int).push = o.toArray := by
    rintro (_ | w) <;> rfl
  rw [spend, runSlots, if_neg (show ¬ m.state.awaiting.isSome = true from h), Stretch.andThen,
    stepSlot]
  simp only [Step.failure, hpush]
  rcases (m.charge 1).step.result with e | snapshot
  · rfl
  · exact runSlots_trace n _ _

/-- **Slots add up**, whatever they do. -/
theorem spend_add (a b : Nat) : ∀ m : Machine, spend (a + b) m = (spend a m).andThen (spend b) := by
  induction a with
  | zero =>
    intro m
    rw [Nat.zero_add, spend_zero, Stretch.andThen_of_none rfl]
    simp [still]
  | succ a ih =>
    intro m
    by_cases hw : m.isWaiting = true
    · rw [spend_of_waiting hw, spend_of_waiting hw, Stretch.andThen_of_none rfl]
      have hw' : (m.charge (a + 1)).isWaiting = true := hw
      simp [still, spend_of_waiting hw', charge_charge, Nat.add_comm]
    · rw [Nat.add_right_comm, spend_succ hw, spend_succ hw, Stretch.andThen_assoc]
      exact congrArg _ (funext ih)

/-- **Slots do the same whatever time is in store**, and take theirs from it. -/
theorem spend_withTime (n : Nat) : ∀ (m : Machine) (c t : Nat), ∃ c',
    spend n (m.withTime c t) = (spend n m).leaving ((spend n m).machine.withTime c' t) ∧
      ((spend n m).failure = none → c' = c - n * m.cycle) := by
  induction n with
  | zero =>
    intro m c t
    exact ⟨c, rfl, fun _ => by rw [Nat.zero_mul, Nat.sub_zero]⟩
  | succ n ih =>
    intro m c t
    by_cases hw : m.isWaiting = true
    · have hw' : (m.withTime c t).isWaiting = true := hw
      rw [spend_of_waiting hw, spend_of_waiting hw']
      exact ⟨c - (n + 1) * m.cycle, rfl, fun _ => rfl⟩
    · have hw' : ¬ (m.withTime c t).isWaiting = true := hw
      have hslot : (m.withTime c t).stepSlot
          = m.stepSlot.leaving (m.stepSlot.machine.withTime (c - m.cycle) t) := by
        have hcharge : (m.withTime c t).charge 1 = (m.charge 1).withTime (c - m.cycle) t := by
          simp only [charge, withTime, Nat.one_mul]
        simp only [stepSlot, hcharge, step_withTime]
        rfl
      rw [spend_succ hw, spend_succ hw', hslot]
      rcases hf : m.stepSlot.failure with _ | e
      · obtain ⟨c', heq, hc'⟩ := ih m.stepSlot.machine (c - m.cycle) t
        have hcycle : m.stepSlot.machine.cycle = m.cycle := by
          rw [stepSlot, step_cycle]
          rfl
        rw [Stretch.andThen_of_none hf, Stretch.leaving_andThen_of_none hf]
        refine ⟨c', by simp only [Stretch.leaving, heq], fun hn => ?_⟩
        rw [hc' hn, hcycle, Nat.sub_sub, Nat.succ_mul, Nat.add_comm]
      · rw [Stretch.andThen_of_some hf, Stretch.leaving_andThen_of_some hf]
        exact ⟨c - m.cycle, rfl, fun hn => by rw [hf] at hn; cases hn⟩

theorem spend_cycle (n : Nat) (m : Machine) : (spend n m).machine.cycle = m.cycle :=
  runSlots_induct (P := fun m' => m'.cycle = m.cycle)
    (fun m' _ h => m'.step_cycle.trans h) (fun _ _ _ h => h) n m #[] rfl

theorem spend_valid (n : Nat) {m : Machine} (h : m.state.Valid) :
    (spend n m).machine.state.Valid :=
  runSlots_induct (P := fun m => m.state.Valid) (fun _ _ => step_valid) (fun _ _ _ h => h) n m #[] h

/-! ## Ticks -/

end Machine

/-- Whether an instruction reads or writes the delay timer. -/
def Instruction.usesDelay : Instruction → Bool
  | loadDelayTimer _ => true
  | setDelayTimer _ => true
  | _ => false

namespace State

/-- The state in which both timers counted down some ticks. -/
def ticked (s : State) (ticks : Nat) : State :=
  { s with registers := { s.registers with
      delay := Machine.countDown s.registers.delay ticks
      sound := Machine.countDown s.registers.sound ticks } }

theorem ticked_ticked (s : State) (a b : Nat) : (s.ticked a).ticked b = s.ticked (a + b) := by
  have hcount : ∀ t : Int, Machine.countDown (Machine.countDown t a) b
      = Machine.countDown t (a + b) := by
    intro t
    simp only [Machine.countDown]
    split_ifs <;> omega
  simp only [ticked, hcount]

theorem jumped_ticked (s : State) (a : Int) (ticks : Nat) :
    (s.ticked ticks).jumped a = (s.jumped a).ticked ticks := by
  rw [jumped, jumped]
  split <;> rfl

theorem skipped_ticked (s : State) (c : Bool) (ticks : Nat) :
    (s.ticked ticks).skipped c = (s.skipped c).ticked ticks := by
  cases c <;> rfl

theorem stored_ticked (s : State) (row : List UInt8) (ticks : Nat) :
    (s.ticked ticks).stored row = (s.stored row).ticked ticks := by
  have hi : (s.ticked ticks).registers.i = s.registers.i := rfl
  rw [stored, stored, hi]
  split <;> rfl

theorem loadRow_ticked (ticks n : Nat) : ∀ (s : State) (r : Nat),
    (s.ticked ticks).loadRow r n = (s.loadRow r n).ticked ticks := by
  induction n with
  | zero => exact fun _ _ => rfl
  | succ n ih =>
    intro s r
    have hi : (s.ticked ticks).registers.i = s.registers.i := rfl
    rw [loadRow, loadRow, hi]
    split
    · exact ih (s.put r _) (r + 1)
    · rfl

/-- **Ticks commute with every instruction that does not use the delay timer.** -/
theorem effect_ticked {i : Instruction} (hi : ¬ i.usesDelay = true) (s : State) (ticks : Nat) :
    (s.ticked ticks).effect i = (s.effect i).ticked ticks := by
  cases i
  case loadDelayTimer | setDelayTimer => exact absurd rfl hi
  case ret =>
    have hstack : (s.ticked ticks).stack = s.stack := rfl
    rw [effect, effect, hstack]
    rcases s.stack.pop with f | ⟨a, t⟩
    · rfl
    · exact jumped_ticked { s with stack := t } a ticks
  case call a =>
    have hpush : (s.ticked ticks).stack.push (s.ticked ticks).memory.counterAddress
        = s.stack.push s.memory.counterAddress := rfl
    rw [effect, effect, hpush]
    rcases s.stack.push s.memory.counterAddress with f | t
    · rfl
    · exact jumped_ticked { s with stack := t } a ticks
  case jump a => exact jumped_ticked s a ticks
  case jumpFromOffset a => exact jumped_ticked s (s.value 0 + a) ticks
  case skipIfEqualData | skipIfNotEqualData | skipIfEqualRegister | skipIfNotEqualRegister =>
    exact skipped_ticked s _ ticks
  case skipIfPressed x | skipIfNotPressed x =>
    have hv : (s.ticked ticks).value x = s.value x := rfl
    rw [effect, effect, hv]
    split
    · rfl
    · exact skipped_ticked s _ ticks
  case draw x y rows =>
    have hr : (s.ticked ticks).registers.i = s.registers.i := rfl
    rw [effect, effect, hr]
    split_ifs <;> rfl
  case storeBcd | storeRegisters => exact stored_ticked s _ ticks
  case readRegisters x => exact loadRow_ticked ticks _ s 0
  all_goals rfl

theorem obstacle_ticked (s : State) (i : Instruction) (ticks : Nat) :
    (s.ticked ticks).obstacle i = s.obstacle i := by
  cases i <;> rfl

theorem Valid.ticked {s : State} (h : s.Valid) (ticks : Nat) : (s.ticked ticks).Valid :=
  { h with
    delay := Machine.countDown_bounds h.delay _
    sound := by simp only [State.ticked, h.sound, Machine.countDown, lt_self_iff_false, if_false] }

end State

namespace Machine

/-- The machine whose timers counted down some ticks. -/
def ticked (m : Machine) (ticks : Nat) : Machine := { m with state := m.state.ticked ticks }

theorem obstacle_ticked (m : Machine) (ticks : Nat) : (m.ticked ticks).obstacle = m.obstacle := by
  have hn : (m.ticked ticks).next = m.next := rfl
  have hc : (m.ticked ticks).counter = m.counter := rfl
  rw [obstacle, obstacle, hn, hc]
  exact congrArg _ (m.state.obstacle_ticked m.next ticks)

/-- **A step that does not use the delay timer does the same after some ticks.** -/
theorem step_ticked {m : Machine} (h : m.state.Valid) (hok : m.step.failure = none)
    (hi : ¬ m.next.usesDelay = true) (ticks : Nat) :
    (m.ticked ticks).step = { m.step with machine := m.step.machine.ticked ticks } := by
  have ho := (failure_eq_none_iff h).mp hok
  have ho' : (m.ticked ticks).obstacle = none := (m.obstacle_ticked ticks).trans ho
  rw [step_of_none h ho, step_of_none (m := m.ticked ticks) (h.ticked ticks) ho']
  have heffect := State.effect_ticked hi m.state.fetched ticks
  have hstate : (m.ticked ticks).state.fetched.effect (m.ticked ticks).next
      = (m.state.fetched.effect m.next).ticked ticks := heffect
  rw [hstate]
  rfl

end Machine

/-- No instruction that ran in a stretch of time uses the delay timer. -/
def Stretch.SparesDelay (s : Stretch) : Prop :=
  ∀ w ∈ s.trace, ¬ (Instruction.decode w).usesDelay = true

namespace Machine

/-- **Slots that do not use the delay timer do the same after some ticks.** -/
theorem spend_ticked (ticks n : Nat) : ∀ {m : Machine}, m.state.Valid →
    (spend n m).failure = none → (spend n m).SparesDelay →
    spend n (m.ticked ticks) = (spend n m).leaving ((spend n m).machine.ticked ticks) := by
  induction n with
  | zero => exact fun _ _ _ => rfl
  | succ n ih =>
    intro m h hf hfree
    by_cases hw : m.isWaiting = true
    · have hw' : (m.ticked ticks).isWaiting = true := hw
      rw [spend_of_waiting hw, spend_of_waiting hw']
      rfl
    · have hw' : ¬ (m.ticked ticks).isWaiting = true := hw
      rw [spend_succ hw] at hf hfree ⊢
      obtain ⟨hf1, hf2⟩ := Stretch.andThen_failure_eq_none.mp hf
      rw [Stretch.andThen_of_none hf1] at hfree ⊢
      have hnext : ¬ m.next.usesDelay = true :=
        hfree _ (Array.mem_append_left _ (by rw [stepSlot_trace h hf1]; simp))
      have hslot : (m.ticked ticks).stepSlot
          = m.stepSlot.leaving (m.stepSlot.machine.ticked ticks) := by
        have hcharge : (m.ticked ticks).charge 1 = (m.charge 1).ticked ticks := rfl
        simp only [stepSlot, hcharge, step_ticked (m := m.charge 1) h hf1 hnext]
        rfl
      have hrest := ih (m := m.stepSlot.machine) (step_valid (m := m.charge 1) h) hf2
        fun w hmem => hfree w (Array.mem_append_right _ hmem)
      rw [spend_succ hw', hslot, Stretch.leaving_andThen_of_none hf1]
      simp only [Stretch.leaving, hrest]

/-! ## Stretches in a row -/

theorem slotRun_credit (m : Machine) (n : Nat) : ∃ c',
    (m.credit n).slotRun = (spend ((m.sinceCycle + n) / m.cycle) m).leaving
        ((spend ((m.sinceCycle + n) / m.cycle) m).machine.withTime c' (m.sinceTimer + n)) ∧
      ((spend ((m.sinceCycle + n) / m.cycle) m).failure = none →
        c' = (m.sinceCycle + n) % m.cycle) := by
  obtain ⟨c', heq, hc'⟩ := spend_withTime ((m.sinceCycle + n) / m.cycle) m (m.sinceCycle + n)
    (m.sinceTimer + n)
  refine ⟨c', heq, fun hf => ?_⟩
  have hdiv := Nat.div_add_mod' (m.sinceCycle + n) m.cycle
  rw [hc' hf]
  omega

/-- A stretch of time fails where its slots fail, and runs their words. -/
theorem advance_slots (m : Machine) (n : Nat) :
    (m.advance n).failure = (spend ((m.sinceCycle + n) / m.cycle) m).failure ∧
      (m.advance n).trace = (spend ((m.sinceCycle + n) / m.cycle) m).trace := by
  obtain ⟨c', heq, -⟩ := m.slotRun_credit n
  have hf : (m.credit n).slotRun.failure = (spend ((m.sinceCycle + n) / m.cycle) m).failure := by
    rw [heq, Stretch.leaving_failure]
  have ht : (m.credit n).slotRun.trace = (spend ((m.sinceCycle + n) / m.cycle) m).trace := by
    rw [heq, Stretch.leaving_trace]
  rw [m.advance_eq (Int.natCast_nonneg n), Int.toNat_natCast, ← hf, ← ht]
  rcases h : (m.credit n).slotRun.failure with _ | e
  · exact ⟨h, rfl⟩
  · exact ⟨h, rfl⟩

/-- **A stretch of time that does not fail is its slots, then its ticks, and what is left over of
both.** -/
theorem advance_eq_spend {m : Machine} {n : Nat}
    (hf : (spend ((m.sinceCycle + n) / m.cycle) m).failure = none) :
    m.advance n = (spend ((m.sinceCycle + n) / m.cycle) m).leaving
      (((spend ((m.sinceCycle + n) / m.cycle) m).machine.ticked
        ((m.sinceTimer + n) / timerPeriod)).withTime
          ((m.sinceCycle + n) % m.cycle) ((m.sinceTimer + n) % timerPeriod)) := by
  obtain ⟨c', heq, hc'⟩ := m.slotRun_credit n
  have hrun : (m.credit n).slotRun.failure = none := by rw [heq]; exact hf
  rw [advance_of_none (Int.natCast_nonneg n) hrun, Int.toNat_natCast, heq, hc' hf]
  rfl

theorem withTime_ticked (m : Machine) (c t ticks : Nat) :
    (m.withTime c t).ticked ticks = (m.ticked ticks).withTime c t := rfl

theorem withTime_withTime (m : Machine) (c t c' t' : Nat) :
    (m.withTime c t).withTime c' t' = m.withTime c' t' := rfl

theorem ticked_ticked (m : Machine) (a b : Nat) : (m.ticked a).ticked b = m.ticked (a + b) := by
  simp only [ticked, State.ticked_ticked]

/-- After some ticks, slots that spare the delay timer pass as they would have passed before. -/
theorem advance_ticked {m : Machine} (h : m.state.Valid) (c t ticks b : Nat)
    (hf : (spend ((c + b) / m.cycle) m).failure = none)
    (hfree : (spend ((c + b) / m.cycle) m).SparesDelay) :
    ((m.ticked ticks).withTime c t).advance b = (spend ((c + b) / m.cycle) m).leaving
      (((spend ((c + b) / m.cycle) m).machine.ticked (ticks + (t + b) / timerPeriod)).withTime
        ((c + b) % m.cycle) ((t + b) % timerPeriod)) := by
  obtain ⟨c', heq, -⟩ := spend_withTime ((c + b) / m.cycle) (m.ticked ticks) c t
  rw [spend_ticked ticks _ h hf hfree] at heq
  have hf' : (spend ((c + b) / m.cycle) ((m.ticked ticks).withTime c t)).failure = none := by
    rw [heq]
    exact hf
  refine (advance_eq_spend (m := (m.ticked ticks).withTime c t) hf').trans ?_
  have hspend : spend ((((m.ticked ticks).withTime c t).sinceCycle + b)
      / ((m.ticked ticks).withTime c t).cycle) ((m.ticked ticks).withTime c t) = _ := heq
  rw [hspend]
  simp only [Stretch.leaving, withTime_ticked, withTime_withTime, ticked_ticked]
  rfl

/-- **Two stretches of time do what one of their whole length does**, if that does not fail and
spares the delay timer. -/
theorem advance_add {m : Machine} (h : m.state.Valid) {a b : Nat}
    (hok : (m.advance (a + b : Nat)).failure = none)
    (hfree : (m.advance (a + b : Nat)).SparesDelay) :
    m.advance (a + b : Nat) = (m.advance a).andThen fun m => m.advance b := by
  -- the slots of the whole are those of the first piece and those of the second
  have hdiv : (m.sinceCycle + (a + b)) / m.cycle
      = (m.sinceCycle + a) / m.cycle + ((m.sinceCycle + a) % m.cycle + b) / m.cycle := by
    rw [← Nat.add_assoc, ← Nat.mul_add_div m.cycle_pos, ← Nat.add_assoc, Nat.div_add_mod]
  have hok' : (spend ((m.sinceCycle + (a + b)) / m.cycle) m).failure = none := by
    rw [← (m.advance_slots _).1, hok]
  have hwhole := advance_eq_spend hok'
  rw [hdiv, spend_add] at hok' hwhole
  obtain ⟨hf₁, hf₂⟩ := Stretch.andThen_failure_eq_none.mp hok'
  rw [hwhole, Stretch.andThen_of_none hf₁] at hfree ⊢
  have hfirst := advance_eq_spend hf₁
  have hcycle := spend_cycle ((m.sinceCycle + a) / m.cycle) m
  have hsecond := advance_ticked (spend_valid _ h) ((m.sinceCycle + a) % m.cycle)
    ((m.sinceTimer + a) % timerPeriod) ((m.sinceTimer + a) / timerPeriod) b (by rwa [hcycle])
    (by rw [hcycle]; exact fun w hw => hfree w (Array.mem_append_right _ hw))
  rw [hcycle] at hsecond
  have hf : (m.advance a).failure = none := by rw [hfirst]; exact hf₁
  -- and so are the ticks, and what is left over
  have hticks : (m.sinceTimer + (a + b)) / timerPeriod = (m.sinceTimer + a) / timerPeriod
      + ((m.sinceTimer + a) % timerPeriod + b) / timerPeriod := by
    simp only [timerPeriod]
    omega
  have hcycles : (m.sinceCycle + (a + b)) % m.cycle
      = ((m.sinceCycle + a) % m.cycle + b) % m.cycle := by
    rw [Nat.mod_add_mod, Nat.add_assoc]
  have htimer : (m.sinceTimer + (a + b)) % timerPeriod
      = ((m.sinceTimer + a) % timerPeriod + b) % timerPeriod := by
    rw [Nat.mod_add_mod, Nat.add_assoc]
  rw [Stretch.andThen_of_none hf, hfirst]
  simp only [Stretch.leaving, hsecond, hticks, hcycles, htimer]

/-! ## Pieces of a stretch -/

/-- Lets some times pass one after the other, as long as none of them fails. -/
def advanceEach : List Nat → Machine → Stretch
  | [], m => m.still
  | n :: rest, m => (m.advance n).andThen (advanceEach rest)

theorem advance_valid {m : Machine} (h : m.state.Valid) (micros : Int) :
    (m.advance micros).machine.state.Valid :=
  advance_induct (P := fun m => m.state.Valid) (fun _ _ => step_valid) (fun _ _ _ h => h)
    (fun _ => runTimers_valid) micros h

theorem advanceEach_cons (rest : List Nat) : ∀ {m : Machine} {n : Nat}, m.state.Valid →
    (m.advance (n :: rest).sum).failure = none → (m.advance (n :: rest).sum).SparesDelay →
    advanceEach (n :: rest) m = m.advance (n :: rest).sum := by
  induction rest with
  | nil =>
    intro m n _ hok _
    rw [List.sum_singleton] at hok ⊢
    rw [advanceEach, Stretch.andThen_of_none hok]
    simp only [advanceEach, still, Array.append_empty, ← hok]
  | cons n' rest ih =>
    intro m n h hok hfree
    rw [List.sum_cons] at hok hfree ⊢
    have hadd := advance_add h hok hfree
    rw [hadd] at hok hfree ⊢
    obtain ⟨hf₁, hf₂⟩ := Stretch.andThen_failure_eq_none.mp hok
    rw [Stretch.andThen_of_none hf₁] at hfree
    have hrest := ih (advance_valid h n) hf₂ fun w hw => hfree w (Array.mem_append_right _ hw)
    rw [advanceEach, Stretch.andThen_of_none hf₁, Stretch.andThen_of_none hf₁, hrest]

/-- **Time passes the same in one stretch or in pieces of it**: if no instruction fails or uses the
delay timer, the pieces run the same instructions, do not fail, and leave the same machine, timers
and times in store included. -/
theorem advanceEach_eq_advance {m : Machine} (h : m.Reachable) {pieces : List Nat}
    (hne : pieces ≠ []) (hok : (m.advance pieces.sum).failure = none)
    (hfree : (m.advance pieces.sum).SparesDelay) :
    advanceEach pieces m = m.advance pieces.sum := by
  obtain ⟨n, rest, rfl⟩ := List.exists_cons_of_ne_nil hne
  exact advanceEach_cons rest h.valid hok hfree

/-- A machine that comes to await a key idles through all slots that are left. -/
theorem spend_await {m : Machine} (h : m.state.Valid) (hw : ¬ m.isWaiting = true)
    (hc : m.counter < 0xFFF) {x : Int} (hnext : m.next = .awaitKeyPress x) (n : Nat) :
    (spend (n + 1) m).failure = none ∧
      (spend (n + 1) m).trace = #[m.state.memory.wordAt m.counter] := by
  have hnext' : (m.charge 1).next = .awaitKeyPress x := hnext
  have ho : (m.charge 1).obstacle = none := by
    rw [obstacle_eq_of_lt (m := m.charge 1) hc, hnext']
    rfl
  have hstep := step_of_none (m := m.charge 1) h ho
  have hf : m.stepSlot.failure = none := by
    rw [stepSlot, hstep]
    rfl
  have hwait : m.stepSlot.machine.isWaiting = true := by
    rw [stepSlot, hstep, hnext']
    rfl
  rw [spend_succ hw, Stretch.andThen_of_none hf, spend_of_waiting hwait, stepSlot, hstep]
  exact ⟨rfl, rfl⟩

/-- Time in three pieces, with a tick between them, in which a key comes to be awaited. -/
theorem advanceEach_eq_advance_await :
    let m := fresh #[0xF0, 0x0A] 2000 (by decide) (.cycling #[])
    m.Reachable ∧ (m.advance ([1500, 20000, 700] : List Nat).sum).failure = none ∧
      (m.advance ([1500, 20000, 700] : List Nat).sum).SparesDelay ∧
      advanceEach [1500, 20000, 700] m = m.advance ([1500, 20000, 700] : List Nat).sum := by
  intro m
  have hm : m.Reachable := reachable_fresh _ (n := 500) (by decide) _
  have hnext : m.next = .awaitKeyPress 0 := by rw [next_fresh]; rfl
  have hslots : (m.sinceCycle + ([1500, 20000, 700] : List Nat).sum) / m.cycle = 10 + 1 := by
    decide
  obtain ⟨hf, htrace⟩ := spend_await hm.valid (by decide) (by decide) hnext 10
  rw [← hslots] at hf htrace
  have hok : (m.advance ([1500, 20000, 700] : List Nat).sum).failure = none :=
    (m.advance_slots _).1.trans hf
  have hfree : (m.advance ([1500, 20000, 700] : List Nat).sum).SparesDelay := by
    intro w hw
    rw [advance_eq_spend (m := m) (n := ([1500, 20000, 700] : List Nat).sum) hf,
      Stretch.leaving_trace, htrace] at hw
    obtain rfl : w = m.state.memory.wordAt m.counter := by simpa using hw
    rw [show Instruction.decode _ = m.next from rfl, hnext]
    decide
  exact ⟨hm, hok, hfree, advanceEach_eq_advance hm (by decide) hok hfree⟩

end Machine

end Chip8
