import Mathlib
import Chip8.Proofs.Invariant
import Chip8.Proofs.Time

/-!
# Proofs/Drive — a stretch of time is repeated steps

`Machine.drive` takes single steps until a key is awaited or one fails.  A step neither reads nor
changes the times in store, so the slots of a stretch of time do what as many steps do, and the
timers tick behind them (`advance_drive`).
-/

namespace Chip8

namespace Machine

/-- Takes steps, up to a number of them, until a key is awaited or a step fails. -/
def drive : Nat → Machine → Machine × Option Failure
  | 0, m => (m, none)
  | n + 1, m =>
    if m.isWaiting then (m, none)
    else match m.step.result with
      | .ok _ => drive n m.step.machine
      | .error e => (m.step.machine, some e)

/-- Repeated steps neither read nor change the times in store. -/
theorem drive_withTime (n : Nat) : ∀ (m : Machine) (c t : Nat),
    (m.withTime c t).drive n = ((m.drive n).1.withTime c t, (m.drive n).2) := by
  induction n with
  | zero => exact fun _ _ _ => rfl
  | succ n ih =>
    intro m c t
    have hw : (m.withTime c t).isWaiting = m.isWaiting := rfl
    simp only [drive, step_withTime, hw]
    split
    · rfl
    · rcases m.step.result with e | snapshot
      · rfl
      · exact ih _ c t

/-- **Slots do what repeated steps do**, up to the time that is left for cycles. -/
theorem runSlots_drive (n : Nat) : ∀ (m : Machine) (trace : Array Int),
    (runSlots n m trace).failure = (m.drive n).2 ∧
      ∃ c, (runSlots n m trace).machine = (m.drive n).1.withTime c m.sinceTimer := by
  induction n with
  | zero => exact fun m _ => ⟨rfl, m.sinceCycle, rfl⟩
  | succ n ih =>
    intro m trace
    rw [runSlots, drive]
    by_cases hw : m.state.awaiting.isSome
    · rw [if_pos hw, if_pos (show m.isWaiting = true from hw)]
      exact ⟨rfl, _, rfl⟩
    · have hstep : (m.charge 1).step = { m.step with
          machine := m.step.machine.withTime (m.charge 1).sinceCycle m.sinceTimer } :=
        m.step_withTime _ _
      rw [if_neg hw, if_neg (show ¬ m.isWaiting = true from hw), hstep]
      rcases hr : m.step.result with e | snapshot <;> simp only [hr]
      · exact ⟨trivial, _, rfl⟩
      · obtain ⟨hf, c, hm⟩ := ih (m.step.machine.withTime (m.charge 1).sinceCycle m.sinceTimer)
          (m.step.fetched.elim trace trace.push)
        rw [drive_withTime] at hf hm
        exact ⟨hf, c, hm⟩

theorem drive_valid (n : Nat) : ∀ {m : Machine}, m.state.Valid → (m.drive n).1.state.Valid := by
  induction n with
  | zero => exact fun h => h
  | succ n ih =>
    intro m h
    rw [drive]
    split
    · exact h
    · split
      · exact ih (step_valid h)
      · exact step_valid h

theorem countDown_of_nonneg {t : Int} (h : 0 ≤ t) (n : Nat) : countDown t n = max 0 (t - n) := by
  rw [countDown]
  split <;> omega

/-- **A stretch of time does what repeated steps do**, as many as whole cycles are in store, until a
key is awaited or a step fails.  It fails as they do, and then no timer has ticked; if it
returns, each timer is down by the ticks that were due, and not below zero. -/
theorem advance_drive {m : Machine} (h : m.Reachable) {micros : Int} (hpos : 0 ≤ micros) :
    let d := m.drive ((m.sinceCycle + micros.toNat) / m.cycle)
    let ticks : Nat := (m.sinceTimer + micros.toNat) / timerPeriod
    (m.advance micros).failure = d.2 ∧ (m.advance micros).machine.count = d.1.count ∧
      (m.advance micros).machine.state = match d.2 with
        | some _ => d.1.state
        | none => { d.1.state with registers := { d.1.state.registers with
            delay := max 0 (d.1.state.registers.delay - ticks)
            sound := max 0 (d.1.state.registers.sound - ticks) } } := by
  intro d ticks
  have hd : (m.credit micros.toNat).drive ((m.sinceCycle + micros.toNat) / m.cycle)
      = (d.1.withTime (m.sinceCycle + micros.toNat) (m.sinceTimer + micros.toNat), d.2) :=
    drive_withTime _ m _ _
  obtain ⟨hf, c, hm⟩ : (m.credit micros.toNat).slotRun.failure = _ ∧ ∃ c,
      (m.credit micros.toNat).slotRun.machine = Machine.withTime _ c _ := runSlots_drive _ _ _
  have hn : (m.credit micros.toNat).sinceCycle / (m.credit micros.toNat).cycle
      = (m.sinceCycle + micros.toNat) / m.cycle := rfl
  rw [hn, hd] at hf hm
  have hv : d.1.state.Valid := drive_valid _ h.valid
  rcases hfail : d.2 with _ | e <;> rw [hfail] at hf
  · rw [advance_of_none hpos hf]
    refine ⟨hf, ?_, ?_⟩
    · rw [hm]
      rfl
    · rw [hm]
      simp only [runTimers, withTime, credit, countDown_of_nonneg hv.delay.1,
        countDown_of_nonneg hv.sound.ge, ticks]
  · rw [advance_of_failure hpos hf]
    exact ⟨hf, by rw [hm]; rfl, by rw [hm]; rfl⟩

/-- A return without a call, in five milliseconds. -/
theorem advance_drive_return :
    let m := fresh #[0x00, 0xEE] 2000 (by decide) (.cycling #[])
    m.Reachable ∧ (0 : Int) ≤ 5000 ∧ (m.advance 5000).failure = (m.drive 2).2 :=
  have hm := reachable_fresh _ (n := 500) (by decide) _
  ⟨hm, by decide, (advance_drive hm (by decide)).1⟩

end Machine

end Chip8
