import Mathlib
import Chip8.Proofs.Calls

/-!
# Proofs/Time — a stretch of time is its slots and ticks one by one, and none of it is lost

`Machine.advance` lets idle slots and timer ticks pass at once.  Here they pass one by one: `Slots`
and `Ticks` are loops that go on as long as a whole period is in store, and `Lapse` is a stretch of
time made of the two, which is what `advance` does (`advance_lapse`).

An `Account` keeps, over any calls, the time that passed and the slots and ticks it was spent on.
What was not spent is in store (`account_exact`), also behind a failing instruction.
-/

namespace Chip8

/-- The failure of a step, if it failed. -/
def Step.failure (s : Step) : Option Failure :=
  match s.result with
  | .ok _ => none
  | .error e => some e

namespace Machine

/-! ## Slots one by one -/

/-- One slot: its time is used up and, unless a key is awaited, one step is taken. -/
def slot (m : Machine) : Machine × Option Failure :=
  if m.state.awaiting.isSome then (m.charge 1, none)
  else ((m.charge 1).step.machine, (m.charge 1).step.failure)

/-- The loop over slots: from one machine, with a number of slots, perhaps to a failure, and to
another machine. -/
inductive Slots : Machine → Nat → Option Failure → Machine → Prop
  | done {m : Machine} : m.sinceCycle < m.cycle → Slots m 0 none m
  | next {m m' : Machine} {n : Nat} {f : Option Failure} : m.cycle ≤ m.sinceCycle →
      m.slot.2 = none → Slots m.slot.1 n f m' → Slots m (n + 1) f m'
  | failed {m : Machine} {e : Failure} : m.cycle ≤ m.sinceCycle →
      m.slot.2 = some e → Slots m 1 (some e) m.slot.1

/-- A slot takes its time from what is in store, and changes no other time. -/
theorem slot_times (m : Machine) : m.slot.1.cycle = m.cycle ∧
    m.slot.1.sinceCycle = m.sinceCycle - m.cycle ∧ m.slot.1.sinceTimer = m.sinceTimer := by
  have hcharge : (m.charge 1).cycle = m.cycle ∧ (m.charge 1).sinceCycle = m.sinceCycle - m.cycle ∧
      (m.charge 1).sinceTimer = m.sinceTimer := by
    simp only [charge, one_mul, and_self]
  rw [slot]
  split
  · exact hcharge
  · rwa [step_machine (m.charge 1)]

/-- **Slots use up exactly their time**, and without a failure they leave less than one slot. -/
theorem Slots.times {m m' : Machine} {n : Nat} {f : Option Failure} (h : Slots m n f m') :
    m'.cycle = m.cycle ∧ m.sinceCycle = n * m.cycle + m'.sinceCycle ∧
      m'.sinceTimer = m.sinceTimer ∧ (f = none → m'.sinceCycle < m.cycle) := by
  induction h with
  | done hlt => exact ⟨rfl, by omega, rfl, fun _ => hlt⟩
  | @next m m' n f hle _ _ ih =>
    obtain ⟨hc, hs, ht⟩ := m.slot_times
    rw [hc, hs, ht] at ih
    refine ⟨ih.1, ?_, ih.2.2⟩
    rw [Nat.succ_mul]
    omega
  | @failed m e hle _ =>
    obtain ⟨hc, hs, ht⟩ := m.slot_times
    exact ⟨hc, by omega, ht, fun h => absurd h (by simp)⟩

theorem charge_charge (m : Machine) (a b : Nat) : (m.charge a).charge b = m.charge (b + a) := by
  simp only [charge, Nat.sub_sub, Nat.add_mul, Nat.add_comm]

theorem le_of_div_eq_succ {m : Machine} {n : Nat} (h : m.sinceCycle / m.cycle = n + 1) :
    m.cycle ≤ m.sinceCycle := by
  by_contra hlt
  rw [Nat.div_eq_of_lt (not_le.mp hlt)] at h
  cases h

/-- A slot leaves time for one slot less. -/
theorem slot_div {m : Machine} {n : Nat} (h : m.sinceCycle / m.cycle = n + 1) :
    m.slot.1.sinceCycle / m.slot.1.cycle = n := by
  obtain ⟨hc, hs, -⟩ := m.slot_times
  rw [Nat.div_eq_sub_div m.cycle_pos (le_of_div_eq_succ h)] at h
  rw [hc, hs]
  omega

/-- While a key is awaited, slots pass one by one as they pass at once. -/
theorem slots_idle (n : Nat) : ∀ {m : Machine}, m.state.awaiting.isSome →
    m.sinceCycle / m.cycle = n → Slots m n none (m.charge n) := by
  induction n with
  | zero =>
    intro m _ hn
    have hm : m.charge 0 = m := by simp only [charge, Nat.zero_mul, Nat.sub_zero]
    rw [hm]
    exact .done ((Nat.div_eq_zero_iff_lt m.cycle_pos).mp hn)
  | succ n ih =>
    intro m ha hn
    have hslot : m.slot = (m.charge 1, none) := if_pos ha
    have hrest := slot_div hn
    refine .next (le_of_div_eq_succ hn) (by rw [hslot]) ?_
    rw [hslot] at hrest ⊢
    rw [← charge_charge m 1 n]
    exact ih ha hrest

/-- **The slots of a stretch of time are those of the loop.** -/
theorem runSlots_slots (n : Nat) : ∀ {m : Machine} (trace : Array Int),
    m.sinceCycle / m.cycle = n →
    ∃ used, Slots m used (runSlots n m trace).failure (runSlots n m trace).machine := by
  induction n with
  | zero => exact fun {m} _ hn => ⟨0, .done ((Nat.div_eq_zero_iff_lt m.cycle_pos).mp hn)⟩
  | succ n ih =>
    intro m trace hn
    have hle := le_of_div_eq_succ hn
    have hrest := slot_div hn
    by_cases ha : m.state.awaiting.isSome
    · rw [runSlots, if_pos ha]
      exact ⟨n + 1, slots_idle (n + 1) ha hn⟩
    · have hslot : m.slot = ((m.charge 1).step.machine, (m.charge 1).step.failure) := if_neg ha
      rw [runSlots, if_neg ha]
      rcases hr : (m.charge 1).step.result with e | snapshot
      · have hf : m.slot.2 = some e := by rw [hslot, Step.failure, hr]
        simp only [hr]
        refine ⟨1, ?_⟩
        have := Slots.failed hle hf
        rwa [hslot] at this
      · have hf : m.slot.2 = none := by rw [hslot, Step.failure, hr]
        rw [hslot] at hrest
        simp only [hr]
        obtain ⟨used, hused⟩ := ih ((m.charge 1).step.fetched.elim trace trace.push) hrest
        refine ⟨used + 1, .next hle hf ?_⟩
        rwa [hslot]

/-! ## Ticks one by one -/

/-- One tick: its time is used up, and a timer that has not run out counts one down. -/
def tick (m : Machine) : Machine :=
  let regs := m.state.registers
  { m with
    sinceTimer := m.sinceTimer - timerPeriod
    state := { m.state with
      registers := { regs with
        delay := if 0 < regs.delay then regs.delay - 1 else regs.delay
        sound := if 0 < regs.sound then regs.sound - 1 else regs.sound } } }

/-- The loop over ticks: from one machine, with a number of ticks, to another machine. -/
inductive Ticks : Machine → Nat → Machine → Prop
  | done {m : Machine} : m.sinceTimer < timerPeriod → Ticks m 0 m
  | next {m m' : Machine} {n : Nat} : timerPeriod ≤ m.sinceTimer → Ticks m.tick n m' →
      Ticks m (n + 1) m'

/-- **Ticks use up exactly their time**, and leave less than one tick. -/
theorem Ticks.times {m m' : Machine} {n : Nat} (h : Ticks m n m') :
    m'.cycle = m.cycle ∧ m'.sinceCycle = m.sinceCycle ∧
      m.sinceTimer = n * timerPeriod + m'.sinceTimer ∧ m'.sinceTimer < timerPeriod := by
  induction h with
  | done hlt => exact ⟨rfl, rfl, by omega, hlt⟩
  | @next m m' n hle _ ih =>
    obtain ⟨hc, hs, ht, hlt⟩ := ih
    refine ⟨hc, hs, ?_, hlt⟩
    simp only [tick] at ht
    rw [Nat.succ_mul]
    omega

theorem countDown_succ (t : Int) (n : Nat) :
    countDown t (n + 1) = countDown (if 0 < t then t - 1 else t) n := by
  simp only [countDown]
  split_ifs <;> omega

theorem countDown_zero (t : Int) : countDown t 0 = t := by
  simp only [countDown]
  split <;> omega

/-- **The ticks that are due at once are those of the loop.** -/
theorem runTimers_ticks (n : Nat) : ∀ {m : Machine}, m.sinceTimer / timerPeriod = n →
    Ticks m n m.runTimers := by
  induction n with
  | zero =>
    intro m hn
    have hlt : m.sinceTimer < timerPeriod := (Nat.div_eq_zero_iff_lt (by decide)).mp hn
    have hm : m.runTimers = m := by
      simp only [runTimers, hn, countDown_zero, Nat.mod_eq_of_lt hlt]
    rw [hm]
    exact .done hlt
  | succ n ih =>
    intro m hn
    have hle : timerPeriod ≤ m.sinceTimer := by
      simp only [timerPeriod] at hn ⊢
      omega
    have hrest : m.tick.sinceTimer / timerPeriod = n := by
      simp only [tick, timerPeriod] at hn ⊢
      omega
    have hm : m.runTimers = m.tick.runTimers := by
      simp only [runTimers, hn, hrest]
      simp only [tick, countDown_succ, Nat.mod_eq_sub_mod hle]
    rw [hm]
    exact .next hle (ih hrest)

/-! ## A stretch of time -/

/-- The machine with some time more in store. -/
def credit (m : Machine) (micros : Nat) : Machine :=
  { m with sinceCycle := m.sinceCycle + micros, sinceTimer := m.sinceTimer + micros }

/-- A stretch of time with the slots and the ticks that it is spent on, the failure that it ends
with, and the machine it leaves. -/
inductive Lapse (m : Machine) (micros : Int) : Nat → Nat → Option Failure → Machine → Prop
  | refused : micros < 0 → Lapse m micros 0 0 (some (.refusal (.negativeElapsed micros))) m
  | failed {m' : Machine} {slots : Nat} {e : Failure} : 0 ≤ micros →
      Slots (m.credit micros.toNat) slots (some e) m' → Lapse m micros slots 0 (some e) m'
  | passed {m₁ m₂ : Machine} {slots ticks : Nat} : 0 ≤ micros →
      Slots (m.credit micros.toNat) slots none m₁ → Ticks m₁ ticks m₂ →
      Lapse m micros slots ticks none m₂

/-- The slots of all the time in store. -/
def slotRun (m : Machine) : Stretch := runSlots (m.sinceCycle / m.cycle) m #[]

theorem advance_eq (m : Machine) {micros : Int} (h : 0 ≤ micros) :
    m.advance micros = match (m.credit micros.toNat).slotRun.failure with
      | some _ => (m.credit micros.toNat).slotRun
      | none => { (m.credit micros.toNat).slotRun with
          machine := (m.credit micros.toNat).slotRun.machine.runTimers } := by
  rw [advance, if_neg (not_lt.mpr h)]
  rfl

theorem advance_of_failure {m : Machine} {micros : Int} (h : 0 ≤ micros) {e : Failure}
    (hf : (m.credit micros.toNat).slotRun.failure = some e) :
    m.advance micros = (m.credit micros.toNat).slotRun := by
  rw [m.advance_eq h, hf]

theorem advance_of_none {m : Machine} {micros : Int} (h : 0 ≤ micros)
    (hf : (m.credit micros.toNat).slotRun.failure = none) :
    m.advance micros = { (m.credit micros.toNat).slotRun with
      machine := (m.credit micros.toNat).slotRun.machine.runTimers } := by
  rw [m.advance_eq h, hf]

/-- **What `advance` does is a lapse**: first the loop over slots, then the loop over ticks. -/
theorem advance_lapse (m : Machine) (micros : Int) : ∃ slots ticks,
    Lapse m micros slots ticks (m.advance micros).failure (m.advance micros).machine := by
  by_cases h : 0 ≤ micros
  · obtain ⟨slots, hslots⟩ := runSlots_slots _ (m := m.credit micros.toNat) #[] rfl
    rcases hf : (m.credit micros.toNat).slotRun.failure with _ | e
    · rw [advance_of_none h hf, hf]
      exact ⟨slots, _, .passed h (hf ▸ hslots) (runTimers_ticks _ rfl)⟩
    · rw [advance_of_failure h hf, hf]
      exact ⟨slots, 0, .failed h (hf ▸ hslots)⟩
  · rw [advance, if_pos (not_le.mp h)]
    exact ⟨0, 0, .refused (not_le.mp h)⟩

/-- **A lapse takes its time from what is in store**, and a negative one takes none. -/
theorem Lapse.times {m m' : Machine} {micros : Int} {slots ticks : Nat} {f : Option Failure}
    (h : Lapse m micros slots ticks f m') :
    m'.cycle = m.cycle ∧ m.sinceCycle + micros.toNat = slots * m.cycle + m'.sinceCycle ∧
      m.sinceTimer + micros.toNat = ticks * timerPeriod + m'.sinceTimer ∧
      (f = none → m'.sinceCycle < m.cycle ∧ m'.sinceTimer < timerPeriod) := by
  cases h with
  | refused hneg =>
    have h0 : micros.toNat = 0 := by omega
    simp [h0]
  | failed _ hslots =>
    obtain ⟨hc, hs, ht, -⟩ := hslots.times
    simp only [credit] at hc hs ht
    exact ⟨hc, hs, by omega, fun h => absurd h (by simp)⟩
  | passed _ hslots hticks =>
    obtain ⟨hc, hs, ht, hlt⟩ := hslots.times
    obtain ⟨hc', hs', ht', hlt'⟩ := hticks.times
    have hless := hlt rfl
    simp only [credit] at hc hs ht hless
    rw [hc', hs', ← ht']
    exact ⟨hc, hs, ht.symm, fun _ => ⟨hless, hlt'⟩⟩

/-! ## Accounts -/

end Machine

/-- The microseconds that a call lets pass, if it is a call that lets time pass. -/
def Call.micros? : Call → Option Int
  | advance micros => some micros
  | elapse time => time.micros.toOption
  | _ => none

namespace Machine

theorem after_of_micros (m : Machine) {c : Call} {micros : Int} (h : c.micros? = some micros) :
    m.after c = (m.advance micros).machine := by
  cases c with
  | advance n =>
    obtain rfl := Option.some.inj h
    rfl
  | elapse time =>
    rw [Call.micros?] at h
    rcases ht : time.micros with _ | n <;> rw [ht] at h
    · cases h
    · obtain rfl := Option.some.inj h
      rw [after, elapse, ht]
  | _ => cases h

/-- The time that calls let pass since a machine was made or last reset, and the slots and ticks
that were spent on it. -/
inductive Account : Machine → Nat → Nat → Nat → Prop
  | create {image : Array UInt8} {speed : Number} {generator : Generator} {m : Machine} :
      Machine.create image speed generator = .ok m → Account m 0 0 0
  | reset {m : Machine} {total slots ticks : Nat} : Account m total slots ticks →
      Account m.reset 0 0 0
  | timeless {m : Machine} {total slots ticks : Nat} (c : Call) : c.micros? = none → c ≠ .reset →
      Account m total slots ticks → Account (m.after c) total slots ticks
  | lapse {m : Machine} {total slots ticks slots' ticks' : Nat} (c : Call) (micros : Int) :
      c.micros? = some micros → Account m total slots ticks →
      Lapse m micros slots' ticks' (m.advance micros).failure (m.after c) →
      Account (m.after c) (total + micros.toNat) (slots + slots') (ticks + ticks')

/-- Calls that let no time pass leave the times in store alone. -/
theorem after_times (m : Machine) {c : Call} (h : c.micros? = none) (hr : c ≠ .reset) :
    (m.after c).cycle = m.cycle ∧ (m.after c).sinceCycle = m.sinceCycle ∧
      (m.after c).sinceTimer = m.sinceTimer := by
  cases c with
  | step =>
    rw [after, step_machine m]
    exact ⟨rfl, rfl, rfl⟩
  | advance => cases h
  | elapse time =>
    rw [Call.micros?] at h
    rcases ht : time.micros with _ | n <;> rw [ht] at h
    · rw [after, elapse, ht]
      exact ⟨rfl, rfl, rfl⟩
    · cases h
  | updateKey code pressed =>
    rw [after, updateKey_eq]
    split <;> exact ⟨rfl, rfl, rfl⟩
  | reset => exact absurd rfl hr
  | scan =>
    rw [after, scanInPlace_eq]
    exact ⟨rfl, rfl, rfl⟩
  | disassemble => exact ⟨rfl, rfl, rfl⟩

theorem Account.times {m : Machine} {total slots ticks : Nat} (h : Account m total slots ticks) :
    total = slots * m.cycle + m.sinceCycle ∧ total = ticks * timerPeriod + m.sinceTimer := by
  induction h with
  | create h =>
    obtain ⟨cycle, pos, -, rfl⟩ := create_ok h
    simp [fresh]
  | reset => simp [Machine.reset]
  | timeless c hc hr _ ih =>
    obtain ⟨h1, h2, h3⟩ := after_times _ hc hr
    rwa [h1, h2, h3]
  | lapse c micros _ _ hl ih =>
    obtain ⟨hc, hs, ht, -⟩ := hl.times
    rw [hc, Nat.add_mul, Nat.add_mul]
    omega

/-- **Every reachable machine has an account.** -/
theorem Reachable.account {m : Machine} (h : m.Reachable) :
    ∃ total slots ticks, Account m total slots ticks := by
  induction h with
  | create h => exact ⟨0, 0, 0, .create h⟩
  | @call m c _ ih =>
    obtain ⟨total, slots, ticks, ha⟩ := ih
    rcases hc : c.micros? with _ | micros
    · by_cases hr : c = .reset
      · subst hr
        exact ⟨0, 0, 0, .reset ha⟩
      · exact ⟨total, slots, ticks, .timeless c hc hr ha⟩
    · obtain ⟨slots', ticks', hl⟩ := m.advance_lapse micros
      rw [← m.after_of_micros hc] at hl
      exact ⟨_, _, _, .lapse c micros hc ha hl⟩

/-- A time that is split into periods and less than one more gives their number back. -/
theorem eq_div_of_split {time n period rest : Nat} (h : time = n * period + rest)
    (hlt : rest < period) : n = time / period := by
  rw [h, Nat.mul_comm, Nat.mul_add_div (by omega), Nat.div_eq_of_lt hlt, Nat.add_zero]

/-- **No time is lost or counted twice**, over any calls and whichever of them fail.  A negative
time changes nothing, and a stretch of time that returns leaves less than one slot and less than
one tick in store, so that the slots and the ticks are the whole quotients of the time. -/
theorem account_exact {m : Machine} {total slots ticks : Nat}
    (h : Account m total slots ticks) :
    total = slots * m.cycle + m.sinceCycle ∧ total = ticks * timerPeriod + m.sinceTimer ∧
      (∀ micros < 0, (m.advance micros).machine = m) ∧
      ∀ micros, ∃ slots' ticks',
        Lapse m micros slots' ticks' (m.advance micros).failure (m.advance micros).machine ∧
          ((m.advance micros).failure = none →
            (m.advance micros).machine.sinceCycle < m.cycle ∧
            (m.advance micros).machine.sinceTimer < timerPeriod ∧
            slots + slots' = (total + micros.toNat) / m.cycle ∧
            ticks + ticks' = (total + micros.toNat) / timerPeriod) := by
  obtain ⟨hs, ht⟩ := h.times
  refine ⟨hs, ht, fun micros hneg => by rw [advance, if_pos hneg], fun micros => ?_⟩
  obtain ⟨slots', ticks', hl⟩ := m.advance_lapse micros
  refine ⟨slots', ticks', hl, fun hf => ?_⟩
  obtain ⟨-, hs', ht', hless⟩ := hl.times
  obtain ⟨hc, htk⟩ := hless hf
  have hslots : total + micros.toNat
      = (slots + slots') * m.cycle + (m.advance micros).machine.sinceCycle := by
    rw [Nat.add_mul]
    omega
  have hticks : total + micros.toNat
      = (ticks + ticks') * timerPeriod + (m.advance micros).machine.sinceTimer := by
    rw [Nat.add_mul]
    omega
  exact ⟨hc, htk, eq_div_of_split hslots hc, eq_div_of_split hticks htk⟩

/-- Five milliseconds of a program that only jumps. -/
theorem account_exact_jump :
    let m := (fresh #[0x12, 0x00] 2000 (by decide) (.cycling #[])).after (.advance 5000)
    ∃ slots ticks, Account m 5000 slots ticks ∧ 5000 = slots * m.cycle + m.sinceCycle := by
  have hm : Account (fresh #[0x12, 0x00] 2000 (by decide) (.cycling #[])) 0 0 0 :=
    .create (create_whole _ (n := 500) (by decide) _)
  obtain ⟨slots, ticks, hl⟩ := advance_lapse
    (fresh #[0x12, 0x00] 2000 (by decide) (.cycling #[])) 5000
  rw [← after_of_micros _ (c := .advance 5000) rfl] at hl
  have ha := Account.lapse (.advance 5000) 5000 rfl hm hl
  exact ⟨0 + slots, 0 + ticks, ha, (account_exact ha).1⟩

end Machine

end Chip8
