import Mathlib
import Chip8.Proofs.Timers
import Chip8.Proofs.Reset

/-!
# Proofs/Chance — random instructions draw, and nothing else does

The generator reaches into an instruction in one place only.  An action without it does the same
with any generator and leaves it alone (`Action.Blind`), so a step draws one value from 0 to 255 if
its instruction is a random one, and none otherwise; with another generator it goes the same way if
that gives the same value (`Machine.step_withGenerator`).  The stops of a call are the machines that
it takes steps from.  They hold the generators in turn (`Machine.InTurn`), a draw further behind
each random one, and two machines whose generators give the same first values stay side by side for
as many draws (`Machine.dialogue_withGenerator`).
-/

namespace Chip8

namespace Generator

/-- The generator behind some draws from 0 to 255. -/
def later (g : Generator) : Nat → Generator
  | 0 => g
  | n + 1 => ((g.later n).between 0 0xFF).2

/-- The value of a draw from 0 to 255 behind some others. -/
def nth (g : Generator) (i : Nat) : Int := ((g.later i).between 0 0xFF).1

theorem later_later (g : Generator) (i j : Nat) : (g.later i).later j = g.later (i + j) := by
  induction j with
  | zero => rfl
  | succ j ih => rw [later, ih, ← Nat.add_assoc, later]

theorem nth_later (g : Generator) (i j : Nat) : (g.later i).nth j = g.nth (i + j) := by
  rw [nth, nth, later_later]

/-- What is asked behind some requests is kept with them. -/
theorem requests_later (g : Generator) (n : Nat) :
    (g.later n).requests = g.requests ++ Array.replicate n (0, 0xFF) := by
  induction n with
  | zero => simp [later]
  | succ n ih => rw [later, between, ih, Array.replicate_succ, Array.append_push]

theorem nth_bounds (g : Generator) (i : Nat) : 0 ≤ g.nth i ∧ g.nth i ≤ 0xFF := by
  simp only [nth, between]
  omega

/-- Two generators give the same first values. -/
def Agree (g g' : Generator) (n : Nat) : Prop := ∀ i < n, g.nth i = g'.nth i

theorem Agree.left {g g' : Generator} {a b : Nat} (h : g.Agree g' (a + b)) :
    g.Agree g' a := fun i hi => h i (by omega)

theorem Agree.right {g g' : Generator} {a b : Nat} (h : g.Agree g' (a + b)) :
    (g.later a).Agree (g'.later a) b := by
  intro i hi
  rw [nth_later, nth_later]
  exact h (a + i) (by omega)

end Generator

/-- The state with another generator. -/
def State.withGenerator (s : State) (generator : Generator) : State := { s with generator }

/-! ## Actions -/

namespace Action

variable {α β : Type}

/-- An action that does the same with any generator, and leaves it alone. -/
def Blind (a : Action α) : Prop :=
  ∀ s g, a.on (s.withGenerator g) = ((a.on s).1, (a.on s).2.withGenerator g)

namespace Blind

theorem bind {a : Action α} {f : α → Action β} (ha : a.Blind) (hf : ∀ x, (f x).Blind) :
    (a >>= f).Blind := by
  intro s g
  rw [on_bind, on_bind, ha s g]
  rcases a.on s with ⟨_ | x, s'⟩
  · rfl
  · exact hf x s' g

/-- What goes on from the state in a way that does not depend on the generator. -/
theorem look {f : State → Action α} (hf : ∀ s g, f (s.withGenerator g) = f s)
    (h : ∀ s, (f s).Blind) : (get >>= f).Blind := by
  intro s g
  simp only [on_bind, on_get, hf]
  exact h s s g

theorem change {f : State → State} (h : ∀ s g, f (s.withGenerator g) = (f s).withGenerator g) :
    (modify f : Action Unit).Blind := by
  intro s g
  rw [on_modify, on_modify, h]

theorem ofResult (r : Except Failure α) : (ofResult r).Blind := by
  cases r <;> exact fun _ _ => rfl

/-- What instructions are chains of does the same with any generator. -/
theorem closed : Closed fun _ a => a.Blind where
  bind := bind
  look hf h := look (fun s g => hf s s.keys g) h
  ret _ _ _ := rfl
  fail _ _ _ := rfl
  modifyRegisters _ := .change fun _ _ => rfl
  writeMemory _ _ :=
    .look (fun _ _ => rfl) fun _ => (ofResult _).bind fun _ => .change fun _ _ => rfl
  jump _ := .look (fun _ _ => rfl) fun _ => (ofResult _).bind fun _ => .change fun _ _ => rfl
  skip := .change fun _ _ => rfl
  stack _ := .change fun _ _ => rfl
  display _ := .change fun _ _ => rfl
  await _ := .change fun _ _ => rfl

end Blind

end Action

open Chip8.Action in
/-- **All instructions but the random ones do the same with any generator**, whether they fail or
not. -/
theorem Instruction.execute_blind {i : Instruction} (h : ¬∃ x d, i = .random x d) :
    i.execute.Blind := by
  refine execute_closed Blind.closed (fun x hx => ?_) fun x d hi => absurd ⟨x, d, hi⟩ h
  obtain rfl | rfl := hx
  all_goals
    exact .bind (Blind.closed.readRegister x) fun _ => .look (fun _ _ => rfl) fun _ =>
      .bind (Blind.closed.ofResult _) fun _ => Blind.closed.skipIf _

/-- A random instruction writes the next value of the generator, and leaves the one behind it. -/
theorem Instruction.on_random (x d : Int) (s : State) (g : Generator) :
    let write := Action.writeRegister x ((g.nth 0).toNat &&& (d % 0x100).toNat : Nat)
    (random x d).execute.on (s.withGenerator g) =
      ((write.on s).1, (write.on s).2.withGenerator (g.later 1)) := by
  intro write
  rw [← Action.Blind.closed.writeRegister x _ s (g.later 1)]
  simp only [execute, Action.on_bind, Action.on_get, Action.on_modify]
  rfl

/-! ## Steps -/

/-- The instruction is a random one. -/
def Instruction.isRandom : Instruction → Bool
  | random .. => true
  | _ => false

theorem Instruction.isRandom_iff {i : Instruction} :
    i.isRandom = true ↔ ∃ x d, i = .random x d := by
  cases i <;> simp [isRandom]

namespace Machine

/-- The machine with another generator. -/
def withGenerator (m : Machine) (g : Generator) : Machine :=
  { m with state := m.state.withGenerator g }

/-- The word that the next step runs is a random instruction. -/
def takesChance (m : Machine) : Bool :=
  m.step.fetched.any fun w => (Instruction.decode w).isRandom

/-- The number of draws that the next step makes. -/
def draws (m : Machine) : Nat := m.takesChance.toNat

variable {m : Machine}

theorem takesChance_iff (h : m.state.Valid) :
    m.takesChance = true ↔ m.counter < 0xFFF ∧ ∃ x d, m.next = .random x d := by
  rw [takesChance, step_fetched h.counter.1, ← Instruction.isRandom_iff, next]
  split_ifs with hlt <;> simp [hlt]

/-- What an instruction does with another generator, if that gives the same value where one is
drawn. -/
theorem outcome_withGenerator (h : m.state.Valid) (hlt : m.counter < 0xFFF) {g : Generator}
    (hg : g.Agree m.state.generator m.draws) :
    (m.withGenerator g).outcome =
      (m.outcome.1, m.outcome.2.withGenerator (g.later m.draws)) := by
  by_cases hrandom : ∃ x d, m.next = .random x d
  · have hchance := (takesChance_iff h).mpr ⟨hlt, hrandom⟩
    obtain ⟨x, d, hnext⟩ := hrandom
    have houtcome (g : Generator) := Instruction.on_random x d m.state.fetched g
    have hleft : (m.withGenerator g).outcome =
        (Instruction.random x d).execute.on (m.state.fetched.withGenerator g) := by
      rw [← hnext]
      rfl
    have hright : m.outcome = (Instruction.random x d).execute.on
        (m.state.fetched.withGenerator m.state.generator) := by
      rw [← hnext]
      rfl
    rw [draws, hchance] at hg ⊢
    rw [hleft, hright, houtcome, houtcome, hg 0 Nat.one_pos]
    rfl
  · have hnone : m.takesChance = false :=
      Bool.eq_false_iff.mpr fun hchance => hrandom ((takesChance_iff h).mp hchance).2
    rw [draws, hnone]
    exact Instruction.execute_blind hrandom m.state.fetched g

/-- **A step goes the same way with another generator** if that gives the same value, or if none is
drawn.  Both generators are then one draw further, or where they were. -/
theorem step_withGenerator (h : m.state.Valid) {g : Generator}
    (hg : g.Agree m.state.generator m.draws) :
    (m.withGenerator g).step =
      { m.step with machine := m.step.machine.withGenerator (g.later m.draws) } := by
  by_cases hlt : m.counter < 0xFFF
  · have hout := outcome_withGenerator h hlt hg
    rw [step_of_lt (m := m.withGenerator g) h.counter.1 hlt, step_of_lt h.counter.1 hlt, hout]
    rcases m.outcome with ⟨_ | _, _⟩ <;> rfl
  · have hnone : m.takesChance = false :=
      Bool.eq_false_iff.mpr fun hchance => hlt ((takesChance_iff h).mp hchance).1
    rw [step_of_exhausted (m := m.withGenerator g) h.counter.1 (not_lt.mp hlt),
      step_of_exhausted h.counter.1 (not_lt.mp hlt), draws, hnone]
    rfl

/-- **A step draws once if its instruction is random**, and not at all otherwise. -/
theorem step_generator (h : m.state.Valid) :
    m.step.machine.state.generator = m.state.generator.later m.draws := by
  have hself : m.step = _ := step_withGenerator h (g := m.state.generator) fun _ _ => rfl
  exact congrArg (fun s : Step => s.machine.state.generator) hself

/-- **A random instruction does not fail, and leaves the value drawn under its mask.** -/
theorem step_random (h : m.state.Valid) (hlt : m.counter < 0xFFF) {x d : Int}
    (hnext : m.next = .random x d) :
    m.step.failure = none ∧
      m.step.machine.state.value x = ((m.state.generator.nth 0).toNat &&& d.toNat : Nat) := by
  obtain ⟨hok, hstate⟩ := step_of_next h hlt hnext rfl
  obtain ⟨hlow, hhigh⟩ : 0 ≤ d ∧ d ≤ 0xFF := by
    have hfits := m.next_fits
    rw [hnext] at hfits
    simp only [Instruction.Fits, Instruction.fields, Field.bound, List.mem_cons,
      List.not_mem_nil, or_false, forall_eq_or_imp, forall_eq] at hfits
    omega
  have hmask : (d % 0x100).toNat = d.toNat := by omega
  have hbyte : (m.state.generator.nth 0).toNat &&& d.toNat < 0x100 :=
    Nat.and_le_right.trans_lt (by omega)
  refine ⟨hok, ?_⟩
  rw [hstate, State.effect, State.value_put, hmask, UInt8.toNat_ofInt]
  exact Int.emod_eq_of_lt (Int.natCast_nonneg _) (Int.ofNat_lt.mpr hbyte)

end Machine

/-! ## Stops -/

namespace Machine

/-- The machines that some slots take steps from. -/
def slotStops : Nat → Machine → List Machine
  | 0, _ => []
  | n + 1, m =>
    if m.isWaiting then []
    else m.charge 1 ::
      match m.stepSlot.failure with
      | none => slotStops n m.stepSlot.machine
      | some _ => []

/-- The machines that a stretch of time takes steps from. -/
def timeStops (m : Machine) (micros : Int) : List Machine :=
  if micros < 0 then []
  else slotStops ((m.sinceCycle + micros.toNat) / m.cycle) (m.credit micros.toNat)

/-- The machines that a call takes steps from. -/
def stops (m : Machine) : Call → List Machine
  | .step => [m]
  | c => c.micros?.elim [] m.timeStops

/-- The machines that some calls take steps from. -/
def stopsAll : Machine → List Call → List Machine
  | _, [] => []
  | m, c :: calls => m.stops c ++ stopsAll (m.after c) calls

/-- The number of draws of some machines' next steps. -/
def drawsOf (stops : List Machine) : Nat := stops.countP takesChance

theorem drawsOf_cons (m : Machine) (rest : List Machine) :
    drawsOf (m :: rest) = m.draws + drawsOf rest := by
  rw [drawsOf, drawsOf, List.countP_cons, draws]
  cases m.takesChance <;> simp [Nat.add_comm]

theorem drawsOf_append (a b : List Machine) : drawsOf (a ++ b) = drawsOf a + drawsOf b :=
  List.countP_append ..

theorem slotStops_of_waiting {m : Machine} (h : m.isWaiting = true) (n : Nat) :
    slotStops n m = [] := by
  cases n with
  | zero => rfl
  | succ n => rw [slotStops, if_pos h]

theorem slotStops_of_none {m : Machine} (h : ¬ m.isWaiting = true)
    (hf : m.stepSlot.failure = none) (n : Nat) :
    slotStops (n + 1) m = m.charge 1 :: slotStops n m.stepSlot.machine := by
  rw [slotStops, if_neg h, hf]

theorem slotStops_of_some {m : Machine} (h : ¬ m.isWaiting = true) {e : Failure}
    (hf : m.stepSlot.failure = some e) (n : Nat) : slotStops (n + 1) m = [m.charge 1] := by
  rw [slotStops, if_neg h, hf]

/-- Slots in a row pass at once while a key is awaited; else the first one fails, or the others go
on from where it ends. -/
theorem spend_induct {P : Nat → Machine → Prop} (zero : ∀ m, P 0 m)
    (waiting : ∀ n m, m.isWaiting = true → P n m)
    (failed : ∀ n m e, ¬ m.isWaiting = true → m.stepSlot.failure = some e → P (n + 1) m)
    (next : ∀ n m, ¬ m.isWaiting = true → m.stepSlot.failure = none →
      P n m.stepSlot.machine → P (n + 1) m) (n : Nat) (m : Machine) : P n m := by
  induction n generalizing m with
  | zero => exact zero m
  | succ n ih =>
    by_cases hw : m.isWaiting = true
    · exact waiting _ _ hw
    · rcases hf : m.stepSlot.failure with _ | e
      · exact next n m hw hf (ih _)
      · exact failed n m e hw hf

theorem stepSlot_valid {m : Machine} (h : m.state.Valid) : m.stepSlot.machine.state.Valid :=
  step_valid (m := m.charge 1) h

theorem stepSlot_generator {m : Machine} (h : m.state.Valid) :
    m.stepSlot.machine.state.generator = m.state.generator.later (m.charge 1).draws :=
  step_generator (m := m.charge 1) h

/-- The stops of slots in a row run the words that the slots run. -/
theorem slotStops_words (n : Nat) (m : Machine) :
    (slotStops n m).filterMap (·.step.fetched) = (spend n m).trace.toList := by
  induction n, m using spend_induct with
  | zero m => rfl
  | waiting n m hw =>
    rw [slotStops_of_waiting hw, spend_of_waiting hw]
    rfl
  | failed n m e hw hf =>
    rw [slotStops_of_some hw hf, spend_succ hw, Stretch.andThen_of_some hf, stepSlot]
    cases hword : (m.charge 1).step.fetched <;> simp [hword]
  | next n m hw hf ih =>
    rw [slotStops_of_none hw hf, spend_succ hw, Stretch.andThen_of_none hf, Array.toList_append,
      ← ih, stepSlot]
    cases hword : (m.charge 1).step.fetched <;> simp [hword]

/-- Each of some machines holds the generator that the draws before it left. -/
def InTurn (g : Generator) : List Machine → Prop
  | [] => True
  | m :: rest => m.state.Valid ∧ m.state.generator = g ∧ InTurn (g.later m.draws) rest

theorem InTurn.append {a b : List Machine} : ∀ {g : Generator}, InTurn g a →
    InTurn (g.later (drawsOf a)) b → InTurn g (a ++ b) := by
  induction a with
  | nil => exact fun _ hb => hb
  | cons m rest ih =>
    intro g ha hb
    obtain ⟨hvalid, hm, hrest⟩ := ha
    refine ⟨hvalid, hm, ih hrest ?_⟩
    rwa [Generator.later_later, ← drawsOf_cons]

/-- **The random stops draw one value each**, in order. -/
theorem InTurn.nth {stops : List Machine} : ∀ {g : Generator}, InTurn g stops →
    ∀ {i : Nat} {s : Machine}, (stops.filter takesChance)[i]? = some s →
      s.state.Valid ∧ s.state.generator = g.later i := by
  induction stops with
  | nil => intro g _ i s hs; simp at hs
  | cons m rest ih =>
    intro g h i s hs
    obtain ⟨hvalid, hm, hrest⟩ := h
    rw [draws] at hrest
    rcases hchance : m.takesChance with _ | _
    · rw [hchance] at hrest
      rw [List.filter_cons_of_neg (by simp [hchance])] at hs
      exact ih hrest hs
    · rw [hchance] at hrest
      rw [List.filter_cons_of_pos hchance] at hs
      cases i with
      | zero =>
        obtain rfl : m = s := Option.some.inj hs
        exact ⟨hvalid, hm⟩
      | succ i =>
        obtain ⟨hs, hg⟩ := ih hrest hs
        exact ⟨hs, by rw [hg, Generator.later_later, Nat.add_comm]; rfl⟩

/-- The stops of slots in a row hold the generators that the draws before them left. -/
theorem slotStops_inTurn (n : Nat) {m : Machine} (h : m.state.Valid) :
    InTurn m.state.generator (slotStops n m) := by
  induction n, m using spend_induct with
  | zero m => exact trivial
  | waiting n m hw =>
    rw [slotStops_of_waiting hw]
    exact trivial
  | failed n m e hw hf =>
    rw [slotStops_of_some hw hf]
    exact ⟨h, rfl, trivial⟩
  | next n m hw hf ih =>
    have hrest := ih (stepSlot_valid h)
    rw [stepSlot_generator h] at hrest
    rw [slotStops_of_none hw hf]
    exact ⟨h, rfl, hrest⟩

/-- A slot goes the same way with another generator that gives the same value. -/
theorem stepSlot_withGenerator {m : Machine} (h : m.state.Valid) {g : Generator}
    (hg : g.Agree m.state.generator (m.charge 1).draws) :
    (m.withGenerator g).stepSlot =
      m.stepSlot.leaving (m.stepSlot.machine.withGenerator (g.later (m.charge 1).draws)) := by
  have hstep := step_withGenerator (m := m.charge 1) h hg
  have hcharge : (m.withGenerator g).charge 1 = (m.charge 1).withGenerator g := rfl
  rw [stepSlot, hcharge, hstep]
  rfl

/-- **Slots in a row go the same way with another generator** that gives the same values. -/
theorem spend_withGenerator (n : Nat) {m : Machine} (h : m.state.Valid) {g : Generator}
    (hg : g.Agree m.state.generator (drawsOf (slotStops n m))) :
    spend n (m.withGenerator g) = (spend n m).leaving
      ((spend n m).machine.withGenerator (g.later (drawsOf (slotStops n m)))) := by
  induction n, m using spend_induct generalizing g with
  | zero m => rfl
  | waiting n m hw =>
    have hw' : (m.withGenerator g).isWaiting = true := hw
    rw [slotStops_of_waiting hw, spend_of_waiting hw, spend_of_waiting hw']
    rfl
  | failed n m e hw hf =>
    have hw' : ¬ (m.withGenerator g).isWaiting = true := hw
    rw [slotStops_of_some hw hf, drawsOf_cons] at hg ⊢
    rw [spend_succ hw, spend_succ hw', stepSlot_withGenerator h hg.left,
      Stretch.andThen_of_some hf, Stretch.leaving_andThen_of_some hf]
    rfl
  | next n m hw hf ih =>
    have hw' : ¬ (m.withGenerator g).isWaiting = true := hw
    rw [slotStops_of_none hw hf, drawsOf_cons] at hg ⊢
    have hrest := hg.right
    rw [← stepSlot_generator h] at hrest
    rw [spend_succ hw, spend_succ hw', stepSlot_withGenerator h hg.left,
      Stretch.andThen_of_none hf, Stretch.leaving_andThen_of_none hf,
      ih (stepSlot_valid h) hrest, Generator.later_later]
    rfl

/-! ## Calls -/

/-- The stops of a stretch of time run the words that it runs. -/
theorem timeStops_words (m : Machine) (micros : Int) :
    (m.timeStops micros).filterMap (·.step.fetched) = (m.advance micros).trace.toList := by
  by_cases hneg : micros < 0
  · rw [timeStops, advance, if_pos hneg, if_pos hneg]
    rfl
  · rw [timeStops, if_neg hneg, slotStops_words, m.advance_eq (not_lt.mp hneg)]
    rcases (m.credit micros.toNat).slotRun.failure with _ | e <;> rfl

theorem timeStops_inTurn {m : Machine} (h : m.state.Valid) (micros : Int) :
    InTurn m.state.generator (m.timeStops micros) := by
  rw [timeStops]
  split
  · exact trivial
  · exact slotStops_inTurn _ (m := m.credit micros.toNat) h

/-- **A stretch of time goes the same way with another generator** that gives the same values. -/
theorem advance_withGenerator {m : Machine} (h : m.state.Valid) {micros : Int} {g : Generator}
    (hg : g.Agree m.state.generator (drawsOf (m.timeStops micros))) :
    (m.withGenerator g).advance micros = (m.advance micros).leaving
      ((m.advance micros).machine.withGenerator (g.later (drawsOf (m.timeStops micros)))) := by
  by_cases hneg : micros < 0
  · rw [timeStops, advance, advance, if_pos hneg, if_pos hneg, if_pos hneg]
    rfl
  · rw [timeStops, if_neg hneg] at hg ⊢
    have hle := not_lt.mp hneg
    have hrun : ((m.withGenerator g).credit micros.toNat).slotRun
        = (m.credit micros.toNat).slotRun.leaving _ :=
      spend_withGenerator _ (m := m.credit micros.toNat) h hg
    rcases hf : (m.credit micros.toNat).slotRun.failure with _ | e
    · rw [advance_of_none (m := m.withGenerator g) hle (by rw [hrun]; exact hf),
        advance_of_none hle hf, hrun]
      rfl
    · rw [advance_of_failure (m := m.withGenerator g) hle (by rw [hrun]; exact hf),
        advance_of_failure hle hf, hrun]
      rfl

/-- An elapsed time that is no number of microseconds is refused whatever the machine. -/
theorem exists_elapse_eq {time : Elapsed} (h : (Call.elapse time).micros? = none) :
    ∃ r, ∀ m : Machine,
      m.elapse time = { machine := m, trace := #[], failure := some (.refusal r) } := by
  rw [Call.micros?] at h
  rcases ht : time.micros with r | n <;> rw [ht] at h
  · exact ⟨r, fun m => by rw [elapse, ht]⟩
  · cases h

theorem elapse_eq_advance {time : Elapsed} {micros : Int}
    (h : (Call.elapse time).micros? = some micros) (m : Machine) :
    m.elapse time = m.advance micros := by
  rw [Call.micros?] at h
  rcases ht : time.micros with _ | n <;> rw [ht] at h
  · cases h
  · obtain rfl := Option.some.inj h
    rw [elapse, ht]

/-- What a call gives and the words that it runs, and the machine that it leaves. -/
def attend (m : Machine) (c : Call) : (Except Failure Answer × List Int) × Machine :=
  ((m.answer c, m.executed c), m.after c)

theorem attend_of_micros (m : Machine) {c : Call} {micros : Int} (h : c.micros? = some micros) :
    m.attend c = (((m.advance micros).answer, (m.advance micros).trace.toList),
      (m.advance micros).machine) := by
  rw [attend, m.executed_of_micros h, m.after_of_micros h]
  cases c with
  | advance n =>
    obtain rfl := Option.some.inj h
    rfl
  | elapse time => rw [answer, elapse_eq_advance h]
  | _ => cases h

theorem stops_of_ne (m : Machine) {c : Call} (h : c ≠ .step) :
    m.stops c = c.micros?.elim [] m.timeStops := by
  cases c with
  | step => exact absurd rfl h
  | _ => rfl

theorem stops_of_micros (m : Machine) {c : Call} {micros : Int} (h : c.micros? = some micros) :
    m.stops c = m.timeStops micros := by
  have hc : c ≠ .step := by
    rintro rfl
    cases h
  rw [m.stops_of_ne hc, h, Option.elim]

theorem stops_of_none (m : Machine) {c : Call} (hc : c ≠ .step) (h : c.micros? = none) :
    m.stops c = [] := by
  rw [m.stops_of_ne hc, h, Option.elim]

/-- The stops of a call run the words that it runs. -/
theorem stops_words (m : Machine) (c : Call) :
    (m.stops c).filterMap (·.step.fetched) = m.executed c := by
  rcases hmicros : c.micros? with _ | micros
  · cases c with
    | step =>
      cases hword : m.step.fetched <;> simp [stops, executed, hword]
    | elapse time =>
      obtain ⟨r, helapse⟩ := exists_elapse_eq hmicros
      rw [m.stops_of_none (by simp) hmicros, executed, helapse]
      rfl
    | advance => cases hmicros
    | _ => rfl
  · rw [m.stops_of_micros hmicros, m.executed_of_micros hmicros, timeStops_words]

theorem stops_inTurn {m : Machine} (h : m.state.Valid) (c : Call) :
    InTurn m.state.generator (m.stops c) := by
  by_cases hc : c = .step
  · rw [hc]
    exact ⟨h, rfl, trivial⟩
  · rw [m.stops_of_ne hc]
    rcases c.micros? with _ | micros
    · exact trivial
    · exact timeStops_inTurn h micros

/-- **A call goes the same way with another generator** that gives the same values. -/
theorem attend_withGenerator {m : Machine} (h : m.state.Valid) (c : Call) {g : Generator}
    (hg : g.Agree m.state.generator (drawsOf (m.stops c))) :
    (m.withGenerator g).attend c =
      ((m.attend c).1, (m.attend c).2.withGenerator (g.later (drawsOf (m.stops c)))) := by
  rcases hmicros : c.micros? with _ | micros
  · cases c with
    | step =>
      have hdraws : drawsOf (m.stops .step) = m.draws := drawsOf_cons m []
      rw [hdraws] at hg ⊢
      simp only [attend, answer, executed, after, step_withGenerator h hg]
    | elapse time =>
      obtain ⟨r, helapse⟩ := exists_elapse_eq hmicros
      rw [m.stops_of_none (by simp) hmicros]
      simp only [attend, answer, executed, after, helapse]
      rfl
    | advance => cases hmicros
    | updateKey code pressed =>
      simp only [attend, answer, after, updateKey_eq]
      split <;> rfl
    | reset => rfl
    | scan =>
      simp only [attend, answer, after, scanInPlace_eq]
      rfl
    | disassemble => rfl
  · rw [m.stops_of_micros hmicros] at hg ⊢
    rw [m.attend_of_micros hmicros, attend_of_micros _ hmicros, advance_withGenerator h hg]
    rfl

/-- **A call draws once for each random instruction that it runs.** -/
theorem after_generator {m : Machine} (h : m.state.Valid) (c : Call) :
    (m.after c).state.generator = m.state.generator.later (drawsOf (m.stops c)) := by
  have hself : m.attend c = _ := attend_withGenerator h c (g := m.state.generator) fun _ _ => rfl
  exact congrArg (fun r => r.2.state.generator) hself

/-! ## Calls in a row -/

theorem stopsAll_inTurn (calls : List Call) : ∀ {m : Machine}, m.state.Valid →
    InTurn m.state.generator (m.stopsAll calls) := by
  induction calls with
  | nil => exact fun _ => trivial
  | cons c calls ih =>
    intro m h
    have hrest := ih (after_valid h c)
    rw [after_generator h] at hrest
    exact (stops_inTurn h c).append hrest

/-- The stops of calls in a row run the words that the calls run. -/
theorem stopsAll_words (calls : List Call) : ∀ m : Machine,
    (m.stopsAll calls).filterMap (·.step.fetched) = (dialogue attend m calls).1.flatMap (·.2) := by
  induction calls with
  | nil => exact fun _ => rfl
  | cons c calls ih =>
    intro m
    rw [stopsAll, List.filterMap_append, stops_words, ih, dialogue, List.flatMap_cons]
    rfl

/-- **A row of calls goes the same way with another generator** that gives the same values. -/
theorem dialogue_withGenerator (calls : List Call) : ∀ {m : Machine}, m.state.Valid →
    ∀ {g : Generator}, g.Agree m.state.generator (drawsOf (m.stopsAll calls)) →
    dialogue attend (m.withGenerator g) calls = ((dialogue attend m calls).1,
      (dialogue attend m calls).2.withGenerator (g.later (drawsOf (m.stopsAll calls)))) := by
  induction calls with
  | nil => exact fun _ _ _ => rfl
  | cons c calls ih =>
    intro m h g hg
    rw [stopsAll, drawsOf_append] at hg ⊢
    have hrest := hg.right
    rw [← after_generator h] at hrest
    have hdialogue := ih (after_valid h c) hrest
    rw [Generator.later_later] at hdialogue
    rw [dialogue, attend_withGenerator h c hg.left]
    exact congrArg (fun d => ((m.attend c).1 :: d.1, d.2)) hdialogue

/-- The random ones among some stops are those whose words are random instructions. -/
theorem drawsOf_eq_countP (stops : List Machine) : drawsOf stops =
    (stops.filterMap (·.step.fetched)).countP fun w => (Instruction.decode w).isRandom := by
  rw [drawsOf, List.countP_filterMap]
  refine List.countP_congr fun m _ => ?_
  rw [takesChance]
  cases m.step.fetched <;> rfl

/-- **Chance enters by the random instructions and by nothing else.**  Over any calls on a machine,
failing ones and resets included, what is asked of the generator is one value from 0 to 255 for each
random instruction that runs, and the `i`-th of them leaves the `i`-th value under its mask.  A
machine with another generator that gives the same first values gives the same answers, runs the
same words and is left as the same machine but for the generator, as long as no more random
instructions run than there are such values. -/
theorem chance_by_random {image : Array UInt8} {speed : Number} {generator : Generator}
    {m : Machine} (hm : create image speed generator = .ok m) (calls : List Call) :
    let d := dialogue attend m calls
    let words := d.1.flatMap (·.2)
    let asked := words.countP fun w => (Instruction.decode w).isRandom
    let stops := m.stopsAll calls
    (stops.filterMap (·.step.fetched) = words ∧ d.2.state.generator = generator.later asked ∧
      d.2.state.generator.requests = generator.requests ++ Array.replicate asked (0, 0xFF)) ∧
    (∀ (i : Nat) (s : Machine), (stops.filter takesChance)[i]? = some s →
      ∃ x data : Int, s.next = .random x data ∧ s.state.generator = generator.later i ∧
        s.step.machine.state.generator.requests = s.state.generator.requests.push (0, 0xFF) ∧
        (0 ≤ generator.nth i ∧ generator.nth i ≤ 0xFF) ∧ s.step.failure = none ∧
        s.step.machine.state.value x = ((generator.nth i).toNat &&& data.toNat : Nat)) ∧
    ∀ n g, g.Agree generator n → asked ≤ n → ∃ m', create image speed g = .ok m' ∧
      dialogue attend m' calls = (d.1, d.2.withGenerator (g.later asked)) := by
  obtain ⟨cycle, pos, hspeed, rfl⟩ := create_ok hm
  intro d words asked stops
  have hvalid : (fresh image cycle pos generator).state.Valid := State.valid_initial _ _
  have hwords : stops.filterMap (·.step.fetched) = words := stopsAll_words calls _
  have hasked : drawsOf stops = asked := by rw [drawsOf_eq_countP, hwords]
  have htwin {g : Generator} (hg : g.Agree generator asked) :
      dialogue attend (fresh image cycle pos g) calls
        = (d.1, d.2.withGenerator (g.later asked)) := by
    rw [← hasked] at hg ⊢
    exact dialogue_withGenerator calls hvalid hg
  -- the machine is its own twin
  have hlater : d.2.state.generator = generator.later asked :=
    congrArg (fun d => d.2.state.generator) (htwin fun _ _ => rfl)
  refine ⟨⟨hwords, hlater, hlater ▸ generator.requests_later asked⟩, fun i s hs => ?_,
    fun n g hg hn => ?_⟩
  · obtain ⟨hs', hgenerator⟩ := (stopsAll_inTurn calls hvalid).nth hs
    have hchance := (List.mem_filter.mp (List.mem_of_getElem? hs)).2
    obtain ⟨hlt, x, data, hnext⟩ := (takesChance_iff hs').mp hchance
    obtain ⟨hok, hvalue⟩ := step_random hs' hlt hnext
    have hgen : s.state.generator = generator.later i := hgenerator
    have hasks : s.step.machine.state.generator.requests
        = s.state.generator.requests.push (0, 0xFF) := by
      rw [step_generator hs', draws, hchance]
      rfl
    refine ⟨x, data, hnext, hgen, hasks, generator.nth_bounds i, hok, ?_⟩
    rw [hvalue, hgen, Generator.nth_later, Nat.add_zero]
  · refine ⟨fresh image cycle pos g, ?_, htwin fun i hi => hg i (by omega)⟩
    rw [create, hspeed]
    rfl

/-- A draw, a reset and another draw: the second gives the second value, and a generator that goes
on differently behind two values cannot be told from the first. -/
theorem chance_by_random_reset :
    let m := fresh #[0xC0, 0xFF] 2000 (by decide) (.cycling #[7, 9])
    let calls : List Call := [.step, .reset, .step]
    create #[0xC0, 0xFF] (.whole 500) (.cycling #[7, 9]) = .ok m ∧
      m.step.machine.state.value 0 = 7 ∧ m.step.machine.reset.step.machine.state.value 0 = 9 ∧
      ∃ m', create #[0xC0, 0xFF] (.whole 500) (.cycling #[7, 9, 5]) = .ok m' ∧
        (dialogue attend m' calls).1 = (dialogue attend m calls).1 := by
  intro m calls
  have hm : create #[0xC0, 0xFF] (.whole 500) (.cycling #[7, 9]) = .ok m :=
    create_whole _ (n := 500) (by decide) _
  obtain ⟨⟨hwords, -, -⟩, hvalues, htwin⟩ := chance_by_random hm calls
  have hfresh (g : Generator) : (fresh #[0xC0, 0xFF] 2000 (by decide) g).takesChance = true ∧
      (fresh #[0xC0, 0xFF] 2000 (by decide) g).next = .random 0 0xFF := by
    have hnext : (fresh #[0xC0, 0xFF] 2000 (by decide) g).next = .random 0 0xFF := by
      rw [next_fresh]
      rfl
    have hvalid : (fresh #[0xC0, 0xFF] 2000 (by decide) g).state.Valid := State.valid_initial _ _
    have hlt : (fresh #[0xC0, 0xFF] 2000 (by decide) g).counter < 0xFFF :=
      (by decide : (0 + 0x200 : Int) < 0xFFF)
    exact ⟨(takesChance_iff hvalid).mpr ⟨hlt, 0, 0xFF, hnext⟩, hnext⟩
  have hreset : m.step.machine.reset
      = fresh #[0xC0, 0xFF] 2000 (by decide) m.step.machine.state.generator := by
    rw [step_machine]
    rfl
  obtain ⟨hchance, hnext⟩ := hfresh (.cycling #[7, 9])
  obtain ⟨hchance', hnext'⟩ := hfresh m.step.machine.state.generator
  rw [← hreset] at hchance' hnext'
  have hstops (m : Machine) : m.stopsAll calls = [m, m.step.machine.reset] := rfl
  have hrandom : (m.stopsAll calls).filter takesChance = [m, m.step.machine.reset] := by
    rw [hstops, List.filter_cons_of_pos hchance, List.filter_cons_of_pos hchance', List.filter_nil]
  rw [hrandom] at hvalues
  refine ⟨hm, ?_, ?_, ?_⟩
  · obtain ⟨x, data, hx, -, -, -, -, hvalue⟩ := hvalues 0 m rfl
    obtain ⟨rfl, rfl⟩ := Instruction.random.inj (hnext.symm.trans hx)
    exact hvalue
  · obtain ⟨x, data, hx, -, -, -, -, hvalue⟩ := hvalues 1 _ rfl
    obtain ⟨rfl, rfl⟩ := Instruction.random.inj (hnext'.symm.trans hx)
    exact hvalue
  · have hagree : (Generator.cycling #[7, 9, 5]).Agree (.cycling #[7, 9]) 2 := by
      intro i hi
      interval_cases i <;> rfl
    have hasked : ((dialogue attend m calls).1.flatMap (·.2)).countP
        (fun w => (Instruction.decode w).isRandom) ≤ 2 := by
      rw [← hwords, ← drawsOf_eq_countP]
      exact List.countP_le_length
    obtain ⟨m', hm', hdialogue⟩ := htwin 2 _ hagree hasked
    exact ⟨m', hm', by rw [hdialogue]⟩

end Machine

end Chip8
