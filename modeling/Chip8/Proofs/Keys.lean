import Mathlib
import Chip8.Proofs.Constancy
import Chip8.Proofs.Dialogue
import Chip8.Proofs.Frame

/-!
# Proofs/Keys — key events and steps that have nothing to do with keys

Held keys reach into an instruction in one place only, where it asks whether one key is held down.
An action that does not ask does the same with any keys (`Action.Keyless`), along chains and so for
every instruction but two (`Instruction.execute_keyless`), whether it fails or not.  Hence a key
event may change places with a step, unless the step looks at that key or starts to wait for one
(`Machine.step_keyed`); in a run without such steps the events only leave the keys as the last ones
put them (`Machine.dialogue_withKeys`).
-/

namespace Chip8

theorem Bank.read_write {α : Type} (b : Bank α) (k j : Nibble) (a : α) :
    (b.write k a).read j = if k = j then a else b.read j := by
  simp [Bank.read, Bank.write, Vector.getElem_set, Fin.ext_iff]

/-- A bank is known by what is read from it. -/
theorem Bank.ext_read {α : Type} {b c : Bank α} (h : ∀ k, b.read k = c.read k) : b = c :=
  Vector.ext fun i hi => h ⟨i, hi⟩

theorem Nibble.ofInt_val (k : Nibble) : Nibble.ofInt (k : Nat) = k :=
  Fin.ext (by simp only [Nibble.ofInt]; omega)

/-- The state with other keys held down. -/
def State.withKeys (s : State) (keys : Bank Bool) : State := { s with keys }

/-! ## Actions -/

namespace Action

variable {α β : Type}

/-- An action that does the same with any keys, and leaves them alone. -/
def Keyless (a : Action α) : Prop :=
  ∀ s keys, a.on (s.withKeys keys) = ((a.on s).1, (a.on s).2.withKeys keys)

namespace Keyless

theorem bind {a : Action α} {f : α → Action β} (ha : a.Keyless) (hf : ∀ x, (f x).Keyless) :
    (a >>= f).Keyless := by
  intro s keys
  rw [on_bind, on_bind, ha s keys]
  rcases a.on s with ⟨_ | x, s'⟩
  · rfl
  · exact hf x s' keys

/-- What goes on from the state in a way that does not depend on the keys. -/
theorem look {f : State → Action α} (hf : ∀ s keys, f (s.withKeys keys) = f s)
    (h : ∀ s, (f s).Keyless) : (get >>= f).Keyless := by
  intro s keys
  simp only [on_bind, on_get, hf]
  exact h s s keys

theorem change {f : State → State} (h : ∀ s keys, f (s.withKeys keys) = (f s).withKeys keys) :
    (modify f : Action Unit).Keyless := by
  intro s keys
  rw [on_modify, on_modify, h]

theorem ofResult (r : Except Failure α) : (ofResult r).Keyless := by
  cases r <;> exact fun _ _ => rfl

/-- What instructions are chains of does the same with any keys. -/
theorem closed : Closed fun _ a => a.Keyless where
  bind := bind
  look hf h := look (fun s keys => hf s keys s.generator) h
  ret _ _ _ := rfl
  fail _ _ _ := rfl
  modifyRegisters _ := .change fun _ _ => rfl
  writeMemory _ _ :=
    .look (fun _ _ => rfl) fun _ => (ofResult _).bind fun _ => .change fun _ _ => rfl
  jump _ := .look (fun _ _ => rfl) fun _ => (ofResult _).bind fun _ => .change fun _ _ => rfl
  skip := .change fun _ _ => rfl
  stack _ := .change fun _ _ => rfl
  display _ := .change fun _ _ => rfl
  await _ := .change fun _ _ => rfl

end Keyless

end Action

open Chip8.Action in
/-- **All instructions but the skips on keys do the same with any keys**, whether they fail or
not. -/
theorem Instruction.execute_keyless {i : Instruction}
    (h : ¬∃ x, i = .skipIfPressed x ∨ i = .skipIfNotPressed x) : i.execute.Keyless := by
  refine execute_closed Keyless.closed (fun x hx => absurd ⟨x, hx⟩ h) fun x d hi => ?_
  obtain rfl := hi
  exact .look (fun _ _ => rfl) fun _ => .bind (.change fun _ _ => rfl) fun _ =>
    Keyless.closed.writeRegister x _

open Chip8.Action in
/-- **No instruction tells apart two sets of held keys that agree on the key it asks for.** -/
theorem Instruction.execute_withKeys {i : Instruction} (hi : i.Fits) {s : State} {keys : Bank Bool}
    (h : ∀ x, i = .skipIfPressed x ∨ i = .skipIfNotPressed x →
      ∀ k : Nibble, s.value x = k → keys.read k = s.keys.read k) :
    i.execute.on (s.withKeys keys) = ((i.execute.on s).1, (i.execute.on s).2.withKeys keys) := by
  by_cases hskip : ∃ x, i = .skipIfPressed x ∨ i = .skipIfNotPressed x
  · obtain ⟨x, hx⟩ := hskip
    have hfits : 0 ≤ x ∧ x < 16 := by
      obtain rfl | rfl := hx <;> exact hi (.x, x) (List.mem_singleton_self _)
    have hpressed : (s.withKeys keys).isPressed ((s.withKeys keys).registers.byte x).toNat =
        s.isPressed (s.registers.byte x).toNat := by
      change (s.withKeys keys).isPressed (s.value x) = s.isPressed (s.value x)
      rw [State.isPressed_eq, State.isPressed_eq]
      split_ifs with hk
      · have hvalue : s.value x = (Nibble.ofInt (s.value x) : Nat) := by
          simp only [Nibble.ofInt]
          omega
        rw [State.withKeys, h x hx _ hvalue]
      · rfl
    obtain rfl | rfl := hx
    all_goals
      simp only [execute, on_bind, on_readRegister hfits, on_get, hpressed]
      rcases s.isPressed (s.registers.byte x).toNat with f | pressed
      · rfl
      · exact Keyless.closed.skipIf _ s keys
  · exact execute_keyless hskip s keys

/-! ## Steps -/

namespace Machine

/-- The machine with other keys held down. -/
def withKeys (m : Machine) (keys : Bank Bool) : Machine :=
  { m with state := m.state.withKeys keys }

variable {m : Machine} {k : Nibble} {keys : Bank Bool}

theorem step_withKeys (hc : 0 ≤ m.state.memory.counter)
    (h : m.counter < 0xFFF → ∀ x, m.next = .skipIfPressed x ∨ m.next = .skipIfNotPressed x →
      ∀ k : Nibble, m.state.value x = k → keys.read k = m.state.keys.read k) :
    (m.withKeys keys).step = { m.step with machine := m.step.machine.withKeys keys } := by
  by_cases hlt : m.counter < 0xFFF
  · have hout : (m.withKeys keys).outcome = (m.outcome.1, m.outcome.2.withKeys keys) :=
      Instruction.execute_withKeys m.next_fits (s := m.state.fetched) (h hlt)
    rw [step_of_lt (m := m.withKeys keys) hc hlt, step_of_lt hc hlt, hout]
    rcases m.outcome with ⟨_ | _, _⟩ <;> rfl
  · rw [step_of_exhausted (m := m.withKeys keys) hc (not_lt.mp hlt),
      step_of_exhausted hc (not_lt.mp hlt)]
    rfl

/-- The next step looks at a key, or starts to wait for one. -/
def Heeds (m : Machine) (k : Nibble) : Prop :=
  m.counter < 0xFFF ∧ ((∃ x, m.next = .awaitKeyPress x) ∨
    ∃ x, (m.next = .skipIfPressed x ∨ m.next = .skipIfNotPressed x) ∧ m.state.value x = k)

theorem after_updateKey (m : Machine) (k : Nibble) (pressed : Bool) :
    m.after (.updateKey (k : Nat) pressed) = m.keyed k pressed := by
  rw [after, updateKey_nibble]
  rfl

/-- While no key is awaited, a key event is one in the keys alone. -/
theorem keyed_of_free (h : m.state.awaiting = none) (k : Nibble) (pressed : Bool) :
    m.keyed k pressed = m.withKeys (m.state.keys.write k pressed) := by
  cases pressed <;> simp only [keyed, withKeys, State.withKeys, h] <;> rfl

/-- A wait begins with the instruction that says so. -/
theorem step_free (hv : m.state.Valid) (hfree : m.state.awaiting = none)
    (h : m.counter < 0xFFF → ∀ x, m.next ≠ .awaitKeyPress x) :
    m.step.machine.state.awaiting = none := by
  by_cases hlt : m.counter < 0xFFF
  · rw [step_state hv.counter.1 hlt, outcome_state hv hlt,
      State.effect_awaiting m.next_fits _ fun ⟨x, hx⟩ => h hlt x hx, State.fetched_awaiting,
      hfree]
  · rw [step_of_exhausted hv.counter.1 (not_lt.mp hlt), hfree]

/-- **A key event changes places with a step** that neither looks at the key nor starts to wait. -/
theorem step_keyed (hv : m.state.Valid) (hfree : m.state.awaiting = none) (h : ¬m.Heeds k)
    (pressed : Bool) : (m.keyed k pressed).step =
      { m.step with machine := m.step.machine.keyed k pressed } := by
  have hfree' : m.step.machine.state.awaiting = none :=
    step_free hv hfree fun hlt x hx => h ⟨hlt, .inl ⟨x, hx⟩⟩
  rw [keyed_of_free hfree, keyed_of_free hfree', m.step_carriesOn.keys]
  refine step_withKeys hv.counter.1 fun hlt x hx j hj => ?_
  have hne : k ≠ j := by
    rintro rfl
    exact h ⟨hlt, .inr ⟨x, hx, hj⟩⟩
  rw [Bank.read_write, if_neg hne]

/-- Where a step looks at a key, it goes different ways as the key is held or not. -/
theorem counter_step_keyed (hm : m.Reachable) (hfree : m.state.awaiting = none)
    (hlt : m.counter < 0xFFF) {x : Int}
    (hx : m.next = .skipIfPressed x ∨ m.next = .skipIfNotPressed x) (hk : m.state.value x = k) :
    (m.keyed k true).step.machine.state.memory.counter ≠
      (m.keyed k false).step.machine.state.memory.counter := by
  have hvalid (pressed : Bool) : (m.keyed k pressed).state.Valid :=
    after_updateKey m k pressed ▸ (hm.call (.updateKey (k : Nat) pressed)).valid
  have hvalue (pressed : Bool) : (m.keyed k pressed).state.value x = k := by
    rw [keyed_of_free hfree]
    exact hk
  have hread (pressed : Bool) :
      (m.keyed k pressed).state.fetched.keys.read (Nibble.ofInt (k : Nat)) = pressed := by
    rw [Nibble.ofInt_val]
    exact (Bank.read_write ..).trans (if_pos rfl)
  have hle : ¬(15 : Int) < (k : Nat) := by omega
  have hbyte (pressed : Bool) : ¬15 < ((m.keyed k pressed).state.registers.byte x).toNat := by
    have h := hvalue pressed
    rw [State.value] at h
    omega
  -- both skips pass over an instruction, one for a held key and the other for a key that is not
  have hskip (c : Bool → Bool) (hc : c true = !c false)
      (hstep : ∀ pressed, (m.keyed k pressed).step.machine.state =
        (m.keyed k pressed).state.fetched.skipped (c pressed)) :
      (m.keyed k true).step.machine.state.memory.counter ≠
        (m.keyed k false).step.machine.state.memory.counter := by
    rw [hstep, hstep, hc]
    cases c false <;> simp [State.skipped, Memory.skip, keyed_memory]
  obtain hx | hx := hx
  · refine hskip id rfl fun pressed => ?_
    rw [(step_of_next (hvalid pressed) hlt hx (if_neg (hbyte pressed))).2, State.effect,
      State.value_fetched, hvalue, if_neg hle, hread]
    rfl
  · refine hskip not rfl fun pressed => ?_
    rw [(step_of_next (hvalid pressed) hlt hx (if_neg (hbyte pressed))).2, State.effect,
      State.value_fetched, hvalue, if_neg hle, hread]

/-- **A step that heeds a key does not change places with every event of it.** -/
theorem not_heeds_of_step_keyed (hm : m.Reachable) (hfree : m.state.awaiting = none)
    (h : ∀ pressed, (m.keyed k pressed).step =
      { m.step with machine := m.step.machine.keyed k pressed }) : ¬m.Heeds k := by
  rintro ⟨hlt, ⟨x, hx⟩ | ⟨x, hx, hk⟩⟩
  · have hvalid : (m.keyed k true).state.Valid :=
      after_updateKey m k true ▸ (hm.call (.updateKey (k : Nat) true)).valid
    have hwait : (m.keyed k true).step.machine.state.awaiting = some (Nibble.ofInt x) := by
      rw [(step_of_next hvalid hlt hx rfl).2, State.effect]
    rw [h true] at hwait
    cases hwait
  · have hmemory (pressed : Bool) : (m.keyed k pressed).step.machine.state.memory =
        m.step.machine.state.memory := by
      rw [h pressed]
      exact keyed_memory ..
    exact counter_step_keyed hm hfree hlt hx hk (by rw [hmemory, hmemory])

end Machine

/-! ## Runs -/

/-- A step, or a key that goes down or up. -/
inductive Event
  | step
  | key (k : Nibble) (pressed : Bool)

namespace Event

/-- The number of steps in a row of events. -/
def steps : List Event → Nat
  | [] => 0
  | .step :: es => steps es + 1
  | .key .. :: es => steps es

/-- The steps of a row of events without its key events. -/
def alone (es : List Event) : List Event := List.replicate (steps es) .step

/-- What an event makes of a key, if it is about that key. -/
def put? (k : Nibble) : Event → Option Bool
  | .step => none
  | .key j pressed => if j = k then some pressed else none

/-- The keys after a row of events, each as the last event about it left it. -/
def held (keys : Bank Bool) : List Event → Bank Bool
  | [] => keys
  | .step :: es => held keys es
  | .key k pressed :: es => held (keys.write k pressed) es

/-- What the last event about a key makes of it, if there is one. -/
def last (k : Nibble) (es : List Event) : Option Bool := (es.filterMap (put? k)).getLast?

theorem read_held (k : Nibble) (es : List Event) : ∀ keys : Bank Bool,
    (held keys es).read k = (last k es).getD (keys.read k) := by
  induction es with
  | nil => exact fun _ => rfl
  | cons e es ih =>
    intro keys
    cases e with
    | step => exact ih keys
    | key j pressed =>
      rw [held, ih, Bank.read_write, last, last, List.filterMap_cons, put?]
      split_ifs with hj
      · rw [List.getLast?_cons, Option.getD_some]
      · rfl

end Event

namespace Machine

variable {m : Machine}

/-- What comes of an event, if it is a step, and the machine that it leaves. -/
def undergo (m : Machine) : Event → Option (Except Failure Snapshot) × Machine
  | .step => (some m.step.result, m.step.machine)
  | .key k pressed => (none, m.after (.updateKey (k : Nat) pressed))

/-- No step in a row of events looks at a key or starts to wait for one. -/
def Quiet (m : Machine) : List Event → Prop
  | [] => True
  | e :: es => (e = .step → ∀ k, ¬m.Heeds k) ∧ Quiet (m.undergo e).2 es

theorem step_withKeys_of_quiet (hv : m.state.Valid) (h : ∀ k, ¬m.Heeds k) (keys : Bank Bool) :
    (m.withKeys keys).step = { m.step with machine := m.step.machine.withKeys keys } :=
  step_withKeys hv.counter.1 fun hlt x hx k hk => absurd ⟨hlt, .inr ⟨x, hx, hk⟩⟩ (h k)

theorem step_free_of_quiet (hv : m.state.Valid) (hfree : m.state.awaiting = none)
    (h : ∀ k, ¬m.Heeds k) : m.step.machine.state.awaiting = none :=
  step_free hv hfree fun hlt x hx => h 0 ⟨hlt, .inl ⟨x, hx⟩⟩

theorem undergo_step_withKeys (hv : m.state.Valid) (h : ∀ k, ¬m.Heeds k) (keys : Bank Bool) :
    (m.withKeys keys).undergo .step = (some m.step.result, m.step.machine.withKeys keys) := by
  rw [undergo, step_withKeys_of_quiet hv h]

theorem undergo_key_withKeys (hfree : m.state.awaiting = none) (keys : Bank Bool) (k : Nibble)
    (pressed : Bool) : (m.withKeys keys).undergo (.key k pressed) =
      (none, m.withKeys (keys.write k pressed)) := by
  rw [undergo, after_updateKey]
  exact congrArg _ (keyed_of_free (m := m.withKeys keys) hfree k pressed)

/-- **Key events do not make a run less quiet** than its steps are by themselves. -/
theorem quiet_withKeys (es : List Event) : ∀ {m : Machine}, m.Reachable →
    m.state.awaiting = none → ∀ keys : Bank Bool,
    ((m.withKeys keys).Quiet es ↔ m.Quiet (Event.alone es)) := by
  induction es with
  | nil => exact fun _ _ _ => Iff.rfl
  | cons e es ih =>
    intro m hm hfree keys
    cases e with
    | step =>
      rw [Event.alone, Event.steps, List.replicate_succ, Quiet, Quiet]
      refine and_congr_right fun h => ?_
      have hquiet : ∀ k, ¬m.Heeds k := h rfl
      rw [undergo_step_withKeys hm.valid hquiet]
      exact ih hm.step (step_free_of_quiet hm.valid hfree hquiet) keys
    | key k pressed =>
      rw [Quiet, undergo_key_withKeys hfree, Event.alone, Event.steps]
      exact (and_iff_right nofun).trans (ih hm hfree _)

/-- **In a quiet run key events do nothing but to the keys**: the steps go as they go alone. -/
theorem dialogue_withKeys (es : List Event) : ∀ {m : Machine}, m.Reachable →
    m.state.awaiting = none → m.Quiet (Event.alone es) → ∀ keys : Bank Bool,
    (dialogue undergo (m.withKeys keys) es).1.reduceOption =
        (dialogue undergo m (Event.alone es)).1.reduceOption ∧
      (dialogue undergo (m.withKeys keys) es).2 =
        (dialogue undergo m (Event.alone es)).2.withKeys (Event.held keys es) := by
  induction es with
  | nil => exact fun _ _ _ _ => ⟨rfl, rfl⟩
  | cons e es ih =>
    intro m hm hfree hquiet keys
    cases e with
    | step =>
      rw [Event.alone, Event.steps, List.replicate_succ, Quiet] at hquiet
      have h : ∀ k, ¬m.Heeds k := hquiet.1 rfl
      obtain ⟨hresults, hmachine⟩ :=
        ih hm.step (step_free_of_quiet hm.valid hfree h) hquiet.2 keys
      rw [dialogue, undergo_step_withKeys hm.valid h, Event.alone, Event.steps,
        List.replicate_succ, dialogue, List.reduceOption_cons_of_some, hresults, hmachine]
      exact ⟨rfl, rfl⟩
    | key k pressed =>
      obtain ⟨hresults, hmachine⟩ := ih hm hfree hquiet (keys.write k pressed)
      rw [dialogue, undergo_key_withKeys hfree, List.reduceOption_cons_of_none]
      exact ⟨hresults, hmachine⟩

/-- **Key events and steps that have nothing to do with keys change places.**  While no key is
awaited, a key may go down or up before the next step or behind it, with the same machine and the
same result of the step, failures included, just if the step neither starts to wait for a key nor
looks at this one.  In a run without such steps the key events may stand anywhere: wherever they
stand in a row with as many steps, the steps give the same, and the machine behind them is the same
but for the keys.  Each key is as its last event left it, so that nothing is left of the others. -/
theorem key_events_move (hm : m.Reachable) (hfree : m.state.awaiting = none) :
    (∀ k : Nibble, (∀ pressed, ∃ m₁ m₂, m.updateKey (k : Nat) pressed = .ok m₁ ∧
        m.step.machine.updateKey (k : Nat) pressed = .ok m₂ ∧
        m₁.step = { m.step with machine := m₂ }) ↔ ¬m.Heeds k) ∧
    ∀ es, m.Quiet es → ∀ es', Event.steps es' = Event.steps es →
      m.Quiet es' ∧
      (dialogue undergo m es').1.reduceOption = (dialogue undergo m es).1.reduceOption ∧
      (∃ keys, (dialogue undergo m es').2 = (dialogue undergo m es).2.withKeys keys ∧
        ∀ k, keys.read k = (Event.last k es').getD (m.state.keys.read k)) ∧
      ((∀ k, Event.last k es' = Event.last k es) →
        (dialogue undergo m es').2 = (dialogue undergo m es).2) := by
  refine ⟨fun k => ⟨fun h => not_heeds_of_step_keyed hm hfree fun pressed => ?_,
    fun h pressed => ⟨_, _, updateKey_nibble .., updateKey_nibble ..,
      step_keyed hm.valid hfree h pressed⟩⟩, fun es hquiet es' hsteps => ?_⟩
  · obtain ⟨m₁, m₂, h₁, h₂, h⟩ := h pressed
    rw [updateKey_nibble] at h₁ h₂
    obtain rfl := Except.ok.inj h₁
    obtain rfl := Except.ok.inj h₂
    exact h
  · have halone : Event.alone es' = Event.alone es := by rw [Event.alone, Event.alone, hsteps]
    have hself : m.withKeys m.state.keys = m := rfl
    have hquiet₀ : m.Quiet (Event.alone es) := (quiet_withKeys es hm hfree _).mp hquiet
    obtain ⟨hresults, hmachine⟩ := dialogue_withKeys es hm hfree hquiet₀ m.state.keys
    obtain ⟨hresults', hmachine'⟩ :=
      dialogue_withKeys es' hm hfree (halone ▸ hquiet₀) m.state.keys
    rw [hself] at hresults hmachine hresults' hmachine'
    refine ⟨(quiet_withKeys es' hm hfree m.state.keys).mpr (halone ▸ hquiet₀), ?_,
      ⟨Event.held m.state.keys es', ?_, fun k => Event.read_held k es' _⟩, fun hlast => ?_⟩
    · rw [hresults, hresults', halone]
    · rw [hmachine, hmachine', halone]
      rfl
    · have hkeys : Event.held m.state.keys es' = Event.held m.state.keys es :=
        Bank.ext_read fun k => by rw [Event.read_held, Event.read_held, hlast]
      rw [hmachine, hmachine', halone, hkeys]

/-- One key goes down and up and another one down, around a load of a register. -/
theorem key_events_move_load :
    let m := fresh #[0x61, 0x07] 2000 (by decide) (.cycling #[])
    let es := [.key 3 true, .step, .key 3 false, .key 5 true]
    m.Reachable ∧ m.state.awaiting = none ∧ m.Quiet [.step] ∧
      (dialogue undergo m es).1.reduceOption = (dialogue undergo m [.step]).1.reduceOption ∧
      ∃ keys, (dialogue undergo m es).2 = (dialogue undergo m [.step]).2.withKeys keys ∧
        keys.read 3 = false ∧ keys.read 5 = true := by
  intro m es
  have hm : m.Reachable := reachable_fresh _ (n := 500) (by decide) _
  have hnext : m.next = .loadData 1 7 := by rw [next_fresh]; rfl
  have hquiet : m.Quiet [.step] := by
    refine ⟨fun _ k hk => ?_, trivial⟩
    obtain ⟨-, ⟨x, hx⟩ | ⟨x, hx | hx, -⟩⟩ := hk <;> rw [hnext] at hx <;> cases hx
  obtain ⟨-, hresults, ⟨keys, hmachine, hkeys⟩, -⟩ :=
    (key_events_move hm rfl).2 [.step] hquiet es rfl
  exact ⟨hm, rfl, hquiet, hresults, keys, hmachine, hkeys 3, hkeys 5⟩

end Machine

end Chip8
