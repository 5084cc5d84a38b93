import Mathlib
import Chip8.Proofs.Keys
import Chip8.Proofs.Session

/-!
# Proofs/Typing — keys reach the machine as a document says

A document names keys as it likes; the map has them in upper case, and a name that comes again gets
the later code (`KeyMap.get?_put`).  A typed text is put in upper case as well, so it has the code
of the last entry with its name (`Config.code?_of_keysOf`).  An event on a window reaches the keypad
only if it is no repetition and its text has a code (`Window.keys_react`), and nothing else that
happens to a window touches the keys: each is as the last event left it that reached it.
-/

namespace Chip8

/-! ## The map of a document -/

namespace KeyMap

theorem get?_cons (n : Text) (c : Int) (m : KeyMap) (t : Text) :
    get? t ((n, c) :: m) = if n = t then some c else get? t m := by
  simp only [get?, List.find?_cons]
  by_cases h : n = t
  · simp [h]
  · simp only [beq_false_of_ne h, if_neg h]

/-- **A name that is put into a map has its code there**, and every other name the one it had. -/
theorem get?_put (name : Text) (code : Int) (t : Text) : ∀ m : KeyMap,
    get? t (put name code m) = if name = t then some code else get? t m
  | [] => by rw [put, get?_cons]
  | (n, c) :: rest => by
    rw [put]
    split
    next hn =>
      subst hn
      rw [get?_cons, get?_cons]
      split_ifs <;> rfl
    next hn =>
      rw [get?_cons, get?_cons, get?_put name code t rest]
      by_cases ht : n = t
      · rw [if_pos ht, if_pos ht, if_neg fun h => hn (ht.trans h.symm)]
      · rw [if_neg ht, if_neg ht]

end KeyMap

namespace Config

/-- Whether an entry of a document is for a typed text, whatever the case of both. -/
def names (t : Text) (entry : Value × Value) : Bool :=
  Text.uppercase entry.1.shown == Text.uppercase t

/-- The code of the last entry for a typed text. -/
def lastCode (r : Reader) (t : Text) (given : List (Value × Value)) : Option Int :=
  (given.filter (names t)).getLast?.bind fun entry => (intOf r entry.2).toOption

/-- Every entry has a code of the keypad. -/
def Coded (r : Reader) (given : List (Value × Value)) : Prop :=
  ∀ entry ∈ given, ∃ n, intOf r entry.2 = .ok n ∧ 0 ≤ n ∧ n ≤ 0xF

variable {r : Reader}

theorem lastCode_cons {t : Text} {key code : Value} {n : Int} {rest : List (Value × Value)}
    (hn : intOf r code = .ok n) (hrest : Coded r rest) : lastCode r t ((key, code) :: rest) =
      (lastCode r t rest).or (if names t (key, code) then some n else none) := by
  rw [lastCode, lastCode, List.filter_cons]
  by_cases hnames : names t (key, code) = true
  · rw [if_pos hnames, if_pos hnames, List.getLast?_cons]
    rcases hlast : (rest.filter (names t)).getLast? with _ | entry
    · exact congrArg Except.toOption hn
    · obtain ⟨c, hc, -⟩ :=
        hrest entry (List.mem_of_mem_filter (List.mem_of_getLast? hlast))
      simp only [Option.getD_some, Option.bind_some, hc]
      rfl
  · rw [if_neg hnames, if_neg hnames, Option.or_none]

theorem textOf_ok {v : Value} {t : Text} (h : textOf r v = .ok t) : t = v.shown := by
  rw [textOf] at h
  split at h
  · cases h
  · exact (Except.ok.inj h).symm

/-- **Behind the entries of a document, a name has the code of the last entry for it**, or else the
one it had before. -/
theorem get?_addKeys {m : KeyMap} (t : Text) : ∀ {given : List (Value × Value)} {keys : KeyMap},
    addKeys r keys given = .ok m → Coded r given ∧
      m.get? (Text.uppercase t) = (lastCode r t given).or (keys.get? (Text.uppercase t))
  | [], keys, h => by
    obtain rfl : keys = m := Except.ok.inj h
    exact ⟨fun _ he => absurd he List.not_mem_nil, rfl⟩
  | (key, code) :: rest, keys, h => by
    obtain ⟨n, hn, h⟩ := exists_ok_of_bind h
    split at h
    next hcode =>
      obtain ⟨name, hname, h⟩ := exists_ok_of_bind h
      obtain rfl := textOf_ok hname
      obtain ⟨hrest, hget⟩ := get?_addKeys t h
      refine ⟨List.forall_mem_cons.mpr ⟨⟨n, hn, hcode⟩, hrest⟩, ?_⟩
      rw [hget, lastCode_cons hn hrest, KeyMap.get?_put, Option.or_assoc]
      have hnames : names t (key, code) = true ↔ Text.uppercase key.shown = Text.uppercase t :=
        beq_iff_eq
      simp only [hnames]
      split_ifs <;> rfl
    next => cases h

/-- **A typed text has the code of the last entry for it in the document**, whatever the case of
both, and none if there is no such entry or the text is empty. -/
theorem code?_of_keysOf {entries given : List (Value × Value)} {m : KeyMap}
    (h : keysOf r entries = .ok m) (hgiven : entry entries "key_map" .null = .mapping given)
    (hne : given ≠ []) : Coded r given ∧
      ∀ t, m.code? t = if t.isEmpty then none else lastCode r t given := by
  have hblank : ¬(Value.mapping given).isBlank = true := by simpa [Value.isBlank] using hne
  rw [keysOf, hgiven, if_neg hblank] at h
  refine ⟨(get?_addKeys [] h).1, fun t => ?_⟩
  rw [KeyMap.code?, (get?_addKeys t h).2]
  exact congrArg _ (Option.or_none ..)

end Config

/-! ## Events on a window -/

theorem Machine.elapse_keys (m : Machine) (time : Elapsed) :
    (m.elapse time).machine.state.keys = m.state.keys := by
  rw [elapse]
  split
  · exact advance_induct (P := fun m' => m'.state.keys = m.state.keys)
      (fun m' _ h => m'.step_carriesOn.keys.trans h) (fun _ _ _ h => h) (fun _ h => h) _ rfl
  · rfl

namespace Window

variable {w : Window}

/-- What an event on a window tells the keypad, if anything: no repetition does, and no text
without a code. -/
def Event.toKeypad? (keys : KeyMap) : Event → Option Chip8.Event
  | .key e =>
    if e.repeated then none
    else (keys.code? e.text).map fun code => .key (Nibble.ofInt code) e.pressed
  | _ => none

theorem refresh_keeps (w : Window) : w.refresh.window.machine = w.machine ∧
    w.refresh.window.screen.keys = w.screen.keys := by
  obtain ⟨screen, -, hkeys, hrefresh⟩ := w.refresh_eq
  rw [hrefresh]
  exact ⟨rfl, hkeys⟩

theorem tick_keeps (w : Window) (now : Float) :
    (w.tick now).window.machine.state.keys = w.machine.state.keys ∧
      (w.tick now).window.screen.keys = w.screen.keys := by
  rw [tick]
  dsimp only
  split
  · rw [(refresh_keeps _).1, (refresh_keeps _).2]
    exact ⟨Machine.elapse_keys .., rfl⟩
  · rw [(refresh_keeps _).1, (refresh_keeps _).2]
    exact ⟨Machine.elapse_keys .., rfl⟩
  · exact ⟨Machine.elapse_keys .., rfl⟩

/-- **An event on a window changes the keys as it tells the keypad**, and in no other way. -/
theorem keys_react (h : w.screen.keys.InKeypad) (e : Event) :
    (w.react e).window.machine.state.keys =
        Chip8.Event.held w.machine.state.keys (e.toKeypad? w.screen.keys).toList ∧
      (w.react e).window.screen.keys = w.screen.keys := by
  cases e with
  | start | stop => exact ⟨rfl, rfl⟩
  | refresh =>
    obtain ⟨hmachine, hkeys⟩ := w.refresh_keeps
    exact ⟨congrArg (fun m : Machine => m.state.keys) hmachine, hkeys⟩
  | tick now => exact w.tick_keeps now
  | key e =>
    rw [react, typeKey, Screen.outcome, Event.toKeypad?]
    split_ifs with hrepeated
    · exact ⟨rfl, rfl⟩
    cases hcode : w.screen.keys.code? e.text with
    | none => exact ⟨rfl, rfl⟩
    | some code =>
      dsimp only
      rw [changeKey_eq w (h.code? hcode)]
      exact ⟨rfl, rfl⟩

theorem held_append (es : List Chip8.Event) : ∀ (keys : Bank Bool) (es' : List Chip8.Event),
    Chip8.Event.held keys (es ++ es') = Chip8.Event.held (Chip8.Event.held keys es) es' := by
  induction es with
  | nil => exact fun _ _ => rfl
  | cons e es ih =>
    intro keys es'
    cases e <;> exact ih _ es'

/-- **Behind a row of events each key is as the last of them left it that reached the keypad.** -/
theorem keys_afterAll (es : List Event) : ∀ {w : Window}, w.screen.keys.InKeypad →
    (w.afterAll es).machine.state.keys = Chip8.Event.held w.machine.state.keys
        (es.filterMap (Event.toKeypad? w.screen.keys)) ∧
      (w.afterAll es).screen.keys = w.screen.keys := by
  induction es with
  | nil => exact fun _ => ⟨rfl, rfl⟩
  | cons e es ih =>
    intro w h
    obtain ⟨hkeys, hmap⟩ := keys_react h e
    obtain ⟨hkeys', hmap'⟩ := ih (hmap ▸ h)
    rw [hmap, hkeys] at hkeys'
    refine ⟨hkeys'.trans ?_, hmap'.trans hmap⟩
    rw [← held_append]
    congr 1
    rw [List.filterMap_cons]
    cases e.toKeypad? w.screen.keys <;> rfl

theorem read_keys_of_ofContents {contents : Array UInt8} {speed : Float} {generator : Generator}
    {m : Machine} (h : Machine.ofContents contents speed generator = .ok m) (k : Nibble) :
    m.state.keys.read k = false := by
  obtain ⟨image, -, hcreate⟩ := exists_ok_of_bind h
  obtain ⟨cycle, pos, -, rfl⟩ := Machine.create_ok hcreate
  simp [Machine.fresh, State.initial, Bank.read, Bank.filled]

/-- **Keys reach the machine as they are configured.**  If a document has key names, all of them
have codes of the keypad, and a typed text has the code of the last entry for it, whatever the case
of both.  Whatever happened to a window before, a repetition is taken and does nothing, a text
without a code is passed on and does nothing, and any other key event is one of the keypad, which
the machine does not refuse.  A key is held down just if the last event for it that was neither was
a press, on a machine that was just made; on any other, a key without such an event is as it was. -/
theorem keys_as_configured {r : Config.Reader} {entries given : List (Value × Value)} {c : Config}
    (hc : Config.ofValue r (.mapping entries) = .ok c)
    (hgiven : Config.entry entries "key_map" .null = .mapping given) (hne : given ≠ []) :
    (Config.Coded r given ∧
      ∀ t, c.keys.code? t = if t.isEmpty then none else Config.lastCode r t given) ∧
    ∀ (m : Machine) (font : Text) (es : List Event),
      let w := (create m c font).afterAll es
      let effective := es.filterMap (Event.toKeypad? c.keys)
      (∀ e : KeyEvent,
        (e.repeated = true → w.screen.outcome e = .ignored ∧ w.typeKey e = w.quiet) ∧
        (e.repeated = false → c.keys.code? e.text = none →
          w.screen.outcome e = .passedOn ∧ w.typeKey e = w.quiet) ∧
        ∀ code, e.repeated = false → c.keys.code? e.text = some code →
          (0 ≤ code ∧ code ≤ 15) ∧ w.screen.outcome e = .mapped code ∧
            ∃ m', w.machine.updateKey code e.pressed = .ok m' ∧
              w.typeKey e = { window := { w with machine := m' }
                              notes := [Note.ofKey code e.pressed]
                              failure := none }) ∧
      (∀ k, w.machine.state.keys.read k =
        (Chip8.Event.last k effective).getD (m.state.keys.read k)) ∧
      ∀ contents generator, Machine.ofContents contents c.clock generator = .ok m →
        ∀ k, w.machine.state.keys.read k = true ↔ Chip8.Event.last k effective = some true := by
  obtain ⟨_, hentries, -, -, hkeys⟩ := Config.ofValue_ok hc
  obtain rfl := Value.mapping.inj hentries
  refine ⟨Config.code?_of_keysOf hkeys hgiven hne, fun m font es => ?_⟩
  intro w effective
  have hpad : c.keys.InKeypad := (Config.sound_of_ofValue hc).codes
  obtain ⟨hheld, hmap⟩ : w.machine.state.keys = Chip8.Event.held m.state.keys effective ∧
      w.screen.keys = c.keys := keys_afterAll es (w := create m c font) hpad
  have hread (k : Nibble) : w.machine.state.keys.read k =
      (Chip8.Event.last k effective).getD (m.state.keys.read k) := by
    rw [hheld, Chip8.Event.read_held]
  refine ⟨fun e => ⟨fun hrepeated => ?_, fun hrepeated hcode => ?_, fun code hrepeated hcode => ?_⟩,
    hread, fun contents generator hm k => ?_⟩
  · rw [typeKey, Screen.outcome, if_pos hrepeated]
    exact ⟨rfl, rfl⟩
  · rw [typeKey, Screen.outcome, if_neg (by simp [hrepeated]), hmap, hcode]
    exact ⟨rfl, rfl⟩
  · have hbounds := hpad.code? hcode
    have houtcome : w.screen.outcome e = .mapped code := by
      rw [Screen.outcome, if_neg (by simp [hrepeated]), hmap, hcode]
    refine ⟨hbounds, houtcome, _, (Machine.updateKey_eq ..).trans (if_pos (by omega)), ?_⟩
    rw [typeKey, houtcome]
    exact w.changeKey_eq hbounds e.pressed
  · rw [hread, read_keys_of_ofContents hm]
    cases Chip8.Event.last k effective <;> simp

/-- Two names with one upper case: the later code counts, and a repetition and a key without a code
leave no trace. -/
theorem keys_as_configured_twice :
    let given : List (Value × Value) := [(.text "ß", .int 1), (.text "ss", .text "0x2")]
    let c : Config := { Config.default with keys := [("SS", 2)] }
    let press (t : Text) : Event := .key { text := t, pressed := true, repeated := false }
    Config.ofValue (.constant .null) (.mapping [(.text "key_map", .mapping given)]) = .ok c ∧
      given ≠ [] ∧
      c.keys.code? "ß" = some 2 ∧
      ∃ m, Machine.ofContents #[0x12, 0x00] c.clock (.cycling #[]) = .ok m ∧
        let w := (create m c []).afterAll [press "q", press "Ss"]
        w.machine.state.keys.read 1 = false ∧ w.machine.state.keys.read 2 = true := by
  intro given c press
  have hc : Config.ofValue (.constant .null) (.mapping [(.text "key_map", .mapping given)])
      = .ok c := by rfl
  have hne : given ≠ [] := List.cons_ne_nil _ _
  have hm : Machine.ofContents #[0x12, 0x00] c.clock (.cycling #[]) = .ok _ :=
    Machine.ofContents_default (by decide) (by decide) _
  obtain ⟨⟨-, hmap⟩, hevents⟩ := keys_as_configured hc rfl hne
  obtain ⟨-, -, hmade⟩ := hevents _ [] [press "q", press "Ss"]
  have hkeys := hmade _ _ hm
  refine ⟨hc, hne, (hmap "ß").trans (by decide), _, hm, ?_, (hkeys 2).mpr (by decide)⟩
  rw [← Bool.not_eq_true, hkeys 1]
  decide

end Window

end Chip8
