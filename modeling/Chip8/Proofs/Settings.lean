import Mathlib
import Chip8.Config
import Chip8.Proofs.Constancy
import Chip8.Proofs.Speed

/-!
# Proofs/Settings — what holds of the settings that a document gives

Settings that come from a document (`Config.ofValue`) have a positive scale, at least one key and
only codes of the keypad, and a clock speed that is positive *or not a number*: the check refuses
what is at most zero (`Config.Sound`).  A machine can be made with them for every program but the
empty one, unless the speed is not a number or a million over it is infinite
(`Config.sound_and_buildable_iff`).  All this is so with every reader.
-/

namespace Chip8

namespace KeyMap

theorem put_ne_nil (name : Text) (code : Int) (m : KeyMap) : put name code m ≠ [] := by
  rcases m with _ | ⟨⟨n, c⟩, rest⟩
  · simp [put]
  · rw [put]
    split <;> simp

/-- What a map holds with a code put in is that code or was there. -/
theorem snd_of_mem_put {name : Text} {code : Int} {k : Text × Int} :
    ∀ {m : KeyMap}, k ∈ put name code m → k.2 = code ∨ k ∈ m
  | [], h => by
    obtain rfl : k = (name, code) := by simpa [put] using h
    exact .inl rfl
  | (n, c) :: rest, h => by
    rw [put] at h
    split at h
    · rcases List.mem_cons.1 h with rfl | h
      · exact .inl rfl
      · exact .inr (List.mem_cons_of_mem _ h)
    · rcases List.mem_cons.1 h with rfl | h
      · exact .inr List.mem_cons_self
      · exact (snd_of_mem_put h).imp_right (List.mem_cons_of_mem _)

/-- A map to codes of the keypad. -/
def InKeypad (m : KeyMap) : Prop := ∀ k ∈ m, 0 ≤ k.2 ∧ k.2 ≤ 0xF

theorem InKeypad.put {m : KeyMap} (h : m.InKeypad) {code : Int} (hcode : 0 ≤ code ∧ code ≤ 0xF)
    (name : Text) : InKeypad (put name code m) := fun k hk =>
  (snd_of_mem_put hk).elim (fun e => e ▸ hcode) (h k)

theorem inKeypad_standard : standard.InKeypad := by
  unfold InKeypad
  decide

end KeyMap

namespace Config

/-- A reader to which every file is one document, and no value is too deep. -/
def Reader.constant (v : Value) : Reader where
  load _ := .ok v
  isTooDeep _ := false

/-! ## Settings that are given -/

/-- What the check of a document makes sure of. -/
structure Sound (c : Config) : Prop where
  clock : c.clock = Float.nan ∨ 0.0 < c.clock
  scale : 0 < c.screen.scale
  keys : c.keys ≠ []
  codes : c.keys.InKeypad

variable {r : Reader} {entries : List (Value × Value)}

theorem clockOf_ok {x : Float} (h : clockOf entries = .ok x) : ¬x ≤ 0.0 := by
  obtain ⟨y, -, h⟩ := exists_ok_of_bind h
  split at h
  · cases h
  · obtain rfl : y = x := by cases h; rfl
    assumption

theorem screenIn_ok {display : List (Value × Value)} {s : ScreenSettings}
    (h : screenIn r display = .ok s) : 0 < s.scale := by
  obtain ⟨scale, -, h⟩ := exists_ok_of_bind h
  obtain ⟨foreground, -, h⟩ := exists_ok_of_bind h
  obtain ⟨background, -, h⟩ := exists_ok_of_bind h
  obtain ⟨frameInterval, -, h⟩ := exists_ok_of_bind h
  split at h
  · cases h
  · cases h
    simpa using ‹¬scale ≤ 0›

theorem screenOf_ok {s : ScreenSettings} (h : screenOf r entries = .ok s) : 0 < s.scale := by
  rw [screenOf] at h
  split at h
  · exact screenIn_ok h
  · cases h

/-- Every entry that is gone through puts a code of the keypad into the map. -/
theorem addKeys_ok {m : KeyMap} : ∀ {given : List (Value × Value)} {keys : KeyMap},
    addKeys r keys given = .ok m →
      keys.InKeypad → m.InKeypad ∧ (keys ≠ [] ∨ given ≠ [] → m ≠ [])
  | [], keys, h, hkeys => by
    obtain rfl : keys = m := by simpa [addKeys] using h
    exact ⟨hkeys, by simp⟩
  | (key, code) :: rest, keys, h, hkeys => by
    obtain ⟨n, -, h⟩ := exists_ok_of_bind h
    split at h
    next hn =>
      obtain ⟨name, -, h⟩ := exists_ok_of_bind h
      obtain ⟨codes, nonempty⟩ := addKeys_ok h (hkeys.put hn _)
      exact ⟨codes, fun _ => nonempty (.inl (KeyMap.put_ne_nil _ _ _))⟩
    next => cases h

theorem keysOf_ok {m : KeyMap} (h : keysOf r entries = .ok m) : m ≠ [] ∧ m.InKeypad := by
  rw [keysOf] at h
  split at h
  · obtain rfl : KeyMap.standard = m := by cases h; rfl
    exact ⟨by decide, KeyMap.inKeypad_standard⟩
  next blank =>
    split at h
    next keys hkeys =>
      obtain ⟨codes, nonempty⟩ := addKeys_ok h (fun k hk => absurd hk List.not_mem_nil)
      refine ⟨nonempty (.inr ?_), codes⟩
      rintro rfl
      exact blank (by rw [hkeys]; rfl)
    next => cases h

theorem ofValue_ok {v : Value} {c : Config} (h : ofValue r v = .ok c) :
    ∃ entries, v = .mapping entries ∧ clockOf entries = .ok c.clock
      ∧ screenOf r entries = .ok c.screen ∧ keysOf r entries = .ok c.keys := by
  unfold ofValue at h
  split at h
  · obtain ⟨clock, hclock, h⟩ := exists_ok_of_bind h
    obtain ⟨screen, hscreen, h⟩ := exists_ok_of_bind h
    obtain ⟨keys, hkeys, h⟩ := exists_ok_of_bind h
    cases h
    exact ⟨_, rfl, hclock, hscreen, hkeys⟩
  · cases h

theorem sound_of_ofValue {v : Value} {c : Config} (h : ofValue r v = .ok c) : c.Sound := by
  obtain ⟨entries, -, hclock, hscreen, hkeys⟩ := ofValue_ok h
  obtain ⟨nonempty, codes⟩ := keysOf_ok hkeys
  exact ⟨(not_le_zero_iff _).1 (clockOf_ok hclock), screenOf_ok hscreen, nonempty, codes⟩

/-- A document without entries gives the defaults. -/
theorem ofValue_mapping_nil (r : Reader) : ofValue r (.mapping []) = .ok default := by rfl

/-- **Settings of a document are sound, and with them a machine can be made for every program that
is not empty, unless the clock speed is not a number or a million over it is infinite**: the check
of the sign lets both through. -/
theorem sound_and_buildable_iff {v : Value} {c : Config} (h : ofValue r v = .ok c) :
    c.Sound ∧ ∀ contents generator, contents ≠ #[] →
      ((∃ m, Machine.ofContents contents c.clock generator = .ok m)
        ↔ c.clock ≠ Float.nan ∧ ¬(1000000.0 / c.clock).isInf)
      ∧ (Machine.ofContents contents c.clock generator = .error .notANumber
        ↔ c.clock = Float.nan)
      ∧ (Machine.ofContents contents c.clock generator = .error .infinite
        ↔ (1000000.0 / c.clock).isInf) := by
  refine ⟨sound_of_ofValue h, fun contents generator hcontents => ?_⟩
  obtain ⟨entries, -, hclock, -, -⟩ := ofValue_ok h
  obtain ⟨noNumber, endless, accepted⟩ := refusal?_of_not_le (clockOf_ok hclock)
  rw [Machine.ofContents_eq_create hcontents, Machine.exists_create_real_iff,
    Machine.create_real_eq_error_iff, Machine.create_real_eq_error_iff]
  exact ⟨accepted, noNumber, endless⟩

theorem default_sound_and_buildable :
    ofValue (.constant .null) (.mapping []) = .ok default ∧ default.Sound
      ∧ ∃ m, Machine.ofContents #[0x12, 0x00] default.clock (.cycling #[]) = .ok m :=
  have hb := sound_and_buildable_iff (ofValue_mapping_nil (.constant .null))
  ⟨ofValue_mapping_nil _, hb.1, ((hb.2 _ _ (by decide)).1).2 ⟨by decide, by decide⟩⟩

/-- A document may say that the clock speed is not a number: it is no positive speed, and no machine
can have it. -/
theorem exists_ofValue_not_positive :
    ∃ c, ofValue (.constant .null) (.mapping [(.text "clock_speed_hz", .text "nan")]) = .ok c
      ∧ ¬0.0 < c.clock
      ∧ ∀ contents generator, contents ≠ #[] →
          Machine.ofContents contents c.clock generator = .error .notANumber := by
  have h : (match ofValue (.constant .null) (.mapping [(.text "clock_speed_hz", .text "nan")]) with
      | .ok c => decide (c.clock = Float.nan)
      | .error _ => false) = true := by decide
  split at h
  next c hc =>
    have hnan : c.clock = Float.nan := of_decide_eq_true h
    refine ⟨c, hc, by rw [hnan]; decide, fun contents generator hcontents => ?_⟩
    rw [Machine.ofContents_eq_create hcontents, Machine.create_real_eq_error_iff, hnan]
    decide
  next => cases h

/-- The least positive speed: a cycle at it is endless. -/
example : 0.0 < Float.ofBits 1 ∧ (1000000.0 / Float.ofBits 1).isInf := by decide

end Config

end Chip8
