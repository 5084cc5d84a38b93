import Mathlib
import Chip8.Proofs.Settings
import Chip8.Startup

/-!
# Proofs/Escapes — what gets past the check of a document

A check of a document ends with settings, with a fault that is foreseen, or with one that is not: it
**escapes** (`Config.Escapes`).  Each check escapes in its own way.  A clock speed does so by its
kind or its size, a section by being no mapping, and a value that has to be shown by what is inside
it.  `Config.overlooked_iff` puts the checks in their order, and `Config.ofBytes_overlooked_iff` is
about files.  All this is so with every reader.
-/

namespace Chip8

/-- A chain fails where a part of it does. -/
theorem bind_eq_error_iff {ε α β : Type} {x : Except ε α} {f : α → Except ε β} {e : ε} :
    x >>= f = .error e ↔ x = .error e ∨ ∃ a, x = .ok a ∧ f a = .error e := by
  cases x <;> simp [bind, Except.bind]

theorem mapError_eq_error_iff {ε ε' α : Type} {x : Except ε α} {f : ε → ε'} {e : ε'} :
    x.mapError f = .error e ↔ ∃ d, x = .error d ∧ f d = e := by
  cases x <;> simp [Except.mapError]

theorem mapError_eq_ok_iff {ε ε' α : Type} {x : Except ε α} {f : ε → ε'} {a : α} :
    x.mapError f = .ok a ↔ x = .ok a := by
  cases x <;> simp [Except.mapError]

namespace Config

/-! ## What is overlooked -/

/-- Whether a fault of a document is reported where a run starts. -/
def Invalid.isForeseen (e : Invalid) : Bool := (Startup.Failure.settings (.invalid e)).isReported

/-- Whether a double can be made of values of this kind. -/
def hasDouble : Value → Bool
  | .real _ | .bool _ | .int _ | .text _ | .bytes _ => true
  | _ => false

/-- A section that is there and is no mapping. -/
def IsNoSection (v : Value) : Prop := v.isBlank = false ∧ ∀ entries, v ≠ .mapping entries

/-- One of the screen settings is too deep to be shown, behind others that can be used. -/
inductive DeepScreen (r : Reader) (display : List (Value × Value)) : Prop
  | scale (h : r.buries (entry display "scale" (.int 10)))
  | foreground {scale : Int} (hscale : intOf r (entry display "scale" (.int 10)) = .ok scale)
      (h : r.buries (entry display "foreground" (.text "#FFFFFF")))
  | background {scale : Int} (hscale : intOf r (entry display "scale" (.int 10)) = .ok scale)
      {foreground : Text}
      (hforeground : textOf r (entry display "foreground" (.text "#FFFFFF")) = .ok foreground)
      (h : r.buries (entry display "background" (.text "#000000")))
  | frameInterval {scale : Int} (hscale : intOf r (entry display "scale" (.int 10)) = .ok scale)
      {foreground : Text}
      (hforeground : textOf r (entry display "foreground" (.text "#FFFFFF")) = .ok foreground)
      {background : Text}
      (hbackground : textOf r (entry display "background" (.text "#000000")) = .ok background)
      (h : r.buries (entry display "frame_interval_ms" (.int 16)))

/-- A key or its code is too deep to be shown, behind entries that can be used. -/
inductive DeepKeys (r : Reader) : List (Value × Value) → Prop
  | code {key code : Value} {rest : List (Value × Value)} (h : r.buries code) :
      DeepKeys r ((key, code) :: rest)
  | name {key code : Value} {rest : List (Value × Value)} {n : Int} (hn : intOf r code = .ok n)
      (h : r.buries key) : DeepKeys r ((key, code) :: rest)
  | later {key code : Value} {rest : List (Value × Value)} {n : Int} (hn : intOf r code = .ok n)
      (hrange : 0 ≤ n ∧ n ≤ 0xF) {name : Text} (hname : textOf r key = .ok name)
      (h : DeepKeys r rest) : DeepKeys r ((key, code) :: rest)

/-- What is overlooked in the entries of a document. -/
inductive Overlooked (r : Reader) (entries : List (Value × Value)) : Invalid → Prop
  /-- The clock speed is of a kind that no double can be made of. -/
  | kind {v : Value} (hv : entry entries "clock_speed_hz" (.real 700.0) = v)
      (h : hasDouble v = false) : Overlooked r entries (.clockKind v.kind)
  /-- The clock speed is an integer beyond the doubles. -/
  | range {n : Int} (hv : entry entries "clock_speed_hz" (.real 700.0) = .int n)
      (h : (Float.ofInt n).isInf) : Overlooked r entries .clockRange
  /-- The screen settings are no mapping, behind a clock speed that can be used. -/
  | display {clock : Float} (hclock : clockOf entries = .ok clock) {v : Value}
      (hv : entry entries "display" .null = v) (h : IsNoSection v) :
      Overlooked r entries (.noMember v.kind "get")
  /-- The screen settings are too deep, behind a clock speed that can be used. -/
  | deepDisplay {clock : Float} (hclock : clockOf entries = .ok clock)
      {display : List (Value × Value)} (hv : entry entries "display" .null = .mapping display)
      (h : DeepScreen r display) : Overlooked r entries .tooDeep
  /-- The keys are no mapping, behind a clock speed and screen settings that can be used. -/
  | keys {clock : Float} (hclock : clockOf entries = .ok clock) {screen : ScreenSettings}
      (hscreen : screenOf r entries = .ok screen) {v : Value}
      (hv : entry entries "key_map" .null = v) (h : IsNoSection v) :
      Overlooked r entries (.noMember v.kind "items")
  /-- The keys are too deep, behind a clock speed and screen settings that can be used. -/
  | deepKeys {clock : Float} (hclock : clockOf entries = .ok clock) {screen : ScreenSettings}
      (hscreen : screenOf r entries = .ok screen) {given : List (Value × Value)}
      (hv : entry entries "key_map" .null = .mapping given) (h : DeepKeys r given) :
      Overlooked r entries .tooDeep

/-! ## Checks that escape -/

/-- A check ends with a fault that is not foreseen. -/
def Escapes {α : Type} (x : Except Invalid α) (e : Invalid) : Prop :=
  x = .error e ∧ e.isForeseen = false

variable {r : Reader} {v : Value} {e : Invalid} {α β : Type}

theorem not_escapes_ok {a : α} : ¬Escapes (.ok a) e := nofun

theorem escapes_error_iff {d : Invalid} :
    Escapes (.error d : Except Invalid α) e ↔ d.isForeseen = false ∧ d = e := by
  constructor
  · rintro ⟨h, he⟩
    obtain rfl := Except.error.inj h
    exact ⟨he, rfl⟩
  · rintro ⟨he, rfl⟩
    exact ⟨rfl, he⟩

theorem not_escapes_numeral {x : Except Decimal.Misread α} :
    ¬Escapes (x.mapError .numeral) e := by
  rintro ⟨h, he⟩
  obtain ⟨d, -, rfl⟩ := mapError_eq_error_iff.1 h
  cases he

theorem escapes_bind_iff {x : Except Invalid α} {f : α → Except Invalid β} :
    Escapes (x >>= f) e ↔ Escapes x e ∨ ∃ a, x = .ok a ∧ Escapes (f a) e := by
  simp only [Escapes, bind_eq_error_iff, or_and_right, ← exists_and_right, and_assoc]

/-! ## Values that are to be shown -/

/-- Instead of a foreseen fault that shows a value, one that is not foreseen comes of a value that
is too deep. -/
theorem unshown_escapes_iff {d : Invalid} (hd : d.isForeseen) :
    Escapes (.error ((unshown? r v).getD d) : Except Invalid α) e ↔
      r.buries v ∧ .tooDeep = e := by
  rw [escapes_error_iff, unshown?]
  split_ifs with deep long
  · simp [deep, Invalid.isForeseen, Startup.Failure.isReported]
  · simp [deep, Invalid.isForeseen, Startup.Failure.isReported]
  · simp [deep, hd]

theorem intOf_escapes_iff : Escapes (intOf r v) e ↔ r.buries v ∧ .tooDeep = e := by
  cases v with
  | int n => simp [intOf, not_escapes_ok, Reader.buries, Value.isNested]
  | text t => simp [intOf, not_escapes_numeral, Reader.buries, Value.isNested]
  | _ => exact unshown_escapes_iff rfl

theorem textOf_escapes_iff : Escapes (textOf r v) e ↔ r.buries v ∧ .tooDeep = e := by
  rw [← unshown_escapes_iff (α := Text) (d := .longInteger) rfl, textOf]
  cases unshown? r v with
  | some d => rfl
  | none => exact iff_of_false not_escapes_ok fun h => nomatch (escapes_error_iff.1 h).1

/-- An integer is never too deep. -/
theorem not_buries_of_intOf {n : Int} (h : intOf r v = .ok n) : ¬r.buries v := fun deep => by
  rw [(intOf_escapes_iff.2 ⟨deep, rfl⟩).1] at h
  cases h

/-! ## The clock speed -/

/-- Where no double comes of a value and that is not foreseen. -/
theorem realOf_escapes_iff : Escapes (realOf v) e ↔
    hasDouble v = false ∧ .clockKind v.kind = e
      ∨ ∃ n, v = .int n ∧ (Float.ofInt n).isInf ∧ .clockRange = e := by
  cases v with
  | int n =>
    rw [realOf]
    split_ifs with h
    · simp [escapes_error_iff, hasDouble, h, Invalid.isForeseen, Startup.Failure.isReported]
    · simp [not_escapes_ok, hasDouble, h]
  | real x => simp [realOf, not_escapes_ok, hasDouble]
  | bool b => simp [realOf, not_escapes_ok, hasDouble]
  | text t => simp [realOf, not_escapes_numeral, hasDouble]
  | bytes b => simp [realOf, not_escapes_numeral, hasDouble]
  | _ => simp [realOf, escapes_error_iff, hasDouble, Invalid.isForeseen, Startup.Failure.isReported]

theorem clockOf_escapes_iff {entries : List (Value × Value)} : Escapes (clockOf entries) e ↔
    Escapes (realOf (entry entries "clock_speed_hz" (.real 700.0))) e := by
  rw [clockOf, escapes_bind_iff, or_iff_left]
  rintro ⟨x, -, h, he⟩
  split at h <;> cases h
  cases he

/-! ## The sections -/

/-- A section that is left blank is foreseen, one that is a mapping escapes by its entries, and one
that is neither always does. -/
theorem section_escapes_iff {given : Value} {member : String} {x : Except Invalid α}
    {Deep : List (Value × Value) → Prop} (hblank : given.isBlank → ¬Escapes x e) (hnil : ¬Deep [])
    (hmapping : ∀ entries ≠ [], given = .mapping entries →
      (Escapes x e ↔ Deep entries ∧ .tooDeep = e))
    (hnone : IsNoSection given → x = .error (.noMember given.kind member)) :
    Escapes x e ↔ IsNoSection given ∧ .noMember given.kind member = e
      ∨ ∃ entries, given = .mapping entries ∧ Deep entries ∧ .tooDeep = e := by
  by_cases blank : given.isBlank
  · refine iff_of_false (hblank blank) ?_
    rintro (⟨h, -⟩ | ⟨entries, rfl, h, -⟩)
    · exact absurd blank (by simp [h.1])
    · obtain rfl : entries = [] := by simpa [Value.isBlank] using blank
      exact hnil h
  by_cases mapping : ∃ entries, given = .mapping entries
  · obtain ⟨entries, rfl⟩ := mapping
    have isSection : ¬IsNoSection (.mapping entries) := fun h => h.2 _ rfl
    rw [hmapping entries (by rintro rfl; exact blank rfl) rfl]
    simp [isSection]
  · have none : IsNoSection given := ⟨by simpa using blank, not_exists.1 mapping⟩
    rw [hnone none, escapes_error_iff]
    refine ⟨fun h => .inl ⟨none, h.2⟩, ?_⟩
    rintro (⟨-, he⟩ | ⟨entries, hgiven, -⟩)
    · exact ⟨rfl, he⟩
    · exact absurd ⟨entries, hgiven⟩ mapping

theorem screenIn_escapes_iff {display : List (Value × Value)} :
    Escapes (screenIn r display) e ↔ DeepScreen r display ∧ .tooDeep = e := by
  have sign {n : Int} {s : ScreenSettings} : ¬Escapes (if n ≤ 0 then
      .error (if Decimal.isLong n then .longInteger else .scale n) else .ok s) e := by
    rintro ⟨h, he⟩
    split_ifs at h <;> cases h <;> cases he
  simp only [screenIn, escapes_bind_iff, intOf_escapes_iff, textOf_escapes_iff, sign, and_false,
    exists_false, or_false]
  constructor
  · rintro (⟨h, he⟩ | ⟨scale, hscale, ⟨h, he⟩ | ⟨foreground, hforeground, ⟨h, he⟩ |
      ⟨background, hbackground, h, he⟩⟩⟩)
    · exact ⟨.scale h, he⟩
    · exact ⟨.foreground hscale h, he⟩
    · exact ⟨.background hscale hforeground h, he⟩
    · exact ⟨.frameInterval hscale hforeground hbackground h, he⟩
  · rintro ⟨h, he⟩
    cases h with
    | scale h => exact .inl ⟨h, he⟩
    | foreground hscale h => exact .inr ⟨_, hscale, .inl ⟨h, he⟩⟩
    | background hscale hforeground h =>
      exact .inr ⟨_, hscale, .inr ⟨_, hforeground, .inl ⟨h, he⟩⟩⟩
    | frameInterval hscale hforeground hbackground h =>
      exact .inr ⟨_, hscale, .inr ⟨_, hforeground, .inr ⟨_, hbackground, h, he⟩⟩⟩

/-- Defaults are never too deep. -/
theorem not_deepScreen_nil : ¬DeepScreen r [] := by
  intro h
  cases h <;> contradiction

theorem not_deepKeys_nil : ¬DeepKeys r [] := by
  intro h
  cases h

/-- A code outside the keypad is an integer and not too deep, so that its key alone decides. -/
theorem keyCode_escapes_iff {key code : Value} {n : Int} (hn : intOf r code = .ok n) :
    Escapes (.error (((unshown? r key).or (unshown? r code)).getD (.keyCode key code))
      : Except Invalid α) e ↔ r.buries key ∧ .tooDeep = e := by
  rw [Option.getD_or]
  refine unshown_escapes_iff ?_
  by_contra h
  have deep : Escapes (.error ((unshown? r code).getD (.keyCode key code)) : Except Invalid α) _ :=
    escapes_error_iff.2 ⟨by simpa using h, rfl⟩
  exact not_buries_of_intOf hn ((unshown_escapes_iff rfl).1 deep).1

theorem addKeys_escapes_iff : ∀ {given : List (Value × Value)} {keys : KeyMap},
    Escapes (addKeys r keys given) e ↔ DeepKeys r given ∧ .tooDeep = e
  | [], keys => iff_of_false not_escapes_ok fun h => not_deepKeys_nil h.1
  | (key, code) :: rest, keys => by
    rw [addKeys, escapes_bind_iff, intOf_escapes_iff]
    constructor
    · rintro (⟨h, he⟩ | ⟨n, hn, h⟩)
      · exact ⟨.code h, he⟩
      split at h
      next hrange =>
        rcases escapes_bind_iff.1 h with h | ⟨name, hname, h⟩
        · obtain ⟨h, he⟩ := textOf_escapes_iff.1 h
          exact ⟨.name hn h, he⟩
        · obtain ⟨h, he⟩ := addKeys_escapes_iff.1 h
          exact ⟨.later hn hrange hname h, he⟩
      next =>
        obtain ⟨h, he⟩ := (keyCode_escapes_iff hn).1 h
        exact ⟨.name hn h, he⟩
    · rintro ⟨h, he⟩
      cases h with
      | code h => exact .inl ⟨h, he⟩
      | name hn h =>
        refine .inr ⟨_, hn, ?_⟩
        split
        · exact escapes_bind_iff.2 (.inl (textOf_escapes_iff.2 ⟨h, he⟩))
        · exact (keyCode_escapes_iff hn).2 ⟨h, he⟩
      | later hn hrange hname h =>
        refine .inr ⟨_, hn, ?_⟩
        rw [if_pos hrange]
        exact escapes_bind_iff.2 (.inr ⟨_, hname, addKeys_escapes_iff.2 ⟨h, he⟩⟩)

/-- Screen settings escape where they are no mapping, and where they are a deep one. -/
theorem screenOf_escapes_iff {entries : List (Value × Value)} :
    Escapes (screenOf r entries) e ↔
      IsNoSection (entry entries "display" .null)
        ∧ .noMember (entry entries "display" .null).kind "get" = e
      ∨ ∃ display, entry entries "display" .null = .mapping display ∧ DeepScreen r display
        ∧ .tooDeep = e := by
  rw [screenOf]
  generalize entry entries "display" .null = given
  refine section_escapes_iff (fun blank => ?_) not_deepScreen_nil ?_ ?_
  · simpa only [blank, if_true, screenIn_escapes_iff] using fun h => not_deepScreen_nil h.1
  · rintro display hne rfl
    rw [if_neg (by simpa [Value.isBlank] using hne)]
    exact screenIn_escapes_iff
  · rintro ⟨filled, noMapping⟩
    rw [if_neg (by simp [filled])]
    split
    next => exact absurd rfl (noMapping _)
    next => rfl

/-- Keys escape where they are no mapping, and where they are a deep one. -/
theorem keysOf_escapes_iff {entries : List (Value × Value)} :
    Escapes (keysOf r entries) e ↔
      IsNoSection (entry entries "key_map" .null)
        ∧ .noMember (entry entries "key_map" .null).kind "items" = e
      ∨ ∃ given, entry entries "key_map" .null = .mapping given ∧ DeepKeys r given
        ∧ .tooDeep = e := by
  rw [keysOf]
  generalize entry entries "key_map" .null = given
  refine section_escapes_iff (fun blank => ?_) not_deepKeys_nil ?_ ?_
  · rw [if_pos blank]
    exact not_escapes_ok
  · rintro keys hne rfl
    rw [if_neg (by simpa [Value.isBlank] using hne)]
    exact addKeys_escapes_iff
  · rintro ⟨filled, noMapping⟩
    rw [if_neg (by simp [filled])]
    split
    next => exact absurd rfl (noMapping _)
    next => rfl

/-- **What is not foreseen in the entries of a document**: the parts are looked at in order, and
each is overlooked only where those in front of it can be used. -/
theorem overlooked_iff {entries : List (Value × Value)} :
    Overlooked r entries e ↔ Escapes (ofValue r (.mapping entries)) e := by
  have parts : Escapes (ofValue r (.mapping entries)) e ↔
      Escapes (realOf (entry entries "clock_speed_hz" (.real 700.0))) e
      ∨ ∃ clock, clockOf entries = .ok clock ∧ (Escapes (screenOf r entries) e
      ∨ ∃ screen, screenOf r entries = .ok screen ∧ Escapes (keysOf r entries) e) := by
    rw [ofValue, escapes_bind_iff, clockOf_escapes_iff]
    simp only [escapes_bind_iff, pure, Except.pure, not_escapes_ok, and_false, exists_false,
      or_false]
  rw [parts, realOf_escapes_iff, screenOf_escapes_iff, keysOf_escapes_iff]
  constructor
  · intro h
    cases h with
    | kind hv h => exact .inl (.inl ⟨hv ▸ h, hv ▸ rfl⟩)
    | range hv h => exact .inl (.inr ⟨_, hv, h, rfl⟩)
    | display hclock hv h => exact .inr ⟨_, hclock, .inl (.inl ⟨hv ▸ h, hv ▸ rfl⟩)⟩
    | deepDisplay hclock hv h => exact .inr ⟨_, hclock, .inl (.inr ⟨_, hv, h, rfl⟩)⟩
    | keys hclock hscreen hv h =>
      exact .inr ⟨_, hclock, .inr ⟨_, hscreen, .inl ⟨hv ▸ h, hv ▸ rfl⟩⟩⟩
    | deepKeys hclock hscreen hv h =>
      exact .inr ⟨_, hclock, .inr ⟨_, hscreen, .inr ⟨_, hv, h, rfl⟩⟩⟩
  · rintro ((⟨h, rfl⟩ | ⟨n, hv, h, rfl⟩) | ⟨clock, hclock, (⟨h, rfl⟩ | ⟨display, hv, h, rfl⟩)
      | ⟨screen, hscreen, ⟨h, rfl⟩ | ⟨given, hv, h, rfl⟩⟩⟩)
    · exact .kind rfl h
    · exact .range hv h
    · exact .display hclock rfl h
    · exact .deepDisplay hclock hv h
    · exact .keys hclock hscreen rfl h
    · exact .deepKeys hclock hscreen hv h

/-! ## Files -/

theorem ofBytes_document_iff {bytes : Array UInt8} {cause : Unloadable} :
    ofBytes r bytes = .error (.document cause) ↔ r.load bytes = .error cause := by
  simp only [ofBytes, ofDocument, bind_eq_error_iff, mapError_eq_error_iff, reduceCtorEq, and_false,
    exists_false, or_false, Unusable.document.injEq, exists_eq_right]

/-- What is overlooked in a file is overlooked in the entries of its document. -/
theorem ofBytes_overlooked_iff {bytes : Array UInt8} :
    ofBytes r bytes = .error (.invalid e) ∧ e.isForeseen = false ↔
      ∃ entries, r.load bytes = .ok (.mapping entries) ∧ Overlooked r entries e := by
  simp only [ofBytes, ofDocument, bind_eq_error_iff, mapError_eq_error_iff, mapError_eq_ok_iff,
    overlooked_iff, Escapes, reduceCtorEq, and_false, exists_false, false_or,
    Unusable.invalid.injEq, exists_eq_right]
  constructor
  · rintro ⟨⟨v, hv, h⟩, he⟩
    split at h
    · rw [ofValue_mapping_nil] at h
      cases h
    cases v with
    | mapping entries => exact ⟨entries, hv, h, he⟩
    | _ =>
      obtain rfl := Except.error.inj h
      cases he
  · rintro ⟨entries, hv, h, he⟩
    refine ⟨⟨_, hv, ?_⟩, he⟩
    split
    next blank =>
      obtain rfl : entries = [] := by simpa [Value.isBlank] using blank
      exact h
    next => exact h

end Config

end Chip8
