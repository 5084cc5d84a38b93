import Mathlib
import Chip8.Proofs.Escapes

/-!
# Proofs/Startup — what hinders a start, and which hindrances go further

A start is hindered by settings that cannot be read or used, by a clock speed or a scale of the
command line that is not positive, by a program that cannot be read or is empty, and by a clock
speed without a period (`Hindrance`).  With a scan asked for, an unhindered start prints the scan
and ends with 0, and a hindered one ends with 2 and one note (`run_of_scan`) — but for the
hindrances that are not foreseen (`Leak`), which break the run off: an error of the reader that is
of no foreseen family, entries of a document that are of a kind that is not looked at or too deep to
be shown (`Config.Overlooked`), and a clock speed so small that a cycle is endless.  This is so with
every reader.
-/

namespace Chip8.Startup

variable {r : Config.Reader} {files : Files} {o : Options} (generator : Generator) {f : Failure}

/-! ## What hinders a start -/

/-- The settings that those of the command line are put over. -/
inductive Basis (r : Config.Reader) (files : Files) (o : Options) : Config → Prop
  | default (h : o.config.getD [] = []) : Basis r files o Config.default
  | file {path : Text} (named : o.config = some path) (h : path ≠ []) {bytes : Array UInt8}
      (hread : files path = .ok bytes) {c : Config} (hc : Config.ofBytes r bytes = .ok c) :
      Basis r files o c

/-- What hinders a start. -/
inductive Hindrance (r : Config.Reader) (files : Files) (o : Options) : Failure → Prop
  /-- The file of the settings cannot be read. -/
  | config {path : Text} (named : o.config = some path) (h : path ≠ []) {cause : FileError}
      (hread : files path = .error cause) : Hindrance r files o (.file path cause)
  /-- The file of the settings gives none. -/
  | settings {path : Text} (named : o.config = some path) (h : path ≠ []) {bytes : Array UInt8}
      (hread : files path = .ok bytes) {cause : Config.Unusable}
      (hc : Config.ofBytes r bytes = .error cause) : Hindrance r files o (.settings cause)
  /-- The clock speed of the command line is at most zero. -/
  | clock {c : Config} (hc : Basis r files o c) {x : Float} (hx : o.clock = some x) (h : x ≤ 0.0) :
      Hindrance r files o (.clock x)
  /-- The scale of the command line is at most zero. -/
  | scale {c : Config} (hc : Basis r files o c) (hclock : ∀ x, o.clock = some x → ¬x ≤ 0.0)
      {n : Int} (hn : o.scale = some n) (h : n ≤ 0) : Hindrance r files o (.scale n)
  /-- The program cannot be read. -/
  | program {c : Config} (hc : resolve r files o = .ok c) {cause : FileError}
      (hread : files (Path.tidy o.program) = .error cause) :
      Hindrance r files o (.file (Path.tidy o.program) cause)
  /-- The program is empty. -/
  | empty {c : Config} (hc : resolve r files o = .ok c)
      (hread : files (Path.tidy o.program) = .ok #[]) :
      Hindrance r files o (.machine (.emptyImage (Path.tidy o.program)))
  /-- The clock speed has no period. -/
  | speed {c : Config} (hc : resolve r files o = .ok c) {contents : Array UInt8}
      (hread : files (Path.tidy o.program) = .ok contents) (h : contents ≠ #[]) {d : Refusal}
      (hd : refusal? c.clock = some d) : Hindrance r files o (.machine d)

/-- What there is before the command line is followed: a file that is read, or the defaults. -/
def basis (r : Config.Reader) (files : Files) (o : Options) : Except Failure Config :=
  if (o.config.getD []).isEmpty then .ok Config.default else readConfig r files (o.config.getD [])

theorem basis_of_named {path : Text} (named : o.config = some path) (h : path ≠ []) :
    basis r files o = readConfig r files path := by
  rw [basis, named, Option.getD_some, if_neg (by simpa using h)]

theorem exists_named (h : o.config.getD [] ≠ []) : ∃ path, o.config = some path ∧ path ≠ [] := by
  cases hconfig : o.config with
  | none => exact absurd (by rw [hconfig]; rfl) h
  | some path => exact ⟨path, rfl, by simpa [hconfig] using h⟩

theorem basis_eq_ok_iff {c : Config} : basis r files o = .ok c ↔ Basis r files o c := by
  constructor
  · intro h
    by_cases hpath : o.config.getD [] = []
    · rw [basis, hpath] at h
      obtain rfl := Except.ok.inj h
      exact .default hpath
    · obtain ⟨path, named, hne⟩ := exists_named hpath
      rw [basis_of_named named hne] at h
      obtain ⟨bytes, hread, h⟩ := exists_ok_of_bind h
      exact .file named hne (mapError_eq_ok_iff.1 hread) (mapError_eq_ok_iff.1 h)
  · rintro (h | ⟨named, hpath, hread, hc⟩)
    · rw [basis, h]
      rfl
    · rw [basis_of_named named hpath, readConfig, hread]
      exact mapError_eq_ok_iff.2 hc

theorem hindrance_of_basis (h : basis r files o = .error f) : Hindrance r files o f := by
  by_cases hpath : o.config.getD [] = []
  · rw [basis, hpath] at h
    cases h
  obtain ⟨path, named, hne⟩ := exists_named hpath
  rw [basis_of_named named hne] at h
  rcases bind_eq_error_iff.1 h with h | ⟨bytes, hread, h⟩
  · obtain ⟨cause, hread, rfl⟩ := mapError_eq_error_iff.1 h
    exact .config named hne hread
  · obtain ⟨cause, hc, rfl⟩ := mapError_eq_error_iff.1 h
    exact .settings named hne (mapError_eq_ok_iff.1 hread) hc

theorem overrideClock_eq_error_iff {c : Config} {clock : Option Float} :
    overrideClock c clock = .error f ↔ ∃ x, clock = some x ∧ x ≤ 0.0 ∧ .clock x = f := by
  rcases clock with _ | x
  · simp [overrideClock]
  · by_cases hx : x ≤ 0.0 <;> simp [overrideClock, hx]

theorem overrideScale_eq_error_iff {c : Config} {scale : Option Int} :
    overrideScale c scale = .error f ↔ ∃ n, scale = some n ∧ n ≤ 0 ∧ .scale n = f := by
  rcases scale with _ | n
  · simp [overrideScale]
  · by_cases hn : n ≤ 0 <;> simp [overrideScale, hn]

theorem resolve_eq : resolve r files o = basis r files o
    >>= fun c => overrideClock c o.clock >>= fun c => overrideScale c o.scale := by
  rw [resolve, basis]
  split_ifs <;> rfl

theorem resolve_eq_error_iff : resolve r files o = .error f ↔ basis r files o = .error f
    ∨ ∃ c, basis r files o = .ok c ∧ (overrideClock c o.clock = .error f
    ∨ ∃ c', overrideClock c o.clock = .ok c' ∧ overrideScale c' o.scale = .error f) := by
  simp only [resolve_eq, bind_eq_error_iff]

theorem loadMachine_eq_error_iff {path : Text} {clock : Float} :
    (loadMachine files path clock generator).result = .error f ↔
      (∃ cause, files (Path.tidy path) = .error cause ∧ .file (Path.tidy path) cause = f)
      ∨ ∃ contents, files (Path.tidy path) = .ok contents
        ∧ (contents = #[] ∧ .machine (.emptyImage (Path.tidy path)) = f
          ∨ contents ≠ #[] ∧ ∃ d, refusal? clock = some d ∧ .machine d = f) := by
  rw [loadMachine]
  cases hread : files (Path.tidy path) with
  | error cause => simp
  | ok contents =>
    by_cases hcontents : contents = #[]
    · simp [hcontents, Loading.ofContents, Except.mapError, bind, Except.bind]
    · simp only [Loading.result_ofContents hcontents, bind_eq_error_iff, mapError_eq_error_iff,
        Machine.create_real_eq_error_iff]
      simp [hcontents, Except.mapError]

/-- **A start fails for what hinders it**, and the generator has no part in it. -/
theorem hindrance_iff : Hindrance r files o f ↔ resolve r files o = .error f
    ∨ ∃ c, resolve r files o = .ok c
      ∧ (loadMachine files o.program c.clock generator).result = .error f := by
  simp only [resolve_eq_error_iff, loadMachine_eq_error_iff, overrideClock_eq_error_iff,
    overrideScale_eq_error_iff]
  constructor
  · intro h
    cases h with
    | config named h hread =>
      refine .inl (.inl ?_)
      rw [basis_of_named named h, readConfig, hread]
      rfl
    | settings named h hread hc =>
      refine .inl (.inl ?_)
      rw [basis_of_named named h, readConfig, hread]
      exact mapError_eq_error_iff.2 ⟨_, hc, rfl⟩
    | clock hc hx h => exact .inl (.inr ⟨_, basis_eq_ok_iff.2 hc, .inl ⟨_, hx, h, rfl⟩⟩)
    | scale hc hclock hn h =>
      refine .inl (.inr ⟨_, basis_eq_ok_iff.2 hc, .inr ?_⟩)
      cases hx : overrideClock _ o.clock with
      | error e =>
        obtain ⟨x, hx, hle, -⟩ := overrideClock_eq_error_iff.1 hx
        exact absurd hle (hclock x hx)
      | ok c => exact ⟨c, rfl, _, hn, h, rfl⟩
    | program hc hread => exact .inr ⟨_, hc, .inl ⟨_, hread, rfl⟩⟩
    | empty hc hread => exact .inr ⟨_, hc, .inr ⟨_, hread, .inl ⟨rfl, rfl⟩⟩⟩
    | speed hc hread h hd => exact .inr ⟨_, hc, .inr ⟨_, hread, .inr ⟨h, _, hd, rfl⟩⟩⟩
  · rintro ((h | ⟨c, hc, ⟨x, hx, h, rfl⟩ | ⟨c', hclock, n, hn, h, rfl⟩⟩)
      | ⟨c, hc, ⟨cause, hread, rfl⟩ | ⟨contents, hread, ⟨rfl, rfl⟩ | ⟨h, d, hd, rfl⟩⟩⟩)
    · exact hindrance_of_basis h
    · exact .clock (basis_eq_ok_iff.1 hc) hx h
    · refine .scale (basis_eq_ok_iff.1 hc) (fun x hx hle => ?_) hn h
      rw [overrideClock_eq_error_iff.2 ⟨x, hx, hle, rfl⟩] at hclock
      cases hclock
    · exact .program hc hread
    · exact .empty hc hread
    · exact .speed hc hread h hd

/-! ## What goes further -/

/-- What hinders a start without being foreseen. -/
inductive Leak (r : Config.Reader) (files : Files) (o : Options) : Failure → Prop
  /-- The reader ends on the file of the settings in a way that is not foreseen. -/
  | document {path : Text} (named : o.config = some path) (h : path ≠ []) {bytes : Array UInt8}
      (hread : files path = .ok bytes) {cause : Config.Unloadable}
      (hc : r.load bytes = .error cause)
      (hcause : cause.isForeseen = false) :
      Leak r files o (.settings (.document cause))
  /-- Something is overlooked in the entries of the settings. -/
  | settings {path : Text} (named : o.config = some path) (h : path ≠ []) {bytes : Array UInt8}
      (hread : files path = .ok bytes) {entries : List (Value × Value)}
      (hv : r.load bytes = .ok (.mapping entries))
      {cause : Config.Invalid} (hc : Config.Overlooked r entries cause) :
      Leak r files o (.settings (.invalid cause))
  /-- A cycle at the clock speed is endless. -/
  | speed {c : Config} (hc : resolve r files o = .ok c) {contents : Array UInt8}
      (hread : files (Path.tidy o.program) = .ok contents) (h : contents ≠ #[])
      (hinf : (1000000.0 / c.clock).isInf) : Leak r files o (.machine .infinite)

theorem clock_of_overrideScale {c c' : Config} {scale : Option Int}
    (h : overrideScale c scale = .ok c') : c'.clock = c.clock := by
  rcases scale with _ | n
  · cases h
    rfl
  · rw [overrideScale] at h
    split at h <;> cases h
    rfl

theorem not_le_of_basis {c : Config} (h : Basis r files o c) : ¬c.clock ≤ 0.0 := by
  cases h with
  | default h => decide
  | file named h hread hc =>
    obtain ⟨v, -, hc⟩ := exists_ok_of_bind hc
    obtain ⟨entries, -, hclock, -⟩ := Config.ofValue_ok (mapError_eq_ok_iff.1 hc)
    exact Config.clockOf_ok hclock

/-- The clock speed of a run has passed the check of its sign, wherever it comes from. -/
theorem not_le_of_resolve {c : Config} (h : resolve r files o = .ok c) : ¬c.clock ≤ 0.0 := by
  rw [resolve_eq] at h
  obtain ⟨c₀, hbasis, h⟩ := exists_ok_of_bind h
  obtain ⟨c₁, hclock, hscale⟩ := exists_ok_of_bind h
  rw [clock_of_overrideScale hscale]
  cases hx : o.clock with
  | none =>
    rw [hx] at hclock
    obtain rfl := Except.ok.inj hclock
    exact not_le_of_basis (basis_eq_ok_iff.1 hbasis)
  | some x =>
    rw [hx, overrideClock] at hclock
    split at hclock <;> cases hclock
    assumption

theorem leak_iff : Leak r files o f ↔ Hindrance r files o f ∧ f.isReported = false := by
  constructor
  · intro h
    cases h with
    | document named h hread hc hcause =>
      exact ⟨.settings named h hread (Config.ofBytes_document_iff.2 hc), hcause⟩
    | settings named h hread hv hc =>
      obtain ⟨hbytes, hcause⟩ := Config.ofBytes_overlooked_iff.2 ⟨_, hv, hc⟩
      exact ⟨.settings named h hread hbytes, hcause⟩
    | speed hc hread h hinf =>
      exact ⟨.speed hc hread h ((refusal?_of_not_le (not_le_of_resolve hc)).2.1.2 hinf), rfl⟩
  · rintro ⟨h, hf⟩
    cases h with
    | @settings path named h bytes hread cause hc =>
      cases cause with
      | document d => exact .document named h hread (Config.ofBytes_document_iff.1 hc) hf
      | invalid e =>
        obtain ⟨entries, hv, hc⟩ := Config.ofBytes_overlooked_iff.1 ⟨hc, hf⟩
        exact .settings named h hread hv hc
    | @speed c hc contents hread h d hd =>
      obtain rfl : d = .infinite := by cases d <;> first | rfl | cases hf
      exact .speed hc hread h ((refusal?_of_not_le (not_le_of_resolve hc)).2.1.1 hd)
    | _ => cases hf

/-! ## The run -/

/-- The notes of the gravest level. -/
def Outcome.errors (r : Outcome) : List Note := r.notes.filter (·.level = .error)

theorem errors_ofContents (contents : Array UInt8) (source : Text) :
    (Loading.ofContents contents source).notes.filter (·.level = .error) = [] := by
  rw [Loading.ofContents]
  split
  · rfl
  · dsimp only
    split_ifs <;> rfl

theorem errors_loadMachine (files : Files) (path : Text) (clock : Float) (generator : Generator) :
    (loadMachine files path clock generator).notes.filter (·.level = .error) = [] := by
  rw [loadMachine]
  split
  · rfl
  · exact errors_ofContents ..

/-- A hindered start fails with what hinders it, behind notes that are no errors. -/
theorem run_of_hindrance (h : Hindrance r files o f) :
    ∃ notes, notes.filter (·.level = .error) = [] ∧ run r files o generator = fail notes f := by
  rcases (hindrance_iff generator).1 h with h | ⟨c, hc, hm⟩
  · exact ⟨[], rfl, by rw [run, h]⟩
  · refine ⟨_, errors_loadMachine files o.program c.clock generator, ?_⟩
    simp only [run, hc, hm]

/-- A start without hindrance comes to a machine on the program, and scans it if that is asked
for. -/
theorem run_of_unhindered (hscan : o.scan = true) (h : ∀ f, ¬Hindrance r files o f) :
    ∃ c contents m, resolve r files o = .ok c ∧ files (Path.tidy o.program) = .ok contents
      ∧ Machine.ofContents contents c.clock generator = .ok m
      ∧ (run r files o generator).plan = .finish 0 m.scanLines
      ∧ (run r files o generator).errors = [] := by
  have hnot := fun f => mt (hindrance_iff generator).2 (h f)
  cases hc : resolve r files o with
  | error f => exact absurd (.inl hc) (hnot f)
  | ok c =>
    cases hm : (loadMachine files o.program c.clock generator).result with
    | error f => exact absurd (.inr ⟨c, hc, hm⟩) (hnot f)
    | ok m =>
      have hrun : run r files o generator =
          ⟨(loadMachine files o.program c.clock generator).notes, .finish 0 m.scanLines⟩ := by
        simp only [run, hc, hm, hscan, if_true]
      cases hread : files (Path.tidy o.program) with
      | error cause => exact absurd (.program hc hread) (h _)
      | ok contents =>
        have hcontents : contents ≠ #[] := fun hnil => h _ (.empty hc (hnil ▸ hread))
        have herrors : (run r files o generator).errors = [] := by
          rw [hrun]
          exact errors_loadMachine ..
        refine ⟨c, contents, m, rfl, rfl, ?_, by rw [hrun], herrors⟩
        rw [loadMachine, hread] at hm
        simp only [Loading.result_ofContents hcontents] at hm
        rw [Machine.ofContents_eq_create hcontents]
        exact mapError_eq_ok_iff.1 hm

/-- A scan of a program, with settings from a file or without. -/
def scanOf (program : Text) (config : Option Text) : Options where
  program := program
  scan := true
  verbose := false
  clock := none
  config := config
  scale := none

/-- **Where a run with a scan ends**: with 2 and one error if what hinders it is foreseen, with 0
and the scan if nothing hinders it, and broken off just by what leaks. -/
theorem run_of_scan (hscan : o.scan = true) :
    (∀ f, Hindrance r files o f → f.isReported →
      (run r files o generator).plan = .finish 2 [] ∧ (run r files o generator).errors = [f.note])
    ∧ ((∀ f, ¬Hindrance r files o f) →
      ∃ c contents m, resolve r files o = .ok c ∧ files (Path.tidy o.program) = .ok contents
        ∧ Machine.ofContents contents c.clock generator = .ok m
        ∧ (run r files o generator).plan = .finish 0 m.scanLines
        ∧ (run r files o generator).errors = [])
    ∧ ∀ f, (run r files o generator).plan = .breakOff f ↔ Leak r files o f := by
  refine ⟨fun f h hf => ?_, run_of_unhindered generator hscan, fun f => ⟨fun h => ?_, fun h => ?_⟩⟩
  · obtain ⟨notes, hnotes, hrun⟩ := run_of_hindrance generator h
    rw [hrun, fail, if_pos hf]
    exact ⟨rfl, by simp [Outcome.errors, hnotes, Failure.note]⟩
  · by_cases hindered : ∃ f, Hindrance r files o f
    · obtain ⟨f', hf'⟩ := hindered
      obtain ⟨notes, -, hrun⟩ := run_of_hindrance generator hf'
      rw [hrun, fail] at h
      split at h
      · cases h
      · obtain rfl : f' = f := by cases h; rfl
        exact leak_iff.2 ⟨hf', by simpa using ‹¬f'.isReported = true›⟩
    · obtain ⟨c, contents, m, -, -, -, hplan, -⟩ :=
        run_of_unhindered generator hscan (not_exists.1 hindered)
      rw [hplan] at h
      cases h
  · obtain ⟨h, hf⟩ := leak_iff.1 h
    obtain ⟨notes, -, hrun⟩ := run_of_hindrance generator h
    rw [hrun, fail, if_neg (by simp [hf])]

/-- A program that is missing, and one that jumps to itself. -/
theorem run_of_scan_loop :
    (run (.constant .null) (fun _ => .error .missing) (scanOf "loop.ch8" none)
        (.cycling #[])).plan = .finish 2 []
      ∧ ∃ m : Machine,
        (run (.constant .null) (fun _ => .ok #[0x12, 0x00]) (scanOf "loop.ch8" none)
          (.cycling #[])).plan = .finish 0 m.scanLines := by
  constructor
  · have h : Hindrance (.constant .null) (fun _ => .error .missing) (scanOf "loop.ch8" none)
        (.file (Path.tidy "loop.ch8") .missing) := .program (c := Config.default) rfl rfl
    exact ((run_of_scan (.cycling #[]) rfl).1 _ h rfl).1
  · have h (f : Failure) : ¬Hindrance (.constant .null) (fun _ => .ok #[0x12, 0x00])
        (scanOf "loop.ch8" none) f := by
      have resolved : resolve (.constant .null) (fun _ => .ok #[0x12, 0x00])
          (scanOf "loop.ch8" none) = .ok Config.default := rfl
      have speed : refusal? Config.default.clock = none := by decide
      simp [hindrance_iff (.cycling #[]), resolved, loadMachine_eq_error_iff, speed]
    obtain ⟨c, contents, m, -, -, -, hplan, -⟩ := (run_of_scan (.cycling #[]) rfl).2.1 h
    exact ⟨m, hplan⟩

/-- A document in which the clock speed is named and left open breaks a run off. -/
theorem exists_breakOff :
    ∃ (r : Config.Reader) (files : Files),
      r.load "clock_speed_hz:\n".toUTF8.data = .ok (.mapping [(.text "clock_speed_hz", .null)])
      ∧ files "loop.ch8" = .ok #[0x12, 0x00]
      ∧ files "open.yaml" = .ok "clock_speed_hz:\n".toUTF8.data
      ∧ Options.parse ["loop.ch8", "--scan", "--config", "open.yaml"]
          = .ok (scanOf "loop.ch8" (some "open.yaml"))
      ∧ (run r files (scanOf "loop.ch8" (some "open.yaml")) (.cycling #[])).plan
          = .breakOff (.settings (.invalid (.clockKind "NoneType"))) := by
  let r : Config.Reader := .constant (.mapping [(.text "clock_speed_hz", .null)])
  let files : Files := fun path =>
    if path = "open.yaml" then .ok "clock_speed_hz:\n".toUTF8.data else .ok #[0x12, 0x00]
  have openClock : Config.Overlooked r [(.text "clock_speed_hz", .null)] (.clockKind "NoneType") :=
    .kind (v := .null) rfl rfl
  have leak : Leak r files (scanOf "loop.ch8" (some "open.yaml"))
      (.settings (.invalid (.clockKind "NoneType"))) :=
    .settings rfl (by decide) (if_pos rfl) rfl openClock
  obtain ⟨hindered, -⟩ := leak_iff.1 leak
  obtain ⟨notes, -, hrun⟩ := run_of_hindrance (.cycling #[]) hindered
  exact ⟨r, files, rfl, if_neg (by decide), if_pos rfl, rfl, by rw [hrun]; rfl⟩

end Chip8.Startup
