import Mathlib
import Chip8.Proofs.Drive
import Chip8.Proofs.Elapsed
import Chip8.Proofs.Faults
import Chip8.Proofs.Settings
import Chip8.Window

/-!
# Proofs/Session — what a window shows, whatever happens to it

A session is a row of events on a window.  A look at the machine shows it as it is
(`Window.refresh_shown`), and a tick ends with one, whether the machine fails or not; between two of
them the panel keeps its labels and the halt its words (`Window.Sound`).  Time that passes on a
clock that does not go back is never refused (`Machine.elapse_fault`), so all that a tick can meet
is a fault of the program, which it keeps.  `Window.afterAll_settled` puts the events together.
-/

namespace Chip8

/-! ## What fails when time passes -/

namespace Machine

/-- A machine at the default speed. -/
theorem ofContents_default {contents : Array UInt8} (h : contents ≠ #[])
    (hsize : contents.size ≤ programSize) (generator : Generator) :
    ofContents contents Config.default.clock generator =
      .ok (fresh contents 1429 (by decide) generator) := by
  have hperiod : (Number.real Config.default.clock).period = .ok ⟨1429, by decide⟩ := by decide
  rw [ofContents_eq_create h, Array.extract_eq_self_of_le hsize, create, hperiod]
  rfl

end Machine

/-! ## Labels -/

namespace Machine

/-- The names of the registers, in the order of their values. -/
def registerNames : List String := (List.range 16).map registerName ++ ["I", "DT", "ST", "PC", "SP"]

theorem map_fst_registerMap (m : Machine) : m.registerMap.map Prod.fst = registerNames := by
  rw [registerMap, List.map_append, List.map_fst_zip (by simp [Registers.toList])]
  rfl

theorem exists_lookup_registerMap (m : Machine) {name : String} (h : name ∈ registerNames) :
    ∃ value, m.registerMap.lookup name = some value := by
  rw [← map_fst_registerMap m] at h
  obtain ⟨p, hp, rfl⟩ := List.mem_map.mp h
  rw [← Option.ne_none_iff_exists']
  intro hnone
  exact absurd (List.lookup_eq_none_iff.mp hnone p hp) (by simp)

end Machine

namespace Panel

/-- The titles of the groups, with the names and digits of the labels under them. -/
def plan (p : Panel) : List (String × List (String × Nat)) :=
  p.groups.map fun g => (g.1, g.2.map fun l => (l.name, l.digits))

/-- The plan of a panel with one label for each register. -/
def fullPlan : List (String × List (String × Nat)) :=
  registerLayout.map fun g => (g.title, g.registers.map fun r => (r.name, (r.width + 3) / 4))

/-- Every register has its label, and every label shows the present value of its register. -/
def Shows (p : Panel) (m : Machine) : Prop :=
  p.plan = fullPlan ∧ ∀ l ∈ p.labels, ∃ value, m.registerMap.lookup l.name = some value ∧
    l.text = Label.textFor l.name l.digits value

theorem fullPlan_registers : ∀ g ∈ fullPlan, ∀ r ∈ g.2, r.1 ∈ Machine.registerNames := by
  decide +kernel

theorem plan_setUp (p : Panel) : p.setUp.plan = fullPlan := by
  simp only [plan, setUp, fullPlan, List.map_map, Function.comp_def, Label.ofRegister]

variable {p : Panel} {m : Machine} {l : Label}

theorem name_of_mem_labels (h : l ∈ p.labels) : ∃ g ∈ p.plan, (l.name, l.digits) ∈ g.2 := by
  obtain ⟨g, hg, hl⟩ := List.mem_flatMap.mp h
  exact ⟨_, List.mem_map_of_mem hg, List.mem_map_of_mem hl⟩

theorem plan_refresh (p : Panel) (m : Machine) : (p.refresh m).plan = p.plan := by
  have hkeep (l : Label) : ((m.registerMap.lookup l.name).elim l l.update).name = l.name ∧
      ((m.registerMap.lookup l.name).elim l l.update).digits = l.digits := by
    cases m.registerMap.lookup l.name <;> exact ⟨rfl, rfl⟩
  simp only [plan, refresh, List.map_map, Function.comp_def, hkeep]

theorem mem_labels_refresh (h : l ∈ (p.refresh m).labels) :
    ∃ l' ∈ p.labels, l = (m.registerMap.lookup l'.name).elim l' l'.update := by
  simp only [labels, refresh, List.mem_flatMap, List.mem_map] at h ⊢
  obtain ⟨_, ⟨g, hg, rfl⟩, hl⟩ := h
  obtain ⟨l', hl', rfl⟩ := List.mem_map.mp hl
  exact ⟨l', ⟨g, hg, hl'⟩, rfl⟩

/-- **A panel with a label for each register shows a machine that it looks at.** -/
theorem refresh_shows (hp : p.plan = fullPlan) (m : Machine) : (p.refresh m).Shows m := by
  refine ⟨(plan_refresh p m).trans hp, fun l hl => ?_⟩
  obtain ⟨l', hl', rfl⟩ := mem_labels_refresh hl
  obtain ⟨g, hg, hr⟩ := name_of_mem_labels hl'
  obtain ⟨value, hvalue⟩ :=
    m.exists_lookup_registerMap (fullPlan_registers g (hp ▸ hg) _ hr)
  rw [hvalue]
  exact ⟨value, hvalue, rfl⟩

end Panel

/-! ## Screens -/

/-- The codes that typed texts have are codes of the map. -/
theorem KeyMap.InKeypad.code? {keys : KeyMap} (h : keys.InKeypad) {t : Text} {code : Int}
    (hcode : keys.code? t = some code) : 0 ≤ code ∧ code ≤ 0xF := by
  rw [KeyMap.code?] at hcode
  split at hcode
  · cases hcode
  · obtain ⟨k, hk, rfl⟩ := Option.map_eq_some_iff.mp hcode
    exact h k (List.mem_of_find?_eq_some hk)

/-- A screen takes the buffer of a display. -/
theorem Screen.setBuffer_display (s : Screen) (d : Display) :
    ∃ screen, s.setBuffer d.buffer.toArray = .ok screen ∧ screen.buffer.toList = d.buffer ∧
      screen.keys = s.keys := by
  have hsize : d.buffer.toArray.size = 2048 := by simp [Display.buffer]
  rw [setBuffer, dif_pos hsize]
  dsimp only
  split
  next h => exact ⟨s, rfl, by rw [← h]; simp, rfl⟩
  next => exact ⟨_, rfl, by simp, rfl⟩

namespace Window

/-! ## Events -/

/-- What happens to a window. -/
inductive Event
  | start (now : Float)
  | stop
  | refresh
  | tick (now : Float)
  | key (e : KeyEvent)

namespace Event

/-- Whether an event ends with a look at the machine. -/
def looks : Event → Bool
  | .refresh | .tick _ => true
  | _ => false

end Event

/-- What an event does to a window. -/
def react (w : Window) : Event → Reaction
  | .start now => (w.start now).quiet
  | .stop => w.stop.quiet
  | .refresh => w.refresh
  | .tick now => w.tick now
  | .key e => w.typeKey e

/-- The window after some events. -/
def afterAll (w : Window) (es : List Event) : Window := es.foldl (fun w e => (w.react e).window) w

/-- What passes for the machine at a tick. -/
def lapse (w : Window) (now : Float) : Stretch :=
  w.machine.elapse (.seconds (.real (w.lastTick.elim 0.0 (now - ·))))

/-- What an event makes the machine raise. -/
def raised? (w : Window) : Event → Option Failure
  | .tick now => (w.lapse now).failure
  | _ => none

/-- All that some events make the machine raise, in order. -/
def raised : Window → List Event → List Failure
  | _, [] => []
  | w, e :: es => (w.raised? e).toList ++ raised (w.react e).window es

/-- What holds of a window between two events. -/
structure Sound (w : Window) : Prop where
  machine : w.machine.Reachable
  keys : w.screen.keys.InKeypad
  labels : w.panel.plan = Panel.fullPlan
  status : ∀ f ∈ w.halt, w.status = "Halted: " ++ f.message

variable {w : Window}

theorem refresh_eq (w : Window) : ∃ screen : Screen,
    screen.buffer.toList = w.machine.state.display.buffer ∧ screen.keys = w.screen.keys ∧
    w.refresh = quiet { w with
      screen
      panel := w.panel.refresh w.machine
      status := if w.halt.isSome then w.status else liveStatus w.machine } := by
  obtain ⟨screen, hset, hbuffer, hkeys⟩ := w.screen.setBuffer_display w.machine.state.display
  exact ⟨screen, hbuffer, hkeys, by rw [refresh, hset]⟩

/-- The window at a tick, before it looks at the machine. -/
def ticked (w : Window) (now : Float) : Window :=
  let w' := { w with lastTick := some now, machine := (w.lapse now).machine }
  match (w.lapse now).failure with
  | some (.fault f) => w'.halted f
  | _ => w'

theorem changeKey_eq (w : Window) {code : Int} (h : 0 ≤ code ∧ code ≤ 0xF) (pressed : Bool) :
    w.changeKey code pressed =
      { window := { w with machine := w.machine.keyed (Nibble.ofInt code) pressed }
        notes := [Note.ofKey code pressed]
        failure := none } := by
  rw [changeKey, Machine.updateKey_eq, if_pos (by omega)]

end Window

end Chip8
