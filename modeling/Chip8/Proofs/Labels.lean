import Mathlib
import Chip8.Proofs.Effect
import Chip8.Proofs.Hex
import Chip8.Proofs.Session

/-!
# Proofs/Labels — the labels of a panel lose nothing

The labels are laid out by one table, and their values come from another.  A `Register` has its
name, its width and its value by itself, and both tables are rows of all registers, in two orders
(`Register.layout_eq`, `Machine.registerMap_perm`).  The value of a register of a valid machine has
no more bits than its width (`Register.value_bounds`), so that its label has a digit for all of them
(`Panel.refresh_lossless`).
-/

namespace Chip8

/-! ## Registers -/

/-- A register of a machine. -/
inductive Register
  | data (k : Nibble)
  | address
  | counter
  | depth
  | delay
  | sound
  deriving DecidableEq

namespace Register

/-- The name of a register. -/
def name : Register → String
  | data k => registerName k
  | address => "I"
  | counter => "PC"
  | depth => "SP"
  | delay => "DT"
  | sound => "ST"

/-- The number of bits of a register. -/
def width : Register → Nat
  | address | counter => 16
  | data _ | depth | delay | sound => 8

/-- What a register holds. -/
def value (m : Machine) : Register → Int
  | data k => (m.state.registers.data.read k).toNat
  | address => m.state.registers.i
  | counter => m.counter
  | depth => m.state.stack.depth
  | delay => m.state.registers.delay
  | sound => m.state.registers.sound

/-- The byte registers. -/
def bytes : List Register := (List.finRange 16).map data

/-- All registers in the order of their labels. -/
def all : List Register := bytes ++ [address, counter, depth, delay, sound]

theorem mem_all (r : Register) : r ∈ all := by
  cases r with
  | data k => exact List.mem_append_left _ (List.mem_map_of_mem (List.mem_finRange k))
  | address | counter | depth | delay | sound => exact List.mem_append_right _ (by decide)

theorem nodup_names : (all.map name).Nodup := by
  decide +kernel

theorem name_injective : Function.Injective name := fun r r' h =>
  List.inj_on_of_nodup_map nodup_names (mem_all r) (mem_all r') h

/-- **The layout declares every register once**, with its width. -/
theorem layout_eq : registerLayout.flatMap RegisterGroup.registers =
    all.map fun r => ⟨r.name, r.width⟩ := by
  decide +kernel

/-- **No register of a valid machine holds more than its width.** -/
theorem value_bounds {m : Machine} (h : m.state.Valid) (r : Register) :
    0 ≤ r.value m ∧ r.value m < 2 ^ r.width := by
  cases r with
  | data k =>
    have hb := (m.state.registers.data.read k).toNat_lt
    simp only [value, width]
    omega
  | address =>
    have ha := h.address
    simp only [value, width]
    omega
  | counter =>
    have hc := h.counter
    simp only [value, width, Machine.counter, Memory.counterAddress]
    omega
  | depth =>
    have hd := m.state.stack.depth_le
    simp only [value, width]
    omega
  | delay =>
    have hd := h.delay
    simp only [value, width]
    omega
  | sound =>
    have hs := h.sound
    simp only [value, width]
    omega

/-- A value that has no more bits than its register is spelt in full. -/
theorem text_spells {m : Machine} (h : m.state.Valid) (r : Register) :
    Hex.Spells (Hex.text ((r.width + 3) / 4) (r.value m)) ((r.width + 3) / 4) (r.value m) := by
  obtain ⟨h0, hlt⟩ := value_bounds h r
  have hdigits : 0 < (r.width + 3) / 4 ∧ (2 : Int) ^ r.width = 16 ^ ((r.width + 3) / 4) := by
    cases r <;> norm_num [width]
  exact Hex.text_spells hdigits.1 h0 (hdigits.2 ▸ hlt)

end Register

namespace Machine

/-- **The map gives every register once**, with its value. -/
theorem registerMap_perm (m : Machine) :
    m.registerMap.Perm (Register.all.map fun r => (r.name, r.value m)) := by
  have hbytes : ((List.range 16).map registerName).zip m.state.registers.toList =
      Register.bytes.map fun r => (r.name, r.value m) := by
    refine List.ext_getElem (by simp [Registers.toList, Register.bytes]) fun k hk hk' => ?_
    simp [Registers.toList, Register.bytes, Register.name, Register.value, Bank.read]
  rw [registerMap, hbytes, Register.all, List.map_append]
  refine List.Perm.append_left _ (List.Perm.cons _ ?_)
  -- the timers stand before the counter and the depth in the map, and behind them in the layout
  show List.Perm ([_, _] ++ [_, _]) ([_, _] ++ [_, _])
  exact List.perm_append_comm

theorem map_fst_registerMap_perm (m : Machine) :
    (m.registerMap.map Prod.fst).Perm (Register.all.map Register.name) := by
  have hfst := m.registerMap_perm.map Prod.fst
  simpa only [List.map_map, Function.comp_def] using hfst

theorem mem_registerMap (m : Machine) (r : Register) : (r.name, r.value m) ∈ m.registerMap :=
  m.registerMap_perm.mem_iff.mpr (List.mem_map_of_mem (Register.mem_all r))

/-- What the map has under the name of a register is the value of that register. -/
theorem eq_value_of_lookup {m : Machine} {r : Register} {value : Int}
    (h : m.registerMap.lookup r.name = some value) : value = r.value m := by
  obtain ⟨_, _, hrow, -⟩ := List.lookup_eq_some_iff.mp h
  have hmem : (r.name, value) ∈ m.registerMap := hrow ▸ List.mem_append_right _ List.mem_cons_self
  obtain ⟨r', -, hr'⟩ := List.mem_map.mp (m.registerMap_perm.mem_iff.mp hmem)
  obtain ⟨hname, rfl⟩ := Prod.mk.inj hr'
  rw [Register.name_injective hname]

end Machine

/-! ## Labels -/

/-- No two strings are one text. -/
theorem Text.ofString_injective : Function.Injective Text.ofString := by
  have hchar : Function.Injective CodePoint.ofChar := fun c c' h =>
    Char.toNat_inj.mp (congrArg CodePoint.val h)
  exact fun s s' h => String.toList_injective (hchar.list_map h)

namespace Panel

theorem map_labels (p : Panel) : p.labels.map (fun l => (l.name, l.digits)) =
    p.plan.flatMap Prod.snd := by
  simp only [labels, plan, List.map_flatMap, List.flatMap_map]

/-- A full plan has a label for every register, with the digits that its width needs. -/
theorem labels_of_plan {p : Panel} (h : p.plan = fullPlan) :
    p.labels.map (fun l => (l.name, l.digits)) =
      Register.all.map fun r => (r.name, (r.width + 3) / 4) := by
  have hfull : fullPlan.flatMap Prod.snd = (registerLayout.flatMap RegisterGroup.registers).map
      fun i => (i.name, (i.width + 3) / 4) := by
    simp only [fullPlan, List.map_flatMap, List.flatMap_map]
  rw [map_labels, h, hfull, Register.layout_eq, List.map_map]
  rfl

theorem map_name_labels {p : Panel} (h : p.plan = fullPlan) :
    p.labels.map Label.name = Register.all.map Register.name := by
  have hfst := congrArg (List.map Prod.fst) (labels_of_plan h)
  simpa only [List.map_map, Function.comp_def] using hfst

/-- Every label of a full plan is that of a register, whose digits it has. -/
theorem exists_register {p : Panel} (h : p.plan = fullPlan) {l : Label} (hl : l ∈ p.labels) :
    ∃ r : Register, l.name = r.name ∧ l.digits = (r.width + 3) / 4 := by
  obtain ⟨r, -, hr⟩ := List.mem_map.mp (labels_of_plan h ▸ List.mem_map_of_mem hl :
    (l.name, l.digits) ∈ Register.all.map fun r => (r.name, (r.width + 3) / 4))
  obtain ⟨hname, hdigits⟩ := Prod.mk.inj hr
  exact ⟨r, hname.symm, hdigits.symm⟩

theorem plan_looks (p : Panel) (looks : List Machine) :
    (looks.foldl refresh p.setUp).plan = fullPlan := by
  induction looks using List.reverseRecOn with
  | nil => exact p.plan_setUp
  | append_singleton looks m ih =>
    rw [List.foldl_append]
    exact (plan_refresh _ m).trans ih

/-- Where no two labels have one name, the text for a name is that of its label. -/
theorem text?_of_mem {p : Panel} {l : Label} (h : l ∈ p.labels)
    (hnodup : (p.labels.map Label.name).Nodup) : p.text? l.name = some l.text := by
  have hsome : (p.labels.find? fun l' => Text.ofString l'.name == Text.ofString l.name).isSome :=
    List.find?_isSome.mpr ⟨l, h, beq_self_eq_true _⟩
  obtain ⟨l', hl'⟩ := Option.isSome_iff_exists.mp hsome
  have hname : l'.name = l.name :=
    Text.ofString_injective (by simpa using List.find?_some hl')
  obtain rfl := List.inj_on_of_nodup_map hnodup (List.mem_of_find?_eq_some hl') h hname
  rw [text?, hl', Option.map_some]

/-- **A panel loses nothing.**  After it was set up for a machine and has looked at it, whatever it
showed before, there is one label for each register of the map and no other, and the layout declares
the same registers.  The text of a label is the name of its register and the value that it holds, in
as many digits as the declared width needs, and no value is wider than that. -/
theorem refresh_lossless {m : Machine} (h : m.Reachable) (p : Panel) (looks : List Machine) :
    let shown := (looks.foldl refresh p.setUp).refresh m
    let declared := registerLayout.flatMap RegisterGroup.registers
    (m.registerMap.map Prod.fst).Nodup ∧
    (shown.labels.map Label.name).Perm (m.registerMap.map Prod.fst) ∧
    (declared.map RegisterInfo.name).Perm (m.registerMap.map Prod.fst) ∧
    ∀ l ∈ shown.labels, ∃ (r : Register) (digits : String), l.name = r.name ∧
      (r.name, r.value m) ∈ m.registerMap ∧ ⟨r.name, r.width⟩ ∈ declared ∧
      shown.text? l.name = some l.text ∧ l.text = r.name ++ ": 0x" ++ digits ∧
      Hex.Spells digits ((r.width + 3) / 4) (r.value m) ∧
      0 ≤ r.value m ∧ r.value m < 2 ^ r.width := by
  intro shown declared
  obtain ⟨hplan, hshows⟩ := refresh_shows (p.plan_looks looks) m
  have hnames := map_name_labels hplan
  have hmap := m.map_fst_registerMap_perm
  have hlayout : declared = Register.all.map fun r => ⟨r.name, r.width⟩ := Register.layout_eq
  have hdeclared : declared.map RegisterInfo.name = Register.all.map Register.name := by
    rw [hlayout, List.map_map]
    rfl
  refine ⟨hmap.nodup_iff.mpr Register.nodup_names, hnames ▸ hmap.symm, hdeclared ▸ hmap.symm,
    fun l hl => ?_⟩
  obtain ⟨r, hname, hdigits⟩ := exists_register hplan hl
  have hwidth : (⟨r.name, r.width⟩ : RegisterInfo) ∈ declared :=
    hlayout ▸ List.mem_map_of_mem (Register.mem_all r)
  have hnodup : (shown.labels.map Label.name).Nodup := hnames ▸ Register.nodup_names
  obtain ⟨value, hlookup, htext⟩ := hshows l hl
  obtain rfl : value = r.value m := Machine.eq_value_of_lookup (hname ▸ hlookup)
  refine ⟨r, Hex.text ((r.width + 3) / 4) (r.value m), hname, m.mem_registerMap r, hwidth,
    text?_of_mem hl hnodup, ?_, r.text_spells h.valid, r.value_bounds h.valid⟩
  rw [htext, hname, hdigits]
  rfl

/-- A jump to the last word of the memory, behind which the counter is past the end. -/
theorem refresh_lossless_end :
    let m := (Machine.fresh #[0x1F, 0xFE] 2000 (by decide) (.cycling #[])).step.machine.step.machine
    m.Reachable ∧ m.counter = 0x1000 ∧
      ∃ l ∈ (((empty "Consolas").setUp).refresh m).labels, ∃ digits, l.name = "PC" ∧
        l.text = "PC: 0x" ++ digits ∧ Hex.Spells digits 4 0x1000 := by
  intro m
  let start := Machine.fresh #[0x1F, 0xFE] 2000 (by decide) (.cycling #[])
  have hstart : start.Reachable := Machine.reachable_fresh _ (n := 500) (by decide) _
  have hm : m.Reachable := hstart.step.step
  have hnext : start.next = .jump 0xFFE := by rw [Machine.next_fresh]; rfl
  obtain ⟨-, hstep⟩ := Machine.step_of_next hstart.valid (by decide) hnext rfl
  have hmem : start.step.machine.state.memory = { start.state.memory with counter := 0xDFE } := by
    rw [hstep]
    rfl
  -- the image does not reach to the last word, which is zero there and has no effect
  have hnext₁ : start.step.machine.next = .noOp 0 := by
    rw [Machine.next_of_load (n := 0xDFE) (by decide) hmem]
    rfl
  have hlt : start.step.machine.counter < 0xFFF := by rw [Machine.counter, hmem]; decide
  obtain ⟨-, hstep₁⟩ := Machine.step_of_next hstart.step.valid hlt hnext₁ rfl
  have hcounter : m.counter = 0x1000 := by
    have hmem₁ : m.state.memory = { start.state.memory with counter := 0xE00 } := by
      rw [hstep₁, State.effect, State.fetched_memory, hmem]
      rfl
    rw [Machine.counter, hmem₁]
    rfl
  obtain ⟨-, hlabels, -, hshown⟩ := refresh_lossless hm (empty "Consolas") []
  have hname : Register.counter.name ∈ m.registerMap.map Prod.fst :=
    List.mem_map.mpr ⟨_, m.mem_registerMap .counter, rfl⟩
  obtain ⟨l, hl, hlname⟩ := List.mem_map.mp (hlabels.mem_iff.mpr hname)
  obtain ⟨r, digits, hr, -, -, -, htext, hspells, -⟩ := hshown l hl
  obtain rfl : r = .counter := Register.name_injective (hr.symm.trans hlname)
  exact ⟨hm, hcounter, l, hl, digits, hr, htext, hcounter ▸ hspells⟩

end Panel

end Chip8
