import Mathlib
import Chip8.Proofs.Calls
import Chip8.Proofs.Constancy
import Chip8.Proofs.Dialogue

/-!
# Proofs/Reset — after a reset a machine is as good as new

A `Deed` of a host is a call, or a plain assignment or write to a part of the state, which may leave
a state that no program could reach.  Whatever the deeds were, the machine still has its image, its
cycle and the values of its generator (`Descends`), and that is all that a reset builds on: the
machine is then the one that is made from the same image and speed with the generator where it has
got to, and from there on both are the same (`reset_fresh`).
-/

namespace Chip8

/-! ## Deeds and their answers -/

/-- What a call gives. -/
inductive Answer
  | done
  | snapshot (s : Snapshot)
  | program (row : List (Int × Instruction))
  | lines (rows : List Line)

/-- A call on a machine, or an assignment or a write to a part of its state. -/
inductive Deed
  | call (c : Call)
  | setAddress (value : Int)
  | setDelay (value : Int)
  | setSound (value : Int)
  | writeMemory (address value : Int)
  | writeRegister (x value : Int)

/-- A stretch of time gives nothing but its failure. -/
def Stretch.answer (s : Stretch) : Except Failure Answer :=
  match s.failure with
  | some e => .error e
  | none => .ok .done

namespace Machine

/-- What a call gives, or how it fails. -/
def answer (m : Machine) : Call → Except Failure Answer
  | .step => m.step.result.map .snapshot
  | .advance micros => (m.advance micros).answer
  | .elapse time => (m.elapse time).answer
  | .updateKey code pressed => (m.updateKey code pressed).map fun _ => .done
  | .reset => .ok .done
  | .scan => .ok (.program m.scanInPlace.1)
  | .disassemble start length => (m.state.memory.disassemble start length).map .lines

/-- An action on the state of a machine from outside. -/
def act (m : Machine) (a : Action Unit) : Except Failure Answer × Machine :=
  ((a.on m.state).1.map fun _ => .done, { m with state := (a.on m.state).2 })

/-- What a deed gives, and the machine that it leaves. -/
def respond (m : Machine) : Deed → Except Failure Answer × Machine
  | .call c => (m.answer c, m.after c)
  | .setAddress value => m.act (Action.modifyRegisters fun regs => { regs with i := value })
  | .setDelay value => m.act (Action.modifyRegisters fun regs => { regs with delay := value })
  | .setSound value => m.act (Action.modifyRegisters fun regs => { regs with sound := value })
  | .writeMemory address value => m.act (Action.writeMemory address value)
  | .writeRegister x value => m.act (Action.writeRegister x value)

/-! ## What no deed changes -/

/-- A machine that has its image, its cycle and the values of its generator from another. -/
structure Descends (m m' : Machine) : Prop where
  image : m'.image = m.image
  cycle : m'.cycle = m.cycle
  values : m'.state.generator.values = m.state.generator.values
  drawn : m.state.generator.drawn ≤ m'.state.generator.drawn

namespace Descends

variable {m m' : Machine}

theorem refl (m : Machine) : m.Descends m := ⟨rfl, rfl, rfl, le_refl _⟩

theorem step (h : m.Descends m') : m.Descends m'.step.machine := by
  have hkeep := m'.step_carriesOn
  exact ⟨m'.step_image.trans h.image, m'.step_cycle.trans h.cycle, hkeep.values.trans h.values,
    h.drawn.trans hkeep.drawn⟩

theorem reset (h : m.Descends m') : m.Descends m'.reset := by
  have himage : m'.reset.image = m'.image := by simp only [Machine.reset]
  have hcycle : m'.reset.cycle = m'.cycle := by simp only [Machine.reset]
  have hgenerator : m'.reset.state.generator = m'.state.generator := by
    simp only [Machine.reset, State.initial]
  refine ⟨himage.trans h.image, hcycle.trans h.cycle, ?_, ?_⟩ <;> rw [hgenerator]
  · exact h.values
  · exact h.drawn

theorem after (h : m.Descends m') (c : Call) : m.Descends (m'.after c) := by
  refine after_induct (fun _ _ h => h.step) (fun _ _ _ h => { h with }) (fun _ h => { h with })
    (fun _ _ _ _ hk h => ?_) h c (fun _ => h.step) (fun _ => h.reset)
  obtain rfl := eq_keyed_of_updateKey hk
  exact { h with }

theorem act (h : m.Descends m') {a : Action Unit} (ha : a.Steady) : m.Descends (m'.act a).2 :=
  ⟨h.image, h.cycle, (ha m'.state).values.trans h.values, h.drawn.trans (ha m'.state).drawn⟩

/-- **No deed changes the image, the cycle or the values of the generator.** -/
theorem respond (h : m.Descends m') (d : Deed) : m.Descends (m'.respond d).2 := by
  cases d with
  | call c => exact h.after c
  | setAddress | setDelay | setSound => exact h.act (.modifyRegisters _)
  | writeMemory a v => exact h.act (.writeMemory a v)
  | writeRegister x v => exact h.act (.writeRegister x v)

end Descends

/-! ## The reset -/

/-- **A reset makes the machine anew** from what it has from the machine that was made, with the
generator where it has got to. -/
theorem Descends.create_reset {image : Array UInt8} {speed : Number} {generator : Generator}
    {m m' : Machine} (hm : create image speed generator = .ok m) (h : m.Descends m') :
    m'.state.generator = { generator with requests := m'.state.generator.requests } ∧
      create image speed m'.state.generator = .ok m'.reset := by
  obtain ⟨cycle, pos, hspeed, rfl⟩ := create_ok hm
  obtain ⟨himage, hcycle, hvalues, -⟩ := h
  rcases m' with ⟨image', cycle', pos', s, count, c, t⟩
  obtain rfl : image' = image := himage
  obtain rfl : cycle' = cycle := hcycle
  refine ⟨congrArg (Generator.mk · s.generator.requests) hvalues, ?_⟩
  rw [create, hspeed]
  rfl

/-- **After a reset a machine is as good as new.**  Whatever was done to it, failing calls and plain
assignments included, the reset leaves the machine that is made from the same image and speed with
the generator where it has got to, and whatever is done behind the reset has the answers and leaves
the machine that it would on that one. -/
theorem reset_fresh {image : Array UInt8} {speed : Number} {generator : Generator} {m : Machine}
    (h : create image speed generator = .ok m) (deeds : List Deed) :
    let m' := (dialogue respond m deeds).2
    (generator.drawn ≤ m'.state.generator.drawn ∧
      m'.state.generator = { generator with requests := m'.state.generator.requests }) ∧
    create image speed m'.state.generator = .ok m'.reset ∧
    ∀ fresh, create image speed m'.state.generator = .ok fresh → ∀ further : List Deed,
      dialogue respond m (deeds ++ .call .reset :: further) =
        ((dialogue respond m deeds).1 ++ .ok .done :: (dialogue respond fresh further).1,
          (dialogue respond fresh further).2) := by
  intro m'
  have hm' : m.Descends m' := dialogue_induct (fun _ d h => h.respond d) deeds (.refl m)
  obtain ⟨hgenerator, hreset⟩ := hm'.create_reset h
  have hdrawn : generator.drawn = m.state.generator.drawn := by
    obtain ⟨cycle, pos, -, rfl⟩ := create_ok h
    rfl
  refine ⟨⟨hdrawn ▸ hm'.drawn, hgenerator⟩, hreset, fun fresh hfresh further => ?_⟩
  obtain rfl : m'.reset = fresh := Except.ok.inj (hreset.symm.trans hfresh)
  rw [dialogue_append]
  simp only [dialogue, respond, answer, after]
  rfl

/-- A draw, a register that points nowhere, a write that is refused and a wait, and then a reset. -/
theorem reset_fresh_draw :
    let m := fresh #[0xC0, 0xFF, 0xF0, 0x0A] 2000 (by decide) (.cycling #[7])
    let deeds : List Deed :=
      [.call .step, .setAddress (-5), .writeMemory 0 1, .call (.advance 2000)]
    let m' := (dialogue respond m deeds).2
    create #[0xC0, 0xFF, 0xF0, 0x0A] (.whole 500) (.cycling #[7]) = .ok m ∧
      create #[0xC0, 0xFF, 0xF0, 0x0A] (.whole 500) m'.state.generator = .ok m'.reset := by
  intro m deeds m'
  have hm : create #[0xC0, 0xFF, 0xF0, 0x0A] (.whole 500) (.cycling #[7]) = .ok m :=
    create_whole _ (n := 500) (by decide) _
  exact ⟨hm, (reset_fresh hm deeds).2.1⟩

end Machine

end Chip8
