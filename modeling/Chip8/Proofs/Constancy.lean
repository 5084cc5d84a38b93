import Mathlib
import Chip8.Machine
import Chip8.Proofs.Closure

/-!
# Proofs/Constancy — what no instruction can change

Whatever the state and the operands are, an instruction leaves the keys alone, the number of words
of the program, and the values that the generator has in store; it can only draw some of them.
`State.CarriesOn` says this of two states.  It is closed along chains of actions
(`Action.Steady.closed`), so it holds of every instruction (`Instruction.execute_steady`) and of
every step (`Machine.step_carriesOn`), also of those that fail.
-/

namespace Chip8

/-! ## Two states -/

/-- A state that has what no instruction changes from another, and has perhaps drawn more. -/
structure State.CarriesOn (s s' : State) : Prop where
  keys : s'.keys = s.keys
  words : s'.memory.words = s.memory.words
  values : s'.generator.values = s.generator.values
  drawn : s.generator.drawn ≤ s'.generator.drawn

namespace State.CarriesOn

variable {s s' s'' : State}

theorem refl (s : State) : s.CarriesOn s := ⟨rfl, rfl, rfl, le_refl _⟩

theorem trans (h : s.CarriesOn s') (h' : s'.CarriesOn s'') : s.CarriesOn s'' :=
  ⟨h'.keys.trans h.keys, h'.words.trans h.words, h'.values.trans h.values, h.drawn.trans h'.drawn⟩

end State.CarriesOn

/-- A chain that succeeds has a first part that succeeds. -/
theorem exists_ok_of_bind {ε α β : Type} {x : Except ε α} {f : α → Except ε β} {b : β}
    (h : x >>= f = .ok b) : ∃ a, x = .ok a ∧ f a = .ok b := by
  rcases x with e | a
  · cases h
  · exact ⟨a, rfl, h⟩

namespace Memory

variable {m m' : Memory}

theorem words_of_write {a v : Int} (h : m.write a v = .ok m') : m'.words = m.words := by
  obtain ⟨place, -, h⟩ := exists_ok_of_bind h
  rcases place with o | o
  all_goals
    obtain ⟨device, -, h⟩ := exists_ok_of_bind h
    cases h
    rfl

theorem words_of_jump {a : Int} (h : m.jump a = .ok m') : m'.words = m.words := by
  rw [jump] at h
  split at h <;> cases h
  rfl

theorem words_of_fetch {w : Int} (h : m.fetch = .ok (some (w, m'))) : m'.words = m.words := by
  rw [fetch] at h
  split at h
  · cases h
  · obtain ⟨high, -, h⟩ := exists_ok_of_bind h
    obtain ⟨low, -, h⟩ := exists_ok_of_bind h
    cases h
    rfl

end Memory

/-! ## Actions -/

namespace Action

variable {α β : Type}

/-- An action that changes nothing but what an instruction can change. -/
def Steady (a : Action α) : Prop := ∀ s : State, s.CarriesOn (a.on s).2

namespace Steady

theorem bind {a : Action α} {f : α → Action β} (ha : a.Steady) (hf : ∀ x, (f x).Steady) :
    (a >>= f).Steady := by
  intro s
  have h := ha s
  rw [on_bind]
  rcases hon : a.on s with ⟨_ | x, s'⟩ <;> rw [hon] at h
  · exact h
  · exact h.trans (hf x s')

theorem state : (get : Action State).Steady := State.CarriesOn.refl

theorem change {f : State → State} (h : ∀ s : State, s.CarriesOn (f s)) :
    (modify f : Action Unit).Steady := h

theorem modifyRegisters (f : Registers → Registers) : (modifyRegisters f).Steady :=
  .change fun _ => ⟨rfl, rfl, rfl, le_refl _⟩

theorem writeMemory (a v : Int) : (writeMemory a v).Steady := by
  intro s
  rcases h : s.memory.write a v with f | memory
  · simpa [Action.writeMemory, h] using State.CarriesOn.refl s
  · simpa [Action.writeMemory, h] using ⟨rfl, Memory.words_of_write h, rfl, le_refl _⟩

theorem jump (a : Int) : (Action.jump a).Steady := by
  intro s
  rcases h : s.memory.jump a with f | memory
  · simpa [Action.jump, h] using State.CarriesOn.refl s
  · simpa [Action.jump, h] using ⟨rfl, Memory.words_of_jump h, rfl, le_refl _⟩

/-- What instructions are chains of changes nothing else. -/
theorem closed : Closed fun _ a => a.Steady where
  bind := bind
  look _ h := state.bind h
  ret _ := State.CarriesOn.refl
  fail _ := State.CarriesOn.refl
  modifyRegisters := modifyRegisters
  writeMemory := writeMemory
  jump := jump
  skip := .change fun _ => ⟨rfl, rfl, rfl, le_refl _⟩
  stack _ := .change fun _ => ⟨rfl, rfl, rfl, le_refl _⟩
  display _ := .change fun _ => ⟨rfl, rfl, rfl, le_refl _⟩
  await _ := .change fun _ => ⟨rfl, rfl, rfl, le_refl _⟩

theorem writeRegister (x v : Int) : (writeRegister x v).Steady := closed.writeRegister x v

/-- A draw takes the generator one value further and leaves the values as they are. -/
theorem draw (f : Int → Action Unit) (hf : ∀ v, (f v).Steady) :
    (do
      let (value, generator) := (← get).generator.between 0 0xFF
      modify fun s => { s with generator }
      f value : Action Unit).Steady := by
  intro s
  have hdrawn : s.CarriesOn { s with generator := (s.generator.between 0 0xFF).2 } :=
    ⟨rfl, rfl, rfl, by simp [Generator.between, Generator.drawn]⟩
  exact hdrawn.trans (hf (s.generator.between 0 0xFF).1 _)

end Steady

end Action

open Chip8.Action in
/-- **No instruction changes the keys, the number of words of the program, or what the generator
has in store**, whether it fails or not. -/
theorem Instruction.execute_steady (i : Instruction) : i.execute.Steady := by
  refine execute_closed Steady.closed (fun x hx => ?_) fun x d hi => ?_
  · obtain rfl | rfl := hx
    all_goals
      exact .bind (Steady.closed.readRegister x) fun _ => .bind .state fun _ =>
        .bind (Steady.closed.ofResult _) fun _ => Steady.closed.skipIf _
  · obtain rfl := hi
    exact .draw (fun v => writeRegister x (v.toNat &&& (d % 0x100).toNat)) fun _ =>
      .writeRegister x _

/-! ## Steps -/

/-- **No step changes the keys, the number of words of the program, or what the generator has in
store**, whether it fails or not. -/
theorem Machine.step_carriesOn (m : Machine) : m.state.CarriesOn m.step.machine.state := by
  rcases hf : m.state.memory.fetch with f | (_ | ⟨w, memory⟩)
  · simpa only [step, hf] using State.CarriesOn.refl m.state
  · simpa only [step, hf] using State.CarriesOn.refl m.state
  · have hfetched : m.state.CarriesOn { m.state with memory } :=
      ⟨rfl, Memory.words_of_fetch hf, rfl, le_refl _⟩
    have hrun := hfetched.trans ((Instruction.decode w).execute_steady { m.state with memory })
    rw [Action.on] at hrun
    rcases hr : ExceptT.run (Instruction.decode w).execute { m.state with memory }
      with ⟨_ | _, _⟩ <;> rw [hr] at hrun <;> simpa only [step, execute, hf, hr] using hrun

end Chip8
