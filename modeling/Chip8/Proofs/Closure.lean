import Mathlib
import Chip8.Machine.Execution
import Chip8.Proofs.Action

/-!
# Proofs/Closure — properties that all instructions have because their parts do

Instructions are chains of a few actions on the state.  A property is `Action.Closed` if chains keep
it and those actions have it; then it is one of every instruction (`Instruction.execute_closed`),
but for three that go further: the two skips that look at the keys, and the one that draws a value.
What is to be said of them is left open.
-/

namespace Chip8

namespace Action

/-- Chains keep the property, and the actions have it that instructions are chains of. -/
structure Closed (C : (α : Type) → Action α → Prop) : Prop where
  bind {α β : Type} {a : Action α} {f : α → Action β} :
    C α a → (∀ x, C β (f x)) → C β (a >>= f)
  /-- A look at the state that neither the keys nor the generator have a part in. -/
  look {α : Type} {f : State → Action α} :
    (∀ s keys generator, f { s with keys, generator } = f s) → (∀ s, C α (f s)) →
      C α (get >>= f)
  ret {α : Type} (x : α) : C α (pure x)
  fail {α : Type} (e : Failure) : C α (throw e)
  modifyRegisters (f : Registers → Registers) : C Unit (modifyRegisters f)
  writeMemory (a v : Int) : C Unit (writeMemory a v)
  jump (a : Int) : C Unit (jump a)
  skip : C Unit (modify fun s => { s with memory := s.memory.skip })
  stack (t : CallStack) : C Unit (modify fun s => { s with stack := t })
  display (d : Display) : C Unit (modify fun s => { s with display := d })
  await (k : Nibble) : C Unit (modify fun s => { s with awaiting := some k })

namespace Closed

variable {C : (α : Type) → Action α → Prop} {α : Type}

theorem ofResult (h : Closed C) (r : Except Failure α) : C α (ofResult r) := by
  cases r with
  | ok a => exact h.ret a
  | error e => exact h.fail e

theorem ofFault (h : Closed C) (r : Except Fault α) : C α (ofFault r) := by
  cases r with
  | ok a => exact h.ret a
  | error f => exact h.fail _

theorem ofRefusal (h : Closed C) (r : Except Refusal α) : C α (ofRefusal r) := by
  cases r with
  | ok a => exact h.ret a
  | error r => exact h.fail _

theorem readRegister (h : Closed C) (x : Int) : C Int (readRegister x) :=
  h.look (fun _ _ _ => rfl) fun _ => h.ofResult _

theorem writeRegister (h : Closed C) (x v : Int) : C Unit (writeRegister x v) :=
  h.look (fun _ _ _ => rfl) fun _ => h.bind (h.ofResult _) fun regs =>
    h.modifyRegisters fun _ => regs

theorem settle (h : Closed C) (x : Int) (flag : Bool) (result : Int) :
    C Unit (settle x flag result) :=
  h.bind (h.writeRegister _ _) fun _ => h.writeRegister x _

theorem readMemory (h : Closed C) (a : Int) : C Int (readMemory a) :=
  h.look (fun _ _ _ => rfl) fun _ => h.bind (h.ofResult _) fun _ => h.ret _

theorem skipIf (h : Closed C) (c : Bool) : C Unit (skipIf c) := by
  cases c with
  | false => exact h.ret ()
  | true => exact h.skip

theorem storeFrom (h : Closed C) (n : Nat) : ∀ r : Nat, C Unit (storeFrom r n) := by
  induction n with
  | zero => exact fun _ => h.ret ()
  | succ n ih =>
    intro r
    exact h.bind (h.readRegister r) fun _ => h.look (fun _ _ _ => rfl) fun _ =>
      h.bind (h.writeMemory _ _) fun _ => ih (r + 1)

theorem loadFrom (h : Closed C) (n : Nat) : ∀ r : Nat, C Unit (loadFrom r n) := by
  induction n with
  | zero => exact fun _ => h.ret ()
  | succ n ih =>
    intro r
    exact h.look (fun _ _ _ => rfl) fun _ => h.bind (h.readMemory _) fun _ =>
      h.bind (h.writeRegister r _) fun _ => ih (r + 1)

theorem drawSprite (h : Closed C) (x y rows : Int) : C Unit (drawSprite x y rows) :=
  h.look (fun _ _ _ => rfl) fun _ => h.look (fun _ _ _ => rfl) fun _ =>
    h.bind (h.ofResult _) fun _ => h.bind (h.readRegister x) fun _ =>
      h.bind (h.readRegister y) fun _ => h.look (fun _ _ _ => rfl) fun _ =>
        h.bind (h.ofRefusal _) fun _ => h.bind (h.display _) fun _ => h.writeRegister 15 _

theorem awaitKey (h : Closed C) (x : Int) : C Unit (awaitKey x) :=
  h.bind (h.ofResult _) fun k => h.await k

end Closed

end Action

/-- **A closed property is one of every instruction** that neither asks for a key nor draws a
value. -/
theorem Instruction.execute_closed {C : (α : Type) → Action α → Prop} (h : Action.Closed C)
    {i : Instruction}
    (hkey : ∀ x, i = .skipIfPressed x ∨ i = .skipIfNotPressed x → C Unit i.execute)
    (hdraw : ∀ x d, i = .random x d → C Unit i.execute) : C Unit i.execute := by
  cases i with
  | clearScreen => exact h.display _
  | ret =>
    exact h.look (fun _ _ _ => rfl) fun _ => h.bind (h.ofFault _) fun _ =>
      h.bind (h.stack _) fun _ => h.jump _
  | jump a => exact h.jump a
  | call a =>
    exact h.look (fun _ _ _ => rfl) fun _ => h.look (fun _ _ _ => rfl) fun _ =>
      h.bind (h.ofFault _) fun _ => h.bind (h.stack _) fun _ => h.jump a
  | jumpFromOffset a => exact h.bind (h.readRegister 0) fun _ => h.jump _
  | skipIfEqualData x | skipIfNotEqualData x =>
    exact h.bind (h.readRegister x) fun _ => h.skipIf _
  | skipIfEqualRegister x y | skipIfNotEqualRegister x y =>
    exact h.bind (h.readRegister x) fun _ => h.bind (h.readRegister y) fun _ => h.skipIf _
  | loadData x d => exact h.writeRegister x d
  | addData x => exact h.bind (h.readRegister x) fun _ => h.writeRegister x _
  | loadRegister x y => exact h.bind (h.readRegister y) fun _ => h.writeRegister x _
  | or x y | and x y | xor x y =>
    exact h.bind (h.readRegister x) fun _ => h.bind (h.readRegister y) fun _ =>
      h.writeRegister x _
  | add x y | sub x y | negatedSub x y =>
    exact h.bind (h.readRegister x) fun _ => h.bind (h.readRegister y) fun _ => h.settle x _ _
  | shiftRight x | shiftLeft x => exact h.bind (h.readRegister x) fun _ => h.settle x _ _
  | setAddressRegister a => exact h.modifyRegisters fun regs => { regs with i := a }
  | random x d => exact hdraw x d rfl
  | draw x y rows => exact h.drawSprite x y rows
  | skipIfPressed x => exact hkey x (.inl rfl)
  | skipIfNotPressed x => exact hkey x (.inr rfl)
  | loadDelayTimer x => exact h.look (fun _ _ _ => rfl) fun _ => h.writeRegister x _
  | awaitKeyPress x => exact h.awaitKey x
  | setDelayTimer x | addAddressRegister x | loadFontSprite x =>
    exact h.bind (h.readRegister x) fun _ => h.modifyRegisters _
  | setSoundTimer | noOp => exact h.ret ()
  | storeBcd x =>
    exact h.bind (h.readRegister x) fun _ => h.look (fun _ _ _ => rfl) fun _ =>
      h.bind (h.writeMemory _ _) fun _ => h.bind (h.writeMemory _ _) fun _ => h.writeMemory _ _
  | storeRegisters x => exact h.storeFrom (x + 1).toNat 0
  | readRegisters x => exact h.loadFrom (x + 1).toNat 0
  | unknown w => exact h.fail _

end Chip8
