import Mathlib
import Chip8.Proofs.Frame

/-!
# Proofs/Arithmetic — results and flags, whichever registers they share

Arithmetic reads its operands, writes the flag and then the result, so a register that is operand,
destination and flag at once is read before it is lost, and a result sent to the flag register stays
there.  `State.Flagged` says what this leaves, for any law that result and flag obey together
(`State.flagged_settled`); arithmetic without a flag replaces one register
(`State.replaced_put`).
-/

namespace Chip8

namespace State

/-! ## Registers that are replaced -/

/-- One register holds a value, and no other part of the state has changed. -/
structure Replaced (s s' : State) (x value : Int) : Prop where
  value : s'.value x = value
  rest : s.ChangesOnly {.v x} s'

/-- A register holds a result and the flag register a flag, which obey a law together; where they
are the same register, it holds the low byte of the result.  No other part of the state has
changed. -/
structure Flagged (s s' : State) (x result : Int) (law : Int → Int → Prop) : Prop where
  flag : x ≠ 15 → (s'.value 15 = 0 ∨ s'.value 15 = 1) ∧ law (s'.value x) (s'.value 15)
  overwritten : x = 15 → s'.value 15 = result % 0x100
  rest : s.ChangesOnly {.v x, .v 15} s'

variable (s : State) (c : Int)

theorem replaced_put (x : Int) (b : UInt8) :
    s.Replaced ((s.withCounter c).put x b) x b.toNat where
  value := value_put _ x b
  rest := (ChangesOnly.counter _ s c).trans (.put (Set.mem_singleton _) _ b)

/-- **A flag written before its result is lost to it only in its own register.** -/
theorem flagged_settled {x : Int} (hx : 0 ≤ x ∧ x < 16) {on : Bool} {result : Int}
    {law : Int → Int → Prop}
    (h : ∀ f : Int, 0 ≤ f ∧ f ≤ 1 → (on = true ↔ f = 1) → law (result % 0x100) f) :
    s.Flagged ((s.withCounter c).settled x on result) x result law where
  flag hne := by
    rw [settled, value_put_of_ne _ hx (by decide) hne, value_put, value_put, UInt8.toNat_ofInt]
    cases on
    · exact ⟨.inl rfl, h 0 (by decide) (by decide)⟩
    · exact ⟨.inr rfl, h 1 (by decide) (by decide)⟩
  overwritten heq := by
    rw [settled, heq, value_put, UInt8.toNat_ofInt]
  rest := (ChangesOnly.counter _ s c).trans (.settled (.inl rfl) (.inr rfl) _ on result)

end State

/-! ## Arithmetic -/

namespace Machine

variable {m : Machine}

/-- **Arithmetic is exact, whichever registers it shares.**  It always goes well.  Result and flag
together are exact: sum, halving and doubling are made up of both, and a difference is flagged as
positive.  In the flag register a result takes the place of its flag.  A sum with data and the
bitwise operations set no flag. -/
theorem arithmetic_exact (hm : m.Reachable) {x y d : Int} (hx : 0 ≤ x ∧ x < 16)
    (hy : 0 ≤ y ∧ y < 16) (hd : 0 ≤ d ∧ d < 0x100) :
    let s := m.state
    let a := s.value x
    let b := s.value y
    m.Does (.add x y) (s.Flagged · x (a + b) fun v f => 0x100 * f + v = a + b) ∧
    m.Does (.sub x y) (s.Flagged · x (a - b) fun v f =>
      v = (a - b) % 0x100 ∧ (f = 1 ↔ b < a)) ∧
    m.Does (.negatedSub x y) (s.Flagged · x (b - a) fun v f =>
      v = (b - a) % 0x100 ∧ (f = 1 ↔ a < b)) ∧
    m.Does (.shiftRight x) (s.Flagged · x (a / 2) fun v f => 2 * v + f = a) ∧
    m.Does (.shiftLeft x) (s.Flagged · x (2 * a) fun v f => 0x100 * f + v = 2 * a) ∧
    m.Does (.addData x d) (s.Replaced · x ((a + d) % 0x100)) ∧
    m.Does (.or x y) (s.Replaced · x (a.toNat ||| b.toNat : Nat)) ∧
    m.Does (.and x y) (s.Replaced · x (a.toNat &&& b.toNat : Nat)) ∧
    m.Does (.xor x y) (s.Replaced · x (a.toNat ^^^ b.toNat : Nat)) := by
  dsimp only
  have ha := m.state.value_bounds x
  have hb := m.state.value_bounds y
  have hone {i : Instruction} (h : i.fields = [(.x, x)]) : i.Fits := by
    rw [Instruction.Fits, h]
    exact List.forall_mem_singleton.mpr hx
  have htwo {i : Instruction} {f : Field} {v : Int} (h : i.fields = [(.x, x), (f, v)])
      (hv : 0 ≤ v ∧ v < f.bound) : i.Fits := by
    rw [Instruction.Fits, h]
    exact List.forall_mem_cons.mpr ⟨hx, List.forall_mem_singleton.mpr hv⟩
  refine ⟨does_of_effect hm.valid (htwo rfl hy) rfl fun c => m.state.flagged_settled c hx ?add,
    does_of_effect hm.valid (htwo rfl hy) rfl fun c => m.state.flagged_settled c hx ?sub,
    does_of_effect hm.valid (htwo rfl hy) rfl fun c => m.state.flagged_settled c hx ?negatedSub,
    does_of_effect hm.valid (hone rfl) rfl fun c => m.state.flagged_settled c hx ?shiftRight,
    does_of_effect hm.valid (hone rfl) rfl fun c => m.state.flagged_settled c hx ?shiftLeft,
    does_of_effect hm.valid (htwo rfl hd) rfl fun c => ?addData,
    does_of_effect hm.valid (htwo rfl hy) rfl fun c => ?or,
    does_of_effect hm.valid (htwo rfl hy) rfl fun c => ?and,
    does_of_effect hm.valid (htwo rfl hy) rfl fun c => ?xor⟩
  case add | shiftRight | shiftLeft =>
    intro f hf hon
    simp only [decide_eq_true_iff, beq_iff_eq] at hon
    simp only [State.value_withCounter] at hon ⊢
    omega
  case sub | negatedSub => exact fun f _ hon => ⟨rfl, (decide_eq_true_iff.symm.trans hon).symm⟩
  case addData =>
    rw [← UInt8.toNat_ofInt]
    exact m.state.replaced_put c x _
  case or => exact UInt8.toNat_or _ _ ▸ m.state.replaced_put c x _
  case and => exact UInt8.toNat_and _ _ ▸ m.state.replaced_put c x _
  case xor => exact UInt8.toNat_xor _ _ ▸ m.state.replaced_put c x _

/-- With 200 in the flag register, a result sent there stays there, and it is read as an operand
before it gives way to a flag. -/
theorem arithmetic_exact_shared :
    let start := fresh #[0x6F, 0xC8] 2000 (by decide) (.cycling #[])
    let m := start.step.machine
    m.Reachable ∧ m.state.value 15 = 200 ∧
      (m.execute (.add 15 15)).2.state.value 15 = 144 ∧
      (m.execute (.shiftRight 15)).2.state.value 15 = 100 ∧
      (m.execute (.negatedSub 1 15)).2.state.value 1 = 200 ∧
      (m.execute (.negatedSub 1 15)).2.state.value 15 = 1 := by
  intro start m
  have hstart : start.Reachable := reachable_fresh _ (n := 500) (by decide) _
  have hm : m.Reachable := hstart.step
  have hnext : start.next = .loadData 15 200 := by
    rw [next_fresh]
    rfl
  obtain ⟨-, hstate⟩ := step_of_next hstart.valid (by decide) hnext rfl
  have hvalue : m.state.value 15 = 200 := by
    change start.step.machine.state.value 15 = 200
    rw [hstate, State.effect, State.value_put]
    rfl
  have hother : m.state.value 1 = 0 := by
    change start.step.machine.state.value 1 = 0
    rw [hstate, State.effect, State.value_put_of_ne _ (by decide) (by decide) (by decide)]
    rfl
  obtain ⟨hadd, -, -, hshift, -⟩ := arithmetic_exact hm (x := 15) (y := 15) (d := 0)
    (by decide) (by decide) (by decide)
  obtain ⟨-, -, hsub, -⟩ := arithmetic_exact hm (x := 1) (y := 15) (d := 0)
    (by decide) (by decide) (by decide)
  obtain ⟨-, hresult, hflag⟩ := (hsub _ _ .executed).2.flag (by decide)
  refine ⟨hm, hvalue, ?_, ?_, ?_, hflag.mpr ?_⟩
  · rw [(hadd _ _ .executed).2.overwritten rfl, hvalue]
    rfl
  · rw [(hshift _ _ .executed).2.overwritten rfl, hvalue]
    rfl
  · rw [hresult, hvalue, hother]
    rfl
  · rw [hvalue, hother]
    decide

end Machine

end Chip8
