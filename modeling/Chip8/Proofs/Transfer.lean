import Mathlib
import Chip8.Proofs.Arithmetic
import Chip8.Proofs.Remains

/-!
# Proofs/Transfer — rows of bytes between registers and memory

Registers are stored to the bytes from `I` on and read back from there; `Registers.Matches` says
that the two agree.  What a row that is stored leaves is read off `Memory.byte_storeRow`, what a row
that is read leaves off `State.loaded`, so that reading undoes storing for as long as `I` and the
memory stay as they are.  Reading is not bound to the program region.
-/

namespace Chip8

/-- The registers up to that of a number agree with the bytes from an address on. -/
def Registers.Matches (regs : Registers) (x : Int) (m : Memory) (a : Int) : Prop :=
  ∀ j, 0 ≤ j → j ≤ x → regs.byte j = m.byte (a + j)

namespace State

variable {s : State}

/-! ## Rows that are stored -/

theorem byte_stored (hI : 0x200 ≤ s.registers.i) {row : List UInt8} {k : Nat} {b : UInt8}
    (hk : row[k]? = some b) (hend : s.registers.i + k < 0x1000) :
    (s.stored row).memory.byte (s.registers.i + k) = b := by
  have hindex : (s.registers.i + k - s.registers.i).toNat = k := by omega
  rw [stored, if_neg (not_lt.mpr hI)]
  refine (Memory.byte_storeRow row s.memory hI hend).trans ?_
  rw [if_neg (by omega), hindex, hk, Option.getD_some]

/-- **Registers that are stored are found in the memory.** -/
theorem matches_stored {x : Int} (hI : 0x200 ≤ s.registers.i) (hend : s.registers.i + x ≤ 0xFFF) :
    s.registers.Matches x (s.stored (s.bytesUpTo x)).memory s.registers.i := by
  intro j h0 hj
  lift j to Nat using h0
  have hrow : (s.bytesUpTo x)[j]? = some (s.registers.byte j) := by
    have hlt : j < x.toNat + 1 := by omega
    simp [bytesUpTo, ← List.map_eq_flatMap, hlt]
  exact (byte_stored hI hrow (by omega)).symm

/-- The decimal digits of a value are found in the memory, and make it up. -/
theorem digits_stored (x : Int) (hI : 0x200 ≤ s.registers.i) (hend : s.registers.i ≤ 0xFFD) :
    let d (k : Int) : Int := ((s.stored (s.digits x)).memory.byte (s.registers.i + k)).toNat
    (d 0 ≤ 9 ∧ d 1 ≤ 9 ∧ d 2 ≤ 9) ∧ 100 * d 0 + 10 * d 1 + d 2 = s.value x := by
  intro d
  have hv := s.value_bounds x
  have hdigit {k : Nat} {n : Int} (hk : (s.digits x)[k]? = some (UInt8.ofInt n)) (hlt : k ≤ 2) :
      d k = n % 0x100 := by
    rw [← UInt8.toNat_ofInt, ← byte_stored hI hk (by omega)]
  have h0 : d 0 = s.value x / 100 % 0x100 := hdigit (k := 0) rfl (by decide)
  have h1 : d 1 = s.value x / 10 % 10 % 0x100 := hdigit (k := 1) rfl (by decide)
  have h2 : d 2 = s.value x % 10 % 0x100 := hdigit (k := 2) rfl (by decide)
  omega

theorem Valid.stored (h : s.Valid) (row : List UInt8) : (s.stored row).Valid := by
  rw [State.stored]
  split
  · exact h
  · exact h.storeRow row _

/-! ## Rows that are read -/

/-- **Registers that are read have the bytes of the memory.** -/
theorem matches_loaded {x : Int} (hx : x < 16) (hend : s.registers.i + x ≤ 0xFFF) :
    (s.loaded x).registers.Matches x s.memory s.registers.i := by
  intro j h0 hj
  have hj : (Nibble.ofInt j : Nat) = j := by
    simp only [Nibble.ofInt]
    omega
  simp only [loaded, withData, Registers.byte, Bank.read, Fin.getElem_fin, Vector.getElem_ofFn]
  rw [hj, if_pos (by omega)]

theorem Valid.withData (h : s.Valid) (data : Bank UInt8) : (s.withData data).Valid := { h with }

end State

/-! ## Instructions -/

namespace Machine

open State (Part)

variable {m : Machine} {x : Int}

theorem doesIf_storeRegisters (h : m.state.Valid) (hx : 0 ≤ x ∧ x < 16) :
    m.DoesIf (.storeRegisters x) (0x200 ≤ m.state.registers.i ∧ m.state.registers.i + x ≤ 0xFFF)
      fun s => s.Valid ∧ m.state.registers.Matches x s.memory m.state.registers.i ∧
        m.state.ChangesOnly (Part.bytes m.state.registers.i (m.state.registers.i + x + 1)) s := by
  have hi : (Instruction.storeRegisters x).Fits := List.forall_mem_singleton.mpr hx
  refine doesIf_of_effect h hi ?_ fun c hc hI => ⟨hc.stored _,
    State.matches_stored (s := m.state.withCounter c) hI.1 hI.2,
    State.effect_withCounter_changesOnly hi _ c⟩
  rw [State.obstacle]
  split_ifs <;> simp <;> omega

theorem doesIf_readRegisters (h : m.state.Valid) (hx : 0 ≤ x ∧ x < 16) :
    m.DoesIf (.readRegisters x) (m.state.registers.i + x ≤ 0xFFF)
      fun s => s.registers.Matches x m.state.memory m.state.registers.i ∧
        m.state.ChangesOnly (Part.upTo x) s := by
  have hi : (Instruction.readRegisters x).Fits := List.forall_mem_singleton.mpr hx
  refine doesIf_of_effect h hi ?_ fun c hc hI => ⟨?_,
    State.effect_withCounter_changesOnly hi _ c⟩
  · rw [State.obstacle]
    split_ifs <;> simp <;> omega
  · rw [State.effect, State.loadRow_zero hx]
    exact State.matches_loaded (s := m.state.withCounter c) hx.2 hI

theorem doesIf_storeBcd (h : m.state.Valid) (hx : 0 ≤ x ∧ x < 16) :
    m.DoesIf (.storeBcd x) (0x200 ≤ m.state.registers.i ∧ m.state.registers.i ≤ 0xFFD) fun s =>
      let d (k : Int) : Int := (s.memory.byte (m.state.registers.i + k)).toNat
      ((d 0 ≤ 9 ∧ d 1 ≤ 9 ∧ d 2 ≤ 9) ∧ 100 * d 0 + 10 * d 1 + d 2 = m.state.value x) ∧
        m.state.ChangesOnly (Part.bytes m.state.registers.i (m.state.registers.i + 3)) s := by
  have hi : (Instruction.storeBcd x).Fits := List.forall_mem_singleton.mpr hx
  refine doesIf_of_effect h hi ?_ fun c _ hI =>
    ⟨State.digits_stored (s := m.state.withCounter c) x hI.1 hI.2,
      State.effect_withCounter_changesOnly hi _ c⟩
  rw [State.obstacle]
  split_ifs <;> simp <;> omega

/-- **Memory transfers are exact, and reading undoes storing.**  Registers are stored, and the
decimal digits of a value, just where the whole row lies in the program region; they are read
wherever the row does not go on behind the memory.  What was stored is read back, in whole or in
part, by every machine that still has `I` and the memory as they were then; the registers may have
been overwritten with anything, which leaves a state valid. -/
theorem transfers_exact (hm : m.Reachable) (hx : 0 ≤ x ∧ x < 16) :
    let s := m.state
    let a := s.registers.i
    m.DoesIf (.storeRegisters x) (0x200 ≤ a ∧ a + x ≤ 0xFFF) (fun s' =>
      s.registers.Matches x s'.memory a ∧ s.ChangesOnly (Part.bytes a (a + x + 1)) s' ∧
      (∀ data, (s'.withData data).Valid) ∧
      ∀ y, 0 ≤ y → y ≤ x → ∀ m' : Machine, m'.state.Valid → m'.state.registers.i = a →
        (∀ b, m'.state.memory.byte b = s'.memory.byte b) →
        m'.Does (.readRegisters y) fun s'' =>
          (∀ j, 0 ≤ j → j ≤ y → s''.registers.byte j = s.registers.byte j) ∧
            m'.state.ChangesOnly (Part.upTo y) s'') ∧
    m.DoesIf (.readRegisters x) (a + x ≤ 0xFFF) (fun s' =>
      s'.registers.Matches x s.memory a ∧ s.ChangesOnly (Part.upTo x) s') ∧
    m.DoesIf (.storeBcd x) (0x200 ≤ a ∧ a ≤ 0xFFD) (fun s' =>
      let d (k : Int) : Int := (s'.memory.byte (a + k)).toNat
      ((d 0 ≤ 9 ∧ d 1 ≤ 9 ∧ d 2 ≤ 9) ∧ 100 * d 0 + 10 * d 1 + d 2 = s.value x) ∧
        s.ChangesOnly (Part.bytes a (a + 3)) s') := by
  intro s a
  refine ⟨fun r m₁ hr => ?_, doesIf_readRegisters hm.valid hx, doesIf_storeBcd hm.valid hx⟩
  obtain ⟨hok, hstored⟩ := doesIf_storeRegisters hm.valid hx r m₁ hr
  refine ⟨hok, fun hI => ?_⟩
  obtain ⟨hvalid, hmatches, hrest⟩ := hstored hI
  refine ⟨hmatches, hrest, hvalid.withData, fun y h0 hy m' h' ha hbytes r' m₂ hr' => ?_⟩
  have hread := doesIf_readRegisters h' ⟨h0, by omega⟩
  obtain ⟨hok', hmatches', hrest'⟩ := hread.does (by omega) r' m₂ hr'
  refine ⟨hok', fun j hj0 hj => ?_, hrest'⟩
  rw [hmatches' j hj0 hj, ha, hbytes, hmatches j hj0 (by omega)]

/-- Registers that are stored and then overwritten are read back, and those behind them are not. -/
theorem transfers_exact_restore :
    let start := fresh #[0xA3, 0x00] 2000 (by decide) (.cycling #[])
    let m := start.step.machine
    m.Reachable ∧ m.state.value 1 = 0 ∧ ∃ m₁ m₂ m₃ : Machine,
      m.execute (.storeRegisters 1) = (.ok (), m₁) ∧
      m₂ = { m₁ with state := m₁.state.withData (Vector.replicate 16 7) } ∧
      m₂.execute (.readRegisters 1) = (.ok (), m₃) ∧
      m₃.state.value 1 = m.state.value 1 ∧ m₃.state.value 2 = 7 := by
  intro start m
  have hstart : start.Reachable := reachable_fresh _ (n := 500) (by decide) _
  have hm : m.Reachable := hstart.step
  have hnext : start.next = .setAddressRegister 0x300 := by
    rw [next_fresh]
    rfl
  obtain ⟨-, hstate⟩ := step_of_next hstart.valid (by decide) hnext rfl
  have hI : m.state.registers.i = 0x300 := by
    change start.step.machine.state.registers.i = 0x300
    rw [hstate]
    rfl
  have hzero : m.state.value 1 = 0 := by
    change start.step.machine.state.value 1 = 0
    rw [hstate]
    rfl
  have hrestore (m : Machine) (hm : m.Reachable) (hI : m.state.registers.i = 0x300) :
      ∃ m₁ m₂ m₃ : Machine, m.execute (.storeRegisters 1) = (.ok (), m₁) ∧
        m₂ = { m₁ with state := m₁.state.withData (Vector.replicate 16 7) } ∧
        m₂.execute (.readRegisters 1) = (.ok (), m₃) ∧
        m₃.state.value 1 = m.state.value 1 ∧ m₃.state.value 2 = 7 := by
    obtain ⟨hstore, -, -⟩ := transfers_exact hm (x := 1) (by decide)
    have hin : 0x200 ≤ m.state.registers.i ∧ m.state.registers.i + 1 ≤ 0xFFF := by omega
    obtain ⟨m₁, hrun, -, hrest, hvalid, hread⟩ := (hstore.does hin).execute
    have hI₁ : m₁.state.registers.i = m.state.registers.i :=
      hrest .address (by rintro ⟨_, ⟨⟩, -⟩)
    obtain ⟨m₃, hrun', hback, hkept⟩ := (hread 1 (by decide) (by decide)
      { m₁ with state := m₁.state.withData (Vector.replicate 16 7) } (hvalid _) hI₁
      fun _ => rfl).execute
    have hbyte : m₃.state.registers.byte 2 = 7 :=
      hkept (.v 2) (by rintro ⟨k, heq, hk⟩; cases heq; exact absurd hk (by decide))
    refine ⟨m₁, _, m₃, hrun, rfl, hrun', ?_, ?_⟩
    · rw [State.value, hback 1 (by decide) (by decide), State.value]
    · rw [State.value, hbyte]
      rfl
  exact ⟨hm, hzero, hrestore m hm hI⟩

end Machine

end Chip8
