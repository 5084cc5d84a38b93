import Mathlib
import Chip8.Proofs.Constancy
import Chip8.Proofs.Effect
import Chip8.Proofs.Hex

/-!
# Proofs/Listing — a scan, a disassembly and a run read the same program

Three readers look at a word of the program: a step fetches at the counter, a scan fetches through a
counter of its own (or, in place, through the one of the machine: `Machine.scanInPlace_eq`), and a
disassembly peeks at addresses.  Each of them gives `Memory.wordAt` (`Machine.step_fetched`,
`Machine.scan_eq`, `Memory.disassemble_eq`), so in whatever state the program has brought its
memory, they agree on it (`Machine.listing_agrees`).
-/

namespace Chip8

/-! ## Lines of a disassembly -/

namespace Memory

/-- The line of the word at an address. -/
def lineAt (m : Memory) (a : Int) : Line where
  address := a
  word := m.wordAt a
  text := (Instruction.decode (m.wordAt a)).text

/-- What lies at a row of addresses, word after word, is what lies at the first and behind it. -/
theorem map_range_succ {α : Type} (f : Int → α) (n : Nat) (a : Int) :
    (List.range (n + 1)).map (fun k : Nat => f (a + 2 * k)) =
      f a :: (List.range n).map fun k : Nat => f (a + 2 + 2 * k) := by
  have hshift : ∀ k : Nat, f (a + 2 * (k + 1 : Nat)) = f (a + 2 + 2 * k) := by
    intro k
    congr 1
    omega
  simp [List.range_succ_eq_map, ← hshift]

/-- **Lines are read one after the other** wherever all of them lie in the memory. -/
theorem lines_eq (m : Memory) (n : Nat) : ∀ {a : Int}, 0 ≤ a → a + 2 * n ≤ 0x1000 →
    m.lines n a = .ok ((List.range n).map fun k : Nat => m.lineAt (a + 2 * k)) := by
  induction n with
  | zero => exact fun _ _ => rfl
  | succ n ih =>
    intro a h0 hle
    have hpeek : m.peek a = .ok (m.wordAt a) := by rw [peek_eq, if_pos (by omega)]
    rw [map_range_succ m.lineAt, lines, hpeek, ih (by omega) (by omega)]
    rfl

theorem disassemble_eq (m : Memory) {n : Nat} {a : Int} (h0 : 0 ≤ a) (h : a + 2 * n ≤ 0x1000) :
    m.disassemble a (2 * n) = .ok ((List.range n).map fun k : Nat => m.lineAt (a + 2 * k)) := by
  have hn : ((min (a + 2 * n) 0x1000 - a) / 2).toNat = n := by omega
  simp only [disassemble, hn, m.lines_eq n h0 h]

/-- **Fetches in a row give the words from the counter on** as long as there are so many. -/
theorem fetchMany_eq (n : Nat) : ∀ {m : Memory}, 0 ≤ m.counter → m.counter + 2 * n ≤ 0xE00 →
    m.fetchMany n = (List.range n).map fun k : Nat => m.wordAt (m.counterAddress + 2 * k) := by
  induction n with
  | zero => exact fun _ _ => rfl
  | succ n ih =>
    intro m h0 hle
    have hlt : m.counterAddress < 0xFFF := by simp only [counterAddress]; omega
    have hnext : ({ m with counter := m.counter + 2 } : Memory).counterAddress
        = m.counterAddress + 2 := by simp only [counterAddress]; omega
    have hrest := ih (m := { m with counter := m.counter + 2 }) (by simp only; omega)
      (by simp only; omega)
    rw [map_range_succ m.wordAt, fetchMany, fetch_eq h0, if_pos hlt]
    simp only [hrest, hnext, wordAt_counter]

end Memory

/-! ## The length of the program -/

namespace Machine

variable {m : Machine}

/-- **The number of words is that of the image that was loaded**, cut to the program region. -/
theorem Reachable.words (h : m.Reachable) :
    m.state.memory.words = min m.image.size programSize / 2 := by
  refine h.induct (P := fun m => m.state.memory.words = min m.image.size programSize / 2)
    (fun image speed generator m hm => ?_) (fun m h => ?_) (fun _ _ _ h => h) (fun _ h => h)
    (fun m _ _ m' hk h => ?_) (fun m _ => ?_)
  · obtain ⟨cycle, pos, -, rfl⟩ := create_ok hm
    rfl
  · rw [m.step_carriesOn.words, step_image, h]
  · obtain rfl := eq_keyed_of_updateKey hk
    exact h
  · simp only [reset, State.initial, Memory.load]

theorem Reachable.words_le (h : m.Reachable) : m.state.memory.words ≤ 0x700 := by
  rw [h.words, programSize]
  omega

/-- **A scan gives the words from the start of the program region on.** -/
theorem scan_eq (h : m.Reachable) : m.scan = (List.range m.state.memory.words).map fun k : Nat =>
    (m.state.memory.wordAt (0x200 + 2 * k),
      Instruction.decode (m.state.memory.wordAt (0x200 + 2 * k))) := by
  have hwords := h.words_le
  have hrow := Memory.fetchMany_eq m.state.memory.words
    (m := { m.state.memory with counter := 0 }) (le_refl 0) (by simp only; omega)
  simp only [scan, hrow, List.map_map]
  rfl

end Machine

/-! ## The readers -/

/-- A line shows an instruction and its word, in four hexadecimal digits, at an address. -/
structure Line.Shows (l : Line) (address word : Int) (i : Instruction) : Prop where
  address : l.address = address
  hex : Hex.Spells l.hex 4 word
  text : l.text = i.text

theorem Memory.lineAt_shows (m : Memory) (a : Int) :
    (m.lineAt a).Shows a (m.wordAt a) (Instruction.decode (m.wordAt a)) where
  address := rfl
  hex := by
    obtain ⟨h0, hle⟩ := m.wordAt_bounds a
    exact Hex.text_spells (by decide) h0 (Int.lt_of_le_of_lt hle (by decide))
  text := rfl

namespace Machine

variable {m : Machine}

/-- **A scan, a disassembly and a run read the same program.**  The disassembly of the word at the
counter shows what the next step fetches and, if it succeeds, records.  A scan has as many entries
as the program has words, and the disassembly of the program shows each of them in its place. -/
theorem listing_agrees (h : m.Reachable) :
    (m.counter ≤ 0xFFE → ∃ l w, m.state.memory.disassemble m.counter 2 = .ok [l] ∧
      m.step.fetched = some w ∧ l.Shows m.counter w (Instruction.decode w) ∧
      ∀ s, m.step.result = .ok s → s.counter = m.counter ∧ s.opcode = w ∧
        l.Shows s.counter s.opcode s.instruction) ∧
    m.state.memory.words = min m.image.size programSize / 2 ∧
    ∃ lines, m.state.memory.disassemble 0x200 (2 * m.state.memory.words) = .ok lines ∧
      m.scan.length = m.state.memory.words ∧ lines.length = m.state.memory.words ∧
      ∀ k < m.state.memory.words, ∃ e l, m.scan[k]? = some e ∧ lines[k]? = some l ∧
        l.Shows (0x200 + 2 * k) e.1 e.2 := by
  have hc := h.valid.counter.1
  refine ⟨fun hlast => ?_, h.words, ?_⟩
  · have hlt : m.counter < 0xFFF := by omega
    have h0 : 0 ≤ m.counter := by simp only [counter, Memory.counterAddress]; omega
    have hfetched := step_fetched hc
    rw [if_pos hlt] at hfetched
    have hshows := m.state.memory.lineAt_shows m.counter
    have hline := m.state.memory.disassemble_eq (n := 1) h0 (by omega)
    refine ⟨m.state.memory.lineAt m.counter, m.state.memory.wordAt m.counter, ?_, hfetched,
      hshows, fun s hs => ?_⟩
    · simpa using hline
    · obtain rfl := snapshot_eq hc hlt hs
      exact ⟨rfl, rfl, hshows⟩
  · have hwords := h.words_le
    refine ⟨_, m.state.memory.disassemble_eq (by decide) (by omega), ?_, by simp, fun k hk => ?_⟩
    · simp [scan_eq h]
    · exact ⟨_, _, by simp [scan_eq h, hk]; rfl, by simp [hk]; rfl, m.state.memory.lineAt_shows _⟩

/-- A program that writes a zero into its next word, which was a jump and so becomes a clear of the
screen. -/
theorem listing_agrees_rewritten :
    let m := fresh #[0xA2, 0x04, 0xF0, 0x55, 0x12, 0xE0] 2000 (by decide) (.cycling #[])
    m.step.machine.step.machine.Reachable ∧ m.step.machine.step.machine.counter ≤ 0xFFE ∧
      ∃ l, m.step.machine.step.machine.state.memory.disassemble
          m.step.machine.step.machine.counter 2 = .ok [l] ∧
        m.step.machine.step.machine.step.fetched = some 0xE0 ∧
        l.Shows 0x204 0xE0 .clearScreen := by
  intro m
  have hm : m.Reachable := reachable_fresh _ (n := 500) (by decide) _
  have hnext : m.next = .setAddressRegister 0x204 := by rw [next_fresh]; rfl
  obtain ⟨-, hstep⟩ := step_of_next hm.valid (by decide) hnext rfl
  have hmem : m.step.machine.state.memory = { m.state.memory with counter := 2 } := by
    rw [hstep]
    rfl
  have hnext₁ : m.step.machine.next = .storeRegisters 0 := by
    rw [next_of_load (n := 2) (by decide) hmem]
    rfl
  obtain ⟨-, hstep₁⟩ := step_of_next hm.step.valid (by rw [counter, hmem]; decide) hnext₁
    (by rw [hstep]; rfl)
  -- the store replaces the first byte of the word behind it
  have hi : m.step.machine.state.fetched.registers.i = 0x204 := by rw [hstep]; rfl
  have hrow : m.step.machine.state.fetched.bytesUpTo 0 = [0] := by rw [hstep]; rfl
  have hstored : (m.step.machine.state.fetched.stored [0]).memory
      = m.step.machine.state.fetched.memory.storeRow 0x204 [0] := by
    rw [State.stored, if_neg (by rw [hi]; decide), hi]
  have hfetched : m.step.machine.state.fetched.memory = { m.state.memory with counter := 4 } := by
    rw [State.fetched_memory, hmem]
    rfl
  have hmem₁ : m.step.machine.step.machine.state.memory
      = ({ m.state.memory with counter := 4 } : Memory).storeRow 0x204 [0] := by
    rw [hstep₁, State.effect, hrow, hstored, hfetched]
  have hcounter : m.step.machine.step.machine.counter = 0x204 := by
    rw [counter, hmem₁]
    rfl
  have hhigh : m.step.machine.step.machine.state.memory.byte 0x204 = 0 := by
    rw [hmem₁, Memory.byte_storeRow _ _ (by decide) (by decide)]
    rfl
  have hlow : m.step.machine.step.machine.state.memory.byte 0x205 = 0xE0 := by
    have hload : m.state.memory.byte 0x205 = 0xE0 :=
      (Memory.byte_load #[0xA2, 0x04, 0xF0, 0x55, 0x12, 0xE0] (a := 0x205) (by decide)).trans rfl
    rw [hmem₁, Memory.byte_storeRow _ _ (by decide) (by decide), if_neg (by decide),
      List.getElem?_eq_none (by decide), Option.getD_none]
    exact hload
  have hword : m.step.machine.step.machine.state.memory.wordAt m.step.machine.step.machine.counter
      = 0xE0 := by
    rw [hcounter]
    exact congrArg₂ Memory.word hhigh hlow
  have hlast : m.step.machine.step.machine.counter ≤ 0xFFE := by rw [hcounter]; decide
  obtain ⟨l, w, hl, hw, hshows, -⟩ := (listing_agrees hm.step.step).1 hlast
  obtain rfl : w = 0xE0 := by
    rw [step_fetched hm.step.step.valid.counter.1, if_pos (by rw [hcounter]; decide)] at hw
    exact (Option.some.inj hw).symm.trans hword
  rw [hcounter] at hshows
  exact ⟨hm.step.step, hlast, l, hl, hw, hshows⟩

end Machine

end Chip8
