import Mathlib
import Chip8.Proofs.Faults
import Chip8.Proofs.Listing

/-!
# Proofs/Extent — how far a disassembly goes

A disassembly is a loop over addresses: as long as a whole word lies before the stop, the word at
the address is read, its line is put behind the others, and the address goes on by two.
`Memory.Reads` is this loop, which always ends, with the disassembly as its only result
(`Memory.reads_iff`).  Nothing but a start before the memory is refused
(`Memory.disassemble_of_neg`); every other range is cut at the end of the memory, and there are as
many lines as whole words are left in it (`Memory.disassemble_eq_extent`).  A range may therefore be
split behind any number of words (`Memory.disassemble_append`).
-/

namespace Chip8

namespace Memory

variable {m : Memory}

/-! ## The loop -/

/-- The loop of a disassembly at an address, with some lines read before: it ends with all lines at
the stop, or with the failure of a word that cannot be read. -/
inductive Reads (m : Memory) (stop : Int) : Int → List Line → Except Failure (List Line) → Prop
  | done {a : Int} {read : List Line} : stop < a + 2 → Reads m stop a read (.ok read)
  | failure {a : Int} {read : List Line} {e : Failure} :
      a + 2 ≤ stop → m.peek a = .error e → Reads m stop a read (.error e)
  | line {a w : Int} {read : List Line} {r : Except Failure (List Line)} :
      a + 2 ≤ stop → m.peek a = .ok w →
      Reads m stop (a + 2) (read ++ [⟨a, w, (Instruction.decode w).text⟩]) r → Reads m stop a read r

theorem lines_of_error (n : Nat) {a : Int} {e : Failure} (h : m.peek a = .error e) :
    m.lines (n + 1) a = .error e := by
  rw [lines, h]
  rfl

theorem lines_of_ok (n : Nat) {a w : Int} (h : m.peek a = .ok w) : m.lines (n + 1) a =
    (m.lines n (a + 2)).map (⟨a, w, (Instruction.decode w).text⟩ :: ·) := by
  rw [lines, h]
  rcases m.lines n (a + 2) with e | rest <;> rfl

/-- The loop ends with the lines of all words that lie before the stop. -/
theorem reads_lines {stop : Int} (n : Nat) : ∀ {a : Int} (read : List Line),
    ((stop - a) / 2).toNat = n → m.Reads stop a read ((m.lines n a).map (read ++ ·)) := by
  induction n with
  | zero =>
    intro a read hn
    rw [lines, Except.map, List.append_nil]
    exact .done (by omega)
  | succ n ih =>
    intro a read hn
    have hlt : a + 2 ≤ stop := by omega
    rcases hp : m.peek a with e | w
    · rw [lines_of_error n hp]
      exact .failure hlt hp
    · have hrest := ih (read ++ [⟨a, w, (Instruction.decode w).text⟩]) (a := a + 2) (by omega)
      rw [lines_of_ok n hp]
      refine .line hlt hp ?_
      rcases hl : m.lines n (a + 2) with e | rest <;> rw [hl] at hrest
      · exact hrest
      · simpa [Except.map] using hrest

/-- The loop has one result at most. -/
theorem Reads.unique {stop a : Int} {read : List Line} {r r' : Except Failure (List Line)}
    (h : m.Reads stop a read r) (h' : m.Reads stop a read r') : r = r' := by
  induction h with
  | done hlt =>
    cases h' with
    | done => rfl
    | failure hle | line hle => omega
  | failure hle hp =>
    cases h' with
    | done hlt => omega
    | failure _ hp' => exact congrArg _ (Except.error.inj (hp.symm.trans hp'))
    | line _ hp' => cases hp.symm.trans hp'
  | line hle hp _ ih =>
    cases h' with
    | done hlt => omega
    | failure _ hp' => cases hp.symm.trans hp'
    | line _ hp' hrest =>
      obtain rfl := Except.ok.inj (hp.symm.trans hp')
      exact ih hrest

/-- **The loop of a disassembly ends**, and what it ends with is the disassembly. -/
theorem reads_iff (m : Memory) (start length : Int) (r : Except Failure (List Line)) :
    m.Reads (min (start + length) 0x1000) start [] r ↔ m.disassemble start length = r := by
  have hread : m.Reads (min (start + length) 0x1000) start [] (m.disassemble start length) := by
    have h : m.Reads (min (start + length) 0x1000) start [] _ := m.reads_lines _ [] rfl
    rw [disassemble]
    rcases hl : m.lines ((min (start + length) 0x1000 - start) / 2).toNat start with e | rows <;>
      rw [hl] at h <;> exact h
  exact ⟨hread.unique, fun h => h ▸ hread⟩

/-! ## The extent -/

/-- The number of whole words in a range that is cut at the end of the memory. -/
def extent (start length : Int) : Nat := ((min (start + length) 0x1000 - start) / 2).toNat

/-- A start before the memory is refused as soon as there is a word to be read. -/
theorem disassemble_of_neg {start length : Int} (h : start < 0 ∧ 2 ≤ length) :
    m.disassemble start length = .error (.fault (.invalidAddress start)) := by
  obtain ⟨n, hn⟩ : ∃ n, ((min (start + length) 0x1000 - start) / 2).toNat = n + 1 :=
    Nat.exists_eq_succ_of_ne_zero (by omega)
  have hpeek : m.peek start = .error (.fault (.invalidAddress start)) := by
    rw [peek_eq, if_neg (by omega), if_neg (by omega)]
  rw [disassemble, hn, lines_of_error n hpeek]

/-- **Every other disassembly goes as far as there are whole words.** -/
theorem disassemble_eq_extent {start length : Int} (h : ¬(start < 0 ∧ 2 ≤ length)) :
    m.disassemble start length =
      .ok ((List.range (extent start length)).map fun k : Nat => m.lineAt (start + 2 * k)) := by
  rw [disassemble, extent]
  generalize hn : ((min (start + length) 0x1000 - start) / 2).toNat = n
  cases n with
  | zero => rfl
  | succ n => exact m.lines_eq _ (by omega) (by omega)

/-- **A range may be split behind any number of words**, also where it goes beyond the end. -/
theorem disassemble_append {start : Int} (h : 0 ≤ start) (k n : Nat) :
    ∃ first rest, m.disassemble start (2 * k) = .ok first ∧
      m.disassemble (start + 2 * k) n = .ok rest ∧
      m.disassemble start (2 * k + n) = .ok (first ++ rest) := by
  refine ⟨_, _, disassemble_eq_extent (by omega), disassemble_eq_extent (by omega), ?_⟩
  have hsum : extent start (2 * k + n) = extent start (2 * k) + extent (start + 2 * k) n := by
    simp only [extent]
    omega
  -- the second part has lines only if the first is not cut
  have hfull : extent (start + 2 * k) n = 0 ∨ extent start (2 * k) = k := by
    simp only [extent]
    omega
  rw [disassemble_eq_extent (by omega), hsum, List.range_add, List.map_append, List.map_map]
  rcases hfull with h0 | hk
  · rw [h0]
    rfl
  · rw [hk]
    refine congrArg (fun rest => Except.ok (_ ++ rest)) (List.map_congr_left fun j _ => ?_)
    simp only [Function.comp, Nat.cast_add, mul_add, add_assoc]

theorem read_of_extent (m : Memory) {start length : Int} {k : Nat} (h : ¬(start < 0 ∧ 2 ≤ length))
    (hk : k < extent start length) :
    m.read (start + 2 * k) = .ok (m.byte (start + 2 * k)) ∧
      m.read (start + 2 * k + 1) = .ok (m.byte (start + 2 * k + 1)) := by
  rw [extent] at hk
  rw [m.read_eq, if_pos (by omega), m.read_eq, if_pos (by omega)]
  exact ⟨rfl, rfl⟩

/-- **The extent of a disassembly is exact**, in whatever state the memory is.  The loop always
ends.  It meets the end of the memory just if the start lies before the memory and a word is asked
for; in all other cases there is a line for each whole word up to the stop, which shows the two
bytes at its address.  The lines of a range are those of its first words and then those of what is
left. -/
theorem disassemble_exact (m : Memory) (start length : Int) :
    let stop := min (start + length) 0x1000
    (∀ r, m.Reads stop start [] r ↔ m.disassemble start length = r) ∧
    ((∃ f, m.disassemble start length = .error (.fault f) ∧ f.kind = .memoryBounds) ↔
      start < 0 ∧ 2 ≤ length) ∧
    (¬(start < 0 ∧ 2 ≤ length) → ∃ rows, m.disassemble start length = .ok rows ∧
      (rows.length : Int) = max 0 ((stop - start) / 2) ∧
      ∀ k < rows.length, ∃ l high low, rows[k]? = some l ∧ m.read (start + 2 * k) = .ok high ∧
        m.read (start + 2 * k + 1) = .ok low ∧
        l.Shows (start + 2 * k) (256 * high.toNat + low.toNat)
          (Instruction.decode (256 * high.toNat + low.toNat))) ∧
    (0 ≤ start → ∀ k n : Nat, ∃ first rest, m.disassemble start (2 * k) = .ok first ∧
      m.disassemble (start + 2 * k) n = .ok rest ∧
      m.disassemble start (2 * k + n) = .ok (first ++ rest)) := by
  intro stop
  refine ⟨m.reads_iff start length, ⟨?_, fun h => ⟨_, disassemble_of_neg h, rfl⟩⟩, fun h => ?_,
    fun h k n => disassemble_append h k n⟩
  · rintro ⟨f, hf, -⟩
    by_contra h
    rw [disassemble_eq_extent h] at hf
    cases hf
  · have hlength : (extent start length : Int) = max 0 ((stop - start) / 2) := by
      rw [extent, Int.toNat_eq_max, max_comm]
    refine ⟨_, disassemble_eq_extent h, by simpa using hlength, fun k hk => ?_⟩
    rw [List.length_map, List.length_range] at hk
    obtain ⟨hhigh, hlow⟩ := m.read_of_extent h hk
    exact ⟨_, _, _, by simp [hk], hhigh, hlow, m.lineAt_shows _⟩

/-- A range across the border of the two regions, from an odd address, that ends with half a word;
one that begins before the memory; and one that goes beyond its end. -/
theorem disassemble_exact_border :
    let m := load #[0x34, 0x12]
    (∃ l, m.disassemble 0x1FF 3 = .ok [l] ∧ l.Shows 0x1FF 0x34 (.noOp 0x34)) ∧
      (∃ f, m.disassemble (-1) 2 = .error (.fault f) ∧ f.kind = .memoryBounds) ∧
      ∃ first rest, m.disassemble 0xFFD 2 = .ok first ∧ m.disassemble 0xFFF 100 = .ok rest ∧
        m.disassemble 0xFFD 102 = .ok (first ++ rest) := by
  intro m
  obtain ⟨-, -, hrows, -⟩ := m.disassemble_exact 0x1FF 3
  obtain ⟨rows, hrows, hlength, hlines⟩ := hrows (by decide)
  have hone : rows.length = 1 := Int.ofNat_inj.mp (hlength.trans (by decide))
  obtain ⟨l, rfl⟩ := List.length_eq_one_iff.mp hone
  obtain ⟨_, high, low, hl, hhigh, hlow, hshows⟩ := hlines 0 (hone ▸ Nat.one_pos)
  obtain rfl := Option.some.inj hl
  have hfont : m.byte 0x1FF = 0 := by
    rw [byte_of_lt _ (by decide)]
    simp [m, load, Device.ofContents, font]
  have himage : m.byte 0x200 = 0x34 := (byte_load #[0x34, 0x12] (by decide)).trans rfl
  obtain rfl : high = 0 := by
    rw [m.read_eq, if_pos (by decide)] at hhigh
    exact (Except.ok.inj hhigh).symm.trans hfont
  obtain rfl : low = 0x34 := by
    rw [m.read_eq, if_pos (by decide)] at hlow
    exact (Except.ok.inj hlow).symm.trans himage
  exact ⟨⟨l, hrows, hshows⟩, (m.disassemble_exact (-1) 2).2.1.mpr (by decide),
    (m.disassemble_exact 0xFFD 102).2.2.2 (by decide) 1 100⟩

end Memory

end Chip8
