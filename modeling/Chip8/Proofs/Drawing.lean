import Mathlib
import Chip8.Display

/-!
# Proofs/Drawing — which cells a sprite flips

A draw goes through all bits of a sprite, but only the set ones do anything: each flips one cell,
its *mark* (`Stroke.rows_eq`).  A sprite of at most thirty-two rows has no cell for a mark twice
(`nodup_marks`), since eight columns and as many rows do not reach around the axes.  So every mark
meets the cell that was there before the draw, and flipping each cell of a list without repetitions
is worked out once (`Stroke.flipAll_cells`, `Stroke.erased_flipAll`, `Stroke.litCount_flipAll`).
Which cells are marks is read off the sprite (`cell_mem_marks`), and that is all of
`draw_exact`.
-/

namespace Chip8.Display

/-! ## Cells -/

theorem cell_eq_cell {a b c d : Int} : cell a b = cell c d ↔ a % 64 = c % 64 ∧ b % 32 = d % 32 := by
  simp only [cell, Fin.mk.injEq]
  omega

/-- The cell in a column and a row of the screen. -/
def place (p : Fin 64 × Fin 32) : Fin 2048 := cell p.1 p.2

theorem place_injective : Function.Injective place := by
  intro p q h
  obtain ⟨hx, hy⟩ := cell_eq_cell.mp h
  exact Prod.ext (Fin.ext (by omega)) (Fin.ext (by omega))

/-- Every cell has a column and a row. -/
theorem place_surjective : Function.Surjective place := by
  intro k
  refine ⟨(⟨k % 64, by omega⟩, ⟨k / 64, by omega⟩), Fin.ext ?_⟩
  simp only [place, cell]
  omega

/-- Whether a cell is lit. -/
def get (d : Display) (k : Fin 2048) : Bool := d.cells[k]

theorem get_cell (d : Display) (x y : Int) : d.get (cell x y) = d.lit x y := rfl

/-- The screen with a cell flipped. -/
def flipped (d : Display) (k : Fin 2048) : Display := { cells := d.cells.set k !d.get k }

theorem get_flipped (d : Display) (k j : Fin 2048) :
    (d.flipped k).get j = (d.get j != decide (j = k)) := by
  simp only [get, flipped, Fin.getElem_fin, Vector.getElem_set]
  by_cases h : j = k
  · simp [h]
  · have hne : (k : Nat) ≠ j := fun heq => h (Fin.ext heq.symm)
    simp [h, hne]

theorem litCount_flipped (d : Display) (k : Fin 2048) :
    (d.flipped k).litCount + 2 * (if d.get k then 1 else 0) = d.litCount + 1 := by
  have hlen : (k : Nat) < d.cells.toList.length := by simp
  have hget : d.cells.toList[(k : Nat)] = d.get k := Vector.getElem_toList _
  rw [litCount, flipped, Vector.toList_set, List.count_set hlen, hget]
  rcases hk : d.get k with _ | _
  · simp [litCount]
  · have hpos : 0 < d.cells.toList.count true :=
      List.count_pos_iff.mpr (hk ▸ hget ▸ List.getElem_mem hlen)
    change d.cells.toList.count true - 1 + 0 + 2 * 1 = d.cells.toList.count true + 1
    omega

/-! ## Marks -/

/-- The cells that the set bits of one byte of a sprite meet. -/
def rowMarks (x y : Int) (byte : UInt8) : List (Fin 2048) :=
  ((List.range 8).filter fun bit => byte.toNat.testBit (7 - bit)).map fun bit : Nat =>
    cell (x + bit) y

/-- The cells that the set bits of a sprite meet. -/
def marks (x : Int) : Int → List UInt8 → List (Fin 2048)
  | _, [] => []
  | y, byte :: rest => rowMarks x y byte ++ marks x (y + 1) rest

/-- Whether a sprite has a set bit for the cell in a column and a row. -/
def flips (x y : Int) (sprite : List UInt8) (column row : Int) : Bool :=
  let i := ((row - y) % 32).toNat
  let j := ((column - x) % 64).toNat
  i < sprite.length && j < 8 && (sprite.getD i 0).toNat.testBit (7 - j)

/-- The number of set bits of a byte. -/
def bitCount (byte : UInt8) : Nat := (List.range 8).countP fun bit => byte.toNat.testBit bit

/-- The number of set bits of a sprite. -/
def weight (sprite : List UInt8) : Nat := (sprite.map bitCount).sum

theorem mem_rowMarks {x y : Int} {byte : UInt8} {k : Fin 2048} : k ∈ rowMarks x y byte ↔
    ∃ j : Nat, j < 8 ∧ byte.toNat.testBit (7 - j) = true ∧ k = cell (x + j) y := by
  simp only [rowMarks, List.mem_map, List.mem_filter, List.mem_range, and_assoc, eq_comm]

theorem mem_marks (sprite : List UInt8) : ∀ {x y : Int} {k : Fin 2048}, k ∈ marks x y sprite ↔
    ∃ i j : Nat, i < sprite.length ∧ j < 8 ∧ (sprite.getD i 0).toNat.testBit (7 - j) = true ∧
      k = cell (x + j) (y + i) := by
  induction sprite with
  | nil => simp [marks]
  | cons byte rest ih =>
    intro x y k
    rw [marks, List.mem_append, mem_rowMarks, ih]
    constructor
    · rintro (⟨j, hj, hbit, rfl⟩ | ⟨i, j, hi, hj, hbit, rfl⟩)
      · exact ⟨0, j, by simp, hj, hbit, by simp⟩
      · refine ⟨i + 1, j, by simpa using hi, hj, hbit, ?_⟩
        rw [Nat.cast_succ, add_comm (i : Int), ← add_assoc]
    · rintro ⟨_ | i, j, hi, hj, hbit, rfl⟩
      · exact .inl ⟨j, hj, hbit, by simp⟩
      · refine .inr ⟨i, j, by simpa using hi, hj, hbit, ?_⟩
        rw [Nat.cast_succ, add_comm (i : Int), ← add_assoc]

/-- **A cell is a mark just if the sprite has a set bit for it**, as long as the rows do not reach
around the screen. -/
theorem cell_mem_marks {x y : Int} {sprite : List UInt8} (h : sprite.length ≤ 32)
    (column row : Int) :
    cell column row ∈ marks x y sprite ↔ flips x y sprite column row = true := by
  rw [mem_marks]
  simp only [flips, Bool.and_eq_true, decide_eq_true_eq]
  constructor
  · rintro ⟨i, j, hi, hj, hbit, hk⟩
    obtain ⟨hx, hy⟩ := cell_eq_cell.mp hk
    have hrow : ((row - y) % 32).toNat = i := by omega
    have hcolumn : ((column - x) % 64).toNat = j := by omega
    rw [hrow, hcolumn]
    exact ⟨⟨hi, hj⟩, hbit⟩
  · rintro ⟨⟨hi, hj⟩, hbit⟩
    exact ⟨_, _, hi, hj, hbit, cell_eq_cell.mpr (by omega)⟩

/-- The set bits of a byte meet one cell each. -/
theorem nodup_rowMarks (x y : Int) (byte : UInt8) : (rowMarks x y byte).Nodup := by
  refine (List.nodup_range.filter _).map_on fun a ha b hb h => ?_
  have ha := List.mem_range.mp (List.mem_of_mem_filter ha)
  have hb := List.mem_range.mp (List.mem_of_mem_filter hb)
  obtain ⟨hx, -⟩ := cell_eq_cell.mp h
  omega

/-- **No cell is a mark twice.** -/
theorem nodup_marks (x : Int) (sprite : List UInt8) : ∀ {y : Int}, sprite.length ≤ 32 →
    (marks x y sprite).Nodup := by
  induction sprite with
  | nil => exact fun _ => List.nodup_nil
  | cons byte rest ih =>
    intro y h
    have hrest : rest.length < 32 := h
    refine (nodup_rowMarks x y byte).append (ih (by omega)) fun k hk hk' => ?_
    obtain ⟨j, -, -, rfl⟩ := mem_rowMarks.mp hk
    obtain ⟨i, j', hi, -, -, heq⟩ := (mem_marks rest).mp hk'
    obtain ⟨-, hy⟩ := cell_eq_cell.mp heq
    omega

theorem length_rowMarks (x y : Int) (byte : UInt8) :
    (rowMarks x y byte).length = bitCount byte := by
  rw [rowMarks, List.length_map, ← List.countP_eq_length_filter, bitCount]
  simp only [List.range, List.range.loop, List.countP_cons, List.countP_nil, Nat.reduceSub]
  omega

theorem length_marks (x : Int) (sprite : List UInt8) : ∀ y : Int,
    (marks x y sprite).length = weight sprite := by
  induction sprite with
  | nil => exact fun _ => rfl
  | cons byte rest ih =>
    intro y
    rw [marks, List.length_append, length_rowMarks, ih]
    rfl

/-! ## Flipping cells one after another -/

namespace Stroke

/-- A set bit of a sprite meets a cell. -/
def flip (s : Stroke) (k : Fin 2048) : Stroke where
  display := s.display.flipped k
  erased := s.erased || s.display.get k

/-- Set bits of sprites meet cells one after another. -/
def flipAll (s : Stroke) (ks : List (Fin 2048)) : Stroke := ks.foldl flip s

theorem plot_eq (s : Stroke) (x y : Int) (on : Bool) :
    s.plot x y on = if on then s.flip (cell x y) else s := by
  cases on <;> simp [plot, flip, flipped, get]

theorem row_eq (s : Stroke) (x y : Int) (byte : UInt8) :
    s.row x y byte = s.flipAll (rowMarks x y byte) := by
  rw [flipAll, rowMarks, List.foldl_map, List.foldl_filter, row]
  simp only [plot_eq]

/-- **A draw flips the marks of its sprite**, row by row. -/
theorem rows_eq (sprite : List UInt8) : ∀ (s : Stroke) (x y : Int),
    s.rows x y sprite = s.flipAll (marks x y sprite) := by
  induction sprite with
  | nil => exact fun _ _ _ => rfl
  | cons byte rest ih =>
    intro s x y
    rw [rows, ih, row_eq, marks, flipAll, flipAll, flipAll, List.foldl_append]

variable {ks : List (Fin 2048)}

/-- Every cell behind the first is met as it was before it. -/
theorem get_flip_of_mem {k : Fin 2048} (h : k ∉ ks) (s : Stroke) {j : Fin 2048} (hj : j ∈ ks) :
    (s.flip k).display.get j = s.display.get j := by
  have hne : j ≠ k := fun heq => h (heq ▸ hj)
  rw [flip, get_flipped, decide_eq_false hne, Bool.bne_false]

/-- **Each cell of the list is flipped**, and no other is. -/
theorem get_flipAll (h : ks.Nodup) : ∀ (s : Stroke) (j : Fin 2048),
    (s.flipAll ks).display.get j = (s.display.get j != decide (j ∈ ks)) := by
  induction ks with
  | nil => simp [flipAll]
  | cons k ks ih =>
    intro s j
    obtain ⟨hk, hks⟩ := List.nodup_cons.mp h
    refine (ih hks (s.flip k) j).trans ?_
    rw [flip, get_flipped]
    by_cases hj : j = k
    · simp [hj, hk]
    · simp [hj]

/-- **A lit cell went out just if one of the list was lit.** -/
theorem erased_flipAll (h : ks.Nodup) : ∀ s : Stroke,
    (s.flipAll ks).erased = true ↔ s.erased = true ∨ ∃ k ∈ ks, s.display.get k = true := by
  induction ks with
  | nil => simp [flipAll]
  | cons k ks ih =>
    intro s
    obtain ⟨hk, hks⟩ := List.nodup_cons.mp h
    refine (ih hks (s.flip k)).trans ?_
    have hrest : (∃ j ∈ ks, (s.flip k).display.get j = true) ↔ ∃ j ∈ ks, s.display.get j = true :=
      exists_congr fun j => and_congr_right fun hj => by rw [get_flip_of_mem hk s hj]
    rw [hrest, flip, Bool.or_eq_true, or_assoc, List.exists_mem_cons_iff]

/-- **Each cell that was dark comes to be lit, and each that was lit goes out.** -/
theorem litCount_flipAll (h : ks.Nodup) : ∀ s : Stroke,
    (s.flipAll ks).display.litCount + 2 * ks.countP s.display.get
      = s.display.litCount + ks.length := by
  induction ks with
  | nil => simp [flipAll]
  | cons k ks ih =>
    intro s
    obtain ⟨hk, hks⟩ := List.nodup_cons.mp h
    have hrest : ks.countP (s.flip k).display.get = ks.countP s.display.get :=
      List.countP_congr fun j hj => by rw [get_flip_of_mem hk s hj]
    have hfirst := s.display.litCount_flipped k
    have hcount : ((s.flip k).flipAll ks).display.litCount + 2 * ks.countP s.display.get
        = (s.display.flipped k).litCount + ks.length := hrest ▸ ih hks (s.flip k)
    have hfold : s.flipAll (k :: ks) = (s.flip k).flipAll ks := rfl
    rw [List.countP_cons, List.length_cons, hfold]
    omega

end Stroke

/-! ## Draws -/

/-- The number of cells that a sprite flips where they are lit. -/
def hits (d : Display) (x y : Int) (sprite : List UInt8) : Nat :=
  (Finset.univ.filter fun p : Fin 64 × Fin 32 =>
    flips x y sprite p.1 p.2 = true ∧ d.lit p.1 p.2 = true).card

/-- Whether a draw put out a lit cell, or how it was refused, and the screen that it leaves. -/
def respond (d : Display) (x y : Int) (sprite : List UInt8) : Except Refusal Bool × Display :=
  match d.draw x y sprite with
  | .ok (erased, d') => (.ok erased, d')
  | .error r => (.error r, d)

variable {d : Display} {x y : Int} {sprite : List UInt8}

theorem countP_marks (h : sprite.length ≤ 32) :
    (marks x y sprite).countP d.get = d.hits x y sprite := by
  have hnodup : ((marks x y sprite).filter d.get).Nodup := (nodup_marks x sprite h).filter _
  rw [List.countP_eq_length_filter, ← List.toFinset_card_of_nodup hnodup, hits,
    ← Finset.card_image_of_injective _ place_injective]
  refine congrArg Finset.card (Finset.ext fun k => ?_)
  obtain ⟨p, rfl⟩ := place_surjective k
  rw [List.mem_toFinset, List.mem_filter, place_injective.mem_finset_image, place,
    cell_mem_marks h, get_cell]
  simp

/-- **A draw flips the cells that its sprite has a set bit for, and no others**, however far off the
screen it starts.  It reports whether a lit cell was among them; the number of lit cells grows by
the set bits of the sprite, less two for each cell that went out, so that nothing is reported just
if it grows by all of them.  A sprite of more than fifteen rows is refused and changes nothing. -/
theorem draw_exact (d : Display) (x y : Int) (sprite : List UInt8) :
    (sprite.length ≤ 15 → ∃ erased d', d.respond x y sprite = (.ok erased, d') ∧
      (∀ (column : Fin 64) (row : Fin 32),
        d'.lit column row = (d.lit column row != flips x y sprite column row)) ∧
      (erased = true ↔ ∃ (column : Fin 64) (row : Fin 32),
        flips x y sprite column row = true ∧ d.lit column row = true) ∧
      (d'.litCount : Int) = d.litCount + weight sprite - 2 * d.hits x y sprite ∧
      (erased = false ↔ d'.litCount = d.litCount + weight sprite)) ∧
    (16 ≤ sprite.length → d.respond x y sprite = (.error (.tallSprite sprite.length), d)) := by
  refine ⟨fun hlen => ?_, fun hlen => by rw [respond, draw, if_neg (by omega)]⟩
  have hle : sprite.length ≤ 32 := by omega
  have hnodup := nodup_marks x sprite (y := y) hle
  let s : Stroke := { display := d, erased := false }
  have hrows : s.rows x y sprite = s.flipAll (marks x y sprite) := s.rows_eq sprite x y
  have hcount : (s.flipAll (marks x y sprite)).display.litCount + 2 * d.hits x y sprite
      = d.litCount + weight sprite := by
    rw [← countP_marks hle, ← length_marks x sprite y]
    exact s.litCount_flipAll hnodup
  have herased : (s.flipAll (marks x y sprite)).erased = true ↔
      ∃ (column : Fin 64) (row : Fin 32),
        flips x y sprite column row = true ∧ d.lit column row = true := by
    rw [s.erased_flipAll hnodup, place_surjective.exists, Prod.exists]
    simp [s, place, cell_mem_marks hle, get_cell]
  have hhits : (s.flipAll (marks x y sprite)).erased = false ↔ d.hits x y sprite = 0 := by
    rw [← Bool.not_eq_true, herased, hits, Finset.card_eq_zero, Finset.filter_eq_empty_iff]
    simp
  refine ⟨_, _, by rw [respond, draw, if_pos hlen, hrows], fun column row => ?_, herased, ?_, ?_⟩
  · rw [← get_cell, s.get_flipAll hnodup, get_cell, Bool.decide_congr (cell_mem_marks hle _ _),
      Bool.decide_coe]
  · omega
  · rw [hhits]
    omega

/-- No cell of a blank screen is lit. -/
theorem lit_blank (x y : Int) : blank.lit x y = false := by simp [lit, blank]

theorem litCount_blank : blank.litCount = 0 := by
  rw [litCount, blank, Vector.toList_replicate, List.count_replicate, if_neg (by decide)]

/-- Two rows across the right edge and across the lower one, on a blank screen. -/
theorem draw_exact_wrap :
    let sprite : List UInt8 := [0xF0, 0x01]
    sprite.length ≤ 15 ∧ ∃ d, blank.respond 62 (-1) sprite = (.ok false, d) ∧
      d.lit 63 31 = true ∧ d.lit 5 0 = true ∧ d.lit 6 0 = false ∧ d.litCount = 5 := by
  intro sprite
  obtain ⟨erased, d, hdraw, hlit, herased, hcount, -⟩ :=
    (draw_exact blank 62 (-1) sprite).1 (by decide)
  have hdark : erased = false := by
    rw [← Bool.not_eq_true, herased]
    rintro ⟨column, row, -, h⟩
    rw [lit_blank] at h
    cases h
  have hhits : blank.hits 62 (-1) sprite = 0 := by simp [hits, lit_blank]
  refine ⟨by decide, d, hdark ▸ hdraw, (hlit 63 31).trans ?_, (hlit 5 0).trans ?_,
    (hlit 6 0).trans ?_, ?_⟩
  · rw [lit_blank]
    decide
  · rw [lit_blank]
    decide
  · rw [lit_blank]
    decide
  · have hweight : weight sprite = 5 := by decide
    rw [litCount_blank, hweight, hhits] at hcount
    omega

end Chip8.Display
