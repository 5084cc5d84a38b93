import Mathlib
import Chip8.Window.Screen

/-!
# Proofs/Painting — what is seen of a buffer

A screen is painted by filling rectangles, one over the other.  `Rect.pixels` are the pixels that
one of them colours, and `painted` is what is seen after a row of them.  Divided by the scale, the
column and row of a pixel are those of the only cell whose square it lies in (`mem_square`), so that
two squares never meet (`disjoint_square`) and none reaches over the edge (`square_subset_area`).
Which squares are filled is read off the buffer (`mem_squares`), and so is the cell of a pixel
(`covered_iff`).  That is all of `paint_exact`.
-/

namespace Chip8

/-! ## Filling rectangles -/

namespace Rect

/-- The pixels that are coloured where a rectangle is filled, each given by its column and row. -/
def pixels (r : Rect) : Set (Int × Int) :=
  Set.Ico r.x (r.x + r.width) ×ˢ Set.Ico r.y (r.y + r.height)

instance (r : Rect) (p : Int × Int) : Decidable (p ∈ r.pixels) :=
  inferInstanceAs (Decidable ((r.x ≤ p.1 ∧ p.1 < r.x + r.width) ∧ r.y ≤ p.2 ∧ p.2 < r.y + r.height))

/-- What is seen after a rectangle was filled. -/
def fill (seen : Int × Int → Text) (r : Rect) : Int × Int → Text :=
  fun p => if p ∈ r.pixels then r.colour else seen p

end Rect

/-- What is seen after rectangles were filled one after another. -/
def painted (seen : Int × Int → Text) (rects : List Rect) : Int × Int → Text :=
  rects.foldl Rect.fill seen

/-- **Rectangles of one colour are seen wherever one of them lies**, in whatever order. -/
theorem painted_of_colour {colour : Text} {p : Int × Int} {rects : List Rect} :
    (∀ r ∈ rects, r.colour = colour) → ∀ seen : Int × Int → Text,
      painted seen rects p = if ∃ r ∈ rects, p ∈ r.pixels then colour else seen p := by
  -- what was seen before is left open, since each rectangle is filled over the ones before it
  induction rects with
  | nil => exact fun _ seen => by simp [painted]
  | cons r rects ih =>
    intro h seen
    obtain ⟨hr, hrest⟩ := List.forall_mem_cons.mp h
    refine (ih hrest (r.fill seen)).trans ?_
    simp only [Rect.fill, hr, List.exists_mem_cons_iff]
    by_cases hp : p ∈ r.pixels <;> simp [hp]

/-! ## Squares -/

namespace Screen

variable {s : Screen} {p : Int × Int} {i j : Nat}

/-- The pixels of the screen. -/
def area (s : Screen) : Set (Int × Int) := Set.Ico 0 s.width ×ˢ Set.Ico 0 s.height

/-- The cell that a pixel belongs to. -/
def cellOf (s : Screen) (p : Int × Int) : Nat :=
  (p.2 / s.settings.scale * 64 + p.1 / s.settings.scale).toNat

/-- Whether a cell is lit. -/
def Lit (s : Screen) (i : Nat) : Prop := ∃ byte ≠ 0, s.buffer[i]? = some byte

theorem Lit.lt (h : s.Lit i) : i < 2048 := by
  obtain ⟨_, -, hget⟩ := h
  exact (Vector.getElem?_eq_some_iff.mp hget).1

theorem pixels_background (s : Screen) : s.background.pixels = s.area := by
  simp only [Rect.pixels, background, area, zero_add]

theorem mem_area (h : 0 < s.settings.scale) : p ∈ s.area ↔
    (0 ≤ p.1 / s.settings.scale ∧ p.1 / s.settings.scale < 64) ∧
      0 ≤ p.2 / s.settings.scale ∧ p.2 / s.settings.scale < 32 := by
  simp only [Int.ediv_nonneg_iff_of_pos h, Int.ediv_lt_iff_lt_mul h]
  rfl

/-- **The square of a cell holds the pixels that have its column and row** when they are divided by
the scale. -/
theorem mem_square (h : 0 < s.settings.scale) : p ∈ (s.square i).pixels ↔
    p.1 / s.settings.scale = (i % 64 : Nat) ∧ p.2 / s.settings.scale = (i / 64 : Nat) := by
  rw [Int.ediv_eq_iff_of_pos h, Int.ediv_eq_iff_of_pos h]
  rfl

theorem disjoint_square (h : 0 < s.settings.scale) (hne : i ≠ j) :
    Disjoint (s.square i).pixels (s.square j).pixels := by
  refine Set.disjoint_left.mpr fun p hi hj => ?_
  obtain ⟨hxi, hyi⟩ := (mem_square h).mp hi
  obtain ⟨hxj, hyj⟩ := (mem_square h).mp hj
  omega

theorem square_subset_area (h : 0 < s.settings.scale) (hi : i < 2048) :
    (s.square i).pixels ⊆ s.area := by
  intro p hp
  obtain ⟨hx, hy⟩ := (mem_square h).mp hp
  exact (mem_area h).mpr (by omega)

theorem mem_square_iff_cellOf (h : 0 < s.settings.scale) (hp : p ∈ s.area) :
    p ∈ (s.square i).pixels ↔ i = s.cellOf p := by
  have harea := (mem_area h).mp hp
  rw [mem_square h, cellOf]
  omega

/-! ## Which squares are filled -/

theorem mem_squares {r : Rect} : r ∈ s.squares ↔ ∃ i, s.Lit i ∧ r = s.square i := by
  simp only [squares, List.mem_filterMap, Prod.exists, List.mk_mem_zipIdx_iff_getElem?,
    Vector.getElem?_toList, Lit]
  constructor
  · rintro ⟨byte, i, hget, hr⟩
    split at hr
    · cases hr
    next hbyte => exact ⟨i, ⟨byte, hbyte, hget⟩, (Option.some.inj hr).symm⟩
  · rintro ⟨i, ⟨byte, hbyte, hget⟩, rfl⟩
    exact ⟨byte, i, hget, if_neg hbyte⟩

theorem colour_of_mem_squares {r : Rect} (hr : r ∈ s.squares) :
    r.colour = s.settings.foreground := by
  obtain ⟨i, -, rfl⟩ := mem_squares.mp hr
  rfl

theorem subset_area_of_mem_squares {r : Rect} (h : 0 < s.settings.scale) (hr : r ∈ s.squares) :
    r.pixels ⊆ s.area := by
  obtain ⟨i, hlit, rfl⟩ := mem_squares.mp hr
  exact square_subset_area h hlit.lt

/-- **Two squares that are filled never meet.** -/
theorem pairwise_squares (h : 0 < s.settings.scale) :
    s.squares.Pairwise fun r r' => Disjoint r.pixels r'.pixels := by
  have hcells : s.buffer.toList.zipIdx.Pairwise fun a b => a.2 ≠ b.2 :=
    List.pairwise_map.mp (List.nodup_zipIdx_map_snd _)
  rw [squares, List.pairwise_filterMap]
  refine hcells.imp fun {a b} hne r hr r' hr' => ?_
  rw [Option.ite_none_left_eq_some] at hr hr'
  obtain ⟨-, hr⟩ := hr
  obtain ⟨-, hr'⟩ := hr'
  rw [← Option.some.inj hr, ← Option.some.inj hr']
  exact disjoint_square h hne

/-- **A pixel of the screen is covered just if its cell is lit.** -/
theorem covered_iff (h : 0 < s.settings.scale) (hp : p ∈ s.area) :
    (∃ r ∈ s.squares, p ∈ r.pixels) ↔ s.Lit (s.cellOf p) := by
  simp only [mem_squares]
  constructor
  · rintro ⟨r, ⟨i, hlit, rfl⟩, hr⟩
    exact (mem_square_iff_cellOf h hp).mp hr ▸ hlit
  · intro hlit
    exact ⟨_, ⟨_, hlit, rfl⟩, (mem_square_iff_cellOf h hp).mpr rfl⟩

/-! ## Pictures -/

/-- **The squares are seen over the background**, and outside of the screen nothing changes. -/
theorem painted_paint (s : Screen) (seen : Int × Int → Text) (p : Int × Int) :
    painted seen s.paint p =
      if ∃ r ∈ s.squares, p ∈ r.pixels then s.settings.foreground
      else if p ∈ s.background.pixels then s.settings.background else seen p :=
  painted_of_colour (fun _ hr => colour_of_mem_squares hr) (s.background.fill seen)

/-- The buffer of a display has its lit cells where the display has them. -/
theorem lit_cellOf_display {d : Display} (hd : s.buffer.toList = d.buffer)
    (h : 0 < s.settings.scale) (hp : p ∈ s.area) :
    s.Lit (s.cellOf p) ↔ d.lit (p.1 / s.settings.scale) (p.2 / s.settings.scale) = true := by
  have harea := (mem_area h).mp hp
  let k := Display.cell (p.1 / s.settings.scale) (p.2 / s.settings.scale)
  have hcell : s.cellOf p = k := by
    simp only [cellOf, k, Display.cell]
    omega
  have hget : s.buffer[(k : Nat)]? = some (if d.cells[k] then 1 else 0) := by
    rw [← Vector.getElem?_toList, hd, Display.buffer]
    simp
  rw [Lit, hcell, hget]
  change _ ↔ d.cells[k] = true
  cases d.cells[k] <;> simp

/-- **A window shows its display**: where the screen has the buffer of a display, a pixel is seen in
the foreground just if the display is lit in the column and row of its square. -/
theorem painted_display {d : Display} (hd : s.buffer.toList = d.buffer) (h : 0 < s.settings.scale)
    (hp : p ∈ s.area) (seen : Int × Int → Text) :
    painted seen s.paint p =
      if d.lit (p.1 / s.settings.scale) (p.2 / s.settings.scale) then s.settings.foreground
      else s.settings.background := by
  have hbackground : p ∈ s.background.pixels := pixels_background s ▸ hp
  simp only [painted_paint, covered_iff h hp, lit_cellOf_display hd h hp, if_pos hbackground]

/-- A screen takes every buffer of one byte for each cell. -/
theorem setBuffer_of_size (s : Screen) {buffer : Array UInt8} (h : buffer.size = 2048) :
    ∃ t, s.setBuffer buffer = .ok t ∧ t.settings = s.settings ∧ t.buffer = ⟨buffer, h⟩ := by
  rw [setBuffer, dif_pos h]
  dsimp only
  split
  next heq => exact ⟨s, rfl, rfl, heq.symm⟩
  next => exact ⟨_, rfl, rfl, rfl⟩

/-- **What is painted is the buffer.**  A buffer of one byte for each cell is taken, and then the
background is filled first, on all of the screen.  The squares after it lie on the screen and never
meet, and they cover the pixels whose cells are not zero; a cell has as many columns and rows of
pixels as the scale.  So the squares are seen in the foreground colour, the background is seen
between them, and what was seen before only outside of the screen. -/
theorem paint_exact (hscale : 1 ≤ s.settings.scale) {buffer : Array UInt8}
    (hsize : buffer.size = 2048) :
    ∃ t squares, s.setBuffer buffer = .ok t ∧ t.paint = t.background :: squares ∧
      t.area = Set.Ico 0 (64 * s.settings.scale) ×ˢ Set.Ico 0 (32 * s.settings.scale) ∧
      t.background.pixels = t.area ∧
      (∀ r ∈ squares, r.colour = s.settings.foreground ∧ r.pixels ⊆ t.area) ∧
      (squares.Pairwise fun r r' => Disjoint r.pixels r'.pixels) ∧
      (∀ px py, 0 ≤ px ∧ px < 64 * s.settings.scale → 0 ≤ py ∧ py < 32 * s.settings.scale →
        ((∃ r ∈ squares, (px, py) ∈ r.pixels) ↔ ∃ byte ≠ 0,
          buffer[(py / s.settings.scale * 64 + px / s.settings.scale).toNat]? = some byte)) ∧
      ∀ seen p, painted seen t.paint p =
        if ∃ r ∈ squares, p ∈ r.pixels then s.settings.foreground
        else if p ∈ t.background.pixels then s.settings.background else seen p := by
  obtain ⟨t, hset, hsettings, hbuffer⟩ := s.setBuffer_of_size hsize
  have h : 0 < t.settings.scale := hsettings ▸ hscale
  rw [← hsettings]
  refine ⟨t, t.squares, hset, rfl, rfl, pixels_background t,
    fun r hr => ⟨colour_of_mem_squares hr, subset_area_of_mem_squares h hr⟩, pairwise_squares h,
    fun px py hx hy => ?_, painted_paint t⟩
  rw [covered_iff (p := (px, py)) h ⟨hx, hy⟩]
  simp only [Lit, hbuffer, Vector.getElem?_mk, cellOf]

/-- Two cells one behind the other at three pixels a cell, the second with another byte than 1: the
last of the second row and the first of the third. -/
theorem paint_exact_edge :
    let s := create { Config.defaultScreen with scale := 3 } []
    let buffer := ((Array.replicate 2048 (0 : UInt8)).setIfInBounds 127 1).setIfInBounds 128 7
    1 ≤ s.settings.scale ∧ buffer.size = 2048 ∧ ∃ t, s.setBuffer buffer = .ok t ∧
      (∃ r ∈ t.squares, (191, 5) ∈ r.pixels) ∧ (∃ r ∈ t.squares, (0, 6) ∈ r.pixels) ∧
      ¬ (∃ r ∈ t.squares, (3, 6) ∈ r.pixels) ∧
      ∀ seen, painted seen t.paint (3, 6) = "#000000" := by
  intro s buffer
  have hsize : buffer.size = 2048 := by simp [buffer]
  obtain ⟨t, squares, hset, hpaint, harea, hbackground, -, -, hcover, hseen⟩ :=
    paint_exact (s := s) (by decide) hsize
  obtain rfl : t.squares = squares := (List.cons.inj hpaint).2
  have hlast : buffer[127]? = some 1 := by simp [buffer]
  have hfirst : buffer[128]? = some 7 := by simp [buffer]
  have hnext : buffer[129]? = some 0 := by simp [buffer]
  have hdark : ¬ ∃ r ∈ t.squares, (3, 6) ∈ r.pixels := by
    rw [hcover 3 6 (by decide) (by decide)]
    rintro ⟨byte, hne, hget⟩
    exact hne (Option.some.inj (hget.symm.trans hnext))
  refine ⟨by decide, hsize, t, hset, ?_, ?_, hdark, fun seen => ?_⟩
  · exact (hcover 191 5 (by decide) (by decide)).mpr ⟨1, by decide, hlast⟩
  · exact (hcover 0 6 (by decide) (by decide)).mpr ⟨7, by decide, hfirst⟩
  · rw [hseen, if_neg hdark, if_pos (by rw [hbackground, harea]; decide)]
    rfl

end Screen

end Chip8
