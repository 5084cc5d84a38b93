import Mathlib
import Chip8.Proofs.Dialogue
import Chip8.Proofs.Drawing
import Chip8.Proofs.Effect

/-!
# Proofs/Sprites — draws change places, and cancel in pairs

A draw flips the marks of its sprite (`Display.get_stamp`), and a cell that is flipped by several
draws does not tell in which order.  So draws change places with each other (`Display.stamp_comm`),
and two that have the same marks (`Sprite.Alike.marks_eq`) cancel, next to each other and then
anywhere (`Display.dialogue_cancel`).  In the machine, a draw leaves everything that it reads as it
was, as long as neither coordinate is in the flag register (`State.brush_effect_draw`).
-/

namespace Chip8

/-! ## Sprites -/

/-- A sprite of at most fifteen rows, and where it is drawn. -/
structure Sprite where
  x : Int
  y : Int
  rows : List UInt8
  length_le : rows.length ≤ 15

namespace Sprite

/-- The cells that a sprite flips. -/
def marks (s : Sprite) : List (Fin 2048) := Display.marks s.x s.y s.rows

theorem nodup_marks (s : Sprite) : s.marks.Nodup :=
  Display.nodup_marks s.x s.rows (s.length_le.trans (by decide))

/-- Two sprites have the same rows and are drawn at the same place of the screen. -/
structure Alike (s t : Sprite) : Prop where
  rows : s.rows = t.rows
  x : s.x % 64 = t.x % 64
  y : s.y % 32 = t.y % 32

theorem marks_congr (rows : List UInt8) {x x' : Int} (hx : x % 64 = x' % 64) : ∀ y y' : Int,
    y % 32 = y' % 32 → Display.marks x y rows = Display.marks x' y' rows := by
  induction rows with
  | nil => exact fun _ _ _ => rfl
  | cons byte rest ih =>
    intro y y' hy
    have hcell : (fun bit : Nat => Display.cell (x + bit) y)
        = fun bit : Nat => Display.cell (x' + bit) y' :=
      funext fun bit => Display.cell_eq_cell.mpr (by omega)
    rw [Display.marks, Display.marks, Display.rowMarks, Display.rowMarks, hcell,
      ih (y + 1) (y' + 1) (by omega)]

theorem Alike.marks_eq {s t : Sprite} (h : s.Alike t) : s.marks = t.marks := by
  rw [marks, marks, h.rows]
  exact marks_congr t.rows h.x s.y t.y h.y

end Sprite

/-! ## Draws -/

namespace Display

/-- Two screens on which the same cells are lit are the same. -/
theorem ext_get {d d' : Display} (h : ∀ k, d.get k = d'.get k) : d = d' :=
  congrArg Display.mk (Vector.ext fun k hk => h ⟨k, hk⟩)

/-- What a draw of a sprite says, and the screen that it leaves. -/
def stamp (d : Display) (s : Sprite) : Except Refusal Bool × Display := d.respond s.x s.y s.rows

theorem stamp_eq (d : Display) (s : Sprite) :
    let stroke := Stroke.flipAll { display := d, erased := false } s.marks
    d.stamp s = (.ok stroke.erased, stroke.display) := by
  intro stroke
  rw [stamp, respond, draw, if_pos s.length_le, Stroke.rows_eq]
  rfl

/-- **A draw flips the marks of its sprite.** -/
theorem get_stamp (d : Display) (s : Sprite) (k : Fin 2048) :
    (d.stamp s).2.get k = (d.get k != decide (k ∈ s.marks)) := by
  rw [stamp_eq]
  exact Stroke.get_flipAll s.nodup_marks _ k

theorem erased_stamp (d : Display) (s : Sprite) :
    (d.stamp s).1 = .ok true ↔ ∃ k ∈ s.marks, d.get k = true := by
  rw [stamp_eq, Except.ok.injEq, Stroke.erased_flipAll s.nodup_marks]
  simp

theorem stamp_comm (d : Display) (s t : Sprite) :
    ((d.stamp s).2.stamp t).2 = ((d.stamp t).2.stamp s).2 := by
  refine ext_get fun k => ?_
  simp only [get_stamp]
  exact Bool.xor_right_comm _ _ _

variable {s t : Sprite}

/-- **Of two draws with the same marks the second undoes the first.** -/
theorem stamp_stamp (d : Display) (h : s.Alike t) : ((d.stamp s).2.stamp t).2 = d := by
  refine ext_get fun k => ?_
  simp [get_stamp, h.marks_eq]

/-- **Two like draws cancel wherever they are made.** -/
theorem dialogue_cancel (d : Display) (h : s.Alike t) (ss ts us : List Sprite) :
    (dialogue stamp d (ss ++ s :: (ts ++ t :: us))).2
      = (dialogue stamp d (ss ++ (ts ++ us))).2 := by
  have hpair : (s :: (ts ++ t :: us)).Perm (s :: t :: (ts ++ us)) := List.perm_middle.cons s
  rw [dialogue_perm stamp_comm (hpair.append_left ss), dialogue_append, dialogue_append]
  simp only [dialogue, stamp_stamp _ h]

/-- **One of two like draws in a row puts out a lit cell**, if there is a mark. -/
theorem erased_of_alike (d : Display) (h : s.Alike t) (hs : 0 < weight s.rows) :
    (d.stamp s).1 = .ok true ∨ ((d.stamp s).2.stamp t).1 = .ok true := by
  have hpos : 0 < s.marks.length := by rwa [Sprite.marks, length_marks]
  obtain ⟨k, hk⟩ := List.exists_mem_of_length_pos hpos
  rw [erased_stamp, erased_stamp]
  cases hd : d.get k
  · exact .inr ⟨k, h.marks_eq ▸ hk, by simp [get_stamp, hd, hk]⟩
  · exact .inl ⟨k, hk, hd⟩

theorem reply_of_alike (d : Display) (h : s.Alike t) (hs : 0 < weight s.rows)
    (ss us : List Sprite) :
    let replies := (dialogue stamp d (ss ++ s :: t :: us)).1
    replies[ss.length]? = some (.ok true) ∨ replies[ss.length + 1]? = some (.ok true) := by
  have hfirst := reply_dialogue stamp d ss s (t :: us)
  have hsecond := reply_dialogue stamp d (ss ++ [s]) t us
  rw [List.length_append, List.append_assoc, dialogue_append stamp ss d [s]] at hsecond
  rcases erased_of_alike (dialogue stamp d ss).2 h hs with hout | hout
  · exact .inl (hfirst.trans (congrArg some hout))
  · exact .inr (hsecond.trans (congrArg some hout))

end Display

/-! ## Draws of the machine -/

namespace State

theorem length_sprite (s : State) {rows : Int} (h : rows < 16) :
    (s.sprite rows).length ≤ 15 := by
  rw [sprite, List.length_take]
  omega

/-- The sprite that a draw finds at `I`, at the coordinates in two registers. -/
def brush (s : State) (x y : Int) {rows : Int} (h : rows < 16) : Sprite where
  x := s.value x
  y := s.value y
  rows := s.sprite rows
  length_le := s.length_sprite h

variable {s : State} {x y rows : Int}

theorem drawn_display (h : rows < 16) :
    (s.drawn x y rows).display = (s.display.stamp (s.brush x y h)).2 := by
  rw [Display.stamp, Display.respond, Display.draw, if_pos (s.brush x y h).length_le]
  rfl

/-- A draw that meets no obstacle draws its sprite, and any other leaves the screen alone. -/
theorem effect_draw_display (h : rows < 16) : (s.effect (.draw x y rows)).display =
    if s.obstacle (.draw x y rows) = none then (s.display.stamp (s.brush x y h)).2
    else s.display := by
  simp only [effect, obstacle]
  split_ifs <;> simp_all [drawn_display]

/-- A draw leaves its own obstacle. -/
theorem obstacle_effect_draw : (s.effect (.draw x y rows)).obstacle (.draw x y rows) =
    s.obstacle (.draw x y rows) := by
  have hI : (s.effect (.draw x y rows)).registers.i = s.registers.i := by
    rw [effect]
    split_ifs <;> rfl
  rw [obstacle, obstacle, hI]

/-- **A draw leaves its own sprite**, if it takes no coordinate from the flag register. -/
theorem brush_effect_draw (hx : 0 ≤ x ∧ x < 15) (hy : 0 ≤ y ∧ y < 15) (h : rows < 16) :
    (s.effect (.draw x y rows)).brush x y h = s.brush x y h := by
  rw [effect]
  split_ifs
  · rfl
  · rfl
  · have hvalue {z : Int} (hz : 0 ≤ z ∧ z < 15) : (s.drawn x y rows).value z = s.value z :=
      value_put_of_ne _ (by decide) (by omega) (by omega) _
    simp only [brush, hvalue hx, hvalue hy]
    rfl

end State

namespace Machine

variable {m m₁ m₂ : Machine} {x y rows : Int} {r₁ r₂ : Except Failure Unit}

theorem Runs.draw_display (h : m.state.Valid) (hi : (Instruction.draw x y rows).Fits)
    (hrows : rows < 16) (hr : m.Runs (.draw x y rows) r₁ m₁) : m₁.state.display =
      if m.state.obstacle (.draw x y rows) = none then
        (m.state.display.stamp (m.state.brush x y hrows)).2
      else m.state.display := by
  obtain ⟨c, -, hstate⟩ := hr.exists_effect h hi
  exact hstate ▸ State.effect_draw_display (s := m.state.withCounter c) hrows

/-- **A draw made twice leaves the screen as it was**, if it takes no coordinate from the flag
register. -/
theorem Runs.draw_twice (h : m.state.Valid) (hx : 0 ≤ x ∧ x < 15) (hy : 0 ≤ y ∧ y < 15)
    (hrows : 0 ≤ rows ∧ rows < 16) (hr₁ : m.Runs (.draw x y rows) r₁ m₁)
    (hr₂ : m₁.Runs (.draw x y rows) r₂ m₂) :
    (r₂ = .ok () ↔ r₁ = .ok ()) ∧ m₂.state.display = m.state.display := by
  have hx' : 0 ≤ x ∧ x < 16 := by omega
  have hy' : 0 ≤ y ∧ y < 16 := by omega
  have hi : (Instruction.draw x y rows).Fits := by
    simpa [Instruction.Fits, Instruction.fields, Field.bound] using ⟨hx', hy', hrows⟩
  obtain ⟨c, hvalid, hstate⟩ := hr₁.exists_effect h hi
  have h₁ : m₁.state.Valid := by
    rw [hstate, ← Instruction.execute_effect hi hvalid]
    exact hvalid.drawSprite hx' hy' hrows
  have hobstacle : m₁.state.obstacle (.draw x y rows) = m.state.obstacle (.draw x y rows) := by
    rw [hstate]
    exact State.obstacle_effect_draw (s := m.state.withCounter c)
  have hbrush : m₁.state.brush x y hrows.2 = m.state.brush x y hrows.2 := by
    rw [hstate]
    exact State.brush_effect_draw (s := m.state.withCounter c) hx hy hrows.2
  refine ⟨by rw [hr₂.eq_ok_iff h₁ hi, hobstacle, hr₁.eq_ok_iff h hi], ?_⟩
  rw [hr₂.draw_display h₁ hi hrows.2, hobstacle, hbrush, hr₁.draw_display h hi hrows.2]
  split
  · exact Display.stamp_stamp _ ⟨rfl, rfl, rfl⟩
  · rfl

end Machine

/-- **Draws may be made in any order, and two like draws cancel.**  The screen that a row of draws
leaves depends neither on their order nor on a pair of like draws anywhere among them.  Where two
like draws follow each other at once and the sprite has a set bit, one of them reports a lit cell
that went out.  A machine that carries out a draw twice in a row, with both coordinates outside the
flag register, has the screen that it had before. -/
theorem draws_cancel (d : Display) :
    (∀ {ss ts : List Sprite}, ss.Perm ts →
      (dialogue Display.stamp d ss).2 = (dialogue Display.stamp d ts).2) ∧
    (∀ {s t : Sprite}, s.Alike t → ∀ ss ts us : List Sprite,
      (dialogue Display.stamp d (ss ++ s :: (ts ++ t :: us))).2
        = (dialogue Display.stamp d (ss ++ (ts ++ us))).2) ∧
    (∀ {s t : Sprite}, s.Alike t → 0 < Display.weight s.rows → ∀ ss us : List Sprite,
      let replies := (dialogue Display.stamp d (ss ++ s :: t :: us)).1
      replies[ss.length]? = some (.ok true) ∨ replies[ss.length + 1]? = some (.ok true)) ∧
    ∀ {m : Machine}, m.Reachable → ∀ x y rows : Int, 0 ≤ x ∧ x < 16 → 0 ≤ y ∧ y < 16 →
      0 ≤ rows ∧ rows < 16 → x ≠ 15 → y ≠ 15 → ∀ {r₁ r₂ : Except Failure Unit} {m₁ m₂ : Machine},
      m.Runs (.draw x y rows) r₁ m₁ → m₁.Runs (.draw x y rows) r₂ m₂ →
      (r₂ = .ok () ↔ r₁ = .ok ()) ∧ m₂.state.display = m.state.display := by
  exact ⟨fun h => dialogue_perm Display.stamp_comm h d, d.dialogue_cancel, d.reply_of_alike,
    fun hm _ _ _ hx hy hrows hx' hy' _ _ _ _ =>
      Machine.Runs.draw_twice hm.valid (by omega) (by omega) hrows⟩

/-- A sprite and its like across both edges, with another draw in between, and the digit at the
start of the font, drawn twice. -/
theorem draws_cancel_font :
    let s : Sprite := { x := 62, y := -1, rows := [0xF0, 0x01], length_le := by decide }
    let t : Sprite := { x := -2, y := 31, rows := [0xF0, 0x01], length_le := by decide }
    let u : Sprite := { x := 0, y := 0, rows := [0xFF], length_le := by decide }
    let m := Machine.fresh #[0xD0, 0x15] 2000 (by decide) (.cycling #[])
    s.Alike t ∧ 0 < Display.weight s.rows ∧
      (dialogue Display.stamp .blank [s, u, t]).2 = (dialogue Display.stamp .blank [u]).2 ∧
      m.Reachable ∧ ∃ m₁ m₂ : Machine, m.execute (.draw 0 1 5) = (.ok (), m₁) ∧
        m₁.execute (.draw 0 1 5) = (.ok (), m₂) ∧ m₂.state.display = m.state.display := by
  intro s t u m
  have halike : s.Alike t := ⟨rfl, rfl, rfl⟩
  have hm : m.Reachable := Machine.reachable_fresh _ (n := 500) (by decide) _
  have hi : (Instruction.draw 0 1 5).Fits := by
    simp [Instruction.Fits, Instruction.fields, Field.bound]
  obtain ⟨-, hcancel, -, htwice⟩ := draws_cancel .blank
  have hpair (m : Machine) (hm : m.Reachable) (ho : m.state.obstacle (.draw 0 1 5) = none) :
      ∃ m₁ m₂ : Machine, m.execute (.draw 0 1 5) = (.ok (), m₁) ∧
        m₁.execute (.draw 0 1 5) = (.ok (), m₂) ∧ m₂.state.display = m.state.display := by
    have hok : (m.execute (.draw 0 1 5)).1 = .ok () :=
      (Machine.Runs.executed.eq_ok_iff hm.valid hi).mpr ho
    obtain ⟨hiff, hdisplay⟩ := htwice hm 0 1 5 (by decide) (by decide) (by decide)
      (by decide) (by decide) .executed .executed
    exact ⟨_, _, Prod.ext hok rfl, Prod.ext (hiff.mpr hok) rfl, hdisplay⟩
  exact ⟨halike, by decide, hcancel halike [] [u] [], hm, hpair m hm rfl⟩

end Chip8
