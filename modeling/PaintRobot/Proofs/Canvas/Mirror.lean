import PaintRobot.Proofs.Canvas.Painted

/-!
Mirrors of a canvas. A viewer who copies the cells that the canvas hands out keeps a mirror of it,
which can differ from the canvas only in cells that have been noted as modified since.
-/
namespace PaintRobot

namespace Point

variable {p q : Point}

/-- Whether a point comes first, by its column and then by its row. -/
def Before (p q : Point) : Prop := p.x < q.x ∨ p.x = q.x ∧ p.y < q.y

theorem before_of_compare (h : compare p q = .lt) : p.Before q := by
  simpa [compare_eq, Ordering.then_eq_lt, Before, Int.compare_eq_lt] using h

theorem Before.ne (h : p.Before q) : p ≠ q := by
  rintro rfl
  simp [Before] at h

end Point

namespace Canvas

variable {mirror c d : Canvas} {p q : Point}

theorem mem_drain : p ∈ c.drain.1 ↔ p ∈ c.modified := by simp [drain]

theorem pairwise_drain (c : Canvas) : c.drain.1.Pairwise Point.Before :=
  c.modified.ordered_toList.imp Point.before_of_compare

/-- Copies the color of a cell from another canvas. -/
def copyCell (mirror c : Canvas) (p : Point) : Canvas :=
  match c.get? p with
  | some color => mirror.set p color
  | none => mirror

/-- Copies the colors of some cells from another canvas. -/
def copyCells (mirror c : Canvas) (points : List Point) : Canvas :=
  points.foldl (fun mirror p => mirror.copyCell c p) mirror

@[simp] theorem side_copyCell (mirror c : Canvas) (p : Point) :
    (mirror.copyCell c p).side = mirror.side := by
  unfold copyCell
  split <;> simp

@[simp] theorem side_copyCells (mirror c : Canvas) (points : List Point) :
    (mirror.copyCells c points).side = mirror.side := by
  induction points generalizing mirror with
  | nil => rfl
  | cons p points ih => exact (ih (mirror.copyCell c p)).trans (side_copyCell mirror c p)

theorem get?_copyCell (hside : mirror.side = c.side) :
    (mirror.copyCell c p).get? q = if q = p then c.get? q else mirror.get? q := by
  have hcontains : mirror.Contains p ↔ c.Contains p := by simp [Contains, hside]
  unfold copyCell
  by_cases hp : c.Contains p
  · have hcolor := get?_of_contains hp
    rw [hcolor]
    by_cases hq : q = p
    · rw [if_pos hq, hq, hcolor, get?_set_self (hcontains.mpr hp)]
    · rw [if_neg hq, get?_set_of_ne hq]
  · have hnone : c.get? p = none := get?_eq_none_iff.mpr hp
    rw [hnone]
    by_cases hq : q = p
    · rw [if_pos hq, hq, hnone, get?_eq_none_iff.mpr (mt hcontains.mp hp)]
    · rw [if_neg hq]

theorem get?_copyCells (hside : mirror.side = c.side) {points : List Point} :
    (mirror.copyCells c points).get? q = if q ∈ points then c.get? q else mirror.get? q := by
  induction points generalizing mirror with
  | nil => simp [copyCells]
  | cons p points ih =>
    have hrest : ((mirror.copyCell c p).copyCells c points).get? q =
        if q ∈ points then c.get? q else (mirror.copyCell c p).get? q :=
      ih ((side_copyCell mirror c p).trans hside)
    show ((mirror.copyCell c p).copyCells c points).get? q = _
    rw [hrest, get?_copyCell hside]
    by_cases hmem : q ∈ points <;> by_cases hq : q = p <;> simp [hmem, hq]

/-- The mirror has the size of the canvas, and its colors except where cells have been noted. -/
structure Mirrors (mirror c : Canvas) : Prop where
  side : mirror.side = c.side
  rest : ∀ p, p ∉ c.modified → mirror.get? p = c.get? p

/-- Painting notes all cells that it changes. -/
theorem Mirrors.painted {area : Point → Prop} {color : Color} (h : mirror.Mirrors c)
    (hpaint : Painted area color c d) : mirror.Mirrors d where
  side := h.side.trans hpaint.side.symm
  rest p hp := by
    rw [hpaint.modified, not_or, not_and] at hp
    obtain ⟨hnew, hmissed⟩ := hp
    rw [h.rest p hnew]
    by_cases hin : c.Contains p
    · exact (hpaint.outside p (hmissed hin)).symm
    · rw [get?_eq_none_iff.mpr hin, get?_eq_none_iff.mpr (mt hpaint.contains_iff.mp hin)]

theorem Mirrors.get?_copyCells_drain (h : mirror.Mirrors c) (p : Point) :
    (mirror.copyCells c c.drain.1).get? p = c.get? p := by
  rw [get?_copyCells h.side]
  split
  · rfl
  · rename_i hp
    exact h.rest p (mt mem_drain.mpr hp)

theorem Mirrors.drain (h : mirror.Mirrors c) :
    (mirror.copyCells c c.drain.1).Mirrors c.drain.2 where
  side := (side_copyCells ..).trans h.side
  rest p _ := h.get?_copyCells_drain p

/-- A mirror that has just copied all cells handed out shows the canvas. -/
theorem Mirrors.rows_copyCells_drain (h : mirror.Mirrors c) :
    (mirror.copyCells c c.drain.1).rows = c.rows := by
  have hside : (mirror.copyCells c c.drain.1).side = c.side := (side_copyCells ..).trans h.side
  have hcells : (mirror.copyCells c c.drain.1).cells = c.cells :=
    cells_eq_of_get? hside h.get?_copyCells_drain
  simp only [rows, hside, hcells]

end Canvas

end PaintRobot
