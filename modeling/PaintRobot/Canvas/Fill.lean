import PaintRobot.Canvas.Lemmas

/-!
Filling. From a start the color spreads over all cells of the start's color that can be reached
by steps to the four neighbours. Points still to be looked at wait on a stack.
-/
namespace PaintRobot.Canvas

/-- Painting over a cell of one color leaves one cell less of that color. -/
theorem count_cells_set {c : Canvas} {p : Point} {target color : Color}
    (h : c.get? p = some target) (hne : color ≠ target) :
    (c.set p color).cells.count target + 1 = c.cells.count target := by
  have hp := contains_of_get? h
  rw [get?_of_contains hp, Option.some.injEq, cell] at h
  have := Array.count_pos_iff.mpr (h ▸ Array.getElem_mem (index_lt hp))
  rw [set_of_contains hp]
  simp only [Array.count_set, h, BEq.rfl, if_true]
  rw [if_neg (by simpa using hne)]
  omega

/-- Spreads `color` over the cells of the color `target` that can be reached from the points on a
stack; also gives the number of painted cells, counted from `n`. -/
def spread (target color : Color) (hne : color ≠ target) (c : Canvas) (n : Nat) :
    List Point → Canvas × Nat
  | [] => (c, n)
  | p :: stack =>
    if c.get? p = some target then
      spread target color hne (c.set p color) (n + 1) (p.neighbours ++ stack)
    else spread target color hne c n stack
termination_by stack => 5 * c.cells.count target + stack.length
decreasing_by
  · have := count_cells_set ‹_› hne
    simp only [Point.neighbours, List.length_append, List.length_cons, List.length_nil]
    omega
  · simp only [List.length_cons]
    omega

/-- Fills the region around a point; also gives the number of painted cells. Outside the canvas and
on a cell that already has the color there is nothing to fill. -/
def fill (c : Canvas) (p : Point) (color : Color) : Canvas × Nat :=
  match c.get? p with
  | some target => if h : color ≠ target then spread target color h c 0 [p] else (c, 0)
  | none => (c, 0)

end PaintRobot.Canvas
