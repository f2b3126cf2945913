import PaintRobot.Canvas.Point
import PaintRobot.Color
import Std.Data.ExtTreeSet

/-!
The canvas: a square grid of colors that also remembers which cells were set since a viewer last
asked. Points outside it have no color and cannot be set.
-/
namespace PaintRobot

structure Canvas where
  side : Nat
  cells : Array Color
  modified : Std.ExtTreeSet Point
  size_cells : cells.size = side * side

namespace Canvas

/-- A white canvas. -/
def blank (side : Nat) : Canvas :=
  ⟨side, Array.replicate (side * side) .white, ∅, Array.size_replicate⟩

/-- Whether a point is a cell of the canvas. -/
def Contains (c : Canvas) (p : Point) : Prop := 0 ≤ p.x ∧ p.x < c.side ∧ 0 ≤ p.y ∧ p.y < c.side

instance (c : Canvas) (p : Point) : Decidable (c.Contains p) := by
  unfold Contains
  infer_instance

/-- Cells are kept row by row. -/
def index (c : Canvas) (p : Point) : Nat := p.y.toNat * c.side + p.x.toNat

theorem index_lt {c : Canvas} {p : Point} (h : c.Contains p) : c.index p < c.cells.size := by
  obtain ⟨_, _, _, _⟩ := h
  have hrow : (p.y.toNat + 1) * c.side ≤ c.side * c.side :=
    Nat.mul_le_mul_right _ (by omega)
  rw [c.size_cells, index]
  rw [Nat.add_mul] at hrow
  omega

def cell (c : Canvas) (p : Point) (h : c.Contains p) : Color :=
  getElem c.cells (c.index p) (index_lt h)

/-- The color of a cell; outside the canvas there is none. -/
def get? (c : Canvas) (p : Point) : Option Color :=
  if h : c.Contains p then some (c.cell p h) else none

/-- Gives a point a color and notes it as modified, if it is a cell. -/
def set (c : Canvas) (p : Point) (color : Color) : Canvas :=
  if h : c.Contains p then
    ⟨c.side, c.cells.set (c.index p) color (index_lt h), c.modified.insert p, by
      rw [Array.size_set, c.size_cells]⟩
  else c

/-- Gives a cell a color; outside the canvas there is nothing to set. -/
def set? (c : Canvas) (p : Point) (color : Color) : Option Canvas :=
  if c.Contains p then some (c.set p color) else none

/-- The cells set since the last call, column by column, and the canvas that has forgotten them. -/
def drain (c : Canvas) : List Point × Canvas := (c.modified.toList, { c with modified := ∅ })

/-- The integers from `lo` to `hi`. -/
def span (lo hi : Int) : List Int := (List.range (hi + 1 - lo).toNat).map fun (k : Nat) => lo + k

/-- The cells within the box from `lo` to `hi`, row by row. -/
def box (c : Canvas) (lo hi : Point) : List Point :=
  let last : Int := c.side - 1
  (span (max lo.y 0) (min hi.y last)).flatMap fun y =>
    (span (max lo.x 0) (min hi.x last)).map fun x => ⟨x, y⟩

/-- How many cells of a color there are in row `y` from column `left` to column `right`. -/
def countRow (c : Canvas) (color : Color) (left right y : Int) : Nat :=
  let start := y.toNat * c.side
  c.cells.foldl (fun n d => if d = color then n + 1 else n) 0 (start + left.toNat)
    (start + (right + 1).toNat)

/-- How many cells of a color there are in the box that two opposite corners span. -/
def count (c : Canvas) (color : Color) (p q : Point) : Nat :=
  let last : Int := c.side - 1
  let left := max (min p.x q.x) 0
  let right := min (max p.x q.x) last
  (span (max (min p.y q.y) 0) (min (max p.y q.y) last)).foldl
    (fun n y => n + c.countRow color left right y) 0

/-- The colors row by row, from the top. -/
def rows (c : Canvas) : List (List Color) :=
  (List.range c.side).map fun y => (c.cells.extract (y * c.side) ((y + 1) * c.side)).toList

end Canvas

end PaintRobot
