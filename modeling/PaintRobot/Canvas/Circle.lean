import PaintRobot.Canvas.Stamp

/-!
Circles. The walk follows one eighth of the outline from the top; every place is stamped at its
eight reflections. Places out of reach of the canvas are passed by, and the walk ends where all
later ones would be.
-/
namespace PaintRobot

/-- A place on the outline as an offset from the center, and how far the outline strays from the
circle there. -/
structure CircleWalk where
  x : Int
  y : Int
  error : Int
  deriving DecidableEq, Repr

namespace CircleWalk

/-- The top of a circle. -/
def start (radius : Int) : CircleWalk := ⟨0, radius, 3 - 2 * radius⟩

/-- The next place: one column on, and one row down where the outline would leave the circle. -/
def next (w : CircleWalk) : CircleWalk :=
  let x := w.x + 1
  if 0 < w.error then
    let y := w.y - 1
    ⟨x, y, w.error + 4 * (x - y) + 10⟩
  else ⟨x, w.y, w.error + 4 * x + 6⟩

/-- The place on all eight parts of the outline. -/
def octants (center : Point) (w : CircleWalk) : List Point :=
  [⟨center.x + w.x, center.y + w.y⟩, ⟨center.x - w.x, center.y + w.y⟩,
    ⟨center.x + w.x, center.y - w.y⟩, ⟨center.x - w.x, center.y - w.y⟩,
    ⟨center.x + w.y, center.y + w.x⟩, ⟨center.x - w.y, center.y + w.x⟩,
    ⟨center.x + w.y, center.y - w.x⟩, ⟨center.x - w.y, center.y - w.x⟩]

theorem next_x (w : CircleWalk) : w.next.x = w.x + 1 := by
  unfold next
  split <;> rfl

theorem next_y_le (w : CircleWalk) : w.next.y ≤ w.y := by
  unfold next
  split
  · exact Int.sub_le_self _ (by decide)
  · exact Int.le_refl _

end CircleWalk

namespace Canvas

/-- The largest offset from a cell at which a brush can still touch the canvas. -/
def reach (c : Canvas) (half : Int) : Int := c.side - 1 + half

/-- Stamps one place of a circle, if it is in reach; tells whether that covered the canvas. -/
def stampOctants (c : Canvas) (center : Point) (half : Int) (color : Color) (w : CircleWalk) :
    Canvas × Bool :=
  if w.x ≤ c.reach half ∧ w.y ≤ c.reach half then stampAlong half color (w.octants center) c
  else (c, false)

/-- Draws the rest of a circle, from a place of its walk. -/
def drawCircleFrom (center : Point) (half : Int) (color : Color) (w : CircleWalk) (c : Canvas) :
    Canvas :=
  let (d, covered) := c.stampOctants center half color w
  if covered ∨ w.y < w.x ∨ c.reach half < w.x then d
  else drawCircleFrom center half color w.next d
termination_by (w.y + 1 - w.x).toNat
decreasing_by
  have := w.next_x
  have := w.next_y_le
  omega

/-- Draws the outline of a circle with a square brush. No place of the outline is nearer than half
the radius to the center along both axes. -/
def drawCircle (c : Canvas) (center : Point) (radius : Int) (color : Color) (size : Int) :
    Canvas :=
  let half := brushHalf size
  if c.reach half < radius.tdiv 2 then c
  else drawCircleFrom center half color (.start radius) c

end Canvas

end PaintRobot
