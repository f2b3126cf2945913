import PaintRobot.Canvas.Stamp

/-!
Straight lines. The walk from one end to the other makes a step along the longer axis each time,
and one along the shorter axis when the error it keeps says that the line is nearer there.
-/
namespace PaintRobot

/-- A place on a straight walk and how far it leans: ahead along the rows where positive, ahead
along the columns where negative. -/
structure LineWalk where
  point : Point
  error : Int
  deriving DecidableEq, Repr

namespace LineWalk

/-- The next place of the walk from `a` to `b`. -/
def next (a b : Point) (w : LineWalk) : LineWalk :=
  let dx : Int := (b.x - a.x).natAbs
  let dy : Int := (b.y - a.y).natAbs
  let sideways := -dy < 2 * w.error
  let upright := 2 * w.error < dx
  { point :=
      { x := if sideways then w.point.x + (if a.x < b.x then 1 else -1) else w.point.x
        y := if upright then w.point.y + (if a.y < b.y then 1 else -1) else w.point.y }
    error := w.error + (if sideways then -dy else 0) + (if upright then dx else 0) }

/-- The places from `w` to `b`, after at most `steps` steps. -/
def places (a b : Point) (w : LineWalk) : Nat → List Point
  | 0 => [w.point]
  | steps + 1 => w.point :: if w.point = b then [] else places a b (w.next a b) steps

end LineWalk

/-- The points of the straight walk from `a` to `b`, both ends included. The walk has as many steps
as the longer side of the box between its ends. -/
def straightWalk (a b : Point) : List Point :=
  let dx := (b.x - a.x).natAbs
  let dy := (b.y - a.y).natAbs
  LineWalk.places a b ⟨a, (dx : Int) - dy⟩ (max dx dy)

/-- Draws a line with a square brush. -/
def Canvas.drawLine (c : Canvas) (a b : Point) (color : Color) (size : Int) : Canvas :=
  (Canvas.stampAlong (Canvas.brushHalf size) color (straightWalk a b) c).1

end PaintRobot
