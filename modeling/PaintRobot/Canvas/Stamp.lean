import PaintRobot.Canvas.Lemmas

/-!
Stamping a square brush on the canvas, at one point or along a path. A path is left as soon as one
stamp has covered the whole canvas, after which the others would change nothing.
-/
namespace PaintRobot

namespace Point

/-- The corners of the square that reaches `half` cells from a point in every direction. -/
def squareLow (p : Point) (half : Int) : Point := ⟨p.x - half, p.y - half⟩

def squareHigh (p : Point) (half : Int) : Point := ⟨p.x + half, p.y + half⟩

end Point

namespace Canvas

/-- How far a brush of a size reaches from its middle. -/
def brushHalf (size : Int) : Int := size.tdiv 2

/-- Gives some cells a color, one after the other. -/
def paint (c : Canvas) (color : Color) (points : List Point) : Canvas :=
  points.foldl (fun c p => c.set p color) c

/-- Paints the cells of the square around a point. -/
def stamp (c : Canvas) (half : Int) (color : Color) (p : Point) : Canvas :=
  c.paint color (c.box (p.squareLow half) (p.squareHigh half))

/-- Whether the square around a point has the whole canvas in it. -/
def coveredFrom (c : Canvas) (half : Int) (p : Point) : Bool :=
  p.x - half ≤ 0 && p.y - half ≤ 0 && (c.side : Int) - 1 ≤ p.x + half &&
    (c.side : Int) - 1 ≤ p.y + half

/-- Stamps at the points of a path in turn, up to one whose square covers the canvas; tells
whether there was one. -/
def stampAlong (half : Int) (color : Color) : List Point → Canvas → Canvas × Bool
  | [], c => (c, false)
  | p :: path, c =>
    if c.coveredFrom half p then (c.stamp half color p, true)
    else stampAlong half color path (c.stamp half color p)

@[simp] theorem side_paint (c : Canvas) (color : Color) (points : List Point) :
    (c.paint color points).side = c.side := by
  induction points generalizing c with
  | nil => rfl
  | cons p ps ih => exact (ih (c.set p color)).trans (side_set c p color)

@[simp] theorem side_stamp (c : Canvas) (half : Int) (color : Color) (p : Point) :
    (c.stamp half color p).side = c.side := side_paint ..

end Canvas

end PaintRobot
