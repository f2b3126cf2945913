import PaintRobot.Canvas.Basic
import PaintRobot.Variables

/-! All that a program can change: the canvas, the robot on it, its brush, and the variables. -/
namespace PaintRobot

/-- Where the robot is, once it has been spawned. -/
structure Cursor where
  spawned : Bool := false
  position : Point := ⟨0, 0⟩
  deriving DecidableEq, Repr

/-- The color and the width of the brush; a new one leaves no trace. -/
structure Brush where
  color : Color := .transparent
  size : Int := 1
  deriving DecidableEq, Repr

namespace Brush

def isTransparent (b : Brush) : Bool := b.color == .transparent

/-- A brush has a middle, so an even size drops to the odd one below. -/
def withSize (b : Brush) (size : Int) : Brush :=
  { b with size := if size % 2 = 0 then size - 1 else size }

end Brush

structure State where
  canvas : Canvas
  cursor : Cursor := {}
  brush : Brush := {}
  vars : Variables := {}

/-- The state at the start of a program. -/
def State.start (side : Nat) : State := { canvas := .blank side }

end PaintRobot
