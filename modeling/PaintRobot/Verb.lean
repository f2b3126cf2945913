import PaintRobot.Text.Name

/-! The verbs of commands, and the quantities whose literals a command checks when it is read. -/
namespace PaintRobot

inductive Verb where
  | spawn | color | size | drawLine | drawCircle | drawRectangle | fill
  deriving DecidableEq, Repr

namespace Verb

def all : List Verb := [spawn, color, size, drawLine, drawCircle, drawRectangle, fill]

def name : Verb → String
  | spawn => "Spawn"
  | color => "Color"
  | size => "Size"
  | drawLine => "DrawLine"
  | drawCircle => "DrawCircle"
  | drawRectangle => "DrawRectangle"
  | fill => "Fill"

/-- The verb of a name in any case of its ASCII letters. -/
def ofName? (s : String) : Option Verb := all.find? fun v => Text.sameWord v.name.toList s.toList

/-- How many parameters a verb takes. -/
def arity : Verb → Nat
  | fill => 0
  | color | size => 1
  | spawn => 2
  | drawLine | drawCircle => 3
  | drawRectangle => 5

end Verb

/-- What a number given to a drawing command measures. -/
inductive Quantity where
  | size | distance | radius | width | height
  deriving DecidableEq, Repr

namespace Quantity

def name : Quantity → String
  | size => "SIZE"
  | distance => "DISTANCE"
  | radius => "RADIUS"
  | width => "WIDTH"
  | height => "HEIGHT"

/-- The least value allowed: lines may have no length, all else has an extent. -/
def least : Quantity → Int
  | distance => 0
  | _ => 1

end Quantity

end PaintRobot
