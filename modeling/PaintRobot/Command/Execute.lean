import PaintRobot.Canvas.Circle
import PaintRobot.Canvas.Fill
import PaintRobot.Canvas.Line
import PaintRobot.Command.Basic
import PaintRobot.Expr.Eval

/-!
What commands do. A command first asks all it needs to know of the state, where it may fail, and
then changes the state, where it cannot.
-/
namespace PaintRobot

/-- Where a program goes on after a line. -/
inductive Transfer where
  | next
  | jump (target : Nat)
  deriving DecidableEq, Repr

/-- An action on the state. The state outlives a failure. -/
abbrev Exec := EStateM Cause State

/-- Asks the state something and leaves it as it is. -/
def Exec.ask {α : Type} (question : State → Except Cause α) : Exec α := fun s =>
  match question s with
  | .ok a => .ok a s
  | .error cause => .error cause s

namespace State

def requireDirection (n : Int) : Except Cause Unit :=
  if -1 ≤ n ∧ n ≤ 1 then .ok () else .error (.direction n)

/-- Two directions, which are checked once both have a value. -/
def directions (s : State) (dx dy : Expr) : Except Cause (Int × Int) := do
  let x ← dx.integer s
  let y ← dy.integer s
  requireDirection x
  requireDirection y
  return (x, y)

/-- The length of a way, which may be zero. -/
def distance (s : State) (e : Expr) : Except Cause Int := do
  let n ← e.integer s
  if n < 0 then .error (.negativeDistance n) else return n

def requireInside (s : State) (p : Point) : Except Cause Unit :=
  if s.canvas.Contains p then .ok () else .error (.outside p.x p.y)

/-- The cell that lies a number of steps in a direction from the robot. -/
def destination (s : State) (direction : Int × Int) (steps : Int) : Except Cause Point := do
  let p : Point := ⟨s.cursor.position.x + direction.1 * steps,
    s.cursor.position.y + direction.2 * steps⟩
  unless Number.fitsInteger p.x && Number.fitsInteger p.y do throw .overflow
  s.requireInside p
  return p

/-- Where a robot is to be spawned. -/
def spawnPoint (s : State) (x y : Expr) : Except Cause Point := do
  let x ← x.integer s
  let y ← y.integer s
  if s.canvas.Contains ⟨x, y⟩ then return ⟨x, y⟩ else .error (.spawnOutside x y)

/-- The width of a brush. -/
def brushSize (s : State) (n : Expr) : Except Cause Int := do
  let n ← n.integer s
  if n < 1 then .error .sizeNotPositive else return n

/-- Where a line ends. -/
def lineEnd (s : State) (dx dy distance : Expr) : Except Cause Point := do
  let direction ← s.directions dx dy
  let steps ← s.distance distance
  s.destination direction steps

/-- The center of a circle, which lies its radius away, and the radius. -/
def circleAt (s : State) (dx dy radius : Expr) : Except Cause (Point × Int) := do
  let direction ← s.directions dx dy
  let radius ← radius.integer s
  if radius < 1 then throw .radiusNotPositive
  let center ← s.destination direction radius
  return (center, radius)

end State

/-- A rectangle by its middle and two opposite corners. -/
structure Rectangle where
  center : Point
  low : Point
  high : Point
  deriving DecidableEq, Repr

/-- The rectangle of a width and a height around a middle. Where there is no middle cell, the
middle is the one before the high end. -/
def Rectangle.around (center : Point) (width height : Int) : Rectangle :=
  let left := center.x - width / 2
  let top := center.y - height / 2
  ⟨center, ⟨left, top⟩, ⟨left + width - 1, top + height - 1⟩⟩

/-- The sides of a rectangle, each from one corner to the next. -/
def Rectangle.sides (r : Rectangle) : List (Point × Point) :=
  let topRight : Point := ⟨r.high.x, r.low.y⟩
  let bottomLeft : Point := ⟨r.low.x, r.high.y⟩
  [(r.low, topRight), (topRight, r.high), (r.high, bottomLeft), (bottomLeft, r.low)]

namespace State

/-- The rectangle to draw, all of it on the canvas. -/
def rectangleAt (s : State) (dx dy distance width height : Expr) : Except Cause Rectangle := do
  let direction ← s.directions dx dy
  let steps ← s.distance distance
  let width ← width.integer s
  let height ← height.integer s
  if width < 1 ∨ height < 1 then throw .sidesNotPositive
  let center ← s.destination direction steps
  let r := Rectangle.around center width height
  s.requireInside r.low
  s.requireInside r.high
  return r

def moveTo (s : State) (p : Point) : State := { s with cursor := { s.cursor with position := p } }

/-- Draws a line with the brush. -/
def strokeLine (s : State) (a b : Point) : State :=
  { s with canvas := s.canvas.drawLine a b s.brush.color s.brush.size }

/-- Draws the outline of a circle with the brush. -/
def strokeCircle (s : State) (center : Point) (radius : Int) : State :=
  { s with canvas := s.canvas.drawCircle center radius s.brush.color s.brush.size }

/-- Draws the sides of a rectangle with the brush. -/
def strokeRectangle (s : State) (r : Rectangle) : State :=
  r.sides.foldl (fun s side => s.strokeLine side.1 side.2) s

/-- Whether the robot is where a command needs it: spawned, and not yet spawned to be spawned. -/
def requireReady (s : State) : Option Verb → Except Cause Unit
  | some .spawn => if s.cursor.spawned then .error .alreadySpawned else .ok ()
  | some verb => if s.cursor.spawned then .ok () else .error (.notSpawned verb)
  | none => .ok ()

end State

namespace Command

open Exec

/-- What a command does once the robot is ready for it. A transparent brush draws nothing, and its
commands do not even look at their parameters. -/
def perform : Command → Exec Transfer
  | spawn x y => do
    let p ← ask (·.spawnPoint x y)
    modify fun s => { s with cursor := ⟨true, p⟩ }
    return .next
  | color c => do
    modify fun s => { s with brush := { s.brush with color := c } }
    return .next
  | size n => do
    let n ← ask (·.brushSize n)
    modify fun s => { s with brush := s.brush.withSize n }
    return .next
  | drawLine dx dy distance => do
    if (← get).brush.isTransparent then return .next
    let stop ← ask (·.lineEnd dx dy distance)
    modify fun s => (s.strokeLine s.cursor.position stop).moveTo stop
    return .next
  | drawCircle dx dy radius => do
    if (← get).brush.isTransparent then return .next
    let (center, radius) ← ask (·.circleAt dx dy radius)
    modify fun s => (s.strokeCircle center radius).moveTo center
    return .next
  | drawRectangle dx dy distance width height => do
    if (← get).brush.isTransparent then return .next
    let r ← ask (·.rectangleAt dx dy distance width height)
    modify fun s => (s.strokeRectangle r).moveTo r.center
    return .next
  | fill => do
    if (← get).brush.isTransparent then return .next
    modify fun s => { s with canvas := (s.canvas.fill s.cursor.position s.brush.color).1 }
    return .next
  | goTo target condition => do
    let v ← ask condition.eval
    return if v.isTrue then .jump target else .next
  | assign name value => do
    let v ← ask value.eval
    modify fun s => { s with vars := s.vars.store name v }
    return .next

/-- Runs a command. -/
def execute (c : Command) : Exec Transfer := do
  ask (·.requireReady c.verb?)
  c.perform

end Command

end PaintRobot
