import PaintRobot.Color
import PaintRobot.Program

/-!
Commands: statements that have been checked as far as that can be done before they run. The number
and the kinds of parameters fit, literals are in range, and jumps have a line to go to.
-/
namespace PaintRobot

inductive Command where
  | spawn (x y : Expr)
  | color (c : Color)
  | size (n : Expr)
  | drawLine (dx dy distance : Expr)
  | drawCircle (dx dy radius : Expr)
  | drawRectangle (dx dy distance width height : Expr)
  | fill
  | goTo (target : Nat) (condition : Expr)
  | assign (name : String) (value : Expr)

namespace Param

/-- The expression of a parameter that is to be a number. A string cannot be one. -/
def number : Param → Except Cause Expr
  | int n => .ok (.int n)
  | text s | expr (.text s) => .error (.expectedNumber s)
  | expr e => .ok e

/-- The color that a parameter names. -/
def color : Param → Except Cause Color
  | text s | expr (.text s) =>
    match Color.ofName? s with
    | some c => .ok c
    | none => .error (.invalidColor s)
  | _ => .error .expectedColorName

/-- The expression of a direction. A literal is checked, everything else once it has a value. -/
def direction (p : Param) : Except Cause Expr :=
  match p.number with
  | .ok (.int n) =>
    if -1 ≤ n.toInt ∧ n.toInt ≤ 1 then .ok (.int n) else .error (.literalDirection n.toInt)
  | result => result

/-- The expression of a quantity. A literal is checked, everything else once it has a value. -/
def quantity (what : Quantity) (p : Param) : Except Cause Expr :=
  match p.number with
  | .ok (.int n) =>
    if what.least ≤ n.toInt then .ok (.int n) else .error (.literalRange what n.toInt)
  | result => result

end Param

namespace Command

/-- The verb; jumps and assignments have none. -/
def verb? : Command → Option Verb
  | spawn .. => some .spawn
  | color _ => some .color
  | size _ => some .size
  | drawLine .. => some .drawLine
  | drawCircle .. => some .drawCircle
  | drawRectangle .. => some .drawRectangle
  | fill => some .fill
  | goTo .. | assign .. => none

/-- The command of a verb and its parameters, which are checked in order. -/
def validate (verb : Verb) (params : List Param) : Except Cause Command :=
  match verb, params with
  | .spawn, [x, y] => do
    let x ← x.number
    let y ← y.number
    return .spawn x y
  | .color, [c] => c.color.map .color
  | .size, [n] => (n.quantity .size).map .size
  | .drawLine, [dx, dy, distance] => do
    let dx ← dx.direction
    let dy ← dy.direction
    let distance ← distance.quantity .distance
    return .drawLine dx dy distance
  | .drawCircle, [dx, dy, radius] => do
    let dx ← dx.direction
    let dy ← dy.direction
    let radius ← radius.quantity .radius
    return .drawCircle dx dy radius
  | .drawRectangle, [dx, dy, distance, width, height] => do
    let dx ← dx.direction
    let dy ← dy.direction
    let distance ← distance.quantity .distance
    let width ← width.quantity .width
    let height ← height.quantity .height
    return .drawRectangle dx dy distance width height
  | .fill, [] => .ok .fill
  | verb, params => .error (.parameterCount verb params.length)

/-- The command of a statement in a program. -/
def ofStatement (p : Program) : Statement → Except Cause Command
  | .command verb params => validate verb params
  | .goTo label condition =>
    match p.label? label with
    | some target => .ok (.goTo target condition)
    | none => .error (.undefinedLabel label)
  | .assign name value => .ok (.assign name value)

/-- The command of a line in a program. -/
def ofLine (p : Program) (l : Line) : Except Cause Command := do
  let statement ← l.statement
  ofStatement p statement

end Command

end PaintRobot
