import PaintRobot.State

/-! The functions that programs can call. They look at the state and never change it. -/
namespace PaintRobot

inductive Builtin where
  | actualX | actualY | canvasSize | colorCount | isBrushColor | isBrushSize | isCanvasColor
  deriving DecidableEq, Repr

namespace Builtin

def all : List Builtin :=
  [actualX, actualY, canvasSize, colorCount, isBrushColor, isBrushSize, isCanvasColor]

def name : Builtin → String
  | actualX => "GetActualX"
  | actualY => "GetActualY"
  | canvasSize => "GetCanvasSize"
  | colorCount => "GetColorCount"
  | isBrushColor => "IsBrushColor"
  | isBrushSize => "IsBrushSize"
  | isCanvasColor => "IsCanvasColor"

/-- The function of a name in any case of its ASCII letters. -/
def ofName? (s : String) : Option Builtin := all.find? fun f => Text.sameWord f.name.toList s.toList

/-- How many arguments a function takes. -/
def arity : Builtin → Nat
  | actualX | actualY | canvasSize => 0
  | isBrushColor | isBrushSize => 1
  | isCanvasColor => 3
  | colorCount => 5

/-- The color that an argument names. -/
def colorOf : Value → Except Cause Color
  | .text s =>
    match Color.ofName? s with
    | some c => .ok c
    | none => .error (.invalidColor s)
  | _ => .error .expectedColor

/-- Calls a function of this name; `called` is the name as written. -/
def apply (s : State) (called : String) : Builtin → List Value → Except Cause Value
  | actualX, [] => .ok (.ofInt s.cursor.position.x)
  | actualY, [] => .ok (.ofInt s.cursor.position.y)
  | canvasSize, [] => .ok (.ofInt s.canvas.side)
  | colorCount, [color, x₁, y₁, x₂, y₂] => do
    let color ← colorOf color
    let x₁ ← x₁.toInt
    let y₁ ← y₁.toInt
    let x₂ ← x₂.toInt
    let y₂ ← y₂.toInt
    return .ofInt (s.canvas.count color ⟨x₁, y₁⟩ ⟨x₂, y₂⟩)
  | isBrushColor, [color] => return .ofBool (s.brush.color == (← colorOf color))
  | isBrushSize, [size] => return .ofBool (s.brush.size == (← size.toInt))
  | isCanvasColor, [color, vertical, horizontal] => do
    let color ← colorOf color
    let dy ← vertical.toInt
    let dx ← horizontal.toInt
    let p := s.cursor.position
    return .ofBool (s.canvas.get? ⟨p.x + dx, p.y + dy⟩ == some color)
  | f, args => .error (.argumentCount called f.arity args.length)

/-- Calls the function of a name. -/
def call (s : State) (name : String) (args : List Value) : Except Cause Value :=
  match ofName? name with
  | some f => f.apply s name args
  | none => .error (.undefinedFunction name)

end Builtin

end PaintRobot
