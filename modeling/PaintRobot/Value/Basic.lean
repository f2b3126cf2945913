import PaintRobot.Fault
import PaintRobot.Number.Shortest

/-!
The values of a running program. Arithmetic works on reals, commands ask for integers, conditions
ask whether a value counts as true.
-/
namespace PaintRobot

inductive Value where
  | int (n : Int32)
  | real (x : Float)
  | text (s : String)

namespace Value

def ofBool (b : Bool) : Value := .int (if b then 1 else 0)

def display : Value → String
  | int n => toString n.toInt
  | real x => Number.realText x
  | text s => s

def isText : Value → Bool
  | text _ => true
  | _ => false

/-- Numbers other than zero and texts that are not empty count as true. -/
def isTrue : Value → Bool
  | int n => n != 0
  | real x => x != 0
  | text s => !s.isEmpty

def toReal : Value → Except Cause Float
  | int n => .ok (Float.ofInt n.toInt)
  | real x => .ok x
  | text s => .error (.notANumber s)

/-- A real narrows to the nearest integer, a half away from zero, as far as it fits. -/
def narrow (x : Float) : Except Cause Int32 :=
  match Number.nearestInteger? x with
  | some n => if Number.fitsInteger n then .ok (Int32.ofInt n) else .error .overflow
  | none => .error .overflow

def toInteger : Value → Except Cause Int32
  | int n => .ok n
  | real x => narrow x
  | text s => .error (.notANumber s)

/-- The integer that a value narrows to, without a bound on its bits. -/
def toInt (v : Value) : Except Cause Int := v.toInteger.map Int32.toInt

/-- An integer as a value. What does not fit thirty-two bits loses the higher ones. -/
def ofInt (n : Int) : Value := .int (Int32.ofInt n)

end Value

end PaintRobot
