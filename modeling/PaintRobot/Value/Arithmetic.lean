import PaintRobot.Operator
import PaintRobot.Value.Basic

/-! What the binary operators do to values. -/
namespace PaintRobot.Value

/-- A text equals what shows the same text; numbers compare as reals. -/
def sameAs (l r : Value) : Except Cause Bool :=
  if l.isText || r.isText then .ok (l.display == r.display)
  else return (← l.toReal) == (← r.toReal)

/-- Only numbers have an order. -/
def ordered (test : Float → Float → Bool) (l r : Value) : Except Cause Value :=
  if l.isText || r.isText then .error .unorderedTexts
  else return ofBool (test (← l.toReal) (← r.toReal))

/-- Applies an operation on reals. -/
def arithmetic (f : Float → Float → Float) (l r : Value) : Except Cause Value :=
  return .real (f (← l.toReal) (← r.toReal))

/-- Applies an operation on reals that has no value at a right side of zero. -/
def division (f : Float → Float → Float) (l r : Value) : Except Cause Value := do
  let x ← l.toReal
  let y ← r.toReal
  if y == 0 then .error .divisionByZero else return .real (f x y)

end PaintRobot.Value

namespace PaintRobot

/-- The value of an operator at two values. -/
def Operator.apply (op : Operator) (l r : Value) : Except Cause Value :=
  match op with
  | .or => .ok (.ofBool (l.isTrue || r.isTrue))
  | .and => .ok (.ofBool (l.isTrue && r.isTrue))
  | .equal => return .ofBool (← l.sameAs r)
  | .notEqual => return .ofBool (!(← l.sameAs r))
  | .less => l.ordered (· < ·) r
  | .lessEqual => l.ordered (· ≤ ·) r
  | .greater => l.ordered (· > ·) r
  | .greaterEqual => l.ordered (· ≥ ·) r
  | .plus => l.arithmetic (· + ·) r
  | .minus => l.arithmetic (· - ·) r
  | .times => l.arithmetic (· * ·) r
  | .divide => l.division (· / ·) r
  | .modulus => l.division Number.remainder r
  | .power => l.arithmetic Float.pow r

end PaintRobot
