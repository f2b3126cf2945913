import PaintRobot.Builtin
import PaintRobot.Expr.Basic
import PaintRobot.Value.Arithmetic

/-!
The value of an expression in a state. Both operands are evaluated before an operator is applied,
and all arguments before a call, from left to right.
-/
namespace PaintRobot

mutual
def Expr.eval (s : State) : Expr → Except Cause Value
  | .int n => .ok (.int n)
  | .real x => .ok (.real x)
  | .text t => .ok (.text t)
  | .var name => s.vars.fetch name
  | .call name args => do
    let vs ← Expr.evalAll s args
    Builtin.call s name vs
  | .binary op l r => do
    let v ← l.eval s
    let w ← r.eval s
    op.apply v w

def Expr.evalAll (s : State) : List Expr → Except Cause (List Value)
  | [] => .ok []
  | e :: es => do
    let v ← e.eval s
    let vs ← Expr.evalAll s es
    return v :: vs
end

/-- The value of an expression as an integer. -/
def Expr.integer (s : State) (e : Expr) : Except Cause Int := do
  let v ← e.eval s
  v.toInt

end PaintRobot
