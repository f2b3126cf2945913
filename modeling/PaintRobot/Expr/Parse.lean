import PaintRobot.Expr.Form

/-!
Reading expressions. A text is split at its loosest outer operator, or taken out of its parentheses
or apart into a call, and so are its parts, down to the atoms.
-/
namespace PaintRobot

namespace Expr

/-- Reads an expression. -/
def parse (s : List Char) : Except Cause Expr :=
  match _ : Form.ofText s with
  | .error cause => .error cause
  | .ok (.leaf e) => .ok e
  | .ok (.same part) => parse part
  | .ok (.negated part) => return .binary .minus (.int 0) (← parse part)
  | .ok (.call name args) => return .call name (← args.attach.mapM fun ⟨a, _⟩ => parse a)
  | .ok (.binary op l r) => do
    let l ← parse l
    let r ← parse r
    return .binary op l r
termination_by s.length
decreasing_by
  all_goals exact Form.length_lt_of_mem_parts ‹_› _ (by simp [Form.parts, *])

end Expr

/-- The expression of a form, with `read` to read its parts in order. -/
def Form.toExpr (read : List Char → Except Cause Expr) : Form → Except Cause Expr
  | .leaf e => .ok e
  | .same part => read part
  | .negated part => return .binary .minus (.int 0) (← read part)
  | .call name args => return .call name (← args.mapM read)
  | .binary op l r => do
    let l ← read l
    let r ← read r
    return .binary op l r

theorem Expr.parse_eq (s : List Char) :
    parse s = (do (← Form.ofText s).toExpr parse) := by
  rw [parse]
  split <;> rename_i h <;> simp [h, Form.toExpr, bind, Except.bind]

end PaintRobot
