import PaintRobot.Operator

/-! Expressions as trees. -/
namespace PaintRobot

inductive Expr where
  | int (n : Int32)
  | real (x : Float)
  | text (s : String)
  | var (name : String)
  | call (name : String) (args : List Expr)
  | binary (op : Operator) (l r : Expr)

end PaintRobot
