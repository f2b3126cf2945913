import PaintRobot.Table
import PaintRobot.Value.Basic

/-! The variables of a program, by their names. Case counts in a name. -/
namespace PaintRobot

abbrev Variables := Table String Value

/-- The value of a variable that has to have one. -/
def Variables.fetch (vs : Variables) (name : String) : Except Cause Value :=
  match vs.get? name with
  | some v => .ok v
  | none => .error (.undefinedVariable name)

end PaintRobot
