import PaintRobot.Command.Execute
import PaintRobot.Proofs.Failure

/-!
What the evaluation of an expression can fail with. Operators and functions have causes of their
own; none of them blames the machine.
-/
namespace PaintRobot

open Cause (InProgram)

namespace Value

theorem failsWith_toReal (v : Value) : FailsWith InProgram v.toReal := by
  cases v with
  | int n => exact .ok _
  | real x => exact .ok x
  | text s => exact .error nofun

theorem failsWith_narrow (x : Float) : FailsWith InProgram (narrow x) := by
  unfold narrow
  split
  · split
    · exact .ok _
    · exact .error nofun
  · exact .error nofun

theorem failsWith_toInt (v : Value) : FailsWith InProgram v.toInt := by
  refine FailsWith.map ?_ _
  cases v with
  | int n => exact .ok n
  | real x => exact failsWith_narrow x
  | text s => exact .error nofun

theorem failsWith_toReals {α : Type} (l r : Value) {f : Float → Float → Except Cause α}
    (hf : ∀ x y, FailsWith InProgram (f x y)) :
    FailsWith InProgram (do let x ← l.toReal; let y ← r.toReal; f x y) :=
  l.failsWith_toReal.bind fun _ _ => r.failsWith_toReal.bind fun _ _ => hf _ _

theorem failsWith_sameAs (l r : Value) : FailsWith InProgram (l.sameAs r) := by
  unfold sameAs
  split
  · exact .ok _
  · exact failsWith_toReals l r fun _ _ => .ok _

theorem failsWith_ordered (test : Float → Float → Bool) (l r : Value) :
    FailsWith InProgram (l.ordered test r) := by
  unfold ordered
  split
  · exact .error nofun
  · exact failsWith_toReals l r fun _ _ => .ok _

theorem failsWith_arithmetic (f : Float → Float → Float) (l r : Value) :
    FailsWith InProgram (l.arithmetic f r) := failsWith_toReals l r fun _ _ => .ok _

theorem failsWith_division (f : Float → Float → Float) (l r : Value) :
    FailsWith InProgram (l.division f r) := by
  refine failsWith_toReals l r fun x y => ?_
  split
  · exact .error nofun
  · exact .ok _

end Value

theorem Operator.failsWith_apply (op : Operator) (l r : Value) :
    FailsWith InProgram (op.apply l r) := by
  cases op with
  | or | and => exact .ok _
  | equal | notEqual => exact (l.failsWith_sameAs r).bind fun _ _ => .ok _
  | less | lessEqual | greater | greaterEqual => exact l.failsWith_ordered _ r
  | plus | minus | times | power => exact l.failsWith_arithmetic _ r
  | divide | modulus => exact l.failsWith_division _ r

namespace Builtin

theorem failsWith_colorOf (v : Value) : FailsWith InProgram (colorOf v) := by
  unfold colorOf
  split
  · split
    · exact .ok _
    · exact .error nofun
  · exact .error nofun

theorem failsWith_apply (s : State) (called : String) (f : Builtin) (args : List Value) :
    FailsWith InProgram (f.apply s called args) := by
  unfold apply
  split
  · exact .ok _
  · exact .ok _
  · exact .ok _
  · refine (failsWith_colorOf _).bind fun _ _ => ?_
    refine (Value.failsWith_toInt _).bind fun _ _ => ?_
    refine (Value.failsWith_toInt _).bind fun _ _ => ?_
    refine (Value.failsWith_toInt _).bind fun _ _ => ?_
    exact (Value.failsWith_toInt _).bind fun _ _ => .ok _
  · exact (failsWith_colorOf _).bind fun _ _ => .ok _
  · exact (Value.failsWith_toInt _).bind fun _ _ => .ok _
  · refine (failsWith_colorOf _).bind fun _ _ => ?_
    refine (Value.failsWith_toInt _).bind fun _ _ => ?_
    exact (Value.failsWith_toInt _).bind fun _ _ => .ok _
  · exact .error nofun

theorem failsWith_call (s : State) (name : String) (args : List Value) :
    FailsWith InProgram (call s name args) := by
  unfold call
  split
  · exact failsWith_apply s name _ args
  · exact .error nofun

end Builtin

theorem Variables.failsWith_fetch (vs : Variables) (name : String) :
    FailsWith InProgram (vs.fetch name) := by
  unfold fetch
  split
  · exact .ok _
  · exact .error nofun

namespace Expr

mutual

theorem failsWith_eval (s : State) (e : Expr) : FailsWith InProgram (e.eval s) := by
  cases e with
  | int n => exact .ok _
  | real x => exact .ok _
  | text t => exact .ok _
  | var name => exact s.vars.failsWith_fetch name
  | call name args =>
    rw [eval]
    exact (failsWith_evalAll s args).bind fun vs _ => Builtin.failsWith_call s name vs
  | binary op l r =>
    rw [eval]
    refine (failsWith_eval s l).bind fun v _ => ?_
    exact (failsWith_eval s r).bind fun w _ => op.failsWith_apply v w

theorem failsWith_evalAll (s : State) (es : List Expr) : FailsWith InProgram (evalAll s es) := by
  cases es with
  | nil => exact .ok _
  | cons e es =>
    rw [evalAll]
    refine (failsWith_eval s e).bind fun _ _ => ?_
    exact (failsWith_evalAll s es).bind fun _ _ => .ok _

end

theorem failsWith_integer (s : State) (e : Expr) : FailsWith InProgram (e.integer s) :=
  (e.failsWith_eval s).bind fun v _ => v.failsWith_toInt

end Expr

end PaintRobot
