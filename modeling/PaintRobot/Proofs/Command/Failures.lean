import PaintRobot.Proofs.Command.Drawing
import PaintRobot.Proofs.Expr.Evaluation

/-!
How commands fail. A command asks all that it needs to know before it changes anything, so when it
fails the state is the one it found; and every cause it fails with lies in the program.
-/
namespace PaintRobot

open Cause (InProgram)

namespace State

variable (s : State)

theorem failsWith_requireDirection (n : Int) : FailsWith InProgram (requireDirection n) := by
  unfold requireDirection
  split
  · exact .ok ()
  · exact .error nofun

theorem failsWith_directions (dx dy : Expr) : FailsWith InProgram (s.directions dx dy) := by
  refine (dx.failsWith_integer s).bind fun x _ => ?_
  refine (dy.failsWith_integer s).bind fun y _ => ?_
  refine (failsWith_requireDirection x).bind fun _ _ => ?_
  exact (failsWith_requireDirection y).bind fun _ _ => .ok _

theorem failsWith_distance (e : Expr) : FailsWith InProgram (s.distance e) := by
  refine (e.failsWith_integer s).bind fun n _ => ?_
  split
  · exact .error nofun
  · exact .ok n

theorem failsWith_requireInside (p : Point) : FailsWith InProgram (s.requireInside p) := by
  unfold requireInside
  split
  · exact .ok ()
  · exact .error nofun

theorem failsWith_destination (d : Int × Int) (steps : Int) :
    FailsWith InProgram (s.destination d steps) := by
  simp only [destination]
  split
  · exact (s.failsWith_requireInside _).bind fun _ _ => .ok _
  · exact .error fun h => by cases h

theorem failsWith_spawnPoint (x y : Expr) : FailsWith InProgram (s.spawnPoint x y) := by
  refine (x.failsWith_integer s).bind fun _ _ => (y.failsWith_integer s).bind fun _ _ => ?_
  split
  · exact .ok _
  · exact .error nofun

theorem failsWith_brushSize (e : Expr) : FailsWith InProgram (s.brushSize e) := by
  refine (e.failsWith_integer s).bind fun n _ => ?_
  split
  · exact .error nofun
  · exact .ok n

theorem failsWith_lineEnd (dx dy distance : Expr) :
    FailsWith InProgram (s.lineEnd dx dy distance) := by
  refine (s.failsWith_directions dx dy).bind fun d _ => ?_
  exact (s.failsWith_distance distance).bind fun n _ => s.failsWith_destination d n

theorem failsWith_circleAt (dx dy radius : Expr) :
    FailsWith InProgram (s.circleAt dx dy radius) := by
  refine (s.failsWith_directions dx dy).bind fun d _ => ?_
  refine (radius.failsWith_integer s).bind fun r _ => ?_
  simp only
  split
  · exact .error nofun
  · exact (s.failsWith_destination d r).bind fun _ _ => .ok _

theorem failsWith_rectangleAt (dx dy distance width height : Expr) :
    FailsWith InProgram (s.rectangleAt dx dy distance width height) := by
  refine (s.failsWith_directions dx dy).bind fun d _ => ?_
  refine (s.failsWith_distance distance).bind fun n _ => ?_
  refine (width.failsWith_integer s).bind fun w _ => ?_
  refine (height.failsWith_integer s).bind fun h _ => ?_
  simp only
  split
  · exact .error nofun
  · refine (s.failsWith_destination d n).bind fun center _ => ?_
    refine (s.failsWith_requireInside _).bind fun _ _ => ?_
    exact (s.failsWith_requireInside _).bind fun _ _ => .ok _

theorem failsWith_requireReady (verb : Option Verb) :
    FailsWith InProgram (s.requireReady verb) := by
  unfold requireReady
  split
  · split
    · exact .error nofun
    · exact .ok ()
  · split
    · exact .ok ()
    · exact .error nofun
  · exact .ok ()

end State

namespace Exec

variable {α β : Type} {kind : Cause → Prop}

/-- An action that changes nothing when it fails, which it does with causes of some kind only. -/
def FailsEarly (kind : Cause → Prop) (x : Exec α) : Prop :=
  ∀ (s s' : State) (cause : Cause), x s = .error cause s' → s' = s ∧ kind cause

theorem failsEarly_return (a : α) : FailsEarly kind (return a) := by
  intro s s' cause h
  cases h

theorem failsEarly_modify (f : State → State) (a : α) :
    FailsEarly kind (do modify f; return a) := by
  intro s s' cause h
  cases h

theorem failsEarly_ask_bind {question : State → Except Cause α} {next : α → Exec β}
    (hq : ∀ s, FailsWith kind (question s)) (hnext : ∀ a, FailsEarly kind (next a)) :
    FailsEarly kind (ask question >>= next) := by
  intro s s' cause h
  simp only [bind, EStateM.bind, ask] at h
  cases he : question s with
  | ok a =>
    rw [he] at h
    exact hnext a s s' cause h
  | error _ =>
    rw [he] at h
    cases h
    exact ⟨rfl, hq s cause he⟩

/-- What a command does with a brush that leaves a trace. -/
def withBrush (next : Exec Transfer) : Exec Transfer := do
  if (← get).brush.isTransparent then return .next
  next

theorem FailsEarly.withBrush {next : Exec Transfer} (h : FailsEarly kind next) :
    FailsEarly kind (withBrush next) := by
  intro s s' cause hfail
  rw [Exec.withBrush, get_bind_apply] at hfail
  split at hfail
  · cases hfail
  · exact h s s' cause hfail

end Exec

namespace Command

open Exec

theorem failsEarly_perform (c : Command) : FailsEarly InProgram c.perform := by
  cases c with
  | spawn x y =>
    exact failsEarly_ask_bind (·.failsWith_spawnPoint x y) fun _ => failsEarly_modify _ _
  | color => exact failsEarly_modify _ _
  | size e => exact failsEarly_ask_bind (·.failsWith_brushSize e) fun _ => failsEarly_modify _ _
  | drawLine dx dy distance =>
    exact .withBrush (failsEarly_ask_bind (·.failsWith_lineEnd dx dy distance)
      fun _ => failsEarly_modify _ _)
  | drawCircle dx dy radius =>
    exact .withBrush (failsEarly_ask_bind (·.failsWith_circleAt dx dy radius)
      fun _ => failsEarly_modify _ _)
  | drawRectangle dx dy distance width height =>
    exact .withBrush (failsEarly_ask_bind (·.failsWith_rectangleAt dx dy distance width height)
      fun _ => failsEarly_modify _ _)
  | fill => exact .withBrush (failsEarly_modify _ _)
  | goTo _ condition =>
    exact failsEarly_ask_bind condition.failsWith_eval fun _ => failsEarly_return _
  | assign _ e => exact failsEarly_ask_bind e.failsWith_eval fun _ => failsEarly_modify _ _

/-- A command that fails leaves the canvas, the robot, its brush and the variables as they were, and
the cause lies in the program. -/
theorem failsEarly_execute (c : Command) : FailsEarly InProgram c.execute :=
  failsEarly_ask_bind (·.failsWith_requireReady _) fun _ => c.failsEarly_perform

end Command

end PaintRobot
