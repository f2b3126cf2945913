import PaintRobot.Proofs.Canvas.Noting
import PaintRobot.Proofs.Command.Failures

/-!
Commands do not look at what is noted as modified. A command does in a state with more cells noted
what it does in the state without them, fails in the same way, and leaves them noted.
-/
namespace PaintRobot

namespace State

/-- Notes some points as modified. -/
def note (s : State) (points : List Point) : State := { s with canvas := s.canvas.note points }

end State

theorem Builtin.call_note (s : State) (points : List Point) (name : String) (args : List Value) :
    call (s.note points) name args = call s name args := by
  unfold call
  split
  · rfl
  · rfl

namespace Expr

mutual

theorem eval_note (s : State) (points : List Point) (e : Expr) :
    e.eval (s.note points) = e.eval s := by
  cases e with
  | int n => rfl
  | real x => rfl
  | text t => rfl
  | var name => rfl
  | call name args =>
    rw [eval, eval, evalAll_note s points args]
    simp only [Builtin.call_note]
  | binary op l r => rw [eval, eval, eval_note s points l, eval_note s points r]

theorem evalAll_note (s : State) (points : List Point) (es : List Expr) :
    evalAll (s.note points) es = evalAll s es := by
  cases es with
  | nil => rfl
  | cons e es => rw [evalAll, evalAll, eval_note s points e, evalAll_note s points es]

end

theorem integer_note (s : State) (points : List Point) (e : Expr) :
    e.integer (s.note points) = e.integer s := by
  rw [integer, integer, eval_note]

end Expr

namespace State

variable (s : State) (points : List Point)

open PaintRobot.Expr (integer_note)

theorem directions_note (dx dy : Expr) :
    (s.note points).directions dx dy = s.directions dx dy := by
  simp only [directions, integer_note]

theorem distance_note (e : Expr) : (s.note points).distance e = s.distance e := by
  simp only [distance, integer_note]

theorem spawnPoint_note (x y : Expr) : (s.note points).spawnPoint x y = s.spawnPoint x y := by
  simp only [spawnPoint, integer_note]
  rfl

theorem brushSize_note (e : Expr) : (s.note points).brushSize e = s.brushSize e := by
  simp only [brushSize, integer_note]

theorem lineEnd_note (dx dy distance : Expr) :
    (s.note points).lineEnd dx dy distance = s.lineEnd dx dy distance := by
  simp only [lineEnd, directions_note, distance_note]
  rfl

theorem circleAt_note (dx dy radius : Expr) :
    (s.note points).circleAt dx dy radius = s.circleAt dx dy radius := by
  simp only [circleAt, directions_note, integer_note]
  rfl

theorem rectangleAt_note (dx dy distance width height : Expr) :
    (s.note points).rectangleAt dx dy distance width height =
      s.rectangleAt dx dy distance width height := by
  simp only [rectangleAt, directions_note, distance_note, integer_note]
  rfl

theorem strokeLine_note (a b : Point) :
    (s.note points).strokeLine a b = (s.strokeLine a b).note points := by
  simp only [strokeLine, note, Canvas.drawLine_note]

theorem strokeCircle_note {center : Point} (hc : s.canvas.Contains center) (radius : Int) :
    (s.note points).strokeCircle center radius = (s.strokeCircle center radius).note points := by
  simp only [strokeCircle, note, Canvas.drawCircle_note hc]

theorem strokeRectangle_note (r : Rectangle) :
    (s.note points).strokeRectangle r = (s.strokeRectangle r).note points :=
  List.foldl_hom (fun s : State => s.note points) fun s side =>
    s.strokeLine_note points side.1 side.2

end State

namespace Exec

variable {α β : Type} {f : State → State} {s : State}

/-- A result with the state changed. -/
def mapState (f : State → State) : EStateM.Result Cause State α → EStateM.Result Cause State α
  | .ok a s => .ok a (f s)
  | .error cause s => .error cause (f s)

/-- Whether an action comes to the same before a change of the state and after it. -/
def CommutesAt (f : State → State) (s : State) (x : Exec α) : Prop := x (f s) = mapState f (x s)

theorem commutesAt_return (a : α) : CommutesAt f s (return a) := rfl

theorem commutesAt_modify {g : State → State} {a : α} (h : g (f s) = f (g s)) :
    CommutesAt f s (do modify g; return a) :=
  congrArg (EStateM.Result.ok a) h

theorem commutesAt_ask_bind {question : State → Except Cause α} {next : α → Exec β}
    (hq : question (f s) = question s)
    (hnext : ∀ a, question s = .ok a → CommutesAt f s (next a)) :
    CommutesAt f s (ask question >>= next) := by
  simp only [CommutesAt, bind, EStateM.bind, ask, hq]
  cases ha : question s with
  | ok a => exact hnext a ha
  | error cause => rfl

theorem CommutesAt.withBrush {next : Exec Transfer} (h : CommutesAt f s next)
    (hf : (f s).brush = s.brush) : CommutesAt f s (withBrush next) := by
  rw [CommutesAt, Exec.withBrush, get_bind_apply, get_bind_apply, hf]
  split
  · rfl
  · exact h

end Exec

namespace Command

open Exec

variable (s : State) (points : List Point)

theorem commutesAt_perform (c : Command) : CommutesAt (·.note points) s c.perform := by
  cases c with
  | spawn x y =>
    exact commutesAt_ask_bind (s.spawnPoint_note points x y) fun _ _ => commutesAt_modify rfl
  | color => exact commutesAt_modify rfl
  | size e =>
    exact commutesAt_ask_bind (s.brushSize_note points e) fun _ _ => commutesAt_modify rfl
  | drawLine dx dy distance =>
    refine .withBrush ?_ rfl
    refine commutesAt_ask_bind (s.lineEnd_note points dx dy distance) fun stop _ => ?_
    apply commutesAt_modify
    exact congrArg (State.moveTo · stop) (s.strokeLine_note points s.cursor.position stop)
  | drawCircle dx dy radius =>
    refine .withBrush ?_ rfl
    refine commutesAt_ask_bind (s.circleAt_note points dx dy radius) fun ⟨center, r⟩ hat => ?_
    have hcenter : s.canvas.Contains center := (State.of_circleAt hat).2.2
    apply commutesAt_modify
    exact congrArg (State.moveTo · center) (s.strokeCircle_note points hcenter r)
  | drawRectangle dx dy distance width height =>
    refine .withBrush ?_ rfl
    refine commutesAt_ask_bind (s.rectangleAt_note points dx dy distance width height) fun r _ => ?_
    apply commutesAt_modify
    exact congrArg (State.moveTo · r.center) (s.strokeRectangle_note points r)
  | fill =>
    refine .withBrush (commutesAt_modify ?_) rfl
    simp only [State.note, Canvas.fill_note]
  | goTo _ condition =>
    exact commutesAt_ask_bind (condition.eval_note s points) fun _ _ => commutesAt_return _
  | assign _ e =>
    exact commutesAt_ask_bind (e.eval_note s points) fun _ _ => commutesAt_modify rfl

/-- A command does the same with more cells noted, and they stay noted. -/
theorem execute_note (c : Command) :
    c.execute (s.note points) = mapState (·.note points) (c.execute s) :=
  commutesAt_ask_bind rfl fun _ _ => c.commutesAt_perform s points

end Command

end PaintRobot
