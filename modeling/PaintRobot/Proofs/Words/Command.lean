import PaintRobot.Proofs.Words.Fill
import PaintRobot.Proofs.Words.State

/-!
Commands on machine words. On a canvas that is small enough no result leaves its range, so words
that wrap around and words that are lost when they do not fit both do what integers without a bound
do.
-/
namespace PaintRobot.Words

/-- What comes of a command, unless a result is lost. -/
abbrev Outcome := Option (EStateM.Result Cause State Transfer)

/-- Goes on with what a question yields; where it fails the state is left as it is. -/
def askThen {α : Type} (s : State) (question : ExceptT Cause Option α)
    (change : α → Option State) : Outcome := do
  match ← question.run with
  | .ok a =>
    let s ← change a
    return .ok .next s
  | .error cause => return .error cause s

/-- Draws with a brush that leaves a trace. -/
def withBrush (s : State) (next : Outcome) : Outcome :=
  if s.brush.isTransparent then some (.ok .next s) else next

/-- What a command does once the robot is ready for it. The commands that are not listed work out
nothing but their parameters. -/
noncomputable def perform (w : Words) (s : State) : Command → Outcome
  | .size n => askThen s (s.brushSize n) fun n => do
    let brush ← w.withSize s.brush n
    return { s with brush := brush }
  | .drawLine dx dy distance => withBrush s <| askThen s (lineEnd s dx dy distance) fun stop => do
    let drawn ← w.strokeLine s s.cursor.position stop
    return drawn.moveTo stop
  | .drawCircle dx dy radius => withBrush s <| askThen s (circleAt s dx dy radius) fun circle => do
    let drawn ← w.strokeCircle s circle.1 circle.2
    return drawn.moveTo circle.1
  | .drawRectangle dx dy distance width height =>
    withBrush s <| askThen s (w.rectangleAt s dx dy distance width height) fun r => do
      let drawn ← w.strokeRectangle s r
      return drawn.moveTo r.center
  | .fill => withBrush s do
    let (canvas, _) ← w.fill s.canvas s.cursor.position s.brush.color
    return .ok .next { s with canvas := canvas }
  | c => some (c.perform s)

/-- Runs a command. -/
noncomputable def execute (w : Words) (c : Command) (s : State) : Outcome :=
  match s.requireReady c.verb? with
  | .ok _ => w.perform s c
  | .error cause => some (.error cause s)

variable {α : Type} {s : State}

theorem askThen_eq {question : ExceptT Cause Option α} {x : State → Except Cause α}
    {change : α → Option State} {next : α → Exec Transfer} (hq : question.run = some (x s))
    (hchange : ∀ a, x s = .ok a → (change a).map (.ok .next) = some (next a s)) :
    askThen s question change = some ((Exec.ask x >>= next) s) := by
  rw [askThen, hq]
  simp only [bind, EStateM.bind, Exec.ask, Option.bind_some]
  cases hx : x s with
  | ok a =>
    rw [← hchange a hx, Option.map_eq_bind]
    rfl
  | error cause => rfl

theorem withBrush_eq {next : Exec Transfer} {outcome : Outcome} (h : outcome = some (next s)) :
    withBrush s outcome = some (Exec.withBrush next s) := by
  rw [withBrush, Exec.withBrush, Exec.get_bind_apply]
  split
  · rfl
  · exact h

section

variable {w : Words} (hw : w.Exact) (hside : s.canvas.side ≤ 2 ^ 29)
  (hcursor : s.cursor.spawned = true → s.canvas.Contains s.cursor.position)
  (hbrush : IsShort s.brush.size)

include hw hside hcursor hbrush

theorem perform_eq {c : Command} {u : Unit} (hready : s.requireReady c.verb? = .ok u) :
    w.perform s c = some (c.perform s) := by
  cases c with
  | size n =>
    refine askThen_eq rfl fun n hn => ?_
    rw [withSize_eq hw (State.one_le_of_brushSize hn) (isShort_of_brushSize hn)]
    rfl
  | drawLine dx dy distance =>
    refine withBrush_eq (askThen_eq (run_lineEnd s dx dy distance) fun stop hstop => ?_)
    have hstart := hcursor (Command.spawned_of_requireReady hready)
    rw [strokeLine_eq hw hside hbrush hstart (State.contains_of_lineEnd hstop)]
    rfl
  | drawCircle dx dy radius =>
    refine withBrush_eq (askThen_eq (run_circleAt s dx dy radius) fun ⟨center, r⟩ hat => ?_)
    obtain ⟨hr, hpos, hcenter⟩ := State.of_circleAt hat
    rw [strokeCircle_eq hw hpos (isShort_of_integer hr) hside hbrush hcenter]
    rfl
  | drawRectangle dx dy distance width height =>
    refine withBrush_eq (askThen_eq (run_rectangleAt hw hside dx dy distance width height)
      fun r hat => ?_)
    obtain ⟨-, -, -, -, -, -, -, hlow, hhigh⟩ := State.of_rectangleAt hat
    rw [strokeRectangle_eq hw hside hbrush hlow hhigh]
    rfl
  | fill =>
    refine withBrush_eq ?_
    rw [fill_eq hw hside]
    rfl
  | spawn | color | goTo | assign => rfl

theorem execute_eq (c : Command) : w.execute c s = some (c.execute s) := by
  simp only [execute, Command.execute, bind, EStateM.bind, Exec.ask]
  cases hready : s.requireReady c.verb? with
  | ok => exact perform_eq hw hside hcursor hbrush hready
  | error cause => rfl

end

/-- On a canvas of a side of at most `2 ^ 29`, with the robot on it once it has been spawned, no
command works out a result that its words do not hold. So words that lose such results, words that
wrap around and integers without a bound all come to the same state and the same outcome. -/
theorem drawing_stays_in_range (c : Command) (s : State) (hside : s.canvas.side ≤ 2 ^ 29)
    (hcursor : s.cursor.spawned = true → s.canvas.Contains s.cursor.position)
    (hbrush : IsShort s.brush.size) :
    checked.execute c s = some (c.execute s) ∧ wrapping.execute c s = some (c.execute s) :=
  ⟨execute_eq exact_checked hside hcursor hbrush c,
    execute_eq exact_wrapping hside hcursor hbrush c⟩

/-- The widest circle, drawn with the widest brush from a corner of a small canvas. -/
theorem drawing_stays_in_range_widest_circle :
    let s : State :=
      { canvas := .blank 10, cursor := ⟨true, ⟨0, 0⟩⟩, brush := ⟨.red, 2 ^ 31 - 1⟩ }
    let c : Command := .drawCircle (.int 0) (.int 0) (.int 2147483647)
    (s.canvas.side ≤ 2 ^ 29 ∧
      (s.cursor.spawned = true → s.canvas.Contains s.cursor.position) ∧ IsShort s.brush.size) ∧
    checked.execute c s = some (c.execute s) ∧ wrapping.execute c s = some (c.execute s) := by
  intro s c
  have hside : s.canvas.side ≤ 2 ^ 29 := by decide
  have hcursor : s.cursor.spawned = true → s.canvas.Contains s.cursor.position := by decide
  have hbrush : IsShort s.brush.size := by decide
  exact ⟨⟨hside, hcursor, hbrush⟩, drawing_stays_in_range c s hside hcursor hbrush⟩

end PaintRobot.Words
