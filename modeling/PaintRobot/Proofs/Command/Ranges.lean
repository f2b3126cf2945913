import PaintRobot.Proofs.Command.Strokes
import Mathlib.Data.List.Forall2

/-!
Ranges of parameters. They are checked in two places: for literals where a command is read, and for
the values of all other expressions where it runs. Both have the same ranges, so it makes no
difference whether a value is written out or computed.
-/
namespace PaintRobot

/-! ### Failures behind checks -/

/-- The result is a failure, with a cause of this kind. -/
def Fails {α : Type} (kind : Cause → Prop) (x : Except Cause α) : Prop :=
  ∃ cause, x = .error cause ∧ kind cause

section

variable {α β : Type} {kind : Cause → Prop} {x : Except Cause α} {f : α → Except Cause β} {a : α}
  {cause : Cause} {p : Prop} [Decidable p]

theorem fails_error_iff : Fails kind (.error cause : Except Cause α) ↔ kind cause := by
  simp [Fails]

theorem not_fails_ok : ¬Fails kind (.ok a : Except Cause α) := by
  simp [Fails]

theorem not_fails_return : ¬Fails kind (return a : Except Cause α) := not_fails_ok

theorem FailsWith.not_fails (h : FailsWith (¬kind ·) x) : ¬Fails kind x := by
  rintro ⟨cause, hx, hkind⟩
  exact h cause hx hkind

theorem fails_map_iff {g : α → β} : Fails kind (x.map g) ↔ Fails kind x := by
  cases x <;> simp [Fails, Except.map]

theorem fails_check_iff :
    Fails kind (if p then .ok a else .error cause : Except Cause α) ↔ ¬p ∧ kind cause := by
  split <;> simp_all [Fails]

/-- A sequence that begins with a check fails unless the check passes and what follows does not
fail. -/
theorem fails_check_bind_iff (hcause : kind cause) :
    Fails kind ((if p then .ok a else .error cause : Except Cause α) >>= f) ↔
      ¬(p ∧ ¬Fails kind (f a)) := by
  split
  · simp [*, bind, Except.bind]
  · simp [*, bind, Except.bind, fails_error_iff]

end

namespace Verb

/-- Whether a verb has parameters that are numbers. -/
def takesNumbers : Verb → Bool
  | spawn | size | drawLine | drawCircle | drawRectangle => true
  | color | fill => false

/-- The values that the parameters of a verb may have, wherever the robot is. -/
def InRange : Verb → List Int → Prop
  | size, [n] => 1 ≤ n
  | drawLine, [dx, dy, distance] => IsDirection (dx, dy) ∧ 0 ≤ distance
  | drawCircle, [dx, dy, radius] => IsDirection (dx, dy) ∧ 1 ≤ radius
  | drawRectangle, [dx, dy, distance, width, height] =>
    IsDirection (dx, dy) ∧ 0 ≤ distance ∧ 1 ≤ width ∧ 1 ≤ height
  | _, _ => True

end Verb

/-! ### Literals -/

theorem Param.direction_int (n : Int32) : (int n).direction =
    if -1 ≤ n.toInt ∧ n.toInt ≤ 1 then .ok (.int n) else .error (.literalDirection n.toInt) := rfl

theorem Param.quantity_int (n : Int32) (what : Quantity) : (int n).quantity what =
    if what.least ≤ n.toInt then .ok (.int n) else .error (.literalRange what n.toInt) := rfl

theorem exists_eq_of_length_five {α : Type} {xs : List α} (h : xs.length = 5) :
    ∃ a b c d e, xs = [a, b, c, d, e] := by
  match xs, h with
  | [a, b, c, d, e], _ => exact ⟨a, b, c, d, e, rfl⟩

/-- Literals are refused exactly where they are out of range. -/
theorem Command.fails_validate_int_iff {verb : Verb} {vs : List Int32}
    (hnumbers : verb.takesNumbers = true) (hlength : vs.length = verb.arity) :
    Fails (fun _ => True) (validate verb (vs.map .int)) ↔
      ¬verb.InRange (vs.map Int32.toInt) := by
  cases verb with
  | color | fill => cases hnumbers
  | spawn =>
    obtain ⟨x, y, rfl⟩ := List.length_eq_two.mp hlength
    have hok : validate .spawn [.int x, .int y] = .ok (spawn (.int x) (.int y)) := rfl
    simp [hok, not_fails_ok, Verb.InRange]
  | size =>
    obtain ⟨n, rfl⟩ := List.length_eq_one_iff.mp hlength
    simp only [List.map_cons, List.map_nil, validate, fails_map_iff, Param.quantity_int,
      fails_check_iff, and_true]
    rfl
  | drawLine | drawCircle =>
    obtain ⟨dx, dy, n, rfl⟩ := List.length_eq_three.mp hlength
    simp (disch := trivial) only [List.map_cons, List.map_nil, validate, Param.direction_int,
      Param.quantity_int, fails_check_bind_iff, not_fails_return, not_not, not_false_iff, and_true,
      Verb.InRange, IsDirection, and_assoc]
    rfl
  | drawRectangle =>
    obtain ⟨dx, dy, n, width, height, rfl⟩ := exists_eq_of_length_five hlength
    simp (disch := trivial) only [List.map_cons, List.map_nil, validate, Param.direction_int,
      Param.quantity_int, fails_check_bind_iff, not_fails_return, not_not, not_false_iff, and_true,
      Verb.InRange, IsDirection, and_assoc]
    rfl

/-! ### Values -/

/-- The cause is one that a run reports as an illegal function call. -/
def Cause.IllegalCall (cause : Cause) : Prop := cause.code = .illegalFunctionCall

instance (d : Int × Int) : Decidable (IsDirection d) := inferInstanceAs (Decidable (_ ∧ _))

namespace State

open Cause (IllegalCall code)

variable {s : State} {dx dy e distance radius width height : Expr} {x y n m l : Int}

theorem directions_eq_check (hx : dx.integer s = .ok x) (hy : dy.integer s = .ok y) :
    s.directions dx dy = if IsDirection (x, y) then .ok (x, y)
      else .error (.direction (if -1 ≤ x ∧ x ≤ 1 then y else x)) := by
  by_cases hd : IsDirection (x, y)
  · rw [directions_eq hx hy hd, if_pos hd]
  · rw [if_neg hd]
    simp only [directions, hx, hy, bind, Except.bind, requireDirection]
    unfold IsDirection at hd
    by_cases hdx : -1 ≤ x ∧ x ≤ 1
    · have hdy : ¬(-1 ≤ y ∧ y ≤ 1) := fun hdy => hd ⟨hdx, hdy⟩
      simp only [if_pos hdx, if_neg hdy]
    · simp only [if_neg hdx]

theorem distance_eq_check (he : e.integer s = .ok n) :
    s.distance e = if 0 ≤ n then .ok n else .error (.negativeDistance n) := by
  by_cases hn : 0 ≤ n
  · rw [distance_eq he hn, if_pos hn]
  · rw [distance, he, if_neg hn]
    exact if_pos (Int.not_le.mp hn)

theorem brushSize_eq_check (he : e.integer s = .ok n) :
    s.brushSize e = if 1 ≤ n then .ok n else .error .sizeNotPositive := by
  rw [brushSize, he]
  by_cases hn : 1 ≤ n
  · rw [if_pos hn]
    exact if_neg (Int.not_lt.mpr hn)
  · rw [if_neg hn]
    exact if_pos (Int.not_le.mp hn)

theorem spawnPoint_eq_check (hx : dx.integer s = .ok x) (hy : dy.integer s = .ok y) :
    s.spawnPoint dx dy = if s.canvas.Contains ⟨x, y⟩ then .ok ⟨x, y⟩
      else .error (.spawnOutside x y) := by
  rw [spawnPoint, hx, hy]
  rfl

/-- The radius is checked behind the directions and before the center. -/
theorem circleAt_eq_checks (hr : radius.integer s = .ok n) :
    s.circleAt dx dy radius = s.directions dx dy >>= fun d =>
      (if 1 ≤ n then .ok () else .error .radiusNotPositive) >>= fun _ =>
        s.destination d n >>= fun center => return (center, n) := by
  rw [circleAt]
  congr
  funext d
  rw [hr]
  by_cases hn : 1 ≤ n
  · rw [if_pos hn]
    exact if_neg (Int.not_lt.mpr hn)
  · rw [if_neg hn]
    exact if_pos (Int.not_le.mp hn)

/-- The sides are checked behind the directions and the distance, and before the places. -/
theorem rectangleAt_eq_checks (hw : width.integer s = .ok m) (hh : height.integer s = .ok l) :
    s.rectangleAt dx dy distance width height = s.directions dx dy >>= fun d =>
      s.distance distance >>= fun n =>
        (if 1 ≤ m ∧ 1 ≤ l then .ok () else .error .sidesNotPositive) >>= fun _ =>
          s.destination d n >>= fun center => do
            s.requireInside (Rectangle.around center m l).low
            s.requireInside (Rectangle.around center m l).high
            return Rectangle.around center m l := by
  rw [rectangleAt]
  congr
  funext d
  congr
  funext n
  rw [hw, hh]
  by_cases hsides : 1 ≤ m ∧ 1 ≤ l
  · rw [if_pos hsides]
    exact if_neg (by omega)
  · rw [if_neg hsides]
    exact if_pos (by omega)

/-! ### Places -/

theorem failsOtherwise_requireInside (s : State) (p : Point) :
    FailsWith (¬·.IllegalCall) (s.requireInside p) := by
  unfold requireInside
  split
  · exact .ok ()
  · exact .error fun h => by cases h

theorem failsOtherwise_destination (s : State) (d : Int × Int) (n : Int) :
    FailsWith (¬·.IllegalCall) (s.destination d n) := by
  simp only [destination]
  split
  · exact (s.failsOtherwise_requireInside _).bind fun _ _ => .ok _
  · exact .error fun h => by cases h

theorem fails_spawnPoint_iff (hx : dx.integer s = .ok x) (hy : dy.integer s = .ok y) :
    Fails IllegalCall (s.spawnPoint dx dy) ↔ ¬Verb.spawn.InRange [x, y] := by
  rw [spawnPoint_eq_check hx hy, fails_check_iff]
  simp [Verb.InRange, IllegalCall, code]

theorem fails_brushSize_iff (hn : e.integer s = .ok n) :
    Fails IllegalCall (s.brushSize e) ↔ ¬Verb.size.InRange [n] := by
  rw [brushSize_eq_check hn, fails_check_iff]
  simp [Verb.InRange, IllegalCall, code]

section

variable (hx : dx.integer s = .ok x) (hy : dy.integer s = .ok y)

include hx hy

theorem fails_lineEnd_iff (hn : distance.integer s = .ok n) :
    Fails IllegalCall (s.lineEnd dx dy distance) ↔ ¬Verb.drawLine.InRange [x, y, n] := by
  have htail (d : Int × Int) (n : Int) : ¬Fails IllegalCall (s.destination d n) :=
    (s.failsOtherwise_destination d n).not_fails
  rw [lineEnd, directions_eq_check hx hy, distance_eq_check hn, fails_check_bind_iff,
    fails_check_bind_iff]
  · simp only [htail, not_not, not_false_iff, and_true, Verb.InRange]
  all_goals exact rfl

theorem fails_circleAt_iff (hn : radius.integer s = .ok n) :
    Fails IllegalCall (s.circleAt dx dy radius) ↔ ¬Verb.drawCircle.InRange [x, y, n] := by
  have htail (d : Int × Int) (n : Int) :
      ¬Fails IllegalCall (s.destination d n >>= fun center => return (center, n)) :=
    ((s.failsOtherwise_destination d n).bind fun _ _ => .ok _).not_fails
  rw [circleAt_eq_checks hn, directions_eq_check hx hy, fails_check_bind_iff, fails_check_bind_iff]
  · simp only [htail, not_not, not_false_iff, and_true, Verb.InRange]
  all_goals exact rfl

theorem fails_rectangleAt_iff (hn : distance.integer s = .ok n) (hw : width.integer s = .ok m)
    (hh : height.integer s = .ok l) :
    Fails IllegalCall (s.rectangleAt dx dy distance width height) ↔
      ¬Verb.drawRectangle.InRange [x, y, n, m, l] := by
  have htail (d : Int × Int) (n : Int) :
      ¬Fails IllegalCall (s.destination d n >>= fun center => do
        s.requireInside (Rectangle.around center m l).low
        s.requireInside (Rectangle.around center m l).high
        return Rectangle.around center m l) := by
    refine ((s.failsOtherwise_destination d n).bind fun center _ => ?_).not_fails
    refine (s.failsOtherwise_requireInside _).bind fun _ _ => ?_
    exact (s.failsOtherwise_requireInside _).bind fun _ _ => .ok _
  rw [rectangleAt_eq_checks hw hh, directions_eq_check hx hy, distance_eq_check hn,
    fails_check_bind_iff, fails_check_bind_iff, fails_check_bind_iff]
  · simp only [htail, not_not, not_false_iff, and_true, Verb.InRange]
  all_goals exact rfl

end

end State

/-! ### Both checks -/

namespace Exec

variable {α β : Type} {kind : Cause → Prop} {question : State → Except Cause α} {next : α → Exec β}
  {s : State}

/-- The action fails in a state, with a cause of this kind. -/
def FailsIn (s : State) (kind : Cause → Prop) (x : Exec α) : Prop :=
  ∃ cause s', x s = .error cause s' ∧ kind cause

theorem failsIn_ask_bind_iff (hnext : ∀ a, ∃ b s', next a s = .ok b s') :
    FailsIn s kind (ask question >>= next) ↔ Fails kind (question s) := by
  unfold FailsIn
  cases h : question s with
  | ok a =>
    obtain ⟨b, s', hb⟩ := hnext a
    simp [ask_bind_of_ok h, hb, not_fails_ok]
  | error cause => simp [ask_bind_of_error h, fails_error_iff]

end Exec

namespace Command

open Exec

/-- The command of a verb with some expressions as they are. -/
def ofExprs? : Verb → List Expr → Option Command
  | .spawn, [x, y] => some (spawn x y)
  | .size, [n] => some (size n)
  | .drawLine, [dx, dy, distance] => some (drawLine dx dy distance)
  | .drawCircle, [dx, dy, radius] => some (drawCircle dx dy radius)
  | .drawRectangle, [dx, dy, distance, width, height] =>
    some (drawRectangle dx dy distance width height)
  | _, _ => none

variable {s : State} {verb : Verb} {es : List Expr} {c : Command}

theorem exists_ofExprs?_eq (hnumbers : verb.takesNumbers = true) (hlength : es.length = verb.arity) :
    ∃ c, ofExprs? verb es = some c := by
  cases verb with
  | color | fill => cases hnumbers
  | spawn =>
    obtain ⟨x, y, rfl⟩ := List.length_eq_two.mp hlength
    exact ⟨_, rfl⟩
  | size =>
    obtain ⟨n, rfl⟩ := List.length_eq_one_iff.mp hlength
    exact ⟨_, rfl⟩
  | drawLine | drawCircle =>
    obtain ⟨dx, dy, n, rfl⟩ := List.length_eq_three.mp hlength
    exact ⟨_, rfl⟩
  | drawRectangle =>
    obtain ⟨dx, dy, n, width, height, rfl⟩ := exists_eq_of_length_five hlength
    exact ⟨_, rfl⟩

theorem verb?_of_ofExprs? (h : ofExprs? verb es = some c) : c.verb? = some verb := by
  unfold ofExprs? at h
  split at h <;> cases h <;> rfl

theorem requireReady_eq_ok (h : s.cursor.spawned = decide (verb ≠ .spawn)) :
    s.requireReady (some verb) = .ok () := by
  cases verb <;> simp [State.requireReady, h]

/-- Where the robot is ready and its brush leaves a trace, a command is an illegal function call
exactly for values out of range. -/
theorem failsIn_execute_iff {ns : List Int} (hc : ofExprs? verb es = some c)
    (hvalues : List.Forall₂ (fun e n => e.integer s = .ok n) es ns)
    (hspawned : s.cursor.spawned = decide (verb ≠ .spawn))
    (hvisible : verb ≠ .spawn → s.brush.color ≠ .transparent) :
    FailsIn s Cause.IllegalCall c.execute ↔ ¬verb.InRange ns := by
  have hready : s.requireReady c.verb? = .ok () :=
    (congrArg s.requireReady (verb?_of_ofExprs? hc)).trans (requireReady_eq_ok hspawned)
  have hperform : FailsIn s Cause.IllegalCall c.execute ↔ FailsIn s Cause.IllegalCall c.perform := by
    rw [FailsIn, execute_of_ready hready]
    rfl
  have hbrush (next : Exec Transfer) (hverb : verb ≠ .spawn) :
      FailsIn s Cause.IllegalCall (withBrush next) ↔ FailsIn s Cause.IllegalCall next := by
    rw [FailsIn, withBrush_of_visible (hvisible hverb)]
    rfl
  rw [hperform]
  unfold ofExprs? at hc
  split at hc <;> cases hc
  · obtain _ | ⟨hx, _ | ⟨hy, _ | _⟩⟩ := hvalues
    rw [← State.fails_spawnPoint_iff hx hy]
    exact failsIn_ask_bind_iff fun _ => ⟨_, _, rfl⟩
  · obtain _ | ⟨hn, _ | _⟩ := hvalues
    rw [← State.fails_brushSize_iff hn]
    exact failsIn_ask_bind_iff fun _ => ⟨_, _, rfl⟩
  · obtain _ | ⟨hx, _ | ⟨hy, _ | ⟨hn, _ | _⟩⟩⟩ := hvalues
    rw [← State.fails_lineEnd_iff hx hy hn]
    exact (hbrush _ nofun).trans (failsIn_ask_bind_iff fun _ => ⟨_, _, rfl⟩)
  · obtain _ | ⟨hx, _ | ⟨hy, _ | ⟨hn, _ | _⟩⟩⟩ := hvalues
    rw [← State.fails_circleAt_iff hx hy hn]
    exact (hbrush _ nofun).trans (failsIn_ask_bind_iff fun _ => ⟨_, _, rfl⟩)
  · obtain _ | ⟨hx, _ | ⟨hy, _ | ⟨hn, _ | ⟨hw, _ | ⟨hh, _ | _⟩⟩⟩⟩⟩ := hvalues
    rw [← State.fails_rectangleAt_iff hx hy hn hw hh]
    exact (hbrush _ nofun).trans (failsIn_ask_bind_iff fun _ => ⟨_, _, rfl⟩)

/-- The check of literals and the check at run time agree. Where the robot is ready for a verb, its
brush leaves a trace and all parameters have integers for values, the command is an illegal function
call if and only if the verb is refused with these integers as literals. -/
theorem illegal_iff_refused_as_literals {vs : List Int32} (hnumbers : verb.takesNumbers = true)
    (hlength : es.length = verb.arity)
    (hvalues : List.Forall₂ (fun e v => e.integer s = .ok v.toInt) es vs)
    (hspawned : s.cursor.spawned = decide (verb ≠ .spawn))
    (hvisible : verb ≠ .spawn → s.brush.color ≠ .transparent) :
    ∃ c, ofExprs? verb es = some c ∧
      ((∃ cause s', c.execute s = .error cause s' ∧ cause.code = .illegalFunctionCall) ↔
        ∃ cause, validate verb (vs.map .int) = .error cause) := by
  obtain ⟨c, hc⟩ := exists_ofExprs?_eq hnumbers hlength
  refine ⟨c, hc, ?_⟩
  have hvalidate := fails_validate_int_iff hnumbers (hvalues.length_eq.symm.trans hlength)
  have hvalues' : List.Forall₂ (fun e n => e.integer s = .ok n) es (vs.map Int32.toInt) :=
    List.forall₂_map_right_iff.mpr hvalues
  have hexecute := failsIn_execute_iff hc hvalues' hspawned hvisible
  simp only [Fails, and_true] at hvalidate
  exact hexecute.trans hvalidate.symm

/-- A line in a direction that a variable gives: with the value 2 it is an illegal function call, and
the literal 2 is refused. -/
theorem illegal_iff_refused_as_literals_beyond_direction :
    let vars : Variables := ({} : Variables).store "two" (.int 2)
    let s : State :=
      { canvas := .blank 8, cursor := ⟨true, ⟨3, 4⟩⟩, brush := ⟨.red, 3⟩, vars := vars }
    let es : List Expr := [.var "two", .int 0, .int 1]
    let vs : List Int32 := [2, 0, 1]
    (Verb.drawLine.takesNumbers = true ∧ es.length = Verb.drawLine.arity ∧
      List.Forall₂ (fun e v => e.integer s = .ok v.toInt) es vs ∧
      s.cursor.spawned = decide (Verb.drawLine ≠ .spawn) ∧ s.brush.color ≠ .transparent) ∧
    ∃ c, ofExprs? .drawLine es = some c ∧
      (∃ cause s', c.execute s = .error cause s' ∧ cause.code = .illegalFunctionCall) ∧
      ∃ cause, validate .drawLine (vs.map .int) = .error cause := by
  intro vars s es vs
  have hvalues : List.Forall₂ (fun e v => e.integer s = .ok v.toInt) es vs :=
    .cons rfl (.cons rfl (.cons rfl .nil))
  have hvisible : s.brush.color ≠ .transparent := by decide
  have hnumbers : Verb.drawLine.takesNumbers = true := rfl
  obtain ⟨c, hc, hiff⟩ := illegal_iff_refused_as_literals hnumbers rfl hvalues rfl
    fun _ => hvisible
  have hrefused : ∃ cause, validate .drawLine (vs.map .int) = .error cause := ⟨_, rfl⟩
  exact ⟨⟨hnumbers, rfl, hvalues, rfl, hvisible⟩, c, hc, hiff.mpr hrefused, hrefused⟩

end Command

end PaintRobot
