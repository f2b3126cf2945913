import PaintRobot.Proofs.Canvas.Mirror
import PaintRobot.Proofs.Machine.Noting
import PaintRobot.Proofs.Machine.Soundness

/-!
Redrawing from the cells that a run hands out. A viewer who copies just these sees the whole canvas,
and the run goes on as if nobody had looked.
-/
namespace PaintRobot

namespace Call

/-- Whether a call belongs to a run and does not start another one. -/
def inRun : Call → Bool
  | execute _ | interrupt | drain => true
  | _ => false

def isDrain : Call → Bool
  | drain => true
  | _ => false

theorem isDrain_iff {c : Call} : c.isDrain = true ↔ c = drain := by
  cases c <;> simp [isDrain]

end Call

namespace Answer

/-- The cells that an answer hands out. -/
def points? : Answer → Option (List Point)
  | drained points => some points
  | _ => none

end Answer

/-- The cells that some answers hand out, drain by drain. -/
def handedOut (answers : List Answer) : List (List Point) := answers.filterMap Answer.points?

namespace Machine

variable {m : Machine} {cs : List Call}

/-- The machines whose run has just started. -/
inductive Fresh : Machine → Prop where
  | load {m : Machine} (h : Reachable m) {source : String} (hload : (m.load source).1 = .ok ()) :
      Fresh (m.load source).2
  | reset {m : Machine} (h : Reachable m) : Fresh m.reset
  | resize {m : Machine} (h : Reachable m) (side : Nat) : Fresh (m.resize side)

theorem Fresh.reachable (h : Fresh m) : Reachable m := by
  cases h with
  | load h => exact h.call (.load _)
  | reset h => exact h.call .reset
  | resize h side => exact h.call (.resize side)

theorem Fresh.state_eq (h : Fresh m) : m.state = .start m.state.canvas.side := by
  cases h with
  | load _ =>
    simp only [Machine.load]
    split <;> rfl
  | reset | resize => rfl

theorem Fresh.canvas_eq (h : Fresh m) : m.state.canvas = .blank m.state.canvas.side :=
  congrArg State.canvas h.state_eq

/-! ### The mirror of a viewer -/

/-- What a viewer makes of a mirror at a call: it copies the cells that the call hands out. -/
def redraw (m : Machine) (mirror : Canvas) (c : Call) : Canvas :=
  mirror.copyCells (m.call c).2.state.canvas ((m.call c).1.points?.getD [])

/-- The mirror after some calls. -/
def mirrorAfter (m : Machine) (mirror : Canvas) : List Call → Canvas
  | [] => mirror
  | c :: cs => (m.call c).2.mirrorAfter (m.redraw mirror c) cs

theorem mirrorAfter_append (m : Machine) (mirror : Canvas) (cs more : List Call) :
    m.mirrorAfter mirror (cs ++ more) =
      (m.calls cs).2.mirrorAfter (m.mirrorAfter mirror cs) more := by
  induction cs generalizing m mirror with
  | nil => rfl
  | cons c cs ih => exact ih (m.call c).2 (m.redraw mirror c)

/-- A visit leaves the canvas as it is, or paints some of its cells. -/
theorem canvas_step_eq_or_painted (m : Machine) : m.step.2.state.canvas = m.state.canvas ∨
    ∃ area color, Canvas.Painted area color m.state.canvas m.step.2.state.canvas := by
  cases hr : m.step.1 with
  | error cause => exact .inl (congrArg State.canvas (state_of_step_error hr))
  | ok t =>
    rcases exists_effect_of_step hr with ⟨-, hsame⟩ | ⟨_, _, -, -, he⟩
    · exact .inl (congrArg (·.state.canvas) hsame)
    · exact he.canvas_eq_or_painted.imp_right fun ⟨_, area, hpainted⟩ => ⟨area, _, hpainted⟩

theorem mirrors_step {mirror : Canvas} (h : mirror.Mirrors m.state.canvas) :
    mirror.Mirrors m.step.2.state.canvas := by
  rcases m.canvas_step_eq_or_painted with hsame | ⟨area, color, hpainted⟩
  · rwa [hsame]
  · exact h.painted hpainted

theorem runInvariant_mirrors (mirror : Canvas) :
    RunInvariant fun m => mirror.Mirrors m.state.canvas where
  line {m t} h _ _ := by
    rw [goOn_state]
    exact mirrors_step h
  fault h _ _ := mirrors_step h
  stop h := h

theorem mirrors_redraw {mirror : Canvas} (h : mirror.Mirrors m.state.canvas) {c : Call}
    (hc : c.inRun = true) : (m.redraw mirror c).Mirrors (m.call c).2.state.canvas := by
  cases c with
  | load | reset | resize => cases hc
  | execute n => exact (runInvariant_mirrors mirror).execute h n
  | interrupt =>
    show mirror.Mirrors m.interrupt.state.canvas
    rwa [interrupt_state]
  | drain => exact h.drain

theorem mirrors_mirrorAfter {mirror : Canvas} (h : mirror.Mirrors m.state.canvas)
    (hcs : ∀ c ∈ cs, c.inRun = true) :
    (m.mirrorAfter mirror cs).Mirrors (m.calls cs).2.state.canvas := by
  induction cs generalizing m mirror with
  | nil => exact h
  | cons c cs ih =>
    obtain ⟨hc, hrest⟩ := List.forall_mem_cons.mp hcs
    exact ih (mirrors_redraw h hc) hrest

/-- Right after a drain the mirror shows the canvas. -/
theorem rows_mirrorAfter_drain {mirror : Canvas} (h : mirror.Mirrors m.state.canvas)
    (hcs : ∀ c ∈ cs, c.inRun = true) :
    (m.mirrorAfter mirror (cs ++ [.drain])).rows =
      (m.calls (cs ++ [.drain])).2.state.canvas.rows := by
  rw [mirrorAfter_append, calls_append]
  exact (mirrors_mirrorAfter h hcs).rows_copyCells_drain

/-! ### The cells handed out -/

theorem side_call {c : Call} (hc : c.inRun = true) :
    (m.call c).2.state.canvas.side = m.state.canvas.side := by
  have hself : m.state.canvas.Mirrors m.state.canvas := ⟨rfl, fun _ _ => rfl⟩
  exact (mirrors_redraw hself hc).side.symm.trans (Canvas.side_copyCells ..)

theorem points?_call (m : Machine) (c : Call) :
    (m.call c).1.points? = if c.isDrain then some m.drain.1 else none := by
  cases c <;> rfl

/-- The cells of each drain are in order, and on the canvas. -/
theorem of_mem_handedOut (hm : Reachable m) (hcs : ∀ c ∈ cs, c.inRun = true)
    {points : List Point} (h : points ∈ handedOut (m.calls cs).1) :
    points.Pairwise Point.Before ∧ ∀ p ∈ points, m.state.canvas.Contains p := by
  induction cs generalizing m with
  | nil => cases h
  | cons c cs ih =>
    obtain ⟨hc, hrest⟩ := List.forall_mem_cons.mp hcs
    obtain ⟨a, ha, hpoints⟩ := List.mem_filterMap.mp h
    rcases List.mem_cons.mp ha with rfl | ha
    · rw [points?_call] at hpoints
      split at hpoints
      · cases hpoints
        refine ⟨m.state.canvas.pairwise_drain, fun p hp => ?_⟩
        exact (sound_of_reachable hm).state.modified p (Canvas.mem_drain.mp hp)
      · cases hpoints
    · obtain ⟨hordered, hin⟩ := ih (hm.call c) hrest (List.mem_filterMap.mpr ⟨a, ha, hpoints⟩)
      refine ⟨hordered, fun p hp => ?_⟩
      simpa only [Canvas.Contains, side_call hc] using hin p hp

/-! ### Runs that nobody looks at -/

theorem call_note (m : Machine) (points : List Point) {c : Call} (hc : c.inRun = true)
    (hdrain : c.isDrain = false) :
    (m.note points).call c = Prod.map id (·.note points) (m.call c) := by
  cases c with
  | load | reset | resize => cases hc
  | drain => cases hdrain
  | execute n =>
    simp only [call, execute_note]
    rfl
  | interrupt => exact congrArg (Prod.mk Answer.done) (m.interrupt_note points)

/-- A run does not look at the cells that are noted as modified: without its drains it gives the
other answers as before, and ends with all cells noted that the drains would have handed out. -/
theorem calls_note (m : Machine) (points : List Point) (hcs : ∀ c ∈ cs, c.inRun = true) :
    (m.note points).calls (cs.filter fun c => !c.isDrain) =
      ((m.calls cs).1.filter fun a => a.points?.isNone,
        (m.calls cs).2.note (points ++ (handedOut (m.calls cs).1).flatten)) := by
  induction cs generalizing m points with
  | nil => simp [calls, handedOut]
  | cons c cs ih =>
    obtain ⟨hc, hrest⟩ := List.forall_mem_cons.mp hcs
    cases hdrain : c.isDrain with
    | true =>
      obtain rfl : c = .drain := Call.isDrain_iff.mp hdrain
      have hdrained : m.note points = m.drain.2.note (m.drain.1 ++ points) := by
        rw [note_append, note_drain]
      rw [List.filter_cons_of_neg (by simp [hdrain]), hdrained, ih m.drain.2 _ hrest]
      apply Prod.ext
      · rfl
      · apply note_congr
        intro p
        show _ ↔ p ∈ points ++ (m.drain.1 :: handedOut (m.drain.2.calls cs).1).flatten
        simp only [List.flatten_cons, List.mem_append, or_left_comm, or_assoc]
    | false =>
      have hpoints : (m.call c).1.points? = none := by simp [points?_call, hdrain]
      rw [List.filter_cons_of_pos (by simp [hdrain]), calls, call_note m points hc hdrain]
      simp [ih _ _ hrest, calls, hpoints, handedOut]

/-- Redraws from the cells handed out lose nothing. In a run that has just started, a mirror that
was white shows the canvas after every drain. A drain hands out cells of the canvas in order, none of
them twice. The run without its drains gives the same other answers and ends in the same machine, but
that the cells which the drains hand out are noted as modified too. -/
theorem redraws_lose_nothing (hm : Fresh m) (hcs : ∀ c ∈ cs, c.inRun = true) :
    (∀ earlier, earlier ++ [.drain] <+: cs →
      (m.mirrorAfter (.blank m.state.canvas.side) (earlier ++ [.drain])).rows =
        (m.calls (earlier ++ [.drain])).2.state.canvas.rows) ∧
    (∀ points ∈ handedOut (m.calls cs).1,
      points.Pairwise Point.Before ∧ points.Nodup ∧ ∀ p ∈ points, m.state.canvas.Contains p) ∧
    (m.calls (cs.filter fun c => !c.isDrain)).1 =
      (m.calls cs).1.filter (fun a => a.points?.isNone) ∧
    (m.calls (cs.filter fun c => !c.isDrain)).2.drain.2 = (m.calls cs).2.drain.2 ∧
    ∀ p, p ∈ (m.calls (cs.filter fun c => !c.isDrain)).2.state.canvas.modified ↔
      p ∈ (m.calls cs).2.state.canvas.modified ∨
        ∃ points ∈ handedOut (m.calls cs).1, p ∈ points := by
  have hquiet : m.calls (cs.filter fun c => !c.isDrain) =
      ((m.calls cs).1.filter fun a => a.points?.isNone,
        (m.calls cs).2.note (handedOut (m.calls cs).1).flatten) := by
    simpa using m.calls_note [] hcs
  rw [hquiet]
  refine ⟨?_, ?_, rfl, rfl, ?_⟩
  · intro earlier hearlier
    have hwhite : (Canvas.blank m.state.canvas.side).Mirrors m.state.canvas := by
      rw [← hm.canvas_eq]
      exact ⟨rfl, fun _ _ => rfl⟩
    refine rows_mirrorAfter_drain hwhite fun c hc => ?_
    exact hcs c (hearlier.subset (List.mem_append_left _ hc))
  · intro points hpoints
    obtain ⟨hordered, hin⟩ := of_mem_handedOut hm.reachable hcs hpoints
    exact ⟨hordered, hordered.imp Point.Before.ne, hin⟩
  · intro p
    show p ∈ ((m.calls cs).2.state.canvas.note _).modified ↔ _
    rw [Canvas.mem_modified_note, List.mem_flatten]

/-- A line is painted over in part after a first drain, and another one fails before the last. -/
theorem redraws_lose_nothing_overpainted_line :
    let source := "Spawn(0, 0)\nColor(\"Red\")\nDrawLine(1, 0, 2)\nColor(\"Blue\")\n" ++
      "DrawLine(-1, 0, 1)\nDrawLine(0, 1, 9)"
    let m := ((new 3).load source).2
    let earlier : List Call := [.execute 3, .drain, .execute 2, .drain, .execute 1]
    let cs := earlier ++ [.drain]
    (Fresh m ∧ ∀ c ∈ cs, c.inRun = true) ∧
    handedOut (m.calls cs).1 = [[⟨0, 0⟩, ⟨1, 0⟩, ⟨2, 0⟩], [⟨1, 0⟩, ⟨2, 0⟩], []] ∧
    (m.mirrorAfter (.blank m.state.canvas.side) cs).rows = (m.calls cs).2.state.canvas.rows ∧
    (m.calls (cs.filter fun c => !c.isDrain)).1 =
      (m.calls cs).1.filter (fun a => a.points?.isNone) ∧
    (m.calls (cs.filter fun c => !c.isDrain)).2.drain.2 = (m.calls cs).2.drain.2 ∧
    (⟨0, 0⟩ : Point) ∈ (m.calls (cs.filter fun c => !c.isDrain)).2.state.canvas.modified := by
  intro source m earlier cs
  have hloaded : ((new 3).load source).1 = .ok () := by decide +kernel
  have hfresh : Fresh m := .load (.new 3) hloaded
  have hcs : ∀ c ∈ cs, c.inRun = true := by decide
  have hhanded : handedOut (m.calls cs).1 =
      [[⟨0, 0⟩, ⟨1, 0⟩, ⟨2, 0⟩], [⟨1, 0⟩, ⟨2, 0⟩], []] := by decide +kernel
  obtain ⟨hmirror, -, hanswers, hmachine, hmodified⟩ := redraws_lose_nothing hfresh hcs
  have hfirst : (⟨0, 0⟩ : Point) ∈ [⟨0, 0⟩, ⟨1, 0⟩, ⟨2, 0⟩] := List.mem_cons_self
  refine ⟨⟨hfresh, hcs⟩, hhanded, hmirror earlier (List.prefix_refl cs), hanswers, hmachine, ?_⟩
  rw [hmodified, hhanded]
  exact .inr ⟨_, List.mem_cons_self, hfirst⟩

end Machine

end PaintRobot
