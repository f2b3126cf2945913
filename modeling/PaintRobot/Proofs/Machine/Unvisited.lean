import PaintRobot.Proofs.Machine.Visits
import PaintRobot.Proofs.Program.Resolution

/-!
Lines that a run does not visit. A visit reads its own line and looks up labels, and that is all that
a run takes from its program.
-/
namespace PaintRobot

theorem Line.not_labels {l : Line} (h : l.isLabel = false) (key : List Char) : ¬l.Labels key := by
  rintro ⟨name, hname, -⟩
  simp [isLabel, hname] at h

namespace Program

variable {p q : Program} {lines : List Line} {labels : Table (List Char) Nat}

/-- A command takes nothing from the program but the lines of labels. -/
theorem ofLine_congr (h : ∀ name, q.label? name = p.label? name) (l : Line) :
    Command.ofLine q l = Command.ofLine p l := by
  unfold Command.ofLine
  cases l.statement with
  | error cause => rfl
  | ok s =>
    show Command.ofStatement q s = Command.ofStatement p s
    cases s with
    | command | assign => rfl
    | goTo label condition => rw [Command.ofStatement, Command.ofStatement, h]

theorem collectLabels_cons_of_not_label {l : Line} (h : l.isLabel = false) (i : Nat) :
    collectLabels labels i (l :: lines) = collectLabels labels (i + 1) lines := by
  rw [collectLabels]
  split
  · rename_i name hkind
    simp [Line.isLabel, hkind] at h
  · rfl

/-- A line that is no label can take the place of another one. -/
theorem collectLabels_set {k : Nat} {old new : Line} (hold : lines[k]? = some old)
    (ho : old.isLabel = false) (hn : new.isLabel = false) (i : Nat) :
    collectLabels labels i (lines.set k new) = collectLabels labels i lines := by
  induction k generalizing labels lines i with
  | zero =>
    obtain ⟨rest, rfl⟩ : ∃ rest, lines = old :: rest := by
      cases lines with
      | nil => cases hold
      | cons l rest =>
        cases hold
        exact ⟨rest, rfl⟩
    rw [List.set_cons_zero, collectLabels_cons_of_not_label hn, collectLabels_cons_of_not_label ho]
  | succ k ih =>
    cases lines with
    | nil => cases hold
    | cons l rest =>
      rw [List.set_cons_succ, collectLabels, collectLabels]
      split
      · cases addLabel labels _ i with
        | ok more => exact ih hold (i + 1)
        | error cause => rfl
      · exact ih hold (i + 1)

end Program

namespace PlainMachine

def withProgram (q : Program) (m : PlainMachine) : PlainMachine := { m with program := q }

variable {m : PlainMachine} {q : Program}

theorem step_withProgram (hlabels : ∀ name, q.label? name = m.program.label? name)
    (hline : q.lines[m.counter]? = m.program.lines[m.counter]?) :
    (m.withProgram q).step = Prod.map id (withProgram q) m.step := by
  have hcommand (l : Line) :
      Command.ofLine q l = (Command.ofLine m.program l).map id := by
    rw [Program.ofLine_congr hlabels, Except.map_id]
    rfl
  have hgoOn (c : Command) (s : State) : (id c).execute s = EStateM.map id c.execute s := by
    simp only [EStateM.map, id]
    cases c.execute s <;> rfl
  have hstep := step_elsewhere hline hcommand hgoOn rfl
  rw [Except.map_id] at hstep
  refine hstep.trans (Prod.ext rfl ?_)
  simp [withProgram, step_counter]

theorem finish_withProgram (q : Program) (m : PlainMachine) :
    (m.withProgram q).finish = Prod.map id (withProgram q) m.finish := by
  by_cases hs : m.state.cursor.spawned = true <;> simp [finish, withProgram, hs]

theorem withProgram_goOn (q : Program) (m : PlainMachine) (t : Transfer) :
    (m.goOn t).withProgram q = (m.withProgram q).goOn t := by
  cases t <;> rfl

end PlainMachine

namespace Machine

variable {m : Machine} {q : Program}

/-- With the same labels, a program of as many lines that has the same ones wherever the cycles come
can take the place of another. -/
theorem cycle_withProgram (hm : m.Faithful) (hsize : q.size = m.program.size)
    (hlabels : ∀ name, q.label? name = m.program.label? name) {n : Nat}
    (hlines : ∀ r ∈ m.visits n, q.lines[r.counter]? = m.program.lines[r.counter]?) :
    (m.forget.withProgram q).cycle n =
      Prod.map id (PlainMachine.withProgram q) (m.forget.cycle n) := by
  -- The visits are those of a machine that keeps its commands, so the induction is along its run;
  -- the runs compared are plain ones, as what is kept differs with the program.
  induction n generalizing m with
  | zero => rfl
  | succ n ih =>
    have hsize' : (m.forget.withProgram q).program.size ≤ (m.forget.withProgram q).counter ↔
        m.forget.program.size ≤ m.forget.counter := by
      show q.size ≤ m.counter ↔ m.program.size ≤ m.counter
      rw [hsize]
    by_cases hend : m.program.size ≤ m.counter
    · rw [PlainMachine.cycle_of_end (hsize'.mpr hend), PlainMachine.cycle_of_end hend,
        PlainMachine.finish_withProgram]
    · have hend' := mt hsize'.mp hend
      have hline : q.lines[m.counter]? = m.program.lines[m.counter]? :=
        hlines m (mem_visits_self hend)
      have hstep : m.forget.step = (m.step.1, m.step.2.forget) := (forget_step hm).symm
      have hstep' : (m.forget.withProgram q).step =
          (m.step.1, m.step.2.forget.withProgram q) := by
        rw [PlainMachine.step_withProgram hlabels hline, hstep]
        rfl
      cases hr : m.step.1 with
      | error cause =>
        rw [hr] at hstep hstep'
        rw [PlainMachine.cycle_of_error hend hstep, PlainMachine.cycle_of_error hend' hstep']
        rfl
      | ok t =>
        rw [hr] at hstep hstep'
        rw [visits_of_ok hend hr] at hlines
        rw [PlainMachine.cycle_of_ok hend hstep, PlainMachine.cycle_of_ok hend' hstep',
          ← PlainMachine.withProgram_goOn, ← forget_goOn]
        have hprogram : (m.step.2.goOn t).program = m.program := by simp
        apply ih (hm.step.congr (goOn_program ..) (goOn_kept ..))
        · rwa [hprogram]
        · rwa [hprogram]
        · rw [hprogram]
          exact (List.forall_mem_cons.mp hlines).2

/-- Two batches, of runs of two programs, end in the same way. -/
structure EndAlike (r s : Event × Machine) : Prop where
  event : s.1 = r.1
  counter : s.2.counter = r.2.counter
  state : s.2.state = r.2.state
  status : s.2.status = r.2.status

theorem endAlike_ofProgram {p : Program} {side n : Nat} (hsize : q.size = p.size)
    (hlabels : ∀ name, q.label? name = p.label? name)
    (hlines : ∀ r ∈ (ofProgram side p).visits n, q.lines[r.counter]? = p.lines[r.counter]?) :
    EndAlike ((ofProgram side p).execute n) ((ofProgram side q).execute n) := by
  have hfaithful : (ofProgram side p).Faithful := faithful_replicate rfl
  have hcycle : (ofProgram side q).forget.cycle n = Prod.map id (PlainMachine.withProgram q)
      ((ofProgram side p).forget.cycle n) := cycle_withProgram hfaithful hsize hlabels hlines
  rw [← forget_execute_ofProgram, ← forget_execute_ofProgram] at hcycle
  exact ⟨(congrArg (·.1) hcycle :), (congrArg (·.2.counter) hcycle :),
    (congrArg (·.2.state) hcycle :), (congrArg (·.2.status) hcycle :)⟩

/-- Programs of as many lines with the same labels have runs that end alike, as long as their lines
are the same wherever one of these runs comes. -/
theorem endAlike_of_ofLines {lines lines' : List Line} {p : Program}
    (hp : Program.ofLines lines = .ok p) (hq : Program.ofLines lines' = .ok q)
    (hlength : lines'.length = lines.length)
    (hlabels : ∀ (i : Nat) (key : List Char),
      (∃ l, lines'[i]? = some l ∧ l.Labels key) ↔ ∃ l, lines[i]? = some l ∧ l.Labels key)
    {side n : Nat}
    (hlines : ∀ r ∈ (ofProgram side p).visits n, lines'[r.counter]? = lines[r.counter]?) :
    EndAlike ((ofProgram side p).execute n) ((ofProgram side q).execute n) := by
  apply endAlike_ofProgram
  · simpa [Program.size, Program.lines_of_ofLines hp, Program.lines_of_ofLines hq] using hlength
  · intro name
    apply Option.ext
    intro i
    rw [Program.label?_ofLines hq, Program.label?_ofLines hp, hlabels]
  · simpa [Program.lines_of_ofLines hp, Program.lines_of_ofLines hq] using hlines

/-- Lines that a run does not visit do not matter. If two programs have as many lines and the same
labels on the same lines, and their lines are the same wherever the first one comes, then both end
alike. So any line that is no label, and were it one that cannot be read, can take the place of one
that is not visited: with it the lines are still a program, and its run ends as before. -/
theorem unvisited_lines_do_not_matter :
    (∀ (lines lines' : List Line) (p q : Program),
      Program.ofLines lines = .ok p → Program.ofLines lines' = .ok q →
      lines'.length = lines.length →
      (∀ (i : Nat) (key : List Char),
        (∃ l, lines'[i]? = some l ∧ l.Labels key) ↔ ∃ l, lines[i]? = some l ∧ l.Labels key) →
      ∀ side n, (∀ r ∈ (ofProgram side p).visits n, lines'[r.counter]? = lines[r.counter]?) →
        EndAlike ((ofProgram side p).execute n) ((ofProgram side q).execute n)) ∧
    ∀ (lines : List Line) (p : Program) (i : Nat) (old new : Line),
      Program.ofLines lines = .ok p → lines[i]? = some old →
      old.isLabel = false → new.isLabel = false →
      ∃ q, Program.ofLines (lines.set i new) = .ok q ∧
        ∀ side n, (∀ r ∈ (ofProgram side p).visits n, r.counter ≠ i) →
          EndAlike ((ofProgram side p).execute n) ((ofProgram side q).execute n) := by
  constructor
  · intro lines lines' p q hp hq hlength hlabels side n hlines
    exact endAlike_of_ofLines hp hq hlength hlabels hlines
  · intro lines p i old new hp hold ho hn
    obtain ⟨labels, hcollect, rfl⟩ := Program.exists_of_ofLines hp
    have hq : Program.ofLines (lines.set i new) = .ok ⟨(lines.set i new).toArray, labels⟩ := by
      rw [Program.ofLines, Program.collectLabels_set hold ho hn, hcollect]
      rfl
    refine ⟨_, hq, fun side n hvisits => ?_⟩
    apply endAlike_of_ofLines hp hq List.length_set
    · intro j key
      by_cases hj : j = i
      · subst hj
        have hlt : j < lines.length := (List.getElem?_eq_some_iff.mp hold).1
        simp [List.getElem?_set_self hlt, hold, Line.not_labels ho, Line.not_labels hn]
      · rw [List.getElem?_set_ne (Ne.symm hj)]
    · intro r hr
      rw [List.getElem?_set_ne (Ne.symm (hvisits r hr))]

/-- A run jumps over a label, which another case leaves as it is, and over a line that cannot be
read. -/
theorem unvisited_lines_do_not_matter_behind_jump :
    let lines : List Line :=
      ["Spawn(0, 0)", "GoTo [end]", "Loop:", "Fill", "end:"].map (⟨·.toList⟩)
    let lines' : List Line :=
      ["Spawn(0, 0)", "GoTo [end]", "LOOP:", "GoTo [nowhere] (", "end:"].map (⟨·.toList⟩)
    let unread : Line := ⟨"Fill(1, ".toList⟩
    ∃ p q u, (Program.ofLines lines = .ok p ∧ Program.ofLines lines' = .ok q ∧
        Program.ofLines (lines.set 3 unread) = .ok u) ∧
      ((ofProgram 5 p).visits 9).map (·.counter) = [0, 1, 4] ∧
      ((ofProgram 5 p).execute 9).1 = .stopped ∧
      EndAlike ((ofProgram 5 p).execute 9) ((ofProgram 5 q).execute 9) ∧
      EndAlike ((ofProgram 5 p).execute 9) ((ofProgram 5 u).execute 9) := by
  intro lines lines' unread
  have hruns : (Program.ofLines lines).map (fun p =>
      (((ofProgram 5 p).visits 9).map (·.counter), ((ofProgram 5 p).execute 9).1)) =
      .ok ([0, 1, 4], .stopped) := by decide +kernel
  have hload : (Program.ofLines lines').isOk = true := by decide +kernel
  have hold : Line.isLabel ⟨"Fill".toList⟩ = false := by decide +kernel
  have hnew : Line.isLabel ⟨"GoTo [nowhere] (".toList⟩ = false := by decide +kernel
  have hunread : unread.isLabel = false := by decide +kernel
  have hupper : Line.kind ⟨"LOOP:".toList⟩ = .label "LOOP".toList := by decide +kernel
  have hlower : Line.kind ⟨"Loop:".toList⟩ = .label "Loop".toList := by decide +kernel
  have hkey : Text.labelKey "LOOP".toList = Text.labelKey "Loop".toList := by decide +kernel
  have hlabels : ∀ (i : Nat) (key : List Char),
      (∃ l, lines'[i]? = some l ∧ l.Labels key) ↔ ∃ l, lines[i]? = some l ∧ l.Labels key := by
    intro i key
    rcases i with _ | _ | _ | _ | i
    · rfl
    · rfl
    · show (∃ l, some _ = some l ∧ _) ↔ ∃ l, some _ = some l ∧ _
      simp only [Option.some.injEq, exists_eq_left', Line.labels_iff hupper,
        Line.labels_iff hlower, hkey]
    · show (∃ l, some _ = some l ∧ _) ↔ ∃ l, some _ = some l ∧ _
      simp only [Option.some.injEq, exists_eq_left', Line.not_labels hold, Line.not_labels hnew]
    · rfl
  cases hp : Program.ofLines lines with
  | error f =>
    rw [hp] at hruns
    cases hruns
  | ok p =>
    cases hq : Program.ofLines lines' with
    | error f =>
      rw [hq] at hload
      cases hload
    | ok q =>
      rw [hp] at hruns
      have hvisited : ((ofProgram 5 p).visits 9).map (·.counter) = [0, 1, 4] :=
        congrArg Prod.fst (Except.ok.inj hruns)
      have hstopped : ((ofProgram 5 p).execute 9).1 = .stopped :=
        congrArg Prod.snd (Except.ok.inj hruns)
      have hcounters : ∀ r ∈ (ofProgram 5 p).visits 9, r.counter ∈ [0, 1, 4] := by
        intro r hr
        rw [← hvisited]
        exact List.mem_map_of_mem hr
      have hlines : ∀ r ∈ (ofProgram 5 p).visits 9, lines'[r.counter]? = lines[r.counter]? := by
        intro r hr
        have hmem := hcounters r hr
        simp only [List.mem_cons, List.not_mem_nil, or_false] at hmem
        rcases hmem with h | h | h <;> rw [h] <;> rfl
      obtain ⟨u, hu, halike⟩ :=
        unvisited_lines_do_not_matter.2 lines p 3 _ unread hp rfl hold hunread
      refine ⟨p, q, u, ⟨rfl, rfl, hu⟩, hvisited, hstopped, ?_, ?_⟩
      · exact unvisited_lines_do_not_matter.1 lines lines' p q hp hq rfl hlabels 5 9 hlines
      · refine halike 5 9 fun r hr h => ?_
        have hmem := hcounters r hr
        simp [h] at hmem

end Machine

end PaintRobot
