import PaintRobot.Proofs.Machine.Batches
import PaintRobot.Proofs.Machine.Soundness

/-!
Programs that only jump forward. Every visit that succeeds takes the counter further down, by one line
or along a jump, so a run comes to an end after as many lines as the program has, whatever its
conditions say.
-/
namespace PaintRobot

namespace Program

/-- The line to which a line jumps, if it is a jump to a label that there is. -/
def jumpTarget? (p : Program) (l : Line) : Option Nat :=
  match l.statement with
  | .ok (.goTo label _) => p.label? label
  | _ => none

/-- All jumps of the program lead to later lines. -/
def JumpsForward (p : Program) : Prop :=
  ∀ i (_ : i < p.lines.size), ∀ target ∈ p.jumpTarget? p.lines[i], i < target

instance (p : Program) : Decidable p.JumpsForward := inferInstanceAs (Decidable (∀ _, _))

theorem size_of_load {source : String} {p : Program} (h : load source = .ok p) :
    p.size = (Line.split source.toList).length := by
  rw [size, lines_of_ofLines h, List.size_toArray, List.length_map]

theorem jumpTarget?_of_ofLine {p : Program} {l : Line} {target : Nat} {condition : Expr}
    (h : Command.ofLine p l = .ok (.goTo target condition)) : p.jumpTarget? l = some target := by
  obtain ⟨label, hstatement, hlabel⟩ := Command.exists_goTo_of_ofLine h
  rw [jumpTarget?, hstatement]
  exact hlabel

end Program

namespace Machine

variable {m : Machine} {t : Transfer}

/-- A visit that succeeds takes the counter to a later line. -/
theorem counter_lt_of_step (hm : m.Faithful) (hp : m.program.JumpsForward)
    (ht : m.step.1 = .ok t) : m.counter < (m.step.2.goOn t).counter := by
  cases t with
  | next =>
    show m.counter < m.step.2.counter + 1
    rw [step_counter]
    exact Nat.lt_succ_self _
  | jump target =>
    rcases exists_effect_of_step ht with ⟨hnext, -⟩ | ⟨l, c, hl, hc, he⟩
    · cases hnext
    · obtain ⟨condition, rfl⟩ := he.eq_goTo_of_jump
      rw [hm.command_eq hl] at hc
      obtain ⟨hlt, rfl⟩ := Array.getElem?_eq_some_iff.mp hl
      exact hp m.counter hlt target (Program.jumpTarget?_of_ofLine hc)

/-- More cycles than there are lines ahead do not leave more to run. -/
theorem cycle_ne_running {n : Nat} (hm : m.Faithful) (hp : m.program.JumpsForward)
    (hn : m.program.size - m.counter < n) : (m.cycle n).1 ≠ .running := by
  -- The lines ahead of the counter are the measure; the hypothesis of the induction is about the
  -- machine after one visit.
  induction n generalizing m with
  | zero => exact absurd hn (Nat.not_lt_zero _)
  | succ n ih =>
    by_cases hend : m.program.size ≤ m.counter
    · rw [cycle_of_end hend]
      exact m.finish_fst_ne
    · cases hr : m.step.1 with
      | error cause =>
        rw [cycle_of_error hend hr]
        nofun
      | ok t =>
        have hlater := counter_lt_of_step hm hp hr
        have hprogram : (m.step.2.goOn t).program = m.program := by simp
        rw [cycle_of_ok hend hr]
        apply ih (hm.step.congr (goOn_program ..) (goOn_kept ..))
        · rwa [hprogram]
        · rw [hprogram]
          omega

/-- A source whose jumps all lead to later lines ends within its length: one cycle for each of its
lines and one to notice the end leave nothing to run, on any canvas and whatever values its
expressions take. -/
theorem forward_program_ends {source : String} {p : Program} (hload : Program.load source = .ok p)
    (hforward : p.JumpsForward) (m : Machine) :
    let r := (m.load source).2.execute ((Line.split source.toList).length + 1)
    r.1 = .stopped ∨ ∃ f, r.1 = .fault f := by
  have hmachine : (m.load source).2 = ofProgram m.state.canvas.side p := by
    simp only [load, hload]
  rw [← Program.size_of_load hload, hmachine, execute_of_running rfl]
  have hends : ((ofProgram m.state.canvas.side p).cycle (p.size + 1)).1 ≠ .running :=
    cycle_ne_running (faithful_replicate rfl) hforward (Nat.lt_succ_self _)
  cases hevent : ((ofProgram m.state.canvas.side p).cycle (p.size + 1)).1 with
  | running => exact absurd hevent hends
  | stopped => exact .inl hevent
  | fault f => exact .inr ⟨f, hevent⟩

/-- Two jumps to one label, behind a blank line and over a command, the first of them not taken. -/
theorem forward_program_ends_over_command :
    let source := "x <- 2\nGoTo [end] (x == 1)\n\nSpawn(1, 1)\nGoTo [END] (x == 2)\nFill\nEnd:"
    let r := ((new 4).load source).2.execute 8
    ∃ p, (Program.load source = .ok p ∧ p.JumpsForward) ∧
      p.lines.toList.map p.jumpTarget? = [none, some 6, none, none, some 6, none, none] ∧
      (r.1 = .stopped ∨ ∃ f, r.1 = .fault f) := by
  intro source r
  have hread : (Program.load source).map (fun p => (decide p.JumpsForward,
      p.lines.toList.map p.jumpTarget?)) =
        .ok (true, [none, some 6, none, none, some 6, none, none]) := by decide +kernel
  have hlines : (Line.split source.toList).length = 7 := by decide +kernel
  cases hload : Program.load source with
  | error f =>
    rw [hload] at hread
    cases hread
  | ok p =>
    rw [hload] at hread
    simp only [Except.map, Except.ok.injEq, Prod.mk.injEq, decide_eq_true_eq] at hread
    obtain ⟨hforward, htargets⟩ := hread
    have hends := forward_program_ends hload hforward (new 4)
    rw [hlines] at hends
    exact ⟨p, ⟨rfl, hforward⟩, htargets, hends⟩

end Machine

end PaintRobot
