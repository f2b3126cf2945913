import PaintRobot.Proofs.Command.Noting
import PaintRobot.Proofs.Machine.Calls

/-!
Machines do not look at what is noted as modified either: a batch of lines ends in the same way with
more cells noted, and leaves them noted.
-/
namespace PaintRobot.Machine

/-- Notes some points as modified. -/
def note (m : Machine) (points : List Point) : Machine :=
  { m with state := m.state.note points }

@[simp] theorem note_program (m : Machine) (points : List Point) :
    (m.note points).program = m.program := rfl

@[simp] theorem note_counter (m : Machine) (points : List Point) :
    (m.note points).counter = m.counter := rfl

@[simp] theorem note_status (m : Machine) (points : List Point) :
    (m.note points).status = m.status := rfl

@[simp] theorem note_nil (m : Machine) : m.note [] = m := by
  simp only [note, State.note, Canvas.note_nil]

theorem note_drain (m : Machine) : m.drain.2.note m.drain.1 = m :=
  congrArg (fun canvas => { m with state := { m.state with canvas := canvas } })
    m.state.canvas.note_drain

theorem note_append (m : Machine) (points more : List Point) :
    m.note (points ++ more) = (m.note points).note more := by
  simp only [note, State.note, Canvas.note_append]

theorem note_congr (m : Machine) {points more : List Point} (h : ∀ p, p ∈ points ↔ p ∈ more) :
    m.note points = m.note more := by
  simp only [note, State.note, m.state.canvas.note_congr h]

theorem command_note (m : Machine) (points : List Point) (i : Nat) (l : Line) :
    (m.note points).command i l = m.command i l := rfl

theorem step_note (m : Machine) (points : List Point) :
    (m.note points).step = Prod.map id (·.note points) m.step := by
  simp only [step, note_program, note_counter, command_note]
  cases m.program.lines[m.counter]? with
  | none => rfl
  | some l =>
    simp only
    by_cases hcode : l.kind = .code
    · rw [if_pos hcode, if_pos hcode]
      cases m.command m.counter l with
      | error cause => rfl
      | ok c =>
        have hexecute := c.execute_note m.state points
        simp only [note, hexecute]
        cases c.execute m.state <;> rfl
    · rw [if_neg hcode, if_neg hcode]
      rfl

theorem goOn_note (m : Machine) (points : List Point) (t : Transfer) :
    (m.note points).goOn t = (m.goOn t).note points := by
  cases t <;> rfl

theorem finish_note (m : Machine) (points : List Point) :
    (m.note points).finish = Prod.map id (·.note points) m.finish := by
  by_cases hs : m.state.cursor.spawned = true <;> simp [finish, note, State.note, hs]

theorem cycle_note (m : Machine) (points : List Point) (n : Nat) :
    (m.note points).cycle n = Prod.map id (·.note points) (m.cycle n) := by
  induction n generalizing m with
  | zero => rfl
  | succ n ih =>
    by_cases hend : m.program.size ≤ m.counter
    · have hend' : (m.note points).program.size ≤ (m.note points).counter := hend
      rw [cycle_of_end hend, cycle_of_end hend', finish_note]
    · have hend' : ¬(m.note points).program.size ≤ (m.note points).counter := hend
      have hstep := m.step_note points
      cases hr : m.step.1 with
      | ok t =>
        have hr' : (m.note points).step.1 = .ok t := by rw [hstep, Prod.map_fst, hr, id]
        rw [cycle_of_ok hend hr, cycle_of_ok hend' hr', hstep, ← ih, ← goOn_note]
        rfl
      | error cause =>
        have hr' : (m.note points).step.1 = .error cause := by rw [hstep, Prod.map_fst, hr, id]
        rw [cycle_of_error hend hr, cycle_of_error hend' hr', hstep]
        rfl

theorem execute_note (m : Machine) (points : List Point) (n : Nat) :
    (m.note points).execute n = Prod.map id (·.note points) (m.execute n) := by
  simp only [execute, note_status]
  cases m.status with
  | idle => rfl
  | interrupted => rfl
  | running => exact m.cycle_note points n

theorem interrupt_note (m : Machine) (points : List Point) :
    (m.note points).interrupt = m.interrupt.note points := by
  by_cases hr : m.status = .running <;> simp [interrupt, note, hr]

end PaintRobot.Machine
