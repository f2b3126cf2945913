import PaintRobot.Proofs.Command.Failures
import PaintRobot.Proofs.Machine.Batches

/-!
Lines that fail. A fault is noticed before anything has changed, so the state is still the one in
front of the line, and the counter still stands there: its line is the one that the fault names.
-/
namespace PaintRobot.Machine

theorem isRunning_iff {m : Machine} : m.isRunning = true ↔ m.status = .running := beq_iff_eq

/-- A visit that fails changes nothing but the kept commands. -/
theorem exists_step_eq_of_error {m : Machine} {cause : Cause} (h : m.step.1 = .error cause) :
    ∃ kept, m.step.2 = { m with kept := kept } := by
  have hv := m.visit_step
  generalize m.step = r at h hv
  cases hv with
  | missing | rejected => exact ⟨m.kept, rfl⟩
  | skipped | done => cases h
  | failed _ _ _ he =>
    obtain ⟨rfl, -⟩ := Command.failsEarly_execute _ _ _ _ he
    exact ⟨_, rfl⟩

/-- In front of the end of its program a machine faults only by the visit to its line. -/
theorem exists_cause_of_cycle_one {m m' : Machine} {f : Fault} (hlt : m.counter < m.program.size)
    (h : m.cycle 1 = (.fault f, m')) :
    ∃ cause, m.step.1 = .error cause ∧ f = ⟨cause, some (m.counter + 1)⟩ ∧
      m' = { m.step.2 with status := .idle } := by
  have hgoOn : ¬m.program.size ≤ m.counter := Nat.not_le_of_lt hlt
  cases hr : m.step.1 with
  | ok t =>
    rw [cycle_of_ok hgoOn hr] at h
    cases h
  | error cause =>
    rw [cycle_of_error hgoOn hr] at h
    cases h
    exact ⟨cause, rfl, rfl, rfl⟩

/-- A line that fails changes nothing: a command leaves the state as it was, and so does the
machine, which stops in front of the line. The visit gives a bare cause; the machine adds the line
to it. -/
theorem failing_line_changes_nothing :
    (∀ (c : Command) (s s' : State) (cause : Cause),
      c.execute s = .error cause s' → s' = s) ∧
    ∀ (m m' : Machine) (f : Fault), m.isRunning = true → m.counter < m.program.size →
      m.execute 1 = (.fault f, m') →
        m'.state = m.state ∧ m'.counter = m.counter ∧ m'.isRunning = false ∧
          ∃ cause, m.step.1 = .error cause ∧ f = ⟨cause, some (m.counter + 1)⟩ := by
  constructor
  · exact fun c s s' cause h => (c.failsEarly_execute s s' cause h).1
  · intro m m' f hrun hlt h
    rw [execute_of_running (isRunning_iff.mp hrun)] at h
    obtain ⟨cause, hcause, hf, rfl⟩ := exists_cause_of_cycle_one hlt h
    obtain ⟨kept, hstep⟩ := exists_step_eq_of_error hcause
    rw [hstep]
    exact ⟨rfl, rfl, rfl, cause, hcause, hf⟩

/-- A rectangle that would overhang the canvas, on its own and as the third line of a program. -/
theorem failing_line_changes_nothing_overhanging_rectangle :
    let c : Command := .drawRectangle (.int 0) (.int 0) (.int 0) (.int 9) (.int 3)
    let s : State := ⟨.blank 5, ⟨true, ⟨3, 3⟩⟩, ⟨.red, 1⟩, {}⟩
    let source := "Spawn(3, 3)\nColor(\"Red\")\nDrawRectangle(0, 0, 0, 9, 3)"
    let m := (((new 5).load source).2.execute 2).2
    let m' := (m.execute 1).2
    (∃ s', c.execute s = .error (.outside (-1) 2) s' ∧ s' = s) ∧
    (m.isRunning = true ∧ m.counter < m.program.size ∧
      m.execute 1 = (.fault ⟨.outside (-1) 2, some 3⟩, m')) ∧
    m'.state = m.state ∧ m'.counter = m.counter ∧ m'.isRunning = false := by
  intro c s source m m'
  obtain ⟨s', hfails⟩ : ∃ s', c.execute s = .error (.outside (-1) 2) s' := ⟨_, rfl⟩
  have hrun : m.isRunning = true := by decide +kernel
  have hlt : m.counter < m.program.size := by decide +kernel
  have hevent : (m.execute 1).1 = .fault ⟨.outside (-1) 2, some 3⟩ := by decide +kernel
  have hfault : m.execute 1 = (.fault ⟨.outside (-1) 2, some 3⟩, m') := Prod.ext hevent rfl
  obtain ⟨hstate, hcounter, hstopped, _⟩ :=
    failing_line_changes_nothing.2 m m' _ hrun hlt hfault
  exact ⟨⟨s', hfails, failing_line_changes_nothing.1 c s s' _ hfails⟩, ⟨hrun, hlt, hfault⟩,
    hstate, hcounter, hstopped⟩

end PaintRobot.Machine
