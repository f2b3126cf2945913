import PaintRobot.Machine

/-!
What a host can do with a machine, and what a visit to a line can do. All that ever happens to a
machine comes down to a few changes, so that what these preserve holds of every machine that calls
can lead to.
-/
namespace PaintRobot

inductive Call where
  | load (source : String)
  | execute (cycles : Nat)
  | reset
  | resize (side : Nat)
  | interrupt
  | drain

/-- What a call tells the host. -/
inductive Answer where
  | loaded (result : Except Fault Unit)
  | ran (event : Event)
  | drained (points : List Point)
  | done

namespace Machine

def call (m : Machine) : Call → Answer × Machine
  | .load source => Prod.map .loaded id (m.load source)
  | .execute cycles => Prod.map .ran id (m.execute cycles)
  | .reset => (.done, m.reset)
  | .resize side => (.done, m.resize side)
  | .interrupt => (.done, m.interrupt)
  | .drain => Prod.map .drained id m.drain

/-- Calls one after the other, with their answers. -/
def calls (m : Machine) : List Call → List Answer × Machine
  | [] => ([], m)
  | c :: cs => Prod.map ((m.call c).1 :: ·) id ((m.call c).2.calls cs)

theorem calls_append (m : Machine) (cs more : List Call) :
    (m.calls (cs ++ more)).2 = ((m.calls cs).2.calls more).2 := by
  induction cs generalizing m with
  | nil => rfl
  | cons c cs ih => exact ih (m.call c).2

/-- The machines that calls lead to, from machines without a program. -/
inductive Reachable : Machine → Prop where
  | new (side : Nat) : Reachable (.new side)
  | call {m : Machine} (h : Reachable m) (c : Call) : Reachable (m.call c).2

theorem Reachable.calls {m : Machine} (h : Reachable m) (cs : List Call) :
    Reachable (m.calls cs).2 := by
  induction cs generalizing m with
  | nil => exact h
  | cons c cs ih => exact ih (h.call c)

/-! ### Visits -/

/-- What a visit to the line at the counter can come to. -/
inductive Visit (m : Machine) : Except Cause Transfer × Machine → Prop where
  | missing (h : m.program.lines[m.counter]? = none) : Visit m (.error .internal, m)
  | skipped {l : Line} (h : m.program.lines[m.counter]? = some l) (hl : l.kind ≠ .code) :
      Visit m (.ok .next, m)
  | rejected {l : Line} {cause : Cause} (h : m.program.lines[m.counter]? = some l)
      (hl : l.kind = .code) (hc : m.command m.counter l = .error cause) :
      Visit m (.error cause, m)
  | failed {l : Line} {c : Command} {cause : Cause} {s : State}
      (h : m.program.lines[m.counter]? = some l) (hl : l.kind = .code)
      (hc : m.command m.counter l = .ok c) (he : c.execute m.state = .error cause s) :
      Visit m (.error cause,
        { m with kept := m.kept.setIfInBounds m.counter (some c), state := s })
  | done {l : Line} {c : Command} {transfer : Transfer} {s : State}
      (h : m.program.lines[m.counter]? = some l) (hl : l.kind = .code)
      (hc : m.command m.counter l = .ok c) (he : c.execute m.state = .ok transfer s) :
      Visit m (.ok transfer,
        { m with kept := m.kept.setIfInBounds m.counter (some c), state := s })

theorem visit_step (m : Machine) : Visit m m.step := by
  unfold step
  split
  · exact .missing ‹_›
  · rename_i l h
    split
    · rename_i hl
      split
      · exact .rejected h hl ‹_›
      · rename_i c hc
        simp only
        split
        · exact .done h hl hc ‹_›
        · exact .failed h hl hc ‹_›
    · exact .skipped h ‹_›

/-- A visit changes nothing but the state and the kept commands. -/
theorem step_frame (m : Machine) :
    ∃ kept state, m.step.2 = { m with kept := kept, state := state } := by
  have h := m.visit_step
  generalize m.step = r at h
  cases h <;> exact ⟨_, _, rfl⟩

@[simp] theorem step_status (m : Machine) : m.step.2.status = m.status := by
  obtain ⟨_, _, h⟩ := m.step_frame
  rw [h]

@[simp] theorem step_program (m : Machine) : m.step.2.program = m.program := by
  obtain ⟨_, _, h⟩ := m.step_frame
  rw [h]

@[simp] theorem step_counter (m : Machine) : m.step.2.counter = m.counter := by
  obtain ⟨_, _, h⟩ := m.step_frame
  rw [h]

@[simp] theorem step_loaded (m : Machine) : m.step.2.loaded = m.loaded := by
  obtain ⟨_, _, h⟩ := m.step_frame
  rw [h]

@[simp] theorem goOn_status (m : Machine) (t : Transfer) : (m.goOn t).status = m.status := by
  cases t <;> rfl

@[simp] theorem goOn_program (m : Machine) (t : Transfer) : (m.goOn t).program = m.program := by
  cases t <;> rfl

@[simp] theorem goOn_kept (m : Machine) (t : Transfer) : (m.goOn t).kept = m.kept := by
  cases t <;> rfl

@[simp] theorem goOn_state (m : Machine) (t : Transfer) : (m.goOn t).state = m.state := by
  cases t <;> rfl

@[simp] theorem goOn_loaded (m : Machine) (t : Transfer) : (m.goOn t).loaded = m.loaded := by
  cases t <;> rfl

/-- To break a run off changes nothing but the status. -/
theorem interrupt_eq (m : Machine) : m.interrupt = m ∨
    m.status = .running ∧ m.interrupt = { m with status := .interrupted } := by
  unfold interrupt
  split
  · exact .inr ⟨‹_›, rfl⟩
  · exact .inl rfl

@[simp] theorem interrupt_state (m : Machine) : m.interrupt.state = m.state := by
  rcases m.interrupt_eq with h | ⟨-, h⟩ <;> rw [h]

@[simp] theorem interrupt_program (m : Machine) : m.interrupt.program = m.program := by
  rcases m.interrupt_eq with h | ⟨-, h⟩ <;> rw [h]

@[simp] theorem interrupt_kept (m : Machine) : m.interrupt.kept = m.kept := by
  rcases m.interrupt_eq with h | ⟨-, h⟩ <;> rw [h]

@[simp] theorem interrupt_counter (m : Machine) : m.interrupt.counter = m.counter := by
  rcases m.interrupt_eq with h | ⟨-, h⟩ <;> rw [h]

@[simp] theorem interrupt_loaded (m : Machine) : m.interrupt.loaded = m.loaded := by
  rcases m.interrupt_eq with h | ⟨-, h⟩ <;> rw [h]

/-! ### Cycles -/

theorem cycle_of_end {m : Machine} (h : m.program.size ≤ m.counter) (n : Nat) :
    m.cycle (n + 1) = m.finish := if_pos h

theorem cycle_of_ok {m : Machine} {t : Transfer} (h : ¬m.program.size ≤ m.counter)
    (ht : m.step.1 = .ok t) (n : Nat) : m.cycle (n + 1) = (m.step.2.goOn t).cycle n := by
  rw [cycle, if_neg h]
  generalize m.step = r at ht
  obtain ⟨_, next⟩ := r
  cases ht
  rfl

theorem cycle_of_error {m : Machine} {cause : Cause} (h : ¬m.program.size ≤ m.counter)
    (hc : m.step.1 = .error cause) (n : Nat) : m.cycle (n + 1) =
      (.fault ⟨cause, some (m.counter + 1)⟩, { m.step.2 with status := .idle }) := by
  rw [cycle, if_neg h]
  generalize m.step = r at hc
  obtain ⟨_, next⟩ := r
  cases hc
  rfl

theorem finish_snd (m : Machine) : m.finish.2 = { m with status := .idle } := by
  unfold finish
  simp only
  split <;> rfl

/-- What a visit to a line and the end of a run preserve. -/
structure RunInvariant (P : Machine → Prop) : Prop where
  line {m : Machine} {t : Transfer} (h : P m) (hlt : m.counter < m.program.size)
    (ht : m.step.1 = .ok t) : P (m.step.2.goOn t)
  fault {m : Machine} {cause : Cause} (h : P m) (hlt : m.counter < m.program.size)
    (hc : m.step.1 = .error cause) : P { m.step.2 with status := .idle }
  stop {m : Machine} (h : P m) : P { m with status := .idle }

variable {P : Machine → Prop}

theorem RunInvariant.cycle (hP : RunInvariant P) {m : Machine} (h : P m) (n : Nat) :
    P (m.cycle n).2 := by
  induction n generalizing m with
  | zero => exact h
  | succ n ih =>
    by_cases hend : m.program.size ≤ m.counter
    · rw [cycle_of_end hend, finish_snd]
      exact hP.stop h
    · have hlt : m.counter < m.program.size := Nat.lt_of_not_le hend
      cases hr : m.step.1 with
      | ok t =>
        rw [cycle_of_ok hend hr]
        exact ih (hP.line h hlt hr)
      | error cause =>
        rw [cycle_of_error hend hr]
        exact hP.fault h hlt hr

theorem RunInvariant.execute (hP : RunInvariant P) {m : Machine} (h : P m) (n : Nat) :
    P (m.execute n).2 := by
  unfold Machine.execute
  split
  · exact h
  · exact hP.stop h
  · exact hP.cycle h n

/-- A batch leaves the program alone. -/
theorem execute_program (m : Machine) (n : Nat) :
    (m.execute n).2.program = m.program ∧ (m.execute n).2.loaded = m.loaded := by
  have hP : RunInvariant fun next => next.program = m.program ∧ next.loaded = m.loaded :=
    { line := fun h _ _ => by simpa using h
      fault := fun h _ _ => by simpa using h
      stop := id }
  exact hP.execute ⟨rfl, rfl⟩ n

/-- What every change to a machine preserves. -/
structure Invariant (P : Machine → Prop) : Prop where
  new (side : Nat) : P (.new side)
  load {source : String} {p : Program} (side : Nat) (h : Program.load source = .ok p) :
    P (.ofProgram side p)
  resize {m : Machine} (side : Nat) (h : P m) : P (m.resize side)
  interrupt {m : Machine} (h : P m) : P m.interrupt
  drain {m : Machine} (h : P m) : P m.drain.2
  line {m : Machine} {t : Transfer} (h : P m) (hlt : m.counter < m.program.size)
    (ht : m.step.1 = .ok t) : P (m.step.2.goOn t)
  fault {m : Machine} {cause : Cause} (h : P m) (hlt : m.counter < m.program.size)
    (hc : m.step.1 = .error cause) : P { m.step.2 with status := .idle }
  stop {m : Machine} (h : P m) : P { m with status := .idle }

theorem Invariant.and {Q : Machine → Prop} (hP : Invariant P) (hQ : Invariant Q) :
    Invariant fun m => P m ∧ Q m where
  new side := ⟨hP.new side, hQ.new side⟩
  load side h := ⟨hP.load side h, hQ.load side h⟩
  resize side h := ⟨hP.resize side h.1, hQ.resize side h.2⟩
  interrupt h := ⟨hP.interrupt h.1, hQ.interrupt h.2⟩
  drain h := ⟨hP.drain h.1, hQ.drain h.2⟩
  line h hlt ht := ⟨hP.line h.1 hlt ht, hQ.line h.2 hlt ht⟩
  fault h hlt hc := ⟨hP.fault h.1 hlt hc, hQ.fault h.2 hlt hc⟩
  stop h := ⟨hP.stop h.1, hQ.stop h.2⟩

theorem Invariant.run (hP : Invariant P) : RunInvariant P where
  line := hP.line
  fault := hP.fault
  stop := hP.stop

theorem Invariant.call (hP : Invariant P) {m : Machine} (h : P m) (c : Call) :
    P (m.call c).2 := by
  cases c with
  | load source =>
    simp only [Machine.call, Machine.load]
    split
    · exact hP.load _ ‹_›
    · exact hP.new _
  | execute n => exact hP.run.execute h n
  | reset => exact hP.resize m.state.canvas.side h
  | resize side => exact hP.resize side h
  | interrupt => exact hP.interrupt h
  | drain => exact hP.drain h

/-- An invariant holds of every machine that calls lead to. -/
theorem Invariant.of_reachable (hP : Invariant P) {m : Machine} (h : Reachable m) : P m := by
  induction h with
  | new side => exact hP.new side
  | call _ c ih => exact hP.call ih c

end Machine

end PaintRobot
