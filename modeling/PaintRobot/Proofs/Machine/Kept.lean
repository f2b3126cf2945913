import PaintRobot.Proofs.Machine.Calls

/-!
Kept commands. A machine makes the command of a line at the first visit and keeps it; a plain one
makes it anew at every visit. Nobody outside can tell them apart, since what is kept for a line is
always what the line would give again.
-/
namespace PaintRobot

/-- A machine that keeps no commands. -/
structure PlainMachine where
  program : Program := {}
  state : State
  counter : Nat := 0
  status : Status := .idle
  loaded : Bool := false

namespace PlainMachine

def new (side : Nat) : PlainMachine := { state := .start side }

def reset (m : PlainMachine) : PlainMachine :=
  { m with
    state := .start m.state.canvas.side
    counter := 0
    status := if m.loaded then .running else .idle }

def resize (m : PlainMachine) (side : Nat) : PlainMachine :=
  { m with state := .start side }.reset

def load (m : PlainMachine) (source : String) : Except Fault Unit × PlainMachine :=
  let side := m.state.canvas.side
  match Program.load source with
  | .ok p => (.ok (), { program := p, state := .start side, status := .running, loaded := true })
  | .error f => (.error f, new side)

def interrupt (m : PlainMachine) : PlainMachine :=
  if m.status = .running then { m with status := .interrupted } else m

def drain (m : PlainMachine) : List Point × PlainMachine :=
  let (points, canvas) := m.state.canvas.drain
  (points, { m with state := { m.state with canvas := canvas } })

/-- Reads, checks and runs the line at the counter. -/
def step (m : PlainMachine) : Except Cause Transfer × PlainMachine :=
  match m.program.lines[m.counter]? with
  | none => (.error .internal, m)
  | some l =>
    if l.kind = .code then
      match Command.ofLine m.program l with
      | .error cause => (.error cause, m)
      | .ok c =>
        match c.execute m.state with
        | .ok transfer s => (.ok transfer, { m with state := s })
        | .error cause s => (.error cause, { m with state := s })
    else (.ok .next, m)

def finish (m : PlainMachine) : Event × PlainMachine :=
  let m := { m with status := .idle }
  if m.state.cursor.spawned then (.stopped, m) else (.fault ⟨.neverSpawned, none⟩, m)

def goOn (m : PlainMachine) : Transfer → PlainMachine
  | .next => { m with counter := m.counter + 1 }
  | .jump target => { m with counter := target }

def cycle (m : PlainMachine) : Nat → Event × PlainMachine
  | 0 => (.running, m)
  | cycles + 1 =>
    if m.program.size ≤ m.counter then m.finish
    else
      match m.step with
      | (.ok transfer, next) => (next.goOn transfer).cycle cycles
      | (.error cause, next) =>
        (.fault ⟨cause, some (m.counter + 1)⟩, { next with status := .idle })

def execute (m : PlainMachine) (cycles : Nat) : Event × PlainMachine :=
  match m.status with
  | .idle => (.stopped, m)
  | .interrupted =>
    (.fault ⟨.interrupted, some (m.counter + 1)⟩, { m with status := .idle })
  | .running => m.cycle cycles

def call (m : PlainMachine) : Call → Answer × PlainMachine
  | .load source => Prod.map .loaded id (m.load source)
  | .execute cycles => Prod.map .ran id (m.execute cycles)
  | .reset => (.done, m.reset)
  | .resize side => (.done, m.resize side)
  | .interrupt => (.done, m.interrupt)
  | .drain => Prod.map .drained id m.drain

def calls (m : PlainMachine) : List Call → List Answer × PlainMachine
  | [] => ([], m)
  | c :: cs => Prod.map ((m.call c).1 :: ·) id ((m.call c).2.calls cs)

theorem cycle_of_end {m : PlainMachine} (h : m.program.size ≤ m.counter) (n : Nat) :
    m.cycle (n + 1) = m.finish := if_pos h

theorem cycle_of_ok {m next : PlainMachine} {t : Transfer} (h : ¬m.program.size ≤ m.counter)
    (ht : m.step = (.ok t, next)) (n : Nat) : m.cycle (n + 1) = (next.goOn t).cycle n := by
  rw [cycle, if_neg h, ht]

theorem cycle_of_error {m next : PlainMachine} {cause : Cause} (h : ¬m.program.size ≤ m.counter)
    (hc : m.step = (.error cause, next)) (n : Nat) : m.cycle (n + 1) =
      (.fault ⟨cause, some (m.counter + 1)⟩, { next with status := .idle }) := by
  rw [cycle, if_neg h, hc]

/-- A visit changes nothing but the state. -/
theorem step_frame (m : PlainMachine) : ∃ state, m.step.2 = { m with state := state } := by
  unfold step
  split
  · exact ⟨_, rfl⟩
  split
  · split
    · exact ⟨_, rfl⟩
    · rename_i c _
      cases c.execute m.state <;> exact ⟨_, rfl⟩
  · exact ⟨_, rfl⟩

theorem step_program (m : PlainMachine) : m.step.2.program = m.program := by
  obtain ⟨_, h⟩ := m.step_frame
  rw [h]

theorem step_counter (m : PlainMachine) : m.step.2.counter = m.counter := by
  obtain ⟨_, h⟩ := m.step_frame
  rw [h]

theorem goOn_program (m : PlainMachine) (t : Transfer) : (m.goOn t).program = m.program := by
  cases t <;> rfl

/-- A visit to the same line in another program, where its command may be another one too, as long as
it only goes on elsewhere. -/
theorem step_elsewhere {m : PlainMachine} {q : Program} {i : Nat} {f : Command → Command}
    {g : Transfer → Transfer} (hline : q.lines[i]? = m.program.lines[m.counter]?)
    (hcommand : ∀ l, Command.ofLine q l = (Command.ofLine m.program l).map f)
    (hgoOn : ∀ c s, (f c).execute s = EStateM.map g (Command.execute c) s)
    (hnext : g .next = .next) :
    PlainMachine.step { m with program := q, counter := i } =
      Prod.map (Except.map g) (fun n => { n with program := q, counter := i }) m.step := by
  simp only [step, hline]
  cases m.program.lines[m.counter]? with
  | none => rfl
  | some l =>
    simp only
    by_cases hcode : l.kind = .code
    · rw [if_pos hcode, if_pos hcode, hcommand]
      cases Command.ofLine m.program l with
      | error cause => rfl
      | ok c =>
        simp only [Except.map, hgoOn, EStateM.map]
        cases c.execute m.state <;> rfl
    · rw [if_neg hcode, if_neg hcode]
      simp [Except.map, hnext]

end PlainMachine

namespace Machine

/-- What is left of a machine without the commands it keeps. -/
def forget (m : Machine) : PlainMachine := ⟨m.program, m.state, m.counter, m.status, m.loaded⟩

/-- There is one place for every line, and what it holds is the command of the line, which is one of
code. -/
structure Faithful (m : Machine) : Prop where
  size : m.kept.size = m.program.size
  kept : ∀ (i : Nat) (c : Command), m.kept[i]? = some (some c) →
    ∃ l, m.program.lines[i]? = some l ∧ l.kind = .code ∧ Command.ofLine m.program l = .ok c

theorem Faithful.congr {m n : Machine} (h : m.Faithful) (hp : n.program = m.program)
    (hk : n.kept = m.kept) : n.Faithful := by
  constructor
  · rw [hk, hp, h.size]
  · rw [hk, hp]
    exact h.kept

theorem faithful_replicate {m : Machine} (h : m.kept = Array.replicate m.program.size none) :
    m.Faithful := by
  constructor
  · rw [h, Array.size_replicate]
  · intro i c hc
    rw [h, Array.getElem?_replicate] at hc
    split at hc <;> cases hc

/-- A machine that keeps the right commands finds for a line what a plain one does. -/
theorem Faithful.command_eq {m : Machine} (h : m.Faithful) {i : Nat} {l : Line}
    (hl : m.program.lines[i]? = some l) : m.command i l = Command.ofLine m.program l := by
  unfold command
  split
  · rename_i c hc
    obtain ⟨l', hl', -, hof⟩ := h.kept i c hc
    rw [hl] at hl'
    cases hl'
    exact hof.symm
  · rfl
  · rename_i hnone
    have hlt : i < m.program.size := (Array.getElem?_eq_some_iff.mp hl).1
    have hge : m.kept.size ≤ i := Array.getElem?_eq_none_iff.mp hnone
    rw [h.size] at hge
    omega

/-- Keeping the command of a line that has just been made. -/
theorem Faithful.keep {m : Machine} (h : m.Faithful) {l : Line} {c : Command}
    (hl : m.program.lines[m.counter]? = some l) (hcode : l.kind = .code)
    (hc : m.command m.counter l = .ok c) (s : State) :
    Faithful { m with kept := m.kept.setIfInBounds m.counter (some c), state := s } := by
  constructor
  · simpa using h.size
  · intro i d hd
    rw [Array.getElem?_setIfInBounds] at hd
    split at hd
    · rename_i hi
      subst hi
      split at hd
      · cases hd
        exact ⟨l, hl, hcode, (h.command_eq hl).symm.trans hc⟩
      · cases hd
    · exact h.kept i d hd

theorem Faithful.step {m : Machine} (h : m.Faithful) : m.step.2.Faithful := by
  have hv := m.visit_step
  generalize m.step = r at hv
  cases hv with
  | missing | skipped | rejected => exact h
  | failed hl hcode hc | done hl hcode hc => exact h.keep hl hcode hc _

theorem invariant_faithful : Invariant Faithful where
  new _ := faithful_replicate rfl
  load _ _ := faithful_replicate rfl
  resize _ h := h.congr rfl rfl
  interrupt h := h.congr (interrupt_program _) (interrupt_kept _)
  drain h := h.congr rfl rfl
  line h _ _ := h.step.congr (goOn_program ..) (goOn_kept ..)
  fault h _ _ := h.step.congr rfl rfl
  stop h := h.congr rfl rfl

/-! ### The same answers -/

theorem forget_step {m : Machine} (h : m.Faithful) :
    Prod.map id forget m.step = m.forget.step := by
  simp only [step, PlainMachine.step, forget]
  cases hl : m.program.lines[m.counter]? with
  | none => rfl
  | some l =>
    simp only
    by_cases hcode : l.kind = .code
    · rw [if_pos hcode, if_pos hcode, h.command_eq hl]
      cases Command.ofLine m.program l with
      | error cause => rfl
      | ok c =>
        simp only
        cases c.execute m.state <;> rfl
    · rw [if_neg hcode, if_neg hcode]
      rfl

theorem forget_goOn (m : Machine) (t : Transfer) : (m.goOn t).forget = m.forget.goOn t := by
  cases t <;> rfl

theorem forget_finish (m : Machine) : Prod.map id forget m.finish = m.forget.finish := by
  by_cases hs : m.state.cursor.spawned = true <;>
    simp [finish, PlainMachine.finish, forget, hs]

theorem forget_cycle {m : Machine} (h : m.Faithful) (n : Nat) :
    Prod.map id forget (m.cycle n) = m.forget.cycle n := by
  induction n generalizing m with
  | zero => rfl
  | succ n ih =>
    rw [cycle, PlainMachine.cycle]
    by_cases hend : m.program.size ≤ m.counter
    · rw [if_pos hend, forget_finish]
      exact (if_pos hend).symm
    · have hend' : ¬m.forget.program.size ≤ m.forget.counter := hend
      rw [if_neg hend, if_neg hend', ← forget_step h]
      have hfaithful := h.step
      generalize m.step = r at hfaithful
      obtain ⟨result, next⟩ := r
      cases result with
      | error cause => rfl
      | ok t =>
        have hnext : (next.goOn t).Faithful :=
          hfaithful.congr (goOn_program next t) (goOn_kept next t)
        show Prod.map id forget ((next.goOn t).cycle n) = (next.forget.goOn t).cycle n
        rw [ih hnext, forget_goOn]

theorem forget_execute {m : Machine} (h : m.Faithful) (n : Nat) :
    Prod.map id forget (m.execute n) = m.forget.execute n := by
  simp only [execute, PlainMachine.execute]
  have hstatus : m.forget.status = m.status := rfl
  rw [hstatus]
  cases m.status with
  | idle => rfl
  | interrupted => rfl
  | running => exact forget_cycle h n

/-- The run of a program, on a machine that keeps no commands. -/
theorem forget_execute_ofProgram (side : Nat) (p : Program) (n : Nat) :
    Prod.map id forget ((ofProgram side p).execute n) = (ofProgram side p).forget.cycle n :=
  forget_cycle (faithful_replicate rfl) n

theorem forget_call {m : Machine} (h : m.Faithful) (c : Call) :
    Prod.map id forget (m.call c) = m.forget.call c := by
  cases c with
  | load source =>
    simp only [call, PlainMachine.call, load, PlainMachine.load]
    cases Program.load source <;> rfl
  | execute n =>
    simp only [call, PlainMachine.call, ← forget_execute h]
    rfl
  | reset => rfl
  | resize side => rfl
  | interrupt =>
    by_cases hr : m.status = .running <;>
      simp [call, PlainMachine.call, interrupt, PlainMachine.interrupt, forget, hr]
  | drain => rfl

/-- A faithful machine answers all calls to come as a plain one does. -/
theorem forget_calls {m : Machine} (h : m.Faithful) (cs : List Call) :
    Prod.map id forget (m.calls cs) = m.forget.calls cs := by
  induction cs generalizing m with
  | nil => rfl
  | cons c cs ih =>
    have hnext : (m.call c).2.Faithful := invariant_faithful.call h c
    have hrest := ih hnext
    rw [PlainMachine.calls, ← forget_call h c]
    show Prod.map id forget (Prod.map _ id ((m.call c).2.calls cs)) =
      Prod.map _ id ((m.call c).2.forget.calls cs)
    rw [← hrest]
    rfl

/-- Keeping commands cannot be noticed: a machine that calls lead to is faithful, and a batch of
lines ends as it does on a plain machine that has had the same calls. -/
theorem execute_eq_plain (side : Nat) (cs : List Call) :
    ((new side).calls cs).2.Faithful ∧ ∀ n,
      Prod.map id forget (((new side).calls cs).2.execute n) =
        ((PlainMachine.new side).calls cs).2.execute n := by
  have hfaithful := invariant_faithful.of_reachable ((Reachable.new side).calls cs)
  have hcalls : Prod.map id forget ((new side).calls cs) = (PlainMachine.new side).calls cs :=
    forget_calls (invariant_faithful.new side) cs
  constructor
  · exact hfaithful
  · intro n
    rw [forget_execute hfaithful, ← hcalls]
    rfl

end Machine

end PaintRobot
