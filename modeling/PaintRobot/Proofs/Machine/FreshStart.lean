import PaintRobot.Proofs.Machine.Kept

/-!
Fresh starts. Whatever a machine has been through, after a load, a reset or a resize it cannot be
told from a new machine: all that is left of its past are commands that it would make again anyway.
-/
namespace PaintRobot

/-- What a host can see of a machine. -/
structure View where
  program : Program
  state : State
  counter : Nat
  isRunning : Bool

/-- The source that is loaded after a call, if `before` was loaded until then. -/
def Call.loadedAfter (before : Option String) : Call → Option String
  | load source => if (Program.load source).isOk then some source else none
  | _ => before

/-- The source that is loaded after some calls to a new machine. -/
def loadedAfter (history : List Call) : Option String :=
  history.foldl Call.loadedAfter none

namespace Machine

variable {m n : Machine}

def view (m : Machine) : View := ⟨m.program, m.state, m.counter, m.isRunning⟩

/-- Whether two machines cannot be told apart: whatever calls are made to both, the answers are the
same, and so is what is to be seen afterwards. -/
def Alike (m n : Machine) : Prop :=
  ∀ cs : List Call, (m.calls cs).1 = (n.calls cs).1 ∧ (m.calls cs).2.view = (n.calls cs).2.view

/-- A new machine, with a source loaded if there is one. -/
def start (loaded : Option String) (side : Nat) : Machine :=
  match loaded with
  | some source => ((new side).load source).2
  | none => new side

theorem view_eq_of_forget_eq (h : m.forget = n.forget) : m.view = n.view := by
  obtain ⟨hprogram, hstate, hcounter, hstatus, -⟩ := PlainMachine.mk.inj h
  simp only [view, isRunning, hprogram, hstate, hcounter, hstatus]

/-- Faithful machines that differ in what they keep at most cannot be told apart. -/
theorem alike_of_forget_eq (hm : m.Faithful) (hn : n.Faithful) (h : m.forget = n.forget) :
    Alike m n := by
  intro cs
  have hcalls : Prod.map id forget (m.calls cs) = Prod.map id forget (n.calls cs) := by
    rw [forget_calls hm, forget_calls hn, h]
  obtain ⟨hanswers, hforget⟩ := Prod.mk.inj hcalls
  exact ⟨hanswers, view_eq_of_forget_eq hforget⟩

/-! ### What is loaded -/

/-- The machine has the program of this source, or none. -/
def HasLoaded (m : Machine) : Option String → Prop
  | some source => m.loaded = true ∧ Program.load source = .ok m.program
  | none => m.loaded = false ∧ m.program = {}

theorem HasLoaded.congr {loaded : Option String} (h : m.HasLoaded loaded)
    (hp : n.program = m.program) (hl : n.loaded = m.loaded) : n.HasLoaded loaded := by
  cases loaded <;> simpa only [HasLoaded, hp, hl] using h

theorem hasLoaded_call {before : Option String} (h : m.HasLoaded before) (c : Call) :
    (m.call c).2.HasLoaded (c.loadedAfter before) := by
  cases c with
  | load source =>
    simp only [call, load, Call.loadedAfter]
    cases hload : Program.load source with
    | ok p => exact ⟨rfl, hload⟩
    | error f => exact ⟨rfl, rfl⟩
  | execute k => exact h.congr (m.execute_program k).1 (m.execute_program k).2
  | interrupt => exact h.congr m.interrupt_program m.interrupt_loaded
  | reset | resize | drain => exact h.congr rfl rfl

theorem hasLoaded_calls {before : Option String} (h : m.HasLoaded before) (cs : List Call) :
    (m.calls cs).2.HasLoaded (cs.foldl Call.loadedAfter before) := by
  induction cs generalizing m before with
  | nil => exact h
  | cons c cs ih => exact ih (hasLoaded_call h c)

/-! ### Starting again -/

theorem faithful_start (loaded : Option String) (side : Nat) : (start loaded side).Faithful := by
  cases loaded with
  | none => exact invariant_faithful.new side
  | some source => exact invariant_faithful.call (invariant_faithful.new side) (.load source)

/-- But for what it keeps, a machine set to a side again is a new one with its source loaded. -/
theorem forget_resize {loaded : Option String} (h : m.HasLoaded loaded) (side : Nat) :
    (m.resize side).forget = (start loaded side).forget := by
  cases loaded with
  | none =>
    obtain ⟨hloaded, hprogram⟩ := h
    simp only [resize, reset, forget, hloaded, hprogram]
    rfl
  | some source =>
    obtain ⟨hloaded, hsource⟩ := h
    simp only [resize, reset, start, load, forget, hloaded, hsource]
    rfl

theorem alike_resize (hm : m.Faithful) {loaded : Option String} (h : m.HasLoaded loaded)
    (side : Nat) : Alike (m.resize side) (start loaded side) :=
  alike_of_forget_eq (invariant_faithful.resize side hm) (faithful_start loaded side)
    (forget_resize h side)

/-- No call leaves a trace beyond a fresh start. A load has the result that it has on a new machine
of the same side and leads to a machine like that one; a reset and a resize lead to a machine like a
new one, of the same or of the other side, with the same source loaded. -/
theorem fresh_start_leaves_no_trace (side : Nat) (history : List Call) :
    let m := ((new side).calls history).2
    (∀ source, (m.load source).1 = ((new m.state.canvas.side).load source).1 ∧
      Alike (m.load source).2 ((new m.state.canvas.side).load source).2) ∧
    Alike m.reset (start (loadedAfter history) m.state.canvas.side) ∧
    ∀ other, Alike (m.resize other) (start (loadedAfter history) other) := by
  intro m
  have hfaithful : m.Faithful :=
    invariant_faithful.of_reachable ((Reachable.new side).calls history)
  have hnew : (new side).HasLoaded none := ⟨rfl, rfl⟩
  have hloaded : m.HasLoaded (loadedAfter history) := hasLoaded_calls hnew history
  refine ⟨?_, alike_resize hfaithful hloaded m.state.canvas.side, alike_resize hfaithful hloaded⟩
  intro source
  have hsame : m.load source = (new m.state.canvas.side).load source := rfl
  rw [hsame]
  exact ⟨rfl, fun _ => ⟨rfl, rfl⟩⟩

end Machine

end PaintRobot
