import PaintRobot.Proofs.Machine.Redraw

/-!
Machines whose run is over. They do not run again until a program is loaded or the loaded one is
started again, and without a program there is none to start.
-/
namespace PaintRobot

namespace Call

/-- Whether a call loads a program. -/
def loadsProgram : Call → Bool
  | load source => (Program.load source).isOk
  | _ => false

/-- Whether a call starts a run of the machine, of a new program or of the loaded one. -/
def startsRun (m : Machine) : Call → Bool
  | load source => (Program.load source).isOk
  | reset | resize _ => m.loaded
  | _ => false

end Call

namespace Machine

variable {m : Machine} {c : Call} {cs : List Call} {n : Nat}

/-- None of some calls starts a run. -/
def Rests (m : Machine) : List Call → Prop
  | [] => True
  | c :: cs => c.startsRun m = false ∧ (m.call c).2.Rests cs

/-- The run of a machine is over: until a call starts another one, batches only tell that it has
stopped, the machine does not run, and the calls of a run change nothing but the cells that are noted
as modified, which a drain forgets. -/
structure Over (m : Machine) : Prop where
  answers : ∀ cs, m.Rests cs → ∀ e, .ran e ∈ (m.calls cs).1 → e = .stopped
  rests : ∀ cs, m.Rests cs → (m.calls cs).2.isRunning = false
  keeps : ∀ cs, (∀ c ∈ cs, c.inRun = true) →
    m.Rests cs ∧ (m.calls cs).2 = if cs.any Call.isDrain then m.drain.2 else m

theorem execute_of_idle (h : m.status = .idle) (n : Nat) : m.execute n = (.stopped, m) := by
  simp only [execute, h]

theorem interrupt_of_idle (h : m.status = .idle) : m.interrupt = m :=
  if_neg (by simp [h])

/-- A call that starts no run leaves an idle machine idle. -/
theorem call_of_idle (h : m.status = .idle) (hc : c.startsRun m = false) :
    (m.call c).2.status = .idle ∧ ∀ e, (m.call c).1 = .ran e → e = .stopped := by
  cases c with
  | load source =>
    simp only [Call.startsRun] at hc
    simp only [call, load]
    cases hload : Program.load source with
    | ok p =>
      rw [hload] at hc
      cases hc
    | error f => exact ⟨rfl, by rintro _ ⟨⟩⟩
  | execute n =>
    simp only [call, execute_of_idle h]
    refine ⟨h, ?_⟩
    rintro _ ⟨⟩
    rfl
  | reset | resize =>
    have hloaded : m.loaded = false := hc
    exact ⟨by simp [call, resize, reset, hloaded], by rintro _ ⟨⟩⟩
  | interrupt =>
    simp only [call, interrupt_of_idle h]
    exact ⟨h, by rintro _ ⟨⟩⟩
  | drain => exact ⟨h, by rintro _ ⟨⟩⟩

theorem calls_of_idle (h : m.status = .idle) (hcs : m.Rests cs) :
    (m.calls cs).2.status = .idle ∧ ∀ e, .ran e ∈ (m.calls cs).1 → e = .stopped := by
  induction cs generalizing m with
  | nil => exact ⟨h, nofun⟩
  | cons c cs ih =>
    obtain ⟨hidle, hanswer⟩ := call_of_idle h hcs.1
    obtain ⟨hlast, hanswers⟩ := ih hidle hcs.2
    refine ⟨hlast, fun e he => ?_⟩
    rcases List.mem_cons.mp he with he | he
    · exact hanswer e he.symm
    · exact hanswers e he

theorem call_inRun_of_idle (h : m.status = .idle) (hc : c.inRun = true) :
    (m.call c).2 = if c.isDrain then m.drain.2 else m := by
  cases c with
  | load | reset | resize => cases hc
  | execute n => exact congrArg Prod.snd (execute_of_idle h n)
  | interrupt => exact interrupt_of_idle h
  | drain => rfl

theorem startsRun_of_inRun (hc : c.inRun = true) : c.startsRun m = false := by
  cases c with
  | load | reset | resize => cases hc
  | execute | interrupt | drain => rfl

theorem calls_inRun_of_idle (h : m.status = .idle) (hcs : ∀ c ∈ cs, c.inRun = true) :
    m.Rests cs ∧ (m.calls cs).2 = if cs.any Call.isDrain then m.drain.2 else m := by
  induction cs generalizing m with
  | nil => exact ⟨trivial, rfl⟩
  | cons c cs ih =>
    obtain ⟨hc, hrest⟩ := List.forall_mem_cons.mp hcs
    have hidle := (call_of_idle h (startsRun_of_inRun hc)).1
    obtain ⟨hrests, hcalls⟩ := ih hidle hrest
    refine ⟨⟨startsRun_of_inRun hc, hrests⟩, hcalls.trans ?_⟩
    rw [call_inRun_of_idle h hc, List.any_cons]
    cases c.isDrain with
    | false => rfl
    | true => exact ite_self _

theorem over_of_idle (h : m.status = .idle) : m.Over where
  answers _ hcs := (calls_of_idle h hcs).2
  rests _ hcs := by
    rw [isRunning, (calls_of_idle h hcs).1]
    rfl
  keeps _ hcs := calls_inRun_of_idle h hcs

/-- Cycles that do not leave more to run leave an idle machine. -/
theorem idle_of_cycle (h : (m.cycle n).1 ≠ .running) : (m.cycle n).2.status = .idle := by
  induction n generalizing m with
  | zero => exact absurd rfl h
  | succ n ih =>
    by_cases hend : m.program.size ≤ m.counter
    · rw [cycle_of_end hend, finish_snd]
    · cases hr : m.step.1 with
      | ok t =>
        rw [cycle_of_ok hend hr] at h ⊢
        exact ih h
      | error cause => rw [cycle_of_error hend hr]

theorem idle_of_execute (h : (m.execute n).1 ≠ .running) : (m.execute n).2.status = .idle := by
  unfold execute at h ⊢
  split at h
  · assumption
  · rfl
  · exact idle_of_cycle h

/-! ### Without a program -/

theorem call_new (side : Nat) (hc : c.loadsProgram = false) :
    c.startsRun (new side) = false ∧ ∃ other, ((new side).call c).2 = new other := by
  cases c with
  | load source =>
    refine ⟨hc, side, ?_⟩
    simp only [Call.loadsProgram] at hc
    simp only [call, load]
    cases hload : Program.load source with
    | ok p =>
      rw [hload] at hc
      cases hc
    | error f => rfl
  | resize other => exact ⟨rfl, other, rfl⟩
  | execute | reset | interrupt | drain => exact ⟨rfl, side, rfl⟩

/-- As long as no program is loaded, a machine without one stays new. -/
theorem calls_new (side : Nat) (hcs : ∀ c ∈ cs, c.loadsProgram = false) :
    (new side).Rests cs ∧ ∃ other, ((new side).calls cs).2 = new other := by
  -- A call leaves a new machine, though a resize gives it another side.
  induction cs generalizing side with
  | nil => exact ⟨trivial, side, rfl⟩
  | cons c cs ih =>
    obtain ⟨hc, hrest⟩ := List.forall_mem_cons.mp hcs
    obtain ⟨hstarts, other, hother⟩ := call_new side hc
    obtain ⟨hrests, last, hlast⟩ := ih other hrest
    rw [Rests, calls, hother]
    exact ⟨⟨hstarts, hrests⟩, last, hlast⟩

theorem load_eq_new {source : String} {f : Fault} (h : (m.load source).1 = .error f) :
    (m.load source).2 = new m.state.canvas.side := by
  simp only [load] at h ⊢
  split at h
  · cases h
  · rfl

/-- A run that is over stays over. So it is after a batch that does not leave more to run, and after
a load that is refused; then no reset or resize starts a run either, and until a program is loaded
there are no lines, no labels and no variables, the counter stands at the top, and the canvas is white
with no cell noted as modified. -/
theorem ended_run_stays_over :
    (∀ (m : Machine) (n : Nat), (m.execute n).1 ≠ .running → (m.execute n).2.Over) ∧
    ∀ (m : Machine) (source : String) (f : Fault), (m.load source).1 = .error f →
      ∀ cs : List Call, (∀ c ∈ cs, c.loadsProgram = false) →
        let r := ((m.load source).2.calls cs).2
        (m.load source).2.Over ∧ (m.load source).2.Rests cs ∧ r.Over ∧
          r.program = {} ∧ (∀ name, r.program.label? name = none) ∧ r.counter = 0 ∧
          r.state.vars = {} ∧ ∃ side, r.state.canvas = .blank side := by
  constructor
  · exact fun m n h => over_of_idle (idle_of_execute h)
  · intro m source f hload cs hcs r
    obtain ⟨hrests, side, hr⟩ := calls_new m.state.canvas.side hcs
    rw [← load_eq_new hload] at hrests hr
    have hover : (m.load source).2.Over := by
      rw [load_eq_new hload]
      exact over_of_idle rfl
    have hnew : r = new side := hr
    rw [hnew]
    exact ⟨hover, hrests, over_of_idle rfl, rfl, fun _ => rfl, rfl, rfl, side, rfl⟩

/-- A run that has failed with a cell set, and a source that is refused behind it. -/
theorem ended_run_stays_over_after_fault :
    let m := ((new 5).load "Spawn(1, 2)\nColor(\"Red\")\nFill\nSpawn(0, 0)").2
    let failed := (m.execute 9).2
    let cs : List Call := [.reset, .execute 3, .resize 7, .load "1st:", .drain, .execute 1]
    let r := ((failed.load "a:\nA:").2.calls cs).2
    ((m.execute 9).1 = .fault ⟨.alreadySpawned, some 4⟩ ∧ failed.Over ∧
      (failed.calls [.execute 2, .drain, .interrupt]).2 = failed.drain.2) ∧
    ((failed.load "a:\nA:").1 = .error ⟨.duplicateLabel "A", some 2⟩ ∧
      ∀ c ∈ cs, c.loadsProgram = false) ∧
    (failed.load "a:\nA:").2.Rests cs ∧ r.Over ∧ r.program = {} := by
  intro m failed cs r
  have hfault : (m.execute 9).1 = .fault ⟨.alreadySpawned, some 4⟩ := by decide +kernel
  have hrefused : (failed.load "a:\nA:").1 = .error ⟨.duplicateLabel "A", some 2⟩ := by
    decide +kernel
  have hcs : ∀ c ∈ cs, c.loadsProgram = false := by decide +kernel
  have hover : failed.Over := ended_run_stays_over.1 m 9 (by simp [hfault])
  obtain ⟨-, hrests, hlast, hprogram, -⟩ :=
    ended_run_stays_over.2 failed "a:\nA:" _ hrefused cs hcs
  have hdrained := (hover.keeps [.execute 2, .drain, .interrupt] (by decide)).2
  rw [if_pos (by decide)] at hdrained
  exact ⟨⟨hfault, hover, hdrained⟩, ⟨hrefused, hcs⟩, hrests, hlast, hprogram⟩

end Machine

end PaintRobot
