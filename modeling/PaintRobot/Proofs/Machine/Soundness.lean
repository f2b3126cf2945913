import PaintRobot.Proofs.Command.Soundness
import PaintRobot.Proofs.Machine.Faults
import PaintRobot.Proofs.Machine.Kept
import PaintRobot.Proofs.Program.Labels
import PaintRobot.Proofs.Statement.Failures

/-!
Machines that calls keep sound. Canvas, robot, brush, counter, kept commands and status always fit
together, so the machine never has to blame itself for a fault.
-/
namespace PaintRobot

namespace Machine

variable {m n : Machine} {t : Transfer}

/-- A visit that succeeds has skipped its line or has had the effect of the line's command. -/
theorem exists_effect_of_step (h : m.step.1 = .ok t) :
    t = .next ∧ m.step.2 = m ∨
      ∃ l c, m.program.lines[m.counter]? = some l ∧ m.command m.counter l = .ok c ∧
        Command.Effect m.state c t m.step.2.state := by
  have hv := m.visit_step
  generalize m.step = r at h hv
  cases hv with
  | missing | rejected | failed => cases h
  | skipped =>
    cases h
    exact .inl ⟨rfl, rfl⟩
  | done hl _ hc he =>
    cases h
    exact .inr ⟨_, _, hl, hc, Command.effect_of_execute he⟩

theorem state_of_step_error {cause : Cause} (h : m.step.1 = .error cause) :
    m.step.2.state = m.state := by
  obtain ⟨kept, hstep⟩ := exists_step_eq_of_error h
  rw [hstep]

/-! ### The loaded program -/

/-- A machine has a program while it runs, and that has been read from a source; without one it has
an empty program. -/
structure OfSource (m : Machine) : Prop where
  running : m.status ≠ .idle → m.loaded = true
  loaded : m.loaded = true → ∃ source, Program.load source = .ok m.program
  unloaded : m.loaded = false → m.program = {}

theorem OfSource.congr (h : m.OfSource) (hp : n.program = m.program) (hl : n.loaded = m.loaded)
    (hs : n.status ≠ .idle → m.loaded = true) : n.OfSource where
  running hn := hl.trans (hs hn)
  loaded hn := hp ▸ h.loaded (hl.symm.trans hn)
  unloaded hn := hp ▸ h.unloaded (hl.symm.trans hn)

theorem OfSource.goOn (h : m.OfSource) : (m.step.2.goOn t).OfSource :=
  h.congr (by simp) (by simp) (by simpa using h.running)

theorem invariant_ofSource : Invariant OfSource where
  new _ := ⟨fun h => absurd rfl h, nofun, fun _ => rfl⟩
  load _ h := ⟨fun _ => rfl, fun _ => ⟨_, h⟩, nofun⟩
  resize _ h := h.congr rfl rfl fun hrun => by
    simp only [resize, reset] at hrun
    split at hrun
    · assumption
    · exact absurd rfl hrun
  interrupt {m} h := by
    rcases m.interrupt_eq with hsame | ⟨hrun, hbroken⟩
    · rwa [hsame]
    · rw [hbroken]
      exact h.congr rfl rfl fun _ => h.running (by simp [hrun])
  drain h := h.congr rfl rfl h.running
  line h _ _ := h.goOn
  fault h _ _ := h.congr (by simp) (by simp) fun hrun => absurd rfl hrun
  stop h := h.congr rfl rfl fun hrun => absurd rfl hrun

/-! ### The state -/

theorem sound_state_of_step (h : m.state.Sound) : m.step.2.state.Sound := by
  cases hr : m.step.1 with
  | error cause =>
    rw [state_of_step_error hr]
    exact h
  | ok t =>
    rcases exists_effect_of_step hr with ⟨-, hsame⟩ | ⟨_, _, -, -, he⟩
    · rw [hsame]
      exact h
    · exact he.sound h

theorem invariant_state : Invariant fun m => m.state.Sound where
  new side := State.sound_start side
  load side _ := State.sound_start side
  resize side _ := State.sound_start side
  interrupt {m} h := by rwa [interrupt_state]
  drain h := ⟨h.size, h.opacity, fun p hp => by simp [drain, Canvas.drain] at hp, h.brush, h.cursor⟩
  line h _ _ := by
    rw [goOn_state]
    exact sound_state_of_step h
  fault h _ _ := sound_state_of_step h
  stop h := h

/-! ### The counter -/

/-- Jumps go to the lines of labels. -/
theorem exists_labels_of_goTo (hm : m.OfSource) {l : Line} {i target : Nat} {condition : Expr}
    (hl : m.program.lines[i]? = some l)
    (h : Command.ofLine m.program l = .ok (.goTo target condition)) :
    ∃ l' key, m.program.lines[target]? = some l' ∧ l'.Labels key := by
  obtain ⟨name, -, hname⟩ := Command.exists_goTo_of_ofLine h
  cases hloaded : m.loaded with
  | false =>
    rw [hm.unloaded hloaded] at hl
    cases hl
  | true =>
    obtain ⟨source, hsource⟩ := hm.loaded hloaded
    obtain ⟨l', hl', hkey⟩ := (Program.label?_eq_some_iff hsource).mp hname
    exact ⟨l', _, hl', hkey⟩

theorem counter_goOn_le (hf : m.Faithful) (hm : m.OfSource) (hlt : m.counter < m.program.size)
    (ht : m.step.1 = .ok t) : (m.step.2.goOn t).counter ≤ m.program.size := by
  cases t with
  | next =>
    show m.step.2.counter + 1 ≤ m.program.size
    rw [step_counter]
    exact hlt
  | jump target =>
    rcases exists_effect_of_step ht with ⟨hnext, -⟩ | ⟨l, c, hl, hc, he⟩
    · cases hnext
    · obtain ⟨condition, rfl⟩ := he.eq_goTo_of_jump
      rw [hf.command_eq hl] at hc
      obtain ⟨l', _, hl', -⟩ := exists_labels_of_goTo hm hl hc
      exact Nat.le_of_lt (Array.getElem?_eq_some_iff.mp hl').1

theorem invariant_program : Invariant fun m => m.Faithful ∧ m.OfSource :=
  invariant_faithful.and invariant_ofSource

theorem invariant_counter :
    Invariant fun m => (m.Faithful ∧ m.OfSource) ∧ m.counter ≤ m.program.size where
  new side := ⟨invariant_program.new side, Nat.le_refl _⟩
  load side h := ⟨invariant_program.load side h, Nat.zero_le _⟩
  resize side h := ⟨invariant_program.resize side h.1, Nat.zero_le _⟩
  interrupt h := ⟨invariant_program.interrupt h.1, by simpa using h.2⟩
  drain h := ⟨invariant_program.drain h.1, h.2⟩
  line h hlt ht := by
    refine ⟨invariant_program.line h.1 hlt ht, ?_⟩
    rw [goOn_program, step_program]
    exact counter_goOn_le h.1.1 h.1.2 hlt ht
  fault h hlt hc := ⟨invariant_program.fault h.1 hlt hc, by simpa using h.2⟩
  stop h := ⟨invariant_program.stop h.1, h.2⟩

/-! ### Faults -/

theorem inProgram_of_step_error (hf : m.Faithful) (hlt : m.counter < m.program.size)
    {cause : Cause} (h : m.step.1 = .error cause) : cause.InProgram := by
  have hv := m.visit_step
  generalize m.step = r at h hv
  cases hv with
  | skipped | done => cases h
  | missing hl => exact absurd hlt (Nat.not_lt_of_le (Array.getElem?_eq_none_iff.mp hl))
  | rejected hl _ hc =>
    cases h
    rw [hf.command_eq hl] at hc
    exact Command.failsWith_ofLine _ _ _ hc
  | failed _ _ _ he =>
    cases h
    exact (Command.failsEarly_execute _ _ _ _ he).2

theorem inProgram_of_finish {f : Fault} (h : m.finish.1 = .fault f) : f.cause.InProgram := by
  unfold finish at h
  simp only at h
  split at h
  · cases h
  · cases h
    nofun

theorem inProgram_of_cycle (hf : m.Faithful) {k : Nat} {f : Fault}
    (h : (m.cycle k).1 = .fault f) : f.cause.InProgram := by
  induction k generalizing m with
  | zero => cases h
  | succ k ih =>
    by_cases hend : m.program.size ≤ m.counter
    · rw [cycle_of_end hend] at h
      exact inProgram_of_finish h
    · have hlt : m.counter < m.program.size := Nat.lt_of_not_le hend
      cases hr : m.step.1 with
      | ok t =>
        rw [cycle_of_ok hend hr] at h
        exact ih (invariant_faithful.line hf hlt hr) h
      | error cause =>
        rw [cycle_of_error hend hr] at h
        cases h
        exact inProgram_of_step_error hf hlt hr

theorem inProgram_of_execute (hf : m.Faithful) {k : Nat} {f : Fault}
    (h : (m.execute k).1 = .fault f) : f.cause.InProgram := by
  unfold execute at h
  split at h
  · cases h
  · cases h
    nofun
  · exact inProgram_of_cycle hf h

end Machine

namespace Program

theorem failsWith_addLabel (labels : Table (List Char) Nat) (name : List Char) (i : Nat) :
    FailsWith Cause.InProgram (addLabel labels name i) := by
  simp only [addLabel]
  split
  · exact .error fun h => by cases h
  split
  · exact .error fun h => by cases h
  · exact .ok _

theorem inProgram_of_collectLabels {labels : Table (List Char) Nat} {i : Nat} {lines : List Line}
    {f : Fault} (h : collectLabels labels i lines = .error f) : f.cause.InProgram := by
  induction lines generalizing labels i with
  | nil => cases h
  | cons l lines ih =>
    unfold collectLabels at h
    split at h
    · split at h
      · exact ih h
      · rename_i hadd
        cases h
        exact failsWith_addLabel _ _ _ _ hadd
    · exact ih h

theorem inProgram_of_load {source : String} {f : Fault} (h : load source = .error f) :
    f.cause.InProgram := by
  simp only [load, ofLines] at h
  generalize (Line.split source.toList).map Line.ofText = lines at h
  cases hlabels : collectLabels {} 0 lines with
  | ok labels =>
    rw [hlabels] at h
    cases h
  | error g =>
    rw [hlabels] at h
    cases h
    exact inProgram_of_collectLabels hlabels

end Program

/-- The fault that an answer tells of. -/
def Answer.fault? : Answer → Option Fault
  | loaded (.error f) => some f
  | ran (.fault f) => some f
  | _ => none

namespace Machine

variable {m : Machine}

theorem inProgram_of_call (hf : m.Faithful) {c : Call} {f : Fault}
    (h : (m.call c).1.fault? = some f) : f.cause.InProgram := by
  cases c with
  | load source =>
    simp only [call, load] at h
    split at h
    · cases h
    · rename_i hload
      cases h
      exact Program.inProgram_of_load hload
  | execute k =>
    apply inProgram_of_execute hf (k := k)
    generalize hr : (m.execute k).1 = event
    simp only [call, Prod.map_fst, hr] at h
    cases event with
    | fault g =>
      cases h
      rfl
    | _ => cases h
  | reset | resize | interrupt | drain => cases h

theorem inProgram_of_calls (hf : m.Faithful) {cs : List Call} {f : Fault}
    (h : f ∈ (m.calls cs).1.filterMap Answer.fault?) : f.cause.InProgram := by
  induction cs generalizing m with
  | nil => cases h
  | cons c cs ih =>
    obtain ⟨a, ha, hfault⟩ := List.mem_filterMap.mp h
    rcases List.mem_cons.mp ha with rfl | ha
    · exact inProgram_of_call hf hfault
    · exact ih (invariant_faithful.call hf c) (List.mem_filterMap.mpr ⟨a, ha, hfault⟩)

/-! ### All together -/

/-- All that always holds of a machine. -/
structure Sound (m : Machine) : Prop where
  state : m.state.Sound
  counter : m.counter ≤ m.program.size
  jumps : ∀ (i target : Nat) (condition : Expr),
    m.kept[i]? = some (some (.goTo target condition)) →
      ∃ l name, m.program.lines[target]? = some l ∧ l.kind = .label name
  running : m.status ≠ .idle → m.loaded = true
  loaded : m.loaded = true → ∃ source, Program.load source = .ok m.program
  unloaded : m.loaded = false → m.program = {}

theorem sound_of_reachable (h : Reachable m) : m.Sound := by
  obtain ⟨⟨hf, hm⟩, hcounter⟩ := invariant_counter.of_reachable h
  refine ⟨invariant_state.of_reachable h, hcounter, ?_, hm.running, hm.loaded, hm.unloaded⟩
  intro i target condition hkept
  obtain ⟨l, hl, -, hof⟩ := hf.kept i _ hkept
  obtain ⟨l', _, hl', name, hname, -⟩ := exists_labels_of_goTo hm hl hof
  exact ⟨l', name, hl', hname⟩

/-- Calls lead to sound machines only, and no answer to them is an internal error. -/
theorem calls_keep_sound (side : Nat) (cs : List Call) :
    ((new side).calls cs).2.Sound ∧
      Code.internalError ∉
        (((new side).calls cs).1.filterMap Answer.fault?).map fun f => f.cause.code := by
  constructor
  · exact sound_of_reachable ((Reachable.new side).calls cs)
  · intro hmem
    obtain ⟨f, hf, hcode⟩ := List.mem_map.mp hmem
    have hin : f.cause.InProgram := inProgram_of_calls (invariant_faithful.new side) hf
    exact Cause.inProgram_iff.mp hin hcode

end Machine

end PaintRobot
