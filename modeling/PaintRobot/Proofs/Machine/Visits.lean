import PaintRobot.Proofs.Machine.Redraw

/-!
The visits of a run. Calls that start no other run take a machine from one line to the next, and what
all of them preserve holds at every visit; what one visit brings about holds at all later ones.
-/
namespace PaintRobot.Machine

/-- The machines in front of the lines that so many cycles visit, one after the other. -/
def visits (m : Machine) : Nat → List Machine
  | 0 => []
  | cycles + 1 =>
    if m.program.size ≤ m.counter then []
    else
      m :: match m.step with
        | (.ok transfer, next) => (next.goOn transfer).visits cycles
        | (.error _, _) => []

/-- The visits that a call makes. -/
def visitsIn (m : Machine) : Call → List Machine
  | .execute cycles => if m.isRunning then m.visits cycles else []
  | _ => []

/-- The visits that some calls make. -/
def visitsOf (m : Machine) : List Call → List Machine
  | [] => []
  | c :: cs => m.visitsIn c ++ (m.call c).2.visitsOf cs

variable {m r later : Machine} {n : Nat} {t : Transfer} {cs : List Call} {P : Machine → Prop}

theorem visits_of_end (h : m.program.size ≤ m.counter) (n : Nat) : m.visits n = [] := by
  cases n with
  | zero => rfl
  | succ n => exact if_pos h

theorem visits_of_ok (h : ¬m.program.size ≤ m.counter) (ht : m.step.1 = .ok t) (n : Nat) :
    m.visits (n + 1) = m :: (m.step.2.goOn t).visits n := by
  rw [visits, if_neg h]
  generalize m.step = r at ht
  obtain ⟨_, next⟩ := r
  cases ht
  rfl

theorem visits_of_error {cause : Cause} (h : ¬m.program.size ≤ m.counter)
    (hc : m.step.1 = .error cause) (n : Nat) : m.visits (n + 1) = [m] := by
  rw [visits, if_neg h]
  generalize m.step = r at hc
  obtain ⟨_, next⟩ := r
  cases hc
  rfl

theorem mem_visits_self (h : ¬m.program.size ≤ m.counter) : m ∈ m.visits (n + 1) := by
  rw [visits, if_neg h]
  exact List.mem_cons_self

/-- Cycles visit a line where fewer of them leave the machine in front of one. -/
theorem exists_cycle_of_mem_visits (h : r ∈ m.visits n) :
    r.counter < r.program.size ∧ ∃ k j, n = k + (j + 1) ∧ m.cycle k = (.running, r) := by
  induction n generalizing m with
  | zero => cases h
  | succ n ih =>
    by_cases hend : m.program.size ≤ m.counter
    · rw [visits_of_end hend] at h
      cases h
    · have hself : r = m → r.counter < r.program.size ∧
          ∃ k j, n + 1 = k + (j + 1) ∧ m.cycle k = (.running, r) := by
        rintro rfl
        exact ⟨Nat.lt_of_not_le hend, 0, n, by omega, rfl⟩
      cases hr : m.step.1 with
      | error cause =>
        rw [visits_of_error hend hr] at h
        exact hself (List.mem_singleton.mp h)
      | ok t =>
        rw [visits_of_ok hend hr] at h
        rcases List.mem_cons.mp h with hfirst | hrest
        · exact hself hfirst
        · obtain ⟨hlt, k, j, rfl, hk⟩ := ih hrest
          exact ⟨hlt, k + 1, j, by omega, (cycle_of_ok hend hr k).trans hk⟩

theorem exists_visits_of_mem_visitsIn {c : Call} (h : r ∈ m.visitsIn c) :
    ∃ n, (c = .execute n ∧ m.status = .running) ∧ r ∈ m.visits n := by
  cases c with
  | execute n =>
    simp only [visitsIn] at h
    split at h
    · exact ⟨n, ⟨rfl, isRunning_iff.mp ‹_›⟩, h⟩
    · cases h
  | _ => cases h

/-- A machine that visits a line runs, in front of the end of its program. -/
theorem running_of_mem_visitsOf (h : r ∈ m.visitsOf cs) :
    r.status = .running ∧ r.counter < r.program.size := by
  induction cs generalizing m with
  | nil => cases h
  | cons c cs ih =>
    rcases List.mem_append.mp h with h | h
    · obtain ⟨n, ⟨-, hrun⟩, h⟩ := exists_visits_of_mem_visitsIn h
      obtain ⟨hlt, k, j, -, hk⟩ := exists_cycle_of_mem_visits h
      exact ⟨(status_of_cycle hk).trans hrun, hlt⟩
    · exact ih h

/-! ### What the calls of a run preserve -/

structure InRunInvariant (P : Machine → Prop) : Prop extends RunInvariant P where
  interrupt {m : Machine} (h : P m) : P m.interrupt
  drain {m : Machine} (h : P m) : P m.drain.2

theorem Invariant.inRun (hP : Invariant P) : InRunInvariant P where
  line := hP.line
  fault := hP.fault
  stop := hP.stop
  interrupt := hP.interrupt
  drain := hP.drain

namespace InRunInvariant

theorem call (hP : InRunInvariant P) (h : P m) {c : Call} (hc : c.inRun = true) :
    P (m.call c).2 := by
  cases c with
  | load | reset | resize => cases hc
  | execute n => exact hP.execute h n
  | interrupt => exact hP.interrupt h
  | drain => exact hP.drain h

theorem calls (hP : InRunInvariant P) (h : P m) (hcs : ∀ c ∈ cs, c.inRun = true) :
    P (m.calls cs).2 := by
  induction cs generalizing m with
  | nil => exact h
  | cons c cs ih =>
    obtain ⟨hc, hrest⟩ := List.forall_mem_cons.mp hcs
    exact ih (hP.call h hc) hrest

theorem of_mem_visits (hP : InRunInvariant P) (h : P m) (hr : r ∈ m.visits n) : P r := by
  obtain ⟨-, k, j, -, hk⟩ := exists_cycle_of_mem_visits hr
  have hcycle := hP.cycle h k
  rwa [hk] at hcycle

theorem of_mem_visitsIn (hP : InRunInvariant P) (h : P m) {c : Call} (hr : r ∈ m.visitsIn c) :
    P r := by
  obtain ⟨n, -, hr⟩ := exists_visits_of_mem_visitsIn hr
  exact hP.of_mem_visits h hr

theorem of_mem_visitsOf (hP : InRunInvariant P) (h : P m) (hcs : ∀ c ∈ cs, c.inRun = true)
    (hr : r ∈ m.visitsOf cs) : P r := by
  induction cs generalizing m with
  | nil => cases hr
  | cons c cs ih =>
    obtain ⟨hc, hrest⟩ := List.forall_mem_cons.mp hcs
    rcases List.mem_append.mp hr with hr | hr
    · exact hP.of_mem_visitsIn h hr
    · exact ih (hP.call h hc) hrest hr

theorem after_visits (hP : InRunInvariant P) (hr : r ∈ m.visits n) (ht : r.step.1 = .ok t)
    (h : P (r.step.2.goOn t)) : P (m.cycle n).2 := by
  obtain ⟨hlt, k, j, rfl, hk⟩ := exists_cycle_of_mem_visits hr
  have hrest : m.cycle (k + (j + 1)) = (r.step.2.goOn t).cycle j := by
    rw [cycle_add, hk]
    exact cycle_of_ok (Nat.not_le_of_lt hlt) ht j
  rw [hrest]
  exact hP.cycle h j

/-- What a visit brings about holds at all later visits of the same cycles. -/
theorem pairwise_visits (hP : InRunInvariant P) (m : Machine) (n : Nat) :
    (m.visits n).Pairwise fun r later => ∀ t, r.step.1 = .ok t → P (r.step.2.goOn t) → P later := by
  induction n generalizing m with
  | zero => exact .nil
  | succ n ih =>
    by_cases hend : m.program.size ≤ m.counter
    · rw [visits_of_end hend]
      exact .nil
    · cases hr : m.step.1 with
      | error cause =>
        rw [visits_of_error hend hr]
        exact List.pairwise_singleton _ _
      | ok t =>
        rw [visits_of_ok hend hr]
        refine .cons (fun later hlater t' ht' h => ?_) (ih _)
        obtain rfl : t = t' := Except.ok.inj (hr.symm.trans ht')
        exact hP.of_mem_visits h hlater

theorem pairwise_visitsIn (hP : InRunInvariant P) (m : Machine) (c : Call) :
    (m.visitsIn c).Pairwise fun r later =>
      ∀ t, r.step.1 = .ok t → P (r.step.2.goOn t) → P later := by
  cases c with
  | execute n =>
    simp only [visitsIn]
    split
    · exact hP.pairwise_visits m n
    · exact .nil
  | _ => exact .nil

theorem after_visitsIn (hP : InRunInvariant P) {c : Call} (hr : r ∈ m.visitsIn c)
    (ht : r.step.1 = .ok t) (h : P (r.step.2.goOn t)) : P (m.call c).2 := by
  obtain ⟨n, ⟨rfl, hrun⟩, hvisits⟩ := exists_visits_of_mem_visitsIn hr
  show P (m.execute n).2
  rw [execute_of_running hrun]
  exact hP.after_visits hvisits ht h

/-- What a visit brings about holds at all later visits of the same run. -/
theorem pairwise_visitsOf (hP : InRunInvariant P) (m : Machine)
    (hcs : ∀ c ∈ cs, c.inRun = true) :
    (m.visitsOf cs).Pairwise fun r later =>
      ∀ t, r.step.1 = .ok t → P (r.step.2.goOn t) → P later := by
  induction cs generalizing m with
  | nil => exact .nil
  | cons c cs ih =>
    obtain ⟨-, hrest⟩ := List.forall_mem_cons.mp hcs
    refine List.pairwise_append.mpr ⟨hP.pairwise_visitsIn m c, ih _ hrest, ?_⟩
    intro r hr later hlater t ht h
    exact hP.of_mem_visitsOf (hP.after_visitsIn hr ht h) hrest hlater

end InRunInvariant

end PaintRobot.Machine
