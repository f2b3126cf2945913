import PaintRobot.Proofs.Machine.Calls
import Mathlib.Algebra.Ring.Nat

/-!
Runs in batches. A machine that has more to run after a batch stands just where it would have passed
by in a longer one, so a host may cut a run wherever it likes.
-/
namespace PaintRobot.Machine

/-- What comes after a batch, if that leaves more to run. -/
def andThen (r : Event × Machine) (more : Machine → Event × Machine) : Event × Machine :=
  match r with
  | (.running, next) => more next
  | ended => ended

/-- Has batches run one after the other, up to the first that does not leave more to run. -/
def batches (m : Machine) (cycles : Nat) : List Nat → Event × Machine
  | [] => m.execute cycles
  | more :: rest => andThen (m.execute cycles) fun next => next.batches more rest

theorem finish_fst_ne (m : Machine) : m.finish.1 ≠ .running := by
  unfold finish
  simp only
  split <;> simp

theorem andThen_of_ne {r : Event × Machine} (h : r.1 ≠ .running)
    (more : Machine → Event × Machine) : andThen r more = r := by
  obtain ⟨e, m⟩ := r
  cases e with
  | running => exact absurd rfl h
  | stopped => rfl
  | fault f => rfl

theorem cycle_add (m : Machine) (n k : Nat) :
    m.cycle (n + k) = andThen (m.cycle n) fun next => next.cycle k := by
  induction n generalizing m with
  | zero =>
    rw [Nat.zero_add]
    rfl
  | succ n ih =>
    rw [Nat.add_right_comm]
    by_cases hend : m.program.size ≤ m.counter
    · rw [cycle_of_end hend, cycle_of_end hend, andThen_of_ne m.finish_fst_ne]
    · cases hr : m.step.1 with
      | ok t => rw [cycle_of_ok hend hr, cycle_of_ok hend hr, ih]
      | error cause =>
        rw [cycle_of_error hend hr, cycle_of_error hend hr]
        rfl

/-- Cycles that leave more to run leave the machine running. -/
theorem status_of_cycle {m next : Machine} {n : Nat} (h : m.cycle n = (.running, next)) :
    next.status = m.status := by
  induction n generalizing m with
  | zero =>
    cases h
    rfl
  | succ n ih =>
    by_cases hend : m.program.size ≤ m.counter
    · rw [cycle_of_end hend] at h
      exact absurd (congrArg Prod.fst h) m.finish_fst_ne
    · cases hr : m.step.1 with
      | ok t =>
        rw [cycle_of_ok hend hr] at h
        rw [ih h, goOn_status, step_status]
      | error cause =>
        rw [cycle_of_error hend hr] at h
        cases h

theorem execute_of_running {m : Machine} (h : m.status = .running) (n : Nat) :
    m.execute n = m.cycle n := by
  simp only [execute, h]

/-- A batch is a shorter one and the rest of it, if the shorter one leaves more to run. -/
theorem execute_add (m : Machine) (n k : Nat) :
    m.execute (n + k) = andThen (m.execute n) fun next => next.execute k := by
  cases hs : m.status with
  | idle =>
    simp only [execute, hs]
    rfl
  | interrupted =>
    simp only [execute, hs]
    rfl
  | running =>
    rw [execute_of_running hs, execute_of_running hs, cycle_add]
    cases hr : m.cycle n with
    | mk e next =>
      cases e with
      | running =>
        have hnext : next.status = .running := (status_of_cycle hr).trans hs
        exact (execute_of_running hnext k).symm
      | stopped => rfl
      | fault f => rfl

/-- Any way to cut a run into batches gives the event and the machine of one batch. -/
theorem batches_eq_execute (m : Machine) (cycles : Nat) (rest : List Nat) :
    m.batches cycles rest = m.execute (cycles + rest.sum) := by
  induction rest generalizing m cycles with
  | nil => rfl
  | cons more rest ih =>
    rw [batches, List.sum_cons, execute_add]
    simp only [ih]

theorem drive_succ (m : Machine) (cycles batches : Nat) :
    m.drive cycles (batches + 1) =
      andThen (m.execute cycles) fun next => next.drive cycles batches := rfl

/-- Driving a machine gives what one batch of as many lines gives. -/
theorem drive_eq_execute (m : Machine) (cycles batches : Nat) :
    m.drive cycles (batches + 1) = m.execute (cycles * (batches + 1)) := by
  induction batches generalizing m with
  | zero =>
    rw [drive_succ, Nat.mul_one]
    cases hr : m.execute cycles with
    | mk e next => cases e <;> rfl
  | succ batches ih =>
    have hcut : cycles * (batches + 1 + 1) = cycles + cycles * (batches + 1) := by
      rw [Nat.mul_succ, Nat.add_comm]
    rw [drive_succ, hcut, execute_add]
    simp only [ih]

end PaintRobot.Machine
