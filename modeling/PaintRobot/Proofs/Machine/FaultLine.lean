import PaintRobot.Proofs.Machine.Soundness

/-!
The lines that faults name. A visit that fails names its line. A run that is broken off names the
line it would go on with, and behind the last line there is none.
-/
namespace PaintRobot.Machine

variable {m : Machine} {f : Fault} {n : Nat}

theorem line_finish (h : m.finish.1 = .fault f) : f.line = none := by
  unfold finish at h
  simp only at h
  split at h
  · cases h
  · cases h
    rfl

/-- Lines that run fault with their own number, or with none at the end of the program. -/
theorem line_of_cycle {k : Nat} (h : (m.cycle k).1 = .fault f) (hn : f.line = some n) :
    1 ≤ n ∧ n ≤ m.program.size := by
  induction k generalizing m with
  | zero => cases h
  | succ k ih =>
    by_cases hend : m.program.size ≤ m.counter
    · rw [cycle_of_end hend] at h
      rw [line_finish h] at hn
      cases hn
    · cases hr : m.step.1 with
      | ok t =>
        rw [cycle_of_ok hend hr] at h
        have hline := ih h
        rwa [goOn_program, step_program] at hline
      | error cause =>
        rw [cycle_of_error hend hr] at h
        cases h
        cases hn
        omega

/-- A fault names a line of the program, unless a run was broken off behind the last line: it names
the line that would follow. -/
theorem line_of_execute (hm : Reachable m) {k : Nat} (h : (m.execute k).1 = .fault f)
    (hn : f.line = some n) :
    1 ≤ n ∧ (n ≤ m.program.size ∨
      m.status = .interrupted ∧ m.counter = m.program.size ∧ n = m.program.size + 1) := by
  unfold execute at h
  split at h
  · cases h
  · rename_i hstatus
    cases h
    cases hn
    refine ⟨Nat.succ_pos _, ?_⟩
    rcases Nat.lt_or_eq_of_le (sound_of_reachable hm).counter with hlt | hend
    · exact .inl hlt
    · exact .inr ⟨hstatus, hend, by rw [hend]⟩
  · have hline := line_of_cycle h hn
    exact ⟨hline.1, .inl hline.2⟩

/-- The second line of a program that fails. -/
theorem line_of_execute_color_before_spawn :
    let m := ((new 5).load "start:\nColor(\"Red\")").2
    Reachable m ∧ (m.execute 9).1 = .fault ⟨.notSpawned .color, some 2⟩ ∧
      1 ≤ 2 ∧ (2 ≤ m.program.size ∨
        m.status = .interrupted ∧ m.counter = m.program.size ∧ 2 = m.program.size + 1) := by
  intro m
  have hm : Reachable m := (Reachable.new 5).call (.load "start:\nColor(\"Red\")")
  have hfault : (m.execute 9).1 = .fault ⟨.notSpawned .color, some 2⟩ := by decide +kernel
  exact ⟨hm, hfault, line_of_execute hm hfault rfl⟩

/-- A program of one line, broken off after that line has run, names a second one. -/
theorem not_line_le_of_execute : ¬∀ m : Machine, Reachable m → ∀ (k : Nat) (f : Fault) (n : Nat),
    (m.execute k).1 = .fault f → f.line = some n → 1 ≤ n ∧ n ≤ m.program.size := by
  intro h
  let cs : List Call := [.load "Spawn(0, 0)", .execute 1, .interrupt]
  have hm : Reachable ((new 5).calls cs).2 := (Reachable.new 5).calls cs
  have hfault : (((new 5).calls cs).2.execute 1).1 = .fault ⟨.interrupted, some 2⟩ := by
    decide +kernel
  have hsize : ((new 5).calls cs).2.program.size = 1 := by decide +kernel
  have hline := h _ hm 1 _ 2 hfault rfl
  omega

end PaintRobot.Machine
