import PaintRobot.Fault

/-!
Results by the ways in which they can fail. That all failures of a result are of one kind is kept
where results are joined, so a function has it from the functions it is made of.
-/
namespace PaintRobot

theorem map_eq_error_iff {α β : Type} {f : α → β} {x : Except Cause α} {cause : Cause} :
    x.map f = .error cause ↔ x = .error cause := by
  cases x <;> simp [Except.map]

/-- If the result is a failure, its cause is of this kind. -/
def FailsWith {α : Type} (kind : Cause → Prop) (x : Except Cause α) : Prop :=
  ∀ cause, x = .error cause → kind cause

/-- The cause lies in the program and not in the machine that runs it. -/
def Cause.InProgram (cause : Cause) : Prop := cause ≠ .internal

theorem Cause.inProgram_iff {cause : Cause} : cause.InProgram ↔ cause.code ≠ .internalError := by
  cases cause <;> simp [InProgram, code]

namespace FailsWith

variable {α β : Type} {kind other : Cause → Prop}

theorem ok (a : α) : FailsWith kind (.ok a) := by
  intro cause h
  cases h

theorem error {cause : Cause} (h : kind cause) :
    FailsWith kind (.error cause : Except Cause α) := by
  intro _ he
  cases he
  exact h

theorem mono {x : Except Cause α} (hx : FailsWith kind x) (h : ∀ cause, kind cause → other cause) :
    FailsWith other x := fun cause he => h cause (hx cause he)

theorem map {x : Except Cause α} (hx : FailsWith kind x) (f : α → β) :
    FailsWith kind (x.map f) := by
  cases x with
  | ok a => exact .ok (f a)
  | error cause => exact .error (hx cause rfl)

theorem bind {x : Except Cause α} {f : α → Except Cause β} (hx : FailsWith kind x)
    (hf : ∀ a, x = .ok a → FailsWith kind (f a)) : FailsWith kind (x >>= f) := by
  cases x with
  | ok a => exact hf a rfl
  | error cause => exact .error (hx cause rfl)

theorem mapM {f : α → Except Cause β} {xs : List α} (h : ∀ x ∈ xs, FailsWith kind (f x)) :
    FailsWith kind (xs.mapM f) := by
  induction xs with
  | nil => exact .ok []
  | cons x xs ih =>
    rw [List.mapM_cons]
    refine (h x List.mem_cons_self).bind fun _ _ => ?_
    exact (ih fun y hy => h y (List.mem_cons_of_mem _ hy)).bind fun _ _ => .ok _

end FailsWith

end PaintRobot
