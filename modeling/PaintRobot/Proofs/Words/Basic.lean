import Mathlib.Algebra.Group.Int.Defs
import Mathlib.Algebra.Group.Nat.Defs
import Mathlib.Data.PFun

/-!
Arithmetic on machine words. Drawing works on integers of thirty-two and of sixty-four bits and does
not look whether a result fits. What becomes of a result is a parameter here, so that one account of
drawing serves for words that wrap around and for words that are lost when they do not fit. Its
loops have no bound of their own: that they come to an end is part of what is proved about them.
-/
namespace PaintRobot

/-- What becomes of the exact result of an operation on words of thirty-two bits, and on words of
sixty-four. -/
structure Words where
  short : Int → Option Int
  long : Int → Option Int

namespace Words

/-- Whether thirty-two bits hold an integer. -/
def IsShort (n : Int) : Prop := -2 ^ 31 ≤ n ∧ n < 2 ^ 31

/-- Whether sixty-four bits hold an integer. -/
def IsLong (n : Int) : Prop := -2 ^ 63 ≤ n ∧ n < 2 ^ 63

instance (n : Int) : Decidable (IsShort n) := inferInstanceAs (Decidable (_ ∧ _))

instance (n : Int) : Decidable (IsLong n) := inferInstanceAs (Decidable (_ ∧ _))

/-- A result that does not fit loses its higher bits. -/
def wrapping : Words where
  short n := some (Int32.ofInt n).toInt
  long n := some (Int64.ofInt n).toInt

/-- A result that does not fit is lost. -/
def checked : Words where
  short n := if IsShort n then some n else none
  long n := if IsLong n then some n else none

/-- A result that fits is kept. -/
structure Exact (w : Words) : Prop where
  short : ∀ n : Int, -2 ^ 31 ≤ n → n < 2 ^ 31 → w.short n = some n
  long : ∀ n : Int, -2 ^ 63 ≤ n → n < 2 ^ 63 → w.long n = some n

theorem exact_wrapping : wrapping.Exact where
  short _ hlow hhigh := congrArg some (Int32.toInt_ofInt_of_le hlow hhigh)
  long _ hlow hhigh := congrArg some (Int64.toInt_ofInt_of_le hlow hhigh)

theorem exact_checked : checked.Exact where
  short _ hlow hhigh := if_pos ⟨hlow, hhigh⟩
  long _ hlow hhigh := if_pos ⟨hlow, hhigh⟩

section Loop

variable {α σ : Type} {round : σ → Option (α ⊕ σ)} {s t : σ} {a : α}

/-- A round of a loop, as a partial function. -/
def rounds (round : σ → Option (α ⊕ σ)) : σ →. α ⊕ σ := fun s => Part.ofOption (round s)

/-- What a loop comes to, each round of which yields a result or what the next one begins with.
There is nothing if a round is lost, or if the loop goes on for ever. -/
noncomputable def loop (round : σ → Option (α ⊕ σ)) (s : σ) : Option α :=
  open Classical in ((rounds round).fix s).toOption

theorem mem_rounds {x : α ⊕ σ} (h : round s = some x) : x ∈ rounds round s :=
  Part.mem_ofOption.mpr h

theorem loop_of_stop (h : round s = some (.inl a)) : loop round s = some a := by
  classical
  exact Part.toOption_eq_some_iff.mpr (PFun.fix_stop (mem_rounds h))

theorem loop_of_goOn (h : round s = some (.inr t)) : loop round s = loop round t := by
  rw [loop, loop, PFun.fix_fwd_eq (mem_rounds h)]

end Loop

end Words

end PaintRobot
