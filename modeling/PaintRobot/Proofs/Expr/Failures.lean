import PaintRobot.Expr.Parse
import PaintRobot.Proofs.Failure

/-!
How reading an expression fails: always with a syntax error. The property is kept where readings are
joined, so each reader has it from the readers it is made of.
-/
namespace PaintRobot

/-- The result is no failure but a syntax error. -/
def FailsOnSyntax {α : Type} (x : Except Cause α) : Prop :=
  ∀ cause, x = .error cause → cause.code = .syntaxError

namespace FailsOnSyntax

variable {α β : Type}

theorem ok (a : α) : FailsOnSyntax (.ok a) := FailsWith.ok a

theorem error {cause : Cause} (h : cause.code = .syntaxError) :
    FailsOnSyntax (.error cause : Except Cause α) := FailsWith.error h

theorem map {x : Except Cause α} (hx : FailsOnSyntax x) (f : α → β) : FailsOnSyntax (x.map f) :=
  FailsWith.map hx f

theorem bind {x : Except Cause α} {f : α → Except Cause β} (hx : FailsOnSyntax x)
    (hf : ∀ a, x = .ok a → FailsOnSyntax (f a)) : FailsOnSyntax (x >>= f) :=
  FailsWith.bind hx hf

theorem mapM {f : α → Except Cause β} {xs : List α} (h : ∀ x ∈ xs, FailsOnSyntax (f x)) :
    FailsOnSyntax (xs.mapM f) := FailsWith.mapM h

end FailsOnSyntax

/-! ### Scans -/

namespace Nesting

theorem failsOnSyntax_ending (n : Nesting) : FailsOnSyntax n.ending := by
  unfold ending
  split
  · exact .error rfl
  · split
    · exact .error rfl
    · exact .ok ()

theorem failsOnSyntax_pieces (n : Nesting) (s : List Char) : FailsOnSyntax (n.pieces s) := by
  induction s generalizing n with
  | nil => exact n.failsOnSyntax_ending.map _
  | cons c rest ih =>
    unfold pieces
    split
    · exact (ih n).map _
    · split
      · exact .error rfl
      · exact (ih _).map _

theorem failsOnSyntax_operators (n : Nesting) (before : Option Char) (skip : Bool) (i : Nat)
    (s : List Char) : FailsOnSyntax (n.operators before skip i s) := by
  induction s generalizing n before skip i with
  | nil => exact n.failsOnSyntax_ending.map _
  | cons c rest ih =>
    unfold operators
    split
    · exact ih _ _ _ _
    split
    · exact (ih _ _ _ _).map _
    split
    · exact .error rfl
    · exact (ih _ _ _ _).map _

end Nesting

theorem failsWith_cutGroup (s : List Char) : FailsWith (· = .expectedClosing) (cutGroup s) := by
  unfold cutGroup
  split
  · exact .ok _
  · exact .error rfl

theorem failsOnSyntax_cutGroup (s : List Char) : FailsOnSyntax (cutGroup s) :=
  (failsWith_cutGroup s).mono fun _ h => h ▸ rfl

theorem failsOnSyntax_splitArguments (s : List Char) : FailsOnSyntax (splitArguments s) := by
  unfold splitArguments
  split
  · exact .ok []
  · exact (Nesting.failsOnSyntax_pieces _ s).map _

theorem failsOnSyntax_loosestOperator (s : List Char) : FailsOnSyntax (loosestOperator s) :=
  (Nesting.failsOnSyntax_operators _ _ _ _ s).map _

/-! ### Forms -/

namespace Form

theorem failsOnSyntax_enclosed? (s : List Char) : FailsOnSyntax (enclosed? s) := by
  unfold enclosed?
  split
  · exact (failsOnSyntax_cutGroup _).bind fun _ _ => .ok _
  · exact .ok none

theorem failsOnSyntax_call? (s : List Char) : FailsOnSyntax (call? s) := by
  unfold call?
  simp only
  split
  · exact .ok none
  split
  · refine (failsOnSyntax_cutGroup _).bind fun _ _ => ?_
    split
    · exact (failsOnSyntax_splitArguments _).bind fun _ _ => .ok _
    · exact .ok none
  · exact .ok none

/-- The faults of a text that is no atom. -/
def NoAtom (s : List Char) (cause : Cause) : Prop :=
  cause = .invalidNumber (String.ofList s) ∨ cause = .invalidExpression (String.ofList s)

theorem failsWith_number (s : List Char) : FailsWith (NoAtom s) (number s) := by
  unfold number
  split
  · exact .ok _
  · exact .error (.inl rfl)

theorem failsWith_signedOrNamed (s : List Char) : FailsWith (NoAtom s) (signedOrNamed s) := by
  unfold signedOrNamed
  split
  · exact .ok _
  · exact .ok _
  · split
    · exact .ok _
    · exact .error (.inr rfl)

theorem failsWith_ofAtom (s : List Char) : FailsWith (NoAtom s) (ofAtom s) := by
  unfold ofAtom
  split
  · exact .ok _
  split
  · exact .ok _
  split
  · exact .ok _
  split
  · exact failsWith_number s
  split
  · exact .ok _
  · exact failsWith_signedOrNamed s

theorem failsOnSyntax_ofAtom (s : List Char) : FailsOnSyntax (ofAtom s) :=
  (failsWith_ofAtom s).mono fun cause h => by rcases h with rfl | rfl <;> rfl

theorem failsOnSyntax_ofText (s : List Char) : FailsOnSyntax (ofText s) := by
  unfold ofText ofTrimmed
  generalize Text.trim s = t
  split
  · exact .error rfl
  refine (failsOnSyntax_enclosed? t).bind fun inside _ => ?_
  cases inside with
  | some inside => exact .ok _
  | none =>
    refine (failsOnSyntax_call? t).bind fun form _ => ?_
    cases form with
    | some form => exact .ok form
    | none =>
      refine (failsOnSyntax_loosestOperator t).bind fun found _ => ?_
      cases found with
      | some o => exact .ok _
      | none => exact failsOnSyntax_ofAtom t

/-- The expression of a form fails as the parts do. -/
theorem failsWith_toExpr {kind : Cause → Prop} {read : List Char → Except Cause Expr} {f : Form}
    (h : ∀ p ∈ f.parts, FailsWith kind (read p)) : FailsWith kind (f.toExpr read) := by
  cases f with
  | leaf e => exact .ok e
  | same part => exact h part List.mem_cons_self
  | negated part => exact (h part List.mem_cons_self).bind fun _ _ => .ok _
  | call name args => exact (FailsWith.mapM h).bind fun _ _ => .ok _
  | binary op l r =>
    refine (h l (by simp [parts])).bind fun _ _ => ?_
    exact (h r (by simp [parts])).bind fun _ _ => .ok _

/-- What holds of a text if it holds of the parts of its form holds of every text. -/
theorem induction_parts {motive : List Char → Prop}
    (step : ∀ s, (∀ f, ofText s = .ok f → ∀ p ∈ f.parts, motive p) → motive s) (s : List Char) :
    motive s := by
  induction hn : s.length using Nat.strongRecOn generalizing s with
  | ind n ih =>
    apply step
    intro f hf p hp
    exact ih p.length (hn ▸ length_lt_of_mem_parts hf p hp) p rfl

end Form

/-- A text that is no expression is a syntax error. -/
theorem Expr.failsOnSyntax_parse (s : List Char) : FailsOnSyntax (parse s) := by
  induction s using Form.induction_parts with
  | step s ih =>
    rw [parse_eq]
    exact (Form.failsOnSyntax_ofText s).bind fun f hf => Form.failsWith_toExpr (ih f hf)

end PaintRobot
