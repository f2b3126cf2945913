import PaintRobot.Proofs.Expr.Soundness
import PaintRobot.Statement
import Mathlib.Data.List.Forall2

/-!
How the parameters of a command are written. A text that an expression can be read from has its
parentheses and quotes in pairs and no outer commas, so the group of the parameters ends where it is
closed, and the commas in it are those that join the parameters. A parameter stands for the
expression that its text is read as.
-/
namespace PaintRobot

open Text (Gap Bare)
open Nesting (Balanced Closed)

theorem Expr.Rendering.closed {s : List Char} {e : Expr} (h : Rendering s e) : Closed s := by
  obtain ⟨hg, hh, ht⟩ := h
  exact ((Nesting.closed_gap hg).append ht.solid.closed).append (Nesting.closed_gap hh)

/-- Reading an expression does not look at the blanks around it. -/
theorem Expr.parse_trim (s : List Char) : parse (Text.trim s) = parse s := by
  rw [parse_eq, parse_eq, Form.ofText, Form.ofText, Text.trim_trim]

namespace Param

/-- `Renders t p`: the text `t` writes the parameter `p`. An expression is written as such only if
it is not a string or an integer that stands alone. -/
inductive Renders : List Char → Param → Prop where
  | text {s : List Char} (hs : '"' ∉ s) : Renders ('"' :: s ++ ['"']) (.text (String.ofList s))
  | int {t : List Char} {n : Int} (ht : Number.Spells t n) (hn : Number.fitsInteger n = true) :
      Renders t (.int (Int32.ofInt n))
  | expr {t : List Char} {e : Expr} (he : Expr.parse t = .ok e)
      (htext : ∀ s, '"' ∉ s → Text.trim t ≠ '"' :: s ++ ['"'])
      (hint : ∀ n, Number.Spells (Text.trim t) n → Number.fitsInteger n = false) :
      Renders t (.expr e)

/-- A text is a rendering of a parameter if it writes it, with any blanks around the whole. -/
inductive Rendering : List Char → Param → Prop where
  | mk {g t h : List Char} {p : Param} (hg : Gap g) (hh : Gap h) (ht : Renders t p) :
      Rendering (g ++ t ++ h) p

/-- Renderings of parameters, joined by commas; a blank text renders none. -/
inductive Renderings : List Char → List Param → Prop where
  | none {g : List Char} (hg : Gap g) : Renderings g []
  | some {t : List Char} {ts : List (List Char)} {ps : List Param}
      (h : List.Forall₂ Rendering (t :: ts) ps) : Renderings ([','].intercalate (t :: ts)) ps

theorem solid_of_spells {t : List Char} {n : Int} (ht : Number.Spells t n)
    (hn : Number.fitsInteger n = true) : Expr.Solid t :=
  (Expr.Renders.int (p := 0) ht hn).solid

theorem Renders.closed {t : List Char} {p : Param} (h : Renders t p) : Closed t := by
  cases h with
  | text hs => exact Nesting.closed_quoted hs
  | int ht hn => exact (solid_of_spells ht hn).closed
  | expr he => exact (Expr.rendering_of_parse he).closed

theorem quoted?_eq_none_of_spells {t : List Char} {n : Int} (ht : Number.Spells t n) :
    Form.quoted? t = none := by
  rw [Option.eq_none_iff_forall_ne_some]
  intro s hs
  obtain ⟨rfl, -⟩ := Form.quoted?_eq_some_iff.mp hs
  exact absurd (ht.mem '"' (by simp)) (by decide)

theorem Renders.parse_trim {t : List Char} {p : Param} (h : Renders t p) :
    Param.parse (Text.trim t) = .ok p := by
  cases h with
  | @text s hs =>
    have hquoted : Form.quoted? ('"' :: (s ++ ['"'])) = some s :=
      Form.quoted?_eq_some_iff.mpr ⟨rfl, hs⟩
    rw [(Expr.solid_quoted hs).bare.trim_eq]
    simp [Param.parse, hquoted]
  | int ht hn =>
    have hbare := (solid_of_spells ht hn).bare
    rw [hbare.trim_eq]
    simp [Param.parse, hbare.ne_nil, quoted?_eq_none_of_spells ht, Form.integer?_of_spells ht hn]
  | expr he htext hint =>
    have hread := (Expr.parse_trim t).trans he
    have hne : Text.trim t ≠ [] := by
      intro hnil
      rw [hnil, Expr.parse_eq] at hread
      cases hread
    have hquoted : Form.quoted? (Text.trim t) = none := by
      rw [Option.eq_none_iff_forall_ne_some]
      intro s hs
      obtain ⟨heq, hmem⟩ := Form.quoted?_eq_some_iff.mp hs
      exact htext s hmem heq
    have hinteger := Number.integer?_eq_none_iff.mpr hint
    simp [Param.parse, hne, hquoted, hinteger, hread, Except.map]

theorem Rendering.closed {t : List Char} {p : Param} (h : Rendering t p) : Closed t := by
  obtain ⟨hg, hh, ht⟩ := h
  exact ((Nesting.closed_gap hg).append ht.closed).append (Nesting.closed_gap hh)

theorem Rendering.parse_trim {t : List Char} {p : Param} (h : Rendering t p) :
    Param.parse (Text.trim t) = .ok p := by
  obtain ⟨hg, hh, ht⟩ := h
  rw [Text.trim_of_gaps hg hh]
  exact ht.parse_trim

theorem Rendering.trim_ne_nil {t : List Char} {p : Param} (h : Rendering t p) :
    Text.trim t ≠ [] := by
  intro hnil
  have hread := h.parse_trim
  rw [hnil] at hread
  cases hread

theorem closed_of_forall₂ {ts : List (List Char)} {ps : List Param}
    (h : List.Forall₂ Rendering ts ps) : ∀ t ∈ ts, Closed t := by
  induction h with
  | nil => simp
  | cons ht _ ih => exact List.forall_mem_cons.mpr ⟨ht.closed, ih⟩

theorem mapM_parse_trim {ts : List (List Char)} {ps : List Param}
    (h : List.Forall₂ Rendering ts ps) : (ts.map Text.trim).mapM Param.parse = .ok ps := by
  induction h with
  | nil => rfl
  | cons ht _ ih =>
    rw [List.map_cons, List.mapM_cons, ht.parse_trim, ih]
    rfl

theorem Renderings.balanced {s : List Char} {ps : List Param} (h : Renderings s ps) :
    Balanced s := by
  cases h with
  | none hg => exact (Nesting.closed_gap hg).balanced
  | some h => exact Nesting.balanced_intercalate (closed_of_forall₂ h)

/-- The parameters of a group are found, and each is read as it is written. -/
theorem Renderings.exists_arguments {s : List Char} {ps : List Param} (h : Renderings s ps) :
    ∃ ts, splitArguments s = .ok ts ∧ ts.mapM Param.parse = .ok ps := by
  cases h with
  | none hg =>
    refine ⟨[], ?_, rfl⟩
    rw [splitArguments, Text.trim_gap hg]
    rfl
  | @some t ts ps h =>
    refine ⟨(t :: ts).map Text.trim, ?_, mapM_parse_trim h⟩
    cases h with
    | cons ht hts =>
      exact Nesting.splitArguments_intercalate
        (closed_of_forall₂ (.cons ht hts)) ht.trim_ne_nil

/-! ### Parameters as expressions -/

/-- The expression that a parameter stands for. -/
def toExpr : Param → Expr
  | text s => .text s
  | int n => .int n
  | expr e => e

/-- What writes a parameter is read as the expression that the parameter stands for. -/
theorem Renders.parse_eq {t : List Char} {p : Param} (h : Renders t p) :
    Expr.parse t = .ok p.toExpr := by
  cases h with
  | text hs =>
    simpa [toExpr] using (Expr.Renders.text (p := 0) hs).parse_eq Text.gap_nil Text.gap_nil
  | int ht hn =>
    simpa [toExpr] using (Expr.Renders.int (p := 0) ht hn).parse_eq Text.gap_nil Text.gap_nil
  | expr he => exact he

/-- Reading a text as a parameter is reading it as an expression, whether that succeeds or fails:
what the reader of parameters takes for a string or an integer at first sight is one for all scans
of the reader of expressions. -/
theorem parse_map_toExpr {s : List Char} (hs : s ≠ []) :
    (Param.parse s).map toExpr = Expr.parse s := by
  have hempty : s.isEmpty = false := by simpa using hs
  rw [Param.parse, hempty]
  cases hquoted : Form.quoted? s with
  | some inside =>
    obtain ⟨rfl, hinside⟩ := Form.quoted?_eq_some_iff.mp hquoted
    exact (Renders.text hinside).parse_eq.symm
  | none =>
    cases hint : Number.integer? s with
    | some k =>
      obtain ⟨n, hn, hfits, rfl⟩ := Number.integer?_eq_some_iff.mp hint
      exact (Renders.int hn hfits).parse_eq.symm
    | none => cases h : Expr.parse s <;> simp [Except.map, toExpr]

/-- A string that holds parentheses, commas and operators is read as a string by both. -/
theorem parse_map_toExpr_of_marks_in_quotes :
    "\"f(-1,)) ** <=\"".toList ≠ [] ∧
      Param.parse "\"f(-1,)) ** <=\"".toList = .ok (.text "f(-1,)) ** <=") ∧
      Expr.parse "\"f(-1,)) ** <=\"".toList = .ok (.text "f(-1,)) ** <=") := by
  have hs : "\"f(-1,)) ** <=\"".toList ≠ [] := by decide
  have hparam : Param.parse "\"f(-1,)) ** <=\"".toList = .ok (.text "f(-1,)) ** <=") := rfl
  refine ⟨hs, hparam, ?_⟩
  rw [← parse_map_toExpr hs, hparam]
  rfl

end Param

end PaintRobot
