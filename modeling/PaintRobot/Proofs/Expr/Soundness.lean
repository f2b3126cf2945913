import PaintRobot.Proofs.Expr.Cutting
import PaintRobot.Proofs.Expr.Failures
import PaintRobot.Proofs.Expr.RoundTrip

/-!
Nothing else is read. A text that is read is a rendering of the tree that it is read as: each form
is the last rule of the grammar, and its parts, which are shorter, are renderings of the subtrees.
All other texts are syntax errors.
-/
namespace PaintRobot

open Text (Gap Bare isIdentifier sameWord)
open Nesting (Balanced Finds)

namespace Form

theorem of_enclosed? {t inside : List Char} (h : enclosed? t = .ok (some inside)) :
    t = '(' :: inside ++ [')'] ∧ Balanced inside := by
  unfold enclosed? at h
  split at h
  · obtain ⟨⟨i, tail⟩, hcut, he⟩ := bind_eq_ok_iff.mp h
    simp only [pure, Except.pure, Except.ok.injEq, Option.ite_none_right_eq_some,
      List.isEmpty_iff, Option.some.injEq] at he
    obtain ⟨rfl, rfl⟩ := he
    obtain ⟨rfl, hi⟩ := Nesting.of_cutGroup hcut
    exact ⟨rfl, hi⟩
  · cases h

/-- A call is a name and a group, with a gap between them at most. -/
theorem of_call? {t : List Char} {f : Form} (ht : Bare t) (h : call? t = .ok (some f)) :
    ∃ name gap inside args, t = name ++ gap ++ '(' :: inside ++ [')'] ∧
      isIdentifier name = true ∧ Gap gap ∧ splitArguments inside = .ok args ∧
      f = .call (String.ofList name) args := by
  unfold call? at h
  simp only at h
  split at h
  · cases h
  rename_i c rest hdrop
  split at h
  · rename_i hcond
    obtain ⟨⟨inside, tail⟩, hcut, h⟩ := bind_eq_ok_iff.mp h
    simp only at h
    split at h
    · rename_i htail
      obtain ⟨args, hargs, h⟩ := bind_eq_ok_iff.mp h
      cases h
      have hc : c = '(' := by
        have := List.head?_dropWhile_not (· != '(') t
        simpa [hdrop] using this
      obtain ⟨g, gap, hg, hgap, hname⟩ := Text.exists_gaps_trim (t.takeWhile (· != '('))
      have hid := (Bool.and_eq_true_iff.mp hcond).2
      generalize Text.trim (t.takeWhile (· != '(')) = name at *
      have heq : t = g ++ (name ++ gap ++ '(' :: inside ++ [')']) ++ [] := by
        rw [← List.takeWhile_append_dropWhile (p := (· != '(')) (l := t), hname, hdrop, hc,
          Nesting.eq_of_cutGroup hcut, List.isEmpty_iff.mp htail]
        simp
      have hbare : Bare (name ++ gap ++ '(' :: inside ++ [')']) := by
        simpa using (Text.isWord_of_isIdentifier hid).bare.append (gap ++ '(' :: inside)
          (Text.bare_mark (c := ')') (by decide))
      rw [heq] at ht
      obtain ⟨rfl, -⟩ := ht.eq_nil_of_gaps hg hbare Text.gap_nil
      exact ⟨name, gap, inside, args, by simpa using heq, hid, hgap, hargs, rfl⟩
    · cases h
  · cases h

/-- The four ways to take a text apart. -/
theorem of_ofTrimmed {t : List Char} {f : Form} (h : ofTrimmed t = .ok f) :
    (∃ inside, t = '(' :: inside ++ [')'] ∧ Balanced inside ∧ f = .same inside) ∨
      call? t = .ok (some f) ∨
      (∃ i op, loosestOperator t = .ok (some (i, op)) ∧
        f = .binary op (t.take i) (t.drop (i + op.length))) ∨
      loosestOperator t = .ok none ∧ ofAtom t = .ok f := by
  unfold ofTrimmed at h
  split at h
  · cases h
  obtain ⟨_ | inside, henclosed, h⟩ := bind_eq_ok_iff.mp h
  · obtain ⟨_ | form, hcall, h⟩ := bind_eq_ok_iff.mp h
    · obtain ⟨_ | ⟨i, op⟩, hloosest, h⟩ := bind_eq_ok_iff.mp h
      · exact .inr (.inr (.inr ⟨hloosest, h⟩))
      · cases h
        exact .inr (.inr (.inl ⟨i, op, hloosest, rfl⟩))
    · cases h
      exact .inr (.inl hcall)
  · cases h
    obtain ⟨heq, hi⟩ := of_enclosed? henclosed
    exact .inl ⟨inside, heq, hi, rfl⟩

/-- Where a part of the form is read, it is a rendering of the tree that it is read as. -/
def PartsRender (f : Form) : Prop :=
  ∀ p ∈ f.parts, ∀ e, Expr.parse p = .ok e → Expr.Rendering p e

end Form

namespace Expr

/-! ### Operands of an operator -/

/-- The operators of a text and what they allow are seen without its tree. -/
theorem Renders.tighten {p q : Nat} {t : List Char} {e : Expr} (h : Renders p t e)
    {ops : List (Nat × Operator)} (hf : Finds t ops) (hops : ∀ o ∈ ops, q ≤ o.2.precedence) :
    Renders q t e := by
  cases h with
  | int ht hn => exact .int ht hn
  | real hc hsign hint hx => exact .real hc hsign hint hx
  | text hs => exact .text hs
  | true ht => exact .true ht
  | false ht => exact .false ht
  | var ht htrue hfalse => exact .var ht htrue hfalse
  | callEmpty hn hg hi => exact .callEmpty hn hg hi
  | call hn hg hgaps hargs => exact .call hn hg hgaps hargs
  | group hg hh ht => exact .group hg hh ht
  | plus hg ht => exact .plus hg ht
  | minus hg ht hint => exact .minus hg ht hint
  | @binary _ op l g h r a b _ hl hg hh hr =>
    obtain ⟨ls, hfl, -⟩ := hl.finds
    obtain ⟨rs, hfr, -⟩ := hr.finds
    have hsame := (Nesting.operators_of_finds hf).symm.trans
      (Nesting.operators_of_finds (hfl.binary op hg hh hfr hr.solid.opens))
    have hmem : (l.length + g.length, op) ∈ ops := by
      rw [Except.ok.inj hsame]
      exact List.mem_append_right _ List.mem_cons_self
    exact .binary (hops _ hmem) hl hg hh hr

/-- A text split at an operator is a rendering if both sides are: the operators in them bind as
tight as the grammar asks for. -/
theorem renders_binary {t : List Char} {i : Nat} {op : Operator} {a b : Expr} (ht : Bare t)
    (hloosest : loosestOperator t = .ok (some (i, op))) (hl : Rendering (t.take i) a)
    (hr : Rendering (t.drop (i + op.length)) b) : Renders 0 t (.binary op a b) := by
  obtain ⟨heq, hplace, -⟩ := Nesting.eq_of_loosestOperator hloosest
  generalize t.take i = l, t.drop (i + op.length) = r at *
  cases hl with
  | @mk g l h _ hg hh hl =>
  cases hr with
  | @mk g' r h' _ hg' hh' hr =>
    obtain ⟨ls, hfl, -⟩ := hl.finds
    obtain ⟨rs, hfr, -⟩ := hr.finds
    have hbare := (hl.solid.binary op hh hg' hr.solid).bare
    have hgaps : t = g ++ (l ++ h ++ op.text.toList ++ g' ++ r) ++ h' := by
      rw [heq]
      simp
    rw [hgaps] at ht
    obtain ⟨rfl, rfl⟩ := ht.eq_nil_of_gaps hg hbare hh'
    have hi : i = l.length + h.length := by simpa using hplace.symm
    subst hi
    rw [List.nil_append, List.append_nil] at hgaps
    rw [hgaps] at hloosest ⊢
    have hf := hfl.binary op hh hg' hfr hr.solid.opens
    have hlater : (l.length + h.length, op) ∉
        Nesting.shift (l.length + h.length + op.length + g'.length) rs := by
      intro hmem
      obtain ⟨o, -, ho⟩ := List.mem_map.mp hmem
      have hplaces := congrArg Prod.fst ho
      have hpos := op.length_pos
      simp only at hplaces
      omega
    obtain ⟨hls, hrs⟩ := Nesting.precedences_of_loosestOperator hf hlater hloosest
    have htighter : ∀ o ∈ rs, op.precedence + 1 ≤ o.2.precedence := by
      intro o ho
      exact hrs (_ + o.1, o.2) (List.mem_map.mpr ⟨o, ho, rfl⟩)
    exact .binary (Nat.zero_le _) (hl.tighten hfl hls) hh hg' (hr.tighten hfr htighter)

/-! ### Arguments of a call -/

theorem Rendering.of_trim {s : List Char} {e : Expr} (h : Rendering (Text.trim s) e) :
    Rendering s e := by
  obtain ⟨g, g', hg, hg', hs⟩ := Text.exists_gaps_trim s
  generalize Text.trim s = t at *
  cases h with
  | @mk h t h' _ hh hh' ht =>
    have heq : s = (g ++ h) ++ t ++ (h' ++ g') := by
      rw [hs]
      simp
    rw [heq]
    exact .mk (hg.append hh) (hh'.append hg') ht

theorem exists_arguments {ps : List (List Char)} {es : List Expr}
    (h : (ps.map Text.trim).mapM parse = .ok es)
    (ih : ∀ q ∈ ps.map Text.trim, ∀ e, parse q = .ok e → Rendering q e) :
    ∃ args : List Argument, args.map Argument.padded = ps ∧ args.map Argument.value = es ∧
      (∀ a ∈ args, a.HasGaps) ∧ ∀ a ∈ args, Renders 0 a.text a.value := by
  induction ps generalizing es with
  | nil =>
    cases h
    exact ⟨[], rfl, rfl, by simp, by simp⟩
  | cons p ps ihps =>
    rw [List.map_cons, List.mapM_cons] at h
    obtain ⟨e, he, h⟩ := bind_eq_ok_iff.mp h
    obtain ⟨es, hes, h⟩ := bind_eq_ok_iff.mp h
    cases h
    obtain ⟨args, hpadded, hvalues, hgaps, hrenders⟩ :=
      ihps hes fun q hq => ih q (List.mem_cons_of_mem _ hq)
    cases (ih _ List.mem_cons_self e he).of_trim with
    | @mk g t g' _ hg hg' ht =>
      refine ⟨⟨g, t, g', e⟩ :: args, ?_, ?_, ?_, ?_⟩
      · rw [List.map_cons, hpadded]
        rfl
      · rw [List.map_cons, hvalues]
      · exact List.forall_mem_cons.mpr ⟨⟨hg, hg'⟩, hgaps⟩
      · exact List.forall_mem_cons.mpr ⟨ht, hrenders⟩

theorem renders_call {t : List Char} {f : Form} {e : Expr} (ht : Bare t)
    (hf : Form.call? t = .ok (some f)) (hread : f.toExpr parse = .ok e)
    (ih : f.PartsRender) : Renders 0 t e := by
  obtain ⟨name, gap, inside, args, rfl, hn, hg, hargs, rfl⟩ := Form.of_call? ht hf
  obtain ⟨es, hes, he⟩ := bind_eq_ok_iff.mp hread
  cases he
  unfold splitArguments at hargs
  split at hargs
  · rename_i hblank
    cases hargs
    cases hes
    exact .callEmpty hn hg (Text.gap_of_trim_eq_nil (List.isEmpty_iff.mp hblank))
  · obtain ⟨⟨p, ps⟩, hpieces, rfl⟩ := map_eq_ok_iff.mp hargs
    obtain ⟨args, hpadded, hvalues, hgaps, hrenders⟩ := exists_arguments hes ih
    rw [Nesting.eq_of_pieces hpieces, ← hpadded, ← hvalues]
    cases args with
    | nil => cases hpadded
    | cons a args => exact .call hn hg hgaps hrenders

/-! ### Atoms -/

/-- A number that is not split has no sign behind its first character, where a sign would be an
operator. -/
theorem renders_real {t : List Char} {x : Float} (hnone : loosestOperator t = .ok none)
    (hint : Number.integer? t = none) (hstart : Form.startsNumber t = true)
    (hx : Number.real? t = some x) : Renders 0 t (.real x) := by
  cases t with
  | nil => cases hstart
  | cons c u =>
    have hc : c.isDigit = true ∨ c = '.' := by simpa [Form.startsNumber] using hstart
    have hword : Text.IsWord [c] := by
      refine ⟨by simp, fun d hd => ?_⟩
      rw [List.mem_singleton.mp hd]
      rcases hc with hc | rfl
      · exact Text.isPlain_of_isDigit hc
      · exact ⟨by decide, by decide⟩
    have hchars : ∀ d ∈ u, Text.IsPlain d ∨ d = '+' ∨ d = '-' := by
      intro d hd
      rcases Number.mem_of_real? hx d (List.mem_cons_of_mem _ hd) with h | h
      · exact .inl (Text.isPlain_of_isDigit h)
      · simp only [List.mem_cons, List.not_mem_nil, or_false] at h
        rcases h with rfl | rfl | rfl | h
        all_goals first | exact .inr h | exact .inl ⟨by decide, by decide⟩
    have hplain := Nesting.isPlain_of_operators_eq_nil hword hchars
      (Nesting.operators_of_loosestOperator_eq_none hnone)
    have hsign : '+' ∉ u ∧ '-' ∉ u :=
      ⟨fun h => (hplain _ h).1 (by decide), fun h => (hplain _ h).1 (by decide)⟩
    exact .real hc hsign (Number.integer?_eq_none_iff.mp hint) hx

/-- The operand behind a sign that is not split has no operators. -/
theorem exists_renders_of_sign {c : Char} (hc : c = '+' ∨ c = '-') {rest : List Char} {e : Expr}
    (ht : Bare (c :: rest)) (hnone : loosestOperator (c :: rest) = .ok none)
    (h : Rendering rest e) : ∃ g t, rest = g ++ t ∧ Gap g ∧ Renders 7 t e := by
  cases h with
  | @mk g t h _ hg hh hr =>
    have hbare := (hr.solid.sign hc hg).bare
    obtain ⟨-, rfl⟩ := Text.Bare.eq_nil_of_gaps (g := []) (m := c :: g ++ t) (h := h)
      (by simpa using ht) Text.gap_nil hbare hh
    obtain ⟨ops, hf, -⟩ := hr.finds
    have hops := Nesting.operators_of_loosestOperator_eq_none hnone
    rw [List.append_nil] at hops
    cases Nesting.eq_nil_of_operators_sign hc hg hf hops
    exact ⟨g, t, List.append_nil _, hg, hr.tighten hf (by simp)⟩

theorem renders_signedOrNamed {t : List Char} {f : Form} {e : Expr} (ht : Bare t)
    (hnone : loosestOperator t = .ok none) (htrue : sameWord t "true".toList = false)
    (hfalse : sameWord t "false".toList = false) (hint : Number.integer? t = none)
    (hf : Form.signedOrNamed t = .ok f) (hread : f.toExpr parse = .ok e)
    (ih : f.PartsRender) : Renders 0 t e := by
  unfold Form.signedOrNamed at hf
  split at hf
  · rename_i rest
    cases hf
    obtain ⟨a, ha, he⟩ := bind_eq_ok_iff.mp hread
    cases he
    have hrest := ih rest List.mem_cons_self a ha
    obtain ⟨g, t, rfl, hg, hr⟩ := exists_renders_of_sign (.inr rfl) ht hnone hrest
    exact .minus hg hr (Number.integer?_eq_none_iff.mp hint)
  · rename_i rest
    cases hf
    have hrest := ih rest List.mem_cons_self e hread
    obtain ⟨g, t, rfl, hg, hr⟩ := exists_renders_of_sign (.inl rfl) ht hnone hrest
    exact .plus hg hr
  · split at hf
    · rename_i hid
      cases hf
      cases hread
      exact .var hid htrue hfalse
    · cases hf

/-- A text that is read as an atom. -/
theorem renders_atom {t : List Char} {f : Form} {e : Expr} (ht : Bare t)
    (hnone : loosestOperator t = .ok none) (hf : Form.ofAtom t = .ok f)
    (hread : f.toExpr parse = .ok e) (ih : f.PartsRender) : Renders 0 t e := by
  unfold Form.ofAtom at hf
  split at hf
  · rename_i htrue
    cases hf
    cases hread
    exact .true htrue
  rename_i htrue
  split at hf
  · rename_i hfalse
    cases hf
    cases hread
    exact .false hfalse
  rename_i hfalse
  split at hf
  · rename_i k hint
    cases hf
    cases hread
    obtain ⟨n, hn, hfits, rfl⟩ := Number.integer?_eq_some_iff.mp hint
    exact .int hn hfits
  rename_i hint
  split at hf
  · rename_i hstart
    unfold Form.number at hf
    split at hf
    · rename_i x hx
      cases hf
      cases hread
      exact renders_real hnone hint hstart hx
    · cases hf
  split at hf
  · rename_i inside hquoted
    cases hf
    cases hread
    obtain ⟨rfl, hs⟩ := Form.quoted?_eq_some_iff.mp hquoted
    exact .text hs
  · exact renders_signedOrNamed ht hnone (by simpa using htrue) (by simpa using hfalse) hint hf
      hread ih

/-! ### All texts -/

/-- A text of which the parts are renderings is one. -/
theorem rendering_of_form {s : List Char} {f : Form} {e : Expr} (hf : Form.ofText s = .ok f)
    (hread : f.toExpr parse = .ok e) (ih : f.PartsRender) : Rendering s e := by
  have hne : Text.trim s ≠ [] := by
    intro h
    rw [Form.ofText, h] at hf
    cases hf
  have ht := Text.bare_trim hne
  apply Rendering.of_trim
  rw [Form.ofText] at hf
  generalize Text.trim s = t at *
  suffices h : Renders 0 t e by simpa using Rendering.mk Text.gap_nil Text.gap_nil h
  rcases Form.of_ofTrimmed hf with ⟨inside, rfl, -, rfl⟩ | hcall | ⟨i, op, hloosest, rfl⟩ | hatom
  · cases ih inside List.mem_cons_self e hread with
    | mk hg hh hr => exact .group hg hh hr
  · exact renders_call ht hcall hread ih
  · obtain ⟨a, ha, hread⟩ := bind_eq_ok_iff.mp hread
    obtain ⟨b, hb, hread⟩ := bind_eq_ok_iff.mp hread
    cases hread
    have hl := ih _ (by simp [Form.parts]) a ha
    have hr := ih _ (by simp [Form.parts]) b hb
    exact renders_binary ht hloosest hl hr
  · exact renders_atom ht hatom.1 hatom.2 hread ih

/-- A text that is read is a rendering of the tree that it is read as. -/
theorem rendering_of_parse {s : List Char} {e : Expr} (h : parse s = .ok e) : Rendering s e := by
  induction s using Form.induction_parts generalizing e with
  | step s ih =>
    rw [parse_eq] at h
    obtain ⟨f, hf, hread⟩ := bind_eq_ok_iff.mp h
    exact rendering_of_form hf hread fun p hp a ha => ih f hf p hp ha

/-- Exactly the renderings of expressions are read, each as its tree, and any other text is a syntax
error. -/
theorem parse_reads_renderings (s : List Char) :
    (∀ e, parse s = .ok e ↔ Rendering s e) ∧
      ((∀ e, ¬Rendering s e) → ∃ cause, parse s = .error cause ∧ cause.code = .syntaxError) := by
  constructor
  · intro e
    refine ⟨rendering_of_parse, ?_⟩
    rintro ⟨hg, hh, ht⟩
    exact ht.parse_eq hg hh
  · intro hother
    cases hs : parse s with
    | ok e => exact absurd (rendering_of_parse hs) (hother e)
    | error cause => exact ⟨cause, rfl, failsOnSyntax_parse s cause hs⟩

theorem parse_empty_argument :
    (∀ e, ¬Rendering "f(,)".toList e) ∧
      ∃ cause, parse "f(,)".toList = .error cause ∧ cause.code = .syntaxError := by
  obtain ⟨hread, hother⟩ := parse_reads_renderings "f(,)".toList
  have hempty : parse [] = .error .expectedExpression := by
    rw [parse_eq]
    rfl
  have hform : Form.ofText "f(,)".toList = .ok (.call "f" [[], []]) := rfl
  have hfail : parse "f(,)".toList = .error .expectedExpression := by
    rw [parse_eq, hform]
    show (do return Expr.call "f" (← [[], []].mapM parse)) = _
    rw [List.mapM_cons, hempty]
    rfl
  have hnone : ∀ e, ¬Rendering "f(,)".toList e := by
    intro e he
    rw [(hread e).mpr he] at hfail
    cases hfail
  exact ⟨hnone, hother hnone⟩

end Expr

end PaintRobot
