import PaintRobot.Proofs.Expr.Scans
import PaintRobot.Proofs.Expr.Soundness

/-!
Reading texts that have their parentheses and quotes in pairs. The parts of such a text are such
texts again, so however deep the reading goes, it fails for other reasons than a missing partner.
-/
namespace PaintRobot

open Nesting (Paired)

/-- The fault is another than that a parenthesis or a quote has no partner. -/
def Cause.BesidesPairs (cause : Cause) : Prop :=
  cause ≠ .expectedClosing ∧ cause ≠ .unbalanced ∧ cause ≠ .unterminatedText

open Cause (BesidesPairs)

namespace Nesting

/-! ### Parts of paired texts -/

theorem Closed.paired {s : List Char} (h : Closed s) : Paired s := (closed_iff.mp h).1

theorem Paired.of_append {s t : List Char} (hs : Paired s) (h : Paired (s ++ t)) : Paired t := by
  rw [← check_eq_ok_iff] at h ⊢
  rw [← h]
  exact (hs.check_append 0 t).symm

theorem Paired.trim {s : List Char} (h : Paired s) : Paired (Text.trim s) :=
  balanced_iff.mp (balanced_iff.mpr h).trim

/-- A group at the start of a paired text is closed there. -/
theorem Paired.exists_cutGroup {rest : List Char} (h : Paired ('(' :: rest)) :
    ∃ inside tail, cutGroup rest = .ok (inside, tail) ∧ Paired inside := by
  generalize hs : '(' :: rest = s at h
  cases h with
  | nil => cases hs
  | plain hc =>
    cases hs
    exact absurd hc (by decide)
  | quoted => cases hs
  | @group u v hu =>
    cases hs
    exact ⟨u, v, cutGroup_eq_ok_iff.mpr ⟨rfl, hu⟩, hu⟩

theorem Paired.failsWith_splitArguments {kind : Cause → Prop} {s : List Char} (h : Paired s) :
    FailsWith kind (splitArguments s) := by
  obtain ⟨args, hargs⟩ := h.exists_splitArguments
  rw [hargs]
  exact .ok args

theorem paired_of_sign {c : Char} (hc : c = '+' ∨ c = '-') {rest : List Char}
    (h : Paired (c :: rest)) : Paired rest := by
  have hsign : Paired [c] := by rcases hc with rfl | rfl <;> exact .plain (by decide) .nil
  exact hsign.of_append h

end Nesting

namespace Form

theorem exists_enclosed? {t : List Char} (h : Paired t) : ∃ inside, enclosed? t = .ok inside := by
  unfold enclosed?
  split
  · obtain ⟨inside, tail, hcut, -⟩ := h.exists_cutGroup
    rw [hcut]
    exact ⟨_, rfl⟩
  · exact ⟨none, rfl⟩

/-- The group behind a name is the first in the text. -/
theorem paired_of_name {s rest : List Char} (hs : Paired s)
    (hdrop : s.dropWhile (· != '(') = rest)
    (hname : Text.isIdentifier (Text.trim (s.takeWhile (· != '('))) = true) : Paired rest := by
  have hfront : Paired (s.takeWhile (· != '(')) := by
    apply (Nesting.closed_of_forall _).paired
    intro c hc
    rcases Text.mem_trim_or_isBlank hc with h | h
    · exact ((Text.isWord_of_isIdentifier hname).2 c h).1
    · exact Text.notMem_marks_of_isBlank h
  apply hfront.of_append
  rwa [← hdrop, List.takeWhile_append_dropWhile]

/-- The arguments of a call are cut apart without a fault. -/
theorem failsWith_call? (s : List Char) : FailsWith (· = .expectedClosing) (call? s) := by
  unfold call?
  simp only
  split
  · exact .ok none
  split
  · refine (failsWith_cutGroup _).bind fun (inside, tail) hcut => ?_
    obtain ⟨-, hinside⟩ := Nesting.cutGroup_eq_ok_iff.mp hcut
    simp only
    split
    · exact hinside.failsWith_splitArguments.bind fun _ _ => .ok _
    · exact .ok none
  · exact .ok none

theorem exists_call? {t : List Char} (h : Paired t) : ∃ form, call? t = .ok form := by
  unfold call?
  simp only
  split
  · exact ⟨none, rfl⟩
  · rename_i c rest hdrop
    split
    · rename_i hcond
      obtain rfl : c = '(' := by
        have := List.head?_dropWhile_not (· != '(') t
        simpa [hdrop] using this
      have hgroup := paired_of_name h hdrop (Bool.and_eq_true_iff.mp hcond).2
      obtain ⟨inside, tail, hcut, hinside⟩ := hgroup.exists_cutGroup
      obtain ⟨args, hargs⟩ := hinside.exists_splitArguments
      simp only [hcut, hargs, bind, Except.bind]
      split <;> exact ⟨_, rfl⟩
    · exact ⟨none, rfl⟩

theorem failsWith_ofTrimmed {t : List Char} (h : Paired t) :
    FailsWith BesidesPairs (ofTrimmed t) := by
  obtain ⟨inside, henclosed⟩ := exists_enclosed? h
  obtain ⟨form, hcall⟩ := exists_call? h
  obtain ⟨found, hfound⟩ := Nesting.exists_loosestOperator_iff.mpr h
  unfold ofTrimmed
  rw [henclosed, hcall, hfound]
  split
  · exact .error ⟨nofun, nofun, nofun⟩
  cases inside with
  | some inside => exact .ok _
  | none =>
    cases form with
    | some form => exact .ok _
    | none =>
      cases found with
      | some o => exact .ok _
      | none =>
        refine (failsWith_ofAtom t).mono ?_
        rintro cause (rfl | rfl) <;> exact ⟨nofun, nofun, nofun⟩

/-- The only part of an atom is what stands behind a sign. -/
theorem eq_of_mem_parts_ofAtom {t : List Char} {f : Form} (h : ofAtom t = .ok f) :
    ∀ p ∈ f.parts, ∃ c, (c = '+' ∨ c = '-') ∧ t = c :: p := by
  unfold ofAtom number signedOrNamed at h
  grind [parts]

theorem paired_of_mem_parts {s : List Char} {f : Form} (hs : Paired s) (h : ofText s = .ok f) :
    ∀ p ∈ f.parts, Paired p := by
  have ht := hs.trim
  have hbare : Text.trim s ≠ [] → Text.Bare (Text.trim s) := Text.bare_trim
  rw [ofText] at h
  generalize Text.trim s = t at *
  rcases of_ofTrimmed h with ⟨inside, -, hi, rfl⟩ | hcall | ⟨i, op, hloosest, rfl⟩ | ⟨-, hatom⟩
  · simpa [parts] using Nesting.balanced_iff.mp hi
  · have hne : t ≠ [] := by
      rintro rfl
      cases hcall
    obtain ⟨name, gap, inside, args, -, -, -, hargs, rfl⟩ := of_call? (hbare hne) hcall
    exact fun p hp => (Nesting.closed_of_mem_splitArguments hargs p hp).paired
  · obtain ⟨heq, -, hl⟩ := Nesting.eq_of_loosestOperator hloosest
    have hleft := Nesting.balanced_iff.mp hl
    have hop : Nesting.Closed op.text.toList := by cases op <;> rfl
    have hright : Paired (t.drop (i + op.length)) := by
      rw [heq] at ht
      exact (hleft.append hop.paired).of_append ht
    simp [parts, hleft, hright]
  · intro p hp
    obtain ⟨c, hc, rfl⟩ := eq_of_mem_parts_ofAtom hatom p hp
    exact Nesting.paired_of_sign hc ht

end Form

/-- Reading a text with everything in pairs does not fail for want of a partner. -/
theorem Expr.failsWith_parse_of_paired {s : List Char} (hs : Paired s) :
    FailsWith BesidesPairs (parse s) := by
  induction s using Form.induction_parts with
  | step s ih =>
    rw [parse_eq]
    refine (Form.failsWith_ofTrimmed hs.trim).bind fun f hf => ?_
    exact Form.failsWith_toExpr fun p hp => ih f hf p hp (Form.paired_of_mem_parts hs hf p hp)

end PaintRobot
