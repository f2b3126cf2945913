import PaintRobot.Proofs.Expr.PairedTexts
import PaintRobot.Proofs.Statement.Failures

/-!
Groups of arguments and parameters. Once the end of a group is found, cutting its inside at the
commas cannot fail any more, and what is cut out is read without missing a partner.
-/
namespace PaintRobot

open Nesting (Paired Faulty CutInto)
open Cause (BesidesPairs)

theorem Param.failsWith_parse_of_paired {s : List Char} (hs : Paired s) :
    FailsWith BesidesPairs (Param.parse s) := by
  unfold Param.parse
  split
  · exact .error ⟨nofun, nofun, nofun⟩
  split
  · exact .ok _
  split
  · exact .ok _
  · exact (Expr.failsWith_parse_of_paired hs).map _

namespace Statement

theorem NoVerb.besidesPairs {name : List Char} {cause : Cause} (h : NoVerb name cause) :
    cause.BesidesPairs := by
  rcases h with rfl | rfl <;> exact ⟨nofun, nofun, nofun⟩

/-- In a command the only parenthesis that can be found to lack its partner is the first one. -/
theorem besidesPairs_of_parseCommand (s : List Char) :
    FailsWith (fun cause => cause = .expectedClosing ∨ cause.BesidesPairs) (parseCommand s) := by
  unfold parseCommand
  split
  · exact (failsWith_ofVerbName s []).mono fun _ h => .inr h.besidesPairs
  · refine ((failsWith_cutGroup _).mono fun _ => .inl).bind fun (inside, tail) hcut => ?_
    obtain ⟨-, hinside⟩ := Nesting.cutGroup_eq_ok_iff.mp hcut
    simp only
    split
    · refine hinside.failsWith_splitArguments.bind fun texts htexts => ?_
      have hread : ∀ t ∈ texts, FailsWith BesidesPairs (Param.parse t) :=
        fun t ht => Param.failsWith_parse_of_paired
          (Nesting.closed_of_mem_splitArguments htexts t ht).paired
      refine ((FailsWith.mapM hread).mono fun _ => .inr).bind fun params _ => ?_
      exact (failsWith_ofVerbName _ params).mono fun _ h => .inr h.besidesPairs
    · exact .error (.inr ⟨nofun, nofun, nofun⟩)

end Statement

/-- The scans of a text agree on its parentheses and quotes. The group behind a `(` ends at the `)`
up to which the text can be cut at commas, and no earlier `)` is like that. A text can be cut at its
commas and searched for operators if it has everything in pairs, and else both fail for what is
wrong with it. It is cut at exactly the commas outside parentheses and quotes, into parts that are
cut no more. So the inside of a group is always cut into arguments. -/
theorem scans_agree (s : List Char) :
    (∀ before rest, s = before ++ '(' :: rest → ∀ inside tail,
      cutGroup rest = .ok (inside, tail) ↔
        rest = inside ++ ')' :: tail ∧ (∃ parts, splitCommas inside = .ok parts) ∧
          ∀ u v, rest = u ++ ')' :: v → u.length < inside.length →
            ∃ cause, splitCommas u = .error cause) ∧
      ((∃ parts, splitCommas s = .ok parts) ↔ Paired s) ∧
      ((∃ found, loosestOperator s = .ok found) ↔ Paired s) ∧
      (∀ cause, (splitCommas s = .error cause ↔ Faulty s cause) ∧
        (loosestOperator s = .error cause ↔ Faulty s cause)) ∧
      (∀ parts, splitCommas s = .ok parts ↔
        ∃ pieces, CutInto s pieces ∧ parts = pieces.map Text.trim) ∧
      (∀ parts, splitCommas s = .ok parts → ∀ p ∈ parts, splitCommas p = .ok [p]) ∧
      (∀ before rest, s = before ++ '(' :: rest → ∀ inside tail,
        cutGroup rest = .ok (inside, tail) → ∃ args, splitArguments inside = .ok args) ∧
      (∀ cause, Form.call? s = .error cause → cause = .expectedClosing) ∧
      ∀ cause, Statement.parseCommand s = .error cause →
        cause ≠ .unbalanced ∧ cause ≠ .unterminatedText := by
  refine ⟨?_, Nesting.exists_splitCommas_iff, Nesting.exists_loosestOperator_iff, ?_,
    fun _ => Nesting.splitCommas_eq_ok_iff, ?_, ?_, Form.failsWith_call? s, ?_⟩
  · intro before rest _ inside tail
    rw [Nesting.cutGroup_eq_ok_iff, Nesting.exists_splitCommas_iff]
    refine ⟨?_, fun h => ⟨h.1, h.2.1⟩⟩
    rintro ⟨rfl, hinside⟩
    refine ⟨rfl, hinside, fun u v he hlt => ?_⟩
    obtain ⟨cause, hu⟩ := hinside.faulty_of_length_lt he hlt
    exact ⟨cause, Nesting.splitCommas_eq_error_iff.mpr hu⟩
  · exact fun cause =>
      ⟨Nesting.splitCommas_eq_error_iff, Nesting.loosestOperator_eq_error_iff⟩
  · intro parts hparts p hp
    obtain ⟨pieces, hcut, rfl⟩ := Nesting.splitCommas_eq_ok_iff.mp hparts
    obtain ⟨q, hq, rfl⟩ := List.mem_map.mp hp
    exact (hcut.closed q hq).splitCommas_trim
  · intro before rest _ inside tail hcut
    exact (Nesting.cutGroup_eq_ok_iff.mp hcut).2.exists_splitArguments
  · intro cause hcause
    rcases Statement.besidesPairs_of_parseCommand s cause hcause with rfl | h
    · decide
    · exact h.2

end PaintRobot
