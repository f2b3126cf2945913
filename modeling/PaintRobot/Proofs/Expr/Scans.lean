import PaintRobot.Proofs.Expr.Cutting
import PaintRobot.Proofs.Expr.Pairs
import PaintRobot.Proofs.Failure

/-!
The scans that cut a text. The search for the end of a group, the cutting at commas and the search
for operators follow parentheses and quotes alike: the last two fail on the same texts with the same
fault, and what the first one cuts out is a text on which they do not.
-/
namespace PaintRobot.Nesting

/-! ### The end of a group -/

/-- A group ends with the one `)` before which everything is in pairs. -/
theorem cutGroup_eq_ok_iff {s inside tail : List Char} :
    cutGroup s = .ok (inside, tail) ↔ s = inside ++ ')' :: tail ∧ Paired inside := by
  rw [← balanced_iff]
  constructor
  · exact of_cutGroup
  · rintro ⟨rfl, h⟩
    exact cutGroup_of_balanced h tail

/-- At an earlier `)` something before it lacks its partner. -/
theorem Paired.faulty_of_length_lt {inside tail u v : List Char} (h : Paired inside)
    (he : inside ++ ')' :: tail = u ++ ')' :: v) (hlt : u.length < inside.length) :
    ∃ cause, Faulty u cause := by
  refine (paired_or_faulty u).resolve_left fun hu => ?_
  have hsame := (cutGroup_eq_ok_iff.mpr ⟨rfl, h⟩).symm.trans (cutGroup_eq_ok_iff.mpr ⟨he, hu⟩)
  cases hsame
  exact Nat.lt_irrefl _ hlt

/-! ### What the scans find wrong -/

/-- What a scan finds out about parentheses and quotes, whatever else it returns. -/
def fault {α : Type} (x : Except Cause α) : Except Cause Unit := x.map fun _ => ()

theorem fault_map {α β : Type} (x : Except Cause α) (f : α → β) : fault (x.map f) = fault x := by
  cases x <;> rfl

theorem fault_unit (x : Except Cause Unit) : fault x = x := by
  cases x <;> rfl

theorem fault_eq_error_iff {α : Type} {x : Except Cause α} {cause : Cause} :
    fault x = .error cause ↔ x = .error cause := map_eq_error_iff

theorem fault_eq_ok_iff {α : Type} {x : Except Cause α} :
    fault x = .ok () ↔ ∃ a, x = .ok a := by
  simp [fault, map_eq_ok_iff]

theorem fault_pieces (n : Nesting) (s : List Char) : fault (n.pieces s) = n.check s := by
  induction s generalizing n with
  | nil => exact (fault_map n.ending _).trans (fault_unit n.ending)
  | cons c rest ih =>
    rw [pieces, check]
    split
    · rename_i hcomma
      obtain ⟨htop, hc⟩ := Bool.and_eq_true_iff.mp hcomma
      rw [fault_map, ih, isTop_iff.mp htop, eq_of_beq hc]
      rfl
    · cases n.after? c with
      | none => rfl
      | some m => exact (fault_map _ _).trans (ih m)

theorem fault_operators {n : Nesting} {before : Option Char} {skip : Bool} {i : Nat}
    {s : List Char} (hskip : n.MaySkip skip s) :
    fault (n.operators before skip i s) = n.check s := by
  induction s generalizing n before skip i with
  | nil => exact (fault_map n.ending _).trans (fault_unit n.ending)
  | cons c rest ih =>
    rw [operators, check]
    split
    · rename_i hskipped
      rw [hskip hskipped c rfl]
      exact ih (maySkip_false n rest)
    split
    · rename_i hpair
      obtain ⟨-, hc, hsecond, -⟩ := of_pairAt? hpair
      rw [fault_map, hc]
      exact ih hsecond
    cases n.after? c with
    | none => rfl
    | some m => exact (fault_map _ _).trans (ih (maySkip_false m rest))

/-- Cutting at commas and the search for operators fail for what the scan finds wrong. -/
theorem fault_splitCommas (s : List Char) : fault (splitCommas s) = top.check s :=
  (fault_map _ _).trans (top.fault_pieces s)

theorem fault_loosestOperator (s : List Char) : fault (loosestOperator s) = top.check s :=
  (fault_map _ _).trans (fault_operators (maySkip_false top s))

theorem exists_splitCommas_iff {s : List Char} :
    (∃ parts, splitCommas s = .ok parts) ↔ Paired s := by
  rw [← fault_eq_ok_iff, fault_splitCommas, check_eq_ok_iff]

theorem splitCommas_eq_error_iff {s : List Char} {cause : Cause} :
    splitCommas s = .error cause ↔ Faulty s cause := by
  rw [← fault_eq_error_iff, fault_splitCommas, check_eq_error_iff]

theorem exists_loosestOperator_iff {s : List Char} :
    (∃ found, loosestOperator s = .ok found) ↔ Paired s := by
  rw [← fault_eq_ok_iff, fault_loosestOperator, check_eq_ok_iff]

theorem loosestOperator_eq_error_iff {s : List Char} {cause : Cause} :
    loosestOperator s = .error cause ↔ Faulty s cause := by
  rw [← fault_eq_error_iff, fault_loosestOperator, check_eq_error_iff]

/-! ### Pieces -/

/-- The text is cut into these pieces at exactly its commas outside parentheses and quotes, which
are those before which everything is in pairs. -/
structure CutInto (s : List Char) (pieces : List (List Char)) : Prop where
  ne_nil : pieces ≠ []
  joined : s = [','].intercalate pieces
  paired : ∀ p ∈ pieces, Paired p
  no_comma : ∀ p ∈ pieces, ∀ u v, p = u ++ ',' :: v → ¬Paired u

theorem foldlM_within?_of_after? {s : List Char} {n m : Nesting} (h : s.foldlM after? n = some m)
    (hcomma : ∀ u v, s = u ++ ',' :: v → u.foldlM after? n ≠ some top) :
    s.foldlM within? n = some m := by
  induction s generalizing n with
  | nil => exact h
  | cons c rest ih =>
    rw [List.foldlM_cons, Option.bind_eq_bind, Option.bind_eq_some_iff] at h ⊢
    obtain ⟨k, hk, hm⟩ := h
    have hstep : n.within? c = some k := by
      rw [within?, if_neg, hk]
      intro hc
      obtain ⟨htop, hc⟩ := Bool.and_eq_true_iff.mp hc
      exact hcomma [] rest (by rw [eq_of_beq hc]; rfl) (congrArg some (isTop_iff.mp htop))
    refine ⟨k, hstep, ih hm fun u v he hu => hcomma (c :: u) v (by rw [he]; rfl) ?_⟩
    rw [List.foldlM_cons, hk]
    exact hu

/-- A closed text has no comma before which everything is in pairs. -/
theorem closed_iff {s : List Char} :
    Closed s ↔ Paired s ∧ ∀ u v, s = u ++ ',' :: v → ¬Paired u := by
  constructor
  · refine fun h => ⟨balanced_iff.mp h.balanced, ?_⟩
    rintro u v rfl hu
    obtain ⟨k, hk, hrest⟩ := Option.bind_eq_some_iff.mp (List.foldlM_append.symm.trans h)
    have htop : k = top := by
      exact Option.some.inj ((foldlM_after?_of_within? hk).symm.trans (hu.foldlM 0))
    rw [htop] at hrest
    cases hrest
  · rintro ⟨hs, hcomma⟩
    exact foldlM_within?_of_after? (hs.foldlM 0) fun u v he hu =>
      hcomma u v he (balanced_iff.mp hu)

theorem CutInto.closed {s : List Char} {pieces : List (List Char)} (h : CutInto s pieces) :
    ∀ p ∈ pieces, Closed p :=
  fun p hp => closed_iff.mpr ⟨h.paired p hp, h.no_comma p hp⟩

theorem splitCommas_eq_ok_iff {s : List Char} {parts : List (List Char)} :
    splitCommas s = .ok parts ↔ ∃ pieces, CutInto s pieces ∧ parts = pieces.map Text.trim := by
  constructor
  · intro h
    obtain ⟨⟨p, ps⟩, hpieces, rfl⟩ := map_eq_ok_iff.mp h
    obtain ⟨hjoined, hp, hps⟩ := of_pieces hpieces
    have hclosed : ∀ q ∈ p :: ps, Closed q := List.forall_mem_cons.mpr ⟨hp, hps⟩
    exact ⟨p :: ps, ⟨by simp, hjoined, fun q hq => (closed_iff.mp (hclosed q hq)).1,
      fun q hq => (closed_iff.mp (hclosed q hq)).2⟩, rfl⟩
  · rintro ⟨pieces, hcut, rfl⟩
    obtain ⟨p, ps, rfl⟩ := List.exists_cons_of_ne_nil hcut.ne_nil
    rw [splitCommas, hcut.joined, pieces_intercalate hcut.closed]
    rfl

example : splitCommas "1, f(2, 3), \"a,b\"".toList =
    .ok ["1".toList, "f(2, 3)".toList, "\"a,b\"".toList] := rfl

/-- What commas have cut out is cut no more. -/
theorem Closed.splitCommas_trim {p : List Char} (h : Closed p) :
    splitCommas (Text.trim p) = .ok [Text.trim p] := by
  have hpieces := @pieces_intercalate (Text.trim p) [] (by simpa using h.trim)
  rw [List.intercalate_singleton] at hpieces
  rw [splitCommas, hpieces]
  simp [Except.map, Text.trim_trim]

theorem closed_of_mem_splitArguments {s : List Char} {args : List (List Char)}
    (h : splitArguments s = .ok args) : ∀ a ∈ args, Closed a := by
  unfold splitArguments at h
  split at h
  · cases h
    simp
  · obtain ⟨pieces, hcut, rfl⟩ := splitCommas_eq_ok_iff.mp h
    intro a ha
    obtain ⟨p, hp, rfl⟩ := List.mem_map.mp ha
    exact (hcut.closed p hp).trim

/-- Where everything is in pairs there are arguments. -/
theorem Paired.exists_splitArguments {s : List Char} (h : Paired s) :
    ∃ args, splitArguments s = .ok args := by
  unfold splitArguments
  split
  · exact ⟨[], rfl⟩
  · exact exists_splitCommas_iff.mpr h

end PaintRobot.Nesting
