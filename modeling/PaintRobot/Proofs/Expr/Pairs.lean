import PaintRobot.Proofs.Expr.Balance

/-!
Parentheses and quotes in pairs, said without a scan. In a text either all of them are in pairs, or
a `)` closes nothing, or the text ends inside a string or a group; the scan that all cuts are made
in finds out which.
-/
namespace PaintRobot.Nesting

/-! ### What is right and what can be wrong -/

/-- Every parenthesis and every quote has its partner. Between quotes all else is plain text. -/
inductive Paired : List Char → Prop where
  | nil : Paired []
  | plain {c : Char} {s : List Char} (hc : c ∉ ['"', '(', ')']) (hs : Paired s) : Paired (c :: s)
  | quoted {u s : List Char} (hu : '"' ∉ u) (hs : Paired s) : Paired ('"' :: u ++ '"' :: s)
  | group {u s : List Char} (hu : Paired u) (hs : Paired s) : Paired ('(' :: u ++ ')' :: s)

/-- The text ends inside a string, or else inside a group. -/
inductive Unfinished : List Char → Cause → Prop where
  | string {u v : List Char} (hu : Paired u) (hv : '"' ∉ v) :
      Unfinished (u ++ '"' :: v) .unterminatedText
  | group {u v : List Char} (hu : Paired u) (hv : Paired v) :
      Unfinished (u ++ '(' :: v) .unbalanced
  | inGroup {u v : List Char} {cause : Cause} (hu : Paired u) (hv : Unfinished v cause) :
      Unfinished (u ++ '(' :: v) cause

/-- What is wrong with the parentheses and quotes of a text. -/
inductive Faulty : List Char → Cause → Prop where
  | closing {u v : List Char} (hu : Paired u) : Faulty (u ++ ')' :: v) .unbalanced
  | ending {s : List Char} {cause : Cause} (hs : Unfinished s cause) : Faulty s cause

theorem Paired.append {s t : List Char} (hs : Paired s) (ht : Paired t) : Paired (s ++ t) := by
  induction hs with
  | nil => exact ht
  | plain hc _ ih => exact .plain hc ih
  | quoted hu _ ih => simpa using Paired.quoted hu ih
  | group hu _ _ ih => simpa using Paired.group hu ih

theorem Unfinished.append {u s : List Char} {cause : Cause} (hu : Paired u)
    (hs : Unfinished s cause) : Unfinished (u ++ s) cause := by
  cases hs with
  | string hu' hv => simpa using Unfinished.string (hu.append hu') hv
  | group hu' hv => simpa using Unfinished.group (hu.append hu') hv
  | inGroup hu' hv => simpa using Unfinished.inGroup (hu.append hu') hv

theorem Faulty.append {u s : List Char} {cause : Cause} (hu : Paired u) (hs : Faulty s cause) :
    Faulty (u ++ s) cause := by
  cases hs with
  | closing hu' => simpa using Faulty.closing (hu.append hu')
  | ending hs => exact .ending (hs.append hu)

/-- Every text is right or has one of these faults. -/
theorem paired_or_faulty (s : List Char) : Paired s ∨ ∃ cause, Faulty s cause := by
  induction hn : s.length using Nat.strongRecOn generalizing s with
  | ind n ih =>
    -- What is right at the start of a text does not matter.
    have hskip : ∀ u t, s = u ++ t → u ≠ [] → Paired u → Paired s ∨ ∃ cause, Faulty s cause := by
      rintro u t rfl hne hu
      have hlt : t.length < n := by
        rw [← hn, List.length_append]
        exact Nat.lt_add_of_pos_left (List.length_pos_iff.mpr hne)
      exact (ih t.length hlt t rfl).imp hu.append fun ⟨cause, ht⟩ => ⟨cause, ht.append hu⟩
    cases s with
    | nil => exact .inl .nil
    | cons c rest =>
      by_cases hc : c ∈ ['"', '(', ')']
      · simp only [List.mem_cons, List.not_mem_nil, or_false] at hc
        rcases hc with rfl | rfl | rfl
        · by_cases hquote : '"' ∈ rest
          · obtain ⟨u, v, rfl, hu⟩ := List.eq_append_cons_of_mem hquote
            exact hskip ('"' :: u ++ ['"']) v (by simp) (by simp) (.quoted hu .nil)
          · exact .inr ⟨_, .ending (.string (u := []) .nil hquote)⟩
        · rcases ih rest.length (by simp [← hn]) rest rfl with hrest | ⟨cause, hrest⟩
          · exact .inr ⟨_, .ending (.group (u := []) .nil hrest)⟩
          · cases hrest with
            | @closing u v hu =>
              exact hskip ('(' :: u ++ [')']) v (by simp) (by simp) (.group hu .nil)
            | ending hrest => exact .inr ⟨_, .ending (.inGroup (u := []) .nil hrest)⟩
        · exact .inr ⟨_, .closing (u := []) .nil⟩
      · exact hskip [c] rest rfl (by simp) (.plain hc .nil)

/-! ### The scan -/

/-- The scan that all cuts are made in. -/
def check (n : Nesting) : List Char → Except Cause Unit
  | [] => n.ending
  | c :: rest =>
    match n.after? c with
    | none => .error .unbalanced
    | some m => check m rest

theorem check_append {s : List Char} {n m : Nesting} (h : s.foldlM after? n = some m)
    (rest : List Char) : n.check (s ++ rest) = m.check rest := by
  induction s generalizing n with
  | nil =>
    cases h
    rfl
  | cons c s ih =>
    rw [List.foldlM_cons, Option.bind_eq_bind, Option.bind_eq_some_iff] at h
    obtain ⟨k, hk, hm⟩ := h
    simp only [List.cons_append, check, hk, ih hm]

/-- Behind what is right a scan stands where it stood before. -/
theorem Paired.foldlM {s : List Char} (h : Paired s) (depth : Nat) :
    s.foldlM after? ⟨depth, false⟩ = some ⟨depth, false⟩ := by
  induction h generalizing depth with
  | nil => rfl
  | @plain c s hc _ ih =>
    have hstep : after? ⟨depth, false⟩ c = some ⟨depth, false⟩ := by
      simp only [List.mem_cons, List.not_mem_nil, or_false, not_or] at hc
      simp [after?, hc]
    rw [List.foldlM_cons, hstep]
    exact ih depth
  | @quoted u s hu _ ih =>
    have hquotes := foldlM_after?_of_within? (foldlM_within?_quoted hu depth)
    rw [List.cons_append, List.foldlM_cons,
      show after? ⟨depth, false⟩ '"' = some ⟨depth, true⟩ from rfl, Option.bind_eq_bind,
      Option.bind_some, List.foldlM_append, hquotes]
    exact ih depth
  | group _ _ ihu ihs =>
    rw [List.cons_append, List.foldlM_cons,
      show after? ⟨depth, false⟩ '(' = some ⟨depth + 1, false⟩ from rfl, Option.bind_eq_bind,
      Option.bind_some, List.foldlM_append, ihu (depth + 1)]
    exact ihs depth

theorem Paired.check_append {s : List Char} (h : Paired s) (depth : Nat) (rest : List Char) :
    check ⟨depth, false⟩ (s ++ rest) = check ⟨depth, false⟩ rest :=
  Nesting.check_append (h.foldlM depth) rest

theorem Paired.check_eq {s : List Char} (h : Paired s) (depth : Nat) :
    check ⟨depth, false⟩ s = ending ⟨depth, false⟩ := by
  simpa [check] using h.check_append depth []

theorem Unfinished.check_eq {s : List Char} {cause : Cause} (h : Unfinished s cause)
    (depth : Nat) : check ⟨depth, false⟩ s = .error cause := by
  induction h generalizing depth with
  | @string u v hu hv =>
    have hquotes := foldlM_after?_of_within? (foldlM_within?_quoted hv depth)
    rw [hu.check_append, check, show after? ⟨depth, false⟩ '"' = some ⟨depth, true⟩ from rfl]
    simpa [check, ending] using Nesting.check_append hquotes []
  | group hu hv =>
    rw [hu.check_append]
    exact hv.check_eq (depth + 1)
  | inGroup hu _ ih =>
    rw [hu.check_append]
    exact ih (depth + 1)

theorem Faulty.check_eq {s : List Char} {cause : Cause} (h : Faulty s cause) :
    top.check s = .error cause := by
  cases h with
  | closing hu => exact hu.check_append 0 _
  | ending hs => exact hs.check_eq 0

/-- The scan finds nothing wrong exactly if nothing is. -/
theorem check_eq_ok_iff {s : List Char} : top.check s = .ok () ↔ Paired s := by
  refine ⟨fun h => ?_, fun h => h.check_eq 0⟩
  rcases paired_or_faulty s with hs | ⟨cause, hs⟩
  · exact hs
  · cases h.symm.trans hs.check_eq

theorem check_eq_error_iff {s : List Char} {cause : Cause} :
    top.check s = .error cause ↔ Faulty s cause := by
  refine ⟨fun h => ?_, Faulty.check_eq⟩
  rcases paired_or_faulty s with hs | ⟨other, hs⟩
  · cases h.symm.trans (hs.check_eq 0)
  · cases h.symm.trans hs.check_eq
    exact hs

theorem balanced_iff {s : List Char} : Balanced s ↔ Paired s := by
  refine ⟨fun h => ?_, fun h => h.foldlM 0⟩
  rw [← check_eq_ok_iff, ← List.append_nil s, check_append h]
  rfl

end PaintRobot.Nesting
