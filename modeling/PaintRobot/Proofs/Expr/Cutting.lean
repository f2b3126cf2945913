import PaintRobot.Proofs.Expr.Operators

/-!
What a text is cut into. The pieces of every cut, with the parenthesis, the commas or the operator
between them, are the text again, and an operator is split at only if those around it allow it.
-/
namespace PaintRobot

open Text (Gap IsPlain IsWord)

namespace Operator

theorem toList_text_of_ofChar? {c : Char} {op : Operator} (h : ofChar? c = some op) :
    op.text.toList = [c] := by
  unfold ofChar? at h
  split at h <;> first | (cases h; rfl) | cases h

theorem toList_text_of_ofPair? {c d : Char} {op : Operator} (h : ofPair? c d = some op) :
    op.text.toList = [c, d] := by
  unfold ofPair? at h
  split at h <;> first | (cases h; rfl) | cases h

end Operator

namespace Nesting

open Operator (isOperatorChar)

/-! ### Groups and pieces -/

theorem isTop_iff {n : Nesting} : n.isTop = true ↔ n = top := by
  obtain ⟨d, _ | _⟩ := n <;> simp [isTop, top]

theorem eq_top_of_ending {n : Nesting} (h : n.ending = .ok ()) : n = top := by
  obtain ⟨d, _ | _⟩ := n <;> simp_all [ending, top]

theorem of_after?_eq_none {n : Nesting} {c : Char} (h : n.after? c = none) : c = ')' ∧ n = top := by
  obtain ⟨d, q⟩ := n
  unfold after? at h
  grind [top]

theorem of_cutClosing? {n : Nesting} {s inside tail : List Char}
    (h : n.cutClosing? s = some (inside, tail)) :
    s = inside ++ ')' :: tail ∧ inside.foldlM after? n = some top := by
  induction s generalizing n inside with
  | nil => cases h
  | cons c rest ih =>
    simp only [cutClosing?] at h
    split at h
    · rename_i hnone
      cases h
      obtain ⟨rfl, rfl⟩ := of_after?_eq_none hnone
      exact ⟨rfl, rfl⟩
    · rename_i m hm
      obtain ⟨⟨i, t⟩, hcut, he⟩ := Option.map_eq_some_iff.mp h
      cases he
      obtain ⟨rfl, hi⟩ := ih hcut
      refine ⟨rfl, ?_⟩
      rw [List.foldlM_cons, hm]
      exact hi

theorem of_cutGroup {s inside tail : List Char} (h : cutGroup s = .ok (inside, tail)) :
    s = inside ++ ')' :: tail ∧ Balanced inside := by
  unfold cutGroup at h
  split at h
  · rename_i hcut
    cases h
    exact of_cutClosing? hcut
  · cases h

theorem eq_of_cutGroup {s inside tail : List Char} (h : cutGroup s = .ok (inside, tail)) :
    s = inside ++ ')' :: tail := (of_cutGroup h).1

/-- The pieces joined by commas are the text, and each of them has its commas inside. -/
theorem of_pieces {n : Nesting} {s p : List Char} {ps : List (List Char)}
    (h : n.pieces s = .ok (p, ps)) :
    s = [','].intercalate (p :: ps) ∧ p.foldlM within? n = some top ∧ ∀ q ∈ ps, Closed q := by
  induction s generalizing n p ps with
  | nil =>
    obtain ⟨_, hend, he⟩ := map_eq_ok_iff.mp h
    cases he
    exact ⟨by simp, congrArg some (eq_top_of_ending hend), by simp⟩
  | cons c rest ih =>
    simp only [pieces] at h
    split at h
    · rename_i hcomma
      obtain ⟨⟨q, qs⟩, hrest, he⟩ := map_eq_ok_iff.mp h
      cases he
      obtain ⟨htop, hc⟩ := Bool.and_eq_true_iff.mp hcomma
      obtain rfl := isTop_iff.mp htop
      obtain ⟨rfl, hq, hqs⟩ := ih hrest
      refine ⟨?_, rfl, List.forall_mem_cons.mpr ⟨hq, hqs⟩⟩
      rw [List.intercalate_cons_cons, eq_of_beq hc]
      rfl
    · rename_i hcomma
      split at h
      · cases h
      · rename_i m hm
        obtain ⟨⟨q, qs⟩, hrest, he⟩ := map_eq_ok_iff.mp h
        cases he
        obtain ⟨rfl, hq, hqs⟩ := ih hrest
        refine ⟨by cases qs <;> simp, ?_, hqs⟩
        rw [List.foldlM_cons, within?, if_neg hcomma, hm]
        exact hq

theorem eq_of_pieces {n : Nesting} {s p : List Char} {ps : List (List Char)}
    (h : n.pieces s = .ok (p, ps)) : s = [','].intercalate (p :: ps) := (of_pieces h).1

/-! ### Operators -/

theorem after?_of_ofPair? {c d : Char} {op : Operator} (h : Operator.ofPair? c d = some op) :
    top.after? c = some top ∧ top.after? d = some top := by
  unfold Operator.ofPair? at h
  split at h <;> first | exact ⟨rfl, rfl⟩ | cases h

/-- If the next character is skipped, the scan may do so, since it stays where it is. -/
def MaySkip (n : Nesting) (skip : Bool) (s : List Char) : Prop :=
  skip = true → ∀ c ∈ s.head?, n.after? c = some n

theorem maySkip_false (n : Nesting) (s : List Char) : n.MaySkip false s := nofun

/-- Behind the first character of a pair the second one may be skipped. -/
theorem of_pairAt? {n : Nesting} {c : Char} {rest : List Char} {op : Operator}
    (h : n.pairAt? (c :: rest) = some op) :
    n = top ∧ n.after? c = some n ∧ n.MaySkip true rest ∧ op.text.toList <+: c :: rest := by
  cases rest with
  | nil => cases h
  | cons d rest =>
    obtain ⟨htop, hpair⟩ := Option.ite_none_right_eq_some.mp h
    obtain rfl := isTop_iff.mp htop
    obtain ⟨hc, hd⟩ := after?_of_ofPair? hpair
    refine ⟨rfl, hc, ?_, ?_⟩
    · intro _ e he
      cases he
      exact hd
    · rw [Operator.toList_text_of_ofPair? hpair]
      exact ⟨rest, rfl⟩

/-- An operator that is found stands in the text, at its place, outside parentheses and quotes. -/
theorem exists_eq_of_mem_operators {n : Nesting} {before : Option Char} {skip : Bool} {i : Nat}
    {s : List Char} {ops : List (Nat × Operator)} (hskip : n.MaySkip skip s)
    (h : n.operators before skip i s = .ok ops) :
    ∀ o ∈ ops, ∃ l r, s = l ++ o.2.text.toList ++ r ∧ o.1 = i + l.length ∧
      l.foldlM after? n = some top := by
  induction s generalizing n before skip i ops with
  | nil =>
    obtain ⟨_, -, rfl⟩ := map_eq_ok_iff.mp h
    simp
  | cons c rest ih =>
    have hhere : ∀ {op : Operator}, n = top → op.text.toList <+: c :: rest →
        ∃ l r, c :: rest = l ++ op.text.toList ++ r ∧ i = i + l.length ∧
          l.foldlM after? n = some top := by
      rintro op rfl ⟨r, hr⟩
      exact ⟨[], r, by simp [hr], rfl, rfl⟩
    have hlater : ∀ {m b k os}, n.after? c = some m → m.MaySkip k rest →
        operators m b k (i + 1) rest = .ok os → ∀ o ∈ os, ∃ l r,
          c :: rest = l ++ o.2.text.toList ++ r ∧ o.1 = i + l.length ∧
            l.foldlM after? n = some top := by
      intro m b k os hm hk hos o ho
      obtain ⟨l, r, hrest, hplace, hl⟩ := ih hk hos o ho
      refine ⟨c :: l, r, by rw [hrest]; simp, by rw [hplace, List.length_cons]; omega, ?_⟩
      rw [List.foldlM_cons, hm]
      exact hl
    simp only [operators] at h
    split at h
    · rename_i hskipped
      exact hlater (hskip hskipped c rfl) (maySkip_false n rest) h
    split at h
    · rename_i op hpair
      obtain ⟨htop, hc, hsecond, htext⟩ := of_pairAt? hpair
      obtain ⟨os, hos, rfl⟩ := map_eq_ok_iff.mp h
      intro o ho
      rcases List.mem_cons.mp ho with rfl | ho
      · exact hhere htop htext
      · exact hlater hc hsecond hos o ho
    split at h
    · cases h
    · rename_i m hm
      obtain ⟨os, hos, hops⟩ := map_eq_ok_iff.mp h
      intro o ho
      split at hops
      · rename_i op hchar
        rw [← hops] at ho
        rcases List.mem_cons.mp ho with rfl | ho
        · obtain ⟨htop, hc⟩ := Option.ite_none_right_eq_some.mp hchar
          have htext := Operator.toList_text_of_ofChar? (Option.filter_eq_some_iff.mp hc).1
          exact hhere (isTop_iff.mp htop) (by rw [htext]; exact ⟨rest, rfl⟩)
        · exact hlater hm (maySkip_false m rest) hos o ho
      · exact hlater hm (maySkip_false m rest) hos o (hops ▸ ho)

/-- The operator that a text is split at stands between the two parts, and with the first part the
text could end. -/
theorem eq_of_loosestOperator {s : List Char} {i : Nat} {op : Operator}
    (h : loosestOperator s = .ok (some (i, op))) :
    s = s.take i ++ op.text.toList ++ s.drop (i + op.length) ∧ (s.take i).length = i ∧
      Balanced (s.take i) := by
  obtain ⟨ops, hops, hbest⟩ := map_eq_ok_iff.mp h
  have hmem : (i, op) ∈ ops := by simpa using foldl_looser_mem hbest
  obtain ⟨l, r, heq, hplace, hl⟩ := exists_eq_of_mem_operators (maySkip_false top s) hops _ hmem
  have hi : i = l.length := by simpa using hplace
  have hend : i + op.length = (l ++ op.text.toList).length := by
    rw [List.length_append, String.length_toList, op.length_text, hi]
  have htake : s.take i = l := by rw [heq, List.append_assoc, hi, List.take_left]
  have hdrop : s.drop (i + op.length) = r := by rw [hend, heq, List.drop_left]
  rw [htake, hdrop]
  exact ⟨heq, hi.symm, hl⟩

theorem exists_looser_eq (best : Option (Nat × Operator)) (p : Nat × Operator) :
    ∃ o, looser best p = some o := by
  unfold looser
  split
  · split <;> exact ⟨_, rfl⟩
  · exact ⟨_, rfl⟩

theorem looser_eq_some {best : Option (Nat × Operator)} {p o : Nat × Operator}
    (h : looser best p = some o) :
    (o = p ∧ ∀ b ∈ best, p.2.precedence ≤ b.2.precedence) ∨
      (best = some o ∧ o.2.precedence < p.2.precedence) := by
  unfold looser at h
  split at h
  · split at h
    · rename_i hle
      cases h
      exact .inl ⟨rfl, by simpa using hle⟩
    · rename_i hgt
      cases h
      exact .inr ⟨rfl, Nat.not_le.mp hgt⟩
  · cases h
    exact .inl ⟨rfl, by simp⟩

/-- The operator that is left in the end is one of the loosest. -/
theorem foldl_looser_le {ops : List (Nat × Operator)} {best : Option (Nat × Operator)}
    {o : Nat × Operator} (h : ops.foldl looser best = some o) :
    (∀ q ∈ best, o.2.precedence ≤ q.2.precedence) ∧
      ∀ q ∈ ops, o.2.precedence ≤ q.2.precedence := by
  induction ops generalizing best with
  | nil => simp_all
  | cons p ps ih =>
    obtain ⟨hnext, hps⟩ := ih h
    obtain ⟨b, hp⟩ := exists_looser_eq best p
    have hb := hnext b hp
    rcases looser_eq_some hp with ⟨rfl, hbest⟩ | ⟨rfl, hlt⟩
    · exact ⟨fun q hq => hb.trans (hbest q hq), by simpa [hb] using hps⟩
    · refine ⟨by simpa using hb, ?_⟩
      simpa [hb.trans hlt.le] using hps

/-- An operator that stays in front of others is looser than they are. -/
theorem lt_of_foldl_looser {ops : List (Nat × Operator)} {best : Option (Nat × Operator)}
    {o : Nat × Operator} (h : ops.foldl looser best = some o) (ho : o ∉ ops) :
    best = some o ∧ ∀ q ∈ ops, o.2.precedence < q.2.precedence := by
  induction ops generalizing best with
  | nil => exact ⟨h, by simp⟩
  | cons p ps ih =>
    rw [List.mem_cons, not_or] at ho
    obtain ⟨hnext, hps⟩ := ih h ho.2
    rcases looser_eq_some hnext with ⟨rfl, -⟩ | ⟨hbest, hlt⟩
    · exact absurd rfl ho.1
    · exact ⟨hbest, by simpa [hlt] using hps⟩

/-- Where a text is split, the operators before the place bind at least as tight, and those behind
it tighter. -/
theorem precedences_of_loosestOperator {s : List Char} {ls rs : List (Nat × Operator)}
    {o : Nat × Operator} (hf : Finds s (ls ++ o :: rs)) (ho : o ∉ rs)
    (h : loosestOperator s = .ok (some o)) :
    (∀ q ∈ ls, o.2.precedence ≤ q.2.precedence) ∧
      ∀ q ∈ rs, o.2.precedence < q.2.precedence := by
  rw [loosestOperator, operators_of_finds hf, Except.map, Except.ok.injEq, List.foldl_append,
    List.foldl_cons] at h
  obtain ⟨hbest, hrs⟩ := lt_of_foldl_looser h ho
  refine ⟨?_, hrs⟩
  have hle : (ls ++ [o]).foldl looser none = some o := by
    rw [List.foldl_append]
    exact hbest
  exact fun q hq => (foldl_looser_le hle).2 q (List.mem_append_left _ hq)

theorem foldl_looser_ne_none (ops : List (Nat × Operator)) (b : Nat × Operator) :
    ops.foldl looser (some b) ≠ none := by
  induction ops generalizing b with
  | nil => simp
  | cons p ps ih =>
    obtain ⟨o, ho⟩ := exists_looser_eq (some b) p
    rw [List.foldl_cons, ho]
    exact ih o

/-- A text that is not split has no outer operators. -/
theorem operators_of_loosestOperator_eq_none {s : List Char} (h : loosestOperator s = .ok none) :
    top.operators none false 0 s = .ok [] := by
  obtain ⟨ops, hops, hbest⟩ := map_eq_ok_iff.mp h
  cases ops with
  | nil => exact hops
  | cons o ops => exact absurd hbest (foldl_looser_ne_none ops o)

/-- A sign behind a word is an operator, so where there is none the word goes on to the end. -/
theorem isPlain_of_operators_eq_nil {w u : List Char} (hw : IsWord w)
    (hu : ∀ d ∈ u, IsPlain d ∨ d = '+' ∨ d = '-')
    (h : top.operators none false 0 (w ++ u) = .ok []) : ∀ d ∈ u, IsPlain d := by
  induction u generalizing w with
  | nil => simp
  | cons d u ih =>
    rcases hu d List.mem_cons_self with hd | hd
    · have hword : IsWord (w ++ [d]) := by
        refine ⟨by simp, fun c hc => ?_⟩
        rcases List.mem_append.mp hc with hc | hc
        · exact hw.2 c hc
        · rwa [List.mem_singleton.mp hc]
      have hrest := ih hword (fun c hc => hu c (List.mem_cons_of_mem _ hc)) (by simpa using h)
      simpa [hd] using hrest
    · exfalso
      have hlast : isOperatorChar (w.getLast hw.1) = false :=
        Operator.isOperatorChar_of_notMem_marks (hw.2 _ (List.getLast_mem hw.1)).1
      rw [operators_word hw.2, List.getLast?_eq_some_getLast hw.1, Option.some_or] at h
      have hpair : top.pairAt? (d :: u) = none := by
        rcases hd with rfl | rfl <;> cases u <;> simp [pairAt?, Operator.ofPair?]
      have hstep : top.after? d = some top := by rcases hd with rfl | rfl <;> rfl
      obtain ⟨op, hchar⟩ : ∃ op, top.charAt? (some (w.getLast hw.1)) d = some op := by
        rcases hd with rfl | rfl <;>
          simp [charAt?, isTop, top, Operator.ofCharAfter?, Operator.ofChar?, hlast]
      simp only [operators, hpair, hstep, hchar, Bool.false_eq_true, ↓reduceIte] at h
      obtain ⟨ops, -, hops⟩ := map_eq_ok_iff.mp h
      cases hops

/-- Behind a sign at the start nothing is found if nothing is found in the whole. -/
theorem eq_nil_of_operators_sign {c : Char} (hc : c = '+' ∨ c = '-') {g s : List Char}
    (hg : Gap g) {ops : List (Nat × Operator)} (hf : Finds s ops)
    (h : top.operators none false 0 (c :: g ++ s) = .ok []) : ops = [] := by
  have hoc : isOperatorChar c = true := by rcases hc with rfl | rfl <;> decide
  obtain ⟨d, -, hd⟩ := hf (some c) (0 + 1 + g.length) [] (by simpa using hoc)
  rw [List.cons_append, operators_sign hc rfl, operators_gap hg, ← List.append_nil s, hd] at h
  obtain ⟨os, -, hos⟩ := map_eq_ok_iff.mp h
  exact List.map_eq_nil_iff.mp (List.append_eq_nil_iff.mp hos).1

end Nesting

end PaintRobot
