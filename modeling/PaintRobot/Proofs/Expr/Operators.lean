import PaintRobot.Proofs.Expr.Balance

/-!
The outer operators of a text. A scan that awaits an operand passes over the operand and finds no
operator in it; behind operands it finds exactly the operators that join them, and the one to
split at is the last of the loosest.
-/
namespace PaintRobot

open Text (marks isBlank Gap IsPlain IsWord)

namespace Operator

/-- The spelling of an operator is one character or a pair. -/
theorem toList_text (op : Operator) :
    (∃ c, op.text.toList = [c] ∧ ofChar? c = some op ∧ op.length = 1) ∨
      ∃ c d, op.text.toList = [c, d] ∧ ofPair? c d = some op ∧ op.length = 2 := by
  cases op
  case less | greater | plus | minus | times | divide | modulus =>
    exact .inl ⟨_, rfl, rfl, rfl⟩
  all_goals exact .inr ⟨_, _, rfl, rfl, rfl⟩

theorem isOperatorChar_of_ofChar? {c : Char} {op : Operator} (h : ofChar? c = some op) :
    isOperatorChar c = true := by
  unfold ofChar? at h
  split at h <;> first | decide | cases h

theorem isOperatorChar_of_ofPair? {c d : Char} {op : Operator} (h : ofPair? c d = some op) :
    isOperatorChar c = true := by
  unfold ofPair? at h
  split at h <;> first | decide | cases h

theorem isOperatorChar_of_notMem_marks {c : Char} (hc : c ∉ marks) :
    isOperatorChar c = false := by
  rw [Bool.eq_false_iff]
  intro h
  have hs : "+-*/%<>=!&|".toList ⊆ marks := by decide
  exact hc (hs (by simpa [isOperatorChar] using h))

theorem ofChar?_eq_none {c : Char} (h : isOperatorChar c = false) : ofChar? c = none := by
  rw [Option.eq_none_iff_forall_ne_some]
  intro op hop
  simp [isOperatorChar_of_ofChar? hop] at h

theorem ofPair?_eq_none {c : Char} (h : isOperatorChar c = false) (d : Char) :
    ofPair? c d = none := by
  rw [Option.eq_none_iff_forall_ne_some]
  intro op hop
  simp [isOperatorChar_of_ofPair? hop] at h

/-- Whether a text can follow an operator of one character without making a pair of it. -/
def Opens (s : List Char) : Prop := ∃ d t, s = d :: t ∧ ∀ c, ofPair? c d = none

theorem opens_sign {c : Char} (hc : c = '+' ∨ c = '-') (s : List Char) : Opens (c :: s) := by
  refine ⟨c, s, rfl, fun b => ?_⟩
  rcases hc with rfl | rfl <;> simp [ofPair?]

theorem opens_cons {d : Char} (hd : isOperatorChar d = false) (s : List Char) :
    Opens (d :: s) := by
  refine ⟨d, s, rfl, fun c => ?_⟩
  unfold ofPair?
  split <;> first | rfl | cases hd

theorem Opens.append {s : List Char} (hs : Opens s) (t : List Char) : Opens (s ++ t) := by
  obtain ⟨d, u, rfl, hd⟩ := hs
  exact ⟨d, u ++ t, rfl, hd⟩

theorem Opens.gap_append {s g : List Char} (hg : Gap g) (hs : Opens s) : Opens (g ++ s) := by
  cases g with
  | nil => exact hs
  | cons c g =>
    have hc : c ∉ marks := Text.notMem_marks_of_isBlank (hg c (by simp))
    exact opens_cons (isOperatorChar_of_notMem_marks hc) _

end Operator

namespace Nesting

open Operator (isOperatorChar)

/-! ### Texts without operators -/

/-- A step over a character that is no operator here. -/
theorem operators_pass {n m : Nesting} {c : Char} (h : n.isTop = false ∨ isOperatorChar c = false)
    (hm : n.after? c = some m) (before : Option Char) (i : Nat) (rest : List Char) :
    n.operators before false i (c :: rest) =
      m.operators (n.lastAfter before c) false (i + 1) rest := by
  have hpair : n.pairAt? (c :: rest) = none := by
    cases rest with
    | nil => rfl
    | cons d rest =>
      rcases h with h | h
      · simp [pairAt?, h]
      · simp [pairAt?, Operator.ofPair?_eq_none h]
  have hchar : n.charAt? before c = none := by
    rcases h with h | h
    · simp [charAt?, h]
    · simp [charAt?, Operator.ofCharAfter?, Operator.ofChar?_eq_none h]
  simp only [operators, hpair, hchar, hm, Bool.false_eq_true, ↓reduceIte]
  cases operators m (n.lastAfter before c) false (i + 1) rest <;> rfl

theorem operators_plain {c : Char} (hc : c ∉ marks) (before : Option Char) (i : Nat)
    (rest : List Char) :
    top.operators before false i (c :: rest) =
      top.operators (top.lastAfter before c) false (i + 1) rest := by
  apply operators_pass (.inr _) (after?_of_notMem_marks top hc)
  exact Operator.isOperatorChar_of_notMem_marks hc

theorem operators_gap {g : List Char} (hg : Gap g) (before : Option Char) (i : Nat)
    (rest : List Char) :
    top.operators before false i (g ++ rest) =
      top.operators before false (i + g.length) rest := by
  induction g generalizing i with
  | nil => rfl
  | cons c g ih =>
    have hb : isBlank c = true := hg c (by simp)
    have hc : c ∉ marks := Text.notMem_marks_of_isBlank hb
    have hlast : top.lastAfter before c = before := by simp [lastAfter, top, hb]
    rw [List.cons_append, operators_plain hc, hlast, ih fun d hd => hg d (by simp [hd])]
    simp [Nat.add_assoc, Nat.add_comm 1]

/-- A word leaves its last character behind. -/
theorem operators_word {w : List Char} (hw : ∀ c ∈ w, IsPlain c)
    (before : Option Char) (i : Nat) (rest : List Char) :
    top.operators before false i (w ++ rest) =
      top.operators (w.getLast?.or before) false (i + w.length) rest := by
  induction w generalizing i before with
  | nil => rfl
  | cons c w ih =>
    obtain ⟨hc, hb⟩ := hw c (by simp)
    have hlast : top.lastAfter before c = some c := by simp [lastAfter, hb]
    rw [List.cons_append, operators_plain hc, hlast, ih fun d hd => hw d (by simp [hd])]
    cases w <;> simp [Nat.add_assoc, Nat.add_comm 1, List.getLast?_cons]

/-- A string in quotes leaves its closing quote behind. -/
theorem operators_quoted {s : List Char} (hs : '"' ∉ s) (before : Option Char) (i : Nat)
    (rest : List Char) :
    top.operators before false i ('"' :: s ++ '"' :: rest) =
      top.operators (some '"') false (i + s.length + 2) rest := by
  have hin : ∀ before i, operators ⟨0, true⟩ before false i (s ++ '"' :: rest) =
      top.operators (some '"') false (i + s.length + 1) rest := by
    induction s with
    | nil => exact fun before i => operators_pass (.inl rfl) rfl before i rest
    | cons c s ih =>
      simp only [List.mem_cons, not_or] at hs
      intro before i
      have hstep : after? ⟨0, true⟩ c = some ⟨0, true⟩ := by simp [after?, Ne.symm hs.1]
      rw [List.cons_append, operators_pass (.inl rfl) hstep, ih hs.2, List.length_cons,
        Nat.add_right_comm i, Nat.add_assoc i]
  rw [List.cons_append, operators_pass (m := ⟨0, true⟩) (.inr (by decide)) rfl, hin,
    Nat.add_right_comm i]

theorem operators_inner {s : List Char} {n m : Nesting} (h : s.foldlM after? n = some m)
    (before : Option Char) (i : Nat) (rest : List Char) :
    ∃ b, n.inner.operators before false i (s ++ rest) =
      m.inner.operators b false (i + s.length) rest := by
  induction s generalizing n before i with
  | nil =>
    cases h
    exact ⟨before, rfl⟩
  | cons c s ih =>
    rw [List.foldlM_cons, Option.bind_eq_bind, Option.bind_eq_some_iff] at h
    obtain ⟨k, hk, hm⟩ := h
    obtain ⟨b, hb⟩ := ih hm (n.inner.lastAfter before c) (i + 1)
    refine ⟨b, ?_⟩
    rw [List.cons_append, operators_pass (.inl n.isTop_inner) (after?_inner hk), hb,
      List.length_cons, Nat.add_assoc, Nat.add_comm 1]

/-- A group leaves its closing parenthesis behind. -/
theorem operators_group {s : List Char} (hs : Balanced s) (before : Option Char) (i : Nat)
    (rest : List Char) :
    top.operators before false i ('(' :: s ++ ')' :: rest) =
      top.operators (some ')') false (i + s.length + 2) rest := by
  obtain ⟨b, hb⟩ := operators_inner hs (some '(') (i + 1) (')' :: rest)
  rw [List.cons_append, operators_pass (m := top.inner) (.inr (by decide)) rfl,
    show top.lastAfter before '(' = some '(' from rfl, hb,
    operators_pass (m := top) (.inl rfl) rfl, show top.inner.lastAfter b ')' = some ')' from rfl,
    Nat.add_right_comm i]

/-! ### Signs and operators -/

/-- A sign where an operand is awaited is no operator. -/
theorem operators_sign {c : Char} (hc : c = '+' ∨ c = '-') {before : Option Char}
    (hb : before.all isOperatorChar = true) (i : Nat) (rest : List Char) :
    top.operators before false i (c :: rest) = top.operators (some c) false (i + 1) rest := by
  have hpair : top.pairAt? (c :: rest) = none := by
    rcases hc with rfl | rfl <;> cases rest <;> simp [pairAt?, Operator.ofPair?]
  have hchar : top.charAt? before c = none := by
    rcases hc with rfl | rfl <;>
      simp [charAt?, isTop, top, Operator.ofCharAfter?, Operator.ofChar?, hb]
  have hstep : top.after? c = some top := by rcases hc with rfl | rfl <;> rfl
  have hlast : top.lastAfter before c = some c := by rcases hc with rfl | rfl <;> rfl
  simp only [operators, hpair, hchar, hstep, hlast, Bool.false_eq_true, ↓reduceIte]
  cases operators top (some c) false (i + 1) rest <;> rfl

/-- Behind an operand the spelling of an operator is found as that operator. -/
theorem operators_operator (op : Operator) {b : Char} (hb : isOperatorChar b = false) (i : Nat)
    {rest : List Char} (hrest : Operator.Opens rest) :
    ∃ c, isOperatorChar c = true ∧
      top.operators (some b) false i (op.text.toList ++ rest) =
        (top.operators (some c) false (i + op.length) rest).map ((i, op) :: ·) := by
  rcases op.toList_text with ⟨c, ht, hc, hl⟩ | ⟨c, d, ht, hcd, hl⟩
  · have hoc := Operator.isOperatorChar_of_ofChar? hc
    refine ⟨c, hoc, ?_⟩
    have hpair : top.pairAt? (c :: rest) = none := by
      obtain ⟨d, t, rfl, hd⟩ := hrest
      exact hd c
    have hchar : top.charAt? (some b) c = some op := by
      simp [charAt?, isTop, top, Operator.ofCharAfter?, hc, hb]
    have hstep : top.after? c = some top ∧ top.lastAfter (some b) c = some c := by
      unfold Operator.ofChar? at hc
      split at hc <;> first | exact ⟨rfl, rfl⟩ | cases hc
    rw [ht, hl, List.singleton_append, operators, hpair]
    simp only [hchar, hstep.1, hstep.2, Bool.false_eq_true, ↓reduceIte]
  · refine ⟨c, Operator.isOperatorChar_of_ofPair? hcd, ?_⟩
    have hpair : top.pairAt? (c :: d :: rest) = some op := hcd
    rw [ht, hl, List.cons_append, List.singleton_append, operators, hpair]
    simp only [operators, Bool.false_eq_true, ↓reduceIte, Nat.add_assoc]

/-! ### Operands joined by operators -/

/-- Places counted from further on. -/
def shift (k : Nat) (ops : List (Nat × Operator)) : List (Nat × Operator) :=
  ops.map fun (i, op) => (k + i, op)

theorem forall_mem_shift {k p : Nat} {ops : List (Nat × Operator)}
    (h : ∀ o ∈ ops, p ≤ o.2.precedence) : ∀ o ∈ shift k ops, p ≤ o.2.precedence := by
  intro o ho
  obtain ⟨q, hq, rfl⟩ := List.mem_map.mp ho
  exact h q hq

/-- A scan that awaits an operand finds these operators in the text, and then awaits an operator
or the end. -/
def Finds (s : List Char) (ops : List (Nat × Operator)) : Prop :=
  ∀ before i rest, before.all isOperatorChar = true →
    ∃ c, isOperatorChar c = false ∧
      top.operators before false i (s ++ rest) =
        (top.operators (some c) false (i + s.length) rest).map (shift i ops ++ ·)

theorem map_shift_nil_append (k : Nat) (x : Except Cause (List (Nat × Operator))) :
    x.map (shift k [] ++ ·) = x := by
  cases x <;> rfl

theorem finds_word {w : List Char} (hw : IsWord w) : Finds w [] := by
  intro before i rest hb
  refine ⟨w.getLast hw.1, ?_, ?_⟩
  · exact Operator.isOperatorChar_of_notMem_marks (hw.2 _ (List.getLast_mem hw.1)).1
  · rw [map_shift_nil_append, operators_word hw.2, List.getLast?_eq_some_getLast hw.1,
      Option.some_or]

theorem finds_quoted {s : List Char} (hs : '"' ∉ s) : Finds ('"' :: s ++ ['"']) [] := by
  intro before i rest hb
  refine ⟨'"', by decide, ?_⟩
  rw [map_shift_nil_append, List.append_assoc, List.singleton_append, operators_quoted hs]
  simp [Nat.add_assoc]

theorem finds_group {s : List Char} (hs : Balanced s) : Finds ('(' :: s ++ [')']) [] := by
  intro before i rest hb
  refine ⟨')', by decide, ?_⟩
  rw [map_shift_nil_append, List.append_assoc, List.singleton_append, operators_group hs]
  simp [Nat.add_assoc]

/-- A group behind a name. -/
theorem Finds.call {name gap s : List Char} (hn : Finds name []) (hg : Gap gap) (hs : Balanced s) :
    Finds (name ++ gap ++ '(' :: s ++ [')']) [] := by
  intro before i rest hb
  obtain ⟨c, -, hc⟩ := hn before i (gap ++ ('(' :: s ++ ')' :: rest)) hb
  refine ⟨')', by decide, ?_⟩
  rw [map_shift_nil_append, operators_gap hg, operators_group hs] at hc
  rw [map_shift_nil_append]
  simpa [Nat.add_assoc] using hc

/-- A sign and its operand. -/
theorem Finds.sign {c : Char} (hc : c = '+' ∨ c = '-') {gap s : List Char} (hg : Gap gap)
    (hs : Finds s []) : Finds (c :: gap ++ s) [] := by
  intro before i rest hb
  have hoc : isOperatorChar c = true := by rcases hc with rfl | rfl <;> decide
  obtain ⟨d, hd, hrest⟩ := hs (some c) (i + 1 + gap.length) rest (by simpa using hoc)
  refine ⟨d, hd, ?_⟩
  rw [map_shift_nil_append] at hrest ⊢
  rw [List.append_assoc, List.cons_append, operators_sign hc hb, operators_gap hg, hrest]
  simp [Nat.add_assoc, Nat.add_comm, Nat.add_left_comm]

/-- The operators of two operands and the one between them. -/
theorem Finds.binary {l g h r : List Char} {ls rs : List (Nat × Operator)} (op : Operator)
    (hl : Finds l ls) (hg : Gap g) (hh : Gap h) (hr : Finds r rs) (hopen : Operator.Opens r) :
    Finds (l ++ g ++ op.text.toList ++ h ++ r)
      (ls ++ (l.length + g.length, op) ::
        shift (l.length + g.length + op.length + h.length) rs) := by
  intro before i rest hb
  obtain ⟨b, hbo, hleft⟩ := hl before i (g ++ (op.text.toList ++ (h ++ (r ++ rest)))) hb
  obtain ⟨c, hco, hop⟩ := operators_operator op hbo (i + l.length + g.length)
    ((hopen.append rest).gap_append hh)
  obtain ⟨d, hdo, hright⟩ := hr (some c) (i + l.length + g.length + op.length + h.length) rest
    (by simpa using hco)
  refine ⟨d, hdo, ?_⟩
  rw [operators_gap hg, hop, operators_gap hh, hright] at hleft
  simp only [List.append_assoc] at hleft ⊢
  rw [hleft]
  have hlen : op.text.toList.length = op.length := by
    rw [String.length_toList, op.length_text]
  have hplace : i + l.length + g.length + op.length + h.length + r.length =
      i + (l.length + (g.length + (op.length + (h.length + r.length)))) := by omega
  simp only [List.length_append, hlen, hplace]
  cases top.operators (some d) false
    (i + (l.length + (g.length + (op.length + (h.length + r.length))))) rest with
  | error cause => rfl
  | ok ops => simp [Except.map, shift, Nat.add_assoc]

/-! ### The operator to split at -/

theorem operators_of_finds {s : List Char} {ops : List (Nat × Operator)} (h : Finds s ops) :
    top.operators none false 0 s = .ok ops := by
  obtain ⟨c, -, hc⟩ := h none 0 [] rfl
  rw [List.append_nil] at hc
  rw [hc]
  simp [operators, ending, top, Except.map, shift]

theorem foldl_looser_of_le {p : Nat} {ops : List (Nat × Operator)}
    {best : Option (Nat × Operator)} (hops : ∀ o ∈ ops, p ≤ o.2.precedence)
    (hbest : ∀ o ∈ best, p ≤ o.2.precedence) :
    ∀ o ∈ ops.foldl looser best, p ≤ o.2.precedence := by
  intro o ho
  rcases foldl_looser_mem ho with hm | hb
  · exact hops o hm
  · exact hbest o hb

theorem foldl_looser_of_lt {k : Nat} {op : Operator} {ops : List (Nat × Operator)}
    (h : ∀ o ∈ ops, op.precedence < o.2.precedence) :
    ops.foldl looser (some (k, op)) = some (k, op) := by
  induction ops with
  | nil => rfl
  | cons o ops ih =>
    have hstay : looser (some (k, op)) o = some (k, op) := by
      simp [looser, Nat.not_le.mpr (h o (by simp))]
    rw [List.foldl_cons, hstay]
    exact ih fun q hq => h q (by simp [hq])

/-- A text without outer operators is not split. -/
theorem loosestOperator_of_finds_nil {s : List Char} (h : Finds s []) :
    loosestOperator s = .ok none := by
  rw [loosestOperator, operators_of_finds h]
  rfl

/-- A text is split at an operator that binds no tighter than those before it, and looser than
those behind it. -/
theorem loosestOperator_of_finds {s : List Char} {ls rs : List (Nat × Operator)} {k : Nat}
    {op : Operator} (h : Finds s (ls ++ (k, op) :: rs))
    (hl : ∀ o ∈ ls, op.precedence ≤ o.2.precedence)
    (hr : ∀ o ∈ rs, op.precedence < o.2.precedence) : loosestOperator s = .ok (some (k, op)) := by
  rw [loosestOperator, operators_of_finds h]
  have hbest : ∀ o ∈ ls.foldl looser none, op.precedence ≤ o.2.precedence :=
    foldl_looser_of_le hl (by simp)
  have htake : looser (ls.foldl looser none) (k, op) = some (k, op) := by
    cases hb : ls.foldl looser none with
    | none => rfl
    | some o => simp [looser, hbest o hb]
  simp only [Except.map, List.foldl_append, List.foldl_cons, htake, foldl_looser_of_lt hr]

end Nesting

end PaintRobot
