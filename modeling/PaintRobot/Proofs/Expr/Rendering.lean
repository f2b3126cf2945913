import PaintRobot.Expr.Basic
import PaintRobot.Proofs.Expr.Operators
import PaintRobot.Proofs.Number.Reading

/-!
How expressions are written. The grammar has a nonterminal for every strength of binding: behind an
operator the next operand binds tighter, before it at least as tight, so that equal operators group
to the left.
-/
namespace PaintRobot.Expr

open Text (Gap Bare IsPlain marks IsWord isBlank isWordChar isIdentifier sameWord)
open Nesting (Balanced Closed Finds)
open Operator (Opens)

/-- An argument of a call: its text between two gaps, and its tree. -/
structure Argument where
  before : List Char
  text : List Char
  after : List Char
  value : Expr

def Argument.padded (a : Argument) : List Char := a.before ++ a.text ++ a.after

def Argument.HasGaps (a : Argument) : Prop := Gap a.before ∧ Gap a.after

/-- `Renders p t e`: the text `t`, with no blanks around it, writes the tree `e`, and its outer
operators bind at least as tight as `p`. No operator binds as tight as 7, which leaves the operands:
literals, names, calls, groups, and operands behind a sign. -/
inductive Renders : Nat → List Char → Expr → Prop where
  | int {p : Nat} {t : List Char} {n : Int} (ht : Number.Spells t n)
      (hn : Number.fitsInteger n = true) : Renders p t (.int (Int32.ofInt n))
  | real {p : Nat} {c : Char} {t : List Char} {x : Float} (hc : c.isDigit = true ∨ c = '.')
      (hsign : '+' ∉ t ∧ '-' ∉ t)
      (hint : ∀ n, Number.Spells (c :: t) n → Number.fitsInteger n = false)
      (hx : Number.real? (c :: t) = some x) : Renders p (c :: t) (.real x)
  | text {p : Nat} {s : List Char} (hs : '"' ∉ s) :
      Renders p ('"' :: s ++ ['"']) (.text (String.ofList s))
  | true {p : Nat} {t : List Char} (ht : sameWord t "true".toList = true) : Renders p t (.int 1)
  | false {p : Nat} {t : List Char} (ht : sameWord t "false".toList = true) : Renders p t (.int 0)
  | var {p : Nat} {t : List Char} (ht : isIdentifier t = true)
      (htrue : sameWord t "true".toList = false) (hfalse : sameWord t "false".toList = false) :
      Renders p t (.var (String.ofList t))
  | callEmpty {p : Nat} {name gap inside : List Char} (hn : isIdentifier name = true)
      (hg : Gap gap) (hi : Gap inside) :
      Renders p (name ++ gap ++ '(' :: inside ++ [')']) (.call (String.ofList name) [])
  | call {p : Nat} {name gap : List Char} {a : Argument} {args : List Argument}
      (hn : isIdentifier name = true) (hg : Gap gap) (hgaps : ∀ b ∈ a :: args, b.HasGaps)
      (hargs : ∀ b ∈ a :: args, Renders 0 b.text b.value) :
      Renders p (name ++ gap ++ '(' :: [','].intercalate ((a :: args).map Argument.padded) ++ [')'])
        (.call (String.ofList name) ((a :: args).map Argument.value))
  | group {p : Nat} {g t h : List Char} {e : Expr} (hg : Gap g) (hh : Gap h)
      (ht : Renders 0 t e) : Renders p ('(' :: (g ++ t ++ h) ++ [')']) e
  | plus {p : Nat} {g t : List Char} {e : Expr} (hg : Gap g) (ht : Renders 7 t e) :
      Renders p ('+' :: g ++ t) e
  | minus {p : Nat} {g t : List Char} {e : Expr} (hg : Gap g) (ht : Renders 7 t e)
      (hint : ∀ n, Number.Spells ('-' :: g ++ t) n → Number.fitsInteger n = false) :
      Renders p ('-' :: g ++ t) (.binary .minus (.int 0) e)
  | binary {p : Nat} {op : Operator} {l g h r : List Char} {a b : Expr} (hp : p ≤ op.precedence)
      (hl : Renders op.precedence l a) (hg : Gap g) (hh : Gap h)
      (hr : Renders (op.precedence + 1) r b) :
      Renders p (l ++ g ++ op.text.toList ++ h ++ r) (.binary op a b)

/-- A text is a rendering of a tree if it writes it, with any blanks around the whole. -/
inductive Rendering : List Char → Expr → Prop where
  | mk {g t h : List Char} {e : Expr} (hg : Gap g) (hh : Gap h) (ht : Renders 0 t e) :
      Rendering (g ++ t ++ h) e

/-! ### Chains of operands -/

/-- Where tighter operators are asked for, looser ones may stand. -/
theorem Renders.mono {p q : Nat} {t : List Char} {e : Expr} (h : Renders p t e) (hq : q ≤ p) :
    Renders q t e := by
  cases h with
  | int ht hn => exact .int ht hn
  | real hc hsign hint hx => exact .real hc hsign hint hx
  | text hs => exact .text hs
  | true ht => exact .true ht
  | false ht => exact .false ht
  | var ht htrue hfalse => exact .var ht htrue hfalse
  | callEmpty hn hg hi => exact .callEmpty hn hg hi
  | call hn hg hgaps hargs => exact .call hn hg hgaps hargs
  | group hg hh ht => exact .group hg hh ht
  | plus hg ht => exact .plus hg ht
  | minus hg ht hint => exact .minus hg ht hint
  | binary hp hl hg hh hr => exact .binary (hq.trans hp) hl hg hh hr

/-- A chain of operands stays one when an operator and an operand are added behind it: the last
operand of a loose operator gives way to a tighter one, and all else is grouped to the left. -/
theorem Renders.append_operand {p : Nat} {t g h r : List Char} {e b : Expr} {op : Operator}
    (ht : Renders p t e) (hp : p ≤ op.precedence) (hg : Gap g) (hh : Gap h)
    (hr : Renders 7 r b) : ∃ e', Renders p (t ++ g ++ op.text.toList ++ h ++ r) e' := by
  have hlevel : op.precedence + 1 ≤ 7 := by cases op <;> decide
  have hright : Renders (op.precedence + 1) r b := hr.mono hlevel
  induction ht with
  | int ht hn => exact ⟨_, .binary hp (.int ht hn) hg hh hright⟩
  | real hc hsign hint hx => exact ⟨_, .binary hp (.real hc hsign hint hx) hg hh hright⟩
  | text hs => exact ⟨_, .binary hp (.text hs) hg hh hright⟩
  | true ht => exact ⟨_, .binary hp (.true ht) hg hh hright⟩
  | false ht => exact ⟨_, .binary hp (.false ht) hg hh hright⟩
  | var ht htrue hfalse => exact ⟨_, .binary hp (.var ht htrue hfalse) hg hh hright⟩
  | callEmpty hn hg' hi => exact ⟨_, .binary hp (.callEmpty hn hg' hi) hg hh hright⟩
  | call hn hg' hgaps hargs => exact ⟨_, .binary hp (.call hn hg' hgaps hargs) hg hh hright⟩
  | group hg' hh' ht => exact ⟨_, .binary hp (.group hg' hh' ht) hg hh hright⟩
  | plus hg' ht => exact ⟨_, .binary hp (.plus hg' ht) hg hh hright⟩
  | minus hg' ht hint => exact ⟨_, .binary hp (.minus hg' ht hint) hg hh hright⟩
  | @binary p op' l g' h' r' a b' hp' hl hg' hh' hr' _ ihr =>
    rcases Nat.lt_or_ge op'.precedence op.precedence with hlt | hge
    · obtain ⟨e', he'⟩ := ihr hlt
      refine ⟨.binary op' a e', ?_⟩
      simpa using Renders.binary hp' hl hg' hh' he'
    · exact ⟨_, .binary hp (.binary hge hl hg' hh' hr') hg hh hright⟩

/-! ### The outside of a rendering -/

/-- The characters that may stand before the parenthesis of a call. -/
def isNameLike (c : Char) : Bool := isWordChar c || isBlank c

/-- A group at the start of a text, or behind what looks like a name there, has its end there. -/
def GroupEnds (t : List Char) : Prop :=
  ∀ v, t.dropWhile isNameLike = '(' :: v → ∃ i tail, v = i ++ ')' :: tail ∧ Balanced i

/-- The text is not just a group or a call: where it begins with one, it goes on behind it. -/
def GoesOn (t : List Char) : Prop :=
  ∀ v, t.dropWhile isNameLike = '(' :: v →
    ∃ i tail, v = i ++ ')' :: tail ∧ Balanced i ∧ tail ≠ []

theorem GoesOn.groupEnds {t : List Char} (h : GoesOn t) : GroupEnds t := by
  intro v hv
  obtain ⟨i, tail, hi, hb, -⟩ := h v hv
  exact ⟨i, tail, hi, hb⟩

/-- What holds of every rendering and is seen without reading it. -/
structure Solid (t : List Char) : Prop where
  bare : Bare t
  opens : Opens t
  closed : Closed t
  groupEnds : GroupEnds t

theorem not_isNameLike_of_mem_marks {c : Char} (hc : c ∈ marks) : isNameLike c = false := by
  simp [isNameLike, Text.not_isWordChar_of_mem_marks c hc, Text.not_isBlank_of_mem_marks c hc]

theorem goesOn_cons {c : Char} (hc : c ∈ marks) (ho : c ≠ '(') (t : List Char) :
    GoesOn (c :: t) := by
  intro v hv
  rw [List.dropWhile_cons_of_neg (by simp [not_isNameLike_of_mem_marks hc])] at hv
  exact absurd (List.cons.inj hv).1 ho

theorem goesOn_word {t : List Char} (ht : IsWord t) : GoesOn t := by
  intro v hv
  have hmem : '(' ∈ t := (List.dropWhile_sublist _).subset (hv ▸ List.mem_cons_self)
  exact absurd (by decide) (ht.2 _ hmem).1

/-- Behind the group at the start of a left operand comes at least an operator. -/
theorem goesOn_binary {l g h r : List Char} (op : Operator) (hl : GroupEnds l) (hg : Gap g) :
    GoesOn (l ++ g ++ op.text.toList ++ h ++ r) := by
  obtain ⟨c, m, hop, hc, ho⟩ : ∃ c m, op.text.toList = c :: m ∧ c ∈ marks ∧ c ≠ '(' := by
    cases op <;> exact ⟨_, _, rfl, by decide, by decide⟩
  have hrest : (g ++ c :: (m ++ (h ++ r))).dropWhile isNameLike = c :: (m ++ (h ++ r)) := by
    rw [List.dropWhile_append_of_pos fun d hd => by simp [isNameLike, hg d hd],
      List.dropWhile_cons_of_neg (by simp [not_isNameLike_of_mem_marks hc])]
  intro v hv
  simp only [List.append_assoc, hop, List.cons_append, List.dropWhile_append, hrest] at hv
  split at hv
  · exact absurd (List.cons.inj hv).1 ho
  · rename_i hne
    obtain ⟨d, w, hw⟩ : ∃ d w, l.dropWhile isNameLike = d :: w :=
      List.exists_cons_of_ne_nil fun h0 => hne (by rw [h0]; rfl)
    rw [hw, List.cons_append] at hv
    obtain ⟨rfl, rfl⟩ := List.cons.inj hv
    obtain ⟨i, tail, rfl, hb⟩ := hl w hw
    exact ⟨i, tail ++ (g ++ c :: (m ++ (h ++ r))), by simp, hb, by simp⟩

theorem solid_word {t : List Char} (ht : IsWord t) : Solid t where
  bare := ht.bare
  opens := by
    obtain ⟨c, u, rfl⟩ := List.exists_cons_of_ne_nil ht.1
    exact Operator.opens_cons (Operator.isOperatorChar_of_notMem_marks (ht.2 c (by simp)).1) u
  closed := Nesting.closed_of_forall fun c hc => (ht.2 c hc).1
  groupEnds := (goesOn_word ht).groupEnds

theorem solid_quoted {s : List Char} (hs : '"' ∉ s) : Solid ('"' :: s ++ ['"']) where
  bare := (Text.bare_mark (by decide)).append s (Text.bare_mark (by decide))
  opens := Operator.opens_cons (by decide) _
  closed := Nesting.closed_quoted hs
  groupEnds := (goesOn_cons (by decide) (by decide) _).groupEnds

theorem solid_group {s : List Char} (hs : Balanced s) : Solid ('(' :: s ++ [')']) where
  bare := (Text.bare_mark (by decide)).append s (Text.bare_mark (by decide))
  opens := Operator.opens_cons (by decide) _
  closed := hs.closed_group
  groupEnds := by
    intro v hv
    rw [List.cons_append, List.dropWhile_cons_of_neg
      (by simp [not_isNameLike_of_mem_marks (c := '(') (by decide)])] at hv
    exact ⟨s, [], (List.cons.inj hv).2.symm, hs⟩

theorem goesOn_sign {c : Char} (hc : c = '+' ∨ c = '-') (t : List Char) : GoesOn (c :: t) := by
  rcases hc with rfl | rfl <;> exact goesOn_cons (by decide) (by decide) t

theorem Solid.sign {c : Char} (hc : c = '+' ∨ c = '-') {g t : List Char} (hg : Gap g)
    (ht : Solid t) : Solid (c :: g ++ t) where
  bare := by
    have hm : c ∈ marks := by rcases hc with rfl | rfl <;> decide
    exact (Text.bare_mark hm).append g ht.bare
  opens := Operator.opens_sign hc _
  closed := by
    have hs : Closed [c] := by rcases hc with rfl | rfl <;> rfl
    exact (hs.append (Nesting.closed_gap hg)).append ht.closed
  groupEnds := (goesOn_sign hc _).groupEnds

theorem Solid.call {name g s : List Char} (hn : isIdentifier name = true) (hg : Gap g)
    (hs : Balanced s) : Solid (name ++ g ++ '(' :: s ++ [')']) where
  bare := by
    rw [List.append_assoc name]
    exact (solid_word (Text.isWord_of_isIdentifier hn)).bare.append _ (Text.bare_mark (by decide))
  opens := by
    simpa using (solid_word (Text.isWord_of_isIdentifier hn)).opens.append (g ++ '(' :: s ++ [')'])
  closed := by
    rw [List.append_assoc _ ('(' :: s)]
    have hname := (solid_word (Text.isWord_of_isIdentifier hn)).closed
    exact (hname.append (Nesting.closed_gap hg)).append hs.closed_group
  groupEnds := by
    intro v hv
    have hname : ∀ c ∈ name ++ g, isNameLike c = true := by
      have hw := Text.isWordChar_of_isIdentifier hn
      intro c hc
      rcases List.mem_append.mp hc with hc | hc
      · simp [isNameLike, hw c hc]
      · simp [isNameLike, hg c hc]
    rw [List.append_assoc _ ('(' :: s), List.dropWhile_append_of_pos hname] at hv
    exact (solid_group hs).groupEnds v hv

theorem Solid.binary {l g h r : List Char} (op : Operator) (hl : Solid l) (hg : Gap g)
    (hh : Gap h) (hr : Solid r) : Solid (l ++ g ++ op.text.toList ++ h ++ r) where
  bare := by
    rw [List.append_assoc l, List.append_assoc l]
    exact hl.bare.append _ hr.bare
  opens := by
    simpa using hl.opens.append (g ++ op.text.toList ++ h ++ r)
  closed := by
    have hop : Closed op.text.toList := by cases op <;> rfl
    exact (((hl.closed.append (Nesting.closed_gap hg)).append hop).append
      (Nesting.closed_gap hh)).append hr.closed
  groupEnds := (goesOn_binary op hl.groupEnds hg).groupEnds

/-! ### All renderings are solid -/

theorem isWord_of_digits {t : List Char} (ht : Number.Digits t) : IsWord t :=
  ⟨ht.1, fun c hc => Text.isPlain_of_isDigit (ht.2 c hc)⟩

/-- An integer is a word, or a sign and a word. -/
theorem isWord_of_spells {t : List Char} {n : Int} (ht : Number.Spells t n) :
    IsWord t ∨ ∃ c u, t = c :: u ∧ (c = '+' ∨ c = '-') ∧ IsWord u := by
  cases ht with
  | plain hd => exact .inl (isWord_of_digits hd)
  | plus hd => exact .inr ⟨_, _, rfl, .inl rfl, isWord_of_digits hd⟩
  | minus hd => exact .inr ⟨_, _, rfl, .inr rfl, isWord_of_digits hd⟩

theorem isWord_of_real? {c : Char} {t : List Char} {x : Float}
    (hc : c.isDigit = true ∨ c = '.') (hsign : '+' ∉ t ∧ '-' ∉ t)
    (hx : Number.real? (c :: t) = some x) : IsWord (c :: t) := by
  refine ⟨by simp, fun d hd => ?_⟩
  rcases Number.mem_of_real? hx d hd with h | h
  · exact Text.isPlain_of_isDigit h
  have hplus : d ≠ '+' := by
    rintro rfl
    rcases List.mem_cons.mp hd with rfl | hd
    · revert hc
      decide
    · exact hsign.1 hd
  have hminus : d ≠ '-' := by
    rintro rfl
    rcases List.mem_cons.mp hd with rfl | hd
    · revert hc
      decide
    · exact hsign.2 hd
  have hother : d = '.' ∨ d = 'e' ∨ d = 'E' := by simpa [hplus, hminus] using h
  rcases hother with rfl | rfl | rfl <;> exact ⟨by decide, by decide⟩

theorem isWord_true {t : List Char} (ht : sameWord t "true".toList = true) : IsWord t :=
  Text.isWord_of_sameWord ht (by decide) (by decide +kernel)

theorem isWord_false {t : List Char} (ht : sameWord t "false".toList = true) : IsWord t :=
  Text.isWord_of_sameWord ht (by decide) (by decide +kernel)

theorem Argument.HasGaps.closed {a : Argument} (h : a.HasGaps) (ha : Closed a.text) :
    Closed a.padded :=
  ((Nesting.closed_gap h.1).append ha).append (Nesting.closed_gap h.2)

theorem balanced_arguments {args : List Argument} (hgaps : ∀ a ∈ args, a.HasGaps)
    (h : ∀ a ∈ args, Closed a.text) :
    Balanced ([','].intercalate (args.map Argument.padded)) := by
  apply Nesting.balanced_intercalate
  intro s hs
  obtain ⟨a, ha, rfl⟩ := List.mem_map.mp hs
  exact (hgaps a ha).closed (h a ha)

theorem Renders.solid {p : Nat} {t : List Char} {e : Expr} (h : Renders p t e) : Solid t := by
  induction h with
  | int ht hn =>
    rcases isWord_of_spells ht with hw | ⟨c, u, rfl, hc, hw⟩
    · exact solid_word hw
    · exact (solid_word hw).sign hc Text.gap_nil
  | real hc hsign hint hx => exact solid_word (isWord_of_real? hc hsign hx)
  | text hs => exact solid_quoted hs
  | true ht => exact solid_word (isWord_true ht)
  | false ht => exact solid_word (isWord_false ht)
  | var ht => exact solid_word (Text.isWord_of_isIdentifier ht)
  | callEmpty hn hg hi => exact .call hn hg (Nesting.closed_gap hi).balanced
  | call hn hg hgaps hargs ih =>
    exact .call hn hg (balanced_arguments hgaps fun b hb => (ih b hb).closed)
  | group hg hh ht ih =>
    have hinside := ((Nesting.closed_gap hg).append ih.closed).append (Nesting.closed_gap hh)
    exact solid_group hinside.balanced
  | plus hg ht ih => exact ih.sign (.inl rfl) hg
  | minus hg ht hint ih => exact ih.sign (.inr rfl) hg
  | binary hp hl hg hh hr ihl ihr => exact ihl.binary _ hg hh ihr

theorem finds_of_spells {t : List Char} {n : Int} (ht : Number.Spells t n) : Finds t [] := by
  rcases isWord_of_spells ht with hw | ⟨c, u, rfl, hc, hw⟩
  · exact Nesting.finds_word hw
  · exact (Nesting.finds_word hw).sign hc Text.gap_nil

theorem eq_nil_of_forall_le_precedence {ops : List (Nat × Operator)}
    (h : ∀ o ∈ ops, 7 ≤ o.2.precedence) : ops = [] := by
  rw [List.eq_nil_iff_forall_not_mem]
  intro o ho
  have hlt : o.2.precedence < 7 := by cases o.2 <;> decide
  exact Nat.not_le.mpr hlt (h o ho)

/-- The outer operators of a rendering are no looser than its level. -/
theorem Renders.finds {p : Nat} {t : List Char} {e : Expr} (h : Renders p t e) :
    ∃ ops, Finds t ops ∧ ∀ o ∈ ops, p ≤ o.2.precedence := by
  induction h with
  | int ht hn => exact ⟨[], finds_of_spells ht, by simp⟩
  | real hc hsign hint hx => exact ⟨[], Nesting.finds_word (isWord_of_real? hc hsign hx), by simp⟩
  | text hs => exact ⟨[], Nesting.finds_quoted hs, by simp⟩
  | true ht => exact ⟨[], Nesting.finds_word (isWord_true ht), by simp⟩
  | false ht => exact ⟨[], Nesting.finds_word (isWord_false ht), by simp⟩
  | var ht => exact ⟨[], Nesting.finds_word (Text.isWord_of_isIdentifier ht), by simp⟩
  | callEmpty hn hg hi =>
    have hname := Nesting.finds_word (Text.isWord_of_isIdentifier hn)
    exact ⟨[], hname.call hg (Nesting.closed_gap hi).balanced, by simp⟩
  | call hn hg hgaps hargs ih =>
    have hname := Nesting.finds_word (Text.isWord_of_isIdentifier hn)
    have hinside := balanced_arguments hgaps fun b hb => (hargs b hb).solid.closed
    exact ⟨[], hname.call hg hinside, by simp⟩
  | group hg hh ht ih =>
    have hinside := ((Nesting.closed_gap hg).append ht.solid.closed).append (Nesting.closed_gap hh)
    exact ⟨[], Nesting.finds_group hinside.balanced, by simp⟩
  | plus hg ht ih =>
    obtain ⟨ops, hf, hops⟩ := ih
    cases eq_nil_of_forall_le_precedence hops
    exact ⟨[], hf.sign (.inl rfl) hg, by simp⟩
  | minus hg ht hint ih =>
    obtain ⟨ops, hf, hops⟩ := ih
    cases eq_nil_of_forall_le_precedence hops
    exact ⟨[], hf.sign (.inr rfl) hg, by simp⟩
  | @binary p op l g h r a b hp hl hg hh hr ihl ihr =>
    obtain ⟨ls, hfl, hls⟩ := ihl
    obtain ⟨rs, hfr, hrs⟩ := ihr
    refine ⟨_, hfl.binary op hg hh hfr hr.solid.opens, ?_⟩
    intro o ho
    rcases List.mem_append.mp ho with ho | ho
    · exact hp.trans (hls o ho)
    rcases List.mem_cons.mp ho with rfl | ho
    · exact hp
    · exact hp.trans (Nat.le_of_lt (Nesting.forall_mem_shift hrs o ho))

end PaintRobot.Expr
