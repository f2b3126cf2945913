import PaintRobot.Expr.Nesting
import PaintRobot.Proofs.Text.Padding
import Mathlib.Data.List.Basic

/-!
Balanced texts. A group is cut at its own end, and pieces without outer commas are cut apart
exactly where they were joined.
-/
namespace PaintRobot.Nesting

open Text (marks)

/-- Every parenthesis and every quote in the text has its partner there. -/
def Balanced (s : List Char) : Prop := s.foldlM after? top = some top

/-- A step of a scan that does not go past an outer comma. -/
def within? (n : Nesting) (c : Char) : Option Nesting :=
  if n.isTop && c == ',' then none else n.after? c

/-- A balanced text with no comma outside parentheses and quotes. -/
def Closed (s : List Char) : Prop := s.foldlM within? top = some top

theorem balanced_nil : Balanced [] := rfl

theorem Balanced.append {s t : List Char} (hs : Balanced s) (ht : Balanced t) :
    Balanced (s ++ t) := by
  unfold Balanced at *
  rw [List.foldlM_append, hs]
  exact ht

theorem Closed.append {s t : List Char} (hs : Closed s) (ht : Closed t) : Closed (s ++ t) := by
  unfold Closed at *
  rw [List.foldlM_append, hs]
  exact ht

theorem foldlM_after?_of_within? {s : List Char} {n m : Nesting}
    (h : s.foldlM within? n = some m) : s.foldlM after? n = some m := by
  induction s generalizing n with
  | nil => exact h
  | cons c rest ih =>
    rw [List.foldlM_cons, Option.bind_eq_bind, Option.bind_eq_some_iff] at h ⊢
    obtain ⟨k, hk, hm⟩ := h
    unfold within? at hk
    split at hk
    · cases hk
    · exact ⟨k, hk, ih hm⟩

theorem Closed.balanced {s : List Char} (h : Closed s) : Balanced s :=
  foldlM_after?_of_within? h

theorem after?_of_notMem_marks (n : Nesting) {c : Char} (hc : c ∉ marks) :
    n.after? c = some n := by
  have hq : c ≠ '"' := fun h => hc (h ▸ by decide)
  have ho : c ≠ '(' := fun h => hc (h ▸ by decide)
  have hcl : c ≠ ')' := fun h => hc (h ▸ by decide)
  obtain ⟨d, _ | _⟩ := n <;> simp [after?, hq, ho, hcl]

theorem within?_of_notMem_marks (n : Nesting) {c : Char} (hc : c ∉ marks) :
    n.within? c = some n := by
  have hm : c ≠ ',' := fun h => hc (h ▸ by decide)
  simp [within?, hm, n.after?_of_notMem_marks hc]

/-- A scan that no character moves stays where it stands. -/
theorem foldlM_of_stays {step : Nesting → Char → Option Nesting} {n : Nesting} {s : List Char}
    (h : ∀ c ∈ s, step n c = some n) : s.foldlM step n = some n := by
  induction s with
  | nil => rfl
  | cons c rest ih =>
    rw [List.foldlM_cons, h c List.mem_cons_self]
    exact ih fun d hd => h d (List.mem_cons_of_mem c hd)

/-- A text without marks is closed. -/
theorem closed_of_forall {s : List Char} (h : ∀ c ∈ s, c ∉ marks) : Closed s :=
  foldlM_of_stays fun c hc => top.within?_of_notMem_marks (h c hc)

theorem closed_gap {g : List Char} (hg : Text.Gap g) : Closed g :=
  closed_of_forall fun c hc => Text.notMem_marks_of_isBlank (hg c hc)

/-- If blanks do not move a scan, trimming does not either. -/
theorem foldlM_trim {step : Nesting → Char → Option Nesting}
    (hstep : ∀ n c, Text.isBlank c = true → step n c = some n) {s : List Char} {n m : Nesting}
    (h : s.foldlM step n = some m) : (Text.trim s).foldlM step n = some m := by
  have hgap : ∀ {g k}, Text.Gap g → g.foldlM step k = some k :=
    fun hg => foldlM_of_stays fun c hc => hstep _ c (hg c hc)
  obtain ⟨g, k, hg, hk, hs⟩ := Text.exists_gaps_trim s
  rw [hs, List.foldlM_append, List.foldlM_append, hgap hg] at h
  obtain ⟨l, hl, hend⟩ := Option.bind_eq_some_iff.mp h
  cases (hgap hk).symm.trans hend
  exact hl

theorem Balanced.trim {s : List Char} (h : Balanced s) : Balanced (Text.trim s) :=
  foldlM_trim (fun n _ hc => n.after?_of_notMem_marks (Text.notMem_marks_of_isBlank hc)) h

theorem Closed.trim {s : List Char} (h : Closed s) : Closed (Text.trim s) :=
  foldlM_trim (fun n _ hc => n.within?_of_notMem_marks (Text.notMem_marks_of_isBlank hc)) h

/-! ### Quotes and groups -/

theorem within?_eq_after? {n : Nesting} (h : n.isTop = false) (c : Char) :
    n.within? c = n.after? c := by
  simp [within?, h]

/-- Between quotes only a quote moves a scan. -/
theorem foldlM_within?_quoted {s : List Char} (h : '"' ∉ s) (depth : Nat) :
    s.foldlM within? ⟨depth, true⟩ = some ⟨depth, true⟩ := by
  refine foldlM_of_stays fun c hc => ?_
  have hne : c ≠ '"' := by
    rintro rfl
    exact h hc
  simp [within?, isTop, after?, hne]

theorem closed_quoted {s : List Char} (h : '"' ∉ s) : Closed ('"' :: s ++ ['"']) := by
  unfold Closed
  rw [List.cons_append, List.foldlM_cons, show within? top '"' = some ⟨0, true⟩ from rfl,
    Option.bind_eq_bind, Option.bind_some, List.foldlM_append, foldlM_within?_quoted h]
  rfl

/-- The same place, inside one more pair of parentheses. -/
def inner (n : Nesting) : Nesting := ⟨n.depth + 1, n.quoted⟩

@[simp] theorem isTop_inner (n : Nesting) : n.inner.isTop = false := by simp [inner, isTop]

theorem after?_inner {n m : Nesting} {c : Char} (h : n.after? c = some m) :
    n.inner.after? c = some m.inner := by
  unfold after? inner at *
  grind

/-- What is balanced outside parentheses is so inside them, where commas do not count. -/
theorem foldlM_within?_inner {s : List Char} {n m : Nesting} (h : s.foldlM after? n = some m) :
    s.foldlM within? n.inner = some m.inner := by
  induction s generalizing n with
  | nil => exact congrArg (Option.map inner) h
  | cons c rest ih =>
    rw [List.foldlM_cons, Option.bind_eq_bind, Option.bind_eq_some_iff] at h ⊢
    obtain ⟨k, hk, hm⟩ := h
    refine ⟨k.inner, ?_, ih hm⟩
    rw [within?_eq_after? n.isTop_inner]
    exact after?_inner hk

theorem Balanced.closed_group {s : List Char} (h : Balanced s) :
    Closed ('(' :: s ++ [')']) := by
  unfold Closed
  rw [List.cons_append, List.foldlM_cons, show within? top '(' = some top.inner from rfl,
    Option.bind_eq_bind, Option.bind_some, List.foldlM_append, foldlM_within?_inner h]
  rfl

/-! ### Cutting -/

theorem cutClosing?_append {s : List Char} {n m : Nesting} (h : s.foldlM after? n = some m)
    (rest : List Char) :
    n.cutClosing? (s ++ rest) = (m.cutClosing? rest).map fun (i, t) => (s ++ i, t) := by
  induction s generalizing n with
  | nil =>
    cases h
    simp
  | cons c s ih =>
    rw [List.foldlM_cons, Option.bind_eq_bind, Option.bind_eq_some_iff] at h
    obtain ⟨k, hk, hm⟩ := h
    simp only [List.cons_append, cutClosing?, hk, ih hm, Option.map_map]
    rfl

/-- A group ends with the parenthesis behind its balanced inside. -/
theorem cutGroup_of_balanced {s : List Char} (h : Balanced s) (rest : List Char) :
    cutGroup (s ++ ')' :: rest) = .ok (s, rest) := by
  have hcut : top.cutClosing? (s ++ ')' :: rest) = some (s, rest) := by
    rw [cutClosing?_append h]
    simp [cutClosing?, after?, top]
  rw [cutGroup, hcut]

theorem cutGroup_concat {s : List Char} (h : Balanced s) : cutGroup (s ++ [')']) = .ok (s, []) :=
  cutGroup_of_balanced h []

theorem pieces_append {s : List Char} {n m : Nesting} (h : s.foldlM within? n = some m)
    (rest : List Char) :
    n.pieces (s ++ rest) = (m.pieces rest).map fun (p, ps) => (s ++ p, ps) := by
  induction s generalizing n with
  | nil =>
    cases h
    rw [List.nil_append]
    cases m.pieces rest <;> rfl
  | cons c s ih =>
    rw [List.foldlM_cons, Option.bind_eq_bind, Option.bind_eq_some_iff] at h
    obtain ⟨k, hk, hm⟩ := h
    unfold within? at hk
    split at hk
    · cases hk
    · rename_i htop
      simp only [List.cons_append, pieces, htop, Bool.false_eq_true, ↓reduceIte, hk, ih hm]
      cases m.pieces rest <;> rfl

/-- Closed texts that are joined by commas are the pieces between the outer commas. -/
theorem pieces_intercalate {t : List Char} {ts : List (List Char)}
    (h : ∀ s ∈ t :: ts, Closed s) : top.pieces ([','].intercalate (t :: ts)) = .ok (t, ts) := by
  induction ts generalizing t with
  | nil =>
    have := pieces_append (h t (by simp)) []
    simpa [pieces, ending, top, Except.map] using this
  | cons u ts ih =>
    rw [List.intercalate_cons_cons, List.append_assoc, pieces_append (h t (by simp)),
      List.singleton_append, pieces, ih fun s hs => h s (by simp_all)]
    simp [isTop, top, Except.map]

/-- Closed texts that are joined by commas are the arguments, if the first one is not blank. -/
theorem splitArguments_intercalate {t : List Char} {ts : List (List Char)}
    (h : ∀ s ∈ t :: ts, Closed s) (hne : Text.trim t ≠ []) :
    splitArguments ([','].intercalate (t :: ts)) = .ok ((t :: ts).map Text.trim) := by
  have hblank : Text.trim ([','].intercalate (t :: ts)) ≠ [] := by
    intro hgap
    apply hne
    apply Text.trim_gap
    intro c hc
    apply Text.gap_of_trim_eq_nil hgap
    cases ts with
    | nil => simpa using hc
    | cons u ts => simp [hc]
  rw [splitArguments, if_neg (by simpa using hblank), splitCommas, pieces_intercalate h]
  rfl

theorem balanced_intercalate {ts : List (List Char)} (h : ∀ s ∈ ts, Closed s) :
    Balanced ([','].intercalate ts) := by
  induction ts with
  | nil => exact balanced_nil
  | cons t ts ih =>
    cases ts with
    | nil => simpa using (h t (by simp)).balanced
    | cons u ts =>
      rw [List.intercalate_cons_cons]
      have hcomma : Balanced [','] := rfl
      exact ((h t (by simp)).balanced.append hcomma).append (ih fun s hs => h s (by simp_all))

end PaintRobot.Nesting
