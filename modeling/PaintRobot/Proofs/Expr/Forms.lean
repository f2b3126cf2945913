import PaintRobot.Expr.Form
import PaintRobot.Proofs.Expr.Rendering

/-!
The form in which each rendering is read: a number, a string, a word or a sign by its first
characters, a group or a call by its parentheses, and two operands by the loosest operator.
-/
namespace PaintRobot.Form

open Text (Gap Bare IsWord marks isWordChar isIdentifier sameWord)
open Nesting (Balanced Finds)
open PaintRobot.Expr (GoesOn isNameLike)

/-! ### Texts that are no group and no call -/

theorem enclosed?_of_goesOn {t : List Char} (h : GoesOn t) : enclosed? t = .ok none := by
  unfold enclosed?
  split
  · rename_i rest
    have hdrop : ('(' :: rest).dropWhile isNameLike = '(' :: rest :=
      List.dropWhile_cons_of_neg
        (by simp [Expr.not_isNameLike_of_mem_marks (c := '(') (by decide)])
    obtain ⟨i, tail, rfl, hi, htail⟩ := h rest hdrop
    rw [Nesting.cutGroup_of_balanced hi]
    simp [bind, Except.bind, pure, Except.pure, htail]
  · rfl

theorem dropWhile_isNameLike {t rest : List Char} (hdrop : t.dropWhile (· != '(') = '(' :: rest)
    (hname : isIdentifier (Text.trim (t.takeWhile (· != '('))) = true) :
    t.dropWhile isNameLike = '(' :: rest := by
  have hw := Text.isWordChar_of_isIdentifier hname
  rw [← List.takeWhile_append_dropWhile (p := (· != '(')) (l := t), hdrop,
    List.dropWhile_append_of_pos, List.dropWhile_cons_of_neg]
  · simp [Expr.not_isNameLike_of_mem_marks (c := '(') (by decide)]
  · intro c hc
    rcases Text.mem_trim_or_isBlank hc with h | h
    · simp [isNameLike, hw c h]
    · simp [isNameLike, h]

theorem call?_of_goesOn {t : List Char} (h : GoesOn t) : call? t = .ok none := by
  unfold call?
  simp only
  split
  · rfl
  · rename_i c rest hdrop
    have hc : c = '(' := by
      have := List.head?_dropWhile_not (· != '(') t
      simpa [hdrop] using this
    subst hc
    split
    · rename_i hcond
      obtain ⟨i, tail, rfl, hi, htail⟩ :=
        h rest (dropWhile_isNameLike hdrop (Bool.and_eq_true_iff.mp hcond).2)
      rw [Nesting.cutGroup_of_balanced hi]
      simp [bind, Except.bind, pure, Except.pure, htail]
    · rfl

theorem ofTrimmed_of_finds_nil {t : List Char} (hne : t ≠ []) (h : GoesOn t) (hf : Finds t []) :
    ofTrimmed t = ofAtom t := by
  rw [ofTrimmed, enclosed?_of_goesOn h, call?_of_goesOn h, Nesting.loosestOperator_of_finds_nil hf]
  cases t with
  | nil => exact absurd rfl hne
  | cons c t => rfl

theorem ofTrimmed_of_loosest {t : List Char} (hne : t ≠ []) (h : GoesOn t) {i : Nat}
    {op : Operator} (hbest : loosestOperator t = .ok (some (i, op))) :
    ofTrimmed t = .ok (.binary op (t.take i) (t.drop (i + op.length))) := by
  rw [ofTrimmed, enclosed?_of_goesOn h, call?_of_goesOn h, hbest]
  cases t with
  | nil => exact absurd rfl hne
  | cons c t => rfl

/-! ### The form of each rendering -/

theorem ofTrimmed_group {s : List Char} (hs : Balanced s) :
    ofTrimmed ('(' :: s ++ [')']) = .ok (.same s) := by
  simp [ofTrimmed, enclosed?, Nesting.cutGroup_concat hs, bind, Except.bind, pure, Except.pure]

theorem call?_call {name g s : List Char} (hn : isIdentifier name = true) (hg : Gap g)
    (hs : Balanced s) {args : List (List Char)} (hargs : splitArguments s = .ok args) :
    call? (name ++ g ++ '(' :: s ++ [')']) = .ok (some (.call (String.ofList name) args)) := by
  have hopen : '(' ∉ name ++ g := Text.notMem_name hn hg (by decide)
  have hlast : (name ++ g ++ '(' :: s ++ [')']).getLast? = some ')' := List.getLast?_concat
  have hsplit : name ++ g ++ '(' :: s ++ [')'] = name ++ g ++ '(' :: (s ++ [')']) := by simp
  rw [call?, hlast, hsplit, Text.takeWhile_bne_append hopen, Text.dropWhile_bne_append hopen,
    Text.trim_name hn hg]
  simp [hn, Nesting.cutGroup_concat hs, hargs, bind, Except.bind, pure, Except.pure]

theorem ofTrimmed_call {name g s : List Char} (hn : isIdentifier name = true) (hg : Gap g)
    (hs : Balanced s) {args : List (List Char)} (hargs : splitArguments s = .ok args) :
    ofTrimmed (name ++ g ++ '(' :: s ++ [')']) = .ok (.call (String.ofList name) args) := by
  have hcall := call?_call hn hg hs hargs
  obtain ⟨c, u, rfl, -, hw⟩ := Text.isIdentifier_iff.mp hn
  have henclosed : enclosed? (c :: u ++ g ++ '(' :: s ++ [')']) = .ok none := by
    unfold enclosed?
    split
    · rename_i heq
      have hc : c = '(' := (List.cons.inj heq).1
      have hword := hw c List.mem_cons_self
      rw [hc, Text.not_isWordChar_of_mem_marks _ (by decide)] at hword
      cases hword
    · rfl
  rw [ofTrimmed, henclosed, hcall]
  rfl

/-! ### Atoms -/

theorem sameWord_cons {c d : Char} {t w : List Char} (h : sameWord (c :: t) (d :: w) = true) :
    c.toLower = d.toLower := by
  have := eq_of_beq h
  simp only [List.map_cons, List.cons.injEq] at this
  exact this.1

theorem toLower_of_isDigit {c : Char} (hc : c.isDigit = true) : c.toLower = c := by
  simp only [Char.isDigit, Bool.and_eq_true, decide_eq_true_eq] at hc
  apply Text.toLower_of_not_upper
  intro hup
  exact absurd (UInt32.le_trans hup.1 hc.2) (by decide)

theorem ofAtom_false {t : List Char} (ht : sameWord t "false".toList = true) :
    ofAtom t = .ok (.leaf (.int 0)) := by
  have htrue : sameWord t "true".toList = false := by
    rw [sameWord, eq_of_beq ht]
    decide
  rw [ofAtom, htrue, ht]
  rfl

/-- The first characters with which an atom is a number, a string or signed. -/
def StartsAtom (c : Char) : Prop := c.isDigit = true ∨ c ∈ ['.', '+', '-', '"']

theorem ofAtom_of_startsAtom {c : Char} (hc : StartsAtom c) (t : List Char) :
    ofAtom (c :: t) =
      match Number.integer? (c :: t) with
      | some n => .ok (.leaf (.int n))
      | none =>
        if startsNumber (c :: t) then number (c :: t)
        else
          match quoted? (c :: t) with
          | some inside => .ok (.leaf (.text (String.ofList inside)))
          | none => signedOrNamed (c :: t) := by
  have hlow : c.toLower = c ∧ c ≠ 't' ∧ c ≠ 'f' := by
    rcases hc with hc | hc
    · refine ⟨toLower_of_isDigit hc, ?_, ?_⟩ <;> rintro rfl <;> exact absurd hc (by decide)
    · simp only [List.mem_cons, List.not_mem_nil, or_false] at hc
      rcases hc with rfl | rfl | rfl | rfl <;> decide
  have htrue : sameWord (c :: t) "true".toList = false := by
    rw [Bool.eq_false_iff]
    exact fun h => hlow.2.1 (hlow.1.symm.trans (sameWord_cons h))
  have hfalse : sameWord (c :: t) "false".toList = false := by
    rw [Bool.eq_false_iff]
    exact fun h => hlow.2.2 (hlow.1.symm.trans (sameWord_cons h))
  rw [ofAtom, htrue, hfalse]
  rfl

theorem integer?_of_spells {t : List Char} {n : Int} (ht : Number.Spells t n)
    (hn : Number.fitsInteger n = true) : Number.integer? t = some (Int32.ofInt n) :=
  Number.integer?_eq_some_iff.mpr ⟨n, ht, hn, rfl⟩

theorem ofAtom_int {t : List Char} {n : Int} (ht : Number.Spells t n)
    (hn : Number.fitsInteger n = true) : ofAtom t = .ok (.leaf (.int (Int32.ofInt n))) := by
  obtain ⟨c, u, rfl, hc⟩ : ∃ c u, t = c :: u ∧ StartsAtom c := by
    cases ht with
    | plain hd =>
      obtain ⟨c, u, rfl⟩ := List.exists_cons_of_ne_nil hd.1
      exact ⟨c, u, rfl, .inl (hd.2 c (by simp))⟩
    | plus | minus => exact ⟨_, _, rfl, .inr (by decide)⟩
  rw [ofAtom_of_startsAtom hc, integer?_of_spells ht hn]

theorem ofAtom_real {c : Char} {t : List Char} {x : Float} (hc : c.isDigit = true ∨ c = '.')
    (hint : ∀ n, Number.Spells (c :: t) n → Number.fitsInteger n = false)
    (hx : Number.real? (c :: t) = some x) : ofAtom (c :: t) = .ok (.leaf (.real x)) := by
  have hstart : StartsAtom c := hc.imp_right (by rintro rfl; decide)
  have hnumber : startsNumber (c :: t) = true := by simpa [startsNumber] using hc
  rw [ofAtom_of_startsAtom hstart, Number.integer?_eq_none_iff.mpr hint]
  simp [hnumber, number, hx]

/-- A string is a text between two quotes with none in it. -/
theorem quoted?_eq_some_iff {t s : List Char} :
    quoted? t = some s ↔ t = '"' :: s ++ ['"'] ∧ '"' ∉ s := by
  constructor
  · intro h
    unfold quoted? at h
    split at h
    · obtain ⟨hrest, he⟩ := Option.ite_none_right_eq_some.mp h
      cases he
      constructor
      · rw [List.cons_append, ← hrest, List.takeWhile_append_dropWhile]
      · intro hmem
        simpa using List.mem_takeWhile_imp hmem
    · cases h
  · rintro ⟨rfl, hs⟩
    simp [quoted?, Text.dropWhile_bne_append hs, Text.takeWhile_bne_append hs]

theorem ofAtom_quoted {s : List Char} (hs : '"' ∉ s) :
    ofAtom ('"' :: s ++ ['"']) = .ok (.leaf (.text (String.ofList s))) := by
  have hint : Number.integer? ('"' :: (s ++ ['"'])) = none := by
    refine Number.integer?_eq_none_iff.mpr fun n hn => ?_
    exact absurd (hn.mem '"' (by simp)) (by decide)
  have hquoted : quoted? ('"' :: (s ++ ['"'])) = some s := quoted?_eq_some_iff.mpr ⟨rfl, hs⟩
  rw [List.cons_append, ofAtom_of_startsAtom (.inr (by decide)), hint, hquoted]
  rfl

theorem ofAtom_var {t : List Char} (ht : isIdentifier t = true)
    (htrue : sameWord t "true".toList = false) (hfalse : sameWord t "false".toList = false) :
    ofAtom t = .ok (.leaf (.var (String.ofList t))) := by
  obtain ⟨c, u, rfl, hletter, hw⟩ := Text.isIdentifier_iff.mp ht
  have hdigit := Text.not_isDigit_of_isLetter hletter
  have hother : ∀ d, isWordChar d = false → c ≠ d := by
    rintro _ hd rfl
    simp [hw c (by simp)] at hd
  have hplus := hother '+' (Text.not_isWordChar_of_mem_marks _ (by decide))
  have hminus := hother '-' (Text.not_isWordChar_of_mem_marks _ (by decide))
  have hquote := hother '"' (Text.not_isWordChar_of_mem_marks _ (by decide))
  have hpoint := hother '.' (by decide +kernel)
  have hint : Number.integer? (c :: u) = none := by
    refine Number.integer?_eq_none_iff.mpr fun n hn => ?_
    rcases hn.mem c (by simp) with h | h | h
    · simp [hdigit] at h
    · exact absurd h hplus
    · exact absurd h hminus
  have hnumber : startsNumber (c :: u) = false := by simp [startsNumber, hdigit, hpoint]
  rw [ofAtom, htrue, hfalse, hint, hnumber]
  simp [quoted?, signedOrNamed, hplus, hminus, hquote, ht]

theorem ofAtom_minus {t : List Char} (hint : Number.integer? ('-' :: t) = none) :
    ofAtom ('-' :: t) = .ok (.negated t) := by
  rw [ofAtom_of_startsAtom (.inr (by decide)), hint]
  rfl

theorem ofAtom_plus {t : List Char} (hint : Number.integer? ('+' :: t) = none) :
    ofAtom ('+' :: t) = .ok (.same t) := by
  rw [ofAtom_of_startsAtom (.inr (by decide)), hint]
  rfl

/-! ### Arguments -/

theorem splitArguments_padded {a : Expr.Argument} {args : List Expr.Argument}
    (hgaps : ∀ b ∈ a :: args, b.HasGaps) (h : ∀ b ∈ a :: args, Expr.Solid b.text) :
    splitArguments ([','].intercalate ((a :: args).map Expr.Argument.padded)) =
      .ok ((a :: args).map Expr.Argument.text) := by
  have htrim : ∀ b ∈ a :: args, Text.trim b.padded = b.text := fun b hb =>
    Text.trim_padded (hgaps b hb).1 (hgaps b hb).2 (h b hb).bare
  have hclosed : ∀ s ∈ a.padded :: args.map Expr.Argument.padded, Nesting.Closed s := by
    intro s hs
    rw [← List.map_cons] at hs
    obtain ⟨b, hb, rfl⟩ := List.mem_map.mp hs
    exact (hgaps b hb).closed (h b hb).closed
  have hne : Text.trim a.padded ≠ [] := by
    rw [htrim a List.mem_cons_self]
    exact (h a List.mem_cons_self).bare.ne_nil
  rw [List.map_cons, Nesting.splitArguments_intercalate hclosed hne, ← List.map_cons, List.map_map]
  congr 1
  exact List.map_congr_left htrim

end PaintRobot.Form
