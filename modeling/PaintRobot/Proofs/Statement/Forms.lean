import PaintRobot.Proofs.Statement.Params

/-!
The form of each statement. The name at the start of a text tells a jump from the others, and the
first arrow an assignment from a command; each form is read as what it writes.
-/
namespace PaintRobot

open Text (Gap Bare isWordChar isIdentifier isLabel sameWord)

namespace Statement

/-! ### Jumps, arrows and names -/

theorem afterGoTo?_word {word rest : List Char} (hword : sameWord word "goto".toList = true)
    (hrest : ∀ c ∈ rest.head?, Text.isBlank c = true ∨ c = '[') :
    afterGoTo? (word ++ rest) = some rest := by
  have hlength : word.length = 4 := by
    simpa using congrArg List.length (eq_of_beq hword)
  have hnext : (rest.head?.all fun c => Text.isBlank c || c == '[') = true := by
    cases rest with
    | nil => rfl
    | cons c rest => simpa using hrest
  rw [afterGoTo?, List.take_left' hlength, List.drop_left' hlength, hword, hnext]
  rfl

/-- A text that starts with another name is no jump, even if that name starts with the word. -/
theorem afterGoTo?_name {name rest : List Char} (hn : ∀ c ∈ name, isWordChar c = true)
    (hgoto : sameWord name "goto".toList = false)
    (hrest : ∀ c ∈ rest.head?, isWordChar c = false) : afterGoTo? (name ++ rest) = none := by
  rw [afterGoTo?, if_neg]
  intro h
  obtain ⟨hfour, hnext⟩ := Bool.and_eq_true_iff.mp h
  have hchars := Text.isWordChar_of_sameWord hfour (by decide +kernel)
  have hlength : ((name ++ rest).take 4).length = 4 := by
    simpa using congrArg List.length (eq_of_beq hfour)
  rcases Nat.lt_trichotomy name.length 4 with hlt | heq | hgt
  · -- The character behind the name is one of the four.
    cases rest with
    | nil =>
      rw [List.append_nil, List.length_take] at hlength
      omega
    | cons c rest =>
      obtain ⟨k, hk⟩ := Nat.exists_eq_add_of_lt hlt
      have hc : c ∈ (name ++ c :: rest).take 4 := by
        rw [List.take_append, hk, Nat.add_assoc, Nat.add_sub_cancel_left]
        simp
      exact absurd (hchars c hc) (by simp [hrest c rfl])
  · rw [List.take_left' heq, hgoto] at hfour
    cases hfour
  · -- The character behind the four belongs to the name.
    obtain ⟨c, u, hdrop⟩ : ∃ c u, name.drop 4 = c :: u :=
      List.exists_cons_of_ne_nil (by simpa using hgt)
    have hc : isWordChar c = true := hn c (List.mem_of_mem_drop (hdrop ▸ List.mem_cons_self))
    rw [List.drop_append_of_le_length hgt.le, hdrop] at hnext
    have hbracket : isWordChar '[' = false := by decide +kernel
    rcases (by simpa using hnext : Text.isBlank c = true ∨ c = '[') with hb | rfl
    · simp [Text.not_isBlank_of_isWordChar hc] at hb
    · simp [hbracket] at hc

theorem cutArrow?_eq_none {s : List Char} (h : ¬['<', '-'] <:+: s) : cutArrow? s = none := by
  induction s with
  | nil => rfl
  | cons c rest ih =>
    unfold cutArrow?
    split
    · rename_i tail
      exact absurd ⟨[], tail, rfl⟩ h
    · rw [ih fun hrest => h (hrest.trans (List.suffix_cons c rest).isInfix)]
      rfl

/-- The arrow behind a text that holds no part of one is the first. -/
theorem cutArrow?_append {s : List Char} (hs : '<' ∉ s) (rest : List Char) :
    cutArrow? (s ++ '<' :: '-' :: rest) = some (s, rest) := by
  induction s with
  | nil => rfl
  | cons c s ih =>
    rw [List.mem_cons, not_or] at hs
    rw [List.cons_append]
    unfold cutArrow?
    split
    · exact absurd rfl hs.1
    · rw [ih hs.2]
      rfl

end Statement

namespace Verb

/-- The verbs have different names, also in one case. -/
theorem ofName?_of_sameWord {name : List Char} {v : Verb}
    (h : sameWord name v.name.toList = true) : ofName? (String.ofList name) = some v := by
  have hsame : ∀ u : Verb, sameWord u.name.toList name = sameWord u.name.toList v.name.toList := by
    intro u
    rw [sameWord, sameWord, eq_of_beq h]
  simp only [ofName?, String.toList_ofList, hsame]
  cases v <;> decide

theorem isIdentifier_of_sameWord {name : List Char} {v : Verb}
    (h : sameWord name v.name.toList = true) : isIdentifier name = true := by
  apply Text.isIdentifier_of_sameWord h
  cases v <;> decide +kernel

theorem not_sameWord_goto {name : List Char} {v : Verb}
    (h : sameWord name v.name.toList = true) : sameWord name "goto".toList = false := by
  rw [sameWord, eq_of_beq h]
  cases v <;> decide

end Verb

namespace Statement

/-! ### Reading each form -/

theorem parse_of_afterGoTo? {s rest : List Char} (hs : Bare s)
    (hgoto : afterGoTo? s = some rest) : parse s = parseGoTo rest := by
  rw [parse, hs.trim_eq, hgoto]

theorem parse_of_cutArrow? {s name value : List Char} (hs : Bare s) (hgoto : afterGoTo? s = none)
    (harrow : cutArrow? s = some (name, value)) : parse s = parseAssign name value := by
  rw [parse, hs.trim_eq, hgoto, harrow]

theorem parse_of_eq_none {s : List Char} (hs : Bare s) (hgoto : afterGoTo? s = none)
    (harrow : cutArrow? s = none) : parse s = parseCommand s := by
  rw [parse, hs.trim_eq, hgoto, harrow]

/-- The character behind a name is no part of it. -/
theorem not_isWordChar_of_gap {g : List Char} (hg : Gap g) {c : Char}
    (hc : isWordChar c = false) (rest : List Char) :
    ∀ d ∈ (g ++ c :: rest).head?, isWordChar d = false := by
  intro d hd
  cases g with
  | nil =>
    cases hd
    exact hc
  | cons b g =>
    obtain rfl : b = d := by simpa using hd
    rw [Bool.eq_false_iff]
    intro hword
    have hblank := hg b List.mem_cons_self
    simp [Text.not_isBlank_of_isWordChar hword] at hblank

theorem ofVerbName_eq {name : List Char} {v : Verb} (hv : sameWord name v.name.toList = true)
    (ps : List Param) : ofVerbName name ps = .ok (.command v ps) := by
  simp [ofVerbName, Verb.isIdentifier_of_sameWord hv, Verb.ofName?_of_sameWord hv]

theorem parse_verb {name : List Char} {v : Verb} (hv : sameWord name v.name.toList = true) :
    parse name = .ok (.command v []) := by
  have hn := Verb.isIdentifier_of_sameWord hv
  have hgoto : afterGoTo? name = none := by
    rw [← List.append_nil name]
    exact afterGoTo?_name (Text.isWordChar_of_isIdentifier hn) (Verb.not_sameWord_goto hv)
      (by simp)
  have hnone : ∀ c ∈ Text.marks, c ∉ name := fun c hc => by
    simpa using Text.notMem_name hn Text.gap_nil hc
  have harrow : cutArrow? name = none := by
    apply cutArrow?_eq_none
    intro h
    exact hnone '<' (by decide) (h.subset List.mem_cons_self)
  have hdrop : name.dropWhile (· != '(') = [] :=
    List.dropWhile_eq_nil_iff.mpr (Text.bne_of_notMem (hnone '(' (by decide)))
  rw [parse_of_eq_none (Text.isWord_of_isIdentifier hn).bare hgoto harrow, parseCommand, hdrop]
  exact ofVerbName_eq hv []

theorem parseCommand_group {name g inside : List Char} {v : Verb} {ps : List Param}
    (hv : sameWord name v.name.toList = true) (hg : Gap g) (hps : Param.Renderings inside ps) :
    parseCommand (name ++ g ++ '(' :: inside ++ [')']) = .ok (.command v ps) := by
  have hn := Verb.isIdentifier_of_sameWord hv
  have hopen : '(' ∉ name ++ g := Text.notMem_name hn hg (by decide)
  obtain ⟨ts, hts, hread⟩ := hps.exists_arguments
  have hcut := Nesting.cutGroup_concat hps.balanced
  have hsplit : name ++ g ++ '(' :: inside ++ [')'] = name ++ g ++ '(' :: (inside ++ [')']) := by
    simp
  rw [parseCommand, hsplit, Text.takeWhile_bne_append hopen, Text.dropWhile_bne_append hopen,
    Text.trim_name hn hg]
  simp [hcut, hts, hread, ofVerbName_eq hv, bind, Except.bind]

theorem parse_command {name g inside : List Char} {v : Verb} {ps : List Param}
    (hv : sameWord name v.name.toList = true) (hg : Gap g) (hps : Param.Renderings inside ps)
    (harrow : ¬['<', '-'] <:+: name ++ g ++ '(' :: inside ++ [')']) :
    parse (name ++ g ++ '(' :: inside ++ [')']) = .ok (.command v ps) := by
  have hn := Verb.isIdentifier_of_sameWord hv
  have hgoto : afterGoTo? (name ++ g ++ '(' :: inside ++ [')']) = none := by
    have hnext := not_isWordChar_of_gap hg (c := '(') (by decide +kernel) (inside ++ [')'])
    have hgoto := Verb.not_sameWord_goto hv
    simpa using afterGoTo?_name (Text.isWordChar_of_isIdentifier hn) hgoto hnext
  have hbare := (Expr.Solid.call hn hg hps.balanced).bare
  rw [parse_of_eq_none hbare hgoto (cutArrow?_eq_none harrow)]
  exact parseCommand_group hv hg hps

/-- How the condition behind the label of a jump is written. -/
inductive Condition : List Char → Expr → Prop where
  | always : Condition [] (.int 1)
  | when {g c : List Char} {e : Expr} (hg : Gap g) (hc : Expr.parse c = .ok e) :
      Condition (g ++ '(' :: c ++ [')']) e

theorem Condition.parse_trim {rest : List Char} {e : Expr} (h : Condition rest e) :
    parseCondition (Text.trim rest) = .ok e := by
  cases h with
  | always => rfl
  | @when g c e hg hc =>
    have hbalanced := (Expr.rendering_of_parse hc).closed.balanced
    have htrim : Text.trim (g ++ '(' :: c ++ [')']) = '(' :: (c ++ [')']) := by
      simpa using Text.trim_padded hg Text.gap_nil (Expr.solid_group hbalanced).bare
    rw [htrim]
    simp [parseCondition, Nesting.cutGroup_concat hbalanced, hc, bind, Except.bind]

theorem parseGoTo_label {g h label k rest : List Char} {e : Expr} (hg : Gap g) (hh : Gap h)
    (hlabel : isLabel label = true) (hk : Gap k) (hrest : Condition rest e) :
    parseGoTo (g ++ '[' :: (h ++ label ++ k) ++ ']' :: rest) =
      .ok (.goTo (String.ofList label) e) := by
  have hstart : Text.trimStart (g ++ '[' :: (h ++ label ++ k) ++ ']' :: rest) =
      '[' :: (h ++ label ++ k ++ ']' :: rest) := by
    rw [List.append_assoc, Text.trimStart_gap_append hg]
    exact Text.trimStart_of_head? ⟨'[', rfl, by decide⟩
  have hclose : ']' ∉ h ++ label ++ k := by
    have hblank : Text.isBlank ']' = false := by decide
    have hword : isWordChar ']' = false := by decide +kernel
    intro hmem
    rcases (by simpa [or_assoc] using hmem : ']' ∈ h ∨ ']' ∈ label ∨ ']' ∈ k) with hm | hm | hm
    · simp [hh _ hm] at hblank
    · rcases (Text.mem_of_isLabel hlabel).2 _ hm with hc | hc
      · simp [hword] at hc
      · exact absurd hc (by decide)
    · simp [hk _ hm] at hblank
  rw [parseGoTo, hstart]
  simp only [Text.takeWhile_bne_append hclose, Text.dropWhile_bne_append hclose,
    Text.trim_padded hh hk (Text.bare_of_isLabel hlabel), hlabel, hrest.parse_trim]
  rfl

theorem parse_goTo {word g h label k rest : List Char} {e : Expr}
    (hword : sameWord word "goto".toList = true) (hg : Gap g) (hh : Gap h)
    (hlabel : isLabel label = true) (hk : Gap k) (hrest : Condition rest e)
    (hbare : Bare (word ++ g ++ '[' :: (h ++ label ++ k) ++ ']' :: rest)) :
    parse (word ++ g ++ '[' :: (h ++ label ++ k) ++ ']' :: rest) =
      .ok (.goTo (String.ofList label) e) := by
  have hsplit : word ++ g ++ '[' :: (h ++ label ++ k) ++ ']' :: rest =
      word ++ (g ++ '[' :: (h ++ label ++ k) ++ ']' :: rest) := by simp
  have hnext : ∀ c ∈ (g ++ '[' :: (h ++ label ++ k) ++ ']' :: rest).head?,
      Text.isBlank c = true ∨ c = '[' := by
    cases g with
    | nil => simp
    | cons b g => simpa using .inl (hg b List.mem_cons_self)
  have hgoto := afterGoTo?_word hword hnext
  rw [← hsplit] at hgoto
  rw [parse_of_afterGoTo? hbare hgoto]
  exact parseGoTo_label hg hh hlabel hk hrest

theorem parse_assign {name g value : List Char} {e : Expr} (hn : isIdentifier name = true)
    (hgoto : sameWord name "goto".toList = false) (hg : Gap g) (he : Expr.parse value = .ok e)
    (hbare : Bare (name ++ g ++ '<' :: '-' :: value)) :
    parse (name ++ g ++ '<' :: '-' :: value) = .ok (.assign (String.ofList name) e) := by
  have hnext := not_isWordChar_of_gap hg (c := '<') (by decide +kernel) ('-' :: value)
  have hnone : afterGoTo? (name ++ g ++ '<' :: '-' :: value) = none := by
    simpa using afterGoTo?_name (Text.isWordChar_of_isIdentifier hn) hgoto hnext
  have harrow := cutArrow?_append (Text.notMem_name hn hg (c := '<') (by decide)) value
  rw [parse_of_cutArrow? hbare hnone harrow, parseAssign, Text.trim_name hn hg, hn, he]
  rfl

end Statement

end PaintRobot
