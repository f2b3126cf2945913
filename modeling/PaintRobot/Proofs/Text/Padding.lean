import PaintRobot.Operator
import PaintRobot.Text.Name
import Mathlib.Data.List.TakeWhile

/-!
Blanks around a text. Trimming takes them off and nothing else. The characters of names, numbers and
operators are never blank, and none of the characters that a scan looks for is part of a name.
-/
namespace PaintRobot.Text

theorem bne_of_notMem {s : List Char} {c : Char} (h : c ∉ s) : ∀ d ∈ s, (d != c) = true := by
  intro d hd
  rw [bne_iff_ne]
  rintro rfl
  exact h hd

theorem takeWhile_bne_append {s : List Char} {c : Char} (h : c ∉ s) (rest : List Char) :
    (s ++ c :: rest).takeWhile (· != c) = s := by
  rw [List.takeWhile_append_of_pos (bne_of_notMem h)]
  simp

theorem dropWhile_bne_append {s : List Char} {c : Char} (h : c ∉ s) (rest : List Char) :
    (s ++ c :: rest).dropWhile (· != c) = c :: rest := by
  rw [List.dropWhile_append_of_pos (bne_of_notMem h)]
  simp

/-- A run of blanks, of any length. -/
def Gap (s : List Char) : Prop := ∀ c ∈ s, isBlank c = true

/-- A text that begins and ends with a character that is no blank. -/
def Bare (s : List Char) : Prop :=
  (∃ c ∈ s.head?, isBlank c = false) ∧ ∃ c ∈ s.getLast?, isBlank c = false

theorem gap_nil : Gap [] := by simp [Gap]

theorem Bare.ne_nil {s : List Char} (hs : Bare s) : s ≠ [] := by
  rintro rfl
  obtain ⟨⟨c, hc, -⟩, -⟩ := hs
  cases hc

theorem bare_of_forall {s : List Char} (hne : s ≠ []) (hs : ∀ c ∈ s, isBlank c = false) :
    Bare s :=
  ⟨⟨s.head hne, List.head?_eq_some_head hne, hs _ (List.head_mem hne)⟩,
    ⟨s.getLast hne, List.getLast?_eq_some_getLast hne, hs _ (List.getLast_mem hne)⟩⟩

/-- Only the ends of a text decide whether it is bare. -/
theorem Bare.append {s t : List Char} (hs : Bare s) (m : List Char) (ht : Bare t) :
    Bare (s ++ m ++ t) := by
  obtain ⟨c, hc, hcb⟩ := hs.1
  obtain ⟨d, hd, hdb⟩ := ht.2
  refine ⟨⟨c, ?_, hcb⟩, ⟨d, ?_, hdb⟩⟩
  · rw [List.append_assoc, List.head?_append, Option.mem_def.mp hc]
    rfl
  · rw [List.getLast?_append, Option.mem_def.mp hd]
    rfl

theorem trimStart_gap_append {g s : List Char} (hg : Gap g) :
    trimStart (g ++ s) = trimStart s :=
  List.dropWhile_append_of_pos hg

theorem trimStart_of_head? {s : List Char} (hs : ∃ c ∈ s.head?, isBlank c = false) :
    trimStart s = s := by
  obtain ⟨c, hc, hb⟩ := hs
  obtain ⟨rest, rfl⟩ := List.head?_eq_some_iff.mp hc
  simp [trimStart, hb]

theorem trimEnd_eq (s : List Char) : trimEnd s = (trimStart s.reverse).reverse := rfl

/-- Trimming takes the blanks around a bare text off, and no more. -/
theorem trim_padded {g s h : List Char} (hg : Gap g) (hh : Gap h) (hs : Bare s) :
    trim (g ++ s ++ h) = s := by
  have hstart : trimStart (s ++ h) = s ++ h := by
    apply trimStart_of_head?
    obtain ⟨c, hc, hb⟩ := hs.1
    refine ⟨c, ?_, hb⟩
    rw [List.head?_append, Option.mem_def.mp hc]
    rfl
  have hend : trimStart s.reverse = s.reverse := trimStart_of_head? (by simpa using hs.2)
  have hgap : Gap h.reverse := fun c hc => hh c (List.mem_reverse.mp hc)
  rw [trim, List.append_assoc, trimStart_gap_append hg, hstart, trimEnd_eq, List.reverse_append,
    trimStart_gap_append hgap, hend, List.reverse_reverse]

theorem trim_gap {g : List Char} (hg : Gap g) : trim g = [] := by
  rw [trim, show trimStart g = [] from List.dropWhile_eq_nil_iff.mpr hg]
  rfl

/-- Trimming only takes blanks off. -/
theorem exists_gaps_trim (s : List Char) :
    ∃ g h, Gap g ∧ Gap h ∧ s = g ++ trim s ++ h := by
  refine ⟨s.takeWhile isBlank, ((trimStart s).reverse.takeWhile isBlank).reverse, ?_, ?_, ?_⟩
  · exact fun c hc => List.mem_takeWhile_imp hc
  · exact fun c hc => List.mem_takeWhile_imp (List.mem_reverse.mp hc)
  · rw [List.append_assoc, trim, trimEnd, ← List.reverse_append, List.takeWhile_append_dropWhile,
      List.reverse_reverse, trimStart, List.takeWhile_append_dropWhile]

theorem Gap.append {g h : List Char} (hg : Gap g) (hh : Gap h) : Gap (g ++ h) := by
  intro c hc
  exact (List.mem_append.mp hc).elim (hg c) (hh c)

theorem gap_of_trim_eq_nil {s : List Char} (hs : trim s = []) : Gap s := by
  obtain ⟨g, h, hg, hh, he⟩ := exists_gaps_trim s
  rw [he, hs, List.append_nil]
  exact hg.append hh

theorem exists_head?_trimStart {s : List Char} (hs : trimStart s ≠ []) :
    ∃ c ∈ (trimStart s).head?, isBlank c = false :=
  ⟨_, List.head?_eq_some_head hs, List.head_dropWhile_not isBlank hs⟩

/-- What trimming leaves has nothing more to trim. -/
theorem bare_trim {s : List Char} (hs : trim s ≠ []) : Bare (trim s) := by
  have hstart : trimStart s ≠ [] := by
    intro h
    rw [trim, h] at hs
    exact hs rfl
  have hend : trimStart (trimStart s).reverse ≠ [] := by
    simpa [trim, trimEnd_eq] using hs
  constructor
  · obtain ⟨c, hc, hb⟩ := exists_head?_trimStart hstart
    obtain ⟨rest, hrest⟩ : trim s <+: trimStart s := by
      rw [trim, trimEnd_eq, ← List.reverse_suffix, List.reverse_reverse]
      exact List.dropWhile_suffix _
    rw [← hrest, List.head?_append, List.head?_eq_some_head hs, Option.some_or] at hc
    exact ⟨c, by rwa [List.head?_eq_some_head hs], hb⟩
  · obtain ⟨c, hc, hb⟩ := exists_head?_trimStart hend
    exact ⟨c, by simpa [trim, trimEnd_eq] using hc, hb⟩

theorem Bare.trim_eq {s : List Char} (hs : Bare s) : trim s = s := by
  simpa using trim_padded gap_nil gap_nil hs

/-- A bare text does not begin or end with a gap. -/
theorem Bare.eq_nil_of_gaps {g m h : List Char} (ht : Bare (g ++ m ++ h)) (hg : Gap g) (hm : Bare m)
    (hh : Gap h) : g = [] ∧ h = [] := by
  have hlength := congrArg List.length ((trim_padded hg hh hm).symm.trans ht.trim_eq)
  simp only [List.length_append] at hlength
  exact ⟨List.eq_nil_of_length_eq_zero (by omega), List.eq_nil_of_length_eq_zero (by omega)⟩

/-- Blanks added around a text are trimmed with its own. -/
theorem trim_of_gaps {g s h : List Char} (hg : Gap g) (hh : Gap h) :
    trim (g ++ s ++ h) = trim s := by
  by_cases hs : trim s = []
  · rw [hs]
    exact trim_gap ((hg.append (gap_of_trim_eq_nil hs)).append hh)
  · obtain ⟨k, l, hk, hl, he⟩ := exists_gaps_trim s
    have hpadded : g ++ s ++ h = (g ++ k) ++ trim s ++ (l ++ h) := by
      simpa using congrArg (g ++ · ++ h) he
    rw [hpadded]
    exact trim_padded (hg.append hk) (hl.append hh) (bare_trim hs)

theorem trim_trim (s : List Char) : trim (trim s) = trim s := by
  obtain ⟨g, h, hg, hh, hs⟩ := exists_gaps_trim s
  rw [← trim_of_gaps hg hh (s := trim s), ← hs]

theorem mem_trim_or_isBlank {s : List Char} {c : Char} (hc : c ∈ s) :
    c ∈ trim s ∨ isBlank c = true := by
  obtain ⟨g, h, hg, hh, hs⟩ := exists_gaps_trim s
  rw [hs, List.mem_append, List.mem_append] at hc
  rcases hc with (hc | hc) | hc
  · exact .inr (hg c hc)
  · exact .inl hc
  · exact .inr (hh c hc)

/-- Whether no character lies in a range of both lists. -/
def areApart (rs ts : List CodeRange) : Bool :=
  rs.all fun r => ts.all fun t => r.2 < t.1 || t.2 < r.1

theorem not_inRanges_of_apart {rs ts : List CodeRange} {c : Char} (hc : inRanges rs c = true)
    (hrt : areApart rs ts = true) : inRanges ts c = false := by
  simp only [areApart, List.all_eq_true, Bool.or_eq_true, decide_eq_true_eq] at hrt
  obtain ⟨r, hr, hrl, hrh⟩ := inRanges_eq_true_iff.mp hc
  rw [Bool.eq_false_iff]
  intro h
  obtain ⟨t, ht, htl, hth⟩ := inRanges_eq_true_iff.mp h
  rcases hrt r hr t ht with h | h <;> omega

/-- The decimal digits are numerals. -/
theorem isWordChar_of_isDigit {c : Char} (hc : c.isDigit = true) : isWordChar c = true := by
  simp only [Char.isDigit, Bool.and_eq_true, decide_eq_true_eq] at hc
  have hn : isNumeral c = true :=
    inRanges_eq_true_iff.mpr ⟨(0x30, 0x39), by decide, hc.1, hc.2⟩
  simp [isWordChar, hn]

theorem not_isBlank_of_isLetter {c : Char} (hc : isLetter c = true) : isBlank c = false :=
  not_inRanges_of_apart hc (by decide +kernel)

theorem not_isBlank_of_isWordChar {c : Char} (hc : isWordChar c = true) : isBlank c = false := by
  simp only [isWordChar, Bool.or_eq_true, beq_iff_eq] at hc
  rcases hc with (hc | hc) | rfl
  · exact not_isBlank_of_isLetter hc
  · exact not_inRanges_of_apart hc (by decide +kernel)
  · decide

theorem not_isDigit_of_isLetter {c : Char} (hc : isLetter c = true) : c.isDigit = false := by
  have h : inRanges [(0x30, 0x39)] c = false := not_inRanges_of_apart hc (by decide +kernel)
  rw [Bool.eq_false_iff] at h ⊢
  intro hd
  simp only [Char.isDigit, Bool.and_eq_true, decide_eq_true_eq] at hd
  exact h (inRanges_eq_true_iff.mpr ⟨_, List.mem_cons_self, hd.1, hd.2⟩)

/-- The characters that a scan of an expression looks for. -/
def marks : List Char := "\"(),+-*/%<>=!&|".toList

theorem not_isWordChar_of_mem_marks : ∀ c ∈ marks, isWordChar c = false := by
  have h : marks.all (fun c => !isWordChar c) = true := by decide +kernel
  simpa using h

theorem not_isBlank_of_mem_marks : ∀ c ∈ marks, isBlank c = false := by
  have h : marks.all (fun c => !isBlank c) = true := by decide
  simpa using h

theorem notMem_marks_of_isBlank {c : Char} (hc : isBlank c = true) : c ∉ marks := fun h => by
  simp [not_isBlank_of_mem_marks c h] at hc

theorem bare_mark {c : Char} (hc : c ∈ marks) : Bare [c] :=
  bare_of_forall (by simp) (by simpa using not_isBlank_of_mem_marks c hc)

/-- A character that a scan passes over and that trimming leaves. -/
def IsPlain (c : Char) : Prop := c ∉ marks ∧ isBlank c = false

theorem isPlain_of_isWordChar {c : Char} (hc : isWordChar c = true) : IsPlain c := by
  refine ⟨fun h => ?_, not_isBlank_of_isWordChar hc⟩
  simp [not_isWordChar_of_mem_marks c h] at hc

theorem isPlain_of_isDigit {c : Char} (hc : c.isDigit = true) : IsPlain c :=
  isPlain_of_isWordChar (isWordChar_of_isDigit hc)

/-- One or more characters of that kind. -/
def IsWord (w : List Char) : Prop := w ≠ [] ∧ ∀ c ∈ w, IsPlain c

theorem IsWord.bare {w : List Char} (hw : IsWord w) : Bare w :=
  bare_of_forall hw.1 fun c hc => (hw.2 c hc).2

theorem isIdentifier_iff {t : List Char} : isIdentifier t = true ↔
    ∃ c u, t = c :: u ∧ isLetter c = true ∧ ∀ d ∈ t, isWordChar d = true := by
  cases t with
  | nil => simp [isIdentifier]
  | cons c u => simp +contextual [isIdentifier, isWordChar]

theorem isWordChar_of_isIdentifier {w : List Char} (hw : isIdentifier w = true) :
    ∀ c ∈ w, isWordChar c = true := by
  obtain ⟨_, _, _, _, hc⟩ := isIdentifier_iff.mp hw
  exact hc

theorem isWord_of_isIdentifier {w : List Char} (hw : isIdentifier w = true) : IsWord w := by
  refine ⟨?_, fun d hd => isPlain_of_isWordChar (isWordChar_of_isIdentifier hw d hd)⟩
  rintro rfl
  cases hw

/-- A name and the blanks behind it, up to the next token. -/
theorem trim_name {name g : List Char} (hn : isIdentifier name = true) (hg : Gap g) :
    trim (name ++ g) = name := by
  simpa using trim_padded gap_nil hg (isWord_of_isIdentifier hn).bare

theorem notMem_name {name g : List Char} (hn : isIdentifier name = true) (hg : Gap g) {c : Char}
    (hc : c ∈ marks) : c ∉ name ++ g := by
  intro hmem
  rcases List.mem_append.mp hmem with h | h
  · exact ((isWord_of_isIdentifier hn).2 c h).1 hc
  · exact notMem_marks_of_isBlank (hg c h) hc

theorem mem_of_isLabel {label : List Char} (h : isLabel label = true) :
    label ≠ [] ∧ ∀ c ∈ label, isWordChar c = true ∨ c = '-' := by
  cases label with
  | nil => cases h
  | cons c rest =>
    obtain ⟨hc, hrest⟩ := Bool.and_eq_true_iff.mp h
    refine ⟨List.cons_ne_nil c rest, List.forall_mem_cons.mpr ⟨?_, ?_⟩⟩
    · rcases (by simpa using hc : isLetter c = true ∨ c = '-') with h | h
      · exact .inl (by simp [isWordChar, h])
      · exact .inr h
    · simpa using hrest

theorem bare_of_isLabel {label : List Char} (h : isLabel label = true) : Bare label := by
  obtain ⟨hne, hchars⟩ := mem_of_isLabel h
  apply bare_of_forall hne
  intro c hc
  rcases hchars c hc with hword | rfl
  · exact not_isBlank_of_isWordChar hword
  · decide

theorem toLower_of_not_upper {c : Char} (hup : ¬(c.val ≥ 'A'.val ∧ c.val ≤ 'Z'.val)) :
    c.toLower = c := dif_neg hup

theorem toLower_eq_or_isLetter (c : Char) : c.toLower = c ∨ isLetter c = true := by
  by_cases hup : c.val ≥ 'A'.val ∧ c.val ≤ 'Z'.val
  · exact .inr (inRanges_eq_true_iff.mpr ⟨(0x41, 0x5A), List.mem_cons_self, hup.1, hup.2⟩)
  · exact .inl (toLower_of_not_upper hup)

theorem isLetter_of_toLower {c : Char} (h : isLetter c.toLower = true) : isLetter c = true := by
  rcases toLower_eq_or_isLetter c with hc | hc
  · rwa [hc] at h
  · exact hc

theorem isWordChar_of_toLower {c : Char} (h : isWordChar c.toLower = true) :
    isWordChar c = true := by
  rcases toLower_eq_or_isLetter c with hc | hc
  · rwa [hc] at h
  · simp [isWordChar, hc]

theorem isWordChar_of_sameWord {s w : List Char} (h : sameWord s w = true)
    (hw : (w.map Char.toLower).all isWordChar = true) : ∀ c ∈ s, isWordChar c = true := by
  intro c hc
  rw [← eq_of_beq h, List.all_eq_true] at hw
  exact isWordChar_of_toLower (hw c.toLower (List.mem_map_of_mem hc))

/-- A word in any case is one if it is in lower case. -/
theorem isWord_of_sameWord {s w : List Char} (h : sameWord s w = true) (hne : w ≠ [])
    (hw : (w.map Char.toLower).all isWordChar = true) : IsWord s := by
  constructor
  · rintro rfl
    exact hne (List.map_eq_nil_iff.mp (eq_of_beq h).symm)
  · exact fun c hc => isPlain_of_isWordChar (isWordChar_of_sameWord h hw c hc)

/-- A name in any case is one if it is in lower case. -/
theorem isIdentifier_of_sameWord {s w : List Char} (h : sameWord s w = true)
    (hw : isIdentifier (w.map Char.toLower) = true) : isIdentifier s = true := by
  obtain ⟨c, u, hcons, hletter, hall⟩ := isIdentifier_iff.mp hw
  obtain ⟨d, v, rfl, rfl, -⟩ := List.map_eq_cons_iff.mp ((eq_of_beq h).trans hcons)
  exact isIdentifier_iff.mpr ⟨d, v, rfl, isLetter_of_toLower hletter,
    isWordChar_of_sameWord h (List.all_eq_true.mpr hall)⟩

end PaintRobot.Text
