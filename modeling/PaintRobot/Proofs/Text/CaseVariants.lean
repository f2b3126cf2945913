import PaintRobot.Proofs.Text.Padding
import Mathlib.Data.List.Chain
import Mathlib.Data.List.Forall2

/-!
Texts that differ in the case of their letters at most. A character that lowering changes is cased
and never looked through, as is its lowercase form; so the words of such texts end at the same
places, and lowering tells the texts apart only by capital sigmas at the ends of words.
-/
namespace PaintRobot.Text

/-! ### Cased characters -/

-- By the recursor, since the tables are long and the kernel has to search them for every run.
/-- The first range that ends at `lo` or behind it. -/
def reaching? (lo : Nat) (ranges : List CodeRange) : Option CodeRange :=
  List.rec none (fun t _ later => bif Nat.blt t.2 lo then later else some t) ranges

/-- Whether the code points from `lo` to `hi` lie in the range that reaches `lo`. -/
def isWithin (lo hi : Nat) (ranges : List CodeRange) : Bool :=
  (reaching? lo ranges).any fun t => Nat.ble t.1 lo && Nat.ble hi t.2

/-- Whether the range that reaches `lo` begins behind `hi`. -/
def isClear (lo hi : Nat) (ranges : List CodeRange) : Bool :=
  (reaching? lo ranges).all fun t => Nat.blt hi t.1

theorem reaching?_eq_find? (lo : Nat) (ranges : List CodeRange) :
    reaching? lo ranges = ranges.find? fun t => lo ≤ t.2 := by
  induction ranges with
  | nil => rfl
  | cons t ranges ih =>
    show (bif Nat.blt t.2 lo then reaching? lo ranges else some t) = _
    rw [ih, List.find?_cons]
    by_cases h : lo ≤ t.2
    · have hblt : Nat.blt t.2 lo = false := by
        rw [Bool.eq_false_iff, ne_eq, Nat.blt_eq]
        omega
      simp [h, hblt]
    · have hblt : Nat.blt t.2 lo = true := Nat.blt_eq.mpr (Nat.lt_of_not_le h)
      simp [h, hblt]

theorem inRanges_of_isWithin {ranges : List CodeRange} {lo hi : Nat} {c : Char}
    (h : isWithin lo hi ranges = true) (hlo : lo ≤ c.toNat) (hhi : c.toNat ≤ hi) :
    inRanges ranges c = true := by
  rw [isWithin, reaching?_eq_find?, Option.any_eq_true] at h
  obtain ⟨t, hfind, hwithin⟩ := h
  simp only [Bool.and_eq_true, Nat.ble_eq] at hwithin
  exact inRanges_eq_true_iff.mpr ⟨t, List.mem_of_find?_eq_some hfind, by omega, by omega⟩

theorem not_inRanges_of_isClear {ranges : List CodeRange} {lo hi : Nat} {c : Char}
    (hordered : ranges.Pairwise fun t u => t.1 ≤ u.1) (h : isClear lo hi ranges = true)
    (hlo : lo ≤ c.toNat) (hhi : c.toNat ≤ hi) : inRanges ranges c = false := by
  rw [Bool.eq_false_iff]
  intro hc
  obtain ⟨u, hu, hulo, huhi⟩ := inRanges_eq_true_iff.mp hc
  have hreaches : lo ≤ u.2 := hlo.trans huhi
  rw [isClear, reaching?_eq_find?] at h
  cases hfind : ranges.find? fun t => lo ≤ t.2 with
  | none =>
    have hshort := List.find?_eq_none.mp hfind u hu
    exact absurd hreaches (by simpa using hshort)
  | some t =>
    obtain ⟨-, before, behind, rfl, hbefore⟩ := List.find?_eq_some_iff_append.mp hfind
    have hbehind : hi < t.1 := by simpa [hfind] using h
    have hfirst : t.1 ≤ u.1 := by
      rcases List.mem_append.mp hu with hu | hu
      · have hshort := hbefore u hu
        exact absurd hreaches (by simpa using hshort)
      · rcases List.mem_cons.mp hu with rfl | hu
        · exact Nat.le_refl _
        · exact (List.pairwise_cons.mp (List.pairwise_append.mp hordered).2.1).1 u hu
    omega

/-- Whether all code points of a run and all their lowercase forms are cased. -/
def CaseRun.isCased (r : CaseRun) : Bool :=
  (isWithin r.first r.last casedCodes || (List.range (r.last + 1 - r.first)).all fun k =>
    !r.covers (r.first + k) || isWithin (r.first + k) (r.first + k) casedCodes) &&
  isWithin (r.first + r.shift).toNat (r.last + r.shift).toNat casedCodes

/-- Whether none of the code points of a run and of their lowercase forms are looked through. -/
def CaseRun.isSeen (r : CaseRun) : Bool :=
  isClear r.first r.last caseIgnorableCodes &&
    isClear (r.first + r.shift).toNat (r.last + r.shift).toNat caseIgnorableCodes

/-- Whether all lowercase forms of a run are characters. -/
def CaseRun.isValid (r : CaseRun) : Bool :=
  Nat.blt (r.last + r.shift).toNat 0xD800 ||
    Nat.blt 0xDFFF (r.first + r.shift).toNat && Nat.blt (r.last + r.shift).toNat 0x110000

/-- The characters looked through are in order. No character with a lowercase form is among them,
nor is the form, and both are cased. -/
theorem tables_checked :
    (caseIgnorableCodes.IsChain fun t u => t.1 ≤ u.1) ∧
      caseRuns.all (fun r => r.isCased && r.isSeen && r.isValid) = true := by decide +kernel

theorem pairwise_caseIgnorableCodes :
    caseIgnorableCodes.Pairwise fun t u => t.1 ≤ u.1 := by
  have : IsTrans CodeRange fun t u => t.1 ≤ u.1 := ⟨fun _ _ _ => Nat.le_trans⟩
  exact List.isChain_iff_pairwise.mp tables_checked.1

theorem checked_of_mem_caseRuns {r : CaseRun} (hr : r ∈ caseRuns) :
    (r.isCased = true ∧ r.isSeen = true) ∧ r.isValid = true := by
  simpa using List.all_eq_true.mp tables_checked.2 r hr

theorem CaseRun.covers_iff {r : CaseRun} {n : Nat} :
    r.covers n = true ↔ (r.first ≤ n ∧ n ≤ r.last) ∧ (n - r.first) % r.stride = 0 := by
  simp [covers]

section

variable {r : CaseRun} {c : Char} (hr : r ∈ caseRuns) (hc : r.covers c.toNat = true)

include hr hc

theorem isCased_of_covers : isCased c = true := by
  have hcased := (checked_of_mem_caseRuns hr).1.1
  simp only [CaseRun.isCased, Bool.and_eq_true, Bool.or_eq_true, List.all_eq_true] at hcased
  obtain ⟨⟨hfirst, hlast⟩, -⟩ := CaseRun.covers_iff.mp hc
  rcases hcased.1 with hall | heach
  · exact inRanges_of_isWithin hall hfirst hlast
  · have hthis := heach (c.toNat - r.first) (List.mem_range.mpr (by omega))
    rw [Nat.add_sub_cancel' hfirst, hc] at hthis
    exact inRanges_of_isWithin (by simpa using hthis) (Nat.le_refl _) (Nat.le_refl _)

theorem not_isCaseIgnorable_of_covers : isCaseIgnorable c = false := by
  have hseen := (checked_of_mem_caseRuns hr).1.2
  simp only [CaseRun.isSeen, Bool.and_eq_true] at hseen
  obtain ⟨⟨hfirst, hlast⟩, -⟩ := CaseRun.covers_iff.mp hc
  exact not_inRanges_of_isClear pairwise_caseIgnorableCodes hseen.1 hfirst hlast

theorem toNat_lowered_of_covers :
    (Char.ofNat (c.toNat + r.shift).toNat).toNat = (c.toNat + r.shift).toNat := by
  have hvalid := (checked_of_mem_caseRuns hr).2
  simp only [CaseRun.isValid, Bool.and_eq_true, Bool.or_eq_true, Nat.blt_eq] at hvalid
  obtain ⟨⟨hfirst, hlast⟩, -⟩ := CaseRun.covers_iff.mp hc
  have hchar : (c.toNat + r.shift).toNat.isValidChar := by
    unfold Nat.isValidChar
    omega
  rw [Char.ofNat, dif_pos hchar]
  rfl

theorem lowered_of_covers :
    let e := Char.ofNat (c.toNat + r.shift).toNat
    isCased e = true ∧ isCaseIgnorable e = false := by
  intro e
  have he : e.toNat = (c.toNat + r.shift).toNat := toNat_lowered_of_covers hr hc
  obtain ⟨⟨hcased, hseen⟩, -⟩ := checked_of_mem_caseRuns hr
  simp only [CaseRun.isCased, Bool.and_eq_true] at hcased
  simp only [CaseRun.isSeen, Bool.and_eq_true] at hseen
  obtain ⟨⟨hfirst, hlast⟩, -⟩ := CaseRun.covers_iff.mp hc
  constructor
  · exact inRanges_of_isWithin hcased.2 (by omega) (by omega)
  · exact not_inRanges_of_isClear pairwise_caseIgnorableCodes hseen.2 (by omega) (by omega)

end

/-- A character that lowering changes is cased and not looked through, and so is its lowercase
form. -/
theorem cased_of_lowerChar {c e : Char} (h : lowerChar c = [e]) (hne : c ≠ e) :
    (isCased c = true ∧ isCaseIgnorable c = false) ∧
      isCased e = true ∧ isCaseIgnorable e = false := by
  unfold lowerChar at h
  split at h
  · cases h
  · split at h
    · rename_i r hfind
      have hr := List.mem_of_find?_eq_some hfind
      have hc := List.find?_some hfind
      cases h
      exact ⟨⟨isCased_of_covers hr hc, not_isCaseIgnorable_of_covers hr hc⟩,
        lowered_of_covers hr hc⟩
    · cases h
      exact absurd rfl hne

/-! ### Case variants -/

/-- Characters that are equal or have, each on its own, the same lowercase form of one character. -/
def SameLetter (c d : Char) : Prop := c = d ∨ ∃ e, lowerChar c = [e] ∧ lowerChar d = [e]

/-- Texts of one length with the same letters at every place, in whatever case. -/
def CaseVariants (s t : List Char) : Prop := List.Forall₂ SameLetter s t

theorem SameLetter.isCased_eq {c d : Char} (h : SameLetter c d) :
    isCased c = isCased d ∧ isCaseIgnorable c = isCaseIgnorable d := by
  rcases h with rfl | ⟨e, hc, hd⟩
  · exact ⟨rfl, rfl⟩
  by_cases hce : c = e <;> by_cases hde : d = e
  · rw [hce, hde]
    exact ⟨rfl, rfl⟩
  · obtain ⟨⟨hd₁, hd₂⟩, he₁, he₂⟩ := cased_of_lowerChar hd hde
    rw [hce, hd₁, hd₂, he₁, he₂]
    exact ⟨rfl, rfl⟩
  · obtain ⟨⟨hc₁, hc₂⟩, he₁, he₂⟩ := cased_of_lowerChar hc hce
    rw [hde, hc₁, hc₂, he₁, he₂]
    exact ⟨rfl, rfl⟩
  · obtain ⟨⟨hc₁, hc₂⟩, -⟩ := cased_of_lowerChar hc hce
    obtain ⟨⟨hd₁, hd₂⟩, -⟩ := cased_of_lowerChar hd hde
    rw [hc₁, hc₂, hd₁, hd₂]
    exact ⟨rfl, rfl⟩

theorem meetsCased_cons (c : Char) (s : List Char) :
    meetsCased (c :: s) = if isCaseIgnorable c then meetsCased s else isCased c := by
  by_cases h : isCaseIgnorable c = true <;> simp [meetsCased, h]

variable {s t before before' : List Char} {c d : Char}

theorem CaseVariants.meetsCased_eq (h : CaseVariants s t) : meetsCased s = meetsCased t := by
  induction h with
  | nil => rfl
  | cons hletter _ ih =>
    obtain ⟨hcased, hignorable⟩ := hletter.isCased_eq
    rw [meetsCased_cons, meetsCased_cons, ih, hcased, hignorable]

/-! ### Lowering -/

/-- Whether a character between these texts ends a word. The one before it is read backwards. -/
def endsWord (before after : List Char) : Bool := meetsCased before && !meetsCased after

/-- Where a word of `s` ends, which follows the characters `before`, both texts have a capital sigma
or neither has. -/
def SigmasAgreeAfter (before s t : List Char) : Prop :=
  ∀ i, endsWord ((s.take i).reverse ++ before) (s.drop (i + 1)) = true →
    (s[i]? = some 'Σ' ↔ t[i]? = some 'Σ')

/-- Where a word ends, both texts have a capital sigma or neither has. -/
def SigmasAgree (s t : List Char) : Prop := SigmasAgreeAfter [] s t

theorem sigmasAgreeAfter_cons :
    SigmasAgreeAfter before (c :: s) (d :: t) ↔
      (endsWord before s = true → (c = 'Σ' ↔ d = 'Σ')) ∧ SigmasAgreeAfter (c :: before) s t := by
  unfold SigmasAgreeAfter
  rw [← Nat.and_forall_add_one]
  simp

theorem lowerChar_sigma : lowerChar 'Σ' = ['σ'] := rfl

theorem lowerSigma_eq_iff (before after : List Char) :
    lowerSigma before after = 'σ' ↔ endsWord before after = false := by
  unfold lowerSigma endsWord
  split <;> simp_all

/-- What a character becomes between two texts. -/
def lowerBetween (before : List Char) (c : Char) (after : List Char) : List Char :=
  if c = 'Σ' then [lowerSigma before after] else lowerChar c

theorem lowerBetween_sigma : lowerBetween before 'Σ' s = [lowerSigma before s] := if_pos rfl

theorem lowerBetween_of_ne (h : c ≠ 'Σ') : lowerBetween before c s = lowerChar c := if_neg h

theorem length_lowerBetween (before : List Char) (c : Char) (s : List Char) :
    (lowerBetween before c s).length = (lowerChar c).length := by
  by_cases h : c = 'Σ'
  · rw [h, lowerBetween_sigma, lowerChar_sigma]
    rfl
  · rw [lowerBetween_of_ne h]

theorem SameLetter.lowerChar_eq (h : SameLetter c d) : lowerChar c = lowerChar d := by
  rcases h with rfl | ⟨e, hc, hd⟩
  · rfl
  · rw [hc, hd]

/-- Only a capital sigma that ends a word is told from another case of its letter. -/
theorem SameLetter.lowerBetween_eq_iff (h : SameLetter c d) (hbefore : CaseVariants before before')
    (hafter : CaseVariants s t) :
    lowerBetween before c s = lowerBetween before' d t ↔
      (endsWord before s = true → (c = 'Σ' ↔ d = 'Σ')) := by
  have hlower := h.lowerChar_eq
  have hends : endsWord before' t = endsWord before s := by
    rw [endsWord, endsWord, hbefore.meetsCased_eq, hafter.meetsCased_eq]
  by_cases hc : c = 'Σ' <;> by_cases hd : d = 'Σ'
  · have hsigma : lowerSigma before s = lowerSigma before' t := by
      rw [lowerSigma, lowerSigma, hbefore.meetsCased_eq, hafter.meetsCased_eq]
    simp [hc, hd, lowerBetween_sigma, hsigma]
  · rw [hc, lowerChar_sigma] at hlower
    rw [hc, lowerBetween_sigma, lowerBetween_of_ne hd, ← hlower, List.singleton_inj,
      lowerSigma_eq_iff]
    simp [hd]
  · rw [hd, lowerChar_sigma] at hlower
    rw [hd, lowerBetween_sigma, lowerBetween_of_ne hc, hlower, List.singleton_inj, eq_comm,
      lowerSigma_eq_iff, hends]
    simp [hc]
  · simp [hc, hd, lowerBetween_of_ne, hlower]

theorem lowerAfter_eq_iff (hbefore : CaseVariants before before') (h : CaseVariants s t) :
    lowerAfter before s = lowerAfter before' t ↔ SigmasAgreeAfter before s t := by
  induction h generalizing before before' with
  | nil => simp [lowerAfter, SigmasAgreeAfter]
  | @cons c d s t hletter hrest ih =>
    have hlength : (lowerBetween before c s).length = (lowerBetween before' d t).length := by
      rw [length_lowerBetween, length_lowerBetween, hletter.lowerChar_eq]
    have hfirst := hletter.lowerBetween_eq_iff hbefore hrest
    have hnext : lowerAfter (c :: before) s = lowerAfter (d :: before') t ↔
        SigmasAgreeAfter (c :: before) s t := ih (.cons hletter hbefore)
    show lowerBetween before c s ++ lowerAfter (c :: before) s =
      lowerBetween before' d t ++ lowerAfter (d :: before') t ↔ _
    rw [sigmasAgreeAfter_cons, ← hfirst, ← hnext]
    constructor
    · exact fun happend => List.append_inj happend hlength
    · rintro ⟨hone, hmore⟩
      rw [hone, hmore]

theorem lowercase_eq_iff (h : CaseVariants s t) : lowercase s = lowercase t ↔ SigmasAgree s t :=
  lowerAfter_eq_iff .nil h

theorem trim_of_isLabel (h : isLabel s = true) : trim s = s := (bare_of_isLabel h).trim_eq

/-- Labels with the same letters have one key but for capital sigmas at the ends of words. -/
theorem labelKey_eq_iff (hs : isLabel s = true) (ht : isLabel t = true) (h : CaseVariants s t) :
    labelKey s = labelKey t ↔ SigmasAgree s t := by
  rw [labelKey, labelKey, trim_of_isLabel hs, trim_of_isLabel ht, lowercase_eq_iff h]

end PaintRobot.Text
