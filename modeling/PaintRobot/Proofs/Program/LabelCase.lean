import PaintRobot.Proofs.Program.Resolution
import PaintRobot.Proofs.Text.CaseVariants

/-!
Labels in other cases. A label is found under its name in any case, and cannot be given again in
another one, unless capital sigmas at the ends of words tell the names apart.
-/
namespace PaintRobot.Program

open Text (isLabel labelKey CaseVariants SigmasAgree SameLetter)

variable {source : String} {p : Program} {s t : List Char} {i j : Nat} {l l' : Line}

theorem label?_iff_of_kind (hload : load source = .ok p) (hl : p.lines[i]? = some l)
    (hkind : l.kind = .label s) :
    p.label? (String.ofList t) = some i ↔ labelKey s = labelKey t := by
  rw [label?_eq_some_iff hload, String.toList_ofList, ← Line.labels_iff hkind]
  simp [hl]

/-- A label with the key of an earlier one is bad. -/
theorem badLabel_of_labelKey_eq {lines : List Line} (hij : i < j) (hl : lines[i]? = some l)
    (hkind : l.kind = .label s) (hl' : lines[j]? = some l') (hkind' : l'.kind = .label t)
    (hkey : labelKey s = labelKey t) : BadLabel lines j t :=
  ⟨⟨l', hl', hkind'⟩, .inr ⟨i, l, hij, hl, (Line.labels_iff hkind).mpr hkey⟩⟩

theorem BadLabel.name_eq {lines : List Line} {name other : List Char} (h : BadLabel lines j name)
    (h' : BadLabel lines j other) : name = other := by
  obtain ⟨⟨l, hl, hkind⟩, -⟩ := h
  obtain ⟨⟨l', hl', hkind'⟩, -⟩ := h'
  obtain rfl : l = l' := Option.some.inj (hl.symm.trans hl')
  exact Line.Kind.label.inj (hkind.symm.trans hkind')

/-- A source is refused for a bad label if there is none before it. -/
theorem load_of_badLabel {name : List Char} (h : BadLabel (sourceLines source) j name)
    (hgood : GoodBefore (sourceLines source) j) :
    load source = .error ⟨badLabelCause name, some (j + 1)⟩ := by
  obtain ⟨f, hf⟩ := load_eq_error_iff.mpr ⟨j, name, h⟩
  obtain ⟨k, other, hbad, hfirst, rfl⟩ := of_load_eq_error hf
  have hjk : j ≤ k := Nat.le_of_not_lt fun hlt => hgood k hlt other hbad
  have hkj : k ≤ j := Nat.le_of_not_lt fun hlt => hfirst j hlt name h
  obtain rfl := Nat.le_antisymm hjk hkj
  rw [hf, h.name_eq hbad]

/-- Names with the same letters in other cases have one key exactly if they agree in the capital
sigmas that end words. Then each of them leads to the line of a label with the other, and a second
label with the other is refused as a duplicate; else neither leads to the line of the other. -/
theorem labels_ignore_case (hs : isLabel s = true) (ht : isLabel t = true)
    (h : CaseVariants s t) :
    (labelKey s = labelKey t ↔ SigmasAgree s t) ∧
    (∀ (source : String) (p : Program) (i : Nat) (l : Line), load source = .ok p →
      p.lines[i]? = some l → l.kind = .label s →
        (p.label? (String.ofList t) = some i ↔ SigmasAgree s t)) ∧
    (SigmasAgree s t → ∀ (source : String) (i j : Nat) (l l' : Line), i < j →
      (sourceLines source)[i]? = some l → l.kind = .label s →
      (sourceLines source)[j]? = some l' → l'.kind = .label t →
        (∃ f, load source = .error f) ∧
        ((∀ k < j, ∀ name, ¬BadLabel (sourceLines source) k name) →
          load source = .error ⟨.duplicateLabel (String.ofList t), some (j + 1)⟩)) := by
  have hkey := Text.labelKey_eq_iff hs ht h
  refine ⟨hkey, ?_, ?_⟩
  · intro source p i l hload hl hkind
    rw [label?_iff_of_kind hload hl hkind, hkey]
  · intro hagree source i j l l' hij hl hkind hl' hkind'
    have hbad := badLabel_of_labelKey_eq hij hl hkind hl' hkind' (hkey.mpr hagree)
    refine ⟨load_eq_error_iff.mpr ⟨j, t, hbad⟩, fun hgood => ?_⟩
    rw [load_of_badLabel hbad hgood, badLabelCause, if_pos ht]

/-- A sigma at the beginning of a word is the same in both cases. -/
theorem labels_ignore_case_of_sigma_in_front :
    let s := "Σa".toList
    let t := "σA".toList
    (isLabel s = true ∧ isLabel t = true ∧ CaseVariants s t ∧ SigmasAgree s t) ∧
    (∃ p, load "Fill\nΣa:" = .ok p ∧ p.label? (String.ofList t) = some 1) ∧
    load "Σa:\nFill\nσA:" = .error ⟨.duplicateLabel (String.ofList t), some 3⟩ := by
  intro s t
  have hs : isLabel s = true := by decide +kernel
  have ht : isLabel t = true := by decide +kernel
  have hsigma : SameLetter 'Σ' 'σ' := .inr ⟨'σ', by decide +kernel, by decide +kernel⟩
  have hletter : SameLetter 'a' 'A' := .inr ⟨'a', by decide +kernel, by decide +kernel⟩
  have hvariants : CaseVariants s t := by
    rw [show s = ['Σ', 'a'] by decide +kernel, show t = ['σ', 'A'] by decide +kernel]
    exact .cons hsigma (.cons hletter .nil)
  obtain ⟨hkey, hfind, htwice⟩ := labels_ignore_case hs ht hvariants
  have hagree : SigmasAgree s t := hkey.mp (by decide +kernel)
  refine ⟨⟨hs, ht, hvariants, hagree⟩, ?_, ?_⟩
  · have hok : (load "Fill\nΣa:").isOk = true := by decide +kernel
    obtain ⟨p, hload⟩ : ∃ p, load "Fill\nΣa:" = .ok p := by
      cases h : load "Fill\nΣa:" with
      | ok p => exact ⟨p, rfl⟩
      | error f =>
        rw [h] at hok
        cases hok
    have hline : p.lines[1]? = some ⟨"Σa:".toList⟩ := by
      rw [lines_of_ofLines hload, List.getElem?_toArray]
      decide +kernel
    exact ⟨p, hload, (hfind _ p 1 _ hload hline (by decide +kernel)).mpr hagree⟩
  · have hlines : sourceLines "Σa:\nFill\nσA:" =
        [⟨"Σa:".toList⟩, ⟨"Fill".toList⟩, ⟨"σA:".toList⟩] := by decide +kernel
    have hfirst : Line.kind ⟨"Σa:".toList⟩ = .label s := by decide +kernel
    have hsecond : Line.kind ⟨"Fill".toList⟩ = .code := by decide +kernel
    have hthird : Line.kind ⟨"σA:".toList⟩ = .label t := by decide +kernel
    refine (htwice hagree _ 0 2 _ _ (by decide) (by rw [hlines]; rfl) hfirst
      (by rw [hlines]; rfl) hthird).2 ?_
    rw [hlines]
    rintro k hk name ⟨⟨l, hl, hkind⟩, hbad⟩
    obtain rfl | rfl : k = 0 ∨ k = 1 := by omega
    · obtain rfl : ⟨"Σa:".toList⟩ = l := Option.some.inj hl
      obtain rfl : s = name := Line.Kind.label.inj (hfirst.symm.trans hkind)
      rcases hbad with hname | ⟨j, _, hj, -⟩
      · rw [hs] at hname
        cases hname
      · exact absurd hj (Nat.not_lt_zero j)
    · obtain rfl : ⟨"Fill".toList⟩ = l := Option.some.inj hl
      rw [hsecond] at hkind
      cases hkind

/-- A capital sigma that ends a word is not told from a small one by its case alone. -/
theorem not_labelKey_eq_of_caseVariants :
    ¬∀ s t : List Char, isLabel s = true → isLabel t = true → CaseVariants s t →
      labelKey s = labelKey t := by
  intro h
  have hletter : SameLetter 'Σ' 'σ' := .inr ⟨'σ', by decide +kernel, by decide +kernel⟩
  have hkey := h ['a', 'Σ'] ['a', 'σ'] (by decide +kernel) (by decide +kernel)
    (.cons (.inl rfl) (.cons hletter .nil))
  exact absurd hkey (by decide +kernel)

end PaintRobot.Program
