import PaintRobot.Proofs.Program.Labels

/-!
How the labels of a source are resolved. A source is refused for its first bad label and for nothing
else; in a program a name leads to the one label line with its key, and so does a jump.
-/
namespace PaintRobot

/-- Whether the line is a label. -/
def Line.isLabel (l : Line) : Bool :=
  match l.kind with
  | .label _ => true
  | _ => false

theorem Line.labels_iff {l : Line} {name key : List Char} (h : l.kind = .label name) :
    l.Labels key ↔ Text.labelKey name = key := by
  simp [Labels, h]

namespace Program

def sourceLines (source : String) : List Line := (Line.split source.toList).map Line.ofText

/-- The label on line `k` is bad: no label can have its name, or an earlier line is a label with its
key. -/
def BadLabel (lines : List Line) (k : Nat) (name : List Char) : Prop :=
  (∃ l, lines[k]? = some l ∧ l.kind = .label name) ∧
    (Text.isLabel name = false ∨
      ∃ j l, j < k ∧ lines[j]? = some l ∧ l.Labels (Text.labelKey name))

/-- What a program is refused for when a label is bad. -/
def badLabelCause (name : List Char) : Cause :=
  if Text.isLabel name then .duplicateLabel (String.ofList name)
  else .invalidLabel (String.ofList name)

theorem code_badLabelCause (name : List Char) :
    (badLabelCause name).code = if Text.isLabel name then .syntaxError else .invalidLabel := by
  unfold badLabelCause
  split <;> rfl

/-- The table has the keys of the labels among some lines, and no two of these have the same. -/
structure Collected (lines : List Line) (labels : Table (List Char) Nat) : Prop where
  keys : ∀ key, (labels.get? key).isSome ↔ ∃ l ∈ lines, l.Labels key
  size : labels.size = lines.countP (·.isLabel)

variable {done rest lines : List Line} {l : Line} {labels more : Table (List Char) Nat}
  {name : List Char} {f : Fault}

theorem collected_nil : Collected [] {} where
  keys key := by simp [Table.get?, Table.find?]
  size := rfl

theorem Collected.skip (h : Collected done labels) (hl : ∀ name, l.kind ≠ .label name) :
    Collected (done ++ [l]) labels where
  keys key := by
    have hno : ¬l.Labels key := fun ⟨name, hname, _⟩ => hl name hname
    simp [h.keys, or_and_right, exists_or, hno]
  size := by
    have hno : l.isLabel = false := by
      unfold Line.isLabel
      split
      · exact absurd ‹_› (hl _)
      · rfl
    simp [h.size, hno]

theorem Collected.store (h : Collected done labels) (hl : l.kind = .label name)
    (hnew : labels.get? (Text.labelKey name) = none) (i : Nat) :
    Collected (done ++ [l]) (labels.store (Text.labelKey name) i) where
  keys key := by
    rw [Table.get?_store]
    have hold := h.keys key
    by_cases hkey : key = Text.labelKey name
    · simp [hkey, Line.labels_iff hl]
    · simp [hkey, hold, or_and_right, exists_or, Line.labels_iff hl, Ne.symm hkey]
  size := by
    have hyes : l.isLabel = true := by simp [Line.isLabel, hl]
    simp [Table.size_store, h.size, hnew, hyes]

/-- The line behind some collected ones is a bad label if its name is bad or its key is taken. -/
theorem badLabel_at_iff (h : Collected done labels) :
    BadLabel (done ++ l :: rest) done.length name ↔
      l.kind = .label name ∧
        (Text.isLabel name = false ∨ (labels.get? (Text.labelKey name)).isSome) := by
  have hearlier : (∃ j l', j < done.length ∧ (done ++ l :: rest)[j]? = some l' ∧
      l'.Labels (Text.labelKey name)) ↔ ∃ l' ∈ done, l'.Labels (Text.labelKey name) := by
    constructor
    · rintro ⟨j, l', hj, hl', hkey⟩
      rw [List.getElem?_append_left hj] at hl'
      exact ⟨l', List.mem_of_getElem? hl', hkey⟩
    · rintro ⟨l', hl', hkey⟩
      obtain ⟨j, hj⟩ := List.mem_iff_getElem?.mp hl'
      have hlt : j < done.length := (List.getElem?_eq_some_iff.mp hj).1
      exact ⟨j, l', hlt, by rw [List.getElem?_append_left hlt, hj], hkey⟩
  rw [BadLabel, hearlier, ← h.keys]
  simp

/-- No line in front of line `n` is a bad label. -/
def GoodBefore (lines : List Line) (n : Nat) : Prop := ∀ k < n, ∀ name, ¬BadLabel lines k name

theorem GoodBefore.succ {n : Nat} (h : GoodBefore lines n) (hn : ∀ name, ¬BadLabel lines n name) :
    GoodBefore lines (n + 1) := by
  intro k hk
  rcases Nat.lt_succ_iff_lt_or_eq.mp hk with hlt | rfl
  · exact h k hlt
  · exact hn

/-- One more line that is no bad label joins those in front. -/
theorem GoodBefore.next (h : GoodBefore (done ++ l :: rest) done.length)
    (hl : ∀ name, ¬BadLabel (done ++ l :: rest) done.length name) :
    GoodBefore (done ++ [l] ++ rest) (done ++ [l]).length := by
  rw [List.append_assoc, List.length_append]
  exact h.succ hl

theorem goodBefore_length_iff :
    GoodBefore lines lines.length ↔ ∀ k name, ¬BadLabel lines k name := by
  constructor
  · intro h k name hbad
    obtain ⟨⟨l, hl, -⟩, -⟩ := id hbad
    exact h k (List.getElem?_eq_some_iff.mp hl).1 name hbad
  · exact fun h k _ => h k

/-- Adding a label fails with what is wrong with it. -/
theorem addLabel_eq_error {i : Nat} {cause : Cause} (h : addLabel labels name i = .error cause) :
    (Text.isLabel name = false ∨ (labels.get? (Text.labelKey name)).isSome) ∧
      cause = badLabelCause name := by
  simp only [addLabel] at h
  split at h
  · rename_i hname
    cases h
    have hname : Text.isLabel name = false := by simpa using hname
    exact ⟨.inl hname, by simp [badLabelCause, hname]⟩
  · rename_i hname
    have hname : Text.isLabel name = true := by simpa using hname
    split at h
    · rename_i hkey
      cases h
      exact ⟨.inr hkey, by simp [badLabelCause, hname]⟩
    · cases h

theorem isLabel_of_addLabel {i : Nat} (h : addLabel labels name i = .ok more) :
    Text.isLabel name = true := by
  simp only [addLabel] at h
  split at h
  · cases h
  · rename_i hname
    simpa using hname

/-- Behind lines whose labels are collected, collecting goes on to the first bad label. -/
theorem collectLabels_cases (rest : List Line) (h : Collected done labels)
    (hgood : GoodBefore (done ++ rest) done.length) :
    (∃ more, collectLabels labels done.length rest = .ok more ∧ Collected (done ++ rest) more ∧
        ∀ k name, ¬BadLabel (done ++ rest) k name) ∨
      ∃ k name, collectLabels labels done.length rest = .error ⟨badLabelCause name, some (k + 1)⟩ ∧
        BadLabel (done ++ rest) k name ∧ GoodBefore (done ++ rest) k := by
  induction rest generalizing done labels with
  | nil =>
    left
    rw [List.append_nil] at hgood ⊢
    exact ⟨labels, rfl, h, goodBefore_length_iff.mp hgood⟩
  | cons l rest ih =>
    unfold collectLabels
    split
    · rename_i name hkind
      cases hadd : addLabel labels name done.length with
      | error cause =>
        right
        obtain ⟨hbad, rfl⟩ := addLabel_eq_error hadd
        exact ⟨done.length, name, rfl, (badLabel_at_iff h).mpr ⟨hkind, hbad⟩, hgood⟩
      | ok more =>
        obtain ⟨hnew, rfl⟩ := of_addLabel hadd
        have hnext : ∀ other, ¬BadLabel (done ++ l :: rest) done.length other := by
          intro other hbad
          obtain ⟨hother, hbad⟩ := (badLabel_at_iff h).mp hbad
          obtain rfl : name = other := by simpa [hkind] using hother
          simp [isLabel_of_addLabel hadd, hnew] at hbad
        have hrest := ih (h.store hkind hnew done.length) (hgood.next hnext)
        rw [List.append_assoc, List.length_append] at hrest
        exact hrest
    · rename_i hkind
      have hnext : ∀ other, ¬BadLabel (done ++ l :: rest) done.length other := by
        intro other hbad
        exact hkind other ((badLabel_at_iff h).mp hbad).1
      have hrest := ih (h.skip hkind) (hgood.next hnext)
      rw [List.append_assoc, List.length_append] at hrest
      exact hrest

/-- A source whose labels are all good is a program; any other is refused for its first bad
label. -/
theorem load_cases (source : String) :
    (∃ labels, load source = .ok ⟨(sourceLines source).toArray, labels⟩ ∧
        Collected (sourceLines source) labels ∧
        ∀ k name, ¬BadLabel (sourceLines source) k name) ∨
      ∃ k name, load source = .error ⟨badLabelCause name, some (k + 1)⟩ ∧
        BadLabel (sourceLines source) k name ∧ GoodBefore (sourceLines source) k := by
  have hload : load source = (collectLabels {} 0 (sourceLines source)).map fun labels =>
      ⟨(sourceLines source).toArray, labels⟩ := rfl
  have hcases := collectLabels_cases (sourceLines source) collected_nil nofun
  simp only [List.nil_append, List.length_nil] at hcases
  rcases hcases with ⟨labels, hlabels, hcollected, hgood⟩ | ⟨k, name, hlabels, hbad, hgood⟩
  · left
    exact ⟨labels, by rw [hload, hlabels]; rfl, hcollected, hgood⟩
  · right
    exact ⟨k, name, by rw [hload, hlabels]; rfl, hbad, hgood⟩

theorem load_eq_error_iff {source : String} :
    (∃ f, load source = .error f) ↔ ∃ k name, BadLabel (sourceLines source) k name := by
  rcases load_cases source with ⟨labels, hload, -, hgood⟩ | ⟨k, name, hload, hbad, -⟩
  · simp [hload, hgood]
  · simp only [hload, Except.error.injEq, exists_eq', true_iff]
    exact ⟨k, name, hbad⟩

theorem of_load_eq_error {source : String} (h : load source = .error f) :
    ∃ k name, BadLabel (sourceLines source) k name ∧ GoodBefore (sourceLines source) k ∧
      f = ⟨badLabelCause name, some (k + 1)⟩ := by
  rcases load_cases source with ⟨labels, hload, -, -⟩ | ⟨k, name, hload, hbad, hgood⟩
  · rw [hload] at h
    cases h
  · rw [hload] at h
    cases h
    exact ⟨k, name, hbad, hgood, rfl⟩

theorem of_load_eq_ok {source : String} {p : Program} (h : load source = .ok p) :
    p.lines.toList = sourceLines source ∧ Collected (sourceLines source) p.labels := by
  rcases load_cases source with ⟨labels, hload, hcollected, -⟩ | ⟨k, name, hload, -, -⟩
  · rw [hload] at h
    cases h
    exact ⟨rfl, hcollected⟩
  · rw [hload] at h
    cases h

/-! ### Jumps -/

variable {p : Program} {label : String} {condition : Expr}

theorem ofStatement_goTo_eq_ok_iff {c : Command} :
    Command.ofStatement p (.goTo label condition) = .ok c ↔
      ∃ i, p.label? label = some i ∧ c = .goTo i condition := by
  rw [Command.ofStatement]
  cases p.label? label <;> simp [eq_comm]

theorem ofStatement_goTo_eq_error_iff :
    Command.ofStatement p (.goTo label condition) = .error (.undefinedLabel label) ↔
      p.label? label = none := by
  rw [Command.ofStatement]
  cases p.label? label <;> simp

/-- Labels are resolved exactly. A source is refused if it has a bad label, for the first one and
with its line. In a program a name leads to the label line with its key, all label lines count, and
a jump is made if there is such a line and refused as one to an undefined label if not. -/
theorem load_resolves_labels (source : String) :
    ((∃ f, load source = .error f) ↔ ∃ k name, BadLabel (sourceLines source) k name) ∧
    (∀ f, load source = .error f →
      ∃ k name, BadLabel (sourceLines source) k name ∧
        (∀ j < k, ∀ other, ¬BadLabel (sourceLines source) j other) ∧ f.line = some (k + 1) ∧
        f.cause.code = if Text.isLabel name then .syntaxError else .invalidLabel) ∧
    ∀ p, load source = .ok p →
      p.lines.toList = sourceLines source ∧
      (∀ name i, p.label? name = some i ↔
        ∃ l, p.lines[i]? = some l ∧ l.Labels (Text.labelKey name.toList)) ∧
      p.labels.size = (sourceLines source).countP (·.isLabel) ∧
      ∀ label condition,
        (∀ c, Command.ofStatement p (.goTo label condition) = .ok c ↔
          ∃ i l, c = .goTo i condition ∧ p.lines[i]? = some l ∧
            l.Labels (Text.labelKey label.toList)) ∧
        (Command.ofStatement p (.goTo label condition) = .error (.undefinedLabel label) ↔
          ∀ (i : Nat) (l : Line), p.lines[i]? = some l →
            ¬l.Labels (Text.labelKey label.toList)) := by
  refine ⟨load_eq_error_iff, ?_, ?_⟩
  · intro f hf
    obtain ⟨k, name, hbad, hgood, rfl⟩ := of_load_eq_error hf
    exact ⟨k, name, hbad, hgood, rfl, code_badLabelCause name⟩
  · intro p hp
    obtain ⟨hlines, hcollected⟩ := of_load_eq_ok hp
    have hlabel : ∀ name i, p.label? name = some i ↔
        ∃ l, p.lines[i]? = some l ∧ l.Labels (Text.labelKey name.toList) :=
      fun _ _ => label?_eq_some_iff hp
    refine ⟨hlines, hlabel, hcollected.size, fun label condition => ⟨fun c => ?_, ?_⟩⟩
    · rw [ofStatement_goTo_eq_ok_iff]
      constructor
      · rintro ⟨i, hi, hc⟩
        obtain ⟨l, hl, hkey⟩ := (hlabel _ i).mp hi
        exact ⟨i, l, hc, hl, hkey⟩
      · rintro ⟨i, l, hc, hl, hkey⟩
        exact ⟨i, (hlabel _ i).mpr ⟨l, hl, hkey⟩, hc⟩
    · rw [ofStatement_goTo_eq_error_iff, Option.eq_none_iff_forall_ne_some]
      simp only [ne_eq, hlabel, not_exists, not_and]

/-- Labels in other cases than before: one that is there already, and one that a jump finds. -/
theorem load_labels_in_other_case :
    let twice := "loop:\nFill\nLOOP:"
    let once := "Fill\nloop:\nGoTo [LOOP]"
    (∃ f, load twice = .error f ∧ f.line = some 3 ∧ ∃ name, BadLabel (sourceLines twice) 2 name) ∧
    ∃ p, load once = .ok p ∧ p.labels.size = 1 ∧
      Command.ofStatement p (.goTo "LOOP" (.int 1)) = .ok (.goTo 1 (.int 1)) := by
  intro twice once
  constructor
  · have herror : (match load twice with
        | .error f => f == ⟨.duplicateLabel "LOOP", some 3⟩
        | .ok _ => false) = true := by decide +kernel
    split at herror
    · rename_i f hload
      obtain rfl : f = ⟨.duplicateLabel "LOOP", some 3⟩ := by simpa using herror
      obtain ⟨k, name, hbad, -, hline, -⟩ := (load_resolves_labels twice).2.1 _ hload
      obtain rfl : k = 2 := by simpa using hline.symm
      exact ⟨_, hload, rfl, name, hbad⟩
    · cases herror
  · have hok : (load once).isOk = true := by decide +kernel
    obtain ⟨p, hload⟩ : ∃ p, load once = .ok p := by
      cases h : load once with
      | ok p => exact ⟨p, rfl⟩
      | error f =>
        rw [h] at hok
        cases hok
    obtain ⟨hlines, -, hsize, hjump⟩ := (load_resolves_labels once).2.2 p hload
    have hline : p.lines[1]? = some ⟨"loop:".toList⟩ := by
      rw [← Array.getElem?_toList, hlines]
      decide +kernel
    have hkey : Line.Labels ⟨"loop:".toList⟩ (Text.labelKey "LOOP".toList) :=
      ⟨"loop".toList, by decide +kernel, by decide +kernel⟩
    refine ⟨p, hload, hsize.trans (by decide +kernel), ?_⟩
    exact ((hjump "LOOP" (.int 1)).1 _).mpr ⟨1, _, rfl, hline, hkey⟩

end Program

end PaintRobot
