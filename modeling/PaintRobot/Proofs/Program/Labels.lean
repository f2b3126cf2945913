import PaintRobot.Command.Basic

/-!
The table of labels. A program is only made if all its labels are good and have different keys, and
then a key leads to the line of its label and to no other.
-/
namespace PaintRobot

/-- The line is a label with this key. -/
def Line.Labels (l : Line) (key : List Char) : Prop :=
  ∃ name, l.kind = .label name ∧ Text.labelKey name = key

namespace Program

variable {labels more : Table (List Char) Nat} {i j : Nat} {lines : List Line} {key : List Char}

theorem of_addLabel {name : List Char} (h : addLabel labels name i = .ok more) :
    labels.get? (Text.labelKey name) = none ∧ more = labels.store (Text.labelKey name) i := by
  simp only [addLabel] at h
  split at h
  · cases h
  split at h
  · cases h
  · rename_i hnew
    cases h
    exact ⟨by simpa using hnew, rfl⟩

theorem get?_store_of_new (hnew : labels.get? key = none) {other : List Char} :
    (labels.store key i).get? other = some j ↔
      key = other ∧ i = j ∨ labels.get? other = some j := by
  rw [Table.get?_store]
  by_cases h : other = key
  · subst h
    simp [hnew]
  · simp [h, Ne.symm h]

theorem exists_getElem?_cons {l : Line} {P : Line → Prop} :
    (∃ k l', j = i + k ∧ (l :: lines)[k]? = some l' ∧ P l') ↔
      j = i ∧ P l ∨ ∃ k l', j = i + 1 + k ∧ lines[k]? = some l' ∧ P l' := by
  constructor
  · rintro ⟨k, l', hk, hl, hp⟩
    cases k with
    | zero =>
      cases hl
      exact .inl ⟨hk, hp⟩
    | succ k => exact .inr ⟨k, l', by omega, hl, hp⟩
  · rintro (⟨hj, hp⟩ | ⟨k, l', hk, hl, hp⟩)
    · exact ⟨0, l, hj, rfl, hp⟩
    · exact ⟨k + 1, l', by omega, hl, hp⟩

/-- Collecting adds the labels of the lines to the table, each with its line. -/
theorem get?_collectLabels (h : collectLabels labels i lines = .ok more) :
    more.get? key = some j ↔
      labels.get? key = some j ∨ ∃ k l, j = i + k ∧ lines[k]? = some l ∧ l.Labels key := by
  induction lines generalizing labels i with
  | nil =>
    cases h
    simp
  | cons l lines ih =>
    rw [exists_getElem?_cons]
    unfold collectLabels at h
    split at h
    · rename_i name hkind
      split at h
      · rename_i added hadd
        obtain ⟨hnew, rfl⟩ := of_addLabel hadd
        rw [ih h, get?_store_of_new hnew]
        simp only [Line.Labels, hkind, Line.Kind.label.injEq, exists_eq_left']
        grind
      · cases h
    · rename_i hother
      rw [ih h]
      have hno : ¬l.Labels key := fun ⟨name, hname, _⟩ => hother name hname
      simp [hno]

theorem exists_of_ofLines {p : Program} (h : ofLines lines = .ok p) :
    ∃ labels, collectLabels {} 0 lines = .ok labels ∧ p = ⟨lines.toArray, labels⟩ := by
  unfold ofLines at h
  cases hlabels : collectLabels {} 0 lines with
  | error f =>
    rw [hlabels] at h
    cases h
  | ok labels =>
    rw [hlabels] at h
    cases h
    exact ⟨labels, rfl, rfl⟩

theorem lines_of_ofLines {p : Program} (h : ofLines lines = .ok p) : p.lines = lines.toArray := by
  obtain ⟨labels, -, rfl⟩ := exists_of_ofLines h
  rfl

/-- In a program a name leads to the line of the label with its key. -/
theorem label?_ofLines {p : Program} (h : ofLines lines = .ok p) {name : String} :
    p.label? name = some i ↔
      ∃ l, lines[i]? = some l ∧ l.Labels (Text.labelKey name.toList) := by
  obtain ⟨labels, hlabels, rfl⟩ := exists_of_ofLines h
  rw [label?, get?_collectLabels hlabels]
  simp [Table.get?, Table.find?]

theorem label?_eq_some_iff {source : String} {p : Program} (h : load source = .ok p)
    {name : String} :
    p.label? name = some i ↔
      ∃ l, p.lines[i]? = some l ∧ l.Labels (Text.labelKey name.toList) := by
  rw [lines_of_ofLines h, List.getElem?_toArray, label?_ofLines h]

end Program

/-! ### Jumps -/

namespace Command

variable {p : Program} {l : Line} {c : Command} {target : Nat} {condition : Expr}

theorem verb?_of_validate {verb : Verb} {params : List Param}
    (h : validate verb params = .ok c) : c.verb? = some verb := by
  unfold validate at h
  split at h
  · obtain ⟨_, -, h⟩ := bind_eq_ok_iff.mp h
    obtain ⟨_, -, h⟩ := bind_eq_ok_iff.mp h
    cases h
    rfl
  · obtain ⟨_, -, rfl⟩ := map_eq_ok_iff.mp h
    rfl
  · obtain ⟨_, -, rfl⟩ := map_eq_ok_iff.mp h
    rfl
  · obtain ⟨_, -, h⟩ := bind_eq_ok_iff.mp h
    obtain ⟨_, -, h⟩ := bind_eq_ok_iff.mp h
    obtain ⟨_, -, h⟩ := bind_eq_ok_iff.mp h
    cases h
    rfl
  · obtain ⟨_, -, h⟩ := bind_eq_ok_iff.mp h
    obtain ⟨_, -, h⟩ := bind_eq_ok_iff.mp h
    obtain ⟨_, -, h⟩ := bind_eq_ok_iff.mp h
    cases h
    rfl
  · obtain ⟨_, -, h⟩ := bind_eq_ok_iff.mp h
    obtain ⟨_, -, h⟩ := bind_eq_ok_iff.mp h
    obtain ⟨_, -, h⟩ := bind_eq_ok_iff.mp h
    obtain ⟨_, -, h⟩ := bind_eq_ok_iff.mp h
    obtain ⟨_, -, h⟩ := bind_eq_ok_iff.mp h
    cases h
    rfl
  · cases h
    rfl
  · cases h

/-- A jump is made of a line that says to jump, and goes to the line of the label named there. -/
theorem exists_goTo_of_ofLine (h : ofLine p l = .ok (goTo target condition)) :
    ∃ label, l.statement = .ok (.goTo label condition) ∧ p.label? label = some target := by
  obtain ⟨s, hs, h⟩ := bind_eq_ok_iff.mp h
  cases s with
  | command verb params => cases verb?_of_validate h
  | goTo label _ =>
    simp only [ofStatement] at h
    split at h
    · rename_i hlabel
      cases h
      exact ⟨label, hs, hlabel⟩
    · cases h
  | assign => cases h

end Command

end PaintRobot
