import PaintRobot.Proofs.Program.Resolution
import PaintRobot.Proofs.Text.Padding

/-!
A blank line put into a program. The lines behind it move down by one, and with them the labels, the
targets of jumps and the lines that faults name; nothing else changes.
-/
namespace PaintRobot

/-- Where line `i` stands once a line has been put in front of line `place`. -/
def pushDown (place i : Nat) : Nat := if i < place then i else i + 1

variable {place i : Nat}

theorem pushDown_of_lt (h : i < place) : pushDown place i = i := if_pos h

theorem pushDown_of_le (h : place ≤ i) : pushDown place i = i + 1 := if_neg (Nat.not_lt.mpr h)

/-- The fault at the same line, once a line has been put in front of line `place`. -/
def Fault.pushDown (place : Nat) (f : Fault) : Fault :=
  { f with line := f.line.map fun n => if place < n then n + 1 else n }

theorem Fault.pushDown_some (cause : Cause) (place i : Nat) :
    Fault.pushDown place ⟨cause, some (i + 1)⟩ =
      ⟨cause, some (PaintRobot.pushDown place i + 1)⟩ := by
  by_cases h : i < place
  · simp [pushDown, pushDown_of_lt h, Nat.not_lt.mpr h]
  · simp [pushDown, pushDown_of_le (Nat.le_of_not_lt h), Nat.lt_succ_of_le (Nat.le_of_not_lt h)]

namespace Table

variable {κ ν μ : Type} [DecidableEq κ]

def mapValues (f : ν → μ) (t : Table κ ν) : Table κ μ := ⟨t.entries.map (Prod.map id f)⟩

theorem get?_mapValues (f : ν → μ) (t : Table κ ν) (key : κ) :
    (t.mapValues f).get? key = (t.get? key).map f := by
  unfold get? mapValues
  induction t.entries with
  | nil => rfl
  | cons e rest ih =>
    obtain ⟨k, v⟩ := e
    by_cases hk : key = k
    · simp [find?, hk]
    · simpa [find?, hk] using ih

theorem store_mapValues (f : ν → μ) (t : Table κ ν) (key : κ) (value : ν) :
    (t.mapValues f).store key (f value) = (t.store key value).mapValues f := by
  unfold store mapValues
  congr 1
  induction t.entries with
  | nil => rfl
  | cons e rest ih =>
    obtain ⟨k, v⟩ := e
    by_cases hk : key = k
    · simp [replace, hk]
    · simpa [replace, hk] using ih

end Table

theorem Line.kind_of_gap {l : Line} (h : Text.Gap l.text) : l.kind = .blank := by
  rw [kind, Text.trim_gap h]
  rfl

namespace Program

variable {labels : Table (List Char) Nat} {lines : List Line} {blank : Line}

/-- A program once a line has been put in front of line `place`. -/
def insertLine (place : Nat) (l : Line) (p : Program) : Program :=
  ⟨(p.lines.toList.insertIdx place l).toArray, p.labels.mapValues (pushDown place)⟩

/-! ### Loading -/

theorem addLabel_mapValues (f : Nat → Nat) (labels : Table (List Char) Nat) (name : List Char)
    (i : Nat) :
    addLabel (labels.mapValues f) name (f i) = (addLabel labels name i).map (·.mapValues f) := by
  simp only [addLabel, Table.get?_mapValues, Option.isSome_map]
  split
  · rfl
  split
  · rfl
  · rw [Table.store_mapValues]
    rfl

/-- What is collected from lines of which all that lie behind line `place` have moved down. -/
def collectedDown (place : Nat) (result : Except Fault (Table (List Char) Nat)) :
    Except Fault (Table (List Char) Nat) :=
  (result.mapError (·.pushDown place)).map (·.mapValues (pushDown place))

theorem collectLabels_cons_pushDown {j : Nat} {l : Line} {rest rest' : List Line}
    (hj : pushDown place i = j)
    (hrest : ∀ more, collectLabels (more.mapValues (pushDown place)) (j + 1) rest' =
      collectedDown place (collectLabels more (i + 1) rest)) :
    collectLabels (labels.mapValues (pushDown place)) j (l :: rest') =
      collectedDown place (collectLabels labels i (l :: rest)) := by
  subst hj
  unfold collectLabels
  split
  · rw [addLabel_mapValues]
    cases addLabel labels _ i with
    | ok more => exact hrest more
    | error cause =>
      show Except.error _ = Except.error (Fault.pushDown place _)
      rw [Fault.pushDown_some]
  · exact hrest labels

/-- Lines that have moved down give the labels that they gave before, moved down. -/
theorem collectLabels_behind (h : place ≤ i) :
    collectLabels (labels.mapValues (pushDown place)) (i + 1) lines =
      collectedDown place (collectLabels labels i lines) := by
  induction lines generalizing labels i with
  | nil => rfl
  | cons l rest ih =>
    apply collectLabels_cons_pushDown (pushDown_of_le h)
    intro more
    exact ih (Nat.le_succ_of_le h)

theorem collectLabels_insertIdx (hblank : blank.kind = .blank) {k : Nat} (hk : k ≤ lines.length) :
    collectLabels (labels.mapValues (pushDown (i + k))) i (lines.insertIdx k blank) =
      collectedDown (i + k) (collectLabels labels i lines) := by
  induction k generalizing labels i lines with
  | zero =>
    have hskip (t : Table (List Char) Nat) :
        collectLabels t i (blank :: lines) = collectLabels t (i + 1) lines := by
      rw [collectLabels, hblank]
    rw [List.insertIdx_zero, hskip]
    exact collectLabels_behind (Nat.le_refl i)
  | succ k ih =>
    cases lines with
    | nil => cases hk
    | cons l rest =>
      have hi : i < i + (k + 1) := by omega
      rw [List.insertIdx_succ_cons]
      apply collectLabels_cons_pushDown (pushDown_of_lt hi)
      intro more
      rw [show i + (k + 1) = i + 1 + k by omega]
      exact ih (Nat.le_of_succ_le_succ hk)

/-- With a blank line put into it, a list of lines is a program just when it was one before, and
else it is refused for the same label. -/
theorem ofLines_insertIdx (hblank : blank.kind = .blank) (h : place ≤ lines.length) :
    ofLines (lines.insertIdx place blank) =
      ((ofLines lines).mapError (·.pushDown place)).map (·.insertLine place blank) := by
  have hlabels : collectLabels (Table.mapValues (pushDown (0 + place)) {}) 0
      (lines.insertIdx place blank) = collectedDown (0 + place) (collectLabels {} 0 lines) :=
    collectLabels_insertIdx hblank h
  rw [Nat.zero_add] at hlabels
  have hcollect : collectLabels {} 0 (lines.insertIdx place blank) =
      collectedDown place (collectLabels {} 0 lines) := hlabels
  rw [ofLines, ofLines, hcollect]
  cases collectLabels {} 0 lines with
  | ok labels => rfl
  | error f => rfl

/-! ### Visits -/

variable {p : Program} {l : Line}

theorem size_insertLine (h : place ≤ p.size) : (p.insertLine place l).size = p.size + 1 := by
  simp [size, insertLine, List.length_insertIdx, show place ≤ p.lines.size from h]

theorem getElem?_insertLine_self (h : place ≤ p.size) :
    (p.insertLine place l).lines[place]? = some l := by
  simp [insertLine, List.getElem?_insertIdx, show place ≤ p.lines.size from h]

theorem getElem?_insertLine (place i : Nat) (l : Line) (p : Program) :
    (p.insertLine place l).lines[pushDown place i]? = p.lines[i]? := by
  by_cases h : i < place
  · simp [insertLine, List.getElem?_insertIdx, pushDown_of_lt h, h]
  · have hle : place ≤ i := Nat.le_of_not_lt h
    have hlt : ¬i + 1 < place := by omega
    have hne : i + 1 ≠ place := by omega
    simp [insertLine, List.getElem?_insertIdx, pushDown_of_le hle, hlt, hne]

theorem label?_insertLine (place : Nat) (l : Line) (p : Program) (name : String) :
    (p.insertLine place l).label? name = (p.label? name).map (pushDown place) :=
  Table.get?_mapValues ..

end Program

end PaintRobot
