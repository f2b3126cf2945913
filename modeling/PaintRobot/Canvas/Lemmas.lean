import PaintRobot.Canvas.Basic

/-!
The canvas as a map from points to colors. Setting a cell changes that cell alone, in the map and
in the set of modified cells, and a box holds exactly the cells between its corners.
-/
namespace PaintRobot.Canvas

theorem index_inj {c : Canvas} {p q : Point} (hp : c.Contains p) (hq : c.Contains q)
    (h : c.index p = c.index q) : p = q := by
  obtain ⟨_, _, _, _⟩ := hp
  obtain ⟨_, _, _, _⟩ := hq
  have hside : 0 < c.side := by omega
  have hx : c.index p % c.side = c.index q % c.side := by rw [h]
  have hy : c.index p / c.side = c.index q / c.side := by rw [h]
  simp only [index, Nat.mul_comm _ c.side, Nat.mul_add_mod] at hx
  rw [Nat.mod_eq_of_lt (by omega), Nat.mod_eq_of_lt (by omega)] at hx
  simp only [index, Nat.mul_comm _ c.side, Nat.mul_add_div hside] at hy
  rw [Nat.div_eq_of_lt (by omega), Nat.div_eq_of_lt (by omega)] at hy
  cases p
  cases q
  simp only [Point.mk.injEq]
  simp only at *
  omega

theorem get?_eq_none_iff {c : Canvas} {p : Point} : c.get? p = none ↔ ¬ c.Contains p := by
  simp [get?]

theorem get?_of_contains {c : Canvas} {p : Point} (h : c.Contains p) :
    c.get? p = some (c.cell p h) := by
  simp [get?, h]

theorem contains_of_get? {c : Canvas} {p : Point} {color : Color} (h : c.get? p = some color) :
    c.Contains p := by
  simp only [get?, Option.dite_none_right_eq_some] at h
  exact h.1

theorem set?_eq_none_iff {c : Canvas} {p : Point} {color : Color} :
    c.set? p color = none ↔ ¬ c.Contains p := by
  simp [set?]

theorem set_of_not_contains {c : Canvas} {p : Point} {color : Color} (h : ¬ c.Contains p) :
    c.set p color = c := by
  simp [set, h]

theorem set_of_contains {c : Canvas} {p : Point} {color : Color} (h : c.Contains p) :
    c.set p color = ⟨c.side, c.cells.set (c.index p) color (index_lt h), c.modified.insert p, by
      rw [Array.size_set, c.size_cells]⟩ := by
  simp [set, h]

@[simp] theorem side_set (c : Canvas) (p : Point) (color : Color) :
    (c.set p color).side = c.side := by
  by_cases h : c.Contains p
  · rw [set_of_contains h]
  · rw [set_of_not_contains h]

@[simp] theorem contains_set {c : Canvas} {p q : Point} {color : Color} :
    (c.set p color).Contains q ↔ c.Contains q := by
  simp [Contains]

theorem get?_set_self {c : Canvas} {p : Point} {color : Color} (h : c.Contains p) :
    (c.set p color).get? p = some color := by
  rw [get?_of_contains (contains_set.mpr h)]
  simp [set_of_contains h, cell, index]

theorem get?_set_of_ne {c : Canvas} {p q : Point} {color : Color} (h : q ≠ p) :
    (c.set p color).get? q = c.get? q := by
  by_cases hp : c.Contains p
  · by_cases hq : c.Contains q
    · rw [get?_of_contains hq, get?_of_contains (contains_set.mpr hq)]
      have hi : c.index p ≠ c.index q := fun hi => h (index_inj hp hq hi).symm
      simpa [set_of_contains hp, cell, index] using
        Array.getElem_set_ne (index_lt hp) (index_lt hq) hi
    · rw [get?_eq_none_iff.mpr hq, get?_eq_none_iff.mpr (by simpa using hq)]
  · rw [set_of_not_contains hp]

@[simp] theorem get?_blank {side : Nat} {p : Point} :
    (blank side).get? p = if (blank side).Contains p then some .white else none := by
  unfold get?
  split <;> simp [cell, blank]

theorem mem_modified_set {c : Canvas} {p q : Point} {color : Color} (h : c.Contains p) :
    q ∈ (c.set p color).modified ↔ q = p ∨ q ∈ c.modified := by
  rw [set_of_contains h, Std.ExtTreeSet.mem_insert, Std.LawfulEqCmp.compare_eq_iff_eq, eq_comm]

theorem mem_span {lo hi n : Int} : n ∈ span lo hi ↔ lo ≤ n ∧ n ≤ hi := by
  simp only [span, List.mem_map, List.mem_range]
  constructor
  · rintro ⟨k, hk, rfl⟩
    omega
  · intro h
    exact ⟨(n - lo).toNat, by omega, by omega⟩

theorem mem_box {c : Canvas} {lo hi p : Point} :
    p ∈ c.box lo hi ↔ c.Contains p ∧ lo.x ≤ p.x ∧ p.x ≤ hi.x ∧ lo.y ≤ p.y ∧ p.y ≤ hi.y := by
  cases p
  simp only [box, List.mem_flatMap, List.mem_map, mem_span, Point.mk.injEq, Contains]
  constructor
  · rintro ⟨y, hy, x, hx, rfl, rfl⟩
    omega
  · intro h
    exact ⟨_, by omega, _, by omega, rfl, rfl⟩

theorem length_span (lo hi : Int) : (span lo hi).length = (hi + 1 - lo).toNat := by
  simp [span]

/-- The colors between two places of a row are those of its cells there. -/
theorem map_extract_row {c : Canvas} {y left right : Int} (hy : 0 ≤ y ∧ y < c.side)
    (hleft : 0 ≤ left) (hright : right < c.side) :
    (c.cells.extract (y.toNat * c.side + left.toNat)
      (y.toNat * c.side + (right + 1).toNat)).toList.map some =
      (span left right).map fun x => c.get? ⟨x, y⟩ := by
  have hrow : (y.toNat + 1) * c.side ≤ c.side * c.side := Nat.mul_le_mul_right _ (by omega)
  rw [Nat.add_mul] at hrow
  apply List.ext_getElem
  · simp only [List.length_map, Array.length_toList, Array.size_extract, c.size_cells, length_span]
    omega
  · intro k hk hk'
    simp only [List.length_map, length_span] at hk'
    have hcell : c.Contains ⟨left + k, y⟩ := by
      simp only [Contains]
      omega
    have hindex : y.toNat * c.side + left.toNat + k = c.index ⟨left + k, y⟩ := by
      simp only [index]
      omega
    simp [span, get?_of_contains hcell, cell, hindex]

end PaintRobot.Canvas
