import PaintRobot.Canvas.Stamp

/-!
What drawing leaves behind. Every way of drawing gives one color to the cells of some area, notes
just these as modified, and touches nothing else; a canvas drawn on is known by that area. So two
ways of drawing that paint the same area give the same canvas, in whatever order they set its cells.
-/
namespace PaintRobot.Canvas

theorem exists_index {c : Canvas} {i : Nat} (hi : i < c.cells.size) :
    ∃ p, c.Contains p ∧ c.index p = i := by
  rw [c.size_cells] at hi
  obtain ⟨x, hx⟩ : ∃ x, x = i % c.side := ⟨_, rfl⟩
  obtain ⟨y, hy⟩ : ∃ y, y = i / c.side := ⟨_, rfl⟩
  have hpos : 0 < c.side := Nat.pos_of_mul_pos_left (Nat.zero_lt_of_lt hi)
  have hxlt : x < c.side := hx ▸ Nat.mod_lt i hpos
  have hylt : y < c.side := hy ▸ Nat.div_lt_of_lt_mul hi
  refine ⟨⟨x, y⟩, ⟨by simp, by simpa using hxlt, by simp, by simpa using hylt⟩, ?_⟩
  rw [index, Int.toNat_natCast, Int.toNat_natCast, hx, hy, Nat.mul_comm, Nat.div_add_mod]

theorem mem_cells_iff {c : Canvas} {color : Color} :
    color ∈ c.cells ↔ ∃ p, c.get? p = some color := by
  constructor
  · intro h
    obtain ⟨i, hi, rfl⟩ := Array.mem_iff_getElem.mp h
    obtain ⟨p, hp, rfl⟩ := exists_index hi
    exact ⟨p, get?_of_contains hp⟩
  · rintro ⟨p, h⟩
    have hp := contains_of_get? h
    rw [get?_of_contains hp] at h
    cases h
    exact Array.getElem_mem (index_lt hp)

/-- What the cells are is all in the colors of the points. -/
theorem cells_eq_of_get? {c d : Canvas} (hside : c.side = d.side)
    (hcells : ∀ p, c.get? p = d.get? p) : c.cells = d.cells := by
  apply Array.ext (by rw [c.size_cells, d.size_cells, hside])
  intro i hi hi'
  obtain ⟨p, hp, rfl⟩ := exists_index hi
  have hp' : d.Contains p := by simpa only [Contains, hside] using hp
  have hcell := hcells p
  rw [get?_of_contains hp, get?_of_contains hp', Option.some.injEq] at hcell
  simpa [cell, index, hside] using hcell

/-- Canvases are equal if they have the same cells and the same set of modified cells. -/
theorem ext_get? {c d : Canvas} (hside : c.side = d.side) (hcells : ∀ p, c.get? p = d.get? p)
    (hmodified : ∀ p, p ∈ c.modified ↔ p ∈ d.modified) : c = d := by
  have hsame := cells_eq_of_get? hside hcells
  obtain ⟨side, cells, modified, hsize⟩ := c
  cases hside
  cases hsame
  cases Std.ExtTreeSet.ext_mem fun p => hmodified p
  rfl

/-- The canvas `d` is `c` after the cells within an area got a color. -/
structure Painted (area : Point → Prop) (color : Color) (c d : Canvas) : Prop where
  side : d.side = c.side
  inside : ∀ p, c.Contains p → area p → d.get? p = some color
  outside : ∀ p, ¬area p → d.get? p = c.get? p
  modified : ∀ p, p ∈ d.modified ↔ p ∈ c.modified ∨ c.Contains p ∧ area p

variable {area other : Point → Prop} {color : Color} {c d e : Canvas}

theorem Painted.contains_iff (h : Painted area color c d) {p : Point} :
    d.Contains p ↔ c.Contains p := by
  simp [Contains, h.side]

/-- A color that is to be seen after painting was there before, or it is the one painted with. -/
theorem Painted.get?_eq_some (h : Painted area color c d) {p : Point} {seen : Color}
    (hp : d.get? p = some seen) : seen = color ∨ c.get? p = some seen := by
  by_cases ha : area p
  · have hin := h.inside p (h.contains_iff.mp (contains_of_get? hp)) ha
    exact .inl (Option.some.inj (hp.symm.trans hin))
  · exact .inr (h.outside p ha ▸ hp)

theorem painted_none (color : Color) (c : Canvas) : Painted (fun _ => False) color c c where
  side := rfl
  inside _ _ hp := hp.elim
  outside _ _ := rfl
  modified p := by simp

/-- Outside the canvas an area may be anything. -/
theorem Painted.congr (h : Painted area color c d)
    (hsame : ∀ p, c.Contains p → (area p ↔ other p)) : Painted other color c d where
  side := h.side
  inside p hp ho := h.inside p hp ((hsame p hp).mpr ho)
  outside p ho := by
    by_cases hp : c.Contains p
    · exact h.outside p fun ha => ho ((hsame p hp).mp ha)
    · rw [get?_eq_none_iff.mpr hp, get?_eq_none_iff.mpr (mt h.contains_iff.mp hp)]
  modified p := by
    rw [h.modified, and_congr_right_iff.mpr (hsame p)]

theorem Painted.trans (h : Painted area color c d) (h' : Painted other color d e) :
    Painted (fun p => area p ∨ other p) color c e where
  side := h'.side.trans h.side
  inside p hp ha := by
    by_cases ho : other p
    · exact h'.inside p (h.contains_iff.mpr hp) ho
    · rw [h'.outside p ho]
      exact h.inside p hp (ha.resolve_right ho)
  outside p hn := by
    rw [h'.outside p fun ho => hn (.inr ho), h.outside p fun ha => hn (.inl ha)]
  modified p := by
    rw [h'.modified, h.modified, h.contains_iff, or_assoc, ← and_or_left]

theorem Painted.unique (h : Painted area color c d) (h' : Painted area color c e) : d = e := by
  apply ext_get? (h.side.trans h'.side.symm)
  · intro p
    by_cases ha : area p
    · by_cases hp : c.Contains p
      · rw [h.inside p hp ha, h'.inside p hp ha]
      · rw [get?_eq_none_iff.mpr (mt h.contains_iff.mp hp),
          get?_eq_none_iff.mpr (mt h'.contains_iff.mp hp)]
    · rw [h.outside p ha, h'.outside p ha]
  · intro p
    rw [h.modified, h'.modified]

/-! ### Cells, squares and paths -/

theorem painted_set (c : Canvas) (p : Point) (color : Color) :
    Painted (· = p) color c (c.set p color) where
  side := side_set c p color
  inside q hq he := he ▸ get?_set_self (he ▸ hq)
  outside q hne := get?_set_of_ne hne
  modified q := by
    by_cases hp : c.Contains p
    · rw [mem_modified_set hp]
      constructor
      · rintro (rfl | hq)
        · exact .inr ⟨hp, rfl⟩
        · exact .inl hq
      · rintro (hq | ⟨-, rfl⟩)
        · exact .inr hq
        · exact .inl rfl
    · rw [set_of_not_contains hp]
      constructor
      · exact .inl
      · rintro (hq | ⟨hq, rfl⟩)
        · exact hq
        · exact absurd hq hp

theorem painted_paint (c : Canvas) (color : Color) (points : List Point) :
    Painted (· ∈ points) color c (c.paint color points) := by
  induction points generalizing c with
  | nil => exact (painted_none color c).congr (by simp)
  | cons p points ih =>
    have h := (painted_set c p color).trans (ih (c.set p color))
    exact h.congr (by simp)

/-- The square around a point that a brush covers. -/
def Square (half : Int) (p q : Point) : Prop :=
  p.x - half ≤ q.x ∧ q.x ≤ p.x + half ∧ p.y - half ≤ q.y ∧ q.y ≤ p.y + half

theorem painted_stamp (c : Canvas) (half : Int) (color : Color) (p : Point) :
    Painted (Square half p) color c (c.stamp half color p) := by
  apply (painted_paint c color _).congr
  intro q hq
  simp [mem_box, hq, Square, Point.squareLow, Point.squareHigh]

/-- Stamps at all points of a path in turn. -/
def stampAll (half : Int) (color : Color) (path : List Point) (c : Canvas) : Canvas :=
  path.foldl (fun c p => c.stamp half color p) c

theorem stampAll_append (half : Int) (color : Color) (path rest : List Point) (c : Canvas) :
    stampAll half color (path ++ rest) c = stampAll half color rest (stampAll half color path c) :=
  List.foldl_append

theorem painted_stampAll (half : Int) (color : Color) (path : List Point) (c : Canvas) :
    Painted (fun q => ∃ p ∈ path, Square half p q) color c (stampAll half color path c) := by
  induction path generalizing c with
  | nil => exact (painted_none color c).congr (by simp)
  | cons p path ih =>
    have h := (painted_stamp c half color p).trans (ih (c.stamp half color p))
    exact h.congr (by simp)

/-- Stamps that miss the canvas leave it as it is. -/
theorem stampAll_of_misses {half : Int} {path : List Point}
    (h : ∀ p ∈ path, ∀ q, c.Contains q → ¬Square half p q) :
    stampAll half color path c = c := by
  apply (painted_stampAll half color path c).unique
  apply (painted_none color c).congr
  intro q hq
  simp only [false_iff, not_exists, not_and]
  intro p hp
  exact h p hp q hq

/-! ### Leaving a path when the canvas is covered -/

theorem square_of_coveredFrom {half : Int} {p q : Point} (h : c.coveredFrom half p = true)
    (hq : c.Contains q) : Square half p q := by
  simp only [coveredFrom, Bool.and_eq_true, decide_eq_true_eq] at h
  simp only [Contains] at hq
  simp only [Square]
  omega

/-- Behind a stamp that covers the canvas no stamp has anything left to do. -/
theorem stampAll_append_of_coveredFrom {half : Int} {path : List Point} {p : Point}
    (hp : p ∈ path) (h : c.coveredFrom half p = true) (rest : List Point) :
    stampAll half color (path ++ rest) c = stampAll half color path c := by
  apply (painted_stampAll half color (path ++ rest) c).unique
  apply (painted_stampAll half color path c).congr
  intro q hq
  have hsquare := square_of_coveredFrom h hq
  exact ⟨fun _ => ⟨p, by simp [hp], hsquare⟩, fun _ => ⟨p, hp, hsquare⟩⟩

theorem coveredFrom_stamp (c : Canvas) (half : Int) (color : Color) (p q : Point) :
    (c.stamp half color p).coveredFrom half q = c.coveredFrom half q := by
  simp [coveredFrom]

theorem stampAlong_snd_iff {half : Int} {path : List Point} :
    (stampAlong half color path c).2 = true ↔ ∃ p ∈ path, c.coveredFrom half p = true := by
  induction path generalizing c with
  | nil => simp [stampAlong]
  | cons p path ih =>
    unfold stampAlong
    split
    · rename_i h
      simp [h]
    · rename_i h
      simp [ih, h, coveredFrom_stamp]

/-- A path left early is painted as if it had been walked to its end. -/
theorem stampAlong_fst (half : Int) (color : Color) (path : List Point) (c : Canvas) :
    (stampAlong half color path c).1 = stampAll half color path c := by
  induction path generalizing c with
  | nil => rfl
  | cons p path ih =>
    unfold stampAlong
    split
    · rename_i h
      have hp : p ∈ [p] := List.mem_singleton_self p
      exact (stampAll_append_of_coveredFrom hp h path).symm
    · exact ih _

end PaintRobot.Canvas
