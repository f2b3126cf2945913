import PaintRobot.Canvas.Lemmas
import Mathlib.Data.List.Nodup
import Mathlib.Data.Set.Card

/-!
Counting colors. The count between two corners is the number of cells there that have the color, in
whatever order the corners are given and wherever they lie, and the counts of all colors add up to
the number of cells.
-/
namespace PaintRobot.Canvas

variable {c : Canvas} {color : Color} {p q r lo hi : Point}

theorem nodup_span (lo hi : Int) : (span lo hi).Nodup := by
  apply List.nodup_range.map
  intro m n h
  simpa using h

/-- A box visits each of its cells once. -/
theorem nodup_box (c : Canvas) (lo hi : Point) : (c.box lo hi).Nodup := by
  unfold box
  rw [List.nodup_flatMap]
  constructor
  · intro y _
    apply (nodup_span _ _).map
    intro x x' h
    simpa using h
  · apply (nodup_span _ _).imp
    intro y y' hne
    simp only [Function.onFun, List.Disjoint, List.mem_map]
    rintro _ ⟨x, -, rfl⟩ ⟨x', -, h⟩
    rw [Point.mk.injEq] at h
    exact hne h.2.symm

/-- The cells of the canvas between two opposite corners of a rectangle. -/
def clipped (c : Canvas) (p q : Point) : Set Point :=
  {r | c.Contains r ∧ (min p.x q.x ≤ r.x ∧ r.x ≤ max p.x q.x) ∧
    min p.y q.y ≤ r.y ∧ r.y ≤ max p.y q.y}

/-- The same cells, row by row. -/
def clippedList (c : Canvas) (p q : Point) : List Point :=
  c.box ⟨min p.x q.x, min p.y q.y⟩ ⟨max p.x q.x, max p.y q.y⟩

theorem nodup_clippedList (c : Canvas) (p q : Point) : (c.clippedList p q).Nodup := c.nodup_box _ _

theorem foldl_add_countP (color : Color) (seen : List Color) (n : Nat) :
    seen.foldl (fun n d => if d = color then n + 1 else n) n = n + seen.countP (· == color) := by
  induction seen generalizing n with
  | nil => rfl
  | cons d seen ih =>
    rw [List.foldl_cons, ih, List.countP_cons]
    by_cases h : d = color
    · simp only [h, if_true, BEq.rfl]
      omega
    · simp [h]

theorem foldl_count (colors : Array Color) (color : Color) (start stop : Nat) :
    colors.foldl (fun n d => if d = color then n + 1 else n) 0 start stop =
      (colors.extract start stop).toList.countP (· == color) := by
  rw [Array.foldl, Array.foldlM_start_stop]
  show (colors.extract start stop).foldl _ 0 = _
  rw [← Array.foldl_toList, foldl_add_countP, Nat.zero_add]

theorem countRow_eq {left right y : Int} (hy : 0 ≤ y ∧ y < c.side) (hleft : 0 ≤ left)
    (hright : right < c.side) :
    c.countRow color left right y =
      ((span left right).map fun x => (⟨x, y⟩ : Point)).countP fun r => c.get? r == some color := by
  have hrow := congrArg (List.countP (· == some color)) (map_extract_row hy hleft hright)
  rw [List.countP_map, List.countP_map] at hrow
  rw [countRow, foldl_count, List.countP_map]
  exact Eq.trans (by simp [Function.comp_def]) hrow

/-- Row by row the same cells are counted. -/
theorem count_eq (c : Canvas) (color : Color) (p q : Point) :
    c.count color p q = (c.clippedList p q).countP fun r => c.get? r == some color := by
  rw [count, clippedList, box, List.countP_flatMap, List.sum_eq_foldl, List.foldl_map]
  apply List.foldl_ext
  intro n y hy
  rw [mem_span] at hy
  rw [countRow_eq (by omega) (by omega) (by omega)]
  rfl

theorem mem_clippedList : r ∈ c.clippedList p q ↔ r ∈ c.clipped p q := by
  rw [clippedList, mem_box]
  simp [clipped, and_assoc]

theorem ncard_of_nodup {P : Point → Prop} {points : List Point} (h : points.Nodup)
    (hmem : ∀ r, r ∈ points ↔ P r) : {r | P r}.ncard = points.length := by
  have hset : {r | P r} = (points.toFinset : Set Point) := by
    ext r
    simp [hmem]
  rw [hset, Set.ncard_coe_finset, List.toFinset_card_of_nodup h]

theorem count_eq_ncard (c : Canvas) (color : Color) (p q : Point) :
    c.count color p q = {r | r ∈ c.clipped p q ∧ c.get? r = some color}.ncard := by
  rw [count_eq, List.countP_eq_length_filter]
  refine (ncard_of_nodup ((c.nodup_clippedList p q).filter _) fun r => ?_).symm
  rw [List.mem_filter, mem_clippedList, beq_iff_eq]

theorem ncard_clipped (c : Canvas) (p q : Point) :
    (c.clipped p q).ncard = (c.clippedList p q).length :=
  ncard_of_nodup (c.nodup_clippedList p q) fun _ => mem_clippedList

/-! ### All corners and all colors -/

theorem count_exchange_columns (c : Canvas) (color : Color) (p q : Point) :
    c.count color ⟨q.x, p.y⟩ ⟨p.x, q.y⟩ = c.count color p q := by
  simp only [count, min_comm q.x, max_comm q.x]

theorem count_comm (c : Canvas) (color : Color) (p q : Point) :
    c.count color q p = c.count color p q := by
  simp only [count, min_comm q.x, max_comm q.x, min_comm q.y, max_comm q.y]

/-- Whether the rectangle between two opposite corners lies on one side of the canvas. -/
def Beside (c : Canvas) (p q : Point) : Prop :=
  max p.x q.x < 0 ∨ c.side ≤ min p.x q.x ∨ max p.y q.y < 0 ∨ c.side ≤ min p.y q.y

theorem count_of_beside (h : c.Beside p q) (color : Color) : c.count color p q = 0 := by
  rw [count_eq, List.countP_eq_zero]
  intro r hr
  obtain ⟨hin, hspan⟩ := mem_clippedList.mp hr
  simp only [Contains] at hin
  simp only [Beside] at h
  omega

/-- Every cell is counted for its own color and for no other. -/
theorem sum_countP_palette {points : List Point} (h : ∀ r ∈ points, c.Contains r) :
    (Color.palette.map fun color => points.countP fun r => c.get? r == some color).sum =
      points.length := by
  induction points with
  | nil => rfl
  | cons r points ih =>
    obtain ⟨hr, hrest⟩ := List.forall_mem_cons.mp h
    have hone : ∀ seen : Color,
        (Color.palette.map fun color => if some seen == some color then 1 else 0).sum = 1 := by
      intro seen
      cases seen <;> rfl
    simp only [List.countP_cons, List.sum_map_add, ih hrest, get?_of_contains hr, hone,
      List.length_cons]

theorem sum_count_palette (c : Canvas) (p q : Point) :
    (Color.palette.map fun color => c.count color p q).sum = (c.clipped p q).ncard := by
  simp only [ncard_clipped, count_eq]
  exact sum_countP_palette fun r hr => (mem_clippedList.mp hr).1

/-- The count of a color is the number of cells that have it between two corners, as far as the
canvas goes. It is the same for any two opposite corners of a rectangle, nothing is counted beside
the canvas, and the counts of all colors add up to the number of cells. -/
theorem count_counts_clipped (c : Canvas) (color : Color) (p q : Point) :
    c.count color p q = {r | r ∈ c.clipped p q ∧ c.get? r = some color}.ncard ∧
      (c.count color q p = c.count color p q ∧
        c.count color ⟨q.x, p.y⟩ ⟨p.x, q.y⟩ = c.count color p q ∧
        c.count color ⟨p.x, q.y⟩ ⟨q.x, p.y⟩ = c.count color p q) ∧
      (c.Beside p q → c.count color p q = 0) ∧
      (Color.palette.map fun color => c.count color p q).sum = (c.clipped p q).ncard := by
  have hcolumns := c.count_exchange_columns color p q
  have hrows : c.count color ⟨p.x, q.y⟩ ⟨q.x, p.y⟩ = c.count color p q :=
    (c.count_comm color _ _).trans hcolumns
  exact ⟨c.count_eq_ncard color p q, ⟨c.count_comm color p q, hcolumns, hrows⟩,
    fun h => count_of_beside h color, c.sum_count_palette p q⟩

/-- A rectangle that reaches over a corner of the canvas, and one beside it. -/
theorem count_counts_clipped_over_corner :
    let c := (blank 5).set ⟨4, 3⟩ .red
    (c.Beside ⟨9, 2⟩ ⟨5, -7⟩ ∧ c.count .white ⟨9, 2⟩ ⟨5, -7⟩ = 0) ∧
      c.count .white ⟨3, 9⟩ ⟨2147483647, 2⟩ = 5 ∧
      {r | r ∈ c.clipped ⟨3, 9⟩ ⟨2147483647, 2⟩ ∧ c.get? r = some .white}.ncard = 5 := by
  intro c
  have hbeside : c.Beside ⟨9, 2⟩ ⟨5, -7⟩ := by
    simp [Beside, c, blank]
  have hcount : c.count .white ⟨3, 9⟩ ⟨2147483647, 2⟩ = 5 := by decide +kernel
  refine ⟨⟨hbeside, (count_counts_clipped c .white _ _).2.2.1 hbeside⟩, hcount, ?_⟩
  rw [← (count_counts_clipped c .white _ _).1, hcount]

end PaintRobot.Canvas
