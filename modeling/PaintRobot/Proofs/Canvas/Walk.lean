import PaintRobot.Canvas.Line
import Mathlib.Data.List.Range
import Mathlib.Tactic.Ring

/-!
Straight walks between any two points. The error of a walk tells how far it is from the segment
between its ends, which is never more than half a cell, so the longer axis takes a step each time
and the walk is at its end after as many steps as that axis has, and not before.
-/
namespace PaintRobot

namespace Point

/-- How many columns one point is away from another. -/
def columnsTo (a b : Point) : Nat := (b.x - a.x).natAbs

/-- How many rows one point is away from another. -/
def rowsTo (a b : Point) : Nat := (b.y - a.y).natAbs

/-- The point some steps sideways and some upright from `a`, in the direction of `b`. -/
def towards (a b : Point) (i j : Nat) : Point :=
  ⟨a.x + (b.x - a.x).sign * i, a.y + (b.y - a.y).sign * j⟩

theorem towards_zero (a b : Point) : a.towards b 0 0 = a := by simp [towards]

theorem towards_end (a b : Point) : a.towards b (a.columnsTo b) (a.rowsTo b) = b := by
  have hsum (m n : Int) : m + (n - m) = n := by omega
  simp only [towards, columnsTo, rowsTo, Int.sign_mul_natAbs, hsum]

theorem eq_of_columnsTo_rowsTo {a b : Point} (hx : a.columnsTo b = 0) (hy : a.rowsTo b = 0) :
    a = b := by
  rw [← a.towards_end b, hx, hy, towards_zero]

theorem columnsTo_towards {a b : Point} (h : 0 < a.columnsTo b) (i j : Nat) :
    a.columnsTo (a.towards b i j) = i := by
  unfold columnsTo at h
  simp only [columnsTo, towards, add_sub_cancel_left, Int.natAbs_mul, Int.natAbs_natCast]
  rw [Int.natAbs_sign_of_ne_zero (by omega), Nat.one_mul]

theorem rowsTo_towards {a b : Point} (h : 0 < a.rowsTo b) (i j : Nat) :
    a.rowsTo (a.towards b i j) = j := by
  unfold rowsTo at h
  simp only [rowsTo, towards, add_sub_cancel_left, Int.natAbs_mul, Int.natAbs_natCast]
  rw [Int.natAbs_sign_of_ne_zero (by omega), Nat.one_mul]

theorem between_of_le_natAbs {m n : Int} {i : Nat} (h : i ≤ (n - m).natAbs) :
    min m n ≤ m + (n - m).sign * i ∧ m + (n - m).sign * i ≤ max m n := by
  rcases lt_trichotomy m n with hlt | rfl | hgt
  · rw [Int.sign_eq_one_of_pos (by omega)]
    omega
  · simp
  · rw [Int.sign_eq_neg_one_of_neg (by omega)]
    omega

/-- The shorter one of the offsets of a point from a center along the two axes. -/
def shortOffset (center p : Point) : Nat := min (p.x - center.x).natAbs (p.y - center.y).natAbs

/-- The longer one, which is the distance between the points if diagonal steps count as one. -/
def longOffset (center p : Point) : Nat := max (p.x - center.x).natAbs (p.y - center.y).natAbs

theorem longOffset_of_wide {a b : Point} (h : a.rowsTo b ≤ a.columnsTo b) :
    a.longOffset b = a.columnsTo b := Nat.max_eq_left h

theorem longOffset_of_tall {a b : Point} (h : a.columnsTo b ≤ a.rowsTo b) :
    a.longOffset b = a.rowsTo b := Nat.max_eq_right h

theorem longOffset_pos {a b : Point} (h : a ≠ b) : 0 < a.longOffset b := by
  by_contra hzero
  have hmax : max (a.columnsTo b) (a.rowsTo b) = 0 := Nat.eq_zero_of_not_pos hzero
  exact h (eq_of_columnsTo_rowsTo (by omega) (by omega))

theorem step_eq_sign {m n : Int} (h : 0 < (n - m).natAbs) :
    (if m < n then 1 else -1) = (n - m).sign := by
  split
  · exact (Int.sign_eq_one_of_pos (by omega)).symm
  · exact (Int.sign_eq_neg_one_of_neg (by omega)).symm

end Point

namespace LineWalk

variable {a b : Point} {k i j : Nat} {w : LineWalk} {error : Int}

/-- Whether the next step of a walk goes to another column. -/
def GoesSideways (a b : Point) (w : LineWalk) : Prop := -(a.rowsTo b : Int) < 2 * w.error

/-- Whether the next step of a walk goes to another row. -/
def GoesUpright (a b : Point) (w : LineWalk) : Prop := 2 * w.error < a.columnsTo b

instance : Decidable (GoesSideways a b w) := inferInstanceAs (Decidable (_ < _))

instance : Decidable (GoesUpright a b w) := inferInstanceAs (Decidable (_ < _))

theorem next_eq (a b : Point) (w : LineWalk) : w.next a b =
    { point :=
        { x := if w.GoesSideways a b then w.point.x + if a.x < b.x then 1 else -1 else w.point.x
          y := if w.GoesUpright a b then w.point.y + if a.y < b.y then 1 else -1 else w.point.y }
      error := w.error + (if w.GoesSideways a b then -(a.rowsTo b : Int) else 0) +
        if w.GoesUpright a b then (a.columnsTo b : Int) else 0 } := rfl

/-- The beginning of the walk from `a` to `b`. -/
def start (a b : Point) : LineWalk := ⟨a, a.columnsTo b - a.rowsTo b⟩

/-- Between these bounds the error of a walk says that the place is within half a cell of the
segment between its ends. -/
structure Level (a b : Point) (error : Int) : Prop where
  wide : a.rowsTo b ≤ a.columnsTo b →
    a.columnsTo b - 2 * a.rowsTo b ≤ 2 * error ∧ 2 * error < 3 * a.columnsTo b - 2 * a.rowsTo b
  tall : a.columnsTo b ≤ a.rowsTo b →
    2 * a.columnsTo b - 3 * a.rowsTo b < 2 * error ∧ 2 * error ≤ 2 * a.columnsTo b - a.rowsTo b

theorem level_start (h : a ≠ b) : Level a b (start a b).error := by
  have hpos : 0 < max (a.columnsTo b) (a.rowsTo b) := Point.longOffset_pos h
  constructor <;> simp only [start] <;> omega

theorem Level.next (h : Level a b w.error) : Level a b (w.next a b).error := by
  have hwide := h.wide
  have htall := h.tall
  simp only [next_eq, GoesSideways, GoesUpright]
  constructor <;> intro hle <;> split_ifs <;> omega

/-- The longer axis takes a step each time. -/
theorem Level.goesSideways (h : Level a b w.error) (hwide : a.rowsTo b ≤ a.columnsTo b) :
    w.GoesSideways a b := by
  have := h.wide
  have := h.tall
  unfold GoesSideways
  omega

theorem Level.goesUpright (h : Level a b w.error) (htall : a.columnsTo b ≤ a.rowsTo b) :
    w.GoesUpright a b := by
  have := h.wide
  have := h.tall
  unfold GoesUpright
  omega

/-- Along an axis on which there is no way to go there are no steps. -/
theorem Level.columns_pos (h : Level a b w.error) (hgoes : w.GoesSideways a b) :
    0 < a.columnsTo b := by
  have := h.wide
  have := h.tall
  unfold GoesSideways at hgoes
  omega

theorem Level.rows_pos (h : Level a b w.error) (hgoes : w.GoesUpright a b) :
    0 < a.rowsTo b := by
  have := h.wide
  have := h.tall
  unfold GoesUpright at hgoes
  omega

/-- How a walk stands after `k` steps, `i` of them sideways and `j` of them upright. -/
structure Stands (a b : Point) (k i j : Nat) (w : LineWalk) : Prop where
  point_eq : w.point = a.towards b i j
  error_eq : w.error = (j + 1) * a.columnsTo b - (i + 1) * a.rowsTo b
  level : Level a b w.error
  wide : a.rowsTo b ≤ a.columnsTo b → i = k
  tall : a.columnsTo b ≤ a.rowsTo b → j = k

theorem stands_start (h : a ≠ b) : Stands a b 0 0 0 (start a b) where
  point_eq := (a.towards_zero b).symm
  error_eq := by simp [start]
  level := level_start h
  wide _ := rfl
  tall _ := rfl

theorem Stands.next (h : Stands a b k i j w) :
    ∃ i' j', Stands a b (k + 1) i' j' (w.next a b) := by
  refine ⟨if w.GoesSideways a b then i + 1 else i, if w.GoesUpright a b then j + 1 else j,
    ?_, ?_, h.level.next, ?_, ?_⟩
  · simp only [next_eq, h.point_eq, Point.towards, Point.mk.injEq]
    constructor
    · split
      · rename_i hgoes
        rw [Point.step_eq_sign (h.level.columns_pos hgoes)]
        push_cast
        ring
      · rfl
    · split
      · rename_i hgoes
        rw [Point.step_eq_sign (h.level.rows_pos hgoes)]
        push_cast
        ring
      · rfl
  · simp only [next_eq, h.error_eq]
    split <;> split <;> push_cast <;> ring
  · intro hwide
    rw [if_pos (h.level.goesSideways hwide), h.wide hwide]
  · intro htall
    rw [if_pos (h.level.goesUpright htall), h.tall htall]

/-- The walk from `a` to `b` after some steps. -/
def after (a b : Point) (k : Nat) : LineWalk := (next a b)^[k] (start a b)

theorem after_succ (a b : Point) (k : Nat) : after a b (k + 1) = (after a b k).next a b :=
  Function.iterate_succ_apply' ..

theorem exists_stands (h : a ≠ b) (k : Nat) : ∃ i j, Stands a b k i j (after a b k) := by
  induction k with
  | zero => exact ⟨0, 0, stands_start h⟩
  | succ k ih =>
    obtain ⟨i, j, hk⟩ := ih
    rw [after_succ]
    exact hk.next

theorem level_after (hk : k < a.longOffset b) : Level a b (after a b k).error := by
  have hne : a ≠ b := by
    rintro rfl
    rw [Point.longOffset, Int.sub_self, Int.sub_self] at hk
    omega
  obtain ⟨i, j, hstands⟩ := exists_stands hne k
  exact hstands.level

/-! ### Where the places are -/

theorem le_of_near {long m n k : Nat} (hpos : 0 < long) (hk : k ≤ long)
    (h : 2 * ((m : Int) * long - k * n).natAbs ≤ long) : m ≤ n := by
  by_contra hlt
  have hlong : (long : Int) * (n + 1) ≤ m * long := by
    rw [Int.mul_comm]
    exact Int.mul_le_mul_of_nonneg_right (by omega) (by omega)
  have hshort : (k : Int) * n ≤ long * n := Int.mul_le_mul_of_nonneg_right (by omega) (by omega)
  rw [Int.mul_add] at hlong
  omega

theorem eq_of_near {long m n : Nat} (hpos : 0 < long)
    (h : 2 * ((m : Int) * long - long * n).natAbs ≤ long) : m = n := by
  rw [Int.mul_comm, ← Int.mul_sub, Int.natAbs_mul, Int.natAbs_natCast] at h
  have hzero : ((m : Int) - n).natAbs = 0 := by
    by_contra hne
    have hle := Nat.mul_le_mul_left long (Nat.one_le_iff_ne_zero.mpr hne)
    omega
  omega

/-- Whether the place `i` steps sideways and `j` steps upright on the way from `a` to `b` is where
the segment between them has got to after `k` steps along the longer axis, up to half a cell along
the other one. -/
structure OnSegment (a b : Point) (k i j : Nat) : Prop where
  wide : a.rowsTo b ≤ a.columnsTo b → i = k ∧
    2 * ((j : Int) * a.columnsTo b - k * a.rowsTo b).natAbs ≤ a.columnsTo b
  tall : a.columnsTo b ≤ a.rowsTo b → j = k ∧
    2 * ((i : Int) * a.rowsTo b - k * a.columnsTo b).natAbs ≤ a.rowsTo b

theorem Stands.onSegment (h : Stands a b k i j w) : OnSegment a b k i j where
  wide hwide := by
    obtain ⟨hlow, hhigh⟩ := h.level.wide hwide
    rw [h.error_eq, h.wide hwide, Int.add_mul, Int.add_mul] at hlow hhigh
    exact ⟨h.wide hwide, by omega⟩
  tall htall := by
    obtain ⟨hlow, hhigh⟩ := h.level.tall htall
    rw [h.error_eq, h.tall htall, Int.add_mul, Int.add_mul] at hlow hhigh
    exact ⟨h.tall htall, by omega⟩

/-- On its way to the end a walk makes no step too many along either axis. -/
theorem OnSegment.le_ends (h : OnSegment a b k i j) (hk : k ≤ a.longOffset b) :
    i ≤ a.columnsTo b ∧ j ≤ a.rowsTo b := by
  have hwide := h.wide
  have htall := h.tall
  rcases Nat.lt_trichotomy (a.rowsTo b) (a.columnsTo b) with hlt | heq | hgt
  · rw [Point.longOffset_of_wide hlt.le] at hk
    obtain ⟨rfl, hnear⟩ := hwide hlt.le
    exact ⟨hk, le_of_near (Nat.zero_lt_of_lt hlt) hk hnear⟩
  · rw [Point.longOffset_of_wide heq.le] at hk
    obtain ⟨rfl, -⟩ := hwide heq.le
    obtain ⟨rfl, -⟩ := htall heq.ge
    exact ⟨hk, heq ▸ hk⟩
  · rw [Point.longOffset_of_tall hgt.le] at hk
    obtain ⟨rfl, hnear⟩ := htall hgt.le
    exact ⟨le_of_near (Nat.zero_lt_of_lt hgt) hk hnear, hk⟩

theorem OnSegment.eq_ends (h : OnSegment a b (a.longOffset b) i j) :
    i = a.columnsTo b ∧ j = a.rowsTo b := by
  have hwide := h.wide
  have htall := h.tall
  rcases Nat.lt_trichotomy (a.rowsTo b) (a.columnsTo b) with hlt | heq | hgt
  · rw [Point.longOffset_of_wide hlt.le] at hwide
    obtain ⟨hi, hnear⟩ := hwide hlt.le
    exact ⟨hi, eq_of_near (Nat.zero_lt_of_lt hlt) hnear⟩
  · rw [Point.longOffset_of_wide heq.le] at hwide htall
    exact ⟨(hwide heq.le).1, (htall heq.ge).1.trans heq.symm⟩
  · rw [Point.longOffset_of_tall hgt.le] at htall
    obtain ⟨hj, hnear⟩ := htall hgt.le
    exact ⟨eq_of_near (Nat.zero_lt_of_lt hgt) hnear, hj⟩

theorem OnSegment.towards_ne (h : OnSegment a b k i j) (hk : k < a.longOffset b) :
    a.towards b i j ≠ b := by
  intro hend
  rcases Nat.le_total (a.rowsTo b) (a.columnsTo b) with hwide | htall
  · rw [Point.longOffset_of_wide hwide] at hk
    have hi := Point.columnsTo_towards (Nat.zero_lt_of_lt hk) i j
    rw [hend, (h.wide hwide).1] at hi
    omega
  · rw [Point.longOffset_of_tall htall] at hk
    have hj := Point.rowsTo_towards (Nat.zero_lt_of_lt hk) i j
    rw [hend, (h.tall htall).1] at hj
    omega

theorem exists_onSegment (hk : k ≤ a.longOffset b) :
    ∃ i j, OnSegment a b k i j ∧ (after a b k).point = a.towards b i j := by
  by_cases h : a = b
  · subst h
    have hzero : k = 0 := by
      rw [Point.longOffset, Int.sub_self, Int.sub_self] at hk
      omega
    subst hzero
    refine ⟨0, 0, ?_, (a.towards_zero a).symm⟩
    constructor <;> simp
  · obtain ⟨i, j, hstands⟩ := exists_stands h k
    exact ⟨i, j, hstands.onSegment, hstands.point_eq⟩

theorem after_ne (hk : k < a.longOffset b) : (after a b k).point ≠ b := by
  obtain ⟨i, j, hon, hpoint⟩ := exists_onSegment hk.le
  rw [hpoint]
  exact hon.towards_ne hk

theorem after_end (a b : Point) : (after a b (a.longOffset b)).point = b := by
  obtain ⟨i, j, hon, hpoint⟩ := exists_onSegment (Nat.le_refl (a.longOffset b))
  rw [hpoint, hon.eq_ends.1, hon.eq_ends.2, Point.towards_end]

/-- A walk does not come to its end before it has made all its steps. -/
theorem places_after {steps : Nat} (hk : k + steps = a.longOffset b) :
    places a b (after a b k) steps =
      (List.range (steps + 1)).map fun m => (after a b (k + m)).point := by
  induction steps generalizing k with
  | zero => simp [places]
  | succ steps ih =>
    have hgoOn : (after a b k).point ≠ b := after_ne (by omega)
    rw [places, if_neg hgoOn, ← after_succ, ih (by omega), List.range_succ_eq_map (n := steps + 1),
      List.map_cons, List.map_map]
    congr 1
    apply List.map_congr_left
    intro m _
    rw [Function.comp_apply, Nat.succ_eq_add_one, Nat.add_right_comm, Nat.add_assoc]

end LineWalk

theorem straightWalk_self (p : Point) : straightWalk p p = [p] := by
  simp [straightWalk, LineWalk.places]

/-- A walk makes as many steps as there are along the longer axis. -/
theorem straightWalk_eq (a b : Point) :
    straightWalk a b =
      (List.range (a.longOffset b + 1)).map fun k => (LineWalk.after a b k).point := by
  have hplaces := LineWalk.places_after (Nat.zero_add (a.longOffset b))
  simp only [Nat.zero_add] at hplaces
  exact hplaces

theorem length_straightWalk (a b : Point) : (straightWalk a b).length = a.longOffset b + 1 := by
  rw [straightWalk_eq, List.length_map, List.length_range]

theorem getElem?_straightWalk {a b p : Point} {k : Nat} :
    (straightWalk a b)[k]? = some p ↔ k ≤ a.longOffset b ∧ (LineWalk.after a b k).point = p := by
  rw [straightWalk_eq, List.getElem?_map]
  by_cases hk : k < a.longOffset b + 1
  · rw [List.getElem?_range hk, Option.map_some, Option.some.injEq]
    simp [Nat.lt_succ_iff.mp hk]
  · rw [List.getElem?_eq_none (by simpa using hk)]
    simp [Nat.lt_succ_iff.not.mp hk]

theorem mem_straightWalk_iff {a b p : Point} :
    p ∈ straightWalk a b ↔ ∃ k ≤ a.longOffset b, (LineWalk.after a b k).point = p := by
  simp only [List.mem_iff_getElem?, getElem?_straightWalk]

theorem head?_straightWalk (a b : Point) : (straightWalk a b).head? = some a := by
  rw [List.head?_eq_getElem?, getElem?_straightWalk]
  exact ⟨Nat.zero_le _, rfl⟩

theorem getLast?_straightWalk (a b : Point) : (straightWalk a b).getLast? = some b := by
  rw [List.getLast?_eq_getElem?, length_straightWalk, getElem?_straightWalk]
  exact ⟨Nat.le_refl _, LineWalk.after_end a b⟩

/-- A walk does not leave the box between its ends. -/
theorem between_of_mem_straightWalk {a b p : Point} (h : p ∈ straightWalk a b) :
    (min a.x b.x ≤ p.x ∧ p.x ≤ max a.x b.x) ∧ min a.y b.y ≤ p.y ∧ p.y ≤ max a.y b.y := by
  obtain ⟨k, hk, rfl⟩ := mem_straightWalk_iff.mp h
  obtain ⟨i, j, hon, hpoint⟩ := LineWalk.exists_onSegment hk
  obtain ⟨hi, hj⟩ := hon.le_ends hk
  rw [hpoint]
  exact ⟨Point.between_of_le_natAbs hi, Point.between_of_le_natAbs hj⟩

theorem LineWalk.next_near (a b : Point) (w : LineWalk) :
    ((w.next a b).point.x - w.point.x).natAbs ≤ 1 ∧
      ((w.next a b).point.y - w.point.y).natAbs ≤ 1 := by
  simp only [next_eq]
  split_ifs <;> omega

/-- A path from `a` to `b` that keeps to the segment between them: each step goes on by one along
the longer axis, and along the other one the path is never more than half a cell off. -/
structure FollowsSegment (a b : Point) (path : List Point) : Prop where
  length_eq : path.length = max (a.columnsTo b) (a.rowsTo b) + 1
  head?_eq : path.head? = some a
  getLast?_eq : path.getLast? = some b
  near : ∀ k p, path[k]? = some p → ∃ i j, LineWalk.OnSegment a b k i j ∧ p = a.towards b i j
  chain : path.IsChain fun p q => (q.x - p.x).natAbs ≤ 1 ∧ (q.y - p.y).natAbs ≤ 1

theorem followsSegment_straightWalk (a b : Point) : FollowsSegment a b (straightWalk a b) where
  length_eq := length_straightWalk a b
  head?_eq := head?_straightWalk a b
  getLast?_eq := getLast?_straightWalk a b
  near k p hp := by
    obtain ⟨hk, rfl⟩ := getElem?_straightWalk.mp hp
    exact LineWalk.exists_onSegment hk
  chain := by
    rw [straightWalk_eq, List.isChain_map, List.isChain_range_succ]
    intro k _
    rw [Nat.succ_eq_add_one, LineWalk.after_succ]
    exact LineWalk.next_near a b _

end PaintRobot
