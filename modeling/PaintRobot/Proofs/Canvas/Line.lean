import PaintRobot.Proofs.Canvas.Painted
import PaintRobot.Proofs.Canvas.Walk

/-!
Straight lines along a row, a column or a diagonal. There the walk makes the same step every time,
so it visits exactly the points between its ends.
-/
namespace PaintRobot

/-- The point that lies a number of steps in a direction from a point. -/
def Point.ahead (p : Point) (d : Int × Int) (steps : Int) : Point :=
  ⟨p.x + d.1 * steps, p.y + d.2 * steps⟩

/-- A step to one of the eight points around a point, or none. -/
def IsDirection (d : Int × Int) : Prop := (-1 ≤ d.1 ∧ d.1 ≤ 1) ∧ -1 ≤ d.2 ∧ d.2 ≤ 1

theorem IsDirection.cases {d : Int × Int} (hd : IsDirection d) :
    (d.1 = -1 ∨ d.1 = 0 ∨ d.1 = 1) ∧ (d.2 = -1 ∨ d.2 = 0 ∨ d.2 = 1) := by
  unfold IsDirection at hd
  omega

theorem sign_mul_of_direction {e : Int} (he : e = -1 ∨ e = 0 ∨ e = 1) {n : Nat} (hn : 0 < n) :
    (e * n).sign = e := by
  rw [Int.sign_mul, Int.sign_eq_one_of_pos (Int.natCast_pos.mpr hn), Int.mul_one]
  rcases he with rfl | rfl | rfl <;> rfl

section

variable {d : Int × Int} (hd : IsDirection d) {p : Point} {n : Nat}

include hd

theorem columnsTo_ahead : p.columnsTo (p.ahead d n) = if d.1 = 0 then 0 else n := by
  simp only [Point.columnsTo, Point.ahead]
  obtain ⟨h | h | h, -⟩ := hd.cases <;> simp [h]

theorem rowsTo_ahead : p.rowsTo (p.ahead d n) = if d.2 = 0 then 0 else n := by
  simp only [Point.rowsTo, Point.ahead]
  obtain ⟨-, h | h | h⟩ := hd.cases <;> simp [h]

theorem towards_ahead (hn : 0 < n) (i j : Nat) :
    p.towards (p.ahead d n) i j = ⟨p.x + d.1 * i, p.y + d.2 * j⟩ := by
  simp only [Point.towards, Point.ahead, add_sub_cancel_left, sign_mul_of_direction hd.cases.1 hn,
    sign_mul_of_direction hd.cases.2 hn]

theorem longOffset_ahead (hmoves : d.1 ≠ 0 ∨ d.2 ≠ 0) : p.longOffset (p.ahead d n) = n := by
  have hmax : p.longOffset (p.ahead d n) = max (p.columnsTo _) (p.rowsTo _) := rfl
  rw [hmax, columnsTo_ahead hd, rowsTo_ahead hd]
  rcases hmoves with h | h <;> rw [if_neg h] <;> split <;> omega

/-- In a direction every step is the same: an axis that belongs to it is as long as any, so it takes
a step each time, and along another one there are none to make. -/
theorem after_ahead (hn : 0 < n) (hmoves : d.1 ≠ 0 ∨ d.2 ≠ 0) (k : Nat) :
    (LineWalk.after p (p.ahead d n) k).point = p.ahead d k := by
  have hne : p ≠ p.ahead d n := by
    intro h
    have hlong := longOffset_ahead hd hmoves (p := p) (n := n)
    rw [← h, Point.longOffset] at hlong
    omega
  obtain ⟨i, j, h⟩ := LineWalk.exists_stands hne k
  have hwide := h.wide
  have htall := h.tall
  rw [columnsTo_ahead hd, rowsTo_ahead hd] at hwide htall
  rw [h.point_eq, towards_ahead hd hn]
  simp only [Point.ahead, Point.mk.injEq]
  constructor
  · by_cases hx : d.1 = 0
    · rw [hx, Int.zero_mul, Int.zero_mul]
    · rw [hwide (by rw [if_neg hx]; split <;> omega)]
  · by_cases hy : d.2 = 0
    · rw [hy, Int.zero_mul, Int.zero_mul]
    · rw [htall (by rw [if_neg hy]; split <;> omega)]

/-- The walk in a direction visits the points that it passes, and no others. -/
theorem mem_straightWalk_ahead {q : Point} :
    q ∈ straightWalk p (p.ahead d n) ↔ ∃ k : Nat, k ≤ n ∧ q = p.ahead d k := by
  by_cases hmoves : 0 < n ∧ (d.1 ≠ 0 ∨ d.2 ≠ 0)
  · obtain ⟨hn, hmoves⟩ := hmoves
    simp only [mem_straightWalk_iff, longOffset_ahead hd hmoves, after_ahead hd hn hmoves, eq_comm]
  · have hsame : ∀ k : Nat, k ≤ n → p.ahead d k = p := by
      intro k hk
      rw [not_and_or, not_or, not_not, not_not] at hmoves
      rcases hmoves with hn | ⟨hx, hy⟩
      · simp [Point.ahead, show k = 0 by omega]
      · simp [Point.ahead, hx, hy]
    rw [hsame n le_rfl, straightWalk_self, List.mem_singleton]
    constructor
    · intro h
      exact ⟨n, le_rfl, by rw [hsame n le_rfl, h]⟩
    · rintro ⟨k, hk, rfl⟩
      exact hsame k hk

end

theorem exists_eq_ahead {a b : Int} : ∃ (d : Int) (n : Nat), (d = -1 ∨ d = 1) ∧ b = a + d * n := by
  rcases Int.le_total a b with h | h
  · exact ⟨1, (b - a).toNat, .inr rfl, by omega⟩
  · exact ⟨-1, (a - b).toNat, .inl rfl, by omega⟩

theorem exists_ahead_of_row {a b : Point} (hrow : b.y = a.y) :
    ∃ (d : Int) (n : Nat), (d = -1 ∨ d = 1) ∧ IsDirection (d, 0) ∧ b = a.ahead (d, 0) n := by
  obtain ⟨d, n, hd, hb⟩ := exists_eq_ahead (a := a.x) (b := b.x)
  refine ⟨d, n, hd, ?_, ?_⟩
  · simp only [IsDirection]
    omega
  · cases b
    simp_all [Point.ahead]

theorem exists_ahead_of_column {a b : Point} (hcolumn : b.x = a.x) :
    ∃ (d : Int) (n : Nat), (d = -1 ∨ d = 1) ∧ IsDirection (0, d) ∧ b = a.ahead (0, d) n := by
  obtain ⟨d, n, hd, hb⟩ := exists_eq_ahead (a := a.y) (b := b.y)
  refine ⟨d, n, hd, ?_, ?_⟩
  · simp only [IsDirection]
    omega
  · cases b
    simp_all [Point.ahead]

/-- The walk along a row visits the points of the row between its ends. -/
theorem mem_straightWalk_row {a b q : Point} (hrow : b.y = a.y) :
    q ∈ straightWalk a b ↔ q.y = a.y ∧ min a.x b.x ≤ q.x ∧ q.x ≤ max a.x b.x := by
  obtain ⟨d, n, hd, hdir, hahead⟩ := exists_ahead_of_row hrow
  obtain ⟨x, y⟩ := q
  rw [hahead, mem_straightWalk_ahead hdir]
  simp only [Point.ahead, Point.mk.injEq, Int.zero_mul, Int.add_zero]
  constructor
  · rintro ⟨k, hk, rfl, rfl⟩
    rcases hd with rfl | rfl <;> omega
  · rintro ⟨rfl, hlow, hhigh⟩
    refine ⟨(x - a.x).natAbs, ?_, ?_, rfl⟩ <;> rcases hd with rfl | rfl <;> omega

/-- The walk along a column visits the points of the column between its ends. -/
theorem mem_straightWalk_column {a b q : Point} (hcolumn : b.x = a.x) :
    q ∈ straightWalk a b ↔ q.x = a.x ∧ min a.y b.y ≤ q.y ∧ q.y ≤ max a.y b.y := by
  obtain ⟨d, n, hd, hdir, hahead⟩ := exists_ahead_of_column hcolumn
  obtain ⟨x, y⟩ := q
  rw [hahead, mem_straightWalk_ahead hdir]
  simp only [Point.ahead, Point.mk.injEq, Int.zero_mul, Int.add_zero]
  constructor
  · rintro ⟨k, hk, rfl, rfl⟩
    rcases hd with rfl | rfl <;> omega
  · rintro ⟨rfl, hlow, hhigh⟩
    refine ⟨(y - a.y).natAbs, ?_, rfl, ?_⟩ <;> rcases hd with rfl | rfl <;> omega

namespace Canvas

theorem brushHalf_eq {size : Int} (h : 0 ≤ size) : brushHalf size = size / 2 :=
  Int.tdiv_eq_ediv_of_nonneg h

theorem square_iff {half : Int} {p q : Point} :
    Square half p q ↔ (p.longOffset q : Int) ≤ half := by
  unfold Square Point.longOffset
  omega

/-- A line is stamped along its whole walk, even if it is left when the canvas is covered. -/
theorem painted_drawLine (c : Canvas) (a b : Point) (color : Color) (size : Int) :
    Painted (fun q => ∃ p ∈ straightWalk a b, Square (brushHalf size) p q) color c
      (c.drawLine a b color size) := by
  rw [drawLine, stampAlong_fst]
  exact painted_stampAll (brushHalf size) color (straightWalk a b) c

end Canvas

end PaintRobot
