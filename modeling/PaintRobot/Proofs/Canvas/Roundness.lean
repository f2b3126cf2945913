import PaintRobot.Proofs.Canvas.Circle
import Mathlib.Algebra.Order.Ring.Int
import Mathlib.Tactic.Ring
import Mathlib.Tactic.Tauto

/-!
How round circles are. The error of the walk along a circle is a polynomial in the offsets of its
place. So the sign of it, on which the next step depends, tells how far out the place can be where a
step keeps its row, and how far in where one gives a row up.
-/
namespace PaintRobot

namespace CircleWalk

/-- The square of the distance of a place from the center. -/
def squared (w : CircleWalk) : Int := w.x ^ 2 + w.y ^ 2

/-- How near a walk stays to the circle of a radius. Only a place that has crossed the diagonal by
more than one column lies two units further out than the others. -/
structure Round (radius : Int) (w : CircleWalk) : Prop where
  error_eq : w.error = 2 * (w.squared - radius ^ 2) + 8 * w.x - 6 * w.y + 4 * radius + 3
  le_squared : (radius - 2) ^ 2 ≤ w.squared
  squared_le : w.squared ≤ radius ^ 2 + radius + 1
  squared_le_of_le : w.x ≤ w.y + 1 → w.squared ≤ radius ^ 2 + radius - 1

variable {radius : Int} {w : CircleWalk}

theorem squared_start (radius : Int) : (start radius).squared = radius ^ 2 := by
  simp only [start, squared]
  ring

/-- A step that keeps its row is made where the error is not positive. -/
theorem next_of_error_le (h : w.error ≤ 0) :
    w.next = ⟨w.x + 1, w.y, w.error + 4 * w.x + 10⟩ := by
  simp only [next, if_neg (Int.not_lt.mpr h), mk.injEq, true_and]
  omega

theorem next_of_lt_error (h : 0 < w.error) :
    w.next = ⟨w.x + 1, w.y - 1, w.error + 4 * (w.x - w.y) + 18⟩ := by
  simp only [next, if_pos h, mk.injEq, true_and]
  omega

theorem round_start (hr : 1 ≤ radius) : Round radius (.start radius) where
  error_eq := by
    rw [squared_start]
    simp only [start]
    omega
  le_squared := by
    have hinner : (radius - 2) ^ 2 = radius ^ 2 - 4 * radius + 4 := by ring
    rw [squared_start]
    omega
  squared_le := by
    rw [squared_start]
    omega
  squared_le_of_le _ := by
    rw [squared_start]
    omega

/-- A place in front of the diagonal is far enough from it to give a row up. -/
theorem Round.room (h : Round radius w) (hr : 1 ≤ radius) (hsum : radius ≤ w.x + w.y)
    (hle : w.x ≤ w.y) : 2 * w.x + 3 ≤ 2 * radius + w.y := by
  have hsquared := h.squared_le_of_le (by omega)
  by_contra hfar
  -- Otherwise both offsets are no less than the radius.
  have hfarx : radius ≤ w.x := by omega
  have hx2 : radius ^ 2 ≤ w.x ^ 2 := pow_le_pow_left₀ (by omega) hfarx 2
  have hy2 : radius ^ 2 ≤ w.y ^ 2 := pow_le_pow_left₀ (by omega) (hfarx.trans hle) 2
  have hr2 : radius ≤ radius ^ 2 := le_self_pow₀ hr (by decide)
  unfold squared at hsquared
  omega

/-- Where a step keeps its row it does not lead more than half a cell out of the circle. -/
theorem Round.next_of_error_le (h : Round radius w) (hx : 0 ≤ w.x) (hy : w.y ≤ radius)
    (herror : w.error ≤ 0) : Round radius w.next := by
  rw [CircleWalk.next_of_error_le herror]
  have hclosed := h.error_eq
  have hlow := h.le_squared
  have hsquared : squared ⟨w.x + 1, w.y, w.error + 4 * w.x + 10⟩ = w.squared + 2 * w.x + 1 := by
    simp only [squared]
    ring
  constructor <;> simp only [hsquared] <;> omega

/-- Where a step gives a row up it does not lead more than two cells into the circle. -/
theorem Round.next_of_lt_error (h : Round radius w) (hle : w.x ≤ w.y)
    (hroom : 2 * w.x + 3 ≤ 2 * radius + w.y) (herror : 0 < w.error) : Round radius w.next := by
  rw [CircleWalk.next_of_lt_error herror]
  have hclosed := h.error_eq
  have hhigh := h.squared_le_of_le (by omega)
  have hinner : (radius - 2) ^ 2 = radius ^ 2 - 4 * radius + 4 := by ring
  have hsquared : squared ⟨w.x + 1, w.y - 1, w.error + 4 * (w.x - w.y) + 18⟩ =
      w.squared + 2 * w.x - 2 * w.y + 2 := by
    simp only [squared]
    ring
  constructor <;> simp only [hsquared] <;> omega

theorem Round.next (h : Round radius w) (hr : 1 ≤ radius) (hx : 0 ≤ w.x)
    (hsum : radius ≤ w.x + w.y) (hy : w.y ≤ radius) (hle : w.x ≤ w.y) : Round radius w.next := by
  rcases Int.lt_or_le 0 w.error with herror | herror
  · exact h.next_of_lt_error hle (h.room hr hsum hle) herror
  · exact h.next_of_error_le hx hy herror

/-- Every place of a circle is near to the true one. -/
theorem round_of_mem_places (hr : 1 ≤ radius) :
    ∀ w ∈ (start radius).places, Round radius w := by
  apply forall_mem_places (round_start hr)
  intro w hw hle hround
  obtain ⟨hx, hsum⟩ := le_of_mem_places hw
  have hy := y_le_of_mem_places hw
  simp only [start] at hx hsum hy
  exact hround.next hr hx (by omega) hy hle

/-- The eight points of a place are as far from the center as the place. -/
theorem squared_of_mem_octants {center p : Point} (h : p ∈ w.octants center) :
    (p.x - center.x) ^ 2 + (p.y - center.y) ^ 2 = w.squared := by
  simp only [octants, List.mem_cons, List.not_mem_nil, or_false] at h
  rcases h with rfl | rfl | rfl | rfl | rfl | rfl | rfl | rfl <;> simp only [squared] <;> ring

end CircleWalk

namespace Canvas

variable {c : Canvas} {center : Point} {radius : Int}

theorem squared_of_mem_outline (hr : 1 ≤ radius) {q : Point} (hq : q ∈ outline center radius) :
    (radius - 2) ^ 2 ≤ (q.x - center.x) ^ 2 + (q.y - center.y) ^ 2 ∧
      (q.x - center.x) ^ 2 + (q.y - center.y) ^ 2 ≤ (radius + 1) ^ 2 := by
  obtain ⟨w, hw, hq⟩ := List.mem_flatMap.mp hq
  have hround := CircleWalk.round_of_mem_places hr w hw
  have houter : (radius + 1) ^ 2 = radius ^ 2 + 2 * radius + 1 := by ring
  have hhigh := hround.squared_le
  rw [CircleWalk.squared_of_mem_octants hq]
  exact ⟨hround.le_squared, by omega⟩

/-- The points of a circle straight above, below and beside its center. -/
def poles (center : Point) (radius : Int) : List Point :=
  [⟨center.x + radius, center.y⟩, ⟨center.x - radius, center.y⟩, ⟨center.x, center.y + radius⟩,
    ⟨center.x, center.y - radius⟩]

theorem mem_outline_of_mem_poles {q : Point} (h : q ∈ poles center radius) :
    q ∈ outline center radius := by
  refine List.mem_flatMap.mpr ⟨.start radius, CircleWalk.mem_places_self _, ?_⟩
  simp only [poles, List.mem_cons, List.not_mem_nil, or_false] at h
  simp only [CircleWalk.start, CircleWalk.octants, Int.add_zero, Int.sub_zero, List.mem_cons,
    List.not_mem_nil, or_false]
  tauto

/-- A brush that reaches no other cell stamps single points. -/
theorem square_zero_iff {p q : Point} : Square 0 p q ↔ q = p := by
  rw [Square, Point.mk.injEq]
  omega

/-- A circle drawn cell by cell paints its outline, which keeps to the true circle and has all four
poles. -/
theorem drawCircle_keeps_to_circle (hc : c.Contains center) (hr : 1 ≤ radius) (color : Color) :
    Painted (· ∈ outline center radius) color c (c.drawCircle center radius color 1) ∧
      (∀ q ∈ outline center radius,
        (radius - 2) ^ 2 ≤ (q.x - center.x) ^ 2 + (q.y - center.y) ^ 2 ∧
          (q.x - center.x) ^ 2 + (q.y - center.y) ^ 2 ≤ (radius + 1) ^ 2) ∧
      ∀ q ∈ poles center radius, q ∈ outline center radius := by
  refine ⟨?_, fun q => squared_of_mem_outline hr, fun q => mem_outline_of_mem_poles⟩
  apply (painted_drawCircle hc radius color 1).congr
  intro q _
  have hhalf : brushHalf 1 = 0 := by decide
  simp [hhalf, square_zero_iff]

/-- A circle around a cell next to the corner, of which the canvas holds two poles. -/
theorem drawCircle_keeps_to_circle_near_corner :
    ((blank 9).Contains ⟨1, 2⟩ ∧ (1 : Int) ≤ 3) ∧
      Painted (· ∈ outline ⟨1, 2⟩ 3) .red (blank 9) ((blank 9).drawCircle ⟨1, 2⟩ 3 .red 1) ∧
      (∀ q ∈ outline ⟨1, 2⟩ 3, (3 - 2) ^ 2 ≤ (q.x - 1) ^ 2 + (q.y - 2) ^ 2 ∧
        (q.x - 1) ^ 2 + (q.y - 2) ^ 2 ≤ (3 + 1) ^ 2) ∧
      ∀ q ∈ poles ⟨1, 2⟩ 3, q ∈ outline ⟨1, 2⟩ 3 := by
  have hc : (blank 9).Contains ⟨1, 2⟩ := by decide
  exact ⟨⟨hc, by decide⟩, drawCircle_keeps_to_circle hc (by decide) .red⟩

end Canvas

end PaintRobot
