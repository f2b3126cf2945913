import PaintRobot.Command.Execute
import PaintRobot.Proofs.Canvas.Circle
import PaintRobot.Proofs.Canvas.Fill
import PaintRobot.Proofs.Canvas.Line
import Mathlib.Algebra.Order.Group.Unbundled.Int

/-!
Outlines without gaps. A path of neighbours from the inside of a circle or of a rectangle does not
come out except through a point of the outline, so a region that keeps off the outline stays inside.
-/
namespace PaintRobot

namespace Canvas

variable {c d : Canvas} {target color : Color} {p q : Point} {area inside : Point → Prop}

/-- A region keeps to one side of a wall that no step from there leads through. -/
theorem Joined.stays (h : Joined c target [p] q) (hp : c.get? p = some target → inside p)
    (hstep : ∀ r s, inside r → r.Adjacent s → c.get? s = some target → inside s) : inside q := by
  induction h with
  | start hmem hc =>
    rw [List.mem_singleton.mp hmem] at hc ⊢
    exact hp hc
  | step _ hrs hc ih => exact hstep _ _ ih hrs hc

/-- What has been painted has the color of the paint. -/
theorem Painted.notMem_of_get? (h : Painted area color c d) (hq : d.get? q = some target)
    (hne : target ≠ color) : ¬area q := by
  intro ha
  rw [h.inside q (h.contains_iff.mp (contains_of_get? hq)) ha, Option.some.injEq] at hq
  exact hne hq.symm

/-- A region of another color than a wall just painted stays on its side. -/
theorem Painted.joined_stays (h : Painted area color c d) (hne : target ≠ color)
    (hj : Joined d target [p] q) (hp : ¬area p → inside p)
    (hstep : ∀ r s, inside r → r.Adjacent s → ¬area s → inside s) : inside q :=
  hj.stays (fun hc => hp (h.notMem_of_get? hc hne))
    fun r s hr hrs hc => hstep r s hr hrs (h.notMem_of_get? hc hne)

theorem square_self {half : Int} (h : 0 ≤ half) (p : Point) : Square half p p := by
  unfold Square
  omega

end Canvas

/-! ### Circles -/

namespace Point

theorem Adjacent.cases {p q : Point} (h : p.Adjacent q) :
    (q.x = p.x ∧ (q.y = p.y + 1 ∨ q.y = p.y - 1)) ∨
      (q.y = p.y ∧ (q.x = p.x + 1 ∨ q.x = p.x - 1)) := by
  unfold Adjacent at h
  omega

theorem natAbs_sub_of_step {a b c : Int} (h : b = a + 1 ∨ b = a - 1) :
    (b - c).natAbs = (a - c).natAbs + 1 ∨ (b - c).natAbs + 1 = (a - c).natAbs := by
  omega

/-- A step changes one of the two offsets, by one. -/
theorem Adjacent.offsets {p q : Point} (h : p.Adjacent q) (center : Point) :
    (shortOffset center q = shortOffset center p ∧
        (longOffset center q = longOffset center p + 1 ∨
          longOffset center q + 1 = longOffset center p)) ∨
      (longOffset center q = longOffset center p ∧
        (shortOffset center q = shortOffset center p + 1 ∨
          shortOffset center q + 1 = shortOffset center p)) := by
  unfold shortOffset longOffset
  rcases h.cases with ⟨hsame, hstep⟩ | ⟨hsame, hstep⟩
  · have hy := natAbs_sub_of_step (c := center.y) hstep
    rw [hsame]
    generalize (p.x - center.x).natAbs = a, (p.y - center.y).natAbs = b,
      (q.y - center.y).natAbs = d at *
    omega
  · have hx := natAbs_sub_of_step (c := center.x) hstep
    rw [hsame]
    generalize (p.y - center.y).natAbs = a, (p.x - center.x).natAbs = b,
      (q.x - center.x).natAbs = d at *
    omega

end Point

open Point (shortOffset longOffset)

namespace CircleWalk

theorem le_next_y (w : CircleWalk) : w.y - 1 ≤ w.next.y := by
  unfold next
  split <;> simp only <;> omega

theorem eq_of_natAbs_sub {a c k : Int} (h : (a - c).natAbs = k) : a = c + k ∨ a = c - k := by
  omega

/-- The eight points of a place are all that have its offsets. -/
theorem mem_octants {center q : Point} {w : CircleWalk} (hshort : w.x = shortOffset center q)
    (hlong : w.y = longOffset center q) : q ∈ w.octants center := by
  unfold shortOffset at hshort
  unfold longOffset at hlong
  obtain ⟨hx, hy⟩ | ⟨hx, hy⟩ :
      ((q.x - center.x).natAbs = w.x ∧ (q.y - center.y).natAbs = w.y) ∨
        ((q.x - center.x).natAbs = w.y ∧ (q.y - center.y).natAbs = w.x) := by
    generalize (q.x - center.x).natAbs = a, (q.y - center.y).natAbs = b at *
    omega
  all_goals
    obtain ⟨x, y⟩ := q
    rcases eq_of_natAbs_sub hx with rfl | rfl <;> rcases eq_of_natAbs_sub hy with rfl | rfl <;>
      simp [octants]

end CircleWalk

/-- The points below the outline of a circle: where the walk is at their shorter offset, it is still
ahead of their longer one. -/
def UnderOutline (center : Point) (radius : Int) (q : Point) : Prop :=
  ∃ w ∈ (CircleWalk.start radius).places, w.x = shortOffset center q ∧ longOffset center q < w.y

theorem underOutline_center {center : Point} {radius : Int} (hr : 0 < radius) :
    UnderOutline center radius center := by
  refine ⟨.start radius, CircleWalk.mem_places_self _, ?_, ?_⟩
  · simp [CircleWalk.start, shortOffset]
  · simpa [CircleWalk.start, longOffset] using hr

/-- The outline falls by at most one row with each column, so a step to a neighbour does not get
across it: with a longer long offset it meets the outline in the same column, with a longer short
offset in the next one, and with a shorter offset there is only more room. -/
theorem UnderOutline.step {center p q : Point} {radius : Int} (hp : UnderOutline center radius p)
    (hpq : p.Adjacent q) (hq : q ∉ Canvas.outline center radius) :
    UnderOutline center radius q := by
  obtain ⟨w, hw, hshort, hlong⟩ := hp
  have hoff : ∀ v ∈ (CircleWalk.start radius).places, v.x = shortOffset center q →
      v.y ≠ longOffset center q :=
    fun v hv hx hy => hq (List.mem_flatMap.mpr ⟨v, hv, CircleWalk.mem_octants hx hy⟩)
  have hle : shortOffset center q ≤ longOffset center q := min_le_max
  have hstep := hpq.offsets center
  unfold UnderOutline
  generalize shortOffset center p = a, longOffset center p = b, shortOffset center q = a',
    longOffset center q = b' at *
  rcases lt_trichotomy (a' : Int) w.x with hlt | heq | hgt
  · -- One column back the outline is at least as high.
    rcases CircleWalk.eq_or_exists_next_eq hw with rfl | ⟨u, hu, rfl⟩
    · simp only [CircleWalk.start] at hlt
      omega
    · have hx := u.next_x
      have hy := u.next_y_le
      exact ⟨u, hu, by omega, by omega⟩
  · have hne := hoff w hw heq.symm
    exact ⟨w, hw, heq.symm, by omega⟩
  · have hnext := CircleWalk.next_mem_places hw (by omega)
    have hx := w.next_x
    have hy := w.le_next_y
    have hne := hoff w.next hnext (by omega)
    exact ⟨w.next, hnext, by omega, by omega⟩

/-- Below the outline a point is nearer to the center than the radius along both axes. -/
theorem UnderOutline.longOffset_lt {center q : Point} {radius : Int}
    (h : UnderOutline center radius q) : longOffset center q < radius := by
  obtain ⟨w, hw, -, hlong⟩ := h
  exact Int.lt_of_lt_of_le hlong (CircleWalk.y_le_of_mem_places hw)

/-- A region that begins at the center of a circle just drawn, in another color, does not reach out
to its radius. -/
theorem Canvas.longOffset_lt_of_joined {c : Canvas} {target color : Color} {center q : Point}
    {radius size : Int} (hc : c.Contains center) (hr : 0 < radius) (hsize : 0 ≤ brushHalf size)
    (hne : target ≠ color)
    (h : Joined (c.drawCircle center radius color size) target [center] q) :
    longOffset center q < radius := by
  apply UnderOutline.longOffset_lt
  apply (painted_drawCircle hc radius color size).joined_stays hne h
  · exact fun _ => underOutline_center hr
  · intro r s hr hrs hs
    exact hr.step hrs fun hmem => hs ⟨s, hmem, square_self hsize s⟩

theorem CircleWalk.le_longOffset_of_mem_octants {center p : Point} {w : CircleWalk}
    (h : p ∈ w.octants center) : w.x + w.y ≤ 2 * longOffset center p := by
  simp only [octants, List.mem_cons, List.not_mem_nil, or_false] at h
  unfold longOffset
  rcases h with rfl | rfl | rfl | rfl | rfl | rfl | rfl | rfl <;> simp only <;> omega

/-- A circle leaves the cells alone that its brush does not reach from half the radius. -/
theorem Canvas.get?_drawCircle_of_near {c : Canvas} {center q : Point} {radius size : Int}
    (hc : c.Contains center) (color : Color)
    (hnear : 2 * (longOffset center q + brushHalf size) < radius) :
    (c.drawCircle center radius color size).get? q = c.get? q := by
  apply (painted_drawCircle hc radius color size).outside
  rintro ⟨p, hp, hsquare⟩
  obtain ⟨w, hw, hp⟩ := List.mem_flatMap.mp hp
  have hfar := CircleWalk.le_longOffset_of_mem_octants hp
  have hsum := (CircleWalk.le_of_mem_places hw).2
  simp only [CircleWalk.start] at hsum
  unfold Square at hsquare
  unfold longOffset at hnear hfar
  omega

/-! ### Rectangles -/

namespace Rectangle

/-- The points of the rectangle that lie on one of its sides. -/
def OnFrame (r : Rectangle) (q : Point) : Prop :=
  (r.low.x ≤ q.x ∧ q.x ≤ r.high.x ∧ r.low.y ≤ q.y ∧ q.y ≤ r.high.y) ∧
    (q.x = r.low.x ∨ q.x = r.high.x ∨ q.y = r.low.y ∨ q.y = r.high.y)

/-- The points strictly between the sides. -/
def Inside (r : Rectangle) (q : Point) : Prop :=
  r.low.x < q.x ∧ q.x < r.high.x ∧ r.low.y < q.y ∧ q.y < r.high.y

/-- The walks along the four sides visit the frame. -/
theorem exists_side_iff {r : Rectangle} {q : Point} (hx : r.low.x ≤ r.high.x)
    (hy : r.low.y ≤ r.high.y) :
    (∃ side ∈ r.sides, q ∈ straightWalk side.1 side.2) ↔ r.OnFrame q := by
  simp only [sides, List.mem_cons, List.not_mem_nil, or_false, exists_eq_or_imp, exists_eq_left,
    mem_straightWalk_row, mem_straightWalk_column, OnFrame]
  omega

/-- The middle of a rectangle with an extent in both directions is one of its points. -/
theorem around_spans (center : Point) {width height : Int} (hw : 1 ≤ width) (hh : 1 ≤ height) :
    let r := around center width height
    (r.low.x ≤ center.x ∧ center.x ≤ r.high.x) ∧ r.low.y ≤ center.y ∧ center.y ≤ r.high.y := by
  simp only [around]
  omega

theorem inside_or_onFrame {r : Rectangle} {q : Point}
    (h : (r.low.x ≤ q.x ∧ q.x ≤ r.high.x) ∧ r.low.y ≤ q.y ∧ q.y ≤ r.high.y) :
    r.Inside q ∨ r.OnFrame q := by
  unfold Inside OnFrame
  omega

theorem Inside.step {r : Rectangle} {p q : Point} (hp : r.Inside p) (hpq : p.Adjacent q)
    (hq : ¬r.OnFrame q) : r.Inside q := by
  have hstep := hpq.cases
  unfold Inside at hp ⊢
  unfold OnFrame at hq
  omega

end Rectangle

end PaintRobot
