import PaintRobot.Proofs.Canvas.Circle
import PaintRobot.Proofs.Words.Stamp

/-!
Circles on machine words. The walk along an eighth of the outline is worked out on sixty-four bits,
which hold its error for every radius that thirty-two bits hold.
-/
namespace PaintRobot.Words

/-- The next place of the walk along an eighth of a circle. -/
def nextOctant (w : Words) (v : CircleWalk) : Option CircleWalk := do
  let x ← w.long (v.x + 1)
  if 0 < v.error then
    let y ← w.long (v.y - 1)
    let past ← w.long (x - y)
    let past ← w.long (4 * past)
    let past ← w.long (past + 10)
    let error ← w.long (v.error + past)
    return ⟨x, y, error⟩
  else
    let past ← w.long (4 * x)
    let past ← w.long (past + 6)
    let error ← w.long (v.error + past)
    return ⟨x, v.y, error⟩

/-- The place on all eight parts of the outline. -/
def octants (w : Words) (center : Point) (v : CircleWalk) : Option (List Point) := do
  let right ← w.long (center.x + v.x)
  let left ← w.long (center.x - v.x)
  let below ← w.long (center.y + v.y)
  let above ← w.long (center.y - v.y)
  let farRight ← w.long (center.x + v.y)
  let farLeft ← w.long (center.x - v.y)
  let justBelow ← w.long (center.y + v.x)
  let justAbove ← w.long (center.y - v.x)
  return [⟨right, below⟩, ⟨left, below⟩, ⟨right, above⟩, ⟨left, above⟩, ⟨farRight, justBelow⟩,
    ⟨farLeft, justBelow⟩, ⟨farRight, justAbove⟩, ⟨farLeft, justAbove⟩]

/-- Stamps one place of a circle, if it is in reach; tells whether that covered the canvas. -/
def stampOctants (w : Words) (center : Point) (half reach : Int) (color : Color) (v : CircleWalk)
    (c : Canvas) : Option (Canvas × Bool) := do
  if v.x ≤ reach ∧ v.y ≤ reach then
    let path ← w.octants center v
    w.stampAlong half color path c
  else return (c, false)

/-- One round of drawing a circle: a place of its walk, and the canvas so far. -/
def circleRound (w : Words) (center : Point) (half reach : Int) (color : Color) :
    CircleWalk × Canvas → Option (Canvas ⊕ CircleWalk × Canvas)
  | (v, c) => do
    let (c, covered) ← w.stampOctants center half reach color v c
    if covered ∨ v.y < v.x ∨ reach < v.x then return .inl c
    let next ← w.nextOctant v
    return .inr (next, c)

/-- Draws the outline of a circle with a square brush. -/
noncomputable def drawCircle (w : Words) (c : Canvas) (center : Point) (radius : Int)
    (color : Color) (size : Int) : Option Canvas := do
  let half := Canvas.brushHalf size
  let last ← w.long (c.side - 1)
  let reach ← w.long (last + half)
  if reach < radius.tdiv 2 then return c
  let width ← w.long (2 * radius)
  let error ← w.long (3 - width)
  loop (w.circleRound center half reach color) (⟨0, radius, error⟩, c)

/-- What keeps the walk along a circle within its words: until it crosses the diagonal it stays
between the axis and the radius, and its error gains at most a fixed amount with each column. -/
structure OnCircle (radius : Int) (v : CircleWalk) : Prop where
  zero_le_x : 0 ≤ v.x
  x_le : v.x ≤ v.y + 2
  y_le : v.y ≤ radius
  le_error : -4 * radius ≤ v.error
  error_le : v.error ≤ 18 * v.x + 3

theorem onCircle_start {radius : Int} (h : 0 ≤ radius) : OnCircle radius (.start radius) := by
  constructor <;> simp only [CircleWalk.start] <;> omega

theorem OnCircle.next {radius : Int} {v : CircleWalk} (h : OnCircle radius v) (hle : v.x ≤ v.y) :
    OnCircle radius v.next := by
  obtain ⟨hx, -, hy, hlow, hhigh⟩ := h
  unfold CircleWalk.next
  -- A positive error gains at most 18, as the next place is at most two columns past the diagonal;
  -- any other is left at no more than what it gains.
  split <;> constructor <;> simp only <;> omega

section

variable {w : Words} (hw : w.Exact) {radius : Int} {center : Point} {v : CircleWalk}
  {c : Canvas} {half : Int} {color : Color}

include hw in
theorem nextOctant_eq (hr : radius ≤ 2 ^ 31) (h : OnCircle radius v) :
    w.nextOctant v = some v.next := by
  obtain ⟨hx, hxy, hy, hlow, hhigh⟩ := h
  by_cases houtside : 0 < v.error
  · simp (disch := omega) only [nextOctant, CircleWalk.next, houtside, if_true, hw.long,
      Option.bind_eq_bind, Option.bind_some, Int.add_assoc]
    rfl
  · simp (disch := omega) only [nextOctant, CircleWalk.next, houtside, if_false, hw.long,
      Option.bind_eq_bind, Option.bind_some, Int.add_assoc]
    rfl

variable (hr : radius ≤ 2 ^ 31) (hside : c.side ≤ 2 ^ 29) (hcenter : c.Contains center)
  (h : OnCircle radius v)

include hr hside hcenter h

theorem near_octants : ∀ p ∈ v.octants center, Near p := by
  obtain ⟨hx, hxy, hy, -, -⟩ := h
  unfold Canvas.Contains at hcenter
  intro p hp
  simp only [CircleWalk.octants, List.mem_cons, List.not_mem_nil, or_false] at hp
  rcases hp with rfl | rfl | rfl | rfl | rfl | rfl | rfl | rfl <;> simp only [Near] <;> omega

include hw

theorem octants_eq : w.octants center v = some (v.octants center) := by
  obtain ⟨hx, hxy, hy, -, -⟩ := h
  unfold Canvas.Contains at hcenter
  simp (disch := omega) only [octants, hw.long, Option.bind_eq_bind, Option.bind_some]
  rfl

theorem stampOctants_eq (hhalf : IsHalf half) :
    w.stampOctants center half (c.reach half) color v c =
      some (c.stampOctants center half color v) := by
  unfold stampOctants Canvas.stampOctants
  split
  · rw [octants_eq hw hr hside hcenter h, Option.bind_eq_bind, Option.bind_some]
    exact stampAlong_eq hw (by omega) hhalf (near_octants hr hside hcenter h)
  · rfl

theorem loop_circleRound (hhalf : IsHalf half) :
    loop (w.circleRound center half (c.reach half) color) (v, c) =
      some (Canvas.drawCircleFrom center half color v c) := by
  induction v, c using Canvas.drawCircleFrom.induct center half color with
  | case1 v c d covered hd hstop =>
    rw [Canvas.drawCircleFrom_of_stop hd hstop]
    apply loop_of_stop
    rw [circleRound, stampOctants_eq hw hr hside hcenter h hhalf, hd]
    exact if_pos hstop
  | case2 v c d covered hd hgo ih =>
    have hpainted := Canvas.painted_stampAll half color (v.octants center) c
    rw [← Canvas.stampOctants_fst hcenter, hd] at hpainted
    have hreach : c.reach half = d.reach half := by rw [Canvas.reach, Canvas.reach, hpainted.side]
    have hle : v.x ≤ v.y := by omega
    have hround : w.circleRound center half (c.reach half) color (v, c) =
        some (.inr (v.next, d)) := by
      rw [circleRound, stampOctants_eq hw hr hside hcenter h hhalf, hd, Option.bind_eq_bind,
        Option.bind_some]
      simp only
      rw [if_neg hgo, nextOctant_eq hw hr h]
      rfl
    rw [loop_of_goOn hround, Canvas.drawCircleFrom_of_goOn hd hgo, hreach]
    exact ih (hpainted.side ▸ hside) (hpainted.contains_iff.mpr hcenter) (h.next hle)

end

theorem drawCircle_eq {w : Words} (hw : w.Exact) {c : Canvas} {center : Point}
    {radius size : Int} {color : Color} (hpos : 1 ≤ radius) (hr : IsShort radius)
    (hsize : IsShort size) (hside : c.side ≤ 2 ^ 29) (hcenter : c.Contains center) :
    w.drawCircle c center radius color size = some (c.drawCircle center radius color size) := by
  have hhalf := isHalf_brushHalf hsize
  obtain ⟨-, hrhigh⟩ := hr
  have ⟨hlow, hhigh⟩ := hhalf
  simp (disch := omega) only [drawCircle, hw.long, Option.bind_eq_bind, Option.bind_some]
  rw [← Canvas.reach, Canvas.drawCircle]
  split
  · rfl
  · exact loop_circleRound hw (by omega) hside hcenter (onCircle_start (by omega)) hhalf

end PaintRobot.Words
