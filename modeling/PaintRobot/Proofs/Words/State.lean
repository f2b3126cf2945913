import PaintRobot.Proofs.Command.Effects
import PaintRobot.Proofs.Words.Circle
import PaintRobot.Proofs.Words.Line

/-!
What commands ask and change, on machine words. Only the way to a place is worked out with a check
of each result; the corners of a rectangle, the size of a brush and all drawing rely on what has
been asked before.
-/
namespace PaintRobot.Words

/-! ### Questions -/

/-- Where a number of steps leads along one axis, if the way and the place fit. -/
def ahead? (start direction steps : Int) : Option Int := do
  let way ← checked.short (direction * steps)
  checked.short (start + way)

/-- The cell that lies a number of steps in a direction from the robot. -/
def destination (s : State) (direction : Int × Int) (steps : Int) : Except Cause Point :=
  match ahead? s.cursor.position.x direction.1 steps,
    ahead? s.cursor.position.y direction.2 steps with
  | some x, some y => do
    s.requireInside ⟨x, y⟩
    return ⟨x, y⟩
  | _, _ => .error .overflow

/-- Where a line ends. -/
def lineEnd (s : State) (dx dy distance : Expr) : ExceptT Cause Option Point := do
  let direction ← s.directions dx dy
  let steps ← s.distance distance
  destination s direction steps

/-- The center of a circle and its radius. -/
def circleAt (s : State) (dx dy radius : Expr) : ExceptT Cause Option (Point × Int) := do
  let direction ← s.directions dx dy
  let radius ← radius.integer s
  if radius < 1 then throw .radiusNotPositive
  let center ← destination s direction radius
  return (center, radius)

/-- The rectangle of a width and a height around a middle. -/
def around (w : Words) (center : Point) (width height : Int) : Option Rectangle := do
  let left ← w.short (center.x - width.tdiv 2)
  let top ← w.short (center.y - height.tdiv 2)
  let right ← w.short (left + width)
  let right ← w.short (right - 1)
  let bottom ← w.short (top + height)
  let bottom ← w.short (bottom - 1)
  return ⟨center, ⟨left, top⟩, ⟨right, bottom⟩⟩

/-- The rectangle to draw. Its middle is known to be on the canvas before its corners are worked
out. -/
def rectangleAt (w : Words) (s : State) (dx dy distance width height : Expr) :
    ExceptT Cause Option Rectangle := do
  let direction ← s.directions dx dy
  let steps ← s.distance distance
  let width ← width.integer s
  let height ← height.integer s
  if width < 1 ∨ height < 1 then throw .sidesNotPositive
  let center ← destination s direction steps
  let r ← w.around center width height
  s.requireInside r.low
  s.requireInside r.high
  return r

/-! ### Changes -/

/-- A brush that has a middle. -/
def withSize (w : Words) (b : Brush) (size : Int) : Option Brush := do
  if size % 2 = 0 then
    let size ← w.short (size - 1)
    return { b with size := size }
  else return { b with size := size }

/-- Draws a line with the brush. -/
noncomputable def strokeLine (w : Words) (s : State) (a b : Point) : Option State := do
  let canvas ← w.drawLine s.canvas a b s.brush.color s.brush.size
  return { s with canvas := canvas }

/-- Draws the outline of a circle with the brush. -/
noncomputable def strokeCircle (w : Words) (s : State) (center : Point) (radius : Int) :
    Option State := do
  let canvas ← w.drawCircle s.canvas center radius s.brush.color s.brush.size
  return { s with canvas := canvas }

/-- Draws the sides of a rectangle with the brush. -/
noncomputable def strokeRectangle (w : Words) (s : State) (r : Rectangle) : Option State :=
  r.sides.foldlM (fun s side => w.strokeLine s side.1 side.2) s

/-! ### Questions get the same answers -/

theorem isShort_of_integer {s : State} {e : Expr} {n : Int} (h : e.integer s = .ok n) :
    IsShort n := by
  obtain ⟨v, -, h⟩ := bind_eq_ok_iff.mp h
  obtain ⟨m, -, rfl⟩ := map_eq_ok_iff.mp h
  exact ⟨m.le_toInt, m.toInt_lt⟩

theorem of_requireDirection {n : Int} {u : Unit} (h : State.requireDirection n = .ok u) :
    -1 ≤ n ∧ n ≤ 1 := by
  unfold State.requireDirection at h
  split at h
  · assumption
  · cases h

variable {s : State} {d : Int × Int} {n : Int}

theorem isDirection_of_directions {dx dy : Expr} (h : s.directions dx dy = .ok d) :
    IsDirection d := by
  obtain ⟨x, -, h⟩ := bind_eq_ok_iff.mp h
  obtain ⟨y, -, h⟩ := bind_eq_ok_iff.mp h
  obtain ⟨_, hx, h⟩ := bind_eq_ok_iff.mp h
  obtain ⟨_, hy, h⟩ := bind_eq_ok_iff.mp h
  cases h
  exact ⟨of_requireDirection hx, of_requireDirection hy⟩

theorem of_distance {e : Expr} (h : s.distance e = .ok n) : 0 ≤ n ∧ IsShort n := by
  obtain ⟨m, hm, h⟩ := bind_eq_ok_iff.mp h
  split at h
  · cases h
  · cases h
    exact ⟨by omega, isShort_of_integer hm⟩

theorem isShort_of_brushSize {e : Expr} (h : s.brushSize e = .ok n) : IsShort n := by
  obtain ⟨m, hm, h⟩ := bind_eq_ok_iff.mp h
  split at h
  · cases h
  · cases h
    exact isShort_of_integer hm

theorem checked_short (n : Int) :
    checked.short n = if Number.fitsInteger n then some n else none := by
  have hiff : IsShort n ↔ Number.fitsInteger n = true := by
    simp only [IsShort, Number.fitsInteger, Bool.and_eq_true, decide_eq_true_eq]
    omega
  simp only [checked, hiff]

/-- A way in a direction fits if its length does, so only the place at its end is ever lost. -/
theorem ahead?_eq {start direction : Int} (hd : -1 ≤ direction ∧ direction ≤ 1) (hn : 0 ≤ n)
    (hshort : IsShort n) : ahead? start direction n = checked.short (start + direction * n) := by
  obtain ⟨hlow, hhigh⟩ := hshort
  have hway : checked.short (direction * n) = some (direction * n) := by
    obtain rfl | rfl | rfl : direction = -1 ∨ direction = 0 ∨ direction = 1 := by omega
    all_goals exact exact_checked.short _ (by omega) (by omega)
  rw [ahead?, hway, Option.bind_eq_bind, Option.bind_some]

theorem destination_eq (hd : IsDirection d) (hn : 0 ≤ n) (hshort : IsShort n) :
    destination s d n = s.destination d n := by
  rw [destination, ahead?_eq hd.1 hn hshort, ahead?_eq hd.2 hn hshort, checked_short,
    checked_short, State.destination]
  by_cases hx : Number.fitsInteger (s.cursor.position.x + d.1 * n) = true
  · by_cases hy : Number.fitsInteger (s.cursor.position.y + d.2 * n) = true
    · simp only [hx, hy]
      rfl
    · simp only [hx, hy]
      rfl
  · simp only [hx]
    rfl

variable {α β : Type}

theorem run_lift_bind {x : Except Cause α} {f : α → ExceptT Cause Option β}
    {g : α → Except Cause β} (h : ∀ a, x = .ok a → (f a).run = some (g a)) :
    ((liftM x : ExceptT Cause Option α) >>= f).run = some (x >>= g) := by
  cases x with
  | ok a => exact h a rfl
  | error cause => rfl

theorem run_lineEnd (s : State) (dx dy distance : Expr) :
    (lineEnd s dx dy distance).run = some (s.lineEnd dx dy distance) := by
  refine run_lift_bind fun d hd => run_lift_bind fun n hn => ?_
  obtain ⟨hpos, hshort⟩ := of_distance hn
  rw [destination_eq (isDirection_of_directions hd) hpos hshort]
  rfl

theorem run_circleAt (s : State) (dx dy radius : Expr) :
    (circleAt s dx dy radius).run = some (s.circleAt dx dy radius) := by
  refine run_lift_bind fun d hd => run_lift_bind fun r hr => ?_
  simp only
  split
  · rfl
  · rw [destination_eq (isDirection_of_directions hd) (by omega) (isShort_of_integer hr)]
    exact run_lift_bind fun _ _ => rfl

section

variable {w : Words} (hw : w.Exact)

include hw

theorem around_eq {c : Canvas} {center : Point} {width height : Int} (hside : c.side ≤ 2 ^ 29)
    (hcenter : c.Contains center) (hwidth : 1 ≤ width ∧ IsShort width)
    (hheight : 1 ≤ height ∧ IsShort height) :
    w.around center width height = some (.around center width height) := by
  unfold Canvas.Contains at hcenter
  unfold IsShort at hwidth hheight
  rw [around, Int.tdiv_eq_ediv_of_nonneg (by omega), Int.tdiv_eq_ediv_of_nonneg (by omega)]
  simp (disch := omega) only [hw.short, Option.bind_eq_bind, Option.bind_some]
  rfl

omit hw in
/-- On a canvas with twice as many columns the right edge of a rectangle can be lost. -/
example : checked.around ⟨2 ^ 30, 0⟩ (2 ^ 31 - 1) 1 = none := by decide

theorem run_rectangleAt (hside : s.canvas.side ≤ 2 ^ 29) (dx dy distance width height : Expr) :
    (w.rectangleAt s dx dy distance width height).run =
      some (s.rectangleAt dx dy distance width height) := by
  refine run_lift_bind fun d hd => run_lift_bind fun n hn => run_lift_bind fun width hwidth =>
    run_lift_bind fun height hheight => ?_
  obtain ⟨hpos, hshort⟩ := of_distance hn
  simp only
  split
  · rfl
  · rw [destination_eq (isDirection_of_directions hd) hpos hshort]
    refine run_lift_bind fun center hcenter => ?_
    have hinside := State.contains_of_destination hcenter
    rw [around_eq hw hside hinside ⟨by omega, isShort_of_integer hwidth⟩
      ⟨by omega, isShort_of_integer hheight⟩]
    exact run_lift_bind fun _ _ => run_lift_bind fun _ _ => rfl

end

/-! ### Changes are the same -/

@[simp] theorem side_strokeLine (s : State) (a b : Point) :
    (s.strokeLine a b).canvas.side = s.canvas.side :=
  (Canvas.painted_drawLine s.canvas a b s.brush.color s.brush.size).side

theorem ways_le_of_contains {c : Canvas} {a b : Point} (ha : c.Contains a) (hb : c.Contains b) :
    a.columnsTo b ≤ c.side ∧ a.rowsTo b ≤ c.side := by
  unfold Canvas.Contains at ha hb
  unfold Point.columnsTo Point.rowsTo
  omega

theorem contains_of_mem_sides {c : Canvas} {r : Rectangle} (hlow : c.Contains r.low)
    (hhigh : c.Contains r.high) : ∀ side ∈ r.sides, c.Contains side.1 ∧ c.Contains side.2 := by
  simp only [Rectangle.sides, List.forall_mem_cons, List.not_mem_nil, false_imp_iff, implies_true,
    and_true, Canvas.Contains] at hlow hhigh ⊢
  omega

variable {w : Words} (hw : w.Exact)

include hw

theorem withSize_eq {b : Brush} (hn : 1 ≤ n) (hshort : IsShort n) :
    w.withSize b n = some (b.withSize n) := by
  obtain ⟨-, hhigh⟩ := hshort
  unfold withSize Brush.withSize
  split
  · rw [hw.short _ (by omega) (by omega)]
    rfl
  · rfl

theorem strokeLine_eq {a b : Point} (hside : s.canvas.side ≤ 2 ^ 29)
    (hbrush : IsShort s.brush.size) (ha : s.canvas.Contains a) (hb : s.canvas.Contains b) :
    w.strokeLine s a b = some (s.strokeLine a b) := by
  have hside' : s.canvas.side ≤ 2 ^ 31 := by omega
  obtain ⟨hx, hy⟩ := ways_le_of_contains ha hb
  rw [strokeLine, drawLine_eq hw (isNarrow_of_contains hside' ha) (isNarrow_of_contains hside' hb)
    (hx.trans hside) (hy.trans hside) hbrush hside']
  rfl

theorem strokeCircle_eq {center : Point} {r : Int} (hpos : 1 ≤ r) (hr : IsShort r)
    (hside : s.canvas.side ≤ 2 ^ 29) (hbrush : IsShort s.brush.size)
    (hcenter : s.canvas.Contains center) :
    w.strokeCircle s center r = some (s.strokeCircle center r) := by
  rw [strokeCircle, drawCircle_eq hw hpos hr hbrush hside hcenter]
  rfl

theorem strokeLines_eq {sides : List (Point × Point)}
    (hinside : ∀ side ∈ sides, s.canvas.Contains side.1 ∧ s.canvas.Contains side.2)
    (hside : s.canvas.side ≤ 2 ^ 29) (hbrush : IsShort s.brush.size) :
    sides.foldlM (fun s side => w.strokeLine s side.1 side.2) s =
      some (sides.foldl (fun s side => s.strokeLine side.1 side.2) s) := by
  induction sides generalizing s with
  | nil => rfl
  | cons side sides ih =>
    obtain ⟨ha, hb⟩ := hinside side List.mem_cons_self
    rw [List.foldlM_cons, strokeLine_eq hw hside hbrush ha hb, Option.bind_eq_bind,
      Option.bind_some, List.foldl_cons]
    apply ih
    · intro other h
      simpa [Canvas.Contains] using hinside other (List.mem_cons_of_mem _ h)
    · rw [side_strokeLine]
      exact hside
    · exact hbrush

theorem strokeRectangle_eq {r : Rectangle} (hside : s.canvas.side ≤ 2 ^ 29)
    (hbrush : IsShort s.brush.size) (hlow : s.canvas.Contains r.low)
    (hhigh : s.canvas.Contains r.high) :
    w.strokeRectangle s r = some (s.strokeRectangle r) :=
  strokeLines_eq hw (contains_of_mem_sides hlow hhigh) hside hbrush

end PaintRobot.Words
