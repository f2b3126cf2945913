import PaintRobot.Proofs.Canvas.Line
import PaintRobot.Proofs.Words.Stamp

/-!
Lines on machine words. The error of a walk stays small beside the way between its ends, so where
that is short enough there is room on thirty-two bits for it and its double.
-/
namespace PaintRobot.Words

/-- The next place of the straight walk from `a` to `b`, which are `dx` columns and `dy` rows
apart. -/
def nextPlace (w : Words) (a b : Point) (dx dy : Int) (v : LineWalk) : Option LineWalk := do
  let lean ← w.short (2 * v.error)
  let least ← w.short (-dy)
  let mut x := v.point.x
  let mut y := v.point.y
  let mut error := v.error
  if least < lean then
    error ← w.short (error - dy)
    x ← w.short (x + if a.x < b.x then 1 else -1)
  if lean < dx then
    error ← w.short (error + dx)
    y ← w.short (y + if a.y < b.y then 1 else -1)
  return ⟨⟨x, y⟩, error⟩

/-- One round of a walk, which has been at some points already and is at a place now. -/
def walkRound (w : Words) (a b : Point) (dx dy : Int) :
    List Point × LineWalk → Option (List Point ⊕ List Point × LineWalk)
  | (points, v) => do
    let points := points ++ [v.point]
    if v.point = b then return .inl points
    let next ← w.nextPlace a b dx dy v
    return .inr (points, next)

/-- The points of the straight walk from `a` to `b`. -/
noncomputable def straightWalk (w : Words) (a b : Point) : Option (List Point) := do
  let width ← w.short (b.x - a.x)
  let dx ← w.short width.natAbs
  let height ← w.short (b.y - a.y)
  let dy ← w.short height.natAbs
  let error ← w.short (dx - dy)
  loop (w.walkRound a b dx dy) ([], ⟨a, error⟩)

/-- Draws a line with a square brush. -/
noncomputable def drawLine (w : Words) (c : Canvas) (a b : Point) (color : Color) (size : Int) :
    Option Canvas := do
  let path ← w.straightWalk a b
  let (c, _) ← w.stampAlong (Canvas.brushHalf size) color path c
  return c

/-- Whether thirty-two bits hold both coordinates of a point. -/
def IsNarrow (p : Point) : Prop := IsShort p.x ∧ IsShort p.y

instance (p : Point) : Decidable (IsNarrow p) := inferInstanceAs (Decidable (_ ∧ _))

theorem IsNarrow.near {p : Point} (h : IsNarrow p) : Near p := by
  unfold IsNarrow IsShort at h
  unfold Near
  omega

theorem isNarrow_of_contains {c : Canvas} {p : Point} (hside : c.side ≤ 2 ^ 31)
    (hp : c.Contains p) : IsNarrow p := by
  unfold Canvas.Contains at hp
  unfold IsNarrow IsShort
  omega

theorem isNarrow_of_mem_straightWalk {a b p : Point} (ha : IsNarrow a) (hb : IsNarrow b)
    (hp : p ∈ PaintRobot.straightWalk a b) : IsNarrow p := by
  have hbetween := between_of_mem_straightWalk hp
  unfold IsNarrow IsShort at *
  omega

section

variable {w : Words} (hw : w.Exact) {a b : Point} (ha : IsNarrow a) (hb : IsNarrow b)
  (hx : a.columnsTo b ≤ 2 ^ 29) (hy : a.rowsTo b ≤ 2 ^ 29)

include hw hx hy

/-- The error of a walk is less than three halves of the longer side of the box between its ends. -/
theorem nextPlace_eq {v : LineWalk} (hlevel : LineWalk.Level a b v.error)
    (hnext : IsNarrow (v.next a b).point) :
    w.nextPlace a b (a.columnsTo b) (a.rowsTo b) v = some (v.next a b) := by
  have hwide := hlevel.wide
  have htall := hlevel.tall
  rw [LineWalk.next_eq] at hnext ⊢
  unfold IsNarrow IsShort at hnext
  unfold LineWalk.GoesSideways LineWalk.GoesUpright at *
  by_cases hsideways : -(a.rowsTo b : Int) < 2 * v.error <;>
    by_cases hupright : 2 * v.error < a.columnsTo b <;>
      simp only [hsideways, hupright, if_true, if_false, Int.add_zero] at hnext ⊢ <;>
        simp (disch := omega) only [nextPlace, hw.short, Option.bind_eq_bind, Option.bind_some,
          hsideways, hupright, if_true, if_false] <;> rfl

include ha hb

/-- The walk has no bound on its rounds; it ends because it gets to `b`. -/
theorem loop_walkRound_after {k steps : Nat} {points : List Point}
    (hk : k + steps = a.longOffset b) :
    loop (w.walkRound a b (a.columnsTo b) (a.rowsTo b)) (points, LineWalk.after a b k) =
      some (points ++ LineWalk.places a b (LineWalk.after a b k) steps) := by
  induction steps generalizing k points with
  | zero =>
    rw [Nat.add_zero] at hk
    subst hk
    exact loop_of_stop (if_pos (LineWalk.after_end a b))
  | succ steps ih =>
    have hgoOn : (LineWalk.after a b k).point ≠ b := LineWalk.after_ne (by omega)
    have hlevel : LineWalk.Level a b (LineWalk.after a b k).error := LineWalk.level_after (by omega)
    have hmem : (LineWalk.after a b (k + 1)).point ∈ PaintRobot.straightWalk a b :=
      mem_straightWalk_iff.mpr ⟨k + 1, by omega, rfl⟩
    have hround : w.walkRound a b (a.columnsTo b) (a.rowsTo b) (points, LineWalk.after a b k) =
        some (.inr (points ++ [(LineWalk.after a b k).point], LineWalk.after a b (k + 1))) := by
      have hnarrow := isNarrow_of_mem_straightWalk ha hb hmem
      rw [LineWalk.after_succ] at hnarrow ⊢
      rw [walkRound, if_neg hgoOn, nextPlace_eq hw hx hy hlevel hnarrow]
      rfl
    rw [loop_of_goOn hround, ih (by omega), LineWalk.places, if_neg hgoOn, ← LineWalk.after_succ,
      List.append_assoc]
    rfl

theorem straightWalk_eq : w.straightWalk a b = some (PaintRobot.straightWalk a b) := by
  unfold Point.columnsTo at hx
  unfold Point.rowsTo at hy
  simp (disch := omega) only [straightWalk, hw.short, Option.bind_eq_bind, Option.bind_some]
  exact loop_walkRound_after hw ha hb hx hy (Nat.zero_add _)

theorem drawLine_eq {c : Canvas} {color : Color} {size : Int} (hsize : IsShort size)
    (hside : c.side ≤ 2 ^ 31) :
    w.drawLine c a b color size = some (c.drawLine a b color size) := by
  have hnear : ∀ p ∈ PaintRobot.straightWalk a b, Near p :=
    fun _ hp => (isNarrow_of_mem_straightWalk ha hb hp).near
  rw [drawLine, straightWalk_eq hw ha hb hx hy, Option.bind_eq_bind, Option.bind_some,
    stampAlong_eq hw hside (isHalf_brushHalf hsize) hnear]
  rfl

end

/-- Between points that are at most `2 ^ 29` columns and rows apart the walk comes to its end on
words, and it keeps to the segment between them. A line paints the cells that its brush reaches from
the places of the walk, all of them, though it is left when a stamp has covered the canvas. -/
theorem straightWalk_follows_segment {w : Words} (hw : w.Exact) {a b : Point} (ha : IsNarrow a)
    (hb : IsNarrow b) (hx : a.columnsTo b ≤ 2 ^ 29) (hy : a.rowsTo b ≤ 2 ^ 29) :
    w.straightWalk a b = some (PaintRobot.straightWalk a b) ∧
      FollowsSegment a b (PaintRobot.straightWalk a b) ∧
      ∀ (c : Canvas) (color : Color) (size : Int), c.side < 2 ^ 31 → 1 ≤ size → IsShort size →
        w.drawLine c a b color size = some (c.drawLine a b color size) ∧
          Canvas.Painted
            (fun q => ∃ p ∈ PaintRobot.straightWalk a b, (p.longOffset q : Int) ≤ size / 2)
            color c (c.drawLine a b color size) := by
  refine ⟨straightWalk_eq hw ha hb hx hy, followsSegment_straightWalk a b, ?_⟩
  intro c color size hside hpos hsize
  refine ⟨drawLine_eq hw ha hb hx hy hsize hside.le, ?_⟩
  have hpainted := c.painted_drawLine a b color size
  simp only [Canvas.square_iff, Canvas.brushHalf_eq (by omega : 0 ≤ size)] at hpainted
  exact hpainted

/-- A walk that is not as steep as a diagonal. -/
theorem straightWalk_follows_segment_flat :
    (checked.Exact ∧ IsNarrow ⟨0, 0⟩ ∧ IsNarrow ⟨5, -2⟩ ∧
      Point.columnsTo ⟨0, 0⟩ ⟨5, -2⟩ ≤ 2 ^ 29 ∧ Point.rowsTo ⟨0, 0⟩ ⟨5, -2⟩ ≤ 2 ^ 29) ∧
    checked.straightWalk ⟨0, 0⟩ ⟨5, -2⟩ =
      some [⟨0, 0⟩, ⟨1, 0⟩, ⟨2, -1⟩, ⟨3, -1⟩, ⟨4, -2⟩, ⟨5, -2⟩] := by
  have ha : IsNarrow ⟨0, 0⟩ := by decide
  have hb : IsNarrow ⟨5, -2⟩ := by decide
  have hx : Point.columnsTo ⟨0, 0⟩ ⟨5, -2⟩ ≤ 2 ^ 29 := by decide
  have hy : Point.rowsTo ⟨0, 0⟩ ⟨5, -2⟩ ≤ 2 ^ 29 := by decide
  refine ⟨⟨exact_checked, ha, hb, hx, hy⟩, ?_⟩
  rw [(straightWalk_follows_segment exact_checked ha hb hx hy).1]
  decide

end PaintRobot.Words
