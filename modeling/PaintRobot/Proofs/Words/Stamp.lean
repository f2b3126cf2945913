import PaintRobot.Canvas.Stamp
import PaintRobot.Proofs.Words.Basic

/-!
Stamps on machine words. The edges of a square are worked out on sixty-four bits, which hold them
for every brush and every point that drawing stamps at.
-/
namespace PaintRobot.Words

/-- A point whose coordinates have been cut down to short words. -/
def narrow (w : Words) (p : Point) : Option Point := do
  let x ← w.short p.x
  let y ← w.short p.y
  return ⟨x, y⟩

/-- Stamps the square around a point; tells whether it has the whole canvas in it. -/
def stamp (w : Words) (half : Int) (color : Color) (p : Point) (c : Canvas) :
    Option (Canvas × Bool) := do
  let last ← w.long (c.side - 1)
  let left ← w.long (p.x - half)
  let right ← w.long (p.x + half)
  let top ← w.long (p.y - half)
  let bottom ← w.long (p.y + half)
  let rows := Canvas.span (max top 0) (min bottom last)
  let columns := Canvas.span (max left 0) (min right last)
  let cells ← (rows.flatMap fun y => columns.map fun x => ⟨x, y⟩).mapM w.narrow
  return (c.paint color cells, left ≤ 0 && top ≤ 0 && last ≤ right && last ≤ bottom)

/-- Stamps at the points of a path in turn, up to one whose square covers the canvas. -/
def stampAlong (w : Words) (half : Int) (color : Color) :
    List Point → Canvas → Option (Canvas × Bool)
  | [], c => some (c, false)
  | p :: path, c => do
    let (c, covered) ← w.stamp half color p c
    if covered then return (c, true) else w.stampAlong half color path c

/-- Points from which a stamp is worked out without leaving sixty-four bits. -/
def Near (p : Point) : Prop := (-2 ^ 33 ≤ p.x ∧ p.x ≤ 2 ^ 33) ∧ -2 ^ 33 ≤ p.y ∧ p.y ≤ 2 ^ 33

/-- Halves of brushes. -/
def IsHalf (half : Int) : Prop := -2 ^ 31 ≤ half ∧ half ≤ 2 ^ 31

variable {w : Words} (hw : w.Exact) {c : Canvas} {half : Int} {color : Color} {p : Point}

theorem isHalf_brushHalf {size : Int} (h : IsShort size) : IsHalf (Canvas.brushHalf size) := by
  unfold IsShort at h
  have habs : (size.tdiv 2).natAbs = size.natAbs / 2 := Int.natAbs_tdiv size 2
  unfold IsHalf Canvas.brushHalf
  omega

include hw

theorem narrow_eq (hside : c.side ≤ 2 ^ 31) (hp : c.Contains p) : w.narrow p = some p := by
  unfold Canvas.Contains at hp
  simp (disch := omega) only [narrow, hw.short, Option.bind_eq_bind, Option.bind_some]
  rfl

theorem mapM_narrow {points : List Point} (hside : c.side ≤ 2 ^ 31)
    (hpoints : ∀ p ∈ points, c.Contains p) : points.mapM w.narrow = some points := by
  induction points with
  | nil => rfl
  | cons p points ih =>
    rw [List.mapM_cons, narrow_eq hw hside (hpoints p List.mem_cons_self),
      ih fun q hq => hpoints q (List.mem_cons_of_mem _ hq)]
    rfl

theorem stamp_eq (hside : c.side ≤ 2 ^ 31) (hhalf : IsHalf half) (hp : Near p) :
    w.stamp half color p c = some (c.stamp half color p, c.coveredFrom half p) := by
  have hcells : (c.box (p.squareLow half) (p.squareHigh half)).mapM w.narrow =
      some (c.box (p.squareLow half) (p.squareHigh half)) :=
    mapM_narrow hw hside fun q hq => (Canvas.mem_box.mp hq).1
  simp only [Canvas.box, Point.squareLow, Point.squareHigh] at hcells
  unfold Near at hp
  unfold IsHalf at hhalf
  simp (disch := omega) only [stamp, hw.long, Option.bind_eq_bind, Option.bind_some, hcells]
  rfl

theorem stampAlong_eq {path : List Point} (hside : c.side ≤ 2 ^ 31) (hhalf : IsHalf half)
    (hpath : ∀ p ∈ path, Near p) :
    w.stampAlong half color path c = some (Canvas.stampAlong half color path c) := by
  induction path generalizing c with
  | nil => rfl
  | cons p path ih =>
    rw [stampAlong, stamp_eq hw hside hhalf (hpath p List.mem_cons_self), Canvas.stampAlong,
      Option.bind_eq_bind, Option.bind_some]
    simp only
    split
    · rfl
    · exact ih (by simpa using hside) fun q hq => hpath q (List.mem_cons_of_mem _ hq)

end PaintRobot.Words
