import PaintRobot.Canvas.Fill
import PaintRobot.Proofs.Words.Basic

/-!
Fills on machine words. A fill looks on from cells only, so it steps out of the canvas by one point
at most, which thirty-two bits still hold.
-/
namespace PaintRobot.Words

/-- The points that share a side with a point. -/
def neighbours (w : Words) (p : Point) : Option (List Point) := do
  let right ← w.short (p.x + 1)
  let left ← w.short (p.x - 1)
  let below ← w.short (p.y + 1)
  let above ← w.short (p.y - 1)
  return [⟨p.x, above⟩, ⟨p.x, below⟩, ⟨left, p.y⟩, ⟨right, p.y⟩]

/-- One round of a fill: the canvas so far, the number of cells painted on it, and the points that
wait on the stack. -/
def fillRound (w : Words) (target color : Color) :
    Canvas × Nat × List Point → Option (Canvas × Nat ⊕ Canvas × Nat × List Point)
  | (c, n, []) => some (.inl (c, n))
  | (c, n, p :: stack) => do
    if c.get? p = some target then
      let near ← w.neighbours p
      return .inr (c.set p color, n + 1, near ++ stack)
    else return .inr (c, n, stack)

/-- Fills the region around a point; also gives the number of painted cells. -/
noncomputable def fill (w : Words) (c : Canvas) (p : Point) (color : Color) :
    Option (Canvas × Nat) :=
  match c.get? p with
  | some target =>
    if color ≠ target then loop (w.fillRound target color) (c, 0, [p]) else some (c, 0)
  | none => some (c, 0)

variable {w : Words} (hw : w.Exact) {c : Canvas} {color : Color} {p : Point}

include hw

theorem neighbours_eq (hside : c.side ≤ 2 ^ 29) (hp : c.Contains p) :
    w.neighbours p = some p.neighbours := by
  unfold Canvas.Contains at hp
  simp (disch := omega) only [neighbours, hw.short, Option.bind_eq_bind, Option.bind_some]
  rfl

theorem loop_fillRound {target : Color} {n : Nat} {stack : List Point} (hne : color ≠ target)
    (hside : c.side ≤ 2 ^ 29) :
    loop (w.fillRound target color) (c, n, stack) = some (c.spread target color hne n stack) := by
  induction c, n, stack using Canvas.spread.induct target color hne with
  | case1 c n =>
    rw [Canvas.spread]
    exact loop_of_stop rfl
  | case2 c n p stack hp ih =>
    have hround : w.fillRound target color (c, n, p :: stack) =
        some (.inr (c.set p color, n + 1, p.neighbours ++ stack)) := by
      rw [fillRound, if_pos hp, neighbours_eq hw hside (Canvas.contains_of_get? hp)]
      rfl
    rw [loop_of_goOn hround, Canvas.spread, if_pos hp]
    exact ih (by simpa using hside)
  | case3 c n p stack hp ih =>
    have hround : w.fillRound target color (c, n, p :: stack) = some (.inr (c, n, stack)) := by
      rw [fillRound, if_neg hp]
      rfl
    rw [loop_of_goOn hround, Canvas.spread, if_neg hp]
    exact ih hside

theorem fill_eq (hside : c.side ≤ 2 ^ 29) : w.fill c p color = some (c.fill p color) := by
  cases htarget : c.get? p with
  | none => simp [fill, Canvas.fill, htarget]
  | some target =>
    by_cases hne : color = target
    · simp [fill, Canvas.fill, htarget, hne]
    · simp [fill, Canvas.fill, htarget, hne, loop_fillRound hw hne hside]

end PaintRobot.Words
