import PaintRobot.Proofs.Canvas.Enclosure

/-!
What the commands that draw an outline have done when they succeed: they have asked where it lies,
which is on the canvas as far as it has to be, have painted it, and have moved the robot to its
middle.
-/
namespace PaintRobot

theorem Exec.ask_bind_eq_ok_iff {α β : Type} {question : State → Except Cause α}
    {next : α → Exec β} {s s' : State} {b : β} :
    (Exec.ask question >>= next) s = .ok b s' ↔
      ∃ a, question s = .ok a ∧ next a s = .ok b s' := by
  simp only [bind, EStateM.bind, Exec.ask]
  cases question s <;> simp

theorem Exec.get_bind_apply {β : Type} (next : State → Exec β) (s : State) :
    (get >>= next) s = next s s := rfl

namespace State

variable {s : State} {p : Point}

theorem requireInside_eq_ok_iff {u : Unit} : s.requireInside p = .ok u ↔ s.canvas.Contains p := by
  simp [requireInside]

theorem contains_of_destination {d : Int × Int} {steps : Int}
    (h : s.destination d steps = .ok p) : s.canvas.Contains p := by
  simp only [destination] at h
  split at h
  · obtain ⟨_, hinside, h⟩ := bind_eq_ok_iff.mp h
    cases h
    exact requireInside_eq_ok_iff.mp hinside
  · cases h

/-- A circle has a radius of at least one and its center on the canvas. -/
theorem of_circleAt {dx dy radius : Expr} {center : Point} {r : Int}
    (h : s.circleAt dx dy radius = .ok (center, r)) :
    radius.integer s = .ok r ∧ 1 ≤ r ∧ s.canvas.Contains center := by
  obtain ⟨d, -, h⟩ := bind_eq_ok_iff.mp h
  obtain ⟨n, hn, h⟩ := bind_eq_ok_iff.mp h
  simp only at h
  split at h
  · cases h
  · rename_i hsmall
    obtain ⟨q, hq, h⟩ := bind_eq_ok_iff.mp h
    cases h
    exact ⟨hn, Int.not_lt.mp hsmall, contains_of_destination hq⟩

/-- A rectangle has sides of at least one cell, and two opposite corners on the canvas. -/
theorem of_rectangleAt {dx dy distance width height : Expr} {r : Rectangle}
    (h : s.rectangleAt dx dy distance width height = .ok r) :
    ∃ m n, width.integer s = .ok m ∧ height.integer s = .ok n ∧ 1 ≤ m ∧ 1 ≤ n ∧
      r = Rectangle.around r.center m n ∧ s.canvas.Contains r.low ∧ s.canvas.Contains r.high := by
  obtain ⟨d, -, h⟩ := bind_eq_ok_iff.mp h
  obtain ⟨steps, -, h⟩ := bind_eq_ok_iff.mp h
  obtain ⟨m, hm, h⟩ := bind_eq_ok_iff.mp h
  obtain ⟨n, hn, h⟩ := bind_eq_ok_iff.mp h
  simp only at h
  split at h
  · cases h
  · rename_i hsmall
    obtain ⟨center, -, h⟩ := bind_eq_ok_iff.mp h
    obtain ⟨_, hlow, h⟩ := bind_eq_ok_iff.mp h
    obtain ⟨_, hhigh, h⟩ := bind_eq_ok_iff.mp h
    cases h
    exact ⟨m, n, hm, hn, by omega, by omega, rfl, requireInside_eq_ok_iff.mp hlow,
      requireInside_eq_ok_iff.mp hhigh⟩

/-- Lines drawn one after the other are stamped along all of their walks. -/
theorem painted_strokeLines (s : State) (sides : List (Point × Point)) :
    Canvas.Painted (fun q => ∃ side ∈ sides, ∃ p ∈ straightWalk side.1 side.2,
        Canvas.Square (Canvas.brushHalf s.brush.size) p q) s.brush.color s.canvas
      (sides.foldl (fun s side => s.strokeLine side.1 side.2) s).canvas := by
  induction sides generalizing s with
  | nil => exact (Canvas.painted_none s.brush.color s.canvas).congr (by simp)
  | cons side sides ih =>
    have hfirst := Canvas.painted_drawLine s.canvas side.1 side.2 s.brush.color s.brush.size
    exact (hfirst.trans (ih (s.strokeLine side.1 side.2))).congr (by simp [strokeLine])

/-- The sides of a rectangle paint what the brush reaches from its frame. -/
theorem painted_strokeRectangle (s : State) {r : Rectangle} (hx : r.low.x ≤ r.high.x)
    (hy : r.low.y ≤ r.high.y) :
    Canvas.Painted (fun q => ∃ p, r.OnFrame p ∧ p.longOffset q ≤ Canvas.brushHalf s.brush.size)
      s.brush.color s.canvas (s.strokeRectangle r).canvas := by
  apply (s.painted_strokeLines r.sides).congr
  intro q _
  simp only [Canvas.square_iff, ← Rectangle.exists_side_iff hx hy]
  constructor
  · rintro ⟨side, hside, p, hp, hq⟩
    exact ⟨p, ⟨side, hside, hp⟩, hq⟩
  · rintro ⟨p, ⟨side, hside, hp⟩, hq⟩
    exact ⟨side, hside, p, hp, hq⟩

end State

namespace Command

variable {s s' : State} {t : Transfer}

theorem of_execute_drawCircle {dx dy radius : Expr} (hvisible : s.brush.color ≠ .transparent)
    (h : (drawCircle dx dy radius).execute s = .ok t s') :
    ∃ center r, s.circleAt dx dy radius = .ok (center, r) ∧
      s' = (s.strokeCircle center r).moveTo center := by
  have hdraws : s.brush.isTransparent = false := by simpa [Brush.isTransparent] using hvisible
  obtain ⟨_, -, h⟩ := Exec.ask_bind_eq_ok_iff.mp h
  rw [perform, Exec.get_bind_apply, if_neg (by simp [hdraws])] at h
  obtain ⟨⟨center, r⟩, hat, h⟩ := Exec.ask_bind_eq_ok_iff.mp h
  cases h
  exact ⟨center, r, hat, rfl⟩

theorem of_execute_drawRectangle {dx dy distance width height : Expr}
    (hvisible : s.brush.color ≠ .transparent)
    (h : (drawRectangle dx dy distance width height).execute s = .ok t s') :
    ∃ r, s.rectangleAt dx dy distance width height = .ok r ∧
      s' = (s.strokeRectangle r).moveTo r.center := by
  have hdraws : s.brush.isTransparent = false := by simpa [Brush.isTransparent] using hvisible
  obtain ⟨_, -, h⟩ := Exec.ask_bind_eq_ok_iff.mp h
  rw [perform, Exec.get_bind_apply, if_neg (by simp [hdraws])] at h
  obtain ⟨r, hat, h⟩ := Exec.ask_bind_eq_ok_iff.mp h
  cases h
  exact ⟨r, hat, rfl⟩

end Command

end PaintRobot
