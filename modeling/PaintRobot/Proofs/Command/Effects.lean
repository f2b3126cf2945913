import PaintRobot.Proofs.Canvas.Enclosure
import PaintRobot.Proofs.Command.Failures

/-!
What commands do. One that succeeds has learned what it needs of the state and does one of a few
things to it; in particular it changes the canvas in no other way than by giving some cells the
color of the brush.
-/
namespace PaintRobot

namespace State

variable {s : State}

theorem contains_of_spawnPoint {x y : Expr} {p : Point} (h : s.spawnPoint x y = .ok p) :
    s.canvas.Contains p := by
  obtain ⟨m, -, h⟩ := bind_eq_ok_iff.mp h
  obtain ⟨n, -, h⟩ := bind_eq_ok_iff.mp h
  split at h
  · cases h
    assumption
  · cases h

theorem one_le_of_brushSize {e : Expr} {n : Int} (h : s.brushSize e = .ok n) : 1 ≤ n := by
  obtain ⟨m, -, h⟩ := bind_eq_ok_iff.mp h
  split at h
  · cases h
  · cases h
    omega

theorem contains_of_lineEnd {dx dy distance : Expr} {p : Point}
    (h : s.lineEnd dx dy distance = .ok p) : s.canvas.Contains p := by
  obtain ⟨d, -, h⟩ := bind_eq_ok_iff.mp h
  obtain ⟨n, -, h⟩ := bind_eq_ok_iff.mp h
  exact contains_of_destination h

theorem contains_of_rectangleAt {dx dy distance width height : Expr} {r : Rectangle}
    (h : s.rectangleAt dx dy distance width height = .ok r) : s.canvas.Contains r.center := by
  obtain ⟨m, n, -, -, hm, hn, hr, hlow, hhigh⟩ := of_rectangleAt h
  have hspan := Rectangle.around_spans r.center hm hn
  rw [← hr] at hspan
  simp only [Canvas.Contains] at hlow hhigh ⊢
  omega

end State

namespace Exec

theorem withBrush_eq_ok_iff {next : Exec Transfer} {s s' : State} {t : Transfer} :
    withBrush next s = .ok t s' ↔
      s.brush.color = .transparent ∧ t = .next ∧ s' = s ∨
        s.brush.color ≠ .transparent ∧ next s = .ok t s' := by
  rw [withBrush, get_bind_apply]
  by_cases hbrush : s.brush.color = .transparent
  · rw [if_pos (by simpa [Brush.isTransparent] using hbrush)]
    simp [hbrush, pure, EStateM.pure, eq_comm]
  · rw [if_neg (by simpa [Brush.isTransparent] using hbrush)]
    simp [hbrush]

end Exec

namespace Command

open Exec

/-- Whether a command paints with the brush. -/
def paints : Command → Bool
  | drawLine .. | drawCircle .. | drawRectangle .. | fill => true
  | _ => false

/-- What a command that succeeds in a state does to it, and where the program goes on. -/
inductive Effect (s : State) : Command → Transfer → State → Prop where
  | spawn {x y : Expr} {p : Point} (hnew : s.cursor.spawned = false)
      (hp : s.spawnPoint x y = .ok p) :
      Effect s (spawn x y) .next { s with cursor := ⟨true, p⟩ }
  | color {c : Color} (hready : s.cursor.spawned = true) :
      Effect s (color c) .next { s with brush := { s.brush with color := c } }
  | size {e : Expr} {n : Int} (hready : s.cursor.spawned = true) (hn : s.brushSize e = .ok n) :
      Effect s (size e) .next { s with brush := s.brush.withSize n }
  | invisible {c : Command} (hready : s.cursor.spawned = true) (hpaints : c.paints = true)
      (hbrush : s.brush.color = .transparent) : Effect s c .next s
  | drawLine {dx dy distance : Expr} {stop : Point} (hready : s.cursor.spawned = true)
      (hbrush : s.brush.color ≠ .transparent) (hstop : s.lineEnd dx dy distance = .ok stop) :
      Effect s (drawLine dx dy distance) .next
        ((s.strokeLine s.cursor.position stop).moveTo stop)
  | drawCircle {dx dy radius : Expr} {center : Point} {r : Int}
      (hready : s.cursor.spawned = true) (hbrush : s.brush.color ≠ .transparent)
      (hat : s.circleAt dx dy radius = .ok (center, r)) :
      Effect s (drawCircle dx dy radius) .next ((s.strokeCircle center r).moveTo center)
  | drawRectangle {dx dy distance width height : Expr} {r : Rectangle}
      (hready : s.cursor.spawned = true) (hbrush : s.brush.color ≠ .transparent)
      (hat : s.rectangleAt dx dy distance width height = .ok r) :
      Effect s (drawRectangle dx dy distance width height) .next
        ((s.strokeRectangle r).moveTo r.center)
  | fill (hready : s.cursor.spawned = true) (hbrush : s.brush.color ≠ .transparent) :
      Effect s fill .next { s with canvas := (s.canvas.fill s.cursor.position s.brush.color).1 }
  | goTo {target : Nat} {condition : Expr} {v : Value} (hv : condition.eval s = .ok v) :
      Effect s (goTo target condition) (if v.isTrue then .jump target else .next) s
  | assign {name : String} {e : Expr} {v : Value} (hv : e.eval s = .ok v) :
      Effect s (assign name e) .next { s with vars := s.vars.store name v }

variable {s s' : State} {c : Command} {t : Transfer}

theorem spawned_of_requireReady {verb : Verb} {u : Unit}
    (h : s.requireReady (some verb) = .ok u) : s.cursor.spawned = decide (verb ≠ .spawn) := by
  cases hs : s.cursor.spawned <;> cases verb <;> simp [State.requireReady, hs] at h ⊢

theorem effect_of_execute (h : c.execute s = .ok t s') : Effect s c t s' := by
  obtain ⟨_, hready, h⟩ := ask_bind_eq_ok_iff.mp h
  cases c with
  | spawn x y =>
    obtain ⟨p, hp, h⟩ := ask_bind_eq_ok_iff.mp h
    cases h
    exact .spawn (spawned_of_requireReady hready) hp
  | color =>
    cases h
    exact .color (spawned_of_requireReady hready)
  | size =>
    obtain ⟨n, hn, h⟩ := ask_bind_eq_ok_iff.mp h
    cases h
    exact .size (spawned_of_requireReady hready) hn
  | drawLine =>
    obtain ⟨hbrush, rfl, rfl⟩ | ⟨hbrush, h⟩ := withBrush_eq_ok_iff.mp h
    · exact .invisible (spawned_of_requireReady hready) rfl hbrush
    · obtain ⟨stop, hstop, h⟩ := ask_bind_eq_ok_iff.mp h
      cases h
      exact .drawLine (spawned_of_requireReady hready) hbrush hstop
  | drawCircle =>
    obtain ⟨hbrush, rfl, rfl⟩ | ⟨hbrush, h⟩ := withBrush_eq_ok_iff.mp h
    · exact .invisible (spawned_of_requireReady hready) rfl hbrush
    · obtain ⟨⟨center, r⟩, hat, h⟩ := ask_bind_eq_ok_iff.mp h
      cases h
      exact .drawCircle (spawned_of_requireReady hready) hbrush hat
  | drawRectangle =>
    obtain ⟨hbrush, rfl, rfl⟩ | ⟨hbrush, h⟩ := withBrush_eq_ok_iff.mp h
    · exact .invisible (spawned_of_requireReady hready) rfl hbrush
    · obtain ⟨r, hat, h⟩ := ask_bind_eq_ok_iff.mp h
      cases h
      exact .drawRectangle (spawned_of_requireReady hready) hbrush hat
  | fill =>
    obtain ⟨hbrush, rfl, rfl⟩ | ⟨hbrush, h⟩ := withBrush_eq_ok_iff.mp h
    · exact .invisible (spawned_of_requireReady hready) rfl hbrush
    · cases h
      exact .fill (spawned_of_requireReady hready) hbrush
  | goTo =>
    obtain ⟨v, hv, h⟩ := ask_bind_eq_ok_iff.mp h
    cases h
    exact .goTo hv
  | assign =>
    obtain ⟨v, hv, h⟩ := ask_bind_eq_ok_iff.mp h
    cases h
    exact .assign hv

/-- A command leaves the canvas as it is, or gives some of its cells the color of the brush. -/
theorem Effect.canvas_eq_or_painted (h : Effect s c t s') :
    s'.canvas = s.canvas ∨ s.brush.color ≠ .transparent ∧
      ∃ area, Canvas.Painted area s.brush.color s.canvas s'.canvas := by
  cases h with
  | spawn | color | size | invisible | goTo | assign => exact .inl rfl
  | drawLine _ hbrush _ => exact .inr ⟨hbrush, _, Canvas.painted_drawLine ..⟩
  | drawCircle _ hbrush hat =>
    have hcenter := (State.of_circleAt hat).2.2
    exact .inr ⟨hbrush, _, Canvas.painted_drawCircle hcenter ..⟩
  | drawRectangle _ hbrush _ => exact .inr ⟨hbrush, _, s.painted_strokeLines _⟩
  | fill _ hbrush => exact .inr ⟨hbrush, _, Canvas.painted_fill ..⟩

/-- Where a command puts the robot there is a cell. -/
theorem Effect.cursor_eq_or_contains (h : Effect s c t s') :
    s'.cursor = s.cursor ∨
      s'.cursor.spawned = true ∧ s.canvas.Contains s'.cursor.position := by
  cases h with
  | color | size | invisible | fill | goTo | assign => exact .inl rfl
  | spawn _ hp => exact .inr ⟨rfl, State.contains_of_spawnPoint hp⟩
  | drawLine hready _ hstop => exact .inr ⟨hready, State.contains_of_lineEnd hstop⟩
  | drawCircle hready _ hat => exact .inr ⟨hready, (State.of_circleAt hat).2.2⟩
  | drawRectangle hready _ hat => exact .inr ⟨hready, State.contains_of_rectangleAt hat⟩

/-- The brush keeps its size or gets one from a size of at least one. -/
theorem Effect.brush_size_eq (h : Effect s c t s') :
    s'.brush.size = s.brush.size ∨ ∃ n, 1 ≤ n ∧ s'.brush.size = (s.brush.withSize n).size := by
  cases h with
  | spawn | color | invisible | drawLine | drawCircle | drawRectangle | fill | goTo | assign =>
    exact .inl rfl
  | size _ hn => exact .inr ⟨_, State.one_le_of_brushSize hn, rfl⟩

/-- Only a jump goes on elsewhere than on the next line. -/
theorem Effect.eq_goTo_of_jump {target : Nat} (h : Effect s c (.jump target) s') :
    ∃ condition, c = Command.goTo target condition := by
  generalize ht : Transfer.jump target = t at h
  cases h with
  | goTo =>
    split at ht
    · cases ht
      exact ⟨_, rfl⟩
    · cases ht
  | _ => cases ht

end Command

end PaintRobot
