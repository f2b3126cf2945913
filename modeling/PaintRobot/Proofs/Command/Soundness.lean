import PaintRobot.Proofs.Command.Effects

/-!
States that commands keep sound: the canvas has all its cells and a color in each, the brush has a
middle, and the robot stands on the canvas once it has been spawned.
-/
namespace PaintRobot

/-- Canvas, brush and robot are as they can be in a run. -/
structure State.Sound (s : State) : Prop where
  size : s.canvas.cells.size = s.canvas.side * s.canvas.side
  opacity : Color.transparent ∉ s.canvas.cells
  modified : ∀ p, p ∈ s.canvas.modified → s.canvas.Contains p
  brush : s.brush.size % 2 = 1 ∧ 1 ≤ s.brush.size
  cursor : if s.cursor.spawned then s.canvas.Contains s.cursor.position
    else s.cursor.position = ⟨0, 0⟩

theorem State.sound_start (side : Nat) : (start side).Sound where
  size := (start side).canvas.size_cells
  opacity := by
    rw [Canvas.mem_cells_iff]
    rintro ⟨p, hp⟩
    simp [start] at hp
  modified p hp := by simp [start, Canvas.blank] at hp
  brush := ⟨rfl, Int.le_refl 1⟩
  cursor := rfl

theorem Brush.odd_withSize (b : Brush) {n : Int} (hn : 1 ≤ n) :
    (b.withSize n).size % 2 = 1 ∧ 1 ≤ (b.withSize n).size := by
  simp only [withSize]
  split <;> omega

namespace Canvas

variable {area : Point → Prop} {color : Color} {c d : Canvas}

theorem Painted.opacity (h : Painted area color c d) (hcolor : color ≠ .transparent)
    (hc : Color.transparent ∉ c.cells) : Color.transparent ∉ d.cells := by
  rw [mem_cells_iff] at hc ⊢
  rintro ⟨p, hp⟩
  rcases h.get?_eq_some hp with hsame | hold
  · exact hcolor hsame.symm
  · exact hc ⟨p, hold⟩

theorem Painted.contains_of_modified (h : Painted area color c d)
    (hc : ∀ p, p ∈ c.modified → c.Contains p) : ∀ p, p ∈ d.modified → d.Contains p := by
  intro p hp
  rw [h.contains_iff]
  rcases (h.modified p).mp hp with hold | ⟨hin, -⟩
  · exact hc p hold
  · exact hin

end Canvas

namespace Command

variable {s s' : State} {c : Command} {t : Transfer}

theorem Effect.side_eq (h : Effect s c t s') : s'.canvas.side = s.canvas.side := by
  rcases h.canvas_eq_or_painted with hsame | ⟨-, area, hpainted⟩
  · rw [hsame]
  · exact hpainted.side

/-- A command that succeeds in a sound state leaves a sound one. -/
theorem Effect.sound (h : Effect s c t s') (hs : s.Sound) : s'.Sound where
  size := s'.canvas.size_cells
  opacity := by
    rcases h.canvas_eq_or_painted with hsame | ⟨hcolor, area, hpainted⟩
    · rw [hsame]
      exact hs.opacity
    · exact hpainted.opacity hcolor hs.opacity
  modified := by
    rcases h.canvas_eq_or_painted with hsame | ⟨-, area, hpainted⟩
    · rw [hsame]
      exact hs.modified
    · exact hpainted.contains_of_modified hs.modified
  brush := by
    rcases h.brush_size_eq with hsame | ⟨n, hn, hsize⟩
    · rw [hsame]
      exact hs.brush
    · rw [hsize]
      exact s.brush.odd_withSize hn
  cursor := by
    have hcontains : ∀ p, s'.canvas.Contains p ↔ s.canvas.Contains p := by
      simp [Canvas.Contains, h.side_eq]
    rw [hcontains]
    rcases h.cursor_eq_or_contains with hsame | ⟨hspawned, hin⟩
    · rw [hsame]
      exact hs.cursor
    · rw [if_pos hspawned]
      exact hin

end Command

end PaintRobot
