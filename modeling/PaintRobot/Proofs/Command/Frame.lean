import PaintRobot.Proofs.Command.Soundness

/-!
What commands leave alone. Each kind of command has a part of the state of its own, and all else is
after it as it was before. Only drawing changes cells, and each cell that it changes has the color
of the brush then and is noted as modified.
-/
namespace PaintRobot

/-- A variable has a value, and all others are as they were. -/
structure Variables.Binds (name : String) (v : Value) (vs vs' : Variables) : Prop where
  self : vs'.get? name = some v
  others : ∀ other, other ≠ name → vs'.get? other = vs.get? other

theorem Variables.binds_store (vs : Variables) (name : String) (v : Value) :
    Binds name v vs (vs.store name v) where
  self := by rw [Table.get?_store, if_pos rfl]
  others other hne := by rw [Table.get?_store, if_neg hne]

namespace Canvas

/-- A canvas has changed in no other cells than such as have a color now and are noted. -/
structure ChangesTo (color : Color) (c d : Canvas) : Prop where
  side : d.side = c.side
  modified : ∀ p, p ∈ c.modified → p ∈ d.modified
  changed : ∀ p, d.get? p ≠ c.get? p → d.get? p = some color ∧ p ∈ d.modified

theorem changesTo_refl (color : Color) (c : Canvas) : ChangesTo color c c where
  side := rfl
  modified _ hp := hp
  changed _ hne := absurd rfl hne

theorem Painted.of_get?_ne {area : Point → Prop} {color : Color} {c d : Canvas} {p : Point}
    (h : Painted area color c d) (hne : d.get? p ≠ c.get? p) : c.Contains p ∧ area p := by
  constructor
  · by_contra hout
    rw [get?_eq_none_iff.mpr hout, get?_eq_none_iff.mpr (mt h.contains_iff.mp hout)] at hne
    exact hne rfl
  · by_contra hout
    exact hne (h.outside p hout)

theorem Painted.changesTo {area : Point → Prop} {color : Color} {c d : Canvas}
    (h : Painted area color c d) : ChangesTo color c d where
  side := h.side
  modified p hp := (h.modified p).mpr (.inl hp)
  changed p hne := by
    obtain ⟨hp, harea⟩ := h.of_get?_ne hne
    exact ⟨h.inside p hp harea, (h.modified p).mpr (.inr ⟨hp, harea⟩)⟩

end Canvas

namespace Command

/-- The state after a command differs from the one before in nothing but the part that is the
command's own. -/
def Touches (s s' : State) : Command → Prop
  | spawn .. => s' = { s with cursor := s'.cursor }
  | color c => s' = { s with brush := { s.brush with color := c } }
  | size _ => s' = { s with brush := { s.brush with size := s'.brush.size } }
  | drawLine .. | drawCircle .. | drawRectangle .. =>
    s' = { s with
      canvas := s'.canvas
      cursor := { s.cursor with position := s'.cursor.position } }
  | fill => s' = { s with canvas := s'.canvas }
  | goTo .. => s' = s
  | assign name e =>
    s' = { s with vars := s'.vars } ∧ ∃ v, e.eval s = .ok v ∧ s.vars.Binds name v s'.vars

/-- Where the program goes on after a command: at the target of a jump whose condition is true, and
else on the next line. -/
def GoesOn (s : State) (t : Transfer) : Command → Prop
  | goTo target condition =>
    ∃ v, condition.eval s = .ok v ∧ t = if v.isTrue then .jump target else .next
  | _ => t = .next

variable {s s' : State} {c : Command} {t : Transfer}

theorem touches_self (hpaints : c.paints = true) : Touches s s c := by
  cases c with
  | drawLine | drawCircle | drawRectangle | fill => rfl
  | _ => cases hpaints

theorem Effect.touches (h : Effect s c t s') : Touches s s' c := by
  cases h with
  | spawn | color | size | drawLine | drawCircle | drawRectangle | fill | goTo => rfl
  | invisible _ hpaints _ => exact touches_self hpaints
  | assign hv => exact ⟨rfl, _, hv, s.vars.binds_store ..⟩

theorem Effect.changesTo (h : Effect s c t s') :
    s.canvas.ChangesTo s.brush.color s'.canvas := by
  rcases h.canvas_eq_or_painted with hsame | ⟨-, area, hpainted⟩
  · rw [hsame]
    exact Canvas.changesTo_refl ..
  · exact hpainted.changesTo

theorem goesOn_next (hpaints : c.paints = true) : GoesOn s .next c := by
  cases c with
  | drawLine | drawCircle | drawRectangle | fill => rfl
  | _ => cases hpaints

theorem Effect.goesOn (h : Effect s c t s') : GoesOn s t c := by
  cases h with
  | spawn | color | size | drawLine | drawCircle | drawRectangle | fill | assign => rfl
  | invisible _ hpaints _ => exact goesOn_next hpaints
  | goTo hv => exact ⟨_, hv, rfl⟩

theorem Effect.eq_of_transparent (h : Effect s c t s') (hpaints : c.paints = true)
    (hbrush : s.brush.color = .transparent) : s' = s := by
  cases h with
  | invisible => rfl
  | drawLine _ hvisible _ | drawCircle _ hvisible _ | drawRectangle _ hvisible _
  | fill _ hvisible => exact absurd hbrush hvisible
  | _ => cases hpaints

/-- A command that succeeds changes its own part of the state and nothing else, and a transparent
brush changes nothing at all. Every cell that differs after it has the color of the brush and is
noted as modified, the side of the canvas and the cells noted before stay, and only a jump goes on
elsewhere than on the next line. -/
theorem execute_touches_own_part (h : c.execute s = .ok t s') :
    Touches s s' c ∧
    (c.paints = true → s.brush.color = .transparent → s' = s) ∧
    s.canvas.ChangesTo s.brush.color s'.canvas ∧
    GoesOn s t c ∧
    ∀ target, t = .jump target → ∃ condition, c = goTo target condition := by
  have heffect := effect_of_execute h
  refine ⟨heffect.touches, heffect.eq_of_transparent, heffect.changesTo, heffect.goesOn, ?_⟩
  rintro target rfl
  exact heffect.eq_goTo_of_jump

/-- A slanted line across a small canvas. -/
theorem execute_touches_own_part_of_diagonal :
    let s : State := { canvas := .blank 3, cursor := ⟨true, ⟨0, 0⟩⟩, brush := ⟨.red, 1⟩ }
    let c : Command := drawLine (.int 1) (.int 1) (.int 2)
    let s' := (s.strokeLine ⟨0, 0⟩ ⟨2, 2⟩).moveTo ⟨2, 2⟩
    (c.execute s = .ok .next s' ∧ s'.canvas.get? ⟨1, 1⟩ ≠ s.canvas.get? ⟨1, 1⟩) ∧
    Touches s s' c ∧ s'.canvas.get? ⟨1, 1⟩ = some .red ∧ ⟨1, 1⟩ ∈ s'.canvas.modified := by
  intro s c s'
  have hrun : c.execute s = .ok .next s' := rfl
  have hchanged : s'.canvas.get? ⟨1, 1⟩ ≠ s.canvas.get? ⟨1, 1⟩ := by decide +kernel
  obtain ⟨htouches, -, hcells, -, -⟩ := execute_touches_own_part hrun
  exact ⟨⟨hrun, hchanged⟩, htouches, hcells.changed _ hchanged⟩

end Command

end PaintRobot
