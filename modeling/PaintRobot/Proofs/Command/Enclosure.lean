import PaintRobot.Proofs.Command.Drawing

/-!
Filling an outline. After a circle or a rectangle has been drawn, a fill from where the robot stands
then stays inside, whatever was on the canvas before and even where the circle runs off the canvas.
-/
namespace PaintRobot

open Canvas (Joined brushHalf)

theorem brushHalf_nonneg {size : Int} (h : 0 < size) : 0 ≤ brushHalf size :=
  Int.tdiv_nonneg h.le (by decide)

/-- A region that begins in the middle of a rectangle just drawn, in another color, stays strictly
between its sides. -/
theorem State.inside_of_joined {s : State} {target : Color} {center q : Point} {width height : Int}
    (hw : 1 ≤ width) (hh : 1 ≤ height) (hsize : 0 < s.brush.size) (hne : target ≠ s.brush.color)
    (h : Joined (s.strokeRectangle (.around center width height)).canvas target [center] q) :
    (Rectangle.around center width height).Inside q := by
  have hcenter := Rectangle.around_spans center hw hh
  generalize Rectangle.around center width height = r at *
  have hframe : ∀ p, r.OnFrame p →
      ∃ q, r.OnFrame q ∧ q.longOffset p ≤ brushHalf s.brush.size :=
    fun p hp => ⟨p, hp, Canvas.square_iff.mp (Canvas.square_self (brushHalf_nonneg hsize) p)⟩
  apply (s.painted_strokeRectangle (by omega) (by omega)).joined_stays hne h
  · intro hfree
    exact (Rectangle.inside_or_onFrame hcenter).resolve_right fun hon => hfree (hframe _ hon)
  · intro p p' hp hpp hfree
    exact hp.step hpp fun hon => hfree (hframe p' hon)

namespace Command

/-- Whether a command draws a closed outline. -/
def drawsOutline : Command → Bool
  | drawCircle .. | drawRectangle .. => true
  | _ => false

/-- The points strictly inside the outline that a command draws around a center: those nearer than
the radius along both axes, or those between the sides. -/
def Inside (s : State) (center : Point) : Command → Point → Prop
  | drawCircle _ _ radius, q =>
    ∃ r, radius.integer s = .ok r ∧ max (q.x - center.x).natAbs (q.y - center.y).natAbs < r
  | drawRectangle _ _ _ width height, q =>
    ∃ m n, width.integer s = .ok m ∧ height.integer s = .ok n ∧
      (Rectangle.around center m n).Inside q
  | _, _ => False

variable {s s' : State} {t : Transfer} {c : Command} {q : Point}

/-- Where an outline has left the cell in its middle as it was, a fill from there changes only cells
strictly inside the outline. -/
theorem fill_stays_inside (hdraws : c.drawsOutline = true) (hvisible : s.brush.color ≠ .transparent)
    (hsize : 0 < s.brush.size) (hrun : c.execute s = .ok t s')
    (hfree : s'.canvas.get? s'.cursor.position ≠ some s.brush.color) (color : Color)
    (hq : (s'.canvas.fill s'.cursor.position color).1.get? q ≠ s'.canvas.get? q) :
    c.Inside s s'.cursor.position q := by
  obtain ⟨target, hj⟩ := Canvas.joined_of_get?_fill_ne hq
  have hne : target ≠ s.brush.color := by
    rintro rfl
    exact hfree hj.get?_start
  cases c with
  | drawCircle dx dy radius =>
    obtain ⟨center, r, hat, rfl⟩ := of_execute_drawCircle hvisible hrun
    obtain ⟨hr, hpos, hcenter⟩ := State.of_circleAt hat
    exact ⟨r, hr, Canvas.longOffset_lt_of_joined hcenter hpos (brushHalf_nonneg hsize) hne hj⟩
  | drawRectangle dx dy distance width height =>
    obtain ⟨r, hat, rfl⟩ := of_execute_drawRectangle hvisible hrun
    obtain ⟨m, n, hm, hn, hwidth, hheight, hr, -, -⟩ := State.of_rectangleAt hat
    refine ⟨m, n, hm, hn, State.inside_of_joined hwidth hheight hsize hne ?_⟩
    rw [hr] at hj
    exact hj
  | _ => cases hdraws

/-- Around a robot near a corner of the canvas a red circle overhangs two of the edges. The fill from
its middle changes a cell beside it, which is nearer than the radius. -/
theorem fill_stays_inside_overhanging_circle :
    let s : State := { canvas := .blank 10, cursor := ⟨true, ⟨1, 1⟩⟩, brush := ⟨.red, 1⟩ }
    let c : Command := drawCircle (.int 0) (.int 0) (.int 3)
    let s' := (s.strokeCircle ⟨1, 1⟩ 3).moveTo ⟨1, 1⟩
    (c.drawsOutline = true ∧ s.brush.color ≠ .transparent ∧ 0 < s.brush.size ∧
      c.execute s = .ok .next s' ∧
      s'.canvas.get? s'.cursor.position ≠ some s.brush.color ∧
      (s'.canvas.fill s'.cursor.position .blue).1.get? ⟨2, 1⟩ ≠ s'.canvas.get? ⟨2, 1⟩) ∧
    c.Inside s s'.cursor.position ⟨2, 1⟩ := by
  intro s c s'
  have hrun : c.execute s = .ok .next s' := rfl
  have hin : s.canvas.Contains ⟨1, 1⟩ := by decide
  have hmiddle : s'.canvas.get? ⟨1, 1⟩ = some .white :=
    Canvas.get?_drawCircle_of_near hin .red (by decide)
  have hbeside : s'.canvas.get? ⟨2, 1⟩ = some .white :=
    Canvas.get?_drawCircle_of_near hin .red (by decide)
  have hfree : s'.canvas.get? ⟨1, 1⟩ ≠ some .red := by
    rw [hmiddle]
    decide
  have hjoined : Joined s'.canvas .white [⟨1, 1⟩] ⟨2, 1⟩ :=
    (Joined.start (List.mem_singleton_self _) hmiddle).step (by decide) hbeside
  have hchanged : (s'.canvas.fill ⟨1, 1⟩ .blue).1.get? ⟨2, 1⟩ ≠ s'.canvas.get? ⟨2, 1⟩ := by
    rw [Canvas.get?_fill_of_joined (by decide) hjoined, hbeside]
    decide
  exact ⟨⟨rfl, by decide, by decide, hrun, hfree, hchanged⟩,
    fill_stays_inside rfl (by decide) (by decide) hrun hfree .blue hchanged⟩

end Command

end PaintRobot
