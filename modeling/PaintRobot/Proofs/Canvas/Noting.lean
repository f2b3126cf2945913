import PaintRobot.Proofs.Canvas.Circle
import PaintRobot.Proofs.Canvas.Fill
import PaintRobot.Proofs.Canvas.Line

/-!
Noting cells as modified. Drawing looks at nothing but colors and only adds to the cells that are
noted, so it comes to the same whether some others are noted before or after it.
-/
namespace PaintRobot.Canvas

/-- Notes some points as modified, and leaves the colors as they are. -/
def note (c : Canvas) (points : List Point) : Canvas :=
  { c with modified := c.modified.insertMany points }

variable {area : Point → Prop} {c d : Canvas} {color : Color} {p q : Point}

theorem mem_modified_note {points : List Point} :
    q ∈ (c.note points).modified ↔ q ∈ c.modified ∨ q ∈ points := by
  simp [note, Std.ExtTreeSet.mem_insertMany_list]

@[simp] theorem note_nil (c : Canvas) : c.note [] = c := by
  simp only [note, Std.ExtTreeSet.insertMany_nil]

/-- In which order cells are noted, and how often, makes no difference. -/
theorem note_congr (c : Canvas) {points more : List Point} (h : ∀ p, p ∈ points ↔ p ∈ more) :
    c.note points = c.note more := by
  apply ext_get?
  · rfl
  · exact fun _ => rfl
  · intro p
    rw [mem_modified_note, mem_modified_note, h]

theorem note_append (c : Canvas) (points more : List Point) :
    c.note (points ++ more) = (c.note points).note more := by
  simp only [note, Std.ExtTreeSet.insertMany_append]

@[simp] theorem get?_note (c : Canvas) (points : List Point) (p : Point) :
    (c.note points).get? p = c.get? p := rfl

/-- To note the cells again that have been handed out undoes that. -/
theorem note_drain (c : Canvas) : c.drain.2.note c.drain.1 = c := by
  apply ext_get?
  · rfl
  · exact fun _ => rfl
  · intro p
    rw [mem_modified_note]
    simp [drain]

theorem Painted.note (h : Painted area color c d) (points : List Point) :
    Painted area color (c.note points) (d.note points) where
  side := h.side
  inside := h.inside
  outside := h.outside
  modified q := by
    rw [mem_modified_note, mem_modified_note, h.modified, or_right_comm]
    rfl

theorem drawLine_note (c : Canvas) (points : List Point) (a b : Point) (color : Color)
    (size : Int) :
    (c.note points).drawLine a b color size = (c.drawLine a b color size).note points :=
  (painted_drawLine (c.note points) a b color size).unique
    ((painted_drawLine c a b color size).note points)

theorem drawCircle_note {center : Point} (hc : c.Contains center) (points : List Point)
    (radius : Int) (color : Color) (size : Int) :
    (c.note points).drawCircle center radius color size =
      (c.drawCircle center radius color size).note points := by
  have hcenter : (c.note points).Contains center := hc
  exact (painted_drawCircle hcenter radius color size).unique
    ((painted_drawCircle hc radius color size).note points)

theorem joined_note_iff {points starts : List Point} {target : Color} :
    Joined (c.note points) target starts q ↔ Joined c target starts q := by
  constructor
  · exact fun h => h.imp (fun _ hp hc => .start hp hc) fun _ hc => hc
  · exact fun h => h.imp (fun _ hp hc => .start hp hc) fun _ hc => hc

theorem fill_note (c : Canvas) (points : List Point) (p : Point) (color : Color) :
    ((c.note points).fill p color).1 = (c.fill p color).1.note points := by
  apply (painted_fill (c.note points) p color).unique
  apply ((painted_fill c p color).note points).congr
  intro q _
  simp only [joined_note_iff]

end PaintRobot.Canvas
