/-! Points of the plane, ordered by column and then by row. -/
namespace PaintRobot

structure Point where
  x : Int
  y : Int
  deriving DecidableEq, Repr

namespace Point

/-- Column first, then row. -/
instance : Ord Point := ⟨compareLex (compareOn x) (compareOn y)⟩

theorem compare_eq (p q : Point) :
    compare p q = (compare p.x q.x).then (compare p.y q.y) := rfl

instance : Std.TransOrd Point :=
  inferInstanceAs (Std.TransCmp (compareLex (compareOn x) (compareOn y)))

instance : Std.LawfulEqOrd Point where
  eq_of_compare {p q} h := by
    cases p
    cases q
    simpa [compare_eq] using h

/-- The points that share a side with a point. -/
def neighbours (p : Point) : List Point :=
  [⟨p.x, p.y - 1⟩, ⟨p.x, p.y + 1⟩, ⟨p.x - 1, p.y⟩, ⟨p.x + 1, p.y⟩]

end Point

end PaintRobot
