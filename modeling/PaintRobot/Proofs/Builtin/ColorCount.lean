import PaintRobot.Builtin
import PaintRobot.Proofs.Canvas.Counting

/-!
The count of a color as programs see it. It is the number of cells as long as thirty-two bits hold
that, which they do on every canvas with a side of up to 46340; on a larger one the count can wrap
around.
-/
namespace PaintRobot

namespace Canvas

variable {c : Canvas} {color : Color} {p q : Point}

/-- The cells of a color between two opposite corners of a rectangle. -/
def cellsOf (c : Canvas) (color : Color) (p q : Point) : Set Point :=
  {r | r ∈ c.clipped p q ∧ c.get? r = some color}

theorem finite_clipped (c : Canvas) (p q : Point) : (c.clipped p q).Finite :=
  (c.clippedList p q).finite_toSet.subset fun _ => mem_clippedList.mpr

theorem cellsOf_subset (c : Canvas) (color : Color) (p q : Point) :
    c.cellsOf color p q ⊆ c.clipped p q := fun _ h => h.1

theorem ncard_cellsOf_mono {p' q' : Point} (h : c.clipped p' q' ⊆ c.clipped p q) (color : Color) :
    (c.cellsOf color p' q').ncard ≤ (c.cellsOf color p q).ncard :=
  Set.ncard_le_ncard (fun _ hr => ⟨h hr.1, hr.2⟩)
    ((c.finite_clipped p q).subset (c.cellsOf_subset color p q))

theorem length_box (c : Canvas) (lo hi : Point) :
    (c.box lo hi).length = (min hi.y (c.side - 1) + 1 - max lo.y 0).toNat *
      (min hi.x (c.side - 1) + 1 - max lo.x 0).toNat := by
  simp [box, List.length_flatMap, length_span]

theorem ncard_clipped_le (c : Canvas) (p q : Point) :
    (c.clipped p q).ncard ≤ c.side * c.side := by
  rw [ncard_clipped, clippedList, length_box]
  exact Nat.mul_le_mul (by omega) (by omega)

theorem ncard_cellsOf_le (c : Canvas) (color : Color) (p q : Point) :
    (c.cellsOf color p q).ncard ≤ c.side * c.side :=
  (Set.ncard_le_ncard (c.cellsOf_subset color p q) (c.finite_clipped p q)).trans
    (c.ncard_clipped_le p q)

/-- From corner to corner a white canvas has as many white cells as cells. -/
theorem ncard_cellsOf_blank (side : Nat) :
    ((blank side).cellsOf .white ⟨0, 0⟩ ⟨side - 1, side - 1⟩).ncard = side * side := by
  have hall : (blank side).cellsOf .white ⟨0, 0⟩ ⟨side - 1, side - 1⟩ =
      (blank side).clipped ⟨0, 0⟩ ⟨side - 1, side - 1⟩ := by
    apply Set.Subset.antisymm (cellsOf_subset ..)
    intro r hr
    exact ⟨hr, by rw [get?_blank, if_pos hr.1]⟩
  have hside : (blank side).side = side := rfl
  rw [hall, ncard_clipped, clippedList, length_box, hside]
  rcases Nat.eq_zero_or_pos side with rfl | hpos
  · rfl
  · dsimp only
    congr 1 <;> omega

end Canvas

namespace Value

/-- The lowest thirty-two bits are all of a number that is not too large, and never of one that
is. -/
theorem toInt_natCast_iff (k : Nat) : (Int32.ofInt k).toInt = k ↔ k < 2 ^ 31 := by
  constructor
  · intro h
    have hlt := Int32.toInt_lt (Int32.ofInt k)
    rw [h] at hlt
    exact_mod_cast hlt
  · intro h
    exact Int32.toInt_ofInt_of_le (by omega) (by exact_mod_cast h)

end Value

namespace Builtin

variable {s : State} {name text : String} {color : Color} {x₁ y₁ x₂ y₂ : Value} {p q : Point}

section

variable (hname : ofName? name = some .colorCount) (hcolor : Color.ofName? text = some color)
  (hx₁ : x₁.toInt = .ok p.x) (hy₁ : y₁.toInt = .ok p.y)
  (hx₂ : x₂.toInt = .ok q.x) (hy₂ : y₂.toInt = .ok q.y)

include hname hcolor hx₁ hy₁ hx₂ hy₂

theorem call_colorCount :
    call s name [.text text, x₁, y₁, x₂, y₂] =
      .ok (.int (Int32.ofInt (s.canvas.cellsOf color p q).ncard)) := by
  have hcount : s.canvas.count color p q = (s.canvas.cellsOf color p q).ncard :=
    s.canvas.count_eq_ncard color p q
  rw [call, hname, ← hcount]
  simp only [apply, colorOf, hcolor, hx₁, hy₁, hx₂, hy₂, bind, Except.bind]
  rfl

/-- The count that a program gets is the number of cells, without the bits that do not fit a value.
It is the number itself exactly if there are fewer than `2 ^ 31` of them; then it is not negative,
and not less than the number in any part of the rectangle. On a canvas whose side is at most 46340
that is always so. -/
theorem colorCount_reports_cells :
    ∃ n : Int32, call s name [.text text, x₁, y₁, x₂, y₂] = .ok (.int n) ∧
      n.toInt = ((s.canvas.cellsOf color p q).ncard : Int).bmod (2 ^ 32) ∧
      (n.toInt = (s.canvas.cellsOf color p q).ncard ↔
        (s.canvas.cellsOf color p q).ncard < 2 ^ 31) ∧
      ((s.canvas.cellsOf color p q).ncard < 2 ^ 31 → 0 ≤ n.toInt ∧
        ∀ p' q', s.canvas.clipped p' q' ⊆ s.canvas.clipped p q →
          ((s.canvas.cellsOf color p' q').ncard : Int) ≤ n.toInt) ∧
      (s.canvas.side ≤ 46340 → (s.canvas.cellsOf color p q).ncard < 2 ^ 31) := by
  have hexact := Value.toInt_natCast_iff (s.canvas.cellsOf color p q).ncard
  refine ⟨_, call_colorCount hname hcolor hx₁ hy₁ hx₂ hy₂, Int32.toInt_ofInt, hexact, ?_, ?_⟩
  · intro hfits
    rw [hexact.mpr hfits]
    refine ⟨Int.natCast_nonneg _, fun p' q' hpart => ?_⟩
    exact_mod_cast Canvas.ncard_cellsOf_mono hpart color
  · intro hside
    calc (s.canvas.cellsOf color p q).ncard
        ≤ s.canvas.side * s.canvas.side := s.canvas.ncard_cellsOf_le color p q
      _ ≤ 46340 * 46340 := Nat.mul_le_mul hside hside
      _ < 2 ^ 31 := by decide

end

/-- A rectangle that reaches over a corner of the canvas, with the names in other cases. -/
theorem colorCount_reports_cells_over_corner :
    let s : State := { canvas := (Canvas.blank 5).set ⟨4, 3⟩ .red }
    (ofName? "getcolorCOUNT" = some .colorCount ∧ Color.ofName? " white" = some .white ∧
      (Value.int 3).toInt = .ok 3 ∧ (Value.int 9).toInt = .ok 9 ∧
      (Value.int 2147483647).toInt = .ok 2147483647 ∧ (Value.int 2).toInt = .ok 2) ∧
    s.canvas.side ≤ 46340 ∧
    ∃ n : Int32, call s "getcolorCOUNT" [.text " white", .int 3, .int 9, .int 2147483647, .int 2] =
        .ok (.int n) ∧
      n.toInt = (s.canvas.cellsOf .white ⟨3, 9⟩ ⟨2147483647, 2⟩).ncard := by
  intro s
  have hname : ofName? "getcolorCOUNT" = some .colorCount := by decide
  have hcolor : Color.ofName? " white" = some .white := by decide
  have hside : s.canvas.side ≤ 46340 := by decide
  have hx₁ : (Value.int 3).toInt = .ok 3 := rfl
  have hy₁ : (Value.int 9).toInt = .ok 9 := rfl
  have hx₂ : (Value.int 2147483647).toInt = .ok 2147483647 := rfl
  have hy₂ : (Value.int 2).toInt = .ok 2 := rfl
  obtain ⟨n, hcall, -, hexact, -, hsmall⟩ := colorCount_reports_cells (s := s) (p := ⟨3, 9⟩)
    (q := ⟨2147483647, 2⟩) hname hcolor hx₁ hy₁ hx₂ hy₂
  exact ⟨⟨hname, hcolor, hx₁, hy₁, hx₂, hy₂⟩, hside, n, hcall, hexact.mpr (hsmall hside)⟩

/-- A white canvas with a side of 46341 has more cells than a value can count. -/
theorem not_colorCount_eq_ncard :
    ¬∀ (s : State) (text : String) (color : Color) (x₁ y₁ x₂ y₂ : Value) (p q : Point),
      s.canvas.side < 2 ^ 31 → Color.ofName? text = some color →
      x₁.toInt = .ok p.x → y₁.toInt = .ok p.y → x₂.toInt = .ok q.x → y₂.toInt = .ok q.y →
      ∃ n : Int32, call s "GetColorCount" [.text text, x₁, y₁, x₂, y₂] = .ok (.int n) ∧
        n.toInt = (s.canvas.cellsOf color p q).ncard := by
  intro h
  have hname : ofName? "GetColorCount" = some .colorCount := by decide
  have hcolor : Color.ofName? "White" = some .white := by decide
  have hside : (State.start 46341).canvas.side < 2 ^ 31 := by
    show 46341 < 2 ^ 31
    decide
  obtain ⟨n, hcall, hn⟩ := h (.start 46341) "White" .white (.int 0) (.int 0) (.int 46340)
    (.int 46340) ⟨0, 0⟩ ⟨46340, 46340⟩ hside hcolor rfl rfl rfl rfl
  rw [call_colorCount (p := ⟨0, 0⟩) (q := ⟨46340, 46340⟩) hname hcolor rfl rfl rfl rfl] at hcall
  cases hcall
  have hmany : ((State.start 46341).canvas.cellsOf .white ⟨0, 0⟩ ⟨46340, 46340⟩).ncard =
      46341 * 46341 := Canvas.ncard_cellsOf_blank 46341
  have hfits := (Value.toInt_natCast_iff _).mp hn
  rw [hmany] at hfits
  exact absurd hfits (by decide)

end Builtin

end PaintRobot
