import PaintRobot.Line
import PaintRobot.Proofs.Canvas.Painted
import PaintRobot.Terminal.Picture
import Mathlib.Data.List.Basic
import Mathlib.Data.List.Induction

/-!
The canvas as a grid. Whatever is done to a blank canvas, a cell has the color it was set to last,
the modified cells are those set since the canvas was last asked for them, and the rows show every
cell at its place. A plain picture has a letter for every cell, so nothing can be changed in the
cells without changing the picture.
-/
namespace PaintRobot

/-- Texts that end in a line feed each, and have no other, are the lines of what they make up. -/
theorem Line.split_flatMap {lines : List (List Char)} (h : ∀ line ∈ lines, '\n' ∉ line) :
    split (lines.flatMap (· ++ ['\n'])) = lines := by
  induction lines with
  | nil => rfl
  | cons line lines ih =>
    obtain ⟨hline, hlines⟩ := List.forall_mem_cons.mp h
    rw [List.flatMap_cons]
    induction line with
    | nil => simp [split, ih hlines]
    | cons c line ihline =>
      obtain ⟨hc, hline⟩ := not_or.mp (mt List.mem_cons.mpr hline)
      have hrest := ihline (List.forall_mem_cons.mpr ⟨hline, hlines⟩) hline
      simp only [List.append_assoc, List.cons_append] at hrest ⊢
      rw [split, if_neg (Ne.symm hc), hrest]

namespace Canvas

variable {c d : Canvas} {p q : Point} {color : Color}

/-! ### Rows -/

theorem length_rows (c : Canvas) : c.rows.length = c.side := by simp [rows]

theorem exists_row {y : Nat} (hy : y < c.side) :
    ∃ row, c.rows[y]? = some row ∧
      row.map some = (List.range c.side).map fun (x : Nat) => c.get? ⟨x, y⟩ := by
  refine ⟨(c.cells.extract (y * c.side) ((y + 1) * c.side)).toList, by simp [rows, hy], ?_⟩
  have hy' : (0 : Int) ≤ y ∧ (y : Int) < c.side := by omega
  have hright : (c.side : Int) - 1 < c.side := by omega
  have hrow := map_extract_row hy' (Int.le_refl 0) hright
  simpa [span, Nat.add_mul, Function.comp_def] using hrow

theorem length_of_mem_rows {row : List Color} (h : row ∈ c.rows) : row.length = c.side := by
  obtain ⟨y, hrow⟩ := List.mem_iff_getElem?.mp h
  have hy : y < c.side := length_rows c ▸ (List.getElem?_eq_some_iff.mp hrow).1
  obtain ⟨row', hrow', hcolors⟩ := exists_row hy
  obtain rfl : row = row' := Option.some.inj (hrow.symm.trans hrow')
  simpa using congrArg List.length hcolors

/-- Entry `x` of row `y` is the cell at that point. -/
theorem getElem?_rows (c : Canvas) (x y : Nat) :
    c.rows[y]?.bind (·[x]?) = c.get? ⟨x, y⟩ := by
  by_cases hy : y < c.side
  · obtain ⟨row, hrow, hcolors⟩ := exists_row hy
    have hlength : row.length = c.side := length_of_mem_rows (List.mem_of_getElem? hrow)
    rw [hrow, Option.bind_some]
    by_cases hx : x < row.length
    · have hcell := congrArg (·[x]?) hcolors
      simp only [List.getElem?_map, List.getElem?_eq_getElem hx,
        List.getElem?_range (hlength ▸ hx), Option.map_some, Option.some.injEq] at hcell
      rw [List.getElem?_eq_getElem hx, hcell]
    · rw [List.getElem?_eq_none (by omega), eq_comm, get?_eq_none_iff]
      simp only [Contains]
      omega
  · rw [List.getElem?_eq_none (by rw [length_rows]; omega), Option.bind_none, eq_comm,
      get?_eq_none_iff]
    simp only [Contains]
    omega

theorem cells_eq_of_rows_eq (h : c.rows = d.rows) : c.side = d.side ∧ c.cells = d.cells := by
  have hside : c.side = d.side := by rw [← length_rows c, ← length_rows d, h]
  refine ⟨hside, cells_eq_of_get? hside fun p => ?_⟩
  by_cases hp : c.Contains p
  · obtain ⟨hx, -, hy, -⟩ := id hp
    have hcell := c.getElem?_rows p.x.toNat p.y.toNat
    rw [h, d.getElem?_rows, Int.toNat_of_nonneg hx, Int.toNat_of_nonneg hy] at hcell
    exact hcell.symm
  · have hp' : ¬d.Contains p := by simpa only [Contains, hside] using hp
    rw [get?_eq_none_iff.mpr hp, get?_eq_none_iff.mpr hp']

/-! ### Plain pictures -/

/-- The letters of the cells, row by row. -/
def letterRows (c : Canvas) : List (List Char) := c.rows.map fun row => row.map Color.letter

theorem toList_picture (c : Canvas) :
    (c.picture true).toList = c.letterRows.flatMap (· ++ ['\n']) := by
  simp [picture, String.toList_join, letterRows, List.flatMap_map, letters]

theorem of_mem_letterRows {line : List Char} (h : line ∈ c.letterRows) :
    line.length = c.side ∧ '\n' ∉ line := by
  obtain ⟨row, hrow, rfl⟩ := List.mem_map.mp h
  refine ⟨by rw [List.length_map, length_of_mem_rows hrow], fun hmem => ?_⟩
  obtain ⟨color, -, hletter⟩ := List.mem_map.mp hmem
  cases color <;> exact absurd hletter (by decide)

theorem getElem?_letterRows (c : Canvas) (x y : Nat) :
    c.letterRows[y]?.bind (·[x]?) = (c.get? ⟨x, y⟩).map Color.letter := by
  rw [← getElem?_rows, letterRows, List.getElem?_map]
  cases c.rows[y]? <;> simp

/-- The rows can be read back off a plain picture. -/
theorem rows_eq_of_picture_eq (h : c.picture true = d.picture true) : c.rows = d.rows := by
  have hletters : c.letterRows = d.letterRows := by
    rw [← Line.split_flatMap fun _ hl => (of_mem_letterRows (c := c) hl).2, ← toList_picture, h,
      toList_picture, Line.split_flatMap fun _ hl => (of_mem_letterRows hl).2]
  have hinj : Function.Injective Color.letter := fun _ _ => Color.letter_injective
  exact List.map_injective_iff.mpr (List.map_injective_iff.mpr hinj) hletters

/-! ### Setting cells -/

/-- What a host does to a canvas: it sets a point, or asks for the modified cells. -/
inductive Action where
  | set (p : Point) (color : Color)
  | drain
  deriving DecidableEq, Repr

namespace Action

/-- The color that an action gives to a point. -/
def colorAt? (p : Point) : Action → Option Color
  | set q color => if q = p then some color else none
  | drain => none

/-- The point that an action sets. -/
def point? : Action → Option Point
  | set p _ => some p
  | drain => none

end Action

/-- The canvas after an action. One that cannot set its point changes nothing. -/
def act (c : Canvas) : Action → Canvas
  | .set p color => (c.set? p color).getD c
  | .drain => c.drain.2

/-- A blank canvas after some actions. -/
def afterActions (side : Nat) (actions : List Action) : Canvas :=
  actions.foldl act (blank side)

/-- The color that a point was set to last. -/
def lastColor? (p : Point) (actions : List Action) : Option Color :=
  actions.reverse.findSome? (Action.colorAt? p)

/-- The points set since the canvas was last asked for the modified cells. -/
def setSinceDrain (actions : List Action) : List Point :=
  (actions.reverse.takeWhile (· ≠ .drain)).filterMap Action.point?

theorem act_set (c : Canvas) (p : Point) (color : Color) :
    c.act (.set p color) = c.set p color := by
  by_cases h : c.Contains p
  · simp [act, set?, h]
  · simp [act, set?, h, set_of_not_contains h]

@[simp] theorem side_act (c : Canvas) (a : Action) : (c.act a).side = c.side := by
  cases a with
  | set p color => rw [act_set, side_set]
  | drain => rfl

theorem get?_act (c : Canvas) (a : Action) (p : Point) :
    (c.act a).get? p = if c.Contains p then (a.colorAt? p).or (c.get? p) else none := by
  by_cases hp : c.Contains p
  · rw [if_pos hp]
    cases a with
    | set q color =>
      rw [act_set]
      by_cases hq : q = p
      · rw [← hq] at hp ⊢
        simp [Action.colorAt?, get?_set_self hp]
      · simp [Action.colorAt?, hq, get?_set_of_ne (Ne.symm hq)]
    | drain => rfl
  · rw [if_neg hp, get?_eq_none_iff]
    simpa [Contains] using hp

theorem mem_modified_act_set :
    p ∈ (c.act (.set q color)).modified ↔ p ∈ c.modified ∨ c.Contains p ∧ p = q := by
  rw [act_set]
  exact (painted_set c q color).modified p

theorem not_mem_modified_act_drain : p ∉ (c.act .drain).modified := by
  simp [act, drain]

section

variable (side : Nat) (actions : List Action) (a : Action)

theorem afterActions_concat :
    afterActions side (actions ++ [a]) = (afterActions side actions).act a := by
  simp [afterActions]

theorem lastColor?_concat (p : Point) :
    lastColor? p (actions ++ [a]) = (a.colorAt? p).or (lastColor? p actions) := by
  simp only [lastColor?, List.reverse_append, List.reverse_singleton, List.singleton_append,
    List.findSome?_cons]
  cases a.colorAt? p <;> rfl

theorem setSinceDrain_concat_set (p : Point) (color : Color) :
    setSinceDrain (actions ++ [.set p color]) = p :: setSinceDrain actions := by
  simp [setSinceDrain, Action.point?]

theorem setSinceDrain_concat_drain : setSinceDrain (actions ++ [.drain]) = [] := by
  simp [setSinceDrain]

@[simp] theorem side_afterActions : (afterActions side actions).side = side := by
  induction actions using List.reverseRecOn with
  | nil => rfl
  | append_singleton actions a ih => rw [afterActions_concat, side_act, ih]

theorem contains_afterActions {p : Point} :
    (afterActions side actions).Contains p ↔ (blank side).Contains p := by
  have hside : (blank side).side = side := rfl
  simp [Contains, hside]

theorem get?_afterActions (p : Point) :
    (afterActions side actions).get? p =
      if (blank side).Contains p then some ((lastColor? p actions).getD .white) else none := by
  -- from the end, where the action is that counts most
  induction actions using List.reverseRecOn with
  | nil => exact get?_blank
  | append_singleton actions a ih =>
    rw [afterActions_concat, get?_act, ih, lastColor?_concat]
    by_cases hp : (blank side).Contains p
    · rw [if_pos ((contains_afterActions side actions).mpr hp), if_pos hp, if_pos hp]
      cases a.colorAt? p <;> rfl
    · rw [if_neg (mt (contains_afterActions side actions).mp hp), if_neg hp]

theorem mem_modified_afterActions {p : Point} :
    p ∈ (afterActions side actions).modified ↔
      (blank side).Contains p ∧ p ∈ setSinceDrain actions := by
  induction actions using List.reverseRecOn with
  | nil => simp [afterActions, blank, setSinceDrain]
  | append_singleton actions a ih =>
    rw [afterActions_concat]
    cases a with
    | set q color =>
      rw [mem_modified_act_set, ih, contains_afterActions, setSinceDrain_concat_set,
        List.mem_cons, or_comm, ← and_or_left]
    | drain => simp [not_mem_modified_act_drain, setSinceDrain_concat_drain]

end

/-- Whatever was done to a blank canvas, it is a faithful grid: just the points within its sides can
be set, each has the color it was set to last, or white, and only those set since the last time are
noted as modified. Its rows and the lines of its plain picture show each cell at its place, and no
canvas with another side or other cells has the same picture. -/
theorem grid_afterActions (side : Nat) (actions : List Action) :
    let c := afterActions side actions
    (c.side = side ∧ ∀ p, c.Contains p ↔ 0 ≤ p.x ∧ p.x < side ∧ 0 ≤ p.y ∧ p.y < side) ∧
    (∀ p color, (c.set? p color).isSome ↔ c.Contains p) ∧
    (∀ p, c.get? p =
      if c.Contains p then some ((lastColor? p actions).getD .white) else none) ∧
    (∀ p, p ∈ c.modified ↔ c.Contains p ∧ p ∈ setSinceDrain actions) ∧
    (c.rows.length = side ∧ (∀ row ∈ c.rows, row.length = side) ∧
      ∀ x y : Nat, c.rows[y]?.bind (·[x]?) = c.get? ⟨x, y⟩) ∧
    (∃ lines : List (List Char), (c.picture true).toList = lines.flatMap (· ++ ['\n']) ∧
      lines.length = side ∧ (∀ line ∈ lines, line.length = side ∧ '\n' ∉ line) ∧
      ∀ x y : Nat, lines[y]?.bind (·[x]?) = (c.get? ⟨x, y⟩).map Color.letter) ∧
    ∀ d : Canvas, c.picture true = d.picture true → c.side = d.side ∧ c.cells = d.cells := by
  intro c
  have hside : c.side = side := side_afterActions side actions
  have hcontains : ∀ {p}, c.Contains p ↔ (blank side).Contains p :=
    contains_afterActions side actions
  refine ⟨⟨hside, fun p => hcontains⟩, ?_, ?_, ?_, ⟨?_, ?_, c.getElem?_rows⟩, ?_, ?_⟩
  · intro p color
    rw [Option.isSome_iff_ne_none, ne_eq, set?_eq_none_iff, not_not]
  · intro p
    simpa only [hcontains] using get?_afterActions side actions p
  · intro p
    rw [hcontains]
    exact mem_modified_afterActions side actions
  · rw [length_rows, hside]
  · intro row hrow
    rw [length_of_mem_rows hrow, hside]
  · refine ⟨c.letterRows, c.toList_picture, ?_, ?_, c.getElem?_letterRows⟩
    · rw [letterRows, List.length_map, length_rows, hside]
    · intro line hline
      exact hside ▸ of_mem_letterRows hline
  · exact fun d h => cells_eq_of_rows_eq (rows_eq_of_picture_eq h)

/-- A point outside is not set, and the last color counts. -/
example : (afterActions 2 [.set ⟨1, 0⟩ .blue, .set ⟨2, 0⟩ .green, .drain, .set ⟨1, 0⟩ .red]).picture
    true = ".R\n..\n" := by decide +kernel

end Canvas

end PaintRobot
