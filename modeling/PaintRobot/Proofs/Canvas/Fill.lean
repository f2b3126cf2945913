import PaintRobot.Canvas.Fill
import PaintRobot.Proofs.Canvas.Painted
import Mathlib.Data.Set.Card

/-!
What a fill reaches. Points wait on the stack more than once, off the canvas, or after they have
been painted; all the same the cells that get the color are just those that are joined to the start.
-/
namespace PaintRobot

namespace Point

/-- Whether two points share a side. -/
def Adjacent (p q : Point) : Prop := (p.x - q.x).natAbs + (p.y - q.y).natAbs = 1

instance (p q : Point) : Decidable (p.Adjacent q) := inferInstanceAs (Decidable (_ = _))

theorem mem_neighbours_iff {p q : Point} : q ∈ p.neighbours ↔ p.Adjacent q := by
  cases p
  cases q
  simp only [neighbours, Adjacent, List.mem_cons, Point.mk.injEq, List.not_mem_nil, or_false]
  omega

end Point

namespace Canvas

/-- The cells that are joined to one of some points by a path of cells of one color, in which each
shares a side with the one before it. -/
inductive Joined (c : Canvas) (target : Color) (starts : List Point) : Point → Prop where
  | start {p : Point} (hp : p ∈ starts) (hc : c.get? p = some target) : Joined c target starts p
  | step {p q : Point} (hp : Joined c target starts p) (hpq : p.Adjacent q)
      (hc : c.get? q = some target) : Joined c target starts q

variable {c d : Canvas} {target color : Color} {starts others stack : List Point} {p q : Point}

theorem Joined.get?_eq (h : Joined c target starts q) : c.get? q = some target := by
  cases h with
  | start _ hc => exact hc
  | step _ _ hc => exact hc

theorem Joined.get?_start (h : Joined c target [p] q) : c.get? p = some target := by
  induction h with
  | start hp hc =>
    rw [List.mem_singleton.mp hp] at hc
    exact hc
  | step _ _ _ ih => exact ih

theorem not_joined_nil : ¬Joined c target [] q := by
  intro h
  induction h with
  | start hp => cases hp
  | step _ _ _ ih => exact ih

/-- A path is still one from other points and on another canvas, if its start is joined to those and
its cells have their color there. -/
theorem Joined.imp (h : Joined c target starts q)
    (hstarts : ∀ p ∈ starts, c.get? p = some target → Joined d target others p)
    (hcells : ∀ p, c.get? p = some target → d.get? p = some target) :
    Joined d target others q := by
  induction h with
  | start hp hc => exact hstarts _ hp hc
  | step _ hpq hc ih => exact ih.step hpq (hcells _ hc)

/-- A point of another color joins nothing. -/
theorem joined_cons_of_ne (hp : c.get? p ≠ some target) :
    Joined c target (p :: stack) q ↔ Joined c target stack q := by
  constructor
  · intro h
    apply h.imp
    · intro r hr hc
      rcases List.mem_cons.mp hr with rfl | hr
      · exact absurd hc hp
      · exact .start hr hc
    · exact fun _ hc => hc
  · intro h
    exact h.imp (fun r hr hc => .start (List.mem_cons_of_mem _ hr) hc) fun _ hc => hc

theorem get?_set_eq_some_iff (hp : c.Contains p) (hne : color ≠ target) :
    (c.set p color).get? q = some target ↔ q ≠ p ∧ c.get? q = some target := by
  by_cases hq : q = p
  · subst hq
    simp [get?_set_self hp, hne]
  · simp [get?_set_of_ne hq, hq]

/-- Painting a cell over leaves the cells that are joined to its neighbours or to the other points
without it: a path through the cell can be entered behind its last visit there. -/
theorem joined_cons_iff (hp : c.get? p = some target) (hne : color ≠ target) :
    Joined c target (p :: stack) q ↔
      q = p ∨ Joined (c.set p color) target (p.neighbours ++ stack) q := by
  have hset : ∀ r, (c.set p color).get? r = some target ↔ r ≠ p ∧ c.get? r = some target :=
    fun r => get?_set_eq_some_iff (contains_of_get? hp) hne
  have hself : Joined c target (p :: stack) p := .start List.mem_cons_self hp
  constructor
  · intro h
    induction h with
    | @start r hr hc =>
      by_cases hrp : r = p
      · exact .inl hrp
      · right
        have hmem : r ∈ stack := (List.mem_cons.mp hr).resolve_left hrp
        exact .start (List.mem_append_right _ hmem) ((hset r).mpr ⟨hrp, hc⟩)
    | @step r s _ hrs hc ih =>
      by_cases hsp : s = p
      · exact .inl hsp
      right
      have hs := (hset s).mpr ⟨hsp, hc⟩
      rcases ih with rfl | ih
      · have hmem : s ∈ r.neighbours := Point.mem_neighbours_iff.mpr hrs
        exact .start (List.mem_append_left _ hmem) hs
      · exact ih.step hrs hs
  · rintro (rfl | h)
    · exact hself
    · apply h.imp
      · intro r hr hc
        have hc' := ((hset r).mp hc).2
        rcases List.mem_append.mp hr with hr | hr
        · exact hself.step (Point.mem_neighbours_iff.mp hr) hc'
        · exact .start (List.mem_cons_of_mem _ hr) hc'
      · exact fun r hc => ((hset r).mp hc).2

/-- Spreading paints each of the cells that are joined to the stack once, and counts it. -/
theorem exists_spread_eq (hne : color ≠ target) (c : Canvas) (n : Nat) (stack : List Point) :
    ∃ cells : List Point, cells.Nodup ∧ (∀ q, q ∈ cells ↔ Joined c target stack q) ∧
      spread target color hne c n stack = (c.paint color cells, n + cells.length) := by
  induction c, n, stack using spread.induct target color hne with
  | case1 c n =>
    refine ⟨[], List.nodup_nil, ?_, ?_⟩
    · simp [not_joined_nil]
    · rw [spread]
      rfl
  | case2 c n p stack hp ih =>
    obtain ⟨cells, hnodup, hcells, hspread⟩ := ih
    have hnew : p ∉ cells := by
      intro hmem
      have hc := ((hcells p).mp hmem).get?_eq
      rw [get?_set_self (contains_of_get? hp)] at hc
      exact hne (Option.some.inj hc)
    refine ⟨p :: cells, List.nodup_cons.mpr ⟨hnew, hnodup⟩, ?_, ?_⟩
    · intro q
      rw [List.mem_cons, hcells, joined_cons_iff hp hne]
    · rw [spread, if_pos hp, hspread, List.length_cons, Nat.add_assoc, Nat.add_comm 1]
      rfl
  | case3 c n p stack hp ih =>
    obtain ⟨cells, hnodup, hcells, hspread⟩ := ih
    refine ⟨cells, hnodup, ?_, ?_⟩
    · intro q
      rw [hcells, joined_cons_of_ne hp]
    · rw [spread, if_neg hp, hspread]

theorem fill_of_none (hp : c.get? p = none) (color : Color) : c.fill p color = (c, 0) := by
  simp [fill, hp]

theorem fill_of_same (hp : c.get? p = some color) : c.fill p color = (c, 0) := by
  simp [fill, hp]

/-- A fill that has something to do paints the cells that are joined to its start. -/
theorem exists_fill_eq (hp : c.get? p = some target) (hne : color ≠ target) :
    ∃ cells : List Point, cells.Nodup ∧ (∀ q, q ∈ cells ↔ Joined c target [p] q) ∧
      c.fill p color = (c.paint color cells, cells.length) := by
  obtain ⟨cells, hnodup, hcells, hspread⟩ := exists_spread_eq hne c 0 [p]
  refine ⟨cells, hnodup, hcells, ?_⟩
  simp [fill, hp, hne, hspread]

/-- A fill paints the cells that are joined to its start by cells of another color than its own. -/
theorem painted_fill (c : Canvas) (p : Point) (color : Color) :
    Painted (fun q => ∃ target, target ≠ color ∧ Joined c target [p] q) color c
      (c.fill p color).1 := by
  by_cases h : ∃ target, c.get? p = some target ∧ target ≠ color
  · obtain ⟨target, hp, hne⟩ := h
    obtain ⟨cells, -, hcells, hfill⟩ := exists_fill_eq hp hne.symm
    rw [hfill]
    apply (painted_paint c color cells).congr
    intro q _
    rw [hcells]
    constructor
    · exact fun hq => ⟨target, hne, hq⟩
    · rintro ⟨other, -, hq⟩
      have hsame : other = target := Option.some.inj (hq.get?_start.symm.trans hp)
      exact hsame ▸ hq
  · have hnone : c.fill p color = (c, 0) := by
      cases hp : c.get? p with
      | none => exact fill_of_none hp color
      | some target =>
        have hsame : target = color := by
          by_contra hne
          exact h ⟨target, hp, hne⟩
        exact fill_of_same (hsame ▸ hp)
    rw [hnone]
    apply (painted_none color c).congr
    rintro q -
    simp only [false_iff]
    rintro ⟨target, hne, hq⟩
    exact h ⟨target, hq.get?_start, hne⟩

theorem get?_fill_of_joined (hne : color ≠ target) (hq : Joined c target [p] q) :
    (c.fill p color).1.get? q = some color := by
  obtain ⟨cells, -, hcells, hfill⟩ := exists_fill_eq hq.get?_start hne
  rw [hfill]
  exact (painted_paint c color cells).inside q (contains_of_get? hq.get?_eq) ((hcells q).mpr hq)

/-- A fill changes only cells that are joined to its start. -/
theorem joined_of_get?_fill_ne (h : (c.fill p color).1.get? q ≠ c.get? q) :
    ∃ target, Joined c target [p] q := by
  cases hp : c.get? p with
  | none =>
    rw [fill_of_none hp] at h
    exact absurd rfl h
  | some target =>
    by_cases hne : color = target
    · rw [fill_of_same (hne ▸ hp)] at h
      exact absurd rfl h
    · obtain ⟨cells, -, hcells, hfill⟩ := exists_fill_eq hp hne
      refine ⟨target, (hcells q).mp ?_⟩
      by_contra hq
      rw [hfill] at h
      exact h ((painted_paint c color cells).outside q hq)

/-- Outside the canvas, and where the color is there already, a fill does nothing. Elsewhere it
paints exactly the cells that are joined to its start by cells of the start's color, and gives their
number. -/
theorem fill_paints_joined (c : Canvas) (p : Point) (color : Color) :
    (c.get? p = none ∨ c.get? p = some color) ∧ c.fill p color = (c, 0) ∨
      ∃ target, c.get? p = some target ∧ target ≠ color ∧
        Painted (Joined c target [p]) color c (c.fill p color).1 ∧
        {q | Joined c target [p] q}.encard = (c.fill p color).2 := by
  cases hp : c.get? p with
  | none => exact .inl ⟨.inl rfl, fill_of_none hp color⟩
  | some target =>
    by_cases hne : color = target
    · exact .inl ⟨.inr (by rw [hne]), fill_of_same (hne ▸ hp)⟩
    right
    obtain ⟨cells, hnodup, hcells, hfill⟩ := exists_fill_eq hp hne
    refine ⟨target, rfl, Ne.symm hne, ?_, ?_⟩
    · rw [hfill]
      exact (painted_paint c color cells).congr fun q _ => hcells q
    · have hset : {q | Joined c target [p] q} = (cells.toFinset : Set Point) := by
        ext q
        simp [hcells]
      rw [hset, Set.encard_coe_eq_coe_finsetCard, List.toFinset_card_of_nodup hnodup, hfill]

end Canvas

end PaintRobot
