import PaintRobot.Canvas.Circle
import PaintRobot.Proofs.Canvas.Painted

/-!
Circles without shortcuts. The plain way to draw a circle stamps all places of the walk, down to the
first that has crossed the diagonal, however far they are from the canvas. Drawing only leaves out
stamps that would change nothing, so it is the same.
-/
namespace PaintRobot

namespace CircleWalk

/-- The places of a walk, from `w` to the first behind the diagonal. -/
def places (w : CircleWalk) : List CircleWalk :=
  w :: if w.y < w.x then [] else w.next.places
termination_by (w.y + 1 - w.x).toNat
decreasing_by
  have := w.next_x
  have := w.next_y_le
  omega

theorem places_of_lt {w : CircleWalk} (h : w.y < w.x) : w.places = [w] := by
  rw [places, if_pos h]

theorem places_of_le {w : CircleWalk} (h : w.x ≤ w.y) : w.places = w :: w.next.places := by
  rw [places, if_neg (Int.not_lt.mpr h)]

theorem mem_places_self (w : CircleWalk) : w ∈ w.places := by
  rw [places]
  exact List.mem_cons_self

/-- A place in front of the diagonal is not the last one. -/
theorem next_mem_places {w v : CircleWalk} (h : v ∈ w.places) (hle : v.x ≤ v.y) :
    v.next ∈ w.places := by
  fun_induction places w with
  | case1 w ih =>
    rcases List.mem_cons.mp h with rfl | hv
    · rw [if_neg (Int.not_lt.mpr hle)]
      exact List.mem_cons_of_mem _ v.next.mem_places_self
    · apply List.mem_cons_of_mem
      split at hv
      · cases hv
      · rename_i hgo
        rw [if_neg hgo]
        exact ih hgo hv

/-- What holds at the first place of a walk and is kept from each place to the next holds at all. -/
theorem forall_mem_places {w : CircleWalk} {P : CircleWalk → Prop} (hfirst : P w)
    (hnext : ∀ v ∈ w.places, v.x ≤ v.y → P v → P v.next) : ∀ v ∈ w.places, P v := by
  fun_induction places w with
  | case1 w ih =>
    intro v hv
    rcases List.mem_cons.mp hv with rfl | hv
    · exact hfirst
    split at hv
    · cases hv
    · rename_i hgo
      rw [if_neg hgo] at hnext
      apply ih hgo (hnext w List.mem_cons_self (Int.not_lt.mp hgo) hfirst) _ v hv
      exact fun u hu => hnext u (List.mem_cons_of_mem _ hu)

theorem add_le_next (w : CircleWalk) : w.x + w.y ≤ w.next.x + w.next.y := by
  unfold next
  split <;> simp only <;> omega

/-- A walk goes on along the columns, and a row is only ever given up for a column. -/
theorem le_of_mem_places {w v : CircleWalk} (h : v ∈ w.places) :
    w.x ≤ v.x ∧ w.x + w.y ≤ v.x + v.y := by
  refine forall_mem_places (P := fun v => w.x ≤ v.x ∧ w.x + w.y ≤ v.x + v.y)
    ⟨Int.le_refl _, Int.le_refl _⟩ ?_ v h
  intro u _ _ hu
  have hx := u.next_x
  have hsum := u.add_le_next
  exact ⟨by omega, by omega⟩

theorem y_le_of_mem_places {w v : CircleWalk} (h : v ∈ w.places) : v.y ≤ w.y :=
  forall_mem_places (Int.le_refl _) (fun u _ _ hu => Int.le_trans u.next_y_le hu) v h

/-- A place of a walk is its first one, or the next one of another. -/
theorem eq_or_exists_next_eq {w v : CircleWalk} (h : v ∈ w.places) :
    v = w ∨ ∃ u ∈ w.places, u.next = v :=
  forall_mem_places (P := fun v => v = w ∨ ∃ u ∈ w.places, u.next = v) (.inl rfl)
    (fun u hu _ _ => .inr ⟨u, hu, rfl⟩) v h

end CircleWalk

namespace Canvas

/-- The points of a circle in the order in which they are stamped. -/
def outlineFrom (center : Point) (w : CircleWalk) : List Point :=
  w.places.flatMap (·.octants center)

def outline (center : Point) (radius : Int) : List Point := outlineFrom center (.start radius)

/-- Draws a circle by stamping its whole outline. -/
def plainCircle (c : Canvas) (center : Point) (radius : Int) (color : Color) (size : Int) :
    Canvas :=
  stampAll (brushHalf size) color (outline center radius) c

variable {c : Canvas} {center : Point} {half : Int} {color : Color} {w : CircleWalk}

theorem outlineFrom_of_lt (h : w.y < w.x) : outlineFrom center w = w.octants center := by
  simp [outlineFrom, CircleWalk.places_of_lt h]

theorem outlineFrom_of_le (h : w.x ≤ w.y) :
    outlineFrom center w = w.octants center ++ outlineFrom center w.next := by
  simp [outlineFrom, CircleWalk.places_of_le h]

/-- The points of a place begin the outline from there on. -/
theorem exists_outlineFrom_eq (center : Point) (w : CircleWalk) :
    ∃ rest, outlineFrom center w = w.octants center ++ rest := by
  by_cases h : w.y < w.x
  · exact ⟨[], by simp [outlineFrom_of_lt h]⟩
  · exact ⟨_, outlineFrom_of_le (by omega)⟩

/-- Both offsets of a place are found in every of its points, one along each axis. So a place that
is out of reach along one of them has no stamp that touches the canvas. -/
theorem octants_miss (hc : c.Contains center) (h : c.reach half < w.x ∨ c.reach half < w.y) :
    ∀ p ∈ w.octants center, ∀ q, c.Contains q → ¬Square half p q := by
  intro p hp q hq hsquare
  simp only [CircleWalk.octants, List.mem_cons, List.not_mem_nil, or_false] at hp
  simp only [Contains] at hc hq
  simp only [reach] at h
  simp only [Square] at hsquare
  rcases hp with rfl | rfl | rfl | rfl | rfl | rfl | rfl | rfl <;> simp only at hsquare <;> omega

theorem stampAll_outlineFrom_of_far (hc : c.Contains center)
    (h : ∀ v ∈ w.places, c.reach half < v.x ∨ c.reach half < v.y) :
    stampAll half color (outlineFrom center w) c = c := by
  apply stampAll_of_misses
  intro p hp
  obtain ⟨v, hv, hp⟩ := List.mem_flatMap.mp hp
  exact octants_miss hc (h v hv) p hp

/-! ### The shortcuts -/

theorem stampOctants_fst (hc : c.Contains center) :
    (c.stampOctants center half color w).1 = stampAll half color (w.octants center) c := by
  unfold stampOctants
  split
  · exact stampAlong_fst half color _ c
  · rename_i h
    exact (stampAll_of_misses (octants_miss hc (by omega))).symm

/-- After a stamp that covered the canvas the rest of the circle changes nothing. -/
theorem stampAll_of_stampOctants_snd (h : (c.stampOctants center half color w).2 = true)
    (rest : List Point) :
    stampAll half color (w.octants center ++ rest) c =
      stampAll half color (w.octants center) c := by
  unfold stampOctants at h
  split at h
  · obtain ⟨p, hp, hcovered⟩ := stampAlong_snd_iff.mp h
    exact stampAll_append_of_coveredFrom hp hcovered rest
  · cases h

/-- Behind the columns in reach the rest of the circle changes nothing. -/
theorem stampAll_of_reach_lt (hc : c.Contains center) (h : c.reach half < w.x) :
    stampAll half color (outlineFrom center w) c = c := by
  apply stampAll_outlineFrom_of_far hc
  intro v hv
  have hx := (CircleWalk.le_of_mem_places hv).1
  left
  omega

theorem drawCircleFrom_of_stop {d : Canvas} {covered : Bool}
    (hd : c.stampOctants center half color w = (d, covered))
    (h : covered = true ∨ w.y < w.x ∨ c.reach half < w.x) :
    drawCircleFrom center half color w c = d := by
  rw [drawCircleFrom, hd]
  exact if_pos h

theorem drawCircleFrom_of_goOn {d : Canvas} {covered : Bool}
    (hd : c.stampOctants center half color w = (d, covered))
    (h : ¬(covered = true ∨ w.y < w.x ∨ c.reach half < w.x)) :
    drawCircleFrom center half color w c = drawCircleFrom center half color w.next d := by
  rw [drawCircleFrom, hd]
  exact if_neg h

theorem drawCircleFrom_eq (hc : c.Contains center) :
    drawCircleFrom center half color w c = stampAll half color (outlineFrom center w) c := by
  induction w, c using drawCircleFrom.induct center half color with
  | case1 w c d covered hd hstop =>
    have hfst : d = stampAll half color (w.octants center) c := by
      rw [← stampOctants_fst hc, hd]
    rw [drawCircleFrom_of_stop hd hstop, hfst]
    rcases hstop with hcovered | hend | hfar
    · obtain ⟨rest, hrest⟩ := exists_outlineFrom_eq center w
      rw [hrest]
      exact (stampAll_of_stampOctants_snd (by rw [hd, hcovered]) rest).symm
    · rw [outlineFrom_of_lt hend]
    · rw [stampAll_of_reach_lt hc hfar]
      exact stampAll_of_misses (octants_miss hc (.inl hfar))
  | case2 w c d covered hd hgo ih =>
    have hfst : d = stampAll half color (w.octants center) c := by
      rw [← stampOctants_fst hc, hd]
    have hd' : d.Contains center := by
      rw [hfst]
      exact (painted_stampAll half color _ c).contains_iff.mpr hc
    have hle : w.x ≤ w.y := by omega
    rw [drawCircleFrom_of_goOn hd hgo, ih hd', outlineFrom_of_le hle, stampAll_append, hfst]

theorem two_mul_tdiv_le (n : Int) : 2 * n.tdiv 2 ≤ max 0 n := by
  rcases Int.le_total 0 n with h | h
  · rw [Int.tdiv_eq_ediv_of_nonneg h]
    omega
  · have hle : n.tdiv 2 ≤ Int.tdiv 0 2 := Int.tdiv_le_tdiv (by decide) h
    rw [Int.zero_tdiv] at hle
    omega

/-- The outline of a circle that is too large for the canvas is out of reach. -/
theorem stampAll_outline_of_far (hc : c.Contains center) {radius : Int}
    (hfar : c.reach half < radius.tdiv 2) :
    stampAll half color (outline center radius) c = c := by
  apply stampAll_outlineFrom_of_far hc
  intro v hv
  -- The offsets of a place add up to no less than the radius, so one of them is half of it.
  obtain ⟨hx, hsum⟩ := CircleWalk.le_of_mem_places hv
  have hhalf := two_mul_tdiv_le radius
  simp only [CircleWalk.start] at hsum hx
  omega

/-- A circle is drawn as it would be without its shortcuts. -/
theorem drawCircle_eq_plainCircle (hc : c.Contains center) (radius : Int) (color : Color)
    (size : Int) : c.drawCircle center radius color size = c.plainCircle center radius color size := by
  simp only [drawCircle]
  split
  · rename_i hfar
    exact (stampAll_outline_of_far hc hfar).symm
  · exact drawCircleFrom_eq hc

/-- The whole outline of a circle that is too large for the canvas stamps nothing. -/
theorem plainCircle_of_huge_radius : (blank 3).Contains ⟨1, 1⟩ ∧
    (blank 3).plainCircle ⟨1, 1⟩ 2147483647 .red 3 = blank 3 := by
  have hin : (blank 3).Contains ⟨1, 1⟩ := by decide
  refine ⟨hin, ?_⟩
  have hfar : (blank 3).reach (brushHalf 3) < Int.tdiv 2147483647 2 := by decide
  rw [← drawCircle_eq_plainCircle hin]
  simp only [drawCircle, if_pos hfar]

/-- A circle is stamped along its whole outline, for all its shortcuts. -/
theorem painted_drawCircle (hc : c.Contains center) (radius : Int) (color : Color) (size : Int) :
    Painted (fun q => ∃ p ∈ outline center radius, Square (brushHalf size) p q) color c
      (c.drawCircle center radius color size) := by
  have hall := painted_stampAll (brushHalf size) color (outline center radius) c
  simp only [drawCircle]
  split
  · rename_i hfar
    rwa [stampAll_outline_of_far hc hfar] at hall
  · rwa [drawCircleFrom_eq hc]

end Canvas

end PaintRobot
