import PaintRobot.Proofs.Canvas.Circle

/-!
Circles are symmetric. A flip and an exchange of the axes take the outline of a circle to itself and
the square of a brush to the one around the image, and all symmetries of a square are made of these
two. So the painted part of a circle is symmetric as far as the canvas goes, although the drawing
leaves out stamps that the canvas does not need.
-/
namespace PaintRobot

namespace Point

/-- The point at an offset from a center. -/
def offset (center : Point) (a b : Int) : Point := ⟨center.x + a, center.y + b⟩

/-- The point on the other side of the column of a center. -/
def flip (center p : Point) : Point := center.offset (center.x - p.x) (p.y - center.y)

/-- The point whose offsets from a center along the two axes have changed places. -/
def transpose (center p : Point) : Point := center.offset (p.y - center.y) (p.x - center.x)

/-- The images of a point under the symmetries of a square around a center: the points that have the
same offsets from it, in either direction and along either axis. -/
def images (center p : Point) : List Point :=
  let a := p.x - center.x
  let b := p.y - center.y
  [center.offset a b, center.offset (-a) b, center.offset a (-b), center.offset (-a) (-b),
    center.offset b a, center.offset (-b) a, center.offset b (-a), center.offset (-b) (-a)]

variable {center p q : Point}

theorem exists_eq_offset (center p : Point) : ∃ a b, p = center.offset a b := by
  refine ⟨p.x - center.x, p.y - center.y, ?_⟩
  cases p
  simp only [offset, mk.injEq]
  omega

theorem flip_offset (center : Point) (a b : Int) :
    center.flip (center.offset a b) = center.offset (-a) b := by
  simp only [flip, offset, mk.injEq]
  omega

theorem transpose_offset (center : Point) (a b : Int) :
    center.transpose (center.offset a b) = center.offset b a := by
  simp only [transpose, offset, mk.injEq]
  omega

theorem images_offset (center : Point) (a b : Int) :
    center.images (center.offset a b) =
      [center.offset a b, center.offset (-a) b, center.offset a (-b), center.offset (-a) (-b),
        center.offset b a, center.offset (-b) a, center.offset b (-a), center.offset (-b) (-a)] := by
  have hx : center.x + a - center.x = a := by omega
  have hy : center.y + b - center.y = b := by omega
  simp only [images, offset, hx, hy]

/-- An image of a point is at one of eight offsets. -/
theorem mem_images_offset_iff {a b : Int} :
    q ∈ center.images (center.offset a b) ↔
      q = center.offset a b ∨ q = center.offset (-a) b ∨ q = center.offset a (-b) ∨
        q = center.offset (-a) (-b) ∨ q = center.offset b a ∨ q = center.offset (-b) a ∨
        q = center.offset b (-a) ∨ q = center.offset (-b) (-a) := by
  simp only [images_offset, List.mem_cons, List.not_mem_nil, or_false]

theorem mem_images_comm (h : q ∈ center.images p) : p ∈ center.images q := by
  obtain ⟨a, b, rfl⟩ := center.exists_eq_offset p
  rcases mem_images_offset_iff.mp h with rfl | rfl | rfl | rfl | rfl | rfl | rfl | rfl <;>
    simp [mem_images_offset_iff]

theorem flip_mem_images (h : q ∈ center.images p) : center.flip q ∈ center.images p := by
  obtain ⟨a, b, rfl⟩ := center.exists_eq_offset p
  rcases mem_images_offset_iff.mp h with rfl | rfl | rfl | rfl | rfl | rfl | rfl | rfl <;>
    simp [mem_images_offset_iff, flip_offset]

theorem transpose_mem_images (h : q ∈ center.images p) :
    center.transpose q ∈ center.images p := by
  obtain ⟨a, b, rfl⟩ := center.exists_eq_offset p
  rcases mem_images_offset_iff.mp h with rfl | rfl | rfl | rfl | rfl | rfl | rfl | rfl <;>
    simp [mem_images_offset_iff, transpose_offset]

section

variable {P : Point → Prop} (hflip : ∀ p, P p → P (center.flip p))
  (htranspose : ∀ p, P p → P (center.transpose p))

include hflip htranspose

/-- What a flip and an exchange of the axes preserve holds at all images of a point, since these two
make all the others. -/
theorem of_mem_images (hp : P p) (hq : q ∈ center.images p) : P q := by
  obtain ⟨a, b, rfl⟩ := center.exists_eq_offset p
  have hnegate : ∀ a b, P (center.offset a b) → P (center.offset (-a) b) := by
    intro a b h
    rw [← flip_offset]
    exact hflip _ h
  have hswap : ∀ a b, P (center.offset a b) → P (center.offset b a) := by
    intro a b h
    rw [← transpose_offset]
    exact htranspose _ h
  -- The exchange turns a flip at the column into one at the row.
  have hup : P (center.offset a (-b)) := hswap _ _ (hnegate _ _ (hswap _ _ hp))
  have hturned : P (center.offset b (-a)) := hswap _ _ (hnegate _ _ hp)
  rcases mem_images_offset_iff.mp hq with rfl | rfl | rfl | rfl | rfl | rfl | rfl | rfl
  · exact hp
  · exact hnegate _ _ hp
  · exact hup
  · exact hnegate _ _ hup
  · exact hswap _ _ hp
  · exact hnegate _ _ (hswap _ _ hp)
  · exact hturned
  · exact hnegate _ _ hturned

theorem iff_of_mem_images (hq : q ∈ center.images p) : P p ↔ P q :=
  ⟨fun hp => of_mem_images hflip htranspose hp hq,
    fun hp => of_mem_images hflip htranspose hp (mem_images_comm hq)⟩

end

end Point

/-- The eight points of a place are the images of one of them. -/
theorem CircleWalk.octants_eq_images (w : CircleWalk) (center : Point) :
    w.octants center = center.images (center.offset w.x w.y) := by
  rw [Point.images_offset]
  rfl

namespace Canvas

variable {c : Canvas} {center p q : Point} {radius half : Int}

theorem mem_outline_iff : p ∈ outline center radius ↔
    ∃ w ∈ (CircleWalk.start radius).places, p ∈ center.images (center.offset w.x w.y) := by
  simp only [outline, outlineFrom, List.mem_flatMap, CircleWalk.octants_eq_images]

theorem square_flip (h : Square half p q) : Square half (center.flip p) (center.flip q) := by
  simp only [Square, Point.flip, Point.offset] at h ⊢
  omega

theorem square_transpose (h : Square half p q) :
    Square half (center.transpose p) (center.transpose q) := by
  simp only [Square, Point.transpose, Point.offset] at h ⊢
  omega

/-- A brush that goes along a circle reaches all images of a point or none. -/
theorem exists_square_iff_of_mem_images (hq : q ∈ center.images p) :
    (∃ s ∈ outline center radius, Square half s p) ↔
      ∃ s ∈ outline center radius, Square half s q := by
  apply Point.iff_of_mem_images (P := fun p => ∃ s ∈ outline center radius, Square half s p) _ _ hq
  · rintro p ⟨s, hs, hsquare⟩
    obtain ⟨w, hw, himage⟩ := mem_outline_iff.mp hs
    exact ⟨_, mem_outline_iff.mpr ⟨w, hw, Point.flip_mem_images himage⟩, square_flip hsquare⟩
  · rintro p ⟨s, hs, hsquare⟩
    obtain ⟨w, hw, himage⟩ := mem_outline_iff.mp hs
    exact ⟨_, mem_outline_iff.mpr ⟨w, hw, Point.transpose_mem_images himage⟩,
      square_transpose hsquare⟩

/-- Whether a point is a cell of a circle: drawing it notes the cell where none have been noted. -/
def CircleCell (c : Canvas) (center : Point) (radius : Int) (color : Color) (size : Int)
    (p : Point) : Prop :=
  p ∈ (c.drain.2.drawCircle center radius color size).modified

theorem circleCell_iff (hc : c.Contains center) {color : Color} {size : Int} :
    c.CircleCell center radius color size p ↔
      c.Contains p ∧ ∃ s ∈ outline center radius, Square (brushHalf size) s p := by
  have hpainted := painted_drawCircle (c := c.drain.2) hc radius color size
  have hmodified := hpainted.modified p
  simpa [CircleCell, drain, Contains] using hmodified

/-- A circle is symmetric under the symmetries of a square, clipping aside: drawing it paints its
cells, and if a point and one of its images are both on the canvas then both are cells of the circle
or neither is. -/
theorem drawCircle_paints_symmetric_cells (hc : c.Contains center) (radius : Int) (color : Color)
    (size : Int) :
    Painted (c.CircleCell center radius color size) color c
        (c.drawCircle center radius color size) ∧
      ∀ p, ∀ q ∈ center.images p, c.Contains p → c.Contains q →
        (c.CircleCell center radius color size p ↔ c.CircleCell center radius color size q) := by
  constructor
  · apply (painted_drawCircle hc radius color size).congr
    intro p hp
    rw [circleCell_iff hc, and_iff_right hp]
  · intro p q hq hp hq'
    rw [circleCell_iff hc, circleCell_iff hc, and_iff_right hp, and_iff_right hq']
    exact exists_square_iff_of_mem_images hq

/-- A circle around a cell near the corner, drawn with a wide brush. A cell above the center is
painted, and so is its image to the left of the center; the two that lie opposite to them are off the
canvas. -/
theorem drawCircle_paints_symmetric_cells_near_corner :
    let c := blank 5
    let center : Point := ⟨3, 3⟩
    (c.Contains center ∧ (⟨1, 2⟩ : Point) ∈ center.images ⟨2, 1⟩ ∧ c.Contains ⟨2, 1⟩ ∧
      c.Contains ⟨1, 2⟩) ∧
    Painted (c.CircleCell center 3 .red 3) .red c (c.drawCircle center 3 .red 3) ∧
    c.CircleCell center 3 .red 3 ⟨2, 1⟩ ∧ c.CircleCell center 3 .red 3 ⟨1, 2⟩ := by
  intro c center
  have hc : c.Contains center := by decide
  have himage : (⟨1, 2⟩ : Point) ∈ center.images ⟨2, 1⟩ := by decide
  have hp : c.Contains ⟨2, 1⟩ := by decide
  have hq : c.Contains ⟨1, 2⟩ := by decide
  have hcell : c.CircleCell center 3 .red 3 ⟨2, 1⟩ := by
    rw [circleCell_iff hc]
    have hhalf : brushHalf 3 = 1 := by decide
    exact ⟨hp, ⟨2, 0⟩, by decide +kernel, by simp [Square, hhalf]⟩
  obtain ⟨hpainted, hsymmetric⟩ := drawCircle_paints_symmetric_cells hc 3 .red 3
  exact ⟨⟨hc, himage, hp, hq⟩, hpainted, hcell, (hsymmetric _ _ himage hp hq).mp hcell⟩

end Canvas

end PaintRobot
