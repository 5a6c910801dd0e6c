import IiifImage.Crops.Relative.TwoWays

/-!
# Relative regions on the lossless backend

The crop of an exact region is recorded with its rectangle, or is refused.
-/

namespace IiifImage

open Java TurboJpeg

open Coordinates (Starts Proper)

namespace JpegTranImage

variable {δ : Type} {natives : Natives δ} {image : JpegTranImage δ} {data : δ}
variable {width height : ℕ}

/-- The rectangle is pending on the file. -/
def Pending (original image : JpegTranImage δ) (rect : Rect) : Prop :=
  image = { original with jpegImage :=
    { original.jpegImage with transformOptions := JpegImage.pending rect .none } }

theorem rect_eq_of_pending {original : JpegTranImage δ} {rect rect' : Rect}
    (shown : Pending original image rect) (shown' : Pending original image rect') :
    rect = rect' := by
  have same := shown.symm.trans shown'
  have options := congrArg (fun image => image.jpegImage.transformOptions) same
  have x := congrArg TJTransform.x options
  have y := congrArg TJTransform.y options
  have columns := congrArg TJTransform.width options
  have rows := congrArg TJTransform.height options
  exact Rect.ext (Int.ofNat_inj.mp x) (Int.ofNat_inj.mp y) (Int.ofNat_inj.mp columns)
    (Int.ofNat_inj.mp rows)

theorem run_crop_congr {region region' : RegionParameters}
    (same : region.bounds .exact image.width image.height =
      region'.bounds .exact image.width image.height) :
    EStateM.run (crop .exact region) image = EStateM.run (crop .exact region') image := by
  rw [crop, crop, Method.run_get_bind, Method.run_get_bind, same]

/-- A region starts outside, or has no column or no row. -/
def Excludes (width height : ℕ) (x y w h : ℚ) : Prop :=
  ((width : ℤ) ≤ ⌈x⌉ ∨ (height : ℤ) ≤ ⌈y⌉) ∨ w = 0 ∨ h = 0

theorem excludes_iff {x y w h : ℚ} (coordinates : Coordinates x y w h) :
    Excludes width height x y w h ↔ ¬Starts width height x y w h := by
  have wide := coordinates.wide.eq_or_lt
  have tall := coordinates.tall.eq_or_lt
  constructor
  · rintro ((left | top) | rfl | rfl) starts
    · exact left.not_gt starts.left
    · exact top.not_gt starts.top
    · exact lt_irrefl _ starts.wide
    · exact lt_irrefl _ starts.tall
  · intro misses
    by_contra accepted
    simp only [Excludes, not_or, not_le] at accepted
    rcases accepted with ⟨⟨left, top⟩, widthNe, heightNe⟩
    exact misses ⟨left, top, wide.resolve_left (Ne.symm widthNe),
      tall.resolve_left (Ne.symm heightNe)⟩

section Created

variable {x y w h : ℚ}

/-- The sides of a created image are positive and in the range of `int`. -/
theorem sides_of_create (created : create natives data = .ok image)
    (sameWidth : image.width = width) (sameHeight : image.height = height) :
    ((width : ℤ) ≤ maxInt ∧ (height : ℤ) ≤ maxInt) ∧ 0 < width ∧ 0 < height := by
  have range := cached_range (cached_of_create created)
  have large : (maxDimension : ℤ) < maxInt := by decide
  omega

theorem selects_iff_starts (created : create natives data = .ok image)
    (sameWidth : image.width = width) (sameHeight : image.height = height)
    (coordinates : Coordinates x y w h) :
    (RegionParameters.ofRats x y w h).Selects image.width image.height ↔
      Starts width height x y w h := by
  rcases sides_of_create created sameWidth sameHeight with ⟨⟨columns, rows⟩, wide, tall⟩
  rw [sameWidth, sameHeight, coordinates.selects_iff columns rows wide tall]

/-- A region that starts inside is recorded. -/
theorem run_crop_of_starts (created : create natives data = .ok image)
    (sameWidth : image.width = width) (sameHeight : image.height = height)
    (coordinates : Coordinates x y w h) (starts : Starts width height x y w h) :
    ∃ final, EStateM.run (crop .exact (.ofRats x y w h)) image = .ok ⟨⟩ final ∧
      Pending image final ((Fits.rounded x y w h).clip width height) := by
  rcases sides_of_create created sameWidth sameHeight with ⟨⟨columns, rows⟩, -, -⟩
  rcases coordinates.saturated_inside starts with ⟨⟨left, top⟩, -, -⟩
  have selects := (selects_iff_starts created sameWidth sameHeight coordinates).mpr starts
  refine ⟨_, run_crop_of_selects .exact (cached_of_create created) rfl selects, ?_⟩
  rw [Pending, cropped_eq_pending (idle_of_create created) rfl sameWidth sameHeight
    (coordinates.bounds_of_starts starts columns rows .exact _ _) left top,
    Coordinates.clip_saturated columns rows coordinates]

theorem rejects_of_not_starts (created : create natives data = .ok image)
    (sameWidth : image.width = width) (sameHeight : image.height = height)
    (coordinates : Coordinates x y w h) (misses : ¬Starts width height x y w h) :
    Rejects (crop .exact (.ofRats x y w h)) image := by
  rw [← selects_iff_starts created sameWidth sameHeight coordinates] at misses
  obtain ⟨message, refused⟩ :=
    run_crop_of_not_selects .exact (cached_of_create created) rfl misses
  exact ⟨message, image, refused⟩

theorem starts_of_returned (created : create natives data = .ok image)
    (sameWidth : image.width = width) (sameHeight : image.height = height)
    (coordinates : Coordinates x y w h) {final : JpegTranImage δ}
    (ran : EStateM.run (crop .exact (.ofRats x y w h)) image = .ok ⟨⟩ final) :
    Starts width height x y w h := by
  by_contra misses
  rcases rejects_of_not_starts created sameWidth sameHeight coordinates misses with
    ⟨message, _, refused⟩
  rw [refused] at ran
  cases ran

end Created

theorem cropsExact (created : create natives data = .ok image) (sameWidth : image.width = width)
    (sameHeight : image.height = height) :
    CropsExact (crop .exact) image (Pending image) width height (Starts width height)
      (Excludes width height) := by
  have returned := fun {x y w h : ℚ} => starts_of_returned (x := x) (y := y) (w := w) (h := h)
    created sameWidth sameHeight
  constructor
  case sameBounds =>
    intro region region' same
    apply run_crop_congr
    rw [sameWidth, sameHeight]
    exact same
  case rejects_iff =>
    intro x y w h coordinates
    rw [excludes_iff coordinates]
    refine ⟨?_, rejects_of_not_starts created sameWidth sameHeight coordinates⟩
    rintro ⟨message, final, refused⟩ starts
    rcases run_crop_of_starts created sameWidth sameHeight coordinates starts with ⟨_, ran, -⟩
    rw [ran] at refused
    cases refused
  case starts => exact fun starts => starts
  case selects => exact run_crop_of_starts created sameWidth sameHeight
  case accepts => exact fun coordinates ran _ _ _ _ => returned coordinates ran
  case starts_clamped =>
    intro x y w h final coordinates ran
    exact (returned coordinates ran).of_clamped
  case accepts_clamped => exact fun _ starts => starts.clamped
  case refuses_clamped =>
    intro x y w h coordinates left top refused
    rw [excludes_iff (coordinates.clamped left top)]
    intro starts
    exact (excludes_iff coordinates.hundredth).mp refused
      (starts.of_clamped.hundredth coordinates)

end JpegTranImage

end IiifImage
