import IiifImage.Crops.Relative.Coordinates

/-!
# Two ways to crop to a relative region

A relative region is cropped directly or after `makeAbsolute`.  On a backend that crops exact
regions the two ways are the same if the hundredth parts of the coordinates are refused, or are
accepted and select the same pixels.
-/

namespace IiifImage

open Java TurboJpeg

/-! ## The two ways -/

def Rejects {σ α : Type} (method : Method Throwable σ α) (state : σ) : Prop :=
  ∃ message final, EStateM.run method state = .error (.invalidParameters message) final

/-- Cropping to a region, and to what `makeAbsolute` makes of it, are both rejected as
invalid, or both select one non-empty rectangle inside the image. -/
def CropsAsAbsolute {σ : Type} (crop : RegionParameters → Method Throwable σ Unit)
    (created : σ) (selected : σ → Rect → Prop) (width height : ℕ) (region : RegionParameters) :
    Prop :=
  (Rejects (crop region) created ∧
    (Rejects (RegionParameters.makeAbsolute .exact width height) region ∨
      ∃ absolute, EStateM.run (RegionParameters.makeAbsolute .exact width height) region =
          .ok ⟨⟩ absolute ∧ Rejects (crop absolute) created)) ∨
  ∃ rect : Rect, ((0 < rect.width ∧ 0 < rect.height) ∧ rect.Inside width height) ∧
    (∃ final, EStateM.run (crop region) created = .ok ⟨⟩ final ∧ selected final rect) ∧
    ∃ absolute final, EStateM.run (RegionParameters.makeAbsolute .exact width height) region =
        .ok ⟨⟩ absolute ∧
      EStateM.run (crop absolute) created = .ok ⟨⟩ final ∧ selected final rect

namespace RegionParameters

/-- The relative region that the parser makes of four percentages. -/
def ofPercentages (a b c d : ℚ) : RegionParameters :=
  ofFractions (a / 100) (b / 100) (c / 100) (d / 100)

/-- A relative region is cropped like an absolute one with the hundredth parts of its exact
coordinates. -/
theorem bounds_ofPercentages (a b c d : ℚ) (width height : ℕ) :
    (ofPercentages a b c d).bounds .exact width height =
      (ofRats (a * width / 100 / 100) (b * height / 100 / 100) (c * width / 100 / 100)
        (d * height / 100 / 100)).bounds .exact width height := by
  have axis : ∀ (percent : ℚ) (size : ℕ), percentOf .exact size (.fin (percent / 100)) =
      (JFloat.fin (percent * size / 100 / 100)).ceilToInt := by
    intro percent size
    have hundred : (100 : ℚ) ≠ 0 := by norm_num
    have product : (size : ℚ) * (percent / 100) / 100 = percent * size / 100 / 100 := by ring
    simp only [percentOf, Rounding.exact_ofInt, Rounding.mul_fin, Rounding.exact_result,
      Int.cast_natCast, Int.cast_ofNat]
    rw [Rounding.div_fin _ _ hundred, Rounding.exact_result, product]
  simp only [bounds, ofPercentages, ofFractions, ofRats, Bool.false_eq_true, if_false, if_true,
    axis]

theorem outlies_ofPercentages_iff (a b c d : ℚ) (width height : ℕ) :
    (ofPercentages a b c d).Outlies .exact width height ↔
      (width : ℚ) < a * width / 100 ∨ (height : ℚ) < b * height / 100 := by
  simp only [Outlies, ofPercentages, ofFractions, Rounding.exact_ofInt, Rounding.mul_fin,
    Rounding.exact_result, JFloat.gt_fin, Bool.or_eq_true, decide_eq_true_eq, Int.cast_natCast,
    div_mul_eq_mul_div]

theorem absoluteOf_ofPercentages (a b c d : ℚ) (width height : ℕ) :
    (ofPercentages a b c d).absoluteOf .exact width height =
      ImageService.percentRegion width height a b c d := by
  rw [ofPercentages, absoluteOf_ofFractions]
  simp only [ImageService.percentRegion, Int.cast_natCast, div_mul_eq_mul_div]

theorem coordinates_ofPercentages {a b c d : ℚ} (left : 0 ≤ a) (top : 0 ≤ b) (wide : 0 ≤ c)
    (tall : 0 ≤ d) (width height : ℕ) :
    Coordinates (a * width / 100) (b * height / 100) (c * width / 100) (d * height / 100) := by
  constructor <;> positivity

/-- What the two ways make of a relative region with given exact coordinates in pixels. -/
structure Located (region : RegionParameters) (width height : ℕ) (x y w h : ℚ) : Prop where
  hundredth : region.bounds .exact width height =
    (ofRats (x / 100) (y / 100) (w / 100) (h / 100)).bounds .exact width height
  made : x ≤ width ∧ y ≤ height → EStateM.run (makeAbsolute .exact width height) region =
    .ok ⟨⟩ (ofRats x y (min w (width - x)) (min h (height - y)))
  refused : ¬(x ≤ width ∧ y ≤ height) → Rejects (makeAbsolute .exact width height) region

theorem located_ofPercentages (a b c d : ℚ) (width height : ℕ) :
    (ofPercentages a b c d).Located width height (a * width / 100) (b * height / 100)
      (c * width / 100) (d * height / 100) where
  hundredth := bounds_ofPercentages a b c d width height
  made := by
    intro inside
    have inlies : ¬(ofPercentages a b c d).Outlies .exact width height := by
      rw [outlies_ofPercentages_iff]
      exact not_or.mpr ⟨inside.1.not_gt, inside.2.not_gt⟩
    rw [run_makeAbsolute_of_not_outlies rfl inlies, absoluteOf_ofPercentages,
      ImageService.percentRegion]
  refused := by
    intro outside
    rw [not_and_or, not_le, not_le, ← outlies_ofPercentages_iff] at outside
    rcases run_makeAbsolute_of_outlies outside with ⟨message, refused⟩
    exact ⟨message, _, refused⟩

theorem Located.inside_of_made {region absolute : RegionParameters} {width height : ℕ}
    {x y w h : ℚ} (located : region.Located width height x y w h)
    (made : EStateM.run (makeAbsolute .exact width height) region = .ok ⟨⟩ absolute) :
    x ≤ width ∧ y ≤ height := by
  by_contra outside
  rcases located.refused outside with ⟨message, final, refused⟩
  rw [made] at refused
  cases refused

end RegionParameters

/-! ## Backends in general -/

open Coordinates (Starts Proper)

/-- How the image of a backend crops exact regions with non-negative coordinates.  A region
that it accepts is selected, clipped to the image; one that it refuses is rejected as invalid;
any other one ends in another exception, or selects something else. -/
structure CropsExact {σ : Type} (crop : RegionParameters → Method Throwable σ Unit)
    (created : σ) (selected : σ → Rect → Prop) (width height : ℕ)
    (Accepts Refuses : ℚ → ℚ → ℚ → ℚ → Prop) : Prop where
  sameBounds : ∀ {region region' : RegionParameters},
    region.bounds .exact width height = region'.bounds .exact width height →
      EStateM.run (crop region) created = EStateM.run (crop region') created
  rejects_iff : ∀ {x y w h : ℚ}, Coordinates x y w h →
    (Rejects (crop (.ofRats x y w h)) created ↔ Refuses x y w h)
  starts : ∀ {x y w h : ℚ}, Accepts x y w h → Starts width height x y w h
  selects : ∀ {x y w h : ℚ}, Coordinates x y w h → Accepts x y w h → ∃ final,
    EStateM.run (crop (.ofRats x y w h)) created = .ok ⟨⟩ final ∧
      selected final ((Fits.rounded x y w h).clip width height)
  accepts : ∀ {x y w h : ℚ} {final : σ} {rect : Rect}, Coordinates x y w h →
    EStateM.run (crop (.ofRats x y w h)) created = .ok ⟨⟩ final → selected final rect →
    Proper width height rect → ⌈x⌉ ≤ rect.x → ⌈y⌉ ≤ rect.y → Accepts x y w h
  starts_clamped : ∀ {x y w h : ℚ} {final : σ},
    Coordinates x y (min w (width - x)) (min h (height - y)) →
    EStateM.run (crop (.ofRats x y (min w (width - x)) (min h (height - y)))) created =
      .ok ⟨⟩ final →
    Starts width height x y w h
  accepts_clamped : ∀ {x y w h : ℚ}, Coordinates x y w h → Starts width height x y w h →
    Accepts x y (min w (width - x)) (min h (height - y))
  refuses_clamped : ∀ {x y w h : ℚ}, Coordinates x y w h → x ≤ width → y ≤ height →
    Refuses (x / 100) (y / 100) (w / 100) (h / 100) →
      Refuses x y (min w (width - x)) (min h (height - y))

namespace CropsExact

variable {σ : Type} {crop : RegionParameters → Method Throwable σ Unit} {created : σ}
variable {selected : σ → Rect → Prop} {width height : ℕ}
variable {Accepts Refuses : ℚ → ℚ → ℚ → ℚ → Prop} {region : RegionParameters} {x y w h : ℚ}

/-- A region that is refused directly is refused after `makeAbsolute`, if not by it. -/
theorem cropsAsAbsolute_of_refuses
    (law : CropsExact crop created selected width height Accepts Refuses)
    (located : region.Located width height x y w h) (coordinates : Coordinates x y w h)
    (refused : Refuses (x / 100) (y / 100) (w / 100) (h / 100)) :
    CropsAsAbsolute crop created selected width height region := by
  have rejected : Rejects (crop region) created := by
    rw [Rejects, law.sameBounds located.hundredth]
    exact (law.rejects_iff coordinates.hundredth).mpr refused
  refine .inl ⟨rejected, ?_⟩
  by_cases inside : x ≤ width ∧ y ≤ height
  · refine .inr ⟨_, located.made inside, ?_⟩
    rw [law.rejects_iff (coordinates.clamped inside.1 inside.2)]
    exact law.refuses_clamped coordinates inside.1 inside.2 refused
  · exact .inl (located.refused inside)

theorem cropsAsAbsolute_of_agrees
    (law : CropsExact crop created selected width height Accepts Refuses)
    (located : region.Located width height x y w h) (coordinates : Coordinates x y w h)
    (accepted : Accepts (x / 100) (y / 100) (w / 100) (h / 100))
    (columns : HundredthsSelectAlike width x w) (rows : HundredthsSelectAlike height y h) :
    CropsAsAbsolute crop created selected width height region := by
  have hundredths := law.starts accepted
  have starts : Starts width height x y w h :=
    ⟨columns.1.2, rows.1.2, by linarith [hundredths.wide], by linarith [hundredths.tall]⟩
  have inside : x ≤ width ∧ y ≤ height := ⟨starts.offsets.1.le, starts.offsets.2.le⟩
  rcases law.selects coordinates.hundredth accepted with ⟨direct, ran, shown⟩
  rcases law.selects (coordinates.clamped inside.1 inside.2)
    (law.accepts_clamped coordinates starts) with ⟨final, ranAbsolute, shownAbsolute⟩
  rw [← (coordinates.clip_eq_iff_agrees starts).mpr ⟨columns, rows⟩] at shownAbsolute
  refine .inr ⟨_, coordinates.hundredth.proper_clip hundredths, ⟨direct, ?_, shown⟩, _, final,
    located.made inside, ranAbsolute, shownAbsolute⟩
  rw [law.sameBounds located.hundredth]
  exact ran

/-- A crop that returns shows the clipped rectangle of a region that is accepted. -/
theorem rect_eq_of_accepts
    (law : CropsExact crop created selected width height Accepts Refuses)
    (unique : ∀ {final : σ} {rect rect' : Rect}, Proper width height rect →
      Proper width height rect' → selected final rect → selected final rect' → rect = rect')
    {final : σ} {rect : Rect} (coordinates : Coordinates x y w h) (accepted : Accepts x y w h)
    (ran : EStateM.run (crop (.ofRats x y w h)) created = .ok ⟨⟩ final)
    (shown : selected final rect) (proper : Proper width height rect) :
    rect = (Fits.rounded x y w h).clip width height := by
  rcases law.selects coordinates accepted with ⟨_, ranAgain, shownClip⟩
  rw [ranAgain] at ran
  cases ran
  exact unique proper (coordinates.proper_clip (law.starts accepted)) shown shownClip

/-- Where an image shows its rectangle, the two ways lead to the same one only if both axes
agree. -/
theorem agrees_of_cropsAsAbsolute
    (law : CropsExact crop created selected width height Accepts Refuses)
    (unique : ∀ {final : σ} {rect rect' : Rect}, Proper width height rect →
      Proper width height rect' → selected final rect → selected final rect' → rect = rect')
    (located : region.Located width height x y w h) (coordinates : Coordinates x y w h)
    (alike : CropsAsAbsolute crop created selected width height region) :
    Refuses (x / 100) (y / 100) (w / 100) (h / 100) ∨
      Accepts (x / 100) (y / 100) (w / 100) (h / 100) ∧
        HundredthsSelectAlike width x w ∧ HundredthsSelectAlike height y h := by
  rcases alike with ⟨rejected, -⟩ | ⟨rect, proper, ⟨direct, ran, shown⟩, absolute, final, made,
    ranAbsolute, shownAbsolute⟩
  · rw [Rejects, law.sameBounds located.hundredth] at rejected
    exact .inl ((law.rejects_iff coordinates.hundredth).mp rejected)
  · rw [law.sameBounds located.hundredth] at ran
    have inside := located.inside_of_made made
    have clamped := coordinates.clamped inside.1 inside.2
    rw [located.made inside] at made
    cases made
    -- the absolute region starts inside and determines the rectangle
    have starts := law.starts_clamped clamped ranAbsolute
    have sameAbsolute := law.rect_eq_of_accepts unique clamped
      (law.accepts_clamped coordinates starts) ranAbsolute shownAbsolute proper
    have columns : (rect.x : ℤ) = ⌈x⌉ := by
      rw [sameAbsolute]
      exact Fits.toNat_ceil coordinates.left
    have rows : (rect.y : ℤ) = ⌈y⌉ := by
      rw [sameAbsolute]
      exact Fits.toNat_ceil coordinates.top
    -- so does the direct crop, whose offsets are not larger
    have accepted := law.accepts coordinates.hundredth ran shown proper
      (columns ▸ ceil_hundredth_le coordinates.left) (rows ▸ ceil_hundredth_le coordinates.top)
    have sameDirect := law.rect_eq_of_accepts unique coordinates.hundredth accepted ran shown
      proper
    exact .inr ⟨accepted,
      (coordinates.clip_eq_iff_agrees starts).mp (sameDirect.symm.trans sameAbsolute)⟩

theorem cropsAsAbsolute_iff
    (law : CropsExact crop created selected width height Accepts Refuses)
    (unique : ∀ {final : σ} {rect rect' : Rect}, Proper width height rect →
      Proper width height rect' → selected final rect → selected final rect' → rect = rect')
    (located : region.Located width height x y w h) (coordinates : Coordinates x y w h) :
    CropsAsAbsolute crop created selected width height region ↔
      Refuses (x / 100) (y / 100) (w / 100) (h / 100) ∨
        Accepts (x / 100) (y / 100) (w / 100) (h / 100) ∧
          HundredthsSelectAlike width x w ∧ HundredthsSelectAlike height y h := by
  refine ⟨law.agrees_of_cropsAsAbsolute unique located coordinates, ?_⟩
  intro agrees
  rcases agrees with refused | ⟨accepted, columns, rows⟩
  · exact law.cropsAsAbsolute_of_refuses located coordinates refused
  · exact law.cropsAsAbsolute_of_agrees located coordinates accepted columns rows

end CropsExact

end IiifImage
