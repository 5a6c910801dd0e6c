import IiifImage.Coefficients.Picture

/-!
# Transforms of coefficients and transforms of pixels

The library that works on decoded images takes every operation as the pixel permutation
it is named after.  The routines on coefficients agree with it, also in their errors,
when `jtransform_perfect_transform` allows the operation, and on an image whose pixels
identify their position only then.
-/

namespace IiifImage.Coefficients

open TurboJpeg

def jtransformPerfectTransform (imageWidth imageHeight mcuWidth mcuHeight : ℕ) : TJOp → Bool
  | .hflip | .rot270 => imageWidth % mcuWidth = 0
  | .vflip | .rot90 => imageHeight % mcuHeight = 0
  | .transverse | .rot180 => imageWidth % mcuWidth = 0 ∧ imageHeight % mcuHeight = 0
  | .none | .transpose => true

namespace CoefficientImage

section Decoded

variable {K σ : Type} [CommRing K] (basis : Dct.Basis 8 K) (level : K → σ)

/-- The decoded image. -/
def toJpeg (image : CoefficientImage) : Jpeg (List (Option σ)) where
  raster := image.picture basis level
  hSampFactor := image.maxH
  vSampFactor := image.maxV
  colorspace := image.colorspace
  width_pos := image.width_pos
  height_pos := image.height_pos
  width_le := image.width_le
  height_le := image.height_le

variable {image : CoefficientImage} {t : TJTransform}

/-- The call of `jtransform_perfect_transform` in `jtransform_request_workspace`. -/
def perfect (image : CoefficientImage) (t : TJTransform) : Bool :=
  if (image.processed t).length = 1 then
    jtransformPerfectTransform image.width image.height dctSize dctSize t.op
  else jtransformPerfectTransform image.width image.height (image.maxH * dctSize)
    (image.maxV * dctSize) t.op

/-- A perfect transform leaves no partial MCU unmirrored. -/
theorem perfect_iff : image.perfect t = true ↔
    (t.op.orientation.flipX = true → image.iMCUSampleWidth t ∣ image.turnedWidth t.op) ∧
      (t.op.orientation.flipY = true → image.iMCUSampleHeight t ∣ image.turnedHeight t.op) := by
  rw [perfect, iMCUSampleWidth, iMCUSampleHeight, turnedWidth, turnedHeight]
  by_cases one : (image.processed t).length = 1
  · cases op : t.op <;>
      simp [one, jtransformPerfectTransform, TJOp.orientation, Nat.dvd_iff_mod_eq_zero, and_comm]
  · cases op : t.op <;>
      simp [one, jtransformPerfectTransform, TJOp.orientation, Nat.dvd_iff_mod_eq_zero, and_comm]

/-- The decoded image has a level of subsampling if the file has one. -/
theorem getSubsamp_toJpeg (determined : image.getSubsamp.isSome = true) :
    (image.toJpeg basis level).getSubsamp.isSome = true := by
  by_cases gray : image.colorspace = .gray
  · rw [Jpeg.getSubsamp]
    exact congrArg Option.isSome (if_pos gray)
  · have listed : (image.toJpeg basis level).getSubsamp =
        [Subsamp.samp444, .samp422, .samp420, .samp440, .samp411].find? fun subsamp =>
          image.maxH = subsamp.mcuWidth / 8 ∧ image.maxV = subsamp.mcuHeight / 8 :=
      if_neg gray
    have regular := regular_of_getSubsamp determined
    rw [getSubsamp, if_neg gray] at determined
    rw [listed]
    rcases List.find?_isSome.mp determined with ⟨subsamp, listed, sampled⟩
    rw [List.find?_isSome]
    cases components : image.components with
    | nil => exact absurd components image.components_ne_nil
    | cons first rest =>
        have full := regular.first first (by rw [components]; rfl)
        have parts : infos image.components = first.toComponentInfo :: infos rest := by
          rw [components]
          rfl
        rw [sampledAs, parts] at sampled
        rcases of_decide_eq_true sampled with ⟨hFirst, vFirst, -⟩ | ⟨hFirst, vFirst, -⟩
        · refine ⟨subsamp, listed, decide_eq_true ⟨?_, ?_⟩⟩
          · exact full.1.symm.trans hFirst
          · exact full.2.symm.trans vFirst
        · refine ⟨.samp420, by simp, decide_eq_true ⟨?_, ?_⟩⟩
          · exact full.1.symm.trans hFirst
          · exact full.2.symm.trans vFirst

theorem singleComponent_toJpeg (orientation : Orientation) :
    ((image.toJpeg basis level).turned orientation).singleComponent t = true ↔
      (image.processed t).length = 1 := by
  rw [length_processed_eq_one_iff, Jpeg.singleComponent, decide_eq_true_iff]
  exact Iff.rfl

theorem iMCUSampleWidth_toJpeg : ((image.toJpeg basis level).turned
    t.op.orientation).iMCUSampleWidth t = image.iMCUSampleWidth t := by
  rw [Jpeg.iMCUSampleWidth, iMCUSampleWidth]
  exact if_congr (singleComponent_toJpeg basis level _) rfl rfl

theorem iMCUSampleHeight_toJpeg : ((image.toJpeg basis level).turned
    t.op.orientation).iMCUSampleHeight t = image.iMCUSampleHeight t := by
  rw [Jpeg.iMCUSampleHeight, iMCUSampleHeight]
  exact if_congr (singleComponent_toJpeg basis level _) rfl rfl

/-- The largest factors of the destination. -/
theorem maxH_transformed {info : TransformInfo} {result : CoefficientImage}
    (transformed : Transformed image t info result) : result.maxH =
      if (image.processed t).length = 1 then 1
      else if t.op.orientation.transpose then image.maxV else image.maxH := by
  apply Nat.eq_of_mul_eq_mul_right (show 0 < dctSize by decide)
  rw [maxH, transformed.infos_eq, maxHSampFactor_adjusted, iMCUSampleWidth]
  split_ifs <;> simp

theorem maxV_transformed {info : TransformInfo} {result : CoefficientImage}
    (transformed : Transformed image t info result) : result.maxV =
      if (image.processed t).length = 1 then 1
      else if t.op.orientation.transpose then image.maxH else image.maxV := by
  apply Nat.eq_of_mul_eq_mul_right (show 0 < dctSize by decide)
  rw [maxV, transformed.infos_eq, maxVSampFactor_adjusted, iMCUSampleHeight]
  split_ifs <;> simp

/-- Decoded images with the same parts are the same. -/
theorem jpeg_eq_of_parts {α : Type} {left right : Jpeg α} (raster : left.raster = right.raster)
    (hSampFactor : left.hSampFactor = right.hSampFactor)
    (vSampFactor : left.vSampFactor = right.vSampFactor)
    (colorspace : left.colorspace = right.colorspace) : left = right := by
  cases left
  cases right
  cases raster
  cases hSampFactor
  cases vSampFactor
  cases colorspace
  rfl

/-- Once an area has been selected, the parameters are adjusted alike and the pictures
are the same. -/
theorem adjusted_refines {info : TransformInfo} (undefined : Undefined)
    (determined : image.getSubsamp.isSome = true) (perfect : image.perfect t = true)
    (requested : image.requestWorkspace t = .ok info)
    (aligned : t.hasCrop = true → Jpeg.jdimension t.x % info.iMCUSampleWidth = 0 ∧
      Jpeg.jdimension t.y % info.iMCUSampleHeight = 0)
    {selected : Jpeg (List (Option σ))}
    (raster : selected.raster = (t.op.orientation • image.picture basis level).crop
      (image.selectedRect t info))
    (factors : selected.hSampFactor = ((image.toJpeg basis level).turned
        t.op.orientation).hSampFactor ∧
      selected.vSampFactor = ((image.toJpeg basis level).turned t.op.orientation).vSampFactor ∧
      selected.colorspace = image.colorspace) :
    (image.tjTransform undefined t).map (Except.map (toJpeg basis level)) =
      some (selected.adjustParameters luma t) := by
  have regular := regular_of_getSubsamp determined
  have fitted := fitted_of_requestWorkspace requested
  rcases factors with ⟨hFactor, vFactor, space⟩
  by_cases refused : image.RefusesGray t
  · have unsuitable : ¬(selected.colorspace = .ycbcr ∨ selected.colorspace = .gray) := by
      rw [space]
      exact fun suitable => refused.2 ⟨suitable, regular.first⟩
    rw [tjTransform_refused undefined determined requested aligned refused,
      Jpeg.adjustParameters, if_pos refused.1, if_neg unsuitable]
    rfl
  · rcases tjTransform_transformed undefined determined requested aligned refused with
      ⟨result, run, transformed⟩
    have all := perfect_iff.mp perfect
    have picture := transformed.picture_eq basis level regular refused fitted
    rw [Raster.turnWhole_eq_smul _ _ (fun flipped => .inl (all.1 flipped))
      (fun flipped => .inl (all.2 flipped)), ← raster] at picture
    have maxH_eq := maxH_transformed transformed
    have maxV_eq := maxV_transformed transformed
    have single := image.length_processed_eq_one_iff t
    have colorspace := transformed.colorspace_eq
    rw [targetSpace] at colorspace
    rw [run, Option.map_some, Except.map]
    congr 1
    rw [Jpeg.adjustParameters]
    by_cases gray : t.hasGray
    · have suitable := (not_not.mp (not_and.mp refused gray)).1
      have one : (image.processed t).length = 1 := by
        rw [single]
        rcases suitable with ycbcr | gray'
        · exact .inr ⟨gray, ycbcr⟩
        · exact .inl gray'
      rw [if_pos gray] at picture colorspace
      rw [if_pos one] at maxH_eq maxV_eq
      rw [if_pos gray, if_pos (by rwa [space])]
      congr 1
      exact jpeg_eq_of_parts picture maxH_eq maxV_eq colorspace
    · rw [if_neg gray] at picture colorspace
      rw [if_neg gray]
      have sameRaster : (result.picture basis level) = selected.raster := by
        rw [picture]
        ext1
        · rfl
        · rfl
        · funext i j
          exact Option.map_id_apply
      by_cases grayscale : image.colorspace = .gray
      · rw [if_pos (single.mpr (.inl grayscale))] at maxH_eq maxV_eq
        rw [if_pos (space.trans grayscale)]
        congr 1
        exact jpeg_eq_of_parts sameRaster maxH_eq maxV_eq (colorspace.trans space.symm)
      · have several : ¬(image.processed t).length = 1 := by
          rw [single]
          rintro (grayscale' | ⟨gray', -⟩)
          · exact grayscale grayscale'
          · exact gray gray'
        rw [if_neg several] at maxH_eq maxV_eq
        rw [if_neg (by rwa [space])]
        congr 1
        exact jpeg_eq_of_parts sameRaster (maxH_eq.trans hFactor.symm)
          (maxV_eq.trans vFactor.symm) (colorspace.trans space.symm)

/-- A crop request depends on the dimensions only. -/
theorem cropArea_congr {t : TJTransform} {width height width' height' : ℕ}
    (sameWidth : width = width') (sameHeight : height = height') :
    (Jpeg.cropArea t width height).map (fun area => area.rect) =
      (Jpeg.cropArea t width' height').map (fun area => area.rect) := by
  subst sameWidth sameHeight
  rfl

/-- The rectangle of a crop request starts where the transform says. -/
theorem rect_of_cropArea {t : TJTransform} {width height : ℕ} {area : Jpeg.CropArea width height}
    (valid : Jpeg.cropArea t width height = some area) :
    area.rect.x = Jpeg.jdimension t.x ∧ area.rect.y = Jpeg.jdimension t.y := by
  rw [Jpeg.cropArea] at valid
  split_ifs at valid <;>
    · cases valid
      exact ⟨rfl, rfl⟩

/-- The workspace of a valid crop request. -/
theorem requestWorkspace_of_area (cropping : t.hasCrop = true)
    {chosen : Jpeg.CropArea (image.turnedWidth t.op) (image.turnedHeight t.op)}
    (area : Jpeg.cropArea t (image.turnedWidth t.op) (image.turnedHeight t.op) = some chosen) :
    ∃ info, image.requestWorkspace t = .ok info ∧
      info.iMCUSampleWidth = image.iMCUSampleWidth t ∧
      info.iMCUSampleHeight = image.iMCUSampleHeight t ∧
      (chosen.rect.x % image.iMCUSampleWidth t = 0 →
        chosen.rect.y % image.iMCUSampleHeight t = 0 →
        image.selectedRect t info = chosen.rect) := by
  rw [requestWorkspace, if_pos cropping, area]
  refine ⟨_, rfl, rfl, rfl, ?_⟩
  intro left top
  rw [selectedRect]
  ext1
  · exact Nat.div_mul_cancel (Nat.dvd_of_mod_eq_zero left)
  · exact Nat.div_mul_cancel (Nat.dvd_of_mod_eq_zero top)
  · dsimp only
    rw [left, Nat.add_zero]
  · dsimp only
    rw [top, Nat.add_zero]

/-- A perfect transform of the coefficients is the transform of the decoded image, also in
its errors. -/
theorem tjTransform_refines (undefined : Undefined) (determined : image.getSubsamp.isSome = true)
    (perfect : image.perfect t = true) :
    (image.tjTransform undefined t).map (Except.map (toJpeg basis level)) =
      some ((image.toJpeg basis level).tjTransform luma t) := by
  rcases Option.isSome_iff_exists.mp (getSubsamp_toJpeg basis level determined) with
    ⟨subsamp, decoded⟩
  rcases Option.isSome_iff_exists.mp determined with ⟨subsamp', sampled⟩
  rw [Jpeg.tjTransform, decoded]
  dsimp only
  have width : ((image.toJpeg basis level).turned t.op.orientation).raster.width =
      image.turnedWidth t.op := Raster.width_smul _ _
  have height : ((image.toJpeg basis level).turned t.op.orientation).raster.height =
      image.turnedHeight t.op := Raster.height_smul _ _
  rw [Jpeg.selectArea, iMCUSampleWidth_toJpeg, iMCUSampleHeight_toJpeg]
  by_cases cropping : t.hasCrop
  · have sameRect := cropArea_congr (t := t) width height
    rw [if_pos cropping]
    cases area : Jpeg.cropArea t (image.turnedWidth t.op) (image.turnedHeight t.op) with
    | none =>
        rw [area, Option.map_none] at sameRect
        have failed : image.requestWorkspace t = .error (.tj (some "Invalid crop request")) := by
          rw [requestWorkspace, if_pos cropping, area]
        rw [Option.map_eq_none_iff.mp sameRect]
        simp only [tjTransform, sampled, failed]
        rfl
    | some chosen =>
        rw [area, Option.map_some] at sameRect
        rcases Option.map_eq_some_iff.mp sameRect with ⟨selected, valid, isChosen⟩
        rcases rect_of_cropArea area with ⟨left, top⟩
        rcases requestWorkspace_of_area cropping area with
          ⟨info, requested, unitWidth, unitHeight, rect⟩
        rw [valid]
        dsimp only
        rw [isChosen]
        by_cases aligned : chosen.rect.x % image.iMCUSampleWidth t = 0 ∧
            chosen.rect.y % image.iMCUSampleHeight t = 0
        · rw [if_pos aligned]
          apply adjusted_refines basis level undefined determined perfect requested
          · intro _
            rw [unitWidth, unitHeight, ← left, ← top]
            exact aligned
          · rw [rect aligned.1 aligned.2, ← isChosen]
            rfl
          · exact ⟨rfl, rfl, rfl⟩
        · rw [if_neg aligned]
          have complaint : t.hasCrop ∧ ¬(Jpeg.jdimension t.x % info.iMCUSampleWidth = 0 ∧
              Jpeg.jdimension t.y % info.iMCUSampleHeight = 0) := by
            rw [unitWidth, unitHeight, ← left, ← top]
            exact ⟨cropping, aligned⟩
          simp only [tjTransform, sampled, requested, if_pos complaint]
          rw [unitWidth, unitHeight]
          rfl
  · have requested : image.requestWorkspace t = .ok _ := if_neg cropping
    rw [if_neg cropping]
    apply adjusted_refines basis level undefined determined perfect requested
      (fun cropped => absurd cropped cropping)
    · symm
      apply Raster.crop_eq_self
      · exact Nat.zero_mul _
      · exact Nat.zero_mul _
      · exact width.le
      · exact height.le
    · exact ⟨rfl, rfl, rfl⟩

theorem tjTransform_refines_gradient :
    (gradient.tjTransform .cleared { op := .transpose }).map
        (Except.map (toJpeg (Dct.linear 8) id)) =
      some ((gradient.toJpeg (Dct.linear 8) id).tjTransform luma { op := .transpose }) :=
  tjTransform_refines (Dct.linear 8) id .cleared rfl (by decide)

/-- Without cropping and conversion, an image whose pixels identify their position is
turned as it should be exactly if no mirrored axis has a partial MCU, or it has only
one pixel. -/
theorem picture_turned_iff (undefined : Undefined) (determined : image.getSubsamp.isSome = true)
    (uncropped : t.hasCrop = false) (colored : t.hasGray = false)
    (injective : (image.picture basis level).Injective) :
    (∃ result, image.tjTransform undefined t = some (.ok result) ∧
        result.picture basis level = t.op.orientation • image.picture basis level) ↔
      (t.op.orientation.flipX = true →
        image.iMCUSampleWidth t ∣ image.turnedWidth t.op ∨ image.turnedWidth t.op = 1) ∧
      (t.op.orientation.flipY = true →
        image.iMCUSampleHeight t ∣ image.turnedHeight t.op ∨ image.turnedHeight t.op = 1) := by
  have notCropped : ¬t.hasCrop = true := by simp [uncropped]
  have notGray : ¬t.hasGray = true := by simp [colored]
  have accepted : ¬image.RefusesGray t := fun refused => notGray refused.1
  have requested : image.requestWorkspace t = .ok _ := if_neg notCropped
  rcases tjTransform_transformed undefined determined requested
    (fun cropped => absurd cropped notCropped) accepted with ⟨result, run, transformed⟩
  have picture := transformed.picture_eq basis level (regular_of_getSubsamp determined) accepted
    (fitted_of_requestWorkspace requested)
  have whole : result.picture basis level =
      Raster.turnWhole t.op.orientation (image.iMCUSampleWidth t) (image.iMCUSampleHeight t)
        (image.picture basis level) := by
    rw [picture, if_neg notGray, Raster.crop_eq_self]
    · ext1
      · rfl
      · rfl
      · funext i j
        exact Option.map_id_apply
    · exact Nat.zero_mul _
    · exact Nat.zero_mul _
    · exact (Raster.width_turnWhole _ _ _ _).le
    · exact (Raster.height_turnWhole _ _ _ _).le
  have exact : Raster.turnWhole t.op.orientation (image.iMCUSampleWidth t)
        (image.iMCUSampleHeight t) (image.picture basis level) =
        t.op.orientation • image.picture basis level ↔
      (t.op.orientation.flipX = true →
        image.iMCUSampleWidth t ∣ image.turnedWidth t.op ∨ image.turnedWidth t.op = 1) ∧
      (t.op.orientation.flipY = true →
        image.iMCUSampleHeight t ∣ image.turnedHeight t.op ∨ image.turnedHeight t.op = 1) :=
    Raster.turnWhole_eq_smul_iff _ injective image.width_pos image.height_pos
  refine Iff.trans ?_ exact
  constructor
  · rintro ⟨other, returned, turned⟩
    rw [run] at returned
    cases returned
    exact whole.symm.trans turned
  · intro turned
    exact ⟨result, run, whole.trans turned⟩

/-- The two pixels of the gradient differ. -/
theorem injective_gradient : (gradient.picture (Dct.linear 8) id).Injective := by
  have first : gradient.color (Dct.linear 8) id 0 0 = [some 700] := by decide
  have second : gradient.color (Dct.linear 8) id 1 0 = [some 500] := by decide
  intro i j i' j' column row same
  change i < 2 at column
  change j < 1 at row
  obtain rfl : j = 0 := by omega
  have inside : i' < 2 ∧ j' < 1 := by
    by_contra outside
    have nothing : (gradient.picture (Dct.linear 8) id).pixel i' j' = none := if_neg outside
    have something : (gradient.picture (Dct.linear 8) id).pixel i 0 =
        some (gradient.color (Dct.linear 8) id i 0) := if_pos ⟨column, row⟩
    rw [nothing, something] at same
    cases same
  obtain rfl : j' = 0 := by omega
  have colors : gradient.color (Dct.linear 8) id i 0 = gradient.color (Dct.linear 8) id i' 0 := by
    have shown : (gradient.picture (Dct.linear 8) id).pixel i 0 =
        some (gradient.color (Dct.linear 8) id i 0) := if_pos ⟨column, row⟩
    have shown' : (gradient.picture (Dct.linear 8) id).pixel i' 0 =
        some (gradient.color (Dct.linear 8) id i' 0) := if_pos inside
    rw [shown, shown'] at same
    exact Option.some.inj same
  have cases : i = 0 ∨ i = 1 := by omega
  have cases' : i' = 0 ∨ i' = 1 := by omega
  rcases cases with rfl | rfl <;> rcases cases' with rfl | rfl
  · exact ⟨rfl, rfl⟩
  · rw [first, second] at colors
    cases colors
  · rw [first, second] at colors
    cases colors
  · exact ⟨rfl, rfl⟩

theorem picture_turned_iff_gradient :
    ¬∃ result, gradient.tjTransform .cleared { op := .hflip } = some (.ok result) ∧
      result.picture (Dct.linear 8) id =
        TJOp.hflip.orientation • gradient.picture (Dct.linear 8) id := by
  rw [picture_turned_iff (t := { op := .hflip }) (Dct.linear 8) id .cleared rfl rfl rfl
    injective_gradient]
  decide

end Decoded

end CoefficientImage

end IiifImage.Coefficients
