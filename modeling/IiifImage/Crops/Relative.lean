import IiifImage.Crops.Relative.ImageIo
import IiifImage.Crops.Relative.Lossless

/-!
# Relative regions that are cropped directly

The `crop` methods of both backends accept relative regions.  They divide the product of
fraction and dimension by a hundred once more, after the parser has done so, and round it up,
while `makeAbsolute` leaves it as it is.  Here the two ways are compared in exact arithmetic.
-/

namespace IiifImage

open Java TurboJpeg

open Coordinates (Starts Proper)

/-! ## The law -/

section Law

open ParameterParser (parseFloatValues parseIiifRegion)

variable {a b c d : ℚ}

/-- Cropping to a region of non-negative percentages agrees with cropping after `makeAbsolute`
exactly when the hundredth parts of its coordinates are refused, or are accepted and select
the same pixels on both axes. -/
theorem relative_crops_asAbsolute_iff {values : JString}
    (read : parseFloatValues .fin values = .ok (.fin a, .fin b, .fin c, .fin d))
    (left : 0 ≤ a) (top : 0 ≤ b) (wide : 0 ≤ c) (tall : 0 ≤ d) {width height : ℕ}
    (widthPos : 0 < width) (heightPos : 0 < height) :
    let x := a * width / 100
    let y := b * height / 100
    let w := c * width / 100
    let h := d * height / 100
    ∃ region, parseIiifRegion .exact .fin (['p', 'c', 't', ':'] ++ values) = .ok (some region) ∧
      ((width * height : ℤ) < maxInt →
        ((∀ {α : Type} (self : JAIImage α) (source : BufferedImage α),
          self.image = some source → source.raster.width = width →
          source.raster.height = height →
          CropsAsAbsolute (JAIImage.crop .exact) self (JAIImage.ShowsPart source) width height
            region) ↔
          JAIImage.Outside width height (x / 100) (y / 100) (w / 100) (h / 100) ∨
            JAIImage.Ends width height (x / 100) (y / 100) (w / 100) (h / 100) ∧
              HundredthsSelectAlike width x w ∧ HundredthsSelectAlike height y h)) ∧
      ∀ {δ : Type} (natives : Natives δ) (data : δ) (image : JpegTranImage δ),
        JpegTranImage.create natives data = .ok image → image.width = width →
        image.height = height →
        (CropsAsAbsolute (JpegTranImage.crop .exact) image (JpegTranImage.Pending image) width
            height region ↔
          JpegTranImage.Excludes width height (x / 100) (y / 100) (w / 100) (h / 100) ∨
            Starts width height (x / 100) (y / 100) (w / 100) (h / 100) ∧
              HundredthsSelectAlike width x w ∧ HundredthsSelectAlike height y h) := by
  intro x y w h
  have coordinates : Coordinates x y w h :=
    RegionParameters.coordinates_ofPercentages left top wide tall width height
  have located := RegionParameters.located_ofPercentages a b c d width height
  refine ⟨_, ParameterParser.parseIiifRegion_percent .exact read,
    fun allocated => ⟨?_, ?_⟩, ?_⟩
  · intro everywhere
    -- an image on which the rectangle can be seen
    let source := BufferedImage.labelled width height widthPos heightPos
    let self : JAIImage (ℕ × ℕ) := ⟨some source, ['J', 'P', 'E', 'G']⟩
    have present : self.image = some source := rfl
    have law := JAIImage.cropsExact present allocated
    exact law.agrees_of_cropsAsAbsolute
      (JAIImage.rect_eq_of_showsPart (Raster.labelled_injective width height)) located
      coordinates (everywhere self source rfl rfl rfl)
  · intro agrees α self source present sameWidth sameHeight
    subst sameWidth sameHeight
    have law := JAIImage.cropsExact present allocated
    rcases agrees with outside | ⟨ends, columns, rows⟩
    · exact law.cropsAsAbsolute_of_refuses located coordinates outside
    · exact law.cropsAsAbsolute_of_agrees located coordinates ends columns rows
  · intro δ natives data image created sameWidth sameHeight
    exact (JpegTranImage.cropsExact created sameWidth sameHeight).cropsAsAbsolute_iff
      (fun _ _ => JpegTranImage.rect_eq_of_pending) located coordinates

/-- The region `pct:50,50,50,50` of an image of two by two pixels is its last pixel in both
ways. -/
theorem relative_crop_asAbsolute_lastPixel :
    ∃ region, parseIiifRegion .exact .fin
        ['p', 'c', 't', ':', '5', '0', ',', '5', '0', ',', '5', '0', ',', '5', '0'] =
          .ok (some region) ∧
      CropsAsAbsolute (JAIImage.crop .exact)
        ⟨some (BufferedImage.labelled 2 2 Nat.two_pos Nat.two_pos), ['J', 'P', 'E', 'G']⟩
        (JAIImage.ShowsPart (BufferedImage.labelled 2 2 Nat.two_pos Nat.two_pos)) 2 2 region := by
  obtain ⟨region, parsed, imageIo, -⟩ := relative_crops_asAbsolute_iff
    (ParameterParser.parseFloatValues_of_read read_fifty read_fifty read_fifty read_fifty)
    (by norm_num) (by norm_num) (by norm_num) (by norm_num) Nat.two_pos Nat.two_pos
  have one : ⌈(50 * (2 : ℕ) / 100 / 100 : ℚ)⌉ = 1 := by norm_num [Int.ceil_eq_iff]
  have axis : HundredthsSelectAlike 2 (50 * (2 : ℕ) / 100) (50 * (2 : ℕ) / 100) := by
    norm_num [HundredthsSelectAlike]
  refine ⟨region, parsed, (imageIo (by decide)).mpr (.inr ⟨⟨⟨?_, ?_, ?_, ?_⟩, ?_, ?_⟩, axis, axis⟩)
    _ _ rfl rfl rfl⟩
  · rw [one]; decide
  · rw [one]; decide
  · norm_num
  · norm_num
  · rw [one]; decide
  · rw [one]; decide

end Law

/-! ## An image of 32 by 32 pixels -/

section Square

open JpegTranImage (ofJpeg squareJpeg create_squareJpeg)

/-- An offset of sixteen pixels is not the same as its hundredth part. -/
theorem not_hundredthsSelectAlike_half :
    ¬HundredthsSelectAlike 32 (50 * (32 : ℕ) / 100) (50 * (32 : ℕ) / 100) := by
  norm_num [HundredthsSelectAlike]

theorem ceil_half_hundredth : ⌈(50 * (32 : ℕ) / 100 / 100 : ℚ)⌉ = 1 := by
  norm_num [Int.ceil_eq_iff]

theorem starts_half_hundredth : Starts 32 32 (50 * (32 : ℕ) / 100 / 100)
    (50 * (32 : ℕ) / 100 / 100) (50 * (32 : ℕ) / 100 / 100) (50 * (32 : ℕ) / 100 / 100) := by
  refine ⟨?_, ?_, by norm_num, by norm_num⟩ <;> rw [ceil_half_hundredth] <;> decide

theorem clip_half_hundredth : (Fits.rounded (50 * (32 : ℕ) / 100 / 100)
    (50 * (32 : ℕ) / 100 / 100) (50 * (32 : ℕ) / 100 / 100)
    (50 * (32 : ℕ) / 100 / 100)).clip 32 32 = ⟨1, 1, 1, 1⟩ := by
  rw [Fits.rounded, ceil_half_hundredth]
  rfl

/-- The region `pct:50,50,50,50` is the last quarter of the image after `makeAbsolute`, and one
pixel at its first corner when it is cropped directly. -/
theorem relative_crop_onePixel :
    ∃ region, ParameterParser.parseIiifRegion .exact .fin
        ['p', 'c', 't', ':', '5', '0', ',', '5', '0', ',', '5', '0', ',', '5', '0'] =
          .ok (some region) ∧
      EStateM.run (RegionParameters.makeAbsolute .exact 32 32) region =
        .ok ⟨⟩ (ImageService.percentRegion 32 32 50 50 50 50) ∧
      (∃ final, EStateM.run (JAIImage.crop .exact region) squareImage = .ok ⟨⟩ final ∧
        JAIImage.ShowsPart (BufferedImage.labelled 32 32 (Nat.succ_pos 31) (Nat.succ_pos 31))
          final ⟨1, 1, 1, 1⟩) ∧
      (∃ final, EStateM.run (JpegTranImage.crop .exact region)
          (ofJpeg (squareJpeg .samp444) .samp444 {}) = .ok ⟨⟩ final ∧
        JpegTranImage.Pending (ofJpeg (squareJpeg .samp444) .samp444 {}) final ⟨1, 1, 1, 1⟩) ∧
      ¬CropsAsAbsolute (JAIImage.crop .exact) squareImage
        (JAIImage.ShowsPart (BufferedImage.labelled 32 32 (Nat.succ_pos 31) (Nat.succ_pos 31)))
        32 32 region ∧
      ¬CropsAsAbsolute (JpegTranImage.crop .exact) (ofJpeg (squareJpeg .samp444) .samp444 {})
        (JpegTranImage.Pending (ofJpeg (squareJpeg .samp444) .samp444 {})) 32 32 region := by
  have imageIo : CropsExact (JAIImage.crop .exact) squareImage
      (JAIImage.ShowsPart (BufferedImage.labelled 32 32 (Nat.succ_pos 31) (Nat.succ_pos 31)))
      32 32 (JAIImage.Ends 32 32) (JAIImage.Outside 32 32) :=
    JAIImage.cropsExact rfl (by unfold BufferedImage.Allocated; decide)
  have lossless : CropsExact (JpegTranImage.crop .exact) (ofJpeg (squareJpeg .samp444) .samp444 {})
      (JpegTranImage.Pending (ofJpeg (squareJpeg .samp444) .samp444 {})) 32 32 (Starts 32 32)
      (JpegTranImage.Excludes 32 32) :=
    JpegTranImage.cropsExact (create_squareJpeg .samp444) rfl rfl
  have injective : (BufferedImage.labelled 32 32 (Nat.succ_pos 31)
      (Nat.succ_pos 31)).raster.Injective := Raster.labelled_injective 32 32
  have fifty : (0 : ℚ) ≤ 50 := by norm_num
  have coordinates := RegionParameters.coordinates_ofPercentages fifty fifty fifty fifty 32 32
  have shownIo := imageIo.selects coordinates.hundredth ⟨starts_half_hundredth,
    by rw [ceil_half_hundredth]; decide, by rw [ceil_half_hundredth]; decide⟩
  have shownLossless := lossless.selects coordinates.hundredth starts_half_hundredth
  have located := RegionParameters.located_ofPercentages 50 50 50 50 32 32
  rw [← imageIo.sameBounds located.hundredth, clip_half_hundredth] at shownIo
  rw [← lossless.sameBounds located.hundredth, clip_half_hundredth] at shownLossless
  refine ⟨_, ParameterParser.parseIiifRegion_percent .exact
    (ParameterParser.parseFloatValues_of_read read_fifty read_fifty read_fifty read_fifty),
    located.made (by norm_num), shownIo, shownLossless, ?_, ?_⟩
  · intro alike
    rcases (imageIo.cropsAsAbsolute_iff (JAIImage.rect_eq_of_showsPart injective) located
      coordinates).mp alike with outside | ⟨-, columns, -⟩
    · rcases outside with left | top
      · exact left.not_gt starts_half_hundredth.left
      · exact top.not_gt starts_half_hundredth.top
    · exact not_hundredthsSelectAlike_half columns
  · intro alike
    rcases (lossless.cropsAsAbsolute_iff (fun _ _ => JpegTranImage.rect_eq_of_pending) located
      coordinates).mp alike with excluded | ⟨-, columns, -⟩
    · exact (JpegTranImage.excludes_iff coordinates.hundredth).mp excluded starts_half_hundredth
    · exact not_hundredthsSelectAlike_half columns

end Square

end IiifImage
