import IiifImage.Java.Quotient
import IiifImage.Sizes.Targets

/-!
# Target dimensions in binary arithmetic

The constructor divides, multiplies and rounds up.  The machine rounds the quotient and the
product to 24 binary digits.  A remainder of integers is the error of the quotient.  It is
multiplied by the dimension, and the result is rounded up to another pixel when it passes the
middle between two floats.
-/

namespace IiifImage

open Java

namespace SizeRequest

/-- The width and height that the constructor computes for a request. -/
def resolvedSize (fp : Rounding) (request : SizeRequest) (W H : ℤ) :
    Except Throwable (ℤ × ℤ) := do
  let resolved ←
    ResizeParameters.resolve fp request.parameters (fp.ofInt W) (fp.ofInt H)
  return (resolved.width, resolved.height)

/-- The machine computes the same dimensions as exact arithmetic. -/
def SameSize (request : SizeRequest) (W H : ℤ) : Prop :=
  resolvedSize .single request W H = resolvedSize .exact request W H

/-- The products of a quotient with both dimensions keep their pixel counts. -/
def KeepsCounts (a b W H : ℤ) : Prop :=
  Binary.KeepsCount 23 a.toNat b.toNat W.toNat ∧ Binary.KeepsCount 23 a.toNat b.toNat H.toNat

instance (a b W H : ℤ) : Decidable (KeepsCounts a b W H) := inferInstanceAs (Decidable (_ ∧ _))

/-- Both products are far enough from the integers around them. -/
def HasMargins (a b W H : ℤ) : Prop :=
  Binary.HasMargin 23 a.toNat b.toNat W.toNat ∧ Binary.HasMargin 23 a.toNat b.toNat H.toNat

instance (a b W H : ℤ) : Decidable (HasMargins a b W H) := inferInstanceAs (Decidable (_ ∧ _))

section Counts

variable {fp : Rounding} {request : SizeRequest} {W H : ℤ} {width height factor : ℚ} {a b : ℤ}

theorem resolvedSize_of_calculated
    (calculation : ResizeParameters.calculated fp request.parameters (fp.ofInt W) (fp.ofInt H) =
      .ok (.fin width, .fin height)) :
    resolvedSize fp request W H = .ok (saturate ⌈width⌉, saturate ⌈height⌉) := by
  rw [resolvedSize, ResizeParameters.resolve, calculation]
  rfl

/-- A number of pixels that is an `int` is not the result of a clamp. -/
theorem saturate_eq_iff {m n : ℤ} (low : 0 ≤ n) (high : n < maxInt) :
    saturate m = n ↔ m = n := by
  unfold maxInt at high
  unfold saturate minInt maxInt
  omega

/-- The sides and the numbers of a request are shorter than a significand. -/
theorem keepsCount_iff (dividend : 1 ≤ a ∧ a ≤ 65500) (divisor : 1 ≤ b) {size : ℤ}
    (positive : 1 ≤ size) :
    ⌈Binary.nearest 23 (Binary.nearest 23 ((a : ℚ) / b) * size)⌉ = ⌈(a : ℚ) / b * size⌉ ↔
      Binary.KeepsCount 23 a.toNat b.toNat size.toNat := by
  lift a to ℕ using by omega
  lift b to ℕ using by omega
  lift size to ℕ using by omega
  exact Binary.ceil_nearest_product_iff (by omega) (by omega) (by omega) (by omega)

/-- The machine and exact arithmetic agree if both products keep their counts. -/
theorem sameSize_iff_keepsCounts (dividend : 1 ≤ a ∧ a ≤ 65500) (divisor : 1 ≤ b)
    (quotient : factor = a / b)
    (columns : 1 ≤ W ∧ factor * W ≤ 42991800) (rows : 1 ≤ H ∧ factor * H ≤ 42991800)
    (rounded : ResizeParameters.calculated .single request.parameters
        (Rounding.single.ofInt W) (Rounding.single.ofInt H) =
      .ok (.fin (Rounding.single.round (Rounding.single.round factor * W)),
        .fin (Rounding.single.round (Rounding.single.round factor * H))))
    (unrounded : ResizeParameters.calculated .exact request.parameters (Rounding.exact.ofInt W)
        (Rounding.exact.ofInt H) =
      .ok (.fin (Rounding.exact.round (Rounding.exact.round factor * W)),
        .fin (Rounding.exact.round (Rounding.exact.round factor * H)))) :
    SameSize request W H ↔ KeepsCounts a b W H := by
  have nonneg : 0 ≤ factor := by
    rw [quotient]
    have dividendCast : (0 : ℚ) ≤ a := by exact_mod_cast (by omega : 0 ≤ a)
    have divisorCast : (0 : ℚ) ≤ b := by exact_mod_cast (by omega : 0 ≤ b)
    positivity
  have range : ∀ {size : ℤ}, 1 ≤ size → factor * size ≤ 42991800 →
      0 ≤ ⌈factor * size⌉ ∧ ⌈factor * size⌉ < maxInt := by
    intro size positive small
    have castNonneg : (0 : ℚ) ≤ size := by exact_mod_cast (by omega : 0 ≤ size)
    have below : ⌈factor * size⌉ ≤ 42991800 := Int.ceil_le.mpr (by exact_mod_cast small)
    refine ⟨Int.ceil_nonneg (mul_nonneg nonneg castNonneg), ?_⟩
    unfold maxInt
    omega
  rcases range columns.1 columns.2 with ⟨lowWidth, highWidth⟩
  rcases range rows.1 rows.2 with ⟨lowHeight, highHeight⟩
  rw [SameSize, resolvedSize_of_calculated rounded, resolvedSize_of_calculated unrounded]
  simp only [Rounding.exact_round, Rounding.single_round, Except.ok.injEq, Prod.mk.injEq]
  rw [saturate_of_range (minInt_le_of_nonneg lowWidth) highWidth.le,
    saturate_of_range (minInt_le_of_nonneg lowHeight) highHeight.le,
    saturate_eq_iff lowWidth highWidth, saturate_eq_iff lowHeight highHeight, quotient,
    keepsCount_iff dividend divisor columns.1, keepsCount_iff dividend divisor rows.1, KeepsCounts]

end Counts

/-! ## The law -/

section Law

variable {W H : ℤ}

/-- The sides of a JPEG file are floats. -/
theorem ofInt_of_side (fp : Rounding) {n : ℤ} (positive : 1 ≤ n) (small : n ≤ 65500) :
    fp.ofInt n = .fin n := by
  apply fp.ofInt_of_small
  rw [abs_of_pos (by omega)]
  omega

theorem sameSize_percent_iff (wide : 1 ≤ W ∧ W ≤ 65500) (tall : 1 ≤ H ∧ H ≤ 65500) {n : ℤ}
    (positive : 1 ≤ n) (small : n ≤ 65500) :
    SameSize (percent n) W H ↔ KeepsCounts n 100 W H := by
  have calculation : ∀ fp : Rounding, (∀ q, fp.overflows q = false) →
      ResizeParameters.calculated fp (percent n).parameters
      (fp.ofInt W) (fp.ofInt H) = .ok (.fin (fp.round (fp.round (n / 100) * W)),
        .fin (fp.round (fp.round (n / 100) * H))) := by
    intro fp unlimited
    rw [ofInt_of_side fp wide.1 wide.2, ofInt_of_side fp tall.1 tall.2]
    exact calculated_percent fp unlimited (by omega) (ofInt_of_side fp positive small)
  have castNonneg : (0 : ℚ) ≤ n := by exact_mod_cast (by omega : 0 ≤ n)
  have castLe : (n : ℚ) ≤ 65500 := by exact_mod_cast small
  have bound : ∀ {side : ℤ}, 1 ≤ side ∧ side ≤ 65500 → (n : ℚ) / 100 * side ≤ 42991800 := by
    intro side range
    have sideNonneg : (0 : ℚ) ≤ side := by exact_mod_cast (by omega : 0 ≤ side)
    have sideLe : (side : ℚ) ≤ 65500 := by exact_mod_cast range.2
    nlinarith
  exact sameSize_iff_keepsCounts ⟨positive, small⟩ (by decide) rfl ⟨wide.1, bound wide⟩
    ⟨tall.1, bound tall⟩ (calculation .single fun _ => rfl) (calculation .exact fun _ => rfl)

/-- The quotient of the side that limits the result. -/
theorem fitFactor_eq {w h : ℤ} (wide : 1 ≤ W) (tall : 1 ≤ H) :
    fitFactor w h W H = if w * H ≤ h * W then (w : ℚ) / W else (h : ℚ) / H := by
  have widthPos : (0 : ℚ) < W := by exact_mod_cast wide
  have heightPos : (0 : ℚ) < H := by exact_mod_cast tall
  rw [fitFactor, min_def]
  refine ite_congr (propext ?_) (fun _ => rfl) fun _ => rfl
  rw [div_le_div_iff₀ widthPos heightPos]
  exact_mod_cast Iff.rfl

theorem sameSize_bestFit_iff (wide : 1 ≤ W ∧ W ≤ 65500) (tall : 1 ≤ H ∧ H ≤ 65500) {w h : ℤ}
    (widePos : 1 ≤ w) (wideLe : w ≤ 65500) (tallPos : 1 ≤ h) (tallLe : h ≤ 65500) :
    SameSize (bestFit w h) W H ↔ (w > W ∧ h > H) ∨
      if w * H ≤ h * W then KeepsCounts w W W H else KeepsCounts h H W H := by
  have calculation : ∀ fp : Rounding, (∀ q, fp.overflows q = false) →
      ResizeParameters.calculated fp (bestFit w h).parameters
      (fp.ofInt W) (fp.ofInt H) = if w > W ∧ h > H then .ok (.fin (-1), .fin (-1))
        else .ok (.fin (fp.round (fp.round (fitFactor w h W H) * W)),
          .fin (fp.round (fp.round (fitFactor w h W H) * H))) := by
    intro fp unlimited
    rw [ofInt_of_side fp wide.1 wide.2, ofInt_of_side fp tall.1 tall.2]
    exact calculated_bestFit fp unlimited (by omega) (by omega) wide.1 tall.1
      (ofInt_of_side fp widePos wideLe) (ofInt_of_side fp tallPos tallLe)
  by_cases within : w > W ∧ h > H
  · -- the marker in both arithmetics
    simp only [within, and_self, if_true] at calculation
    refine iff_of_true ?_ (.inl within)
    rw [SameSize, resolvedSize_of_calculated (calculation .single fun _ => rfl),
      resolvedSize_of_calculated (calculation .exact fun _ => rfl)]
  · simp only [within, if_false] at calculation
    have wideCast : (w : ℚ) ≤ 42991800 := by exact_mod_cast (by omega : w ≤ 42991800)
    have tallCast : (h : ℚ) ≤ 42991800 := by exact_mod_cast (by omega : h ≤ 42991800)
    have columns := (fitFactor_mul_width_le (w := w) (h := h) (H := H) wide.1).trans wideCast
    have rows := (fitFactor_mul_height_le (w := w) (h := h) (W := W) tall.1).trans tallCast
    have limiting := fitFactor_eq (w := w) (h := h) wide.1 tall.1
    have same : ∀ {a b : ℤ}, 1 ≤ a ∧ a ≤ 65500 → 1 ≤ b → fitFactor w h W H = a / b →
        (SameSize (bestFit w h) W H ↔ KeepsCounts a b W H) :=
      fun dividend divisor quotient =>
        sameSize_iff_keepsCounts dividend divisor quotient ⟨wide.1, columns⟩ ⟨tall.1, rows⟩
          (calculation .single fun _ => rfl) (calculation .exact fun _ => rfl)
    rw [or_iff_right within]
    split
    next narrow =>
      rw [if_pos narrow] at limiting
      exact same ⟨widePos, wideLe⟩ wide.1 limiting
    next high =>
      rw [if_neg high] at limiting
      exact same ⟨tallPos, tallLe⟩ tall.1 limiting

theorem keepsCounts_of_hasMargins (wide : 1 ≤ W) (tall : 1 ≤ H) {a b : ℤ} (positive : 1 ≤ a)
    (small : a ≤ 65500) (divisor : 1 ≤ b) (margins : HasMargins a b W H) :
    KeepsCounts a b W H := by
  lift a to ℕ using by omega
  lift b to ℕ using by omega
  lift W to ℕ using by omega
  lift H to ℕ using by omega
  exact ⟨Binary.keepsCount_of_hasMargin (by omega) (by omega) (by omega) (by omega) margins.1,
    Binary.keepsCount_of_hasMargin (by omega) (by omega) (by omega) (by omega) margins.2⟩

/-- Rounding to floats does not change the pixel counts of a percentage exactly when both
products keep their counts, and those of a box exactly when both do or the image is smaller
than the box.  The counts are kept where the exact products are far enough from integers. -/
theorem sameSize_iff (wide : 1 ≤ W ∧ W ≤ 65500) (tall : 1 ≤ H ∧ H ≤ 65500) :
    (∀ n : ℤ, 1 ≤ n → n ≤ 65500 → (SameSize (percent n) W H ↔ KeepsCounts n 100 W H)) ∧
    (∀ w h : ℤ, 1 ≤ w → w ≤ 65500 → 1 ≤ h → h ≤ 65500 →
      (SameSize (bestFit w h) W H ↔ (w > W ∧ h > H) ∨
        if w * H ≤ h * W then KeepsCounts w W W H else KeepsCounts h H W H)) ∧
    ∀ a b : ℤ, 1 ≤ a → a ≤ 65500 → 1 ≤ b → HasMargins a b W H → KeepsCounts a b W H :=
  ⟨fun _ positive small => sameSize_percent_iff wide tall positive small,
    fun _ _ widePos wideLe tallPos tallLe =>
      sameSize_bestFit_iff wide tall widePos wideLe tallPos tallLe,
    fun _ _ positive small divisor margins =>
      keepsCounts_of_hasMargins wide.1 tall.1 positive small divisor margins⟩

/-- A third and a half of an image of a hundred by sixty pixels, and a third of one of 101 by
61, which leaves a margin. -/
theorem sameSize_third :
    SameSize (percent 33) 100 60 ∧ SameSize (bestFit 50 50) 100 60 ∧
      SameSize (percent 33) 101 61 := by
  rcases sameSize_iff (W := 100) (H := 60) (by decide) (by decide) with ⟨percentages, boxes, -⟩
  rcases sameSize_iff (W := 101) (H := 61) (by decide) (by decide) with ⟨percentages', -, margin⟩
  exact ⟨(percentages 33 (by decide) (by decide)).mpr (by decide +kernel),
    (boxes 50 50 (by decide) (by decide) (by decide) (by decide)).mpr (by decide +kernel),
    (percentages' 33 (by decide) (by decide)).mpr
      (margin 33 100 (by decide) (by decide) (by decide) (by decide +kernel))⟩

/-- The box `!7,7` of an image of thirteen by thirteen pixels is exceeded by a pixel in both
directions, and fifteen percent of a hundred pixels are sixteen. -/
theorem rounding_adds_pixel :
    ParameterParser.parseIiifSize ['!', '7', ',', '7'] = .ok (some (bestFit 7 7).parameters) ∧
    resolvedSize .single (bestFit 7 7) 13 13 = .ok (8, 8) ∧
    resolvedSize .exact (bestFit 7 7) 13 13 = .ok (7, 7) ∧
    ¬SameSize (bestFit 7 7) 13 13 ∧
    resolvedSize .single (percent 15) 100 100 = .ok (16, 16) ∧
    resolvedSize .exact (percent 15) 100 100 = .ok (15, 15) ∧
    ¬SameSize (percent 15) 100 100 := by
  have box : resolvedSize .single (bestFit 7 7) 13 13 = .ok (8, 8) := by decide +kernel
  have exactBox : resolvedSize .exact (bestFit 7 7) 13 13 = .ok (7, 7) := by decide +kernel
  have part : resolvedSize .single (percent 15) 100 100 = .ok (16, 16) := by decide +kernel
  have exactPart : resolvedSize .exact (percent 15) 100 100 = .ok (15, 15) := by decide +kernel
  refine ⟨by decide, box, exactBox, ?_, part, exactPart, ?_⟩
  · rw [SameSize, box, exactBox]
    simp
  · rw [SameSize, part, exactPart]
    simp

end Law

end SizeRequest

end IiifImage
