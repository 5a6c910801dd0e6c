import IiifImage.Sizes.Grammar

/-!
# Target dimensions

What a size request asks for, in exact arithmetic.  The constructor finds it through the
aspect ratio or one of four factors; the largest factor that fits a box explains them all.
-/

namespace IiifImage

open Java

/-! ## Fitting a box -/

/-- The largest factor that scales the dimensions to fit in a box. -/
def fitFactor (w h W H : ℤ) : ℚ := min (w / W) (h / H)

/-- The dimensions fit in the box `w` by `h`, fill it in one direction, and do not exceed
those they come from. -/
structure FitsBox (w h W H width height : ℤ) : Prop where
  width_le_box : width ≤ w
  height_le_box : height ≤ h
  tight : width = w ∨ height = h
  width_le : width ≤ W
  height_le : height ≤ H

section Box

variable {w h W H : ℤ}

theorem fitFactor_mul_width_le (wide : 1 ≤ W) : fitFactor w h W H * W ≤ w := by
  have positive : (0 : ℚ) < W := by exact_mod_cast wide
  calc fitFactor w h W H * W ≤ w / W * W :=
        mul_le_mul_of_nonneg_right (min_le_left _ _) positive.le
    _ = w := div_mul_cancel₀ _ positive.ne'

theorem fitFactor_mul_height_le (tall : 1 ≤ H) : fitFactor w h W H * H ≤ h := by
  have positive : (0 : ℚ) < H := by exact_mod_cast tall
  calc fitFactor w h W H * H ≤ h / H * H :=
        mul_le_mul_of_nonneg_right (min_le_right _ _) positive.le
    _ = h := div_mul_cancel₀ _ positive.ne'

/-- One of the two quotients is the factor. -/
theorem fitFactor_tight (wide : 1 ≤ W) (tall : 1 ≤ H) :
    fitFactor w h W H * W = w ∨ fitFactor w h W H * H = h := by
  have widthPos : (0 : ℚ) < W := by exact_mod_cast wide
  have heightPos : (0 : ℚ) < H := by exact_mod_cast tall
  rcases min_choice ((w : ℚ) / W) (h / H) with chosen | chosen
  · left
    rw [fitFactor, chosen, div_mul_cancel₀ _ widthPos.ne']
  · right
    rw [fitFactor, chosen, div_mul_cancel₀ _ heightPos.ne']

/-- A box that is not larger in both directions does not enlarge the image. -/
theorem fitFactor_le_one (wide : 1 ≤ W) (tall : 1 ≤ H) (bounded : ¬(w > W ∧ h > H)) :
    fitFactor w h W H ≤ 1 := by
  have widthPos : (0 : ℚ) < W := by exact_mod_cast wide
  have heightPos : (0 : ℚ) < H := by exact_mod_cast tall
  by_cases narrow : w ≤ W
  · apply (min_le_left _ _).trans
    rw [div_le_one widthPos]
    exact_mod_cast narrow
  · have low : h ≤ H := by omega
    apply (min_le_right _ _).trans
    rw [div_le_one heightPos]
    exact_mod_cast low

theorem fitFactor_pos (wide : 1 ≤ W) (tall : 1 ≤ H) (widePos : 0 < w) (tallPos : 0 < h) :
    0 < fitFactor w h W H := by
  have widthPos : (0 : ℚ) < W := by exact_mod_cast wide
  have heightPos : (0 : ℚ) < H := by exact_mod_cast tall
  apply lt_min
  · exact div_pos (by exact_mod_cast widePos) widthPos
  · exact div_pos (by exact_mod_cast tallPos) heightPos

theorem fitsBox_of_bounded (wide : 1 ≤ W) (tall : 1 ≤ H) (bounded : ¬(w > W ∧ h > H)) :
    FitsBox w h W H ⌈fitFactor w h W H * W⌉ ⌈fitFactor w h W H * H⌉ where
  width_le_box := Int.ceil_le.mpr (fitFactor_mul_width_le wide)
  height_le_box := Int.ceil_le.mpr (fitFactor_mul_height_le tall)
  tight := by
    rcases fitFactor_tight (w := w) (h := h) wide tall with full | full
    · left
      rw [full, Int.ceil_intCast]
    · right
      rw [full, Int.ceil_intCast]
  width_le := by
    have positive : (0 : ℚ) < W := by exact_mod_cast wide
    exact Int.ceil_le.mpr (mul_le_of_le_one_left positive.le (fitFactor_le_one wide tall bounded))
  height_le := by
    have positive : (0 : ℚ) < H := by exact_mod_cast tall
    exact Int.ceil_le.mpr (mul_le_of_le_one_left positive.le (fitFactor_le_one wide tall bounded))

end Box

namespace SizeRequest

/-- The dimensions that a request asks for, with the marker for an image within the box. -/
def target (W H : ℤ) : SizeRequest → ℤ × ℤ
  | percent n => (⌈(n * W / 100 : ℚ)⌉, ⌈(n * H / 100 : ℚ)⌉)
  | width w => (w, ⌈(w * H / W : ℚ)⌉)
  | height h => (⌈(h * W / H : ℚ)⌉, h)
  | bestFit w h =>
      if w > W ∧ h > H then (-1, -1)
      else (⌈fitFactor w h W H * W⌉, ⌈fitFactor w h W H * H⌉)
  | exact w h => (w, h)

section Resolution

variable {request : SizeRequest} {W H : ℤ}

/-- A percentage is divided by a hundred first. -/
theorem calculated_percent (fp : Rounding) (unlimited : ∀ q, fp.overflows q = false) {n : ℤ}
    (given : 0 < n) (isFloat : fp.ofInt n = .fin n) :
    ResizeParameters.calculated fp (percent n).parameters (.fin W) (.fin H) =
      .ok (.fin (fp.round (fp.round (n / 100) * W)),
        .fin (fp.round (fp.round (n / 100) * H))) := by
  have hundred : fp.ofInt 100 = .fin 100 := fp.ofInt_of_small (by decide)
  rw [ResizeParameters.calculated]
  dsimp only
  rw [if_neg (by simp [parameters]), if_neg (by simp [parameters]),
    if_neg (by simp [parameters]), if_pos ⟨rfl, rfl, rfl, rfl, given⟩]
  simp only [parameters, hundred, isFloat, Rounding.div_fin _ _ (by norm_num : (100 : ℚ) ≠ 0),
    Rounding.result_of_unlimited unlimited, Rounding.mul_fin]

/-- A given width is divided by the aspect ratio. -/
theorem calculated_width (fp : Rounding) {w : ℤ} (given : 0 < w) :
    ResizeParameters.calculated fp (width w).parameters (.fin W) (.fin H) =
      .ok (fp.ofInt w, fp.div (fp.ofInt w) (fp.div (.fin W) (.fin H))) :=
  if_pos ⟨given, rfl, rfl, rfl⟩

/-- A given height is multiplied by the aspect ratio. -/
theorem calculated_height (fp : Rounding) {h : ℤ} (given : 0 < h) :
    ResizeParameters.calculated fp (height h).parameters (.fin W) (.fin H) =
      .ok (fp.mul (fp.div (.fin W) (.fin H)) (fp.ofInt h), fp.ofInt h) := by
  rw [ResizeParameters.calculated]
  dsimp only
  rw [if_neg (by simp [parameters])]
  exact if_pos ⟨rfl, given, rfl, rfl⟩

/-- Given dimensions are not changed. -/
theorem calculated_exact (fp : Rounding) {w h : ℤ} (givenWidth : 0 < w) (givenHeight : 0 < h) :
    ResizeParameters.calculated fp (exact w h).parameters (.fin W) (.fin H) =
      .ok (fp.ofInt w, fp.ofInt h) := by
  rw [ResizeParameters.calculated]
  dsimp only
  rw [if_neg (fun guard => givenHeight.ne' guard.2.1),
    if_neg (fun guard => givenWidth.ne' guard.1)]
  exact if_pos ⟨givenWidth, givenHeight, rfl, rfl⟩

/-- The three branches for a box that bounds the image all multiply by the largest factor
that fits, which rounding does not change the order of. -/
theorem calculated_bestFit (fp : Rounding) (unlimited : ∀ q, fp.overflows q = false)
    {w h : ℤ} (widePos : 0 < w) (tallPos : 0 < h)
    (wide : 1 ≤ W) (tall : 1 ≤ H) (exactWidth : fp.ofInt w = .fin w)
    (exactHeight : fp.ofInt h = .fin h) :
    ResizeParameters.calculated fp (bestFit w h).parameters (.fin W) (.fin H) =
      if w > W ∧ h > H then .ok (.fin (-1), .fin (-1))
      else .ok (.fin (fp.round (fp.round (fitFactor w h W H) * W)),
        .fin (fp.round (fp.round (fitFactor w h W H) * H))) := by
  have widthPos : (0 : ℚ) < W := by exact_mod_cast wide
  have heightPos : (0 : ℚ) < H := by exact_mod_cast tall
  have columns := fp.div_fin (w : ℚ) widthPos.ne'
  have rows := fp.div_fin (h : ℚ) heightPos.ne'
  have notWidth : ¬((bestFit w h).parameters.maxWidth = 0) := widePos.ne'
  have marker : fp.ofInt (-1) = .fin (-1) := fp.ofInt_of_small (by decide)
  simp only [ResizeParameters.calculated, notWidth, and_false, false_and, if_false]
  simp only [parameters, gt_iff_lt, tallPos, widePos, and_self, if_true, marker, exactWidth,
    exactHeight, JFloat.gt_fin, JFloat.lt_fin, Bool.and_eq_true, decide_eq_true_eq, Int.cast_lt,
    columns, rows, Rounding.result_of_unlimited unlimited, Rounding.mul_fin]
  by_cases within : w > W ∧ h > H
  · rw [if_pos within, if_pos ⟨within.2, within.1⟩]
  rw [if_neg within, if_neg (by omega)]
  split
  next beyond =>
    have smaller : (h : ℚ) / H ≤ w / W :=
      ((div_le_one heightPos).mpr (by exact_mod_cast beyond.1.le)).trans
        ((one_le_div widthPos).mpr (by exact_mod_cast beyond.2.le))
    rw [fitFactor, min_eq_right smaller]
  split
  next beyond =>
    have smaller : (w : ℚ) / W ≤ h / H :=
      ((div_le_one widthPos).mpr (by exact_mod_cast beyond.2.le)).trans
        ((one_le_div heightPos).mpr (by exact_mod_cast beyond.1.le))
    rw [fitFactor, min_eq_left smaller]
  next =>
    rw [JFloat.min_fin, fitFactor, fp.monotone.map_min, min_comm]
    simp only [Rounding.mul_fin, Rounding.result_of_unlimited unlimited]

/-- The targets that the constructor computes before it rounds up. -/
theorem calculated_target (positive : ∀ n ∈ request.integers, 0 < n) (wide : 1 ≤ W)
    (tall : 1 ≤ H) :
    ∃ width height : ℚ, ResizeParameters.calculated .exact request.parameters (.fin W) (.fin H) =
        .ok (.fin width, .fin height) ∧ request.target W H = (⌈width⌉, ⌈height⌉) := by
  have widthPos : (0 : ℚ) < W := by exact_mod_cast wide
  have heightPos : (0 : ℚ) < H := by exact_mod_cast tall
  have aspect := Rounding.exact.div_fin (W : ℚ) heightPos.ne'
  rw [Rounding.exact_result] at aspect
  cases request with
  | percent n =>
      have given : 0 < n := positive n List.mem_cons_self
      have calculation := calculated_percent (W := W) (H := H) .exact (fun _ => rfl) given rfl
      refine ⟨_, _, calculation, ?_⟩
      simp only [target, Rounding.exact_round, div_mul_eq_mul_div]
  | width w =>
      have given : 0 < w := positive w List.mem_cons_self
      have calculation := calculated_width (W := W) (H := H) .exact given
      rw [aspect, Rounding.exact_ofInt,
        Rounding.div_fin _ _ (div_pos widthPos heightPos).ne'] at calculation
      refine ⟨_, _, calculation, ?_⟩
      rw [target, Int.ceil_intCast, Rounding.exact_round, div_div_eq_mul_div]
  | height h =>
      have given : 0 < h := positive h List.mem_cons_self
      have calculation := calculated_height (W := W) (H := H) .exact given
      rw [aspect, Rounding.exact_ofInt, Rounding.mul_fin] at calculation
      refine ⟨_, _, calculation, ?_⟩
      rw [target, Int.ceil_intCast, Rounding.exact_round, div_mul_eq_mul_div, mul_comm (W : ℚ)]
  | exact w h =>
      have givenWidth : 0 < w := positive w List.mem_cons_self
      have givenHeight : 0 < h := positive h (List.mem_cons_of_mem _ List.mem_cons_self)
      refine ⟨_, _, calculated_exact .exact givenWidth givenHeight, ?_⟩
      rw [target, Rounding.exact_round, Rounding.exact_round, Int.ceil_intCast, Int.ceil_intCast]
  | bestFit w h =>
      have givenWidth : 0 < w := positive w List.mem_cons_self
      have givenHeight : 0 < h := positive h (List.mem_cons_of_mem _ List.mem_cons_self)
      have calculation :=
        calculated_bestFit .exact (fun _ => rfl) givenWidth givenHeight wide tall rfl rfl
      simp only [Rounding.exact_round] at calculation
      by_cases within : w > W ∧ h > H
      · rw [if_pos within] at calculation
        refine ⟨_, _, calculation, ?_⟩
        rw [target, if_pos within]
        rfl
      · rw [if_neg within] at calculation
        refine ⟨_, _, calculation, ?_⟩
        rw [target, if_neg within]

/-- The image is smaller than the box of a best-fit request. -/
def Within (W H : ℤ) : SizeRequest → Prop
  | bestFit w h => w > W ∧ h > H
  | _ => False

theorem target_of_within (within : request.Within W H) : request.target W H = (-1, -1) := by
  cases request with
  | bestFit w h => exact if_pos within
  | percent => cases within
  | width => cases within
  | height => cases within
  | exact => cases within

/-- Apart from the marker a target has a pixel. -/
theorem target_positive (positive : ∀ n ∈ request.integers, 0 < n) (wide : 1 ≤ W)
    (tall : 1 ≤ H) (resizing : ¬request.Within W H) :
    1 ≤ (request.target W H).1 ∧ 1 ≤ (request.target W H).2 := by
  have widthPos : (0 : ℚ) < W := by exact_mod_cast wide
  have heightPos : (0 : ℚ) < H := by exact_mod_cast tall
  cases request with
  | percent n =>
      have given : (0 : ℚ) < n := by exact_mod_cast positive n List.mem_cons_self
      exact ⟨Int.one_le_ceil_iff.mpr (by positivity), Int.one_le_ceil_iff.mpr (by positivity)⟩
  | width w =>
      have given : (0 : ℚ) < w := by exact_mod_cast positive w List.mem_cons_self
      exact ⟨positive w List.mem_cons_self, Int.one_le_ceil_iff.mpr (by positivity)⟩
  | height h =>
      have given : (0 : ℚ) < h := by exact_mod_cast positive h List.mem_cons_self
      exact ⟨Int.one_le_ceil_iff.mpr (by positivity), positive h List.mem_cons_self⟩
  | exact w h =>
      exact ⟨positive w List.mem_cons_self, positive h (List.mem_cons_of_mem _ List.mem_cons_self)⟩
  | bestFit w h =>
      have factor := fitFactor_pos wide tall (positive w List.mem_cons_self)
        (positive h (List.mem_cons_of_mem _ List.mem_cons_self))
      have bounded : ¬(w > W ∧ h > H) := resizing
      rw [target, if_neg bounded]
      exact ⟨Int.one_le_ceil_iff.mpr (by positivity), Int.one_le_ceil_iff.mpr (by positivity)⟩

theorem target_eq_marker_iff (positive : ∀ n ∈ request.integers, 0 < n) (wide : 1 ≤ W)
    (tall : 1 ≤ H) : request.target W H = (-1, -1) ↔ request.Within W H := by
  constructor
  · intro marker
    by_contra resizing
    have target := (target_positive positive wide tall resizing).1
    rw [marker] at target
    exact absurd target (by decide)
  · exact target_of_within

/-- Every request for positive integers gets its target, as far as that is an `int`. -/
theorem resolve_target (positive : ∀ n ∈ request.integers, 0 < n) (wide : 1 ≤ W) (tall : 1 ≤ H)
    (smallWidth : (request.target W H).1 ≤ maxInt)
    (smallHeight : (request.target W H).2 ≤ maxInt) :
    ∃ resolved, ResizeParameters.resolve .exact request.parameters (Rounding.exact.ofInt W)
        (Rounding.exact.ofInt H) = .ok resolved ∧
      (resolved.width, resolved.height) = request.target W H := by
  have low : minInt ≤ (request.target W H).1 ∧ minInt ≤ (request.target W H).2 := by
    by_cases within : request.Within W H
    · rw [target_of_within within]
      decide
    · rcases target_positive positive wide tall within with ⟨widthPos, heightPos⟩
      unfold minInt
      omega
  rcases calculated_target positive wide tall with ⟨width, height, calculation, same⟩
  refine ⟨_, ResizeParameters.resolve_eq_ok_iff.mpr ⟨_, _, calculation, rfl⟩, ?_⟩
  rw [same] at low smallWidth smallHeight ⊢
  dsimp only at low smallWidth smallHeight ⊢
  rw [JFloat.ceilToInt_fin, JFloat.ceilToInt_fin, saturate_of_range low.1 smallWidth,
    saturate_of_range low.2 smallHeight]

end Resolution

/-- A size of positive integers is resolved to its target, which for a box is the marker
exactly if the image is smaller and otherwise the largest part of the image's dimensions
that fits. -/
theorem resolve_meets_target {text : JString} {request : SizeRequest}
    {sizeParameters : ResizeParameters} {W H : ℤ}
    (accepted : ParameterParser.parseIiifSize text = .ok (some sizeParameters))
    (spells : Spells text request) (positive : ∀ n ∈ request.integers, 0 < n)
    (wide : 1 ≤ W) (tall : 1 ≤ H) (smallWidth : (request.target W H).1 ≤ maxInt)
    (smallHeight : (request.target W H).2 ≤ maxInt) :
    ∃ resolved, ResizeParameters.resolve .exact sizeParameters (Rounding.exact.ofInt W)
        (Rounding.exact.ofInt H) = .ok resolved ∧
      (resolved.width, resolved.height) = request.target W H ∧
      ((resolved.width, resolved.height) ≠ (-1, -1) →
        1 ≤ resolved.width ∧ 1 ≤ resolved.height) ∧
      ∀ w h, request = bestFit w h →
        ((resolved.width, resolved.height) = (-1, -1) ↔ w > W ∧ h > H) ∧
        (¬(w > W ∧ h > H) → fitFactor w h W H ≤ 1 ∧
          FitsBox w h W H resolved.width resolved.height) := by
  have parsed := ParameterParser.parseIiifSize_of_spells spells
  rw [accepted] at parsed
  cases parsed
  rcases resolve_target positive wide tall smallWidth smallHeight with
    ⟨resolved, returned, same⟩
  refine ⟨resolved, returned, same, ?_, ?_⟩
  · intro notMarker
    have resizing : ¬request.Within W H := by
      rw [← target_eq_marker_iff positive wide tall, ← same]
      exact notMarker
    have target := target_positive positive wide tall resizing
    rw [← same] at target
    exact target
  · rintro w h rfl
    refine ⟨?_, ?_⟩
    · rw [same, target_eq_marker_iff positive wide tall]
      rfl
    · intro bounded
      rw [target, if_neg bounded] at same
      rcases Prod.mk.inj same with ⟨sameWidth, sameHeight⟩
      rw [sameWidth, sameHeight]
      exact ⟨fitFactor_le_one wide tall bounded, fitsBox_of_bounded wide tall bounded⟩

/-- A box of 10 by 10 pixels for an image of 30 by 7. -/
theorem resolve_meets_target_box :
    ∃ resolved, ResizeParameters.resolve .exact { maxWidth := 10, maxHeight := 10 }
        (Rounding.exact.ofInt 30) (Rounding.exact.ofInt 7) = .ok resolved ∧
      (resolved.width, resolved.height) = (10, 3) := by
  have ten : Text.parseInt ['1', '0'] = some 10 := by decide
  have spells : Spells ['!', '1', '0', ',', '1', '0'] (bestFit 10 10) := .bestFit ten ten
  have reached : (bestFit 10 10).target 30 7 = (10, 3) := by
    have factor : fitFactor 10 10 30 7 = 1 / 3 := by
      rw [fitFactor, min_eq_left] <;> norm_num
    rw [target, if_neg (by decide), factor, Prod.mk.injEq, Int.ceil_eq_iff, Int.ceil_eq_iff]
    norm_num
  rcases resolve_meets_target (ParameterParser.parseIiifSize_of_spells spells) spells
    (by decide) (by decide : (1 : ℤ) ≤ 30) (by decide : (1 : ℤ) ≤ 7)
    (by rw [reached]; decide) (by rw [reached]; decide) with ⟨resolved, returned, same, -⟩
  exact ⟨resolved, returned, same.trans reached⟩

end SizeRequest

end IiifImage
