import ReactNativeSkia.Images.ImageUtils

/-!
# The resize modes

`Contain` and `Repeat` take the largest sides of the aspect ratio of the source that fit, `Cover`
the smallest that leave nothing of the target out. `Center` shrinks an image that is too high to the
width of the target and one that is too wide to its height, so an image with one side too long is
blown up.
-/

namespace ReactNativeSkia

open Box

/-- A source with an area. -/
def Size.Positive (s : Size) : Prop := 0 < s.width ∧ 0 < s.height

/-- `SkRect::width` divided by `SkRect::height` is what it is for the source. -/
def KeepsAspectRatio (srcSize : Size) (r : SkRect) : Prop :=
  r.HasRatio (srcSize.width / srcSize.height)

/-- The rect is as large as the source. -/
def Unscaled (srcSize : Size) (r : SkRect) : Prop :=
  r.width = srcSize.width ∧ r.height = srcSize.height

/-- The source is no larger than the target. -/
def Size.FitsIn (srcSize : Size) (targetRect : SkRect) : Prop :=
  srcSize.width ≤ targetRect.width ∧ srcSize.height ≤ targetRect.height

instance (srcSize : Size) (targetRect : SkRect) : Decidable (srcSize.FitsIn targetRect) :=
  inferInstanceAs (Decidable (_ ∧ _))

namespace RSkImageUtils

variable {srcSize : Size} {targetRect : SkRect}

theorem ratio_pos (hsrc : srcSize.Positive) : 0 < srcSize.width / srcSize.height :=
  div_pos hsrc.1 hsrc.2

/-! ## The modes in terms of sides -/

theorem containSize_eq (srcAR : ℚ) (targetRect : SkRect) :
    containSize srcAR (targetRect.width / targetRect.height) targetRect =
      ⟨(targetRect.containSides srcAR).1, (targetRect.containSides srcAR).2⟩ := by
  unfold containSize containSides
  split
  · rfl
  · rfl

theorem computeTargetRect_contain (srcSize : Size) (targetRect : SkRect) :
    computeTargetRect srcSize targetRect .Contain =
      targetRect.middle (targetRect.containSides (srcSize.width / srcSize.height)).1
        (targetRect.containSides (srcSize.width / srcSize.height)).2 := by
  simp only [computeTargetRect, containSize_eq]
  rfl

/-- The rect in mode `Cover` is at the middle as well: one of its sides leaves no room. -/
theorem computeTargetRect_cover (srcSize : Size) (targetRect : SkRect) :
    computeTargetRect srcSize targetRect .Cover =
      targetRect.middle (targetRect.coverSides (srcSize.width / srcSize.height)).1
        (targetRect.coverSides (srcSize.width / srcSize.height)).2 := by
  simp only [computeTargetRect, coverSides]
  split
  · rw [middle_height]
  · rw [middle_width]

theorem computeTargetRect_center (srcSize : Size) (targetRect : SkRect) :
    computeTargetRect srcSize targetRect .Center =
      targetRect.middle (centerSize srcSize (srcSize.width / srcSize.height) targetRect).width
        (centerSize srcSize (srcSize.width / srcSize.height) targetRect).height :=
  rfl

theorem computeTargetRect_repeat_of_fits (hfits : srcSize.FitsIn targetRect) :
    computeTargetRect srcSize targetRect .Repeat =
      xywh targetRect.left targetRect.top srcSize.width srcSize.height := by
  simp only [computeTargetRect]
  exact if_pos hfits

theorem computeTargetRect_repeat_of_not_fits (hfits : ¬ srcSize.FitsIn targetRect) :
    computeTargetRect srcSize targetRect .Repeat =
      xywh targetRect.left targetRect.top
        (targetRect.containSides (srcSize.width / srcSize.height)).1
        (targetRect.containSides (srcSize.width / srcSize.height)).2 := by
  simp only [computeTargetRect, containSize_eq]
  exact if_neg hfits

/-! ## Contain -/

theorem contain_keepsAspectRatio (hsrc : srcSize.Positive) (htarget : targetRect.Positive) :
    KeepsAspectRatio srcSize (computeTargetRect srcSize targetRect .Contain) := by
  rw [computeTargetRect_contain]
  apply hasRatio_of_containSides htarget.1 htarget.2 (ratio_pos hsrc)
  · exact width_middle _ _ _
  · exact height_middle _ _ _

theorem contain_within (hsrc : srcSize.Positive) (htarget : targetRect.Positive) :
    (computeTargetRect srcSize targetRect .Contain).Within targetRect := by
  rw [computeTargetRect_contain]
  exact middle_within_iff.mpr (containSides_le htarget.2 (ratio_pos hsrc))

theorem contain_touches (srcSize : Size) (targetRect : SkRect) :
    (computeTargetRect srcSize targetRect .Contain).SharesWidth targetRect ∨
      (computeTargetRect srcSize targetRect .Contain).SharesHeight targetRect := by
  rw [computeTargetRect_contain, containSides]
  split
  · exact .inl (sharesWidth_middle _ _)
  · exact .inr (sharesHeight_middle _ _)

/-- Nothing of the aspect ratio of the source that lies within the target is larger. -/
theorem contain_largest {r : SkRect} (hr : KeepsAspectRatio srcSize r)
    (hin : r.Within targetRect) :
    r.width ≤ (computeTargetRect srcSize targetRect .Contain).width ∧
      r.height ≤ (computeTargetRect srcSize targetRect .Contain).height := by
  rw [computeTargetRect_contain, width_middle, height_middle]
  exact le_containSides hr hin

/-! ## Cover -/

theorem cover_keepsAspectRatio (hsrc : srcSize.Positive) (htarget : targetRect.Positive) :
    KeepsAspectRatio srcSize (computeTargetRect srcSize targetRect .Cover) := by
  rw [computeTargetRect_cover]
  apply hasRatio_of_coverSides htarget.1 htarget.2 (ratio_pos hsrc)
  · exact width_middle _ _ _
  · exact height_middle _ _ _

theorem within_cover (hsrc : srcSize.Positive) (htarget : targetRect.Positive) :
    targetRect.Within (computeTargetRect srcSize targetRect .Cover) := by
  rw [computeTargetRect_cover]
  exact within_middle_iff.mpr (le_coverSides htarget.2 (ratio_pos hsrc))

theorem cover_shares (srcSize : Size) (targetRect : SkRect) :
    (computeTargetRect srcSize targetRect .Cover).SharesWidth targetRect ∨
      (computeTargetRect srcSize targetRect .Cover).SharesHeight targetRect := by
  rw [computeTargetRect_cover, coverSides]
  split
  · exact .inr (sharesHeight_middle _ _)
  · exact .inl (sharesWidth_middle _ _)

/-- Nothing of the aspect ratio of the source that covers the target is smaller. -/
theorem cover_smallest {r : SkRect} (hr : KeepsAspectRatio srcSize r)
    (hin : targetRect.Within r) :
    (computeTargetRect srcSize targetRect .Cover).width ≤ r.width ∧
      (computeTargetRect srcSize targetRect .Cover).height ≤ r.height := by
  rw [computeTargetRect_cover, width_middle, height_middle]
  exact coverSides_le hr hin

/-! ## Repeat -/

theorem repeat_keepsAspectRatio (hsrc : srcSize.Positive) (htarget : targetRect.Positive) :
    KeepsAspectRatio srcSize (computeTargetRect srcSize targetRect .Repeat) := by
  by_cases hfits : srcSize.FitsIn targetRect
  · rw [computeTargetRect_repeat_of_fits hfits, KeepsAspectRatio, HasRatio, Box.Positive,
      width_xywh, height_xywh]
    exact ⟨hsrc, rfl⟩
  · rw [computeTargetRect_repeat_of_not_fits hfits]
    apply hasRatio_of_containSides htarget.1 htarget.2 (ratio_pos hsrc)
    · exact width_xywh _ _ _ _
    · exact height_xywh _ _ _ _

theorem repeat_within (hsrc : srcSize.Positive) (htarget : targetRect.Positive) :
    (computeTargetRect srcSize targetRect .Repeat).Within targetRect := by
  by_cases hfits : srcSize.FitsIn targetRect
  · rw [computeTargetRect_repeat_of_fits hfits]
    exact corner_within_iff.mpr hfits
  · rw [computeTargetRect_repeat_of_not_fits hfits]
    exact corner_within_iff.mpr (containSides_le htarget.2 (ratio_pos hsrc))

/-- The rect within the target is as large as the source only if the source fits. -/
theorem repeat_unscaled_iff (hsrc : srcSize.Positive) (htarget : targetRect.Positive) :
    Unscaled srcSize (computeTargetRect srcSize targetRect .Repeat) ↔
      srcSize.FitsIn targetRect := by
  constructor
  · intro hunscaled
    have hin := repeat_within hsrc htarget
    constructor
    · rw [← hunscaled.1]
      exact width_le_of_within hin
    · rw [← hunscaled.2]
      exact height_le_of_within hin
  · intro hfits
    rw [computeTargetRect_repeat_of_fits hfits]
    exact ⟨width_xywh _ _ _ _, height_xywh _ _ _ _⟩

/-- What `Cover`, `Contain` and `Repeat` promise, for every source and target with an area. -/
theorem resizeModes_keep (srcSize : Size) (targetRect : SkRect) (hsrc : srcSize.Positive)
    (htarget : targetRect.Positive) :
    (∀ mode ∈ [ImageResizeMode.Cover, .Contain, .Repeat],
      KeepsAspectRatio srcSize (computeTargetRect srcSize targetRect mode)) ∧
    (∀ mode ∈ [ImageResizeMode.Contain, .Repeat],
      (computeTargetRect srcSize targetRect mode).Within targetRect) ∧
    ((computeTargetRect srcSize targetRect .Contain).SharesWidth targetRect ∨
      (computeTargetRect srcSize targetRect .Contain).SharesHeight targetRect) ∧
    targetRect.Within (computeTargetRect srcSize targetRect .Cover) ∧
    ((computeTargetRect srcSize targetRect .Cover).SharesWidth targetRect ∨
      (computeTargetRect srcSize targetRect .Cover).SharesHeight targetRect) ∧
    (∀ mode ∈ [ImageResizeMode.Contain, .Cover],
      (computeTargetRect srcSize targetRect mode).Centred targetRect) ∧
    (Unscaled srcSize (computeTargetRect srcSize targetRect .Repeat) ↔
      srcSize.FitsIn targetRect) := by
  simp only [List.forall_mem_cons, List.not_mem_nil, false_implies, implies_true, and_true]
  refine ⟨⟨?_, ?_, ?_⟩, ⟨?_, ?_⟩, ?_, ?_, ?_, ⟨?_, ?_⟩, ?_⟩
  · exact cover_keepsAspectRatio hsrc htarget
  · exact contain_keepsAspectRatio hsrc htarget
  · exact repeat_keepsAspectRatio hsrc htarget
  · exact contain_within hsrc htarget
  · exact repeat_within hsrc htarget
  · exact contain_touches srcSize targetRect
  · exact within_cover hsrc htarget
  · exact cover_shares srcSize targetRect
  · rw [computeTargetRect_contain]
    exact centred_middle _ _ _
  · rw [computeTargetRect_cover]
    exact centred_middle _ _ _
  · exact repeat_unscaled_iff hsrc htarget

theorem resizeModes_keep_landscape :
    (computeTargetRect ⟨400, 300⟩ ⟨0, 0, 200, 200⟩ .Contain).Within ⟨0, 0, 200, 200⟩ :=
  (resizeModes_keep ⟨400, 300⟩ ⟨0, 0, 200, 200⟩ ⟨by norm_num, by norm_num⟩
    ⟨by norm_num [Box.width], by norm_num [Box.height]⟩).2.1 .Contain (by decide)

/-! ## Center -/

/-- What mode `Center` is for: the image at the middle, smaller if it has to be. -/
structure CenterKept (srcSize : Size) (targetRect r : SkRect) : Prop where
  ratio : KeepsAspectRatio srcSize r
  within : r.Within targetRect
  centred : r.Centred targetRect
  unscaled_iff : Unscaled srcSize r ↔ srcSize.FitsIn targetRect

theorem centerSize_of_width_lt {srcAR : ℚ} (h : targetRect.width < srcSize.width) :
    centerSize srcSize srcAR targetRect = ⟨targetRect.height * srcAR, targetRect.height⟩ := by
  simp only [centerSize]
  rw [if_pos h]

theorem centerSize_of_height_lt {srcAR : ℚ} (hw : ¬ targetRect.width < srcSize.width)
    (hh : targetRect.height < srcSize.height) :
    centerSize srcSize srcAR targetRect = ⟨targetRect.width, targetRect.width / srcAR⟩ := by
  simp only [centerSize]
  rw [if_neg hw, if_pos hh]

theorem centerSize_of_fits {srcAR : ℚ} (h : srcSize.FitsIn targetRect) :
    centerSize srcSize srcAR targetRect = srcSize := by
  simp only [centerSize]
  rw [if_neg (not_lt.mpr h.1), if_neg (not_lt.mpr h.2)]

/-- The aspect ratio survives in every case. -/
theorem center_keepsAspectRatio (hsrc : srcSize.Positive) (htarget : targetRect.Positive) :
    KeepsAspectRatio srcSize (computeTargetRect srcSize targetRect .Center) := by
  rw [computeTargetRect_center]
  by_cases hw : targetRect.width < srcSize.width
  · rw [centerSize_of_width_lt hw]
    exact hasRatio_of_height (ratio_pos hsrc) htarget.2 (height_middle _ _ _) (width_middle _ _ _)
  · by_cases hh : targetRect.height < srcSize.height
    · rw [centerSize_of_height_lt hw hh]
      exact hasRatio_of_width (ratio_pos hsrc) htarget.1 (width_middle _ _ _) (height_middle _ _ _)
    · rw [centerSize_of_fits ⟨not_lt.mp hw, not_lt.mp hh⟩, KeepsAspectRatio, HasRatio,
        Box.Positive, width_middle, height_middle]
      exact ⟨hsrc, rfl⟩

/-- An image that is too wide lies within the target only if the height of the target, to which it
is shrunk, makes it narrow enough. -/
theorem center_within_of_width_lt (htarget : targetRect.Positive)
    (hw : targetRect.width < srcSize.width) :
    (computeTargetRect srcSize targetRect .Center).Within targetRect ↔
      srcSize.width / srcSize.height ≤ targetRect.width / targetRect.height := by
  rw [computeTargetRect_center, centerSize_of_width_lt hw, middle_within_iff,
    le_div_iff₀' htarget.2]
  simp

/-- An image that is only too high becomes even higher. -/
theorem not_center_within_of_height_lt (hsrc : srcSize.Positive) (htarget : targetRect.Positive)
    (hw : ¬ targetRect.width < srcSize.width) (hh : targetRect.height < srcSize.height) :
    ¬ (computeTargetRect srcSize targetRect .Center).Within targetRect := by
  rw [computeTargetRect_center, centerSize_of_height_lt hw hh, middle_within_iff]
  intro hle
  have hratio := (height_le_iff_ratio_le (ratio_pos hsrc) htarget.2).mp hle.2
  rw [div_le_div_iff₀ htarget.2 hsrc.2] at hratio
  have hlt : srcSize.width * targetRect.height < targetRect.width * srcSize.height :=
    mul_lt_mul' (not_lt.mp hw) hh htarget.2.le htarget.1
  exact absurd hratio (not_le.mpr hlt)

/-- Mode `Center` does what it is for exactly for an image that fits and for one with both sides too
long which is no wider, for its height, than the target. -/
theorem center_kept_iff (srcSize : Size) (targetRect : SkRect) (hsrc : srcSize.Positive)
    (htarget : targetRect.Positive) :
    CenterKept srcSize targetRect (computeTargetRect srcSize targetRect .Center) ↔
      srcSize.FitsIn targetRect ∨
        (targetRect.width < srcSize.width ∧ targetRect.height < srcSize.height ∧
          srcSize.width / srcSize.height ≤ targetRect.width / targetRect.height) := by
  have hcentred : (computeTargetRect srcSize targetRect .Center).Centred targetRect := by
    rw [computeTargetRect_center]
    exact centred_middle _ _ _
  constructor
  · intro hkept
    by_cases hw : targetRect.width < srcSize.width
    · have hratio := (center_within_of_width_lt htarget hw).mp hkept.within
      refine .inr ⟨hw, ?_, hratio⟩
      -- the target would be wider than the image otherwise
      rw [div_le_div_iff₀ hsrc.2 htarget.2] at hratio
      by_contra hh
      have hlt : targetRect.width * srcSize.height < srcSize.width * targetRect.height :=
        mul_lt_mul hw (not_lt.mp hh) hsrc.2 hsrc.1.le
      exact absurd hratio (not_le.mpr hlt)
    · by_cases hh : targetRect.height < srcSize.height
      · exact absurd hkept.within (not_center_within_of_height_lt hsrc htarget hw hh)
      · exact .inl ⟨not_lt.mp hw, not_lt.mp hh⟩
  · rintro (hfits | ⟨hw, hh, hratio⟩)
    · refine ⟨center_keepsAspectRatio hsrc htarget, ?_, hcentred, ?_⟩
      · rw [computeTargetRect_center, centerSize_of_fits hfits]
        exact middle_within_iff.mpr hfits
      · rw [computeTargetRect_center, centerSize_of_fits hfits]
        exact iff_of_true ⟨width_middle _ _ _, height_middle _ _ _⟩ hfits
    · refine ⟨center_keepsAspectRatio hsrc htarget,
        (center_within_of_width_lt htarget hw).mpr hratio, hcentred, ?_⟩
      apply iff_of_false
      · rw [computeTargetRect_center, centerSize_of_width_lt hw]
        intro hunscaled
        have hheight : targetRect.height = srcSize.height := by
          simpa using hunscaled.2
        exact absurd hheight hh.ne
      · intro hfits
        exact absurd hw (not_lt.mpr hfits.1)

theorem center_kept_iff_icon :
    CenterKept ⟨10, 20⟩ ⟨0, 0, 50, 50⟩ (computeTargetRect ⟨10, 20⟩ ⟨0, 0, 50, 50⟩ .Center) :=
  (center_kept_iff ⟨10, 20⟩ ⟨0, 0, 50, 50⟩ ⟨by norm_num, by norm_num⟩
    ⟨by norm_num [Box.width], by norm_num [Box.height]⟩).mpr
    (.inl ⟨by norm_num [Box.width], by norm_num [Box.height]⟩)

/-- A banner of 10 by 100 in a square of 50: it is drawn 500 high. -/
theorem center_overflows :
    (computeTargetRect ⟨10, 100⟩ ⟨0, 0, 50, 50⟩ .Center).height = 500 ∧
      ¬ CenterKept ⟨10, 100⟩ ⟨0, 0, 50, 50⟩
        (computeTargetRect ⟨10, 100⟩ ⟨0, 0, 50, 50⟩ .Center) := by
  have hrect : computeTargetRect ⟨10, 100⟩ ⟨0, 0, 50, 50⟩ .Center = ⟨0, -225, 50, 275⟩ := by
    norm_num [computeTargetRect, centerSize, Box.width, Box.height, Box.xywh]
  rw [hrect]
  constructor
  · norm_num [Box.height]
  · intro hkept
    have htop : (0 : ℚ) ≤ -225 := hkept.within.2.1
    norm_num at htop

end RSkImageUtils

end ReactNativeSkia
