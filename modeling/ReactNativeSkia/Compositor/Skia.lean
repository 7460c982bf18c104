import ReactNativeSkia.Misc.Rect
import Mathlib.Data.Rat.Floor
import Mathlib.Tactic.Linarith

/-!
# The Skia interface

Skia is not part of this repository (`DEPS` fetches it). `SkIRect` is Skia's integer
rectangle with the behaviour its documentation gives it, in the range where its 32 bit
arithmetic does not overflow. Scalars, matrices and shadow filters stay abstract: every
result holds for whatever arithmetic Skia has.
-/

namespace ReactNativeSkia

abbrev SkIRect := Rect

abbrev SkIRect.MakeEmpty : SkIRect := Rect.empty

abbrev SkIRect.MakeXYWH (x y w h : Int) : SkIRect := Rect.xywh x y w h

/-- `SkIRect::makeOffset`, also the in-place `SkIRect::offset`. -/
abbrev SkIRect.makeOffset (r : SkIRect) (dx dy : Int) : SkIRect := Rect.offset r dx dy

structure SkISize where
  width : Int
  height : Int
  deriving DecidableEq, Repr

/-- What the layers use of `SkScalar`, `SkMatrix`, `SkMaskFilter` and `SkImageFilter`.
`mapRect` stands for `mapRect` of `SkRect::Make(r)` followed by `roundOut`. -/
class Skia where
  Scalar : Type
  ofInt : Int → Scalar
  half : Scalar
  add : Scalar → Scalar → Scalar
  mul : Scalar → Scalar → Scalar
  neg : Scalar → Scalar
  Matrix : Type
  identity : Matrix
  isIdentity : Matrix → Bool
  preTranslate : Matrix → Scalar → Scalar → Matrix
  preConcat : Matrix → Matrix → Matrix
  mapRect : Matrix → SkIRect → SkIRect
  MaskFilter : Type
  ImageFilter : Type
  /-- `computeFastBounds` of the frame moved by the shadow offset, joined with the frame. -/
  maskFilterBounds : MaskFilter → Scalar × Scalar → SkIRect → SkIRect
  imageFilterBounds : ImageFilter → SkIRect → SkIRect

namespace Skia

variable [Skia]

/-- The matrix moves integer rectangles by `(dx, dy)`. -/
def Translates (m : Skia.Matrix) (dx dy : Int) : Prop :=
  ∀ r : SkIRect, mapRect m r = r.offset dx dy

end Skia

/-- Documented behaviour of `SkMatrix` on whole-number translations: the identity moves
nothing and `preTranslate` of a translation adds up. -/
class LawfulSkia [Skia] : Prop where
  translates_identity : Skia.Translates Skia.identity 0 0
  translates_preTranslate : ∀ (m : Skia.Matrix) (dx dy x y : Int), Skia.Translates m dx dy →
    Skia.Translates (Skia.preTranslate m (Skia.ofInt x) (Skia.ofInt y)) (dx + x) (dy + y)
  isIdentity_identity : Skia.isIdentity Skia.identity = true

/-- Skia restricted to translations, in rational arithmetic: enough to run layers whose own
transforms are identities, on which it does what `SkMatrix` does. -/
@[reducible] def translationSkia : Skia where
  Scalar := ℚ
  ofInt n := n
  half := 1 / 2
  add := (· + ·)
  mul := (· * ·)
  neg a := -a
  Matrix := ℚ × ℚ
  identity := (0, 0)
  isIdentity m := decide (m = (0, 0))
  preTranslate m x y := (m.1 + x, m.2 + y)
  preConcat m n := (m.1 + n.1, m.2 + n.2)
  mapRect m r :=
    ⟨⌊(r.left : ℚ) + m.1⌋, ⌊(r.top : ℚ) + m.2⌋, ⌈(r.right : ℚ) + m.1⌉, ⌈(r.bottom : ℚ) + m.2⌉⟩
  MaskFilter := Empty
  ImageFilter := Empty
  maskFilterBounds f := f.elim
  imageFilterBounds f := f.elim

namespace TranslationSkia

/-- For runs on fixed layers, which need some arithmetic. -/
scoped instance skia : Skia := translationSkia

end TranslationSkia

theorem translationSkia_translates_iff (m : ℚ × ℚ) (dx dy : Int) :
    @Skia.Translates translationSkia m dx dy ↔ m.1 = dx ∧ m.2 = dy := by
  constructor
  · intro h
    have h0 := h ⟨0, 0, 0, 0⟩
    simp only [Skia.mapRect, Rect.offset, Rect.mk.injEq, Int.cast_zero, zero_add] at h0
    obtain ⟨hl, ht, hr, hb⟩ := h0
    constructor
    · exact le_antisymm (Int.ceil_le.mp hr.le) (hl ▸ Int.floor_le m.1)
    · exact le_antisymm (Int.ceil_le.mp hb.le) (ht ▸ Int.floor_le m.2)
  · rintro ⟨hx, hy⟩ r
    simp only [Skia.mapRect, hx, hy, ← Int.cast_add, Int.floor_intCast, Int.ceil_intCast,
      Rect.offset]

theorem translationSkia_lawful : @LawfulSkia translationSkia := by
  let _ : Skia := translationSkia
  constructor
  · exact (translationSkia_translates_iff _ 0 0).mpr ⟨rfl, rfl⟩
  · intro m dx dy x y h
    obtain ⟨hx, hy⟩ := (translationSkia_translates_iff m dx dy).mp h
    refine (translationSkia_translates_iff _ _ _).mpr ⟨?_, ?_⟩
    · simp only [Skia.preTranslate, Skia.ofInt, hx, Int.cast_add]
    · simp only [Skia.preTranslate, Skia.ofInt, hy, Int.cast_add]
  · decide

namespace TranslationSkia

scoped instance lawful : LawfulSkia := translationSkia_lawful

end TranslationSkia

end ReactNativeSkia
