import ReactNativeSkia.Components.ViewProps
import ReactNativeSkia.Misc.CString

/-!
# Text layout

`RSkTextLayoutManager::buildText` and `buildParagraph`
(`ReactSkia/textlayoutmanager/RSkTextLayoutManager.cpp:32-80, 134-248`) and `setTextLines`
(`views/common/RSkTextUtils.cpp:15-71`). Skia's paragraph builder keeps what it is handed, and
the lines of a paragraph are some function of that and of the width. Floating point numbers are
rationals, so nothing is rounded; one that may be NaN is `none` then.
-/

namespace ReactNativeSkia

inductive FontWeight where
  | Weight100
  | Weight200
  | Weight300
  | Regular
  | Weight500
  | Weight600
  | Bold
  | Weight800
  | Weight900
  deriving DecidableEq, Repr

inductive FontStyle where
  | Normal
  | Italic
  | Oblique
  deriving DecidableEq, Repr

inductive TextAlignment where
  | Natural
  | Left
  | Center
  | Right
  | Justified
  deriving DecidableEq, Repr

inductive TextDecorationLineType where
  | None
  | Underline
  | Strikethrough
  | UnderlineStrikethrough
  deriving DecidableEq, Repr

/-- What `buildText` reads of `TextAttributes`. -/
structure TextAttributes where
  foregroundColor : SharedColor := none
  backgroundColor : SharedColor := none
  fontFamily : Chars := []
  fontSize : Option ℚ := none
  fontSizeMultiplier : Option ℚ := none
  fontWeight : Option FontWeight := none
  fontStyle : Option FontStyle := none
  letterSpacing : Option ℚ := none
  lineHeight : Option ℚ := none
  alignment : Option TextAlignment := none
  textDecorationColor : SharedColor := none
  textDecorationLineType : Option TextDecorationLineType := none
  textShadowOffset : Option (ℚ × ℚ) := none
  textShadowRadius : Option ℚ := none
  textShadowColor : SharedColor := none

/-- A fragment of an `AttributedString`. -/
structure Fragment where
  string : Chars
  textAttributes : TextAttributes := {}

/-- The UTF-8 of the object replacement character. -/
def AttachmentCharacter : Chars := [0xEF, 0xBF, 0xBC]

def Fragment.isAttachment (fragment : Fragment) : Bool :=
  decide (fragment.string = AttachmentCharacter)

inductive EllipsizeMode where
  | Clip
  | Head
  | Tail
  | Middle
  deriving DecidableEq, Repr

/-- What `setTextLines` reads of `ParagraphAttributes`. -/
structure ParagraphAttributes where
  maximumNumberOfLines : Int := 0
  ellipsizeMode : EllipsizeMode := .Clip

/-! ## What Skia is handed -/

inductive TextAlign where
  | kLeft
  | kRight
  | kCenter
  | kJustify
  | kStart
  | kEnd
  deriving DecidableEq, Repr

inductive Slant where
  | kUpright_Slant
  | kItalic_Slant
  | kOblique_Slant
  deriving DecidableEq, Repr

/-- The flags of `TextDecoration`. -/
structure TextDecoration where
  kUnderline : Bool := false
  kLineThrough : Bool := false
  deriving DecidableEq, Repr

structure TextShadow where
  fColor : SkColor
  fOffset : ℚ × ℚ
  fBlurSigma : ℚ
  deriving DecidableEq

/-- What is set of a `TextStyle`; a paint by its colour, as all are antialiased. -/
structure TextStyle where
  fontSize : ℚ
  fontFamily : Chars
  weight : Int
  slant : Slant
  height : Option ℚ
  decoration : TextDecoration
  shadows : List TextShadow
  letterSpacing : ℚ
  foreground : Option SkColor
  background : Option SkColor
  decorationColor : Option SkColor
  deriving DecidableEq

structure ParagraphStyle where
  textAlign : TextAlign
  maxLines : Nat
  ellipsis : Option String
  deriving DecidableEq

/-- `std::numeric_limits<size_t>::max()`. -/
def SIZE_MAX : Nat := 2 ^ 64 - 1

/-- What a paragraph is made of. -/
structure ParagraphRecord where
  paragraphStyle : ParagraphStyle
  texts : List (Option TextStyle × Chars)
  deriving DecidableEq

/-- `ParagraphBuilderImpl` as a recorder. -/
structure ParagraphBuilder where
  paragraphStyle : ParagraphStyle
  styles : List TextStyle := []
  texts : List (Option TextStyle × Chars) := []

namespace ParagraphBuilder

def setParagraphStyle (builder : ParagraphBuilder) (style : ParagraphStyle) : ParagraphBuilder :=
  { builder with paragraphStyle := style }

def pushStyle (builder : ParagraphBuilder) (style : TextStyle) : ParagraphBuilder :=
  { builder with styles := style :: builder.styles }

/-- The text has the style on top. -/
def addText (builder : ParagraphBuilder) (text : Chars) : ParagraphBuilder :=
  { builder with texts := builder.texts ++ [(builder.styles.head?, text)] }

def pop (builder : ParagraphBuilder) : ParagraphBuilder :=
  { builder with styles := builder.styles.tail }

def Build (builder : ParagraphBuilder) : ParagraphRecord :=
  ⟨builder.paragraphStyle, builder.texts⟩

end ParagraphBuilder

/-- The values that the libraries start from: `TextAttributes::defaultTextAttributes`, what
`colorComponentsFromColor` makes of an undefined colour, `TextShadow()` and `ParagraphStyle()`. -/
class TextDefaults where
  fontSize : ℚ
  fontSizeMultiplier : ℚ
  foregroundColor : SharedColor
  backgroundColor : SharedColor
  undefinedColor : ColorComponents
  textShadow : TextShadow
  paragraphStyle : ParagraphStyle

structure LineMetrics where
  fBaseline : ℚ
  fLineNumber : Nat

/-- `getLineMetrics` after `layout` to a width. -/
abbrev GetLineMetrics := ParagraphRecord → ℚ → List LineMetrics

/-! ## Conversions -/

def convertTextAlign : TextAlignment → TextAlign
  | .Natural | .Left => .kLeft
  | .Center => .kCenter
  | .Right => .kRight
  | .Justified => .kJustify

/-- `SkFontStyle` has the weights in hundreds. -/
def convertFontWeight : FontWeight → Int
  | .Weight100 => 100
  | .Weight200 => 200
  | .Weight300 => 300
  | .Weight500 => 500
  | .Weight600 => 600
  | .Weight800 => 800
  | .Weight900 => 900
  | .Bold => 700
  | .Regular => 400

def convertFontStyle : FontStyle → Slant
  | .Italic => .kItalic_Slant
  | .Normal | .Oblique => .kUpright_Slant

def convertDecoration : TextDecorationLineType → TextDecoration
  | .Underline => { kUnderline := true }
  | .Strikethrough => { kLineThrough := true }
  | .UnderlineStrikethrough => { kUnderline := true, kLineThrough := true }
  | .None => {}

structure RSkSkTextLayout where
  shadow : TextShadow
  paraStyle : ParagraphStyle
  paragraph : Option ParagraphRecord := none
  builder : Option ParagraphBuilder := none

/-! ## What texts leave behind -/

namespace TextAttributes

/-- The number, if it is one and positive. -/
def positive (number : Option ℚ) : Option ℚ := number.filter (decide <| 0 < ·)

def fontShadowOffset (textAttributes : TextAttributes) : ℚ × ℚ :=
  textAttributes.textShadowOffset.getD (0, 0)

end TextAttributes

/-- `fOffset += ...`. -/
def TextShadow.offsetBy (shadow : TextShadow) (offset : ℚ × ℚ) : TextShadow :=
  { shadow with fOffset := (shadow.fOffset.1 + offset.1, shadow.fOffset.2 + offset.2) }

/-- The shadow that `buildText` leaves: a text without a background moves it by its own offset. -/
def TextShadow.afterText (shadow : TextShadow) (textAttributes : TextAttributes) : TextShadow :=
  if textAttributes.backgroundColor.isNone then shadow.offsetBy textAttributes.fontShadowOffset
  else shadow

/-- The shadow is added before and after it is moved. -/
def TextShadow.layerShadows (shadow : TextShadow) (textAttributes : TextAttributes) :
    List TextShadow :=
  if textAttributes.backgroundColor.isNone then [shadow, shadow.afterText textAttributes] else []

/-- The paragraph style that `buildText` leaves. -/
def ParagraphStyle.afterText (paraStyle : ParagraphStyle) (textAttributes : TextAttributes) :
    ParagraphStyle :=
  { paraStyle with
    textAlign := (textAttributes.alignment.map convertTextAlign).getD paraStyle.textAlign
    maxLines := SIZE_MAX }

/-! ## Lines -/

/-- The number of the first line whose baseline is below the frame, or the number of lines. -/
def getLines (metrics : List LineMetrics) (frameHeight : ℚ) : Int :=
  match metrics.find? fun line => frameHeight < line.fBaseline with
  | some line => line.fLineNumber
  | none => metrics.length

def getTextLines (metrics : List LineMetrics) (maxNumberOfLines : Int) (textFrameHeight : ℚ) :
    Int :=
  let numberOfLines := getLines metrics textFrameHeight
  if maxNumberOfLines ≠ 0 ∧ numberOfLines ≠ 0 ∧ maxNumberOfLines < numberOfLines then
    maxNumberOfLines
  else numberOfLines

/-- What `setTextLines` changes of the paragraph style. -/
def ParagraphStyle.limitLines (paraStyle : ParagraphStyle) (numberOfLines : Int)
    (paragraphAttributes : ParagraphAttributes) : ParagraphStyle :=
  { paraStyle with
    maxLines := (numberOfLines % 2 ^ 64).toNat
    ellipsis :=
      if paragraphAttributes.maximumNumberOfLines ≠ 0 ∧
        paragraphAttributes.ellipsizeMode = .Tail then some "\u2026"
      else paraStyle.ellipsis }

/-- `setTextLines` for a content frame of the given width and height. -/
def setTextLines (getLineMetrics : GetLineMetrics) (textLayout : RSkSkTextLayout)
    (contentSize : ℚ × ℚ) (paragraphAttributes : ParagraphAttributes) : RSkSkTextLayout :=
  match textLayout.paragraph with
  | none => textLayout
  | some paragraph =>
    let metrics := getLineMetrics paragraph contentSize.1
    let numberOfLines :=
      getTextLines metrics paragraphAttributes.maximumNumberOfLines contentSize.2
    if numberOfLines = 0 then textLayout
    else
      let paraStyle := textLayout.paraStyle.limitLines numberOfLines paragraphAttributes
      let builder := textLayout.builder.map (·.setParagraphStyle paraStyle)
      { textLayout with
        paraStyle := paraStyle
        builder := builder
        paragraph := builder.map (·.Build) }

/-! ## Building -/

variable [TextDefaults]

def colorComponentsFromColor (color : SharedColor) : ColorComponents :=
  color.getD TextDefaults.undefinedColor

def convertTextColor (textColor : SharedColor) : SkColor :=
  let ratio : ℚ := 2559999 / 10000
  let color := colorComponentsFromColor textColor
  ⟨⌊color.alpha * ratio⌋₊, ⌊color.red * ratio⌋₊, ⌊color.green * ratio⌋₊, ⌊color.blue * ratio⌋₊⟩

/-- A new text layout. -/
def RSkSkTextLayout.new : RSkSkTextLayout where
  shadow := TextDefaults.textShadow
  paraStyle := TextDefaults.paragraphStyle

namespace TextAttributes

def effectiveFontSize (textAttributes : TextAttributes) : ℚ :=
  (positive textAttributes.fontSize).getD TextDefaults.fontSize

/-- The shadow of the text's own attributes. -/
def fontShadow (textAttributes : TextAttributes) : TextShadow where
  fColor := convertTextColor
    (if textAttributes.textShadowColor.isSome then textAttributes.textShadowColor
      else textAttributes.foregroundColor)
  fOffset := textAttributes.fontShadowOffset
  fBlurSigma := (positive textAttributes.textShadowRadius).getD 0

/-- The style that `buildText` sets, with the shadows it adds before the text's own. -/
def style (textAttributes : TextAttributes) (layerShadows : List TextShadow)
    (fontDecorationRequired : Bool) : TextStyle where
  fontSize := textAttributes.effectiveFontSize *
    textAttributes.fontSizeMultiplier.getD TextDefaults.fontSizeMultiplier
  fontFamily := cString textAttributes.fontFamily
  weight := (textAttributes.fontWeight.map convertFontWeight).getD 400
  slant := (textAttributes.fontStyle.map convertFontStyle).getD .kUpright_Slant
  height := (positive textAttributes.lineHeight).map (· / textAttributes.effectiveFontSize)
  decoration := (textAttributes.textDecorationLineType.map convertDecoration).getD {}
  shadows := layerShadows ++ [textAttributes.fontShadow]
  letterSpacing := textAttributes.letterSpacing.getD 0
  foreground :=
    if fontDecorationRequired then
      some (convertTextColor (if textAttributes.foregroundColor.isSome then
        textAttributes.foregroundColor else TextDefaults.foregroundColor))
    else none
  background :=
    if fontDecorationRequired then
      some (convertTextColor (if textAttributes.backgroundColor.isSome then
        textAttributes.backgroundColor else TextDefaults.backgroundColor))
    else none
  decorationColor :=
    if fontDecorationRequired then
      some (convertTextColor (if textAttributes.textDecorationColor.isSome then
        textAttributes.textDecorationColor else textAttributes.foregroundColor))
    else none

end TextAttributes

def buildText (textLayout : RSkSkTextLayout) (textAttributes : TextAttributes)
    (textString : Chars) (fontDecorationRequired : Bool) : RSkSkTextLayout :=
  let style := textAttributes.style (textLayout.shadow.layerShadows textAttributes)
    fontDecorationRequired
  let paraStyle := textLayout.paraStyle.afterText textAttributes
  { textLayout with
    shadow := textLayout.shadow.afterText textAttributes
    paraStyle := paraStyle
    builder := textLayout.builder.map fun builder =>
      (((builder.setParagraphStyle paraStyle).pushStyle style).addText (cString textString)).pop }

/-- One round of the loop of `buildParagraph`. -/
def buildFragment (textLayout : RSkSkTextLayout) (attachmentCount : Nat) (fragment : Fragment)
    (fontDecorationRequired : Bool) : RSkSkTextLayout × Nat :=
  if fragment.isAttachment then (textLayout, (attachmentCount + 1) % 2 ^ 32)
  else (buildText textLayout fragment.textAttributes (cString fragment.string)
    fontDecorationRequired, attachmentCount)

/-- `buildParagraph`, with the number of attachments it returns. -/
def buildParagraph (textLayout : RSkSkTextLayout) (attributedString : List Fragment)
    (fontDecorationRequired : Bool) : RSkSkTextLayout × Nat :=
  attributedString.foldl
    (fun built fragment => buildFragment built.1 built.2 fragment fontDecorationRequired)
    (textLayout, 0)

end ReactNativeSkia
