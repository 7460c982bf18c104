import ReactNativeSkia.Components.TextLayout

/-!
# The paragraph component

`RSkComponentParagraph` (`ReactSkia/components/RSkComponentText.cpp:43-170`) in the build without
the nested text that shares its parent's builder. Of the canvas only the paragraph drawn on it is
kept: the border, the shadow of the frame and the background do not depend on the text layout.
-/

namespace ReactNativeSkia

/-- What `OnPaint` reads of the layer. -/
structure ParagraphLayer where
  isShadowVisible : Bool := false
  shadowColor : SkColor := SK_ColorBLACK
  shadowOffset : ℚ × ℚ := (0, -3)
  shadowRadius : ℚ := 3

/-- What updates give to the component: the attributed string of its state, the paragraph
attributes of its props, the size of its content frame and its layer. -/
structure ParagraphData where
  attributedString : List Fragment
  paragraphAttributes_ : ParagraphAttributes := {}
  contentSize : ℚ × ℚ := (0, 0)
  layer : ParagraphLayer := {}

/-- A call of `OnPaint`: what the component has been given by then, and the paragraph drawn. -/
structure ParagraphPaint where
  data : ParagraphData
  drawn : Option ParagraphRecord

/-- The component. `lastPaint` is kept for the statements only. -/
structure RSkComponentParagraph where
  data : ParagraphData
  textLayout : RSkSkTextLayout
  expectedAttachmentCount : Nat := 0
  currentAttachmentCount : Nat := 0
  lastPaint : Option ParagraphPaint := none

namespace RSkComponentParagraph

variable [TextDefaults] (getLineMetrics : GetLineMetrics) (c : RSkComponentParagraph)

/-- A newly created component that has been given the data. -/
def new (data : ParagraphData) : RSkComponentParagraph := ⟨data, .new, 0, 0, none⟩

/-- The new builder, and the shadow of a layer whose shadow is visible (`:113-121`). -/
def startTextLayout : RSkSkTextLayout :=
  let layer := c.data.layer
  { c.textLayout with
    builder := some { paragraphStyle := c.textLayout.paraStyle }
    shadow :=
      if layer.isShadowVisible then ⟨layer.shadowColor, layer.shadowOffset, layer.shadowRadius⟩
      else c.textLayout.shadow }

/-- `OnPaint` (`:112-168`); with attachments expected it draws nothing. -/
def onPaint : RSkComponentParagraph :=
  let (textLayout, expectedAttachmentCount) :=
    buildParagraph c.startTextLayout c.data.attributedString true
  let textLayout := { textLayout with paragraph := textLayout.builder.map (·.Build) }
  if expectedAttachmentCount = 0 then
    let textLayout := setTextLines getLineMetrics textLayout c.data.contentSize
      c.data.paragraphAttributes_
    { c with
      textLayout := textLayout
      expectedAttachmentCount := expectedAttachmentCount
      currentAttachmentCount := 0
      lastPaint := some ⟨c.data, textLayout.paragraph⟩ }
  else
    { c with
      textLayout := textLayout
      expectedAttachmentCount := expectedAttachmentCount
      currentAttachmentCount := 0
      lastPaint := some ⟨c.data, none⟩ }

/-- The paragraph that `OnPaint` would draw now. -/
def drawn : Option ParagraphRecord := (c.onPaint getLineMetrics).lastPaint.bind (·.drawn)

end RSkComponentParagraph

/-- What may happen to the component. -/
inductive ParagraphOp where
  | updateState (attributedString : List Fragment)
  | updateProps (paragraphAttributes : ParagraphAttributes)
  | updateLayout (contentSize : ℚ × ℚ)
  | updateLayer (layer : ParagraphLayer)
  | paint

def ParagraphData.apply (data : ParagraphData) : ParagraphOp → ParagraphData
  | .updateState attributedString => { data with attributedString }
  | .updateProps paragraphAttributes => { data with paragraphAttributes_ := paragraphAttributes }
  | .updateLayout contentSize => { data with contentSize }
  | .updateLayer layer => { data with layer }
  | .paint => data

variable [TextDefaults]

def ParagraphOp.exec (getLineMetrics : GetLineMetrics) (c : RSkComponentParagraph)
    (op : ParagraphOp) : RSkComponentParagraph :=
  match op with
  | .paint => c.onPaint getLineMetrics
  | op => { c with data := c.data.apply op }

def ParagraphStep (getLineMetrics : GetLineMetrics) (c : RSkComponentParagraph) (op : ParagraphOp)
    (c' : RSkComponentParagraph) : Prop :=
  op.exec getLineMetrics c = c'

end ReactNativeSkia
