import Mathlib.Data.List.Basic

/-!
# The image component

The part of `RSkComponentImage` (`ReactSkia/components/RSkComponentImage.cpp`) that loads a remote
image and draws it. Props are updated in two steps, `updateComponentProps` and the assignment of
`component_.props` (`RSkComponent::updateComponentData`). A request is answered by the network
thread or by a thread that provides the cached response, which may run before `sendRequest` returns.
Images are known by the URI of the response that they were decoded from. What the cache of decoded
images has is an argument.
-/

namespace ReactNativeSkia

/-- Where a request is. -/
inductive ImageRequestStage where
  /-- In front of `sendRequest`. -/
  | created
  | transferring
  /-- A cached response, in front of its header callback. -/
  | provided (cacheControl : Bool)
  /-- A cached response without a body, for which no thread is started. -/
  | unanswered
  /-- In front of the completion callback. -/
  | received
  /-- In `processImageData`, which has read `component_.props`. -/
  | processing (source : String)
  /-- In front of the reset of `isRequestInProgress_`. -/
  | processed
  /-- In front of the reset of `remoteCurlRequest_`. -/
  | ending
  | completed
  /-- Taken out of the transfers. -/
  | aborted
  /-- `sendRequest` has returned false. -/
  | failed
  deriving DecidableEq, Repr

structure ImageRequest where
  URL : String
  stage : ImageRequestStage
  deriving DecidableEq, Repr

/-- `source` is the URI in `component_.props`, and `update` the one that `updateComponentProps` has
seen and that is not stored yet. `sending` and `sent` count the paints in `requestNetworkImageData`,
in front of `sendRequest` and of `isRequestInProgress_ = true`. `drawn` are the images that
`OnPaint` has drawn out of `networkImageData_`, behind the source at that time. `nullUsed` tells of
a header callback that went through a null `remoteCurlRequest_`. -/
structure ComponentImage where
  source : String
  update : Option String := none
  networkImageData_ : Option String := none
  isRequestInProgress_ : Bool := false
  remoteCurlRequest_ : Option Nat := none
  sending : Nat := 0
  sent : Nat := 0
  requests : List ImageRequest := []
  drawn : List (String × String) := []
  nullUsed : Bool := false
  deriving DecidableEq, Repr

/-- What `sendRequest` does. -/
inductive ImageSendResult where
  | transfers
  | provides (cacheControl : Bool)
  | unanswered
  | fails
  deriving DecidableEq, Repr

def ImageSendResult.stage : ImageSendResult → ImageRequestStage
  | transfers => .transferring
  | provides cacheControl => .provided cacheControl
  | unanswered => .unanswered
  | fails => .failed

inductive ImageOp where
  | updateComponentProps (uri : String) (forceUpdate : Bool)
  | assignProps
  /-- `OnPaint` with a picture. -/
  | paint
  /-- `OnPaint` without one, up to `sendRequest`. -/
  | requestNetworkImageData
  | sendRequest (result : ImageSendResult)
  | setInProgress
  /-- The header callback in a transfer. -/
  | header (request : Nat) (cacheControl : Bool)
  /-- The header callback of a cached response. -/
  | provideHeader (request : Nat)
  /-- The transfer has ended. -/
  | finishTransfer (request : Nat)
  /-- `processImageData` reads the props. -/
  | readProps (request : Nat)
  /-- The rest of it: whether there is a new image that is not in the cache of decoded images. -/
  | processImageData (request : Nat) (decoded : Bool)
  | resetInProgress (request : Nat)
  | resetRequest (request : Nat)
  deriving DecidableEq, Repr

namespace ComponentImage

def stage (s : ComponentImage) (request : Nat) : Option ImageRequestStage :=
  s.requests[request]?.map ImageRequest.stage

def URL (s : ComponentImage) (request : Nat) : Option String :=
  s.requests[request]?.map ImageRequest.URL

def setStage (s : ComponentImage) (request : Nat) (stage : ImageRequestStage) : ComponentImage :=
  { s with requests := s.requests.modify request fun r => { r with stage := stage } }

/-- `abortRequest` takes a request out of the transfers. -/
def abortRequest (s : ComponentImage) (request : Nat) : ComponentImage :=
  if s.stage request = some .transferring then s.setStage request .aborted else s

/-- The branch for a new URI. -/
def changeSource (s : ComponentImage) : ComponentImage :=
  let s :=
    match s.isRequestInProgress_, s.remoteCurlRequest_ with
    | true, some request =>
      { s.abortRequest request with remoteCurlRequest_ := none, isRequestInProgress_ := false }
    | _, _ => s
  { s with networkImageData_ := none }

/-- The props have another URI, or are forced. -/
def changes (s : ComponentImage) (uri : String) (forceUpdate : Bool) : Bool :=
  forceUpdate || s.source ≠ uri

def updateComponentProps (s : ComponentImage) (uri : String) (forceUpdate : Bool) :
    ComponentImage :=
  { (if s.changes uri forceUpdate then s.changeSource else s) with update := some uri }

/-- `std::make_shared<CurlRequest>`. -/
def makeRequest (s : ComponentImage) : ComponentImage :=
  { s with
    requests := s.requests ++ [⟨s.source, .created⟩]
    remoteCurlRequest_ := some s.requests.length
    sending := s.sending + 1 }

/-- What is sent is `remoteCurlRequest_`. One that has been sent before, by another paint, counts as
a new request: its handle is the one that an abort finds. -/
def sendRequest (s : ComponentImage) (request : Nat) (r : ImageRequest)
    (result : ImageSendResult) : ComponentImage :=
  { (if r.stage = .created then s.setStage request result.stage
      else { s with
        requests := s.requests ++ [⟨r.URL, result.stage⟩]
        remoteCurlRequest_ := some s.requests.length }) with
    sending := s.sending - 1
    sent := s.sent + 1 }

/-- The header callback looks at `remoteCurlRequest_` if there is a `Cache-Control`. -/
def headerCallback (s : ComponentImage) (cacheControl : Bool) : ComponentImage :=
  { s with nullUsed := s.nullUsed || cacheControl && s.remoteCurlRequest_.isNone }

/-- The end of `processImageData`. -/
def processImageData (s : ComponentImage) (request : Nat) (source : String) (decoded : Bool) :
    ComponentImage :=
  { s.setStage request .processed with
    networkImageData_ :=
      if decoded ∧ s.URL request = some source then s.URL request else s.networkImageData_ }

end ComponentImage

open ComponentImage

/-- `none` if that is not what happens next, or goes through a null pointer in `sendRequest`. -/
def ImageOp.exec (s : ComponentImage) : ImageOp → Option ComponentImage
  | updateComponentProps uri forceUpdate =>
    if s.update = none then some (s.updateComponentProps uri forceUpdate) else none
  | assignProps => s.update.map fun uri => { s with source := uri, update := none }
  | paint => s.networkImageData_.map fun image => { s with drawn := s.drawn ++ [(s.source, image)] }
  | requestNetworkImageData =>
    if s.networkImageData_ = none ∧ s.isRequestInProgress_ = false then some s.makeRequest
    else none
  | sendRequest result =>
    if s.sending ≠ 0 then do
      let request ← s.remoteCurlRequest_
      let r ← s.requests[request]?
      some (s.sendRequest request r result)
    else none
  | setInProgress =>
    if s.sent ≠ 0 then some { s with isRequestInProgress_ := true, sent := s.sent - 1 } else none
  | header request cacheControl =>
    if s.stage request = some .transferring then some (s.headerCallback cacheControl) else none
  | provideHeader request =>
    match s.stage request with
    | some (.provided cacheControl) =>
      some ((s.headerCallback cacheControl).setStage request .received)
    | _ => none
  | finishTransfer request =>
    if s.stage request = some .transferring then some (s.setStage request .received) else none
  | readProps request =>
    if s.stage request = some .received then some (s.setStage request (.processing s.source))
    else none
  | processImageData request decoded =>
    match s.stage request with
    | some (.processing source) => some (s.processImageData request source decoded)
    | _ => none
  | resetInProgress request =>
    if s.stage request = some .processed then
      some { s.setStage request .ending with isRequestInProgress_ := false }
    else none
  | resetRequest request =>
    if s.stage request = some .ending then
      some { s.setStage request .completed with remoteCurlRequest_ := none }
    else none

def ImageStep (s : ComponentImage) (op : ImageOp) (t : ComponentImage) : Prop :=
  op.exec s = some t

end ReactNativeSkia
