import ReactNativeSkia.Sdk.CurlResponse

/-!
# What a request sends to JS

`NetworkRequest` and the events of its callbacks
(`ReactSkia/modules/platform/libcurl/RSkNetworkingModule.h`, `RSkNetworkingModule.cpp`). The id of
the request, the first element of every event, is left out here. The byte counts of the progress
callback are natural numbers.
-/

namespace ReactNativeSkia

inductive ResponseType where
  | text
  | base64
  | other
  deriving DecidableEq, Repr

structure NetworkRequest where
  useIncrementalUpdates_ : Bool
  responseType_ : ResponseType
  uploadComplete_ : Bool := false
  downloadComplete_ : Bool := false
  deriving DecidableEq, Repr

inductive NetworkEvent where
  | didSendNetworkData (ulnow ultotal : Nat)
  | didReceiveNetworkIncrementalData (text : Chars) (dlnow dltotal : Nat)
  | didReceiveNetworkDataProgress (dlnow dltotal : Nat)
  /-- For `base64` the data is a null pointer. -/
  | didReceiveNetworkData (text : Option Chars)
  | didCompleteNetworkResponse
  deriving DecidableEq, Repr

/-- A request with its response and what has been sent so far. -/
structure Transfer where
  request : NetworkRequest
  response : CurlResponse := {}
  events : List NetworkEvent := []
  deriving DecidableEq, Repr

/-- The callbacks that libcurl makes for the body of a response. -/
inductive TransferCallback where
  | write (buffer : Chars)
  | progress (dltotal dlnow ultotal ulnow : Nat)
  deriving DecidableEq, Repr

namespace Transfer

def sendEvent (t : Transfer) (event : NetworkEvent) : Transfer :=
  { t with events := t.events ++ [event] }

/-- The text of the buffer. -/
def text (t : Transfer) : Chars := cString (t.response.responseBuffer.getD [])

/-- The part of `sendProgressEventwrapper` about the upload. -/
def sendUploadProgress (t : Transfer) (ultotal ulnow : Nat) : Transfer :=
  if t.request.uploadComplete_ = false ∧ ultotal ≠ 0 then
    let t := t.sendEvent (.didSendNetworkData ulnow ultotal)
    if ulnow ≥ ultotal then { t with request := { t.request with uploadComplete_ := true } } else t
  else t

/-- The part of `sendProgressEventwrapper` about the download. -/
def sendDownloadProgress (t : Transfer) (dltotal dlnow : Nat) : Transfer :=
  if t.request.downloadComplete_ = false ∧ dlnow ≠ 0 then
    if t.request.useIncrementalUpdates_ then
      if t.request.responseType_ = .text ∧ t.response.responseBufferOffset ≠ 0 then
        { t.sendEvent (.didReceiveNetworkIncrementalData t.text dlnow dltotal) with
          response := { t.response with responseBufferOffset := 0 } }
      else t.sendEvent (.didReceiveNetworkDataProgress dlnow dltotal)
    else t
  else t

def sendProgressEvent (t : Transfer) (dltotal dlnow ultotal ulnow : Nat) : Transfer :=
  (t.sendUploadProgress ultotal ulnow).sendDownloadProgress dltotal dlnow

def sendData (t : Transfer) : Transfer :=
  if t.response.responseBuffer = none ∨ t.response.contentSize = 0 then t
  else
    match t.request.responseType_ with
    | .text => t.sendEvent (.didReceiveNetworkData (some t.text))
    | .base64 => t.sendEvent (.didReceiveNetworkData none)
    | .other => t

def completionCallback (t : Transfer) : Transfer :=
  let t := { t with request := { t.request with downloadComplete_ := true } }
  let t :=
    if ¬ (t.request.useIncrementalUpdates_ ∧ t.request.responseType_ = .text) then t.sendData
    else t
  t.sendEvent .didCompleteNetworkResponse

def callback (t : Transfer) : TransferCallback → Option Transfer
  | .write buffer => do
    let response ← t.response.writeCallback buffer
    return { t with response := response }
  | .progress dltotal dlnow ultotal ulnow => some (t.sendProgressEvent dltotal dlnow ultotal ulnow)

/-- A transfer after the callbacks that libcurl makes before it is done. -/
def run (request : NetworkRequest) (callbacks : List TransferCallback) : Option Transfer :=
  callbacks.foldlM callback { request := request }

/-- A transfer from start to end. -/
def live (request : NetworkRequest) (callbacks : List TransferCallback) : Option Transfer :=
  (run request callbacks).map completionCallback

/-- The answer to a later request from the cache. -/
def cached (first second : NetworkRequest) (callbacks : List TransferCallback) : Option Transfer :=
  (run first callbacks).map fun t =>
    if t.response.responseBuffer = none then { request := second, response := t.response }
    else completionCallback { request := second, response := t.response }

end Transfer

end ReactNativeSkia
