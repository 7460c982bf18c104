import ReactNativeSkia.Modules.NetworkRequest
import ReactNativeSkia.Sdk.CurlNetworking

/-!
# The networking module

`RSkNetworkingModule` (`ReactSkia/modules/platform/libcurl/RSkNetworkingModule.cpp`) over
`CurlNetworking`, whose thread 0 is the JS thread. `connectionListLock_` is held by an abort from
its lookup to its end and by each completion callback, but not where a request is stored. Of the
events only those of the completion callbacks are kept.
-/

namespace ReactNativeSkia

/-- Where the JS thread is. -/
inductive NetworkingJs where
  | idle
  /-- In `CurlNetworking::sendRequest`. -/
  | sending (request : Nat)
  /-- Behind it, with the request still to be stored. -/
  | storing (request : Nat)
  /-- In `CurlNetworking::abortRequest`, with `connectionListLock_` held. -/
  | aborting (request : Nat)
  deriving DecidableEq, Repr

/-- A `connectionList` may have null pointers as well. The logs: `ids` are the ids handed out,
`accepted` the requests for which `sendRequest` has returned `CURL_RETURN_SUCESS`, and `aborts` the
ids for which `abortRequest` has, with the number of events sent until then. `deadUse` tells that a
request has been stored or read after its completion callback, which deletes it. -/
structure NetworkingModule where
  curl : CurlNetworking := {}
  nextId : Nat := 1
  requestId_ : Nat → Int := fun _ => 0
  connectionList : Int → Option (Option Nat) := fun _ => none
  js : NetworkingJs := .idle
  events : List (Int × NetworkEvent) := []
  ids : List Int := []
  accepted : Nat → Bool := fun _ => false
  aborts : List (Int × Nat) := []
  deadUse : Bool := false

inductive NetworkingOp where
  | sendRequest (request : Nat)
  /-- A step of `CurlNetworking` without the module. -/
  | curl (op : CurlOp)
  /-- `CurlNetworking::sendRequest` has returned. -/
  | returned
  | store
  /-- The completion callback of the network thread. -/
  | complete
  /-- The completion callback of a `responseCacheProviderThread`. -/
  | provide (request : Nat)
  /-- A call of `abortRequest`, up to the section of `CurlNetworking::abortRequest`. -/
  | abortRequest (requestId : Int)
  | remove
  deriving DecidableEq, Repr

/-- The conversion to `int`. -/
def toInt (n : Int) : Int := n.bmod (2 ^ 32)

/-- `nextUniqueId`, with the id and the next value of its counter. -/
def nextUniqueId (nextId : Nat) : Nat × Nat :=
  if nextId = 0 then (1, 2) else (nextId, (nextId + 1) % 2 ^ 64)

namespace CurlOp

/-- A step that is not one of a call of the module or of its completion callback. -/
def isInner : CurlOp → Bool
  | send _ _ | abort _ _ | remove _ | complete | provide _ => false
  | _ => true

/-- The request that the header callback or the progress callback of the module reads. -/
def readRequest : CurlOp → Option Nat
  | header request line => if line = [13, 10] then some request else none
  | rewind request => some request
  | _ => none

end CurlOp

namespace NetworkingModule

/-- The completion callback has run, so that the request is deleted. -/
def completed (s : NetworkingModule) (request : Nat) : Bool := request ∈ s.curl.completions

/-- The request is stored or read. -/
def use (s : NetworkingModule) (request : Nat) : NetworkingModule :=
  { s with deadUse := s.deadUse || s.completed request }

/-- The id of the next request. -/
def newId (s : NetworkingModule) : Int := toInt (nextUniqueId s.nextId).1

def start (s : NetworkingModule) (request : Nat) : NetworkingModule :=
  { s with
    nextId := (nextUniqueId s.nextId).2
    requestId_ := Function.update s.requestId_ request s.newId
    ids := s.ids ++ [s.newId]
    js := .sending request }

def store (s : NetworkingModule) (request : Nat) : NetworkingModule :=
  { s.use request with
    connectionList := Function.update s.connectionList (s.requestId_ request) (some (some request))
    accepted := Function.update s.accepted request true
    js := .idle }

/-- What the completion callback sends, with the id of the request. -/
def completionEvents (networkRequest : Nat → NetworkRequest) (s : NetworkingModule)
    (request : Nat) : List (Int × NetworkEvent) :=
  let t : Transfer := { request := networkRequest request, response := s.curl.response request }
  t.completionCallback.events.map fun event => (s.requestId_ request, event)

/-- The completion callback, which erases and deletes the request. -/
def completionCallback (networkRequest : Nat → NetworkRequest) (s : NetworkingModule)
    (request : Nat) : NetworkingModule :=
  { s.use request with
    events := s.events ++ s.completionEvents networkRequest request
    connectionList := Function.update s.connectionList (s.requestId_ request) none }

/-- `abortRequest` returns `CURL_RETURN_SUCESS`. -/
def abortReturned (s : NetworkingModule) (requestId : Int) : NetworkingModule :=
  { s with aborts := s.aborts ++ [(requestId, s.events.length)], js := .idle }

end NetworkingModule

/-- `none` if that is not what the thread does next. -/
def NetworkingOp.exec (query : Nat → CurlRequest) (networkRequest : Nat → NetworkRequest)
    (s : NetworkingModule) : NetworkingOp → Option NetworkingModule
  | sendRequest request =>
    if s.js = .idle then
      (CurlOp.exec query s.curl (.send 0 request)).map fun curl =>
        { s.start request with curl := curl }
    else none
  | curl op =>
    if op.isInner then
      (op.exec query s.curl).map fun curl =>
        { (op.readRequest.elim s s.use) with curl := curl }
    else none
  | returned =>
    match s.js with
    | .sending request =>
      if s.curl.callers 0 = .idle then
        some { s with js := if s.curl.accepted request then .storing request else .idle }
      else none
    | _ => none
  | store =>
    match s.js with
    | .storing request => some (s.store request)
    | _ => none
  | complete =>
    match s.js, s.curl.network with
    | .aborting _, _ => none
    | _, .completing request _ =>
      (CurlOp.exec query s.curl .complete).map fun curl =>
        { s.completionCallback networkRequest request with curl := curl }
    | _, _ => none
  | provide request =>
    match s.js with
    | .aborting _ => none
    | _ =>
      (CurlOp.exec query s.curl (.provide request)).map fun curl =>
        { s.completionCallback networkRequest request with curl := curl }
  | abortRequest requestId =>
    if s.js = .idle then
      match s.connectionList (toInt requestId) with
      | some (some request) =>
        (CurlOp.exec query s.curl (.abort 0 request)).map fun curl =>
          if s.curl.handle request then
            { s.use request with curl := curl, js := .aborting request }
          else { (s.use request).abortReturned (toInt requestId) with curl := curl }
      | _ =>
        -- the lookup leaves a null pointer
        some { s with
          connectionList := Function.update s.connectionList (toInt requestId) (some none) }
    else none
  | remove =>
    match s.js with
    | .aborting request =>
      (CurlOp.exec query s.curl (.remove 0)).map fun curl =>
        { (s.use request).abortReturned (s.requestId_ request) with
          connectionList := Function.update s.connectionList (s.requestId_ request) none
          curl := curl }
    | _ => none

def networkingStep (query : Nat → CurlRequest) (networkRequest : Nat → NetworkRequest)
    (s : NetworkingModule) (op : NetworkingOp) (s' : NetworkingModule) : Prop :=
  op.exec query networkRequest s = some s'

end ReactNativeSkia
