import Mathlib.Logic.Function.Basic
import ReactNativeSkia.Sdk.CurlResponse

/-!
# Network requests

`CurlNetworking` (`ReactSkia/sdk/CurlNetworking.h`, `CurlNetworking.cpp`) over `ThreadSafeCache`
(`ThreadSafeCache.h`). Any number of threads send requests and abort them, `multiNetworkThread_`
runs the transfers, and a thread of its own answers each request that is found in the cache. What
libcurl does in `curl_multi_perform` is left to the environment: it makes the callbacks of the
unfinished transfers and finishes them. So is the expiry of what is in the cache. Requests are
numbered, and what each of them asks for is fixed.
-/

namespace ReactNativeSkia

/-- `query["data"]`. -/
inductive RequestData where
  | none
  | string (data : Chars)
  /-- Any other kind, which is not implemented. -/
  | other
  deriving DecidableEq, Repr

structure CurlRequest where
  URL : String
  method : String
  headers : List (String × String) := []
  data : RequestData := .none
  deriving DecidableEq, Repr

namespace CurlRequest

def get (URL : String) : CurlRequest where
  URL := URL
  method := "GET"

/-- The request gets as far as `curl_multi_add_handle`. -/
def supported (request : CurlRequest) : Bool :=
  if request.method = "POST" then request.data ≠ .other else request.method = "GET"

/-- `writeCallbackCurlWrapper` is set. -/
def hasWriteCallback (request : CurlRequest) : Bool :=
  if request.method = "POST" then request.data ≠ .none else true

end CurlRequest

/-- Where a thread is in `sendRequest` and `abortRequest`. -/
inductive CurlCaller where
  | idle
  /-- In front of the lookup in the cache. -/
  | looking (request : Nat)
  | preparing (request : Nat)
  | adding (request : Nat)
  /-- In front of `sem_getvalue`. -/
  | added (request : Nat)
  | posting (request : Nat)
  /-- In front of the section of `abortRequest`. -/
  | aborting (request : Nat)
  deriving DecidableEq, Repr

/-- Where `multiNetworkThread_` is. -/
inductive MultiNetworkThread where
  /-- In front of `sem_wait`. -/
  | waiting
  | locking
  /-- In `curl_multi_perform`, with `curlInstanceMutex_` held. -/
  | performing
  /-- In front of `curl_multi_info_read`. -/
  | reading (stillAlive : Bool)
  /-- With the message of a request whose transfer was `ok` or failed. -/
  | storing (request : Nat) (ok stillAlive : Bool)
  | completing (request : Nat) (stillAlive : Bool)
  | cleaning (request : Nat) (stillAlive : Bool)
  deriving DecidableEq, Repr

/-- `unfinished` are the transfers of the multi handle, and `messages` those that libcurl has
finished. `providers` are the requests for which a `responseCacheProviderThread` runs. The logs:
`accepted` are the requests for which `sendRequest` has returned true, `aborted` those for which
`abortRequest` has. `completions` are the calls of the completion callback, `cleanups` those of
`curl_easy_cleanup`, and `served` the requests found in the cache, with the one whose response
it was. -/
structure CurlNetworking where
  started : Nat → Bool := fun _ => false
  handle : Nat → Bool := fun _ => false
  curlResponse : Nat → Nat := id
  responses : Nat → CurlResponse := fun _ => {}
  callers : Nat → CurlCaller := fun _ => .idle
  unfinished : List Nat := []
  messages : List (Nat × Bool) := []
  networkRequestSem : Nat := 0
  network : MultiNetworkThread := .waiting
  networkCache : String → Option Nat := fun _ => none
  providers : List Nat := []
  accepted : Nat → Bool := fun _ => false
  aborted : Nat → Bool := fun _ => false
  completions : List Nat := []
  cleanups : Nat → Nat := fun _ => 0
  served : List (Nat × Nat) := []

inductive CurlOp where
  /-- A call of `sendRequest`. -/
  | send (thread request : Nat)
  | lookup (thread : Nat)
  /-- From `curl_easy_init`, which may fail, to the lock. -/
  | prepare (thread : Nat) (initialized : Bool)
  | add (thread : Nat)
  | getvalue (thread : Nat)
  | post (thread : Nat)
  /-- A call of `abortRequest`, with the test of the handle. -/
  | abort (thread request : Nat)
  | remove (thread : Nat)
  | wake
  | lock
  | header (request : Nat) (line : Chars)
  | write (request : Nat) (buffer : Chars)
  /-- The progress callback sets the offset of the buffer back. -/
  | rewind (request : Nat)
  /-- The transfer is finished. -/
  | finish (request : Nat) (ok : Bool)
  | performed
  | read
  | store
  | complete
  | cleanup
  /-- The callbacks of a `responseCacheProviderThread`. -/
  | provide (request : Nat)
  | expire (URL : String)
  deriving DecidableEq, Repr

namespace CurlNetworking

def setCaller (s : CurlNetworking) (thread : Nat) (caller : CurlCaller) : CurlNetworking :=
  { s with callers := Function.update s.callers thread caller }

/-- `sendRequest` returns true. -/
def accept (s : CurlNetworking) (thread request : Nat) : CurlNetworking :=
  { s.setCaller thread .idle with accepted := Function.update s.accepted request true }

def response (s : CurlNetworking) (request : Nat) : CurlResponse :=
  s.responses (s.curlResponse request)

def setResponse (s : CurlNetworking) (request : Nat) (response : CurlResponse) : CurlNetworking :=
  { s with responses := Function.update s.responses (s.curlResponse request) response }

/-- The request is found in the cache, with the response of `producer`. -/
def serve (s : CurlNetworking) (thread request producer : Nat) : CurlNetworking :=
  { s.accept thread request with
    curlResponse := Function.update s.curlResponse request producer
    providers :=
      if (s.responses producer).responseBuffer = none then s.providers
      else s.providers ++ [request]
    served := s.served ++ [(request, producer)] }

def addHandle (s : CurlNetworking) (thread request : Nat) : CurlNetworking :=
  { s.setCaller thread (.added request) with unfinished := s.unfinished ++ [request] }

/-- The section of `abortRequest`. libcurl drops the message of a handle that is removed, and
does nothing with a null handle. -/
def removeHandle (s : CurlNetworking) (thread request : Nat) : CurlNetworking :=
  { s.setCaller thread .idle with
    unfinished := s.unfinished.filter (· ≠ request)
    messages := s.messages.filter (·.1 ≠ request)
    cleanups := Function.update s.cleanups request
      (s.cleanups request + if s.handle request then 1 else 0)
    handle := Function.update s.handle request false
    aborted := Function.update s.aborted request true }

/-- The response of a finished request goes into the cache. -/
def stores (s : CurlNetworking) (URL : String) (request : Nat) (ok : Bool) : Bool :=
  ok && (s.response request).shouldCacheData && s.networkCache URL = none &&
    !needEvict ((s.response request).contentSize + (s.response request).headerBufferSize)

def storeResponse (s : CurlNetworking) (URL : String) (request : Nat) (ok : Bool) :
    CurlNetworking :=
  if s.stores URL request ok then
    { s with networkCache := Function.update s.networkCache URL (some (s.curlResponse request)) }
  else s

def cleanupHandle (s : CurlNetworking) (request : Nat) (stillAlive : Bool) : CurlNetworking :=
  { s with
    cleanups := Function.update s.cleanups request (s.cleanups request + 1)
    handle := Function.update s.handle request false
    network := .reading stillAlive }

end CurlNetworking

/-- `none` if that is not what the thread does next. -/
def CurlOp.exec (query : Nat → CurlRequest) (s : CurlNetworking) : CurlOp → Option CurlNetworking
  | send thread request =>
    if s.callers thread = .idle ∧ s.started request = false then
      some { s.setCaller thread (.looking request) with
        started := Function.update s.started request true }
    else none
  | lookup thread =>
    match s.callers thread with
    | .looking request =>
      match s.networkCache (query request).URL with
      | some producer => some (s.serve thread request producer)
      | none => some (s.setCaller thread (.preparing request))
    | _ => none
  | prepare thread initialized =>
    match s.callers thread with
    | .preparing request =>
      if initialized then
        some { s.setCaller thread
            (if (query request).supported then .adding request else .idle) with
          handle := Function.update s.handle request true }
      else some (s.setCaller thread .idle)
    | _ => none
  | add thread =>
    match s.callers thread with
    | .adding request =>
      if s.network = .performing then none else some (s.addHandle thread request)
    | _ => none
  | getvalue thread =>
    match s.callers thread with
    | .added request =>
      if s.networkRequestSem = 0 then some (s.setCaller thread (.posting request))
      else some (s.accept thread request)
    | _ => none
  | post thread =>
    match s.callers thread with
    | .posting request =>
      some { s.accept thread request with networkRequestSem := s.networkRequestSem + 1 }
    | _ => none
  | abort thread request =>
    if s.callers thread = .idle ∧ s.accepted request = true then
      some (if s.handle request then s.setCaller thread (.aborting request) else s)
    else none
  | remove thread =>
    match s.callers thread with
    | .aborting request =>
      if s.network = .performing then none else some (s.removeHandle thread request)
    | _ => none
  | wake =>
    if s.network = .waiting ∧ 0 < s.networkRequestSem then
      some { s with networkRequestSem := s.networkRequestSem - 1, network := .locking }
    else none
  | lock => if s.network = .locking then some { s with network := .performing } else none
  | header request line =>
    if s.network = .performing ∧ request ∈ s.unfinished then
      some (s.setResponse request ((s.response request).headerCallback line))
    else none
  | write request buffer =>
    if s.network = .performing ∧ request ∈ s.unfinished ∧ (query request).hasWriteCallback then
      ((s.response request).writeCallback buffer).map (s.setResponse request)
    else none
  | rewind request =>
    if s.network = .performing ∧ request ∈ s.unfinished then
      some (s.setResponse request { s.response request with responseBufferOffset := 0 })
    else none
  | finish request ok =>
    if s.network = .performing ∧ request ∈ s.unfinished then
      some { s with
        unfinished := s.unfinished.erase request
        messages := s.messages ++ [(request, ok)] }
    else none
  | performed =>
    if s.network = .performing then
      some { s with network := .reading (s.unfinished ≠ []) }
    else none
  | read =>
    match s.network with
    | .reading stillAlive =>
      match s.messages with
      | [] => some { s with network := if stillAlive then .locking else .waiting }
      | (request, ok) :: messages =>
        some { s with messages := messages, network := .storing request ok stillAlive }
    | _ => none
  | store =>
    match s.network with
    | .storing request ok stillAlive =>
      some { s.storeResponse (query request).URL request ok with
        network := .completing request stillAlive }
    | _ => none
  | complete =>
    match s.network with
    | .completing request stillAlive =>
      some { s with
        completions := s.completions ++ [request]
        network := .cleaning request stillAlive }
    | _ => none
  | cleanup =>
    match s.network with
    | .cleaning request stillAlive => some (s.cleanupHandle request stillAlive)
    | _ => none
  | provide request =>
    if request ∈ s.providers then
      some { s with
        providers := s.providers.erase request
        completions := s.completions ++ [request] }
    else none
  | expire URL => some { s with networkCache := Function.update s.networkCache URL none }

def curlStep (query : Nat → CurlRequest) (s : CurlNetworking) (op : CurlOp)
    (s' : CurlNetworking) : Prop :=
  op.exec query s = some s'

end ReactNativeSkia
