import ReactNativeSkia.Modules.NetworkingModule

/-!
# Every event of the networking module

`headerCallbackWrapper`, `sendProgressEventwrapper` and the completion callback
(`ReactSkia/modules/platform/libcurl/RSkNetworkingModule.cpp`) as `NetworkingModule` calls them for
requests that run at the same time, and for one request alone. The status code and the URL of a
response are left out.
-/

namespace ReactNativeSkia

inductive ModuleEvent where
  | didReceiveNetworkResponse (headers : List (Chars × Chars))
  | network (event : NetworkEvent)
  deriving DecidableEq, Repr

/-- A callback that libcurl makes for a transfer. -/
inductive RequestCallback where
  | header (line : Chars)
  | body (callback : TransferCallback)
  deriving DecidableEq, Repr

/-! ## One request -/

/-- A request with its response and what it has sent to JS. -/
structure Exchange where
  request : NetworkRequest
  response : CurlResponse := {}
  events : List ModuleEvent := []
  deriving DecidableEq, Repr

namespace Exchange

/-- `headerCallbackWrapper`. -/
def headerCallbackWrapper (x : Exchange) : Exchange :=
  { x with events := x.events ++ [.didReceiveNetworkResponse x.response.headerBuffer] }

/-- The callbacks for the body see the request and its response. -/
def transfer (x : Exchange) : Transfer := { request := x.request, response := x.response }

/-- What a callback for the body leaves. -/
def after (x : Exchange) (t : Transfer) : Exchange where
  request := t.request
  response := t.response
  events := x.events ++ t.events.map .network

/-- The callback for the headers runs at a line that is only a line end. -/
def headerCallback (x : Exchange) (line : Chars) : Exchange :=
  let x := { x with response := x.response.headerCallback line }
  if line = [13, 10] then x.headerCallbackWrapper else x

def callback (x : Exchange) : RequestCallback → Option Exchange
  | .header line => some (x.headerCallback line)
  | .body callback => (x.transfer.callback callback).map x.after

def completionCallback (x : Exchange) : Exchange := x.after x.transfer.completionCallback

/-- A request after the callbacks that libcurl makes for it. -/
def run (request : NetworkRequest) (callbacks : List RequestCallback) : Option Exchange :=
  callbacks.foldlM callback { request := request }

/-- `sendResponseCacheData`. -/
def answer (request : NetworkRequest) (response : CurlResponse) : Exchange :=
  (headerCallbackWrapper { request := request, response := response }).completionCallback

end Exchange

/-! ## All requests -/

/-- `request` are the requests as they are now, `callbacks` what libcurl has called for each of
them, and `events` all that has been sent to JS, each event with the id that it has. -/
structure NetworkLog where
  module : NetworkingModule := {}
  request : Nat → NetworkRequest
  callbacks : Nat → List RequestCallback := fun _ => []
  events : List (Int × ModuleEvent) := []

inductive NetworkLogOp where
  /-- Any step but that of the progress callback. -/
  | module (op : NetworkingOp)
  | progress (request dltotal dlnow ultotal ulnow : Nat)
  deriving DecidableEq, Repr

namespace NetworkLog

def start (networkRequest : Nat → NetworkRequest) : NetworkLog where
  request := networkRequest

/-- The request that a callback gets, with nothing sent. -/
def exchange (s : NetworkLog) (request : Nat) : Exchange where
  request := s.request request
  response := s.module.curl.response request

/-- The callback of libcurl has left the exchange. The response is changed by the module under
it. -/
def called (s : NetworkLog) (module : NetworkingModule) (request : Nat)
    (callback : RequestCallback) (x : Exchange) : NetworkLog where
  module := module
  request := Function.update s.request request x.request
  callbacks := Function.update s.callbacks request (s.callbacks request ++ [callback])
  events := s.events ++ x.events.map fun event => (s.module.requestId_ request, event)

/-- The request has been answered, with the events of the exchange. -/
def answered (s : NetworkLog) (module : NetworkingModule) (request : Nat) (x : Exchange) :
    NetworkLog :=
  { s with
    module := module
    events := s.events ++ x.events.map fun event => (s.module.requestId_ request, event) }

/-- The module under a progress callback, which sets the offset back if it has sent the text. -/
def progressModule (query : Nat → CurlRequest) (networkRequest : Nat → NetworkRequest)
    (s : NetworkLog) (request : Nat) (x : Exchange) : Option NetworkingModule :=
  if x.response = s.module.curl.response request then
    if s.module.curl.network = .performing ∧ request ∈ s.module.curl.unfinished then
      some (s.module.use request)
    else none
  else NetworkingOp.exec query networkRequest s.module (.curl (.rewind request))

end NetworkLog

/-- `none` if that is not what the thread does next. -/
def NetworkLogOp.exec (query : Nat → CurlRequest) (networkRequest : Nat → NetworkRequest)
    (s : NetworkLog) : NetworkLogOp → Option NetworkLog
  | module (.curl (.header request line)) => do
    let module ← NetworkingOp.exec query networkRequest s.module (.curl (.header request line))
    let x ← (s.exchange request).callback (.header line)
    return s.called module request (.header line) x
  | module (.curl (.write request buffer)) => do
    let module ← NetworkingOp.exec query networkRequest s.module (.curl (.write request buffer))
    let x ← (s.exchange request).callback (.body (.write buffer))
    return s.called module request (.body (.write buffer)) x
  | module (.curl (.rewind _)) => none
  | module .complete =>
    match s.module.curl.network with
    | .completing request _ =>
      (NetworkingOp.exec query networkRequest s.module .complete).map fun module =>
        s.answered module request (s.exchange request).completionCallback
    | _ => none
  | module (.provide request) => do
    let module ← NetworkingOp.exec query networkRequest s.module (.provide request)
    return s.answered module request
      (Exchange.answer (s.request request) (s.module.curl.response request))
  | module op => do
    let module ← op.exec query networkRequest s.module
    return { s with module := module }
  | progress request dltotal dlnow ultotal ulnow => do
    let callback := .body (.progress dltotal dlnow ultotal ulnow)
    let x ← (s.exchange request).callback callback
    let module ← s.progressModule query networkRequest request x
    return s.called module request callback x

def networkLogStep (query : Nat → CurlRequest) (networkRequest : Nat → NetworkRequest)
    (s : NetworkLog) (op : NetworkLogOp) (s' : NetworkLog) : Prop :=
  op.exec query networkRequest s = some s'

end ReactNativeSkia
