import ReactNativeSkia.Sdk.NopollWebsocket

/-!
# The web socket module

The table of `RSkWebSocketModule` (`ReactSkia/modules/platform/nopoll/RSkWebSocketModule.h`,
`RSkWebSocketModule.cpp`) with the queue of `NopollWebsocket`. The JS thread calls the methods, and
the workers take requests out of the queue and run the callbacks that fill and empty the table. A
request is found by the order in which the requests have been made.
-/

namespace ReactNativeSkia

/-- `disconnectCallback` tells that `NOPOLLDisconnectCallback` is set. -/
structure WebsocketRequest where
  socketID : Int
  nopollRequest_ : NopollRequest
  disconnectCallback : Bool := false
  deriving DecidableEq, Repr

/-- A `connectionList_` may have null pointers as well. `opened` are the ids that `getConnect` has
been called with. -/
structure WebSocketModule where
  requests : List WebsocketRequest := []
  connectionList_ : Int → Option (Option Nat) := fun _ => none
  RequestQueue_ : List Nat := []
  opened : List Int := []

inductive WebSocketModuleOp where
  | getConnect (socketID : Int)
  | getClose (code : Int) (reason : Chars) (socketID : Int)
  | send (message : Chars) (socketID : Int)
  | sendBinary (base64String : Chars) (socketID : Int)
  | ping (socketID : Int)
  /-- A worker takes a request out of the queue. -/
  | pop
  /-- `NOPOLLConnectCallback`. -/
  | connected (request : Nat)
  /-- `NOPOLLDisconnectCallback`. -/
  | disconnected (request : Nat)
  deriving DecidableEq, Repr

/-- What a method writes before it pushes the request. -/
def WebsocketRequest.store (websocketRequest : WebsocketRequest) (call : WebSocketCall) :
    WebsocketRequest :=
  { websocketRequest with
    nopollRequest_ :=
      { websocketRequest.nopollRequest_.store call with messageType := call.messageType }
    disconnectCallback :=
      websocketRequest.disconnectCallback || call.messageType == .close }

namespace WebSocketModule

def getConnect (s : WebSocketModule) (socketID : Int) : WebSocketModule :=
  { s with
    requests := s.requests ++ [{ socketID := socketID, nopollRequest_ := ⟨0, [], [], [], .open⟩ }]
    RequestQueue_ := s.RequestQueue_ ++ [s.requests.length]
    opened := s.opened ++ [socketID] }

/-- `connectionList_[socketID]`, which puts a null pointer into the table for an id without an
entry. -/
def lookup (s : WebSocketModule) (socketID : Int) : WebSocketModule :=
  match s.connectionList_ socketID with
  | some _ => s
  | none => { s with connectionList_ := Function.update s.connectionList_ socketID (some none) }

/-- The lookup, the test for a null pointer, and what the method does with the request. -/
def call (s : WebSocketModule) (socketID : Int) (webSocketCall : WebSocketCall) :
    WebSocketModule :=
  let s := s.lookup socketID
  match s.connectionList_ socketID with
  | some (some request) =>
    { s with
      requests := s.requests.modify request fun websocketRequest =>
        websocketRequest.store webSocketCall
      RequestQueue_ := s.RequestQueue_ ++ [request] }
  | _ => s

def getClose (s : WebSocketModule) (code : Int) (reason : Chars) (socketID : Int) :
    WebSocketModule :=
  s.call socketID (.close code reason)

def send (s : WebSocketModule) (message : Chars) (socketID : Int) : WebSocketModule :=
  s.call socketID (.send message)

def sendBinary (s : WebSocketModule) (base64String : Chars) (socketID : Int) : WebSocketModule :=
  s.call socketID (.sendBinary base64String)

def ping (s : WebSocketModule) (socketID : Int) : WebSocketModule := s.call socketID .ping

def connectCallback (s : WebSocketModule) (request : Nat) (socketID : Int) : WebSocketModule :=
  { s with connectionList_ := Function.update s.connectionList_ socketID (some (some request)) }

def disconnectCallback (s : WebSocketModule) (socketID : Int) : WebSocketModule :=
  { s with connectionList_ := Function.update s.connectionList_ socketID none }

end WebSocketModule

/-- `none` if that is not what the thread does next. -/
def WebSocketModuleOp.exec (s : WebSocketModule) : WebSocketModuleOp → Option WebSocketModule
  | getConnect socketID => some (s.getConnect socketID)
  | getClose code reason socketID => some (s.getClose code reason socketID)
  | send message socketID => some (s.send message socketID)
  | sendBinary base64String socketID => some (s.sendBinary base64String socketID)
  | ping socketID => some (s.ping socketID)
  | pop =>
    match s.RequestQueue_ with
    | [] => none
    | _ :: rest => some { s with RequestQueue_ := rest }
  | connected request =>
    match s.requests[request]? with
    | some websocketRequest => some (s.connectCallback request websocketRequest.socketID)
    | none => none
  | disconnected request =>
    match s.requests[request]? with
    | some websocketRequest =>
      if websocketRequest.disconnectCallback then
        some (s.disconnectCallback websocketRequest.socketID)
      else none
    | none => none

def webSocketModuleStep (s : WebSocketModule) (op : WebSocketModuleOp) (s' : WebSocketModule) :
    Prop :=
  op.exec s = some s'

end ReactNativeSkia
