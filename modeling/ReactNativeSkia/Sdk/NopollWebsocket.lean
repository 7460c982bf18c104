import Mathlib.Logic.Function.Basic
import ReactNativeSkia.Misc.CString

/-!
# Web socket messages

`NopollWebsocket` (`ReactSkia/sdk/NopollWebsocket.h`, `NopollWebsocket.cpp`) and the calls of
`RSkWebSocketModule` (`ReactSkia/modules/platform/nopoll/RSkWebSocketModule.cpp`) on sockets that
are open. The JS thread writes into the request of a socket and pushes the pointer, the poll thread
starts workers, and these take the pointers out of the queue. A request is found by its socket.
What `nopoll_base64_decode` gives is a parameter, and so is what lies in the memory behind it.
-/

namespace ReactNativeSkia

/-- `REQUEST_MESSAGE_TYPE_OPEN` and so on. -/
inductive MessageType where
  | open
  | send
  | sendBinary
  | ping
  | close
  deriving DecidableEq, Repr

structure NopollRequest where
  closeRequestCode : Int
  sendMessageData : Chars
  closeReason : Chars
  sendMessageBase64Data : Chars
  messageType : MessageType
  deriving DecidableEq, Repr

/-- A call of JS, without the socket. -/
inductive WebSocketCall where
  | send (message : Chars)
  | sendBinary (base64String : Chars)
  | ping
  | close (code : Int) (reason : Chars)
  deriving DecidableEq, Repr

/-- What a worker does: the call of nopoll, or of `NOPOLLFailureCallback`. -/
inductive WebSocketAction where
  | connect
  | sendText (content : Chars)
  | sendBinary (content : Chars)
  | ping
  | close (code : Int) (reason : Chars)
  | failure (message : String)
  deriving DecidableEq, Repr

/-- Where JS is in a call. -/
inductive WebSocketJs where
  | idle
  /-- Behind the lookup. -/
  | storing (socketID : Nat) (call : WebSocketCall)
  /-- In front of the write of `messageType`. -/
  | typing (socketID : Nat) (call : WebSocketCall)
  /-- In front of the lock of the queue. -/
  | pushing (socketID : Nat) (call : WebSocketCall)
  /-- In front of `sem_post`. -/
  | posting
  deriving DecidableEq, Repr

/-- Where a worker is in `multiConn`. -/
inductive WebSocketWorker where
  | popping
  /-- In front of the `switch`. -/
  | reading (socketID : Nat)
  | running (socketID : Nat) (messageType : MessageType)
  /-- In front of `NOPOLLDisconnectCallback`. -/
  | disconnecting (socketID : Nat)
  | exited
  deriving DecidableEq, Repr

/-- `waiting` is `pollThread` in front of `sem_wait`. `asked` are the calls that have been accepted
and `carriedOut` what has been done at the connection. -/
structure WebSockets where
  requests : Nat → NopollRequest
  connectionList : Nat → Bool
  isOpen : Nat → Bool
  RequestQueue : List Nat := []
  startDownloadingThread : Nat := 0
  currentWorkerThreadCount : Nat := 0
  waiting : Bool := false
  workers : List WebSocketWorker := []
  js : WebSocketJs := .idle
  asked : Nat → List WebSocketCall := fun _ => []
  carriedOut : Nat → List WebSocketAction := fun _ => []

inductive WebSocketOp where
  | jsCall (socketID : Nat) (call : WebSocketCall)
  /-- The payload is written. -/
  | store
  | setType
  | push
  | post
  /-- A turn of `pollThread`. -/
  | poll
  | wake
  | pop (worker : Nat)
  | readType (worker : Nat)
  /-- `behind` is what follows the decoded characters in the memory. -/
  | perform (worker : Nat) (behind : Chars)
  | disconnect (worker : Nat)
  deriving DecidableEq, Repr

def maxWorkerThreadCount : Nat := 5

def WebSocketCall.messageType : WebSocketCall → MessageType
  | send _ => .send
  | sendBinary _ => .sendBinary
  | ping => .ping
  | close _ _ => .close

/-- The fields that the call writes. `getCloseWrapper` passes its reason on as a C string. -/
def NopollRequest.store (request : NopollRequest) : WebSocketCall → NopollRequest
  | .send message => { request with sendMessageData := message }
  | .sendBinary base64String => { request with sendMessageBase64Data := base64String }
  | .ping => request
  | .close code reason =>
    { request with closeRequestCode := code, closeReason := cString reason }

section
variable (decode : Chars → Option Chars)

/-- What the worker does with the request. The length of a binary message is a `strlen`. -/
def NopollRequest.action (request : NopollRequest) (behind : Chars) :
    MessageType → WebSocketAction
  | .open => .connect
  | .send => .sendText request.sendMessageData
  | .sendBinary =>
    match decode request.sendMessageBase64Data with
    | none => .failure "base64 string error"
    | some content => .sendBinary (cString (content ++ behind))
  | .ping => .ping
  | .close => .close request.closeRequestCode request.closeReason

/-- What the call asks for. A text that cannot be decoded has no content to be sent. -/
def WebSocketCall.action : WebSocketCall → WebSocketAction
  | send message => .sendText message
  | sendBinary base64String =>
    match decode base64String with
    | none => .failure "base64 string error"
    | some content => .sendBinary content
  | ping => .ping
  | close code reason => .close code reason

end

namespace WebSockets

def setRequest (s : WebSockets) (socketID : Nat) (request : NopollRequest) : WebSockets :=
  { s with requests := Function.update s.requests socketID request }

def setWorker (s : WebSockets) (worker : Nat) (w : WebSocketWorker) : WebSockets :=
  { s with workers := s.workers.set worker w }

def setType (s : WebSockets) (socketID : Nat) (messageType : MessageType) : WebSockets :=
  s.setRequest socketID { s.requests socketID with messageType := messageType }

def accept (s : WebSockets) (socketID : Nat) (call : WebSocketCall) : WebSockets :=
  { s with
    js := if call = .ping then .pushing socketID call else .storing socketID call
    asked := Function.update s.asked socketID (s.asked socketID ++ [call]) }

/-- `ping` writes the type with the queue locked, the others have written it before. -/
def push (s : WebSockets) (socketID : Nat) (call : WebSocketCall) : WebSockets :=
  { (if call = .ping then s.setType socketID .ping else s) with
    RequestQueue := s.RequestQueue ++ [socketID]
    js := .posting }

def startWorker (s : WebSockets) : WebSockets :=
  { s with
    workers := s.workers ++ [.popping]
    currentWorkerThreadCount := s.currentWorkerThreadCount + 1 }

/-- At a connection that is closed nothing is carried out. -/
def carryOut (s : WebSockets) (socketID : Nat) (action : WebSocketAction) : WebSockets :=
  { s with
    carriedOut :=
      if s.isOpen socketID then
        Function.update s.carriedOut socketID (s.carriedOut socketID ++ [action])
      else s.carriedOut }

/-- `nopoll_conn_close_ext` closes the connection. -/
def perform (s : WebSockets) (worker socketID : Nat) (messageType : MessageType)
    (action : WebSocketAction) : WebSockets :=
  if messageType = .close then
    { (s.carryOut socketID action).setWorker worker (.disconnecting socketID) with
      isOpen := Function.update s.isOpen socketID false }
  else (s.carryOut socketID action).setWorker worker .popping

end WebSockets

/-- `none` if that is not what the thread does next. -/
def WebSocketOp.exec (decode : Chars → Option Chars) (s : WebSockets) :
    WebSocketOp → Option WebSockets
  | jsCall socketID call =>
    if s.js = .idle then
      if s.connectionList socketID then some (s.accept socketID call) else some s
    else none
  | store =>
    match s.js with
    | .storing socketID call =>
      some { s.setRequest socketID ((s.requests socketID).store call) with
        js := .typing socketID call }
    | _ => none
  | setType =>
    match s.js with
    | .typing socketID call =>
      some { s.setType socketID call.messageType with js := .pushing socketID call }
    | _ => none
  | push =>
    match s.js with
    | .pushing socketID call => some (s.push socketID call)
    | _ => none
  | post =>
    if s.js = .posting then
      some { s with startDownloadingThread := s.startDownloadingThread + 1, js := .idle }
    else none
  | poll =>
    if s.waiting then none
    else if s.RequestQueue = [] then some { s with waiting := true }
    else if s.currentWorkerThreadCount < maxWorkerThreadCount then some s.startWorker
    else some s
  | wake =>
    if s.waiting ∧ 0 < s.startDownloadingThread then
      some { s with
        startDownloadingThread := s.startDownloadingThread - 1
        waiting := false }
    else none
  | pop worker =>
    if s.workers[worker]? = some .popping then
      match s.RequestQueue with
      | [] =>
        some { s.setWorker worker .exited with
          currentWorkerThreadCount := s.currentWorkerThreadCount - 1 }
      | socketID :: rest =>
        some { s.setWorker worker (.reading socketID) with RequestQueue := rest }
    else none
  | readType worker =>
    match s.workers[worker]? with
    | some (.reading socketID) =>
      some (s.setWorker worker (.running socketID (s.requests socketID).messageType))
    | _ => none
  | perform worker behind =>
    match s.workers[worker]? with
    | some (.running socketID messageType) =>
      some (s.perform worker socketID messageType
        ((s.requests socketID).action decode behind messageType))
    | _ => none
  | disconnect worker =>
    match s.workers[worker]? with
    | some (.disconnecting socketID) =>
      some { s.setWorker worker .popping with
        connectionList := Function.update s.connectionList socketID false }
    | _ => none

def webSocketStep (decode : Chars → Option Chars) (s : WebSockets) (op : WebSocketOp)
    (s' : WebSockets) : Prop :=
  op.exec decode s = some s'

end ReactNativeSkia
