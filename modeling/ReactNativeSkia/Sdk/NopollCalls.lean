import ReactNativeSkia.Sdk.NopollWebsocket
import Mathlib.Data.List.Infix

/-!
# What nopoll is given

The parts of `NopollWebsocket` (`ReactSkia/sdk/NopollWebsocket.cpp`) that work on the bytes of a
request: the split of the URL and the binary message. `nopoll_base64_decode` and the number of bytes
that `nopoll_conn_send_binary` reports are parameters.
-/

namespace ReactNativeSkia

/-- `WEBSOCKET_URL` and `WEBSOCKET_PORTNO`, or `NULL`. -/
def parseUrl (url : Chars) : Option (Chars × Chars) :=
  if chars "s://" <:+: url then
    let webSocketEndPoint := url.drop (url.idxOf 58 + 3)
    let port :=
      -- without a delimiter `find` is `npos`, and `npos + 1` is 0
      if 58 ∈ webSocketEndPoint then webSocketEndPoint.drop (webSocketEndPoint.idxOf 58 + 1)
      else webSocketEndPoint
    some (webSocketEndPoint.take (webSocketEndPoint.idxOf 58), port)
  else none

/-- The host and the port of `nopoll_conn_new` in `getConnectNopoll`, which are C strings. -/
def getConnectNopoll (url : Chars) : Option (Chars × Chars) :=
  (parseUrl url).map fun parsedUrl => (cString parsedUrl.1, cString parsedUrl.2)

/-- `B64DECODE_OUT_SAFESIZE`. -/
def b64DecodeOutSafeSize (x : Nat) : Nat := x * 3 / 4

/-- What `sendBinaryNopoll` leaves: the bytes handed to `nopoll_conn_send_binary` with the number
that it reports, and the message of `NOPOLLFailureCallback`. -/
structure BinarySend where
  handed : Option Chars
  result : Option Int
  failure : Option String
  deriving DecidableEq, Repr

/-- `decode` is given the text and the size of the buffer. `behind` is what follows the decoded
bytes in the memory, which the `strlen` runs into. -/
def sendBinaryNopoll (decode : Chars → Nat → Option Chars) (report : Chars → Int) (conn : Bool)
    (request : NopollRequest) (behind : Chars) : BinarySend :=
  let text := request.sendMessageBase64Data
  match decode text (b64DecodeOutSafeSize text.length) with
  | none => ⟨none, none, some "base64 string error"⟩
  | some content =>
    if conn then
      let webSocketBuffer := cString (content ++ behind)
      let result := report webSocketBuffer
      if result = webSocketBuffer.length then ⟨some webSocketBuffer, some result, none⟩
      else ⟨some webSocketBuffer, some result, some "sending binary data is failed"⟩
    else ⟨none, none, some "sending binary data is failed"⟩

end ReactNativeSkia
