import ReactNativeSkia.Misc.Base64
import ReactNativeSkia.Sdk.NopollCalls

/-!
# Binary messages

The worker takes a `strlen` for the length of a binary message. It stops at a zero byte of the
message and runs past an end without one, into what follows in the memory. The number that nopoll
reports is compared with the same `strlen`, so nobody is told.
-/

namespace ReactNativeSkia

/-- `nopoll_base64_decode` writes the decoded bytes if the buffer has room for them, and fails for a
text that is not base64. -/
structure DecodesBase64 (decode : Chars → Nat → Option Chars) : Prop where
  encoded : ∀ (bytes : Chars) (size : Nat), bytes.length ≤ size →
    decode (Base64.encode bytes) size = some bytes
  rejected : ∀ (text : Chars) (size : Nat), Base64.decode text = none → decode text size = none

/-- `nopoll_conn_send_binary` reports no more bytes than it has been given. -/
def ReportsAtMost (report : Chars → Int) : Prop :=
  ∀ content : Chars, report content ≤ content.length

/-- What becomes of a message of these bytes: they are handed over, and the failure callback runs
if and only if fewer of them are reported. -/
structure SentByteForByte (bytes : Chars) (outcome : BinarySend) : Prop where
  handed : outcome.handed = some bytes
  failure_iff : outcome.failure.isSome = true ↔ ∃ n ∈ outcome.result, n < bytes.length

/-- What becomes of a text that is not base64: nothing is handed over, and the failure callback
runs. -/
structure Refused (outcome : BinarySend) : Prop where
  handed : outcome.handed = none
  failure : outcome.failure.isSome = true

theorem cString_append_eq_iff (bytes behind : Chars) :
    cString (bytes ++ behind) = bytes ↔ 0 ∉ bytes ∧ cString behind = [] := by
  constructor
  · intro h
    have hfree : 0 ∉ bytes := by
      intro hzero
      rw [← h] at hzero
      have hne := List.mem_takeWhile_imp hzero
      simp at hne
    refine ⟨hfree, ?_⟩
    have hself := cString_eq_self hfree
    unfold cString at h hself ⊢
    rw [List.takeWhile_append, hself, if_pos rfl] at h
    exact List.append_right_eq_self.mp h
  · intro h
    exact cString_append h.1 h.2

variable {decode : Chars → Nat → Option Chars} {report : Chars → Int} {request : NopollRequest}
  {bytes behind : Chars}

/-- At an open connection the worker hands over what its step in the queue of requests says. -/
theorem action_sendBinary (request : NopollRequest) :
    request.action (fun text => decode text (b64DecodeOutSafeSize text.length)) behind
        .sendBinary =
      (sendBinaryNopoll decode report true request behind).handed.elim
        (.failure "base64 string error") .sendBinary := by
  simp only [NopollRequest.action, sendBinaryNopoll]
  cases decode request.sendMessageBase64Data
      (b64DecodeOutSafeSize request.sendMessageBase64Data.length) with
  | none => rfl
  | some content =>
    simp only [if_true]
    split
    · rfl
    · rfl

/-- The buffer has room for the bytes, so they are decoded. -/
theorem sendBinaryNopoll_encode (hdecode : DecodesBase64 decode)
    (htext : request.sendMessageBase64Data = Base64.encode bytes) :
    sendBinaryNopoll decode report true request behind =
      { handed := some (cString (bytes ++ behind))
        result := some (report (cString (bytes ++ behind)))
        failure :=
          if report (cString (bytes ++ behind)) = (cString (bytes ++ behind)).length then none
          else some "sending binary data is failed" } := by
  have hdecoded : decode (Base64.encode bytes)
      (b64DecodeOutSafeSize (Base64.encode bytes).length) = some bytes :=
    hdecode.encoded bytes _ (Base64.length_le_of_encode bytes)
  simp only [sendBinaryNopoll, htext, hdecoded, if_true]
  split
  · rfl
  · rfl

theorem sendBinaryNopoll_refused (hdecode : DecodesBase64 decode) {conn : Bool}
    (htext : Base64.decode request.sendMessageBase64Data = none) :
    Refused (sendBinaryNopoll decode report conn request behind) := by
  simp only [sendBinaryNopoll, hdecode.rejected _ _ htext]
  exact ⟨rfl, rfl⟩

/-- The bytes of a message arrive exactly if none of them is zero and a zero follows in the
memory. -/
theorem sentByteForByte_iff (hdecode : DecodesBase64 decode) (hreport : ReportsAtMost report)
    (htext : request.sendMessageBase64Data = Base64.encode bytes) :
    SentByteForByte bytes (sendBinaryNopoll decode report true request behind) ↔
      0 ∉ bytes ∧ cString behind = [] := by
  rw [sendBinaryNopoll_encode hdecode htext]
  constructor
  · intro h
    exact (cString_append_eq_iff bytes behind).mp (Option.some.inj h.handed)
  · intro h
    rw [(cString_append_eq_iff bytes behind).mpr h]
    refine ⟨rfl, ?_⟩
    have hle := hreport bytes
    by_cases hall : report bytes = bytes.length
    · simp [hall]
    · simp only [if_neg hall, Option.isSome_some, Option.mem_def, Option.some.injEq, true_iff]
      exact ⟨_, rfl, by omega⟩

/-- What JS gives to `sendBinary` and a worker finds in the request of an open socket: for a text
that is not base64 all is well, for the text of any bytes exactly without zeros among them and with
one behind them. -/
theorem binary_messages (decode : Chars → Nat → Option Chars) (report : Chars → Int)
    (hdecode : DecodesBase64 decode) (hreport : ReportsAtMost report) (request : NopollRequest) :
    (∀ bytes behind : Chars,
      SentByteForByte bytes (sendBinaryNopoll decode report true
        (request.store (.sendBinary (Base64.encode bytes))) behind) ↔
      0 ∉ bytes ∧ cString behind = []) ∧
    ∀ text behind : Chars, Base64.decode text = none →
      Refused (sendBinaryNopoll decode report true (request.store (.sendBinary text)) behind) := by
  constructor
  · intro bytes behind
    exact sentByteForByte_iff hdecode hreport rfl
  · intro text behind htext
    exact sendBinaryNopoll_refused hdecode htext

/-- A decoder as nopoll has one. -/
def base64Decode (text : Chars) (size : Nat) : Option Chars :=
  (Base64.decode text).filter fun bytes => bytes.length ≤ size

theorem decodesBase64_base64Decode : DecodesBase64 base64Decode where
  encoded bytes size hsize := by
    rw [base64Decode, Base64.decode_encode]
    simp [Option.filter, hsize]
  rejected text size htext := by
    rw [base64Decode, htext]
    rfl

/-- A request that has just been made. -/
def newRequest : NopollRequest := ⟨0, [], [], [], .open⟩

theorem binary_messages_two_bytes :
    SentByteForByte [1, 2] (sendBinaryNopoll base64Decode (fun content => content.length) true
      (newRequest.store (.sendBinary (Base64.encode [1, 2]))) [0]) :=
  ((binary_messages base64Decode (fun content => content.length) decodesBase64_base64Decode
    (fun content => Int.le_refl content.length) newRequest).1 [1, 2] [0]).mpr
    ⟨by decide, by decide⟩

/-- The bytes 1, 0 and 2: one of them is sent, and no failure is reported. -/
theorem binary_message_cut :
    sendBinaryNopoll base64Decode (fun content => content.length) true
        (newRequest.store (.sendBinary (Base64.encode [1, 0, 2]))) [0] =
      ⟨some [1], some 1, none⟩ ∧
    ¬ SentByteForByte [1, 0, 2] (sendBinaryNopoll base64Decode (fun content => content.length) true
      (newRequest.store (.sendBinary (Base64.encode [1, 0, 2]))) [0]) := by
  have hsent : sendBinaryNopoll base64Decode (fun content => content.length) true
      (newRequest.store (.sendBinary (Base64.encode [1, 0, 2]))) [0] =
        ⟨some [1], some 1, none⟩ := by decide
  refine ⟨hsent, ?_⟩
  rw [hsent]
  intro h
  have hhanded := h.handed
  revert hhanded
  decide

end ReactNativeSkia
