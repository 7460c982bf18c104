import ReactNativeSkia.Misc.Lists
import ReactNativeSkia.Misc.Run
import ReactNativeSkia.Sdk.Proofs.WebSocketSteps

/-!
# What becomes of the calls on a socket

All calls on a socket write into the same request, and the queue holds pointers to it. The calls
are carried out as they have been asked for if each waits until nobody has a use for the request
any more.
-/

namespace ReactNativeSkia

/-- The characters of the call that pass through a C string have no zero among them. -/
def WebSocketCall.Plain (decode : Chars → Option Chars) : WebSocketCall → Prop
  | send _ | ping => True
  | sendBinary base64String => ∀ content ∈ decode base64String, 0 ∉ content
  | close _ reason => 0 ∉ reason

instance (decode : Chars → Option Chars) (call : WebSocketCall) :
    Decidable (call.Plain decode) := by
  cases call <;> unfold WebSocketCall.Plain <;> infer_instance

/-- The pointer to the request of the socket is with the worker. -/
def WebSocketWorker.holds (socketID : Nat) : WebSocketWorker → Bool
  | reading socket | running socket _ => socket == socketID
  | popping | disconnecting _ | exited => false

namespace WebSockets

/-- Nothing has been asked for yet. -/
structure Opened (s : WebSockets) : Prop where
  queue : s.RequestQueue = []
  workers : s.workers = []
  count : s.currentWorkerThreadCount = 0
  js : s.js = .idle
  asked : ∀ socketID, s.asked socketID = []
  carriedOut : ∀ socketID, s.carriedOut socketID = []

/-- No thread has anything to do until the next call of JS. -/
def Resting (decode : Chars → Option Chars) (s : WebSockets) : Prop :=
  ∀ op : WebSocketOp, op.exec decode s ≠ none → ∃ socketID call, op = .jsCall socketID call

/-- Each call is carried out once, as it has been asked for and in order. -/
structure InOrder (decode : Chars → Option Chars) (s : WebSockets) : Prop where
  ordered : ∀ socketID,
    s.carriedOut socketID <+: (s.asked socketID).map (WebSocketCall.action decode)
  all : s.Resting decode → ∀ socketID,
    s.carriedOut socketID = (s.asked socketID).map (WebSocketCall.action decode)
  workers : s.workers.countP (· ≠ .exited) ≤ maxWorkerThreadCount

/-- The socket is open, and nobody has a use for what is in its request. -/
def Free (s : WebSockets) (socketID : Nat) : Prop :=
  s.isOpen socketID = true ∧ socketID ∉ s.RequestQueue ∧
    ∀ worker ∈ s.workers, worker.holds socketID = false

instance (s : WebSockets) (socketID : Nat) : Decidable (s.Free socketID) :=
  inferInstanceAs (Decidable (_ ∧ _ ∧ _))

end WebSockets

/-- The calls are made on open sockets. -/
def WebSocketOp.OnOpen (s : WebSockets) : WebSocketOp → Prop
  | .jsCall socketID _ => s.isOpen socketID = true
  | _ => True

instance (s : WebSockets) (op : WebSocketOp) : Decidable (op.OnOpen s) := by
  cases op <;> unfold WebSocketOp.OnOpen <;> infer_instance

/-- A call writes into a request that is free, and no C string is longer or shorter than what it
stands for. -/
def WebSocketOp.KeepsRequest (decode : Chars → Option Chars) (s : WebSockets) :
    WebSocketOp → Prop
  | .jsCall _ call => call.Plain decode
  | .store =>
    match s.js with
    | .storing socketID _ => s.Free socketID
    | _ => True
  | .push =>
    match s.js with
    | .pushing socketID .ping => s.Free socketID
    | _ => True
  | .perform worker behind =>
    match s.workers[worker]? with
    | some (.running _ .sendBinary) => cString behind = []
    | _ => True
  | _ => True

instance (decode : Chars → Option Chars) (s : WebSockets) (op : WebSocketOp) :
    Decidable (op.KeepsRequest decode s) := by
  cases op <;> unfold WebSocketOp.KeepsRequest <;> try infer_instance
  · cases s.js <;> infer_instance
  · dsimp only
    split <;> infer_instance
  · dsimp only
    split <;> infer_instance

/-! ## Requests -/

section

variable {decode : Chars → Option Chars} {request : NopollRequest} {call : WebSocketCall}
  {behind : Chars}

theorem NopollRequest.store_store (request : NopollRequest) (call : WebSocketCall) :
    (request.store call).store call = request.store call := by
  cases call <;> rfl

/-- The action for a request into which the call has been written. -/
theorem NopollRequest.action_of_store (hstore : request.store call = request)
    (hplain : call.Plain decode)
    (hbehind : call.messageType = .sendBinary → cString behind = []) :
    request.action decode behind call.messageType = call.action decode := by
  cases call with
  | send message =>
    rw [← hstore]
    rfl
  | sendBinary base64String =>
    rw [← hstore]
    unfold NopollRequest.action WebSocketCall.action
    simp only [NopollRequest.store, WebSocketCall.messageType]
    cases hdecode : decode base64String with
    | none => rfl
    | some content =>
      dsimp only
      rw [cString_append (hplain content hdecode) (hbehind rfl)]
  | ping => rfl
  | close code reason =>
    rw [← hstore]
    simp only [NopollRequest.action, NopollRequest.store, WebSocketCall.messageType,
      WebSocketCall.action]
    rw [cString_eq_self hplain]

end

/-! ## One socket -/

namespace WebSocketJs

/-- The call on the socket that has not written into the request. -/
def begun (socketID : Nat) : WebSocketJs → Option WebSocketCall
  | storing socket call => if socket = socketID then some call else none
  | pushing socket call => if socket = socketID ∧ call = .ping then some call else none
  | idle | typing _ _ | posting => none

/-- The call on the socket that has written its payload, but not the type. -/
def untyped (socketID : Nat) : WebSocketJs → Option WebSocketCall
  | typing socket call => if socket = socketID then some call else none
  | idle | storing _ _ | pushing _ _ | posting => none

/-- The call on the socket that has written both. -/
def written (socketID : Nat) : WebSocketJs → Option WebSocketCall
  | pushing socket call => if socket = socketID ∧ call ≠ .ping then some call else none
  | idle | storing _ _ | typing _ _ | posting => none

/-- Between the call and `sem_post`. -/
def posts : WebSocketJs → Bool
  | posting => true
  | _ => false

end WebSocketJs

namespace WebSockets

/-- In how many places the pointer to the request is. -/
def places (s : WebSockets) (socketID : Nat) : Nat :=
  s.RequestQueue.count socketID + s.workers.countP (·.holds socketID) +
    (s.js.untyped socketID).toList.length + (s.js.written socketID).toList.length

/-- The request of the socket is for `pending`, which is at one place until it is carried out. -/
structure Kept (decode : Chars → Option Chars) (s : WebSockets) (socketID : Nat)
    (pending : Option WebSocketCall) : Prop where
  accounted : (s.asked socketID).map (WebSocketCall.action decode) = s.carriedOut socketID ++
    (pending.toList ++ (s.js.begun socketID).toList).map (WebSocketCall.action decode)
  places : s.places socketID = pending.toList.length
  untyped : ∀ call ∈ s.js.untyped socketID, pending = some call
  plain : ∀ call, pending = some call ∨ s.js.begun socketID = some call → call.Plain decode
  stored : ∀ call ∈ pending, s.isOpen socketID = true ∧
    (s.requests socketID).store call = s.requests socketID
  typed : ∀ call ∈ pending, s.js.untyped socketID = none →
    (s.requests socketID).messageType = call.messageType
  running : ∀ call ∈ pending, ∀ messageType, .running socketID messageType ∈ s.workers →
    messageType = call.messageType

variable {decode : Chars → Option Chars} {s s' : WebSockets} {socketID worker : Nat}
  {pending : Option WebSocketCall} {call : WebSocketCall} {w v : WebSocketWorker}

/-- A step that leaves alone what belongs to the socket, or moves the pointer to its request. -/
theorem Kept.congr (h : s.Kept decode socketID pending)
    (hasked : s'.asked socketID = s.asked socketID)
    (hcarriedOut : s'.carriedOut socketID = s.carriedOut socketID)
    (hopen : s'.isOpen socketID = s.isOpen socketID)
    (hrequest : s'.requests socketID = s.requests socketID)
    (hbegun : s'.js.begun socketID = s.js.begun socketID)
    (huntyped : s'.js.untyped socketID = s.js.untyped socketID)
    (hplaces : s'.places socketID = s.places socketID)
    (hrunning : ∀ messageType, .running socketID messageType ∈ s'.workers →
      .running socketID messageType ∈ s.workers) : s'.Kept decode socketID pending where
  accounted := by
    rw [hasked, hcarriedOut, hbegun]
    exact h.accounted
  places := hplaces.trans h.places
  untyped := huntyped ▸ h.untyped
  plain := hbegun ▸ h.plain
  stored := by
    rw [hopen, hrequest]
    exact h.stored
  typed := by
    rw [huntyped, hrequest]
    exact h.typed
  running call hcall messageType hmem :=
    h.running call hcall messageType (hrunning messageType hmem)

/-- A worker goes on. -/
theorem countP_setWorker (hworker : s.workers[worker]? = some w) (p : WebSocketWorker → Bool) :
    (s.setWorker worker v).workers.countP p + (if p w then 1 else 0) =
      s.workers.countP p + if p v then 1 else 0 :=
  countP_set_add hworker v p

theorem mem_setWorker (hmem : w ∈ (s.setWorker worker v).workers) : w ∈ s.workers ∨ w = v :=
  List.mem_or_eq_of_mem_set hmem

theorem Kept.not_untyped (h : s.Kept decode socketID pending)
    (hplaces : 1 ≤ s.RequestQueue.count socketID + s.workers.countP (·.holds socketID)) :
    s.js.untyped socketID = none ∧ ∃ call, pending = some call := by
  have hone := h.places
  unfold WebSockets.places at hone
  cases hp : pending with
  | none =>
    rw [hp] at hone
    simp only [Option.toList_none, List.length_nil] at hone
    omega
  | some call =>
    refine ⟨?_, call, rfl⟩
    cases hu : s.js.untyped socketID with
    | none => rfl
    | some c =>
      rw [hp, hu] at hone
      simp only [Option.toList_some, List.length_singleton] at hone
      omega

/-- Nothing is pending on a request that is free and into which no call has written. -/
theorem Kept.of_free (h : s.Kept decode socketID pending) (hfree : s.Free socketID)
    (huntyped : s.js.untyped socketID = none) (hwritten : s.js.written socketID = none) :
    pending = none := by
  obtain ⟨-, hqueue, hworkers⟩ := hfree
  have hone := h.places
  unfold WebSockets.places at hone
  rw [List.count_eq_zero_of_not_mem hqueue,
    List.countP_eq_zero.mpr fun w hw => by rw [hworkers w hw]; exact Bool.false_ne_true,
    huntyped, hwritten] at hone
  cases pending with
  | none => rfl
  | some call => cases hone

/-! ## Steps of JS -/

theorem begun_accept (s : WebSockets) (k socketID : Nat) (call : WebSocketCall) :
    (s.accept k call).js.begun socketID = if k = socketID then some call else none := by
  unfold accept
  dsimp only
  by_cases hping : call = .ping
  · rw [if_pos hping]
    simp [WebSocketJs.begun, hping]
  · rw [if_neg hping]
    rfl

theorem untyped_accept (s : WebSockets) (k socketID : Nat) (call : WebSocketCall) :
    (s.accept k call).js.untyped socketID = none := by
  unfold accept
  dsimp only
  split <;> rfl

theorem written_accept (s : WebSockets) (k : Nat) (call : WebSocketCall) :
    (s.accept k call).js.written socketID = none := by
  unfold accept
  dsimp only
  by_cases hping : call = .ping
  · rw [if_pos hping]
    simp [WebSocketJs.written, hping]
  · rw [if_neg hping]
    rfl

theorem Kept.accept (h : s.Kept decode socketID pending) (hidle : s.js = .idle) {k : Nat}
    (hplain : call.Plain decode) : (s.accept k call).Kept decode socketID pending := by
  have hbegun := begun_accept s k socketID call
  have huntyped := untyped_accept s k socketID call
  have hplaces : (s.accept k call).places socketID = s.places socketID := by
    unfold WebSockets.places
    rw [huntyped, written_accept, hidle]
    rfl
  have hbefore : s.js.begun socketID = none := by rw [hidle]; rfl
  have huntyped' : s.js.untyped socketID = none := by rw [hidle]; rfl
  by_cases hk : k = socketID
  · subst hk
    rw [if_pos rfl] at hbegun
    refine ⟨?_, hplaces.trans h.places, ?_, ?_, h.stored, ?_, h.running⟩
    · have haccounted := h.accounted
      rw [hbefore, Option.toList_none, List.append_nil] at haccounted
      have hasked : (s.accept k call).asked k = s.asked k ++ [call] := Function.update_self ..
      rw [hasked, hbegun, List.map_append, haccounted, Option.toList_some, List.map_append,
        List.append_assoc]
      rfl
    · rw [huntyped]
      exact nofun
    · rintro c (hc | hc)
      · exact h.plain c (.inl hc)
      · rw [hbegun] at hc
        exact Option.some.inj hc ▸ hplain
    · exact fun c hc _ => h.typed c hc huntyped'
  · rw [if_neg hk] at hbegun
    refine h.congr ?_ rfl rfl rfl (hbegun.trans hbefore.symm) (huntyped.trans huntyped'.symm)
      hplaces fun _ hmem => hmem
    exact Function.update_of_ne (Ne.symm hk) _ _

theorem Kept.store (h : s.Kept decode socketID pending) {k : Nat}
    (hjs : s.js = .storing k call) (hfree : s.Free k) :
    ∃ pending', Kept decode { s.setRequest k ((s.requests k).store call) with
      js := .typing k call } socketID pending' := by
  by_cases hk : k = socketID
  · subst hk
    have hbegun : s.js.begun k = some call := by
      rw [hjs]
      exact if_pos rfl
    have huntyped : s.js.untyped k = none := by rw [hjs]; rfl
    have hwritten : s.js.written k = none := by rw [hjs]; rfl
    obtain rfl := h.of_free hfree huntyped hwritten
    have hrequest : (Function.update s.requests k ((s.requests k).store call)) k =
        (s.requests k).store call := Function.update_self ..
    refine ⟨some call, ?_, ?_, ?_, ?_, ?_, ?_, ?_⟩
    · have haccounted := h.accounted
      rw [hbegun] at haccounted
      exact haccounted
    · have hplaces := h.places
      unfold WebSockets.places at hplaces ⊢
      rw [huntyped, hwritten] at hplaces
      simp only [WebSocketJs.untyped, WebSocketJs.written, if_true, Option.toList_some,
        Option.toList_none, List.length_singleton, List.length_nil] at hplaces ⊢
      show s.RequestQueue.count k + s.workers.countP (·.holds k) + 1 + 0 = 1
      omega
    · intro c hc
      exact ((if_pos rfl).symm.trans hc : _)
    · rintro c (hc | hc)
      · exact Option.some.inj hc ▸ h.plain call (.inr hbegun)
      · cases hc
    · rintro c ⟨⟩
      refine ⟨hfree.1, ?_⟩
      show ((Function.update s.requests k ((s.requests k).store call)) k).store call =
        (Function.update s.requests k ((s.requests k).store call)) k
      rw [hrequest, NopollRequest.store_store]
    · intro c hc hnone
      cases (if_pos rfl).symm.trans hnone
    · rintro c ⟨⟩ messageType hmem
      have hholds := hfree.2.2 _ hmem
      simp [WebSocketWorker.holds] at hholds
  · refine ⟨pending, h.congr rfl rfl rfl ?_ ?_ ?_ ?_ fun _ hmem => hmem⟩
    · exact Function.update_of_ne (Ne.symm hk) _ _
    · rw [hjs]
      exact (if_neg hk).symm
    · rw [hjs]
      exact if_neg hk
    · unfold WebSockets.places
      rw [hjs]
      simp only [WebSocketJs.untyped, WebSocketJs.written, if_neg hk]
      rfl

theorem Kept.setType (h : s.Kept decode socketID pending) {k : Nat}
    (hjs : s.js = .typing k call) (hping : call ≠ .ping) :
    Kept decode { s.setType k call.messageType with js := .pushing k call } socketID pending := by
  by_cases hk : k = socketID
  · subst hk
    have hu : s.js.untyped k = some call := by
      rw [hjs]
      exact if_pos rfl
    have hb : s.js.begun k = none := by rw [hjs]; rfl
    have hw : s.js.written k = none := by rw [hjs]; rfl
    have hbegun : (WebSocketJs.pushing k call).begun k = none := if_neg fun hc => hping hc.2
    have hwritten : (WebSocketJs.pushing k call).written k = some call := if_pos ⟨rfl, hping⟩
    have hrequest : (Function.update s.requests k
        { s.requests k with messageType := call.messageType }) k =
          { s.requests k with messageType := call.messageType } := Function.update_self ..
    obtain rfl := h.untyped call hu
    refine ⟨?_, ?_, nofun, ?_, ?_, ?_, h.running⟩
    · have haccounted := h.accounted
      rw [hb] at haccounted
      show _ = _ ++ (_ ++ ((WebSocketJs.pushing k call).begun k).toList).map _
      rw [hbegun]
      exact haccounted
    · have hplaces := h.places
      unfold WebSockets.places at hplaces ⊢
      rw [hu, hw] at hplaces
      show s.RequestQueue.count k + s.workers.countP (·.holds k) + 0 +
        ((WebSocketJs.pushing k call).written k).toList.length = _
      rw [hwritten]
      simp only [Option.toList_some, Option.toList_none, List.length_singleton,
        List.length_nil] at hplaces ⊢
      omega
    · rintro c (hc | hc)
      · exact h.plain c (.inl hc)
      · cases hbegun.symm.trans hc
    · intro c hc
      obtain ⟨hopen, hstored⟩ := h.stored c hc
      refine ⟨hopen, ?_⟩
      show ((Function.update s.requests k
        { s.requests k with messageType := call.messageType }) k).store c =
          (Function.update s.requests k { s.requests k with messageType := call.messageType }) k
      rw [hrequest]
      -- the type is none of the fields of the payload
      cases c with
      | send message | sendBinary base64String | ping | close code reason =>
        rw [← hstored]
        rfl
    · rintro c ⟨⟩ -
      show ((Function.update s.requests k
        { s.requests k with messageType := call.messageType }) k).messageType = _
      rw [hrequest]
  · refine h.congr rfl rfl rfl ?_ ?_ ?_ ?_ fun _ hmem => hmem
    · exact Function.update_of_ne (Ne.symm hk) _ _
    · rw [hjs]
      exact if_neg fun hc => hk hc.1
    · rw [hjs]
      exact (if_neg hk).symm
    · unfold WebSockets.places
      rw [hjs]
      show s.RequestQueue.count socketID + s.workers.countP (·.holds socketID) + 0 +
        ((WebSocketJs.pushing k call).written socketID).toList.length =
          s.RequestQueue.count socketID + s.workers.countP (·.holds socketID) +
            ((WebSocketJs.typing k call).untyped socketID).toList.length + 0
      have hw : (WebSocketJs.pushing k call).written socketID = none := if_neg fun hc => hk hc.1
      have hu : (WebSocketJs.typing k call).untyped socketID = none := if_neg hk
      rw [hw, hu]
      rfl

/-- The section of `send`, `sendBinary` and `close`. -/
theorem Kept.push (h : s.Kept decode socketID pending) {k : Nat}
    (hjs : s.js = .pushing k call) (hping : call ≠ .ping) :
    (s.push k call).Kept decode socketID pending := by
  have hpush : s.push k call =
      { s with RequestQueue := s.RequestQueue ++ [k], js := .posting } := by
    unfold WebSockets.push
    rw [if_neg hping]
  rw [hpush]
  refine h.congr rfl rfl rfl rfl ?_ ?_ ?_ fun _ hmem => hmem
  · rw [hjs]
    exact (if_neg fun hc => hping hc.2).symm
  · rw [hjs]
    rfl
  · unfold WebSockets.places
    rw [hjs]
    show (s.RequestQueue ++ [k]).count socketID + s.workers.countP (·.holds socketID) + 0 + 0 =
      s.RequestQueue.count socketID + s.workers.countP (·.holds socketID) + 0 +
        ((WebSocketJs.pushing k call).written socketID).toList.length
    rw [List.count_append, List.count_singleton]
    by_cases hk : k = socketID
    · have hw : (WebSocketJs.pushing k call).written socketID = some call := if_pos ⟨hk, hping⟩
      rw [hw, if_pos (beq_iff_eq.mpr hk)]
      simp only [Option.toList_some, List.length_singleton]
      omega
    · have hw : (WebSocketJs.pushing k call).written socketID = none := if_neg fun hc => hk hc.1
      rw [hw, if_neg fun hc => hk (beq_iff_eq.mp hc)]
      rfl

/-- The section of `ping`. -/
theorem Kept.pushPing (h : s.Kept decode socketID pending) {k : Nat}
    (hjs : s.js = .pushing k .ping) (hfree : s.Free k) :
    ∃ pending', (s.push k .ping).Kept decode socketID pending' := by
  have hpush : s.push k .ping =
      { s.setType k .ping with RequestQueue := s.RequestQueue ++ [k], js := .posting } := by
    unfold WebSockets.push
    rw [if_pos rfl]
  rw [hpush]
  have hu : s.js.untyped socketID = none := by rw [hjs]; rfl
  have hw : s.js.written socketID = none := by
    rw [hjs]
    exact if_neg fun hc => hc.2 rfl
  have hplaces : WebSockets.places { s.setType k .ping with
      RequestQueue := s.RequestQueue ++ [k], js := .posting } socketID =
        s.places socketID + if k = socketID then 1 else 0 := by
    unfold WebSockets.places
    rw [hu, hw]
    show (s.RequestQueue ++ [k]).count socketID + s.workers.countP (·.holds socketID) + 0 + 0 = _
    rw [List.count_append, List.count_singleton]
    simp only [beq_iff_eq, Option.toList_none, List.length_nil]
    omega
  by_cases hk : k = socketID
  · subst hk
    have hbegun : s.js.begun k = some .ping := by
      rw [hjs]
      exact if_pos ⟨rfl, rfl⟩
    obtain rfl := h.of_free hfree hu hw
    refine ⟨some .ping, ?_, ?_, nofun, ?_, ?_, ?_, ?_⟩
    · have haccounted := h.accounted
      rw [hbegun] at haccounted
      exact haccounted
    · rw [hplaces, if_pos rfl, h.places]
      rfl
    · rintro c (hc | hc)
      · exact Option.some.inj hc ▸ trivial
      · cases hc
    · rintro c ⟨⟩
      exact ⟨hfree.1, rfl⟩
    · rintro c ⟨⟩ -
      show ((Function.update s.requests k { s.requests k with messageType := .ping })
        k).messageType = _
      rw [Function.update_self]
      rfl
    · rintro c ⟨⟩ messageType hmem
      have hholds := hfree.2.2 _ hmem
      simp [WebSocketWorker.holds] at hholds
  · rw [if_neg hk] at hplaces
    refine ⟨pending, h.congr rfl rfl rfl ?_ ?_ hu.symm hplaces fun _ hmem => hmem⟩
    · exact Function.update_of_ne (Ne.symm hk) _ _
    · rw [hjs]
      exact (if_neg fun hc => hk hc.1).symm

/-! ## Steps of the workers -/

theorem Kept.startWorker (h : s.Kept decode socketID pending) :
    s.startWorker.Kept decode socketID pending := by
  refine h.congr rfl rfl rfl rfl rfl rfl ?_ ?_
  · unfold WebSockets.places WebSockets.startWorker
    rw [List.countP_append]
    rfl
  · intro messageType hmem
    rcases List.mem_append.mp hmem with hmem | hmem
    · exact hmem
    · cases List.mem_singleton.mp hmem

/-- A worker goes on that has nothing to do with the socket before and after. -/
theorem Kept.setWorker (h : s.Kept decode socketID pending)
    (hworker : s.workers[worker]? = some w) (hbefore : w.holds socketID = false)
    (hafter : v.holds socketID = false) :
    (s.setWorker worker v).Kept decode socketID pending := by
  refine h.congr rfl rfl rfl rfl rfl rfl ?_ ?_
  · have hcount := countP_setWorker (v := v) hworker (·.holds socketID)
    rw [hbefore, hafter] at hcount
    unfold WebSockets.places
    show s.RequestQueue.count socketID + (s.setWorker worker v).workers.countP _ + _ + _ = _
    rw [show (s.setWorker worker v).workers.countP (·.holds socketID) =
      s.workers.countP (·.holds socketID) from hcount]
    rfl
  · intro messageType hmem
    rcases mem_setWorker hmem with hmem | rfl
    · exact hmem
    · simp [WebSocketWorker.holds] at hafter

/-- A worker takes a pointer out of the queue. -/
theorem Kept.pop (h : s.Kept decode socketID pending)
    (hworker : s.workers[worker]? = some .popping) {k : Nat} {rest : List Nat}
    (hqueue : s.RequestQueue = k :: rest) :
    Kept decode { s.setWorker worker (.reading k) with RequestQueue := rest } socketID pending := by
  refine h.congr rfl rfl rfl rfl rfl rfl ?_ ?_
  · have hcount := countP_setWorker (v := .reading k) hworker (·.holds socketID)
    unfold WebSockets.places
    show rest.count socketID + (s.setWorker worker (.reading k)).workers.countP _ +
      (s.js.untyped socketID).toList.length + (s.js.written socketID).toList.length = _
    rw [hqueue, List.count_cons]
    simp only [WebSocketWorker.holds, Bool.false_eq_true, if_false, beq_iff_eq] at hcount ⊢
    omega
  · intro messageType hmem
    rcases mem_setWorker hmem with hmem | heq
    · exact hmem
    · cases heq

theorem Kept.readType (h : s.Kept decode socketID pending) {k : Nat}
    (hworker : s.workers[worker]? = some (.reading k)) :
    (s.setWorker worker (.running k (s.requests k).messageType)).Kept decode socketID pending := by
  by_cases hk : k = socketID
  · subst hk
    have hmem := List.mem_of_getElem? hworker
    have hholds : 1 ≤ s.workers.countP (·.holds k) :=
      List.countP_pos_iff.mpr ⟨_, hmem, beq_self_eq_true k⟩
    obtain ⟨hu, call, rfl⟩ := h.not_untyped (by omega)
    refine ⟨h.accounted, ?_, h.untyped, h.plain, h.stored, h.typed, ?_⟩
    · have hcount := countP_setWorker (v := .running k (s.requests k).messageType) hworker
        (·.holds k)
      rw [← h.places]
      unfold WebSockets.places
      show s.RequestQueue.count k + (s.setWorker worker _).workers.countP _ + _ + _ = _
      simp only [WebSocketWorker.holds, beq_self_eq_true, if_true] at hcount ⊢
      rw [Nat.add_right_cancel hcount]
      rfl
    · rintro c ⟨⟩ messageType hin
      rcases mem_setWorker hin with hin | heq
      · exact h.running call rfl messageType hin
      · obtain ⟨-, rfl⟩ := WebSocketWorker.running.inj heq
        exact h.typed call rfl hu
  · exact h.setWorker hworker (beq_eq_false_iff_ne.mpr hk) (beq_eq_false_iff_ne.mpr hk)

/-- A worker carries out what is pending on its socket. -/
theorem Kept.perform (h : s.Kept decode socketID pending) {k : Nat} {messageType : MessageType}
    {behind : Chars} (hworker : s.workers[worker]? = some (.running k messageType))
    (hbehind : messageType = .sendBinary → cString behind = []) :
    ∃ pending', (s.perform worker k messageType
      ((s.requests k).action decode behind messageType)).Kept decode socketID pending' := by
  let action := (s.requests k).action decode behind messageType
  have hperform : ∃ (v : WebSocketWorker) (isOpen : Nat → Bool),
      (∀ k', v.holds k' = false) ∧ (∀ k', k ≠ k' → isOpen k' = s.isOpen k') ∧
      s.perform worker k messageType action =
        { (s.carryOut k action).setWorker worker v with isOpen := isOpen } := by
    unfold WebSockets.perform
    split
    · exact ⟨.disconnecting k, _, fun _ => rfl,
        fun k' hk' => Function.update_of_ne (Ne.symm hk') _ _, rfl⟩
    · exact ⟨.popping, s.isOpen, fun _ => rfl, fun _ _ => rfl, rfl⟩
  obtain ⟨v, isOpen, hv, hisOpen, hperform⟩ := hperform
  rw [show s.perform worker k messageType ((s.requests k).action decode behind messageType) = _
    from hperform]
  by_cases hk : k = socketID
  · subst hk
    have hmem := List.mem_of_getElem? hworker
    have hholds : 1 ≤ s.workers.countP (·.holds k) :=
      List.countP_pos_iff.mpr ⟨_, hmem, beq_self_eq_true k⟩
    obtain ⟨hu, call, rfl⟩ := h.not_untyped (by omega)
    obtain ⟨hopen, hstored⟩ := h.stored call rfl
    obtain rfl := h.running call rfl messageType hmem
    have haction : action = call.action decode :=
      NopollRequest.action_of_store hstored (h.plain call (.inl rfl)) hbehind
    refine ⟨none, ?_, ?_, ?_, ?_, nofun, nofun, nofun⟩
    · show (s.asked k).map _ = (if s.isOpen k then
        Function.update s.carriedOut k (s.carriedOut k ++ [action]) else s.carriedOut) k ++
          (s.js.begun k).toList.map _
      rw [if_pos hopen, Function.update_self, h.accounted, haction, List.map_append,
        List.append_assoc]
      rfl
    · have hcount := countP_setWorker (v := v) hworker (·.holds k)
      have hplaces := h.places
      unfold WebSockets.places at hplaces ⊢
      show s.RequestQueue.count k + (s.setWorker worker v).workers.countP _ +
        (s.js.untyped k).toList.length + (s.js.written k).toList.length = 0
      rw [hv] at hcount
      simp only [WebSocketWorker.holds, beq_self_eq_true, if_true, Bool.false_eq_true, if_false,
        Option.toList_some, List.length_singleton] at hcount hplaces ⊢
      omega
    · intro c hc
      cases hu.symm.trans hc
    · rintro c (hc | hc)
      · cases hc
      · exact h.plain c (.inr hc)
  · have hset := h.setWorker (v := v) hworker (beq_eq_false_iff_ne.mpr hk) (hv _)
    refine ⟨pending, hset.congr rfl ?_ (hisOpen _ hk) rfl rfl rfl rfl fun _ hmem => hmem⟩
    show (if s.isOpen k then
      Function.update s.carriedOut k (s.carriedOut k ++ [action]) else s.carriedOut) socketID = _
    split
    · exact Function.update_of_ne (Ne.symm hk) _ _
    · rfl

/-! ## Runs -/

/-- The threads and the semaphore. -/
structure Awake (s : WebSockets) : Prop where
  payload : ∀ k call, s.js = .storing k call ∨ s.js = .typing k call → call ≠ .ping
  awake : s.waiting = true → s.RequestQueue ≠ [] →
    0 < s.startDownloadingThread ∨ s.js = .posting ∨ ∃ w ∈ s.workers, w ≠ .exited
  count : s.currentWorkerThreadCount = s.workers.countP (· ≠ .exited)
  workers : s.currentWorkerThreadCount ≤ maxWorkerThreadCount

/-- A step of JS in front of `sem_post`. -/
theorem Awake.of_js (h : s.Awake) (hbefore : s.js ≠ .posting)
    (hpayload : ∀ k call, s'.js = .storing k call ∨ s'.js = .typing k call → call ≠ .ping)
    (hqueue : s'.RequestQueue = s.RequestQueue ∨ s'.js = .posting)
    (hwaiting : s'.waiting = s.waiting)
    (hsemaphore : s'.startDownloadingThread = s.startDownloadingThread)
    (hcount : s'.currentWorkerThreadCount = s.currentWorkerThreadCount)
    (hworkers : s'.workers = s.workers) : s'.Awake := by
  refine ⟨hpayload, fun hwait hne => ?_, ?_, hcount ▸ h.workers⟩
  · rcases hqueue with hqueue | hjs
    · rw [hsemaphore, hworkers]
      rcases h.awake (hwaiting ▸ hwait) (hqueue ▸ hne) with hpos | hjs | hworker
      · exact .inl hpos
      · exact absurd hjs hbefore
      · exact .inr (.inr hworker)
    · exact .inr (.inl hjs)
  · rw [hcount, hworkers]
    exact h.count

/-- A worker goes on that does not exit. -/
theorem Awake.of_worker (h : s.Awake) (hworker : s.workers[worker]? = some w)
    (hbefore : w ≠ .exited) (hafter : v ≠ .exited) (hjs : s'.js = s.js)
    (hcount : s'.currentWorkerThreadCount = s.currentWorkerThreadCount)
    (hworkers : s'.workers = s.workers.set worker v) : s'.Awake := by
  refine ⟨fun k call => hjs ▸ h.payload k call, fun _ _ => .inr (.inr ⟨v, ?_, hafter⟩), ?_,
    hcount ▸ h.workers⟩
  · rw [hworkers]
    exact List.mem_set (List.getElem?_eq_some_iff.mp hworker).1 v
  · have hset := countP_setWorker (v := v) hworker (· ≠ .exited)
    rw [hcount, hworkers, h.count]
    rw [if_pos (decide_eq_true hbefore), if_pos (decide_eq_true hafter)] at hset
    exact (Nat.add_right_cancel hset).symm

theorem Awake.exec {op : WebSocketOp} (h : s.Awake) (hexec : op.exec decode s = some s') :
    s'.Awake := by
  cases WebSocketOp.exec_branch hexec with
  | accept k call hjs =>
    refine h.of_js (by rw [hjs]; nofun) ?_ (.inl rfl) rfl rfl rfl rfl
    intro k' call' hjs'
    simp only [WebSockets.accept] at hjs'
    split at hjs'
    · rcases hjs' with hjs' | hjs' <;> cases hjs'
    · rename_i hping
      rcases hjs' with hjs' | hjs'
      · exact (WebSocketJs.storing.inj hjs').2 ▸ hping
      · cases hjs'
  | notInList | pollFull => exact h
  | store k call hjs =>
    refine h.of_js (by rw [hjs]; nofun) ?_ (.inl rfl) rfl rfl rfl rfl
    intro k' call' hjs'
    rcases hjs' with hjs' | hjs'
    · cases hjs'
    · exact (WebSocketJs.typing.inj hjs').2 ▸ h.payload k call (.inl hjs)
  | setType k call hjs =>
    exact h.of_js (by rw [hjs]; nofun) (fun _ _ hjs' => nomatch hjs') (.inl rfl) rfl rfl rfl rfl
  | push k call hjs =>
    refine h.of_js (by rw [hjs]; nofun) (fun _ _ hjs' => nomatch hjs') (.inr rfl) ?_ ?_ ?_ ?_
    all_goals
      unfold WebSockets.push
      split <;> rfl
  | post =>
    exact ⟨fun _ _ hjs => (nomatch hjs), fun _ _ => .inl (Nat.succ_pos _), h.count, h.workers⟩
  | pollEmpty hwait hqueue =>
    exact ⟨h.payload, fun _ hne => absurd hqueue hne, h.count, h.workers⟩
  | startWorker hwait hqueue hlt =>
    have hpopping : WebSocketWorker.popping ≠ .exited := nofun
    refine ⟨h.payload, fun _ _ => .inr (.inr ⟨.popping, ?_, hpopping⟩), ?_, hlt⟩
    · exact List.mem_append_right _ (List.mem_singleton.mpr rfl)
    · show s.currentWorkerThreadCount + 1 = (s.workers ++ [WebSocketWorker.popping]).countP _
      rw [List.countP_append, ← h.count]
      rfl
  | wake => exact ⟨h.payload, fun hwait => (nomatch hwait), h.count, h.workers⟩
  | popNone worker hworker hqueue =>
    have hset := countP_setWorker (v := .exited) hworker (· ≠ .exited)
    refine ⟨h.payload, fun _ hne => absurd hqueue hne, ?_, (Nat.sub_le _ _).trans h.workers⟩
    show s.currentWorkerThreadCount - 1 = (s.setWorker worker .exited).workers.countP _
    rw [h.count]
    simp only [ne_eq, reduceCtorEq, not_false_eq_true, decide_true, if_true,
      not_true_eq_false, decide_false, Bool.false_eq_true, if_false] at hset ⊢
    omega
  | pop worker k rest hworker =>
    exact h.of_worker (v := .reading k) hworker nofun nofun rfl rfl rfl
  | readType worker k hworker =>
    exact h.of_worker (v := .running k (s.requests k).messageType) hworker nofun nofun rfl rfl rfl
  | perform worker k messageType behind hworker =>
    unfold WebSockets.perform
    split
    · exact h.of_worker (v := .disconnecting k) hworker nofun nofun rfl rfl rfl
    · exact h.of_worker (v := .popping) hworker nofun nofun rfl rfl rfl
  | disconnect worker k hworker =>
    exact h.of_worker (v := .popping) hworker nofun nofun rfl rfl rfl

theorem Kept.exec {op : WebSocketOp} (h : s.Kept decode socketID pending) (hawake : s.Awake)
    (hok : op.KeepsRequest decode s) (hexec : op.exec decode s = some s') :
    ∃ pending', s'.Kept decode socketID pending' := by
  cases WebSocketOp.exec_branch hexec with
  | accept k call hjs => exact ⟨pending, h.accept hjs hok⟩
  | notInList | pollFull => exact ⟨pending, h⟩
  | store k call hjs =>
    simp only [WebSocketOp.KeepsRequest, hjs] at hok
    exact h.store hjs hok
  | setType k call hjs => exact ⟨pending, h.setType hjs (hawake.payload k call (.inr hjs))⟩
  | push k call hjs =>
    by_cases hping : call = .ping
    · subst hping
      simp only [WebSocketOp.KeepsRequest, hjs] at hok
      exact h.pushPing hjs hok
    · exact ⟨pending, h.push hjs hping⟩
  | post hjs =>
    refine ⟨pending, h.congr rfl rfl rfl rfl ?_ ?_ ?_ fun _ hmem => hmem⟩
    · rw [hjs]
      rfl
    · rw [hjs]
      rfl
    · unfold WebSockets.places
      rw [hjs]
      rfl
  | pollEmpty | wake =>
    exact ⟨pending, h.congr rfl rfl rfl rfl rfl rfl rfl fun _ hmem => hmem⟩
  | startWorker => exact ⟨pending, h.startWorker⟩
  | popNone worker hworker =>
    have hset := h.setWorker (v := .exited) hworker rfl rfl
    exact ⟨pending, hset.congr rfl rfl rfl rfl rfl rfl rfl fun _ hmem => hmem⟩
  | pop worker k rest hworker hqueue => exact ⟨pending, h.pop hworker hqueue⟩
  | readType worker k hworker => exact ⟨pending, h.readType hworker⟩
  | perform worker k messageType behind hworker =>
    refine h.perform hworker fun htype => ?_
    subst htype
    simp only [WebSocketOp.KeepsRequest, hworker] at hok
    exact hok
  | disconnect worker k hworker =>
    have hset := h.setWorker (v := .popping) hworker rfl rfl
    exact ⟨pending, hset.congr rfl rfl rfl rfl rfl rfl rfl fun _ hmem => hmem⟩

/-- With nothing to do the queue is empty, and every thread at its end. -/
theorem Awake.of_resting (h : s.Awake) (hrest : s.Resting decode) :
    s.RequestQueue = [] ∧ s.js = .idle ∧ ∀ w ∈ s.workers, w = .exited := by
  have hnone (op : WebSocketOp) (hop : ∀ k call, op ≠ .jsCall k call) :
      op.exec decode s = none := by
    by_contra hne
    obtain ⟨k, call, heq⟩ := hrest op hne
    exact hop k call heq
  have hjs : s.js = .idle := by
    cases hjs : s.js with
    | idle => rfl
    | storing k call =>
      have hstore := hnone .store (by rintro _ _ ⟨⟩)
      simp [WebSocketOp.exec, hjs] at hstore
    | typing k call =>
      have htype := hnone .setType (by rintro _ _ ⟨⟩)
      simp [WebSocketOp.exec, hjs] at htype
    | pushing k call =>
      have hpush := hnone .push (by rintro _ _ ⟨⟩)
      simp [WebSocketOp.exec, hjs] at hpush
    | posting =>
      have hpost := hnone .post (by rintro _ _ ⟨⟩)
      simp [WebSocketOp.exec, hjs] at hpost
  have hworkers : ∀ w ∈ s.workers, w = .exited := by
    intro w hw
    obtain ⟨i, hi⟩ := List.mem_iff_getElem?.mp hw
    cases w with
    | exited => rfl
    | popping =>
      have hpop := hnone (.pop i) (by rintro _ _ ⟨⟩)
      simp only [WebSocketOp.exec, hi, if_true] at hpop
      split at hpop <;> cases hpop
    | reading k =>
      have hread := hnone (.readType i) (by rintro _ _ ⟨⟩)
      simp [WebSocketOp.exec, hi] at hread
    | running k messageType =>
      have hperform := hnone (.perform i []) (by rintro _ _ ⟨⟩)
      simp [WebSocketOp.exec, hi] at hperform
    | disconnecting k =>
      have hdisconnect := hnone (.disconnect i) (by rintro _ _ ⟨⟩)
      simp [WebSocketOp.exec, hi] at hdisconnect
  refine ⟨?_, hjs, hworkers⟩
  have hwait : s.waiting = true := by
    by_contra hwait
    have hpoll := hnone .poll (by rintro _ _ ⟨⟩)
    simp only [WebSocketOp.exec, hwait] at hpoll
    split at hpoll
    · contradiction
    · split at hpoll
      · cases hpoll
      · split at hpoll <;> cases hpoll
  by_contra hne
  rcases h.awake hwait hne with hpos | hposting | ⟨w, hw, hexited⟩
  · have hwake := hnone .wake (by rintro _ _ ⟨⟩)
    simp [WebSocketOp.exec, hwait, hpos] at hwake
  · rw [hjs] at hposting
    cases hposting
  · exact hexited (hworkers w hw)

theorem Opened.awake (h : s.Opened) : s.Awake := by
  refine ⟨?_, fun _ hne => absurd h.queue hne, ?_, h.count ▸ Nat.zero_le _⟩
  · rintro k call (hjs | hjs)
    · cases h.js.symm.trans hjs
    · cases h.js.symm.trans hjs
  · rw [h.count, h.workers]
    rfl

theorem Opened.kept (h : s.Opened) (socketID : Nat) : s.Kept decode socketID none := by
  refine ⟨?_, ?_, ?_, ?_, nofun, nofun, nofun⟩
  · rw [h.asked, h.carriedOut, h.js]
    rfl
  · unfold WebSockets.places
    rw [h.queue, h.workers, h.js]
    rfl
  · rw [h.js]
    exact nofun
  · rw [h.js]
    rintro call (hcall | hcall)
    · cases hcall
    · cases hcall

theorem Kept.inOrder (h : ∀ socketID, ∃ pending, s.Kept decode socketID pending)
    (hawake : s.Awake) : s.InOrder decode where
  ordered socketID := by
    obtain ⟨pending, hkept⟩ := h socketID
    rw [hkept.accounted]
    exact List.prefix_append _ _
  all hrest socketID := by
    obtain ⟨pending, hkept⟩ := h socketID
    obtain ⟨hqueue, hjs, hworkers⟩ := hawake.of_resting hrest
    have hplaces := hkept.places
    have hholds : s.workers.countP (·.holds socketID) = 0 :=
      List.countP_eq_zero.mpr fun w hw => by rw [hworkers w hw]; exact Bool.false_ne_true
    unfold WebSockets.places at hplaces
    rw [hqueue, hjs, hholds] at hplaces
    have haccounted := hkept.accounted
    rw [hjs, List.eq_nil_of_length_eq_zero hplaces.symm] at haccounted
    rw [haccounted]
    exact (List.append_nil _).symm
  workers := hawake.count ▸ hawake.workers

/-- In every run in which no call writes into a request that is in use, and no C string cuts off or
adds anything, the calls on each socket are carried out as they were asked for. -/
theorem webSocketRun_inOrder {s₀ : WebSockets} (hopened : s₀.Opened)
    (hrun : Run (webSocketStep decode) (WebSocketOp.KeepsRequest decode) s₀ s) :
    s.InOrder decode := by
  have hinv : s.Awake ∧ ∀ socketID, ∃ pending, s.Kept decode socketID pending := by
    refine hrun.invariant (P := fun s =>
      s.Awake ∧ ∀ socketID, ∃ pending, s.Kept decode socketID pending) ?_
      ⟨hopened.awake, fun socketID => ⟨none, hopened.kept socketID⟩⟩
    rintro t op u ⟨hawake, hkept⟩ hok hstep
    refine ⟨hawake.exec hstep, fun socketID => ?_⟩
    obtain ⟨pending, h⟩ := hkept socketID
    exact h.exec hawake hok hstep
  exact Kept.inOrder hinv.2 hinv.1

/-- The sockets are open, and their requests are as `getConnect` leaves them. -/
def opened : WebSockets where
  requests := fun _ => ⟨0, [], [], [], .open⟩
  connectionList := fun _ => true
  isOpen := fun _ => true

theorem opened_opened : opened.Opened :=
  ⟨rfl, rfl, rfl, rfl, fun _ => rfl, fun _ => rfl⟩

/-- Messages on two sockets, and a second one when the first has been sent. -/
theorem webSocketRun_inOrder_two_sockets : ∃ s : WebSockets, s.InOrder some ∧
    s.carriedOut 1 = [.sendText [65], .close 1000 [66]] ∧ s.carriedOut 2 = [.sendBinary [67]] := by
  have hfold : ([.poll, .jsCall 1 (.send [65]), .store, .setType, .push, .post, .wake,
      .jsCall 2 (.sendBinary [67]), .store, .setType, .poll, .push, .post, .pop 0, .poll, .pop 1,
      .readType 1, .readType 0, .perform 1 [0], .perform 0 [],
      .jsCall 1 (.close 1000 [66]), .store, .setType, .push, .post, .pop 0, .readType 0,
      .perform 0 [], .disconnect 0].foldlM
        (fun s (op : WebSocketOp) =>
          if op.KeepsRequest some s then op.exec some s else none) opened).map
            (fun s => (s.carriedOut 1, s.carriedOut 2)) =
              some ([.sendText [65], .close 1000 [66]], [.sendBinary [67]]) := by
    decide +kernel
  obtain ⟨s, hrun, hs⟩ := Option.map_eq_some_iff.mp hfold
  obtain ⟨hfirst, hsecond⟩ := Prod.mk.inj hs
  exact ⟨s, webSocketRun_inOrder opened_opened (Run.of_checked_exec hrun), hfirst,
    hsecond⟩

/-- Two messages are sent before a worker has come to the first. -/
theorem second_message_sent_twice : ¬ ∀ s₀ s : WebSockets, s₀.Opened →
    Run (webSocketStep some) WebSocketOp.OnOpen s₀ s → s.InOrder some := by
  intro hall
  have hfold : ([.jsCall 1 (.send [65]), .store, .setType, .push, .post, .jsCall 1 (.send [66]),
      .store, .setType, .push, .post, .poll, .pop 0, .readType 0, .perform 0 [], .pop 0,
      .readType 0, .perform 0 []].foldlM
        (fun s (op : WebSocketOp) => if op.OnOpen s then op.exec some s else none) opened).map
          (fun s => (s.asked 1, s.carriedOut 1)) =
            some ([.send [65], .send [66]], [.sendText [66], .sendText [66]]) := by
    decide +kernel
  obtain ⟨s, hrun, hs⟩ := Option.map_eq_some_iff.mp hfold
  obtain ⟨hasked, hcarriedOut⟩ := Prod.mk.inj hs
  have hinOrder := hall opened s opened_opened
    (Run.of_checked_exec hrun)
  have hordered := hinOrder.ordered 1
  rw [hasked, hcarriedOut] at hordered
  revert hordered
  decide

end WebSockets

end ReactNativeSkia
