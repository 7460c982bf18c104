import ReactNativeSkia.Sdk.NopollWebsocket

/-!
# The steps of the web sockets

The branches of `WebSocketOp.exec`, each with what it asks of the state before it. The proofs about
runs go by these cases.
-/

namespace ReactNativeSkia

variable {decode : Chars → Option Chars} {s s' : WebSockets}

inductive WebSocketBranch (decode : Chars → Option Chars) (s : WebSockets) :
    WebSocketOp → WebSockets → Prop where
  | accept (socketID : Nat) (call : WebSocketCall) (hjs : s.js = .idle)
      (hlist : s.connectionList socketID = true) :
      WebSocketBranch decode s (.jsCall socketID call) (s.accept socketID call)
  | notInList (socketID : Nat) (call : WebSocketCall) (hjs : s.js = .idle)
      (hlist : s.connectionList socketID = false) :
      WebSocketBranch decode s (.jsCall socketID call) s
  | store (socketID : Nat) (call : WebSocketCall) (hjs : s.js = .storing socketID call) :
      WebSocketBranch decode s .store
        { s.setRequest socketID ((s.requests socketID).store call) with
          js := .typing socketID call }
  | setType (socketID : Nat) (call : WebSocketCall) (hjs : s.js = .typing socketID call) :
      WebSocketBranch decode s .setType
        { s.setType socketID call.messageType with js := .pushing socketID call }
  | push (socketID : Nat) (call : WebSocketCall) (hjs : s.js = .pushing socketID call) :
      WebSocketBranch decode s .push (s.push socketID call)
  | post (hjs : s.js = .posting) :
      WebSocketBranch decode s .post
        { s with startDownloadingThread := s.startDownloadingThread + 1, js := .idle }
  | pollEmpty (hwait : s.waiting = false) (hqueue : s.RequestQueue = []) :
      WebSocketBranch decode s .poll { s with waiting := true }
  | startWorker (hwait : s.waiting = false) (hqueue : s.RequestQueue ≠ [])
      (hlt : s.currentWorkerThreadCount < maxWorkerThreadCount) :
      WebSocketBranch decode s .poll s.startWorker
  | pollFull (hwait : s.waiting = false) (hqueue : s.RequestQueue ≠ [])
      (hfull : ¬ s.currentWorkerThreadCount < maxWorkerThreadCount) :
      WebSocketBranch decode s .poll s
  | wake (hwait : s.waiting = true) (hsem : 0 < s.startDownloadingThread) :
      WebSocketBranch decode s .wake { s with
        startDownloadingThread := s.startDownloadingThread - 1
        waiting := false }
  | popNone (worker : Nat) (hworker : s.workers[worker]? = some .popping)
      (hqueue : s.RequestQueue = []) :
      WebSocketBranch decode s (.pop worker) { s.setWorker worker .exited with
        currentWorkerThreadCount := s.currentWorkerThreadCount - 1 }
  | pop (worker socketID : Nat) (rest : List Nat) (hworker : s.workers[worker]? = some .popping)
      (hqueue : s.RequestQueue = socketID :: rest) :
      WebSocketBranch decode s (.pop worker)
        { s.setWorker worker (.reading socketID) with RequestQueue := rest }
  | readType (worker socketID : Nat) (hworker : s.workers[worker]? = some (.reading socketID)) :
      WebSocketBranch decode s (.readType worker)
        (s.setWorker worker (.running socketID (s.requests socketID).messageType))
  | perform (worker socketID : Nat) (messageType : MessageType) (behind : Chars)
      (hworker : s.workers[worker]? = some (.running socketID messageType)) :
      WebSocketBranch decode s (.perform worker behind) (s.perform worker socketID messageType
        ((s.requests socketID).action decode behind messageType))
  | disconnect (worker socketID : Nat)
      (hworker : s.workers[worker]? = some (.disconnecting socketID)) :
      WebSocketBranch decode s (.disconnect worker) { s.setWorker worker .popping with
        connectionList := Function.update s.connectionList socketID false }

theorem WebSocketOp.exec_branch {op : WebSocketOp} (hexec : op.exec decode s = some s') :
    WebSocketBranch decode s op s' := by
  cases op with
  | jsCall socketID call =>
    obtain ⟨hjs, hexec⟩ := Option.ite_none_right_eq_some.mp hexec
    split at hexec
    · rename_i hlist
      obtain rfl := Option.some.inj hexec
      exact .accept socketID call hjs hlist
    · rename_i hlist
      obtain rfl := Option.some.inj hexec
      exact .notInList socketID call hjs (Bool.eq_false_iff.mpr hlist)
  | store =>
    simp only [exec] at hexec
    split at hexec
    · rename_i socketID call hjs
      obtain rfl := Option.some.inj hexec
      exact .store socketID call hjs
    · cases hexec
  | setType =>
    simp only [exec] at hexec
    split at hexec
    · rename_i socketID call hjs
      obtain rfl := Option.some.inj hexec
      exact .setType socketID call hjs
    · cases hexec
  | push =>
    simp only [exec] at hexec
    split at hexec
    · rename_i socketID call hjs
      obtain rfl := Option.some.inj hexec
      exact .push socketID call hjs
    · cases hexec
  | post =>
    obtain ⟨hjs, ⟨⟩⟩ := Option.ite_none_right_eq_some.mp hexec
    exact .post hjs
  | poll =>
    obtain ⟨hwait, hexec⟩ := Option.ite_none_left_eq_some.mp hexec
    have hwait : s.waiting = false := Bool.eq_false_iff.mpr hwait
    split at hexec
    · rename_i hqueue
      obtain rfl := Option.some.inj hexec
      exact .pollEmpty hwait hqueue
    · rename_i hqueue
      split at hexec
      · rename_i hlt
        obtain rfl := Option.some.inj hexec
        exact .startWorker hwait hqueue hlt
      · rename_i hfull
        obtain rfl := Option.some.inj hexec
        exact .pollFull hwait hqueue hfull
  | wake =>
    obtain ⟨⟨hwait, hsem⟩, ⟨⟩⟩ := Option.ite_none_right_eq_some.mp hexec
    exact .wake hwait hsem
  | pop worker =>
    obtain ⟨hworker, hexec⟩ := Option.ite_none_right_eq_some.mp hexec
    split at hexec
    · rename_i hqueue
      obtain rfl := Option.some.inj hexec
      exact .popNone worker hworker hqueue
    · rename_i socketID rest hqueue
      obtain rfl := Option.some.inj hexec
      exact .pop worker socketID rest hworker hqueue
  | readType worker =>
    simp only [exec] at hexec
    split at hexec
    · rename_i socketID hworker
      obtain rfl := Option.some.inj hexec
      exact .readType worker socketID hworker
    · cases hexec
  | perform worker behind =>
    simp only [exec] at hexec
    split at hexec
    · rename_i socketID messageType hworker
      obtain rfl := Option.some.inj hexec
      exact .perform worker socketID messageType behind hworker
    · cases hexec
  | disconnect worker =>
    simp only [exec] at hexec
    split at hexec
    · rename_i socketID hworker
      obtain rfl := Option.some.inj hexec
      exact .disconnect worker socketID hworker
    · cases hexec

end ReactNativeSkia
