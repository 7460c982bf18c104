import ReactNativeSkia.Sdk.CurlNetworking

/-!
# The steps of `CurlNetworking`

The branches of `CurlOp.exec`, each with what it asks of the state before it. The proofs about
runs go by these cases.
-/

namespace ReactNativeSkia

variable {query : Nat → CurlRequest} {s s' : CurlNetworking}

inductive CurlBranch (query : Nat → CurlRequest) (s : CurlNetworking) :
    CurlOp → CurlNetworking → Prop where
  | send (thread request : Nat) (hidle : s.callers thread = .idle)
      (hfresh : s.started request = false) :
      CurlBranch query s (.send thread request) { s.setCaller thread (.looking request) with
        started := Function.update s.started request true }
  | found (thread request producer : Nat) (hcaller : s.callers thread = .looking request)
      (hfound : s.networkCache (query request).URL = some producer) :
      CurlBranch query s (.lookup thread) (s.serve thread request producer)
  | missed (thread request : Nat) (hcaller : s.callers thread = .looking request)
      (hmissed : s.networkCache (query request).URL = none) :
      CurlBranch query s (.lookup thread) (s.setCaller thread (.preparing request))
  | prepared (thread request : Nat) (hcaller : s.callers thread = .preparing request) :
      CurlBranch query s (.prepare thread true) { s.setCaller thread
          (if (query request).supported then .adding request else .idle) with
        handle := Function.update s.handle request true }
  | notInitialized (thread request : Nat) (hcaller : s.callers thread = .preparing request) :
      CurlBranch query s (.prepare thread false) (s.setCaller thread .idle)
  | add (thread request : Nat) (hcaller : s.callers thread = .adding request)
      (hnetwork : s.network ≠ .performing) :
      CurlBranch query s (.add thread) (s.addHandle thread request)
  | notPosted (thread request : Nat) (hcaller : s.callers thread = .added request)
      (hsem : s.networkRequestSem = 0) :
      CurlBranch query s (.getvalue thread) (s.setCaller thread (.posting request))
  | posted (thread request : Nat) (hcaller : s.callers thread = .added request)
      (hsem : s.networkRequestSem ≠ 0) :
      CurlBranch query s (.getvalue thread) (s.accept thread request)
  | post (thread request : Nat) (hcaller : s.callers thread = .posting request) :
      CurlBranch query s (.post thread)
        { s.accept thread request with networkRequestSem := s.networkRequestSem + 1 }
  | abort (thread request : Nat) (hidle : s.callers thread = .idle)
      (haccepted : s.accepted request = true) (hhandle : s.handle request = true) :
      CurlBranch query s (.abort thread request) (s.setCaller thread (.aborting request))
  | noHandle (thread request : Nat) (hidle : s.callers thread = .idle)
      (haccepted : s.accepted request = true) (hhandle : s.handle request = false) :
      CurlBranch query s (.abort thread request) s
  | remove (thread request : Nat) (hcaller : s.callers thread = .aborting request)
      (hnetwork : s.network ≠ .performing) :
      CurlBranch query s (.remove thread) (s.removeHandle thread request)
  | wake (hnetwork : s.network = .waiting) (hsem : 0 < s.networkRequestSem) :
      CurlBranch query s .wake
        { s with networkRequestSem := s.networkRequestSem - 1, network := .locking }
  | lock (hnetwork : s.network = .locking) :
      CurlBranch query s .lock { s with network := .performing }
  | header (request : Nat) (line : Chars) (hnetwork : s.network = .performing)
      (hmem : request ∈ s.unfinished) :
      CurlBranch query s (.header request line)
        (s.setResponse request ((s.response request).headerCallback line))
  | write (request : Nat) (buffer : Chars) (response : CurlResponse)
      (hnetwork : s.network = .performing) (hmem : request ∈ s.unfinished)
      (hcallback : (query request).hasWriteCallback = true)
      (hresponse : (s.response request).writeCallback buffer = some response) :
      CurlBranch query s (.write request buffer) (s.setResponse request response)
  | rewind (request : Nat) (hnetwork : s.network = .performing) (hmem : request ∈ s.unfinished) :
      CurlBranch query s (.rewind request)
        (s.setResponse request { s.response request with responseBufferOffset := 0 })
  | finish (request : Nat) (ok : Bool) (hnetwork : s.network = .performing)
      (hmem : request ∈ s.unfinished) :
      CurlBranch query s (.finish request ok) { s with
        unfinished := s.unfinished.erase request
        messages := s.messages ++ [(request, ok)] }
  | performed (hnetwork : s.network = .performing) :
      CurlBranch query s .performed { s with network := .reading (s.unfinished ≠ []) }
  | readNone (stillAlive : Bool) (hnetwork : s.network = .reading stillAlive)
      (hmessages : s.messages = []) :
      CurlBranch query s .read
        { s with network := if stillAlive then .locking else .waiting }
  | read (request : Nat) (ok stillAlive : Bool) (messages : List (Nat × Bool))
      (hnetwork : s.network = .reading stillAlive)
      (hmessages : s.messages = (request, ok) :: messages) :
      CurlBranch query s .read
        { s with messages := messages, network := .storing request ok stillAlive }
  | store (request : Nat) (ok stillAlive : Bool)
      (hnetwork : s.network = .storing request ok stillAlive) :
      CurlBranch query s .store { s.storeResponse (query request).URL request ok with
        network := .completing request stillAlive }
  | complete (request : Nat) (stillAlive : Bool)
      (hnetwork : s.network = .completing request stillAlive) :
      CurlBranch query s .complete { s with
        completions := s.completions ++ [request]
        network := .cleaning request stillAlive }
  | cleanup (request : Nat) (stillAlive : Bool)
      (hnetwork : s.network = .cleaning request stillAlive) :
      CurlBranch query s .cleanup (s.cleanupHandle request stillAlive)
  | provide (request : Nat) (hmem : request ∈ s.providers) :
      CurlBranch query s (.provide request) { s with
        providers := s.providers.erase request
        completions := s.completions ++ [request] }
  | expire (URL : String) :
      CurlBranch query s (.expire URL)
        { s with networkCache := Function.update s.networkCache URL none }

theorem CurlOp.exec_branch {op : CurlOp} (hexec : op.exec query s = some s') :
    CurlBranch query s op s' := by
  cases op with
  | send thread r =>
    obtain ⟨⟨hidle, hfresh⟩, ⟨⟩⟩ := Option.ite_none_right_eq_some.mp hexec
    exact .send thread r hidle hfresh
  | lookup thread =>
    simp only [exec] at hexec
    split at hexec
    · rename_i r hcaller
      split at hexec
      · rename_i producer hfound
        obtain rfl := Option.some.inj hexec
        exact .found thread r producer hcaller hfound
      · rename_i hmissed
        obtain rfl := Option.some.inj hexec
        exact .missed thread r hcaller hmissed
    · cases hexec
  | prepare thread initialized =>
    simp only [exec] at hexec
    split at hexec
    · rename_i r hcaller
      cases initialized with
      | true =>
        obtain rfl := Option.some.inj hexec
        exact .prepared thread r hcaller
      | false =>
        obtain rfl := Option.some.inj hexec
        exact .notInitialized thread r hcaller
    · cases hexec
  | add thread =>
    simp only [exec] at hexec
    split at hexec
    · rename_i r hcaller
      obtain ⟨hnetwork, ⟨⟩⟩ := Option.ite_none_left_eq_some.mp hexec
      exact .add thread r hcaller hnetwork
    · cases hexec
  | getvalue thread =>
    simp only [exec] at hexec
    split at hexec
    · rename_i r hcaller
      split at hexec
      · rename_i hsem
        obtain rfl := Option.some.inj hexec
        exact .notPosted thread r hcaller hsem
      · rename_i hsem
        obtain rfl := Option.some.inj hexec
        exact .posted thread r hcaller hsem
    · cases hexec
  | post thread =>
    simp only [exec] at hexec
    split at hexec
    · rename_i r hcaller
      obtain rfl := Option.some.inj hexec
      exact .post thread r hcaller
    · cases hexec
  | abort thread r =>
    obtain ⟨⟨hidle, haccepted⟩, hexec⟩ := Option.ite_none_right_eq_some.mp hexec
    split at hexec
    · rename_i hhandle
      obtain rfl := Option.some.inj hexec
      exact .abort thread r hidle haccepted hhandle
    · rename_i hhandle
      obtain rfl := Option.some.inj hexec
      exact .noHandle thread r hidle haccepted (Bool.eq_false_iff.mpr hhandle)
  | remove thread =>
    simp only [exec] at hexec
    split at hexec
    · rename_i r hcaller
      obtain ⟨hnetwork, ⟨⟩⟩ := Option.ite_none_left_eq_some.mp hexec
      exact .remove thread r hcaller hnetwork
    · cases hexec
  | wake =>
    obtain ⟨⟨hnetwork, hsem⟩, ⟨⟩⟩ := Option.ite_none_right_eq_some.mp hexec
    exact .wake hnetwork hsem
  | lock =>
    obtain ⟨hnetwork, ⟨⟩⟩ := Option.ite_none_right_eq_some.mp hexec
    exact .lock hnetwork
  | header r line =>
    obtain ⟨⟨hnetwork, hmem⟩, ⟨⟩⟩ := Option.ite_none_right_eq_some.mp hexec
    exact .header r line hnetwork hmem
  | write r buffer =>
    obtain ⟨⟨hnetwork, hmem, hcallback⟩, hexec⟩ := Option.ite_none_right_eq_some.mp hexec
    obtain ⟨response, hresponse, rfl⟩ := Option.map_eq_some_iff.mp hexec
    exact .write r buffer response hnetwork hmem hcallback hresponse
  | rewind r =>
    obtain ⟨⟨hnetwork, hmem⟩, ⟨⟩⟩ := Option.ite_none_right_eq_some.mp hexec
    exact .rewind r hnetwork hmem
  | finish r ok =>
    obtain ⟨⟨hnetwork, hmem⟩, ⟨⟩⟩ := Option.ite_none_right_eq_some.mp hexec
    exact .finish r ok hnetwork hmem
  | performed =>
    obtain ⟨hnetwork, ⟨⟩⟩ := Option.ite_none_right_eq_some.mp hexec
    exact .performed hnetwork
  | read =>
    simp only [exec] at hexec
    split at hexec
    · rename_i stillAlive hnetwork
      split at hexec
      · rename_i hmessages
        obtain rfl := Option.some.inj hexec
        exact .readNone stillAlive hnetwork hmessages
      · rename_i r ok messages hmessages
        obtain rfl := Option.some.inj hexec
        exact .read r ok stillAlive messages hnetwork hmessages
    · cases hexec
  | store =>
    simp only [exec] at hexec
    split at hexec
    · rename_i r ok stillAlive hnetwork
      obtain rfl := Option.some.inj hexec
      exact .store r ok stillAlive hnetwork
    · cases hexec
  | complete =>
    simp only [exec] at hexec
    split at hexec
    · rename_i r stillAlive hnetwork
      obtain rfl := Option.some.inj hexec
      exact .complete r stillAlive hnetwork
    · cases hexec
  | cleanup =>
    simp only [exec] at hexec
    split at hexec
    · rename_i r stillAlive hnetwork
      obtain rfl := Option.some.inj hexec
      exact .cleanup r stillAlive hnetwork
    · cases hexec
  | provide r =>
    obtain ⟨hmem, ⟨⟩⟩ := Option.ite_none_right_eq_some.mp hexec
    exact .provide r hmem
  | expire URL =>
    obtain rfl := Option.some.inj hexec
    exact .expire URL

end ReactNativeSkia
