import ReactNativeSkia.Sdk.NotificationCenter

/-!
# The steps of the notification center

The branches of `CenterOp.exec`, each with what it asks of the state before it. The proofs about
runs go by these cases.
-/

namespace ReactNativeSkia

variable {s s' : NotificationCenter}

inductive CenterBranch (s : NotificationCenter) : CenterOp → NotificationCenter → Prop where
  | addListener (thread : CenterThread) (eventName : String) (hidle : s.calls thread = .idle)
      (hmay : s.mayCall thread = true) :
      CenterBranch s (.addListener thread eventName) (s.withCall thread (.adding eventName))
  | removeListener (thread : CenterThread) (listener_id : Nat) (hidle : s.calls thread = .idle)
      (hmay : s.mayCall thread = true) :
      CenterBranch s (.removeListener thread listener_id)
        ({ s with begun := s.begun ++ [listener_id] }.withCall thread (.removing listener_id))
  | emit (thread : CenterThread) (eventName : String) (hidle : s.calls thread = .idle)
      (hmay : s.mayCall thread = true) :
      CenterBranch s (.emit thread eventName) (s.queue (.dispatchHandler eventName))
  | lockAdd (thread : CenterThread) (eventName : String) (hfree : s.mutex = none)
      (hcall : s.calls thread = .adding eventName) :
      CenterBranch s (.lock thread)
        ({ s with mutex := some thread }.withCall thread (.queueing eventName))
  | lockRemove (thread : CenterThread) (listener_id : Nat) (hfree : s.mutex = none)
      (hcall : s.calls thread = .removing listener_id) :
      CenterBranch s (.lock thread)
        ({ s with mutex := some thread }.withCall thread (.erasing listener_id))
  | queueHandler (thread : CenterThread) (eventName : String)
      (hcall : s.calls thread = .queueing eventName) :
      CenterBranch s (.queueHandler thread) (s.queueHandler thread eventName)
  | erase (thread : CenterThread) (listener_id : Nat)
      (hcall : s.calls thread = .erasing listener_id) :
      CenterBranch s (.erase thread) (s.erase thread listener_id)
  | unlock (thread : CenterThread) (removed : Option Nat)
      (hcall : s.calls thread = .leaving removed) :
      CenterBranch s (.unlock thread) ({ s with
        mutex := none
        returned := s.returned ++ removed.toList }.withCall thread .idle)
  | nextRegister (listener_id : Nat) (eventName : String) (hnotifier : s.notifier = .idle)
      (hclosure : s.closures[s.done]? = some (.addlistenerHandler listener_id eventName)) :
      CenterBranch s .nextHandler
        { s with notifier := .registering listener_id eventName false }
  | nextDispatch (eventName : String) (hnotifier : s.notifier = .idle)
      (hclosure : s.closures[s.done]? = some (.dispatchHandler eventName)) :
      CenterBranch s .nextHandler { s with
        notifier := .dispatching
          { index := s.done, eventName := eventName, returned := s.returned } false }
  | lockRegister (listener_id : Nat) (eventName : String) (hfree : s.mutex = none)
      (hnotifier : s.notifier = .registering listener_id eventName false) :
      CenterBranch s .lockHandler { s with
        mutex := some .notifier, notifier := .registering listener_id eventName true }
  | lockDispatch (emission : Emission) (hfree : s.mutex = none)
      (hnotifier : s.notifier = .dispatching emission false) :
      CenterBranch s .lockHandler
        { s with mutex := some .notifier, notifier := .dispatching emission true }
  | register (listener_id : Nat) (eventName : String)
      (hnotifier : s.notifier = .registering listener_id eventName true) :
      CenterBranch s .register (s.register listener_id eventName)
  | findNone (emission : Emission) (hnotifier : s.notifier = .dispatching emission true)
      (hfind : ListMap.find emission.eventName s.listenersList = none) :
      CenterBranch s .find { s with notifier := .returning emission }
  | find (emission : Emission) (handle : List Nat)
      (hnotifier : s.notifier = .dispatching emission true)
      (hfind : ListMap.find emission.eventName s.listenersList = some handle) :
      CenterBranch s .find { s with notifier := .unlocking emission handle }
  | unlockByHand (emission : Emission) (handle : List Nat)
      (hnotifier : s.notifier = .unlocking emission handle) :
      CenterBranch s .unlockByHand
        { s with mutex := none, notifier := .calling emission handle }
  | call (emission : Emission) (listener_id : Nat) (handle : List Nat)
      (hnotifier : s.notifier = .calling emission (listener_id :: handle))
      (hidle : s.calls .notifier = .idle) :
      CenterBranch s .call { s with
        notifier := .calling { emission with called := emission.called ++ [listener_id] } handle }
  | endRegister (hnotifier : s.notifier = .registered) :
      CenterBranch s .endHandler
        { s with mutex := none, done := s.done + 1, notifier := .idle }
  | endReturn (emission : Emission) (hnotifier : s.notifier = .returning emission) :
      CenterBranch s .endHandler (s.endDispatch emission)
  | endCalls (emission : Emission) (hnotifier : s.notifier = .calling emission [])
      (hidle : s.calls .notifier = .idle) :
      CenterBranch s .endHandler (s.endDispatch emission)

theorem CenterOp.exec_branch {op : CenterOp} (hexec : op.exec s = some s') :
    CenterBranch s op s' := by
  cases op with
  | addListener thread eventName =>
    obtain ⟨⟨hidle, hmay⟩, ⟨⟩⟩ := Option.ite_none_right_eq_some.mp hexec
    exact .addListener thread eventName hidle hmay
  | removeListener thread listener_id =>
    obtain ⟨⟨hidle, hmay⟩, ⟨⟩⟩ := Option.ite_none_right_eq_some.mp hexec
    exact .removeListener thread listener_id hidle hmay
  | emit thread eventName =>
    obtain ⟨⟨hidle, hmay⟩, ⟨⟩⟩ := Option.ite_none_right_eq_some.mp hexec
    exact .emit thread eventName hidle hmay
  | lock thread =>
    obtain ⟨hfree, hexec⟩ := Option.ite_none_right_eq_some.mp hexec
    split at hexec
    · rename_i eventName hcall
      obtain rfl := Option.some.inj hexec
      exact .lockAdd thread eventName hfree hcall
    · rename_i listener_id hcall
      obtain rfl := Option.some.inj hexec
      exact .lockRemove thread listener_id hfree hcall
    · cases hexec
  | queueHandler thread =>
    simp only [exec] at hexec
    split at hexec
    · rename_i eventName hcall
      obtain rfl := Option.some.inj hexec
      exact .queueHandler thread eventName hcall
    · cases hexec
  | erase thread =>
    simp only [exec] at hexec
    split at hexec
    · rename_i listener_id hcall
      obtain rfl := Option.some.inj hexec
      exact .erase thread listener_id hcall
    · cases hexec
  | unlock thread =>
    simp only [exec] at hexec
    split at hexec
    · rename_i removed hcall
      obtain rfl := Option.some.inj hexec
      exact .unlock thread removed hcall
    · cases hexec
  | nextHandler =>
    obtain ⟨hnotifier, hexec⟩ := Option.ite_none_right_eq_some.mp hexec
    split at hexec
    · rename_i listener_id eventName hclosure
      obtain rfl := Option.some.inj hexec
      exact .nextRegister listener_id eventName hnotifier hclosure
    · rename_i eventName hclosure
      obtain rfl := Option.some.inj hexec
      exact .nextDispatch eventName hnotifier hclosure
    · cases hexec
  | lockHandler =>
    obtain ⟨hfree, hexec⟩ := Option.ite_none_right_eq_some.mp hexec
    split at hexec
    · rename_i listener_id eventName hnotifier
      obtain rfl := Option.some.inj hexec
      exact .lockRegister listener_id eventName hfree hnotifier
    · rename_i emission hnotifier
      obtain rfl := Option.some.inj hexec
      exact .lockDispatch emission hfree hnotifier
    · cases hexec
  | register =>
    simp only [exec] at hexec
    split at hexec
    · rename_i listener_id eventName hnotifier
      obtain rfl := Option.some.inj hexec
      exact .register listener_id eventName hnotifier
    · cases hexec
  | find =>
    simp only [exec] at hexec
    split at hexec
    · rename_i emission hnotifier
      split at hexec
      · rename_i hfind
        obtain rfl := Option.some.inj hexec
        exact .findNone emission hnotifier hfind
      · rename_i handle hfind
        obtain rfl := Option.some.inj hexec
        exact .find emission handle hnotifier hfind
    · cases hexec
  | unlockByHand =>
    simp only [exec] at hexec
    split at hexec
    · rename_i emission handle hnotifier
      obtain rfl := Option.some.inj hexec
      exact .unlockByHand emission handle hnotifier
    · cases hexec
  | call =>
    simp only [exec] at hexec
    split at hexec
    · rename_i emission listener_id handle hnotifier
      obtain ⟨hidle, ⟨⟩⟩ := Option.ite_none_right_eq_some.mp hexec
      exact .call emission listener_id handle hnotifier hidle
    · cases hexec
  | endHandler =>
    simp only [exec] at hexec
    split at hexec
    · rename_i hnotifier
      obtain rfl := Option.some.inj hexec
      exact .endRegister hnotifier
    · rename_i emission hnotifier
      obtain rfl := Option.some.inj hexec
      exact .endReturn emission hnotifier
    · rename_i emission hnotifier
      obtain ⟨hidle, ⟨⟩⟩ := Option.ite_none_right_eq_some.mp hexec
      exact .endCalls emission hnotifier hidle
    · cases hexec

end ReactNativeSkia
