import ReactNativeSkia.Sdk.Proofs.CenterSteps
import ReactNativeSkia.Misc.Run

/-!
# What an emit calls

A dispatch calls the listeners that are in the table when it looks there. These are the right ones
as long as no removal overtakes the registration of its listener: the closure that registers comes
later, and the listener stays for good.
-/

namespace ReactNativeSkia

namespace CenterHandler

/-- The listener that the closure registers. -/
def registers : CenterHandler → Option Nat
  | addlistenerHandler listener_id _ => some listener_id
  | dispatchHandler _ => none

/-- The listener that the closure registers for this event. -/
def registersFor (name : String) : CenterHandler → Option Nat
  | addlistenerHandler listener_id eventName => if eventName = name then some listener_id else none
  | dispatchHandler _ => none

end CenterHandler

/-- The ids that the closures register. -/
def issued (closures : List CenterHandler) : List Nat :=
  closures.filterMap CenterHandler.registers

/-- The listeners that the closures register for an event, in order. -/
def registrations (eventName : String) (closures : List CenterHandler) : List Nat :=
  closures.filterMap (CenterHandler.registersFor eventName)

/-- Each listener is called once at most, in order of registration, and none whose removal had
returned. Those whose removal had not begun are all called. -/
structure Emission.Exact (closures : List CenterHandler) (e : Emission) : Prop where
  once : e.called.Nodup
  inOrder : e.called.Sublist (registrations e.eventName (closures.take e.index))
  removed : ∀ id ∈ e.called, id ∉ e.returned
  complete : ∀ id ∈ registrations e.eventName (closures.take e.index), id ∉ e.begun →
    id ∈ e.called

/-- The dispatch that is under way. -/
def NotifierThread.emission : NotifierThread → Option Emission
  | dispatching emission _ | returning emission | unlocking emission _ | calling emission _ =>
    some emission
  | idle | registering _ _ _ | registered => none

namespace NotificationCenter

/-- Each emit whose closure has run has been delivered once, to the right listeners, and one that
is under way has called no wrong one. -/
structure ExactDelivery (s : NotificationCenter) : Prop where
  once : (s.emissions.map (·.index)).Nodup
  emitted : ∀ e ∈ s.emissions, s.closures[e.index]? = some (.dispatchHandler e.eventName)
  all : ∀ i name, i < s.done → s.closures[i]? = some (.dispatchHandler name) →
    ∃ e ∈ s.emissions, e.index = i
  exact : ∀ e ∈ s.emissions, e.Exact s.closures
  underWay : ∀ e ∈ s.notifier.emission, e.called.Nodup ∧
    e.called.Sublist (registrations e.eventName (s.closures.take e.index)) ∧
    ∀ id ∈ e.called, id ∉ e.returned

end NotificationCenter

/-- A removal comes into its section after its listener has been registered, if its id is one of a
listener. `addListener` hands out no id twice, and none that has been removed before. -/
def CenterOp.KeepsListeners (s : NotificationCenter) : CenterOp → Prop
  | .erase thread =>
    match s.calls thread with
    | .erasing listener_id => listener_id ∈ issued s.closures → listener_id ∈ s.registered
    | _ => True
  | .queueHandler _ => s.nextId ∉ issued s.closures ∧ s.nextId ∉ s.erased
  | _ => True

instance (s : NotificationCenter) (op : CenterOp) : Decidable (op.KeepsListeners s) := by
  cases op with
  | erase thread =>
    dsimp only [CenterOp.KeepsListeners]
    cases s.calls thread <;> infer_instance
  | queueHandler _ => exact inferInstanceAs (Decidable (_ ∧ _))
  | _ => exact inferInstanceAs (Decidable True)

/-! ## Closures -/

section

variable {closures closures' : List CenterHandler} {handler : CenterHandler} {name : String}
  {e : Emission} {i id : Nat}

theorem take_of_prefix (h : closures <+: closures') (hi : i ≤ closures.length) :
    closures'.take i = closures.take i := by
  obtain ⟨more, rfl⟩ := h
  exact List.take_append_of_le_length hi

theorem getElem?_of_prefix (h : closures <+: closures') (hi : closures[i]? = some handler) :
    closures'[i]? = some handler := by
  obtain ⟨more, rfl⟩ := h
  obtain ⟨hlt, -⟩ := List.getElem?_eq_some_iff.mp hi
  rw [List.getElem?_append_left hlt, hi]

theorem lt_length_of_getElem? (hi : closures[i]? = some handler) : i < closures.length :=
  (List.getElem?_eq_some_iff.mp hi).1

theorem registrations_sublist (name : String) (closures : List CenterHandler) :
    (registrations name closures).Sublist (issued closures) := by
  induction closures with
  | nil => exact List.Sublist.refl _
  | cons handler closures ih =>
    unfold registrations issued at ih ⊢
    rw [List.filterMap_cons, List.filterMap_cons]
    cases handler with
    | dispatchHandler eventName => exact ih
    | addlistenerHandler listener_id eventName =>
      simp only [CenterHandler.registersFor, CenterHandler.registers]
      by_cases hname : eventName = name
      · rw [if_pos hname]
        exact ih.cons_cons _
      · rw [if_neg hname]
        exact ih.cons _

theorem issued_take_sublist (i : Nat) (closures : List CenterHandler) :
    (issued (closures.take i)).Sublist (issued closures) :=
  (List.take_sublist i closures).filterMap _

theorem take_succ_of_getElem? (hi : closures[i]? = some handler) :
    closures.take (i + 1) = closures.take i ++ [handler] := by
  rw [List.take_add_one, hi]
  rfl

theorem Emission.Exact.mono (h : e.Exact closures) (hle : closures <+: closures')
    (hi : e.index ≤ closures.length) : e.Exact closures' := by
  have htake := take_of_prefix hle hi
  exact ⟨h.once, htake ▸ h.inOrder, h.removed, htake ▸ h.complete⟩

end

namespace NotificationCenter

/-! ## The table -/

/-- How many closures have registered their listener or have been passed over. -/
def performed (s : NotificationCenter) : Nat :=
  s.done + if s.notifier = .registered then 1 else 0

/-- The table holds what has been registered and not removed. -/
structure Tabled (s : NotificationCenter) : Prop where
  keyed : ListMap.Keyed s.listenersList
  ids : (issued s.closures).Nodup
  registered : s.registered = issued (s.closures.take s.performed)
  table : ∀ name, ListMap.values s.listenersList name =
    (registrations name (s.closures.take s.performed)).filter fun id => decide (id ∉ s.erased)
  pending : ∀ id ∈ issued s.closures, id ∈ s.erased → id ∈ s.registered
  performed : s.performed ≤ s.closures.length

variable {s s' : NotificationCenter} {thread : CenterThread} {name : String} {e : Emission}
  {id : Nat}

theorem Tabled.congr (h : s.Tabled) (hlist : s'.listenersList = s.listenersList)
    (hclosures : s'.closures = s.closures) (hperformed : s'.performed = s.performed)
    (hregistered : s'.registered = s.registered) (herased : s'.erased = s.erased) : s'.Tabled := by
  refine ⟨hlist ▸ h.keyed, hclosures ▸ h.ids, ?_, ?_, ?_, ?_⟩
  · rw [hregistered, hclosures, hperformed]
    exact h.registered
  · rw [hlist, hclosures, hperformed, herased]
    exact h.table
  · rw [hregistered, hclosures, herased]
    exact h.pending
  · rw [hclosures, hperformed]
    exact h.performed

/-- A closure is queued. What it registers is a new id that has not been removed. -/
theorem Tabled.append (h : s.Tabled) {handler : CenterHandler}
    (hlist : s'.listenersList = s.listenersList)
    (hclosures : s'.closures = s.closures ++ [handler]) (hperformed : s'.performed = s.performed)
    (hregistered : s'.registered = s.registered) (herased : s'.erased = s.erased)
    (hnew : ∀ id ∈ handler.registers, id ∉ issued s.closures ∧ id ∉ s.erased) : s'.Tabled := by
  have htake : s'.closures.take s'.performed = s.closures.take s.performed := by
    rw [hclosures, hperformed]
    exact List.take_append_of_le_length h.performed
  have hissued : issued s'.closures = issued s.closures ++ handler.registers.toList := by
    unfold issued
    rw [hclosures, List.filterMap_append, List.filterMap_cons]
    cases handler.registers <;> rfl
  refine ⟨hlist ▸ h.keyed, ?_, ?_, ?_, ?_, ?_⟩
  · rw [hissued]
    refine List.nodup_append.mpr ⟨h.ids, ?_, ?_⟩
    · cases handler.registers with
      | none => exact List.nodup_nil
      | some id => exact List.nodup_singleton id
    · rintro id hid id' hid' rfl
      exact (hnew id (Option.mem_toList.mp hid')).1 hid
  · rw [htake, hregistered]
    exact h.registered
  · rw [htake, hlist, herased]
    exact h.table
  · rw [hissued, herased, hregistered]
    intro id hid hin
    rcases List.mem_append.mp hid with hid | hid
    · exact h.pending id hid hin
    · exact absurd hin (hnew id (Option.mem_toList.mp hid)).2
  · rw [hclosures, hperformed, List.length_append]
    exact Nat.le_add_right_of_le h.performed

theorem Tabled.values_nodup (h : s.Tabled) (name : String) :
    (ListMap.values s.listenersList name).Nodup := by
  rw [h.table]
  refine List.Nodup.filter _ (h.ids.sublist ?_)
  exact (registrations_sublist _ _).trans (issued_take_sublist _ _)

theorem Tabled.mem_values (h : s.Tabled) : id ∈ ListMap.values s.listenersList name ↔
    id ∈ registrations name (s.closures.take s.performed) ∧ id ∉ s.erased := by
  rw [h.table, List.mem_filter, decide_eq_true_iff]

theorem mem_registrations {closures : List CenterHandler} :
    id ∈ registrations name closures ↔ .addlistenerHandler id name ∈ closures := by
  refine List.mem_filterMap.trans ⟨?_, fun h => ⟨_, h, if_pos rfl⟩⟩
  rintro ⟨handler, hmem, hregisters⟩
  cases handler with
  | dispatchHandler eventName => cases hregisters
  | addlistenerHandler listener_id eventName =>
    obtain ⟨rfl, ⟨⟩⟩ := Option.ite_none_right_eq_some.mp hregisters
    exact hmem

/-- A listener is registered for one event. -/
theorem eq_of_mem_closures {closures : List CenterHandler} (hids : (issued closures).Nodup)
    {name' : String} (h : .addlistenerHandler id name ∈ closures)
    (h' : .addlistenerHandler id name' ∈ closures) : name = name' := by
  induction closures with
  | nil => cases h
  | cons handler closures ih =>
    have hmem {n : String} (hin : .addlistenerHandler id n ∈ closures) : id ∈ issued closures :=
      List.mem_filterMap.mpr ⟨_, hin, rfl⟩
    have hrest : (issued closures).Nodup :=
      hids.sublist ((List.sublist_cons_self handler closures).filterMap _)
    rcases List.mem_cons.mp h with rfl | hin
    · rcases List.mem_cons.mp h' with heq | hin'
      · exact (CenterHandler.addlistenerHandler.inj heq).2.symm
      · exact absurd (hmem hin') (List.nodup_cons.mp hids).1
    · rcases List.mem_cons.mp h' with rfl | hin'
      · exact absurd (hmem hin) (List.nodup_cons.mp hids).1
      · exact ih hrest hin hin'

/-- The section of a removal takes its listener out of the table. -/
theorem Tabled.erase (h : s.Tabled) (thread : CenterThread)
    (hid : id ∈ issued s.closures → id ∈ s.registered) : (s.erase thread id).Tabled := by
  refine ⟨h.keyed.erase id, h.ids, h.registered, ?_, ?_, h.performed⟩
  · intro n
    show ListMap.values (ListMap.erase id s.listenersList) n =
      (registrations n (s.closures.take s.performed)).filter
        fun i => decide (i ∉ s.erased ++ [id])
    have hone (k k' : String) (hk : id ∈ ListMap.values s.listenersList k)
        (hk' : id ∈ ListMap.values s.listenersList k') : k = k' :=
      eq_of_mem_closures (h.ids.sublist (issued_take_sublist _ _))
        (mem_registrations.mp (h.mem_values.mp hk).1)
        (mem_registrations.mp (h.mem_values.mp hk').1)
    rw [ListMap.values_erase h.keyed hone, (h.values_nodup n).erase_eq_filter, h.table,
      List.filter_filter]
    refine List.filter_congr fun i _ => ?_
    by_cases hi : i = id
    · simp [hi]
    · simp [hi]
  · intro i hi hin
    rcases List.mem_append.mp hin with hin | hin
    · exact h.pending i hi hin
    · obtain rfl := List.mem_singleton.mp hin
      exact hid hi

/-- The closure of `addListener` registers its listener. -/
theorem Tabled.register (h : s.Tabled) (hnotifier : s.notifier ≠ .registered)
    (hclosure : s.closures[s.done]? = some (.addlistenerHandler id name)) :
    (s.register id name).Tabled := by
  have hbefore : s.performed = s.done := by
    unfold NotificationCenter.performed
    rw [if_neg hnotifier]
    rfl
  have hafter : (s.register id name).performed = s.done + 1 := rfl
  have htake := take_succ_of_getElem? hclosure
  have hissued : issued (s.closures.take (s.done + 1)) =
      issued (s.closures.take s.done) ++ [id] := by
    rw [htake]
    unfold issued
    rw [List.filterMap_append]
    rfl
  -- it has not been removed, since it has not been registered before
  have hnot : id ∉ s.erased := by
    intro hin
    have hnodup := h.ids.sublist (issued_take_sublist (s.done + 1) s.closures)
    rw [hissued] at hnodup
    have hmem : id ∈ issued s.closures := by
      refine (issued_take_sublist (s.done + 1) s.closures).subset ?_
      rw [hissued]
      exact List.mem_append_right _ (List.mem_singleton.mpr rfl)
    have hregistered := h.pending id hmem hin
    rw [h.registered, hbefore] at hregistered
    exact (List.nodup_append.mp hnodup).2.2 id hregistered id (List.mem_singleton.mpr rfl) rfl
  refine ⟨h.keyed.push name id, h.ids, ?_, ?_, ?_, ?_⟩
  · show s.registered ++ [id] = issued (s.closures.take (s.done + 1))
    rw [hissued, h.registered, hbefore]
  · intro n
    show ListMap.values (ListMap.push name id s.listenersList) n =
      (registrations n (s.closures.take (s.done + 1))).filter fun i => decide (i ∉ s.erased)
    have hsplit : registrations n (s.closures.take (s.done + 1)) =
        registrations n (s.closures.take s.done) ++ if name = n then [id] else [] := by
      rw [htake]
      unfold registrations
      rw [List.filterMap_append]
      simp only [List.filterMap_cons, List.filterMap_nil, CenterHandler.registersFor]
      split <;> simp_all
    rw [hsplit, List.filter_append]
    by_cases hname : name = n
    · subst hname
      rw [ListMap.values_push_self, h.table, hbefore, if_pos rfl,
        List.filter_cons_of_pos (by simpa using hnot)]
      rfl
    · rw [ListMap.values_push_ne hname, h.table, hbefore, if_neg hname]
      exact (List.append_nil _).symm
  · exact fun i hi hin => List.mem_append_left _ (h.pending i hi hin)
  · rw [hafter]
    exact lt_length_of_getElem? hclosure

/-- A closure that has registered ends. -/
theorem Tabled.endRegistered (h : s.Tabled) (hnotifier : s.notifier = .registered) :
    Tabled { s with mutex := none, done := s.done + 1, notifier := .idle } := by
  refine h.congr rfl rfl ?_ rfl rfl
  unfold NotificationCenter.performed
  rw [hnotifier]
  rfl

/-- A closure that has dispatched ends. -/
theorem Tabled.endDispatch (h : s.Tabled) (hnotifier : s.notifier ≠ .registered)
    (hclosure : s.closures[s.done]? = some (.dispatchHandler name)) (e : Emission) :
    (s.endDispatch e).Tabled := by
  have hbefore : s.performed = s.done := by
    unfold NotificationCenter.performed
    rw [if_neg hnotifier]
    rfl
  have hafter : (s.endDispatch e).performed = s.done + 1 := rfl
  have htake := take_succ_of_getElem? hclosure
  have hissued : issued (s.closures.take (s.done + 1)) = issued (s.closures.take s.done) := by
    rw [htake]
    unfold issued
    rw [List.filterMap_append]
    exact List.append_nil _
  have hsame (n : String) : registrations n (s.closures.take (s.done + 1)) =
      registrations n (s.closures.take s.done) := by
    rw [htake]
    unfold registrations
    rw [List.filterMap_append]
    exact List.append_nil _
  refine ⟨h.keyed, h.ids, ?_, ?_, h.pending, ?_⟩
  · show s.registered = issued (s.closures.take (s.done + 1))
    rw [hissued, h.registered, hbefore]
  · intro n
    show ListMap.values s.listenersList n =
      (registrations n (s.closures.take (s.done + 1))).filter fun i => decide (i ∉ s.erased)
    rw [hsame, h.table, hbefore]
  · rw [hafter]
    exact lt_length_of_getElem? hclosure

/-! ## Removals -/

/-- A removal is called, carried out and returns in this order. -/
structure Recorded (s : NotificationCenter) : Prop where
  erased : s.erased ⊆ s.begun
  returned : s.returned ⊆ s.erased
  removing : ∀ thread id, s.calls thread = .removing id → id ∈ s.begun
  erasing : ∀ thread id, s.calls thread = .erasing id → id ∈ s.begun
  leaving : ∀ thread id, s.calls thread = .leaving (some id) → id ∈ s.erased

/-- A step of a thread that calls the center. -/
theorem Recorded.of_call (h : s.Recorded) (thread : CenterThread) {c : CenterCall}
    (hcalls : s'.calls = Function.update s.calls thread c)
    (hbegun : s.begun ⊆ s'.begun) (herased : s.erased ⊆ s'.erased)
    (hnew : s'.erased ⊆ s'.begun) (hreturned : s'.returned ⊆ s'.erased)
    (hremoving : ∀ id, c = .removing id → id ∈ s'.begun)
    (herasing : ∀ id, c = .erasing id → id ∈ s'.begun)
    (hleaving : ∀ id, c = .leaving (some id) → id ∈ s'.erased) : s'.Recorded := by
  refine ⟨hnew, hreturned, ?_, ?_, ?_⟩
  · intro t i ht
    rw [hcalls] at ht
    by_cases heq : t = thread
    · subst heq
      rw [Function.update_self] at ht
      exact hremoving i ht
    · rw [Function.update_of_ne heq] at ht
      exact hbegun (h.removing t i ht)
  · intro t i ht
    rw [hcalls] at ht
    by_cases heq : t = thread
    · subst heq
      rw [Function.update_self] at ht
      exact herasing i ht
    · rw [Function.update_of_ne heq] at ht
      exact hbegun (h.erasing t i ht)
  · intro t i ht
    rw [hcalls] at ht
    by_cases heq : t = thread
    · subst heq
      rw [Function.update_self] at ht
      exact hleaving i ht
    · rw [Function.update_of_ne heq] at ht
      exact herased (h.leaving t i ht)

/-- A step of a closure. -/
theorem Recorded.congr (h : s.Recorded) (hcalls : s'.calls = s.calls)
    (hbegun : s'.begun = s.begun) (herased : s'.erased = s.erased)
    (hreturned : s'.returned = s.returned) : s'.Recorded := by
  obtain ⟨h₁, h₂, h₃, h₄, h₅⟩ := h
  constructor <;> simp only [hcalls, hbegun, herased, hreturned] <;> assumption

/-! ## Dispatches -/

/-- The dispatch has not looked into the table. -/
structure Starting (s : NotificationCenter) (e : Emission) : Prop where
  index : e.index = s.done
  closure : s.closures[s.done]? = some (.dispatchHandler e.eventName)
  called : e.called = []
  returned : e.returned ⊆ s.erased

/-- The dispatch is about to call the listeners `rest`. -/
structure Planned (s : NotificationCenter) (e : Emission) (rest : List Nat) : Prop where
  index : e.index = s.done
  closure : s.closures[s.done]? = some (.dispatchHandler e.eventName)
  once : (e.called ++ rest).Nodup
  inOrder : (e.called ++ rest).Sublist (registrations e.eventName (s.closures.take s.done))
  removed : ∀ id ∈ e.called ++ rest, id ∉ e.returned
  complete : ∀ id ∈ registrations e.eventName (s.closures.take s.done), id ∉ s.begun →
    id ∈ e.called ++ rest

def UnderWay (s : NotificationCenter) : Prop :=
  match s.notifier with
  | .idle => True
  | .registering listener_id eventName _ =>
    s.closures[s.done]? = some (.addlistenerHandler listener_id eventName)
  | .registered =>
    ∃ listener_id eventName, s.closures[s.done]? = some (.addlistenerHandler listener_id eventName)
  | .dispatching emission _ => s.Starting emission
  | .returning emission => s.Planned emission []
  | .unlocking emission handle | .calling emission handle => s.Planned emission handle

/-- The dispatches that have ended. -/
structure Emitted (s : NotificationCenter) : Prop where
  once : (s.emissions.map (·.index)).Nodup
  ended : ∀ e ∈ s.emissions, e.index < s.done
  done : s.done ≤ s.closures.length
  emitted : ∀ e ∈ s.emissions, s.closures[e.index]? = some (.dispatchHandler e.eventName)
  all : ∀ i name, i < s.done → s.closures[i]? = some (.dispatchHandler name) →
    ∃ e ∈ s.emissions, e.index = i
  exact : ∀ e ∈ s.emissions, e.Exact s.closures

variable {rest : List Nat}

/-- More closures may be queued behind, and more removals begin. -/
theorem Planned.mono (h : s.Planned e rest) (hclosures : s.closures <+: s'.closures)
    (hdone : s'.done = s.done) (hbegun : s.begun ⊆ s'.begun) : s'.Planned e rest := by
  have htake := take_of_prefix hclosures (Nat.le_of_lt (lt_length_of_getElem? h.closure))
  refine ⟨hdone ▸ h.index, ?_, h.once, ?_, h.removed, ?_⟩
  · rw [hdone]
    exact getElem?_of_prefix hclosures h.closure
  · rw [hdone, htake]
    exact h.inOrder
  · rw [hdone, htake]
    exact fun id hid hnot => h.complete id hid fun hin => hnot (hbegun hin)

theorem UnderWay.mono (h : s.UnderWay) (hnotifier : s'.notifier = s.notifier)
    (hclosures : s.closures <+: s'.closures) (hdone : s'.done = s.done)
    (hbegun : s.begun ⊆ s'.begun) (herased : s.erased ⊆ s'.erased) : s'.UnderWay := by
  unfold UnderWay at h ⊢
  rw [hnotifier]
  cases hn : s.notifier with
  | idle => trivial
  | registering listener_id eventName locked =>
    rw [hn] at h
    dsimp only at h ⊢
    rw [hdone]
    exact getElem?_of_prefix hclosures h
  | registered =>
    rw [hn] at h
    obtain ⟨listener_id, eventName, hclosure⟩ := h
    refine ⟨listener_id, eventName, ?_⟩
    rw [hdone]
    exact getElem?_of_prefix hclosures hclosure
  | dispatching emission locked =>
    rw [hn] at h
    obtain ⟨hindex, hclosure, hcalled, hreturned⟩ := h
    refine ⟨hdone ▸ hindex, ?_, hcalled, fun id hid => herased (hreturned hid)⟩
    rw [hdone]
    exact getElem?_of_prefix hclosures hclosure
  | returning emission =>
    rw [hn] at h
    exact Planned.mono h hclosures hdone hbegun
  | unlocking emission handle =>
    rw [hn] at h
    exact Planned.mono h hclosures hdone hbegun
  | calling emission handle =>
    rw [hn] at h
    exact Planned.mono h hclosures hdone hbegun

theorem Emitted.mono (h : s.Emitted) (hclosures : s.closures <+: s'.closures)
    (hdone : s'.done = s.done) (hemissions : s'.emissions = s.emissions) : s'.Emitted := by
  refine ⟨hemissions ▸ h.once, ?_, ?_, ?_, ?_, ?_⟩
  · rw [hemissions, hdone]
    exact h.ended
  · rw [hdone]
    exact Nat.le_trans h.done hclosures.length_le
  · rw [hemissions]
    exact fun e he => getElem?_of_prefix hclosures (h.emitted e he)
  · rw [hemissions, hdone]
    intro i name hi hclosure
    have hsame : s'.closures[i]? = s.closures[i]? := by
      obtain ⟨more, hmore⟩ := hclosures
      rw [← hmore, List.getElem?_append_left (Nat.lt_of_lt_of_le hi h.done)]
    exact h.all i name hi (hsame ▸ hclosure)
  · rw [hemissions]
    intro e he
    exact (h.exact e he).mono hclosures (Nat.le_trans (Nat.le_of_lt (h.ended e he)) h.done)

/-- What a dispatch finds in the table is what it has to call. -/
theorem Starting.planned (h : s.Starting e) (htabled : s.Tabled) (hrecorded : s.Recorded)
    (hnotifier : s.notifier ≠ .registered) :
    s.Planned e (ListMap.values s.listenersList e.eventName) := by
  have hbefore : s.performed = s.done := by
    unfold NotificationCenter.performed
    rw [if_neg hnotifier]
    rfl
  refine ⟨h.index, h.closure, ?_, ?_, ?_, ?_⟩
  · rw [h.called]
    exact htabled.values_nodup _
  · rw [h.called, List.nil_append, htabled.table, hbefore]
    exact List.filter_sublist
  · rw [h.called, List.nil_append]
    exact fun id hid hin => (htabled.mem_values.mp hid).2 (h.returned hin)
  · rw [h.called, List.nil_append]
    refine fun id hid hnot => htabled.mem_values.mpr ⟨?_, fun hin => hnot (hrecorded.erased hin)⟩
    rw [hbefore]
    exact hid

theorem Planned.call (h : s.Planned e (id :: rest)) :
    s.Planned { e with called := e.called ++ [id] } rest := by
  have hsplit : e.called ++ [id] ++ rest = e.called ++ id :: rest :=
    List.append_assoc e.called [id] rest
  exact ⟨h.index, h.closure, hsplit ▸ h.once, hsplit ▸ h.inOrder, hsplit ▸ h.removed,
    hsplit ▸ h.complete⟩

/-- A dispatch that has called its listeners ends. -/
theorem Emitted.endDispatch (h : s.Emitted) (hplanned : s.Planned e []) :
    (s.endDispatch e).Emitted := by
  have hindex := hplanned.index
  have hlt := lt_length_of_getElem? hplanned.closure
  have hmem {d : Emission} (hd : d ∈ (s.endDispatch e).emissions) :
      d ∈ s.emissions ∨ d = { e with begun := s.begun } :=
    (List.mem_append.mp hd).imp_right List.mem_singleton.mp
  refine ⟨?_, ?_, hlt, ?_, ?_, ?_⟩
  · show ((s.emissions ++ [{ e with begun := s.begun }]).map Emission.index).Nodup
    rw [List.map_append, List.nodup_append]
    refine ⟨h.once, List.nodup_singleton _, ?_⟩
    rintro i hi i' hi' rfl
    obtain ⟨d, hd, hdi⟩ := List.mem_map.mp hi
    have hlast : i = e.index := List.mem_singleton.mp hi'
    have hbefore := h.ended d hd
    omega
  · intro d hd
    show d.index < s.done + 1
    rcases hmem hd with hd | rfl
    · exact Nat.lt_succ_of_lt (h.ended d hd)
    · exact Nat.lt_succ_of_le (Nat.le_of_eq hindex)
  · intro d hd
    rcases hmem hd with hd | rfl
    · exact h.emitted d hd
    · show s.closures[e.index]? = _
      rw [hindex]
      exact hplanned.closure
  · intro i name hi hclosure
    rcases Nat.lt_succ_iff_lt_or_eq.mp hi with hi | rfl
    · obtain ⟨d, hd, hdi⟩ := h.all i name hi hclosure
      exact ⟨d, List.mem_append_left _ hd, hdi⟩
    · exact ⟨_, List.mem_append_right _ (List.mem_singleton.mpr rfl), hindex⟩
  · intro d hd
    rcases hmem hd with hd | rfl
    · exact h.exact d hd
    · have honce := hplanned.once
      have hinOrder := hplanned.inOrder
      have hremoved := hplanned.removed
      have hcomplete := hplanned.complete
      rw [List.append_nil] at honce hinOrder hremoved hcomplete
      rw [← hindex] at hinOrder hcomplete
      exact ⟨honce, hinOrder, hremoved, hcomplete⟩

/-- A closure that has registered ends. -/
theorem Emitted.endRegistered (h : s.Emitted) {listener_id : Nat}
    (hclosure : s.closures[s.done]? = some (.addlistenerHandler listener_id name)) :
    Emitted { s with mutex := none, done := s.done + 1, notifier := .idle } := by
  refine ⟨h.once, ?_, lt_length_of_getElem? hclosure, h.emitted, ?_, h.exact⟩
  · exact fun d hd => Nat.lt_succ_of_lt (h.ended d hd)
  · intro i n hi hdispatch
    rcases Nat.lt_succ_iff_lt_or_eq.mp hi with hi | rfl
    · exact h.all i n hi hdispatch
    · have heq := hclosure.symm.trans hdispatch
      cases heq

/-! ## Runs -/

structure Delivered (s : NotificationCenter) : Prop where
  tabled : s.Tabled
  recorded : s.Recorded
  underWay : s.UnderWay
  emitted : s.Emitted

theorem Delivered.exactDelivery (h : s.Delivered) : s.ExactDelivery := by
  refine ⟨h.emitted.once, h.emitted.emitted, h.emitted.all, h.emitted.exact, fun e he => ?_⟩
  have hunderWay := h.underWay
  unfold UnderWay at hunderWay
  have hplanned {rest : List Nat} (hrest : s.Planned e rest) : e.called.Nodup ∧
      e.called.Sublist (registrations e.eventName (s.closures.take e.index)) ∧
      ∀ id ∈ e.called, id ∉ e.returned := by
    rw [hrest.index]
    exact ⟨(List.nodup_append.mp hrest.once).1,
      (List.sublist_append_left _ _).trans hrest.inOrder,
      fun id hid => hrest.removed id (List.mem_append_left _ hid)⟩
  cases hn : s.notifier with
  | idle | registering listener_id eventName locked | registered =>
    rw [hn] at he
    cases he
  | dispatching emission locked =>
    rw [hn] at he hunderWay
    obtain rfl := Option.some.inj he
    rw [hunderWay.called]
    exact ⟨List.nodup_nil, List.nil_sublist _, fun id hid => nomatch hid⟩
  | returning emission | unlocking emission handle | calling emission handle =>
    rw [hn] at he hunderWay
    obtain rfl := Option.some.inj he
    exact hplanned hunderWay

/-- A step that leaves the table, the closures and `eventNotifierThread_` alone. -/
theorem Delivered.of_call (h : s.Delivered) (hrecorded : s'.Recorded)
    (hlist : s'.listenersList = s.listenersList) (hclosures : s'.closures = s.closures)
    (hdone : s'.done = s.done) (hnotifier : s'.notifier = s.notifier)
    (hregistered : s'.registered = s.registered) (hemissions : s'.emissions = s.emissions)
    (hbegun : s.begun ⊆ s'.begun) (herased : s'.erased = s.erased) : s'.Delivered := by
  have hprefix : s.closures <+: s'.closures := hclosures ▸ List.prefix_refl _
  have hperformed : s'.performed = s.performed := by
    unfold NotificationCenter.performed
    rw [hdone, hnotifier]
  exact ⟨h.tabled.congr hlist hclosures hperformed hregistered herased, hrecorded,
    h.underWay.mono hnotifier hprefix hdone hbegun (herased ▸ List.Subset.refl _),
    h.emitted.mono hprefix hdone hemissions⟩

/-- A closure is queued. -/
theorem Delivered.of_queue (h : s.Delivered) (handler : CenterHandler) (hrecorded : s'.Recorded)
    (hlist : s'.listenersList = s.listenersList)
    (hclosures : s'.closures = s.closures ++ [handler])
    (hdone : s'.done = s.done) (hnotifier : s'.notifier = s.notifier)
    (hregistered : s'.registered = s.registered) (hemissions : s'.emissions = s.emissions)
    (hbegun : s'.begun = s.begun) (herased : s'.erased = s.erased)
    (hnew : ∀ id ∈ handler.registers, id ∉ issued s.closures ∧ id ∉ s.erased) :
    s'.Delivered := by
  have hprefix : s.closures <+: s'.closures := hclosures ▸ List.prefix_append _ _
  have hperformed : s'.performed = s.performed := by
    unfold NotificationCenter.performed
    rw [hdone, hnotifier]
  exact ⟨h.tabled.append hlist hclosures hperformed hregistered herased hnew, hrecorded,
    h.underWay.mono hnotifier hprefix hdone (hbegun ▸ List.Subset.refl _)
      (herased ▸ List.Subset.refl _),
    h.emitted.mono hprefix hdone hemissions⟩

/-- The section of a removal whose listener is registered. -/
theorem Delivered.erase (h : s.Delivered) (hcall : s.calls thread = .erasing id)
    (hid : id ∈ issued s.closures → id ∈ s.registered) : (s.erase thread id).Delivered := by
  have hsubset : s.erased ⊆ (s.erase thread id).erased := List.subset_append_left _ _
  refine ⟨h.tabled.erase thread hid, ?_, ?_, h.emitted.mono (List.prefix_refl _) rfl rfl⟩
  · refine h.recorded.of_call thread rfl (List.Subset.refl _) hsubset ?_ ?_
      nofun nofun ?_
    · intro i hi
      rcases List.mem_append.mp hi with hi | hi
      · exact h.recorded.erased hi
      · obtain rfl := List.mem_singleton.mp hi
        exact h.recorded.erasing thread i hcall
    · exact fun i hi => hsubset (h.recorded.returned hi)
    · rintro i ⟨⟩
      exact List.mem_append_right _ (List.mem_singleton.mpr rfl)
  · exact h.underWay.mono rfl (List.prefix_refl _) rfl (List.Subset.refl _) hsubset

/-- A step of a closure that leaves the table alone. -/
theorem Delivered.of_notifier (h : s.Delivered) {notifier : NotifierThread}
    {mutex : Option CenterThread} (hbefore : s.notifier ≠ .registered)
    (hafter : notifier ≠ .registered)
    (hunderWay : UnderWay { s with mutex := mutex, notifier := notifier }) :
    Delivered { s with mutex := mutex, notifier := notifier } := by
  refine ⟨h.tabled.congr rfl rfl ?_ rfl rfl, h.recorded.congr rfl rfl rfl rfl, hunderWay,
    h.emitted.mono (List.prefix_refl _) rfl rfl⟩
  unfold NotificationCenter.performed
  rw [if_neg hbefore, if_neg hafter]

theorem Delivered.endDispatch (h : s.Delivered) (hnotifier : s.notifier ≠ .registered)
    (hplanned : s.Planned e []) : (s.endDispatch e).Delivered :=
  ⟨h.tabled.endDispatch hnotifier hplanned.closure e, h.recorded.congr rfl rfl rfl rfl, trivial,
    h.emitted.endDispatch hplanned⟩

theorem Delivered.exec {op : CenterOp} (h : s.Delivered) (hok : op.KeepsListeners s)
    (hexec : op.exec s = some s') : s'.Delivered := by
  have hunderWay := h.underWay
  have hsame {a : List Nat} : a ⊆ a := List.Subset.refl a
  have hprefix : s.closures <+: s.closures := List.prefix_refl _
  have herased := h.recorded.erased
  have hreturned := h.recorded.returned
  cases CenterOp.exec_branch hexec with
  | addListener thread eventName hidle hmay | lockAdd thread eventName hfree hcall =>
    exact h.of_call (h.recorded.of_call thread rfl hsame hsame herased hreturned
      nofun nofun nofun) rfl rfl rfl rfl rfl rfl hsame rfl
  | removeListener thread listener_id =>
    have hbegun : s.begun ⊆ s.begun ++ [listener_id] := List.subset_append_left _ _
    refine h.of_call (h.recorded.of_call thread rfl hbegun hsame
      (fun i hi => hbegun (herased hi)) hreturned ?_ nofun nofun) rfl rfl rfl rfl rfl rfl hbegun rfl
    rintro i ⟨⟩
    exact List.mem_append_right _ (List.mem_singleton.mpr rfl)
  | emit thread eventName =>
    exact h.of_queue (.dispatchHandler eventName) (h.recorded.congr rfl rfl rfl rfl)
      rfl rfl rfl rfl rfl rfl rfl rfl nofun
  | lockRemove thread listener_id hfree hcall =>
    refine h.of_call (h.recorded.of_call thread rfl hsame hsame herased hreturned
      nofun ?_ nofun) rfl rfl rfl rfl rfl rfl hsame rfl
    rintro i ⟨⟩
    exact h.recorded.removing thread listener_id hcall
  | queueHandler thread eventName =>
    refine h.of_queue (.addlistenerHandler s.nextId eventName)
      (h.recorded.of_call thread rfl hsame hsame herased hreturned nofun nofun nofun)
      rfl rfl rfl rfl rfl rfl rfl rfl ?_
    rintro i ⟨⟩
    exact hok
  | erase thread listener_id hcall =>
    simp only [CenterOp.KeepsListeners, hcall] at hok
    exact h.erase hcall hok
  | unlock thread removed hcall =>
    refine h.of_call (h.recorded.of_call thread rfl hsame hsame herased ?_
      nofun nofun nofun) rfl rfl rfl rfl rfl rfl hsame rfl
    intro i hi
    rcases List.mem_append.mp hi with hi | hi
    · exact hreturned hi
    · obtain rfl := Option.mem_toList.mp hi
      exact h.recorded.leaving thread i hcall
  | nextRegister listener_id eventName hnotifier hclosure =>
    exact h.of_notifier (by rw [hnotifier]; rintro ⟨⟩) (by rintro ⟨⟩) hclosure
  | nextDispatch eventName hnotifier hclosure =>
    exact h.of_notifier (by rw [hnotifier]; rintro ⟨⟩) (by rintro ⟨⟩)
      ⟨rfl, hclosure, rfl, hreturned⟩
  | lockRegister listener_id eventName hfree hnotifier =>
    simp only [UnderWay, hnotifier] at hunderWay
    exact h.of_notifier (by rw [hnotifier]; rintro ⟨⟩) (by rintro ⟨⟩) hunderWay
  | lockDispatch emission hfree hnotifier =>
    simp only [UnderWay, hnotifier] at hunderWay
    refine h.of_notifier (by rw [hnotifier]; rintro ⟨⟩) (by rintro ⟨⟩) ?_
    exact ⟨hunderWay.index, hunderWay.closure, hunderWay.called, hunderWay.returned⟩
  | register listener_id eventName hnotifier =>
    simp only [UnderWay, hnotifier] at hunderWay
    exact ⟨h.tabled.register (by rw [hnotifier]; rintro ⟨⟩) hunderWay,
      h.recorded.congr rfl rfl rfl rfl, ⟨listener_id, eventName, hunderWay⟩,
      h.emitted.mono hprefix rfl rfl⟩
  | findNone emission hnotifier hfind | find emission handle hnotifier hfind =>
    simp only [UnderWay, hnotifier] at hunderWay
    have hbefore : s.notifier ≠ .registered := by
      rw [hnotifier]
      rintro ⟨⟩
    have hplanned := hunderWay.planned h.tabled h.recorded hbefore
    unfold ListMap.values at hplanned
    rw [hfind] at hplanned
    exact h.of_notifier hbefore (by rintro ⟨⟩) (hplanned.mono hprefix rfl hsame)
  | unlockByHand emission handle hnotifier =>
    simp only [UnderWay, hnotifier] at hunderWay
    exact h.of_notifier (by rw [hnotifier]; rintro ⟨⟩) (by rintro ⟨⟩)
      (hunderWay.mono hprefix rfl hsame)
  | call emission listener_id handle hnotifier =>
    simp only [UnderWay, hnotifier] at hunderWay
    exact h.of_notifier (by rw [hnotifier]; rintro ⟨⟩) (by rintro ⟨⟩)
      (hunderWay.call.mono hprefix rfl hsame)
  | endRegister hnotifier =>
    simp only [UnderWay, hnotifier] at hunderWay
    obtain ⟨listener_id, eventName, hclosure⟩ := hunderWay
    exact ⟨h.tabled.endRegistered hnotifier, h.recorded.congr rfl rfl rfl rfl, trivial,
      h.emitted.endRegistered hclosure⟩
  | endReturn emission hnotifier | endCalls emission hnotifier =>
    simp only [UnderWay, hnotifier] at hunderWay
    exact h.endDispatch (by rw [hnotifier]; rintro ⟨⟩) hunderWay

theorem delivered_init : Delivered {} where
  tabled := ⟨List.nodup_nil, List.nodup_nil, rfl, fun _ => rfl, nofun, Nat.zero_le _⟩
  recorded := ⟨List.Subset.refl _, List.Subset.refl _, nofun, nofun, nofun⟩
  underWay := trivial
  emitted := ⟨List.nodup_nil, nofun, Nat.zero_le _, nofun, nofun, nofun⟩

/-- In every run in which no removal overtakes the registration of its listener, and no id is
handed out again, each emit calls the right listeners. -/
theorem centerRun_exactDelivery (hrun : Run centerStep CenterOp.KeepsListeners {} s) :
    s.ExactDelivery := by
  have hdelivered : s.Delivered := by
    refine hrun.invariant (P := Delivered) ?_ delivered_init
    intro t op u ht hok hstep
    exact ht.exec hok hstep
  exact hdelivered.exactDelivery

/-- Two listeners hear an event. One of them is removed before the next. -/
theorem centerRun_exactDelivery_two_listeners : ∃ s : NotificationCenter, s.ExactDelivery ∧
    s.emissions.map (·.called) = [[1, 2], [2]] ∧ s.returned = [1] := by
  have hfold : ([.addListener (.caller 0) "e", .addListener (.caller 1) "e", .lock (.caller 0),
      .queueHandler (.caller 0), .unlock (.caller 0), .nextHandler, .lock (.caller 1),
      .queueHandler (.caller 1), .unlock (.caller 1), .emit (.caller 1) "e", .lockHandler,
      .register, .endHandler, .nextHandler, .lockHandler, .register, .endHandler, .nextHandler,
      .lockHandler, .find, .unlockByHand, .call, .removeListener (.caller 0) 1,
      .lock (.caller 0), .call, .erase (.caller 0), .endHandler, .unlock (.caller 0),
      .emit (.caller 0) "e", .nextHandler, .lockHandler, .find, .unlockByHand, .call,
      .endHandler].foldlM
        (fun s (op : CenterOp) => if op.KeepsListeners s then op.exec s else none) {}).map
          (fun s => (s.emissions.map (·.called), s.returned)) = some ([[1, 2], [2]], [1]) := by
    decide +kernel
  obtain ⟨s, hrun, hs⟩ := Option.map_eq_some_iff.mp hfold
  obtain ⟨hcalled, hreturned⟩ := Prod.mk.inj hs
  exact ⟨s, centerRun_exactDelivery (Run.of_checked_exec hrun), hcalled, hreturned⟩

/-- A listener is removed while the closure that registers it waits. -/
theorem removed_listener_called :
    ¬ ∀ s : NotificationCenter, Run centerStep anyStep {} s → s.ExactDelivery := by
  intro hall
  have hfold : ([.addListener (.caller 0) "e", .lock (.caller 0), .queueHandler (.caller 0),
      .unlock (.caller 0), .removeListener (.caller 0) 1, .lock (.caller 0), .erase (.caller 0),
      .unlock (.caller 0), .nextHandler, .lockHandler, .register, .endHandler,
      .emit (.caller 0) "e", .nextHandler, .lockHandler, .find, .unlockByHand, .call,
      .endHandler].foldlM CenterOp.exec {}).map
        (fun s => s.emissions.map fun e => (e.called, e.returned)) = some [([1], [1])] := by
    decide +kernel
  obtain ⟨s, hrun, hs⟩ := Option.map_eq_some_iff.mp hfold
  have hdelivery := hall s (Run.of_exec hrun)
  obtain ⟨e, hemissions, he⟩ := List.map_eq_singleton_iff.mp hs
  obtain ⟨hcalled, hreturned⟩ := Prod.mk.inj he
  have hexact := hdelivery.exact e (hemissions ▸ List.mem_singleton.mpr rfl)
  refine hexact.removed 1 ?_ ?_
  · rw [hcalled]
    exact List.mem_singleton.mpr rfl
  · rw [hreturned]
    exact List.mem_singleton.mpr rfl

end NotificationCenter

end ReactNativeSkia
