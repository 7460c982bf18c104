import ReactNativeSkia.Sdk.AlertWindow
import ReactNativeSkia.Sdk.Proofs.AlertDismissal

/-!
# One window at a time

A request that does not find the window active creates one, so a request that comes while the
window is being created makes `WindowDelegator` start over with the old thread still there. As long
as none does, the state of the window says what there is of it.
-/

namespace ReactNativeSkia

variable {s t : AlertWindow} {caller : AlertCaller}

/-- What the states of `Alert` stand for. -/
def WindowLife.state : WindowLife → AlertWindowState
  | none => .ALERT_WINDOW_DESTRUCTED
  | creating | created => .ALERT_WINDOW_ON_CREATION
  | ready => .ALERT_WINDOW_ACTIVE

/-- A window is created where there is none, and closed where there is one. -/
def WindowCall.Fits : WindowCall → Prop
  | createWindow window => window = .none
  | closeWindow window => window = .ready

namespace AlertWindow

/-- The window has one life at a time. -/
structure OneLife (s : AlertWindow) : Prop where
  calls : ∀ call ∈ s.calls, call.Fits
  /-- Nobody is in between a change of the list and the end of the request behind it. -/
  shown : s.alert.listOwner = none → s.alert.alertInfoList_ ≠ [] → s.window ≠ .none

end AlertWindow

/-- No request comes while the window is being created. -/
def AlertWindowOp.AwaitsWindow (s : AlertWindow) (op : AlertWindowOp) : Prop :=
  op = .testState → s.alert.alertWindowState_ ≠ .ALERT_WINDOW_ON_CREATION

instance (s : AlertWindow) (op : AlertWindowOp) : Decidable (op.AwaitsWindow s) := by
  unfold AlertWindowOp.AwaitsWindow
  infer_instance

/-! ## The steps together -/

namespace AlertWindow

/-- With nobody in between, the steps of a request are `triggerRenderRequest` and the draw. -/
theorem triggerRenderRequest_eq_steps {components : AlertComponents} (hfree : s.request = none)
    (hcomponents : s.alert.request caller = some components) :
    ∃ (ops : List AlertWindowOp) (t : AlertWindow),
      ops.foldlM AlertWindowOp.exec s = some t ∧ t.request = none ∧
        (t.alert = s.alert.triggerRenderRequest caller components ∨
          t.alert = (s.alert.triggerRenderRequest caller components).drawRecentAlert caller) := by
  have hlock : AlertWindowOp.exec s (.triggerRenderRequest caller) =
      some { s with request := some (caller, .testing) } :=
    if_pos ⟨hfree, by rw [hcomponents]; rfl⟩
  have htest : AlertWindowOp.exec { s with request := some (caller, .testing) } .testState =
      some (testState { s with request := some (caller, .testing) } caller components) := by
    show (s.alert.request caller).map _ = _
    rw [hcomponents]
    rfl
  have hrun (op : AlertWindowOp) : [.triggerRenderRequest caller, .testState, op].foldlM
      AlertWindowOp.exec s = op.exec (testState { s with request := some (caller, .testing) }
        caller components) := by
    simp only [List.foldlM_cons, List.foldlM_nil, hlock, htest, Option.bind_eq_bind,
      Option.bind_some]
    exact Option.bind_fun_some _
  unfold testState at htest hrun
  unfold Alert.triggerRenderRequest
  split_ifs at htest hrun ⊢
  · exact ⟨_, _, hrun .createAlertWindow, rfl, .inl rfl⟩
  · exact ⟨_, _, hrun .windowClosed, rfl, .inl rfl⟩
  · refine ⟨[.triggerRenderRequest caller, .testState],
      AlertWindow.finish { s with request := some (caller, .testing) } caller, ?_, rfl, .inl rfl⟩
    simp only [List.foldlM_cons, List.foldlM_nil, hlock, Option.bind_eq_bind, Option.bind_some]
    exact (Option.bind_fun_some _).trans htest
  · refine ⟨_, _, hrun .drawRecentAlert, rfl, .inr ?_⟩
    cases caller <;> rfl

/-! ## The state and the window -/

/-- What holds besides in a run that meets the condition. -/
structure Keeps (s : AlertWindow) : Prop where
  life : s.OneLife
  state : s.alert.alertWindowState_ = s.window.state
  creating : ∀ caller, s.request = some (caller, .creating) → s.window = .none
  /-- What is closed is empty, unless somebody waits for the callback to close it. -/
  closing : ∀ caller, s.request = some (caller, .closing) →
    s.alert.alertInfoList_ = [] ∨ caller = .windowReadyToDrawCB ∧ s.alert.listOwner ≠ none
  drawing : ∀ caller, s.request = some (caller, .drawing) → s.window = .ready
  pushed : s.alert.listOwner = some .showAlert → s.alert.alertInfoList_ ≠ []
  owner : ∀ caller stage, s.request = some (caller, stage) → caller ≠ .windowReadyToDrawCB →
    s.alert.listOwner = some caller

theorem Keeps.init : Keeps {} where
  life := ⟨fun _ h => absurd h List.not_mem_nil, fun _ h => absurd rfl h⟩
  state := rfl
  creating := fun _ h => by cases h
  closing := fun _ h => by cases h
  drawing := fun _ h => by cases h
  pushed := fun h => by cases h
  owner := fun _ _ h => by cases h

/-- The end of a request whose window is there, or whose list is empty. -/
theorem Keeps.finish (hcalls : ∀ call ∈ s.calls, call.Fits)
    (hstate : s.alert.alertWindowState_ = s.window.state)
    (hpushed : s.alert.listOwner = some .showAlert → s.alert.alertInfoList_ ≠ [])
    (hshown : s.window ≠ .none ∨ s.alert.alertInfoList_ = [] ∨
      caller = .windowReadyToDrawCB ∧ s.alert.listOwner ≠ none) : (s.finish caller).Keeps where
  life := by
    refine ⟨hcalls, fun hfree hlist => ?_⟩
    rcases hshown with hwindow | hempty | ⟨rfl, hlocked⟩
    · exact hwindow
    · exact absurd hempty (by simpa [AlertWindow.finish] using hlist)
    · exact absurd hfree hlocked
  state := by simpa [AlertWindow.finish] using hstate
  creating := fun _ h => by cases h
  closing := fun _ h => by cases h
  drawing := fun _ h => by cases h
  pushed := by
    cases caller with
    | showAlert => exact fun h => by cases h
    | onHWKeyHandler => exact fun h => by cases h
    | windowReadyToDrawCB => exact hpushed
  owner := fun _ _ h => by cases h

section
variable {alert : Alert} (hlist : alert.alertInfoList_ = s.alert.alertInfoList_)
  (howner : alert.listOwner = s.alert.listOwner)
include howner

theorem Keeps.owner_of_eq (h : s.Keeps) (caller : AlertCaller) (stage : AlertRequestStage)
    (hrequest : s.request = some (caller, stage)) (hcaller : caller ≠ .windowReadyToDrawCB) :
    alert.listOwner = some caller :=
  howner.trans (h.owner caller stage hrequest hcaller)

include hlist

theorem Keeps.closing_of_eq (h : s.Keeps) (caller : AlertCaller)
    (hrequest : s.request = some (caller, .closing)) :
    alert.alertInfoList_ = [] ∨ caller = .windowReadyToDrawCB ∧ alert.listOwner ≠ none := by
  rw [hlist, howner]
  exact h.closing caller hrequest

theorem Keeps.pushed_of_eq (h : s.Keeps) (hpush : alert.listOwner = some .showAlert) :
    alert.alertInfoList_ ≠ [] := by
  rw [hlist]
  exact h.pushed (howner.symm.trans hpush)

end

/-- A step of a press that leaves the list and its owner. -/
theorem Keeps.setAlert (h : s.Keeps) {alert : Alert}
    (hstate : alert.alertWindowState_ = s.alert.alertWindowState_)
    (hlist : alert.alertInfoList_ = s.alert.alertInfoList_)
    (howner : alert.listOwner = s.alert.listOwner) : (s.setAlert alert).Keeps where
  life := ⟨h.life.calls, by
    show alert.listOwner = none → alert.alertInfoList_ ≠ [] → s.window ≠ .none
    rw [hlist, howner]
    exact h.life.shown⟩
  state := hstate.trans h.state
  creating := h.creating
  closing caller hrequest := h.closing_of_eq hlist howner caller hrequest
  drawing := h.drawing
  pushed hpush := h.pushed_of_eq hlist howner hpush
  owner caller stage hrequest hcaller := h.owner_of_eq howner caller stage hrequest hcaller

/-- A request behind which nobody has the list locked is that of the callback. -/
theorem Keeps.windowReady_of_free (h : s.Keeps) (hfree : s.alert.listOwner = none)
    {stage : AlertRequestStage} (hrequest : s.request = some (caller, stage)) :
    caller = .windowReadyToDrawCB := by
  by_contra hcaller
  have howner := h.owner caller stage hrequest hcaller
  rw [hfree] at howner
  cases howner

/-- A step that locks the list and changes it. -/
theorem Keeps.lockList (h : s.Keeps) {alert : Alert} (hfree : s.alert.listOwner = none)
    (hstate : alert.alertWindowState_ = s.alert.alertWindowState_)
    (hlocked : alert.listOwner ≠ none)
    (hpushed : alert.listOwner = some .showAlert → alert.alertInfoList_ ≠ []) :
    (s.setAlert alert).Keeps where
  life := ⟨h.life.calls, fun howner => absurd howner hlocked⟩
  state := hstate.trans h.state
  creating := h.creating
  closing := fun _ hrequest => .inr ⟨h.windowReady_of_free hfree hrequest, hlocked⟩
  drawing := h.drawing
  pushed := hpushed
  owner := fun _ _ hrequest hcaller => absurd (h.windowReady_of_free hfree hrequest) hcaller

theorem Keeps.createAlertWindow (h : s.Keeps) (hrequest : s.request = some (caller, .creating)) :
    (s.createAlertWindow.finish caller).Keeps := by
  have hcalls : ∀ call ∈ s.createAlertWindow.calls, call.Fits := by
    refine List.forall_mem_append.mpr ⟨h.life.calls, ?_⟩
    simpa [WindowCall.Fits] using h.creating caller hrequest
  exact .finish hcalls rfl h.pushed (.inl (by rintro ⟨⟩))

theorem Keeps.windowClosed (h : s.Keeps) (hrequest : s.request = some (caller, .closing)) :
    (s.windowClosed.finish caller).Keeps :=
  .finish h.life.calls rfl h.pushed (.inr (h.closing caller hrequest))

/-- The state says what there is of the window, unless it is being created. -/
theorem Keeps.testState (h : s.Keeps) (hrequest : s.request = some (caller, .testing))
    (hawaits : s.alert.alertWindowState_ ≠ .ALERT_WINDOW_ON_CREATION)
    (components : AlertComponents) : (s.testState caller components).Keeps := by
  have howner := h.owner caller .testing hrequest
  have hstate := h.state
  unfold AlertWindow.testState
  split
  · rename_i hactive
    have hnone : s.window = .none := by
      cases hwindow : s.window with
      | none => rfl
      | creating | created | ready => simp_all [WindowLife.state]
    exact { h with
      life := ⟨h.life.calls, h.life.shown⟩
      creating := fun _ _ => hnone
      closing := fun _ hstage => by cases hstage
      drawing := fun _ hstage => by cases hstage
      owner := fun _ _ hstage => by cases hstage; exact howner }
  · rename_i hactive
    have hready : s.window = .ready := by
      cases hwindow : s.window with
      | ready => rfl
      | none | creating | created => simp_all [WindowLife.state]
    split
    · rename_i hempty
      exact {
        life := ⟨List.forall_mem_append.mpr ⟨h.life.calls, by simpa [WindowCall.Fits] using hready⟩,
          h.life.shown⟩
        state := h.state
        creating := fun _ hstage => by cases hstage
        closing := fun _ _ => .inl hempty
        drawing := fun _ hstage => by cases hstage
        pushed := h.pushed
        owner := fun _ _ hstage => by cases hstage; exact howner }
    · split
      · exact .finish h.life.calls h.state h.pushed (.inl (by simp [hready]))
      · exact { h with
          life := ⟨h.life.calls, h.life.shown⟩
          creating := fun _ hstage => by cases hstage
          closing := fun _ hstage => by cases hstage
          drawing := fun _ _ => hready
          owner := fun _ _ hstage => by cases hstage; exact howner }

theorem Keeps.drawRecentAlert (h : s.Keeps) (hrequest : s.request = some (caller, .drawing)) :
    Keeps { s with alert := s.alert.drawRecentAlert caller, request := none } := by
  have hwindow : s.window ≠ .none := by
    rw [h.drawing caller hrequest]
    rintro ⟨⟩
  exact Keeps.finish (s := s.setAlert { s.alert with
    idOfMessageOnDisplay_ := s.alert.alertInfoList_.length
    onDisplay := s.alert.alertInfoList_.getLast?
    displayed := s.alert.displayed ++ s.alert.alertInfoList_.getLast?.toList })
    h.life.calls h.state h.pushed (.inl hwindow)

/-- The window gets on while it is being created. -/
theorem Keeps.advance (h : s.Keeps) {alert : Alert} {window : WindowLife}
    (hwindow : s.window = .creating ∨ s.window = .created) (hnext : window ≠ .none)
    (hstate : alert.alertWindowState_ = window.state)
    (hlist : alert.alertInfoList_ = s.alert.alertInfoList_)
    (howner : alert.listOwner = s.alert.listOwner) :
    Keeps { s with alert := alert, window := window } where
  life := ⟨h.life.calls, fun _ _ => hnext⟩
  state := hstate
  creating caller hrequest := by
    have hnone := h.creating caller hrequest
    simp [hnone] at hwindow
  closing caller hrequest := h.closing_of_eq hlist howner caller hrequest
  drawing caller hrequest := by
    have hready := h.drawing caller hrequest
    simp [hready] at hwindow
  pushed hpush := h.pushed_of_eq hlist howner hpush
  owner caller stage hrequest hcaller := h.owner_of_eq howner caller stage hrequest hcaller

theorem Keeps.step {op : AlertWindowOp} (h : s.Keeps) (hawaits : op.AwaitsWindow s)
    (hstep : AlertWindowStep s op t) : t.Keeps := by
  cases op with
  | showAlert alertData =>
    obtain ⟨alert, halert, rfl⟩ := Option.map_eq_some_iff.mp hstep
    obtain ⟨hfree, ⟨⟩⟩ := Option.ite_none_right_eq_some.mp halert
    exact h.lockList hfree rfl (by rintro ⟨⟩) (fun _ => by simp [Alert.push])
  | onHWKeyHandler keyValue eventKeyAction ownWindow =>
    obtain ⟨-, hstep⟩ := Option.ite_none_right_eq_some.mp hstep
    split at hstep
    · obtain rfl := Option.some.inj hstep
      exact h.setAlert rfl rfl rfl
    · obtain rfl := Option.some.inj hstep
      exact h
  | readIndex =>
    obtain ⟨alert, halert, rfl⟩ := Option.map_eq_some_iff.mp hstep
    cases Alert.exec_branch halert with
    | readIndex hpress => exact h.setAlert rfl rfl rfl
  | removeAlert =>
    obtain ⟨alert, halert, rfl⟩ := Option.map_eq_some_iff.mp hstep
    cases Alert.exec_branch halert with
    | removed hpress hfree => exact h.lockList hfree rfl (by rintro ⟨⟩) (by rintro ⟨⟩)
  | createNativeWindow =>
    obtain ⟨hwindow, ⟨⟩⟩ := Option.ite_none_right_eq_some.mp hstep
    have hstate := h.state
    rw [hwindow] at hstate
    exact h.advance (.inl hwindow) (by rintro ⟨⟩) hstate rfl rfl
  | windowReadyToDrawCB =>
    obtain ⟨⟨hwindow, -⟩, ⟨⟩⟩ := Option.ite_none_right_eq_some.mp hstep
    exact h.advance (.inr hwindow) (by rintro ⟨⟩) rfl rfl rfl
  | triggerRenderRequest caller =>
    obtain ⟨⟨-, hcaller⟩, ⟨⟩⟩ := Option.ite_none_right_eq_some.mp hstep
    obtain ⟨components, hcomponents⟩ := Option.isSome_iff_exists.mp hcaller
    exact { h with
      life := ⟨h.life.calls, h.life.shown⟩
      creating := fun _ hstage => by cases hstage
      closing := fun _ hstage => by cases hstage
      drawing := fun _ hstage => by cases hstage
      owner := fun _ _ hstage hne => by
        cases hstage
        exact (Alert.Keeps.listOwner_of_request hcomponents hne).1 }
  | testState =>
    simp only [AlertWindowStep, AlertWindowOp.exec] at hstep
    split at hstep
    · rename_i caller hrequest
      obtain ⟨components, -, rfl⟩ := Option.map_eq_some_iff.mp hstep
      exact h.testState hrequest (hawaits rfl) components
    · cases hstep
  | createAlertWindow =>
    simp only [AlertWindowStep, AlertWindowOp.exec] at hstep
    split at hstep
    · obtain rfl := Option.some.inj hstep
      exact h.createAlertWindow ‹_›
    · cases hstep
  | windowClosed =>
    simp only [AlertWindowStep, AlertWindowOp.exec] at hstep
    split at hstep
    · obtain rfl := Option.some.inj hstep
      exact h.windowClosed ‹_›
    · cases hstep
  | drawRecentAlert =>
    simp only [AlertWindowStep, AlertWindowOp.exec] at hstep
    split at hstep
    · obtain rfl := Option.some.inj hstep
      exact h.drawRecentAlert ‹_›
    · cases hstep

/-- A request that comes while the window is being created makes `WindowDelegator` start over. -/
theorem starts_over {components : AlertComponents}
    (hrequest : s.request = some (caller, .testing))
    (hcomponents : s.alert.request caller = some components)
    (hstate : s.alert.alertWindowState_ = .ALERT_WINDOW_ON_CREATION) (hwindow : s.window ≠ .none) :
    ∃ t, [AlertWindowOp.testState, .createAlertWindow].foldlM AlertWindowOp.exec s = some t ∧
      ¬ t.OneLife := by
  have htest : AlertWindowOp.testState.exec s =
      some { s with request := some (caller, .creating) } := by
    simp only [AlertWindowOp.exec, hrequest, hcomponents, Option.map_some]
    unfold testState
    rw [if_pos (by simp [hstate])]
  refine ⟨createAlertWindow { s with request := some (caller, .creating) } |>.finish caller, ?_,
    fun hlife => ?_⟩
  · simp only [List.foldlM_cons, List.foldlM_nil, htest, Option.bind_eq_bind, Option.bind_some]
    rfl
  · exact hwindow (hlife.calls (.createWindow s.window)
      (List.mem_append_right _ (List.mem_singleton_self _)))

end AlertWindow

/-- As long as no request comes while the window is being created, it has one life at a time. -/
theorem alertWindowRun_oneLife
    (hrun : Run AlertWindowStep (fun s op => op.AwaitsWindow s) {} s) : s.OneLife := by
  have hkeeps := hrun.invariant (P := AlertWindow.Keeps)
    (fun _ _ _ h hawaits hstep => h.step hawaits hstep) .init
  exact hkeeps.life

/-- An alert until it is drawn. -/
def firstAlert : List AlertWindowOp :=
  [.showAlert ⟨[], []⟩, .triggerRenderRequest .showAlert, .testState, .createAlertWindow,
    .createNativeWindow, .windowReadyToDrawCB,
    .triggerRenderRequest .windowReadyToDrawCB, .testState,
    .triggerRenderRequest .windowReadyToDrawCB, .testState, .drawRecentAlert]

/-- It is dismissed, and its window closed, before the next one comes. -/
def alertsInTurn : List AlertWindowOp :=
  firstAlert ++ [.onHWKeyHandler .RNS_KEY_Select .RNS_KEY_Press true, .readIndex, .removeAlert,
    .triggerRenderRequest .onHWKeyHandler, .testState, .windowClosed, .showAlert ⟨[], []⟩,
    .triggerRenderRequest .showAlert, .testState, .createAlertWindow, .createNativeWindow]

theorem alertWindowRun_oneLife_in_turn : ∃ s : AlertWindow, s.OneLife ∧
    s.calls = [.createWindow .none, .closeWindow .ready, .createWindow .none] := by
  have hfold : (alertsInTurn.foldlM (fun s (op : AlertWindowOp) =>
      if op.AwaitsWindow s then op.exec s else none) {}).map AlertWindow.calls =
        some [.createWindow .none, .closeWindow .ready, .createWindow .none] := by
    decide +kernel
  obtain ⟨s, hrun, hcalls⟩ := Option.map_eq_some_iff.mp hfold
  exact ⟨s, alertWindowRun_oneLife (Run.of_checked_exec hrun), hcalls⟩

/-- Two alerts before the window is ready. -/
def twoAlerts : List AlertWindowOp :=
  [.showAlert ⟨[], []⟩, .triggerRenderRequest .showAlert, .testState, .createAlertWindow,
    .showAlert ⟨[], []⟩, .triggerRenderRequest .showAlert, .testState, .createAlertWindow]

theorem window_created_twice : ¬ ∀ s : AlertWindow, Run AlertWindowStep anyStep {} s →
    s.OneLife := by
  intro hall
  have hfold : (twoAlerts.foldlM AlertWindowOp.exec {}).map AlertWindow.calls =
      some [.createWindow .none, .createWindow .creating] := by
    decide +kernel
  obtain ⟨s, hrun, hcalls⟩ := Option.map_eq_some_iff.mp hfold
  have hfits := (hall s (Run.of_exec hrun)).calls (.createWindow .creating)
    (by simp [hcalls])
  cases hfits

end ReactNativeSkia
