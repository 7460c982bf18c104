import ReactNativeSkia.Misc.Run
import ReactNativeSkia.Sdk.Alert

/-!
# The alert that a press dismisses

The position remembered at the last draw is that of the displayed alert, which is the last one,
as long as the list does not grow. A push between the press and its removal makes the removal
count from the wrong end.
-/

namespace ReactNativeSkia

/-- The list loses the alert that was on display, and no other. -/
def Dismissal.RemovesShown (d : Dismissal) : Prop :=
  ∃ early alert late, d.onDisplay = some alert ∧ d.before = early ++ alert :: late ∧
    d.after = early ++ late

namespace Alert

/-- Each press removes the alert on display, and no alert leaves the list before it has been
displayed. -/
def DismissesShown (s : Alert) : Prop :=
  (∀ d ∈ s.dismissals, d.RemovesShown) ∧
    ∀ alert ∈ s.shown, alert ∈ s.alertInfoList_ ∨ alert ∈ s.displayed

end Alert

/-- No alert is pushed while a press waits for the list. A press comes when the last alert that was
pushed has been drawn, in a window that shows one. -/
def AlertOp.Undisturbed (s : Alert) : AlertOp → Prop
  | showAlert _ => s.msgPendingToBeChanged_ = false
  | onHWKeyHandler keyValue eventKeyAction ownWindow =>
    s.handles keyValue eventKeyAction ownWindow = true →
      s.listOwner ≠ some .showAlert ∧ s.onDisplay ≠ none
  | _ => True

instance (s : Alert) (op : AlertOp) : Decidable (op.Undisturbed s) := by
  cases op <;> unfold AlertOp.Undisturbed <;> infer_instance

namespace Alert

/-- What each step does. -/
inductive Branch (s : Alert) : AlertOp → Alert → Prop
  | showAlert (alertData : AlertInfo) (howner : s.listOwner = none) :
    Branch s (.showAlert alertData) (s.push alertData)
  | ignored (keyValue : RnsKey) (eventKeyAction : RnsKeyAction) (ownWindow : Bool) :
    Branch s (.onHWKeyHandler keyValue eventKeyAction ownWindow) s
  | handled {keyValue : RnsKey} {eventKeyAction : RnsKeyAction} {ownWindow : Bool}
    (hpress : s.press = none) (hhandles : s.handles keyValue eventKeyAction ownWindow = true) :
    Branch s (.onHWKeyHandler keyValue eventKeyAction ownWindow) s.handlePress
  | readIndex {onDisplay : Option ShownAlert} (hpress : s.press = some ⟨.pending, onDisplay⟩) :
    Branch s .readIndex
      (s.setStage ⟨.pending, onDisplay⟩ (.locking s.idOfMessageOnDisplay_.toNat))
  | removed {msgIndex : Nat} {onDisplay : Option ShownAlert}
    (hpress : s.press = some ⟨.locking msgIndex, onDisplay⟩) (howner : s.listOwner = none) :
    Branch s .removeAlert (s.remove ⟨.locking msgIndex, onDisplay⟩ msgIndex)
  | ready (hstate : s.alertWindowState_ = .ALERT_WINDOW_ON_CREATION) :
    Branch s .windowReadyToDrawCB { s with
      alertWindowState_ := .ALERT_WINDOW_ACTIVE
      ready := [.ALERT_BACKGROUND, .ALERT_TITLE_AND_MESSAGE] }
  | noWindow {caller : AlertCaller} {components : AlertComponents}
    (hrequest : s.request caller = some components)
    (hstate : s.alertWindowState_ ≠ .ALERT_WINDOW_ACTIVE) :
    Branch s (.triggerRenderRequest caller)
      ({ s with alertWindowState_ := .ALERT_WINDOW_ON_CREATION }.finish caller)
  | closed {caller : AlertCaller} {components : AlertComponents}
    (hrequest : s.request caller = some components) (hdrawing : s.drawing = none)
    (hlist : s.alertInfoList_ = []) :
    Branch s (.triggerRenderRequest caller) (s.closeWindow.finish caller)
  | notDrawn {caller : AlertCaller} {components : AlertComponents}
    (hrequest : s.request caller = some components)
    (hdraws : components = .ALERT_BACKGROUND ∨ s.msgPendingToBeChanged_ = true) :
    Branch s (.triggerRenderRequest caller) (s.finish caller)
  | draws {caller : AlertCaller} {components : AlertComponents}
    (hrequest : s.request caller = some components)
    (hstate : s.alertWindowState_ = .ALERT_WINDOW_ACTIVE) :
    Branch s (.triggerRenderRequest caller) { s with drawing := some caller }
  | drawn {caller : AlertCaller} (hdrawing : s.drawing = some caller) :
    Branch s .drawRecentAlert (s.drawRecentAlert caller)

theorem exec_branch {s t : Alert} {op : AlertOp} (h : op.exec s = some t) : Branch s op t := by
  cases op with
  | showAlert alertData =>
    simp only [AlertOp.exec] at h
    split at h
    · rename_i howner
      cases h
      exact .showAlert alertData howner
    · cases h
  | onHWKeyHandler keyValue eventKeyAction ownWindow =>
    simp only [AlertOp.exec] at h
    split at h
    · rename_i hpress
      split at h
      · rename_i hhandles
        cases h
        exact .handled hpress.1 hhandles
      · cases h
        exact .ignored keyValue eventKeyAction ownWindow
    · cases h
  | readIndex =>
    simp only [AlertOp.exec] at h
    split at h
    · rename_i onDisplay hpress
      cases h
      exact .readIndex hpress
    · cases h
  | removeAlert =>
    simp only [AlertOp.exec] at h
    split at h
    · rename_i msgIndex onDisplay hpress howner
      cases h
      exact .removed hpress howner
    · cases h
  | windowReadyToDrawCB =>
    simp only [AlertOp.exec] at h
    split at h
    · rename_i hstate
      cases h
      exact .ready hstate.1
    · cases h
  | triggerRenderRequest caller =>
    simp only [AlertOp.exec] at h
    split at h
    · rename_i components hdrawing hrequest
      cases h
      unfold triggerRenderRequest
      split
      · rename_i hstate
        exact .noWindow hrequest hstate
      · rename_i hstate
        split
        · rename_i hlist
          exact .closed hrequest hdrawing hlist
        · split
          · rename_i hdraws
            exact .notDrawn hrequest hdraws
          · exact .draws hrequest (not_not.mp hstate)
    · cases h
  | drawRecentAlert =>
    simp only [AlertOp.exec] at h
    split at h
    · rename_i caller hdrawing
      cases h
      exact .drawn hdrawing
    · cases h

/-! ## The end of a request -/

section

variable (s : Alert) (caller : AlertCaller)

@[simp] theorem finish_alertInfoList_ : (s.finish caller).alertInfoList_ = s.alertInfoList_ := by
  cases caller <;> rfl

@[simp] theorem finish_idOfMessageOnDisplay_ :
    (s.finish caller).idOfMessageOnDisplay_ = s.idOfMessageOnDisplay_ := by
  cases caller <;> rfl

@[simp] theorem finish_msgPendingToBeChanged_ :
    (s.finish caller).msgPendingToBeChanged_ = s.msgPendingToBeChanged_ := by
  cases caller <;> rfl

@[simp] theorem finish_alertWindowState_ :
    (s.finish caller).alertWindowState_ = s.alertWindowState_ := by
  cases caller <;> rfl

@[simp] theorem finish_drawing : (s.finish caller).drawing = none := by
  cases caller <;> rfl

@[simp] theorem finish_onDisplay : (s.finish caller).onDisplay = s.onDisplay := by
  cases caller <;> rfl

@[simp] theorem finish_shown : (s.finish caller).shown = s.shown := by
  cases caller <;> rfl

@[simp] theorem finish_displayed : (s.finish caller).displayed = s.displayed := by
  cases caller <;> rfl

@[simp] theorem finish_dismissals : (s.finish caller).dismissals = s.dismissals := by
  cases caller <;> rfl

end

theorem finish_press {s : Alert} {caller : AlertCaller} {press : AlertPress}
    (h : (s.finish caller).press = some press) :
    s.press = some press ∧ caller ≠ .onHWKeyHandler := by
  cases caller with
  | showAlert => exact ⟨h, by rintro ⟨⟩⟩
  | onHWKeyHandler => cases h
  | windowReadyToDrawCB => exact ⟨h, by rintro ⟨⟩⟩

theorem finish_owner {s : Alert} (caller : AlertCaller)
    (h : s.listOwner ≠ none → s.listOwner = some .showAlert ∨ s.press ≠ none) :
    (s.finish caller).listOwner ≠ none →
      (s.finish caller).listOwner = some .showAlert ∨ (s.finish caller).press ≠ none := by
  cases caller with
  | showAlert => exact fun hlocked => absurd rfl hlocked
  | onHWKeyHandler => exact fun hlocked => absurd rfl hlocked
  | windowReadyToDrawCB => exact h

theorem finish_listOwner {s : Alert} (caller : AlertCaller) (h : s.listOwner = none) :
    (s.finish caller).listOwner = none := by
  cases caller with
  | showAlert => rfl
  | onHWKeyHandler => rfl
  | windowReadyToDrawCB => exact h

/-! ## The displayed alert -/

/-- A press that waits for the list. -/
structure Waits (s : Alert) (press : AlertPress) : Prop where
  onDisplay : press.onDisplay = s.onDisplay
  shows : s.onDisplay ≠ none
  listOwner : s.listOwner = none
  pending : s.msgPendingToBeChanged_ = true
  msgIndex : ∀ msgIndex, press.stage = .locking msgIndex → msgIndex = s.alertInfoList_.length

/-- What holds besides in a run that meets the condition. -/
structure Keeps (s : Alert) : Prop where
  shown : s.DismissesShown
  active : s.onDisplay ≠ none → s.alertWindowState_ = .ALERT_WINDOW_ACTIVE
  displayed : ∀ alert, s.onDisplay = some alert → alert ∈ s.displayed
  /-- The displayed alert is the last one. -/
  last : s.listOwner = none → ∀ alert, s.onDisplay = some alert →
    s.alertInfoList_.getLast? = some alert ∧ s.idOfMessageOnDisplay_ = s.alertInfoList_.length
  waits : ∀ press, s.press = some press → press.stage ≠ .removed → s.Waits press
  pending : s.msgPendingToBeChanged_ = true →
    ∃ press, s.press = some press ∧ press.stage ≠ .removed
  owner : s.listOwner ≠ none → s.listOwner = some .showAlert ∨ s.press ≠ none
  drawing : s.drawing = some .onHWKeyHandler → s.listOwner = some .onHWKeyHandler
  drawn : s.drawing ≠ none → s.alertWindowState_ = .ALERT_WINDOW_ACTIVE

namespace Keeps

variable {s : Alert} {caller : AlertCaller}

theorem listOwner_of_pending (h : s.Keeps) (hpending : s.msgPendingToBeChanged_ = true) :
    s.listOwner = none := by
  obtain ⟨press, hpress, hstage⟩ := h.pending hpending
  exact (h.waits press hpress hstage).listOwner

/-- The list is not empty while an alert is displayed and nobody has it locked. -/
theorem alertInfoList_ne_nil (h : s.Keeps) (howner : s.listOwner = none)
    (hshows : s.onDisplay ≠ none) : s.alertInfoList_ ≠ [] := by
  obtain ⟨alert, halert⟩ := Option.ne_none_iff_exists'.mp hshows
  intro hnil
  have hlast := (h.last howner alert halert).1
  rw [hnil] at hlast
  cases hlast

/-- The index is that of the last alert, which goes. -/
theorem remove_eq (h : s.Keeps) {msgIndex : Nat} {onDisplay : Option ShownAlert}
    (hpress : s.press = some ⟨.locking msgIndex, onDisplay⟩) :
    ∃ early alert, onDisplay = some alert ∧ s.onDisplay = some alert ∧
      s.alertInfoList_ = early ++ [alert] ∧ s.removeAlertFromAlertList msgIndex = early := by
  have hwaits := h.waits _ hpress (by rintro ⟨⟩)
  obtain ⟨alert, halert⟩ := Option.ne_none_iff_exists'.mp hwaits.shows
  obtain ⟨hlast, hid⟩ := h.last hwaits.listOwner alert halert
  obtain ⟨early, hlist⟩ := List.getLast?_eq_some_iff.mp hlast
  refine ⟨early, alert, hwaits.onDisplay.trans halert, halert, hlist, ?_⟩
  have hindex : msgIndex = s.alertInfoList_.length := hwaits.msgIndex msgIndex rfl
  have hremoves : ¬(s.alertInfoList_ = [] ∨ s.alertInfoList_.length < msgIndex) := by
    rw [hindex, hlist]
    simp
  unfold removeAlertFromAlertList
  rw [if_neg hremoves, if_pos hid.symm, hlist, List.dropLast_concat]

/-- A caller that ends without a draw. -/
theorem finish (h : s.Keeps)
    (hlast : s.listOwner ≠ none → caller ≠ .windowReadyToDrawCB → s.onDisplay = none)
    (hpending : caller = .onHWKeyHandler → s.msgPendingToBeChanged_ = false) :
    (s.finish caller).Keeps where
  shown := by simpa only [DismissesShown, finish_dismissals, finish_shown, finish_alertInfoList_,
    finish_displayed] using h.shown
  active := by simpa only [finish_onDisplay, finish_alertWindowState_] using h.active
  displayed := by simpa only [finish_onDisplay, finish_displayed] using h.displayed
  last howner alert halert := by
    rw [finish_onDisplay] at halert
    rw [finish_alertInfoList_, finish_idOfMessageOnDisplay_]
    refine h.last ?_ alert halert
    by_contra hlocked
    cases caller with
    | showAlert => exact absurd (hlast hlocked (by rintro ⟨⟩)) (by simp [halert])
    | onHWKeyHandler => exact absurd (hlast hlocked (by rintro ⟨⟩)) (by simp [halert])
    | windowReadyToDrawCB => exact hlocked howner
  waits press hpress hstage := by
    have hwaits := h.waits press (finish_press hpress).1 hstage
    exact {
      onDisplay := by rw [finish_onDisplay]; exact hwaits.onDisplay
      shows := by rw [finish_onDisplay]; exact hwaits.shows
      listOwner := finish_listOwner caller hwaits.listOwner
      pending := by rw [finish_msgPendingToBeChanged_]; exact hwaits.pending
      msgIndex := by rw [finish_alertInfoList_]; exact hwaits.msgIndex }
  pending hset := by
    rw [finish_msgPendingToBeChanged_] at hset
    cases caller with
    | showAlert => exact h.pending hset
    | onHWKeyHandler => exact absurd hset (by simp [hpending rfl])
    | windowReadyToDrawCB => exact h.pending hset
  owner := finish_owner caller h.owner
  drawing hdrawing := by
    rw [finish_drawing] at hdrawing
    cases hdrawing
  drawn hdrawing := absurd (finish_drawing s caller) hdrawing

/-- The caller of a request has the list locked, unless the window is new. -/
theorem listOwner_of_request {components : AlertComponents}
    (hrequest : s.request caller = some components) (hcaller : caller ≠ .windowReadyToDrawCB) :
    s.listOwner = some caller ∧ components = .ALERT_TITLE_AND_MESSAGE := by
  cases caller with
  | showAlert =>
    simp only [request, Option.ite_none_right_eq_some, Option.some.injEq] at hrequest
    exact ⟨hrequest.1, hrequest.2.symm⟩
  | onHWKeyHandler =>
    simp only [request, Option.ite_none_right_eq_some, Option.some.injEq] at hrequest
    exact ⟨hrequest.1, hrequest.2.symm⟩
  | windowReadyToDrawCB => exact absurd rfl hcaller

theorem not_pending_of_request (h : s.Keeps) {components : AlertComponents}
    (hrequest : s.request caller = some components) (hcaller : caller ≠ .windowReadyToDrawCB) :
    s.msgPendingToBeChanged_ = false := by
  by_contra hpending
  have howner := h.listOwner_of_pending (Bool.of_not_eq_false hpending)
  rw [(listOwner_of_request hrequest hcaller).1] at howner
  cases howner

/-- Drawing makes the last alert the displayed one. -/
theorem drawRecentAlert (h : s.Keeps) (hdrawing : s.drawing = some caller) :
    (s.drawRecentAlert caller).Keeps where
  shown := by
    refine ⟨by simpa only [Alert.drawRecentAlert, finish_dismissals] using h.shown.1, ?_⟩
    intro alert halert
    simp only [Alert.drawRecentAlert, finish_shown] at halert
    simp only [Alert.drawRecentAlert, finish_alertInfoList_, finish_displayed]
    exact (h.shown.2 alert halert).imp_right fun hd => List.mem_append_left _ hd
  active _ := by
    simp only [Alert.drawRecentAlert, finish_alertWindowState_]
    exact h.drawn (by simp [hdrawing])
  displayed alert halert := by
    simp only [Alert.drawRecentAlert, finish_onDisplay] at halert
    simp only [Alert.drawRecentAlert, finish_displayed, halert]
    exact List.mem_append_right _ (List.mem_singleton.mpr rfl)
  last _ alert halert := by
    simp only [Alert.drawRecentAlert, finish_onDisplay] at halert
    simp only [Alert.drawRecentAlert, finish_alertInfoList_, finish_idOfMessageOnDisplay_]
    exact ⟨halert, trivial⟩
  waits press hpress hstage := by
    have hwaits := h.waits press (finish_press hpress).1 hstage
    obtain ⟨alert, halert⟩ := Option.ne_none_iff_exists'.mp hwaits.shows
    have hlast := (h.last hwaits.listOwner alert halert).1
    simp only [Alert.drawRecentAlert]
    exact {
      onDisplay := by rw [finish_onDisplay, hwaits.onDisplay, halert]; exact hlast.symm
      shows := by rw [finish_onDisplay]; simp [hlast]
      listOwner := finish_listOwner caller hwaits.listOwner
      pending := by rw [finish_msgPendingToBeChanged_]; exact hwaits.pending
      msgIndex := by rw [finish_alertInfoList_]; exact hwaits.msgIndex }
  pending hset := by
    simp only [Alert.drawRecentAlert, finish_msgPendingToBeChanged_] at hset
    have howner := h.listOwner_of_pending hset
    cases caller with
    | showAlert => exact h.pending hset
    | onHWKeyHandler =>
      rw [h.drawing hdrawing] at howner
      cases howner
    | windowReadyToDrawCB => exact h.pending hset
  owner := finish_owner caller h.owner
  drawing hdraws := by
    simp only [Alert.drawRecentAlert, finish_drawing] at hdraws
    cases hdraws
  drawn hdraws := absurd (finish_drawing _ caller) hdraws

theorem push (h : s.Keeps) (alertData : AlertInfo)
    (hpending : s.msgPendingToBeChanged_ = false) (howner : s.listOwner = none) :
    (s.push alertData).Keeps where
  shown := by
    refine ⟨h.shown.1, fun alert halert => ?_⟩
    rcases List.mem_append.mp halert with halert | halert
    · exact (h.shown.2 alert halert).imp_left fun hl => List.mem_append_left _ hl
    · exact .inl (List.mem_append_right _ halert)
  active := h.active
  displayed := h.displayed
  last hnone := by cases hnone
  waits press hpress hstage := by
    have hwaiting := (h.waits press hpress hstage).pending
    rw [hpending] at hwaiting
    cases hwaiting
  pending := h.pending
  owner _ := .inl rfl
  drawing hdrawing := by
    rw [h.drawing hdrawing] at howner
    cases howner
  drawn := h.drawn

theorem remove (h : s.Keeps) {msgIndex : Nat} {onDisplay : Option ShownAlert}
    (hpress : s.press = some ⟨.locking msgIndex, onDisplay⟩) :
    (s.remove ⟨.locking msgIndex, onDisplay⟩ msgIndex).Keeps := by
  obtain ⟨early, alert, rfl, hshows, hlist, hafter⟩ := h.remove_eq hpress
  exact {
    shown := by
      constructor
      · intro d hd
        rcases List.mem_append.mp hd with hd | hd
        · exact h.shown.1 d hd
        · obtain rfl := List.mem_singleton.mp hd
          exact ⟨early, alert, [], rfl, hlist, hafter.trans (List.append_nil _).symm⟩
      · intro other hother
        simp only [Alert.remove, setStage] at hother ⊢
        rcases h.shown.2 other hother with hin | hdisplayed
        · rw [hlist] at hin
          rcases List.mem_append.mp hin with hin | hin
          · exact .inl (hafter ▸ hin)
          · obtain rfl := List.mem_singleton.mp hin
            exact .inr (h.displayed other hshows)
        · exact .inr hdisplayed
    active := h.active
    displayed := h.displayed
    last := by
      intro hnone
      cases hnone
    waits := by
      intro press hstage
      obtain rfl := Option.some.inj hstage
      exact fun hstage => absurd rfl hstage
    pending := by
      intro hset
      cases hset
    owner := by
      intro
      exact .inr (Option.some_ne_none _)
    drawing := by
      intro
      rfl
    drawn := h.drawn }

theorem handlePress (h : s.Keeps) (hpress : s.press = none)
    (howner : s.listOwner ≠ some .showAlert) (hshows : s.onDisplay ≠ none) :
    s.handlePress.Keeps where
  shown := h.shown
  active := h.active
  displayed := h.displayed
  last := h.last
  waits press hwaiting _ := by
    obtain rfl := Option.some.inj hwaiting
    exact {
      onDisplay := rfl
      shows := hshows
      listOwner := by
        by_contra hlocked
        exact (h.owner hlocked).elim howner fun hne => hne hpress
      pending := rfl
      msgIndex := by rintro _ ⟨⟩ }
  pending _ := ⟨_, rfl, by rintro ⟨⟩⟩
  owner _ := .inr (Option.some_ne_none _)
  drawing := h.drawing
  drawn := h.drawn

theorem readIndex (h : s.Keeps) {onDisplay : Option ShownAlert}
    (hpress : s.press = some ⟨.pending, onDisplay⟩) :
    (s.setStage ⟨.pending, onDisplay⟩ (.locking s.idOfMessageOnDisplay_.toNat)).Keeps where
  shown := h.shown
  active := h.active
  displayed := h.displayed
  last := h.last
  waits press hreads _ := by
    have hwaits := h.waits _ hpress (by rintro ⟨⟩)
    obtain ⟨alert, halert⟩ := Option.ne_none_iff_exists'.mp hwaits.shows
    have hid := (h.last hwaits.listOwner alert halert).2
    obtain rfl := Option.some.inj hreads
    exact {
      onDisplay := hwaits.onDisplay
      shows := hwaits.shows
      listOwner := hwaits.listOwner
      pending := hwaits.pending
      msgIndex := by
        rintro msgIndex ⟨⟩
        exact congrArg Int.toNat hid }
  pending _ := ⟨_, rfl, by rintro ⟨⟩⟩
  owner _ := .inr (Option.some_ne_none _)
  drawing := h.drawing
  drawn := h.drawn

theorem windowReady (h : s.Keeps) : Keeps { s with
    alertWindowState_ := .ALERT_WINDOW_ACTIVE
    ready := [.ALERT_BACKGROUND, .ALERT_TITLE_AND_MESSAGE] } where
  shown := h.shown
  active _ := rfl
  displayed := h.displayed
  last := h.last
  waits press hpress hstage := { h.waits press hpress hstage with }
  pending := h.pending
  owner := h.owner
  drawing := h.drawing
  drawn _ := rfl

/-- Without a window nothing is displayed. -/
theorem noWindow (h : s.Keeps) (hstate : s.alertWindowState_ ≠ .ALERT_WINDOW_ACTIVE) :
    Keeps { s with alertWindowState_ := .ALERT_WINDOW_ON_CREATION } where
  shown := h.shown
  active hshows := absurd (h.active hshows) hstate
  displayed := h.displayed
  last := h.last
  waits press hpress hstage := { h.waits press hpress hstage with }
  pending := h.pending
  owner := h.owner
  drawing := h.drawing
  drawn hdrawing := absurd (h.drawn hdrawing) hstate

/-- Nobody waits when the last alert has been dismissed. -/
theorem closeWindow (h : s.Keeps) (hdrawing : s.drawing = none) (hlist : s.alertInfoList_ = []) :
    s.closeWindow.Keeps where
  shown := h.shown
  active hshows := absurd rfl hshows
  displayed := by rintro _ ⟨⟩
  last := by rintro _ _ ⟨⟩
  waits press hpress hstage := by
    have hwaits := h.waits press hpress hstage
    exact absurd hlist (h.alertInfoList_ne_nil hwaits.listOwner hwaits.shows)
  pending := h.pending
  owner := h.owner
  drawing := h.drawing
  drawn hdraws := absurd hdrawing hdraws

theorem startDrawing (h : s.Keeps) {components : AlertComponents}
    (hrequest : s.request caller = some components)
    (hstate : s.alertWindowState_ = .ALERT_WINDOW_ACTIVE) :
    Keeps { s with drawing := some caller } where
  shown := h.shown
  active := h.active
  displayed := h.displayed
  last := h.last
  waits press hpress hstage := { h.waits press hpress hstage with }
  pending := h.pending
  owner := h.owner
  drawing hdrawing := by
    obtain rfl := Option.some.inj hdrawing
    exact (listOwner_of_request hrequest (by rintro ⟨⟩)).1
  drawn _ := hstate

theorem step (h : s.Keeps) {op : AlertOp} {t : Alert} (hok : op.Undisturbed s)
    (hexec : op.exec s = some t) : t.Keeps := by
  cases exec_branch hexec with
  | showAlert alertData howner => exact h.push alertData hok howner
  | ignored keyValue eventKeyAction ownWindow => exact h
  | handled hpress hhandles =>
    obtain ⟨howner, hshows⟩ := hok hhandles
    exact h.handlePress hpress howner hshows
  | readIndex hpress => exact h.readIndex hpress
  | removed hpress howner => exact h.remove hpress
  | ready hstate => exact h.windowReady
  | noWindow hrequest hstate =>
    refine (h.noWindow hstate).finish (fun _ _ => ?_) fun hcaller => ?_
    · by_contra hshows
      exact hstate (h.active hshows)
    · exact h.not_pending_of_request hrequest (by simp [hcaller])
  | closed hrequest hdrawing hlist =>
    refine (h.closeWindow hdrawing hlist).finish (fun _ _ => rfl) fun hcaller => ?_
    exact h.not_pending_of_request hrequest (by simp [hcaller])
  | notDrawn hrequest hdraws =>
    refine h.finish (fun _ hcaller => ?_) fun hcaller => ?_
    · -- a caller that has the list locked asks for the message, and no press is waiting
      obtain ⟨-, rfl⟩ := listOwner_of_request hrequest hcaller
      rcases hdraws with ⟨⟨⟩⟩ | hpending
      rw [h.not_pending_of_request hrequest hcaller] at hpending
      cases hpending
    · exact h.not_pending_of_request hrequest (by simp [hcaller])
  | draws hrequest hstate => exact h.startDrawing hrequest hstate
  | drawn hdrawing => exact h.drawRecentAlert hdrawing

theorem init : Keeps {} where
  shown := ⟨by rintro _ ⟨⟩, by rintro _ ⟨⟩⟩
  active hshows := absurd rfl hshows
  displayed := by rintro _ ⟨⟩
  last := by rintro _ _ ⟨⟩
  waits := by rintro _ ⟨⟩
  pending := by rintro ⟨⟩
  owner hlocked := absurd rfl hlocked
  drawing := by rintro ⟨⟩
  drawn hdrawing := absurd rfl hdrawing

end Keeps

/-- Whatever the order of calls and presses, a press dismisses the alert on display, if no alert is
pushed while it waits, and it comes while the last alert is on display. -/
theorem alertRun_dismissesShown {s : Alert} (hrun : Run AlertStep AlertOp.Undisturbed {} s) :
    s.DismissesShown := by
  have hkeeps : s.Keeps := by
    refine hrun.invariant (P := Keeps) ?_ Keeps.init
    intro t op u ht hok hstep
    exact ht.step hok hstep
  exact hkeeps.shown

/-- Select, pressed in the alert window. -/
def select : AlertOp := .onHWKeyHandler .RNS_KEY_Select .RNS_KEY_Press true

/-- The first alert is shown when the window is ready. -/
def showFirst : List AlertOp :=
  [.showAlert ⟨chars "title", chars "first"⟩, .triggerRenderRequest .showAlert,
    .windowReadyToDrawCB, .triggerRenderRequest .windowReadyToDrawCB,
    .triggerRenderRequest .windowReadyToDrawCB, .drawRecentAlert]

/-- Of two alerts the second is dismissed, and then the first, which closes the window. -/
theorem alertRun_dismissesShown_two : ∃ s : Alert, s.DismissesShown ∧
    s.dismissals.map (fun d => (d.before.map (·.call), d.after.map (·.call))) =
      [([0, 1], [0]), ([0], [])] ∧ s.alertWindowState_ = .ALERT_WINDOW_DESTRUCTED := by
  have hfold : ((showFirst ++ [.showAlert ⟨[], chars "second"⟩, .triggerRenderRequest .showAlert,
      .drawRecentAlert, select, .readIndex, .removeAlert,
      .triggerRenderRequest .onHWKeyHandler, .drawRecentAlert, select, .readIndex,
      .removeAlert, .triggerRenderRequest .onHWKeyHandler]).foldlM
        (fun s (op : AlertOp) => if op.Undisturbed s then op.exec s else none) {}).map
          (fun s => (s.dismissals.map (fun d => (d.before.map (·.call), d.after.map (·.call))),
            s.alertWindowState_)) =
        some ([([0, 1], [0]), ([0], [])], .ALERT_WINDOW_DESTRUCTED) := by
    decide +kernel
  obtain ⟨s, hrun, hs⟩ := Option.map_eq_some_iff.mp hfold
  obtain ⟨hdismissals, hstate⟩ := Prod.mk.inj hs
  exact ⟨s, alertRun_dismissesShown (Run.of_checked_exec hrun), hdismissals,
    hstate⟩

/-- An alert that is pushed between a press and its removal goes unseen. -/
theorem not_dismissesShown_of_push :
    ¬ ∀ s : Alert, Run AlertStep anyStep {} s → s.DismissesShown := by
  intro hall
  have hfold : ((showFirst ++ [select, .showAlert ⟨[], chars "second"⟩,
      .triggerRenderRequest .showAlert, .readIndex, .removeAlert]).foldlM AlertOp.exec {}).map
        (fun s => (s.shown.map (·.call), s.alertInfoList_.map (·.call),
          s.displayed.map (·.call))) = some ([0, 1], [0], [0]) := by
    decide +kernel
  obtain ⟨s, hrun, hs⟩ := Option.map_eq_some_iff.mp hfold
  simp only [Prod.mk.injEq] at hs
  obtain ⟨hshown, hlist, hdisplayed⟩ := hs
  have hkept := (hall s (Run.of_exec hrun)).2
  obtain ⟨second, hsecond, hcall⟩ : ∃ alert ∈ s.shown, alert.call = 1 :=
    List.mem_map.mp (hshown ▸ by decide)
  have hin (alerts : List ShownAlert) (h0 : alerts.map (·.call) = [0]) : second ∉ alerts := by
    intro hmem
    have := List.mem_map_of_mem (f := (·.call)) hmem
    rw [h0, hcall] at this
    exact absurd this (by decide)
  exact (hkept second hsecond).elim (hin _ hlist) (hin _ hdisplayed)

end Alert

end ReactNativeSkia
