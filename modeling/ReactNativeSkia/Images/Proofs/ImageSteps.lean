import ReactNativeSkia.Misc.Run
import ReactNativeSkia.Images.ComponentImage

/-!
# Steps of the image component

What each step leads to, and what it leaves alone.
-/

namespace ReactNativeSkia

/-- No update is about to change the source. -/
def ComponentImage.sourceStays (s : ComponentImage) : Bool := s.update.all fun uri => uri = s.source

namespace ComponentImage

theorem sourceStays_iff {s : ComponentImage} :
    s.sourceStays = true ↔ ∀ uri, s.update = some uri → uri = s.source := by
  simp [sourceStays, Option.all_eq_true]

theorem eq_of_not_changes {s : ComponentImage} {uri : String} {forceUpdate : Bool}
    (h : s.changes uri forceUpdate = false) : uri = s.source := by
  simp only [changes, Bool.or_eq_false_iff, decide_eq_false_iff_not, not_not] at h
  exact h.2.symm

/-- What each step does. -/
inductive Branch (s : ComponentImage) : ImageOp → ComponentImage → Prop
  | kept {uri : String} {forceUpdate : Bool} (hchanges : s.changes uri forceUpdate = false) :
    Branch s (.updateComponentProps uri forceUpdate) { s with update := some uri }
  | changed {uri : String} {forceUpdate : Bool} (hchanges : s.changes uri forceUpdate = true) :
    Branch s (.updateComponentProps uri forceUpdate) { s.changeSource with update := some uri }
  | assigned {uri : String} (hupdate : s.update = some uri) :
    Branch s .assignProps { s with source := uri, update := none }
  | painted {image : String} (himage : s.networkImageData_ = some image) :
    Branch s .paint { s with drawn := s.drawn ++ [(s.source, image)] }
  | requested (hflag : s.isRequestInProgress_ = false) :
    Branch s .requestNetworkImageData s.makeRequest
  | sends {request : Nat} {r : ImageRequest} {result : ImageSendResult} (hsending : s.sending ≠ 0)
    (hremote : s.remoteCurlRequest_ = some request) (hr : s.requests[request]? = some r) :
    Branch s (.sendRequest result) (s.sendRequest request r result)
  | inProgress (hsent : s.sent ≠ 0) :
    Branch s .setInProgress { s with isRequestInProgress_ := true, sent := s.sent - 1 }
  | header {request : Nat} {cacheControl : Bool} (hstage : s.stage request = some .transferring) :
    Branch s (.header request cacheControl) (s.headerCallback cacheControl)
  | provided {request : Nat} {cacheControl : Bool}
    (hstage : s.stage request = some (.provided cacheControl)) :
    Branch s (.provideHeader request) ((s.headerCallback cacheControl).setStage request .received)
  | finished {request : Nat} (hstage : s.stage request = some .transferring) :
    Branch s (.finishTransfer request) (s.setStage request .received)
  | reads {request : Nat} (hstage : s.stage request = some .received) :
    Branch s (.readProps request) (s.setStage request (.processing s.source))
  | processed {request : Nat} {decoded : Bool} {source : String}
    (hstage : s.stage request = some (.processing source)) :
    Branch s (.processImageData request decoded) (s.processImageData request source decoded)
  | reset {request : Nat} (hstage : s.stage request = some .processed) :
    Branch s (.resetInProgress request)
      { s.setStage request .ending with isRequestInProgress_ := false }
  | ended {request : Nat} (hstage : s.stage request = some .ending) :
    Branch s (.resetRequest request)
      { s.setStage request .completed with remoteCurlRequest_ := none }

theorem exec_branch {s t : ComponentImage} {op : ImageOp} (h : op.exec s = some t) :
    Branch s op t := by
  cases op with
  | updateComponentProps uri forceUpdate =>
    obtain ⟨-, h⟩ := Option.ite_none_right_eq_some.mp h
    cases h
    unfold updateComponentProps
    split
    · rename_i hchanges
      exact .changed hchanges
    · rename_i hchanges
      exact .kept (Bool.of_not_eq_true hchanges)
  | assignProps =>
    obtain ⟨uri, hupdate, rfl⟩ := Option.map_eq_some_iff.mp h
    exact .assigned hupdate
  | paint =>
    obtain ⟨image, himage, rfl⟩ := Option.map_eq_some_iff.mp h
    exact .painted himage
  | requestNetworkImageData =>
    obtain ⟨⟨-, hflag⟩, h⟩ := Option.ite_none_right_eq_some.mp h
    cases h
    exact .requested hflag
  | sendRequest result =>
    obtain ⟨hsending, h⟩ := Option.ite_none_right_eq_some.mp h
    obtain ⟨request, hremote, h⟩ := Option.bind_eq_some_iff.mp h
    obtain ⟨r, hr, h⟩ := Option.bind_eq_some_iff.mp h
    cases h
    exact .sends hsending hremote hr
  | setInProgress =>
    obtain ⟨hsent, h⟩ := Option.ite_none_right_eq_some.mp h
    cases h
    exact .inProgress hsent
  | header request cacheControl =>
    obtain ⟨hstage, h⟩ := Option.ite_none_right_eq_some.mp h
    cases h
    exact .header hstage
  | provideHeader request =>
    simp only [ImageOp.exec] at h
    split at h
    · rename_i cacheControl hstage
      cases h
      exact .provided hstage
    · cases h
  | finishTransfer request =>
    obtain ⟨hstage, h⟩ := Option.ite_none_right_eq_some.mp h
    cases h
    exact .finished hstage
  | readProps request =>
    obtain ⟨hstage, h⟩ := Option.ite_none_right_eq_some.mp h
    cases h
    exact .reads hstage
  | processImageData request decoded =>
    simp only [ImageOp.exec] at h
    split at h
    · rename_i source hstage
      cases h
      exact .processed hstage
    · cases h
  | resetInProgress request =>
    obtain ⟨hstage, h⟩ := Option.ite_none_right_eq_some.mp h
    cases h
    exact .reset hstage
  | resetRequest request =>
    obtain ⟨hstage, h⟩ := Option.ite_none_right_eq_some.mp h
    cases h
    exact .ended hstage

/-! ## A new URI -/

/-- A request in progress is given up. -/
theorem changeSource_cases (s : ComponentImage) :
    (∃ request, s.isRequestInProgress_ = true ∧ s.remoteCurlRequest_ = some request ∧
      s.changeSource = { s.abortRequest request with
        remoteCurlRequest_ := none, isRequestInProgress_ := false, networkImageData_ := none }) ∨
    ((∀ request, s.isRequestInProgress_ = true → s.remoteCurlRequest_ ≠ some request) ∧
      s.changeSource = { s with networkImageData_ := none }) := by
  unfold changeSource
  split
  · rename_i request hflag hremote
    exact .inl ⟨request, hflag, hremote, rfl⟩
  · rename_i hnone
    exact .inr ⟨hnone, rfl⟩

/-- `abortRequest` changes the stage of one request at most. -/
theorem abortRequest_eq (s : ComponentImage) (request : Nat) :
    s.abortRequest request = { s with requests := (s.abortRequest request).requests } := by
  unfold abortRequest
  split <;> rfl

theorem changeSource_drawn (s : ComponentImage) : s.changeSource.drawn = s.drawn := by
  rcases s.changeSource_cases with ⟨request, -, -, heq⟩ | ⟨-, heq⟩
  · rw [heq, abortRequest_eq]
  · rw [heq]

theorem changeSource_networkImageData_ (s : ComponentImage) :
    s.changeSource.networkImageData_ = none := rfl

/-! ## Stages -/

theorem stage_eq_some {s : ComponentImage} {request : Nat} {r : ImageRequest}
    (h : s.requests[request]? = some r) : s.stage request = some r.stage := by
  rw [stage, h]
  rfl

theorem requests_setStage (s : ComponentImage) (n m : Nat) (stage : ImageRequestStage) :
    (s.setStage n stage).requests[m]? =
      if n = m then s.requests[m]?.map fun r => { r with stage := stage } else s.requests[m]? := by
  rw [setStage, List.getElem?_modify]
  split
  · rfl
  · simp

theorem stage_setStage_of_ne (s : ComponentImage) {n m : Nat} (h : n ≠ m)
    (stage : ImageRequestStage) : (s.setStage n stage).stage m = s.stage m := by
  rw [ComponentImage.stage, requests_setStage, if_neg h]
  rfl

theorem stage_setStage_self {s : ComponentImage} {n : Nat} {old stage : ImageRequestStage}
    (h : (s.setStage n stage).stage n = some old) : old = stage := by
  rw [ComponentImage.stage, requests_setStage, if_pos rfl, Option.map_map] at h
  obtain ⟨r, -, rfl⟩ := Option.map_eq_some_iff.mp h
  rfl

end ComponentImage

end ReactNativeSkia
