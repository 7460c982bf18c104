import ReactNativeSkia.Images.Proofs.ImageSteps

/-!
# The flag of a request in progress

The flag is set when `sendRequest` has returned, and reset by each completion. It tells of a request
for the source as long as a completion is that of `remoteCurlRequest_` and comes when no paint is
about to set the flag.
-/

namespace ReactNativeSkia

/-- The request has been sent, not taken out of the transfers, and its completion callback has not
reset the flag. -/
def ImageRequestStage.pending : ImageRequestStage → Bool
  | transferring | provided _ | unanswered | received | processing _ | processed => true
  | created | ending | completed | aborted | failed => false

/-- A header callback may still go through `remoteCurlRequest_`. -/
def ImageRequestStage.usesRequest : ImageRequestStage → Bool
  | transferring | provided true => true
  | _ => false

/-- Outside `requestNetworkImageData` the flag tells of a request for the source, and no header
callback has gone through a null pointer. -/
def ComponentImage.Truthful (s : ComponentImage) : Prop :=
  (s.sending = 0 → s.sent = 0 → s.isRequestInProgress_ = true →
    ∃ request ∈ s.requests, request.URL = s.source ∧ request.stage.pending = true) ∧
  s.nullUsed = false

/-- No paint is in `requestNetworkImageData`. -/
def ComponentImage.noPaint (s : ComponentImage) : Bool := s.sending = 0 && s.sent = 0

/-- The completion is that of the current request, and no paint is about to set the flag. -/
def ComponentImage.completes (s : ComponentImage) (request : Nat) : Bool :=
  s.noPaint && s.remoteCurlRequest_.all (· = request)

/-- One paint requests at a time, and not between the two steps of an update that changes the
source, the request is sent, an update that changes the source does not come while a paint requests
nor in front of the header callback of a cached response with `Cache-Control`, and a completion is
that of the current request, with no paint that requests. -/
def ImageOp.InTurn (s : ComponentImage) : ImageOp → Prop
  | updateComponentProps uri forceUpdate => s.changes uri forceUpdate = true →
    s.noPaint = true ∧ s.remoteCurlRequest_.bind s.stage ≠ some (.provided true)
  | requestNetworkImageData => s.noPaint = true ∧ s.sourceStays = true
  | sendRequest result => result ≠ .fails
  | resetInProgress request | resetRequest request => s.completes request = true
  | _ => True

instance (s : ComponentImage) (op : ImageOp) : Decidable (op.InTurn s) := by
  cases op <;> unfold ImageOp.InTurn <;> infer_instance

namespace ComponentImage

variable {s : ComponentImage}

theorem noPaint_iff : s.noPaint = true ↔ s.sending = 0 ∧ s.sent = 0 := by
  simp [noPaint]

theorem completes_iff {request : Nat} : s.completes request = true ↔
    (s.sending = 0 ∧ s.sent = 0) ∧ ∀ n, s.remoteCurlRequest_ = some n → n = request := by
  simp [completes, noPaint_iff, Option.all_eq_true]

/-! ## The current request -/

/-- `remoteCurlRequest_` is for the source, which stays. -/
def Loads (s : ComponentImage) (P : ImageRequestStage → Prop) : Prop :=
  ∃ request r, s.remoteCurlRequest_ = some request ∧ s.requests[request]? = some r ∧
    r.URL = s.source ∧ P r.stage ∧ s.sourceStays = true

/-- The header callback of this request may still go through `remoteCurlRequest_`. -/
def HeaderDue (s : ComponentImage) (request : Nat) : Prop :=
  ∃ stage, s.stage request = some stage ∧ stage.usesRequest = true

namespace Loads

variable {P : ImageRequestStage → Prop}

theorem setStage (h : s.Loads P) (n : Nat) {stage : ImageRequestStage}
    (hP : s.remoteCurlRequest_ = some n → P stage) : (s.setStage n stage).Loads P := by
  obtain ⟨request, r, hremote, hr, hURL, hstage, hstays⟩ := h
  by_cases hn : n = request
  · refine ⟨request, { r with stage := stage }, hremote, ?_, hURL, hP (hn ▸ hremote), hstays⟩
    rw [requests_setStage, if_pos hn, hr]
    rfl
  · refine ⟨request, r, hremote, ?_, hURL, hstage, hstays⟩
    rw [requests_setStage, if_neg hn, hr]

/-- The source stays when an update that leaves it is stored. -/
theorem assignProps (h : s.Loads P) {uri : String} (hupdate : s.update = some uri) :
    Loads { s with source := uri, update := none } P := by
  obtain ⟨request, r, hremote, hr, hURL, hstage, hstays⟩ := h
  exact ⟨request, r, hremote, hr, hURL.trans (sourceStays_iff.mp hstays uri hupdate).symm, hstage,
    rfl⟩

theorem keepProps (h : s.Loads P) {uri : String} (huri : uri = s.source) :
    Loads { s with update := some uri } P := by
  obtain ⟨request, r, hremote, hr, hURL, hstage, -⟩ := h
  refine ⟨request, r, hremote, hr, hURL, hstage, ?_⟩
  rw [sourceStays_iff]
  rintro _ ⟨⟩
  exact huri

end Loads

theorem HeaderDue.of_setStage {n m : Nat} {stage : ImageRequestStage}
    (hstage : stage.usesRequest = false) (h : (s.setStage n stage).HeaderDue m) :
    n ≠ m ∧ s.HeaderDue m := by
  obtain ⟨other, hother, huses⟩ := h
  have hne : n ≠ m := by
    rintro rfl
    rw [stage_setStage_self hother, hstage] at huses
    cases huses
  rw [stage_setStage_of_ne s hne] at hother
  exact ⟨hne, other, hother, huses⟩

/-! ## The invariant -/

/-- What holds besides in a run that meets the condition. -/
structure Tracks (s : ComponentImage) : Prop where
  inProgress : s.isRequestInProgress_ = true ∨ s.sent ≠ 0 →
    s.sending = 0 ∧ s.Loads (·.pending = true)
  sending : s.sending ≠ 0 → s.Loads (· = .created)
  paints : s.sending + s.sent ≤ 1
  header : ∀ request, s.HeaderDue request →
    s.remoteCurlRequest_ = some request ∧ (s.isRequestInProgress_ = true ∨ s.sent ≠ 0)
  nullUsed : s.nullUsed = false

namespace Tracks

theorem not_inProgress (hflag : s.isRequestInProgress_ = false) (hsent : s.sent = 0) :
    ¬ (s.isRequestInProgress_ = true ∨ s.sent ≠ 0) := by
  simp [hflag, hsent]

theorem truthful (h : s.Tracks) : s.Truthful := by
  refine ⟨fun _ _ hflag => ?_, h.nullUsed⟩
  obtain ⟨-, request, r, -, hr, hURL, hpending, -⟩ := h.inProgress (.inl hflag)
  exact ⟨r, List.mem_of_getElem? hr, hURL, hpending⟩

theorem init (source : String) : Tracks { source := source } where
  inProgress hflag := absurd hflag (not_inProgress rfl rfl)
  sending hsending := absurd rfl hsending
  paints := Nat.zero_le 1
  header := by rintro request ⟨stage, ⟨⟩, -⟩
  nullUsed := rfl

/-- A request goes on, and its header callback has run. -/
theorem setStage (h : s.Tracks) {n : Nat} {old : ImageRequestStage} (stage : ImageRequestStage)
    (hold : s.stage n = some old) (hcreated : old ≠ .created) (hpending : stage.pending = true)
    (huses : stage.usesRequest = false) : (s.setStage n stage).Tracks where
  inProgress hflag := by
    obtain ⟨hsending, hloads⟩ := h.inProgress hflag
    exact ⟨hsending, hloads.setStage n fun _ => hpending⟩
  sending hsending := by
    refine (h.sending hsending).setStage n fun hremote => ?_
    obtain ⟨request, r, hremote', hr, -, hstage, -⟩ := h.sending hsending
    obtain rfl := Option.some.inj (hremote.symm.trans hremote')
    rw [stage_eq_some hr] at hold
    exact absurd (Option.some.inj hold ▸ hstage) hcreated
  paints := h.paints
  header request hdue := h.header request (hdue.of_setStage huses).2
  nullUsed := h.nullUsed

/-- A header callback that looks at `remoteCurlRequest_` finds it. -/
theorem headerCallback (h : s.Tracks) {request : Nat} {cacheControl : Bool}
    (hdue : cacheControl = true → s.HeaderDue request) :
    s.headerCallback cacheControl = s := by
  have hnull : (s.nullUsed || cacheControl && s.remoteCurlRequest_.isNone) = s.nullUsed := by
    cases cacheControl with
    | false => simp
    | true => simp [(h.header request (hdue rfl)).1]
  rw [ComponentImage.headerCallback, hnull]

/-- A new URI gives up the request in progress. -/
theorem changeSource (h : s.Tracks) (uri : String) (hpaint : s.noPaint = true)
    (hprovided : s.remoteCurlRequest_.bind s.stage ≠ some (.provided true)) :
    Tracks { s.changeSource with update := some uri } := by
  obtain ⟨hsending, hsent⟩ := noPaint_iff.mp hpaint
  rcases s.changeSource_cases with ⟨request, -, hremote, heq⟩ | ⟨hnone, heq⟩
  · rw [heq, abortRequest_eq]
    -- the only header callback that could still come is that of the aborted request
    have hdue (n : Nat) : ¬ (s.abortRequest request).HeaderDue n := by
      unfold abortRequest
      split
      · intro hdue
        obtain ⟨hne, hdue⟩ := hdue.of_setStage rfl
        exact hne (Option.some.inj (hremote.symm.trans (h.header n hdue).1))
      · rename_i htransferring
        intro hdue
        obtain rfl := Option.some.inj (hremote.symm.trans (h.header n hdue).1)
        obtain ⟨stage, hstage, huses⟩ := hdue
        cases stage with
        | transferring => exact htransferring hstage
        | provided cacheControl =>
          cases cacheControl with
          | true => exact hprovided (by rw [hremote, Option.bind_some, hstage])
          | false => cases huses
        | _ => cases huses
    exact {
      inProgress := fun hflag => absurd hflag (not_inProgress rfl hsent)
      sending := fun hsending' => absurd hsending hsending'
      paints := h.paints
      header := fun n hn => absurd hn (hdue n)
      nullUsed := h.nullUsed }
  · rw [heq]
    have hflag : s.isRequestInProgress_ = false := by
      by_contra hflag
      obtain ⟨-, request, -, hremote, -⟩ := h.inProgress (.inl (Bool.of_not_eq_false hflag))
      exact hnone request (Bool.of_not_eq_false hflag) hremote
    exact {
      inProgress := fun hflag' => absurd hflag' (not_inProgress hflag hsent)
      sending := fun hsending' => absurd hsending hsending'
      paints := h.paints
      header := h.header
      nullUsed := h.nullUsed }

/-- Without the flag and a paint there is no request whose header callback could come. -/
theorem makeRequest (h : s.Tracks) (hflag : s.isRequestInProgress_ = false)
    (hpaint : s.noPaint = true) (hstays : s.sourceStays = true) : s.makeRequest.Tracks := by
  obtain ⟨hsending, hsent⟩ := noPaint_iff.mp hpaint
  exact {
    inProgress := fun hflag' => absurd hflag' (not_inProgress hflag hsent)
    sending := fun _ => ⟨s.requests.length, ⟨s.source, .created⟩, rfl,
      by simp [ComponentImage.makeRequest], rfl, rfl, hstays⟩
    paints := by
      simp only [ComponentImage.makeRequest]
      omega
    header := by
      rintro request ⟨stage, hstage, huses⟩
      simp only [ComponentImage.stage, ComponentImage.makeRequest, List.getElem?_append] at hstage
      split at hstage
      · exact absurd (h.header request ⟨stage, hstage, huses⟩).2 (not_inProgress hflag hsent)
      · obtain ⟨r, hr, rfl⟩ := Option.map_eq_some_iff.mp hstage
        obtain rfl := List.mem_singleton.mp (List.mem_of_getElem? hr)
        cases huses
    nullUsed := h.nullUsed }

theorem sendRequest (h : s.Tracks) {request : Nat} {r : ImageRequest} {result : ImageSendResult}
    (hsending : s.sending ≠ 0) (hremote : s.remoteCurlRequest_ = some request)
    (hr : s.requests[request]? = some r) (hsends : result ≠ .fails) :
    (s.sendRequest request r result).Tracks := by
  obtain ⟨n, r', hn, hr', hURL, hcreated, hstays⟩ := h.sending hsending
  obtain rfl := Option.some.inj (hremote.symm.trans hn)
  obtain rfl := Option.some.inj (hr.symm.trans hr')
  have hpaints := h.paints
  have hpending : result.stage.pending = true := by
    cases result with
    | transfers => rfl
    | provides cacheControl => rfl
    | unanswered => rfl
    | fails => exact absurd rfl hsends
  unfold ComponentImage.sendRequest
  rw [if_pos hcreated]
  exact {
    inProgress := by
      intro
      refine ⟨show s.sending - 1 = 0 by omega, request, { r with stage := result.stage }, hremote,
        ?_, hURL, hpending, hstays⟩
      rw [requests_setStage, if_pos rfl, hr]
      rfl
    sending := fun hsending' => absurd (show s.sending - 1 = 0 by omega) hsending'
    paints := show s.sending - 1 + (s.sent + 1) ≤ 1 by omega
    header := by
      rintro m ⟨stage, hstage, huses⟩
      refine ⟨?_, .inr (Nat.succ_ne_zero s.sent)⟩
      by_cases hm : request = m
      · exact hm ▸ hremote
      · exact (h.header m ⟨stage, stage_setStage_of_ne s hm result.stage ▸ hstage, huses⟩).1
    nullUsed := h.nullUsed }

theorem setInProgress (h : s.Tracks) (hsent : s.sent ≠ 0) :
    Tracks { s with isRequestInProgress_ := true, sent := s.sent - 1 } where
  inProgress _ := h.inProgress (.inr hsent)
  sending := h.sending
  paints := by
    have hpaints := h.paints
    exact show s.sending + (s.sent - 1) ≤ 1 by omega
  header request hdue := ⟨(h.header request hdue).1, .inl rfl⟩
  nullUsed := h.nullUsed

/-- A request whose completion callback runs has no header callback to come. -/
theorem header_of_completes (h : s.Tracks) {n m : Nat} {old : ImageRequestStage}
    (hold : s.stage n = some old) (huses : old.usesRequest = false) (hok : s.completes n = true) :
    ¬ s.HeaderDue m := by
  intro hdue
  obtain rfl := (completes_iff.mp hok).2 m (h.header m hdue).1
  obtain ⟨stage, hstage, huses'⟩ := hdue
  rw [← Option.some.inj (hold.symm.trans hstage), huses] at huses'
  cases huses'

theorem resetInProgress (h : s.Tracks) {n : Nat} (hstage : s.stage n = some .processed)
    (hok : s.completes n = true) :
    Tracks { s.setStage n .ending with isRequestInProgress_ := false } := by
  obtain ⟨⟨hsending, hsent⟩, -⟩ := completes_iff.mp hok
  exact {
    inProgress := fun hflag => absurd hflag (not_inProgress rfl hsent)
    sending := fun hsending' => absurd hsending hsending'
    paints := h.paints
    header := by
      intro m hdue
      have hdue' := (HeaderDue.of_setStage rfl hdue).2
      exact absurd hdue' (h.header_of_completes hstage rfl hok)
    nullUsed := h.nullUsed }

theorem resetRequest (h : s.Tracks) {n : Nat} (hstage : s.stage n = some .ending)
    (hok : s.completes n = true) :
    Tracks { s.setStage n .completed with remoteCurlRequest_ := none } := by
  obtain ⟨⟨hsending, hsent⟩, hcurrent⟩ := completes_iff.mp hok
  exact {
    inProgress := by
      intro hflag
      -- the flag tells of the current request, which is the one that has reset it
      obtain ⟨-, request, r, hremote, hr, -, hpending, -⟩ := h.inProgress hflag
      obtain rfl := hcurrent request hremote
      rw [stage_eq_some hr] at hstage
      rw [Option.some.inj hstage] at hpending
      cases hpending
    sending := fun hsending' => absurd hsending hsending'
    paints := h.paints
    header := by
      intro m hdue
      have hdue' := (HeaderDue.of_setStage rfl hdue).2
      exact absurd hdue' (h.header_of_completes hstage rfl hok)
    nullUsed := h.nullUsed }

theorem step (h : s.Tracks) {op : ImageOp} {t : ComponentImage} (hok : op.InTurn s)
    (hexec : op.exec s = some t) : t.Tracks := by
  cases exec_branch hexec with
  | kept hchanges =>
    have huri := eq_of_not_changes hchanges
    refine { h with inProgress := fun hflag => ?_, sending := fun hsending => ?_ }
    · obtain ⟨hsending, hloads⟩ := h.inProgress hflag
      exact ⟨hsending, hloads.keepProps huri⟩
    · exact (h.sending hsending).keepProps huri
  | changed hchanges =>
    obtain ⟨hpaint, hprovided⟩ := hok hchanges
    exact h.changeSource _ hpaint hprovided
  | assigned hupdate =>
    refine { h with inProgress := fun hflag => ?_, sending := fun hsending => ?_ }
    · obtain ⟨hsending, hloads⟩ := h.inProgress hflag
      exact ⟨hsending, hloads.assignProps hupdate⟩
    · exact (h.sending hsending).assignProps hupdate
  | painted himage => exact { h with }
  | requested hflag => exact h.makeRequest hflag hok.1 hok.2
  | sends hsending hremote hr => exact h.sendRequest hsending hremote hr hok
  | inProgress hsent => exact h.setInProgress hsent
  | header hstage =>
    rw [h.headerCallback fun _ => ⟨_, hstage, rfl⟩]
    exact h
  | provided hstage =>
    rw [h.headerCallback fun hcontrol => ⟨.provided true, hcontrol ▸ hstage, rfl⟩]
    exact h.setStage .received hstage (by simp) rfl rfl
  | finished hstage =>
    exact h.setStage .received hstage (by simp) rfl rfl
  | reads hstage =>
    exact h.setStage (.processing s.source) hstage (by simp) rfl rfl
  | processed hstage =>
    exact { h.setStage .processed hstage (by simp) rfl rfl with }
  | reset hstage => exact h.resetInProgress hstage hok
  | ended hstage => exact h.resetRequest hstage hok

end Tracks

/-- Whatever the order of updates, completions and paints that meets the condition, the flag tells
of a request for the source. -/
theorem imageRun_truthful {source : String} {s : ComponentImage}
    (hrun : Run ImageStep ImageOp.InTurn { source := source } s) : s.Truthful := by
  have htracks : s.Tracks := by
    refine hrun.invariant (P := Tracks) ?_ (Tracks.init source)
    intro t op u ht hok hstep
    exact ht.step hok hstep
  exact htracks.truthful

/-- The first request is aborted, the second one completes, and the third one is in progress. -/
theorem imageRun_truthful_three : ∃ s : ComponentImage, s.Truthful ∧
    s.isRequestInProgress_ = true ∧
    s.requests = [⟨"a", .aborted⟩, ⟨"b", .completed⟩, ⟨"c", .provided true⟩] := by
  have hfold : ([ImageOp.requestNetworkImageData, .sendRequest .transfers, .setInProgress,
      .header 0 true, .updateComponentProps "b" false, .assignProps, .requestNetworkImageData,
      .sendRequest .transfers, .setInProgress, .header 1 true, .finishTransfer 1, .readProps 1,
      .processImageData 1 true, .paint, .resetInProgress 1, .resetRequest 1,
      .updateComponentProps "c" false, .assignProps, .requestNetworkImageData,
      .sendRequest (.provides true), .setInProgress].foldlM
        (fun s (op : ImageOp) => if op.InTurn s then op.exec s else none) { source := "a" }).map
          (fun s => (s.isRequestInProgress_, s.requests)) =
        some (true, [⟨"a", .aborted⟩, ⟨"b", .completed⟩, ⟨"c", .provided true⟩]) := by
    decide +kernel
  obtain ⟨s, hrun, hs⟩ := Option.map_eq_some_iff.mp hfold
  obtain ⟨hflag, hrequests⟩ := Prod.mk.inj hs
  exact ⟨s, imageRun_truthful (Run.of_checked_exec hrun), hflag, hrequests⟩

/-- A cached response is answered before `sendRequest` returns, and the flag stays. -/
theorem not_truthful_of_provider : ¬ ∀ (source : String) (s : ComponentImage),
    Run ImageStep anyStep { source := source } s → s.Truthful := by
  intro hall
  have hfold : ([ImageOp.requestNetworkImageData, .sendRequest (.provides false),
      .provideHeader 0, .readProps 0, .processImageData 0 false, .resetInProgress 0,
      .resetRequest 0, .setInProgress].foldlM ImageOp.exec { source := "a" }).map
        (fun s => (s.sending, s.sent, s.isRequestInProgress_, s.requests)) =
          some (0, 0, true, [⟨"a", .completed⟩]) := by
    decide +kernel
  obtain ⟨s, hrun, hs⟩ := Option.map_eq_some_iff.mp hfold
  simp only [Prod.mk.injEq] at hs
  obtain ⟨hsending, hsent, hflag, hrequests⟩ := hs
  obtain ⟨request, hmem, -, hpending⟩ :=
    (hall "a" s (Run.of_exec hrun)).1 hsending hsent hflag
  rw [hrequests, List.mem_singleton] at hmem
  rw [hmem] at hpending
  cases hpending

end ComponentImage

end ReactNativeSkia
