import ReactNativeSkia.Images.Proofs.ImageSteps

/-!
# Whose picture is shown

The picture is dropped before the new props are stored, and a completion compares with the props
that it has read before it decodes. A picture that arrives in between stays, and is drawn for the
new source.
-/

namespace ReactNativeSkia

/-- What `OnPaint` draws out of `networkImageData_` has been decoded from a response to the source
at that time. -/
def ComponentImage.ShowsSource (s : ComponentImage) : Prop := ∀ image ∈ s.drawn, image.2 = image.1

/-- The source in the props that `processImageData` has read. -/
def ImageRequestStage.read : ImageRequestStage → Option String
  | processing source => some source
  | _ => none

/-- The request whose picture has been decoded. -/
def ImageOp.decodes : ImageOp → Option Nat
  | processImageData request true => some request
  | _ => none

/-- A picture is stored only while the source that has been read is in the props, and no update is
about to change it. -/
def ImageOp.StoresCurrent (s : ComponentImage) (op : ImageOp) : Prop :=
  ∀ request ∈ op.decodes, ∀ source ∈ (s.stage request).bind ImageRequestStage.read,
    s.URL request = some source → source = s.source ∧ s.sourceStays = true

instance (s : ComponentImage) (op : ImageOp) : Decidable (op.StoresCurrent s) := by
  unfold ImageOp.StoresCurrent
  infer_instance

namespace ComponentImage

/-- What holds besides in a run that meets the condition: the picture is that of the source, and
there is none while an update is about to change it. -/
structure Keeps (s : ComponentImage) : Prop where
  shows : s.ShowsSource
  current : ∀ image, s.networkImageData_ = some image → image = s.source ∧ s.sourceStays = true

namespace Keeps

variable {s : ComponentImage}

theorem init (source : String) : Keeps { source := source } where
  shows := by rintro _ ⟨⟩
  current := by rintro _ ⟨⟩

theorem assignProps (h : s.Keeps) {uri : String} (hupdate : s.update = some uri) :
    Keeps { s with source := uri, update := none } where
  shows := h.shows
  current image himage := by
    obtain ⟨heq, hstays⟩ := h.current image himage
    exact ⟨heq.trans (sourceStays_iff.mp hstays uri hupdate).symm, rfl⟩

theorem paint (h : s.Keeps) {image : String} (himage : s.networkImageData_ = some image) :
    Keeps { s with drawn := s.drawn ++ [(s.source, image)] } where
  shows d hd := by
    rcases List.mem_append.mp hd with hd | hd
    · exact h.shows d hd
    · obtain rfl := List.mem_singleton.mp hd
      exact (h.current image himage).1
  current := h.current

theorem processImageData (h : s.Keeps) {request : Nat} {source : String} {decoded : Bool}
    (hstage : s.stage request = some (.processing source))
    (hok : (ImageOp.processImageData request decoded).StoresCurrent s) :
    (s.processImageData request source decoded).Keeps where
  shows := h.shows
  current image himage := by
    simp only [ComponentImage.processImageData] at himage
    split at himage
    · rename_i hstored
      rw [hstored.2] at himage
      obtain rfl := Option.some.inj himage
      have hread : source ∈ (s.stage request).bind ImageRequestStage.read := by
        rw [hstage]
        rfl
      obtain rfl := hstored.1
      exact hok request rfl source hread hstored.2
    · exact h.current image himage

theorem step (h : s.Keeps) {op : ImageOp} {t : ComponentImage} (hok : op.StoresCurrent s)
    (hexec : op.exec s = some t) : t.Keeps := by
  cases exec_branch hexec with
  | kept hchanges =>
    refine ⟨h.shows, fun image himage => ⟨(h.current image himage).1, ?_⟩⟩
    rw [sourceStays_iff]
    rintro uri ⟨⟩
    exact eq_of_not_changes hchanges
  | changed hchanges =>
    constructor
    · intro d hd
      exact h.shows d (s.changeSource_drawn ▸ hd)
    · intro image himage
      rw [changeSource_networkImageData_] at himage
      cases himage
  | assigned hupdate => exact h.assignProps hupdate
  | painted himage => exact h.paint himage
  | requested hflag => exact ⟨h.shows, h.current⟩
  | sends hsending hremote hr =>
    unfold sendRequest
    split <;> exact ⟨h.shows, h.current⟩
  | inProgress hsent => exact ⟨h.shows, h.current⟩
  | header hstage => exact ⟨h.shows, h.current⟩
  | provided hstage => exact ⟨h.shows, h.current⟩
  | finished hstage => exact ⟨h.shows, h.current⟩
  | reads hstage => exact ⟨h.shows, h.current⟩
  | processed hstage => exact h.processImageData hstage hok
  | reset hstage => exact ⟨h.shows, h.current⟩
  | ended hstage => exact ⟨h.shows, h.current⟩

end Keeps

/-- Whatever the order of updates, completions and paints, the picture is that of the source, if a
picture is stored only for the source in the props, with no other on its way. -/
theorem imageRun_showsSource {source : String} {s : ComponentImage}
    (hrun : Run ImageStep ImageOp.StoresCurrent { source := source } s) : s.ShowsSource := by
  have hkeeps : s.Keeps := by
    refine hrun.invariant (P := Keeps) ?_ (Keeps.init source)
    intro t op u ht hok hstep
    exact ht.step hok hstep
  exact hkeeps.shows

/-- The request for the first source is aborted, and the pictures of the second one, from a cached
response, and of the third one are drawn. -/
theorem imageRun_showsSource_three : ∃ s : ComponentImage, s.ShowsSource ∧
    s.drawn = [("b", "b"), ("c", "c")] := by
  have hfold : ([ImageOp.requestNetworkImageData, .sendRequest .transfers, .setInProgress,
      .header 0 true, .updateComponentProps "b" false, .assignProps,
      .requestNetworkImageData, .sendRequest (.provides true), .setInProgress, .provideHeader 1,
      .readProps 1, .processImageData 1 true, .paint, .resetInProgress 1, .resetRequest 1,
      .updateComponentProps "c" false, .assignProps, .requestNetworkImageData,
      .sendRequest .transfers, .setInProgress, .header 2 false, .finishTransfer 2, .readProps 2,
      .processImageData 2 true, .paint].foldlM
        (fun s (op : ImageOp) => if op.StoresCurrent s then op.exec s else none)
        { source := "a" }).map drawn = some [("b", "b"), ("c", "c")] := by
    decide +kernel
  obtain ⟨s, hrun, hdrawn⟩ := Option.map_eq_some_iff.mp hfold
  exact ⟨s, imageRun_showsSource (Run.of_checked_exec hrun), hdrawn⟩

/-- The picture is stored behind the reset of an update and drawn when the props are assigned. -/
theorem not_showsSource_of_update : ¬ ∀ (source : String) (s : ComponentImage),
    Run ImageStep anyStep { source := source } s → s.ShowsSource := by
  intro hall
  have hfold : ([ImageOp.requestNetworkImageData, .sendRequest .transfers, .setInProgress,
      .finishTransfer 0, .updateComponentProps "b" false, .readProps 0, .processImageData 0 true,
      .assignProps, .paint].foldlM ImageOp.exec { source := "a" }).map drawn =
        some [("b", "a")] := by
    decide +kernel
  obtain ⟨s, hrun, hdrawn⟩ := Option.map_eq_some_iff.mp hfold
  have hshows := hall "a" s (Run.of_exec hrun)
  exact absurd (hshows ("b", "a") (hdrawn ▸ List.mem_singleton.mpr rfl)) (by decide)

end ComponentImage

end ReactNativeSkia
