import ReactNativeSkia.Misc.Run
import ReactNativeSkia.Sdk.WindowDelegator

/-!
# The dirty rects of a sub-window swap

A commit that is drawn adds the dirty rects of the stored command and its own. One that is only
stored replaces the command without that, so that what has been on screen of the component is
forgotten, unless it has been added before.
-/

namespace ReactNativeSkia

open Rect

variable {Picture : Type}

namespace WindowDelegator

def firstOf (commits : List (DrawCommit Picture)) (key : String) : Option (DrawCommit Picture) :=
  commits.find? fun c => c.pictureCommandKey = key

def lastOf (commits : List (DrawCommit Picture)) (key : String) : Option (DrawCommit Picture) :=
  commits.reverse.find? fun c => c.pictureCommandKey = key

end WindowDelegator

open WindowDelegator

/-- The dirty rects cover, for each component committed since the last swap, those of its last
commit and those of what has been on screen of it; or they cover the full screen. -/
def BufferSwap.Covers (surface : WindowSurface) (b : BufferSwap Picture) : Prop :=
  (∀ p, Covered surface.fullScreenDirtyRects_ p → Covered b.dirtyRects p) ∨
    ∀ key c, lastOf b.commits key = some c →
      ∀ p, Covered c.pictureObj.dirtyRect p ∨ Covered (b.onScreen key) p → Covered b.dirtyRects p

/-- A commit has a picture. When it is not batched, the buffer is empty, or each component that is
on screen has been drawn at its first commit since the last swap, and with an up-to-date buffer
each has been at its last. -/
def DrawCommit.Reported (s : WindowDelegator Picture) (c : DrawCommit Picture) : Prop :=
  c.pictureObj.pictureCommand.isSome = true ∧
    (c.batchCommit = false → c.bufferAge ≠ 0 → ∀ d ∈ s.commits ++ [c],
      ((firstOf (s.commits ++ [c]) d.pictureCommandKey).any DrawCommit.storesOnly = true →
        s.onScreen d.pictureCommandKey = []) ∧
      (c.bufferAge = 1 →
        (lastOf (s.commits ++ [c]) d.pictureCommandKey).any DrawCommit.storesOnly = false))

instance (s : WindowDelegator Picture) (c : DrawCommit Picture) : Decidable (c.Reported s) := by
  unfold DrawCommit.Reported
  infer_instance

namespace WindowDelegator

/-- A call of `renderToDisplay` with `invalidate` set. -/
def CommitStep (surface : WindowSurface) (s : WindowDelegator Picture) (c : DrawCommit Picture)
    (t : WindowDelegator Picture) : Prop :=
  c.pictureObj.invalidate = true ∧ s.renderToDisplay surface c = t

/-! ## Dirty rects -/

/-- What is erased is part of the new rect, and what makes the new one superfluous covers it. -/
theorem covered_generateRect (r : SkIRect) (dirtyRects_ : List SkIRect) (p : Pixel) :
    Covered (generateRect r dirtyRects_) p ↔ p ∈ r ∨ Covered dirtyRects_ p := by
  induction dirtyRects_ with
  | nil => simp [generateRect]
  | cons dirtyRect rest ih =>
    unfold generateRect
    split
    · rename_i hcovers
      rw [covered_cons]
      have hr : p ∈ r → p ∈ dirtyRect := by
        intro hp
        rcases hcovers with rfl | hcontains
        · exact hp
        · exact mem_of_contains hcontains hp
      exact ⟨.inr, fun h => h.elim (fun hp => .inl (hr hp)) id⟩
    · split
      · rename_i hcontains
        rw [ih, covered_cons]
        have hr : p ∈ dirtyRect → p ∈ r := mem_of_contains hcontains
        exact ⟨fun h => h.imp_right .inr, fun h => h.elim .inl fun h => h.imp_left hr⟩
      · rw [covered_cons, covered_cons, ih]
        exact or_left_comm

theorem covered_generateDirtyRect (dirtyRects_ rects : List SkIRect) (p : Pixel) :
    Covered (generateDirtyRect dirtyRects_ rects) p ↔ Covered dirtyRects_ p ∨ Covered rects p := by
  induction rects generalizing dirtyRects_ with
  | nil => simp [generateDirtyRect]
  | cons r rects ih =>
    have hcons : generateDirtyRect dirtyRects_ (r :: rects) =
        generateDirtyRect (generateRect r dirtyRects_) rects := rfl
    rw [hcons, ih, covered_generateRect, covered_cons, or_assoc, or_left_comm]

section

variable {surface : WindowSurface} {bufferAge : Int}

/-- The loop over the stored commands only adds rects. -/
theorem covered_playbackRects (fullScreenAdded : Bool)
    (commands : List (String × PictureObject Picture)) {dirtyRects_ : List SkIRect} {p : Pixel}
    (hp : Covered dirtyRects_ p) :
    Covered (playbackRects surface bufferAge fullScreenAdded commands dirtyRects_) p := by
  induction commands generalizing fullScreenAdded dirtyRects_ with
  | nil => exact hp
  | cons entry commands ih =>
    have hadd (rects : List SkIRect) : Covered (generateDirtyRect dirtyRects_ rects) p :=
      (covered_generateDirtyRect _ _ _).mpr (.inl hp)
    unfold playbackRects
    split
    · split
      · exact ih true (hadd _)
      · split
        · exact ih false (hadd _)
        · exact ih false hp
    · exact ih fullScreenAdded hp

/-- With an empty buffer the full screen is added at the first picture. -/
theorem covered_playbackRects_full (hsupports : surface.supportsPartialUpdate_ = true)
    {commands : List (String × PictureObject Picture)} {entry : String × PictureObject Picture}
    (hentry : entry ∈ commands) (hpicture : entry.2.pictureCommand.isSome = true)
    (dirtyRects_ : List SkIRect) {p : Pixel} (hp : Covered surface.fullScreenDirtyRects_ p) :
    Covered (playbackRects surface 0 false commands dirtyRects_) p := by
  induction commands generalizing dirtyRects_ with
  | nil => cases hentry
  | cons first commands ih =>
    unfold playbackRects
    split
    · rw [if_pos rfl]
      exact covered_playbackRects _ _ ((covered_generateDirtyRect _ _ _).mpr (.inr hp))
    · rename_i hfirst
      rcases List.mem_cons.mp hentry with rfl | hentry
      · exact absurd ⟨hpicture, hsupports, rfl⟩ hfirst
      · exact ih hentry dirtyRects_

/-- Otherwise the rects of each command are added that is to be redrawn. -/
theorem covered_playbackRects_entry (hsupports : surface.supportsPartialUpdate_ = true)
    (hage : bufferAge ≠ 0) {commands : List (String × PictureObject Picture)}
    {entry : String × PictureObject Picture} (hentry : entry ∈ commands)
    (hpicture : entry.2.pictureCommand.isSome = true) (hinvalidate : entry.2.invalidate = true)
    (dirtyRects_ : List SkIRect) {p : Pixel} (hp : Covered entry.2.dirtyRect p) :
    Covered (playbackRects surface bufferAge false commands dirtyRects_) p := by
  induction commands generalizing dirtyRects_ with
  | nil => cases hentry
  | cons first commands ih =>
    unfold playbackRects
    rcases List.mem_cons.mp hentry with rfl | hentry
    · rw [if_pos ⟨hpicture, hsupports, rfl⟩, if_neg hage, if_pos hinvalidate]
      exact covered_playbackRects _ _ ((covered_generateDirtyRect _ _ _).mpr (.inr hp))
    · split
      · split
        · exact ih hentry _
        · exact ih hentry _
      · exact ih hentry _

end

/-! ## Stored commands -/

theorem findCommand_storeCommand (commands : List (String × PictureObject Picture))
    (key : String) (pictureObj : PictureObject Picture) (key' : String) :
    findCommand (storeCommand commands key pictureObj) key' =
      if key = key' then some pictureObj else findCommand commands key' := by
  induction commands with
  | nil => rfl
  | cons entry commands ih =>
    obtain ⟨k, stored⟩ := entry
    unfold storeCommand
    by_cases hk : k = key
    · rw [if_pos hk]
      simp only [findCommand]
      split
      · rfl
      · rename_i hne
        rw [if_neg (hk ▸ hne)]
    · rw [if_neg hk]
      simp only [findCommand, ih]
      split
      · rename_i hk'
        rw [if_neg fun h => hk (hk'.trans h.symm)]
      · rfl

theorem mem_of_findCommand {commands : List (String × PictureObject Picture)} {key : String}
    {pictureObj : PictureObject Picture} (h : findCommand commands key = some pictureObj) :
    (key, pictureObj) ∈ commands := by
  induction commands with
  | nil => cases h
  | cons entry commands ih =>
    obtain ⟨k, stored⟩ := entry
    simp only [findCommand] at h
    split at h
    · rename_i hk
      obtain rfl := Option.some.inj h
      exact hk ▸ List.mem_cons_self
    · exact List.mem_cons_of_mem _ (ih h)

theorem mem_storeCommand {commands : List (String × PictureObject Picture)} {key : String}
    {pictureObj : PictureObject Picture} {entry : String × PictureObject Picture}
    (h : entry ∈ storeCommand commands key pictureObj) :
    entry = (key, pictureObj) ∨ entry ∈ commands := by
  induction commands with
  | nil => exact .inl (List.mem_singleton.mp h)
  | cons first commands ih =>
    obtain ⟨k, stored⟩ := first
    unfold storeCommand at h
    split at h
    · exact (List.mem_cons.mp h).imp_right (List.mem_cons_of_mem _)
    · rcases List.mem_cons.mp h with rfl | h
      · exact .inr List.mem_cons_self
      · exact (ih h).imp_right (List.mem_cons_of_mem _)

/-! ## The commits since the last swap -/

theorem lastOf_append (commits : List (DrawCommit Picture)) (c : DrawCommit Picture)
    (key : String) : lastOf (commits ++ [c]) key =
      if c.pictureCommandKey = key then some c else lastOf commits key := by
  unfold lastOf
  rw [List.reverse_append, List.reverse_singleton, List.singleton_append, List.find?_cons]
  by_cases hkey : c.pictureCommandKey = key <;> simp [hkey]

theorem firstOf_append (commits : List (DrawCommit Picture)) (c : DrawCommit Picture)
    (key : String) : firstOf (commits ++ [c]) key =
      (firstOf commits key).or (if c.pictureCommandKey = key then some c else none) := by
  unfold firstOf
  rw [List.find?_append, List.find?_singleton]
  by_cases hkey : c.pictureCommandKey = key <;> simp [hkey]

theorem mem_of_firstOf {commits : List (DrawCommit Picture)} {key : String}
    {c : DrawCommit Picture} (h : firstOf commits key = some c) :
    c ∈ commits ∧ c.pictureCommandKey = key := by
  unfold firstOf at h
  have hkey := List.find?_some h
  exact ⟨List.mem_of_find?_eq_some h, of_decide_eq_true hkey⟩

theorem mem_of_lastOf {commits : List (DrawCommit Picture)} {key : String}
    {c : DrawCommit Picture} (h : lastOf commits key = some c) :
    c ∈ commits ∧ c.pictureCommandKey = key := by
  unfold lastOf at h
  have hkey := List.find?_some h
  exact ⟨List.mem_reverse.mp (List.mem_of_find?_eq_some h), of_decide_eq_true hkey⟩

/-- A component has a first commit if it has a last one. -/
theorem firstOf_of_lastOf {commits : List (DrawCommit Picture)} {key : String}
    {c : DrawCommit Picture} (h : lastOf commits key = some c) :
    ∃ first, firstOf commits key = some first := by
  obtain ⟨hmem, hkey⟩ := mem_of_lastOf h
  exact Option.isSome_iff_exists.mp
    (List.find?_isSome.mpr ⟨c, hmem, decide_eq_true hkey⟩)

/-! ## One commit -/

section

variable (surface : WindowSurface) (s : WindowDelegator Picture) (c : DrawCommit Picture)

@[simp] theorem draw_commits : (s.draw surface c).commits = s.commits ++ [c] := by
  unfold draw updateRecentCommand playbackAll playback
  dsimp only
  split_ifs <;> rfl

@[simp] theorem draw_onScreen : (s.draw surface c).onScreen = s.onScreen := by
  unfold draw updateRecentCommand playbackAll playback
  dsimp only
  split_ifs <;> rfl

@[simp] theorem draw_swaps : (s.draw surface c).swaps = s.swaps := by
  unfold draw updateRecentCommand playbackAll playback
  dsimp only
  split_ifs <;> rfl

@[simp] theorem draw_recentComponentCommands_ : (s.draw surface c).recentComponentCommands_ =
    storeCommand s.recentComponentCommands_ c.pictureCommandKey c.pictureObj := by
  unfold draw updateRecentCommand playbackAll playback
  dsimp only
  split_ifs <;> rfl

theorem draw_storedRects (key : String) : (s.draw surface c).storedRects key =
    if c.pictureCommandKey = key then c.pictureObj.dirtyRect else s.storedRects key := by
  unfold storedRects
  rw [draw_recentComponentCommands_, findCommand_storeCommand]
  split_ifs <;> rfl

theorem draw_drawn_of_storesOnly (hstores : c.storesOnly = true) :
    (s.draw surface c).drawn = s.drawn := by
  unfold draw
  dsimp only
  rw [if_pos hstores]
  rfl

theorem draw_drawn_of_upToDate (hpicture : c.pictureObj.pictureCommand.isSome = true)
    (hage : c.bufferAge = 1) : (s.draw surface c).drawn =
      Function.update s.drawn c.pictureCommandKey c.pictureObj.dirtyRect := by
  have hstores : ¬c.storesOnly = true := by simp [DrawCommit.storesOnly, hage]
  unfold draw
  dsimp only
  rw [if_neg hstores, if_neg (not_not.mpr hage)]
  unfold playback
  rw [if_pos hpicture]
  rfl

theorem draw_drawn_of_missing (hstores : ¬c.storesOnly = true) (hage : c.bufferAge ≠ 1) :
    (s.draw surface c).drawn = fun key =>
      match findCommand (s.draw surface c).recentComponentCommands_ key with
      | some ⟨dirtyRect, some _, _⟩ => dirtyRect
      | _ => s.drawn key := by
  rw [draw_recentComponentCommands_]
  unfold draw
  dsimp only
  rw [if_neg hstores, if_pos hage]
  rfl

end

section

variable {surface : WindowSurface} {s : WindowDelegator Picture} {c : DrawCommit Picture}
  {p : Pixel}

theorem draw_dirtyRects_of_storesOnly (hstores : c.storesOnly = true) :
    (s.draw surface c).dirtyRects_ = s.dirtyRects_ := by
  unfold draw
  dsimp only
  rw [if_pos hstores]
  rfl

theorem covered_updateRecentCommand (hsupports : surface.supportsPartialUpdate_ = true)
    {key : String} (pictureObj : PictureObject Picture) {bufferAge : Int} (hage : bufferAge ≠ 0)
    (hp : Covered s.dirtyRects_ p ∨ Covered (s.storedRects key) p) :
    Covered (s.updateRecentCommand surface key pictureObj bufferAge true).dirtyRects_ p := by
  unfold updateRecentCommand
  dsimp only
  rw [if_pos ⟨rfl, hsupports, hage⟩]
  exact (covered_generateDirtyRect _ _ _).mpr hp

theorem covered_playback (key : String) (pictureObj : PictureObject Picture)
    (hp : Covered s.dirtyRects_ p) :
    Covered (s.playback surface key pictureObj).dirtyRects_ p := by
  unfold playback
  split
  · dsimp only
    split
    · exact (covered_generateDirtyRect _ _ _).mpr (.inl hp)
    · exact hp
  · exact hp

/-- A commit that is drawn adds the rects of the stored command. -/
theorem draw_covers_stored (hsupports : surface.supportsPartialUpdate_ = true)
    (hstores : ¬c.storesOnly = true) (hage : c.bufferAge ≠ 0)
    (hp : Covered s.dirtyRects_ p ∨ Covered (s.storedRects c.pictureCommandKey) p) :
    Covered (s.draw surface c).dirtyRects_ p := by
  unfold draw
  dsimp only
  rw [if_neg hstores]
  split
  · exact covered_playbackRects _ _ (covered_updateRecentCommand hsupports _ hage hp)
  · exact covered_playback _ _ (covered_updateRecentCommand hsupports _ hage hp)

/-- With an up-to-date buffer it adds its own. -/
theorem draw_covers_received (hsupports : surface.supportsPartialUpdate_ = true)
    (hpicture : c.pictureObj.pictureCommand.isSome = true) (hage : c.bufferAge = 1)
    (hp : Covered c.pictureObj.dirtyRect p) : Covered (s.draw surface c).dirtyRects_ p := by
  have hstores : ¬c.storesOnly = true := by simp [DrawCommit.storesOnly, hage]
  unfold draw
  dsimp only
  rw [if_neg hstores, if_neg (not_not.mpr hage)]
  unfold playback
  rw [if_pos hpicture]
  dsimp only
  rw [if_pos hsupports]
  exact (covered_generateDirtyRect _ _ _).mpr (.inr hp)

/-- With an empty one it adds the full screen. -/
theorem draw_covers_full (hsupports : surface.supportsPartialUpdate_ = true)
    (hpicture : c.pictureObj.pictureCommand.isSome = true) (hstores : ¬c.storesOnly = true)
    (hage : c.bufferAge = 0) (hp : Covered surface.fullScreenDirtyRects_ p) :
    Covered (s.draw surface c).dirtyRects_ p := by
  have hstored : findCommand (storeCommand s.recentComponentCommands_ c.pictureCommandKey
      c.pictureObj) c.pictureCommandKey = some c.pictureObj := by
    rw [findCommand_storeCommand, if_pos rfl]
  unfold draw
  dsimp only
  rw [if_neg hstores, if_pos (by simp [hage]), hage]
  exact covered_playbackRects_full hsupports (mem_of_findCommand hstored) hpicture _ hp

/-- With one that misses frames it adds those of all commands. -/
theorem draw_covers_all (hsupports : surface.supportsPartialUpdate_ = true)
    (hredraws : ∀ entry ∈ (s.draw surface c).recentComponentCommands_,
      entry.2.pictureCommand.isSome = true ∧ entry.2.invalidate = true)
    (hstores : ¬c.storesOnly = true) (hage : c.bufferAge ≠ 0) (hmisses : c.bufferAge ≠ 1)
    (key : String) (hp : Covered ((s.draw surface c).storedRects key) p) :
    Covered (s.draw surface c).dirtyRects_ p := by
  unfold storedRects at hp
  cases hfind : findCommand (s.draw surface c).recentComponentCommands_ key with
  | none =>
    rw [hfind] at hp
    exact absurd hp (by simp)
  | some pictureObj =>
    rw [hfind] at hp
    have hentry := mem_of_findCommand hfind
    obtain ⟨hpicture, hinvalidate⟩ := hredraws _ hentry
    rw [draw_recentComponentCommands_] at hentry
    unfold draw
    dsimp only
    rw [if_neg hstores, if_pos hmisses]
    exact covered_playbackRects_entry hsupports hage hentry hpicture hinvalidate _ hp

end

/-! ## Runs -/

/-- What holds besides of the commands in a run that meets the condition. -/
structure Tracks (surface : WindowSurface) (s : WindowDelegator Picture) : Prop where
  swaps : ∀ b ∈ s.swaps, b.Covers surface
  redraws : ∀ entry ∈ s.recentComponentCommands_,
    entry.2.pictureCommand.isSome = true ∧ entry.2.invalidate = true
  /-- The stored command is the last commit, or the one on screen. -/
  stored : ∀ key, s.storedRects key =
    ((lastOf s.commits key).map fun c => c.pictureObj.dirtyRect).getD (s.onScreen key)
  known : ∀ key, findCommand s.recentComponentCommands_ key = none → lastOf s.commits key = none
  drawn : ∀ key, (lastOf s.commits key).any DrawCommit.storesOnly = false →
    s.drawn key = s.storedRects key

/-- What holds of the dirty rects. -/
structure Reports (s : WindowDelegator Picture) : Prop where
  old : ∀ key c, firstOf s.commits key = some c → c.storesOnly = false →
    ∀ p, Covered (s.onScreen key) p → Covered s.dirtyRects_ p
  new : ∀ key c, lastOf s.commits key = some c → c.storesOnly = false →
    ∀ p, Covered c.pictureObj.dirtyRect p → Covered s.dirtyRects_ p

section

variable {surface : WindowSurface} {s : WindowDelegator Picture} {c : DrawCommit Picture}

/-- A commit with a buffer that misses frames draws every stored command. -/
theorem Tracks.draw_drawn (h : s.Tracks surface)
    (hredraws : ∀ entry ∈ (s.draw surface c).recentComponentCommands_,
      entry.2.pictureCommand.isSome = true ∧ entry.2.invalidate = true)
    (hstores : ¬c.storesOnly = true) (hage : c.bufferAge ≠ 1) (key : String) :
    (s.draw surface c).drawn key = (s.draw surface c).storedRects key := by
  rw [draw_drawn_of_missing surface s c hstores hage]
  dsimp only
  cases hfind : findCommand (s.draw surface c).recentComponentCommands_ key with
  | none =>
    have hstored : (s.draw surface c).storedRects key = [] := by
      unfold storedRects
      rw [hfind]
      rfl
    rw [draw_recentComponentCommands_, findCommand_storeCommand] at hfind
    rw [draw_storedRects] at hstored
    split_ifs at hfind hstored with hkey
    have hlast := h.known key hfind
    rw [h.drawn key (by rw [hlast]; rfl), draw_storedRects, if_neg hkey]
  | some pictureObj =>
    obtain ⟨hpicture, -⟩ := hredraws _ (mem_of_findCommand hfind)
    obtain ⟨dirtyRect, pictureCommand, invalidate⟩ := pictureObj
    obtain ⟨picture, rfl⟩ := Option.isSome_iff_exists.mp hpicture
    unfold storedRects
    rw [hfind]
    rfl

theorem Tracks.draw (h : s.Tracks surface) (hpicture : c.pictureObj.pictureCommand.isSome = true)
    (hinvalidate : c.pictureObj.invalidate = true) : (s.draw surface c).Tracks surface := by
  have hredraws : ∀ entry ∈ (s.draw surface c).recentComponentCommands_,
      entry.2.pictureCommand.isSome = true ∧ entry.2.invalidate = true := by
    intro entry hentry
    rw [draw_recentComponentCommands_] at hentry
    rcases mem_storeCommand hentry with rfl | hentry
    · exact ⟨hpicture, hinvalidate⟩
    · exact h.redraws entry hentry
  refine ⟨?_, hredraws, fun key => ?_, fun key hfind => ?_, fun key hlast => ?_⟩
  · rw [draw_swaps]
    exact h.swaps
  · rw [draw_storedRects, draw_commits, draw_onScreen, lastOf_append]
    split
    · rfl
    · exact h.stored key
  · rw [draw_recentComponentCommands_, findCommand_storeCommand] at hfind
    rw [draw_commits, lastOf_append]
    split_ifs at hfind ⊢
    exact h.known key hfind
  · rw [draw_commits, lastOf_append] at hlast
    by_cases hstores : c.storesOnly = true
    · rw [draw_drawn_of_storesOnly surface s c hstores, draw_storedRects]
      split_ifs at hlast ⊢
      · rw [Option.any_some, hstores] at hlast
        cases hlast
      · exact h.drawn key hlast
    · by_cases hage : c.bufferAge = 1
      · rw [draw_drawn_of_upToDate surface s c hpicture hage, draw_storedRects]
        by_cases hkey : c.pictureCommandKey = key
        · rw [if_pos hkey, ← hkey, Function.update_self]
        · rw [if_neg hkey] at hlast ⊢
          rw [Function.update_of_ne (Ne.symm hkey)]
          exact h.drawn key hlast
      · exact h.draw_drawn hredraws hstores hage key

/-- A commit keeps this up to the swap, unless the buffer is empty. -/
theorem Reports.draw (h : s.Reports) (hs : s.Tracks surface)
    (hsupports : surface.supportsPartialUpdate_ = true)
    (hpicture : c.pictureObj.pictureCommand.isSome = true)
    (hinvalidate : c.pictureObj.invalidate = true)
    (hage : c.storesOnly = true ∨ c.bufferAge ≠ 0) : (s.draw surface c).Reports := by
  have htracks : (s.draw surface c).Tracks surface := hs.draw hpicture hinvalidate
  have hmono {p : Pixel} (hp : Covered s.dirtyRects_ p) :
      Covered (s.draw surface c).dirtyRects_ p := by
    by_cases hstores : c.storesOnly = true
    · rwa [draw_dirtyRects_of_storesOnly hstores]
    · exact draw_covers_stored hsupports hstores (hage.resolve_left hstores) (.inl hp)
  constructor
  · intro key first hfirst hdraws p hp
    rw [draw_commits, firstOf_append] at hfirst
    rw [draw_onScreen] at hp
    cases hbefore : firstOf s.commits key with
    | some f =>
      rw [hbefore] at hfirst
      obtain rfl := Option.some.inj hfirst
      exact hmono (h.old key f hbefore hdraws p hp)
    | none =>
      -- the stored command is still the one on screen
      have hlast : lastOf s.commits key = none := by
        rw [Option.eq_none_iff_forall_ne_some]
        intro c hc
        obtain ⟨f, hf⟩ := firstOf_of_lastOf hc
        rw [hbefore] at hf
        cases hf
      have hstored : s.storedRects key = s.onScreen key := by
        rw [hs.stored key, hlast]
        rfl
      rw [hbefore, Option.none_or] at hfirst
      split_ifs at hfirst with hkey
      obtain rfl := Option.some.inj hfirst
      have hstores : ¬c.storesOnly = true := by simp [hdraws]
      refine draw_covers_stored hsupports hstores (hage.resolve_left hstores) (.inr ?_)
      rwa [hkey, hstored]
  · intro key last hlast hdraws p hp
    rw [draw_commits, lastOf_append] at hlast
    by_cases hkey : c.pictureCommandKey = key
    · rw [if_pos hkey] at hlast
      obtain rfl := Option.some.inj hlast
      have hstores : ¬c.storesOnly = true := by simp [hdraws]
      by_cases hone : c.bufferAge = 1
      · exact draw_covers_received hsupports hpicture hone hp
      · refine draw_covers_all hsupports htracks.redraws hstores (hage.resolve_left hstores) hone
          key ?_
        rwa [draw_storedRects, if_pos hkey]
    · rw [if_neg hkey] at hlast
      exact hmono (h.new key last hlast hdraws p hp)

theorem init_tracks (surface : WindowSurface) :
    Tracks surface ({} : WindowDelegator Picture) where
  swaps := by rintro _ ⟨⟩
  redraws := by rintro _ ⟨⟩
  stored _ := rfl
  known _ _ := rfl
  drawn _ _ := rfl

/-- A swap of what has been drawn of every component. -/
theorem Tracks.swapBuffers (h : s.Tracks surface)
    (hdrawn : ∀ key, s.drawn key = s.storedRects key)
    (hcovers : BufferSwap.Covers surface ⟨s.commits, s.onScreen, s.dirtyRects_⟩) :
    s.swapBuffers.Tracks surface where
  swaps b hb := by
    rcases List.mem_append.mp hb with hb | hb
    · exact h.swaps b hb
    · rwa [List.mem_singleton.mp hb]
  redraws := h.redraws
  stored key := (hdrawn key).symm
  known _ _ := rfl
  drawn key _ := hdrawn key

theorem swapBuffers_reports (s : WindowDelegator Picture) : s.swapBuffers.Reports where
  old := by rintro _ _ ⟨⟩
  new := by rintro _ _ ⟨⟩

/-- What the condition says of the commits up to a swap. -/
structure Drawn (s : WindowDelegator Picture) (c : DrawCommit Picture) : Prop where
  first : ∀ key d, firstOf (s.commits ++ [c]) key = some d → d.storesOnly = true →
    s.onScreen key = []
  last : c.bufferAge = 1 → ∀ key,
    (lastOf (s.commits ++ [c]) key).any DrawCommit.storesOnly = false

theorem drawn_of_reported (hok : c.Reported s) (hbatch : c.batchCommit = false)
    (hage : c.bufferAge ≠ 0) : s.Drawn c where
  first key d hd hstores := by
    obtain ⟨hmem, rfl⟩ := mem_of_firstOf hd
    refine ((hok.2 hbatch hage) d hmem).1 ?_
    rw [hd]
    exact hstores
  last hone key := by
    cases hd : lastOf (s.commits ++ [c]) key with
    | none => rfl
    | some d =>
      obtain ⟨hmem, rfl⟩ := mem_of_lastOf hd
      have hlast := ((hok.2 hbatch hage) d hmem).2 hone
      rwa [hd] at hlast

theorem draw_covers (hs : s.Tracks surface) (h : s.Reports)
    (hsupports : surface.supportsPartialUpdate_ = true)
    (hpicture : c.pictureObj.pictureCommand.isSome = true)
    (hinvalidate : c.pictureObj.invalidate = true) (hbatch : c.batchCommit = false)
    (hok : c.bufferAge ≠ 0 → s.Drawn c) :
    BufferSwap.Covers surface ⟨(s.draw surface c).commits, (s.draw surface c).onScreen,
      (s.draw surface c).dirtyRects_⟩ := by
  have hstores : ¬c.storesOnly = true := by simp [DrawCommit.storesOnly, hbatch]
  by_cases hage : c.bufferAge = 0
  · exact .inl fun p hp => draw_covers_full hsupports hpicture hstores hage hp
  · have hreports := h.draw hs hsupports hpicture hinvalidate (.inr hage)
    have htracks : (s.draw surface c).Tracks surface := hs.draw hpicture hinvalidate
    have hdrawn := hok hage
    refine .inr fun key last hlast p hp => ?_
    dsimp only at hlast hp ⊢
    rcases hp with hp | hp
    · by_cases hone : c.bufferAge = 1
      · have hstoresLast := hdrawn.last hone key
        rw [← draw_commits surface, hlast] at hstoresLast
        exact hreports.new key last hlast hstoresLast p hp
      · refine draw_covers_all hsupports htracks.redraws hstores hage hone key ?_
        rw [htracks.stored key, hlast]
        exact hp
    · obtain ⟨first, hfirst⟩ := firstOf_of_lastOf hlast
      cases hstoresFirst : first.storesOnly with
      | true =>
        rw [draw_commits] at hfirst
        rw [draw_onScreen, hdrawn.first key first hfirst hstoresFirst] at hp
        exact absurd hp (by simp)
      | false => exact hreports.old key first hfirst hstoresFirst p hp

theorem renderToDisplay_keeps (hs : s.Tracks surface) (h : s.Reports)
    (hsupports : surface.supportsPartialUpdate_ = true) (hok : c.Reported s)
    (hinvalidate : c.pictureObj.invalidate = true) :
    (s.renderToDisplay surface c).Tracks surface ∧ (s.renderToDisplay surface c).Reports := by
  have htracks : (s.draw surface c).Tracks surface := hs.draw hok.1 hinvalidate
  unfold renderToDisplay
  dsimp only
  cases hbatch : c.batchCommit with
  | true =>
    rw [if_pos rfl]
    refine ⟨htracks, h.draw hs hsupports hok.1 hinvalidate ?_⟩
    by_cases hage : c.bufferAge = 1
    · exact .inr (by simp [hage])
    · exact .inl (by simp [DrawCommit.storesOnly, hage, hbatch])
  | false =>
    have hstores : ¬c.storesOnly = true := by simp [DrawCommit.storesOnly, hbatch]
    rw [if_neg (by simp)]
    refine ⟨htracks.swapBuffers (fun key => ?_) ?_, swapBuffers_reports _⟩
    · by_cases hage : c.bufferAge = 1
      · have hdrawn := drawn_of_reported hok hbatch (by simp [hage])
        refine htracks.drawn key ?_
        rw [draw_commits]
        exact hdrawn.last hage key
      · exact hs.draw_drawn htracks.redraws hstores hage key
    · exact draw_covers hs h hsupports hok.1 hinvalidate hbatch (drawn_of_reported hok hbatch)

end

/-- However commits are batched, and whatever the age of the buffer is, a swap reports what has
changed of each component, or the full screen, in a run that meets the condition. -/
theorem commitRun_covers {surface : WindowSurface}
    (hsupports : surface.supportsPartialUpdate_ = true) {s : WindowDelegator Picture}
    (hrun : Run (CommitStep surface) (fun s c => c.Reported s) {} s) :
    ∀ b ∈ s.swaps, b.Covers surface := by
  have hkeeps : s.Tracks surface ∧ s.Reports := by
    refine hrun.invariant (P := fun s => s.Tracks surface ∧ s.Reports) ?_
      ⟨init_tracks surface, by rintro _ _ ⟨⟩, by rintro _ _ ⟨⟩⟩
    rintro t c _ ⟨htracks, hreports⟩ hok ⟨hinvalidate, rfl⟩
    exact renderToDisplay_keeps htracks hreports hsupports hok hinvalidate
  exact hkeeps.1.swaps

/-- A window of 100 by 100 pixels. -/
def square : WindowSurface := ⟨true, [SkIRect.MakeXYWH 0 0 100 100]⟩

/-- A commit of a square of 10 by 10 pixels. -/
def commitAt (key : String) (x y : Int) (batchCommit : Bool) (bufferAge : Int) :
    DrawCommit Unit :=
  ⟨key, ⟨[SkIRect.MakeXYWH x y 10 10], some (), true⟩, batchCommit, bufferAge⟩

/-- A title moves twice, the second time together with a text that has not been there. -/
theorem commitRun_covers_moved : ∃ s : WindowDelegator Unit,
    (∀ b ∈ s.swaps, b.Covers square) ∧ s.swaps.map (·.dirtyRects) =
      [[SkIRect.MakeXYWH 0 0 100 100],
        [SkIRect.MakeXYWH 0 0 10 10, SkIRect.MakeXYWH 20 0 10 10],
        [SkIRect.MakeXYWH 20 0 10 10, SkIRect.MakeXYWH 40 0 10 10,
          SkIRect.MakeXYWH 60 0 10 10]] := by
  have hfold : ([commitAt "title" 0 0 false 0, commitAt "title" 20 0 false 2,
      commitAt "title" 40 0 true 1, commitAt "text" 60 0 false 1].foldlM
        (fun s (c : DrawCommit Unit) =>
          if c.Reported s ∧ c.pictureObj.invalidate = true then
            some (s.renderToDisplay square c) else none) {}).map
          (fun s => s.swaps.map (·.dirtyRects)) =
      some [[SkIRect.MakeXYWH 0 0 100 100],
        [SkIRect.MakeXYWH 0 0 10 10, SkIRect.MakeXYWH 20 0 10 10],
        [SkIRect.MakeXYWH 20 0 10 10, SkIRect.MakeXYWH 40 0 10 10,
          SkIRect.MakeXYWH 60 0 10 10]] := by
    decide +kernel
  obtain ⟨s, hrun, hswaps⟩ := Option.map_eq_some_iff.mp hfold
  refine ⟨s, commitRun_covers rfl (Run.of_foldlM (fun t c u h => ?_) hrun), hswaps⟩
  obtain ⟨⟨hok, hinvalidate⟩, hu⟩ := Option.ite_none_right_eq_some.mp h
  exact ⟨hok, hinvalidate, Option.some.inj hu⟩

/-- A title that moves in a batch leaves its old place unreported. -/
theorem not_covers_of_batched : ¬ ∀ surface : WindowSurface,
    surface.supportsPartialUpdate_ = true → ∀ s : WindowDelegator Unit,
      Run (CommitStep surface) anyStep {} s → ∀ b ∈ s.swaps, b.Covers surface := by
  intro hall
  have hfold : ([commitAt "title" 0 0 false 0, commitAt "title" 20 0 true 2,
      commitAt "text" 60 0 false 2].foldlM
        (fun (s : WindowDelegator Unit) (c : DrawCommit Unit) =>
          if c.pictureObj.invalidate = true then
            some (s.renderToDisplay square c) else none) {}).map
          (fun s => s.swaps.map fun b => (b.dirtyRects, b.onScreen "title",
            (lastOf b.commits "title").isSome)) =
      some [([SkIRect.MakeXYWH 0 0 100 100], [], true),
        ([SkIRect.MakeXYWH 20 0 10 10, SkIRect.MakeXYWH 60 0 10 10],
          [SkIRect.MakeXYWH 0 0 10 10], true)] := by
    decide +kernel
  obtain ⟨s, hfoldlM, hswaps⟩ := Option.map_eq_some_iff.mp hfold
  have hrun : Run (CommitStep square) anyStep {} s := by
    refine Run.of_foldlM (fun t c u h => ?_) hfoldlM
    obtain ⟨hinvalidate, hu⟩ := Option.ite_none_right_eq_some.mp h
    exact ⟨trivial, hinvalidate, Option.some.inj hu⟩
  obtain ⟨b, hb, hproj⟩ := List.mem_map.mp (hswaps ▸ List.mem_cons_of_mem _ List.mem_cons_self)
  simp only [Prod.mk.injEq] at hproj
  obtain ⟨hdirty, honScreen, hlast⟩ := hproj
  obtain ⟨c, hc⟩ := Option.isSome_iff_exists.mp hlast
  have hnot : ¬Covered b.dirtyRects (0, 0) := by
    rw [hdirty]
    decide
  rcases hall square rfl s hrun b hb with hfull | hcovers
  · exact hnot (hfull (0, 0) (by decide))
  · refine hnot (hcovers "title" c hc (0, 0) (.inr ?_))
    rw [honScreen]
    decide

end WindowDelegator

end ReactNativeSkia
