import ReactNativeSkia.Compositor.Compositor
import ReactNativeSkia.Compositor.Layers.Proofs.Damage
import ReactNativeSkia.Compositor.Layers.Proofs.Links
import ReactNativeSkia.Misc.Run

/-!
# Buffer age and damage history

A buffer of age `n` lacks the damage of the last `n - 1` frames, which `beginClip` adds from
the history. The history is right as long as `beginClip` only reads it; it writes to the
newest entry in a buffer older than two frames.
-/

namespace ReactNativeSkia

open Rect

namespace RenderedFrame

/-- The frame repaints its own damage and that of the `bufferAge - 1` frames before it, or the
whole viewport. -/
def Complete (f : RenderedFrame) (older : List RenderedFrame) : Prop :=
  (∀ q, (Covered f.own q ∨
      ∃ g ∈ older.take (f.bufferAge.toInt - 1).toNat, Covered g.own q) → Covered f.swapped q) ∨
    ∀ q ∈ f.viewport, Covered f.swapped q

/-- All frames are, the newest first. -/
def AllComplete : List RenderedFrame → Prop
  | [] => True
  | f :: older => f.Complete older ∧ AllComplete older

end RenderedFrame

namespace Compositor

/-- `beginClip` leaves the history as it is: the buffer is at most two frames old, or older
than the history, or the entry that overwrites the newest one is equal to it. -/
def AgeKeepsHistory (c : Compositor) (bufferAge : Int32) : Prop :=
  bufferAge.toInt ≤ 2 ∨ c.frameDamageHistory_.length < bufferAge.toInt ∨
    c.frameDamageHistory_.reverse[(bufferAge.toInt - 2).toNat]? =
      c.frameDamageHistory_.reverse.head?

/-! ## `beginClip` -/

theorem ageExceeds_iff (bufferAge : Int32) {size : Nat} (hsize : size < 2 ^ 31) :
    ageExceeds bufferAge size = true ↔ bufferAge.toInt < 0 ∨ size < bufferAge.toInt := by
  have hlo := bufferAge.le_toInt
  have hhi := bufferAge.toInt_lt
  rw [ageExceeds, decide_eq_true_eq]
  omega

/-- The loop covers the entries it meets, and the newest entry ends up as the last of them. -/
theorem addHistoryDamage_spec (entries : List FrameDamages) (age : Nat)
    (dirtyRects damage clipPath : FrameDamages) :
    (addHistoryDamage dirtyRects damage clipPath entries age).1 =
      (entries.take age).getLast?.getD dirtyRects ∧
    (∀ q, Covered (addHistoryDamage dirtyRects damage clipPath entries age).2.1 q ↔
      Covered damage q ∨ ∃ e ∈ entries.take age, Covered e q) ∧
    (∀ q, Covered (addHistoryDamage dirtyRects damage clipPath entries age).2.2 q ↔
      Covered clipPath q ∨ ∃ e ∈ entries.take age, Covered e q) := by
  induction entries generalizing age dirtyRects damage clipPath with
  | nil => simp [addHistoryDamage]
  | cons e entries ih =>
    cases age with
    | zero => simp [addHistoryDamage]
    | succ age =>
      obtain ⟨hnew, hdamage, hclip⟩ :=
        ih age e (e.foldl addDamageRect damage) (clipPath ++ e)
      simp only [addHistoryDamage, List.take_succ_cons, List.exists_mem_cons_iff]
      refine ⟨?_, ?_, ?_⟩
      · rw [hnew, List.getLast?_cons, Option.getD_some]
      · intro q
        rw [hdamage, covered_foldl_addDamageRect, or_assoc]
      · intro q
        rw [hclip, covered_append, or_assoc]

section
variable {c c' : Compositor} {bufferAge : Int32} {clipPath : Option (List SkIRect)}

/-- Fields that `beginClip` does not touch. -/
theorem beginClip_frame (c : Compositor) (bufferAge : Int32) :
    (c.beginClip bufferAge).1.supportPartialUpdate_ = c.supportPartialUpdate_ ∧
    (c.beginClip bufferAge).1.viewportSize = c.viewportSize ∧
    (c.beginClip bufferAge).1.rootLayer_ = c.rootLayer_ := by
  unfold beginClip
  split
  · exact ⟨rfl, rfl, rfl⟩
  · split
    · exact ⟨rfl, rfl, rfl⟩
    · split
      · exact ⟨rfl, rfl, rfl⟩
      · split <;> exact ⟨rfl, rfl, rfl⟩

/-- With damage of its own, a frame is clipped to that and to the damage of the last
`bufferAge - 1` frames, all of which are in the history, or to the whole viewport. -/
theorem beginClip_covers (hne : c.surfaceDamage_ ≠ [])
    (hsize : c.frameDamageHistory_.length < 2 ^ 31) :
    ((bufferAge.toInt ≤ 1 ∨ bufferAge.toInt ≤ c.frameDamageHistory_.length) ∧
      ∀ q, (Covered c.surfaceDamage_ q ∨
        ∃ e ∈ c.frameDamageHistory_.reverse.take (bufferAge.toInt - 1).toNat, Covered e q) →
          Covered (c.beginClip bufferAge).1.surfaceDamage_ q) ∨
    ∀ q ∈ c.viewportRect, Covered (c.beginClip bufferAge).1.surfaceDamage_ q := by
  unfold beginClip
  rw [if_neg hne]
  split
  · rename_i hone
    refine Or.inl ⟨Or.inl (by rw [hone]; decide), fun q hq => ?_⟩
    rw [hone] at hq
    simpa using hq
  · split
    · exact Or.inr fun q hq => (covered_addDamageRect [] _ q).mpr (Or.inr hq)
    · rename_i hfull
      simp only [Bool.or_eq_true, ageExceeds_iff bufferAge hsize, not_or, not_lt] at hfull
      refine Or.inl ⟨Or.inr hfull.2.2, fun q hq => ?_⟩
      split
      · rename_i hnil
        rw [hnil] at hq
        simpa using hq
      · rename_i newest older hrev
        rw [hrev] at hq
        exact ((addHistoryDamage_spec _ _ _ _ _).2.1 q).mpr hq

/-- The clip path and the damage to swap are the same pixels. -/
theorem beginClip_clipPath {clip : List SkIRect} (hb : c.beginClip bufferAge = (c', some clip))
    (q : Pixel) : Covered clip q ↔ Covered c'.surfaceDamage_ q := by
  unfold beginClip at hb
  split at hb
  · cases hb
  · split at hb
    · cases hb
      exact Iff.rfl
    · split at hb
      · cases hb
        rw [covered_addDamageRect, covered_cons, covered_nil]
        tauto
      · split at hb
        · cases hb
          exact Iff.rfl
        · cases hb
          rw [(addHistoryDamage_spec _ _ _ _ _).2.1, (addHistoryDamage_spec _ _ _ _ _).2.2]

/-- The history after `beginClip` of a frame with damage, newest entry first: either it is as
before, or its newest entry is overwritten by the last one read. -/
theorem beginClip_history (hne : c.surfaceDamage_ ≠ [])
    (hsize : c.frameDamageHistory_.length < 2 ^ 31) :
    (c.beginClip bufferAge).1.frameDamageHistory_.reverse =
      if 2 < bufferAge.toInt ∧ bufferAge.toInt ≤ c.frameDamageHistory_.length then
        c.frameDamageHistory_.reverse.modifyHead fun newest =>
          (c.frameDamageHistory_.reverse[(bufferAge.toInt - 2).toNat]?).getD newest
      else c.frameDamageHistory_.reverse := by
  have hzero : bufferAge = 0 ↔ bufferAge.toInt = 0 := by
    rw [← Int32.toInt_inj]
    rfl
  have hone : bufferAge = 1 ↔ bufferAge.toInt = 1 := by
    rw [← Int32.toInt_inj]
    rfl
  unfold beginClip
  rw [if_neg hne]
  split
  · rename_i h1
    rw [hone] at h1
    rw [if_neg (by omega)]
  · rename_i h1
    rw [hone] at h1
    split
    · rename_i hfull
      simp only [Bool.or_eq_true, decide_eq_true_eq, ageExceeds_iff bufferAge hsize, hzero] at hfull
      rw [if_neg (by omega)]
    · rename_i hfull
      simp only [Bool.or_eq_true, decide_eq_true_eq, ageExceeds_iff bufferAge hsize, hzero, not_or,
        not_lt] at hfull
      have hlen : c.frameDamageHistory_.reverse.length = c.frameDamageHistory_.length :=
        List.length_reverse
      split
      · rename_i hnil
        rw [hnil, List.length_nil] at hlen
        omega
      · rename_i newest older hrev
        have hlast : ((newest :: older).take (bufferAge.toInt - 1).toNat).getLast? =
            (newest :: older)[(bufferAge.toInt - 2).toNat]? := by
          rw [hrev] at hlen
          have hidx : (bufferAge.toInt - 1).toNat = (bufferAge.toInt - 2).toNat + 1 := by omega
          rw [hidx, List.getLast?_take, if_neg (Nat.succ_ne_zero _), Nat.add_sub_cancel,
            List.getElem?_eq_getElem (by omega), Option.some_or]
        simp only [List.reverse_reverse, (addHistoryDamage_spec _ _ _ _ _).1, hlast, hrev,
          List.modifyHead_cons]
        split
        · rfl
        · -- a buffer two frames old only reads the newest entry
          have htwo : bufferAge.toInt = 2 := by omega
          simp [htwo]

/-- The history survives `beginClip` exactly under the condition on the age. -/
theorem beginClip_history_iff (hne : c.surfaceDamage_ ≠ [])
    (hsize : c.frameDamageHistory_.length < 2 ^ 31) :
    (c.beginClip bufferAge).1.frameDamageHistory_ = c.frameDamageHistory_ ↔
      c.AgeKeepsHistory bufferAge := by
  rw [← List.reverse_inj, beginClip_history hne hsize, AgeKeepsHistory]
  split
  · rename_i hage
    have hlt : (bufferAge.toInt - 2).toNat < c.frameDamageHistory_.reverse.length := by
      rw [List.length_reverse]
      omega
    cases hrev : c.frameDamageHistory_.reverse with
    | nil => simp [hrev] at hlt
    | cons newest older =>
      rw [hrev] at hlt
      simp only [List.modifyHead_cons, List.cons.injEq, and_true, List.head?_cons,
        List.getElem?_eq_getElem hlt, Option.getD_some, Option.some.injEq]
      constructor
      · exact fun heq => Or.inr (Or.inr heq)
      · rintro (h2 | hlong | heq)
        · omega
        · omega
        · exact heq
  · rename_i hage
    constructor
    · intro _
      by_cases h2 : bufferAge.toInt ≤ 2
      · exact Or.inl h2
      · exact Or.inr (Or.inl (by omega))
    · intro _
      rfl

theorem beginClip_of_nil (hnil : c.surfaceDamage_ = []) : c.beginClip bufferAge = (c, none) := by
  rw [beginClip, if_pos hnil]

/-- A history that holds the last frames holds them after one more. -/
theorem pushHistory_take (own : FrameDamages) {frames : List FrameDamages}
    (hc : c.frameDamageHistory_ = (frames.take RNS_SHELL_MAX_FRAME_DAMAGE_HISTORY).reverse) :
    (c.pushHistory own).frameDamageHistory_ =
      ((own :: frames).take RNS_SHELL_MAX_FRAME_DAMAGE_HISTORY).reverse := by
  have hmax : RNS_SHELL_MAX_FRAME_DAMAGE_HISTORY = 4 + 1 := rfl
  have hkept : (if c.frameDamageHistory_.length ≥ RNS_SHELL_MAX_FRAME_DAMAGE_HISTORY then
      c.frameDamageHistory_.tail else c.frameDamageHistory_) = (frames.take 4).reverse := by
    rw [hc, List.length_reverse, List.length_take, List.tail_reverse]
    by_cases hlen : frames.length < 5
    · rw [if_neg (by omega), List.take_of_length_le (by omega), List.take_of_length_le (by omega)]
    · have hdrop : min (min RNS_SHELL_MAX_FRAME_DAMAGE_HISTORY frames.length - 1)
          RNS_SHELL_MAX_FRAME_DAMAGE_HISTORY = 4 := by omega
      rw [if_pos (by omega), List.dropLast_eq_take, List.length_take, List.take_take, hdrop]
  simp only [pushHistory, hkept]
  rw [hmax, List.take_succ_cons, List.reverse_cons]

end

theorem modifyHead_of_dropLast {α : Type*} {g : α → α} {l : List α} (hlen : 1 < l.length)
    (h : (l.modifyHead g).dropLast = l.dropLast) : l.modifyHead g = l := by
  cases l with
  | nil => rfl
  | cons a l =>
    cases l with
    | nil => simp at hlen
    | cons b l =>
      simp only [List.modifyHead_cons, List.dropLast_cons_cons, List.cons.injEq] at h
      rw [List.modifyHead_cons, h.1]

/-- An overwritten entry is still in the history after the push. -/
theorem beginClip_history_of_pushHistory {c : Compositor} {own : FrameDamages} {age : Int32}
    (hne : c.surfaceDamage_ ≠ []) (hsize : c.frameDamageHistory_.length < 2 ^ 31)
    (hpush : ((c.beginClip age).1.pushHistory own).frameDamageHistory_ =
      (c.pushHistory own).frameDamageHistory_) :
    (c.beginClip age).1.frameDamageHistory_ = c.frameDamageHistory_ := by
  have hrev := @beginClip_history c age hne hsize
  split at hrev
  · rename_i hage
    rw [← List.reverse_inj, hrev]
    refine modifyHead_of_dropLast (by rw [List.length_reverse]; omega) ?_
    have hlen : (c.beginClip age).1.frameDamageHistory_.length =
        c.frameDamageHistory_.length := by
      rw [← List.length_reverse, hrev, List.length_modifyHead, List.length_reverse]
    have hkept := List.append_cancel_right hpush
    rw [hlen] at hkept
    rw [← hrev, List.dropLast_reverse, List.dropLast_reverse]
    split at hkept
    · rw [hkept]
    · rw [hkept]
  · rw [← List.reverse_inj, hrev]

/-! ## Rendering -/

section
variable [Skia]

/-- The damage with which `renderLayerTree` enters `beginClip`, if it gets there. -/
def ownDamage (c : Compositor) (h : Heap) : Option FrameDamages :=
  match c.rootLayer_ with
  | some root =>
    if c.windowContext_ && c.backBuffer_ then
      (h.prePaint root c.paintContext false).map fun r => r.2.damageRect
    else none
  | none => none

/-- The compositor in which `beginClip` runs. -/
def atClip (c : Compositor) (own : FrameDamages) : Compositor :=
  { c with surfaceDamage_ := own, needsResize := false }

theorem needsPainting_nil (l : Layer) (offset : Int × Int) :
    l.needsPainting ⟨[], true, offset⟩ = false := by
  simp [Layer.needsPainting, Layer.hits]

/-- `renderLayerTree` clips, and pushes the own damage of a frame that is swapped. -/
theorem renderLayerTree_spec {c c' : Compositor} {h h' : Heap} {age : Int32}
    {frame : Option RenderedFrame} (hr : c.renderLayerTree h age = some (c', h', frame)) :
    (c' = c ∧ frame = none) ∨ ∃ own, c.ownDamage h = some own ∧
      ((frame = none ∧ c' = ((c.atClip own).beginClip age).1) ∨
        (∃ f, frame = some f ∧ f.own = own ∧ f.bufferAge = age ∧
          f.swapped = ((c.atClip own).beginClip age).1.surfaceDamage_ ∧
          f.viewport = c.viewportRect ∧
          c' = ((c.atClip own).beginClip age).1.pushHistory own ∧
          (own = [] → c.supportPartialUpdate_ = false))) := by
  unfold renderLayerTree at hr
  split at hr
  · rename_i root hroot
    split at hr
    · rename_i hready
      obtain ⟨⟨h₁, context⟩, hpre, hrest⟩ := Option.bind_eq_some_iff.mp hr
      have hown : c.ownDamage h = some context.damageRect := by
        simp only [ownDamage, hroot, hready, if_true, hpre, Option.map_some]
      have hvp : ((c.atClip context.damageRect).beginClip age).1.viewportRect =
          c.viewportRect := by
        rw [viewportRect, (beginClip_frame _ _).2.1]
        rfl
      refine Or.inr ⟨_, hown, ?_⟩
      change (if (!(h₁.layer root).needsPainting
        ((c.atClip context.damageRect).beginClip age).1.paintContext) = true then _ else _) =
        some (c', h', frame) at hrest
      split at hrest
      · obtain ⟨rfl, rfl, rfl⟩ := Prod.mk.inj (Option.some.inj hrest) |>.imp_right Prod.mk.inj
        exact Or.inl ⟨rfl, rfl⟩
      · rename_i hpaint
        obtain ⟨⟨h₂, ops⟩, -, hend⟩ := Option.bind_eq_some_iff.mp hrest
        obtain ⟨hc', -, hf⟩ := Prod.mk.inj (Option.some.inj hend) |>.imp_right Prod.mk.inj
        refine Or.inr ⟨_, hf.symm, rfl, rfl, rfl, hvp, hc'.symm, fun hnil => ?_⟩
        -- without damage nothing needs painting, unless everything is painted
        cases hs : c.supportPartialUpdate_ with
        | false => rfl
        | true =>
          refine absurd ?_ hpaint
          have hclip : ((c.atClip context.damageRect).beginClip age).1.paintContext =
              ⟨[], true, (0, 0)⟩ := by
            rw [beginClip_of_nil (by rw [atClip, hnil])]
            simp [paintContext, atClip, hnil, hs]
          rw [hclip, needsPainting_nil]
          rfl
    · cases hr
      exact Or.inl ⟨rfl, rfl⟩
  · cases hr
    exact Or.inl ⟨rfl, rfl⟩

end

end Compositor

/-! ## Runs of frames -/

/-- The compositor with the frames it has rendered, the newest first. -/
structure FrameLog where
  compositor : Compositor
  frames : List RenderedFrame
  deriving DecidableEq

namespace FrameLog

/-- A compositor as its constructor leaves it. -/
structure Constructed (s : FrameLog) : Prop where
  damage : s.compositor.surfaceDamage_ = []
  history : s.compositor.frameDamageHistory_ = []
  frames : s.frames = []

/-- The history holds the own damages of the last frames, the oldest first. -/
def HistoryHolds (s : FrameLog) : Prop :=
  s.compositor.frameDamageHistory_ =
    ((s.frames.map RenderedFrame.own).take RNS_SHELL_MAX_FRAME_DAMAGE_HISTORY).reverse

/-- The invariant. Without partial updates there is never any damage. -/
structure Fits (s : FrameLog) : Prop where
  history : s.HistoryHolds
  complete : RenderedFrame.AllComplete s.frames
  unsupported : s.compositor.supportPartialUpdate_ = false →
    s.compositor.surfaceDamage_ = [] ∧ ∀ f ∈ s.frames, f.own = []

theorem Constructed.fits {s : FrameLog} (hs : s.Constructed) : s.Fits where
  history := by rw [HistoryHolds, hs.history, hs.frames]; rfl
  complete := by rw [hs.frames]; trivial
  unsupported _ := ⟨hs.damage, by rw [hs.frames]; simp⟩

variable {s s' : FrameLog}

theorem HistoryHolds.length_lt (hs : s.HistoryHolds) :
    s.compositor.frameDamageHistory_.length < 2 ^ 31 := by
  rw [hs, List.length_reverse, List.length_take, RNS_SHELL_MAX_FRAME_DAMAGE_HISTORY]
  omega

/-- A compositor that differs in nothing the invariant is about. -/
theorem Fits.congr (hs : s.Fits) {c : Compositor}
    (hh : c.frameDamageHistory_ = s.compositor.frameDamageHistory_)
    (hu : c.supportPartialUpdate_ = s.compositor.supportPartialUpdate_)
    (hd : c.supportPartialUpdate_ = false → c.surfaceDamage_ = []) :
    Fits ⟨c, s.frames⟩ where
  history := hh.trans hs.history
  complete := hs.complete
  unsupported h := ⟨hd h, (hs.unsupported (hu ▸ h)).2⟩

/-- A swapped frame with damage is complete, whatever the age. -/
theorem Fits.complete_frame (hs : s.Fits) {f : RenderedFrame} (hne : f.own ≠ [])
    (hsw : f.swapped =
      ((s.compositor.atClip f.own).beginClip f.bufferAge).1.surfaceDamage_)
    (hvp : f.viewport = s.compositor.viewportRect) : f.Complete s.frames := by
  have hcov := @Compositor.beginClip_covers (s.compositor.atClip f.own) f.bufferAge hne
    hs.history.length_lt
  rcases hcov with ⟨hage, hcov⟩ | hcov
  · apply Or.inl
    intro q hq
    rw [hsw]
    refine hcov q (hq.imp_right ?_)
    rintro ⟨g, hg, hgq⟩
    -- the frames the buffer lacks are still in the history
    refine ⟨g.own, ?_, hgq⟩
    have hrev : (s.compositor.atClip f.own).frameDamageHistory_.reverse =
        (s.frames.map RenderedFrame.own).take RNS_SHELL_MAX_FRAME_DAMAGE_HISTORY := by
      rw [Compositor.atClip, hs.history, List.reverse_reverse]
    have hlen : (s.compositor.atClip f.own).frameDamageHistory_.length ≤
        RNS_SHELL_MAX_FRAME_DAMAGE_HISTORY := by
      rw [← List.length_reverse, hrev, List.length_take]
      exact Nat.min_le_left _ _
    rw [hrev, List.take_take, Nat.min_eq_left (by omega), ← List.map_take]
    exact List.mem_map_of_mem hg
  · apply Or.inr
    intro q hq
    rw [hsw]
    exact hcov q (hvp ▸ hq)

theorem complete_of_nil {f : RenderedFrame} {older : List RenderedFrame} (hf : f.own = [])
    (hold : ∀ g ∈ older, g.own = []) : f.Complete older := by
  apply Or.inl
  intro q hq
  rcases hq with hq | ⟨g, hg, hq⟩
  · rw [hf, covered_nil] at hq
    exact hq.elim
  · rw [hold g (List.mem_of_mem_take hg), covered_nil] at hq
    exact hq.elim

/-- The history after `beginClip`, under the condition. -/
theorem beginClip_history_of_keeps {c : Compositor} {own : FrameDamages} {age : Int32}
    (hsize : c.frameDamageHistory_.length < 2 ^ 31)
    (hok : own ≠ [] → c.AgeKeepsHistory age) :
    ((c.atClip own).beginClip age).1.frameDamageHistory_ = c.frameDamageHistory_ := by
  by_cases hne : own = []
  · rw [Compositor.beginClip_of_nil hne]
    rfl
  · exact (Compositor.beginClip_history_iff (c := c.atClip own) hne hsize).mpr (hok hne)

end FrameLog

section
variable [Skia]

/-- The calls on the compositor between and for frames. The layers change at will between
two frames, and the window context reports any age. -/
inductive FrameOp where
  | begin
  | addDamageRect (damage : SkIRect)
  | setRootLayer (layer : Option LayerId)
  | setViewportSize (size : SkISize)
  | invalidate
  | renderLayerTree (h : Heap) (bufferAge : Int32)

namespace FrameOp

def exec (s : FrameLog) : FrameOp → Option FrameLog
  | begin => some { s with compositor := s.compositor.clearDamage }
  | addDamageRect damage => some { s with compositor := s.compositor.addDamage damage }
  | setRootLayer layer => some { s with compositor := s.compositor.setRootLayer layer }
  | setViewportSize size => some { s with compositor := s.compositor.resize size }
  | invalidate => some { s with compositor := s.compositor.invalidate }
  | renderLayerTree h bufferAge =>
    (s.compositor.renderLayerTree h bufferAge).map fun r => ⟨r.1, r.2.2.toList ++ s.frames⟩

/-- A frame with damage comes with an age under which `beginClip` leaves the history alone. -/
def KeepsHistory (s : FrameLog) : FrameOp → Prop
  | renderLayerTree h bufferAge => ∀ own, s.compositor.ownDamage h = some own → own ≠ [] →
    s.compositor.AgeKeepsHistory bufferAge
  | _ => True

end FrameOp

def frameStep (s : FrameLog) (op : FrameOp) (s' : FrameLog) : Prop := op.exec s = some s'

namespace FrameLog

variable {s s' : FrameLog}

/-- Without partial updates a frame has no damage of its own. -/
theorem Fits.own_nil (hs : s.Fits) (hu : s.compositor.supportPartialUpdate_ = false) {h : Heap}
    {own : FrameDamages} (hown : s.compositor.ownDamage h = some own) : own = [] := by
  unfold Compositor.ownDamage at hown
  split at hown
  · split at hown
    · obtain ⟨⟨h', context⟩, hpre, rfl⟩ := Option.map_eq_some_iff.mp hown
      have hsame := Heap.prePaintLevels_unsupported _ _ _ _ _ _ _ (by exact hu) hpre
      rw [hsame]
      exact (hs.unsupported hu).1
    · cases hown
  · cases hown

theorem Fits.render (hs : s.Fits) {h : Heap} {age : Int32}
    (hok : FrameOp.KeepsHistory s (.renderLayerTree h age))
    (hr : FrameOp.exec s (.renderLayerTree h age) = some s') : s'.Fits := by
  obtain ⟨⟨c', h', frame⟩, hrender, rfl⟩ := Option.map_eq_some_iff.mp hr
  rcases Compositor.renderLayerTree_spec hrender with ⟨rfl, rfl⟩ | ⟨own, hown, hcase⟩
  · exact hs
  · have hkeeps : own ≠ [] → s.compositor.AgeKeepsHistory age := hok own hown
    have hhist := beginClip_history_of_keeps hs.history.length_lt hkeeps
    obtain ⟨hu, -, -⟩ := (s.compositor.atClip own).beginClip_frame age
    have hnil : s.compositor.supportPartialUpdate_ = false →
        ((s.compositor.atClip own).beginClip age).1.surfaceDamage_ = [] := fun hu' => by
      have hown' := hs.own_nil hu' hown
      rw [Compositor.beginClip_of_nil hown']
      exact hown'
    rcases hcase with ⟨rfl, rfl⟩ | ⟨f, rfl, rfl, rfl, hsw, hvp, rfl, hempty⟩
    · exact hs.congr hhist hu fun h' => hnil (hu ▸ h')
    · refine ⟨?_, ⟨?_, hs.complete⟩, ?_⟩
      · exact Compositor.pushHistory_take f.own (hhist.trans hs.history)
      · by_cases hne : f.own = []
        · exact complete_of_nil hne (hs.unsupported (hempty hne)).2
        · exact hs.complete_frame hne hsw hvp
      · intro hu'
        have hu'' : s.compositor.supportPartialUpdate_ = false := hu ▸ hu'
        refine ⟨hnil hu'', ?_⟩
        rintro g (_ | ⟨_, hg⟩)
        · exact hs.own_nil hu'' hown
        · exact (hs.unsupported hu'').2 g hg

/-- The step lemma. -/
theorem Fits.step (hs : s.Fits) {op : FrameOp} (hok : op.KeepsHistory s)
    (hstep : frameStep s op s') : s'.Fits := by
  cases op with
  | begin =>
    cases hstep
    exact hs.congr rfl rfl fun _ => rfl
  | addDamageRect damage =>
    cases hstep
    have hadd : s.compositor.supportPartialUpdate_ = false →
        s.compositor.addDamage damage = s.compositor := fun hu => by
      simp [Compositor.addDamage, hu]
    refine hs.congr ?_ ?_ fun hu => ?_
    · unfold Compositor.addDamage; split <;> rfl
    · unfold Compositor.addDamage; split <;> rfl
    · have hu' : s.compositor.supportPartialUpdate_ = false := by
        unfold Compositor.addDamage at hu
        split at hu <;> exact hu
      rw [hadd hu']
      exact (hs.unsupported hu').1
  | setRootLayer layer =>
    cases hstep
    exact hs.congr rfl rfl fun hu => (hs.unsupported hu).1
  | setViewportSize size =>
    cases hstep
    unfold Compositor.resize
    split
    · exact hs
    · exact hs.congr rfl rfl fun hu => (hs.unsupported hu).1
  | invalidate =>
    cases hstep
    exact hs.congr rfl rfl fun hu => (hs.unsupported hu).1
  | renderLayerTree h age => exact hs.render hok hstep

/-- After a frame the history holds exactly if the age of the frame let it be. -/
theorem Fits.historyHolds_iff (hs : s.Fits) {h : Heap} {age : Int32}
    (hstep : frameStep s (.renderLayerTree h age) s') (hframe : s'.frames ≠ s.frames) :
    s'.HistoryHolds ↔ FrameOp.KeepsHistory s (.renderLayerTree h age) := by
  constructor
  · intro hh own hown hne
    obtain ⟨⟨c', h', frame⟩, hrender, rfl⟩ := Option.map_eq_some_iff.mp hstep
    rcases Compositor.renderLayerTree_spec hrender with ⟨rfl, rfl⟩ | ⟨own', hown', hcase⟩
    · exact absurd rfl hframe
    · obtain rfl : own = own' := Option.some.inj (hown.symm.trans hown')
      rcases hcase with ⟨rfl, rfl⟩ | ⟨f, rfl, rfl, rfl, -, -, rfl, -⟩
      · exact absurd rfl hframe
      · have hpush : (((s.compositor.atClip f.own).beginClip f.bufferAge).1.pushHistory
            f.own).frameDamageHistory_ =
            ((s.compositor.atClip f.own).pushHistory f.own).frameDamageHistory_ := by
          rw [Compositor.pushHistory_take (c := s.compositor.atClip f.own) f.own hs.history]
          exact hh
        have hkept := Compositor.beginClip_history_of_pushHistory (c := s.compositor.atClip f.own)
          hne hs.history.length_lt hpush
        exact (Compositor.beginClip_history_iff (c := s.compositor.atClip f.own) hne
          hs.history.length_lt).mp hkept
  · intro hok
    exact (hs.render hok hstep).history

/-- In every run of frames whose ages let the history be, the history holds the own damages of
the last frames and every frame is complete. The next frame, of any age, leaves the history
right exactly if its age lets it be. -/
theorem frameRun_complete {s₀ : FrameLog} (hc : s₀.Constructed)
    (hrun : Run frameStep (fun s op => op.KeepsHistory s) s₀ s) :
    (s.HistoryHolds ∧ RenderedFrame.AllComplete s.frames) ∧
    ∀ h age s', frameStep s (.renderLayerTree h age) s' → s'.frames ≠ s.frames →
      (s'.HistoryHolds ↔ FrameOp.KeepsHistory s (.renderLayerTree h age)) := by
  have hfits := hrun.invariant (fun _ _ _ hs hok hstep => hs.step hok hstep) hc.fits
  exact ⟨⟨hfits.history, hfits.complete⟩, fun _ _ _ => hfits.historyHolds_iff⟩

end FrameLog

end

namespace FrameLog

open TranslationSkia

/-- A window of a hundred pixels with one layer that is up to date. -/
def oneLayer : Heap := Heap.ofLayers
  [{ frame_ := .MakeXYWH 0 0 100 100
     absFrame_ := .MakeXYWH 0 0 100 100
     bounds_ := .MakeXYWH 0 0 100 100
     invalidateMask_ := LayerInvalidateNone }]

def start : FrameLog where
  compositor :=
    { windowContext_ := true
      backBuffer_ := true
      rootLayer_ := some 0
      supportPartialUpdate_ := true
      surfaceDamage_ := []
      frameDamageHistory_ := []
      viewportSize := ⟨100, 100⟩
      needsResize := false }
  frames := []

theorem start_constructed : start.Constructed := ⟨rfl, rfl, rfl⟩

/-- A frame with one damaged rectangle. -/
def damagedFrame (damage : SkIRect) (age : Int32) : List FrameOp :=
  [.begin, .addDamageRect damage, .renderLayerTree oneLayer age]

/-- Four frames, the last of them in a buffer of age 3: the history loses the damage of the
third. -/
theorem history_overwritten : ¬ ∀ s₀ s : FrameLog, s₀.Constructed →
    Run frameStep anyStep s₀ s → s.HistoryHolds ∧ RenderedFrame.AllComplete s.frames := by
  intro hall
  have hval : ((damagedFrame (.MakeXYWH 0 0 10 10) 0 ++ damagedFrame (.MakeXYWH 10 0 10 10) 1 ++
      damagedFrame (.MakeXYWH 20 0 10 10) 1 ++ damagedFrame (.MakeXYWH 30 0 10 10) 3).foldlM
        FrameOp.exec start).map (fun s => (s.compositor.frameDamageHistory_,
          s.frames.map RenderedFrame.own)) =
      some ([[.MakeXYWH 0 0 10 10], [.MakeXYWH 10 0 10 10], [.MakeXYWH 10 0 10 10],
          [.MakeXYWH 30 0 10 10]],
        [[.MakeXYWH 30 0 10 10], [.MakeXYWH 20 0 10 10], [.MakeXYWH 10 0 10 10],
          [.MakeXYWH 0 0 10 10]]) := by
    decide +kernel
  obtain ⟨s, hs, hval⟩ := Option.map_eq_some_iff.mp hval
  obtain ⟨hhist, hown⟩ := Prod.mk.inj hval
  have hrun : Run frameStep anyStep start s :=
    Run.of_exec hs
  have hholds := (hall start s start_constructed hrun).1
  rw [HistoryHolds, hhist, hown] at hholds
  revert hholds
  decide

theorem frameRun_complete_first_frame : ∃ s,
    (damagedFrame (.MakeXYWH 0 0 10 10) 0).foldlM FrameOp.exec start = some s ∧
    s.HistoryHolds ∧ RenderedFrame.AllComplete s.frames := by
  obtain ⟨s, hs⟩ : ∃ s, (damagedFrame (.MakeXYWH 0 0 10 10) 0).foldlM FrameOp.exec start =
      some s :=
    Option.isSome_iff_exists.mp (by decide +kernel)
  have hrun : Run frameStep (fun s op => op.KeepsHistory s) start s := by
    have hrender : FrameOp.exec ⟨start.compositor.clearDamage.addDamage (.MakeXYWH 0 0 10 10), []⟩
        (.renderLayerTree oneLayer 0) = some s := by
      obtain ⟨s', hs', hend⟩ := Option.bind_eq_some_iff.mp hs
      rwa [Option.some.inj hend] at hs'
    exact ((Run.single (a := .begin) trivial rfl).tail (a := .addDamageRect (.MakeXYWH 0 0 10 10))
      trivial rfl).tail (a := .renderLayerTree oneLayer 0)
        (fun _ _ _ => Or.inl (by decide)) hrender
  exact ⟨s, hs, (frameRun_complete start_constructed hrun).1⟩

end FrameLog

end ReactNativeSkia
