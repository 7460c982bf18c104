import Mathlib.Data.List.Nodup
import ReactNativeSkia.Animation.ActivityIndicator
import ReactNativeSkia.Animation.Proofs.CallQueue
import ReactNativeSkia.Misc.Lists
import ReactNativeSkia.Misc.Run

/-!
# Activity indicators are animated while they live

The list has the living components that animate, and the request is active while it has one. A
frame rotates the entries at the positions it had at the start: when a destructor takes an entry
out behind its back, the entries behind move down and one of them is passed over. This is harmless
only when the loop has nothing left to do.
-/

namespace ReactNativeSkia

variable {s t : ActivityIndicators} {tag entry : Nat} {component : ActivityIndicator}
  {frame : IndicatorFrame}

namespace ActivityIndicators

/-- The component lives, and its last update says that it animates. -/
def Animates (s : ActivityIndicators) (tag : Nat) : Prop :=
  ∃ component ∈ s.components tag,
    component.initialPropertiesParsed_ = true ∧ component.animating = true

structure Sound (s : ActivityIndicators) : Prop where
  listed : ∀ tag, tag ∈ s.actIndComponentList_ ↔ s.Animates tag
  nodup : s.actIndComponentList_.Nodup
  active : (s.loop.objects animRequest).isActive_ = true ↔ s.actIndComponentList_ ≠ []
  rotated : ∀ frame ∈ s.frames, ∀ tag ∈ frame.before, tag ∈ frame.after →
    frame.rotated.count tag = 1

end ActivityIndicators

/-- The position that the loop looks at next. -/
def IndicatorFrame.next (frame : IndicatorFrame) : Nat :=
  frame.iter + frame.component.isSome.toNat

/-- The component whose destructor the step runs inside the loop. -/
def IndicatorOp.destroys (s : ActivityIndicators) (frame : IndicatorFrame) :
    IndicatorOp → Option Nat
  | delete tag => if frame.holds tag then none else some tag
  | release => frame.component.filter fun tag =>
      frame.firstComponent ≠ tag && (s.components tag).any fun component => !component.registered
  | _ => none

/-- No component of the list is destroyed while the loop has positions left. -/
def IndicatorOp.SparesLoop (s : ActivityIndicators) (op : IndicatorOp) : Prop :=
  ∀ frame ∈ s.frame, frame.next < frame.last →
    ∀ tag ∈ op.destroys s frame, tag ∉ s.actIndComponentList_

instance (s : ActivityIndicators) (op : IndicatorOp) : Decidable (op.SparesLoop s) := by
  unfold IndicatorOp.SparesLoop
  infer_instance

/-! ## The request -/

namespace AnimationLoop

variable {l : AnimationLoop} {object : Nat}

theorem isActive_requestAnimationFrame (l : AnimationLoop) (object object' : Nat) :
    ((l.requestAnimationFrame object).objects object').isActive_ =
      (l.objects object').isActive_ := by
  unfold requestAnimationFrame
  by_cases heq : object' = object
  · subst heq
    split <;> simp [setObject]
  · split <;> simp [setObject, Function.update_of_ne heq]

@[simp] theorem isActive_start (l : AnimationLoop) (object : Nat) :
    ((l.start object).objects object).isActive_ = true := by
  unfold start
  split
  · assumption
  · rw [isActive_requestAnimationFrame]
    simp [setObject]

@[simp] theorem isActive_stop (l : AnimationLoop) (object : Nat) :
    ((l.stop object).objects object).isActive_ = false := by
  unfold stop
  split
  · simp [noteStopped, setObject]
  · rename_i h
    exact Bool.eq_false_iff.mpr h

/-- JS by itself neither starts nor stops an object. -/
theorem isActive_ofJs {l' : AnimationLoop} {op : AnimationOp} (hjs : op.ofJs = true)
    (hexec : op.exec l = some l') (object : Nat) :
    (l'.objects object).isActive_ = (l.objects object).isActive_ := by
  cases op with
  | start object => cases hjs
  | stop object => cases hjs
  | beginFrame timestamp =>
    obtain ⟨-, ⟨⟩⟩ := Option.ite_none_right_eq_some.mp hexec
    rfl
  | call =>
    obtain ⟨frame, -, hexec⟩ := Option.bind_eq_some_iff.mp hexec
    split at hexec
    · obtain rfl := Option.some.inj hexec
      unfold AnimationLoop.call
      dsimp only
      split
      · rfl
      · rw [isActive_requestAnimationFrame]
    · cases hexec
  | callbackReturns =>
    obtain ⟨frame, -, hexec⟩ := Option.bind_eq_some_iff.mp hexec
    split at hexec
    · obtain rfl := Option.some.inj hexec
      unfold AnimationLoop.callbackReturns
      rw [isActive_requestAnimationFrame]
    · cases hexec
  | endFrame =>
    obtain ⟨frame, -, hexec⟩ := Option.bind_eq_some_iff.mp hexec
    split at hexec
    · obtain rfl := Option.some.inj hexec
      rfl
    · cases hexec

end AnimationLoop

namespace ActivityIndicators

/-! ## The list -/

/-- What the list, the living components and the request have to do with each other. -/
structure Registered (s : ActivityIndicators) : Prop where
  listed : ∀ tag, tag ∈ s.actIndComponentList_ ↔ s.Animates tag
  nodup : s.actIndComponentList_.Nodup
  active : (s.loop.objects animRequest).isActive_ = true ↔ s.actIndComponentList_ ≠ []

theorem Registered.alive (h : s.Registered) (hmem : tag ∈ s.actIndComponentList_) :
    s.alive tag = true := by
  obtain ⟨component, hcomponent, -⟩ := (h.listed tag).mp hmem
  rw [Option.mem_def] at hcomponent
  simp [ActivityIndicators.alive, hcomponent]

/-- With no other entry expired `removeComponent` takes out the one of the tag. -/
theorem removeComponent_list (h : ∀ entry ∈ s.actIndComponentList_, entry ≠ tag →
    s.alive entry = true) :
    (s.removeComponent tag).actIndComponentList_ = s.actIndComponentList_.erase tag := by
  unfold removeComponent
  split
  · rename_i hempty
    rw [List.isEmpty_iff.mp hempty]
    rfl
  · apply eraseP_eq_erase
    intro entry hmem
    by_cases heq : entry = tag
    · simp [heq]
    · simp [h entry hmem heq]

theorem removeComponent_components (s : ActivityIndicators) (tag : Nat) :
    (s.removeComponent tag).components = s.components := by
  unfold removeComponent
  split <;> rfl

@[simp] theorem removeComponent_frame (s : ActivityIndicators) (tag : Nat) :
    (s.removeComponent tag).frame = s.frame := by
  unfold removeComponent
  split <;> rfl

@[simp] theorem removeComponent_frames (s : ActivityIndicators) (tag : Nat) :
    (s.removeComponent tag).frames = s.frames := by
  unfold removeComponent
  split <;> rfl

/-- The request stops with the last entry. -/
theorem removeComponent_active
    (h : (s.loop.objects animRequest).isActive_ = true ↔ s.actIndComponentList_ ≠ []) :
    ((s.removeComponent tag).loop.objects animRequest).isActive_ = true ↔
      (s.removeComponent tag).actIndComponentList_ ≠ [] := by
  unfold removeComponent
  split
  · exact h
  · rename_i hempty
    dsimp only
    split
    · rename_i hlength
      simp [List.eq_nil_of_length_eq_zero hlength]
    · rename_i hlength
      have hne : s.actIndComponentList_ ≠ [] := fun heq => hempty (List.isEmpty_iff.mpr heq)
      have hrest : s.actIndComponentList_.eraseP
          (fun entry => !s.alive entry || entry == tag) ≠ [] := fun heq => hlength (by simp [heq])
      simp [h.mpr hne, hrest]

theorem animates_setComponent_self (s : ActivityIndicators) (tag : Nat)
    (component : ActivityIndicator) : (s.setComponent tag (some component)).Animates tag ↔
      component.initialPropertiesParsed_ = true ∧ component.animating = true := by
  simp [Animates, setComponent]

theorem animates_setComponent_of_ne (hne : entry ≠ tag) (new : Option ActivityIndicator) :
    (s.setComponent tag new).Animates entry ↔ s.Animates entry := by
  simp [Animates, setComponent, Function.update_of_ne hne]

theorem not_animates_setComponent_none (s : ActivityIndicators) (tag : Nat) :
    ¬ (s.setComponent tag none).Animates tag := by
  simp [Animates, setComponent]

/-- A change of one component that leaves the other entries alone. -/
theorem Registered.setComponent (h : s.Registered) {new : Option ActivityIndicator}
    (hcomponents : t.components = s.components)
    (hself : tag ∈ t.actIndComponentList_ ↔ (s.setComponent tag new).Animates tag)
    (hothers : ∀ entry ≠ tag, entry ∈ t.actIndComponentList_ ↔ entry ∈ s.actIndComponentList_)
    (hnodup : t.actIndComponentList_.Nodup)
    (hactive : (t.loop.objects animRequest).isActive_ = true ↔ t.actIndComponentList_ ≠ []) :
    (t.setComponent tag new).Registered where
  listed entry := by
    have hsame : (t.setComponent tag new).Animates entry ↔
        (s.setComponent tag new).Animates entry := by
      simp only [Animates, ActivityIndicators.setComponent, hcomponents]
    rw [hsame]
    by_cases heq : entry = tag
    · rw [heq]
      exact hself
    · rw [animates_setComponent_of_ne heq, ← h.listed]
      exact hothers entry heq
  nodup := hnodup
  active := hactive

theorem Registered.create (h : s.Registered) (hnew : s.alive tag = false) (animating : Bool) :
    (s.setComponent tag (some { animating := animating })).Registered := by
  refine h.setComponent rfl ?_ (fun _ _ => Iff.rfl) h.nodup h.active
  rw [animates_setComponent_self]
  constructor
  · intro hmem
    rw [h.alive hmem] at hnew
    cases hnew
  · rintro ⟨⟨⟩, -⟩

theorem addComponent_list (halive : s.alive tag = true) :
    (s.addComponent tag).actIndComponentList_ = s.actIndComponentList_ ++ [tag] := by
  unfold addComponent
  rw [if_pos halive]

/-- The request starts with the first entry. -/
theorem addComponent_active (halive : s.alive tag = true)
    (h : (s.loop.objects animRequest).isActive_ = true ↔ s.actIndComponentList_ ≠ []) :
    ((s.addComponent tag).loop.objects animRequest).isActive_ = true := by
  unfold addComponent
  rw [if_pos halive]
  dsimp only
  split
  · simp
  · rename_i hlength
    rw [h]
    intro hempty
    simp [hempty] at hlength

theorem Registered.updateComponentProps (h : s.Registered)
    (hcomponent : s.components tag = some component) (animating : Bool) :
    (s.updateComponentProps tag component animating).Registered := by
  have halive : s.alive tag = true := by simp [ActivityIndicators.alive, hcomponent]
  have hlisted : tag ∈ s.actIndComponentList_ ↔
      component.initialPropertiesParsed_ = true ∧ component.animating = true := by
    rw [h.listed]
    simp [Animates, hcomponent]
  unfold ActivityIndicators.updateComponentProps
  dsimp only
  split
  · rename_i hchange
    split
    · rename_i hanimating
      -- the component has not been in the list
      have hnot : tag ∉ s.actIndComponentList_ := by
        rw [hlisted]
        rintro ⟨hparsed, hbefore⟩
        simp [hparsed, hbefore, hanimating] at hchange
      refine h.setComponent ?_ ?_ ?_ ?_ ?_
      · unfold addComponent
        split <;> rfl
      · rw [addComponent_list halive, animates_setComponent_self]
        simpa using hanimating
      · intro entry hne
        rw [addComponent_list halive]
        simp [hne]
      · rw [addComponent_list halive]
        exact h.nodup.append (List.nodup_singleton _) (by simpa using hnot)
      · rw [addComponent_list halive]
        simp [addComponent_active halive h.active]
    · rename_i hanimating
      have hlist := removeComponent_list fun entry hmem (_ : entry ≠ tag) => h.alive hmem
      refine h.setComponent (removeComponent_components s tag) ?_ ?_ ?_
        (removeComponent_active h.active)
      · rw [hlist, animates_setComponent_self]
        simp [h.nodup.mem_erase_iff, hanimating]
      · intro entry hne
        rw [hlist, h.nodup.mem_erase_iff]
        simp [hne]
      · rw [hlist]
        exact h.nodup.erase tag
  · rename_i hsame
    refine h.setComponent rfl ?_ (fun _ _ => Iff.rfl) h.nodup h.active
    rw [animates_setComponent_self, hlisted]
    simp only [Bool.or_eq_true, Bool.not_eq_true', bne_iff_ne, not_or, not_not,
      Bool.not_eq_false] at hsame
    simp [hsame.1, hsame.2]

theorem destroy_list (h : s.Registered) :
    (s.destroy tag).actIndComponentList_ = s.actIndComponentList_.erase tag := by
  unfold destroy
  apply removeComponent_list
  intro entry hmem hne
  simpa [alive, ActivityIndicators.setComponent, Function.update_of_ne hne] using h.alive hmem

theorem Registered.destroy (h : s.Registered) (tag : Nat) : (s.destroy tag).Registered := by
  have hlist : (s.destroy tag).actIndComponentList_ = s.actIndComponentList_.erase tag :=
    destroy_list h
  refine ⟨?_, ?_, ?_⟩
  · intro entry
    have hanimates : (s.destroy tag).Animates entry ↔ (s.setComponent tag none).Animates entry := by
      unfold Animates ActivityIndicators.destroy
      rw [removeComponent_components]
    rw [hlist, hanimates, h.nodup.mem_erase_iff]
    by_cases heq : entry = tag
    · rw [heq]
      simp [not_animates_setComponent_none]
    · rw [animates_setComponent_of_ne heq, h.listed]
      simp [heq]
  · rw [hlist]
    exact h.nodup.erase tag
  · exact removeComponent_active h.active

theorem Registered.giveBack (h : s.Registered) (tag : Nat) : (s.giveBack tag).Registered := by
  unfold ActivityIndicators.giveBack
  split
  · exact h.destroy tag
  · exact h

/-! ## A frame -/

/-- What has been rotated, and that the list is as it was while there is something left to do. -/
structure InFrame (s : ActivityIndicators) (frame : IndicatorFrame) : Prop where
  alive : ∀ tag, frame.holds tag = true → s.alive tag = true
  last : frame.last = frame.before.length
  next_le : frame.next ≤ frame.last
  rotated : frame.rotated = frame.before.take frame.next
  list : frame.next < frame.last → s.actIndComponentList_ = frame.before
  nodup : frame.before.Nodup

@[simp] theorem destroy_frame (s : ActivityIndicators) (tag : Nat) :
    (s.destroy tag).frame = s.frame := removeComponent_frame _ _

@[simp] theorem destroy_frames (s : ActivityIndicators) (tag : Nat) :
    (s.destroy tag).frames = s.frames := removeComponent_frames _ _

@[simp] theorem giveBack_frames (s : ActivityIndicators) (tag : Nat) :
    (s.giveBack tag).frames = s.frames := by
  unfold giveBack
  split
  · exact destroy_frames s tag
  · rfl

theorem alive_destroy_of_ne (hne : entry ≠ tag) : (s.destroy tag).alive entry = s.alive entry := by
  unfold alive destroy
  rw [removeComponent_components]
  simp [setComponent, Function.update_of_ne hne]

/-- A component is destroyed that the frame does not hold, and that is not in the list unless the
loop has come to its end. -/
theorem InFrame.destroy (h : s.InFrame frame) (hs : s.Registered) (hheld : frame.holds tag = false)
    (hspared : frame.next < frame.last → tag ∉ s.actIndComponentList_) :
    (s.destroy tag).InFrame frame := by
  refine ⟨?_, h.last, h.next_le, h.rotated, ?_, h.nodup⟩
  · intro entry hentry
    have hne : entry ≠ tag := by
      rintro rfl
      rw [hheld] at hentry
      cases hentry
    rw [alive_destroy_of_ne hne]
    exact h.alive entry hentry
  · intro hnext
    rw [destroy_list hs, List.erase_of_not_mem (hspared hnext)]
    exact h.list hnext

theorem InFrame.rotate (h : s.InFrame frame) (hs : s.Registered) (hnone : frame.component = none)
    (hlt : frame.iter < frame.last) :
    ∃ tag, s.actIndComponentList_[frame.iter]? = some tag ∧ s.alive tag = true ∧
      s.InFrame { frame with component := some tag, rotated := frame.rotated ++ [tag] } := by
  have hnext : frame.next = frame.iter := by simp [IndicatorFrame.next, hnone]
  have hlist : s.actIndComponentList_ = frame.before := h.list (by omega)
  have hlength : frame.iter < frame.before.length := h.last ▸ hlt
  have halive : s.alive frame.before[frame.iter] = true := by
    apply hs.alive
    rw [hlist]
    exact List.getElem_mem hlength
  refine ⟨frame.before[frame.iter], by simp [hlist, hlength], halive, ?_⟩
  refine ⟨?_, h.last, hlt, ?_, fun _ => hlist, h.nodup⟩
  · intro entry hentry
    simp only [IndicatorFrame.holds, Bool.or_eq_true, decide_eq_true_eq,
      Option.some.injEq] at hentry
    rcases hentry with hfirst | rfl
    · exact h.alive entry (by simp [IndicatorFrame.holds, hfirst])
    · exact halive
  · show frame.rotated ++ _ = frame.before.take (frame.iter + 1)
    rw [h.rotated, hnext, List.take_add_one]
    simp [hlength]

/-- The body of the loop ends. -/
theorem InFrame.next (h : s.InFrame frame) (hcomponent : frame.component = some tag) :
    s.InFrame { frame with component := none, iter := frame.iter + 1 } := by
  have hnext : frame.next = frame.iter + 1 := by simp [IndicatorFrame.next, hcomponent]
  refine ⟨?_, h.last, hnext ▸ h.next_le, hnext ▸ h.rotated, ?_, h.nodup⟩
  · intro entry hentry
    simp only [IndicatorFrame.holds, reduceCtorEq, decide_false, Bool.or_false,
      decide_eq_true_eq] at hentry
    exact h.alive entry (by simp [IndicatorFrame.holds, hentry])
  · intro hlt
    exact h.list (hnext ▸ hlt)

/-- At the end each entry has been rotated once. -/
theorem InFrame.count_rotated (h : s.InFrame frame) (hnone : frame.component = none)
    (hend : frame.last ≤ frame.iter) (hmem : tag ∈ frame.before) :
    frame.rotated.count tag = 1 := by
  have hnext : frame.next = frame.iter := by simp [IndicatorFrame.next, hnone]
  have hlast := h.last
  rw [h.rotated, hnext, List.take_of_length_le (by omega)]
  exact List.count_eq_one_of_mem h.nodup hmem

/-! ## Runs -/

structure Keeps (s : ActivityIndicators) : Prop where
  registered : s.Registered
  frame : ∀ frame ∈ s.frame, s.InFrame frame
  rotated : ∀ frame ∈ s.frames, ∀ tag ∈ frame.before, tag ∈ frame.after →
    frame.rotated.count tag = 1

theorem Keeps.init : Keeps {} where
  registered := ⟨by simp [Animates], List.nodup_nil, by simp⟩
  frame := by simp
  rotated := by simp

/-- A step outside the frames. -/
theorem Keeps.outside (h : s.Keeps) (ht : t.Registered) (hframe : t.frame = none)
    (hframes : t.frames = s.frames) : t.Keeps where
  registered := ht
  frame := by simp [hframe]
  rotated := hframes ▸ h.rotated

theorem Keeps.handleActivityIndicatorAnimation (h : s.Keeps) :
    s.handleActivityIndicatorAnimation.Keeps := by
  unfold ActivityIndicators.handleActivityIndicatorAnimation
  split
  · exact h
  · rename_i first rest hlist
    split
    · rename_i halive
      refine ⟨⟨h.registered.listed, h.registered.nodup, h.registered.active⟩, ?_, h.rotated⟩
      intro frame hmem
      obtain rfl := Option.some.inj hmem
      refine ⟨?_, rfl, Nat.zero_le _, rfl, fun _ => rfl, h.registered.nodup⟩
      intro entry hentry
      simp only [IndicatorFrame.holds, reduceCtorEq, decide_false, Bool.or_false,
        decide_eq_true_eq] at hentry
      rw [← hentry]
      exact halive
    · exact h

theorem Keeps.delete (h : s.Keeps) (hcomponent : s.components tag = some component)
    (hspared : ∀ frame ∈ s.frame, frame.next < frame.last → frame.holds tag = false →
      tag ∉ s.actIndComponentList_) :
    (if (s.frame.any fun frame => frame.holds tag) then
      s.setComponent tag (some { component with registered := false })
    else s.destroy tag).Keeps := by
  split
  · refine ⟨?_, ?_, h.rotated⟩
    · refine h.registered.setComponent rfl ?_ (fun _ _ => Iff.rfl) h.registered.nodup
        h.registered.active
      rw [animates_setComponent_self, h.registered.listed]
      simp [Animates, hcomponent]
    · intro frame hmem
      have hframe := h.frame frame hmem
      refine ⟨?_, hframe.last, hframe.next_le, hframe.rotated, hframe.list, hframe.nodup⟩
      intro entry hentry
      by_cases heq : entry = tag
      · simp [alive, setComponent, heq]
      · simpa [alive, setComponent, Function.update_of_ne heq] using hframe.alive entry hentry
  · rename_i hheld
    refine ⟨h.registered.destroy tag, ?_, ?_⟩
    · intro frame hmem
      rw [destroy_frame] at hmem
      have hnot : frame.holds tag = false := by
        rw [Option.mem_def] at hmem
        simpa [hmem] using hheld
      exact (h.frame frame hmem).destroy h.registered hnot
        fun hnext => hspared frame hmem hnext hnot
    · rw [destroy_frames]
      exact h.rotated

theorem Keeps.js (h : s.Keeps) (hframe : s.frame = none) {op : AnimationOp}
    (hjs : op.ofJs = true) {loop : AnimationLoop} (hexec : op.exec s.loop = some loop) :
    (if op = AnimationOp.call ∧ loop.running = some animRequest then
      { s with loop := loop }.handleActivityIndicatorAnimation
    else { s with loop := loop }).Keeps := by
  have hloop : Keeps { s with loop := loop } := by
    refine h.outside ⟨h.registered.listed, h.registered.nodup, ?_⟩ hframe rfl
    show (loop.objects animRequest).isActive_ = true ↔ _
    rw [AnimationLoop.isActive_ofJs hjs hexec]
    exact h.registered.active
  split
  · exact hloop.handleActivityIndicatorAnimation
  · exact hloop

theorem Keeps.rotate (h : s.Keeps) {op : IndicatorOp} (hop : op = .rotate)
    (hexec : op.exec s = some t) : t.Keeps := by
  subst hop
  obtain ⟨frame, hframe, hexec⟩ := Option.bind_eq_some_iff.mp hexec
  obtain ⟨⟨hnone, hlt⟩, hexec⟩ := Option.ite_none_right_eq_some.mp hexec
  obtain ⟨tag, htag, halive, hinFrame⟩ := (h.frame frame hframe).rotate h.registered hnone hlt
  rw [htag] at hexec
  simp only [halive, if_true] at hexec
  obtain rfl := Option.some.inj hexec
  refine ⟨⟨h.registered.listed, h.registered.nodup, h.registered.active⟩, ?_, h.rotated⟩
  intro frame' hmem
  obtain rfl := Option.some.inj hmem
  exact ⟨hinFrame.alive, hinFrame.last, hinFrame.next_le, hinFrame.rotated, hinFrame.list,
    hinFrame.nodup⟩

/-- The frame gives back a component at the end of the body. -/
theorem Keeps.giveBack (h : s.Keeps) (hframe : s.frame = some frame)
    (hcomponent : frame.component = some tag) (hfirst : frame.firstComponent ≠ tag)
    (hspared : frame.next < frame.last → ∀ entry ∈ IndicatorOp.release.destroys s frame,
      entry ∉ s.actIndComponentList_) :
    (s.giveBack tag).Registered ∧
      (s.giveBack tag).InFrame { frame with component := none, iter := frame.iter + 1 } := by
  have hinFrame := (h.frame frame hframe).next hcomponent
  refine ⟨h.registered.giveBack tag, ?_⟩
  unfold ActivityIndicators.giveBack
  split
  · rename_i hdropped
    obtain ⟨component, hmem, hunregistered⟩ := hdropped
    rw [Option.mem_def] at hmem
    have hnext : frame.next = frame.iter + 1 := by simp [IndicatorFrame.next, hcomponent]
    apply hinFrame.destroy h.registered
    · simp [IndicatorFrame.holds, hfirst]
    · intro hlt
      apply hspared (hnext ▸ hlt)
      simp [IndicatorOp.destroys, hcomponent, hfirst, hmem, hunregistered]
  · exact hinFrame

theorem Keeps.release (h : s.Keeps) {op : IndicatorOp} (hop : op = .release)
    (hok : op.SparesLoop s) (hexec : op.exec s = some t) : t.Keeps := by
  subst hop
  obtain ⟨frame, hframe, hexec⟩ := Option.bind_eq_some_iff.mp hexec
  obtain ⟨tag, hcomponent, rfl⟩ := Option.map_eq_some_iff.mp hexec
  have hsame : ∀ u : ActivityIndicators, u.Registered →
      u.InFrame { frame with component := none, iter := frame.iter + 1 } →
      u.frames = s.frames →
      Keeps { u with frame := some { frame with component := none, iter := frame.iter + 1 } } := by
    intro u hregistered hinFrame hframes
    refine ⟨⟨hregistered.listed, hregistered.nodup, hregistered.active⟩, ?_, hframes ▸ h.rotated⟩
    intro frame' hmem
    obtain rfl := Option.some.inj hmem
    exact ⟨hinFrame.alive, hinFrame.last, hinFrame.next_le, hinFrame.rotated, hinFrame.list,
      hinFrame.nodup⟩
  dsimp only
  split
  · exact hsame s h.registered ((h.frame frame hframe).next hcomponent) rfl
  · rename_i hfirst
    obtain ⟨hregistered, hinFrame⟩ := h.giveBack hframe hcomponent hfirst (hok frame hframe)
    exact hsame _ hregistered hinFrame (giveBack_frames s tag)

theorem Keeps.finish (h : s.Keeps) {op : IndicatorOp} (hop : op = .finish)
    (hexec : op.exec s = some t) : t.Keeps := by
  subst hop
  obtain ⟨frame, hframe, hexec⟩ := Option.bind_eq_some_iff.mp hexec
  obtain ⟨⟨hnone, hend⟩, ⟨⟩⟩ := Option.ite_none_right_eq_some.mp hexec
  have hregistered := h.registered.giveBack frame.firstComponent
  refine ⟨⟨hregistered.listed, hregistered.nodup, hregistered.active⟩, by simp, ?_⟩
  intro done hmem tag hbefore hafter
  rcases List.mem_append.mp hmem with hold | hnew
  · rw [giveBack_frames] at hold
    exact h.rotated done hold tag hbefore hafter
  · obtain rfl := List.mem_singleton.mp hnew
    exact (h.frame frame hframe).count_rotated hnone hend hbefore

theorem Keeps.step (h : s.Keeps) {op : IndicatorOp} (hok : op.SparesLoop s)
    (hexec : op.exec s = some t) : t.Keeps := by
  cases op with
  | create tag animating =>
    obtain ⟨⟨hframe, hnew⟩, ⟨⟩⟩ := Option.ite_none_right_eq_some.mp hexec
    exact h.outside (h.registered.create hnew animating) hframe rfl
  | updateProps tag animating =>
    obtain ⟨hframe, hexec⟩ := Option.ite_none_right_eq_some.mp hexec
    obtain ⟨component, hcomponent, rfl⟩ := Option.map_eq_some_iff.mp hexec
    have hsame : (s.updateComponentProps tag component animating).frame = s.frame ∧
        (s.updateComponentProps tag component animating).frames = s.frames := by
      unfold updateComponentProps addComponent
      dsimp only
      split <;> [split <;> [split; skip]; skip] <;> simp [setComponent]
    exact h.outside (h.registered.updateComponentProps hcomponent animating)
      (hsame.1.trans hframe) hsame.2
  | delete tag =>
    simp only [IndicatorOp.exec] at hexec
    split at hexec
    · rename_i component hcomponent
      obtain ⟨-, hexec⟩ := Option.ite_none_right_eq_some.mp hexec
      rw [← apply_ite some] at hexec
      obtain rfl := Option.some.inj hexec
      refine h.delete hcomponent ?_
      intro frame hmem hnext hheld
      exact hok frame hmem hnext tag (by simp [IndicatorOp.destroys, hheld])
    · cases hexec
  | js op =>
    obtain ⟨⟨hframe, hjs⟩, hexec⟩ := Option.ite_none_right_eq_some.mp hexec
    obtain ⟨loop, hloop, rfl⟩ := Option.map_eq_some_iff.mp hexec
    exact h.js hframe hjs hloop
  | rotate => exact h.rotate rfl hexec
  | release => exact h.release rfl hok hexec
  | finish => exact h.finish rfl hexec

theorem Keeps.sound (h : s.Keeps) : s.Sound :=
  ⟨h.registered.listed, h.registered.nodup, h.registered.active, h.rotated⟩

end ActivityIndicators

/-! ## The frame loop below -/

namespace ActivityIndicators

theorem loop_removeComponent (s : ActivityIndicators) (tag : Nat) :
    Run AnimationStep anyStep s.loop (s.removeComponent tag).loop := by
  unfold removeComponent
  split
  · exact .refl _
  · dsimp only
    split
    · exact .single (a := .stop animRequest) trivial rfl
    · exact .refl _

theorem loop_addComponent (s : ActivityIndicators) (tag : Nat) :
    Run AnimationStep anyStep s.loop (s.addComponent tag).loop := by
  unfold addComponent
  split
  · dsimp only
    split
    · exact .single (a := .start animRequest) trivial rfl
    · exact .refl _
  · exact .refl _

theorem loop_giveBack (s : ActivityIndicators) (tag : Nat) :
    Run AnimationStep anyStep s.loop (s.giveBack tag).loop := by
  unfold giveBack
  split
  · exact loop_removeComponent (s.setComponent tag none) tag
  · exact .refl _

theorem loop_updateComponentProps (s : ActivityIndicators) (tag : Nat)
    (component : ActivityIndicator) (animating : Bool) :
    Run AnimationStep anyStep s.loop (s.updateComponentProps tag component animating).loop := by
  unfold updateComponentProps
  dsimp only
  split
  · split
    · exact loop_addComponent s tag
    · exact loop_removeComponent s tag
  · exact .refl _

theorem loop_handleActivityIndicatorAnimation (s : ActivityIndicators) :
    s.handleActivityIndicatorAnimation.loop = s.loop := by
  unfold handleActivityIndicatorAnimation
  split
  · rfl
  · split <;> rfl

/-- Each step is made of steps of the frame loop. -/
theorem loop_step {op : IndicatorOp} (hexec : op.exec s = some t) :
    Run AnimationStep anyStep s.loop t.loop := by
  cases op with
  | create tag animating =>
    obtain ⟨-, ⟨⟩⟩ := Option.ite_none_right_eq_some.mp hexec
    exact .refl _
  | updateProps tag animating =>
    obtain ⟨-, hexec⟩ := Option.ite_none_right_eq_some.mp hexec
    obtain ⟨component, -, rfl⟩ := Option.map_eq_some_iff.mp hexec
    exact loop_updateComponentProps s tag component animating
  | delete tag =>
    simp only [IndicatorOp.exec] at hexec
    split at hexec
    · obtain ⟨-, hexec⟩ := Option.ite_none_right_eq_some.mp hexec
      split at hexec
      · obtain rfl := Option.some.inj hexec
        exact .refl _
      · obtain rfl := Option.some.inj hexec
        exact loop_removeComponent (s.setComponent tag none) tag
    · cases hexec
  | js op =>
    obtain ⟨-, hexec⟩ := Option.ite_none_right_eq_some.mp hexec
    obtain ⟨loop, hloop, rfl⟩ := Option.map_eq_some_iff.mp hexec
    have hrun : Run AnimationStep anyStep s.loop loop := .single trivial hloop
    split
    · rwa [loop_handleActivityIndicatorAnimation]
    · exact hrun
  | rotate =>
    obtain ⟨frame, -, hexec⟩ := Option.bind_eq_some_iff.mp hexec
    obtain ⟨-, hexec⟩ := Option.ite_none_right_eq_some.mp hexec
    split at hexec
    · split at hexec <;> obtain rfl := Option.some.inj hexec <;> exact .refl _
    · obtain rfl := Option.some.inj hexec
      exact .refl _
  | release =>
    obtain ⟨frame, -, hexec⟩ := Option.bind_eq_some_iff.mp hexec
    obtain ⟨tag, -, rfl⟩ := Option.map_eq_some_iff.mp hexec
    dsimp only
    split
    · exact .refl _
    · exact loop_giveBack s tag
  | finish =>
    obtain ⟨frame, -, hexec⟩ := Option.bind_eq_some_iff.mp hexec
    obtain ⟨-, ⟨⟩⟩ := Option.ite_none_right_eq_some.mp hexec
    exact loop_giveBack s frame.firstComponent

/-- A run of the indicators is one of the frame loop. -/
theorem loop_run (hrun : Run IndicatorStep anyStep {} s) :
    Run AnimationStep anyStep {} s.loop :=
  hrun.invariant (P := fun s => Run AnimationStep anyStep {} s.loop)
    (fun _ _ _ h _ hstep => h.trans (loop_step hstep)) (.refl _)

end ActivityIndicators

/-! ## Every run -/

/-- The indicators are animated while they live, as long as no destructor takes an entry out of
the list under a loop that has something left to do. -/
theorem indicatorRun_sound (hrun : Run IndicatorStep (fun s op => op.SparesLoop s) {} s) :
    s.Sound := by
  have hkeeps : s.Keeps :=
    hrun.invariant (P := ActivityIndicators.Keeps) (fun _ _ _ h hok hstep => h.step hok hstep)
      .init
  exact hkeeps.sound

/-- Indicators 1, 2 and 3 up to the first run of the callback, in the second frame. -/
def threeIndicators : List IndicatorOp :=
  [.create 1 true, .updateProps 1 true, .create 2 true, .updateProps 2 true, .create 3 true,
    .updateProps 3 true, .js (.beginFrame 16), .js .call, .js .endFrame, .js (.beginFrame 33),
    .js .call]

/-- The last indicator is deleted in its turn. -/
def lastDeleted : List IndicatorOp :=
  threeIndicators ++ [.rotate, .release, .rotate, .release, .rotate, .delete 3, .release, .finish,
    .js .callbackReturns]

theorem indicatorRun_sound_three : ∃ s : ActivityIndicators, s.Sound ∧
    s.frames = [⟨[1, 2, 3], [1, 2], [1, 2, 3]⟩] := by
  have hfold : (lastDeleted.foldlM
      (fun s (op : IndicatorOp) => if op.SparesLoop s then op.exec s else none) {}).map
        ActivityIndicators.frames = some [⟨[1, 2, 3], [1, 2], [1, 2, 3]⟩] := by
    decide +kernel
  obtain ⟨s, hrun, hframes⟩ := Option.map_eq_some_iff.mp hfold
  exact ⟨s, indicatorRun_sound (Run.of_checked_exec hrun), hframes⟩

/-- The second one is deleted in its turn, and the third one is passed over. -/
def secondDeleted : List IndicatorOp :=
  threeIndicators ++ [.rotate, .release, .rotate, .delete 2, .release, .rotate, .finish]

theorem indicator_passed_over : ¬ ∀ s : ActivityIndicators, Run IndicatorStep anyStep {} s →
    s.Sound := by
  intro hall
  have hfold : (secondDeleted.foldlM IndicatorOp.exec {}).map ActivityIndicators.frames =
      some [⟨[1, 2, 3], [1, 3], [1, 2]⟩] := by
    decide +kernel
  obtain ⟨s, hrun, hframes⟩ := Option.map_eq_some_iff.mp hfold
  have hrotated := (hall s (Run.of_exec hrun)).rotated
  rw [hframes] at hrotated
  exact absurd (hrotated _ List.mem_cons_self 3 (by decide) (by decide)) (by decide)

end ReactNativeSkia
