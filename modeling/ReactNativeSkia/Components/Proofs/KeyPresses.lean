import ReactNativeSkia.Components.KeyThread
import ReactNativeSkia.Misc.Run
import Mathlib.Data.List.Basic

/-!
# Presses on their way through the queue

Every press that counts should reach `processEventKey` once and in the order of arrival. The press
that ends a burst is dropped, leaving editing mode keeps the start of a burst in an empty queue,
and a queue may lose its last entry after a thread has found it not empty.
-/

namespace ReactNativeSkia

namespace KeyThreads

/-- What the threads have taken and not handed on, the oldest thread first. -/
def taken (s : KeyThreads) : List KeyPress := s.threads.reverse.flatMap KeyThread.press

/-- All presses on their way: handed to `processEventKey`, taken, queued, and arrived. -/
def line (s : KeyThreads) : List KeyPress :=
  s.handled ++ s.taken ++ s.keys.inputQueue ++ s.main.press

/-- The burst starts inside the queue, no empty queue has been popped, and the presses that count
are on their way in the order of arrival. -/
structure Delivers (s : KeyThreads) : Prop where
  fits : s.keys.Fits
  popped : s.emptyPop = false
  order : s.line.filter KeyPress.counts = s.accepted

/-- What holds besides in a run that meets the condition. -/
structure Steady (s : KeyThreads) : Prop extends s.Delivers where
  sorted : s.line.Pairwise fun a b => a.number < b.number
  fresh : ∀ press ∈ s.line, press.number < s.arrived
  /-- Only the last thread has not come to its end. -/
  single : ∀ t ∈ s.threads.tail, t = .exited
  found : .found ∈ s.threads → s.keys.inputQueue ≠ []
  /-- What comes after the start of a burst is repeated. -/
  burst : s.keys.isKeyRepeateOn = true →
    ∀ press ∈ s.keys.inputQueue.drop s.keys.keyRepeateStartIndex, press.keyRepeat = true
  pushing : ∀ press, s.main = .pushing press → s.keys.isKeyRepeateOn = press.keyRepeat

end KeyThreads

/-- An input takes the focus again only after its threads have come to their end. What ends a
burst does not count, and does not empty the queue between the test and the pop of a thread.
Leaving editing mode does not either, and there is no burst that starts behind a queued key. -/
def KeyThreadsOp.KeepsPresses (s : KeyThreads) : KeyThreadsOp → Prop
  | .onHandleKey _ _ => s.isTextInputInFocus_ = false → ∀ t ∈ s.threads, t = .exited
  | .noteRepeat =>
    ∀ press ∈ s.main.press, press.keyRepeat = false → s.keys.isKeyRepeateOn = true →
      press.counts = false ∧ (s.keys.keyRepeateStartIndex = 0 → .found ∉ s.threads)
  | .clear => s.keys.keyRepeateStartIndex = 0 ∧ .found ∉ s.threads
  | _ => True

instance (s : KeyThreads) (op : KeyThreadsOp) : Decidable (op.KeepsPresses s) := by
  cases op <;> unfold KeyThreadsOp.KeepsPresses <;> infer_instance

namespace KeyThreads

variable {s s' : KeyThreads} {t t' : KeyThread} {rest : List KeyThread} {i : Nat}

/-! ## Lists of presses -/

theorem flatMap_press_exited (h : ∀ t ∈ rest, t = .exited) :
    rest.reverse.flatMap KeyThread.press = [] := by
  rw [List.flatMap_eq_nil_iff]
  intro t ht
  rw [h t (List.mem_reverse.mp ht)]
  rfl

theorem taken_eq (hs : s.threads = t :: rest) (h : ∀ t ∈ rest, t = .exited) :
    s.taken = t.press := by
  unfold taken
  rw [hs, List.reverse_cons, List.flatMap_append, flatMap_press_exited h]
  simp

/-- A thread that goes on is the last one. -/
theorem Steady.head (h : s.Steady) (ht : s.threads[i]? = some t) (hne : t ≠ .exited) :
    ∃ rest, i = 0 ∧ s.threads = t :: rest ∧ ∀ t ∈ rest, t = .exited := by
  cases hthreads : s.threads with
  | nil =>
    rw [hthreads] at ht
    cases ht
  | cons u rest =>
    have hsingle := h.single
    rw [hthreads, List.tail_cons] at hsingle
    rw [hthreads] at ht
    cases i with
    | zero =>
      obtain rfl := Option.some.inj ht
      exact ⟨rest, rfl, rfl, hsingle⟩
    | succ i =>
      rw [List.getElem?_cons_succ] at ht
      exact absurd (hsingle t (List.mem_of_getElem? ht)) hne

/-- A step of the last thread that moves at most one press on. -/
theorem Steady.thread (h : s.Steady) (s' : KeyThreads) (hs : s.threads = t :: rest)
    (hexited : ∀ t ∈ rest, t = .exited) (hs' : s'.threads = t' :: rest)
    (hline : s.handled ++ t.press ++ s.keys.inputQueue =
      s'.handled ++ t'.press ++ s'.keys.inputQueue)
    (hfits : s'.keys.Fits) (hpopped : s'.emptyPop = false)
    (hfound : t' = .found → s'.keys.inputQueue ≠ [])
    (hon : s'.keys.isKeyRepeateOn = s.keys.isKeyRepeateOn)
    (hburst : s'.keys.inputQueue.drop s'.keys.keyRepeateStartIndex <:+
      s.keys.inputQueue.drop s.keys.keyRepeateStartIndex)
    (hmain : s'.main = s.main) (haccepted : s'.accepted = s.accepted)
    (harrived : s'.arrived = s.arrived) : s'.Steady := by
  have heq : s'.line = s.line := by
    unfold line
    rw [taken_eq hs hexited, taken_eq hs' hexited, hline, hmain]
  refine ⟨⟨hfits, hpopped, ?_⟩, ?_, ?_, ?_, ?_, ?_, ?_⟩
  · rw [heq, haccepted]
    exact h.order
  · rw [heq]
    exact h.sorted
  · rw [heq, harrived]
    exact h.fresh
  · rw [hs']
    exact hexited
  · intro hin
    rw [hs'] at hin
    rcases List.mem_cons.mp hin with heq | hin
    · exact hfound heq.symm
    · cases hexited _ hin
  · intro hrepeat press hpress
    rw [hon] at hrepeat
    exact h.burst hrepeat press (hburst.mem hpress)
  · intro press hpress
    rw [hmain] at hpress
    rw [hon]
    exact h.pushing press hpress

theorem withThread_threads (hs : s.threads = t :: rest) :
    (s.withThread 0 t').threads = t' :: rest := by
  unfold withThread
  rw [hs]
  rfl

/-- A step that only moves the last thread on. -/
theorem Steady.withThread (h : s.Steady) (ht : s.threads[i]? = some t) (hne : t ≠ .exited)
    (hpress : t.press = t'.press) (hfound : t' = .found → s.keys.inputQueue ≠ []) :
    (s.withThread i t').Steady := by
  obtain ⟨rest, rfl, hs, hexited⟩ := h.head ht hne
  exact h.thread _ hs hexited (withThread_threads hs) (by rw [hpress]; rfl) h.fits h.popped hfound
    rfl (List.suffix_refl _) rfl rfl rfl

/-- The last thread takes the front of the queue. -/
theorem Steady.pop (h : s.Steady) (ht : s.threads[i]? = some .found) : (s.pop i).Steady := by
  obtain ⟨rest, rfl, hs, hexited⟩ := h.head ht (by decide)
  have hne := h.found (hs ▸ List.mem_cons_self)
  cases hqueue : s.keys.inputQueue with
  | nil => exact absurd hqueue hne
  | cons press inputQueue =>
    obtain ⟨keys, hpop, hinput, hindex, hon⟩ : ∃ keys, s.keys.pop = some (press, keys) ∧
        keys.inputQueue = inputQueue ∧
        keys.keyRepeateStartIndex = s.keys.keyRepeateStartIndex - 1 ∧
        keys.isKeyRepeateOn = s.keys.isKeyRepeateOn := by
      unfold KeyQueue.pop
      rw [hqueue]
      exact ⟨_, rfl, rfl, rfl, rfl⟩
    unfold KeyThreads.pop
    rw [hpop]
    refine h.thread ({ s with keys := keys }.withThread 0 (.taken press)) hs hexited
      (withThread_threads (s := { s with keys := keys }) hs) ?_ (h.fits.pop hpop) h.popped ?_ hon
      ?_ rfl rfl rfl
    · show s.handled ++ [] ++ s.keys.inputQueue = s.handled ++ [press] ++ keys.inputQueue
      rw [hqueue, hinput]
      simp
    · intro heq
      cases heq
    · show keys.inputQueue.drop keys.keyRepeateStartIndex <:+ _
      rw [hinput, hindex, hqueue]
      cases s.keys.keyRepeateStartIndex with
      | zero => exact List.suffix_cons press inputQueue
      | succ n => exact List.suffix_refl _

/-- The last thread hands its press on. -/
theorem Steady.processEventKey (h : s.Steady) {press : KeyPress}
    (ht : s.threads[i]? = some (.taken press)) (waitForupdateProps : Bool) :
    ({ s with handled := s.handled ++ [press] }.withThread i
      (if waitForupdateProps then .waiting else .looping)).Steady := by
  obtain ⟨rest, rfl, hs, hexited⟩ := h.head ht (by intro heq; cases heq)
  have hpress : (if waitForupdateProps then KeyThread.waiting else .looping).press = [] := by
    cases waitForupdateProps <;> rfl
  refine h.thread ({ s with handled := s.handled ++ [press] }.withThread 0
    (if waitForupdateProps then .waiting else .looping)) hs hexited
    (withThread_threads (s := { s with handled := s.handled ++ [press] }) hs) ?_ h.fits h.popped ?_
    rfl (List.suffix_refl _) rfl rfl rfl
  · rw [hpress]
    show _ = s.handled ++ [press] ++ [] ++ s.keys.inputQueue
    rw [List.append_nil]
    rfl
  · intro heq
    cases waitForupdateProps <;> cases heq

/-! ## The main thread -/

/-- A step of the main thread without a press. -/
theorem Steady.withoutPress (h : s.Steady) (hs' : s' = { s with
      isInEditingMode_ := s'.isInEditingMode_
      isTextInputInFocus_ := s'.isTextInputInFocus_
      main := s'.main })
    (hpress : s.main.press = []) (hpress' : s'.main.press = []) : s'.Steady := by
  have heq : s'.line = s.line := by
    unfold line taken
    rw [hpress, hpress', hs']
  refine ⟨⟨?_, ?_, ?_⟩, ?_, ?_, ?_, ?_, ?_, ?_⟩
  · rw [hs']
    exact h.fits
  · rw [hs']
    exact h.popped
  · rw [heq, hs']
    exact h.order
  · rw [heq]
    exact h.sorted
  · rw [heq, hs']
    exact h.fresh
  · rw [hs']
    exact h.single
  · rw [hs']
    exact h.found
  · rw [hs']
    exact h.burst
  · intro press hmain
    rw [hmain] at hpress'
    cases hpress'

theorem Steady.takeFocus (h : s.Steady) (hmain : s.main = .idle)
    (hexited : s.isTextInputInFocus_ = false → ∀ t ∈ s.threads, t = .exited) :
    s.takeFocus.Steady ∧ s.takeFocus.main = .idle := by
  unfold KeyThreads.takeFocus
  split
  · exact ⟨h, hmain⟩
  · rename_i hfocus
    have hall := hexited (Bool.eq_false_iff.mpr hfocus)
    have heq : ({ s with
        isTextInputInFocus_ := true
        keys := s.keys.resetRepeat
        threads := .looping :: s.threads } : KeyThreads).line = s.line := by
      unfold line
      have htaken : ({ s with
          isTextInputInFocus_ := true
          keys := s.keys.resetRepeat
          threads := .looping :: s.threads } : KeyThreads).taken = KeyThread.press .looping :=
        taken_eq rfl hall
      rw [htaken]
      unfold taken
      rw [flatMap_press_exited hall]
      rfl
    refine ⟨⟨⟨KeyQueue.resetRepeat_fits _, h.popped, ?_⟩, ?_, ?_, hall, ?_, ?_, ?_⟩, hmain⟩
    · rw [heq]
      exact h.order
    · rw [heq]
      exact h.sorted
    · rw [heq]
      exact h.fresh
    · intro hin
      rcases List.mem_cons.mp hin with heq | hin
      · cases heq
      · cases hall _ hin
    · intro hon
      cases hon
    · intro press hpushing
      cases hmain.symm.trans hpushing

/-- A press arrives behind all others. -/
theorem Steady.arrive (h : s.Steady) (hmain : s.main = .idle) (eventKeyType : RnsKey)
    (keyRepeat : Bool) : (s.arrive eventKeyType keyRepeat).Steady := by
  obtain ⟨press, hpress⟩ : ∃ press : KeyPress, press =
      { number := s.arrived, eventKeyType := eventKeyType, keyRepeat := keyRepeat } := ⟨_, rfl⟩
  have hline : (s.arrive eventKeyType keyRepeat).line = s.line ++ [press] := by
    unfold line
    rw [hmain, hpress]
    show _ ++ [_] = _ ++ [] ++ [_]
    rw [List.append_nil]
    rfl
  have harrived : (s.arrive eventKeyType keyRepeat).arrived = s.arrived + 1 := rfl
  refine ⟨⟨h.fits, h.popped, ?_⟩, ?_, ?_, h.single, h.found, h.burst, ?_⟩
  · rw [hline, List.filter_append, h.order]
    unfold KeyThreads.arrive
    simp only
    rw [← hpress]
    cases hcounts : press.counts with
    | true => simp [hcounts]
    | false => simp [hcounts]
  · rw [hline]
    refine List.pairwise_append.mpr ⟨h.sorted, List.pairwise_singleton _ _, ?_⟩
    intro a ha b hb
    obtain rfl := List.mem_singleton.mp hb
    rw [hpress]
    exact h.fresh a ha
  · intro a ha
    rw [hline] at ha
    rw [harrived]
    rcases List.mem_append.mp ha with ha | ha
    · exact Nat.lt_succ_of_lt (h.fresh a ha)
    · rw [List.mem_singleton.mp ha, hpress]
      exact Nat.lt_succ_self _
  · intro p hp
    cases hp

/-- A line that has lost only presses that do not count. -/
theorem Steady.order_of_sublist (h : s.Steady) (s' : KeyThreads)
    (hline : s'.line.Sublist s.line)
    (hfilter : s'.line.filter KeyPress.counts = s.line.filter KeyPress.counts)
    (haccepted : s'.accepted = s.accepted) (harrived : s'.arrived = s.arrived) :
    s'.line.filter KeyPress.counts = s'.accepted ∧
      (s'.line.Pairwise fun a b => a.number < b.number) ∧
      ∀ press ∈ s'.line, press.number < s'.arrived := by
  refine ⟨?_, h.sorted.sublist hline, fun press hpress => ?_⟩
  · rw [hfilter, haccepted]
    exact h.order
  · rw [harrived]
    exact h.fresh press (hline.mem hpress)

theorem line_noting {press : KeyPress} (hmain : s.main = .noting press) :
    s.line = s.handled ++ s.taken ++ s.keys.inputQueue ++ [press] := by
  unfold line
  rw [hmain]
  rfl

/-- With a repeat a burst goes on or starts behind the queue. -/
theorem Steady.burst_goesOn (h : s.Steady) {press : KeyPress} (hrepeat : press.keyRepeat = true) :
    ∀ p ∈ s.keys.inputQueue.drop
      (if press.keyRepeat && !s.keys.isKeyRepeateOn then s.keys.inputQueue.length
      else s.keys.keyRepeateStartIndex), p.keyRepeat = true := by
  intro p hp
  rw [hrepeat, Bool.true_and] at hp
  cases hon : s.keys.isKeyRepeateOn with
  | true =>
    rw [hon] at hp
    exact h.burst hon p hp
  | false =>
    rw [hon] at hp
    simp at hp

/-- What comes after the start of a burst does not count. -/
theorem Steady.filter_take (h : s.Steady) (hon : s.keys.isKeyRepeateOn = true) :
    (s.keys.inputQueue.take s.keys.keyRepeateStartIndex).filter KeyPress.counts =
      s.keys.inputQueue.filter KeyPress.counts := by
  have hdropped : (s.keys.inputQueue.drop s.keys.keyRepeateStartIndex).filter
      KeyPress.counts = [] := by
    rw [List.filter_eq_nil_iff]
    intro p hp
    unfold KeyPress.counts
    rw [h.burst hon p hp]
    simp
  conv_rhs => rw [← List.take_append_drop s.keys.keyRepeateStartIndex s.keys.inputQueue]
  rw [List.filter_append, hdropped, List.append_nil]

/-- The section at the start of a press that leaves the queue as it is. -/
theorem Steady.noteRepeat_goesOn (h : s.Steady) {press : KeyPress}
    (hmain : s.main = .noting press)
    (hgoes : s.keys.isKeyRepeateOn = false ∨ press.keyRepeat = true) :
    (s.noteRepeat press).Steady := by
  have hline := line_noting hmain
  obtain ⟨result, hnote, hfits⟩ := h.fits.noteRepeat press.keyRepeat
  have hnote' := KeyQueue.noteRepeat_goesOn hgoes
  obtain rfl := Option.some.inj (hnote.symm.trans hnote')
  unfold KeyThreads.noteRepeat
  rw [hnote']
  simp only [Bool.false_eq_true, if_false]
  cases hqueued : press.eventKeyType.between .RNS_KEY_Up .RNS_KEY_Back with
  | true =>
    have hsub : (s.handled ++ s.taken ++ s.keys.inputQueue ++ [press]).Sublist s.line := by
      rw [hline]
    obtain ⟨horder, hsorted, hfresh⟩ := h.order_of_sublist ({ s with
      main := .pushing press }) hsub (by rw [hline]; rfl) rfl rfl
    refine ⟨⟨hfits, h.popped, horder⟩, hsorted, hfresh, h.single, h.found, h.burst_goesOn, ?_⟩
    intro p hp
    obtain rfl := MainThread.pushing.inj hp
    rfl
  | false =>
    have hcounts : press.counts = false := by
      unfold KeyPress.counts
      rw [hqueued, Bool.and_false]
    have hno : (if press.eventKeyType = .RNS_KEY_Select then MainThread.selecting
        else .idle).press = [] := by
      split <;> rfl
    have hsub : (s.handled ++ s.taken ++ s.keys.inputQueue ++ []).Sublist s.line := by
      rw [hline, List.append_nil]
      exact List.sublist_append_left _ _
    have hlost : ({ s with
        main := if press.eventKeyType = .RNS_KEY_Select then MainThread.selecting
          else .idle } : KeyThreads).line = s.handled ++ s.taken ++ s.keys.inputQueue ++ [] := by
      unfold line
      rw [hno]
      rfl
    obtain ⟨horder, hsorted, hfresh⟩ := h.order_of_sublist ({ s with
      main := if press.eventKeyType = .RNS_KEY_Select then MainThread.selecting else .idle })
      (hlost ▸ hsub) (by rw [hlost, hline]; simp [hcounts]) rfl rfl
    refine ⟨⟨hfits, h.popped, horder⟩, hsorted, hfresh, h.single, h.found, h.burst_goesOn, ?_⟩
    intro p hp
    simp only [Bool.false_eq_true, if_false] at hp
    split at hp <;> cases hp

/-- The section at the start of a press that ends a burst. What has come since its start is
dropped. -/
theorem Steady.noteRepeat_endsBurst (h : s.Steady) {press : KeyPress}
    (hmain : s.main = .noting press) (hon : s.keys.isKeyRepeateOn = true)
    (hrepeat : press.keyRepeat = false) (hcounts : press.counts = false)
    (hempty : s.keys.keyRepeateStartIndex = 0 → .found ∉ s.threads) :
    (s.noteRepeat press).Steady := by
  have hline := line_noting hmain
  unfold KeyThreads.noteRepeat
  rw [hrepeat, KeyQueue.noteRepeat_endsBurst h.fits hon]
  simp only [if_true]
  have hsub : (s.handled ++ s.taken ++
      s.keys.inputQueue.take s.keys.keyRepeateStartIndex ++ []).Sublist s.line := by
    rw [hline]
    exact ((List.Sublist.refl _).append (List.take_sublist _ _)).append (List.nil_sublist _)
  obtain ⟨horder, hsorted, hfresh⟩ := h.order_of_sublist ({ s with
    keys := {
      inputQueue := s.keys.inputQueue.take s.keys.keyRepeateStartIndex
      isKeyRepeateOn := false
      keyRepeateStartIndex := 0 }
    main := .idle }) hsub
    (by
      rw [hline]
      show (s.handled ++ s.taken ++ s.keys.inputQueue.take s.keys.keyRepeateStartIndex ++ []
        ).filter KeyPress.counts = _
      simp [hcounts, h.filter_take hon]) rfl rfl
  refine ⟨⟨Nat.zero_le _, h.popped, horder⟩, hsorted, hfresh, h.single, ?_, ?_, ?_⟩
  · intro hin hnil
    have hne := h.found hin
    rcases List.take_eq_nil_iff.mp hnil with hzero | hnil
    · exact hempty hzero hin
    · exact hne hnil
  · intro hoff
    cases hoff
  · intro p hp
    cases hp

/-- The section at the start of a press. -/
theorem Steady.noteRepeat (h : s.Steady) {press : KeyPress} (hmain : s.main = .noting press)
    (hok : KeyThreadsOp.noteRepeat.KeepsPresses s) : (s.noteRepeat press).Steady := by
  by_cases hgoes : s.keys.isKeyRepeateOn = false ∨ press.keyRepeat = true
  · exact h.noteRepeat_goesOn hmain hgoes
  · simp only [not_or, Bool.not_eq_false, Bool.not_eq_true] at hgoes
    obtain ⟨hon, hrepeat⟩ := hgoes
    have hpress : press ∈ s.main.press := by
      rw [hmain]
      exact List.mem_singleton.mpr rfl
    obtain ⟨hcounts, hempty⟩ := hok press hpress hrepeat hon
    exact h.noteRepeat_endsBurst hmain hon hrepeat hcounts hempty

theorem Steady.push (h : s.Steady) {press : KeyPress} (hmain : s.main = .pushing press) :
    ({ s with keys := s.keys.push press }.withMain .idle).Steady := by
  have hline : ({ s with keys := s.keys.push press }.withMain .idle).line = s.line := by
    unfold line
    rw [hmain]
    show s.handled ++ s.taken ++ (s.keys.inputQueue ++ [press]) ++ [] =
      s.handled ++ s.taken ++ s.keys.inputQueue ++ [press]
    rw [List.append_nil, List.append_assoc _ s.keys.inputQueue]
  refine ⟨⟨h.fits.push press, h.popped, ?_⟩, ?_, ?_, h.single, ?_, ?_, ?_⟩
  · rw [hline]
    exact h.order
  · rw [hline]
    exact h.sorted
  · rw [hline]
    exact h.fresh
  · intro hin hnil
    exact h.found hin (List.append_eq_nil_iff.mp hnil).1
  · intro hon p hp
    have hdrop : (s.keys.push press).inputQueue.drop (s.keys.push press).keyRepeateStartIndex =
        s.keys.inputQueue.drop s.keys.keyRepeateStartIndex ++ [press] :=
      List.drop_append_of_le_length h.fits
    have hp' : p ∈ s.keys.inputQueue.drop s.keys.keyRepeateStartIndex ++ [press] := hdrop ▸ hp
    rcases List.mem_append.mp hp' with hp | hp
    · exact h.burst hon p hp
    · rw [List.mem_singleton.mp hp, ← h.pushing press hmain]
      exact hon
  · intro p hp
    cases hp

/-- Leaving editing mode forgets what is queued. -/
theorem Steady.clear (h : s.Steady) (hmain : s.main = .clearing)
    (hok : KeyThreadsOp.clear.KeepsPresses s) : s.clear.Steady := by
  obtain ⟨hindex, hfound⟩ := hok
  have hline : s.line = s.handled ++ s.taken ++ s.keys.inputQueue := by
    unfold line
    rw [hmain]
    exact List.append_nil _
  have hline' : s.clear.line = s.handled ++ s.taken := by
    show s.handled ++ s.taken ++ [] ++ [] = _
    rw [List.append_nil, List.append_nil]
  have hsorted := h.sorted
  have hfresh := h.fresh
  rw [hline] at hsorted hfresh
  obtain ⟨hfront, -, hbehind⟩ := List.pairwise_append.mp hsorted
  refine ⟨⟨?_, h.popped, ?_⟩, ?_, ?_, h.single, ?_, ?_, ?_⟩
  · show s.keys.keyRepeateStartIndex ≤ _
    omega
  · -- of the presses on their way the queued ones go
    show _ = s.accepted.filter _
    rw [← h.order, hline', hline, List.filter_append, List.filter_append, List.filter_append]
    have hkept : ((s.handled ++ s.taken).filter KeyPress.counts).filter
        (fun press => decide (press ∉ s.keys.inputQueue)) =
        (s.handled ++ s.taken).filter KeyPress.counts := by
      rw [List.filter_eq_self]
      intro p hp
      rw [decide_eq_true_iff]
      intro hin
      exact Nat.lt_irrefl _ (hbehind p (List.mem_of_mem_filter hp) p hin)
    have hgone : (s.keys.inputQueue.filter KeyPress.counts).filter
        (fun press => decide (press ∉ s.keys.inputQueue)) = [] := by
      rw [List.filter_eq_nil_iff]
      intro p hp
      simpa using List.mem_of_mem_filter hp
    rw [List.filter_append, hgone, List.append_nil, ← List.filter_append, hkept]
  · rw [hline']
    exact hfront
  · rw [hline']
    exact fun p hp => hfresh p (List.mem_append_left _ hp)
  · exact fun hin => absurd hin hfound
  · intro _ p hp
    have hnil : (s.clear.keys.inputQueue.drop s.clear.keys.keyRepeateStartIndex) = [] :=
      List.drop_nil
    rw [hnil] at hp
    cases hp
  · intro p hp
    cases hp

/-! ## Runs -/

/-- The step lemma. -/
theorem Steady.exec (h : s.Steady) {op : KeyThreadsOp} (hok : op.KeepsPresses s)
    (hrun : op.exec s = some s') : s'.Steady := by
  cases op with
  | requestForEditingMode =>
    obtain ⟨hmain, ⟨⟩⟩ := Option.ite_none_right_eq_some.mp hrun
    exact h.withoutPress rfl (by rw [hmain]; rfl) (by simp only [hmain]; rfl)
  | onHandleKey eventKeyType keyRepeat =>
    obtain ⟨hpre, ⟨⟩⟩ := Option.ite_none_right_eq_some.mp hrun
    obtain ⟨hfocus, hidle⟩ := h.takeFocus hpre.1 hok
    exact hfocus.arrive hidle eventKeyType keyRepeat
  | noteRepeat =>
    simp only [KeyThreadsOp.exec] at hrun
    split at hrun
    · rename_i hmain
      obtain rfl := Option.some.inj hrun
      exact h.noteRepeat hmain hok
    · cases hrun
  | push =>
    simp only [KeyThreadsOp.exec] at hrun
    split at hrun
    · rename_i hmain
      obtain rfl := Option.some.inj hrun
      exact h.push hmain
    · cases hrun
  | select =>
    obtain ⟨hmain, ⟨⟩⟩ := Option.ite_none_right_eq_some.mp hrun
    exact h.withoutPress rfl (by rw [hmain]; rfl) rfl
  | clear =>
    obtain ⟨hmain, ⟨⟩⟩ := Option.ite_none_right_eq_some.mp hrun
    exact h.clear hmain hok
  | resign =>
    obtain ⟨hmain, ⟨⟩⟩ := Option.ite_none_right_eq_some.mp hrun
    exact h.withoutPress rfl (by rw [hmain]; rfl) rfl
  | blur =>
    obtain ⟨hpre, hrun⟩ := Option.ite_none_right_eq_some.mp hrun
    split at hrun
    · obtain rfl := Option.some.inj hrun
      exact h.withoutPress rfl (by rw [hpre.1]; rfl) rfl
    · obtain rfl := Option.some.inj hrun
      exact h.withoutPress rfl (by rw [hpre.1]; rfl) rfl
  | testFocus i =>
    obtain ⟨ht, ⟨⟩⟩ := Option.ite_none_right_eq_some.mp hrun
    refine h.withThread ht (by decide) ?_ ?_
    · split <;> rfl
    · split
      · intro heq
        cases heq
      · intro heq
        cases heq
  | testEmpty i =>
    obtain ⟨ht, ⟨⟩⟩ := Option.ite_none_right_eq_some.mp hrun
    refine h.withThread ht (by decide) ?_ ?_
    · split <;> rfl
    · split
      · intro heq
        cases heq
      · rename_i hne
        exact fun _ => hne
  | pop i =>
    obtain ⟨ht, ⟨⟩⟩ := Option.ite_none_right_eq_some.mp hrun
    exact h.pop ht
  | processEventKey i waitForupdateProps =>
    simp only [KeyThreadsOp.exec] at hrun
    split at hrun
    · rename_i ht
      obtain rfl := Option.some.inj hrun
      exact h.processEventKey ht waitForupdateProps
    · cases hrun
  | wake i =>
    obtain ⟨ht, ⟨⟩⟩ := Option.ite_none_right_eq_some.mp hrun
    refine h.withThread ht (by decide) rfl ?_
    intro heq
    cases heq

theorem steady_initial : Steady {} := by
  refine ⟨⟨Nat.zero_le _, rfl, rfl⟩, List.Pairwise.nil, ?_, ?_, ?_, ?_, ?_⟩
  · intro p hp
    cases hp
  · intro t ht
    cases ht
  · intro ht
    cases ht
  · intro hon
    cases hon
  · intro p hp
    cases hp

/-- In every run whose steps meet the condition the presses that count are handed on once and in
the order of their arrival. -/
theorem keyThreadsRun_delivers
    (hrun : Run keyThreadsStep (fun s op => op.KeepsPresses s) {} s) : s.Delivers := by
  have hsteady : s.Steady := by
    refine hrun.invariant (P := Steady) ?_ steady_initial
    intro u op v hu hok hstep
    exact hu.exec hok hstep
  exact hsteady.toDelivers

/-- Key a is typed and handled, key b is queued while the thread looks at the queue again. -/
theorem keyThreadsRun_delivers_two_keys : ∃ s : KeyThreads, s.Delivers ∧ s.accepted =
    [{ number := 0, eventKeyType := .RNS_KEY_a, keyRepeat := false },
      { number := 1, eventKeyType := .RNS_KEY_b, keyRepeat := false }] := by
  have hfold : ([.requestForEditingMode, .onHandleKey .RNS_KEY_a false, .noteRepeat, .push,
      .testFocus 0, .testEmpty 0, .pop 0, .onHandleKey .RNS_KEY_b false, .noteRepeat,
      .processEventKey 0 false, .testFocus 0, .push, .testEmpty 0].foldlM
        (fun s (op : KeyThreadsOp) => if op.KeepsPresses s then op.exec s else none) {}).map
          KeyThreads.accepted = some
      [{ number := 0, eventKeyType := .RNS_KEY_a, keyRepeat := false },
        { number := 1, eventKeyType := .RNS_KEY_b, keyRepeat := false }] := by
    decide
  obtain ⟨s, hrun, haccepted⟩ := Option.map_eq_some_iff.mp hfold
  exact ⟨s, keyThreadsRun_delivers (Run.of_checked_exec hrun), haccepted⟩

/-- Key a is held down, and the press of key b ends the burst. -/
theorem press_after_burst_dropped : ¬ ∀ s : KeyThreads, Run keyThreadsStep anyStep {} s →
    s.Delivers := by
  intro hall
  have hfold : ([.requestForEditingMode, .onHandleKey .RNS_KEY_a true, .noteRepeat, .push,
      .onHandleKey .RNS_KEY_b false, .noteRepeat].foldlM KeyThreadsOp.exec {}).map
        (fun s => (s.line, s.accepted)) = some
      ([], [{ number := 1, eventKeyType := .RNS_KEY_b, keyRepeat := false }]) := by
    decide
  obtain ⟨s, hrun, hs⟩ := Option.map_eq_some_iff.mp hfold
  obtain ⟨hline, haccepted⟩ := Prod.mk.inj hs
  have horder := (hall s (Run.of_exec hrun)).order
  rw [hline, haccepted] at horder
  cases horder

end KeyThreads

end ReactNativeSkia
