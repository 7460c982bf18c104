import ReactNativeSkia.Modules.NetworkRequest

/-!
# The body that reaches JS

A transfer writes into one buffer, and with incremental updates a progress callback sends what is
in it and sets the offset back. What is written behind the last of them is sent by nobody, and the
next write after one of them takes the place of what has been sent, also for the cache.
-/

namespace ReactNativeSkia

/-- The text that JS gets with an event. -/
def NetworkEvent.text : NetworkEvent → Chars
  | didReceiveNetworkIncrementalData text _ _ => text
  | didReceiveNetworkData text => text.getD []
  | didSendNetworkData _ _ | didReceiveNetworkDataProgress _ _ | didCompleteNetworkResponse => []

/-- All that JS gets. -/
def Transfer.delivered (t : Transfer) : Chars := t.events.flatMap NetworkEvent.text

/-- A new request for a text. -/
def textRequest (incremental : Bool) : NetworkRequest where
  useIncrementalUpdates_ := incremental
  responseType_ := .text

namespace TransferCallback

def written : TransferCallback → Chars
  | write buffer => buffer
  | progress _ _ _ _ => []

/-- The progress callback sends what is in the buffer. -/
def sends (incremental : Bool) : TransferCallback → Bool
  | write _ => false
  | progress _ dlnow _ _ => incremental && dlnow != 0

end TransferCallback

section

variable (incremental : Bool)

/-- The body of the response. -/
def body (callbacks : List TransferCallback) : Chars :=
  callbacks.flatMap TransferCallback.written

/-- What has been written since the last progress callback that sends. -/
def unsent (callbacks : List TransferCallback) : Chars :=
  callbacks.foldl (fun chars c => if c.sends incremental then [] else chars ++ c.written) []

/-- The offset of the buffer stays in the range of an `int`. -/
def Fits (callbacks : List TransferCallback) : Prop :=
  ∀ n, (unsent incremental (callbacks.take n)).length < 2 ^ 31

/-- A progress callback has sent something. -/
def Flushed (callbacks : List TransferCallback) : Prop :=
  ∃ before c after, callbacks = before ++ c :: after ∧ c.sends incremental = true ∧
    body before ≠ []

/-- A write callback comes after a progress callback that has sent something. -/
def Overwritten (callbacks : List TransferCallback) : Prop :=
  ∃ before buffer after, callbacks = before ++ .write buffer :: after ∧ Flushed incremental before

end

section

variable {incremental : Bool} {callbacks : List TransferCallback} {c : TransferCallback}

theorem body_append_singleton (callbacks : List TransferCallback) (c : TransferCallback) :
    body (callbacks ++ [c]) = body callbacks ++ c.written := by
  unfold body
  rw [List.flatMap_append, List.flatMap_singleton]

theorem unsent_append_singleton (callbacks : List TransferCallback) (c : TransferCallback) :
    unsent incremental (callbacks ++ [c]) =
      if c.sends incremental then [] else unsent incremental callbacks ++ c.written := by
  unfold unsent
  rw [List.foldl_append]
  rfl

theorem Fits.last (h : Fits incremental callbacks) :
    (unsent incremental callbacks).length < 2 ^ 31 := by
  have hlast := h callbacks.length
  rwa [List.take_length] at hlast

theorem fits_append_singleton : Fits incremental (callbacks ++ [c]) ↔
    Fits incremental callbacks ∧ (unsent incremental (callbacks ++ [c])).length < 2 ^ 31 := by
  refine ⟨fun h => ⟨fun n => ?_, h.last⟩, fun ⟨h, hlast⟩ n => ?_⟩
  · by_cases hn : n ≤ callbacks.length
    · have htake : (callbacks ++ [c]).take n = callbacks.take n :=
        List.take_append_of_le_length hn
      rw [← htake]
      exact h n
    · rw [List.take_of_length_le (by omega)]
      have hall := h callbacks.length
      rwa [List.take_left' rfl] at hall
  · by_cases hn : n ≤ callbacks.length
    · rw [List.take_append_of_le_length hn]
      exact h n
    · rw [List.take_of_length_le (by rw [List.length_append, List.length_singleton]; omega)]
      exact hlast

/-- A callback of a longer list is one of the shorter, or the last. -/
theorem append_singleton_eq_append_cons {α : Type} {xs before after : List α} {x y : α} :
    xs ++ [x] = before ++ y :: after ↔
      (∃ rest, after = rest ++ [x] ∧ xs = before ++ y :: rest) ∨
        after = [] ∧ xs = before ∧ x = y := by
  constructor
  · intro h
    rcases List.eq_nil_or_concat after with rfl | ⟨rest, last, rfl⟩
    · obtain ⟨hxs, hx⟩ := List.append_inj' h rfl
      exact .inr ⟨rfl, hxs, List.singleton_inj.mp hx⟩
    · rw [List.concat_eq_append, ← List.cons_append, ← List.append_assoc] at h
      obtain ⟨hxs, hx⟩ := List.append_inj' h rfl
      refine .inl ⟨rest, ?_, hxs⟩
      rw [List.concat_eq_append, List.singleton_inj.mp hx]
  · rintro (⟨rest, rfl, rfl⟩ | ⟨rfl, rfl, rfl⟩)
    · rw [List.append_assoc, List.cons_append]
    · rfl

theorem flushed_append_singleton : Flushed incremental (callbacks ++ [c]) ↔
    Flushed incremental callbacks ∨ c.sends incremental = true ∧ body callbacks ≠ [] := by
  constructor
  · rintro ⟨before, c', after, heq, hsends, hbody⟩
    rcases append_singleton_eq_append_cons.mp heq with ⟨rest, -, rfl⟩ | ⟨-, rfl, rfl⟩
    · exact .inl ⟨before, c', rest, rfl, hsends, hbody⟩
    · exact .inr ⟨hsends, hbody⟩
  · rintro (⟨before, c', after, rfl, hsends, hbody⟩ | ⟨hsends, hbody⟩)
    · exact ⟨before, c', after ++ [c], by rw [List.append_assoc, List.cons_append], hsends, hbody⟩
    · exact ⟨callbacks, c, [], rfl, hsends, hbody⟩

theorem overwritten_append_singleton : Overwritten incremental (callbacks ++ [c]) ↔
    Overwritten incremental callbacks ∨ (∃ buffer, c = .write buffer) ∧
      Flushed incremental callbacks := by
  constructor
  · rintro ⟨before, buffer, after, heq, hflushed⟩
    rcases append_singleton_eq_append_cons.mp heq with ⟨rest, -, rfl⟩ | ⟨-, rfl, rfl⟩
    · exact .inl ⟨before, buffer, rest, rfl, hflushed⟩
    · exact .inr ⟨⟨buffer, rfl⟩, hflushed⟩
  · rintro (⟨before, buffer, after, rfl, hflushed⟩ | ⟨⟨buffer, rfl⟩, hflushed⟩)
    · exact ⟨before, buffer, after ++ [c], by rw [List.append_assoc, List.cons_append], hflushed⟩
    · exact ⟨callbacks, buffer, [], rfl, hflushed⟩

theorem Overwritten.flushed (h : Overwritten incremental callbacks) :
    Flushed incremental callbacks := by
  obtain ⟨before, buffer, after, rfl, first, c, last, rfl, hsends, hbody⟩ := h
  exact ⟨first, c, last ++ .write buffer :: after, by rw [List.append_assoc, List.cons_append],
    hsends, hbody⟩

theorem not_flushed_nil : ¬ Flushed incremental [] := by
  rintro ⟨before, c, after, heq, -⟩
  cases before <;> cases heq

end

namespace Transfer

theorem delivered_sendEvent (t : Transfer) (event : NetworkEvent) :
    (t.sendEvent event).delivered = t.delivered ++ event.text := by
  unfold delivered sendEvent
  rw [List.flatMap_append, List.flatMap_singleton]

theorem delivered_sendUploadProgress (t : Transfer) (ultotal ulnow : Nat) :
    (t.sendUploadProgress ultotal ulnow).delivered = t.delivered := by
  unfold sendUploadProgress
  split
  · dsimp only
    split
    · exact (delivered_sendEvent t _).trans (List.append_nil _)
    · exact (delivered_sendEvent t _).trans (List.append_nil _)
  · rfl

theorem response_sendUploadProgress (t : Transfer) (ultotal ulnow : Nat) :
    (t.sendUploadProgress ultotal ulnow).response = t.response := by
  unfold sendUploadProgress
  split
  · dsimp only
    split <;> rfl
  · rfl

/-- A request for a text that has not been completed. -/
structure Downloading (incremental : Bool) (request : NetworkRequest) : Prop where
  incremental : request.useIncrementalUpdates_ = incremental
  text : request.responseType_ = .text
  download : request.downloadComplete_ = false

theorem downloading_sendUploadProgress {incremental : Bool} {t : Transfer}
    (h : Downloading incremental t.request) (ultotal ulnow : Nat) :
    Downloading incremental (t.sendUploadProgress ultotal ulnow).request := by
  unfold sendUploadProgress
  split
  · dsimp only
    split
    · exact ⟨h.incremental, h.text, h.download⟩
    · exact h
  · exact h

/-- What the buffer holds, and what has been sent of it. -/
structure Tracked (incremental : Bool) (callbacks : List TransferCallback) (t : Transfer) :
    Prop where
  request : Downloading incremental t.request
  offset : t.response.responseBufferOffset = (unsent incremental callbacks).length
  sent : t.delivered ++ unsent incremental callbacks = body callbacks
  flushed : Flushed incremental callbacks ↔ t.delivered ≠ []
  buffer : t.response.responseBuffer = none ∧ t.response.contentSize = 0 ∧ body callbacks = [] ∨
    ∃ kept, t.response.responseBuffer = some (kept ++ [0]) ∧
      t.response.contentSize = kept.length ∧
      (unsent incremental callbacks ≠ [] → unsent incremental callbacks = kept) ∧
      (¬ Overwritten incremental callbacks → kept = body callbacks) ∧
      (Overwritten incremental callbacks → kept.length < (body callbacks).length)

variable {incremental : Bool} {callbacks : List TransferCallback} {t : Transfer}

theorem tracked_nil (incremental : Bool) :
    Tracked incremental [] { request := textRequest incremental } where
  request := ⟨rfl, rfl, rfl⟩
  offset := rfl
  sent := rfl
  flushed := ⟨fun h => absurd h not_flushed_nil, fun h => absurd rfl h⟩
  buffer := .inl ⟨rfl, rfl, rfl⟩

/-- The buffer in front of the offset is what has not been sent. -/
theorem Tracked.take_offset (h : Tracked incremental callbacks t) :
    (t.response.responseBuffer.getD []).take t.response.responseBufferOffset =
      unsent incremental callbacks := by
  rw [h.offset]
  by_cases hunsent : unsent incremental callbacks = []
  · rw [hunsent]
    rfl
  · rcases h.buffer with ⟨-, -, hbody⟩ | ⟨kept, hbuffer, -, hkept, -⟩
    · exact absurd (List.append_eq_nil_iff.mp (h.sent.trans hbody)).2 hunsent
    · rw [hbuffer, hkept hunsent]
      exact List.take_left' rfl

theorem Tracked.write (h : Tracked incremental callbacks t) {buffer : Chars}
    {response : CurlResponse} (hwrite : t.response.writeCallback buffer = some response) :
    Tracked incremental (callbacks ++ [.write buffer]) { t with response := response } := by
  obtain ⟨-, ⟨⟩⟩ := Option.ite_none_right_eq_some.mp hwrite
  have hunsent : unsent incremental (callbacks ++ [.write buffer]) =
      unsent incremental callbacks ++ buffer := unsent_append_singleton _ _
  have hbody : body (callbacks ++ [.write buffer]) = body callbacks ++ buffer :=
    body_append_singleton _ _
  have hflushed : Flushed incremental (callbacks ++ [.write buffer]) ↔
      Flushed incremental callbacks := by
    rw [flushed_append_singleton]
    exact or_iff_left fun hsends => Bool.false_ne_true hsends.1
  have hoverwritten : Overwritten incremental (callbacks ++ [.write buffer]) ↔
      Flushed incremental callbacks := by
    rw [overwritten_append_singleton]
    exact ⟨fun hover => hover.elim Overwritten.flushed And.right, fun hf => .inr ⟨⟨_, rfl⟩, hf⟩⟩
  refine ⟨h.request, ?_, ?_, hflushed.trans h.flushed, .inr ⟨_, ?_, ?_, fun _ => hunsent, ?_, ?_⟩⟩
  · show t.response.responseBufferOffset + buffer.length = _
    rw [hunsent, h.offset, List.length_append]
  · show t.delivered ++ _ = _
    rw [hunsent, hbody, ← List.append_assoc, h.sent]
  · show some (_ ++ buffer ++ [0]) = _
    rw [h.take_offset]
  · show t.response.responseBufferOffset + buffer.length = _
    rw [h.offset, List.length_append]
  · intro hnot
    have hnil : t.delivered = [] := by
      by_contra hne
      exact hnot (hoverwritten.mpr (h.flushed.mpr hne))
    have hsent := h.sent
    rw [hnil, List.nil_append] at hsent
    rw [hbody, hsent]
  · intro hover
    have hne := h.flushed.mp (hoverwritten.mp hover)
    have hpos := List.length_pos_iff.mpr hne
    rw [hbody, ← h.sent]
    simp only [List.length_append]
    omega

/-- The text of the buffer is what has not been sent. -/
theorem Tracked.text (h : Tracked incremental callbacks t) (hzero : 0 ∉ body callbacks)
    (hunsent : unsent incremental callbacks ≠ []) : t.text = unsent incremental callbacks := by
  have hzero' : 0 ∉ unsent incremental callbacks := by
    rw [← h.sent] at hzero
    exact fun hin => hzero (List.mem_append_right _ hin)
  rcases h.buffer with ⟨-, -, hbody⟩ | ⟨kept, hbuffer, -, hkept, -⟩
  · exact absurd (List.append_eq_nil_iff.mp (h.sent.trans hbody)).2 hunsent
  · unfold Transfer.text
    rw [hbuffer, ← hkept hunsent]
    exact cString_terminated hzero'

theorem Tracked.upload (h : Tracked incremental callbacks t) (ultotal ulnow : Nat) :
    Tracked incremental callbacks (t.sendUploadProgress ultotal ulnow) where
  request := downloading_sendUploadProgress h.request ultotal ulnow
  offset := by
    rw [response_sendUploadProgress]
    exact h.offset
  sent := by
    rw [delivered_sendUploadProgress]
    exact h.sent
  flushed := by
    rw [delivered_sendUploadProgress]
    exact h.flushed
  buffer := by
    rw [response_sendUploadProgress]
    exact h.buffer

/-- A progress callback that leaves the buffer alone. -/
theorem Tracked.unchanged (h : Tracked incremental callbacks t) {c : TransferCallback}
    {t' : Transfer} (hc : c.written = []) (hwrite : ∀ buffer, c ≠ .write buffer)
    (hnothing : c.sends incremental = true → unsent incremental callbacks = [])
    (hrequest : t'.request = t.request) (hresponse : t'.response = t.response)
    (hdelivered : t'.delivered = t.delivered) : Tracked incremental (callbacks ++ [c]) t' := by
  have hunsent : unsent incremental (callbacks ++ [c]) = unsent incremental callbacks := by
    rw [unsent_append_singleton, hc, List.append_nil]
    split
    · rename_i hsends
      exact (hnothing hsends).symm
    · rfl
  have hbody : body (callbacks ++ [c]) = body callbacks := by
    rw [body_append_singleton, hc, List.append_nil]
  have hflushed : Flushed incremental (callbacks ++ [c]) ↔ Flushed incremental callbacks := by
    rw [flushed_append_singleton]
    refine or_iff_left_of_imp fun ⟨hsends, hne⟩ => h.flushed.mpr ?_
    have hsent := h.sent
    rw [hnothing hsends, List.append_nil] at hsent
    rwa [hsent]
  have hoverwritten : Overwritten incremental (callbacks ++ [c]) ↔
      Overwritten incremental callbacks := by
    rw [overwritten_append_singleton]
    exact or_iff_left fun ⟨⟨buffer, heq⟩, _⟩ => hwrite buffer heq
  refine ⟨hrequest ▸ h.request, ?_, ?_, ?_, ?_⟩
  · rw [hresponse, hunsent]
    exact h.offset
  · rw [hdelivered, hunsent, hbody]
    exact h.sent
  · rw [hdelivered, hflushed]
    exact h.flushed
  · rw [hresponse, hunsent, hbody, hoverwritten]
    exact h.buffer

/-- A progress callback that sends what is in the buffer. -/
theorem Tracked.flush (h : Tracked incremental callbacks t) (hzero : 0 ∉ body callbacks)
    {c : TransferCallback} (hc : c.written = []) (hwrite : ∀ buffer, c ≠ .write buffer)
    (hsends : c.sends incremental = true) (hne : unsent incremental callbacks ≠ [])
    (dlnow dltotal : Nat) :
    Tracked incremental (callbacks ++ [c])
      { t.sendEvent (.didReceiveNetworkIncrementalData t.text dlnow dltotal) with
        response := { t.response with responseBufferOffset := 0 } } := by
  have hunsent : unsent incremental (callbacks ++ [c]) = [] := by
    rw [unsent_append_singleton, if_pos hsends]
  have hbody : body (callbacks ++ [c]) = body callbacks := by
    rw [body_append_singleton, hc, List.append_nil]
  have hdelivered : (t.sendEvent (.didReceiveNetworkIncrementalData t.text dlnow dltotal)).delivered
      = body callbacks := by
    rw [delivered_sendEvent, ← h.sent, ← h.text hzero hne]
    rfl
  have hbodyne : body callbacks ≠ [] := by
    rw [← h.sent]
    exact fun hnil => hne (List.append_eq_nil_iff.mp hnil).2
  have hoverwritten : Overwritten incremental (callbacks ++ [c]) ↔
      Overwritten incremental callbacks := by
    rw [overwritten_append_singleton]
    exact or_iff_left fun ⟨⟨buffer, heq⟩, _⟩ => hwrite buffer heq
  refine ⟨h.request, ?_, ?_, ?_, ?_⟩
  · rw [hunsent]
    rfl
  · rw [hunsent, hbody, List.append_nil]
    exact hdelivered
  · refine ⟨fun _ => ?_, fun _ => flushed_append_singleton.mpr (.inr ⟨hsends, hbodyne⟩)⟩
    exact fun hnil => hbodyne (hdelivered.symm.trans hnil)
  · rw [hunsent, hbody, hoverwritten]
    rcases h.buffer with ⟨-, -, hnil⟩ | ⟨kept, hbuffer, hsize, -, hkept⟩
    · exact absurd hnil hbodyne
    · exact .inr ⟨kept, hbuffer, hsize, fun hnot => absurd rfl hnot, hkept⟩

theorem Tracked.progress (h : Tracked incremental callbacks t) (hzero : 0 ∉ body callbacks)
    (dltotal dlnow ultotal ulnow : Nat) :
    Tracked incremental (callbacks ++ [.progress dltotal dlnow ultotal ulnow])
      (t.sendProgressEvent dltotal dlnow ultotal ulnow) := by
  have hup := h.upload ultotal ulnow
  unfold sendProgressEvent sendDownloadProgress
  by_cases hdlnow : dlnow = 0
  · rw [if_neg fun hc => hc.2 hdlnow]
    refine hup.unchanged rfl nofun (fun hsends => ?_) rfl rfl rfl
    simp [TransferCallback.sends, hdlnow] at hsends
  · rw [if_pos ⟨hup.request.download, hdlnow⟩, hup.request.incremental]
    cases incremental with
    | false =>
      refine hup.unchanged rfl nofun (fun hsends => ?_) rfl rfl rfl
      exact absurd hsends Bool.false_ne_true
    | true =>
      rw [if_pos rfl]
      by_cases hoffset : (t.sendUploadProgress ultotal ulnow).response.responseBufferOffset = 0
      · rw [if_neg fun hc => hc.2 hoffset]
        refine hup.unchanged rfl nofun (fun _ => ?_) rfl rfl ?_
        · exact List.eq_nil_of_length_eq_zero (hup.offset.symm.trans hoffset)
        · exact (delivered_sendEvent _ _).trans (List.append_nil _)
      · rw [if_pos ⟨hup.request.text, hoffset⟩]
        refine hup.flush (c := .progress dltotal dlnow ultotal ulnow) hzero rfl nofun ?_
          (fun hnil => hoffset ?_) dlnow dltotal
        · simp [TransferCallback.sends, hdlnow]
        · rw [hup.offset, hnil]
          rfl

/-- A transfer goes through as long as the offset stays in its range. -/
theorem run_tracked (incremental : Bool) (callbacks : List TransferCallback)
    (hzero : 0 ∉ body callbacks) :
    (Fits incremental callbacks ∧ ∃ t, run (textRequest incremental) callbacks = some t ∧
      Tracked incremental callbacks t) ∨
    ¬ Fits incremental callbacks ∧ run (textRequest incremental) callbacks = none := by
  induction callbacks using List.reverseRecOn with
  | nil => exact .inl ⟨fun n => by rw [List.take_nil]; exact Nat.two_pow_pos 31, _, rfl,
      tracked_nil incremental⟩
  | append_singleton callbacks c ih =>
    have hbody := body_append_singleton callbacks c
    have hbefore : 0 ∉ body callbacks := fun hin => hzero (hbody ▸ List.mem_append_left _ hin)
    have hrun : run (textRequest incremental) (callbacks ++ [c]) =
        (run (textRequest incremental) callbacks).bind fun t => t.callback c := by
      unfold run
      rw [List.foldlM_append]
      cases callbacks.foldlM callback { request := textRequest incremental } with
      | none => rfl
      | some t => exact bind_pure (t.callback c)
    rw [hrun, fits_append_singleton]
    rcases ih hbefore with ⟨hfits, t, ht, htracked⟩ | ⟨hnot, hnone⟩
    · rw [ht]
      cases c with
      | progress dltotal dlnow ultotal ulnow =>
        refine .inl ⟨⟨hfits, ?_⟩, _, rfl, htracked.progress hbefore dltotal dlnow ultotal ulnow⟩
        rw [unsent_append_singleton]
        split
        · exact Nat.two_pow_pos 31
        · rw [show TransferCallback.written (.progress dltotal dlnow ultotal ulnow) = [] from rfl,
            List.append_nil]
          exact hfits.last
      | write buffer =>
        have hlength : (unsent incremental (callbacks ++ [.write buffer])).length =
            t.response.responseBufferOffset + buffer.length := by
          rw [htracked.offset, ← List.length_append]
          exact congrArg List.length (unsent_append_singleton _ _)
        rw [hlength]
        by_cases hlt : t.response.responseBufferOffset + buffer.length < 2 ^ 31
        · have hwrite : ∃ response, t.response.writeCallback buffer = some response :=
            ⟨_, if_pos hlt⟩
          obtain ⟨response, hwrite⟩ := hwrite
          refine .inl ⟨⟨hfits, hlt⟩, { t with response := response }, ?_, htracked.write hwrite⟩
          show (t.response.writeCallback buffer).bind _ = _
          rw [hwrite]
          rfl
        · refine .inr ⟨fun hfit => hlt hfit.2, ?_⟩
          have hwrite : t.response.writeCallback buffer = none := if_neg hlt
          show (t.response.writeCallback buffer).bind _ = _
          rw [hwrite]
          rfl
    · rw [hnone]
      exact .inr ⟨fun hfit => hnot hfit.1, rfl⟩

/-! ## Completion -/

/-- What `sendData` sends of a text. -/
def shown (t : Transfer) : Chars :=
  if t.response.responseBuffer = none ∨ t.response.contentSize = 0 then [] else t.text

theorem delivered_completionCallback (t : Transfer) (htext : t.request.responseType_ = .text) :
    t.completionCallback.delivered =
      t.delivered ++ if t.request.useIncrementalUpdates_ then [] else t.shown := by
  unfold completionCallback
  dsimp only
  rw [delivered_sendEvent, show NetworkEvent.didCompleteNetworkResponse.text = [] from rfl,
    List.append_nil]
  cases hincremental : t.request.useIncrementalUpdates_ with
  | true =>
    rw [if_neg fun hnot => hnot ⟨rfl, htext⟩]
    exact (List.append_nil _).symm
  | false =>
    rw [if_pos fun hc => Bool.false_ne_true hc.1]
    unfold sendData shown
    dsimp only
    split
    · exact (List.append_nil _).symm
    · rw [htext]
      exact delivered_sendEvent _ _

theorem cString_terminated_length_le (kept : Chars) :
    (cString (kept ++ [0])).length ≤ kept.length := by
  unfold cString
  rw [List.takeWhile_append]
  split
  · exact Nat.le_of_eq (congrArg List.length (List.append_nil kept))
  · exact (List.takeWhile_sublist _).length_le

/-- The buffer shows the body as long as nothing has taken the place of what has been sent. -/
theorem Tracked.shown_eq_body_iff (h : Tracked incremental callbacks t)
    (hzero : 0 ∉ body callbacks) :
    t.shown = body callbacks ↔ ¬ Overwritten incremental callbacks := by
  unfold shown
  rcases h.buffer with ⟨hbuffer, -, hbody⟩ | ⟨kept, hbuffer, hsize, -, hwhole, hless⟩
  · rw [if_pos (.inl hbuffer), hbody]
    refine ⟨fun _ hover => ?_, fun _ => rfl⟩
    have hne := h.flushed.mp hover.flushed
    exact hne (List.append_eq_nil_iff.mp (h.sent.trans hbody)).1
  · by_cases hover : Overwritten incremental callbacks
    · refine iff_of_false (fun heq => ?_) (not_not_intro hover)
      have hlt := hless hover
      rw [← heq] at hlt
      split at hlt
      · cases hlt
      · unfold Transfer.text at hlt
        rw [hbuffer] at hlt
        exact absurd (cString_terminated_length_le kept) (Nat.not_le_of_lt hlt)
    · refine iff_of_true ?_ hover
      obtain rfl := hwhole hover
      split
      · rename_i hnone
        rcases hnone with hnone | hnone
        · cases hbuffer.symm.trans hnone
        · exact (List.eq_nil_of_length_eq_zero (hsize.symm.trans hnone)).symm
      · unfold Transfer.text
        rw [hbuffer]
        exact cString_terminated hzero

theorem not_flushed_of_whole {callbacks : List TransferCallback} : ¬ Flushed false callbacks := by
  rintro ⟨before, c, after, -, hsends, -⟩
  cases c <;> cases hsends

theorem Tracked.live_iff (h : Tracked incremental callbacks t) (hzero : 0 ∉ body callbacks) :
    t.completionCallback.delivered = body callbacks ↔
      (incremental = true → unsent incremental callbacks = []) := by
  rw [delivered_completionCallback t h.request.text, h.request.incremental]
  cases incremental with
  | true =>
    rw [if_pos rfl, List.append_nil, ← h.sent]
    exact List.self_eq_append_right.trans ⟨fun hnil _ => hnil, fun hnil => hnil rfl⟩
  | false =>
    have hnil : t.delivered = [] := by
      by_contra hne
      exact not_flushed_of_whole (h.flushed.mpr hne)
    rw [if_neg Bool.false_ne_true, hnil, List.nil_append, h.shown_eq_body_iff hzero]
    exact iff_of_true (fun hover => not_flushed_of_whole hover.flushed) nofun

/-- The texts of a live transfer and of a later answer from the cache are the body if and only if
nothing is left in the buffer, nothing has taken the place of what was sent, and the later request
has no incremental updates. -/
theorem responseBody_whole_iff (incremental incremental' : Bool)
    (callbacks : List TransferCallback) (hzero : 0 ∉ body callbacks) :
    ((live (textRequest incremental) callbacks).map delivered = some (body callbacks) ∧
      (cached (textRequest incremental) (textRequest incremental') callbacks).map delivered =
        some (body callbacks)) ↔
    Fits incremental callbacks ∧ (incremental = true → unsent incremental callbacks = []) ∧
      (body callbacks = [] ∨ incremental' = false ∧ ¬ Overwritten incremental callbacks) := by
  unfold live cached
  rcases run_tracked incremental callbacks hzero with ⟨hfits, t, ht, htracked⟩ | ⟨hnot, hnone⟩
  · rw [ht]
    simp only [Option.map_some, Option.some.injEq]
    refine and_congr (htracked.live_iff hzero) ?_ |>.trans (and_iff_right hfits).symm
    let later : Transfer := { request := textRequest incremental', response := t.response }
    have hlater : later.completionCallback.delivered = if incremental' then [] else t.shown :=
      delivered_completionCallback later rfl
    have hdelivered : (if t.response.responseBuffer = none then later
        else later.completionCallback).delivered = if incremental' then [] else t.shown := by
      split
      · rename_i hbuffer
        have hshown : t.shown = [] := if_pos (.inl hbuffer)
        rw [hshown]
        exact (ite_self []).symm
      · exact hlater
    rw [hdelivered]
    cases incremental' with
    | true =>
      rw [if_pos rfl]
      refine ⟨fun heq => Or.inl heq.symm, fun hor => ?_⟩
      exact (hor.resolve_right fun hright => nomatch hright.1).symm
    | false =>
      rw [if_neg Bool.false_ne_true, htracked.shown_eq_body_iff hzero]
      refine ⟨fun hover => .inr ⟨rfl, hover⟩, fun hor => ?_⟩
      rcases hor with hnil | ⟨-, hover⟩
      · intro hover
        have hne := htracked.flushed.mp hover.flushed
        exact hne (List.append_eq_nil_iff.mp (htracked.sent.trans hnil)).1
      · exact hover
  · rw [hnone]
    refine iff_of_false (fun hsome => ?_) fun hcond => hnot hcond.1
    cases hsome.1

/-- Two pieces with a progress callback in between, without incremental updates. -/
theorem responseBody_whole_two_pieces :
    Fits false [.write [65, 66], .progress 3 2 0 0, .write [67]] ∧
      ¬ Overwritten false [.write [65, 66], .progress 3 2 0 0, .write [67]] := by
  have hwhole := (responseBody_whole_iff false false
    [.write [65, 66], .progress 3 2 0 0, .write [67]] (by decide)).mp
      ⟨by decide +kernel, by decide +kernel⟩
  obtain ⟨hfits, -, hnil | ⟨-, hover⟩⟩ := hwhole
  · cases hnil
  · exact ⟨hfits, hover⟩

/-- With incremental updates the end of the body is not sent. -/
theorem last_piece_lost : ¬ ∀ (incremental incremental' : Bool)
    (callbacks : List TransferCallback), 0 ∉ body callbacks →
      (live (textRequest incremental) callbacks).map delivered = some (body callbacks) ∧
        (cached (textRequest incremental) (textRequest incremental') callbacks).map delivered =
          some (body callbacks) := by
  intro hall
  have hlive := (hall true false [.write [65, 66], .progress 3 2 0 0, .write [67]] (by decide)).1
  revert hlive
  decide +kernel

end Transfer

end ReactNativeSkia
