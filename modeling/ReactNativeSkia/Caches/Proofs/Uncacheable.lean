import ReactNativeSkia.Caches.HttpTransfer
import ReactNativeSkia.Sdk.Proofs.HeaderBuffer

/-!
# Responses that must not be cached

What counts is the last header line that is split at a colon and a blank into exactly
`Cache-Control` and a value, redirections included. A client without a header callback sees none.
-/

namespace ReactNativeSkia

/-- What `shouldCacheData` refuses. -/
def refusesCaching (control : Chars) : Bool :=
  decide (chars "no-store" <:+: control) || decide (chars "no-cache" <:+: control) ||
    (decide (chars "max-age" <:+: control) &&
      (((cString control).splitOn 44).find? fun token => chars "max-age" <:+: token).any
        fun token => atoi (afterEquals token) = 0)

/-- Caching is refused because of these lines. -/
def refused (lines : List Chars) : Bool :=
  (lastField (chars "Cache-Control") lines).any refusesCaching

/-! ## The header buffer -/

namespace CurlResponse

theorem shouldCacheData_eq (response : CurlResponse) : response.shouldCacheData =
    !(response.headerBuffer.lookup (chars "Cache-Control")).any refusesCaching := by
  unfold shouldCacheData
  cases response.headerBuffer.lookup (chars "Cache-Control") with
  | none => rfl
  | some control =>
    rw [Option.any_some]
    unfold refusesCaching
    dsimp only
    split_ifs with hstore hcache hage
    · simp [hstore]
    · simp [hcache]
    · cases ((cString control).splitOn 44).find? fun token => chars "max-age" <:+: token with
      | none => simp [hstore, hcache]
      | some token => simp [hstore, hcache, hage]
    · simp [hstore, hcache, hage]

end CurlResponse

theorem ImageCacheInfo.headerCallback_canCacheData_ (info : ImageCacheInfo)
    (response : CurlResponse) (now : ℚ) : (info.headerCallback response now).canCacheData_ =
      if (response.headerBuffer.lookup (chars "Cache-Control")).isSome then
        response.shouldCacheData
      else info.canCacheData_ := by
  unfold headerCallback
  rw [← response.isSome_cacheExpiryTime now]
  split
  · cases response.cacheExpiryTime now with
    | none => rfl
    | some expiryTime => rfl
  · rfl

namespace HttpTransfer

variable (transfer : HttpTransfer)

/-- The lines that the response has been filled with. -/
def seenLines (client : HttpClient) : List Chars :=
  if client.hasHeaderCallback then transfer.blockLines ++ transfer.trailers else []

theorem response_headerBuffer (client : HttpClient) (name : Chars) :
    (transfer.response client).headerBuffer.lookup name =
      lastField name (transfer.seenLines client) := by
  unfold response seenLines
  dsimp only
  split
  · rw [CurlResponse.lookup_headerCallback, lastField_append]
    dsimp only
    rw [CurlResponse.lookup_headerCallback]
    simp
  · rfl

theorem response_shouldCacheData (client : HttpClient) :
    (transfer.response client).shouldCacheData = !refused (transfer.seenLines client) := by
  rw [CurlResponse.shouldCacheData_eq, response_headerBuffer]
  rfl

theorem response_body (client : HttpClient) :
    (transfer.response client).responseBuffer = transfer.body ∧
      (transfer.response client).contentSize = (transfer.body.getD []).length := by
  have hfold (lines : List Chars) (response : CurlResponse) :
      (lines.foldl CurlResponse.headerCallback response).responseBuffer =
          response.responseBuffer ∧
        (lines.foldl CurlResponse.headerCallback response).contentSize =
          response.contentSize := by
    induction lines generalizing response with
    | nil => exact ⟨rfl, rfl⟩
    | cons line lines ih => exact ih _
  unfold response
  dsimp only
  split
  · exact hfold _ _
  · exact ⟨rfl, rfl⟩

theorem response_decodedImage {Image : Type} (decode : Chars → Option Image)
    (client : HttpClient) :
    (transfer.response client).decodedImage decode = transfer.body.bind decode := by
  obtain ⟨hbuffer, hsize⟩ := transfer.response_body client
  unfold CurlResponse.decodedImage
  rw [hbuffer, hsize]
  cases transfer.body with
  | none => rfl
  | some body => simp

/-- The image component takes the decision at the end of each block that it has found a
`Cache-Control` by. -/
theorem imageCacheInfo_canCacheData_ (now : ℚ) :
    (transfer.imageCacheInfo now).canCacheData_ = !refused transfer.blockLines := by
  have hblocks (blocks : List (List Chars)) :
      (∀ name, (blocks.foldl (receiveBlock now) ({}, {})).1.headerBuffer.lookup name =
        lastField name (blocks.flatMap fun block => block ++ [blankLine])) ∧
      (blocks.foldl (receiveBlock now) ({}, {})).2.canCacheData_ =
        !refused (blocks.flatMap fun block => block ++ [blankLine]) := by
    induction blocks using List.reverseRecOn with
    | nil => exact ⟨fun _ => rfl, rfl⟩
    | append_singleton blocks block ih =>
      obtain ⟨hheaders, hinfo⟩ := ih
      rw [List.foldl_append, List.flatMap_append, List.flatMap_singleton, List.foldl_cons,
        List.foldl_nil]
      generalize blocks.foldl (receiveBlock now) ({}, {}) = before at hheaders hinfo ⊢
      have hlookup (name : Chars) : ((block ++ [blankLine]).foldl CurlResponse.headerCallback
          before.1).headerBuffer.lookup name =
          lastField name ((blocks.flatMap fun block => block ++ [blankLine]) ++
            (block ++ [blankLine])) := by
        rw [CurlResponse.lookup_headerCallback, hheaders, ← lastField_append]
      refine ⟨hlookup, ?_⟩
      unfold receiveBlock
      dsimp only
      rw [ImageCacheInfo.headerCallback_canCacheData_, CurlResponse.shouldCacheData_eq, hlookup]
      split
      · rfl
      · -- without a field in all blocks there has been none before
        rename_i hnone
        rw [Option.not_isSome_iff_eq_none] at hnone
        rw [hinfo]
        have hnone' := hnone
        rw [lastField_append, Option.or_eq_none_iff] at hnone'
        unfold refused
        rw [hnone, hnone'.2]
  exact (hblocks transfer.blocks).2

end HttpTransfer

/-! ## The entries for a URL -/

namespace ExpiryCache

variable {Key Value : Type} [HHWheelTimer] [DecidableEq Key]

/-- The cache gains an entry for the key. -/
def Gains (before after : ExpiryCache Key Value) (key : Key) : Prop :=
  before.isAvailableInCache key = false ∧ after.isAvailableInCache key = true

theorem isAvailableInCache_iff (s : ExpiryCache Key Value) (key : Key) :
    s.isAvailableInCache key = true ↔ key ∈ s.cacheMap_.map Prod.fst := by
  unfold isAvailableInCache
  exact List.contains_iff_mem

theorem setCache_isAvailableInCache (s : ExpiryCache Key Value) (key : Key) (value : Value)
    (cacheExpiryTime : ℚ) :
    (s.setCache key value cacheExpiryTime).isAvailableInCache key = true := by
  rw [isAvailableInCache_iff]
  unfold setCache
  rw [scheduleExpiry_cacheMap_]
  dsimp only
  induction s.cacheMap_ with
  | nil => exact List.mem_singleton.mpr rfl
  | cons entry rest ih =>
    unfold assignEntry
    split
    · exact List.mem_cons_self
    · exact List.mem_cons_of_mem _ ih

theorem erase_isAvailableInCache {s : ExpiryCache Key Value} {key : Key}
    (h : s.isAvailableInCache key = false) (erased : Key → Bool) :
    (s.erase erased).isAvailableInCache key = false := by
  rw [Bool.eq_false_iff, ne_eq, isAvailableInCache_iff] at h ⊢
  exact fun hmem => h (List.map_subset _ (List.filter_subset_self _) hmem)

/-- The image cache evicts what it has to for an insertion. -/
def hasRoom (evicted : Option (List Key)) : Bool :=
  evicted.all fun keys => keys.length == evictCount

/-- An image is inserted if there is room. -/
theorem imageDataInsertInCache_gains {s : ExpiryCache Key Value} {path : Key}
    (h : s.isAvailableInCache path = false) (image : Value) (expiryTime : ℚ)
    (evicted : Option (List Key)) :
    s.Gains (s.imageDataInsertInCache path (some image) expiryTime evicted) path ↔
      hasRoom evicted = true := by
  have herased := erase_isAvailableInCache h fun key => (evicted.getD []).contains key
  unfold Gains
  rw [and_iff_right h]
  unfold imageDataInsertInCache hasRoom
  dsimp only
  split
  · rename_i hroom
    refine iff_of_true ?_ hroom
    rw [Bool.eq_false_iff, ne_eq, isAvailableInCache_iff] at herased
    rw [isAvailableInCache_iff, scheduleExpiry_cacheMap_]
    dsimp only
    unfold insertEntry
    rw [if_neg herased]
    simp
  · rename_i hroom
    exact iff_of_false (by rw [herased]; exact Bool.false_ne_true) hroom

theorem not_gains_self (s : ExpiryCache Key Value) (key : Key) : ¬s.Gains s key := by
  rintro ⟨hbefore, hafter⟩
  rw [hbefore] at hafter
  cases hafter

theorem not_gains_of_available {s : ExpiryCache Key Value} {key : Key}
    (h : s.isAvailableInCache key = true) (t : ExpiryCache Key Value) : ¬s.Gains t key := by
  rintro ⟨hbefore, -⟩
  rw [h] at hbefore
  cases hbefore

/-- What brings a response into the network cache. -/
theorem processNetworkRequest_gains (s : ExpiryCache String CurlResponse) (URL : String)
    (response : CurlResponse) (ok : Bool) :
    s.Gains (s.processNetworkRequest URL response ok) URL ↔
      ok = true ∧ response.shouldCacheData = true ∧ s.isAvailableInCache URL = false ∧
        needEvict response.downloadedSize = false := by
  rw [← response.isSome_cacheExpiryTime s.now]
  unfold processNetworkRequest
  cases ok with
  | false => simp [not_gains_self]
  | true =>
    cases response.cacheExpiryTime s.now with
    | none => simp [not_gains_self]
    | some expiryTime =>
      cases havailable : s.isAvailableInCache URL with
      | true => simp [not_gains_self]
      | false =>
        cases hevict : needEvict response.downloadedSize with
        | true => simp [not_gains_self]
        | false =>
          have hgains : s.Gains (s.setCache URL response expiryTime) URL :=
            ⟨havailable, s.setCache_isAvailableInCache URL response expiryTime⟩
          simpa using hgains

end ExpiryCache

section

variable {Image : Type} [HHWheelTimer] (decode : Chars → Option Image)

namespace ExpiryCache

theorem processImageData_gains (s : ExpiryCache String Image) (info : ImageCacheInfo)
    (path : String) (response : CurlResponse) (evicted : Option (List String)) :
    s.Gains (s.processImageData decode info path response evicted) path ↔
      s.isAvailableInCache path = false ∧ (response.decodedImage decode).isSome = true ∧
        info.canCacheData_ = true ∧ hasRoom evicted = true := by
  unfold processImageData ImageCacheInfo.expiryTime
  cases havailable : s.isAvailableInCache path with
  | true => simp [not_gains_self]
  | false =>
    rw [if_neg Bool.false_ne_true]
    cases response.decodedImage decode with
    | none => simp [not_gains_self]
    | some image =>
      cases info.canCacheData_ with
      | false => simp [not_gains_self]
      | true => simpa using imageDataInsertInCache_gains havailable image _ evicted

theorem completeImageSize_gains (s : ExpiryCache String Image) (path : String)
    (response : CurlResponse) (evicted : Option (List String)) :
    s.Gains (s.completeImageSize decode path response evicted) path ↔
      s.isAvailableInCache path = false ∧ (response.decodedImage decode).isSome = true ∧
        0 < response.contentSize ∧ hasRoom evicted = true := by
  unfold completeImageSize
  cases havailable : s.isAvailableInCache path with
  | true => simp [not_gains_of_available havailable]
  | false =>
    split
    · rename_i hsize
      cases response.decodedImage decode with
      | none => simp [not_gains_self]
      | some image => simpa [hsize] using imageDataInsertInCache_gains havailable image _ evicted
    · rename_i hsize
      simp [not_gains_self, hsize]

end ExpiryCache

namespace ResponseCaches

variable (caches : ResponseCaches Image) (client : HttpClient) (cachedBy : Option HttpClient)
  (URL : String) (transfer : HttpTransfer) (headerTime : ℚ) (evicted : Option (List String))

/-- Neither cache gains an entry for the URL of a response that forbids it. -/
def NeverCaches : Prop :=
  transfer.uncacheable = true →
    ¬caches.networkCache_.Gains (caches.deliver decode client cachedBy URL transfer headerTime
      evicted).networkCache_ URL ∧
    ¬caches.imageCache_.Gains (caches.deliver decode client cachedBy URL transfer headerTime
      evicted).imageCache_ URL

/-- The response comes out of the network cache, has not come to its end, does not fit, or there is
an entry; or a header line is seen to refuse caching. -/
def LeavesNetworkCache : Prop :=
  cachedBy.isSome = true ∨ transfer.ok = false ∨
    caches.networkCache_.isAvailableInCache URL = true ∨
    needEvict (transfer.response client).downloadedSize = true ∨
    refused (transfer.seenLines client) = true

/-- What the image component has seen at its last header callback. -/
def imageLines : List Chars :=
  match cachedBy with
  | none => transfer.blockLines
  | some client => transfer.seenLines client

/-- There is an entry, no image, or no room; or the image component has seen a header line refuse
caching, or the image loader an empty body. -/
def LeavesImageCache : Prop :=
  client = .RSkNetworkingModule ∨ caches.imageCache_.isAvailableInCache URL = true ∨
    transfer.body.bind decode = none ∨ ExpiryCache.hasRoom evicted = false ∨
    (client = .RSkComponentImage ∧ refused (imageLines cachedBy transfer) = true) ∨
    (client = .RSkImageLoaderModule ∧ transfer.body.getD [] = [])

theorem deliver_network_gains_iff :
    ¬caches.networkCache_.Gains (caches.deliver decode client cachedBy URL transfer headerTime
      evicted).networkCache_ URL ↔ caches.LeavesNetworkCache client cachedBy URL transfer := by
  unfold deliver LeavesNetworkCache
  dsimp only
  cases cachedBy with
  | some other => simp [ExpiryCache.not_gains_self]
  | none =>
    rw [if_neg (by simp), ExpiryCache.processNetworkRequest_gains, Option.getD_none,
      HttpTransfer.response_shouldCacheData]
    simp only [Bool.not_eq_true', Option.isSome_none, Bool.false_eq_true, false_or]
    rw [not_and_or, not_and_or, not_and_or, Bool.not_eq_true, Bool.not_eq_false,
      Bool.not_eq_false, Bool.not_eq_false]
    tauto

omit [HHWheelTimer] in
/-- The lines that the image component decides by. -/
theorem deliver_canCacheData_ : (if cachedBy.isSome then
      ImageCacheInfo.headerCallback {} (transfer.response (cachedBy.getD client)) headerTime
    else transfer.imageCacheInfo headerTime).canCacheData_ =
      !refused (imageLines cachedBy transfer) := by
  cases cachedBy with
  | none => exact transfer.imageCacheInfo_canCacheData_ headerTime
  | some other =>
    rw [Option.isSome_some, if_pos rfl, Option.getD_some,
      ImageCacheInfo.headerCallback_canCacheData_, HttpTransfer.response_shouldCacheData,
      HttpTransfer.response_headerBuffer]
    unfold imageLines
    split
    · rfl
    · rename_i hnone
      rw [Option.not_isSome_iff_eq_none] at hnone
      unfold refused
      dsimp only
      rw [hnone]
      rfl

theorem deliver_image_gains_iff :
    ¬caches.imageCache_.Gains (caches.deliver decode client cachedBy URL transfer headerTime
      evicted).imageCache_ URL ↔
      caches.LeavesImageCache decode client cachedBy URL transfer evicted := by
  unfold LeavesImageCache
  cases client with
  | RSkNetworkingModule =>
    exact iff_of_true (ExpiryCache.not_gains_self _ _) (.inl rfl)
  | RSkComponentImage =>
    unfold deliver
    dsimp only
    rw [ExpiryCache.processImageData_gains, deliver_canCacheData_,
      HttpTransfer.response_decodedImage, Option.isSome_iff_ne_none, not_and_or, not_and_or,
      not_and_or]
    simp only [reduceCtorEq, false_and, or_false, false_or, true_and, ne_eq, not_not,
      Bool.not_eq_true, Bool.not_eq_false, Bool.not_eq_false']
    tauto
  | RSkImageLoaderModule =>
    unfold deliver
    dsimp only
    rw [ExpiryCache.completeImageSize_gains, HttpTransfer.response_decodedImage,
      (transfer.response_body _).2, List.length_pos_iff, Option.isSome_iff_ne_none, not_and_or,
      not_and_or, not_and_or]
    simp only [reduceCtorEq, false_and, false_or, true_and, ne_eq, not_not, Bool.not_eq_true,
      Bool.not_eq_false]
    tauto

/-- A response that forbids caching stays out of both caches exactly in this case. -/
theorem neverCaches_iff :
    caches.NeverCaches decode client cachedBy URL transfer headerTime evicted ↔
      (transfer.uncacheable = true →
        caches.LeavesNetworkCache client cachedBy URL transfer ∧
          caches.LeavesImageCache decode client cachedBy URL transfer evicted) := by
  unfold NeverCaches
  rw [deliver_network_gains_iff, deliver_image_gains_iff]

end ResponseCaches

end

section

open DeadlineWheel

/-- A field in lower case, as HTTP/2 has it. -/
def lowerCaseTransfer : HttpTransfer where
  blocks := [[chars "HTTP/2 200 \r\n", chars "cache-control: no-store\r\n"]]
  body := some (chars "picture")

/-- The image component stores such a response in both caches. -/
theorem not_neverCaches_of_lowerCase :
    ¬ ∀ (caches : ResponseCaches Chars) (client : HttpClient) (cachedBy : Option HttpClient)
      (URL : String) (transfer : HttpTransfer) (headerTime : ℚ) (evicted : Option (List String)),
      caches.NeverCaches some client cachedBy URL transfer headerTime evicted := by
  intro hall
  have hnever := hall {} .RSkComponentImage none "https://host/picture" lowerCaseTransfer 0 none
  refine (hnever (by decide +kernel)).1 ⟨rfl, ?_⟩
  decide +kernel

end

end ReactNativeSkia
