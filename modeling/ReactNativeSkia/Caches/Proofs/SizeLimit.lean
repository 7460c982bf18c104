import Mathlib.Algebra.Order.BigOperators.Group.List
import ReactNativeSkia.Caches.NetworkCache
import ReactNativeSkia.Caches.Proofs.ExpiryTime

/-!
# The size of the network cache

Each response that is stored has to be smaller than the limit by itself. What is in the cache
already does not count.
-/

namespace ReactNativeSkia

namespace ExpiryCache

variable [HHWheelTimer] {s t : ExpiryCache String CurlResponse}

/-- The sum over the entries. -/
def storedSize (s : ExpiryCache String CurlResponse) : Nat :=
  (s.cacheMap_.map fun entry => entry.2.value.downloadedSize).sum

def WithinLimit (s : ExpiryCache String CurlResponse) : Prop :=
  s.storedSize ≤ maxCacheHwmLimit

end ExpiryCache

/-- The response goes into the cache. -/
def NetworkCacheOp.stores [HHWheelTimer] (s : ExpiryCache String CurlResponse) :
    NetworkCacheOp → Option Nat
  | complete URL response ok =>
    if ok && response.shouldCacheData && !s.isAvailableInCache URL &&
        !needEvict response.downloadedSize then some response.downloadedSize
    else none
  | timer _ => none

/-- A response that is stored fits beside what is there. -/
def NetworkCacheOp.Fits [HHWheelTimer] (s : ExpiryCache String CurlResponse)
    (op : NetworkCacheOp) : Prop :=
  ∀ size ∈ op.stores s, s.storedSize + size ≤ maxCacheHwmLimit

instance [HHWheelTimer] (s : ExpiryCache String CurlResponse) (op : NetworkCacheOp) :
    Decidable (op.Fits s) := by
  unfold NetworkCacheOp.Fits
  infer_instance

/-- A key that is not there is added at the end. -/
theorem assignEntry_of_not_mem {Key Value : Type} [DecidableEq Key] {key : Key}
    {data : CacheData Value} {map : List (Key × CacheData Value)}
    (h : key ∉ map.map Prod.fst) : assignEntry key data map = map ++ [(key, data)] := by
  induction map with
  | nil => rfl
  | cons entry rest ih =>
    rw [List.map_cons, List.mem_cons, not_or] at h
    unfold assignEntry
    rw [if_neg (Ne.symm h.1), ih h.2]
    rfl

namespace ExpiryCache

variable [HHWheelTimer]

/-- The timer only takes entries out of the map. -/
theorem timerOp_sublist {Key Value : Type} {s t : ExpiryCache Key Value} {op : CacheTimerOp}
    (hact : op.act s = some t) : t.cacheMap_.Sublist s.cacheMap_ := by
  have hfires (timer : Timer) (call : TimerCall) :
      (s.scheduleTimerTimeout timer call).cacheMap_.Sublist s.cacheMap_ := by
    unfold scheduleTimerTimeout
    dsimp only
    rw [onTimer_cacheMap_]
    split
    · rw [expiryTimerCallback_cacheMap_, eraseExpired_fst]
      exact List.filter_sublist
    · exact List.Sublist.refl _
  cases op with
  | tick milliseconds =>
    obtain rfl := Option.some.inj hact
    exact List.Sublist.refl _
  | runTask =>
    simp only [CacheTimerOp.act] at hact
    split at hact
    · cases hact
    · split at hact
      · obtain rfl := Option.some.inj hact
        exact hfires _ _
      · cases hact
  | timeoutExpired =>
    simp only [CacheTimerOp.act] at hact
    split at hact
    · cases hact
    · split_ifs at hact
      · obtain rfl := Option.some.inj hact
        exact hfires _ _
      · obtain rfl := Option.some.inj hact
        exact List.Sublist.refl _

variable {s t : ExpiryCache String CurlResponse}

theorem storedSize_le_of_sublist (h : t.cacheMap_.Sublist s.cacheMap_) :
    t.storedSize ≤ s.storedSize :=
  (h.map _).sum_le_sum fun _ _ => Nat.zero_le _

/-- A response adds its size if it is stored. -/
theorem processNetworkRequest_storedSize (URL : String) (response : CurlResponse) (ok : Bool) :
    (s.processNetworkRequest URL response ok).storedSize =
      s.storedSize + ((NetworkCacheOp.complete URL response ok).stores s).getD 0 := by
  unfold processNetworkRequest NetworkCacheOp.stores
  dsimp only
  rw [← response.isSome_cacheExpiryTime s.now]
  cases ok with
  | false => rfl
  | true =>
    rw [if_pos rfl]
    cases response.cacheExpiryTime s.now with
    | none => rfl
    | some cacheExpiryTime =>
      dsimp only
      cases havailable : s.isAvailableInCache URL with
      | true => rfl
      | false =>
        cases hevict : needEvict response.downloadedSize with
        | true => rfl
        | false =>
          have hkey : URL ∉ s.cacheMap_.map Prod.fst := by
            unfold isAvailableInCache at havailable
            simpa using havailable
          unfold setCache storedSize
          simp [assignEntry_of_not_mem hkey]

/-- One step keeps the limit exactly if what it stores fits. -/
theorem networkCacheStep_withinLimit {op : NetworkCacheOp} (h : s.WithinLimit)
    (hstep : NetworkCacheStep s op t) : t.WithinLimit ↔ op.Fits s := by
  obtain ⟨acted, hact, rfl⟩ := Option.map_eq_some_iff.mp hstep
  cases op with
  | complete URL response ok =>
    obtain rfl := Option.some.inj hact
    have hsize : (s.processNetworkRequest URL response ok).settle.storedSize =
        s.storedSize + ((NetworkCacheOp.complete URL response ok).stores s).getD 0 :=
      s.processNetworkRequest_storedSize URL response ok
    unfold WithinLimit NetworkCacheOp.Fits at *
    rw [hsize]
    cases (NetworkCacheOp.complete URL response ok).stores s with
    | none => simpa using h
    | some size => simp
  | timer op =>
    have hsub : acted.cacheMap_.Sublist s.cacheMap_ := timerOp_sublist hact
    have hle : acted.settle.storedSize ≤ s.storedSize := storedSize_le_of_sublist hsub
    exact ⟨fun _ => by rintro _ ⟨⟩, fun _ => hle.trans h⟩

end ExpiryCache

namespace ExpiryCache

open DeadlineWheel

/-- A response of so many bytes. -/
def sizedResponse (size : Nat) : CurlResponse := { contentSize := size }

end ExpiryCache

end ReactNativeSkia
