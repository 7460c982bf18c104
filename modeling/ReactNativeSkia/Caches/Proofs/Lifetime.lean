import ReactNativeSkia.Caches.CacheControl
import ReactNativeSkia.Caches.NetworkCache

/-!
# How long responses stay in the caches

With `max-age` the header callback and `shouldCacheData` leave a point in time, and without it a
duration. The network cache takes either for a point in time, the image component for a duration.
-/

namespace ReactNativeSkia

/-- When the header callback of the image component, `shouldCacheData` and `processImageData` read
the clock. -/
structure CacheClock where
  header : ℚ
  decision : ℚ
  image : ℚ
  header_nonneg : 0 ≤ header
  header_le : header ≤ decision
  decision_le : decision ≤ image

namespace CurlResponse

/-- The value of `Cache-Control`, however its name is written. -/
def cacheControl (response : CurlResponse) : Option Chars :=
  (response.headerBuffer.find? fun header =>
    header.1.map lowerCase = chars "cache-control").map Prod.snd

/-- `1000 * max-age`, and no more than the default. -/
def lifetime (response : CurlResponse) : ℚ :=
  match response.cacheControl.bind maxAge with
  | none => defaultMaxCacheExpiryTime
  | some seconds => min (1000 * (seconds : ℚ)) defaultMaxCacheExpiryTime

/-- The expiry time of the decoded image, if it goes into the cache. -/
def imageExpiryTime (response : CurlResponse) (clock : CacheClock) : Option ℚ :=
  (({} : ImageCacheInfo).headerCallback response clock.header).expiryTime clock.image

/-- A response that is cached expires later than the decision, in both caches, and by no more than
its lifetime. -/
def LifetimesBounded (response : CurlResponse) (clock : CacheClock) : Prop :=
  ∀ expiryTime, response.cacheExpiryTime clock.decision = some expiryTime →
    ∀ e, e = expiryTime ∨ response.imageExpiryTime clock = some e →
      clock.decision < e ∧ e ≤ clock.decision + response.lifetime

/-- What `shouldCacheData` reads behind `max-age`. -/
def readMaxAge (response : CurlResponse) : Option Int :=
  (response.headerBuffer.lookup (chars "Cache-Control")).bind fun control =>
    if chars "max-age" <:+: control then
      (((cString control).splitOn 44).find? fun token => chars "max-age" <:+: token).map
        fun token => atoi (afterEquals token)
    else none

/-- Without a `max-age` that is read, the image is stored at once, in the first half hour of the
clock, and the field has none that is shorter. With one it is positive, and as long before the end
of the lifetime as the clock shows at the header, and longer by what the image takes. -/
def Lasts (response : CurlResponse) (clock : CacheClock) : Prop :=
  match response.readMaxAge with
  | none =>
    clock.decision < defaultMaxCacheExpiryTime ∧ clock.image = clock.decision ∧
      response.lifetime = defaultMaxCacheExpiryTime
  | some seconds =>
    0 < seconds ∧ clock.header + (clock.image - clock.decision) +
      min (1000 * (seconds : ℚ)) defaultMaxCacheExpiryTime ≤ response.lifetime

theorem lifetime_le (response : CurlResponse) :
    response.lifetime ≤ defaultMaxCacheExpiryTime := by
  unfold lifetime
  split
  · exact le_refl _
  · exact min_le_right _ _

/-- What is stored, by what is read. -/
theorem cacheExpiryTime_eq {response : CurlResponse} (hcache : response.shouldCacheData = true)
    (now : ℚ) : response.cacheExpiryTime now = some (match response.readMaxAge with
      | none => defaultMaxCacheExpiryTime
      | some seconds => now + min (1000 * (seconds : ℚ)) defaultMaxCacheExpiryTime) := by
  unfold shouldCacheData at hcache
  unfold cacheExpiryTime readMaxAge
  cases hcontrol : response.headerBuffer.lookup (chars "Cache-Control") with
  | none => rfl
  | some control =>
    rw [hcontrol] at hcache
    dsimp only at hcache ⊢
    rw [Option.bind_some]
    split_ifs at hcache ⊢ with hstore hnocache hage
    · cases htoken : ((cString control).splitOn 44).find? fun token =>
          chars "max-age" <:+: token with
      | none => rfl
      | some token =>
        rw [htoken] at hcache
        dsimp only at hcache ⊢
        rw [if_neg (by simpa using hcache), min_assoc, min_self]
        rfl
    · rfl

/-- The image is stored with what the header callback has read, counted from now. -/
theorem imageExpiryTime_eq {response : CurlResponse} (hcache : response.shouldCacheData = true)
    (clock : CacheClock) : response.imageExpiryTime clock =
      some (clock.image + match response.readMaxAge with
      | none => defaultMaxCacheExpiryTime
      | some seconds => clock.header + min (1000 * (seconds : ℚ)) defaultMaxCacheExpiryTime) := by
  unfold imageExpiryTime ImageCacheInfo.headerCallback
  rw [cacheExpiryTime_eq hcache]
  split
  · rfl
  · rename_i hcontrol
    rw [Option.not_isSome_iff_eq_none] at hcontrol
    unfold readMaxAge
    rw [hcontrol]
    rfl

/-- The lifetimes are absolute and bounded exactly in this case, if the response is cached. -/
theorem lifetimesBounded_iff (response : CurlResponse) (clock : CacheClock) :
    response.LifetimesBounded clock ↔ (response.shouldCacheData = true → response.Lasts clock) := by
  obtain ⟨header, decision, image, hheader, hdecision, himage⟩ := clock
  have hdefault : (0 : ℚ) < defaultMaxCacheExpiryTime := by norm_num [defaultMaxCacheExpiryTime]
  have hlifetime := response.lifetime_le
  cases hcache : response.shouldCacheData with
  | false =>
    refine ⟨fun _ h => (Bool.false_ne_true h).elim, fun _ expiryTime hexpiry => ?_⟩
    have hnone := response.isSome_cacheExpiryTime decision
    rw [hexpiry, hcache] at hnone
    cases hnone
  | true =>
    unfold LifetimesBounded Lasts
    rw [imageExpiryTime_eq hcache, cacheExpiryTime_eq hcache]
    simp only [Option.some.injEq, forall_eq', forall_const, forall_eq_or_imp]
    cases response.readMaxAge with
    | none =>
      dsimp only
      constructor
      · rintro ⟨⟨hlt, -⟩, -, hle⟩
        exact ⟨hlt, by linarith, by linarith⟩
      · rintro ⟨hlt, rfl, hequal⟩
        rw [hequal]
        exact ⟨⟨hlt, by linarith⟩, by linarith, by linarith⟩
    | some seconds =>
      dsimp only
      constructor
      · rintro ⟨⟨hlt, -⟩, -, hle⟩
        have hmin : (0 : ℚ) < min (1000 * (seconds : ℚ)) defaultMaxCacheExpiryTime := by linarith
        have hpos : (0 : ℚ) < seconds := by
          have := (lt_min_iff.mp hmin).1
          linarith
        exact ⟨by exact_mod_cast hpos, by linarith⟩
      · rintro ⟨hpos, hle⟩
        have hpos' : (0 : ℚ) < seconds := by exact_mod_cast hpos
        have hmin : (0 : ℚ) < min (1000 * (seconds : ℚ)) defaultMaxCacheExpiryTime :=
          lt_min (by linarith) hdefault
        exact ⟨⟨by linarith, by linarith⟩, by linarith, by linarith⟩

/-- A response without `Cache-Control` that arrives in 2023 has expired in 1970. -/
theorem not_lifetimesBounded_of_default :
    ¬ ∀ (response : CurlResponse) (clock : CacheClock), response.LifetimesBounded clock := by
  intro hall
  have hbounded := hall {} ⟨1700000000000, 1700000000000, 1700000000000, by norm_num, le_refl _,
    le_refl _⟩
  have := (hbounded _ rfl _ (.inl rfl)).1
  norm_num [defaultMaxCacheExpiryTime] at this

end CurlResponse

end ReactNativeSkia
