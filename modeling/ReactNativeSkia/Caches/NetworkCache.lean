import ReactNativeSkia.Caches.ExpiryCache
import ReactNativeSkia.Sdk.CurlResponse

/-!
# What responses leave in the caches

`CurlRequest::shouldCacheData`, the end of a transfer in `CurlNetworking::processNetworkRequest`
(`ReactSkia/sdk/CurlNetworking.cpp`), and the callbacks of `RSkComponentImage`
(`ReactSkia/components/RSkComponentImage.cpp`) and `RSkImageLoaderModule`
(`ReactSkia/core_modules/RSkImageLoader.cpp`), as far as they put something into a cache. What
`SkImage::MakeFromEncoded` makes of the bytes is a parameter. Times are in milliseconds.
-/

namespace ReactNativeSkia

/-- `DEFAULT_MAX_CACHE_EXPIRY_TIME`. -/
def defaultMaxCacheExpiryTime : ℚ := 1800000

/-- What `shouldCacheData` leaves in `cacheExpiryTime` at the time `now`, if it returns true. -/
def CurlResponse.cacheExpiryTime (response : CurlResponse) (now : ℚ) : Option ℚ :=
  match response.headerBuffer.lookup (chars "Cache-Control") with
  | none => some defaultMaxCacheExpiryTime
  | some control =>
    if chars "no-store" <:+: control then none
    else if chars "no-cache" <:+: control then none
    else if chars "max-age" <:+: control then
      match ((cString control).splitOn 44).find? fun token => chars "max-age" <:+: token with
      | none => some defaultMaxCacheExpiryTime
      | some token =>
        let responseMaxAgeTime := atoi (afterEquals token)
        if responseMaxAgeTime = 0 then none
        else some (now + min (min (1000 * (responseMaxAgeTime : ℚ)) defaultMaxCacheExpiryTime)
          defaultMaxCacheExpiryTime)
    else some defaultMaxCacheExpiryTime

theorem CurlResponse.isSome_cacheExpiryTime (response : CurlResponse) (now : ℚ) :
    (response.cacheExpiryTime now).isSome = response.shouldCacheData := by
  unfold cacheExpiryTime shouldCacheData
  cases response.headerBuffer.lookup (chars "Cache-Control") with
  | none => rfl
  | some control =>
    dsimp only
    split_ifs with hstore hcache hage
    · rfl
    · rfl
    · cases ((cString control).splitOn 44).find? fun token => chars "max-age" <:+: token with
      | none => rfl
      | some token =>
        dsimp only
        split_ifs with hzero
        · simp [hzero]
        · simp [hzero]
    · rfl

/-- `downloadedSize`. -/
def CurlResponse.downloadedSize (response : CurlResponse) : Nat :=
  response.contentSize + response.headerBufferSize

namespace ExpiryCache

variable {Key Value : Type} [HHWheelTimer] [DecidableEq Key]

def isAvailableInCache (s : ExpiryCache Key Value) (key : Key) : Bool :=
  (s.cacheMap_.map Prod.fst).contains key

/-- The end of a transfer, where `ok` is `CURLE_OK`. -/
def processNetworkRequest (s : ExpiryCache String CurlResponse) (URL : String)
    (response : CurlResponse) (ok : Bool) : ExpiryCache String CurlResponse :=
  if ok then
    match response.cacheExpiryTime s.now with
    | none => s
    | some cacheExpiryTime =>
      if s.isAvailableInCache URL then s
      else if needEvict response.downloadedSize then s
      else s.setCache URL response cacheExpiryTime
  else s

end ExpiryCache

/-- What happens to the network cache. -/
inductive NetworkCacheOp where
  | complete (URL : String) (response : CurlResponse) (ok : Bool)
  | timer (op : CacheTimerOp)
  deriving DecidableEq, Repr

def NetworkCacheOp.act [HHWheelTimer] (s : ExpiryCache String CurlResponse) :
    NetworkCacheOp → Option (ExpiryCache String CurlResponse)
  | complete URL response ok => some (s.processNetworkRequest URL response ok)
  | timer op => op.act s

def NetworkCacheStep [HHWheelTimer] (s : ExpiryCache String CurlResponse) (op : NetworkCacheOp)
    (t : ExpiryCache String CurlResponse) : Prop :=
  (op.act s).map ExpiryCache.settle = some t

/-- The members `canCacheData_` and `cacheExpiryTime_` of an image component, as
`requestNetworkImageData` sets them. -/
structure ImageCacheInfo where
  canCacheData_ : Bool := true
  cacheExpiryTime_ : ℚ := defaultMaxCacheExpiryTime
  deriving DecidableEq, Repr

/-- The header callback of the image component. -/
def ImageCacheInfo.headerCallback (info : ImageCacheInfo) (response : CurlResponse) (now : ℚ) :
    ImageCacheInfo :=
  if (response.headerBuffer.lookup (chars "Cache-Control")).isSome then
    match response.cacheExpiryTime now with
    | none => { info with canCacheData_ := false }
    | some cacheExpiryTime => { canCacheData_ := true, cacheExpiryTime_ := cacheExpiryTime }
  else info

/-- The expiry time of a decoded image, if it is inserted. -/
def ImageCacheInfo.expiryTime (info : ImageCacheInfo) (now : ℚ) : Option ℚ :=
  if info.canCacheData_ then some (now + info.cacheExpiryTime_) else none

section

variable {Image : Type} [HHWheelTimer] (decode : Chars → Option Image)

/-- `SkData::MakeWithCopy` and `SkImage::MakeFromEncoded`. -/
def CurlResponse.decodedImage (response : CurlResponse) : Option Image :=
  response.responseBuffer.bind fun buffer => decode (buffer.take response.contentSize)

namespace ExpiryCache

/-- `RSkComponentImage::processImageData`. -/
def processImageData (s : ExpiryCache String Image) (info : ImageCacheInfo) (path : String)
    (response : CurlResponse) (evicted : Option (List String)) : ExpiryCache String Image :=
  if s.isAvailableInCache path then s
  else
    match response.decodedImage decode, info.expiryTime s.now with
    | some image, some expiryTime =>
      s.imageDataInsertInCache path (some image) expiryTime evicted
    | _, _ => s

/-- The completion callback of `RSkImageLoaderModule::getImageSize`. -/
def completeImageSize (s : ExpiryCache String Image) (path : String) (response : CurlResponse)
    (evicted : Option (List String)) : ExpiryCache String Image :=
  if 0 < response.contentSize then
    match response.decodedImage decode with
    | some image =>
      s.imageDataInsertInCache path (some image) (s.now + defaultMaxCacheExpiryTime) evicted
    | none => s
  else s

end ExpiryCache

end

end ReactNativeSkia
