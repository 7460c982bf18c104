import ReactNativeSkia.Caches.CacheControl
import ReactNativeSkia.Caches.NetworkCache

/-!
# Transfers and the caches

The clients of `CurlNetworking` and what the response of a transfer leaves in `networkCache_` and in
the cache of decoded images. curl hands out the header lines one by one, those of redirections
included, and a blank line behind each block; trailers come behind the body. It does so only for a
client with a header callback.
-/

namespace ReactNativeSkia

/-- Who has sent the request. -/
inductive HttpClient where
  | RSkComponentImage
  | RSkImageLoaderModule
  | RSkNetworkingModule
  deriving DecidableEq, Repr

/-- `RSkImageLoaderModule` sets no `CURLNetworkingHeaderCallback`. -/
def HttpClient.hasHeaderCallback : HttpClient → Bool
  | RSkImageLoaderModule => false
  | _ => true

/-- `ok` is `CURLE_OK`. -/
structure HttpTransfer where
  blocks : List (List Chars)
  body : Option Chars
  trailers : List Chars := []
  ok : Bool := true
  deriving DecidableEq, Repr

namespace HttpTransfer

/-- The line that ends a block. -/
def blankLine : Chars := [13, 10]

/-- The lines of all blocks. -/
def blockLines (transfer : HttpTransfer) : List Chars :=
  transfer.blocks.flatMap fun block => block ++ [blankLine]

/-- The final header block forbids caching. -/
def uncacheable (transfer : HttpTransfer) : Bool :=
  transfer.blocks.getLast?.any ReactNativeSkia.uncacheable

/-- The response when the transfer ends. -/
def response (transfer : HttpTransfer) (client : HttpClient) : CurlResponse :=
  let filled (response : CurlResponse) : CurlResponse :=
    { response with
      responseBuffer := transfer.body
      contentSize := (transfer.body.getD []).length }
  if client.hasHeaderCallback then
    transfer.trailers.foldl CurlResponse.headerCallback
      (filled (transfer.blockLines.foldl CurlResponse.headerCallback {}))
  else filled {}

/-- A block and the header callback of the image component behind it. -/
def receiveBlock (now : ℚ) (state : CurlResponse × ImageCacheInfo) (block : List Chars) :
    CurlResponse × ImageCacheInfo :=
  let response := (block ++ [blankLine]).foldl CurlResponse.headerCallback state.1
  (response, state.2.headerCallback response now)

/-- What the image component knows at the end of the headers. -/
def imageCacheInfo (transfer : HttpTransfer) (now : ℚ) : ImageCacheInfo :=
  (transfer.blocks.foldl (receiveBlock now) ({}, {})).2

end HttpTransfer

structure ResponseCaches (Image : Type) [HHWheelTimer] where
  networkCache_ : ExpiryCache String CurlResponse := {}
  imageCache_ : ExpiryCache String Image := {}

/-- A response is delivered: at the end of the transfer, or out of `networkCache_`, into which
`cachedBy` has brought it. `headerTime` is when the header callback runs, and `evicted` what the
image cache erases for an insertion. -/
def ResponseCaches.deliver {Image : Type} [HHWheelTimer] (decode : Chars → Option Image)
    (caches : ResponseCaches Image) (client : HttpClient) (cachedBy : Option HttpClient)
    (URL : String) (transfer : HttpTransfer) (headerTime : ℚ) (evicted : Option (List String)) :
    ResponseCaches Image :=
  let response := transfer.response (cachedBy.getD client)
  let info : ImageCacheInfo :=
    if cachedBy.isSome then ImageCacheInfo.headerCallback {} response headerTime
    else transfer.imageCacheInfo headerTime
  { networkCache_ :=
      if cachedBy.isSome then caches.networkCache_
      else caches.networkCache_.processNetworkRequest URL response transfer.ok
    imageCache_ :=
      match client with
      | .RSkComponentImage =>
        caches.imageCache_.processImageData decode info URL response evicted
      | .RSkImageLoaderModule =>
        caches.imageCache_.completeImageSize decode URL response evicted
      | .RSkNetworkingModule => caches.imageCache_ }

end ReactNativeSkia
