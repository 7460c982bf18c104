import ReactNativeSkia.Caches.HttpTransfer

/-!
# The header callback of the client

`headerCallbackCurlWrapper` (`ReactSkia/sdk/CurlNetworking.cpp`) fills the header buffer line by
line and runs `CURLNetworkingHeaderCallback` at a line that is only a line end. The status code and
the URL, which it asks curl for, are left out.
-/

namespace ReactNativeSkia

/-- `callbacks` has the header buffer of each run of the callback. -/
structure HeaderDelivery where
  curlResponse : CurlResponse := {}
  callbacks : List (List (Chars × Chars)) := []
  deriving DecidableEq, Repr

/-- `nitems == 2 && buffer[0] == 13 && buffer[1] == 10`. -/
def headerCallbackCurlWrapper (s : HeaderDelivery) (line : Chars) : HeaderDelivery :=
  let curlResponse := s.curlResponse.headerCallback line
  { curlResponse := curlResponse
    callbacks :=
      if line = HttpTransfer.blankLine then s.callbacks ++ [curlResponse.headerBuffer]
      else s.callbacks }

end ReactNativeSkia
