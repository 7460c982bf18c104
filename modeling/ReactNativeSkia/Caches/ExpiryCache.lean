import ReactNativeSkia.Timers.FollyTimer

/-!
# Caches whose entries expire

`ThreadSafeCache` (`ReactSkia/sdk/ThreadSafeCache.h`) and `RSkImageCacheManager`
(`ReactSkia/views/common/RSkImageCacheManager.cpp`). Both remember the next expiry time and have a
timer that is rescheduled from its own callback. An operation is one step, with what it queues in
the event loop of the timer: only `scheduleTimerTimeout` itself waits there. What Skia's caches use
and which images are in use elsewhere are arguments of the operations.
-/

namespace ReactNativeSkia

structure CacheData (Value : Type) where
  value : Value
  cacheExpiryTime : ℚ
  deriving DecidableEq, Repr

/-- What the callback of the timer has made of the map. -/
structure CacheFiring (Key Value : Type) where
  time : Int
  before : List (Key × CacheData Value)
  after : List (Key × CacheData Value)
  deriving DecidableEq, Repr

/-- `nullUsed` tells of a call through a null `timer_`. -/
structure ExpiryCache (Key Value : Type) [HHWheelTimer] where
  cacheMap_ : List (Key × CacheData Value) := []
  scheduleTimeExpiry_ : ℚ := 0
  timer_ : Option Timer := none
  now : Int := 0
  nullUsed : Bool := false
  firings : List (CacheFiring Key Value) := []

/-- `Timer::getFutureTime` is so far ahead. -/
def futureMilliseconds : Int := 31536000000

section
variable {Key Value : Type} [DecidableEq Key]

/-- `cacheMap_[key] = data`. -/
def assignEntry (key : Key) (data : CacheData Value) :
    List (Key × CacheData Value) → List (Key × CacheData Value)
  | [] => [(key, data)]
  | entry :: rest =>
    if entry.1 = key then (key, data) :: rest else entry :: assignEntry key data rest

/-- `imageCache_.insert`, which does not replace. -/
def insertEntry (key : Key) (data : CacheData Value) (map : List (Key × CacheData Value)) :
    List (Key × CacheData Value) :=
  if key ∈ map.map Prod.fst then map else map ++ [(key, data)]

omit [DecidableEq Key] in
/-- The loop of the callback: what is left, and the next expiry time. -/
def eraseExpired (currentTime : ℚ) (scheduleTimeExpiry : ℚ) :
    List (Key × CacheData Value) → List (Key × CacheData Value) × ℚ
  | [] => ([], scheduleTimeExpiry)
  | entry :: rest =>
    if entry.2.cacheExpiryTime ≤ currentTime then
      eraseExpired currentTime scheduleTimeExpiry rest
    else
      let scheduleTimeExpiry :=
        if scheduleTimeExpiry > entry.2.cacheExpiryTime then entry.2.cacheExpiryTime
        else scheduleTimeExpiry
      let erased := eraseExpired currentTime scheduleTimeExpiry rest
      (entry :: erased.1, erased.2)

end

namespace Timer

variable [HHWheelTimer]

/-- The event loop runs the closures in front of the first `scheduleTimerTimeout`. -/
def runClosures (timer : Timer) (now : Int) : List TimerTask → Timer
  | [] => { timer with tasks := [] }
  | .scheduleTimerTimeout call :: rest =>
    { timer with tasks := .scheduleTimerTimeout call :: rest }
  | task :: rest => (timer.runTask now task).runClosures now rest

def settle (timer : Timer) (now : Int) : Timer := timer.runClosures now timer.tasks

end Timer

namespace ExpiryCache

variable {Key Value : Type} [HHWheelTimer]

def onTimer (s : ExpiryCache Key Value) (call : Timer → Timer) : ExpiryCache Key Value :=
  match s.timer_ with
  | none => { s with nullUsed := true }
  | some timer => { s with timer_ := some (call timer) }

def reschedule (s : ExpiryCache Key Value) (duration : ℚ) : ExpiryCache Key Value :=
  s.onTimer fun timer => timer.reschedule duration false s.now 0

/-- What follows an insertion. -/
def scheduleExpiry (s : ExpiryCache Key Value) (expiryTime : ℚ) : ExpiryCache Key Value :=
  if s.cacheMap_.length = 1 then
    let s := { s with scheduleTimeExpiry_ := expiryTime }
    match s.timer_ with
    | none =>
      { s with timer_ := some (Timer.create (expiryTime - s.now) false true true s.now) }
    | some _ => s.reschedule (expiryTime - s.now)
  else if expiryTime < s.scheduleTimeExpiry_ then
    { s with scheduleTimeExpiry_ := expiryTime }.reschedule (expiryTime - s.now)
  else s

def expiryTimerCallback (s : ExpiryCache Key Value) : ExpiryCache Key Value :=
  let erased := eraseExpired s.now (s.now + futureMilliseconds : Int) s.cacheMap_
  let t : ExpiryCache Key Value := { s with
    cacheMap_ := erased.1
    firings := s.firings ++ [⟨s.now, s.cacheMap_, erased.1⟩] }
  if erased.1 ≠ [] then
    { t with scheduleTimeExpiry_ := erased.2 }.reschedule (erased.2 - s.now)
  else { t with scheduleTimeExpiry_ := 0 }

/-- `Timer::scheduleTimerTimeout`, on a timer that has just been taken out of its queue or wheel. -/
def scheduleTimerTimeout (s : ExpiryCache Key Value) (timer : Timer) (call : TimerCall) :
    ExpiryCache Key Value :=
  let s := { s with timer_ := some timer }
  (if timer.cb_ then s.expiryTimerCallback else s).onTimer fun timer => timer.afterCallback call 0

def settle (s : ExpiryCache Key Value) : ExpiryCache Key Value :=
  { s with timer_ := s.timer_.map fun timer => timer.settle s.now }

def erase (s : ExpiryCache Key Value) (erased : Key → Bool) : ExpiryCache Key Value :=
  { s with cacheMap_ := s.cacheMap_.filter fun entry => !erased entry.1 }

variable [DecidableEq Key]

def setCache (s : ExpiryCache Key Value) (key : Key) (value : Value) (cacheExpiryTime : ℚ) :
    ExpiryCache Key Value :=
  { s with cacheMap_ := assignEntry key ⟨value, cacheExpiryTime⟩ s.cacheMap_ }.scheduleExpiry
    cacheExpiryTime

/-- `EVICT_COUNT`. -/
def evictCount : Nat := 2

/-- `evicted` is `none` below the limits of Skia's caches, and else the entries that are erased. -/
def imageDataInsertInCache (s : ExpiryCache Key Value) (path : Key) (imageData : Option Value)
    (expiryTime : ℚ) (evicted : Option (List Key)) : ExpiryCache Key Value :=
  match imageData with
  | none => s
  | some image =>
    let s := s.erase fun key => (evicted.getD []).contains key
    if evicted.all fun keys => keys.length == evictCount then
      { s with cacheMap_ := insertEntry path ⟨image, expiryTime⟩ s.cacheMap_ }.scheduleExpiry
        expiryTime
    else s

def clearMemory (s : ExpiryCache Key Value) (inUse : List Key) : ExpiryCache Key Value :=
  let s := s.erase fun key => !inUse.contains key
  if s.cacheMap_ = [] then s.onTimer Timer.abort else s

omit [DecidableEq Key]

/-! ## What the timer leaves of the map -/

@[simp] theorem onTimer_cacheMap_ (s : ExpiryCache Key Value) (call : Timer → Timer) :
    (s.onTimer call).cacheMap_ = s.cacheMap_ := by
  unfold onTimer
  split <;> rfl

@[simp] theorem reschedule_cacheMap_ (s : ExpiryCache Key Value) (duration : ℚ) :
    (s.reschedule duration).cacheMap_ = s.cacheMap_ :=
  s.onTimer_cacheMap_ _

@[simp] theorem scheduleExpiry_cacheMap_ (s : ExpiryCache Key Value) (expiryTime : ℚ) :
    (s.scheduleExpiry expiryTime).cacheMap_ = s.cacheMap_ := by
  unfold scheduleExpiry
  split
  · dsimp only
    split
    · rfl
    · exact reschedule_cacheMap_ _ _
  · split
    · exact reschedule_cacheMap_ _ _
    · rfl

@[simp] theorem expiryTimerCallback_cacheMap_ (s : ExpiryCache Key Value) :
    s.expiryTimerCallback.cacheMap_ =
      (eraseExpired s.now (s.now + futureMilliseconds : Int) s.cacheMap_).1 := by
  unfold expiryTimerCallback
  dsimp only
  split
  · exact reschedule_cacheMap_ _ _
  · rfl

end ExpiryCache

/-- What happens to the timer of a cache. -/
inductive CacheTimerOp where
  | tick (milliseconds : Nat)
  /-- The event loop runs the `scheduleTimerTimeout` at the head of its queue. -/
  | runTask
  | timeoutExpired
  deriving DecidableEq, Repr

inductive ThreadSafeCacheOp (Key Value : Type) where
  | setCache (key : Key) (value : Value) (cacheExpiryTime : ℚ)
  | timer (op : CacheTimerOp)
  deriving DecidableEq, Repr

inductive ImageCacheOp (Key Value : Type) where
  | imageDataInsertInCache (path : Key) (imageData : Option Value) (expiryTime : ℚ)
    (evicted : Option (List Key))
  | clearMemory (inUse : List Key)
  | timer (op : CacheTimerOp)
  deriving DecidableEq, Repr

section

variable {Key Value : Type} [HHWheelTimer]

/-- `none` if there is no closure to run and no timeout due. -/
def CacheTimerOp.act (s : ExpiryCache Key Value) : CacheTimerOp → Option (ExpiryCache Key Value)
  | tick milliseconds => some { s with now := s.now + milliseconds }
  | runTask =>
    match s.timer_ with
    | none => none
    | some timer =>
      match timer.tasks with
      | .scheduleTimerTimeout call :: tasks =>
        some (s.scheduleTimerTimeout { timer with tasks := tasks } call)
      | _ => none
  | timeoutExpired =>
    match s.timer_ with
    | none => none
    | some timer =>
      if timer.isDue s.now then
        if timer.timerCallback_ then some (s.scheduleTimerTimeout timer.expire timer.armedBy)
        else some { s with timer_ := some timer.expire }
      else none

variable [DecidableEq Key]

def ThreadSafeCacheOp.act (s : ExpiryCache Key Value) :
    ThreadSafeCacheOp Key Value → Option (ExpiryCache Key Value)
  | setCache key value cacheExpiryTime => some (s.setCache key value cacheExpiryTime)
  | timer op => op.act s

/-- Only entries that are not in use are evicted, at most `EVICT_COUNT` of them. -/
def ImageCacheOp.act (s : ExpiryCache Key Value) :
    ImageCacheOp Key Value → Option (ExpiryCache Key Value)
  | imageDataInsertInCache path imageData expiryTime evicted =>
    if (evicted.getD []).length ≤ ExpiryCache.evictCount ∧ (evicted.getD []).Nodup ∧
        ∀ key ∈ evicted.getD [], key ∈ s.cacheMap_.map Prod.fst then
      some (s.imageDataInsertInCache path imageData expiryTime evicted)
    else none
  | clearMemory inUse => some (s.clearMemory inUse)
  | timer op => op.act s

def ThreadSafeCacheStep (s : ExpiryCache Key Value) (op : ThreadSafeCacheOp Key Value)
    (t : ExpiryCache Key Value) : Prop :=
  (op.act s).map ExpiryCache.settle = some t

def ImageCacheStep (s : ExpiryCache Key Value) (op : ImageCacheOp Key Value)
    (t : ExpiryCache Key Value) : Prop :=
  (op.act s).map ExpiryCache.settle = some t

end

end ReactNativeSkia
