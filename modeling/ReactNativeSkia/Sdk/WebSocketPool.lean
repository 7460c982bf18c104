import Mathlib.Data.List.Basic
import ReactNativeSkia.Sdk.NopollWebsocket

/-!
# The worker pool of the web sockets

The threads of `NopollWebsocket` (`ReactSkia/sdk/NopollWebsocket.cpp:50-109, 148-154, 193-265`):
any threads that push requests, the poll thread that starts workers, and the workers in
`multiConn`. A step is a critical section of `requestQueueLock_` with the section of
`threadCountLock_` within it, a `sem_post` or a `sem_wait` that returns. What a worker does with
a request is one step of its own; the requests are pointers, none of them null since each caller
has written through it.
-/

namespace ReactNativeSkia

/-- Where a worker is in `multiConn`. -/
inductive PoolWorker (ρ : Type) where
  /-- In front of the lock of the queue. -/
  | popping
  /-- In the `switch`. -/
  | handling (nopollRequest : ρ)
  /-- Behind `break`. -/
  | left
  deriving DecidableEq, Repr

/-- `waiting` is `pollThread` in front of `sem_wait`, `posting` the number of threads between
their push and their `sem_post`. `pushed` and `popped` tell of the whole run, `popped` with the
worker. -/
structure WorkerPool (ρ : Type) where
  RequestQueue : List ρ := []
  startDownloadingThread : Nat := 0
  currentWorkerThreadCount : Int := 0
  waiting : Bool := false
  workers : List (PoolWorker ρ) := []
  posting : Nat := 0
  pushed : List ρ := []
  popped : List (Nat × ρ) := []
  deriving DecidableEq, Repr

inductive PoolOp (ρ : Type) where
  /-- The locked part of `getConnect`, `send`, `close`, `ping` or `sendBinary`. -/
  | push (nopollRequest : ρ)
  | post
  /-- A turn of `pollThread`. -/
  | poll
  | wake
  /-- The locked part of a turn of `multiConn`. -/
  | pop (worker : Nat)
  | handled (worker : Nat)
  deriving DecidableEq, Repr

variable {ρ : Type}

def PoolWorker.isRunning : PoolWorker ρ → Bool
  | popping | handling _ => true
  | left => false

def PoolWorker.isHandling : PoolWorker ρ → Bool
  | handling _ => true
  | popping | left => false

namespace WorkerPool

/-- The workers that have been started and have not left the loop of `multiConn`. -/
def running (s : WorkerPool ρ) : Nat := s.workers.countP (·.isRunning)

def push (s : WorkerPool ρ) (nopollRequest : ρ) : WorkerPool ρ :=
  { s with
    RequestQueue := s.RequestQueue ++ [nopollRequest]
    posting := s.posting + 1
    pushed := s.pushed ++ [nopollRequest] }

def startWorker (s : WorkerPool ρ) : WorkerPool ρ :=
  { s with
    workers := s.workers ++ [.popping]
    currentWorkerThreadCount := s.currentWorkerThreadCount + 1 }

def setWorker (s : WorkerPool ρ) (worker : Nat) (w : PoolWorker ρ) : WorkerPool ρ :=
  { s with workers := s.workers.set worker w }

/-- `RequestQueue_.pop()`, with what is left of the queue. -/
def pop (s : WorkerPool ρ) (worker : Nat) (nopollRequest : ρ) (rest : List ρ) : WorkerPool ρ :=
  { s.setWorker worker (.handling nopollRequest) with
    RequestQueue := rest
    popped := s.popped ++ [(worker, nopollRequest)] }

/-- The worker has found the queue empty. -/
def leave (s : WorkerPool ρ) (worker : Nat) : WorkerPool ρ :=
  { s.setWorker worker .left with
    currentWorkerThreadCount := s.currentWorkerThreadCount - 1 }

end WorkerPool

/-- `none` if that is not what the thread does next. -/
def PoolOp.exec (s : WorkerPool ρ) : PoolOp ρ → Option (WorkerPool ρ)
  | push nopollRequest => some (s.push nopollRequest)
  | post =>
    if 0 < s.posting then
      some { s with
        startDownloadingThread := s.startDownloadingThread + 1
        posting := s.posting - 1 }
    else none
  | poll =>
    if s.waiting then none
    else
      match s.RequestQueue with
      | [] => some { s with waiting := true }
      | _ :: _ =>
        if s.currentWorkerThreadCount < maxWorkerThreadCount then some s.startWorker
        else some s
  | wake =>
    if s.waiting ∧ 0 < s.startDownloadingThread then
      some { s with
        startDownloadingThread := s.startDownloadingThread - 1
        waiting := false }
    else none
  | pop worker =>
    match s.workers[worker]?, s.RequestQueue with
    | some .popping, [] => some (s.leave worker)
    | some .popping, nopollRequest :: rest => some (s.pop worker nopollRequest rest)
    | _, _ => none
  | handled worker =>
    match s.workers[worker]? with
    | some (.handling _) => some (s.setWorker worker .popping)
    | _ => none

def poolStep (s : WorkerPool ρ) (op : PoolOp ρ) (s' : WorkerPool ρ) : Prop :=
  op.exec s = some s'

end ReactNativeSkia
