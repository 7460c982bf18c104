import ReactNativeSkia.Sdk.Proofs.WorkerPool
import ReactNativeSkia.Sdk.Proofs.WebSocketSteps

/-!
# The web sockets run on the pool

`WebSockets` has the same threads with what they read and write in the requests, and JS as the
only one that pushes. Each of its steps is a step of the pool, or does not touch it.
-/

namespace ReactNativeSkia

/-- What the pool sees of a worker. -/
def WebSocketWorker.inPool : WebSocketWorker → PoolWorker Nat
  | popping => .popping
  | reading socketID | running socketID _ | disconnecting socketID => .handling socketID
  | exited => .left

namespace WebSockets

variable {decode : Chars → Option Chars} {s s' : WebSockets} {p : WorkerPool Nat}

/-- The threads of the web sockets are those of the pool. -/
structure OnPool (s : WebSockets) (p : WorkerPool Nat) : Prop where
  queue : p.RequestQueue = s.RequestQueue
  semaphore : p.startDownloadingThread = s.startDownloadingThread
  count : p.currentWorkerThreadCount = s.currentWorkerThreadCount
  waiting : p.waiting = s.waiting
  workers : p.workers = s.workers.map (·.inPool)
  posting : p.posting = if s.js = .posting then 1 else 0

theorem OnPool.worker (h : s.OnPool p) {worker : Nat} {w : WebSocketWorker}
    (hworker : s.workers[worker]? = some w) : p.workers[worker]? = some w.inPool := by
  rw [h.workers, List.getElem?_map, hworker]
  rfl

/-- A worker that goes on within the handling of its request. -/
theorem OnPool.within (h : s.OnPool p) {worker : Nat} {v w : WebSocketWorker}
    (hworker : s.workers[worker]? = some v) (hsame : w.inPool = v.inPool)
    (hqueue : s'.RequestQueue = s.RequestQueue)
    (hsemaphore : s'.startDownloadingThread = s.startDownloadingThread)
    (hcount : s'.currentWorkerThreadCount = s.currentWorkerThreadCount)
    (hwaiting : s'.waiting = s.waiting) (hworkers : s'.workers = s.workers.set worker w)
    (hjs : s'.js = s.js) : s'.OnPool p := by
  refine ⟨by rw [h.queue, hqueue], by rw [h.semaphore, hsemaphore], by rw [h.count, hcount],
    by rw [h.waiting, hwaiting], ?_, by rw [h.posting, hjs]⟩
  have hget : p.workers[worker]? = some v.inPool := h.worker hworker
  obtain ⟨hlt, heq⟩ := List.getElem?_eq_some_iff.mp hget
  rw [hworkers, List.map_set, ← h.workers, hsame, ← heq, List.set_getElem_self]

/-- A step of JS in front of its push. -/
theorem OnPool.of_js (h : s.OnPool p) (hbefore : s.js ≠ .posting) (hafter : s'.js ≠ .posting)
    (hqueue : s'.RequestQueue = s.RequestQueue)
    (hsemaphore : s'.startDownloadingThread = s.startDownloadingThread)
    (hcount : s'.currentWorkerThreadCount = s.currentWorkerThreadCount)
    (hwaiting : s'.waiting = s.waiting) (hworkers : s'.workers = s.workers) : s'.OnPool p := by
  refine ⟨by rw [h.queue, hqueue], by rw [h.semaphore, hsemaphore], by rw [h.count, hcount],
    by rw [h.waiting, hwaiting], by rw [h.workers, hworkers], ?_⟩
  have hposting := h.posting
  rw [if_neg hbefore] at hposting
  rw [if_neg hafter, hposting]

/-- A worker that is done with its request. -/
theorem OnPool.handled_step (h : s.OnPool p) {worker socketID : Nat} {v : WebSocketWorker}
    (hworker : s.workers[worker]? = some v) (hv : v.inPool = .handling socketID) :
    poolStep p (.handled worker) (p.setWorker worker .popping) := by
  have hget := h.worker hworker
  rw [hv] at hget
  simp [poolStep, PoolOp.exec, hget]

theorem OnPool.handled (h : s.OnPool p) {worker : Nat}
    (hqueue : s'.RequestQueue = s.RequestQueue)
    (hsemaphore : s'.startDownloadingThread = s.startDownloadingThread)
    (hcount : s'.currentWorkerThreadCount = s.currentWorkerThreadCount)
    (hwaiting : s'.waiting = s.waiting) (hworkers : s'.workers = s.workers.set worker .popping)
    (hjs : s'.js = s.js) : s'.OnPool (p.setWorker worker .popping) := by
  refine ⟨by rw [hqueue, ← h.queue]; rfl, by rw [hsemaphore, ← h.semaphore]; rfl,
    by rw [hcount, ← h.count]; rfl, by rw [hwaiting, ← h.waiting]; rfl, ?_,
    by rw [hjs, ← h.posting]; rfl⟩
  rw [hworkers, List.map_set, ← h.workers]
  rfl

/-- A step of the web sockets is a step of the pool or none. -/
theorem OnPool.step {op : WebSocketOp} (h : s.OnPool p) (hp : p.Sound)
    (hexec : op.exec decode s = some s') : ∃ p', Run poolStep anyStep p p' ∧ s'.OnPool p' := by
  cases WebSocketOp.exec_branch hexec with
  | accept socketID call hjs =>
    refine ⟨p, .refl p, h.of_js (by simp [hjs]) ?_ rfl rfl rfl rfl rfl⟩
    simp only [accept]
    split <;> simp
  | notInList => exact ⟨p, .refl p, h⟩
  | store socketID call hjs =>
    exact ⟨p, .refl p, h.of_js (by simp [hjs]) (by simp) rfl rfl rfl rfl rfl⟩
  | setType socketID call hjs =>
    exact ⟨p, .refl p, h.of_js (by simp [hjs]) (by simp) rfl rfl rfl rfl rfl⟩
  | push socketID call hjs =>
    refine ⟨p.push socketID, .single (a := .push socketID) trivial rfl, ?_⟩
    have hposting := h.posting
    rw [hjs, if_neg (by simp)] at hposting
    unfold WebSockets.push
    split <;> exact ⟨congrArg (· ++ [socketID]) h.queue, h.semaphore, h.count, h.waiting,
      h.workers, congrArg (· + 1) hposting⟩
  | post hjs =>
    have hposting := h.posting
    rw [if_pos hjs] at hposting
    refine ⟨{ p with
      startDownloadingThread := p.startDownloadingThread + 1
      posting := p.posting - 1 }, .single (a := .post) trivial (if_pos (by omega)), ?_⟩
    exact ⟨h.queue, congrArg (· + 1) h.semaphore, h.count, h.waiting, h.workers,
      by simp [hposting]⟩
  | pollEmpty hwait hqueue =>
    have hstep : poolStep p .poll { p with waiting := true } := by
      simp [poolStep, PoolOp.exec, h.waiting, hwait, h.queue, hqueue]
    exact ⟨_, .single trivial hstep, h.queue, h.semaphore, h.count, rfl, h.workers, h.posting⟩
  | startWorker hwait hqueue hlt =>
    obtain ⟨socketID, rest, hcons⟩ := List.exists_cons_of_ne_nil hqueue
    have hstep : poolStep p .poll p.startWorker := by
      simp [poolStep, PoolOp.exec, h.waiting, hwait, h.queue, hcons, h.count, hlt]
    refine ⟨_, .single trivial hstep, h.queue, h.semaphore, ?_, h.waiting, ?_, h.posting⟩
    · simp [WorkerPool.startWorker, startWorker, h.count]
    · simp [WorkerPool.startWorker, startWorker, h.workers, WebSocketWorker.inPool]
  | pollFull => exact ⟨p, .refl p, h⟩
  | wake hwait hsem =>
    have hstep : poolStep p .wake { p with
        startDownloadingThread := p.startDownloadingThread - 1
        waiting := false } := if_pos ⟨h.waiting ▸ hwait, h.semaphore ▸ hsem⟩
    exact ⟨_, .single trivial hstep, h.queue, congrArg (· - 1) h.semaphore, h.count, rfl,
      h.workers, h.posting⟩
  | popNone worker hworker hqueue =>
    have hget : p.workers[worker]? = some .popping := h.worker hworker
    have hstep : poolStep p (.pop worker) (p.leave worker) := by
      simp [poolStep, PoolOp.exec, hget, h.queue, hqueue]
    refine ⟨_, .single trivial hstep, h.queue, h.semaphore, ?_, h.waiting, ?_, h.posting⟩
    · -- the worker itself is counted, so nothing is taken from zero
      have hrunning := WorkerPool.running_leave hget
      have hcount := hp.count
      have hsame := h.count
      show p.currentWorkerThreadCount - 1 = ((s.currentWorkerThreadCount - 1 : Nat) : Int)
      omega
    · show p.workers.set worker .left = (s.workers.set worker .exited).map (·.inPool)
      rw [h.workers, List.map_set]
      rfl
  | pop worker socketID rest hworker hqueue =>
    have hget : p.workers[worker]? = some .popping := h.worker hworker
    have hstep : poolStep p (.pop worker) (p.pop worker socketID rest) := by
      simp [poolStep, PoolOp.exec, hget, h.queue, hqueue]
    refine ⟨_, .single trivial hstep, rfl, h.semaphore, h.count, h.waiting, ?_, h.posting⟩
    show p.workers.set worker (.handling socketID) =
      (s.workers.set worker (.reading socketID)).map (·.inPool)
    rw [h.workers, List.map_set]
    rfl
  | readType worker socketID hworker =>
    exact ⟨p, .refl p, h.within (w := .running socketID _) hworker rfl rfl rfl rfl rfl rfl rfl⟩
  | perform worker socketID messageType behind hworker =>
    unfold WebSockets.perform
    split
    · exact ⟨p, .refl p,
        h.within (w := .disconnecting socketID) hworker rfl rfl rfl rfl rfl rfl rfl⟩
    · exact ⟨_, .single trivial (h.handled_step hworker rfl), h.handled rfl rfl rfl rfl rfl rfl⟩
  | disconnect worker socketID hworker =>
    exact ⟨_, .single trivial (h.handled_step hworker rfl), h.handled rfl rfl rfl rfl rfl rfl⟩

/-- A run of the web sockets is a run of the pool. -/
theorem OnPool.of_run {s₀ : WebSockets} (hinit : s₀.OnPool {})
    (hrun : Run (webSocketStep decode) anyStep s₀ s) :
    ∃ p, Run poolStep anyStep {} p ∧ s.OnPool p := by
  apply hrun.invariant (P := fun s => ∃ p, Run poolStep anyStep {} p ∧ s.OnPool p)
  · rintro s op s' ⟨p, hpool, h⟩ - hstep
    obtain ⟨p', hpool', h'⟩ := h.step (WorkerPool.Sound.init.of_run hpool) hstep
    exact ⟨p', hpool.trans hpool', h'⟩
  · exact ⟨{}, .refl _, hinit⟩

end WebSockets

end ReactNativeSkia
