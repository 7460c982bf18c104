import ReactNativeSkia.Sdk.WebSocketPool
import ReactNativeSkia.Misc.Lists
import ReactNativeSkia.Misc.Run

/-!
# No overrun and no stranded request

The counter of the workers is right and within its limit, and each request is popped once, in the
order of the pushes. While the poll thread waits, what is in the queue has been pushed behind its
look at the queue, and each of these pushes has a post behind it or ahead of it: with no post left
to come or to be taken the queue is empty. Without a push the threads come to rest, and then
nothing is left in the queue.
-/

namespace ReactNativeSkia

variable {ρ : Type} {s s' : WorkerPool ρ}

namespace WorkerPool

/-! ## Steps -/

/-- The branches of `PoolOp.exec`. -/
inductive Branch (s : WorkerPool ρ) : PoolOp ρ → WorkerPool ρ → Prop where
  | push (nopollRequest : ρ) : Branch s (.push nopollRequest) (s.push nopollRequest)
  | post (hposting : 0 < s.posting) :
      Branch s .post { s with
        startDownloadingThread := s.startDownloadingThread + 1
        posting := s.posting - 1 }
  | pollEmpty (hwait : s.waiting = false) (hqueue : s.RequestQueue = []) :
      Branch s .poll { s with waiting := true }
  | startWorker (hwait : s.waiting = false) (hqueue : s.RequestQueue ≠ [])
      (hlt : s.currentWorkerThreadCount < maxWorkerThreadCount) :
      Branch s .poll s.startWorker
  | pollFull (hwait : s.waiting = false) (hqueue : s.RequestQueue ≠ [])
      (hfull : ¬ s.currentWorkerThreadCount < maxWorkerThreadCount) : Branch s .poll s
  | wake (hwait : s.waiting = true) (hsem : 0 < s.startDownloadingThread) :
      Branch s .wake { s with
        startDownloadingThread := s.startDownloadingThread - 1
        waiting := false }
  | leave (worker : Nat) (hworker : s.workers[worker]? = some .popping)
      (hqueue : s.RequestQueue = []) : Branch s (.pop worker) (s.leave worker)
  | pop (worker : Nat) (nopollRequest : ρ) (rest : List ρ)
      (hworker : s.workers[worker]? = some .popping)
      (hqueue : s.RequestQueue = nopollRequest :: rest) :
      Branch s (.pop worker) (s.pop worker nopollRequest rest)
  | handled (worker : Nat) (nopollRequest : ρ)
      (hworker : s.workers[worker]? = some (.handling nopollRequest)) :
      Branch s (.handled worker) (s.setWorker worker .popping)

theorem exec_branch {op : PoolOp ρ} (hexec : op.exec s = some s') : Branch s op s' := by
  cases op with
  | push nopollRequest =>
    obtain rfl := Option.some.inj hexec
    exact .push nopollRequest
  | post =>
    obtain ⟨hposting, ⟨⟩⟩ := Option.ite_none_right_eq_some.mp hexec
    exact .post hposting
  | poll =>
    obtain ⟨hwait, hexec⟩ := Option.ite_none_left_eq_some.mp hexec
    have hwait : s.waiting = false := Bool.eq_false_iff.mpr hwait
    split at hexec
    · rename_i hqueue
      obtain rfl := Option.some.inj hexec
      exact .pollEmpty hwait hqueue
    · rename_i hqueue
      have hne : s.RequestQueue ≠ [] := by simp [hqueue]
      split at hexec
      · rename_i hlt
        obtain rfl := Option.some.inj hexec
        exact .startWorker hwait hne hlt
      · rename_i hfull
        obtain rfl := Option.some.inj hexec
        exact .pollFull hwait hne hfull
  | wake =>
    obtain ⟨⟨hwait, hsem⟩, ⟨⟩⟩ := Option.ite_none_right_eq_some.mp hexec
    exact .wake hwait hsem
  | pop worker =>
    simp only [PoolOp.exec] at hexec
    split at hexec
    · rename_i hworker hqueue
      obtain rfl := Option.some.inj hexec
      exact .leave worker hworker hqueue
    · rename_i nopollRequest rest hworker hqueue
      obtain rfl := Option.some.inj hexec
      exact .pop worker nopollRequest rest hworker hqueue
    · cases hexec
  | handled worker =>
    simp only [PoolOp.exec] at hexec
    split at hexec
    · rename_i nopollRequest hworker
      obtain rfl := Option.some.inj hexec
      exact .handled worker nopollRequest hworker
    · cases hexec

/-! ## What the steps do to the workers -/

section Workers

variable {worker : Nat} {v w : PoolWorker ρ}

theorem countP_setWorker (hworker : s.workers[worker]? = some v) (w : PoolWorker ρ)
    (p : PoolWorker ρ → Bool) :
    (s.setWorker worker w).workers.countP p + (p v).toNat =
      s.workers.countP p + (p w).toNat := by
  have htoNat : ∀ b : Bool, b.toNat = if b then 1 else 0 := by decide
  rw [htoNat, htoNat]
  exact countP_set_add hworker w p

@[simp] theorem running_startWorker (s : WorkerPool ρ) :
    s.startWorker.running = s.running + 1 := by
  simp [running, startWorker, List.countP_append, PoolWorker.isRunning]

theorem running_pop (hworker : s.workers[worker]? = some .popping) (nopollRequest : ρ)
    (rest : List ρ) : (s.pop worker nopollRequest rest).running = s.running :=
  Nat.add_right_cancel (countP_setWorker hworker (.handling nopollRequest) (·.isRunning))

theorem running_leave (hworker : s.workers[worker]? = some .popping) :
    (s.leave worker).running + 1 = s.running :=
  countP_setWorker hworker .left (·.isRunning)

theorem running_handled {nopollRequest : ρ}
    (hworker : s.workers[worker]? = some (.handling nopollRequest)) :
    (s.setWorker worker .popping).running = s.running :=
  Nat.add_right_cancel (countP_setWorker hworker .popping (·.isRunning))

end Workers

/-! ## The invariant -/

structure Sound (s : WorkerPool ρ) : Prop where
  count : s.currentWorkerThreadCount = s.running
  limit : s.running ≤ maxWorkerThreadCount
  /-- The requests are popped in order, and what has not been popped is in the queue. -/
  once : s.popped.map Prod.snd ++ s.RequestQueue = s.pushed
  started : ∀ entry ∈ s.popped, entry.1 < s.workers.length
  /-- While the poll thread waits, the queue has no more requests than posts are to be taken or
  to come. -/
  posts : s.waiting = true → s.RequestQueue.length ≤ s.startDownloadingThread + s.posting

theorem Sound.init : ({} : WorkerPool ρ).Sound where
  count := rfl
  limit := Nat.zero_le _
  once := rfl
  started := by simp
  posts := by simp

theorem Sound.step {op : PoolOp ρ} (h : s.Sound) (hexec : op.exec s = some s') : s'.Sound := by
  cases exec_branch hexec with
  | push nopollRequest =>
    refine ⟨h.count, h.limit, ?_, h.started, ?_⟩
    · simp [push, ← h.once]
    · intro hwait
      have hposts := h.posts hwait
      simp only [push, List.length_append, List.length_singleton]
      omega
  | post hposting =>
    refine ⟨h.count, h.limit, h.once, h.started, ?_⟩
    intro hwait
    have hposts := h.posts hwait
    dsimp only
    omega
  | pollEmpty hwait hqueue =>
    refine ⟨h.count, h.limit, h.once, h.started, ?_⟩
    intro
    simp [hqueue]
  | startWorker hwait hqueue hlt =>
    have hcount := h.count
    refine ⟨?_, ?_, h.once, ?_, ?_⟩
    · rw [running_startWorker]
      simp [startWorker, hcount]
    · rw [running_startWorker]
      omega
    · intro entry hentry
      have hlt := h.started entry hentry
      simp only [startWorker, List.length_append]
      omega
    · intro hwait'
      exact absurd hwait' (by simp [startWorker, hwait])
  | pollFull => exact h
  | wake hwait hsem =>
    refine ⟨h.count, h.limit, h.once, h.started, ?_⟩
    simp
  | leave worker hworker hqueue =>
    have hleave := running_leave hworker
    have hcount := h.count
    have hlimit := h.limit
    refine ⟨?_, by omega, h.once, ?_, h.posts⟩
    · show s.currentWorkerThreadCount - 1 = _
      omega
    · intro entry hentry
      simpa [leave, setWorker] using h.started entry hentry
  | pop worker nopollRequest rest hworker hqueue =>
    have hrunning := running_pop hworker nopollRequest rest
    refine ⟨?_, ?_, ?_, ?_, ?_⟩
    · rw [hrunning]
      exact h.count
    · rw [hrunning]
      exact h.limit
    · simp [pop, setWorker, ← h.once, hqueue]
    · intro entry hentry
      rw [pop, setWorker, List.length_set]
      rcases List.mem_append.mp hentry with hold | hnew
      · exact h.started entry hold
      · rw [List.mem_singleton.mp hnew]
        exact (List.getElem?_eq_some_iff.mp hworker).1
    · intro hwait
      have hposts := h.posts hwait
      rw [hqueue, List.length_cons] at hposts
      simp only [pop, setWorker]
      omega
  | handled worker nopollRequest hworker =>
    have hrunning := running_handled hworker
    refine ⟨?_, ?_, h.once, ?_, h.posts⟩
    · rw [hrunning]
      exact h.count
    · rw [hrunning]
      exact h.limit
    · intro entry hentry
      simpa [setWorker] using h.started entry hentry

theorem Sound.of_run {t : WorkerPool ρ} (h : s.Sound) (hrun : Run poolStep anyStep s t) :
    t.Sound :=
  hrun.invariant (P := Sound) (fun _ _ _ h _ hstep => h.step hstep) h

/-! ## Coming to rest -/

/-- A step that is not a push and is not a turn of the poll thread at a full pool, which changes
nothing. -/
def Moves (s s' : WorkerPool ρ) : Prop :=
  ∃ op : PoolOp ρ, (∀ nopollRequest, op ≠ .push nopollRequest) ∧ poolStep s op s' ∧ s' ≠ s

/-- Nothing is left to be done until the next push. -/
def AtRest (s : WorkerPool ρ) : Prop := ∀ s', ¬ s.Moves s'

/-- `pollThread` is blocked in `sem_wait`. -/
def Blocked (s : WorkerPool ρ) : Prop := s.waiting = true ∧ s.startDownloadingThread = 0

/-- How many moves are left at most. A worker can be started only while the queue has a request,
and it takes two moves for each one to be handled. -/
def movesLeft (s : WorkerPool ρ) : Nat :=
  2 * s.RequestQueue.length +
  (bif s.RequestQueue.isEmpty then 0 else 2 * (maxWorkerThreadCount - s.running)) +
  s.running + s.workers.countP (·.isHandling) +
  3 * s.posting + 2 * s.startDownloadingThread + (!s.waiting).toNat

theorem movesLeft_lt (h : s.Sound) (hmove : s.Moves s') : s'.movesLeft < s.movesLeft := by
  obtain ⟨op, hpush, hexec, hne⟩ := hmove
  have hlimit := h.limit
  have hcount := h.count
  cases exec_branch hexec with
  | push nopollRequest => exact absurd rfl (hpush nopollRequest)
  | post hposting =>
    simp only [movesLeft, running]
    omega
  | pollEmpty hwait hqueue => simp [movesLeft, running, hwait]
  | startWorker hwait hqueue hlt =>
    have hhandling : s.startWorker.workers.countP (·.isHandling) =
        s.workers.countP (·.isHandling) := by
      simp [startWorker, List.countP_append, PoolWorker.isHandling]
    rw [movesLeft, movesLeft, running_startWorker, hhandling]
    simp only [startWorker, List.isEmpty_eq_false_iff.mpr hqueue, cond_false]
    omega
  | pollFull => exact absurd rfl hne
  | wake hwait hsem =>
    simp only [movesLeft, running, hwait, Bool.not_true, Bool.not_false, Bool.toNat_true,
      Bool.toNat_false]
    omega
  | leave worker hworker hqueue =>
    have hrunning := running_leave hworker
    have hhandling : (s.leave worker).workers.countP (·.isHandling) =
        s.workers.countP (·.isHandling) := countP_setWorker hworker .left (·.isHandling)
    rw [movesLeft, movesLeft, hhandling]
    simp only [leave, setWorker, hqueue, List.isEmpty_nil, cond_true] at hrunning ⊢
    omega
  | pop worker nopollRequest rest hworker hqueue =>
    have hrunning := running_pop hworker nopollRequest rest
    have hhandling : (s.pop worker nopollRequest rest).workers.countP (·.isHandling) =
        s.workers.countP (·.isHandling) + 1 :=
      countP_setWorker hworker (.handling nopollRequest) (·.isHandling)
    rw [movesLeft, movesLeft, hrunning, hhandling]
    simp only [pop, setWorker, hqueue, List.length_cons, List.isEmpty_cons, cond_false]
    cases rest.isEmpty <;> simp only [cond_true, cond_false] <;> omega
  | handled worker nopollRequest hworker =>
    have hrunning := running_handled hworker
    have hhandling : (s.setWorker worker .popping).workers.countP (·.isHandling) + 1 =
        s.workers.countP (·.isHandling) := countP_setWorker hworker .popping (·.isHandling)
    rw [movesLeft, movesLeft, hrunning]
    simp only [setWorker] at hhandling ⊢
    omega

theorem movesLeft_add_le (h : s.Sound) {f : Nat → WorkerPool ρ} (hzero : f 0 = s) (n : Nat)
    (hmoves : ∀ k < n, (f k).Moves (f (k + 1))) :
    (f n).Sound ∧ (f n).movesLeft + n ≤ s.movesLeft := by
  induction n with
  | zero => simpa [hzero] using h
  | succ n ih =>
    obtain ⟨hsound, hle⟩ := ih fun k hk => hmoves k (by omega)
    have hmove := hmoves n (by omega)
    have hlt := movesLeft_lt hsound hmove
    obtain ⟨op, -, hexec, -⟩ := hmove
    exact ⟨hsound.step hexec, by omega⟩

/-! ## A pool at rest -/

section AtRest

variable {worker : Nat} {nopollRequest : ρ}

theorem AtRest.not_popping (h : s.AtRest) : s.workers[worker]? ≠ some .popping := by
  intro hworker
  cases hqueue : s.RequestQueue with
  | nil =>
    apply h (s.leave worker)
    refine ⟨.pop worker, by simp, by simp [poolStep, PoolOp.exec, hworker, hqueue], ?_⟩
    intro heq
    have hleave := running_leave hworker
    rw [heq] at hleave
    omega
  | cons nopollRequest rest =>
    apply h (s.pop worker nopollRequest rest)
    refine ⟨.pop worker, by simp, by simp [poolStep, PoolOp.exec, hworker, hqueue], ?_⟩
    intro heq
    have hqueue' : s.RequestQueue = rest := congrArg RequestQueue heq.symm
    simp [hqueue] at hqueue'

theorem AtRest.not_handling (h : s.AtRest) :
    s.workers[worker]? ≠ some (.handling nopollRequest) := by
  intro hworker
  apply h (s.setWorker worker .popping)
  refine ⟨.handled worker, by simp, by simp [poolStep, PoolOp.exec, hworker], ?_⟩
  intro heq
  have hlt := (List.getElem?_eq_some_iff.mp hworker).1
  have hset : (s.setWorker worker .popping).workers[worker]? = some .popping := by
    simp [setWorker, hlt]
  rw [heq, hworker] at hset
  cases hset

theorem AtRest.running_eq_zero (h : s.AtRest) : s.running = 0 := by
  rw [running, List.countP_eq_zero]
  intro w hmem
  obtain ⟨worker, hworker⟩ := List.getElem?_of_mem hmem
  cases w with
  | popping => exact absurd hworker h.not_popping
  | handling nopollRequest => exact absurd hworker h.not_handling
  | left => simp [PoolWorker.isRunning]

theorem AtRest.posting_eq_zero (h : s.AtRest) : s.posting = 0 := by
  by_contra hne
  have hpos : 0 < s.posting := Nat.pos_of_ne_zero hne
  apply h { s with
    startDownloadingThread := s.startDownloadingThread + 1
    posting := s.posting - 1 }
  refine ⟨.post, by simp, if_pos hpos, ?_⟩
  intro heq
  have hposting : s.posting - 1 = s.posting := congrArg posting heq
  omega

/-- The poll thread has found the queue empty: it starts a worker otherwise. -/
theorem AtRest.waiting (h : s.AtRest) (hs : s.Sound) : s.waiting = true := by
  by_contra hwait
  have hcount := hs.count
  have hrunning := h.running_eq_zero
  cases hqueue : s.RequestQueue with
  | nil =>
    apply h { s with waiting := true }
    refine ⟨.poll, by simp, by simp [poolStep, PoolOp.exec, hwait, hqueue], ?_⟩
    intro heq
    exact hwait (congrArg WorkerPool.waiting heq).symm
  | cons nopollRequest rest =>
    apply h s.startWorker
    refine ⟨.poll, by simp, ?_, ?_⟩
    · have hlt : s.currentWorkerThreadCount < maxWorkerThreadCount := by
        rw [hcount, hrunning]
        decide
      simp [poolStep, PoolOp.exec, hwait, hqueue, hlt]
    · intro heq
      have hstart := running_startWorker s
      rw [heq] at hstart
      omega

theorem AtRest.blocked (h : s.AtRest) (hs : s.Sound) : s.Blocked := by
  refine ⟨h.waiting hs, ?_⟩
  by_contra hne
  have hpos : 0 < s.startDownloadingThread := Nat.pos_of_ne_zero hne
  apply h { s with
    startDownloadingThread := s.startDownloadingThread - 1
    waiting := false }
  refine ⟨.wake, by simp, if_pos ⟨h.waiting hs, hpos⟩, ?_⟩
  intro heq
  have hsem : s.startDownloadingThread - 1 = s.startDownloadingThread :=
    congrArg startDownloadingThread heq
  omega

end AtRest

theorem Sound.queue_eq_nil (h : s.Sound) (hblocked : s.Blocked) (hposting : s.posting = 0) :
    s.RequestQueue = [] := by
  have hposts := h.posts hblocked.1
  rw [hblocked.2, hposting] at hposts
  exact List.eq_nil_of_length_eq_zero (by omega)

end WorkerPool

/-! ## Every interleaving -/

/-- The pool at any moment: the counter of the workers, the requests popped once and in order by
workers that have been started, and the poll thread blocked only on an empty queue. Without
pushes it moves a bounded number of times, and at rest all that has been pushed has been popped. -/
theorem workerPool_no_overrun_no_stranding (hrun : Run poolStep anyStep ({} : WorkerPool ρ) s) :
    s.currentWorkerThreadCount = s.running ∧
    s.currentWorkerThreadCount ≤ maxWorkerThreadCount ∧
    (s.popped.map Prod.snd ++ s.RequestQueue = s.pushed ∧
      ∀ entry ∈ s.popped, entry.1 < s.workers.length) ∧
    (s.Blocked → s.posting = 0 → s.RequestQueue = [] ∨ 0 < s.running) ∧
    (s.AtRest → s.popped.map Prod.snd = s.pushed) ∧
    ∃ bound, ∀ (f : Nat → WorkerPool ρ) (n : Nat), f 0 = s →
      (∀ k < n, (f k).Moves (f (k + 1))) → n ≤ bound := by
  have hs : s.Sound := WorkerPool.Sound.init.of_run hrun
  have hcount := hs.count
  have hlimit := hs.limit
  refine ⟨hcount, by omega, ⟨hs.once, hs.started⟩, ?_, ?_, ?_⟩
  · intro hblocked hposting
    exact Or.inl (hs.queue_eq_nil hblocked hposting)
  · intro hrest
    have hqueue := hs.queue_eq_nil (hrest.blocked hs) hrest.posting_eq_zero
    have honce := hs.once
    rwa [hqueue, List.append_nil] at honce
  · refine ⟨s.movesLeft, ?_⟩
    intro f n hzero hmoves
    have hle := (WorkerPool.movesLeft_add_le hs hzero n hmoves).2
    omega

/-- Two requests, handled by the first of two workers. -/
def poolTwoRequests : List (PoolOp Nat) :=
  [.push 7, .poll, .poll, .push 8, .post, .pop 0, .handled 0, .pop 0, .pop 1, .post]

theorem workerPool_two_requests : ∃ s : WorkerPool Nat,
    s.popped = [(0, 7), (0, 8)] ∧ s.currentWorkerThreadCount = s.running := by
  have hpopped : (poolTwoRequests.foldlM PoolOp.exec {}).map WorkerPool.popped =
      some [(0, 7), (0, 8)] := by decide +kernel
  obtain ⟨s, hfold, hpopped⟩ := Option.map_eq_some_iff.mp hpopped
  exact ⟨s, hpopped, (workerPool_no_overrun_no_stranding (Run.of_exec hfold)).1⟩

end ReactNativeSkia
