-- The ingestion of one Telegram update under any interleaving: webhook and polling
-- deliveries, recovery sweeps, replay requests and update-worker attempts, any query or
-- queue call of which may throw. The processed_updates row of the update and its
-- `update-<id>` job are what the laws are about: one row, at most one job, and a status
-- other than `received` only once a job was added.
import TonAgentBot.Run

namespace ton_agent_bot.ingestion

/-! ## The row and the queue -/

/-- `ProcessedUpdateStatus` of types/contracts. -/
inductive ProcessedUpdateStatus
  | received
  | enqueued
  | processed
  | failed
  deriving DecidableEq, Repr

/-- The columns of a processed_updates row that the modelled code writes. The error text
of a failed attempt is left out. -/
structure ProcessedUpdate where
  status : ProcessedUpdateStatus
  handledAt : Option Nat
  deriving DecidableEq, Repr

/-- The states of a BullMQ job that the worker loop moves it through. -/
inductive JobState
  | waiting
  | active
  | completed
  | failed
  deriving DecidableEq, Repr

/-- A job of the updates queue: its custom id, the correlation id of its data, its state,
and how many of its attempts have failed. -/
structure UpdateJob where
  id : String
  correlationId : String
  state : JobState
  attemptsMade : Nat
  deriving DecidableEq, Repr

/-- `attempts` of `defaultJobOptions`. -/
def JOB_ATTEMPTS : Nat := 5

/-- `markProcessedUpdateStatus`: every row of the update id gets the status, and
`handledAt` is stamped for `processed` and `failed` and cleared otherwise. -/
def markProcessedUpdateStatus (rows : List ProcessedUpdate) (status : ProcessedUpdateStatus)
    (now : Nat) : List ProcessedUpdate :=
  rows.map fun _ => ⟨status,
    if status = .processed ∨ status = .failed then some now else none⟩

/-- The insert of `tryInsertProcessedUpdate`, `ON CONFLICT DO NOTHING` on the update id:
the new rows, and whether a row was inserted. -/
def tryInsertProcessedUpdate (rows : List ProcessedUpdate) : List ProcessedUpdate × Bool :=
  if rows = [] then ([⟨.received, none⟩], true) else (rows, false)

/-- `updatesQueue.add` with a custom job id: a no-op when a job with that id is in the
queue, whatever its state. -/
def queueAdd (jobs : List UpdateJob) (id correlationId : String) : List UpdateJob :=
  if jobs.any (·.id == id) then jobs else jobs ++ [⟨id, correlationId, .waiting, 0⟩]

/-- The end of an attempt of the active job: completed, or failed and back to waiting
until the attempts run out. -/
def attemptEnded (ok : Bool) (j : UpdateJob) : UpdateJob :=
  if j.state ≠ .active then j
  else if ok then { j with state := .completed }
  else if j.attemptsMade + 1 < JOB_ATTEMPTS then
    { j with state := .waiting, attemptsMade := j.attemptsMade + 1 }
  else { j with state := .failed, attemptsMade := j.attemptsMade + 1 }

theorem length_markProcessedUpdateStatus (rows : List ProcessedUpdate)
    (st : ProcessedUpdateStatus) (now : Nat) :
    (markProcessedUpdateStatus rows st now).length = rows.length := List.length_map _ _

theorem length_queueAdd_le (jobs : List UpdateJob) (id c : String)
    (h : ∀ j ∈ jobs, j.id = id) (hl : jobs.length ≤ 1) : (queueAdd jobs id c).length ≤ 1 := by
  unfold queueAdd
  split
  · exact hl
  · rename_i hn
    rcases jobs with _ | ⟨j, _⟩
    · simp
    · simp [h j (by simp)] at hn

/-! ## The processes -/

/-- Where a webhook request stands (webhook.ts): the insert, then `enqueuePersistedUpdate`
after the reply, whose catch marks the row `received` again. -/
inductive WebhookPc
  | insert
  | enqueue
  | markEnqueued
  | markReceived
  | returned
  | threw
  deriving DecidableEq, Repr

/-- Where the polling ingestion middleware stands (bot.ts, lines 446-473). -/
inductive PollingPc
  | insert
  | enqueue
  | markEnqueued
  | returned
  | threw
  deriving DecidableEq, Repr

/-- Where `recoverReceivedUpdates` stands for this update (part_010, lines 455-510). -/
inductive SweepPc
  | list
  | enqueue
  | markEnqueued
  | markReceived
  | returned
  deriving DecidableEq, Repr

/-- Where a `POST /internal/replay-update` for this update stands. -/
inductive ReplayPc
  | read
  | enqueue
  | markEnqueued
  | returned
  | threw
  deriving DecidableEq, Repr

/-- Where an attempt of the update worker stands (createUpdateWorker). `route` is
`routeUpdate`, `enqueueAgentTurn` and `answerCallbackQuery`, which touch neither the row
nor the updates queue. -/
inductive WorkerPc
  | read
  | route
  | markProcessed
  | markFailed
  | deadLetter
  | returned
  | threw
  deriving DecidableEq, Repr

inductive Proc
  | idle
  | webhook (pc : WebhookPc)
  | polling (pc : PollingPc)
  | sweep (pc : SweepPc)
  | replay (pc : ReplayPc)
  | worker (pc : WorkerPc)
  deriving DecidableEq, Repr

structure Sys where
  now : Nat
  rows : List ProcessedUpdate
  jobs : List UpdateJob
  /-- The ids of the jobs the queue has accepted, oldest first: a ghost that no code
  reads, kept by `Sys.enqueue`. -/
  added : List String
  /-- `receivedUpdateRecoveryInFlight` -/
  sweepInFlight : Bool
  procs : Nat → Proc

def Sys.init : Sys := ⟨0, [], [], [], false, fun _ => .idle⟩

def Sys.setProc (s : Sys) (p : Nat) (x : Proc) : Sys :=
  { s with procs := fun q => if q = p then x else s.procs q }

@[simp] theorem Sys.setProc_now (s : Sys) (p : Nat) (x : Proc) : (s.setProc p x).now = s.now := rfl
@[simp] theorem Sys.setProc_rows (s : Sys) (p : Nat) (x : Proc) : (s.setProc p x).rows = s.rows := rfl
@[simp] theorem Sys.setProc_jobs (s : Sys) (p : Nat) (x : Proc) : (s.setProc p x).jobs = s.jobs := rfl
@[simp] theorem Sys.setProc_added (s : Sys) (p : Nat) (x : Proc) :
    (s.setProc p x).added = s.added := rfl
@[simp] theorem Sys.setProc_sweepInFlight (s : Sys) (p : Nat) (x : Proc) :
    (s.setProc p x).sweepInFlight = s.sweepInFlight := rfl
@[simp] theorem Sys.setProc_procs (s : Sys) (p q : Nat) (x : Proc) :
    (s.setProc p x).procs q = if q = p then x else s.procs q := rfl

/-! ## One statement of each function

A statement's two outcomes: the state and where the call goes on when the statement
returns, and when it throws. -/

section
variable (u : Nat)

/-- The custom job id `update-<updateId>` of `enqueueUpdate`. -/
def updateJobId : String := "update-" ++ toString u

def Sys.mark (s : Sys) (status : ProcessedUpdateStatus) : Sys :=
  { s with rows := markProcessedUpdateStatus s.rows status s.now }

def Sys.enqueue (s : Sys) (correlationId : String) : Sys :=
  { s with
    jobs := queueAdd s.jobs (updateJobId u) correlationId
    added := if s.jobs.any (·.id == updateJobId u) then s.added else s.added ++ [updateJobId u] }

def Sys.endSweep (s : Sys) : Sys := { s with sweepInFlight := false }

def Sys.endAttempt (s : Sys) (ok : Bool) : Sys := { s with jobs := s.jobs.map (attemptEnded ok) }

def Sys.insert (s : Sys) : Sys := { s with rows := (tryInsertProcessedUpdate s.rows).1 }

/-- webhook.ts, lines 9-33 and 61-72. -/
def webhookNext (s : Sys) : WebhookPc → Option ((Sys × WebhookPc) × (Sys × WebhookPc))
  | .insert =>
    some ((s.insert, if (tryInsertProcessedUpdate s.rows).2 then .enqueue else .returned),
      (s, .threw))
  | .enqueue => some ((s.enqueue u ("update-" ++ toString u), .markEnqueued), (s, .markReceived))
  | .markEnqueued => some ((s.mark .enqueued, .returned), (s, .markReceived))
  | .markReceived => some ((s.mark .received, .returned), (s, .returned))
  | .returned => none
  | .threw => none

/-- bot.ts, lines 446-473. -/
def pollingNext (s : Sys) : PollingPc → Option ((Sys × PollingPc) × (Sys × PollingPc))
  | .insert =>
    some ((s.insert, if (tryInsertProcessedUpdate s.rows).2 then .enqueue else .returned),
      (s, .threw))
  | .enqueue => some ((s.enqueue u ("update-" ++ toString u), .markEnqueued), (s, .threw))
  | .markEnqueued => some ((s.mark .enqueued, .returned), (s, .threw))
  | .returned => none
  | .threw => none

/-- part_010, lines 455-510. The listing fails, or leaves this update out of its batch
of 200, on a throw. -/
def sweepNext (s : Sys) : SweepPc → Option ((Sys × SweepPc) × (Sys × SweepPc))
  | .list =>
    some (if s.rows.any (·.status == .received) then (s, .enqueue) else (s.endSweep, .returned),
      (s.endSweep, .returned))
  | .enqueue =>
    some ((s.enqueue u ("recover-" ++ toString u ++ "-" ++ toString s.now), .markEnqueued),
      (s, .markReceived))
  | .markEnqueued => some (((s.mark .enqueued).endSweep, .returned), (s, .markReceived))
  | .markReceived => some (((s.mark .received).endSweep, .returned), (s.endSweep, .returned))
  | .returned => none

/-- part_010, lines 377-409. -/
def replayNext (s : Sys) : ReplayPc → Option ((Sys × ReplayPc) × (Sys × ReplayPc))
  | .read => some ((s, if s.rows = [] then .returned else .enqueue), (s, .threw))
  | .enqueue =>
    some ((s.enqueue u ("replay-" ++ toString u ++ "-" ++ toString s.now), .markEnqueued),
      (s, .threw))
  | .markEnqueued => some ((s.mark .enqueued, .returned), (s, .threw))
  | .returned => none
  | .threw => none

/-- dead-letter-worker.ts, lines 29-68: the read outside the `try`, the route, the marks,
and the dead-letter entry before the rethrow. An attempt that ends hands the job back to
the queue. -/
def workerNext (s : Sys) : WorkerPc → Option ((Sys × WorkerPc) × (Sys × WorkerPc))
  | .read =>
    some (if s.rows = [] then (s.endAttempt true, .returned) else (s, .route),
      (s.endAttempt false, .threw))
  | .route => some ((s, .markProcessed), (s, .markFailed))
  | .markProcessed => some (((s.mark .processed).endAttempt true, .returned), (s, .markFailed))
  | .markFailed => some ((s.mark .failed, .deadLetter), (s.endAttempt false, .threw))
  | .deadLetter => some ((s.endAttempt false, .threw), (s.endAttempt false, .threw))
  | .returned => none
  | .threw => none

def advanceProc {π : Type} (p : Nat) (wrap : π → Proc) (next : Option ((Sys × π) × (Sys × π)))
    (ok : Bool) : Option Sys :=
  next.map fun o => if ok then o.1.1.setProc p (wrap o.1.2) else o.2.1.setProc p (wrap o.2.2)

/-! ## The system -/

inductive Action
  | webhook (p : Nat)
  | polling (p : Nat)
  | sweep (p : Nat)
  | replay (p : Nat)
  | work (p : Nat)
  | advance (p : Nat) (ok : Bool)
  | evict
  | tick (ms : Nat)
  deriving DecidableEq, Repr

/-- One step: a delivery, a sweep tick (which returns at once while one is in flight), a
replay request, a worker taking the waiting job, one statement of a running process,
the queue dropping a finished job (`removeOnComplete`, `removeOnFail`), or time passing. -/
def step (s : Sys) : Action → Option Sys
  | .webhook p => if s.procs p = .idle then some (s.setProc p (.webhook .insert)) else none
  | .polling p => if s.procs p = .idle then some (s.setProc p (.polling .insert)) else none
  | .sweep p =>
    if s.procs p = .idle then
      some (if s.sweepInFlight then s.setProc p (.sweep .returned)
        else { s.setProc p (.sweep .list) with sweepInFlight := true })
    else none
  | .replay p => if s.procs p = .idle then some (s.setProc p (.replay .read)) else none
  | .work p =>
    if s.procs p = .idle ∧ s.jobs.any (·.state == .waiting) then
      some { s.setProc p (.worker .read) with
        jobs := s.jobs.map fun j => if j.state = .waiting then { j with state := .active } else j }
    else none
  | .advance p ok =>
    match s.procs p with
    | .idle => none
    | .webhook pc => advanceProc p .webhook (webhookNext u s pc) ok
    | .polling pc => advanceProc p .polling (pollingNext u s pc) ok
    | .sweep pc => advanceProc p .sweep (sweepNext u s pc) ok
    | .replay pc => advanceProc p .replay (replayNext u s pc) ok
    | .worker pc => advanceProc p .worker (workerNext s pc) ok
  | .evict =>
    if s.jobs.any (fun j => j.state == .completed || j.state == .failed) then
      some { s with jobs := s.jobs.filter fun j => j.state == .waiting || j.state == .active }
    else none
  | .tick ms => some { s with now := s.now + ms }

end

def statusOf (s : Sys) : Option ProcessedUpdateStatus := s.rows.head?.map (·.status)

/-! ## One row, one job

A process that has seen `enqueueUpdate` return, or a worker attempt on a job taken from
the queue, is the only one whose next write can be a status other than `received`. -/

def Proc.pastEnqueue : Proc → Bool
  | .webhook .markEnqueued | .polling .markEnqueued | .sweep .markEnqueued
  | .replay .markEnqueued => true
  | .worker .read | .worker .route | .worker .markProcessed | .worker .markFailed
  | .worker .deadLetter => true
  | _ => false

section
variable (u : Nat)

/-- The row and the queue of the update: at most one row, the queue's jobs all named
`update-<id>` and at most one of them, and no status but `received` before a job was added. -/
structure Data (s : Sys) : Prop where
  rows_le : s.rows.length ≤ 1
  jobs_id : ∀ j ∈ s.jobs, j.id = updateJobId u
  jobs_le : s.jobs.length ≤ 1
  jobs_added : s.jobs ≠ [] → updateJobId u ∈ s.added
  status_added : ∀ r ∈ s.rows, r.status ≠ .received → updateJobId u ∈ s.added

def Inv (s : Sys) : Prop :=
  Data u s ∧ ∀ p, (s.procs p).pastEnqueue = true → updateJobId u ∈ s.added

/-- `t` is a state one statement after `s`, with the process now at `x`. -/
def Good (s t : Sys) (x : Proc) : Prop :=
  Data u t ∧ (x.pastEnqueue = true → updateJobId u ∈ t.added) ∧
    (updateJobId u ∈ s.added → updateJobId u ∈ t.added) ∧ t.procs = s.procs

variable {u}

theorem Data.setProc {s : Sys} (h : Data u s) (p : Nat) (x : Proc) : Data u (s.setProc p x) :=
  ⟨h.rows_le, h.jobs_id, h.jobs_le, h.jobs_added, h.status_added⟩

theorem Data.mark {s : Sys} (h : Data u s) {st : ProcessedUpdateStatus}
    (hs : st ≠ .received → updateJobId u ∈ s.added) : Data u (s.mark st) :=
  ⟨by simpa [Sys.mark, length_markProcessedUpdateStatus] using h.rows_le, h.jobs_id, h.jobs_le,
    h.jobs_added, by simpa [Sys.mark, markProcessedUpdateStatus] using fun _ => hs⟩

theorem added_enqueue_mono {s : Sys} {c x : String} (h : x ∈ s.added) :
    x ∈ (s.enqueue u c).added := by
  simp only [Sys.enqueue]; split
  · exact h
  · exact List.mem_append_left _ h

theorem Data.mem_enqueue {s : Sys} (h : Data u s) (c : String) :
    updateJobId u ∈ (s.enqueue u c).added := by
  simp only [Sys.enqueue]; split
  · rename_i hj
    exact h.jobs_added fun he => by simp [he] at hj
  · exact List.mem_append_right _ (List.mem_singleton_self _)

theorem Data.enqueue {s : Sys} (h : Data u s) (c : String) : Data u (s.enqueue u c) := by
  refine ⟨h.rows_le, fun j hj => ?_, length_queueAdd_le _ _ _ h.jobs_id h.jobs_le,
    fun _ => h.mem_enqueue c, fun _ _ _ => h.mem_enqueue c⟩
  simp only [Sys.enqueue, queueAdd] at hj
  split at hj
  · exact h.jobs_id j hj
  · rcases List.mem_append.mp hj with hj | hj
    · exact h.jobs_id j hj
    · simp only [List.mem_singleton] at hj; subst hj; rfl

theorem Data.endSweep {s : Sys} (h : Data u s) : Data u s.endSweep :=
  ⟨h.rows_le, h.jobs_id, h.jobs_le, h.jobs_added, h.status_added⟩

theorem Data.endAttempt {s : Sys} (h : Data u s) (ok : Bool) : Data u (s.endAttempt ok) := by
  refine ⟨h.rows_le, fun j hj => ?_, by simpa [Sys.endAttempt] using h.jobs_le,
    fun hn => h.jobs_added (by simpa [Sys.endAttempt] using hn), h.status_added⟩
  obtain ⟨j0, hj0, rfl⟩ := List.mem_map.mp hj
  unfold attemptEnded; split_ifs <;> exact h.jobs_id j0 hj0

theorem Data.insert {s : Sys} (h : Data u s) : Data u s.insert := by
  refine ⟨?_, h.jobs_id, h.jobs_le, h.jobs_added, fun r hr hne => ?_⟩
  · simp only [Sys.insert, tryInsertProcessedUpdate]; split
    · rfl
    · exact h.rows_le
  · simp only [Sys.insert, tryInsertProcessedUpdate] at hr; split at hr
    · simp only [List.mem_singleton] at hr; subst hr; exact absurd rfl hne
    · exact h.status_added r hr hne

theorem Data.activate {s : Sys} (h : Data u s) :
    Data u { s with jobs := s.jobs.map fun j =>
      if j.state = .waiting then { j with state := .active } else j } := by
  refine ⟨h.rows_le, fun j hj => ?_, by simpa using h.jobs_le,
    fun hn => h.jobs_added (by simpa using hn), h.status_added⟩
  obtain ⟨j0, hj0, rfl⟩ := List.mem_map.mp hj
  split_ifs <;> exact h.jobs_id j0 hj0

theorem Data.evict {s : Sys} (h : Data u s) (keep : UpdateJob → Bool) :
    Data u { s with jobs := s.jobs.filter keep } :=
  ⟨h.rows_le, fun j hj => h.jobs_id j (List.mem_of_mem_filter hj),
    (List.length_filter_le _ _).trans h.jobs_le,
    fun hn => h.jobs_added fun he => by simp [he] at hn, h.status_added⟩

theorem Good.inv {s t : Sys} {x : Proc} (hi : Inv u s) (hg : Good u s t x) (p : Nat) :
    Inv u (t.setProc p x) := by
  obtain ⟨hd, hx, hmono, hprocs⟩ := hg
  refine ⟨hd.setProc p x, fun q hq => ?_⟩
  simp only [Sys.setProc_procs, Sys.setProc_added] at hq ⊢
  split at hq
  · exact hx hq
  · exact hmono (hi.2 q (hprocs ▸ hq))

theorem advanceProc_inv {π : Type} {s s' : Sys} {p : Nat} {wrap : π → Proc}
    {next : Option ((Sys × π) × (Sys × π))} {ok : Bool} (hi : Inv u s)
    (hg : ∀ o, next = some o → Good u s o.1.1 (wrap o.1.2) ∧ Good u s o.2.1 (wrap o.2.2))
    (h : advanceProc p wrap next ok = some s') : Inv u s' := by
  obtain ⟨o, ho, rfl⟩ := Option.map_eq_some'.mp h
  cases ok
  · exact (hg o ho).2.inv hi p
  · exact (hg o ho).1.inv hi p

theorem Good.refl {s : Sys} (h : Data u s) {x : Proc} (hx : x.pastEnqueue = false) :
    Good u s s x := ⟨h, by simp [hx], id, rfl⟩

theorem webhookNext_good {s : Sys} {pc : WebhookPc} (hi : Inv u s) (hp : s.procs p = .webhook pc)
    {o : (Sys × WebhookPc) × (Sys × WebhookPc)} (h : webhookNext u s pc = some o) :
    Good u s o.1.1 (.webhook o.1.2) ∧ Good u s o.2.1 (.webhook o.2.2) := by
  have hx := hi.2 p
  rw [hp] at hx
  cases pc <;> simp only [webhookNext, Option.some.injEq, reduceCtorEq] at h <;> subst h
  · exact ⟨⟨hi.1.insert, by split <;> simp [Proc.pastEnqueue], id, rfl⟩, .refl hi.1 rfl⟩
  · exact ⟨⟨hi.1.enqueue _, fun _ => hi.1.mem_enqueue _, added_enqueue_mono, rfl⟩, .refl hi.1 rfl⟩
  · exact ⟨.refl (hi.1.mark fun _ => hx rfl) rfl, .refl hi.1 rfl⟩
  · exact ⟨.refl (hi.1.mark fun h => absurd rfl h) rfl, .refl hi.1 rfl⟩

theorem pollingNext_good {s : Sys} {pc : PollingPc} (hi : Inv u s) (hp : s.procs p = .polling pc)
    {o : (Sys × PollingPc) × (Sys × PollingPc)} (h : pollingNext u s pc = some o) :
    Good u s o.1.1 (.polling o.1.2) ∧ Good u s o.2.1 (.polling o.2.2) := by
  have hx := hi.2 p
  rw [hp] at hx
  cases pc <;> simp only [pollingNext, Option.some.injEq, reduceCtorEq] at h <;> subst h
  · exact ⟨⟨hi.1.insert, by split <;> simp [Proc.pastEnqueue], id, rfl⟩, .refl hi.1 rfl⟩
  · exact ⟨⟨hi.1.enqueue _, fun _ => hi.1.mem_enqueue _, added_enqueue_mono, rfl⟩, .refl hi.1 rfl⟩
  · exact ⟨.refl (hi.1.mark fun _ => hx rfl) rfl, .refl hi.1 rfl⟩

theorem sweepNext_good {s : Sys} {pc : SweepPc} (hi : Inv u s) (hp : s.procs p = .sweep pc)
    {o : (Sys × SweepPc) × (Sys × SweepPc)} (h : sweepNext u s pc = some o) :
    Good u s o.1.1 (.sweep o.1.2) ∧ Good u s o.2.1 (.sweep o.2.2) := by
  have hx := hi.2 p
  rw [hp] at hx
  cases pc <;> simp only [sweepNext, Option.some.injEq, reduceCtorEq] at h <;> subst h
  · refine ⟨?_, .refl hi.1.endSweep rfl⟩
    split
    · exact .refl hi.1 rfl
    · exact .refl hi.1.endSweep rfl
  · exact ⟨⟨hi.1.enqueue _, fun _ => hi.1.mem_enqueue _, added_enqueue_mono, rfl⟩, .refl hi.1 rfl⟩
  · exact ⟨.refl (hi.1.mark fun _ => hx rfl).endSweep rfl, .refl hi.1 rfl⟩
  · exact ⟨.refl (hi.1.mark fun h => absurd rfl h).endSweep rfl, .refl hi.1.endSweep rfl⟩

theorem replayNext_good {s : Sys} {pc : ReplayPc} (hi : Inv u s) (hp : s.procs p = .replay pc)
    {o : (Sys × ReplayPc) × (Sys × ReplayPc)} (h : replayNext u s pc = some o) :
    Good u s o.1.1 (.replay o.1.2) ∧ Good u s o.2.1 (.replay o.2.2) := by
  have hx := hi.2 p
  rw [hp] at hx
  cases pc <;> simp only [replayNext, Option.some.injEq, reduceCtorEq] at h <;> subst h
  · exact ⟨.refl hi.1 (by split <;> rfl), .refl hi.1 rfl⟩
  · exact ⟨⟨hi.1.enqueue _, fun _ => hi.1.mem_enqueue _, added_enqueue_mono, rfl⟩, .refl hi.1 rfl⟩
  · exact ⟨.refl (hi.1.mark fun _ => hx rfl) rfl, .refl hi.1 rfl⟩

theorem workerNext_good {s : Sys} {pc : WorkerPc} (hi : Inv u s) (hp : s.procs p = .worker pc)
    {o : (Sys × WorkerPc) × (Sys × WorkerPc)} (h : workerNext s pc = some o) :
    Good u s o.1.1 (.worker o.1.2) ∧ Good u s o.2.1 (.worker o.2.2) := by
  have hx := hi.2 p
  rw [hp] at hx
  have hadded : updateJobId u ∈ s.added := by
    cases pc <;> first | exact hx rfl | simp [workerNext] at h
  have hg : ∀ {t : Sys} {x : WorkerPc}, Data u t → t.added = s.added →
      t.procs = s.procs → Good u s t (.worker x) := fun hd he hp =>
    ⟨hd, fun _ => he ▸ hadded, fun h => he ▸ h, hp⟩
  cases pc <;> simp only [workerNext, Option.some.injEq, reduceCtorEq] at h <;> subst h
  · refine ⟨?_, hg (hi.1.endAttempt false) rfl rfl⟩
    split
    · exact hg (hi.1.endAttempt true) rfl rfl
    · exact hg hi.1 rfl rfl
  · exact ⟨hg hi.1 rfl rfl, hg hi.1 rfl rfl⟩
  · exact ⟨hg ((hi.1.mark fun _ => hadded).endAttempt true) rfl rfl, hg hi.1 rfl rfl⟩
  · exact ⟨hg (hi.1.mark fun _ => hadded) rfl rfl, hg (hi.1.endAttempt false) rfl rfl⟩
  · exact ⟨hg (hi.1.endAttempt false) rfl rfl, hg (hi.1.endAttempt false) rfl rfl⟩

theorem inv_step {s s' : Sys} {a : Action} (hi : Inv u s) (h : step u s a = some s') :
    Inv u s' := by
  cases a with
  | advance p ok =>
    simp only [step] at h
    split at h
    · cases h
    · exact advanceProc_inv hi (fun o ho => webhookNext_good hi (by assumption) ho) h
    · exact advanceProc_inv hi (fun o ho => pollingNext_good hi (by assumption) ho) h
    · exact advanceProc_inv hi (fun o ho => sweepNext_good hi (by assumption) ho) h
    · exact advanceProc_inv hi (fun o ho => replayNext_good hi (by assumption) ho) h
    · exact advanceProc_inv hi (fun o ho => workerNext_good hi (by assumption) ho) h
  | work p =>
    simp only [step] at h
    split at h
    · rename_i hw
      cases h
      have hne : s.jobs ≠ [] := fun he => by simp [he] at hw
      have hg : Good u s _ (.worker .read) := ⟨hi.1.activate, fun _ => hi.1.jobs_added hne, id, rfl⟩
      exact hg.inv hi p
    · cases h
  | evict =>
    simp only [step] at h
    split at h
    · cases h; exact ⟨hi.1.evict _, hi.2⟩
    · cases h
  | tick ms => cases h; exact ⟨⟨hi.1.1, hi.1.2, hi.1.3, hi.1.4, hi.1.5⟩, hi.2⟩
  | sweep p =>
    simp only [step] at h
    split at h
    · cases h
      split
      · exact (Good.refl hi.1 (x := .sweep .returned) rfl).inv hi p
      · exact (Good.refl (s := { s with sweepInFlight := true })
          ⟨hi.1.1, hi.1.2, hi.1.3, hi.1.4, hi.1.5⟩ (x := .sweep .list) rfl).inv hi p
    · cases h
  | webhook p | polling p | replay p =>
    simp only [step] at h
    split at h
    · cases h; exact (Good.refl hi.1 (by rfl)).inv hi p
    · cases h

theorem inv_reachable {s : Sys} (h : Reachable Sys.init (step u) s) : Inv u s :=
  h.invariant _ ⟨⟨by simp [Sys.init], by simp [Sys.init], by simp [Sys.init],
    by simp [Sys.init], by simp [Sys.init]⟩, fun _ h => by simp [Sys.init, Proc.pastEnqueue] at h⟩
    fun _ _ _ hi hs => inv_step hi hs

end

/-! ## The writes of the status -/

def Proc.writes : Proc → Option ProcessedUpdateStatus
  | .webhook .markEnqueued | .polling .markEnqueued | .sweep .markEnqueued
  | .replay .markEnqueued => some .enqueued
  | .webhook .markReceived | .sweep .markReceived => some .received
  | .worker .markProcessed => some .processed
  | .worker .markFailed => some .failed
  | _ => none

def Proc.rowsAfter (x : Proc) (rows : List ProcessedUpdate) (now : Nat) :
    List ProcessedUpdate :=
  match x with
  | .webhook .insert | .polling .insert => (tryInsertProcessedUpdate rows).1
  | x => match x.writes with
    | some st => markProcessedUpdateStatus rows st now
    | none => rows

section
variable {u : Nat}

/-- A statement leaves the rows alone when it throws, and writes `rowsAfter` when it
returns. -/
def RowsOf (s : Sys) (x : Proc) (o : (Sys × π) × (Sys × π)) : Prop :=
  o.1.1.rows = x.rowsAfter s.rows s.now ∧ o.2.1.rows = s.rows

theorem webhookNext_rows {s : Sys} {pc : WebhookPc} {o : (Sys × WebhookPc) × (Sys × WebhookPc)}
    (h : webhookNext u s pc = some o) : RowsOf s (.webhook pc) o := by
  cases pc <;> simp only [webhookNext, Option.some.injEq, reduceCtorEq] at h <;> subst h <;>
    exact ⟨rfl, rfl⟩

theorem pollingNext_rows {s : Sys} {pc : PollingPc} {o : (Sys × PollingPc) × (Sys × PollingPc)}
    (h : pollingNext u s pc = some o) : RowsOf s (.polling pc) o := by
  cases pc <;> simp only [pollingNext, Option.some.injEq, reduceCtorEq] at h <;> subst h <;>
    exact ⟨rfl, rfl⟩

theorem sweepNext_rows {s : Sys} {pc : SweepPc} {o : (Sys × SweepPc) × (Sys × SweepPc)}
    (h : sweepNext u s pc = some o) : RowsOf s (.sweep pc) o := by
  cases pc <;> simp only [sweepNext, Option.some.injEq, reduceCtorEq] at h <;> subst h <;>
    first | exact ⟨by split <;> rfl, rfl⟩ | exact ⟨rfl, rfl⟩

theorem replayNext_rows {s : Sys} {pc : ReplayPc} {o : (Sys × ReplayPc) × (Sys × ReplayPc)}
    (h : replayNext u s pc = some o) : RowsOf s (.replay pc) o := by
  cases pc <;> simp only [replayNext, Option.some.injEq, reduceCtorEq] at h <;> subst h <;>
    exact ⟨rfl, rfl⟩

theorem workerNext_rows {s : Sys} {pc : WorkerPc} {o : (Sys × WorkerPc) × (Sys × WorkerPc)}
    (h : workerNext s pc = some o) : RowsOf s (.worker pc) o := by
  cases pc <;> simp only [workerNext, Option.some.injEq, reduceCtorEq] at h <;> subst h <;>
    first | exact ⟨by split <;> rfl, rfl⟩ | exact ⟨rfl, rfl⟩

theorem advanceProc_rows {π : Type} {s s' : Sys} {p : Nat} {wrap : π → Proc}
    {next : Option ((Sys × π) × (Sys × π))} {ok : Bool} {x : Proc}
    (hr : ∀ o, next = some o → RowsOf s x o) (h : advanceProc p wrap next ok = some s') :
    s'.rows = s.rows ∨ ok = true ∧ s'.rows = x.rowsAfter s.rows s.now := by
  obtain ⟨o, ho, rfl⟩ := Option.map_eq_some'.mp h
  cases ok
  · exact .inl (hr o ho).2
  · exact .inr ⟨rfl, (hr o ho).1⟩

theorem step_rows {s s' : Sys} {a : Action} (h : step u s a = some s') :
    s'.rows = s.rows ∨ ∃ p, a = .advance p true ∧ s'.rows = (s.procs p).rowsAfter s.rows s.now := by
  cases a with
  | advance p ok =>
    simp only [step] at h
    split at h
    · cases h
    all_goals
      rename_i hp
      first
        | have := advanceProc_rows (fun o ho => webhookNext_rows ho) h
        | have := advanceProc_rows (fun o ho => pollingNext_rows ho) h
        | have := advanceProc_rows (fun o ho => sweepNext_rows ho) h
        | have := advanceProc_rows (fun o ho => replayNext_rows ho) h
        | have := advanceProc_rows (fun o ho => workerNext_rows ho) h
      rcases this with he | ⟨rfl, he⟩
      · exact .inl he
      · exact .inr ⟨p, rfl, hp ▸ he⟩
  | _ =>
    simp only [step] at h
    repeat' split at h
    all_goals cases h
    all_goals exact .inl rfl

theorem rowsAfter_ne {rows : List ProcessedUpdate} (x : Proc) (now : Nat) (h : rows ≠ []) :
    x.rowsAfter rows now ≠ [] := by
  unfold Proc.rowsAfter
  split
  · simp [tryInsertProcessedUpdate, h]
  · simp [tryInsertProcessedUpdate, h]
  · split <;> simpa [markProcessedUpdateStatus] using h

theorem rows_ne_step {s s' : Sys} {a : Action} (h : step u s a = some s') (hr : s.rows ≠ []) :
    s'.rows ≠ [] := by
  rcases step_rows h with he | ⟨p, -, he⟩ <;> rw [he]
  · exact hr
  · exact rowsAfter_ne _ _ hr

variable (u)

def deliver : List Action := [.webhook 0, .advance 0 true]

def recover : List Action :=
  [.advance 0 false, .advance 0 true, .sweep 1, .advance 1 true, .advance 1 true,
    .advance 1 true]

def delivered : Sys := (run (step 42) Sys.init deliver).getD Sys.init

def recovered : Sys := (run (step 42) delivered recover).getD delivered

theorem statusOf_rowsAfter {s : Sys} {x : Proc} {st : ProcessedUpdateStatus}
    (hw : x.writes = some st) (hr : s.rows ≠ []) :
    (x.rowsAfter s.rows s.now).head?.map (·.status) = some st := by
  have hm : x.rowsAfter s.rows s.now = markProcessedUpdateStatus s.rows st s.now := by
    unfold Proc.rowsAfter; split <;> simp_all [Proc.writes]
  rw [hm]
  rcases hs : s.rows with _ | ⟨r, rs⟩
  · exact absurd hs hr
  · simp [markProcessedUpdateStatus]

theorem status_of_insert {s s' : Sys} (he : s'.rows = (tryInsertProcessedUpdate s.rows).1)
    (hne : statusOf s' ≠ statusOf s) : statusOf s = none ∧ statusOf s' = some .received := by
  rcases hr : s.rows with _ | ⟨r, rs⟩ <;> simp_all [statusOf, tryInsertProcessedUpdate]

theorem status_of_mark {s s' : Sys} {st : ProcessedUpdateStatus} {now : Nat}
    (he : s'.rows = markProcessedUpdateStatus s.rows st now) (hne : statusOf s' ≠ statusOf s) :
    statusOf s' = some st := by
  rcases hr : s.rows with _ | ⟨r, rs⟩ <;> simp_all [statusOf, markProcessedUpdateStatus]

theorem status_change_is_write {s s' : Sys} {a : Action} (h : step u s a = some s')
    (hne : statusOf s' ≠ statusOf s) :
    ∃ p, a = .advance p true ∧
      ((s.procs p = .webhook .insert ∨ s.procs p = .polling .insert) ∧ statusOf s = none ∧
          statusOf s' = some .received ∨
        (s.procs p).writes = statusOf s') := by
  rcases step_rows h with he | ⟨p, rfl, he⟩
  · exact absurd (by simp [statusOf, he]) hne
  refine ⟨p, rfl, ?_⟩
  unfold Proc.rowsAfter at he
  split at he
  · exact .inl ⟨.inl ‹_›, status_of_insert he hne⟩
  · exact .inl ⟨.inr ‹_›, status_of_insert he hne⟩
  · split at he
    · rename_i hw
      exact .inr (hw.trans (status_of_mark he hne).symm)
    · exact absurd (by simp [statusOf, he]) hne

theorem advanceProc_writes {π : Type} {s : Sys} {p : Nat} {st : ProcessedUpdateStatus}
    (hw : (s.procs p).writes = some st) (hr : s.rows ≠ []) (wrap : π → Proc)
    {next : Option ((Sys × π) × (Sys × π))} (hs : next.isSome)
    (hrows : ∀ o, next = some o → RowsOf s (s.procs p) o) :
    ∃ s', advanceProc p wrap next true = some s' ∧ statusOf s' = some st := by
  obtain ⟨o, ho⟩ := Option.isSome_iff_exists.mp hs
  refine ⟨o.1.1.setProc p (wrap o.1.2), by simp [advanceProc, ho], ?_⟩
  simp only [statusOf, Sys.setProc_rows, (hrows o ho).1, statusOf_rowsAfter hw hr]

theorem write_lands {s : Sys} {p : Nat} {st : ProcessedUpdateStatus}
    (hw : (s.procs p).writes = some st) (hr : s.rows ≠ []) :
    ∃ s', step u s (.advance p true) = some s' ∧ statusOf s' = some st := by
  rcases hp : s.procs p with _ | pc | pc | pc | pc | pc <;> rw [hp] at hw <;>
    simp only [step, hp]
  · simp [Proc.writes] at hw
  · exact advanceProc_writes (hp ▸ hw) hr _
      (by cases pc <;> first | rfl | simp [Proc.writes] at hw) fun o ho => hp ▸ webhookNext_rows ho
  · exact advanceProc_writes (hp ▸ hw) hr _
      (by cases pc <;> first | rfl | simp [Proc.writes] at hw) fun o ho => hp ▸ pollingNext_rows ho
  · exact advanceProc_writes (hp ▸ hw) hr _
      (by cases pc <;> first | rfl | simp [Proc.writes] at hw) fun o ho => hp ▸ sweepNext_rows ho
  · exact advanceProc_writes (hp ▸ hw) hr _
      (by cases pc <;> first | rfl | simp [Proc.writes] at hw) fun o ho => hp ▸ replayNext_rows ho
  · exact advanceProc_writes (hp ▸ hw) hr _
      (by cases pc <;> first | rfl | simp [Proc.writes] at hw) fun o ho => hp ▸ workerNext_rows ho

/-- markProcessedUpdateStatus writes whatever the status is. Each change of the status is
the write of the next statement of one process as it returns: a delivery's insert, which
writes `received` where there was no row, or the statement's own status (`Proc.writes`);
and each such statement, on a row of any status, leaves its status there. -/
theorem status_changes_are_unguarded_writes (s : Sys) :
    (∀ a s', step u s a = some s' → statusOf s' ≠ statusOf s →
      ∃ p, a = .advance p true ∧
        ((s.procs p = .webhook .insert ∨ s.procs p = .polling .insert) ∧ statusOf s = none ∧
            statusOf s' = some .received ∨
          (s.procs p).writes = statusOf s')) ∧
    (∀ p st, (s.procs p).writes = some st → s.rows ≠ [] →
      ∃ s', step u s (.advance p true) = some s' ∧ statusOf s' = some st) :=
  ⟨fun _ _ h hne => status_change_is_write u h hne, fun _ _ hw hr => write_lands u hw hr⟩

/-- The status moves back: the webhook's `enqueued` lands after the worker's `processed`,
and a queue retry writes `processed` over the `failed` of the attempt before it. -/
theorem processed_update_status_moves_back :
    (∃ s t, Reachable Sys.init (step 42) s ∧ Reaches (step 42) s t ∧
      statusOf s = some .processed ∧ statusOf t = some .enqueued) ∧
    (∃ s t, Reachable Sys.init (step 42) s ∧ Reaches (step 42) s t ∧
      statusOf s = some .failed ∧ statusOf t = some .processed) := by
  constructor
  · obtain ⟨s, t, hs, ht, hp, hq⟩ := exists_reaches_of_runs Sys.init (step 42)
      (p := fun s => decide (statusOf s = some .processed))
      (q := fun t => decide (statusOf t = some .enqueued))
      [.webhook 0, .advance 0 true, .advance 0 true, .work 1, .advance 1 true,
        .advance 1 true, .advance 1 true] [.advance 0 true] (by decide)
    exact ⟨s, t, hs, ht, of_decide_eq_true hp, of_decide_eq_true hq⟩
  · obtain ⟨s, t, hs, ht, hp, hq⟩ := exists_reaches_of_runs Sys.init (step 42)
      (p := fun s => decide (statusOf s = some .failed))
      (q := fun t => decide (statusOf t = some .processed))
      [.webhook 0, .advance 0 true, .advance 0 true, .advance 0 true, .work 1, .advance 1 true,
        .advance 1 false, .advance 1 true]
      [.advance 1 true, .work 2, .advance 2 true, .advance 2 true, .advance 2 true] (by decide)
    exact ⟨s, t, hs, ht, of_decide_eq_true hp, of_decide_eq_true hq⟩

end

/-! ## A worker attempt, statement by statement

The runs of one worker attempt from its read to its end: a throw at the read, no row, a
row marked processed, a row marked failed. Another ending (a mark that throws, routing
that throws) lands in one of these states too. -/

def Sys.attemptDone (t : Sys) (p : Nat) (ok : Bool) (rows : List ProcessedUpdate) : Sys :=
  { (t.endAttempt ok).setProc p (.worker (if ok then .returned else .threw)) with rows := rows }

theorem Sys.setProc_setProc (s : Sys) (p : Nat) (x y : Proc) :
    (s.setProc p x).setProc p y = s.setProc p y := by
  simp only [Sys.setProc]
  congr 1
  funext q
  split_ifs <;> rfl

@[simp] theorem Sys.mark_setProc (s : Sys) (p : Nat) (x : Proc) (st : ProcessedUpdateStatus) :
    (s.setProc p x).mark st = (s.mark st).setProc p x := rfl

@[simp] theorem Sys.endAttempt_setProc (s : Sys) (p : Nat) (x : Proc) (ok : Bool) :
    (s.setProc p x).endAttempt ok = (s.endAttempt ok).setProc p x := rfl

section
variable (u : Nat) {t : Sys} {p : Nat}

theorem run_attempt_threw (hp : t.procs p = .worker .read) :
    run (step u) t [.advance p false] = some (t.attemptDone p false t.rows) := by
  simp [run, step, hp, workerNext, advanceProc]
  rfl

theorem run_attempt_empty (hp : t.procs p = .worker .read) (hr : t.rows = []) :
    run (step u) t [.advance p true] = some (t.attemptDone p true t.rows) := by
  simp only [run, step, hp, workerNext, advanceProc, if_pos hr, Option.map_some', Option.some_bind]
  rfl

theorem run_attempt_processed (hp : t.procs p = .worker .read) (hr : t.rows ≠ []) :
    run (step u) t [.advance p true, .advance p true, .advance p true] =
      some (t.attemptDone p true (markProcessedUpdateStatus t.rows .processed t.now)) := by
  simp [run, step, hp, workerNext, advanceProc, hr, Sys.setProc_setProc]
  rfl

theorem run_attempt_failed (hp : t.procs p = .worker .read) (hr : t.rows ≠ []) :
    run (step u) t [.advance p true, .advance p false, .advance p true, .advance p true] =
      some (t.attemptDone p false (markProcessedUpdateStatus t.rows .failed t.now)) := by
  simp [run, step, hp, workerNext, advanceProc, hr, Sys.setProc_setProc]
  rfl

end

/-! ## A replay onto a job that has run

`POST /internal/replay-update` adds the job under the id `update-<id>` that ingestion used
(part_010, lines 377-409). While the queue keeps a job of that id, finished ones included
(`removeOnComplete: 500`, `removeOnFail: 1000`), the add does nothing, and the row is marked
`enqueued` all the same. -/

section
variable {u : Nat} {s : Sys} {p : Nat}

theorem Data.jobs_eq_of_mem (hd : Data u s) {j : UpdateJob} (hj : j ∈ s.jobs) : s.jobs = [j] := by
  have hl := hd.jobs_le
  rcases h : s.jobs with _ | ⟨k, _ | ⟨l, _⟩⟩ <;> simp_all

/-- A replay past its read, while the queue holds a job of the update: its add and its mark
return, the queue holds that job and no other, and the row says `enqueued`. -/
theorem replay_keeps_queued_job (hs : Reachable Sys.init (step u) s)
    (hp : s.procs p = .replay .enqueue) {j : UpdateJob} (hj : j ∈ s.jobs) :
    ∃ t, run (step u) s [.advance p true, .advance p true] = some t ∧
      t.procs p = .replay .returned ∧ t.jobs = [j] ∧
      t.rows = markProcessedUpdateStatus s.rows .enqueued s.now := by
  have hd := (inv_reachable hs).1
  have hjs := hd.jobs_eq_of_mem hj
  refine ⟨((s.enqueue u ("replay-" ++ toString u ++ "-" ++ toString s.now)).mark
    .enqueued).setProc p (.replay .returned), ?_, by simp, ?_, rfl⟩
  · simp [run, step, hp, replayNext, advanceProc, Sys.setProc_setProc]
  · simp [Sys.mark, Sys.enqueue, queueAdd, hjs, hd.jobs_id j hj]

end

def replayAfterProcessed : List Action :=
  deliver ++ [.advance 0 true, .advance 0 true, .work 1, .advance 1 true, .advance 1 true,
    .advance 1 true, .replay 2, .advance 2 true]

def replaying : Sys := (run (step 42) Sys.init replayAfterProcessed).getD Sys.init

/-- The replay returns ok with the row marked `enqueued`, and the only job of the update is
the completed one: none will run routeUpdate on the update again. -/
theorem replay_after_processed_adds_no_job :
    statusOf replaying = some .processed ∧ replaying.procs 2 = .replay .enqueue ∧
      ∃ t, run (step 42) replaying [.advance 2 true, .advance 2 true] = some t ∧
        t.procs 2 = .replay .returned ∧ t.jobs = [⟨"update-42", "update-42", .completed, 0⟩] ∧
        t.rows = markProcessedUpdateStatus replaying.rows .enqueued replaying.now :=
  ⟨by decide, by decide, replay_keeps_queued_job
    ((reaches_of_run (step 42) replayAfterProcessed (s := Sys.init) (t := replaying)
      rfl).reachable .init) (by decide) (by decide)⟩

end ton_agent_bot.ingestion
