-- The update worker of jobs/dead-letter-worker.ts over every execution of one update's
-- job: queue retries after a failed attempt, and the new jobs of replay and recovery.
-- Each execution routes the update again and never reads the status stored before, so
-- what a failed execution did before it threw stays: a turn, a use of the quota, a
-- second-tap marker, a decision. Each execution enqueues at most one turn, and is a run
-- of the ingestion model's worker process.
import TonAgentBot.Updates.Route
import TonAgentBot.Ingestion

namespace ton_agent_bot.updates

open ton_agent_bot.approvals ton_agent_bot.ingestion

/-! ## The worker -/

/-- The worker's stores: routing's world, the agent-turns queue by job id, the
processed_updates row of the update, the dead letters and the answered callback
queries. -/
structure Worker where
  world : World
  turns : List (String × TurnExecutionRequest)
  rows : List ProcessedUpdate
  deadLetters : Nat
  answered : List String

abbrev W := EStateM String Worker

/-- Routing inside the worker: it sees only its world. -/
def liftRoute {α : Type} (x : M α) : W α := fun s =>
  match x s.world with
  | .ok a w => .ok a { s with world := w }
  | .error e w => .error e { s with world := w }

def awaitW {α : Type} (act : Worker → α × Worker) : W α := do
  liftRoute call
  modifyGet act

/-- `enqueueAgentTurn`: an add to agent-turns with job id `turn-<correlationId>`, a no-op
when a job of that id is there. -/
def enqueueAgentTurn (data : TurnExecutionRequest) : W Unit :=
  awaitW fun s => ((), { s with
    turns := if s.turns.any (·.1 = "turn-" ++ data.correlationId) then s.turns
      else s.turns ++ [("turn-" ++ data.correlationId, data)] })

def enqueueResult (result : UpdateProcessingResult) : W Unit :=
  match result.shouldQueueTurn, result.turnRequest with
  | true, some turnRequest => enqueueAgentTurn turnRequest
  | _, _ => pure ()

/-- `answerCallbackQuery` when the update has a callback query id. -/
def answerCallback (update : Update) : W Unit :=
  match update.callbackQuery with
  | some cq =>
    if cq.id ≠ "" then awaitW fun s => ((), { s with answered := s.answered ++ [cq.id] })
    else pure ()
  | none => pure ()

def markStatus (status : ProcessedUpdateStatus) : W Unit :=
  awaitW fun s => ((), { s with rows := markProcessedUpdateStatus s.rows status s.world.now })

/-- The `try` block of the job. -/
def handleUpdate (update : Update) : W Unit := do
  let result ← liftRoute (routeUpdate update)
  enqueueResult result
  answerCallback update
  markStatus .processed

/-- The `catch` block: mark the row failed, add a dead letter, rethrow. -/
def onFailure (error : String) : W Unit := do
  markStatus .failed
  awaitW fun s => ((), { s with deadLetters := s.deadLetters + 1 })
  throw error

/-- The job body of `createUpdateWorker`: `getProcessedUpdateById`, and with no row a
return; else route, enqueue, answer and mark, under the `try`. -/
def processUpdateJob (update : Update) : W Unit := do
  let rows ← awaitW fun s => (s.rows, s)
  if rows = [] then pure () else tryCatch (handleUpdate update) onFailure

/-- One execution of the update's job: the schedule of its awaited calls that throw, and
how long after the last one it starts (a retry's backoff, or a later replay). -/
structure Execution where
  delay : Nat
  faults : List Bool

def Worker.startExecution (s : Worker) (e : Execution) : Worker :=
  { s with world := { s.world with now := s.world.now + e.delay, faults := e.faults } }

@[simp] theorem Worker.startExecution_turns (s : Worker) (e : Execution) :
    (s.startExecution e).turns = s.turns := rfl
@[simp] theorem Worker.startExecution_quotaUsed (s : Worker) (e : Execution) :
    (s.startExecution e).world.quotaUsed = s.world.quotaUsed := rfl

def runExecutions (update : Update) : Worker → List Execution → Worker
  | s, [] => s
  | s, e :: es => runExecutions update (after (processUpdateJob update (s.startExecution e))) es

/-! ## One turn and one quota use per execution -/

section
variable {α γ : Type}

theorem Keeps.of_liftRoute {f : Worker → γ} (hf : ∀ s w, f { s with world := w } = f s)
    (x : M α) : Keeps f (liftRoute x) := by
  refine ⟨fun s => ?_⟩
  unfold liftRoute
  cases x s.world <;> exact hf _ _

theorem Keeps.world_of_liftRoute {f : World → γ} {x : M α} (h : Keeps f x) :
    Keeps (fun s : Worker => f s.world) (liftRoute x) := by
  refine ⟨fun s => ?_⟩
  have := h.keeps s.world
  unfold liftRoute
  cases hx : x s.world <;> simpa [hx, after] using this

theorem AtMostOne.world_of_liftRoute {f : World → Nat} {x : M α} (h : AtMostOne f x) :
    AtMostOne (fun s : Worker => f s.world) (liftRoute x) := by
  refine ⟨fun s => ?_⟩
  have := h.le s.world
  unfold liftRoute
  cases hx : x s.world <;> simpa [hx, after] using this

theorem Keeps.modifyGet {f : Worker → γ} {act : Worker → α × Worker}
    (h : ∀ s, f (act s).2 = f s) : Keeps f (modifyGet act : W α) := ⟨fun s => h s⟩

theorem Keeps.throw {f : Worker → γ} (e : String) : Keeps f (throw e : W α) := ⟨fun _ => rfl⟩

theorem Keeps.of_awaitW {f : Worker → γ} {act : Worker → α × Worker}
    (hc : Keeps f (liftRoute call)) (h : ∀ s, f (act s).2 = f s) : Keeps f (awaitW act) :=
  hc.bind fun _ => .modifyGet h

theorem Keeps.awaitW_turns {act : Worker → α × Worker}
    (h : ∀ s, (act s).2.turns.length = s.turns.length) :
    Keeps (·.turns.length) (awaitW act) :=
  .of_awaitW (Keeps.of_liftRoute (f := (·.turns.length)) (fun _ _ => rfl) _) h

theorem Keeps.awaitW_quota {act : Worker → α × Worker}
    (h : ∀ s, (act s).2.world.quotaUsed = s.world.quotaUsed) :
    Keeps (·.world.quotaUsed) (awaitW act) :=
  .of_awaitW (Keeps.world_of_liftRoute untouched_quotaUsed.keeps_call) h

end

theorem enqueueAgentTurn_atMostOne (data : TurnExecutionRequest) :
    AtMostOne (·.turns.length) (enqueueAgentTurn data) :=
  (Keeps.of_liftRoute (f := (·.turns.length)) (fun _ _ => rfl) _).bind_atMostOne fun _ => ⟨fun s => by
    show (if _ then _ else _ : List _).length ≤ _
    split_ifs <;> simp⟩

theorem enqueueResult_atMostOne (result : UpdateProcessingResult) :
    AtMostOne (·.turns.length) (enqueueResult result) := by
  unfold enqueueResult
  split
  · exact enqueueAgentTurn_atMostOne _
  · exact (Keeps.pure _).atMostOne

theorem processUpdateJob_turns_atMostOne (update : Update) :
    AtMostOne (·.turns.length) (processUpdateJob update) := by
  have hmark : ∀ st, Keeps (·.turns.length) (markStatus st) := fun _ => .awaitW_turns fun _ => rfl
  have hanswer : Keeps (·.turns.length) (answerCallback update) := by
    unfold answerCallback
    split
    · exact .ite (.awaitW_turns fun _ => rfl) (.pure _)
    · exact .pure _
  refine (Keeps.awaitW_turns fun _ => rfl).bind_atMostOne fun _ => .ite (Keeps.pure _).atMostOne ?_
  refine .of_tryCatch ?_ fun _ =>
    (hmark _).bind fun _ => (Keeps.awaitW_turns fun _ => rfl).bind fun _ => .throw _
  exact (Keeps.of_liftRoute (f := (·.turns.length)) (fun _ _ => rfl) _).bind_atMostOne fun _ =>
    (enqueueResult_atMostOne _).bind_keeps fun _ => hanswer.bind fun _ => hmark _

theorem processUpdateJob_quota_atMostOne (update : Update) :
    AtMostOne (·.world.quotaUsed) (processUpdateJob update) := by
  have hmark : ∀ st, Keeps (·.world.quotaUsed) (markStatus st) :=
    fun _ => .awaitW_quota fun _ => rfl
  have henqueue : ∀ r, Keeps (·.world.quotaUsed) (enqueueResult r) := by
    intro r
    unfold enqueueResult enqueueAgentTurn
    split
    · exact .awaitW_quota fun _ => rfl
    · exact .pure _
  have hanswer : Keeps (·.world.quotaUsed) (answerCallback update) := by
    unfold answerCallback
    split
    · exact .ite (.awaitW_quota fun _ => rfl) (.pure _)
    · exact .pure _
  refine (Keeps.awaitW_quota fun _ => rfl).bind_atMostOne fun _ => .ite (Keeps.pure _).atMostOne ?_
  refine .of_tryCatch ?_ fun _ =>
    (hmark _).bind fun _ => (Keeps.awaitW_quota fun _ => rfl).bind fun _ => .throw _
  exact (AtMostOne.world_of_liftRoute (routeUpdate_consumes_quota_at_most_once update)).bind_keeps fun _ =>
    (henqueue _).bind fun _ => hanswer.bind fun _ => hmark _

/-- Over any executions of one update's job, the turns enqueued and the quota used are at
most one per execution. -/
theorem executions_enqueue_and_consume_at_most_once_each (update : Update) (s : Worker)
    (es : List Execution) :
    (runExecutions update s es).turns.length ≤ s.turns.length + es.length ∧
      (runExecutions update s es).world.quotaUsed ≤ s.world.quotaUsed + es.length := by
  induction es generalizing s with
  | nil => exact ⟨le_refl _, le_refl _⟩
  | cons e es ih =>
    have ht := (processUpdateJob_turns_atMostOne update).le (s.startExecution e)
    have hq := (processUpdateJob_quota_atMostOne update).le (s.startExecution e)
    obtain ⟨ih1, ih2⟩ := ih (after (processUpdateJob update (s.startExecution e)))
    simp only [runExecutions, List.length_cons, Worker.startExecution_turns,
      Worker.startExecution_quotaUsed] at ht hq ⊢
    exact ⟨by omega, by omega⟩

/-! ## Runs of one update -/

def requestedApproval : ToolApproval := ⟨"tok", .requested, 600000, some 42, none, none, none⟩

def workerStart (riskProfile : RiskProfile) : Worker :=
  ⟨⟨1000, some requestedApproval, riskProfile, .high, [], true, true, 0, true, [], [], 0, []⟩, [],
    [⟨.enqueued, none⟩], 0, []⟩

def approveUpdate : Update := ⟨some ⟨"cq-1", "7", "ap:tok:approve", true⟩, none⟩

/-- The first execution throws at its seventh awaited call, the notice to tap Approve
again, after the marker was set; the queue's retry comes 1 s later. -/
def noticeThrows : List Execution :=
  [⟨0, [false, false, false, false, false, false, true]⟩, ⟨1000, []⟩]

/-- One callback query approves a card that asks for a second tap. -/
theorem single_callback_query_approves_cautious_card :
    (runExecutions approveUpdate (workerStart .cautious) noticeThrows).world.approval.map
        (·.status) = some .approved ∧
      (runExecutions approveUpdate (workerStart .cautious) noticeThrows).answered = ["cq-1"] ∧
      (runExecutions approveUpdate (workerStart .cautious) noticeThrows).turns.length = 1 := by
  decide

/-- The first execution throws at its ninth awaited call, the `getSessionById` after the
card edit, once `decideApproval` wrote the decision and its audit event; the retry comes
1 s later. -/
def sessionLookupThrows : List Execution :=
  [⟨0, [false, false, false, false, false, false, false, false, true]⟩, ⟨1000, []⟩]

/-- The approval ends approved, the update processed, and no turn carries the decision:
the retry found the approval decided and said so. -/
theorem session_lookup_failure_loses_approved_turn :
    (runExecutions approveUpdate (workerStart .balanced) sessionLookupThrows).world.approval.map
        (·.status) = some .approved ∧
      (runExecutions approveUpdate (workerStart .balanced) sessionLookupThrows).turns = [] ∧
      (runExecutions approveUpdate (workerStart .balanced) sessionLookupThrows).world.sent =
        [.text "Approval is already approved."] ∧
      (runExecutions approveUpdate (workerStart .balanced) sessionLookupThrows).rows =
        [⟨.processed, some 2000⟩] := by
  decide

def textMessage : Update := ⟨none, some ⟨some "send 1 TON to Alice", some "7"⟩⟩

/-- The first execution throws at its eleventh awaited call, the mark of the row as
processed, after the turn was enqueued; the retry comes 1 s later. -/
def markThrows : List Execution :=
  [⟨0, [false, false, false, false, false, false, false, false, false, false, true]⟩,
    ⟨1000, []⟩]

/-- The message gets two turns under two correlation ids, and the quota is used twice. -/
theorem mark_failure_enqueues_second_turn :
    (runExecutions textMessage (workerStart .balanced) markThrows).turns.map (·.1) =
        ["turn-corr-0", "turn-corr-1"] ∧
      (runExecutions textMessage (workerStart .balanced) markThrows).turns.map (·.2.text) =
        ["send 1 TON to Alice", "send 1 TON to Alice"] ∧
      (runExecutions textMessage (workerStart .balanced) markThrows).world.quotaUsed = 2 := by
  decide

/-! ## Each execution is a run of the ingestion model's worker

The ingestion model runs a worker attempt one statement per await that touches the row
or the queue, with routing, the turn's enqueue and the callback's answer as the one
statement `route`. Every execution of the job body in full, routing and all, is a run of
that process: the run leaves the row the execution leaves, and ends the attempt as the
execution ends. -/

def succeeded {σ α : Type} : EStateM.Result String σ α → Bool
  | .ok _ _ => true
  | .error _ _ => false

section
variable {σ α β γ : Type} {f : σ → γ}

/-- From a state whose `f` is `v`, `x` ends in one whose `f` is `v'`, with `ok v v'` when it
returns and `err v v'` when it throws. -/
structure Ends (f : σ → γ) (ok err : γ → γ → Prop) (x : EStateM String σ α) : Prop where
  ends : ∀ w, match x w with
    | .ok _ w' => ok (f w) (f w')
    | .error _ w' => err (f w) (f w')

theorem Ends.bind {x : EStateM String σ α} {g : α → EStateM String σ β}
    {ok₁ err₁ ok₂ err₂ ok err : γ → γ → Prop} (hx : Ends f ok₁ err₁ x)
    (hg : ∀ a, Ends f ok₂ err₂ (g a)) (hok : ∀ u v w, ok₁ u v → ok₂ v w → ok u w)
    (herr₁ : ∀ u v, err₁ u v → err u v) (herr₂ : ∀ u v w, ok₁ u v → err₂ v w → err u w) :
    Ends f ok err (x >>= g) := by
  refine ⟨fun w => ?_⟩
  have h1 := hx.ends w
  show match EStateM.bind x g w with | .ok _ w' => _ | .error _ w' => _
  unfold EStateM.bind
  cases hw : x w with
  | ok a w1 =>
    simp only [hw] at h1 ⊢
    have h2 := (hg a).ends w1
    cases hg : g a w1 <;> simp only [hg] at h2 ⊢
    · exact hok _ _ _ h1 h2
    · exact herr₂ _ _ _ h1 h2
  | error e w1 => simp only [hw] at h1 ⊢; exact herr₁ _ _ h1

theorem Ends.of_tryCatch {x : EStateM String σ α} {h : String → EStateM String σ α}
    {ok₁ err₁ ok₂ err₂ ok err : γ → γ → Prop} (hx : Ends f ok₁ err₁ x)
    (hh : ∀ e, Ends f ok₂ err₂ (h e)) (hok₁ : ∀ u v, ok₁ u v → ok u v)
    (hok₂ : ∀ u v w, err₁ u v → ok₂ v w → ok u w)
    (herr : ∀ u v w, err₁ u v → err₂ v w → err u w) : Ends f ok err (tryCatch x h) := by
  refine ⟨fun w => ?_⟩
  have h1 := hx.ends w
  unfold tryCatch
  cases hw : x w with
  | ok a w1 => simp only [hw] at h1 ⊢; exact hok₁ _ _ h1
  | error e w1 =>
    simp only [hw] at h1 ⊢
    have h2 := (hh e).ends w1
    cases hh : h e w1 <;> simp only [hh] at h2 ⊢
    · exact hok₂ _ _ _ h1 h2
    · exact herr _ _ _ h1 h2

theorem Keeps.ends {x : EStateM String σ α} (h : Keeps f x) :
    Ends f (fun v v' => v' = v) (fun v v' => v' = v) x := by
  refine ⟨fun w => ?_⟩
  have := h.keeps w
  cases hw : x w <;> simpa [hw, after] using this

theorem Keeps.bind_ends {x : EStateM String σ α} {g : α → EStateM String σ β}
    {ok err : γ → γ → Prop} (hx : Keeps f x) (hg : ∀ a, Ends f ok err (g a))
    (herr : ∀ v, err v v) : Ends f ok err (x >>= g) :=
  hx.ends.bind hg (fun _ _ _ h1 h2 => h1 ▸ h2) (fun _ _ h => h ▸ herr _)
    fun _ _ _ h1 h2 => h1 ▸ h2

theorem Ends.throw (e : String) :
    Ends f (fun _ _ => False) (fun v v' => v' = v) (throw e : EStateM String σ α) :=
  ⟨fun _ => rfl⟩

end

def Worker.rowAndClock (s : Worker) : List ProcessedUpdate × Nat := (s.rows, s.world.now)

theorem Keeps.rowAndClock_liftRoute {α : Type} {x : M α} (h : Keeps (·.now) x) :
    Keeps Worker.rowAndClock (liftRoute x) :=
  ⟨fun s => Prod.ext ((Keeps.of_liftRoute (f := (·.rows)) (fun _ _ => rfl) x).keeps s)
    (h.world_of_liftRoute.keeps s)⟩

theorem rowAndClock_call : Keeps Worker.rowAndClock (liftRoute call) :=
  .rowAndClock_liftRoute untouched_now.keeps_call

theorem markStatus_ends (status : ProcessedUpdateStatus) :
    Ends Worker.rowAndClock (fun v v' => v' = (markProcessedUpdateStatus v.1 status v.2, v.2))
      (fun v v' => v' = v) (markStatus status) :=
  rowAndClock_call.bind_ends (fun _ => ⟨fun _ => rfl⟩) fun _ => rfl

theorem handleUpdate_ends (update : Update) :
    Ends Worker.rowAndClock
      (fun v v' => v' = (markProcessedUpdateStatus v.1 .processed v.2, v.2))
      (fun v v' => v' = v) (handleUpdate update) := by
  have henqueue : ∀ r, Keeps Worker.rowAndClock (enqueueResult r) := by
    intro r
    unfold enqueueResult enqueueAgentTurn
    split
    · exact .of_awaitW rowAndClock_call fun _ => rfl
    · exact .pure _
  have hanswer : Keeps Worker.rowAndClock (answerCallback update) := by
    unfold answerCallback
    split
    · exact .ite (.of_awaitW rowAndClock_call fun _ => rfl) (.pure _)
    · exact .pure _
  exact (Keeps.rowAndClock_liftRoute (routeUpdate_keeps_now update)).bind_ends (fun r =>
    (henqueue r).bind_ends (fun _ => hanswer.bind_ends (fun _ => markStatus_ends _)
      fun _ => rfl) fun _ => rfl) fun _ => rfl

theorem onFailure_ends (error : String) :
    Ends Worker.rowAndClock (fun _ _ => False)
      (fun v v' => v' = v ∨ v' = (markProcessedUpdateStatus v.1 .failed v.2, v.2))
      (onFailure error) :=
  (markStatus_ends .failed).bind
    (fun _ => (Keeps.of_awaitW rowAndClock_call fun _ => rfl).bind_ends (fun _ => .throw _)
      fun _ => rfl)
    (fun _ _ _ _ h => h) (fun _ _ h => .inl h) fun _ _ _ h1 h2 => .inr (h2.trans h1)

theorem tryCatch_ends (update : Update) :
    Ends Worker.rowAndClock
      (fun v v' => v' = (markProcessedUpdateStatus v.1 .processed v.2, v.2))
      (fun v v' => v' = v ∨ v' = (markProcessedUpdateStatus v.1 .failed v.2, v.2))
      (tryCatch (handleUpdate update) onFailure) :=
  (handleUpdate_ends update).of_tryCatch onFailure_ends (fun _ _ h => h) (fun _ _ _ _ h => h.elim)
    fun _ _ _ h1 h2 => h1 ▸ h2

theorem processUpdateJob_ends (update : Update) :
    Ends Worker.rowAndClock
      (fun v v' => v.1 = [] ∧ v' = v ∨
        v.1 ≠ [] ∧ v' = (markProcessedUpdateStatus v.1 .processed v.2, v.2))
      (fun v v' => v' = v ∨
        v.1 ≠ [] ∧ v' = (markProcessedUpdateStatus v.1 .failed v.2, v.2))
      (processUpdateJob update) := by
  refine ⟨fun s => ?_⟩
  have hc := rowAndClock_call.keeps s
  unfold processUpdateJob awaitW
  simp only [bind, EStateM.bind]
  cases hs : liftRoute call s with
  | error e s1 => simp only [hs, after] at hc ⊢; exact .inl hc
  | ok _ s1 =>
    simp only [hs, after] at hc ⊢
    have hm : (modifyGet (fun s : Worker => (s.rows, s)) : W (List ProcessedUpdate)) s1 =
      .ok s1.rows s1 := rfl
    simp only [hm]
    by_cases h0 : s1.rows = []
    · simp only [h0, ↓reduceIte]
      exact .inl ⟨by rw [← hc]; exact h0, hc⟩
    · have h := (tryCatch_ends update).ends s1
      simp only [h0, ↓reduceIte]
      rw [hc] at h
      have h0' : s.rowAndClock.1 ≠ [] := by rw [← hc]; exact h0
      cases ht : tryCatch (handleUpdate update) onFailure s1 <;> simp only [ht] at h ⊢
      · exact .inr ⟨h0', h⟩
      · exact h.imp_right fun h => ⟨h0', h⟩

/-- Every execution of the update's job, routing and all, is a run of the ingestion
model's worker process from a state with the same row and clock: the run leaves the row
the execution leaves, and ends the attempt as the execution ends. -/
theorem processUpdateJob_runs_as_worker_attempt (u : Nat) (update : Update) (s : Worker)
    {t : ingestion.Sys} {p : Nat} (hp : t.procs p = .worker .read) (hrows : t.rows = s.rows)
    (hnow : t.now = s.world.now) :
    ∃ oks : List Bool, run (ingestion.step u) t (oks.map (.advance p)) =
      some (t.attemptDone p (succeeded (processUpdateJob update s))
        (after (processUpdateJob update s)).rows) := by
  have h := (processUpdateJob_ends update).ends s
  cases hx : processUpdateJob update s with
  | ok _ s' =>
    simp only [hx, Worker.rowAndClock, Prod.ext_iff, ← hrows, ← hnow] at h
    rcases h with ⟨hr, he, -⟩ | ⟨hr, he, -⟩
    · exact ⟨[true], by simpa [succeeded, after, he] using run_attempt_empty u hp hr⟩
    · exact ⟨[true, true, true], by
        simpa [succeeded, after, he] using run_attempt_processed u hp hr⟩
  | error _ s' =>
    simp only [hx, Worker.rowAndClock, Prod.ext_iff, ← hrows, ← hnow] at h
    rcases h with ⟨he, -⟩ | ⟨hr, he, -⟩
    · exact ⟨[false], by simpa [succeeded, after, he] using run_attempt_threw u hp⟩
    · exact ⟨[true, false, true, true], by
        simpa [succeeded, after, he] using run_attempt_failed u hp hr⟩

def readingWorker : ingestion.Sys :=
  { ingestion.Sys.init.setProc 1 (.worker .read) with rows := [⟨.enqueued, none⟩], now := 1000 }

theorem text_message_runs_as_worker_attempt :
    readingWorker.procs 1 = .worker .read ∧ readingWorker.rows = (workerStart .balanced).rows ∧
      readingWorker.now = (workerStart .balanced).world.now ∧
      ∃ oks : List Bool, run (ingestion.step 42) readingWorker (oks.map (.advance 1)) =
        some (readingWorker.attemptDone 1
          (succeeded (processUpdateJob textMessage (workerStart .balanced)))
          (after (processUpdateJob textMessage (workerStart .balanced))).rows) :=
  ⟨rfl, rfl, rfl, processUpdateJob_runs_as_worker_attempt 42 textMessage _ rfl rfl rfl⟩

end ton_agent_bot.updates
