-- The approval-countdowns queue beside the approval engine. registerApprovalRequests adds
-- the first countdown job, and a run of the countdown worker edits the card and adds the
-- next job while the approval it read is requested, has its card and has time left. BullMQ
-- puts a job whose run stalled back in the queue once, while that run may go on. A step
-- adds a job only in these ways. While no job has stalled, at most one countdown job of
-- the approval waits and the chain makes at most (TTL in seconds) + 1 runs: the runs so
-- far plus the seconds left before expiry from the next run on never grow, and each run
-- that goes on spends at least one of them. One stall leaves two jobs waiting, and over
-- every schedule the jobs that wait and the runs under way number at most one more than the
-- stalls so far.
import TonAgentBot.Approvals.Engine
import Mathlib.Data.Finset.Card

namespace ton_agent_bot.approvals

/-! ## The countdown worker -/

/-- `APPROVAL_COUNTDOWN_INTERVAL_MS`, the delay of the first countdown job and the longest
delay of the next. -/
def APPROVAL_COUNTDOWN_INTERVAL_MS : Nat := 30000

/-- Where a run of the approval-countdown worker stands; `idle` is a worker slot that has
taken no job yet. `now` is the time the run read the row at. -/
inductive CountdownPc
  | idle
  | read
  | editing (approval : ToolApproval) (now : Nat)
  | enqueuing (approval : ToolApproval) (now : Nat)
  | returned
  | threw
  deriving DecidableEq, Repr

/-- The approval's card has a message: `promptMessageId` is a number above 0. -/
def hasPromptMessage (a : ToolApproval) : Bool :=
  match a.promptMessageId with
  | some m => 0 < m
  | none => false

/-- The early returns of the worker (approval-countdown-worker.ts, lines 16-31) on the row it
read at `now`: it goes on to edit the card only for a requested approval with a card
message and time left. -/
def countdownRead (t : Option ToolApproval) (now : Nat) : CountdownPc :=
  match t with
  | some a =>
    if a.status = .requested ∧ hasPromptMessage a = true ∧ now < a.expiresAt then
      .editing a now
    else .returned
  | none => .returned

/-- The delay of the next job, `Math.min(30_000, Math.max(1_000, expiresAt - now))`. The
worker computes it only when `now < expiresAt`, where the difference is exact. -/
def countdownDelay (expiresAt now : Nat) : Nat :=
  min APPROVAL_COUNTDOWN_INTERVAL_MS (max 1000 (expiresAt - now))

def CountdownPc.free : CountdownPc → Bool
  | .idle | .returned | .threw => true
  | _ => false

/-! ## The queue -/

/-- BullMQ's `maxStalledCount`, which the queue leaves at its default: a job whose lock ran
out goes back to the waiting list once, and fails at its second stall. -/
def maxStalledCount : Nat := 1

/-- A countdown job: when it is due, and how often it stalled. Each add has a fresh job id,
so two jobs are two entries even when they are due at once. -/
structure CountdownJob where
  due : Nat
  stalledCounter : Nat
  deriving DecidableEq, Repr

/-! ## The system -/

/-- The engine, the approval's countdown jobs waiting in the queue, the runs of the
countdown worker so far, the worker slots with the job whose lock each holds, and the
stalls BullMQ found so far. -/
structure CountdownSys where
  engine : Sys
  pending : List CountdownJob
  runs : Nat
  workers : Nat → CountdownPc
  locks : Nat → Option CountdownJob
  stalls : Nat

def CountdownSys.init : CountdownSys := ⟨Sys.init, [], 0, fun _ => .idle, fun _ => none, 0⟩

def CountdownSys.setWorker (s : CountdownSys) (w : Nat) (x : CountdownPc) : CountdownSys :=
  { s with workers := fun v => if v = w then x else s.workers v }

@[simp] theorem CountdownSys.setWorker_engine (s : CountdownSys) (w : Nat) (x : CountdownPc) :
    (s.setWorker w x).engine = s.engine := rfl
@[simp] theorem CountdownSys.setWorker_pending (s : CountdownSys) (w : Nat) (x : CountdownPc) :
    (s.setWorker w x).pending = s.pending := rfl
@[simp] theorem CountdownSys.setWorker_runs (s : CountdownSys) (w : Nat) (x : CountdownPc) :
    (s.setWorker w x).runs = s.runs := rfl
@[simp] theorem CountdownSys.setWorker_workers (s : CountdownSys) (w v : Nat) (x : CountdownPc) :
    (s.setWorker w x).workers v = if v = w then x else s.workers v := rfl
@[simp] theorem CountdownSys.setWorker_stalls (s : CountdownSys) (w : Nat) (x : CountdownPc) :
    (s.setWorker w x).stalls = s.stalls := rfl

/-- The engine step that adds the first countdown job: the registering process runs
`enqueueApprovalCountdown` without a throw. -/
def startsCountdownJob (e : Sys) : Action → Bool
  | .advance p true => e.procs p = .register .enqueueCountdown
  | _ => false

inductive CountdownAction
  | engine (a : Action)
  | recordPrompt (promptMessageId : Int)
  | fire (w : Nat) (job : CountdownJob)
  | advance (w : Nat) (ok : Bool)
  | stall (w : Nat)
  deriving DecidableEq, Repr

/-- One step: a step of the engine, with the job its registration adds; the card sender's
`updateToolApprovalPromptMessage`; a due job handed to a free worker slot, which takes its
lock; one statement of a run, whose read or enqueue may throw, while `editTelegramText`
catches its errors and never throws; or a stall: the lock of a run under
way runs out (its process died, or was blocked past the lock's duration), and BullMQ puts
the job back in the queue unless it stalled before, while the run, if its process lives,
goes on. A job's delay counts from when it is added, and each job id is fresh, so every
add is a new job. -/
def countdownStep (s : CountdownSys) : CountdownAction → Option CountdownSys
  | .engine a => (step s.engine a).map fun e => { s with
      engine := e
      pending := if startsCountdownJob s.engine a then
        s.pending ++ [⟨s.engine.now + APPROVAL_COUNTDOWN_INTERVAL_MS, 0⟩] else s.pending }
  | .recordPrompt m => some { s with
      engine := { s.engine with
        approval := updateToolApprovalPromptMessage s.engine.approval m } }
  | .fire w job =>
    if (s.workers w).free = true ∧ job ∈ s.pending ∧ job.due ≤ s.engine.now then
      some { s.setWorker w .read with
        pending := s.pending.erase job
        runs := s.runs + 1
        locks := fun v => if v = w then some job else s.locks v }
    else none
  | .advance w ok =>
    match s.workers w with
    | .read =>
      some (s.setWorker w (if ok then countdownRead s.engine.approval s.engine.now else .threw))
    | .editing a now => some (s.setWorker w (.enqueuing a now))
    | .enqueuing a now =>
      if ok then
        some { s.setWorker w .returned with
          pending := s.pending ++ [⟨s.engine.now + countdownDelay a.expiresAt now, 0⟩] }
      else some (s.setWorker w .threw)
    | _ => none
  | .stall w =>
    match s.locks w with
    | some job =>
      if (s.workers w).free = false then
        some { s with
          pending := if job.stalledCounter < maxStalledCount then
            s.pending ++ [{ job with stalledCounter := job.stalledCounter + 1 }] else s.pending
          locks := fun v => if v = w then none else s.locks v
          stalls := s.stalls + 1 }
      else none
    | none => none

/-! ## Who holds the chain -/

def Proc.startsCountdown : Proc → Bool
  | .register .enqueueTimeout | .register .enqueueCountdown => true
  | _ => false

def CountdownPc.active (x : CountdownPc) : Bool := !x.free

/-- What holds the approval's countdown chain: nothing, the registering process before the
first job, the one job waiting, or the worker that took it. -/
inductive Holder
  | none
  | registering (p : Nat)
  | pending (job : CountdownJob)
  | worker (w : Nat)
  deriving DecidableEq, Repr

def Holder.jobs : Holder → List CountdownJob
  | .pending job => [job]
  | _ => []

def Holder.isRegistering : Holder → Nat → Bool
  | .registering p, q => q == p
  | _, _ => false

def Holder.isWorker : Holder → Nat → Bool
  | .worker w, v => v == w
  | _, _ => false

/-- `h` is all that holds the chain: the jobs that wait, the registrations before their
first job and the runs under way are its own. -/
structure Holds (s : CountdownSys) (h : Holder) : Prop where
  jobs : s.pending = h.jobs
  registering : ∀ p, (s.engine.procs p).startsCountdown = h.isRegistering p
  workers : ∀ w, (s.workers w).active = h.isWorker w

/-! ## The runs the chain still owes -/

def secondsBefore (expiresAt t : Nat) : Nat := (expiresAt - t + 999) / 1000

def countdownRunsBound : Nat := APPROVAL_TTL_MS / 1000 + 1

/-- What a run under way owes: one at `read` may go on from the time it reads; one that
goes on, from a second after the time it read, before the row's expiry. -/
def WorkerOwes (runs now expiresAt : Nat) : CountdownPc → Prop
  | .read => runs + secondsBefore expiresAt now ≤ countdownRunsBound
  | .editing a t | .enqueuing a t => a.expiresAt = expiresAt ∧ t < expiresAt ∧ t ≤ now ∧
      runs + 1 + secondsBefore expiresAt (t + 1000) ≤ countdownRunsBound
  | _ => False

/-- The runs so far and those that the holder's chain can still make, against the row's
expiry, stay within the bound. -/
def Owes (s : CountdownSys) (expiresAt : Nat) : Holder → Prop
  | .none => s.runs ≤ countdownRunsBound
  | .registering _ => s.runs + 1 +
      secondsBefore expiresAt (s.engine.now + APPROVAL_COUNTDOWN_INTERVAL_MS) ≤ countdownRunsBound
  | .pending job => s.runs + 1 + secondsBefore expiresAt job.due ≤ countdownRunsBound
  | .worker w => WorkerOwes s.runs s.engine.now expiresAt (s.workers w)

/-- Before the row is inserted, nothing holds the chain and no run was made; after, the
holder owes within the bound against the row's expiry. -/
def ChainOk (s : CountdownSys) (h : Holder) : Prop :=
  match expiresAtOf s.engine.approval with
  | none => h = .none ∧ s.runs = 0
  | some expiresAt => Owes s expiresAt h

/-- The invariant of the composed system: while no job has stalled, one holder at most,
whose runs stay within the bound; and a run that goes on read the row, requested, with a
card and time left. -/
structure CountdownInv (s : CountdownSys) : Prop where
  chain : s.stalls = 0 → ∃ h, Holds s h ∧ ChainOk s h
  checked : ∀ w a t, (s.workers w = .editing a t ∨ s.workers w = .enqueuing a t) →
    a.status = .requested ∧ hasPromptMessage a = true ∧ t < a.expiresAt ∧
      expiresAtOf s.engine.approval = some a.expiresAt

/-! ## Seconds left -/

theorem secondsBefore_anti (expiresAt : Nat) {t t' : Nat} (h : t ≤ t') :
    secondsBefore expiresAt t' ≤ secondsBefore expiresAt t :=
  Nat.div_le_div_right (by omega)

theorem secondsBefore_go_on {expiresAt t : Nat} (h : t < expiresAt) :
    secondsBefore expiresAt (t + 1000) + 1 ≤ secondsBefore expiresAt t := by
  unfold secondsBefore
  omega

theorem countdownDelay_ge (expiresAt now : Nat) : 1000 ≤ countdownDelay expiresAt now := by
  unfold countdownDelay APPROVAL_COUNTDOWN_INTERVAL_MS
  omega

theorem secondsBefore_first_job {now now' : Nat} (h : now ≤ now') :
    secondsBefore (now + APPROVAL_TTL_MS) (now' + APPROVAL_COUNTDOWN_INTERVAL_MS) ≤ 270 := by
  unfold secondsBefore APPROVAL_TTL_MS APPROVAL_COUNTDOWN_INTERVAL_MS
  omega

/-! ## What an engine step does to the chain -/

theorem decideNext_expiresAtOf {s : Sys} {i : DecideInput} {pc : DecidePc} {r : Sys × DecidePc}
    (h : decideNext s i pc = some r) : expiresAtOf r.1.approval = expiresAtOf s.approval := by
  cases pc <;> simp only [decideNext, Option.some.injEq, reduceCtorEq] at h <;> subst h <;> simp

theorem timeoutNext_expiresAtOf {s : Sys} {pc : TimeoutPc} {r : Sys × TimeoutPc}
    (h : timeoutNext s pc = some r) : expiresAtOf r.1.approval = expiresAtOf s.approval := by
  cases pc <;> simp only [timeoutNext, Option.some.injEq, reduceCtorEq] at h <;> subst h <;> simp

theorem startsCountdown_setProc {e e0 : Sys} (he : e0.procs = e.procs) {p : Nat} {x : Proc}
    (hx : x.startsCountdown = true → (e.procs p).startsCountdown = true) (q : Nat)
    (hq : ((e0.setProc p x).procs q).startsCountdown = true) :
    (e.procs q).startsCountdown = true := by
  simp only [Sys.setProc_procs, he] at hq
  split_ifs at hq with h
  · exact h ▸ hx hq
  · exact hq

theorem step_chain_view {e e' : Sys} {a : Action} (h : step e a = some e') :
    (∃ p tok, a = .advance p true ∧ e.procs p = .register (.create tok) ∧ e.approval = none ∧
      e'.approval = some (newApproval tok e.now) ∧
      ∀ q, (e'.procs q).startsCountdown = (q == p || (e.procs q).startsCountdown)) ∨
    (expiresAtOf e'.approval = expiresAtOf e.approval ∧
      ∀ q, (e'.procs q).startsCountdown = true → (e.procs q).startsCountdown = true) := by
  have hfalse : ∀ {x : Proc} {p : Nat}, x.startsCountdown = false →
      x.startsCountdown = true → (e.procs p).startsCountdown = true := fun hx h => by
    rw [hx] at h; cases h
  cases a with
  | advance p ok =>
    simp only [step] at h
    split at h
    · cases h
    · rename_i i pc hp
      obtain ⟨r, hr, rfl⟩ := advanceWith_eq h
      cases ok <;> simp only [Bool.false_eq_true, if_false, if_true] <;> refine .inr ⟨?_, ?_⟩
      · rfl
      · exact startsCountdown_setProc rfl (hfalse rfl)
      · exact decideNext_expiresAtOf hr
      · exact startsCountdown_setProc (decideNext_procs hr) (hfalse rfl)
    · rename_i pc hp
      obtain ⟨r, hr, rfl⟩ := advanceWith_eq h
      cases ok <;> simp only [Bool.false_eq_true, if_false, if_true] <;> refine .inr ⟨?_, ?_⟩
      · rfl
      · exact startsCountdown_setProc rfl (hfalse rfl)
      · exact timeoutNext_expiresAtOf hr
      · exact startsCountdown_setProc (timeoutNext_procs hr) (hfalse rfl)
    · rename_i pc hp
      obtain ⟨r, hr, rfl⟩ := advanceWith_eq h
      cases ok
      · exact .inr ⟨rfl, startsCountdown_setProc rfl (hfalse rfl)⟩
      cases pc <;> simp only [registerNext, Option.some.injEq, reduceCtorEq] at hr
      · rename_i tok
        rcases hn : e.approval with _ | r0 <;>
          simp only [createToolApproval, hn, Option.some.injEq] at hr <;> subst hr
        · refine .inl ⟨p, tok, rfl, hp, rfl, rfl, fun q => ?_⟩
          by_cases hq : q = p
          · simp [hq, Proc.startsCountdown]
          · simp [hq]
        · exact .inr ⟨by simp [hn], startsCountdown_setProc rfl (hfalse rfl)⟩
      · subst hr
        exact .inr ⟨rfl, startsCountdown_setProc rfl fun _ => by simp [hp, Proc.startsCountdown]⟩
      · subst hr
        exact .inr ⟨rfl, startsCountdown_setProc rfl (hfalse rfl)⟩
      · subst hr
        exact .inr ⟨rfl, startsCountdown_setProc rfl (hfalse rfl)⟩
  | _ =>
    simp only [step] at h
    repeat' split at h
    all_goals first
      | (cases h; exact .inr ⟨rfl, startsCountdown_setProc rfl (hfalse rfl)⟩)
      | (cases h; exact .inr ⟨rfl, fun _ h => h⟩)
      | cases h

theorem step_of_startsCountdownJob {e e' : Sys} {a : Action} (hj : startsCountdownJob e a = true)
    (h : step e a = some e') :
    ∃ p, e.procs p = .register .enqueueCountdown ∧ e' = e.setProc p (.register .auditing) := by
  cases a with
  | advance p ok =>
    cases ok
    · cases hj
    · simp only [startsCountdownJob, decide_eq_true_eq] at hj
      simp only [step, hj, Sys.advanceWith, registerNext, Option.map_some', if_true,
        Option.some.injEq] at h
      exact ⟨p, hj, h.symm⟩
  | _ => cases hj

/-! ## Each step keeps the invariant -/

theorem Holder.eq_of_isRegistering {h : Holder} {p : Nat} (hp : h.isRegistering p = true) :
    h = .registering p := by
  cases h <;> simp_all [Holder.isRegistering]

theorem Holder.eq_of_isWorker {h : Holder} {w : Nat} (hw : h.isWorker w = true) :
    h = .worker w := by
  cases h <;> simp_all [Holder.isWorker]

theorem WorkerOwes.runs_le {runs now expiresAt : Nat} {x : CountdownPc}
    (h : WorkerOwes runs now expiresAt x) : runs ≤ countdownRunsBound := by
  cases x <;> simp only [WorkerOwes] at h <;> omega

theorem Owes.mono {s s' : CountdownSys} {expiresAt : Nat} {h : Holder}
    (ho : Owes s expiresAt h) (hr : s'.runs = s.runs) (hw : s'.workers = s.workers)
    (hn : s.engine.now ≤ s'.engine.now) : Owes s' expiresAt h := by
  cases h with
  | none => simpa only [Owes, hr] using ho
  | registering p =>
    simp only [Owes, hr] at ho ⊢
    have := secondsBefore_anti expiresAt (Nat.add_le_add_right hn
      APPROVAL_COUNTDOWN_INTERVAL_MS)
    omega
  | pending due => simpa only [Owes, hr] using ho
  | worker w =>
    simp only [Owes, hr, hw] at ho ⊢
    cases hx : s.workers w <;> simp only [hx, WorkerOwes] at ho ⊢
    · have := secondsBefore_anti expiresAt hn
      omega
    all_goals omega

theorem ChainOk.of_expiresAtOf {s s' : CountdownSys} {h : Holder} (ho : ChainOk s h)
    (hexp : expiresAtOf s'.engine.approval = expiresAtOf s.engine.approval)
    (hr : s'.runs = s.runs) (hw : s'.workers = s.workers)
    (hn : s.engine.now ≤ s'.engine.now) : ChainOk s' h := by
  unfold ChainOk at ho ⊢
  rw [hexp, hr]
  rcases hx : expiresAtOf s.engine.approval with _ | expiresAt <;> simp only [hx] at ho ⊢
  · exact ho
  · exact ho.mono hr hw hn

theorem ChainOk.drop_registering {s : CountdownSys} {p : Nat} (ho : ChainOk s (.registering p)) :
    ChainOk s .none := by
  unfold ChainOk at ho ⊢
  rcases hx : expiresAtOf s.engine.approval with _ | expiresAt <;> simp only [hx] at ho ⊢
  · cases ho.1
  · simp only [Owes] at ho ⊢
    omega

theorem CountdownInv.engine {s s' : CountdownSys} {a : Action} (hi : CountdownInv s)
    (h : countdownStep s (.engine a) = some s') : CountdownInv s' := by
  obtain ⟨e', he, rfl⟩ := Option.map_eq_some'.mp h
  refine ⟨fun h0 => ?_, fun v a t hv => ?_⟩
  swap
  · -- a row that is there keeps its expiry
    obtain ⟨h1, h2, h3, h4⟩ := hi.checked v a t hv
    refine ⟨h1, h2, h3, ?_⟩
    rcases step_chain_view he with ⟨-, -, -, -, hn, -⟩ | ⟨hexp, -⟩
    · simp [expiresAtOf, hn] at h4
    · exact hexp.trans h4
  obtain ⟨hd, hh, hok⟩ := hi.chain h0
  have hnow := step_now_le he
  by_cases hj : startsCountdownJob s.engine a = true
  · obtain ⟨p, hp, rfl⟩ := step_of_startsCountdownJob hj he
    have hreg := hh.registering p
    rw [hp] at hreg
    obtain rfl := Holder.eq_of_isRegistering (hreg.symm.trans rfl)
    refine ⟨.pending ⟨s.engine.now + APPROVAL_COUNTDOWN_INTERVAL_MS, 0⟩,
      ⟨?_, fun q => ?_, hh.workers⟩, ?_⟩
    · simp [hj, hh.jobs, Holder.jobs]
    · by_cases hq : q = p
      · simp [hq, Proc.startsCountdown, Holder.isRegistering]
      · simp [hq, hh.registering q, Holder.isRegistering]
    · unfold ChainOk at hok ⊢
      rcases hx : expiresAtOf s.engine.approval with _ | expiresAt <;> simp only [hx] at hok
      · cases hok.1
      · simpa only [Sys.setProc_approval, hx, Owes] using hok
  rcases step_chain_view he with ⟨p, tok, rfl, hp, hn, ha, hq⟩ | ⟨hexp, hq⟩
  · have hnone : ChainOk s hd := hok
    simp only [ChainOk, expiresAtOf, hn, Option.map_none'] at hnone
    obtain ⟨rfl, hruns⟩ := hnone
    refine ⟨.registering p, ⟨?_, fun q => ?_, hh.workers⟩, ?_⟩
    · simpa [hj, Holder.jobs] using hh.jobs
    · simp [hq q, hh.registering q, Holder.isRegistering]
    · have := secondsBefore_first_job hnow
      simp only [ChainOk, ha, expiresAtOf, Option.map_some', newApproval, Owes, hruns]
      unfold countdownRunsBound APPROVAL_TTL_MS at *
      omega
  · have hkeep : ∀ q, (s.engine.procs q).startsCountdown = false →
        (e'.procs q).startsCountdown = false :=
      fun q h0 => Bool.eq_false_iff.2 fun h1 => by simp [hq q h1] at h0
    have hjobs : (if startsCountdownJob s.engine a = true then
        s.pending ++ [⟨s.engine.now + APPROVAL_COUNTDOWN_INTERVAL_MS, 0⟩] else s.pending) =
          s.pending :=
      if_neg hj
    have hchain : ∀ {h'}, ChainOk s h' → ChainOk { s with engine := e', pending := s.pending } h' :=
      fun ho => ho.of_expiresAtOf hexp rfl rfl hnow
    rw [hjobs]
    cases hd with
    | registering p =>
      have hother : ∀ q, q ≠ p → (e'.procs q).startsCountdown = false := fun q hqp =>
        hkeep q (by simp [hh.registering q, Holder.isRegistering, hqp])
      by_cases hp' : (e'.procs p).startsCountdown = true
      · refine ⟨.registering p, ⟨hh.jobs, fun q => ?_, hh.workers⟩, hchain hok⟩
        by_cases hqp : q = p
        · simp [hqp, hp', Holder.isRegistering]
        · simp [hother q hqp, Holder.isRegistering, hqp]
      · refine ⟨.none, ⟨hh.jobs, fun q => ?_, hh.workers⟩, hchain hok.drop_registering⟩
        by_cases hqp : q = p
        · simpa [hqp, Holder.isRegistering] using hp'
        · simp [hother q hqp, Holder.isRegistering]
    | _ =>
      refine ⟨_, ⟨hh.jobs, fun q => ?_, hh.workers⟩, hchain hok⟩
      rw [hkeep q (by simp [hh.registering q, Holder.isRegistering])]
      rfl

theorem CountdownInv.recordPrompt {s s' : CountdownSys} {m : Int} (hi : CountdownInv s)
    (h : countdownStep s (.recordPrompt m) = some s') : CountdownInv s' := by
  cases h
  refine ⟨fun h0 => ?_, fun v a t hv => ?_⟩
  · obtain ⟨hd, hh, hok⟩ := hi.chain h0
    exact ⟨hd, ⟨hh.jobs, hh.registering, hh.workers⟩,
      hok.of_expiresAtOf (expiresAtOf_promptMessage _ _) rfl rfl le_rfl⟩
  · obtain ⟨h1, h2, h3, h4⟩ := hi.checked v a t hv
    exact ⟨h1, h2, h3, by simpa using h4⟩

theorem CountdownInv.fire {s s' : CountdownSys} {w : Nat} {job : CountdownJob}
    (hi : CountdownInv s) (h : countdownStep s (.fire w job) = some s') : CountdownInv s' := by
  simp only [countdownStep] at h
  split_ifs at h with hc
  cases h
  obtain ⟨hfree, hmem, hle⟩ := hc
  refine ⟨fun h0 => ?_, fun v a t hv => ?_⟩
  obtain ⟨hd, hh, hok⟩ := hi.chain h0
  obtain rfl : hd = .pending job := by
    rw [hh.jobs] at hmem
    cases hd <;> simp_all [Holder.jobs]
  refine ⟨.worker w, ⟨by simp [hh.jobs, Holder.jobs], hh.registering, fun v => ?_⟩, ?_⟩
  · by_cases hv : v = w
    · simp [hv, CountdownPc.active, CountdownPc.free, Holder.isWorker]
    · simp [hv, hh.workers v, Holder.isWorker]
  · unfold ChainOk at hok ⊢
    rcases hx : expiresAtOf s.engine.approval with _ | expiresAt <;>
      simp only [hx, CountdownSys.setWorker_engine] at hok ⊢
    · cases hok.1
    · simp only [Owes, WorkerOwes, CountdownSys.setWorker_workers, if_true] at hok ⊢
      have := secondsBefore_anti expiresAt hle
      omega
  · by_cases hvw : v = w
    · simp [hvw] at hv
    · simp only [CountdownSys.setWorker_workers, hvw, if_false] at hv
      exact hi.checked v a t hv

theorem CountdownInv.setWorker {s : CountdownSys} {w : Nat} {x : CountdownPc}
    (hi : CountdownInv s) (hw : (s.workers w).active = true)
    (hx : ∀ expiresAt, expiresAtOf s.engine.approval = some expiresAt →
      WorkerOwes s.runs s.engine.now expiresAt (s.workers w) →
        x.active = true → WorkerOwes s.runs s.engine.now expiresAt x)
    (hc : ∀ a t, (x = .editing a t ∨ x = .enqueuing a t) →
      a.status = .requested ∧ hasPromptMessage a = true ∧ t < a.expiresAt ∧
        expiresAtOf s.engine.approval = some a.expiresAt) :
    CountdownInv (s.setWorker w x) := by
  refine ⟨fun h0 => ?_, fun v a t hv => ?_⟩
  swap
  · by_cases hvw : v = w
    · simp only [hvw, CountdownSys.setWorker_workers, if_true] at hv
      exact hc a t hv
    · simp only [CountdownSys.setWorker_workers, hvw, if_false] at hv
      exact hi.checked v a t hv
  obtain ⟨hd, hh, hok⟩ := hi.chain h0
  obtain rfl := Holder.eq_of_isWorker ((hh.workers w).symm.trans hw)
  have hother : ∀ v, v ≠ w → (s.workers v).active = false := fun v hv => by
    simp [hh.workers v, Holder.isWorker, hv]
  refine ⟨if x.active then .worker w else .none, ⟨?_, ?_, fun v => ?_⟩, ?_⟩
  · split_ifs <;> simpa [Holder.jobs] using hh.jobs
  · split_ifs <;> simpa [Holder.isRegistering] using hh.registering
  · by_cases hv : v = w
    · subst hv
      split_ifs with ha <;> simp [ha, Holder.isWorker]
    · split_ifs <;> simp [hv, hother v hv, Holder.isWorker]
  · unfold ChainOk at hok ⊢
    rcases hx' : expiresAtOf s.engine.approval with _ | expiresAt <;>
      simp only [hx', CountdownSys.setWorker_engine] at hok ⊢
    · cases hok.1
    · simp only [Owes, CountdownSys.setWorker_workers, if_true, CountdownSys.setWorker_runs] at hok
      split_ifs with ha
      · simpa only [Owes, CountdownSys.setWorker_workers, if_true] using hx _ hx' hok ha
      · exact hok.runs_le

theorem countdownRead_cases (t : Option ToolApproval) (now : Nat) :
    countdownRead t now = .returned ∨ ∃ a, t = some a ∧ a.status = .requested ∧
      hasPromptMessage a = true ∧ now < a.expiresAt ∧ countdownRead t now = .editing a now := by
  unfold countdownRead
  rcases t with _ | a
  · exact .inl rfl
  · by_cases h : a.status = .requested ∧ hasPromptMessage a = true ∧ now < a.expiresAt
    · exact .inr ⟨a, rfl, h.1, h.2.1, h.2.2, if_pos h⟩
    · exact .inl (if_neg h)

theorem CountdownInv.advance {s s' : CountdownSys} {w : Nat} {ok : Bool} (hi : CountdownInv s)
    (h : countdownStep s (.advance w ok) = some s') : CountdownInv s' := by
  have hend : ∀ {x : CountdownPc}, x.active = false → (s.workers w).active = true →
      CountdownInv (s.setWorker w x) := fun hx hw =>
    hi.setWorker hw (fun _ _ _ h => by rw [hx] at h; cases h)
      (fun _ _ h => by rcases h with rfl | rfl <;> cases hx)
  simp only [countdownStep] at h
  split at h
  · rename_i hw
    cases h
    have hact : (s.workers w).active = true := by simp [hw, CountdownPc.active, CountdownPc.free]
    cases ok
    · exact hend rfl hact
    rcases countdownRead_cases s.engine.approval s.engine.now with hr | ⟨a, ha, hs, hpm, hlt, hr⟩ <;>
      simp only [if_true, hr]
    · exact hend rfl hact
    refine hi.setWorker hact (fun E hE ho _ => ?_) (fun a' t hx => ?_)
    · simp only [ha, expiresAtOf, Option.map_some', Option.some.injEq] at hE
      subst hE
      simp only [hw, WorkerOwes, true_and] at ho ⊢
      have := secondsBefore_go_on hlt
      exact ⟨hlt, le_rfl, by omega⟩
    · rcases hx with hx | hx <;> cases hx
      exact ⟨hs, hpm, hlt, by rw [ha]; rfl⟩
  · rename_i a t hw
    cases h
    have hact : (s.workers w).active = true := by simp [hw, CountdownPc.active, CountdownPc.free]
    refine hi.setWorker hact (fun E _ ho _ => ?_) (fun a' t' hx => ?_)
    · simpa only [hw, WorkerOwes] using ho
    · rcases hx with hx | hx <;> cases hx
      exact hi.checked w a t (.inl hw)
  · rename_i a t hw
    have hact : (s.workers w).active = true := by simp [hw, CountdownPc.active, CountdownPc.free]
    cases ok
    · cases h
      exact hend rfl hact
    simp only [if_true, Option.some.injEq] at h
    subst h
    refine ⟨fun h0 => ?_, fun v a' t' hv => ?_⟩
    swap
    · by_cases hvw : v = w
      · simp [hvw] at hv
      · simp only [CountdownSys.setWorker_workers, hvw, if_false] at hv
        exact hi.checked v a' t' hv
    obtain ⟨hd, hh, hok⟩ := hi.chain h0
    obtain rfl := Holder.eq_of_isWorker ((hh.workers w).symm.trans hact)
    refine ⟨.pending ⟨s.engine.now + countdownDelay a.expiresAt t, 0⟩,
      ⟨by simp [hh.jobs, Holder.jobs], hh.registering, fun v => ?_⟩, ?_⟩
    · by_cases hv : v = w
      · simp [hv, CountdownPc.active, CountdownPc.free, Holder.isWorker]
      · simp [hv, hh.workers v, Holder.isWorker]
    · unfold ChainOk at hok ⊢
      rcases hx : expiresAtOf s.engine.approval with _ | expiresAt <;>
        simp only [hx, CountdownSys.setWorker_engine] at hok ⊢
      · cases hok.1
      · simp only [Owes, hw, WorkerOwes, CountdownSys.setWorker_runs] at hok ⊢
        obtain ⟨hE, -, hle, hb⟩ := hok
        have := secondsBefore_anti expiresAt
          (show t + 1000 ≤ s.engine.now + countdownDelay a.expiresAt t from
            Nat.add_le_add hle (countdownDelay_ge _ _))
        omega
  · cases h

theorem CountdownInv.stall {s s' : CountdownSys} {w : Nat} (hi : CountdownInv s)
    (h : countdownStep s (.stall w) = some s') : CountdownInv s' := by
  simp only [countdownStep] at h
  split at h
  · split_ifs at h <;> cases h <;>
      exact ⟨fun h0 => absurd h0 (Nat.succ_ne_zero _), hi.checked⟩
  · cases h

/-! ## Over every schedule -/

theorem countdownInv_init : CountdownInv CountdownSys.init :=
  ⟨fun _ => ⟨.none, ⟨rfl, fun _ => rfl, fun _ => rfl⟩, ⟨rfl, rfl⟩⟩,
    fun _ _ _ h => by rcases h with h | h <;> cases h⟩

theorem CountdownInv.step {s s' : CountdownSys} {a : CountdownAction} (hi : CountdownInv s)
    (h : countdownStep s a = some s') : CountdownInv s' := by
  cases a with
  | engine a => exact hi.engine h
  | recordPrompt m => exact hi.recordPrompt h
  | fire w job => exact hi.fire h
  | advance w ok => exact hi.advance h
  | stall w => exact hi.stall h

theorem countdownInv_reachable {s : CountdownSys}
    (h : Reachable CountdownSys.init countdownStep s) : CountdownInv s :=
  Reachable.invariant CountdownInv countdownInv_init (fun _ _ _ hi hs => hi.step hs) h

theorem CountdownInv.pending_length_le {s : CountdownSys} (hi : CountdownInv s)
    (h0 : s.stalls = 0) : s.pending.length ≤ 1 := by
  obtain ⟨h, hh, -⟩ := hi.chain h0
  rw [hh.jobs]
  cases h <;> simp [Holder.jobs]

theorem CountdownInv.runs_le {s : CountdownSys} (hi : CountdownInv s) (h0 : s.stalls = 0) :
    s.runs ≤ countdownRunsBound := by
  obtain ⟨h, -, hok⟩ := hi.chain h0
  unfold ChainOk at hok
  rcases hx : expiresAtOf s.engine.approval with _ | expiresAt <;> simp only [hx] at hok
  · omega
  · cases h with
    | worker w => exact WorkerOwes.runs_le hok
    | _ => simp only [Owes] at hok; omega

theorem countdownStep_pending {s s' : CountdownSys} {a : CountdownAction}
    (h : countdownStep s a = some s') :
    s'.pending.length ≤ s.pending.length ∨
      (∃ p, a = .engine (.advance p true) ∧ s.engine.procs p = .register .enqueueCountdown ∧
        s'.pending = s.pending ++ [⟨s.engine.now + APPROVAL_COUNTDOWN_INTERVAL_MS, 0⟩]) ∨
      (∃ w r t, a = .advance w true ∧ s.workers w = .enqueuing r t ∧
        s'.pending = s.pending ++ [⟨s.engine.now + countdownDelay r.expiresAt t, 0⟩] ∧
        s'.workers w = .returned) ∨
      (∃ w job, a = .stall w ∧ s.locks w = some job ∧ job.stalledCounter < maxStalledCount ∧
        s'.pending = s.pending ++ [{ job with stalledCounter := job.stalledCounter + 1 }] ∧
        s'.stalls = s.stalls + 1) := by
  cases a with
  | engine a =>
    obtain ⟨e', he, rfl⟩ := Option.map_eq_some'.mp h
    by_cases hj : startsCountdownJob s.engine a = true
    · obtain ⟨p, hp, -⟩ := step_of_startsCountdownJob hj he
      cases a with
      | advance q ok =>
        cases ok
        · cases hj
        · simp only [startsCountdownJob, decide_eq_true_eq] at hj
          exact .inr (.inl ⟨q, rfl, hj, by simp [startsCountdownJob, hj]⟩)
      | _ => cases hj
    · exact .inl (by simp [hj])
  | recordPrompt m => cases h; exact .inl le_rfl
  | fire w job =>
    simp only [countdownStep] at h
    split_ifs at h
    cases h
    exact .inl (List.length_erase_le _ _)
  | advance w ok =>
    simp only [countdownStep] at h
    split at h
    all_goals first | (cases h; exact .inl le_rfl) | skip
    · rename_i r t hw
      cases ok
      · cases h; exact .inl le_rfl
      · simp only [if_true, Option.some.injEq] at h
        subst h
        exact .inr (.inr (.inl ⟨w, r, t, rfl, hw, rfl, by simp⟩))
    · cases h
  | stall w =>
    simp only [countdownStep] at h
    split at h
    · rename_i job hj
      split_ifs at h with hf hc <;> cases h
      · exact .inr (.inr (.inr ⟨w, job, rfl, hj, hc, rfl, rfl⟩))
      · exact .inl le_rfl
    · cases h

/-- Over every schedule of the approval-countdowns queue beside every run of the approval
engine, BullMQ's redelivery of stalled jobs included: a step adds a job only as the
registration's first, 30 s out; as the one successor of a run, which read the requested
approval with a card and time left, is delayed by `min(30 s, max(1 s, expiresAt - now))`
and ends the run; or as a job whose run stalled, put back once. While no job has stalled,
at most one countdown job of the approval waits and the chain has made at most (TTL in
seconds) + 1 runs. -/
theorem countdown_chain_bounded {s : CountdownSys}
    (hs : Reachable CountdownSys.init countdownStep s) :
    (s.stalls = 0 → s.pending.length ≤ 1 ∧ s.runs ≤ APPROVAL_TTL_MS / 1000 + 1) ∧
    ∀ a s', countdownStep s a = some s' → s'.pending.length ≤ s.pending.length ∨
      (∃ p, a = .engine (.advance p true) ∧ s.engine.procs p = .register .enqueueCountdown ∧
        s'.pending = s.pending ++ [⟨s.engine.now + APPROVAL_COUNTDOWN_INTERVAL_MS, 0⟩]) ∨
      (∃ w r t, a = .advance w true ∧ s.workers w = .enqueuing r t ∧
        expiresAtOf s.engine.approval = some r.expiresAt ∧
        r.status = .requested ∧ hasPromptMessage r = true ∧ t < r.expiresAt ∧
        s'.pending = s.pending ++ [⟨s.engine.now + countdownDelay r.expiresAt t, 0⟩] ∧
        s'.workers w = .returned) ∨
      (∃ w job, a = .stall w ∧ s.locks w = some job ∧ job.stalledCounter < maxStalledCount ∧
        s'.pending = s.pending ++ [{ job with stalledCounter := job.stalledCounter + 1 }] ∧
        s'.stalls = s.stalls + 1) := by
  have hi := countdownInv_reachable hs
  refine ⟨fun h0 => ⟨hi.pending_length_le h0, hi.runs_le h0⟩, fun a s' h => ?_⟩
  rcases countdownStep_pending h with hle | hreg | ⟨w, r, t, ha, hw, hp, hr⟩ | hstall
  · exact .inl hle
  · exact .inr (.inl hreg)
  · obtain ⟨hst, hpm, hlt, hexp⟩ := hi.checked w r t (.inr hw)
    exact .inr (.inr (.inl ⟨w, r, t, ha, hw, hexp, hst, hpm, hlt, hp, hr⟩))
  · exact .inr (.inr (.inr hstall))

def firstCountdownRun : List CountdownAction :=
  [.engine (.register 0 "tok"), .engine (.advance 0 true), .engine (.advance 0 true),
    .engine (.advance 0 true), .recordPrompt 42, .engine (.tick 30000), .fire 0 ⟨30000, 0⟩,
    .advance 0 true, .advance 0 true, .advance 0 true]

theorem first_countdown_run_adds_next :
    ∃ s, Reachable CountdownSys.init countdownStep s ∧
      (s.pending, s.runs, s.stalls) = ([⟨60000, 0⟩], 1, 0) ∧
      s.pending.length ≤ 1 ∧ s.runs ≤ APPROVAL_TTL_MS / 1000 + 1 := by
  obtain ⟨s, hs, hv⟩ := exists_reachable_of_run_view CountdownSys.init countdownStep
    (fun s => (s.pending, s.runs, s.stalls)) firstCountdownRun (v := ([⟨60000, 0⟩], 1, 0))
    (by decide)
  exact ⟨s, hs, hv, (countdown_chain_bounded hs).1 (congrArg (fun v => v.2.2) hv)⟩

/-- The same card, whose first run stalls after its read: BullMQ puts the job back, a second
slot runs it, and both runs go on to add their next job. -/
def stalledCountdownRun : List CountdownAction :=
  [.engine (.register 0 "tok"), .engine (.advance 0 true), .engine (.advance 0 true),
    .engine (.advance 0 true), .recordPrompt 42, .engine (.tick 30000), .fire 0 ⟨30000, 0⟩,
    .advance 0 true, .stall 0, .fire 1 ⟨30000, 1⟩, .advance 1 true, .advance 0 true,
    .advance 0 true, .advance 1 true, .advance 1 true]

theorem stalled_countdown_leaves_two_jobs :
    ∃ s, Reachable CountdownSys.init countdownStep s ∧
      (s.pending, s.runs, s.stalls) = ([⟨60000, 0⟩, ⟨60000, 0⟩], 2, 1) :=
  exists_reachable_of_run_view CountdownSys.init countdownStep
    (fun s => (s.pending, s.runs, s.stalls)) stalledCountdownRun (by decide)

/-! ## Each stall adds at most one job

A stall puts a job back while its run may go on, so the chain can fork. What carries the
chain is counted: the jobs that wait, the runs under way and the registration before its
first job. A step other than a stall never adds to the count, and a stall adds at most one. -/

/-- The runs under way `ws` and the registrations before their first job `ps`, with the jobs
that wait, number at most one more than the stalls so far, and none before the row is
inserted. -/
structure Carriers (s : CountdownSys) (ws ps : Finset Nat) : Prop where
  workers : ∀ w, (s.workers w).active = true ↔ w ∈ ws
  registering : ∀ p, (s.engine.procs p).startsCountdown = true ↔ p ∈ ps
  bound : s.pending.length + ws.card + ps.card ≤ 1 + s.stalls
  fresh : expiresAtOf s.engine.approval = none → s.pending.length + ws.card + ps.card = 0

theorem Carriers.of_le {s s' : CountdownSys} {ws ps ws' ps' : Finset Nat} (hc : Carriers s ws ps)
    (hw : ∀ w, (s'.workers w).active = true ↔ w ∈ ws')
    (hp : ∀ p, (s'.engine.procs p).startsCountdown = true ↔ p ∈ ps')
    (hle : s'.pending.length + ws'.card + ps'.card ≤ s.pending.length + ws.card + ps.card)
    (hexp : expiresAtOf s'.engine.approval = expiresAtOf s.engine.approval)
    (hst : s'.stalls = s.stalls) : Carriers s' ws' ps' :=
  ⟨hw, hp, by have := hc.bound; omega, fun h => by have := hc.fresh (hexp ▸ h); omega⟩

theorem Carriers.setWorker {s : CountdownSys} {ws ps : Finset Nat} {w : Nat} {x : CountdownPc}
    (hc : Carriers s ws ps) (hw : (s.workers w).active = true) :
    Carriers (s.setWorker w x) (if x.active then ws else ws.erase w) ps := by
  have hmem := (hc.workers w).1 hw
  refine hc.of_le (fun v => ?_) hc.registering ?_ rfl rfl
  · by_cases hv : v = w
    · subst hv
      split_ifs with ha <;> simp [ha, hmem]
    · split_ifs <;> simp [hv, hc.workers v]
  · have := Finset.card_pos.2 ⟨w, hmem⟩
    split_ifs <;> simp only [CountdownSys.setWorker_pending, Finset.card_erase_of_mem hmem] <;>
      omega

theorem Carriers.engine {s s' : CountdownSys} {ws ps : Finset Nat} {a : Action}
    (hc : Carriers s ws ps) (h : countdownStep s (.engine a) = some s') :
    ∃ ps', Carriers s' ws ps' := by
  obtain ⟨e', he, rfl⟩ := Option.map_eq_some'.mp h
  by_cases hj : startsCountdownJob s.engine a = true
  · -- the first job replaces the registration that adds it
    obtain ⟨p, hp, rfl⟩ := step_of_startsCountdownJob hj he
    have hmem : p ∈ ps := (hc.registering p).1 (by simp [hp, Proc.startsCountdown])
    refine ⟨ps.erase p, hc.of_le hc.workers (fun q => ?_) ?_ (by simp) rfl⟩
    · by_cases hq : q = p
      · simp [hq, Proc.startsCountdown]
      · simp [hq, hc.registering q]
    · have := Finset.card_pos.2 ⟨p, hmem⟩
      simp only [hj, if_true, List.length_append, List.length_singleton,
        Finset.card_erase_of_mem hmem]
      omega
  rcases step_chain_view he with ⟨p, tok, rfl, -, hn, ha, hq⟩ | ⟨hexp, hq⟩
  · -- the insert of the row: nothing carried the chain before it
    have h0 := hc.fresh (by simp [expiresAtOf, hn])
    have hps : ps = ∅ := Finset.card_eq_zero.1 (by omega)
    refine ⟨{p}, hc.workers, fun q => ?_, ?_, fun hn' => by simp [ha, expiresAtOf] at hn'⟩
    · simp [hq q, hc.registering q, hps]
    · simp only [hj, Bool.false_eq_true, if_false, Finset.card_singleton]
      omega
  · refine ⟨ps.filter fun q => (e'.procs q).startsCountdown, hc.of_le hc.workers (fun q => ?_) ?_
      hexp rfl⟩
    · rw [Finset.mem_filter, ← hc.registering q]
      exact ⟨fun h1 => ⟨hq q h1, h1⟩, And.right⟩
    · have := Finset.card_filter_le ps fun q => (e'.procs q).startsCountdown = true
      simp only [hj, Bool.false_eq_true, if_false]
      omega

theorem Carriers.fire {s s' : CountdownSys} {ws ps : Finset Nat} {w : Nat} {job : CountdownJob}
    (hc : Carriers s ws ps) (h : countdownStep s (.fire w job) = some s') :
    Carriers s' (insert w ws) ps := by
  simp only [countdownStep] at h
  split_ifs at h with hf
  cases h
  obtain ⟨hfree, hmem, -⟩ := hf
  have hw : w ∉ ws := fun hw => by
    simpa [CountdownPc.active, hfree] using (hc.workers w).2 hw
  refine hc.of_le (fun v => ?_) hc.registering ?_ rfl rfl
  · by_cases hv : v = w
    · simp [hv, CountdownPc.active, CountdownPc.free]
    · simp [hv, hc.workers v]
  · have := List.length_pos_of_mem hmem
    simp only [List.length_erase_of_mem hmem, Finset.card_insert_of_not_mem hw]
    omega

theorem Carriers.advance {s s' : CountdownSys} {ws ps : Finset Nat} {w : Nat} {ok : Bool}
    (hc : Carriers s ws ps) (h : countdownStep s (.advance w ok) = some s') :
    ∃ ws', Carriers s' ws' ps := by
  have hact : ∀ {x : CountdownPc}, s.workers w = x → x.free = false →
      (s.workers w).active = true := fun hx hf => by simp [hx, CountdownPc.active, hf]
  simp only [countdownStep] at h
  split at h
  · rename_i hw
    cases h
    exact ⟨_, hc.setWorker (hact hw rfl)⟩
  · rename_i hw
    cases h
    exact ⟨_, hc.setWorker (hact hw rfl)⟩
  · rename_i a t hw
    cases ok
    · cases h
      exact ⟨_, hc.setWorker (hact hw rfl)⟩
    -- the run ends and its next job waits in its place
    simp only [if_true, Option.some.injEq] at h
    subst h
    have hmem := (hc.workers w).1 (hact hw rfl)
    have hr := hc.setWorker (x := .returned) (hact hw rfl)
    refine ⟨_, hc.of_le hr.workers hc.registering ?_ rfl rfl⟩
    have := Finset.card_pos.2 ⟨w, hmem⟩
    simp only [CountdownPc.active, CountdownPc.free, Bool.not_true, Bool.false_eq_true, if_false,
      List.length_append, List.length_singleton, Finset.card_erase_of_mem hmem]
    omega
  · cases h

theorem Carriers.stall {s s' : CountdownSys} {ws ps : Finset Nat} {w : Nat}
    (hc : Carriers s ws ps) (h : countdownStep s (.stall w) = some s') : Carriers s' ws ps := by
  simp only [countdownStep] at h
  split at h
  · split at h
    · rename_i hf
      cases h
      have hmem : w ∈ ws := (hc.workers w).1 (by simp [CountdownPc.active, hf])
      refine ⟨hc.workers, hc.registering, ?_, fun hn => ?_⟩
      · have := hc.bound
        split_ifs <;> simp only [List.length_append, List.length_singleton] <;> omega
      · have := hc.fresh hn
        have := Finset.card_pos.2 ⟨w, hmem⟩
        omega
    · cases h
  · cases h

theorem Carriers.step {s s' : CountdownSys} {ws ps : Finset Nat} {a : CountdownAction}
    (hc : Carriers s ws ps) (h : countdownStep s a = some s') : ∃ ws' ps', Carriers s' ws' ps' := by
  cases a with
  | engine a => exact (hc.engine h).elim fun ps' h' => ⟨ws, ps', h'⟩
  | recordPrompt m =>
    cases h
    exact ⟨ws, ps, hc.of_le hc.workers hc.registering le_rfl (expiresAtOf_promptMessage _ _) rfl⟩
  | fire w job => exact ⟨_, ps, hc.fire h⟩
  | advance w ok => exact (hc.advance h).elim fun ws' h' => ⟨ws', ps, h'⟩
  | stall w => exact ⟨ws, ps, hc.stall h⟩

/-- Over every schedule of the approval-countdowns queue beside every run of the approval
engine, stalls included, the countdown jobs of the approval that wait and the runs of the
countdown worker under way number at most one more than the stalls BullMQ found so far. -/
theorem countdown_jobs_within_stalls {s : CountdownSys}
    (hs : Reachable CountdownSys.init countdownStep s) :
    ∃ ws : Finset Nat, (∀ w, (s.workers w).active = true ↔ w ∈ ws) ∧
      s.pending.length + ws.card ≤ 1 + s.stalls := by
  obtain ⟨ws, ps, hc⟩ := hs.invariant (fun s => ∃ ws ps, Carriers s ws ps)
    ⟨∅, ∅, fun _ => by simp [CountdownSys.init, CountdownPc.active, CountdownPc.free],
      fun _ => by simp [CountdownSys.init, Sys.init, Proc.startsCountdown], by simp [CountdownSys.init],
      fun _ => by simp [CountdownSys.init]⟩
    fun _ _ _ ⟨_, _, hc⟩ h => hc.step h
  exact ⟨ws, hc.workers, by have := hc.bound; omega⟩

theorem stalled_countdown_reaches_bound :
    ∃ s, Reachable CountdownSys.init countdownStep s ∧ (s.pending.length, s.stalls) = (2, 1) ∧
      ∃ ws : Finset Nat, (∀ w, (s.workers w).active = true ↔ w ∈ ws) ∧
        s.pending.length + ws.card ≤ 1 + s.stalls := by
  obtain ⟨s, hs, hv⟩ := exists_reachable_of_run_view CountdownSys.init countdownStep
    (fun s => (s.pending.length, s.stalls)) stalledCountdownRun (v := (2, 1)) (by decide)
  exact ⟨s, hs, hv, countdown_jobs_within_stalls hs⟩

end ton_agent_bot.approvals
