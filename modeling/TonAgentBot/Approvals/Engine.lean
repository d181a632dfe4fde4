-- The approval engine under any interleaving: calls of registerApprovalRequests and of
-- decideApproval, and runs of the approval-timeout worker, each a process that stops at
-- every `await`. The status and the approval.* audit events of one approval are what
-- the laws of Engine and of the modules after it are about.
import TonAgentBot.Approvals.Store

namespace ton_agent_bot.approvals

/-! ## The processes -/

/-- `APPROVAL_TTL_MS` of the approval service. -/
def APPROVAL_TTL_MS : Nat := 5 * 60 * 1000

/-- What a `decideApproval` call is asked to do. -/
structure DecideInput where
  approved : Bool
  decidedBy : String
  reason : Option String
  deriving DecidableEq, Repr

/-- What `decideApproval` returns: `ok`, the text of a refusal, the approval row. -/
structure Decision where
  ok : Bool
  reason : Option String
  approval : Option ToolApproval
  deriving DecidableEq, Repr

/-- Where a `decideApproval` call stands: at one of its `await`s, or finished. -/
inductive DecidePc
  | read
  | expiring (current : ToolApproval)
  | writing (current : ToolApproval)
  | auditing (current : ToolApproval) (updated : Option ToolApproval)
  | returned (d : Decision)
  | threw
  deriving DecidableEq, Repr

/-- Where a run of the approval-timeout worker stands. -/
inductive TimeoutPc
  | read
  | expiring (approval : ToolApproval)
  | auditing (expired : Option ToolApproval)
  | returned
  | threw
  deriving DecidableEq, Repr

/-- Where `registerApprovalRequests` stands for this approval's part. -/
inductive RegisterPc
  | create (callbackToken : String)
  | enqueueTimeout
  | enqueueCountdown
  | auditing
  | returned
  | threw
  deriving DecidableEq, Repr

inductive Proc
  | idle
  | decide (input : DecideInput) (pc : DecidePc)
  | timeout (pc : TimeoutPc)
  | register (pc : RegisterPc)
  deriving DecidableEq, Repr

/-- The delayed job `approval-expire-<approvalId>`: when it is due, and whether a worker
has taken it. -/
structure TimeoutJob where
  due : Nat
  taken : Bool
  deriving DecidableEq, Repr

structure Sys where
  now : Nat
  approval : Option ToolApproval
  timeoutJob : Option TimeoutJob
  events : List AuditEvent
  procs : Nat → Proc

def Sys.setProc (s : Sys) (p : Nat) (x : Proc) : Sys :=
  { s with procs := fun q => if q = p then x else s.procs q }

@[simp] theorem Sys.setProc_now (s : Sys) (p : Nat) (x : Proc) : (s.setProc p x).now = s.now := rfl
@[simp] theorem Sys.setProc_approval (s : Sys) (p : Nat) (x : Proc) :
    (s.setProc p x).approval = s.approval := rfl
@[simp] theorem Sys.setProc_timeoutJob (s : Sys) (p : Nat) (x : Proc) :
    (s.setProc p x).timeoutJob = s.timeoutJob := rfl
@[simp] theorem Sys.setProc_events (s : Sys) (p : Nat) (x : Proc) :
    (s.setProc p x).events = s.events := rfl
@[simp] theorem Sys.setProc_procs (s : Sys) (p q : Nat) (x : Proc) :
    (s.setProc p x).procs q = if q = p then x else s.procs q := rfl

def Sys.init : Sys := ⟨0, none, none, [], fun _ => .idle⟩

/-! ## One statement of each function -/

/-- The audit events the three functions append. -/
def requestedEvent : AuditEvent := ⟨"system", "agent", "approval.requested"⟩
def decidedEvent (decidedBy : String) : AuditEvent :=
  ⟨"telegram_user", decidedBy, "approval.decided"⟩
def expiredEvent : AuditEvent := ⟨"system", "approval-timeout-worker", "approval.expired"⟩

/-- What `decideApproval` does with the row that `getToolApproval` read. -/
def decideRead (t : Option ToolApproval) (now : Nat) : DecidePc :=
  match t with
  | none => .returned ⟨false, some "Approval not found.", none⟩
  | some cur =>
    if cur.status ≠ .requested then
      .returned ⟨false, some ("Approval already " ++ cur.status.text ++ "."), none⟩
    else if cur.expiresAt < now then .expiring cur
    else .writing cur

/-- The statement a `decideApproval` call runs next (part_006, lines 110-166): what it
writes, and where the call goes on when the statement does not throw. -/
def decideNext (s : Sys) (i : DecideInput) : DecidePc → Option (Sys × DecidePc)
  | .read => some (s, decideRead s.approval s.now)
  | .expiring _ =>
    some ({ s with approval := (expirePendingApproval s.approval s.now).1 },
      .returned ⟨false, some "Approval already expired.", none⟩)
  | .writing cur =>
    let updated := updateToolApprovalDecision s.approval
      (if i.approved then .approved else .denied) i.decidedBy i.reason s.now
    some ({ s with approval := updated }, .auditing cur updated)
  | .auditing cur updated =>
    some ({ s with events := s.events ++ [decidedEvent i.decidedBy] },
      .returned ⟨true, none, some (updated.getD cur)⟩)
  | .returned _ => none
  | .threw => none

/-- What the timeout worker does with the row it read: go on only while the approval is
requested and `expiresAt` is not after now. -/
def timeoutRead (t : Option ToolApproval) (now : Nat) : TimeoutPc :=
  match t with
  | some a => if a.status = .requested ∧ a.expiresAt ≤ now then .expiring a else .returned
  | none => .returned

/-- The statement a run of `createApprovalTimeoutWorker` takes next
(approval-countdown-worker.ts, lines 77-140). The card edit and the notice after the
audit write nothing that is modelled. -/
def timeoutNext (s : Sys) : TimeoutPc → Option (Sys × TimeoutPc)
  | .read => some (s, timeoutRead s.approval s.now)
  | .expiring _ =>
    some ({ s with approval := (expirePendingApproval s.approval s.now).1 },
      .auditing (expirePendingApproval s.approval s.now).2)
  | .auditing _ => some ({ s with events := s.events ++ [expiredEvent] }, .returned)
  | .returned => none
  | .threw => none

/-- The row `registerApprovalRequests` inserts. -/
def newApproval (callbackToken : String) (now : Nat) : ToolApproval :=
  ⟨callbackToken, .requested, now + APPROVAL_TTL_MS, none, none, none, none⟩

/-- `approvalTimeoutQueue.add` with the job id `approval-expire-<approvalId>`: a no-op
while a job with that id is in the queue. -/
def addTimeoutJob (j : Option TimeoutJob) (due : Nat) : Option TimeoutJob :=
  j.orElse fun _ => some ⟨due, false⟩

/-- The statement `registerApprovalRequests` runs next for this approval's part
(part_006, lines 63-104): insert, schedule the expiry, schedule the countdown, audit. An
insert that meets the primary key throws. -/
def registerNext (s : Sys) : RegisterPc → Option (Sys × RegisterPc)
  | .create token =>
    match createToolApproval s.approval (newApproval token s.now) with
    | some r => some ({ s with approval := some r }, .enqueueTimeout)
    | none => some (s, .threw)
  | .enqueueTimeout =>
    some ({ s with timeoutJob := addTimeoutJob s.timeoutJob (s.now + APPROVAL_TTL_MS) },
      .enqueueCountdown)
  | .enqueueCountdown => some (s, .auditing)
  | .auditing => some ({ s with events := s.events ++ [requestedEvent] }, .returned)
  | .returned => none
  | .threw => none

def Sys.advanceWith {π : Type} (s : Sys) (p : Nat) (wrap : π → Proc) (threw : π)
    (next : Option (Sys × π)) (ok : Bool) : Option Sys :=
  next.map fun r => if ok then r.1.setProc p (wrap r.2) else s.setProc p (wrap threw)

/-! ## The system -/

inductive Action
  | register (p : Nat) (callbackToken : String)
  | decide (p : Nat) (input : DecideInput)
  | fireTimeout (p : Nat)
  | advance (p : Nat) (ok : Bool)
  | evictTimeoutJob
  | tick (ms : Nat)
  deriving DecidableEq, Repr

/-- One step: a new call on an idle process, the timeout job handed to a worker once it
is due, one statement of a running process, the queue dropping a finished job, or time
passing. -/
def step (s : Sys) : Action → Option Sys
  | .register p token =>
    if s.procs p = .idle then some (s.setProc p (.register (.create token))) else none
  | .decide p i => if s.procs p = .idle then some (s.setProc p (.decide i .read)) else none
  | .fireTimeout p =>
    match s.timeoutJob with
    | some j =>
      if s.procs p = .idle ∧ !j.taken ∧ j.due ≤ s.now then
        some { s.setProc p (.timeout .read) with timeoutJob := some { j with taken := true } }
      else none
    | none => none
  | .advance p ok =>
    match s.procs p with
    | .idle => none
    | .decide i pc => s.advanceWith p (.decide i) .threw (decideNext s i pc) ok
    | .timeout pc => s.advanceWith p .timeout .threw (timeoutNext s pc) ok
    | .register pc => s.advanceWith p .register .threw (registerNext s pc) ok
  | .evictTimeoutJob =>
    match s.timeoutJob with
    | some j => if j.taken then some { s with timeoutJob := none } else none
    | none => none
  | .tick ms => some { s with now := s.now + ms }

def okCount (s : Sys) (n : Nat) : Nat :=
  ((List.range n).filter fun p => match s.procs p with
    | .decide _ (.returned d) => d.ok
    | _ => false).length

def eventCount (s : Sys) (eventType : String) : Nat :=
  (s.events.filter (·.eventType == eventType)).length

theorem decideNext_procs {s : Sys} {i : DecideInput} {pc : DecidePc} {r : Sys × DecidePc}
    (h : decideNext s i pc = some r) : r.1.procs = s.procs := by
  cases pc <;> simp only [decideNext, Option.some.injEq, reduceCtorEq] at h <;> subst h <;> rfl

theorem timeoutNext_procs {s : Sys} {pc : TimeoutPc} {r : Sys × TimeoutPc}
    (h : timeoutNext s pc = some r) : r.1.procs = s.procs := by
  cases pc <;> simp only [timeoutNext, Option.some.injEq, reduceCtorEq] at h <;> subst h <;> rfl

theorem registerNext_procs {s : Sys} {pc : RegisterPc} {r : Sys × RegisterPc}
    (h : registerNext s pc = some r) : r.1.procs = s.procs := by
  cases pc <;> simp only [registerNext, Option.some.injEq, reduceCtorEq] at h
  all_goals first | (subst h; rfl) | skip
  split at h <;> (simp only [Option.some.injEq] at h; subst h; rfl)

theorem decideNext_now {s : Sys} {i : DecideInput} {pc : DecidePc} {r : Sys × DecidePc}
    (h : decideNext s i pc = some r) : r.1.now = s.now := by
  cases pc <;> simp only [decideNext, Option.some.injEq, reduceCtorEq] at h <;> subst h <;> rfl

theorem timeoutNext_now {s : Sys} {pc : TimeoutPc} {r : Sys × TimeoutPc}
    (h : timeoutNext s pc = some r) : r.1.now = s.now := by
  cases pc <;> simp only [timeoutNext, Option.some.injEq, reduceCtorEq] at h <;> subst h <;> rfl

theorem registerNext_now {s : Sys} {pc : RegisterPc} {r : Sys × RegisterPc}
    (h : registerNext s pc = some r) : r.1.now = s.now := by
  cases pc <;> simp only [registerNext, Option.some.injEq, reduceCtorEq] at h
  all_goals first | (subst h; rfl) | skip
  split at h <;> (simp only [Option.some.injEq] at h; subst h; rfl)

theorem advanceWith_procs {π : Type} {s s' : Sys} {p q : Nat} {wrap : π → Proc} {threw : π}
    {next : Option (Sys × π)} {ok : Bool} (hn : ∀ r, next = some r → r.1.procs = s.procs)
    (h : s.advanceWith p wrap threw next ok = some s') :
    ∃ r, next = some r ∧ s'.procs q = if q = p then wrap (if ok then r.2 else threw)
      else s.procs q := by
  obtain ⟨r, hr, rfl⟩ := Option.map_eq_some'.mp h
  refine ⟨r, hr, ?_⟩
  cases ok <;> simp [hn r hr]

theorem step_procs {s s' : Sys} {a : Action} (h : step s a = some s') (q : Nat) :
    s'.procs q = s.procs q ∨
    (s.procs q = .idle ∧ ((∃ tok, s'.procs q = .register (.create tok)) ∨
      (∃ i, s'.procs q = .decide i .read) ∨ s'.procs q = .timeout .read)) ∨
    (∃ i pc r, s.procs q = .decide i pc ∧ decideNext s i pc = some r ∧
      (s'.procs q = .decide i r.2 ∨ s'.procs q = .decide i .threw)) ∨
    (∃ pc r, s.procs q = .timeout pc ∧ timeoutNext s pc = some r ∧
      (s'.procs q = .timeout r.2 ∨ s'.procs q = .timeout .threw)) ∨
    (∃ pc r, s.procs q = .register pc ∧ registerNext s pc = some r ∧
      (s'.procs q = .register r.2 ∨ s'.procs q = .register .threw)) := by
  cases a with
  | register p tok =>
    simp only [step] at h; split at h <;> cases h
    by_cases hq : q = p
    · subst hq; exact .inr (.inl ⟨by assumption, .inl ⟨tok, by simp⟩⟩)
    · exact .inl (by simp [hq])
  | decide p i =>
    simp only [step] at h; split at h <;> cases h
    by_cases hq : q = p
    · subst hq; exact .inr (.inl ⟨by assumption, .inr (.inl ⟨i, by simp⟩)⟩)
    · exact .inl (by simp [hq])
  | fireTimeout p =>
    simp only [step] at h
    split at h
    · split at h <;> cases h
      by_cases hq : q = p
      · subst hq; exact .inr (.inl ⟨by tauto, .inr (.inr (by simp))⟩)
      · exact .inl (by simp [hq])
    · cases h
  | advance p ok =>
    simp only [step] at h
    split at h
    · cases h
    · rename_i i pc hp
      obtain ⟨r, hr, he⟩ := advanceWith_procs (q := q) (fun r h => decideNext_procs h) h
      rw [he]; split
      · subst_vars; exact .inr (.inr (.inl ⟨i, pc, r, hp, hr, by cases ok <;> simp⟩))
      · exact .inl rfl
    · rename_i pc hp
      obtain ⟨r, hr, he⟩ := advanceWith_procs (q := q) (fun r h => timeoutNext_procs h) h
      rw [he]; split
      · subst_vars; exact .inr (.inr (.inr (.inl ⟨pc, r, hp, hr, by cases ok <;> simp⟩)))
      · exact .inl rfl
    · rename_i pc hp
      obtain ⟨r, hr, he⟩ := advanceWith_procs (q := q) (fun r h => registerNext_procs h) h
      rw [he]; split
      · subst_vars; exact .inr (.inr (.inr (.inr ⟨pc, r, hp, hr, by cases ok <;> simp⟩)))
      · exact .inl rfl
  | evictTimeoutJob =>
    simp only [step] at h; split at h
    · split at h <;> cases h; exact .inl rfl
    · cases h
  | tick ms => cases h; exact .inl rfl

theorem advanceWith_eq {π : Type} {s s' : Sys} {p : Nat} {wrap : π → Proc} {threw : π}
    {next : Option (Sys × π)} {ok : Bool} (h : s.advanceWith p wrap threw next ok = some s') :
    ∃ r, next = some r ∧ s' = if ok then r.1.setProc p (wrap r.2) else s.setProc p (wrap threw) :=
  Option.map_eq_some'.mp h |>.imp fun _ h => ⟨h.1, h.2.symm⟩

theorem step_approval {s s' : Sys} {a : Action} (h : step s a = some s') :
    s'.approval = s.approval ∨ ∃ p, a = .advance p true ∧
      ((∃ i cur, s.procs p = .decide i (.writing cur) ∧
          s'.approval = updateToolApprovalDecision s.approval
            (if i.approved then .approved else .denied) i.decidedBy i.reason s.now) ∨
        ((∃ i cur, s.procs p = .decide i (.expiring cur)) ∨
            (∃ cur, s.procs p = .timeout (.expiring cur))) ∧
          s'.approval = (expirePendingApproval s.approval s.now).1 ∨
        (∃ tok, s.procs p = .register (.create tok) ∧ s.approval = none ∧
          s'.approval = some (newApproval tok s.now))) := by
  cases a with
  | advance p ok =>
    simp only [step] at h
    split at h
    · cases h
    · rename_i i pc hp
      obtain ⟨r, hr, rfl⟩ := advanceWith_eq h
      cases ok
      · exact .inl rfl
      · cases pc <;> simp only [decideNext, Option.some.injEq, reduceCtorEq] at hr <;>
          subst hr
        all_goals first
          | exact .inl rfl
          | exact .inr ⟨p, rfl, .inr (.inl ⟨.inl ⟨i, _, hp⟩, rfl⟩)⟩
          | exact .inr ⟨p, rfl, .inl ⟨i, _, hp, rfl⟩⟩
    · rename_i pc hp
      obtain ⟨r, hr, rfl⟩ := advanceWith_eq h
      cases ok
      · exact .inl rfl
      · cases pc <;> simp only [timeoutNext, Option.some.injEq, reduceCtorEq] at hr <;>
          subst hr
        all_goals first
          | exact .inl rfl
          | exact .inr ⟨p, rfl, .inr (.inl ⟨.inr ⟨_, hp⟩, rfl⟩)⟩
    · rename_i pc hp
      obtain ⟨r, hr, rfl⟩ := advanceWith_eq h
      cases ok
      · exact .inl rfl
      · cases pc <;> simp only [registerNext, Option.some.injEq, reduceCtorEq] at hr
        all_goals first | (subst hr; exact .inl rfl) | skip
        rename_i tok
        rcases hn : s.approval with _ | r0 <;>
          simp only [createToolApproval, hn, Option.some.injEq] at hr <;> subst hr
        · exact .inr ⟨p, rfl, .inr (.inr ⟨tok, hp, rfl, rfl⟩)⟩
        · exact .inl (by simpa using hn)
  | _ =>
    simp only [step] at h
    repeat' split at h
    all_goals first | (cases h; exact .inl rfl) | cases h

theorem step_now_le {s s' : Sys} {a : Action} (h : step s a = some s') : s.now ≤ s'.now := by
  cases a with
  | advance p ok =>
    simp only [step] at h
    split at h
    · cases h
    all_goals
      obtain ⟨r, hr, rfl⟩ := advanceWith_eq h
      cases ok
      · exact le_refl _
      · first
          | exact (decideNext_now hr).ge
          | exact (timeoutNext_now hr).ge
          | exact (registerNext_now hr).ge
  | tick ms => cases h; exact Nat.le_add_right _ _
  | _ =>
    simp only [step] at h
    repeat' split at h
    all_goals first | (cases h; exact le_refl _) | cases h

/-! ## A status that has left `requested`

Only one statement of the engine writes the status without looking at it: the
`updateToolApprovalDecision` of a `decideApproval` call. -/

theorem decideRead_writing {t : Option ToolApproval} {now : Nat} {cur : ToolApproval}
    (h : decideRead t now = .writing cur) : t = some cur ∧ cur.status = .requested := by
  unfold decideRead at h
  rcases t with _ | r
  · cases h
  · by_cases h1 : r.status = .requested
    · by_cases h2 : r.expiresAt < now <;> simp_all
    · simp [h1] at h

theorem decideRead_cases (t : Option ToolApproval) (now : Nat) :
    (∃ d, decideRead t now = .returned d) ∨ (∃ cur, decideRead t now = .expiring cur) ∨
      ∃ cur, decideRead t now = .writing cur := by
  unfold decideRead
  split
  · exact .inl ⟨_, rfl⟩
  · split_ifs
    · exact .inl ⟨_, rfl⟩
    · exact .inr (.inl ⟨_, rfl⟩)
    · exact .inr (.inr ⟨_, rfl⟩)

theorem decideNext_writing {s : Sys} {i : DecideInput} {pc : DecidePc} {r : Sys × DecidePc}
    {cur : ToolApproval} (h : decideNext s i pc = some r) (hw : r.2 = .writing cur) :
    pc = .read ∧ decideRead s.approval s.now = .writing cur := by
  cases pc <;> simp only [decideNext, Option.some.injEq, reduceCtorEq] at h <;> subst h <;>
    simp_all

/-- Each decideApproval call that is about to write read the row as `requested`. -/
def WritersReadRequested (s : Sys) : Prop :=
  ∀ p i cur, s.procs p = .decide i (.writing cur) → cur.status = .requested

theorem writersReadRequested_step {s s' : Sys} {a : Action} (h : WritersReadRequested s)
    (hs : step s a = some s') : WritersReadRequested s' := by
  intro q i cur hq
  rcases step_procs hs q with he | ⟨_, ⟨_, he⟩ | ⟨_, he⟩ | he⟩ | ⟨i', pc, r, _, hr, he | he⟩ |
      ⟨_, _, _, _, he | he⟩ | ⟨_, _, _, _, he | he⟩ <;> rw [hq] at he <;> try cases he
  · exact h q i cur he.symm
  · exact (decideRead_writing (decideNext_writing hr (Proc.decide.inj he).2.symm).2).2

theorem writersReadRequested_reachable {s : Sys} (h : Reachable Sys.init step s) :
    WritersReadRequested s :=
  h.invariant _ (fun _ _ _ h => by cases h) fun _ _ _ hi hs => writersReadRequested_step hi hs

/-- In every run, once the approval has left `requested`, each later change of its
status is the decision write of a decideApproval call that read the row while it was
still `requested`. The expiry writes and the insert never change such a status. -/
theorem decided_status_changes_only_by_stale_write {s s' : Sys} {a : Action}
    {st : ApprovalStatus} (hr : Reachable Sys.init step s) (h : step s a = some s')
    (hst : statusOf s.approval = some st) (hne : st ≠ .requested)
    (hch : statusOf s'.approval ≠ some st) :
    ∃ p i cur, a = .advance p true ∧ s.procs p = .decide i (.writing cur) ∧
      cur.status = .requested := by
  rcases step_approval h with he | ⟨p, rfl, ⟨i, cur, hp, _⟩ | ⟨_, he⟩ | ⟨_, _, hn, _⟩⟩
  · exact absurd (he ▸ hst) hch
  · exact ⟨p, i, cur, rfl, hp, writersReadRequested_reachable hr p i cur hp⟩
  · have hs : statusOf s.approval ≠ some .requested := by rw [hst]; simpa using hne
    rw [he, expirePendingApproval_of_ne _ hs] at hch
    exact absurd hst hch
  · simp [hn, statusOf] at hst

/-! ## Runs on one approval

`registerApprovalRequests` runs to its end at time 0, so the approval is requested until
300000 ms and its expiry job is due then; a user then taps Approve or Deny. -/

def registered : List Action :=
  [.register 0 "tok", .advance 0 true, .advance 0 true, .advance 0 true, .advance 0 true]

def approveTap : DecideInput := ⟨true, "7", none⟩
def denyTap : DecideInput := ⟨false, "7", some "User denied via Telegram callback."⟩

def raceActions : List Action :=
  registered ++ [.decide 1 approveTap, .decide 2 denyTap, .advance 1 true, .advance 2 true,
    .advance 1 true, .advance 1 true]

def raceState : Sys := (run step Sys.init raceActions).getD Sys.init

theorem raceState_reachable : Reachable Sys.init step raceState :=
  (reaches_of_run step raceActions (s := Sys.init) rfl).reachable .init

/-- The deny's stale write is the change of the approved status that the theorem above
allows. -/
theorem stale_deny_overwrites_approval :
    ∃ p i cur, Action.advance 2 true = .advance p true ∧
      raceState.procs p = .decide i (.writing cur) ∧ cur.status = .requested :=
  decided_status_changes_only_by_stale_write raceState_reachable rfl
    (show statusOf raceState.approval = some .approved by decide) (by decide) (by decide)

/-- Two decideApproval calls on one pending approval, both reading the row before either
writes: the status goes from `approved` to `denied`, and both calls return `ok = true`. -/
theorem decideApproval_race_overwrites_decision :
    ∃ s t, Reachable Sys.init step s ∧ Reaches step s t ∧
      statusOf s.approval = some .approved ∧ statusOf t.approval = some .denied ∧
      okCount t 3 = 2 := by
  obtain ⟨s, t, hs, ht, hp, hq⟩ := exists_reaches_of_runs Sys.init step
    (p := fun s => decide (statusOf s.approval = some .approved))
    (q := fun t => decide (statusOf t.approval = some .denied) && okCount t 3 == 2)
    raceActions [.advance 2 true, .advance 2 true] (by decide)
  simp only [decide_eq_true_eq, Bool.and_eq_true, beq_iff_eq] at hp hq
  exact ⟨s, t, hs, ht, hp, hq.1, hq.2⟩

/-- Two runs where the approval.* events disagree with the status. A tap after
`expiresAt`, before the expiry job runs, expires the approval through decideApproval,
which appends no approval.expired; the job then finds it expired and appends none either.
And a decision that read the row at `expiresAt` itself, when the timeout worker had read
it too, leaves an approved approval with both an approval.decided and an
approval.expired. -/
theorem approval_audit_events_disagree_with_status :
    (∃ s, Reachable Sys.init step s ∧ statusOf s.approval = some .expired ∧
        eventCount s "approval.expired" = 0 ∧ s.procs 2 = .timeout .returned) ∧
    (∃ s, Reachable Sys.init step s ∧ statusOf s.approval = some .approved ∧
        eventCount s "approval.decided" = 1 ∧ eventCount s "approval.expired" = 1) := by
  constructor
  · obtain ⟨s, hs, hv⟩ := exists_reachable_of_run_view Sys.init step
      (fun s => (statusOf s.approval, eventCount s "approval.expired", s.procs 2))
      (v := (some .expired, 0, .timeout .returned))
      (registered ++ [.tick 300001, .decide 1 approveTap, .advance 1 true, .advance 1 true,
        .fireTimeout 2, .advance 2 true]) (by decide)
    simp only [Prod.mk.injEq] at hv
    exact ⟨s, hs, hv.1, hv.2.1, hv.2.2⟩
  · obtain ⟨s, hs, hv⟩ := exists_reachable_of_run_view Sys.init step
      (fun s => (statusOf s.approval, eventCount s "approval.decided",
        eventCount s "approval.expired"))
      (v := (some .approved, 1, 1))
      (registered ++ [.tick 300000, .decide 1 approveTap, .advance 1 true, .fireTimeout 2,
        .advance 2 true, .advance 1 true, .advance 1 true, .advance 2 true, .advance 2 true])
      (by decide)
    simp only [Prod.mk.injEq] at hv
    exact ⟨s, hs, hv.1, hv.2.1, hv.2.2⟩

/-! ## A decideApproval call, statement by statement

The runs of one call from its read to its end: a throw before any write, a refusal on
what it read, the expiry, the decision write followed by a throw, the decision and its
audit event. -/

def Sys.decideEnded (s : Sys) (p : Nat) (i : DecideInput) (result : Option Decision)
    (approval : Option ToolApproval) (events : List AuditEvent) : Sys :=
  { s.setProc p (.decide i (result.elim .threw .returned)) with
    approval := approval, events := events }

section
variable {s : Sys} {p : Nat} {i : DecideInput}

theorem run_decide_threw (hp : s.procs p = .decide i .read) :
    run step s [.advance p false] = some (s.decideEnded p i none s.approval s.events) := by
  simp [run, step, hp, decideNext, Sys.advanceWith]
  rfl

theorem run_decide_returned {d : Decision} (hp : s.procs p = .decide i .read)
    (hd : decideRead s.approval s.now = .returned d) :
    run step s [.advance p true] = some (s.decideEnded p i (some d) s.approval s.events) := by
  simp [run, step, hp, decideNext, Sys.advanceWith, hd]
  rfl

theorem run_decide_expired {cur : ToolApproval} (hp : s.procs p = .decide i .read)
    (hd : decideRead s.approval s.now = .expiring cur) :
    run step s [.advance p true, .advance p true] =
      some (s.decideEnded p i (some ⟨false, some "Approval already expired.", none⟩)
        (expirePendingApproval s.approval s.now).1 s.events) := by
  simp [run, step, hp, decideNext, Sys.advanceWith, hd, Sys.decideEnded, Sys.setProc]
  funext q
  split_ifs <;> rfl

theorem run_decide_written {cur : ToolApproval} (hp : s.procs p = .decide i .read)
    (hd : decideRead s.approval s.now = .writing cur) :
    run step s [.advance p true, .advance p true, .advance p false] =
      some (s.decideEnded p i none (updateToolApprovalDecision s.approval
        (if i.approved then .approved else .denied) i.decidedBy i.reason s.now) s.events) := by
  simp [run, step, hp, decideNext, Sys.advanceWith, hd, Sys.decideEnded, Sys.setProc]
  funext q
  split_ifs <;> rfl

theorem run_decide_decided {cur : ToolApproval} (hp : s.procs p = .decide i .read)
    (hd : decideRead s.approval s.now = .writing cur) :
    run step s [.advance p true, .advance p true, .advance p true] =
      some (s.decideEnded p i (some ⟨true, none, some ((updateToolApprovalDecision s.approval
        (if i.approved then .approved else .denied) i.decidedBy i.reason s.now).getD cur)⟩)
        (updateToolApprovalDecision s.approval
        (if i.approved then .approved else .denied) i.decidedBy i.reason s.now)
        (s.events ++ [decidedEvent i.decidedBy])) := by
  simp [run, step, hp, decideNext, Sys.advanceWith, hd, Sys.decideEnded, Sys.setProc]
  funext q
  split_ifs <;> rfl

end

/-! ## An approval that no job will expire

`registerApprovalRequests` inserts the row, and only then adds the expiry job, in an await
of its own (part_006, lines 64-85). When that await throws, the row stays `requested` with
no job; from then on only a tap writes the row, and nothing adds a job. -/

def Proc.settled : Proc → Bool
  | .idle => true
  | .register (.create _) | .register .enqueueCountdown | .register .auditing
  | .register .returned | .register .threw => true
  | .decide _ (.returned _) | .decide _ .threw => true
  | .timeout .returned | .timeout .threw => true
  | _ => false

/-- The row is `t`, there is no timeout job, and no process can write either. -/
structure Orphaned (t : ToolApproval) (s : Sys) : Prop where
  approval : s.approval = some t
  no_job : s.timeoutJob = none
  settled : ∀ q, (s.procs q).settled = true

section
variable {t : ToolApproval} {s : Sys}

theorem Orphaned.setProc (h : Orphaned t s) {p : Nat} {x : Proc} (hx : x.settled = true) :
    Orphaned t (s.setProc p x) :=
  ⟨h.approval, h.no_job, fun q => by
    simp only [Sys.setProc_procs]; split_ifs
    · exact hx
    · exact h.settled q⟩

theorem Orphaned.of_registerNext (h : Orphaned t s) {pc : RegisterPc} {r : Sys × RegisterPc}
    (hp : (Proc.register pc).settled = true) (hr : registerNext s pc = some r) :
    Orphaned t r.1 ∧ (Proc.register r.2).settled = true := by
  cases pc <;> simp only [Proc.settled, reduceCtorEq] at hp <;>
    simp only [registerNext, h.approval, createToolApproval, Option.some.injEq,
      reduceCtorEq] at hr <;> subst hr <;> exact ⟨⟨by simp [h.approval], h.no_job, h.settled⟩, rfl⟩

theorem Orphaned.of_step (h : Orphaned t s) {s' : Sys} {a : Action} (ha : ∀ p i, a ≠ .decide p i)
    (hs : step s a = some s') : Orphaned t s' := by
  cases a with
  | register p tok =>
    simp only [step] at hs; split at hs <;> cases hs
    exact h.setProc rfl
  | decide p i => exact absurd rfl (ha p i)
  | fireTimeout p => simp [step, h.no_job] at hs
  | advance p ok =>
    have hp := h.settled p
    rcases hq : s.procs p with _ | ⟨i, pc⟩ | pc | pc <;> simp only [step, hq] at hs <;>
      rw [hq] at hp
    · cases hs
    · cases pc <;> simp [Proc.settled, decideNext, Sys.advanceWith] at hp hs
    · cases pc <;> simp [Proc.settled, timeoutNext, Sys.advanceWith] at hp hs
    · obtain ⟨r, hr, rfl⟩ := advanceWith_eq hs
      obtain ⟨hr1, hr2⟩ := h.of_registerNext hp hr
      cases ok
      · exact h.setProc rfl
      · exact hr1.setProc hr2
  | evictTimeoutJob => simp [step, h.no_job] at hs
  | tick ms => cases hs; exact ⟨h.approval, h.no_job, h.settled⟩

theorem Orphaned.of_run (h : Orphaned t s) (as : List Action) (ha : ∀ a ∈ as, ∀ p i, a ≠ .decide p i)
    {u : Sys} (hu : run step s as = some u) : Orphaned t u :=
  run_preserve (Orphaned t) (fun a => ∀ p i, a ≠ .decide p i)
    (fun _ _ _ ha h hs => h.of_step ha hs) as ha hu h

end

def orphanRun : List Action := [.register 0 "tok", .advance 0 true, .advance 0 false]

def orphanState : Sys := (run step Sys.init orphanRun).getD Sys.init

theorem orphanState_orphaned : Orphaned (newApproval "tok" 0) orphanState :=
  ⟨rfl, rfl, fun q => by
    by_cases hq : q = 0 <;> simp [orphanState, orphanRun, run, step, registerNext,
      Sys.advanceWith, createToolApproval, Sys.init, Proc.settled, hq]⟩

/-- A reachable state where a `requested` approval has no `approval-expire` job, after one
failed queue call of registerApprovalRequests; and in every later run with no tap, the
approval stays `requested` and no job is added, whatever time passes. -/
theorem approval_requested_without_timeout_job :
    ∃ s, Reachable Sys.init step s ∧ statusOf s.approval = some .requested ∧
      s.timeoutJob = none ∧
      ∀ as u, (∀ a ∈ as, ∀ p i, a ≠ .decide p i) → run step s as = some u →
        statusOf u.approval = some .requested ∧ u.timeoutJob = none := by
  refine ⟨orphanState, (reaches_of_run step orphanRun (s := Sys.init) rfl).reachable .init,
    rfl, rfl, fun as u ha hu => ?_⟩
  have hu' := orphanState_orphaned.of_run as ha hu
  exact ⟨by rw [hu'.approval]; rfl, hu'.no_job⟩

end ton_agent_bot.approvals
