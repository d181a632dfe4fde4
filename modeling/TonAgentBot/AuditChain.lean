-- The audit_events hash chain of db/queries/audit.ts under any interleaving of
-- appendAuditEvent calls. An append reads the latest row, takes the time after the read and
-- inserts in a second statement: appends in one millisecond tie, and overlapping appends
-- share a predecessor. Appends that neither overlap nor share a millisecond keep one chain.
import TonAgentBot.Run

namespace ton_agent_bot.audit

/-! ## The rows -/

/-- `AuditEventRecord` of types/contracts; `metadata` stands for its JSON text. -/
structure AuditEventRecord where
  actorType : String
  actorId : String
  eventType : String
  metadata : String
  correlationId : String
  deriving DecidableEq, Repr

/-- An audit_events row without its random `id`; `createdAt` in milliseconds. -/
structure AuditRow where
  actorType : String
  actorId : String
  eventType : String
  metadataJson : String
  correlationId : String
  createdAt : Nat
  hashChain : String
  deriving DecidableEq, Repr

/-- What `select ... orderBy(desc(createdAt)).limit(1)` returns: null on an empty table,
else the hash of a row of greatest `created_at`. Among rows of equal time the database
picks one, here the row at `i`; a pick that is not of greatest time is no run. -/
def latestHash (rows : List AuditRow) (i : Nat) : Option (Option String) :=
  match rows with
  | [] => some none
  | _ => rows[i]?.bind fun r =>
    if rows.all (·.createdAt ≤ r.createdAt) then some (some r.hashChain) else none

section
/- `createAuditHash` is the sha256 of the JSON of its four arguments; the shape of the
chain never depends on its value, so it stays a parameter. -/
variable (createAuditHash : Option String → String → String → Nat → String)

/-- The row that `appendAuditEvent` inserts for `event` after `lastHash`, at `createdAt`. -/
def auditRow (event : AuditEventRecord) (lastHash : Option String) (createdAt : Nat) :
    AuditRow :=
  { actorType := event.actorType
    actorId := event.actorId
    eventType := event.eventType
    metadataJson := event.metadata
    correlationId := event.correlationId
    createdAt := createdAt
    hashChain := createAuditHash lastHash event.eventType event.metadata createdAt }

/-- The rows, newest first, form one chain: times strictly increase, the oldest row's hash
is of null and every other row's is of the hash of the row just before it. -/
def Linked : List AuditRow → Prop
  | [] => True
  | [r] => r.hashChain = createAuditHash none r.eventType r.metadataJson r.createdAt
  | r :: r' :: rs => r'.createdAt < r.createdAt ∧
      r.hashChain = createAuditHash (some r'.hashChain) r.eventType r.metadataJson r.createdAt ∧
      Linked (r' :: rs)

end

/-! ## The appends -/

/-- Where an `appendAuditEvent` call stands: before its select, or between the select and
the insert with the row it computed. -/
inductive Pc
  | idle
  | selecting (event : AuditEventRecord)
  | inserting (row : AuditRow)
  | returned
  | threw
  deriving DecidableEq, Repr

/-- The clock, the table in insertion order, newest first, and the calls. -/
structure Sys where
  now : Nat
  rows : List AuditRow
  procs : Nat → Pc

def Sys.init : Sys := ⟨0, [], fun _ => .idle⟩

def Sys.setProc (s : Sys) (p : Nat) (x : Pc) : Sys :=
  { s with procs := fun q => if q = p then x else s.procs q }

@[simp] theorem Sys.setProc_rows (s : Sys) (p : Nat) (x : Pc) :
    (s.setProc p x).rows = s.rows := rfl
@[simp] theorem Sys.setProc_now (s : Sys) (p : Nat) (x : Pc) : (s.setProc p x).now = s.now := rfl

inductive Action
  | append (p : Nat) (event : AuditEventRecord)
  | select (p : Nat) (i : Nat)
  | insert (p : Nat)
  | fail (p : Nat)
  | tick
  deriving DecidableEq, Repr

section
variable (createAuditHash : Option String → String → String → Nat → String)

/-- One step: a new call; the select of a call, with the time and the hash taken at once
after it; the insert; a throw of either statement; or a millisecond passing. -/
def step (s : Sys) : Action → Option Sys
  | .append p e => if s.procs p = .idle then some (s.setProc p (.selecting e)) else none
  | .select p i =>
    match s.procs p with
    | .selecting e => (latestHash s.rows i).map fun h =>
        s.setProc p (.inserting (auditRow createAuditHash e h s.now))
    | _ => none
  | .insert p =>
    match s.procs p with
    | .inserting r => some { s.setProc p .returned with rows := r :: s.rows }
    | _ => none
  | .fail p =>
    match s.procs p with
    | .selecting _ | .inserting _ => some (s.setProc p .threw)
    | _ => none
  | .tick => some { s with now := s.now + 1 }

/-- The runs whose appends neither overlap nor share a millisecond: a select is followed at
once by its insert, and the clock has passed every row when it is taken. -/
def stepSerial (s : Sys) : Action → Option Sys
  | .select p i =>
    if s.rows.all (·.createdAt < s.now) then
      (step createAuditHash s (.select p i)).bind (step createAuditHash · (.insert p))
    else none
  | .insert _ => none
  | a => step createAuditHash s a

end

/-! ## Serial appends keep one chain -/

section
variable {createAuditHash : Option String → String → String → Nat → String}

theorem Linked.tail {r : AuditRow} {rs : List AuditRow} (h : Linked createAuditHash (r :: rs)) :
    Linked createAuditHash rs := by
  cases rs with
  | nil => trivial
  | cons _ _ => exact h.2.2

theorem Linked.lt_head {r : AuditRow} {rs : List AuditRow}
    (h : Linked createAuditHash (r :: rs)) : ∀ x ∈ rs, x.createdAt < r.createdAt := by
  induction rs generalizing r with
  | nil => simp
  | cons r' rs ih =>
    obtain ⟨hlt, -, hl⟩ := h
    intro x hx
    rcases List.mem_cons.1 hx with rfl | hx
    · exact hlt
    · exact (ih hl x hx).trans hlt

theorem Linked.pairwise {rows : List AuditRow} (h : Linked createAuditHash rows) :
    rows.Pairwise fun a b => b.createdAt < a.createdAt := by
  induction rows with
  | nil => exact .nil
  | cons r rs ih => exact .cons h.lt_head (ih h.tail)

theorem latestHash_of_linked {r : AuditRow} {rs : List AuditRow} {i : Nat} {h : Option String}
    (hl : Linked createAuditHash (r :: rs)) (hh : latestHash (r :: rs) i = some h) :
    h = some r.hashChain := by
  cases i with
  | zero =>
    simp only [latestHash, List.getElem?_cons_zero, Option.some_bind] at hh
    split_ifs at hh; cases hh; rfl
  | succ j =>
    simp only [latestHash, List.getElem?_cons_succ] at hh
    obtain ⟨x, hx, hall⟩ := Option.bind_eq_some.1 hh
    split_ifs at hall with hle
    have : r.createdAt ≤ x.createdAt := by simpa using (List.all_eq_true.1 hle r (by simp))
    exact absurd (hl.lt_head x (List.getElem?_mem hx)) (by omega)

theorem Linked.cons_auditRow {rows : List AuditRow} {i now : Nat} {lh : Option String}
    (e : AuditEventRecord) (h : Linked createAuditHash rows)
    (hnow : rows.all (·.createdAt < now)) (hl : latestHash rows i = some lh) :
    Linked createAuditHash (auditRow createAuditHash e lh now :: rows) := by
  cases rows with
  | nil => cases hl; rfl
  | cons r rs =>
    cases latestHash_of_linked h hl
    exact ⟨by simpa using (List.all_eq_true.1 hnow r (by simp)), rfl, h⟩

theorem stepSerial_rows {s s' : Sys} {a : Action} (hs : stepSerial createAuditHash s a = some s') :
    s'.rows = s.rows ∨ ∃ e i lh, s.rows.all (·.createdAt < s.now) ∧
      latestHash s.rows i = some lh ∧ s'.rows = auditRow createAuditHash e lh s.now :: s.rows := by
  cases a with
  | select p i =>
    simp only [stepSerial] at hs
    split_ifs at hs with hnow
    cases hp : s.procs p <;> simp only [step, hp, Option.none_bind, reduceCtorEq] at hs
    obtain ⟨s1, h1, h2⟩ := Option.bind_eq_some.1 hs
    obtain ⟨lh, hl, rfl⟩ := Option.map_eq_some'.1 h1
    simp only [Sys.setProc, if_pos, Option.some.injEq] at h2
    exact .inr ⟨_, i, lh, hnow, hl, by rw [← h2]⟩
  | insert p => cases hs
  | append p e =>
    simp only [stepSerial, step] at hs; split_ifs at hs; cases hs; exact .inl rfl
  | fail p =>
    simp only [stepSerial, step] at hs; split at hs <;> cases hs <;> exact .inl rfl
  | tick => cases hs; exact .inl rfl

end

/-- Appends that never overlap and never share a millisecond leave one chain, sorted by
`created_at` with no two rows of one time. -/
theorem serial_appends_form_one_chain
    (createAuditHash : Option String → String → String → Nat → String) {s : Sys}
    (hs : Reachable Sys.init (stepSerial createAuditHash) s) :
    Linked createAuditHash s.rows ∧ s.rows.Pairwise fun a b => b.createdAt < a.createdAt := by
  have h : Linked createAuditHash s.rows :=
    hs.invariant (fun s : Sys => Linked createAuditHash s.rows) (by trivial) fun _ _ _ hl ha => by
      rcases stepSerial_rows ha with he | ⟨e, i, lh, hnow, hlh, he⟩ <;> rw [he]
      · exact hl
      · exact hl.cons_auditRow e hnow hlh
  exact ⟨h, h.pairwise⟩

def systemEvent (eventType : String) : AuditEventRecord :=
  ⟨"system", "system", eventType, "\x7b\x7d", "corr-1"⟩

def twoAppends : List Action :=
  [.append 0 (systemEvent "approval.requested"), .select 0 0, .tick,
    .append 1 (systemEvent "approval.decided"), .select 1 0]

/-- Two serial appends a millisecond apart leave a chain of two rows. -/
theorem serial_appends_of_two :
    ∃ s, Reachable Sys.init (stepSerial fun _ eventType _ _ => eventType) s ∧
      s.rows.length = 2 ∧ Linked (fun _ eventType _ _ => eventType) s.rows := by
  obtain ⟨s, hs, h⟩ := exists_reachable_of_run_view Sys.init
    (stepSerial fun _ eventType _ _ => eventType) (·.rows.length) (v := 2) twoAppends rfl
  exact ⟨s, hs, h, (serial_appends_form_one_chain _ hs).1⟩

theorem stepSerial_reaches {createAuditHash : Option String → String → String → Nat → String}
    {s s' : Sys} {a : Action} (hs : stepSerial createAuditHash s a = some s') :
    Reaches (step createAuditHash) s s' := by
  cases a with
  | select p i =>
    simp only [stepSerial] at hs
    split_ifs at hs
    obtain ⟨s1, h1, h2⟩ := Option.bind_eq_some.1 hs
    exact .tail _ (.tail _ (.refl s) h1) h2
  | insert p => cases hs
  | append p e => exact .tail (.append p e) (.refl s) hs
  | fail p => exact .tail (.fail p) (.refl s) hs
  | tick => exact .tail .tick (.refl s) hs

/-- The serial runs are runs of appendAuditEvent: every state they reach is reachable
under any interleaving, so the chain above is one the code can leave. -/
theorem serial_runs_are_runs (createAuditHash : Option String → String → String → Nat → String)
    {s : Sys} (hs : Reachable Sys.init (stepSerial createAuditHash) s) :
    Reachable Sys.init (step createAuditHash) s := by
  induction hs with
  | init => exact .init
  | step a _ hst ih => exact (stepSerial_reaches hst).reachable ih

def twoSerialAppends : Sys :=
  (run (stepSerial fun _ eventType _ _ => eventType) Sys.init twoAppends).getD Sys.init

theorem two_serial_appends_are_a_run :
    Reachable Sys.init (stepSerial fun _ eventType _ _ => eventType) twoSerialAppends ∧
      Reachable Sys.init (step fun _ eventType _ _ => eventType) twoSerialAppends :=
  have hs := (reaches_of_run (stepSerial fun _ eventType _ _ => eventType) twoAppends
    (s := Sys.init) (t := twoSerialAppends) rfl).reachable .init
  ⟨hs, serial_runs_are_runs _ hs⟩

/-! ## Ties and forks -/

def sameMillisecond (e0 e1 e2 : AuditEventRecord) : List Action :=
  [.append 0 e0, .select 0 0, .insert 0, .append 1 e1, .select 1 0, .insert 1,
   .append 2 e2, .select 2 1, .insert 2]

def overlapping (e0 e1 : AuditEventRecord) : List Action :=
  [.append 0 e0, .append 1 e1, .select 0 0, .tick, .select 1 0, .insert 0, .insert 1]

theorem appendAuditEvent_ties_and_forks_for
    (createAuditHash : Option String → String → String → Nat → String)
    (e0 e1 e2 : AuditEventRecord) :
    (∃ s, Reachable Sys.init (step createAuditHash) s ∧
      s.rows = [auditRow createAuditHash e2
          (some (auditRow createAuditHash e0 none 0).hashChain) 0,
        auditRow createAuditHash e1 (some (auditRow createAuditHash e0 none 0).hashChain) 0,
        auditRow createAuditHash e0 none 0] ∧
      ¬ Linked createAuditHash s.rows) ∧
    ∃ s, Reachable Sys.init (step createAuditHash) s ∧
      s.rows = [auditRow createAuditHash e1 none 1, auditRow createAuditHash e0 none 0] := by
  obtain ⟨s, hs, h⟩ := exists_reachable_of_run_view Sys.init (step createAuditHash)
    (·.rows) (sameMillisecond e0 e1 e2) rfl
  obtain ⟨t, ht, h'⟩ := exists_reachable_of_run_view Sys.init (step createAuditHash)
    (·.rows) (overlapping e0 e1) rfl
  refine ⟨⟨s, hs, h, fun hl => ?_⟩, t, ht, h'⟩
  rw [h] at hl
  exact absurd hl.1 (lt_irrefl 0)

def joinedFields (previousHash : Option String) (eventType metadata : String) (createdAt : Nat) :
    String :=
  previousHash.getD "null" ++ "|" ++ eventType ++ "|" ++ metadata ++ "|" ++ toString createdAt

/-- The approval's requested and decided events and the turn's completion, appended in one
millisecond, and the first two overlapping. -/
theorem appendAuditEvent_ties_and_forks :
    (∃ s, Reachable Sys.init (step joinedFields) s ∧
      s.rows = [auditRow joinedFields (systemEvent "agent.turn.completed")
          (some (auditRow joinedFields (systemEvent "approval.requested") none 0).hashChain) 0,
        auditRow joinedFields (systemEvent "approval.decided")
          (some (auditRow joinedFields (systemEvent "approval.requested") none 0).hashChain) 0,
        auditRow joinedFields (systemEvent "approval.requested") none 0] ∧
      ¬ Linked joinedFields s.rows) ∧
    ∃ s, Reachable Sys.init (step joinedFields) s ∧
      s.rows = [auditRow joinedFields (systemEvent "approval.decided") none 1,
        auditRow joinedFields (systemEvent "approval.requested") none 0] :=
  appendAuditEvent_ties_and_forks_for joinedFields (systemEvent "approval.requested")
    (systemEvent "approval.decided") (systemEvent "agent.turn.completed")

end ton_agent_bot.audit
