-- The rows the router means to keep one of per key: telegram_users by user id,
-- telegram_chats by chat id, chat_sessions by (chat, user, thread). Each is written by a
-- find-or-insert of db/queries/messages.ts, an UPDATE ... RETURNING or a SELECT and then an
-- INSERT when it found nothing: two statements, with only non-unique indexes behind them.
-- Router runs on the concurrent update workers interleave those statements; two runs that
-- both find a key missing both insert it. Where the find-or-inserts of one key never
-- overlap, every key keeps at most one row.
import TonAgentBot.Run

namespace ton_agent_bot.sessions

/-! ## The calls and their statements -/

/-- The key columns of a row; the constructor names the table. -/
inductive Key
  | telegramUser (telegramUserId : String)
  | telegramChat (telegramChatId : String)
  | chatSession (telegramChatId telegramUserId : String) (messageThreadId : Option Nat)
  deriving DecidableEq, Repr

/-- The find-or-insert calls of one router run, in order (telegram/bot.ts): the
upsertTelegramUser and upsertTelegramChat of routeUpdate (lines 1672-1683) or of
ensureRecordsForCallback (lines 1067-1087), then getOrCreateSession when the run goes on to
a session: a message that reaches its turn (line 1747), an approval whose session row is
gone (line 1258), the wallet-connect settings tap (line 1433). -/
def routerCalls (telegramChatId telegramUserId : String) (messageThreadId : Option Nat)
    (toSession : Bool) : List Key :=
  [.telegramUser telegramUserId, .telegramChat telegramChatId] ++
    if toSession then [.chatSession telegramChatId telegramUserId messageThreadId] else []

/-- Where a run stands: at the find of a call (the UPDATE ... RETURNING of an upsert, the
SELECT of findSessionByScope), or at the INSERT after a find that answered no row; `rest`
are the calls after it. -/
inductive Proc
  | idle
  | find (k : Key) (rest : List Key)
  | insert (k : Key) (rest : List Key)
  | ended
  deriving DecidableEq, Repr

def Proc.next : List Key → Proc
  | [] => .ended
  | k :: rest => .find k rest

@[simp] theorem Proc.next_nil : Proc.next [] = .ended := rfl
@[simp] theorem Proc.next_cons (k : Key) (rest : List Key) :
    Proc.next (k :: rest) = .find k rest := rfl

/-- The rows of the three tables, by their keys, and the runs. -/
structure Sys where
  rows : List Key
  procs : Nat → Proc

def Sys.init : Sys := ⟨[], fun _ => .idle⟩

def Sys.setProc (s : Sys) (p : Nat) (x : Proc) : Sys :=
  { s with procs := fun q => if q = p then x else s.procs q }

@[simp] theorem Sys.setProc_rows (s : Sys) (p : Nat) (x : Proc) :
    (s.setProc p x).rows = s.rows := rfl
@[simp] theorem Sys.setProc_procs (s : Sys) (p q : Nat) (x : Proc) :
    (s.setProc p x).procs q = if q = p then x else s.procs q := rfl

inductive Action
  | route (p : Nat) (telegramChatId telegramUserId : String) (messageThreadId : Option Nat)
      (toSession : Bool)
  | advance (p : Nat) (ok : Bool)
  deriving DecidableEq, Repr

/-- The next statement of run `p`. With `ok = false` the run ends there: the statement
throws, or the run returned before it (a rate limit, a callback that needs no session). A
find answers whether the key has a row; an insert always adds one. -/
def advance (s : Sys) (p : Nat) (ok : Bool) : Option Sys :=
  match s.procs p, ok with
  | .find _ _, false | .insert _ _, false => some (s.setProc p .ended)
  | .find k rest, true =>
    some (s.setProc p (if k ∈ s.rows then Proc.next rest else .insert k rest))
  | .insert k rest, true => some { s.setProc p (Proc.next rest) with rows := s.rows ++ [k] }
  | _, _ => none

/-- One step: a worker starts a router run, or a run takes its next statement. -/
def step (s : Sys) : Action → Option Sys
  | .route p c u t w =>
    if s.procs p = .idle then some (s.setProc p (Proc.next (routerCalls c u t w))) else none
  | .advance p ok => advance s p ok

/-! ## Two runs of one message insert every row twice -/

def lockstep (calls : List Key) : List Action :=
  (calls.map fun _ =>
    [Action.advance 0 true, .advance 1 true, .advance 0 true, .advance 1 true]).flatten

theorem run_lockstep : ∀ (calls : List Key) {s : Sys}, calls.Nodup →
    (∀ k ∈ calls, k ∉ s.rows) → s.procs 0 = Proc.next calls →
    s.procs 1 = Proc.next calls →
    (run step s (lockstep calls)).map (·.rows) =
      some (s.rows ++ (calls.map fun k => [k, k]).flatten)
  | [], s, _, _, _, _ => by simp [lockstep, run]
  | k :: rest, s, hd, hn, h0, h1 => by
    have hk : k ∉ s.rows := hn k (List.mem_cons_self k rest)
    obtain ⟨t, ht, hr, t0, t1⟩ : ∃ t, run step s [.advance 0 true, .advance 1 true,
        .advance 0 true, .advance 1 true] = some t ∧ t.rows = s.rows ++ [k, k] ∧
        t.procs 0 = Proc.next rest ∧ t.procs 1 = Proc.next rest :=
      ⟨_, by simp [run, step, advance, h0, h1, hk]; rfl, by simp, by simp, by simp⟩
    have hrest : ∀ j ∈ rest, j ∉ t.rows := fun j hj => by
      have hjk : j ≠ k := fun e => (List.nodup_cons.mp hd).1 (e ▸ hj)
      simpa [hr, hjk] using hn j (List.mem_cons_of_mem k hj)
    rw [show lockstep (k :: rest) = [.advance 0 true, .advance 1 true, .advance 0 true,
      .advance 1 true] ++ lockstep rest from rfl, run_append, ht, Option.some_bind,
      run_lockstep rest (List.nodup_cons.mp hd).2 hrest t0 t1, hr]
    simp

def twoRoutes (telegramChatId telegramUserId : String) (messageThreadId : Option Nat) :
    List Action :=
  [.route 0 telegramChatId telegramUserId messageThreadId true,
    .route 1 telegramChatId telegramUserId messageThreadId true] ++
    lockstep (routerCalls telegramChatId telegramUserId messageThreadId true)

/-- For every message, two runs of it interleaved reach a store with two telegram_users
rows of its user, two telegram_chats rows of its chat and two chat_sessions rows of its
scope. -/
theorem concurrent_routes_duplicate_rows (telegramChatId telegramUserId : String)
    (messageThreadId : Option Nat) :
    ∃ s, Reachable Sys.init step s ∧
      s.rows.count (.telegramUser telegramUserId) = 2 ∧
      s.rows.count (.telegramChat telegramChatId) = 2 ∧
      s.rows.count (.chatSession telegramChatId telegramUserId messageThreadId) = 2 := by
  let calls := routerCalls telegramChatId telegramUserId messageThreadId true
  have hstart : run step Sys.init [.route 0 telegramChatId telegramUserId messageThreadId true,
      .route 1 telegramChatId telegramUserId messageThreadId true] =
      some ((Sys.init.setProc 0 (Proc.next calls)).setProc 1 (Proc.next calls)) := by
    simp [run, step, Sys.init]
  obtain ⟨s, hs, h⟩ := exists_reachable_of_run_view Sys.init step (·.rows)
    (v := (calls.map fun k => [k, k]).flatten)
    (twoRoutes telegramChatId telegramUserId messageThreadId) (by
      rw [twoRoutes, run_append, hstart, Option.some_bind,
        run_lockstep calls (by simp [calls, routerCalls]) (by simp [Sys.init]) (by simp) (by simp)]
      rfl)
  exact ⟨s, hs, by simp [h, calls, routerCalls]⟩

/-! ## One row per key where the find-or-inserts of a key do not overlap -/

/-- No run takes the find of a key while another run found that key missing and has not
inserted it yet. -/
def Apart (s : Sys) : Action → Prop
  | .advance q true => ∀ k rest, s.procs q = .find k rest → ∀ p r, s.procs p ≠ .insert k r
  | _ => True

/-- Every key has at most one row; a run about to insert a key finds it missing, and is
the only run about to insert it. -/
structure OneRowPerKey (s : Sys) : Prop where
  rows : ∀ k, s.rows.count k ≤ 1
  missing : ∀ p k rest, s.procs p = .insert k rest → k ∉ s.rows
  alone : ∀ p q k r r', s.procs p = .insert k r → s.procs q = .insert k r' → p = q

variable {s s' : Sys} {p : Nat}

theorem OneRowPerKey.init : OneRowPerKey Sys.init :=
  ⟨fun _ => by simp [Sys.init], fun _ _ _ h => (by cases h), fun _ _ _ _ _ h => (by cases h)⟩

theorem Proc.next_ne_insert (calls : List Key) (k : Key) (r : List Key) :
    Proc.next calls ≠ .insert k r := by
  cases calls <;> simp [Proc.next]

theorem OneRowPerKey.setProc (h : OneRowPerKey s) {x : Proc}
    (hx : ∀ k r, x = .insert k r → k ∉ s.rows ∧ ∀ q r', q ≠ p → s.procs q ≠ .insert k r') :
    OneRowPerKey (s.setProc p x) := by
  refine ⟨h.rows, fun q k r hq => ?_, fun q q' k r r' hq hq' => ?_⟩
  · simp only [Sys.setProc_procs] at hq
    split_ifs at hq
    · exact (hx k r hq).1
    · exact h.missing q k r hq
  · simp only [Sys.setProc_procs] at hq hq'
    split_ifs at hq hq' with e e'
    · exact e.trans e'.symm
    · exact absurd hq' ((hx k r hq).2 q' r' e')
    · exact absurd hq ((hx k r' hq').2 q r e)
    · exact h.alone _ _ _ _ _ hq hq'

theorem OneRowPerKey.addRow (h : OneRowPerKey s) {k : Key} (hk : k ∉ s.rows)
    (hnone : ∀ q r, s.procs q ≠ .insert k r) : OneRowPerKey { s with rows := s.rows ++ [k] } := by
  refine ⟨fun j => ?_, fun q j r hq => ?_, h.alone⟩
  · by_cases hj : j = k
    · subst hj; simp [List.count_eq_zero_of_not_mem hk]
    · simpa [List.count_singleton', Ne.symm hj] using h.rows j
  · have hjk : j ≠ k := fun e => hnone q r (e ▸ hq)
    simpa [hjk] using h.missing q j r hq

theorem OneRowPerKey.setProc_next (h : OneRowPerKey s) (rest : List Key) :
    OneRowPerKey (s.setProc p (Proc.next rest)) :=
  h.setProc fun _ _ hx => absurd hx (Proc.next_ne_insert _ _ _)

theorem OneRowPerKey.of_insert (h : OneRowPerKey s) {k : Key} {rest : List Key}
    (hp : s.procs p = .insert k rest) :
    OneRowPerKey { s.setProc p (Proc.next rest) with rows := s.rows ++ [k] } := by
  refine (h.setProc_next rest).addRow (h.missing p k rest hp) fun q r hq => ?_
  simp only [Sys.setProc_procs] at hq
  split_ifs at hq with e
  · exact Proc.next_ne_insert _ _ _ hq
  · exact e (h.alone q p k r rest hq hp)

theorem OneRowPerKey.of_step (h : OneRowPerKey s) {a : Action} (ha : Apart s a)
    (hs : step s a = some s') : OneRowPerKey s' := by
  cases a with
  | route q c u t w =>
    simp only [step] at hs
    split_ifs at hs
    cases hs
    exact h.setProc_next _
  | advance q ok =>
    simp only [step, advance] at hs
    split at hs <;> cases hs
    · exact h.setProc fun _ _ hx => (by cases hx)
    · exact h.setProc fun _ _ hx => (by cases hx)
    · rename_i k rest hq
      split_ifs with hk
      · exact h.setProc_next rest
      · exact h.setProc fun _ _ hx => by cases hx; exact ⟨hk, fun q r _ => ha k rest hq q r⟩
    · rename_i k rest hq
      exact h.of_insert hq

/-- In every state reached with the find-or-inserts of each key apart, every key has at
most one row. -/
theorem apart_routes_keep_one_row_per_key (h : ReachableWhere Apart Sys.init step s) (k : Key) :
    s.rows.count k ≤ 1 :=
  (h.invariant OneRowPerKey OneRowPerKey.init fun _ _ _ hi ha hs => hi.of_step ha hs).rows k

def Action.proc : Action → Nat
  | .route p .. => p
  | .advance p _ => p

@[simp] theorem Action.proc_route (p : Nat) (c u : String) (t : Option Nat) (w : Bool) :
    (Action.route p c u t w).proc = p := rfl
@[simp] theorem Action.proc_advance (p : Nat) (ok : Bool) : (Action.advance p ok).proc = p := rfl

theorem step_procs_of_ne {a : Action} (hs : step s a = some s') {q : Nat} (hq : q ≠ a.proc) :
    s'.procs q = s.procs q := by
  cases a with
  | route p c u t w =>
    simp only [step] at hs
    split_ifs at hs
    cases hs
    simp [show q ≠ p from hq]
  | advance p ok =>
    simp only [step, advance] at hs
    split at hs <;> cases hs <;> simp [show q ≠ p from hq]

theorem apart_of_others {a : Action}
    (h : ∀ q, q ≠ a.proc → ∀ k r, s.procs q ≠ .insert k r) : Apart s a := by
  cases a with
  | route => trivial
  | advance q ok =>
    cases ok
    · trivial
    · intro k rest hq p r hp
      by_cases e : p = q
      · subst e; rw [hq] at hp; cases hp
      · exact h p e k r hp

theorem allowedAlong_alone : ∀ (as : List Action) {s : Sys}, (∀ a ∈ as, a.proc = p) →
    (∀ q, q ≠ p → ∀ k r, s.procs q ≠ .insert k r) → AllowedAlong Apart step s as
  | [], _, _, _ => trivial
  | a :: as, s, ha, h => by
    have hp : a.proc = p := ha a (List.mem_cons_self a as)
    refine ⟨apart_of_others fun q hq => h q (hp ▸ hq), fun s' hs => ?_⟩
    refine allowedAlong_alone as (fun b hb => ha b (List.mem_cons_of_mem a hb)) fun q hq k r => ?_
    rw [step_procs_of_ne hs (hp ▸ hq)]
    exact h q hq k r

def loneRoute : List Action :=
  .route 0 "100" "7" none true :: List.replicate 6 (.advance 0 true)

def loneState : Sys := (run step Sys.init loneRoute).getD Sys.init

theorem lone_route_keeps_one_row :
    ReachableWhere Apart Sys.init step loneState ∧
      loneState.rows.count (.chatSession "100" "7" none) ≤ 1 :=
  have h : ReachableWhere Apart Sys.init step loneState :=
    .of_run loneRoute .init (allowedAlong_alone (p := 0) loneRoute (by decide) (by simp [Sys.init]))
      rfl
  ⟨h, apart_routes_keep_one_row_per_key h _⟩

end ton_agent_bot.sessions
