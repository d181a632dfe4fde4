-- The rate-limit notice of routeUpdate (telegram/bot) under any interleaving of denied
-- messages, SETs at the store and clock moves. A denied call sends its notice when
-- shouldSendRateLimitNotice's SET NX EX of the user's and reason's key answers OK, or
-- throws. So a key answers null only within the cooldown of an OK SET, and for each user
-- and reason at most one notice whose SET answered OK goes out in any window of the cooldown.
import TonAgentBot.RateLimit

namespace ton_agent_bot.rate_limit_notice

open ton_agent_bot.rate_limit

/-! ## The key and the answer -/

/-- `isNotifiableRateLimitReason` of telegram/bot. -/
def isNotifiableRateLimitReason : RateLimitReason → Bool
  | .chat_flood | .user_burst | .user_minute | .user_daily => true
  | _ => false

/-- The `blockedReason` of a denied check in routeUpdate: the decision's reason when a
notice can name it, else the check's own (`chat_flood` for the chat limit, `user_minute`
for the turn quota). -/
def blockedReason (fallback : RateLimitReason) (d : RateLimitDecision) : RateLimitReason :=
  if isNotifiableRateLimitReason d.reason then d.reason else fallback

/-- The key `rl:v1:notice:<user>:<reason>` of shouldSendRateLimitNotice. Telegram ids hold
no `:`, so distinct keys here are distinct strings there. -/
structure NoticeKey where
  telegramUserId : String
  reason : RateLimitReason
  deriving DecidableEq, Repr

/-- What `SET key "1" EX cooldown NX` gave: "OK", null (the key was there), or a throw. -/
inductive SetAnswer
  | ok
  | nil
  | threw
  deriving DecidableEq, Repr

/-- shouldSendRateLimitNotice's result: `result === "OK"`, and `true` from its `catch`. -/
def SetAnswer.shouldNotify : SetAnswer → Bool
  | .ok | .threw => true
  | .nil => false

/-- `SET key "1" EX seconds NX` at `now` on a key that expires at `e`. Redis rejects an
expiry of 0; a key is alive until `now` passes its expiry, and an alive key is kept with
a null answer; else the key is set to expire `seconds` from now. -/
def setNxEx (e : Option Nat) (now seconds : Nat) : Option Nat × SetAnswer :=
  if seconds = 0 then (e, .threw)
  else match e with
    | some e => if now ≤ e then (some e, .nil) else (some (now + seconds * 1000), .ok)
    | none => (some (now + seconds * 1000), .ok)

/-- The SET of a call at the store: the command, or with `ok = false` a failure of the
connection, which leaves the key. -/
def setResult (ok : Bool) (e : Option Nat) (now seconds : Nat) : Option Nat × SetAnswer :=
  if ok then setNxEx e now seconds else (e, .threw)

theorem setResult_cases (ok : Bool) (e : Option Nat) (now seconds : Nat) :
    ((setResult ok e now seconds).1 = e ∧ (setResult ok e now seconds).2 ≠ .ok ∧
      ((setResult ok e now seconds).2 = .nil → ∃ e', e = some e' ∧ now ≤ e')) ∨
    ((setResult ok e now seconds).2 = .ok ∧
      (setResult ok e now seconds).1 = some (now + seconds * 1000) ∧ ∀ e', e = some e' → e' < now) := by
  unfold setResult setNxEx
  cases ok
  · simp
  · by_cases h0 : seconds = 0
    · simp [h0]
    · rcases e with _ | e
      · simp [h0]
      · by_cases hn : now ≤ e <;> simp [h0, hn]; omega

/-! ## The calls -/

/-- A SET that ran: the call, the key, the time in milliseconds, the answer. -/
structure NoticeSet where
  proc : Nat
  key : NoticeKey
  time : Nat
  answer : SetAnswer
  deriving DecidableEq, Repr

/-- A notice sent: the call, the chat, the decision that `formatRateLimitMessage` renders,
and the cooldown SET its call ran. -/
structure Notice where
  proc : Nat
  telegramChatId : String
  decision : RateLimitDecision
  cooldown : NoticeSet
  deriving DecidableEq, Repr

/-- Where a denied call stands: its SET sent, its answer back, or returned. -/
inductive Pc
  | idle
  | setting (key : NoticeKey) (telegramChatId : String) (decision : RateLimitDecision)
  | replied (cooldown : NoticeSet) (telegramChatId : String) (decision : RateLimitDecision)
  | done
  deriving DecidableEq, Repr

/-- The clock in milliseconds, the expiry of each notice key, the calls, and the logs of
the SETs run and of the notices sent. -/
structure Sys where
  now : Nat
  store : NoticeKey → Option Nat
  procs : Nat → Pc
  sets : List NoticeSet
  notices : List Notice

def Sys.init : Sys := ⟨0, fun _ => none, fun _ => .idle, [], []⟩

def Sys.setProc (s : Sys) (p : Nat) (x : Pc) : Sys :=
  { s with procs := fun q => if q = p then x else s.procs q }

@[simp] theorem Sys.setProc_now (s : Sys) (p : Nat) (x : Pc) : (s.setProc p x).now = s.now := rfl
@[simp] theorem Sys.setProc_store (s : Sys) (p : Nat) (x : Pc) :
    (s.setProc p x).store = s.store := rfl
@[simp] theorem Sys.setProc_sets (s : Sys) (p : Nat) (x : Pc) : (s.setProc p x).sets = s.sets := rfl
@[simp] theorem Sys.setProc_notices (s : Sys) (p : Nat) (x : Pc) :
    (s.setProc p x).notices = s.notices := rfl
@[simp] theorem Sys.setProc_procs (s : Sys) (p q : Nat) (x : Pc) :
    (s.setProc p x).procs q = if q = p then x else s.procs q := rfl

section
variable (noticeCooldownSeconds : Nat)

/-- Call `p` of a denied check (the `if (!decision.allowed)` of routeUpdate) sends the SET
of shouldSendRateLimitNotice for its user and blocked reason. -/
def Sys.start (s : Sys) (p : Nat) (telegramUserId telegramChatId : String)
    (fallback : RateLimitReason) (d : RateLimitDecision) : Option Sys :=
  if s.procs p = .idle ∧ d.allowed = false then
    some (s.setProc p (.setting ⟨telegramUserId, blockedReason fallback d⟩ telegramChatId d))
  else none

/-- The SET of call `p` runs at the store now, and its answer is on its way back. -/
def Sys.runSet (s : Sys) (p : Nat) (key : NoticeKey) (telegramChatId : String)
    (d : RateLimitDecision) (ok : Bool) : Sys :=
  let r := setResult ok (s.store key) s.now noticeCooldownSeconds
  let x : NoticeSet := ⟨p, key, s.now, r.2⟩
  { s with
    store := fun k => if k = key then r.1 else s.store k
    sets := s.sets ++ [x]
    procs := fun q => if q = p then .replied x telegramChatId d else s.procs q }

/-- Call `p` resumes with its answer: `if (shouldNotify)` it sends the notice, and it
returns. -/
def Sys.resume (s : Sys) (p : Nat) (x : NoticeSet) (telegramChatId : String)
    (d : RateLimitDecision) : Sys :=
  { s.setProc p .done with
    notices := if x.answer.shouldNotify then s.notices ++ [⟨p, telegramChatId, d, x⟩]
      else s.notices }

inductive Action
  | chatDenied (p : Nat) (telegramUserId telegramChatId : String) (decision : RateLimitDecision)
  | quotaDenied (p : Nat) (telegramUserId telegramChatId : String) (decision : RateLimitDecision)
  | set (p : Nat) (ok : Bool)
  | resume (p : Nat)
  | advanceClock (ms : Nat)
  deriving DecidableEq, Repr

/-- One step: the chat limit (lines 1655-1668 of telegram/bot) or the turn quota (lines
1694-1707) denies a call, which sends its SET; a call's SET runs; a call resumes; the
clock moves. -/
def step (s : Sys) : Action → Option Sys
  | .chatDenied p u c d => s.start p u c .chat_flood d
  | .quotaDenied p u c d => s.start p u c .user_minute d
  | .set p ok =>
    match s.procs p with
    | .setting key c d => some (s.runSet noticeCooldownSeconds p key c d ok)
    | _ => none
  | .resume p =>
    match s.procs p with
    | .replied x c d => some (s.resume p x c d)
    | _ => none
  | .advanceClock ms => some { s with now := s.now + ms }

end

/-! ## The limiter names the reason

Every decision the limiter denies carries the reason of its window, one a notice can name:
routeUpdate's fallbacks (`chat_flood`, `user_minute`) are never taken, and the notice's key
is the user's and the limiter's own reason. -/

/-- A denied decision of the limiter's log names a reason a notice can name. -/
def DeniedNamed (s : rate_limit.Sys) : Prop :=
  ∀ d ∈ s.decisions, d.decision.allowed = false →
    isNotifiableRateLimitReason d.decision.reason = true

theorem DeniedNamed.decide {s : rate_limit.Sys} (h : DeniedNamed s) {p : Nat}
    {d : RateLimitDecision} {counts : List (CounterKey × Nat)}
    (hd : d.allowed = false → isNotifiableRateLimitReason d.reason = true) :
    DeniedNamed (s.decide p d counts) := by
  intro x hx
  rcases List.mem_append.1 hx with hx | hx
  · exact h x hx
  · rw [List.mem_singleton.1 hx]; exact hd

theorem DeniedNamed.resume {config : RateLimitConfig} {s : rate_limit.Sys} (h : DeniedNamed s)
    (p : Nat) (tier : RateLimitTier) (key : CounterKey) (keyedAt count ttl : Nat)
    (counts : List (CounterKey × Nat)) :
    DeniedNamed (rate_limit.resume config s p tier key keyedAt count ttl counts) := by
  cases key <;> simp only [rate_limit.resume] <;> split_ifs <;>
    first
    | exact h.decide fun _ => rfl
    | exact h.decide fun e => by cases e
    | exact h

theorem DeniedNamed.of_step {config : RateLimitConfig} {s s' : rate_limit.Sys} (h : DeniedNamed s)
    {a : rate_limit.Action} (hs : rate_limit.step config s a = some s') : DeniedNamed s' := by
  cases a with
  | checkChatSpamLimit | checkUserTurnQuota =>
    simp only [rate_limit.step] at hs
    split_ifs at hs
    cases hs
    exact h
  | script q ok =>
    simp only [rate_limit.step] at hs
    split at hs <;> try cases hs
    split at hs <;> cases hs
    · exact h
    · exact h.decide fun e => by cases e
  | resume q =>
    simp only [rate_limit.step] at hs
    split at hs <;> cases hs
    exact h.resume _ _ _ _ _ _ _
  | advanceClock => cases hs; exact h

def okSets (sets : List NoticeSet) (key : NoticeKey) : List NoticeSet :=
  sets.filter fun x => x.key = key ∧ x.answer = .ok

section
variable {cd : Nat} {s : Sys} {p : Nat}

/-- What every reachable system keeps. A key's expiry is the cooldown after an OK SET of
it, and covers the cooldown of each of them; the OK SETs of a key are more than the
cooldown apart; a null answer came within the cooldown of an OK SET; a call that has its
answer holds its own SET, and a notice carries its call's SET, which did not answer null. -/
structure NoticeLaw (cd : Nat) (s : Sys) : Prop where
  past : ∀ x ∈ s.sets, x.time ≤ s.now
  expiry : ∀ key e, s.store key = some e →
    ∃ y ∈ s.sets, y.key = key ∧ y.answer = .ok ∧ e = y.time + cd * 1000
  covered : ∀ x ∈ s.sets, x.answer = .ok → ∃ e, s.store x.key = some e ∧ x.time + cd * 1000 ≤ e
  spaced : ∀ key, ((okSets s.sets key).map (·.time)).Pairwise fun a b => a + cd * 1000 < b
  held : ∀ x ∈ s.sets, x.answer = .nil →
    ∃ y ∈ s.sets, y.key = x.key ∧ y.answer = .ok ∧ y.time ≤ x.time ∧ x.time ≤ y.time + cd * 1000
  replied : ∀ q x c d, s.procs q = .replied x c d → x ∈ s.sets ∧ x.proc = q
  sent : ∀ n ∈ s.notices, n.cooldown ∈ s.sets ∧ n.cooldown.proc = n.proc ∧
    n.cooldown.answer ≠ .nil ∧ s.procs n.proc = .done
  nodup : (s.notices.map (·.proc)).Nodup

theorem NoticeLaw.init : NoticeLaw cd Sys.init :=
  ⟨by simp [Sys.init], by simp [Sys.init], by simp [Sys.init], by simp [Sys.init, okSets],
    by simp [Sys.init], by simp [Sys.init], by simp [Sys.init], by simp [Sys.init]⟩

theorem NoticeLaw.notice_proc_ne (h : NoticeLaw cd s) (hp : s.procs p ≠ .done) :
    ∀ n ∈ s.notices, n.proc ≠ p := fun n hn e => hp (e ▸ (h.sent n hn).2.2.2)

theorem NoticeLaw.setProc (h : NoticeLaw cd s) {x : Pc} (hp : s.procs p ≠ .done)
    (hx : ∀ y c d, x = .replied y c d → y ∈ s.sets ∧ y.proc = p) : NoticeLaw cd (s.setProc p x) := by
  refine ⟨h.past, h.expiry, h.covered, h.spaced, h.held, fun q y c d hq => ?_, fun n hn => ?_,
    h.nodup⟩
  · simp only [Sys.setProc_procs] at hq
    split_ifs at hq with hqp
    · subst hqp; exact hx y c d hq
    · exact h.replied q y c d hq
  · obtain ⟨h1, h2, h3, h4⟩ := h.sent n hn
    exact ⟨h1, h2, h3, by simp [h.notice_proc_ne hp n hn, h4]⟩

theorem okSets_append (sets : List NoticeSet) (x : NoticeSet) (key : NoticeKey) :
    okSets (sets ++ [x]) key = okSets sets key ++ if x.key = key ∧ x.answer = .ok then [x] else [] := by
  unfold okSets
  rw [List.filter_append]
  by_cases hx : x.key = key ∧ x.answer = .ok <;> simp [hx]

theorem NoticeLaw.runSet (h : NoticeLaw cd s) {key : NoticeKey} {c : String}
    {d : RateLimitDecision} (hp : s.procs p = .setting key c d) (ok : Bool) :
    NoticeLaw cd (s.runSet cd p key c d ok) := by
  have hpd := h.notice_proc_ne (by rw [hp]; exact Pc.noConfusion)
  have hstore : ∀ k, (s.runSet cd p key c d ok).store k =
      if k = key then (setResult ok (s.store key) s.now cd).1 else s.store k := fun _ => rfl
  have hsets : (s.runSet cd p key c d ok).sets =
      s.sets ++ [⟨p, key, s.now, (setResult ok (s.store key) s.now cd).2⟩] := rfl
  have hprocs : ∀ q, (s.runSet cd p key c d ok).procs q = if q = p then
      .replied ⟨p, key, s.now, (setResult ok (s.store key) s.now cd).2⟩ c d else s.procs q :=
    fun _ => rfl
  have hcases := setResult_cases ok (s.store key) s.now cd
  generalize setResult ok (s.store key) s.now cd = r at hstore hsets hprocs hcases
  -- the SETs after it: those before, and its own
  have old : ∀ y ∈ s.sets, y ∈ (s.runSet cd p key c d ok).sets := fun _ hy =>
    hsets ▸ List.mem_append_left _ hy
  have mem : ∀ y ∈ (s.runSet cd p key c d ok).sets, y ∈ s.sets ∨ y = ⟨p, key, s.now, r.2⟩ := by
    simp [hsets]
  -- the keys the SET leaves, and the OK SETs that keep their cover
  have other : ∀ k, k ≠ key → (s.runSet cd p key c d ok).store k = s.store k := fun k hk => by
    rw [hstore, if_neg hk]
  have cover : ∀ y ∈ s.sets, y.answer = .ok →
      ∃ e, (s.runSet cd p key c d ok).store y.key = some e ∧ y.time + cd * 1000 ≤ e := by
    intro y hy hok
    obtain ⟨e, he, hle⟩ := h.covered y hy hok
    by_cases hk : y.key = key
    · rw [hstore, if_pos hk]
      rw [hk] at he
      rcases hcases with ⟨h1, -, -⟩ | ⟨-, h1, hlt⟩
      · exact ⟨e, h1.trans he, hle⟩
      · exact ⟨_, h1, by have := hlt e he; omega⟩
    · exact ⟨e, (other _ hk).trans he, hle⟩
  refine ⟨fun y hy => ?_, fun k e he => ?_, fun y hy hok => ?_, fun k => ?_, fun y hy hnil => ?_,
    fun q y c' d' hq => ?_, fun n hn => ?_, h.nodup⟩
  · -- past
    rcases mem y hy with hy | rfl
    · exact h.past y hy
    · exact le_rfl
  · -- expiry
    by_cases hk : k = key
    · subst hk
      rw [hstore, if_pos rfl] at he
      rcases hcases with ⟨h1, -, -⟩ | ⟨h2, h1, -⟩
      · obtain ⟨y, hy, hyk⟩ := h.expiry k e (h1 ▸ he); exact ⟨y, old y hy, hyk⟩
      · rw [h1] at he
        exact ⟨_, hsets ▸ List.mem_append_right _ (List.mem_singleton_self _), rfl, h2,
          (Option.some.inj he).symm⟩
    · rw [other k hk] at he
      obtain ⟨y, hy, hyk⟩ := h.expiry k e he
      exact ⟨y, old y hy, hyk⟩
  · -- covered
    rcases mem y hy with hy | rfl
    · exact cover y hy hok
    · rw [hstore, if_pos rfl]
      rcases hcases with ⟨-, hne, -⟩ | ⟨-, h1, -⟩
      · exact absurd hok hne
      · exact ⟨_, h1, le_rfl⟩
  · -- spaced
    rw [hsets, okSets_append]
    split_ifs with hxk
    · rw [List.map_append, List.pairwise_append]
      refine ⟨h.spaced k, List.pairwise_singleton _ _, fun a ha b hb => ?_⟩
      obtain ⟨y, hy, rfl⟩ := List.mem_map.1 ha
      obtain ⟨hy, hyk, hyok⟩ : y ∈ s.sets ∧ y.key = k ∧ y.answer = .ok := by
        simpa [okSets] using hy
      rw [List.map_singleton, List.mem_singleton] at hb
      subst hb
      obtain ⟨e, he, hle⟩ := h.covered y hy hyok
      rw [hyk, ← hxk.1] at he
      rcases hcases with ⟨-, hne, -⟩ | ⟨-, -, hlt⟩
      · exact absurd hxk.2 hne
      · have := hlt e he; dsimp only; omega
    · rw [List.append_nil]; exact h.spaced k
  · -- held
    rcases mem y hy with hy | rfl
    · obtain ⟨z, hz, hzk⟩ := h.held y hy hnil
      exact ⟨z, old z hz, hzk⟩
    · rcases hcases with ⟨-, -, hheld⟩ | ⟨h2, -⟩
      · obtain ⟨e, he, hle⟩ := hheld hnil
        obtain ⟨z, hz, hzk, hzok, rfl⟩ := h.expiry key _ he
        exact ⟨z, old z hz, hzk, hzok, h.past z hz, hle⟩
      · rw [h2] at hnil; cases hnil
  · -- replied
    rw [hprocs] at hq
    split_ifs at hq with hqp
    · cases hq; exact ⟨hsets ▸ List.mem_append_right _ (List.mem_singleton_self _), hqp.symm⟩
    · obtain ⟨h1, h2⟩ := h.replied q y c' d' hq
      exact ⟨old y h1, h2⟩
  · -- sent
    obtain ⟨h1, h2, h3, h4⟩ := h.sent n hn
    refine ⟨old _ h1, h2, h3, ?_⟩
    rw [hprocs, if_neg (hpd n hn), h4]

theorem NoticeLaw.resume (h : NoticeLaw cd s) {x : NoticeSet} {c : String}
    {d : RateLimitDecision} (hp : s.procs p = .replied x c d) :
    NoticeLaw cd (s.resume p x c d) := by
  have h1 := h.setProc (x := .done) (p := p) (by rw [hp]; exact Pc.noConfusion) fun _ _ _ e => by
    cases e
  unfold Sys.resume
  split_ifs with hn
  · obtain ⟨hx, hxp⟩ := h.replied p x c d hp
    have hfresh : p ∉ s.notices.map (·.proc) := fun hm => by
      obtain ⟨n, hn', e⟩ := List.mem_map.1 hm
      exact h.notice_proc_ne (by rw [hp]; exact Pc.noConfusion) n hn' e
    refine ⟨h1.past, h1.expiry, h1.covered, h1.spaced, h1.held, h1.replied, fun n hn' => ?_, ?_⟩
    · rw [List.mem_append, List.mem_singleton] at hn'
      rcases hn' with hn' | rfl
      · exact h1.sent n hn'
      · refine ⟨hx, hxp, fun e => ?_, by simp⟩
        rw [e] at hn; cases hn
    · rw [List.map_append, List.map_singleton]
      exact List.nodup_append.2 ⟨h.nodup, List.nodup_singleton _, by simpa using hfresh⟩
  · exact h1

theorem NoticeLaw.of_step (h : NoticeLaw cd s) {a : Action} {s' : Sys} (hs : step cd s a = some s') :
    NoticeLaw cd s' := by
  cases a with
  | chatDenied q u c d | quotaDenied q u c d =>
    simp only [step, Sys.start] at hs
    split_ifs at hs with hq
    · cases hs
      exact h.setProc (by rw [hq.1]; exact Pc.noConfusion) fun _ _ _ e => by cases e
  | set q ok =>
    simp only [step] at hs
    split at hs <;> cases hs
    exact h.runSet ‹_› ok
  | resume q =>
    simp only [step] at hs
    split at hs <;> cases hs
    exact h.resume ‹_›
  | advanceClock ms =>
    cases hs
    exact { h with past := fun y hy => (h.past y hy).trans (Nat.le_add_right _ _) }

theorem NoticeLaw.reachable (h : Reachable Sys.init (step cd) s) : NoticeLaw cd s :=
  h.invariant _ NoticeLaw.init fun _ _ _ hi hs => hi.of_step hs

end

/-! ## At most one notice a cooldown -/

theorem window_length_le_one {c t : Nat} :
    ∀ {l : List Nat}, l.Pairwise (fun a b => a + c < b) →
      (l.filter fun a => t ≤ a ∧ a ≤ t + c).length ≤ 1
  | [], _ => by simp
  | a :: l, h => by
    rw [List.pairwise_cons] at h
    by_cases ha : t ≤ a ∧ a ≤ t + c
    · have hnil : l.filter (fun b => t ≤ b ∧ b ≤ t + c) = [] :=
        List.filter_eq_nil_iff.2 fun b hb => by have := h.1 b hb; simp only [decide_eq_true_eq]; omega
      rw [List.filter_cons_of_pos (by simpa using ha), hnil]
      rfl
    · simpa [List.filter_cons, ha] using window_length_le_one h.2

/-- In every reachable state of any interleaving of denied calls, SETs (any of which may
throw) and clock moves: for each user, reason and window of the cooldown, at most one
notice went out whose SET answered OK; a SET answered null only within the cooldown of an
OK SET of its key; and every notice went out after its own call's SET, which answered OK
or threw. -/
theorem notices_one_per_cooldown {cd : Nat} {s : Sys} (h : Reachable Sys.init (step cd) s)
    (key : NoticeKey) (t : Nat) :
    (s.notices.filter fun n => n.cooldown.key = key ∧ n.cooldown.answer = .ok ∧
        t ≤ n.cooldown.time ∧ n.cooldown.time ≤ t + cd * 1000).length ≤ 1 ∧
      (∀ x ∈ s.sets, x.answer = .nil → ∃ y ∈ s.sets, y.key = x.key ∧ y.answer = .ok ∧
        y.time ≤ x.time ∧ x.time ≤ y.time + cd * 1000) ∧
      ∀ n ∈ s.notices, n.cooldown ∈ s.sets ∧ n.cooldown.proc = n.proc ∧ n.cooldown.answer ≠ .nil := by
  have hl := NoticeLaw.reachable h
  refine ⟨?_, hl.held, fun n hn => ⟨(hl.sent n hn).1, (hl.sent n hn).2.1, (hl.sent n hn).2.2.1⟩⟩
  set W := s.notices.filter fun n => n.cooldown.key = key ∧ n.cooldown.answer = .ok ∧
    t ≤ n.cooldown.time ∧ n.cooldown.time ≤ t + cd * 1000
  -- the notices of the window, by their calls, are distinct OK SETs of the window
  have hnd : (W.map (·.cooldown)).Nodup := by
    refine List.Nodup.of_map (·.proc) ?_
    rw [List.map_map]
    have hW : W.map ((·.proc) ∘ (·.cooldown)) = W.map (·.proc) :=
      List.map_congr_left fun n hn => (hl.sent n (List.mem_of_mem_filter hn)).2.1
    rw [hW]
    exact hl.nodup.sublist ((List.filter_sublist _).map _)
  have hsub : W.map (·.cooldown) ⊆
      (okSets s.sets key).filter fun x => t ≤ x.time ∧ x.time ≤ t + cd * 1000 := by
    intro x hx
    obtain ⟨n, hn, rfl⟩ := List.mem_map.1 hx
    obtain ⟨hn, hw⟩ := List.mem_filter.1 hn
    simp only [decide_eq_true_eq] at hw
    simp [okSets, (hl.sent n hn).1, hw]
  calc W.length = (W.map (·.cooldown)).length := (List.length_map _ _).symm
    _ ≤ ((okSets s.sets key).filter fun x => t ≤ x.time ∧ x.time ≤ t + cd * 1000).length :=
      (List.subperm_of_subset hnd hsub).length_le
    _ = (((okSets s.sets key).map (·.time)).filter fun a => t ≤ a ∧ a ≤ t + cd * 1000).length := by
      rw [List.filter_map, List.length_map]; rfl
    _ ≤ 1 := window_length_le_one (hl.spaced key)

def deniedFourTimes : List Action :=
  let d := deniedDecision .free .user_burst 3 none
  [.quotaDenied 0 "7" "70" d, .set 0 true, .resume 0,
   .advanceClock 500, .quotaDenied 1 "7" "70" d, .set 1 true, .resume 1,
   .advanceClock 19501, .quotaDenied 2 "7" "71" d, .set 2 true, .resume 2,
   .quotaDenied 3 "7" "70" d, .set 3 false, .resume 3]

def deniedFourTimesState : Sys := (run (step 20) Sys.init deniedFourTimes).getD Sys.init

theorem denied_four_times_notified_thrice :
    Reachable Sys.init (step 20) deniedFourTimesState ∧ deniedFourTimesState.notices.length = 3 ∧
      (deniedFourTimesState.notices.filter fun n => n.cooldown.key = ⟨"7", .user_burst⟩ ∧
          n.cooldown.answer = .ok ∧ 0 ≤ n.cooldown.time ∧ n.cooldown.time ≤ 0 + 20 * 1000).length ≤ 1 :=
  have hs := (reaches_of_run (step 20) deniedFourTimes (s := Sys.init)
    (t := deniedFourTimesState) rfl).reachable .init
  ⟨hs, by decide, (notices_one_per_cooldown hs ⟨"7", .user_burst⟩ 0).1⟩

end ton_agent_bot.rate_limit_notice
