-- The rate limiter of security/encryption.ts (its second part): checkUserTurnQuota and
-- checkChatSpamLimit over Redis counters, one counter per (scope, window, bucket), each
-- incremented by INCR_WITH_TTL_LUA and given, at its first increment, a TTL of the window
-- plus a grace. Calls run concurrently: a call computes a counter's key, its script runs
-- at the store later, and the call resumes later still. A counter counts the calls of its
-- bucket only while it lives, so a script that runs after the key expired starts the
-- bucket's count again; when every script runs within the grace of its key, no counter
-- expires while scripts of its bucket are still to come, and the limits hold.
import Mathlib.Data.List.Nodup
import Mathlib.Data.List.Perm.Subperm
import TonAgentBot.Run

namespace ton_agent_bot.rate_limit

/-! ## Configuration, tiers and windows -/

def COUNTER_TTL_GRACE_SECONDS : Nat := 5
def DAILY_COUNTER_TTL_GRACE_SECONDS : Nat := 60
def MS_PER_DAY : Nat := 86400000

inductive RateLimitTier
  | free
  | trusted
  deriving DecidableEq, Repr

inductive RateLimitReason
  | allowed
  | chat_flood
  | user_burst
  | user_minute
  | user_daily
  | rate_limit_storage_error
  deriving DecidableEq, Repr

structure TierLimits where
  burstMax : Nat
  minuteMax : Nat
  dailyMax : Nat
  deriving DecidableEq, Repr

/-- `getRateLimitConfig`, without the notice cooldown that no modelled function reads. The
environment schema bounds each window below by 1 second. -/
structure RateLimitConfig where
  burstWindowSeconds : Nat
  minuteWindowSeconds : Nat
  chatMinuteMax : Nat
  trustedUserIds : List String
  free : TierLimits
  trustedMultiplier : Nat
  burstWindow_pos : 0 < burstWindowSeconds
  minuteWindow_pos : 0 < minuteWindowSeconds

def getTierForUser (telegramUserId : String) (config : RateLimitConfig) : RateLimitTier :=
  if telegramUserId ∈ config.trustedUserIds then .trusted else .free

def getTierLimits (tier : RateLimitTier) (config : RateLimitConfig) : TierLimits :=
  match tier with
  | .trusted => ⟨config.free.burstMax * config.trustedMultiplier,
      config.free.minuteMax * config.trustedMultiplier,
      config.free.dailyMax * config.trustedMultiplier⟩
  | .free => config.free

/-- `getWindowBucket` at the time `now`, in milliseconds. -/
def getWindowBucket (windowSeconds now : Nat) : Nat := now / 1000 / windowSeconds

/-- `getUtcDailyWindow`; the day key `yyyymmdd` stands for the day's number since the epoch,
and a date for its milliseconds. -/
structure UtcDailyWindow where
  dayKey : Nat
  counterTtlSeconds : Nat
  secondsUntilReset : Nat
  resetsAtUtc : Nat
  deriving DecidableEq, Repr

def getUtcDailyWindow (now : Nat) : UtcDailyWindow :=
  let nextMidnight := (now / MS_PER_DAY + 1) * MS_PER_DAY
  let secondsUntilReset := max 1 ((nextMidnight - now + 999) / 1000)
  ⟨now / MS_PER_DAY, secondsUntilReset + DAILY_COUNTER_TTL_GRACE_SECONDS, secondsUntilReset,
    nextMidnight⟩

/-! ## Decisions -/

/-- The daily usage an allowed or a daily-denied user decision carries. -/
structure DailyUsage where
  dailyUsed : Nat
  dailyLimit : Nat
  resetsAtUtc : Nat
  deriving DecidableEq, Repr

structure RateLimitDecision where
  allowed : Bool
  reason : RateLimitReason
  retryAfterSeconds : Nat
  tier : RateLimitTier
  daily : Option DailyUsage
  deriving DecidableEq, Repr

def allowedDecision (tier : RateLimitTier) (extra : Option DailyUsage) : RateLimitDecision :=
  ⟨true, .allowed, 0, tier, extra⟩

def deniedDecision (tier : RateLimitTier) (reason : RateLimitReason) (retryAfterSeconds : Nat)
    (extra : Option DailyUsage) : RateLimitDecision :=
  ⟨false, reason, max 1 retryAfterSeconds, tier, extra⟩

def failOpenDecision (tier : RateLimitTier) : RateLimitDecision :=
  ⟨true, .rate_limit_storage_error, 0, tier, none⟩

/-! ## The counters -/

/-- A counter's key, `rl:v1:chat:<chat>:m:<bucket>` or `rl:v1:user:<user>:b|m|d:<bucket>`.
Telegram ids hold no `:`, so distinct keys here are distinct strings there. -/
inductive CounterKey
  | chat (telegramChatId : String) (minuteBucket : Nat)
  | userBurst (telegramUserId : String) (burstBucket : Nat)
  | userMinute (telegramUserId : String) (minuteBucket : Nat)
  | userDaily (telegramUserId : String) (dayKey : Nat)
  deriving DecidableEq, Repr

/-- A live Redis counter: its value and when it expires. -/
structure Counter where
  value : Nat
  expiresAt : Nat
  deriving DecidableEq, Repr

/-- `asPositiveInt` of a whole number. -/
def asPositiveInt (value : Nat) : Nat := max 1 value

/-- `INCR_WITH_TTL_LUA` at time `now` on a key that holds `c`: the counter after it, and
the script's `{ value, remaining }`. Redis drops a key once `now` passes its expiry; a key
the script creates gets `EXPIRE ttl`; `TTL` answers the seconds left, rounded. -/
def incrWithTtl (c : Option Counter) (now ttl : Nat) : Counter × Nat × Nat :=
  match c with
  | some c =>
    if now ≤ c.expiresAt then (⟨c.value + 1, c.expiresAt⟩, c.value + 1, (c.expiresAt - now + 500) / 1000)
    else (⟨1, now + ttl * 1000⟩, 1, (ttl * 1000 + 500) / 1000)
  | none => (⟨1, now + ttl * 1000⟩, 1, (ttl * 1000 + 500) / 1000)

/-! ## The calls -/

/-- Where a call stands: its script for `key` sent, with the TTL it passes and the time the
key was computed; the script's reply on its way; or the decision made. `counts` are the
counters the call has passed, with the counts they gave. -/
inductive Check
  | idle
  | sent (tier : RateLimitTier) (key : CounterKey) (ttlSeconds keyedAt : Nat)
      (counts : List (CounterKey × Nat))
  | replied (tier : RateLimitTier) (key : CounterKey) (keyedAt count ttlSeconds : Nat)
      (counts : List (CounterKey × Nat))
  | done
  deriving DecidableEq, Repr

/-- A script that ran: the call, the key, and the count it answered. -/
structure Script where
  proc : Nat
  key : CounterKey
  count : Nat
  deriving DecidableEq, Repr

/-- A decision a call returned, with the counters it was counted in. -/
structure Decided where
  proc : Nat
  decision : RateLimitDecision
  counts : List (CounterKey × Nat)
  deriving DecidableEq, Repr

/-- The decision was counted in the counter of `k`. -/
def Decided.counted (d : Decided) (k : CounterKey) : Bool := d.counts.any (·.1 = k)

/-- The clock in milliseconds, the counters, the calls, and the logs of the scripts run
and of the decisions returned. -/
structure Sys where
  now : Nat
  counters : CounterKey → Option Counter
  procs : Nat → Check
  scripts : List Script
  decisions : List Decided

def Sys.init : Sys := ⟨0, fun _ => none, fun _ => .idle, [], []⟩

def Sys.setProc (s : Sys) (p : Nat) (x : Check) : Sys :=
  { s with procs := fun q => if q = p then x else s.procs q }

@[simp] theorem Sys.setProc_now (s : Sys) (p : Nat) (x : Check) : (s.setProc p x).now = s.now := rfl
@[simp] theorem Sys.setProc_counters (s : Sys) (p : Nat) (x : Check) :
    (s.setProc p x).counters = s.counters := rfl
@[simp] theorem Sys.setProc_scripts (s : Sys) (p : Nat) (x : Check) :
    (s.setProc p x).scripts = s.scripts := rfl
@[simp] theorem Sys.setProc_decisions (s : Sys) (p : Nat) (x : Check) :
    (s.setProc p x).decisions = s.decisions := rfl
@[simp] theorem Sys.setProc_procs (s : Sys) (p q : Nat) (x : Check) :
    (s.setProc p x).procs q = if q = p then x else s.procs q := rfl

/-- Call `p` returns `d`, counted in `counts`. -/
def Sys.decide (s : Sys) (p : Nat) (d : RateLimitDecision) (counts : List (CounterKey × Nat)) :
    Sys :=
  { s.setProc p .done with decisions := s.decisions ++ [⟨p, d, counts⟩] }

section
variable (config : RateLimitConfig)

/-- The script of call `p` runs at the store (`incrementCounter`, lines 194-213): the key's
counter moves, and the reply carries the count and the seconds left, at least 1. -/
def runScript (s : Sys) (p : Nat) (tier : RateLimitTier) (key : CounterKey)
    (ttlSeconds keyedAt : Nat) (counts : List (CounterKey × Nat)) : Sys :=
  let r := incrWithTtl (s.counters key) s.now (asPositiveInt ttlSeconds)
  let stored : Sys := { s with
    counters := fun k => if k = key then some r.1 else s.counters k
    scripts := s.scripts ++ [⟨p, key, r.2.1⟩] }
  stored.setProc p (.replied tier key keyedAt r.2.1 (max 1 r.2.2) counts)

/-- Call `p` resumes with the reply for `key` (the rest of checkChatSpamLimit, lines
258-289, and of checkUserTurnQuota, lines 291-348): a count over the window's limit denies
with the window's reason; else the next counter's key is computed now, or the call is
allowed. -/
def resume (s : Sys) (p : Nat) (tier : RateLimitTier) (key : CounterKey)
    (keyedAt count ttlSeconds : Nat) (counts : List (CounterKey × Nat)) : Sys :=
  let limits := getTierLimits tier config
  let counts := counts ++ [(key, count)]
  match key with
  | .chat .. =>
    if count > config.chatMinuteMax then s.decide p (deniedDecision tier .chat_flood ttlSeconds none) counts
    else s.decide p (allowedDecision tier none) counts
  | .userBurst u _ =>
    if count > limits.burstMax then s.decide p (deniedDecision tier .user_burst ttlSeconds none) counts
    else s.setProc p (.sent tier (.userMinute u (getWindowBucket config.minuteWindowSeconds s.now))
      (config.minuteWindowSeconds + COUNTER_TTL_GRACE_SECONDS) s.now counts)
  | .userMinute u _ =>
    if count > limits.minuteMax then s.decide p (deniedDecision tier .user_minute ttlSeconds none) counts
    else
      let w := getUtcDailyWindow s.now
      s.setProc p (.sent tier (.userDaily u w.dayKey) w.counterTtlSeconds s.now counts)
  | .userDaily _ _ =>
    let w := getUtcDailyWindow keyedAt
    let extra := some ⟨count, limits.dailyMax, w.resetsAtUtc⟩
    if count > limits.dailyMax then
      s.decide p (deniedDecision tier .user_daily w.secondsUntilReset extra) counts
    else s.decide p (allowedDecision tier extra) counts

inductive Action
  | checkChatSpamLimit (p : Nat) (telegramChatId telegramUserId : String)
  | checkUserTurnQuota (p : Nat) (telegramUserId : String)
  | script (p : Nat) (ok : Bool)
  | resume (p : Nat)
  | advanceClock (ms : Nat)
  deriving DecidableEq, Repr

/-- One step: a call starts and computes its first key; a call's script runs at the store
(with `ok = false` the script fails and the call's `catch` allows it); a call resumes with
its reply; the clock moves. -/
def step (s : Sys) : Action → Option Sys
  | .checkChatSpamLimit p c u =>
    if s.procs p = .idle then
      some (s.setProc p (.sent (getTierForUser u config)
        (.chat c (getWindowBucket config.minuteWindowSeconds s.now))
        (config.minuteWindowSeconds + COUNTER_TTL_GRACE_SECONDS) s.now []))
    else none
  | .checkUserTurnQuota p u =>
    if s.procs p = .idle then
      some (s.setProc p (.sent (getTierForUser u config)
        (.userBurst u (getWindowBucket config.burstWindowSeconds s.now))
        (config.burstWindowSeconds + COUNTER_TTL_GRACE_SECONDS) s.now []))
    else none
  | .script p ok =>
    match s.procs p with
    | .sent tier key ttlSeconds keyedAt counts =>
      if ok then some (runScript s p tier key ttlSeconds keyedAt counts)
      else some (s.decide p (failOpenDecision tier) counts)
    | _ => none
  | .resume p =>
    match s.procs p with
    | .replied tier key keyedAt count ttlSeconds counts =>
      some (resume config s p tier key keyedAt count ttlSeconds counts)
    | _ => none
  | .advanceClock ms => some { s with now := s.now + ms }

end

/-! ## A late script starts a bucket's count again -/

def burstOfOne : RateLimitConfig := ⟨3, 60, 200, [], ⟨1, 10, 300⟩, 5, by decide, by decide⟩

def quotaCall (p : Nat) : List Action :=
  [.checkUserTurnQuota p "7", .script p true, .resume p, .script p true, .resume p,
    .script p true, .resume p]

def lateScript : List Action :=
  quotaCall 0 ++ [.checkUserTurnQuota 1 "7", .advanceClock 8001] ++ (quotaCall 1).tail

/-- Two decisions of user 7 counted in burst bucket 0 are allowed, with no storage error,
though the bucket's limit is 1. -/
theorem late_script_recounts_burst_bucket :
    ∃ s, Reachable Sys.init (step burstOfOne) s ∧
      (s.decisions.filter fun d => d.decision.allowed && d.counted (.userBurst "7" 0)).length = 2 ∧
      (∀ d ∈ s.decisions, d.decision.reason = .allowed) ∧
      (getTierLimits (getTierForUser "7" burstOfOne) burstOfOne).burstMax = 1 := by
  obtain ⟨s, hs, h⟩ := exists_reachable_of_run Sys.init (step burstOfOne)
    (p := fun s =>
      (s.decisions.filter fun d => d.decision.allowed && d.counted (.userBurst "7" 0)).length = 2 &&
        s.decisions.all (·.decision.reason = .allowed)) lateScript (by decide)
  simp only [Bool.and_eq_true, decide_eq_true_eq, List.all_eq_true] at h
  exact ⟨s, hs, h.1, h.2, rfl⟩

/-! ## The limits hold when every script runs within the grace

Each counter belongs to one window; a key computed at `t` names the window that holds `t`.
A script sent at `t` and run by `t + 5 s` runs before the window's end plus the grace,
and the counter that the first script of the window created lives at least that long: so
no counter expires while scripts of its window are still to come, and the scripts of a
window answer 1, 2, 3, ... -/

section
variable (config : RateLimitConfig)

def limitOf : CounterKey → Nat
  | .chat .. => config.chatMinuteMax
  | .userBurst u _ => (getTierLimits (getTierForUser u config) config).burstMax
  | .userMinute u _ => (getTierLimits (getTierForUser u config) config).minuteMax
  | .userDaily u _ => (getTierLimits (getTierForUser u config) config).dailyMax

def windowEnd : CounterKey → Nat
  | .chat _ m => (m + 1) * (config.minuteWindowSeconds * 1000)
  | .userBurst _ b => (b + 1) * (config.burstWindowSeconds * 1000)
  | .userMinute _ m => (m + 1) * (config.minuteWindowSeconds * 1000)
  | .userDaily _ d => (d + 1) * MS_PER_DAY

def deadline (k : CounterKey) : Nat := windowEnd config k + COUNTER_TTL_GRACE_SECONDS * 1000

/-- The counters a call has passed before it sends the script of `key`: a user's call
passes its burst and then its minute counter, in its user's tier. -/
def Stage (tier : RateLimitTier) : CounterKey → List (CounterKey × Nat) → Prop
  | .chat .., counts => counts = []
  | .userBurst u _, counts => tier = getTierForUser u config ∧ counts = []
  | .userMinute u _, counts => tier = getTierForUser u config ∧ ∃ b c, counts = [(.userBurst u b, c)]
  | .userDaily u _, counts => tier = getTierForUser u config ∧
      ∃ b c m c', counts = [(.userBurst u b, c), (.userMinute u m, c')]

end

def reasonOf : CounterKey → RateLimitReason
  | .chat .. => .chat_flood
  | .userBurst .. => .user_burst
  | .userMinute .. => .user_minute
  | .userDaily .. => .user_daily

/-- Every script succeeds, and runs no later than the grace after its key was computed. -/
def Timely (s : Sys) : Action → Prop
  | .script p ok => ok = true ∧ ∀ tier key ttlSeconds keyedAt counts,
      s.procs p = .sent tier key ttlSeconds keyedAt counts →
      s.now ≤ keyedAt + COUNTER_TTL_GRACE_SECONDS * 1000
  | _ => True

theorem getWindowBucket_bounds {w : Nat} (hw : 0 < w) (t : Nat) :
    getWindowBucket w t * (w * 1000) ≤ t ∧ t < (getWindowBucket w t + 1) * (w * 1000) := by
  have hd : getWindowBucket w t = t / (w * 1000) := by
    rw [getWindowBucket, Nat.div_div_eq_div_mul, Nat.mul_comm 1000]
  rw [hd]
  refine ⟨Nat.div_mul_le_self t _, ?_⟩
  have := Nat.lt_mul_div_succ t (show 0 < w * 1000 by omega)
  rwa [Nat.mul_comm] at this

theorem windowed_key_fits {w b t : Nat} (hw : 0 < w) (hb : b = getWindowBucket w t) :
    t < (b + 1) * (w * 1000) ∧
      (b + 1) * (w * 1000) + COUNTER_TTL_GRACE_SECONDS * 1000 ≤
        t + asPositiveInt (w + COUNTER_TTL_GRACE_SECONDS) * 1000 := by
  subst hb
  obtain ⟨h1, h2⟩ := getWindowBucket_bounds hw t
  refine ⟨h2, ?_⟩
  rw [Nat.succ_mul]
  simp only [asPositiveInt, COUNTER_TTL_GRACE_SECONDS] at *
  omega

theorem daily_key_fits (t : Nat) :
    t < ((getUtcDailyWindow t).dayKey + 1) * MS_PER_DAY ∧
      ((getUtcDailyWindow t).dayKey + 1) * MS_PER_DAY + COUNTER_TTL_GRACE_SECONDS * 1000 ≤
        t + asPositiveInt (getUtcDailyWindow t).counterTtlSeconds * 1000 := by
  simp only [getUtcDailyWindow, asPositiveInt, MS_PER_DAY, COUNTER_TTL_GRACE_SECONDS,
    DAILY_COUNTER_TTL_GRACE_SECONDS]
  omega

def countsOf (scripts : List Script) (k : CounterKey) : List Nat :=
  (scripts.filter (·.key = k)).map (·.count)

@[simp] theorem countsOf_append (scripts : List Script) (e : Script) (k : CounterKey) :
    countsOf (scripts ++ [e]) k = countsOf scripts k ++ if e.key = k then [e.count] else [] := by
  by_cases h : e.key = k <;> simp [countsOf, h]

section
variable (config : RateLimitConfig)

/-- A counter holds as many as the scripts of its key that ran, and lives to its
deadline; where no script of a key ran, there is no counter. -/
def CounterFits (s : Sys) (k : CounterKey) : Prop :=
  match s.counters k with
  | none => countsOf s.scripts k = []
  | some c => c.value = (countsOf s.scripts k).length ∧ deadline config k ≤ c.expiresAt

/-- The scripts of a key answer 1, 2, 3, ...; every counter fits; and every script sent
was keyed before its window's end, no later than now, with a TTL that makes a counter it
creates live to the deadline. -/
structure StoreLaw (s : Sys) : Prop where
  counts : ∀ k, countsOf s.scripts k = List.range' 1 (countsOf s.scripts k).length
  counters : ∀ k, CounterFits config s k
  sent : ∀ p tier key ttlSeconds keyedAt counts,
    s.procs p = .sent tier key ttlSeconds keyedAt counts →
    keyedAt < windowEnd config key ∧ keyedAt ≤ s.now ∧
      deadline config key ≤ keyedAt + asPositiveInt ttlSeconds * 1000

/-- The counters a call passed: each answered by a script of the call, within its window's
limit. -/
def Passed (scripts : List Script) (p : Nat) (counts : List (CounterKey × Nat)) : Prop :=
  ∀ kc ∈ counts, ⟨p, kc.1, kc.2⟩ ∈ scripts ∧ kc.2 ≤ limitOf config kc.1

/-- A decision's counters have distinct keys and were each answered by a script of its
call; it allows only within every limit, and a count over its window's limit denies it with
the window's reason. -/
def DecisionFits (scripts : List Script) (d : Decided) : Prop :=
  (d.counts.map Prod.fst).Nodup ∧ (∀ kc ∈ d.counts, ⟨d.proc, kc.1, kc.2⟩ ∈ scripts) ∧
    (d.decision.allowed = true → ∀ kc ∈ d.counts, kc.2 ≤ limitOf config kc.1) ∧
    ∀ kc ∈ d.counts, limitOf config kc.1 < kc.2 →
      d.decision.allowed = false ∧ d.decision.reason = reasonOf kc.1

/-- Every call in flight is at its stage and has passed its counters; every reply was
answered by a script of its call; every decision fits and its call is done, one decision a
call. -/
structure LogLaw (s : Sys) : Prop where
  sent : ∀ p tier key ttlSeconds keyedAt counts,
    s.procs p = .sent tier key ttlSeconds keyedAt counts →
    Stage config tier key counts ∧ Passed config s.scripts p counts
  replied : ∀ p tier key keyedAt count ttlSeconds counts,
    s.procs p = .replied tier key keyedAt count ttlSeconds counts →
    Stage config tier key counts ∧ Passed config s.scripts p counts ∧ ⟨p, key, count⟩ ∈ s.scripts
  decided : ∀ d ∈ s.decisions, s.procs d.proc = .done ∧ DecisionFits config s.scripts d
  procs : (s.decisions.map (·.proc)).Nodup

end

variable {config : RateLimitConfig}

theorem Stage.nodup {tier : RateLimitTier} {key : CounterKey} {counts : List (CounterKey × Nat)}
    (h : Stage config tier key counts) (c : Nat) :
    ((counts ++ [(key, c)]).map Prod.fst).Nodup := by
  cases key with
  | chat => simp only [Stage] at h; subst h; simp
  | userBurst => obtain ⟨-, rfl⟩ := h; simp
  | userMinute => obtain ⟨-, b, c, rfl⟩ := h; simp
  | userDaily => obtain ⟨-, b, c, m, c', rfl⟩ := h; simp

theorem resume_cases {s : Sys} {p : Nat} {tier : RateLimitTier} {key : CounterKey}
    {keyedAt count ttlSeconds : Nat} {counts : List (CounterKey × Nat)}
    (hst : Stage config tier key counts) :
    (∃ d, resume config s p tier key keyedAt count ttlSeconds counts =
        s.decide p d (counts ++ [(key, count)]) ∧
      (d.allowed = true → count ≤ limitOf config key) ∧
      (limitOf config key < count → d.allowed = false ∧ d.reason = reasonOf key)) ∨
    (count ≤ limitOf config key ∧ ∃ key' ttl', resume config s p tier key keyedAt count ttlSeconds
        counts = s.setProc p (.sent tier key' ttl' s.now (counts ++ [(key, count)])) ∧
      Stage config tier key' (counts ++ [(key, count)]) ∧ s.now < windowEnd config key' ∧
      deadline config key' ≤ s.now + asPositiveInt ttl' * 1000) := by
  cases key with
  | chat c m =>
    simp only [resume, limitOf, reasonOf]
    split_ifs with hc
    · exact .inl ⟨_, rfl, fun h => (by cases h), fun _ => ⟨rfl, rfl⟩⟩
    · exact .inl ⟨_, rfl, fun _ => by omega, fun h => absurd h hc⟩
  | userBurst u b =>
    obtain ⟨rfl, rfl⟩ := hst
    simp only [resume, limitOf, reasonOf]
    split_ifs with hc
    · exact .inl ⟨_, rfl, fun h => (by cases h), fun _ => ⟨rfl, rfl⟩⟩
    · have hw := windowed_key_fits config.minuteWindow_pos
        (rfl : getWindowBucket config.minuteWindowSeconds s.now = _)
      exact .inr ⟨by omega, _, _, rfl, ⟨rfl, b, count, rfl⟩, hw.1, hw.2⟩
  | userMinute u m =>
    obtain ⟨rfl, b, c, rfl⟩ := hst
    simp only [resume, limitOf, reasonOf]
    split_ifs with hc
    · exact .inl ⟨_, rfl, fun h => (by cases h), fun _ => ⟨rfl, rfl⟩⟩
    · have hd := daily_key_fits s.now
      exact .inr ⟨by omega, _, _, rfl, ⟨rfl, b, c, m, count, rfl⟩, hd.1, hd.2⟩
  | userDaily u d =>
    obtain ⟨rfl, -⟩ := hst
    simp only [resume, limitOf, reasonOf]
    split_ifs with hc
    · exact .inl ⟨_, rfl, fun h => (by cases h), fun _ => ⟨rfl, rfl⟩⟩
    · exact .inl ⟨_, rfl, fun _ => by omega, fun h => absurd h hc⟩

variable {s s' : Sys} {p : Nat}

theorem Passed.append {scripts : List Script} {counts : List (CounterKey × Nat)}
    (h : Passed config scripts p counts) (e : Script) : Passed config (scripts ++ [e]) p counts :=
  fun kc hkc => ⟨List.mem_append_left _ (h kc hkc).1, (h kc hkc).2⟩

theorem DecisionFits.append {scripts : List Script} {d : Decided}
    (h : DecisionFits config scripts d) (e : Script) : DecisionFits config (scripts ++ [e]) d :=
  ⟨h.1, fun kc hkc => List.mem_append_left _ (h.2.1 kc hkc), h.2.2⟩

theorem incrWithTtl_fits {c : Option Counter} {n now ttl dl : Nat}
    (hc : match c with
      | none => n = 0
      | some c => c.value = n ∧ dl ≤ c.expiresAt)
    (hnow : now < dl) (httl : dl ≤ now + ttl * 1000) :
    (incrWithTtl c now ttl).2.1 = n + 1 ∧ (incrWithTtl c now ttl).1.value = n + 1 ∧
      dl ≤ (incrWithTtl c now ttl).1.expiresAt := by
  cases c with
  | none => simp only at hc; simp [incrWithTtl, hc, httl]
  | some c =>
    obtain ⟨rfl, hdl⟩ := hc
    simp [incrWithTtl, show now ≤ c.expiresAt by omega, hdl]

/-! ### The store law -/

theorem StoreLaw.setProc (h : StoreLaw config s) {x : Check}
    (hx : ∀ tier key ttlSeconds keyedAt counts, x = .sent tier key ttlSeconds keyedAt counts →
      keyedAt < windowEnd config key ∧ keyedAt ≤ s.now ∧
        deadline config key ≤ keyedAt + asPositiveInt ttlSeconds * 1000) :
    StoreLaw config (s.setProc p x) := by
  refine ⟨h.counts, h.counters, fun q tier key ttlSeconds keyedAt counts hq => ?_⟩
  simp only [Sys.setProc_procs] at hq
  split_ifs at hq
  · exact hx _ _ _ _ _ hq
  · exact h.sent _ _ _ _ _ _ hq

theorem StoreLaw.of_decide (h : StoreLaw config s) {d : RateLimitDecision}
    {counts : List (CounterKey × Nat)} : StoreLaw config (s.decide p d counts) :=
  let h' := h.setProc (p := p) (x := .done) fun _ _ _ _ _ hx => (by cases hx)
  ⟨h'.counts, h'.counters, h'.sent⟩

theorem range'_one_snoc (n : Nat) : List.range' 1 n ++ [n + 1] = List.range' 1 (n + 1) := by
  rw [List.range'_concat, Nat.one_mul, Nat.add_comm]

theorem StoreLaw.of_runScript (h : StoreLaw config s) {tier : RateLimitTier} {key : CounterKey}
    {ttlSeconds keyedAt : Nat} {counts : List (CounterKey × Nat)}
    (hp : s.procs p = .sent tier key ttlSeconds keyedAt counts)
    (htimely : s.now ≤ keyedAt + COUNTER_TTL_GRACE_SECONDS * 1000) :
    StoreLaw config (runScript s p tier key ttlSeconds keyedAt counts) := by
  obtain ⟨hend, hle, hdl⟩ := h.sent _ _ _ _ _ _ hp
  have hfits := h.counters key
  have hr := incrWithTtl_fits (c := s.counters key) (n := (countsOf s.scripts key).length)
    (by unfold CounterFits at hfits; split at hfits <;> simp_all) (by unfold deadline; omega)
    (by omega : deadline config key ≤ s.now + asPositiveInt ttlSeconds * 1000)
  refine ⟨fun k => ?_, fun k => ?_, fun q tier' key' ttl' keyedAt' counts' hq => ?_⟩
  · simp only [runScript, Sys.setProc_scripts, countsOf_append]
    split_ifs with hk
    · subst hk
      rw [hr.1, List.length_append, List.length_singleton]
      nth_rewrite 1 [h.counts key]
      exact range'_one_snoc _
    · simpa using h.counts k
  · simp only [CounterFits, runScript, Sys.setProc_counters, Sys.setProc_scripts]
    split_ifs with hk
    · subst hk
      simp [hr.2.1, hr.2.2]
    · simpa [CounterFits, hk, Ne.symm hk] using h.counters k
  · simp only [runScript, Sys.setProc_procs] at hq
    split_ifs at hq
    exact h.sent _ _ _ _ _ _ hq

theorem StoreLaw.of_step (h : StoreLaw config s) (hl : LogLaw config s) {a : Action}
    (ha : Timely s a) (hs : step config s a = some s') : StoreLaw config s' := by
  cases a with
  | checkChatSpamLimit q c u =>
    simp only [step] at hs
    split_ifs at hs
    cases hs
    have hw := windowed_key_fits config.minuteWindow_pos
      (rfl : getWindowBucket config.minuteWindowSeconds s.now = _)
    exact h.setProc fun _ _ _ _ _ hx => by cases hx; exact ⟨hw.1, le_refl _, hw.2⟩
  | checkUserTurnQuota q u =>
    simp only [step] at hs
    split_ifs at hs
    cases hs
    have hw := windowed_key_fits config.burstWindow_pos
      (rfl : getWindowBucket config.burstWindowSeconds s.now = _)
    exact h.setProc fun _ _ _ _ _ hx => by cases hx; exact ⟨hw.1, le_refl _, hw.2⟩
  | script q ok =>
    obtain ⟨rfl, htimely⟩ := ha
    simp only [step] at hs
    split at hs
    · rename_i hq
      cases hs
      exact h.of_runScript hq (htimely _ _ _ _ _ hq)
    · cases hs
  | resume q =>
    simp only [step] at hs
    split at hs
    · rename_i tier key keyedAt count ttl counts hq
      cases hs
      rcases @resume_cases config s q tier key keyedAt count ttl counts
        (hl.replied _ _ _ _ _ _ _ hq).1 with ⟨d, he, -⟩ | ⟨-, key', ttl', he, -, hend, hdl⟩
      · rw [he]; exact h.of_decide
      · rw [he]; exact h.setProc fun _ _ _ _ _ hx => by cases hx; exact ⟨hend, le_refl _, hdl⟩
    · cases hs
  | advanceClock ms =>
    cases hs
    exact ⟨h.counts, h.counters, fun q tier key ttl keyedAt counts hq =>
      let ⟨h1, h2, h3⟩ := h.sent _ _ _ _ _ _ hq
      ⟨h1, Nat.le_add_right_of_le h2, h3⟩⟩

theorem StoreLaw.init : StoreLaw config Sys.init :=
  ⟨fun _ => by simp [countsOf, Sys.init], fun _ => by simp [CounterFits, countsOf, Sys.init],
    fun _ _ _ _ _ _ h => (by cases h)⟩

/-! ### The log law -/

theorem LogLaw.init : LogLaw config Sys.init :=
  ⟨fun _ _ _ _ _ _ h => (by cases h), fun _ _ _ _ _ _ _ h => (by cases h),
    fun _ h => (by cases h), List.nodup_nil⟩

theorem LogLaw.setProc (h : LogLaw config s) (hp : s.procs p ≠ .done) {x : Check}
    (hsent : ∀ tier key ttlSeconds keyedAt counts, x = .sent tier key ttlSeconds keyedAt counts →
      Stage config tier key counts ∧ Passed config s.scripts p counts)
    (hrep : ∀ tier key keyedAt count ttlSeconds counts,
      x = .replied tier key keyedAt count ttlSeconds counts →
      Stage config tier key counts ∧ Passed config s.scripts p counts ∧ ⟨p, key, count⟩ ∈ s.scripts) :
    LogLaw config (s.setProc p x) := by
  refine ⟨fun q tier key ttl keyedAt counts hq => ?_,
    fun q tier key keyedAt count ttl counts hq => ?_, fun d hd => ?_, h.procs⟩
  · simp only [Sys.setProc_procs] at hq
    split_ifs at hq with e
    · subst e; exact hsent _ _ _ _ _ hq
    · exact h.sent _ _ _ _ _ _ hq
  · simp only [Sys.setProc_procs] at hq
    split_ifs at hq with e
    · subst e; exact hrep _ _ _ _ _ _ hq
    · exact h.replied _ _ _ _ _ _ _ hq
  · obtain ⟨hdone, hfit⟩ := h.decided d hd
    have hne : d.proc ≠ p := fun e => hp (e ▸ hdone)
    exact ⟨by simp [hne, hdone], hfit⟩

theorem LogLaw.of_decide (h : LogLaw config s) (hp : s.procs p ≠ .done) {d : RateLimitDecision}
    {counts : List (CounterKey × Nat)} (hd : DecisionFits config s.scripts ⟨p, d, counts⟩) :
    LogLaw config (s.decide p d counts) := by
  have h' := h.setProc hp (x := .done) (fun _ _ _ _ _ hx => (by cases hx))
    (fun _ _ _ _ _ _ hx => (by cases hx))
  refine ⟨h'.sent, h'.replied, fun e he => ?_, ?_⟩
  · simp only [Sys.decide, List.mem_append, List.mem_singleton] at he
    rcases he with he | rfl
    · exact h'.decided e he
    · exact ⟨by simp [Sys.decide], hd⟩
  · simp only [Sys.decide, List.map_append, List.map_cons, List.map_nil]
    refine List.nodup_append.mpr ⟨h.procs, List.nodup_singleton _, ?_⟩
    simp only [List.disjoint_singleton, List.mem_map, not_exists, not_and]
    intro e he hep
    exact hp (hep ▸ (h.decided e he).1)

theorem LogLaw.addScript (h : LogLaw config s) (c : CounterKey → Option Counter) (e : Script) :
    LogLaw config { s with counters := c, scripts := s.scripts ++ [e] } :=
  ⟨fun _ _ _ _ _ _ hq => let ⟨h1, h2⟩ := h.sent _ _ _ _ _ _ hq; ⟨h1, h2.append e⟩,
    fun _ _ _ _ _ _ _ hq => let ⟨h1, h2, h3⟩ := h.replied _ _ _ _ _ _ _ hq
      ⟨h1, h2.append e, List.mem_append_left _ h3⟩,
    fun d hd => let ⟨h1, h2⟩ := h.decided d hd; ⟨h1, h2.append e⟩, h.procs⟩

theorem LogLaw.of_runScript (h : LogLaw config s) {tier : RateLimitTier} {key : CounterKey}
    {ttlSeconds keyedAt : Nat} {counts : List (CounterKey × Nat)}
    (hp : s.procs p = .sent tier key ttlSeconds keyedAt counts) :
    LogLaw config (runScript s p tier key ttlSeconds keyedAt counts) := by
  obtain ⟨hst, hpass⟩ := h.sent _ _ _ _ _ _ hp
  dsimp only [runScript]
  exact (h.addScript _ _).setProc (by simp [hp]) (fun _ _ _ _ _ hx => (by cases hx))
    fun _ _ _ _ _ _ hx => by
      cases hx
      exact ⟨hst, hpass.append _, List.mem_append_right _ (List.mem_singleton_self _)⟩

theorem forall_mem_snoc {P : CounterKey × Nat → Prop} {counts : List (CounterKey × Nat)}
    {key : CounterKey} {count : Nat} (h : ∀ kc ∈ counts, P kc) (h' : P (key, count)) :
    ∀ kc ∈ counts ++ [(key, count)], P kc :=
  fun kc hkc => (List.mem_append.mp hkc).elim (h kc) fun e => (List.mem_singleton.mp e) ▸ h'

theorem LogLaw.of_step (h : LogLaw config s) {a : Action} (hs : step config s a = some s') :
    LogLaw config s' := by
  cases a with
  | checkChatSpamLimit q c u =>
    simp only [step] at hs
    split_ifs at hs with hq
    cases hs
    exact h.setProc (by simp [hq]) (fun _ _ _ _ _ hx => by
      cases hx; exact ⟨rfl, fun _ h => (by cases h)⟩) fun _ _ _ _ _ _ hx => (by cases hx)
  | checkUserTurnQuota q u =>
    simp only [step] at hs
    split_ifs at hs with hq
    cases hs
    exact h.setProc (by simp [hq]) (fun _ _ _ _ _ hx => by
      cases hx; exact ⟨⟨rfl, rfl⟩, fun _ h => (by cases h)⟩) fun _ _ _ _ _ _ hx => (by cases hx)
  | script q ok =>
    simp only [step] at hs
    split at hs
    · rename_i tier key ttl keyedAt counts hq
      obtain ⟨hst, hpass⟩ := h.sent _ _ _ _ _ _ hq
      cases ok
      · cases hs
        have hnd := hst.nodup 0
        rw [List.map_append] at hnd
        exact h.of_decide (by simp [hq]) ⟨hnd.of_append_left, fun kc hkc => (hpass kc hkc).1,
          fun _ kc hkc => (hpass kc hkc).2, fun kc hkc hlt => absurd (hpass kc hkc).2 (by omega)⟩
      · cases hs
        exact h.of_runScript hq
    · cases hs
  | resume q =>
    simp only [step] at hs
    split at hs
    · rename_i tier key keyedAt count ttl counts hq
      cases hs
      obtain ⟨hst, hpass, hscript⟩ := h.replied _ _ _ _ _ _ _ hq
      have hentries := forall_mem_snoc (fun kc hkc => (hpass kc hkc).1) hscript
      rcases @resume_cases config s q tier key keyedAt count ttl counts hst with
        ⟨d, he, hal, hden⟩ | ⟨hle, key', ttl', he, hst', -, -⟩
      · rw [he]
        exact h.of_decide (by simp [hq]) ⟨hst.nodup count, hentries,
          fun ha => forall_mem_snoc (fun kc hkc => (hpass kc hkc).2) (hal ha),
          forall_mem_snoc (fun kc hkc hlt => absurd (hpass kc hkc).2 (by omega)) hden⟩
      · rw [he]
        exact h.setProc (by simp [hq]) (fun _ _ _ _ _ hx => by
          cases hx
          exact ⟨hst', forall_mem_snoc hpass ⟨hscript, hle⟩⟩) fun _ _ _ _ _ _ hx => (by cases hx)
    · cases hs
  | advanceClock ms =>
    cases hs
    exact ⟨h.sent, h.replied, h.decided, h.procs⟩

theorem laws_of_timely (h : ReachableWhere Timely Sys.init (step config) s) :
    StoreLaw config s ∧ LogLaw config s :=
  h.invariant (fun s => StoreLaw config s ∧ LogLaw config s) ⟨StoreLaw.init, LogLaw.init⟩
    fun _ _ _ hi ha hs => ⟨hi.1.of_step hi.2 ha hs, hi.2.of_step hs⟩

/-! ### The limits -/

def Decided.countOf (d : Decided) (k : CounterKey) : Nat :=
  ((d.counts.find? (·.1 = k)).map (·.2)).getD 0

theorem Decided.mem_countOf {d : Decided} {k : CounterKey} (h : d.counted k = true) :
    (k, d.countOf k) ∈ d.counts := by
  obtain ⟨kc, hkc, hk⟩ := List.any_eq_true.mp h
  cases hf : d.counts.find? (·.1 = k) with
  | none => exact absurd hk (by simpa using List.find?_eq_none.mp hf kc hkc)
  | some kc' =>
    have hk' : kc'.1 = k := by simpa using List.find?_some hf
    simp only [Decided.countOf, hf, Option.map_some', Option.getD_some]
    rw [← hk']
    exact List.mem_of_find?_eq_some hf

theorem allowed_counted_le_limit (hs : StoreLaw config s) (hl : LogLaw config s)
    (k : CounterKey) :
    (s.decisions.filter fun d => d.decision.allowed && d.counted k).length ≤ limitOf config k := by
  set L := s.decisions.filter fun d => d.decision.allowed && d.counted k
  have hmem : ∀ d ∈ L, d ∈ s.decisions ∧ d.decision.allowed = true ∧ (k, d.countOf k) ∈ d.counts :=
    fun d hd => by
      simp only [L, List.mem_filter, Bool.and_eq_true] at hd
      exact ⟨hd.1, hd.2.1, Decided.mem_countOf hd.2.2⟩
  have hscript : ∀ d ∈ L, (⟨d.proc, k, d.countOf k⟩ : Script) ∈ s.scripts.filter (·.key = k) :=
    fun d hd => List.mem_filter.mpr
      ⟨(hl.decided d (hmem d hd).1).2.2.1 _ (hmem d hd).2.2, by simp⟩
  have hcounts : ((s.scripts.filter (·.key = k)).map (·.count)).Nodup := by
    show (countsOf s.scripts k).Nodup
    rw [hs.counts k]
    exact List.nodup_range' _ _
  have hinj : ∀ d ∈ L, ∀ d' ∈ L, d.countOf k = d'.countOf k → d = d' := fun d hd d' hd' he =>
    List.inj_on_of_nodup_map hl.procs (hmem d hd).1 (hmem d' hd').1
      (congrArg Script.proc (List.inj_on_of_nodup_map hcounts (hscript d hd) (hscript d' hd') he))
  have hsub : L.map (·.countOf k) ⊆ List.range' 1 (limitOf config k) := by
    intro c hc
    obtain ⟨d, hd, rfl⟩ := List.mem_map.mp hc
    obtain ⟨hdm, hal, hcnt⟩ := hmem d hd
    have hle := (hl.decided d hdm).2.2.2.1 hal _ hcnt
    have hpos : d.countOf k ∈ countsOf s.scripts k := List.mem_map.mpr ⟨_, hscript d hd, rfl⟩
    rw [hs.counts k, List.mem_range'_1] at hpos
    exact List.mem_range'_1.mpr ⟨hpos.1, by dsimp only at hle; omega⟩
  have hnd : (L.map (·.countOf k)).Nodup :=
    List.Nodup.map_on hinj ((List.Nodup.of_map _ hl.procs).filter _)
  calc L.length = (L.map (·.countOf k)).length := (List.length_map _ _).symm
    _ ≤ (List.range' 1 (limitOf config k)).length := (hnd.subperm hsub).length_le
    _ = limitOf config k := List.length_range' _ _ _

/-- For every configuration, in every state reached by calls whose scripts all succeed and
each run within the grace of the time its key was computed: the decisions allowed in a
counter are at most its window's limit (`burstMax`, `minuteMax` or `dailyMax` of the
user's tier, or `chatMinuteMax`); the scripts of a counter answer 1, 2, 3, ... in turn;
and a decision counted over its window's limit is denied with the window's reason. -/
theorem timely_checks_keep_limits (h : ReachableWhere Timely Sys.init (step config) s)
    (k : CounterKey) :
    (s.decisions.filter fun d => d.decision.allowed && d.counted k).length ≤ limitOf config k ∧
      countsOf s.scripts k = List.range' 1 (countsOf s.scripts k).length ∧
      ∀ d ∈ s.decisions, ∀ c, (k, c) ∈ d.counts → limitOf config k < c →
        d.decision.allowed = false ∧ d.decision.reason = reasonOf k := by
  obtain ⟨hs, hl⟩ := laws_of_timely h
  exact ⟨allowed_counted_le_limit hs hl k, hs.counts k,
    fun d hd c hc hlt => (hl.decided d hd).2.2.2.2 _ hc hlt⟩

/-! ### Calls with the clock held still are timely -/

def Action.still : Action → Bool
  | .advanceClock _ => false
  | .script _ ok => ok
  | _ => true

/-- Every sent call was keyed now. -/
def KeyedNow (s : Sys) : Prop :=
  ∀ p tier key ttlSeconds keyedAt counts, s.procs p = .sent tier key ttlSeconds keyedAt counts →
    keyedAt = s.now

theorem resume_shape (s : Sys) (p : Nat) (tier : RateLimitTier) (key : CounterKey)
    (keyedAt count ttlSeconds : Nat) (counts : List (CounterKey × Nat)) :
    (∃ d cs, resume config s p tier key keyedAt count ttlSeconds counts = s.decide p d cs) ∨
      ∃ key' ttl' cs, resume config s p tier key keyedAt count ttlSeconds counts =
        s.setProc p (.sent tier key' ttl' s.now cs) := by
  cases key <;> simp only [resume] <;> split_ifs <;>
    first | exact .inl ⟨_, _, rfl⟩ | exact .inr ⟨_, _, _, rfl⟩

theorem KeyedNow.setProc (h : KeyedNow s) {x : Check}
    (hx : ∀ tier key ttlSeconds keyedAt counts, x = .sent tier key ttlSeconds keyedAt counts →
      keyedAt = s.now) : KeyedNow (s.setProc p x) := by
  intro q tier key ttl keyedAt counts hq
  simp only [Sys.setProc_procs] at hq
  split_ifs at hq
  · exact hx _ _ _ _ _ hq
  · exact h _ _ _ _ _ _ hq

theorem KeyedNow.of_step (h : KeyedNow s) {a : Action} (ha : a.still = true)
    (hs : step config s a = some s') : KeyedNow s' ∧ s'.now = s.now := by
  cases a with
  | checkChatSpamLimit q c u | checkUserTurnQuota q u =>
    simp only [step] at hs
    split_ifs at hs
    cases hs
    exact ⟨h.setProc fun _ _ _ _ _ hx => by cases hx; rfl, rfl⟩
  | script q ok =>
    cases ha
    simp only [step, if_true] at hs
    split at hs
    · cases hs
      exact ⟨(show KeyedNow _ from h).setProc fun _ _ _ _ _ hx => (by cases hx), rfl⟩
    · cases hs
  | resume q =>
    simp only [step] at hs
    split at hs
    · cases hs
      rcases @resume_shape config s q _ _ _ _ _ _ with ⟨d, cs, he⟩ | ⟨key', ttl', cs, he⟩
      · rw [he]
        exact ⟨fun r _ _ _ _ _ hr => h.setProc (p := q) (x := .done) (fun _ _ _ _ _ hx => (by cases hx))
          r _ _ _ _ _ hr, rfl⟩
      · rw [he]
        exact ⟨h.setProc fun _ _ _ _ _ hx => by cases hx; rfl, rfl⟩
    · cases hs
  | advanceClock ms => cases ha

theorem allowedAlong_of_still : ∀ (as : List Action) {s : Sys}, (∀ a ∈ as, a.still = true) →
    KeyedNow s → AllowedAlong Timely (step config) s as
  | [], _, _, _ => trivial
  | a :: as, s, ha, h => by
    have hstill := ha a (List.mem_cons_self a as)
    refine ⟨?_, fun s' hs => ?_⟩
    · cases a with
      | script q ok =>
        exact ⟨hstill, fun _ _ _ _ _ hq => by rw [h _ _ _ _ _ _ hq]; omega⟩
      | _ => trivial
    · exact allowedAlong_of_still as (fun b hb => ha b (List.mem_cons_of_mem a hb))
        (h.of_step hstill hs).1

def twoQuotaCalls : List Action :=
  [.checkUserTurnQuota 0 "7", .checkUserTurnQuota 1 "7", .script 0 true, .script 1 true,
    .resume 0, .resume 1, .script 0 true, .resume 0, .script 0 true, .resume 0]

def twoQuotaCallsState : Sys := (run (step burstOfOne) Sys.init twoQuotaCalls).getD Sys.init

theorem interleaved_quota_calls_within_limits :
    ReachableWhere Timely Sys.init (step burstOfOne) twoQuotaCallsState ∧
      twoQuotaCallsState.decisions.length = 2 ∧
      (twoQuotaCallsState.decisions.filter fun d =>
        d.decision.allowed && d.counted (.userBurst "7" 0)).length ≤ 1 ∧
      ∀ d ∈ twoQuotaCallsState.decisions, ∀ c, (.userBurst "7" 0, c) ∈ d.counts →
        limitOf burstOfOne (.userBurst "7" 0) < c →
          d.decision.allowed = false ∧ d.decision.reason = reasonOf (.userBurst "7" 0) :=
  have h : ReachableWhere Timely Sys.init (step burstOfOne) twoQuotaCallsState :=
    .of_run twoQuotaCalls .init (allowedAlong_of_still _ (by decide)
      fun _ _ _ _ _ _ hq => (by cases hq)) rfl
  ⟨h, by decide, (timely_checks_keep_limits h _).1, (timely_checks_keep_limits h _).2.2⟩

end ton_agent_bot.rate_limit
