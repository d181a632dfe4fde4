-- The Telegram bootstrap of startRuntime. retryTelegramBootstrap and the start of polling
-- make a request again after an error they retry, sleeping the base delay times the
-- attempt, and settle to the outcome of the first request that ends the loop, by the last
-- attempt at the latest; they never fall out of the loop.
import TonAgentBot.Js.Text

namespace ton_agent_bot.bootstrap

open js

/-! ## The pure model -/

def TELEGRAM_BOOTSTRAP_MAX_ATTEMPTS : Nat := 8
def TELEGRAM_BOOTSTRAP_RETRY_BASE_DELAY_MS : Nat := 750
def POLLING_START_MAX_ATTEMPTS : Nat := 8
def POLLING_START_RETRY_BASE_DELAY_MS : Nat := 750

/-- A thrown value as the bootstrap reads it: its message (`error.message` of an Error,
`String(error)` of anything else) and, for a GrammyError, its `error_code`. -/
structure BootError where
  message : String
  grammyErrorCode : Option Nat
  deriving DecidableEq, Repr

/-- `/pattern/i.test(text)` for a pattern of ASCII units: the pattern stands at the head of
some tail of the text. -/
def ciTest (pattern text : List UInt16) : Bool := text.tails.any (ciPrefix pattern)

/-- One of the `/pattern/i` tests of a list passes on the message. -/
def mentionsAny (patterns : List String) (message : String) : Bool :=
  patterns.any fun pattern => ciTest (utf16 pattern) (utf16 message)

/-- `isTransientTelegramNetworkError` (part_010, lines 182-191). -/
def isTransientTelegramNetworkError (error : BootError) : Bool :=
  mentionsAny ["network request", "fetch failed", "timeout", "econn", "und_err"] error.message

/-- `isTransientPollingStartError` (telegram/bot.ts, lines 417-439): a GrammyError with a
5xx or 429 code, or a message that one of eight tests matches. -/
def isTransientPollingStartError (error : BootError) : Bool :=
  (error.grammyErrorCode.any fun code => code ≥ 500 || code = 429) ||
    mentionsAny ["network request", "fetch failed", "timeout", "econn", "etimedout",
      "eai_again", "socket hang up", "und_err"] error.message

/-- The fields of getWebhookInfo's result that the bootstrap reads. -/
structure WebhookInfoResult where
  url : Option String
  pending_update_count : Nat
  last_error_date : Option Nat
  last_error_message : Option String
  max_connections : Option Nat
  deriving DecidableEq, Repr

/-- The webhook info that "Webhook mode configured." logs. -/
structure WebhookInfo where
  url : String
  pendingUpdateCount : Nat
  lastErrorDate : Option Nat
  lastErrorMessage : Option String
  maxConnections : Option Nat
  deriving DecidableEq, Repr

def WebhookInfoResult.toWebhookInfo (result : WebhookInfoResult) : WebhookInfo :=
  ⟨result.url.getD "", result.pending_update_count, result.last_error_date,
    result.last_error_message, result.max_connections⟩

/-- What the bootstrap does that is seen outside: a request (a Bot API method, or `start` of
the bot's long polling) by its attempt, a log line with its fields, and a sleep. -/
inductive Effect
  | request (label : String) (attempt : Nat)
  | retryWarning (text : String) (label : Option String) (attempt maxAttempts delayMs : Nat)
      (error : String)
  | sleep (ms : Nat)
  | manifestUrlWarning (configuredManifestUrl recommendedManifestUrl : String)
  | webhookInfoFailed (error : String)
  | webhookConfigured (webhookUrl : String) (webhookInfo : Option WebhookInfo)
  | deleteWebhookGaveUp (error : String)
  deriving DecidableEq, Repr

/-- What tells the two retry loops of the bootstrap apart: the errors they retry, how many
attempts they make and how long they wait, the request they make, and the warning they log
before a retry, with its label field when it has one. -/
structure RetryLoop where
  isTransient : BootError → Bool
  maxAttempts : Nat
  baseDelayMs : Nat
  request : String
  warning : String
  warningLabel : Option String

/-- The while loop of a retry loop from `attempt`, the outcome of each request given by its
attempt: what it does, and what it settles to (`ok none` for the `undefined` of a loop that
ends without a return). -/
def RetryLoop.loop (l : RetryLoop) (call : Nat → Except BootError α) (attempt : Nat) :
    List Effect × Except BootError (Option α) :=
  if attempt ≤ l.maxAttempts then
    match call attempt with
    | .ok v => ([.request l.request attempt], .ok (some v))
    | .error error =>
      if h : !l.isTransient error || attempt ≥ l.maxAttempts then
        ([.request l.request attempt], .error error)
      else
        let delayMs := l.baseDelayMs * attempt
        let rest := l.loop call (attempt + 1)
        (.request l.request attempt ::
          .retryWarning l.warning l.warningLabel attempt l.maxAttempts delayMs error.message ::
          .sleep delayMs :: rest.1, rest.2)
  else ([], .ok none)
termination_by l.maxAttempts + 1 - attempt
decreasing_by simp only [Bool.or_eq_true, Bool.not_eq_true', decide_eq_true_eq] at h; omega

/-- The loop of `retryTelegramBootstrap` (part_010, lines 193-221). -/
def telegramBootstrapLoop (label : String) : RetryLoop :=
  ⟨isTransientTelegramNetworkError, TELEGRAM_BOOTSTRAP_MAX_ATTEMPTS,
    TELEGRAM_BOOTSTRAP_RETRY_BASE_DELAY_MS, label, "Telegram bootstrap request failed, retrying.",
    some label⟩

def retryTelegramBootstrap (label : String) (run : Nat → Except BootError α) :
    List Effect × Except BootError (Option α) :=
  (telegramBootstrapLoop label).loop run 1

/-- The loop of `startPollingIngestion` (telegram/bot.ts, lines 478-509) around `bot.start`,
whose warning has no label. -/
def pollingStartLoop : RetryLoop :=
  ⟨isTransientPollingStartError, POLLING_START_MAX_ATTEMPTS, POLLING_START_RETRY_BASE_DELAY_MS,
    "start", "Telegram polling start failed, retrying.", none⟩

/-- `startPollingIngestion`, the outcome of `bot.start` given by the attempt. -/
def startPollingIngestion (start : Nat → Except BootError Unit) :
    List Effect × Except BootError (Option Unit) :=
  pollingStartLoop.loop start 1

def TELEGRAM_AUTH_HINT : String :=
  "Telegram API returned 404. Check TELEGRAM_BOT_TOKEN in .env.local (invalid token or bot no longer exists)."

/-- `throwTelegramAuthHint` (lines 223-231): what it throws. -/
def throwTelegramAuthHint (error : BootError) : BootError :=
  if error.grammyErrorCode = some 404 then ⟨TELEGRAM_AUTH_HINT, none⟩ else error

inductive BotRunMode
  | webhook
  | polling
  deriving DecidableEq, Repr

/-- The outcome of each request of the bootstrap, by its attempt. -/
structure TelegramCalls where
  setWebhook : Nat → Except BootError Unit
  getWebhookInfo : Nat → Except BootError WebhookInfoResult
  deleteWebhook : Nat → Except BootError Unit
  start : Nat → Except BootError Unit

/-- `startTelegramRuntime` (lines 512-588), with the manifest URL the environment gives and
the one the runtime serves, and the webhook URL it resolves: what it does, and whether it
throws. -/
def startTelegramRuntime (mode : BotRunMode)
    (configuredManifestUrl tonConnectManifestUrl webhookUrl : String) (api : TelegramCalls) :
    List Effect × Except BootError Unit :=
  let warned := if configuredManifestUrl ≠ tonConnectManifestUrl then
    [Effect.manifestUrlWarning configuredManifestUrl tonConnectManifestUrl] else []
  match mode with
  | .webhook =>
    let set := retryTelegramBootstrap "setWebhook" api.setWebhook
    match set.2 with
    | .error error => (warned ++ set.1, .error (throwTelegramAuthHint error))
    | .ok _ =>
      let info := retryTelegramBootstrap "getWebhookInfo" fun attempt =>
        (api.getWebhookInfo attempt).map WebhookInfoResult.toWebhookInfo
      let logged := match info.2 with
        | .ok webhookInfo => [Effect.webhookConfigured webhookUrl webhookInfo]
        | .error error => [.webhookInfoFailed error.message, .webhookConfigured webhookUrl none]
      (warned ++ set.1 ++ info.1 ++ logged, .ok ())
  | .polling =>
    let deleted := retryTelegramBootstrap "deleteWebhook" api.deleteWebhook
    let polling := startPollingIngestion api.start
    match deleted.2 with
    | .error error =>
      if !isTransientTelegramNetworkError error then
        (warned ++ deleted.1, .error (throwTelegramAuthHint error))
      else
        (warned ++ deleted.1 ++ .deleteWebhookGaveUp error.message :: polling.1,
          polling.2.map fun _ => ())
    | .ok _ => (warned ++ deleted.1 ++ polling.1, polling.2.map fun _ => ())

/-! ## The retry loops -/

def Effect.requestAttempt? : Effect → Option Nat
  | .request _ attempt => some attempt
  | _ => none

def Effect.sleepMs? : Effect → Option Nat
  | .sleep ms => some ms
  | _ => none

/-- A request of `label`, a retry warning or a sleep: what a retry loop of `label` does. -/
def Effect.isRetryStep (label : String) : Effect → Bool
  | .request r _ => r = label
  | .retryWarning .. | .sleep _ => true
  | _ => false

/-- A request's outcome that ends the loop: a result, an error that is not transient, or
any error at the last attempt. -/
def Settles (l : RetryLoop) (call : Nat → Except BootError α) (attempt : Nat) : Prop :=
  (∃ v, call attempt = .ok v) ∨ ∃ error, call attempt = .error error ∧
    (l.isTransient error = false ∨ attempt = l.maxAttempts)

/-- The first attempt whose request ends the loop: every request before it failed with a
transient error. -/
def FirstSettles (l : RetryLoop) (call : Nat → Except BootError α) (k : Nat) : Prop :=
  1 ≤ k ∧ k ≤ l.maxAttempts ∧
    (∀ i, 1 ≤ i → i < k → ∃ error, call i = .error error ∧ l.isTransient error = true) ∧
    Settles l call k

section
variable {l : RetryLoop} {call : Nat → Except BootError α} {attempt : Nat}

theorem RetryLoop.loop_of_settles (ha : attempt ≤ l.maxAttempts) (h : Settles l call attempt) :
    l.loop call attempt = ([.request l.request attempt], (call attempt).map some) := by
  rw [RetryLoop.loop, if_pos ha]
  rcases h with ⟨v, hv⟩ | ⟨error, he, hs⟩
  · simp only [hv]; rfl
  · simp only [he]
    rw [dif_pos (by rcases hs with hs | hs <;> simp [hs])]
    rfl

theorem RetryLoop.loop_of_transient (ha : attempt < l.maxAttempts) {error : BootError}
    (he : call attempt = .error error) (ht : l.isTransient error = true) :
    l.loop call attempt =
      (.request l.request attempt ::
        .retryWarning l.warning l.warningLabel attempt l.maxAttempts (l.baseDelayMs * attempt)
          error.message ::
        .sleep (l.baseDelayMs * attempt) :: (l.loop call (attempt + 1)).1,
        (l.loop call (attempt + 1)).2) := by
  rw [RetryLoop.loop, if_pos ha.le]
  simp only [he]
  rw [dif_neg (by simp [ht]; omega)]

theorem RetryLoop.loop_spec (l : RetryLoop) (call : Nat → Except BootError α) :
    ∀ n attempt, attempt + n = l.maxAttempts →
      ∃ k, attempt ≤ k ∧ k ≤ l.maxAttempts ∧
        (∀ i, attempt ≤ i → i < k → ∃ error, call i = .error error ∧
          l.isTransient error = true) ∧
        Settles l call k ∧ (l.loop call attempt).2 = (call k).map some ∧
        (l.loop call attempt).1.filterMap Effect.requestAttempt? =
          List.range' attempt (k + 1 - attempt) ∧
        (l.loop call attempt).1.filterMap Effect.sleepMs? =
          (List.range' attempt (k - attempt)).map (l.baseDelayMs * ·)
  | 0, attempt, hn => by
    have hs : Settles l call attempt := by
      cases hr : call attempt with
      | ok v => exact Or.inl ⟨v, hr⟩
      | error e => exact Or.inr ⟨e, hr, Or.inr (by simpa using hn)⟩
    refine ⟨attempt, le_rfl, by omega, fun i h1 h2 => absurd h2 (by omega), hs, ?_⟩
    simp [RetryLoop.loop_of_settles (by omega) hs, Effect.requestAttempt?, Effect.sleepMs?]
  | n + 1, attempt, hn => by
    by_cases hs : Settles l call attempt
    · refine ⟨attempt, le_rfl, by omega, fun i h1 h2 => absurd h2 (by omega), hs, ?_⟩
      simp [RetryLoop.loop_of_settles (by omega) hs, Effect.requestAttempt?, Effect.sleepMs?]
    · obtain ⟨error, he, ht⟩ : ∃ error, call attempt = .error error ∧
          l.isTransient error = true := by
        cases hr : call attempt with
        | ok v => exact absurd (Or.inl ⟨v, hr⟩) hs
        | error e => exact ⟨e, rfl, (by simpa [Settles, hr] using hs : _ ∧ _).1⟩
      obtain ⟨k, hk1, hk2, hbefore, hks, hres, hreq, hsl⟩ :=
        l.loop_spec call n (attempt + 1) (by omega)
      refine ⟨k, by omega, hk2, fun i h1 h2 => ?_, hks, ?_⟩
      · rcases Nat.eq_or_lt_of_le h1 with rfl | h1
        · exact ⟨error, he, ht⟩
        · exact hbefore i h1 h2
      rw [RetryLoop.loop_of_transient (by omega) he ht]
      refine ⟨hres, ?_, ?_⟩
      · simp only [List.filterMap_cons, Effect.requestAttempt?, hreq]
        rw [show k + 1 - attempt = k + 1 - (attempt + 1) + 1 by omega, List.range'_succ]
      · simp only [List.filterMap_cons, Effect.sleepMs?, hsl]
        rw [show k - attempt = k - (attempt + 1) + 1 by omega, List.range'_succ, List.map_cons]

theorem RetryLoop.loop_isRetryStep (l : RetryLoop) (call : Nat → Except BootError α)
    (attempt : Nat) : ∀ e ∈ (l.loop call attempt).1, e.isRetryStep l.request := by
  induction attempt using RetryLoop.loop.induct l call with
  | case1 a ha v hv =>
    rw [RetryLoop.loop, if_pos ha]
    simp [hv, Effect.isRetryStep]
  | case2 a ha error he hs =>
    rw [RetryLoop.loop, if_pos ha]
    simp only [he, dif_pos hs]
    simp [Effect.isRetryStep]
  | case3 a ha error he hs ih =>
    rw [RetryLoop.loop, if_pos ha]
    simp only [he, dif_neg hs]
    simpa [Effect.isRetryStep] using ih
  | case4 a ha =>
    rw [RetryLoop.loop, if_neg ha]
    simp

end

/-- Over every retry loop of the bootstrap, whatever it retries and however many attempts it
makes: the loop requests attempts 1 to k, k the first attempt whose request succeeds, fails
with an error it does not retry, or is the last, and settles to that request's outcome,
never to `undefined`; before each retry it sleeps the base delay times the attempt; and it
does nothing but request, warn and sleep. -/
theorem retry_loop_settles_first (l : RetryLoop) (call : Nat → Except BootError α)
    (hl : 1 ≤ l.maxAttempts) :
    ∃ k, FirstSettles l call k ∧ (l.loop call 1).2 = (call k).map some ∧
      (l.loop call 1).1.filterMap Effect.requestAttempt? = List.range' 1 k ∧
      (l.loop call 1).1.filterMap Effect.sleepMs? =
        (List.range' 1 (k - 1)).map (l.baseDelayMs * ·) ∧
      ∀ e ∈ (l.loop call 1).1, e.isRetryStep l.request := by
  obtain ⟨k, h1, h2, hb, hs, hres, hreq, hsl⟩ := l.loop_spec call (l.maxAttempts - 1) 1 (by omega)
  exact ⟨k, ⟨h1, h2, hb, hs⟩, hres, hreq, hsl, l.loop_isRetryStep call 1⟩

def flakyDeleteWebhook (attempt : Nat) : Except BootError Unit :=
  if attempt < 3 then .error ⟨"fetch failed", none⟩ else .ok ()

theorem flaky_deleteWebhook_settles_third :
    1 ≤ (telegramBootstrapLoop "deleteWebhook").maxAttempts ∧
      ∃ k, FirstSettles (telegramBootstrapLoop "deleteWebhook") flakyDeleteWebhook k ∧
        (retryTelegramBootstrap "deleteWebhook" flakyDeleteWebhook).2 =
          (flakyDeleteWebhook k).map some :=
  have ⟨k, hk, hres, _⟩ :=
    retry_loop_settles_first (telegramBootstrapLoop "deleteWebhook") flakyDeleteWebhook (by decide)
  ⟨by decide, k, hk, hres⟩

end ton_agent_bot.bootstrap
