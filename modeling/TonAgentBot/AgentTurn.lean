-- The provider fallback of agent/ton-agent.ts and the agent-turns job that runs it. The
-- fallback is gated on text deltas alone, so a primary stream that ran the approved tool
-- and then threw is followed by a fallback stream, which runs it again. A job attempt starts
-- at most two streams, and the job at most two per queue attempt.
import Mathlib.Algebra.Order.Ring.Nat
import Mathlib.Algebra.BigOperators.Group.List
import TonAgentBot.Run
import TonAgentBot.Js.Text

namespace ton_agent_bot.agent

/-! ## Provider streams -/

/-- The chunks of `fullStream` that the loop and the tool runs tell apart. A `toolResult`
chunk is one run of a tool by the agent. -/
inductive Chunk
  | textDelta (text : String)
  | toolResult (toolCallId : String)
  | other
  deriving DecidableEq, Repr

/-- A provider stream as the provider plays it: its chunks up to its end, whether it and
the awaits of `text` and `response` complete, what they give, and the message it throws
otherwise. -/
structure ProviderStream where
  chunks : List Chunk
  ok : Bool
  text : String
  responseMessages : List String
  error : String
  deriving DecidableEq, Repr

/-- `emittedAnyDelta` after the loop over the chunks: some text delta was not empty. -/
def emittedAnyDelta (chunks : List Chunk) : Bool :=
  chunks.any fun
    | .textDelta t => !t.isEmpty
    | _ => false

/-- `streamedText` after the loop over the chunks. -/
def streamedText (chunks : List Chunk) : String :=
  chunks.foldl (fun acc c => match c with
    | .textDelta t => acc ++ t
    | _ => acc) ""

/-- JavaScript's `trim()`. -/
def jsTrim (s : String) : String :=
  ⟨((s.data.dropWhile js.isJsWhitespace).reverse.dropWhile js.isJsWhitespace).reverse⟩

theorem jsTrim_jsTrim (s : String) : jsTrim (jsTrim s) = jsTrim s := by
  have hstart : ∀ l : List Char,
      ((l.dropWhile js.isJsWhitespace).rdropWhile js.isJsWhitespace).dropWhile js.isJsWhitespace =
        (l.dropWhile js.isJsWhitespace).rdropWhile js.isJsWhitespace := by
    intro l
    obtain ⟨q, hq⟩ := List.rdropWhile_prefix (l := l.dropWhile js.isJsWhitespace) js.isJsWhitespace
    cases hb : (l.dropWhile js.isJsWhitespace).rdropWhile js.isJsWhitespace with
    | nil => rfl
    | cons c r =>
      have hc := List.head?_dropWhile_not js.isJsWhitespace l
      rw [← hq, hb, List.cons_append, List.head?_cons] at hc
      exact List.dropWhile_cons_of_neg (by simpa using hc)
  have hdata : ∀ t : String,
      jsTrim t = ⟨(t.data.dropWhile js.isJsWhitespace).rdropWhile js.isJsWhitespace⟩ := fun _ => rfl
  simp only [hdata, hstart, List.rdropWhile_idempotent]

structure AgentModelAttempt where
  provider : String
  modelId : String
  deriving DecidableEq, Repr

/-- `resolveGatewayFallbackModelId`: the configured fallback model, trimmed, unless it is
unset or blank. -/
def resolveGatewayFallbackModelId (requestedModelId : String)
    (configuredFallbackModelId : Option String) : String :=
  match configuredFallbackModelId with
  | some configured =>
    if configured.isEmpty then requestedModelId
    else if (jsTrim configured).length > 0 then jsTrim configured else requestedModelId
  | none => requestedModelId

/-- `buildAgentModelAttempts`: OpenRouter first, the AI gateway second when its key is set.
`gatewayModelId` is what `resolveGatewayFallbackModelId` gives. -/
def buildAgentModelAttempts (requestedModelId aiModel : String) (gatewayApiKey : Option String)
    (gatewayModelId : String) : List AgentModelAttempt :=
  let openRouterModel :=
    if (jsTrim requestedModelId).length > 0 then jsTrim requestedModelId else aiModel
  ⟨"openrouter", openRouterModel⟩ ::
    if gatewayApiKey.any (!·.isEmpty) then [⟨"ai-gateway", gatewayModelId⟩] else []

structure AgentProviderExecutionResult where
  provider : String
  modelId : String
  toolChoice : String
  responseText : String
  responseMessages : List String
  usedFallback : Bool
  primaryErrorMessage : Option String
  deriving DecidableEq, Repr

/-! ## The fallback loop -/

section
variable (hasFallbackAttempt : Bool) (toolChoice : String) (streams : Nat → ProviderStream)

/-- The loop of `executeWithProviderFallback` from attempt `index` on: the result or the
message it throws, and the streams it started, in order. A failed stream is followed by the
next attempt only when it is the first, a fallback exists and it gave no text delta. -/
def fallbackLoop : Nat → Option String → List AgentModelAttempt →
    Except String AgentProviderExecutionResult × List ProviderStream
  | _, primaryError, [] =>
    (.error (primaryError.getD "No model provider attempts were available."), [])
  | index, primaryError, attempt :: rest =>
    let st := streams index
    if st.ok then
      (.ok { provider := attempt.provider
             modelId := attempt.modelId
             toolChoice := toolChoice
             responseText :=
               if (jsTrim st.text).length > 0 then st.text else streamedText st.chunks
             responseMessages := st.responseMessages
             usedFallback := decide (index > 0)
             primaryErrorMessage := primaryError }, [st])
    else if index = 0 ∧ hasFallbackAttempt ∧ !emittedAnyDelta st.chunks then
      let r := fallbackLoop (index + 1) (some st.error) rest
      (r.1, st :: r.2)
    else (.error st.error, [st])

end

/-- `executeWithProviderFallback` over the attempts, with the provider's stream for each. -/
def executeWithProviderFallback (attempts : List AgentModelAttempt) (toolChoice : String)
    (streams : Nat → ProviderStream) :
    Except String AgentProviderExecutionResult × List ProviderStream :=
  fallbackLoop (decide (attempts.length > 1)) toolChoice streams 0 none attempts

/-! ## The agent-turns job -/

/-- `defaultJobOptions.attempts` of the agent-turns queue. -/
def JOB_ATTEMPTS : Nat := 5

/-- One queue attempt of an agent-turns job as its environment plays it: whether the chat
lock, the history load and the persist of the incoming message succeed, the provider
streams, and whether all that follows the provider execution succeeds (the response
messages, the approvals, the audit events, the draft, the reply and `touchSession`). -/
structure TurnAttempt where
  beforeOk : Bool
  streams : Nat → ProviderStream
  afterOk : Bool

/-- The streams one queue attempt starts, and whether it completes. -/
def runTurnAttempt (attempts : List AgentModelAttempt) (toolChoice : String)
    (a : TurnAttempt) : List ProviderStream × Bool :=
  if a.beforeOk then
    let r := executeWithProviderFallback attempts toolChoice a.streams
    (r.2, r.1.toBool && a.afterOk)
  else ([], false)

/-- The job with `left` queue attempts left, from attempt `made` on: the streams its
attempts start, and whether one completes. A failed attempt rethrows and the queue runs
the next while attempts are left. -/
def agentTurnJob (attempts : List AgentModelAttempt) (toolChoice : String)
    (env : Nat → TurnAttempt) : Nat → Nat → List ProviderStream × Bool
  | 0, _ => ([], false)
  | left + 1, made =>
    let r := runTurnAttempt attempts toolChoice (env made)
    if r.2 then (r.1, true)
    else
      let rest := agentTurnJob attempts toolChoice env left (made + 1)
      (r.1 ++ rest.1, rest.2)

def toolRuns (toolCallId : String) (streams : List ProviderStream) : Nat :=
  (streams.map fun st => st.chunks.count (.toolResult toolCallId)).sum

/-! ## The streams a job starts -/

section
variable (toolChoice : String) (streams : Nat → ProviderStream)

theorem fallbackLoop_started_of_ne_zero (hasFallbackAttempt : Bool) {index : Nat}
    (h : index ≠ 0) (primaryError : Option String) (a : AgentModelAttempt)
    (rest : List AgentModelAttempt) :
    (fallbackLoop hasFallbackAttempt toolChoice streams index primaryError (a :: rest)).2 =
      [streams index] := by
  simp only [fallbackLoop, h, false_and, if_false]
  split_ifs <;> rfl

theorem executeWithProviderFallback_started (a : AgentModelAttempt)
    (rest : List AgentModelAttempt) :
    (executeWithProviderFallback (a :: rest) toolChoice streams).2 =
      streams 0 :: if (streams 0).ok = false ∧ rest ≠ [] ∧
        emittedAnyDelta (streams 0).chunks = false then [streams 1] else [] := by
  simp only [executeWithProviderFallback, fallbackLoop]
  cases hok : (streams 0).ok
  case true => simp
  case false =>
    cases rest with
    | nil => simp [fallbackLoop]
    | cons b rest =>
      cases he : emittedAnyDelta (streams 0).chunks <;>
        simp [fallbackLoop_started_of_ne_zero toolChoice streams _ Nat.one_ne_zero]

theorem toolRuns_append (toolCallId : String) (xs ys : List ProviderStream) :
    toolRuns toolCallId (xs ++ ys) = toolRuns toolCallId xs + toolRuns toolCallId ys := by
  simp [toolRuns]

theorem toolRuns_executeWithProviderFallback (toolCallId : String) (a : AgentModelAttempt)
    (rest : List AgentModelAttempt) :
    toolRuns toolCallId (executeWithProviderFallback (a :: rest) toolChoice streams).2 =
      (streams 0).chunks.count (.toolResult toolCallId) +
        if (streams 0).ok = false ∧ rest ≠ [] ∧ emittedAnyDelta (streams 0).chunks = false
        then (streams 1).chunks.count (.toolResult toolCallId) else 0 := by
  rw [executeWithProviderFallback_started]
  split_ifs <;> simp [toolRuns]

end

/-! ## The fallback law -/

/-- What the spec asks of the provider fallback: a second stream starts only after a first
that threw before any text delta while a fallback attempt exists; a first stream that threw
after a delta ends the execution with its error; the deltas forwarded to the draft come
from one stream; and a result comes from the last stream started, flagged as the
fallback's exactly when that stream is the second. -/
structure FallbackLaw (attempts : List AgentModelAttempt) (toolChoice : String)
    (streams : Nat → ProviderStream) : Prop where
  fallback_only_after_quiet_failure :
    (executeWithProviderFallback attempts toolChoice streams).2 = [] ∨
      (executeWithProviderFallback attempts toolChoice streams).2 = [streams 0] ∨
      ((executeWithProviderFallback attempts toolChoice streams).2 = [streams 0, streams 1] ∧
        1 < attempts.length ∧ (streams 0).ok = false ∧ emittedAnyDelta (streams 0).chunks = false)
  failure_after_delta_propagates :
    attempts ≠ [] → (streams 0).ok = false → emittedAnyDelta (streams 0).chunks = true →
      executeWithProviderFallback attempts toolChoice streams = (.error (streams 0).error, [streams 0])
  deltas_from_one_stream :
    ((executeWithProviderFallback attempts toolChoice streams).2.filter
      fun st => emittedAnyDelta st.chunks).length ≤ 1
  result_from_last_stream : ∀ res,
    (executeWithProviderFallback attempts toolChoice streams).1 = .ok res →
      ∃ i a, attempts[i]? = some a ∧
        (executeWithProviderFallback attempts toolChoice streams).2.length = i + 1 ∧
        (streams i).ok = true ∧ res.provider = a.provider ∧ res.modelId = a.modelId ∧
        (res.usedFallback = true ↔ i = 1)

theorem executeWithProviderFallback_ok (toolChoice : String) (streams : Nat → ProviderStream)
    (a : AgentModelAttempt) (rest : List AgentModelAttempt) {res : AgentProviderExecutionResult}
    (h : (executeWithProviderFallback (a :: rest) toolChoice streams).1 = .ok res) :
    ((streams 0).ok = true ∧ res.provider = a.provider ∧ res.modelId = a.modelId ∧
        res.usedFallback = false) ∨
      ((streams 0).ok = false ∧ emittedAnyDelta (streams 0).chunks = false ∧
        ∃ b rest', rest = b :: rest' ∧ (streams 1).ok = true ∧ res.provider = b.provider ∧
          res.modelId = b.modelId ∧ res.usedFallback = true) := by
  simp only [executeWithProviderFallback, fallbackLoop] at h
  cases h0 : (streams 0).ok
  · rcases rest with _ | ⟨b, rest'⟩
    · simp [h0] at h
    · cases he : emittedAnyDelta (streams 0).chunks
      · cases h1 : (streams 1).ok <;> simp [h0, he, h1, fallbackLoop] at h
        subst h
        exact .inr ⟨rfl, rfl, b, rest', rfl, rfl, rfl, rfl, rfl⟩
      · simp [h0, he] at h
  · simp only [h0, if_true, Except.ok.injEq] at h
    subst h
    exact .inl ⟨rfl, rfl, rfl, rfl⟩

section
variable (toolCallId : String) (attempts : List AgentModelAttempt) (toolChoice : String)

theorem toolRuns_runTurnAttempt_le (a : TurnAttempt)
    (h : ∀ i, ((a.streams i).chunks.count (.toolResult toolCallId)) ≤ 1) :
    toolRuns toolCallId (runTurnAttempt attempts toolChoice a).1 ≤ 2 := by
  unfold runTurnAttempt
  split_ifs
  · cases attempts with
    | nil => simp [executeWithProviderFallback, fallbackLoop, toolRuns]
    | cons b rest =>
      rw [toolRuns_executeWithProviderFallback]
      have h0 := h 0
      have h1 := h 1
      split_ifs <;> omega
  · simp [toolRuns]

theorem toolRuns_agentTurnJob_le (env : Nat → TurnAttempt)
    (h : ∀ m i, (((env m).streams i).chunks.count (.toolResult toolCallId)) ≤ 1) :
    ∀ left made, toolRuns toolCallId (agentTurnJob attempts toolChoice env left made).1 ≤ 2 * left
  | 0, _ => by simp [agentTurnJob, toolRuns]
  | left + 1, made => by
    have h1 := toolRuns_runTurnAttempt_le toolCallId attempts toolChoice (env made) (h made)
    have h2 := toolRuns_agentTurnJob_le env h left (made + 1)
    simp only [agentTurnJob]
    split_ifs
    · exact h1.trans (by omega)
    · rw [toolRuns_append]; omega

end

/-- The approved call runs once in each stream started over it: a fallback stream starts
whenever the first threw with no text delta, even after running the call, and the job's
queue attempts start at most two streams each. -/
theorem approved_tool_runs_per_started_stream (toolCallId : String) (a : AgentModelAttempt)
    (rest : List AgentModelAttempt) (toolChoice : String) (env : Nat → TurnAttempt)
    (hOnce : ∀ m i, (((env m).streams i).chunks.count (.toolResult toolCallId)) ≤ 1) :
    (∀ streams : Nat → ProviderStream,
      toolRuns toolCallId (executeWithProviderFallback (a :: rest) toolChoice streams).2 =
        (streams 0).chunks.count (.toolResult toolCallId) +
          if (streams 0).ok = false ∧ rest ≠ [] ∧ emittedAnyDelta (streams 0).chunks = false
          then (streams 1).chunks.count (.toolResult toolCallId) else 0) ∧
    toolRuns toolCallId (agentTurnJob (a :: rest) toolChoice env JOB_ATTEMPTS 0).1 ≤
      2 * JOB_ATTEMPTS :=
  ⟨fun streams => toolRuns_executeWithProviderFallback toolChoice streams toolCallId a rest,
    toolRuns_agentTurnJob_le toolCallId (a :: rest) toolChoice env hOnce JOB_ATTEMPTS 0⟩

def toolThenThrow : Nat → ProviderStream
  | 0 => ⟨[.toolResult "call-1"], false, "", [], "Provider returned error"⟩
  | _ => ⟨[.toolResult "call-1", .textDelta "Sent."], true, "Sent.", [], ""⟩

def toolTurn : Nat → TurnAttempt := fun _ => ⟨true, toolThenThrow, true⟩

theorem tool_turn_runs_tool_per_stream :
    (∀ m i, (((toolTurn m).streams i).chunks.count (.toolResult "call-1")) ≤ 1) ∧
      toolRuns "call-1" (executeWithProviderFallback [⟨"openrouter", "openrouter/auto"⟩,
        ⟨"ai-gateway", "openai/gpt-4o-mini"⟩] "auto" toolThenThrow).2 = 1 + 1 ∧
      toolRuns "call-1" (agentTurnJob [⟨"openrouter", "openrouter/auto"⟩,
        ⟨"ai-gateway", "openai/gpt-4o-mini"⟩] "auto" toolTurn JOB_ATTEMPTS 0).1 ≤
        2 * JOB_ATTEMPTS :=
  have hOnce : ∀ m i, (((toolTurn m).streams i).chunks.count (.toolResult "call-1")) ≤ 1 :=
    fun _ i => by cases i <;> simp [toolTurn, toolThenThrow]
  have h := approved_tool_runs_per_started_stream "call-1" ⟨"openrouter", "openrouter/auto"⟩
    [⟨"ai-gateway", "openai/gpt-4o-mini"⟩] "auto" toolTurn hOnce
  ⟨hOnce, (h.1 toolThenThrow).trans (by decide), h.2⟩

/-! ## A tool run does not stop the fallback -/

/-- With the gateway configured, the job completes on its first queue attempt and the
approved call has run twice. -/
theorem fallback_reruns_approved_tool :
    agentTurnJob (buildAgentModelAttempts "" "openrouter/auto" (some "key") "openai/gpt-4o-mini")
        "auto" (fun _ => ⟨true, toolThenThrow, true⟩) JOB_ATTEMPTS 0 =
      ([toolThenThrow 0, toolThenThrow 1], true) ∧
    toolRuns "call-1" [toolThenThrow 0, toolThenThrow 1] = 2 := by
  decide

end ton_agent_bot.agent
