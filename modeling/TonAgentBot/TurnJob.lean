-- The agent-turns job (createAgentTurnWorker, db/schema.ts lines 342-438) over its queue
-- attempts. executeAgentTurn stores the incoming message before it streams, and a failed
-- attempt adds a dead-letter job and sends the failure notice before it rethrows, so every
-- attempt the queue retries repeats all three.
import TonAgentBot.Updates.Route

namespace ton_agent_bot.agent

open ton_agent_bot.updates

/-! ## The stores an attempt writes -/

/-- An agent_messages row of the session: the job's incoming message, or one of the
response messages. -/
inductive Stored
  | incoming
  | response (message : String)
  deriving DecidableEq, Repr

/-- A message the chat receives from the job: the turn's answer, or the failure notice. -/
inductive Reply
  | answer (text : String)
  | failureNotice
  deriving DecidableEq, Repr

/-- What the attempts write: the session's rows, with the correlation id of the turn that
stored them; the replies; the dead-letter jobs, with their correlation id and reason; and
the schedule of the awaits that throw. -/
structure TurnStore where
  messages : List (String × Stored)
  replies : List Reply
  deadLetters : List (String × String)
  faults : List Bool

abbrev T := EStateM String TurnStore

def awaitT (act : TurnStore → TurnStore) : T Unit := fun s =>
  match s.faults with
  | true :: fs => .error "statement failed" { s with faults := fs }
  | false :: fs => .ok () (act { s with faults := fs })
  | [] => .ok () (act s)

/-- The text of the failure notice (db/schema.ts, line 413). -/
def FAILURE_NOTICE : String := "I could not complete that request. Please try again."

/-! ## executeAgentTurn and one attempt of the job -/

section
variable (correlationId : String) (attempts : List AgentModelAttempt) (toolChoice : String)
  (streams : Nat → ProviderStream)

/-- `persistModelMessages`: one insert a message. -/
def persistResponses : List String → T Unit
  | [] => pure ()
  | m :: ms => do
    awaitT fun s => { s with messages := s.messages ++ [(correlationId, .response m)] }
    persistResponses ms

/-- `executeAgentTurn` (agent/ton-agent.ts, lines 322-420): load the history, store the
incoming message, run the provider fallback, store the response messages, register the
approvals, append the audit events. The approvals and the audit events are awaits whose
writes this store does not hold. -/
def executeAgentTurn : T String := do
  awaitT id
  awaitT fun s => { s with messages := s.messages ++ [(correlationId, .incoming)] }
  match (executeWithProviderFallback attempts toolChoice streams).1 with
  | .error e => throw e
  | .ok r =>
    persistResponses correlationId r.responseMessages
    awaitT id
    (if r.usedFallback then awaitT id else pure ())
    awaitT id
    pure r.responseText

/-- One queue attempt: take the chat lock, which throws outside the `try` when it cannot;
then the draft, the turn, the answer, the approval cards and `touchSession`, whose throw
the `catch` answers with a dead-letter job and the failure notice before it rethrows. The
typing action and the lock release swallow their errors. -/
def agentTurnAttempt : T Unit := do
  awaitT id
  updates.tryCatch
    (do
      awaitT id
      let text ← executeAgentTurn correlationId attempts toolChoice streams
      awaitT id
      awaitT fun s => { s with replies := s.replies ++ [.answer text] }
      awaitT id
      awaitT id)
    (fun e => do
      awaitT fun s => { s with deadLetters := s.deadLetters ++ [(correlationId, e)] }
      awaitT fun s => { s with replies := s.replies ++ [.failureNotice] }
      throw e)

end

/-- One queue attempt as its environment plays it: the awaits that throw, and the provider
streams. -/
structure AttemptEnv where
  faults : List Bool
  streams : Nat → ProviderStream

/-- The job with `left` queue attempts left, from attempt `made` on: the stores after it,
and whether an attempt completed. A failed attempt rethrows, and the queue runs the next
while attempts are left. -/
def agentTurnsJob (correlationId : String) (attempts : List AgentModelAttempt)
    (toolChoice : String) (env : Nat → AttemptEnv) : Nat → Nat → TurnStore → TurnStore × Bool
  | 0, _, s => (s, false)
  | left + 1, made, s =>
    match agentTurnAttempt correlationId attempts toolChoice (env made).streams
        { s with faults := (env made).faults } with
    | .ok _ s' => (s', true)
    | .error _ s' => agentTurnsJob correlationId attempts toolChoice env left (made + 1) s'

/-! ## What one attempt adds -/

def incomingCount (correlationId : String) (s : TurnStore) : Nat :=
  s.messages.count (correlationId, .incoming)

def noticeCount (s : TurnStore) : Nat := s.replies.count .failureNotice

def deadLetterCount (correlationId : String) (s : TurnStore) : Nat :=
  (s.deadLetters.filter (·.1 = correlationId)).length

section
variable {γ α : Type} {f : TurnStore → γ}

theorem Keeps.of_awaitT (hf : ∀ s fs, f { s with faults := fs } = f s) {act : TurnStore → TurnStore}
    (h : ∀ s, f (act s) = f s) : Keeps f (awaitT act) := by
  refine ⟨fun s => ?_⟩
  unfold awaitT
  rcases hs : s.faults with _ | ⟨_ | _, fs⟩ <;> simp [after, hf, h]

theorem keeps_throw {e : String} : Keeps f (throw e : T α) := ⟨fun _ => rfl⟩

end

section
variable {α : Type} {f : TurnStore → Nat}

theorem AtMostOne.of_awaitT (hf : ∀ s fs, f { s with faults := fs } = f s)
    {act : TurnStore → TurnStore} (h : ∀ s, f (act s) ≤ f s + 1) : AtMostOne f (awaitT act) := by
  refine ⟨fun s => ?_⟩
  unfold awaitT
  rcases hs : s.faults with _ | ⟨_ | _, fs⟩
  · exact h s
  · simpa [after, hf] using h { s with faults := fs }
  · simp [after, hf]

theorem Keeps.tryCatch_atMostOne {x : T α} {h : String → T α} (hx : Keeps f x)
    (hh : ∀ e, AtMostOne f (h e)) : AtMostOne f (updates.tryCatch x h) := by
  refine ⟨fun w => ?_⟩
  have := hx.keeps w
  unfold updates.tryCatch
  cases hw : x w with
  | ok a w' => simp only [hw, after] at this ⊢; omega
  | error e w' => simp only [hw, after] at this ⊢; exact ((hh e).le w').trans (by omega)

end

section
variable (correlationId : String) (attempts : List AgentModelAttempt) (toolChoice : String)
  (streams : Nat → ProviderStream)

/-- A function of the rows, the replies or the dead letters, blind to the schedule. -/
def Blind {γ : Type} (f : TurnStore → γ) : Prop := ∀ s fs, f { s with faults := fs } = f s

theorem keeps_persistResponses {γ : Type} {f : TurnStore → γ} (hf : Blind f)
    (h : ∀ s m, f { s with messages := s.messages ++ [(correlationId, .response m)] } = f s) :
    ∀ ms, Keeps f (persistResponses correlationId ms)
  | [] => .pure ()
  | _ :: ms => (Keeps.of_awaitT hf (h · _)).bind fun _ => keeps_persistResponses hf h ms

theorem executeAgentTurn_incoming :
    AtMostOne (incomingCount correlationId)
      (executeAgentTurn correlationId attempts toolChoice streams) := by
  have hf : Blind (incomingCount correlationId) := fun _ _ => rfl
  have hid : Keeps _ (awaitT id) := Keeps.of_awaitT hf fun _ => rfl
  refine hid.bind_atMostOne fun _ =>
    (AtMostOne.of_awaitT hf fun s => by simp [incomingCount]).bind_keeps fun _ => ?_
  split
  · exact keeps_throw
  · refine (keeps_persistResponses correlationId hf (fun s m => by simp [incomingCount]) _).bind
      fun _ => hid.bind fun _ => (Keeps.ite hid (.pure ())).bind fun _ => hid.bind fun _ => .pure _

theorem executeAgentTurn_keeps {γ : Type} {f : TurnStore → γ} (hf : Blind f)
    (hm : ∀ s ms, f { s with messages := ms } = f s) :
    Keeps f (executeAgentTurn correlationId attempts toolChoice streams) := by
  have hid : Keeps _ (awaitT id) := Keeps.of_awaitT hf fun _ => rfl
  refine hid.bind fun _ => (Keeps.of_awaitT hf fun s => hm s _).bind fun _ => ?_
  split
  · exact keeps_throw
  · exact (keeps_persistResponses correlationId hf (fun s _ => hm s _) _).bind
      fun _ => hid.bind fun _ => (Keeps.ite hid (.pure ())).bind fun _ => hid.bind fun _ => .pure _

theorem agentTurnAttempt_at_most_once :
    AtMostOne (incomingCount correlationId)
        (agentTurnAttempt correlationId attempts toolChoice streams) ∧
      AtMostOne noticeCount (agentTurnAttempt correlationId attempts toolChoice streams) ∧
      AtMostOne (deadLetterCount correlationId)
        (agentTurnAttempt correlationId attempts toolChoice streams) := by
  refine ⟨?_, ?_, ?_⟩
  · have hf : Blind (incomingCount correlationId) := fun _ _ => rfl
    have hid : Keeps _ (awaitT id) := Keeps.of_awaitT hf fun _ => rfl
    refine hid.bind_atMostOne fun _ => AtMostOne.of_tryCatch ?_ fun _ =>
      (Keeps.of_awaitT hf fun _ => by rfl).bind fun _ =>
        (Keeps.of_awaitT hf fun _ => by rfl).bind fun _ => keeps_throw
    exact hid.bind_atMostOne fun _ =>
      (executeAgentTurn_incoming correlationId attempts toolChoice streams).bind_keeps fun _ =>
        hid.bind fun _ => (Keeps.of_awaitT hf fun _ => by rfl).bind fun _ =>
          hid.bind fun _ => hid
  · have hf : Blind noticeCount := fun _ _ => rfl
    have hid : Keeps _ (awaitT id) := Keeps.of_awaitT hf fun _ => rfl
    refine hid.bind_atMostOne fun _ => Keeps.tryCatch_atMostOne ?_ fun _ =>
      (Keeps.of_awaitT hf fun _ => by rfl).bind_atMostOne fun _ =>
        (AtMostOne.of_awaitT hf fun s => by simp [noticeCount]).bind_keeps fun _ => keeps_throw
    exact hid.bind fun _ =>
      (executeAgentTurn_keeps correlationId attempts toolChoice streams hf fun _ _ => rfl).bind
        fun _ => hid.bind fun _ => (Keeps.of_awaitT hf fun s => by simp [noticeCount]).bind
          fun _ => hid.bind fun _ => hid
  · have hf : Blind (deadLetterCount correlationId) := fun _ _ => rfl
    have hid : Keeps _ (awaitT id) := Keeps.of_awaitT hf fun _ => rfl
    refine hid.bind_atMostOne fun _ => Keeps.tryCatch_atMostOne ?_ fun _ =>
      (AtMostOne.of_awaitT hf fun s => by simp [deadLetterCount]).bind_keeps fun _ =>
        (Keeps.of_awaitT hf fun _ => by rfl).bind fun _ => keeps_throw
    exact hid.bind fun _ =>
      (executeAgentTurn_keeps correlationId attempts toolChoice streams hf fun _ _ => rfl).bind
        fun _ => hid.bind fun _ => (Keeps.of_awaitT hf fun _ => by rfl).bind
          fun _ => hid.bind fun _ => hid

end

/-! ## What the job adds -/

theorem agentTurnsJob_le {correlationId : String} {attempts : List AgentModelAttempt}
    {toolChoice : String} {env : Nat → AttemptEnv} {f : TurnStore → Nat}
    (hf : ∀ s fs, f { s with faults := fs } = f s)
    (h : ∀ streams, AtMostOne f (agentTurnAttempt correlationId attempts toolChoice streams)) :
    ∀ left made s, f (agentTurnsJob correlationId attempts toolChoice env left made s).1 ≤
      f s + left
  | 0, _, s => by simp [agentTurnsJob]
  | left + 1, made, s => by
    have h1 := (h (env made).streams).le { s with faults := (env made).faults }
    rw [hf s] at h1
    simp only [agentTurnsJob]
    split
    · rename_i hr; simp only [hr, after] at h1; dsimp only; omega
    · rename_i s' hr
      simp only [hr, after] at h1
      have := @agentTurnsJob_le correlationId attempts toolChoice env f hf h left (made + 1) s'
      omega

/-- Over its queue attempts the job stores its incoming message, sends the failure notice
and adds a dead letter of its correlation id at most once per attempt, so at most
`JOB_ATTEMPTS` times each. -/
theorem agentTurnsJob_at_most_once_per_attempt (correlationId : String)
    (attempts : List AgentModelAttempt) (toolChoice : String) (env : Nat → AttemptEnv)
    (s : TurnStore) :
    incomingCount correlationId (agentTurnsJob correlationId attempts toolChoice env JOB_ATTEMPTS
        0 s).1 ≤ incomingCount correlationId s + JOB_ATTEMPTS ∧
      noticeCount (agentTurnsJob correlationId attempts toolChoice env JOB_ATTEMPTS 0 s).1 ≤
        noticeCount s + JOB_ATTEMPTS ∧
      deadLetterCount correlationId (agentTurnsJob correlationId attempts toolChoice env
        JOB_ATTEMPTS 0 s).1 ≤ deadLetterCount correlationId s + JOB_ATTEMPTS :=
  ⟨agentTurnsJob_le (fun _ _ => by rfl)
      (fun st => (agentTurnAttempt_at_most_once correlationId attempts toolChoice st).1) _ _ _,
    agentTurnsJob_le (fun _ _ => by rfl)
      (fun st => (agentTurnAttempt_at_most_once correlationId attempts toolChoice st).2.1) _ _ _,
    agentTurnsJob_le (fun _ _ => by rfl)
      (fun st => (agentTurnAttempt_at_most_once correlationId attempts toolChoice st).2.2) _ _ _⟩

/-! ## A retried turn -/

def flakyProvider : Nat → AttemptEnv
  | 0 => ⟨[], fun _ => ⟨[], false, "", [], "Provider returned error"⟩⟩
  | _ => ⟨[], fun _ => ⟨[.textDelta "Done."], true, "Done.", ["Done."], ""⟩⟩

def emptyStore : TurnStore := ⟨[], [], [], []⟩

def retriedTurn : TurnStore × Bool :=
  agentTurnsJob "corr-1" [⟨"openrouter", "openrouter/auto"⟩] "auto" flakyProvider JOB_ATTEMPTS 0
    emptyStore

def failingTurn : TurnStore × Bool :=
  agentTurnsJob "corr-1" [⟨"openrouter", "openrouter/auto"⟩] "auto" (fun _ => flakyProvider 0)
    JOB_ATTEMPTS 0 emptyStore

/-- The job completes on its second attempt, with its incoming message stored twice, the
failure notice sent, and a dead letter of its correlation id although attempts were left;
and a job whose provider always throws stores its message, sends the notice and adds a
dead letter on each of its five attempts. -/
theorem retried_turn_repeats_its_effects :
    retriedTurn.2 = true ∧ incomingCount "corr-1" retriedTurn.1 = 2 ∧
      noticeCount retriedTurn.1 = 1 ∧ deadLetterCount "corr-1" retriedTurn.1 = 1 ∧
      failingTurn.2 = false ∧ incomingCount "corr-1" failingTurn.1 = 5 ∧
      noticeCount failingTurn.1 = 5 ∧ deadLetterCount "corr-1" failingTurn.1 = 5 := by
  decide

end ton_agent_bot.agent
