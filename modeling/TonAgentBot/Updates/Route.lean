-- routeUpdate of telegram/router for one update, run statement by statement over the
-- stores it touches, any awaited call of which may throw and leave what it had written.
-- routeUpdate enqueues no turn itself: it returns the turn request, and a text message
-- consumes the user's turn quota once per run. Its decideApproval is a call of the approval
-- engine's model, run alone.
import TonAgentBot.Approvals.Store
import TonAgentBot.Approvals.Engine
import TonAgentBot.AgentTurn

namespace ton_agent_bot.updates

open ton_agent_bot.approvals

/-! ## The update and the turn request -/

inductive RiskProfile
  | cautious
  | balanced
  | advanced
  deriving DecidableEq, Repr

inductive ApprovalRiskLevel
  | low
  | medium
  | high
  | critical
  deriving DecidableEq, Repr

/-- `requiresAdditionalCautiousConfirmation` of approvals/presenter. -/
def requiresAdditionalCautiousConfirmation (riskProfile : RiskProfile)
    (riskLevel : ApprovalRiskLevel) : Bool :=
  riskProfile = .cautious ∧ (riskLevel = .high ∨ riskLevel = .critical)

/-- The `callback_query` of an update: its id, the sender, its data, and whether it
carries the message it was sent from. -/
structure CallbackQuery where
  id : String
  fromId : String
  data : String
  hasMessage : Bool
  deriving DecidableEq, Repr

/-- The `message` of an update: its text, if any, and its sender, if any. -/
structure Message where
  text : Option String
  fromId : Option String
  deriving DecidableEq, Repr

structure Update where
  callbackQuery : Option CallbackQuery
  message : Option Message
  deriving DecidableEq, Repr

/-- The `approvalResponse` of a `TurnExecutionRequest`. -/
structure ApprovalResponse where
  approved : Bool
  reason : Option String
  deriving DecidableEq, Repr

/-- The fields of a `TurnExecutionRequest` that routing decides. -/
structure TurnExecutionRequest where
  correlationId : String
  text : String
  approvalResponse : Option ApprovalResponse
  deriving DecidableEq, Repr

/-- `UpdateProcessingResult` of types/contracts. -/
structure UpdateProcessingResult where
  shouldQueueTurn : Bool
  turnRequest : Option TurnExecutionRequest
  deriving DecidableEq, Repr

def noTurn : UpdateProcessingResult := ⟨false, none⟩

/-- A message the bot sends: a fixed text of the source, or a rendered one (a card's
details, a rate-limit notice, a settings or wallet screen) whose text is not modelled. -/
inductive Sent
  | text (s : String)
  | rendered
  deriving DecidableEq, Repr

/-! ## The stores and the awaited calls -/

/-- What routing reads and writes: the clock (ms); the approval row of the callback's
token and the risk its card assesses; the `approval-confirm` keys of that approval by
user, with their expiry; what the chat and user rate limits answer; the user's turn-quota
counter; whether the notice key of the blocked reason is free, so that its SET NX answers
OK; the sent messages; the audit events; the correlation ids drawn so far; and the
schedule of the awaited calls that throw. The queues and the processed_updates row are
the worker's, out of routing's reach. -/
structure World where
  now : Nat
  approval : Option ToolApproval
  riskProfile : RiskProfile
  riskLevel : ApprovalRiskLevel
  markers : List (String × Nat)
  chatAllowed : Bool
  quotaAllowed : Bool
  quotaUsed : Nat
  noticeKeyFree : Bool
  sent : List Sent
  events : List AuditEvent
  correlationIds : Nat
  faults : List Bool

/-- Routing one update: it may throw, and the world keeps what was written. -/
abbrev M := EStateM String World

/-- An awaited call: when the schedule says so it throws before its effect, otherwise it
does `act`. -/
def await {α : Type} (act : World → α × World) : M α := fun w =>
  match w.faults with
  | true :: fs => .error "statement failed" { w with faults := fs }
  | false :: fs => .ok (act { w with faults := fs }).1 (act { w with faults := fs }).2
  | [] => .ok (act w).1 (act w).2

/-- An awaited call that only reads. -/
def query {α : Type} (f : World → α) : M α := await fun w => (f w, w)

/-- An awaited call that only writes. -/
def write (f : World → World) : M Unit := await fun w => ((), f w)

/-- An awaited call whose effect on the modelled stores is none. -/
def call : M Unit := write id

def sendText (s : String) : M Unit := write fun w => { w with sent := w.sent ++ [.text s] }

def sendRendered : M Unit := write fun w => { w with sent := w.sent ++ [.rendered] }

def peek {α : Type} (f : World → α) : M α := fun w => .ok (f w) w

/-- `try { body } catch (error) { handler(error) }`. -/
def tryCatch {σ α : Type} (body : EStateM String σ α) (handler : String → EStateM String σ α) :
    EStateM String σ α := fun w =>
  match body w with
  | .ok a w' => .ok a w'
  | .error e w' => handler e w'

/-- `createCorrelationId`, not in the source: modelled from the spec as a fresh id on
every call, with no await. -/
def createCorrelationId : M String := fun w =>
  .ok ("corr-" ++ toString w.correlationIds) { w with correlationIds := w.correlationIds + 1 }

/-! ## Parsing -/

inductive ApprovalAction
  | approve
  | deny
  | details
  | refresh
  deriving DecidableEq, Repr

/-- The fields of callback data between its colons. -/
def colonFields (data : String) : List String := (data.data.splitOn ':').map String.mk

/-- `APPROVAL_CALLBACK_RE`, `^ap:([^:]+):(approve|deny|details|refresh)$`: the token and
the action. -/
def matchApprovalCallback (data : String) : Option (String × ApprovalAction) :=
  match colonFields data with
  | ["ap", token, action] =>
    if token = "" then none
    else match action with
      | "approve" => some (token, .approve)
      | "deny" => some (token, .deny)
      | "details" => some (token, .details)
      | "refresh" => some (token, .refresh)
      | _ => none
  | _ => none

/-- `^wallet:(status|cancel):([^:]+)$` -/
def matchWalletCallback (data : String) : Bool :=
  match colonFields data with
  | ["wallet", action, sessionId] => (action = "status" ∨ action = "cancel") ∧ sessionId ≠ ""
  | _ => false

/-- `SETTINGS_CALLBACK_RE`, `^cfg:([^:]+):([^:]+):(.+)$`; the last group takes the rest,
colons included, and no line terminator. -/
def matchSettingsCallback (data : String) : Bool :=
  match colonFields data with
  | "cfg" :: sect :: target :: value =>
    sect ≠ "" ∧ target ≠ "" ∧ (":".intercalate value) ≠ "" ∧
      ((":".intercalate value).data.all fun c =>
        c ≠ '\n' ∧ c ≠ '\r' ∧ c ≠ '\u2028' ∧ c ≠ '\u2029')
  | _ => false

/-- `parseCommand`: the first word of the trimmed text, lower-cased, and the words after
it. -/
def parseCommand (text : String) : String × List String :=
  match ((ton_agent_bot.agent.jsTrim text).data.splitOnP js.isJsWhitespace).filter (· ≠ []) with
  | [] => ("", [])
  | c :: args => (String.mk (c.flatMap js.toLowerChars), args.map String.mk)

def NON_TURN_COMMANDS : List String := ["/start", "/settings", "/network", "/wallet", "/cancel"]

def APPROVAL_CONFIRMATION_TTL_SECONDS : Nat := 30

/-! ## The approval callback -/

/-- `maybeRequireSecondApprovalTap` for this approval and `telegramUserId`: true when the
tap only records the intent. The key is there while its 30 s have not run out. -/
def maybeRequireSecondApprovalTap (telegramUserId : String) : M Bool := do
  let existing ← query fun w => w.markers.any fun m => m.1 = telegramUserId ∧ w.now < m.2
  if existing then
    write fun w => { w with markers := w.markers.filter (·.1 ≠ telegramUserId) }
    pure false
  else
    write fun w => { w with
      markers := (telegramUserId, w.now + APPROVAL_CONFIRMATION_TTL_SECONDS * 1000) ::
        w.markers.filter (·.1 ≠ telegramUserId) }
    pure true

/-- `decideApproval` run through, each query an await: the branch `decideRead` takes on
the row it read, then the guarded expiry, or the unguarded decision write and its audit
event. -/
def decideApproval (i : DecideInput) : M Decision := do
  match ← query fun w => decideRead w.approval w.now with
  | .expiring _ =>
    write fun w => { w with approval := (expirePendingApproval w.approval w.now).1 }
    pure ⟨false, some "Approval already expired.", none⟩
  | .writing cur =>
    let updated ← await fun w =>
      let u := updateToolApprovalDecision w.approval
        (if i.approved then .approved else .denied) i.decidedBy i.reason w.now
      (u, { w with approval := u })
    write fun w => { w with events := w.events ++ [decidedEvent i.decidedBy] }
    pure ⟨true, none, some (updated.getD cur)⟩
  | .returned d => pure d
  | _ => pure ⟨false, none, none⟩

/-- The cautious gate of the approve branch: only an approve of a card that asks for a
second tap calls `maybeRequireSecondApprovalTap`. -/
def secondTapGate (action : ApprovalAction) (telegramUserId : String) : M Bool := do
  let cautious ← peek fun w => requiresAdditionalCautiousConfirmation w.riskProfile w.riskLevel
  if action = .approve ∧ cautious = true then maybeRequireSecondApprovalTap telegramUserId
  else pure false

/-- `editTelegramText`: an await whose every error it catches; it answers whether the edit
went through. -/
def editTelegramText : M Bool := tryCatch (do call; pure true) fun _ => pure false

/-- `renderAndEditApproval`: the card is edited when it has a prompt message. -/
def renderAndEditApproval (approval : ToolApproval) : M Unit :=
  match approval.promptMessageId with
  | some id => if 0 < id then do let _ ← editTelegramText; pure () else pure ()
  | none => pure ()

/-- `handleApprovalCallback` for the approval row of the world. The session lookup, the
`touchSession` and the three reads of the `Promise.all` are one await each. -/
def handleApprovalCallback (callbackToken : String) (action : ApprovalAction)
    (telegramUserId : String) : M UpdateProcessingResult := do
  match ← query fun w => w.approval.filter (·.callbackToken = callbackToken) with
  | none =>
    sendText "Approval request was not found."
    pure noTurn
  | some approval =>
    if action = .details then
      sendRendered
      pure noTurn
    else if action = .refresh then
      renderAndEditApproval approval
      pure noTurn
    else if approval.status ≠ .requested then
      renderAndEditApproval approval
      sendText ("Approval is already " ++ approval.status.text ++ ".")
      pure noTurn
    else
      let shouldBlock ← secondTapGate action telegramUserId
      if shouldBlock then
        sendText "Cautious mode: tap Approve again within 30s to confirm this high-risk action."
        pure noTurn
      else
        let correlationId ← createCorrelationId
        let reason := if action = .deny then some "User denied via Telegram callback." else none
        let decision ← decideApproval ⟨action = .approve, telegramUserId, reason⟩
        match decision.ok, decision.approval with
        | true, some _ =>
          renderAndEditApproval approval
          call
          call
          call
          pure ⟨true, some ⟨correlationId, "", some ⟨action = .approve, reason⟩⟩⟩
        | _, _ =>
          sendText ("Approval not applied: " ++ decision.reason.getD "unknown")
          pure noTurn

/-! ## routeUpdate -/

/-- `checkUserTurnQuota`: it counts the turn whatever it answers, and never throws (a
storage failure lets the request through). -/
def checkUserTurnQuota : M Bool := fun w =>
  .ok w.quotaAllowed { w with quotaUsed := w.quotaUsed + 1 }

/-- `shouldSendRateLimitNotice` for the user and the blocked reason: its SET NX answers OK
when the notice key is free, and its `catch` answers true when the SET throws. -/
def shouldSendRateLimitNotice : M Bool := tryCatch (query (·.noticeKeyFree)) fun _ => pure true

/-- The notice of a denied check (lines 1655-1667 and 1694-1706 of telegram/bot): sent when
shouldSendRateLimitNotice answers true. -/
def sendRateLimitNotice : M Unit := do
  let notify ← shouldSendRateLimitNotice
  if notify then sendRendered else pure ()

/-- The quota check of a command that is not one of `NON_TURN_COMMANDS`. -/
def consumeTurnQuota (command : String) : M Bool :=
  if command ∉ NON_TURN_COMMANDS then checkUserTurnQuota else pure true

/-- `maybeCreateTopicForPrompt`, with the `findSessionByScope` before it, for a prompt that
is no command: one that does not start with a slash. -/
def maybeCreateTopicForPrompt (command : String) : M Unit :=
  if command.data.head? ≠ some '/' then call else pure ()

/-- The callback branch of `routeUpdate`: `ensureRecordsForCallback`, then the wallet, the
approval or the settings callback. The wallet and settings screens are awaits that send a
rendered screen. -/
def routeCallback (cq : CallbackQuery) : M UpdateProcessingResult := do
  call
  call
  if matchWalletCallback cq.data then
    call
    sendRendered
    pure noTurn
  else match matchApprovalCallback cq.data with
    | some (callbackToken, action) => handleApprovalCallback callbackToken action cq.fromId
    | none =>
      if matchSettingsCallback cq.data then
        sendRendered
        pure noTurn
      else pure noTurn

/-- The message branch of `routeUpdate` for a text: the chat rate limit, the records, the
turn quota unless the command is one of `NON_TURN_COMMANDS`, the topic of a prompt, the
session; a denial sends its notice when shouldSendRateLimitNotice answers true, the command
screens return no turn, anything else the turn request. -/
def routeMessage (text : String) : M UpdateProcessingResult := do
  let command := (parseCommand text).1
  let turnCorrelationId ← createCorrelationId
  if !(← peek (·.chatAllowed)) then
    sendRateLimitNotice
    pure noTurn
  else
    call
    call
    call
    let quotaOk ← consumeTurnQuota command
    if !quotaOk then
      sendRateLimitNotice
      pure noTurn
    else
      maybeCreateTopicForPrompt command
      call
      call
      call
      if command ∈ NON_TURN_COMMANDS then
        sendRendered
        pure noTurn
      else
        call
        pure ⟨true, some ⟨turnCorrelationId, text, none⟩⟩

/-- The message of an update: one with a text and a sender goes to the message branch,
any other gives no turn. -/
def routeMessageOf : Option Message → M UpdateProcessingResult
  | some ⟨some text, some _⟩ => if text ≠ "" then routeMessage text else pure noTurn
  | _ => pure noTurn

/-- `routeUpdate`: a callback query with its message and data goes to the callback
branch; anything else is read as a message. -/
def routeUpdate (update : Update) : M UpdateProcessingResult :=
  match update.callbackQuery with
  | some cq => if cq.hasMessage ∧ cq.data ≠ "" then routeCallback cq else routeMessageOf update.message
  | none => routeMessageOf update.message

/-! ## What routing can change -/

def after {σ α : Type} : EStateM.Result String σ α → σ
  | .ok _ w => w
  | .error _ w => w

section
variable {σ α β γ : Type}

/-- `x` leaves `f` of the state as it was, whether it returns or throws. -/
structure Keeps (f : σ → γ) (x : EStateM String σ α) : Prop where
  keeps : ∀ w, f (after (x w)) = f w

variable {f : σ → γ}

theorem Keeps.pure (a : α) : Keeps f (pure a : EStateM String σ α) := ⟨fun _ => rfl⟩

theorem after_bind (x : EStateM String σ α) (g : α → EStateM String σ β) (w : σ) :
    after ((x >>= g) w) = match x w with
      | .ok a w' => after (g a w')
      | .error _ w' => w' := by
  show after (EStateM.bind x g w) = _
  unfold EStateM.bind
  cases x w <;> rfl

theorem Keeps.bind {x : EStateM String σ α} {g : α → EStateM String σ β} (hx : Keeps f x)
    (hg : ∀ a, Keeps f (g a)) : Keeps f (x >>= g) := by
  refine ⟨fun w => ?_⟩
  have := hx.keeps w
  rw [after_bind]
  cases h : x w with
  | ok a w' => simp only [h, after] at this ⊢; exact ((hg a).keeps w').trans this
  | error e w' => simpa only [h, after] using this

theorem Keeps.ite {c : Prop} [Decidable c] {x y : EStateM String σ α} (hx : Keeps f x)
    (hy : Keeps f y) : Keeps f (if c then x else y) := by
  split_ifs <;> assumption

theorem Keeps.of_tryCatch {x : EStateM String σ α} {h : String → EStateM String σ α}
    (hx : Keeps f x) (hh : ∀ e, Keeps f (h e)) : Keeps f (tryCatch x h) := by
  refine ⟨fun w => ?_⟩
  have := hx.keeps w
  unfold tryCatch
  cases hw : x w with
  | ok a w' => simpa only [hw, after] using this
  | error e w' => simp only [hw, after] at this ⊢; exact ((hh e).keeps w').trans this

theorem Keeps.of_await {f : World → γ} {act : World → α × World} (hf : ∀ w fs, f { w with faults := fs } = f w)
    (h : ∀ w, f (act w).2 = f w) : Keeps f (await act) := by
  refine ⟨fun w => ?_⟩
  unfold await
  rcases hw : w.faults with _ | ⟨_ | _, fs⟩ <;> simp [after, hf, h]

theorem Keeps.peek {f : World → γ} (g : World → α) : Keeps f (peek g) := ⟨fun _ => rfl⟩

end

/-! ## Fields routing never writes

Routing writes the second-tap markers, the approval row, the sent messages, the audit
events, the correlation ids and the schedule of its awaits, and the quota counter through
`checkUserTurnQuota`. The clock, the chat's settings and the rate limits' answers it only
reads. -/

/-- `f` reads none of the fields routing writes, the quota counter apart. -/
structure Untouched {γ : Type} (f : World → γ) : Prop where
  faults : ∀ w x, f { w with faults := x } = f w
  markers : ∀ w x, f { w with markers := x } = f w
  approval : ∀ w x, f { w with approval := x } = f w
  sent : ∀ w x, f { w with sent := x } = f w
  events : ∀ w x, f { w with events := x } = f w
  correlationIds : ∀ w x, f { w with correlationIds := x } = f w

section
variable {α γ : Type} {f : World → γ}

theorem Untouched.keeps_await (hf : Untouched f) {act : World → α × World}
    (h : ∀ w, f (act w).2 = f w) : Keeps f (await act) :=
  Keeps.of_await hf.faults h

theorem Untouched.keeps_query (hf : Untouched f) (g : World → α) : Keeps f (query g) :=
  hf.keeps_await fun _ => rfl

theorem Untouched.keeps_write (hf : Untouched f) {g : World → World} (h : ∀ w, f (g w) = f w) :
    Keeps f (write g) :=
  hf.keeps_await h

theorem Untouched.keeps_call (hf : Untouched f) : Keeps f call := hf.keeps_write fun _ => rfl

theorem Untouched.keeps_sendText (hf : Untouched f) (t : String) : Keeps f (sendText t) :=
  hf.keeps_write fun w => hf.sent w _

theorem Untouched.keeps_sendRendered (hf : Untouched f) : Keeps f sendRendered :=
  hf.keeps_write fun w => hf.sent w _

theorem Untouched.keeps_createCorrelationId (hf : Untouched f) : Keeps f createCorrelationId :=
  ⟨fun w => hf.correlationIds w _⟩

theorem Untouched.keeps_maybeRequireSecondApprovalTap (hf : Untouched f)
    (telegramUserId : String) : Keeps f (maybeRequireSecondApprovalTap telegramUserId) :=
  (hf.keeps_query _).bind fun _ =>
    .ite ((hf.keeps_write fun w => hf.markers w _).bind fun _ => .pure _)
      ((hf.keeps_write fun w => hf.markers w _).bind fun _ => .pure _)

theorem Untouched.keeps_secondTapGate (hf : Untouched f) (action : ApprovalAction)
    (telegramUserId : String) : Keeps f (secondTapGate action telegramUserId) :=
  (Keeps.peek _).bind fun _ => .ite (hf.keeps_maybeRequireSecondApprovalTap _) (.pure _)

theorem Untouched.keeps_decideApproval (hf : Untouched f) (i : DecideInput) :
    Keeps f (decideApproval i) := by
  refine (hf.keeps_query _).bind fun pc => ?_
  rcases pc with _ | _ | cur | _ | d | _
  · exact .pure _
  · exact (hf.keeps_write fun w => hf.approval w _).bind fun _ => .pure _
  · exact (hf.keeps_await fun w => hf.approval w _).bind fun _ =>
      (hf.keeps_write fun w => hf.events w _).bind fun _ => .pure _
  all_goals exact .pure _

theorem Untouched.keeps_editTelegramText (hf : Untouched f) : Keeps f editTelegramText :=
  Keeps.of_tryCatch (hf.keeps_call.bind fun _ => .pure _) fun _ => .pure _

theorem Untouched.keeps_renderAndEditApproval (hf : Untouched f) (approval : ToolApproval) :
    Keeps f (renderAndEditApproval approval) := by
  unfold renderAndEditApproval
  split
  · exact .ite (hf.keeps_editTelegramText.bind fun _ => .pure _) (.pure _)
  · exact .pure _

theorem Untouched.keeps_sendRateLimitNotice (hf : Untouched f) : Keeps f sendRateLimitNotice :=
  (Keeps.of_tryCatch (hf.keeps_query _) fun _ => .pure _).bind fun _ =>
    .ite hf.keeps_sendRendered (.pure _)

theorem Untouched.keeps_handleApprovalCallback (hf : Untouched f) (callbackToken : String)
    (action : ApprovalAction) (telegramUserId : String) :
    Keeps f (handleApprovalCallback callbackToken action telegramUserId) := by
  refine (hf.keeps_query _).bind fun found => ?_
  rcases found with _ | approval
  · exact (hf.keeps_sendText _).bind fun _ => .pure _
  refine .ite (hf.keeps_sendRendered.bind fun _ => .pure _) <| .ite
    ((hf.keeps_renderAndEditApproval _).bind fun _ => .pure _) <| .ite
    ((hf.keeps_renderAndEditApproval _).bind fun _ => (hf.keeps_sendText _).bind fun _ => .pure _) ?_
  refine (hf.keeps_secondTapGate _ _).bind fun _ => ?_
  refine .ite ((hf.keeps_sendText _).bind fun _ => .pure _) ?_
  refine hf.keeps_createCorrelationId.bind fun _ => (hf.keeps_decideApproval _).bind fun d => ?_
  split
  · exact (hf.keeps_renderAndEditApproval _).bind fun _ => hf.keeps_call.bind fun _ =>
      hf.keeps_call.bind fun _ => hf.keeps_call.bind fun _ => .pure _
  · exact (hf.keeps_sendText _).bind fun _ => .pure _

theorem Untouched.keeps_routeCallback (hf : Untouched f) (cq : CallbackQuery) :
    Keeps f (routeCallback cq) := by
  refine hf.keeps_call.bind fun _ => hf.keeps_call.bind fun _ => ?_
  refine .ite (hf.keeps_call.bind fun _ => hf.keeps_sendRendered.bind fun _ => .pure _) ?_
  split
  · exact hf.keeps_handleApprovalCallback _ _ _
  · exact .ite (hf.keeps_sendRendered.bind fun _ => .pure _) (.pure _)

theorem Untouched.keeps_routeMessage_of (hf : Untouched f) {text : String}
    (hq : Keeps f (consumeTurnQuota (parseCommand text).1)) : Keeps f (routeMessage text) := by
  have hnotice := hf.keeps_sendRateLimitNotice.bind fun _ => .pure noTurn
  refine hf.keeps_createCorrelationId.bind fun _ => (Keeps.peek _).bind fun _ => .ite hnotice ?_
  refine hf.keeps_call.bind fun _ => hf.keeps_call.bind fun _ => hf.keeps_call.bind fun _ =>
    hq.bind fun _ => .ite hnotice ?_
  refine (Keeps.ite hf.keeps_call (.pure _)).bind fun _ => hf.keeps_call.bind fun _ =>
    hf.keeps_call.bind fun _ => hf.keeps_call.bind fun _ => .ite ?_ ?_
  · exact hf.keeps_sendRendered.bind fun _ => .pure _
  · exact hf.keeps_call.bind fun _ => .pure _

theorem Untouched.keeps_routeMessage (hf : Untouched f)
    (hq : ∀ w n, f { w with quotaUsed := n } = f w) (text : String) :
    Keeps f (routeMessage text) :=
  hf.keeps_routeMessage_of (.ite ⟨fun w => hq w _⟩ (.pure _))

theorem Untouched.keeps_routeUpdate (hf : Untouched f)
    (hq : ∀ w n, f { w with quotaUsed := n } = f w) (update : Update) :
    Keeps f (routeUpdate update) := by
  have hm : ∀ m, Keeps f (routeMessageOf m) := fun m => by
    unfold routeMessageOf
    split
    · exact .ite (hf.keeps_routeMessage hq _) (.pure _)
    · exact .pure _
  unfold routeUpdate
  split
  · exact .ite (hf.keeps_routeCallback _) (hm _)
  · exact hm _

end

theorem untouched_quotaUsed : Untouched (·.quotaUsed) :=
  ⟨fun _ _ => rfl, fun _ _ => rfl, fun _ _ => rfl, fun _ _ => rfl, fun _ _ => rfl,
    fun _ _ => rfl⟩

theorem untouched_now : Untouched (·.now) :=
  ⟨fun _ _ => rfl, fun _ _ => rfl, fun _ _ => rfl, fun _ _ => rfl, fun _ _ => rfl,
    fun _ _ => rfl⟩

theorem routeUpdate_keeps_now (update : Update) : Keeps (·.now) (routeUpdate update) :=
  untouched_now.keeps_routeUpdate (fun _ _ => rfl) update

/-! ## The turn quota is consumed at most once -/

/-- `x` adds at most one to `f`, whether it returns or throws. -/
structure AtMostOne {σ α : Type} (f : σ → Nat) (x : EStateM String σ α) : Prop where
  le : ∀ w, f (after (x w)) ≤ f w + 1

section
variable {σ α β : Type} {f : σ → Nat}

theorem Keeps.atMostOne {x : EStateM String σ α} (h : Keeps f x) : AtMostOne f x :=
  ⟨fun w => (h.keeps w).le.trans (Nat.le_succ _)⟩

theorem AtMostOne.bind_keeps {x : EStateM String σ α} {g : α → EStateM String σ β}
    (hx : AtMostOne f x) (hg : ∀ a, Keeps f (g a)) : AtMostOne f (x >>= g) := by
  refine ⟨fun w => ?_⟩
  have := hx.le w
  rw [after_bind]
  cases h : x w with
  | ok a w' => simp only [h, after] at this ⊢; exact ((hg a).keeps w').le.trans this
  | error e w' => simpa only [h, after] using this

theorem Keeps.bind_atMostOne {x : EStateM String σ α} {g : α → EStateM String σ β}
    (hx : Keeps f x) (hg : ∀ a, AtMostOne f (g a)) : AtMostOne f (x >>= g) := by
  refine ⟨fun w => ?_⟩
  have := hx.keeps w
  rw [after_bind]
  cases h : x w with
  | ok a w' => simp only [h, after] at this ⊢; exact ((hg a).le w').trans (by omega)
  | error e w' => simp only [h, after] at this ⊢; omega

theorem AtMostOne.ite {c : Prop} [Decidable c] {x y : EStateM String σ α}
    (hx : AtMostOne f x) (hy : AtMostOne f y) : AtMostOne f (if c then x else y) := by
  split_ifs <;> assumption

theorem AtMostOne.of_tryCatch {x : EStateM String σ α} {h : String → EStateM String σ α}
    (hx : AtMostOne f x) (hh : ∀ e, Keeps f (h e)) : AtMostOne f (tryCatch x h) := by
  refine ⟨fun w => ?_⟩
  have := hx.le w
  unfold tryCatch
  cases hw : x w with
  | ok a w' => simpa only [hw, after] using this
  | error e w' => simp only [hw, after] at this ⊢; exact ((hh e).keeps w').le.trans this

end

theorem consumes_consumeTurnQuota (command : String) :
    AtMostOne (·.quotaUsed) (consumeTurnQuota command) :=
  .ite ⟨fun _ => le_refl _⟩ (Keeps.pure _).atMostOne

theorem consumes_routeMessage (text : String) : AtMostOne (·.quotaUsed) (routeMessage text) := by
  have hq := untouched_quotaUsed
  have hnotice := hq.keeps_sendRateLimitNotice.bind fun _ => .pure noTurn
  refine hq.keeps_createCorrelationId.bind_atMostOne fun _ =>
    (Keeps.peek _).bind_atMostOne fun _ => .ite hnotice.atMostOne ?_
  refine hq.keeps_call.bind_atMostOne fun _ => hq.keeps_call.bind_atMostOne fun _ =>
    hq.keeps_call.bind_atMostOne fun _ => (consumes_consumeTurnQuota _).bind_keeps fun _ =>
      .ite hnotice ?_
  refine (Keeps.ite hq.keeps_call (.pure _)).bind fun _ => hq.keeps_call.bind fun _ =>
    hq.keeps_call.bind fun _ => hq.keeps_call.bind fun _ => .ite ?_ ?_
  · exact hq.keeps_sendRendered.bind fun _ => .pure _
  · exact hq.keeps_call.bind fun _ => .pure _

theorem consumes_routeMessageOf (message : Option Message) :
    AtMostOne (·.quotaUsed) (routeMessageOf message) := by
  unfold routeMessageOf
  split
  · exact .ite (consumes_routeMessage _) (Keeps.pure _).atMostOne
  · exact (Keeps.pure _).atMostOne

theorem routeUpdate_consumes_quota_at_most_once (update : Update) :
    AtMostOne (·.quotaUsed) (routeUpdate update) := by
  unfold routeUpdate
  split
  · exact .ite (untouched_quotaUsed.keeps_routeCallback _).atMostOne (consumes_routeMessageOf _)
  · exact consumes_routeMessageOf _

/-! ## Which updates queue a turn -/

def World.pop (w : World) : World := { w with faults := w.faults.tail }

@[simp] theorem World.pop_approval (w : World) : w.pop.approval = w.approval := rfl
@[simp] theorem World.pop_now (w : World) : w.pop.now = w.now := rfl
@[simp] theorem World.pop_events (w : World) : w.pop.events = w.events := rfl

theorem await_eq {α : Type} (act : World → α × World) (w : World) :
    await act w = if w.faults.head? = some true then .error "statement failed" w.pop
      else .ok (act w.pop).1 (act w.pop).2 := by
  unfold await World.pop
  rcases w with ⟨_, _, _, _, _, _, _, _, _, _, _, _, _ | ⟨_ | _, fs⟩⟩ <;> rfl

theorem query_ok {α : Type} {g : World → α} {w w' : World} {a : α} (h : query g w = .ok a w') :
    a = g w.pop ∧ w' = w.pop := by
  rw [query, await_eq] at h
  split_ifs at h
  cases h
  exact ⟨rfl, rfl⟩

def approvalNow (w : World) : Option ToolApproval × Nat := (w.approval, w.now)

theorem keeps_approvalNow_await {α : Type} {act : World → α × World}
    (h : ∀ w, approvalNow (act w).2 = approvalNow w) : Keeps approvalNow (await act) :=
  Keeps.of_await (fun _ _ => rfl) h

theorem keeps_approvalNow_secondTapGate (action : ApprovalAction) (telegramUserId : String) :
    Keeps approvalNow (secondTapGate action telegramUserId) :=
  (Keeps.peek _).bind fun _ => .ite ((keeps_approvalNow_await fun _ => rfl).bind fun _ =>
    .ite ((keeps_approvalNow_await fun _ => rfl).bind fun _ => .pure _)
      ((keeps_approvalNow_await fun _ => rfl).bind fun _ => .pure _)) (.pure _)

def unscheduled (w : World) : World := { w with faults := [] }

theorem eq_of_unscheduled {w w' : World} (h : unscheduled w' = unscheduled w) :
    w' = { w with faults := w'.faults } := by
  cases w
  cases w'
  cases h
  rfl

theorem keeps_unscheduled_call : Keeps unscheduled call := Keeps.of_await (fun _ _ => rfl) fun _ => rfl

theorem keeps_unscheduled_renderAndEditApproval (approval : ToolApproval) :
    Keeps unscheduled (renderAndEditApproval approval) := by
  unfold renderAndEditApproval
  split
  · exact .ite ((Keeps.of_tryCatch (keeps_unscheduled_call.bind fun _ => .pure _)
      fun _ => .pure _).bind fun _ => .pure _) (.pure _)
  · exact .pure _

section
variable {σ α β : Type}

theorem bind_eq_ok {x : EStateM String σ α} {g : α → EStateM String σ β} {w w'' : σ} {b : β} :
    (x >>= g) w = .ok b w'' ↔ ∃ a w', x w = .ok a w' ∧ g a w' = .ok b w'' := by
  show EStateM.bind x g w = _ ↔ _
  unfold EStateM.bind
  cases x w with
  | ok a w' => exact ⟨(fun h => ⟨a, w', rfl, h⟩), (fun ⟨_, _, he, h⟩ => by cases he; exact h)⟩
  | error e w' => exact ⟨(fun h => by cases h), (fun ⟨_, _, he, _⟩ => by cases he)⟩

theorem Keeps.of_ok {γ : Type} {f : σ → γ} {x : EStateM String σ α} (h : Keeps f x)
    {w w' : σ} {a : α} (hx : x w = .ok a w') : f w' = f w := by
  simpa [hx, after] using h.keeps w

theorem Keeps.bind_ok {γ : Type} {f : σ → γ} {x : EStateM String σ α}
    {g : α → EStateM String σ β} (hx : Keeps f x) {w w'' : σ} {b : β}
    (h : (x >>= g) w = .ok b w'') : ∃ a w', f w' = f w ∧ g a w' = .ok b w'' :=
  let ⟨a, w', hx', h⟩ := bind_eq_ok.1 h
  ⟨a, w', hx.of_ok hx', h⟩

theorem ok_of_bind_pure {x : EStateM String σ α} {c b : β} {w w' : σ}
    (h : (x >>= fun _ => pure c) w = .ok b w') : b = c := by
  obtain ⟨_, _, _, h⟩ := bind_eq_ok.1 h
  cases h
  rfl

end

def limitsOf (w : World) : Bool × Bool × Nat := (w.chatAllowed, w.quotaAllowed, w.quotaUsed)

theorem untouched_limitsOf : Untouched limitsOf :=
  ⟨fun _ _ => rfl, fun _ _ => rfl, fun _ _ => rfl, fun _ _ => rfl, fun _ _ => rfl,
    fun _ _ => rfl⟩

theorem Untouched.keeps_maybeCreateTopicForPrompt {γ : Type} {f : World → γ} (hf : Untouched f)
    (command : String) : Keeps f (maybeCreateTopicForPrompt command) := by
  unfold maybeCreateTopicForPrompt
  exact .ite hf.keeps_call (.pure _)

theorem routeMessage_queues {text : String} {w w' : World} {r : UpdateProcessingResult}
    (h : routeMessage text w = .ok r w') (hq : r.shouldQueueTurn = true) :
    (parseCommand text).1 ∉ NON_TURN_COMMANDS ∧ w.chatAllowed = true ∧ w.quotaAllowed = true ∧
      w'.quotaUsed = w.quotaUsed + 1 := by
  have hk := untouched_limitsOf
  obtain ⟨_, w1, e1, h⟩ := hk.keeps_createCorrelationId.bind_ok h
  obtain ⟨ca, w2, h2, h⟩ := bind_eq_ok.1 h
  simp only [peek, EStateM.Result.ok.injEq] at h2
  obtain ⟨rfl, rfl⟩ := h2
  split at h
  · cases ok_of_bind_pure h
    cases hq
  rename_i hca
  obtain ⟨_, w3, e3, h⟩ := hk.keeps_call.bind_ok h
  obtain ⟨_, w4, e4, h⟩ := hk.keeps_call.bind_ok h
  obtain ⟨_, w5, e5, h⟩ := hk.keeps_call.bind_ok h
  obtain ⟨qok, w6, h6, h⟩ := bind_eq_ok.1 h
  split at h
  · cases ok_of_bind_pure h
    cases hq
  rename_i hqok
  obtain ⟨_, w7, e7, h⟩ := (hk.keeps_maybeCreateTopicForPrompt _).bind_ok h
  obtain ⟨_, w8, e8, h⟩ := hk.keeps_call.bind_ok h
  obtain ⟨_, w9, e9, h⟩ := hk.keeps_call.bind_ok h
  obtain ⟨_, w10, e10, h⟩ := hk.keeps_call.bind_ok h
  split at h
  · cases ok_of_bind_pure h
    cases hq
  rename_i hcmd
  obtain ⟨_, w11, e11, h⟩ := hk.keeps_call.bind_ok h
  cases h
  simp only [consumeTurnQuota, hcmd, not_false_eq_true, if_true, checkUserTurnQuota,
    EStateM.Result.ok.injEq] at h6
  obtain ⟨rfl, rfl⟩ := h6
  simp only [limitsOf, Prod.mk.injEq] at e1 e3 e4 e5 e7 e8 e9 e10 e11
  simp only [Bool.not_eq_true', Bool.not_eq_false] at hca hqok
  exact ⟨hcmd, e1.1 ▸ hca, e1.2.1 ▸ e3.2.1 ▸ e4.2.1 ▸ e5.2.1 ▸ hqok, by omega⟩

theorem ApprovalAction.approve_or_deny {a : ApprovalAction} (hd : a ≠ .details)
    (hr : a ≠ .refresh) : a = .approve ∨ a = .deny := by
  cases a <;> simp_all

theorem handleApprovalCallback_queues {callbackToken : String} {action : ApprovalAction}
    {telegramUserId : String} {w w' : World} {r : UpdateProcessingResult}
    (h : handleApprovalCallback callbackToken action telegramUserId w = .ok r w')
    (hq : r.shouldQueueTurn = true) :
    (action = .approve ∨ action = .deny) ∧
      (∃ a, w.approval = some a ∧ a.callbackToken = callbackToken ∧ a.status = .requested) ∧
      ∃ w1 d w2, approvalNow w1 = approvalNow w ∧ decideApproval ⟨action = .approve,
        telegramUserId, if action = .deny then some "User denied via Telegram callback." else none⟩
          w1 = .ok d w2 ∧ d.ok = true ∧ w' = { w2 with faults := w'.faults } := by
  obtain ⟨found, w1, h1, h⟩ := bind_eq_ok.1 h
  obtain ⟨hfound, rfl⟩ := query_ok h1
  rcases found with _ | approval
  · cases ok_of_bind_pure h
    cases hq
  dsimp only at h
  by_cases hdetails : action = .details
  · rw [if_pos hdetails] at h
    cases ok_of_bind_pure h
    cases hq
  by_cases hrefresh : action = .refresh
  · rw [if_neg hdetails, if_pos hrefresh] at h
    cases ok_of_bind_pure h
    cases hq
  by_cases hstatus : approval.status ≠ .requested
  · rw [if_neg hdetails, if_neg hrefresh, if_pos hstatus] at h
    obtain ⟨_, _, -, h⟩ := bind_eq_ok.1 h
    cases ok_of_bind_pure h
    cases hq
  rw [if_neg hdetails, if_neg hrefresh, if_neg hstatus] at h
  -- the row the run found is the tapped one, still requested
  have hrow : w.approval = some approval ∧ approval.callbackToken = callbackToken := by
    rcases hw : w.approval with _ | a <;>
      simp only [World.pop_approval, hw, Option.filter, reduceCtorEq] at hfound
    split_ifs at hfound with ht
    cases hfound
    exact ⟨rfl, of_decide_eq_true ht⟩
  obtain ⟨_, w2, e2, h⟩ := (keeps_approvalNow_secondTapGate _ _).bind_ok h
  split at h
  · cases ok_of_bind_pure h
    cases hq
  obtain ⟨_, w3, e3, h⟩ := (show Keeps approvalNow createCorrelationId from ⟨fun _ => rfl⟩).bind_ok h
  obtain ⟨d, w4, hd, h⟩ := bind_eq_ok.1 h
  refine ⟨ApprovalAction.approve_or_deny hdetails hrefresh,
    ⟨approval, hrow.1, hrow.2, not_not.1 hstatus⟩, w3, d, w4, e3.trans e2, hd, ?_⟩
  obtain ⟨_ | _, _, _ | _⟩ := d
  all_goals first
    | (dsimp only at h; cases ok_of_bind_pure h; cases hq)
    | skip
  -- the decision applied: the card edit and the three reads leave all but the schedule
  exact ⟨rfl, eq_of_unscheduled (((keeps_unscheduled_renderAndEditApproval _).bind fun _ =>
    keeps_unscheduled_call.bind fun _ => keeps_unscheduled_call.bind fun _ =>
      keeps_unscheduled_call.bind fun _ => .pure _).of_ok h)⟩

theorem routeCallback_queues {cq : CallbackQuery} {w w' : World} {r : UpdateProcessingResult}
    (h : routeCallback cq w = .ok r w') (hq : r.shouldQueueTurn = true) :
    ∃ callbackToken action w1, matchApprovalCallback cq.data = some (callbackToken, action) ∧
      approvalNow w1 = approvalNow w ∧
      handleApprovalCallback callbackToken action cq.fromId w1 = .ok r w' := by
  obtain ⟨_, w1, e1, h⟩ := (keeps_approvalNow_await fun _ => rfl).bind_ok h
  obtain ⟨_, w2, e2, h⟩ := (keeps_approvalNow_await fun _ => rfl).bind_ok h
  split at h
  · obtain ⟨_, _, -, h⟩ := bind_eq_ok.1 h
    cases ok_of_bind_pure h
    cases hq
  cases hm : matchApprovalCallback cq.data with
  | some found => rw [hm] at h; exact ⟨found.1, found.2, w2, rfl, e2.trans e1, h⟩
  | none =>
    rw [hm] at h
    dsimp only at h
    split at h
    · cases ok_of_bind_pure h
      cases hq
    · cases h
      cases hq

theorem routeMessageOf_queues {m : Option Message} {w w' : World} {r : UpdateProcessingResult}
    (h : routeMessageOf m w = .ok r w') (hq : r.shouldQueueTurn = true) :
    ∃ text fromId, m = some ⟨some text, some fromId⟩ ∧ text ≠ "" ∧
      routeMessage text w = .ok r w' := by
  unfold routeMessageOf at h
  split at h
  · split at h
    · exact ⟨_, _, rfl, ‹_›, h⟩
    · cases h
      cases hq
  · cases h
    cases hq

/-- The update's message as routing reads it: no callback with its message and data comes
first, and the message has the text and a sender. -/
def RoutedText (update : Update) (text : String) : Prop :=
  (∀ cq, update.callbackQuery = some cq → ¬(cq.hasMessage = true ∧ cq.data ≠ "")) ∧
    text ≠ "" ∧ ∃ fromId, update.message = some ⟨some text, some fromId⟩

theorem routeUpdate_of_message {update : Update}
    (h : ∀ cq, update.callbackQuery = some cq → ¬(cq.hasMessage = true ∧ cq.data ≠ "")) :
    routeUpdate update = routeMessageOf update.message := by
  unfold routeUpdate
  split
  · rename_i cq hcq
    exact if_neg (h cq hcq)
  · rfl

/-- Routing queues a turn only for a prompt, a text whose first word is no command of
`NON_TURN_COMMANDS`, once the chat limit and the turn quota both allowed it, the quota
counted once; or for an Approve or Deny callback of the requested approval whose token it
carries, when the run's own decideApproval, started on that row at the run's clock,
returned ok, the rest of the run leaving what the decision left. It never counts the turn
quota for those commands, nor for a callback. -/
theorem routeUpdate_queues_only_prompts_and_decisions (update : Update) (w : World) :
    (∀ r w', routeUpdate update w = .ok r w' → r.shouldQueueTurn = true →
      (∃ text, RoutedText update text ∧ (parseCommand text).1 ∉ NON_TURN_COMMANDS ∧
          w.chatAllowed = true ∧ w.quotaAllowed = true ∧ w'.quotaUsed = w.quotaUsed + 1) ∨
        ∃ cq callbackToken action, update.callbackQuery = some cq ∧
          matchApprovalCallback cq.data = some (callbackToken, action) ∧
          (action = .approve ∨ action = .deny) ∧
          (∃ a, w.approval = some a ∧ a.callbackToken = callbackToken ∧ a.status = .requested) ∧
          ∃ w1 d w2, w1.approval = w.approval ∧ w1.now = w.now ∧ decideApproval
            ⟨action = .approve, cq.fromId,
              if action = .deny then some "User denied via Telegram callback." else none⟩
              w1 = .ok d w2 ∧ d.ok = true ∧ w' = { w2 with faults := w'.faults }) ∧
    ((∃ text, RoutedText update text ∧ (parseCommand text).1 ∈ NON_TURN_COMMANDS) ∨
        (update.callbackQuery.isSome ∧ update.message = none) →
      (after (routeUpdate update w)).quotaUsed = w.quotaUsed) := by
  have hmsg : ∀ {r w'}, (∀ cq, update.callbackQuery = some cq →
      ¬(cq.hasMessage = true ∧ cq.data ≠ "")) → routeUpdate update w = .ok r w' →
      r.shouldQueueTurn = true → ∃ text, RoutedText update text ∧
        (parseCommand text).1 ∉ NON_TURN_COMMANDS ∧ w.chatAllowed = true ∧
          w.quotaAllowed = true ∧ w'.quotaUsed = w.quotaUsed + 1 := fun hg h hq => by
    rw [routeUpdate_of_message hg] at h
    obtain ⟨text, fromId, hm, hne, h⟩ := routeMessageOf_queues h hq
    exact ⟨text, ⟨hg, hne, fromId, hm⟩, routeMessage_queues h hq⟩
  refine ⟨fun r w' h hq => ?_, ?_⟩
  · rcases hcq : update.callbackQuery with _ | cq
    · exact .inl (hmsg (fun _ h => by simp [hcq] at h) h hq)
    by_cases hg : cq.hasMessage = true ∧ cq.data ≠ ""
    · simp only [routeUpdate, hcq, if_pos hg] at h
      obtain ⟨token, action, w1, hm, e1, h⟩ := routeCallback_queues h hq
      obtain ⟨hact, ⟨a, ha, htok, hst⟩, w2, d, w3, e2, hd, hok, hw'⟩ :=
        handleApprovalCallback_queues h hq
      have ha' : w1.approval = w.approval := congrArg Prod.fst e1
      obtain ⟨e2a, e2n⟩ := Prod.mk.inj (e2.trans e1)
      exact .inr ⟨cq, token, action, rfl, hm, hact, ⟨a, ha' ▸ ha, htok, hst⟩, w2, d, w3, e2a, e2n,
        hd, hok, hw'⟩
    · exact .inl (hmsg (fun _ h => by simp only [hcq, Option.some.injEq] at h; exact h ▸ hg) h hq)
  · rintro (⟨text, ⟨hg, -, fromId, hm⟩, hc⟩ | ⟨hcq, hm⟩)
    · rw [routeUpdate_of_message hg, hm]
      refine (Keeps.ite (untouched_quotaUsed.keeps_routeMessage_of ?_) (.pure _)).keeps w
      simp only [consumeTurnQuota, hc, not_true_eq_false, if_false]
      exact .pure _
    · obtain ⟨cq, hcq⟩ := Option.isSome_iff_exists.mp hcq
      simp only [routeUpdate, hcq, hm]
      exact (Keeps.ite (untouched_quotaUsed.keeps_routeCallback cq) (.pure _)).keeps w

def startUpdate : Update := ⟨none, some ⟨some "/start", some "7"⟩⟩

def quietWorld : World := ⟨1000, none, .balanced, .low, [], true, true, 0, true, [], [], 0, []⟩

theorem start_command_skips_quota :
    (∃ text, RoutedText startUpdate text ∧ (parseCommand text).1 ∈ NON_TURN_COMMANDS) ∧
      (after (routeUpdate startUpdate quietWorld)).quotaUsed = quietWorld.quotaUsed :=
  have hc : ∃ text, RoutedText startUpdate text ∧ (parseCommand text).1 ∈ NON_TURN_COMMANDS :=
    ⟨"/start", ⟨(fun _ h => by cases h), by decide, "7", rfl⟩, by decide⟩
  ⟨hc, (routeUpdate_queues_only_prompts_and_decisions startUpdate quietWorld).2 (.inl hc)⟩

/-! ## decideApproval is a call of the engine

Routing runs `decideApproval` as a sequence of awaits on its world; the engine runs it as
a process among others. Run alone, with any of its awaits throwing, routing's call is a
run of the engine's: they share the row, the clock and the audit events. -/

def returnedValue {σ α : Type} : EStateM.Result String σ α → Option α
  | .ok a _ => some a
  | .error _ _ => none

/-- A decideApproval call of routing, any await of it able to throw, is a call of the
engine run from a state with the same row, clock and events: the run leaves the row and
the events the call leaves, and ends the call with what it returned, or with its throw. -/
theorem decideApproval_runs_as_engine_call (i : DecideInput) (w : World) {s : Sys} {p : Nat}
    (hp : s.procs p = .decide i .read) (ha : s.approval = w.approval) (hn : s.now = w.now)
    (he : s.events = w.events) :
    ∃ oks : List Bool, run step s (oks.map (.advance p)) =
      some (s.decideEnded p i (returnedValue (decideApproval i w))
        (after (decideApproval i w)).approval (after (decideApproval i w)).events) := by
  unfold decideApproval
  simp only [bind, EStateM.bind, query, write, await_eq]
  by_cases h1 : w.faults.head? = some true
  · simp only [h1, if_true]
    exact ⟨[false], by simpa [returnedValue, after, ha, he] using run_decide_threw hp⟩
  · simp only [h1, if_false, World.pop_approval, World.pop_now]
    rcases decideRead_cases w.approval w.now with ⟨d, hd⟩ | ⟨cur, hd⟩ | ⟨cur, hd⟩ <;>
      simp only [hd]
    · exact ⟨[true], by
        simpa [returnedValue, after, ha, hn, he] using run_decide_returned hp (ha ▸ hn ▸ hd)⟩
    · simp only [EStateM.bind, await_eq]
      by_cases h2 : w.pop.faults.head? = some true <;> simp only [h2, if_true, if_false]
      · exact ⟨[false], by simpa [returnedValue, after, ha, he] using run_decide_threw hp⟩
      · exact ⟨[true, true], by
          simpa [returnedValue, after, ha, hn, he, pure, EStateM.pure]
            using run_decide_expired hp (ha ▸ hn ▸ hd)⟩
    · simp only [EStateM.bind, await_eq]
      by_cases h2 : w.pop.faults.head? = some true <;> simp only [h2, if_true, if_false]
      · exact ⟨[false], by simpa [returnedValue, after, ha, he] using run_decide_threw hp⟩
      · by_cases h3 : w.pop.pop.faults.head? = some true <;> simp only [h3, if_true, if_false]
        · exact ⟨[true, true, false], by
            simpa [returnedValue, after, ha, hn, he] using run_decide_written hp (ha ▸ hn ▸ hd)⟩
        · exact ⟨[true, true, true], by
            simpa [returnedValue, after, ha, hn, he, pure, EStateM.pure]
              using run_decide_decided hp (ha ▸ hn ▸ hd)⟩

def pendingApproval : ToolApproval := ⟨"tok", .requested, 600000, some 42, none, none, none⟩

def tapWorld : World :=
  ⟨1000, some pendingApproval, .balanced, .high, [], true, true, 0, true, [], [], 0, []⟩

def engineAtRead : Sys :=
  { Sys.init.setProc 1 (.decide approveTap .read) with approval := some pendingApproval, now := 1000 }

theorem approve_tap_runs_as_engine_call :
    engineAtRead.procs 1 = .decide approveTap .read ∧ engineAtRead.approval = tapWorld.approval ∧
      engineAtRead.now = tapWorld.now ∧ engineAtRead.events = tapWorld.events ∧
      ∃ oks : List Bool, run step engineAtRead (oks.map (.advance 1)) =
        some (engineAtRead.decideEnded 1 approveTap
          (returnedValue (decideApproval approveTap tapWorld))
          (after (decideApproval approveTap tapWorld)).approval
          (after (decideApproval approveTap tapWorld)).events) :=
  ⟨rfl, rfl, rfl, rfl, decideApproval_runs_as_engine_call approveTap tapWorld rfl rfl rfl rfl⟩

/-! ## An Approve tap from any user

`handleApprovalCallback` finds the approval by its callback token alone, and goes from the
card's status to `decideApproval` without reading the approval's session or comparing its
user with the sender (bot.ts, lines 1109-1230). The session is read only after the
decision. -/

section
variable {w : World}

theorem await_of_nil {α : Type} (act : World → α × World) (hf : w.faults = []) :
    await act w = .ok (act w).1 (act w).2 := by
  simp [await, hf]

theorem decideApproval_of_writing (i : DecideInput) {cur : ToolApproval} (hf : w.faults = [])
    (hr : decideRead w.approval w.now = .writing cur) :
    decideApproval i w = .ok ⟨true, none, some ((updateToolApprovalDecision w.approval
        (if i.approved then .approved else .denied) i.decidedBy i.reason w.now).getD cur)⟩
      { w with
        approval := updateToolApprovalDecision w.approval
          (if i.approved then .approved else .denied) i.decidedBy i.reason w.now
        events := w.events ++ [decidedEvent i.decidedBy] } := by
  simp [decideApproval, query, write, await, hf, hr, bind, EStateM.bind, pure, EStateM.pure]

theorem renderAndEditApproval_of_nil (a : ToolApproval) (hf : w.faults = []) :
    renderAndEditApproval a w = .ok () w := by
  unfold renderAndEditApproval
  cases a.promptMessageId with
  | none => rfl
  | some id => by_cases h : 0 < id <;>
      simp [h, editTelegramText, tryCatch, call, write, await, hf, bind, EStateM.bind, pure,
        EStateM.pure]

end

theorem matchWalletCallback_of_approval {data : String} {x : String × ApprovalAction}
    (h : matchApprovalCallback data = some x) : matchWalletCallback data = false := by
  unfold matchApprovalCallback at h
  unfold matchWalletCallback
  split at h
  · rename_i hc
    simp [hc]
  · cases h

/-- An Approve tap on a pending approval that asks for no second tap, routed with no await
throwing, decides the approval for the sender, whoever the sender is: the row is
`approved` with `decidedBy` the sender's id, and routing returns the turn. -/
theorem approve_tap_decides_for_any_sender (cq : CallbackQuery) (w : World) {a : ToolApproval}
    (hd : matchApprovalCallback cq.data = some (a.callbackToken, .approve))
    (ha : w.approval = some a) (hreq : a.status = .requested) (hexp : w.now ≤ a.expiresAt)
    (hcaut : requiresAdditionalCautiousConfirmation w.riskProfile w.riskLevel = false)
    (hf : w.faults = []) :
    (after (routeCallback cq w)).approval =
        updateToolApprovalDecision (some a) .approved cq.fromId none w.now ∧
      returnedValue (routeCallback cq w) = some ⟨true, some ⟨"corr-" ++ toString w.correlationIds,
        "", some ⟨true, none⟩⟩⟩ := by
  have hr : decideRead (some a) w.now = .writing a := by
    simp [decideRead, hreq, Nat.not_lt.mpr hexp]
  simp [routeCallback, matchWalletCallback_of_approval hd, hd, handleApprovalCallback, ha,
    secondTapGate, hcaut, peek, createCorrelationId, query, call, write, await_of_nil, hf, bind,
    EStateM.bind, pure, EStateM.pure, Option.filter, hreq, decideApproval_of_writing, hr,
    renderAndEditApproval_of_nil, after, returnedValue]

def strangerTap : CallbackQuery := ⟨"cb-2", "8", "ap:tok:approve", true⟩

theorem stranger_tap_approves_card :
    matchApprovalCallback strangerTap.data = some (pendingApproval.callbackToken, .approve) ∧
      tapWorld.faults = [] ∧
      (after (routeCallback strangerTap tapWorld)).approval =
        updateToolApprovalDecision (some pendingApproval) .approved "8" none 1000 ∧
      returnedValue (routeCallback strangerTap tapWorld) =
        some ⟨true, some ⟨"corr-0", "", some ⟨true, none⟩⟩⟩ :=
  ⟨by decide, rfl, approve_tap_decides_for_any_sender strangerTap tapWorld (by decide) rfl rfl
    (by decide) rfl rfl⟩

end ton_agent_bot.updates
