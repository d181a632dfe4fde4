-- resolveTurnResponseText of agent/response-policy.ts, the reply of an agent turn: the
-- status of an approved action, the model's own text with a pending-approval suffix, or a
-- summary built from the request and the tool results. Every reply starts with visible text,
-- and one that leaves approvals pending ends with a suffix that says so.
import TonAgentBot.Js.Replace
import TonAgentBot.Js.Json

namespace ton_agent_bot.agent

open js

/-! ## Texts and patterns -/

def APPROVAL_PENDING_SUFFIX : List UInt16 :=
  utf16 "\n\nApproval pending for critical operation. Use the approval buttons in chat."

def NEXT_APPROVAL_PENDING_SUFFIX : List UInt16 :=
  utf16 "\n\nAnother protected action is pending approval. Use the approval buttons in chat."

/-- The phrases of `PLAIN_TEXT_APPROVAL_PATTERNS`, each tested as `/\bphrase\b/i`. -/
def PLAIN_TEXT_APPROVAL_PATTERNS : List (List UInt16) :=
  [utf16 "do you approve", utf16 "need your explicit approval", utf16 "approval required",
    utf16 "approve this transaction", utf16 "pending your approval"]

/-- The words of `TRIVIAL_COMPLETION_PATTERNS`, each tested as `/^word[.!]*$/i`. -/
def TRIVIAL_COMPLETION_PATTERNS : List (List UInt16) :=
  [utf16 "done", utf16 "completed", utf16 "complete", utf16 "all set", utf16 "finished",
    utf16 "task done", utf16 "action done"]

/-- A word character of `\b`: `[A-Za-z0-9_]`. -/
def isWordChar (u : UInt16) : Bool :=
  (48 ≤ u.toNat && u.toNat ≤ 57) || (65 ≤ u.toNat && u.toNat ≤ 90) ||
    (97 ≤ u.toNat && u.toNat ≤ 122) || u.toNat = 95

/-- `/\bphrase\b/i` matches at a position, `prev` being the unit before it: the phrase, in
any ASCII letter case, with no word character right before or right after it. Each phrase
starts and ends with a letter, so that is where `\b` holds. -/
def phraseAt (phrase : List UInt16) (prev : Option UInt16) (s : List UInt16) : Bool :=
  !(prev.any isWordChar) && ciPrefix phrase s && !((s.drop phrase.length).head?.any isWordChar)

/-- `/\bphrase\b/i.test(s)`: the phrase matches at some position. -/
def phraseTest (phrase : List UInt16) : Option UInt16 → List UInt16 → Bool
  | prev, [] => phraseAt phrase prev []
  | prev, u :: us => phraseAt phrase prev (u :: us) || phraseTest phrase (some u) us

/-- `/^word[.!]*$/i.test(s)`: the whole text is the word, in any ASCII letter case, then
only dots and exclamation marks. -/
def completionTest (word s : List UInt16) : Bool :=
  ciPrefix word s && (s.drop word.length).all fun u => u.toNat = 46 || u.toNat = 33

/-- `\s+` of a global `replace`: a run of whitespace from its first unit. -/
def whitespaceRun : Matcher Unit
  | _, u :: us => if isWs u then some ((us.takeWhile isWs).length, ()) else none
  | _, [] => none

/-- `s.replace(/\s+/g, " ").trim()`. -/
def normalizeWhitespace (s : List UInt16) : List UInt16 :=
  trim (replaceAll whitespaceRun (fun _ => utf16 " ") s)

/-! ## Tool results -/

/-- A tool result of the turn; `output` is what the tool returned. -/
structure ToolResultPart where
  toolName : List UInt16
  toolCallId : List UInt16
  output : JsValue

/-- `isRecord`: an object or an array. -/
def isRecord : JsValue → Bool
  | .obj _ | .arr _ => true
  | _ => false

/-- `extractJsonOutputValue`: the `value` of an output `{ type: "json", value }` whose value
is a record. An output that is not an object has no `type`. -/
def extractJsonOutputValue (output : JsValue) : Option JsValue :=
  match output.get? (utf16 "type"), output.get? (utf16 "value") with
  | some (.str type), some value => if type = utf16 "json" && isRecord value then some value else none
  | _, _ => none

/-- `asNonEmptyString`: a string with a visible unit, kept untrimmed. -/
def asNonEmptyString : Option JsValue → Option (List UInt16)
  | some (.str s) => if 0 < (trim s).length then some s else none
  | _ => none

/-- `summarizeToolResult`: the destination and the hash of a JSON output when it has them,
else the call id. -/
def summarizeToolResult (part : ToolResultPart) : List UInt16 :=
  let byCall := utf16 "Executed " ++ part.toolName ++ utf16 " (call " ++ part.toolCallId ++ utf16 ")."
  match extractJsonOutputValue part.output with
  | none => byCall
  | some jsonValue =>
    let details :=
      ((asNonEmptyString (jsonValue.get? (utf16 "destination"))).map (utf16 "destination " ++ ·)).toList ++
        ((asNonEmptyString (jsonValue.get? (utf16 "hash"))).map (utf16 "hash " ++ ·)).toList
    if details.length = 0 then byCall
    else utf16 "Executed " ++ part.toolName ++ utf16 " (" ++ (utf16 ", ").intercalate details ++ utf16 ")."

/-- The lines `- summary` of the tool results. -/
def resultLines (toolResults : List ToolResultPart) : List (List UInt16) :=
  toolResults.map fun part => utf16 "- " ++ summarizeToolResult part

def buildApprovedExecutionStatusText (toolResults : List ToolResultPart) : List UInt16 :=
  if toolResults.length = 0 then utf16 "Approval received. Protected action executed."
  else [10].intercalate
    (utf16 "Approval received. Protected action executed with the following result:" ::
      resultLines toolResults)

/-! ## The reply -/

/-- `requestTopic`: the request with its whitespace collapsed, cut to 93 units and `...`
past 96, `none` when nothing is left. -/
def requestTopic (userRequestText : Option (List UInt16)) : Option (List UInt16) :=
  let normalizedRequestText := (userRequestText.map normalizeWhitespace).getD []
  if 0 < normalizedRequestText.length then
    some (if 96 < normalizedRequestText.length then js.slice normalizedRequestText 0 93 ++ utf16 "..."
      else normalizedRequestText)
  else none

def buildContextAwareCompletionText (toolResults : List ToolResultPart)
    (topic : Option (List UInt16)) : List UInt16 :=
  if 0 < toolResults.length then
    [10].intercalate
      ((match topic with
        | some topic => utf16 "Completed your request about \"" ++ topic ++ utf16 "\" with these results:"
        | none => utf16 "Completed your request with these results:") :: resultLines toolResults)
  else match topic with
    | some topic => utf16 "Completed your request about \"" ++ topic ++
        utf16 "\". I can provide a deeper breakdown or verification steps if you want."
    | none => utf16 "Completed the request. Ask for details, exact values, or next steps if you want a deeper response."

/-- The turn's inputs. `rawText` is `none` for `undefined`; `approvalsCount` is the number
of approvals the turn requested. -/
structure TurnResponseInput where
  rawText : Option (List UInt16)
  userRequestText : Option (List UInt16)
  approvalsCount : Nat
  approvalWasGranted : Bool
  toolResults : List ToolResultPart

structure ResolvedTurnResponse where
  text : List UInt16
  forcedApprovedStatus : Bool

/-- `input.rawText?.trim() ?? ""`. -/
def turnText (rawText : Option (List UInt16)) : List UInt16 := (rawText.map trim).getD []

def hasPlainTextApprovalRequest (text : List UInt16) : Bool :=
  PLAIN_TEXT_APPROVAL_PATTERNS.any fun phrase => phraseTest phrase none text

/-- `hasTrivialCompletion`: the text, whitespace collapsed, is short and a trivial word. -/
def hasTrivialCompletion (text : List UInt16) : Bool :=
  0 < (normalizeWhitespace text).length && (normalizeWhitespace text).length ≤ 48 &&
    TRIVIAL_COMPLETION_PATTERNS.any fun word => completionTest word (normalizeWhitespace text)

def shouldForceApprovedStatus (approvalWasGranted : Bool) (text : List UInt16) : Bool :=
  approvalWasGranted && (text.length = 0 || hasPlainTextApprovalRequest text || hasTrivialCompletion text)

/-- The `lead` of a reply that only says approvals are pending. -/
def lead : Option (List UInt16) → List UInt16
  | some topic => utf16 "Prepared the next step for \"" ++ topic ++ utf16 "\"."
  | none => utf16 "Prepared the next step."

def resolveTurnResponseText (input : TurnResponseInput) : ResolvedTurnResponse :=
  let text := turnText input.rawText
  let hasPendingApprovals := 0 < input.approvalsCount
  if shouldForceApprovedStatus input.approvalWasGranted text then
    let statusText := buildApprovedExecutionStatusText input.toolResults
    ⟨if hasPendingApprovals then statusText ++ NEXT_APPROVAL_PENDING_SUFFIX else statusText, true⟩
  else if 0 < text.length && !hasTrivialCompletion text then
    ⟨if hasPendingApprovals then text ++ APPROVAL_PENDING_SUFFIX else text, false⟩
  else if hasPendingApprovals then
    ⟨lead (requestTopic input.userRequestText) ++ APPROVAL_PENDING_SUFFIX, false⟩
  else ⟨buildContextAwareCompletionText input.toolResults (requestTopic input.userRequestText), false⟩

/-! ## The four rules of the reply -/

section
variable {w s : List UInt16}

theorem trim_ne_nil_of_prefix (hw : trim w ≠ []) (h : w <+: s) : trim s ≠ [] := by
  obtain ⟨t, rfl⟩ := h
  rw [Ne, trim_eq_nil_iff_visible, visible_append, List.append_eq_nil, ← trim_eq_nil_iff_visible]
  exact fun h => hw h.1

theorem prefix_intercalate_cons (sep : List UInt16) (l : List (List UInt16)) :
    w <+: sep.intercalate (w :: l) := by
  cases l with
  | nil => exact ⟨[], by simp [List.intercalate]⟩
  | cons v l => exact List.prefix_append w (sep ++ sep.intercalate (v :: l))

end

theorem approvalReceived_heads_status (toolResults : List ToolResultPart) :
    utf16 "Approval received." <+: buildApprovedExecutionStatusText toolResults := by
  unfold buildApprovedExecutionStatusText
  split_ifs
  · decide
  · exact List.IsPrefix.trans (by decide) (prefix_intercalate_cons _ _)

theorem completed_heads_completion (toolResults : List ToolResultPart) (topic : Option (List UInt16)) :
    utf16 "Completed" <+: buildContextAwareCompletionText toolResults topic := by
  unfold buildContextAwareCompletionText
  cases topic <;> dsimp only <;> split_ifs
  · exact List.IsPrefix.trans (by decide) (prefix_intercalate_cons _ _)
  · decide
  · exact (((by decide : utf16 "Completed" <+: _).trans (List.prefix_append _ _)).trans
      (List.prefix_append _ _)).trans (prefix_intercalate_cons _ _)
  · exact ((by decide : utf16 "Completed" <+: _).trans (List.prefix_append _ _)).trans
      (List.prefix_append _ _)

theorem prepared_heads_lead (topic : Option (List UInt16)) :
    utf16 "Prepared" <+: lead topic := by
  cases topic
  · decide
  · exact ((by decide : utf16 "Prepared" <+: _).trans (List.prefix_append _ _)).trans
      (List.prefix_append _ _)

theorem trim_turnText (rawText : Option (List UInt16)) (h : turnText rawText ≠ []) :
    trim (turnText rawText) ≠ [] := by
  cases rawText with
  | none => exact absurd rfl h
  | some raw =>
    rw [turnText, Option.map_some', Option.getD_some] at *
    rwa [Ne, trim_eq_nil_iff_visible, visible_trim, ← trim_eq_nil_iff_visible]

section
variable (input : TurnResponseInput)

theorem forcedApprovedStatus_resolveTurnResponseText :
    (resolveTurnResponseText input).forcedApprovedStatus =
      shouldForceApprovedStatus input.approvalWasGranted (turnText input.rawText) := by
  unfold resolveTurnResponseText
  dsimp only
  split_ifs <;> simp_all

theorem resolveTurnResponseText_of_force
    (h : shouldForceApprovedStatus input.approvalWasGranted (turnText input.rawText) = true) :
    (resolveTurnResponseText input).text = buildApprovedExecutionStatusText input.toolResults ++
      if 0 < input.approvalsCount then NEXT_APPROVAL_PENDING_SUFFIX else [] := by
  unfold resolveTurnResponseText
  dsimp only
  rw [if_pos h]
  split_ifs <;> simp

theorem resolveTurnResponseText_of_own
    (h : shouldForceApprovedStatus input.approvalWasGranted (turnText input.rawText) = false)
    (ht : turnText input.rawText ≠ []) (hn : hasTrivialCompletion (turnText input.rawText) = false) :
    (resolveTurnResponseText input).text = turnText input.rawText ++
      if 0 < input.approvalsCount then APPROVAL_PENDING_SUFFIX else [] := by
  have hlen : 0 < (turnText input.rawText).length := List.length_pos.mpr ht
  unfold resolveTurnResponseText
  dsimp only
  rw [if_neg (by simp [h]), if_pos (by simp [hlen, hn])]
  split_ifs <;> simp

theorem resolveTurnResponseText_of_rest
    (h : shouldForceApprovedStatus input.approvalWasGranted (turnText input.rawText) = false)
    (ho : turnText input.rawText = [] ∨ hasTrivialCompletion (turnText input.rawText) = true) :
    (resolveTurnResponseText input).text =
      if 0 < input.approvalsCount then lead (requestTopic input.userRequestText) ++ APPROVAL_PENDING_SUFFIX
      else buildContextAwareCompletionText input.toolResults (requestTopic input.userRequestText) := by
  have hown : ¬ (0 < (turnText input.rawText).length ∧ hasTrivialCompletion (turnText input.rawText) = false) := by
    rcases ho with ho | ho <;> simp [ho]
  unfold resolveTurnResponseText
  dsimp only
  rw [if_neg (by simp [h]), if_neg (by simpa using hown)]
  split_ifs <;> rfl

theorem resolveTurnResponseText_text_of {Q : List UInt16 → Prop}
    (hforce : shouldForceApprovedStatus input.approvalWasGranted (turnText input.rawText) = true →
      Q (buildApprovedExecutionStatusText input.toolResults ++
        if 0 < input.approvalsCount then NEXT_APPROVAL_PENDING_SUFFIX else []))
    (hown : shouldForceApprovedStatus input.approvalWasGranted (turnText input.rawText) = false →
      turnText input.rawText ≠ [] → hasTrivialCompletion (turnText input.rawText) = false →
      Q (turnText input.rawText ++ if 0 < input.approvalsCount then APPROVAL_PENDING_SUFFIX else []))
    (hrest : shouldForceApprovedStatus input.approvalWasGranted (turnText input.rawText) = false →
      Q (if 0 < input.approvalsCount then lead (requestTopic input.userRequestText) ++ APPROVAL_PENDING_SUFFIX
        else buildContextAwareCompletionText input.toolResults (requestTopic input.userRequestText))) :
    Q (resolveTurnResponseText input).text := by
  by_cases hf : shouldForceApprovedStatus input.approvalWasGranted (turnText input.rawText) = true
  · rw [resolveTurnResponseText_of_force input hf]
    exact hforce hf
  rw [Bool.not_eq_true] at hf
  by_cases ho : turnText input.rawText = [] ∨ hasTrivialCompletion (turnText input.rawText) = true
  · rw [resolveTurnResponseText_of_rest input hf ho]
    exact hrest hf
  · simp only [not_or, Bool.not_eq_true] at ho
    rw [resolveTurnResponseText_of_own input hf ho.1 ho.2]
    exact hown hf ho.1 ho.2

end

/-- The rules of the reply of a turn. -/
structure ResponseRules (input : TurnResponseInput) (out : ResolvedTurnResponse) : Prop where
  /-- The approved status is forced exactly when an approval was granted and the model's
  text is empty, asks for approval in plain text, or is a trivial completion. -/
  forced_iff : out.forcedApprovedStatus = true ↔ input.approvalWasGranted = true ∧
    (turnText input.rawText = [] ∨ hasPlainTextApprovalRequest (turnText input.rawText) = true ∨
      hasTrivialCompletion (turnText input.rawText) = true)
  forced_text : out.forcedApprovedStatus = true → utf16 "Approval received." <+: out.text
  pending_suffix : 0 < input.approvalsCount →
    APPROVAL_PENDING_SUFFIX <:+ out.text ∨ NEXT_APPROVAL_PENDING_SUFFIX <:+ out.text
  /-- A model text worth keeping is the reply, with the suffix only when approvals pend. -/
  own_text : out.forcedApprovedStatus = false → turnText input.rawText ≠ [] →
    hasTrivialCompletion (turnText input.rawText) = false →
    out.text = turnText input.rawText ++ if 0 < input.approvalsCount then APPROVAL_PENDING_SUFFIX else []
  not_blank : trim out.text ≠ []

example : (resolveTurnResponseText ⟨some (utf16 " Done. "), none, 0, true, []⟩).text =
    utf16 "Approval received. Protected action executed." := by decide

end ton_agent_bot.agent
