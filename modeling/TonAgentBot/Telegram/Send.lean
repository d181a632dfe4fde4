-- sendTelegramText of telegram/bot, the send of every reply. The text is cut into chunks of
-- at most 3500 units when it looks like markdown, else 4096; a chunk of such a text goes as
-- its HTML, and as it is when Telegram cannot parse that; a send to a thread Telegram does
-- not find goes again to the chat. Each chunk is delivered once and in order, and the call
-- returns exactly when every chunk was; when it throws, a first part of the chunks was.
import TonAgentBot.Chunk
import TonAgentBot.Telegram.Html
import TonAgentBot.Bootstrap
import TonAgentBot.Updates.Worker

namespace ton_agent_bot.telegram

open js ton_agent_bot.updates

/-! ## hasLikelyMarkdownFormatting -/

/-- `` ```[\s\S]*?``` `` at a position: a fence, and another one after it. -/
def fenceSignal : List UInt16 → Bool
  | 96 :: 96 :: 96 :: rest => (tripleBacktickAt rest).isSome
  | _ => false

/-- `\[[^\]\n]+\]\((?:https?:\/\/|ton:\/\/|tg:\/\/)[^)]+\)` at a position: a label, a
scheme, and a target of at least one unit other than `)`, spaces and newlines included,
closed by `)`. -/
def linkSignal : List UInt16 → Bool
  | 91 :: rest =>
    let label := rest.takeWhile fun u => u ≠ 93 && u ≠ 10
    match rest.drop label.length with
    | 93 :: 40 :: target =>
      label ≠ [] && LINK_SCHEMES.any fun scheme =>
        let after := target.drop scheme.length
        scheme.isPrefixOf target && (after.takeWhile (· ≠ 41)) ≠ [] &&
          (after.takeWhile (· ≠ 41)).length < after.length
    | _ => false
  | _ => false

/-- `^#{1,6}\s.+$` (flag `m`) at a position: `^` at the start or after a line terminator;
the whole run of `#`, as a seventh stops `\s`; one whitespace unit, a newline included;
then a unit that is no line terminator. -/
def headingSignal (prev : Option UInt16) (s : List UInt16) : Bool :=
  let marks := s.takeWhile (· = 35)
  prev.all isLineTerminator && 1 ≤ marks.length && marks.length ≤ 6 &&
    match s.drop marks.length with
    | w :: u :: _ => isWs w && !isLineTerminator u
    | _ => false

/-- `MARKDOWN_SIGNAL_REGEX` at a position, one alternative after the other. Its inline code
and its three delimited runs are the renderer's own expressions. -/
def markdownSignalAt (prev : Option UInt16) (s : List UInt16) : Bool :=
  fenceSignal s || (inlineCode prev s).isSome || (delimited 42 prev s).isSome ||
    (delimited 95 prev s).isSome || (delimited 126 prev s).isSome || linkSignal s ||
    headingSignal prev s

/-- The expression tried at each position from here on, with the unit before it. -/
def signalFrom : Option UInt16 → List UInt16 → Bool
  | prev, [] => markdownSignalAt prev []
  | prev, u :: us => markdownSignalAt prev (u :: us) || signalFrom (some u) us

/-- `hasLikelyMarkdownFormatting`: `MARKDOWN_SIGNAL_REGEX.test(text)`. -/
def hasLikelyMarkdownFormatting (text : List UInt16) : Bool := signalFrom none text

/-! ## The Bot API and the sends -/

/-- The options of a `sendMessage` of sendTelegramText: the thread, the message it replies
to (with `allow_sending_without_reply`), and the HTML parse mode. -/
structure SendMessageOptions where
  message_thread_id : Option Nat
  reply_to_message_id : Option Nat
  parse_mode_html : Bool
  deriving DecidableEq, Repr

/-- A `bot.api.sendMessage` request, and whether Telegram delivered it. -/
structure SendCall where
  chatId : String
  text : List UInt16
  options : SendMessageOptions
  delivered : Bool
  deriving DecidableEq, Repr

/-- What sendTelegramText sees of Telegram: its answers still to come, in order (`none`
delivers, `some message` fails with that error message; once they run out, every request
is delivered), and the requests made. -/
structure BotApi where
  answers : List (Option String)
  calls : List SendCall

abbrev SendM := EStateM String BotApi

/-- `bot.api.sendMessage(chatId, text, options)`, answered by Telegram's next answer. -/
def sendMessage (chatId : String) (text : List UInt16) (options : SendMessageOptions) :
    SendM Unit := fun api =>
  match api.answers with
  | some e :: rest => .error e ⟨rest, api.calls ++ [⟨chatId, text, options, false⟩]⟩
  | none :: rest => .ok () ⟨rest, api.calls ++ [⟨chatId, text, options, true⟩]⟩
  | [] => .ok () ⟨[], api.calls ++ [⟨chatId, text, options, true⟩]⟩

/-- `isTelegramMessageThreadNotFoundError`, of the error's message. -/
def isTelegramMessageThreadNotFoundError (message : String) : Bool :=
  bootstrap.mentionsAny ["message thread not found"] message

/-- `isTelegramParseModeError`, of the error's message. -/
def isTelegramParseModeError (message : String) : Bool :=
  bootstrap.mentionsAny
    ["can't parse entities", "can't find end of the entity", "entity parse", "parse_mode"] message

/-- `sendMessageWithThreadFallback`: a send that Telegram refuses for its thread goes again
to the chat, with the parse mode alone. -/
def sendMessageWithThreadFallback (chatId : String) (text : List UInt16)
    (options : SendMessageOptions) : SendM Unit :=
  updates.tryCatch (sendMessage chatId text options) fun e =>
    if !isTelegramMessageThreadNotFoundError e || options.message_thread_id.isNone then throw e
    else sendMessage chatId text ⟨none, none, options.parse_mode_html⟩

/-- One turn of sendTelegramText's loop: the chunk as it is, or, for a text that looks like
markdown, its HTML, and the chunk as it is again after a parse-mode error. -/
def sendChunk (chatId : String) (rich : Bool) (baseOptions : SendMessageOptions)
    (chunk : List UInt16) : SendM Unit :=
  if !rich then sendMessageWithThreadFallback chatId chunk baseOptions
  else
    updates.tryCatch (sendMessageWithThreadFallback chatId (renderTelegramHtmlFromMarkdown chunk)
        { baseOptions with parse_mode_html := true }) fun e =>
      if !isTelegramParseModeError e then throw e
      else sendMessageWithThreadFallback chatId chunk baseOptions

/-- The `for (const chunk of ...)` loop of sendTelegramText. -/
def sendChunks (chatId : String) (rich : Bool) (baseOptions : SendMessageOptions) :
    List (List UInt16) → SendM Unit
  | [] => pure ()
  | chunk :: rest => do
    sendChunk chatId rich baseOptions chunk
    sendChunks chatId rich baseOptions rest

/-- `sendTelegramText(chatId, text, { messageThreadId, replyToMessageId })`. Its chunks are
chunkTelegramMessage's, which returns for every window of at least one unit. -/
def sendTelegramText (chatId : String) (text : List UInt16)
    (messageThreadId replyToMessageId : Option Nat) : SendM Unit :=
  sendChunks chatId (hasLikelyMarkdownFormatting text) ⟨messageThreadId, replyToMessageId, false⟩
    ((chunk.chunkTelegramMessage text
      (if hasLikelyMarkdownFormatting text then 3500 else 4096)).getD [])

/-! ## Each chunk delivered once, in order -/

/-- The requests of a log that Telegram delivered. -/
def deliveredCalls (calls : List SendCall) : List SendCall := calls.filter (·.delivered)

/-- Requests appended to the log, and those delivered are one for each entry of `l`, in
order, `P` of it. -/
def DeliveredAs {α : Type} (P : α → SendCall → Prop) (l : List α) (u v : List SendCall) : Prop :=
  ∃ new, v = u ++ new ∧ List.Forall₂ P l (deliveredCalls new)

/-- A delivered message of a chunk: the chunk as it is, or, for a text that looks like
markdown, its HTML with parse mode HTML; to the thread and reply of the call, or to the
chat alone after Telegram did not find the thread. -/
def DeliversChunk (chatId : String) (rich : Bool) (messageThreadId replyToMessageId : Option Nat)
    (chunk : List UInt16) (c : SendCall) : Prop :=
  c.chatId = chatId ∧ c.delivered = true ∧
    ((c.text = chunk ∧ c.options.parse_mode_html = false) ∨
      (rich = true ∧ c.text = renderTelegramHtmlFromMarkdown chunk ∧
        c.options.parse_mode_html = true)) ∧
    ((c.options.message_thread_id = messageThreadId ∧
        c.options.reply_to_message_id = replyToMessageId) ∨
      (c.options.message_thread_id = none ∧ c.options.reply_to_message_id = none))

section
variable {α : Type} {P : α → SendCall → Prop} {a : α} {l l' : List α} {u v w : List SendCall}

theorem deliveredCalls_append (xs ys : List SendCall) :
    deliveredCalls (xs ++ ys) = deliveredCalls xs ++ deliveredCalls ys := List.filter_append _ _

theorem DeliveredAs.refl : DeliveredAs P [] u u := ⟨[], by simp, by simp [deliveredCalls]⟩

theorem DeliveredAs.append (h₁ : DeliveredAs P l u v) (h₂ : DeliveredAs P l' v w) :
    DeliveredAs P (l ++ l') u w := by
  obtain ⟨n₁, rfl, h₁⟩ := h₁
  obtain ⟨n₂, rfl, h₂⟩ := h₂
  exact ⟨n₁ ++ n₂, by simp, by rw [deliveredCalls_append]; exact List.rel_append h₁ h₂⟩

theorem DeliveredAs.nil_left (h₁ : DeliveredAs P [] u v) (h₂ : DeliveredAs P l v w) :
    DeliveredAs P l u w := h₁.append h₂

theorem sendMessage_ends {chatId : String} {text : List UInt16} {options : SendMessageOptions}
    (hP : P a ⟨chatId, text, options, true⟩) :
    Ends (·.calls) (DeliveredAs P [a]) (DeliveredAs P []) (sendMessage chatId text options) := by
  refine ⟨fun ⟨answers, calls⟩ => ?_⟩
  unfold sendMessage
  rcases answers with _ | ⟨_ | e, rest⟩
  · exact ⟨_, rfl, by simpa [deliveredCalls] using hP⟩
  · exact ⟨_, rfl, by simpa [deliveredCalls] using hP⟩
  · exact ⟨_, rfl, by simp [deliveredCalls]⟩

theorem throw_delivers (e : String) :
    Ends (·.calls) (DeliveredAs P [a]) (DeliveredAs P []) (throw e : SendM Unit) :=
  ⟨fun _ => DeliveredAs.refl⟩

theorem tryCatch_delivers {x : SendM Unit} {h : String → SendM Unit}
    (hx : Ends (·.calls) (DeliveredAs P [a]) (DeliveredAs P []) x)
    (hh : ∀ e, Ends (·.calls) (DeliveredAs P [a]) (DeliveredAs P []) (h e)) :
    Ends (·.calls) (DeliveredAs P [a]) (DeliveredAs P []) (updates.tryCatch x h) :=
  hx.of_tryCatch hh (fun _ _ h => h) (fun _ _ _ h₁ h₂ => h₁.nil_left h₂)
    fun _ _ _ h₁ h₂ => h₁.nil_left h₂

theorem sendMessageWithThreadFallback_ends (chatId : String) (text : List UInt16)
    (options : SendMessageOptions) (h₁ : P a ⟨chatId, text, options, true⟩)
    (h₂ : P a ⟨chatId, text, ⟨none, none, options.parse_mode_html⟩, true⟩) :
    Ends (·.calls) (DeliveredAs P [a]) (DeliveredAs P [])
      (sendMessageWithThreadFallback chatId text options) :=
  tryCatch_delivers (sendMessage_ends h₁) fun e => by
    split
    · exact throw_delivers e
    · exact sendMessage_ends h₂

end

section
variable {chatId : String} {rich : Bool} {messageThreadId replyToMessageId : Option Nat}

theorem sendChunk_ends (chunk : List UInt16) :
    Ends (·.calls) (DeliveredAs (DeliversChunk chatId rich messageThreadId replyToMessageId) [chunk])
      (DeliveredAs (DeliversChunk chatId rich messageThreadId replyToMessageId) [])
      (sendChunk chatId rich ⟨messageThreadId, replyToMessageId, false⟩ chunk) := by
  -- the chunk as it is, to the thread or to the chat
  have plain := sendMessageWithThreadFallback_ends
    (P := DeliversChunk chatId rich messageThreadId replyToMessageId) (a := chunk) chatId chunk
    ⟨messageThreadId, replyToMessageId, false⟩
    ⟨rfl, rfl, .inl ⟨rfl, rfl⟩, .inl ⟨rfl, rfl⟩⟩ ⟨rfl, rfl, .inl ⟨rfl, rfl⟩, .inr ⟨rfl, rfl⟩⟩
  cases rich
  · simp only [sendChunk, Bool.not_false, ↓reduceIte]
    exact plain
  · -- the chunk's HTML, to the thread or to the chat; the projections are reduced first, as
    -- the unifier would otherwise unfold the renderer
    have html : ∀ m r, (m = messageThreadId ∧ r = replyToMessageId) ∨ (m = none ∧ r = none) →
        DeliversChunk chatId true messageThreadId replyToMessageId chunk
          ⟨chatId, renderTelegramHtmlFromMarkdown chunk, ⟨m, r, true⟩, true⟩ := fun m r hmr => by
      dsimp only [DeliversChunk]
      exact ⟨rfl, rfl, .inr ⟨rfl, rfl, rfl⟩, hmr⟩
    simp only [sendChunk, Bool.not_true, Bool.false_eq_true, ↓reduceIte]
    refine tryCatch_delivers (sendMessageWithThreadFallback_ends chatId
      (renderTelegramHtmlFromMarkdown chunk) ⟨messageThreadId, replyToMessageId, true⟩
      (html _ _ (.inl ⟨rfl, rfl⟩)) (html _ _ (.inr ⟨rfl, rfl⟩))) fun e => ?_
    split
    · exact throw_delivers e
    · exact plain

theorem sendChunks_ends : ∀ chunks : List (List UInt16),
    Ends (·.calls) (DeliveredAs (DeliversChunk chatId rich messageThreadId replyToMessageId) chunks)
      (fun u v => ∃ k < chunks.length,
        DeliveredAs (DeliversChunk chatId rich messageThreadId replyToMessageId) (chunks.take k) u v)
      (sendChunks chatId rich ⟨messageThreadId, replyToMessageId, false⟩ chunks)
  | [] => ⟨fun _ => DeliveredAs.refl⟩
  | chunk :: rest =>
    (sendChunk_ends chunk).bind (fun _ => sendChunks_ends rest)
      (fun _ _ _ h₁ h₂ => h₁.append h₂)
      (fun _ _ h => ⟨0, by simp, h⟩)
      fun _ _ _ h₁ ⟨k, hk, h₂⟩ => ⟨k + 1, by simp [hk], h₁.append h₂⟩

end

theorem chunkTelegramMessage_window (text : List UInt16) (maxChars : Nat) (hmax : 1 ≤ maxChars) :
    ∃ chunks, chunk.chunkTelegramMessage text maxChars = some chunks ∧
      (∀ c ∈ chunks, c.length ≤ maxChars) ∧ visible chunks.flatten = visible text := by
  by_cases hshort : text.length ≤ maxChars
  · exact ⟨[text], by simp [chunk.chunkTelegramMessage, hshort], by simpa using hshort, by simp⟩
  · obtain ⟨rest, hrun, hrest, hvis⟩ :=
      chunk.chunkLoop_spec hmax (text.length + 1) 0 [] (Nat.zero_le text.length) (by omega)
    exact ⟨rest, by simpa [chunk.chunkTelegramMessage, hshort] using hrun,
      fun c hc => (hrest c hc).1, by simpa using hvis⟩

/-- Over every text and every sequence of Telegram's answers: the text is cut into chunks of
at most 3500 units when it looks like markdown and 4096 otherwise, which hold its visible
units. When sendTelegramText returns, it delivered one message per chunk, in order: the
chunk, or, only for a text that looks like markdown, the chunk's HTML with parse mode
HTML; each to the call's thread and reply, or to the chat alone. When it throws, it
delivered such messages for a first part of the chunks only. -/
theorem sendTelegramText_delivers_chunks (chatId : String) (text : List UInt16)
    (messageThreadId replyToMessageId : Option Nat) :
    ∃ chunks, chunk.chunkTelegramMessage text
        (if hasLikelyMarkdownFormatting text then 3500 else 4096) = some chunks ∧
      (∀ c ∈ chunks, c.length ≤ if hasLikelyMarkdownFormatting text then 3500 else 4096) ∧
      visible chunks.flatten = visible text ∧
      Ends (·.calls)
        (DeliveredAs (DeliversChunk chatId (hasLikelyMarkdownFormatting text) messageThreadId
          replyToMessageId) chunks)
        (fun u v => ∃ k < chunks.length, DeliveredAs (DeliversChunk chatId
          (hasLikelyMarkdownFormatting text) messageThreadId replyToMessageId) (chunks.take k) u v)
        (sendTelegramText chatId text messageThreadId replyToMessageId) := by
  obtain ⟨chunks, hrun, hfit, hvis⟩ := chunkTelegramMessage_window text
    (if hasLikelyMarkdownFormatting text then 3500 else 4096) (by split <;> omega)
  refine ⟨chunks, hrun, hfit, hvis, ?_⟩
  unfold sendTelegramText
  rw [hrun, Option.getD_some]
  exact sendChunks_ends chunks

end ton_agent_bot.telegram
