-- maybeCreateTopicForPrompt of telegram/topics under any interleaving of calls, one step
-- per await, any of which may throw, with the clock moving between steps. A failed topic
-- write backs its chat off for TOPIC_CREATE_RETRY_DELAY_MS: a call that starts in that
-- window returns at once and writes nothing, and the window only moves later. A call never
-- leaves the thread it came from, and every name it gives a topic is trimmed and 1 to
-- MAX_TOPIC_TITLE_LENGTH code units long. A topic whose notice fails to send is created all
-- the same, and the call reports that none was.
import TonAgentBot.Run
import TonAgentBot.ToolPolicy
import TonAgentBot.Telegram.TopicTitle

namespace ton_agent_bot.telegram

open js tool_policy

/-! ## The calls -/

def FORUM_ICON_CACHE_TTL_MS : Nat := 10 * 60 * 1000

def TOPIC_CREATE_RETRY_DELAY_MS : Nat := 10 * 60 * 1000

def TOPIC_SUPPORTED_CHAT_TYPES : List ChatType := [.private, .supergroup]

/-- The input of `maybeCreateTopicForPrompt`; the correlation id only goes to the logs. -/
structure TopicInput where
  telegramChatId : String
  chatType : ChatType
  prompt : List UInt16
  existingMessageThreadId : Option Nat
  shouldRetitleExistingThread : Option Bool
  deriving DecidableEq, Repr

/-- `TopicCreationResult`. -/
structure TopicCreationResult where
  messageThreadId : Option Nat
  created : Bool
  updated : Option Bool
  title : Option (List UInt16)
  emoji : Option (List UInt16)
  source : Option TopicSource
  deriving DecidableEq, Repr

/-- The result that keeps the thread the call came with, if any, and creates nothing. -/
def keepThread (input : TopicInput) : TopicCreationResult :=
  ⟨input.existingMessageThreadId, false, none, none, none, none⟩

/-- The Telegram calls that change something: a topic's name and icon, a new topic, and the
notice sent into a new topic. -/
inductive TopicWrite
  | edit (chatId : String) (threadId : Nat) (name : List UInt16) (icon : Option (List UInt16))
  | create (chatId : String) (name : List UInt16) (icon : Option (List UInt16))
  | notice (chatId : String) (threadId : Nat) (text : List UInt16)
  deriving DecidableEq, Repr

/-- A forum topic icon sticker as `getForumTopicIconStickers` returns it. -/
structure Sticker where
  emoji : Option (List UInt16)
  customEmojiId : Option (List UInt16)
  deriving DecidableEq, Repr

/-! ## The icon map -/

/-- A JavaScript `Map` from emoji to custom emoji ids, in insertion order. -/
abbrev EmojiMap := List (List UInt16 × List UInt16)

def EmojiMap.set (m : EmojiMap) (k v : List UInt16) : EmojiMap :=
  if m.any (·.1 = k) then m.map fun e => if e.1 = k then (k, v) else e else m ++ [(k, v)]

def EmojiMap.get (m : EmojiMap) (k : List UInt16) : Option (List UInt16) :=
  (m.find? (·.1 = k)).map (·.2)

/-- A string read as a condition: defined and not empty. -/
def truthy : Option (List UInt16) → Bool
  | some v => !v.isEmpty
  | none => false

/-- The map `getForumTopicEmojiMap` builds from the stickers. -/
def emojiMapOfStickers (ucd : UnicodeData) (stickers : List Sticker) : EmojiMap :=
  stickers.foldl (fun m sticker =>
    if truthy sticker.emoji && truthy sticker.customEmojiId then
      m.set (canonicalizeEmoji ucd (sticker.emoji.getD [])) (sticker.customEmojiId.getD [])
    else m) []

/-- `resolveTopicIconSelection`: the preferred emoji if the map has it, else the default one,
else the map's first emoji; with the custom emoji id found, if any. -/
def resolveTopicIconSelection (ucd : UnicodeData) (emojiMap : EmojiMap)
    (preferredEmoji : List UInt16) : List UInt16 × Option (List UInt16) :=
  let preferred := (preferredEmoji, emojiMap.get (canonicalizeEmoji ucd preferredEmoji))
  let fallback :=
    if truthy preferred.2 then preferred
    else (DEFAULT_EMOJI, emojiMap.get (canonicalizeEmoji ucd DEFAULT_EMOJI))
  if !truthy fallback.2 && 0 < emojiMap.length then
    match emojiMap.head? with
    | some (firstSupported, _) =>
      if !firstSupported.isEmpty then (firstSupported, emojiMap.get firstSupported) else fallback
    | none => fallback
  else fallback

/-! ## The state of the calls -/

/-- Where a call stands: awaiting `botSupportsTopicsMode`, `suggestTopic`, the stickers of
`getForumTopicEmojiMap`, `editForumTopic`, `createForumTopic` or the notice; or returned. -/
inductive TopicPc
  | topicsMode
  | suggesting
  | stickers (suggestion : TopicSuggestion)
  | editing (suggestion : TopicSuggestion) (selectedEmoji : List UInt16)
  | creating (suggestion : TopicSuggestion) (selectedEmoji : List UInt16)
  | noticing (suggestion : TopicSuggestion) (selectedEmoji : List UInt16) (threadId : Nat)
  | returned (result : TopicCreationResult)
  deriving DecidableEq, Repr

inductive Proc
  | idle
  | call (input : TopicInput) (pc : TopicPc)
  deriving DecidableEq, Repr

/-- The clock, `topicCreateBackoffByChat`, `cachedForumIcons` with its expiry, the writes
sent to Telegram, and the calls. -/
structure Sys where
  now : Nat
  backoff : String → Option Nat
  forumIcons : Option (Nat × EmojiMap)
  writes : List TopicWrite
  procs : Nat → Proc

def Sys.init : Sys := ⟨0, fun _ => none, none, [], fun _ => .idle⟩

def Sys.setProc (s : Sys) (p : Nat) (x : Proc) : Sys :=
  { s with procs := fun q => if q = p then x else s.procs q }

@[simp] theorem Sys.setProc_now (s : Sys) (p : Nat) (x : Proc) : (s.setProc p x).now = s.now := rfl
@[simp] theorem Sys.setProc_backoff (s : Sys) (p : Nat) (x : Proc) :
    (s.setProc p x).backoff = s.backoff := rfl
@[simp] theorem Sys.setProc_forumIcons (s : Sys) (p : Nat) (x : Proc) :
    (s.setProc p x).forumIcons = s.forumIcons := rfl
@[simp] theorem Sys.setProc_writes (s : Sys) (p : Nat) (x : Proc) :
    (s.setProc p x).writes = s.writes := rfl
@[simp] theorem Sys.setProc_procs (s : Sys) (p q : Nat) (x : Proc) :
    (s.setProc p x).procs q = if q = p then x else s.procs q := rfl

/-! ## One step of a call -/

/-- The checks before the first await (lines 383-421 and 485): the switch, the chat type, the
backoff, for a call in a thread whether it retitles it, and whether the chat is private. -/
def startPc (enabled : Bool) (s : Sys) (input : TopicInput) : TopicPc :=
  if !enabled then .returned (keepThread input)
  else if input.chatType ∉ TOPIC_SUPPORTED_CHAT_TYPES then .returned (keepThread input)
  else if s.now < (s.backoff input.telegramChatId).getD 0 then .returned (keepThread input)
  else match input.existingMessageThreadId with
    | some _ =>
      if input.chatType ≠ .private ∨ input.shouldRetitleExistingThread ≠ some true then
        .returned (keepThread input)
      else .topicsMode
    | none => if input.chatType = .private then .topicsMode else .suggesting

/-- The `catch` of a failed topic write: the chat is backed off, and the call keeps its
thread. -/
def backOff (s : Sys) (p : Nat) (input : TopicInput) : Sys :=
  { s.setProc p (.call input (.returned (keepThread input))) with
    backoff := fun c =>
      if c = input.telegramChatId then some (s.now + TOPIC_CREATE_RETRY_DELAY_MS) else s.backoff c }

/-- The icon chosen from the map and the topic write sent with it. -/
def issueWrite (ucd : UnicodeData) (s : Sys) (p : Nat) (input : TopicInput)
    (suggestion : TopicSuggestion) (emojiMap : EmojiMap) : Sys :=
  let selection := resolveTopicIconSelection ucd emojiMap suggestion.emoji
  let icon := if truthy selection.2 then selection.2 else none
  match input.existingMessageThreadId with
  | some threadId =>
    { s.setProc p (.call input (.editing suggestion selection.1)) with
      writes := s.writes ++ [.edit input.telegramChatId threadId suggestion.title icon] }
  | none =>
    { s.setProc p (.call input (.creating suggestion selection.1)) with
      writes := s.writes ++ [.create input.telegramChatId suggestion.title icon] }

/-- After `suggestTopic`: the cached icon map while it is fresh, else a fetch of the stickers. -/
def suggestNext (ucd : UnicodeData) (s : Sys) (p : Nat) (input : TopicInput)
    (suggestion : TopicSuggestion) : Sys :=
  match s.forumIcons with
  | some (expiresAt, emojiMap) =>
    if s.now < expiresAt then issueWrite ucd s p input suggestion emojiMap
    else s.setProc p (.call input (.stickers suggestion))
  | none => s.setProc p (.call input (.stickers suggestion))

/-- After the stickers: `none` when the call threw. -/
def stickersNext (ucd : UnicodeData) (s : Sys) (p : Nat) (input : TopicInput)
    (suggestion : TopicSuggestion) : Option (List Sticker) → Sys
  | none => backOff s p input
  | some stickers =>
    let emojiMap := emojiMapOfStickers ucd stickers
    issueWrite ucd { s with forumIcons := some (s.now + FORUM_ICON_CACHE_TTL_MS, emojiMap) } p
      input suggestion emojiMap

/-- The notice sent into a new topic. -/
def createdNotice (suggestion : TopicSuggestion) (selectedEmoji : List UInt16) : List UInt16 :=
  utf16 "Created topic \"" ++ suggestion.title ++ utf16 "\" " ++ selectedEmoji ++
    utf16 ". Continuing there."

/-- What an await answers: `topicsMode` the topics mode of the bot, `suggest` the naming
model, `stickers` the icon stickers (`none`: the call threw), `edited` and `noticed` whether
the call returned, `created` the new topic's thread (`none`: the call threw). -/
inductive Action
  | start (p : Nat) (input : TopicInput)
  | topicsMode (p : Nat) (supported : Bool)
  | suggest (p : Nat) (answers : TopicModelAnswers)
  | stickers (p : Nat) (answer : Option (List Sticker))
  | edited (p : Nat) (ok : Bool)
  | created (p : Nat) (threadId : Option Nat)
  | noticed (p : Nat) (ok : Bool)
  | tick (ms : Nat)
  deriving DecidableEq, Repr

/-- One step of the system (lines 375-549), `enabled` being `TOPIC_AUTOCREATE_ENABLED`. -/
def step (ucd : UnicodeData) (enabled : Bool) (s : Sys) : Action → Option Sys
  | .start p input =>
    match s.procs p with
    | .idle => some (s.setProc p (.call input (startPc enabled s input)))
    | _ => none
  | .topicsMode p supported =>
    match s.procs p with
    | .call input .topicsMode =>
      some (s.setProc p (.call input (if supported then .suggesting
        else .returned (keepThread input))))
    | _ => none
  | .suggest p answers =>
    match s.procs p with
    | .call input .suggesting => some (suggestNext ucd s p input (suggestTopic ucd input.prompt answers))
    | _ => none
  | .stickers p answer =>
    match s.procs p with
    | .call input (.stickers suggestion) => some (stickersNext ucd s p input suggestion answer)
    | _ => none
  | .edited p ok =>
    match s.procs p with
    | .call input (.editing suggestion selectedEmoji) =>
      if ok then
        some (s.setProc p (.call input (.returned ⟨input.existingMessageThreadId, false, some true,
          some suggestion.title, some selectedEmoji, some suggestion.source⟩)))
      else some (backOff s p input)
    | _ => none
  | .created p threadId =>
    match s.procs p, threadId with
    | .call input (.creating suggestion selectedEmoji), some id =>
      some { s.setProc p (.call input (.noticing suggestion selectedEmoji id)) with
        writes := s.writes ++
          [.notice input.telegramChatId id (createdNotice suggestion selectedEmoji)] }
    | .call input (.creating _ _), none => some (backOff s p input)
    | _, _ => none
  | .noticed p ok =>
    match s.procs p with
    | .call input (.noticing suggestion selectedEmoji id) =>
      if ok then
        some (s.setProc p (.call input (.returned ⟨some id, true, none, some suggestion.title,
          some selectedEmoji, some suggestion.source⟩)))
      else some (backOff s p input)
    | _ => none
  | .tick ms => some { s with now := s.now + ms }

/-! ## What each step changes -/

def Sys.backedOff (s : Sys) (chat : String) : String → Option Nat :=
  fun c => if c = chat then some (s.now + TOPIC_CREATE_RETRY_DELAY_MS) else s.backoff c

section
variable {ucd : UnicodeData} {s : Sys} {p : Nat} {input : TopicInput} {suggestion : TopicSuggestion}

@[simp] theorem backOff_now : (backOff s p input).now = s.now := rfl
@[simp] theorem backOff_backoff : (backOff s p input).backoff = s.backedOff input.telegramChatId := rfl
@[simp] theorem backOff_writes : (backOff s p input).writes = s.writes := rfl
@[simp] theorem backOff_procs (q : Nat) : (backOff s p input).procs q =
    if q = p then .call input (.returned (keepThread input)) else s.procs q := rfl

theorem issueWrite_frame (emojiMap : EmojiMap) :
    (issueWrite ucd s p input suggestion emojiMap).now = s.now ∧
      (issueWrite ucd s p input suggestion emojiMap).backoff = s.backoff := by
  unfold issueWrite
  split <;> exact ⟨rfl, rfl⟩

theorem suggestNext_frame :
    (suggestNext ucd s p input suggestion).now = s.now ∧
      (suggestNext ucd s p input suggestion).backoff = s.backoff := by
  unfold suggestNext
  split
  · split_ifs
    exacts [issueWrite_frame _, ⟨rfl, rfl⟩]
  · exact ⟨rfl, rfl⟩

theorem stickersNext_frame (answer : Option (List Sticker)) :
    (stickersNext ucd s p input suggestion answer).now = s.now ∧
      ((stickersNext ucd s p input suggestion answer).backoff = s.backoff ∨
        (stickersNext ucd s p input suggestion answer).backoff =
          s.backedOff input.telegramChatId) := by
  cases answer with
  | none => exact ⟨rfl, .inr rfl⟩
  | some stickers => exact ⟨(issueWrite_frame _).1, .inl (issueWrite_frame _).2⟩

end

section
variable {ucd : UnicodeData} {enabled : Bool} {s s' : Sys} {a : Action}

theorem step_now_le (h : step ucd enabled s a = some s') : s.now ≤ s'.now := by
  unfold step at h
  split at h <;> (repeat' split at h) <;> cases h <;>
    simp [suggestNext_frame.1, (stickersNext_frame _).1]

theorem step_backoff (h : step ucd enabled s a = some s') :
    s'.backoff = s.backoff ∨ ∃ chat, s'.backoff = s.backedOff chat := by
  unfold step at h
  split at h <;> (repeat' split at h) <;> cases h <;>
    first
    | exact (stickersNext_frame _).2.imp_right fun h => ⟨_, h⟩
    | simp [suggestNext_frame.2]

end

/-! ## The backoff -/

/-- No chat is backed off further than `TOPIC_CREATE_RETRY_DELAY_MS` from now. -/
def BackoffBelow (s : Sys) : Prop :=
  ∀ c r, s.backoff c = some r → r ≤ s.now + TOPIC_CREATE_RETRY_DELAY_MS

theorem BackoffBelow.init : BackoffBelow Sys.init := fun _ _ h => by cases h

section
variable {ucd : UnicodeData} {enabled : Bool} {s s' : Sys} {a : Action}

theorem BackoffBelow.step (hb : BackoffBelow s) (h : step ucd enabled s a = some s') :
    BackoffBelow s' := by
  intro c r hr
  have hnow := step_now_le h
  rcases step_backoff h with hk | ⟨chat, hk⟩
  · have := hb c r (hk ▸ hr)
    omega
  · rw [hk, Sys.backedOff] at hr
    split_ifs at hr
    · cases hr
      omega
    · have := hb c r hr
      omega

theorem backoff_mono_step (hb : BackoffBelow s) (h : step ucd enabled s a = some s') {c : String}
    {r : Nat} (hr : s.backoff c = some r) : ∃ r', s'.backoff c = some r' ∧ r ≤ r' := by
  rcases step_backoff h with hk | ⟨chat, hk⟩
  · exact ⟨r, hk ▸ hr, le_refl r⟩
  · rw [hk, Sys.backedOff]
    split_ifs
    · exact ⟨_, rfl, hb c r hr⟩
    · exact ⟨r, hr, le_refl r⟩

theorem startPc_of_backedOff {input : TopicInput} {r : Nat}
    (hr : s.backoff input.telegramChatId = some r) (hnow : s.now < r) :
    startPc enabled s input = .returned (keepThread input) := by
  simp only [startPc, hr, Option.getD_some, if_pos hnow]
  split_ifs <;> rfl

/-- Once a chat is backed off until `r`, a call for it that starts before `r` returns at once,
keeping its thread and sending nothing, however the calls in between ran. -/
theorem backed_off_call_writes_nothing (hs : Reachable Sys.init (step ucd enabled) s)
    {input : TopicInput} {r : Nat} (hr : s.backoff input.telegramChatId = some r) {t t' : Sys}
    (hrun : Reaches (step ucd enabled) s t) (hnow : t.now < r) {p : Nat}
    (hstart : step ucd enabled t (.start p input) = some t') :
    t'.procs p = .call input (.returned (keepThread input)) ∧ t'.writes = t.writes := by
  obtain ⟨_, r', hr', hle⟩ := hrun.preserve
    (fun u => BackoffBelow u ∧ ∃ r', u.backoff input.telegramChatId = some r' ∧ r ≤ r')
    (fun _ _ _ ⟨hb, _, hr', hle⟩ hu =>
      ⟨hb.step hu, (backoff_mono_step hb hu hr').imp fun _ h => ⟨h.1, le_trans hle h.2⟩⟩)
    ⟨hs.invariant BackoffBelow BackoffBelow.init (fun _ _ _ hb h => hb.step h), r, hr, le_refl r⟩
  simp only [step] at hstart
  split at hstart
  · cases hstart
    simp [startPc_of_backedOff hr' (by omega : t.now < r')]
  · cases hstart

end

def supergroupPrompt : TopicInput := ⟨"c", .supergroup, utf16 "swap TON", none, none⟩

def stickerFailureRun : List Action :=
  [.start 0 supergroupPrompt, .suggest 0 ⟨none, none⟩, .stickers 0 none]

theorem sticker_failure_blocks_next_call :
    ∃ s t', Reachable Sys.init (step asciiUnicodeData true) s ∧
      s.backoff supergroupPrompt.telegramChatId = some TOPIC_CREATE_RETRY_DELAY_MS ∧
      Reaches (step asciiUnicodeData true) s s ∧ s.now < TOPIC_CREATE_RETRY_DELAY_MS ∧
      step asciiUnicodeData true s (.start 1 supergroupPrompt) = some t' ∧
      (t'.procs 1 = .call supergroupPrompt (.returned (keepThread supergroupPrompt)) ∧
        t'.writes = s.writes) := by
  obtain ⟨s, hs, hv⟩ := exists_reachable_of_run_view Sys.init (step asciiUnicodeData true)
    (fun s => (s.backoff supergroupPrompt.telegramChatId, s.now, s.procs 1)) stickerFailureRun
    (v := (some TOPIC_CREATE_RETRY_DELAY_MS, 0, .idle)) (by decide)
  simp only [Prod.mk.injEq] at hv
  obtain ⟨hb, hn, hp⟩ := hv
  have hnow : s.now < TOPIC_CREATE_RETRY_DELAY_MS := by rw [hn]; decide
  have hstart : step asciiUnicodeData true s (.start 1 supergroupPrompt) =
      some (s.setProc 1 (.call supergroupPrompt (startPc true s supergroupPrompt))) := by
    simp only [step, hp]
  exact ⟨s, _, hs, hb, .refl s, hnow, hstart,
    backed_off_call_writes_nothing hs hb (.refl s) hnow hstart⟩

/-! ## Threads, names and created topics -/

/-- What a call's state keeps of its input: a suggestion it carries has a title of the right
shape, a new topic is asked for only by a call outside a thread, and a returned call in a
thread keeps it and creates nothing. -/
def CallOk (input : TopicInput) : TopicPc → Prop
  | .topicsMode => True
  | .suggesting => True
  | .stickers suggestion => TitleShape suggestion.title
  | .editing suggestion _ => TitleShape suggestion.title
  | .creating suggestion _ => input.existingMessageThreadId = none ∧ TitleShape suggestion.title
  | .noticing _ _ _ => input.existingMessageThreadId = none
  | .returned result => ∀ n, input.existingMessageThreadId = some n →
      result.messageThreadId = some n ∧ result.created = false

/-- A call that awaits a new topic, or the notice in it, has asked Telegram for them. -/
def Logged (writes : List TopicWrite) (input : TopicInput) : TopicPc → Prop
  | .creating suggestion _ => ∃ icon, .create input.telegramChatId suggestion.title icon ∈ writes
  | .noticing suggestion selectedEmoji id =>
    (∃ icon, .create input.telegramChatId suggestion.title icon ∈ writes) ∧
      .notice input.telegramChatId id (createdNotice suggestion selectedEmoji) ∈ writes
  | _ => True

/-- A topic name sent to Telegram has the shape of a title. -/
def WriteOk : TopicWrite → Prop
  | .edit _ _ name _ => TitleShape name
  | .create _ name _ => TitleShape name
  | .notice _ _ _ => True

structure TopicInv (s : Sys) : Prop where
  backoff : BackoffBelow s
  calls : ∀ p input pc, s.procs p = .call input pc → CallOk input pc ∧ Logged s.writes input pc
  writes : ∀ w ∈ s.writes, WriteOk w

theorem Logged.append {writes : List TopicWrite} {input : TopicInput} {pc : TopicPc}
    (h : Logged writes input pc) (more : List TopicWrite) : Logged (writes ++ more) input pc := by
  cases pc with
  | creating => obtain ⟨icon, h⟩ := h; exact ⟨icon, List.mem_append_left _ h⟩
  | noticing =>
    obtain ⟨⟨icon, h1⟩, h2⟩ := h
    exact ⟨⟨icon, List.mem_append_left _ h1⟩, List.mem_append_left _ h2⟩
  | _ => trivial

theorem TopicInv.init : TopicInv Sys.init :=
  ⟨BackoffBelow.init, (fun _ _ _ h => by cases h), (fun _ h => by cases h)⟩

section
variable {ucd : UnicodeData} {s : Sys} {p : Nat} {input : TopicInput} {pc : TopicPc}
  {suggestion : TopicSuggestion}

theorem TopicInv.setProc (hi : TopicInv s) (hx : CallOk input pc) (hl : Logged s.writes input pc) :
    TopicInv (s.setProc p (.call input pc)) := by
  refine ⟨hi.backoff, fun q i c hq => ?_, hi.writes⟩
  simp only [Sys.setProc_procs, Sys.setProc_writes] at hq ⊢
  split_ifs at hq
  · cases hq
    exact ⟨hx, hl⟩
  · exact hi.calls q i c hq

theorem TopicInv.write (hi : TopicInv s) {w : TopicWrite} (hw : WriteOk w) :
    TopicInv { s with writes := s.writes ++ [w] } := by
  refine ⟨hi.backoff, fun q i c hq => ?_, fun w' hw' => ?_⟩
  · obtain ⟨h1, h2⟩ := hi.calls q i c hq
    exact ⟨h1, h2.append _⟩
  · rcases List.mem_append.mp hw' with hw' | hw'
    · exact hi.writes w' hw'
    · rw [List.mem_singleton.mp hw']
      exact hw

theorem callOk_keepThread (input : TopicInput) : CallOk input (.returned (keepThread input)) :=
  fun _ h => ⟨h, rfl⟩

theorem TopicInv.backOff (hi : TopicInv s) : TopicInv (backOff s p input) := by
  have h := hi.setProc (p := p) (callOk_keepThread input) trivial
  refine ⟨fun c r hr => ?_, h.calls, h.writes⟩
  simp only [backOff_backoff, backOff_now, Sys.backedOff] at hr ⊢
  split_ifs at hr
  · cases hr
    exact le_refl _
  · exact hi.backoff c r hr

theorem TopicInv.issueWrite (hi : TopicInv s) (hsug : TitleShape suggestion.title)
    (emojiMap : EmojiMap) : TopicInv (issueWrite ucd s p input suggestion emojiMap) := by
  unfold telegram.issueWrite
  split
  · exact (hi.write (w := .edit _ _ _ _) hsug).setProc hsug trivial
  · rename_i hnone
    exact (hi.write (w := .create _ _ _) hsug).setProc ⟨hnone, hsug⟩
      ⟨_, List.mem_append_right _ (List.mem_singleton_self _)⟩

theorem TopicInv.suggestNext (hi : TopicInv s) (hsug : TitleShape suggestion.title) :
    TopicInv (suggestNext ucd s p input suggestion) := by
  unfold telegram.suggestNext
  split
  · split_ifs
    exacts [hi.issueWrite hsug _, hi.setProc hsug trivial]
  · exact hi.setProc hsug trivial

theorem TopicInv.stickersNext (hi : TopicInv s) (hsug : TitleShape suggestion.title)
    (answer : Option (List Sticker)) : TopicInv (stickersNext ucd s p input suggestion answer) := by
  cases answer with
  | none => exact hi.backOff
  | some stickers =>
    unfold telegram.stickersNext
    exact TopicInv.issueWrite (⟨hi.backoff, hi.calls, hi.writes⟩ : TopicInv
      { s with forumIcons := some (s.now + FORUM_ICON_CACHE_TTL_MS, emojiMapOfStickers ucd stickers) })
      hsug _

end

theorem startPc_cases (enabled : Bool) (s : Sys) (input : TopicInput) :
    startPc enabled s input = .returned (keepThread input) ∨ startPc enabled s input = .topicsMode ∨
      startPc enabled s input = .suggesting := by
  unfold startPc
  split_ifs <;> (try split) <;> simp

theorem TopicInv.step {ucd : UnicodeData} {enabled : Bool} {s s' : Sys} {a : Action}
    (hi : TopicInv s) (h : step ucd enabled s a = some s') : TopicInv s' := by
  cases a with
  | start p input =>
    simp only [telegram.step] at h
    split at h
    · cases h
      rcases startPc_cases enabled s input with hpc | hpc | hpc <;> rw [hpc]
      exacts [hi.setProc (callOk_keepThread input) trivial, hi.setProc trivial trivial,
        hi.setProc trivial trivial]
    · cases h
  | topicsMode p supported =>
    simp only [telegram.step] at h
    split at h
    · cases h
      split_ifs
      exacts [hi.setProc trivial trivial, hi.setProc (callOk_keepThread _) trivial]
    · cases h
  | suggest p answers =>
    simp only [telegram.step] at h
    split at h
    · cases h
      exact hi.suggestNext (suggestTopic_shape ucd _ answers)
    · cases h
  | stickers p answer =>
    simp only [telegram.step] at h
    split at h
    · rename_i input suggestion hp
      cases h
      exact hi.stickersNext (hi.calls p input _ hp).1 answer
    · cases h
  | edited p ok =>
    simp only [telegram.step] at h
    split at h
    · split_ifs at h <;> cases h
      exacts [hi.setProc (fun _ hn => ⟨hn, rfl⟩) trivial, hi.backOff]
    · cases h
  | created p threadId =>
    simp only [telegram.step] at h
    split at h
    · rename_i input suggestion selectedEmoji id hp
      cases h
      obtain ⟨⟨hnone, -⟩, icon, hcreate⟩ := hi.calls p input _ hp
      exact (hi.write (w := .notice _ _ _) trivial).setProc hnone
        ⟨⟨icon, List.mem_append_left _ hcreate⟩, List.mem_append_right _ (List.mem_singleton_self _)⟩
    · cases h
      exact hi.backOff
    · cases h
  | noticed p ok =>
    simp only [telegram.step] at h
    split at h
    · rename_i input suggestion selectedEmoji id hp
      have hnone := (hi.calls p input _ hp).1
      split_ifs at h <;> cases h
      exacts [hi.setProc (fun _ hn => absurd (hnone ▸ hn) (by simp)) trivial, hi.backOff]
    · cases h
  | tick ms =>
    cases h
    refine ⟨fun c r hr => ?_, hi.calls, hi.writes⟩
    have := hi.backoff c r hr
    simp only
    omega

/-- Over every run: every name a call gives a topic is trimmed and 1 to
`MAX_TOPIC_TITLE_LENGTH` code units long, and a call that came in a thread returns in that
thread and creates no topic. -/
theorem topic_calls_keep_threads_and_names {ucd : UnicodeData} {enabled : Bool} {s : Sys}
    (h : Reachable Sys.init (step ucd enabled) s) :
    (∀ chat threadId name icon, TopicWrite.edit chat threadId name icon ∈ s.writes →
      TitleShape name) ∧
    (∀ chat name icon, TopicWrite.create chat name icon ∈ s.writes → TitleShape name) ∧
    ∀ p input result n, s.procs p = .call input (.returned result) →
      input.existingMessageThreadId = some n → result.messageThreadId = some n ∧ result.created = false := by
  have hi := h.invariant TopicInv TopicInv.init fun _ _ _ hi hs => hi.step hs
  exact ⟨fun _ _ _ _ hw => hi.writes _ hw, fun _ _ _ hw => hi.writes _ hw,
    fun p input _ _ hp => (hi.calls p input _ hp).1 _⟩

def retitlePrompt : TopicInput := ⟨"c", .private, utf16 "swap TON", some 5, some true⟩

def retitleRun : List Action :=
  [.start 0 retitlePrompt, .topicsMode 0 true,
    .suggest 0 ⟨some (utf16 "Swap quote", utf16 "📈"), none⟩, .stickers 0 (some []), .edited 0 true]

theorem retitle_run_keeps_thread_and_name :
    ∃ s, Reachable Sys.init (step asciiUnicodeData true) s ∧
      s.writes = [.edit "c" 5 (utf16 "Swap quote") none] ∧
      ((∀ chat threadId name icon, TopicWrite.edit chat threadId name icon ∈ s.writes →
        TitleShape name) ∧
      (∀ chat name icon, TopicWrite.create chat name icon ∈ s.writes → TitleShape name) ∧
      ∀ p input result n, s.procs p = .call input (.returned result) →
        input.existingMessageThreadId = some n →
          result.messageThreadId = some n ∧ result.created = false) := by
  obtain ⟨s, hs, hv⟩ := exists_reachable_of_run_view Sys.init (step asciiUnicodeData true)
    Sys.writes retitleRun (v := [.edit "c" 5 (utf16 "Swap quote") none]) (by decide)
  exact ⟨s, hs, hv, topic_calls_keep_threads_and_names hs⟩

/-- When the notice into a new topic fails, the topic has been asked for and the notice sent,
yet the call returns as if no topic were made, with no thread, and backs the chat off. -/
theorem failed_notice_leaves_unreported_topic {ucd : UnicodeData} {enabled : Bool} {s : Sys}
    (h : Reachable Sys.init (step ucd enabled) s) {p : Nat} {input : TopicInput}
    {suggestion : TopicSuggestion} {selectedEmoji : List UInt16} {id : Nat}
    (hp : s.procs p = .call input (.noticing suggestion selectedEmoji id)) :
    ∃ s', step ucd enabled s (.noticed p false) = some s' ∧
      (∃ icon, TopicWrite.create input.telegramChatId suggestion.title icon ∈ s'.writes) ∧
      TopicWrite.notice input.telegramChatId id (createdNotice suggestion selectedEmoji) ∈ s'.writes ∧
      s'.procs p = .call input (.returned ⟨none, false, none, none, none, none⟩) ∧
      s'.backoff input.telegramChatId = some (s.now + TOPIC_CREATE_RETRY_DELAY_MS) := by
  have hi := h.invariant TopicInv TopicInv.init fun _ _ _ hi hs => hi.step hs
  obtain ⟨hnone, hcreate, hnotice⟩ := hi.calls p input _ hp
  have hnone : input.existingMessageThreadId = none := hnone
  refine ⟨backOff s p input, by simp [telegram.step, hp], hcreate, hnotice, ?_, ?_⟩
  · simp [keepThread, hnone]
  · simp [Sys.backedOff]

def createRun : List Action :=
  [.start 0 supergroupPrompt, .suggest 0 ⟨some (utf16 "Swap quote", utf16 "📈"), none⟩,
    .stickers 0 (some []), .created 0 (some 7)]

theorem created_topic_notice_pending :
    ∃ s, Reachable Sys.init (step asciiUnicodeData true) s ∧
      s.procs 0 = .call supergroupPrompt
        (.noticing ⟨utf16 "Swap quote", utf16 "📈", .llm⟩ DEFAULT_EMOJI 7) ∧
      ∃ s', step asciiUnicodeData true s (.noticed 0 false) = some s' ∧
        (∃ icon, TopicWrite.create supergroupPrompt.telegramChatId (utf16 "Swap quote") icon ∈
          s'.writes) ∧
        TopicWrite.notice supergroupPrompt.telegramChatId 7
          (createdNotice ⟨utf16 "Swap quote", utf16 "📈", .llm⟩ DEFAULT_EMOJI) ∈ s'.writes ∧
        s'.procs 0 = .call supergroupPrompt (.returned ⟨none, false, none, none, none, none⟩) ∧
        s'.backoff supergroupPrompt.telegramChatId = some (s.now + TOPIC_CREATE_RETRY_DELAY_MS) := by
  obtain ⟨s, hs, hv⟩ := exists_reachable_of_run_view Sys.init (step asciiUnicodeData true)
    (fun s => s.procs 0) createRun
    (v := .call supergroupPrompt (.noticing ⟨utf16 "Swap quote", utf16 "📈", .llm⟩ DEFAULT_EMOJI 7))
    (by decide)
  exact ⟨s, hs, hv, failed_notice_leaves_unreported_topic hs hv⟩

end ton_agent_bot.telegram
