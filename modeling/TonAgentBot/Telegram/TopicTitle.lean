-- The title and emoji telegram/topics gives the topic of a prompt: the naming model's
-- answer when it matches the schema and is not generic, else a title made of the prompt's
-- first words. Every title is trimmed and 1 to MAX_TOPIC_TITLE_LENGTH code units long,
-- whatever the prompt and the answer; the cut of a long title counts code units, so it can
-- keep the first half of a surrogate pair.
import TonAgentBot.ResponsePolicy

namespace ton_agent_bot.telegram

open js

/-! ## Constants -/

def MAX_TOPIC_TITLE_LENGTH : Nat := 64

def DEFAULT_EMOJI : List UInt16 := utf16 "💬"

def TOPIC_EMOJI_CHOICES : List (List UInt16) :=
  [utf16 "💬", utf16 "🤖", utf16 "📈", utf16 "💸", utf16 "🧪", utf16 "💡", utf16 "📚", utf16 "🔎",
    utf16 "✅", utf16 "💰"]

/-- The texts of `GENERIC_TOPIC_TITLE_PATTERNS`, each matched whole and with flag `i`. -/
def GENERIC_TOPIC_TITLE_PATTERNS : List (List UInt16) :=
  [utf16 "new chat", utf16 "new topic", utf16 "chat", utf16 "topic", utf16 "discussion",
    utf16 "ton discussion", utf16 "general"]

def GREETING_WORDS : List (List UInt16) :=
  [utf16 "hi", utf16 "hello", utf16 "hey", utf16 "yo", utf16 "sup", utf16 "buddy", utf16 "friend",
    utf16 "there", utf16 "gm", utf16 "gn", utf16 "morning", utf16 "afternoon", utf16 "evening"]

/-- What the topic code reads of the Unicode tables: whether a code point is a letter or a
number (`\p{L}`, `\p{N}`), and NFKC normalization (`normalize("NFKC")`). Both are left open,
so every law here holds whatever the tables say. -/
structure UnicodeData where
  isLetterOrNumber : Nat → Bool
  nfkc : List UInt16 → List UInt16

/-- Tables for concrete runs: the ASCII letters and digits, and no normalization. -/
def asciiUnicodeData : UnicodeData :=
  ⟨fun n => (48 ≤ n ∧ n ≤ 57) ∨ (65 ≤ n ∧ n ≤ 90) ∨ (97 ≤ n ∧ n ≤ 122), id⟩

/-! ## Whitespace and titles -/

/-- `/[\r\n\t]/g`. -/
def lineBreakOrTab : Matcher Unit
  | _, u :: _ => if u = 13 ∨ u = 10 ∨ u = 9 then some (0, ()) else none
  | _, [] => none

/-- `normalizeWhitespace` of telegram/topics: whitespace runs become one space, then line
breaks and tabs do, then the text is trimmed. -/
def normalizeWhitespace (value : List UInt16) : List UInt16 :=
  trim (replaceAll lineBreakOrTab (fun _ => utf16 " ")
    (replaceAll agent.whitespaceRun (fun _ => utf16 " ") value))

def sanitizeTitle (value : List UInt16) : List UInt16 :=
  let normalized := normalizeWhitespace value
  if normalized = [] then utf16 "TON Discussion"
  else if normalized.length ≤ MAX_TOPIC_TITLE_LENGTH then normalized
  else trimEnd (js.slice normalized 0 (MAX_TOPIC_TITLE_LENGTH - 1))

/-- `/[^a-z\s]/g`: one code unit that is neither a small ASCII letter nor whitespace. -/
def nonLetterOrSpace : Matcher Unit
  | _, u :: _ => if (97 ≤ u.toNat ∧ u.toNat ≤ 122) ∨ isWs u = true then none else some (0, ())
  | _, [] => none

/-- The loop of `isCasualGreetingPrompt` over the words: the count of greeting words, or
`none` at the first word that is not one. -/
def greetingWordCount : List (List UInt16) → Nat → Option Nat
  | [], n => some n
  | word :: words, n => if word ∈ GREETING_WORDS then greetingWordCount words (n + 1) else none

def isCasualGreetingPrompt (prompt : List UInt16) : Bool :=
  let normalized := trim (replaceAll nonLetterOrSpace (fun _ => utf16 " ")
    (toLowerCase (normalizeWhitespace prompt)))
  if normalized = [] then false
  else
    let words := (normalized.splitOn 32).filter fun word => !word.isEmpty
    if words.length = 0 ∨ 5 < words.length then false
    else match greetingWordCount words 0 with
      | some n => 0 < n
      | none => false

/-! ## Code points -/

def isHighSurrogate (u : UInt16) : Bool := 0xD800 ≤ u.toNat && u.toNat ≤ 0xDBFF

def isLowSurrogate (u : UInt16) : Bool := 0xDC00 ≤ u.toNat && u.toNat ≤ 0xDFFF

/-- The code points of a text as a regular expression with flag `u` reads it: a surrogate
pair is one, and any other unit, a lone surrogate too, is one. -/
def codePoints : List UInt16 → List (List UInt16)
  | [] => []
  | [u] => [[u]]
  | u :: v :: r =>
    if isHighSurrogate u && isLowSurrogate v then [u, v] :: codePoints r
    else [u] :: codePoints (v :: r)

def codePointValue : List UInt16 → Nat
  | [u] => u.toNat
  | [h, l] => 0x10000 + (h.toNat - 0xD800) * 0x400 + (l.toNat - 0xDC00)
  | _ => 0

/-- `replace(/^[^\p{L}\p{N}]+/u, "")`. -/
def dropLeadingNonLetters (ucd : UnicodeData) (s : List UInt16) : List UInt16 :=
  ((codePoints s).dropWhile fun c => !ucd.isLetterOrNumber (codePointValue c)).flatten

/-- The units that `[\s:;,.!?-]` adds to the letters and numbers a title keeps. -/
def TITLE_PUNCTUATION : List UInt16 := utf16 ":;,.!?-"

def keepsTitleCodePoint (ucd : UnicodeData) (c : List UInt16) : Bool :=
  ucd.isLetterOrNumber (codePointValue c) ||
    match c with
    | [u] => isWs u || u ∈ TITLE_PUNCTUATION
    | _ => false

/-- `replace(/[^\p{L}\p{N}\s:;,.!?-]+/gu, "")`. -/
def dropOtherCodePoints (ucd : UnicodeData) (s : List UInt16) : List UInt16 :=
  ((codePoints s).filter (keepsTitleCodePoint ucd)).flatten

def fallbackTitleFromPrompt (ucd : UnicodeData) (prompt : List UInt16) : List UInt16 :=
  if isCasualGreetingPrompt prompt then utf16 "General Chat"
  else
    let normalized :=
      dropOtherCodePoints ucd (dropLeadingNonLetters ucd (normalizeWhitespace prompt))
    if normalized = [] then utf16 "TON Discussion"
    else
      let words := ((normalized.splitOn 32).filter fun word => !word.isEmpty).take 7
      let candidate := [32].intercalate words
      let title := if 0 < candidate.length then candidate else utf16 "TON Discussion"
      sanitizeTitle title

/-! ## Emoji -/

/-- The tests of `fallbackEmojiFromPrompt` in their order, each with its emoji: a test holds
when the lowered prompt contains one of its words (`analy[sz]e` is two of them). -/
def EMOJI_RULES : List (List (List UInt16) × List UInt16) :=
  [([utf16 "swap", utf16 "trade", utf16 "dex", utf16 "stonfi", utf16 "price", utf16 "rate"],
      utf16 "📈"),
    ([utf16 "wallet", utf16 "connect", utf16 "address", utf16 "send", utf16 "transfer"], utf16 "💸"),
    ([utf16 "security", utf16 "safe", utf16 "secure", utf16 "seed", utf16 "mnemonic",
      utf16 "private key", utf16 "proof"], utf16 "✅"),
    ([utf16 "debug", utf16 "error", utf16 "test", utf16 "qa", utf16 "bug"], utf16 "🧪"),
    ([utf16 "nft", utf16 "jetton", utf16 "token", utf16 "asset"], utf16 "💰"),
    ([utf16 "learn", utf16 "guide", utf16 "how", utf16 "explain", utf16 "what is"], utf16 "📚"),
    ([utf16 "analyze", utf16 "analyse", utf16 "inspect", utf16 "trace", utf16 "search",
      utf16 "find"], utf16 "🔎")]

def fallbackEmojiFromPrompt (prompt : List UInt16) : List UInt16 :=
  let lowered := toLowerCase prompt
  match EMOJI_RULES.find? (fun rule => rule.1.any (includes lowered)) with
  | some rule => rule.2
  | none => DEFAULT_EMOJI

/-- `/\uFE0F/g`: the emoji variation selector. -/
def variationSelector : Matcher Unit
  | _, u :: _ => if u = 0xFE0F then some (0, ()) else none
  | _, [] => none

def canonicalizeEmoji (ucd : UnicodeData) (emoji : List UInt16) : List UInt16 :=
  trim (replaceAll variationSelector (fun _ => []) (ucd.nfkc emoji))

def toSupportedEmoji (ucd : UnicodeData) (emojiCandidate prompt : List UInt16) : List UInt16 :=
  let normalized := canonicalizeEmoji ucd emojiCandidate
  match TOPIC_EMOJI_CHOICES.find? (fun item => canonicalizeEmoji ucd item = normalized) with
  | some matched => matched
  | none => fallbackEmojiFromPrompt prompt

/-! ## The suggestion -/

def isGenericTopicTitle (title : List UInt16) : Bool :=
  let normalized := toLowerCase (normalizeWhitespace title)
  GENERIC_TOPIC_TITLE_PATTERNS.any fun pattern => pattern.map asciiUpper = normalized.map asciiUpper

/-- `topicNameSchema`: a title of 3 to 64 code units and an emoji of 1 to 8. -/
def topicNameSchema (answer : List UInt16 × List UInt16) : Bool :=
  3 ≤ answer.1.length && answer.1.length ≤ MAX_TOPIC_TITLE_LENGTH && 1 ≤ answer.2.length &&
    answer.2.length ≤ 8

inductive TopicSource
  | llm
  | heuristic
  deriving DecidableEq, Repr

structure TopicSuggestion where
  title : List UInt16
  emoji : List UInt16
  source : TopicSource
  deriving DecidableEq, Repr

/-- What the naming model answers: the title and emoji of the structured call, and those of
the JSON object in the text of the fallback call; `none` where the call throws or its text
holds no JSON object with two strings. -/
structure TopicModelAnswers where
  structured : Option (List UInt16 × List UInt16)
  textFallback : Option (List UInt16 × List UInt16)
  deriving DecidableEq, Repr

/-- `suggestTopicWithLlm` and `suggestTopicWithLlmTextFallback` once the model answered: an
answer that does not match `topicNameSchema` throws. -/
def suggestTopicFromAnswer (ucd : UnicodeData) (prompt : List UInt16) :
    Option (List UInt16 × List UInt16) → Option TopicSuggestion
  | some answer =>
    if topicNameSchema answer then
      some ⟨sanitizeTitle answer.1, toSupportedEmoji ucd answer.2 prompt, .llm⟩
    else none
  | none => none

def suggestTopic (ucd : UnicodeData) (prompt : List UInt16) (answers : TopicModelAnswers) :
    TopicSuggestion :=
  let normalizedPrompt := normalizeWhitespace prompt
  let heuristic : TopicSuggestion :=
    ⟨fallbackTitleFromPrompt ucd normalizedPrompt, fallbackEmojiFromPrompt normalizedPrompt,
      .heuristic⟩
  match suggestTopicFromAnswer ucd normalizedPrompt answers.structured with
  | some llm => if isGenericTopicTitle llm.title then heuristic else llm
  | none =>
    match suggestTopicFromAnswer ucd normalizedPrompt answers.textFallback with
    | some llmFallback => if isGenericTopicTitle llmFallback.title then heuristic else llmFallback
    | none => heuristic

/-! ## Every title is trimmed and short -/

/-- What every topic title is: not empty, trimmed, and at most `MAX_TOPIC_TITLE_LENGTH` code
units long. -/
structure TitleShape (title : List UInt16) : Prop where
  ne_nil : title ≠ []
  trimmed : trim title = title
  length_le : title.length ≤ MAX_TOPIC_TITLE_LENGTH

theorem titleShape_tonDiscussion : TitleShape (utf16 "TON Discussion") :=
  ⟨by decide, by decide, by decide⟩

theorem isWs_of_isHighSurrogate {u : UInt16} (h : isHighSurrogate u = true) : isWs u = false := by
  simp only [isHighSurrogate, Bool.and_eq_true, decide_eq_true_eq] at h
  simp only [isWs, isWhitespaceCode, Bool.or_eq_false_iff, decide_eq_false_iff_not,
    Bool.and_eq_false_iff]
  omega

theorem sanitizeTitle_of_long {value : List UInt16}
    (h : MAX_TOPIC_TITLE_LENGTH < (normalizeWhitespace value).length) :
    sanitizeTitle value = trimEnd ((normalizeWhitespace value).take (MAX_TOPIC_TITLE_LENGTH - 1)) := by
  have hne : normalizeWhitespace value ≠ [] := List.ne_nil_of_length_pos (by omega)
  simp only [sanitizeTitle, if_neg hne, if_neg (Nat.not_le.mpr h), js.slice, List.drop_zero,
    Nat.sub_zero]

theorem sanitizeTitle_shape (value : List UInt16) : TitleShape (sanitizeTitle value) := by
  by_cases hlong : MAX_TOPIC_TITLE_LENGTH < (normalizeWhitespace value).length
  · rw [sanitizeTitle_of_long hlong]
    obtain ⟨u, r, hur⟩ := List.exists_cons_of_ne_nil
      (List.ne_nil_of_length_pos (by omega) : normalizeWhitespace value ≠ [])
    have hu : isWs u = false := isWs_head_trim (s := replaceAll lineBreakOrTab (fun _ => utf16 " ")
      (replaceAll agent.whitespaceRun (fun _ => utf16 " ") value)) (by rw [← normalizeWhitespace, hur]; rfl)
    rw [hur, List.take_cons (by decide)]
    obtain ⟨q, hq⟩ := trimEnd_cons hu (r.take (MAX_TOPIC_TITLE_LENGTH - 1 - 1))
    refine ⟨by rw [← hq]; simp, trim_trimEnd fun v hv => by simp at hv; exact hv ▸ hu, ?_⟩
    calc (trimEnd (u :: r.take (MAX_TOPIC_TITLE_LENGTH - 1 - 1))).length
        ≤ (u :: r.take (MAX_TOPIC_TITLE_LENGTH - 1 - 1)).length := trimEnd_prefix.length_le
      _ ≤ MAX_TOPIC_TITLE_LENGTH := by
        simp only [List.length_cons, List.length_take, MAX_TOPIC_TITLE_LENGTH]; omega
  · unfold sanitizeTitle
    dsimp only
    split_ifs with hnil hlen
    · exact titleShape_tonDiscussion
    · exact ⟨hnil, trim_trim, hlen⟩
    · exact absurd (Nat.lt_of_not_le hlen) hlong

theorem length_normalizeWhitespace_le (value : List UInt16) :
    (normalizeWhitespace value).length ≤ value.length := by
  have hspace : (utf16 " ").length = 1 := rfl
  have hrun := length_replaceFrom_le (m := agent.whitespaceRun) (f := fun _ => utf16 " ")
    (fun _ u us n _ h => by
      simp only [agent.whitespaceRun] at h
      split_ifs at h
      cases h
      exact ⟨(List.takeWhile_sublist _).length_le, by beta_reduce; omega⟩) (k := 0) (p := none)
    (s := value)
  have hbreak := length_replaceFrom_le (m := lineBreakOrTab) (f := fun _ => utf16 " ")
    (fun _ u us n _ h => by
      simp only [lineBreakOrTab] at h
      split_ifs at h
      cases h
      exact ⟨Nat.zero_le _, by beta_reduce; omega⟩) (k := 0) (p := none)
    (s := replaceAll agent.whitespaceRun (fun _ => utf16 " ") value)
  calc (normalizeWhitespace value).length
      ≤ (replaceAll lineBreakOrTab (fun _ => utf16 " ")
          (replaceAll agent.whitespaceRun (fun _ => utf16 " ") value)).length := length_trim_le
    _ ≤ (replaceAll agent.whitespaceRun (fun _ => utf16 " ") value).length := hbreak
    _ ≤ value.length := hrun

theorem sanitizeTitle_of_short {value : List UInt16} (h : value.length ≤ MAX_TOPIC_TITLE_LENGTH) :
    sanitizeTitle value =
      if normalizeWhitespace value = [] then utf16 "TON Discussion" else normalizeWhitespace value := by
  have := length_normalizeWhitespace_le value
  unfold sanitizeTitle
  dsimp only
  split_ifs
  · rfl
  · rfl
  · omega

/-- The naming model's title is never cut: `topicNameSchema` bounds it, so the suggestion
keeps it with its whitespace normalized, or is `TON Discussion` when nothing else is left. -/
theorem model_title_is_not_cut {ucd : UnicodeData} {prompt : List UInt16}
    {answer : List UInt16 × List UInt16} {suggestion : TopicSuggestion}
    (h : suggestTopicFromAnswer ucd prompt (some answer) = some suggestion) :
    suggestion.title = if normalizeWhitespace answer.1 = [] then utf16 "TON Discussion"
      else normalizeWhitespace answer.1 := by
  simp only [suggestTopicFromAnswer] at h
  split_ifs at h with hschema
  rw [← Option.some.inj h]
  simp only [topicNameSchema, Bool.and_eq_true, decide_eq_true_eq] at hschema
  dsimp only
  exact sanitizeTitle_of_short hschema.1.1.2

theorem schema_title_kept :
    suggestTopicFromAnswer asciiUnicodeData (utf16 "swap TON") (some (utf16 "Swap  quote", utf16 "💬")) =
        some ⟨utf16 "Swap quote", utf16 "💬", .llm⟩ ∧
      (⟨utf16 "Swap quote", utf16 "💬", .llm⟩ : TopicSuggestion).title =
        if normalizeWhitespace (utf16 "Swap  quote") = [] then utf16 "TON Discussion"
        else normalizeWhitespace (utf16 "Swap  quote") :=
  have h : suggestTopicFromAnswer asciiUnicodeData (utf16 "swap TON")
      (some (utf16 "Swap  quote", utf16 "💬")) = some ⟨utf16 "Swap quote", utf16 "💬", .llm⟩ := by
    decide
  have hkept := model_title_is_not_cut h
  ⟨h, hkept⟩

theorem fallbackTitleFromPrompt_shape (ucd : UnicodeData) (prompt : List UInt16) :
    TitleShape (fallbackTitleFromPrompt ucd prompt) := by
  unfold fallbackTitleFromPrompt
  dsimp only
  split_ifs
  · exact ⟨by decide, by decide, by decide⟩
  · exact titleShape_tonDiscussion
  all_goals exact sanitizeTitle_shape _

theorem suggestTopicFromAnswer_shape {ucd : UnicodeData} {prompt : List UInt16}
    {answer : Option (List UInt16 × List UInt16)} {suggestion : TopicSuggestion}
    (h : suggestTopicFromAnswer ucd prompt answer = some suggestion) : TitleShape suggestion.title := by
  cases answer with
  | none => cases h
  | some answer =>
    simp only [suggestTopicFromAnswer] at h
    split_ifs at h
    -- the title's projection is reduced first: unification would unfold `sanitizeTitle`
    rw [← Option.some.inj h]
    dsimp only
    exact sanitizeTitle_shape answer.1

theorem titleShape_pick {llm heuristic : TopicSuggestion} (hl : TitleShape llm.title)
    (hh : TitleShape heuristic.title) :
    TitleShape (if isGenericTopicTitle llm.title = true then heuristic else llm).title := by
  split_ifs
  exacts [hh, hl]

theorem suggestTopic_shape (ucd : UnicodeData) (prompt : List UInt16) (answers : TopicModelAnswers) :
    TitleShape (suggestTopic ucd prompt answers).title := by
  -- the projection of the heuristic is reduced by hand: unifying it with the title would
  -- unfold `fallbackTitleFromPrompt` first
  have hheuristic : TitleShape (⟨fallbackTitleFromPrompt ucd (normalizeWhitespace prompt),
      fallbackEmojiFromPrompt (normalizeWhitespace prompt), .heuristic⟩ : TopicSuggestion).title := by
    dsimp only
    exact fallbackTitleFromPrompt_shape ucd _
  unfold suggestTopic
  dsimp only
  cases h1 : suggestTopicFromAnswer ucd (normalizeWhitespace prompt) answers.structured with
  | some llm => exact titleShape_pick (suggestTopicFromAnswer_shape h1) hheuristic
  | none =>
    cases h2 : suggestTopicFromAnswer ucd (normalizeWhitespace prompt) answers.textFallback with
    | some llmFallback => exact titleShape_pick (suggestTopicFromAnswer_shape h2) hheuristic
    | none => exact hheuristic

/-- The cut of a long title counts code units: when the last unit it keeps opens a surrogate
pair, the title ends in that half of the pair. -/
theorem sanitizeTitle_ends_in_high_surrogate (value : List UInt16) {u : UInt16}
    (hlong : MAX_TOPIC_TITLE_LENGTH < (normalizeWhitespace value).length)
    (hu : (normalizeWhitespace value)[MAX_TOPIC_TITLE_LENGTH - 2]? = some u)
    (hhigh : isHighSurrogate u = true) :
    sanitizeTitle value = (normalizeWhitespace value).take (MAX_TOPIC_TITLE_LENGTH - 1) ∧
      (sanitizeTitle value).getLast? = some u := by
  have htake : (normalizeWhitespace value).take (MAX_TOPIC_TITLE_LENGTH - 1) =
      (normalizeWhitespace value).take (MAX_TOPIC_TITLE_LENGTH - 2) ++ [u] := by
    rw [show MAX_TOPIC_TITLE_LENGTH - 1 = MAX_TOPIC_TITLE_LENGTH - 2 + 1 from rfl, List.take_succ, hu]
    rfl
  have hlast : ((normalizeWhitespace value).take (MAX_TOPIC_TITLE_LENGTH - 1)).getLast? = some u := by
    rw [htake, List.getLast?_append, List.getLast?_singleton]
    rfl
  rw [sanitizeTitle_of_long hlong, trimEnd_eq_self hlast (isWs_of_isHighSurrogate hhigh)]
  exact ⟨rfl, hlast⟩

theorem cut_title_keeps_half_pair :
    (MAX_TOPIC_TITLE_LENGTH < (normalizeWhitespace (List.replicate 62 97 ++ [0xD840, 0xDC00, 98])).length ∧
      (normalizeWhitespace (List.replicate 62 97 ++ [0xD840, 0xDC00, 98]))[MAX_TOPIC_TITLE_LENGTH - 2]? =
        some 0xD840 ∧ isHighSurrogate 0xD840 = true) ∧
    (sanitizeTitle (List.replicate 62 97 ++ [0xD840, 0xDC00, 98]) =
        (normalizeWhitespace (List.replicate 62 97 ++ [0xD840, 0xDC00, 98])).take (MAX_TOPIC_TITLE_LENGTH - 1) ∧
      (sanitizeTitle (List.replicate 62 97 ++ [0xD840, 0xDC00, 98])).getLast? = some 0xD840) :=
  have h : MAX_TOPIC_TITLE_LENGTH < (normalizeWhitespace (List.replicate 62 97 ++ [0xD840, 0xDC00, 98])).length ∧
      (normalizeWhitespace (List.replicate 62 97 ++ [0xD840, 0xDC00, 98]))[MAX_TOPIC_TITLE_LENGTH - 2]? =
        some 0xD840 ∧ isHighSurrogate 0xD840 = true := by decide
  ⟨h, sanitizeTitle_ends_in_high_surrogate _ h.1 h.2.1 h.2.2⟩

end ton_agent_bot.telegram
