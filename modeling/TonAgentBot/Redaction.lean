-- redactForLogs of security/redaction.ts, which the logger applies to every metadata value
-- it writes. A string goes through three global replaces in turn: the value of a
-- `bot_token=` parameter, the token after `Bearer`, and a run of 32 or more base64 units.
-- An object property whose key is sensitive becomes `[REDACTED]`, whatever it held.
import TonAgentBot.Js.Json
import TonAgentBot.Js.Replace

namespace ton_agent_bot.redaction

open js

/-! ## The patterns -/

def REDACTED : List UInt16 := utf16 "[REDACTED]"

def BOT_TOKEN : List UInt16 := utf16 "bot_token="

def BEARER : List UInt16 := utf16 "Bearer"

def isAsciiAlnum (u : UInt16) : Bool :=
  (48 ≤ u.toNat && u.toNat ≤ 57) || (65 ≤ u.toNat && u.toNat ≤ 90) ||
    (97 ≤ u.toNat && u.toNat ≤ 122)

/-- `[A-Za-z0-9\-_\.]`. -/
def isTokenChar (u : UInt16) : Bool :=
  isAsciiAlnum u || u.toNat = 45 || u.toNat = 95 || u.toNat = 46

/-- `[A-Za-z0-9+/]`. -/
def isBase64Char (u : UInt16) : Bool := isAsciiAlnum u || u.toNat = 43 || u.toNat = 47

/-- `/(bot_token=)([^&\s]+)/gi` at one position; its group is `bot_token=` as written. -/
def botTokenRegex : Matcher (List UInt16) := fun _ s =>
  if ciPrefix BOT_TOKEN s then
    match (s.drop 10).takeWhile fun u => u.toNat ≠ 38 && !isWs u with
    | [] => none
    | _ :: value => some (10 + value.length, s.take 10)
  else none

/-- `/(Bearer\s+)([A-Za-z0-9\-_\.]+)/gi` at one position; its group is `Bearer` and the
whitespace after it, as written. -/
def bearerRegex : Matcher (List UInt16) := fun _ s =>
  if ciPrefix BEARER s then
    let spaces := (s.drop 6).takeWhile isWs
    match spaces, (s.drop (6 + spaces.length)).takeWhile isTokenChar with
    | _ :: _, _ :: token => some (6 + spaces.length + token.length, s.take (6 + spaces.length))
    | _, _ => none
  else none

/-- `/([A-Za-z0-9+/]{32,}={0,2})/g` at one position; its group is the whole match. -/
def base64Regex : Matcher (List UInt16) := fun _ s =>
  let run := s.takeWhile isBase64Char
  let padding := ((s.drop run.length).takeWhile (·.toNat = 61)).take 2
  if 32 ≤ run.length then some (run.length + padding.length - 1, run ++ padding) else none

structure RedactionPattern where
  regex : Matcher (List UInt16)
  preservePrefix : Bool

def REDACTION_PATTERNS : List RedactionPattern :=
  [⟨botTokenRegex, true⟩, ⟨bearerRegex, true⟩, ⟨base64Regex, false⟩]

def SENSITIVE_KEYS : List (List UInt16) :=
  ["token", "apiKey", "authorization", "secret", "signature", "mnemonic", "secretKey",
    "privateKey", "proof", "payload", "ENCRYPTION_MASTER_KEY"].map utf16

/-- What the replacer of a pattern makes of a match: its first group and `[REDACTED]`, or
`[REDACTED]`. -/
def redactMatch (pattern : RedactionPattern) (group : List UInt16) : List UInt16 :=
  if pattern.preservePrefix then group ++ REDACTED else REDACTED

/-- `redactString`: the patterns' replaces, one after the other. -/
def redactString (value : List UInt16) : List UInt16 :=
  REDACTION_PATTERNS.foldl
    (fun acc pattern => replaceAll pattern.regex (redactMatch pattern) acc) value

mutual
/-- `redactUnknown`. -/
def redactUnknown : JsValue → JsValue
  | .str s => .str (redactString s)
  | .arr items => .arr (redactItems items)
  | .obj entries => .obj (redactEntries entries)
  | value => value

def redactItems : List JsValue → List JsValue
  | [] => []
  | item :: items => redactUnknown item :: redactItems items

def redactEntries : List (List UInt16 × JsValue) → List (List UInt16 × JsValue)
  | [] => []
  | (key, nested) :: entries =>
    (key, if key ∈ SENSITIVE_KEYS then .str REDACTED else redactUnknown nested) ::
      redactEntries entries
end

def redactForLogs (value : JsValue) : JsValue := redactUnknown value

example : utf16 "Bearer [REDACTED]" <:+: redactString (utf16 "Authorization: Bearer abc.def.ghi") := by
  decide

/-! ## What a logged string may hold -/

/-- What may follow `bot_token=`: nothing, `&`, whitespace, or `[REDACTED]`. -/
def SecretHidden (t : List UInt16) : Prop :=
  t = [] ∨ t.head?.any (fun u => u.toNat = 38 || isWs u) = true ∨ REDACTED <+: t

/-- A `bot_token=` at the head of `t`, in any case, is followed by no secret. -/
def TokenParamHidden (t : List UInt16) : Prop :=
  ciPrefix BOT_TOKEN t = true → SecretHidden (t.drop 10)

/-- `t` starts with `bearer` in any case, whitespace, and a unit of a token. -/
def BearerTokenAt (t : List UInt16) : Prop :=
  ∃ bearer spaces u rest, t = bearer ++ spaces ++ u :: rest ∧ bearer.length = 6 ∧
    ciPrefix BEARER bearer = true ∧ spaces ≠ [] ∧ (∀ x ∈ spaces, isWs x = true) ∧
    isTokenChar u = true

/-- `t` starts with 32 base64 units. -/
def LongRunAt (t : List UInt16) : Prop :=
  ∃ run rest, t = run ++ rest ∧ run.length = 32 ∧ ∀ u ∈ run, isBase64Char u = true

/-- A string the log may show: at no position a run of 32 base64 units, a `bot_token=`
with its value, or a `bearer` token. -/
structure LogSafe (s : List UInt16) : Prop where
  no_long_run : Everywhere (fun t => ¬ LongRunAt t) s
  token_param_hidden : Everywhere TokenParamHidden s
  no_bearer_token : Everywhere (fun t => ¬ BearerTokenAt t) s

/-! ## Units -/

section
variable {u : UInt16}

theorem asciiUpper_ws (h : isWs u = true) : asciiUpper u = u.toNat := by
  have h := isWs_toNat h
  simp only [asciiUpper]
  split_ifs <;> omega

theorem asciiUpper_of_lt (h : u.toNat < 97) : asciiUpper u = u.toNat := by
  simp only [asciiUpper]
  split_ifs <;> omega

theorem eq_of_asciiUpper_eq {n : Nat} (hn : n < 65 ∨ 90 < n) (h : asciiUpper u = n) :
    u.toNat = n := by
  simp only [asciiUpper] at h
  split_ifs at h <;> omega

theorem isTokenChar_ws (h : isWs u = true) : isTokenChar u = false := by
  have h := isWs_toNat h
  simp only [isTokenChar, isAsciiAlnum, Bool.or_eq_false_iff, Bool.and_eq_false_imp,
    decide_eq_false_iff_not, decide_eq_true_eq]
  omega

theorem isBase64Char_ws (h : isWs u = true) : isBase64Char u = false := by
  have h := isWs_toNat h
  simp only [isBase64Char, isAsciiAlnum, Bool.or_eq_false_iff, Bool.and_eq_false_imp,
    decide_eq_false_iff_not, decide_eq_true_eq]
  omega

end

/-! ## Where a pattern can start -/

theorem not_at_of_heads {P : List UInt16 → Prop} {q : UInt16 → Prop}
    (hP : ∀ s, P s → ∃ x s', s = x :: s' ∧ q x) {pre t : List UInt16} {j : Nat}
    (hpre : ∀ x ∈ pre.drop j, ¬ q x) {i : Nat} (hj : j ≤ i) (hi : i < pre.length) :
    ¬ P ((pre ++ t).drop i) := by
  intro hp
  obtain ⟨x, s', hs, hq⟩ := hP _ hp
  rw [List.drop_append_of_le_length hi.le, List.drop_eq_getElem_cons hi] at hs
  obtain ⟨rfl, -⟩ := List.cons_eq_cons.mp hs
  refine hpre _ ?_ hq
  rw [List.mem_iff_getElem]
  exact ⟨i - j, by simp; omega, by simp [Nat.add_sub_cancel' hj]⟩

theorem LongRunAt.head {t : List UInt16} (h : LongRunAt t) :
    ∃ x t', t = x :: t' ∧ isBase64Char x = true := by
  obtain ⟨run, rest, rfl, hlen, hrun⟩ := h
  match run, hlen, hrun with
  | x :: run', _, hrun => exact ⟨x, _, rfl, hrun x (List.mem_cons_self x run')⟩

theorem not_longRunAt_of_head_units {w s : List UInt16} (hw : w <+: s) (hlen : w.length ≤ 32)
    {x : UInt16} (hx : x ∈ w) (hb : isBase64Char x = false) : ¬ LongRunAt s := by
  rintro ⟨run, rest, rfl, hrun, hall⟩
  have hpre : w <+: run :=
    List.prefix_of_prefix_length_le hw (List.prefix_append run rest) (by omega)
  simp [hall x (hpre.subset hx)] at hb

/-! ## The three patterns -/

section
variable {p : Option UInt16} {t : List UInt16} {n : Nat} {g : List UInt16}

theorem botTokenRegex_hit (h : botTokenRegex p t = some (n, g)) :
    ciPrefix BOT_TOKEN t = true ∧ g = t.take 10 := by
  unfold botTokenRegex at h
  split_ifs at h with hc
  split at h
  · cases h
  · simp only [Option.some.injEq, Prod.mk.injEq] at h
    exact ⟨hc, h.2.symm⟩

theorem tokenParamHidden_of_botTokenRegex (h : botTokenRegex p t = none) :
    TokenParamHidden t := by
  intro hc
  unfold botTokenRegex at h
  rw [if_pos hc] at h
  split at h
  · rename_i hnil
    cases hd : t.drop 10 with
    | nil => exact .inl rfl
    | cons x xs =>
      rw [hd, List.takeWhile_cons] at hnil
      split_ifs at hnil with hx
      refine .inr (.inl ?_)
      simp only [Bool.and_eq_true, bne_iff_ne, ne_eq, decide_eq_true_eq, Bool.not_eq_true',
        not_and, Bool.not_eq_false] at hx
      simp only [List.head?_cons, Option.any_some, Bool.or_eq_true, decide_eq_true_eq]
      by_cases h38 : x.toNat = 38 <;> simp_all
  · cases h

theorem bearerRegex_hit (h : bearerRegex p t = some (n, g)) :
    ∃ bearer spaces, g = bearer ++ spaces ∧ g <+: t ∧ bearer.length = 6 ∧
      ciPrefix BEARER bearer = true ∧ spaces ≠ [] ∧ (∀ x ∈ spaces, isWs x = true) ∧
      ∃ u rest, t = g ++ u :: rest ∧ isWs u = false := by
  unfold bearerRegex at h
  split_ifs at h with hc
  dsimp only at h
  generalize hsp : (t.drop 6).takeWhile isWs = sp at h
  generalize htok : (t.drop (6 + sp.length)).takeWhile isTokenChar = tok at h
  cases sp with
  | nil => cases h
  | cons sp0 sps =>
    cases tok with
    | nil => cases h
    | cons x token =>
    simp only [Option.some.injEq, Prod.mk.injEq] at h
    obtain ⟨-, rfl⟩ := h
    have hsp' : sp0 :: sps <+: t.drop 6 := hsp ▸ List.takeWhile_prefix isWs
    refine ⟨t.take 6, sp0 :: sps, ?_, List.take_prefix _ _, ?_,
      ciPrefix_take hc (by simp [BEARER, utf16]), List.cons_ne_nil _ _,
      fun y hy => by rw [← hsp] at hy; exact List.mem_takeWhile_imp hy, ?_⟩
    · rw [List.take_add, ← List.prefix_iff_eq_take.mp hsp']
    · have h6 : 6 ≤ t.length := by simpa [BEARER, utf16] using length_le_of_ciPrefix hc
      simp; omega
    · have htp : x :: token <+: t.drop (6 + (sp0 :: sps).length) :=
        htok ▸ List.takeWhile_prefix isTokenChar
      have hx : isTokenChar x = true :=
        List.mem_takeWhile_imp (htok ▸ List.mem_cons_self x token :
          x ∈ (t.drop (6 + (sp0 :: sps).length)).takeWhile isTokenChar)
      obtain ⟨rest, hrest⟩ := htp
      refine ⟨x, token ++ rest, ?_, ?_⟩
      · calc t = t.take (6 + (sp0 :: sps).length) ++ t.drop (6 + (sp0 :: sps).length) :=
            (List.take_append_drop _ _).symm
          _ = _ := by rw [← hrest]; rfl
      · cases hw : isWs x
        · rfl
        · simp [isTokenChar_ws hw] at hx

end

section
variable {p : Option UInt16} {t : List UInt16}

theorem bearerRegex_of_bearerTokenAt (h : BearerTokenAt t) : bearerRegex p t ≠ none := by
  obtain ⟨bearer, spaces, u, rest, rfl, hlen, hc, hne, hws, htok⟩ := h
  have hu : isWs u = false := by
    cases hw : isWs u
    · rfl
    · simp [isTokenChar_ws hw] at htok
  have hsp : ((bearer ++ spaces ++ u :: rest).drop 6).takeWhile isWs = spaces := by
    rw [List.append_assoc, List.drop_append_of_le_length (by omega), ← hlen, List.drop_length,
      List.nil_append, List.takeWhile_append_of_pos hws,
      List.takeWhile_cons_of_neg (by simp [hu]), List.append_nil]
  have hdrop : (bearer ++ spaces ++ u :: rest).drop (6 + spaces.length) = u :: rest := by
    rw [← hlen, ← List.length_append, List.drop_left]
  obtain ⟨sp0, sps, rfl⟩ := List.exists_cons_of_ne_nil hne
  unfold bearerRegex
  rw [if_pos (ciPrefix_extend hc (by simp [List.append_assoc]))]
  dsimp only
  rw [hsp, hdrop, List.takeWhile_cons_of_pos htok]
  simp

theorem longRunAt_of_base64Regex (h : base64Regex p t ≠ none) : LongRunAt t := by
  unfold base64Regex at h
  dsimp only at h
  split_ifs at h with hrun
  · refine ⟨t.take 32, t.drop 32, (List.take_append_drop _ _).symm, ?_, fun u hu => ?_⟩
    · have := (List.takeWhile_prefix isBase64Char (l := t)).length_le
      simp; omega
    · have hpre : t.take 32 <+: t.takeWhile isBase64Char := by
        rw [List.prefix_iff_eq_take.mp (List.takeWhile_prefix isBase64Char), List.prefix_take_iff]
        exact ⟨List.take_prefix _ _, by simp; omega⟩
      exact List.mem_takeWhile_imp (hpre.subset hu)
  · exact absurd rfl h

theorem base64Regex_of_longRunAt (h : LongRunAt t) : base64Regex p t ≠ none := by
  obtain ⟨run, rest, rfl, hlen, hall⟩ := h
  unfold base64Regex
  rw [if_pos (by rw [List.takeWhile_append_of_pos hall]; simp; omega)]
  simp

end

theorem redactMatch_shape (pattern : RedactionPattern) {s g : List UInt16}
    (hg : pattern.preservePrefix = true → g <+: s) :
    ∃ pre rest, redactMatch pattern g = pre ++ 91 :: rest ∧ pre <+: s := by
  unfold redactMatch
  split_ifs with hp
  · exact ⟨g, _, rfl, hg hp⟩
  · exact ⟨[], _, rfl, List.nil_prefix⟩

theorem length_REDACTED : REDACTED.length = 10 := by decide

theorem length_BOT_TOKEN : BOT_TOKEN.length = 10 := by decide

theorem REDACTED_eq : REDACTED = 91 :: REDACTED.tail := by decide

theorem ne_bracket_of_ciPrefix {pattern s : List UInt16} (h : ciPrefix pattern s = true)
    (hp : asciiUpper 91 ∉ pattern.map asciiUpper) : ∀ x ∈ s.take pattern.length, x ≠ 91 := by
  rintro x hx rfl
  exact hp (map_asciiUpper_take h ▸ List.mem_map_of_mem asciiUpper hx)

theorem heads_of_map {pre : List UInt16} {caps : List Nat} (h : pre.map asciiUpper = caps)
    {j c : Nat} (hcaps : ∀ y ∈ caps.drop j, y ≠ c) : ∀ x ∈ pre.drop j, asciiUpper x ≠ c :=
  fun x hx => hcaps _ (by rw [← h, ← List.map_drop]; exact List.mem_map_of_mem asciiUpper hx)

theorem asciiUpper_ne_of_ws {x : UInt16} (h : isWs x = true) : asciiUpper x ≠ 66 := by
  rw [asciiUpper_ws h]
  have h := isWs_toNat h
  omega

/-! ## What a pass keeps -/

section
variable {m : Matcher (List UInt16)} {f : List UInt16 → List UInt16}

theorem secretHidden_replaceFrom
    (hq : ∀ p x t, (x.toNat = 38 || isWs x) = true → m p (x :: t) = none)
    (hred : ∀ p t i, i < 10 → m p ((REDACTED ++ t).drop i) = none)
    {p : Option UInt16} {t : List UInt16} (h : SecretHidden t) :
    SecretHidden (replaceFrom m f 0 p t) := by
  rcases h with rfl | hhead | ⟨t', rfl⟩
  · exact .inl (replaceFrom_nil 0)
  · match t, hhead with
    | x :: t', hx =>
      rw [replaceFrom_miss (hq p x t' (by simpa using hx))]
      exact .inr (.inl (by simpa using hx))
  · rw [replaceFrom_quiet (n := 10) fun i hi => hred _ t' i hi,
      List.take_left' length_REDACTED]
    exact .inr (.inr (List.prefix_append _ _))

variable (hf : ∀ p s n g, m p s = some (n, g) → ∃ pre rest, f g = pre ++ 91 :: rest ∧ pre <+: s)
include hf

theorem tokenParamHidden_miss
    (hbot : ∀ p t i, ciPrefix BOT_TOKEN t = true → 0 < i → i < 10 → m p (t.drop i) = none)
    (hq : ∀ p x t, (x.toNat = 38 || isWs x) = true → m p (x :: t) = none)
    (hred : ∀ p t i, i < 10 → m p ((REDACTED ++ t).drop i) = none)
    {p : Option UInt16} {u : UInt16} {us : List UInt16} (hm : m p (u :: us) = none)
    (h : TokenParamHidden (u :: us)) : TokenParamHidden (u :: replaceFrom m f 0 (some u) us) := by
  intro hc
  have hw := ne_bracket_of_ciPrefix hc (by decide)
  rw [length_BOT_TOKEN] at hw
  have hpre : (u :: replaceFrom m f 0 (some u) us).take 10 <+: u :: us :=
    prefix_of_replaceFrom hf (k := 0) (p := p) hw
      (by rw [replaceFrom_miss hm]; exact List.take_prefix _ _)
  have hc' : ciPrefix BOT_TOKEN (u :: us) = true :=
    ciPrefix_extend (ciPrefix_take hc length_BOT_TOKEN.le) hpre
  have hlen : 9 ≤ us.length := by
    have := length_le_of_ciPrefix hc'
    rw [length_BOT_TOKEN] at this
    simp at this; omega
  rw [replaceFrom_quiet (n := 9) fun i hi => hbot _ (u :: us) (i + 1) hc' (by omega) (by omega)]
  show SecretHidden ((us.take 9 ++ _).drop 9)
  rw [List.drop_left' (by simp; omega)]
  exact secretHidden_replaceFrom hq hred (h hc')

theorem not_bearerTokenAt_miss {p : Option UInt16} {u : UInt16} {us : List UInt16}
    (hm : m p (u :: us) = none) (h : ¬ BearerTokenAt (u :: us)) :
    ¬ BearerTokenAt (u :: replaceFrom m f 0 (some u) us) := by
  rintro ⟨bearer, spaces, x, rest, heq, hlen, hc, hne, hws, htok⟩
  have hw : ∀ y ∈ bearer ++ spaces ++ [x], y ≠ 91 := by
    intro y hy
    simp only [List.mem_append, List.mem_singleton] at hy
    rcases hy with (hb | hs) | rfl
    · have := ne_bracket_of_ciPrefix hc (by decide)
      rw [List.take_of_length_le (by simp [BEARER, utf16, hlen])] at this
      exact this y hb
    · rintro rfl; exact absurd (hws _ hs) (by decide)
    · rintro rfl; exact absurd htok (by decide)
  obtain ⟨rest', hrest'⟩ := prefix_of_replaceFrom hf (k := 0) (p := p) hw
    (by rw [replaceFrom_miss hm, heq]; simp)
  rw [List.drop_zero] at hrest'
  exact h ⟨bearer, spaces, x, rest', by rw [← hrest']; simp, hlen, hc, hne, hws, htok⟩

theorem not_longRunAt_miss {p : Option UInt16} {u : UInt16} {us : List UInt16}
    (hm : m p (u :: us) = none) (h : ¬ LongRunAt (u :: us)) :
    ¬ LongRunAt (u :: replaceFrom m f 0 (some u) us) := by
  rintro ⟨run, rest, heq, hlen, hall⟩
  have hw : ∀ y ∈ run, y ≠ 91 := by
    rintro y hy rfl; exact absurd (hall _ hy) (by decide)
  obtain ⟨rest', hrest'⟩ := prefix_of_replaceFrom hf (k := 0) (p := p) hw
    (by rw [replaceFrom_miss hm, heq]; exact List.prefix_append _ _)
  exact h ⟨run, rest', hrest'.symm, hlen, hall⟩

end

/-! ## Where each pass can match -/

theorem head_of_ciPrefix_BOT_TOKEN {s : List UInt16} (h : ciPrefix BOT_TOKEN s = true) :
    ∃ x s', s = x :: s' ∧ asciiUpper x = 66 := by
  rw [show BOT_TOKEN = 98 :: BOT_TOKEN.tail by decide] at h
  obtain ⟨x, s', rfl, hx⟩ := head_of_ciPrefix h
  exact ⟨x, s', rfl, hx.trans (by decide)⟩

theorem head_of_ciPrefix_BEARER {s : List UInt16} (h : ciPrefix BEARER s = true) :
    ∃ x s', s = x :: s' ∧ asciiUpper x = 66 := by
  rw [show BEARER = 66 :: BEARER.tail by decide] at h
  obtain ⟨x, s', rfl, hx⟩ := head_of_ciPrefix h
  exact ⟨x, s', rfl, hx.trans (by decide)⟩

theorem BearerTokenAt.head {t : List UInt16} (h : BearerTokenAt t) :
    ∃ x t', t = x :: t' ∧ asciiUpper x = 66 := by
  obtain ⟨bearer, spaces, u, rest, rfl, hlen, hc, -⟩ := h
  obtain ⟨x, b', rfl, hx⟩ := head_of_ciPrefix_BEARER hc
  exact ⟨x, _, rfl, hx⟩

theorem asciiUpper_REDACTED : ∀ y ∈ REDACTED, asciiUpper y ≠ 66 := by decide

theorem not_longRunAt_REDACTED {t : List UInt16} {i : Nat} (hi : i < 10) :
    ¬ LongRunAt ((REDACTED ++ t).drop i) := by
  have hmem : ∀ i < 10, (93 : UInt16) ∈ REDACTED.drop i := by decide
  refine not_longRunAt_of_head_units (w := REDACTED.drop i) ?_ ?_ (hmem i hi) (by decide)
  · rw [List.drop_append_of_le_length (by rw [length_REDACTED]; omega)]
    exact List.prefix_append _ _
  · simp [length_REDACTED]; omega

def StartsAtB (m : Matcher (List UInt16)) : Prop :=
  ∀ p t, m p t ≠ none → ∃ x t', t = x :: t' ∧ asciiUpper x = 66

theorem botTokenRegex_startsAtB : StartsAtB botTokenRegex := by
  intro p t h
  unfold botTokenRegex at h
  split_ifs at h with hc
  · exact head_of_ciPrefix_BOT_TOKEN hc
  · exact absurd rfl h

theorem bearerRegex_startsAtB : StartsAtB bearerRegex := by
  intro p t h
  unfold bearerRegex at h
  split_ifs at h with hc
  · exact head_of_ciPrefix_BEARER hc
  · exact absurd rfl h

section
variable {m : Matcher (List UInt16)} (hB : StartsAtB m)
include hB

theorem StartsAtB.quiet_of_amp_or_ws : ∀ p x t, (x.toNat = 38 || isWs x) = true →
    m p (x :: t) = none := by
  intro p x t hx
  by_contra hne
  obtain ⟨y, t', hyt, hy⟩ := hB p _ hne
  obtain ⟨rfl, -⟩ := List.cons_eq_cons.mp hyt
  simp only [Bool.or_eq_true, decide_eq_true_eq] at hx
  rcases hx with h38 | hws
  · rw [asciiUpper_of_lt (by omega), h38] at hy; cases hy
  · exact asciiUpper_ne_of_ws hws hy

theorem StartsAtB.quiet_of_REDACTED : ∀ p t i, i < 10 → m p ((REDACTED ++ t).drop i) = none := by
  intro p t i hi
  by_contra hne
  exact not_at_of_heads (P := fun s => m p s ≠ none) (hB p) (j := 0)
    (by simpa using asciiUpper_REDACTED) (Nat.zero_le i) (by rw [length_REDACTED]; exact hi) hne

theorem StartsAtB.quiet_of_BOT_TOKEN : ∀ p t i, ciPrefix BOT_TOKEN t = true → 0 < i → i < 10 →
    m p (t.drop i) = none := by
  intro p t i hc hi hi10
  have hcaps := map_asciiUpper_take hc
  rw [length_BOT_TOKEN] at hcaps
  have h10 : (t.take 10).length = 10 := by
    have := length_le_of_ciPrefix hc; rw [length_BOT_TOKEN] at this; simp; omega
  by_contra hne
  rw [← List.take_append_drop 10 t] at hne
  exact not_at_of_heads (P := fun s => m p s ≠ none) (hB p)
    (heads_of_map hcaps (j := 1) (by decide)) hi (by omega) hne

end

theorem base64Regex_quiet {p : Option UInt16} {t : List UInt16} (h : ¬ LongRunAt t) :
    base64Regex p t = none := by
  by_contra hne
  exact h (longRunAt_of_base64Regex hne)

theorem base64Regex_quiet_of_amp_or_ws : ∀ p x t, (x.toNat = 38 || isWs x) = true →
    base64Regex p (x :: t) = none := by
  intro p x t hx
  refine base64Regex_quiet fun h => ?_
  obtain ⟨y, t', hyt, hy⟩ := h.head
  obtain ⟨rfl, -⟩ := List.cons_eq_cons.mp hyt
  simp only [Bool.or_eq_true, decide_eq_true_eq] at hx
  rcases hx with h38 | hws
  · simp [isBase64Char, isAsciiAlnum, h38] at hy
  · simp [isBase64Char_ws hws] at hy

theorem base64Regex_quiet_of_REDACTED : ∀ p t i, i < 10 →
    base64Regex p ((REDACTED ++ t).drop i) = none := by
  intro p t i hi
  exact base64Regex_quiet (not_longRunAt_REDACTED hi)

theorem base64Regex_quiet_of_BOT_TOKEN : ∀ p t i, ciPrefix BOT_TOKEN t = true → 0 < i →
    i < 10 → base64Regex p (t.drop i) = none := by
  intro p t i hc _ hi10
  have hcaps := map_asciiUpper_take hc
  rw [length_BOT_TOKEN] at hcaps
  have hmem : asciiUpper (61 : UInt16) ∈ ((t.take 10).drop i).map asciiUpper := by
    have hall : ∀ i < 10, asciiUpper (61 : UInt16) ∈ (BOT_TOKEN.map asciiUpper).drop i := by
      decide
    rw [List.map_drop, hcaps]
    exact hall i hi10
  obtain ⟨x, hx, hx61⟩ := List.mem_map.mp hmem
  have hxn : x.toNat = 61 := eq_of_asciiUpper_eq (by omega) (hx61.trans (by decide))
  refine base64Regex_quiet (not_longRunAt_of_head_units ?_ ?_ hx (by simp [isBase64Char, isAsciiAlnum, hxn]))
  · rw [List.drop_take]; exact List.take_prefix _ _
  · simp; omega

/-! ## The passes -/

theorem botTokenRegex_shape : ∀ p s n g, botTokenRegex p s = some (n, g) →
    ∃ pre rest, redactMatch ⟨botTokenRegex, true⟩ g = pre ++ 91 :: rest ∧ pre <+: s :=
  fun _ _ _ _ h => redactMatch_shape _ fun _ => (botTokenRegex_hit h).2 ▸ List.take_prefix _ _

theorem bearerRegex_shape : ∀ p s n g, bearerRegex p s = some (n, g) →
    ∃ pre rest, redactMatch ⟨bearerRegex, true⟩ g = pre ++ 91 :: rest ∧ pre <+: s := by
  intro _ _ _ _ h
  obtain ⟨_, _, -, hg, -⟩ := bearerRegex_hit h
  exact redactMatch_shape _ fun _ => hg

theorem base64Regex_shape : ∀ p s n g, base64Regex p s = some (n, g) →
    ∃ pre rest, redactMatch ⟨base64Regex, false⟩ g = pre ++ 91 :: rest ∧ pre <+: s :=
  fun _ _ _ _ _ => redactMatch_shape _ fun h => absurd h (by decide)

theorem not_bearerTokenAt_replaced {bearer spaces rest : List UInt16} (hlen : bearer.length = 6)
    (hws : ∀ x ∈ spaces, isWs x = true) : ¬ BearerTokenAt (bearer ++ spaces ++ REDACTED ++ rest) := by
  rintro ⟨b, sp, x, rest', heq, hlen', -, -, hws', htok⟩
  rw [List.append_assoc, List.append_assoc, List.append_assoc] at heq
  obtain ⟨-, heq⟩ := List.append_inj heq (hlen.trans hlen'.symm)
  have hx : isWs x = false := by
    cases hw : isWs x
    · rfl
    · simp [isTokenChar_ws hw] at htok
  have hsp := congrArg (List.takeWhile isWs) heq
  rw [List.takeWhile_append_of_pos hws, List.takeWhile_append_of_pos hws', REDACTED_eq,
    List.cons_append, List.takeWhile_cons_of_neg (by decide), List.takeWhile_cons_of_neg (by simp [hx]),
    List.append_nil, List.append_nil] at hsp
  subst hsp
  obtain ⟨hx91, -⟩ := List.cons_eq_cons.mp ((List.append_cancel_left heq).symm.trans (by rw [REDACTED_eq]; rfl))
  subst hx91
  exact absurd htok (by decide)

theorem tokenParamHidden_botTokenPass {k : Nat} {p : Option UInt16} {s : List UInt16} :
    Everywhere TokenParamHidden
      (replaceFrom botTokenRegex (redactMatch ⟨botTokenRegex, true⟩) k p s) := by
  refine everywhere_replaceFrom (fun h => absurd h (by decide)) ?_ ?_
    (show Everywhere (fun _ => True) s from fun _ => trivial)
  · intro p u us n g hm _ hR
    obtain ⟨hc, rfl⟩ := botTokenRegex_hit hm
    have hcaps := map_asciiUpper_take hc
    rw [length_BOT_TOKEN] at hcaps
    have h10 : ((u :: us).take 10).length = 10 := by
      have := length_le_of_ciPrefix hc; rw [length_BOT_TOKEN] at this; simp at this ⊢; omega
    show Everywhere TokenParamHidden (((u :: us).take 10 ++ REDACTED) ++ _)
    refine everywhere_append.mpr ⟨fun i hi => ?_, hR⟩
    cases i with
    | zero =>
      intro _
      rw [List.drop_zero, List.append_assoc, List.drop_left' h10]
      exact .inr (.inr (List.prefix_append _ _))
    | succ i =>
      exact fun hc' => absurd hc' (not_at_of_heads (P := fun s => ciPrefix BOT_TOKEN s = true)
        (fun _ => head_of_ciPrefix_BOT_TOKEN)
        (heads_of_map (by rw [List.map_append, hcaps]) (j := 1) (by decide))
        (Nat.succ_pos i) hi)
  · intro p u us hm _ _
    exact tokenParamHidden_miss botTokenRegex_shape
      (StartsAtB.quiet_of_BOT_TOKEN botTokenRegex_startsAtB)
      (StartsAtB.quiet_of_amp_or_ws botTokenRegex_startsAtB)
      (StartsAtB.quiet_of_REDACTED botTokenRegex_startsAtB) hm
      (tokenParamHidden_of_botTokenRegex hm)

theorem not_ciPrefix_BOT_TOKEN_BEARER {t : List UInt16} (h : ciPrefix BOT_TOKEN t = true)
    (h' : ciPrefix BEARER t = true) : False := by
  rcases List.prefix_or_prefix_of_prefix (ciPrefix_iff.mp h) (ciPrefix_iff.mp h') with hp | hp
  · exact absurd hp (by decide)
  · exact absurd hp (by decide)

theorem heads_bearer_replaced {bearer spaces : List UInt16} (hlen : bearer.length = 6)
    (hc : ciPrefix BEARER bearer = true) (hws : ∀ x ∈ spaces, isWs x = true) :
    ∀ y ∈ (bearer ++ spaces ++ REDACTED).drop 1, asciiUpper y ≠ 66 := by
  have hcaps := map_asciiUpper_take hc
  rw [List.take_of_length_le (by simp [BEARER, utf16, hlen])] at hcaps
  rw [List.append_assoc, List.drop_append_of_le_length (by omega)]
  intro y hy
  rcases List.mem_append.mp hy with hb | hy
  · exact heads_of_map hcaps (by decide) y hb
  rcases List.mem_append.mp hy with hs | hr
  · exact asciiUpper_ne_of_ws (hws y hs)
  · exact asciiUpper_REDACTED y hr

theorem tokenParamHidden_bearerPass {k : Nat} {p : Option UInt16} {s : List UInt16}
    (h : Everywhere TokenParamHidden s) :
    Everywhere TokenParamHidden (replaceFrom bearerRegex (redactMatch ⟨bearerRegex, true⟩) k p s) := by
  refine everywhere_replaceFrom (fun h => absurd h (by decide)) ?_ ?_ h
  · intro p u us n g hm _ hR
    obtain ⟨bearer, spaces, rfl, hg, hlen, hc, -, hws, -⟩ := bearerRegex_hit hm
    show Everywhere TokenParamHidden ((bearer ++ spaces ++ REDACTED) ++ _)
    refine everywhere_append.mpr ⟨fun i hi => ?_, hR⟩
    cases i with
    | zero =>
      exact fun hb => (not_ciPrefix_BOT_TOKEN_BEARER hb
        (ciPrefix_extend hc (by simp [List.append_assoc]))).elim
    | succ i =>
      exact fun hc' => absurd hc' (not_at_of_heads (P := fun s => ciPrefix BOT_TOKEN s = true)
        (fun _ => head_of_ciPrefix_BOT_TOKEN) (heads_bearer_replaced hlen hc hws)
        (Nat.succ_pos i) hi)
  · intro p u us hm hInv _
    exact tokenParamHidden_miss bearerRegex_shape
      (StartsAtB.quiet_of_BOT_TOKEN bearerRegex_startsAtB)
      (StartsAtB.quiet_of_amp_or_ws bearerRegex_startsAtB)
      (StartsAtB.quiet_of_REDACTED bearerRegex_startsAtB) hm (everywhere_cons.mp hInv).1

theorem noBearer_bearerPass {k : Nat} {p : Option UInt16} {s : List UInt16} :
    Everywhere (fun t => ¬ BearerTokenAt t)
      (replaceFrom bearerRegex (redactMatch ⟨bearerRegex, true⟩) k p s) := by
  refine everywhere_replaceFrom (fun h => ?_) ?_ ?_
    (show Everywhere (fun _ => True) s from fun _ => trivial)
  · obtain ⟨_, _, h, -⟩ := h.head; cases h
  · intro p u us n g hm _ hR
    obtain ⟨bearer, spaces, rfl, hg, hlen, hc, -, hws, -⟩ := bearerRegex_hit hm
    show Everywhere _ ((bearer ++ spaces ++ REDACTED) ++ _)
    refine everywhere_append.mpr ⟨fun i hi => ?_, hR⟩
    cases i with
    | zero => exact not_bearerTokenAt_replaced hlen hws
    | succ i =>
      exact not_at_of_heads (fun _ => BearerTokenAt.head) (heads_bearer_replaced hlen hc hws)
        (Nat.succ_pos i) hi
  · intro p u us hm _ _
    exact not_bearerTokenAt_miss bearerRegex_shape hm
      fun hb => bearerRegex_of_bearerTokenAt hb hm

theorem tokenParamHidden_base64Pass {k : Nat} {p : Option UInt16} {s : List UInt16}
    (h : Everywhere TokenParamHidden s) :
    Everywhere TokenParamHidden (replaceFrom base64Regex (redactMatch ⟨base64Regex, false⟩) k p s) := by
  refine everywhere_replaceFrom (fun h => absurd h (by decide)) ?_ ?_ h
  · intro p u us n g _ _ hR
    refine everywhere_append.mpr ⟨fun i hi => fun hc' => absurd hc' ?_, hR⟩
    exact not_at_of_heads (P := fun s => ciPrefix BOT_TOKEN s = true)
      (fun _ => head_of_ciPrefix_BOT_TOKEN) (j := 0) (by simpa using asciiUpper_REDACTED)
      (Nat.zero_le i) hi
  · intro p u us hm hInv _
    exact tokenParamHidden_miss base64Regex_shape base64Regex_quiet_of_BOT_TOKEN
      base64Regex_quiet_of_amp_or_ws base64Regex_quiet_of_REDACTED hm (everywhere_cons.mp hInv).1

theorem noBearer_base64Pass {k : Nat} {p : Option UInt16} {s : List UInt16}
    (h : Everywhere (fun t => ¬ BearerTokenAt t) s) :
    Everywhere (fun t => ¬ BearerTokenAt t)
      (replaceFrom base64Regex (redactMatch ⟨base64Regex, false⟩) k p s) := by
  refine everywhere_replaceFrom (fun h => ?_) ?_ ?_ h
  · obtain ⟨_, _, h, -⟩ := h.head; cases h
  · intro p u us n g _ _ hR
    exact everywhere_append.mpr ⟨fun i hi => not_at_of_heads (fun _ => BearerTokenAt.head)
      (j := 0) (by simpa using asciiUpper_REDACTED) (Nat.zero_le i) hi, hR⟩
  · intro p u us hm hInv _
    exact not_bearerTokenAt_miss base64Regex_shape hm (everywhere_cons.mp hInv).1

theorem noLongRun_base64Pass {k : Nat} {p : Option UInt16} {s : List UInt16} :
    Everywhere (fun t => ¬ LongRunAt t)
      (replaceFrom base64Regex (redactMatch ⟨base64Regex, false⟩) k p s) := by
  refine everywhere_replaceFrom (fun h => ?_) ?_ ?_
    (show Everywhere (fun _ => True) s from fun _ => trivial)
  · obtain ⟨_, _, h, -⟩ := h.head; cases h
  · intro p u us n g _ _ hR
    exact everywhere_append.mpr ⟨fun i hi => not_longRunAt_REDACTED hi, hR⟩
  · intro p u us hm _ _
    exact not_longRunAt_miss base64Regex_shape hm fun h => base64Regex_of_longRunAt h hm

theorem redactString_eq (value : List UInt16) :
    redactString value =
      replaceFrom base64Regex (redactMatch ⟨base64Regex, false⟩) 0 none
        (replaceFrom bearerRegex (redactMatch ⟨bearerRegex, true⟩) 0 none
          (replaceFrom botTokenRegex (redactMatch ⟨botTokenRegex, true⟩) 0 none value)) := by
  simp only [redactString, REDACTION_PATTERNS, List.foldl_cons, List.foldl_nil, replaceAll]

theorem redactString_logSafe (value : List UInt16) : LogSafe (redactString value) := by
  rw [redactString_eq]
  exact ⟨noLongRun_base64Pass,
    tokenParamHidden_base64Pass (tokenParamHidden_bearerPass tokenParamHidden_botTokenPass),
    noBearer_base64Pass noBearer_bearerPass⟩

/-! ## Values -/

mutual
/-- `out` is `value` redacted for the logs: the same shape, scalars other than strings kept,
each string one that may be logged, and the value of each sensitive key, at any depth,
replaced whole by `[REDACTED]`. -/
inductive RedactedAs : JsValue → JsValue → Prop
  | null : RedactedAs .null .null
  | bool (b : Bool) : RedactedAs (.bool b) (.bool b)
  | num (n : ℚ) : RedactedAs (.num n) (.num n)
  | str {s t : List UInt16} : LogSafe t → RedactedAs (.str s) (.str t)
  | arr {items outs : List JsValue} : RedactedItemsAs items outs →
      RedactedAs (.arr items) (.arr outs)
  | obj {entries outs : List (List UInt16 × JsValue)} : RedactedEntriesAs entries outs →
      RedactedAs (.obj entries) (.obj outs)

inductive RedactedItemsAs : List JsValue → List JsValue → Prop
  | nil : RedactedItemsAs [] []
  | cons {v w : JsValue} {vs ws : List JsValue} : RedactedAs v w → RedactedItemsAs vs ws →
      RedactedItemsAs (v :: vs) (w :: ws)

inductive RedactedEntriesAs : List (List UInt16 × JsValue) → List (List UInt16 × JsValue) → Prop
  | nil : RedactedEntriesAs [] []
  | sensitive {key : List UInt16} {v : JsValue} {es os : List (List UInt16 × JsValue)} :
      key ∈ SENSITIVE_KEYS → RedactedEntriesAs es os →
      RedactedEntriesAs ((key, v) :: es) ((key, .str REDACTED) :: os)
  | other {key : List UInt16} {v w : JsValue} {es os : List (List UInt16 × JsValue)} :
      key ∉ SENSITIVE_KEYS → RedactedAs v w → RedactedEntriesAs es os →
      RedactedEntriesAs ((key, v) :: es) ((key, w) :: os)
end

mutual
theorem redactedAs_redactUnknown : ∀ value, RedactedAs value (redactUnknown value)
  | .null => .null
  | .bool b => .bool b
  | .num n => .num n
  | .str s => .str (redactString_logSafe s)
  | .arr items => .arr (redactedItemsAs_redactItems items)
  | .obj entries => .obj (redactedEntriesAs_redactEntries entries)

theorem redactedItemsAs_redactItems : ∀ items, RedactedItemsAs items (redactItems items)
  | [] => .nil
  | item :: items => .cons (redactedAs_redactUnknown item) (redactedItemsAs_redactItems items)

theorem redactedEntriesAs_redactEntries :
    ∀ entries, RedactedEntriesAs entries (redactEntries entries)
  | [] => .nil
  | (key, nested) :: entries => by
    rw [redactEntries]
    split_ifs with hkey
    · exact .sensitive hkey (redactedEntriesAs_redactEntries entries)
    · exact .other hkey (redactedAs_redactUnknown nested) (redactedEntriesAs_redactEntries entries)
end

theorem redactString_REDACTED : redactString REDACTED = REDACTED := by decide

/-- Over every JSON-like value, `redactForLogs` keeps the shape, the keys and every scalar
other than a string, replaces the value of each sensitive key, at any depth, by
`[REDACTED]`, and leaves only strings that may be logged, `[REDACTED]` among them. -/
theorem redactForLogs_law (value : JsValue) :
    RedactedAs value (redactForLogs value) ∧ LogSafe REDACTED :=
  ⟨redactedAs_redactUnknown value, redactString_REDACTED ▸ redactString_logSafe REDACTED⟩

/-- A number under a sensitive key does not stay a number: the key's whole value is
replaced by the string `[REDACTED]`. -/
theorem redactForLogs_replaces_sensitive_number :
    redactForLogs (.obj [(utf16 "token", .num 5)]) = .obj [(utf16 "token", .str REDACTED)] :=
  rfl

end ton_agent_bot.redaction
