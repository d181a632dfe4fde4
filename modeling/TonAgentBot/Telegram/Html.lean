-- renderTelegramHtmlFromMarkdown of telegram/bot.ts, which turns a reply chunk into Telegram
-- HTML by nine global replaces: code is stashed behind `@@TG_HTML_n@@` tokens, the rest is
-- escaped and its markdown rewritten, and the tokens are put back. A token the text itself
-- holds is replaced too, and the rewrites of bold and links do not see each other's tags.
import TonAgentBot.Js.Replace
import TonAgentBot.Js.Json

namespace ton_agent_bot.telegram

open js

/-! ## Escaping and the stash -/

/-- The HTML of one unit under `escapeHtml`. -/
def escapeUnit (u : UInt16) : List UInt16 :=
  if u = 38 then utf16 "&amp;" else if u = 60 then utf16 "&lt;" else if u = 62 then utf16 "&gt;"
  else [u]

/-- `value.replace(/&/g, ...)`, `/</g` and `/>/g` of `escapeHtml`: one unit for another. -/
def replaceUnit (c : UInt16) (html : List UInt16) (value : List UInt16) : List UInt16 :=
  value.flatMap fun u => if u = c then html else [u]

def escapeHtml (value : List UInt16) : List UInt16 :=
  replaceUnit 62 (utf16 "&gt;") (replaceUnit 60 (utf16 "&lt;") (replaceUnit 38 (utf16 "&amp;") value))

theorem escapeHtml_append (a b : List UInt16) : escapeHtml (a ++ b) = escapeHtml a ++ escapeHtml b := by
  simp [escapeHtml, replaceUnit, List.flatMap_append]

theorem escapeHtml_singleton (u : UInt16) : escapeHtml [u] = escapeUnit u := by
  unfold escapeUnit
  split_ifs with h38 h60 h62
  · subst h38; decide
  · subst h60; decide
  · subst h62; decide
  · simp [escapeHtml, replaceUnit, h38, h60, h62]

theorem escapeHtml_eq_flatMap (value : List UInt16) : escapeHtml value = value.flatMap escapeUnit := by
  induction value with
  | nil => rfl
  | cons u us ih =>
    rw [List.flatMap_cons, ← escapeHtml_singleton, ← ih, ← escapeHtml_append]
    rfl

def decimal (n : Nat) : List UInt16 := (Nat.toDigits 10 n).map fun c => c.toNat.toUInt16

/-- `stashHtml`'s token for the part at index `n`. -/
def stashToken (n : Nat) : List UInt16 := utf16 "@@TG_HTML_" ++ decimal n ++ utf16 "@@"

/-- One piece of a stashing replace, after the text built and the parts stashed so far: a
unit is copied, and a match is replaced by the token of the part it stashes. -/
def stashPiece {α : Type} (html : α → List UInt16) (acc : List UInt16 × List (List UInt16)) :
    Piece α → List UInt16 × List (List UInt16)
  | .unit u => (acc.1 ++ [u], acc.2)
  | .hit groups => (acc.1 ++ stashToken acc.2.length, acc.2 ++ [html groups])

/-- A global `replace` whose replacer stashes the HTML of each match, left to right:
the text with each match replaced by its token, and the parts stashed so far. -/
def stashPass {α : Type} (m : Matcher α) (html : α → List UInt16)
    (parts : List (List UInt16)) (text : List UInt16) : List UInt16 × List (List UInt16) :=
  (scan m 0 none text).foldl (stashPiece html) ([], parts)

/-! ## The expressions -/

/-- `[a-zA-Z0-9_-]`. -/
def isLangChar (u : UInt16) : Bool :=
  (48 ≤ u.toNat && u.toNat ≤ 57) || (65 ≤ u.toNat && u.toNat ≤ 90) ||
    (97 ≤ u.toNat && u.toNat ≤ 122) || u.toNat = 95 || u.toNat = 45

/-- Where the first `` ``` `` of a text starts. -/
def tripleBacktickAt : List UInt16 → Option Nat
  | [] => none
  | 96 :: 96 :: 96 :: _ => some 0
  | _ :: us => (tripleBacktickAt us).map (· + 1)

/-- `FENCED_CODE_REGEX` at a position. The language is the longest run of its characters, a
newline after it is taken, and the code runs to the first closing fence; when no fence
closes, giving back a language unit or the newline finds none either, as neither is a
backtick. Groups: the language (`undefined` when absent) and the code. -/
def fencedCode : Matcher (Option (List UInt16) × List UInt16)
  | _, 96 :: 96 :: 96 :: rest =>
    let lang := rest.takeWhile isLangChar
    let afterLang := rest.drop lang.length
    let body := match afterLang with
      | 10 :: body => body
      | body => body
    (tripleBacktickAt body).map fun i =>
      (2 + lang.length + (afterLang.length - body.length) + i + 3,
        (if lang = [] then none else some lang, body.take i))
  | _, _ => none

/-- `INLINE_CODE_REGEX` at a position: a backtick, a run of units other than a backtick or a
newline, and a backtick. -/
def inlineCode : Matcher (List UInt16)
  | _, 96 :: rest =>
    let code := rest.takeWhile fun u => u ≠ 96 && u ≠ 10
    if code ≠ [] && (rest.drop code.length).head? = some 96 then some (code.length + 1, code)
    else none
  | _, _ => none

/-- The schemes of `LINK_REGEX`, in the order its alternation tries them. -/
def LINK_SCHEMES : List (List UInt16) :=
  [utf16 "https://", utf16 "http://", utf16 "ton://", utf16 "tg://"]

/-- `LINK_REGEX` at a position: `[label](href)`, the label a run of units other than `]` or a
newline, the href a scheme then a run of units other than `)` or whitespace. -/
def linkMatch : Matcher (List UInt16 × List UInt16)
  | _, 91 :: rest =>
    let label := rest.takeWhile fun u => u ≠ 93 && u ≠ 10
    match rest.drop label.length with
    | 93 :: 40 :: target =>
      match LINK_SCHEMES.find? (·.isPrefixOf target) with
      | some scheme =>
        let tail := (target.drop scheme.length).takeWhile fun u => u ≠ 41 && !isWs u
        if label ≠ [] && tail ≠ [] && (target.drop (scheme.length + tail.length)).head? = some 41 then
          some (label.length + scheme.length + tail.length + 3, (label, scheme ++ tail))
        else none
      | none => none
    | _ => none
  | _, _ => none

/-- `/\*\*([^\n*]+?)\*\*/g`, `/__([^\n_]+?)__/g` and `/~~([^\n~]+?)~~/g` at a position,
for the marker unit `c`: the lazy content cannot hold `c`, so it is the run up to the first
`c` or newline, and two markers must follow it. -/
def delimited (c : UInt16) : Matcher (List UInt16)
  | _, a :: b :: rest =>
    if a = c && b = c then
      let content := rest.takeWhile fun u => u ≠ 10 && u ≠ c
      if content ≠ [] && (rest.drop content.length).take 2 = [c, c] then some (content.length + 3, content)
      else none
    else none
  | _, _ => none

/-- `/^#{1,6}\s+(.+)$/gm` at a position. `^` holds at the start and after a line terminator;
the marks are the whole run of `#`, as a seventh stops `\s+`. `\s+` takes the whitespace
after them, newlines included, and the content is the line that follows; when the
whitespace runs to the end, `\s+` gives back units until the content can be one unit that is
not a line terminator. -/
def heading : Matcher (List UInt16) := fun prev s =>
  let marks := s.takeWhile (· = 35)
  let spaces := (s.drop marks.length).takeWhile isWs
  let rest := (s.drop marks.length).drop spaces.length
  if prev.all isLineTerminator && 1 ≤ marks.length && marks.length ≤ 6 && spaces ≠ [] then
    if rest ≠ [] then
      let content := rest.takeWhile fun u => !isLineTerminator u
      some (marks.length + spaces.length + content.length - 1, content)
    else match (spaces.drop 1).reverse.dropWhile isLineTerminator with
      | x :: before => some (marks.length + before.length + 1, [x])
      | [] => none
  else none

def isDigitUnit (u : UInt16) : Bool := 48 ≤ u.toNat && u.toNat ≤ 57

def tokenRef : Matcher (List UInt16) := fun _ s =>
  if (utf16 "@@TG_HTML_").isPrefixOf s then
    let digits := (s.drop 10).takeWhile isDigitUnit
    if digits ≠ [] && (s.drop (10 + digits.length)).take 2 = [64, 64] then
      some (digits.length + 11, digits)
    else none
  else none

/-! ## The renderer -/

def fencedHtml : Option (List UInt16) × List UInt16 → List UInt16
  | (lang, code) =>
    let escapedCode := escapeHtml (if code.getLast? = some 10 then code.dropLast else code)
    match lang with
    | some lang =>
      if 0 < (trim lang).length then
        utf16 "<pre><code class=\"language-" ++ escapeHtml (trim lang) ++ utf16 "\">" ++ escapedCode ++
          utf16 "</code></pre>"
      else utf16 "<pre>" ++ escapedCode ++ utf16 "</pre>"
    | none => utf16 "<pre>" ++ escapedCode ++ utf16 "</pre>"

def inlineHtml (code : List UInt16) : List UInt16 :=
  utf16 "<code>" ++ escapeHtml code ++ utf16 "</code>"

def linkHtml : List UInt16 × List UInt16 → List UInt16
  | (label, href) => utf16 "<a href=\"" ++ href ++ utf16 "\">" ++ label ++ utf16 "</a>"

/-- `<tag>$1</tag>`. -/
def wrap (tag content : List UInt16) : List UInt16 :=
  utf16 "<" ++ tag ++ utf16 ">" ++ content ++ utf16 "</" ++ tag ++ utf16 ">"

/-- The restore of a token: `Number(indexText)`, an index of the stash when it is a
non-negative integer, else the empty string. The value is exact; a double would round only
past `2^53`, far beyond any stash. -/
def restoreToken (parts : List (List UInt16)) (indexText : List UInt16) : List UInt16 :=
  match stringToNumber indexText with
  | some index => if index.den = 1 && 0 ≤ index then parts.getD index.num.toNat [] else []
  | none => []

def renderTelegramHtmlFromMarkdown (markdown : List UInt16) : List UInt16 :=
  let fenced := stashPass fencedCode fencedHtml [] markdown
  let inline := stashPass inlineCode inlineHtml fenced.2 fenced.1
  let text := escapeHtml inline.1
  let text := replaceAll linkMatch linkHtml text
  let text := replaceAll (delimited 42) (wrap (utf16 "b")) text
  let text := replaceAll (delimited 95) (wrap (utf16 "b")) text
  let text := replaceAll (delimited 126) (wrap (utf16 "s")) text
  let text := replaceAll heading (wrap (utf16 "b")) text
  replaceAll tokenRef (restoreToken inline.2) text

example : renderTelegramHtmlFromMarkdown (utf16 "**a** & `x<y`") =
    utf16 "<b>a</b> &amp; <code>x&lt;y</code>" := by decide

example : renderTelegramHtmlFromMarkdown (utf16 "```ts\nlet a = 1;\n```") =
    utf16 "<pre><code class=\"language-ts\">let a = 1;</code></pre>" := by decide

/-! ## Plain text -/

/-- The units an escape writes: `&`, `;` and the letters of `amp`, `lt` and `gt`. -/
def escapeMarks : List UInt16 := [38, 59, 97, 109, 112, 108, 116, 103]

theorem escapeUnit_of_ne {u : UInt16} (h : u ≠ 38 ∧ u ≠ 60 ∧ u ≠ 62) : escapeUnit u = [u] := by
  simp [escapeUnit, h.1, h.2.1, h.2.2]

theorem escapeUnit_special {u : UInt16} (h : u = 38 ∨ u = 60 ∨ u = 62) :
    (escapeUnit u).head? = some 38 ∧ ∀ x ∈ escapeUnit u, x ∈ escapeMarks := by
  rcases h with rfl | rfl | rfl <;> decide

theorem prefix_of_prefix_escape {w t : List UInt16} (hw : ∀ x ∈ w, x ∉ escapeMarks)
    (h : w <+: t.flatMap escapeUnit) : w <+: t := by
  induction w generalizing t with
  | nil => exact List.nil_prefix
  | cons x w ih =>
    cases t with
    | nil => exact absurd (List.eq_nil_of_prefix_nil h) (List.cons_ne_nil x w)
    | cons v t =>
      rw [List.flatMap_cons] at h
      by_cases hv : v = 38 ∨ v = 60 ∨ v = 62
      · -- the escaped text starts with `&`, a mark
        have hhead := (escapeUnit_special hv).1
        cases hg : escapeUnit v with
        | nil => simp [hg] at hhead
        | cons a l =>
          rw [hg, List.head?_cons, Option.some.injEq] at hhead
          rw [hg, List.cons_append, hhead] at h
          exact absurd ((List.cons_prefix_cons.mp h).1 ▸ (by decide : (38 : UInt16) ∈ escapeMarks))
            (hw x (List.mem_cons_self x w))
      · push_neg at hv
        rw [escapeUnit_of_ne hv, List.singleton_append] at h
        obtain ⟨rfl, hp⟩ := List.cons_prefix_cons.mp h
        exact List.cons_prefix_cons.mpr ⟨rfl, ih (fun y hy => hw y (List.mem_cons_of_mem x hy)) hp⟩

theorem infix_of_infix_marks {w pre r : List UInt16} (hw : ∀ x ∈ w, x ∉ escapeMarks)
    (hne : w ≠ []) (hpre : ∀ x ∈ pre, x ∈ escapeMarks) (h : w <:+: pre ++ r) : w <:+: r := by
  induction pre with
  | nil => exact h
  | cons a pre ih =>
    rcases List.infix_cons_iff.mp h with hp | hi
    · obtain ⟨x, w', rfl⟩ := List.exists_cons_of_ne_nil hne
      exact absurd ((List.cons_prefix_cons.mp hp).1 ▸ hpre a (List.mem_cons_self a pre))
        (hw x (List.mem_cons_self x w'))
    · exact ih (fun x hx => hpre x (List.mem_cons_of_mem a hx)) hi

theorem infix_of_infix_escape {w s : List UInt16} (hw : ∀ x ∈ w, x ∉ escapeMarks) (hne : w ≠ [])
    (h : w <:+: s.flatMap escapeUnit) : w <:+: s := by
  induction s with
  | nil => exact absurd (List.eq_nil_of_infix_nil h) hne
  | cons u s ih =>
    rw [List.flatMap_cons] at h
    by_cases hu : u = 38 ∨ u = 60 ∨ u = 62
    · exact List.infix_cons (ih (infix_of_infix_marks hw hne (escapeUnit_special hu).2 h))
    · push_neg at hu
      rw [escapeUnit_of_ne hu, List.singleton_append] at h
      rcases List.infix_cons_iff.mp h with hp | hi
      · refine (prefix_of_prefix_escape hw ?_).isInfix
        rwa [List.flatMap_cons, escapeUnit_of_ne hu, List.singleton_append]
      · exact List.infix_cons (ih hi)

theorem not_prefix_drop_escapeHtml {w markdown : List UInt16} (hw : ∀ x ∈ w, x ∉ escapeMarks)
    (hne : w ≠ []) (h : includes markdown w = false) (i : Nat) :
    ¬ w <+: (escapeHtml markdown).drop i := fun hp => by
  rw [escapeHtml_eq_flatMap] at hp
  have := infix_of_infix_escape hw hne (hp.isInfix.trans (List.drop_suffix i _).isInfix)
  rw [← includes_iff, h] at this
  cases this

theorem foldl_stashPiece_units {α : Type} (html : α → List UInt16) (l : List UInt16) :
    ∀ acc : List UInt16 × List (List UInt16),
      (l.map Piece.unit).foldl (stashPiece html) acc = (acc.1 ++ l, acc.2) := by
  induction l with
  | nil => simp
  | cons u l ih => intro acc; simp [stashPiece, ih]

theorem stashPass_of_quiet {α : Type} {m : Matcher α} {html : α → List UInt16}
    {parts : List (List UInt16)} {text : List UInt16}
    (h : ∀ i < text.length, m (prevAt none text i) (text.drop i) = none) :
    stashPass m html parts text = (text, parts) := by
  rw [stashPass, scan_of_quiet h, foldl_stashPiece_units]
  rfl

section
variable {p : Option UInt16} {t : List UInt16}

theorem fencedCode_of_head (h : t.head? ≠ some 96) : fencedCode p t = none := by
  unfold fencedCode; split <;> simp_all

theorem inlineCode_of_head (h : t.head? ≠ some 96) : inlineCode p t = none := by
  unfold inlineCode; split <;> simp_all

theorem linkMatch_of_head (h : t.head? ≠ some 91) : linkMatch p t = none := by
  unfold linkMatch; split <;> simp_all

theorem delimited_of_not_prefix {c : UInt16} (h : ¬ [c, c] <+: t) : delimited c p t = none := by
  unfold delimited
  split
  · rename_i a b rest
    rw [if_neg]
    rintro hab
    simp only [Bool.and_eq_true, decide_eq_true_eq] at hab
    obtain ⟨rfl, rfl⟩ := hab
    exact h (List.prefix_append _ rest)
  · rfl

theorem heading_of_not (h : ¬ (p.all isLineTerminator = true ∧ t.head? = some 35)) :
    heading p t = none := by
  unfold heading
  dsimp only
  rw [if_neg]
  intro hc
  simp only [Bool.and_eq_true, decide_eq_true_eq] at hc
  refine h ⟨hc.1.1.1, ?_⟩
  cases t with
  | nil => simp at hc
  | cons u t =>
    by_cases hu : u = 35
    · rw [hu]; rfl
    · simp [List.takeWhile_cons, hu] at hc

theorem tokenRef_of_not_prefix (h : ¬ utf16 "@@TG_HTML_" <+: t) : tokenRef p t = none := by
  unfold tokenRef
  rw [if_neg (by simpa using h)]

end

theorem lineTerminator_not_escapeMark {c : UInt16} (hc : isLineTerminator c = true) :
    c ∉ escapeMarks := by
  intro hm
  simp only [escapeMarks, List.mem_cons, List.mem_singleton, List.not_mem_nil, or_false] at hm
  rcases hm with rfl | rfl | rfl | rfl | rfl | rfl | rfl | rfl <;> exact absurd hc (by decide)

theorem replaceAll_delimited_escapeHtml {markdown : List UInt16} {c : UInt16}
    (f : List UInt16 → List UInt16) (hc : c ∉ escapeMarks) (h : includes markdown [c, c] = false) :
    replaceAll (delimited c) f (escapeHtml markdown) = escapeHtml markdown :=
  replaceFrom_of_quiet fun i _ => delimited_of_not_prefix
    (not_prefix_drop_escapeHtml (by simpa using hc) (List.cons_ne_nil _ _) h i)

theorem head?_eq_some_iff_heads {t : List UInt16} {x : UInt16} : t.head? = some x ↔ [x] <+: t := by
  cases t <;> simp [List.cons_prefix_cons, eq_comm]

theorem pair_infix_of_getElem? {t : List UInt16} {j : Nat} {c x : UInt16} (hc : t[j]? = some c)
    (hx : t[j + 1]? = some x) : [c, x] <:+: t := by
  obtain ⟨h1, rfl⟩ := List.getElem?_eq_some_iff.mp hc
  obtain ⟨h2, rfl⟩ := List.getElem?_eq_some_iff.mp hx
  refine ⟨t.take j, t.drop (j + 2), ?_⟩
  rw [List.append_assoc, List.cons_append, List.cons_append, List.nil_append,
    ← List.drop_eq_getElem_cons h2, ← List.drop_eq_getElem_cons h1, List.take_append_drop]

section
variable {markdown : List UInt16}

theorem replaceAll_linkMatch_escapeHtml (f : List UInt16 × List UInt16 → List UInt16)
    (hlink : 91 ∉ markdown) :
    replaceAll linkMatch f (escapeHtml markdown) = escapeHtml markdown := by
  have hlink' : includes markdown [91] = false := by
    rw [Bool.eq_false_iff, Ne, includes_iff]
    exact fun h => hlink (h.subset (List.mem_singleton_self 91))
  exact replaceFrom_of_quiet fun i _ => linkMatch_of_head fun h =>
    not_prefix_drop_escapeHtml (by decide) (by decide) hlink' i (head?_eq_some_iff_heads.mp h)

theorem replaceAll_heading_escapeHtml (f : List UInt16 → List UInt16)
    (hheading : markdown.head? ≠ some 35 ∧ ∀ c, isLineTerminator c = true → ¬ [c, 35] <:+: markdown) :
    replaceAll heading f (escapeHtml markdown) = escapeHtml markdown := by
  refine replaceFrom_of_quiet fun i _ => heading_of_not fun ⟨hp, hh⟩ => ?_
  rw [escapeHtml_eq_flatMap] at hp hh
  cases i with
  | zero =>
    -- a `#` at the start of the escape is one at the start of the markdown
    exact hheading.1 (head?_eq_some_iff_heads.mpr
      (prefix_of_prefix_escape (by decide) (head?_eq_some_iff_heads.mp hh)))
  | succ j =>
    -- a `#` after a line terminator of the escape is one after a line terminator of the markdown
    rw [List.head?_drop] at hh
    cases hc : (markdown.flatMap escapeUnit)[j]? with
    | none =>
      have h1 := (List.getElem?_eq_some_iff.mp hh).1
      have h2 := List.getElem?_eq_none_iff.mp hc
      omega
    | some c =>
      rw [prevAt, hc, Option.all_some] at hp
      exact hheading.2 c hp (infix_of_infix_escape
        (by simpa using ⟨lineTerminator_not_escapeMark hp, by decide⟩) (by simp)
        (pair_infix_of_getElem? hc hh))

theorem replaceAll_tokenRef_escapeHtml (f : List UInt16 → List UInt16)
    (htoken : includes markdown (utf16 "@@TG_HTML_") = false) :
    replaceAll tokenRef f (escapeHtml markdown) = escapeHtml markdown :=
  replaceFrom_of_quiet fun i _ => tokenRef_of_not_prefix
    (not_prefix_drop_escapeHtml (by decide) (by decide) htoken i)

end

/-- Plain markdown is only escaped: a chunk with no backtick, no `[`, no `**`, `__` or `~~`,
no line that starts with `#` and no text of a stash token renders as its HTML escape. -/
theorem plain_markdown_renders_escaped (markdown : List UInt16) (hcode : 96 ∉ markdown)
    (hlink : 91 ∉ markdown) (hbold : includes markdown (utf16 "**") = false)
    (hunder : includes markdown (utf16 "__") = false)
    (hstrike : includes markdown (utf16 "~~") = false)
    (hheading : markdown.head? ≠ some 35 ∧
      ∀ c, isLineTerminator c = true → ¬ [c, 35] <:+: markdown)
    (htoken : includes markdown (utf16 "@@TG_HTML_") = false) :
    renderTelegramHtmlFromMarkdown markdown = escapeHtml markdown := by
  -- the stashing replaces find no backtick
  have hhead : ∀ i, (markdown.drop i).head? ≠ some 96 := fun i h =>
    hcode (List.getElem?_mem (by rwa [List.head?_drop] at h))
  have hfenced : stashPass fencedCode fencedHtml [] markdown = (markdown, []) :=
    stashPass_of_quiet fun i _ => fencedCode_of_head (hhead i)
  have hinline : stashPass inlineCode inlineHtml [] markdown = (markdown, []) :=
    stashPass_of_quiet fun i _ => inlineCode_of_head (hhead i)
  -- the later replaces find nothing in the escaped text
  simp only [renderTelegramHtmlFromMarkdown, hfenced, hinline,
    replaceAll_linkMatch_escapeHtml _ hlink,
    replaceAll_delimited_escapeHtml (c := 42) _ (by decide) hbold,
    replaceAll_delimited_escapeHtml (c := 95) _ (by decide) hunder,
    replaceAll_delimited_escapeHtml (c := 126) _ (by decide) hstrike,
    replaceAll_heading_escapeHtml _ hheading, replaceAll_tokenRef_escapeHtml _ htoken]

theorem plain_sentence_renders_escaped :
    renderTelegramHtmlFromMarkdown (utf16 "a < b & c") = escapeHtml (utf16 "a < b & c") :=
  plain_markdown_renders_escaped (utf16 "a < b & c") (by decide) (by decide) (by decide)
    (by decide) (by decide)
    ⟨by decide, fun c _ h => absurd (h.subset (List.mem_cons_of_mem c (List.mem_singleton_self 35)))
      (by decide)⟩ (by decide)

/-! ## Tags of the output -/

/-- Where the reader of tags stands: in text, right after `<`, in a tag's name (`closing`
for `</`), or past the name up to the tag's `>`. -/
inductive TagState
  | text
  | opened
  | name (closing : Bool) (acc : List UInt16)
  | attrs (closing : Bool) (name : List UInt16)

/-- The tags of an HTML text in order, each with `true` when it closes: a name runs from `<`
or `</` to a space or `>`, and the tag ends at the next `>`. -/
def tagsFrom : TagState → List UInt16 → List (Bool × List UInt16)
  | _, [] => []
  | .text, u :: us => if u = 60 then tagsFrom .opened us else tagsFrom .text us
  | .opened, u :: us =>
    if u = 47 then tagsFrom (.name true []) us
    else if u = 62 then (false, []) :: tagsFrom .text us
    else if u = 32 then tagsFrom (.attrs false []) us
    else tagsFrom (.name false [u]) us
  | .name closing acc, u :: us =>
    if u = 62 then (closing, acc) :: tagsFrom .text us
    else if u = 32 then tagsFrom (.attrs closing acc) us
    else tagsFrom (.name closing (acc ++ [u])) us
  | .attrs closing name, u :: us =>
    if u = 62 then (closing, name) :: tagsFrom .text us else tagsFrom (.attrs closing name) us

/-- Tags are properly nested and balanced: each closes the last one still open, and none is
left open. -/
def tagsNest : List (List UInt16) → List (Bool × List UInt16) → Bool
  | stack, [] => stack.isEmpty
  | stack, (false, name) :: tags => tagsNest (name :: stack) tags
  | top :: stack, (true, name) :: tags => name == top && tagsNest stack tags
  | [], (true, _) :: _ => false

/-- A chunk that holds the text of a stash token, and none of the markdown the renderer
rewrites, renders as the empty string: the restore finds no stashed part at index 0. -/
theorem typed_token_renders_empty :
    (utf16 "@@TG_HTML_0@@").all (fun u => u != 96 && u != 91 && u != 35 && u != 42 && u != 126) ∧
      includes (utf16 "@@TG_HTML_0@@") (utf16 "__") = false ∧
      escapeHtml (utf16 "@@TG_HTML_0@@") = utf16 "@@TG_HTML_0@@" ∧
      renderTelegramHtmlFromMarkdown (utf16 "@@TG_HTML_0@@") = [] := by
  decide

/-- Bold markers that start inside a link's label and end after it wrap the link's closing
tag: the tags cross. -/
theorem link_label_bold_crosses_tags :
    renderTelegramHtmlFromMarkdown (utf16 "[**x](https://a)**") =
        utf16 "<a href=\"https://a\"><b>x</a></b>" ∧
      tagsNest [] (tagsFrom .text (renderTelegramHtmlFromMarkdown (utf16 "[**x](https://a)**"))) =
        false := by
  decide

end ton_agent_bot.telegram
