-- JavaScript strings as the bot's code reads them. A string is its UTF-16 code units, so
-- that `length`, `slice` and `lastIndexOf` count what JavaScript counts; whitespace is the
-- WhiteSpace and LineTerminator set of ECMA-262, which `trim()` removes and `\s` matches.
import Mathlib.Data.List.Infix
import Mathlib.Data.List.DropRight

namespace ton_agent_bot.js

/-! ## Code units and whitespace -/

/-- A code point of JavaScript whitespace: WhiteSpace or LineTerminator of ECMA-262. All of
them lie in the basic plane, so the test reads a code unit the same way. -/
def isWhitespaceCode (n : Nat) : Bool :=
  n = 0x09 || n = 0x0A || n = 0x0B || n = 0x0C || n = 0x0D || n = 0x20 || n = 0xA0 ||
    n = 0x1680 || (0x2000 ≤ n && n ≤ 0x200A) || n = 0x2028 || n = 0x2029 || n = 0x202F ||
    n = 0x205F || n = 0x3000 || n = 0xFEFF

/-- A line terminator: where `.` stops and where `^` and `$` of a multiline regular
expression match. -/
def isLineTerminatorCode (n : Nat) : Bool := n = 0x0A || n = 0x0D || n = 0x2028 || n = 0x2029

/-- JavaScript whitespace, for a character of a Lean string. -/
def isJsWhitespace (c : Char) : Bool := isWhitespaceCode c.toNat

def isWs (u : UInt16) : Bool := isWhitespaceCode u.toNat

def isLineTerminator (u : UInt16) : Bool := isLineTerminatorCode u.toNat

theorem isWs_toNat {u : UInt16} (h : isWs u = true) : u.toNat < 33 ∨ 159 < u.toNat := by
  simp only [isWs, isWhitespaceCode, Bool.or_eq_true, decide_eq_true_eq, Bool.and_eq_true] at h
  omega

/-- The UTF-16 code units of a string: a code point past the basic plane is a surrogate
pair. Literal texts of the source are written through it. -/
def utf16 (s : String) : List UInt16 :=
  s.data.flatMap fun c =>
    if c.toNat < 0x10000 then [c.toNat.toUInt16]
    else [(0xD800 + (c.toNat - 0x10000) / 0x400).toUInt16,
      (0xDC00 + (c.toNat - 0x10000) % 0x400).toUInt16]

/-- `toLowerCase` as the bot's tests on its result see it: ASCII capitals become small
letters, the Kelvin sign becomes `k` and the dotted capital I becomes `i` and a combining
dot. Every other code unit lowercases to one outside ASCII, or stays, and no text the code
looks for holds one, so it is kept. -/
def toLowerCase (s : List UInt16) : List UInt16 :=
  s.flatMap fun u =>
    if 65 ≤ u.toNat ∧ u.toNat ≤ 90 then [u + 32]
    else if u = 0x212A then [107]
    else if u = 0x130 then [105, 0x307]
    else [u]

/-- `toLowerCase` of one character of a Lean string, under the same reading. -/
def toLowerChars (c : Char) : List Char :=
  if c = '\u212A' then ['k'] else if c = '\u0130' then ['i', '\u0307'] else [c.toLower]

/-- The code of the ASCII capital of a code unit, every other unit kept. A regular
expression with flag `i` and without `u` compares an ASCII unit of its pattern with a unit
of the text through it: no unit outside ASCII has its canonical case inside. -/
def asciiUpper (u : UInt16) : Nat := if 97 ≤ u.toNat ∧ u.toNat ≤ 122 then u.toNat - 32 else u.toNat

/-- `pattern`, of ASCII units, stands at the head of `s` for a regular expression with flag
`i`. -/
def ciPrefix (pattern s : List UInt16) : Bool :=
  (pattern.map asciiUpper).isPrefixOf (s.map asciiUpper)

/-! ## Trimming -/

/-- `trimStart()`. -/
def trimStart (s : List UInt16) : List UInt16 := s.dropWhile isWs

/-- `trimEnd()`. -/
def trimEnd (s : List UInt16) : List UInt16 := (s.reverse.dropWhile isWs).reverse

/-- `trim()`. -/
def trim (s : List UInt16) : List UInt16 := trimEnd (trimStart s)

/-- `slice(start, end)` for `start ≤ end`. -/
def slice (s : List UInt16) (start stop : Nat) : List UInt16 := (s.drop start).take (stop - start)

/-- `lastIndexOf(u)` of a one-unit string: the last index of `u`, or `-1`. -/
def lastIndexOf : List UInt16 → UInt16 → Int
  | [], _ => -1
  | c :: cs, u =>
    if 0 ≤ lastIndexOf cs u then lastIndexOf cs u + 1 else if c = u then 0 else -1

/-- `s.includes(t)`: `t` stands somewhere in `s`. -/
def includes (s t : List UInt16) : Bool := s.tails.any (t.isPrefixOf ·)

section
variable {pattern s w : List UInt16}

theorem ciPrefix_iff : ciPrefix pattern s = true ↔ pattern.map asciiUpper <+: s.map asciiUpper :=
  List.isPrefixOf_iff_prefix

theorem includes_iff {t : List UInt16} : includes s t = true ↔ t <:+: s := by
  simp only [includes, List.any_eq_true, List.mem_tails, List.isPrefixOf_iff_prefix]
  exact ⟨fun ⟨x, hx, hp⟩ => List.infix_iff_prefix_suffix.mpr ⟨x, hp, hx⟩,
    fun h => List.infix_iff_prefix_suffix.mp h |>.imp fun _ ⟨hp, hx⟩ => ⟨hx, hp⟩⟩

theorem ciPrefix_extend (h : ciPrefix pattern w = true) (hw : w <+: s) :
    ciPrefix pattern s = true :=
  ciPrefix_iff.mpr ((ciPrefix_iff.mp h).trans (hw.map _))

theorem map_asciiUpper_take (h : ciPrefix pattern s = true) :
    (s.take pattern.length).map asciiUpper = pattern.map asciiUpper := by
  rw [List.map_take, ← List.length_map pattern asciiUpper]
  exact (List.prefix_iff_eq_take.mp (ciPrefix_iff.mp h)).symm

theorem ciPrefix_take (h : ciPrefix pattern s = true) {n : Nat} (hn : pattern.length ≤ n) :
    ciPrefix pattern (s.take n) = true := by
  rw [ciPrefix_iff, List.map_take, List.prefix_take_iff]
  exact ⟨ciPrefix_iff.mp h, by simpa using hn⟩

theorem length_le_of_ciPrefix (h : ciPrefix pattern s = true) : pattern.length ≤ s.length := by
  simpa using (ciPrefix_iff.mp h).length_le

theorem head_of_ciPrefix {c : UInt16} {cs : List UInt16} (h : ciPrefix (c :: cs) s = true) :
    ∃ x s', s = x :: s' ∧ asciiUpper x = asciiUpper c := by
  cases s with
  | nil => simp [ciPrefix] at h
  | cons x s' =>
    have := (ciPrefix_iff.mp h)
    simp only [List.map_cons, List.cons_prefix_cons] at this
    exact ⟨x, s', rfl, this.1.symm⟩

end

/-- The code units that are not whitespace. -/
def visible (s : List UInt16) : List UInt16 := s.filter fun u => !isWs u

section
variable {s t : List UInt16}

@[simp] theorem visible_append : visible (s ++ t) = visible s ++ visible t := List.filter_append _ _

theorem visible_dropWhile : visible (s.dropWhile isWs) = visible s := by
  induction s with
  | nil => rfl
  | cons u s ih =>
    simp only [List.dropWhile_cons]
    cases hu : isWs u
    · rfl
    · simpa [visible, hu] using ih

theorem visible_reverse : visible s.reverse = (visible s).reverse := List.filter_reverse _ _

theorem visible_trim : visible (trim s) = visible s := by
  simp only [trim, trimEnd, trimStart, visible_reverse, visible_dropWhile, List.reverse_reverse]

theorem trimEnd_prefix : trimEnd s <+: s := by
  have h : (s.reverse.dropWhile isWs) <:+ s.reverse := List.dropWhile_suffix _
  simpa [trimEnd] using List.reverse_suffix.mp (by simpa using h)

theorem trimEnd_prefix_trimEnd_append : trimEnd s <+: trimEnd (s ++ t) := by
  unfold trimEnd
  rw [List.reverse_append, List.dropWhile_append]
  split
  · exact List.prefix_refl _
  · rw [List.reverse_append, List.reverse_reverse]
    exact trimEnd_prefix.trans (List.prefix_append _ _)

theorem length_trim_le : (trim s).length ≤ s.length :=
  calc (trim s).length ≤ (trimStart s).length := trimEnd_prefix.length_le
    _ ≤ s.length := (List.dropWhile_suffix _).length_le

theorem trim_eq_nil_iff : trim s = [] ↔ ∀ u ∈ s, isWs u = true := by
  constructor
  · intro h u hu
    have hv : visible s = [] := by rw [← visible_trim, h]; rfl
    simpa using List.filter_eq_nil_iff.mp hv u hu
  · intro h
    simp [trim, trimStart, List.dropWhile_eq_nil_iff.mpr h, trimEnd]

theorem trim_eq_nil_iff_visible : trim s = [] ↔ visible s = [] := by
  rw [trim_eq_nil_iff, visible, List.filter_eq_nil_iff]
  simp

theorem trim_trimEnd (h : ∀ u, s.head? = some u → isWs u = false) : trim (trimEnd s) = trimEnd s := by
  have hstart : trimStart (trimEnd s) = trimEnd s := by
    cases hs : trimEnd s with
    | nil => rfl
    | cons u r =>
      have hu := h u (by
        obtain ⟨q, hq⟩ := trimEnd_prefix (s := s)
        rw [← hq, hs]; rfl)
      exact List.dropWhile_cons_of_neg (by simp [hu])
  rw [trim, hstart, trimEnd, trimEnd, List.reverse_reverse, List.dropWhile_idempotent]

theorem trim_trim : trim (trim s) = trim s := by
  refine trim_trimEnd fun u hu => ?_
  have := List.head?_dropWhile_not isWs s
  rwa [← trimStart, hu] at this

theorem isWs_head_trim {u : UInt16} (h : (trim s).head? = some u) : isWs u = false := by
  obtain ⟨q, hq⟩ := trimEnd_prefix (s := trimStart s)
  cases hv : trim s with
  | nil => simp [hv] at h
  | cons v L =>
    have := List.head?_dropWhile_not isWs s
    rw [hv, List.head?_cons, Option.some.injEq] at h
    rw [← trimStart, ← hq, ← trim, hv, h] at this
    exact this

theorem trimEnd_eq_self {u : UInt16} (h : s.getLast? = some u) (hu : isWs u = false) :
    trimEnd s = s := by
  rw [List.getLast?_eq_head?_reverse] at h
  obtain ⟨r, hr⟩ : ∃ r, s.reverse = u :: r := by
    cases hs : s.reverse with
    | nil => simp [hs] at h
    | cons v r => simp only [hs, List.head?_cons, Option.some.injEq] at h; exact ⟨r, h ▸ rfl⟩
  rw [trimEnd, hr, List.dropWhile_cons_of_neg (by simp [hu]), ← hr, List.reverse_reverse]

theorem trimEnd_cons {u : UInt16} (hu : isWs u = false) (r : List UInt16) :
    [u] <+: trimEnd (u :: r) := by
  have h : trimEnd [u] = [u] := by simp [trimEnd, hu]
  simpa [h] using (trimEnd_prefix_trimEnd_append : trimEnd [u] <+: trimEnd ([u] ++ r))

end

/-! ## The last index of a code unit -/

section
variable {w : List UInt16} {u : UInt16}

theorem lastIndexOf_bounds (w : List UInt16) (u : UInt16) :
    -1 ≤ lastIndexOf w u ∧ lastIndexOf w u < w.length := by
  induction w with
  | nil => simp [lastIndexOf]
  | cons c cs ih => simp only [lastIndexOf, List.length_cons]; split_ifs <;> omega

theorem lastIndexOf_eq_neg_one (h : ∀ j : Nat, w[j]? ≠ some u) : lastIndexOf w u = -1 := by
  induction w with
  | nil => rfl
  | cons c cs ih =>
    have hc : c ≠ u := fun e => h 0 (by simp [e])
    simp [lastIndexOf, ih fun j => by simpa using h (j + 1), hc]

theorem getElem?_lastIndexOf (h : 0 ≤ lastIndexOf w u) : w[(lastIndexOf w u).toNat]? = some u := by
  induction w with
  | nil => simp [lastIndexOf] at h
  | cons c cs ih =>
    unfold lastIndexOf at h ⊢
    split_ifs at h ⊢ with hr hc
    · rw [show (lastIndexOf cs u + 1).toNat = (lastIndexOf cs u).toNat + 1 by omega]
      simpa using ih hr
    · simp [hc]
    · omega

theorem lastIndexOf_eq {i : Nat} (hi : w[i]? = some u) (h : ∀ j : Nat, i < j → w[j]? ≠ some u) :
    lastIndexOf w u = i := by
  induction w generalizing i with
  | nil => simp at hi
  | cons c cs ih =>
    cases i with
    | zero =>
      have hc : c = u := by simpa using hi
      have hr : lastIndexOf cs u = -1 :=
        lastIndexOf_eq_neg_one fun j => by simpa using h (j + 1) (by omega)
      simp [lastIndexOf, hr, hc]
    | succ k =>
      have hr := ih (by simpa using hi) fun j hj => by simpa using h (j + 1) (by omega)
      simp only [lastIndexOf, hr]
      omega

theorem lastIndexOf_lt {i : Nat} (h : ∀ j : Nat, i ≤ j → w[j]? ≠ some u) :
    lastIndexOf w u < i := by
  by_contra hlt
  have h0 : 0 ≤ lastIndexOf w u := by omega
  exact h _ (by omega) (getElem?_lastIndexOf h0)

end

end ton_agent_bot.js
