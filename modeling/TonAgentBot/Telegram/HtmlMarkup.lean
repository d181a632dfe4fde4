-- What renderTelegramHtmlFromMarkdown writes is markup where markup is due: every `&` of
-- its output begins an entity and every `<` one of the renderer's own tags, for every
-- input. Each replace keeps that from its input: no expression matches inside an entity or
-- a tag, each run it copies into a tag stops only at a unit that no entity or tag holds,
-- and the stashed parts are escaped code between tags.
import TonAgentBot.Telegram.Html

namespace ton_agent_bot.telegram

open js

/-! ## Markup -/

def ENTITIES : List (List UInt16) := [utf16 "&amp;", utf16 "&lt;", utf16 "&gt;"]

/-- The openings of the renderer's tags. -/
def TAG_STARTS : List (List UInt16) :=
  [utf16 "<b>", utf16 "</b>", utf16 "<s>", utf16 "</s>", utf16 "<code>",
    utf16 "<code class=\"language-", utf16 "</code>", utf16 "<pre>", utf16 "</pre>",
    utf16 "<a href=\"", utf16 "</a>"]

def MARKUP : List (List UInt16) := ENTITIES ++ TAG_STARTS

/-- The units of the markup. -/
def MARKUP_UNITS : List UInt16 := MARKUP.flatten

/-- At an `&` or a `<` of a text, one of `marks` starts. -/
def closedAt (marks : List (List UInt16)) : List UInt16 → Bool
  | [] => true
  | u :: t => !(u = 38 || u = 60) || marks.any (·.isPrefixOf (u :: t))

/-- Every `&` and `<` of a text begins one of `marks`. -/
def Marked (marks : List (List UInt16)) (s : List UInt16) : Prop :=
  Everywhere (fun t => closedAt marks t = true) s

section
variable {marks : List (List UInt16)} {s t : List UInt16}

theorem marked_of_tails (h : ∀ t ∈ s.tails, closedAt marks t = true) : Marked marks s :=
  fun i => h _ ((List.mem_tails _ _).mpr (List.drop_suffix i s))

theorem marked_nil : Marked marks [] := marked_of_tails (by simp [closedAt])

theorem marked_singleton {u : UInt16} (h : u ≠ 38 ∧ u ≠ 60) : Marked marks [u] :=
  marked_of_tails (by simp [closedAt, h.1, h.2])

theorem Marked.drop (h : Marked marks s) (k : Nat) : Marked marks (s.drop k) := fun i => by
  simpa [List.drop_drop] using h (k + i)

theorem closedAt_append (h : closedAt marks s = true) (hs : s ≠ []) (r : List UInt16) :
    closedAt marks (s ++ r) = true := by
  obtain ⟨u, s, rfl⟩ := List.exists_cons_of_ne_nil hs
  simp only [closedAt, List.cons_append, Bool.or_eq_true, Bool.not_eq_true', List.any_eq_true,
    List.isPrefixOf_iff_prefix] at h ⊢
  exact h.imp_right fun ⟨e, he, hp⟩ => ⟨e, he, hp.trans (List.prefix_append _ _)⟩

theorem Marked.append (hs : Marked marks s) (ht : Marked marks t) : Marked marks (s ++ t) := by
  intro i
  rw [List.drop_append_eq_append_drop]
  by_cases hi : i < s.length
  · rw [Nat.sub_eq_zero_of_le hi.le, List.drop_zero]
    exact closedAt_append (hs i) (by simpa using hi) t
  · rw [List.drop_eq_nil_of_le (by omega), List.nil_append]
    exact ht _

theorem closedAt_mono {marks' : List (List UInt16)} (hsub : marks ⊆ marks')
    (h : closedAt marks t = true) : closedAt marks' t = true := by
  cases t with
  | nil => rfl
  | cons u r =>
    simp only [closedAt, Bool.or_eq_true, List.any_eq_true] at h ⊢
    exact h.imp_right fun ⟨e, he, hp⟩ => ⟨e, hsub he, hp⟩

theorem Marked.mono {marks' : List (List UInt16)} (hsub : marks ⊆ marks') (h : Marked marks s) :
    Marked marks' s := fun i => closedAt_mono hsub (h i)

theorem prefix_takeWhile_of_all {q : UInt16 → Bool} {e : List UInt16} (he : ∀ y ∈ e, q y = true)
    (h : e <+: s) : e <+: s.takeWhile q := by
  induction e generalizing s with
  | nil => exact List.nil_prefix
  | cons y e ih =>
    obtain ⟨r, rfl⟩ := h
    rw [List.cons_append, List.takeWhile_cons, if_pos (he y (List.mem_cons_self y e))]
    exact List.cons_prefix_cons.mpr ⟨rfl, ih (fun x hx => he x (List.mem_cons_of_mem y hx))
      (List.prefix_append e r)⟩

theorem Marked.takeWhile {q : UInt16 → Bool} (hq : ∀ e ∈ marks, ∀ y ∈ e, q y = true)
    (h : Marked marks s) : Marked marks (s.takeWhile q) := by
  induction s with
  | nil => exact marked_nil
  | cons u s ih =>
    rw [List.takeWhile_cons]
    split
    · refine everywhere_cons.mpr ⟨?_, ih (everywhere_cons.mp h).2⟩
      have h0 := (everywhere_cons.mp h).1
      simp only [closedAt, Bool.or_eq_true, List.any_eq_true, List.isPrefixOf_iff_prefix] at h0 ⊢
      refine h0.imp_right fun ⟨e, he, hp⟩ => ⟨e, he, ?_⟩
      have := prefix_takeWhile_of_all (hq e he) hp
      rwa [List.takeWhile_cons, if_pos ‹_›] at this
    · exact marked_nil

end

theorem entities_subset : ENTITIES ⊆ MARKUP := List.subset_append_left _ _

/-! ## What a pass copies -/

/-- No expression of a pass matches at a unit of the markup that follows another. -/
def Inert {α : Type} (m : Matcher α) : Prop :=
  ∀ y x t, y ∈ MARKUP_UNITS → x ∈ MARKUP_UNITS → m (some y) (x :: t) = none

theorem mem_units {e : List UInt16} (he : e ∈ MARKUP) {y : UInt16} (hy : y ∈ e) : y ∈ MARKUP_UNITS :=
  List.mem_flatten.mpr ⟨e, he, hy⟩

theorem closedAt_miss {α : Type} {m : Matcher α} {f : α → List UInt16} (hm : Inert m)
    {marks : List (List UInt16)} (hsub : marks ⊆ MARKUP) {u : UInt16} {us : List UInt16}
    (h : closedAt marks (u :: us) = true) :
    closedAt marks (u :: replaceFrom m f 0 (some u) us) = true := by
  simp only [closedAt, Bool.or_eq_true, List.any_eq_true, List.isPrefixOf_iff_prefix] at h ⊢
  refine h.imp_right fun ⟨e, he, hp⟩ => ⟨e, he, ?_⟩
  obtain ⟨r, hr⟩ := hp
  cases e with
  | nil => exact List.nil_prefix
  | cons x e' =>
    obtain ⟨rfl, rfl⟩ : x = u ∧ e' ++ r = us := by simpa using hr
    have hunits : ∀ y ∈ x :: e', y ∈ MARKUP_UNITS := fun y hy => mem_units (hsub he) hy
    -- from each unit of the markup after the first, the pass copies
    have hq : ∀ i < e'.length, m (prevAt (some x) (e' ++ r) i) ((e' ++ r).drop i) = none := by
      intro i hi
      rw [List.drop_append_of_le_length hi.le, List.drop_eq_getElem_cons hi, List.cons_append]
      have hxi : e'[i] ∈ MARKUP_UNITS := hunits _ (List.mem_cons_of_mem x (List.getElem_mem hi))
      cases i with
      | zero => exact hm x _ _ (hunits x (List.mem_cons_self x e')) hxi
      | succ j =>
        rw [prevAt, List.getElem?_append_left (by omega), List.getElem?_eq_getElem (by omega)]
        exact hm _ _ _ (hunits _ (List.mem_cons_of_mem x (List.getElem_mem _))) hxi
    rw [replaceFrom_quiet hq, List.take_left' rfl]
    exact List.cons_prefix_cons.mpr ⟨rfl, List.prefix_append _ _⟩

theorem linkMatch_inert : Inert linkMatch := fun _ x _ _ hx =>
  linkMatch_of_head fun h => absurd (Option.some.inj h ▸ hx) (by decide)

theorem delimited_inert {c : UInt16} (hc : c ∉ MARKUP_UNITS) : Inert (delimited c) :=
  fun _ _ _ _ hx => delimited_of_not_prefix fun h => hc ((List.cons_prefix_cons.mp h).1 ▸ hx)

theorem heading_inert : Inert heading := fun y _ _ hy _ => heading_of_not fun ⟨h, _⟩ => by
  have : ∀ y ∈ MARKUP_UNITS, isLineTerminator y = false := by decide
  simp [this y hy] at h

theorem tokenRef_inert : Inert tokenRef := fun _ x _ _ hx => tokenRef_of_not_prefix fun h =>
  absurd ((List.cons_prefix_cons.mp h).1 ▸ hx) (by decide)

/-! ## What a pass writes -/

theorem marked_escapeUnit (u : UInt16) : Marked ENTITIES (escapeUnit u) := by
  by_cases hu : u = 38 ∨ u = 60 ∨ u = 62
  · rcases hu with rfl | rfl | rfl <;> exact marked_of_tails (by decide)
  · push_neg at hu
    rw [escapeUnit_of_ne hu]
    exact marked_singleton ⟨hu.1, hu.2.1⟩

theorem marked_escapeHtml (value : List UInt16) : Marked ENTITIES (escapeHtml value) := by
  rw [escapeHtml_eq_flatMap]
  induction value with
  | nil => exact marked_nil
  | cons u us ih => rw [List.flatMap_cons]; exact (marked_escapeUnit u).append ih

theorem marked_linkHtml {p : Option UInt16} {t : List UInt16} {n : Nat}
    {g : List UInt16 × List UInt16} (h : linkMatch p t = some (n, g)) (ht : Marked ENTITIES t) :
    Marked MARKUP (linkHtml g) := by
  unfold linkMatch at h
  split at h
  · rename_i rest
    have hrest : Marked ENTITIES rest := (everywhere_cons.mp ht).2
    dsimp only at h
    split at h
    · rename_i target htarget
      have htarget' : Marked ENTITIES target := by
        have := hrest.drop (rest.takeWhile fun u => u ≠ 93 && u ≠ 10).length
        rw [htarget] at this
        exact (everywhere_cons.mp (everywhere_cons.mp this).2).2
      split at h
      · rename_i scheme hscheme
        split_ifs at h
        cases h
        have hlabel := hrest.takeWhile (q := fun u => u ≠ 93 && u ≠ 10) (by decide)
        have htail := (htarget'.drop scheme.length).takeWhile (q := fun u => u ≠ 41 && !isWs u)
          (by decide)
        have hschemes : ∀ sc ∈ LINK_SCHEMES, ∀ t ∈ sc.tails, closedAt ENTITIES t = true := by decide
        have hsc := marked_of_tails (hschemes scheme (List.mem_of_find?_eq_some hscheme))
        simp only [linkHtml]
        exact ((((marked_of_tails (by decide)).append ((hsc.append htail).mono entities_subset)).append
          (marked_of_tails (by decide))).append (hlabel.mono entities_subset)).append
          (marked_of_tails (by decide))
      · cases h
    · cases h
  · cases h

theorem marked_delimited {c : UInt16} (hc : ∀ e ∈ MARKUP, ∀ y ∈ e, (y ≠ 10 && y ≠ c) = true)
    {p : Option UInt16} {t : List UInt16} {n : Nat} {g : List UInt16}
    (h : delimited c p t = some (n, g)) (ht : Marked MARKUP t) : Marked MARKUP g := by
  unfold delimited at h
  split at h
  · split at h
    · dsimp only at h
      split at h
      · cases h
        exact Marked.takeWhile hc (everywhere_cons.mp (everywhere_cons.mp ht).2).2
      · cases h
    · cases h
  · cases h

theorem marked_heading {p : Option UInt16} {t : List UInt16} {n : Nat} {g : List UInt16}
    (h : heading p t = some (n, g)) (ht : Marked MARKUP t) : Marked MARKUP g := by
  unfold heading at h
  dsimp only at h
  split_ifs at h
  · cases h
    exact ((ht.drop _).drop _).takeWhile (by decide)
  · split at h
    · rename_i x before hx
      cases h
      -- the one unit left to the content is whitespace
      have hmem : x ∈ (t.drop (t.takeWhile (· = 35)).length).takeWhile isWs := by
        have : x ∈ (((t.drop (t.takeWhile (· = 35)).length).takeWhile isWs).drop 1).reverse := by
          have := (List.dropWhile_suffix isLineTerminator
            (l := (((t.drop (t.takeWhile (· = 35)).length).takeWhile isWs).drop 1).reverse)).subset
          exact this (hx ▸ List.mem_cons_self x before)
        exact (List.drop_subset 1 _) (List.mem_reverse.mp this)
      have hws := isWs_toNat (List.mem_takeWhile_imp hmem)
      exact marked_singleton ⟨fun h => absurd (h ▸ hws) (by decide), fun h => absurd (h ▸ hws) (by decide)⟩
    · cases h

theorem marked_wrap (tag : List UInt16) (hopen : Marked MARKUP (utf16 "<" ++ tag ++ utf16 ">"))
    (hclose : Marked MARKUP (utf16 "</" ++ tag ++ utf16 ">")) {content : List UInt16}
    (h : Marked MARKUP content) : Marked MARKUP (wrap tag content) := by
  have : wrap tag content = (utf16 "<" ++ tag ++ utf16 ">") ++ content ++ (utf16 "</" ++ tag ++ utf16 ">") := by
    simp [wrap, List.append_assoc]
  rw [this]
  exact (hopen.append h).append hclose

theorem marked_getD {parts : List (List UInt16)} (hparts : ∀ q ∈ parts, Marked MARKUP q) (k : Nat) :
    Marked MARKUP (parts.getD k []) := by
  rw [List.getD_eq_getElem?_getD]
  cases hq : parts[k]? with
  | none => exact marked_nil
  | some q => exact hparts q (List.getElem?_mem hq)

theorem marked_restoreToken {parts : List (List UInt16)} (hparts : ∀ q ∈ parts, Marked MARKUP q)
    (indexText : List UInt16) : Marked MARKUP (restoreToken parts indexText) := by
  unfold restoreToken
  split
  · split_ifs
    · exact marked_getD hparts _
    · exact marked_nil
  · exact marked_nil

theorem marked_fencedHtml (g : Option (List UInt16) × List UInt16) : Marked MARKUP (fencedHtml g) := by
  obtain ⟨lang, code⟩ := g
  unfold fencedHtml
  dsimp only
  have hcode := (marked_escapeHtml (if code.getLast? = some 10 then code.dropLast else code)).mono
    entities_subset
  generalize escapeHtml (if code.getLast? = some 10 then code.dropLast else code) = escapedCode
    at hcode ⊢
  split
  · split_ifs
    · exact ((((marked_of_tails (by decide)).append
        ((marked_escapeHtml _).mono entities_subset)).append (marked_of_tails (by decide))).append
        hcode).append (marked_of_tails (by decide))
    · exact ((marked_of_tails (by decide)).append hcode).append (marked_of_tails (by decide))
  · exact ((marked_of_tails (by decide)).append hcode).append (marked_of_tails (by decide))

theorem marked_inlineHtml (code : List UInt16) : Marked MARKUP (inlineHtml code) :=
  ((marked_of_tails (by decide)).append ((marked_escapeHtml code).mono entities_subset)).append
    (marked_of_tails (by decide))

theorem marked_stashPass {α : Type} {m : Matcher α} {html : α → List UInt16}
    (hhtml : ∀ g, Marked MARKUP (html g)) {parts : List (List UInt16)} (text : List UInt16)
    (hparts : ∀ q ∈ parts, Marked MARKUP q) : ∀ q ∈ (stashPass m html parts text).2, Marked MARKUP q := by
  unfold stashPass
  generalize scan m 0 none text = pieces
  suffices ∀ (pieces : List (Piece α)) (acc : List UInt16 × List (List UInt16)),
      (∀ q ∈ acc.2, Marked MARKUP q) → ∀ q ∈ (pieces.foldl (stashPiece html) acc).2, Marked MARKUP q
    from this pieces _ hparts
  intro pieces
  induction pieces with
  | nil => exact fun _ h => h
  | cons piece pieces ih =>
    intro acc hacc
    refine ih _ ?_
    cases piece with
    | unit u => exact hacc
    | hit g =>
      intro q hq
      simp only [stashPiece, List.mem_append, List.mem_singleton] at hq
      rcases hq with hq | rfl
      exacts [hacc q hq, hhtml g]

/-! ## The passes -/

section
variable {s : List UInt16}

theorem marked_linkPass (h : Marked ENTITIES s) : Marked MARKUP (replaceAll linkMatch linkHtml s) := by
  refine everywhere_replaceFrom (P := fun t => closedAt MARKUP t = true) rfl ?_ ?_ h
  · exact fun _ _ _ _ _ hm hin hR => (marked_linkHtml hm hin).append hR
  · exact fun _ _ _ _ hin _ => closedAt_mono entities_subset
      (closedAt_miss linkMatch_inert entities_subset (everywhere_cons.mp hin).1)

theorem marked_delimitedPass {c : UInt16} (hc : c ∉ MARKUP_UNITS)
    (hrun : ∀ e ∈ MARKUP, ∀ y ∈ e, (y ≠ 10 && y ≠ c) = true) (tag : List UInt16)
    (hopen : Marked MARKUP (utf16 "<" ++ tag ++ utf16 ">"))
    (hclose : Marked MARKUP (utf16 "</" ++ tag ++ utf16 ">")) (h : Marked MARKUP s) :
    Marked MARKUP (replaceAll (delimited c) (wrap tag) s) := by
  refine everywhere_replaceFrom (P := fun t => closedAt MARKUP t = true) rfl ?_ ?_ h
  · exact fun _ _ _ _ _ hm hin hR =>
      (marked_wrap tag hopen hclose (marked_delimited hrun hm hin)).append hR
  · exact fun _ _ _ _ hin _ => closedAt_miss (delimited_inert hc) (List.Subset.refl _)
      (everywhere_cons.mp hin).1

theorem marked_headingPass (h : Marked MARKUP s) :
    Marked MARKUP (replaceAll heading (wrap (utf16 "b")) s) := by
  refine everywhere_replaceFrom (P := fun t => closedAt MARKUP t = true) rfl ?_ ?_ h
  · exact fun _ _ _ _ _ hm hin hR => (marked_wrap (utf16 "b") (marked_of_tails (by decide))
      (marked_of_tails (by decide)) (marked_heading hm hin)).append hR
  · exact fun _ _ _ _ hin _ => closedAt_miss heading_inert (List.Subset.refl _)
      (everywhere_cons.mp hin).1

theorem marked_tokenPass {parts : List (List UInt16)} (hparts : ∀ q ∈ parts, Marked MARKUP q)
    (h : Marked MARKUP s) : Marked MARKUP (replaceAll tokenRef (restoreToken parts) s) := by
  refine everywhere_replaceFrom (P := fun t => closedAt MARKUP t = true) rfl ?_ ?_ h
  · exact fun _ _ _ _ _ _ _ hR => (marked_restoreToken hparts _).append hR
  · exact fun _ _ _ _ hin _ => closedAt_miss tokenRef_inert (List.Subset.refl _)
      (everywhere_cons.mp hin).1

end

theorem marked_renderTelegramHtmlFromMarkdown (markdown : List UInt16) :
    Marked MARKUP (renderTelegramHtmlFromMarkdown markdown) := by
  have hparts := marked_stashPass (m := inlineCode) marked_inlineHtml
    (stashPass fencedCode fencedHtml [] markdown).1
    (marked_stashPass (m := fencedCode) marked_fencedHtml markdown fun _ h => absurd h (List.not_mem_nil _))
  have hb : Marked MARKUP (utf16 "<" ++ utf16 "b" ++ utf16 ">") := marked_of_tails (by decide)
  have hb' : Marked MARKUP (utf16 "</" ++ utf16 "b" ++ utf16 ">") := marked_of_tails (by decide)
  exact marked_tokenPass hparts (marked_headingPass
    (marked_delimitedPass (c := 126) (by decide) (by decide) _ (marked_of_tails (by decide))
      (marked_of_tails (by decide))
      (marked_delimitedPass (c := 95) (by decide) (by decide) _ hb hb'
        (marked_delimitedPass (c := 42) (by decide) (by decide) _ hb hb'
          (marked_linkPass (marked_escapeHtml _))))))

theorem head?_eq_of_heads {e t : List UInt16} {x : UInt16} (he : e.head? = some x) (h : e <+: t) :
    t.head? = some x := by
  obtain ⟨r, rfl⟩ := h
  cases e with
  | nil => cases he
  | cons y e => simpa using he

theorem closedAt_markup {t : List UInt16} (h : closedAt MARKUP t = true) :
    (t.head? = some 38 → ∃ e ∈ ENTITIES, e <+: t) ∧
      (t.head? = some 60 → ∃ g ∈ TAG_STARTS, g <+: t) := by
  have hent : ∀ e ∈ ENTITIES, e.head? = some 38 := by decide
  have htag : ∀ g ∈ TAG_STARTS, g.head? = some 60 := by decide
  cases t with
  | nil => simp
  | cons u r =>
    simp only [closedAt, Bool.or_eq_true, Bool.not_eq_true', List.any_eq_true,
      List.isPrefixOf_iff_prefix, MARKUP, List.mem_append] at h
    simp only [List.head?_cons, Option.some.injEq]
    constructor
    · rintro rfl
      obtain h | ⟨e, he | he, hp⟩ := h
      · exact absurd h (by decide)
      · exact ⟨e, he, hp⟩
      · exact absurd (head?_eq_of_heads (htag e he) hp) (by simp)
    · rintro rfl
      obtain h | ⟨e, he | he, hp⟩ := h
      · exact absurd h (by decide)
      · exact absurd (head?_eq_of_heads (hent e he) hp) (by simp)
      · exact ⟨e, he, hp⟩

/-- For every input, every `&` of the rendered HTML begins `&amp;`, `&lt;` or `&gt;`, and
every `<` begins one of the renderer's tags: `<b>`, `<s>`, `<code>`, `<pre>`, `<a href="`,
or the closing tag of one of them. -/
theorem renderTelegramHtmlFromMarkdown_markup (markdown : List UInt16) (i : Nat) :
    ((renderTelegramHtmlFromMarkdown markdown)[i]? = some 38 →
      ∃ e ∈ ENTITIES, e <+: (renderTelegramHtmlFromMarkdown markdown).drop i) ∧
    ((renderTelegramHtmlFromMarkdown markdown)[i]? = some 60 →
      ∃ g ∈ TAG_STARTS, g <+: (renderTelegramHtmlFromMarkdown markdown).drop i) := by
  have h := closedAt_markup (marked_renderTelegramHtmlFromMarkdown markdown i)
  rwa [List.head?_drop] at h

end ton_agent_bot.telegram
