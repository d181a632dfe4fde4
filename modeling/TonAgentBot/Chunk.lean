-- chunkTelegramMessage of utils/chunk.ts, which splits a reply into Telegram messages, over
-- UTF-16 code units. A window of `maxChars` units is cut at its last newline or space past
-- its first unit, and each piece is trimmed and kept when something is left. The loop ends
-- for every `maxChars ≥ 1`; the pieces fit the window and lose no visible character.
import TonAgentBot.Js.Text

namespace ton_agent_bot.chunk

open js

def TELEGRAM_MAX_MESSAGE_CHARS : Nat := 4096

/-- Where the window from `cursor` ends (lines 14-22): at its last newline or space when
that is past the window's first unit and the window stops before the text's end, else at
the window's end. -/
def chunkEnd (text : List UInt16) (maxChars cursor : Nat) : Nat :=
  let stop := min (cursor + maxChars) text.length
  if stop < text.length then
    let lastBreak := max (lastIndexOf (slice text cursor stop) 10)
      (lastIndexOf (slice text cursor stop) 32)
    if 0 < lastBreak then cursor + lastBreak.toNat else stop
  else stop

/-- The `while` loop of chunkTelegramMessage from `cursor` (lines 13-30) with `fuel`
rounds: `none` when the rounds run out, as they do when the cursor stands still. -/
def chunkLoop (text : List UInt16) (maxChars : Nat) :
    Nat → Nat → List (List UInt16) → Option (List (List UInt16))
  | 0, _, _ => none
  | fuel + 1, cursor, chunks =>
    if cursor < text.length then
      let stop := chunkEnd text maxChars cursor
      let part := trim (slice text cursor stop)
      chunkLoop text maxChars fuel stop (if 0 < part.length then chunks ++ [part] else chunks)
    else some chunks

/-- `chunkTelegramMessage(text, maxChars)`, `none` when its loop does not end. One round
per unit of the text and one to leave are enough for every `maxChars ≥ 1`. -/
def chunkTelegramMessage (text : List UInt16) (maxChars : Nat) : Option (List (List UInt16)) :=
  if text.length ≤ maxChars then some [text]
  else chunkLoop text maxChars (text.length + 1) 0 []

/-- The chunks between consecutive cuts: each piece trimmed, and kept when something is
left. -/
def piecesBetween (text : List UInt16) : List Nat → List (List UInt16)
  | a :: b :: rest =>
    (if 0 < (trim (slice text a b)).length then [trim (slice text a b)] else []) ++
      piecesBetween text (b :: rest)
  | _ => []

/-! ## Where a window ends -/

section
variable {text : List UInt16} {maxChars cursor : Nat}

theorem slice_append_drop {a b : Nat} (h : a ≤ b) : slice text a b ++ text.drop b = text.drop a := by
  rw [js.slice, show text.drop b = (text.drop a).drop (b - a) by rw [List.drop_drop]; congr 1; omega,
    List.take_append_drop]

theorem length_slice_le (text : List UInt16) (a b : Nat) : (slice text a b).length ≤ b - a := List.length_take_le _ _

theorem getElem?_slice {a b j : Nat} (h : j < b - a) : (slice text a b)[j]? = text[a + j]? := by
  simp [js.slice, List.getElem?_take, h]

theorem chunkEnd_bounds (hmax : 1 ≤ maxChars) (hc : cursor < text.length) :
    cursor < chunkEnd text maxChars cursor ∧ chunkEnd text maxChars cursor ≤ cursor + maxChars ∧
      chunkEnd text maxChars cursor ≤ text.length := by
  unfold chunkEnd
  dsimp only
  split_ifs with hstop hbreak
  · have h10 := lastIndexOf_bounds (slice text cursor (min (cursor + maxChars) text.length)) 10
    have h32 := lastIndexOf_bounds (slice text cursor (min (cursor + maxChars) text.length)) 32
    have hlen := length_slice_le text cursor (min (cursor + maxChars) text.length)
    omega
  all_goals omega

theorem slice_no_break_after {i : Nat}
    (hlast : ∀ j, i < j → j < maxChars → text[cursor + j]? ≠ some 10 ∧ text[cursor + j]? ≠ some 32) :
    ∀ j, i < j → (slice text cursor (cursor + maxChars))[j]? ≠ some 10 ∧
      (slice text cursor (cursor + maxChars))[j]? ≠ some 32 := by
  intro j hj
  by_cases hjm : j < maxChars
  · rw [getElem?_slice (by omega)]
    exact hlast j hj hjm
  · have := length_slice_le text cursor (cursor + maxChars)
    rw [List.getElem?_eq_none (by omega)]
    simp

theorem chunkEnd_at_last_break (hstop : cursor + maxChars < text.length) {i : Nat} (hi : 0 < i)
    (him : i < maxChars) (hbreak : text[cursor + i]? = some 10 ∨ text[cursor + i]? = some 32)
    (hlast : ∀ j, i < j → j < maxChars → text[cursor + j]? ≠ some 10 ∧ text[cursor + j]? ≠ some 32) :
    chunkEnd text maxChars cursor = cursor + i := by
  have hmin : min (cursor + maxChars) text.length = cursor + maxChars := by omega
  have hafter := slice_no_break_after hlast
  have h10 := lastIndexOf_lt (i := i + 1) fun j hj => (hafter j (by omega)).1
  have h32 := lastIndexOf_lt (i := i + 1) fun j hj => (hafter j (by omega)).2
  have hat : lastIndexOf (slice text cursor (cursor + maxChars)) 10 = i ∨
      lastIndexOf (slice text cursor (cursor + maxChars)) 32 = i := by
    rw [← getElem?_slice (b := cursor + maxChars) (by omega)] at hbreak
    exact hbreak.imp (lastIndexOf_eq · fun j hj => (hafter j hj).1)
      (lastIndexOf_eq · fun j hj => (hafter j hj).2)
  simp only [chunkEnd, hmin, if_pos hstop]
  rw [if_pos (by omega)]
  omega

theorem chunkEnd_no_break (hstop : cursor + maxChars < text.length)
    (hnone : ∀ j, 0 < j → j < maxChars → text[cursor + j]? ≠ some 10 ∧ text[cursor + j]? ≠ some 32) :
    chunkEnd text maxChars cursor = cursor + maxChars := by
  have hmin : min (cursor + maxChars) text.length = cursor + maxChars := by omega
  have hafter := slice_no_break_after hnone
  have h10 := lastIndexOf_lt (i := 1) fun j hj => (hafter j (by omega)).1
  have h32 := lastIndexOf_lt (i := 1) fun j hj => (hafter j (by omega)).2
  simp only [chunkEnd, hmin, if_pos hstop]
  rw [if_neg (by omega)]

/-- The cut that lines 14-22 make after `cursor`, in the spec's words: at the text's end when
the window reaches it; else at the last newline or space of the window past its first unit;
else at the window's end. -/
def CutRule (text : List UInt16) (maxChars cursor stop : Nat) : Prop :=
  (text.length ≤ cursor + maxChars → stop = text.length) ∧
  (cursor + maxChars < text.length →
    (∀ i, 0 < i → i < maxChars → (text[cursor + i]? = some 10 ∨ text[cursor + i]? = some 32) →
      (∀ j, i < j → j < maxChars → text[cursor + j]? ≠ some 10 ∧ text[cursor + j]? ≠ some 32) →
        stop = cursor + i) ∧
    ((∀ j, 0 < j → j < maxChars → text[cursor + j]? ≠ some 10 ∧ text[cursor + j]? ≠ some 32) →
      stop = cursor + maxChars))

theorem chunkEnd_cutRule : CutRule text maxChars cursor (chunkEnd text maxChars cursor) := by
  refine ⟨fun hle => ?_, fun hstop => ⟨fun _ hi him => chunkEnd_at_last_break hstop hi him,
    chunkEnd_no_break hstop⟩⟩
  simp only [chunkEnd, Nat.min_eq_right hle, lt_irrefl, if_false]

end

/-! ## The loop -/

theorem chunkLoop_spec (hmax : 1 ≤ maxChars) :
    ∀ (fuel cursor : Nat) (chunks : List (List UInt16)), cursor ≤ text.length →
      text.length - cursor < fuel →
      ∃ rest, chunkLoop text maxChars fuel cursor chunks = some (chunks ++ rest) ∧
        (∀ c ∈ rest, c.length ≤ maxChars ∧ trim c ≠ []) ∧
        visible rest.flatten = visible (text.drop cursor)
  | 0, _, _, _, hfuel => absurd hfuel (Nat.not_lt_zero _)
  | fuel + 1, cursor, chunks, hc, hfuel => by
    by_cases hlt : cursor < text.length
    · simp only [chunkLoop, if_pos hlt]
      obtain ⟨hpast, hwin, hend⟩ := chunkEnd_bounds hmax hlt
      set stop := chunkEnd text maxChars cursor
      set part := trim (slice text cursor stop)
      have hpart : part.length ≤ maxChars :=
        calc part.length ≤ (slice text cursor stop).length := length_trim_le
          _ ≤ maxChars := by have := length_slice_le text cursor stop; omega
      have hvis : visible part ++ visible (text.drop stop) = visible (text.drop cursor) := by
        rw [visible_trim, ← visible_append, slice_append_drop hpast.le]
      obtain ⟨rest, hrun, hrest, hvrest⟩ := chunkLoop_spec hmax fuel stop
        (if 0 < part.length then chunks ++ [part] else chunks) hend (by omega)
      split_ifs at hrun ⊢ with hne
      · refine ⟨part :: rest, by simpa using hrun, ?_, by simpa [hvrest] using hvis⟩
        simp only [List.mem_cons, forall_eq_or_imp]
        refine ⟨⟨hpart, ?_⟩, hrest⟩
        rw [Ne, trim_eq_nil_iff_visible, visible_trim, ← trim_eq_nil_iff_visible]
        exact List.ne_nil_of_length_pos hne
      · have hnil : part = [] := List.eq_nil_of_length_eq_zero (by omega)
        exact ⟨rest, hrun, hrest, by rw [hvrest, ← hvis, hnil]; rfl⟩
    · have hce : cursor = text.length := by omega
      exact ⟨[], by simp [chunkLoop, hlt], by simp, by simp [hce, visible]⟩

theorem chunkLoop_cuts (hmax : 1 ≤ maxChars) :
    ∀ (fuel cursor : Nat) (chunks : List (List UInt16)), cursor ≤ text.length →
      text.length - cursor < fuel →
      ∃ cuts, cuts.head? = some cursor ∧ cuts.getLast? = some text.length ∧
        cuts.Chain' (fun a b => a < b ∧ CutRule text maxChars a b) ∧
        chunkLoop text maxChars fuel cursor chunks = some (chunks ++ piecesBetween text cuts)
  | 0, _, _, _, hfuel => absurd hfuel (Nat.not_lt_zero _)
  | fuel + 1, cursor, chunks, hc, hfuel => by
    by_cases hlt : cursor < text.length
    · obtain ⟨hpast, -, hend⟩ := chunkEnd_bounds hmax hlt
      set stop := chunkEnd text maxChars cursor
      set part := trim (slice text cursor stop)
      obtain ⟨cuts, hhead, hlast, hchain, hrun⟩ := chunkLoop_cuts hmax fuel stop
        (if 0 < part.length then chunks ++ [part] else chunks) hend (by omega)
      rcases cuts with _ | ⟨c, rest⟩
      · cases hhead
      obtain rfl : c = stop := Option.some.inj hhead
      refine ⟨cursor :: stop :: rest, rfl, by rwa [List.getLast?_cons_cons],
        .cons ⟨hpast, chunkEnd_cutRule⟩ hchain, ?_⟩
      simp only [chunkLoop, if_pos hlt, piecesBetween]
      rw [hrun]
      split_ifs <;> simp
    · have hce : cursor = text.length := by omega
      exact ⟨[text.length], by simp [hce], rfl, .nil,
        by simp [chunkLoop, hlt, piecesBetween]⟩

/-- Over every text and every window of at least one unit, `chunkTelegramMessage` returns;
each chunk fits the window; the visible units of the chunks are those of the text, in
order; and a text longer than the window gives no blank chunk, its chunks being the trimmed
pieces between cuts from its start to its end, each cut at the last newline or space of its
window past the window's first unit when there is one. -/
theorem chunkTelegramMessage_law (text : List UInt16) (maxChars : Nat) (hmax : 1 ≤ maxChars) :
    ∃ chunks, chunkTelegramMessage text maxChars = some chunks ∧
      (∀ c ∈ chunks, c.length ≤ maxChars) ∧ visible chunks.flatten = visible text ∧
      (maxChars < text.length → ∀ c ∈ chunks, trim c ≠ []) ∧
      (maxChars < text.length → ∃ cuts, cuts.head? = some 0 ∧
        cuts.getLast? = some text.length ∧
        cuts.Chain' (fun a b => a < b ∧ CutRule text maxChars a b) ∧
        chunks = piecesBetween text cuts) := by
  by_cases hshort : text.length ≤ maxChars
  · exact ⟨[text], by simp [chunkTelegramMessage, hshort], by simpa using hshort, by simp,
      fun h => absurd h (by omega), fun h => absurd h (by omega)⟩
  · obtain ⟨rest, hrun, hrest, hvis⟩ :=
      chunkLoop_spec hmax (text.length + 1) 0 [] (Nat.zero_le text.length) (by omega)
    obtain ⟨cuts, hhead, hlast, hchain, hcuts⟩ :=
      chunkLoop_cuts hmax (text.length + 1) 0 [] (Nat.zero_le text.length) (by omega)
    have hpieces : rest = piecesBetween text cuts := by
      simpa using Option.some.inj (hrun.symm.trans hcuts)
    exact ⟨rest, by simpa [chunkTelegramMessage, hshort] using hrun, fun c hc => (hrest c hc).1,
      by simpa using hvis, fun _ c hc => (hrest c hc).2,
      fun _ => ⟨cuts, hhead, hlast, hchain, hpieces⟩⟩

theorem chunk_cut_at_space :
    1 ≤ 3 ∧ ∃ chunks, chunkTelegramMessage (utf16 "ab cd") 3 = some chunks ∧
      (∀ c ∈ chunks, c.length ≤ 3) ∧ ∃ cuts, cuts.head? = some 0 ∧ cuts.getLast? = some 5 ∧
        chunks = piecesBetween (utf16 "ab cd") cuts := by
  obtain ⟨chunks, hrun, hlen, -, -, hcuts⟩ := chunkTelegramMessage_law (utf16 "ab cd") 3 (by decide)
  obtain ⟨cuts, hhead, hlast, -, hp⟩ := hcuts (by decide)
  exact ⟨by decide, chunks, hrun, hlen, cuts, hhead, hlast, hp⟩

example : chunkTelegramMessage (utf16 "ab cd") 3 = some [utf16 "ab", utf16 "cd"] := by decide

end ton_agent_bot.chunk
