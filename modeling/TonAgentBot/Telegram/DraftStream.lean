-- createTelegramTokenDraftStream of telegram/bot.ts, the live draft of a reply while the
-- agent streams it. Deltas are buffered; a trimmed snapshot is chained on `sendChain` to
-- sendMessageDraft at most every 180 ms, and a flush timer catches up. Up to `finish`, the
-- pushes, the timer, the clock and the chain's sends interleave in any order the promise
-- chain allows. The texts sent grow by prefixes; the unchanged-text check reads the last
-- completed send, so a text still in flight is chained again.
import Mathlib.Data.List.Chain
import TonAgentBot.Run
import TonAgentBot.Js.Text

namespace ton_agent_bot.telegram

open js

def TELEGRAM_MAX_TEXT_LENGTH : Nat := 4096

def DRAFT_STREAM_UPDATE_INTERVAL_MS : Nat := 180

/-! ## The session -/

/-- The closure of one draft session, with the clock and the chain's sends, and two records
of the run: the texts passed to sendMessageDraft so far, and every delta pushed. -/
structure DraftSession where
  now : Nat
  bufferedText : List UInt16
  lastSentText : List UInt16
  lastDispatchAt : Nat
  failed : Bool
  /-- When the pending flush timer fires. -/
  flushTimer : Option Nat
  /-- The snapshots chained on `sendChain` whose send has not started, oldest first. -/
  chain : List (List UInt16)
  /-- The snapshot whose sendMessageDraft runs. -/
  inFlight : Option (List UInt16)
  sent : List (List UInt16)
  pushed : List UInt16

def DraftSession.init (now : Nat) : DraftSession :=
  ⟨now, [], [], 0, false, none, [], none, [], []⟩

def queueSend (s : DraftSession) : DraftSession :=
  let snapshot := trimEnd s.bufferedText
  if s.failed then s
  else if snapshot.length = 0 ∨ TELEGRAM_MAX_TEXT_LENGTH < snapshot.length then s
  else if snapshot = s.lastSentText then s
  else { s with lastDispatchAt := s.now, chain := s.chain ++ [snapshot] }

/-- `scheduleFlush`: a timer for the rest of the interval since the last dispatch, at once
when it has passed. -/
def scheduleFlush (s : DraftSession) : DraftSession :=
  if s.failed || s.flushTimer.isSome then s
  else { s with flushTimer := some (s.now + (DRAFT_STREAM_UPDATE_INTERVAL_MS - (s.now - s.lastDispatchAt))) }

def pushDelta (delta : List UInt16) (s : DraftSession) : DraftSession :=
  if s.failed || delta.length = 0 then s
  else
    let s := { s with bufferedText := s.bufferedText ++ delta }
    if DRAFT_STREAM_UPDATE_INTERVAL_MS ≤ s.now - s.lastDispatchAt then queueSend s else scheduleFlush s

/-- What can happen to a session before `finish`: a push, time passing, the flush timer
firing, the chain starting its next send, and the send in flight settling. -/
inductive DraftEvent
  | pushDelta (delta : List UInt16)
  | tick (ms : Nat)
  | flush
  | startSend
  | settle (ok : Bool)

/-- One event; `none` when it cannot happen now. A send starts only once the one before it
has settled, as each is a `then` of the chain; one that rejects sets `failed` in its
`catch`, and the chain goes on with the sends already on it. -/
def draftStep (s : DraftSession) : DraftEvent → Option DraftSession
  | .pushDelta delta => some { pushDelta delta s with pushed := s.pushed ++ delta }
  | .tick ms => some { s with now := s.now + ms }
  | .flush =>
    match s.flushTimer with
    | some due => if due ≤ s.now then some (queueSend { s with flushTimer := none }) else none
    | none => none
  | .startSend =>
    match s.inFlight, s.chain with
    | none, snapshot :: rest =>
      some { s with inFlight := some snapshot, chain := rest, sent := s.sent ++ [snapshot] }
    | _, _ => none
  | .settle ok =>
    match s.inFlight with
    | some snapshot =>
      some (if ok then { s with inFlight := none, lastSentText := snapshot }
        else { s with inFlight := none, failed := true })
    | none => none

/-! ## What each function changes -/

section
variable (s : DraftSession) (delta : List UInt16)

@[simp] theorem queueSend_bufferedText : (queueSend s).bufferedText = s.bufferedText := by
  unfold queueSend; dsimp only; split_ifs <;> rfl

@[simp] theorem queueSend_failed : (queueSend s).failed = s.failed := by
  unfold queueSend; dsimp only; split_ifs <;> rfl

@[simp] theorem queueSend_pushed : (queueSend s).pushed = s.pushed := by
  unfold queueSend; dsimp only; split_ifs <;> rfl

@[simp] theorem scheduleFlush_bufferedText : (scheduleFlush s).bufferedText = s.bufferedText := by
  unfold scheduleFlush; split_ifs <;> rfl

@[simp] theorem scheduleFlush_failed : (scheduleFlush s).failed = s.failed := by
  unfold scheduleFlush; split_ifs <;> rfl

@[simp] theorem scheduleFlush_pushed : (scheduleFlush s).pushed = s.pushed := by
  unfold scheduleFlush; split_ifs <;> rfl

@[simp] theorem scheduleFlush_sent : (scheduleFlush s).sent = s.sent := by
  unfold scheduleFlush; split_ifs <;> rfl

@[simp] theorem scheduleFlush_chain : (scheduleFlush s).chain = s.chain := by
  unfold scheduleFlush; split_ifs <;> rfl

theorem pushDelta_bufferedText : (pushDelta delta s).bufferedText =
    if s.failed || delta.length = 0 then s.bufferedText else s.bufferedText ++ delta := by
  unfold pushDelta; dsimp only; split_ifs <;> simp_all

@[simp] theorem pushDelta_failed : (pushDelta delta s).failed = s.failed := by
  unfold pushDelta; dsimp only; split_ifs <;> simp

end

/-! ## The texts of the chain -/

/-- The texts of the chain, sent or still to send, are each a draft Telegram takes, each a
prefix of the next and of what the buffer trims to. -/
structure ChainInv (s : DraftSession) : Prop where
  fits : ∀ t ∈ s.sent ++ s.chain, t ≠ [] ∧ t.length ≤ TELEGRAM_MAX_TEXT_LENGTH
  ordered : (s.sent ++ s.chain).Chain' (· <+: ·)
  below : ∀ t ∈ s.sent ++ s.chain, t <+: trimEnd s.bufferedText

section
variable {s : DraftSession}

theorem ChainInv.queueSend (h : ChainInv s) : ChainInv (queueSend s) := by
  unfold ton_agent_bot.telegram.queueSend
  dsimp only
  split_ifs with hf hlen hsame
  · exact h
  · exact h
  · exact h
  · push_neg at hlen
    -- the new snapshot is what the buffer trims to, so every text before it is its prefix
    have hall : ∀ t ∈ s.sent ++ s.chain ++ [trimEnd s.bufferedText], t <+: trimEnd s.bufferedText := by
      intro t ht
      rcases List.mem_append.mp ht with ht | ht
      · exact h.below t ht
      · exact List.mem_singleton.mp ht ▸ List.prefix_refl _
    refine ⟨?_, ?_, ?_⟩ <;> simp only [← List.append_assoc]
    · intro t ht
      rcases List.mem_append.mp ht with ht | ht
      · exact h.fits t ht
      · rw [List.mem_singleton.mp ht]
        exact ⟨List.ne_nil_of_length_pos (Nat.pos_of_ne_zero hlen.1), hlen.2⟩
    · refine List.chain'_append.mpr ⟨h.ordered, List.chain'_singleton _, fun x hx y hy => ?_⟩
      rw [Option.mem_def, List.head?_singleton, Option.some.injEq] at hy
      exact hy ▸ hall x (List.mem_append_left _ (List.mem_of_getLast?_eq_some hx))
    · exact hall

theorem ChainInv.scheduleFlush (h : ChainInv s) : ChainInv (scheduleFlush s) :=
  ⟨by simpa using h.fits, by simpa using h.ordered, by simpa using h.below⟩

theorem ChainInv.pushDelta (h : ChainInv s) (delta : List UInt16) : ChainInv (pushDelta delta s) := by
  have hb : ChainInv { s with bufferedText := s.bufferedText ++ delta } :=
    ⟨h.fits, h.ordered, fun t ht => (h.below t ht).trans trimEnd_prefix_trimEnd_append⟩
  unfold ton_agent_bot.telegram.pushDelta
  dsimp only
  split_ifs
  · exact h
  · exact hb.queueSend
  · exact hb.scheduleFlush

end

/-- The buffer holds a prefix of what was pushed, and all of it until a send fails. -/
structure BufferedPushed (s : DraftSession) : Prop where
  prefix_pushed : s.bufferedText <+: s.pushed
  eq_pushed : s.failed = false → s.bufferedText = s.pushed

theorem BufferedPushed.pushDelta {s : DraftSession} (h : BufferedPushed s) (delta : List UInt16) :
    BufferedPushed { pushDelta delta s with pushed := s.pushed ++ delta } := by
  cases hf : s.failed
  · -- no send has failed: the buffer is every push, and takes this one unless it is empty
    have he := h.eq_pushed hf
    by_cases hd : delta.length = 0
    · obtain rfl : delta = [] := List.eq_nil_of_length_eq_zero hd
      exact ⟨by simp [pushDelta_bufferedText, he], fun _ => by simp [pushDelta_bufferedText, he]⟩
    · exact ⟨by simp [pushDelta_bufferedText, hf, hd, he], fun _ => by simp [pushDelta_bufferedText, hf, hd, he]⟩
  · refine ⟨?_, fun h' => by simp [hf] at h'⟩
    simpa [pushDelta_bufferedText, hf] using h.prefix_pushed.trans (List.prefix_append _ delta)

theorem draftStep_inv {s s' : DraftSession} {e : DraftEvent} (h : ChainInv s ∧ BufferedPushed s)
    (hs : draftStep s e = some s') : ChainInv s' ∧ BufferedPushed s' := by
  obtain ⟨hc, hb⟩ := h
  cases e with
  | pushDelta delta =>
    cases hs
    have hc' := hc.pushDelta delta
    exact ⟨⟨hc'.fits, hc'.ordered, hc'.below⟩, hb.pushDelta delta⟩
  | tick ms => cases hs; exact ⟨⟨hc.fits, hc.ordered, hc.below⟩, ⟨hb.1, hb.2⟩⟩
  | flush =>
    simp only [draftStep] at hs
    split at hs
    · split_ifs at hs
      cases hs
      have hc' : ChainInv { s with flushTimer := none } := ⟨hc.fits, hc.ordered, hc.below⟩
      exact ⟨hc'.queueSend, by simpa using hb.1, by simpa using hb.2⟩
    · cases hs
  | startSend =>
    match hi : s.inFlight, hch : s.chain with
    | none, snapshot :: rest =>
      simp only [draftStep, hi, hch, Option.some.injEq] at hs
      subst hs
      have hfits := hc.fits
      have hord := hc.ordered
      have hbelow := hc.below
      rw [hch] at hfits hord hbelow
      exact ⟨⟨by simpa using hfits, by simpa using hord, by simpa using hbelow⟩, ⟨hb.1, hb.2⟩⟩
    | some _, _ => simp [draftStep, hi] at hs
    | none, [] => simp [draftStep, hi, hch] at hs
  | settle ok =>
    simp only [draftStep] at hs
    split at hs
    · cases hs
      split_ifs
      · exact ⟨⟨hc.fits, hc.ordered, hc.below⟩, ⟨hb.1, hb.2⟩⟩
      · exact ⟨⟨hc.fits, hc.ordered, hc.below⟩, ⟨hb.1, by simp⟩⟩
    · cases hs

theorem DraftSession.init_inv (now : Nat) :
    ChainInv (DraftSession.init now) ∧ BufferedPushed (DraftSession.init now) :=
  ⟨⟨by simp [DraftSession.init], List.chain'_nil, by simp [DraftSession.init]⟩,
    ⟨List.prefix_refl _, fun _ => rfl⟩⟩

/-- Over every run of a session before `finish`, every text passed to sendMessageDraft is
non-empty, at most 4096 units and a prefix of everything pushed, and each is a prefix of
the next. -/
theorem draft_sends_grow_by_prefixes {now : Nat} {s : DraftSession}
    (h : Reachable (DraftSession.init now) draftStep s) :
    (∀ t ∈ s.sent, t ≠ [] ∧ t.length ≤ TELEGRAM_MAX_TEXT_LENGTH ∧ t <+: s.pushed) ∧
      s.sent.Chain' (· <+: ·) := by
  obtain ⟨hc, hb⟩ := h.invariant (fun s => ChainInv s ∧ BufferedPushed s)
    (DraftSession.init_inv now) (fun _ _ _ => draftStep_inv)
  refine ⟨fun t ht => ?_, (List.chain'_append.mp hc.ordered).1⟩
  have hmem : t ∈ s.sent ++ s.chain := List.mem_append_left _ ht
  exact ⟨(hc.fits t hmem).1, (hc.fits t hmem).2,
    ((hc.below t hmem).trans trimEnd_prefix).trans hb.prefix_pushed⟩

def resendRun : List DraftEvent :=
  [.pushDelta (utf16 "a"), .startSend, .tick 200, .pushDelta (utf16 " "), .settle true, .startSend]

theorem resend_run_sends_prefixes :
    ∃ s, Reachable (DraftSession.init 1000) draftStep s ∧ s.sent = [utf16 "a", utf16 "a"] ∧
      ((∀ t ∈ s.sent, t ≠ [] ∧ t.length ≤ TELEGRAM_MAX_TEXT_LENGTH ∧ t <+: s.pushed) ∧
        s.sent.Chain' (· <+: ·)) := by
  obtain ⟨s, hr, hs⟩ := exists_reachable_of_run_view (DraftSession.init 1000) draftStep
    DraftSession.sent resendRun (v := [utf16 "a", utf16 "a"]) (by decide)
  exact ⟨s, hr, hs, draft_sends_grow_by_prefixes hr⟩

/-- The space trims away, and the unchanged-text check compares with the last completed
send, which is not yet `a`: the same text is chained and sent twice in a row. -/
theorem whitespace_delta_resends_draft :
    (run draftStep (DraftSession.init 1000) resendRun).map DraftSession.sent =
      some [utf16 "a", utf16 "a"] := by
  decide

end ton_agent_bot.telegram
