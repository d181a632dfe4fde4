-- The chat lock of locks/chat-lock.ts under any interleaving of `withChatLock` calls on
-- one (chat, thread) key, with the key's TTL running out at any step. The release is a
-- GET and then a separate DEL: with the key expiring between them, a call deletes the
-- key of the next holder. Work phases are exclusive only while no key expires from a
-- holder that is still working or releasing. Each call ends within `LOCK_RETRY_MAX + 4` of
-- its own steps.
import TonAgentBot.Run

namespace ton_agent_bot.chat_lock

/-! ## The calls -/

/-- `LOCK_RETRY_MAX` -/
def LOCK_RETRY_MAX : Nat := 60

/-- Where a `withChatLock` call stands. `acquire n` is the `SET NX` of attempt `n`;
`working` is `work()`; `releaseGet` and `releaseDel` are the two calls of the `finally`.
A heartbeat's GET and PEXPIRE only push the key's expiry back, and the expiry here is a
step that may come at any time, so they add no state. -/
inductive Pc
  | idle
  | acquire (attempt : Nat)
  | working
  | releaseGet
  | releaseDel
  | returned
  | threw
  deriving DecidableEq, Repr

/-- The key holds the token of the call that set it. Each call draws its own token
(`${Date.now()}-${Math.random()}`), so a call's number stands for its token. -/
structure Sys where
  key : Option Nat
  procs : Nat → Pc

def Sys.init : Sys := ⟨none, fun _ => .idle⟩

def Sys.setProc (s : Sys) (p : Nat) (x : Pc) : Sys :=
  { s with procs := fun q => if q = p then x else s.procs q }

@[simp] theorem Sys.setProc_key (s : Sys) (p : Nat) (x : Pc) : (s.setProc p x).key = s.key := rfl
@[simp] theorem Sys.setProc_procs (s : Sys) (p q : Nat) (x : Pc) :
    (s.setProc p x).procs q = if q = p then x else s.procs q := rfl

inductive Action
  | call (p : Nat)
  | advance (p : Nat) (ok : Bool)
  | finishWork (p : Nat)
  | expire
  deriving DecidableEq, Repr

/-- The next statement of call `p`; with `ok = false` its Redis command throws. A throw
in the acquisition loop leaves `withChatLock`; one in the `finally` is logged and
swallowed. -/
def advance (s : Sys) (p : Nat) (ok : Bool) : Option Sys :=
  match s.procs p, ok with
  | .acquire _, false => some (s.setProc p .threw)
  | .acquire n, true =>
    match s.key with
    | none => some { s.setProc p .working with key := some p }
    | some _ =>
      some (s.setProc p (if n + 1 < LOCK_RETRY_MAX then .acquire (n + 1) else .threw))
  | .releaseGet, ok =>
    some (s.setProc p (if ok ∧ s.key = some p then .releaseDel else .returned))
  | .releaseDel, ok => some { s.setProc p .returned with key := if ok then none else s.key }
  | _, _ => none

/-- One step: a new call, a statement of a call, the end of a call's work, or the key's
TTL running out, which `protects` forbids while it holds of the call that set the key. -/
def step (protects : Pc → Bool) (s : Sys) : Action → Option Sys
  | .call p => if s.procs p = .idle then some (s.setProc p (.acquire 0)) else none
  | .advance p ok => advance s p ok
  | .finishWork p => if s.procs p = .working then some (s.setProc p .releaseGet) else none
  | .expire =>
    match s.key with
    | some o => if protects (s.procs o) then none else some { s with key := none }
    | none => none

/-- The key of a call does not expire while its work is running. -/
def whileWorking : Pc → Bool
  | .working => true
  | _ => false

def holding : Pc → Bool
  | .working | .releaseGet | .releaseDel => true
  | _ => false

/-! ## The release deletes the next holder's key -/

/-- `withChatLock`'s own three calls: 0 releases, its key expires between the GET and the
DEL, 1 acquires, the DEL of 0 removes the key of 1, and 2 acquires while 1 works. -/
def overlap : List Action :=
  [.call 0, .advance 0 true, .finishWork 0, .advance 0 true, .expire,
   .call 1, .advance 1 true, .advance 0 true, .call 2, .advance 2 true]

/-- Two calls work at once, though no key expired while its call's work was running. -/
theorem withChatLock_work_phases_overlap :
    ∃ s, Reachable Sys.init (step whileWorking) s ∧
      s.procs 1 = .working ∧ s.procs 2 = .working := by
  obtain ⟨s, hs, h⟩ := exists_reachable_of_run Sys.init (step whileWorking)
    (p := fun s => s.procs 1 = .working && s.procs 2 = .working) overlap (by decide)
  exact ⟨s, hs, by simpa using h⟩

/-! ## Exclusion when no holder loses its key -/

section
variable (holds : Pc → Bool)

/-- Every call of which `holds` holds finds its own token in the key. -/
def OwnKey (s : Sys) : Prop := ∀ p, holds (s.procs p) = true → s.key = some p

variable {holds} {s s' : Sys} {p : Nat}

theorem OwnKey.unique (h : OwnKey holds s) {q : Nat}
    (hp : holds (s.procs p) = true) (hq : holds (s.procs q) = true) : p = q :=
  Option.some_injective _ ((h p hp).symm.trans (h q hq))

theorem OwnKey.setProc (h : OwnKey holds s) {x : Pc}
    (hx : holds x = true → s.key = some p) : OwnKey holds (s.setProc p x) := by
  intro q hq
  by_cases e : q = p
  · subst e; simpa using hx (by simpa using hq)
  · simpa using h q (by simpa [e] using hq)

theorem OwnKey.release (h : OwnKey holds s) (hp : holds (s.procs p) = true)
    (hr : holds .returned = false) (k : Option Nat) :
    OwnKey holds { s.setProc p .returned with key := k } := by
  intro q hq
  by_cases e : q = p
  · subst e; simp [hr] at hq
  · exact absurd (h.unique (by simpa [e] using hq) hp) e

theorem OwnKey.expire (h : OwnKey holds s) {o : Nat} (hk : s.key = some o)
    (ho : holds (s.procs o) = false) : OwnKey holds { s with key := none } := by
  intro q hq
  obtain rfl : q = o := Option.some_injective _ ((h q hq).symm.trans hk)
  simp [ho] at hq

theorem OwnKey.acquire (h : OwnKey holds s) {n : Nat} {ok : Bool}
    (hp : s.procs p = .acquire n) (ha : ∀ n, holds (.acquire n) = false) (ht : holds .threw = false)
    (hs : advance s p ok = some s') : OwnKey holds s' := by
  cases ok <;> simp only [advance, hp] at hs
  · cases hs; exact h.setProc (by simp [ht])
  · split at hs <;> cases hs
    · rename_i hk
      intro q hq
      by_cases e : q = p
      · simp [e]
      · simpa [hk] using h q (by simpa [e] using hq)
    · exact h.setProc (by split_ifs <;> simp [ha, ht])

theorem OwnKey.step_of_ne_advance (h : OwnKey holds s) (hw : holds .working = true)
    (ha : ∀ n, holds (.acquire n) = false) {a : Action} (hadv : ∀ p ok, a ≠ .advance p ok)
    (hs : step holds s a = some s') : OwnKey holds s' := by
  cases a with
  | call p =>
    simp only [step] at hs; split_ifs at hs; cases hs
    exact h.setProc (by simp [ha])
  | advance p ok => exact absurd rfl (hadv p ok)
  | finishWork p =>
    simp only [step] at hs; split_ifs at hs with hp; cases hs
    exact h.setProc fun _ => h p (by simp [hp, hw])
  | expire =>
    simp only [step] at hs
    split at hs
    · split_ifs at hs with ho; cases hs
      exact h.expire ‹_› (by simpa using ho)
    · cases hs

end

theorem ownKey_holding_step {s s' : Sys} {a : Action} (h : OwnKey holding s)
    (hs : step holding s a = some s') : OwnKey holding s' := by
  by_cases hadv : ∀ p ok, a ≠ .advance p ok
  · exact h.step_of_ne_advance rfl (fun _ => rfl) hadv hs
  obtain ⟨p, ok, rfl⟩ : ∃ p ok, a = .advance p ok := by push_neg at hadv; exact hadv
  cases hp : s.procs p with
  | acquire n => exact h.acquire hp (fun _ => rfl) rfl hs
  | releaseGet =>
    simp only [step, advance, hp] at hs; cases hs
    exact h.setProc fun _ => h p (by simp [hp, holding])
  | releaseDel =>
    simp only [step, advance, hp] at hs; cases hs
    exact h.release (by simp [hp, holding]) rfl _
  | idle | working | returned | threw => simp [step, advance, hp] at hs

/-- With the key kept from every call that still works or releases, the work phases of
two calls never overlap. -/
theorem withChatLock_exclusive_while_holders_keep_key {s : Sys}
    (hs : Reachable Sys.init (step holding) s) {p q : Nat}
    (hp : s.procs p = .working) (hq : s.procs q = .working) : p = q := by
  have hinv : OwnKey holding s :=
    hs.invariant (OwnKey holding) (fun _ h => by simp [Sys.init, holding] at h)
      fun _ _ _ hi ha => ownKey_holding_step hi ha
  exact hinv.unique (by simp [hp, holding]) (by simp [hq, holding])

def firstHolder : Sys := { (Sys.init.setProc 0 (.acquire 0)).setProc 0 .working with key := some 0 }

theorem firstHolder_holds_alone :
    Reachable Sys.init (step holding) firstHolder ∧ firstHolder.procs 0 = .working ∧ 0 = 0 :=
  have hs := (reaches_of_run (step holding) [.call 0, .advance 0 true]
    (s := Sys.init) (t := firstHolder) rfl).reachable .init
  ⟨hs, rfl, withChatLock_exclusive_while_holders_keep_key hs rfl rfl⟩

/-! ## Every call ends within its budget of steps -/

def Pc.budget : Pc → Nat
  | .idle => LOCK_RETRY_MAX + 4
  | .acquire n => LOCK_RETRY_MAX + 3 - n
  | .working => 3
  | .releaseGet => 2
  | .releaseDel => 1
  | .returned | .threw => 0

def Action.byCall (p : Nat) : Action → Bool
  | .call q | .advance q _ | .finishWork q => q == p
  | .expire => false

/-- Every call in its acquisition loop is at an attempt below `LOCK_RETRY_MAX`. -/
def AttemptsBelow (s : Sys) : Prop := ∀ p n, s.procs p = .acquire n → n < LOCK_RETRY_MAX

/-- Call `p` alone moves, to a state `x` of smaller budget whose attempt, if any, is
below `LOCK_RETRY_MAX`. -/
def Moves (s s' : Sys) (p : Nat) : Prop :=
  ∃ x, s'.procs = (s.setProc p x).procs ∧ x.budget < (s.procs p).budget ∧
    ∀ n, x = .acquire n → n < LOCK_RETRY_MAX

theorem advance_moves {s s' : Sys} {p : Nat} {ok : Bool} (hi : AttemptsBelow s)
    (h : advance s p ok = some s') : Moves s s' p := by
  cases hp : s.procs p with
  | acquire n =>
    have hn := hi p n hp
    cases ok <;> simp only [advance, hp] at h
    · cases h; exact ⟨.threw, rfl, by simp [hp, Pc.budget]; omega, by simp⟩
    · split at h <;> cases h
      · exact ⟨.working, rfl, by simp [hp, Pc.budget, LOCK_RETRY_MAX] at hn ⊢; omega, by simp⟩
      · refine ⟨_, rfl, ?_, ?_⟩ <;> split_ifs <;> simp_all [Pc.budget] <;> omega
  | releaseGet =>
    simp only [advance, hp] at h; cases h
    exact ⟨_, rfl, by split_ifs <;> simp [hp, Pc.budget], by split_ifs <;> simp⟩
  | releaseDel =>
    simp only [advance, hp] at h; cases h
    exact ⟨.returned, rfl, by simp [hp, Pc.budget], by simp⟩
  | idle | working | returned | threw => simp [advance, hp] at h

section
variable {s s' : Sys} {p q : Nat}

theorem Moves.procs_of_ne (hm : Moves s s' q) (hne : p ≠ q) : s'.procs p = s.procs p := by
  obtain ⟨x, hx, -⟩ := hm
  simp [hx, hne]

theorem Moves.budget_lt (hm : Moves s s' q) : (s'.procs q).budget < (s.procs q).budget := by
  obtain ⟨x, hx, hb, -⟩ := hm
  simpa [hx] using hb

theorem Moves.attemptsBelow (hm : Moves s s' q) (hi : AttemptsBelow s) : AttemptsBelow s' := by
  obtain ⟨x, hx, -, hn⟩ := hm
  intro r n hr
  rw [hx, Sys.setProc_procs] at hr
  split at hr
  · exact hn n hr
  · exact hi r n hr

theorem step_moves {protects : Pc → Bool} {a : Action} (hi : AttemptsBelow s)
    (h : step protects s a = some s') :
    (∃ q, (∀ p, a.byCall p = true ↔ p = q) ∧ Moves s s' q) ∨
      (∀ p, a.byCall p = false) ∧ s'.procs = s.procs := by
  cases a with
  | call q =>
    simp only [step] at h; split_ifs at h with hq; cases h
    exact .inl ⟨q, fun _ => beq_iff_eq.trans eq_comm, .acquire 0, rfl, by simp [hq, Pc.budget], by
      simp [LOCK_RETRY_MAX]⟩
  | advance q ok => exact .inl ⟨q, fun _ => beq_iff_eq.trans eq_comm, advance_moves hi h⟩
  | finishWork q =>
    simp only [step] at h; split_ifs at h with hq; cases h
    exact .inl ⟨q, fun _ => beq_iff_eq.trans eq_comm, .releaseGet, rfl, by simp [hq, Pc.budget],
      by simp⟩
  | expire =>
    simp only [step] at h
    split at h
    · split_ifs at h; cases h; exact .inr ⟨fun _ => rfl, rfl⟩
    · cases h

end

theorem run_budget {protects : Pc → Bool} {s t : Sys} (as : List Action) (hi : AttemptsBelow s)
    (h : run (step protects) s as = some t) (p : Nat) :
    (t.procs p).budget + (as.filter (·.byCall p)).length ≤ (s.procs p).budget := by
  induction as generalizing s with
  | nil => cases h; simp
  | cons a as ih =>
    obtain ⟨s1, hs, h⟩ := run_cons_eq_some.1 h
    rcases step_moves hi hs with ⟨q, hq, hm⟩ | ⟨hno, he⟩
    · have hrest := ih (hm.attemptsBelow hi) h
      by_cases e : p = q
      · subst e
        have hlt := hm.budget_lt
        simp only [List.filter_cons, (hq p).mpr rfl, if_true, List.length_cons]
        omega
      · have hp : a.byCall p = false := Bool.eq_false_iff.mpr fun h => e ((hq p).mp h)
        simp only [List.filter_cons, hp, hm.procs_of_ne e] at hrest ⊢
        simpa using hrest
    · have hrest := ih (fun r n hr => hi r n (he ▸ hr)) h
      simp only [List.filter_cons, hno p, he] at hrest ⊢
      simpa using hrest

/-- Every withChatLock call takes at most `LOCK_RETRY_MAX + 4` steps of its own in any
run: its call, at most `LOCK_RETRY_MAX` attempts of `SET NX`, the end of its work, and
the GET and the DEL of its release. -/
theorem withChatLock_call_ends_within_budget {protects : Pc → Bool} (as : List Action)
    {t : Sys} (h : run (step protects) Sys.init as = some t) (p : Nat) :
    (as.filter (·.byCall p)).length ≤ LOCK_RETRY_MAX + 4 := by
  have := run_budget as (fun _ _ h => by cases h) h p
  simp only [Sys.init, Pc.budget] at this
  omega

theorem overlap_calls_within_budget :
    (overlap.filter (·.byCall 0)).length ≤ LOCK_RETRY_MAX + 4 :=
  @withChatLock_call_ends_within_budget whileWorking overlap
    ((run (step whileWorking) Sys.init overlap).getD Sys.init) rfl 0

end ton_agent_bot.chat_lock
