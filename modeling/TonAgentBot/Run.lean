-- Runs of the bot's subsystems. Each subsystem is a state and a step that takes one
-- action, or cannot take it (`none`). The laws here hold for any such system: a run of
-- actions reaches a reachable state, and an invariant kept by each step holds all along.
import Mathlib.Tactic.SplitIfs
import Mathlib.Tactic.PushNeg
import Mathlib.Order.Basic
import Mathlib.Logic.Function.Basic
import Mathlib.Data.List.Basic

namespace ton_agent_bot

variable {σ α : Type}

/-! ## Reachable states and runs -/

/-- The states that some run of `step` from `init` reaches. -/
inductive Reachable (init : σ) (step : σ → α → Option σ) : σ → Prop
  | init : Reachable init step init
  | step {s s' : σ} (a : α) : Reachable init step s → step s a = some s' → Reachable init step s'

/-- `t` is reached from `s` by zero or more steps. -/
inductive Reaches (step : σ → α → Option σ) : σ → σ → Prop
  | refl (s : σ) : Reaches step s s
  | tail {s t u : σ} (a : α) : Reaches step s t → step t a = some u → Reaches step s u

/-- Take the actions of a list in order; `none` as soon as one cannot be taken. -/
def run (step : σ → α → Option σ) : σ → List α → Option σ
  | s, [] => some s
  | s, a :: as => (step s a).bind (run step · as)

theorem run_append (step : σ → α → Option σ) (s : σ) (as bs : List α) :
    run step s (as ++ bs) = (run step s as).bind (run step · bs) := by
  induction as generalizing s with
  | nil => rfl
  | cons a as ih => simp only [List.cons_append, run, List.append_eq, ih, Option.bind_assoc]

variable {init : σ} {step : σ → α → Option σ}

theorem Reachable.invariant (P : σ → Prop) (h0 : P init)
    (hs : ∀ s a s', P s → step s a = some s' → P s') {s : σ}
    (h : Reachable init step s) : P s := by
  induction h with
  | init => exact h0
  | step a _ hst ih => exact hs _ a _ ih hst

/-- The states that some run of `step` from `init` reaches when each action is taken only
where `ok` allows it. -/
inductive ReachableWhere (ok : σ → α → Prop) (init : σ) (step : σ → α → Option σ) : σ → Prop
  | init : ReachableWhere ok init step init
  | step {s s' : σ} (a : α) : ReachableWhere ok init step s → ok s a → step s a = some s' →
      ReachableWhere ok init step s'

theorem ReachableWhere.invariant {ok : σ → α → Prop} (P : σ → Prop) (h0 : P init)
    (hs : ∀ s a s', P s → ok s a → step s a = some s' → P s') {s : σ}
    (h : ReachableWhere ok init step s) : P s := by
  induction h with
  | init => exact h0
  | step a _ hok hst ih => exact hs _ a _ ih hok hst

theorem Reaches.trans {s t u : σ} (h1 : Reaches step s t) (h2 : Reaches step t u) :
    Reaches step s u := by
  induction h2 with
  | refl => exact h1
  | tail a _ hst ih => exact .tail a ih hst

theorem Reaches.reachable {s t : σ} (hs : Reachable init step s) (h : Reaches step s t) :
    Reachable init step t := by
  induction h with
  | refl => exact hs
  | tail a _ hst ih => exact .step a ih hst

theorem Reaches.preserve (P : σ → Prop) (hs : ∀ s a s', P s → step s a = some s' → P s')
    {s t : σ} (h : Reaches step s t) (hp : P s) : P t := by
  induction h with
  | refl => exact hp
  | tail a _ hst ih => exact hs _ a _ ih hst

theorem run_cons_eq_some {s t : σ} {a : α} {as : List α} :
    run step s (a :: as) = some t ↔ ∃ s1, step s a = some s1 ∧ run step s1 as = some t := by
  simp only [run, Option.bind_eq_some]

theorem run_preserve (P : σ → Prop) (allowed : α → Prop)
    (hs : ∀ s a s', allowed a → P s → step s a = some s' → P s') :
    ∀ (as : List α) {s t : σ}, (∀ a ∈ as, allowed a) → run step s as = some t → P s → P t
  | [], _, _, _, h, hp => by cases h; exact hp
  | a :: as, s, t, ha, h, hp => by
    obtain ⟨s1, hst, h⟩ := run_cons_eq_some.1 h
    exact run_preserve P allowed hs as (fun b hb => ha b (List.mem_cons_of_mem a hb)) h
      (hs s a s1 (ha a (List.mem_cons_self a as)) hp hst)

/-- Each action of a run is allowed by `ok` where it is taken. -/
def AllowedAlong (ok : σ → α → Prop) (step : σ → α → Option σ) : σ → List α → Prop
  | _, [] => True
  | s, a :: as => ok s a ∧ ∀ s', step s a = some s' → AllowedAlong ok step s' as

theorem ReachableWhere.of_run {ok : σ → α → Prop} :
    ∀ (as : List α) {s t : σ}, ReachableWhere ok init step s → AllowedAlong ok step s as →
      run step s as = some t → ReachableWhere ok init step t
  | [], _, _, hs, _, h => by cases h; exact hs
  | a :: as, s, t, hs, ha, h => by
    obtain ⟨s1, hst, h⟩ := run_cons_eq_some.1 h
    exact ReachableWhere.of_run as (.step a hs ha.1 hst) (ha.2 s1 hst) h

theorem reaches_of_run (step : σ → α → Option σ) (as : List α) {s t : σ}
    (h : run step s as = some t) : Reaches step s t := by
  induction as generalizing s with
  | nil => cases h; exact .refl _
  | cons a as ih =>
    obtain ⟨s1, hs, h⟩ := run_cons_eq_some.1 h
    exact (Reaches.tail a (.refl s) hs).trans (ih h)

/-! ## Runs that show a behaviour -/

theorem exists_reachable_of_run_view (init : σ) (step : σ → α → Option σ) {β : Type}
    (f : σ → β) {v : β} (as : List α)
    (h : (run step init as).map f = some v) : ∃ s, Reachable init step s ∧ f s = v := by
  cases hr : run step init as with
  | none => simp [hr] at h
  | some s =>
    simp only [hr, Option.map_some', Option.some.injEq] at h
    exact ⟨s, (reaches_of_run step as hr).reachable .init, h⟩

theorem exists_reachable_of_run (init : σ) (step : σ → α → Option σ) {p : σ → Bool}
    (as : List α)
    (h : (run step init as).map p = some true) : ∃ s, Reachable init step s ∧ p s = true :=
  exists_reachable_of_run_view init step p as h

theorem exists_reaches_of_runs (init : σ) (step : σ → α → Option σ) {p q : σ → Bool}
    (as bs : List α)
    (h : ((run step init as).bind fun s => if p s then (run step s bs).map q else none) =
      some true) :
    ∃ s t, Reachable init step s ∧ Reaches step s t ∧ p s = true ∧ q t = true := by
  cases hr : run step init as with
  | none => simp [hr] at h
  | some s =>
    simp only [hr, Option.some_bind] at h
    split at h
    · rename_i hp
      cases ht : run step s bs with
      | none => simp [ht] at h
      | some t =>
        simp only [ht, Option.map_some', Option.some.injEq] at h
        exact ⟨s, t, (reaches_of_run step as hr).reachable .init, reaches_of_run step bs ht, hp,
          h⟩
    · cases h

end ton_agent_bot
