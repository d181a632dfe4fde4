-- The global `replace` of a regular expression, as JavaScript runs it: the text is scanned
-- from the left, a match found at a position is replaced and the scan resumes after it,
-- and a unit where no match starts is copied. The laws here are those of the scan alone;
-- what a pass keeps of a text follows from them and from where its matches can start.
import TonAgentBot.Js.Text

namespace ton_agent_bot.js

/-! ## The scan -/

/-- A regular expression as `replace` tries it at one position: from the unit before the
position (for `^`) and the text from it, the length less one of the match that starts
there and the groups its replacer reads. None of the bot's expressions matches the empty
string. -/
abbrev Matcher (α : Type) := Option UInt16 → List UInt16 → Option (Nat × α)

/-- What a global `replace` cuts a text into, left to right. -/
inductive Piece (α : Type)
  | unit (u : UInt16)
  | hit (groups : α)

variable {α : Type}

/-- The pieces from a position, `skip` units of a match still to pass over and `prev` the
unit before the position. -/
def scan (m : Matcher α) : Nat → Option UInt16 → List UInt16 → List (Piece α)
  | _, _, [] => []
  | 0, prev, u :: us =>
    match m prev (u :: us) with
    | some (n, groups) => .hit groups :: scan m n (some u) us
    | none => .unit u :: scan m 0 (some u) us
  | skip + 1, _, u :: us => scan m skip (some u) us

def Piece.render (f : α → List UInt16) : Piece α → List UInt16
  | .unit u => [u]
  | .hit groups => f groups

/-- The text `replace` builds from a position of the scan. -/
def replaceFrom (m : Matcher α) (f : α → List UInt16) (skip : Nat) (prev : Option UInt16)
    (s : List UInt16) : List UInt16 :=
  (scan m skip prev s).flatMap (Piece.render f)

/-- `text.replace(regex, f)` for a global `regex`, `f` given the groups of each match. -/
def replaceAll (m : Matcher α) (f : α → List UInt16) (text : List UInt16) : List UInt16 :=
  replaceFrom m f 0 none text

section
variable {m : Matcher α} {f : α → List UInt16} {p : Option UInt16} {u : UInt16}
  {us : List UInt16}

@[simp] theorem replaceFrom_nil (k : Nat) : replaceFrom m f k p [] = [] := by
  cases k <;> rfl

@[simp] theorem replaceFrom_skip (k : Nat) :
    replaceFrom m f (k + 1) p (u :: us) = replaceFrom m f k (some u) us := rfl

theorem replaceFrom_hit {n : Nat} {g : α} (h : m p (u :: us) = some (n, g)) :
    replaceFrom m f 0 p (u :: us) = f g ++ replaceFrom m f n (some u) us := by
  simp [replaceFrom, scan, h, Piece.render]

theorem replaceFrom_miss (h : m p (u :: us) = none) :
    replaceFrom m f 0 p (u :: us) = u :: replaceFrom m f 0 (some u) us := by
  simp [replaceFrom, scan, h, Piece.render]

end

def prevAt (p : Option UInt16) (s : List UInt16) : Nat → Option UInt16
  | 0 => p
  | i + 1 => s[i]?

@[simp] theorem prevAt_cons_succ (p : Option UInt16) (u : UInt16) (us : List UInt16) (i : Nat) :
    prevAt p (u :: us) (i + 1) = prevAt (some u) us i := by
  cases i <;> simp [prevAt]

theorem replaceFrom_quiet {m : Matcher α} {f : α → List UInt16} :
    ∀ {n : Nat} {p : Option UInt16} {s : List UInt16},
      (∀ i < n, m (prevAt p s i) (s.drop i) = none) →
      replaceFrom m f 0 p s = s.take n ++ replaceFrom m f 0 (prevAt p s n) (s.drop n)
  | 0, _, _, _ => rfl
  | _ + 1, _, [], _ => by simp
  | n + 1, p, u :: us, h => by
    have h0 : m p (u :: us) = none := h 0 (Nat.succ_pos n)
    rw [replaceFrom_miss h0,
      replaceFrom_quiet (n := n) fun i hi => by simpa using h (i + 1) (by omega)]
    simp

theorem scan_of_quiet {m : Matcher α} :
    ∀ {p : Option UInt16} {s : List UInt16},
      (∀ i < s.length, m (prevAt p s i) (s.drop i) = none) → scan m 0 p s = s.map .unit
  | _, [], _ => rfl
  | p, u :: us, h => by
    have h0 : m p (u :: us) = none := h 0 (Nat.succ_pos _)
    simp only [scan, h0, List.map_cons]
    rw [scan_of_quiet fun i hi => by simpa using h (i + 1) (by simpa using hi)]

theorem replaceFrom_of_quiet {m : Matcher α} {f : α → List UInt16} {p : Option UInt16}
    {s : List UInt16} (h : ∀ i < s.length, m (prevAt p s i) (s.drop i) = none) :
    replaceFrom m f 0 p s = s := by
  rw [replaceFrom_quiet h]
  simp

theorem length_replaceFrom_le {m : Matcher α} {f : α → List UInt16}
    (hf : ∀ p u us n g, m p (u :: us) = some (n, g) → n ≤ us.length ∧ (f g).length ≤ n + 1) :
    ∀ {k : Nat} {p : Option UInt16} {s : List UInt16}, (replaceFrom m f k p s).length ≤ s.length - k
  | _, _, [] => by simp
  | k + 1, _, u :: us => by
    simpa using length_replaceFrom_le hf (k := k) (p := some u) (s := us)
  | 0, p, u :: us => by
    cases hm : m p (u :: us) with
    | some r =>
      obtain ⟨hn, hlen⟩ := hf p u us r.1 r.2 hm
      have := length_replaceFrom_le hf (k := r.1) (p := some u) (s := us)
      rw [replaceFrom_hit hm, List.length_append, List.length_cons]
      omega
    | none =>
      have := length_replaceFrom_le hf (k := 0) (p := some u) (s := us)
      rw [replaceFrom_miss hm, List.length_cons, List.length_cons]
      omega

/-! ## What the output starts with -/

theorem prefix_of_prefix_bracket {w pre t : List UInt16} (hw : ∀ x ∈ w, x ≠ 91)
    (h : w <+: pre ++ 91 :: t) : w <+: pre := by
  induction pre generalizing w with
  | nil =>
    cases w with
    | nil => exact List.nil_prefix
    | cons x w =>
      exact absurd (List.cons_prefix_cons.mp h).1 (hw x (List.mem_cons_self x w))
  | cons a pre ih =>
    cases w with
    | nil => exact List.nil_prefix
    | cons x w =>
      obtain ⟨rfl, hp⟩ := List.cons_prefix_cons.mp h
      exact List.cons_prefix_cons.mpr ⟨rfl, ih (fun y hy => hw y (List.mem_cons_of_mem x hy)) hp⟩

theorem prefix_of_replaceFrom {m : Matcher α} {f : α → List UInt16}
    (hf : ∀ p s n g, m p s = some (n, g) → ∃ pre rest, f g = pre ++ 91 :: rest ∧ pre <+: s) :
    ∀ {k : Nat} {p : Option UInt16} {s w : List UInt16}, (∀ x ∈ w, x ≠ 91) →
      w <+: replaceFrom m f k p s → w <+: s.drop k
  | _, _, [], w, _, h => by simpa using h
  | k + 1, _, u :: us, w, hw, h => by
    have h' : w <+: replaceFrom m f k (some u) us := by simpa using h
    exact prefix_of_replaceFrom hf (k := k) (p := some u) (s := us) hw h'
  | 0, p, u :: us, w, hw, h => by
    cases hm : m p (u :: us) with
    | some r =>
      obtain ⟨pre, rest, hfr, hpre⟩ := hf p (u :: us) r.1 r.2 hm
      rw [replaceFrom_hit hm, hfr, List.append_assoc, List.cons_append] at h
      exact (prefix_of_prefix_bracket hw h).trans hpre
    | none =>
      rw [replaceFrom_miss hm] at h
      cases w with
      | nil => exact List.nil_prefix
      | cons x w =>
        obtain ⟨rfl, hp⟩ := List.cons_prefix_cons.mp h
        exact List.cons_prefix_cons.mpr
          ⟨rfl, prefix_of_replaceFrom hf (fun y hy => hw y (List.mem_cons_of_mem x hy)) hp⟩

/-! ## Properties of every suffix -/

/-- `P` holds of every suffix of `s`: a property of each position of a text. -/
def Everywhere (P : List UInt16 → Prop) (s : List UInt16) : Prop := ∀ i, P (s.drop i)

section
variable {P : List UInt16 → Prop} {s t : List UInt16} {u : UInt16}

theorem everywhere_cons : Everywhere P (u :: s) ↔ P (u :: s) ∧ Everywhere P s :=
  ⟨fun h => ⟨h 0, fun i => h (i + 1)⟩, fun ⟨h0, h⟩ i => by cases i; exacts [h0, h _]⟩

theorem everywhere_nil : Everywhere P [] ↔ P [] := ⟨fun h => h 0, fun h i => by simpa using h⟩

theorem everywhere_append :
    Everywhere P (s ++ t) ↔ (∀ i < s.length, P ((s ++ t).drop i)) ∧ Everywhere P t := by
  induction s with
  | nil => simp
  | cons u s ih =>
    rw [List.cons_append, everywhere_cons, ih]
    constructor
    · rintro ⟨h0, hs, ht⟩
      refine ⟨fun i hi => ?_, ht⟩
      cases i with
      | zero => exact h0
      | succ i => simpa using hs i (by simpa using hi)
    · rintro ⟨hs, ht⟩
      exact ⟨hs 0 (by simp), fun i hi => by simpa using hs (i + 1) (by simpa using hi), ht⟩

end

theorem everywhere_replaceFrom {m : Matcher α} {f : α → List UInt16}
    {P Inv : List UInt16 → Prop} (hnil : P [])
    (hhit : ∀ p u us n g, m p (u :: us) = some (n, g) → Everywhere Inv (u :: us) →
      Everywhere P (replaceFrom m f n (some u) us) →
      Everywhere P (f g ++ replaceFrom m f n (some u) us))
    (hmiss : ∀ p u us, m p (u :: us) = none → Everywhere Inv (u :: us) →
      Everywhere P (replaceFrom m f 0 (some u) us) →
      P (u :: replaceFrom m f 0 (some u) us)) :
    ∀ {k : Nat} {p : Option UInt16} {s : List UInt16}, Everywhere Inv s →
      Everywhere P (replaceFrom m f k p s)
  | _, _, [], _ => by simpa [everywhere_nil] using hnil
  | k + 1, _, u :: us, hi => by
    simpa using everywhere_replaceFrom hnil hhit hmiss (everywhere_cons.mp hi).2
  | 0, p, u :: us, hi => by
    have ih : ∀ k, Everywhere P (replaceFrom m f k (some u) us) := fun _ =>
      everywhere_replaceFrom hnil hhit hmiss (everywhere_cons.mp hi).2
    cases hm : m p (u :: us) with
    | some r => rw [replaceFrom_hit hm]; exact hhit p u us r.1 r.2 hm hi (ih r.1)
    | none =>
      rw [replaceFrom_miss hm]
      exact everywhere_cons.mpr ⟨hmiss p u us hm hi (ih 0), ih 0⟩

end ton_agent_bot.js
