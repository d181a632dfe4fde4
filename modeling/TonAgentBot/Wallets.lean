-- The wallet_links rows of db/queries/wallet.ts and telegram_users.default_wallet_link_id,
-- under sequences of linkWallet, setDefaultWallet, getDefaultWallet and
-- deactivateWalletLinks. Deactivation keeps `is_default` and the user's default id, a
-- relinked address comes back with its old `is_default`, and setDefaultWallet stores any
-- id it is given. Since link ids are keys, getDefaultWallet's fallback repairs what these
-- break.
import Mathlib.Data.List.Nodup
import TonAgentBot.Run

namespace ton_agent_bot.wallet

/-! ## The rows and the queries -/

/-- The columns of a wallet_links row that the modelled code reads or writes. Ids, uuids in
the table, are numbers here; times are milliseconds. -/
structure WalletLink where
  id : Nat
  telegramUserId : String
  address : String
  isActive : Bool
  isDefault : Bool
  updatedAt : Nat
  deriving DecidableEq, Repr

/-- The table, the `default_wallet_link_id` of each user's telegram_users row, the id the
next insert gets, and the clock. -/
structure WalletStore where
  links : List WalletLink
  defaultWalletLinkId : String → Option Nat
  nextId : Nat
  now : Nat

def WalletStore.updateLinks (s : WalletStore) (p : WalletLink → Bool)
    (f : WalletLink → WalletLink) : WalletStore :=
  { s with links := s.links.map fun l => if p l then f l else l }

def WalletStore.setUserDefault (s : WalletStore) (u : String) (id : Option Nat) : WalletStore :=
  { s with defaultWalletLinkId := fun v => if v = u then id else s.defaultWalletLinkId v }

/-- `deactivateWalletLinks`: every link of the user inactive; `is_default` stays. -/
def deactivateWalletLinks (s : WalletStore) (telegramUserId : String) : WalletStore :=
  s.updateLinks (·.telegramUserId = telegramUserId)
    fun l => { l with isActive := false, updatedAt := s.now }

/-- The select `telegram_user_id = u AND is_active AND is_default LIMIT 1`. -/
def activeDefault (s : WalletStore) (telegramUserId : String) : Option WalletLink :=
  s.links.find? fun l => l.telegramUserId = telegramUserId && l.isActive && l.isDefault

/-- `linkWallet` (lines 15-105): find the user's link of the address or insert an active,
non-default one; mark it active; and when the user has no active default, promote it and
make it the user's default. -/
def linkWallet (s : WalletStore) (telegramUserId address : String) : WalletLink × WalletStore :=
  let (wallet, s) :=
    match s.links.find? fun l => l.telegramUserId = telegramUserId && l.address = address with
    | some existing => (existing, s)
    | none =>
      let w : WalletLink := ⟨s.nextId, telegramUserId, address, true, false, s.now⟩
      (w, { s with links := s.links ++ [w], nextId := s.nextId + 1 })
  let s := s.updateLinks (·.id = wallet.id) fun l => { l with isActive := true, updatedAt := s.now }
  let wallet := { wallet with isActive := true, updatedAt := s.now }
  match activeDefault s telegramUserId with
  | some _ => (wallet, s)
  | none =>
    let s := s.updateLinks (·.id = wallet.id) fun l => { l with isDefault := true, updatedAt := s.now }
    ({ wallet with isDefault := true }, s.setUserDefault telegramUserId (some wallet.id))

/-- `setDefaultWallet` (lines 119-155): of the user's active links, the one with the id
becomes the default and the others not; the user's default is the id, whatever it names. -/
def setDefaultWallet (s : WalletStore) (telegramUserId : String) (walletId : Nat) :
    Option WalletLink × WalletStore :=
  let s := s.updateLinks (fun l => l.telegramUserId = telegramUserId && l.isActive)
    fun l => { l with isDefault := l.id = walletId, updatedAt := s.now }
  let s := s.setUserDefault telegramUserId (some walletId)
  (s.links.find? fun l => l.telegramUserId = telegramUserId && l.id = walletId, s)

/-- The latest updated of some links, the first of them on a tie. -/
def latestUpdated : List WalletLink → Option WalletLink
  | [] => none
  | l :: ls =>
    match latestUpdated ls with
    | some m => if l.updatedAt < m.updatedAt then some m else some l
    | none => some l

/-- `getDefaultWallet` (lines 157-194): the active default, or else the latest updated
active link, which it makes the default. -/
def getDefaultWallet (s : WalletStore) (telegramUserId : String) :
    Option WalletLink × WalletStore :=
  match activeDefault s telegramUserId with
  | some explicit => (some explicit, s)
  | none =>
    match latestUpdated (s.links.filter fun l => l.telegramUserId = telegramUserId && l.isActive) with
    | none => (none, s)
    | some fallback => (some fallback, (setDefaultWallet s telegramUserId fallback.id).2)

/-! ## Sequences of calls -/

inductive WalletCall
  | link (telegramUserId address : String)
  | setDefault (telegramUserId : String) (walletId : Nat)
  | getDefault (telegramUserId : String)
  | deactivate (telegramUserId : String)
  deriving DecidableEq, Repr

/-- One call on the store. -/
def WalletCall.apply (s : WalletStore) : WalletCall → WalletStore
  | .link u a => (linkWallet s u a).2
  | .setDefault u w => (setDefaultWallet s u w).2
  | .getDefault u => (getDefaultWallet s u).2
  | .deactivate u => deactivateWalletLinks s u

def runCalls (s : WalletStore) (calls : List WalletCall) : WalletStore :=
  calls.foldl (fun s c => { c.apply s with now := s.now + 1 }) s

def WalletStore.empty : WalletStore := ⟨[], fun _ => none, 0, 0⟩

def activeDefaults (s : WalletStore) (telegramUserId : String) : Nat :=
  (s.links.filter fun l => l.telegramUserId = telegramUserId && l.isActive && l.isDefault).length

/-- The user's `default_wallet_link_id` is unset or names an active link of the user. -/
def defaultNamesActiveLink (s : WalletStore) (telegramUserId : String) : Bool :=
  match s.defaultWalletLinkId telegramUserId with
  | none => true
  | some id => s.links.any fun l => l.id = id && l.telegramUserId = telegramUserId && l.isActive

/-! ## The fallback picks one of the rows it reads -/

theorem latestUpdated_mem : ∀ {ls : List WalletLink} {m : WalletLink},
    latestUpdated ls = some m → m ∈ ls
  | [], _, h => by cases h
  | l :: ls, m, h => by
    simp only [latestUpdated] at h
    split at h
    · rename_i m' hm'
      split_ifs at h <;> simp only [Option.some.injEq] at h <;> subst h
      · exact List.mem_cons_of_mem _ (latestUpdated_mem hm')
      · exact List.mem_cons_self _ _
    · cases h; exact List.mem_cons_self _ _

/-! ## Link ids are keys -/

/-- The ids of the links are distinct and below the id the next insert gets, as the table's
primary key keeps them. -/
structure KeyedIds (s : WalletStore) : Prop where
  nodup : (s.links.map (·.id)).Nodup
  fresh : ∀ i ∈ s.links.map (·.id), i < s.nextId

section
variable {s : WalletStore}

theorem WalletStore.updateLinks_ids {p : WalletLink → Bool} {f : WalletLink → WalletLink}
    (hf : ∀ l, (f l).id = l.id) : (s.updateLinks p f).links.map (·.id) = s.links.map (·.id) := by
  simp only [WalletStore.updateLinks, List.map_map, Function.comp_def, apply_ite WalletLink.id,
    hf, ite_self]

theorem KeyedIds.empty : KeyedIds WalletStore.empty :=
  ⟨List.nodup_nil, fun _ h => (List.not_mem_nil _ h).elim⟩

theorem KeyedIds.updateLinks (h : KeyedIds s) {p : WalletLink → Bool}
    {f : WalletLink → WalletLink} (hf : ∀ l, (f l).id = l.id) : KeyedIds (s.updateLinks p f) := by
  refine ⟨?_, ?_⟩ <;> rw [WalletStore.updateLinks_ids hf]
  exacts [h.nodup, h.fresh]

theorem KeyedIds.setUserDefault (h : KeyedIds s) {u : String} {id : Option Nat} :
    KeyedIds (s.setUserDefault u id) := ⟨h.nodup, h.fresh⟩

theorem KeyedIds.insert (h : KeyedIds s) {w : WalletLink} (hw : w.id = s.nextId) :
    KeyedIds { s with links := s.links ++ [w], nextId := s.nextId + 1 } := by
  refine ⟨?_, ?_⟩
  · simp only [List.map_append, List.map_cons, List.map_nil, List.nodup_append,
      List.nodup_singleton, List.disjoint_singleton]
    exact ⟨h.nodup, trivial, fun hm => by have := h.fresh _ hm; omega⟩
  · simp only [List.map_append, List.map_cons, List.map_nil, List.mem_append,
      List.mem_singleton]
    rintro i (hi | rfl)
    · have := h.fresh i hi; omega
    · omega

theorem KeyedIds.of_linkWallet (h : KeyedIds s) (telegramUserId address : String) :
    KeyedIds (linkWallet s telegramUserId address).2 := by
  unfold linkWallet
  split
  rename_i s1 hs1
  have h1 : KeyedIds s1 := by
    split at hs1 <;> cases hs1
    exacts [h, h.insert rfl]
  dsimp only
  split
  · exact h1.updateLinks fun _ => rfl
  · apply KeyedIds.setUserDefault
    refine (h1.updateLinks ?_).updateLinks ?_ <;> exact fun _ => rfl

theorem KeyedIds.of_setDefaultWallet (h : KeyedIds s) (telegramUserId : String) (walletId : Nat) :
    KeyedIds (setDefaultWallet s telegramUserId walletId).2 := by
  unfold setDefaultWallet
  dsimp only
  refine (h.updateLinks ?_).setUserDefault
  exact fun _ => rfl

theorem KeyedIds.of_getDefaultWallet (h : KeyedIds s) (telegramUserId : String) :
    KeyedIds (getDefaultWallet s telegramUserId).2 := by
  unfold getDefaultWallet
  split
  · exact h
  · split
    exacts [h, h.of_setDefaultWallet _ _]

theorem KeyedIds.apply (h : KeyedIds s) : ∀ c : WalletCall, KeyedIds (c.apply s)
  | .link u a => h.of_linkWallet u a
  | .setDefault u w => h.of_setDefaultWallet u w
  | .getDefault u => h.of_getDefaultWallet u
  | .deactivate _ => h.updateLinks fun _ => rfl

end

theorem KeyedIds.of_runCalls :
    ∀ (calls : List WalletCall) {s : WalletStore}, KeyedIds s → KeyedIds (runCalls s calls)
  | [], _, h => h
  | c :: cs, _, h => KeyedIds.of_runCalls cs ⟨(h.apply c).nodup, (h.apply c).fresh⟩

theorem length_filter_le_one_of_id {ls : List WalletLink} (h : (ls.map (·.id)).Nodup)
    {q : WalletLink → Bool} (i : Nat) (hq : ∀ l, q l = true → l.id = i) :
    (ls.filter q).length ≤ 1 := by
  have hnd : ((ls.filter q).map (·.id)).Nodup := h.sublist ((List.filter_sublist ls).map _)
  have hrep : (ls.filter q).map (·.id) = List.replicate (ls.filter q).length i := by
    refine List.eq_replicate_iff.2 ⟨List.length_map _ _, ?_⟩
    simp only [List.mem_map, List.mem_filter]
    rintro _ ⟨l, ⟨-, hl⟩, rfl⟩
    exact hq l hl
  rw [hrep] at hnd
  exact List.nodup_replicate.1 hnd

theorem KeyedIds.fallback_default {s : WalletStore} (h : KeyedIds s) (telegramUserId : String)
    {w : WalletLink} (hnone : activeDefault s telegramUserId = none)
    (hw : (getDefaultWallet s telegramUserId).1 = some w) :
    activeDefaults (getDefaultWallet s telegramUserId).2 telegramUserId = 1 ∧
      defaultNamesActiveLink (getDefaultWallet s telegramUserId).2 telegramUserId = true ∧
      (getDefaultWallet s telegramUserId).2.defaultWalletLinkId telegramUserId = some w.id := by
  unfold getDefaultWallet at hw ⊢
  simp only [hnone] at hw ⊢
  cases hf : latestUpdated (s.links.filter fun l => l.telegramUserId = telegramUserId && l.isActive) with
  | none => simp [hf] at hw
  | some f =>
    simp only [hf, Option.some.injEq] at hw ⊢
    subst hw
    have hmem := List.mem_filter.mp (latestUpdated_mem hf)
    have hc : f.telegramUserId = telegramUserId ∧ f.isActive = true := by simpa using hmem.2
    refine ⟨?_, ?_, by simp [setDefaultWallet, WalletStore.setUserDefault]⟩
    · unfold activeDefaults setDefaultWallet
      simp only [WalletStore.setUserDefault, WalletStore.updateLinks, List.filter_map,
        List.length_map]
      refine le_antisymm (length_filter_le_one_of_id h.nodup f.id fun l hl => ?_)
        (List.length_pos_of_mem (List.mem_filter.2 ⟨hmem.1, ?_⟩))
      · simp only [Function.comp] at hl; split at hl <;> simp_all
      · simp [hc]
    · unfold defaultNamesActiveLink setDefaultWallet
      simp only [WalletStore.setUserDefault, WalletStore.updateLinks, if_pos, List.any_map,
        List.any_eq_true]
      exact ⟨f, hmem.1, by simp [hc]⟩

/-- From any store that a sequence of wallet calls reaches from the empty one, a
getDefaultWallet that finds no active default and falls back to one of the user's links
leaves that link the user's only active default and the id the user's row names. -/
theorem getDefaultWallet_fallback_repairs_default (calls : List WalletCall)
    (telegramUserId : String) {w : WalletLink}
    (hnone : activeDefault (runCalls .empty calls) telegramUserId = none)
    (hw : (getDefaultWallet (runCalls .empty calls) telegramUserId).1 = some w) :
    activeDefaults (getDefaultWallet (runCalls .empty calls) telegramUserId).2 telegramUserId = 1 ∧
      defaultNamesActiveLink (getDefaultWallet (runCalls .empty calls) telegramUserId).2
        telegramUserId = true ∧
      (getDefaultWallet (runCalls .empty calls) telegramUserId).2.defaultWalletLinkId
        telegramUserId = some w.id :=
  (KeyedIds.of_runCalls calls KeyedIds.empty).fallback_default telegramUserId hnone hw

def strangerDefault : List WalletCall := [.link "8" "EQc", .link "7" "EQa", .setDefault "7" 0]

theorem stranger_default_repaired_by_fallback :
    activeDefault (runCalls .empty strangerDefault) "7" = none ∧
      (getDefaultWallet (runCalls .empty strangerDefault) "7").1 =
        some ⟨1, "7", "EQa", true, false, 2⟩ ∧
      activeDefaults (getDefaultWallet (runCalls .empty strangerDefault) "7").2 "7" = 1 ∧
      defaultNamesActiveLink (getDefaultWallet (runCalls .empty strangerDefault) "7").2 "7" =
        true ∧
      (getDefaultWallet (runCalls .empty strangerDefault) "7").2.defaultWalletLinkId "7" =
        some 1 :=
  have hnone : activeDefault (runCalls .empty strangerDefault) "7" = none := by decide
  have hw : (getDefaultWallet (runCalls .empty strangerDefault) "7").1 =
      some ⟨1, "7", "EQa", true, false, 2⟩ := by decide
  ⟨hnone, hw, getDefaultWallet_fallback_repairs_default strangerDefault "7" hnone hw⟩

/-! ## Three sequences that break the two laws -/

/-- User 7 links a wallet and then its links are deactivated; user 7 links two wallets,
is deactivated, and links them again in the other order; user 7 sets as default the id of
user 8's link. -/
theorem wallet_defaults_break :
    defaultNamesActiveLink (runCalls .empty [.link "7" "EQa", .deactivate "7"]) "7" = false ∧
      activeDefaults (runCalls .empty [.link "7" "EQa", .link "7" "EQb", .deactivate "7",
        .link "7" "EQb", .link "7" "EQa"]) "7" = 2 ∧
      defaultNamesActiveLink (runCalls .empty [.link "8" "EQc", .link "7" "EQa",
        .setDefault "7" 0]) "7" = false := by
  decide

end ton_agent_bot.wallet
