-- The preferences of telegram_users and telegram_chats under the updates that write them:
-- the records routeUpdate and ensureRecordsForCallback make, the settings buttons and the
-- /network command, as preferences/resolver reads them. A chat's network column is never
-- null, so a chat's effective network is that column: the user's default network reaches it
-- only when a message makes the chat or "This chat uses default" copies it, while the style
-- of a chat with no override follows the user's default as it changes.
import TonAgentBot.Telegram.Callbacks

namespace ton_agent_bot.preferences

open tool_policy updates telegram

/-! ## The rows -/

inductive ResponseStyle
  | concise
  | detailed
  deriving DecidableEq, Repr

/-- The preference columns of a telegram_users row. -/
structure UserRow where
  defaultResponseStyle : ResponseStyle
  defaultRiskProfile : RiskProfile
  defaultNetwork : TonNetwork
  deriving DecidableEq, Repr

/-- The telegram_users row an insert makes: the column defaults of db/schema. -/
def UserRow.columnDefaults : UserRow := ⟨.concise, .balanced, .mainnet⟩

/-- The columns of a telegram_chats row that the preference code writes. -/
structure ChatRow where
  chatType : ChatType
  network : TonNetwork
  responseStyleOverride : Option ResponseStyle
  riskProfileOverride : Option RiskProfile
  deriving DecidableEq, Repr

/-- The two tables, by Telegram id. -/
structure PrefStore where
  users : String → Option UserRow
  chats : String → Option ChatRow

def PrefStore.empty : PrefStore := ⟨fun _ => none, fun _ => none⟩

def PrefStore.setUser (s : PrefStore) (u : String) (row : UserRow) : PrefStore :=
  { s with users := fun v => if v = u then some row else s.users v }

def PrefStore.setChat (s : PrefStore) (c : String) (row : ChatRow) : PrefStore :=
  { s with chats := fun v => if v = c then some row else s.chats v }

@[simp] theorem PrefStore.setUser_chats (s : PrefStore) (u : String) (row : UserRow) :
    (s.setUser u row).chats = s.chats := rfl

@[simp] theorem PrefStore.setChat_users (s : PrefStore) (c : String) (row : ChatRow) :
    (s.setChat c row).users = s.users := rfl

@[simp] theorem PrefStore.setChat_chats (s : PrefStore) (c v : String) (row : ChatRow) :
    (s.setChat c row).chats v = if v = c then some row else s.chats v := rfl

/-! ## The resolver -/

def DEFAULT_RESPONSE_STYLE : ResponseStyle := .concise
def DEFAULT_RISK_PROFILE : RiskProfile := .balanced
def DEFAULT_NETWORK : TonNetwork := .mainnet

structure ResolvedPreferences where
  responseStyle : ResponseStyle
  riskProfile : RiskProfile
  network : TonNetwork
  deriving DecidableEq, Repr

/-- `resolveEffectivePreferences` (part_009, lines 243-258): the chat's value, else the
user's, else the default, field by field. -/
def resolveEffectivePreferences (user : Option UserRow) (chat : Option ChatRow) :
    ResolvedPreferences :=
  ⟨((chat.bind (·.responseStyleOverride)).orElse fun _ => user.map (·.defaultResponseStyle)).getD
      DEFAULT_RESPONSE_STYLE,
    ((chat.bind (·.riskProfileOverride)).orElse fun _ => user.map (·.defaultRiskProfile)).getD
      DEFAULT_RISK_PROFILE,
    ((chat.map (·.network)).orElse fun _ => user.map (·.defaultNetwork)).getD DEFAULT_NETWORK⟩

/-! ## The queries of db/queries/messages -/

/-- `upsertTelegramUser` (lines 51-108): the preferences it is given set on the row, or the
row made with them and the column defaults. -/
def upsertTelegramUser (s : PrefStore) (telegramUserId : String)
    (defaultResponseStyle : Option ResponseStyle) (defaultRiskProfile : Option RiskProfile)
    (defaultNetwork : Option TonNetwork) : UserRow × PrefStore :=
  let base := (s.users telegramUserId).getD UserRow.columnDefaults
  let row : UserRow := ⟨defaultResponseStyle.getD base.defaultResponseStyle,
    defaultRiskProfile.getD base.defaultRiskProfile, defaultNetwork.getD base.defaultNetwork⟩
  (row, s.setUser telegramUserId row)

/-- `upsertTelegramChat` (lines 119-157): the chat type set on the row, or the row made with
the column defaults (network `mainnet`, no overrides). -/
def upsertTelegramChat (s : PrefStore) (telegramChatId : String) (chatType : ChatType) :
    PrefStore :=
  match s.chats telegramChatId with
  | some row => s.setChat telegramChatId { row with chatType := chatType }
  | none => s.setChat telegramChatId ⟨chatType, .mainnet, none, none⟩

/-- `setChatNetwork` (lines 168-179): an update, which writes nothing when there is no row. -/
def setChatNetwork (s : PrefStore) (telegramChatId : String) (network : TonNetwork) :
    PrefStore :=
  match s.chats telegramChatId with
  | some row => s.setChat telegramChatId { row with network := network }
  | none => s

/-- `setTelegramUserPreferences` (lines 181-204): the preferences given, on an existing row. -/
def setTelegramUserPreferences (s : PrefStore) (telegramUserId : String)
    (responseStyle : Option ResponseStyle) (riskProfile : Option RiskProfile)
    (network : Option TonNetwork) : PrefStore :=
  match s.users telegramUserId with
  | some row =>
    s.setUser telegramUserId ⟨responseStyle.getD row.defaultResponseStyle,
      riskProfile.getD row.defaultRiskProfile, network.getD row.defaultNetwork⟩
  | none => s

/-- `setTelegramChatPreferences` (lines 206-229): an override key present in the input sets
the column to its value or to null; the network when given. -/
def setTelegramChatPreferences (s : PrefStore) (telegramChatId : String)
    (responseStyleOverride : Option (Option ResponseStyle))
    (riskProfileOverride : Option (Option RiskProfile)) (network : Option TonNetwork) :
    PrefStore :=
  match s.chats telegramChatId with
  | some row =>
    s.setChat telegramChatId { row with
      responseStyleOverride := responseStyleOverride.getD row.responseStyleOverride
      riskProfileOverride := riskProfileOverride.getD row.riskProfileOverride
      network := network.getD row.network }
  | none => s

/-! ## The updates that write them (telegram/bot) -/

/-- `isResponseStyle`, `isRiskProfile` and `isTonNetwork` as the guards the settings code
narrows with. -/
def isResponseStyle : String → Option ResponseStyle
  | "concise" => some .concise
  | "detailed" => some .detailed
  | _ => none

def isRiskProfile : String → Option RiskProfile
  | "cautious" => some .cautious
  | "balanced" => some .balanced
  | "advanced" => some .advanced
  | _ => none

def isTonNetwork : String → Option TonNetwork
  | "mainnet" => some .mainnet
  | "testnet" => some .testnet
  | _ => none

/-- The writes of `handleSettingsCallback` (lines 1336-1406) for the style, risk and network
sections: `user` sets the user's default, `chat` the chat's value, and `inherit` clears a
style or risk override but copies the user's default network, as it is now, into the chat. -/
def handleSettingsWrites (s : PrefStore) (sect target value telegramUserId telegramChatId : String) :
    PrefStore :=
  if sect = "style" then
    if target = "user" ∧ (isResponseStyle value).isSome then
      setTelegramUserPreferences s telegramUserId (isResponseStyle value) none none
    else if target = "chat" then
      match isResponseStyle value with
      | some v => setTelegramChatPreferences s telegramChatId (some (some v)) none none
      | none =>
        if value = "inherit" then setTelegramChatPreferences s telegramChatId (some none) none none
        else s
    else s
  else if sect = "risk" then
    if target = "user" ∧ (isRiskProfile value).isSome then
      setTelegramUserPreferences s telegramUserId none (isRiskProfile value) none
    else if target = "chat" then
      match isRiskProfile value with
      | some v => setTelegramChatPreferences s telegramChatId none (some (some v)) none
      | none =>
        if value = "inherit" then setTelegramChatPreferences s telegramChatId none (some none) none
        else s
    else s
  else if sect = "network" then
    if target = "user" ∧ (isTonNetwork value).isSome then
      setTelegramUserPreferences s telegramUserId none none (isTonNetwork value)
    else if target = "chat" then
      match isTonNetwork value with
      | some v => setChatNetwork s telegramChatId v
      | none =>
        if value = "inherit" then
          setChatNetwork s telegramChatId
            (((s.users telegramUserId).map (·.defaultNetwork)).getD .mainnet)
        else s
    else s
  else s

/-- The records of a message in `routeUpdate` (lines 1671-1687): the user and the chat
upserted, and a chat that was not there given the user's default network. -/
def ensureRecordsForMessage (s : PrefStore) (telegramUserId telegramChatId : String)
    (chatType : ChatType) : PrefStore :=
  let existingChat := s.chats telegramChatId
  let (user, s) := upsertTelegramUser s telegramUserId none none none
  let s := upsertTelegramChat s telegramChatId chatType
  if existingChat.isNone then setChatNetwork s telegramChatId user.defaultNetwork else s

/-- `ensureRecordsForCallback` (lines 1067-1087): the user and the chat upserted. -/
def ensureRecordsForCallback (s : PrefStore) (telegramUserId telegramChatId : String)
    (chatType : ChatType) : PrefStore :=
  upsertTelegramChat (upsertTelegramUser s telegramUserId none none none).2 telegramChatId chatType

/-- An update as far as the preferences go: a text message, and whether the chat rate limit
let it through, or a callback press with its data. -/
inductive PrefUpdate
  | message (telegramUserId telegramChatId : String) (chatType : ChatType) (text : String)
      (chatAllowed : Bool)
  | callback (telegramUserId telegramChatId : String) (chatType : ChatType) (data : String)
  deriving DecidableEq, Repr

/-- The preference writes of `routeUpdate` for one update; `enabled` is
`PERSONALIZATION_UX_ENABLED`. A message that the chat limit stops writes nothing; one that
passes makes its records, and `/network mainnet|testnet` then sets the chat's network. A
callback makes its records, and a settings press writes as `handleSettingsCallback`. -/
def applyUpdate (enabled : Bool) (s : PrefStore) : PrefUpdate → PrefStore
  | .message u c chatType text chatAllowed =>
    if !chatAllowed then s
    else
      let s := ensureRecordsForMessage s u c chatType
      if (parseCommand text).1 = "/network" then
        match (parseCommand text).2.head?.bind isTonNetwork with
        | some v => setChatNetwork s c v
        | none => s
      else s
  | .callback u c chatType data =>
    let s := ensureRecordsForCallback s u c chatType
    match routeCallbackData data with
    | some (.settings sect target value) => if enabled then handleSettingsWrites s sect target value u c else s
    | _ => s

def applyUpdates (enabled : Bool) (s : PrefStore) (us : List PrefUpdate) : PrefStore :=
  us.foldl (applyUpdate enabled) s

def PrefUpdate.writesChatNetwork (c : String) : PrefUpdate → Bool
  | .message _ c' _ text _ => c' = c && (parseCommand text).1 = "/network"
  | .callback _ c' _ data => c' = c && match routeCallbackData data with
    | some (.settings sect target _) => sect = "network" && target = "chat"
    | _ => false

def PrefUpdate.writesChatStyle (c : String) : PrefUpdate → Bool
  | .message _ _ _ _ _ => false
  | .callback _ c' _ data => c' = c && match routeCallbackData data with
    | some (.settings sect target _) => sect = "style" && target = "chat"
    | _ => false

/-! ## What the updates keep of a chat -/

def chatNetwork (s : PrefStore) (c : String) : Option TonNetwork := (s.chats c).map (·.network)

def chatStyleOverride (s : PrefStore) (c : String) : Option (Option ResponseStyle) :=
  (s.chats c).map (·.responseStyleOverride)

section
variable {s : PrefStore} {c : String}

@[simp] theorem chatNetwork_setUser (u : String) (row : UserRow) :
    chatNetwork (s.setUser u row) c = chatNetwork s c := rfl

@[simp] theorem chatStyleOverride_setUser (u : String) (row : UserRow) :
    chatStyleOverride (s.setUser u row) c = chatStyleOverride s c := rfl

theorem upsertTelegramUser_chats (u : String) (a : Option ResponseStyle) (b : Option RiskProfile)
    (n : Option TonNetwork) : (upsertTelegramUser s u a b n).2.chats = s.chats := rfl

theorem setTelegramUserPreferences_chats (u : String) (a : Option ResponseStyle)
    (b : Option RiskProfile) (n : Option TonNetwork) :
    (setTelegramUserPreferences s u a b n).chats = s.chats := by
  unfold setTelegramUserPreferences; split <;> rfl

theorem upsertTelegramChat_keeps (hc : (s.chats c).isSome) (c' : String) (t : ChatType) :
    chatNetwork (upsertTelegramChat s c' t) c = chatNetwork s c ∧
      chatStyleOverride (upsertTelegramChat s c' t) c = chatStyleOverride s c ∧
      ((upsertTelegramChat s c' t).chats c).isSome := by
  unfold upsertTelegramChat chatNetwork chatStyleOverride
  split <;> simp only [PrefStore.setChat_chats] <;> split_ifs <;> simp_all

theorem setChatNetwork_other {c' : String} (h : c' ≠ c) (n : TonNetwork) :
    (setChatNetwork s c' n).chats c = s.chats c := by
  unfold setChatNetwork; split <;> simp [Ne.symm h]

theorem setChatNetwork_style (c' : String) (n : TonNetwork) :
    chatStyleOverride (setChatNetwork s c' n) c = chatStyleOverride s c := by
  unfold setChatNetwork chatStyleOverride
  split
  · simp only [PrefStore.setChat_chats]; split_ifs <;> simp_all
  · rfl

theorem setChatNetwork_isSome (hc : (s.chats c).isSome) (c' : String) (n : TonNetwork) :
    ((setChatNetwork s c' n).chats c).isSome := by
  unfold setChatNetwork
  split
  · simp only [PrefStore.setChat_chats]; split_ifs <;> simp_all
  · exact hc

theorem setTelegramChatPreferences_keeps (hc : (s.chats c).isSome) (c' : String)
    (a : Option (Option ResponseStyle)) (b : Option (Option RiskProfile)) :
    chatNetwork (setTelegramChatPreferences s c' a b none) c = chatNetwork s c ∧
      (a = none → chatStyleOverride (setTelegramChatPreferences s c' a b none) c =
        chatStyleOverride s c) ∧
      ((setTelegramChatPreferences s c' a b none).chats c).isSome := by
  unfold setTelegramChatPreferences chatNetwork chatStyleOverride
  split
  · simp only [PrefStore.setChat_chats]; split_ifs <;> simp_all
  · simp_all

theorem setTelegramChatPreferences_other {c' : String} (h : c' ≠ c)
    (a : Option (Option ResponseStyle)) (b : Option (Option RiskProfile)) (n : Option TonNetwork) :
    (setTelegramChatPreferences s c' a b n).chats c = s.chats c := by
  unfold setTelegramChatPreferences; split <;> simp [Ne.symm h]

theorem handleSettingsWrites_keeps (hc : (s.chats c).isSome) (sect target value u c' : String) :
    (¬(c' = c ∧ sect = "network" ∧ target = "chat") →
      chatNetwork (handleSettingsWrites s sect target value u c') c = chatNetwork s c) ∧
    (¬(c' = c ∧ sect = "style" ∧ target = "chat") →
      chatStyleOverride (handleSettingsWrites s sect target value u c') c = chatStyleOverride s c) ∧
    ((handleSettingsWrites s sect target value u c').chats c).isSome := by
  have user : ∀ a b n, chatNetwork (setTelegramUserPreferences s u a b n) c = chatNetwork s c ∧
      chatStyleOverride (setTelegramUserPreferences s u a b n) c = chatStyleOverride s c ∧
      ((setTelegramUserPreferences s u a b n).chats c).isSome := fun a b n => by
    simp [chatNetwork, chatStyleOverride, setTelegramUserPreferences_chats, hc]
  have chatPrefs : ∀ a b, chatNetwork (setTelegramChatPreferences s c' a b none) c = chatNetwork s c ∧
      (c' ≠ c → chatStyleOverride (setTelegramChatPreferences s c' a b none) c =
        chatStyleOverride s c) ∧
      ((setTelegramChatPreferences s c' a b none).chats c).isSome := fun a b => by
    obtain ⟨hn, -, hs⟩ := setTelegramChatPreferences_keeps hc c' a b
    exact ⟨hn, fun h => by simp only [chatStyleOverride, setTelegramChatPreferences_other h], hs⟩
  have riskPrefs : ∀ b, chatNetwork (setTelegramChatPreferences s c' none b none) c = chatNetwork s c ∧
      chatStyleOverride (setTelegramChatPreferences s c' none b none) c = chatStyleOverride s c ∧
      ((setTelegramChatPreferences s c' none b none).chats c).isSome := fun b => by
    obtain ⟨hn, hst, hs⟩ := setTelegramChatPreferences_keeps hc c' none b
    exact ⟨hn, hst rfl, hs⟩
  have network : ∀ n, c' ≠ c → chatNetwork (setChatNetwork s c' n) c = chatNetwork s c := fun n h => by
    simp only [chatNetwork, setChatNetwork_other h]
  unfold handleSettingsWrites
  split_ifs <;> (try split) <;> first
    | exact ⟨fun _ => rfl, fun _ => rfl, hc⟩
    | exact ⟨fun _ => (user _ _ _).1, fun _ => (user _ _ _).2.1, (user _ _ _).2.2⟩
    | exact ⟨fun _ => (riskPrefs _).1, fun _ => (riskPrefs _).2.1, (riskPrefs _).2.2⟩
    | exact ⟨fun _ => (chatPrefs _ _).1,
        fun h => (chatPrefs _ _).2.1 fun e => h ⟨e, by assumption, by assumption⟩,
        (chatPrefs _ _).2.2⟩
    | exact ⟨fun h => network _ fun e => h ⟨e, by assumption, by assumption⟩,
        fun _ => setChatNetwork_style _ _, setChatNetwork_isSome hc _ _⟩

theorem ensureRecordsForMessage_keeps (hc : (s.chats c).isSome) (u c' : String) (t : ChatType) :
    chatNetwork (ensureRecordsForMessage s u c' t) c = chatNetwork s c ∧
      chatStyleOverride (ensureRecordsForMessage s u c' t) c = chatStyleOverride s c ∧
      ((ensureRecordsForMessage s u c' t).chats c).isSome := by
  obtain ⟨hn, hst, hs⟩ :=
    upsertTelegramChat_keeps (s := (upsertTelegramUser s u none none none).2) hc c' t
  simp only [chatNetwork, chatStyleOverride, upsertTelegramUser_chats] at hn hst
  unfold ensureRecordsForMessage chatNetwork chatStyleOverride
  rcases hup : upsertTelegramUser s u none none none with ⟨user, s₁⟩
  rw [hup] at hn hst hs
  dsimp only at hn hst hs ⊢
  split_ifs with hnew
  · have hne : c' ≠ c := by rintro rfl; simp_all
    simp only [setChatNetwork_other hne]
    exact ⟨hn, hst, hs⟩
  · exact ⟨hn, hst, hs⟩

theorem ensureRecordsForCallback_keeps (hc : (s.chats c).isSome) (u c' : String) (t : ChatType) :
    chatNetwork (ensureRecordsForCallback s u c' t) c = chatNetwork s c ∧
      chatStyleOverride (ensureRecordsForCallback s u c' t) c = chatStyleOverride s c ∧
      ((ensureRecordsForCallback s u c' t).chats c).isSome :=
  upsertTelegramChat_keeps (s := (upsertTelegramUser s u none none none).2) hc c' t

theorem applyUpdate_keeps (hc : (s.chats c).isSome) (enabled : Bool) (x : PrefUpdate) :
    (x.writesChatNetwork c = false → chatNetwork (applyUpdate enabled s x) c = chatNetwork s c) ∧
    (x.writesChatStyle c = false →
      chatStyleOverride (applyUpdate enabled s x) c = chatStyleOverride s c) ∧
    ((applyUpdate enabled s x).chats c).isSome := by
  cases x with
  | message u c' t text allowed =>
    cases allowed
    · exact ⟨fun _ => rfl, fun _ => rfl, hc⟩
    obtain ⟨hn, hst, hs⟩ := ensureRecordsForMessage_keeps hc u c' t
    simp only [applyUpdate, Bool.not_true, Bool.false_eq_true, if_false]
    split_ifs with hcmd
    · split
      · refine ⟨fun h => ?_, fun _ => (setChatNetwork_style _ _).trans hst,
          setChatNetwork_isSome hs _ _⟩
        have hne : c' ≠ c := by rintro rfl; simp [PrefUpdate.writesChatNetwork, hcmd] at h
        simp only [chatNetwork, setChatNetwork_other hne] at hn ⊢
        exact hn
      · exact ⟨fun _ => hn, fun _ => hst, hs⟩
    · exact ⟨fun _ => hn, fun _ => hst, hs⟩
  | callback u c' t data =>
    obtain ⟨hn, hst, hs⟩ := ensureRecordsForCallback_keeps hc u c' t
    cases hroute : routeCallbackData data with
    | none => simp only [applyUpdate, hroute]; exact ⟨fun _ => hn, fun _ => hst, hs⟩
    | some handler =>
      cases handler with
      | settings sect target value =>
        cases enabled
        · simp only [applyUpdate, hroute, Bool.false_eq_true, if_false]
          exact ⟨fun _ => hn, fun _ => hst, hs⟩
        obtain ⟨hn', hst', hs'⟩ := handleSettingsWrites_keeps hs sect target value u c'
        simp only [applyUpdate, hroute, if_true]
        refine ⟨fun h => (hn' ?_).trans hn, fun h => (hst' ?_).trans hst, hs'⟩ <;>
          rintro ⟨rfl, h1, h2⟩ <;>
          simp [PrefUpdate.writesChatNetwork, PrefUpdate.writesChatStyle, hroute, h1, h2] at h
      | _ => simp only [applyUpdate, hroute]; exact ⟨fun _ => hn, fun _ => hst, hs⟩

end

theorem applyUpdates_keeps (enabled : Bool) :
    ∀ (us : List PrefUpdate) (s : PrefStore) (c : String), (s.chats c).isSome →
      (∀ x ∈ us, x.writesChatNetwork c = false ∧ x.writesChatStyle c = false) →
      chatNetwork (applyUpdates enabled s us) c = chatNetwork s c ∧
        chatStyleOverride (applyUpdates enabled s us) c = chatStyleOverride s c
  | [], _, _, _, _ => ⟨rfl, rfl⟩
  | x :: us, s, c, hc, hno => by
    obtain ⟨hn, hst, hs⟩ := applyUpdate_keeps hc enabled x
    obtain ⟨hn', hst'⟩ := applyUpdates_keeps enabled us (applyUpdate enabled s x) c hs
      fun y hy => hno y (List.mem_cons_of_mem x hy)
    exact ⟨hn'.trans (hn (hno x (List.mem_cons_self x us)).1),
      hst'.trans (hst (hno x (List.mem_cons_self x us)).2)⟩

/-- A chat keeps resolving to the network it has while the user's default network changes
under it, and a chat without a style override resolves to the user's default style as it
stands after the updates: over any run in which no update may write the chat's network or
style override. -/
theorem chat_network_kept_style_follows_user (enabled : Bool) (s : PrefStore)
    (us : List PrefUpdate) (u c : String) (hc : (s.chats c).isSome)
    (hno : ∀ x ∈ us, x.writesChatNetwork c = false ∧ x.writesChatStyle c = false) :
    (resolveEffectivePreferences ((applyUpdates enabled s us).users u)
        ((applyUpdates enabled s us).chats c)).network =
      (resolveEffectivePreferences (s.users u) (s.chats c)).network ∧
    ((s.chats c).bind (·.responseStyleOverride) = none →
      (resolveEffectivePreferences ((applyUpdates enabled s us).users u)
          ((applyUpdates enabled s us).chats c)).responseStyle =
        (((applyUpdates enabled s us).users u).map (·.defaultResponseStyle)).getD
          DEFAULT_RESPONSE_STYLE) := by
  obtain ⟨hn, hst⟩ := applyUpdates_keeps enabled us s c hc hno
  obtain ⟨row, hrow⟩ := Option.isSome_iff_exists.1 hc
  simp only [chatNetwork, chatStyleOverride, hrow, Option.map_some'] at hn hst
  obtain ⟨row', hrow', hnet, hov⟩ : ∃ row', (applyUpdates enabled s us).chats c = some row' ∧
      row'.network = row.network ∧ row'.responseStyleOverride = row.responseStyleOverride := by
    obtain ⟨row', h1, h2⟩ := Option.map_eq_some'.1 hn
    obtain ⟨row'', h3, h4⟩ := Option.map_eq_some'.1 hst
    exact ⟨row', h1, h2, by rw [h1] at h3; cases h3; exact h4⟩
  refine ⟨by simp [resolveEffectivePreferences, hrow, hrow', hnet], fun hnone => ?_⟩
  simp only [hrow, Option.some_bind] at hnone
  simp [resolveEffectivePreferences, hrow', hov, hnone]

def sampleStore : PrefStore :=
  applyUpdate true PrefStore.empty (.message "7" "7" .private "hello" true)

def userPresses : List PrefUpdate :=
  [.callback "7" "7" .private "cfg:network:user:testnet",
    .callback "7" "7" .private "cfg:style:user:detailed"]

theorem user_presses_move_style_not_network :
    ((applyUpdates true sampleStore userPresses).users "7").map (·.defaultNetwork) =
        some .testnet ∧
      (sampleStore.chats "7").isSome ∧
      (∀ x ∈ userPresses, x.writesChatNetwork "7" = false ∧ x.writesChatStyle "7" = false) ∧
      ((resolveEffectivePreferences ((applyUpdates true sampleStore userPresses).users "7")
          ((applyUpdates true sampleStore userPresses).chats "7")).network =
        (resolveEffectivePreferences (sampleStore.users "7") (sampleStore.chats "7")).network ∧
      ((sampleStore.chats "7").bind (·.responseStyleOverride) = none →
        (resolveEffectivePreferences ((applyUpdates true sampleStore userPresses).users "7")
            ((applyUpdates true sampleStore userPresses).chats "7")).responseStyle =
          (((applyUpdates true sampleStore userPresses).users "7").map
            (·.defaultResponseStyle)).getD DEFAULT_RESPONSE_STYLE)) :=
  ⟨by decide, by decide, by decide,
    chat_network_kept_style_follows_user true sampleStore userPresses "7" "7" (by decide)
      (by decide)⟩

end ton_agent_bot.preferences
