-- The callback data of the bot's inline buttons. Every approval, wallet and settings
-- button is built from the handler it calls and that handler's arguments; routeUpdate's
-- regexes, tried in its order, read the data of each button back to that handler and
-- those arguments, and no button's data passes Telegram's 64 bytes, for every token the
-- generator can draw and every uuid the stores hand out.
import Mathlib.Data.String.Basic
import TonAgentBot.Updates.Route
import TonAgentBot.ToolPolicy

namespace ton_agent_bot.telegram

open updates tool_policy

/-! ## Fields between colons -/

theorem splitOn_colon_append {l : List Char} (hl : ':' ∉ l) (r : List Char) :
    (l ++ ':' :: r).splitOn ':' = l :: r.splitOn ':' :=
  List.splitOnP_first _ l (fun _ hx h => hl (by rwa [beq_iff_eq.mp h] at hx)) _ (by simp) r

theorem splitOn_colon_of_not_mem {l : List Char} (hl : ':' ∉ l) : l.splitOn ':' = [l] :=
  List.splitOnP_eq_single _ l fun _ hx h => hl (by rwa [beq_iff_eq.mp h] at hx)

theorem colonFields_append {s : String} (hs : ':' ∉ s.data) (t : String) :
    colonFields (s ++ (":" ++ t)) = s :: colonFields t := by
  simp only [colonFields, String.data_append]
  rw [List.singleton_append, splitOn_colon_append hs]
  rfl

theorem colonFields_of_not_mem {s : String} (hs : ':' ∉ s.data) : colonFields s = [s] := by
  simp only [colonFields, splitOn_colon_of_not_mem hs, List.map_singleton]

/-! ## The plain alphabet

The characters of `[A-Za-z0-9_-]`, in the order of base64url's six-bit values. Every
field the bot puts into callback data is of this alphabet: no colon, no line terminator,
one UTF-8 byte each. -/

def BASE64URL_ALPHABET : List Char :=
  "ABCDEFGHIJKLMNOPQRSTUVWXYZabcdefghijklmnopqrstuvwxyz0123456789-_".data

theorem plain_char {c : Char} (hc : c ∈ BASE64URL_ALPHABET) :
    c ≠ ':' ∧ (c ≠ '\n' ∧ c ≠ '\r' ∧ c ≠ '\u2028' ∧ c ≠ '\u2029') ∧ c.utf8Size = 1 := by
  revert c
  decide

/-- A field of callback data: non-empty and of the plain alphabet. -/
def CallbackField (s : String) : Prop := s ≠ "" ∧ ∀ c ∈ s.data, c ∈ BASE64URL_ALPHABET

instance : DecidablePred CallbackField := fun s =>
  inferInstanceAs (Decidable (s ≠ "" ∧ ∀ c ∈ s.data, c ∈ BASE64URL_ALPHABET))

namespace CallbackField

variable {s : String} (h : CallbackField s)
include h

theorem colon_not_mem : ':' ∉ s.data := fun hc => (plain_char (h.2 _ hc)).1 rfl

theorem utf8ByteSize_eq : s.utf8ByteSize = s.length := by
  obtain ⟨cs⟩ := s
  have hcs : ∀ c ∈ cs, c ∈ BASE64URL_ALPHABET := h.2
  simp only [String.utf8ByteSize_mk, String.length]
  clear h
  induction cs with
  | nil => rfl
  | cons c cs ih =>
    simp only [String.utf8Len_cons, List.length_cons, (plain_char (hcs c (.head _))).2.2,
      ih fun c hc => hcs c (.tail _ hc)]

end CallbackField

theorem utf8ByteSize_append (s t : String) :
    (s ++ t).utf8ByteSize = s.utf8ByteSize + t.utf8ByteSize := by
  obtain ⟨_⟩ := s
  obtain ⟨_⟩ := t
  exact String.utf8Len_append _ _

/-! ## The handlers and their callback data -/

inductive WalletCallbackAction
  | status
  | cancel
  deriving DecidableEq, Repr

def WalletCallbackAction.text : WalletCallbackAction → String
  | .status => "status"
  | .cancel => "cancel"

/-- `ApprovalCallbackAction` of approvals/ui. -/
def approvalCallbackActionText : ApprovalAction → String
  | .approve => "approve"
  | .deny => "deny"
  | .details => "details"
  | .refresh => "refresh"

/-- The handlers a button of the bot calls, with their arguments: the wallet-connect
status and cancel, `handleApprovalCallback`, `handleSettingsCallback`. -/
inductive CallbackHandler
  | walletConnect (action : WalletCallbackAction) (sessionId : String)
  | approval (callbackToken : String) (action : ApprovalAction)
  | settings (sect target value : String)
  deriving DecidableEq, Repr

/-- `buildApprovalCallbackData` of approvals/ui. -/
def buildApprovalCallbackData (callbackToken : String) (action : ApprovalAction) : String :=
  "ap:" ++ callbackToken ++ ":" ++ approvalCallbackActionText action

/-- The callback data of a button: `wallet:<action>:<sessionId>` as the wallet-connect
prompts write it, `buildApprovalCallbackData`, and `cfg:<section>:<target>:<value>` as the
settings screens write it. -/
def CallbackHandler.callbackData : CallbackHandler → String
  | .walletConnect action sessionId => "wallet:" ++ action.text ++ ":" ++ sessionId
  | .approval callbackToken action => buildApprovalCallbackData callbackToken action
  | .settings sect target value => "cfg:" ++ sect ++ ":" ++ target ++ ":" ++ value

/-! ## Routing callback data -/

/-- The groups of `^wallet:(status|cancel):([^:]+)$`: the action and the session id. -/
def matchWalletCallbackArgs (data : String) : Option (WalletCallbackAction × String) :=
  match colonFields data with
  | ["wallet", action, sessionId] =>
    if matchWalletCallback data then
      some (if action = "status" then .status else .cancel, sessionId)
    else none
  | _ => none

/-- The groups of `SETTINGS_CALLBACK_RE`: the section, the target and the value. -/
def matchSettingsCallbackArgs (data : String) : Option (String × String × String) :=
  match colonFields data with
  | "cfg" :: sect :: target :: value =>
    if matchSettingsCallback data then some (sect, target, ":".intercalate value) else none
  | _ => none

/-- The handler that the callback branch of `routeUpdate` calls on callback data, with the
arguments its regexes capture: the wallet regex first, then the approval regex, then the
settings regex; none when no regex matches. -/
def routeCallbackData (data : String) : Option CallbackHandler :=
  match matchWalletCallbackArgs data with
  | some (action, sessionId) => some (.walletConnect action sessionId)
  | none =>
    match matchApprovalCallback data with
    | some (callbackToken, action) => some (.approval callbackToken action)
    | none => (matchSettingsCallbackArgs data).map fun (sect, target, value) =>
      .settings sect target value

/-! ## The round trip -/

/-- A handler whose arguments its callback data carries whole: each a callback field, and
short enough for the data to stay within 64 bytes. -/
def CallbackHandler.Fits : CallbackHandler → Prop
  | .walletConnect _ sessionId => CallbackField sessionId ∧ sessionId.length ≤ 50
  | .approval callbackToken _ => CallbackField callbackToken ∧ callbackToken.length ≤ 53
  | .settings sect target value => CallbackField sect ∧ CallbackField target ∧
      CallbackField value ∧ sect.length + target.length + value.length ≤ 58

instance (b : CallbackHandler) : Decidable b.Fits :=
  match b with
  | .walletConnect _ sessionId =>
    inferInstanceAs (Decidable (CallbackField sessionId ∧ sessionId.length ≤ 50))
  | .approval callbackToken _ =>
    inferInstanceAs (Decidable (CallbackField callbackToken ∧ callbackToken.length ≤ 53))
  | .settings sect target value =>
    inferInstanceAs (Decidable (CallbackField sect ∧ CallbackField target ∧
      CallbackField value ∧ sect.length + target.length + value.length ≤ 58))

/-- The data of a button routes back to the handler and arguments it was built from, and
stays within Telegram's 64 bytes. -/
def RoutesBack (b : CallbackHandler) : Prop :=
  routeCallbackData b.callbackData = some b ∧ b.callbackData.utf8ByteSize ≤ 64

theorem WalletCallbackAction.text_field (action : WalletCallbackAction) :
    CallbackField action.text ∧ action.text.length = 6 := by
  cases action <;> decide

theorem approvalCallbackActionText_field (action : ApprovalAction) :
    CallbackField (approvalCallbackActionText action) ∧
      (approvalCallbackActionText action).length ≤ 7 := by
  cases action <;> decide

theorem callbackData_walletConnect (action : WalletCallbackAction) (sessionId : String) :
    (CallbackHandler.walletConnect action sessionId).callbackData =
      "wallet" ++ (":" ++ (action.text ++ (":" ++ sessionId))) := by
  simp only [CallbackHandler.callbackData, String.append_assoc]
  rfl

theorem callbackData_approval (callbackToken : String) (action : ApprovalAction) :
    (CallbackHandler.approval callbackToken action).callbackData =
      "ap" ++ (":" ++ (callbackToken ++ (":" ++ approvalCallbackActionText action))) := by
  simp only [CallbackHandler.callbackData, buildApprovalCallbackData, String.append_assoc]
  rfl

theorem callbackData_settings (sect target value : String) :
    (CallbackHandler.settings sect target value).callbackData =
      "cfg" ++ (":" ++ (sect ++ (":" ++ (target ++ (":" ++ value))))) := by
  simp only [CallbackHandler.callbackData, String.append_assoc]
  rfl

theorem routesBack_walletConnect (action : WalletCallbackAction) {sessionId : String}
    (h : CallbackField sessionId) (hlen : sessionId.length ≤ 50) :
    RoutesBack (.walletConnect action sessionId) := by
  have ha := action.text_field
  rw [RoutesBack, callbackData_walletConnect]
  have hf : colonFields ("wallet" ++ (":" ++ (action.text ++ (":" ++ sessionId)))) =
      ["wallet", action.text, sessionId] := by
    rw [colonFields_append (by decide), colonFields_append ha.1.colon_not_mem,
      colonFields_of_not_mem h.colon_not_mem]
  constructor
  · simp only [routeCallbackData, matchWalletCallbackArgs, matchWalletCallback, hf]
    cases action <;> simp [h.1, WalletCallbackAction.text]
  · simp only [utf8ByteSize_append, h.utf8ByteSize_eq, ha.1.utf8ByteSize_eq, ha.2]
    have : ("wallet" : String).utf8ByteSize = 6 ∧ (":" : String).utf8ByteSize = 1 := ⟨rfl, rfl⟩
    omega

theorem routesBack_approval {callbackToken : String} (action : ApprovalAction)
    (h : CallbackField callbackToken) (hlen : callbackToken.length ≤ 53) :
    RoutesBack (.approval callbackToken action) := by
  have ha := approvalCallbackActionText_field action
  rw [RoutesBack, callbackData_approval]
  have hf : colonFields ("ap" ++ (":" ++ (callbackToken ++ (":" ++
      approvalCallbackActionText action)))) = ["ap", callbackToken, approvalCallbackActionText action] := by
    rw [colonFields_append (by decide), colonFields_append h.colon_not_mem,
      colonFields_of_not_mem ha.1.colon_not_mem]
  constructor
  · simp only [routeCallbackData, matchWalletCallbackArgs, matchApprovalCallback, hf]
    cases action <;> simp [h.1, approvalCallbackActionText]
  · simp only [utf8ByteSize_append, h.utf8ByteSize_eq, ha.1.utf8ByteSize_eq]
    have : ("ap" : String).utf8ByteSize = 2 ∧ (":" : String).utf8ByteSize = 1 := ⟨rfl, rfl⟩
    omega

theorem routesBack_settings {sect target value : String} (hs : CallbackField sect)
    (ht : CallbackField target) (hv : CallbackField value)
    (hlen : sect.length + target.length + value.length ≤ 58) :
    RoutesBack (.settings sect target value) := by
  rw [RoutesBack, callbackData_settings]
  have hf : colonFields ("cfg" ++ (":" ++ (sect ++ (":" ++ (target ++ (":" ++ value)))))) =
      ["cfg", sect, target, value] := by
    rw [colonFields_append (by decide), colonFields_append hs.colon_not_mem,
      colonFields_append ht.colon_not_mem, colonFields_of_not_mem hv.colon_not_mem]
  have hline : ∀ c ∈ value.data, c ≠ '\n' ∧ c ≠ '\r' ∧ c ≠ '\u2028' ∧ c ≠ '\u2029' :=
    fun c hc => (plain_char (hv.2 c hc)).2.1
  constructor
  · have hi : ":".intercalate [value] = value := rfl
    simpa [routeCallbackData, matchWalletCallbackArgs, matchApprovalCallback,
      matchSettingsCallbackArgs, matchSettingsCallback, hf, hi, hs.1, ht.1, hv.1] using hline
  · simp only [utf8ByteSize_append, hs.utf8ByteSize_eq, ht.utf8ByteSize_eq, hv.utf8ByteSize_eq]
    have : ("cfg" : String).utf8ByteSize = 3 ∧ (":" : String).utf8ByteSize = 1 := ⟨rfl, rfl⟩
    omega

theorem CallbackHandler.Fits.routesBack : ∀ {b : CallbackHandler}, b.Fits → RoutesBack b
  | .walletConnect action _, h => routesBack_walletConnect action h.1 h.2
  | .approval _ action, h => routesBack_approval action h.1 h.2
  | .settings _ _ _, h => routesBack_settings h.1 h.2.1 h.2.2.1 h.2.2.2

/-! ## The callback tokens -/

def base64urlDigit (n : Nat) : Char := BASE64URL_ALPHABET.getD n 'A'

/-- `Buffer.toString("base64url")`: every three bytes as four digits, a last one or two
bytes as two or three, and no padding. -/
def base64url : List UInt8 → List Char
  | a :: b :: c :: rest =>
    base64urlDigit (a.toNat / 4) :: base64urlDigit (a.toNat % 4 * 16 + b.toNat / 16) ::
      base64urlDigit (b.toNat % 16 * 4 + c.toNat / 64) :: base64urlDigit (c.toNat % 64) ::
        base64url rest
  | [a, b] =>
    [base64urlDigit (a.toNat / 4), base64urlDigit (a.toNat % 4 * 16 + b.toNat / 16),
      base64urlDigit (b.toNat % 16 * 4)]
  | [a] => [base64urlDigit (a.toNat / 4), base64urlDigit (a.toNat % 4 * 16)]
  | [] => []

/-- A character that the replace of `/[^a-zA-Z0-9_-]/g` keeps. -/
def isCallbackTokenChar (c : Char) : Bool := c.isAlphanum || c == '_' || c == '-'

/-- `createApprovalCallbackToken` of the approval service, on the bytes `randomBytes(7)`
drew: their base64url text, with what `/[^a-zA-Z0-9_-]/g` matches removed, cut to 14. -/
def createApprovalCallbackToken (randomBytes : List UInt8) : String :=
  ⟨((base64url randomBytes).filter isCallbackTokenChar).take 14⟩

/-- The tokens migration 0001 gave the approvals it found:
`substring(md5(...), 1, 32)`, 32 lowercase hex digits. -/
def IsLegacyCallbackToken (s : String) : Prop :=
  s.length = 32 ∧ ∀ c ∈ s.data, c ∈ "0123456789abcdef".data

/-- The text of a Postgres uuid, the id of a wallet link and of a wallet-connect session:
36 characters, lowercase hex digits and dashes. -/
def IsUuid (s : String) : Prop := s.length = 36 ∧ ∀ c ∈ s.data, c ∈ "0123456789abcdef-".data

instance : DecidablePred IsLegacyCallbackToken := fun s =>
  inferInstanceAs (Decidable (s.length = 32 ∧ ∀ c ∈ s.data, c ∈ "0123456789abcdef".data))

instance : DecidablePred IsUuid := fun s =>
  inferInstanceAs (Decidable (s.length = 36 ∧ ∀ c ∈ s.data, c ∈ "0123456789abcdef-".data))

theorem base64urlDigit_mem (n : Nat) : base64urlDigit n ∈ BASE64URL_ALPHABET := by
  rw [base64urlDigit, List.getD_eq_getElem?_getD]
  cases h : BASE64URL_ALPHABET[n]? with
  | none => decide
  | some c => exact List.getElem?_mem h

theorem base64url_mem : ∀ (bytes : List UInt8), ∀ c ∈ base64url bytes, c ∈ BASE64URL_ALPHABET
  | _ :: _ :: _ :: rest => by
    simpa [base64url, base64urlDigit_mem] using base64url_mem rest
  | [_, _] | [_] | [] => by simp [base64url, base64urlDigit_mem]

theorem base64url_ne_nil : ∀ {bytes : List UInt8}, bytes ≠ [] → base64url bytes ≠ []
  | _ :: _ :: _ :: _, _ | [_, _], _ | [_], _ => List.cons_ne_nil _ _

theorem isCallbackTokenChar_of_mem {c : Char} (hc : c ∈ BASE64URL_ALPHABET) :
    isCallbackTokenChar c = true := by
  revert c
  decide

theorem createApprovalCallbackToken_field {randomBytes : List UInt8} (h : randomBytes ≠ []) :
    CallbackField (createApprovalCallbackToken randomBytes) ∧
      (createApprovalCallbackToken randomBytes).length ≤ 14 := by
  have hkeep : (base64url randomBytes).filter isCallbackTokenChar = base64url randomBytes :=
    List.filter_eq_self.2 fun c hc => isCallbackTokenChar_of_mem (base64url_mem _ c hc)
  simp only [CallbackField, createApprovalCallbackToken, hkeep, String.length, List.length_take]
  refine ⟨⟨fun he => ?_, fun c hc => base64url_mem _ c (List.mem_of_mem_take hc)⟩,
    Nat.min_le_left _ _⟩
  have : (base64url randomBytes).take 14 = [] := congrArg String.data he
  simp only [List.take_eq_nil_iff, OfNat.ofNat_ne_zero, false_or] at this
  exact base64url_ne_nil h this

example : createApprovalCallbackToken [251, 255, 0, 1, 2, 3, 4] = "-_8AAQIDBA" := by decide

theorem hex_or_dash_plain : ∀ c ∈ "0123456789abcdef-".data, c ∈ BASE64URL_ALPHABET := by
  decide

theorem IsUuid.field {s : String} (h : IsUuid s) : CallbackField s :=
  ⟨fun he => absurd (he ▸ h.1) (by decide), fun c hc => hex_or_dash_plain c (h.2 c hc)⟩

theorem IsLegacyCallbackToken.field {s : String} (h : IsLegacyCallbackToken s) :
    CallbackField s :=
  ⟨fun he => absurd (he ▸ h.1) (by decide),
    fun c hc => hex_or_dash_plain c (List.mem_append_left ['-'] (h.2 c hc))⟩

/-! ## The keyboards -/

/-- The callback buttons of `createApprovalPendingKeyboard`: Approve, Deny, Details and
Refresh. -/
def createApprovalPendingKeyboard (callbackToken : String) : List CallbackHandler :=
  [.approval callbackToken .approve, .approval callbackToken .deny,
    .approval callbackToken .details, .approval callbackToken .refresh]

/-- The callback buttons of `sendWalletConnectPrompt` and `sendWalletConnectStatus`: Check
Status and Cancel. -/
def walletConnectButtons (sessionId : String) : List CallbackHandler :=
  [.walletConnect .status sessionId, .walletConnect .cancel sessionId]

inductive SettingsScreen
  | menu
  | style
  | risk
  | network
  | wallet
  deriving DecidableEq, Repr

/-- The callback buttons of `buildSettingsView` on a screen, given the ids of the user's
wallet links: the wallet screen has a Set button for each. -/
def buildSettingsView (screen : SettingsScreen) (walletIds : List String) :
    List CallbackHandler :=
  match screen with
  | .menu =>
    [.settings "style" "open" "style", .settings "risk" "open" "risk",
      .settings "network" "open" "network", .settings "wallet" "open" "wallet"]
  | .style =>
    [.settings "style" "chat" "concise", .settings "style" "chat" "detailed",
      .settings "style" "chat" "inherit", .settings "style" "user" "concise",
      .settings "style" "user" "detailed", .settings "root" "open" "menu"]
  | .risk =>
    [.settings "risk" "chat" "cautious", .settings "risk" "chat" "balanced",
      .settings "risk" "chat" "advanced", .settings "risk" "chat" "inherit",
      .settings "risk" "user" "cautious", .settings "risk" "user" "balanced",
      .settings "risk" "user" "advanced", .settings "root" "open" "menu"]
  | .network =>
    [.settings "network" "chat" "mainnet", .settings "network" "chat" "testnet",
      .settings "network" "chat" "inherit", .settings "network" "user" "mainnet",
      .settings "network" "user" "testnet", .settings "root" "open" "menu"]
  | .wallet =>
    walletIds.map (CallbackHandler.settings "wallet" "set" ·) ++
      [.settings "wallet" "connect" "start", .settings "root" "open" "menu"]

/-- The callback buttons of the `/start` reply in a chat on `network`: Settings, Connect
Wallet, and the switch to the other network. -/
def startKeyboard (network : TonNetwork) : List CallbackHandler :=
  [.settings "root" "open" "menu", .settings "wallet" "connect" "start",
    .settings "network" "chat" (if network = .mainnet then "testnet" else "mainnet")]

theorem createApprovalPendingKeyboard_fits {callbackToken : String}
    (h : CallbackField callbackToken) (hlen : callbackToken.length ≤ 53) :
    ∀ b ∈ createApprovalPendingKeyboard callbackToken, b.Fits := by
  simp [createApprovalPendingKeyboard, CallbackHandler.Fits, h, hlen]

theorem walletConnectButtons_fits {sessionId : String} (h : IsUuid sessionId) :
    ∀ b ∈ walletConnectButtons sessionId, b.Fits := by
  simp [walletConnectButtons, CallbackHandler.Fits, h.field, h.1]

theorem buildSettingsView_fits (screen : SettingsScreen) {walletIds : List String}
    (h : ∀ id ∈ walletIds, IsUuid id) : ∀ b ∈ buildSettingsView screen walletIds, b.Fits := by
  cases screen
  case wallet =>
    have hset : ∀ id, IsUuid id → (CallbackHandler.settings "wallet" "set" id).Fits :=
      fun id hid => ⟨by decide, by decide, hid.field, by simp only [hid.1]; decide⟩
    simp only [buildSettingsView, List.mem_append, List.mem_map]
    rintro b (⟨id, hid, rfl⟩ | hb)
    · exact hset id (h id hid)
    · revert b
      decide
  all_goals simp only [buildSettingsView]; decide

theorem startKeyboard_fits (network : TonNetwork) : ∀ b ∈ startKeyboard network, b.Fits := by
  cases network <;> decide

/-- Every callback button the bot builds routes back to the handler and arguments it was
built from, within 64 bytes: the approval buttons for every token the generator draws from
any bytes and for every legacy token, the wallet-connect buttons for every session uuid,
the settings screens for every list of wallet link ids, and the `/start` buttons on either
network. -/
theorem callback_buttons_route_back :
    (∀ randomBytes : List UInt8, randomBytes ≠ [] →
      ∀ b ∈ createApprovalPendingKeyboard (createApprovalCallbackToken randomBytes),
        RoutesBack b) ∧
    (∀ callbackToken, IsLegacyCallbackToken callbackToken →
      ∀ b ∈ createApprovalPendingKeyboard callbackToken, RoutesBack b) ∧
    (∀ sessionId, IsUuid sessionId → ∀ b ∈ walletConnectButtons sessionId, RoutesBack b) ∧
    (∀ screen walletIds, (∀ id ∈ walletIds, IsUuid id) →
      ∀ b ∈ buildSettingsView screen walletIds, RoutesBack b) ∧
    (∀ network, ∀ b ∈ startKeyboard network, RoutesBack b) := by
  refine ⟨fun randomBytes h b hb => ?_, fun callbackToken h b hb => ?_,
    fun sessionId h b hb => (walletConnectButtons_fits h b hb).routesBack,
    fun screen walletIds h b hb => (buildSettingsView_fits screen h b hb).routesBack,
    fun network b hb => (startKeyboard_fits network b hb).routesBack⟩
  · have ht := createApprovalCallbackToken_field h
    exact (createApprovalPendingKeyboard_fits ht.1 (by omega) b hb).routesBack
  · exact (createApprovalPendingKeyboard_fits h.field (by rw [h.1]; decide) b hb).routesBack

/-- A card whose token was drawn from seven bytes, a card with a legacy token, a
wallet-connect session, the wallet screen of a user with one wallet link, and `/start` on
mainnet. -/
theorem sample_buttons_route_back :
    RoutesBack (.approval (createApprovalCallbackToken [7, 1, 250, 63, 128, 9, 200]) .deny) ∧
      RoutesBack (.approval "d41d8cd98f00b204e9800998ecf8427e" .approve) ∧
      RoutesBack (.walletConnect .cancel "0b3a8f6e-2c4d-4e1f-9a7b-5c6d7e8f9a0b") ∧
      RoutesBack (.settings "wallet" "set" "0b3a8f6e-2c4d-4e1f-9a7b-5c6d7e8f9a0b") ∧
      RoutesBack (.settings "network" "chat" "testnet") :=
  ⟨callback_buttons_route_back.1 [7, 1, 250, 63, 128, 9, 200] (by decide) _
      (by simp [createApprovalPendingKeyboard]),
    callback_buttons_route_back.2.1 "d41d8cd98f00b204e9800998ecf8427e" (by decide) _
      (by simp [createApprovalPendingKeyboard]),
    callback_buttons_route_back.2.2.1 "0b3a8f6e-2c4d-4e1f-9a7b-5c6d7e8f9a0b" (by decide) _
      (by simp [walletConnectButtons]),
    callback_buttons_route_back.2.2.2.1 .wallet ["0b3a8f6e-2c4d-4e1f-9a7b-5c6d7e8f9a0b"]
      (by decide) _ (by simp [buildSettingsView]),
    callback_buttons_route_back.2.2.2.2 .mainnet _ (by simp [startKeyboard])⟩

end ton_agent_bot.telegram
