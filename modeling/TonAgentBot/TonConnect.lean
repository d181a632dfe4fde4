-- The wallet-connect flow of wallet/tonconnect (part_012) under any interleaving: flows
-- begun, checked and cancelled from the chat, the connector's status events, the expiry
-- timers and shutdown, each call a process that stops at every await, and each finalize a
-- promise of its own. A wallet is linked only with a proof of the nonce its flow issued, at
-- most once per flow, and a flow that has left the pending map with no finalize running
-- links nothing more.
import TonAgentBot.Wallets
import TonAgentBot.Js.Text
import TonAgentBot.ToolPolicy

namespace ton_agent_bot.tonconnect

open wallet js tool_policy

/-! ## Texts -/

def WALLET_CONNECT_TTL_MS : Nat := 10 * 60 * 1000

/-- `asErrorMessage(error).toLowerCase().includes(word)`; an error is its message here. -/
def mentions (error word : String) : Bool := includes (toLowerCase (utf16 error)) (utf16 word)

/-- The words of a bridge or network failure, in the order the source tests them. -/
def BRIDGE_FAILURE_WORDS : List String := ["bridge", "network", "fetch", "timeout", "abort"]

inductive FailurePhase
  | initialization
  | status
  deriving DecidableEq, Repr

/-- `buildWalletConnectFailureMessage` (lines 146-174). -/
def buildWalletConnectFailureMessage (error : String) (phase : FailurePhase) : String :=
  if mentions error "manifest" then
    "TonConnect manifest URL is not reachable. Please ask support to fix TONCONNECT_MANIFEST_URL and retry."
  else if mentions error "already connected" then
    "A stale wallet connection session was detected. Run /wallet cancel, then /wallet connect again."
  else if mentions error "reject" then
    "Wallet connection request was rejected in your wallet app. Run /wallet connect to try again."
  else if BRIDGE_FAILURE_WORDS.any (mentions error) then
    "Unable to establish secure wallet bridge connection right now. Please try again in a moment."
  else match phase with
    | .initialization => "Failed to initialize wallet connection. Please try again in a moment."
    | .status => "Wallet connection failed. Run /wallet connect to start a new attempt."

/-- `isTerminalWalletConnectStatusError` (lines 176-188). -/
def isTerminalWalletConnectStatusError (error : String) : Bool :=
  mentions error "manifest" || mentions error "already connected" || mentions error "reject" ||
    BRIDGE_FAILURE_WORDS.any (mentions error)

def NO_TON_PROOF_MESSAGE : String :=
  "Wallet connected but did not return ton_proof. Please reconnect using a TonConnect-compatible wallet and try again."

def PAYLOAD_MISMATCH_MESSAGE : String :=
  "Wallet proof payload did not match the pending connect request. Please run /wallet connect again."

def VERIFICATION_FAILED_MESSAGE : String :=
  "Wallet proof verification failed. Please reconnect and try again."

def EXPECTED_NONCE_ERROR : String := "TonConnect proof payload does not match expected nonce."

def NO_CONNECT_LINK_ERROR : String := "TonConnect did not return a universal connection link."

def EXPIRED_NOTICE : String :=
  "Wallet connect request expired. Run /wallet connect to create a new one."

/-- The notice of `finalizeWalletConnectSession` once the session state says connected. -/
def connectedNotice (formattedAddress appName : String) : String :=
  "Wallet connected: " ++ formattedAddress ++ (if appName = "" then "" else " (" ++ appName ++ ")")

/-! ## The wallet, the proof and the session state -/

/-- The `ton_proof` item a wallet returns with its connection. -/
structure TonProof where
  timestamp : Nat
  domain : String
  signature : String
  payload : String
  deriving DecidableEq, Repr

/-- What the connector holds of a connected wallet (`Wallet` of @tonconnect/sdk): the
account's raw address, the wallet app's name, and the `tonProof` item when it carries a
proof (absent, or an error item, otherwise). -/
structure Wallet where
  address : String
  appName : String
  tonProof : Option TonProof
  deriving DecidableEq, Repr

/-- `TonConnectProofPayload`: the address, the proof, the app's name when it has one. -/
structure ProofPayload where
  address : String
  proof : TonProof
  walletAppName : Option String
  deriving DecidableEq, Repr

/-- `buildProofPayloadFromWallet` (lines 277-298). -/
def buildProofPayloadFromWallet (w : Wallet) : Option ProofPayload :=
  w.tonProof.map fun proof => ⟨w.address, proof, if w.appName = "" then none else some w.appName⟩

/-- The keys of a session's `state_json` that the flow writes, `none` for a key that is
absent or null (every reader takes both alike). Times are milliseconds. -/
structure ConnectState where
  tonConnectStatus : Option String
  tonConnectLastError : Option String
  tonConnectNonce : Option String
  tonConnectNonceIssuedAt : Option Nat
  tonConnectNonceExpiresAt : Option Nat
  tonConnectConnectUrl : Option String
  tonConnectCorrelationId : Option String
  tonConnectWalletAddress : Option String
  tonConnectWalletApp : Option String
  tonConnectLinkedAt : Option Nat
  deriving DecidableEq, Repr

def ConnectState.empty : ConnectState := ⟨none, none, none, none, none, none, none, none, none, none⟩

/-- The patches the flow passes to `patchSessionState`. -/
inductive Patch
  | failed (lastError : Option String)
  | connected (address appName : String) (linkedAt : Nat)
  | pending (nonce : String) (issuedAt expiresAt : Nat) (connectUrl correlationId : String)
  | cancelled
  | expired
  | lastError (message : String)
  deriving DecidableEq, Repr

def Patch.apply : Patch → ConnectState → ConnectState
  | .failed e, st =>
    { st with tonConnectStatus := some "failed", tonConnectLastError := e, tonConnectNonce := none,
              tonConnectNonceIssuedAt := none, tonConnectNonceExpiresAt := none,
              tonConnectConnectUrl := none }
  | .connected a app t, st =>
    { st with tonConnectStatus := some "connected", tonConnectWalletAddress := some a,
              tonConnectWalletApp := some app, tonConnectLinkedAt := some t,
              tonConnectLastError := none, tonConnectNonce := none,
              tonConnectNonceIssuedAt := none, tonConnectNonceExpiresAt := none,
              tonConnectConnectUrl := none }
  | .pending n i e u c, st =>
    { st with tonConnectStatus := some "pending", tonConnectNonce := some n,
              tonConnectNonceIssuedAt := some i, tonConnectNonceExpiresAt := some e,
              tonConnectConnectUrl := some u, tonConnectCorrelationId := some c,
              tonConnectLastError := none }
  | .cancelled, st =>
    { st with tonConnectStatus := some "cancelled", tonConnectNonce := none,
              tonConnectNonceIssuedAt := none, tonConnectNonceExpiresAt := none,
              tonConnectConnectUrl := none }
  | .expired, st =>
    { st with tonConnectStatus := some "expired", tonConnectNonce := none,
              tonConnectNonceIssuedAt := none, tonConnectNonceExpiresAt := none,
              tonConnectConnectUrl := none }
  | .lastError m, st => { st with tonConnectLastError := some m }

/-- The chat_sessions row of a session: who it belongs to, and its state. -/
structure SessionRow where
  telegramChatId : String
  telegramUserId : String
  state : ConnectState
  deriving DecidableEq, Repr

/-- `WalletConnectFlowStatus`. -/
structure FlowStatus where
  status : String
  message : String
  connectUrl : Option String
  deriving DecidableEq, Repr

/-- The answer of `getWalletConnectFlowStatus` from the state it read, when no wallet is
active (lines 629-683); `pendingUrl` is the pending flow's `connectUrl`. -/
def flowStatusOfState (now : Nat) (state : ConnectState) (pendingUrl : Option String) :
    FlowStatus :=
  match state.tonConnectStatus with
  | some "pending" =>
    let remainingSeconds := match state.tonConnectNonceExpiresAt with
      | some e => (e - now + 999) / 1000
      | none => 0
    let stateConnectUrl := state.tonConnectConnectUrl.filter (· ≠ "")
    ⟨"pending",
      if 0 < remainingSeconds then
        "Still waiting for wallet approval (" ++ toString remainingSeconds ++ "s remaining)."
      else "Still waiting for wallet approval. You can run /wallet connect again.",
      (pendingUrl.filter (· ≠ "")).orElse fun _ => stateConnectUrl⟩
  | some "failed" =>
    ⟨"failed",
      match state.tonConnectLastError.filter (· ≠ "") with
      | some e => "Last wallet connect attempt failed: " ++ e
      | none => "Last wallet connect attempt failed. Run /wallet connect again.",
      none⟩
  | some "cancelled" =>
    ⟨"cancelled", "Wallet connect request was cancelled. Run /wallet connect to start again.", none⟩
  | _ => ⟨"none", "No wallet is connected. Run /wallet connect.", none⟩

def UNAVAILABLE_STATUS : FlowStatus := ⟨"none", "Wallet status is unavailable for this session.", none⟩

def EXPIRED_STATUS : FlowStatus :=
  ⟨"expired", "Wallet connect request expired. Run /wallet connect again.", none⟩

/-! ## Flows and processes -/

/-- The fixed fields of a `PendingWalletConnectSession`. -/
structure FlowRecord where
  sessionId : String
  telegramChatId : String
  telegramUserId : String
  messageThreadId : Option Nat
  network : TonNetwork
  nonce : String
  expiresAtMs : Nat
  deriving DecidableEq, Repr

/-- The fields of a `PendingWalletConnectSession` that change: its `connectUrl`, the
connector's wallet, whether its expiry timer is still armed, its two flags, and the finalize
promise it holds (by number). -/
structure FlowFlags where
  connectUrl : Option String
  wallet : Option Wallet
  timerArmed : Bool
  finalized : Bool
  closing : Bool
  finalizePromise : Option Nat
  deriving DecidableEq, Repr

def FlowFlags.fresh : FlowFlags := ⟨none, none, true, false, false, none⟩

/-- A message `sendTelegramText` delivered. -/
structure Sent where
  telegramChatId : String
  messageThreadId : Option Nat
  text : String
  deriving DecidableEq, Repr

/-- A `linkWallet` call of `verifyTonConnectProof`: the flow it was made for, the user, and
the proof it linked with. -/
structure LinkCall where
  flow : Nat
  telegramUserId : String
  payload : ProofPayload
  deriving DecidableEq, Repr

/-- Where a `patchSessionState` call stands: at `getSessionById`, or at
`updateSessionState` with the state merged from the row it read. -/
inductive PatchPc
  | reading (patch : Patch)
  | writing (state : ConnectState)
  deriving DecidableEq, Repr

/-- Where `failAndCloseWalletConnectSession` stands past its `closing` check. -/
inductive FailPc
  | patching (pc : PatchPc)
  | sending
  | cleaning
  deriving DecidableEq, Repr

/-- Where `finalizeWalletConnectSession` stands; `ended` is its promise settled (with what it
threw, if anything), before the `.finally` that clears `finalizePromise`. -/
inductive FinalizePc
  | verifying (w : Wallet) (payload : ProofPayload)
  | linking (w : Wallet) (payload : ProofPayload)
  | patching (notice : String) (pc : PatchPc)
  | sending (notice : String)
  | cleaning
  | failing (message : String) (pc : FailPc)
  | ended (error : Option String)
  deriving DecidableEq, Repr

/-- A finalize promise: running on a flow, or settled (rejected with an error, or not). -/
inductive FinalizeRun
  | running (flow : Nat) (pc : FinalizePc)
  | settled (error : Option String)
  deriving DecidableEq, Repr

/-- Where `expireWalletConnectFlow` stands; `flow` is the pending flow it found. -/
inductive ExpirePc
  | reading
  | cleaning (flow : Nat)
  | patching (flow : Nat) (pc : PatchPc)
  | sending (flow : Nat)
  deriving DecidableEq, Repr

/-- Where `cancelWalletConnectFlow` stands. -/
inductive CancelPc
  | reading
  | cleaning
  | patching (pc : PatchPc)
  deriving DecidableEq, Repr

/-- Where `getWalletConnectFlowStatus` stands: `row` is the session row it read first and
`flow` the pending flow it found then. -/
inductive StatusPc
  | reading
  | expiring (pc : ExpirePc)
  | refreshing (row : SessionRow) (flow : Option Nat) (promise : Nat)
  | walletReading (row : SessionRow) (flow : Option Nat)
  deriving DecidableEq, Repr

/-- Where `beginWalletConnectFlow` stands; `flow` is the flow it made. -/
inductive BeginPc
  | cleaning
  | checkingManifest
  | patching (flow : Nat) (connectUrl : String) (pc : PatchPc)
  | failCleaning (message : String)
  | failPatching (message : String) (pc : PatchPc)
  deriving DecidableEq, Repr

/-- What `beginWalletConnectFlow` is called with. -/
structure BeginInput where
  sessionId : String
  telegramChatId : String
  telegramUserId : String
  messageThreadId : Option Nat
  network : TonNetwork
  correlationId : String
  deriving DecidableEq, Repr

/-- What `getWalletConnectFlowStatus` and `cancelWalletConnectFlow` are called with. -/
structure FlowQuery where
  sessionId : String
  telegramUserId : String
  telegramChatId : Option String
  deriving DecidableEq, Repr

/-- What `connector.connect(...)` gives: the universal link, or the message it threw. -/
inductive ConnectResult
  | link (url : String)
  | error (message : String)
  deriving DecidableEq, Repr

/-- What a call returned. -/
inductive Outcome
  | begun (connectUrl nonce : String) (expiresAtMs : Nat)
  | status (s : FlowStatus)
  | cancelled (ok : Bool) (message : String)
  | done
  deriving DecidableEq, Repr

/-- A call in progress. `refreshing` is the status listener's
`refreshPendingWalletConnectSession` at its await of a finalize promise; `failing` and
`noting` are what the status-error listener starts. `begin` holds the nonce `randomBytes`
drew and what `connect` will give. -/
inductive Proc
  | idle
  | begin (input : BeginInput) (nonce : String) (connect : ConnectResult) (pc : BeginPc)
  | refreshing (promise : Nat)
  | failing (flow : Nat) (message : String) (pc : FailPc)
  | noting (sessionId : String) (pc : PatchPc)
  | expiring (sessionId telegramUserId : String) (pc : ExpirePc)
  | status (query : FlowQuery) (pc : StatusPc)
  | cancel (query : FlowQuery) (pc : CancelPc)
  | returned (v : Outcome)
  | threw
  deriving DecidableEq, Repr

/-- The flows by number (`records` is written once, when a flow is made), the pending map,
the sessions' rows, the wallet store, the messages sent, the `linkWallet` calls made, the
finalize promises by number, and the calls. -/
structure Sys where
  now : Nat
  records : Nat → FlowRecord
  flags : Nat → FlowFlags
  nextFlow : Nat
  pending : String → Option Nat
  sessions : String → Option SessionRow
  wallets : WalletStore
  sent : List Sent
  links : List LinkCall
  finalizers : Nat → Option FinalizeRun
  nextPromise : Nat
  procs : Nat → Proc

def FlowRecord.unused : FlowRecord := ⟨"", "", "", none, .mainnet, "", 0⟩

def Sys.init (sessions : String → Option SessionRow) (wallets : WalletStore) : Sys :=
  ⟨wallets.now, fun _ => .unused, fun _ => .fresh, 0, fun _ => none, sessions, wallets, [], [],
    fun _ => none, 0, fun _ => .idle⟩

/-! ## The state's writes -/

section
variable (s : Sys)

@[simps] def Sys.setFlags (r : Nat) (f : FlowFlags) : Sys :=
  { s with flags := fun q => if q = r then f else s.flags q }

@[simps] def Sys.setProc (p : Nat) (x : Proc) : Sys :=
  { s with procs := fun q => if q = p then x else s.procs q }

@[simps] def Sys.setRun (k : Nat) (x : FinalizeRun) : Sys :=
  { s with finalizers := fun q => if q = k then some x else s.finalizers q }

/-- The sync part of `cleanupPendingWalletConnectSession(sessionId)`: whatever flow the map
holds for the session leaves it. Its timer is cleared and its listeners removed, which the
model has as never looking a flow up but through the map. -/
@[simps] def Sys.cleanup (sessionId : String) : Sys :=
  { s with pending := fun k => if k = sessionId then none else s.pending k }

@[simps] def Sys.send (r : Nat) (text : String) : Sys :=
  { s with sent := s.sent ++ [⟨(s.records r).telegramChatId, (s.records r).messageThreadId, text⟩] }

@[simps] def Sys.writeState (sessionId : String) (state : ConnectState) : Sys :=
  { s with sessions := fun k =>
      if k = sessionId then (s.sessions k).map fun row => { row with state := state }
      else s.sessions k }

@[simps] def Sys.link (r : Nat) (payload : ProofPayload) : Sys :=
  { s with wallets := (linkWallet { s.wallets with now := s.now } (s.records r).telegramUserId
                        payload.address).2,
           links := s.links ++ [⟨r, (s.records r).telegramUserId, payload⟩] }

@[simps] def Sys.addFlow (input : BeginInput) (nonce : String) : Sys :=
  { s with records := fun q => if q = s.nextFlow then
             ⟨input.sessionId, input.telegramChatId, input.telegramUserId, input.messageThreadId,
               input.network, nonce, s.now + WALLET_CONNECT_TTL_MS⟩ else s.records q
           flags := fun q => if q = s.nextFlow then .fresh else s.flags q
           nextFlow := s.nextFlow + 1
           pending := fun k => if k = input.sessionId then some s.nextFlow else s.pending k }

@[simps] def Sys.startFinalize (r : Nat) (pc : FinalizePc) : Sys :=
  { s with flags := fun q =>
             if q = r then { s.flags r with finalizePromise := some s.nextPromise } else s.flags q
           finalizers := fun q => if q = s.nextPromise then some (.running r pc) else s.finalizers q
           nextPromise := s.nextPromise + 1 }

/-- `shutdownWalletConnectFlows`: every pending flow cleaned up. -/
@[simps] def Sys.cleanupAll : Sys := { s with pending := fun _ => none }

end

/-! ## One statement of each function -/

/-- How a call goes on after one of its awaits: it waits at its next one, returned, or
threw. -/
inductive Next (π ρ : Type)
  | wait (pc : π)
  | ret (v : ρ)
  | threw (error : String)

/-- `patchSessionState` (lines 258-272) after its await, with `error` the message its query
threw, if any. -/
def patchNext (s : Sys) (sessionId : String) (error : Option String) :
    PatchPc → Sys × Next PatchPc Unit
  | .reading patch =>
    match error with
    | some e => (s, .threw e)
    | none =>
      match s.sessions sessionId with
      | none => (s, .ret ())
      | some row => (s, .wait (.writing (patch.apply row.state)))
  | .writing state =>
    match error with
    | some e => (s, .threw e)
    | none => (s.writeState sessionId state, .ret ())

/-- The `tonConnectLastError` of `failAndCloseWalletConnectSession`. -/
def failureLastError (message : String) (error : Option String) : Option String :=
  match error with
  | some e => some (buildWalletConnectFailureMessage e .status)
  | none => if message.length > 0 then some message else none

/-- The sync part of `failAndCloseWalletConnectSession` (lines 327-356): nothing when the flow
is closing already; else the flow closes and the failed patch starts. -/
def failStart (s : Sys) (r : Nat) (message : String) (error : Option String) :
    Sys × Next FailPc Unit :=
  if (s.flags r).closing then (s, .ret ())
  else (s.setFlags r { s.flags r with closing := true },
    .wait (.patching (.reading (.failed (failureLastError message error)))))

/-- `failAndCloseWalletConnectSession` after an await: the patch, the message, the cleanup
with disconnect (whose errors it drops). -/
def failNext (s : Sys) (r : Nat) (message : String) (error : Option String) :
    FailPc → Sys × Next FailPc Unit
  | .patching pc =>
    match patchNext s (s.records r).sessionId error pc with
    | (s', .wait pc') => (s', .wait (.patching pc'))
    | (s', .ret ()) => (s', .wait .sending)
    | (s', .threw e) => (s', .threw e)
  | .sending =>
    match error with
    | some e => (s, .threw e)
    | none => ((s.send r message).cleanup (s.records r).sessionId, .wait .cleaning)
  | .cleaning => (s, .ret ())

/-- A finalize that awaits `failAndCloseWalletConnectSession`, from its sync part. -/
def finalizeFail (s : Sys) (r : Nat) (message : String) (error : Option String) :
    Sys × FinalizePc :=
  match failStart s r message error with
  | (s', .wait pc) => (s', .failing message pc)
  | (s', .ret ()) => (s', .ended none)
  | (s', .threw e) => (s', .ended (some e))

/-- The sync part of `finalizeWalletConnectSession` (lines 358-376) and of the
`verifyTonConnectProof` call it awaits, up to `executeProof`. -/
def finalizeStart (s : Sys) (r : Nat) : Sys × FinalizePc :=
  let f := s.flags r
  if f.finalized || f.closing then (s, .ended none)
  else match f.wallet with
    | none => (s, .ended none)
    | some w =>
      match buildProofPayloadFromWallet w with
      | none => finalizeFail s r NO_TON_PROOF_MESSAGE none
      | some payload =>
        if payload.proof.payload ≠ (s.records r).nonce then
          finalizeFail s r PAYLOAD_MISMATCH_MESSAGE none
        else if (s.records r).nonce ≠ "" ∧ payload.proof.payload ≠ (s.records r).nonce then
          finalizeFail s r VERIFICATION_FAILED_MESSAGE (some EXPECTED_NONCE_ERROR)
        else (s, .verifying w payload)

section
variable (toUserFriendlyAddress : String → Bool → Except String String)

/-- `finalizeWalletConnectSession` after an await (lines 378-422): `executeProof`, then
`linkWallet`, after which it formats the address, sets `finalized`, writes the connected
state, sends the notice and cleans the session up; any throw there goes to
`failAndCloseWalletConnectSession`. The address formatting of @tonconnect/sdk is left a
parameter. -/
def finalizeNext (s : Sys) (r : Nat) (error : Option String) : FinalizePc → Sys × FinalizePc
  | .verifying w payload =>
    match error with
    | some e => finalizeFail s r VERIFICATION_FAILED_MESSAGE (some e)
    | none => (s, .linking w payload)
  | .linking w payload =>
    match error with
    | some e => finalizeFail s r VERIFICATION_FAILED_MESSAGE (some e)
    | none =>
      let s := s.link r payload
      match toUserFriendlyAddress w.address ((s.records r).network = .testnet) with
      | .error e => finalizeFail s r VERIFICATION_FAILED_MESSAGE (some e)
      | .ok formatted =>
        (s.setFlags r { s.flags r with finalized := true },
          .patching (connectedNotice formatted w.appName)
            (.reading (.connected formatted w.appName s.now)))
  | .patching notice pc =>
    match patchNext s (s.records r).sessionId error pc with
    | (s', .wait pc') => (s', .patching notice pc')
    | (s', .ret ()) => (s', .sending notice)
    | (s', .threw e) => finalizeFail s' r VERIFICATION_FAILED_MESSAGE (some e)
  | .sending notice =>
    match error with
    | some e => finalizeFail s r VERIFICATION_FAILED_MESSAGE (some e)
    | none => ((s.send r notice).cleanup (s.records r).sessionId, .cleaning)
  | .cleaning => (s, .ended none)
  | .failing message pc =>
    match failNext s r message error pc with
    | (s', .wait pc') => (s', .failing message pc')
    | (s', .ret ()) => (s', .ended none)
    | (s', .threw e) => (s', .ended (some e))
  | .ended e => (s, .ended e)

end

/-- The sync part of `refreshPendingWalletConnectSession(sessionId)` (lines 425-440): the
finalize promise the call awaits, or `none` when it returns at once. A flow with no promise
starts a finalize, whose sync part runs before the promise is stored. -/
def refreshStart (s : Sys) (sessionId : String) : Sys × Option Nat :=
  match s.pending sessionId with
  | none => (s, none)
  | some r =>
    if (s.flags r).closing then (s, none)
    else match (s.flags r).finalizePromise with
      | some k => (s, some k)
      | none =>
        let (s', pc) := finalizeStart s r
        (s'.startFinalize r pc, some s'.nextPromise)

/-- What an awaited finalize promise settled with, once it has. -/
def settledAs (s : Sys) (k : Nat) : Option (Option String) :=
  match s.finalizers k with
  | some (.settled e) => some e
  | _ => none

/-- `expireWalletConnectFlow` after an await (lines 721-757). -/
def expireNext (s : Sys) (sessionId telegramUserId : String) (error : Option String) :
    ExpirePc → Sys × Next ExpirePc Unit
  | .reading =>
    match error with
    | some e => (s, .threw e)
    | none =>
      match s.sessions sessionId with
      | none => (s, .ret ())
      | some row =>
        if row.telegramUserId ≠ telegramUserId then (s, .ret ())
        else match s.pending sessionId with
          | none => (s, .ret ())
          | some r => (s.cleanup sessionId, .wait (.cleaning r))
  | .cleaning r => (s, .wait (.patching r (.reading .expired)))
  | .patching r pc =>
    match patchNext s sessionId error pc with
    | (s', .wait pc') => (s', .wait (.patching r pc'))
    | (s', .ret ()) => (s', .wait (.sending r))
    | (s', .threw e) => (s', .threw e)
  | .sending r =>
    match error with
    | some e => (s, .threw e)
    | none => (s.send r EXPIRED_NOTICE, .ret ())

/-- The session check of `getWalletConnectFlowStatus` and `cancelWalletConnectFlow`. -/
def FlowQuery.owns (q : FlowQuery) (row : SessionRow) : Bool :=
  row.telegramUserId = q.telegramUserId && q.telegramChatId.all (· = row.telegramChatId)

/-- `cancelWalletConnectFlow` after an await (lines 686-719). -/
def cancelNext (s : Sys) (q : FlowQuery) (error : Option String) :
    CancelPc → Sys × Next CancelPc (Bool × String)
  | .reading =>
    match error with
    | some e => (s, .threw e)
    | none =>
      match s.sessions q.sessionId with
      | some row =>
        if q.owns row then (s.cleanup q.sessionId, .wait .cleaning)
        else (s, .ret (false, "Wallet connect request not found for this user."))
      | none => (s, .ret (false, "Wallet connect request not found for this user."))
  | .cleaning => (s, .wait (.patching (.reading .cancelled)))
  | .patching pc =>
    match patchNext s q.sessionId error pc with
    | (s', .wait pc') => (s', .wait (.patching pc'))
    | (s', .ret ()) => (s', .ret (true, "Wallet connect request cancelled."))
    | (s', .threw e) => (s', .threw e)

/-- `getWalletConnectFlowStatus` after an await (lines 589-684); `none` while the finalize it
awaits has not settled. -/
def statusNext (s : Sys) (q : FlowQuery) (error : Option String) :
    StatusPc → Option (Sys × Next StatusPc FlowStatus)
  | .reading =>
    match error with
    | some e => some (s, .threw e)
    | none =>
      match s.sessions q.sessionId with
      | none => some (s, .ret UNAVAILABLE_STATUS)
      | some row =>
        if !q.owns row then some (s, .ret UNAVAILABLE_STATUS)
        else match s.pending q.sessionId with
          | none => some (s, .wait (.walletReading row none))
          | some r =>
            if (s.records r).telegramUserId = q.telegramUserId then
              if (s.records r).expiresAtMs < s.now then some (s, .wait (.expiring .reading))
              else match refreshStart s q.sessionId with
                | (s', some k) => some (s', .wait (.refreshing row (some r) k))
                | (s', none) => some (s', .wait (.walletReading row (some r)))
            else some (s, .wait (.walletReading row (some r)))
  | .expiring pc =>
    match expireNext s q.sessionId q.telegramUserId error pc with
    | (s', .wait pc') => some (s', .wait (.expiring pc'))
    | (s', .ret ()) => some (s', .ret EXPIRED_STATUS)
    | (s', .threw e) => some (s', .threw e)
  | .refreshing row r k =>
    (settledAs s k).map fun e =>
      (s, match e with
        | none => .wait (.walletReading row r)
        | some e => .threw e)
  | .walletReading row r =>
    match error with
    | some e => some (s, .threw e)
    | none =>
      let (active, wallets) := getDefaultWallet { s.wallets with now := s.now } q.telegramUserId
      let s' := { s with wallets := wallets }
      match active with
      | some w => some (s', .ret ⟨"connected", "Wallet connected: " ++ w.address, none⟩)
      | none => some (s', .ret (flowStatusOfState s.now row.state (r.bind fun r => (s.flags r).connectUrl)))

/-- `beginWalletConnectFlow` after an await (lines 444-587). The manifest check is outside
the `try`; a `connect` that throws or gives an empty link, and a pending patch that throws,
go to the `catch`, which cleans up, writes the failure and throws. -/
def beginNext (s : Sys) (input : BeginInput) (nonce : String) (connect : ConnectResult)
    (error : Option String) : BeginPc → Sys × Next BeginPc Outcome
  | .cleaning => (s, .wait .checkingManifest)
  | .checkingManifest =>
    match error with
    | some e => (s, .threw e)
    | none =>
      let r := s.nextFlow
      let s' := s.addFlow input nonce
      let failInit := fun message =>
        (s'.cleanup input.sessionId, Next.wait (.failCleaning message))
      match connect with
      | .error e => failInit (buildWalletConnectFailureMessage e .initialization)
      | .link url =>
        if url = "" then
          failInit (buildWalletConnectFailureMessage NO_CONNECT_LINK_ERROR .initialization)
        else
          (s'.setFlags r { s'.flags r with connectUrl := some url },
            .wait (.patching r url (.reading (.pending nonce s.now (s.now + WALLET_CONNECT_TTL_MS)
              url input.correlationId))))
  | .patching r url pc =>
    match patchNext s input.sessionId error pc with
    | (s', .wait pc') => (s', .wait (.patching r url pc'))
    | (s', .ret ()) => (s', .ret (.begun url nonce (s.records r).expiresAtMs))
    | (s', .threw e) =>
      (s'.cleanup input.sessionId,
        .wait (.failCleaning (buildWalletConnectFailureMessage e .initialization)))
  | .failCleaning message => (s, .wait (.failPatching message (.reading (.failed (some message)))))
  | .failPatching message pc =>
    match patchNext s input.sessionId error pc with
    | (s', .wait pc') => (s', .wait (.failPatching message pc'))
    | (s', .ret ()) => (s', .threw message)
    | (s', .threw e) => (s', .threw e)

/-! ## The system -/

/-- Set process `p` to how its call goes on. -/
def Sys.resume {π ρ : Type} (p : Nat) (wrap : π → Proc) (done : ρ → Outcome) :
    Sys × Next π ρ → Sys
  | (s, .wait pc) => s.setProc p (wrap pc)
  | (s, .ret v) => s.setProc p (.returned (done v))
  | (s, .threw _) => s.setProc p .threw

inductive Action
  | begin (p : Nat) (input : BeginInput) (nonce : String) (connect : ConnectResult)
  | status (p : Nat) (query : FlowQuery)
  | cancel (p : Nat) (query : FlowQuery)
  | walletChanged (p : Nat) (sessionId : String) (w : Option Wallet)
  | statusError (p : Nat) (sessionId : String) (error : String)
  | expiryTimer (p : Nat) (sessionId : String)
  | shutdown
  | advance (p : Nat) (error : Option String)
  | advanceFinalize (k : Nat) (error : Option String)
  | tick (ms : Nat)
  deriving DecidableEq, Repr

section
variable (toUserFriendlyAddress : String → Bool → Except String String)

/-- One step: a call starts on an idle process (`begin` runs the sync part of its first
cleanup); the connector of a pending flow reports a wallet (the status listener sets it and
starts a refresh) or an error; a pending flow's timer fires; shutdown; one await of a call
or of a finalize promise resumes, `error` the message it threw, if any; time passes. -/
def step (s : Sys) : Action → Option Sys
  | .begin p input nonce connect =>
    if s.procs p = .idle then
      some ((s.cleanup input.sessionId).setProc p (.begin input nonce connect .cleaning))
    else none
  | .status p q => if s.procs p = .idle then some (s.setProc p (.status q .reading)) else none
  | .cancel p q => if s.procs p = .idle then some (s.setProc p (.cancel q .reading)) else none
  | .walletChanged p sessionId w =>
    match s.pending sessionId with
    | some r =>
      if s.procs p = .idle then
        match refreshStart (s.setFlags r { s.flags r with wallet := w }) sessionId with
        | (s', some k) => some (s'.setProc p (.refreshing k))
        | (s', none) => some (s'.setProc p (.returned .done))
      else none
    | none => none
  | .statusError p sessionId e =>
    match s.pending sessionId with
    | some r =>
      if s.procs p = .idle then
        if (s.flags r).closing then some s
        else if isTerminalWalletConnectStatusError e then
          let message := buildWalletConnectFailureMessage e .status
          some (Sys.resume p (.failing r message) (fun () => .done) (failStart s r message (some e)))
        else
          some (s.setProc p (.noting sessionId
            (.reading (.lastError (buildWalletConnectFailureMessage e .status)))))
      else none
    | none => none
  | .expiryTimer p sessionId =>
    match s.pending sessionId with
    | some r =>
      if s.procs p = .idle ∧ (s.flags r).timerArmed ∧ (s.records r).expiresAtMs ≤ s.now then
        some ((s.setFlags r { s.flags r with timerArmed := false }).setProc p
          (.expiring sessionId (s.records r).telegramUserId .reading))
      else none
    | none => none
  | .shutdown => some s.cleanupAll
  | .advance p error =>
    match s.procs p with
    | .begin input nonce connect pc =>
      some (Sys.resume p (.begin input nonce connect) id (beginNext s input nonce connect error pc))
    | .refreshing k =>
      (settledAs s k).map fun e => s.setProc p (if e.isNone then .returned .done else .threw)
    | .failing r message pc =>
      some (Sys.resume p (.failing r message) (fun () => .done) (failNext s r message error pc))
    | .noting sessionId pc =>
      some (Sys.resume p (.noting sessionId) (fun () => .done) (patchNext s sessionId error pc))
    | .expiring sessionId u pc =>
      some (Sys.resume p (.expiring sessionId u) (fun () => .done) (expireNext s sessionId u error pc))
    | .status q pc => (statusNext s q error pc).map (Sys.resume p (.status q) .status)
    | .cancel q pc =>
      some (Sys.resume p (.cancel q) (fun v => .cancelled v.1 v.2) (cancelNext s q error pc))
    | _ => none
  | .advanceFinalize k error =>
    match s.finalizers k with
    | some (.running r (.ended e)) =>
      some ((s.setFlags r { s.flags r with finalizePromise := none }).setRun k (.settled e))
    | some (.running r pc) =>
      let (s', pc') := finalizeNext toUserFriendlyAddress s r error pc
      some (s'.setRun k (.running r pc'))
    | _ => none
  | .tick ms => some { s with now := s.now + ms }

end

def linkCount (s : Sys) (r : Nat) : Nat := (s.links.map LinkCall.flow).count r

/-! ## The invariant -/

def FinalizePc.checking : FinalizePc → Option ProofPayload
  | .verifying _ payload => some payload
  | .linking _ payload => some payload
  | _ => none

/-- What every reachable system keeps. The pending map holds made flows under their own
session; a running finalize is the one its flow's `finalizePromise` names; while it checks a
proof, its flow has no link and the proof is of the flow's nonce; a flow has at most one
link, and once it has one it is finalized or closing; a link is for its flow's user and
nonce. -/
structure FlowInv (s : Sys) : Prop where
  pending_flow : ∀ sid r, s.pending sid = some r → r < s.nextFlow ∧ (s.records r).sessionId = sid
  running_flow : ∀ k r pc, s.finalizers k = some (.running r pc) →
    r < s.nextFlow ∧ (s.flags r).finalizePromise = some k
  fresh_promise : ∀ k, s.nextPromise ≤ k → s.finalizers k = none
  checking : ∀ k r pc payload, s.finalizers k = some (.running r pc) →
    pc.checking = some payload → linkCount s r = 0 ∧ payload.proof.payload = (s.records r).nonce
  linked : ∀ r, linkCount s r ≤ 1 ∧ (linkCount s r = 1 → (s.flags r).finalized ∨ (s.flags r).closing)
  links_flow : ∀ c ∈ s.links, c.flow < s.nextFlow ∧
    c.telegramUserId = (s.records c.flow).telegramUserId ∧
    c.payload.proof.payload = (s.records c.flow).nonce

theorem FlowInv.lt_nextPromise {s : Sys} (h : FlowInv s) {k : Nat} {x : FinalizeRun}
    (hk : s.finalizers k = some x) : k < s.nextPromise := by
  by_contra hge
  rw [h.fresh_promise k (by omega)] at hk
  cases hk

theorem FlowInv.run_unique {s : Sys} (h : FlowInv s) {k q r : Nat} {pc pc' : FinalizePc}
    (hk : s.finalizers k = some (.running r pc)) (hq : s.finalizers q = some (.running r pc')) :
    q = k :=
  Option.some.inj ((h.running_flow q r _ hq).2.symm.trans (h.running_flow k r _ hk).2)

/-- A flow that is made, out of the pending map, and with no finalize running. -/
def Sys.Retired (s : Sys) (r : Nat) : Prop :=
  r < s.nextFlow ∧ (∀ sid, s.pending sid ≠ some r) ∧ (s.flags r).finalizePromise = none

/-- What a step keeps of the system before it: the flows made, and each retired flow retired,
with the links it had. -/
structure Frame (s s' : Sys) : Prop where
  nextFlow_le : s.nextFlow ≤ s'.nextFlow
  records : ∀ r, r < s.nextFlow → s'.records r = s.records r
  retired : ∀ r, s.Retired r → s'.Retired r ∧ linkCount s' r = linkCount s r

theorem Frame.refl (s : Sys) : Frame s s := ⟨le_rfl, fun _ _ => rfl, fun _ h => ⟨h, rfl⟩⟩

theorem Frame.trans {s₁ s₂ s₃ : Sys} (h₁ : Frame s₁ s₂) (h₂ : Frame s₂ s₃) : Frame s₁ s₃ where
  nextFlow_le := h₁.nextFlow_le.trans h₂.nextFlow_le
  records r hr := (h₂.records r (lt_of_lt_of_le hr h₁.nextFlow_le)).trans (h₁.records r hr)
  retired r hr :=
    ⟨(h₂.retired r (h₁.retired r hr).1).1,
      (h₂.retired r (h₁.retired r hr).1).2.trans (h₁.retired r hr).2⟩

/-! ### Steps that touch no flow -/

/-- `s'` has the flows, flags, links and finalize promises of `s`, and part of its map. -/
structure Calm (s s' : Sys) : Prop where
  records : s'.records = s.records
  flags : s'.flags = s.flags
  nextFlow : s'.nextFlow = s.nextFlow
  links : s'.links = s.links
  finalizers : s'.finalizers = s.finalizers
  nextPromise : s'.nextPromise = s.nextPromise
  pending : ∀ sid r, s'.pending sid = some r → s.pending sid = some r

theorem Calm.refl (s : Sys) : Calm s s := ⟨rfl, rfl, rfl, rfl, rfl, rfl, fun _ _ => id⟩

theorem Calm.trans {s₁ s₂ s₃ : Sys} (h₁ : Calm s₁ s₂) (h₂ : Calm s₂ s₃) : Calm s₁ s₃ :=
  ⟨h₂.records.trans h₁.records, h₂.flags.trans h₁.flags, h₂.nextFlow.trans h₁.nextFlow,
    h₂.links.trans h₁.links, h₂.finalizers.trans h₁.finalizers,
    h₂.nextPromise.trans h₁.nextPromise, fun sid r h => h₁.pending sid r (h₂.pending sid r h)⟩

theorem Calm.of_eq {s s' : Sys} (hr : s'.records = s.records) (hf : s'.flags = s.flags)
    (hn : s'.nextFlow = s.nextFlow) (hl : s'.links = s.links) (hk : s'.finalizers = s.finalizers)
    (hp : s'.nextPromise = s.nextPromise) (hm : ∀ sid r, s'.pending sid = some r → s.pending sid = some r) :
    Calm s s' := ⟨hr, hf, hn, hl, hk, hp, hm⟩

theorem calm_cleanup (s : Sys) (sid : String) : Calm s (s.cleanup sid) :=
  Calm.of_eq rfl rfl rfl rfl rfl rfl fun k r h => by
    simp only [Sys.cleanup_pending] at h
    split_ifs at h
    exact h

theorem calm_send (s : Sys) (r : Nat) (text : String) : Calm s (s.send r text) :=
  ⟨rfl, rfl, rfl, rfl, rfl, rfl, fun _ _ => id⟩

theorem calm_writeState (s : Sys) (sid : String) (st : ConnectState) :
    Calm s (s.writeState sid st) :=
  ⟨rfl, rfl, rfl, rfl, rfl, rfl, fun _ _ => id⟩

theorem calm_setProc (s : Sys) (p : Nat) (x : Proc) : Calm s (s.setProc p x) :=
  ⟨rfl, rfl, rfl, rfl, rfl, rfl, fun _ _ => id⟩

theorem calm_patchNext (s : Sys) (sid : String) (e : Option String) (pc : PatchPc) :
    Calm s (patchNext s sid e pc).1 := by
  cases pc <;> cases e <;> simp only [patchNext]
  all_goals first | exact Calm.refl s | exact calm_writeState .. | split <;> exact Calm.refl s

theorem calm_failNext (s : Sys) (r : Nat) (m : String) (e : Option String) (pc : FailPc) :
    Calm s (failNext s r m e pc).1 := by
  cases pc with
  | patching pc =>
    have := calm_patchNext s (s.records r).sessionId e pc
    simp only [failNext]
    split <;> simp_all
  | sending =>
    cases e
    · exact (calm_send s r m).trans (calm_cleanup _ _)
    · exact Calm.refl s
  | cleaning => exact Calm.refl s

theorem calm_expireNext (s : Sys) (sid u : String) (e : Option String) (pc : ExpirePc) :
    Calm s (expireNext s sid u e pc).1 := by
  cases pc with
  | reading =>
    cases e
    · simp only [expireNext]
      split
      · exact Calm.refl s
      · split
        · exact Calm.refl s
        · split
          · exact Calm.refl s
          · exact calm_cleanup s sid
    · exact Calm.refl s
  | cleaning => exact Calm.refl s
  | patching r pc =>
    have := calm_patchNext s sid e pc
    simp only [expireNext]
    split <;> simp_all
  | sending r => cases e <;> first | exact Calm.refl s | exact calm_send ..

theorem calm_cancelNext (s : Sys) (q : FlowQuery) (e : Option String) (pc : CancelPc) :
    Calm s (cancelNext s q e pc).1 := by
  cases pc with
  | reading =>
    cases e
    · simp only [cancelNext]
      split
      · split
        · exact calm_cleanup s _
        · exact Calm.refl s
      · exact Calm.refl s
    · exact Calm.refl s
  | cleaning => exact Calm.refl s
  | patching pc =>
    have := calm_patchNext s q.sessionId e pc
    simp only [cancelNext]
    split <;> simp_all

theorem FlowInv.calm {s s' : Sys} (h : FlowInv s) (hc : Calm s s') : FlowInv s' ∧ Frame s s' := by
  have hl : ∀ r, linkCount s' r = linkCount s r := fun r => by simp only [linkCount, hc.links]
  refine ⟨⟨fun sid r hs => ?_, fun k r pc hk => ?_, fun k hk => ?_, fun k r pc pl hk hpc => ?_,
    fun r => ?_, fun c hc' => ?_⟩, ⟨hc.nextFlow.ge, fun r _ => by rw [hc.records], fun r hr => ?_⟩⟩
  · rw [hc.nextFlow, hc.records]; exact h.pending_flow sid r (hc.pending sid r hs)
  · rw [hc.nextFlow, hc.flags]; exact h.running_flow k r pc (hc.finalizers ▸ hk)
  · rw [hc.finalizers]; exact h.fresh_promise k (hc.nextPromise ▸ hk)
  · rw [hl, hc.records]; exact h.checking k r pc pl (hc.finalizers ▸ hk) hpc
  · rw [hl, hc.flags]; exact h.linked r
  · rw [hc.nextFlow, hc.records]; exact h.links_flow c (hc.links ▸ hc')
  · refine ⟨⟨hc.nextFlow ▸ hr.1, fun sid hs => hr.2.1 sid (hc.pending sid r hs), hc.flags ▸ hr.2.2⟩,
      hl r⟩

/-! ### Flags, and the calls that set them -/

theorem FlowInv.setFlags {s : Sys} (h : FlowInv s) {r : Nat} {f : FlowFlags}
    (hp : f.finalizePromise = (s.flags r).finalizePromise)
    (hm : (s.flags r).finalized ∨ (s.flags r).closing → f.finalized ∨ f.closing) :
    FlowInv (s.setFlags r f) ∧ Frame s (s.setFlags r f) := by
  have hfp : ∀ q, ((s.setFlags r f).flags q).finalizePromise = (s.flags q).finalizePromise := by
    intro q
    simp only [Sys.setFlags_flags]
    split_ifs with hq
    · subst hq; exact hp
    · rfl
  refine ⟨⟨h.pending_flow, fun k q pc hk => ?_, h.fresh_promise, h.checking, fun q => ?_,
    h.links_flow⟩, ⟨le_rfl, fun _ _ => rfl, fun q hq => ⟨⟨hq.1, hq.2.1, (hfp q).trans hq.2.2⟩, rfl⟩⟩⟩
  · rw [hfp]; exact h.running_flow k q pc hk
  · refine ⟨(h.linked q).1, fun hc => ?_⟩
    simp only [Sys.setFlags_flags]
    split_ifs with hq
    · subst hq; exact hm ((h.linked q).2 hc)
    · exact (h.linked q).2 hc

theorem FlowInv.of_failStart {s : Sys} (h : FlowInv s) (r : Nat) (m : String) (e : Option String) :
    FlowInv (failStart s r m e).1 ∧ Frame s (failStart s r m e).1 := by
  unfold failStart
  split_ifs
  · exact ⟨h, Frame.refl s⟩
  · exact h.setFlags rfl fun _ => Or.inr rfl

theorem finalizeFail_fst (s : Sys) (r : Nat) (m : String) (e : Option String) :
    (finalizeFail s r m e).1 = (failStart s r m e).1 := by
  unfold finalizeFail
  split <;> simp_all

theorem finalizeFail_checking (s : Sys) (r : Nat) (m : String) (e : Option String) :
    (finalizeFail s r m e).2.checking = none := by
  unfold finalizeFail
  split <;> rfl

theorem finalizeStart_cases (s : Sys) (r : Nat) :
    ((finalizeStart s r).2.checking = none ∧
      ((finalizeStart s r).1 = s ∨ ∃ m e, (finalizeStart s r).1 = (failStart s r m e).1)) ∨
    ∃ payload, (finalizeStart s r).2.checking = some payload ∧ (finalizeStart s r).1 = s ∧
      (s.flags r).finalized = false ∧ (s.flags r).closing = false ∧
      payload.proof.payload = (s.records r).nonce := by
  unfold finalizeStart
  simp only [Bool.or_eq_true]
  split_ifs with hf
  · exact .inl ⟨rfl, .inl rfl⟩
  · simp only [not_or, Bool.not_eq_true] at hf
    split
    · exact .inl ⟨rfl, .inl rfl⟩
    · split
      · exact .inl ⟨finalizeFail_checking .., .inr ⟨_, _, finalizeFail_fst ..⟩⟩
      · split_ifs with hp hn
        · exact .inl ⟨finalizeFail_checking .., .inr ⟨_, _, finalizeFail_fst ..⟩⟩
        · exact .inl ⟨finalizeFail_checking .., .inr ⟨_, _, finalizeFail_fst ..⟩⟩
        · exact .inr ⟨_, rfl, rfl, hf.1, hf.2, not_not.mp hp⟩

theorem FlowInv.of_finalizeStart {s : Sys} (h : FlowInv s) (r : Nat) :
    FlowInv (finalizeStart s r).1 ∧ Frame s (finalizeStart s r).1 := by
  rcases finalizeStart_cases s r with ⟨-, hs | ⟨m, e, hs⟩⟩ | ⟨_, -, hs, -⟩ <;> rw [hs]
  · exact ⟨h, Frame.refl s⟩
  · exact h.of_failStart r m e
  · exact ⟨h, Frame.refl s⟩

theorem failStart_pending (s : Sys) (r : Nat) (m : String) (e : Option String) :
    (failStart s r m e).1.pending = s.pending := by
  unfold failStart; split_ifs <;> rfl

theorem failStart_promise (s : Sys) (r q : Nat) (m : String) (e : Option String) :
    ((failStart s r m e).1.flags q).finalizePromise = (s.flags q).finalizePromise := by
  unfold failStart
  split_ifs
  · rfl
  · simp only [Sys.setFlags_flags]; split_ifs with hq <;> simp [hq]

theorem finalizeStart_pending (s : Sys) (r : Nat) : (finalizeStart s r).1.pending = s.pending := by
  rcases finalizeStart_cases s r with ⟨-, hs | ⟨m, e, hs⟩⟩ | ⟨_, -, hs, -⟩ <;>
    simp only [hs, failStart_pending]

theorem finalizeStart_promise (s : Sys) (r q : Nat) :
    ((finalizeStart s r).1.flags q).finalizePromise = (s.flags q).finalizePromise := by
  rcases finalizeStart_cases s r with ⟨-, hs | ⟨m, e, hs⟩⟩ | ⟨_, -, hs, -⟩ <;>
    simp only [hs, failStart_promise]

theorem FlowInv.linkCount_eq_zero {s : Sys} (h : FlowInv s) {r : Nat}
    (hf : (s.flags r).finalized = false) (hc : (s.flags r).closing = false) : linkCount s r = 0 := by
  have h1 := (h.linked r).1
  have h2 : linkCount s r ≠ 1 := fun h' => by simpa [hf, hc] using (h.linked r).2 h'
  omega

theorem FlowInv.startFinalize {s : Sys} (h : FlowInv s) {sid : String} {r : Nat}
    {pc : FinalizePc} (hr : s.pending sid = some r) (hn : (s.flags r).finalizePromise = none)
    (hpc : ∀ pl, pc.checking = some pl →
      linkCount s r = 0 ∧ pl.proof.payload = (s.records r).nonce) :
    FlowInv (s.startFinalize r pc) ∧ Frame s (s.startFinalize r pc) := by
  have hlt := (h.pending_flow sid r hr).1
  refine ⟨⟨h.pending_flow, fun k q pc' hk => ?_, fun k hk => ?_, fun k q pc' pl hk hc => ?_,
    fun q => ?_, h.links_flow⟩, ⟨le_rfl, fun _ _ => rfl, fun q hq => ?_⟩⟩
  · simp only [Sys.startFinalize_finalizers] at hk
    split_ifs at hk with hkk
    · cases hk; simp [hkk, hlt]
    · obtain ⟨hq, hqk⟩ := h.running_flow k q pc' hk
      have : q ≠ r := by rintro rfl; rw [hn] at hqk; cases hqk
      simp [this, hq, hqk]
  · simp only [Sys.startFinalize_finalizers, Sys.startFinalize_nextPromise] at hk ⊢
    rw [if_neg (by omega)]
    exact h.fresh_promise k (by omega)
  · simp only [Sys.startFinalize_finalizers] at hk
    split_ifs at hk
    · cases hk; exact hpc pl hc
    · exact h.checking k q pc' pl hk hc
  · simp only [Sys.startFinalize_flags]
    split_ifs with hq
    · subst hq; exact h.linked q
    · exact h.linked q
  · have : q ≠ r := by rintro rfl; exact hq.2.1 sid hr
    exact ⟨⟨hq.1, hq.2.1, by simp [this, hq.2.2]⟩, rfl⟩

theorem FlowInv.of_refreshStart {s : Sys} (h : FlowInv s) (sid : String) :
    FlowInv (refreshStart s sid).1 ∧ Frame s (refreshStart s sid).1 := by
  unfold refreshStart
  cases hp : s.pending sid with
  | none => exact ⟨h, Frame.refl s⟩
  | some r =>
    simp only
    split_ifs
    · exact ⟨h, Frame.refl s⟩
    · cases hk : (s.flags r).finalizePromise with
      | some k => exact ⟨h, Frame.refl s⟩
      | none =>
        obtain ⟨h1, f1⟩ := h.of_finalizeStart r
        have h2 := @FlowInv.startFinalize _ h1 sid r (finalizeStart s r).2
          (by rw [finalizeStart_pending]; exact hp) (by rw [finalizeStart_promise]; exact hk)
          fun pl hpl => by
            rcases finalizeStart_cases s r with ⟨hc, -⟩ | ⟨pl', hc, hs, hfin, hcl, hpay⟩
            · rw [hc] at hpl; cases hpl
            · rw [hc] at hpl; cases hpl
              rw [hs]
              exact ⟨h.linkCount_eq_zero hfin hcl, hpay⟩
        exact ⟨h2.1, f1.trans h2.2⟩

/-! ### The finalize runs -/

theorem FlowInv.setRun {s : Sys} (h : FlowInv s) {k r : Nat} {pc pc' : FinalizePc}
    (hk : s.finalizers k = some (.running r pc))
    (hpc : ∀ pl, pc'.checking = some pl → pc.checking = some pl) :
    FlowInv (s.setRun k (.running r pc')) ∧ Frame s (s.setRun k (.running r pc')) := by
  have hlt := h.lt_nextPromise hk
  refine ⟨⟨h.pending_flow, fun q r' pc'' hq => ?_, fun q hq => ?_, fun q r' pc'' pl hq hc => ?_,
    h.linked, h.links_flow⟩, ⟨le_rfl, fun _ _ => rfl, fun q hq => ⟨hq, rfl⟩⟩⟩
  · simp only [Sys.setRun_finalizers] at hq
    split_ifs at hq with hqk
    · cases hq; subst hqk; exact h.running_flow _ _ _ hk
    · exact h.running_flow q r' pc'' hq
  · simp only [Sys.setRun_finalizers, Sys.setRun_nextPromise] at hq ⊢
    rw [if_neg (by omega)]
    exact h.fresh_promise q hq
  · simp only [Sys.setRun_finalizers] at hq
    split_ifs at hq with hqk
    · cases hq; subst hqk; exact h.checking _ _ _ pl hk (hpc pl hc)
    · exact h.checking q r' pc'' pl hq hc

theorem FlowInv.calmRun {s s' : Sys} (h : FlowInv s) (hc : Calm s s') {k r : Nat}
    {pc pc' : FinalizePc} (hk : s.finalizers k = some (.running r pc))
    (hpc : ∀ pl, pc'.checking = some pl → pc.checking = some pl) :
    FlowInv (s'.setRun k (.running r pc')) ∧ Frame s (s'.setRun k (.running r pc')) := by
  obtain ⟨h1, f1⟩ := h.calm hc
  obtain ⟨h2, f2⟩ := h1.setRun (hc.finalizers ▸ hk) hpc
  exact ⟨h2, f1.trans f2⟩

theorem FlowInv.failRun {s : Sys} (h : FlowInv s) {k r : Nat} {pc : FinalizePc}
    (hk : s.finalizers k = some (.running r pc)) (m : String) (e : Option String) :
    FlowInv ((finalizeFail s r m e).1.setRun k (.running r (finalizeFail s r m e).2)) ∧
      Frame s ((finalizeFail s r m e).1.setRun k (.running r (finalizeFail s r m e).2)) := by
  rw [finalizeFail_fst]
  obtain ⟨h1, f1⟩ := h.of_failStart r m e
  have hk1 : (failStart s r m e).1.finalizers k = some (.running r pc) := by
    unfold failStart; split_ifs <;> exact hk
  obtain ⟨h2, f2⟩ := h1.setRun hk1 fun pl hpl => by rw [finalizeFail_checking] at hpl; cases hpl
  exact ⟨h2, f1.trans f2⟩

theorem linkCount_link (s : Sys) (r q : Nat) (pl : ProofPayload) :
    linkCount (s.link r pl) q = linkCount s q + if r = q then 1 else 0 := by
  simp only [linkCount, Sys.link_links, List.map_append, List.map_cons, List.map_nil,
    List.count_append, List.count_singleton']

theorem FlowInv.linkRun {s : Sys} (h : FlowInv s) {k r : Nat} {w : Wallet} {pl : ProofPayload}
    (hk : s.finalizers k = some (.running r (.linking w pl))) {g : FlowFlags}
    (hg : g.finalizePromise = (s.flags r).finalizePromise) (hfin : g.finalized ∨ g.closing)
    {pc' : FinalizePc} (hpc : pc'.checking = none) :
    FlowInv (((s.link r pl).setFlags r g).setRun k (.running r pc')) ∧
      Frame s (((s.link r pl).setFlags r g).setRun k (.running r pc')) := by
  obtain ⟨hr, hkr⟩ := h.running_flow k r _ hk
  obtain ⟨h0, hpay⟩ := h.checking k r _ pl hk rfl
  have hlt := h.lt_nextPromise hk
  have hfl : ∀ q, (((s.link r pl).setFlags r g).setRun k (.running r pc')).flags q =
      if q = r then g else s.flags q := fun q => rfl
  have hl : ∀ q, linkCount (((s.link r pl).setFlags r g).setRun k (.running r pc')) q =
      linkCount s q + if r = q then 1 else 0 := fun q => linkCount_link s r q pl
  refine ⟨⟨h.pending_flow, fun q r' pc'' hq => ?_, fun q hq => ?_, fun q r' pc'' pl' hq hc => ?_,
    fun q => ?_, fun c hc => ?_⟩, ⟨le_rfl, fun _ _ => rfl, fun q hq => ?_⟩⟩
  · simp only [Sys.setRun_finalizers] at hq
    split_ifs at hq with hqk
    · cases hq
      subst hqk
      rw [hfl, if_pos rfl]
      exact ⟨hr, hg.trans hkr⟩
    · have hr' : r' ≠ r := by rintro rfl; exact hqk (h.run_unique hk hq)
      rw [hfl, if_neg hr']
      exact h.running_flow q r' pc'' hq
  · simp only [Sys.setRun_finalizers, Sys.setRun_nextPromise, Sys.setFlags_nextPromise,
      Sys.link_nextPromise] at hq ⊢
    rw [if_neg (by omega)]
    exact h.fresh_promise q hq
  · simp only [Sys.setRun_finalizers] at hq
    split_ifs at hq with hqk
    · cases hq; rw [hpc] at hc; cases hc
    · have hr' : r' ≠ r := by rintro rfl; exact hqk (h.run_unique hk hq)
      rw [hl, if_neg hr'.symm, Nat.add_zero]
      exact h.checking q r' pc'' pl' hq hc
  · rw [hl, hfl]
    by_cases hq : q = r
    · subst hq
      simp [h0, hfin]
    · rw [if_neg (Ne.symm hq), if_neg hq, Nat.add_zero]
      exact h.linked q
  · simp only [Sys.setRun_links, Sys.setFlags_links, Sys.link_links, List.mem_append,
      List.mem_singleton] at hc
    rcases hc with hc | rfl
    · exact h.links_flow c hc
    · exact ⟨hr, rfl, hpay⟩
  · have hqr : q ≠ r := by rintro rfl; rw [hq.2.2] at hkr; cases hkr
    refine ⟨⟨hq.1, hq.2.1, by rw [hfl, if_neg hqr]; exact hq.2.2⟩, ?_⟩
    rw [hl, if_neg (Ne.symm hqr), Nat.add_zero]

theorem Sys.setFlags_self (s : Sys) (r : Nat) : s.setFlags r (s.flags r) = s := by
  cases s
  simp only [Sys.setFlags, Sys.mk.injEq, and_true, true_and]
  funext q
  split_ifs with hq <;> simp [hq]

section
variable (f : String → Bool → Except String String)

theorem FlowInv.finalizeRun {s : Sys} (h : FlowInv s) {k r : Nat} {pc : FinalizePc}
    (hk : s.finalizers k = some (.running r pc)) (e : Option String) :
    FlowInv ((finalizeNext f s r e pc).1.setRun k (.running r (finalizeNext f s r e pc).2)) ∧
      Frame s ((finalizeNext f s r e pc).1.setRun k (.running r (finalizeNext f s r e pc).2)) := by
  cases pc with
  | verifying w pl =>
    cases e with
    | some x => exact h.failRun hk _ _
    | none => exact h.calmRun (Calm.refl s) hk fun _ hp => hp
  | linking w pl =>
    cases e with
    | some x => exact h.failRun hk _ _
    | none =>
      simp only [finalizeNext]
      split
      · rename_i x hfe
        rw [finalizeFail_fst]
        unfold failStart
        split_ifs with hc
        · have := h.linkRun hk (g := s.flags r) rfl (Or.inr hc)
            (finalizeFail_checking (s.link r pl) r VERIFICATION_FAILED_MESSAGE (some x))
          rwa [show (s.link r pl).setFlags r (s.flags r) = s.link r pl from
            Sys.setFlags_self (s.link r pl) r] at this
        · exact h.linkRun hk (g := { s.flags r with closing := true }) rfl (Or.inr rfl)
            (finalizeFail_checking ..)
      · exact h.linkRun hk (g := { s.flags r with finalized := true }) rfl (Or.inl rfl) rfl
  | patching notice ppc =>
    have hc := calm_patchNext s (s.records r).sessionId e ppc
    simp only [finalizeNext]
    split <;> rename_i hp <;> rw [hp] at hc
    · exact h.calmRun hc hk fun _ hp => by cases hp
    · exact h.calmRun hc hk fun _ hp => by cases hp
    · obtain ⟨h1, f1⟩ := h.calm hc
      obtain ⟨h2, f2⟩ := h1.failRun (hc.finalizers ▸ hk) _ _
      exact ⟨h2, f1.trans f2⟩
  | sending notice =>
    cases e with
    | some x => exact h.failRun hk _ _
    | none => exact h.calmRun ((calm_send s r notice).trans (calm_cleanup _ _)) hk fun _ hp => by cases hp
  | cleaning => exact h.calmRun (Calm.refl s) hk fun _ hp => by cases hp
  | failing m fpc =>
    have hc := calm_failNext s r m e fpc
    simp only [finalizeNext]
    split <;> rename_i hp <;> rw [hp] at hc <;> exact h.calmRun hc hk fun _ hp => by cases hp
  | ended x => exact h.calmRun (Calm.refl s) hk fun _ hp => by cases hp

end

theorem FlowInv.settle {s : Sys} (h : FlowInv s) {k r : Nat} {e : Option String}
    (hk : s.finalizers k = some (.running r (.ended e))) :
    FlowInv ((s.setFlags r { s.flags r with finalizePromise := none }).setRun k (.settled e)) ∧
      Frame s ((s.setFlags r { s.flags r with finalizePromise := none }).setRun k (.settled e)) := by
  have hkr := (h.running_flow k r _ hk).2
  have hfl : ∀ q, ((s.setFlags r { s.flags r with finalizePromise := none }).setRun k
      (.settled e)).flags q = if q = r then { s.flags r with finalizePromise := none } else s.flags q :=
    fun q => rfl
  refine ⟨⟨h.pending_flow, fun q r' pc hq => ?_, fun q hq => ?_, fun q r' pc pl hq hc => ?_,
    fun q => ?_, h.links_flow⟩, ⟨le_rfl, fun _ _ => rfl, fun q hq => ?_⟩⟩
  · simp only [Sys.setRun_finalizers, Sys.setFlags_finalizers] at hq
    split_ifs at hq with hqk
    · cases hq
    · have hr : r' ≠ r := by rintro rfl; exact hqk (h.run_unique hk hq)
      rw [hfl, if_neg hr]; exact h.running_flow q r' pc hq
  · simp only [Sys.setRun_finalizers, Sys.setRun_nextPromise, Sys.setFlags_nextPromise,
      Sys.setFlags_finalizers] at hq ⊢
    rw [if_neg (by have := h.lt_nextPromise hk; omega)]
    exact h.fresh_promise q hq
  · simp only [Sys.setRun_finalizers, Sys.setFlags_finalizers] at hq
    split_ifs at hq
    · cases hq
    · exact h.checking q r' pc pl hq hc
  · rw [hfl]
    split_ifs with hq
    · subst hq; exact h.linked q
    · exact h.linked q
  · have hqr : q ≠ r := by rintro rfl; rw [hq.2.2] at hkr; cases hkr
    exact ⟨⟨hq.1, hq.2.1, by rw [hfl, if_neg hqr]; exact hq.2.2⟩, rfl⟩

theorem FlowInv.addFlow {s : Sys} (h : FlowInv s) (input : BeginInput) (nonce : String) :
    FlowInv (s.addFlow input nonce) ∧ Frame s (s.addFlow input nonce) := by
  have hnone : linkCount s s.nextFlow = 0 := by
    simp only [linkCount, List.count_eq_zero, List.mem_map, not_exists, not_and]
    intro c hc hcf
    have := (h.links_flow c hc).1
    omega
  refine ⟨⟨fun sid r hs => ?_, fun k r pc hk => ?_, h.fresh_promise, fun k r pc pl hk hc => ?_,
    fun r => ?_, fun c hc => ?_⟩, ⟨by simp, fun r hr => by simp [hr.ne], fun r hr => ?_⟩⟩
  · simp only [Sys.addFlow_pending, Sys.addFlow_nextFlow, Sys.addFlow_records] at hs ⊢
    split_ifs at hs with hsid
    · cases hs; simp [hsid]
    · obtain ⟨hr, hid⟩ := h.pending_flow sid r hs
      simp [hr.ne, hid]
      omega
  · obtain ⟨hr, hkr⟩ := h.running_flow k r pc hk
    simp only [Sys.addFlow_nextFlow, Sys.addFlow_flags]
    rw [if_neg hr.ne]
    exact ⟨by omega, hkr⟩
  · have hr := (h.running_flow k r pc hk).1
    simp only [Sys.addFlow_records]
    rw [if_neg hr.ne]
    exact h.checking k r pc pl hk hc
  · simp only [Sys.addFlow_flags]
    split_ifs with hr
    · subst hr; simp [linkCount] at hnone ⊢; simp [hnone]
    · exact h.linked r
  · obtain ⟨hr, hu, hn⟩ := h.links_flow c hc
    simp only [Sys.addFlow_nextFlow, Sys.addFlow_records]
    rw [if_neg hr.ne]
    exact ⟨by omega, hu, hn⟩
  · refine ⟨⟨by have := hr.1; simp; omega, fun sid hs => ?_, by simp [hr.1.ne, hr.2.2]⟩, rfl⟩
    simp only [Sys.addFlow_pending] at hs
    split_ifs at hs
    · cases hs; exact absurd rfl hr.1.ne
    · exact hr.2.1 sid hs

/-! ### The calls -/

theorem FlowInv.of_beginNext {s : Sys} (h : FlowInv s) (input : BeginInput) (nonce : String)
    (connect : ConnectResult) (e : Option String) (pc : BeginPc) :
    FlowInv (beginNext s input nonce connect e pc).1 ∧
      Frame s (beginNext s input nonce connect e pc).1 := by
  cases pc with
  | checkingManifest =>
    cases e with
    | some x => exact ⟨h, Frame.refl s⟩
    | none =>
      obtain ⟨h1, f1⟩ := h.addFlow input nonce
      have hc : FlowInv ((s.addFlow input nonce).cleanup input.sessionId) ∧
          Frame s ((s.addFlow input nonce).cleanup input.sessionId) := by
        obtain ⟨h2, f2⟩ := h1.calm (calm_cleanup _ _)
        exact ⟨h2, f1.trans f2⟩
      simp only [beginNext]
      cases connect with
      | error x => exact hc
      | link url =>
        simp only
        split_ifs
        · exact hc
        · obtain ⟨h2, f2⟩ := h1.setFlags (r := s.nextFlow)
            (f := { (s.addFlow input nonce).flags s.nextFlow with connectUrl := some url }) rfl id
          exact ⟨h2, f1.trans f2⟩
  | patching r url ppc =>
    have hc := calm_patchNext s input.sessionId e ppc
    simp only [beginNext]
    split <;> rename_i hp <;> rw [hp] at hc
    · exact h.calm hc
    · exact h.calm hc
    · exact h.calm (hc.trans (calm_cleanup _ _))
  | failPatching m ppc =>
    have hc := calm_patchNext s input.sessionId e ppc
    simp only [beginNext]
    split <;> rename_i hp <;> rw [hp] at hc <;> exact h.calm hc
  | cleaning | failCleaning _ => exact ⟨h, Frame.refl s⟩

theorem statusNext_fst {s : Sys} {q : FlowQuery} {e : Option String} {pc : StatusPc}
    {x : Sys × Next StatusPc FlowStatus} (hx : statusNext s q e pc = some x) :
    Calm s x.1 ∨ x.1 = (refreshStart s q.sessionId).1 := by
  cases pc with
  | reading =>
    simp only [statusNext] at hx
    repeat' split at hx
    all_goals first
      | (cases hx; exact .inl (Calm.refl s))
      | (rename_i heq; cases hx; exact .inr (by rw [heq]))
  | expiring epc =>
    have hc := calm_expireNext s q.sessionId q.telegramUserId e epc
    simp only [statusNext] at hx
    split at hx <;> rename_i hp <;> rw [hp] at hc <;> cases hx <;> exact .inl hc
  | refreshing row r k =>
    simp only [statusNext, Option.map_eq_some'] at hx
    obtain ⟨_, -, rfl⟩ := hx
    exact .inl (Calm.refl s)
  | walletReading row r =>
    simp only [statusNext] at hx
    split at hx
    · cases hx; exact .inl (Calm.refl s)
    · split at hx <;> cases hx <;>
        exact .inl (Calm.of_eq rfl rfl rfl rfl rfl rfl fun _ _ => id)

theorem calm_resume {π ρ : Type} (p : Nat) (wrap : π → Proc) (done : ρ → Outcome)
    (x : Sys × Next π ρ) : Calm x.1 (Sys.resume p wrap done x) := by
  obtain ⟨s, _ | _ | _⟩ := x <;> exact calm_setProc ..

theorem FlowInv.resume {s : Sys} {π ρ : Type} {x : Sys × Next π ρ} (h : FlowInv x.1)
    (hf : Frame s x.1) (p : Nat) (wrap : π → Proc) (done : ρ → Outcome) :
    FlowInv (Sys.resume p wrap done x) ∧ Frame s (Sys.resume p wrap done x) := by
  obtain ⟨h1, f1⟩ := h.calm (calm_resume p wrap done x)
  exact ⟨h1, hf.trans f1⟩

section
variable (f : String → Bool → Except String String)

theorem FlowInv.of_step {s s' : Sys} (h : FlowInv s) {a : Action} (hs : step f s a = some s') :
    FlowInv s' ∧ Frame s s' := by
  cases a with
  | begin p input nonce connect =>
    simp only [step] at hs
    split_ifs at hs
    cases hs
    exact h.calm ((calm_cleanup s _).trans (calm_setProc ..))
  | status p q | cancel p q =>
    simp only [step] at hs
    split_ifs at hs
    cases hs
    exact h.calm (calm_setProc ..)
  | walletChanged p sid w =>
    simp only [step] at hs
    split at hs
    · rename_i r hr
      split_ifs at hs
      obtain ⟨h1, f1⟩ := h.setFlags (r := r) (f := { s.flags r with wallet := w }) rfl id
      obtain ⟨h2, f2⟩ := h1.of_refreshStart sid
      split at hs <;> rename_i heq <;> cases hs <;> rw [heq] at h2 f2 <;>
        exact (h2.calm (calm_setProc ..)).imp_right (f1.trans f2).trans
    · cases hs
  | statusError p sid x =>
    simp only [step] at hs
    split at hs
    · rename_i r hr
      split_ifs at hs
      · cases hs; exact ⟨h, Frame.refl s⟩
      · cases hs
        obtain ⟨h1, f1⟩ := h.of_failStart r _ (some x)
        exact h1.resume f1 ..
      · cases hs; exact h.calm (calm_setProc ..)
    · cases hs
  | expiryTimer p sid =>
    simp only [step] at hs
    split at hs
    · rename_i r hr
      split_ifs at hs
      cases hs
      obtain ⟨h1, f1⟩ := h.setFlags (r := r) (f := { s.flags r with timerArmed := false }) rfl id
      exact (h1.calm (calm_setProc ..)).imp_right f1.trans
    · cases hs
  | shutdown =>
    cases hs
    exact h.calm (Calm.of_eq rfl rfl rfl rfl rfl rfl fun _ _ h => by cases h)
  | advance p e =>
    simp only [step] at hs
    split at hs
    · cases hs
      obtain ⟨h1, f1⟩ := h.of_beginNext ..
      exact h1.resume f1 ..
    · simp only [Option.map_eq_some'] at hs
      obtain ⟨_, -, rfl⟩ := hs
      exact h.calm (calm_setProc ..)
    · cases hs; exact h.calm ((calm_failNext ..).trans (calm_resume ..))
    · cases hs; exact h.calm ((calm_patchNext ..).trans (calm_resume ..))
    · cases hs; exact h.calm ((calm_expireNext ..).trans (calm_resume ..))
    · rename_i q pc _
      simp only [Option.map_eq_some'] at hs
      obtain ⟨x, hx, rfl⟩ := hs
      have hx1 : FlowInv x.1 ∧ Frame s x.1 := by
        rcases statusNext_fst hx with hc | heq
        · exact h.calm hc
        · rw [heq]; exact h.of_refreshStart _
      exact hx1.1.resume hx1.2 ..
    · cases hs; exact h.calm ((calm_cancelNext ..).trans (calm_resume ..))
    · cases hs
  | advanceFinalize k e =>
    simp only [step] at hs
    split at hs
    · rename_i r x hk
      cases hs
      exact h.settle hk
    · rename_i r pc hk _
      cases hs
      exact h.finalizeRun f (by assumption) e
    · cases hs
  | tick ms =>
    cases hs
    exact h.calm (Calm.of_eq rfl rfl rfl rfl rfl rfl fun _ _ => id)

theorem flowInv_init (sessions : String → Option SessionRow) (wallets : WalletStore) :
    FlowInv (Sys.init sessions wallets) where
  pending_flow _ _ h := by cases h
  running_flow _ _ _ h := by cases h
  fresh_promise _ _ := rfl
  checking _ _ _ _ h := by cases h
  linked _ := by simp [linkCount, Sys.init]
  links_flow _ h := by cases h

theorem flowInv_reachable {sessions : String → Option SessionRow} {wallets : WalletStore}
    {s : Sys} (h : Reachable (Sys.init sessions wallets) (step f) s) : FlowInv s :=
  h.invariant FlowInv (flowInv_init sessions wallets) fun _ _ _ hi hs => (hi.of_step f hs).1

/-! ## The guarantees -/

/-- Under every interleaving of the calls, the connector's events and the timers, each
`linkWallet` call of the flow is for the user of the flow it was made for, with a proof whose
payload is that flow's nonce, and no flow makes two of them. -/
theorem wallet_link_matches_its_flow (sessions : String → Option SessionRow)
    (wallets : WalletStore) {s : Sys} (h : Reachable (Sys.init sessions wallets) (step f) s) :
    (∀ c ∈ s.links, c.telegramUserId = (s.records c.flow).telegramUserId ∧
      c.payload.proof.payload = (s.records c.flow).nonce) ∧ (s.links.map LinkCall.flow).Nodup := by
  have hi := flowInv_reachable f h
  refine ⟨fun c hc => (hi.links_flow c hc).2, List.nodup_iff_count_le_one.mpr fun r => ?_⟩
  exact (hi.linked r).1

def sampleSessions (sid : String) : Option SessionRow :=
  if sid = "s1" then some ⟨"c1", "u1", .empty⟩ else none

def keepAddress (address : String) (_ : Bool) : Except String String := .ok address

def sampleInput : BeginInput := ⟨"s1", "c1", "u1", none, .mainnet, "corr"⟩

def sampleWallet (nonce : String) : Wallet := ⟨"0:ab", "Tonkeeper", some ⟨0, "bot", "sig", nonce⟩⟩

def beginRun (p : Nat) (nonce : String) : List Action :=
  [.begin p sampleInput nonce (.link "tc://x"), .advance p none, .advance p none, .advance p none,
    .advance p none]

def linkRun (p k : Nat) (nonce : String) : List Action :=
  [.walletChanged p "s1" (some (sampleWallet nonce)), .advanceFinalize k none,
    .advanceFinalize k none]

theorem sample_flow_links_once :
    ∃ s, Reachable (Sys.init sampleSessions WalletStore.empty) (step keepAddress) s ∧
      s.links.length = 1 ∧
      ((∀ c ∈ s.links, c.telegramUserId = (s.records c.flow).telegramUserId ∧
        c.payload.proof.payload = (s.records c.flow).nonce) ∧
        (s.links.map LinkCall.flow).Nodup) := by
  obtain ⟨s, hs, hv⟩ := exists_reachable_of_run_view (Sys.init sampleSessions WalletStore.empty)
    (step keepAddress) (fun s => s.links.length)
    (beginRun 0 "n1" ++ linkRun 1 0 "n1") (v := 1) (by decide)
  exact ⟨s, hs, hv, wallet_link_matches_its_flow keepAddress _ _ hs⟩

/-- A flow that has left the pending map (cancelled, expired, replaced by a newer flow of its
session, shut down, or ended) while no finalize of it runs gets no link afterwards, whatever
the other calls, the connector and the timers do: it stays out of the map and no finalize of
it starts. -/
theorem left_flow_links_nothing_more (sessions : String → Option SessionRow)
    (wallets : WalletStore) {s t : Sys} (hs : Reachable (Sys.init sessions wallets) (step f) s)
    {r : Nat} (hr : r < s.nextFlow) (hout : s.pending (s.records r).sessionId ≠ some r)
    (hidle : (s.flags r).finalizePromise = none) (ht : Reaches (step f) s t) :
    (∀ sid, t.pending sid ≠ some r) ∧ (t.flags r).finalizePromise = none ∧
      linkCount t r = linkCount s r := by
  have hi := flowInv_reachable f hs
  have hret : s.Retired r := ⟨hr, fun sid hsid => by
    rw [← (hi.pending_flow sid r hsid).2] at hsid; exact hout hsid, hidle⟩
  obtain ⟨-, hf⟩ := ht.preserve (fun u => FlowInv u ∧ Frame s u)
    (fun _ _ _ hu hst => (hu.1.of_step f hst).imp_right hu.2.trans) ⟨hi, Frame.refl s⟩
  obtain ⟨⟨-, hmap, hp⟩, hl⟩ := hf.retired r hret
  exact ⟨hmap, hp, hl⟩

/-- Flow 0 is begun and cancelled; a second flow of the session is begun and links. -/
theorem cancelled_flow_stays_unlinked :
    ∃ s t, Reachable (Sys.init sampleSessions WalletStore.empty) (step keepAddress) s ∧
      Reaches (step keepAddress) s t ∧ 0 < s.nextFlow ∧
      s.pending (s.records 0).sessionId ≠ some 0 ∧ (s.flags 0).finalizePromise = none ∧
      t.links.length = 1 ∧
      ((∀ sid, t.pending sid ≠ some 0) ∧ (t.flags 0).finalizePromise = none ∧
        linkCount t 0 = linkCount s 0) := by
  obtain ⟨s, t, hs, ht, hp, hq⟩ := exists_reaches_of_runs
    (Sys.init sampleSessions WalletStore.empty) (step keepAddress)
    (p := fun s => decide (0 < s.nextFlow) && decide (s.pending (s.records 0).sessionId ≠ some 0) &&
      decide ((s.flags 0).finalizePromise = none))
    (q := fun t => decide (t.links.length = 1))
    (beginRun 0 "n1" ++ [.cancel 1 ⟨"s1", "u1", none⟩, .advance 1 none])
    (beginRun 2 "n2" ++ linkRun 3 0 "n2") (by decide)
  simp only [Bool.and_eq_true, decide_eq_true_eq] at hp hq
  obtain ⟨⟨h1, h2⟩, h3⟩ := hp
  exact ⟨s, t, hs, ht, h1, h2, h3, hq,
    left_flow_links_nothing_more keepAddress _ _ hs h1 h2 h3 ht⟩

end

end ton_agent_bot.tonconnect
