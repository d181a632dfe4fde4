-- The policy wrapper of agent/tool-policy.ts: the TON tools a turn gets, filtered by chat
-- type, with their approval flags, and each execute wrapped in a 20 s timeout and a 30 s
-- cache of results. The cache is one map for the whole process, keyed by the tool's name
-- and the input's JSON, so it knows neither the network nor the API key of the tool set
-- that filled it; and its `cacheable` test leaves out only the critical-write and the
-- advanced-compute tools, so two tools that are not read-only are cached as well. Wrapped
-- executes of any tool sets run at once, each a start and an end with other steps between.
import TonAgentBot.Run

namespace ton_agent_bot.tool_policy

/-! ## The tool lists and the tool set -/

def EXECUTE_TIMEOUT_MS : Nat := 20000
def READ_CACHE_TTL_MS : Nat := 30000

def CRITICAL_WRITE_TOOLS : List String :=
  ["tonSendBlockchainMessage", "tonSendBlockchainMessageBatch", "tonBuildAndSendExternalMessage"]

def SECRET_DISABLED_TOOLS : List String :=
  ["tonGenerateWalletMnemonic", "tonMnemonicToWalletKeys", "tonSignData", "tonSafeSignCellBoc"]

def ADVANCED_COMPUTE_TOOLS : List String :=
  ["tonBuildCellBoc", "tonSliceRunOperations", "tonParseCellTree", "tonDecodeMessageBoc",
    "tonDecodeTransactionBoc", "tonDecodeStateInitBoc", "tonDecodeMessageApi",
    "tonEmulateMessageToEvent", "tonEmulateMessageToTrace", "tonEmulateMessageToWallet",
    "tonEmulateMessageToAccountEvent"]

def NON_READONLY_TOOLS : List String :=
  CRITICAL_WRITE_TOOLS ++ ["tonBuildExternalMessageBoc", "tonBuildCellBoc",
    "tonSliceRunOperations", "tonParseCellTree", "tonTonConnectProof"] ++ SECRET_DISABLED_TOOLS

inductive TonNetwork
  | mainnet
  | testnet
  deriving DecidableEq, Repr

inductive ChatType
  | «private»
  | group
  | supergroup
  | channel
  deriving DecidableEq, Repr

/-- The input of buildPolicyWrappedTonTools. -/
structure ToolSetInput where
  apiKey : String
  network : TonNetwork
  chatType : ChatType
  deriving DecidableEq, Repr

/-- The `needsApproval` a policy tool carries: the library's own, `true`, or
`shouldForceApprovalForAdvancedTool` of the input. -/
inductive NeedsApproval
  | library
  | always
  | largeInput
  deriving DecidableEq, Repr

/-- `setNeedsApproval` (lines 102-119). -/
def setNeedsApproval (toolName : String) : NeedsApproval :=
  if toolName ∈ CRITICAL_WRITE_TOOLS ∨ toolName = "tonTonConnectProof" then .always
  else if toolName ∈ ADVANCED_COMPUTE_TOOLS then .largeInput
  else .library

/-- The `cacheable` of buildPolicyWrappedTonTools (line 150). -/
def cacheable (name : String) : Bool :=
  !decide (name ∈ CRITICAL_WRITE_TOOLS) && !decide (name ∈ ADVANCED_COMPUTE_TOOLS)

/-- A tool of a policy tool set: its name, the library tool whose execute it runs, its
approval flag, and whether its wrapped execute uses the cache. -/
structure PolicyTool where
  name : String
  source : String
  needsApproval : NeedsApproval
  cacheable : Bool
  deriving DecidableEq, Repr

/-- The entries of `rawTools` (lines 126-138), each a name and the library tool whose
execute it runs, for the library's tool names `catalog`. Where the library has
`tonGetAccountDomains`, `tonFindAddressDnsItems` runs its execute: set on the object, it
takes the place of a tool of that name, or comes last. -/
def rawToolEntries (catalog : List String) : List (String × String) :=
  if "tonGetAccountDomains" ∈ catalog then
    if "tonFindAddressDnsItems" ∈ catalog then
      catalog.map fun n =>
        if n = "tonFindAddressDnsItems" then (n, "tonGetAccountDomains") else (n, n)
    else catalog.map (fun n => (n, n)) ++ [("tonFindAddressDnsItems", "tonGetAccountDomains")]
  else catalog.map fun n => (n, n)

/-- `buildPolicyWrappedTonTools` (lines 121-162): the secret tools dropped, and outside a
private chat the tools that are not read-only. -/
def buildPolicyWrappedTonTools (input : ToolSetInput) (catalog : List String) :
    List PolicyTool :=
  (rawToolEntries catalog).filterMap fun (name, source) =>
    if name ∈ SECRET_DISABLED_TOOLS then none
    else if input.chatType ≠ .private ∧ name ∈ NON_READONLY_TOOLS then none
    else some ⟨name, source, setNeedsApproval name, cacheable name⟩

theorem cacheable_of_mem_build {input : ToolSetInput} {catalog : List String}
    {tool : PolicyTool} (h : tool ∈ buildPolicyWrappedTonTools input catalog) :
    tool.cacheable = cacheable tool.name := by
  obtain ⟨⟨name, source⟩, -, he⟩ := List.mem_filterMap.mp h
  dsimp only at he
  split_ifs at he
  cases he
  rfl

theorem mem_build_of_mem {input : ToolSetInput} {catalog : List String} {name : String}
    (h : name ∈ catalog) (hdns : name ≠ "tonFindAddressDnsItems")
    (hsecret : name ∉ SECRET_DISABLED_TOOLS)
    (hchat : input.chatType = .private ∨ name ∉ NON_READONLY_TOOLS) :
    ⟨name, name, setNeedsApproval name, cacheable name⟩ ∈
      buildPolicyWrappedTonTools input catalog := by
  have he : (name, name) ∈ rawToolEntries catalog := by
    unfold rawToolEntries
    split_ifs
    · exact List.mem_map.mpr ⟨name, h, by simp [hdns]⟩
    · exact List.mem_append_left _ (List.mem_map.mpr ⟨name, h, rfl⟩)
    · exact List.mem_map.mpr ⟨name, h, rfl⟩
  refine List.mem_filterMap.mpr ⟨(name, name), he, ?_⟩
  rcases hchat with hchat | hchat <;> simp [hsecret, hchat]

/-- Whatever tools the library gives and whatever the chat, a policy tool set has no secret
tool, outside a private chat no tool that is not read-only, and every critical-write tool
it has, and the TON Connect proof tool, always asks for approval. -/
theorem policy_tool_set_respects_lists (input : ToolSetInput) (catalog : List String) :
    ∀ tool ∈ buildPolicyWrappedTonTools input catalog,
      tool.name ∉ SECRET_DISABLED_TOOLS ∧
        (input.chatType ≠ .private → tool.name ∉ NON_READONLY_TOOLS) ∧
        (tool.name ∈ CRITICAL_WRITE_TOOLS ∨ tool.name = "tonTonConnectProof" →
          tool.needsApproval = .always) := by
  intro tool h
  obtain ⟨⟨name, source⟩, -, he⟩ := List.mem_filterMap.mp h
  dsimp only at he
  split_ifs at he with hs hn
  cases he
  exact ⟨hs, fun hc hm => hn ⟨hc, hm⟩, fun hw => by simp [setNeedsApproval, hw]⟩

def dnsAliasTool : PolicyTool := ⟨"tonFindAddressDnsItems", "tonGetAccountDomains", .library, true⟩

/-- In a group chat the DNS alias of a catalog with `tonGetAccountDomains` is in the tool
set, and the law holds of it. -/
theorem group_dns_alias_respects_lists :
    dnsAliasTool ∈ buildPolicyWrappedTonTools ⟨"key", .mainnet, .group⟩
        ["tonGetAccountDomains", "tonSendBlockchainMessage"] ∧
      dnsAliasTool.name ∉ SECRET_DISABLED_TOOLS ∧
        (ChatType.group ≠ .private → dnsAliasTool.name ∉ NON_READONLY_TOOLS) ∧
        (dnsAliasTool.name ∈ CRITICAL_WRITE_TOOLS ∨ dnsAliasTool.name = "tonTonConnectProof" →
          dnsAliasTool.needsApproval = .always) :=
  have hmem : dnsAliasTool ∈ buildPolicyWrappedTonTools ⟨"key", .mainnet, .group⟩
      ["tonGetAccountDomains", "tonSendBlockchainMessage"] := by decide
  ⟨hmem, policy_tool_set_respects_lists _ _ _ hmem⟩

/-! ## The cache and the wrapped executes -/

/-- A `readCache` entry. -/
structure CacheEntry where
  value : String
  expiresAt : Nat
  deriving DecidableEq, Repr

/-- `createCacheKey`; the input is its JSON text. -/
def createCacheKey (toolName input : String) : String := toolName ++ ":" ++ input

/-- Where a wrapped execute stands: its library execute running since `start`, or done. -/
inductive Call
  | idle
  | executing (toolSet : ToolSetInput) (tool : PolicyTool) (toolInput : String) (start : Nat)
  | returned
  | threw
  deriving DecidableEq, Repr

/-- An answer of a library execute: the tool set's network and key, the library tool, the
name it was called by, the input, the value, when the wrapped call began and when the
answer came. -/
structure Answer where
  network : TonNetwork
  apiKey : String
  source : String
  toolName : String
  toolInput : String
  value : String
  startedAt : Nat
  answeredAt : Nat
  deriving DecidableEq, Repr

/-- A value a wrapped execute returned, when, and whether from the cache. -/
structure Served where
  toolSet : ToolSetInput
  tool : PolicyTool
  toolInput : String
  value : String
  servedAt : Nat
  cached : Bool
  deriving DecidableEq, Repr

/-- The clock, the process's `readCache`, the wrapped calls, and the logs of what library
executes answered and what wrapped executes returned. -/
structure Sys where
  now : Nat
  readCache : String → Option CacheEntry
  procs : Nat → Call
  answers : List Answer
  served : List Served

def Sys.init : Sys := ⟨0, fun _ => none, fun _ => .idle, [], []⟩

def Sys.setProc (s : Sys) (p : Nat) (x : Call) : Sys :=
  { s with procs := fun q => if q = p then x else s.procs q }

@[simp] theorem Sys.setProc_now (s : Sys) (p : Nat) (x : Call) : (s.setProc p x).now = s.now := rfl
@[simp] theorem Sys.setProc_readCache (s : Sys) (p : Nat) (x : Call) :
    (s.setProc p x).readCache = s.readCache := rfl
@[simp] theorem Sys.setProc_answers (s : Sys) (p : Nat) (x : Call) :
    (s.setProc p x).answers = s.answers := rfl
@[simp] theorem Sys.setProc_served (s : Sys) (p : Nat) (x : Call) :
    (s.setProc p x).served = s.served := rfl
@[simp] theorem Sys.setProc_procs (s : Sys) (p q : Nat) (x : Call) :
    (s.setProc p x).procs q = if q = p then x else s.procs q := rfl

/-- The value the cache gives a call of `tool` on `toolInput`: a live entry of its key,
when the tool is cacheable. -/
def cachedValue (s : Sys) (tool : PolicyTool) (toolInput : String) : Option String :=
  if tool.cacheable then
    match s.readCache (createCacheKey tool.name toolInput) with
    | some cached => if s.now < cached.expiresAt then some cached.value else none
    | none => none
  else none

/-- The start of a wrapped execute (lines 76-89), call `p` of `tool` of a tool set on
`toolInput`: the cache's value is returned at once; else the library execute starts. -/
def wrapToolExecute (s : Sys) (p : Nat) (toolSet : ToolSetInput) (tool : PolicyTool)
    (toolInput : String) : Sys :=
  match cachedValue s tool toolInput with
  | some v => { s.setProc p .returned with
      served := s.served ++ [⟨toolSet, tool, toolInput, v, s.now, true⟩] }
  | none => s.setProc p (.executing toolSet tool toolInput s.now)

/-- The end of a wrapped execute (lines 86-98): the library execute answered `v` before the
timeout; a cacheable tool's answer is stored until `READ_CACHE_TTL_MS` after the call began. -/
def finishExecute (s : Sys) (p : Nat) (toolSet : ToolSetInput) (tool : PolicyTool)
    (toolInput : String) (start : Nat) (v : String) : Sys :=
  let key := createCacheKey tool.name toolInput
  { s.setProc p .returned with
    readCache := if tool.cacheable then
        fun k => if k = key then some ⟨v, start + READ_CACHE_TTL_MS⟩ else s.readCache k
      else s.readCache
    answers := s.answers ++
      [⟨toolSet.network, toolSet.apiKey, tool.source, tool.name, toolInput, v, start, s.now⟩]
    served := s.served ++ [⟨toolSet, tool, toolInput, v, s.now, false⟩] }

theorem finishExecute_readCache (s : Sys) (p : Nat) (toolSet : ToolSetInput)
    (tool : PolicyTool) (toolInput : String) (start : Nat) (v : String) (k : String) :
    (finishExecute s p toolSet tool toolInput start v).readCache k =
      if tool.cacheable ∧ k = createCacheKey tool.name toolInput then
        some ⟨v, start + READ_CACHE_TTL_MS⟩
      else s.readCache k := by
  unfold finishExecute
  by_cases hc : tool.cacheable <;> simp [hc]

inductive Action
  | call (p : Nat) (toolSet : ToolSetInput) (tool : PolicyTool) (toolInput : String)
  | answer (p : Nat) (value : Option String)
  | timeout (p : Nat)
  | tick
  deriving DecidableEq, Repr

/-- One step, for the library's tool names `catalog`: a turn calls a tool of its tool set;
a library execute answers (before the timer of `withTimeout` fires) or rejects; the timer
fires; the clock moves. -/
def step (catalog : List String) (s : Sys) : Action → Option Sys
  | .call p toolSet tool toolInput =>
    if s.procs p = .idle ∧ tool ∈ buildPolicyWrappedTonTools toolSet catalog then
      some (wrapToolExecute s p toolSet tool toolInput)
    else none
  | .answer p (some v) =>
    match s.procs p with
    | .executing toolSet tool toolInput start =>
      if s.now < start + EXECUTE_TIMEOUT_MS then
        some (finishExecute s p toolSet tool toolInput start v)
      else none
    | _ => none
  | .answer p none =>
    match s.procs p with
    | .executing .. => some (s.setProc p .threw)
    | _ => none
  | .timeout p =>
    match s.procs p with
    | .executing _ _ _ start =>
      if start + EXECUTE_TIMEOUT_MS ≤ s.now then some (s.setProc p .threw) else none
    | _ => none
  | .tick => some { s with now := s.now + 1 }

/-! ## A value of another network, and cached tools that are not read-only -/

def libraryTool (name : String) : PolicyTool :=
  ⟨name, name, setNeedsApproval name, cacheable name⟩

def callTwice (first second : ToolSetInput) (tool : PolicyTool) (toolInput value : String) :
    List Action :=
  [.call 0 first tool toolInput, .answer 0 (some value), .call 1 second tool toolInput]

theorem run_callTwice {first second : ToolSetInput} {tool : PolicyTool} (toolInput value : String)
    (h1 : tool ∈ buildPolicyWrappedTonTools first catalog)
    (h2 : tool ∈ buildPolicyWrappedTonTools second catalog) (hc : tool.cacheable = true) :
    (run (step catalog) Sys.init (callTwice first second tool toolInput value)).map
        (fun s => (s.served, s.answers)) =
      some ([⟨first, tool, toolInput, value, 0, false⟩,
          ⟨second, tool, toolInput, value, 0, true⟩],
        [⟨first.network, first.apiKey, tool.source, tool.name, toolInput, value, 0, 0⟩]) := by
  simp [callTwice, run, step, h1, h2, hc, wrapToolExecute, cachedValue, finishExecute, Sys.init,
    EXECUTE_TIMEOUT_MS, READ_CACHE_TTL_MS]

/-- For every library that has `tonGetAccountDomains` and `tonTonConnectProof`, every API
key, input and value: a testnet tool set is served from the cache a value that only a
mainnet execute answered; and `tonTonConnectProof`, which is not read-only, is served from
the cache. -/
theorem tool_cache_ignores_network_and_read_only (catalog : List String)
    (hdns : "tonGetAccountDomains" ∈ catalog) (hproof : "tonTonConnectProof" ∈ catalog)
    (apiKey toolInput value : String) :
    (∃ s, Reachable Sys.init (step catalog) s ∧ ∃ e ∈ s.served, e.cached = true ∧
        e.toolSet.network = .testnet ∧ ∀ a ∈ s.answers, a.network = .mainnet) ∧
      ∃ s, Reachable Sys.init (step catalog) s ∧ ∃ e ∈ s.served, e.cached = true ∧
        e.tool.name ∈ NON_READONLY_TOOLS := by
  have hmem : ∀ {name} network, name ∈ catalog → name ≠ "tonFindAddressDnsItems" →
      name ∉ SECRET_DISABLED_TOOLS →
      libraryTool name ∈ buildPolicyWrappedTonTools ⟨apiKey, network, .private⟩ catalog :=
    fun _ hn hdns' hs => mem_build_of_mem hn hdns' hs (.inl rfl)
  constructor
  · obtain ⟨s, hs, h⟩ := exists_reachable_of_run_view Sys.init (step catalog) _ _
      (run_callTwice toolInput value (hmem .mainnet hdns (by decide) (by decide))
        (hmem .testnet hdns (by decide) (by decide)) (by decide))
    simp only [Prod.mk.injEq] at h
    refine ⟨s, hs, _, h.1 ▸ List.mem_cons_of_mem _ (List.mem_singleton_self _), rfl, rfl, ?_⟩
    simp [h.2]
  · obtain ⟨s, hs, h⟩ := exists_reachable_of_run_view Sys.init (step catalog) _ _
      (run_callTwice toolInput value (hmem .mainnet hproof (by decide) (by decide))
        (hmem .mainnet hproof (by decide) (by decide)) (by decide))
    simp only [Prod.mk.injEq] at h
    exact ⟨s, hs, _, h.1 ▸ List.mem_cons_of_mem _ (List.mem_singleton_self _), rfl,
      show "tonTonConnectProof" ∈ NON_READONLY_TOOLS by decide⟩

def twoTools : List String := ["tonGetAccountDomains", "tonTonConnectProof"]

theorem two_tool_library_cache_leaks :
    (∃ s, Reachable Sys.init (step twoTools) s ∧ ∃ e ∈ s.served, e.cached = true ∧
        e.toolSet.network = .testnet ∧ ∀ a ∈ s.answers, a.network = .mainnet) ∧
      ∃ s, Reachable Sys.init (step twoTools) s ∧ ∃ e ∈ s.served, e.cached = true ∧
        e.tool.name ∈ NON_READONLY_TOOLS :=
  tool_cache_ignores_network_and_read_only twoTools (by decide) (by decide) "key" "\"EQa\"" "v"

/-! ## What the cache guarantees -/

/-- Some library execute answered `value`, for a call of the cache key `key`, no later than
`t` and less than `READ_CACHE_TTL_MS` before it. -/
def RecentAnswer (answers : List Answer) (key value : String) (t : Nat) : Prop :=
  ∃ a ∈ answers, createCacheKey a.toolName a.toolInput = key ∧ a.value = value ∧
    a.answeredAt ≤ t ∧ t < a.answeredAt + READ_CACHE_TTL_MS

theorem RecentAnswer.append {answers : List Answer} {key value : String} {t : Nat}
    (h : RecentAnswer answers key value t) (more : List Answer) :
    RecentAnswer (answers ++ more) key value t :=
  let ⟨a, ha, hk⟩ := h
  ⟨a, List.mem_append_left more ha, hk⟩

/-- Every answer came after its call began and no later than now, and every running call
began no later than now; every entry of the cache was answered for a call of its key,
begun `READ_CACHE_TTL_MS` before the entry expires; and every value served from the cache
came from a cacheable tool of its tool set and is a recent answer for its key. -/
structure Explained (catalog : List String) (s : Sys) : Prop where
  clock : ∀ a ∈ s.answers, a.startedAt ≤ a.answeredAt ∧ a.answeredAt ≤ s.now
  running : ∀ p toolSet tool toolInput start,
    s.procs p = .executing toolSet tool toolInput start → start ≤ s.now
  cache : ∀ k e, s.readCache k = some e → ∃ a ∈ s.answers,
    createCacheKey a.toolName a.toolInput = k ∧ a.value = e.value ∧
      e.expiresAt = a.startedAt + READ_CACHE_TTL_MS
  served : ∀ e ∈ s.served, e.cached = true →
    e.tool ∈ buildPolicyWrappedTonTools e.toolSet catalog ∧ e.tool.cacheable = true ∧
      RecentAnswer s.answers (createCacheKey e.tool.name e.toolInput) e.value e.servedAt

variable {catalog : List String} {s s' : Sys} {p : Nat}

theorem Explained.init : Explained catalog Sys.init :=
  ⟨by simp [Sys.init], fun _ _ _ _ _ h => (by cases h), fun _ _ h => (by cases h),
    by simp [Sys.init]⟩

theorem Explained.setProc (h : Explained catalog s) {x : Call}
    (hx : ∀ toolSet tool toolInput start, x = .executing toolSet tool toolInput start →
      start ≤ s.now) :
    Explained catalog (s.setProc p x) := by
  refine ⟨h.clock, fun q toolSet tool toolInput start hq => ?_, h.cache, h.served⟩
  simp only [Sys.setProc_procs] at hq
  split_ifs at hq
  · exact hx _ _ _ _ hq
  · exact h.running _ _ _ _ _ hq

theorem cachedValue_some {tool : PolicyTool} {toolInput v : String}
    (h : cachedValue s tool toolInput = some v) :
    tool.cacheable = true ∧ ∃ c, s.readCache (createCacheKey tool.name toolInput) = some c ∧
      s.now < c.expiresAt ∧ c.value = v := by
  unfold cachedValue at h
  split_ifs at h with hc
  split at h
  · rename_i c hk
    split_ifs at h with hlt
    cases h
    exact ⟨hc, c, hk, hlt, rfl⟩
  · cases h

theorem Explained.recent_of_cachedValue (h : Explained catalog s) {tool : PolicyTool}
    {toolInput v : String} (hv : cachedValue s tool toolInput = some v) :
    RecentAnswer s.answers (createCacheKey tool.name toolInput) v s.now := by
  obtain ⟨-, c, hk, hlt, rfl⟩ := cachedValue_some hv
  obtain ⟨a, ha, hkey, hval, hexp⟩ := h.cache _ c hk
  have ht := h.clock a ha
  exact ⟨a, ha, hkey, hval, ht.2, by omega⟩

theorem Explained.of_wrapToolExecute (h : Explained catalog s) {toolSet : ToolSetInput}
    {tool : PolicyTool} {toolInput : String}
    (hmem : tool ∈ buildPolicyWrappedTonTools toolSet catalog) :
    Explained catalog (wrapToolExecute s p toolSet tool toolInput) := by
  unfold wrapToolExecute
  split
  · rename_i v hv
    have h' := h.setProc (p := p) (x := .returned) (by simp)
    refine ⟨h'.clock, h'.running, h'.cache, fun e he hc => ?_⟩
    rcases List.mem_append.mp he with he | he
    · exact h.served e he hc
    · simp only [List.mem_singleton] at he
      subst he
      exact ⟨hmem, (cachedValue_some hv).1, h.recent_of_cachedValue hv⟩
  · exact h.setProc fun _ _ _ _ hx => by cases hx; rfl

theorem Explained.of_finishExecute (h : Explained catalog s) {toolSet : ToolSetInput}
    {tool : PolicyTool} {toolInput : String} {start : Nat} {v : String}
    (hp : s.procs p = .executing toolSet tool toolInput start) :
    Explained catalog (finishExecute s p toolSet tool toolInput start v) := by
  have hstart := h.running _ _ _ _ _ hp
  refine ⟨fun a ha => ?_, fun q _ _ _ _ hq => ?_, fun k e hk => ?_, fun e he hc => ?_⟩
  · rcases List.mem_append.mp ha with ha | ha
    · exact h.clock a ha
    · simp only [List.mem_singleton] at ha
      subst ha
      exact ⟨hstart, le_refl _⟩
  · simp only [finishExecute, Sys.setProc_procs] at hq
    split_ifs at hq
    exact h.running _ _ _ _ _ hq
  · rw [finishExecute_readCache] at hk
    split_ifs at hk with hkey
    · cases hk
      exact ⟨_, List.mem_append_right _ (List.mem_singleton_self _), hkey.2.symm, rfl, rfl⟩
    · obtain ⟨a, ha, hrest⟩ := h.cache k e hk
      exact ⟨a, List.mem_append_left _ ha, hrest⟩
  · simp only [finishExecute, List.mem_append, List.mem_singleton] at he
    rcases he with he | rfl
    · obtain ⟨hm, hc', hr⟩ := h.served e he hc
      exact ⟨hm, hc', hr.append _⟩
    · cases hc

theorem Explained.of_step (h : Explained catalog s) {a : Action}
    (hs : step catalog s a = some s') : Explained catalog s' := by
  cases a with
  | call q toolSet tool toolInput =>
    simp only [step] at hs
    split_ifs at hs with hg
    cases hs
    exact h.of_wrapToolExecute hg.2
  | answer q v =>
    cases v with
    | some v =>
      simp only [step] at hs
      split at hs
      · rename_i hq
        split_ifs at hs
        cases hs
        exact h.of_finishExecute hq
      · cases hs
    | none =>
      simp only [step] at hs
      split at hs
      · cases hs; exact h.setProc (by simp)
      · cases hs
  | timeout q =>
    simp only [step] at hs
    split at hs
    · split_ifs at hs
      cases hs
      exact h.setProc (by simp)
    · cases hs
  | tick =>
    cases hs
    exact ⟨fun a ha => (h.clock a ha).imp id (Nat.le_succ_of_le),
      fun _ _ _ _ _ hq => Nat.le_succ_of_le (h.running _ _ _ _ _ hq), h.cache, h.served⟩

/-- In every reachable state, a value a wrapped execute served from the cache is of a tool
neither critical-write nor advanced-compute, and some library execute answered it, for a
call of the same cache key, no later than it was served and less than
`READ_CACHE_TTL_MS` before: of whatever tool set, network and API key. -/
theorem cached_value_is_recent_answer (h : Reachable Sys.init (step catalog) s) {e : Served}
    (he : e ∈ s.served) (hc : e.cached = true) :
    e.tool.name ∉ CRITICAL_WRITE_TOOLS ∧ e.tool.name ∉ ADVANCED_COMPUTE_TOOLS ∧
      RecentAnswer s.answers (createCacheKey e.tool.name e.toolInput) e.value e.servedAt := by
  obtain ⟨hmem, hcache, hrecent⟩ :=
    (h.invariant (Explained catalog) .init fun _ _ _ hi hs => hi.of_step hs).served e he hc
  rw [cacheable_of_mem_build hmem, cacheable] at hcache
  simp only [Bool.and_eq_true, Bool.not_eq_true', decide_eq_false_iff_not] at hcache
  exact ⟨hcache.1, hcache.2, hrecent⟩

def crossNetworkRun : List Action :=
  callTwice ⟨"key", .mainnet, .private⟩ ⟨"key", .testnet, .private⟩
    (libraryTool "tonGetAccountDomains") "\"EQa\"" "v"

def crossNetworkState : Sys := (run (step twoTools) Sys.init crossNetworkRun).getD Sys.init

theorem crossNetworkState_reachable : Reachable Sys.init (step twoTools) crossNetworkState :=
  (reaches_of_run (step twoTools) crossNetworkRun (s := Sys.init) (t := crossNetworkState)
    rfl).reachable .init

/-- The testnet call's value, served from the cache, is the mainnet call's answer. -/
theorem cross_network_value_is_recent_answer :
    RecentAnswer crossNetworkState.answers (createCacheKey "tonGetAccountDomains" "\"EQa\"") "v"
      0 :=
  (cached_value_is_recent_answer crossNetworkState_reachable
    (e := ⟨⟨"key", .testnet, .private⟩, libraryTool "tonGetAccountDomains", "\"EQa\"", "v", 0,
      true⟩) (by decide) rfl).2.2

end ton_agent_bot.tool_policy
