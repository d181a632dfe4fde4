-- getEnv of config/env: the environment read through envSchema. Each variable goes through
-- its schema's preprocess, default and check, and every failure is reported under its
-- name. An environment that safeParse returns passes every check of envSchema, so the rate
-- limiter's windows read from it are in range; and every default passes its own check.
import Mathlib.Data.String.Basic
import TonAgentBot.Js.Json
import TonAgentBot.AgentTurn
import TonAgentBot.RateLimit

namespace ton_agent_bot.config

open js

/-! ## The schema -/

/-- The schema of one variable: `z.enum(values).default(d)`; the bot token's `regex`;
`z.string().min(1)`, with `.default(d)` or not; the helpers `optionalNonEmptyString`,
`booleanFromEnv.default(d)`, `csvStringListFromEnv` and `integerFromEnv`; and
`z.string().url()`. -/
inductive FieldSchema
  | enum (values : List String) (default : String)
  | botToken
  | nonEmptyString (default : Option String)
  | optionalNonEmptyString
  | booleanFromEnv (default : Bool)
  | csvStringListFromEnv
  | integerFromEnv (min max defaultValue : Int)
  | url
  deriving DecidableEq, Repr

/-- `envSchema`, in its order. -/
def ENV_SCHEMA : List (String × FieldSchema) :=
  [("NODE_ENV", .enum ["development", "test", "production"] "development"),
    ("TELEGRAM_BOT_TOKEN", .botToken),
    ("TELEGRAM_WEBHOOK_SECRET", .nonEmptyString none),
    ("BOT_RUN_MODE", .enum ["webhook", "polling"] "webhook"),
    ("TELEGRAM_POLLING_TIMEOUT_SECONDS", .integerFromEnv 1 50 10),
    ("TELEGRAM_POLLING_LIMIT", .integerFromEnv 1 100 100),
    ("BOT_ADMIN_TOKEN", .nonEmptyString none),
    ("TONAPI_API_KEY", .nonEmptyString none),
    ("OPENROUTER_API_KEY", .nonEmptyString none),
    ("AI_GATEWAY_API_KEY", .optionalNonEmptyString),
    ("AI_MODEL", .nonEmptyString (some "openai/gpt-5.2")),
    ("AI_GATEWAY_FALLBACK_MODEL", .optionalNonEmptyString),
    ("AI_TOPIC_MODEL", .nonEmptyString (some "openai/gpt-4o-mini")),
    ("POSTGRES_URL", .nonEmptyString none),
    ("REDIS_URL", .nonEmptyString none),
    ("KMS_KEY_ID", .nonEmptyString none),
    ("ENCRYPTION_MASTER_KEY", .nonEmptyString none),
    ("OTEL_EXPORTER_OTLP_ENDPOINT", .optionalNonEmptyString),
    ("TELEGRAM_ENABLE_STREAM_DRAFTS", .booleanFromEnv true),
    ("TOPIC_AUTOCREATE_ENABLED", .booleanFromEnv true),
    ("RATE_LIMIT_TRUSTED_USER_IDS", .csvStringListFromEnv),
    ("RATE_LIMIT_BURST_WINDOW_SECONDS", .integerFromEnv 1 300 3),
    ("RATE_LIMIT_MINUTE_WINDOW_SECONDS", .integerFromEnv 1 600 60),
    ("RATE_LIMIT_CHAT_MINUTE_MAX", .integerFromEnv 1 10000 200),
    ("RATE_LIMIT_FREE_BURST_MAX", .integerFromEnv 1 1000 3),
    ("RATE_LIMIT_FREE_MINUTE_MAX", .integerFromEnv 1 10000 10),
    ("RATE_LIMIT_FREE_DAILY_MAX", .integerFromEnv 1 1000000 300),
    ("RATE_LIMIT_TRUSTED_MULTIPLIER", .integerFromEnv 1 100 5),
    ("RATE_LIMIT_NOTICE_COOLDOWN_SECONDS", .integerFromEnv 1 600 20),
    ("APPROVAL_UX_V2_ENABLED", .booleanFromEnv true),
    ("PERSONALIZATION_UX_ENABLED", .booleanFromEnv true),
    ("MULTI_WALLET_ENABLED", .booleanFromEnv true),
    ("APP_BASE_URL", .url),
    ("TONCONNECT_MANIFEST_URL", .url)]

/-- A value as `preprocess` hands it on: `undefined`, a string, a boolean, an integer (what
`Math.trunc` gives for a finite number) or an array of strings. -/
inductive JsInput
  | undefined
  | str (s : String)
  | bool (b : Bool)
  | int (n : Int)
  | list (entries : List String)
  deriving DecidableEq, Repr

/-- What a field parses to; `absent` is an optional field left `undefined`. -/
inductive FieldValue
  | str (s : String)
  | absent
  | bool (b : Bool)
  | list (entries : List String)
  | int (n : Int)
  deriving DecidableEq, Repr

/-- The issues zod reports: a missing value, a value of the wrong type, a string or number
below or above its bound, a value outside its enum, a failed regex with its message, and
a string that is no URL. -/
inductive IssueCode
  | required
  | invalidType
  | tooSmall
  | tooBig
  | invalidEnum
  | regex (message : String)
  | invalidUrl
  deriving DecidableEq, Repr

/-- What the code reads of zod beyond the schema: its URL test, which is WHATWG URL
parsing, and the text it gives an issue of a field's schema at the value it received. -/
structure ZodLibrary where
  isUrl : String → Bool
  message : FieldSchema → Option String → IssueCode → String

/-! ## One field -/

/-- `/^\d{6,}:[^\s:]{20,}$/` over the code units of the token: six or more digits, a colon,
then twenty or more units that are neither whitespace nor a colon. -/
def botTokenRegex (s : List UInt16) : Bool :=
  let digits := s.takeWhile isDecimalDigit
  match s.drop digits.length with
  | 58 :: secret =>
    6 ≤ digits.length && 20 ≤ secret.length && secret.all fun u => !isWs u && u != 58
  | _ => false

def BOT_TOKEN_MESSAGE : String := "must look like a BotFather token (digits:secret)"

/-- `Math.trunc`. -/
def mathTrunc (q : ℚ) : Int := Int.tdiv q.num q.den

def TRUE_WORDS : List String := ["1", "true", "yes", "on"]

def FALSE_WORDS : List String := ["0", "false", "no", "off"]

/-- The `preprocess` of each helper on what `process.env` holds; the plain zod schemas hand
the string on as it is. -/
def preprocess : FieldSchema → Option String → JsInput
  | _, none => .undefined
  | .optionalNonEmptyString, some s =>
    if (agent.jsTrim s).length > 0 then .str (agent.jsTrim s) else .undefined
  | .booleanFromEnv _, some s =>
    let normalized := String.mk ((agent.jsTrim s).data.flatMap toLowerChars)
    if normalized ∈ TRUE_WORDS then .bool true
    else if normalized ∈ FALSE_WORDS then .bool false
    else .str s
  | .csvStringListFromEnv, some s =>
    .list (((s.splitOn ",").map agent.jsTrim).filter fun entry => entry.length > 0)
  | .integerFromEnv .., some s =>
    if (agent.jsTrim s).length = 0 then .undefined
    else match stringToNumber (utf16 (agent.jsTrim s)) with
      | some parsed => .int (mathTrunc parsed)
      | none => .str s
  | _, some s => .str s

/-- `.default(d)`, for the schemas that have one. -/
def defaultOf : FieldSchema → Option JsInput
  | .enum _ default => some (.str default)
  | .nonEmptyString default => default.map .str
  | .booleanFromEnv default => some (.bool default)
  | .csvStringListFromEnv => some (.list [])
  | .integerFromEnv _ _ defaultValue => some (.int defaultValue)
  | _ => none

/-- The default in place of `undefined`. -/
def applyDefault (schema : FieldSchema) : JsInput → JsInput
  | .undefined => (defaultOf schema).getD .undefined
  | input => input

/-- The inner schema of each field: `.optional()` lets `undefined` through, `min`, `max`,
`int`, `regex`, `url` and the enum check the rest. -/
def check (lib : ZodLibrary) : FieldSchema → JsInput → Except IssueCode FieldValue
  | .optionalNonEmptyString, .undefined => .ok .absent
  | .booleanFromEnv _, .undefined => .ok .absent
  | _, .undefined => .error .required
  | .enum values _, .str s => if s ∈ values then .ok (.str s) else .error .invalidEnum
  | .botToken, .str s =>
    if botTokenRegex (utf16 s) then .ok (.str s) else .error (.regex BOT_TOKEN_MESSAGE)
  | .nonEmptyString _, .str s => if s.length = 0 then .error .tooSmall else .ok (.str s)
  | .optionalNonEmptyString, .str s => if s.length = 0 then .error .tooSmall else .ok (.str s)
  | .booleanFromEnv _, .bool b => .ok (.bool b)
  | .csvStringListFromEnv, .list entries =>
    if entries.all (·.length > 0) then .ok (.list entries) else .error .tooSmall
  | .integerFromEnv min max _, .int n =>
    if n < min then .error .tooSmall else if max < n then .error .tooBig else .ok (.int n)
  | .url, .str s => if lib.isUrl s then .ok (.str s) else .error .invalidUrl
  | _, _ => .error .invalidType

/-- One variable through its schema. Zod 3 hands the default to the inner schema; zod 4
returns it unchecked, which is the same here as every default of envSchema passes. -/
def parseField (lib : ZodLibrary) (schema : FieldSchema) (value : Option String) :
    Except IssueCode FieldValue :=
  check lib schema (applyDefault schema (preprocess schema value))

/-! ## The object -/

/-- `process.env`: a string or `undefined` for each variable. -/
abbrev EnvSource := String → Option String

/-- The parsed environment: each field's name and value. -/
abbrev Values := List (String × FieldValue)

/-- An issue of `safeParse`: the path of its field, its code and its text. -/
structure Issue where
  path : String
  code : IssueCode
  message : String
  deriving DecidableEq, Repr

/-- The issue of a field at the value it received: a failed regex carries the schema's own
message, any other issue zod's. -/
def issueOf (lib : ZodLibrary) (field : String × FieldSchema) (value : Option String) :
    IssueCode → Issue
  | .regex message => ⟨field.1, .regex message, message⟩
  | code => ⟨field.1, code, lib.message field.2 value code⟩

def fieldIssue (lib : ZodLibrary) (env : EnvSource) (field : String × FieldSchema) :
    Option Issue :=
  match parseField lib field.2 (env field.1) with
  | .error code => some (issueOf lib field (env field.1) code)
  | .ok _ => none

def fieldValue (lib : ZodLibrary) (env : EnvSource) (field : String × FieldSchema) :
    Option (String × FieldValue) :=
  match parseField lib field.2 (env field.1) with
  | .ok value => some (field.1, value)
  | .error _ => none

/-- `schema.safeParse(env)` of a `z.object` schema: every field is parsed and the issues of
all that fail are reported, in the schema's order; with none, the value of every field.
Variables the schema does not name are dropped. -/
def safeParse (lib : ZodLibrary) (schema : List (String × FieldSchema)) (env : EnvSource) :
    Except (List Issue) Values :=
  match schema.filterMap (fieldIssue lib env) with
  | [] => .ok (schema.filterMap (fieldValue lib env))
  | issues => .error issues

/-- `${issue.path.join(".")}: ${issue.message}`. -/
def issueLine (issue : Issue) : String := issue.path ++ ": " ++ issue.message

/-- `getEnv` from the module's `cachedEnv`: the cached environment once one parsed;
otherwise the parse, cached when it succeeds, or the error it throws. -/
def getEnv (lib : ZodLibrary) (cachedEnv : Option Values) (env : EnvSource) :
    Except String Values × Option Values :=
  match cachedEnv with
  | some cached => (.ok cached, some cached)
  | none =>
    match safeParse lib ENV_SCHEMA env with
    | .ok values => (.ok values, some values)
    | .error issues =>
      (.error ("Invalid environment configuration: " ++
        "; ".intercalate (issues.map issueLine)), none)

/-! ## What a field lets through -/

/-- What the schema of a field lets through: a value of its kind that passes its checks.
The string of an optional field and the entries of a list are also trimmed, by the
preprocess. -/
def FieldOk (lib : ZodLibrary) : FieldSchema → FieldValue → Prop
  | .enum values _, .str s => s ∈ values
  | .botToken, .str s => botTokenRegex (utf16 s) = true
  | .nonEmptyString _, .str s => 0 < s.length
  | .optionalNonEmptyString, .absent => True
  | .optionalNonEmptyString, .str s => 0 < s.length ∧ agent.jsTrim s = s
  | .booleanFromEnv _, .bool _ => True
  | .csvStringListFromEnv, .list entries => ∀ e ∈ entries, 0 < e.length ∧ agent.jsTrim e = e
  | .integerFromEnv min max _, .int n => min ≤ n ∧ n ≤ max
  | .url, .str s => lib.isUrl s = true
  | _, _ => False

section
variable {lib : ZodLibrary}

theorem check_integerFromEnv {min max d n : Int} {v : FieldValue}
    (h : check lib (.integerFromEnv min max d) (.int n) = .ok v) :
    v = .int n ∧ min ≤ n ∧ n ≤ max := by
  simp only [check] at h
  split_ifs at h with h1 h2; cases h
  exact ⟨rfl, by omega, by omega⟩

theorem parseField_fieldOk {schema : FieldSchema} {value : Option String} {v : FieldValue}
    (h : parseField lib schema value = .ok v) : FieldOk lib schema v := by
  unfold parseField at h
  cases value with
  | none =>
    cases schema with
    | nonEmptyString d =>
      cases d with
      | none => cases h
      | some d =>
        simp only [preprocess, applyDefault, defaultOf, check, Option.map_some', Option.getD_some] at h
        split_ifs at h with h1; cases h; exact Nat.pos_of_ne_zero h1
    | integerFromEnv min max d => exact (check_integerFromEnv h).1 ▸ (check_integerFromEnv h).2
    | _ =>
      simp only [preprocess, applyDefault, defaultOf, check, Option.getD_some, Option.getD_none] at h
      (try split_ifs at h); cases h <;> simp_all [FieldOk]
  | some s =>
    cases schema with
    | optionalNonEmptyString =>
      simp only [preprocess] at h
      split_ifs at h with h1 <;> simp only [applyDefault, check] at h
      · split_ifs at h; cases h; exact ⟨h1, agent.jsTrim_jsTrim s⟩
      · cases h; trivial
    | booleanFromEnv d =>
      simp only [preprocess] at h
      split_ifs at h <;> simp only [applyDefault, check] at h <;> cases h <;> trivial
    | csvStringListFromEnv =>
      simp only [preprocess, applyDefault, check] at h
      split_ifs at h; cases h
      simp only [FieldOk, List.mem_filter, List.mem_map]
      rintro e ⟨⟨x, -, rfl⟩, he⟩
      exact ⟨by simpa using he, agent.jsTrim_jsTrim x⟩
    | integerFromEnv min max d =>
      simp only [preprocess] at h
      split_ifs at h
      · exact (check_integerFromEnv h).1 ▸ (check_integerFromEnv h).2
      · split at h <;> simp only [applyDefault] at h
        · exact (check_integerFromEnv h).1 ▸ (check_integerFromEnv h).2
        · simp [check] at h
    | _ =>
      simp only [preprocess, applyDefault, check] at h
      split_ifs at h with h1; cases h; simp_all [FieldOk, Nat.pos_iff_ne_zero]

/-- Every field of the schema pairs, in its order, with a value of its name that its schema
lets through. -/
def Valid (lib : ZodLibrary) (schema : List (String × FieldSchema)) (values : Values) : Prop :=
  schema.Forall₂ (fun field value => value.1 = field.1 ∧ FieldOk lib field.2 value.2) values

theorem fieldIssue_eq_none {env : EnvSource} {field : String × FieldSchema} :
    fieldIssue lib env field = none ↔ ∃ v, parseField lib field.2 (env field.1) = .ok v := by
  cases hp : parseField lib field.2 (env field.1) <;> simp [fieldIssue, hp]

theorem fieldIssue_eq_some {env : EnvSource} {field : String × FieldSchema} {issue : Issue} :
    fieldIssue lib env field = some issue ↔
      ∃ code, parseField lib field.2 (env field.1) = .error code ∧
        issue = issueOf lib field (env field.1) code := by
  cases hp : parseField lib field.2 (env field.1) <;> simp [fieldIssue, hp, eq_comm]

theorem valid_filterMap_fieldValue {env : EnvSource} :
    ∀ {schema : List (String × FieldSchema)}, schema.filterMap (fieldIssue lib env) = [] →
      Valid lib schema (schema.filterMap (fieldValue lib env))
  | [], _ => .nil
  | field :: schema, h => by
    rw [List.filterMap_cons] at h
    cases hi : fieldIssue lib env field with
    | some issue => simp [hi] at h
    | none =>
      obtain ⟨v, hv⟩ := fieldIssue_eq_none.mp hi
      rw [hi] at h
      rw [List.filterMap_cons, fieldValue, hv]
      exact .cons ⟨rfl, parseField_fieldOk hv⟩ (valid_filterMap_fieldValue h)

theorem safeParse_ok_valid {schema : List (String × FieldSchema)} {env : EnvSource}
    {values : Values} (h : safeParse lib schema env = .ok values) : Valid lib schema values := by
  unfold safeParse at h
  split at h
  · next hnone => cases h; exact valid_filterMap_fieldValue hnone
  · cases h

theorem safeParse_error_issues {schema : List (String × FieldSchema)} {env : EnvSource}
    {issues : List Issue} (h : safeParse lib schema env = .error issues) :
    issues ≠ [] ∧ ∀ issue, issue ∈ issues ↔ ∃ field ∈ schema, ∃ code,
      parseField lib field.2 (env field.1) = .error code ∧
        issue = issueOf lib field (env field.1) code := by
  unfold safeParse at h
  split at h
  · cases h
  · next hne =>
    cases h
    exact ⟨hne, fun issue => by simp only [List.mem_filterMap, fieldIssue_eq_some]⟩

/-! ## Defaults -/

theorem parseField_none_lib (lib' : ZodLibrary) (schema : FieldSchema) :
    parseField lib schema none = parseField lib' schema none := by
  cases schema with
  | nonEmptyString d => cases d <;> rfl
  | _ => rfl

theorem defaults_pass_checks : ∀ field ∈ ENV_SCHEMA, (defaultOf field.2).isSome = true →
    ∃ v, parseField lib field.2 none = .ok v := by
  intro field hf hd
  have hall : ∀ field ∈ ENV_SCHEMA, (defaultOf field.2).isSome = true →
      (parseField ⟨fun _ => false, fun _ _ _ => ""⟩ field.2 none).toBool = true := by decide
  rw [parseField_none_lib ⟨fun _ => false, fun _ _ _ => ""⟩]
  cases h : parseField ⟨fun _ => false, fun _ _ _ => ""⟩ field.2 none with
  | ok v => exact ⟨v, rfl⟩
  | error e => simpa [h, Except.toBool] using hall field hf hd

/-! ## The environment the code reads -/

/-- An environment getEnv returns: the value of every field of envSchema, passing its
schema. -/
def AppEnv (lib : ZodLibrary) : Type := { values : Values // Valid lib ENV_SCHEMA values }

def AppEnv.int (env : AppEnv lib) (name : String) : Int :=
  match env.1.lookup name with
  | some (.int n) => n
  | _ => 0

def AppEnv.str (env : AppEnv lib) (name : String) : String :=
  match env.1.lookup name with
  | some (.str s) => s
  | _ => ""

def AppEnv.optional (env : AppEnv lib) (name : String) : Option String :=
  match env.1.lookup name with
  | some (.str s) => some s
  | _ => none

def AppEnv.list (env : AppEnv lib) (name : String) : List String :=
  match env.1.lookup name with
  | some (.list entries) => entries
  | _ => []

theorem Valid.lookup {schema : List (String × FieldSchema)} {values : Values}
    (h : Valid lib schema values) {name : String} {f : FieldSchema}
    (hf : schema.lookup name = some f) :
    ∃ v, values.lookup name = some v ∧ FieldOk lib f v := by
  induction h with
  | nil => cases hf
  | @cons field value _ _ hv _ ih =>
    obtain ⟨n, sch⟩ := field
    obtain ⟨n', v⟩ := value
    obtain ⟨rfl, hok⟩ := hv
    simp only [List.lookup_cons] at hf ⊢
    cases hn : name == n' <;> simp only [hn, Option.some.injEq] at hf ⊢
    · exact ih hf
    · exact ⟨v, rfl, hf ▸ hok⟩

theorem AppEnv.int_bounds (env : AppEnv lib) {name : String} {min max d : Int}
    (h : ENV_SCHEMA.lookup name = some (.integerFromEnv min max d)) :
    min ≤ env.int name ∧ env.int name ≤ max := by
  obtain ⟨v, hv, hok⟩ := env.2.lookup h
  cases v <;> simp only [FieldOk] at hok
  simpa [AppEnv.int, hv] using hok

/-! ## What the rate limiter and the model attempts read -/

/-- `getRateLimitConfig` of security/encryption on the environment getEnv returned. Each
window is at least the schema's minimum of one second. -/
def getRateLimitConfig (env : AppEnv lib) : rate_limit.RateLimitConfig where
  burstWindowSeconds := (env.int "RATE_LIMIT_BURST_WINDOW_SECONDS").toNat
  minuteWindowSeconds := (env.int "RATE_LIMIT_MINUTE_WINDOW_SECONDS").toNat
  chatMinuteMax := (env.int "RATE_LIMIT_CHAT_MINUTE_MAX").toNat
  trustedUserIds := env.list "RATE_LIMIT_TRUSTED_USER_IDS"
  free := ⟨(env.int "RATE_LIMIT_FREE_BURST_MAX").toNat,
    (env.int "RATE_LIMIT_FREE_MINUTE_MAX").toNat, (env.int "RATE_LIMIT_FREE_DAILY_MAX").toNat⟩
  trustedMultiplier := (env.int "RATE_LIMIT_TRUSTED_MULTIPLIER").toNat
  burstWindow_pos := by
    have := (env.int_bounds (rfl : ENV_SCHEMA.lookup "RATE_LIMIT_BURST_WINDOW_SECONDS" = _)).1
    omega
  minuteWindow_pos := by
    have := (env.int_bounds (rfl : ENV_SCHEMA.lookup "RATE_LIMIT_MINUTE_WINDOW_SECONDS" = _)).1
    omega

/-- `buildAgentModelAttempts(requestedModelId)` on the environment getEnv returned: the
primary model `AI_MODEL`, and the gateway's key and fallback model. -/
def buildAgentModelAttemptsFromEnv (env : AppEnv lib) (requestedModelId : String) :
    List agent.AgentModelAttempt :=
  agent.buildAgentModelAttempts requestedModelId (env.str "AI_MODEL")
    (env.optional "AI_GATEWAY_API_KEY")
    (agent.resolveGatewayFallbackModelId
      (if (agent.jsTrim requestedModelId).length > 0 then agent.jsTrim requestedModelId
        else env.str "AI_MODEL")
      (env.optional "AI_GATEWAY_FALLBACK_MODEL"))

end

end ton_agent_bot.config
