-- The risk level assessApproval of approvals/risk-policy gives a tool call: the base risk
-- of the tool, a batch of five or more messages made critical, then the profile's shift and
-- the floors of the largest transfer value found in the input. The batch floor is applied
-- to the base risk, before the advanced profile lowers it by one level.
import TonAgentBot.Js.Json
import TonAgentBot.Updates.Route

namespace ton_agent_bot.approvals

open js updates

/-! ## Numbers found in a tool input -/

/-- A number found under an object property: the property's key and path, lowercased. -/
structure NumberCandidate where
  key : List UInt16
  path : List UInt16
  value : ℚ

def VALUE_HINTS : List (List UInt16) := ["amount", "value", "ton", "coins", "send"].map utf16

def GAS_HINTS : List (List UInt16) :=
  ["gas", "fee", "fwd_fee", "forward_fee", "storage_fee"].map utf16

/-- `parseNumberish`: a number, or a string whose trimmed text is a finite number. -/
def parseNumberish : JsValue → Option ℚ
  | .num n => some n
  | .str s => if 0 < (trim s).length then stringToNumber (trim s) else none
  | _ => none

mutual
/-- `walkNumericCandidates(value, path)`: the numbers under the object properties of
`value` at every depth, in the order the walk pushes them. -/
def walkNumericCandidates : JsValue → List UInt16 → List NumberCandidate
  | .arr items, path => walkItems items path 0
  | .obj entries, path => walkEntries entries path
  | _, _ => []

def walkItems : List JsValue → List UInt16 → Nat → List NumberCandidate
  | [], _, _ => []
  | v :: vs, path, index =>
    walkNumericCandidates v (path ++ utf16 ("[" ++ toString index ++ "]")) ++
      walkItems vs path (index + 1)

def walkEntries : List (List UInt16 × JsValue) → List UInt16 → List NumberCandidate
  | [], _ => []
  | (entryKey, entryValue) :: es, path =>
    let nextPath := if 0 < path.length then path ++ utf16 "." ++ entryKey else entryKey
    ((parseNumberish entryValue).map fun n =>
        (⟨toLowerCase entryKey, toLowerCase nextPath, n⟩ : NumberCandidate)).toList ++
      walkNumericCandidates entryValue nextPath ++ walkEntries es path
end

/-- `toTonValue`: a value under a `nano` key or path is in nanotons. -/
def toTonValue (candidate : NumberCandidate) : ℚ :=
  if includes candidate.key (utf16 "nano") || includes candidate.path (utf16 "nano") ||
      includes candidate.path (utf16 "nanoton") then candidate.value / 1000000000
  else candidate.value

/-- A candidate whose key or path holds one of the hints. -/
def matchesHint (hints : List (List UInt16)) (candidate : NumberCandidate) : Bool :=
  hints.any fun hint => includes candidate.key hint || includes candidate.path hint

/-- `pickEstimate`: the first of the matching candidates' non-negative values sorted from
the largest, that is the largest of them. -/
def pickEstimate (candidates : List NumberCandidate) (hints : List (List UInt16)) : Option ℚ :=
  let matching := candidates.filter (matchesHint hints)
  if matching.length = 0 then none
  else ((matching.map toTonValue).filter fun value => 0 ≤ value).max?

/-! ## The risk level -/

/-- The own properties of `BASE_RISK_BY_TOOL`. -/
def BASE_RISK_BY_TOOL : List (String × ApprovalRiskLevel) :=
  [("tonSendBlockchainMessage", .high), ("tonSendBlockchainMessageBatch", .critical),
    ("tonBuildAndSendExternalMessage", .high), ("tonTonConnectProof", .medium)]

/-- The properties the object literal `BASE_RISK_BY_TOOL` inherits from `Object.prototype`. -/
def OBJECT_PROTOTYPE_KEYS : List String :=
  ["constructor", "hasOwnProperty", "isPrototypeOf", "propertyIsEnumerable", "toLocaleString",
    "toString", "valueOf", "__defineGetter__", "__defineSetter__", "__lookupGetter__",
    "__lookupSetter__", "__proto__"]

/-- `BASE_RISK_BY_TOOL[toolName] ?? "medium"`: `none` for a name of `Object.prototype`,
whose property is a function or an object and no level. -/
def baseRiskOf (toolName : String) : Option ApprovalRiskLevel :=
  match BASE_RISK_BY_TOOL.lookup toolName with
  | some level => some level
  | none => if toolName ∈ OBJECT_PROTOTYPE_KEYS then none else some .medium

def riskToScore : ApprovalRiskLevel → Nat
  | .low => 0
  | .medium => 1
  | .high => 2
  | .critical => 3

/-- `scoreToRisk`; `none` is `NaN`, which fails every test and is critical. -/
def scoreToRisk : Option Nat → ApprovalRiskLevel
  | some 0 => .low
  | some 1 => .medium
  | some 2 => .high
  | _ => .critical

/-- `applyRiskProfileAdjustment`. The score of a base risk that is no level is `undefined`,
and `NaN` after any arithmetic: `none` throughout. -/
def applyRiskProfileAdjustment (baseRisk : Option ApprovalRiskLevel) (profile : RiskProfile)
    (valueTon : Option ℚ) : ApprovalRiskLevel :=
  let score := baseRisk.map riskToScore
  let score := match profile with
    | .cautious => score.map (· + 1)
    | .advanced => score.map fun s => if 0 < s then s - 1 else s
    | .balanced => score
  let v := valueTon.getD 0
  let score := if 100 ≤ v then score.map (max · 3) else if 10 ≤ v then score.map (max · 2)
    else if 1 ≤ v then score.map (max · 1) else score
  scoreToRisk (score.map fun s => min 3 (max 0 s))

/-- `inferBatchItemCount`: the length of `input.messages ?? input.transfers` when that is
an array. -/
def inferBatchItemCount (input : JsValue) : Nat :=
  let entries := match input.get? (utf16 "messages") with
    | none | some .null => input.get? (utf16 "transfers")
    | some v => some v
  match entries with
  | some (.arr items) => items.length
  | _ => 0

inductive ApprovalEstimateConfidence
  | high
  | medium
  | low
  deriving DecidableEq, Repr

/-- What `assessApproval` returns, but for its reasons, texts only the details card reads. -/
structure ApprovalAssessment where
  level : ApprovalRiskLevel
  valueTon : Option ℚ
  gasTon : Option ℚ
  confidence : ApprovalEstimateConfidence

def assessApproval (toolName : String) (toolInput : JsValue) (riskProfile : RiskProfile) :
    ApprovalAssessment :=
  let numericCandidates := walkNumericCandidates toolInput []
  let valueTon := pickEstimate numericCandidates VALUE_HINTS
  let gasTon := some ((pickEstimate numericCandidates GAS_HINTS).getD
    (if toolName = "tonSendBlockchainMessageBatch" then 0.05 else 0.02))
  let batchCount := inferBatchItemCount toolInput
  let baseRisk := if 5 ≤ batchCount then some .critical else baseRiskOf toolName
  { level := applyRiskProfileAdjustment baseRisk riskProfile valueTon
    valueTon := valueTon
    gasTon := gasTon
    confidence := if valueTon.isSome ∧ gasTon.isSome then .high
      else if valueTon.isSome ∨ gasTon.isSome then .medium else .low }

/-! ## What the level is -/

section
variable {candidates : List NumberCandidate} {hints : List (List UInt16)} {v : ℚ}

theorem max?_eq_some_iff {xs : List ℚ} : xs.max? = some v ↔ v ∈ xs ∧ ∀ w ∈ xs, w ≤ v :=
  @List.max?_eq_some_iff ℚ v _ _ ⟨le_antisymm⟩ le_refl max_choice
    (fun _ _ _ => max_le_iff) xs

theorem pickEstimate_eq_some :
    pickEstimate candidates hints = some v ↔
      (∃ c ∈ candidates, matchesHint hints c ∧ toTonValue c = v) ∧ 0 ≤ v ∧
        ∀ c ∈ candidates, matchesHint hints c → 0 ≤ toTonValue c → toTonValue c ≤ v := by
  unfold pickEstimate
  dsimp only
  split_ifs with h
  · rw [List.length_eq_zero, List.filter_eq_nil_iff] at h
    simp only [reduceCtorEq, false_iff, not_and]
    rintro ⟨c, hc, hm, -⟩
    exact absurd hm (by simpa using h c hc)
  · simp only [max?_eq_some_iff, List.mem_filter, List.mem_map, decide_eq_true_eq]
    constructor
    · rintro ⟨⟨⟨c, ⟨hc, hm⟩, rfl⟩, hv⟩, hmax⟩
      exact ⟨⟨c, hc, hm, rfl⟩, hv, fun c' hc' hm' hv' => hmax _ ⟨⟨c', ⟨hc', hm'⟩, rfl⟩, hv'⟩⟩
    · rintro ⟨⟨c, hc, hm, rfl⟩, hv, hmax⟩
      refine ⟨⟨⟨c, ⟨hc, hm⟩, rfl⟩, hv⟩, ?_⟩
      rintro _ ⟨⟨c', ⟨hc', hm'⟩, rfl⟩, hv'⟩
      exact hmax c' hc' hm' hv'

end

/-- The score the value floors of `applyRiskProfileAdjustment` raise the level to. -/
def valueFloor (v : ℚ) : Nat :=
  if 100 ≤ v then 3 else if 10 ≤ v then 2 else if 1 ≤ v then 1 else 0

@[simp] theorem riskToScore_scoreToRisk (n : Nat) : riskToScore (scoreToRisk (some n)) = min n 3 := by
  match n with
  | 0 | 1 | 2 => rfl
  | n + 3 => simp [scoreToRisk, riskToScore]

@[simp] theorem scoreToRisk_none : scoreToRisk none = .critical := rfl

theorem valueFloor_le_level (baseRisk : Option ApprovalRiskLevel) (profile : RiskProfile)
    (valueTon : Option ℚ) :
    valueFloor (valueTon.getD 0) ≤
      riskToScore (applyRiskProfileAdjustment baseRisk profile valueTon) := by
  rcases baseRisk with _ | l <;> cases profile <;>
    simp only [applyRiskProfileAdjustment, valueFloor, Option.map_some', Option.map_none',
      ite_self] <;> split_ifs <;>
    simp only [Option.map_some', scoreToRisk_none, riskToScore_scoreToRisk, riskToScore.eq_4] <;> omega

theorem applyRiskProfileAdjustment_critical (profile : RiskProfile) (valueTon : Option ℚ) :
    applyRiskProfileAdjustment (some .critical) profile valueTon =
      if profile = .advanced ∧ valueTon.getD 0 < 100 then .high else .critical := by
  by_cases hv : 100 ≤ valueTon.getD 0
  · have hlt : ¬ valueTon.getD 0 < 100 := not_lt.mpr hv
    cases profile <;> simp only [applyRiskProfileAdjustment, if_pos hv, hlt, and_false,
      if_false] <;> decide
  · have hlt : valueTon.getD 0 < 100 := not_le.mp hv
    cases profile <;> simp only [applyRiskProfileAdjustment, if_neg hv, hlt, and_true,
      if_true, reduceCtorEq, if_false] <;> split_ifs <;> decide

theorem floors_of_valueFloor {v : ℚ} {level : ApprovalRiskLevel}
    (h : valueFloor v ≤ riskToScore level) :
    (100 ≤ v → level = .critical) ∧ (10 ≤ v → 2 ≤ riskToScore level) ∧
      (1 ≤ v → 1 ≤ riskToScore level) := by
  unfold valueFloor at h
  refine ⟨fun h100 => ?_, fun h10 => ?_, fun h1 => ?_⟩
  · rw [if_pos h100] at h
    cases level <;> simp_all [riskToScore]
  all_goals split_ifs at h <;> omega

theorem assessApproval_level (toolName : String) (toolInput : JsValue) (riskProfile : RiskProfile) :
    (assessApproval toolName toolInput riskProfile).level =
      applyRiskProfileAdjustment
        (if 5 ≤ inferBatchItemCount toolInput then some .critical else baseRiskOf toolName)
        riskProfile (assessApproval toolName toolInput riskProfile).valueTon := rfl

/-- The level law of `assessApproval`, over every tool name, input and profile. The value is
the largest non-negative value in TON under a key or path holding a value hint; a value of
100 makes the level critical, of 10 at least high and of 1 at least medium. A batch of five
or more is critical, but under the advanced profile, which lowers it to high unless the
value is 100 or more. -/
theorem assessApproval_level_law (toolName : String) (toolInput : JsValue)
    (riskProfile : RiskProfile) :
    (∀ v, (assessApproval toolName toolInput riskProfile).valueTon = some v ↔
      (∃ c ∈ walkNumericCandidates toolInput [], matchesHint VALUE_HINTS c ∧ toTonValue c = v) ∧
        0 ≤ v ∧ ∀ c ∈ walkNumericCandidates toolInput [], matchesHint VALUE_HINTS c →
          0 ≤ toTonValue c → toTonValue c ≤ v) ∧
    (∀ v, (assessApproval toolName toolInput riskProfile).valueTon = some v →
      (100 ≤ v → (assessApproval toolName toolInput riskProfile).level = .critical) ∧
      (10 ≤ v → 2 ≤ riskToScore (assessApproval toolName toolInput riskProfile).level) ∧
      (1 ≤ v → 1 ≤ riskToScore (assessApproval toolName toolInput riskProfile).level)) ∧
    (5 ≤ inferBatchItemCount toolInput →
      (assessApproval toolName toolInput riskProfile).level =
        if riskProfile = .advanced ∧
            (assessApproval toolName toolInput riskProfile).valueTon.getD 0 < 100
        then .high else .critical) := by
  refine ⟨fun _ => pickEstimate_eq_some, fun v hv => ?_, fun hb => ?_⟩
  · rw [assessApproval_level, hv]
    exact floors_of_valueFloor (valueFloor_le_level _ riskProfile (some v))
  · rw [assessApproval_level, if_pos hb]
    exact applyRiskProfileAdjustment_critical _ _

def fiveMessageBatch : JsValue := .obj [(utf16 "messages", .arr (List.replicate 5 (.obj [])))]

theorem cautious_batch_is_critical :
    5 ≤ inferBatchItemCount fiveMessageBatch ∧
      (assessApproval "tonSendBlockchainMessage" fiveMessageBatch .cautious).level = .critical :=
  ⟨by decide, by rw [(assessApproval_level_law _ _ _).2.2 (by decide)]; decide⟩

theorem advanced_large_batch_is_high :
    inferBatchItemCount fiveMessageBatch = 5 ∧
      (assessApproval "tonSendBlockchainMessageBatch" fiveMessageBatch .advanced).level = .high ∧
      (assessApproval "tonSendBlockchainMessageBatch" fiveMessageBatch .balanced).level =
        .critical := by
  decide

end ton_agent_bot.approvals
