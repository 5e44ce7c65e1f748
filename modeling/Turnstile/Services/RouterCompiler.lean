import Mathlib.Data.List.Sort
import Turnstile.Domain.ModelRouterV3

/-!
# Compilation of router specifications

The compiler collects the issues of a specification against the registries.  When there
is none, the plan has the specification in a normal form, and next to it the registered
facts of its candidates.
-/

namespace Turnstile

/-- What `ModelRouterV3Compiler.compile` raises: its issues, or the `ValidationError` of
a part of the plan. -/
inductive RouterCompilationError where
  | issues (issues : List RouterCompilationIssue)
  | validation
deriving DecidableEq, Repr

namespace ModelRouterV3Compiler

/-! ## Issues -/

/-- The hexadecimal digits of an identifier, in groups. -/
def uuidText (id : UUID) : String :=
  let digits := Nat.toDigits 16 id
  let padded := List.replicate (32 - digits.length) '0' ++ digits
  String.ofList (padded.take 8 ++ '-' :: (padded.drop 8).take 4 ++ '-' :: (padded.drop 12).take 4 ++
    '-' :: (padded.drop 16).take 4 ++ '-' :: padded.drop 20)

/-- `_issue`, if there is cause for it. -/
def issueIf (cause : Prop) [Decidable cause] (code path message : String) :
    List RouterCompilationIssue :=
  if cause then [⟨code, path, message⟩] else []

@[simp] theorem issueIf_eq_nil {cause : Prop} [Decidable cause] {code path message : String} :
    issueIf cause code path message = [] ↔ ¬cause := by
  simp [issueIf]

/-- `_require_unique`. -/
def requireUnique {α : Type} [DecidableEq α] (values : List α) (code path : String) :
    List RouterCompilationIssue :=
  issueIf (¬values.Nodup) code path s!"{path} cannot contain duplicates"

/-- `_require_exact_candidates`. -/
def requireExactCandidates (values candidates : List UUID) (path : String) :
    List RouterCompilationIssue :=
  requireUnique values "selector_model_duplicate" path ++
    issueIf (¬(values ⊆ candidates ∧ candidates ⊆ values)) "selector_candidates_mismatch" path
      "Selector must configure every candidate exactly once"

/-- `_require_subset_candidates`. -/
def requireSubsetCandidates (values candidates : List UUID) (path : String) :
    List RouterCompilationIssue :=
  requireUnique values "selector_model_duplicate" path ++
    issueIf (¬values ⊆ candidates) "selector_model_outside_pool" path
      "Selector or fallback references a model outside the candidate pool"

/-- `_require_candidate`. -/
def requireCandidate (candidates : List UUID) (path : String) (modelId : UUID) :
    List RouterCompilationIssue :=
  issueIf (modelId ∉ candidates) "rule_action_model_outside_pool" s!"{path}.action"
    "Rule action references a model outside the candidate pool"

/-- A profile is registered under a reference, and enabled; every kind is `qos`. -/
def ProfileAvailable (registries : RouterRegistries) (reference : RouterProfileRefV3) : Prop :=
  ∃ profile ∈ registries.profileRegistry reference.id reference.version,
    profile.id = reference.id ∧ profile.version = reference.version ∧ profile.enabled = true

instance (registries : RouterRegistries) (reference : RouterProfileRefV3) :
    Decidable (ProfileAvailable registries reference) :=
  inferInstanceAs (Decidable (∃ _ ∈ _, _))

/-- `_require_profile`. -/
def requireProfile (registries : RouterRegistries) (reference : RouterProfileRefV3)
    (path : String) :
    List RouterCompilationIssue :=
  issueIf (¬ProfileAvailable registries reference) "profile_unavailable" path
    s!"Enabled qos profile {uuidText reference.id} version {reference.version} is required"

/-! ## The context -/

section

variable (registries : RouterRegistries) (spec : RouterSpecV3)

/-- The issues of a context field. -/
def contextFieldIssues (index : ℕ) (field : RouterInputFieldV3) : List RouterCompilationIssue :=
  let path := s!"input_contract.{index}"
  match (registries.contextRegistry field.name field.registryVersion).filter (·.enabled) with
  | none => [⟨"context_field_unregistered", path,
      s!"Context field {field.name} is not enabled in the registry"⟩]
  | some registration =>
      issueIf (registration.name ≠ field.name ∨ registration.version ≠ field.registryVersion ∨
          field.valueType ≠ registration.valueType ∨ field.source ≠ registration.source)
        "context_field_contract_mismatch" path
        s!"Context field {field.name} does not match its registered type and source"

/-- `_validate_context`. -/
def validateContext : List RouterCompilationIssue :=
  requireUnique (spec.inputContract.map (·.name)) "context_field_duplicate" "input_contract" ++
    (spec.inputContract.mapIdx (contextFieldIssues registries)).flatten

/-! ## Candidates -/

/-- The facts of a candidate that the catalog has under its own reference. -/
def candidateFacts (reference : RouterModelRefV3) : Option RouterModelFactsV1 :=
  (registries.modelCatalog reference.modelId reference.factsVersion).filter (·.enabled)

/-- The issues of a candidate with its facts. -/
def factsIssues (path : String) (modelId : UUID) (facts : RouterModelFactsV1) :
    List RouterCompilationIssue :=
  requireUnique facts.supportedOperations "candidate_operation_duplicate"
    s!"{path}.supported_operations" ++
  requireUnique facts.capabilities "candidate_capability_duplicate" s!"{path}.capabilities" ++
  issueIf (¬spec.identity.supportedOperations ⊆ facts.supportedOperations)
    "candidate_operation_unsupported" path
    s!"Candidate {uuidText modelId} does not support every Router operation" ++
  issueIf (¬spec.eligibility.requiredCapabilities ⊆ facts.capabilities)
    "candidate_capability_missing" path
    s!"Candidate {uuidText modelId} lacks a required capability" ++
  issueIf (∃ minimum ∈ spec.eligibility.minimumContextWindow,
      ¬∃ window ∈ facts.contextWindow, minimum ≤ window)
    "candidate_context_too_small" path
    s!"Candidate {uuidText modelId} does not meet the context-window floor" ++
  issueIf (spec.eligibility.allowedProviderIds ≠ [] ∧
      facts.providerId ∉ spec.eligibility.allowedProviderIds)
    "candidate_provider_disallowed" path
    s!"Candidate {uuidText modelId} is outside the allowed provider set" ++
  issueIf (spec.eligibility.allowedDataZones ≠ [] ∧
      facts.dataZone ∉ spec.eligibility.allowedDataZones)
    "candidate_data_zone_disallowed" path
    s!"Candidate {uuidText modelId} is outside the allowed data zones"

/-- The facts carry the reference they are registered under. -/
def HasReference (facts : RouterModelFactsV1) (reference : RouterModelRefV3) : Prop :=
  facts.modelId = reference.modelId ∧ facts.factsVersion = reference.factsVersion

instance (facts : RouterModelFactsV1) (reference : RouterModelRefV3) :
    Decidable (HasReference facts reference) :=
  inferInstanceAs (Decidable (_ ∧ _))

/-- The issues of a candidate. -/
def candidateIssues (index : ℕ) (candidate : RouterModelRefV3) : List RouterCompilationIssue :=
  let path := s!"candidate_pool.candidates.{index}"
  match candidateFacts registries candidate with
  | none => [⟨"candidate_unavailable", path,
      s!"Candidate {uuidText candidate.modelId} is absent or disabled"⟩]
  | some facts =>
      if HasReference facts candidate then factsIssues spec path candidate.modelId facts
      else [⟨"candidate_catalog_identity_mismatch", path,
        s!"Candidate catalog entry {uuidText candidate.modelId} carries another model identity"⟩]

/-- The logical models of the candidates that are found. -/
def logicalModels : List String :=
  spec.candidates.filterMap fun candidate =>
    ((candidateFacts registries candidate).filter fun facts => HasReference facts candidate).map
      (·.logicalModelKey)

/-- `_validate_candidates`. -/
def validateCandidates : List RouterCompilationIssue :=
  requireUnique spec.eligibility.requiredCapabilities "eligibility_capability_duplicate"
    "eligibility.required_capabilities" ++
  requireUnique spec.eligibility.allowedProviderIds "eligibility_provider_duplicate"
    "eligibility.allowed_provider_ids" ++
  requireUnique spec.eligibility.allowedDataZones "eligibility_data_zone_duplicate"
    "eligibility.allowed_data_zones" ++
  (spec.candidates.mapIdx (candidateIssues registries spec)).flatten ++
  issueIf (¬(logicalModels registries spec).Nodup) "candidate_logical_model_duplicate"
    "candidate_pool.candidates"
    ("Equivalent deployments of one logical model belong in an APIM pool, " ++
      "not the Router candidate pool")

/-! ## Rules -/

/-- `_value_matches`. -/
def valueMatches : RouterContextValueType → RouterScalar → Bool
  | .string, .string _ => true
  | .boolean, .boolean _ => true
  | .integer, .integer _ => true
  | .number, .integer _ => true
  | .number, .float _ => true
  | _, _ => false

/-- The value of a predicate suits its operator and the type of its field. -/
def predicateValid (valueType : RouterContextValueType) (predicate : RouterPredicateV3) : Bool :=
  match predicate.operator with
  | .exists => predicate.value = .none
  | .isIn =>
      match predicate.value with
      | .tuple values => !values.isEmpty && values.all (valueMatches valueType)
      | _ => false
  | .contains =>
      match predicate.value with
      | .scalar (.string _) => valueType = .string
      | _ => false
  | .greaterThan | .greaterThanOrEqual | .lessThan | .lessThanOrEqual =>
      match predicate.value with
      | .scalar (.integer _) | .scalar (.float _) => valueType = .integer ∨ valueType = .number
      | _ => false
  | .equals | .notEquals =>
      match predicate.value with
      | .scalar value => valueMatches valueType value
      | _ => false

/-- The version that the input contract declares for a field: the last one counts. -/
def declaredVersion (name : String) : Option ℕ :=
  (spec.inputContract.reverse.find? fun field => field.name = name).map (·.registryVersion)

/-- The issues of a rule's predicate. -/
def predicateIssues (path : String) (rule : RouterRuleV3) : List RouterCompilationIssue :=
  match declaredVersion spec rule.predicate.field with
  | none => [⟨"rule_context_undeclared", s!"{path}.predicate.field",
      s!"Rule {rule.id} references a field outside the input contract"⟩]
  | some version =>
      match (registries.contextRegistry rule.predicate.field version).filter (·.enabled) with
      | none => [⟨"rule_context_unregistered", s!"{path}.predicate.field",
          s!"Rule {rule.id} references an unregistered context field"⟩]
      | some field => issueIf (!predicateValid field.valueType rule.predicate)
          "rule_predicate_type_mismatch" s!"{path}.predicate.value"
          s!"Rule {rule.id} has a value incompatible with its field and operator"

/-- The issues of a rule's action. -/
def actionIssues (candidates : List UUID) (path : String) (action : RouterRuleActionV3) :
    List RouterCompilationIssue :=
  match action with
  | .selectModel modelId => requireCandidate candidates path modelId
  | .excludeModels modelIds =>
      requireUnique modelIds "rule_action_model_duplicate" s!"{path}.action.model_ids" ++
        modelIds.flatMap (requireCandidate candidates path)
  | .useProfile profile => requireProfile registries profile s!"{path}.action.profile"

/-- The models of the pool. -/
def candidateIds : List UUID :=
  spec.candidates.map (·.modelId)

/-- The issues of a rule. -/
def ruleIssues (index : ℕ) (rule : RouterRuleV3) : List RouterCompilationIssue :=
  predicateIssues registries spec s!"rules.{index}" rule ++
    actionIssues registries (candidateIds spec) s!"rules.{index}" rule.action

/-- `_validate_rules`. -/
def validateRules : List RouterCompilationIssue :=
  requireUnique (spec.rules.map (·.id)) "rule_id_duplicate" "rules" ++
    (spec.rules.mapIdx (ruleIssues registries spec)).flatten

/-! ## The selector -/

/-- The issues of a selector's routing model; `kind` names the selector. -/
def routingModelIssues (kind : String) (routingModel : RouterModelRefV3) :
    List RouterCompilationIssue :=
  let path := "selector.routing_model"
  match candidateFacts registries routingModel with
  | none => [⟨"selector_routing_model_unavailable", path,
      s!"{kind} Routing Model is absent or disabled"⟩]
  | some facts =>
      if ¬HasReference facts routingModel then
        [⟨"selector_routing_model_identity_mismatch", path,
          s!"{kind} Routing Model facts carry another identity"⟩]
      else if ¬spec.identity.supportedOperations ⊆ facts.supportedOperations then
        [⟨"selector_routing_model_operation_unsupported", path,
          s!"{kind} Routing Model does not support every Router operation"⟩]
      else issueIf ("semantic_routing" ∉ facts.capabilities)
        "selector_routing_model_capability_missing" path
        s!"{kind} Routing Model lacks semantic_routing capability"

/-- What the catalog has for a candidate: the last one of the pool counts. -/
def poolFacts (modelId : UUID) : Option RouterModelFactsV1 :=
  (spec.candidates.reverse.find? fun candidate => candidate.modelId = modelId).bind fun candidate =>
    registries.modelCatalog candidate.modelId candidate.factsVersion

/-- The issue of a candidate of a semantic selector. -/
def foundryIssues (modelId : UUID) : List RouterCompilationIssue :=
  issueIf (∃ facts ∈ poolFacts registries spec modelId, facts.foundryRouterEligible = false)
    "selector_candidate_not_foundry_eligible" "selector.model_ids"
    s!"Candidate {uuidText modelId} is not eligible for Foundry model routing"

/-- An evaluation lets a custom selector choose among models. -/
def EvaluationPassed (routingModel : RouterModelRefV3) (evaluationId : UUID)
    (modelIds : List UUID) : Prop :=
  ∃ evaluation ∈ registries.evaluationRegistry evaluationId,
    evaluation.id = evaluationId ∧ evaluation.routingModelId = routingModel.modelId ∧
    evaluation.routingModelFactsVersion = routingModel.factsVersion ∧ evaluation.passed = true ∧
    evaluation.enabled = true ∧ modelIds ⊆ evaluation.modelIds ∧ evaluation.modelIds.Nodup

instance (routingModel : RouterModelRefV3) (evaluationId : UUID) (modelIds : List UUID) :
    Decidable (EvaluationPassed registries routingModel evaluationId modelIds) :=
  inferInstanceAs (Decidable (∃ _ ∈ _, _))

/-- `_validate_selector`. -/
def validateSelector : List RouterCompilationIssue :=
  match spec.selector with
  | .priority modelOrder =>
      requireExactCandidates modelOrder (candidateIds spec) "selector.model_order"
  | .weighted allocations =>
      requireExactCandidates (allocations.map (·.modelId)) (candidateIds spec)
        "selector.allocations" ++
      issueIf ((allocations.map (·.basisPoints)).sum ≠ 10000) "selector_weight_total_invalid"
        "selector.allocations" "Weighted split allocations must total exactly 10000 basis points"
  | .qos profile => requireProfile registries profile "selector.profile"
  | .foundrySemantic routingModel _ modelIds =>
      requireSubsetCandidates modelIds (candidateIds spec) "selector.model_ids" ++
      routingModelIssues registries spec "Foundry semantic" routingModel ++
      modelIds.flatMap (foundryIssues registries spec)
  | .evaluatedCustom routingModel evaluationId modelIds =>
      requireSubsetCandidates modelIds (candidateIds spec) "selector.model_ids" ++
      routingModelIssues registries spec "Custom selector" routingModel ++
      issueIf (¬EvaluationPassed registries routingModel evaluationId modelIds)
        "selector_evaluation_gate_failed" "selector.evaluation_id"
        "Custom selector requires a matching passed and enabled evaluation"

/-! ## Resilience and quality of service -/

/-- `_validate_resilience`. -/
def validateResilience : List RouterCompilationIssue :=
  let retry := spec.resilience.equivalentDeploymentRetry
  let fallback := spec.resilience.crossModelFallback
  let events := "resilience.equivalent_deployment_retry.retryable_events"
  requireUnique retry.retryableEvents "deployment_retry_event_duplicate" events ++
  requireUnique fallback.retryableEvents "cross_model_event_duplicate"
    "resilience.cross_model_fallback.retryable_events" ++
  requireSubsetCandidates fallback.modelOrder (candidateIds spec)
    "resilience.cross_model_fallback.model_order" ++
  issueIf (fallback.modelOrder.isEmpty ≠ fallback.retryableEvents.isEmpty)
    "cross_model_fallback_incomplete" "resilience.cross_model_fallback"
    "Cross-model fallback requires both an ordered allowlist and retryable events" ++
  issueIf (retry.maxAttemptsPerRequest = 1 ∧ retry.retryableEvents ≠ [])
    "deployment_retry_events_inert" events
    "Retryable deployment events are inert when max attempts is one" ++
  issueIf (1 < retry.maxAttemptsPerRequest ∧ retry.retryableEvents = [])
    "deployment_retry_events_missing" events
    "Multiple deployment attempts require retryable events" ++
  issueIf (retry.respectRetryAfter = true ∧ .rateLimit ∉ retry.retryableEvents) "retry_after_inert"
    "resilience.equivalent_deployment_retry.respect_retry_after"
    "Retry-After handling requires rate_limit to be retryable" ++
  issueIf (spec.identity.streaming ≠ .disabled ∧
      (1 < retry.maxAttemptsPerRequest ∧ retry.retryableEvents ≠ [] ∨
        fallback.retryableEvents ≠ []) ∧
      spec.resilience.streamingFailover ≠ .beforeFirstByteOnly)
    "streaming_fallback_unsafe" "resilience.streaming_failover"
    "Streaming cross-model fallback must be limited to before the first byte" ++
  issueIf (spec.identity.streaming = .disabled ∧ spec.resilience.streamingFailover ≠ .disabled)
    "streaming_failover_inert" "resilience.streaming_failover"
    "Streaming failover must be disabled when streaming is disabled"

/-- The issues of the policy of a `qos` selector. -/
def qosPolicyIssues (profile : RouterProfileRefV3) (policy : RouterQosPolicyV3) :
    List RouterCompilationIssue :=
  issueIf (policy.profile ≠ profile) "qos_profile_mismatch" "qos_policy.profile"
    "QoS selector and policy must reference the same profile version" ++
  requireProfile registries policy.profile "qos_policy.profile" ++
  match policy.missingDataBehavior with
  | .staticPriority => requireExactCandidates policy.fallbackModelOrder (candidateIds spec)
      "qos_policy.fallback_model_order"
  | .failClosed => issueIf (policy.fallbackModelOrder ≠ []) "qos_fail_closed_has_fallback"
      "qos_policy.fallback_model_order" "Fail-closed QoS policy cannot carry a fallback order"

/-- `_validate_qos_policy`. -/
def validateQosPolicy : List RouterCompilationIssue :=
  match spec.selector, spec.qosPolicy with
  | .qos _, none => [⟨"qos_policy_missing", "qos_policy",
      "QoS selection requires an explicit QoS policy"⟩]
  | .qos profile, some policy => qosPolicyIssues registries spec profile policy
  | _, some _ => [⟨"qos_policy_inert", "qos_policy",
      "QoS policy is only valid with the QoS selector"⟩]
  | _, none => []

/-! ## The plan -/

/-- `tuple(sorted(set(values)))`, by a key. -/
def normalized {α β : Type} [DecidableEq α] [LE β] [DecidableLE β] (key : α → β) (values : List α) :
    List α :=
  values.dedup.insertionSort fun a b => key a ≤ key b

/-- The capabilities that follow from what an identity requires. -/
def derivedCapabilities (identity : RouterIdentityV3) : List String :=
  (if identity.tools = .required then ["tools"] else []) ++
    (if identity.streaming = .required then ["streaming"] else [])

/-- `_effective_capabilities`. -/
def effectiveCapabilities : List String :=
  spec.eligibility.requiredCapabilities ++ derivedCapabilities spec.identity

/-- The eligibility of the plan, unless it requires too many capabilities. -/
def normalizedEligibility : Except RouterCompilationError RouterEligibilityV3 :=
  if h : (normalized id (effectiveCapabilities spec)).length ≤ 50 then
    .ok {
      requiredCapabilities := normalized id (effectiveCapabilities spec)
      minimumContextWindow := spec.eligibility.minimumContextWindow
      allowedProviderIds := normalized id spec.eligibility.allowedProviderIds
      allowedDataZones := normalized id spec.eligibility.allowedDataZones
      capabilities_length := h }
  else .error .validation

/-- `normalized_resilience`. -/
def normalizedResilience : RouterResilienceV3 :=
  let retry := spec.resilience.equivalentDeploymentRetry
  let fallback := spec.resilience.crossModelFallback
  { spec.resilience with
    equivalentDeploymentRetry :=
      { retry with retryableEvents := normalized (·.text) retry.retryableEvents }
    crossModelFallback :=
      { fallback with retryableEvents := normalized (·.text) fallback.retryableEvents } }

/-- `_normalized_selector`; identifiers sort as their texts. -/
def normalizedSelector : RouterSelectorV3 → RouterSelectorV3
  | .weighted allocations =>
      .weighted (allocations.insertionSort fun a b => a.modelId ≤ b.modelId)
  | .foundrySemantic routingModel mode modelIds =>
      .foundrySemantic routingModel mode (modelIds.insertionSort (· ≤ ·))
  | .evaluatedCustom routingModel evaluationId modelIds =>
      .evaluatedCustom routingModel evaluationId (modelIds.insertionSort (· ≤ ·))
  | selector => selector

/-- The routing model of a selector. -/
def routingModel : RouterSelectorV3 → Option RouterModelRefV3
  | .foundrySemantic routingModel _ _ => some routingModel
  | .evaluatedCustom routingModel _ _ => some routingModel
  | _ => none

/-- `_selector_model`. -/
def selectorModel : Option RouterModelFactsV1 :=
  (routingModel spec.selector).bind fun reference =>
    registries.modelCatalog reference.modelId reference.factsVersion

/-- `profile_references`. -/
def profileReferences : List RouterProfileRefV3 :=
  (spec.rules.filterMap fun rule =>
      match rule.action with
      | .useProfile profile => some profile
      | _ => none) ++
    (match spec.selector with
      | .qos profile => [profile]
      | _ => []) ++
    (spec.qosPolicy.map (·.profile)).toList

/-- The issues of a specification. -/
def issues : List RouterCompilationIssue :=
  requireUnique (candidateIds spec) "candidate_duplicate" "candidate_pool.candidates" ++
  requireUnique spec.identity.supportedOperations "operation_duplicate"
    "identity.supported_operations" ++
  validateContext registries spec ++
  validateCandidates registries spec ++
  validateRules registries spec ++
  validateSelector registries spec ++
  validateResilience spec ++
  validateQosPolicy registries spec

/-- The body of the plan of a specification without issues; whatever it looks up is
registered. -/
def planBody (eligibility : RouterEligibilityV3) : RouterCompiledPlanBodyV1 where
  specSha256 := ⟨spec⟩
  identity := { spec.identity with
    supportedOperations := spec.identity.supportedOperations.insertionSort (·.text ≤ ·.text) }
  contextContract := (spec.inputContract.map fun field =>
    ⟨field.name, field.valueType, field.source, field.required,
      field.registryVersion⟩).insertionSort (·.name ≤ ·.name)
  candidates := (spec.candidates.insertionSort (·.modelId ≤ ·.modelId)).filterMap fun candidate =>
    registries.modelCatalog candidate.modelId candidate.factsVersion
  selectorModel := selectorModel registries spec
  profiles := (((profileReferences spec).dedup.insertionSort fun a b =>
    a.id < b.id ∨ a.id = b.id ∧ a.version ≤ b.version)).filterMap fun reference =>
    registries.profileRegistry reference.id reference.version
  eligibility := eligibility
  rules := spec.rules
  selector := normalizedSelector spec.selector
  resilience := normalizedResilience spec
  stickiness := spec.stickiness
  qosPolicy := spec.qosPolicy

/-- `ModelRouterV3Compiler.compile`. -/
def compile : Except RouterCompilationError RouterCompiledPlanV1 :=
  if issues registries spec = [] then
    (normalizedEligibility spec).map fun eligibility =>
      { planBody registries spec eligibility with
        planSha256 := ⟨planBody registries spec eligibility⟩ }
  else .error (.issues (issues registries spec))

end

end ModelRouterV3Compiler

end Turnstile
