import Turnstile.Domain.Values

/-!
# Router specifications

The third form of a router names its candidates, what they must be able to do, rules
that select or exclude some of them, and a selector for what the rules leave open.
-/

namespace Turnstile

/-! ## Enumerations -/

inductive RouterOperation where
  | chatCompletions
  | responses
deriving DecidableEq, Repr

namespace RouterOperation

def text : RouterOperation → String
  | chatCompletions => "chat_completions"
  | responses => "responses"

end RouterOperation

inductive RouterContextValueType where
  | string
  | integer
  | number
  | boolean
deriving DecidableEq, Repr

inductive RouterContextSource where
  | authenticatedIdentity
  | serverDerived
  | clientClaim
deriving DecidableEq, Repr

inductive RouterPredicateOperator where
  | equals
  | notEquals
  | contains
  | isIn
  | greaterThan
  | greaterThanOrEqual
  | lessThan
  | lessThanOrEqual
  | exists
deriving DecidableEq, Repr

inductive RouterRetryableEvent where
  | transportError
  | timeout
  | rateLimit
  | serverError
  | deploymentUnavailable
deriving DecidableEq, Repr

namespace RouterRetryableEvent

def text : RouterRetryableEvent → String
  | transportError => "transport_error"
  | timeout => "timeout"
  | rateLimit => "rate_limit"
  | serverError => "server_error"
  | deploymentUnavailable => "deployment_unavailable"

end RouterRetryableEvent

/-- Whether a router uses a facility of its models. -/
inductive RouterUse where
  | disabled
  | allowed
  | required
deriving DecidableEq, Repr

inductive RouterStreamingFailover where
  | disabled
  | beforeFirstByteOnly
deriving DecidableEq, Repr

inductive RouterSemanticMode where
  | balanced
  | cost
  | quality
deriving DecidableEq, Repr

inductive RouterStickinessScope where
  | none
  | interaction
  | conversation
deriving DecidableEq, Repr

inductive RouterMissingDataBehavior where
  | staticPriority
  | failClosed
deriving DecidableEq, Repr

/-! ## The parts of a specification -/

/-- `RouterIdentityV3`. -/
structure RouterIdentityV3 where
  routerAlias : String
  description : String
  supportedOperations : List RouterOperation
  streaming : RouterUse
  tools : RouterUse
deriving DecidableEq, Repr

/-- `RouterInputFieldV3`. -/
structure RouterInputFieldV3 where
  name : String
  valueType : RouterContextValueType
  source : RouterContextSource
  registryVersion : ℕ
  required : Bool
deriving DecidableEq, Repr

/-- `RouterModelRefV3`. -/
structure RouterModelRefV3 where
  modelId : UUID
  factsVersion : ℕ
deriving DecidableEq, Repr

/-- `RouterEligibilityV3`. -/
structure RouterEligibilityV3 where
  requiredCapabilities : List String
  minimumContextWindow : Option ℕ
  allowedProviderIds : List UUID
  allowedDataZones : List String
  capabilities_length : requiredCapabilities.length ≤ 50
deriving DecidableEq, Repr

/-- `RouterScalar`; a float is known by its text. -/
inductive RouterScalar where
  | string (value : String)
  | integer (value : ℤ)
  | float (text : String)
  | boolean (value : Bool)
deriving DecidableEq, Repr

/-- The value of a predicate. -/
inductive RouterPredicateValue where
  | none
  | scalar (value : RouterScalar)
  | tuple (values : List RouterScalar)
deriving DecidableEq, Repr

/-- `RouterPredicateV3`. -/
structure RouterPredicateV3 where
  field : String
  operator : RouterPredicateOperator
  value : RouterPredicateValue
deriving DecidableEq, Repr

/-- `RouterProfileRefV3`. -/
structure RouterProfileRefV3 where
  id : UUID
  version : ℕ
deriving DecidableEq, Repr

/-- `RouterRuleActionV3`. -/
inductive RouterRuleActionV3 where
  | selectModel (modelId : UUID)
  | excludeModels (modelIds : List UUID)
  | useProfile (profile : RouterProfileRefV3)
deriving DecidableEq, Repr

/-- `RouterRuleV3`. -/
structure RouterRuleV3 where
  id : String
  predicate : RouterPredicateV3
  action : RouterRuleActionV3
deriving DecidableEq, Repr

/-- `RouterWeightedAllocationV3`. -/
structure RouterWeightedAllocationV3 where
  modelId : UUID
  basisPoints : ℕ
deriving DecidableEq, Repr

/-- `RouterSelectorV3`. -/
inductive RouterSelectorV3 where
  | priority (modelOrder : List UUID)
  | weighted (allocations : List RouterWeightedAllocationV3)
  | qos (profile : RouterProfileRefV3)
  | foundrySemantic (routingModel : RouterModelRefV3) (mode : RouterSemanticMode)
      (modelIds : List UUID)
  | evaluatedCustom (routingModel : RouterModelRefV3) (evaluationId : UUID) (modelIds : List UUID)
deriving DecidableEq, Repr

/-- `RouterDeploymentRetryV3`. -/
structure RouterDeploymentRetryV3 where
  maxAttemptsPerRequest : ℕ
  retryableEvents : List RouterRetryableEvent
  respectRetryAfter : Bool
deriving DecidableEq, Repr

/-- `RouterCrossModelFallbackV3`. -/
structure RouterCrossModelFallbackV3 where
  modelOrder : List UUID
  retryableEvents : List RouterRetryableEvent
deriving DecidableEq, Repr

/-- `RouterResilienceV3`. -/
structure RouterResilienceV3 where
  equivalentDeploymentRetry : RouterDeploymentRetryV3
  crossModelFallback : RouterCrossModelFallbackV3
  streamingFailover : RouterStreamingFailover
deriving DecidableEq, Repr

/-- `RouterStickinessV3`. -/
structure RouterStickinessV3 where
  scope : RouterStickinessScope
  ttlSeconds : Option ℕ
deriving DecidableEq, Repr

/-- `RouterQosPolicyV3`; the margin is known by its text. -/
structure RouterQosPolicyV3 where
  profile : RouterProfileRefV3
  freshnessSeconds : ℕ
  minimumSamples : ℕ
  hysteresisMargin : String
  missingDataBehavior : RouterMissingDataBehavior
  fallbackModelOrder : List UUID
deriving DecidableEq, Repr

/-- `RouterSpecV3`. -/
structure RouterSpecV3 where
  identity : RouterIdentityV3
  inputContract : List RouterInputFieldV3
  candidates : List RouterModelRefV3
  eligibility : RouterEligibilityV3
  rules : List RouterRuleV3
  selector : RouterSelectorV3
  resilience : RouterResilienceV3
  stickiness : RouterStickinessV3
  qosPolicy : Option RouterQosPolicyV3
deriving DecidableEq, Repr

/-! ## Registries -/

/-- `RouterContextFieldRegistrationV1`. -/
structure RouterContextFieldRegistrationV1 where
  name : String
  valueType : RouterContextValueType
  source : RouterContextSource
  version : ℕ
  enabled : Bool
deriving DecidableEq, Repr

/-- `RouterModelFactsV1`. -/
structure RouterModelFactsV1 where
  modelId : UUID
  factsVersion : ℕ
  logicalModelKey : String
  enabled : Bool
  supportedOperations : List RouterOperation
  capabilities : List String
  foundryRouterEligible : Bool
  contextWindow : Option ℕ
  providerId : UUID
  dataZone : String
deriving DecidableEq, Repr

/-- `RouterProfileRegistrationV1`; its kind is always `qos`, and its configuration is
known by its text. -/
structure RouterProfileRegistrationV1 where
  id : UUID
  version : ℕ
  name : String
  config : String
  enabled : Bool
deriving DecidableEq, Repr

/-- `RouterEvaluationRegistrationV1`. -/
structure RouterEvaluationRegistrationV1 where
  id : UUID
  routingModelId : UUID
  routingModelFactsVersion : ℕ
  modelIds : List UUID
  passed : Bool
  enabled : Bool
deriving DecidableEq, Repr

/-- What a specification is compiled against. -/
structure RouterRegistries where
  modelCatalog : UUID → ℕ → Option RouterModelFactsV1
  contextRegistry : String → ℕ → Option RouterContextFieldRegistrationV1
  profileRegistry : UUID → ℕ → Option RouterProfileRegistrationV1
  evaluationRegistry : UUID → Option RouterEvaluationRegistrationV1

/-! ## Plans -/

/-- `RouterCompilationIssue`. -/
structure RouterCompilationIssue where
  code : String
  path : String
  message : String
deriving DecidableEq, Repr

/-- `RouterCompiledContextFieldV1`. -/
structure RouterCompiledContextFieldV1 where
  name : String
  valueType : RouterContextValueType
  source : RouterContextSource
  required : Bool
  registryVersion : ℕ
deriving DecidableEq, Repr

/-- `RouterCompiledPlanBodyV1`. -/
structure RouterCompiledPlanBodyV1 where
  specSha256 : Sha256 RouterSpecV3
  identity : RouterIdentityV3
  contextContract : List RouterCompiledContextFieldV1
  candidates : List RouterModelFactsV1
  selectorModel : Option RouterModelFactsV1
  profiles : List RouterProfileRegistrationV1
  eligibility : RouterEligibilityV3
  rules : List RouterRuleV3
  selector : RouterSelectorV3
  resilience : RouterResilienceV3
  stickiness : RouterStickinessV3
  qosPolicy : Option RouterQosPolicyV3
deriving DecidableEq, Repr

/-- `RouterCompiledPlanV1`. -/
structure RouterCompiledPlanV1 extends RouterCompiledPlanBodyV1 where
  planSha256 : Sha256 RouterCompiledPlanBodyV1
deriving DecidableEq, Repr

end Turnstile
