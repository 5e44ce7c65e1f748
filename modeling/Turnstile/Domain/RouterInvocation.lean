import Turnstile.Foundation.Json
import Turnstile.Domain.Price
import Turnstile.Domain.ModelRouter

/-!
# Invocations of a router

What an invocation of a router reads and returns: the rows of the registry, the
request, the bindings of earlier runs, the answers of the routing model and of the
providers, the requests it sends to the runtime service and the attempts it records.
-/

namespace Turnstile

/-! ## The registry -/

/-- A row of `registry["providers"]` or `registry["gateways"]`. -/
structure RegistryRow where
  id : UUID
  enabled : Bool
deriving DecidableEq, Repr

/-- A row of `registry["runtimes"]`. -/
structure RegistryRuntime extends RegistryRow where
  gatewayProfileId : Option UUID
deriving DecidableEq, Repr

/-- A row of `registry["models"]`. -/
structure RegistryModel extends RegistryRow where
  displayName : String
  modelKey : String
  capabilities : List String
  runtimeId : UUID
  providerId : UUID
  assignmentRequired : Bool
  inputCostPerMillion : Option ℚ
  outputCostPerMillion : Option ℚ
  contextPriceTiers : List ModelPriceTier
deriving DecidableEq, Repr

/-- `repository.registry()`. -/
structure ModelRegistry where
  providers : List RegistryRow
  runtimes : List RegistryRuntime
  gateways : List RegistryRow
  models : List RegistryModel
deriving DecidableEq, Repr

/-- The floating-point numbers of rates: conversion, addition and `round(value, 8)`. -/
structure RateArithmetic where
  float : ℚ → ℚ
  add : ℚ → ℚ → ℚ
  round : ℚ → ℚ

namespace RegistryModel

variable (rates : RateArithmetic) (model : RegistryModel)

/-- `_is_system_one_model`. -/
def isSystemOne : Bool :=
  "decision" ∈ model.capabilities

/-- `_resolved_model_costs`, for no input tokens: the tiers of a price begin at none. -/
def resolvedCosts : Option ℚ × Option ℚ :=
  match model.contextPriceTiers.find? fun tier =>
      tier.minInputTokens ≤ 0 && tier.maxInputTokens.all (0 ≤ ·) with
  | some tier => (some (rates.float tier.inputPricePerMillion),
      some (rates.float tier.outputPricePerMillion))
  | none => (model.inputCostPerMillion.map rates.float, model.outputCostPerMillion.map rates.float)

/-- `_candidate_effective_cost`. -/
def effectiveCost : ℚ :=
  rates.round (rates.add ((model.resolvedCosts rates).1.getD 0)
      ((model.resolvedCosts rates).2.getD 0))

/-- `_over_cost_limit`: the larger rate is over the limit. -/
def overCostLimit (maximum : Option ℚ) : Bool :=
  maximum.any fun limit =>
    (model.resolvedCosts rates).1.any (limit < ·) || (model.resolvedCosts rates).2.any (limit < ·)

end RegistryModel

namespace ModelRegistry

variable (registry : ModelRegistry)

/-- `{row["id"]: row for row in rows}`: of rows with one id the last one counts. -/
def rowById {Row : Type} (id : Row → UUID) (rows : List Row) (wanted : UUID) : Option Row :=
  rows.reverse.find? fun row => id row = wanted

/-- `runtimes`. -/
def runtime (id : UUID) : Option RegistryRuntime :=
  rowById (·.id) registry.runtimes id

/-- `providers`. -/
def provider (id : UUID) : Option RegistryRow :=
  rowById (·.id) registry.providers id

/-- The gateway of a runtime. -/
def gateway (runtime : RegistryRuntime) : Option RegistryRow :=
  runtime.gatewayProfileId.bind (rowById (·.id) registry.gateways)

/-- `_callable_models` keeps a model; `assigned` are the models of the user's policy. -/
def isCallable (assigned : Option (List UUID)) (routerAuthorized : Bool) (model : RegistryModel) :
    Bool :=
  !("image_generation" ∈ model.capabilities : Bool) && model.enabled &&
    (registry.runtime model.runtimeId).any (fun runtime =>
      runtime.enabled && (registry.gateway runtime).all (·.enabled)) &&
    (registry.provider model.providerId).any (·.enabled) &&
    (routerAuthorized || model.isSystemOne ||
      assigned.elim (!model.assignmentRequired) (fun ids => model.id ∈ ids))

/-- `_callable_models`. -/
def callableModels (assigned : Option (List UUID)) (routerAuthorized : Bool) (id : UUID) :
    Option RegistryModel :=
  rowById (·.id) (registry.models.filter (registry.isCallable assigned routerAuthorized)) id

end ModelRegistry

/-! ## Requests -/

/-- `ChatMessage`, with its text empty where it has none. -/
structure ChatMessage where
  role : String
  content : String
deriving DecidableEq, Repr

/-- `InvocationMetadata`. -/
structure InvocationMetadata where
  userId : String
  runId : String
  turnIndex : ℕ
deriving DecidableEq, Repr

/-- `ModelInvocationRequest`. -/
structure ModelInvocationRequest (Number : Type) where
  metadata : InvocationMetadata
  routerId : Option UUID
  routerContext : String → Option (Scalar Number)
  messages : List ChatMessage
  /-- `bool(request.tools)`. -/
  tools : Bool

/-- What an invocation takes from the language besides `PythonRuntime`, and the texts it
derives from messages with regular expressions. -/
structure RouterRuntime (Number : Type) extends PythonRuntime Number, RateArithmetic where
  lower : String → String
  /-- The number of a count. -/
  ofNat : ℕ → Number
  /-- `int(number)`: nothing where it raises `ValueError`. -/
  int : Number → Option ℤ
  /-- `int(number)` raises `OverflowError`. -/
  overflows : Number → Bool
  /-- `json.loads`, unless it raises `ValueError`. -/
  loads : String → Option (Json Number)
  /-- `str` of a JSON value. -/
  renderJson : Json Number → String
  /-- `float` of a JSON value, unless it raises `TypeError` or `ValueError`. -/
  floatJson : Json Number → Option Number
  /-- `round(min(1.0, number), 4)`. -/
  clip : Number → Number
  /-- `str` of an identifier. -/
  renderUuid : UUID → String
  /-- `UUID(text)`, unless it raises `ValueError`. -/
  uuid : String → Option UUID
  /-- `_clean_user_message_content`. -/
  cleanUserMessage : String → String
  /-- `_extract_system_instruction`. -/
  systemInstruction : List ChatMessage → String
  /-- The first sixteen digits of the SHA-256 of a text. -/
  digest : String → String

/-! ## Answers of the runtime service -/

/-- `HTTPException`; its detail has a code where it is an object. -/
structure HTTPException where
  statusCode : ℕ
  code : Option String
  detail : String
deriving DecidableEq, Repr

/-- How an invocation ends that returns no response: with an HTTP error, or with another
exception of the language or of the runtime service. -/
inductive InvocationFailure where
  | http (error : HTTPException)
  | raised
deriving DecidableEq, Repr

/-- What the routing model's request comes to. -/
inductive RoutingAnswer (Number : Type) where
  /-- The text that a chat model answers. -/
  | content (text : String)
  /-- The answers of a decision model. -/
  | answers (fields : List (String × Json Number))
  /-- The request raises `TypeError` or `ValueError`. -/
  | malformed
  | failed (failure : InvocationFailure)

/-- What the request to a candidate comes to: a response, or a failure. -/
abbrev ProviderOutcome := Option InvocationFailure

/-! ## Attempts -/

inductive AttemptOutcome where
  | unavailable
  | costLimitExceeded
  | failed
  | succeeded
deriving DecidableEq, Repr

inductive AttemptRole where
  | candidate
  | routingDecision
deriving DecidableEq, Repr

/-- The key that a bound model was found under. -/
inductive StickyKind where
  | interaction
  | session
  | derivedInteraction
deriving DecidableEq, Repr

/-- `decision_basis`. -/
inductive DecisionBasis where
  | candidateUnavailable
  | costLimitExceeded
  | providerError
  | fallbackSuccess
  | weightedSelectionSuccess
  | highestPrioritySuccess
  | modelBasedSelection
  | modelBasedFallback
  | sessionSticky
  | interactionSticky
deriving DecidableEq, Repr

/-- `_attempt`. -/
structure RouterAttempt where
  sequence : ℕ
  role : AttemptRole
  modelId : UUID
  outcome : AttemptOutcome
  statusCode : Option ℕ
  /-- The candidate whose priority, weight and limits are recorded. -/
  config : Option ModelRouterStrategyModel
  strategyType : ModelRouterStrategyType
  fallbackTrigger : Option ModelRouterFallbackEvent
  decisionBasis : DecisionBasis
  decisionCandidates : List UUID
  selectedCandidateModelId : Option UUID
  sticky : Option (StickyKind × String)
deriving DecidableEq

/-! ## Bindings of runs -/

/-- The key of a row of `model_router_run_bindings`. -/
structure RunBindingKey where
  routerId : UUID
  routerVersion : ℕ
  userId : String
  runId : String
deriving DecidableEq, Repr

/-- A row of `model_router_run_bindings`; instants are in microseconds. -/
structure RunBinding extends RunBindingKey where
  selectedModelId : UUID
  selectedModelName : String
  createdAt : ℤ
  updatedAt : ℤ
deriving DecidableEq, Repr

/-- `model_router_run_bindings`, in the order of insertion. -/
abbrev RunBindings := List RunBinding

namespace RunBindings

/-- The row is at most so many seconds old. -/
def fresh (now : ℤ) (ttlSeconds : ℕ) (row : RunBinding) : Bool :=
  decide (now - row.updatedAt ≤ ttlSeconds * 1000000)

/-- The first row of the greatest version and instant. -/
def latest : List RunBinding → Option RunBinding
  | [] => none
  | row :: rows =>
      match latest rows with
      | none => some row
      | some best =>
          if row.routerVersion < best.routerVersion ∨
              row.routerVersion = best.routerVersion ∧ row.updatedAt < best.updatedAt then
            some best
          else some row

/-- `get_model_router_run_binding`. -/
def get (bindings : RunBindings) (now : ℤ) (key : RunBindingKey) (ttlSeconds : ℕ) : Option UUID :=
  let exact := (bindings.find? fun row => row.toRunBindingKey = key).filter (fresh now ttlSeconds)
  match exact with
  | some row => some row.selectedModelId
  | none => (latest (bindings.filter fun row => row.routerId = key.routerId ∧
      row.userId = key.userId ∧ row.runId = key.runId ∧ fresh now ttlSeconds row)).map
        (·.selectedModelId)

/-- `save_model_router_run_binding`. -/
def save (bindings : RunBindings) (now : ℤ) (key : RunBindingKey) (selectedModelId : UUID)
    (selectedModelName : String) : RunBindings :=
  if bindings.any fun row => row.toRunBindingKey = key then
    bindings.map fun row => if row.toRunBindingKey = key then
      { row with selectedModelId, selectedModelName, updatedAt := now } else row
  else
    bindings ++
      [{ key with selectedModelId, selectedModelName, createdAt := now, updatedAt := now }]

end RunBindings

/-! ## Requests to the runtime service -/

/-- A request that an invocation sends. -/
inductive RuntimeCall where
  /-- The routing model decides among the candidates. -/
  | decision (modelId : UUID) (timeoutMs : ℕ)
  | candidate (config : ModelRouterStrategyModel) (timeoutMs : Option ℕ) (outcome : ProviderOutcome)
deriving DecidableEq

namespace RuntimeCall

/-- The model that is asked. -/
def modelId : RuntimeCall → UUID
  | .decision modelId _ => modelId
  | .candidate config _ _ => config.modelId

/-- The candidate that is asked, with what came of it. -/
def attempted : RuntimeCall → Option (ModelRouterStrategyModel × ProviderOutcome)
  | .decision _ _ => none
  | .candidate config _ outcome => some (config, outcome)

end RuntimeCall

end Turnstile
