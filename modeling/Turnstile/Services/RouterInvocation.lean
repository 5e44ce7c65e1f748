import Turnstile.Services.RouterExecution
import Turnstile.Domain.RouterInvocation

/-!
# Invocation of a router

An invocation plans the candidates of its request, puts the model that an earlier run is
bound to or that the routing model decides on in front, and sends the request to one
candidate after the other: past those that cannot be called, and past a failure that the
router falls back on.  The model that answers is bound to the keys of the run.
-/

namespace Turnstile

/-- `ModelRouter`: a published version. -/
structure ModelRouter (Number : Type) where
  id : UUID
  version : ℕ
  name : String
  definition : ModelRouterDefinition Number

/-- An invocation: its request, what it reads of its surroundings, and what the
runtime service answers it. -/
structure RouterInvocation (Number : Type) where
  request : ModelInvocationRequest Number
  allowedModelIds : Option (List UUID)
  /-- The router is assigned to the user, or the user's own. -/
  assigned : Bool
  registry : ModelRegistry
  /-- The repository reads and saves bindings in batches. -/
  batched : Bool
  /-- The clock, as a binding is read and saved. -/
  readAt : String → ℤ
  savedAt : String → ℤ
  routing : RoutingAnswer Number
  /-- What comes of the request to a candidate, by the candidate's position. -/
  outcome : ℕ → ProviderOutcome

/-- The response, as far as the router adds to the provider's. -/
structure RouterResponse where
  routerId : UUID
  routerName : String
  routerVersion : ℕ
  selectedModelId : UUID
  selectedModelName : String
deriving DecidableEq, Repr

/-- What an invocation has done when it ends. -/
structure InvocationCourse where
  calls : List RuntimeCall
  attempts : List RouterAttempt
  bindings : RunBindings
  result : Except InvocationFailure RouterResponse

namespace ModelRouterExecutionService

variable {Number : Type} (python : RouterRuntime Number)

/-! ## The request -/

/-- `str(context.get(first) or context.get(second) or "").strip()`. -/
def contextText (context : RoutingContext Number) (first second : String) : String :=
  match (context first).filter fun value => value.truth python.toPythonRuntime with
  | some value => strip (value.str python.toPythonRuntime)
  | none => strip (textOrEmpty python.toPythonRuntime (context second))

/-- An identifier of the context, of at most 128 characters. -/
def contextId (context : RoutingContext Number) (first second : String) : Option String :=
  some (String.ofList ((contextText python context first second).toList.take 128)) |>.filter
    (· != "")

/-- The initiator of the request. -/
def initiator (request : ModelInvocationRequest Number) : String :=
  python.casefold (contextText python request.routerContext "x_initiator" "initiator")

/-- `_extract_user_prompt`. -/
def extractUserPrompt (messages : List ChatMessage) : String :=
  ((messages.reverse.find? fun message => message.role = "user").map fun message =>
    python.cleanUserMessage message.content).getD ""

/-- `_extract_first_user_prompt`. -/
def extractFirstUserPrompt (messages : List ChatMessage) : String :=
  (((messages.filter fun message => message.role = "user").map fun message =>
    python.cleanUserMessage message.content).find? (· != "")).getD ""

/-- `_derived_interaction_run_id`. -/
def derivedInteractionRunId (request : ModelInvocationRequest Number) : Option String :=
  let firstPrompt := strip (extractFirstUserPrompt python request.messages)
  let instruction := python.systemInstruction request.messages
  let seed := if instruction = "" then firstPrompt else instruction ++ "\n" ++ firstPrompt
  if firstPrompt = "" then none
  else some ("derived-" ++ python.digest (request.metadata.userId ++ ":" ++ seed))

/-- `message.role.strip().casefold()`. -/
def role (message : ChatMessage) : String :=
  python.normalize message.role

/-- `_is_agent_continuation`. -/
def isAgentContinuation (request : ModelInvocationRequest Number) : Bool :=
  request.messages.any (fun message => message.role = "assistant" ∨ message.role = "tool") ||
    decide (1 < request.metadata.turnIndex) || initiator python request == "agent" ||
    decide (1 < (request.messages.filter fun message =>
      role python message = "user" ∧ strip message.content ≠ "").length)

/-- `_is_new_user_turn`. -/
def isNewUserTurn (request : ModelInvocationRequest Number) : Bool :=
  let conversation := request.messages.filter fun message =>
    role python message ≠ "system" ∧ role python message ≠ "developer"
  let userMessages := ((conversation.filter fun message => role python message = "user").map
    fun message => python.cleanUserMessage message.content).filter (· != "")
  initiator python request != "agent" &&
    conversation.getLast?.any (fun message => role python message = "user") &&
    match userMessages.reverse with
    | last :: previous :: _ => last != previous
    | _ => false

/-- `_routing_context`. -/
def routingContext (request : ModelInvocationRequest Number) : RoutingContext Number := fun field =>
  let prompt := extractUserPrompt python request.messages
  if field = "user_id" then some (.text request.metadata.userId)
  else if field = "request_parameter" then some (.text prompt)
  else if field = "prompt_length" then some (.number (python.ofNat prompt.length))
  else if field = "required_capability"
      then some (.text (if request.tools then "tools" else "chat"))
  else request.routerContext field

/-! ## The bound model -/

/-- A key that a binding is looked up under. -/
structure RunLookup where
  runId : String
  kind : StickyKind
  display : String
deriving DecidableEq, Repr

def interactionId (request : ModelInvocationRequest Number) : Option String :=
  contextId python request.routerContext "interaction_id" "x_interaction_id"

def sessionId (request : ModelInvocationRequest Number) : Option String :=
  contextId python request.routerContext "session_id" "x_session_id"

/-- `lookup_chain`. -/
def lookupChain (request : ModelInvocationRequest Number) : List RunLookup :=
  (interactionId python request).elim [] (fun id =>
      [⟨"interaction:" ++ id, .interaction, id⟩, ⟨id, .interaction, id⟩]) ++
    (sessionId python request).elim [] (fun id =>
      [⟨"session:" ++ id, .session, id⟩, ⟨id, .session, id⟩]) ++
    [⟨request.metadata.runId, .interaction, request.metadata.runId⟩] ++
    if isAgentContinuation python request then
      (derivedInteractionRunId python request).elim [] fun id => [⟨id, .derivedInteraction, id⟩]
    else []

/-- `ordered_lookup`: the first lookup of each key. -/
def orderedLookup (request : ModelInvocationRequest Number) : List RunLookup :=
  ((lookupChain python request).filter fun lookup => lookup.runId ≠ "").eraseDupsBy fun a b =>
    a.runId == b.runId

/-- `min(86400, max(1, int(number)))`. -/
def ttlOf (number : Number) : Except InvocationFailure (Option ℕ) :=
  if python.overflows number then .error .raised
  else .ok ((python.int number).map fun seconds => (min 86400 (max 1 seconds)).toNat)

/-- `custom_ttl_seconds`. -/
def customTtlSeconds (context : RoutingContext Number) : Except InvocationFailure (Option ℕ) :=
  match context "session_ttl_seconds" <|> context "x_session_ttl_seconds" with
  | some (.number value) => ttlOf python value
  | some (.text value) => (python.parse value).elim (.ok none) (ttlOf python)
  | some (.bool _) => .ok none
  | none => .ok none

/-- The age up to which a binding counts. -/
def tierTtl (batched : Bool) (custom : Option ℕ) (kind : StickyKind) : ℕ :=
  if batched then custom.getD (if kind = .session then 1800 else 300) else 1800

/-- The first binding on the chain; the keys are distinct, so that a batch is a lookup of
each. -/
def boundRun (router : ModelRouter Number) (invocation : RouterInvocation Number)
    (custom : Option ℕ) (bindings : RunBindings) : Option (UUID × StickyKind × String) :=
  (orderedLookup python invocation.request).findSome? fun lookup =>
    (bindings.get (invocation.readAt lookup.runId)
      ⟨router.id, router.version, invocation.request.metadata.userId, lookup.runId⟩
      (tierTtl invocation.batched custom lookup.kind)).map fun modelId =>
        (modelId, lookup.kind, lookup.display)

/-- `unique_binding_keys`. -/
def bindingKeys (request : ModelInvocationRequest Number) : List String :=
  (([request.metadata.runId] ++
    (interactionId python request).elim [] (fun id => ["interaction:" ++ id, id]) ++
    (sessionId python request).elim [] (fun id => ["session:" ++ id, id]) ++
    (derivedInteractionRunId python request).toList).filter (· != "")).eraseDups

/-- The bindings of a run that a model has answered. -/
def saveBindings (router : ModelRouter Number) (invocation : RouterInvocation Number)
    (model : RegistryModel) (modelId : UUID) (bindings : RunBindings) : RunBindings :=
  (bindingKeys python invocation.request).foldl (fun bindings runId =>
    bindings.save (invocation.savedAt runId)
      ⟨router.id, router.version, invocation.request.metadata.userId, runId⟩ modelId
      model.displayName) bindings

/-! ## Escalation -/

/-- The models that can be called, by their identifiers. -/
abbrev CallableModels := UUID → Option RegistryModel

/-- `_candidate_effective_cost`. -/
def effectiveCost (models : CallableModels) (candidate : ModelRouterStrategyModel) : ℚ :=
  (models candidate.modelId).elim (python.round (python.add 0 0)) fun model =>
    model.effectiveCost python.toRateArithmetic

/-- The candidates that can be called, decide nothing and cost no more than their limit. -/
def eligibleCandidates (models : CallableModels) (candidates : List ModelRouterStrategyModel) :
    List ModelRouterStrategyModel :=
  candidates.filter fun candidate => (models candidate.modelId).any fun model =>
    !model.isSystemOne && !model.overCostLimit python.toRateArithmetic candidate.maxCostPerMillion

/-- `_can_escalate_candidate`. -/
def canEscalateCandidate (models : CallableModels) (bound target : ModelRouterStrategyModel)
    (eligible : List ModelRouterStrategyModel) : Bool :=
  let costs := eligible.map (effectiveCost python models)
  target.modelId != bound.modelId && !eligible.isEmpty &&
    (decide (effectiveCost python models bound < effectiveCost python models target) ||
      costs.all (fun cost => costs.all (cost = ·)) &&
        eligible.any fun candidate => strip candidate.description != "")

/-! ## The routing model's decision -/

/-- `_resolve_candidate_id`. -/
def resolveCandidateId (models : CallableModels) (selected : Json Number)
    (candidates : List ModelRouterStrategyModel) : Option UUID :=
  let ids := (candidates.map (·.modelId)).eraseDups
  match (python.uuid (python.renderJson selected)).filter (· ∈ ids) with
  | some id => some id
  | none =>
      let folded := python.normalize (if truth selected then python.renderJson selected else "")
      let matching := ids.filter fun id => (models id).any fun model =>
        folded = python.casefold model.displayName ∨ folded = python.casefold model.modelKey
      if folded ≠ "" ∧ matching.length = 1 then matching.head? else none
where
  /-- `bool(value)`. -/
  truth : Json Number → Bool
    | .null => false
    | .bool value => value
    | .number value => !python.eq value (python.ofBool false)
    | .text value => value != ""
    | .array items => !items.isEmpty
    | .object fields => !fields.isEmpty

/-- `probabilities[key] = value`. -/
def setProbability (probabilities : List (UUID × Number)) (id : UUID) (value : Number) :
    List (UUID × Number) :=
  if probabilities.any fun entry => entry.1 = id then
    probabilities.map fun entry => if entry.1 = id then (id, value) else entry
  else probabilities ++ [(id, value)]

/-- `_extract_candidate_probabilities`. -/
def extractCandidateProbabilities (models : CallableModels)
    (candidates : List ModelRouterStrategyModel) : Json Number → List (UUID × Number)
  | .object fields => (fields.filter fun field => field.1 ≠ "__none__").foldl
      (fun probabilities field =>
        match resolveCandidateId python models (.text field.1) candidates,
            python.floatJson field.2 with
        | some id, some value =>
            if python.lt value (python.ofBool false) then probabilities
            else setProbability probabilities id (python.clip value)
        | _, _ => probabilities) []
  | _ => []

/-- The first entry of the greatest probability. -/
def mostProbable : List (UUID × Number) → Option (UUID × Number)
  | [] => none
  | entry :: entries =>
      match mostProbable entries with
      | none => some entry
      | some best => if python.lt entry.2 best.2 then some best else some entry

/-- `_parse_model_decision_details`, up to the candidate: nothing where it raises. -/
def parseModelDecision (models : CallableModels) (candidates : List ModelRouterStrategyModel)
    (content : String) : Option UUID :=
  match python.loads content with
  | some (.object fields) =>
      resolveCandidateId python models
        (if fields.any fun field => field.1 = "model_id" then Json.get fields "model_id"
          else Json.get fields "model") candidates
  | _ => none

/-- The route's answer, which may be the only one under another name. -/
def routeAnswer (answers : List (String × Json Number)) : Json Number :=
  match (Json.get answers "route").present, answers with
  | false, [(_, answer)] => answer
  | _, _ => Json.get answers "route"

/-- `_parse_system_one_decision`, up to the candidate: nothing where it raises. -/
def parseSystemOneDecision (models : CallableModels) (candidates : List ModelRouterStrategyModel)
    (answers : List (String × Json Number)) : Option UUID :=
  match routeAnswer answers with
  | .text value => resolveCandidateId python models (.text value) candidates
  | .object fields =>
      let choices := (["choice", "value", "result", "answer", "selected", "model_id", "model"].map
        (Json.get fields)).find? (·.present)
      let distributions := (["probabilities", "distribution", "scores"].map (Json.get fields)).find?
        (resolveCandidateId.truth python)
      match resolveCandidateId python models (choices.getD .null) candidates with
      | some id => some id
      | none => (mostProbable python (extractCandidateProbabilities python models candidates
          (distributions.getD (.object fields)))).bind fun entry =>
            resolveCandidateId python models (.text (python.renderUuid entry.1)) candidates
  | _ => none

/-- The candidate that an answer of the routing model selects: nothing where reading it
raises `ValueError`. -/
def decidedCandidateId (systemOne : Bool) (models : CallableModels)
    (candidates : List ModelRouterStrategyModel) : RoutingAnswer Number → Option UUID
  | .content text => if systemOne then none else parseModelDecision python models candidates text
  | .answers fields =>
      if systemOne then parseSystemOneDecision python models candidates fields else none
  | .malformed | .failed _ => none

/-- `_failure_event`. -/
def failureEvent (statusCode : ℕ) : ModelRouterFallbackEvent :=
  if statusCode = 429 then .rateLimit
  else if statusCode = 408 ∨ statusCode = 504 then .timeout
  else .error

/-- What `_model_based_order` returns. -/
structure DecidedOrder where
  candidates : List ModelRouterStrategyModel
  attempt : RouterAttempt
  selected : Bool

/-- The attempt of a routing decision. -/
def decisionAttempt (plan : RouterExecutionPlan Number) (eligible : List ModelRouterStrategyModel)
    (statusCode : Option ℕ) (trigger : Option ModelRouterFallbackEvent) (selected : Option UUID) :
    RouterAttempt where
  sequence := 1
  role := .routingDecision
  modelId := plan.routingModelId.getD 0
  outcome := if selected.isSome then .succeeded else .failed
  statusCode := statusCode
  config := none
  strategyType := plan.strategyType
  fallbackTrigger := trigger
  decisionBasis := if selected.isSome then .modelBasedSelection else .modelBasedFallback
  decisionCandidates := eligible.map (·.modelId)
  selectedCandidateModelId := selected
  sticky := none

/-- The candidates that the routing model decides among. -/
def decidable (models : CallableModels) (plan : RouterExecutionPlan Number)
    (bound : Option ModelRouterStrategyModel) : List ModelRouterStrategyModel :=
  let raw := eligibleCandidates python models plan.candidates
  match bound.filter fun candidate => (models candidate.modelId).isSome with
  | none => raw
  | some bound =>
      let kept := raw.filter fun candidate => candidate.modelId = bound.modelId ∨
        canEscalateCandidate python models bound candidate raw
      let filtered := if kept.any fun candidate => candidate.modelId = bound.modelId then kept
        else bound :: kept
      if 1 < filtered.length then filtered else raw

/-- `_model_based_order`, with the requests it sends. -/
def modelBasedOrder (models : CallableModels) (plan : RouterExecutionPlan Number)
    (routing : RoutingAnswer Number) (bound : Option ModelRouterStrategyModel) :
    List RuntimeCall × Except InvocationFailure DecidedOrder :=
  let eligible := decidable python models plan bound
  match plan.routingModelId.bind models, eligible with
  | none, _ | _, [] =>
      ([], .ok ⟨plan.candidates, decisionAttempt plan eligible none none none, false⟩)
  | some routingModel, _ =>
      let calls := [RuntimeCall.decision routingModel.id plan.decisionTimeoutMs]
      match routing with
      | .failed .raised => (calls, .error .raised)
      | .failed (.http error) => (calls, .ok ⟨plan.candidates, decisionAttempt plan eligible
          (some error.statusCode) (some (failureEvent error.statusCode)) none, false⟩)
      | answer =>
          match (decidedCandidateId python routingModel.isSystemOne models eligible answer).bind
              fun id => eligible.find? fun candidate => candidate.modelId = id with
          | none => (calls, .ok ⟨plan.candidates,
              decisionAttempt plan eligible (some 200) (some .error) none, false⟩)
          | some selected => (calls, .ok ⟨selected :: plan.candidates.filter fun candidate =>
              candidate.modelId ≠ selected.modelId,
              decisionAttempt plan eligible (some 200) none (some selected.modelId), true⟩)

/-! ## The order of the candidates -/

/-- What the invocation goes into its attempts with. -/
structure RouterCourse where
  candidates : List ModelRouterStrategyModel
  attempts : List RouterAttempt
  preferredBasis : Option DecisionBasis
  sticky : Option (StickyKind × String)

/-- `all_router_configs`: of the configurations of a model the last one counts. -/
def routerConfig (definition : ModelRouterDefinition Number) (modelId : UUID) :
    Option ModelRouterStrategyModel :=
  ((definition.nodes.filter fun node => node.IsStrategy).flatMap (·.modelConfigs)).reverse.find?
    fun config => config.modelId = modelId

/-- The configuration of a bound model: of this plan, or of another branch. -/
def boundCandidate (definition : ModelRouterDefinition Number) (plan : RouterExecutionPlan Number)
    (modelId : UUID) : Option ModelRouterStrategyModel :=
  (plan.candidates.find? fun candidate => candidate.modelId = modelId) <|>
    routerConfig definition modelId

/-- A candidate in front of the others. -/
def inFront (candidate : ModelRouterStrategyModel) (candidates : List ModelRouterStrategyModel) :
    List ModelRouterStrategyModel :=
  candidate :: candidates.filter fun other => other.modelId ≠ candidate.modelId

/-- `"session_sticky" if sticky_bound_by == "session" else "interaction_sticky"`. -/
def stickyBasis (sticky : Option (StickyKind × String)) : DecisionBasis :=
  if (sticky.map (·.1)) = some .session then .sessionSticky else .interactionSticky

/-- The order that the routing model decides. -/
def decidedCourse (models : CallableModels) (plan : RouterExecutionPlan Number)
    (routing : RoutingAnswer Number) (sticky : Option (StickyKind × String)) :
    List RuntimeCall × Except InvocationFailure RouterCourse :=
  let order := modelBasedOrder python models plan routing none
  (order.1, order.2.map fun decided => ⟨decided.candidates, [decided.attempt],
    some (if decided.selected then .modelBasedSelection else .modelBasedFallback), sticky⟩)

/-- The order where a turn may escalate from the bound candidate. -/
def escalatedCourse (models : CallableModels) (plan : RouterExecutionPlan Number)
    (routing : RoutingAnswer Number) (bound : ModelRouterStrategyModel)
    (eligible : List ModelRouterStrategyModel) (sticky : Option (StickyKind × String)) :
    List RuntimeCall × Except InvocationFailure RouterCourse :=
  let order := modelBasedOrder python models plan routing (some bound)
  (order.1, order.2.map fun decided =>
    if decided.selected && decided.candidates.head?.any fun target =>
        canEscalateCandidate python models bound target eligible then
      ⟨decided.candidates, [decided.attempt], some .modelBasedSelection, none⟩
    else ⟨inFront bound decided.candidates, [decided.attempt], some (stickyBasis sticky), sticky⟩)

/-- The order for a candidate that the run is bound to. -/
def boundCourse (models : CallableModels) (plan : RouterExecutionPlan Number)
    (request : ModelInvocationRequest Number) (routing : RoutingAnswer Number)
    (bound : ModelRouterStrategyModel) (sticky : Option (StickyKind × String)) :
    List RuntimeCall × Except InvocationFailure RouterCourse :=
  let eligible := eligibleCandidates python models plan.candidates
  let isNewTurn := isNewUserTurn python request
  let boundInBranch := eligible.any fun candidate => candidate.modelId = bound.modelId
  if isNewTurn && !boundInBranch && eligible.any fun target =>
      effectiveCost python models bound < effectiveCost python models target then
    if plan.strategyType = .modelBased then decidedCourse python models plan routing none
    else ([], .ok ⟨plan.candidates, [], none, none⟩)
  else if (plan.strategyType = .modelBased : Bool) && isNewTurn && boundInBranch &&
      eligible.any fun target => canEscalateCandidate python models bound target eligible then
    escalatedCourse python models plan routing bound eligible sticky
  else ([], .ok ⟨inFront bound plan.candidates, [], some (stickyBasis sticky), sticky⟩)

/-- The order of the candidates, with the requests that decide it. -/
def course (models : CallableModels) (definition : ModelRouterDefinition Number)
    (plan : RouterExecutionPlan Number) (request : ModelInvocationRequest Number)
    (routing : RoutingAnswer Number) (bound : Option (UUID × StickyKind × String)) :
    List RuntimeCall × Except InvocationFailure RouterCourse :=
  match bound.bind fun bound => boundCandidate definition plan bound.1 with
  | some candidate =>
      boundCourse python models plan request routing candidate (bound.map (·.2))
  | none =>
      if plan.strategyType = .modelBased then
        decidedCourse python models plan routing (bound.map (·.2))
      else ([], .ok ⟨plan.candidates, [], none, bound.map (·.2)⟩)

/-! ## The attempts -/

/-- The attempt at a candidate. -/
def candidateAttempt (plan : RouterExecutionPlan Number) (candidate : ModelRouterStrategyModel)
    (attempts : List RouterAttempt) (outcome : AttemptOutcome) (statusCode : Option ℕ)
    (trigger : Option ModelRouterFallbackEvent) (basis : DecisionBasis)
    (sticky : Option (StickyKind × String)) : RouterAttempt where
  sequence := attempts.length + 1
  role := .candidate
  modelId := candidate.modelId
  outcome := outcome
  statusCode := statusCode
  config := some candidate
  strategyType := plan.strategyType
  fallbackTrigger := trigger
  decisionBasis := basis
  decisionCandidates := []
  selectedCandidateModelId := none
  sticky := sticky

/-- `effective_timeout_ms`. -/
def effectiveTimeoutMs (plan : RouterExecutionPlan Number) (candidate : ModelRouterStrategyModel) :
    Option ℕ :=
  match plan.attemptTimeoutMs, candidate.maxLatencyMs with
  | some attempt, some latency => some (min latency attempt)
  | some attempt, none => some attempt
  | none, latency => latency

/-- The attempt that has succeeded. -/
def succeededAttempt (plan : RouterExecutionPlan Number) (order : RouterCourse)
    (candidate : ModelRouterStrategyModel) (attempts : List RouterAttempt) : RouterAttempt :=
  let hasPriorCandidate := attempts.any fun attempt => attempt.role = .candidate
  candidateAttempt plan candidate attempts .succeeded (some 200) none
    (if hasPriorCandidate then .fallbackSuccess
      else order.preferredBasis.getD
        (if plan.strategyType = .weighted then .weightedSelectionSuccess
          else .highestPrioritySuccess))
    (if hasPriorCandidate then none else order.sticky)

/-- What the attempts come to. -/
structure AttemptCourse where
  calls : List RuntimeCall
  attempts : List RouterAttempt
  result : Except InvocationFailure (ModelRouterStrategyModel × RegistryModel)

/-- The loop over the candidates from a position on. -/
def attemptCandidates (models : CallableModels) (plan : RouterExecutionPlan Number)
    (order : RouterCourse) (isBound : Bool) (outcome : ℕ → ProviderOutcome) :
    ℕ → List RouterAttempt → Option HTTPException → List ModelRouterStrategyModel → AttemptCourse
  | _, attempts, lastError, [] => ⟨[], attempts, .error (.http (lastError.getD
      ⟨409, none, "Model router has no callable candidates"⟩))⟩
  | index, attempts, lastError, candidate :: rest =>
      match (models candidate.modelId).filter fun model => !model.isSystemOne with
      | none => attemptCandidates models plan order isBound outcome (index + 1)
          (attempts ++ [candidateAttempt plan candidate attempts .unavailable none none
            .candidateUnavailable none]) lastError rest
      | some model =>
          if model.overCostLimit python.toRateArithmetic candidate.maxCostPerMillion then
            attemptCandidates models plan order isBound outcome (index + 1)
              (attempts ++ [candidateAttempt plan candidate attempts .costLimitExceeded none none
                .costLimitExceeded none]) lastError rest
          else
            let call := RuntimeCall.candidate candidate (effectiveTimeoutMs plan candidate)
              (outcome index)
            match outcome index with
            | none => ⟨[call], attempts ++ [succeededAttempt plan order candidate attempts],
                .ok (candidate, model)⟩
            | some .raised => ⟨[call], attempts, .error .raised⟩
            | some (.http error) =>
                let event := failureEvent error.statusCode
                let failed := attempts ++ [candidateAttempt plan candidate attempts .failed
                  (some error.statusCode) (some event) .providerError none]
                -- a model that the run is bound to may be kept from the user, or be gone
                if (isBound ∧ error.statusCode ∈ [403, 404, 409]) ∨
                    ¬(event ∈ plan.fallbackEvents ∧ rest ≠ []) then
                  ⟨[call], failed, .error (.http error)⟩
                else
                  let following := attemptCandidates models plan order isBound outcome (index + 1)
                    failed (some error) rest
                  { following with calls := call :: following.calls }

/-! ## The invocation -/

/-- An invocation that ends before it sends anything. -/
def refused (bindings : RunBindings) (statusCode : ℕ) (code : Option String) (detail : String) :
    InvocationCourse :=
  ⟨[], [], bindings, .error (.http ⟨statusCode, code, detail⟩)⟩

/-- `_candidate_model_ids`: the models of the pools, and the routing models. -/
def candidateModelIds (definition : ModelRouterDefinition Number) : List UUID :=
  definition.nodes.flatMap (·.candidateIds) ++ definition.nodes.filterMap (·.routingModelId)

/-- `_get_callable_router_row` returns the router. -/
def isCallableRouter (router : ModelRouter Number) (invocation : RouterInvocation Number)
    (routerId : UUID) : Bool :=
  let userId := invocation.request.metadata.userId
  let includePublished := (invocation.request.routerContext "subscription_key_authenticated").any
    fun value => value.truth python.toPythonRuntime
  decide (routerId = router.id) && (invocation.assigned || includePublished &&
    "@applications.turnstile.local".toList.isSuffixOf (python.lower (strip userId)).toList)

/-- `selection_key`. -/
def selectionKey (router : ModelRouter Number) (request : ModelInvocationRequest Number) : String :=
  ":".intercalate [python.renderUuid router.id, toString router.version, request.metadata.userId,
    request.metadata.runId]

/-- The invocation from a plan on. -/
def invokePlan (router : ModelRouter Number) (invocation : RouterInvocation Number)
    (plan : RouterExecutionPlan Number) (custom : Option ℕ) (bindings : RunBindings) :
    InvocationCourse :=
  let models := invocation.registry.callableModels none true
  let bound := boundRun python router invocation custom bindings
  if bound.any fun bound => (models bound.1).isNone then
    let disabled := invocation.registry.models.any fun model =>
      bound.any (fun bound => bound.1 = model.id) && !model.enabled
    refused bindings 403 (some (if disabled then "model_disabled" else "model_unavailable"))
      "The conversation's bound model is unavailable; its binding is retained"
  else
    let (calls, order) := course python models router.definition plan invocation.request
      invocation.routing bound
    match order with
    | .error failure => ⟨calls, [], bindings, .error failure⟩
    | .ok order =>
        let attempted := attemptCandidates python models plan order bound.isSome
          invocation.outcome 0 order.attempts none order.candidates
        match attempted.result with
        | .error failure =>
            ⟨calls ++ attempted.calls, attempted.attempts, bindings, .error failure⟩
        | .ok (candidate, model) =>
            ⟨calls ++ attempted.calls, attempted.attempts,
              saveBindings python router invocation model candidate.modelId bindings,
              .ok ⟨router.id, router.name, router.version, candidate.modelId, model.displayName⟩⟩

/-- `invoke`. -/
def invoke (hash : String → ℕ) (router : ModelRouter Number) (invocation : RouterInvocation Number)
    (bindings : RunBindings) : InvocationCourse :=
  match invocation.request.routerId with
  | none => refused bindings 422 none "router_id is required"
  | some routerId =>
      if isCallableRouter python router invocation routerId then
        let ids := candidateModelIds router.definition
        if invocation.allowedModelIds.any fun allowed => ids = [] ∨ ¬∀ id ∈ ids, id ∈ allowed then
          refused bindings 403 none "Model is not permitted for this application subscription"
        else
          match buildExecutionPlan python.toPythonRuntime hash router.definition
              (routingContext python invocation.request)
              (selectionKey python router invocation.request),
            customTtlSeconds python invocation.request.routerContext with
          | .error error, _ => refused bindings 409 none error.message
          | .ok _, .error failure => ⟨[], [], bindings, .error failure⟩
          | .ok plan, .ok custom => invokePlan python router invocation plan custom bindings
      else refused bindings 403 none "Model router is not published or assigned to this user"

/-- The bindings after a conversation. -/
def converse (hash : String → ℕ) (router : ModelRouter Number) :
    List (RouterInvocation Number) → RunBindings :=
  List.foldl (fun bindings invocation =>
      (invoke python hash router invocation bindings).bindings) []

end ModelRouterExecutionService

end Turnstile
