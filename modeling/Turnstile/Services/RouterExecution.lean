import Mathlib.Data.List.Sort
import Turnstile.Foundation.Graph
import Turnstile.Domain.ModelRouter

/-!
# Execution of a router

A request walks the router's graph from the start node.  A condition with several
branches keeps those that its outcome selects; every other node goes on to all that
follows.  The plan has the models of the pools on the way, as the one strategy on the
way configures and orders them.
-/

namespace Turnstile

/-- A routing context. -/
abbrev RoutingContext (Number : Type) := String → Option (Scalar Number)

/-- What a plan records of a condition. -/
structure ConditionEvaluation (Number : Type) where
  nodeId : String
  nodeLabel : String
  field : String
  operator : ModelRouterConditionOperator
  expected : Option (Scalar Number)
  actual : Option (Scalar Number)
  matched : Bool
  branch : String

/-- `_RouterExecutionPlan`. -/
structure RouterExecutionPlan (Number : Type) where
  candidates : List ModelRouterStrategyModel
  fallbackEvents : List ModelRouterFallbackEvent
  strategyType : ModelRouterStrategyType
  routingModelId : Option UUID
  attemptTimeoutMs : Option ℕ
  decisionTimeoutMs : ℕ
  decisionPrompt : Option String
  maxPromptChars : ℕ
  conditionEvaluations : List (ConditionEvaluation Number)
  decisionReasoningEffort : Option ModelRouterReasoningEffort

/-- `ModelRouterConflictError`. -/
structure ModelRouterConflictError where
  message : String
deriving DecidableEq, Repr

namespace ModelRouterExecutionService

variable {Number : Type} (python : PythonRuntime Number)

/-! ## Conditions -/

/-- `str(value or "")`. -/
def textOrEmpty (value : Option (Scalar Number)) : String :=
  match value with
  | some value => if value.truth python then value.str python else ""
  | none => ""

/-- `float(str(value))`, unless it raises. -/
def floatOf (value : Option (Scalar Number)) : Option Number :=
  match value with
  | some value => python.parse (value.str python)
  | none => python.parse "None"

/-- `left == right`. -/
def valuesEqual : Option (Scalar Number) → Option (Scalar Number) → Bool
  | some a, some b => a.equal python b
  | none, none => true
  | _, _ => false

/-- The separators of keywords. -/
def isSeparator (c : Char) : Bool :=
  c ∈ [',', ';', '\n', '|', '，', '；']

/-- `re.split(r"[,;\n|，；]+", text)`, but for empty parts. -/
def splitKeywords : List Char → List Char → List String
  | part, [] => [String.ofList part.reverse]
  | part, c :: rest =>
      if isSeparator c then String.ofList part.reverse :: splitKeywords [] rest
      else splitKeywords (c :: part) rest

/-- The keywords of `matches_any`. -/
def keywords (expected : String) : List String :=
  ((splitKeywords [] expected.toList).filter fun item => strip item != "").map fun item =>
    python.casefold (strip item)

/-- A comparison of numbers; a value that is no number matches nothing. -/
def compare (relation : Number → Number → Bool) (actual expected : Option (Scalar Number)) : Bool :=
  match floatOf python actual, floatOf python expected with
  | some a, some b => relation a b
  | _, _ => false

/-- `_condition_matches`. -/
def conditionMatches (condition : ModelRouterCondition Number) (context : RoutingContext Number) :
    Bool :=
  let actual := context condition.field
  match condition.operator with
  | .exists => actual.isSome
  | .equals => valuesEqual python actual condition.value
  | .notEquals => !valuesEqual python actual condition.value
  | .contains =>
      match condition.value with
      | some expected => occursIn (python.casefold (expected.str python))
          (python.casefold (textOrEmpty python actual))
      | none => false
  | .matchesAny =>
      match condition.value with
      | some expected => (keywords python (expected.str python)).any fun keyword =>
          occursIn keyword (python.casefold (textOrEmpty python actual))
      | none => false
  | .greaterThan => compare python (fun a b => python.lt b a) actual condition.value
  | .greaterThanOrEqual => compare python (fun a b => python.le b a) actual condition.value
  | .lessThan => compare python python.lt actual condition.value
  | .lessThanOrEqual => compare python python.le actual condition.value

/-- `_condition_edge_matches`. -/
def conditionEdgeMatches (label : String) (matched : Bool) : Bool :=
  let normalized := python.normalize label
  if normalized = "" then true
  else if normalized ∈ trueLabels then matched
  else if normalized ∈ falseLabels then !matched
  else matched

/-! ## The walk -/

section

variable (definition : ModelRouterDefinition Number) (context : RoutingContext Number)

/-- The condition that decides where a node goes on to. -/
def branching (node : ModelRouterNode Number) : Option (ModelRouterCondition Number) :=
  if node.type = .condition ∧ 1 < (definition.edgesFrom node.id).length then node.condition
  else none

/-- The edges that the walk takes out of a node. -/
def takenEdges (node : ModelRouterNode Number) : List ModelRouterEdge :=
  match branching definition node with
  | some condition => (definition.edgesFrom node.id).filter fun edge =>
      conditionEdgeMatches python edge.label (conditionMatches python condition context)
  | none => definition.edgesFrom node.id

/-- Where the walk goes on to. -/
def takenTargets (id : String) : List String :=
  match definition.nodeById id with
  | some node => (takenEdges python definition context node).map (·.target)
  | none => []

/-- The start of the walk. -/
def startIds : List String :=
  ((definition.nodesOf .start).head?.map (·.id)).toList

/-- The nodes of the walk, breadth first. -/
def walk : List (ModelRouterNode Number) :=
  (Graph.reach (takenTargets python definition context)
    (fun id => (definition.nodeById id).isSome) (· ++ ·) definition.nodeIds
    (startIds definition)).filterMap definition.nodeById

/-- `actual_preview`. -/
def preview : Option (Scalar Number) → Option (Scalar Number)
  | some (.text value) =>
      if 120 < value.length then some (.text (String.ofList (value.toList.take 117) ++ "..."))
      else some (.text value)
  | actual => actual

/-- What the plan records of a node. -/
def conditionEvaluation (node : ModelRouterNode Number) : Option (ConditionEvaluation Number) :=
  (branching definition node).map fun condition =>
    let matched := conditionMatches python condition context
    { nodeId := node.id
      nodeLabel := node.label
      field := condition.field
      operator := condition.operator
      expected := condition.value
      actual := preview (context condition.field)
      matched := matched
      branch := if matched then "Match" else "Else" }

end

/-! ## Order of the candidates -/

/-- The index of the candidate that a draw selects. -/
def selectedIndex (draw : ℕ) : ℕ → ℕ → List ModelRouterStrategyModel → ℕ
  | _, _, [] => 0
  | cumulative, index, candidate :: rest =>
      if draw < cumulative + candidate.weight then index
      else selectedIndex draw (cumulative + candidate.weight) (index + 1) rest

/-- The rounds of `_weighted_order`; `hash` is the number in the first eight bytes of
the SHA-256 of a text. -/
def weightedRounds (hash : String → ℕ) (selectionKey : String) :
    ℕ → ℕ → List ModelRouterStrategyModel → List ModelRouterStrategyModel
  | 0, _, _ => []
  | fuel + 1, roundIndex, remaining =>
      let totalWeight := (remaining.map (·.weight)).sum
      let draw := hash s!"{selectionKey}:{roundIndex}" % totalWeight
      let selected := selectedIndex draw 0 0 remaining
      remaining[selected]?.toList ++
        weightedRounds hash selectionKey fuel (roundIndex + 1) (remaining.eraseIdx selected)

/-- `_weighted_order`. -/
def weightedOrder (hash : String → ℕ) (candidates : List ModelRouterStrategyModel)
    (selectionKey : String) : List ModelRouterStrategyModel :=
  weightedRounds hash selectionKey candidates.length 0
    (candidates.insertionSort fun a b => a.modelId ≤ b.modelId)

/-- Priority first, then the greater weight, then the identifier. -/
def ComesBefore (a b : ModelRouterStrategyModel) : Prop :=
  a.priority < b.priority ∨ a.priority = b.priority ∧
    (b.weight < a.weight ∨ b.weight = a.weight ∧ a.modelId ≤ b.modelId)

instance : DecidableRel ComesBefore :=
  fun _ _ => inferInstanceAs (Decidable (_ ∨ _ ∧ (_ ∨ _ ∧ _)))

/-! ## The plan -/

/-- The nodes whose edges lead to fallbacks: a strategy, and those that follow it. -/
def policyNodes (definition : ModelRouterDefinition Number) (sources : List String) :
    List String :=
  Graph.reach
    (fun id => (((definition.edgesFrom id).filterMap fun edge =>
        definition.nodeById edge.target).filter
      fun node => node.IsStrategy).map (·.id))
    (fun id => (definition.nodeById id).isSome) (fun pending new => new ++ pending)
    definition.nodeIds sources

/-- `fallback_events`. -/
def fallbackEvents (definition : ModelRouterDefinition Number) (sources : List String) :
    List ModelRouterFallbackEvent :=
  let fallbacks := ((policyNodes definition sources).flatMap definition.edgesFrom).filterMap
    fun edge => (definition.nodeById edge.target).filter fun node => node.type = .fallback
  [.error, .timeout, .rateLimit].filter fun event =>
    fallbacks.any fun node => event ∈ node.fallbackOn

/-- The configuration that a strategy has for a model: the last one counts. -/
def configFor (strategy : ModelRouterNode Number) (modelId : UUID) :
    Option ModelRouterStrategyModel :=
  strategy.modelConfigs.reverse.find? fun config => config.modelId = modelId

/-- The models of a list of pools, each once. -/
def uniqueModelIds (pools : List (ModelRouterNode Number)) : List UUID :=
  (pools.flatMap (·.candidateIds)).eraseDups

/-- The order of a strategy. -/
def ordered (hash : String → ℕ) (strategyType : ModelRouterStrategyType)
    (available : List ModelRouterStrategyModel) (selectionKey : String) :
    List ModelRouterStrategyModel :=
  if strategyType = .weighted then weightedOrder hash available selectionKey
  else available.insertionSort ComesBefore

/-- `_build_execution_plan`. -/
def buildExecutionPlan (hash : String → ℕ) (definition : ModelRouterDefinition Number)
    (context : RoutingContext Number) (selectionKey : String) :
    Except ModelRouterConflictError (RouterExecutionPlan Number) :=
  let nodes := walk python definition context
  let pools := nodes.filter fun node => node.type = .candidateModels
  match nodes.filter fun node => node.IsStrategy with
  | [strategy] =>
      let strategyType := strategy.strategyType.getD .priority
      let available := (uniqueModelIds pools).filterMap (configFor strategy)
      .ok {
        candidates := ordered hash strategyType available selectionKey
        fallbackEvents := fallbackEvents definition [strategy.id]
        strategyType := strategyType
        routingModelId := strategy.routingModelId
        attemptTimeoutMs := strategy.timeoutMs
        decisionTimeoutMs := 5000
        decisionPrompt := strategy.decisionPrompt
        maxPromptChars := strategy.maxPromptChars
        conditionEvaluations := nodes.filterMap (conditionEvaluation python definition context)
        decisionReasoningEffort := strategy.decisionReasoningEffort }
  | _ => .error ⟨"The selected Router path must reach exactly one Strategy"⟩

end ModelRouterExecutionService

end Turnstile
