import Mathlib.Data.List.Infix
import Turnstile.Domain.Values

/-!
# Router definitions

A router is a graph.  From its start node a request passes conditions, which choose one
of two branches, and candidate pools, and reaches a strategy that orders the models of
the pools.
-/

namespace Turnstile

/-! ## Scalars -/

/-- What conditions take from the language: case folding and floating-point numbers. -/
structure PythonRuntime (Number : Type) where
  casefold : String → String
  ofBool : Bool → Number
  /-- `str` of a float. -/
  render : Number → String
  /-- `float` of a text, unless it raises `ValueError`. -/
  parse : String → Option Number
  eq : Number → Number → Bool
  lt : Number → Number → Bool
  le : Number → Number → Bool

/-- The white space of `str.strip`. -/
def isSpace (c : Char) : Bool :=
  let n := c.toNat
  (9 ≤ n && n ≤ 13) || (28 ≤ n && n ≤ 32) || n == 133 || n == 160 || n == 5760 ||
    (8192 ≤ n && n ≤ 8202) || n == 8232 || n == 8233 || n == 8239 || n == 8287 || n == 12288

/-- `text.strip()`. -/
def strip (text : String) : String :=
  String.ofList (((text.toList.dropWhile isSpace).reverse.dropWhile isSpace).reverse)

/-- `needle in haystack`. -/
def occursIn (needle haystack : String) : Bool :=
  decide (needle.toList <:+: haystack.toList)

/-- A value of a routing context. -/
inductive Scalar (Number : Type) where
  | text (value : String)
  | number (value : Number)
  | bool (value : Bool)

namespace Scalar

variable {Number : Type} (python : PythonRuntime Number)

/-- `str(value)`. -/
def str : Scalar Number → String
  | .text value => value
  | .number value => python.render value
  | .bool true => "True"
  | .bool false => "False"

/-- `bool(value)`. -/
def truth : Scalar Number → Bool
  | .text value => value != ""
  | .number value => !python.eq value (python.ofBool false)
  | .bool value => value

/-- `left == right`: a truth value is a number. -/
def equal : Scalar Number → Scalar Number → Bool
  | .text a, .text b => a == b
  | .number a, .number b => python.eq a b
  | .number a, .bool b => python.eq a (python.ofBool b)
  | .bool a, .number b => python.eq (python.ofBool a) b
  | .bool a, .bool b => a == b
  | _, _ => false

end Scalar

/-! ## Nodes and edges -/

inductive ModelRouterNodeType where
  | start
  | condition
  | candidateModels
  | strategy
  | priority
  | fallback
  | output
deriving DecidableEq, Repr

inductive ModelRouterStrategyType where
  | priority
  | weighted
  | modelBased
deriving DecidableEq, Repr

inductive ModelRouterConditionOperator where
  | equals
  | notEquals
  | contains
  | matchesAny
  | greaterThan
  | greaterThanOrEqual
  | lessThan
  | lessThanOrEqual
  | exists
deriving DecidableEq, Repr

inductive ModelRouterFallbackEvent where
  | error
  | timeout
  | rateLimit
  | quality
deriving DecidableEq, Repr

inductive ModelRouterReasoningEffort where
  | none
  | low
  | medium
  | high
deriving DecidableEq, Repr

/-- `ModelRouterCondition`. -/
structure ModelRouterCondition (Number : Type) where
  field : String
  operator : ModelRouterConditionOperator
  value : Option (Scalar Number)

/-- `ModelRouterCandidate`. -/
structure ModelRouterCandidate where
  modelId : UUID
deriving DecidableEq, Repr

/-- `ModelRouterStrategyModel`. -/
structure ModelRouterStrategyModel where
  modelId : UUID
  priority : ℕ
  weight : ℕ
  maxLatencyMs : Option ℕ
  maxCostPerMillion : Option ℚ
  description : String
  weight_pos : 1 ≤ weight
deriving DecidableEq

/-- `ModelRouterNode`. -/
structure ModelRouterNode (Number : Type) where
  id : String
  type : ModelRouterNodeType
  label : String
  condition : Option (ModelRouterCondition Number)
  candidates : List ModelRouterCandidate
  strategyType : Option ModelRouterStrategyType
  modelConfigs : List ModelRouterStrategyModel
  routingModelId : Option UUID
  decisionPrompt : Option String
  maxPromptChars : ℕ
  decisionReasoningEffort : Option ModelRouterReasoningEffort
  fallbackOn : List ModelRouterFallbackEvent
  timeoutMs : Option ℕ

/-- `ModelRouterEdge`. -/
structure ModelRouterEdge where
  id : String
  source : String
  target : String
  label : String
deriving DecidableEq, Repr

/-- `ModelRouterDefinition`. -/
structure ModelRouterDefinition (Number : Type) where
  nodes : List (ModelRouterNode Number)
  edges : List ModelRouterEdge

namespace ModelRouterNode

variable {Number : Type}

/-- `node.type in {"strategy", "priority"}`. -/
def IsStrategy (node : ModelRouterNode Number) : Prop :=
  node.type = .strategy ∨ node.type = .priority

instance (node : ModelRouterNode Number) : Decidable node.IsStrategy :=
  inferInstanceAs (Decidable (_ ∨ _))

/-- The models of a candidate pool. -/
def candidateIds (node : ModelRouterNode Number) : List UUID :=
  node.candidates.map (·.modelId)

/-- The models that a strategy configures. -/
def configIds (node : ModelRouterNode Number) : List UUID :=
  node.modelConfigs.map (·.modelId)

end ModelRouterNode

namespace ModelRouterDefinition

variable {Number : Type} (definition : ModelRouterDefinition Number)

/-- `node_ids`. -/
def nodeIds : List String :=
  (definition.nodes.map (·.id)).dedup

/-- `nodes_by_id`: of nodes with one id the last one counts. -/
def nodeById (id : String) : Option (ModelRouterNode Number) :=
  definition.nodes.reverse.find? fun node => node.id = id

/-- The edges out of a node. -/
def edgesFrom (id : String) : List ModelRouterEdge :=
  definition.edges.filter fun edge => edge.source = id

/-- The nodes of a type. -/
def nodesOf (type : ModelRouterNodeType) : List (ModelRouterNode Number) :=
  definition.nodes.filter fun node => node.type = type

end ModelRouterDefinition

/-! ## Branches -/

/-- The labels of a branch that is taken when its condition holds. -/
def trueLabels : List String := ["match", "matched", "true", "yes", "匹配"]

/-- The labels of a branch that is taken when its condition does not hold. -/
def falseLabels : List String := ["else", "default", "false", "no", "未匹配"]

/-- `label.strip().casefold()`. -/
def PythonRuntime.normalize {Number : Type} (python : PythonRuntime Number) (label : String) :
    String :=
  python.casefold (strip label)

end Turnstile
