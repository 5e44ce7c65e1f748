import Turnstile.Foundation.Guard
import Turnstile.Foundation.Json

/-!
# The upgrade of router definitions

Definitions of version 1 keep the settings of a model at the candidate; later ones keep them
at the strategy.  A definition is upgraded in its decoded form, before it is validated: its
nodes are dictionaries that the upgrade changes in place, so a node is known by its position.
-/

namespace Turnstile

open Guard

/-! ## The language -/

/-- What the upgrade takes from the language. -/
structure PythonJson (F : Type) where
  /-- `str(value)`. -/
  str : Json (Numeral F) → String
  /-- `left == right`. -/
  eq : Json (Numeral F) → Json (Numeral F) → Bool
  /-- `value == 0` of a float. -/
  isZero : F → Bool
  /-- `value == 1` of a float. -/
  isOne : F → Bool

/-- A value of another type. -/
inductive PythonError where
  | typeError
deriving DecidableEq, Repr

namespace RouterUpgrade

variable {F : Type}

/-- A decoded value. -/
abbrev Value (F : Type) := Json (Numeral F)

/-- The fields of a dictionary. -/
abbrev Dict (F : Type) := List (String × Value F)

variable (python : PythonJson F)

/-- `bool(value)`. -/
def truth : Value F → Bool
  | .null => false
  | .bool value => value
  | .number (.int value) => decide (value ≠ 0)
  | .number (.float value) => !python.isZero value
  | .text value => value != ""
  | .array items => !items.isEmpty
  | .object fields => !fields.isEmpty

/-- `value == 1`. -/
def isOne : Value F → Bool
  | .number (.int value) => decide (value = 1)
  | .number (.float value) => python.isOne value
  | .bool value => value
  | _ => false

/-- The elements of `value or []`. -/
def itemsOrEmpty (value : Value F) : Except PythonError (List (Value F)) :=
  if truth python value then expect value.items? .typeError else .ok []

/-- `value in {"strategy", "priority"}`; lists and dictionaries have no hash. -/
def isStrategyType : Value F → Except PythonError Bool
  | .text type => .ok (type == "strategy" || type == "priority")
  | .array _ | .object _ => .error .typeError
  | _ => .ok false

/-! ## Nodes -/

/-- The identifier and the type of a node. -/
structure NodeShape (F : Type) where
  id : Value F
  type : Value F

/-- What edges see of a node that is a dictionary. -/
def shapeOf : Value F → Option (NodeShape F)
  | .object fields => some ⟨Json.get fields "id", Json.get fields "type"⟩
  | _ => none

/-- The shapes of the nodes, by their positions. -/
abbrev Shapes (F : Type) := List (Option (NodeShape F))

/-- `nodes_by_id.get(str(id))`: of nodes with one id the last one counts. -/
def nodesById (shapes : Shapes F) (id : Value F) : Option ℕ :=
  (List.range shapes.length).reverse.find? fun j =>
    (shapes[j]?.join).any fun shape => python.str shape.id = python.str id

/-- `node.get("type") in {"strategy", "priority"}`. -/
def isStrategyAt (shapes : Shapes F) (j : ℕ) : Except PythonError Bool :=
  match shapes[j]?.join with
  | some shape => isStrategyType shape.type
  | none => .ok false

/-- The node that an edge names with `key`, if it is a strategy. -/
def strategyOf (shapes : Shapes F) (edge : Dict F) (key : String) :
    Except PythonError (Option ℕ) :=
  match nodesById python shapes (Json.get edge key) with
  | some j => do
      let found ← isStrategyAt shapes j
      pure (if found then some j else none)
  | none => .ok none

/-- The first strategy that an edge leads to from a node. -/
def downstream (shapes : Shapes F) (id : Value F) :
    List (Value F) → Except PythonError (Option ℕ)
  | [] => .ok none
  | .object edge :: edges =>
      if python.eq (Json.get edge "source") id then do
        match ← strategyOf python shapes edge "target" with
        | some j => pure (some j)
        | none => downstream shapes id edges
      else downstream shapes id edges
  | _ :: edges => downstream shapes id edges

/-- The first strategy of some nodes. -/
def firstStrategy (shapes : Shapes F) : List ℕ → Except PythonError (Option ℕ)
  | [] => .ok none
  | j :: rest => do
      if ← isStrategyAt shapes j then pure (some j) else firstStrategy shapes rest

/-- The strategy that takes over the settings of a pool. -/
def chosenStrategy (shapes : Shapes F) (edges : List (Value F)) (id : Value F) :
    Except PythonError (Option ℕ) := do
  match ← downstream python shapes id edges with
  | some j => pure (some j)
  | none => firstStrategy shapes (List.range shapes.length)

/-! ## Pools -/

/-- `node["type"] = "strategy"` for a node of type `priority`. -/
def convertPriority : Value F → Value F
  | .object fields =>
      match Json.get fields "type" with
      | .text "priority" => .object
          (Json.set (Json.set fields "type" (.text "strategy")) "strategy_type" (.text "priority"))
      | _ => .object fields
  | node => node

/-- `enabled_candidates`. -/
def enabledCandidates (candidates : List (Value F)) : List (Dict F) :=
  (candidates.filterMap Json.fields?).filter fun candidate =>
    truth python (Json.getD candidate "enabled" (.bool true))

/-- `str(config.get("model_id"))`. -/
def modelText (config : Dict F) : String := python.str (Json.get config "model_id")

/-- The candidate as a later definition has it. -/
def bareCandidate (candidate : Dict F) : Value F :=
  .object [("model_id", Json.get candidate "model_id")]

/-- The settings of a candidate, as a configuration of a strategy. -/
def configOf (index : ℕ) (candidate : Dict F) : Value F :=
  .object
    [("model_id", Json.get candidate "model_id"),
      ("priority", Json.getD candidate "priority" (.number (.int (index + 1)))),
      ("weight", Json.getD candidate "weight" (.number (.int 100))),
      ("max_latency_ms", Json.get candidate "max_latency_ms"),
      ("max_cost_per_million", Json.get candidate "max_cost_per_million"),
      ("description", Json.getD candidate "description" (.text ""))]

/-- The configurations that a pool adds to those of its strategy. -/
def addedConfigs (existing : List String) (enabled : List (Dict F)) : List (Value F) :=
  (enabled.zipIdx.filter fun entry => modelText python entry.1 ∉ existing).map fun entry =>
    configOf entry.2 entry.1

/-- `existing`. -/
def modelTexts (configs : List (Value F)) : List String :=
  (configs.filterMap Json.fields?).map (modelText python)

/-- What a round of the loop over the pools does to the strategy. -/
def extendStrategy (enabled : List (Dict F)) (strategy : Dict F) :
    Except PythonError (Dict F) := do
  let configs ← itemsOrEmpty python (Json.get strategy "model_configs")
  pure (Json.set strategy "model_configs"
    (.array (configs ++ addedConfigs python (modelTexts python configs) enabled)))

/-- A round of the loop over the pools. -/
def upgradePool (edges nodes : List (Value F)) (i : ℕ) :
    Except PythonError (List (Value F)) :=
  match nodes[i]? with
  | some (.object pool) =>
      match Json.get pool "type" with
      | .text "candidate_models" => do
          let candidates ← itemsOrEmpty python (Json.get pool "candidates")
          let enabled := enabledCandidates python candidates
          let nodes := nodes.set i
            (.object (Json.set pool "candidates" (.array (enabled.map bareCandidate))))
          match ← chosenStrategy python (nodes.map shapeOf) edges (Json.get pool "id") with
          | none => pure nodes
          | some j =>
              match nodes[j]? with
              | some (.object strategy) => do
                  let strategy ← extendStrategy python enabled strategy
                  pure (nodes.set j (.object strategy))
              | _ => pure nodes
      | _ => .ok nodes
  | _ => .ok nodes

/-! ## Timeouts -/

/-- `owners`. -/
def owners (shapes : Shapes F) (id : Value F) :
    List (Value F) → Except PythonError (List ℕ)
  | [] => .ok []
  | .object edge :: edges =>
      if python.eq (Json.get edge "target") id then do
        let owner ← strategyOf python shapes edge "source"
        let rest ← owners shapes id edges
        pure (owner.toList ++ rest)
      else owners shapes id edges
  | _ :: edges => owners shapes id edges

/-- `strategy["timeout_ms"] = timeout` for a strategy that has none. -/
def giveTimeout (timeout : Value F) (nodes : List (Value F)) (j : ℕ) :
    List (Value F) :=
  match nodes[j]? with
  | some (.object strategy) =>
      if (Json.get strategy "timeout_ms").present then nodes
      else nodes.set j (.object (Json.set strategy "timeout_ms" timeout))
  | _ => nodes

/-- A round of the loop over the fallbacks. -/
def moveTimeout (edges nodes : List (Value F)) (i : ℕ) :
    Except PythonError (List (Value F)) :=
  match nodes[i]? with
  | some (.object fallback) =>
      match Json.get fallback "type", (Json.get fallback "timeout_ms").present with
      | .text "fallback", true => do
          let found ← owners python (nodes.map shapeOf) (Json.get fallback "id") edges
          if found = [] then pure nodes
          else
            let nodes := found.foldl (giveTimeout (Json.get fallback "timeout_ms")) nodes
            pure (nodes.set i (.object (Json.set fallback "timeout_ms" .null)))
      | _, _ => .ok nodes
  | _ => .ok nodes

/-! ## Definitions -/

/-- `schema_version` is 1, or missing. -/
def isFirstVersion (definition : Dict F) : Bool :=
  isOne python (Json.getD definition "schema_version" (.number (.int 1)))

/-- The first half: the settings of the candidates move to the strategies. -/
def upgradePools (definition : Dict F) (edges nodes : List (Value F)) :
    Except PythonError (List (Value F)) :=
  if isFirstVersion python definition then
    (List.range nodes.length).foldlM (upgradePool python edges) (nodes.map convertPriority)
  else .ok nodes

/-- The second half: the timeouts of the fallbacks move to the strategies. -/
def moveTimeouts (edges nodes : List (Value F)) : Except PythonError (List (Value F)) :=
  (List.range nodes.length).foldlM (moveTimeout python edges) nodes

/-- The nodes are changed in place where they are a list. -/
def putNodes (definition : Dict F) (nodes : List (Value F)) : Dict F :=
  match Json.get definition "nodes" with
  | .array (_ :: _) => Json.set definition "nodes" (.array nodes)
  | _ => definition

/-- `upgrade_v1_strategy_ownership`. -/
def upgradeV1StrategyOwnership : Value F → Except PythonError (Value F)
  | .object definition => do
      let nodes ← itemsOrEmpty python (Json.get definition "nodes")
      let edges ← itemsOrEmpty python (Json.get definition "edges")
      let upgraded ← upgradePools python definition edges nodes
      let moved ← moveTimeouts python edges upgraded
      pure (.object (Json.set (putNodes definition moved) "schema_version" (.number (.int 2))))
  | value => .ok value

end RouterUpgrade

end Turnstile
