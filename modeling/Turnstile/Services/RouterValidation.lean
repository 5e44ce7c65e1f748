import Mathlib.Data.Finset.Dedup
import Mathlib.Data.List.Sort
import Turnstile.Foundation.Graph
import Turnstile.Domain.ModelRouter

/-!
# Validation of a router

The validator collects the issues of a definition.  Besides the nodes, the edges and the
branches on their own it looks at the graph as a whole: what the start reaches, what
reaches the output, whether there is a cycle, and which strategies lie on a path.
-/

namespace Turnstile

/-- `ModelRouterValidationIssue`. -/
structure ModelRouterValidationIssue where
  code : String
  message : String
  nodeId : Option String
deriving DecidableEq, Repr

/-- `ModelRouterValidationResult`. -/
structure ModelRouterValidationResult where
  valid : Bool
  issues : List ModelRouterValidationIssue
deriving DecidableEq, Repr

namespace ModelRouterService

/-- One issue, if there is cause for it. -/
def issueIf (cause : Prop) [Decidable cause] (code message : String) (nodeId : Option String) :
    List ModelRouterValidationIssue :=
  if cause then [⟨code, message, nodeId⟩] else []

@[simp] theorem issueIf_eq_nil {cause : Prop} [Decidable cause] {code message : String}
    {nodeId : Option String} : issueIf cause code message nodeId = [] ↔ ¬cause := by
  simp [issueIf]

/-- One issue for each node, in the order of their ids. -/
def issuePerNode (nodeIds : List String) (code message : String) :
    List ModelRouterValidationIssue :=
  (nodeIds.insertionSort (· ≤ ·)).map fun nodeId => ⟨code, message, some nodeId⟩

/-- The ids that occur more than once. -/
def duplicates (ids : List String) : List String :=
  ids.dedup.filter fun id => 1 < ids.count id

/-- The issues of the ids. -/
def duplicateIssues {Number : Type} (definition : ModelRouterDefinition Number) :
    List ModelRouterValidationIssue :=
  issuePerNode (duplicates (definition.nodes.map (·.id))) "duplicate_node_id" "节点 ID 必须唯一。" ++
    ((duplicates (definition.edges.map (·.id))).insertionSort (· ≤ ·)).map fun edgeId =>
      ⟨"duplicate_edge_id", s!"连线 ID {edgeId} 重复。", none⟩

/-! ## Nodes -/

section

variable {Number : Type} (node : ModelRouterNode Number)

/-- The issues of a condition on its own. -/
def conditionIssues : List ModelRouterValidationIssue :=
  issueIf (node.condition.isNone) "condition_missing" "Condition 节点缺少判断条件。" node.id

/-- The issues of a pool on its own. -/
def candidateIssues : List ModelRouterValidationIssue :=
  issueIf (node.candidates = []) "candidate_empty" "Candidate Models 节点至少需要一个模型。" node.id ++
    issueIf (¬node.candidateIds.Nodup) "candidate_duplicate" "同一候选池不能重复添加模型。" node.id

/-- The issues of a strategy on its own. -/
def strategyIssues : List ModelRouterValidationIssue :=
  (match node.strategyType with
    | none => [⟨"strategy_type_missing", "Strategy 节点必须选择一种策略。", node.id⟩]
    | some .modelBased => issueIf (node.routingModelId.isNone) "strategy_routing_model_missing"
        "模型判路由策略必须指定 Routing Model。" node.id
    | some _ => []) ++
  issueIf (¬node.configIds.Nodup) "strategy_model_duplicate"
    "Strategy 不能重复配置同一个候选模型。" node.id ++
  issueIf (node.strategyType = some .priority ∧ ¬(node.modelConfigs.map (·.priority)).Nodup)
    "strategy_priority_duplicate" "Priority 策略中每个候选模型必须有唯一优先级。" node.id

/-- The issues of a fallback on its own. -/
def fallbackIssues : List ModelRouterValidationIssue :=
  issueIf (node.fallbackOn = []) "fallback_event_missing" "Fallback 节点至少需要一个触发条件。" node.id ++
    issueIf (.quality ∈ node.fallbackOn) "fallback_quality_unsupported"
      "质量不足尚无在线评估信号，不能作为 Fallback 条件。" node.id

/-- The issues of a node on its own. -/
def nodeIssues : List ModelRouterValidationIssue :=
  match node.type with
  | .condition => conditionIssues node
  | .candidateModels => candidateIssues node
  | .strategy => strategyIssues node
  | .fallback => fallbackIssues node
  | _ => []

/-- The models that a node asks for. -/
def selectedModelIds : List UUID :=
  match node.type, node.strategyType with
  | .candidateModels, _ => node.candidateIds
  | .strategy, some .modelBased => node.routingModelId.toList
  | _, _ => []

end

/-! ## Edges -/

section

variable {Number : Type} (python : PythonRuntime Number) (definition : ModelRouterDefinition Number)

/-- The issue of models that are not available. -/
def availabilityIssues (availableModelIds : Option (List UUID)) : List ModelRouterValidationIssue :=
  match availableModelIds with
  | none => []
  | some available =>
      let unavailable := (definition.nodes.flatMap selectedModelIds).filter fun modelId =>
        modelId ∉ available
      issueIf (unavailable ≠ []) "candidate_unavailable" "候选池包含已停用或当前用户无权访问的模型。"
        ((definition.nodes.find? fun node => node.candidateIds.any (· ∈ unavailable) ||
          node.routingModelId.any (· ∈ unavailable)).map (·.id))

/-- Both ends of an edge are nodes. -/
def HasEnds (edge : ModelRouterEdge) : Prop :=
  edge.source ∈ definition.nodeIds ∧ edge.target ∈ definition.nodeIds

instance (edge : ModelRouterEdge) : Decidable (HasEnds definition edge) :=
  inferInstanceAs (Decidable (_ ∧ _))

/-- The issues of an edge. -/
def edgeIssues (edge : ModelRouterEdge) : List ModelRouterValidationIssue :=
  issueIf (edge.source = edge.target) "self_edge" "节点不能连接到自身。" edge.source ++
    issueIf (¬HasEnds definition edge) "edge_endpoint_missing" "连线引用了不存在的节点。" none

/-- `outgoing`. -/
def outgoing (id : String) : List String :=
  ((definition.edges.filter fun edge => HasEnds definition edge ∧ edge.source = id).map
    (·.target)).dedup

/-- `incoming`. -/
def incoming (id : String) : List String :=
  ((definition.edges.filter fun edge => HasEnds definition edge ∧ edge.target = id).map
    (·.source)).dedup

/-- The edges whose label is one of a branch. -/
def labelled (labels : List String) (edges : List ModelRouterEdge) : List ModelRouterEdge :=
  edges.filter fun edge => python.normalize edge.label ∈ labels

/-- The issues of the branches of a condition. -/
def branchIssues (node : ModelRouterNode Number) : List ModelRouterValidationIssue :=
  let edges := definition.edgesFrom node.id
  let matchEdges := labelled python trueLabels edges
  let elseEdges := labelled python falseLabels edges
  issueIf (matchEdges.length ≠ 1 ∨ elseEdges.length ≠ 1) "condition_branches_incomplete"
    "Condition 必须且只能连接一条 Match 和一条 Else 分支。" node.id ++
  issueIf (edges.length ≠ 2 ∨ matchEdges.length + elseEdges.length ≠ 2)
    "condition_branches_ambiguous" "Condition 不能包含未命名或额外分支。" node.id ++
  issueIf (matchEdges.length = 1 ∧ elseEdges.length = 1 ∧
      matchEdges.map (·.target) = elseEdges.map (·.target))
    "condition_branches_same_target" "Condition 的 Match 和 Else 必须指向不同分支。" node.id

/-- The strategies that follow a pool. -/
def strategyTargets (node : ModelRouterNode Number) : List (ModelRouterNode Number) :=
  ((outgoing definition node.id).filterMap definition.nodeById).filter fun target =>
    target.IsStrategy

/-- The issues of what follows a pool. -/
def poolIssues (node : ModelRouterNode Number) : List ModelRouterValidationIssue :=
  let strategies := strategyTargets definition node
  (if strategies = [] then
    [⟨"candidate_strategy_missing", "Candidate Models 必须连接到 Strategy 节点。", node.id⟩]
  else issueIf (∃ target ∈ outgoing definition node.id, target ∉ strategies.map (·.id))
    "candidate_strategy_bypass" "Candidate Models 不能绕过 Strategy 连接其他节点。" node.id) ++
  strategies.flatMap fun strategy =>
    issueIf (strategy.configIds.toFinset ≠ node.candidateIds.toFinset) "strategy_models_mismatch"
      "Strategy 必须配置候选池中的每一个模型，且不能包含池外模型。" strategy.id

/-! ## The graph -/

/-- `merge` of `_strategy_outcomes`. -/
def merge (left right : List String) : List String :=
  if 1 < left.length ∨ 1 < right.length then ["", ""]
  else if left = [] then right
  else if right = [] ∨ left = right then left
  else ["", ""]

/-- The strategies that a node is, in an outcome. -/
def ownOutcome (node : ModelRouterNode Number) : List String :=
  if node.IsStrategy then [node.id] else []

/-- The outcomes of a node from the outcomes of those that follow: a condition takes one
of them, any other node all of them. -/
def nodeOutcomes (node : ModelRouterNode Number) (children : List (List (List String))) :
    List (List String) :=
  if node.type = .condition then
    if children = [] then [ownOutcome node]
    else children.flatMap fun alternatives => alternatives.map (merge (ownOutcome node))
  else children.foldl (fun outcomes alternatives =>
    outcomes.flatMap fun current => alternatives.map (merge current)) [ownOutcome node]

/-- `_strategy_outcomes`, of a graph without a cycle. -/
def strategyOutcomes : ℕ → String → List (List String)
  | 0, _ => []
  | fuel + 1, id =>
      match definition.nodeById id with
      | some node =>
          nodeOutcomes node
            ((outgoing definition id).map fun target => strategyOutcomes fuel target)
      | none => []

/-- `_reachable`; only nodes are pending. -/
def reachable (start : String) (adjacency : String → List String) : List String :=
  Graph.reach adjacency (· ∈ definition.nodeIds) (fun pending new => new ++ pending)
    definition.nodeIds [start]

/-- `_has_cycle`. -/
def hasCycle : Bool :=
  (Graph.order (outgoing definition) definition.nodeIds).isNone

/-- The issues of what the start reaches. -/
def startIssues : List ModelRouterValidationIssue :=
  match definition.nodesOf .start with
  | [start] =>
      let reached := reachable definition start.id (outgoing definition)
      issueIf (incoming definition start.id ≠ []) "start_has_input" "Start 节点不能有入线。" start.id ++
      issuePerNode (definition.nodeIds.filter (· ∉ reached)) "node_disconnected"
        "节点未连接到路由入口。" ++
      (match definition.nodesOf .output with
        | [output] =>
            if output.id ∉ reached then
              [⟨"output_unreachable", "Start 节点无法到达 Output 节点。", output.id⟩]
            else
              let canReachOutput := reachable definition output.id (incoming definition)
              issuePerNode (reached.filter fun id => id ∉ canReachOutput ∧
                id ∉ (definition.nodesOf .fallback).map (·.id)) "dead_end"
                "该节点无法到达 Output 节点。"
        | _ => []) ++
      (if hasCycle definition then [] else
        issueIf ((strategyOutcomes definition (definition.nodeIds.length + 1) start.id).any
          fun outcome => outcome.length ≠ 1) "strategy_path_ambiguous"
          "每条可执行路径必须且只能到达一个 Strategy。" none)
  | _ => []

/-- The issues of what follows the output. -/
def outputIssues : List ModelRouterValidationIssue :=
  match definition.nodesOf .output with
  | [output] => issueIf (outgoing definition output.id ≠ []) "output_has_exit"
      "Output 节点不能有出线。" output.id
  | _ => []

/-- `validate_definition`. -/
def validateDefinition (availableModelIds : Option (List UUID)) : ModelRouterValidationResult :=
  let issues :=
    duplicateIssues definition ++
    issueIf ((definition.nodesOf .start).length ≠ 1) "start_count"
      "路由必须且只能包含一个 Start 节点。" none ++
    issueIf ((definition.nodesOf .output).length ≠ 1) "output_count"
      "路由必须且只能包含一个 Output 节点。" none ++
    definition.nodes.flatMap nodeIssues ++
    availabilityIssues definition availableModelIds ++
    definition.edges.flatMap (edgeIssues definition) ++
    (definition.nodesOf .condition).flatMap (branchIssues python definition) ++
    (definition.nodesOf .candidateModels).flatMap (poolIssues definition) ++
    startIssues definition ++
    outputIssues definition ++
    issueIf (hasCycle definition) "cycle" "路由流程存在循环依赖。" none
  ⟨issues.isEmpty, issues⟩

end

end ModelRouterService

end Turnstile
