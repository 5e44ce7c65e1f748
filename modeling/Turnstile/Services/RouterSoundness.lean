import Mathlib.Data.Set.Subsingleton
import Turnstile.Services.RouterExecution
import Turnstile.Services.RouterValidation

/-!
# Valid routers are executable

The validator's outcomes describe which strategies lie ahead of a node, whatever the
conditions decide: along the order of a graph without a cycle, some outcome of a node
describes the strategies that a walk reaches from it (`describes_of_ordered`).  So the
walk of a valid definition reaches just one strategy.
-/

namespace Turnstile

variable {Number : Type} {python : PythonRuntime Number} {definition : ModelRouterDefinition Number}
  {context : RoutingContext Number} {node next : ModelRouterNode Number} {id : String}

/-! ## Nodes by their ids -/

namespace ModelRouterDefinition

theorem of_nodeById (h : definition.nodeById id = some node) :
    node ∈ definition.nodes ∧ node.id = id := by
  refine ⟨List.mem_reverse.1 (List.mem_of_find?_eq_some h), ?_⟩
  have hid := List.find?_some h
  exact of_decide_eq_true hid

theorem mem_nodeIds : id ∈ definition.nodeIds ↔ ∃ node ∈ definition.nodes, node.id = id := by
  rw [nodeIds, List.mem_dedup, List.mem_map]

theorem isSome_nodeById : (definition.nodeById id).isSome = true ↔ id ∈ definition.nodeIds := by
  rw [mem_nodeIds, nodeById, List.find?_isSome]
  simp

/-- A node is found by its id when no other has it. -/
theorem nodeById_of_mem (hids : (definition.nodes.map (·.id)).Nodup) (h : node ∈ definition.nodes) :
    definition.nodeById node.id = some node := by
  cases hfind : definition.nodeById node.id with
  | none =>
      have hsome := isSome_nodeById.2 (mem_nodeIds.2 ⟨node, h, rfl⟩)
      rw [hfind] at hsome
      cases hsome
  | some found =>
      obtain ⟨hmem, hid⟩ := of_nodeById hfind
      rw [List.inj_on_of_nodup_map hids hmem h hid]

theorem mem_nodesOf {type : ModelRouterNodeType} :
    node ∈ definition.nodesOf type ↔ node ∈ definition.nodes ∧ node.type = type := by
  simp [nodesOf]

theorem mem_edgesFrom {edge : ModelRouterEdge} :
    edge ∈ definition.edgesFrom id ↔ edge ∈ definition.edges ∧ edge.source = id := by
  simp [edgesFrom]

end ModelRouterDefinition

open ModelRouterDefinition ModelRouterService ModelRouterExecutionService

/-! ## What the validator has checked -/

/-- What the execution needs of a definition. -/
structure Executable (python : PythonRuntime Number) (definition : ModelRouterDefinition Number) :
    Prop where
  ids : (definition.nodes.map (·.id)).Nodup
  ends : ∀ edge ∈ definition.edges, HasEnds definition edge
  start : ∃ start, definition.nodesOf .start = [start]
  nodes : ∀ node ∈ definition.nodes, nodeIssues node = []
  branches : ∀ node ∈ definition.nodesOf .condition, branchIssues python definition node = []
  pools : ∀ node ∈ definition.nodesOf .candidateModels, poolIssues definition node = []
  acyclic : ∃ order, Graph.order (outgoing definition) definition.nodeIds = some order
  outcomes : ∀ start, definition.nodesOf .start = [start] →
    ∀ outcome ∈ strategyOutcomes definition (definition.nodeIds.length + 1) start.id,
      outcome.length = 1

theorem nodup_of_duplicates {ids : List String} (h : duplicates ids = []) : ids.Nodup := by
  refine List.nodup_iff_count_le_one.2 fun id => ?_
  by_contra hcount
  have hmem : id ∈ ids := List.count_pos_iff.1 (by omega)
  have hdup : id ∈ duplicates ids :=
    List.mem_filter.2 ⟨List.mem_dedup.2 hmem, decide_eq_true (by omega)⟩
  rw [h] at hdup
  cases hdup

theorem issuePerNode_eq_nil {ids : List String} {code message : String} :
    issuePerNode ids code message = [] ↔ ids = [] := by
  rw [issuePerNode, List.map_eq_nil_iff, ← List.length_eq_zero_iff, List.length_insertionSort,
    List.length_eq_zero_iff]

/-- A definition without issues can be executed. -/
theorem executable_of_valid {available : Option (List UUID)}
    (h : (validateDefinition python definition available).valid = true) :
    Executable python definition := by
  have hissues := List.isEmpty_iff.1 h
  simp only [List.append_eq_nil_iff, List.flatMap_eq_nil_iff, issueIf_eq_nil, not_not] at hissues
  obtain ⟨⟨⟨⟨⟨⟨⟨⟨⟨⟨hids, hstart⟩, -⟩, hnodes⟩, -⟩, hedges⟩, hbranches⟩, hpools⟩, hgraph⟩, -⟩,
    hcycle⟩ := hissues
  have hacyclic : hasCycle definition = false := Bool.eq_false_iff.2 hcycle
  refine ⟨?_, fun edge hedge => ?_, List.length_eq_one_iff.1 hstart, hnodes, hbranches, hpools,
    ?_, fun start hstart outcome houtcome => ?_⟩
  · rw [duplicateIssues, List.append_eq_nil_iff, issuePerNode_eq_nil] at hids
    exact nodup_of_duplicates hids.1
  · have hnone := hedges edge hedge
    simp only [edgeIssues, List.append_eq_nil_iff, issueIf_eq_nil, not_not] at hnone
    exact hnone.2
  · exact Option.isSome_iff_exists.1 (by simpa [hasCycle] using hacyclic)
  · simp only [startIssues, hstart, List.append_eq_nil_iff, hacyclic, Bool.false_eq_true,
      if_false, issueIf_eq_nil] at hgraph
    simpa using fun hlength : outcome.length ≠ 1 =>
      hgraph.2 (List.any_eq_true.2 ⟨outcome, houtcome, decide_eq_true hlength⟩)

/-! ## The walk -/

/-- A walk goes on from a node to a node. -/
def StepsTo (python : PythonRuntime Number) (definition : ModelRouterDefinition Number)
    (context : RoutingContext Number) (node next : ModelRouterNode Number) : Prop :=
  ∃ edge ∈ takenEdges python definition context node, definition.nodeById edge.target = some next

/-- The walk from the start reaches a node. -/
def Reaches (python : PythonRuntime Number) (definition : ModelRouterDefinition Number)
    (context : RoutingContext Number) (node : ModelRouterNode Number) : Prop :=
  ∃ id ∈ startIds definition, ∃ first, definition.nodeById id = some first ∧
    Relation.ReflTransGen (StepsTo python definition context) first node

theorem mem_takenTargets (h : definition.nodeById id = some node) {target : String} :
    target ∈ takenTargets python definition context id ↔
      ∃ edge ∈ takenEdges python definition context node, edge.target = target := by
  rw [takenTargets, h, List.mem_map]

/-- A walk along nodes is one along their ids. -/
theorem ids_of_reaches (h : definition.nodeById node.id = some node)
    (hpath : Relation.ReflTransGen (StepsTo python definition context) node next) :
    definition.nodeById next.id = some next ∧
      Relation.ReflTransGen (Graph.Edge (takenTargets python definition context)
        fun id => (definition.nodeById id).isSome) node.id next.id := by
  induction hpath with
  | refl => exact ⟨h, .refl⟩
  | @tail middle next _ hstep ih =>
      obtain ⟨edge, hedge, hnext⟩ := hstep
      have htarget := (of_nodeById hnext).2
      rw [← htarget] at hnext
      refine ⟨hnext, ih.2.tail ⟨?_, by simp [hnext]⟩⟩
      exact (mem_takenTargets ih.1).2 ⟨edge, hedge, htarget.symm⟩

/-- Along the ids a walk reaches what it reaches along the nodes. -/
theorem reaches_of_ids (h : definition.nodeById id = some node) {target : String}
    (hpath : Relation.ReflTransGen (Graph.Edge (takenTargets python definition context)
      fun id => (definition.nodeById id).isSome) id target) :
    ∃ next, definition.nodeById target = some next ∧
      Relation.ReflTransGen (StepsTo python definition context) node next := by
  induction hpath with
  | refl => exact ⟨node, h, .refl⟩
  | tail _ hstep ih =>
      obtain ⟨middle, hmiddle, hpath⟩ := ih
      obtain ⟨next, hnext⟩ := Option.isSome_iff_exists.1 hstep.2
      obtain ⟨edge, hedge, rfl⟩ := (mem_takenTargets hmiddle).1 hstep.1
      exact ⟨next, hnext, hpath.tail ⟨edge, hedge, hnext⟩⟩

/-- The search visits what the walk reaches. -/
theorem mem_walk : node ∈ walk python definition context ↔
    Reaches python definition context node := by
  rw [walk, List.mem_filterMap]
  constructor
  · rintro ⟨target, hmem, hnode⟩
    obtain ⟨id, hstart, hknown, hpath⟩ :=
      (Graph.mem_reach Graph.pushes_append fun id => isSome_nodeById.1).1 hmem
    obtain ⟨first, hfirst⟩ := Option.isSome_iff_exists.1 hknown
    obtain ⟨next, hnext, hpath⟩ := reaches_of_ids hfirst hpath
    obtain rfl : next = node := Option.some.inj (hnext.symm.trans hnode)
    exact ⟨id, hstart, first, hfirst, hpath⟩
  · rintro ⟨id, hstart, first, hfirst, hpath⟩
    obtain rfl := (of_nodeById hfirst).2
    obtain ⟨hnode, hpath⟩ := ids_of_reaches hfirst hpath
    refine ⟨node.id, ?_, hnode⟩
    exact (Graph.mem_reach Graph.pushes_append fun id => isSome_nodeById.1).2
      ⟨first.id, hstart, by rw [hfirst, Option.isSome_some], hpath⟩

theorem walk_nodup : (walk python definition context).Nodup := by
  refine List.Nodup.filterMap (fun a b found ha hb => ?_) Graph.reach_nodup
  rw [← (of_nodeById ha).2, ← (of_nodeById hb).2]

/-- A reached node is the one with its id. -/
theorem Reaches.nodeById (h : Reaches python definition context node) :
    definition.nodeById node.id = some node := by
  obtain ⟨id, -, first, hfirst, hpath⟩ := h
  obtain rfl := (of_nodeById hfirst).2
  exact (ids_of_reaches hfirst hpath).1

/-- The walk goes on. -/
theorem Reaches.step (h : Reaches python definition context node)
    (hstep : StepsTo python definition context node next) :
    Reaches python definition context next := by
  obtain ⟨id, hstart, first, hfirst, hpath⟩ := h
  exact ⟨id, hstart, first, hfirst, hpath.tail hstep⟩

/-! ## Branches -/

theorem falseLabels_disjoint {label : String} (h : label ∈ falseLabels) :
    label ∉ trueLabels ∧ label ≠ "" := by
  revert label
  decide

theorem edgeMatches_of_true {label : String} {matched : Bool}
    (h : python.normalize label ∈ trueLabels) :
    conditionEdgeMatches python label matched = matched := by
  have hne : python.normalize label ≠ "" := fun hempty => by
    rw [hempty] at h
    revert h
    decide
  simp [conditionEdgeMatches, hne, h]

theorem edgeMatches_of_false {label : String} {matched : Bool}
    (h : python.normalize label ∈ falseLabels) :
    conditionEdgeMatches python label matched = !matched := by
  obtain ⟨htrue, hne⟩ := falseLabels_disjoint h
  simp [conditionEdgeMatches, hne, htrue, h]

/-- A condition that was checked has two branches, and takes just one. -/
theorem taken_of_condition (hbranches : branchIssues python definition node = [])
    (htype : node.type = .condition) (hcondition : nodeIssues node = []) :
    ∃ edge ∈ definition.edgesFrom node.id,
      takenEdges python definition context node = [edge] := by
  simp only [nodeIssues, htype, conditionIssues, issueIf_eq_nil, Option.isNone_iff_eq_none]
    at hcondition
  obtain ⟨condition, hcondition⟩ := Option.ne_none_iff_exists'.1 hcondition
  simp only [branchIssues, List.append_eq_nil_iff, issueIf_eq_nil, not_or, not_not] at hbranches
  obtain ⟨⟨⟨htrue, hfalse⟩, hlength, -⟩, -⟩ := hbranches
  have htaken : takenEdges python definition context node =
      (definition.edgesFrom node.id).filter fun edge =>
        conditionEdgeMatches python edge.label (conditionMatches python condition context) := by
    simp [takenEdges, branching, htype, hlength, hcondition]
  obtain ⟨first, second, hedges⟩ := List.length_eq_two.1 hlength
  rw [htaken]
  rw [hedges] at htrue hfalse ⊢
  generalize conditionMatches python condition context = matched
  by_cases hfirst : python.normalize first.label ∈ trueLabels
  · have hnot : python.normalize first.label ∉ falseLabels := fun h =>
      (falseLabels_disjoint h).1 hfirst
    have hsecond : python.normalize second.label ∈ falseLabels := by
      by_contra h
      simp [labelled, hnot, h] at hfalse
    refine ⟨if matched then first else second, by split <;> simp, ?_⟩
    cases matched <;> simp [edgeMatches_of_true hfirst, edgeMatches_of_false hsecond]
  · have hsecond : python.normalize second.label ∈ trueLabels := by
      by_contra h
      simp [labelled, hfirst, h] at htrue
    have hnot : python.normalize second.label ∉ falseLabels := fun h =>
      (falseLabels_disjoint h).1 hsecond
    have hfalse : python.normalize first.label ∈ falseLabels := by
      by_contra h
      simp [labelled, hnot, h] at hfalse
    refine ⟨if matched then second else first, by split <;> simp, ?_⟩
    cases matched <;> simp [edgeMatches_of_true hsecond, edgeMatches_of_false hfalse]

theorem taken_of_ne_condition (htype : node.type ≠ .condition) :
    takenEdges python definition context node = definition.edgesFrom node.id := by
  simp [takenEdges, branching, htype]

theorem mem_outgoing {target : String} : target ∈ outgoing definition id ↔
    ∃ edge ∈ definition.edgesFrom id, HasEnds definition edge ∧ edge.target = target := by
  simp only [outgoing, List.mem_dedup, List.mem_map, List.mem_filter, Bool.decide_and,
    Bool.and_eq_true, decide_eq_true_eq, mem_edgesFrom]
  constructor
  · rintro ⟨edge, ⟨hedge, hends, hsource⟩, htarget⟩
    exact ⟨edge, ⟨hedge, hsource⟩, hends, htarget⟩
  · rintro ⟨edge, ⟨hedge, hsource⟩, hends, htarget⟩
    exact ⟨edge, ⟨hedge, hends, hsource⟩, htarget⟩

theorem known_of_outgoing {target : String} (h : target ∈ outgoing definition id) :
    target ∈ definition.nodeIds := by
  obtain ⟨edge, -, hends, rfl⟩ := mem_outgoing.1 h
  exact hends.2

/-! ## Outcomes -/

/-- An outcome describes a set of strategies: empty, one, or several. -/
def Describes (outcome : List String) (strategies : Set String) : Prop :=
  match outcome with
  | [] => strategies = ∅
  | [strategy] => strategies = {strategy}
  | _ => strategies.Nontrivial

theorem describes_merge {left right : List String} {first second : Set String}
    (hleft : Describes left first) (hright : Describes right second) :
    Describes (merge left right) (first ∪ second) := by
  match left, right with
  | [], [] =>
      rw [show first = ∅ from hleft, show second = ∅ from hright]
      exact Set.union_self ∅
  | [], [b] =>
      rw [show first = ∅ from hleft, Set.empty_union]
      exact hright
  | [a], [] =>
      rw [show second = ∅ from hright, Set.union_empty]
      exact hleft
  | [a], [b] =>
      rw [show first = {a} from hleft, show second = {b} from hright]
      by_cases hab : a = b
      · rw [hab, Set.union_self]
        simp [merge, Describes]
      · have hmerge : merge [a] [b] = ["", ""] := by simp [merge, hab]
        rw [hmerge]
        exact ⟨a, Or.inl rfl, b, Or.inr rfl, hab⟩
  | a :: a' :: l, right =>
      have hmerge : merge (a :: a' :: l) right = ["", ""] := by simp [merge]
      rw [hmerge]
      exact Set.Nontrivial.mono hleft Set.subset_union_left
  | left, b :: b' :: l =>
      have hmerge : merge left (b :: b' :: l) = ["", ""] := by simp [merge]
      rw [hmerge]
      exact Set.Nontrivial.mono hright Set.subset_union_right

/-- The strategies that a walk reaches from a node. -/
def strategiesFrom (python : PythonRuntime Number) (definition : ModelRouterDefinition Number)
    (context : RoutingContext Number) (node : ModelRouterNode Number) : Set String :=
  {id | ∃ strategy, Relation.ReflTransGen (StepsTo python definition context) node strategy ∧
    strategy.IsStrategy ∧ strategy.id = id}

theorem mem_strategiesFrom : id ∈ strategiesFrom python definition context node ↔
    (node.IsStrategy ∧ node.id = id) ∨
      ∃ next, StepsTo python definition context node next ∧
        id ∈ strategiesFrom python definition context next := by
  constructor
  · rintro ⟨strategy, hpath, hstrategy, hid⟩
    rcases hpath.cases_head with rfl | ⟨next, hstep, hpath⟩
    · exact Or.inl ⟨hstrategy, hid⟩
    · exact Or.inr ⟨next, hstep, strategy, hpath, hstrategy, hid⟩
  · rintro (⟨hstrategy, hid⟩ | ⟨next, hstep, strategy, hpath, hstrategy, hid⟩)
    · exact ⟨node, .refl, hstrategy, hid⟩
    · exact ⟨strategy, hpath.head hstep, hstrategy, hid⟩

theorem describes_own : Describes (ownOutcome node) {id | node.IsStrategy ∧ node.id = id} := by
  by_cases h : node.IsStrategy
  · have hset : {id | node.IsStrategy ∧ node.id = id} = {node.id} := by
      ext id
      simp [h, eq_comm]
    rw [ownOutcome, if_pos h, hset]
    rfl
  · rw [ownOutcome, if_neg h]
    exact Set.eq_empty_iff_forall_notMem.2 fun id hid => h hid.1

/-- All that follows is merged into what an outcome describes. -/
theorem describes_fold {targets : List String} {alternatives : String → List (List String)}
    {sets : String → Set String} {outcomes : List (List String)} {outcome : List String}
    {set : Set String} (hmem : outcome ∈ outcomes) (hdescribes : Describes outcome set)
    (htargets : ∀ target ∈ targets, ∃ outcome ∈ alternatives target,
      Describes outcome (sets target)) :
    ∃ outcome ∈ (targets.map alternatives).foldl (fun outcomes alternatives =>
        outcomes.flatMap fun current => alternatives.map (merge current)) outcomes,
      Describes outcome (set ∪ {id | ∃ target ∈ targets, id ∈ sets target}) := by
  induction targets generalizing outcomes outcome set with
  | nil =>
      refine ⟨outcome, hmem, ?_⟩
      simpa using hdescribes
  | cons target targets ih =>
      obtain ⟨first, hfirst, hset⟩ := htargets target (List.mem_cons_self ..)
      have hmerged : merge outcome first ∈
          outcomes.flatMap fun current => (alternatives target).map (merge current) :=
        List.mem_flatMap.2 ⟨outcome, hmem, List.mem_map.2 ⟨first, hfirst, rfl⟩⟩
      obtain ⟨last, hlast, hall⟩ := ih hmerged (describes_merge hdescribes hset)
        fun other hother => htargets other (List.mem_cons_of_mem _ hother)
      refine ⟨last, hlast, ?_⟩
      have hsets : set ∪ {id | ∃ other ∈ target :: targets, id ∈ sets other} =
          set ∪ sets target ∪ {id | ∃ other ∈ targets, id ∈ sets other} := by
        ext id
        simp [or_assoc]
      rw [hsets]
      exact hall

/-- What lies ahead of a target. -/
def strategiesAhead (python : PythonRuntime Number) (definition : ModelRouterDefinition Number)
    (context : RoutingContext Number) (target : String) : Set String :=
  {id | ∃ next, definition.nodeById target = some next ∧
    id ∈ strategiesFrom python definition context next}

theorem strategiesFrom_eq : strategiesFrom python definition context node =
    {id | node.IsStrategy ∧ node.id = id} ∪
      {id | ∃ target ∈ (takenEdges python definition context node).map (·.target),
        id ∈ strategiesAhead python definition context target} := by
  ext id
  rw [mem_strategiesFrom, Set.mem_union]
  refine or_congr Iff.rfl ⟨?_, ?_⟩
  · rintro ⟨next, ⟨edge, hedge, hnext⟩, hid⟩
    exact ⟨edge.target, List.mem_map.2 ⟨edge, hedge, rfl⟩, next, hnext, hid⟩
  · rintro ⟨target, hmem, next, hnext, hid⟩
    obtain ⟨edge, hedge, rfl⟩ := List.mem_map.1 hmem
    exact ⟨next, ⟨edge, hedge, hnext⟩, hid⟩

/-- Some outcome of a node merges what the edges it takes lead to. -/
theorem describes_node (h : Executable python definition)
    (hnode : definition.nodeById id = some node) {alternatives : String → List (List String)}
    (htargets : ∀ target ∈ outgoing definition id, ∃ outcome ∈ alternatives target,
      Describes outcome (strategiesAhead python definition context target)) :
    ∃ outcome ∈ nodeOutcomes node ((outgoing definition id).map alternatives),
      Describes outcome (strategiesFrom python definition context node) := by
  obtain ⟨hmem, rfl⟩ := of_nodeById hnode
  have hends : ∀ edge ∈ definition.edgesFrom node.id, HasEnds definition edge :=
    fun edge hedge => h.ends edge (mem_edgesFrom.1 hedge).1
  rw [strategiesFrom_eq, nodeOutcomes]
  split
  next htype =>
    obtain ⟨edge, hedge, htaken⟩ : ∃ edge ∈ definition.edgesFrom node.id,
        takenEdges python definition context node = [edge] := taken_of_condition
      (h.branches node (mem_nodesOf.2 ⟨hmem, htype⟩)) htype (h.nodes node hmem)
    have htarget : edge.target ∈ outgoing definition node.id :=
      mem_outgoing.2 ⟨edge, hedge, hends edge hedge, rfl⟩
    obtain ⟨outcome, houtcome, hdescribes⟩ := htargets edge.target htarget
    have hchildren : (outgoing definition node.id).map alternatives ≠ [] := fun hnil =>
      List.ne_nil_of_mem htarget (List.map_eq_nil_iff.1 hnil)
    rw [if_neg hchildren, htaken]
    refine ⟨merge (ownOutcome node) outcome, List.mem_flatMap.2 ⟨alternatives edge.target,
      List.mem_map.2 ⟨edge.target, htarget, rfl⟩, List.mem_map.2 ⟨outcome, houtcome, rfl⟩⟩, ?_⟩
    simpa using describes_merge describes_own hdescribes
  next htype =>
    have htaken : {id | ∃ target ∈ (takenEdges python definition context node).map (·.target),
          id ∈ strategiesAhead python definition context target} =
        {id | ∃ target ∈ outgoing definition node.id,
          id ∈ strategiesAhead python definition context target} := by
      ext id
      rw [taken_of_ne_condition htype]
      refine exists_congr fun target => and_congr_left fun _ => ?_
      rw [mem_outgoing, List.mem_map]
      exact exists_congr fun edge => and_congr_right fun hedge =>
        (and_iff_right (hends edge hedge)).symm
    rw [htaken]
    exact describes_fold (List.mem_singleton_self _) describes_own htargets

/-- Along the order some outcome of a node describes what a walk reaches from it. -/
theorem describes_of_ordered (h : Executable python definition) {order : List String}
    (hordered : Graph.Ordered (outgoing definition) order) {fuel : ℕ}
    (hfuel : order.length ≤ fuel) (hid : id ∈ order)
    (hnode : definition.nodeById id = some node) :
    ∃ outcome ∈ strategyOutcomes definition fuel id,
      Describes outcome (strategiesFrom python definition context node) := by
  induction hordered generalizing fuel id node with
  | nil => cases hid
  | @cons first order _ before _ ih =>
      rw [List.length_cons] at hfuel
      rcases List.mem_cons.1 hid with rfl | hid
      · obtain ⟨fuel, rfl⟩ : ∃ smaller, fuel = smaller + 1 := ⟨fuel - 1, by omega⟩
        rw [strategyOutcomes, hnode]
        refine describes_node h hnode fun target htarget => ?_
        obtain ⟨next, hnext⟩ := Option.isSome_iff_exists.1
          (isSome_nodeById.2 (known_of_outgoing htarget))
        have hsmaller : order.length ≤ fuel := by omega
        obtain ⟨outcome, hmem, hdescribes⟩ := ih hsmaller (before target htarget) hnext
        refine ⟨outcome, hmem, ?_⟩
        have hahead : strategiesAhead python definition context target =
            strategiesFrom python definition context next := by
          ext id
          simp [strategiesAhead, hnext]
        rw [hahead]
        exact hdescribes
      · exact ih (by omega) hid hnode

/-! ## One strategy -/

/-- What the start of a definition reaches. -/
theorem reaches_iff (h : Executable python definition) {start : ModelRouterNode Number}
    (hstart : definition.nodesOf .start = [start]) :
    Reaches python definition context node ↔
      Relation.ReflTransGen (StepsTo python definition context) start node := by
  have hids : startIds definition = [start.id] := by simp [startIds, hstart]
  have hmem : start ∈ definition.nodes :=
    (mem_nodesOf.1 (hstart ▸ List.mem_singleton_self start : start ∈ definition.nodesOf .start)).1
  have hfirst := nodeById_of_mem h.ids hmem
  constructor
  · rintro ⟨id, hid, first, hfound, hpath⟩
    rw [hids, List.mem_singleton] at hid
    rw [hid, hfirst] at hfound
    obtain rfl := Option.some.inj hfound
    exact hpath
  · intro hpath
    exact ⟨start.id, hids ▸ List.mem_singleton_self _, start, hfirst, hpath⟩

/-- A walk reaches one strategy. -/
theorem exists_strategy (h : Executable python definition) (context : RoutingContext Number) :
    ∃ strategy, ∀ node, Reaches python definition context node ∧ node.IsStrategy ↔
      node = strategy := by
  obtain ⟨start, hstart⟩ := h.start
  have hmem : start ∈ definition.nodes :=
    (mem_nodesOf.1 (hstart ▸ List.mem_singleton_self start : start ∈ definition.nodesOf .start)).1
  obtain ⟨order, horder⟩ := h.acyclic
  obtain ⟨hordered, hall⟩ := Graph.order_ordered horder
  have hfilter : Graph.Ordered (outgoing definition)
      (order.filter fun id => id ∈ definition.nodeIds) :=
    hordered.filter fun a _ b hb => decide_eq_true (known_of_outgoing hb)
  have hlength : (order.filter fun id => id ∈ definition.nodeIds).length ≤
      definition.nodeIds.length + 1 := by
    refine Nat.le_succ_of_le (List.subperm_of_subset hfilter.nodup fun id hid => ?_).length_le
    exact of_decide_eq_true (List.mem_filter.1 hid).2
  have hknown : start.id ∈ definition.nodeIds := mem_nodeIds.2 ⟨start, hmem, rfl⟩
  obtain ⟨outcome, houtcome, hdescribes⟩ : ∃ outcome ∈ strategyOutcomes definition _ start.id,
      Describes outcome (strategiesFrom python definition context start) :=
    describes_of_ordered h hfilter hlength
    (List.mem_filter.2 ⟨hall _ hknown, decide_eq_true hknown⟩) (nodeById_of_mem h.ids hmem)
  obtain ⟨id, rfl⟩ := List.length_eq_one_iff.1 (h.outcomes start hstart outcome houtcome)
  have hset : strategiesFrom python definition context start = {id} := hdescribes
  obtain ⟨strategy, hpath, hstrategy, hid⟩ : id ∈ strategiesFrom python definition context start :=
    hset ▸ Set.mem_singleton id
  refine ⟨strategy, fun node => ⟨fun ⟨hreach, hnode⟩ => ?_, ?_⟩⟩
  · have hmem : node.id ∈ strategiesFrom python definition context start :=
      ⟨node, (reaches_iff h hstart).1 hreach, hnode, rfl⟩
    rw [hset, Set.mem_singleton_iff, ← hid] at hmem
    have hfound := hreach.nodeById
    rw [hmem, ((reaches_iff h hstart).2 hpath).nodeById] at hfound
    exact (Option.some.inj hfound).symm
  · rintro rfl
    exact ⟨(reaches_iff h hstart).2 hpath, hstrategy⟩

/-- The strategies of a walk are the one it reaches. -/
theorem strategies_of_walk {strategy : ModelRouterNode Number}
    (h : ∀ node, Reaches python definition context node ∧ node.IsStrategy ↔ node = strategy) :
    ((walk python definition context).filter fun node => node.IsStrategy) = [strategy] := by
  have hmem : ∀ node, node ∈ ((walk python definition context).filter fun node => node.IsStrategy) ↔
      node = strategy := fun node => by
    rw [List.mem_filter, mem_walk, decide_eq_true_eq, h]
  refine List.perm_singleton.1 ?_
  refine (List.perm_ext_iff_of_nodup (walk_nodup.filter _) (List.nodup_singleton _)).2
    fun node => ?_
  rw [hmem, List.mem_singleton]

/-! ## The candidates -/

theorem selectedIndex_lt (draw cumulative index : ℕ) (remaining : List ModelRouterStrategyModel) :
    selectedIndex draw cumulative index remaining = 0 ∨
      selectedIndex draw cumulative index remaining < index + remaining.length := by
  induction remaining generalizing cumulative index with
  | nil => exact Or.inl rfl
  | cons candidate remaining ih =>
      rw [selectedIndex, List.length_cons]
      split
      next => exact Or.inr (by omega)
      next =>
        refine (ih (cumulative + candidate.weight) (index + 1)).imp_right ?_
        omega

/-- The rounds draw every candidate once. -/
theorem weightedRounds_perm {hash : String → ℕ} {selectionKey : String} {fuel roundIndex : ℕ}
    {remaining : List ModelRouterStrategyModel} (hfuel : remaining.length = fuel) :
    (weightedRounds hash selectionKey fuel roundIndex remaining).Perm remaining := by
  induction fuel generalizing roundIndex remaining with
  | zero => rw [List.length_eq_zero_iff.1 hfuel, weightedRounds]
  | succ fuel ih =>
      rw [weightedRounds]
      generalize hdraw :
        hash s!"{selectionKey}:{roundIndex}" % (remaining.map (·.weight)).sum = draw
      have hlt : selectedIndex draw 0 0 remaining < remaining.length := by
        rcases selectedIndex_lt draw 0 0 remaining with h | h
        · omega
        · omega
      have hrest : (remaining.eraseIdx (selectedIndex draw 0 0 remaining)).length = fuel := by
        rw [List.length_eraseIdx_of_lt hlt]
        omega
      rw [List.getElem?_eq_getElem hlt]
      exact ((ih hrest).cons _).trans (List.getElem_cons_eraseIdx_perm hlt)

/-- An order leaves out no candidate and adds none. -/
theorem ordered_perm {hash : String → ℕ} {strategyType : ModelRouterStrategyType}
    {available : List ModelRouterStrategyModel} {selectionKey : String} :
    (ordered hash strategyType available selectionKey).Perm available := by
  rw [ordered]
  split
  next =>
    refine (weightedRounds_perm (List.length_insertionSort _ _)).trans ?_
    exact List.perm_insertionSort _ _
  next => exact List.perm_insertionSort _ _

theorem configFor_eq {strategy : ModelRouterNode Number} {modelId : UUID}
    {config : ModelRouterStrategyModel} (h : configFor strategy modelId = some config) :
    config ∈ strategy.modelConfigs ∧ config.modelId = modelId := by
  refine ⟨List.mem_reverse.1 (List.mem_of_find?_eq_some h), ?_⟩
  have hid := List.find?_some h
  exact of_decide_eq_true hid

theorem exists_configFor {strategy : ModelRouterNode Number} {modelId : UUID}
    (h : modelId ∈ strategy.configIds) : ∃ config, configFor strategy modelId = some config := by
  obtain ⟨config, hconfig, rfl⟩ := List.mem_map.1 h
  rw [← Option.isSome_iff_exists, configFor, List.find?_isSome]
  exact ⟨config, List.mem_reverse.2 hconfig, decide_eq_true rfl⟩

/-- The configurations of distinct models are of distinct models. -/
theorem configs_nodup {strategy : ModelRouterNode Number} {modelIds : List UUID}
    (h : modelIds.Nodup) :
    ((modelIds.filterMap (configFor strategy)).map (·.modelId)).Nodup := by
  rw [List.map_filterMap]
  refine List.Nodup.filterMap (fun a b found ha hb => ?_) h
  obtain ⟨first, hfirst, rfl⟩ := Option.map_eq_some_iff.1 ha
  obtain ⟨second, hsecond, hid⟩ := Option.map_eq_some_iff.1 hb
  rw [← (configFor_eq hfirst).2, ← hid, (configFor_eq hsecond).2]

theorem nodup_eraseDups {modelIds : List UUID} : modelIds.eraseDups.Nodup := by
  induction hlength : modelIds.length using Nat.strong_induction_on generalizing modelIds with
  | _ length ih =>
      cases modelIds with
      | nil => exact List.nodup_nil
      | cons modelId modelIds =>
          rw [List.eraseDups_cons, List.nodup_cons, List.mem_eraseDups]
          refine ⟨by simp, ih _ ?_ rfl⟩
          rw [← hlength, List.length_cons]
          exact Nat.lt_succ_of_le (List.length_filter_le ..)

theorem mem_uniqueModelIds {pools : List (ModelRouterNode Number)} {modelId : UUID} :
    modelId ∈ uniqueModelIds pools ↔ ∃ pool ∈ pools, modelId ∈ pool.candidateIds := by
  rw [uniqueModelIds, List.mem_eraseDups, List.mem_flatMap]

/-! ## The plan -/

/-- A plan for a walk: the models of its pools, each once, as its strategy has them. -/
structure WalkPlan (python : PythonRuntime Number) (definition : ModelRouterDefinition Number)
    (context : RoutingContext Number) (plan : RouterExecutionPlan Number) : Prop where
  distinct : (plan.candidates.map (·.modelId)).Nodup
  /-- There is one strategy on the way, and it has the configurations. -/
  strategy : ∃ strategy, (∀ node, Reaches python definition context node ∧ node.IsStrategy ↔
    node = strategy) ∧ ∀ candidate ∈ plan.candidates, candidate ∈ strategy.modelConfigs
  pools : ∀ candidate ∈ plan.candidates, ∃ pool, Reaches python definition context pool ∧
    pool.type = .candidateModels ∧ candidate.modelId ∈ pool.candidateIds

/-- A pool on the way has a model, which the strategy on the way configures. -/
theorem exists_model (h : Executable python definition) {strategy pool : ModelRouterNode Number}
    (hstrategy : ∀ node, Reaches python definition context node ∧ node.IsStrategy ↔ node = strategy)
    (hpool : Reaches python definition context pool) (htype : pool.type = .candidateModels) :
    ∃ modelId ∈ pool.candidateIds, modelId ∈ strategy.configIds := by
  have hmem := (of_nodeById hpool.nodeById).1
  have hnode := h.nodes pool hmem
  simp only [nodeIssues, htype, candidateIssues, List.append_eq_nil_iff, issueIf_eq_nil] at hnode
  have hissues := h.pools pool (mem_nodesOf.2 ⟨hmem, htype⟩)
  simp only [poolIssues, List.append_eq_nil_iff, List.flatMap_eq_nil_iff, issueIf_eq_nil,
    not_not] at hissues
  obtain ⟨hsome, hsame⟩ := hissues
  have hne : strategyTargets definition pool ≠ [] := by
    intro hnil
    rw [if_pos hnil] at hsome
    cases hsome
  obtain ⟨target, htarget⟩ := List.exists_mem_of_ne_nil _ hne
  obtain ⟨hnext, hkind⟩ := List.mem_filter.1 htarget
  obtain ⟨id, hout, hfound⟩ := List.mem_filterMap.1 hnext
  obtain ⟨edge, hedge, -, rfl⟩ := mem_outgoing.1 hout
  have hstep : StepsTo python definition context pool target := by
    refine ⟨edge, ?_, hfound⟩
    rw [taken_of_ne_condition (by rw [htype]; decide)]
    exact hedge
  obtain rfl : target = strategy :=
    (hstrategy target).1 ⟨hpool.step hstep, of_decide_eq_true hkind⟩
  obtain ⟨candidate, hcandidate⟩ := List.exists_mem_of_ne_nil _ hnode.1
  have hmodel : candidate.modelId ∈ pool.candidateIds := List.mem_map.2 ⟨candidate, hcandidate, rfl⟩
  refine ⟨candidate.modelId, hmodel, ?_⟩
  rw [← List.mem_toFinset, hsame target htarget, List.mem_toFinset]
  exact hmodel

/-- The execution of a valid definition never fails. -/
theorem plan_of_executable (h : Executable python definition) (hash : String → ℕ)
    (context : RoutingContext Number) (selectionKey : String) :
    ∃ plan, buildExecutionPlan python hash definition context selectionKey = .ok plan ∧
      WalkPlan python definition context plan ∧
      ((∃ pool, Reaches python definition context pool ∧ pool.type = .candidateModels) →
        plan.candidates ≠ []) := by
  obtain ⟨strategy, hstrategy⟩ := exists_strategy h context
  have hplan : ∃ plan, buildExecutionPlan python hash definition context selectionKey = .ok plan ∧
      plan.candidates.Perm ((uniqueModelIds ((walk python definition context).filter
        fun node => node.type = .candidateModels)).filterMap (configFor strategy)) := by
    rw [buildExecutionPlan, strategies_of_walk hstrategy]
    exact ⟨_, rfl, ordered_perm⟩
  obtain ⟨plan, hok, hperm⟩ := hplan
  have hconfig : ∀ candidate ∈ plan.candidates, candidate ∈ strategy.modelConfigs ∧
      ∃ pool, Reaches python definition context pool ∧ pool.type = .candidateModels ∧
        candidate.modelId ∈ pool.candidateIds := fun candidate hcandidate => by
    obtain ⟨modelId, hmem, hfound⟩ := List.mem_filterMap.1 (hperm.mem_iff.1 hcandidate)
    obtain ⟨hmember, rfl⟩ := configFor_eq hfound
    obtain ⟨pool, hpool, hmodel⟩ := mem_uniqueModelIds.1 hmem
    rw [List.mem_filter, mem_walk, decide_eq_true_eq] at hpool
    exact ⟨hmember, pool, hpool.1, hpool.2, hmodel⟩
  refine ⟨plan, hok, ⟨?_, ⟨strategy, hstrategy, fun candidate hcandidate =>
    (hconfig candidate hcandidate).1⟩, fun candidate hcandidate =>
    (hconfig candidate hcandidate).2⟩, ?_⟩
  · exact (hperm.map _).nodup_iff.2 (configs_nodup nodup_eraseDups)
  · rintro ⟨pool, hpool, htype⟩
    obtain ⟨modelId, hmodel, hconfigured⟩ := exists_model h hstrategy hpool htype
    obtain ⟨config, hfound⟩ := exists_configFor hconfigured
    refine List.ne_nil_of_mem (hperm.mem_iff.2 (List.mem_filterMap.2 ⟨modelId, ?_, hfound⟩))
    refine mem_uniqueModelIds.2 ⟨pool, ?_, hmodel⟩
    rw [List.mem_filter, mem_walk, decide_eq_true_eq]
    exact ⟨hpool, htype⟩

/-- A valid definition can be executed on every context, for every key: the plan has
models of the pools on the way as the one strategy on the way configures them, and it
has one just when there is a pool on the way. -/
theorem executes_iff_pool {available : Option (List UUID)}
    (h : (validateDefinition python definition available).valid = true) (hash : String → ℕ)
    (context : RoutingContext Number) (selectionKey : String) :
    (∃ plan, buildExecutionPlan python hash definition context selectionKey = .ok plan ∧
      plan.candidates ≠ [] ∧ WalkPlan python definition context plan) ↔
    ∃ pool, Reaches python definition context pool ∧ pool.type = .candidateModels := by
  constructor
  · rintro ⟨plan, -, hne, hwalk⟩
    obtain ⟨candidate, hcandidate⟩ := List.exists_mem_of_ne_nil _ hne
    obtain ⟨pool, hpool, htype, -⟩ := hwalk.pools candidate hcandidate
    exact ⟨pool, hpool, htype⟩
  · intro hpool
    obtain ⟨plan, hok, hwalk, hne⟩ :=
      plan_of_executable (executable_of_valid h) hash context selectionKey
    exact ⟨plan, hok, hne hpool, hwalk⟩

/-! ## A strategy without a pool -/

namespace Sample

/-- A language whose numbers are integers. -/
def integers : PythonRuntime ℤ where
  casefold text := String.ofList (text.toList.map Char.toLower)
  ofBool value := if value then 1 else 0
  render value := toString value
  parse text := text.toInt?
  eq a b := a == b
  lt a b := decide (a < b)
  le a b := decide (a ≤ b)

/-- A node that is only there. -/
def routerNode (id : String) (type : ModelRouterNodeType) : ModelRouterNode ℤ where
  id := id
  type := type
  label := id
  condition := none
  candidates := []
  strategyType := none
  modelConfigs := []
  routingModelId := none
  decisionPrompt := none
  maxPromptChars := 4000
  decisionReasoningEffort := none
  fallbackOn := []
  timeoutMs := none

def routerEdge (source target : String) : ModelRouterEdge :=
  ⟨source ++ "-" ++ target, source, target, ""⟩

def routerConfig : ModelRouterStrategyModel := ⟨911, 1, 100, none, none, "", by decide⟩

def routerStrategy : ModelRouterNode ℤ :=
  { routerNode "strategy" .strategy with
    strategyType := some .priority, modelConfigs := [routerConfig] }

/-- The second model comes first. -/
def urgentConfig : ModelRouterStrategyModel := ⟨912, 0, 100, none, none, "", by decide⟩

/-- The start leads to a pool of two models, and the pool to its strategy. -/
def pooledRouter : ModelRouterDefinition ℤ where
  nodes := [routerNode "start" .start,
    { routerNode "candidates" .candidateModels with candidates := [⟨911⟩, ⟨912⟩] },
    { routerStrategy with modelConfigs := [routerConfig, urgentConfig] },
    routerNode "output" .output]
  edges := [routerEdge "start" "candidates", routerEdge "candidates" "strategy",
    routerEdge "strategy" "output"]

/-- The start leads to a strategy at once. -/
def poollessRouter : ModelRouterDefinition ℤ where
  nodes := [routerNode "start" .start, routerStrategy, routerNode "output" .output]
  edges := [routerEdge "start" "strategy", routerEdge "strategy" "output"]

end Sample

/-- The plan of a router with a pool on the way has the models of the pool in the order of their
priorities. -/
theorem pooled_router_executes :
    ∃ plan, buildExecutionPlan Sample.integers String.length Sample.pooledRouter (fun _ => none)
        "key" = .ok plan ∧ plan.candidates = [Sample.urgentConfig, Sample.routerConfig] ∧
      WalkPlan Sample.integers Sample.pooledRouter (fun _ => none) plan := by
  have hvalid : (validateDefinition Sample.integers Sample.pooledRouter
      (some [911, 912])).valid = true := by decide +kernel
  have hpool : ∃ pool, Reaches Sample.integers Sample.pooledRouter (fun _ => none) pool ∧
      pool.type = .candidateModels := by
    have hany : (walk Sample.integers Sample.pooledRouter (fun _ => none)).any (fun node =>
        decide (node.type = .candidateModels)) = true := by decide +kernel
    obtain ⟨pool, hmem, htype⟩ := List.any_eq_true.1 hany
    exact ⟨pool, mem_walk.1 hmem, of_decide_eq_true htype⟩
  obtain ⟨plan, hok, -, hwalk⟩ :=
    (executes_iff_pool hvalid String.length (fun _ => none) "key").2 hpool
  have hcandidates : (buildExecutionPlan Sample.integers String.length Sample.pooledRouter
      (fun _ => none) "key").map (·.candidates) =
      .ok [Sample.urgentConfig, Sample.routerConfig] := by decide +kernel
  rw [hok] at hcandidates
  exact ⟨plan, hok, Except.ok.inj hcandidates, hwalk⟩

/-- A definition whose start leads to a strategy at once is valid, and its plan has no
candidates. -/
theorem poolless_router_plans_nothing :
    (validateDefinition Sample.integers Sample.poollessRouter (some [911])).valid = true ∧
    ¬∃ plan, buildExecutionPlan Sample.integers String.length Sample.poollessRouter (fun _ => none)
        "key" = .ok plan ∧ plan.candidates ≠ [] ∧
      WalkPlan Sample.integers Sample.poollessRouter (fun _ => none) plan := by
  refine ⟨by decide +kernel, ?_⟩
  rintro ⟨plan, hok, hne, -⟩
  have hnone :
      (buildExecutionPlan Sample.integers String.length Sample.poollessRouter (fun _ => none)
      "key").map (·.candidates) = .ok [] := by decide +kernel
  rw [hok] at hnone
  exact hne (Except.ok.inj hnone)

end Turnstile
