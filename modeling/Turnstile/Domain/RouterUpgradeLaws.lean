import Turnstile.Domain.RouterUpgrade

/-!
# What the upgrade of a router definition keeps

Every round of the upgrade writes fields of single nodes, and no identifier; a type it changes
only from `priority` to `strategy`.  So the strategy that a pool or a fallback leads to is the
one of the definition as it came.

*Pools.*  The models that a strategy configures are looked up once for a pool: a model that
its pool lists twice is configured twice.

*Timeouts.*  A strategy without a timeout takes that of its first fallback.
-/

namespace Turnstile

open Guard

namespace RouterUpgrade

variable {F : Type} {python : PythonJson F}

/-! ## Fields of nodes -/

/-- A field of the node at a position. -/
def fieldAt (nodes : List (Value F)) (i : ℕ) (key : String) : Value F :=
  match nodes[i]? with
  | some (.object fields) => Json.get fields key
  | _ => .null

/-- The node at a position is a dictionary. -/
def IsDictAt (nodes : List (Value F)) (i : ℕ) : Prop :=
  ∃ fields, nodes[i]? = some (.object fields)

variable {nodes nodes' edges : List (Value F)} {i j : ℕ} {key : String}
  {fields : Dict F} {value : Value F}

theorem fieldAt_of_object (h : nodes[i]? = some (.object fields)) :
    fieldAt nodes i key = Json.get fields key := by
  rw [fieldAt, h]

theorem fieldAt_of_not_dict (h : ¬IsDictAt nodes i) : fieldAt nodes i key = .null := by
  unfold fieldAt
  split
  next fields hfields => exact absurd ⟨fields, hfields⟩ h
  next => rfl

/-- `nodes'` differs from `nodes` in one field of one node. -/
structure Writes (nodes : List (Value F)) (i : ℕ) (key : String) (value : Value F)
    (nodes' : List (Value F)) : Prop where
  length : nodes'.length = nodes.length
  dict : ∀ j, IsDictAt nodes' j ↔ IsDictAt nodes j
  written : fieldAt nodes' i key = value
  other : ∀ j other, j ≠ i ∨ other ≠ key → fieldAt nodes' j other = fieldAt nodes j other

theorem writes_set (h : nodes[i]? = some (.object fields)) :
    Writes nodes i key value (nodes.set i (.object (Json.set fields key value))) := by
  have hlt : i < nodes.length := (List.getElem?_eq_some_iff.1 h).1
  have hself : (nodes.set i (.object (Json.set fields key value)))[i]?
      = some (.object (Json.set fields key value)) := List.getElem?_set_self hlt
  refine ⟨List.length_set, fun j => ?_, ?_, fun j other hother => ?_⟩
  · by_cases hj : i = j
    · subst hj
      exact ⟨fun _ => ⟨fields, h⟩, fun _ => ⟨_, hself⟩⟩
    · unfold IsDictAt
      rw [List.getElem?_set_ne hj]
  · rw [fieldAt_of_object hself, Json.get_set_self]
  · by_cases hj : i = j
    · subst hj
      rw [fieldAt_of_object hself, fieldAt_of_object h]
      exact Json.get_set_of_ne (hother.resolve_left fun hne => hne rfl) _ _
    · unfold fieldAt
      rw [List.getElem?_set_ne hj]

/-! ## Shapes -/

theorem shapeOf_eq_some {node : Value F} {shape : NodeShape F} (h : shapeOf node = some shape) :
    ∃ fields, node = .object fields ∧
      shape = ⟨Json.get fields "id", Json.get fields "type"⟩ := by
  cases node with
  | object fields => exact ⟨fields, rfl, (Option.some.inj h).symm⟩
  | null => cases h
  | bool _ => cases h
  | number _ => cases h
  | text _ => cases h
  | array _ => cases h

/-- The shape at a position, by its fields. -/
theorem shape_at (nodes : List (Value F)) (i : ℕ) :
    (IsDictAt nodes i ∧ ((nodes.map shapeOf)[i]?).join
        = some ⟨fieldAt nodes i "id", fieldAt nodes i "type"⟩) ∨
      ¬IsDictAt nodes i ∧ ((nodes.map shapeOf)[i]?).join = none := by
  rw [List.getElem?_map]
  cases hnode : nodes[i]? with
  | none =>
      refine .inr ⟨?_, rfl⟩
      rintro ⟨fields, hfields⟩
      rw [hnode] at hfields
      cases hfields
  | some node =>
      cases hshape : shapeOf node with
      | none =>
          refine .inr ⟨?_, by rw [Option.map_some, hshape]; rfl⟩
          rintro ⟨fields, hfields⟩
          rw [hnode] at hfields
          cases hfields
          cases hshape
      | some shape =>
          obtain ⟨fields, rfl, rfl⟩ := shapeOf_eq_some hshape
          refine .inl ⟨⟨fields, hnode⟩, ?_⟩
          rw [Option.map_some, hshape, fieldAt_of_object hnode, fieldAt_of_object hnode]
          rfl

/-- Two lists of nodes have the same identifiers, and strategies at the same positions. -/
structure Alike (nodes nodes' : List (Value F)) : Prop where
  length : nodes'.length = nodes.length
  dict : ∀ j, IsDictAt nodes' j ↔ IsDictAt nodes j
  id : ∀ j, fieldAt nodes' j "id" = fieldAt nodes j "id"
  strategy : ∀ j, isStrategyType (fieldAt nodes' j "type") = isStrategyType (fieldAt nodes j "type")

theorem Alike.refl (nodes : List (Value F)) : Alike nodes nodes :=
  ⟨rfl, fun _ => Iff.rfl, fun _ => rfl, fun _ => rfl⟩

theorem Alike.trans
    {nodes'' : List (Value F)} (h : Alike nodes nodes') (h' : Alike nodes' nodes'') :
    Alike nodes nodes'' where
  length := h'.length.trans h.length
  dict j := (h'.dict j).trans (h.dict j)
  id j := (h'.id j).trans (h.id j)
  strategy j := (h'.strategy j).trans (h.strategy j)

theorem Writes.alike (h : Writes nodes i key value nodes') (hid : key ≠ "id")
    (htype : key ≠ "type") :
    Alike nodes nodes' where
  length := h.length
  dict := h.dict
  id j := h.other j "id" (.inr (Ne.symm hid))
  strategy j := by rw [h.other j "type" (.inr (Ne.symm htype))]

namespace Alike

variable (h : Alike nodes nodes')

include h

theorem nodesById (id : Value F) :
    RouterUpgrade.nodesById python (nodes'.map shapeOf) id
      = RouterUpgrade.nodesById python (nodes.map shapeOf) id := by
  unfold RouterUpgrade.nodesById
  rw [List.length_map, List.length_map, h.length]
  congr 1
  funext j
  rcases shape_at nodes j with ⟨hdict, hshape⟩ | ⟨hdict, hshape⟩
  · rcases shape_at nodes' j with ⟨-, hshape'⟩ | ⟨hdict', -⟩
    · rw [hshape, hshape', h.id]
      rfl
    · exact absurd ((h.dict j).2 hdict) hdict'
  · rcases shape_at nodes' j with ⟨hdict', -⟩ | ⟨-, hshape'⟩
    · exact absurd ((h.dict j).1 hdict') hdict
    · rw [hshape, hshape']

theorem isStrategyAt (j : ℕ) :
    RouterUpgrade.isStrategyAt (nodes'.map shapeOf) j
      = RouterUpgrade.isStrategyAt (nodes.map shapeOf) j := by
  unfold RouterUpgrade.isStrategyAt
  rcases shape_at nodes j with ⟨hdict, hshape⟩ | ⟨hdict, hshape⟩
  · rcases shape_at nodes' j with ⟨-, hshape'⟩ | ⟨hdict', -⟩
    · rw [hshape, hshape']
      exact h.strategy j
    · exact absurd ((h.dict j).2 hdict) hdict'
  · rcases shape_at nodes' j with ⟨hdict', -⟩ | ⟨-, hshape'⟩
    · exact absurd ((h.dict j).1 hdict') hdict
    · rw [hshape, hshape']

theorem strategyOf (edge : Dict F) (key : String) :
    RouterUpgrade.strategyOf python (nodes'.map shapeOf) edge key
      = RouterUpgrade.strategyOf python (nodes.map shapeOf) edge key := by
  unfold RouterUpgrade.strategyOf
  rw [h.nodesById]
  cases RouterUpgrade.nodesById python (nodes.map shapeOf) (Json.get edge key) with
  | none => rfl
  | some j =>
      dsimp only
      rw [h.isStrategyAt]

theorem downstream (id : Value F) (edges : List (Value F)) :
    RouterUpgrade.downstream python (nodes'.map shapeOf) id edges
      = RouterUpgrade.downstream python (nodes.map shapeOf) id edges := by
  induction edges with
  | nil => rfl
  | cons edge edges ih =>
      cases edge with
      | object edge =>
          unfold RouterUpgrade.downstream
          rw [h.strategyOf, ih]
      | null => exact ih
      | bool _ => exact ih
      | number _ => exact ih
      | text _ => exact ih
      | array _ => exact ih

theorem firstStrategy (positions : List ℕ) :
    RouterUpgrade.firstStrategy (nodes'.map shapeOf) positions
      = RouterUpgrade.firstStrategy (nodes.map shapeOf) positions := by
  induction positions with
  | nil => rfl
  | cons j rest ih =>
      unfold RouterUpgrade.firstStrategy
      rw [h.isStrategyAt, ih]

theorem chosenStrategy (edges : List (Value F)) (id : Value F) :
    RouterUpgrade.chosenStrategy python (nodes'.map shapeOf) edges id
      = RouterUpgrade.chosenStrategy python (nodes.map shapeOf) edges id := by
  unfold RouterUpgrade.chosenStrategy
  rw [h.downstream, h.firstStrategy, List.length_map, List.length_map, h.length]

theorem owners (id : Value F) (edges : List (Value F)) :
    RouterUpgrade.owners python (nodes'.map shapeOf) id edges
      = RouterUpgrade.owners python (nodes.map shapeOf) id edges := by
  induction edges with
  | nil => rfl
  | cons edge edges ih =>
      cases edge with
      | object edge =>
          unfold RouterUpgrade.owners
          rw [h.strategyOf, ih]
      | null => exact ih
      | bool _ => exact ih
      | number _ => exact ih
      | text _ => exact ih
      | array _ => exact ih

end Alike

/-! ## Strategies -/

theorem isStrategyAt_of_strategyOf {shapes : Shapes F} {edge : Dict F}
    (h : strategyOf python shapes edge key = .ok (some j)) : isStrategyAt shapes j = .ok true := by
  unfold strategyOf at h
  split at h
  next found _ =>
    obtain ⟨answer, hanswer, h⟩ := bind_eq_ok.1 h
    cases answer with
    | true =>
        obtain rfl := Option.some.inj (Except.ok.inj h)
        exact hanswer
    | false => cases Except.ok.inj h
  next => cases Except.ok.inj h

theorem isStrategyAt_of_downstream {shapes : Shapes F} {id : Value F}
    (h : downstream python shapes id edges = .ok (some j)) : isStrategyAt shapes j = .ok true := by
  induction edges with
  | nil => cases Except.ok.inj h
  | cons edge edges ih =>
      cases edge with
      | object edge =>
          rw [downstream] at h
          split at h
          next =>
            obtain ⟨answer, hanswer, h⟩ := bind_eq_ok.1 h
            cases answer with
            | some found =>
                obtain rfl := Option.some.inj (Except.ok.inj h)
                exact isStrategyAt_of_strategyOf hanswer
            | none => exact ih h
          next => exact ih h
      | null => exact ih h
      | bool _ => exact ih h
      | number _ => exact ih h
      | text _ => exact ih h
      | array _ => exact ih h

theorem isStrategyAt_of_firstStrategy {shapes : Shapes F} {positions : List ℕ}
    (h : firstStrategy shapes positions = .ok (some j)) : isStrategyAt shapes j = .ok true := by
  induction positions with
  | nil => cases Except.ok.inj h
  | cons position rest ih =>
      rw [firstStrategy] at h
      obtain ⟨answer, hanswer, h⟩ := bind_eq_ok.1 h
      cases answer with
      | true =>
          obtain rfl := Option.some.inj (Except.ok.inj h)
          exact hanswer
      | false => exact ih h

/-- The strategy of a pool is one. -/
theorem isStrategyAt_of_chosen {shapes : Shapes F} {id : Value F}
    (h : chosenStrategy python shapes edges id = .ok (some j)) :
    isStrategyAt shapes j = .ok true := by
  unfold chosenStrategy at h
  obtain ⟨answer, hanswer, h⟩ := bind_eq_ok.1 h
  cases answer with
  | some found =>
      obtain rfl := Option.some.inj (Except.ok.inj h)
      exact isStrategyAt_of_downstream hanswer
  | none => exact isStrategyAt_of_firstStrategy h

/-- The owners of a fallback are strategies. -/
theorem isStrategyAt_of_owners {shapes : Shapes F} {id : Value F} {found : List ℕ}
    (h : owners python shapes id edges = .ok found) (hj : j ∈ found) :
    isStrategyAt shapes j = .ok true := by
  induction edges generalizing found with
  | nil =>
      obtain rfl := Except.ok.inj h
      cases hj
  | cons edge edges ih =>
      cases edge with
      | object edge =>
          rw [owners] at h
          split at h
          next =>
            obtain ⟨owner, howner, h⟩ := bind_eq_ok.1 h
            obtain ⟨rest, hrest, h⟩ := bind_eq_ok.1 h
            obtain rfl := Except.ok.inj h
            rcases List.mem_append.1 hj with hj | hj
            · cases owner with
              | none => cases hj
              | some found =>
                  obtain rfl := List.mem_singleton.1 hj
                  exact isStrategyAt_of_strategyOf howner
            · exact ih hrest hj
          next => exact ih h hj
      | null => exact ih h hj
      | bool _ => exact ih h hj
      | number _ => exact ih h hj
      | text _ => exact ih h hj
      | array _ => exact ih h hj

/-- A strategy is a dictionary, of one of two types. -/
theorem strategy_at (h : isStrategyAt (nodes.map shapeOf) j = .ok true) :
    IsDictAt nodes j ∧ (fieldAt nodes j "type" = .text "strategy" ∨
      fieldAt nodes j "type" = .text "priority") := by
  unfold isStrategyAt at h
  rcases shape_at nodes j with ⟨hdict, hshape⟩ | ⟨-, hshape⟩
  · refine ⟨hdict, ?_⟩
    rw [hshape] at h
    dsimp only at h
    generalize fieldAt nodes j "type" = type at h ⊢
    cases type with
    | text type =>
        have htype := Except.ok.inj h
        rw [Bool.or_eq_true, beq_iff_eq, beq_iff_eq] at htype
        exact htype.imp (congrArg _) (congrArg _)
    | null => cases Except.ok.inj h
    | bool _ => cases Except.ok.inj h
    | number _ => cases Except.ok.inj h
    | array _ => cases h
    | object _ => cases h
  · rw [hshape] at h
    cases Except.ok.inj h

theorem strategy_ne {type : String} (hstrategy : type ≠ "strategy") (hpriority : type ≠ "priority")
    (h : isStrategyAt (nodes.map shapeOf) j = .ok true) (hi : fieldAt nodes i "type" = .text type) :
    j ≠ i := by
  rintro rfl
  rcases (strategy_at h).2 with htype | htype
  · rw [htype] at hi
    cases hi
    exact hstrategy rfl
  · rw [htype] at hi
    cases hi
    exact hpriority rfl

/-! ## Rounds of the first half -/

/-- A pool of candidates, with those that are enabled. -/
structure PoolAt (python : PythonJson F)
    (nodes : List (Value F)) (i : ℕ) (enabled : List (Dict F)) :
    Prop where
  type : fieldAt nodes i "type" = .text "candidate_models"
  enabled : ∃ candidates, itemsOrEmpty python (fieldAt nodes i "candidates") = .ok candidates ∧
    enabled = enabledCandidates python candidates

theorem PoolAt.unique {enabled enabled' : List (Dict F)} (h : PoolAt python nodes i enabled)
    (h' : PoolAt python nodes i enabled') : enabled = enabled' := by
  obtain ⟨candidates, hitems, rfl⟩ := h.enabled
  obtain ⟨candidates', hitems', rfl⟩ := h'.enabled
  rw [Except.ok.inj (hitems.symm.trans hitems')]

/-- The strategy of the pool at a position. -/
def chosenAt (python : PythonJson F) (nodes edges : List (Value F)) (i : ℕ) :
    Except PythonError (Option ℕ) :=
  chosenStrategy python (nodes.map shapeOf) edges (fieldAt nodes i "id")

/-- What a round makes of a pool. -/
inductive PoolUpgraded (python : PythonJson F) (edges nodes : List (Value F)) (i : ℕ)
    (enabled : List (Dict F)) (nodes' : List (Value F)) : Prop where
  | alone (chosen : chosenAt python nodes edges i = .ok none)
      (candidates : Writes nodes i "candidates" (.array (enabled.map bareCandidate)) nodes')
  | extended (j : ℕ) (middle configs : List (Value F))
      (chosen : chosenAt python nodes edges i = .ok (some j))
      (candidates : Writes nodes i "candidates" (.array (enabled.map bareCandidate)) middle)
      (read : itemsOrEmpty python (fieldAt nodes j "model_configs") = .ok configs)
      (configured : Writes middle j "model_configs"
        (.array (configs ++ addedConfigs python (modelTexts python configs) enabled)) nodes')

theorem upgradePool_eq (h : upgradePool python edges nodes i = .ok nodes') :
    (fieldAt nodes i "type" ≠ .text "candidate_models" ∧ nodes' = nodes) ∨
      ∃ enabled, PoolAt python nodes i enabled ∧
        PoolUpgraded python edges nodes i enabled nodes' := by
  unfold upgradePool at h
  split at h
  next pool hpool =>
    split at h
    next htype =>
      obtain ⟨candidates, hcandidates, h⟩ := bind_eq_ok.1 h
      obtain ⟨chosen, hchosen, h⟩ := bind_eq_ok.1 h
      have hwrites : Writes nodes i "candidates"
        (.array ((enabledCandidates python candidates).map bareCandidate))
        (nodes.set i (.object _)) := writes_set hpool
      generalize hmiddle : nodes.set i _ = middle at hwrites hchosen h
      have halike := hwrites.alike (by decide) (by decide)
      rw [halike.chosenStrategy, ← fieldAt_of_object hpool] at hchosen
      refine .inr ⟨enabledCandidates python candidates,
        ⟨(fieldAt_of_object hpool).trans htype, candidates, ?_, rfl⟩, ?_⟩
      · rw [fieldAt_of_object hpool]
        exact hcandidates
      · cases chosen with
        | none =>
            obtain rfl := Except.ok.inj h
            exact .alone hchosen hwrites
        | some j =>
            have hstrategy := isStrategyAt_of_chosen hchosen
            obtain ⟨strategy, hnode⟩ := (hwrites.dict j).2 (strategy_at hstrategy).1
            dsimp only at h
            rw [hnode] at h
            obtain ⟨extended, hextended, h⟩ := bind_eq_ok.1 h
            obtain rfl := Except.ok.inj h
            obtain ⟨configs, hconfigs, hextended⟩ := bind_eq_ok.1 hextended
            obtain rfl := Except.ok.inj hextended
            refine .extended j middle configs hchosen hwrites ?_ (writes_set hnode)
            rw [← hwrites.other j "model_configs" (.inr (by decide)), fieldAt_of_object hnode]
            exact hconfigs
    next hother =>
      refine .inl ⟨fun htype => hother ?_, (Except.ok.inj h).symm⟩
      rw [← fieldAt_of_object hpool]
      exact htype
  next hnode =>
    refine .inl ⟨fun htype => ?_, (Except.ok.inj h).symm⟩
    rw [fieldAt_of_not_dict] at htype
    · cases htype
    · rintro ⟨fields, hfields⟩
      exact hnode fields hfields

/-! ## Configurations -/

/-- `strategy.get("model_configs") or []` of the node at a position. -/
def configsAt (python : PythonJson F) (nodes : List (Value F)) (j : ℕ) : List (Value F) :=
  (itemsOrEmpty python (fieldAt nodes j "model_configs")).toOption.getD []

/-- The models that the node at a position configures. -/
def configTexts (python : PythonJson F) (nodes : List (Value F)) (j : ℕ) : List String :=
  modelTexts python (configsAt python nodes j)

/-- The models of some candidates. -/
def candidateTexts (python : PythonJson F) (enabled : List (Dict F)) : List String :=
  enabled.map (modelText python)

theorem itemsOrEmpty_array (items : List (Value F)) :
    itemsOrEmpty python (.array items) = .ok items := by
  cases items <;> rfl

theorem configsAt_of_array {items : List (Value F)}
    (h : fieldAt nodes j "model_configs" = .array items) : configsAt python nodes j = items := by
  unfold configsAt
  rw [h, itemsOrEmpty_array]
  rfl

theorem configsAt_congr (h : fieldAt nodes' j "model_configs" = fieldAt nodes j "model_configs") :
    configsAt python nodes' j = configsAt python nodes j := by
  unfold configsAt
  rw [h]

theorem modelTexts_append (configs added : List (Value F)) :
    modelTexts python (configs ++ added) = modelTexts python configs
      ++ modelTexts python added := by
  unfold modelTexts
  rw [List.filterMap_append, List.map_append]

theorem modelTexts_addedConfigs (existing : List String) (enabled : List (Dict F)) :
    modelTexts python (addedConfigs python existing enabled)
      = (candidateTexts python enabled).filter (· ∉ existing) := by
  have hfields : ∀ entries : List (Dict F × ℕ),
      ((entries.map fun entry => configOf entry.2 entry.1).filterMap Json.fields?).map
        (modelText python) = entries.map fun entry => modelText python entry.1 := by
    intro entries
    induction entries with
    | nil => rfl
    | cons entry entries ih => exact congrArg (modelText python entry.1 :: ·) ih
  have hfirst : ∀ entries : List (Dict F × ℕ),
      (entries.filter fun entry => modelText python entry.1 ∉ existing).map
          (fun entry => modelText python entry.1)
        = ((entries.map Prod.fst).filter ((fun text => decide (text ∉ existing)) ∘
            modelText python)).map (modelText python) := by
    intro entries
    rw [List.filter_map, List.map_map]
    rfl
  unfold modelTexts addedConfigs candidateTexts
  rw [hfields, List.filter_map, hfirst, List.zipIdx_map_fst]

/-- A model that is configured is not configured again, any other as often as it is listed. -/
theorem count_extended (configs : List (Value F)) (enabled : List (Dict F)) (text : String) :
    (modelTexts python
        (configs ++ addedConfigs python (modelTexts python configs) enabled)).count text
      = if text ∈ modelTexts python configs then (modelTexts python configs).count text
        else (candidateTexts python enabled).count text := by
  rw [modelTexts_append, modelTexts_addedConfigs, List.count_append]
  split
  next h =>
    rw [Nat.add_eq_left, List.count_eq_zero]
    intro hmem
    exact of_decide_eq_true (List.mem_filter.1 hmem).2 h
  next h =>
    rw [List.count_eq_zero_of_not_mem h, Nat.zero_add, List.count_filter]
    exact decide_eq_true h

theorem configOf_mem {existing : List String} {enabled : List (Dict F)} {k : ℕ} {candidate : Dict F}
    (hk : enabled[k]? = some candidate) (hnew : modelText python candidate ∉ existing) :
    configOf k candidate ∈ addedConfigs python existing enabled := by
  refine List.mem_map.2 ⟨(candidate, k), List.mem_filter.2 ⟨?_, decide_eq_true hnew⟩, rfl⟩
  exact List.mem_zipIdx_iff_getElem?.2 hk

/-! ## The first half -/

/-- A pool and the strategy that takes over its settings. -/
structure PoolOf (python : PythonJson F) (edges nodes : List (Value F)) (i : ℕ)
    (enabled : List (Dict F)) (j : ℕ) : Prop where
  pool : PoolAt python nodes i enabled
  chosen : chosenAt python nodes edges i = .ok (some j)

/-- No pool of the strategy in front of a position enables a model. -/
def FirstPool (python : PythonJson F) (edges nodes : List (Value F)) (i j : ℕ) (text : String) :
    Prop :=
  ∀ i' < i, ∀ enabled, PoolOf python edges nodes i' enabled j → text ∉ candidateTexts python enabled

/-- What the rounds in front of a position have made of the nodes. -/
structure PoolsUpgraded (python : PythonJson F) (edges start : List (Value F)) (n : ℕ)
    (nodes : List (Value F)) : Prop where
  alike : Alike start nodes
  other : ∀ j key, key ≠ "candidates" → key ≠ "model_configs" →
    fieldAt nodes j key = fieldAt start j key
  pending : ∀ i, n ≤ i → fieldAt nodes i "candidates" = fieldAt start i "candidates"
  bare : ∀ i < n, ∀ enabled, PoolAt python start i enabled →
    fieldAt nodes i "candidates" = .array (enabled.map bareCandidate)
  configured : ∀ j, ∀ text ∈ configTexts python start j,
    (configTexts python nodes j).count text = (configTexts python start j).count text
  fresh : ∀ j text, text ∉ configTexts python start j → FirstPool python edges start n j text →
    text ∉ configTexts python nodes j
  added : ∀ i < n, ∀ enabled j, PoolOf python edges start i enabled j →
    ∀ text ∈ candidateTexts python enabled, text ∉ configTexts python start j →
      FirstPool python edges start i j text →
        (configTexts python nodes j).count text = (candidateTexts python enabled).count text ∧
          ∀ k candidate, enabled[k]? = some candidate → modelText python candidate = text →
            configOf k candidate ∈ configsAt python nodes j

namespace PoolsUpgraded

variable {start : List (Value F)} {n : ℕ}

theorem zero : PoolsUpgraded python edges start 0 start where
  alike := .refl start
  other _ _ _ _ := rfl
  pending _ _ := rfl
  bare _ h := absurd h (Nat.not_lt_zero _)
  configured _ _ _ := rfl
  fresh _ _ h _ := h
  added _ h := absurd h (Nat.not_lt_zero _)

theorem poolAt_iff (h : PoolsUpgraded python edges start n nodes) {enabled : List (Dict F)} :
    PoolAt python nodes n enabled ↔ PoolAt python start n enabled := by
  have htype := h.other n "type" (by decide) (by decide)
  have hcandidates := h.pending n (Nat.le_refl n)
  constructor
  · rintro ⟨h₁, h₂⟩
    rw [htype] at h₁
    rw [hcandidates] at h₂
    exact ⟨h₁, h₂⟩
  · rintro ⟨h₁, h₂⟩
    rw [← htype] at h₁
    rw [← hcandidates] at h₂
    exact ⟨h₁, h₂⟩

theorem chosenAt_eq (h : PoolsUpgraded python edges start n nodes) :
    chosenAt python nodes edges n = chosenAt python start edges n := by
  unfold chosenAt
  rw [h.alike.chosenStrategy, h.other n "id" (by decide) (by decide)]

/-- A round that leaves the configurations alone. -/
theorem succ_of_alone (h : PoolsUpgraded python edges start n nodes) (halike : Alike nodes nodes')
    (hother : ∀ j key, key ≠ "candidates" → fieldAt nodes' j key = fieldAt nodes j key)
    (hpending : ∀ i, i ≠ n → fieldAt nodes' i "candidates" = fieldAt nodes i "candidates")
    (hbare : ∀ enabled, PoolAt python start n enabled →
      fieldAt nodes' n "candidates" = .array (enabled.map bareCandidate))
    (hnone : ∀ enabled j, ¬PoolOf python edges start n enabled j) :
    PoolsUpgraded python edges start (n + 1) nodes' := by
  have hconfigs : ∀ j, configsAt python nodes' j = configsAt python nodes j :=
    fun j => configsAt_congr (hother j _ (by decide))
  have htexts : ∀ j, configTexts python nodes' j = configTexts python nodes j := by
    intro j
    unfold configTexts
    rw [hconfigs]
  refine ⟨h.alike.trans halike, fun j key h₁ h₂ => (hother j key h₁).trans (h.other j key h₁ h₂),
    fun i hi => (hpending i (by omega)).trans (h.pending i (by omega)),
      fun i hi enabled hpool => ?_,
    fun j text htext => ?_, fun j text htext hfirst => ?_,
    fun i hi enabled j hpool text htext hnew hfirst => ?_⟩
  · rcases Nat.lt_succ_iff_lt_or_eq.1 hi with hi | rfl
    · rw [hpending i (by omega)]
      exact h.bare i hi enabled hpool
    · exact hbare enabled hpool
  · rw [htexts]
    exact h.configured j text htext
  · rw [htexts]
    exact h.fresh j text htext fun i' hi' => hfirst i' (Nat.lt_succ_of_lt hi')
  · rcases Nat.lt_succ_iff_lt_or_eq.1 hi with hi | rfl
    · rw [htexts, hconfigs]
      exact h.added i hi enabled j hpool text htext hnew hfirst
    · exact absurd hpool (hnone enabled j)

/-- A round that adds the settings of a pool to its strategy. -/
theorem succ_of_extended (h : PoolsUpgraded python edges start n nodes) {enabled : List (Dict F)}
    {middle configs : List (Value F)} (hpool : PoolOf python edges start n enabled j)
    (hcandidates : Writes nodes n "candidates" (.array (enabled.map bareCandidate)) middle)
    (hread : itemsOrEmpty python (fieldAt nodes j "model_configs") = .ok configs)
    (hwrites : Writes middle j "model_configs"
      (.array (configs ++ addedConfigs python (modelTexts python configs) enabled)) nodes') :
    PoolsUpgraded python edges start (n + 1) nodes' := by
  have hbefore : configsAt python nodes j = configs := by
    unfold configsAt
    rw [hread]
    rfl
  have hafter : configsAt python nodes' j = _ := configsAt_of_array hwrites.written
  have helse : ∀ j', j' ≠ j → configsAt python nodes' j' = configsAt python nodes j' := by
    intro j' hj'
    refine configsAt_congr ((hwrites.other j' _ (.inl hj')).trans ?_)
    exact hcandidates.other j' _ (.inr (by decide))
  have hcount : ∀ text, (configTexts python nodes' j).count text
      = if text ∈ configTexts python nodes j then (configTexts python nodes j).count text
        else (candidateTexts python enabled).count text := by
    intro text
    unfold configTexts
    rw [hafter, hbefore]
    exact count_extended configs enabled text
  have hkept : ∀ j', ∀ text ∈ configTexts python nodes j',
      (configTexts python nodes' j').count text = (configTexts python nodes j').count text := by
    intro j' text htext
    by_cases hj' : j' = j
    · subst hj'
      rw [hcount, if_pos htext]
    · unfold configTexts
      rw [helse j' hj']
  refine ⟨?_, fun j' key h₁ h₂ => ?_, fun i hi => ?_, fun i hi other hother => ?_,
    fun j' text htext => ?_, fun j' text htext hfirst => ?_,
    fun i hi other j' hother text htext hnew hfirst => ?_⟩
  · exact (h.alike.trans (hcandidates.alike (by decide) (by decide))).trans
      (hwrites.alike (by decide) (by decide))
  · rw [hwrites.other j' key (.inr h₂), hcandidates.other j' key (.inr h₁)]
    exact h.other j' key h₁ h₂
  · rw [hwrites.other i _ (.inr (by decide)), hcandidates.other i _ (.inl (by omega))]
    exact h.pending i (by omega)
  · rw [hwrites.other i _ (.inr (by decide))]
    rcases Nat.lt_succ_iff_lt_or_eq.1 hi with hi | rfl
    · rw [hcandidates.other i _ (.inl (by omega))]
      exact h.bare i hi other hother
    · rw [hcandidates.written, hpool.pool.unique hother]
  · have hcounted := h.configured j' text htext
    have hmem : text ∈ configTexts python nodes j' := by
      rw [← List.count_pos_iff, hcounted]
      exact List.count_pos_iff.2 htext
    rw [hkept j' text hmem, hcounted]
  · have hnot := h.fresh j' text htext fun i' hi' => hfirst i' (Nat.lt_succ_of_lt hi')
    by_cases hj' : j' = j
    · subst hj'
      rw [← List.count_eq_zero, hcount, if_neg hnot, List.count_eq_zero]
      exact hfirst n (Nat.lt_succ_self n) enabled hpool
    · unfold configTexts
      rw [helse j' hj']
      exact hnot
  · rcases Nat.lt_succ_iff_lt_or_eq.1 hi with hi | rfl
    · obtain ⟨hcounted, hmem⟩ := h.added i hi other j' hother text htext hnew hfirst
      have hin : text ∈ configTexts python nodes j' := by
        rw [← List.count_pos_iff, hcounted]
        exact List.count_pos_iff.2 htext
      refine ⟨(hkept j' text hin).trans hcounted, fun k candidate hk heq => ?_⟩
      have hconfig := hmem k candidate hk heq
      by_cases hj' : j' = j
      · subst hj'
        rw [hafter]
        rw [hbefore] at hconfig
        exact List.mem_append_left _ hconfig
      · rw [helse j' hj']
        exact hconfig
    · obtain rfl := hpool.pool.unique hother.pool
      obtain rfl : j = j' := Option.some.inj (Except.ok.inj (hpool.chosen.symm.trans hother.chosen))
      have hnot := h.fresh j text hnew hfirst
      refine ⟨by rw [hcount, if_neg hnot], fun k candidate hk heq => ?_⟩
      rw [hafter]
      refine List.mem_append_right _ (configOf_mem hk ?_)
      rw [heq, ← hbefore]
      exact hnot

theorem succ (h : PoolsUpgraded python edges start n nodes)
    (hround : upgradePool python edges nodes n = .ok nodes') :
    PoolsUpgraded python edges start (n + 1) nodes' := by
  rcases upgradePool_eq hround with ⟨htype, rfl⟩ | ⟨enabled, hpool, hupgraded⟩
  · have hnone : ∀ enabled, ¬PoolAt python start n enabled := by
      intro enabled hpool
      exact htype (h.poolAt_iff.2 hpool).type
    exact h.succ_of_alone (.refl _) (fun _ _ _ => rfl) (fun _ _ => rfl)
      (fun enabled hpool => absurd hpool (hnone enabled)) fun enabled _ hof =>
        hnone enabled hof.pool
  · have hpool' := h.poolAt_iff.1 hpool
    cases hupgraded with
    | alone hchosen hwrites =>
        rw [h.chosenAt_eq] at hchosen
        refine h.succ_of_alone (hwrites.alike (by decide) (by decide))
          (fun j key hkey => hwrites.other j key (.inr hkey))
          (fun i hi => hwrites.other i _ (.inl hi)) (fun other hother => ?_) fun other j hof => ?_
        · rw [hwrites.written, hpool'.unique hother]
        · cases Except.ok.inj (hchosen.symm.trans hof.chosen)
    | extended j middle configs hchosen hcandidates hread hwrites =>
        rw [h.chosenAt_eq] at hchosen
        exact h.succ_of_extended ⟨hpool', hchosen⟩ hcandidates hread hwrites

/-- What the first half has made of the nodes. -/
theorem of_loop {start final : List (Value F)}
    (h : (List.range start.length).foldlM (upgradePool python edges) start = .ok final) :
    PoolsUpgraded python edges start start.length final := by
  have hkeeps := foldlM_keeps (R := fun done nodes => done = List.range done.length →
    PoolsUpgraded python edges start done.length nodes) h (fun _ => zero)
    fun done i nodes nodes' hround hdone hrange => ?_
  · rw [List.length_range] at hkeeps
    exact hkeeps rfl
  · rw [List.length_append, List.length_singleton, List.range_succ] at hrange
    obtain ⟨hdone', hi⟩ := List.append_inj' hrange rfl
    obtain rfl := List.singleton_inj.1 hi
    rw [List.length_append, List.length_singleton]
    exact (hdone hdone').succ hround

end PoolsUpgraded

end RouterUpgrade

end Turnstile
