import Turnstile.Services.RouterSoundness
import Turnstile.Services.RouterInvocation

/-!
# Invocations stay among the candidates

Whatever a conversation has bound before, an invocation sends its request only to models
of the router's pools that can be called, to each once, and to none after a failure that
the router does not fall back on.  A binding names a model that was a candidate when the
binding was saved; so an invariant of the bindings carries the result over a run.
-/

namespace Turnstile

open ModelRouterExecutionService

variable {Number : Type} {python : RouterRuntime Number} {definition : ModelRouterDefinition Number}

/-! ## Pooled candidates -/

namespace ModelRouterDefinition

variable (definition)

/-- The models of the pools. -/
def pooledIds : List UUID :=
  (definition.nodesOf .candidateModels).flatMap (·.candidateIds)

/-- Candidates are of different models, each of a pool. -/
structure Pooled (candidates : List ModelRouterStrategyModel) : Prop where
  distinct : (candidates.map (·.modelId)).Nodup
  listed : ∀ candidate ∈ candidates, candidate.modelId ∈ definition.pooledIds

variable {definition}

/-- A plan has pooled candidates. -/
theorem pooled_of_plan {python : PythonRuntime Number} {hash : String → ℕ}
    {context : RoutingContext Number} {selectionKey : String} {plan : RouterExecutionPlan Number}
    (h : buildExecutionPlan python hash definition context selectionKey = .ok plan) :
    definition.Pooled plan.candidates := by
  rw [buildExecutionPlan] at h
  split at h
  next strategy _ =>
    injection h with h
    subst h
    refine ⟨(ordered_perm.map _).nodup_iff.2 (configs_nodup nodup_eraseDups), ?_⟩
    intro candidate hcandidate
    obtain ⟨modelId, hmem, hfound⟩ := List.mem_filterMap.1 (ordered_perm.mem_iff.1 hcandidate)
    obtain ⟨-, rfl⟩ := configFor_eq hfound
    obtain ⟨pool, hpool, hmodel⟩ := mem_uniqueModelIds.1 hmem
    rw [List.mem_filter, mem_walk, decide_eq_true_eq] at hpool
    have hnode := (of_nodeById hpool.1.nodeById).1
    exact List.mem_flatMap.2 ⟨pool, mem_nodesOf.2 ⟨hnode, hpool.2⟩, hmodel⟩
  next => cases h

/-- A pooled candidate goes in front of pooled candidates. -/
theorem Pooled.inFront {candidates : List ModelRouterStrategyModel}
    {candidate : ModelRouterStrategyModel} (h : definition.Pooled candidates)
    (hlisted : candidate.modelId ∈ definition.pooledIds) :
    definition.Pooled (inFront candidate candidates) := by
  refine ⟨?_, ?_⟩
  · rw [ModelRouterExecutionService.inFront, List.map_cons, List.nodup_cons]
    refine ⟨?_, h.distinct.sublist (List.filter_sublist.map _)⟩
    intro hmem
    obtain ⟨other, hother, hid⟩ := List.mem_map.1 hmem
    exact of_decide_eq_true (List.mem_filter.1 hother).2 hid
  · intro other hother
    cases hother with
    | head => exact hlisted
    | tail _ hrest => exact h.listed other (List.mem_filter.1 hrest).1

end ModelRouterDefinition

open ModelRouterDefinition

/-! ## The order -/

variable {models : CallableModels} {plan : RouterExecutionPlan Number}

/-- The candidates of a decision are the plan's, and the bound one. -/
theorem mem_decidable {bound : Option ModelRouterStrategyModel}
    {candidate : ModelRouterStrategyModel} (h : candidate ∈ decidable python models plan bound) :
    candidate ∈ plan.candidates ∨ bound = some candidate := by
  have hraw : ∀ {other}, other ∈ eligibleCandidates python models plan.candidates →
      other ∈ plan.candidates := fun hother => (List.mem_filter.1 hother).1
  unfold decidable at h
  split at h
  next => exact .inl (hraw h)
  next found hfound =>
    obtain rfl := Option.filter_eq_some_iff.1 hfound |>.1
    have hkept :
        ∀ {other}, other ∈ found :: (eligibleCandidates python models plan.candidates).filter
        (fun other => other.modelId = found.modelId ∨ canEscalateCandidate python models found other
          (eligibleCandidates python models plan.candidates)) →
        other ∈ plan.candidates ∨ some found = some other := by
      intro other hother
      cases hother with
      | head => exact .inr rfl
      | tail _ hrest => exact .inl (hraw (List.mem_filter.1 hrest).1)
    dsimp only at h
    split_ifs at h
    · exact hkept (List.mem_cons_of_mem _ h)
    · exact .inl (hraw h)
    · exact hkept h
    · exact .inl (hraw h)

/-- What decides an order asks the routing model at most once, and what it decides on is
pooled. -/
structure Orders (definition : ModelRouterDefinition Number) {α : Type}
    (candidates : α → List ModelRouterStrategyModel)
    (outcome : List RuntimeCall × Except InvocationFailure α) : Prop where
  asked : outcome.1 = [] ∨ ∃ modelId timeoutMs, outcome.1 = [.decision modelId timeoutMs]
  pooled : ∀ order, outcome.2 = .ok order → definition.Pooled (candidates order)

namespace Orders

variable {α β : Type} {candidates : α → List ModelRouterStrategyModel} {order : α}

theorem unasked (h : definition.Pooled (candidates order)) :
    Orders definition candidates ([], .ok order) := by
  refine ⟨.inl rfl, ?_⟩
  rintro _ ⟨⟩
  exact h

theorem answered {modelId : UUID} {timeoutMs : ℕ} (h : definition.Pooled (candidates order)) :
    Orders definition candidates ([.decision modelId timeoutMs], .ok order) := by
  refine ⟨.inr ⟨_, _, rfl⟩, ?_⟩
  rintro _ ⟨⟩
  exact h

theorem unanswered {modelId : UUID} {timeoutMs : ℕ} {failure : InvocationFailure} :
    Orders definition candidates ([.decision modelId timeoutMs], .error failure) := by
  refine ⟨.inr ⟨_, _, rfl⟩, ?_⟩
  rintro _ ⟨⟩

theorem map {others : β → List ModelRouterStrategyModel} {f : α → β}
    {outcome : List RuntimeCall × Except InvocationFailure α}
    (h : Orders definition candidates outcome)
    (hf : ∀ order, definition.Pooled (candidates order) → definition.Pooled (others (f order))) :
    Orders definition others (outcome.1, outcome.2.map f) := by
  refine ⟨h.asked, ?_⟩
  intro order horder
  obtain ⟨calls, result⟩ := outcome
  cases result with
  | error _ => cases horder
  | ok first =>
      obtain rfl := Except.ok.inj horder
      exact hf first (h.pooled first rfl)

end Orders

theorem modelBasedOrder_orders {routing : RoutingAnswer Number}
    {bound : Option ModelRouterStrategyModel} (hplan : definition.Pooled plan.candidates)
    (hbound : ∀ candidate, bound = some candidate → candidate.modelId ∈ definition.pooledIds) :
    Orders definition DecidedOrder.candidates
      (modelBasedOrder python models plan routing bound) := by
  unfold modelBasedOrder
  dsimp only
  split
  next => exact .unasked hplan
  next => exact .unasked hplan
  next =>
    split
    next => exact .unanswered
    next => exact .answered hplan
    next =>
      split
      next => exact .answered hplan
      next selected hselected =>
        obtain ⟨id, -, hfound⟩ := Option.bind_eq_some_iff.1 hselected
        refine .answered (hplan.inFront ?_)
        cases mem_decidable (List.mem_of_find?_eq_some hfound) with
        | inl hmem => exact hplan.listed selected hmem
        | inr hselected => exact hbound selected hselected

theorem decidedCourse_orders {routing : RoutingAnswer Number}
    {sticky : Option (StickyKind × String)} (hplan : definition.Pooled plan.candidates) :
    Orders definition RouterCourse.candidates
      (decidedCourse python models plan routing sticky) :=
  (modelBasedOrder_orders hplan (by rintro candidate ⟨⟩)).map fun _ h => h

theorem boundCourse_orders {request : ModelInvocationRequest Number}
    {routing : RoutingAnswer Number} {bound : ModelRouterStrategyModel}
    {sticky : Option (StickyKind × String)} (hplan : definition.Pooled plan.candidates)
    (hbound : bound.modelId ∈ definition.pooledIds) :
    Orders definition RouterCourse.candidates
      (boundCourse python models plan request routing bound sticky) := by
  unfold boundCourse
  dsimp only
  split_ifs
  · exact decidedCourse_orders hplan
  · exact .unasked hplan
  · refine (modelBasedOrder_orders hplan ?_).map ?_
    · rintro candidate ⟨⟩
      exact hbound
    · intro decided hdecided
      split_ifs
      · exact hdecided
      · exact hdecided.inFront hbound
  · exact .unasked (hplan.inFront hbound)

theorem boundCandidate_modelId {modelId : UUID} {candidate : ModelRouterStrategyModel}
    (h : boundCandidate definition plan modelId = some candidate) :
    candidate.modelId = modelId := by
  unfold boundCandidate at h
  cases hfound : plan.candidates.find? fun candidate => candidate.modelId = modelId with
  | some found =>
      rw [hfound] at h
      obtain rfl := Option.some.inj h
      have hid := List.find?_some hfound
      exact of_decide_eq_true hid
  | none =>
      rw [hfound] at h
      change routerConfig definition modelId = some candidate at h
      have hid := List.find?_some h
      exact of_decide_eq_true hid

theorem course_orders {request : ModelInvocationRequest Number} {routing : RoutingAnswer Number}
    {bound : Option (UUID × StickyKind × String)} (hplan : definition.Pooled plan.candidates)
    (hbound : ∀ found, bound = some found → found.1 ∈ definition.pooledIds) :
    Orders definition RouterCourse.candidates
      (course python models definition plan request routing bound) := by
  unfold course
  split
  next candidate hcandidate =>
    obtain ⟨found, hfound, hconfig⟩ := Option.bind_eq_some_iff.1 hcandidate
    refine boundCourse_orders hplan ?_
    rw [boundCandidate_modelId hconfig]
    exact hbound found hfound
  next =>
    split_ifs
    · exact decidedCourse_orders hplan
    · exact .unasked hplan

/-! ## The attempts -/

/-- The candidates that are asked, each with what came of it. -/
def attempted (calls : List RuntimeCall) : List (ModelRouterStrategyModel × ProviderOutcome) :=
  calls.filterMap (·.attempted)

/-- A model that can be called, decides nothing and is within the candidate's limit. -/
def Served (python : RouterRuntime Number) (models : CallableModels)
    (candidate : ModelRouterStrategyModel) : Prop :=
  ∃ model, models candidate.modelId = some model ∧ model.isSystemOne = false ∧
    model.overCostLimit python.toRateArithmetic candidate.maxCostPerMillion = false

/-- An attempt that the router falls back from. -/
def FallsBack (plan : RouterExecutionPlan Number) (outcome : ProviderOutcome) : Prop :=
  ∃ error, outcome = some (.http error) ∧ failureEvent error.statusCode ∈ plan.fallbackEvents

/-- What the loop does: it asks served candidates in their order, and goes on only where
the router falls back. -/
structure Attempts (python : RouterRuntime Number) (models : CallableModels)
    (plan : RouterExecutionPlan Number) (candidates : List ModelRouterStrategyModel)
    (course : AttemptCourse) : Prop where
  calls : ∀ call ∈ course.calls, call.attempted ≠ none
  order : ((attempted course.calls).map (·.1)).Sublist candidates
  served : ∀ entry ∈ attempted course.calls, Served python models entry.1
  stops : ∀ before entry after, attempted course.calls = before ++ entry :: after →
    FallsBack plan entry.2 ∨ after = []
  selected : ∀ found, course.result = .ok found → found.1 ∈ candidates

namespace Attempts

variable {candidate : ModelRouterStrategyModel} {candidates : List ModelRouterStrategyModel}
  {course : AttemptCourse}

theorem skip (h : Attempts python models plan candidates course) :
    Attempts python models plan (candidate :: candidates) course :=
  { h with
    order := h.order.cons candidate
    selected := fun found hfound => List.mem_cons_of_mem _ (h.selected found hfound) }

/-- One candidate is asked, and no other. -/
theorem last {timeoutMs : Option ℕ} {outcome : ProviderOutcome} {attempts : List RouterAttempt}
    {result : Except InvocationFailure (ModelRouterStrategyModel × RegistryModel)}
    (hserved : Served python models candidate)
    (hresult : ∀ found, result = .ok found → found.1 = candidate) :
    Attempts python models plan (candidate :: candidates)
      ⟨[.candidate candidate timeoutMs outcome], attempts, result⟩ where
  calls := by
    intro call hcall
    obtain rfl := List.mem_singleton.1 hcall
    exact Option.some_ne_none _
  order := (List.nil_sublist candidates).cons_cons candidate
  served := by
    intro entry hentry
    obtain rfl := List.mem_singleton.1 hentry
    exact hserved
  stops := by
    intro before entry after h
    cases before with
    | nil => exact .inr (List.cons.inj h).2.symm
    | cons _ before =>
        have hnil := (List.cons.inj h).2
        cases before <;> cases hnil
  selected := fun found hfound => hresult found hfound ▸ List.mem_cons_self

/-- One candidate is asked, and falls back on others. -/
theorem falls {timeoutMs : Option ℕ} {outcome : ProviderOutcome}
    (hserved : Served python models candidate) (hfalls : FallsBack plan outcome)
    (h : Attempts python models plan candidates course) :
    Attempts python models plan (candidate :: candidates)
      { course with calls := .candidate candidate timeoutMs outcome :: course.calls } where
  calls := by
    intro call hcall
    cases hcall with
    | head => exact Option.some_ne_none _
    | tail _ hrest => exact h.calls call hrest
  order := h.order.cons_cons candidate
  served := by
    intro entry hentry
    cases hentry with
    | head => exact hserved
    | tail _ hrest => exact h.served entry hrest
  stops := by
    intro before entry after heq
    cases before with
    | nil =>
        obtain rfl := (List.cons.inj heq).1
        exact .inl hfalls
    | cons _ before => exact h.stops before entry after (List.cons.inj heq).2
  selected := fun found hfound => List.mem_cons_of_mem _ (h.selected found hfound)

end Attempts

theorem attemptCandidates_attempts (python : RouterRuntime Number) (models : CallableModels)
    (plan : RouterExecutionPlan Number) (order : RouterCourse) (isBound : Bool)
    (outcome : ℕ → ProviderOutcome) (candidates : List ModelRouterStrategyModel) (index : ℕ)
    (attempts : List RouterAttempt) (lastError : Option HTTPException) :
    Attempts python models plan candidates
      (attemptCandidates python models plan order isBound outcome index attempts lastError
        candidates) := by
  induction candidates generalizing index attempts lastError with
  | nil =>
      refine ⟨?_, .slnil, ?_, ?_, ?_⟩
      · rintro call ⟨⟩
      · rintro entry ⟨⟩
      · intro before entry after h
        cases before <;> cases h
      · rintro found ⟨⟩
  | cons candidate rest ih =>
      unfold attemptCandidates
      split
      next => exact (ih _ _ _).skip
      next model hmodel =>
        obtain ⟨hfound, hrole⟩ := Option.filter_eq_some_iff.1 hmodel
        split
        next => exact (ih _ _ _).skip
        next hcost =>
          have hserved : Served python models candidate :=
            ⟨model, hfound, by simpa using hrole, by simpa using hcost⟩
          dsimp only
          split
          next =>
            refine .last hserved ?_
            rintro found ⟨⟩
            rfl
          next =>
            refine .last hserved ?_
            rintro found ⟨⟩
          next error herror =>
            split
            next =>
              refine .last hserved ?_
              rintro found ⟨⟩
            next hstop =>
              rw [not_or, not_not] at hstop
              exact .falls hserved ⟨error, herror, hstop.2.1⟩ (ih _ _ _)

/-! ## The bindings -/

namespace RunBindings

variable {bindings : RunBindings}

theorem mem_of_latest {rows : List RunBinding} {row : RunBinding} (h : latest rows = some row) :
    row ∈ rows := by
  induction rows generalizing row with
  | nil => cases h
  | cons first rows ih =>
      unfold latest at h
      split at h
      next =>
        obtain rfl := Option.some.inj h
        exact List.mem_cons_self
      next best hbest =>
        split at h
        next =>
          obtain rfl := Option.some.inj h
          exact List.mem_cons_of_mem _ (ih hbest)
        next =>
          obtain rfl := Option.some.inj h
          exact List.mem_cons_self

/-- What is read is the model of a row. -/
theorem of_get {now : ℤ} {key : RunBindingKey} {ttlSeconds : ℕ} {modelId : UUID}
    (h : bindings.get now key ttlSeconds = some modelId) :
    ∃ row ∈ bindings, row.selectedModelId = modelId := by
  unfold get at h
  dsimp only at h
  split at h
  next row hrow =>
    obtain ⟨hfound, -⟩ := Option.filter_eq_some_iff.1 hrow
    exact ⟨row, List.mem_of_find?_eq_some hfound, Option.some.inj h⟩
  next =>
    obtain ⟨row, hrow, hid⟩ := Option.map_eq_some_iff.1 h
    exact ⟨row, (List.mem_filter.1 (mem_of_latest hrow)).1, hid⟩

/-- A row that is there after a model was saved has that model, or one from before. -/
theorem of_mem_save {now : ℤ} {key : RunBindingKey} {modelId : UUID} {name : String}
    {row : RunBinding} (h : row ∈ bindings.save now key modelId name) :
    row.selectedModelId = modelId ∨
      ∃ before ∈ bindings, before.selectedModelId = row.selectedModelId := by
  unfold save at h
  split at h
  next =>
    obtain ⟨before, hbefore, rfl⟩ := List.mem_map.1 h
    split
    next => exact .inl rfl
    next => exact .inr ⟨before, hbefore, rfl⟩
  next =>
    cases List.mem_append.1 h with
    | inl hbefore => exact .inr ⟨row, hbefore, rfl⟩
    | inr hnew =>
        obtain rfl := List.mem_singleton.1 hnew
        exact .inl rfl

end RunBindings

/-- Every binding is to a model of a pool. -/
def PooledBindings (definition : ModelRouterDefinition Number) (bindings : RunBindings) : Prop :=
  ∀ row ∈ bindings, row.selectedModelId ∈ definition.pooledIds

theorem pooled_saveBindings {router : ModelRouter Number} {invocation : RouterInvocation Number}
    {model : RegistryModel} {modelId : UUID} {bindings : RunBindings}
    (h : PooledBindings definition bindings) (hmodel : modelId ∈ definition.pooledIds) :
    PooledBindings definition (saveBindings python router invocation model modelId bindings) := by
  unfold saveBindings
  induction bindingKeys python invocation.request generalizing bindings with
  | nil => exact h
  | cons runId runIds ih =>
      refine ih ?_
      intro row hrow
      cases RunBindings.of_mem_save hrow with
      | inl hnew => rwa [hnew]
      | inr hold =>
          obtain ⟨before, hbefore, hid⟩ := hold
          rw [← hid]
          exact h before hbefore

theorem pooled_boundRun {router : ModelRouter Number} {invocation : RouterInvocation Number}
    {custom : Option ℕ} {bindings : RunBindings} {found : UUID × StickyKind × String}
    (h : PooledBindings definition bindings)
    (hfound : boundRun python router invocation custom bindings = some found) :
    found.1 ∈ definition.pooledIds := by
  obtain ⟨lookup, -, hlookup⟩ := List.exists_of_findSome?_eq_some hfound
  obtain ⟨modelId, hget, rfl⟩ := Option.map_eq_some_iff.1 hlookup
  obtain ⟨row, hrow, hid⟩ := RunBindings.of_get hget
  rw [← hid]
  exact h row hrow

/-! ## One invocation -/

/-- A candidate whose model, and what serves it, is enabled, decides nothing, and costs no
more than the candidate's limit. -/
structure Admissible (rates : RateArithmetic) (registry : ModelRegistry)
    (candidate : ModelRouterStrategyModel) (model : RegistryModel) : Prop where
  registered : model ∈ registry.models
  named : model.id = candidate.modelId
  enabled : model.enabled = true
  runtime : ∃ runtime ∈ registry.runtimes, runtime.id = model.runtimeId ∧ runtime.enabled = true ∧
    ∀ gateway, registry.gateway runtime = some gateway → gateway.enabled = true
  provider : ∃ provider ∈ registry.providers, provider.id = model.providerId ∧
    provider.enabled = true
  role : "decision" ∉ model.capabilities
  cost : ∀ limit, candidate.maxCostPerMillion = some limit → ∀ rate,
    (model.resolvedCosts rates).1 = some rate ∨ (model.resolvedCosts rates).2 = some rate →
      rate ≤ limit

theorem of_rowById {Row : Type} {idOf : Row → UUID} {rows : List Row} {wanted : UUID} {row : Row}
    (h : ModelRegistry.rowById idOf rows wanted = some row) : row ∈ rows ∧ idOf row = wanted := by
  refine ⟨List.mem_reverse.1 (List.mem_of_find?_eq_some h), ?_⟩
  have hid := List.find?_some h
  exact of_decide_eq_true hid

theorem cost_le_of_within {rates : RateArithmetic} {model : RegistryModel} {maximum : Option ℚ}
    (h : model.overCostLimit rates maximum = false) {limit rate : ℚ} (hlimit : maximum = some limit)
    (hrate : (model.resolvedCosts rates).1 = some rate ∨
      (model.resolvedCosts rates).2 = some rate) :
    rate ≤ limit := by
  subst hlimit
  unfold RegistryModel.overCostLimit at h
  rw [Option.any_some, Bool.or_eq_false_iff] at h
  cases hrate with
  | inl hinput =>
      rw [hinput, Option.any_some, decide_eq_false_iff_not, not_lt] at h
      exact h.1
  | inr houtput =>
      rw [houtput, Option.any_some, decide_eq_false_iff_not, not_lt] at h
      exact h.2

theorem admissible_of_served {registry : ModelRegistry} {candidate : ModelRouterStrategyModel}
    (h : Served python (registry.callableModels none true) candidate) :
    ∃ model, Admissible python.toRateArithmetic registry candidate model := by
  obtain ⟨model, hmodel, hrole, hcost⟩ := h
  obtain ⟨hmem, hid⟩ := of_rowById hmodel
  obtain ⟨hregistered, hcallable⟩ := List.mem_filter.1 hmem
  simp only [ModelRegistry.isCallable, Bool.and_eq_true, Option.any_eq_true] at hcallable
  obtain ⟨⟨⟨⟨-, henabled⟩, runtime, hruntime, hon, hgateway⟩, provider, hprovider, hserves⟩, -⟩ :=
    hcallable
  refine ⟨model, hregistered, hid, henabled, ?_, ?_, of_decide_eq_false hrole, ?_⟩
  · obtain ⟨hrow, hrowId⟩ := of_rowById hruntime
    refine ⟨runtime, hrow, hrowId, hon, ?_⟩
    intro gateway hfound
    rw [hfound] at hgateway
    exact hgateway
  · obtain ⟨hrow, hrowId⟩ := of_rowById hprovider
    exact ⟨provider, hrow, hrowId, hserves⟩
  · intro limit hlimit rate hrate
    exact cost_le_of_within hcost hlimit hrate

/-- What an invocation asks the runtime service for, whatever becomes of it. -/
structure Confined (python : RouterRuntime Number) (hash : String → ℕ) (router : ModelRouter Number)
    (invocation : RouterInvocation Number) (calls : List RuntimeCall) : Prop where
  /-- The routing model may be asked first; then candidates are asked. -/
  requests : ∃ decisions attempts, calls = decisions ++ attempts ∧
    (decisions = [] ∨ ∃ modelId timeoutMs, decisions = [.decision modelId timeoutMs]) ∧
    ∀ call ∈ attempts, call.attempted ≠ none
  pooled : ∀ entry ∈ attempted calls, entry.1.modelId ∈ router.definition.pooledIds
  allowed : ∀ ids, invocation.allowedModelIds = some ids →
    ∀ entry ∈ attempted calls, entry.1.modelId ∈ ids
  admissible : ∀ entry ∈ attempted calls,
    ∃ model, Admissible python.toRateArithmetic invocation.registry entry.1 model
  distinct : ((attempted calls).map (·.1.modelId)).Nodup
  stops : ∀ plan, buildExecutionPlan python.toPythonRuntime hash router.definition
      (routingContext python invocation.request) (selectionKey python router invocation.request) =
        .ok plan →
    ∀ before entry after, attempted calls = before ++ entry :: after →
      FallsBack plan entry.2 ∨ after = []

theorem attempted_append {decisions : List RuntimeCall} (attempts : List RuntimeCall)
    (h : decisions = [] ∨ ∃ modelId timeoutMs, decisions = [.decision modelId timeoutMs]) :
    attempted (decisions ++ attempts) = attempted attempts := by
  obtain rfl | ⟨modelId, timeoutMs, rfl⟩ := h
  · rfl
  · rfl

section

variable {hash : String → ℕ} {router : ModelRouter Number} {invocation : RouterInvocation Number}
  {bindings : RunBindings}

/-- An invocation that asks no candidate is confined. -/
theorem confined_of_decisions {decisions : List RuntimeCall}
    (h : decisions = [] ∨ ∃ modelId timeoutMs, decisions = [.decision modelId timeoutMs]) :
    Confined python hash router invocation decisions := by
  have hnone : attempted decisions = [] := by
    have happend := attempted_append [] h
    rwa [List.append_nil] at happend
  refine ⟨⟨decisions, [], (List.append_nil _).symm, h, by simp⟩, ?_, ?_, ?_, ?_, ?_⟩
  · simp [hnone]
  · simp [hnone]
  · simp [hnone]
  · simp [hnone]
  · simp [hnone]

/-- The pools' models are permitted where the router's models are. -/
theorem allowed_of_pooled {allowed : List UUID} {id : UUID}
    (h : ∀ id ∈ candidateModelIds definition, id ∈ allowed) (hid : id ∈ definition.pooledIds) :
    id ∈ allowed := by
  obtain ⟨pool, hpool, hmem⟩ := List.mem_flatMap.1 hid
  exact h id (List.mem_append_left _ (List.mem_flatMap.2 ⟨pool, (mem_nodesOf.1 hpool).1, hmem⟩))

/-- Attempts at pooled candidates are confined. -/
theorem confined_of_attempts {decisions : List RuntimeCall}
    {candidates : List ModelRouterStrategyModel} {course : AttemptCourse}
    (hplan : buildExecutionPlan python.toPythonRuntime hash router.definition
      (routingContext python invocation.request) (selectionKey python router invocation.request) =
        .ok plan)
    (hallowed : ∀ allowed, invocation.allowedModelIds = some allowed →
      ∀ id ∈ candidateModelIds router.definition, id ∈ allowed)
    (hdecisions : decisions = [] ∨ ∃ modelId timeoutMs, decisions = [.decision modelId timeoutMs])
    (hpooled : router.definition.Pooled candidates)
    (h : Attempts python (invocation.registry.callableModels none true) plan candidates course) :
    Confined python hash router invocation (decisions ++ course.calls) := by
  have hlisted : ∀ entry ∈ attempted course.calls,
      entry.1.modelId ∈ router.definition.pooledIds := by
    intro entry hentry
    exact hpooled.listed entry.1 (h.order.subset (List.mem_map_of_mem hentry))
  refine ⟨⟨decisions, course.calls, rfl, hdecisions, h.calls⟩, ?_, ?_, ?_, ?_, ?_⟩ <;>
    rw [attempted_append _ hdecisions]
  · exact hlisted
  · intro allowed hsome entry hentry
    exact allowed_of_pooled (hallowed allowed hsome) (hlisted entry hentry)
  · intro entry hentry
    exact admissible_of_served (h.served entry hentry)
  · have hids := h.order.map (·.modelId)
    rw [List.map_map] at hids
    exact hpooled.distinct.sublist hids
  · intro other hother before entry after hsplit
    obtain rfl := Except.ok.inj (hplan.symm.trans hother)
    exact h.stops before entry after hsplit

/-- From a plan on, an invocation is confined, and what it binds is pooled. -/
theorem invokePlan_confined {custom : Option ℕ}
    (hplan : buildExecutionPlan python.toPythonRuntime hash router.definition
      (routingContext python invocation.request) (selectionKey python router invocation.request) =
        .ok plan)
    (hallowed : ∀ allowed, invocation.allowedModelIds = some allowed →
      ∀ id ∈ candidateModelIds router.definition, id ∈ allowed)
    (h : PooledBindings router.definition bindings) :
    Confined python hash router invocation
        (invokePlan python router invocation plan custom bindings).calls ∧
      PooledBindings router.definition
        (invokePlan python router invocation plan custom bindings).bindings := by
  have horders : Orders router.definition RouterCourse.candidates
      (course python (invocation.registry.callableModels none true) router.definition plan
        invocation.request invocation.routing
        (boundRun python router invocation custom bindings)) :=
    course_orders (pooled_of_plan hplan) fun found hfound => pooled_boundRun h hfound
  unfold invokePlan
  dsimp only
  split
  next => exact ⟨confined_of_decisions (.inl rfl), h⟩
  next =>
    split
    next => exact ⟨confined_of_decisions horders.asked, h⟩
    next order horder =>
      have hpooled := horders.pooled order horder
      have hattempts := attemptCandidates_attempts python
        (invocation.registry.callableModels none true) plan order
        (boundRun python router invocation custom bindings).isSome invocation.outcome
        order.candidates 0 order.attempts none
      have hconfined := confined_of_attempts hplan hallowed horders.asked hpooled hattempts
      split
      next => exact ⟨hconfined, h⟩
      next candidate model hresult =>
        have hselected := hattempts.selected _ hresult
        exact ⟨hconfined, pooled_saveBindings h (hpooled.listed _ hselected)⟩

theorem invoke_confined (h : PooledBindings router.definition bindings) :
    Confined python hash router invocation (invoke python hash router invocation bindings).calls ∧
      PooledBindings router.definition
        (invoke python hash router invocation bindings).bindings := by
  have hrefused : Confined python hash router invocation [] ∧
      PooledBindings router.definition bindings := ⟨confined_of_decisions (.inl rfl), h⟩
  unfold invoke
  split
  next => exact hrefused
  next routerId _ =>
    split
    next =>
      dsimp only
      split
      next => exact hrefused
      next hpermitted =>
        split
        next => exact hrefused
        next => exact hrefused
        next plan custom hplan _ =>
          refine invokePlan_confined hplan ?_ h
          intro allowed hallowed
          rw [hallowed, Option.any_some, decide_eq_true_eq, not_or, not_not] at hpermitted
          exact hpermitted.2
    next => exact hrefused

end

/-! ## Conversations -/

theorem converse_pooled {hash : String → ℕ} {router : ModelRouter Number}
    (earlier : List (RouterInvocation Number)) :
    PooledBindings router.definition (converse python hash router earlier) := by
  have hrun : ∀ bindings, PooledBindings router.definition bindings →
      PooledBindings router.definition (earlier.foldl (fun bindings invocation =>
        (invoke python hash router invocation bindings).bindings) bindings) := by
    induction earlier with
    | nil => exact fun _ h => h
    | cons invocation earlier ih => exact fun bindings h => ih _ (invoke_confined h).2
  exact hrun [] (by rintro row ⟨⟩)

namespace Sample

/-- A routing model that answers the text it is given. -/
def routerRuntime : RouterRuntime ℤ :=
  { integers with
    float := id
    add := (· + ·)
    round := id
    lower := id
    ofNat := fun n => n
    int := some
    overflows := fun _ => false
    loads := fun text => some (.object [("model_id", .text text)])
    renderJson := fun value => match value with
      | .text text => text
      | _ => ""
    floatJson := fun _ => none
    clip := id
    renderUuid := fun _ => "id"
    uuid := fun text => if text = "911" then some 911 else none
    cleanUserMessage := id
    systemInstruction := fun _ => ""
    digest := id }

/-- A strategy that asks one of its candidates which one to choose. -/
def decidedRouter : ModelRouter ℤ where
  id := 900
  version := 1
  name := "router"
  definition := {
    nodes := [routerNode "start" .start,
      { routerNode "candidates" .candidateModels with candidates := [⟨911⟩] },
      { routerStrategy with strategyType := some .modelBased, routingModelId := some 911 },
      routerNode "output" .output]
    edges := pooledRouter.edges }

def routedModel : RegistryModel where
  id := 911
  enabled := true
  displayName := "model"
  modelKey := "model"
  capabilities := ["chat"]
  runtimeId := 912
  providerId := 913
  assignmentRequired := false
  inputCostPerMillion := none
  outputCostPerMillion := none
  contextPriceTiers := []

/-- One message, which the routing model routes to itself. -/
def decidedInvocation : RouterInvocation ℤ where
  request := ⟨⟨"user", "run", 1⟩, some 900, fun _ => none, [⟨"user", "hello"⟩], false⟩
  allowedModelIds := some [911]
  assigned := true
  registry := ⟨[⟨913, true⟩], [⟨⟨912, true⟩, none⟩], [], [routedModel]⟩
  batched := true
  readAt := fun _ => 0
  savedAt := fun _ => 0
  routing := .content "911"
  outcome := fun _ => none

end Sample

end Turnstile
