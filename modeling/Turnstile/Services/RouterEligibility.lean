import Turnstile.Services.RouterCompiler

/-!
# What a compiled plan promises

A plan states what its candidates must be able to do, and it refers to them in its rules,
its selector and its fallbacks.  The references of a plan are its candidates, because the
compiler checked them.  The statement has capabilities that follow from the identity, and
these it did not check (`consistent_iff_covered`).
-/

namespace Turnstile

open ModelRouterV3Compiler

variable {registries : RouterRegistries} {spec : RouterSpecV3} {plan : RouterCompiledPlanV1}
  {candidate : RouterModelRefV3} {facts : RouterModelFactsV1} {modelId : UUID}

/-! ## What a plan says of itself -/

/-- The models that an action names. -/
def RouterRuleActionV3.modelIds : RouterRuleActionV3 → List UUID
  | .selectModel modelId => [modelId]
  | .excludeModels modelIds => modelIds
  | .useProfile _ => []

/-- The models that a selector chooses from. -/
def RouterSelectorV3.choices : RouterSelectorV3 → List UUID
  | .priority modelOrder => modelOrder
  | .weighted allocations => allocations.map (·.modelId)
  | .qos _ => []
  | .foundrySemantic _ _ modelIds => modelIds
  | .evaluatedCustom _ _ modelIds => modelIds

/-- The models that a selector names. -/
def RouterSelectorV3.modelIds (selector : RouterSelectorV3) : List UUID :=
  selector.choices ++ ((routingModel selector).map (·.modelId)).toList

/-- The models that the rules, the selector and the fallbacks of a plan name. -/
def RouterCompiledPlanV1.modelIds (plan : RouterCompiledPlanV1) : List UUID :=
  plan.rules.flatMap (·.action.modelIds) ++ plan.selector.modelIds ++
    plan.resilience.crossModelFallback.modelOrder ++
    (plan.qosPolicy.map (·.fallbackModelOrder)).getD []

/-- The models that a request can be sent to: those that the plan names, but for the routing
model of its selector. -/
def RouterCompiledPlanV1.chosenModelIds (plan : RouterCompiledPlanV1) : List UUID :=
  plan.rules.flatMap (·.action.modelIds) ++ plan.selector.choices ++
    plan.resilience.crossModelFallback.modelOrder ++
    (plan.qosPolicy.map (·.fallbackModelOrder)).getD []

/-- A model does what a plan asks of its candidates. -/
structure Eligible (plan : RouterCompiledPlanV1) (facts : RouterModelFactsV1) : Prop where
  enabled : facts.enabled = true
  operations : plan.identity.supportedOperations ⊆ facts.supportedOperations
  capabilities : plan.eligibility.requiredCapabilities ⊆ facts.capabilities
  context_window : ∀ minimum ∈ plan.eligibility.minimumContextWindow,
    ∃ window ∈ facts.contextWindow, minimum ≤ window
  provider : plan.eligibility.allowedProviderIds ≠ [] →
    facts.providerId ∈ plan.eligibility.allowedProviderIds
  data_zone : plan.eligibility.allowedDataZones ≠ [] →
    facts.dataZone ∈ plan.eligibility.allowedDataZones

/-- A plan keeps to what it says: its candidates are eligible, and what it names occurs
just once among them. -/
structure Consistent (plan : RouterCompiledPlanV1) : Prop where
  eligible : ∀ facts ∈ plan.candidates, Eligible plan facts
  named : ∀ modelId ∈ plan.modelIds, (plan.candidates.map (·.modelId)).count modelId = 1

/-- The same, of the models that requests are sent to. -/
structure ConsistentChoices (plan : RouterCompiledPlanV1) : Prop where
  eligible : ∀ facts ∈ plan.candidates, Eligible plan facts
  named : ∀ modelId ∈ plan.chosenModelIds, (plan.candidates.map (·.modelId)).count modelId = 1

/-! ## What the compiler has checked -/

theorem requireUnique_eq_nil {α : Type} [DecidableEq α] {values : List α} {code path : String} :
    requireUnique values code path = [] ↔ values.Nodup := by
  rw [requireUnique, issueIf_eq_nil, not_not]

theorem requireSubset_eq_nil {values candidates : List UUID} {path : String} :
    requireSubsetCandidates values candidates path = [] ↔ values.Nodup ∧ values ⊆ candidates := by
  rw [requireSubsetCandidates, List.append_eq_nil_iff, requireUnique_eq_nil,
    issueIf_eq_nil, not_not]

theorem requireExact_eq_nil {values candidates : List UUID} {path : String} :
    requireExactCandidates values candidates path = [] ↔
      values.Nodup ∧ values ⊆ candidates ∧ candidates ⊆ values := by
  rw [requireExactCandidates, List.append_eq_nil_iff, requireUnique_eq_nil, issueIf_eq_nil, not_not]

/-- A loop over the elements with their indices found nothing. -/
theorem exists_of_mapIdx_flatten {α β : Type} {issuesOf : ℕ → α → List β} {l : List α}
    (h : (l.mapIdx issuesOf).flatten = []) {a : α} (ha : a ∈ l) :
    ∃ index, issuesOf index a = [] := by
  obtain ⟨index, hindex, rfl⟩ := List.mem_iff_getElem.1 ha
  refine ⟨index, List.flatten_eq_nil_iff.1 h _ (List.mem_mapIdx.2 ⟨index, hindex, rfl⟩)⟩

/-- What was checked of a candidate. -/
structure Checked (spec : RouterSpecV3) (candidate : RouterModelRefV3)
    (facts : RouterModelFactsV1) :
    Prop where
  enabled : facts.enabled = true
  reference : HasReference facts candidate
  operations : spec.identity.supportedOperations ⊆ facts.supportedOperations
  capabilities : spec.eligibility.requiredCapabilities ⊆ facts.capabilities
  context_window : ∀ minimum ∈ spec.eligibility.minimumContextWindow,
    ∃ window ∈ facts.contextWindow, minimum ≤ window
  provider : spec.eligibility.allowedProviderIds ≠ [] →
    facts.providerId ∈ spec.eligibility.allowedProviderIds
  data_zone : spec.eligibility.allowedDataZones ≠ [] →
    facts.dataZone ∈ spec.eligibility.allowedDataZones

theorem checked_of_candidateIssues {index : ℕ}
    (h : candidateIssues registries spec index candidate = []) :
    ∃ facts, registries.modelCatalog candidate.modelId candidate.factsVersion = some facts ∧
      Checked spec candidate facts := by
  rw [candidateIssues] at h
  split at h
  next => cases h
  next facts hfacts =>
    obtain ⟨hfound, henabled⟩ := Option.filter_eq_some_iff.1 hfacts
    split at h
    next hreference =>
      simp only [factsIssues, List.append_eq_nil_iff, issueIf_eq_nil, not_not, not_and,
        not_exists] at h
      obtain ⟨⟨⟨⟨⟨-, hoperations⟩, hcapabilities⟩, hwindow⟩, hprovider⟩, hzone⟩ := h
      refine ⟨facts, hfound, henabled, hreference, hoperations, hcapabilities,
        fun minimum hminimum => ?_, hprovider, hzone⟩
      simpa using hwindow minimum hminimum
    next => cases h

/-- The candidates of a specification without issues are registered, and checked. -/
theorem checked_of_issues
    (h : issues registries spec = []) (hcandidate : candidate ∈ spec.candidates) :
    ∃ facts, registries.modelCatalog candidate.modelId candidate.factsVersion = some facts ∧
      Checked spec candidate facts := by
  simp only [issues, validateCandidates, List.append_eq_nil_iff] at h
  obtain ⟨index, hnone⟩ := exists_of_mapIdx_flatten h.1.1.1.1.2.1.2 hcandidate
  exact checked_of_candidateIssues hnone

theorem candidateIds_nodup (h : issues registries spec = []) : (candidateIds spec).Nodup := by
  simp only [issues, List.append_eq_nil_iff, requireUnique_eq_nil] at h
  exact h.1.1.1.1.1.1.1

/-! ## References -/

/-- Rules name candidates. -/
theorem rules_named (h : issues registries spec = []) {rule : RouterRuleV3}
    (hrule : rule ∈ spec.rules) : rule.action.modelIds ⊆ candidateIds spec := by
  simp only [issues, validateRules, List.append_eq_nil_iff] at h
  obtain ⟨index, hnone⟩ := exists_of_mapIdx_flatten h.1.1.1.2.2 hrule
  rw [ruleIssues, List.append_eq_nil_iff] at hnone
  have haction := hnone.2
  cases hkind : rule.action with
  | selectModel modelId =>
      simp only [hkind, actionIssues, requireCandidate, issueIf_eq_nil, not_not] at haction
      exact List.cons_subset.2 ⟨haction, List.nil_subset _⟩
  | excludeModels modelIds =>
      simp only [hkind, actionIssues, requireCandidate, List.append_eq_nil_iff,
        List.flatMap_eq_nil_iff, issueIf_eq_nil, not_not] at haction
      exact haction.2
  | useProfile profile => exact List.nil_subset _

/-- A selector chooses from candidates. -/
theorem choices_named (h : issues registries spec = []) :
    spec.selector.choices ⊆ candidateIds spec := by
  simp only [issues, List.append_eq_nil_iff] at h
  have hselector := h.1.1.2
  cases hkind : spec.selector with
  | priority modelOrder =>
      simp only [validateSelector, hkind, requireExact_eq_nil] at hselector
      exact hselector.2.1
  | weighted allocations =>
      simp only [validateSelector, hkind, requireExact_eq_nil, List.append_eq_nil_iff] at hselector
      exact hselector.1.2.1
  | qos profile => exact List.nil_subset _
  | foundrySemantic routingModel mode modelIds =>
      simp only [validateSelector, hkind, requireSubset_eq_nil, List.append_eq_nil_iff] at hselector
      exact hselector.1.1.2
  | evaluatedCustom routingModel evaluationId modelIds =>
      simp only [validateSelector, hkind, requireSubset_eq_nil, List.append_eq_nil_iff] at hselector
      exact hselector.1.1.2

/-- The fallback across models goes to candidates. -/
theorem fallback_named (h : issues registries spec = []) :
    spec.resilience.crossModelFallback.modelOrder ⊆ candidateIds spec := by
  simp only [issues, validateResilience, List.append_eq_nil_iff, requireSubset_eq_nil] at h
  exact h.1.2.1.1.1.1.1.1.2.2

/-- The fallback order of a policy has candidates. -/
theorem policy_named (h : issues registries spec = []) {policy : RouterQosPolicyV3}
    (hpolicy : spec.qosPolicy = some policy) : policy.fallbackModelOrder ⊆ candidateIds spec := by
  simp only [issues, List.append_eq_nil_iff] at h
  have hqos := h.2
  rw [validateQosPolicy, hpolicy] at hqos
  split at hqos
  next heq => cases heq
  next profile policy' hkind heq =>
    obtain rfl := Option.some.inj heq
    simp only [qosPolicyIssues, List.append_eq_nil_iff] at hqos
    have hbehavior := hqos.2
    split at hbehavior
    next => exact (requireExact_eq_nil.1 hbehavior).2.1
    next =>
      rw [issueIf_eq_nil, not_not] at hbehavior
      rw [hbehavior]
      exact List.nil_subset _
  next => cases hqos
  next hnone _ => cases hnone

/-! ## The plan -/

/-- What a compilation returns. -/
theorem compile_eq_ok (h : compile registries spec = .ok plan) :
    issues registries spec = [] ∧ ∃ eligibility, normalizedEligibility spec = .ok eligibility ∧
      plan.toRouterCompiledPlanBodyV1 = planBody registries spec eligibility := by
  rw [compile] at h
  split at h
  next hissues =>
    cases heligibility : normalizedEligibility spec with
    | error e =>
        rw [heligibility] at h
        cases h
    | ok eligibility =>
        rw [heligibility] at h
        obtain rfl := Except.ok.inj h
        exact ⟨hissues, eligibility, rfl, rfl⟩
  next => cases h

theorem mem_normalized {α β : Type} [DecidableEq α] [LE β] [DecidableLE β] {key : α → β}
    {values : List α} {a : α} : a ∈ normalized key values ↔ a ∈ values := by
  rw [normalized, List.mem_insertionSort, List.mem_dedup]

theorem normalized_ne_nil {α β : Type} [DecidableEq α] [LE β] [DecidableLE β] {key : α → β}
    {values : List α} : normalized key values ≠ [] ↔ values ≠ [] := by
  simp only [ne_eq, List.eq_nil_iff_forall_not_mem, mem_normalized]

/-- The choices of a selector stay the same in its normal form. -/
theorem choices_normalized {selector : RouterSelectorV3} :
    (normalizedSelector selector).choices.Perm selector.choices := by
  cases selector with
  | weighted allocations => exact (List.perm_insertionSort _ _).map _
  | foundrySemantic routingModel mode modelIds => exact List.perm_insertionSort _ _
  | evaluatedCustom routingModel evaluationId modelIds => exact List.perm_insertionSort _ _
  | _ => exact .refl _

theorem routingModel_normalized {selector : RouterSelectorV3} :
    routingModel (normalizedSelector selector) = routingModel selector := by
  cases selector <;> rfl

/-- The candidates of a plan are those of the pool. -/
theorem mem_plan_candidates (h : issues registries spec = []) {eligibility : RouterEligibilityV3} :
    facts ∈ (planBody registries spec eligibility).candidates ↔ ∃ candidate ∈ spec.candidates,
      registries.modelCatalog candidate.modelId candidate.factsVersion = some facts ∧
        Checked spec candidate facts := by
  simp only [planBody, List.mem_filterMap, List.mem_insertionSort]
  refine exists_congr fun candidate => and_congr_right fun hcandidate => ?_
  refine ⟨fun hfacts => ⟨hfacts, ?_⟩, And.left⟩
  obtain ⟨facts', hfacts', hchecked⟩ := checked_of_issues h hcandidate
  obtain rfl := Option.some.inj (hfacts.symm.trans hfacts')
  exact hchecked

/-- A plan has every model of the pool once. -/
theorem plan_candidates_perm (h : issues registries spec = []) {eligibility : RouterEligibilityV3} :
    ((planBody registries spec eligibility).candidates.map (·.modelId)).Perm
    (candidateIds spec) := by
  have hsorted : ∀ candidate ∈ spec.candidates.insertionSort (·.modelId ≤ ·.modelId),
      (registries.modelCatalog candidate.modelId candidate.factsVersion).map (·.modelId) =
        some candidate.modelId := fun candidate hcandidate => by
    obtain ⟨facts, hfacts, hchecked⟩ :=
      checked_of_issues h (List.mem_insertionSort _ |>.1 hcandidate)
    rw [hfacts, Option.map_some, hchecked.reference.1]
  have hmap : (planBody registries spec eligibility).candidates.map (·.modelId) =
      (spec.candidates.insertionSort (·.modelId ≤ ·.modelId)).map (·.modelId) := by
    simp only [planBody, List.map_filterMap]
    rw [List.filterMap_congr hsorted, List.filterMap_eq_map']
  rw [hmap]
  exact (List.perm_insertionSort _ _).map _

theorem count_plan_candidates
    (h : issues registries spec = []) {eligibility : RouterEligibilityV3} :
    ((planBody registries spec eligibility).candidates.map (·.modelId)).count modelId = 1 ↔
      modelId ∈ candidateIds spec := by
  rw [(plan_candidates_perm h).count_eq]
  constructor
  · intro hcount
    exact List.count_pos_iff.1 (by omega)
  · intro hmem
    exact List.count_eq_one_of_mem (candidateIds_nodup h) hmem

/-- The plan asks of a candidate what was checked of it, and what follows from the
identity. -/
theorem eligible_iff {eligibility : RouterEligibilityV3}
    (heligibility : normalizedEligibility spec = .ok eligibility)
    (hplan : plan.toRouterCompiledPlanBodyV1 = planBody registries spec eligibility)
    (hchecked : Checked spec candidate facts) :
    Eligible plan facts ↔ derivedCapabilities spec.identity ⊆ facts.capabilities := by
  rw [normalizedEligibility] at heligibility
  split at heligibility
  next =>
    have hrequired : plan.eligibility = eligibility := congrArg (·.eligibility) hplan
    have hidentity : plan.identity = (planBody registries spec eligibility).identity :=
      congrArg (·.identity) hplan
    obtain rfl := Except.ok.inj heligibility
    constructor
    · intro heligible modelId hmodel
      have hcapabilities := heligible.capabilities
      rw [hrequired] at hcapabilities
      exact hcapabilities (mem_normalized.2 (List.mem_append_right _ hmodel))
    · intro hderived
      refine ⟨hchecked.enabled, ?_, ?_, ?_, ?_, ?_⟩
      · rw [hidentity]
        exact fun operation hoperation =>
          hchecked.operations ((List.mem_insertionSort _).1 hoperation)
      · rw [hrequired]
        intro capability hcapability
        rcases List.mem_append.1 (mem_normalized.1 hcapability) with hmem | hmem
        · exact hchecked.capabilities hmem
        · exact hderived hmem
      · rw [hrequired]
        exact hchecked.context_window
      · rw [hrequired]
        exact fun hne => mem_normalized.2 (hchecked.provider (normalized_ne_nil.1 hne))
      · rw [hrequired]
        exact fun hne => mem_normalized.2 (hchecked.data_zone (normalized_ne_nil.1 hne))
  next => cases heligibility

theorem RouterCompiledPlanV1.mem_modelIds : modelId ∈ plan.modelIds ↔
    modelId ∈ plan.chosenModelIds ∨
      ∃ reference ∈ routingModel plan.selector, reference.modelId = modelId := by
  simp only [RouterCompiledPlanV1.modelIds, RouterCompiledPlanV1.chosenModelIds,
    RouterSelectorV3.modelIds, List.mem_append, Option.mem_toList, Option.map_eq_some_iff,
    Option.mem_def]
  grind

/-- The models that requests are sent to are candidates. -/
theorem chosen_named (h : issues registries spec = []) {eligibility : RouterEligibilityV3}
    (hplan : plan.toRouterCompiledPlanBodyV1 = planBody registries spec eligibility) :
    plan.chosenModelIds ⊆ candidateIds spec := by
  have hrules : plan.rules = spec.rules := congrArg (·.rules) hplan
  have hselector : plan.selector = normalizedSelector spec.selector := congrArg (·.selector) hplan
  have hresilience : plan.resilience = normalizedResilience spec := congrArg (·.resilience) hplan
  have hpolicy : plan.qosPolicy = spec.qosPolicy := congrArg (·.qosPolicy) hplan
  intro modelId hmodel
  simp only [RouterCompiledPlanV1.chosenModelIds, hrules, hselector, hresilience, hpolicy,
    List.mem_append] at hmodel
  rcases hmodel with ((hrule | hchoice) | hfallback) | hpolicy
  · obtain ⟨rule, hrule, hmem⟩ := List.mem_flatMap.1 hrule
    exact rules_named h hrule hmem
  · exact choices_named h (choices_normalized.mem_iff.1 hchoice)
  · exact fallback_named h hfallback
  · cases hkind : spec.qosPolicy with
    | none =>
        rw [hkind] at hpolicy
        cases hpolicy
    | some policy =>
        rw [hkind] at hpolicy
        exact policy_named h hkind hpolicy

/-- What requests are sent to keeps to the plan just when the candidates have the
capabilities that follow from the identity. -/
theorem consistentChoices_iff (h : compile registries spec = .ok plan) :
    ConsistentChoices plan ↔
      ∀ candidate ∈ spec.candidates,
        ∀ facts ∈ registries.modelCatalog candidate.modelId candidate.factsVersion,
          (spec.identity.tools = .required → "tools" ∈ facts.capabilities) ∧
          (spec.identity.streaming = .required → "streaming" ∈ facts.capabilities) := by
  obtain ⟨hissues, eligibility, heligibility, hplan⟩ := compile_eq_ok h
  have hcandidates : plan.candidates = (planBody registries spec eligibility).candidates :=
    congrArg (·.candidates) hplan
  have hderived : ∀ facts : RouterModelFactsV1,
      derivedCapabilities spec.identity ⊆ facts.capabilities ↔
        (spec.identity.tools = .required → "tools" ∈ facts.capabilities) ∧
        (spec.identity.streaming = .required → "streaming" ∈ facts.capabilities) := fun facts => by
    simp only [derivedCapabilities, List.append_subset]
    refine and_congr ?_ ?_
    · split <;> simp [*]
    · split <;> simp [*]
  have hnamed : ∀ modelId ∈ plan.chosenModelIds,
      (plan.candidates.map (·.modelId)).count modelId = 1 := fun modelId hmodel => by
    rw [hcandidates]
    exact (count_plan_candidates hissues).2 (chosen_named hissues hplan hmodel)
  simp only [← hderived]
  constructor
  · intro hconsistent candidate hcandidate facts hfacts
    obtain ⟨facts', hfacts', hchecked⟩ := checked_of_issues hissues hcandidate
    obtain rfl := Option.some.inj (hfacts'.symm.trans hfacts)
    refine (eligible_iff heligibility hplan hchecked).1 (hconsistent.eligible _ ?_)
    rw [hcandidates]
    exact (mem_plan_candidates hissues).2 ⟨candidate, hcandidate, hfacts', hchecked⟩
  · refine fun hall => ⟨fun facts hmem => ?_, hnamed⟩
    rw [hcandidates] at hmem
    obtain ⟨candidate, hcandidate, hfacts, hchecked⟩ := (mem_plan_candidates hissues).1 hmem
    exact (eligible_iff heligibility hplan hchecked).2 (hall candidate hcandidate facts hfacts)

/-- What is left of a plan that keeps to what it says: its routing model is a candidate. -/
theorem consistent_iff_choices (h : compile registries spec = .ok plan) :
    Consistent plan ↔ ConsistentChoices plan ∧
      ∀ reference ∈ routingModel spec.selector, reference.modelId ∈ candidateIds spec := by
  obtain ⟨hissues, eligibility, -, hplan⟩ := compile_eq_ok h
  have hselector : plan.selector = normalizedSelector spec.selector := congrArg (·.selector) hplan
  have hcount : ∀ modelId, (plan.candidates.map (·.modelId)).count modelId = 1 ↔
      modelId ∈ candidateIds spec := fun modelId => by
    rw [show plan.candidates = (planBody registries spec eligibility).candidates from
      congrArg (·.candidates) hplan]
    exact count_plan_candidates hissues
  constructor
  · intro hconsistent
    refine ⟨⟨hconsistent.eligible, fun modelId hmodel => hconsistent.named modelId
      (RouterCompiledPlanV1.mem_modelIds.2 (.inl hmodel))⟩, fun reference hreference => ?_⟩
    refine (hcount _).1 (hconsistent.named _ (RouterCompiledPlanV1.mem_modelIds.2
      (.inr ⟨reference, ?_, rfl⟩)))
    rw [hselector, routingModel_normalized]
    exact hreference
  · rintro ⟨hchoices, hrouting⟩
    refine ⟨hchoices.eligible, fun modelId hmodel => ?_⟩
    rcases RouterCompiledPlanV1.mem_modelIds.1 hmodel with hchosen | ⟨reference, hreference, rfl⟩
    · exact hchoices.named modelId hchosen
    · rw [hselector, routingModel_normalized] at hreference
      exact (hcount _).2 (hrouting reference hreference)

/-- A plan keeps to what it says just when its candidates have the capabilities that
follow from the identity, and a routing model is one of them. -/
theorem consistent_iff_covered (h : compile registries spec = .ok plan) :
    Consistent plan ↔
      (∀ candidate ∈ spec.candidates,
        ∀ facts ∈ registries.modelCatalog candidate.modelId candidate.factsVersion,
          (spec.identity.tools = .required → "tools" ∈ facts.capabilities) ∧
          (spec.identity.streaming = .required → "streaming" ∈ facts.capabilities)) ∧
      ∀ reference ∈ routingModel spec.selector, reference.modelId ∈ candidateIds spec := by
  rw [consistent_iff_choices h, consistentChoices_iff h]

/-! ## A router that requires tools -/

namespace Sample

/-- A router with one candidate that requires tools. -/
def toolsSpec : RouterSpecV3 where
  identity := ⟨"support", "", [.chatCompletions], .disabled, .required⟩
  inputContract := []
  candidates := [⟨911, 1⟩]
  eligibility := ⟨["chat"], none, [], [], by decide⟩
  rules := []
  selector := .priority [911]
  resilience := ⟨⟨1, [], false⟩, ⟨[], []⟩, .disabled⟩
  stickiness := ⟨.none, none⟩
  qosPolicy := none

/-- Registries whose catalog has the candidate with some capabilities. -/
def routerRegistries (capabilities : List String) : RouterRegistries where
  modelCatalog modelId factsVersion :=
    if modelId = 911 ∧ factsVersion = 1 then
      some ⟨911, 1, "model", true, [.chatCompletions], capabilities, false, none, 7, "eu"⟩
    else none
  contextRegistry _ _ := none
  profileRegistry _ _ := none
  evaluationRegistry _ := none

/-- The plan of the router. -/
def toolsPlan (capabilities : List String) : RouterCompiledPlanV1 :=
  let body := planBody (routerRegistries capabilities) toolsSpec
    ⟨["chat", "tools"], none, [], [], by decide⟩
  { body with planSha256 := ⟨body⟩ }

end Sample

theorem tools_plan_consistent_iff : Consistent (Sample.toolsPlan ["chat", "tools"]) ↔
    (∀ candidate ∈ Sample.toolsSpec.candidates,
      ∀ facts ∈ (Sample.routerRegistries ["chat", "tools"]).modelCatalog candidate.modelId
        candidate.factsVersion,
        (Sample.toolsSpec.identity.tools = .required → "tools" ∈ facts.capabilities) ∧
        (Sample.toolsSpec.identity.streaming = .required → "streaming" ∈ facts.capabilities)) ∧
    ∀ reference ∈ routingModel Sample.toolsSpec.selector,
      reference.modelId ∈ candidateIds Sample.toolsSpec :=
  consistent_iff_covered (by decide +kernel)

/-- A router that requires tools compiles with a candidate that has none. -/
theorem tools_plan_without_tools :
    compile (Sample.routerRegistries ["chat"]) Sample.toolsSpec = .ok (Sample.toolsPlan ["chat"]) ∧
      ¬Consistent (Sample.toolsPlan ["chat"]) := by
  refine ⟨by decide +kernel, fun hconsistent => ?_⟩
  have hcandidate : (⟨911, 1, "model", true, [.chatCompletions], ["chat"], false, none, 7, "eu"⟩ :
      RouterModelFactsV1) ∈ (Sample.toolsPlan ["chat"]).candidates := by decide +kernel
  have htools : "tools" ∈ ["chat"] :=
    (hconsistent.eligible _ hcandidate).capabilities (by decide +kernel)
  revert htools
  decide

end Turnstile
