import Turnstile.Foundation.Ranking
import Turnstile.Foundation.Selection
import Turnstile.Services.RouterCompiler
import Turnstile.Services.RouterEligibility

/-!
# Compilation and the order of lists

Some lists of a specification are sets: the operations, the fields of the input contract, the
candidates, what eligibility requires and allows, the events that are retried, the shares and
the models of a selector.  Specifications that differ in their order only compile to plans
that differ in the digest of the specification only, or have the same issues, up to their
order.

The compiler reads the candidates and the fields as dictionaries.  Where a list names one
entry twice, in two versions, the last version counts, and three kinds of issues follow it.
-/

namespace Turnstile

open ModelRouterV3Compiler

/-! ## Specifications up to order -/

/-- The selectors differ in the order of their shares, or of their models. -/
inductive RouterSelectorV3.SameUpToOrder : RouterSelectorV3 → RouterSelectorV3 → Prop
  | refl (selector : RouterSelectorV3) : SameUpToOrder selector selector
  | weighted {allocations allocations' : List RouterWeightedAllocationV3}
      (h : allocations.Perm allocations') :
      SameUpToOrder (.weighted allocations) (.weighted allocations')
  | foundrySemantic (routingModel : RouterModelRefV3) (mode : RouterSemanticMode)
      {modelIds modelIds' : List UUID} (h : modelIds.Perm modelIds') :
      SameUpToOrder (.foundrySemantic routingModel mode modelIds)
        (.foundrySemantic routingModel mode modelIds')
  | evaluatedCustom (routingModel : RouterModelRefV3) (evaluationId : UUID)
      {modelIds modelIds' : List UUID} (h : modelIds.Perm modelIds') :
      SameUpToOrder (.evaluatedCustom routingModel evaluationId modelIds)
        (.evaluatedCustom routingModel evaluationId modelIds')

/-- The specifications differ in the order of their sets. -/
structure RouterSpecV3.SameUpToOrder (a b : RouterSpecV3) : Prop where
  identity : b.identity
    = { a.identity with supportedOperations := b.identity.supportedOperations }
  operations : a.identity.supportedOperations.Perm b.identity.supportedOperations
  inputContract : a.inputContract.Perm b.inputContract
  candidates : a.candidates.Perm b.candidates
  capabilities : a.eligibility.requiredCapabilities.Perm b.eligibility.requiredCapabilities
  window : a.eligibility.minimumContextWindow = b.eligibility.minimumContextWindow
  providers : a.eligibility.allowedProviderIds.Perm b.eligibility.allowedProviderIds
  zones : a.eligibility.allowedDataZones.Perm b.eligibility.allowedDataZones
  rules : a.rules = b.rules
  selector : a.selector.SameUpToOrder b.selector
  retry : b.resilience.equivalentDeploymentRetry
    = { a.resilience.equivalentDeploymentRetry with
        retryableEvents := b.resilience.equivalentDeploymentRetry.retryableEvents }
  retryEvents : a.resilience.equivalentDeploymentRetry.retryableEvents.Perm
    b.resilience.equivalentDeploymentRetry.retryableEvents
  fallback : a.resilience.crossModelFallback.modelOrder = b.resilience.crossModelFallback.modelOrder
  fallbackEvents : a.resilience.crossModelFallback.retryableEvents.Perm
    b.resilience.crossModelFallback.retryableEvents
  streamingFailover : a.resilience.streamingFailover = b.resilience.streamingFailover
  stickiness : a.stickiness = b.stickiness
  qosPolicy : a.qosPolicy = b.qosPolicy

/-- Each candidate and each field of the input contract is named in one version. -/
def RouterSpecV3.Unambiguous (spec : RouterSpecV3) : Prop :=
  (∀ a ∈ spec.candidates, ∀ b ∈ spec.candidates, a.modelId = b.modelId →
      a.factsVersion = b.factsVersion) ∧
    ∀ f ∈ spec.inputContract, ∀ g ∈ spec.inputContract, f.name = g.name →
      f.registryVersion = g.registryVersion

/-- The issues that follow the version of a candidate, or of a field. -/
def versionCodes : List String :=
  ["rule_context_unregistered", "rule_predicate_type_mismatch",
    "selector_candidate_not_foundry_eligible"]

/-! ## Codes of issues -/

/-- The codes of issues, of some kinds. -/
def issueCodes (kinds : String → Bool) (issues : List RouterCompilationIssue) : List String :=
  (issues.map RouterCompilationIssue.code).filter kinds

/-- Issues of the same kinds, up to their order. -/
def SameCodes (kinds : String → Bool) (issues issues' : List RouterCompilationIssue) : Prop :=
  (issueCodes kinds issues).Perm (issueCodes kinds issues')

section Codes

variable {kinds : String → Bool} {issues issues' rest rest' : List RouterCompilationIssue}

theorem SameCodes.refl (issues : List RouterCompilationIssue) : SameCodes kinds issues issues :=
  List.Perm.refl _

theorem SameCodes.append (h : SameCodes kinds issues issues') (hrest : SameCodes kinds rest rest') :
    SameCodes kinds (issues ++ rest) (issues' ++ rest') := by
  unfold SameCodes issueCodes at *
  rw [List.map_append, List.map_append, List.filter_append, List.filter_append]
  exact List.Perm.append h hrest

/-- One cause, wherever it is. -/
theorem sameCodes_issueIf {cause cause' : Prop} [Decidable cause] [Decidable cause']
    (h : cause ↔ cause') (code path path' message message' : String) :
    SameCodes kinds (issueIf cause code path message) (issueIf cause' code path' message') := by
  unfold SameCodes issueIf
  by_cases hcause : cause
  · rw [if_pos hcause, if_pos (h.1 hcause)]
    exact .refl _
  · rw [if_neg hcause, if_neg (mt h.2 hcause)]

theorem sameCodes_requireUnique {α : Type} [DecidableEq α] {values values' : List α}
    (h : values.Perm values') (code path path' : String) :
    SameCodes kinds (requireUnique values code path) (requireUnique values' code path') :=
  sameCodes_issueIf (not_congr h.nodup_iff) ..

/-- The issues of the items of two lists in different orders. -/
theorem sameCodes_flatMap {α : Type} {items items' : List α} {f g : α → List RouterCompilationIssue}
    (h : items.Perm items') (hsame : ∀ item ∈ items, SameCodes kinds (f item) (g item)) :
    SameCodes kinds (items.flatMap f) (items'.flatMap g) := by
  have hcodes : ∀ (l : List α) (f : α → List RouterCompilationIssue),
      issueCodes kinds (l.flatMap f) = l.flatMap fun item => issueCodes kinds (f item) := by
    intro l f
    unfold issueCodes
    rw [List.map_flatMap, List.filter_flatMap]
  unfold SameCodes
  rw [hcodes, hcodes]
  exact h.flatMap hsame

/-- The place of an item shows in the paths of its issues, and not in their codes. -/
theorem sameCodes_flatten {α : Type} (items : List α) {f g : ℕ → α → List RouterCompilationIssue}
    (hsame : ∀ item ∈ items, ∀ i j, SameCodes kinds (f i item) (g j item)) :
    SameCodes kinds (items.mapIdx f).flatten (items.flatMap (g 0)) := by
  induction items generalizing f with
  | nil => exact .refl _
  | cons item rest ih =>
      rw [List.mapIdx_cons, List.flatten_cons, List.flatMap_cons]
      exact (hsame item List.mem_cons_self 0 0).append
        (ih fun other hother i j => hsame other (List.mem_cons_of_mem item hother) (i + 1) j)

theorem sameCodes_mapIdx {α : Type} {items items' : List α}
    {f g : ℕ → α → List RouterCompilationIssue} (h : items.Perm items')
    (hsame : ∀ item ∈ items, ∀ i j, SameCodes kinds (f i item) (g j item)) :
    SameCodes kinds (items.mapIdx f).flatten (items'.mapIdx g).flatten := by
  have hlist := sameCodes_flatten items hsame
  have hlist' : SameCodes kinds (items'.mapIdx g).flatten (items'.flatMap (g 0)) := by
    refine sameCodes_flatten items' fun item hitem i j => ?_
    have hitem := h.mem_iff.2 hitem
    exact (hsame item hitem 0 i).symm.trans (hsame item hitem 0 j)
  exact (hlist.trans (sameCodes_flatMap h fun item _ => .refl _)).trans hlist'.symm

end Codes

/-! ## Issues of a part -/

section Issues

variable {registries : RouterRegistries} {a b : RouterSpecV3} {kinds : String → Bool}

theorem RouterSpecV3.SameUpToOrder.streaming (h : a.SameUpToOrder b) :
    a.identity.streaming = b.identity.streaming := by
  rw [h.identity]

theorem RouterSpecV3.SameUpToOrder.tools (h : a.SameUpToOrder b) :
    a.identity.tools = b.identity.tools := by
  rw [h.identity]

theorem candidateIds_perm (h : a.SameUpToOrder b) : (candidateIds a).Perm (candidateIds b) :=
  h.candidates.map _

theorem validateContext_order (h : a.SameUpToOrder b) :
    SameCodes kinds (validateContext registries a) (validateContext registries b) := by
  unfold validateContext
  refine (sameCodes_requireUnique (h.inputContract.map _) ..).append ?_
  refine sameCodes_mapIdx h.inputContract fun field _ i j => ?_
  unfold contextFieldIssues
  cases (registries.contextRegistry field.name field.registryVersion).filter (·.enabled) with
  | none => exact .refl _
  | some registration => exact sameCodes_issueIf Iff.rfl ..

theorem factsIssues_order (h : a.SameUpToOrder b) (path path' : String) (modelId : UUID)
    (facts : RouterModelFactsV1) :
    SameCodes kinds (factsIssues a path modelId facts) (factsIssues b path' modelId facts) := by
  unfold factsIssues
  have hempty : ∀ {α : Type} {l l' : List α}, l.Perm l' → (l ≠ [] ↔ l' ≠ []) := by
    intro α l l' hperm
    rw [← List.length_pos_iff, ← List.length_pos_iff, hperm.length_eq]
  refine (((((((sameCodes_requireUnique (.refl _) ..).append
    (sameCodes_requireUnique (.refl _) ..)).append ?_).append ?_).append ?_).append ?_).append ?_)
  · exact sameCodes_issueIf (not_congr h.operations.subset_congr_left) ..
  · exact sameCodes_issueIf (not_congr h.capabilities.subset_congr_left) ..
  · exact sameCodes_issueIf (by rw [h.window]) ..
  · exact sameCodes_issueIf (and_congr (hempty h.providers) (not_congr h.providers.mem_iff)) ..
  · exact sameCodes_issueIf (and_congr (hempty h.zones) (not_congr h.zones.mem_iff)) ..

theorem validateCandidates_order (h : a.SameUpToOrder b) :
    SameCodes kinds (validateCandidates registries a) (validateCandidates registries b) := by
  unfold validateCandidates
  refine ((((sameCodes_requireUnique h.capabilities ..).append
    (sameCodes_requireUnique h.providers ..)).append
    (sameCodes_requireUnique h.zones ..)).append ?_).append ?_
  · refine sameCodes_mapIdx h.candidates fun candidate _ i j => ?_
    unfold candidateIssues
    cases candidateFacts registries candidate with
    | none => exact .refl _
    | some facts =>
        dsimp only
        split_ifs
        · exact factsIssues_order h ..
        · exact .refl _
  · exact sameCodes_issueIf (not_congr (h.candidates.filterMap _).nodup_iff) ..

theorem requireSubsetCandidates_order (h : a.SameUpToOrder b) {values values' : List UUID}
    (hperm : values.Perm values') (path : String) :
    SameCodes kinds (requireSubsetCandidates values (candidateIds a) path)
      (requireSubsetCandidates values' (candidateIds b) path) := by
  refine (sameCodes_requireUnique hperm ..).append (sameCodes_issueIf (not_congr ?_) ..)
  rw [hperm.subset_congr_left, (candidateIds_perm h).subset_congr_right]

theorem requireExactCandidates_order (h : a.SameUpToOrder b) {values values' : List UUID}
    (hperm : values.Perm values') (path : String) :
    SameCodes kinds (requireExactCandidates values (candidateIds a) path)
      (requireExactCandidates values' (candidateIds b) path) := by
  refine (sameCodes_requireUnique hperm ..).append (sameCodes_issueIf (not_congr ?_) ..)
  rw [hperm.subset_congr_left, hperm.subset_congr_right, (candidateIds_perm h).subset_congr_left,
    (candidateIds_perm h).subset_congr_right]

theorem validateResilience_order (h : a.SameUpToOrder b) :
    SameCodes kinds (validateResilience a) (validateResilience b) := by
  have hattempts : a.resilience.equivalentDeploymentRetry.maxAttemptsPerRequest
      = b.resilience.equivalentDeploymentRetry.maxAttemptsPerRequest := by
    rw [h.retry]
  have hrespect : a.resilience.equivalentDeploymentRetry.respectRetryAfter
      = b.resilience.equivalentDeploymentRetry.respectRetryAfter := by
    rw [h.retry]
  have hnil : ∀ {l l' : List RouterRetryableEvent}, l.Perm l' → (l = [] ↔ l' = []) := by
    intro l l' hperm
    rw [← List.length_eq_zero_iff, ← List.length_eq_zero_iff, hperm.length_eq]
  have hretry := hnil h.retryEvents
  have hfallback := hnil h.fallbackEvents
  have hisEmpty : a.resilience.crossModelFallback.retryableEvents.isEmpty
      = b.resilience.crossModelFallback.retryableEvents.isEmpty := by
    rw [Bool.eq_iff_iff, List.isEmpty_iff, List.isEmpty_iff, hfallback]
  unfold validateResilience
  dsimp only
  refine ((((((((sameCodes_requireUnique h.retryEvents ..).append
    (sameCodes_requireUnique h.fallbackEvents ..)).append
    (requireSubsetCandidates_order h (h.fallback ▸ .refl _) _)).append ?_).append ?_).append
    ?_).append ?_).append ?_).append ?_
  · exact sameCodes_issueIf (by rw [h.fallback, hisEmpty]) ..
  · exact sameCodes_issueIf (by rw [hattempts, Ne, Ne, hretry]) ..
  · exact sameCodes_issueIf (by rw [hattempts, hretry]) ..
  · exact sameCodes_issueIf (by rw [hrespect, h.retryEvents.mem_iff]) ..
  · exact sameCodes_issueIf
      (by rw [h.streaming, hattempts, h.streamingFailover, Ne, Ne, Ne, Ne, hretry, hfallback]) ..
  · exact sameCodes_issueIf (by rw [h.streaming, h.streamingFailover]) ..

theorem validateQosPolicy_order (h : a.SameUpToOrder b) :
    SameCodes kinds (validateQosPolicy registries a) (validateQosPolicy registries b) := by
  have hpolicy : ∀ profile policy, SameCodes kinds (qosPolicyIssues registries a profile policy)
      (qosPolicyIssues registries b profile policy) := by
    intro profile policy
    unfold qosPolicyIssues
    refine SameCodes.append (.refl _) ?_
    cases policy.missingDataBehavior with
    | staticPriority => exact requireExactCandidates_order h (.refl _) _
    | failClosed => exact .refl _
  have hselector := h.selector
  unfold validateQosPolicy
  rw [h.qosPolicy]
  generalize a.selector = sa at hselector ⊢
  generalize b.selector = sb at hselector ⊢
  cases hselector with
  | refl =>
      cases sa with
      | qos profile =>
          cases b.qosPolicy with
          | none => exact .refl _
          | some policy => exact hpolicy profile policy
      | _ => cases b.qosPolicy <;> exact .refl _
  | weighted _ => cases b.qosPolicy <;> exact .refl _
  | foundrySemantic _ _ _ => cases b.qosPolicy <;> exact .refl _
  | evaluatedCustom _ _ _ => cases b.qosPolicy <;> exact .refl _

/-! ## Issues that follow a version -/

/-- Without versions, or with the kinds that do not follow them. -/
def VersionFree (spec : RouterSpecV3) (kinds : String → Bool) : Prop :=
  spec.Unambiguous ∨ ∀ code ∈ versionCodes, kinds code = false

/-- What the last entry of a name says is what every entry says. -/
theorem find?_reverse_of_perm {α β : Type} {l l' : List α} {p : α → Bool} {f : α → β}
    (hperm : l.Perm l') (hsame : ∀ x ∈ l, ∀ y ∈ l, p x = true → p y = true → f x = f y) :
    (l.reverse.find? p).map f = (l'.reverse.find? p).map f := by
  cases hfound : l.reverse.find? p with
  | none =>
      rw [List.find?_eq_none.2 fun x hx => List.find?_eq_none.1 hfound x (List.mem_reverse.2
        (hperm.mem_iff.2 (List.mem_reverse.1 hx)))]
  | some x =>
      have hx := List.mem_reverse.1 (List.mem_of_find?_eq_some hfound)
      cases hfound' : l'.reverse.find? p with
      | none =>
          exact absurd (List.find?_some hfound)
            (List.find?_eq_none.1 hfound' x (List.mem_reverse.2 (hperm.mem_iff.1 hx)))
      | some y =>
          have hy := hperm.mem_iff.2 (List.mem_reverse.1 (List.mem_of_find?_eq_some hfound'))
          rw [Option.map_some, Option.map_some,
            hsame x hx y hy (List.find?_some hfound) (List.find?_some hfound')]

theorem declaredVersion_order (h : a.SameUpToOrder b) (hone : a.Unambiguous) (name : String) :
    declaredVersion a name = declaredVersion b name := by
  refine find?_reverse_of_perm h.inputContract fun f hf g hg hfn hgn => ?_
  exact hone.2 f hf g hg ((of_decide_eq_true hfn).trans (of_decide_eq_true hgn).symm)

/-- A field is declared, in whatever version. -/
theorem declaredVersion_none (h : a.SameUpToOrder b) (name : String) :
    declaredVersion a name = none ↔ declaredVersion b name = none := by
  have hnone : ∀ spec : RouterSpecV3, declaredVersion spec name = none ↔
      ∀ field ∈ spec.inputContract, field.name ≠ name := by
    intro spec
    simp [declaredVersion]
  rw [hnone, hnone]
  exact ⟨fun hall f hf => hall f (h.inputContract.mem_iff.2 hf),
    fun hall f hf => hall f (h.inputContract.mem_iff.1 hf)⟩

theorem issueCodes_of_versionCodes (hkinds : ∀ code ∈ versionCodes, kinds code = false)
    {issues : List RouterCompilationIssue} (h : ∀ issue ∈ issues, issue.code ∈ versionCodes) :
    issueCodes kinds issues = [] := by
  unfold issueCodes
  rw [List.filter_eq_nil_iff]
  intro code hcode
  obtain ⟨issue, hissue, rfl⟩ := List.mem_map.1 hcode
  rw [hkinds _ (h issue hissue)]
  exact Bool.false_ne_true

theorem predicateIssues_order (h : a.SameUpToOrder b) (hfree : VersionFree a kinds)
    (path path' : String) (rule : RouterRuleV3) :
    SameCodes kinds (predicateIssues registries a path rule)
      (predicateIssues registries b path' rule) := by
  have hpaths : ∀ version : Option ℕ, declaredVersion a rule.predicate.field = version →
      declaredVersion b rule.predicate.field = version →
        SameCodes kinds (predicateIssues registries a path rule)
          (predicateIssues registries b path' rule) := by
    intro version ha hb
    unfold predicateIssues
    rw [ha, hb]
    cases version with
    | none => exact .refl _
    | some version =>
        dsimp only
        cases (registries.contextRegistry rule.predicate.field version).filter (·.enabled) with
        | none => exact .refl _
        | some field => exact sameCodes_issueIf Iff.rfl ..
  rcases hfree with hone | hkinds
  · exact hpaths _ rfl (declaredVersion_order h hone _).symm
  · -- A declared field has issues of the kinds that are left out, if any.
    have hsome : ∀ (spec : RouterSpecV3) (path : String) (version : ℕ),
        declaredVersion spec rule.predicate.field = some version →
          issueCodes kinds (predicateIssues registries spec path rule) = [] := by
      intro spec path version hversion
      refine issueCodes_of_versionCodes hkinds fun issue hissue => ?_
      unfold predicateIssues at hissue
      rw [hversion] at hissue
      dsimp only at hissue
      split at hissue
      · simp [List.mem_singleton.1 hissue, versionCodes]
      · unfold issueIf at hissue
        split_ifs at hissue with hcause
        · simp [List.mem_singleton.1 hissue, versionCodes]
        · exact absurd hissue List.not_mem_nil
    cases ha : declaredVersion a rule.predicate.field with
    | none => exact hpaths none ha ((declaredVersion_none h _).1 ha)
    | some version =>
        cases hb : declaredVersion b rule.predicate.field with
        | none =>
            rw [(declaredVersion_none h _).2 hb] at ha
            cases ha
        | some version' =>
            unfold SameCodes
            rw [hsome a path version ha, hsome b path' version' hb]

theorem actionIssues_order (h : a.SameUpToOrder b) (path path' : String)
    (action : RouterRuleActionV3) :
    SameCodes kinds (actionIssues registries (candidateIds a) path action)
      (actionIssues registries (candidateIds b) path' action) := by
  have hcandidate : ∀ modelId, SameCodes kinds (requireCandidate (candidateIds a) path modelId)
      (requireCandidate (candidateIds b) path' modelId) := fun modelId =>
    sameCodes_issueIf (not_congr (candidateIds_perm h).mem_iff) ..
  cases action with
  | selectModel modelId => exact hcandidate modelId
  | excludeModels modelIds =>
      exact (sameCodes_requireUnique (.refl _) ..).append
        (sameCodes_flatMap (.refl _) fun modelId _ => hcandidate modelId)
  | useProfile profile => exact sameCodes_issueIf Iff.rfl ..

theorem validateRules_order (h : a.SameUpToOrder b) (hfree : VersionFree a kinds) :
    SameCodes kinds (validateRules registries a) (validateRules registries b) := by
  unfold validateRules
  rw [h.rules]
  exact (SameCodes.refl _).append (sameCodes_mapIdx (.refl _) fun rule _ i j =>
    (predicateIssues_order h hfree ..).append (actionIssues_order h ..))

theorem foundryIssues_order (h : a.SameUpToOrder b) (hfree : VersionFree a kinds)
    (modelId : UUID) :
    SameCodes kinds (foundryIssues registries a modelId) (foundryIssues registries b modelId) := by
  rcases hfree with hone | hkinds
  · have hfacts : poolFacts registries a modelId = poolFacts registries b modelId := by
      unfold poolFacts
      have hfound := find?_reverse_of_perm (f := id) (p := fun candidate : RouterModelRefV3 =>
        decide (candidate.modelId = modelId)) h.candidates fun x hx y hy hxm hym => by
          have hid := (of_decide_eq_true hxm).trans (of_decide_eq_true hym).symm
          have hversion := hone.1 x hx y hy hid
          cases x
          cases y
          cases hid
          cases hversion
          rfl
      rw [Option.map_id_fun, id, id] at hfound
      rw [hfound]
    unfold foundryIssues
    rw [hfacts]
    exact .refl _
  · have hnone : ∀ spec, issueCodes kinds (foundryIssues registries spec modelId) = [] := by
      intro spec
      refine issueCodes_of_versionCodes hkinds fun issue hissue => ?_
      unfold foundryIssues issueIf at hissue
      split_ifs at hissue with hcause
      · simp [List.mem_singleton.1 hissue, versionCodes]
      · exact absurd hissue List.not_mem_nil
    unfold SameCodes
    rw [hnone, hnone]

theorem routingModelIssues_order (h : a.SameUpToOrder b) (kind : String)
    (routingModel : RouterModelRefV3) :
    routingModelIssues registries a kind routingModel
      = routingModelIssues registries b kind routingModel := by
  unfold routingModelIssues
  cases candidateFacts registries routingModel with
  | none => rfl
  | some facts =>
      dsimp only
      by_cases hsubset : a.identity.supportedOperations ⊆ facts.supportedOperations
      · simp only [hsubset, h.operations.subset_congr_left.1 hsubset]
      · simp only [hsubset, mt h.operations.subset_congr_left.2 hsubset]

theorem validateSelector_order (h : a.SameUpToOrder b) (hfree : VersionFree a kinds) :
    SameCodes kinds (validateSelector registries a) (validateSelector registries b) := by
  have hselector := h.selector
  unfold validateSelector
  generalize a.selector = sa at hselector ⊢
  generalize b.selector = sb at hselector ⊢
  have hfoundry : ∀ {modelIds modelIds' : List UUID} (routingModel : RouterModelRefV3),
      modelIds.Perm modelIds' → SameCodes kinds
        (requireSubsetCandidates modelIds (candidateIds a) "selector.model_ids" ++
          routingModelIssues registries a "Foundry semantic" routingModel ++
          modelIds.flatMap (foundryIssues registries a))
        (requireSubsetCandidates modelIds' (candidateIds b) "selector.model_ids" ++
          routingModelIssues registries b "Foundry semantic" routingModel ++
          modelIds'.flatMap (foundryIssues registries b)) := by
    intro modelIds modelIds' routingModel hperm
    rw [routingModelIssues_order h]
    exact ((requireSubsetCandidates_order h hperm _).append (.refl _)).append
      (sameCodes_flatMap hperm fun modelId _ => foundryIssues_order h hfree modelId)
  have hcustom : ∀ {modelIds modelIds' : List UUID} (routingModel : RouterModelRefV3)
      (evaluationId : UUID), modelIds.Perm modelIds' → SameCodes kinds
        (requireSubsetCandidates modelIds (candidateIds a) "selector.model_ids" ++
          routingModelIssues registries a "Custom selector" routingModel ++
          issueIf (¬EvaluationPassed registries routingModel evaluationId modelIds)
            "selector_evaluation_gate_failed" "selector.evaluation_id"
            "Custom selector requires a matching passed and enabled evaluation")
        (requireSubsetCandidates modelIds' (candidateIds b) "selector.model_ids" ++
          routingModelIssues registries b "Custom selector" routingModel ++
          issueIf (¬EvaluationPassed registries routingModel evaluationId modelIds')
            "selector_evaluation_gate_failed" "selector.evaluation_id"
            "Custom selector requires a matching passed and enabled evaluation") := by
    intro modelIds modelIds' routingModel evaluationId hperm
    rw [routingModelIssues_order h]
    refine ((requireSubsetCandidates_order h hperm _).append (.refl _)).append
      (sameCodes_issueIf (not_congr ?_) ..)
    unfold EvaluationPassed
    simp only [hperm.subset_congr_left]
  cases hselector with
  | refl =>
      cases sa with
      | priority modelOrder => exact requireExactCandidates_order h (.refl _) _
      | weighted allocations =>
          exact (requireExactCandidates_order h (.refl _) _).append (.refl _)
      | qos profile => exact .refl _
      | foundrySemantic routingModel mode modelIds => exact hfoundry routingModel (.refl _)
      | evaluatedCustom routingModel evaluationId modelIds =>
          exact hcustom routingModel evaluationId (.refl _)
  | weighted hperm =>
      refine (requireExactCandidates_order h (hperm.map _) _).append (sameCodes_issueIf ?_ ..)
      rw [(hperm.map _).sum_eq]
  | foundrySemantic routingModel mode hperm => exact hfoundry routingModel hperm
  | evaluatedCustom routingModel evaluationId hperm => exact hcustom routingModel evaluationId hperm

/-- The issues of specifications that differ in their order only. -/
theorem issues_order (h : a.SameUpToOrder b) (hfree : VersionFree a kinds) :
    SameCodes kinds (issues registries a) (issues registries b) := by
  unfold issues
  exact (((((((sameCodes_requireUnique (candidateIds_perm h) ..).append
    (sameCodes_requireUnique h.operations ..)).append (validateContext_order h)).append
    (validateCandidates_order h)).append (validateRules_order h hfree)).append
    (validateSelector_order h hfree)).append (validateResilience_order h)).append
    (validateQosPolicy_order h)

end Issues

/-! ## Plans -/

section Plans

variable {registries : RouterRegistries} {a b : RouterSpecV3}

/-- What has no issues names every entry once. -/
structure Distinct (spec : RouterSpecV3) : Prop where
  candidates : (candidateIds spec).Nodup
  fields : (spec.inputContract.map (·.name)).Nodup
  allocations : ∀ allocations, spec.selector = .weighted allocations →
    (allocations.map (·.modelId)).Nodup

theorem distinct_of_issues (h : issues registries a = []) : Distinct a := by
  unfold issues at h
  simp only [List.append_eq_nil_iff] at h
  obtain ⟨⟨⟨⟨⟨⟨⟨hcandidates, -⟩, hcontext⟩, -⟩, -⟩, hselector⟩, -⟩, -⟩ := h
  refine ⟨requireUnique_eq_nil.1 hcandidates, ?_, fun allocations hweighted => ?_⟩
  · exact requireUnique_eq_nil.1 (List.append_eq_nil_iff.1 hcontext).1
  · rw [validateSelector, hweighted] at hselector
    have hexact := (List.append_eq_nil_iff.1 hselector).1
    exact requireUnique_eq_nil.1 (List.append_eq_nil_iff.1 hexact).1

theorem Distinct.unambiguous (h : Distinct a) : a.Unambiguous := by
  refine ⟨fun x hx y hy hid => ?_, fun x hx y hy hname => ?_⟩
  · rw [List.inj_on_of_nodup_map h.candidates hx hy hid]
  · rw [List.inj_on_of_nodup_map h.fields hx hy hname]

theorem RouterSpecV3.SameUpToOrder.unambiguous (h : a.SameUpToOrder b) (hone : b.Unambiguous) :
    a.Unambiguous :=
  ⟨fun x hx y hy => hone.1 x (h.candidates.mem_iff.1 hx) y (h.candidates.mem_iff.1 hy),
    fun x hx y hy => hone.2 x (h.inputContract.mem_iff.1 hx) y (h.inputContract.mem_iff.1 hy)⟩

theorem issueCodes_all (issues : List RouterCompilationIssue) :
    issueCodes (fun _ => true) issues = issues.map RouterCompilationIssue.code := by
  rw [issueCodes, List.filter_eq_self.2 fun _ _ => rfl]

theorem codes_of_unambiguous (h : a.SameUpToOrder b) (hone : a.Unambiguous) :
    ((issues registries a).map RouterCompilationIssue.code).Perm
      ((issues registries b).map RouterCompilationIssue.code) := by
  rw [← issueCodes_all, ← issueCodes_all]
  exact issues_order h (.inl hone)

theorem issues_eq_nil_iff (h : a.SameUpToOrder b) :
    issues registries a = [] ↔ issues registries b = [] := by
  have hcodes : a.Unambiguous → (issues registries a = [] ↔ issues registries b = []) := by
    intro hone
    have hcodes : ((issues registries a).map RouterCompilationIssue.code).Perm
        ((issues registries b).map RouterCompilationIssue.code) := codes_of_unambiguous h hone
    have hlength := hcodes.length_eq
    rw [List.length_map, List.length_map] at hlength
    rw [← List.length_eq_zero_iff, hlength, List.length_eq_zero_iff]
  constructor
  · intro hnone
    exact (hcodes (distinct_of_issues hnone).unambiguous).1 hnone
  · intro hnone
    exact (hcodes (h.unambiguous (distinct_of_issues hnone).unambiguous)).2 hnone

/-- Sorting by a key that tells the elements apart. -/
theorem sortBy_congr {α β : Type} [LE β] [DecidableLE β] [Std.IsLinearOrder β] {key : α → β}
    {l l' : List α} (h : l.Perm l') (hkey : ∀ x ∈ l, ∀ y ∈ l, key x = key y → x = y) :
    l.insertionSort (fun x y => key x ≤ key y) = l'.insertionSort fun x y => key x ≤ key y := by
  have : Std.Total fun x y : α => key x ≤ key y := ⟨fun x y => Std.le_total⟩
  have : IsTrans α fun x y : α => key x ≤ key y := ⟨fun x y z => Std.le_trans⟩
  exact Ranking.insertionSort_congr h fun x hx y hy hxy hyx =>
    hkey x hx y hy (Std.le_antisymm hxy hyx)

theorem normalized_order {α β : Type} [DecidableEq α] [LE β] [DecidableLE β] [Std.IsLinearOrder β]
    {key : α → β} {l l' : List α} (h : l.Perm l') (hkey : Function.Injective key) :
    normalized key l = normalized key l' :=
  sortBy_congr h.dedup fun _ _ _ _ heq => hkey heq

theorem RouterOperation.text_injective : Function.Injective RouterOperation.text := by
  intro x y h
  cases x <;> cases y <;> first | rfl | exact absurd h (by decide)

theorem RouterRetryableEvent.text_injective : Function.Injective RouterRetryableEvent.text := by
  intro x y h
  cases x <;> cases y <;> first | rfl | exact absurd h (by decide)

theorem normalizedEligibility_order (h : a.SameUpToOrder b) :
    normalizedEligibility a = normalizedEligibility b := by
  have hcapabilities : normalized id (effectiveCapabilities a)
      = normalized id (effectiveCapabilities b) := by
    refine normalized_order ?_ Function.injective_id
    unfold effectiveCapabilities derivedCapabilities
    rw [h.tools, h.streaming]
    exact h.capabilities.append_right _
  have hproviders : normalized id a.eligibility.allowedProviderIds
      = normalized id b.eligibility.allowedProviderIds :=
    normalized_order h.providers Function.injective_id
  have hzones : normalized id a.eligibility.allowedDataZones
      = normalized id b.eligibility.allowedDataZones :=
    normalized_order h.zones Function.injective_id
  unfold normalizedEligibility
  simp only [hcapabilities, hproviders, hzones, h.window]

theorem normalizedSelector_order (h : a.SameUpToOrder b) (hdistinct : Distinct a) :
    normalizedSelector a.selector = normalizedSelector b.selector := by
  have hselector := h.selector
  have hallocations := hdistinct.allocations
  generalize a.selector = sa at hselector hallocations ⊢
  generalize b.selector = sb at hselector ⊢
  cases hselector with
  | refl => rfl
  | weighted hperm =>
      exact congrArg RouterSelectorV3.weighted (sortBy_congr hperm fun x hx y hy hid =>
        List.inj_on_of_nodup_map (hallocations _ rfl) hx hy hid)
  | foundrySemantic routingModel mode hperm =>
      exact congrArg (RouterSelectorV3.foundrySemantic routingModel mode)
        (sortBy_congr hperm fun _ _ _ _ hid => hid)
  | evaluatedCustom routingModel evaluationId hperm =>
      exact congrArg (RouterSelectorV3.evaluatedCustom routingModel evaluationId)
        (sortBy_congr hperm fun _ _ _ _ hid => hid)

theorem selectorModel_order (h : a.SameUpToOrder b) :
    selectorModel registries a = selectorModel registries b := by
  have hselector := h.selector
  unfold selectorModel
  generalize a.selector = sa at hselector ⊢
  generalize b.selector = sb at hselector ⊢
  cases hselector with
  | refl => rfl
  | weighted _ => rfl
  | foundrySemantic _ _ _ => rfl
  | evaluatedCustom _ _ _ => rfl

theorem profileReferences_order (h : a.SameUpToOrder b) :
    profileReferences a = profileReferences b := by
  have hselector := h.selector
  unfold profileReferences
  rw [h.rules, h.qosPolicy]
  generalize a.selector = sa at hselector ⊢
  generalize b.selector = sb at hselector ⊢
  cases hselector with
  | refl => rfl
  | weighted _ => rfl
  | foundrySemantic _ _ _ => rfl
  | evaluatedCustom _ _ _ => rfl

theorem normalizedResilience_order (h : a.SameUpToOrder b) :
    normalizedResilience a = normalizedResilience b := by
  have hretry : normalized (·.text) a.resilience.equivalentDeploymentRetry.retryableEvents
      = normalized (·.text) b.resilience.equivalentDeploymentRetry.retryableEvents :=
    normalized_order h.retryEvents RouterRetryableEvent.text_injective
  have hfallback : normalized (·.text) a.resilience.crossModelFallback.retryableEvents
      = normalized (·.text) b.resilience.crossModelFallback.retryableEvents :=
    normalized_order h.fallbackEvents RouterRetryableEvent.text_injective
  unfold normalizedResilience
  dsimp only
  rw [hretry, hfallback, h.fallback, h.streamingFailover, h.retry]

/-- The bodies of the plans differ in the digest of the specification only. -/
theorem planBody_order (h : a.SameUpToOrder b) (hdistinct : Distinct a)
    (eligibility : RouterEligibilityV3) :
    planBody registries b eligibility
      = { planBody registries a eligibility with specSha256 := ⟨b⟩ } := by
  have hoperations : a.identity.supportedOperations.insertionSort (·.text ≤ ·.text)
      = b.identity.supportedOperations.insertionSort (·.text ≤ ·.text) :=
    sortBy_congr h.operations fun _ _ _ _ htext => RouterOperation.text_injective htext
  have hcandidates : a.candidates.insertionSort (·.modelId ≤ ·.modelId)
      = b.candidates.insertionSort (·.modelId ≤ ·.modelId) :=
    sortBy_congr h.candidates fun x hx y hy hid =>
      List.inj_on_of_nodup_map hdistinct.candidates hx hy hid
  have hcontext : (a.inputContract.map fun field => (⟨field.name, field.valueType, field.source,
        field.required, field.registryVersion⟩ : RouterCompiledContextFieldV1)).insertionSort
          (·.name ≤ ·.name)
      = (b.inputContract.map fun field => (⟨field.name, field.valueType, field.source,
        field.required, field.registryVersion⟩ : RouterCompiledContextFieldV1)).insertionSort
          (·.name ≤ ·.name) := by
    refine sortBy_congr (h.inputContract.map _) fun x hx y hy hname => ?_
    refine List.inj_on_of_nodup_map (f := RouterCompiledContextFieldV1.name) ?_ hx hy hname
    rw [List.map_map]
    exact hdistinct.fields
  unfold planBody
  rw [hoperations, hcandidates, hcontext, selectorModel_order h, profileReferences_order h,
    normalizedSelector_order h hdistinct, normalizedResilience_order h, h.rules, h.stickiness,
    h.qosPolicy, h.identity]

end Plans

/-! ## Compilations -/

/-- The compilations of two specifications are one, up to the order of the issues and the
digest of the specification.  `exact` says that no issue is excepted. -/
inductive SameCompilation (exact : Prop) (a b : RouterSpecV3) :
    Except RouterCompilationError RouterCompiledPlanV1 →
    Except RouterCompilationError RouterCompiledPlanV1 → Prop
  | issues {left right : List RouterCompilationIssue}
      (hcodes : SameCodes (fun code => code ∉ versionCodes) left right)
      (hexact : exact → (left.map RouterCompilationIssue.code).Perm
        (right.map RouterCompilationIssue.code)) :
      SameCompilation exact a b (.error (.issues left)) (.error (.issues right))
  | validation : SameCompilation exact a b (.error .validation) (.error .validation)
  | plans {left right : RouterCompiledPlanV1} (hleft : left.specSha256 = ⟨a⟩)
      (hbody : right.toRouterCompiledPlanBodyV1
        = { left.toRouterCompiledPlanBodyV1 with specSha256 := ⟨b⟩ }) :
      SameCompilation exact a b (.ok left) (.ok right)

/-- The plan has the lists of the specification whose order counts. -/
structure KeepsOrder (spec : RouterSpecV3) (plan : RouterCompiledPlanV1) : Prop where
  rules : plan.rules = spec.rules
  priority : ∀ modelOrder, spec.selector = .priority modelOrder ↔
    plan.selector = .priority modelOrder
  fallback : plan.resilience.crossModelFallback.modelOrder
    = spec.resilience.crossModelFallback.modelOrder

section Compilations

variable {registries : RouterRegistries} {a b : RouterSpecV3}

theorem normalizedSelector_eq_priority {selector : RouterSelectorV3} {modelOrder : List UUID} :
    selector = .priority modelOrder ↔ normalizedSelector selector = .priority modelOrder := by
  cases selector with
  | priority _ => exact Iff.rfl
  | qos _ => exact Iff.rfl
  | weighted _ => exact ⟨nofun, nofun⟩
  | foundrySemantic _ _ _ => exact ⟨nofun, nofun⟩
  | evaluatedCustom _ _ _ => exact ⟨nofun, nofun⟩

theorem compile_keepsOrder {plan : RouterCompiledPlanV1} (h : compile registries a = .ok plan) :
    KeepsOrder a plan := by
  obtain ⟨-, eligibility, -, hbody⟩ := compile_eq_ok h
  refine ⟨congrArg (·.rules) hbody, fun modelOrder => ?_, ?_⟩
  · have hselector : plan.selector = normalizedSelector a.selector := congrArg (·.selector) hbody
    rw [hselector]
    exact normalizedSelector_eq_priority
  · exact congrArg (·.resilience.crossModelFallback.modelOrder) hbody

/-- A specification without issues has a plan, or requires too many capabilities. -/
theorem compile_of_no_issues (h : issues registries a = []) :
    compile registries a = (normalizedEligibility a).map fun eligibility =>
      { planBody registries a eligibility with
        planSha256 := ⟨planBody registries a eligibility⟩ } := by
  rw [compile, if_pos h]

theorem compile_of_issues (h : issues registries a ≠ []) :
    compile registries a = .error (.issues (issues registries a)) := by
  rw [compile, if_neg h]

theorem normalizedEligibility_eq_error {e : RouterCompilationError}
    (h : normalizedEligibility a = .error e) : e = .validation := by
  unfold normalizedEligibility at h
  split at h
  next => cases h
  next => exact (Except.error.inj h).symm

theorem sameCompilation_of_order (h : a.SameUpToOrder b) :
    SameCompilation a.Unambiguous a b (compile registries a) (compile registries b) := by
  by_cases hissues : issues registries a = []
  · rw [compile_of_no_issues hissues, compile_of_no_issues ((issues_eq_nil_iff h).1 hissues),
      ← normalizedEligibility_order h]
    cases heligibility : normalizedEligibility a with
    | error e =>
        obtain rfl := normalizedEligibility_eq_error heligibility
        exact .validation
    | ok eligibility =>
        exact .plans rfl (planBody_order h (distinct_of_issues hissues) eligibility)
  · have hissues' : issues registries b ≠ [] := fun hnone => hissues ((issues_eq_nil_iff h).2 hnone)
    rw [compile_of_issues hissues, compile_of_issues hissues']
    refine .issues (issues_order h (.inr ?_)) (codes_of_unambiguous h)
    exact fun code hcode => decide_eq_false (not_not_intro hcode)

/-- A compilation follows the lists whose order counts, and of the others their elements;
issues that read a version follow the last entry where an entry is there in two versions. -/
theorem compile_order_free :
    (∀ a b : RouterSpecV3, a.SameUpToOrder b → ∀ registries,
      SameCompilation a.Unambiguous a b (compile registries a) (compile registries b)) ∧
    ∀ registries spec plan, compile registries spec = .ok plan → KeepsOrder spec plan :=
  ⟨fun _ _ h _ => sameCompilation_of_order h, fun _ _ _ h => compile_keepsOrder h⟩

end Compilations

/-! ## A field in two versions -/

namespace Sample

/-- A field of the input contract, in a version. -/
def regionField (registryVersion : ℕ) : RouterInputFieldV3 :=
  ⟨"region", .string, .clientClaim, registryVersion, false⟩

theorem regionSpec_length : ["chat"].length ≤ 50 := by decide

/-- A router with one candidate and one rule, which reads the region. -/
def regionSpec (inputContract : List RouterInputFieldV3) : RouterSpecV3 where
  identity := ⟨"support", "", [.chatCompletions], .disabled, .disabled⟩
  inputContract := inputContract
  candidates := [⟨911, 1⟩]
  eligibility := ⟨["chat"], none, [], [], regionSpec_length⟩
  rules := [⟨"regional", ⟨"region", .exists, .none⟩, .selectModel 911⟩]
  selector := .priority [911]
  resilience := ⟨⟨1, [], false⟩, ⟨[], []⟩, .disabled⟩
  stickiness := ⟨.none, none⟩
  qosPolicy := none

/-- Registries that have the first version of the region only. -/
def regionRegistries : RouterRegistries where
  modelCatalog := (routerRegistries ["chat"]).modelCatalog
  contextRegistry name version :=
    if name = "region" ∧ version = 1 then some ⟨"region", .string, .clientClaim, 1, true⟩ else none
  profileRegistry _ _ := none
  evaluationRegistry _ := none

/-- A second field of the input contract. -/
def tenantField : RouterInputFieldV3 :=
  ⟨"tenant", .string, .clientClaim, 1, false⟩

theorem regionSpec_order {inputContract inputContract' : List RouterInputFieldV3}
    (h : inputContract.Perm inputContract') :
    (regionSpec inputContract).SameUpToOrder (regionSpec inputContract') where
  identity := rfl
  operations := .refl _
  inputContract := h
  candidates := .refl _
  capabilities := .refl _
  window := rfl
  providers := .refl _
  zones := .refl _
  rules := rfl
  selector := .refl _
  retry := rfl
  retryEvents := .refl _
  fallback := rfl
  fallbackEvents := .refl _
  streamingFailover := rfl
  stickiness := rfl
  qosPolicy := rfl

end Sample

/-- A router whose second field is not registered, in two orders. -/
theorem compile_fields_order_free :
    (∀ inputContract, [Sample.regionField 1, Sample.tenantField].Perm inputContract →
      SameCompilation (Sample.regionSpec [Sample.regionField 1, Sample.tenantField]).Unambiguous
        (Sample.regionSpec [Sample.regionField 1, Sample.tenantField])
        (Sample.regionSpec inputContract)
        (compile Sample.regionRegistries
          (Sample.regionSpec [Sample.regionField 1, Sample.tenantField]))
        (compile Sample.regionRegistries (Sample.regionSpec inputContract))) ∧
      ∃ plan, compile Sample.regionRegistries (Sample.regionSpec [Sample.regionField 1])
        = .ok plan ∧
        KeepsOrder (Sample.regionSpec [Sample.regionField 1]) plan := by
  refine ⟨fun inputContract hperm => compile_order_free.1 _ _ (Sample.regionSpec_order hperm) _, ?_⟩
  have hissues :
      issues Sample.regionRegistries (Sample.regionSpec [Sample.regionField 1]) = [] := by
    decide +kernel
  exact ⟨_, compile_of_no_issues hissues, compile_order_free.2 _ _ _ (compile_of_no_issues hissues)⟩

/-- The region is there in two versions, and one of them is registered: whether the rule has
an issue follows the order. -/
theorem issues_of_repeated_field :
    (Sample.regionSpec [Sample.regionField 1, Sample.regionField 2]).SameUpToOrder
        (Sample.regionSpec [Sample.regionField 2, Sample.regionField 1]) ∧
      ∃ left right,
        compile Sample.regionRegistries
            (Sample.regionSpec [Sample.regionField 1, Sample.regionField 2])
          = .error (.issues left) ∧
        compile Sample.regionRegistries
            (Sample.regionSpec [Sample.regionField 2, Sample.regionField 1])
          = .error (.issues right) ∧
        ¬(left.map RouterCompilationIssue.code).Perm (right.map RouterCompilationIssue.code) := by
  refine ⟨Sample.regionSpec_order (.swap _ _ _), _, _, compile_of_issues ?_,
    compile_of_issues ?_, ?_⟩
  · decide +kernel
  · decide +kernel
  · decide +kernel

end Turnstile
