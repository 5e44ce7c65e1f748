import Turnstile.Domain.ModelRouter
import Turnstile.Pricing.Catalog

/-!
# Prices by the length of the context

`resolve_context_prices` makes one tier of every reference, from a complete entry of the
catalog, and returns the tiers by their ranges.  The ranges of the tiers come from the
catalog or from the rule of a person (`custom_context_rule`).

The tiers are of the references, with keys of their own, and their list prices are those of
complete entries (`resolveContextPrices_eq_ok`).
-/

namespace Turnstile.Pricing

open Guard

/-! ## Stored tiers -/

structure StoredContextPriceTier extends ModelPriceTier where
  reference : PriceReference
  label : String
  listPrices : BucketPrices
  inputRangeSource : Option PriceCatalogRuleSource
  modelKey : PriceReference
  modelLabel : String
  product : String
  groupKey : String
  serviceTier : String
  deployment : String
  regions : List String
deriving DecidableEq

/-- `ContextPriceRule(...)`, with `normalize_rule`. -/
def ContextPriceRule.create (catalog : CompositeCatalog) (maximum : Int) (note : String)
    (sourceUrl : Option String) : Except PriceError ContextPriceRule :=
  if h : 0 < maximum ∧ maximum ≤ 9007199254740990 then
    if ∀ url ∈ sourceUrl, catalog.acceptsUrl (strip url) = true then
      .ok ⟨maximum, strip note, sourceUrl.map strip, h.1, h.2⟩
    else
      .error (.validation
        (.invalidModel "The rule source must be an HTTPS URL without credentials"))
  else if 0 < maximum then .error (.validation (.tooLarge "short_context_max_tokens"))
  else .error (.validation (.tooSmall "short_context_max_tokens"))

/-- `custom_context_rule`. -/
def customContextRule (catalog : CompositeCatalog) (tiers : List StoredContextPriceTier) :
    Except PriceError (Option ContextPriceRule) :=
  let incomplete := PriceError.valueError
    "Stored custom context rules must describe one complete schedule"
  if tiers.any fun tier => tier.inputRangeSource.any fun source => source.origin = .custom then
    match tiers.mergeSort fun a b => decide (a.minInputTokens ≤ b.minInputTokens) with
    | [short, long] => do
        let source ← expect short.inputRangeSource incomplete
        require (source.origin = .custom ∧ (∀ tier ∈ tiers, tier.inputRangeSource = some source) ∧
          short.key = "short" ∧ long.key = "long" ∧ short.minInputTokens = 0) incomplete
        let maximum ← expect short.maxInputTokens incomplete
        require (long.minInputTokens = maximum + 1 ∧ long.maxInputTokens = none ∧
          source.configuredAt ≠ none) incomplete
        let rule ← ContextPriceRule.create catalog maximum (source.note.getD "") source.url
        require (source.ruleId = "custom-context-v1" ∧ source.revision = rule.revision)
          (.valueError "Stored custom context rule revision does not match its contents")
        pure (some rule)
    | _ => .error incomplete
  else .ok none

/-- `model_price_from_tiers`. -/
def modelPriceFromTiers (tiers : List StoredContextPriceTier) : ModelPrice where
  inputPricePerMillion := 0
  cachedPricePerMillion := 0
  cacheWritePricePerMillion := 0
  outputPricePerMillion := 0
  contextTiers := tiers.map StoredContextPriceTier.toModelPriceTier
  selectedTier := none

/-! ## One tier -/

/-- The source of the ranges that a rule gives: the stored one, where the rule is the one
that is stored. -/
def configuredSource (catalog : CompositeCatalog) (now : Int) (references : List PriceReference)
    (previousTiers : List StoredContextPriceTier) (rule : ContextPriceRule) :
    Except PriceError (Option PriceCatalogRuleSource) := do
  require (references.length = 2)
    (.valueError "A custom context rule requires both short and long catalog tiers")
  let stored ← (if (previousTiers.map (·.reference)).isPerm references
    then customContextRule catalog previousTiers else pure none)
  pure (if stored = some rule then (previousTiers.head?.bind (·.inputRangeSource))
    else some {
      ruleId := "custom-context-v1", url := rule.sourceUrl, revision := rule.revision
      verifiedOn := none, origin := .custom, configuredAt := some now
      note := if rule.note = "" then none else some rule.note })

/-- The range of a tier: of the catalog if it is documented, or of the rule. -/
def tierRange (rule : Option ContextPriceRule) (configured : Option PriceCatalogRuleSource)
    (descriptor : PriceCatalogContextTier) :
    Except PriceError ((Int × Option Int) × Option PriceCatalogRuleSource) :=
  match rule with
  | none => do
      require (∀ source ∈ descriptor.inputRangeSource, source.origin = .official)
        (.valueError "Catalog context thresholds are unverified; configure a custom rule")
      let range ← expect descriptor.inputRange
        (.valueError "Verified context price thresholds are unavailable")
      pure ((range.minInputTokens, range.maxInputTokens), descriptor.inputRangeSource)
  | some rule => do
      require (descriptor.key = "short" ∨ descriptor.key = "long")
        (.valueError "A custom context rule requires short and long catalog tiers")
      pure (if descriptor.key = "short" then (0, some rule.shortContextMaxTokens)
        else (rule.shortContextMaxTokens + 1, none), configured)

/-- What all tiers share: source, product, group, service tier and deployment. -/
abbrev ContextScope := String × String × String × String × String

/-- The state of the loop of `resolve_context_prices`. -/
structure ContextLoop where
  tiers : List StoredContextPriceTier
  expectedScope : Option ContextScope
  commonRegions : Option (List String)

/-- The rates that are charged: what has no rate of its own has that of the cached, or of the
input. -/
def BucketPrices.rates (charged : BucketPrices) : Rates :=
  let input := charged.input.getD 0
  let cached := charged.cached.getD input
  { inputPricePerMillion := input
    outputPricePerMillion := charged.output.getD 0
    cachedPricePerMillion := cached
    cacheWritePricePerMillion := charged.cacheWrite.getD cached }

/-- The tier of an option of the catalog. -/
def contextTier (found : CatalogOptions) (descriptor : PriceCatalogContextTier)
    (option : CatalogOption) (discountPercent : Option ℚ) (reference : PriceReference)
    (range : Int × Option Int) (rangeSource : Option PriceCatalogRuleSource)
    (regions : List String) : StoredContextPriceTier where
  toRates := (option.entry.prices.discounted discountPercent).rates
  key := descriptor.key
  label := descriptor.label
  reference := reference
  minInputTokens := range.1
  maxInputTokens := range.2
  listPrices := option.entry.prices
  inputRangeSource := rangeSource
  modelKey := found.model.key
  modelLabel := found.model.label
  product := found.model.product
  groupKey := descriptor.groupKey
  serviceTier := descriptor.serviceTier
  deployment := option.deployment
  regions := regions.mergeSort fun a b => decide (a ≤ b)

/-- One round of the loop of `resolve_context_prices`. -/
def contextRound (catalog : CompositeCatalog) (source : PriceSource)
    (discountPercent : Option ℚ) (rule : Option ContextPriceRule)
    (configured : Option PriceCatalogRuleSource) (state : ContextLoop)
    (reference : PriceReference) : Except PriceError ContextLoop := do
  require (reference.length = 5 ∧ reference.head? = some source.value)
    (.valueError "Context reference does not match its source")
  let unavailable := PriceError.valueError "Complete context prices are unavailable"
  let answer ← catalog.options (reference.take 3)
  let found ← expect answer unavailable
  require (found.complete = true) unavailable
  let descriptor ← expect found.model.resolvedContextTier
    (.valueError "Context tier identity is unavailable")
  let range ← tierRange rule configured descriptor
  let matching := found.options.filter fun option =>
    option.reference = reference ∨ reference ∈ option.referencesByRegion.map Prod.snd
  require (matching.length = 1) (.valueError "Context reference is missing or ambiguous")
  let option ← expect matching.head? (.valueError "Context reference is missing or ambiguous")
  require (option.entry.complete = true ∧ option.entry.prices.Priced ∧
    found.model.source = source) unavailable
  let scope : ContextScope := (source.value, found.model.product, descriptor.groupKey,
    descriptor.serviceTier, option.deployment)
  require (∀ expected ∈ state.expectedScope, scope = expected)
    (.valueError "Context tiers must share a source, model, service tier and deployment")
  let anywhere := decide (reference.getLast? = some "*")
  let regions := if anywhere then option.regions.dedup else reference.getLast?.toList
  require (¬(anywhere = true ∧ option.regionRequired = true) ∧ regions ⊆ option.regions)
    (.valueError "Context reference does not identify a valid region")
  let common := match state.commonRegions with
    | none => regions
    | some common => common.filter (· ∈ regions)
  require (common ≠ []) (.valueError "Context tiers must use the same region")
  let tier := contextTier found descriptor option discountPercent reference range.1 range.2 regions
  (tier.toModelPriceTier.validate).mapError PriceError.validation
  pure ⟨state.tiers ++ [tier], some scope, some common⟩

/-- `resolve_context_prices`. -/
def resolveContextPrices (catalog : CompositeCatalog) (now : Int) (source : PriceSource)
    (references : List PriceReference) (discountPercent : Option ℚ)
    (rule : Option ContextPriceRule) (previousTiers : List StoredContextPriceTier) :
    Except PriceError (List StoredContextPriceTier) := do
  require (source ≠ .manual ∧ 2 ≤ references.length ∧ references.length ≤ 32)
    (.valueError "Context pricing requires a complete catalog tier selection")
  require references.Nodup (.valueError "Context tier references must be distinct")
  require (∀ percent ∈ discountPercent, 0 < percent ∧ percent ≤ 100)
    (.valueError "Discount must be greater than zero and at most 100")
  let configured ← (match rule with
    | none => pure none
    | some rule => configuredSource catalog now references previousTiers rule)
  let state ← references.foldlM (contextRound catalog source discountPercent rule configured)
    ⟨[], none, none⟩
  let tiers := state.tiers.mergeSort fun a b => decide (a.minInputTokens ≤ b.minInputTokens)
  (modelPriceFromTiers tiers).validate.mapError PriceError.validation
  pure tiers

/-! ## What is returned -/

/-- The tier has the list prices of a complete entry of the catalog, and charges them at the
discount. -/
def StoredContextPriceTier.From (catalog : CompositeCatalog) (discountPercent : Option ℚ)
    (tier : StoredContextPriceTier) : Prop :=
  tier.toRates = (tier.listPrices.discounted discountPercent).rates ∧
    ∃ found option, catalog.options (tier.reference.take 3) = .ok (some found) ∧
      option ∈ found.options ∧ option.entry.complete = true ∧ option.entry.prices.Priced ∧
      tier.listPrices = option.entry.prices

/-- The keys of contiguous tiers differ, and the tiers are in the order of their ranges. -/
theorem ordered_of_checkContextRanges : ∀ {tiers : List ModelPriceTier} {keys : List String}
    {minimum : Int}, checkContextRanges keys minimum tiers = .ok () →
      (∀ tier ∈ tiers, tier.key ∉ keys ∧ minimum ≤ tier.minInputTokens) ∧
        (tiers.map (·.key)).Nodup ∧
        tiers.Pairwise fun a b => a.minInputTokens < b.minInputTokens
  | [], _, _, _ => by simp
  | tier :: rest, keys, minimum, h => by
      unfold checkContextRanges at h
      obtain ⟨⟨hkey, hminimum⟩, h⟩ := require_bind_eq_ok.1 h
      cases hmaximum : tier.maxInputTokens with
      | none =>
          rw [hmaximum] at h
          obtain ⟨rfl, -⟩ := require_bind_eq_ok.1 h
          simp [hkey, hminimum]
      | some maximum =>
          rw [hmaximum] at h
          obtain ⟨hle, h⟩ := require_bind_eq_ok.1 h
          obtain ⟨hrest, hnodup, hordered⟩ := ordered_of_checkContextRanges h
          refine ⟨?_, ?_, ?_⟩
          · intro other hother
            rcases List.mem_cons.1 hother with rfl | hother
            · exact ⟨hkey, hminimum.ge⟩
            · obtain ⟨hfresh, hafter⟩ := hrest other hother
              refine ⟨fun hmem => hfresh (List.mem_cons_of_mem _ hmem), ?_⟩
              omega
          · rw [List.map_cons, List.nodup_cons]
            refine ⟨fun hmem => ?_, hnodup⟩
            obtain ⟨other, hother, heq⟩ := List.mem_map.1 hmem
            exact (hrest other hother).1 (heq ▸ List.mem_cons_self)
          · refine List.pairwise_cons.2 ⟨fun other hother => ?_, hordered⟩
            have hafter := (hrest other hother).2
            omega

theorem ordered_of_modelPriceFromTiers {tiers : List StoredContextPriceTier}
    (h : (modelPriceFromTiers tiers).validate = .ok ()) :
    (tiers.map (·.key)).Nodup ∧
      tiers.Pairwise fun a b => a.minInputTokens < b.minInputTokens := by
  unfold ModelPrice.validate at h
  obtain ⟨-, h⟩ := check_bind_eq_ok.1 h
  obtain ⟨-, h⟩ := require_bind_eq_ok.1 h
  obtain ⟨-, h⟩ := check_bind_eq_ok.1 h
  unfold ModelPrice.requireCompleteContextRanges at h
  split at h
  next hnone =>
    have hnil : tiers = [] := List.map_eq_nil_iff.1 (List.getLast?_eq_none_iff.1 hnone)
    rw [hnil]
    exact ⟨List.nodup_nil, List.Pairwise.nil⟩
  next =>
    obtain ⟨hcheck, -⟩ := check_bind_eq_ok.1 h
    obtain ⟨-, hnodup, hordered⟩ := ordered_of_checkContextRanges hcheck
    rw [modelPriceFromTiers, List.map_map] at hnodup
    rw [modelPriceFromTiers, List.pairwise_map] at hordered
    exact ⟨hnodup, hordered⟩

theorem mapError_eq_ok {ε δ α : Type} {f : ε → δ} {x : Except ε α} {a : α} :
    x.mapError f = .ok a ↔ x = .ok a := by
  cases x <;> simp [Except.mapError]

section Round

variable {catalog : CompositeCatalog} {source : PriceSource} {discountPercent : Option ℚ}
  {rule : Option ContextPriceRule} {configured : Option PriceCatalogRuleSource}

/-- A round adds the tier of its reference. -/
theorem contextRound_eq_ok {state state' : ContextLoop} {reference : PriceReference}
    (h : contextRound catalog source discountPercent rule configured state reference =
      .ok state') :
    ∃ tier : StoredContextPriceTier, state'.tiers = state.tiers ++ [tier] ∧
      tier.reference = reference ∧ tier.From catalog discountPercent := by
  unfold contextRound at h
  obtain ⟨-, h⟩ := require_bind_eq_ok.1 h
  obtain ⟨answer, hanswer, h⟩ := bind_eq_ok.1 h
  obtain ⟨found, hfound, h⟩ := bind_eq_ok.1 h
  obtain rfl := expect_eq_ok.1 hfound
  obtain ⟨-, h⟩ := require_bind_eq_ok.1 h
  obtain ⟨descriptor, -, h⟩ := bind_eq_ok.1 h
  obtain ⟨range, -, h⟩ := bind_eq_ok.1 h
  obtain ⟨-, h⟩ := require_bind_eq_ok.1 h
  obtain ⟨option, hoption, h⟩ := bind_eq_ok.1 h
  obtain ⟨⟨hcomplete, hpriced, -⟩, h⟩ := require_bind_eq_ok.1 h
  obtain ⟨-, h⟩ := require_bind_eq_ok.1 h
  obtain ⟨-, h⟩ := require_bind_eq_ok.1 h
  obtain ⟨-, h⟩ := require_bind_eq_ok.1 h
  obtain ⟨-, h⟩ := check_bind_eq_ok.1 h
  obtain rfl := Except.ok.inj h
  have hmem : option ∈ found.options :=
    (List.mem_filter.1 (List.mem_of_head? (expect_eq_ok.1 hoption))).1
  exact ⟨_, rfl, rfl, rfl, found, option, hanswer, hmem, hcomplete, hpriced, rfl⟩

end Round

/-- The tiers are of the references, one of each. -/
theorem resolveContextPrices_eq_ok {catalog : CompositeCatalog} {now : Int}
    {source : PriceSource} {references : List PriceReference} {discountPercent : Option ℚ}
    {rule : Option ContextPriceRule} {previousTiers tiers : List StoredContextPriceTier}
    (h : resolveContextPrices catalog now source references discountPercent rule previousTiers =
      .ok tiers) :
    (tiers.map (·.reference)).Perm references ∧
      (∀ tier ∈ tiers, tier.From catalog discountPercent) ∧
      (tiers.map (·.key)).Nodup ∧
      tiers.Pairwise fun a b => a.minInputTokens < b.minInputTokens := by
  unfold resolveContextPrices at h
  obtain ⟨-, h⟩ := require_bind_eq_ok.1 h
  obtain ⟨-, h⟩ := require_bind_eq_ok.1 h
  obtain ⟨-, h⟩ := require_bind_eq_ok.1 h
  obtain ⟨configured, -, h⟩ := bind_eq_ok.1 h
  obtain ⟨state, hstate, h⟩ := bind_eq_ok.1 h
  obtain ⟨hvalid, h⟩ := check_bind_eq_ok.1 h
  obtain rfl := Except.ok.inj h
  have hbuilt : state.tiers.map (·.reference) = references ∧
      ∀ tier ∈ state.tiers, tier.From catalog discountPercent := by
    refine foldlM_keeps (R := fun done (state : ContextLoop) =>
      state.tiers.map (·.reference) = done ∧
        ∀ tier ∈ state.tiers, tier.From catalog discountPercent) hstate ?_ ?_
    · exact ⟨rfl, fun tier htier => absurd htier List.not_mem_nil⟩
    · rintro done reference state state' hround ⟨hreferences, hfrom⟩
      obtain ⟨tier, htiers, hreference, htier⟩ := contextRound_eq_ok hround
      rw [htiers]
      refine ⟨by rw [List.map_append, hreferences, List.map_singleton, hreference], ?_⟩
      intro other hother
      rcases List.mem_append.1 hother with hother | hother
      · exact hfrom other hother
      · rw [List.mem_singleton.1 hother]
        exact htier
  have hperm := List.mergeSort_perm state.tiers
    fun a b => decide (a.minInputTokens ≤ b.minInputTokens)
  refine ⟨hbuilt.1 ▸ hperm.map _, fun tier htier => hbuilt.2 tier (hperm.mem_iff.1 htier), ?_⟩
  exact ordered_of_modelPriceFromTiers (mapError_eq_ok.1 hvalid)

end Turnstile.Pricing
