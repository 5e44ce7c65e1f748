import Turnstile.Domain.Pricing

/-!
# Published list prices

A catalog entry is one priceable thing with the list price of every bucket, and a model has
options, one per way of deployment.  What the vendors publish is read by `CompositeCatalog`;
a reading may fail, may find nothing, or may be of a part only (`complete`).

A reference is the list of its parts between colons, the first three of which are the key of
the model.  A rate is a rational; a discount gives a rate of eight decimal places.
-/

namespace Turnstile.Pricing

open Guard

inductive PriceSource where
  | manual
  | azureRetail
  | anthropic
deriving DecidableEq, Repr

def PriceSource.value : PriceSource → String
  | manual => "manual"
  | azureRetail => "azure_retail"
  | anthropic => "anthropic"

/-- A reference or a key, by its parts between colons. -/
abbrev PriceReference := List String

inductive PriceError where
  /-- `ValueError(message)`. -/
  | valueError (message : String)
  /-- `ValidationError` of a model. -/
  | validation (cause : LedgerError)
  /-- Any other exception, by the name of its type. -/
  | raised (typeName : String)
deriving DecidableEq, Repr

/-- `type(error).__name__`. -/
def PriceError.typeName : PriceError → String
  | valueError _ => "ValueError"
  | validation _ => "ValidationError"
  | raised typeName => typeName

/-! ## Buckets -/

inductive Bucket where
  | input
  | output
  | cached
  | cacheWrite
deriving DecidableEq, Repr

/-- The order of `_BUCKETS`. -/
def Bucket.all : List Bucket := [input, output, cached, cacheWrite]

@[simp] theorem Bucket.mem_all (bucket : Bucket) : bucket ∈ Bucket.all := by
  cases bucket <;> decide

/-- A price in the four buckets, `none` where the vendor does not price one. -/
structure BucketPrices where
  input : Option ℚ
  output : Option ℚ
  cached : Option ℚ
  cacheWrite : Option ℚ
deriving DecidableEq, Repr

namespace BucketPrices

def get (prices : BucketPrices) : Bucket → Option ℚ
  | .input => prices.input
  | .output => prices.output
  | .cached => prices.cached
  | .cacheWrite => prices.cacheWrite

@[ext] theorem ext_get {p q : BucketPrices} (h : ∀ bucket, p.get bucket = q.get bucket) :
    p = q := by
  cases p
  cases q
  simp only [mk.injEq]
  exact ⟨h .input, h .output, h .cached, h .cacheWrite⟩

/-- The same change of every bucket. -/
def map (f : Option ℚ → Option ℚ) (prices : BucketPrices) : BucketPrices :=
  ⟨f prices.input, f prices.output, f prices.cached, f prices.cacheWrite⟩

@[simp] theorem get_map (f : Option ℚ → Option ℚ) (prices : BucketPrices) (bucket : Bucket) :
    (prices.map f).get bucket = f (prices.get bucket) := by
  cases bucket <;> rfl

/-- No price: what is left of a row without one. -/
def empty : BucketPrices := ⟨none, none, none, none⟩

@[simp] theorem get_empty (bucket : Bucket) : empty.get bucket = none := by
  cases bucket <;> rfl

/-- Input and output are priced. -/
def Priced (prices : BucketPrices) : Prop := prices.input ≠ none ∧ prices.output ≠ none

instance (prices : BucketPrices) : Decidable prices.Priced :=
  inferInstanceAs (Decidable (_ ∧ _))

/-- The `CHECK (... >= 0)` of the list prices. -/
def Checked (prices : BucketPrices) : Prop := ∀ bucket, ∀ price ∈ prices.get bucket, 0 ≤ price

theorem checked_empty : empty.Checked := by
  intro bucket price h
  rw [get_empty] at h
  cases h

end BucketPrices

/-! ## Discounts -/

/-- `round(value, 8)`: to the nearest, on a tie to even. -/
def roundRate (value : ℚ) : ℚ :=
  value.num.sign * (Rounding.divHalfEven (value.num.natAbs * 10 ^ 8) value.den : ℕ) / 10 ^ 8

/-- `CatalogEntry.discounted`, of the prices. -/
def BucketPrices.discounted (prices : BucketPrices) : Option ℚ → BucketPrices
  | none => prices
  | some percent =>
      if percent = 100 then prices
      else prices.map fun price => price.map fun value => roundRate (value * (percent / 100))

-- Ninety per cent of two dollars; the ninth place is rounded away.
example : roundRate (2 * (90 / 100)) = 18 / 10 := by decide +kernel
example : roundRate (1234567895 / 10 ^ 9) = 12345679 / 10 ^ 7 := by decide +kernel

/-! ## Ranges of a context tier -/

/-- `PriceCatalogInputRange`, as `require_ordered_bounds` leaves it. -/
structure PriceCatalogInputRange where
  minInputTokens : Int
  maxInputTokens : Option Int
  nonneg : 0 ≤ minInputTokens
  ordered : ∀ maximum ∈ maxInputTokens, minInputTokens ≤ maximum
deriving DecidableEq

/-- `ContextPriceRule`: the range that a person gave the short tier. -/
structure ContextPriceRule where
  shortContextMaxTokens : Int
  note : String
  sourceUrl : Option String
  positive : 0 < shortContextMaxTokens
  bounded : shortContextMaxTokens ≤ 9007199254740990
deriving DecidableEq

inductive RuleOrigin where
  | official
  | reference
  | custom
deriving DecidableEq, Repr

/-- A revision of a document, or the digest of a rule. -/
inductive RuleRevision where
  | text (revision : String)
  | rule (digest : Sha256 ContextPriceRule)
deriving DecidableEq

def ContextPriceRule.revision (rule : ContextPriceRule) : RuleRevision := .rule ⟨rule⟩

structure PriceCatalogRuleSource where
  ruleId : String
  url : Option String
  revision : RuleRevision
  verifiedOn : Option String
  origin : RuleOrigin
  configuredAt : Option Int
  note : Option String
deriving DecidableEq

structure PriceCatalogContextTier where
  groupKey : String
  modelLabel : String
  serviceTier : String
  key : String
  label : String
  order : Nat
  inputRange : Option PriceCatalogInputRange
  inputRangeSource : Option PriceCatalogRuleSource
deriving DecidableEq

/-! ## Catalogs -/

structure CatalogModel where
  key : PriceReference
  label : String
  product : String
  source : PriceSource
  contextTier : Option PriceCatalogContextTier
deriving DecidableEq

structure CatalogEntry where
  reference : PriceReference
  label : String
  source : PriceSource
  prices : BucketPrices
  contextTier : Option PriceCatalogContextTier
  complete : Bool
deriving DecidableEq

structure CatalogOption where
  reference : PriceReference
  deployment : String
  entry : CatalogEntry
  regions : List String
  regionRequired : Bool
  referencesByRegion : List (String × PriceReference)
deriving DecidableEq

structure CatalogOptions where
  model : CatalogModel
  options : List CatalogOption
  complete : Bool
deriving DecidableEq

/-- What the vendors publish during a run.  `namesContextTier` is whether `parse_context_tier`
reads a tier off a label, and `acceptsUrl` the check of the URL of a rule. -/
structure CompositeCatalog where
  lookup : PriceReference → Except PriceError (Option CatalogEntry)
  options : PriceReference → Except PriceError (Option CatalogOptions)
  namesContextTier : String → Bool
  acceptsUrl : String → Bool

/-- The vendors publish no negative price. -/
structure CompositeCatalog.Published (catalog : CompositeCatalog) : Prop where
  lookup : ∀ reference entry, catalog.lookup reference = .ok (some entry) → entry.prices.Checked
  options : ∀ key found, catalog.options key = .ok (some found) →
    ∀ option ∈ found.options, option.entry.prices.Checked

/-! ## Documented ranges -/

structure ContextRuleMatch where
  source : PriceSource
  product : String
  groupKey : String
  serviceTier : String
deriving DecidableEq

/-- A rule of `context-rules.json`. -/
structure ContextRule where
  id : String
  basis : String
  origin : RuleOrigin
  note : Option String
  sourceUrl : String
  sourceRevision : String
  verifiedOn : String
  matchedModels : List ContextRuleMatch
  tiers : List (String × PriceCatalogInputRange)

/-- `_CONTEXT_RULES["rules"]`. -/
def contextRules : List ContextRule := [{
  id := "azure-openai-context-2026-07-09"
  basis := "request_input_tokens"
  origin := .reference
  note := some "Priority-processing fallback guidance, not a verified Standard billing threshold."
  sourceUrl := "https://learn.microsoft.com/en-us/azure/foundry/openai/concepts/" ++
    "priority-processing#latency-target"
  sourceRevision := "a1f13c560f71e50fa3eea8da12ebe1ffccd802e9"
  verifiedOn := "2026-09-20"
  matchedModels := [
    ⟨.azureRetail, "Azure OpenAI GPT5", "5.6 sol std", ""⟩,
    ⟨.azureRetail, "Azure OpenAI GPT5", "5.6 terra std", ""⟩]
  tiers := [
    ("short", ⟨0, some 272000, by decide, by simp⟩),
    ("long", ⟨272001, none, by decide, by simp⟩)] }]

/-- The rule that `resolved_context_tier` takes its range from. -/
def CatalogModel.documentedRule? (model : CatalogModel) (descriptor : PriceCatalogContextTier) :
    Option ContextRule :=
  match contextRules.filter fun rule => rule.basis = "request_input_tokens" ∧
      ⟨model.source, model.product, descriptor.groupKey, descriptor.serviceTier⟩ ∈
        rule.matchedModels with
  | [rule] => some rule
  | _ => none

/-- `resolved_context_tier`. -/
def CatalogModel.resolvedContextTier (model : CatalogModel) : Option PriceCatalogContextTier :=
  model.contextTier.map fun descriptor =>
    if descriptor.inputRange.isSome then descriptor
    else
      match model.documentedRule? descriptor with
      | none => descriptor
      | some rule =>
          match rule.tiers.lookup descriptor.key with
          | none => descriptor
          | some range =>
              { descriptor with
                inputRange := some range
                inputRangeSource := some {
                  ruleId := rule.id, url := some rule.sourceUrl
                  revision := .text rule.sourceRevision, verifiedOn := some rule.verifiedOn
                  origin := rule.origin, configuredAt := none, note := rule.note } }

end Turnstile.Pricing
