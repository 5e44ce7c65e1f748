import Turnstile.Pricing.PriceSync

/-!
# Prices in the registry

The registry holds the prices of the models and the discounts of their connections.  A
synchronization reads it (`registry`), plans, and applies its updates later
(`apply_model_price_sync`); an update of a model whose price is no longer configured as it was
planned against is discarded.  Administrators edit models and connections at any time.

What an update does to a row is one of four things: nothing, to discard itself, to record its
outcome, or to write its prices.
-/

namespace Turnstile.Pricing

open Guard

/-! ## Rows -/

/-- A model of the registry.  No source is the manual one. -/
structure PricedModel where
  id : UUID
  modelKey : String
  runtimeId : UUID
  priceSource : Option PriceSource
  priceReference : Option PriceReference
  priceDiscountPercent : Option ℚ
  charged : BucketPrices
  listPrices : BucketPrices
  contextPriceTiers : List StoredContextPriceTier
  pendingListPrice : Option BucketPrices
  pendingContextPriceTiers : Option (List StoredContextPriceTier)
  priceSyncStatus : Option PriceSyncStatus
  priceSyncMessage : Option PriceSyncMessage
  priceSyncedAt : Option Int
deriving DecidableEq

/-- A connection. -/
structure PricedRuntime where
  id : UUID
  priceDiscountPercent : Option ℚ
deriving DecidableEq

structure PriceRegistry where
  models : List PricedModel
  runtimes : List PricedRuntime
  nodup : (models.map (·.id)).Nodup
deriving DecidableEq

namespace PriceRegistry

/-- `_effective_discount`. -/
def effectiveDiscount (registry : PriceRegistry) (model : PricedModel) : Option ℚ :=
  match model.priceDiscountPercent with
  | some percent => some percent
  | none =>
      (registry.runtimes.find? fun runtime => runtime.id = model.runtimeId).bind
        (·.priceDiscountPercent)

/-- How the price of a model is configured. -/
def configuration (registry : PriceRegistry) (model : PricedModel) : PriceConfiguration where
  source := model.priceSource.getD .manual
  reference := model.priceReference
  discountPercent := registry.effectiveDiscount model
  contextPriceTiers := model.contextPriceTiers
  listPrices := model.listPrices

end PriceRegistry

/-! ## Snapshots -/

/-- `validate_price_source`. -/
def validatePriceSource (source : PriceSource) (reference : Option PriceReference)
    (references : List PriceReference) (rule : Option ContextPriceRule) :
    Except PriceError Unit := do
  let invalid := fun message => PriceError.validation (.invalidModel message)
  require (rule ≠ none → references.length = 2)
    (invalid "A custom context rule requires both short and long catalog tiers")
  checkIf (references ≠ []) do
    require (source ≠ .manual)
      (invalid "Context-tier references require a catalog price source")
    require (2 ≤ references.length ∧ references.Nodup)
      (invalid "Context pricing requires distinct tier references")
    require (∀ reference ∈ references, 2 ≤ reference.length ∧
        reference.head? = some source.value)
      (invalid "Context references must use the selected price source")
  checkIf (references = [] ∧ source ≠ .manual)
    (require (reference ≠ none ∧ reference ≠ some [""])
      (invalid "Following a list price requires the catalog entry to follow"))

namespace PriceRegistry

/-- `ManagedModel.model_validate`, with `restore_context_references`. -/
def managedModel (catalog : CompositeCatalog) (registry : PriceRegistry) (model : PricedModel) :
    Except PriceError ManagedModel := do
  let rule ← customContextRule catalog model.contextPriceTiers
  let references := model.contextPriceTiers.map (·.reference)
  require (∀ bucket ∈ Bucket.all, ∀ price ∈ model.charged.get bucket, 0 ≤ price)
    (.validation (.tooSmall "cost_per_million"))
  require (∀ percent ∈ model.priceDiscountPercent, 0 < percent ∧ percent ≤ 100)
    (.validation (.tooLarge "price_discount_percent"))
  validatePriceSource (model.priceSource.getD .manual) model.priceReference references rule
  pure {
    id := model.id, modelKey := model.modelKey
    priceSource := model.priceSource.getD .manual, priceReference := model.priceReference
    contextPriceReferences := references, contextPriceRule := rule
    listPrices := model.listPrices, contextPriceTiers := model.contextPriceTiers
    effectiveDiscountPercent := registry.effectiveDiscount model }

/-- The models of `registry()`. -/
def snapshot (catalog : CompositeCatalog) (registry : PriceRegistry) :
    Except PriceError (List ManagedModel) :=
  registry.models.mapM (registry.managedModel catalog)

end PriceRegistry

/-! ## Updates -/

/-- The prices of an update, and those of the row where it has none. -/
def BucketPrices.over (new old : BucketPrices) : BucketPrices :=
  ⟨new.input <|> old.input, new.output <|> old.output, new.cached <|> old.cached,
    new.cacheWrite <|> old.cacheWrite⟩

@[simp] theorem BucketPrices.get_over (new old : BucketPrices) (bucket : Bucket) :
    (new.over old).get bucket = (new.get bucket <|> old.get bucket) := by
  cases bucket <;> rfl

namespace PricedModel

/-- The row of an update that was planned against another configuration. -/
def supersede (now : Int) (model : PricedModel) : PricedModel :=
  { model with
    priceSyncStatus := some .superseded
    priceSyncMessage := some .superseded
    priceSyncedAt := some now }

/-- The row with what an update says of its outcome. -/
def record (now : Int) (update : ModelPriceUpdate) (model : PricedModel) : PricedModel :=
  { model with
    pendingListPrice := update.pendingListPrice <|> model.pendingListPrice
    pendingContextPriceTiers := update.pendingContextPriceTiers <|> model.pendingContextPriceTiers
    priceSyncStatus := some update.status
    priceSyncMessage := update.message
    priceSyncedAt := some now }

/-- The row with the prices of an update. -/
def accept (now : Int) (update : ModelPriceUpdate) (model : PricedModel) : PricedModel :=
  { model with
    listPrices := update.listed.over model.listPrices
    charged := update.charged
    pendingListPrice := none
    contextPriceTiers := update.contextPriceTiers.getD model.contextPriceTiers
    pendingContextPriceTiers := none
    priceSyncStatus := some update.status
    priceSyncMessage := update.message
    priceSyncedAt := some now }

end PricedModel

namespace PriceRegistry

/-- The update is of this row, and writes its prices. -/
def Writes (registry : PriceRegistry) (update : ModelPriceUpdate) (model : PricedModel) : Prop :=
  model.id = update.modelId ∧ registry.configuration model = update.expected ∧
    update.writes = true

instance (registry : PriceRegistry) (update : ModelPriceUpdate) (model : PricedModel) :
    Decidable (registry.Writes update model) :=
  inferInstanceAs (Decidable (_ ∧ _))

/-- What an update does to the row of its model. -/
def applyTo (registry : PriceRegistry) (now : Int) (update : ModelPriceUpdate)
    (model : PricedModel) : PricedModel :=
  if registry.configuration model ≠ update.expected then model.supersede now
  else if update.writes = true then model.accept now update
  else model.record now update

theorem applyTo_id (registry : PriceRegistry) (now : Int) (update : ModelPriceUpdate)
    (model : PricedModel) : (registry.applyTo now update model).id = model.id := by
  unfold applyTo
  split_ifs <;> rfl

/-- One round of `apply_model_price_sync`: the registry, and whether prices were written. -/
def applyUpdate (now : Int) (registry : PriceRegistry) (update : ModelPriceUpdate) :
    PriceRegistry where
  models := Rows.update (·.id) update.modelId (registry.applyTo now update) registry.models
  runtimes := registry.runtimes
  nodup := by
    rw [Rows.map_update (registry.applyTo_id now update)]
    exact registry.nodup

/-- How many models an update writes: the one that it is of, or none. -/
def written (registry : PriceRegistry) (update : ModelPriceUpdate) : Nat :=
  (registry.models.filter fun model => registry.Writes update model).length

/-- `apply_model_price_sync`: the registry, and how many models were written. -/
def applyModelPriceSync (now : Int) (registry : PriceRegistry)
    (updates : List ModelPriceUpdate) : PriceRegistry × Nat :=
  updates.foldl (fun (registry, written) update =>
    (registry.applyUpdate now update, written + registry.written update)) (registry, 0)

end PriceRegistry

/-! ## Edits -/

/-- The prices that an edit gives, of some of the buckets. -/
structure BucketValues where
  input : Option (Option ℚ)
  output : Option (Option ℚ)
  cached : Option (Option ℚ)
  cacheWrite : Option (Option ℚ)

def BucketValues.over (values : BucketValues) (prices : BucketPrices) : BucketPrices :=
  ⟨values.input.getD prices.input, values.output.getD prices.output,
    values.cached.getD prices.cached, values.cacheWrite.getD prices.cacheWrite⟩

/-- The values of an edit of a model, `none` where the edit does not have the field. -/
structure ModelValues where
  runtimeId : Option UUID
  priceSource : Option PriceSource
  priceReference : Option (Option PriceReference)
  priceDiscountPercent : Option (Option ℚ)
  charged : BucketValues
  listPrices : BucketValues
  contextPriceTiers : Option (List StoredContextPriceTier)
  pendingListPrice : Option (Option BucketPrices)
  pendingContextPriceTiers : Option (Option (List StoredContextPriceTier))
  priceSyncStatus : Option (Option PriceSyncStatus)
  priceSyncMessage : Option (Option PriceSyncMessage)
  priceSyncedAt : Option (Option Int)

namespace ModelValues

/-- A manual price follows no reference and has no tiers. -/
def normalized (values : ModelValues) : ModelValues :=
  if values.priceSource = some .manual then
    { values with priceReference := some none, contextPriceTiers := some [] }
  else values

/-- The edit gives another price source, reference or tiers. -/
def Repriced (values : ModelValues) (model : PricedModel) : Prop :=
  (∃ source ∈ values.priceSource, some source ≠ model.priceSource) ∨
    (∃ reference ∈ values.priceReference, reference ≠ model.priceReference) ∨
    ∃ tiers ∈ values.contextPriceTiers, tiers ≠ model.contextPriceTiers

instance (values : ModelValues) (model : PricedModel) : Decidable (values.Repriced model) :=
  inferInstanceAs (Decidable (_ ∨ _))

/-- The edited row of `update_registry_item`. -/
def edit (now : Int) (values : ModelValues) (model : PricedModel) : PricedModel :=
  let values := values.normalized
  let retiered := decide (∃ tiers ∈ values.contextPriceTiers, tiers ≠ model.contextPriceTiers)
  let tiered := decide (∃ tiers ∈ values.contextPriceTiers, tiers ≠ [])
  { model with
    runtimeId := values.runtimeId.getD model.runtimeId
    priceSource := values.priceSource <|> model.priceSource
    priceReference := values.priceReference.getD model.priceReference
    priceDiscountPercent := values.priceDiscountPercent.getD model.priceDiscountPercent
    charged := values.charged.over model.charged
    listPrices := values.listPrices.over model.listPrices
    contextPriceTiers := values.contextPriceTiers.getD model.contextPriceTiers
    pendingListPrice := values.pendingListPrice.getD model.pendingListPrice
    pendingContextPriceTiers := values.pendingContextPriceTiers.getD
      (if values.Repriced model then none else model.pendingContextPriceTiers)
    priceSyncStatus := values.priceSyncStatus.getD
      (if retiered then (if tiered then some .ok else none) else model.priceSyncStatus)
    priceSyncMessage := values.priceSyncMessage.getD
      (if retiered then none else model.priceSyncMessage)
    priceSyncedAt := values.priceSyncedAt.getD
      (if retiered then some now else model.priceSyncedAt) }

end ModelValues

inductive PriceEdit where
  | updateModel (modelId : UUID) (values : ModelValues)
  | updateRuntime (runtimeId : UUID) (priceDiscountPercent : Option ℚ)

namespace PriceRegistry

/-- `update_registry_item`, of a model. -/
def updateModel (now : Int) (registry : PriceRegistry) (modelId : UUID) (values : ModelValues) :
    PriceRegistry where
  models := Rows.update (·.id) modelId (values.edit now) registry.models
  runtimes := registry.runtimes
  nodup := by
    rw [Rows.map_update (f := values.edit now) fun model => rfl]
    exact registry.nodup

/-- `update_registry_item`, of a connection. -/
def updateRuntime (registry : PriceRegistry) (runtimeId : UUID)
    (priceDiscountPercent : Option ℚ) : PriceRegistry :=
  { registry with
    runtimes := Rows.update (·.id) runtimeId
      (fun runtime => { runtime with priceDiscountPercent }) registry.runtimes }

def edited (now : Int) (registry : PriceRegistry) : PriceEdit → PriceRegistry
  | .updateModel modelId values => registry.updateModel now modelId values
  | .updateRuntime runtimeId percent => registry.updateRuntime runtimeId percent

end PriceRegistry

end Turnstile.Pricing
