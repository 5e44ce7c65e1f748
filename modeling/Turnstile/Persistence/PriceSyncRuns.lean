import Turnstile.Persistence.PriceRegistry

/-!
# Price synchronizations among edits

A run is planned on a snapshot of the registry and applied later; other runs and edits of
administrators may come in between.  What a run writes was planned against the configuration
that the row still has, so it stays within the accepted prices, and is charged at the discount
that is in force.  What it does not write keeps its prices and its baseline, and the next run
plans it as this one did.
-/

namespace Turnstile.Pricing

open Guard

/-! ## Runs -/

/-- A synchronization that was planned and is not yet applied: what it read. -/
structure PriceRun where
  catalog : CompositeCatalog
  plannedAt : Int
  models : List ManagedModel
  only : Option (List UUID)
  reviewThreshold : ℚ

def PriceRun.updates (run : PriceRun) : List ModelPriceUpdate :=
  planPriceSync run.catalog run.plannedAt run.models run.only run.reviewThreshold

/-- The list prices that an edit writes are not negative. -/
structure ModelValues.Checked (values : ModelValues) : Prop where
  listPrices : ∀ prices : BucketPrices, prices.Checked → (values.listPrices.over prices).Checked
  tiers : ∀ tiers ∈ values.contextPriceTiers, ∀ tier ∈ tiers, tier.listPrices.Checked

def PriceEdit.Checked : PriceEdit → Prop
  | .updateModel _ values => values.Checked
  | .updateRuntime _ _ => True

/-- The constraints of the list prices of a model. -/
def PricedModel.Checked (model : PricedModel) : Prop :=
  model.listPrices.Checked ∧ ∀ tier ∈ model.contextPriceTiers, tier.listPrices.Checked

def PriceRegistry.Checked (registry : PriceRegistry) : Prop :=
  ∀ model ∈ registry.models, model.Checked

/-- The registry and the runs in flight. -/
structure PriceWorld where
  registry : PriceRegistry
  runs : List PriceRun

/-- A run is planned or applied, or an administrator edits.  List prices are not negative: a
constraint of the table, and what the vendors publish. -/
inductive PriceStep : PriceWorld → PriceWorld → Prop where
  | plan {w : PriceWorld} {catalog : CompositeCatalog} {models : List ManagedModel}
      (plannedAt : Int) (only : Option (List UUID)) (reviewThreshold : ℚ) :
      catalog.Published → w.registry.snapshot catalog = .ok models →
      PriceStep w ⟨w.registry, ⟨catalog, plannedAt, models, only, reviewThreshold⟩ :: w.runs⟩
  | apply {w : PriceWorld} {run : PriceRun} {rest : List PriceRun} (now : Int) :
      w.runs.Perm (run :: rest) →
      PriceStep w ⟨(w.registry.applyModelPriceSync now run.updates).1, rest⟩
  | edit {w : PriceWorld} (now : Int) (edit : PriceEdit) :
      edit.Checked → PriceStep w ⟨w.registry.edited now edit, w.runs⟩

/-! ## What a run read -/

variable {catalog : CompositeCatalog} {registry : PriceRegistry} {row row' : PricedModel}
  {model : ManagedModel} {now : Int}

/-- A model of a snapshot is configured as its row, and refers to what its tiers refer to. -/
structure SnapshotOf (catalog : CompositeCatalog) (registry : PriceRegistry) (row : PricedModel)
    (model : ManagedModel) : Prop where
  id : model.id = row.id
  modelKey : model.modelKey = row.modelKey
  configuration : model.configuration = registry.configuration row
  references : model.contextPriceReferences = model.contextPriceTiers.map (·.reference)
  rule : customContextRule catalog model.contextPriceTiers = .ok model.contextPriceRule

theorem snapshotOf_of_managedModel (h : registry.managedModel catalog row = .ok model) :
    SnapshotOf catalog registry row model := by
  unfold PriceRegistry.managedModel at h
  obtain ⟨rule, hrule, h⟩ := bind_eq_ok.1 h
  obtain ⟨-, h⟩ := require_bind_eq_ok.1 h
  obtain ⟨-, h⟩ := require_bind_eq_ok.1 h
  obtain ⟨-, h⟩ := check_bind_eq_ok.1 h
  obtain rfl := Except.ok.inj h
  exact ⟨rfl, rfl, rfl, rfl, hrule⟩

/-- What a run read: a snapshot of a registry whose list prices were not negative. -/
structure PriceRun.Informed (run : PriceRun) : Prop where
  published : run.catalog.Published
  models : ∀ model ∈ run.models, ∃ registry row, SnapshotOf run.catalog registry row model ∧
    row.Checked

theorem PriceRun.Informed.checked {run : PriceRun} (h : run.Informed) {model : ManagedModel}
    (hmodel : model ∈ run.models) :
    model.listPrices.Checked ∧ (∀ tier ∈ model.contextPriceTiers, tier.listPrices.Checked) ∧
      model.contextPriceReferences = model.contextPriceTiers.map (·.reference) := by
  obtain ⟨registry, row, hsnapshot, hchecked⟩ := h.models model hmodel
  have hconfiguration := hsnapshot.configuration
  have hlist : model.listPrices = row.listPrices :=
    congrArg PriceConfiguration.listPrices hconfiguration
  have htiers : model.contextPriceTiers = row.contextPriceTiers :=
    congrArg PriceConfiguration.contextPriceTiers hconfiguration
  refine ⟨?_, ?_, hsnapshot.references⟩
  · rw [hlist]
    exact hchecked.1
  · rw [htiers]
    exact hchecked.2

theorem PriceRun.exists_of_mem_updates {run : PriceRun} {update : ModelPriceUpdate}
    (h : update ∈ run.updates) :
    ∃ model ∈ run.models, planOne run.catalog run.plannedAt run.reviewThreshold model = update := by
  obtain ⟨model, hmodel, heq⟩ := List.mem_map.1 h
  exact ⟨model, (List.mem_filter.1 hmodel).1, heq⟩

/-! ## What an update writes -/

/-- What a run writes of a row: prices within the accepted ones, at the discount in force. -/
structure PriceRun.Unattended (run : PriceRun) (registry : PriceRegistry)
    (row row' : PricedModel) : Prop where
  flat : row.contextPriceTiers = [] → row.listPrices.Priced →
    row'.contextPriceTiers = [] ∧
      row'.charged = row'.listPrices.discounted (registry.effectiveDiscount row) ∧
      AcceptedPrices run.catalog (row.priceReference.getD [""]) run.reviewThreshold
        row.listPrices row'.listPrices
  context : row.contextPriceTiers ≠ [] →
    row'.listPrices = row.listPrices ∧
      AcceptedTiers run.catalog (registry.effectiveDiscount row) run.reviewThreshold
        row.contextPriceTiers row'.contextPriceTiers

/-- The prices of a row, its baseline and its accepted tiers are unchanged. -/
structure SamePrices (row row' : PricedModel) : Prop where
  charged : row'.charged = row.charged
  listPrices : row'.listPrices = row.listPrices
  contextPriceTiers : row'.contextPriceTiers = row.contextPriceTiers

/-- New prices that are within the threshold of accepted ones leave none of them out. -/
theorem AcceptedPrices.over_eq {reference : PriceReference} {reviewThreshold : ℚ}
    {old new : BucketPrices} (h : AcceptedPrices catalog reference reviewThreshold old new)
    (haccepted : old.Priced) : new.over old = new := by
  refine BucketPrices.ext_get fun bucket => ?_
  rw [BucketPrices.get_over]
  rcases h.within haccepted bucket with hsame | ⟨baseline, current, -, hnew, -⟩
  · rw [hsame]
    cases old.get bucket <;> rfl
  · rw [hnew]
    rfl

theorem BucketPrices.empty_over (prices : BucketPrices) : BucketPrices.empty.over prices = prices :=
  rfl

/-- What an update writes is within the accepted prices. -/
theorem PriceRun.Informed.unattended {run : PriceRun} (hrun : run.Informed)
    {update : ModelPriceUpdate} (hupdate : update ∈ run.updates)
    (hwrites : registry.Writes update row) :
    run.Unattended registry row (registry.applyTo now update row) := by
  obtain ⟨model, hmodel, rfl⟩ := run.exists_of_mem_updates hupdate
  obtain ⟨hlist, htiers, hreferences⟩ := hrun.checked hmodel
  obtain ⟨-, hconfiguration, hwritten⟩ := hwrites
  have hexpected := hconfiguration
  rw [planOne_against.2] at hexpected
  have hrowTiers : row.contextPriceTiers = model.contextPriceTiers :=
    congrArg PriceConfiguration.contextPriceTiers hexpected
  have hrowList : row.listPrices = model.listPrices :=
    congrArg PriceConfiguration.listPrices hexpected
  have hrowReference : row.priceReference = model.priceReference :=
    congrArg PriceConfiguration.reference hexpected
  have hrowDiscount : registry.effectiveDiscount row = model.effectiveDiscountPercent :=
    congrArg PriceConfiguration.discountPercent hexpected
  rw [PriceRegistry.applyTo, if_neg (not_not.2 hconfiguration), if_pos hwritten]
  constructor
  · intro hflat haccepted
    rw [hrowTiers] at hflat
    obtain ⟨hnone, hcharged, hprices⟩ := planOne_flat hflat hlist hwritten
    rw [← hrowList, ← hrowReference] at hprices
    simp only [PricedModel.accept]
    rw [hnone, hprices.over_eq haccepted, hrowDiscount]
    exact ⟨hrowTiers.trans hflat, hcharged, hprices⟩
  · intro hcontext
    rw [hrowTiers] at hcontext
    obtain ⟨updated, hupdated, hlisted, haccepted⟩ :=
      planOne_context hcontext hreferences htiers hwritten
    simp only [PricedModel.accept]
    rw [hupdated, hlisted, BucketPrices.empty_over, hrowDiscount, hrowTiers]
    exact ⟨rfl, haccepted⟩

/-! ## What an update does not write -/

/-- The row without the outcome of a synchronization. -/
def PricedModel.withoutOutcome (row : PricedModel) : PricedModel :=
  { row with
    pendingListPrice := none
    pendingContextPriceTiers := none
    priceSyncStatus := none
    priceSyncMessage := none
    priceSyncedAt := none }

theorem managedModel_withoutOutcome :
    registry.managedModel catalog row.withoutOutcome = registry.managedModel catalog row :=
  rfl

/-- An update that does not write changes the outcome alone. -/
theorem applyTo_withoutOutcome {update : ModelPriceUpdate} (hid : row.id = update.modelId)
    (h : ¬registry.Writes update row) :
    (registry.applyTo now update row).withoutOutcome = row.withoutOutcome := by
  unfold PriceRegistry.applyTo
  split_ifs with hsuperseded hwrites
  · rfl
  · exact absurd ⟨hid, not_not.1 hsuperseded, hwrites⟩ h
  · rfl

theorem samePrices_of_withoutOutcome (h : row'.withoutOutcome = row.withoutOutcome) :
    SamePrices row row' := by
  have hcharged := congrArg (·.charged) h
  have hlistPrices := congrArg (·.listPrices) h
  have htiers := congrArg (·.contextPriceTiers) h
  exact ⟨hcharged, hlistPrices, htiers⟩

/-- The update under another name of its model. -/
def ModelPriceUpdate.rename (modelKey : String) (update : ModelPriceUpdate) : ModelPriceUpdate :=
  { update with modelKey }

section Rename

variable (modelKey : String) (reviewThreshold : ℚ)

theorem planContext_rename :
    planContext catalog now reviewThreshold { model with modelKey } =
      (planContext catalog now reviewThreshold model).rename modelKey := by
  unfold planContext
  dsimp only
  cases resolveContextPrices catalog now model.priceSource model.contextPriceReferences
      model.effectiveDiscountPercent model.contextPriceRule model.contextPriceTiers with
  | error e => rfl
  | ok updated =>
      dsimp only
      split_ifs <;> rfl

theorem planEntry_rename (entry : CatalogEntry) :
    planEntry catalog reviewThreshold { model with modelKey } entry =
      (planEntry catalog reviewThreshold model entry).rename modelKey := by
  have hmove : reviewedMove reviewThreshold { model with modelKey } entry =
      reviewedMove reviewThreshold model entry := rfl
  unfold planEntry
  rw [hmove]
  cases reviewedMove reviewThreshold model entry with
  | none =>
      dsimp only
      split_ifs <;> rfl
  | some move =>
      dsimp only
      split_ifs <;> rfl

/-- A plan does not depend on the name of its model. -/
theorem planOne_rename :
    planOne catalog now reviewThreshold { model with modelKey } =
      (planOne catalog now reviewThreshold model).rename modelKey := by
  unfold planOne
  split_ifs
  · exact planContext_rename modelKey reviewThreshold
  · dsimp only
    cases catalog.lookup (model.priceReference.getD [""]) with
    | error e => rfl
    | ok answer =>
        cases answer with
        | none => rfl
        | some entry => exact planEntry_rename modelKey reviewThreshold entry

end Rename

/-- A row that is configured as an update expects is planned again as it was. -/
theorem PriceRun.Informed.replanned {run : PriceRun} (hrun : run.Informed)
    {update : ModelPriceUpdate} (hupdate : update ∈ run.updates) (hid : row.id = update.modelId)
    (hconfiguration : registry.configuration row = update.expected)
    (hmodel : registry.managedModel run.catalog row = .ok model) :
    planOne run.catalog run.plannedAt run.reviewThreshold model = update.rename row.modelKey := by
  obtain ⟨planned, hplanned, rfl⟩ := run.exists_of_mem_updates hupdate
  obtain ⟨registry', row', hbefore, -⟩ := hrun.models planned hplanned
  have hnow := snapshotOf_of_managedModel hmodel
  rw [planOne_against.2] at hconfiguration
  rw [planOne_against.1] at hid
  have hsame : model.configuration = planned.configuration :=
    hnow.configuration.trans hconfiguration
  have htiers : model.contextPriceTiers = planned.contextPriceTiers :=
    congrArg PriceConfiguration.contextPriceTiers hsame
  have hrule : model.contextPriceRule = planned.contextPriceRule := by
    have hrule := hnow.rule
    rw [htiers, hbefore.rule] at hrule
    exact (Except.ok.inj hrule).symm
  have hmodel : model = { planned with modelKey := row.modelKey } := by
    have hreferences := hnow.references
    rw [htiers, ← hbefore.references] at hreferences
    have hname := hnow.modelKey
    have hident := hnow.id.trans hid
    cases model
    cases planned
    simp only [ManagedModel.configuration, PriceConfiguration.mk.injEq] at hsame
    obtain ⟨hsource, hreference, hdiscount, -, hlist⟩ := hsame
    simp only [ManagedModel.mk.injEq]
    exact ⟨hident, hname, hsource, hreference, hreferences, hrule, hlist, htiers, hdiscount⟩
  rw [hmodel]
  exact planOne_rename row.modelKey run.reviewThreshold

/-! ## List prices are not negative -/

theorem BucketPrices.Checked.over {new old : BucketPrices} (hnew : new.Checked)
    (hold : old.Checked) : (new.over old).Checked := by
  intro bucket price hprice
  rw [BucketPrices.get_over] at hprice
  cases hget : new.get bucket with
  | none =>
      rw [hget] at hprice
      exact hold bucket price hprice
  | some other =>
      rw [hget] at hprice
      obtain rfl := Option.some.inj hprice
      exact hnew bucket other hget

/-- What an update is to write is not negative. -/
theorem PriceRun.Informed.written {run : PriceRun} (hrun : run.Informed)
    {update : ModelPriceUpdate} (hupdate : update ∈ run.updates) (hwrites : update.writes = true) :
    update.listed.Checked ∧
      ∀ tiers ∈ update.contextPriceTiers, ∀ tier ∈ tiers, tier.listPrices.Checked := by
  obtain ⟨model, hmodel, rfl⟩ := run.exists_of_mem_updates hupdate
  obtain ⟨hlist, htiers, hreferences⟩ := hrun.checked hmodel
  by_cases hflat : model.contextPriceTiers = []
  · obtain ⟨hnone, -, hprices⟩ := planOne_flat hflat hlist hwrites
    obtain ⟨entry, hentry, -, -, hlisted⟩ := hprices.entry
    rw [hnone, hlisted]
    exact ⟨hrun.published.lookup _ entry hentry, fun tiers h => by cases h⟩
  · obtain ⟨updated, hupdated, hlisted, haccepted⟩ :=
      planOne_context hflat hreferences htiers hwrites
    rw [hupdated, hlisted]
    refine ⟨BucketPrices.checked_empty, fun tiers h tier htier => ?_⟩
    obtain rfl := Option.some.inj h
    obtain ⟨-, found, option, hfound, hoption, -, -, hprices⟩ := haccepted.published tier htier
    rw [hprices]
    exact hrun.published.options _ found hfound option hoption

theorem PriceRun.Informed.checked_applyTo {run : PriceRun} (hrun : run.Informed)
    {update : ModelPriceUpdate} (hupdate : update ∈ run.updates) (hrow : row.Checked) :
    (registry.applyTo now update row).Checked := by
  unfold PriceRegistry.applyTo
  split_ifs with hsuperseded hwrites
  · exact hrow
  · obtain ⟨hlisted, htiers⟩ := hrun.written hupdate hwrites
    refine ⟨hlisted.over hrow.1, fun tier htier => ?_⟩
    cases hnew : update.contextPriceTiers with
    | none =>
        rw [PricedModel.accept, hnew] at htier
        exact hrow.2 tier htier
    | some tiers =>
        rw [PricedModel.accept, hnew] at htier
        exact htiers tiers hnew tier htier
  · exact hrow

theorem PriceRun.Informed.checked_applyUpdate {run : PriceRun} (hrun : run.Informed)
    {update : ModelPriceUpdate} (hupdate : update ∈ run.updates) (h : registry.Checked) :
    (registry.applyUpdate now update).Checked := by
  intro row hrow
  rcases Rows.mem_update hrow with hold | ⟨old, hold, -, rfl⟩
  · exact h row hold
  · exact hrun.checked_applyTo hupdate (h old hold)

theorem ModelValues.Checked.edit {values : ModelValues} (h : values.Checked)
    (hrow : row.Checked) : (values.edit now row).Checked := by
  have hlist : values.normalized.listPrices = values.listPrices := by
    unfold ModelValues.normalized
    split_ifs <;> rfl
  have htiers : ∀ tiers ∈ values.normalized.contextPriceTiers, ∀ tier ∈ tiers,
      tier.listPrices.Checked := by
    unfold ModelValues.normalized
    split_ifs with hmanual
    · intro tiers htiers tier htier
      obtain rfl := Option.some.inj htiers
      cases htier
    · exact h.tiers
  refine ⟨?_, fun tier htier => ?_⟩
  · rw [ModelValues.edit]
    dsimp only
    rw [hlist]
    exact h.listPrices row.listPrices hrow.1
  · rw [ModelValues.edit] at htier
    dsimp only at htier
    cases hnew : values.normalized.contextPriceTiers with
    | none =>
        rw [hnew] at htier
        exact hrow.2 tier htier
    | some tiers =>
        rw [hnew] at htier
        exact htiers tiers hnew tier htier

theorem PriceEdit.Checked.edited {edit : PriceEdit} (h : edit.Checked)
    (hregistry : registry.Checked) : (registry.edited now edit).Checked := by
  cases edit with
  | updateModel modelId values =>
      intro row hrow
      rcases Rows.mem_update hrow with hold | ⟨old, hold, -, rfl⟩
      · exact hregistry row hold
      · exact ModelValues.Checked.edit h (hregistry old hold)
  | updateRuntime runtimeId percent => exact hregistry

/-! ## Whole runs -/

namespace PriceRegistry

/-- The registry after some updates. -/
def afterUpdates (now : Int) (registry : PriceRegistry) (updates : List ModelPriceUpdate) :
    PriceRegistry :=
  updates.foldl (applyUpdate now) registry

/-- What an update makes of a row. -/
def rowAfter (now : Int) (registry : PriceRegistry) (update : ModelPriceUpdate)
    (row : PricedModel) : PricedModel :=
  if row.id = update.modelId then registry.applyTo now update row else row

variable {update : ModelPriceUpdate} {updates : List ModelPriceUpdate}

theorem applyUpdate_models :
    (registry.applyUpdate now update).models = registry.models.map (registry.rowAfter now update) :=
  Rows.update_eq_map registry.nodup

theorem rowAfter_id : (registry.rowAfter now update row).id = row.id := by
  unfold rowAfter
  split_ifs
  · exact registry.applyTo_id now update row
  · rfl

theorem rowAfter_of_writes (h : registry.Writes update row) :
    registry.rowAfter now update row = registry.applyTo now update row :=
  if_pos h.1

/-- A row that is not written changes its outcome alone. -/
theorem rowAfter_withoutOutcome (h : ¬registry.Writes update row) :
    (registry.rowAfter now update row).withoutOutcome = row.withoutOutcome := by
  unfold rowAfter
  split_ifs with hid
  · exact applyTo_withoutOutcome hid h
  · rfl

/-- The updates are applied one after the other, and their writes add up. -/
theorem foldl_applyUpdate (registry : PriceRegistry) (n : ℕ) :
    updates.foldl (fun (registry, written) update =>
        (registry.applyUpdate now update, written + registry.written update)) (registry, n) =
      (registry.afterUpdates now updates, n + (registry.applyModelPriceSync now updates).2) := by
  induction updates generalizing registry n with
  | nil => rfl
  | cons update updates ih =>
      have hcount := ih (registry.applyUpdate now update) (0 + registry.written update)
      rw [applyModelPriceSync, List.foldl_cons, List.foldl_cons, ih, hcount]
      simp only [afterUpdates, List.foldl_cons]
      rw [Nat.zero_add, Nat.add_assoc]

theorem applyModelPriceSync_fst :
    (registry.applyModelPriceSync now updates).1 = registry.afterUpdates now updates :=
  congrArg Prod.fst (foldl_applyUpdate registry 0)

theorem applyModelPriceSync_cons :
    (registry.applyModelPriceSync now (update :: updates)).2 =
      registry.written update +
        ((registry.applyUpdate now update).applyModelPriceSync now updates).2 := by
  rw [applyModelPriceSync, List.foldl_cons, foldl_applyUpdate, Nat.zero_add]

theorem not_writes_of_written (h : registry.written update = 0) (hrow : row ∈ registry.models) :
    ¬registry.Writes update row := by
  intro hwrites
  have hmem : row ∈ registry.models.filter fun model => registry.Writes update model :=
    List.mem_filter.2 ⟨hrow, decide_eq_true hwrites⟩
  rw [List.eq_nil_of_length_eq_zero h] at hmem
  cases hmem

/-- A run that writes nothing changes outcomes alone. -/
theorem afterUpdates_withoutOutcome (h : (registry.applyModelPriceSync now updates).2 = 0) :
    (registry.afterUpdates now updates).models.map PricedModel.withoutOutcome =
        registry.models.map PricedModel.withoutOutcome ∧
      (registry.afterUpdates now updates).runtimes = registry.runtimes := by
  induction updates generalizing registry with
  | nil => exact ⟨rfl, rfl⟩
  | cons update updates ih =>
      rw [applyModelPriceSync_cons, Nat.add_eq_zero_iff] at h
      obtain ⟨hmodels, hruntimes⟩ := ih h.2
      refine ⟨hmodels.trans ?_, hruntimes⟩
      rw [applyUpdate_models, List.map_map]
      exact List.map_congr_left fun row hrow =>
        rowAfter_withoutOutcome (not_writes_of_written h.1 hrow)

theorem managedModel_of_runtimes {registry' : PriceRegistry}
    (h : registry'.runtimes = registry.runtimes) (row : PricedModel) :
    registry'.managedModel catalog row = registry.managedModel catalog row := by
  unfold managedModel effectiveDiscount
  rw [h]

/-- The models that a run reads are all that is left when outcomes are left out. -/
theorem snapshot_of_withoutOutcome {registry' : PriceRegistry}
    (hmodels : registry'.models.map PricedModel.withoutOutcome =
      registry.models.map PricedModel.withoutOutcome)
    (hruntimes : registry'.runtimes = registry.runtimes) :
    registry'.snapshot catalog = registry.snapshot catalog := by
  have hread : ∀ r : PriceRegistry, r.snapshot catalog =
      (r.models.map PricedModel.withoutOutcome).mapM (r.managedModel catalog) := by
    intro r
    rw [List.mapM_map]
    rfl
  rw [hread, hread, hmodels]
  exact congrArg (fun f => List.mapM f _) (funext (managedModel_of_runtimes hruntimes))

end PriceRegistry

/-! ## Interleavings -/

namespace PriceWorld

/-- The list prices are not negative, and what is in flight was read from such a registry. -/
structure Inv (w : PriceWorld) : Prop where
  checked : w.registry.Checked
  informed : ∀ run ∈ w.runs, run.Informed

theorem Inv.step {w w' : PriceWorld} (h : w.Inv) (hstep : PriceStep w w') : w'.Inv := by
  cases hstep with
  | @plan catalog models plannedAt only reviewThreshold hpublished hsnapshot =>
      refine ⟨h.checked, fun run hrun => ?_⟩
      rcases List.mem_cons.1 hrun with rfl | hrun
      · refine ⟨hpublished, fun model hmodel => ?_⟩
        obtain ⟨row, hrow, hread⟩ := exists_of_mem_mapM hsnapshot hmodel
        exact ⟨w.registry, row, snapshotOf_of_managedModel hread, h.checked row hrow⟩
      · exact h.informed run hrun
  | @apply run rest now hruns =>
      refine ⟨?_, fun other hother =>
        h.informed other (hruns.mem_iff.2 (List.mem_cons_of_mem run hother))⟩
      have hinformed := h.informed run (hruns.mem_iff.2 List.mem_cons_self)
      rw [PriceRegistry.applyModelPriceSync_fst]
      suffices hall : ∀ updates registry, updates ⊆ run.updates → registry.Checked →
          (PriceRegistry.afterUpdates now registry updates).Checked from
        hall run.updates w.registry (List.Subset.refl _) h.checked
      intro updates
      induction updates with
      | nil => exact fun registry _ hregistry => hregistry
      | cons update updates ih =>
          intro registry hsubset hregistry
          obtain ⟨hupdate, hrest⟩ := List.cons_subset.1 hsubset
          exact ih _ hrest (hinformed.checked_applyUpdate hupdate hregistry)
  | edit now edit hedit => exact ⟨hedit.edited h.checked, h.informed⟩

theorem Inv.reaches {w w' : PriceWorld} (h : w.Inv) (hr : Relation.ReflTransGen PriceStep w w') :
    w'.Inv := by
  induction hr with
  | refl => exact h
  | tail _ hstep ih => exact ih.step hstep

end PriceWorld

/-- What an update of a run may make of a row: what is written was accepted against the baseline
and the discount that the row has; what is not written keeps its prices, and is planned again as
it was. -/
structure PriceRun.Applied (run : PriceRun) (update : ModelPriceUpdate)
    (registry registry' : PriceRegistry) (row row' : PricedModel) : Prop where
  id : row'.id = row.id
  written : registry.Writes update row → run.Unattended registry row row'
  kept : ¬registry.Writes update row → SamePrices row row'
  replanned : ¬registry.Writes update row → row.id = update.modelId →
    registry.configuration row = update.expected →
    ∀ model, registry'.managedModel run.catalog row' = .ok model →
      planOne run.catalog run.plannedAt run.reviewThreshold model = update.rename row.modelKey

theorem PriceRun.Informed.applied {run : PriceRun} (hrun : run.Informed)
    {update : ModelPriceUpdate} (hupdate : update ∈ run.updates) (row : PricedModel) :
    run.Applied update registry (registry.applyUpdate now update) row
      (registry.rowAfter now update row) where
  id := PriceRegistry.rowAfter_id
  written hwrites := by
    rw [PriceRegistry.rowAfter_of_writes hwrites]
    exact hrun.unattended hupdate hwrites
  kept hkept := samePrices_of_withoutOutcome (PriceRegistry.rowAfter_withoutOutcome hkept)
  replanned hkept hid hconfiguration model hmodel := by
    rw [← managedModel_withoutOutcome, PriceRegistry.rowAfter_withoutOutcome hkept,
      managedModel_withoutOutcome] at hmodel
    exact hrun.replanned hupdate hid hconfiguration hmodel

/-- Whenever a run in flight is applied, every update of it stays within the accepted prices.  A
run that writes nothing leaves all prices alone, and the models as the next run reads them. -/
theorem price_sync_within_baseline {start w : PriceWorld} (hstart : start.registry.Checked)
    (hruns : start.runs = []) (hreached : Relation.ReflTransGen PriceStep start w)
    {run : PriceRun} (hrun : run ∈ w.runs) (now : Int) :
    (∀ before update after, run.updates = before ++ update :: after →
      ∀ row ∈ (w.registry.afterUpdates now before).models,
        ∃ row' ∈ (w.registry.afterUpdates now (before ++ [update])).models,
          run.Applied update (w.registry.afterUpdates now before)
            (w.registry.afterUpdates now (before ++ [update])) row row') ∧
    (w.registry.applyModelPriceSync now run.updates).1 =
      w.registry.afterUpdates now run.updates ∧
    ((w.registry.applyModelPriceSync now run.updates).2 = 0 →
      (∀ row' ∈ (w.registry.applyModelPriceSync now run.updates).1.models,
        ∃ row ∈ w.registry.models, row.id = row'.id ∧ SamePrices row row') ∧
      ∀ catalog, (w.registry.applyModelPriceSync now run.updates).1.snapshot catalog =
        w.registry.snapshot catalog) := by
  have hinv : w.Inv := PriceWorld.Inv.reaches
    ⟨hstart, fun run hrun => by rw [hruns] at hrun; cases hrun⟩ hreached
  have hinformed := hinv.informed run hrun
  refine ⟨?_, PriceRegistry.applyModelPriceSync_fst, ?_⟩
  · intro before update after hsplit row hrow
    have hupdate : update ∈ run.updates := by
      rw [hsplit]
      exact List.mem_append_right _ List.mem_cons_self
    have hnext : w.registry.afterUpdates now (before ++ [update]) =
        (w.registry.afterUpdates now before).applyUpdate now update := List.foldl_append
    rw [hnext]
    refine ⟨_, ?_, hinformed.applied hupdate row⟩
    rw [PriceRegistry.applyUpdate_models]
    exact List.mem_map_of_mem hrow
  · intro hnothing
    obtain ⟨hmodels, hruntimes⟩ := PriceRegistry.afterUpdates_withoutOutcome hnothing
    rw [PriceRegistry.applyModelPriceSync_fst]
    refine ⟨fun row' hrow' => ?_, fun catalog =>
      PriceRegistry.snapshot_of_withoutOutcome hmodels hruntimes⟩
    have hmem := List.mem_map_of_mem (f := PricedModel.withoutOutcome) hrow'
    rw [hmodels] at hmem
    obtain ⟨row, hrow, hsame⟩ := List.mem_map.1 hmem
    have hid := congrArg (·.id) hsame
    exact ⟨row, hrow, hid, samePrices_of_withoutOutcome hsame.symm⟩

/-! ## A price that moved by a tenth -/

/-- Two dollars for the input and eight for the output were accepted, at ninety per cent. -/
def repricedModel : PricedModel where
  id := 1
  modelKey := "m"
  runtimeId := 7
  priceSource := some .azureRetail
  priceReference := some ["azure_retail", "P", "m", "Global", "*"]
  priceDiscountPercent := none
  charged := ⟨some (18 / 10), some (72 / 10), none, none⟩
  listPrices := ⟨some 2, some 8, none, none⟩
  contextPriceTiers := []
  pendingListPrice := none
  pendingContextPriceTiers := none
  priceSyncStatus := none
  priceSyncMessage := none
  priceSyncedAt := none

/-- A tier whose range is documented. -/
def retieredDescriptor (key : String) (range : PriceCatalogInputRange) :
    PriceCatalogContextTier where
  groupKey := "c"
  modelLabel := "c"
  serviceTier := "standard"
  key := key
  label := key
  order := 0
  inputRange := some range
  inputRangeSource := some ⟨"rule", none, .text "1", none, .official, none, none⟩

theorem shortRange_nonneg : (0 : Int) ≤ 0 := le_rfl

def shortDescriptor : PriceCatalogContextTier :=
  retieredDescriptor "short" ⟨0, some 200000, shortRange_nonneg, by decide⟩

def longDescriptor : PriceCatalogContextTier :=
  retieredDescriptor "long" ⟨200001, none, by decide, by decide⟩

def retieredReference (descriptor : PriceCatalogContextTier) : PriceReference :=
  ["azure_retail", "P", descriptor.key, "Global", "*"]

/-- What a tier was accepted at: so much for the input, and eight dollars for the output. -/
def retieredTier (descriptor : PriceCatalogContextTier) (range : Int × Option Int) (input : ℚ) :
    StoredContextPriceTier where
  toRates := (BucketPrices.discounted ⟨some input, some 8, none, none⟩ (some 90)).rates
  key := descriptor.key
  label := descriptor.key
  reference := retieredReference descriptor
  minInputTokens := range.1
  maxInputTokens := range.2
  listPrices := ⟨some input, some 8, none, none⟩
  inputRangeSource := descriptor.inputRangeSource
  modelKey := (retieredReference descriptor).take 3
  modelLabel := descriptor.key
  product := "P"
  groupKey := "c"
  serviceTier := "standard"
  deployment := "Global"
  regions := ["eastus"]

def longTier : StoredContextPriceTier := retieredTier longDescriptor (200001, none) 4

/-- A model with two tiers, at two and at four dollars for the input. -/
def retieredModel : PricedModel :=
  { repricedModel with
    id := 2
    modelKey := "c"
    priceReference := some (retieredReference shortDescriptor)
    charged := .empty
    listPrices := .empty
    contextPriceTiers := [retieredTier shortDescriptor (0, some 200000) 2, longTier] }

def repricedRegistry : PriceRegistry :=
  ⟨[repricedModel, retieredModel], [⟨7, some 90⟩], by decide⟩

/-- The vendor now asks two dollars twenty for the input. -/
def repricedEntry : CatalogEntry where
  reference := ["azure_retail", "P", "m", "Global", "*"]
  label := "m"
  source := .azureRetail
  prices := ⟨some (22 / 10), some 8, none, none⟩
  contextTier := none
  complete := true

/-- The one option of a tier. -/
def retieredOptions (descriptor : PriceCatalogContextTier) (input : ℚ) : CatalogOptions where
  model := ⟨(retieredReference descriptor).take 3, descriptor.key, "P", .azureRetail,
    some descriptor⟩
  options := [⟨retieredReference descriptor, "Global",
    ⟨retieredReference descriptor, descriptor.key, .azureRetail,
      ⟨some input, some 8, none, none⟩, some descriptor, true⟩, ["eastus"], false, []⟩]
  complete := true

/-- The vendor asks two dollars twenty for the input of the short tier too. -/
def repricedCatalog : CompositeCatalog where
  lookup _ := .ok (some repricedEntry)
  options key :=
    if key = (retieredReference shortDescriptor).take 3 then
      .ok (some (retieredOptions shortDescriptor (22 / 10)))
    else if key = (retieredReference longDescriptor).take 3 then
      .ok (some (retieredOptions longDescriptor 4))
    else .ok none
  namesContextTier _ := false
  acceptsUrl _ := true

/-- The models as the run reads them. -/
def repricedRead : ManagedModel where
  id := 1
  modelKey := "m"
  priceSource := .azureRetail
  priceReference := some ["azure_retail", "P", "m", "Global", "*"]
  contextPriceReferences := []
  contextPriceRule := none
  listPrices := ⟨some 2, some 8, none, none⟩
  contextPriceTiers := []
  effectiveDiscountPercent := some 90

def retieredRead : ManagedModel :=
  { repricedRead with
    id := 2
    modelKey := "c"
    priceReference := some (retieredReference shortDescriptor)
    contextPriceReferences :=
      [retieredReference shortDescriptor, retieredReference longDescriptor]
    listPrices := .empty
    contextPriceTiers := retieredModel.contextPriceTiers }

def repricedRun : PriceRun where
  catalog := repricedCatalog
  plannedAt := 0
  models := [repricedRead, retieredRead]
  only := none
  reviewThreshold := 2 / 10

theorem checked_of_nonneg {input : ℚ} (h : 0 ≤ input) :
    BucketPrices.Checked ⟨some input, some 8, none, none⟩ := by
  intro bucket price hprice
  cases bucket <;> cases hprice
  · exact h
  · decide +kernel

theorem repricedRegistry_checked : repricedRegistry.Checked := by
  intro row hrow
  rcases List.mem_cons.1 hrow with rfl | hrow
  · exact ⟨checked_of_nonneg (by decide +kernel), fun tier htier => by cases htier⟩
  · obtain rfl := List.mem_singleton.1 hrow
    refine ⟨BucketPrices.checked_empty, fun tier htier => ?_⟩
    rcases List.mem_cons.1 htier with rfl | htier
    · exact checked_of_nonneg (by decide +kernel)
    · obtain rfl := List.mem_singleton.1 htier
      exact checked_of_nonneg (by decide +kernel)

theorem repricedCatalog_published : repricedCatalog.Published := by
  have hoptions : ∀ descriptor input, 0 ≤ input →
      ∀ option ∈ (retieredOptions descriptor input).options, option.entry.prices.Checked := by
    intro descriptor input hinput option hoption
    obtain rfl := List.mem_singleton.1 hoption
    exact checked_of_nonneg hinput
  constructor
  · intro reference entry hentry
    cases hentry
    exact checked_of_nonneg (by decide +kernel)
  · intro key found hfound
    simp only [repricedCatalog] at hfound
    split at hfound
    · cases hfound
      exact hoptions _ _ (by decide +kernel)
    · split at hfound
      · cases hfound
        exact hoptions _ _ (by decide +kernel)
      · cases hfound

/-- What the two tiers share. -/
def retieredScope : ContextScope := ("azure_retail", "P", "c", "standard", "Global")

/-- A round of the loop, the first or a later one, takes the option of a tier. -/
theorem contextRound_retiered {key : String} {range : PriceCatalogInputRange} {input : ℚ}
    {tiers : List StoredContextPriceTier} {scope : Option ContextScope}
    {common : Option (List String)}
    (hoptions : repricedCatalog.options
        ((retieredReference (retieredDescriptor key range)).take 3) =
      .ok (some (retieredOptions (retieredDescriptor key range) input)))
    (hstate : scope = none ∧ common = none ∨
      scope = some retieredScope ∧ common = some ["eastus"])
    (hvalid : (retieredTier (retieredDescriptor key range)
      (range.minInputTokens, range.maxInputTokens) input).toModelPriceTier.validate = .ok ()) :
    contextRound repricedCatalog .azureRetail (some 90) none none ⟨tiers, scope, common⟩
      (retieredReference (retieredDescriptor key range)) =
      .ok ⟨tiers ++ [retieredTier (retieredDescriptor key range)
        (range.minInputTokens, range.maxInputTokens) input], some retieredScope,
        some ["eastus"]⟩ := by
  have hdedup : (["eastus"] : List String).dedup = ["eastus"] := by decide +kernel
  simp only [retieredTier, retieredReference, retieredDescriptor] at hvalid
  unfold contextRound
  rw [hoptions]
  rcases hstate with ⟨rfl, rfl⟩ | ⟨rfl, rfl⟩ <;>
    (simp [retieredOptions, retieredReference, retieredDescriptor, tierRange, require, expect,
      CatalogModel.resolvedContextTier, hdedup, BucketPrices.Priced, PriceSource.value, contextTier,
      hvalid, retieredTier, retieredScope]; rfl)

/-- The new tiers: the input of the short one is ten per cent dearer. -/
def retieredTiers : List StoredContextPriceTier :=
  [retieredTier shortDescriptor (0, some 200000) (22 / 10), longTier]

theorem resolveContextPrices_retiered :
    resolveContextPrices repricedCatalog 0 .azureRetail
      [retieredReference shortDescriptor, retieredReference longDescriptor] (some 90) none
      retieredModel.contextPriceTiers = .ok retieredTiers := by
  have hshort : contextRound repricedCatalog .azureRetail (some 90) none none ⟨[], none, none⟩
      (retieredReference shortDescriptor) =
      .ok ⟨retieredTiers.take 1, some retieredScope, some ["eastus"]⟩ :=
    contextRound_retiered (by decide +kernel) (.inl ⟨rfl, rfl⟩) (by decide +kernel)
  have hlong : contextRound repricedCatalog .azureRetail (some 90) none none
      ⟨retieredTiers.take 1, some retieredScope, some ["eastus"]⟩
      (retieredReference longDescriptor) =
      .ok ⟨retieredTiers, some retieredScope, some ["eastus"]⟩ :=
    contextRound_retiered (by decide +kernel) (.inr ⟨rfl, rfl⟩) (by decide +kernel)
  have hsorted : retieredTiers.mergeSort (fun a b =>
      decide (a.minInputTokens ≤ b.minInputTokens)) = retieredTiers :=
    List.mergeSort_of_pairwise (by decide +kernel)
  have hvalid : (modelPriceFromTiers retieredTiers).validate = .ok () := by decide +kernel
  unfold resolveContextPrices
  rw [require_bind_of (by decide +kernel), require_bind_of (by decide +kernel),
    require_bind_of (by decide +kernel)]
  simp only [pure_bind, List.foldlM_cons, List.foldlM_nil, hshort, hlong, ok_bind]
  change (Except.mapError _ (modelPriceFromTiers (retieredTiers.mergeSort _)).validate >>=
    fun _ => pure (retieredTiers.mergeSort _)) = _
  rw [hsorted, hvalid]
  rfl

/-- The plan for the tiers. -/
def retieredUpdate : ModelPriceUpdate :=
  { plannedAgainst retieredRead .ok none with
    writes := true
    contextPriceTiers := some retieredTiers }

theorem planOne_retiered :
    planOne repricedCatalog 0 (2 / 10) retieredRead = retieredUpdate := by
  have hmoved : ¬(changedRules retieredModel.contextPriceTiers retieredTiers = true ∨
      ((2 / 10 : ℚ) : WithTop ℚ) < contextDrift retieredModel.contextPriceTiers retieredTiers) := by
    decide +kernel
  unfold planOne
  rw [if_pos (by decide +kernel)]
  unfold planContext
  rw [show resolveContextPrices repricedCatalog 0 retieredRead.priceSource
    retieredRead.contextPriceReferences retieredRead.effectiveDiscountPercent
    retieredRead.contextPriceRule retieredRead.contextPriceTiers = .ok retieredTiers from
    resolveContextPrices_retiered]
  exact if_neg hmoved

def repricedUpdate : ModelPriceUpdate := planOne repricedCatalog 0 (2 / 10) repricedRead

/-- The row with ten per cent more for the input. -/
def repricedRow : PricedModel :=
  { repricedModel with
    charged := ⟨some (198 / 100), some (72 / 10), none, none⟩
    listPrices := ⟨some (22 / 10), some 8, none, none⟩
    priceSyncStatus := some .ok
    priceSyncedAt := some 1 }

/-- The row whose short tier has ten per cent more for the input. -/
def retieredRow : PricedModel :=
  { retieredModel with
    contextPriceTiers := retieredTiers
    priceSyncStatus := some .ok
    priceSyncedAt := some 1 }

/-- While another run is in flight, the ten per cent are written at the discount, to a model and
to the short tier of another. -/
theorem repriced_within_baseline :
    repricedRun.Unattended repricedRegistry repricedModel repricedRow ∧
    repricedRun.Unattended (repricedRegistry.afterUpdates 1 [repricedUpdate]) retieredModel
      retieredRow := by
  have hsnapshot : repricedRegistry.snapshot repricedCatalog = .ok repricedRun.models := by
    decide +kernel
  have hplan : ∀ runs, PriceStep ⟨repricedRegistry, runs⟩ ⟨repricedRegistry, repricedRun :: runs⟩ :=
    fun runs => .plan 0 none (2 / 10) repricedCatalog_published hsnapshot
  have hall := (price_sync_within_baseline repricedRegistry_checked rfl
    (.tail (.single (hplan [])) (hplan [repricedRun])) List.mem_cons_self 1).1
  have hupdates : repricedRun.updates = [repricedUpdate, retieredUpdate] := by
    rw [← planOne_retiered]
    rfl
  constructor
  · obtain ⟨row', hrow', happlied⟩ := hall [] repricedUpdate [retieredUpdate] hupdates
      repricedModel List.mem_cons_self
    have hmodels : (repricedRegistry.afterUpdates 1 ([] ++ [repricedUpdate])).models =
        [repricedRow, retieredModel] := by decide +kernel
    rw [hmodels] at hrow'
    rcases List.mem_cons.1 hrow' with rfl | hrow'
    · exact happlied.written (by decide +kernel)
    · obtain rfl := List.mem_singleton.1 hrow'
      exact absurd happlied.id (by decide)
  · obtain ⟨row', hrow', happlied⟩ := hall [repricedUpdate] retieredUpdate [] hupdates
      retieredModel (by decide +kernel)
    have hmodels : (repricedRegistry.afterUpdates 1 ([repricedUpdate] ++ [retieredUpdate])).models =
        [repricedRow, retieredRow] := by decide +kernel
    rw [hmodels] at hrow'
    rcases List.mem_cons.1 hrow' with rfl | hrow'
    · exact absurd happlied.id (by decide)
    · obtain rfl := List.mem_singleton.1 hrow'
      exact happlied.written (by decide +kernel)

end Turnstile.Pricing
