import Mathlib.Algebra.Order.Monoid.Unbundled.WithTop
import Turnstile.Foundation.Rows
import Turnstile.Pricing.ContextPrices

/-!
# The plan of a price synchronization

`plan_price_sync` decides of every model that follows a list whether its prices may be
written.  A reading that fails, finds nothing or is of a part only leaves the prices alone,
and so does a price that moved further from the accepted one than the threshold: it is held
for review.

What is to be written is of a complete entry, and every bucket keeps its accepted price or
moves within the threshold (`planOne_flat`, `planOne_context`).
-/

namespace Turnstile.Pricing

open Guard

/-! ## Models and updates -/

inductive PriceSyncStatus where
  | ok
  | unmapped
  | stale
  | reviewNeeded
  | superseded
deriving DecidableEq, Repr

/-- The messages of a synchronization, by what is put into their texts. -/
inductive PriceSyncMessage where
  /-- `价目表读取失败，保留现有单价：{type(error).__name__}` -/
  | unreadable (typeName : String)
  /-- `价目表中找不到 {reference}，保留现有单价` -/
  | missing (reference : PriceReference)
  /-- `{entry.label} 未同时发布输入与输出价，保留现有单价` -/
  | unpriced (label : String)
  /-- `{entry.label} 的价目只读到一部分（分页中断），保留现有单价` -/
  | incomplete (label : String)
  /-- `价目包含上下文档位，需选择并确认完整分档规则，未按单档覆盖现有价格。` -/
  | oneTier
  /-- `官方{bucket}较上次接受的价格变动 {drift:.0%}，超过 {review_threshold:.0%} 复核阈值，未自动写入` -/
  | moved (bucket : String) (drift : WithTop ℚ) (reviewThreshold : ℚ)
  /-- `分档价目读取失败，保留已接受的完整规则：{type(error).__name__}` -/
  | unreadableTiers (typeName : String)
  /-- `分档计价规则或官方价格发生较大变化，需确认后才能采用。` -/
  | movedTiers
  /-- `同步期间该模型的计价配置被改动，本次结果已作废，未写入` -/
  | superseded
deriving DecidableEq

/-- What an update was planned against. -/
structure PriceConfiguration where
  source : PriceSource
  reference : Option PriceReference
  discountPercent : Option ℚ
  contextPriceTiers : List StoredContextPriceTier
  listPrices : BucketPrices
deriving DecidableEq

/-- `ManagedModel`, as far as its price is concerned. -/
structure ManagedModel where
  id : UUID
  modelKey : String
  priceSource : PriceSource
  priceReference : Option PriceReference
  contextPriceReferences : List PriceReference
  contextPriceRule : Option ContextPriceRule
  listPrices : BucketPrices
  contextPriceTiers : List StoredContextPriceTier
  effectiveDiscountPercent : Option ℚ
deriving DecidableEq

def ManagedModel.configuration (model : ManagedModel) : PriceConfiguration where
  source := model.priceSource
  reference := model.priceReference
  discountPercent := model.effectiveDiscountPercent
  contextPriceTiers := model.contextPriceTiers
  listPrices := model.listPrices

structure ModelPriceUpdate where
  modelId : UUID
  modelKey : String
  status : PriceSyncStatus
  message : Option PriceSyncMessage
  writes : Bool
  charged : BucketPrices
  listed : BucketPrices
  pendingListPrice : Option BucketPrices
  contextPriceTiers : Option (List StoredContextPriceTier)
  pendingContextPriceTiers : Option (List StoredContextPriceTier)
  expected : PriceConfiguration
deriving DecidableEq

/-- `_planned_against`, with the fields that it leaves as they are by default. -/
def plannedAgainst (model : ManagedModel) (status : PriceSyncStatus)
    (message : Option PriceSyncMessage) : ModelPriceUpdate where
  modelId := model.id
  modelKey := model.modelKey
  status := status
  message := message
  writes := false
  charged := .empty
  listed := .empty
  pendingListPrice := none
  contextPriceTiers := none
  pendingContextPriceTiers := none
  expected := model.configuration

/-! ## Drift -/

/-- The label of a bucket in `_BUCKETS`. -/
def Bucket.label : Bucket → String
  | input => "输入价"
  | output => "输出价"
  | cached => "缓存读取价"
  | cacheWrite => "缓存写入价"

/-- How far a bucket moved, unless it is the same or was never accepted. -/
def bucketDrift (accepted : Bool) (previous current : Option ℚ) : Option (WithTop ℚ) :=
  if previous = current then none
  else
    match previous, current with
    | none, _ => if accepted then some ⊤ else none
    | some _, none => some ⊤
    | some previous, some current =>
        some (if previous = 0 then ⊤ else ((|current - previous| / previous : ℚ) : WithTop ℚ))

/-- The further of two moves, the first one where they are equal. -/
def furtherMove (worst : Option (Bucket × WithTop ℚ)) (bucket : Bucket)
    (drift : Option (WithTop ℚ)) : Option (Bucket × WithTop ℚ) :=
  match drift with
  | none => worst
  | some drift =>
      match worst with
      | none => some (bucket, drift)
      | some (other, worstDrift) =>
          some (if worstDrift < drift then (bucket, drift) else (other, worstDrift))

/-- `_largest_drift`. -/
def largestDrift (baseline current : BucketPrices) : Option (Bucket × WithTop ℚ) :=
  Bucket.all.foldl (fun worst bucket => furtherMove worst bucket
    (bucketDrift (decide baseline.Priced) (baseline.get bucket) (current.get bucket))) none

/-- How far a bucket of a tier moved. -/
def tierBucketDrift (baseline current : Option ℚ) : WithTop ℚ :=
  if baseline ≠ current ∧ (baseline = none ∨ current = none ∨ baseline = some 0) then ⊤
  else
    match baseline, current with
    | some baseline, some current =>
        if 0 < baseline then ((|current - baseline| / baseline : ℚ) : WithTop ℚ) else 0
    | _, _ => 0

/-- `previous.get(key)`: the last tier of a key. -/
def previousTier? (previous : List StoredContextPriceTier) (key : String) :
    Option StoredContextPriceTier :=
  Rows.find? (fun tier : StoredContextPriceTier => tier.key) key previous.reverse

/-- The loop over the tiers that finds how far a bucket moved at most. -/
def contextDrift (previous updated : List StoredContextPriceTier) : WithTop ℚ :=
  updated.foldl (fun drift tier =>
    match previousTier? previous tier.key with
    | none => drift
    | some old => Bucket.all.foldl (fun drift bucket => max drift
        (tierBucketDrift (old.listPrices.get bucket) (tier.listPrices.get bucket))) drift) 0

/-- What says which requests a tier is for: key, range, reference and source of the range. -/
def StoredContextPriceTier.rule (tier : StoredContextPriceTier) :
    String × Int × Option Int × PriceReference × Option PriceCatalogRuleSource :=
  (tier.key, tier.minInputTokens, tier.maxInputTokens, tier.reference, tier.inputRangeSource)

/-- `changed_rules`. -/
def changedRules (previous updated : List StoredContextPriceTier) : Bool :=
  !(decide (∀ tier ∈ updated, tier.key ∈ previous.map (·.key)) &&
      decide (∀ tier ∈ previous, tier.key ∈ updated.map (·.key))) ||
    updated.any fun tier => (previousTier? previous tier.key).map (·.rule) ≠ some tier.rule

/-! ## The plan -/

/-- `_plan_context`. -/
def planContext (catalog : CompositeCatalog) (now : Int) (reviewThreshold : ℚ)
    (model : ManagedModel) : ModelPriceUpdate :=
  match resolveContextPrices catalog now model.priceSource model.contextPriceReferences
      model.effectiveDiscountPercent model.contextPriceRule model.contextPriceTiers with
  | .error error => plannedAgainst model .stale (some (.unreadableTiers error.typeName))
  | .ok updated =>
      if changedRules model.contextPriceTiers updated = true ∨
          (reviewThreshold : WithTop ℚ) < contextDrift model.contextPriceTiers updated then
        { plannedAgainst model .reviewNeeded (some .movedTiers) with
          pendingContextPriceTiers := some updated }
      else
        { plannedAgainst model .ok none with
          writes := true
          contextPriceTiers := some updated }

/-- The move of the entry that is further than the threshold. -/
def reviewedMove (reviewThreshold : ℚ) (model : ManagedModel) (entry : CatalogEntry) :
    Option (Bucket × WithTop ℚ) :=
  (largestDrift model.listPrices entry.prices).filter fun moved =>
    decide ((reviewThreshold : WithTop ℚ) < moved.2)

/-- `_plan_one`, of an entry that was found. -/
def planEntry (catalog : CompositeCatalog) (reviewThreshold : ℚ) (model : ManagedModel)
    (entry : CatalogEntry) : ModelPriceUpdate :=
  if ¬entry.prices.Priced then plannedAgainst model .unmapped (some (.unpriced entry.label))
  else if entry.complete = false then
    plannedAgainst model .stale (some (.incomplete entry.label))
  else if entry.contextTier ≠ none ∨ catalog.namesContextTier entry.label = true then
    plannedAgainst model .reviewNeeded (some .oneTier)
  else
    match reviewedMove reviewThreshold model entry with
    | some (bucket, drift) =>
        { plannedAgainst model .reviewNeeded
            (some (.moved bucket.label drift reviewThreshold)) with
          pendingListPrice := some entry.prices }
    | none =>
        { plannedAgainst model .ok none with
          writes := true
          charged := entry.prices.discounted model.effectiveDiscountPercent
          listed := entry.prices }

/-- `_plan_one`. -/
def planOne (catalog : CompositeCatalog) (now : Int) (reviewThreshold : ℚ)
    (model : ManagedModel) : ModelPriceUpdate :=
  if model.contextPriceTiers ≠ [] then planContext catalog now reviewThreshold model
  else
    let reference := model.priceReference.getD [""]
    match catalog.lookup reference with
    | .error error => plannedAgainst model .stale (some (.unreadable error.typeName))
    | .ok none => plannedAgainst model .unmapped (some (.missing reference))
    | .ok (some entry) => planEntry catalog reviewThreshold model entry

/-- `plan_price_sync`. -/
def planPriceSync (catalog : CompositeCatalog) (now : Int) (models : List ManagedModel)
    (only : Option (List UUID)) (reviewThreshold : ℚ) : List ModelPriceUpdate :=
  (models.filter fun model =>
    (∀ selected ∈ only, model.id ∈ selected) ∧ model.priceSource ≠ .manual).map
      (planOne catalog now reviewThreshold)

/-! ## What stays within the threshold -/

/-- A bucket keeps its price, or moves from a positive one by at most a part of it. -/
def Within (reviewThreshold : ℚ) (old new : Option ℚ) : Prop :=
  new = old ∨ ∃ baseline current, old = some baseline ∧ new = some current ∧ 0 < baseline ∧
    |current - baseline| ≤ reviewThreshold * baseline

variable {reviewThreshold : ℚ} {old new : Option ℚ}

theorem within_of_move {baseline current : ℚ} (hpos : 0 < baseline)
    (h : ((|current - baseline| / baseline : ℚ) : WithTop ℚ) ≤ reviewThreshold) :
    Within reviewThreshold (some baseline) (some current) := by
  have hle : |current - baseline| / baseline ≤ reviewThreshold := WithTop.coe_le_coe.1 h
  exact .inr ⟨baseline, current, rfl, rfl, hpos, (div_le_iff₀ hpos).1 hle⟩

theorem not_top_le {drift : ℚ} (h : (⊤ : WithTop ℚ) ≤ drift) : False :=
  absurd (top_le_iff.1 h) (WithTop.coe_ne_top)

theorem within_of_bucketDrift (hchecked : ∀ price ∈ old, 0 ≤ price)
    (h : ∀ drift, bucketDrift true old new = some drift → drift ≤ reviewThreshold) :
    Within reviewThreshold old new := by
  unfold bucketDrift at h
  by_cases hsame : old = new
  · exact .inl hsame.symm
  · simp only [if_neg hsame] at h
    cases old with
    | none => exact (not_top_le (h ⊤ rfl)).elim
    | some baseline =>
        cases new with
        | none => exact (not_top_le (h ⊤ rfl)).elim
        | some current =>
            have hle := h _ rfl
            by_cases hzero : baseline = 0
            · rw [if_pos hzero] at hle
              exact (not_top_le hle).elim
            · rw [if_neg hzero] at hle
              exact within_of_move (lt_of_le_of_ne (hchecked baseline rfl) (Ne.symm hzero)) hle

theorem within_of_tierBucketDrift (hchecked : ∀ price ∈ old, 0 ≤ price)
    (h : tierBucketDrift old new ≤ reviewThreshold) : Within reviewThreshold old new := by
  unfold tierBucketDrift at h
  split at h
  next => exact (not_top_le h).elim
  next hsame =>
    by_cases heq : old = new
    · exact .inl heq.symm
    · rw [not_and_or, not_or, not_or] at hsame
      obtain ⟨hold, hnew, hzero⟩ := hsame.resolve_left (not_not.2 heq)
      obtain ⟨baseline, rfl⟩ := Option.ne_none_iff_exists'.1 hold
      obtain ⟨current, rfl⟩ := Option.ne_none_iff_exists'.1 hnew
      have hpos : 0 < baseline :=
        lt_of_le_of_ne (hchecked baseline rfl) fun h => hzero (congrArg some h.symm)
      simp only [if_pos hpos] at h
      exact within_of_move hpos h

/-! ## What the loops find -/

theorem le_furtherMove {worst : Option (Bucket × WithTop ℚ)} {bucket : Bucket}
    {drift : Option (WithTop ℚ)} {move : Bucket × WithTop ℚ} (h : worst = some move) :
    ∃ further, furtherMove worst bucket drift = some further ∧ move.2 ≤ further.2 := by
  subst h
  cases drift with
  | none => exact ⟨move, rfl, le_rfl⟩
  | some drift =>
      refine ⟨_, rfl, ?_⟩
      split_ifs with hlt
      · exact hlt.le
      · exact le_rfl

theorem furtherMove_ge (worst : Option (Bucket × WithTop ℚ)) (bucket : Bucket)
    (drift : WithTop ℚ) :
    ∃ further, furtherMove worst bucket (some drift) = some further ∧ drift ≤ further.2 := by
  cases worst with
  | none => exact ⟨_, rfl, le_rfl⟩
  | some other =>
      refine ⟨_, rfl, ?_⟩
      split_ifs with hlt
      · exact le_rfl
      · exact not_lt.1 hlt

theorem foldl_furtherMove {f : Bucket → Option (WithTop ℚ)} (l : List Bucket)
    (worst : Option (Bucket × WithTop ℚ)) :
    (∀ move, worst = some move → ∃ further,
        l.foldl (fun worst bucket => furtherMove worst bucket (f bucket)) worst = some further ∧
          move.2 ≤ further.2) ∧
      ∀ bucket ∈ l, ∀ drift, f bucket = some drift → ∃ further,
        l.foldl (fun worst bucket => furtherMove worst bucket (f bucket)) worst = some further ∧
          drift ≤ further.2 := by
  induction l generalizing worst with
  | nil =>
      refine ⟨fun move hmove => ⟨move, hmove, le_rfl⟩, fun bucket hbucket => ?_⟩
      cases hbucket
  | cons first l ih =>
      obtain ⟨hkeeps, hfinds⟩ := ih (furtherMove worst first (f first))
      constructor
      · intro move hmove
        obtain ⟨further, hfurther, hle⟩ :
            ∃ further, furtherMove worst first (f first) = some further ∧ move.2 ≤ further.2 :=
          le_furtherMove hmove
        obtain ⟨last, hlast, hle'⟩ := hkeeps further hfurther
        exact ⟨last, hlast, hle.trans hle'⟩
      · intro bucket hbucket drift hdrift
        rcases List.mem_cons.1 hbucket with rfl | hbucket
        · obtain ⟨further, hfurther, hle⟩ := furtherMove_ge worst bucket drift
          obtain ⟨last, hlast, hle'⟩ := hkeeps further (by rw [hdrift, hfurther])
          exact ⟨last, hlast, hle.trans hle'⟩
        · exact hfinds bucket hbucket drift hdrift

/-- No bucket moved further than the largest drift. -/
theorem le_largestDrift {baseline current : BucketPrices} {bucket : Bucket} {drift : WithTop ℚ}
    (h : bucketDrift (decide baseline.Priced) (baseline.get bucket) (current.get bucket) =
      some drift) :
    ∃ further, largestDrift baseline current = some further ∧ drift ≤ further.2 :=
  (foldl_furtherMove Bucket.all none).2 bucket (Bucket.mem_all bucket) drift h

theorem le_foldl {α β : Type} [Preorder β] {f : β → α → β} (hf : ∀ b a, b ≤ f b a) (l : List α)
    (b : β) : b ≤ l.foldl f b := by
  induction l generalizing b with
  | nil => exact le_rfl
  | cons a l ih => exact (hf b a).trans (ih (f b a))

theorem le_foldl_of_mem {α β : Type} [Preorder β] {f : β → α → β} (hf : ∀ b a, b ≤ f b a)
    {l : List α} {a : α} (ha : a ∈ l) {c : β} (hc : ∀ b, c ≤ f b a) (b : β) :
    c ≤ l.foldl f b := by
  induction l generalizing b with
  | nil => cases ha
  | cons first l ih =>
      rcases List.mem_cons.1 ha with rfl | ha
      · exact (hc b).trans (le_foldl hf l (f b a))
      · exact ih ha (f b first)

/-- No bucket of a tier moved further than the drift of the tiers. -/
theorem le_contextDrift {previous updated : List StoredContextPriceTier}
    {tier old : StoredContextPriceTier} (htier : tier ∈ updated)
    (hold : previousTier? previous tier.key = some old) (bucket : Bucket) :
    tierBucketDrift (old.listPrices.get bucket) (tier.listPrices.get bucket) ≤
      contextDrift previous updated := by
  refine le_foldl_of_mem (fun drift other => ?_) htier (fun drift => ?_) 0
  · split
    · exact le_rfl
    · exact le_foldl (fun drift bucket => le_max_left _ _) _ _
  · rw [hold]
    let moved : Bucket → WithTop ℚ := fun bucket =>
      tierBucketDrift (old.listPrices.get bucket) (tier.listPrices.get bucket)
    exact le_foldl_of_mem (f := fun drift bucket => max drift (moved bucket))
      (fun drift bucket => le_max_left drift (moved bucket)) (Bucket.mem_all bucket)
      (fun drift => le_max_right drift (moved bucket)) drift

/-! ## What a tier is compared with -/

section Tiers

variable {previous updated : List StoredContextPriceTier} {tier old : StoredContextPriceTier}

theorem key_of_previousTier? (h : previousTier? previous tier.key = some old) :
    old ∈ previous ∧ old.key = tier.key := by
  have hkey := Rows.key_of_find? h
  exact ⟨List.mem_reverse.1 (Rows.mem_of_find? h), hkey⟩

theorem previousTier?_eq_some (hnodup : (previous.map (·.key)).Nodup) (h : old ∈ previous) :
    previousTier? previous old.key = some old := by
  have hreverse : (previous.reverse.map (·.key)).Nodup := by
    rw [List.map_reverse]
    exact List.nodup_reverse.2 hnodup
  exact (Rows.find?_eq_some hreverse).2 ⟨List.mem_reverse.2 h, rfl⟩

/-- What `changed_rules` is false of. -/
structure SameRules (previous updated : List StoredContextPriceTier) : Prop where
  fresh : ∀ tier ∈ updated, tier.key ∈ previous.map (·.key)
  kept : ∀ tier ∈ previous, tier.key ∈ updated.map (·.key)
  rules : ∀ tier ∈ updated, ∃ old, previousTier? previous tier.key = some old ∧
    old.rule = tier.rule

theorem sameRules_of_not_changed (h : changedRules previous updated = false) :
    SameRules previous updated := by
  rw [changedRules, Bool.or_eq_false_iff, Bool.not_eq_false', Bool.and_eq_true,
    decide_eq_true_eq, decide_eq_true_eq, List.any_eq_false] at h
  obtain ⟨⟨hfresh, hkept⟩, hrules⟩ := h
  refine ⟨hfresh, hkept, fun tier htier => ?_⟩
  have hsame : (previousTier? previous tier.key).map (·.rule) = some tier.rule := by
    simpa using hrules tier htier
  exact Option.map_eq_some_iff.1 hsame

/-- Tiers of as many keys have the same keys. -/
theorem SameRules.keys_perm (h : SameRules previous updated)
    (hnodup : (updated.map (·.key)).Nodup) (hlength : previous.length = updated.length) :
    (updated.map (·.key)).Perm (previous.map (·.key)) := by
  have hsubset : updated.map (·.key) ⊆ previous.map (·.key) := by
    intro key hkey
    obtain ⟨tier, htier, rfl⟩ := List.mem_map.1 hkey
    exact h.fresh tier htier
  refine (List.Nodup.subperm hnodup hsubset).perm_of_length_le ?_
  rw [List.length_map, List.length_map, hlength]

/-- The rules are the same. -/
theorem SameRules.rules_perm (h : SameRules previous updated)
    (hnodup : (updated.map (·.key)).Nodup) (hlength : previous.length = updated.length) :
    (updated.map (·.rule)).Perm (previous.map (·.rule)) := by
  have hkeys := h.keys_perm hnodup hlength
  have hprevious : (previous.map (·.key)).Nodup := hkeys.nodup_iff.1 hnodup
  let ruleOf : String → Option _ := fun key => (previousTier? previous key).map (·.rule)
  have hnew : updated.filterMap (fun tier => ruleOf tier.key) = updated.map (·.rule) := by
    rw [← List.filterMap_eq_map]
    refine List.filterMap_congr fun tier htier => ?_
    obtain ⟨old, hold, hrule⟩ := h.rules tier htier
    exact (congrArg (Option.map (·.rule)) hold).trans (congrArg some hrule)
  have hold : previous.filterMap (fun tier => ruleOf tier.key) = previous.map (·.rule) := by
    rw [← List.filterMap_eq_map]
    refine List.filterMap_congr fun tier htier => ?_
    exact congrArg (Option.map (·.rule)) (previousTier?_eq_some hprevious htier)
  have hperm := hkeys.filterMap ruleOf
  rw [List.filterMap_map, List.filterMap_map] at hperm
  rw [← hnew, ← hold]
  exact hperm

end Tiers

/-! ## What a plan writes -/

/-- New prices of the buckets of a model: of a complete entry, within the threshold of those
that were accepted. -/
structure AcceptedPrices (catalog : CompositeCatalog) (reference : PriceReference)
    (reviewThreshold : ℚ) (old new : BucketPrices) : Prop where
  entry : ∃ entry, catalog.lookup reference = .ok (some entry) ∧ entry.complete = true ∧
    entry.prices.Priced ∧ new = entry.prices
  within : old.Priced → ∀ bucket, Within reviewThreshold (old.get bucket) (new.get bucket)

/-- New tiers of a model: with the same rules, of complete entries, and within the threshold of
those that were accepted. -/
structure AcceptedTiers (catalog : CompositeCatalog) (discountPercent : Option ℚ)
    (reviewThreshold : ℚ) (previous updated : List StoredContextPriceTier) : Prop where
  rules : (updated.map (·.rule)).Perm (previous.map (·.rule))
  ordered : (previous.Pairwise fun a b => a.minInputTokens < b.minInputTokens) →
    updated.map (·.rule) = previous.map (·.rule)
  published : ∀ tier ∈ updated, tier.From catalog discountPercent
  within : ∀ tier ∈ updated, ∃ old ∈ previous, old.rule = tier.rule ∧
    ∀ bucket, Within reviewThreshold (old.listPrices.get bucket) (tier.listPrices.get bucket)

section Plans

variable {catalog : CompositeCatalog} {now : Int} {model : ManagedModel}

theorem planEntry_against {entry : CatalogEntry} :
    (planEntry catalog reviewThreshold model entry).modelId = model.id ∧
      (planEntry catalog reviewThreshold model entry).expected = model.configuration := by
  unfold planEntry
  split
  · exact ⟨rfl, rfl⟩
  · split
    · exact ⟨rfl, rfl⟩
    · split
      · exact ⟨rfl, rfl⟩
      · split <;> exact ⟨rfl, rfl⟩

/-- Every decision carries what it was made against. -/
theorem planOne_against :
    (planOne catalog now reviewThreshold model).modelId = model.id ∧
      (planOne catalog now reviewThreshold model).expected = model.configuration := by
  unfold planOne
  split_ifs
  · unfold planContext
    split
    · exact ⟨rfl, rfl⟩
    · split_ifs <;> exact ⟨rfl, rfl⟩
  · dsimp only
    split
    · exact ⟨rfl, rfl⟩
    · exact ⟨rfl, rfl⟩
    · exact planEntry_against

/-- An entry that is not held for review is within the threshold. -/
theorem within_of_reviewedMove {entry : CatalogEntry}
    (h : reviewedMove reviewThreshold model entry = none) (haccepted : model.listPrices.Priced)
    (hchecked : model.listPrices.Checked) (bucket : Bucket) :
    Within reviewThreshold (model.listPrices.get bucket) (entry.prices.get bucket) := by
  refine within_of_bucketDrift (hchecked bucket) fun drift hdrift => ?_
  rw [← decide_eq_true haccepted] at hdrift
  obtain ⟨further, hfurther, hle⟩ := le_largestDrift hdrift
  rw [reviewedMove, hfurther, Option.filter_eq_none_iff] at h
  have hlast := h further rfl
  rw [decide_eq_true_eq, not_lt] at hlast
  exact hle.trans hlast

/-- What is written of a model without tiers. -/
theorem planOne_flat (hflat : model.contextPriceTiers = []) (hchecked : model.listPrices.Checked)
    (hwrites : (planOne catalog now reviewThreshold model).writes = true) :
    (planOne catalog now reviewThreshold model).contextPriceTiers = none ∧
      (planOne catalog now reviewThreshold model).charged =
        (planOne catalog now reviewThreshold model).listed.discounted
          model.effectiveDiscountPercent ∧
      AcceptedPrices catalog (model.priceReference.getD [""]) reviewThreshold model.listPrices
        (planOne catalog now reviewThreshold model).listed := by
  have hcontext : ¬model.contextPriceTiers ≠ [] := not_not.2 hflat
  unfold planOne at hwrites ⊢
  simp only [if_neg hcontext] at hwrites ⊢
  split at hwrites
  next => cases hwrites
  next => cases hwrites
  next entry hentry =>
    unfold planEntry at hwrites ⊢
    split at hwrites
    next => cases hwrites
    next hpriced =>
      split at hwrites
      next => cases hwrites
      next hcomplete =>
        split at hwrites
        next => cases hwrites
        next htier =>
          split at hwrites
          next => cases hwrites
          next hmove =>
            rw [if_neg hpriced, if_neg hcomplete, if_neg htier]
            rw [Bool.not_eq_false] at hcomplete
            refine ⟨rfl, rfl, ?_⟩
            exact ⟨⟨entry, hentry, hcomplete, not_not.1 hpriced, rfl⟩,
              fun haccepted => within_of_reviewedMove hmove haccepted hchecked⟩

/-- What is written of a model with tiers. -/
theorem planOne_context (hcontext : model.contextPriceTiers ≠ [])
    (hreferences : model.contextPriceReferences = model.contextPriceTiers.map (·.reference))
    (hchecked : ∀ tier ∈ model.contextPriceTiers, tier.listPrices.Checked)
    (hwrites : (planOne catalog now reviewThreshold model).writes = true) :
    ∃ updated, (planOne catalog now reviewThreshold model).contextPriceTiers = some updated ∧
      (planOne catalog now reviewThreshold model).listed = .empty ∧
      AcceptedTiers catalog model.effectiveDiscountPercent reviewThreshold
        model.contextPriceTiers updated := by
  unfold planOne at hwrites ⊢
  rw [if_pos hcontext] at hwrites ⊢
  unfold planContext at hwrites ⊢
  split at hwrites
  next => cases hwrites
  next updated hresolved =>
    split at hwrites
    next => cases hwrites
    next hmoved =>
      rw [if_neg hmoved]
      rw [not_or, Bool.not_eq_true, not_lt] at hmoved
      obtain ⟨hrules, hdrift⟩ := hmoved
      have hsame := sameRules_of_not_changed hrules
      obtain ⟨hperm, hpublished, hnodup, hordered⟩ := resolveContextPrices_eq_ok hresolved
      have hlength : model.contextPriceTiers.length = updated.length := by
        have hlength := hperm.length_eq
        rw [hreferences, List.length_map, List.length_map] at hlength
        exact hlength.symm
      have hrulesPerm := hsame.rules_perm hnodup hlength
      refine ⟨updated, rfl, rfl, hrulesPerm, fun hsorted => ?_, hpublished, ?_⟩
      · have hnew : (updated.map (·.rule)).Pairwise fun a b => a.2.1 < b.2.1 :=
          List.pairwise_map.2 hordered
        have hold : (model.contextPriceTiers.map (·.rule)).Pairwise fun a b => a.2.1 < b.2.1 :=
          List.pairwise_map.2 hsorted
        exact List.Perm.eq_of_pairwise (fun a b _ _ hab hba => absurd hab hba.asymm) hnew hold
          hrulesPerm
      · intro tier htier
        obtain ⟨old, hold, hrule⟩ := hsame.rules tier htier
        have hmem := (key_of_previousTier? hold).1
        refine ⟨old, hmem, hrule, fun bucket => ?_⟩
        exact within_of_tierBucketDrift (hchecked old hmem bucket)
          ((le_contextDrift htier hold bucket).trans hdrift)

end Plans

end Turnstile.Pricing
