import Turnstile.Foundation.Ranking
import Turnstile.Pricing.AzureRetail

/-!
# References of the retail catalog

What a region is charged follows from the rows: in each bucket the price of the last row of
that deployment, region and bucket (`regionRates`).  The options of a model group the regions
that are priced, each in one option (`options_partition`), and a reference to a region resolves
to the rates of that region in whatever is read when it is resolved (`resolve_region`).
-/

namespace Turnstile.Pricing

open Guard Procedure

/-! ## Texts without a colon -/

/-- The text has no colon. -/
def Colonless (text : String) : Prop := ':' ∉ text.toList

instance (text : String) : Decidable (Colonless text) := inferInstanceAs (Decidable (¬_))

theorem splitColon_of_colonless {text : String} (h : Colonless text) :
    splitColon text = [text] := by
  have hsplit : text.toList.splitOn ':' = [text.toList] :=
    List.splitOnP_eq_singleton fun c hc => beq_eq_false_iff_ne.2 fun heq => h (heq ▸ hc)
  rw [splitColon, hsplit, List.map_singleton, String.ofList_toList]

theorem joined_of_colonless {texts : List String} (h : ∀ text ∈ texts, Colonless text) :
    joined texts = texts := by
  induction texts with
  | nil => rfl
  | cons text rest ih =>
      have hrest : rest.flatMap splitColon = rest :=
        ih fun t ht => h t (List.mem_cons_of_mem text ht)
      rw [joined, List.flatMap_cons, splitColon_of_colonless (h text List.mem_cons_self), hrest]
      rfl

theorem Deployment.colonless (deployment : Deployment) : Colonless deployment.text := by
  cases deployment <;> decide

/-! ## Rates of a region -/

section Rates

variable (python : MeterText) (product label : String) (rows : List PriceRow)

/-- The price of a region in a bucket: that of the last row. -/
def slotPrice (deployment : Deployment) (region : String) (slot : Bucket) : Option ℚ :=
  (((meters python label rows).filter fun meter =>
    meter.deployment = deployment ∧ meter.region = region ∧ meter.slot = slot).getLast?).map
      (·.perMillion)

/-- What a region is charged under a deployment, if it has an input and an output price. -/
def regionRates (deployment : Deployment) (region : String) : Option BucketPrices :=
  ratesOf product label {
    input := slotPrice python label rows deployment region .input
    output := slotPrice python label rows deployment region .output
    cached := slotPrice python label rows deployment region .cached
    cacheWrite := slotPrice python label rows deployment region .cacheWrite }

variable {python product label rows} {deployment : Deployment} {region : String}

theorem get_foldl_put (slot : Bucket) (l : List ParsedMeter) (start : BucketPrices) :
    (l.foldl (fun prices meter => prices.put meter.slot meter.perMillion) start).get slot
      = (((l.filter fun meter => meter.slot = slot).getLast?).map (·.perMillion)).or
        (start.get slot) := by
  induction l generalizing start with
  | nil => rfl
  | cons meter rest ih =>
      rw [List.foldl_cons, ih, BucketPrices.get_put]
      by_cases h : meter.slot = slot
      · subst h
        cases hlast : (rest.filter fun m => m.slot = meter.slot).getLast? <;>
          simp [List.getLast?_cons, hlast]
      · have hne : slot ≠ meter.slot := fun heq => h heq.symm
        simp [h, hne]

/-- What is collected for a region. -/
theorem get_buckets :
    (Dictionary.get (deployment, region) (buckets python label rows)).getD .empty
      = { input := slotPrice python label rows deployment region .input
          output := slotPrice python label rows deployment region .output
          cached := slotPrice python label rows deployment region .cached
          cacheWrite := slotPrice python label rows deployment region .cacheWrite } := by
  rw [buckets, Dictionary.get_collect]
  rw [Dictionary.foldl_some_eq
    (fun (prices : BucketPrices) (meter : ParsedMeter) => prices.put meter.slot meter.perMillion)]
  have hget : ∀ slot, ((((meters python label rows).filter fun meter =>
      (meter.deployment, meter.region) = (deployment, region)).foldl
        (fun prices meter => prices.put meter.slot meter.perMillion) BucketPrices.empty).get slot)
      = slotPrice python label rows deployment region slot := by
    intro slot
    rw [get_foldl_put, BucketPrices.get_empty, Option.or_none, slotPrice, List.filter_filter]
    congr 3
    funext meter
    by_cases h : meter.slot = slot <;> simp [h, Prod.ext_iff]
  refine BucketPrices.ext_get fun slot => ?_
  have hslot := hget slot
  split
  next hnone =>
    rw [hnone] at hslot
    cases slot <;> exact hslot
  next => cases slot <;> exact hslot

theorem nodup_buckets (python : MeterText) (label : String) (rows : List PriceRow) :
    ((buckets python label rows).map Prod.fst).Nodup :=
  Dictionary.nodup_collect _ _ _

theorem ratesOf_empty : ratesOf product label .empty = none := by
  simp [ratesOf, BucketPrices.empty]

/-- Rates have the input price of their bucket. -/
theorem input_of_ratesOf {prices rates : BucketPrices}
    (h : ratesOf product label prices = some rates) :
    rates.input = prices.input ∧ rates.input.isSome = true := by
  simp only [ratesOf, Option.ite_none_right_eq_some, Option.some.injEq] at h
  obtain ⟨⟨hinput, -⟩, rfl⟩ := h
  exact ⟨rfl, hinput⟩

theorem mem_pricedRegions {p : PricedRegion} :
    p ∈ pricedRegions python product label rows
      ↔ regionRates python product label rows p.deployment p.region = some p.rates := by
  have hrates : regionRates python product label rows p.deployment p.region
      = ratesOf product label
        ((Dictionary.get (p.deployment, p.region) (buckets python label rows)).getD .empty) := by
    rw [get_buckets, regionRates]
  rw [hrates, pricedRegions, List.mem_filterMap]
  constructor
  · rintro ⟨⟨key, prices⟩, hmem, hp⟩
    obtain ⟨rates, hsome, rfl⟩ := Option.map_eq_some_iff.1 hp
    have hget : Dictionary.get key (buckets python label rows) = some prices :=
      (Dictionary.mem_iff_get (nodup_buckets _ _ _)).1 hmem
    change ratesOf product label ((Dictionary.get key (buckets python label rows)).getD .empty)
      = some rates
    rw [hget]
    exact hsome
  · intro h
    cases hlookup : Dictionary.get (p.deployment, p.region) (buckets python label rows) with
    | none =>
        rw [hlookup, Option.getD_none, ratesOf_empty] at h
        cases h
    | some prices =>
        rw [hlookup] at h
        exact ⟨_, (Dictionary.mem_iff_get (nodup_buckets _ _ _)).2 hlookup,
          Option.map_eq_some_iff.2 ⟨_, h, rfl⟩⟩

theorem priced_iff {rates : BucketPrices} :
    ⟨deployment, region, rates⟩ ∈ pricedRegions python product label rows
      ↔ regionRates python product label rows deployment region = some rates :=
  mem_pricedRegions

theorem nodup_pricedRegions :
    ((pricedRegions python product label rows).map fun p => (p.deployment, p.region)).Nodup := by
  rw [pricedRegions, List.Nodup, List.pairwise_map, List.pairwise_filterMap]
  refine (List.pairwise_map.1 (nodup_buckets python label rows)).imp
    fun {a b} hne p hp q hq hkey => hne ?_
  obtain ⟨_, _, rfl⟩ := Option.map_eq_some_iff.1 hp
  obtain ⟨_, _, rfl⟩ := Option.map_eq_some_iff.1 hq
  exact hkey

end Rates

/-! ## Options -/

section Options

variable (python : MeterText) (model : PublishedModel) (complete textToImage : Bool)
  (priced : List PricedRegion)

/-- The regions of a deployment that charge some rates. -/
def regionsAt (deployment : Deployment) (rates : BucketPrices) : List String :=
  ((priced.filter (·.deployment = deployment)).filter (·.rates = rates)).map (·.region)

/-- The option of a deployment for some rates. -/
def optionAt (deployment : Deployment) (rates : BucketPrices) : PublishedOption :=
  azureOption python model complete textToImage deployment
    (1 < (groupRegions (priced.filter (·.deployment = deployment))).length)
    (rates, regionsAt priced deployment rates)

variable {python model complete textToImage priced} {deployment : Deployment}
  {rates : BucketPrices} {option : PublishedOption} {region : String}

theorem foldl_append_region (l : List PricedRegion) (start : List String) :
    l.foldl (fun regions p => regions ++ [p.region]) start = start ++ l.map (·.region) := by
  induction l generalizing start with
  | nil => rw [List.foldl_nil, List.map_nil, List.append_nil]
  | cons p rest ih =>
      rw [List.foldl_cons, ih, List.map_cons, List.append_assoc, List.singleton_append]

/-- The groups are those of the rates that some region charges. -/
theorem mem_groupRegions {l : List PricedRegion} {group : BucketPrices × List String} :
    group ∈ groupRegions l ↔ (∃ p ∈ l, p.rates = group.1) ∧
      group.2 = (l.filter (·.rates = group.1)).map (·.region) := by
  rw [← Prod.mk.eta (p := group), groupRegions,
    Dictionary.mem_iff_get (Dictionary.nodup_collect _ _ _), Dictionary.get_collect,
    Dictionary.foldl_some_eq (fun (regions : List String) (p : PricedRegion) =>
        regions ++ [p.region]),
    foldl_append_region, List.nil_append]
  split
  next hnone =>
    refine ⟨nofun, fun h => ?_⟩
    obtain ⟨p, hp, hrates⟩ := h.1
    exact absurd (decide_eq_true hrates) (List.filter_eq_nil_iff.1 hnone p hp)
  next hsome =>
    obtain ⟨p, hp⟩ := List.exists_mem_of_ne_nil _ hsome
    rw [List.mem_filter, decide_eq_true_eq] at hp
    rw [Option.some.injEq]
    exact ⟨fun h => ⟨⟨p, hp⟩, h.symm⟩, fun h => h.2.symm⟩

theorem mem_byDeployment {entry : Deployment × List (BucketPrices × List String)} :
    entry ∈ byDeployment priced ↔ (∃ p ∈ priced, p.deployment = entry.1) ∧
      entry.2 = groupRegions (priced.filter (·.deployment = entry.1)) := by
  rw [← Prod.mk.eta (p := entry), byDeployment,
    Dictionary.mem_iff_get (Dictionary.nodup_collect _ _ _), Dictionary.get_collect,
    Dictionary.foldl_some_eq (fun (groups : List (BucketPrices × List String)) (p : PricedRegion) =>
      Dictionary.update p.rates (fun regions => regions.getD [] ++ [p.region]) groups)]
  split
  next hnone =>
    refine ⟨nofun, fun h => ?_⟩
    obtain ⟨p, hp, hdeployment⟩ := h.1
    exact absurd (decide_eq_true hdeployment) (List.filter_eq_nil_iff.1 hnone p hp)
  next hsome =>
    obtain ⟨p, hp⟩ := List.exists_mem_of_ne_nil _ hsome
    rw [List.mem_filter, decide_eq_true_eq] at hp
    rw [Option.some.injEq]
    exact ⟨fun h => ⟨⟨p, hp⟩, h.symm⟩, fun h => h.2.symm⟩

/-- There is one option for each deployment and each of its rates. -/
theorem mem_optionsOf : option ∈ optionsOf python model complete textToImage priced ↔
    ∃ p ∈ priced,
      option = optionAt python model complete textToImage priced p.deployment p.rates := by
  rw [optionsOf, List.mem_flatMap]
  constructor
  · rintro ⟨⟨deployment, groups⟩, hentry, hoption⟩
    obtain ⟨-, hgroups⟩ := mem_byDeployment.1 hentry
    obtain ⟨group, hgroup, rfl⟩ := List.mem_map.1 hoption
    dsimp only at hgroups hgroup ⊢
    rw [hgroups] at hgroup ⊢
    obtain ⟨⟨p, hp, hrates⟩, hregions⟩ := mem_groupRegions.1 hgroup
    obtain ⟨hmem, hdeployment⟩ := List.mem_filter.1 hp
    rw [decide_eq_true_eq] at hdeployment
    refine ⟨p, hmem, ?_⟩
    rw [optionAt, hdeployment, hrates, regionsAt, ← hregions]
  · rintro ⟨p, hp, rfl⟩
    refine ⟨(p.deployment, groupRegions (priced.filter (·.deployment = p.deployment))),
      mem_byDeployment.2 ⟨⟨p, hp, rfl⟩, rfl⟩,
      List.mem_map.2 ⟨(p.rates, regionsAt priced p.deployment p.rates), ?_, rfl⟩⟩
    refine mem_groupRegions.2 ⟨⟨p, ?_, rfl⟩, rfl⟩
    exact List.mem_filter.2 ⟨hp, decide_eq_true rfl⟩

theorem nodup_optionsOf (python : MeterText) (model : PublishedModel) (complete textToImage : Bool)
    (priced : List PricedRegion) :
    ((optionsOf python model complete textToImage priced).map fun option =>
      (option.deployment, option.entry.prices)).Nodup := by
  rw [optionsOf, List.Nodup, List.pairwise_map, List.pairwise_flatMap]
  constructor
  · intro entry hentry
    obtain ⟨-, hgroups⟩ := mem_byDeployment.1 hentry
    rw [List.pairwise_map, hgroups]
    have hnodup := Dictionary.nodup_collect PricedRegion.rates
      (fun (regions : Option (List String)) p => regions.getD [] ++ [p.region])
      (priced.filter (·.deployment = entry.1))
    exact (List.pairwise_map.1 hnodup).imp fun hne heq => hne (Prod.mk.inj heq).2
  · have hnodup := Dictionary.nodup_collect PricedRegion.deployment
      (fun (groups : Option (List (BucketPrices × List String))) p =>
        Dictionary.update p.rates (fun regions => regions.getD [] ++ [p.region]) (groups.getD []))
      priced
    refine (List.pairwise_map.1 hnodup).imp fun {a b} hne x hx y hy heq => hne ?_
    obtain ⟨_, _, rfl⟩ := List.mem_map.1 hx
    obtain ⟨_, _, rfl⟩ := List.mem_map.1 hy
    exact Deployment.text_injective (Prod.mk.inj heq).1

theorem mem_regionsAt : region ∈ regionsAt priced deployment rates ↔
    ⟨deployment, region, rates⟩ ∈ priced := by
  rw [regionsAt, List.mem_map]
  constructor
  · rintro ⟨⟨d, r, prices⟩, hp, rfl⟩
    obtain ⟨hp, hrates⟩ := List.mem_filter.1 hp
    obtain ⟨hp, hdeployment⟩ := List.mem_filter.1 hp
    rw [decide_eq_true_eq] at hrates hdeployment
    rw [← hrates, ← hdeployment]
    exact hp
  · intro hp
    exact ⟨_, List.mem_filter.2 ⟨List.mem_filter.2 ⟨hp, decide_eq_true rfl⟩, decide_eq_true rfl⟩,
      rfl⟩

@[simp] theorem mem_regions_optionAt :
    region ∈ (optionAt python model complete textToImage priced deployment rates).regions
      ↔ ⟨deployment, region, rates⟩ ∈ priced :=
  (List.mem_insertionSort _).trans mem_regionsAt

/-- The regions of a deployment that are priced do not all charge alike. -/
def Varies (priced : List PricedRegion) (deployment : Deployment) : Prop :=
  ∃ p ∈ priced, ∃ q ∈ priced, p.deployment = deployment ∧ q.deployment = deployment ∧
    p.rates ≠ q.rates

theorem regionRequired_optionAt :
    (optionAt python model complete textToImage priced deployment rates).regionRequired = true
      ↔ Varies priced deployment := by
  change decide (1 < (groupRegions (priced.filter (·.deployment = deployment))).length) = true ↔ _
  have hnodup : ((groupRegions (priced.filter (·.deployment = deployment))).map Prod.fst).Nodup :=
    Dictionary.nodup_collect _ _ _
  have hmem : ∀ r, r ∈ (groupRegions (priced.filter (·.deployment = deployment))).map Prod.fst
      ↔ ∃ p ∈ priced, p.deployment = deployment ∧ p.rates = r := by
    intro r
    rw [List.mem_map]
    constructor
    · rintro ⟨group, hgroup, rfl⟩
      obtain ⟨⟨p, hp, hrates⟩, -⟩ := mem_groupRegions.1 hgroup
      obtain ⟨hp, hdeployment⟩ := List.mem_filter.1 hp
      exact ⟨p, hp, of_decide_eq_true hdeployment, hrates⟩
    · rintro ⟨p, hp, hdeployment, rfl⟩
      exact ⟨(p.rates, regionsAt priced deployment p.rates), mem_groupRegions.2
        ⟨⟨p, List.mem_filter.2 ⟨hp, decide_eq_true hdeployment⟩, rfl⟩, rfl⟩, rfl⟩
  rw [decide_eq_true_eq, ← List.length_map (f := Prod.fst)]
  constructor
  · intro hlength
    generalize (groupRegions (priced.filter (·.deployment = deployment))).map Prod.fst = keys
      at hnodup hmem hlength
    cases keys with
    | nil => simp at hlength
    | cons first rest =>
        cases rest with
        | nil => simp at hlength
        | cons second rest =>
            obtain ⟨p, hp, hpd, rfl⟩ := (hmem first).1 List.mem_cons_self
            obtain ⟨q, hq, hqd, rfl⟩ := (hmem second).1 (List.mem_cons_of_mem _ List.mem_cons_self)
            refine ⟨p, hp, q, hq, hpd, hqd, fun heq => ?_⟩
            rw [heq] at hnodup
            exact (List.nodup_cons.1 hnodup).1 List.mem_cons_self
  · rintro ⟨p, hp, q, hq, hpd, hqd, hne⟩
    have hsub : [p.rates, q.rates].Subperm
        ((groupRegions (priced.filter (·.deployment = deployment))).map Prod.fst) := by
      refine List.subperm_of_subset (by simpa using hne) ?_
      intro r hr
      rcases List.mem_pair.1 hr with rfl | rfl
      · exact (hmem _).2 ⟨p, hp, hpd, rfl⟩
      · exact (hmem _).2 ⟨q, hq, hqd, rfl⟩
    exact hsub.length_le

/-- A region of a deployment has its rates. -/
theorem rates_unique (hnodup : (priced.map fun p => (p.deployment, p.region)).Nodup)
    {rates' : BucketPrices} (h : ⟨deployment, region, rates⟩ ∈ priced)
    (h' : ⟨deployment, region, rates'⟩ ∈ priced) : rates = rates' :=
  (PricedRegion.mk.inj (List.inj_on_of_nodup_map hnodup h h' rfl)).2.2

/-- A region that is priced is in one option of its deployment. -/
theorem filter_optionsOf (python : MeterText) (model : PublishedModel)
    (complete textToImage : Bool) (hnodup : (priced.map fun p => (p.deployment, p.region)).Nodup)
    (h : ⟨deployment, region, rates⟩ ∈ priced) :
    (optionsOf python model complete textToImage priced).filter
        (fun option => option.deployment = deployment.text ∧ region ∈ option.regions)
      = [optionAt python model complete textToImage priced deployment rates] := by
  have hall : ∀ option, option ∈ (optionsOf python model complete textToImage priced).filter
      (fun option => option.deployment = deployment.text ∧ region ∈ option.regions)
      ↔ option ∈ [optionAt python model complete textToImage priced deployment rates] := by
    intro option
    rw [List.mem_filter, decide_eq_true_eq, List.mem_singleton, mem_optionsOf]
    constructor
    · rintro ⟨⟨p, hp, rfl⟩, hdeployment, hregion⟩
      have hsame : p.deployment = deployment := Deployment.text_injective hdeployment
      rw [mem_regions_optionAt, hsame] at hregion
      rw [hsame, rates_unique hnodup hregion h]
    · rintro rfl
      exact ⟨⟨_, h, rfl⟩, rfl, mem_regions_optionAt.2 h⟩
  have hoptions := (nodup_optionsOf python model complete textToImage priced).of_map
  exact List.perm_singleton.1
    ((List.perm_ext_iff_of_nodup (hoptions.filter _) (List.nodup_singleton _)).2 hall)

theorem head_mem_insertionSort {l : List String} (h : l ≠ []) :
    (l.insertionSort (· ≤ ·)).headD "" ∈ l := by
  cases hsorted : l.insertionSort (· ≤ ·) with
  | nil =>
      have hperm := List.perm_insertionSort (· ≤ ·) l
      rw [hsorted] at hperm
      exact absurd hperm.nil_eq.symm h
  | cons first rest =>
      have hmem : first ∈ l.insertionSort (· ≤ ·) := by
        rw [hsorted]
        exact List.mem_cons_self
      exact (List.mem_insertionSort _).1 hmem

/-- The reference of an option names a region of it, or stands for all regions, where all
charge alike. -/
theorem reference_optionAt (python : MeterText) (complete textToImage : Bool)
    (hproduct : Colonless model.product) (hlabel : Colonless model.label)
    (hregions : ∀ p ∈ priced, Colonless p.region) (hp : ⟨deployment, region, rates⟩ ∈ priced) :
    (¬Varies priced deployment ∧
      (optionAt python model complete textToImage priced deployment rates).reference
        = ["azure_retail", model.product, model.label, deployment.text, "*"]) ∨
      ∃ anchor, ⟨deployment, anchor, rates⟩ ∈ priced ∧
        (optionAt python model complete textToImage priced deployment rates).reference
          = ["azure_retail", model.product, model.label, deployment.text, anchor] := by
  have hjoined : ∀ anchor, Colonless anchor →
      joined ["azure_retail", model.product, model.label, deployment.text, anchor]
        = ["azure_retail", model.product, model.label, deployment.text, anchor] := by
    intro anchor hanchor
    refine joined_of_colonless fun text htext => ?_
    simp only [List.mem_cons, List.not_mem_nil, or_false] at htext
    rcases htext with rfl | rfl | rfl | rfl | rfl
    · decide
    · exact hproduct
    · exact hlabel
    · exact deployment.colonless
    · exact hanchor
  by_cases hrequired :
      (optionAt python model complete textToImage priced deployment rates).regionRequired = true
  · have hne : regionsAt priced deployment rates ≠ [] :=
      List.ne_nil_of_mem (mem_regionsAt.2 hp)
    have hanchor := mem_regionsAt.1 (head_mem_insertionSort hne)
    refine .inr ⟨_, hanchor, ?_⟩
    rw [← hjoined _ (hregions _ hanchor)]
    have hlength : 1 < (groupRegions (priced.filter (·.deployment = deployment))).length :=
      of_decide_eq_true hrequired
    simp only [optionAt, azureOption, hlength, decide_true, if_true]
  · refine .inl ⟨fun hvaries => hrequired (regionRequired_optionAt.2 hvaries), ?_⟩
    rw [← hjoined "*" (by decide)]
    have hlength : ¬1 < (groupRegions (priced.filter (·.deployment = deployment))).length :=
      fun hlength => hrequired (decide_eq_true hlength)
    simp only [optionAt, azureOption, hlength, decide_false, Bool.false_eq_true, if_false]

theorem referencesByRegion_optionAt (hproduct : Colonless model.product)
    (hlabel : Colonless model.label) (hregions : ∀ p ∈ priced, Colonless p.region)
    {entry : String × PriceReference} :
    entry ∈ (optionAt python model complete textToImage priced deployment rates).referencesByRegion
      ↔ ⟨deployment, entry.1, rates⟩ ∈ priced ∧
        entry.2 = ["azure_retail", model.product, model.label, deployment.text, entry.1] := by
  have hjoined : ∀ anchor, ⟨deployment, anchor, rates⟩ ∈ priced →
      joined ["azure_retail", model.product, model.label, deployment.text, anchor]
        = ["azure_retail", model.product, model.label, deployment.text, anchor] := by
    intro anchor hanchor
    refine joined_of_colonless fun text htext => ?_
    simp only [List.mem_cons, List.not_mem_nil, or_false] at htext
    rcases htext with rfl | rfl | rfl | rfl | rfl
    · decide
    · exact hproduct
    · exact hlabel
    · exact deployment.colonless
    · exact hregions _ hanchor
  change entry ∈ ((regionsAt priced deployment rates).insertionSort (· ≤ ·)).map (fun region =>
    (region, joined ["azure_retail", model.product, model.label, deployment.text, region])) ↔ _
  rw [List.mem_map]
  constructor
  · rintro ⟨anchor, hanchor, rfl⟩
    have hmem := mem_regionsAt.1 ((List.mem_insertionSort _).1 hanchor)
    exact ⟨hmem, hjoined _ hmem⟩
  · rintro ⟨hmem, hreference⟩
    refine ⟨entry.1, (List.mem_insertionSort _).2 (mem_regionsAt.2 hmem), ?_⟩
    rw [hjoined _ hmem, ← hreference]

end Options

/-! ## Resolution -/

section Resolution

variable {python : MeterText} {model : PublishedModel} {complete textToImage : Bool}
  {priced : List PricedRegion} {options : List PublishedOption} {deployment : Deployment}
  {rates : BucketPrices} {anchor : String} {entry : PublishedEntry}

/-- An option answers to an anchor. -/
def Answers (deployment anchor : String) (option : PublishedOption) : Prop :=
  option.deployment = deployment ∧
    (anchor = "*" ∧ option.regionRequired = false ∨ anchor ∈ option.regions)

theorem resolve_eq_some (h : resolve deployment.text anchor options = some entry) :
    ∃ option ∈ options, Answers deployment.text anchor option ∧ entry = option.entry := by
  obtain ⟨option, hoption, hentry⟩ := List.exists_of_findSome?_eq_some h
  refine ⟨option, hoption, ?_⟩
  split_ifs at hentry with hdeployment hall hregion
  · exact ⟨⟨not_not.1 hdeployment, .inl hall⟩, (Option.some.inj hentry).symm⟩
  · exact ⟨⟨not_not.1 hdeployment, .inr hregion⟩, (Option.some.inj hentry).symm⟩

theorem exists_resolve {option : PublishedOption} (hoption : option ∈ options)
    (h : Answers deployment.text anchor option) :
    ∃ entry, resolve deployment.text anchor options = some entry := by
  rw [← Option.ne_none_iff_exists']
  intro hnone
  have hentry := List.findSome?_eq_none_iff.1 hnone option hoption
  rw [if_neg (not_not.2 h.1)] at hentry
  rcases h.2 with hall | hregion
  · rw [if_pos hall] at hentry
    cases hentry
  · split_ifs at hentry

/-- What an anchor resolves to: the rates of all regions, if they charge alike, or those of
its region. -/
theorem resolve_iff (hnodup : (priced.map fun p => (p.deployment, p.region)).Nodup)
    (hoptions : ∀ option, option ∈ options
      ↔ option ∈ optionsOf python model complete textToImage priced) :
    (resolve deployment.text anchor options).map (·.prices) = some rates ↔
      ⟨deployment, anchor, rates⟩ ∈ priced ∨
        anchor = "*" ∧ ¬Varies priced deployment ∧
          ∃ region, ⟨deployment, region, rates⟩ ∈ priced := by
  have hanswer : ∀ {entry}, resolve deployment.text anchor options = some entry →
      ⟨deployment, anchor, entry.prices⟩ ∈ priced ∨
        anchor = "*" ∧ ¬Varies priced deployment ∧
          ∃ region, ⟨deployment, region, entry.prices⟩ ∈ priced := by
    intro entry hentry
    obtain ⟨option, hoption, ⟨hdeployment, hanchor⟩, rfl⟩ := resolve_eq_some hentry
    obtain ⟨p, hp, rfl⟩ := mem_optionsOf.1 ((hoptions option).1 hoption)
    have hsame : p.deployment = deployment := Deployment.text_injective hdeployment
    subst hsame
    rcases hanchor with ⟨hall, hrequired⟩ | hregion
    · refine .inr ⟨hall, fun hvaries => ?_, p.region, hp⟩
      rw [regionRequired_optionAt.2 hvaries] at hrequired
      cases hrequired
    · exact .inl (mem_regions_optionAt.1 hregion)
  have hresolve : ∀ {rates'}, ⟨deployment, anchor, rates'⟩ ∈ priced ∨
      anchor = "*" ∧ ¬Varies priced deployment ∧
        (∃ region, ⟨deployment, region, rates'⟩ ∈ priced) →
      ∃ entry, resolve deployment.text anchor options = some entry := by
    rintro rates' (hmem | ⟨rfl, hvaries, region, hmem⟩)
    · exact exists_resolve ((hoptions _).2 (mem_optionsOf.2 ⟨_, hmem, rfl⟩))
        ⟨rfl, .inr (mem_regions_optionAt.2 hmem)⟩
    · refine exists_resolve ((hoptions _).2 (mem_optionsOf.2 ⟨_, hmem, rfl⟩))
        ⟨rfl, .inl ⟨rfl, Bool.eq_false_iff.2 fun hrequired => hvaries ?_⟩⟩
      exact regionRequired_optionAt.1 hrequired
  constructor
  · intro h
    obtain ⟨entry, hentry, rfl⟩ := Option.map_eq_some_iff.1 h
    exact hanswer hentry
  · intro h
    obtain ⟨entry, hentry⟩ := hresolve h
    rw [hentry, Option.map_some, Option.some.injEq]
    rcases h with hmem | ⟨-, hvaries, region, hmem⟩
    · rcases hanswer hentry with hmem' | ⟨-, hvaries, region, hmem'⟩
      · exact rates_unique hnodup hmem' hmem
      · by_contra hne
        exact hvaries ⟨_, hmem', _, hmem, rfl, rfl, hne⟩
    · by_contra hne
      rcases hanswer hentry with hmem' | ⟨-, -, region', hmem'⟩
      · exact hvaries ⟨_, hmem', _, hmem, rfl, rfl, hne⟩
      · exact hvaries ⟨_, hmem', _, hmem, rfl, rfl, hne⟩

end Resolution

end Turnstile.Pricing
