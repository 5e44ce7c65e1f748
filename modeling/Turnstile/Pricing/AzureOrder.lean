import Turnstile.Pricing.AzureReferences

/-!
# The order of the rows

Where the rows of a model agree on each price, the options do not depend on the order of the
rows, as a set (`optionsFrom_order`).  They are sorted by deployment and input price, so that
options that tie in both are in the order in which their regions come in the feed: the list of
the options depends on the order of the rows just where two regions of a deployment have one
input price and different rates (`order_free_iff`).
-/

namespace Turnstile.Pricing

open Guard Procedure

/-- No two rows give different prices for a deployment, a region and a bucket of a model. -/
def Unambiguous (python : MeterText) (label : String) (rows : List PriceRow) : Prop :=
  ∀ a ∈ meters python label rows, ∀ b ∈ meters python label rows,
    a.deployment = b.deployment → a.region = b.region → a.slot = b.slot →
      a.perMillion = b.perMillion

/-- Two regions of a deployment have one input price and different rates. -/
def Tied (python : MeterText) (product label : String) (rows : List PriceRow) : Prop :=
  ∃ deployment region region' rates rates',
    regionRates python product label rows deployment region = some rates ∧
    regionRates python product label rows deployment region' = some rates' ∧
    rates ≠ rates' ∧ rates.input = rates'.input

/-! ## Readings -/

section Readings

variable {python : MeterText} {product label : String} {rows rows' : List PriceRow}

theorem meters_perm (h : rows.Perm rows') :
    (meters python label rows).Perm (meters python label rows') :=
  h.filterMap _

/-- Lists of one value have the same last element, in any order. -/
theorem map_getLast?_of_perm {α β : Type} {f : α → β} {l l' : List α} (h : l.Perm l')
    (hsame : ∀ a ∈ l, ∀ b ∈ l, f a = f b) : l.getLast?.map f = l'.getLast?.map f := by
  cases hlast : l.getLast? with
  | none =>
      rw [List.getLast?_eq_none_iff] at hlast
      subst hlast
      rw [← h.nil_eq]
      rfl
  | some a =>
      have ha : a ∈ l := List.mem_of_getLast? hlast
      cases hlast' : l'.getLast? with
      | none =>
          rw [List.getLast?_eq_none_iff] at hlast'
          subst hlast'
          rw [h.eq_nil] at ha
          cases ha
      | some b =>
          exact congrArg some (hsame a ha b (h.mem_iff.2 (List.mem_of_getLast? hlast')))

theorem slotPrice_order (h : rows.Perm rows') (hone : Unambiguous python label rows)
    (deployment : Deployment) (region : String) (slot : Bucket) :
    slotPrice python label rows deployment region slot
      = slotPrice python label rows' deployment region slot := by
  refine map_getLast?_of_perm ((meters_perm h).filter _) fun a ha b hb => ?_
  obtain ⟨ha, hakey⟩ := List.mem_filter.1 ha
  obtain ⟨hb, hbkey⟩ := List.mem_filter.1 hb
  obtain ⟨had, har, has⟩ := of_decide_eq_true hakey
  obtain ⟨hbd, hbr, hbs⟩ := of_decide_eq_true hbkey
  exact hone a ha b hb (had.trans hbd.symm) (har.trans hbr.symm) (has.trans hbs.symm)

theorem pricedRegions_order (h : rows.Perm rows') (hone : Unambiguous python label rows) :
    (pricedRegions python product label rows).Perm
      (pricedRegions python product label rows') := by
  refine (List.perm_ext_iff_of_nodup nodup_pricedRegions.of_map nodup_pricedRegions.of_map).2
    fun p => ?_
  rw [mem_pricedRegions, mem_pricedRegions, regionRates, regionRates]
  simp only [slotPrice_order h hone]

end Readings

/-! ## Options -/

section Options

variable {python : MeterText} {model : PublishedModel} {complete textToImage : Bool}
  {priced priced' : List PricedRegion}

theorem varies_order (h : priced.Perm priced') (deployment : Deployment) :
    Varies priced deployment ↔ Varies priced' deployment := by
  simp only [Varies, h.mem_iff]

theorem optionAt_order (h : priced.Perm priced') (deployment : Deployment) (rates : BucketPrices) :
    optionAt python model complete textToImage priced deployment rates
      = optionAt python model complete textToImage priced' deployment rates := by
  have hrequired : decide (1 < (groupRegions (priced.filter (·.deployment = deployment))).length)
      = decide (1 < (groupRegions (priced'.filter (·.deployment = deployment))).length) := by
    have hiff : (optionAt python model complete textToImage priced deployment rates).regionRequired
          = true
        ↔ (optionAt python model complete textToImage priced' deployment rates).regionRequired
          = true := by
      rw [regionRequired_optionAt, regionRequired_optionAt, varies_order h]
    exact Bool.eq_iff_iff.2 hiff
  have hregions : (regionsAt priced deployment rates).insertionSort (· ≤ ·)
      = (regionsAt priced' deployment rates).insertionSort (· ≤ ·) := by
    have : Std.Total fun a b : String => a ≤ b := ⟨String.le_total⟩
    have : IsTrans String fun a b => a ≤ b := ⟨fun _ _ _ => String.le_trans⟩
    refine Ranking.insertionSort_congr (((h.filter _).filter _).map _) ?_
    exact fun a _ b _ => String.le_antisymm
  simp only [optionAt, azureOption, hrequired, hregions]

theorem mem_optionsOf_order (h : priced.Perm priced') {option : PublishedOption} :
    option ∈ optionsOf python model complete textToImage priced
      ↔ option ∈ optionsOf python model complete textToImage priced' := by
  simp only [mem_optionsOf, h.mem_iff, optionAt_order h]

theorem optionsOf_order (h : priced.Perm priced') :
    (optionsOf python model complete textToImage priced).Perm
      (optionsOf python model complete textToImage priced') :=
  (List.perm_ext_iff_of_nodup (nodup_optionsOf _ _ _ _ _).of_map
    (nodup_optionsOf _ _ _ _ _).of_map).2
    fun _ => mem_optionsOf_order h

instance : Std.Total SortedBefore where
  total a b := by
    unfold SortedBefore
    rcases lt_trichotomy (deploymentOrder a.deployment) (deploymentOrder b.deployment)
      with h | h | h
    · exact .inl (.inl h)
    · rcases le_total (a.entry.prices.input.getD 0) (b.entry.prices.input.getD 0) with hle | hle
      · exact .inl (.inr ⟨h, hle⟩)
      · exact .inr (.inr ⟨h.symm, hle⟩)
    · exact .inr (.inl h)

instance : IsTrans PublishedOption SortedBefore where
  trans a b c := by
    rintro (hab | ⟨hab, hab'⟩) (hbc | ⟨hbc, hbc'⟩)
    · exact .inl (hab.trans hbc)
    · exact .inl (hbc ▸ hab)
    · exact .inl (hab ▸ hbc)
    · exact .inr ⟨hab.trans hbc, hab'.trans hbc'⟩

theorem deploymentOrder_injective {a b : Deployment}
    (h : deploymentOrder a.text = deploymentOrder b.text) : a = b := by
  cases a <;> cases b <;> first | rfl | exact absurd h (by decide)

/-- Regions that are priced have an input price. -/
def InputPriced (priced : List PricedRegion) : Prop := ∀ p ∈ priced, p.rates.input.isSome

/-- Options that neither comes before the other tie. -/
theorem tied_of_sortedBefore (hinput : InputPriced priced) {a b : PublishedOption}
    (ha : a ∈ optionsOf python model complete textToImage priced)
    (hb : b ∈ optionsOf python model complete textToImage priced)
    (hab : SortedBefore a b) (hba : SortedBefore b a) :
    a.deployment = b.deployment ∧ a.entry.prices.input = b.entry.prices.input := by
  obtain ⟨p, hp, rfl⟩ := mem_optionsOf.1 ha
  obtain ⟨q, hq, rfl⟩ := mem_optionsOf.1 hb
  obtain ⟨x, hx⟩ := Option.isSome_iff_exists.1 (hinput p hp)
  obtain ⟨y, hy⟩ := Option.isSome_iff_exists.1 (hinput q hq)
  change deploymentOrder p.deployment.text < deploymentOrder q.deployment.text ∨
    deploymentOrder p.deployment.text = deploymentOrder q.deployment.text ∧
      p.rates.input.getD 0 ≤ q.rates.input.getD 0 at hab
  change deploymentOrder q.deployment.text < deploymentOrder p.deployment.text ∨
    deploymentOrder q.deployment.text = deploymentOrder p.deployment.text ∧
      q.rates.input.getD 0 ≤ p.rates.input.getD 0 at hba
  change p.deployment.text = q.deployment.text ∧ p.rates.input = q.rates.input
  rw [hx, hy, Option.getD_some, Option.getD_some] at hab hba
  have horder : deploymentOrder p.deployment.text = deploymentOrder q.deployment.text := by omega
  have hle : x ≤ y := (hab.resolve_left (by omega)).2
  have hge : y ≤ x := (hba.resolve_left (by omega)).2
  rw [hx, hy, deploymentOrder_injective horder, le_antisymm hle hge]
  exact ⟨rfl, rfl⟩

theorem sortedBefore_of_tied {a b : PublishedOption} (hdeployment : a.deployment = b.deployment)
    (hinput : a.entry.prices.input = b.entry.prices.input) : SortedBefore a b :=
  .inr ⟨congrArg deploymentOrder hdeployment, by rw [hinput]⟩

end Options

/-! ## Builds -/

section Builds

variable {python : MeterText} {model : PublishedModel} {complete : Bool}
  {rows rows' : List PriceRow} {deployment : Deployment} {region : String} {rates : BucketPrices}

theorem inputPriced_pricedRegions {product label : String} :
    InputPriced (pricedRegions python product label rows) := by
  intro p hp
  exact (input_of_ratesOf (mem_pricedRegions.1 hp)).2

theorem mem_options {option : PublishedOption} :
    option ∈ (optionsFrom python model ⟨rows, complete⟩).options ↔
      option ∈ optionsOf python model complete (readsImages python model.label rows)
        (pricedRegions python model.product model.label rows) :=
  List.mem_insertionSort _

theorem sortedTexts_order {l l' : List String} (h : l.Perm l') :
    sortedTexts l = sortedTexts l' := by
  have : Std.Total fun a b : String => a ≤ b := ⟨String.le_total⟩
  have : IsTrans String fun a b => a ≤ b := ⟨fun _ _ _ => String.le_trans⟩
  exact Ranking.insertionSort_congr h.dedup fun a _ b _ => String.le_antisymm

/-- Two orders of the rows give the same build, up to the order of the options. -/
theorem optionsFrom_order (h : rows.Perm rows') (hone : Unambiguous python model.label rows) :
    (optionsFrom python model ⟨rows, complete⟩).options.Perm
        (optionsFrom python model ⟨rows', complete⟩).options ∧
      optionsFrom python model ⟨rows', complete⟩
        = { optionsFrom python model ⟨rows, complete⟩ with
            options := (optionsFrom python model ⟨rows', complete⟩).options } := by
  have himages : readsImages python model.label rows = readsImages python model.label rows' :=
    h.any_eq
  constructor
  · refine (List.perm_insertionSort _ _).trans
      (List.Perm.trans ?_ (List.perm_insertionSort _ _).symm)
    dsimp only
    rw [himages]
    exact optionsOf_order (pricedRegions_order h hone)
  · simp only [optionsFrom, himages, PublishedOptions.mk.injEq, true_and, and_true]
    exact ⟨(sortedTexts_order (h.filterMap _)).symm, (sortedTexts_order (h.filterMap _)).symm⟩

/-- Options that tie are those of regions that tie. -/
theorem tied_of_options {a b : PublishedOption}
    (ha : a ∈ (optionsFrom python model ⟨rows, complete⟩).options)
    (hb : b ∈ (optionsFrom python model ⟨rows, complete⟩).options) (hne : a ≠ b)
    (hdeployment : a.deployment = b.deployment)
    (hinput : a.entry.prices.input = b.entry.prices.input) :
    Tied python model.product model.label rows := by
  obtain ⟨p, hp, rfl⟩ := mem_optionsOf.1 (mem_options.1 ha)
  obtain ⟨q, hq, rfl⟩ := mem_optionsOf.1 (mem_options.1 hb)
  have hsame : p.deployment = q.deployment := Deployment.text_injective hdeployment
  have hq' := mem_pricedRegions.1 hq
  rw [← hsame] at hq'
  refine ⟨p.deployment, p.region, q.region, p.rates, q.rates, mem_pricedRegions.1 hp, hq', ?_,
    hinput⟩
  intro hrates
  rw [hsame, hrates] at hne
  exact hne rfl

theorem options_of_tied (complete : Bool) (h : Tied python model.product model.label rows) :
    ∃ a ∈ (optionsFrom python model ⟨rows, complete⟩).options,
      ∃ b ∈ (optionsFrom python model ⟨rows, complete⟩).options,
        a ≠ b ∧ a.deployment = b.deployment ∧ a.entry.prices.input = b.entry.prices.input := by
  obtain ⟨deployment, region, region', rates, rates', hrates, hrates', hne, hinput⟩ := h
  refine ⟨_, mem_options.2 (mem_optionsOf.2 ⟨_, priced_iff.2 hrates, rfl⟩), _,
    mem_options.2 (mem_optionsOf.2 ⟨_, priced_iff.2 hrates', rfl⟩), fun heq => ?_, rfl, hinput⟩
  exact hne (congrArg (fun option : PublishedOption => option.entry.prices) heq)

/-- Where no regions tie, the options are one list. -/
theorem options_eq_of_not_tied (h : rows.Perm rows') (hone : Unambiguous python model.label rows)
    (htied : ¬Tied python model.product model.label rows) :
    optionsFrom python model ⟨rows', complete⟩ = optionsFrom python model ⟨rows, complete⟩ := by
  have himages : readsImages python model.label rows = readsImages python model.label rows' :=
    h.any_eq
  have hoptions : (optionsFrom python model ⟨rows', complete⟩).options
      = (optionsFrom python model ⟨rows, complete⟩).options := by
    refine (Ranking.insertionSort_congr ?_ fun a ha b hb hab hba => ?_).symm
    · dsimp only
      rw [himages]
      exact optionsOf_order (pricedRegions_order h hone)
    · by_contra hne
      obtain ⟨hdeployment, hinput⟩ := tied_of_sortedBefore inputPriced_pricedRegions ha hb hab hba
      exact htied (tied_of_options (mem_options.2 ha) (mem_options.2 hb) hne hdeployment hinput)
  rw [(optionsFrom_order h hone).2, hoptions]

end Builds

/-! ## Ties -/

section Ties

variable {python : MeterText} {model : PublishedModel} {complete textToImage : Bool}
  {rows : List PriceRow} {priced : List PricedRegion}

theorem not_nodup_of_both_orders {α : Type} {a b : α} {l : List α} (h : [a, b].Sublist l)
    (h' : [b, a].Sublist l) : ¬l.Nodup := by
  intro hnodup
  induction l with
  | nil => cases h
  | cons c rest ih =>
      obtain ⟨hnew, hrest⟩ := List.nodup_cons.1 hnodup
      cases h with
      | cons _ h =>
          cases h' with
          | cons _ h' => exact ih h h' hrest
          | cons_cons _ h' => exact hnew (h.subset (List.mem_cons_of_mem _ List.mem_cons_self))
      | cons_cons _ h =>
          cases h' with
          | cons _ h' => exact hnew (h'.subset (List.mem_cons_of_mem _ List.mem_cons_self))
          | cons_cons _ h' => exact hnew (h'.subset List.mem_cons_self)

/-- The first option is that of the first region that is priced. -/
theorem exists_optionsOf_cons (python : MeterText) (model : PublishedModel)
    (complete textToImage : Bool) (p : PricedRegion) (rest : List PricedRegion) :
    ∃ options, optionsOf python model complete textToImage (p :: rest)
      = optionAt python model complete textToImage (p :: rest) p.deployment p.rates :: options := by
  obtain ⟨groups, entries, hentries⟩ := Dictionary.exists_collect_cons PricedRegion.deployment
    (fun (groups : Option (List (BucketPrices × List String))) (p : PricedRegion) =>
      Dictionary.update p.rates (fun regions => regions.getD [] ++ [p.region]) (groups.getD []))
    p rest
  have hby : byDeployment (p :: rest) = (p.deployment, groups) :: entries := hentries
  have hgroups : groups = groupRegions ((p :: rest).filter (·.deployment = p.deployment)) := by
    have hmem : (p.deployment, groups) ∈ byDeployment (p :: rest) := by
      rw [hby]
      exact List.mem_cons_self
    exact (mem_byDeployment.1 hmem).2
  obtain ⟨regions, others, hothers⟩ := Dictionary.exists_collect_cons PricedRegion.rates
    (fun (regions : Option (List String)) (p : PricedRegion) => regions.getD [] ++ [p.region])
    p (rest.filter (·.deployment = p.deployment))
  have hfirst : groups = (p.rates, regions) :: others := by
    have hfilter : (p :: rest).filter (·.deployment = p.deployment)
        = p :: rest.filter (·.deployment = p.deployment) :=
      List.filter_cons_of_pos (decide_eq_true rfl)
    rw [hgroups, hfilter]
    exact hothers
  have hregions : regions = regionsAt (p :: rest) p.deployment p.rates := by
    have hmem : (p.rates, regions)
        ∈ groupRegions ((p :: rest).filter (·.deployment = p.deployment)) := by
      rw [← hgroups, hfirst]
      exact List.mem_cons_self
    exact (mem_groupRegions.1 hmem).2
  have hlength : groups.length
      = (groupRegions ((p :: rest).filter (·.deployment = p.deployment))).length := by
    rw [hgroups]
  rw [optionsOf, hby, List.flatMap_cons]
  dsimp only
  rw [hlength, hfirst, List.map_cons, List.cons_append, hregions]
  exact ⟨_, rfl⟩

/-- The row is read as a price of one of the regions of an option. -/
def pricesOption (python : MeterText) (label : String) (option : PublishedOption)
    (row : PriceRow) : Bool :=
  match readRow python label row with
  | .meter parsed _ => parsed.deployment.text = option.deployment ∧ parsed.region ∈ option.regions
  | _ => false

/-- The rows with those of an option first. -/
def optionFirst (python : MeterText) (label : String) (option : PublishedOption)
    (rows : List PriceRow) : List PriceRow :=
  rows.filter (pricesOption python label option) ++
    rows.filter fun row => !pricesOption python label option row

theorem optionFirst_perm (python : MeterText) (label : String) (option : PublishedOption)
    (rows : List PriceRow) :
    (optionFirst python label option rows).Perm rows :=
  List.filter_append_perm _ _

theorem mem_meters {label : String} {meter : ParsedMeter} :
    meter ∈ meters python label rows ↔ ∃ row ∈ rows, ∃ textToImage,
      readRow python label row = .meter meter textToImage := by
  rw [meters, List.mem_filterMap]
  constructor
  · rintro ⟨row, hrow, hmeter⟩
    split at hmeter
    next parsed textToImage hread =>
      obtain rfl := Option.some.inj hmeter
      exact ⟨row, hrow, textToImage, hread⟩
    next => cases hmeter
  · rintro ⟨row, hrow, textToImage, hread⟩
    refine ⟨row, hrow, ?_⟩
    rw [hread]

/-- A region is priced by the meters of its deployment. -/
theorem exists_meter_of_priced {product label : String} {p : PricedRegion}
    (hp : p ∈ pricedRegions python product label rows) :
    ∃ meter ∈ meters python label rows, meter.deployment = p.deployment ∧
      meter.region = p.region := by
  obtain ⟨hinput, hsome⟩ := input_of_ratesOf (mem_pricedRegions.1 hp)
  obtain ⟨price, hprice⟩ := Option.isSome_iff_exists.1 hsome
  have hslot : slotPrice python label rows p.deployment p.region .input = some price :=
    hinput.symm.trans hprice
  obtain ⟨meter, hlast, -⟩ := Option.map_eq_some_iff.1 hslot
  obtain ⟨hmem, hkey⟩ := List.mem_filter.1 (List.mem_of_getLast? hlast)
  rw [decide_eq_true_eq] at hkey
  exact ⟨meter, hmem, hkey.1, hkey.2.1⟩

/-- With its rows first, an option is the first of its build. -/
theorem optionsOf_optionFirst {option : PublishedOption}
    (hone : Unambiguous python model.label rows)
    (hoption : option ∈ optionsOf python model complete textToImage
      (pricedRegions python model.product model.label rows)) :
    ∃ options, optionsOf python model complete textToImage
        (pricedRegions python model.product model.label
          (optionFirst python model.label option rows)) = option :: options := by
  obtain ⟨q, hq, hoptionAt⟩ := mem_optionsOf.1 hoption
  have hdeployment : option.deployment = q.deployment.text := by rw [hoptionAt]; rfl
  have hregion : ∀ region, region ∈ option.regions ↔ ⟨q.deployment, region, q.rates⟩
      ∈ pricedRegions python model.product model.label rows := by
    intro region
    rw [hoptionAt]
    exact mem_regions_optionAt
  have hperm : (pricedRegions python model.product model.label
        (optionFirst python model.label option rows)).Perm
      (pricedRegions python model.product model.label rows) :=
    (pricedRegions_order (optionFirst_perm python model.label option rows).symm hone).symm
  have hsplit : pricedRegions python model.product model.label
        (optionFirst python model.label option rows)
      = pricedRegions python model.product model.label
          (rows.filter (pricesOption python model.label option)) ++
        pricedRegions python model.product model.label
          (rows.filter fun row => !pricesOption python model.label option row) := by
    have hbuckets : buckets python model.label (optionFirst python model.label option rows)
        = buckets python model.label (rows.filter (pricesOption python model.label option)) ++
          buckets python model.label
            (rows.filter fun row => !pricesOption python model.label option row) := by
      rw [buckets, optionFirst, meters, List.filterMap_append]
      refine Dictionary.collect_append fun a ha b hb heq => ?_
      obtain ⟨row, hrow, textToImage, hread⟩ := mem_meters.1 ha
      obtain ⟨row', hrow', textToImage', hread'⟩ := mem_meters.1 hb
      obtain ⟨-, hprices⟩ := List.mem_filter.1 hrow
      obtain ⟨-, hprices'⟩ := List.mem_filter.1 hrow'
      rw [pricesOption, hread, decide_eq_true_eq] at hprices
      rw [pricesOption, hread', Bool.not_eq_true', decide_eq_false_iff_not] at hprices'
      obtain ⟨hd, hr⟩ := Prod.mk.inj heq
      exact hprices' ⟨hd ▸ hprices.1, hr ▸ hprices.2⟩
    rw [pricedRegions, hbuckets, List.filterMap_append]
    rfl
  have hfirst : ∀ p ∈ pricedRegions python model.product model.label
      (rows.filter (pricesOption python model.label option)),
      p.deployment = q.deployment ∧ p.rates = q.rates := by
    intro p hp
    obtain ⟨meter, hmeter, hmd, hmr⟩ := exists_meter_of_priced hp
    obtain ⟨row, hrow, textToImage, hread⟩ := mem_meters.1 hmeter
    obtain ⟨-, hprices⟩ := List.mem_filter.1 hrow
    rw [pricesOption, hread, decide_eq_true_eq, hdeployment, hregion] at hprices
    have hd : p.deployment = q.deployment :=
      hmd.symm.trans (Deployment.text_injective hprices.1)
    have hp' : p ∈ pricedRegions python model.product model.label rows := by
      refine hperm.mem_iff.1 ?_
      rw [hsplit]
      exact List.mem_append_left _ hp
    have hmem : ⟨q.deployment, p.region, p.rates⟩
        ∈ pricedRegions python model.product model.label rows := by
      rw [← hd]
      exact hp'
    exact ⟨hd, rates_unique nodup_pricedRegions hmem (hmr ▸ hprices.2)⟩
  have hne : pricedRegions python model.product model.label
      (rows.filter (pricesOption python model.label option)) ≠ [] := by
    intro hnone
    rw [hnone, List.nil_append] at hsplit
    have hq' : q ∈ pricedRegions python model.product model.label
        (rows.filter fun row => !pricesOption python model.label option row) := by
      rw [← hsplit]
      exact hperm.mem_iff.2 hq
    obtain ⟨meter, hmeter, hmd, hmr⟩ := exists_meter_of_priced hq'
    obtain ⟨row, hrow, textToImage, hread⟩ := mem_meters.1 hmeter
    obtain ⟨-, hprices⟩ := List.mem_filter.1 hrow
    rw [pricesOption, hread, Bool.not_eq_true', decide_eq_false_iff_not, hdeployment, hregion]
      at hprices
    exact hprices ⟨congrArg Deployment.text hmd, hmr ▸ hq⟩
  obtain ⟨p, others, hcons⟩ := List.exists_cons_of_ne_nil hne
  obtain ⟨hd, hr⟩ := hfirst p (by rw [hcons]; exact List.mem_cons_self)
  rw [hcons, List.cons_append] at hsplit
  obtain ⟨options, hoptions⟩ := exists_optionsOf_cons python model complete textToImage p
    (others ++ pricedRegions python model.product model.label
      (rows.filter fun row => !pricesOption python model.label option row))
  refine ⟨options, ?_⟩
  rw [← hsplit, optionAt_order hperm, hd, hr, ← hoptionAt] at hoptions
  exact hoptions

/-- With its rows first, an option comes before those that it ties with. -/
theorem tied_sublist {a b : PublishedOption} (hone : Unambiguous python model.label rows)
    (ha : a ∈ (optionsFrom python model ⟨rows, complete⟩).options)
    (hb : b ∈ (optionsFrom python model ⟨rows, complete⟩).options) (hne : a ≠ b)
    (hdeployment : a.deployment = b.deployment)
    (hinput : a.entry.prices.input = b.entry.prices.input) :
    [a, b].Sublist (optionsFrom python model
      ⟨optionFirst python model.label a rows, complete⟩).options := by
  have hperm := optionFirst_perm python model.label a rows
  have himages : readsImages python model.label (optionFirst python model.label a rows)
      = readsImages python model.label rows := hperm.any_eq
  rw [mem_options] at ha hb
  obtain ⟨options, hoptions⟩ := optionsOf_optionFirst hone ha
  refine List.pair_sublist_insertionSort (sortedBefore_of_tied hdeployment hinput) ?_
  dsimp only
  have hb' : b ∈ a :: options := by
    rw [← hoptions]
    exact (mem_optionsOf_order (pricedRegions_order hperm.symm hone)).1 hb
  rw [himages, hoptions]
  exact List.Sublist.cons_cons _
    (List.singleton_sublist.2 ((List.mem_cons.1 hb').resolve_left hne.symm))

/-- The order of the rows never shows just where no two regions tie. -/
theorem order_free_iff (hone : Unambiguous python model.label rows) :
    (∀ rows', rows.Perm rows' → optionsFrom python model ⟨rows', complete⟩
        = optionsFrom python model ⟨rows, complete⟩) ↔
      ¬Tied python model.product model.label rows := by
  constructor
  · intro hfree htied
    obtain ⟨a, ha, b, hb, hne, hdeployment, hinput⟩ := options_of_tied complete htied
    have hab := tied_sublist hone ha hb hne hdeployment hinput
    have hba := tied_sublist hone hb ha hne.symm hdeployment.symm hinput.symm
    rw [hfree _ (optionFirst_perm python model.label a rows).symm] at hab
    rw [hfree _ (optionFirst_perm python model.label b rows).symm] at hba
    refine not_nodup_of_both_orders hab hba ?_
    exact (List.perm_insertionSort _ _).nodup_iff.2 (nodup_optionsOf _ _ _ _ _).of_map
  · exact fun htied rows' h => options_eq_of_not_tied h hone htied

end Ties

end Turnstile.Pricing
