import Turnstile.Pricing.AzureOrder

/-!
# What a catalog keeps

`CompositeCatalog` asks Azure's catalog, then Anthropic's.  Both keep what they have read for
some hours.  The options of a model are kept under its key by two callers: `options`, with the
model of the index, and `entry`, with a model that it makes of a reference and that has no
context tier.  So what `options` returns of a model whose label names a context tier depends
on whether a lookup came first (`cache_free_iff`).  The prices are the same in both.
-/

namespace Turnstile.Pricing

open Guard Procedure

/-! ## Anthropic -/

/-- `AnthropicCatalog`. -/
structure AnthropicCatalog where
  ttl : ℚ
  kept : Option (ℚ × List PublishedEntry)

/-- What is published: Azure's feed, and what `AnthropicCatalog._build` makes of the page of
Anthropic. -/
structure PublishedPrices where
  azure : PriceFeed
  anthropic : Except PriceError (List PublishedEntry)

namespace AnthropicCatalog

/-- `_entries`. -/
def entries (prices : PublishedPrices) (now : ℚ) :
    Procedure PriceError AnthropicCatalog (List PublishedEntry) := do
  let catalog ← get
  match fresh catalog.ttl now catalog.kept with
  | some entries => pure entries
  | none =>
      let built ← Procedure.lift prices.anthropic
      modify fun catalog => { catalog with kept := some (now, built) }
      pure built

/-- The model of an entry. -/
def modelOf (entry : PublishedEntry) : PublishedModel where
  key := joined ["anthropic", "Anthropic", entry.label]
  label := entry.label
  product := "Anthropic"
  source := .anthropic
  contextTier := none
  textToImage := false

/-- The body of `options`. -/
def optionsOf (model : PublishedModel) (entries : List PublishedEntry) : PublishedOptions :=
  match entries.find? (·.label = model.label) with
  | some entry =>
      let reference := joined ["anthropic", "Anthropic", entry.label, "List price", "*"]
      { model := model
        options := [{
          reference := reference
          deployment := "List price"
          entry := { entry with reference := reference, detail := some "List price" }
          regions := []
          regionRequired := false
          referencesByRegion := [] }]
        unreadable := []
        otherMeters := []
        note := some "Anthropic 对所有区域发布同一份列表价。"
        complete := true }
  | none =>
      { model := model, options := [], unreadable := [], otherMeters := [], note := none
        complete := true }

/-- The body of `entry`. -/
def entryOf (reference : PriceReference) (entries : List PublishedEntry) : Option PublishedEntry :=
  match reference with
  | [_, _, label, _, _] =>
      (entries.find? (·.label = label)).map fun entry =>
        { entry with reference := reference, detail := some "List price" }
  | _ => none

/-- `entry`. -/
def readEntry (prices : PublishedPrices) (now : ℚ) (reference : PriceReference) :
    Procedure PriceError AnthropicCatalog (Option PublishedEntry) :=
  if reference.length = 5 ∧ reference.head? = some "anthropic" then do
    let read ← entries prices now
    pure (entryOf reference read)
  else pure none

end AnthropicCatalog

/-! ## One after the other -/

/-- A catalog as `CompositeCatalog` calls it. -/
structure PriceCatalog (σ : Type) where
  models : Procedure PriceError σ (List PublishedModel)
  options : PublishedModel → Procedure PriceError σ PublishedOptions
  entry : PriceReference → Procedure PriceError σ (Option PublishedEntry)

namespace Composite

variable {σ : Type} (caught : PriceError → Bool)

/-- `CompositeCatalog.options`. -/
def options (key : PriceReference) :
    List (PriceCatalog σ) → Procedure PriceError σ (Option PublishedOptions)
  | [] => pure none
  | catalog :: rest => do
      let models ← attempt caught catalog.models
      match (models.getD []).find? (·.key = key) with
      | some model => do
          let found ← catalog.options model
          pure (some found)
      | none => options key rest

/-- `CompositeCatalog.lookup`. -/
def lookup (reference : PriceReference) :
    List (PriceCatalog σ) → Procedure PriceError σ (Option PublishedEntry)
  | [] => pure none
  | catalog :: rest => do
      let found ← attempt caught (catalog.entry reference)
      match found with
      | some (some entry) => pure (some entry)
      | _ => lookup reference rest

end Composite

/-- The catalogs of `build_default_catalog`. -/
structure DefaultCatalog where
  azure : AzureRetailCatalog
  anthropic : AnthropicCatalog

variable (python : MeterText)

namespace DefaultCatalog

/-- `build_default_catalog`; nothing is read yet. -/
def initial : DefaultCatalog where
  azure := ⟨6 * 60 * 60, none, fun _ => none⟩
  anthropic := ⟨6 * 60 * 60, none⟩

/-- `except (httpx.HTTPError, ValueError)`. -/
def caught (prices : PublishedPrices) : PriceError → Bool
  | .valueError _ => true
  | .validation _ => true
  | e => prices.azure.httpError e

/-- Both catalogs, in their order. -/
def catalogs (prices : PublishedPrices) (now : ℚ) : List (PriceCatalog DefaultCatalog) :=
  let azure {α : Type} (p : Procedure PriceError AzureRetailCatalog α) :=
    within DefaultCatalog.azure (fun part catalog => { catalog with azure := part }) p
  let anthropic {α : Type} (p : Procedure PriceError AnthropicCatalog α) :=
    within DefaultCatalog.anthropic (fun part catalog => { catalog with anthropic := part }) p
  [{ models := azure (AzureRetailCatalog.readModels python prices.azure now)
     options := fun model => azure (AzureRetailCatalog.readOptions python prices.azure now model)
     entry := fun reference =>
         azure (AzureRetailCatalog.readEntry python prices.azure now reference) },
   { models := anthropic do
       let read ← AnthropicCatalog.entries prices now
       pure (read.map AnthropicCatalog.modelOf)
     options := fun model => anthropic do
       let read ← AnthropicCatalog.entries prices now
       pure (AnthropicCatalog.optionsOf model read)
     entry := fun reference => anthropic (AnthropicCatalog.readEntry prices now reference) }]

/-- `options`, of the default catalog. -/
def options (prices : PublishedPrices) (now : ℚ) (key : PriceReference) :
    Procedure PriceError DefaultCatalog (Option PublishedOptions) :=
  Composite.options (caught prices) key (catalogs python prices now)

/-- `lookup`, of the default catalog. -/
def lookup (prices : PublishedPrices) (now : ℚ) (reference : PriceReference) :
    Procedure PriceError DefaultCatalog (Option PublishedEntry) :=
  Composite.lookup (caught prices) reference (catalogs python prices now)

/-- What calls make of a new catalog.  `seen` are the prices that may be published meanwhile,
and `looked` the references that may be looked up. -/
inductive Reached (seen : PublishedPrices → Prop) (looked : PriceReference → Prop) :
    DefaultCatalog → Prop
  | initial : Reached seen looked initial
  | options {catalog : DefaultCatalog} (h : Reached seen looked catalog) {prices : PublishedPrices}
      (hprices : seen prices) (now : ℚ) (key : PriceReference) :
      Reached seen looked ((options python prices now key).after catalog)
  | lookup {catalog : DefaultCatalog} (h : Reached seen looked catalog) {prices : PublishedPrices}
      (hprices : seen prices) (now : ℚ) {reference : PriceReference} (hlooked : looked reference) :
      Reached seen looked ((lookup python prices now reference).after catalog)

end DefaultCatalog

/-! ## The index -/

section Index

variable {python : MeterText} {feed : PriceFeed} {models : List PublishedModel}
  {model : PublishedModel}

theorem foldl_first {α β : Type} (g : α → β) (l : List α) :
    l.foldl (fun (v : Option β) a => some (v.getD (g a))) none = l.head?.map g := by
  have hrest : ∀ (l : List α) (b : β),
      l.foldl (fun (v : Option β) a => some (v.getD (g a))) (some b) = some b := by
    intro l
    induction l with
    | nil => exact fun _ => rfl
    | cons a rest ih => exact fun b => ih b
  cases l with
  | nil => rfl
  | cons a rest => exact hrest rest (g a)

theorem mem_indexOf {rows : List PriceRow} (h : model ∈ indexOf python rows) :
    ∃ parsed textToImage, model = indexModel python parsed textToImage := by
  obtain ⟨entry, hentry, rfl⟩ := List.mem_map.1 h
  have hseen := (List.mem_insertionSort _).1 (List.mem_filter.1 hentry).1
  have hget := (Dictionary.mem_iff_get (Dictionary.nodup_collect _ _ _)).1 hseen
  rw [Dictionary.get_collect, foldl_first] at hget
  obtain ⟨meter, -, hmeter⟩ := Option.map_eq_some_iff.1 hget
  exact ⟨meter.1, meter.2, hmeter.symm⟩

theorem mem_buildIndex (h : buildIndex python feed = .ok models) (hmodel : model ∈ models) :
    ∃ parsed textToImage, model = indexModel python parsed textToImage := by
  unfold buildIndex at h
  cases hfetch : fetch feed ("serviceName eq 'Foundry Models' and armRegionName eq 'eastus' and " ++
      "contains(meterName,'Tokens')") with
  | error e =>
      rw [hfetch] at h
      cases h
  | ok fetched =>
      rw [hfetch] at h
      obtain rfl := Except.ok.inj h
      exact mem_indexOf hmodel

end Index

/-! ## Keys -/

theorem eq_of_splitColon {text part : String} (h : splitColon text = [part]) : text = part := by
  have hsplit : (text.toList.splitOn ':').map String.ofList = [part] := h
  obtain ⟨chars, hchars, hpart⟩ := List.map_eq_singleton_iff.1 hsplit
  have hjoin : [':'].intercalate (text.toList.splitOn ':') = text.toList :=
    List.intercalate_splitOn ':'
  rw [hchars, List.intercalate_singleton] at hjoin
  rw [← hpart, hjoin, String.ofList_toList]

theorem splitColon_ne_nil (text : String) : splitColon text ≠ [] := by
  rw [splitColon, ne_eq, List.map_eq_nil_iff]
  exact List.splitOnP_ne_nil _ _

/-- Texts without a colon are told by their key. -/
theorem key_injective {product label product' label' : String} (hproduct : Colonless product)
    (hlabel : Colonless label)
    (h : joined ["azure_retail", product', label'] = joined ["azure_retail", product, label]) :
    product' = product ∧ label' = label := by
  have hkey : splitColon product' ++ splitColon label' = [product, label] := by
    simp only [joined, List.flatMap_cons, List.flatMap_nil, List.append_nil,
      splitColon_of_colonless hproduct, splitColon_of_colonless hlabel, List.append_cancel_left_eq]
      at h
    exact h
  have hlength := congrArg List.length hkey
  have hproduct' := List.length_pos_iff.2 (splitColon_ne_nil product')
  have hlabel' := List.length_pos_iff.2 (splitColon_ne_nil label')
  rw [List.length_append, List.length_cons, List.length_singleton] at hlength
  have hparts : splitColon product' ++ splitColon label' = [product] ++ [label] := hkey
  obtain ⟨hfirst, hsecond⟩ := List.append_inj hparts (by rw [List.length_singleton]; omega)
  exact ⟨eq_of_splitColon hfirst, eq_of_splitColon hsecond⟩

/-! ## What is kept -/

/-- A model as one of the two callers makes it: with the tier that its label names, or, for a
reference that is looked up, without one. -/
structure Describes (looked : PriceReference → Prop) (model : PublishedModel) : Prop where
  source : model.source = .azureRetail
  key : model.key = joined ["azure_retail", model.product, model.label]
  contextTier : model.contextTier = parseContextTier python model.label ∨
    model.contextTier = none ∧
      ∃ deployment anchor, looked ["azure_retail", model.product, model.label, deployment, anchor]

/-- What the catalog keeps was read from a feed that was seen. -/
structure AzureRetailCatalog.Keeps (seen : PriceFeed → Prop) (looked : PriceReference → Prop)
    (catalog : AzureRetailCatalog) : Prop where
  models : ∀ kept, catalog.models = some kept →
    ∃ feed, seen feed ∧ buildIndex python feed = .ok kept.2
  options : ∀ key kept, catalog.options key = some kept →
    ∃ feed model, seen feed ∧ model.key = key ∧ Describes python looked model ∧
      buildOptions python feed model = .ok kept.2

section Keeps

variable {python : MeterText} {seen : PriceFeed → Prop} {looked : PriceReference → Prop}
  {catalog : AzureRetailCatalog} {feed : PriceFeed} {now : ℚ}

theorem fresh_eq_some {α : Type} {ttl now : ℚ} {kept : Option (ℚ × α)} {a : α} :
    fresh ttl now kept = some a ↔ ∃ time, kept = some (time, a) ∧ now - time < ttl := by
  unfold fresh
  cases kept with
  | none => simp
  | some entry =>
      obtain ⟨time, b⟩ := entry
      by_cases h : now - time < ttl
      · simp [Option.filter, h]
      · simp [Option.filter, h]

/-- The index is kept, or read from the feed. -/
theorem readModels_meets (h : catalog.Keeps python seen looked) (hfeed : seen feed) :
    Meets (AzureRetailCatalog.readModels python feed now) catalog
      (fun models after => (after.Keeps python seen looked ∧ after.options = catalog.options ∧
        after.ttl = catalog.ttl) ∧ ∃ read, seen read ∧ buildIndex python read = .ok models)
      (fun e after => (after.Keeps python seen looked ∧ after.options = catalog.options ∧
        after.ttl = catalog.ttl) ∧ buildIndex python feed = .error e) := by
  unfold AzureRetailCatalog.readModels
  rw [meets_bind, meets_get]
  cases hkept : fresh catalog.ttl now catalog.models with
  | some models =>
      obtain ⟨time, hmodels, -⟩ := fresh_eq_some.1 hkept
      obtain ⟨read, hread, hindex⟩ := h.models _ hmodels
      exact ⟨⟨h, rfl, rfl⟩, read, hread, hindex⟩
  | none =>
      simp only [meets_bind, meets_lift, meets_modify, meets_pure]
      refine ⟨fun built hbuilt => ⟨⟨⟨fun kept hmodels => ?_, h.options⟩, trivial, trivial⟩, feed,
        hfeed, hbuilt⟩, fun e he => ⟨⟨h, trivial, trivial⟩, he⟩⟩
      obtain rfl := Option.some.inj hmodels
      exact ⟨feed, hfeed, hbuilt⟩

/-- The options of a model are kept, for a model of its key, or read from the feed. -/
theorem readOptions_meets {model : PublishedModel} (h : catalog.Keeps python seen looked)
    (hfeed : seen feed) (hmodel : Describes python looked model) :
    Meets (AzureRetailCatalog.readOptions python feed now model) catalog
      (fun options after => after.Keeps python seen looked ∧
        ((∃ time, catalog.options model.key = some (time, options) ∧ now - time < catalog.ttl) ∨
          fresh catalog.ttl now (catalog.options model.key) = none ∧
            buildOptions python feed model = .ok options))
      (fun e after => after.Keeps python seen looked ∧
        fresh catalog.ttl now (catalog.options model.key) = none ∧
          buildOptions python feed model = .error e) := by
  unfold AzureRetailCatalog.readOptions
  rw [meets_bind, meets_get]
  cases hkept : fresh catalog.ttl now (catalog.options model.key) with
  | some options => exact ⟨h, .inl (fresh_eq_some.1 hkept)⟩
  | none =>
      simp only [meets_bind, meets_lift, meets_modify, meets_pure]
      refine ⟨fun built hbuilt => ⟨⟨h.models, fun key kept hoptions => ?_⟩, .inr ⟨trivial, hbuilt⟩⟩,
        fun e he => ⟨h, trivial, he⟩⟩
      change Function.update catalog.options model.key (some (now, built)) key
        = some kept at hoptions
      by_cases hkey : key = model.key
      · subst hkey
        rw [Function.update_self] at hoptions
        obtain rfl := Option.some.inj hoptions
        exact ⟨feed, model, hfeed, rfl, hmodel, hbuilt⟩
      · rw [Function.update_of_ne hkey] at hoptions
        exact h.options key kept hoptions

theorem describes_referenceModel {product stem deployment anchor : String}
    (h : looked ["azure_retail", product, stem, deployment, anchor]) :
    Describes python looked (referenceModel product stem) :=
  ⟨rfl, rfl, .inr ⟨rfl, deployment, anchor, h⟩⟩

theorem describes_of_mem_index {models : List PublishedModel} {model : PublishedModel}
    (h : buildIndex python feed = .ok models) (hmodel : model ∈ models) :
    Describes python looked model := by
  obtain ⟨parsed, textToImage, rfl⟩ := mem_buildIndex h hmodel
  exact ⟨rfl, rfl, .inl rfl⟩

theorem readEntry_keeps {reference : PriceReference} (h : catalog.Keeps python seen looked)
    (hfeed : seen feed) (hlooked : looked reference) :
    Meets (AzureRetailCatalog.readEntry python feed now reference) catalog
      (fun _ after => after.Keeps python seen looked)
      (fun _ after => after.Keeps python seen looked) := by
  unfold AzureRetailCatalog.readEntry
  split
  next source product stem deployment anchor =>
    split
    next hsource =>
      subst hsource
      rw [meets_bind]
      exact (readOptions_meets h hfeed (describes_referenceModel hlooked)).mono
        (fun _ _ hread => hread.1) fun _ _ hread => hread.1
    next => exact h
  next => exact h

end Keeps

/-! ## Calls -/

/-- What Anthropic's catalog keeps was published. -/
def AnthropicCatalog.Keeps (seen : PublishedPrices → Prop) (catalog : AnthropicCatalog) : Prop :=
  ∀ kept, catalog.kept = some kept → ∃ prices, seen prices ∧ prices.anthropic = .ok kept.2

/-- What both catalogs keep was published. -/
structure DefaultCatalog.Keeps (seen : PublishedPrices → Prop) (looked : PriceReference → Prop)
    (catalog : DefaultCatalog) : Prop where
  azure : catalog.azure.Keeps python
      (fun feed => ∃ prices, seen prices ∧ prices.azure = feed) looked
  anthropic : catalog.anthropic.Keeps seen

section Calls

variable {python : MeterText} {seen : PublishedPrices → Prop} {looked : PriceReference → Prop}
  {prices : PublishedPrices} {now : ℚ}

theorem entries_meets {catalog : AnthropicCatalog} (h : catalog.Keeps seen)
    (hprices : seen prices) :
    Meets (AnthropicCatalog.entries prices now) catalog
      (fun entries after => after.Keeps seen ∧
        ∃ read, seen read ∧ read.anthropic = .ok entries)
      (fun e after => after.Keeps seen ∧ prices.anthropic = .error e) := by
  unfold AnthropicCatalog.entries
  rw [meets_bind, meets_get]
  cases hkept : fresh catalog.ttl now catalog.kept with
  | some entries =>
      obtain ⟨time, hentries, -⟩ := fresh_eq_some.1 hkept
      exact ⟨h, h _ hentries⟩
  | none =>
      simp only [meets_bind, meets_lift, meets_modify, meets_pure]
      refine ⟨fun built hbuilt => ⟨fun kept hentries => ?_, prices, hprices, hbuilt⟩,
        fun e he => ⟨h, he⟩⟩
      obtain rfl := Option.some.inj hentries
      exact ⟨prices, hprices, hbuilt⟩

/-- Both catalogs keep what they read. -/
theorem keeps_of_catalogs (looked : PriceReference → Prop) {catalog : PriceCatalog DefaultCatalog}
    (hcatalog : catalog ∈ DefaultCatalog.catalogs python prices now) (hprices : seen prices) :
    (∀ c : DefaultCatalog, c.Keeps python seen looked →
      Meets catalog.models c
        (fun models after => after.Keeps python seen looked ∧
          ∀ model ∈ models, ∀ c : DefaultCatalog, c.Keeps python seen looked →
            Meets (catalog.options model) c (fun _ after => after.Keeps python seen looked)
              fun _ after => after.Keeps python seen looked)
        fun _ after => after.Keeps python seen looked) ∧
    ∀ reference, looked reference → ∀ c : DefaultCatalog, c.Keeps python seen looked →
      Meets (catalog.entry reference) c (fun _ after => after.Keeps python seen looked)
        fun _ after => after.Keeps python seen looked := by
  have hazure : ∃ read, seen read ∧ read.azure = prices.azure := ⟨prices, hprices, rfl⟩
  simp only [DefaultCatalog.catalogs, List.mem_cons, List.not_mem_nil, or_false] at hcatalog
  rcases hcatalog with rfl | rfl
  · refine ⟨fun c hc => ?_, fun reference hlooked c hc => ?_⟩
    · rw [meets_within]
      refine (readModels_meets hc.azure hazure).mono (fun models after hread => ?_)
        fun e after hread => ⟨hread.1.1, hc.anthropic⟩
      obtain ⟨⟨hkeeps, -, -⟩, read, -, hindex⟩ := hread
      refine ⟨⟨hkeeps, hc.anthropic⟩, fun model hmodel d hd => ?_⟩
      rw [meets_within]
      exact (readOptions_meets hd.azure hazure (describes_of_mem_index hindex hmodel)).mono
        (fun _ _ hoptions => ⟨hoptions.1, hd.anthropic⟩) fun _ _ hoptions =>
          ⟨hoptions.1, hd.anthropic⟩
    · rw [meets_within]
      exact (readEntry_keeps hc.azure hazure hlooked).mono
        (fun _ _ hentry => ⟨hentry, hc.anthropic⟩) fun _ _ hentry => ⟨hentry, hc.anthropic⟩
  · refine ⟨fun c hc => ?_, fun reference _ c hc => ?_⟩
    · rw [meets_within, meets_bind]
      refine (entries_meets hc.anthropic hprices).mono (fun entries after hread => ?_)
        fun e after hread => ⟨hc.azure, hread.1⟩
      refine ⟨⟨hc.azure, hread.1⟩, fun model _ d hd => ?_⟩
      rw [meets_within, meets_bind]
      exact (entries_meets hd.anthropic hprices).mono (fun _ _ hoptions => ⟨hd.azure, hoptions.1⟩)
        fun _ _ hoptions => ⟨hd.azure, hoptions.1⟩
    · rw [meets_within]
      unfold AnthropicCatalog.readEntry
      split
      next =>
        rw [meets_bind]
        exact (entries_meets hc.anthropic hprices).mono (fun _ _ hentry => ⟨hc.azure, hentry.1⟩)
          fun _ _ hentry => ⟨hc.azure, hentry.1⟩
      next => exact hc

theorem options_keeps {catalogs : List (PriceCatalog DefaultCatalog)}
    (hcatalogs : ∀ catalog ∈ catalogs, catalog ∈ DefaultCatalog.catalogs python prices now)
    (hprices : seen prices) {caught : PriceError → Bool} {key : PriceReference} :
    Keeps (DefaultCatalog.Keeps python seen looked) (Composite.options caught key catalogs) := by
  induction catalogs with
  | nil => exact fun _ h => h
  | cons catalog rest ih =>
      intro c hc
      have hkeeps := keeps_of_catalogs looked (hcatalogs catalog List.mem_cons_self) hprices
      have hrest : ∀ after, DefaultCatalog.Keeps python seen looked after →
          Meets (Composite.options caught key rest) after
            (fun _ => DefaultCatalog.Keeps python seen looked)
            fun _ => DefaultCatalog.Keeps python seen looked :=
        ih fun other hother => hcatalogs other (List.mem_cons_of_mem catalog hother)
      unfold Composite.options
      rw [meets_bind, meets_attempt]
      refine (hkeeps.1 c hc).mono (fun models after hmodels => ?_) fun e after hafter =>
        ⟨fun _ => hrest after hafter, fun _ => hafter⟩
      rw [Option.getD_some]
      cases hfound : models.find? (·.key = key) with
      | none => exact hrest after hmodels.1
      | some model =>
          dsimp only
          rw [meets_bind]
          exact (hmodels.2 model (List.mem_of_find?_eq_some hfound) after hmodels.1).mono
            (fun _ _ h => h) fun _ _ h => h

theorem lookup_keeps {catalogs : List (PriceCatalog DefaultCatalog)}
    (hcatalogs : ∀ catalog ∈ catalogs, catalog ∈ DefaultCatalog.catalogs python prices now)
    (hprices : seen prices) {caught : PriceError → Bool} {reference : PriceReference}
    (hlooked : looked reference) :
    Keeps (DefaultCatalog.Keeps python seen looked)
      (Composite.lookup caught reference catalogs) := by
  induction catalogs with
  | nil => exact fun _ h => h
  | cons catalog rest ih =>
      intro c hc
      have hkeeps := keeps_of_catalogs looked (hcatalogs catalog List.mem_cons_self) hprices
      have hrest : ∀ after, DefaultCatalog.Keeps python seen looked after →
          Meets (Composite.lookup caught reference rest) after
            (fun _ => DefaultCatalog.Keeps python seen looked)
            fun _ => DefaultCatalog.Keeps python seen looked :=
        ih fun other hother => hcatalogs other (List.mem_cons_of_mem catalog hother)
      unfold Composite.lookup
      rw [meets_bind, meets_attempt]
      refine (hkeeps.2 reference hlooked c hc).mono (fun found after hafter => ?_)
        fun e after hafter =>
        ⟨fun _ => hrest after hafter, fun _ => hafter⟩
      cases found with
      | none => exact hrest after hafter
      | some entry => exact hafter

theorem keeps_initial : DefaultCatalog.initial.Keeps python seen looked := by
  refine ⟨⟨fun kept h => ?_, fun key kept h => ?_⟩, fun kept h => ?_⟩
  · have hnone : DefaultCatalog.initial.azure.models = none := rfl
    rw [hnone] at h
    cases h
  · have hnone : DefaultCatalog.initial.azure.options key = none := rfl
    rw [hnone] at h
    cases h
  · have hnone : DefaultCatalog.initial.anthropic.kept = none := rfl
    rw [hnone] at h
    cases h

/-- Whatever is called, what the catalogs keep was published meanwhile. -/
theorem keeps_of_reached {catalog : DefaultCatalog}
    (h : DefaultCatalog.Reached python seen looked catalog) : catalog.Keeps python seen looked := by
  induction h with
  | initial => exact keeps_initial
  | options _ hprices now key ih => exact (options_keeps (fun _ h => h) hprices).after ih
  | lookup _ hprices now hlooked ih => exact (lookup_keeps (fun _ h => h) hprices hlooked).after ih

end Calls

end Turnstile.Pricing
