import Turnstile.Pricing.CatalogCache

/-!
# Stored references

A reference to a region is resolved in what the catalog reads, or has kept, when it is
resolved: to the rates that this region then has, and never to those of another.  And what
`options` returns does not depend on the calls before, unless a lookup came first and the
label of the model names a context tier (`stored_references`).
-/

namespace Turnstile.Pricing

open Guard Procedure

/-! ## Colons -/

/-- No product name, model stem or region name that a model is built of has a colon. -/
structure ColonlessModel (model : PublishedModel) (rows : List PriceRow) : Prop where
  product : Colonless model.product
  label : Colonless model.label
  regions : ∀ row ∈ rows, ∀ region ∈ row.armRegionName, Colonless region

/-- No product name or model stem of the index has a colon. -/
def ColonlessIndex (python : MeterText) (feed : PriceFeed) : Prop :=
  ∀ models, buildIndex python feed = .ok models → ∀ model ∈ models,
    Colonless model.product ∧ Colonless model.label

section Regions

variable {python : MeterText} {label : String} {row : PriceRow} {meter : ParsedMeter}
  {textToImage : Bool}

theorem region_of_parseRow (h : parseRow python row = some meter) :
    meter.region = textOr row.armRegionName "global" := by
  unfold parseRow at h
  obtain ⟨name, -, hprice⟩ := Option.bind_eq_some_iff.1 h
  obtain ⟨price, -, hmeter⟩ := Option.bind_eq_some_iff.1 hprice
  obtain rfl := Option.some.inj hmeter
  rfl

theorem region_of_textToImageMeter {parsed : ParsedMeter}
    (h : textToImageMeter python parsed = some meter) :
    meter.region = parsed.region := by
  unfold textToImageMeter at h
  dsimp only at h
  split at h
  next =>
    obtain rfl := Option.some.inj h
    rfl
  next => cases h

theorem region_of_readRow (h : readRow python label row = .meter meter textToImage) :
    meter.region = textOr row.armRegionName "global" := by
  unfold readRow at h
  dsimp only at h
  split at h
  next parsed hparsed =>
    split at h
    next =>
      cases h
      exact region_of_parseRow hparsed
    next =>
      split at h
      next candidate hcandidate =>
        cases h
        obtain ⟨himage, -⟩ := Option.filter_eq_some_iff.1 hcandidate
        exact (region_of_textToImageMeter himage).trans (region_of_parseRow hparsed)
      next => cases h
  next => split_ifs at h

theorem colonless_textOr {value : Option String} {default : String}
    (h : ∀ text ∈ value, Colonless text) (hdefault : Colonless default) :
    Colonless (textOr value default) := by
  unfold textOr
  cases hvalue : value.filter (· ≠ "") with
  | none => exact hdefault
  | some text => exact h text (Option.filter_eq_some_iff.1 hvalue).1

theorem ColonlessModel.priced {model : PublishedModel} {rows : List PriceRow} {product : String}
    (h : ColonlessModel model rows) :
    ∀ p ∈ pricedRegions python product label rows, Colonless p.region := by
  intro p hp
  obtain ⟨meter, hmeter, -, hregion⟩ := exists_meter_of_priced hp
  obtain ⟨row, hrow, textToImage, hread⟩ := mem_meters.1 hmeter
  rw [← hregion, region_of_readRow hread]
  exact colonless_textOr (h.regions row hrow) (by decide)

end Regions

/-! ## What a catalog resolves with -/

section Serves

variable (python : MeterText) (feed : PriceFeed) (now : ℚ) (catalog : AzureRetailCatalog)
  (product label : String)

/-- What the catalog has of a model, at some time, is a build of what was fetched: it is kept
from a caller, or nothing is kept and it is fetched now. -/
def Serves (fetched : Fetched) : Prop :=
  (∃ model : PublishedModel, model.product = product ∧ model.label = label ∧
    fresh catalog.ttl now (catalog.options (joined ["azure_retail", product, label]))
      = some (optionsFrom python model fetched)) ∨
  (fresh catalog.ttl now (catalog.options (joined ["azure_retail", product, label])) = none ∧
    fetch feed (modelQuery product label) = .ok fetched)

variable {python feed now catalog product label} {fetched : Fetched} {deployment : Deployment}
  {anchor : String}

theorem readEntry_eq (python : MeterText) (feed : PriceFeed) (now : ℚ)
    (product stem deployment anchor : String) :
    AzureRetailCatalog.readEntry python feed now ["azure_retail", product, stem, deployment, anchor]
      = (do
        let found ← AzureRetailCatalog.readOptions python feed now (referenceModel product stem)
        pure (resolve deployment anchor found.options)) := by
  rw [AzureRetailCatalog.readEntry.eq_def]
  exact if_pos rfl

theorem readEntry_of_serves (h : Serves python feed now catalog product label fetched)
    (deployment anchor : String) :
    ∃ model : PublishedModel, model.product = product ∧ model.label = label ∧
      result (AzureRetailCatalog.readEntry python feed now
          ["azure_retail", product, label, deployment, anchor]) catalog
        = .ok (resolve deployment anchor (optionsFrom python model fetched).options) := by
  rcases h with ⟨model, hproduct, hlabel, hkept⟩ | ⟨hnone, hfetch⟩
  · refine ⟨model, hproduct, hlabel, result_eq_of_meets ?_⟩
    rw [readEntry_eq, AzureRetailCatalog.readOptions, meets_bind, meets_bind, meets_get]
    change fresh catalog.ttl now (catalog.options (referenceModel product label).key) = _ at hkept
    rw [hkept]
    rfl
  · refine ⟨referenceModel product label, rfl, rfl, result_eq_of_meets ?_⟩
    rw [readEntry_eq, AzureRetailCatalog.readOptions, meets_bind, meets_bind, meets_get]
    change fresh catalog.ttl now (catalog.options (referenceModel product label).key) = _ at hnone
    rw [hnone]
    simp only [meets_bind, meets_lift, meets_modify, meets_pure]
    have hbuilt : buildOptions python feed (referenceModel product label)
        = .ok (optionsFrom python (referenceModel product label) fetched) := by
      change (fetch feed (modelQuery product label)).map _ = _
      rw [hfetch]
      rfl
    rw [hbuilt]
    refine ⟨fun built heq => ?_, fun e he => by cases he⟩
    rw [Except.ok.inj heq]

/-- An anchor resolves to the rates of all regions, if they charge alike, or to those of its
region. -/
theorem readEntry_rates (h : Serves python feed now catalog product label fetched)
    (deployment : Deployment) (anchor : String) :
    ∃ entry, result (AzureRetailCatalog.readEntry python feed now
        ["azure_retail", product, label, deployment.text, anchor]) catalog = .ok entry ∧
      ∀ rates, entry.map (·.prices) = some rates ↔
        ⟨deployment, anchor, rates⟩ ∈ pricedRegions python product label fetched.rows ∨
          anchor = "*" ∧ ¬Varies (pricedRegions python product label fetched.rows) deployment ∧
            ∃ region, ⟨deployment, region, rates⟩
              ∈ pricedRegions python product label fetched.rows := by
  obtain ⟨model, hproduct, hlabel, hresult⟩ := readEntry_of_serves h deployment.text anchor
  subst hproduct hlabel
  exact ⟨_, hresult, fun rates => resolve_iff nodup_pricedRegions fun _ => mem_options⟩

end Serves

/-! ## Answers -/

section Answers

variable (python : MeterText) (prices : PublishedPrices) (key : PriceReference)

/-- What Anthropic's catalog answers of a model, if it keeps nothing. -/
def anthropicAnswer : Except PriceError (Option PublishedOptions) :=
  match prices.anthropic with
  | .error e => if DefaultCatalog.caught prices e then .ok none else .error e
  | .ok entries =>
      match (entries.map AnthropicCatalog.modelOf).find? (·.key = key) with
      | some model => .ok (some (AnthropicCatalog.optionsOf model entries))
      | none => .ok none

/-- What both catalogs answer of a model, if they keep nothing. -/
def answer : Except PriceError (Option PublishedOptions) :=
  match buildIndex python prices.azure with
  | .error e => if DefaultCatalog.caught prices e then anthropicAnswer prices key else .error e
  | .ok models =>
      match models.find? (·.key = key) with
      | some model => (buildOptions python prices.azure model).map some
      | none => anthropicAnswer prices key

variable {python prices key} {looked : PriceReference → Prop}

/-- Models that differ in their mark of an image only have the same options. -/
theorem buildOptions_congr {feed : PriceFeed} {model model' : PublishedModel}
    (h : Describes python looked model) (h' : Describes python looked model')
    (hproduct : Colonless model.product) (hlabel : Colonless model.label)
    (hkey : model'.key = model.key) (htier : model'.contextTier = model.contextTier) :
    buildOptions python feed model' = buildOptions python feed model := by
  obtain ⟨hsame, hsame'⟩ := key_injective hproduct hlabel (h'.key.symm.trans (hkey.trans h.key))
  have hsource := h'.source.trans h.source.symm
  obtain ⟨⟨key, label, product, source, tier⟩, image⟩ := model
  obtain ⟨⟨key', label', product', source', tier'⟩, image'⟩ := model'
  dsimp only at hkey htier hsame hsame' hsource
  subst hkey htier hsame hsame' hsource
  rfl

/-- The options of a model of the index are those of the feed, unless a lookup left others. -/
theorem readOptions_answer {catalog : AzureRetailCatalog} {now : ℚ} {model : PublishedModel}
    {models : List PublishedModel}
    (h : catalog.Keeps python (fun feed => ∃ p, p = prices ∧ p.azure = feed) looked)
    (hcolon : ColonlessIndex python prices.azure)
    (hindex : buildIndex python prices.azure = .ok models)
    (hmodel : model ∈ models)
    (hfree : ∀ built, buildOptions python prices.azure model = .ok built →
      parseContextTier python model.label = none ∨
        ∀ deployment anchor,
          ¬looked ["azure_retail", model.product, model.label, deployment, anchor]) :
    Meets (AzureRetailCatalog.readOptions python prices.azure now model) catalog
      (fun options _ => buildOptions python prices.azure model = .ok options)
      fun e _ => buildOptions python prices.azure model = .error e := by
  have hdescribes : Describes python looked model := describes_of_mem_index hindex hmodel
  obtain ⟨hproduct, hlabel⟩ := hcolon models hindex model hmodel
  refine (readOptions_meets h ⟨prices, rfl, rfl⟩ hdescribes).mono (fun options after hread => ?_)
    fun e after hread => hread.2.2
  rcases hread.2 with ⟨time, hkept, -⟩ | ⟨-, hbuilt⟩
  · obtain ⟨feed, model', ⟨p, hp, hfeed⟩, hkey, hdescribes', hbuilt⟩ := h.options _ _ hkept
    rw [← hfeed, hp] at hbuilt
    have hsame := key_injective hproduct hlabel
      (hdescribes'.key.symm.trans (hkey.trans hdescribes.key))
    have hindexed : model.contextTier = parseContextTier python model.label := by
      obtain ⟨parsed, textToImage, rfl⟩ := mem_buildIndex hindex hmodel
      rfl
    have htier : model'.contextTier = model.contextTier := by
      rcases hdescribes'.contextTier with htier | ⟨hnone, deployment, anchor, hlooked⟩
      · rw [htier, hindexed, hsame.2]
      · -- The model comes from a lookup, so that its label names no tier.
        have hfetched : ∃ built, buildOptions python prices.azure model = .ok built := by
          unfold buildOptions at hbuilt ⊢
          rw [hsame.1, hsame.2] at hbuilt
          cases hfetch : fetch prices.azure (modelQuery model.product model.label) with
          | error e =>
              rw [hfetch] at hbuilt
              cases hbuilt
          | ok fetched => exact ⟨_, rfl⟩
        obtain ⟨built, hbuilt'⟩ := hfetched
        rcases hfree built hbuilt' with hlabel' | hnever
        · rw [hnone, hindexed, hlabel']
        · rw [hsame.1, hsame.2] at hlooked
          exact absurd hlooked (hnever deployment anchor)
    rw [← buildOptions_congr hdescribes hdescribes' hproduct hlabel hkey htier]
    exact hbuilt
  · exact hbuilt

theorem entries_answer {catalog : AnthropicCatalog} {now : ℚ} (h : catalog.Keeps (· = prices)) :
    Meets (AnthropicCatalog.entries prices now) catalog
      (fun entries after => after.Keeps (· = prices) ∧ prices.anthropic = .ok entries)
      fun e after => after.Keeps (· = prices) ∧ prices.anthropic = .error e := by
  refine (entries_meets h rfl).mono (fun entries after hread => ⟨hread.1, ?_⟩)
    fun _ _ hread => hread
  obtain ⟨read, rfl, hentries⟩ := hread.2
  exact hentries

/-- What Anthropic's catalog answers, where Azure's has no model of the key. -/
theorem anthropic_answer {catalog : DefaultCatalog} {now : ℚ}
    (h : catalog.anthropic.Keeps (· = prices)) :
    Meets (Composite.options (DefaultCatalog.caught prices) key
        (DefaultCatalog.catalogs python prices now).tail) catalog
      (fun found _ => anthropicAnswer prices key = .ok found)
      fun e _ => anthropicAnswer prices key = .error e := by
  unfold Composite.options
  rw [DefaultCatalog.catalogs, List.tail_cons]
  dsimp only
  rw [meets_bind, meets_attempt, meets_within, meets_bind]
  refine (entries_answer h).mono (fun entries after hread => ?_) fun e after hread => ?_
  · rw [meets_pure, Option.getD_some]
    cases hfound : (entries.map AnthropicCatalog.modelOf).find? (·.key = key) with
    | none =>
        dsimp only
        rw [Composite.options, meets_pure, anthropicAnswer, hread.2]
        dsimp only
        rw [hfound]
    | some model =>
        dsimp only
        rw [meets_bind, meets_within, meets_bind]
        refine (entries_answer hread.1).mono (fun entries' after' hread' => ?_)
          fun e after' hread' => ?_
        · obtain rfl := Except.ok.inj (hread.2.symm.trans hread'.2)
          rw [meets_pure, meets_pure, anthropicAnswer, hread.2]
          dsimp only
          rw [hfound]
        · rw [hread.2] at hread'
          cases hread'.2
  · refine ⟨fun hcaught => ?_, fun hcaught => ?_⟩
    · rw [Option.getD_none, List.find?_nil]
      dsimp only
      rw [Composite.options, meets_pure, anthropicAnswer, hread.2]
      exact if_pos hcaught
    · rw [anthropicAnswer, hread.2]
      exact if_neg (Bool.eq_false_iff.1 hcaught)

/-- Whatever is kept, the answer is that of a new catalog, unless a lookup left options of a
model whose label names a context tier. -/
theorem options_answer {catalog : DefaultCatalog} {now : ℚ}
    (h : catalog.Keeps python (· = prices) looked) (hcolon : ColonlessIndex python prices.azure)
    (hfree : ∀ models, buildIndex python prices.azure = .ok models → ∀ model,
      models.find? (·.key = key) = some model →
        ∀ built, buildOptions python prices.azure model = .ok built →
          parseContextTier python model.label = none ∨ ∀ deployment anchor,
            ¬looked ["azure_retail", model.product, model.label, deployment, anchor]) :
    result (DefaultCatalog.options python prices now key) catalog = answer python prices key := by
  refine result_eq_of_meets ?_
  have hanthropic : ∀ after : DefaultCatalog, after.anthropic.Keeps (· = prices) →
      Meets (Composite.options (DefaultCatalog.caught prices) key
          (DefaultCatalog.catalogs python prices now).tail) after
        (fun found _ => anthropicAnswer prices key = .ok found)
        fun e _ => anthropicAnswer prices key = .error e :=
          fun after hafter => anthropic_answer hafter
  rw [DefaultCatalog.options, DefaultCatalog.catalogs] at *
  unfold Composite.options
  rw [meets_bind, meets_attempt, meets_within]
  refine (readModels_meets h.azure ⟨prices, rfl, rfl⟩).mono (fun models after hread => ?_)
    fun e after hread => ?_
  · obtain ⟨⟨hkeeps, -, -⟩, read, ⟨p, hp, hazure⟩, hindex⟩ := hread
    rw [← hazure, hp] at hindex
    rw [Option.getD_some]
    cases hfound : models.find? (·.key = key) with
    | none =>
        have hanswer : answer python prices key = anthropicAnswer prices key := by
          rw [answer, hindex]
          dsimp only
          rw [hfound]
        rw [hanswer]
        exact hanthropic _ h.anthropic
    | some model =>
        have hanswer : answer python prices key
            = (buildOptions python prices.azure model).map some := by
          rw [answer, hindex]
          dsimp only
          rw [hfound]
        dsimp only
        rw [hanswer, meets_bind, meets_within]
        refine (readOptions_answer hkeeps hcolon hindex (List.mem_of_find?_eq_some hfound)
          (hfree models hindex model hfound)).mono (fun options after' hbuilt => ?_)
          fun e after' hbuilt => ?_
        · rw [meets_pure, hbuilt]
          rfl
        · rw [hbuilt]
          rfl
  · refine ⟨fun hcaught => ?_, fun hcaught => ?_⟩
    · have hanswer : answer python prices key = anthropicAnswer prices key := by
        rw [answer, hread.2]
        exact if_pos hcaught
      rw [hanswer, Option.getD_none, List.find?_nil]
      exact hanthropic _ h.anthropic
    · rw [answer, hread.2]
      exact if_neg (Bool.eq_false_iff.1 hcaught)

end Answers

/-! ## Calls before -/

section Before

variable (python : MeterText) (prices : PublishedPrices) (key : PriceReference)

/-- The model of the key, if it can be read, has a label that names no context tier. -/
def NamesNoTier : Prop :=
  ∀ models, buildIndex python prices.azure = .ok models →
    ∀ model, models.find? (·.key = key) = some model →
      ∀ built, buildOptions python prices.azure model = .ok built →
        parseContextTier python model.label = none

variable {python prices key} {looked : PriceReference → Prop}

theorem key_of_find {models : List PublishedModel} {model : PublishedModel}
    (h : models.find? (·.key = key) = some model) : model.key = key := by
  simpa using List.find?_some h

/-- Without a lookup of the model, the answer is that of a new catalog. -/
theorem result_of_never_looked (looked : PriceReference → Prop) {catalog : DefaultCatalog} {now : ℚ}
    (hcolon : ColonlessIndex python prices.azure)
    (hnever : ∀ reference, looked reference → reference.take 3 ≠ key)
    (h : DefaultCatalog.Reached python (· = prices) looked catalog) :
    result (DefaultCatalog.options python prices now key) catalog = answer python prices key := by
  refine options_answer (keeps_of_reached h) hcolon fun models hindex model hfound built _ => ?_
  refine .inr fun deployment anchor hlooked => hnever _ hlooked ?_
  have hmodel := List.mem_of_find?_eq_some hfound
  obtain ⟨hproduct, hlabel⟩ := hcolon models hindex model hmodel
  have hkey : model.key = key := key_of_find hfound
  have hdescribes : Describes python looked model := describes_of_mem_index hindex hmodel
  have hjoined : joined ["azure_retail", model.product, model.label]
      = ["azure_retail", model.product, model.label] := by
    refine joined_of_colonless fun text htext => ?_
    simp only [List.mem_cons, List.not_mem_nil, or_false] at htext
    rcases htext with rfl | rfl | rfl
    · decide
    · exact hproduct
    · exact hlabel
  rw [← hkey, hdescribes.key, hjoined]
  rfl

/-- A lookup leaves the options of a model without a tier. -/
theorem lookup_leaves {product label : String} {built : PublishedOptions}
    (hbuilt : buildOptions python prices.azure (referenceModel product label) = .ok built) :
    ((DefaultCatalog.lookup python prices 0 ["azure_retail", product, label, "Global", "*"]).after
      DefaultCatalog.initial).azure.options (joined ["azure_retail", product, label])
        = some (0, built) ∧
    ((DefaultCatalog.lookup python prices 0 ["azure_retail", product, label, "Global", "*"]).after
      DefaultCatalog.initial).azure.ttl = 6 * 60 * 60 := by
  refine after_of_meets (I := fun catalog : DefaultCatalog =>
    catalog.azure.options (joined ["azure_retail", product, label]) = some (0, built) ∧
      catalog.azure.ttl = 6 * 60 * 60) ?_
  have hfresh : fresh DefaultCatalog.initial.azure.ttl 0
      (DefaultCatalog.initial.azure.options (referenceModel product label).key) = none := rfl
  rw [DefaultCatalog.lookup, DefaultCatalog.catalogs, Composite.lookup]
  dsimp only
  rw [meets_bind, meets_attempt, meets_within, readEntry_eq, AzureRetailCatalog.readOptions,
    meets_bind, meets_bind, meets_get, hfresh]
  simp only [meets_bind, meets_lift, meets_modify, meets_pure]
  rw [hbuilt]
  refine ⟨fun options heq => ?_, fun e he => by cases he⟩
  obtain rfl := Except.ok.inj heq
  have hkept : ({ DefaultCatalog.initial with azure := { DefaultCatalog.initial.azure with
      options := Function.update DefaultCatalog.initial.azure.options
        (referenceModel product label).key (some (0, built)) } } : DefaultCatalog).azure.options
          (joined ["azure_retail", product, label]) = some (0, built) :=
    Function.update_self _ _ _
  cases resolve "Global" "*" built.options with
  | some entry => exact ⟨hkept, rfl⟩
  | none =>
      dsimp only
      rw [Composite.lookup]
      dsimp only
      rw [meets_bind, meets_attempt, meets_within, AnthropicCatalog.readEntry, if_neg (by simp),
        meets_pure, Composite.lookup, meets_pure]
      exact ⟨hkept, rfl⟩

theorem result_of_kept {catalog : DefaultCatalog} {models : List PublishedModel}
    {model : PublishedModel} {built : PublishedOptions}
    (h : catalog.Keeps python (· = prices) looked)
    (hindex : buildIndex python prices.azure = .ok models)
    (hfound : models.find? (·.key = key) = some model)
    (hkept : fresh catalog.azure.ttl 0 (catalog.azure.options key) = some built) :
    result (DefaultCatalog.options python prices 0 key) catalog = .ok (some built) := by
  refine result_eq_of_meets ?_
  rw [DefaultCatalog.options, DefaultCatalog.catalogs]
  unfold Composite.options
  rw [meets_bind, meets_attempt, meets_within]
  refine (readModels_meets h.azure ⟨prices, rfl, rfl⟩).mono (fun models' after hread => ?_)
    fun e after hread => ?_
  · obtain ⟨⟨-, hoptions, httl⟩, read, ⟨p, hp, hazure⟩, hindex'⟩ := hread
    rw [← hazure, hp] at hindex'
    obtain rfl := Except.ok.inj (hindex.symm.trans hindex')
    have hkey : model.key = key := key_of_find hfound
    rw [Option.getD_some, hfound]
    dsimp only
    rw [meets_bind, meets_within, AzureRetailCatalog.readOptions, meets_bind, meets_get]
    rw [hkey, hoptions, httl, hkept]
    rfl
  · rw [hindex] at hread
    cases hread.2

/-- What `options` returns of a model follows the calls before just when a lookup can leave
options without the tier that the label names. -/
theorem cache_free_iff (hcolon : ColonlessIndex python prices.azure) :
    (∀ catalog, DefaultCatalog.Reached python (· = prices) (fun _ => True) catalog → ∀ now,
        result (DefaultCatalog.options python prices now key) catalog
          = result (DefaultCatalog.options python prices now key) DefaultCatalog.initial) ↔
      NamesNoTier python prices key := by
  have hinitial : ∀ now, result (DefaultCatalog.options python prices now key)
      DefaultCatalog.initial = answer python prices key := fun now =>
    result_of_never_looked (fun _ => False) hcolon (fun _ h => h.elim) .initial
  constructor
  · intro hsame models hindex model hfound built hbuilt
    by_contra htier
    have hmodel := List.mem_of_find?_eq_some hfound
    have hkey : model.key = key := key_of_find hfound
    have hdescribes : Describes python (fun _ => True) model :=
      describes_of_mem_index hindex hmodel
    have hbuilt' :
        ∃ fetched, fetch prices.azure (modelQuery model.product model.label) = .ok fetched ∧
        built = optionsFrom python model fetched := by
      unfold buildOptions at hbuilt
      cases hfetch : fetch prices.azure (modelQuery model.product model.label) with
      | error e =>
          rw [hfetch] at hbuilt
          cases hbuilt
      | ok fetched =>
          rw [hfetch] at hbuilt
          exact ⟨fetched, rfl, (Except.ok.inj hbuilt).symm⟩
    obtain ⟨fetched, hfetch, rfl⟩ := hbuilt'
    have hreference : buildOptions python prices.azure (referenceModel model.product model.label)
        = .ok (optionsFrom python (referenceModel model.product model.label) fetched) := by
      change (fetch prices.azure (modelQuery model.product model.label)).map _ = _
      rw [hfetch]
      rfl
    obtain ⟨hoptions, httl⟩ := lookup_leaves hreference
    have hreached : DefaultCatalog.Reached python (· = prices) (fun _ => True)
        ((DefaultCatalog.lookup python prices 0
          ["azure_retail", model.product, model.label, "Global", "*"]).after
            DefaultCatalog.initial) := by
      refine DefaultCatalog.Reached.lookup .initial ?_ 0 ?_
      · rfl
      · trivial
    have hafter := hsame _ hreached 0
    rw [hinitial 0] at hafter
    rw [← hdescribes.key, hkey] at hoptions
    rw [result_of_kept (keeps_of_reached hreached) hindex hfound
      (fresh_eq_some.2 ⟨0, hoptions, by rw [httl]; norm_num⟩)] at hafter
    have hanswer : answer python prices key = .ok (some (optionsFrom python model fetched)) := by
      rw [answer, hindex]
      dsimp only
      rw [hfound]
      dsimp only
      rw [hbuilt]
      rfl
    rw [hanswer] at hafter
    have hnone : (none : Option PriceCatalogContextTier) = model.contextTier :=
      congrArg (fun options => options.model.contextTier)
        (Option.some.inj (Except.ok.inj hafter))
    obtain ⟨parsed, textToImage, rfl⟩ := mem_buildIndex hindex hmodel
    exact htier hnone.symm
  · intro hnames catalog hreached now
    rw [hinitial now]
    exact options_answer (keeps_of_reached hreached) hcolon fun models hindex model hfound built
      hbuilt => .inl (hnames models hindex model hfound built hbuilt)

end Before

/-! ## Faithful references -/

section Faithful

variable (python : MeterText)

/-- The reference of an anchor, by its parts. -/
def anchorReference (product label : String) (deployment : Deployment) (anchor : String) :
    PriceReference :=
  ["azure_retail", product, label, deployment.text, anchor]

/-- The regions of a deployment that are priced charge alike. -/
def ChargeAlike (product label : String) (rows : List PriceRow) (deployment : Deployment) : Prop :=
  ∀ region region' rates rates',
    regionRates python product label rows deployment region = some rates →
    regionRates python product label rows deployment region' = some rates' → rates = rates'

/-- What an option says, and the references that it gives. -/
structure FaithfulOption (model : PublishedModel) (fetched : Fetched) (option : PublishedOption)
    (deployment : Deployment) : Prop where
  named : option.deployment = deployment.text
  charged : ∀ region ∈ option.regions,
    regionRates python model.product model.label fetched.rows deployment region
      = some option.entry.prices
  reference : (ChargeAlike python model.product model.label fetched.rows deployment ∧
      option.reference = anchorReference model.product model.label deployment "*") ∨
    ∃ region ∈ option.regions,
      option.reference = anchorReference model.product model.label deployment region
  byRegion : ∀ emitted ∈ option.referencesByRegion, emitted.1 ∈ option.regions ∧
    emitted.2 = anchorReference model.product model.label deployment emitted.1

/-- A build puts each priced region into one option, and its references resolve to the rates
of their regions. -/
structure FaithfulBuild (model : PublishedModel) (fetched : Fetched) : Prop where
  partition : ∀ deployment region rates,
    regionRates python model.product model.label fetched.rows deployment region = some rates →
      ∃ option, (optionsFrom python model fetched).options.filter
          (fun option => option.deployment = deployment.text ∧ region ∈ option.regions) = [option] ∧
        option.entry.prices = rates
  options : ∀ option ∈ (optionsFrom python model fetched).options,
    ∃ deployment, FaithfulOption python model fetched option deployment
  resolves : ∀ option ∈ (optionsFrom python model fetched).options, ∀ reference,
    (reference = option.reference ∨ ∃ region, (region, reference) ∈ option.referencesByRegion) →
      ∀ feed now catalog, Serves python feed now catalog model.product model.label fetched →
        ∃ entry, result (AzureRetailCatalog.readEntry python feed now reference) catalog
            = .ok (some entry) ∧
          entry.prices = option.entry.prices

/-- In a later build, a reference to a region resolves to what the region then charges, unless
the region has the name of all regions, is priced no more, and others charge alike.  And a
reference to all regions resolves only where they charge alike, unless a region has their
name. -/
structure FaithfulLater (feed : PriceFeed) (now : ℚ) (catalog : AzureRetailCatalog)
    (product label : String) (later : Fetched) (deployment : Deployment) : Prop where
  region : ∀ region, ∃ entry,
    result (AzureRetailCatalog.readEntry python feed now
        (anchorReference product label deployment region)) catalog = .ok entry ∧
      (entry.map (·.prices) = regionRates python product label later.rows deployment region ↔
        region ≠ "*" ∨ regionRates python product label later.rows deployment "*" ≠ none ∨
          ¬ChargeAlike python product label later.rows deployment ∨
          ∀ other, regionRates python product label later.rows deployment other = none)
  all : ∃ entry, result (AzureRetailCatalog.readEntry python feed now
        (anchorReference product label deployment "*")) catalog = .ok entry ∧
      ((entry.isSome = true → ChargeAlike python product label later.rows deployment) ↔
        regionRates python product label later.rows deployment "*" = none ∨
          ChargeAlike python product label later.rows deployment)

variable {python} {model : PublishedModel} {fetched : Fetched} {deployment : Deployment}

theorem chargeAlike_iff {product label : String} {rows : List PriceRow} :
    ChargeAlike python product label rows deployment ↔
      ¬Varies (pricedRegions python product label rows) deployment := by
  constructor
  · rintro halike ⟨p, hp, q, hq, rfl, hdeployment, hne⟩
    have hq' := mem_pricedRegions.1 hq
    rw [hdeployment] at hq'
    exact hne (halike _ _ _ _ (mem_pricedRegions.1 hp) hq')
  · intro hvaries region region' rates rates' h h'
    by_contra hne
    exact hvaries ⟨⟨deployment, region, rates⟩, mem_pricedRegions.2 h,
      ⟨deployment, region', rates'⟩, mem_pricedRegions.2 h', rfl, rfl, hne⟩

theorem faithfulOption_of_mem (hcolon : ColonlessModel model fetched.rows)
    {option : PublishedOption} (h : option ∈ (optionsFrom python model fetched).options) :
    ∃ deployment, FaithfulOption python model fetched option deployment := by
  obtain ⟨p, hp, rfl⟩ := mem_optionsOf.1 (mem_options.1 h)
  refine ⟨p.deployment, rfl, fun region hregion => ?_, ?_, fun emitted hemitted => ?_⟩
  · exact mem_pricedRegions.1 (mem_regions_optionAt.1 hregion)
  · have hcases := reference_optionAt python fetched.complete
      (readsImages python model.label fetched.rows) hcolon.product hcolon.label hcolon.priced hp
    rcases hcases with ⟨hvaries, hreference⟩ | ⟨anchor, hanchor, hreference⟩
    · exact .inl ⟨chargeAlike_iff.2 hvaries, hreference⟩
    · exact .inr ⟨anchor, mem_regions_optionAt.2 hanchor, hreference⟩
  · obtain ⟨hmem, hreference⟩ :=
      (referencesByRegion_optionAt hcolon.product hcolon.label hcolon.priced).1 hemitted
    exact ⟨mem_regions_optionAt.2 hmem, hreference⟩

/-- An anchor that names a priced region, or all of them, resolves to their rates. -/
theorem resolves_here {feed : PriceFeed} {now : ℚ} {catalog : AzureRetailCatalog}
    {product label anchor : String} {rates : BucketPrices}
    (hserves : Serves python feed now catalog product label fetched)
    (h : ⟨deployment, anchor, rates⟩ ∈ pricedRegions python product label fetched.rows ∨
      anchor = "*" ∧ ¬Varies (pricedRegions python product label fetched.rows) deployment ∧
        ∃ region, ⟨deployment, region, rates⟩ ∈ pricedRegions python product label fetched.rows) :
    ∃ entry, result (AzureRetailCatalog.readEntry python feed now
        (anchorReference product label deployment anchor)) catalog = .ok (some entry) ∧
      entry.prices = rates := by
  obtain ⟨found, hresult, hrates⟩ := readEntry_rates hserves deployment anchor
  obtain ⟨entry, rfl, hprices⟩ := Option.map_eq_some_iff.1 ((hrates rates).2 h)
  exact ⟨entry, hresult, hprices⟩

theorem faithfulBuild (hcolon : ColonlessModel model fetched.rows) :
    FaithfulBuild python model fetched where
  partition deployment region rates h := by
    refine ⟨optionAt python model fetched.complete (readsImages python model.label fetched.rows)
      (pricedRegions python model.product model.label fetched.rows) deployment rates, ?_, rfl⟩
    have hfilter := filter_optionsOf python model fetched.complete
      (readsImages python model.label fetched.rows) nodup_pricedRegions (priced_iff.2 h)
    have hperm := (List.perm_insertionSort SortedBefore (optionsOf python model fetched.complete
      (readsImages python model.label fetched.rows)
      (pricedRegions python model.product model.label fetched.rows))).filter
        fun option => option.deployment = deployment.text ∧ region ∈ option.regions
    rw [hfilter] at hperm
    exact List.perm_singleton.1 hperm
  options option h := faithfulOption_of_mem hcolon h
  resolves option h reference hreference feed now catalog hserves := by
    obtain ⟨p, hp, rfl⟩ := mem_optionsOf.1 (mem_options.1 h)
    rcases hreference with rfl | ⟨region, hemitted⟩
    · have hcases := reference_optionAt python fetched.complete
        (readsImages python model.label fetched.rows) hcolon.product hcolon.label hcolon.priced hp
      rcases hcases with ⟨hvaries, hreference⟩ | ⟨anchor, hanchor, hreference⟩
      · rw [hreference]
        exact resolves_here hserves (.inr ⟨rfl, hvaries, p.region, hp⟩)
      · rw [hreference]
        exact resolves_here hserves (.inl hanchor)
    · obtain ⟨hmem, hreference⟩ :=
        (referencesByRegion_optionAt hcolon.product hcolon.label hcolon.priced).1 hemitted
      dsimp only at hmem hreference
      rw [hreference]
      exact resolves_here hserves (.inl hmem)

theorem faithfulLater {feed : PriceFeed} {now : ℚ} {catalog : AzureRetailCatalog}
    {product label : String} {later : Fetched}
    (hserves : Serves python feed now catalog product label later) (deployment : Deployment) :
    FaithfulLater python feed now catalog product label later deployment where
  region region := by
    obtain ⟨entry, hresult, hrates⟩ := readEntry_rates hserves deployment region
    refine ⟨entry, hresult, fun heq => ?_, fun hcases => Option.ext fun rates => ?_⟩
    · by_contra hnot
      push Not at hnot
      obtain ⟨rfl, hnone, halike, other, hother⟩ := hnot
      obtain ⟨rates, hother⟩ := Option.ne_none_iff_exists'.1 hother
      have hentry := (hrates rates).2
        (.inr ⟨rfl, chargeAlike_iff.1 halike, other, priced_iff.2 hother⟩)
      rw [heq, hnone] at hentry
      cases hentry
    · rw [hrates, priced_iff]
      refine ⟨fun h => ?_, .inl⟩
      rcases h with hpriced | ⟨rfl, hvaries, other, hother⟩
      · exact hpriced
      · rcases hcases with hne | hpriced | hvaries' | hnone
        · exact absurd rfl hne
        · obtain ⟨own, hown⟩ := Option.ne_none_iff_exists'.1 hpriced
          rw [hown, chargeAlike_iff.2 hvaries _ _ _ _ hown (priced_iff.1 hother)]
        · exact absurd (chargeAlike_iff.2 hvaries) hvaries'
        · have hpriced := priced_iff.1 hother
          rw [hnone other] at hpriced
          cases hpriced
  all := by
    obtain ⟨entry, hresult, hrates⟩ := readEntry_rates hserves deployment "*"
    refine ⟨entry, hresult, fun honly => ?_, fun h hsome => ?_⟩
    · rw [or_iff_not_imp_left]
      intro hpriced
      obtain ⟨rates, hpriced⟩ := Option.ne_none_iff_exists'.1 hpriced
      have hentry := (hrates rates).2 (.inl (priced_iff.2 hpriced))
      obtain ⟨found, rfl, -⟩ := Option.map_eq_some_iff.1 hentry
      exact honly rfl
    · obtain ⟨found, rfl⟩ := Option.isSome_iff_exists.1 hsome
      rcases h with hnone | halike
      · rcases (hrates found.prices).1 rfl with hmem | ⟨-, hvaries, -⟩
        · rw [mem_pricedRegions.1 hmem] at hnone
          cases hnone
        · exact chargeAlike_iff.2 hvaries
      · exact halike

/-- A catalog serves what it keeps, or what is fetched; otherwise the fetch fails. -/
theorem serves_of_reached {seen : PublishedPrices → Prop} {looked : PriceReference → Prop}
    {catalog : DefaultCatalog} (h : DefaultCatalog.Reached python seen looked catalog)
    {product label : String} (hproduct : Colonless product) (hlabel : Colonless label)
    (feed : PriceFeed) (now : ℚ) :
    (∃ fetched, Serves python feed now catalog.azure product label fetched) ∨
      ∃ e, fetch feed (modelQuery product label) = .error e := by
  cases hkept : fresh catalog.azure.ttl now
      (catalog.azure.options (joined ["azure_retail", product, label])) with
  | none =>
      cases hfetch : fetch feed (modelQuery product label) with
      | error e => exact .inr ⟨e, rfl⟩
      | ok fetched => exact .inl ⟨fetched, .inr ⟨hkept, hfetch⟩⟩
  | some options =>
      obtain ⟨time, hoptions, -⟩ := fresh_eq_some.1 hkept
      obtain ⟨read, model, -, hkey, hdescribes, hbuilt⟩ :=
        (keeps_of_reached h).azure.options _ _ hoptions
      obtain ⟨hsame, hsame'⟩ := key_injective hproduct hlabel (hdescribes.key.symm.trans hkey)
      unfold buildOptions at hbuilt
      cases hfetch : fetch read (modelQuery model.product model.label) with
      | error e =>
          rw [hfetch] at hbuilt
          cases hbuilt
      | ok fetched =>
          rw [hfetch] at hbuilt
          obtain rfl := Except.ok.inj hbuilt
          exact .inl ⟨fetched, .inl ⟨model, hsame, hsame', hkept⟩⟩

/-- Stored references stay with their regions: each priced region is in one option, every
reference resolves to the rates of its region in what is read when it is resolved, and the
options are one set in whatever order the rows come.  They are one list just where no two
regions of a deployment have one input price and different rates, a reference to all regions
stands for them just where no region has its name, and what `options` returns follows the
calls before just where the label names a context tier. -/
theorem stored_references (python : MeterText) :
    (∀ model fetched, ColonlessModel model fetched.rows → FaithfulBuild python model fetched) ∧
    (∀ feed now catalog product label later,
      Serves python feed now catalog product label later → ∀ deployment,
        FaithfulLater python feed now catalog product label later deployment) ∧
    (∀ seen looked catalog, DefaultCatalog.Reached python seen looked catalog →
      ∀ product label, Colonless product → Colonless label → ∀ feed now,
        (∃ fetched, Serves python feed now catalog.azure product label fetched) ∨
          ∃ e, fetch feed (modelQuery product label) = .error e) ∧
    (∀ model rows complete, Unambiguous python model.label rows →
      (∀ rows', rows.Perm rows' →
        (optionsFrom python model ⟨rows, complete⟩).options.Perm
            (optionsFrom python model ⟨rows', complete⟩).options ∧
          optionsFrom python model ⟨rows', complete⟩
            = { optionsFrom python model ⟨rows, complete⟩ with
                options := (optionsFrom python model ⟨rows', complete⟩).options }) ∧
      ((∀ rows', rows.Perm rows' → optionsFrom python model ⟨rows', complete⟩
          = optionsFrom python model ⟨rows, complete⟩) ↔
        ¬Tied python model.product model.label rows)) ∧
    ∀ prices, ColonlessIndex python prices.azure → ∀ key,
      (∀ looked catalog, DefaultCatalog.Reached python (· = prices) looked catalog →
        (∀ reference, looked reference → reference.take 3 ≠ key) → ∀ now,
          result (DefaultCatalog.options python prices now key) catalog
            = result (DefaultCatalog.options python prices now key) DefaultCatalog.initial) ∧
      ((∀ catalog, DefaultCatalog.Reached python (· = prices) (fun _ => True) catalog → ∀ now,
          result (DefaultCatalog.options python prices now key) catalog
            = result (DefaultCatalog.options python prices now key) DefaultCatalog.initial) ↔
        NamesNoTier python prices key) := by
  refine ⟨fun model fetched => faithfulBuild, fun _ _ _ _ _ _ => faithfulLater,
    fun seen looked catalog h product label hproduct hlabel =>
      serves_of_reached h hproduct hlabel,
    fun model rows complete hone => ⟨fun rows' h => optionsFrom_order h hone, order_free_iff hone⟩,
    fun prices hcolon key => ⟨fun looked catalog h hnever now => ?_, cache_free_iff hcolon⟩⟩
  rw [result_of_never_looked looked hcolon hnever h,
    result_of_never_looked (fun _ => False) hcolon (fun _ h => h.elim) .initial]

end Faithful

/-! ## A model with a short context -/

namespace Sample

/-- A row of the model's meters. -/
def shortRow (meterName region : String) (price : ℚ) : PriceRow :=
  ⟨some meterName, some "Azure OpenAI GPT5", some price, some "1M", some region⟩

/-- Two regions with one input price and two output prices. -/
def shortRows : List PriceRow :=
  [shortRow "5.6 sol ShortCo Inp Std Gl 1M Tokens" "eastus" 10,
    shortRow "5.6 sol ShortCo Opt Std Gl 1M Tokens" "eastus" 50,
    shortRow "5.6 sol ShortCo Inp Std Gl 1M Tokens" "westus" 10,
    shortRow "5.6 sol ShortCo Opt Std Gl 1M Tokens" "westus" 60]

/-- A feed of these rows only. -/
def shortPrices : PublishedPrices where
  azure := { page := fun _ => .ok ⟨shortRows, none⟩, httpError := fun _ => false }
  anthropic := .ok []

/-- The model of the rows, as the index has it. -/
def shortModel : PublishedModel :=
  indexModel asciiText
    ⟨"5.6 sol ShortCo Std", .input, .global, "eastus", 10, "Azure OpenAI GPT5"⟩ false

theorem shortIndex : buildIndex asciiText shortPrices.azure = .ok [shortModel] := by
  decide +kernel

theorem colonless_shortIndex : ColonlessIndex asciiText shortPrices.azure := by
  intro models h
  obtain rfl := Except.ok.inj (shortIndex.symm.trans h)
  decide +kernel

theorem unambiguous_shortRows : Unambiguous asciiText shortModel.label shortRows := by
  unfold Unambiguous
  decide +kernel

theorem colonless_shortModel : ColonlessModel shortModel shortRows where
  product := by decide +kernel
  label := by decide +kernel
  regions := by decide +kernel

end Sample

open Pricing.Sample in
/-- The references of the model, before and after it is looked up. -/
theorem stored_references_short :
    FaithfulBuild asciiText shortModel ⟨shortRows, true⟩ ∧
    FaithfulLater asciiText shortPrices.azure 0 DefaultCatalog.initial.azure shortModel.product
      shortModel.label ⟨shortRows, true⟩ .global ∧
    ((∃ fetched, Serves asciiText shortPrices.azure 0 DefaultCatalog.initial.azure
        shortModel.product shortModel.label fetched) ∨
      ∃ e, fetch shortPrices.azure (modelQuery shortModel.product shortModel.label) = .error e) ∧
    (optionsFrom asciiText shortModel ⟨shortRows, true⟩).options.Perm
      (optionsFrom asciiText shortModel ⟨shortRows.reverse, true⟩).options ∧
    ((∀ catalog, DefaultCatalog.Reached asciiText (· = shortPrices) (fun _ => True) catalog →
        ∀ now, result (DefaultCatalog.options asciiText shortPrices now shortModel.key) catalog
          = result (DefaultCatalog.options asciiText shortPrices now shortModel.key)
            DefaultCatalog.initial) ↔
      NamesNoTier asciiText shortPrices shortModel.key) :=
  ⟨(stored_references asciiText).1 _ _ colonless_shortModel,
    (stored_references asciiText).2.1 _ _ _ _ _ _ (.inr ⟨rfl, rfl⟩) _,
    (stored_references asciiText).2.2.1 (fun _ => False) (fun _ => False) _ .initial _ _
      colonless_shortModel.product colonless_shortModel.label _ _,
    (((stored_references asciiText).2.2.2.1 _ _ _ unambiguous_shortRows).1 _
      (List.reverse_perm _).symm).1,
    ((stored_references asciiText).2.2.2.2 _ colonless_shortIndex _).2⟩

open Pricing.Sample in
/-- After the model is looked up, `options` returns it without its context tier; and its two
options are in the order of the rows. -/
theorem options_follow_lookup :
    (∃ catalog, DefaultCatalog.Reached asciiText (· = shortPrices) (fun _ => True) catalog ∧
      ∃ now, result (DefaultCatalog.options asciiText shortPrices now shortModel.key) catalog
        ≠ result (DefaultCatalog.options asciiText shortPrices now shortModel.key)
          DefaultCatalog.initial) ∧
    ∃ rows', shortRows.Perm rows' ∧ optionsFrom asciiText shortModel ⟨rows', true⟩
      ≠ optionsFrom asciiText shortModel ⟨shortRows, true⟩ := by
  have hfound : [shortModel].find? (·.key = shortModel.key) = some shortModel := by decide +kernel
  have htier : parseContextTier asciiText shortModel.label ≠ none := by decide +kernel
  constructor
  · have hfollows : ¬∀ catalog, DefaultCatalog.Reached asciiText (· = shortPrices) (fun _ => True)
        catalog → ∀ now,
          result (DefaultCatalog.options asciiText shortPrices now shortModel.key) catalog
            = result (DefaultCatalog.options asciiText shortPrices now shortModel.key)
              DefaultCatalog.initial := by
      rw [cache_free_iff colonless_shortIndex]
      exact fun hnames => htier (hnames _ shortIndex _ hfound _ rfl)
    push Not at hfollows
    exact hfollows
  · exact ⟨shortRows.drop 2 ++ shortRows.take 2, by decide +kernel, by decide +kernel⟩

end Turnstile.Pricing
