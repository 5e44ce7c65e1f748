import Mathlib.Data.List.Sort
import Turnstile.Foundation.Dictionary
import Turnstile.Foundation.Procedure
import Turnstile.Pricing.Meters

/-!
# The retail catalog

`AzureRetailCatalog` reads the prices of a model from the feed.  The regions that charge alike
under one deployment are one option, and each of them has a reference of its own
(`buildOptions`).  A reference is resolved by its parts between colons (`resolve`).  What is
read is kept for some time, under the key of the model.

`Composite` asks one catalog after the other.
-/

namespace Turnstile.Pricing

open Guard Procedure

/-! ## What is published -/

/-- `CatalogModel`, with its mark of an image model. -/
structure PublishedModel extends CatalogModel where
  textToImage : Bool
deriving DecidableEq

/-- `CatalogEntry`, with what a dialog shows of it. -/
structure PublishedEntry extends CatalogEntry where
  detail : Option String
  textToImage : Bool
deriving DecidableEq

/-- `CatalogOption`. -/
structure PublishedOption where
  reference : PriceReference
  deployment : String
  entry : PublishedEntry
  regions : List String
  regionRequired : Bool
  referencesByRegion : List (String × PriceReference)
deriving DecidableEq

/-- `CatalogOptions`, with what could not be read. -/
structure PublishedOptions where
  model : PublishedModel
  options : List PublishedOption
  unreadable : List String
  otherMeters : List String
  note : Option String
  complete : Bool
deriving DecidableEq

/-- `text.split(":")`. -/
def splitColon (text : String) : List String := (text.toList.splitOn ':').map String.ofList

/-- The reference of texts that are joined with colons. -/
def joined (texts : List String) : PriceReference := texts.flatMap splitColon

/-! ## The feed -/

/-- A query of the feed, or the link to a further page. -/
inductive PriceUrl where
  | query (filter : String)
  | link (url : String)
deriving DecidableEq

structure PricePage where
  items : List PriceRow
  nextPageLink : Option String

/-- What `_http_get_json` returns, or raises; `httpError` tells an `httpx.HTTPError`. -/
structure PriceFeed where
  page : PriceUrl → Except PriceError PricePage
  httpError : PriceError → Bool

/-- `_Fetched`. -/
structure Fetched where
  rows : List PriceRow
  complete : Bool
deriving DecidableEq

/-- The loop of `_fetch` over what is left of 25 pages.  The first page is that of the query. -/
def fetchPages (feed : PriceFeed) : ℕ → PriceUrl → List PriceRow → Except PriceError Fetched
  | 0, _, rows => .ok ⟨rows, false⟩
  | pages + 1, url, rows =>
      match feed.page url with
      | .error e =>
          match url with
          | .query _ => .error e
          | .link _ => if feed.httpError e then .ok ⟨rows, false⟩ else .error e
      | .ok page =>
          match page.nextPageLink.filter (· ≠ "") with
          | none => .ok ⟨rows ++ page.items, true⟩
          | some link => fetchPages feed pages (.link link) (rows ++ page.items)

/-- `_fetch`. -/
def fetch (feed : PriceFeed) (filter : String) : Except PriceError Fetched :=
  fetchPages feed 25 (.query filter) []

/-- `_odata_literal`: each apostrophe twice. -/
def odataLiteral (value : String) : String :=
  String.ofList (value.toList.flatMap fun c => if c.toNat = 39 then [c, c] else [c])

/-- `_meter_name_filter`. -/
def meterNameFilter (label : String) : String :=
  let ofTerm := fun c : Char => c.isAlphanum || c == '.'
  let terms :=
    (((strip label).toList.splitOnP fun c => !ofTerm c).filter (· ≠ [])).map String.ofList
  let clauses := (terms.take 4).map fun term =>
    "contains(meterName,'" ++ odataLiteral term ++ "')"
  if terms = [] then "" else "(" ++ " and ".intercalate clauses ++ ")"

/-! ## The index -/

variable (python : MeterText)

/-- A model of the index. -/
def indexModel (parsed : ParsedMeter) (textToImage : Bool) : PublishedModel where
  key := joined ["azure_retail", parsed.product, parsed.stem]
  label := parsed.stem
  product := parsed.product
  source := .azureRetail
  contextTier := parseContextTier python parsed.stem
  textToImage := textToImage

/-- The meters of a row: as it is read, and as that of an image model. -/
def indexMeters (row : PriceRow) : List (ParsedMeter × Bool) :=
  (parseRow python row).toList.flatMap fun parsed =>
    (parsed, false) :: ((textToImageMeter python parsed).map fun image => (image, true)).toList

/-- `_build_index`, of the rows. -/
def indexOf (rows : List PriceRow) : List PublishedModel :=
  let meters := rows.flatMap (indexMeters python)
  let key := fun meter : ParsedMeter × Bool => (meter.1.product, meter.1.stem)
  let seen := Dictionary.collect key
    (fun model meter => model.getD (indexModel python meter.1 meter.2)) meters
  let priced := fun entry : (String × String) × PublishedModel =>
    (∃ meter ∈ meters, key meter = entry.1 ∧ meter.1.slot = .input) ∧
      ((∃ meter ∈ meters, key meter = entry.1 ∧ meter.1.slot = .output) ∨
        azureFreeOutputModels.contains entry.1)
  ((seen.insertionSort fun a b => a.1.1 < b.1.1 ∨ a.1.1 = b.1.1 ∧ a.1.2 ≤ b.1.2).filter
    fun entry => priced entry).map (·.2)

/-- `_build_index`. -/
def buildIndex (feed : PriceFeed) : Except PriceError (List PublishedModel) :=
  (fetch feed ("serviceName eq 'Foundry Models' and armRegionName eq 'eastus' and " ++
    "contains(meterName,'Tokens')")).map fun fetched => indexOf python fetched.rows

/-! ## One model -/

/-- What a row says of a model. -/
inductive RowReading where
  | meter (parsed : ParsedMeter) (textToImage : Bool)
  | unreadable (name : String)
  | other (text : String)
  | skipped
deriving DecidableEq

/-- The body of the loop of `_build_options` over the rows. -/
def readRow (label : String) (row : PriceRow) : RowReading :=
  let name := textOr row.meterName ""
  let named := occursIn (python.lower label) (python.lower name)
  match parseRow python row with
  | some parsed =>
      if parsed.stem = label then .meter parsed false
      else
        match (textToImageMeter python parsed).filter (·.stem = label) with
        | some candidate => .meter candidate true
        | none => .skipped
  | none =>
      if strip name = "" then .skipped
      else if pricesAChatRequest python name = false then
        if named then .other (name ++ " (" ++ row.unitOfMeasure.getD "None" ++ ")")
        else .skipped
      else if named then .unreadable name else .skipped

/-- The meters that price a model. -/
def meters (label : String) (rows : List PriceRow) : List ParsedMeter :=
  rows.filterMap fun row =>
    match readRow python label row with
    | .meter parsed _ => some parsed
    | _ => none

namespace BucketPrices

/-- The prices with a new one in a bucket. -/
def put (prices : BucketPrices) (bucket : Bucket) (price : ℚ) : BucketPrices :=
  match bucket with
  | .input => { prices with input := some price }
  | .output => { prices with output := some price }
  | .cached => { prices with cached := some price }
  | .cacheWrite => { prices with cacheWrite := some price }

theorem get_put (prices : BucketPrices) (bucket other : Bucket) (price : ℚ) :
    (prices.put bucket price).get other = if other = bucket then some price
    else prices.get other := by
  cases bucket <;> cases other <;> rfl

end BucketPrices

/-- `buckets`: the prices of a deployment in a region, by bucket. -/
def buckets (label : String) (rows : List PriceRow) :
    List ((Deployment × String) × BucketPrices) :=
  Dictionary.collect (fun meter : ParsedMeter => (meter.deployment, meter.region))
    (fun prices meter => (prices.getD .empty).put meter.slot meter.perMillion)
    (meters python label rows)

/-- A region with its rates under a deployment. -/
structure PricedRegion where
  deployment : Deployment
  region : String
  rates : BucketPrices
deriving DecidableEq

/-- The rates of a bucket, if it has an input and an output price. -/
def ratesOf (product label : String) (prices : BucketPrices) : Option BucketPrices :=
  let output := prices.output.or
    (if azureFreeOutputModels.contains (product, label) then some 0 else none)
  if prices.input.isSome ∧ output.isSome then some { prices with output := output } else none

/-- The regions that are priced. -/
def pricedRegions (product label : String) (rows : List PriceRow) : List PricedRegion :=
  (buckets python label rows).filterMap fun bucket =>
    (ratesOf product label bucket.2).map fun rates => ⟨bucket.1.1, bucket.1.2, rates⟩

/-- The regions of one deployment, by their rates. -/
def groupRegions (priced : List PricedRegion) : List (BucketPrices × List String) :=
  Dictionary.collect PricedRegion.rates (fun regions p => regions.getD [] ++ [p.region]) priced

/-- `by_deployment`. -/
def byDeployment (priced : List PricedRegion) :
    List (Deployment × List (BucketPrices × List String)) :=
  Dictionary.collect PricedRegion.deployment
    (fun groups p => Dictionary.update p.rates (fun regions => regions.getD [] ++ [p.region])
      (groups.getD [])) priced

/-- `_DEPLOYMENT_ORDER.get(deployment, 9)`. -/
def deploymentOrder (deployment : String) : ℕ :=
  if deployment = "Global" then 0
  else if deployment = "Data Zone" then 1
  else if deployment = "Regional" then 2
  else 9

/-- The option of the regions that charge some rates. -/
def azureOption (model : PublishedModel) (complete textToImage : Bool) (deployment : Deployment)
    (regionRequired : Bool) (group : BucketPrices × List String) : PublishedOption :=
  let regions := group.2.insertionSort (· ≤ ·)
  let reference := fun anchor =>
    joined ["azure_retail", model.product, model.label, deployment.text, anchor]
  let anchor := if regionRequired then regions.headD "" else "*"
  { reference := reference anchor
    deployment := deployment.text
    entry := {
      reference := reference anchor
      label := model.label
      source := .azureRetail
      prices := group.1
      contextTier := model.resolvedContextTier.or (parseContextTier python model.label)
      complete := complete
      detail := some deployment.text
      textToImage := textToImage }
    regions := regions
    regionRequired := regionRequired
    referencesByRegion := regions.map fun region => (region, reference region) }

/-- Options are sorted by their deployment, then by their input price. -/
def SortedBefore (a b : PublishedOption) : Prop :=
  deploymentOrder a.deployment < deploymentOrder b.deployment ∨
    deploymentOrder a.deployment = deploymentOrder b.deployment ∧
      a.entry.prices.input.getD 0 ≤ b.entry.prices.input.getD 0

instance : DecidableRel SortedBefore := fun _ _ => inferInstanceAs (Decidable (_ ∨ _))

/-- The options of the regions that are priced. -/
def optionsOf (model : PublishedModel) (complete textToImage : Bool) (priced : List PricedRegion) :
    List PublishedOption :=
  (byDeployment priced).flatMap fun entry =>
    entry.2.map (azureOption python model complete textToImage entry.1 (1 < entry.2.length))

/-- Some row prices an image model. -/
def readsImages (label : String) (rows : List PriceRow) : Bool :=
  rows.any fun row =>
    match readRow python label row with
    | .meter _ textToImage => textToImage
    | _ => false

/-- `tuple(sorted(set(texts)))`. -/
def sortedTexts (texts : List String) : List String := texts.dedup.insertionSort (· ≤ ·)

/-- `_build_options`, of the rows. -/
def optionsFrom (model : PublishedModel) (fetched : Fetched) : PublishedOptions :=
  let textToImage := readsImages python model.label fetched.rows
  let priced := pricedRegions python model.product model.label fetched.rows
  { model := { model with textToImage := textToImage }
    options := (optionsOf python model fetched.complete textToImage priced).insertionSort
        SortedBefore
    unreadable := sortedTexts (fetched.rows.filterMap fun row =>
      match readRow python model.label row with
      | .unreadable name => some name
      | _ => none)
    otherMeters := sortedTexts (fetched.rows.filterMap fun row =>
      match readRow python model.label row with
      | .other text => some text
      | _ => none)
    note := if fetched.complete then none
      else some "价目表只读到一部分(分页中断),这些价格可以看,但不会被写成实际单价。"
    complete := fetched.complete }

/-- The query of a model. -/
def modelQuery (product label : String) : String :=
  let name := meterNameFilter label
  " and ".intercalate (["serviceName eq 'Foundry Models'",
    "productName eq '" ++ odataLiteral product ++ "'"] ++ if name = "" then [] else [name])

/-- `_build_options`. -/
def buildOptions (feed : PriceFeed) (model : PublishedModel) : Except PriceError PublishedOptions :=
  (fetch feed (modelQuery model.product model.label)).map (optionsFrom python model)

/-- The model that `entry` makes of the parts of a reference. -/
def referenceModel (product stem : String) : PublishedModel where
  key := joined ["azure_retail", product, stem]
  label := stem
  product := product
  source := .azureRetail
  contextTier := none
  textToImage := false

/-- The loop of `entry`. -/
def resolve (deployment anchor : String) (options : List PublishedOption) : Option PublishedEntry :=
  options.findSome? fun option =>
    if option.deployment ≠ deployment then none
    else if anchor = "*" ∧ option.regionRequired = false then some option.entry
    else if anchor ∈ option.regions then some option.entry
    else none

/-! ## The cache -/

/-- `AzureRetailCatalog`: what it keeps, with the time it was read at. -/
structure AzureRetailCatalog where
  ttl : ℚ
  models : Option (ℚ × List PublishedModel)
  options : PriceReference → Option (ℚ × PublishedOptions)

/-- What is kept, unless its time is over. -/
def fresh {α : Type} (ttl now : ℚ) (kept : Option (ℚ × α)) : Option α :=
  (kept.filter fun entry => now - entry.1 < ttl).map (·.2)

/-- `models`. -/
def AzureRetailCatalog.readModels (feed : PriceFeed) (now : ℚ) :
    Procedure PriceError AzureRetailCatalog (List PublishedModel) := do
  let catalog ← get
  match fresh catalog.ttl now catalog.models with
  | some models => pure models
  | none =>
      let built ← Procedure.lift (buildIndex python feed)
      modify fun catalog => { catalog with models := some (now, built) }
      pure built

/-- `options`. -/
def AzureRetailCatalog.readOptions (feed : PriceFeed) (now : ℚ) (model : PublishedModel) :
    Procedure PriceError AzureRetailCatalog PublishedOptions := do
  let catalog ← get
  match fresh catalog.ttl now (catalog.options model.key) with
  | some options => pure options
  | none =>
      let built ← Procedure.lift (buildOptions python feed model)
      modify fun catalog =>
        { catalog with options := Function.update catalog.options model.key (some (now, built)) }
      pure built

/-- `entry`. -/
def AzureRetailCatalog.readEntry (feed : PriceFeed) (now : ℚ) (reference : PriceReference) :
    Procedure PriceError AzureRetailCatalog (Option PublishedEntry) :=
  match reference with
  | [source, product, stem, deployment, anchor] => do
      if source = "azure_retail" then
        let found ← readOptions python feed now (referenceModel product stem)
        pure (resolve deployment anchor found.options)
      else pure none
  | _ => pure none

end Turnstile.Pricing
