import Turnstile.Domain.ModelRouter
import Turnstile.Pricing.Catalog

/-!
# Meters of the retail catalog

A row of Azure's retail catalog prices one meter.  The name of a meter is read word by word:
a bucket, a mark of the cache, a deployment, and all other words are the name of the model
(`parseMeterName`).  A name that the vocabulary does not cover, and one that prices something
other than a request, are not read.

The characters of `\w` and `str.lower` are Python's.
-/

namespace Turnstile.Pricing

/-- Python's texts, as far as meters need them. -/
structure MeterText where
  lower : String → String
  /-- The characters of `\w`. -/
  isWord : Char → Bool

/-- A way to deploy a model. -/
inductive Deployment where
  | global
  | dataZone
  | regional
  | standard
deriving DecidableEq, Repr

def Deployment.text : Deployment → String
  | global => "Global"
  | dataZone => "Data Zone"
  | regional => "Regional"
  | standard => "Standard"

theorem Deployment.text_injective : Function.Injective Deployment.text := by
  intro a b h
  cases a <;> cases b <;> first | rfl | exact absurd h (by decide)

/-! ## The vocabulary -/

def bucketInput : List String := ["inp", "inpt", "input"]

def bucketOutput : List String := ["outp", "outpt", "output", "out", "opt"]

def cachedWords : List String := ["cached", "cchd", "ccchd", "cd", "cache"]

def cacheWriteWords : List String := ["wr", "write"]

/-- `_DEPLOYMENT`. -/
def deploymentOf (word : String) : Option Deployment :=
  if word ∈ ["glbl", "gl", "global"] then some .global
  else if word ∈ ["regnl", "rgnl", "regional"] then some .regional
  else if word ∈ ["dz", "dzn", "dzl", "dzone", "datazone"] then some .dataZone
  else none

def notAChatRate : List String :=
  ["batch", "ft", "finetuned", "hosting", "training", "rft", "grader", "provisioned", "managed",
    "reservation", "surcharge", "deployment"]

def noiseWords : List String := ["tokens", "1m", "1k"]

/-- `_AZURE_FREE_OUTPUT_MODELS`. -/
def azureFreeOutputModels : List (String × String) :=
  [("Microsoft Decision Models", "Microsoft Decision 1")]

/-! ## Patterns -/

/-- A letter matches a pattern, in either case. -/
def foldsTo (pattern c : Char) : Bool :=
  c.toLower == pattern || (pattern == 's' && c == 'ſ')

/-- What follows a word, if the text starts with it. -/
def dropWord : List Char → List Char → Option (List Char)
  | [], text => some text
  | _ :: _, [] => none
  | p :: pattern, c :: text => if foldsTo p c then dropWord pattern text else none

/-- `re.sub` with a pattern that says, at each place, what follows the match.  `skip`
characters of the last match are left, and `previous` is the character before. -/
def substitute (pattern : Option Char → List Char → Option (List Char)) (replacement : List Char) :
    ℕ → Option Char → List Char → List Char
  | _, _, [] => []
  | skip + 1, _, c :: text => substitute pattern replacement skip (some c) text
  | 0, previous, c :: text =>
      match pattern previous (c :: text) with
      | some rest =>
          replacement ++
            substitute pattern replacement (text.length - rest.length) (some c) text
      | none => c :: substitute pattern replacement 0 (some c) text

variable (python : MeterText)

/-- `\b`, next to a letter. -/
def MeterText.boundary (neighbour : Option Char) : Bool := !neighbour.any python.isWord

/-- `\bdata\s+zone\b`. -/
def twoWordDeployment (previous : Option Char) (text : List Char) : Option (List Char) := do
  guard (python.boundary previous)
  let rest ← dropWord "data".toList text
  guard (rest.head?.any isSpace)
  let after ← dropWord "zone".toList (rest.dropWhile isSpace)
  guard (python.boundary after.head?)
  pure after

/-- The words of the name of a meter. -/
def meterWords (name : String) : List String :=
  let text := substitute (twoWordDeployment python) "DataZone".toList 0 none name.toList
  ((text.splitOnP fun c => isSpace c || c == '-').filter (· ≠ [])).map String.ofList

/-- What follows `\b(short|long)(?:co\b|[\s_-]+context\b)`, and its first group. -/
def contextMarker (previous : Option Char) (text : List Char) : Option (List Char × List Char) := do
  guard (python.boundary previous)
  let (size, rest) ← ((dropWord "short".toList text).map fun rest => (5, rest)).or
    ((dropWord "long".toList text).map fun rest => (4, rest))
  let separator := fun c => isSpace c || c == '_' || c == '-'
  let joined := (dropWord "co".toList rest).filter fun after => python.boundary after.head?
  let apart := if rest.head?.any separator then
      (dropWord "context".toList (rest.dropWhile separator)).filter fun after =>
        python.boundary after.head?
    else none
  let after ← joined.or apart
  pure (text.take size, after)

/-- The markers of a label: what is before each, its first group, and what is after it.  A
match has no boundary inside that starts another. -/
def contextMarkers : List Char → List Char → List (List Char × List Char × List Char)
  | _, [] => []
  | before, c :: text =>
      ((contextMarker python before.head? (c :: text)).map fun marker =>
        (before.reverse, marker.1, marker.2)).toList ++ contextMarkers (c :: before) text

/-- `re.sub(r"\(\s*\)", "", text)`. -/
def dropEmptyParentheses (text : List Char) : List Char :=
  substitute (fun _ rest =>
    match rest with
    | '(' :: inner =>
        match inner.dropWhile isSpace with
        | ')' :: after => some after
        | _ => none
    | _ => none) [] 0 none text

/-- `re.sub(r"\s+", " ", text)`. -/
def collapseSpaces (text : List Char) : List Char :=
  substitute (fun _ rest => if rest.head?.any isSpace then some (rest.dropWhile isSpace) else none)
    [' '] 0 none text

/-- `parse_context_tier`. -/
def parseContextTier (label : String) : Option PriceCatalogContextTier :=
  match contextMarkers python [] label.toList with
  | [(before, size, after)] =>
      let name := strip (String.ofList
        (collapseSpaces (dropEmptyParentheses (before ++ ' ' :: after))))
      let short := python.lower (String.ofList size) = "short"
      if name = "" then none
      else some {
        groupKey := python.lower name
        modelLabel := name
        serviceTier := ""
        key := if short then "short" else "long"
        label := if short then "短上下文" else "长上下文"
        order := if short then 0 else 1
        inputRange := none
        inputRangeSource := none }
  | _ => none

/-! ## Names -/

/-- The state of the loop of `parse_meter_name`. -/
structure MeterScan where
  slot : Option Bucket
  deployment : Option Deployment
  cached : Bool
  cacheWrite : Bool
  kept : List String

/-- One word, which is not a cache marker with a write after it. -/
def MeterScan.read (scan : MeterScan) (word : String) : MeterScan :=
  let lowered := python.lower word
  if scan.slot = none ∧ lowered ∈ bucketInput then { scan with slot := some .input }
  else if scan.slot = none ∧ lowered ∈ bucketOutput then { scan with slot := some .output }
  else if scan.deployment = none ∧ (deploymentOf lowered).isSome then
    { scan with deployment := deploymentOf lowered }
  else if lowered ∈ cachedWords then { scan with cached := true }
  else if lowered ∈ noiseWords then scan
  else { scan with kept := scan.kept ++ [word] }

/-- The loop of `parse_meter_name`. -/
def scanWords : List String → MeterScan → MeterScan
  | [], scan => scan
  | [word], scan => scan.read python word
  | word :: following :: rest, scan =>
      if python.lower word ∈ cachedWords ∧ python.lower following ∈ cacheWriteWords then
        scanWords rest { scan with cacheWrite := true }
      else scanWords (following :: rest) (scan.read python word)

/-- The bucket that the words name. -/
def MeterScan.bucket (scan : MeterScan) : Option Bucket :=
  if scan.cacheWrite then some .cacheWrite
  else if scan.cached ∧ (scan.slot = none ∨ scan.slot = some .input) then some .cached
  else scan.slot

/-- `parse_meter_name`. -/
def parseMeterName (name : String) : Option (String × Bucket × Deployment) := do
  let words := meterWords python name
  guard (words.getLast?.any fun word => python.lower word == "tokens")
  guard (words.all fun word => python.lower word ∉ notAChatRate)
  let scan := scanWords python words ⟨none, none, false, false, []⟩
  let slot ← scan.bucket
  let stem := strip (" ".intercalate scan.kept)
  guard (stem ≠ "")
  pure (stem, slot, scan.deployment.getD .standard)

/-- `prices_a_chat_request`. -/
def pricesAChatRequest (name : String) : Bool :=
  let words := meterWords python name
  (words.getLast?.any fun word => python.lower word == "tokens") &&
    words.all fun word => python.lower word ∉ notAChatRate

/-! ## Rows -/

/-- A row of the feed; what it has not, or has as a null, is `none`, and so is a price that is
no number. -/
structure PriceRow where
  meterName : Option String
  productName : Option String
  retailPrice : Option ℚ
  unitOfMeasure : Option String
  armRegionName : Option String
deriving DecidableEq, Repr

/-- `str(value or default)`. -/
def textOr (value : Option String) (default : String) : String :=
  (value.filter (· ≠ "")).getD default

structure ParsedMeter where
  stem : String
  slot : Bucket
  deployment : Deployment
  region : String
  perMillion : ℚ
  product : String
deriving DecidableEq, Repr

/-- `_per_million`. -/
def perMillion (price : Option ℚ) (unit : Option String) : Option ℚ :=
  price.map fun price =>
    roundRate
      (if "1K".toList.isPrefixOf (strip (textOr unit "")).toList then price * 1000 else price)

/-- The name of a model whose output is free, if a row prices its input. -/
def freeOutputStem (name product : String) : Option String :=
  let suffix := " 1M Tokens".toList
  let stem := String.ofList (name.toList.take (name.toList.length - suffix.length))
  if suffix.isSuffixOf name.toList ∧ (product, stem) ∈ azureFreeOutputModels then some stem
  else none

/-- `_parse_row`. -/
def parseRow (row : PriceRow) : Option ParsedMeter := do
  let name := textOr row.meterName ""
  let product := textOr row.productName "Azure"
  let (stem, slot, deployment) ← ((freeOutputStem name product).map fun stem =>
    (stem, Bucket.input, Deployment.global)).or (parseMeterName python name)
  let price ← perMillion row.retailPrice row.unitOfMeasure
  pure ⟨stem, slot, deployment, textOr row.armRegionName "global", price, product⟩

/-- `stem.rpartition(" ")`, without the separator. -/
def rpartition (stem : String) : String × String :=
  let reversed := stem.toList.reverse
  let modality := String.ofList (reversed.takeWhile (· ≠ ' ')).reverse
  match reversed.dropWhile (· ≠ ' ') with
  | [] => ("", modality)
  | _ :: before => (String.ofList before.reverse, modality)

/-- `_text_to_image_meter`. -/
def textToImageMeter (parsed : ParsedMeter) : Option ParsedMeter :=
  let stem := (rpartition parsed.stem).1
  let modality := (rpartition parsed.stem).2
  let lowered := (python.lower stem).toList
  if parsed.product ∈ ["Azure OpenAI", "Azure OpenAI Media"] ∧
      ("gpt image ".toList.isPrefixOf lowered ∨ "image ".toList.isPrefixOf lowered) ∧
      (modality = "txt" ∧ (parsed.slot = .input ∨ parsed.slot = .cached) ∨
        modality = "img" ∧ parsed.slot = .output) then
    some { parsed with stem := stem }
  else none

section Examples

/-- Python's texts, as far as ASCII goes. -/
def asciiText : MeterText where
  lower text := String.ofList (text.toList.map Char.toLower)
  isWord c := c.isAlphanum || c == '_'

example : parseMeterName asciiText "gpt 4.1 cached Inp glbl Tokens"
    = some ("gpt 4.1", .cached, .global) := by decide +kernel

example : parseMeterName asciiText "6-astra ShortCo Cd Wr Std Data Zone 1M Tokens"
    = some ("6 astra ShortCo Std", .cacheWrite, .dataZone) := by decide +kernel

example : (parseContextTier asciiText "5.6 sol ShortCo Std").map (·.groupKey)
    = some "5.6 sol std" := by decide +kernel

end Examples

end Turnstile.Pricing
