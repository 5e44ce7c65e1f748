import Turnstile.Domain.Evidence
import Turnstile.Domain.Price

/-!
# The two prices of a request

A measured request is priced twice.  The ledger charges its completion in integer
rate units, by the rate schedules of the projected price (`usdCompletionCharge`), and
the usage record stores the decimal cost that the price itself gives
(`ModelPrice.costDecimal`).

The ranges of a valid price are contiguous from zero and the last is unbounded, so
exactly one covers a request, and both computations use it.
-/

namespace Turnstile

open Guard

/-! ## Prices -/

/-- `ge=0` of a price. -/
def checkRate (field : String) (rate : ℚ) : Except LedgerError Unit :=
  require (0 ≤ rate) (.tooSmall field)

def Rates.validate (rates : Rates) : Except LedgerError Unit := do
  checkRate "input_price_per_million" rates.inputPricePerMillion
  checkRate "cached_price_per_million" rates.cachedPricePerMillion
  checkRate "cache_write_price_per_million" rates.cacheWritePricePerMillion
  checkRate "output_price_per_million" rates.outputPricePerMillion

/-- The fields of `ModelPriceTier`. -/
def ModelPriceTier.validate (tier : ModelPriceTier) : Except LedgerError Unit := do
  require (1 ≤ tier.key.length) (.tooSmall "key")
  require (0 ≤ tier.minInputTokens) (.tooSmall "min_input_tokens")
  require (∀ maximum ∈ tier.maxInputTokens, 0 ≤ maximum) (.tooSmall "max_input_tokens")
  tier.toRates.validate

/-- The loop of `require_complete_context_ranges`, after tiers with the given keys that
end before `minimum`. -/
def checkContextRanges : List String → Int → List ModelPriceTier → Except LedgerError Unit
  | _, _, [] => .ok ()
  | keys, minimum, tier :: rest => do
      require (tier.key ∉ keys ∧ tier.minInputTokens = minimum)
        (.invalidModel "Context price tiers must be unique, ordered and contiguous")
      match tier.maxInputTokens with
      | none => do
          require (rest = [])
            (.invalidModel "Only the final context price tier may be unbounded")
          checkContextRanges (tier.key :: keys) minimum rest
      | some maximum => do
          require (tier.minInputTokens ≤ maximum)
            (.invalidModel "Context price tier bounds must be ordered")
          checkContextRanges (tier.key :: keys) (maximum + 1) rest

/-- The tier covers a request of that input length. -/
def ModelPriceTier.Covers (tier : ModelPriceTier) (total : Int) : Prop :=
  tier.minInputTokens ≤ total ∧ ∀ maximum ∈ tier.maxInputTokens, total ≤ maximum

instance (tier : ModelPriceTier) (total : Int) : Decidable (tier.Covers total) :=
  inferInstanceAs (Decidable (_ ∧ _))

namespace ModelPrice

/-- `require_complete_context_ranges`. -/
def requireCompleteContextRanges (price : ModelPrice) : Except LedgerError Unit :=
  match price.contextTiers.getLast? with
  | none => .ok ()
  | some last => do
      checkContextRanges [] 0 price.contextTiers
      require (last.maxInputTokens = none)
        (.invalidModel "Context price tiers must cover all input lengths")

/-- The fields and the validator of `ModelPrice`. -/
def validate (price : ModelPrice) : Except LedgerError Unit := do
  price.toRates.validate
  require (price.contextTiers.length ≤ 32) (.tooLarge "context_tiers")
  price.contextTiers.forM ModelPriceTier.validate
  price.requireCompleteContextRanges

/-- `ModelPrice(...)`. -/
def modelValidate (price : ModelPrice) : Except LedgerError ModelPrice := do
  price.validate
  pure price

/-- `for_input_tokens`. -/
def forInputTokens (price : ModelPrice) (totalInputTokens : Int) :
    Except LedgerError ModelPrice := do
  require (0 ≤ totalInputTokens)
    (.valueError "Measured total input tokens must be a nonnegative integer")
  if price.contextTiers = [] then pure price
  else
    match price.contextTiers.find? fun tier => decide (tier.Covers totalInputTokens) with
    | some tier =>
        modelValidate
          { toRates := tier.toRates, contextTiers := [], selectedTier := some tier.key }
    | none => .error (.valueError "No context price tier covers the request")

/-- `cost_decimal`.  A token count times a rate, and the sums, are decimal fractions
that the context rounds. -/
def costDecimal (price : ModelPrice) (usage : UsageCounters) : Except LedgerError ℚ := do
  let price ← price.forInputTokens (usage.inputTokens + usage.cachedTokens)
  let cacheReads := max (usage.cachedTokens - usage.cacheWriteTokens) 0
  let c := localContext
  let total :=
    c.value
      (c.value
        (c.value
          (c.value (usage.inputTokens * price.inputPricePerMillion)
            + c.value (cacheReads * price.cachedPricePerMillion))
          + c.value (usage.cacheWriteTokens * price.cacheWritePricePerMillion))
        + c.value (usage.outputTokens * price.outputPricePerMillion))
  pure (c.value (total / 1000000))

end ModelPrice

/-- The USD cost that `normalize` stores for a measured request with a projected price;
the event may carry the cost that its producer charged. -/
def normalizeUsdCost (projection : BudgetPriceProjection) (eventUsdCost : Option ℚ)
    (usage : UsageCounters) : Except LedgerError ℚ := do
  let price ← (match projection.price with
    | some price => pure price
    | none => .error (.valueError "APIM USD cost does not match its admission price snapshot"))
  (match eventUsdCost with
    | none => pure ()
    | some cost => do
        let expected ← price.costDecimal usage
        require (cost = expected)
          (.valueError "APIM USD cost does not match its admission price snapshot"))
  let selected ← (if price.contextTiers = [] then pure price
    else price.forInputTokens (usage.inputTokens + usage.cachedTokens))
  selected.costDecimal usage

/-! ## Ranges -/

/-- The rates of one range of input lengths. -/
structure PriceRange extends Rates where
  minimum : Int
  maximum : Option Int

namespace PriceRange

def Covers (range : PriceRange) (total : Int) : Prop :=
  range.minimum ≤ total ∧ ∀ maximum ∈ range.maximum, total ≤ maximum

instance (range : PriceRange) (total : Int) : Decidable (range.Covers total) :=
  inferInstanceAs (Decidable (_ ∧ _))

/-- The bounds of the range are token counts of the ledger. -/
def BoundsFit (range : PriceRange) : Prop :=
  range.minimum ≤ maxTokens ∧ ∀ maximum ∈ range.maximum, maximum ≤ maxTokens

end PriceRange

def ModelPriceTier.range (tier : ModelPriceTier) : PriceRange where
  toRates := tier.toRates
  minimum := tier.minInputTokens
  maximum := tier.maxInputTokens

/-- The ranges of a price: its tiers, or one for all lengths. -/
def ModelPrice.ranges (price : ModelPrice) : List PriceRange :=
  if price.contextTiers = [] then [⟨price.toRates, 0, none⟩]
  else price.contextTiers.map ModelPriceTier.range

/-- The ranges follow one another from `minimum` on, and the last is unbounded. -/
inductive Contiguous : Int → List PriceRange → Prop where
  | last {minimum : Int} {range : PriceRange} : range.minimum = minimum → range.maximum = none →
      Contiguous minimum [range]
  | cons {minimum maximum : Int} {range : PriceRange} {rest : List PriceRange} :
      range.minimum = minimum → range.maximum = some maximum → minimum ≤ maximum →
      Contiguous (maximum + 1) rest → Contiguous minimum (range :: rest)

theorem contiguous_of_checkContextRanges : ∀ {tiers : List ModelPriceTier} {keys : List String}
    {minimum : Int}, checkContextRanges keys minimum tiers = .ok () →
    ∀ {last : ModelPriceTier}, tiers.getLast? = some last → last.maxInputTokens = none →
      Contiguous minimum (tiers.map ModelPriceTier.range)
  | [], _, _, _, _, hlast, _ => by cases hlast
  | tier :: rest, keys, minimum, h, last, hlast, hnone => by
      unfold checkContextRanges at h
      obtain ⟨⟨-, hminimum⟩, h⟩ := require_bind_eq_ok.1 h
      cases hmaximum : tier.maxInputTokens with
      | none =>
          rw [hmaximum] at h
          obtain ⟨rfl, -⟩ := require_bind_eq_ok.1 h
          exact .last hminimum hmaximum
      | some maximum =>
          rw [hmaximum] at h
          obtain ⟨hle, h⟩ := require_bind_eq_ok.1 h
          cases rest with
          | nil =>
              rw [List.getLast?_singleton, Option.some.injEq] at hlast
              rw [← hlast, hmaximum] at hnone
              cases hnone
          | cons next rest =>
              rw [List.getLast?_cons_cons] at hlast
              exact .cons hminimum hmaximum (hminimum ▸ hle)
                (contiguous_of_checkContextRanges h hlast hnone)

/-- The ranges of a valid price are contiguous from zero. -/
theorem ModelPrice.contiguous {price : ModelPrice} (h : price.validate = .ok ()) :
    Contiguous 0 price.ranges := by
  unfold ModelPrice.validate at h
  obtain ⟨-, h⟩ := check_bind_eq_ok.1 h
  obtain ⟨-, h⟩ := require_bind_eq_ok.1 h
  obtain ⟨-, h⟩ := check_bind_eq_ok.1 h
  unfold ModelPrice.ranges
  unfold ModelPrice.requireCompleteContextRanges at h
  split
  next => exact .last rfl rfl
  next hne =>
    obtain ⟨last, hlast⟩ := Option.ne_none_iff_exists'.1 (mt List.getLast?_eq_none_iff.1 hne)
    rw [hlast] at h
    obtain ⟨hcheck, h⟩ := check_bind_eq_ok.1 h
    exact contiguous_of_checkContextRanges hcheck hlast (require_eq_ok.1 h)

namespace Contiguous

variable {minimum total : Int} {ranges : List PriceRange}

/-- No range covers a shorter input. -/
theorem filter_of_lt (h : Contiguous minimum ranges) (hlt : total < minimum) :
    ranges.filter (fun range => decide (range.Covers total)) = [] := by
  induction h with
  | last hminimum _ =>
      rw [List.filter_singleton, decide_eq_false fun hcovers => ?_]
      · rfl
      · have := hcovers.1
        omega
  | cons hminimum hmaximum hle _ ih =>
      rw [List.filter_cons_of_neg, ih (by omega)]
      rw [decide_eq_true_eq]
      intro hcovers
      have := hcovers.1
      omega

/-- Exactly one range covers an input. -/
theorem filter_eq_singleton (h : Contiguous minimum ranges) (hle : minimum ≤ total) :
    ∃ range ∈ ranges, ranges.filter (fun range => decide (range.Covers total)) = [range] := by
  induction h with
  | @last _ range hminimum hmaximum =>
      refine ⟨range, List.mem_singleton_self _, ?_⟩
      rw [List.filter_singleton, decide_eq_true ⟨by omega, by simp [hmaximum]⟩]
      rfl
  | @cons _ maximum range rest hminimum hmaximum _ hrest ih =>
      by_cases hwithin : total ≤ maximum
      · refine ⟨range, List.mem_cons_self .., ?_⟩
        rw [List.filter_cons_of_pos, hrest.filter_of_lt (by omega)]
        rw [decide_eq_true_eq]
        exact ⟨by omega, by simpa [hmaximum] using hwithin⟩
      · obtain ⟨found, hmem, hfound⟩ := ih (by omega)
        refine ⟨found, List.mem_cons_of_mem _ hmem, ?_⟩
        rw [List.filter_cons_of_neg, hfound]
        rw [decide_eq_true_eq]
        intro hcovers
        exact hwithin (hcovers.2 maximum hmaximum)

end Contiguous

/-! ## Rate units -/

/-- The rate has at most eight decimal places. -/
def EightPlaces (rate : ℚ) : Prop := (rate * 100000000).den = 1 ∧ 0 ≤ rate * 100000000

/-- The rate in units of `10⁻⁸`. -/
def unitsOf (rate : ℚ) : Int := (rate * 100000000).num

theorem rateUnits_eq_ok {message : String} {rate : ℚ} {units : Int} :
    rateUnits message rate = .ok units ↔ EightPlaces rate ∧ unitsOf rate = units := by
  simp only [rateUnits, require_bind_eq_ok, EightPlaces, unitsOf, pure_eq, Except.ok.injEq]

theorem EightPlaces.cast {rate : ℚ} (h : EightPlaces rate) :
    ((unitsOf rate : ℤ) : ℚ) = rate * 100000000 :=
  Rat.coe_int_num_of_den_eq_one h.1

theorem EightPlaces.nonneg {rate : ℚ} (h : EightPlaces rate) : 0 ≤ unitsOf rate :=
  Rat.num_nonneg.2 h.2

/-- A price with these rates can be projected. -/
structure Rates.Accepted (rates : Rates) : Prop where
  input : EightPlaces rates.inputPricePerMillion
  cached : EightPlaces rates.cachedPricePerMillion
  cacheWrite : EightPlaces rates.cacheWritePricePerMillion
  output : EightPlaces rates.outputPricePerMillion

/-- The rate schedule of a range. -/
def PriceRange.rateSchedule (range : PriceRange) : RateSchedule where
  minInputTokens := range.minimum
  maxInputTokens := range.maximum
  inputRateUnits := unitsOf range.inputPricePerMillion
  cachedRateUnits := unitsOf range.cachedPricePerMillion
  cacheWriteRateUnits := unitsOf range.cacheWritePricePerMillion
  outputRateUnits := unitsOf range.outputPricePerMillion

theorem PriceRange.schedule_eq_ok {range : PriceRange} {message : String}
    {schedule : RateSchedule} :
    range.toRates.schedule message range.minimum range.maximum = .ok schedule ↔
      range.toRates.Accepted ∧ schedule = range.rateSchedule := by
  simp only [Rates.schedule, bind_eq_ok, rateUnits_eq_ok, pure_eq, Except.ok.injEq]
  constructor
  · rintro ⟨_, ⟨hinput, rfl⟩, _, ⟨hcached, rfl⟩, _, ⟨hwrite, rfl⟩, _, ⟨houtput, rfl⟩, rfl⟩
    exact ⟨⟨hinput, hcached, hwrite, houtput⟩, rfl⟩
  · rintro ⟨⟨hinput, hcached, hwrite, houtput⟩, rfl⟩
    exact ⟨_, ⟨hinput, rfl⟩, _, ⟨hcached, rfl⟩, _, ⟨hwrite, rfl⟩, _, ⟨houtput, rfl⟩, rfl⟩

theorem mapM_schedule_eq_ok {message : String} : ∀ {tiers : List ModelPriceTier}
    {schedules : List RateSchedule},
    (tiers.mapM fun tier => tier.toRates.schedule message tier.minInputTokens tier.maxInputTokens)
        = .ok schedules ↔
      (∀ tier ∈ tiers, tier.toRates.Accepted) ∧
        schedules = tiers.map fun tier => tier.range.rateSchedule
  | [], schedules => by simp [eq_comm]
  | tier :: tiers, schedules => by
      have htier : ∀ {schedule}, tier.toRates.schedule message tier.minInputTokens
          tier.maxInputTokens = .ok schedule ↔
            tier.range.toRates.Accepted ∧ schedule = tier.range.rateSchedule :=
        @PriceRange.schedule_eq_ok tier.range message
      simp only [List.mapM_cons, bind_eq_ok, htier, mapM_schedule_eq_ok, pure_eq, Except.ok.injEq,
        List.forall_mem_cons, List.map_cons]
      constructor
      · rintro ⟨_, ⟨haccepted, rfl⟩, _, ⟨hrest, rfl⟩, rfl⟩
        exact ⟨⟨haccepted, hrest⟩, rfl⟩
      · rintro ⟨⟨haccepted, hrest⟩, rfl⟩
        exact ⟨_, ⟨haccepted, rfl⟩, _, ⟨hrest, rfl⟩, rfl⟩

/-- A price has schedules if its rates have at most eight decimal places, and they are
those of its ranges. -/
theorem ModelPrice.schedules_eq_ok {price : ModelPrice} {message : String}
    {schedules : List RateSchedule} : price.schedules message = .ok schedules ↔
      (∀ range ∈ price.ranges, range.toRates.Accepted) ∧
        schedules = price.ranges.map PriceRange.rateSchedule := by
  unfold ModelPrice.schedules ModelPrice.ranges
  split
  next =>
    let range : PriceRange := ⟨price.toRates, 0, none⟩
    have hflat : ∀ {schedule}, price.toRates.schedule message 0 none = .ok schedule ↔
        range.toRates.Accepted ∧ schedule = range.rateSchedule :=
      @PriceRange.schedule_eq_ok range message
    constructor
    · intro h
      cases hschedule : price.toRates.schedule message 0 none with
      | error e =>
          rw [hschedule] at h
          cases h
      | ok schedule =>
          rw [hschedule] at h
          cases h
          obtain ⟨haccepted, rfl⟩ := hflat.1 hschedule
          refine ⟨fun range hmem => ?_, rfl⟩
          rw [List.mem_singleton.1 hmem]
          exact haccepted
    · rintro ⟨haccepted, rfl⟩
      rw [hflat.2 ⟨haccepted _ (List.mem_singleton_self _), rfl⟩]
      rfl
  next => rw [mapM_schedule_eq_ok, List.forall_mem_map, List.map_map]; rfl

/-! ## The selected tier -/

section Scan

variable {minimum total : Int} {range : PriceRange} {ranges : List PriceRange}
  {selected : Option RateSchedule}

/-- What the scan takes along from a range. -/
def PriceRange.select (range : PriceRange) (total : Int) (selected : Option RateSchedule) :
    Option RateSchedule :=
  if range.Covers total then some range.rateSchedule else selected

/-- The scan of the unbounded range. -/
theorem selectTier_last (hminimum : range.minimum = minimum) (hmaximum : range.maximum = none)
    (hnonneg : 0 ≤ minimum) (hfits : range.BoundsFit) :
    selectTier total minimum selected [range.rateSchedule] = .ok (range.select total selected) := by
  obtain ⟨rates, first, last⟩ := range
  obtain rfl : first = minimum := hminimum
  obtain rfl : last = none := hmaximum
  have hmin : first ≤ maxTokens := hfits.1
  by_cases hfirst : first ≤ total <;>
    simp [selectTier, PriceRange.rateSchedule, PriceRange.select, PriceRange.Covers, exactInteger,
      require, hnonneg, hmin, hfirst]

/-- The scan of a bounded range. -/
theorem selectTier_cons {maximum : Int} {next : PriceRange} {rest : List PriceRange}
    (hminimum : range.minimum = minimum) (hmaximum : range.maximum = some maximum)
    (hnonneg : 0 ≤ minimum) (hle : minimum ≤ maximum) (hfits : range.BoundsFit) :
    selectTier total minimum selected ((range :: next :: rest).map PriceRange.rateSchedule) =
      selectTier total (maximum + 1) (range.select total selected)
        ((next :: rest).map PriceRange.rateSchedule) := by
  obtain ⟨rates, first, last⟩ := range
  obtain rfl : first = minimum := hminimum
  obtain rfl : last = some maximum := hmaximum
  have hmin : first ≤ maxTokens := hfits.1
  have hmax : maximum ≤ maxTokens := hfits.2 maximum rfl
  have hpos : 0 ≤ maximum := by omega
  rw [List.map_cons, selectTier]
  by_cases hfirst : first ≤ total <;>
    simp [PriceRange.rateSchedule, PriceRange.select, PriceRange.Covers, exactInteger, require,
      hnonneg, hmin, hmax, hpos, hle, hfirst]

/-- The scan refuses a range whose bounds are too large. -/
theorem selectTier_unfit {rest : List PriceRange} (hunfit : ¬range.BoundsFit) :
    ∃ e, selectTier total minimum selected ((range :: rest).map PriceRange.rateSchedule) =
      .error e := by
  cases hscan : selectTier total minimum selected
      ((range :: rest).map PriceRange.rateSchedule) with
  | error e => exact ⟨e, rfl⟩
  | ok result =>
      obtain ⟨rates, first, last⟩ := range
      rw [List.map_cons, selectTier] at hscan
      obtain ⟨_, hmin, hscan⟩ := bind_eq_ok.1 hscan
      obtain ⟨-, hscan⟩ := require_bind_eq_ok.1 hscan
      obtain ⟨following, hfollowing, -⟩ := bind_eq_ok.1 hscan
      refine absurd ⟨(exactInteger_eq_ok.1 hmin).2, fun maximum hmaximum => ?_⟩ hunfit
      obtain rfl : last = some maximum := hmaximum
      obtain ⟨_, hmax, -⟩ := bind_eq_ok.1 hfollowing
      exact (exactInteger_eq_ok.1 hmax).2

/-- The tier that the scan selects: the last that covers the input. -/
theorem Contiguous.selectTier_eq (h : Contiguous minimum ranges) (hnonneg : 0 ≤ minimum)
    (hfits : ∀ range ∈ ranges, range.BoundsFit) :
    selectTier total minimum selected (ranges.map PriceRange.rateSchedule) =
      .ok (((ranges.filter fun range => decide (range.Covers total)).getLast?.map
        PriceRange.rateSchedule).or selected) := by
  induction h generalizing selected with
  | @last minimum range hminimum hmaximum =>
      rw [List.map_singleton,
        selectTier_last hminimum hmaximum hnonneg (hfits range (List.mem_singleton_self _)),
        List.filter_singleton, PriceRange.select]
      by_cases hcovers : range.Covers total <;> simp [hcovers]
  | @cons minimum maximum range rest hminimum hmaximum hle hrest ih =>
      cases rest with
      | nil => cases hrest
      | cons next rest =>
          rw [selectTier_cons hminimum hmaximum hnonneg hle (hfits range (List.mem_cons_self ..)),
            ih (by omega) fun other hother => hfits other (List.mem_cons_of_mem _ hother),
            PriceRange.select]
          by_cases hcovers : range.Covers total
          · rw [if_pos hcovers, List.filter_cons_of_pos (a := range) (by simpa using hcovers)]
            cases (next :: rest).filter fun range => decide (range.Covers total) with
            | nil => rfl
            | cons a l =>
                rw [List.getLast?_cons_cons, List.getLast?_cons]
                rfl
          · rw [if_neg hcovers, List.filter_cons_of_neg (a := range) (by simpa using hcovers)]

/-- If some bound is too large, the scan raises. -/
theorem Contiguous.selectTier_error (h : Contiguous minimum ranges) (hnonneg : 0 ≤ minimum)
    (hunfit : ∃ range ∈ ranges, ¬range.BoundsFit) :
    ∃ e, selectTier total minimum selected (ranges.map PriceRange.rateSchedule) = .error e := by
  induction h generalizing selected with
  | @last minimum range hminimum hmaximum =>
      obtain ⟨other, hother, hunfit⟩ := hunfit
      rw [List.mem_singleton.1 hother] at hunfit
      exact selectTier_unfit hunfit
  | @cons minimum maximum range rest hminimum hmaximum hle hrest ih =>
      by_cases hfits : range.BoundsFit
      · cases rest with
        | nil => cases hrest
        | cons next rest =>
            rw [selectTier_cons hminimum hmaximum hnonneg hle hfits]
            obtain ⟨other, hother, hunfit⟩ := hunfit
            rcases List.mem_cons.1 hother with rfl | hother
            · exact absurd hfits hunfit
            · exact ih (by omega) ⟨other, hother, hunfit⟩
      · exact selectTier_unfit hfits

end Scan

/-! ## The charge -/

/-- The token counts of a measured request. -/
structure UsageCounters.Measured (usage : UsageCounters) : Prop where
  input : 0 ≤ usage.inputTokens ∧ usage.inputTokens ≤ maxTokens
  cached : 0 ≤ usage.cachedTokens ∧ usage.cachedTokens ≤ maxTokens
  cacheWrite : 0 ≤ usage.cacheWriteTokens ∧ usage.cacheWriteTokens ≤ usage.cachedTokens
  output : 0 ≤ usage.outputTokens ∧ usage.outputTokens ≤ maxTokens

theorem Completion.Valid.measured {completion : Completion} (h : completion.Valid) :
    completion.toUsageCounters.Measured :=
  ⟨h.input, h.cached, ⟨h.cacheWrite.1, h.breakdown.1⟩, h.output⟩

/-- The exact cost of a request, in dollars. -/
def Rates.amount (rates : Rates) (usage : UsageCounters) : ℚ :=
  (usage.inputTokens * rates.inputPricePerMillion
    + (usage.cachedTokens - usage.cacheWriteTokens) * rates.cachedPricePerMillion
    + usage.cacheWriteTokens * rates.cacheWritePricePerMillion
    + usage.outputTokens * rates.outputPricePerMillion) / 1000000

/-- The cost in units of `10⁻¹⁴` dollars. -/
def Rates.charge (rates : Rates) (usage : UsageCounters) : Int :=
  usage.inputTokens * unitsOf rates.inputPricePerMillion
    + (usage.cachedTokens - usage.cacheWriteTokens) * unitsOf rates.cachedPricePerMillion
    + usage.cacheWriteTokens * unitsOf rates.cacheWritePricePerMillion
    + usage.outputTokens * unitsOf rates.outputPricePerMillion

/-- The rate units are numbers of the ledger. -/
structure Rates.UnitsFit (rates : Rates) : Prop where
  input : unitsOf rates.inputPricePerMillion ≤ maxTokens
  cached : unitsOf rates.cachedPricePerMillion ≤ maxTokens
  cacheWrite : unitsOf rates.cacheWritePricePerMillion ≤ maxTokens
  output : unitsOf rates.outputPricePerMillion ≤ maxTokens

section Charge

variable {rates : Rates} {usage : UsageCounters}

theorem Rates.Accepted.charge_eq (h : rates.Accepted) :
    usdDecimal (rates.charge usage) = rates.amount usage := by
  unfold usdDecimal Rates.charge Rates.amount
  push_cast
  rw [h.input.cast, h.cached.cast, h.cacheWrite.cast, h.output.cast]
  ring

theorem Rates.Accepted.charge_inRange (h : rates.Accepted) (hmeasured : usage.Measured) :
    UsdInRange (rates.charge usage) ↔ rates.amount usage < 10 ^ 16 := by
  have hnonneg : 0 ≤ rates.charge usage := by
    have hreads : 0 ≤ usage.cachedTokens - usage.cacheWriteTokens := by
      have := hmeasured.cacheWrite.2
      omega
    exact add_nonneg (add_nonneg (add_nonneg (mul_nonneg hmeasured.input.1 h.input.nonneg)
      (mul_nonneg hreads h.cached.nonneg)) (mul_nonneg hmeasured.cacheWrite.1 h.cacheWrite.nonneg))
      (mul_nonneg hmeasured.output.1 h.output.nonneg)
  rw [← h.charge_eq, usdDecimal, div_lt_iff₀ (by positivity), UsdInRange, usdBound]
  constructor
  · rintro ⟨-, hlt⟩
    have hcast : (rates.charge usage : ℚ) < (10 ^ 30 : ℤ) := by exact_mod_cast hlt
    refine hcast.trans_le ?_
    norm_num
  · intro hlt
    refine ⟨hnonneg, ?_⟩
    have hcast : (rates.charge usage : ℚ) < (10 ^ 30 : ℤ) := by
      refine hlt.trans_le ?_
      norm_num
    exact_mod_cast hcast

/-- Fifty digits hold any charge. -/
theorem localContext_exact_of_lt {x : Int} (h : 0 ≤ x) (h' : x < 10 ^ 50) :
    localContext.Exact x := by
  refine Rounding.fits_of_lt (by decide) ?_
  change x.natAbs < 10 ^ 50
  omega

/-- A product of two numbers of the ledger. -/
theorem tokens_mul_lt {x y : Int} (hx : 0 ≤ x ∧ x ≤ maxTokens) (hy : 0 ≤ y ∧ y ≤ maxTokens) :
    0 ≤ x * y ∧ x * y < 10 ^ 40 := by
  refine ⟨mul_nonneg hx.1 hy.1, ?_⟩
  calc x * y ≤ maxTokens * maxTokens := mul_le_mul hx.2 hy.2 hy.1 (hx.1.trans hx.2)
    _ < 10 ^ 40 := by decide

/-- The charge of the selected tier is computed exactly. -/
theorem Rates.charge_exact (haccepted : rates.Accepted) (hfits : rates.UnitsFit)
    (hmeasured : usage.Measured) :
    localContext.add
      (localContext.add
        (localContext.add
          (localContext.mul usage.inputTokens (unitsOf rates.inputPricePerMillion))
          (localContext.mul (usage.cachedTokens - usage.cacheWriteTokens)
            (unitsOf rates.cachedPricePerMillion)))
        (localContext.mul usage.cacheWriteTokens (unitsOf rates.cacheWritePricePerMillion)))
      (localContext.mul usage.outputTokens (unitsOf rates.outputPricePerMillion))
      = rates.charge usage := by
  have hreads : 0 ≤ usage.cachedTokens - usage.cacheWriteTokens ∧
      usage.cachedTokens - usage.cacheWriteTokens ≤ maxTokens := by
    have := hmeasured.cacheWrite
    have := hmeasured.cached
    omega
  have hwrites : 0 ≤ usage.cacheWriteTokens ∧ usage.cacheWriteTokens ≤ maxTokens :=
    ⟨hmeasured.cacheWrite.1, hmeasured.cacheWrite.2.trans hmeasured.cached.2⟩
  have hinput := tokens_mul_lt hmeasured.input ⟨haccepted.input.nonneg, hfits.input⟩
  have hcached := tokens_mul_lt hreads ⟨haccepted.cached.nonneg, hfits.cached⟩
  have hwrite := tokens_mul_lt hwrites ⟨haccepted.cacheWrite.nonneg, hfits.cacheWrite⟩
  have houtput := tokens_mul_lt hmeasured.output ⟨haccepted.output.nonneg, hfits.output⟩
  have hmul : ∀ {x y : Int}, 0 ≤ x * y ∧ x * y < 10 ^ 40 → localContext.mul x y = x * y :=
    fun h => (localContext_exact_of_lt h.1 (h.2.trans (by decide))).round
  rw [hmul hinput, hmul hcached, hmul hwrite, hmul houtput, Rates.charge]
  generalize usage.inputTokens * unitsOf rates.inputPricePerMillion = a at *
  generalize (usage.cachedTokens - usage.cacheWriteTokens) * unitsOf rates.cachedPricePerMillion
    = b at *
  generalize usage.cacheWriteTokens * unitsOf rates.cacheWritePricePerMillion = c at *
  generalize usage.outputTokens * unitsOf rates.outputPricePerMillion = d at *
  have hadd : ∀ {x y : Int}, 0 ≤ x + y → x + y < 10 ^ 50 → localContext.add x y = x + y :=
    fun h h' => (localContext_exact_of_lt h h').add
  have hab : localContext.add a b = a + b := hadd (by omega) (by omega)
  have habc : localContext.add (a + b) c = a + b + c := hadd (by omega) (by omega)
  have habcd : localContext.add (a + b + c) d = a + b + c + d := hadd (by omega) (by omega)
  rw [hab, habc, habcd]

/-- A decimal fraction of at most fifty digits. -/
theorem localContext_value {x : ℚ} {n : ℤ} {j : ℕ} (hx : x = n / 10 ^ j) (h : 0 ≤ n)
    (h' : n < 10 ^ 50) : localContext.value x = x := by
  refine Rounding.roundRat_of_lt (by decide) ?_ hx
  change n.natAbs < 10 ^ 50
  omega

/-- A cost below `10¹⁶` dollars is computed exactly. -/
theorem Rates.amount_exact (haccepted : rates.Accepted) (hmeasured : usage.Measured)
    (hamount : rates.amount usage < 10 ^ 16) :
    localContext.value
      (localContext.value
        (localContext.value
          (localContext.value
            (localContext.value (usage.inputTokens * rates.inputPricePerMillion)
              + localContext.value
                ((usage.cachedTokens - usage.cacheWriteTokens : Int) * rates.cachedPricePerMillion))
            + localContext.value (usage.cacheWriteTokens * rates.cacheWritePricePerMillion))
          + localContext.value (usage.outputTokens * rates.outputPricePerMillion)) / 1000000)
      = rates.amount usage := by
  have hreads : 0 ≤ usage.cachedTokens - usage.cacheWriteTokens := by
    have := hmeasured.cacheWrite.2
    omega
  have hinput := mul_nonneg hmeasured.input.1 haccepted.input.nonneg
  have hcached := mul_nonneg hreads haccepted.cached.nonneg
  have hwrite := mul_nonneg hmeasured.cacheWrite.1 haccepted.cacheWrite.nonneg
  have houtput := mul_nonneg hmeasured.output.1 haccepted.output.nonneg
  have hcharge := ((haccepted.charge_inRange hmeasured).2 hamount).2
  unfold Rates.charge usdBound at hcharge
  have hrate : ∀ {rate : ℚ} (t : Int), EightPlaces rate →
      (t * rate : ℚ) = ((t * unitsOf rate : ℤ) : ℚ) / 10 ^ 8 := by
    intro rate t h
    push_cast
    rw [h.cast]
    ring
  rw [hrate _ haccepted.input, hrate _ haccepted.cached, hrate _ haccepted.cacheWrite,
    hrate _ haccepted.output]
  have hvalue : ∀ {n : ℤ}, 0 ≤ n → n < 10 ^ 30 → localContext.value (n / 10 ^ 8) = n / 10 ^ 8 :=
    fun h h' => localContext_value rfl h (h'.trans (by decide))
  have hsum : ∀ {m n : ℤ}, 0 ≤ m + n → m + n < 10 ^ 30 →
      localContext.value ((m : ℚ) / 10 ^ 8 + n / 10 ^ 8) = ((m + n : ℤ) : ℚ) / 10 ^ 8 := by
    intro m n h h'
    rw [← hvalue h h']
    push_cast
    rw [add_div]
  rw [← haccepted.charge_eq, Rates.charge, usdDecimal]
  generalize usage.inputTokens * unitsOf rates.inputPricePerMillion = a at *
  generalize (usage.cachedTokens - usage.cacheWriteTokens) * unitsOf rates.cachedPricePerMillion
    = b at *
  generalize usage.cacheWriteTokens * unitsOf rates.cacheWritePricePerMillion = c at *
  generalize usage.outputTokens * unitsOf rates.outputPricePerMillion = d at *
  rw [hvalue hinput (by omega), hvalue hcached (by omega), hvalue hwrite (by omega),
    hvalue houtput (by omega), hsum (by omega) (by omega), hsum (by omega) (by omega),
    hsum (by omega) (by omega)]
  have htotal : ((a + b + c + d : ℤ) : ℚ) / 10 ^ 8 / 1000000 = (a + b + c + d : ℤ) / 10 ^ 14 := by
    rw [div_div]
    norm_num
  rw [htotal]
  exact localContext_value rfl (by omega) (hcharge.trans (by decide))

end Charge

/-! ## The two prices -/

section Prices

variable {price : ModelPrice} {total : Int} {range : PriceRange}

/-- A price without tiers is its own selection. -/
theorem ModelPrice.forInputTokens_flat (hflat : price.contextTiers = []) (htotal : 0 ≤ total) :
    price.forInputTokens total = .ok price := by
  rw [forInputTokens, require_bind_of htotal, if_pos hflat]
  rfl

theorem ModelPrice.tiers_valid (h : price.validate = .ok ()) :
    ∀ tier ∈ price.contextTiers, tier.validate = .ok () := by
  unfold ModelPrice.validate at h
  obtain ⟨-, h⟩ := check_bind_eq_ok.1 h
  obtain ⟨-, h⟩ := require_bind_eq_ok.1 h
  obtain ⟨hall, -⟩ := check_bind_eq_ok.1 h
  have hforM : ∀ {tiers : List ModelPriceTier}, tiers.forM ModelPriceTier.validate = .ok () →
      ∀ tier ∈ tiers, tier.validate = .ok () := by
    intro tiers
    induction tiers with
    | nil => exact fun _ tier htier => absurd htier List.not_mem_nil
    | cons first rest ih =>
        intro h tier htier
        obtain ⟨hfirst, hrest⟩ := check_bind_eq_ok.1 h
        rcases List.mem_cons.1 htier with rfl | htier
        · exact hfirst
        · exact ih hrest tier htier
  exact hforM hall

/-- The selected price has the rates of the range that covers the input, and no tiers. -/
theorem ModelPrice.forInputTokens_eq (hvalid : price.validate = .ok ()) (htotal : 0 ≤ total)
    (hrange : price.ranges.filter (fun range => decide (range.Covers total)) = [range]) :
    ∃ selected, price.forInputTokens total = .ok selected ∧ selected.toRates = range.toRates ∧
      selected.contextTiers = [] := by
  by_cases hflat : price.contextTiers = []
  · refine ⟨price, forInputTokens_flat hflat htotal, ?_, hflat⟩
    have hmem : range ∈ price.ranges :=
      List.mem_of_mem_filter (hrange ▸ List.mem_singleton_self range)
    rw [ModelPrice.ranges, if_pos hflat] at hmem
    rw [List.mem_singleton.1 hmem]
  · rw [ModelPrice.ranges, if_neg hflat, List.filter_map] at hrange
    obtain ⟨tier, htiers, htier⟩ := List.map_eq_singleton_iff.1 hrange
    have hfilter : price.contextTiers.filter (fun tier => decide (tier.Covers total)) = [tier] :=
      htiers
    have hmem : tier ∈ price.contextTiers :=
      List.mem_of_mem_filter (hfilter ▸ List.mem_singleton_self tier)
    have hfind : price.contextTiers.find? (fun tier => decide (tier.Covers total)) = some tier := by
      rw [← List.head?_filter, hfilter]
      rfl
    have hrates : tier.toRates.validate = .ok () := by
      have h := price.tiers_valid hvalid tier hmem
      unfold ModelPriceTier.validate at h
      obtain ⟨-, h⟩ := require_bind_eq_ok.1 h
      obtain ⟨-, h⟩ := require_bind_eq_ok.1 h
      exact (require_bind_eq_ok.1 h).2
    refine ⟨⟨tier.toRates, [], some tier.key⟩, ?_, by rw [← htier]; rfl, rfl⟩
    rw [forInputTokens, require_bind_of htotal, if_neg hflat, hfind]
    simp only [modelValidate, ModelPrice.validate, hrates, ok_bind]
    rfl

/-- The decimal cost is that of the selected range. -/
theorem ModelPrice.costDecimal_eq {usage : UsageCounters} (hvalid : price.validate = .ok ())
    (hmeasured : usage.Measured) (hrange : price.ranges.filter (fun range =>
      decide (range.Covers (usage.inputTokens + usage.cachedTokens))) = [range]) :
    ∃ cost, price.costDecimal usage = .ok cost ∧ (range.toRates.Accepted →
      range.toRates.amount usage < 10 ^ 16 → cost = range.toRates.amount usage) := by
  obtain ⟨selected, hselected, hrates, -⟩ :=
    price.forInputTokens_eq hvalid (add_nonneg hmeasured.input.1 hmeasured.cached.1) hrange
  refine ⟨_, by rw [costDecimal, hselected]; rfl, fun haccepted hamount => ?_⟩
  have hreads : max (usage.cachedTokens - usage.cacheWriteTokens) 0
      = usage.cachedTokens - usage.cacheWriteTokens := by
    have := hmeasured.cacheWrite.2
    omega
  rw [hrates, hreads]
  exact Rates.amount_exact haccepted hmeasured hamount

/-- What a projection that was created from a price holds. -/
theorem BudgetPriceProjection.create_eq_ok {modelId : UUID} {updatedAt : Int}
    {projection : BudgetPriceProjection}
    (h : create modelId (some price) updatedAt = .ok projection) :
    projection.price = some price ∧ (∀ range ∈ price.ranges, range.toRates.Accepted) ∧
      projection.rateSchedules = price.ranges.map PriceRange.rateSchedule ∧
      projection.priceSha256 = digest (some price) projection.rateSchedules := by
  unfold create at h
  split at h
  next rateSchedules hschedules =>
    obtain ⟨haccepted, rfl⟩ := ModelPrice.schedules_eq_ok.1 hschedules
    cases h
    exact ⟨rfl, haccepted, rfl, rfl⟩
  next => cases h

theorem ModelPrice.ranges_length (hvalid : price.validate = .ok ()) :
    1 ≤ price.ranges.length ∧ price.ranges.length ≤ 32 := by
  unfold ModelPrice.validate at hvalid
  obtain ⟨-, hvalid⟩ := check_bind_eq_ok.1 hvalid
  obtain ⟨hlength, -⟩ := require_bind_eq_ok.1 hvalid
  unfold ModelPrice.ranges
  split
  next => simp
  next hne =>
    rw [List.length_map]
    exact ⟨List.length_pos_iff.2 hne, hlength⟩

/-- The charge is that of the selected range, unless a number is too large. -/
theorem usdCompletionCharge_eq_ok {modelId : UUID} {updatedAt : Int}
    {projection : BudgetPriceProjection} {usage : UsageCounters} {units : Int}
    (hvalid : price.validate = .ok ())
    (hcreate : BudgetPriceProjection.create modelId (some price) updatedAt = .ok projection)
    (hmeasured : usage.Measured) (hrange : price.ranges.filter (fun range =>
      decide (range.Covers (usage.inputTokens + usage.cachedTokens))) = [range]) :
    usdCompletionCharge projection usage = .ok units ↔
      ((∀ range ∈ price.ranges, range.BoundsFit) ∧ range.toRates.UnitsFit ∧
        range.toRates.amount usage < 10 ^ 16) ∧ range.toRates.charge usage = units := by
  obtain ⟨hprice, haccepted, hschedules, hdigest⟩ := BudgetPriceProjection.create_eq_ok hcreate
  have hmem : range ∈ price.ranges :=
    List.mem_of_mem_filter (hrange ▸ List.mem_singleton_self range)
  have hlength : 1 ≤ projection.rateSchedules.length ∧ projection.rateSchedules.length ≤ 32 := by
    rw [hschedules, List.length_map]
    exact price.ranges_length hvalid
  have hexpected : price.schedules "USD unit prices must retain eight-decimal precision"
      = .ok (price.ranges.map PriceRange.rateSchedule) :=
    ModelPrice.schedules_eq_ok.2 ⟨haccepted, rfl⟩
  have hcontiguous := price.contiguous hvalid
  have hrates := haccepted range hmem
  unfold usdCompletionCharge
  simp only [hprice, pure_eq, ok_bind, require_bind_of hlength, require_bind_of hdigest, hexpected,
    require_bind_of hschedules]
  rw [hschedules]
  by_cases hbounds : ∀ range ∈ price.ranges, range.BoundsFit
  · simp only [hcontiguous.selectTier_eq (Int.le_refl 0) hbounds, hrange, List.getLast?_singleton,
      Option.map_some, Option.some_or, ok_bind]
    constructor
    · intro h
      obtain ⟨_, hinput, h⟩ := bind_eq_ok.1 h
      obtain ⟨_, hcached, h⟩ := bind_eq_ok.1 h
      obtain ⟨_, hwrite, h⟩ := bind_eq_ok.1 h
      obtain ⟨_, houtput, h⟩ := bind_eq_ok.1 h
      obtain ⟨_, hamount, h⟩ := bind_eq_ok.1 h
      have hfits : range.toRates.UnitsFit :=
        ⟨(exactInteger_eq_ok.1 hinput).2, (exactInteger_eq_ok.1 hcached).2,
          (exactInteger_eq_ok.1 hwrite).2, (exactInteger_eq_ok.1 houtput).2⟩
      have hexact := Rates.charge_exact hrates hfits hmeasured
      have hcharge : range.toRates.charge usage = units := hexact.symm.trans (Except.ok.inj h)
      refine ⟨⟨hbounds, hfits, (hrates.charge_inRange hmeasured).1 ?_⟩, hcharge⟩
      rw [← hexact]
      exact exactUsdAmount_eq_ok.1 hamount
    · rintro ⟨⟨-, hfits, hamount⟩, rfl⟩
      have hexact := Rates.charge_exact hrates hfits hmeasured
      refine bind_eq_ok.2 ⟨(), exactInteger_eq_ok.2 ⟨hrates.input.nonneg, hfits.input⟩, ?_⟩
      refine bind_eq_ok.2 ⟨(), exactInteger_eq_ok.2 ⟨hrates.cached.nonneg, hfits.cached⟩, ?_⟩
      refine bind_eq_ok.2
        ⟨(), exactInteger_eq_ok.2 ⟨hrates.cacheWrite.nonneg, hfits.cacheWrite⟩, ?_⟩
      refine bind_eq_ok.2 ⟨(), exactInteger_eq_ok.2 ⟨hrates.output.nonneg, hfits.output⟩, ?_⟩
      refine bind_eq_ok.2 ⟨(), exactUsdAmount_eq_ok.2 ?_, congrArg Except.ok hexact⟩
      have hrange := (hrates.charge_inRange hmeasured).2 hamount
      rw [← hexact] at hrange
      exact hrange
  · obtain ⟨unfit, hunfit⟩ := not_forall.1 hbounds
    obtain ⟨hunfitMem, hunfit⟩ := Classical.not_imp.1 hunfit
    have hscan : ∃ e, selectTier (usage.inputTokens + usage.cachedTokens) 0 none
        (price.ranges.map PriceRange.rateSchedule) = .error e :=
      hcontiguous.selectTier_error (Int.le_refl 0) ⟨unfit, hunfitMem, hunfit⟩
    obtain ⟨e, he⟩ := hscan
    rw [he, error_bind]
    constructor
    · intro h
      cases h
    · exact fun h => absurd h.1.1 hbounds

/-- The stored cost is the decimal cost, if the event's own cost is. -/
theorem normalizeUsdCost_eq {projection : BudgetPriceProjection} {eventUsdCost : Option ℚ}
    {usage : UsageCounters} {cost : ℚ} (hprice : projection.price = some price)
    (hvalid : price.validate = .ok ()) (hmeasured : usage.Measured)
    (hrange : price.ranges.filter (fun range =>
      decide (range.Covers (usage.inputTokens + usage.cachedTokens))) = [range])
    (hcost : price.costDecimal usage = .ok cost) (hevent : ∀ c ∈ eventUsdCost, c = cost) :
    normalizeUsdCost projection eventUsdCost usage = .ok cost := by
  have htotal := add_nonneg hmeasured.input.1 hmeasured.cached.1
  have hselection : ∃ selected, (if price.contextTiers = [] then .ok price
      else price.forInputTokens (usage.inputTokens + usage.cachedTokens)) = .ok selected ∧
      selected.costDecimal usage = .ok cost := by
    by_cases hflat : price.contextTiers = []
    · exact ⟨price, if_pos hflat, hcost⟩
    · obtain ⟨selected, hselected, -, htiers⟩ := price.forInputTokens_eq hvalid htotal hrange
      refine ⟨selected, by rw [if_neg hflat, hselected], ?_⟩
      rw [ModelPrice.costDecimal, ModelPrice.forInputTokens_flat htiers htotal, ← hselected]
      exact hcost
  obtain ⟨selected, hselected, hstored⟩ := hselection
  unfold normalizeUsdCost
  rw [hprice]
  cases eventUsdCost with
  | none => simp only [pure_eq, ok_bind, hselected, hstored]
  | some c =>
      obtain rfl := hevent c rfl
      simp only [pure_eq, ok_bind, hcost, require_of, hselected, hstored]

/-- What the two computations give for a measured request, by the range that covers its
input. -/
structure PricedAlike (price : ModelPrice) (projection : BudgetPriceProjection)
    (usage : UsageCounters) (range : PriceRange) : Prop where
  /-- No other range covers it. -/
  only : price.ranges.filter (fun range =>
    decide (range.Covers (usage.inputTokens + usage.cachedTokens))) = [range]
  /-- Both select it. -/
  selected : ∃ selected, price.forInputTokens (usage.inputTokens + usage.cachedTokens)
      = .ok selected ∧
    selected.toRates = range.toRates
  scanned : (∀ range ∈ price.ranges, range.BoundsFit) →
    selectTier (usage.inputTokens + usage.cachedTokens) 0 none projection.rateSchedules =
      .ok (some range.rateSchedule)
  /-- The decimal cost is always computed. -/
  computed : ∃ cost, price.costDecimal usage = .ok cost
  /-- The charge is, unless a bound of the price, a rate of the tier or the amount is too
  large. -/
  charged : (∃ units, usdCompletionCharge projection usage = .ok units) ↔
    (∀ range ∈ price.ranges, range.BoundsFit) ∧ range.toRates.UnitsFit ∧
      range.toRates.amount usage < 10 ^ 16
  /-- What is charged is exact, and is what the usage record stores. -/
  agree : ∀ units, usdCompletionCharge projection usage = .ok units →
    price.costDecimal usage = .ok (usdDecimal units) ∧
      usdDecimal units = range.toRates.amount usage ∧
      normalizeUsdCost projection none usage = .ok (usdDecimal units) ∧
      normalizeUsdCost projection (some (usdDecimal units)) usage = .ok (usdDecimal units)

/-- The two prices of a request agree, for every price that can be projected and every
usage that a completion can report. -/
theorem usd_prices_agree {modelId : UUID} {updatedAt : Int} {projection : BudgetPriceProjection}
    {value : Decoded Completion} {completion : Completion} (hvalid : price.validate = .ok ())
    (hcreate : BudgetPriceProjection.create modelId (some price) updatedAt = .ok projection)
    (hcompletion : validateCompletion value = .ok completion) :
    ∃ range ∈ price.ranges, PricedAlike price projection completion.toUsageCounters range := by
  have hmeasured := (validateCompletion_eq_ok.1 hcompletion).2.measured
  have htotal := add_nonneg hmeasured.input.1 hmeasured.cached.1
  obtain ⟨range, hmem, hrange⟩ := (price.contiguous hvalid).filter_eq_singleton htotal
  obtain ⟨hprice, haccepted, hschedules, -⟩ := BudgetPriceProjection.create_eq_ok hcreate
  obtain ⟨selected, hselected, hrates, -⟩ := price.forInputTokens_eq hvalid htotal hrange
  obtain ⟨cost, hcost, hexact⟩ := price.costDecimal_eq hvalid hmeasured hrange
  have hcharge :
      ∀ units, usdCompletionCharge projection completion.toUsageCounters = .ok units ↔ _ :=
    fun units => usdCompletionCharge_eq_ok hvalid hcreate hmeasured hrange
  refine ⟨range, hmem, hrange, ⟨selected, hselected, hrates⟩, fun hbounds => ?_, ⟨cost, hcost⟩,
    ⟨fun ⟨units, h⟩ => ((hcharge units).1 h).1, fun h => ⟨_, (hcharge _).2 ⟨h, rfl⟩⟩⟩,
    fun units hunits => ?_⟩
  · rw [hschedules, (price.contiguous hvalid).selectTier_eq (Int.le_refl 0) hbounds, hrange]
    rfl
  · obtain ⟨⟨-, -, hamount⟩, rfl⟩ := (hcharge units).1 hunits
    have hdecimal : usdDecimal (range.toRates.charge completion.toUsageCounters) = _ :=
      (haccepted range hmem).charge_eq
    rw [hexact (haccepted range hmem) hamount, ← hdecimal] at hcost
    exact ⟨hcost, hdecimal,
      normalizeUsdCost_eq hprice hvalid hmeasured hrange hcost fun _ h => (nomatch h),
      normalizeUsdCost_eq hprice hvalid hmeasured hrange hcost fun _ h => (Option.some.inj h).symm⟩

end Prices

namespace Sample

/-- Two context tiers; the longer inputs cost twice as much. -/
def tieredPrice : ModelPrice where
  inputPricePerMillion := 0
  cachedPricePerMillion := 0
  cacheWritePricePerMillion := 0
  outputPricePerMillion := 0
  contextTiers :=
    [⟨⟨5 / 4, 1 / 8, 3 / 2, 10⟩, "short", 0, some 200000⟩,
      ⟨⟨5 / 2, 1 / 4, 3, 15⟩, "long", 200001, none⟩]
  selectedTier := none

/-- A price of `10¹¹` dollars per million tokens. -/
def dearPrice : ModelPrice where
  inputPricePerMillion := 100000000000
  cachedPricePerMillion := 0
  cacheWritePricePerMillion := 0
  outputPricePerMillion := 0
  contextTiers := []
  selectedTier := none

/-- A measured request of 250000 input tokens, 50000 of them cached. -/
def longUsage : Completion where
  inputTokens := 200000
  cachedTokens := 50000
  cacheWriteTokens := 10000
  outputTokens := 7
  totalTokens := 250007
  source := .observer
  observedAt := 0
  rejection := none

/-- A measured request of one input token. -/
def oneToken : Completion where
  inputTokens := 1
  cachedTokens := 0
  cacheWriteTokens := 0
  outputTokens := 0
  totalTokens := 1
  source := .observer
  observedAt := 0
  rejection := none

end Sample

/-- A request of one token at `10¹¹` dollars per million costs `10⁵` dollars, but its rate
in units is not a number of the ledger, and the completion raises. -/
theorem dear_price_is_not_charged : ¬∀ (price : ModelPrice) (projection : BudgetPriceProjection)
    (completion : Completion), price.validate = .ok () →
    BudgetPriceProjection.create 3 (some price) 0 = .ok projection →
    validateCompletion (.record completion) = .ok completion →
    ∀ cost, price.costDecimal completion.toUsageCounters = .ok cost → cost < 10 ^ 16 →
      ∃ units, usdCompletionCharge projection completion.toUsageCounters = .ok units ∧
        usdDecimal units = cost := by
  intro hclaim
  have hcharge : (do
      let projection ← BudgetPriceProjection.create 3 (some Sample.dearPrice) 0
      pure (usdCompletionCharge projection Sample.oneToken.toUsageCounters)) =
        .ok (.error (.notExactInteger "input_rate_units" (10 ^ 19))) := by
    decide +kernel
  obtain ⟨projection, hcreate, hcharge⟩ := bind_eq_ok.1 hcharge
  obtain ⟨units, hunits, -⟩ := hclaim Sample.dearPrice projection Sample.oneToken
    (by decide +kernel) hcreate (by decide +kernel) 100000 (by decide +kernel) (by decide +kernel)
  rw [Except.ok.inj hcharge] at hunits
  cases hunits

/-- A request in the upper tier of a price with two. -/
theorem usd_prices_agree_sample : ∃ projection range,
    PricedAlike Sample.tieredPrice projection Sample.longUsage.toUsageCounters range ∧
      usdCompletionCharge projection Sample.longUsage.toUsageCounters = .ok 54010500000000 := by
  have hcharge : (BudgetPriceProjection.create 3 (some Sample.tieredPrice) 0 >>= fun projection =>
      usdCompletionCharge projection Sample.longUsage.toUsageCounters) = .ok 54010500000000 := by
    decide +kernel
  obtain ⟨projection, hcreate, hcharge⟩ := bind_eq_ok.1 hcharge
  have hvalid : Sample.tieredPrice.validate = .ok () := by decide +kernel
  have hcompletion : validateCompletion (.record Sample.longUsage) = .ok Sample.longUsage := by
    decide +kernel
  obtain ⟨range, -, hpriced⟩ := usd_prices_agree hvalid hcreate hcompletion
  exact ⟨projection, range, hpriced, hcharge⟩

end Turnstile
