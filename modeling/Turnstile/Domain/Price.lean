import Turnstile.Domain.Values

/-!
# Model prices and the USD charge of a completion

A projected price is a snapshot of a model's registry price together with the
integer rate schedules derived from it and the digest of both.  A float rate is
the decimal of its shortest representation.  A rate unit is `10⁻⁸` dollars per
million tokens, so a token count times a rate unit is a USD amount in units of
`10⁻¹⁴`.
-/

namespace Turnstile

open Guard

/-- The four prices per million tokens. -/
structure Rates where
  inputPricePerMillion : ℚ
  cachedPricePerMillion : ℚ
  cacheWritePricePerMillion : ℚ
  outputPricePerMillion : ℚ
deriving DecidableEq, Repr

structure ModelPriceTier extends Rates where
  key : String
  minInputTokens : Int
  maxInputTokens : Option Int
deriving DecidableEq, Repr

structure ModelPrice extends Rates where
  contextTiers : List ModelPriceTier
  selectedTier : Option String
deriving DecidableEq, Repr

/-- One entry of `rate_schedules`. -/
structure RateSchedule where
  minInputTokens : Int
  maxInputTokens : Option Int
  inputRateUnits : Int
  cachedRateUnits : Int
  cacheWriteRateUnits : Int
  outputRateUnits : Int
deriving DecidableEq, Repr

/-- A price in rate units, if it has at most eight decimal places. -/
def rateUnits (message : String) (value : ℚ) : Except LedgerError Int := do
  let scaled := value * 100000000
  require (scaled.den = 1 ∧ 0 ≤ scaled) (.valueError message)
  pure scaled.num

/-- The schedule of one range of input lengths. -/
def Rates.schedule (message : String) (rates : Rates) (minimum : Int) (maximum : Option Int) :
    Except LedgerError RateSchedule := do
  let input ← rateUnits message rates.inputPricePerMillion
  let cached ← rateUnits message rates.cachedPricePerMillion
  let cacheWrite ← rateUnits message rates.cacheWritePricePerMillion
  let output ← rateUnits message rates.outputPricePerMillion
  pure ⟨minimum, maximum, input, cached, cacheWrite, output⟩

/-- The schedules of a price: one per context tier, or one for all lengths. -/
def ModelPrice.schedules (message : String) (price : ModelPrice) :
    Except LedgerError (List RateSchedule) :=
  if price.contextTiers = [] then
    (price.toRates.schedule message 0 none).map fun s => [s]
  else
    price.contextTiers.mapM fun tier =>
      tier.toRates.schedule message tier.minInputTokens tier.maxInputTokens

/-- What `price_sha256` is the digest of. -/
abbrev PriceContent := Option ModelPrice × List RateSchedule

namespace BudgetPriceProjection

/-- `BudgetPriceProjection._schedules`. -/
def schedules (price : Option ModelPrice) : Except LedgerError (List RateSchedule) :=
  match price with
  | none => .ok []
  | some price => price.schedules "Budget price must have at most eight decimal places"

/-- `BudgetPriceProjection.digest`. -/
def digest (price : Option ModelPrice) (rateSchedules : List RateSchedule) :
    Sha256 PriceContent :=
  ⟨price, rateSchedules⟩

/-- `BudgetPriceProjection.verify_price_digest`. -/
def verifyPriceDigest (price : Option ModelPrice) (rateSchedules : List RateSchedule)
    (priceSha256 : Sha256 PriceContent) : Bool :=
  match schedules price with
  | .ok expected => decide (rateSchedules = expected ∧ priceSha256 = digest price expected)
  | .error _ => false

end BudgetPriceProjection

/-- The accepted price of a model, projected beside its route publications. -/
structure BudgetPriceProjection where
  modelId : UUID
  priceSha256 : Sha256 PriceContent
  price : Option ModelPrice
  rateSchedules : List RateSchedule
  updatedAt : Int
  verified : BudgetPriceProjection.verifyPriceDigest price rateSchedules priceSha256 = true
deriving DecidableEq

namespace BudgetPriceProjection

/-- `BudgetPriceProjection.create`. -/
def create (modelId : UUID) (price : Option ModelPrice) (updatedAt : Int) :
    Except LedgerError BudgetPriceProjection :=
  match h : schedules price with
  | .ok rateSchedules =>
      .ok {
        modelId, price, rateSchedules, updatedAt
        priceSha256 := digest price rateSchedules
        verified := by simp [verifyPriceDigest, h] }
  | .error e => .error e

/-- Projections with equal digests carry equal prices. -/
theorem price_eq_of_sha256 {a b : BudgetPriceProjection} (h : a.priceSha256 = b.priceSha256) :
    a.price = b.price := by
  have content : ∀ p : BudgetPriceProjection, p.priceSha256.of.1 = p.price := by
    intro p
    have hv := p.verified
    unfold verifyPriceDigest at hv
    split at hv
    next expected _ =>
      rw [(decide_eq_true_eq.mp hv).2]
      rfl
    next => cases hv
  rw [← content a, ← content b, h]

/-- The digest is a function of the price alone. -/
theorem sha256_eq_of_price {a b : BudgetPriceProjection} (h : a.price = b.price) :
    a.priceSha256 = b.priceSha256 := by
  have ha := a.verified
  have hb := b.verified
  unfold verifyPriceDigest at ha hb
  rw [h] at ha
  split at ha
  next expected hs =>
    rw [hs] at hb
    rw [(decide_eq_true_eq.mp ha).2, (decide_eq_true_eq.mp hb).2]
  next => cases ha

end BudgetPriceProjection

/-! ## The charge of a completion -/

/-- The token counts a price is applied to. -/
structure UsageCounters where
  inputTokens : Int
  cachedTokens : Int
  cacheWriteTokens : Int
  outputTokens : Int
deriving DecidableEq, Repr

/-- The scan over the rate schedules: they must be contiguous from `minimum`,
only the last is unbounded, and the last one that covers `billed` is selected. -/
def selectTier (billed : Int) :
    Int → Option RateSchedule → List RateSchedule → Except LedgerError (Option RateSchedule)
  | _, selected, [] => .ok selected
  | minimum, selected, tier :: rest => do
      exactInteger "min_input_tokens" tier.minInputTokens
      require (tier.minInputTokens = minimum)
        (.valueError "USD price tiers must be complete and contiguous")
      let covered := decide (tier.minInputTokens ≤ billed) &&
        (match tier.maxInputTokens with
          | none => true
          | some maximum => decide (billed ≤ maximum))
      let following ← (match tier.maxInputTokens with
        | none => do
            require (rest = []) (.valueError "Only the final USD price tier may be unbounded")
            pure minimum
        | some maximum => do
            exactInteger "max_input_tokens" maximum
            require (minimum ≤ maximum ∧ rest ≠ [])
              (.valueError "USD price tiers must cover all input lengths")
            pure (maximum + 1))
      selectTier billed following (if covered then some tier else selected) rest

/-- `usd_completion_charge`. -/
def usdCompletionCharge (projection : BudgetPriceProjection) (evidence : UsageCounters) :
    Except LedgerError Int := do
  let price ← (match projection.price with
    | some price => pure price
    | none => .error (.valueError "USD completion requires its admitted price projection"))
  let schedules := projection.rateSchedules
  require (1 ≤ schedules.length ∧ schedules.length ≤ 32)
    (.valueError "USD completion requires its admitted price projection")
  require (projection.priceSha256 = BudgetPriceProjection.digest (some price) schedules)
    (.valueError "USD completion price projection digest differs")
  let expected ← price.schedules "USD unit prices must retain eight-decimal precision"
  require (schedules = expected) (.valueError "USD rate schedule differs from the admitted prices")
  let selected ← selectTier (evidence.inputTokens + evidence.cachedTokens) 0 none schedules
  let tier ← (match selected with
    | some tier => pure tier
    | none => .error (.valueError "USD completion has no matching input price tier"))
  exactInteger "input_rate_units" tier.inputRateUnits
  exactInteger "cached_rate_units" tier.cachedRateUnits
  exactInteger "cache_write_rate_units" tier.cacheWriteRateUnits
  exactInteger "output_rate_units" tier.outputRateUnits
  -- The quotient by `10¹⁴` of the source is the change of unit.
  let c := localContext
  let amount :=
    c.add
      (c.add
        (c.add (c.mul evidence.inputTokens tier.inputRateUnits)
          (c.mul (evidence.cachedTokens - evidence.cacheWriteTokens) tier.cachedRateUnits))
        (c.mul evidence.cacheWriteTokens tier.cacheWriteRateUnits))
      (c.mul evidence.outputTokens tier.outputRateUnits)
  exactUsdAmount amount
  pure amount

/-- A charge is an amount of `NUMERIC(30,14)`. -/
theorem usdCompletionCharge_inRange {projection : BudgetPriceProjection}
    {evidence : UsageCounters} {amount : Int}
    (h : usdCompletionCharge projection evidence = .ok amount) : UsdInRange amount := by
  unfold usdCompletionCharge at h
  obtain ⟨_, -, h⟩ := bind_eq_ok.1 h
  obtain ⟨-, h⟩ := require_bind_eq_ok.1 h
  obtain ⟨-, h⟩ := require_bind_eq_ok.1 h
  obtain ⟨_, -, h⟩ := bind_eq_ok.1 h
  obtain ⟨-, h⟩ := require_bind_eq_ok.1 h
  obtain ⟨_, -, h⟩ := bind_eq_ok.1 h
  obtain ⟨tier, -, h⟩ := bind_eq_ok.1 h
  obtain ⟨_, -, h⟩ := bind_eq_ok.1 h
  obtain ⟨_, -, h⟩ := bind_eq_ok.1 h
  obtain ⟨_, -, h⟩ := bind_eq_ok.1 h
  obtain ⟨_, -, h⟩ := bind_eq_ok.1 h
  obtain ⟨_, hrange, h⟩ := bind_eq_ok.1 h
  cases h
  exact exactUsdAmount_eq_ok.1 hrange

end Turnstile
