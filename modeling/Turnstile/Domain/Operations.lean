import Turnstile.Domain.Completion

/-!
# The ledger's operations

Each operation reads the summary of a scope, and most the attempt it is about,
and returns both as they should be stored.  An operation that has nothing to do
returns what it was given; any other advances the summary by one version.

Additions and subtractions of USD amounts are in the default context, except in
`resolveLedger`, which works in the local one.  A charge is first tested against
the evidence the attempt holds (`settlementAnswered`) and then recorded
(`recordSettlement`).
-/

namespace Turnstile

open Guard

/-- `_advance_summary`, given the summary with its updates. -/
def advanceSummary (summary : LedgerSummary) (now : Int) (updates : SummaryFields) :
    Except LedgerError LedgerSummary := do
  require (summary.updatedAt ≤ now)
    (.protocolConflict "Ledger updates require nondecreasing aware timestamps")
  LedgerSummary.modelValidate { updates with version := summary.version + 1, updatedAt := now }

/-! ## Policies -/

/-- `update_ledger_policy`. -/
def updateLedgerPolicy (summary : LedgerSummary) (epoch : UUID) (revision tokenLimit : Int)
    (enforce enabled : Bool) (now : Int) (budgetMode : BudgetMode) (usdLimit : Option Int) :
    Except LedgerError LedgerSummary := do
  require (epoch = summary.epoch ∧ 1 ≤ revision)
    (.protocolConflict "Budget policy requires its current epoch and revision")
  let terms : SummaryFields := { summary.toSummaryFields with
    policyRevision := revision, tokenLimit, budgetMode, usdLimit, enforce, enabled }
  let candidate ← LedgerSummary.modelValidate terms
  if revision < summary.policyRevision then pure summary
  else if revision = summary.policyRevision then do
    require (candidate = summary)
      (.protocolConflict "A budget policy revision cannot change its contents")
    pure summary
  else advanceSummary summary now terms

/-! ## Reservations -/

/-- `count_assurance`. -/
inductive CountAssurance where
  | estimate
  | verifiedUpperBound
  | other
deriving DecidableEq, Repr

/-- The code of a denial, from what is asked and what is not yet reserved. -/
def denialCode (amount unreserved : Int) : DenialCode :=
  if unreserved ≤ 0 then .budgetExhausted
  else if amount ≤ unreserved then .budgetTemporarilyReserved
  else .budgetRequestBoundExceedsBalance

/-- `amount.quantize(Decimal("0.00000000000001")) == amount` with fifty digits:
the amount in units, if it has no further place. -/
def quantizeUsd (amount : ℚ) : Except LedgerError Int := do
  -- Rounded to the last place, the amount would need more than fifty digits.
  require (amount * 10 ^ 14 < 10 ^ 50 - 1 / 2) .invalidOperation
  match usdOfDecimal? amount with
  | some units => pure units
  | none => .error (.protocolConflict "USD reservation is outside fixed precision")

/-- The reservation of a scope in USD mode. -/
def reserveUsd (summary : LedgerSummary) (identity : LedgerAttemptIdentity) (reservedTokens : Int)
    (now : Int) (reservedUsd : ℚ) (priceSnapshot : BudgetPriceProjection) :
    Except LedgerError (LedgerSummary × LedgerAttempt) := do
  require (identity.modelId.toUuid? ≠ none)
    (.valueError "badly formed hexadecimal UUID string")
  require (some priceSnapshot.modelId = identity.modelId.toUuid?)
    (.protocolConflict "USD price projection belongs to another model")
  require (priceSnapshot.updatedAt ≤ now)
    (.protocolConflict "USD price projection is from the future")
  require (0 ≤ reservedUsd) (.protocolConflict "USD reservation is outside fixed precision")
  let amount ← quantizeUsd reservedUsd
  let unreserved := defaultContext.sub
    (defaultContext.sub (summary.usdLimit.getD 0) summary.confirmedUsd) summary.upperBoundUsd
  require (summary.enforce = true → amount ≤ summary.availableUsd.getD 0)
    (.admissionDenied (denialCode amount unreserved))
  let attempt ← LedgerAttempt.modelValidate {
    identity, epoch := summary.epoch, state := .reserved, reservedTokens
    budgetMode := .usd, reservedUsd := some amount, priceSnapshot := some priceSnapshot
    updatedAt := now }
  let updated ← advanceSummary summary now { summary.toSummaryFields with
    activeReservedUsd := defaultContext.add summary.activeReservedUsd amount }
  pure (updated, attempt)

/-- The reservation of a scope in token mode. -/
def reserveTokens (summary : LedgerSummary) (identity : LedgerAttemptIdentity)
    (reservedTokens : Int) (now : Int) : Except LedgerError (LedgerSummary × LedgerAttempt) := do
  let attempt ← LedgerAttempt.modelValidate {
    identity, epoch := summary.epoch, state := .reserved, reservedTokens, updatedAt := now }
  let unreserved := summary.tokenLimit - summary.confirmedTokens - summary.upperBoundTokens
  require (summary.enforce = true → reservedTokens ≤ summary.availableTokens)
    (.admissionDenied (denialCode reservedTokens unreserved))
  let updated ← advanceSummary summary now { summary.toSummaryFields with
    activeReservedTokens := summary.activeReservedTokens + reservedTokens }
  pure (updated, attempt)

/-- `reserve_ledger`. -/
def reserveLedger (summary : LedgerSummary) (identity : LedgerAttemptIdentity)
    (reservedTokens : Int) (now : Int) (reservedUsd : Option ℚ)
    (priceSnapshot : Option BudgetPriceProjection) (countAssurance : CountAssurance) :
    Except LedgerError (LedgerSummary × LedgerAttempt) := do
  require (identity.scope = summary.scope)
    (.protocolConflict "Reservation belongs to another budget scope or month")
  require (summary.enabled = true) (.admissionDenied .budgetConsumerDisabled)
  require (countAssurance ≠ .other)
    (.protocolConflict "Reservation requires a valid count assurance")
  require (summary.enforce = true → summary.requireVerifiedBound = true →
      countAssurance = .verifiedUpperBound) (.admissionDenied .budgetCountBoundUnavailable)
  match summary.budgetMode with
  | .usd =>
      match reservedUsd, priceSnapshot with
      | some amount, some projection =>
          reserveUsd summary identity reservedTokens now amount projection
      | _, _ => .error (.protocolConflict "USD admission requires a current price snapshot")
  | .tokens => do
      require (reservedUsd = none ∧ priceSnapshot = none)
        (.protocolConflict "Token admission cannot carry USD evidence")
      reserveTokens summary identity reservedTokens now

/-! ## Resolutions -/

/-- `except (ValueError, TypeError, KeyError): raise LedgerProtocolConflict(message)`. -/
def conflictOn {α : Type} (message : String) : Except LedgerError α → Except LedgerError α
  | .ok a => .ok a
  | .error (.keyError _) => .error (.protocolConflict message)
  | .error e => .error (if e.isValueError then .protocolConflict message else e)

/-- The summary with a reservation released from where it is held. -/
def releaseHeld (summary : LedgerSummary) (attempt : LedgerAttempt) : SummaryFields :=
  let active := attempt.state ≠ .upperBound
  match attempt.budgetMode with
  | .usd =>
      let held := attempt.reservedUsd.getD 0
      { summary.toSummaryFields with
        activeReservedUsd :=
          localContext.sub summary.activeReservedUsd (if active then held else 0)
        upperBoundUsd := localContext.sub summary.upperBoundUsd (if active then 0 else held) }
  | .tokens =>
      { summary.toSummaryFields with
        activeReservedTokens :=
          summary.activeReservedTokens - (if active then attempt.reservedTokens else 0)
        upperBoundTokens :=
          summary.upperBoundTokens - (if active then 0 else attempt.reservedTokens) }

/-- `resolve_ledger`. -/
def resolveLedger (summary : LedgerSummary) (attempt : LedgerAttempt)
    (resolution : Decoded BudgetReservationResolution) (now : Int) :
    Except LedgerError (LedgerSummary × LedgerAttempt) := do
  let approved ← conflictOn "Reservation resolution evidence is invalid"
    (validateResolution resolution)
  let expected ← LedgerAdmissionReceipt.modelValidate attempt.receipt
  let receipt ← LedgerAdmissionReceipt.modelValidate approved.receipt
  require (receipt = expected ∧ attempt.identity.scope = summary.scope ∧
      attempt.epoch = summary.epoch ∧ attempt.budgetMode = summary.budgetMode ∧
      approved.approvedAt ≤ now)
    (.protocolConflict "Reservation resolution does not match its approved admission")
  match attempt.resolutionEvidence with
  | some earlier => do
      let retained ← validateResolution earlier
      require (retained = approved)
        (.protocolConflict "An earlier resolution already owns this reservation")
      pure (summary, attempt)
  | none =>
      if attempt.state = .settled ∨ attempt.state = .cancelled then pure (summary, attempt)
      else do
        require (attempt.state.active = true ∨ attempt.state = .upperBound)
          (.protocolConflict "Reservation state cannot be resolved")
        let updated ← advanceSummary summary now (releaseHeld summary attempt)
        let retained ← LedgerAttempt.modelValidate { attempt.toAttemptFields with
          state := .released
          actualTokens := none
          evidenceRank := .two
          evidenceRevision := max attempt.evidenceRevision 1
          evidenceKey := some (.ofResolution approved.id)
          resolutionEvidence := some (.record approved)
          updatedAt := now }
        pure (updated, retained)

/-! ## Settlements -/

/-- Whether the evidence of an attempt already answers a charge. -/
def settlementAnswered (attempt : LedgerAttempt) (charge : LedgerCharge) :
    Except LedgerError Bool :=
  let stronger := attempt.evidenceRank.value < charge.evidenceRank.value
  if attempt.completionEvidence ≠ none then do
    require (charge.evidenceRank = .three → attempt.actualTokens = some charge.totalTokens)
      (.protocolConflict "Durable task conflicts with complete producer evidence")
    pure true
  else if charge.evidenceRank.value < attempt.evidenceRank.value then pure true
  else if attempt.resolutionEvidence ≠ none ∧ charge.evidenceRank = .two then do
    require (charge.totalTokens = 0)
      (.protocolConflict "A released reservation requires stronger usage evidence")
    pure true
  else if attempt.rejectionEvidence ≠ none ∧ charge.evidenceRank = .two then do
    require (charge.totalTokens = 0)
      (.protocolConflict "Conflicting charge requires stronger usage evidence")
    pure true
  else if ¬stronger ∧ charge.revision < attempt.evidenceRevision then pure true
  else if ¬stronger ∧ charge.revision = attempt.evidenceRevision then do
    require (attempt.actualTokens = some charge.totalTokens ∧
        attempt.evidenceKey = some charge.evidenceKey)
      (.protocolConflict "Conflicting settlement at the same evidence revision")
    pure true
  else pure false

/-- The summary with a charge. -/
def chargedFields (summary : LedgerSummary) (attempt : LedgerAttempt) (charge : LedgerCharge) :
    SummaryFields :=
  let c := defaultContext
  let active :=
    if attempt.budgetMode = .tokens ∧ attempt.state.active = true then attempt.reservedTokens else 0
  let upper :=
    if attempt.budgetMode = .tokens ∧ attempt.state = .upperBound then attempt.reservedTokens else 0
  { summary.toSummaryFields with
    confirmedTokens :=
      if summary.budgetMode = .tokens then
        summary.confirmedTokens + charge.totalTokens - attempt.actualTokens.getD 0
      else summary.confirmedTokens
    activeReservedTokens := summary.activeReservedTokens - active
    upperBoundTokens := summary.upperBoundTokens - upper
    confirmedUsd :=
      if summary.budgetMode = .usd then
        c.sub (c.add summary.confirmedUsd (charge.actualUsd.getD 0)) (attempt.actualUsd.getD 0)
      else summary.confirmedUsd
    activeReservedUsd := c.sub summary.activeReservedUsd
      (if attempt.state.active = true then attempt.reservedUsd.getD 0 else 0)
    upperBoundUsd := c.sub summary.upperBoundUsd
      (if attempt.state = .upperBound then attempt.reservedUsd.getD 0 else 0) }

/-- The part of `settle_ledger` that records the charge. -/
def recordSettlement (summary : LedgerSummary) (attempt : LedgerAttempt) (charge : LedgerCharge)
    (now : Int) : Except LedgerError (LedgerSummary × LedgerAttempt) := do
  let updated ← advanceSummary summary now (chargedFields summary attempt charge)
  let receipt ← LedgerAttempt.modelValidate { attempt.toAttemptFields with
    state := .settled
    actualTokens := some charge.totalTokens
    actualUsd := if summary.budgetMode = .usd then charge.actualUsd else attempt.actualUsd
    evidenceRank := charge.evidenceRank
    evidenceRevision := max charge.revision attempt.evidenceRevision
    evidenceKey := some charge.evidenceKey
    updatedAt := now }
  pure (updated, receipt)

/-- `settle_ledger`. -/
def settleLedger (summary : LedgerSummary) (attempt : LedgerAttempt) (charge : LedgerCharge)
    (now : Int) : Except LedgerError (LedgerSummary × LedgerAttempt) :=
  match charge.resolutionEvidence with
  | some resolution => resolveLedger summary attempt resolution now
  | none => do
      require (attempt.epoch = summary.epoch ∧ charge.epoch = summary.epoch ∧
          attempt.identity = charge.identity ∧ attempt.identity.scope = summary.scope)
        (.protocolConflict "Settlement identity, epoch or scope does not match")
      if summary.budgetMode ≠ attempt.budgetMode ∧ attempt.state = .settled then do
        require (attempt.evidenceRank = .three ∧ charge.evidenceRank = .three ∧
            charge.budgetMode = attempt.budgetMode ∧
            attempt.actualTokens = some charge.totalTokens ∧
            charge.actualUsd = attempt.actualUsd ∧ charge.priceSnapshot = attempt.priceSnapshot)
          (.protocolConflict "Late settlement conflicts with the original confirmed usage")
        pure (summary, attempt)
      else do
        require (attempt.budgetMode = summary.budgetMode ∧ charge.budgetMode = summary.budgetMode)
          (.protocolConflict "Settlement budget mode changed after admission")
        require (summary.budgetMode = .usd →
            charge.actualUsd ≠ none ∧ charge.priceSnapshot = attempt.priceSnapshot ∧
            attempt.reservedUsd ≠ none)
          (.protocolConflict "USD settlement requires the admitted price snapshot")
        require (summary.budgetMode = .usd → attempt.evidenceRank = .three →
            charge.evidenceRank = .three → charge.actualUsd = attempt.actualUsd)
          (.protocolConflict "Confirmed USD settlement has a conflicting amount")
        if ← settlementAnswered attempt charge then pure (summary, attempt)
        else recordSettlement summary attempt charge now

/-! ## Completions -/

/-- `except ValueError as error: raise LedgerProtocolConflict(str(error)) from error`. -/
def conflictFromValueError {α : Type} : Except LedgerError α → Except LedgerError α
  | .ok a => .ok a
  | .error e => .error (if e.isValueError then .conflictFrom e else e)

@[simp] theorem conflictFromValueError_eq_ok {α : Type} {x : Except LedgerError α} {a : α} :
    conflictFromValueError x = .ok a ↔ x = .ok a := by
  cases x <;> simp [conflictFromValueError]

/-- `complete_ledger`.  A transaction that changed the summary gave it another
version, so the test `updated is summary_json` is a comparison here. -/
def completeLedger (summary : LedgerSummary) (attempt : LedgerAttempt)
    (receipt : LedgerAdmissionReceipt) (completion : Decoded Completion) (now : Int) :
    Except LedgerError (LedgerSummary × LedgerAttempt) := do
  let (updated, settled) ← conflictFromValueError
    (completionTransaction summary.dump attempt.dump receipt.toReceiptFields completion now)
  if updated = summary.dump then pure (summary, attempt)
  else do
    let summary' ← updated.modelValidate
    let attempt' ← settled.modelValidate
    pure (summary', attempt')

/-! ## Transitions -/

/-- The states `transition_ledger_attempt` accepts. -/
inductive TransitionState where
  | dispatching
  | uncertain
  | upperBound
  | cancelled
deriving DecidableEq, Repr

def TransitionState.state : TransitionState → AttemptState
  | .dispatching => .dispatching
  | .uncertain => .uncertain
  | .upperBound => .upperBound
  | .cancelled => .cancelled

/-- `allowed[state]`. -/
def TransitionState.allowed : TransitionState → List AttemptState
  | .dispatching => [.reserved]
  | .uncertain => [.dispatching]
  | .upperBound => [.reserved, .dispatching, .uncertain]
  | .cancelled => [.reserved]

/-- The summary with a reservation moved to its upper bound, released, or left. -/
def transitionFields (summary : LedgerSummary) (attempt : LedgerAttempt)
    (target : TransitionState) : SummaryFields :=
  let c := defaultContext
  let releases := target = .upperBound ∨ target = .cancelled
  match attempt.budgetMode with
  | .tokens =>
      { summary.toSummaryFields with
        activeReservedTokens :=
          if releases then summary.activeReservedTokens - attempt.reservedTokens
          else summary.activeReservedTokens
        upperBoundTokens :=
          if target = .upperBound then summary.upperBoundTokens + attempt.reservedTokens
          else summary.upperBoundTokens }
  | .usd =>
      { summary.toSummaryFields with
        activeReservedUsd :=
          if releases then c.sub summary.activeReservedUsd (attempt.reservedUsd.getD 0)
          else summary.activeReservedUsd
        upperBoundUsd :=
          if target = .upperBound then c.add summary.upperBoundUsd (attempt.reservedUsd.getD 0)
          else summary.upperBoundUsd }

/-- `transition_ledger_attempt`. -/
def transitionLedgerAttempt (summary : LedgerSummary) (attempt : LedgerAttempt)
    (target : TransitionState) (now : Int) :
    Except LedgerError (LedgerSummary × LedgerAttempt) := do
  require (attempt.epoch = summary.epoch ∧ attempt.identity.scope = summary.scope)
    (.protocolConflict "Attempt does not belong to this ledger epoch")
  if target.state = attempt.state then pure (summary, attempt)
  else do
    require (attempt.state ∈ target.allowed)
      (.protocolConflict "Unknown dispatch outcome cannot release a reservation")
    let updated ← advanceSummary summary now (transitionFields summary attempt target)
    let receipt ← LedgerAttempt.modelValidate
      { attempt.toAttemptFields with state := target.state, updatedAt := now }
    pure (updated, receipt)

/-! ## Tombstones -/

/-- The cancelled attempt that `compensate_dispatch` stores for an admission that
was never reserved, with the summary it stores beside it. -/
def cancellationTombstone (summary : LedgerSummary) (admission : LedgerAdmissionReceipt)
    (now : Int) : Except LedgerError (LedgerSummary × LedgerAttempt) := do
  let tombstone ← LedgerAttempt.modelValidate {
    identity := admission.identity, epoch := admission.epoch, state := .cancelled
    reservedTokens := admission.reservedTokens, budgetMode := admission.budgetMode
    reservedUsd := admission.reservedUsd, priceSnapshot := admission.priceSnapshot
    updatedAt := now }
  let advanced ← LedgerSummary.modelValidate
    { summary.toSummaryFields with version := summary.version + 1, updatedAt := now }
  pure (advanced, tombstone)

end Turnstile
