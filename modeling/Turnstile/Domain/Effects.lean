import Turnstile.Domain.Operations

/-!
# What an operation has done

For each operation, the ways in which it can return, with the summary and the
attempt it returned written out.  The later proofs start from these and do not
look into the operations again.
-/

namespace Turnstile

open Guard

variable {summary summary' : LedgerSummary} {attempt attempt' : LedgerAttempt} {now : Int}

/-- A summary was advanced at a time that is not before its last. -/
theorem advanceSummary_eq_ok {updates : SummaryFields} :
    advanceSummary summary now updates = .ok summary' ↔ summary.updatedAt ≤ now ∧
      summary'.toSummaryFields =
        { updates with version := summary.version + 1, updatedAt := now } := by
  rw [advanceSummary, require_bind_eq_ok, LedgerSummary.modelValidate_eq_ok]

/-! ## Policies -/

/-- How `updateLedgerPolicy` returns. -/
inductive PolicyResult (summary : LedgerSummary) (revision tokenLimit : Int)
    (enforce enabled : Bool) (now : Int) (budgetMode : BudgetMode) (usdLimit : Option Int) :
    LedgerSummary → Prop where
  | kept : revision ≤ summary.policyRevision →
      PolicyResult summary revision tokenLimit enforce enabled now budgetMode usdLimit summary
  | advanced {summary' : LedgerSummary} : summary.policyRevision < revision →
      summary.updatedAt ≤ now →
      summary'.toSummaryFields = { summary.toSummaryFields with
        policyRevision := revision, tokenLimit, budgetMode, usdLimit, enforce, enabled
        version := summary.version + 1, updatedAt := now } →
      PolicyResult summary revision tokenLimit enforce enabled now budgetMode usdLimit summary'

theorem updateLedgerPolicy_result {epoch : UUID} {revision tokenLimit : Int}
    {enforce enabled : Bool} {budgetMode : BudgetMode} {usdLimit : Option Int}
    (h : updateLedgerPolicy summary epoch revision tokenLimit enforce enabled now budgetMode
      usdLimit = .ok summary') :
    epoch = summary.epoch ∧
      PolicyResult summary revision tokenLimit enforce enabled now budgetMode usdLimit
        summary' := by
  obtain ⟨⟨hepoch, -⟩, h⟩ := require_bind_eq_ok.1 h
  obtain ⟨candidate, -, h⟩ := bind_eq_ok.1 h
  refine ⟨hepoch, ?_⟩
  split at h
  next hlt =>
    cases h
    exact .kept (by omega)
  next hnlt =>
    split at h
    next heq =>
      obtain ⟨-, h⟩ := require_bind_eq_ok.1 h
      cases h
      exact .kept (by omega)
    next hne =>
      obtain ⟨hclock, hfields⟩ := advanceSummary_eq_ok.1 h
      exact .advanced (by omega) hclock hfields

/-! ## Reservations -/

/-- How `reserveLedger` returns. -/
inductive ReserveResult (summary : LedgerSummary) (identity : LedgerAttemptIdentity)
    (reservedTokens now : Int) (reservedUsd : Option ℚ)
    (priceSnapshot : Option BudgetPriceProjection) : LedgerSummary → LedgerAttempt → Prop where
  | tokens {summary' : LedgerSummary} {attempt' : LedgerAttempt} :
      summary.budgetMode = .tokens → reservedUsd = none → priceSnapshot = none →
      (summary.enforce = true → reservedTokens ≤ summary.availableTokens) →
      summary'.toSummaryFields = { summary.toSummaryFields with
        activeReservedTokens := summary.activeReservedTokens + reservedTokens
        version := summary.version + 1, updatedAt := now } →
      attempt'.toAttemptFields =
        { identity, epoch := summary.epoch, state := .reserved, reservedTokens
          updatedAt := now } →
      ReserveResult summary identity reservedTokens now reservedUsd priceSnapshot
        summary' attempt'
  | usd (amount : ℚ) (units : Int) (projection : BudgetPriceProjection)
      {summary' : LedgerSummary} {attempt' : LedgerAttempt} :
      summary.budgetMode = .usd → reservedUsd = some amount → priceSnapshot = some projection →
      usdOfDecimal? amount = some units → 0 ≤ amount →
      some projection.modelId = identity.modelId.toUuid? →
      (summary.enforce = true → units ≤ summary.availableUsd.getD 0) →
      summary'.toSummaryFields = { summary.toSummaryFields with
        activeReservedUsd := defaultContext.add summary.activeReservedUsd units
        version := summary.version + 1, updatedAt := now } →
      attempt'.toAttemptFields =
        { identity, epoch := summary.epoch, state := .reserved, reservedTokens
          budgetMode := .usd, reservedUsd := some units, priceSnapshot := some projection
          updatedAt := now } →
      ReserveResult summary identity reservedTokens now reservedUsd priceSnapshot
        summary' attempt'

theorem quantizeUsd_eq_ok {amount : ℚ} {units : Int} (h : quantizeUsd amount = .ok units) :
    usdOfDecimal? amount = some units := by
  obtain ⟨-, h⟩ := require_bind_eq_ok.1 h
  cases hu : usdOfDecimal? amount with
  | none =>
      rw [hu] at h
      cases h
  | some n =>
      rw [hu] at h
      cases h
      rfl

/-- What every reservation that was made has checked. -/
structure ReserveAllowed (summary : LedgerSummary) (identity : LedgerAttemptIdentity)
    (now : Int) : Prop where
  scope : identity.scope = summary.scope
  enabled : summary.enabled = true
  clock : summary.updatedAt ≤ now

theorem reserveLedger_result {identity : LedgerAttemptIdentity} {reservedTokens : Int}
    {reservedUsd : Option ℚ} {priceSnapshot : Option BudgetPriceProjection}
    {countAssurance : CountAssurance}
    (h : reserveLedger summary identity reservedTokens now reservedUsd priceSnapshot
      countAssurance = .ok (summary', attempt')) :
    ReserveAllowed summary identity now ∧
      ReserveResult summary identity reservedTokens now reservedUsd priceSnapshot
        summary' attempt' := by
  obtain ⟨hscope, h⟩ := require_bind_eq_ok.1 h
  obtain ⟨henabled, h⟩ := require_bind_eq_ok.1 h
  obtain ⟨-, h⟩ := require_bind_eq_ok.1 h
  obtain ⟨-, h⟩ := require_bind_eq_ok.1 h
  cases hmode : summary.budgetMode with
  | tokens =>
      simp only [hmode] at h
      obtain ⟨⟨husd, hprice⟩, h⟩ := require_bind_eq_ok.1 h
      obtain ⟨attempt₁, hattempt, h⟩ := bind_eq_ok.1 h
      obtain ⟨hfit, h⟩ := require_bind_eq_ok.1 h
      obtain ⟨summary₁, hsummary, h⟩ := bind_eq_ok.1 h
      obtain ⟨hclock, hfields⟩ := advanceSummary_eq_ok.1 hsummary
      cases h
      exact ⟨⟨hscope, henabled, hclock⟩, .tokens hmode husd hprice hfit hfields
        (LedgerAttempt.modelValidate_eq_ok.1 hattempt)⟩
  | usd =>
      simp only [hmode] at h
      cases reservedUsd with
      | none => cases h
      | some amount =>
          cases priceSnapshot with
          | none => cases h
          | some projection =>
              obtain ⟨-, h⟩ := require_bind_eq_ok.1 h
              obtain ⟨hmodel, h⟩ := require_bind_eq_ok.1 h
              obtain ⟨-, h⟩ := require_bind_eq_ok.1 h
              obtain ⟨hpos, h⟩ := require_bind_eq_ok.1 h
              obtain ⟨units, hunits, h⟩ := bind_eq_ok.1 h
              obtain ⟨hfit, h⟩ := require_bind_eq_ok.1 h
              obtain ⟨attempt₁, hattempt, h⟩ := bind_eq_ok.1 h
              obtain ⟨summary₁, hsummary, h⟩ := bind_eq_ok.1 h
              obtain ⟨hclock, hfields⟩ := advanceSummary_eq_ok.1 hsummary
              cases h
              exact ⟨⟨hscope, henabled, hclock⟩, .usd amount units projection hmode rfl rfl
                (quantizeUsd_eq_ok hunits) hpos hmodel hfit hfields
                (LedgerAttempt.modelValidate_eq_ok.1 hattempt)⟩

/-! ## Resolutions -/

/-- How `resolveLedger` returns. -/
inductive ResolveResult (summary : LedgerSummary) (attempt : LedgerAttempt) (now : Int) :
    LedgerSummary → LedgerAttempt → Prop where
  | kept : attempt.resolutionEvidence ≠ none ∨ attempt.state = .settled ∨
        attempt.state = .cancelled →
      ResolveResult summary attempt now summary attempt
  | released (approved : BudgetReservationResolution) {summary' : LedgerSummary}
      {attempt' : LedgerAttempt} :
      attempt.resolutionEvidence = none →
      attempt.state.active = true ∨ attempt.state = .upperBound →
      summary.updatedAt ≤ now →
      summary'.toSummaryFields = { releaseHeld summary attempt with
        version := summary.version + 1, updatedAt := now } →
      attempt'.toAttemptFields = { attempt.toAttemptFields with
        state := .released
        actualTokens := none
        evidenceRank := .two
        evidenceRevision := max attempt.evidenceRevision 1
        evidenceKey := some (.ofResolution approved.id)
        resolutionEvidence := some (.record approved)
        updatedAt := now } →
      ResolveResult summary attempt now summary' attempt'

/-- What every resolution that returned has checked of the two documents. -/
structure SameAdmission (summary : LedgerSummary) (attempt : LedgerAttempt) : Prop where
  scope : attempt.identity.scope = summary.scope
  epoch : attempt.epoch = summary.epoch
  mode : attempt.budgetMode = summary.budgetMode

theorem resolveLedger_result {resolution : Decoded BudgetReservationResolution}
    (h : resolveLedger summary attempt resolution now = .ok (summary', attempt')) :
    SameAdmission summary attempt ∧ ResolveResult summary attempt now summary' attempt' := by
  obtain ⟨approved, -, h⟩ := bind_eq_ok.1 h
  obtain ⟨expected, -, h⟩ := bind_eq_ok.1 h
  obtain ⟨receipt, -, h⟩ := bind_eq_ok.1 h
  obtain ⟨⟨-, hscope, hepoch, hmode, -⟩, h⟩ := require_bind_eq_ok.1 h
  refine ⟨⟨hscope, hepoch, hmode⟩, ?_⟩
  cases hres : attempt.resolutionEvidence with
  | some earlier =>
      simp only [hres] at h
      obtain ⟨retained, -, h⟩ := bind_eq_ok.1 h
      obtain ⟨-, h⟩ := require_bind_eq_ok.1 h
      cases h
      exact .kept (.inl (by rw [hres]; exact Option.some_ne_none _))
  | none =>
      simp only [hres] at h
      split at h
      next hdone =>
        cases h
        exact .kept (.inr hdone)
      next =>
        obtain ⟨hheld, h⟩ := require_bind_eq_ok.1 h
        obtain ⟨summary₁, hsummary, h⟩ := bind_eq_ok.1 h
        obtain ⟨attempt₁, hattempt, h⟩ := bind_eq_ok.1 h
        obtain ⟨hclock, hfields⟩ := advanceSummary_eq_ok.1 hsummary
        cases h
        refine .released approved hres hheld hclock hfields ?_
        exact LedgerAttempt.modelValidate_eq_ok.1 hattempt

/-! ## Settlements -/

/-- What a settlement has checked before it records a charge. -/
structure SettlementAllowed (summary : LedgerSummary) (attempt : LedgerAttempt)
    (charge : LedgerCharge) : Prop where
  attemptEpoch : attempt.epoch = summary.epoch
  chargeEpoch : charge.epoch = summary.epoch
  identity : attempt.identity = charge.identity
  scope : attempt.identity.scope = summary.scope
  attemptMode : attempt.budgetMode = summary.budgetMode
  chargeMode : charge.budgetMode = summary.budgetMode
  usd : summary.budgetMode = .usd → charge.actualUsd ≠ none ∧
    charge.priceSnapshot = attempt.priceSnapshot ∧ attempt.reservedUsd ≠ none
  confirmed : summary.budgetMode = .usd → attempt.evidenceRank = .three →
    charge.evidenceRank = .three → charge.actualUsd = attempt.actualUsd

/-- How `settleLedger` returns. -/
inductive SettleResult (summary : LedgerSummary) (attempt : LedgerAttempt)
    (charge : LedgerCharge) (now : Int) : LedgerSummary → LedgerAttempt → Prop where
  /-- The charge carried a resolution. -/
  | resolved (resolution : Decoded BudgetReservationResolution) {summary' : LedgerSummary}
      {attempt' : LedgerAttempt} : charge.resolutionEvidence = some resolution →
      resolveLedger summary attempt resolution now = .ok (summary', attempt') →
      SettleResult summary attempt charge now summary' attempt'
  /-- The attempt was settled before its scope changed its unit. -/
  | late : charge.resolutionEvidence = none → summary.budgetMode ≠ attempt.budgetMode →
      attempt.state = .settled → SettleResult summary attempt charge now summary attempt
  | answered : charge.resolutionEvidence = none → SettlementAllowed summary attempt charge →
      settlementAnswered attempt charge = .ok true →
      SettleResult summary attempt charge now summary attempt
  | charged {summary' : LedgerSummary} {attempt' : LedgerAttempt} :
      charge.resolutionEvidence = none → SettlementAllowed summary attempt charge →
      settlementAnswered attempt charge = .ok false →
      summary.updatedAt ≤ now →
      summary'.toSummaryFields = { chargedFields summary attempt charge with
        version := summary.version + 1, updatedAt := now } →
      attempt'.toAttemptFields = { attempt.toAttemptFields with
        state := .settled
        actualTokens := some charge.totalTokens
        actualUsd := if summary.budgetMode = .usd then charge.actualUsd else attempt.actualUsd
        evidenceRank := charge.evidenceRank
        evidenceRevision := max charge.revision attempt.evidenceRevision
        evidenceKey := some charge.evidenceKey
        updatedAt := now } →
      SettleResult summary attempt charge now summary' attempt'

theorem settleLedger_result {charge : LedgerCharge}
    (h : settleLedger summary attempt charge now = .ok (summary', attempt')) :
    SettleResult summary attempt charge now summary' attempt' := by
  unfold settleLedger at h
  cases hres : charge.resolutionEvidence with
  | some resolution =>
      simp only [hres] at h
      exact .resolved resolution hres h
  | none =>
      simp only [hres] at h
      obtain ⟨⟨haepoch, hcepoch, hident, hscope⟩, h⟩ := require_bind_eq_ok.1 h
      split at h
      next hlate =>
        obtain ⟨-, h⟩ := require_bind_eq_ok.1 h
        cases h
        exact .late hres hlate.1 hlate.2
      next =>
        obtain ⟨⟨hamode, hcmode⟩, h⟩ := require_bind_eq_ok.1 h
        obtain ⟨husd, h⟩ := require_bind_eq_ok.1 h
        obtain ⟨hconfirmed, h⟩ := require_bind_eq_ok.1 h
        obtain ⟨done, hdone, h⟩ := bind_eq_ok.1 h
        have allowed : SettlementAllowed summary attempt charge :=
          ⟨haepoch, hcepoch, hident, hscope, hamode, hcmode, husd, hconfirmed⟩
        cases done with
        | true =>
            cases h
            exact .answered hres allowed hdone
        | false =>
            rw [if_neg Bool.false_ne_true] at h
            obtain ⟨summary₁, hsummary, h⟩ := bind_eq_ok.1 h
            obtain ⟨attempt₁, hattempt, h⟩ := bind_eq_ok.1 h
            obtain ⟨hclock, hfields⟩ := advanceSummary_eq_ok.1 hsummary
            cases h
            exact .charged hres allowed hdone hclock hfields
              (LedgerAttempt.modelValidate_eq_ok.1 hattempt)

/-! ## Completions -/

/-- What a completion has checked before it records a charge. -/
structure CompletionAllowed (summary : LedgerSummary) (attempt : LedgerAttempt)
    (receipt : LedgerAdmissionReceipt) (completion : Decoded Completion) (evidence : Completion)
    (usd : Int × Int) (previous : Int) : Prop where
  validated : validateCompletion completion = .ok evidence
  admitted :
    CompletionAdmitted summary.dump attempt.dump receipt.toReceiptFields evidence usd
  unanswered : Unanswered attempt.dump evidence previous
  previous : previousTokens attempt.dump = .ok previous
  released : ¬(attempt.state = .released ∧ evidence.rejection ≠ none)

/-- How `completeLedger` returns. -/
inductive CompleteResult (summary : LedgerSummary) (attempt : LedgerAttempt)
    (receipt : LedgerAdmissionReceipt) (completion : Decoded Completion) (now : Int) :
    LedgerSummary → LedgerAttempt → Prop where
  | kept (evidence : Completion) (usd : Int × Int) :
      validateCompletion completion = .ok evidence →
      CompletionAdmitted summary.dump attempt.dump receipt.toReceiptFields evidence usd →
      (attempt.state = .released ∧ evidence.rejection ≠ none) ∨
        (∃ previous, previousTokens attempt.dump = .ok previous ∧
          answered attempt.dump evidence summary.budgetMode usd previous = .ok true) →
      CompleteResult summary attempt receipt completion now summary attempt
  | charged (evidence : Completion) (usd : Int × Int) (previous : Int) (key : EvidenceKey)
      {summary' : LedgerSummary} {attempt' : LedgerAttempt} :
      CompletionAllowed summary attempt receipt completion evidence usd previous →
      (summary.budgetMode = .tokens → summary'.toSummaryFields = { summary.toSummaryFields with
        confirmedTokens := summary.confirmedTokens + evidence.totalTokens - previous
        activeReservedTokens := summary.activeReservedTokens
          - (if attempt.state.active then attempt.reservedTokens else 0)
        upperBoundTokens := summary.upperBoundTokens
          - (if attempt.state = .upperBound then attempt.reservedTokens else 0)
        version := summary.version + 1
        updatedAt := max now (max summary.updatedAt attempt.updatedAt) }) →
      (summary.budgetMode = .usd → summary'.toSummaryFields = { summary.toSummaryFields with
        confirmedUsd := summary.confirmedUsd + usd.1 - usd.2
        activeReservedUsd := summary.activeReservedUsd
          - (if attempt.state.active then attempt.reservedUsd.getD 0 else 0)
        upperBoundUsd := summary.upperBoundUsd
          - (if attempt.state = .upperBound then attempt.reservedUsd.getD 0 else 0)
        version := summary.version + 1
        updatedAt := max now (max summary.updatedAt attempt.updatedAt) }) →
      attempt'.toAttemptFields = { attempt.toAttemptFields with
        state := .settled
        actualTokens := some evidence.totalTokens
        actualUsd := if summary.budgetMode = .usd then some usd.1 else attempt.actualUsd
        evidenceRevision := max attempt.evidenceRevision 1
        evidenceKey := some key
        evidenceRank := if evidence.rejection = none then .three else .two
        completionEvidence :=
          if evidence.rejection = none then some (.record evidence) else attempt.completionEvidence
        rejectionEvidence :=
          if evidence.rejection = none then attempt.rejectionEvidence else some (.record evidence)
        updatedAt := max now (max summary.updatedAt attempt.updatedAt) } →
      CompleteResult summary attempt receipt completion now summary' attempt'

theorem completeLedger_result {receipt : LedgerAdmissionReceipt} {completion : Decoded Completion}
    (h : completeLedger summary attempt receipt completion now = .ok (summary', attempt')) :
    CompleteResult summary attempt receipt completion now summary' attempt' := by
  obtain ⟨⟨updated, settled⟩, htransaction, h⟩ := bind_eq_ok.1 h
  rw [conflictFromValueError_eq_ok] at htransaction
  obtain ⟨evidence, usd, counters, hchk, hresult⟩ := completionTransaction_eq_ok.1 htransaction
  simp only at h
  split at h
  next hsame =>
    cases h
    refine .kept evidence usd hchk.validated hchk.admitted ?_
    cases hresult with
    | skipped hstate hrej => exact .inl ⟨hstate, hrej⟩
    | answered previous _ hprev hdone => exact .inr ⟨previous, hprev, hdone⟩
    | charged previous charged settled _ _ _ hcharge =>
        -- A charge advanced the version.
        have hversion := chargeSummary_version hcharge
        have hv : summary.version = counters.version := Option.some.inj hchk.counters.version
        have heq := congrArg SummaryDocument.version hsame
        rw [hversion] at heq
        have heq : counters.version + 1 = summary.version := Option.some.inj heq
        omega
  next hchanged =>
    obtain ⟨summary₁, hsummary, h⟩ := bind_eq_ok.1 h
    obtain ⟨attempt₁, hattempt, h⟩ := bind_eq_ok.1 h
    cases h
    obtain ⟨-, hsummary⟩ := SummaryDocument.modelValidate_eq_ok.1 hsummary
    have hattempt := AttemptDocument.modelValidate_eq_ok.1 hattempt
    cases hresult with
    | skipped => exact absurd rfl hchanged
    | answered => exact absurd rfl hchanged
    | charged previous charged settled hskip hprev hdone hcharge hsettle =>
        have hread := hchk.counters
        have hc : summary.confirmedTokens = counters.confirmedTokens :=
          Option.some.inj hread.confirmed
        have ha : summary.activeReservedTokens = counters.activeReservedTokens :=
          Option.some.inj hread.active
        have hu : summary.upperBoundTokens = counters.upperBoundTokens :=
          Option.some.inj hread.upper
        have hv : summary.version = counters.version := Option.some.inj hread.version
        have hres : attempt.reservedTokens = receipt.reservedTokens := hchk.admitted.reserved
        obtain ⟨hactual, hprevious⟩ := hchk.admitted.usd_inRange
        obtain ⟨revision, hrev, -, hsettled, hkey, -⟩ := chargeAttempt_eq_ok hsettle
        obtain ⟨key, hkey⟩ := Option.ne_none_iff_exists'.1 hkey
        have hrev : attempt.evidenceRevision = revision := Option.some.inj hrev
        refine .charged evidence usd previous key
          ⟨hchk.validated, hchk.admitted, unanswered_of_answered hdone, hprev, hskip⟩ ?_ ?_ ?_
        · intro hmode
          obtain ⟨_, _, _, rfl, rfl, rfl, -, -, -, -, rfl⟩ := chargeSummary_tokens hmode hcharge
          rw [hsummary, hc, ha, hu, hv, hres]
          rfl
        · intro hmode
          obtain ⟨held, _, _, _, hheld, rfl, rfl, rfl, -, -, -, -, rfl⟩ :=
            chargeSummary_usd hmode hactual hprevious hcharge
          have hheld : attempt.reservedUsd = some held := hheld
          rw [hsummary, hv, hheld]
          rfl
        · rw [hattempt, hsettled, hkey, hrev]
          by_cases hrej : evidence.rejection = none
          · rw [if_pos hrej, if_pos hrej, if_pos hrej, if_pos hrej, if_pos hrej, if_pos hrej]
            rfl
          · rw [if_neg hrej, if_neg hrej, if_neg hrej, if_neg hrej, if_neg hrej, if_neg hrej]
            rfl

/-! ## Transitions and tombstones -/

/-- How `transitionLedgerAttempt` returns. -/
inductive TransitionResult (summary : LedgerSummary) (attempt : LedgerAttempt)
    (target : TransitionState) (now : Int) : LedgerSummary → LedgerAttempt → Prop where
  | kept : target.state = attempt.state →
      TransitionResult summary attempt target now summary attempt
  | moved {summary' : LedgerSummary} {attempt' : LedgerAttempt} :
      attempt.state ∈ target.allowed → summary.updatedAt ≤ now →
      summary'.toSummaryFields = { transitionFields summary attempt target with
        version := summary.version + 1, updatedAt := now } →
      attempt'.toAttemptFields =
        { attempt.toAttemptFields with state := target.state, updatedAt := now } →
      TransitionResult summary attempt target now summary' attempt'

theorem transitionLedgerAttempt_result {target : TransitionState}
    (h : transitionLedgerAttempt summary attempt target now = .ok (summary', attempt')) :
    (attempt.epoch = summary.epoch ∧ attempt.identity.scope = summary.scope) ∧
      TransitionResult summary attempt target now summary' attempt' := by
  obtain ⟨hsame, h⟩ := require_bind_eq_ok.1 h
  refine ⟨hsame, ?_⟩
  split at h
  next hstate =>
    cases h
    exact .kept hstate
  next =>
    obtain ⟨hallowed, h⟩ := require_bind_eq_ok.1 h
    obtain ⟨summary₁, hsummary, h⟩ := bind_eq_ok.1 h
    obtain ⟨attempt₁, hattempt, h⟩ := bind_eq_ok.1 h
    obtain ⟨hclock, hfields⟩ := advanceSummary_eq_ok.1 hsummary
    cases h
    exact .moved hallowed hclock hfields (LedgerAttempt.modelValidate_eq_ok.1 hattempt)

theorem cancellationTombstone_result {admission : LedgerAdmissionReceipt}
    (h : cancellationTombstone summary admission now = .ok (summary', attempt')) :
    summary'.toSummaryFields =
        { summary.toSummaryFields with version := summary.version + 1, updatedAt := now } ∧
      attempt'.toAttemptFields =
        { identity := admission.identity, epoch := admission.epoch, state := .cancelled
          reservedTokens := admission.reservedTokens, budgetMode := admission.budgetMode
          reservedUsd := admission.reservedUsd, priceSnapshot := admission.priceSnapshot
          updatedAt := now } := by
  obtain ⟨attempt₁, hattempt, h⟩ := bind_eq_ok.1 h
  obtain ⟨summary₁, hsummary, h⟩ := bind_eq_ok.1 h
  cases h
  exact ⟨LedgerSummary.modelValidate_eq_ok.1 hsummary,
    LedgerAttempt.modelValidate_eq_ok.1 hattempt⟩

end Turnstile
