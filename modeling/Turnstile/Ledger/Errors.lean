import Turnstile.Ledger.Balance
import Turnstile.Ledger.Revalidation

/-!
# Errors about counters

An operation can fail for many reasons.  One of them would mean that the ledger
had lost track of a balance: a counter of the summary that would become negative.
`Harmless` is any other error.  The checks of evidence, identities, prices and
attempts only raise harmless errors; the checks of a summary do if the counters
they are given are not negative.
-/

namespace Turnstile

open Guard

/-- The names of the counters of a summary. -/
def counterFields : List String :=
  ["confirmed_tokens", "active_reserved_tokens", "upper_bound_tokens", "confirmed_usd",
    "active_reserved_usd", "upper_bound_usd"]

/-- The error says that a counter of the summary is negative. -/
def LedgerError.negativeCounter : LedgerError → Bool
  | .tooSmall field => decide (field ∈ counterFields)
  | .notExactInteger field value => decide (field ∈ counterFields) && decide (value < 0)
  | .conflictFrom cause => cause.negativeCounter
  | _ => false

/-- The error is not about a negative counter. -/
def Harmless (e : LedgerError) : Prop := e.negativeCounter = false

instance (e : LedgerError) : Decidable (Harmless e) := inferInstanceAs (Decidable (_ = _))

section

variable {α : Type}

@[simp] theorem harmless_valueError (message : String) : Harmless (.valueError message) := rfl

@[simp] theorem harmless_keyError (key : String) : Harmless (.keyError key) := rfl

@[simp] theorem harmless_invalidOperation : Harmless .invalidOperation := rfl

@[simp] theorem harmless_tooLarge (field : String) : Harmless (.tooLarge field) := rfl

@[simp] theorem harmless_invalidModel (message : String) : Harmless (.invalidModel message) := rfl

@[simp] theorem harmless_protocolConflict (message : String) :
    Harmless (.protocolConflict message) := rfl

@[simp] theorem harmless_admissionDenied (code : DenialCode) :
    Harmless (.admissionDenied code) := rfl

@[simp] theorem harmless_unavailable (message : String) : Harmless (.unavailable message) := rfl

theorem harmless_tooSmall {field : String} (h : field ∉ counterFields) :
    Harmless (.tooSmall field) := by
  simp [Harmless, LedgerError.negativeCounter, h]

/-- An integer check of another field, or of a value that is not negative. -/
theorem raises_exactInteger {field : String} {value : Int}
    (h : field ∉ counterFields ∨ 0 ≤ value) : Raises Harmless (exactInteger field value) := by
  refine raises_require.2 fun _ => ?_
  rcases h with h | h
  · simp [Harmless, LedgerError.negativeCounter, h]
  · simp [Harmless, LedgerError.negativeCounter, Int.not_lt.2 h]

theorem raises_exactKey {field : String} {value : Option Int}
    (h : field ∉ counterFields ∨ ∀ n ∈ value, 0 ≤ n) :
    Raises Harmless (exactKey field value) := by
  cases value with
  | none => simp [exactKey]
  | some n =>
      refine raises_bind.2 ⟨raises_exactInteger (h.imp_right fun h => h n rfl), fun _ _ => ?_⟩
      exact raises_ok _

@[simp] theorem raises_exactUsdAmount (amount : Int) :
    Raises Harmless (exactUsdAmount amount) :=
  raises_require.2 fun _ => rfl

@[simp] theorem raises_exactUsdField (amount : Option Int) :
    Raises Harmless (exactUsdField amount) := by
  cases amount <;> simp [exactUsdField]

theorem raises_tokenField {field : String} {lower value : Int}
    (h : field ∉ counterFields ∨ lower ≤ value) :
    Raises Harmless (tokenField field lower value) := by
  refine raises_bind.2 ⟨raises_require.2 fun hlt => ?_, fun _ _ => raises_require.2 fun _ => rfl⟩
  exact harmless_tooSmall (h.resolve_right hlt)

theorem raises_usdField {field : String} {amount : Option Int}
    (h : field ∉ counterFields ∨ ∀ x ∈ amount, 0 ≤ x) :
    Raises Harmless (usdField field amount) := by
  cases amount with
  | none => exact raises_ok _
  | some x =>
      refine raises_bind.2 ⟨raises_require.2 fun hlt => ?_, fun _ _ =>
        raises_require.2 fun _ => rfl⟩
      exact harmless_tooSmall (h.resolve_right fun hx => hlt (hx x rfl))

end

/-! ## Prices -/

theorem raises_rateUnits (message : String) (value : ℚ) :
    Raises Harmless (rateUnits message value) := by
  simp [rateUnits]

theorem raises_schedule (message : String) (rates : Rates) (minimum : Int)
    (maximum : Option Int) : Raises Harmless (rates.schedule message minimum maximum) := by
  simp [Rates.schedule, raises_rateUnits]

theorem raises_schedules (message : String) (price : ModelPrice) :
    Raises Harmless (price.schedules message) := by
  unfold ModelPrice.schedules
  split
  next =>
    intro e he
    cases hs : price.toRates.schedule message 0 none with
    | ok s =>
        rw [hs] at he
        cases he
    | error e' =>
        rw [hs] at he
        cases he
        exact raises_schedule _ _ _ _ e hs
  next =>
    induction price.contextTiers with
    | nil => simp
    | cons tier tiers ih => simp [List.mapM_cons, raises_schedule, ih]

theorem raises_selectTier (billed : Int) (schedules : List RateSchedule) :
    ∀ minimum selected, Raises Harmless (selectTier billed minimum selected schedules) := by
  induction schedules with
  | nil =>
      intro minimum selected
      exact raises_ok _
  | cons tier rest ih =>
      intro minimum selected
      unfold selectTier
      refine raises_bind.2 ⟨raises_exactInteger (.inl (by decide)), fun _ _ => ?_⟩
      refine raises_bind.2 ⟨raises_require.2 fun _ => rfl, fun _ _ => ?_⟩
      refine raises_bind.2 ⟨?_, fun following _ => ih following _⟩
      cases tier.maxInputTokens with
      | none => simp
      | some maximum => simp [raises_exactInteger, counterFields]

theorem raises_usdCompletionCharge (projection : BudgetPriceProjection)
    (evidence : UsageCounters) :
    Raises Harmless (usdCompletionCharge projection evidence) := by
  unfold usdCompletionCharge
  refine raises_bind.2 ⟨?_, fun price _ => ?_⟩
  · cases projection.price <;> simp
  refine raises_bind.2 ⟨raises_require.2 fun _ => rfl, fun _ _ => ?_⟩
  refine raises_bind.2 ⟨raises_require.2 fun _ => rfl, fun _ _ => ?_⟩
  refine raises_bind.2 ⟨raises_schedules _ _, fun _ _ => ?_⟩
  refine raises_bind.2 ⟨raises_require.2 fun _ => rfl, fun _ _ => ?_⟩
  refine raises_bind.2 ⟨raises_selectTier _ _ _ _, fun selected _ => ?_⟩
  refine raises_bind.2 ⟨?_, fun tier _ => ?_⟩
  · cases selected <;> simp
  · simp [raises_exactInteger, counterFields]

/-! ## Evidence -/

@[simp] theorem raises_validateTerminalRejection (rejected : Rejected) :
    Raises Harmless (validateTerminalRejection rejected) := by
  cases rejected <;> simp [validateTerminalRejection]

theorem raises_validateCompletionRejection (c : Completion)
    (rejection : Option (Decoded Rejection)) :
    Raises Harmless (validateCompletionRejection c rejection) := by
  rcases rejection with _ | _ | rejection
  · simp [validateCompletionRejection]
  · simp [validateCompletionRejection]
  · refine raises_bind.2 ⟨raises_require.2 fun _ => rfl, fun _ _ => ?_⟩
    cases rejection.observed <;> simp

@[simp] theorem raises_validateCompletion (value : Decoded Completion) :
    Raises Harmless (validateCompletion value) := by
  cases value with
  | malformed => simp [validateCompletion]
  | record c =>
      simp [validateCompletion, raises_exactInteger, raises_validateCompletionRejection,
        counterFields]

@[simp] theorem raises_validateRejectionPolicy (value : Decoded RejectionPolicy) :
    Raises Harmless (validateRejectionPolicy value) := by
  cases value <;> simp [validateRejectionPolicy]

theorem raises_settles (contract : RejectionContract) (rejected : Rejected) :
    Raises Harmless (contract.settles rejected) := by
  cases contract with
  | v1 rules =>
      refine raises_bind.2 ⟨?_, fun candidate _ => ?_⟩
      · cases rejected <;> simp
      · cases candidate with
        | none => simp
        | some rule =>
            simp only
            split <;> simp
  | v2 operation rules =>
      refine raises_bind.2 ⟨raises_validateTerminalRejection _, fun observation _ => ?_⟩
      split <;> simp

theorem raises_rejectionCompletion (policy : Option (Decoded RejectionPolicy))
    (rejected : Rejected) (source : Source) (observedAt admittedAt : Int) :
    Raises Harmless (rejectionCompletion policy rejected source observedAt admittedAt) := by
  cases policy with
  | none => exact raises_ok _
  | some policy =>
      refine raises_bind.2 ⟨raises_validateRejectionPolicy _, fun checked _ => ?_⟩
      refine raises_bind.2 ⟨raises_require.2 fun _ => rfl, fun _ _ => ?_⟩
      refine raises_bind.2 ⟨raises_settles _ _, fun settled _ => ?_⟩
      cases settled <;> simp

@[simp] theorem raises_validateRejectionEvidence (policy : Option (Decoded RejectionPolicy))
    (evidence : Decoded Completion) (admittedAt : Int) :
    Raises Harmless (validateRejectionEvidence policy evidence admittedAt) := by
  refine raises_bind.2 ⟨raises_validateCompletion _, fun checked _ => ?_⟩
  rcases checked.rejection with _ | _ | rejected
  · simp
  · simp
  · simp [raises_rejectionCompletion]

/-! ## Admissions, resolutions and attempts -/

@[simp] theorem raises_normalizedIdentity (identity : LedgerAttemptIdentity) :
    Raises Harmless (normalizedIdentity identity) := by
  simp [normalizedIdentity]

@[simp] theorem raises_receipt (fields : ReceiptFields) :
    Raises Harmless (LedgerAdmissionReceipt.modelValidate fields) := by
  intro e he
  have hvalidate : Raises Harmless fields.validate := by
    refine raises_bind.2 ⟨raises_tokenField (.inl (by decide)), fun _ _ => ?_⟩
    refine raises_bind.2 ⟨raises_usdField (.inl (by decide)), fun _ _ => ?_⟩
    cases fields.budgetMode with
    | tokens => simp
    | usd => cases fields.reservedUsd <;> cases fields.priceSnapshot <;> simp
  unfold LedgerAdmissionReceipt.modelValidate at he
  split at he
  next => cases he
  next e' hv =>
    cases he
    exact hvalidate e hv

@[simp] theorem raises_validateResolution (value : Decoded BudgetReservationResolution) :
    Raises Harmless (validateResolution value) := by
  cases value with
  | malformed => simp [validateResolution]
  | record resolution =>
      refine raises_bind.2 ⟨raises_normalizedIdentity _, fun identity _ => ?_⟩
      refine raises_bind.2 ⟨raises_exactInteger (.inl (by decide)), fun _ _ => ?_⟩
      refine raises_bind.2 ⟨raises_require.2 fun _ => rfl, fun _ _ => ?_⟩
      refine raises_bind.2 ⟨?_, fun _ _ => raises_ok _⟩
      unfold validateResolutionUsd
      cases resolution.receipt.budgetMode with
      | tokens => simp
      | usd =>
          cases resolution.receipt.reservedUsd <;> cases resolution.receipt.priceSnapshot <;>
            simp [raises_usdCompletionCharge]

@[simp] theorem raises_attempt (fields : AttemptFields) :
    Raises Harmless (LedgerAttempt.modelValidate fields) := by
  intro e he
  rw [LedgerAttempt.modelValidate_eq_error] at he
  refine (?_ : Raises Harmless fields.validate) e he
  have hetag : Raises Harmless (AttemptFields.etagField fields.priceEtag) := by
    cases fields.priceEtag <;> simp [AttemptFields.etagField, harmless_tooSmall, counterFields]
  have hresolution : Raises Harmless fields.validateRetainedResolution := by
    unfold AttemptFields.validateRetainedResolution
    cases fields.resolutionEvidence <;> simp
  have hpolicy : Raises Harmless fields.validateRetainedPolicy := by
    unfold AttemptFields.validateRetainedPolicy
    cases fields.rejectionPolicy <;> simp
  have hrejection : Raises Harmless fields.validateRetainedRejection := by
    unfold AttemptFields.validateRetainedRejection
    cases fields.rejectionEvidence <;> simp
  have hcompletion : Raises Harmless fields.validateRetainedCompletion := by
    unfold AttemptFields.validateRetainedCompletion
    cases fields.completionEvidence <;> simp
  simp [AttemptFields.validate, raises_tokenField, raises_usdField, harmless_tooSmall,
    counterFields, hetag, hresolution, hpolicy, hrejection, hcompletion]

/-! ## Summaries -/

/-- A summary whose counters are not negative is refused for other reasons. -/
theorem raises_summary {fields : SummaryFields} (h : ∀ m c, 0 ≤ fields.balance m c) :
    Raises Harmless (LedgerSummary.modelValidate fields) := by
  intro e he
  rw [LedgerSummary.modelValidate_eq_error] at he
  refine (?_ : Raises Harmless fields.validate) e he
  have h₁ : 0 ≤ fields.confirmedTokens := h .tokens .confirmed
  have h₂ : 0 ≤ fields.activeReservedTokens := h .tokens .active
  have h₃ : 0 ≤ fields.upperBoundTokens := h .tokens .upper
  have h₄ : 0 ≤ fields.confirmedUsd := h .usd .confirmed
  have h₅ : 0 ≤ fields.activeReservedUsd := h .usd .active
  have h₆ : 0 ≤ fields.upperBoundUsd := h .usd .upper
  simp [SummaryFields.validate, raises_tokenField, raises_usdField, harmless_tooSmall,
    counterFields, h₁, h₂, h₃, h₄, h₅, h₆]

theorem raises_advanceSummary {summary : LedgerSummary} {now : Int} {updates : SummaryFields}
    (h : ∀ m c, 0 ≤ updates.balance m c) :
    Raises Harmless (advanceSummary summary now updates) := by
  refine raises_bind.2 ⟨raises_require.2 fun _ => rfl, fun _ _ => raises_summary fun m c => ?_⟩
  have hmc := h m c
  cases m <;> cases c <;> exact hmc

/-- The counters of a stored summary are not negative. -/
theorem LedgerSummary.balance_nonneg (s : LedgerSummary) (m : BudgetMode) (c : Counter) :
    0 ≤ s.balance m c := by
  have h := s.isValid
  cases m <;> cases c
  · exact h.confirmedTokens.1
  · exact h.activeReservedTokens.1
  · exact h.upperBoundTokens.1
  · exact h.confirmedUsd.1
  · exact h.activeReservedUsd.1
  · exact h.upperBoundUsd.1

end Turnstile
