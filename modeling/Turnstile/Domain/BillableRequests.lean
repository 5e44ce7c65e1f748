import Turnstile.Domain.BudgetEvidence

/-!
# Billable requests

A billable request is planned, attempted under an authorization, and acknowledged.  An
attempt that was acknowledged with an exact total may be used again by a plan with the
same digest.
-/

namespace Turnstile

open Guard

/-! ## Plans and outcomes -/

/-- `BillableRequestPlan`. -/
structure BillableRequestPlan where
  operationKey : String
  planSha256 : Hex64
  scope : EvidenceScope
  periodStart : Date
  modelId : Text
  modelKey : String
  reservedTokens : Int
  authorizationId : Option UUID
  attemptLimit : ℕ
  reuseRequires : EvidenceObject
  admissionAuthority : AdmissionAuthority
  reserved_pos : 1 ≤ reservedTokens
  limit_pos : 1 ≤ attemptLimit
  limit_le : attemptLimit ≤ 32
  /-- `first_day_of_month`. -/
  first_day : periodStart.day = 1

/-- `BillableRequestOutcome`. -/
structure BillableRequestOutcome where
  actualTokens : Option Int
  correlationId : Option Text
  evidence : EvidenceObject
  nonneg : ∀ tokens ∈ actualTokens, 0 ≤ tokens

/-- The exceptions of the billable calls. -/
inductive BillableError where
  | outcomeUncertain
  | budgetExceeded
  | acknowledgementChanged
  /-- `KeyError`. -/
  | unknownRequest
  /-- `ValueError` of `UUID(plan.scope_id)`. -/
  | malformedScope
  /-- `TypeError`: an integer is compared with a missing limit. -/
  | missingLimit
  | ambiguousBinding
deriving DecidableEq, Repr

/-! ## Attempts -/

/-- The key of the authority in evidence. -/
def admissionAuthorityKey : String := "admission_authority"

namespace BillableRequestAttempt

/-- Admitted by the execution protocol of the gateway. -/
def Delegated (row : BillableRequestAttempt) : Prop :=
  row.evidence.lookup admissionAuthorityKey = some AdmissionAuthority.apimExecution.text

instance (row : BillableRequestAttempt) : Decidable row.Delegated :=
  inferInstanceAs (Decidable (_ = _))

/-- The evidence has all that the plan asks for, under the plan's authority. -/
def Satisfies (row : BillableRequestAttempt) (plan : BillableRequestPlan) : Prop :=
  (row.evidence.lookup admissionAuthorityKey).getD AdmissionAuthority.postgresql.text =
      plan.admissionAuthority.text ∧
    ∀ required ∈ plan.reuseRequires.entries,
      row.evidence.lookup required.1 = some required.2

instance (row : BillableRequestAttempt) (plan : BillableRequestPlan) :
    Decidable (row.Satisfies plan) :=
  inferInstanceAs (Decidable (_ ∧ _))

/-- The test of `begin_billable_request` for an attempt to use again. -/
def ReusableBy (row : BillableRequestAttempt) (plan : BillableRequestPlan) : Prop :=
  row.planSha256 = plan.planSha256 ∧ row.state = .exact ∧ row.Satisfies plan

instance (row : BillableRequestAttempt) (plan : BillableRequestPlan) :
    Decidable (row.ReusableBy plan) :=
  inferInstanceAs (Decidable (_ ∧ _))

/-- The test of `recover_billable_attempt`. -/
def RecoveredBy (row : BillableRequestAttempt) (plan : BillableRequestPlan) : Prop :=
  row.operationKey = plan.operationKey ∧ row.planSha256 = plan.planSha256 ∧
    row.scope = plan.scope ∧ row.modelId = plan.modelId ∧ row.modelKey = plan.modelKey ∧
    row.authorizationId = plan.authorizationId ∧ row.state = .exact ∧ row.actualTokens ≠ none ∧
    row.Satisfies plan

instance (row : BillableRequestAttempt) (plan : BillableRequestPlan) :
    Decidable (row.RecoveredBy plan) :=
  inferInstanceAs (Decidable (_ ∧ _))

end BillableRequestAttempt

/-- `recover_billable_attempt`. -/
def recoverBillableAttempt (plan : BillableRequestPlan) (attempts : List BillableRequestAttempt) :
    Except BillableError BillableRequestAttempt :=
  match attempts.filter fun row => row.RecoveredBy plan with
  | [row] => if 32 < attempts.length then .error .outcomeUncertain else .ok row
  | _ => .error .outcomeUncertain

/-- The attempt that a plan starts. -/
def BillableRequestPlan.attempt (plan : BillableRequestPlan) (id : UUID) (index : ℕ) (now : Int) :
    BillableRequestAttempt where
  id := id
  operationKey := plan.operationKey
  planSha256 := plan.planSha256
  scope := plan.scope
  periodStart := plan.periodStart
  modelId := plan.modelId
  modelKey := plan.modelKey
  reservedTokens := plan.reservedTokens
  authorizationId := plan.authorizationId
  attemptIndex := index
  state := .started
  actualTokens := none
  correlationId := none
  evidence := match plan.admissionAuthority with
    | .apimExecution => AList.singleton admissionAuthorityKey AdmissionAuthority.apimExecution.text
    | .postgresql => ∅
  createdAt := now
  updatedAt := now
  measured := by simp

/-- The attempt that an outcome leaves of an attempt without one. -/
def BillableRequestAttempt.finished (row : BillableRequestAttempt)
    (outcome : BillableRequestOutcome) (now : Int) : BillableRequestAttempt :=
  { row with
    actualTokens := outcome.actualTokens
    -- An empty identifier counts as none.
    correlationId := (outcome.correlationId.filter (· ≠ .plain "")).or row.correlationId
    evidence :=
      -- The authority of an attempt is not the caller's to state.
      match row.evidence.lookup admissionAuthorityKey with
      | some authority => outcome.evidence.insert admissionAuthorityKey authority
      | none => outcome.evidence.erase admissionAuthorityKey
    state := if outcome.actualTokens = none then .uncertain else .exact
    updatedAt := now
    measured := by
      by_cases h : outcome.actualTokens = none <;> simp [h] }

end Turnstile
