import Mathlib.Data.List.AList
import Turnstile.Domain.Values

/-!
# Budget evidence

Three kinds of records say what a request used.  A billable attempt is acknowledged
by its caller with an exact total, a reservation is finalized from gateway logs, and
the usage record of the event stream is the canonical count.

Once the evidence policy is in effect, evidence for requests that were admitted since
then is strict: of all the evidence for a request exactly one piece counts.
-/

namespace Turnstile

open Guard

/-! ## Scopes -/

inductive EvidenceScopeType where
  | person
  | application
  | system
deriving DecidableEq, Repr

structure EvidenceScope where
  scopeType : EvidenceScopeType
  scopeId : Text
deriving DecidableEq, Repr

/-- `text.strip()` is not empty. -/
def Text.nonblank : Text → Bool
  | .uuid _ _ => true
  | .plain text => text.toList.any fun c => !c.isWhitespace

/-! ## Billable attempts -/

inductive AdmissionAuthority where
  | postgresql
  | apimExecution
deriving DecidableEq, Repr

/-- A JSON value, by its text. -/
abbrev JsonText := String

/-- The value of an authority in evidence. -/
def AdmissionAuthority.text : AdmissionAuthority → JsonText
  | .postgresql => "postgresql"
  | .apimExecution => "apim_execution"

/-- A JSON object, by key. -/
abbrev EvidenceObject := AList fun _ : String => JsonText

inductive BillableState where
  | started
  | exact
  | uncertain
deriving DecidableEq, Repr

/-- `BillableRequestAttempt`. -/
structure BillableRequestAttempt where
  id : UUID
  operationKey : String
  planSha256 : Hex64
  scope : EvidenceScope
  periodStart : Date
  modelId : Text
  modelKey : String
  reservedTokens : Int
  authorizationId : Option UUID
  attemptIndex : ℕ
  state : BillableState
  actualTokens : Option Int
  correlationId : Option Text
  evidence : EvidenceObject
  createdAt : Int
  updatedAt : Int
  /-- `measured_state`. -/
  measured : state = .exact ↔ actualTokens ≠ none
deriving DecidableEq

/-! ## Finalizations -/

inductive ReservationFinalizationKind where
  | exactUsage
  | terminalZero
  | unverifiedUpperBound
deriving DecidableEq, Repr

inductive ReservationFinalizationSource where
  | apimGatewayLlmLog
  | apimGatewayLog
  | reservationTimeout
deriving DecidableEq, Repr

/-- The fields of a finalization. -/
structure FinalizationFields where
  scope : EvidenceScope
  periodStart : Date
  correlationId : Text
  reservationCreatedAt : Int
  reservationTokens : Int
  evidenceAt : Int
  statusCode : Option Int
  inputTokens : Option Int
  outputTokens : Option Int
  totalTokens : Int
  finalizationKind : ReservationFinalizationKind
  source : ReservationFinalizationSource
deriving DecidableEq

/-- `validate_finalization`, by kind. -/
def FinalizationFields.Valid (f : FinalizationFields) : Prop :=
  f.scope.scopeId.nonblank = true ∧ f.correlationId.nonblank = true ∧ f.periodStart.day = 1 ∧
    f.reservationCreatedAt ≤ f.evidenceAt ∧ 0 ≤ f.totalTokens ∧
    match f.finalizationKind with
    | .exactUsage => ∃ input ∈ f.inputTokens, ∃ output ∈ f.outputTokens,
        0 ≤ input ∧ 0 ≤ output ∧ input + output = f.totalTokens ∧ f.source = .apimGatewayLlmLog
    | .terminalZero => f.inputTokens = some 0 ∧ f.outputTokens = some 0 ∧ f.totalTokens = 0 ∧
        (∃ status ∈ f.statusCode, 400 ≤ status) ∧ f.source = .apimGatewayLog
    | .unverifiedUpperBound => f.inputTokens = none ∧ f.outputTokens = none ∧
        f.totalTokens = f.reservationTokens ∧ f.statusCode = none ∧ f.source = .reservationTimeout

/-- `BudgetReservationFinalization`. -/
structure BudgetReservationFinalization extends FinalizationFields where
  valid : toFinalizationFields.Valid
deriving DecidableEq

/-! ## Usage records -/

inductive UsageDomain where
  | apim
  | githubCopilot
deriving DecidableEq, Repr

/-- `TokenUsageRecord`, as far as budgets read it. -/
structure TokenUsageRecord where
  id : Text
  requestId : Text
  correlationId : Text
  ts : Int
  userId : Text
  modelId : Text
  requestSource : String
  usageDomain : UsageDomain
  inputTokens : Int
  cachedTokens : Int
  cacheWriteTokens : Int
  outputTokens : Int
  statusCode : Int
  estimated : Bool
  ingestError : Option String
deriving DecidableEq, Repr

/-- The three buckets of a record. -/
def TokenUsageRecord.totalTokens (record : TokenUsageRecord) : Int :=
  record.inputTokens + record.cachedTokens + record.outputTokens

/-- `canonical_budget_tokens`. -/
def canonicalBudgetTokens (record : TokenUsageRecord) (reconciled : Bool) : Option Int :=
  if record.usageDomain ≠ .apim ∨ record.correlationId.nonblank = false ∨
      record.inputTokens < 0 ∨ record.cachedTokens < 0 ∨ record.cacheWriteTokens < 0 ∨
      record.outputTokens < 0 ∨ record.cachedTokens < record.cacheWriteTokens then none
  else if record.estimated = false ∧ record.ingestError = none then some record.totalTokens
  else if reconciled = true ∧ record.ingestError = some "stream_cache_usage_unavailable" then
    some (record.inputTokens + record.outputTokens)
  else none

/-! ## The policy -/

/-- `strict_budget_evidence` at time `now`. -/
def strictBudgetEvidence (admittedAt : Int) (effectiveAt : Option Int) (now : Int) : Bool :=
  match effectiveAt with
  | none => false
  | some effectiveAt => decide (effectiveAt ≤ now ∧ effectiveAt ≤ admittedAt)

end Turnstile
