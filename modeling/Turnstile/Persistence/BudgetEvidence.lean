import Turnstile.Domain.BudgetEvidence

/-!
# The choice of budget evidence

The repository keeps attempts, finalizations and usage records in the order in which
they arrived.  `_strict_budget_choices` goes over all of them for one scope, resolves
the request that each is evidence for, and keeps the first piece of the highest rank
that was received earliest.
-/

namespace Turnstile

open Guard

/-- A key of `budget_evidence_received_at`. -/
inductive BudgetEvidenceKey where
  | usage (id : Text)
  | reconciled (id : Text)
  | finalization (scope : EvidenceScope) (correlationId : Text)
      (kind : ReservationFinalizationKind) (source : ReservationFinalizationSource)
      (evidenceAt : Int)
deriving DecidableEq

/-- `_finalization_evidence_key`. -/
def finalizationEvidenceKey (item : BudgetReservationFinalization) : BudgetEvidenceKey :=
  .finalization item.scope item.correlationId item.finalizationKind item.source item.evidenceAt

/-- What the repository stores of budget evidence. -/
structure EvidenceStore where
  evidencePolicyEffectiveAt : Option Int
  /-- `created_at` of the admissions. -/
  budgetReservationAdmissions : EvidenceScope → Text → Option Int
  budgetEvidenceReceivedAt : BudgetEvidenceKey → Option Int
  reconciledUsageIds : Text → Bool
  /-- The application of a usage record's attribution. -/
  usageApplicationAttributions : Text → Option UUID
  billableRequests : List BillableRequestAttempt
  budgetReservationFinalizations : List BudgetReservationFinalization
  usageRecords : List TokenUsageRecord
  /-- Attempts are stored by id, -/
  attempts_nodup : (billableRequests.map (·.id)).Nodup
  /-- finalizations by their evidence key, -/
  finalizations_nodup : (budgetReservationFinalizations.map finalizationEvidenceKey).Nodup
  /-- and a record with a stored id replaces the stored one. -/
  usage_nodup : (usageRecords.map (·.id)).Nodup

/-- `ValueError` of the repository. -/
inductive EvidenceError where
  | ambiguousBinding
deriving DecidableEq, Repr

namespace EvidenceStore

variable (store : EvidenceStore) (now : Int)

/-- `strict_budget_evidence` under the store's policy. -/
def strict (admittedAt : Int) : Bool :=
  strictBudgetEvidence admittedAt store.evidencePolicyEffectiveAt now

/-! ## The request of a piece of evidence -/

/-- The test of `_budget_bound_attempt`. -/
def BoundTo (scope : EvidenceScope) (correlationId : Text) (attempt : BillableRequestAttempt) :
    Prop :=
  attempt.scope = scope ∧ (Text.ofUuid attempt.id = correlationId ∨
    attempt.correlationId = some correlationId ∧ store.strict now attempt.createdAt = true)

instance (scope : EvidenceScope) (correlationId : Text) (attempt : BillableRequestAttempt) :
    Decidable (store.BoundTo now scope correlationId attempt) :=
  inferInstanceAs (Decidable (_ ∧ _))

/-- `_budget_bound_attempt`. -/
def budgetBoundAttempt (scope : EvidenceScope) (correlationId : Text) :
    Except EvidenceError (Option BillableRequestAttempt) :=
  match store.billableRequests.filter fun a => store.BoundTo now scope correlationId a with
  | [] => .ok none
  | [attempt] => .ok (some attempt)
  | _ => .error .ambiguousBinding

/-- `_budget_admitted_at`. -/
def budgetAdmittedAt (scope : EvidenceScope) (correlationId : Text) (fallback : Int) :
    Except EvidenceError Int := do
  match ← store.budgetBoundAttempt now scope correlationId with
  | some attempt => pure attempt.createdAt
  | none =>
      match store.budgetReservationAdmissions scope correlationId with
      | some createdAt => pure createdAt
      | none =>
          match store.budgetReservationFinalizations.find? fun item =>
              item.scope = scope ∧ item.correlationId = correlationId with
          | some item => pure item.reservationCreatedAt
          | none => pure fallback

/-- The test of `_budget_record_identity`. -/
def RecordOf (record : TokenUsageRecord) (scope : EvidenceScope)
    (attempt : BillableRequestAttempt) : Prop :=
  record.requestId = Text.ofUuid attempt.id ∧ record.modelId = attempt.modelId ∧
    attempt.correlationId = some record.correlationId ∧ attempt.scope = scope

instance (record : TokenUsageRecord) (scope : EvidenceScope) (attempt : BillableRequestAttempt) :
    Decidable (RecordOf record scope attempt) := inferInstanceAs (Decidable (_ ∧ _))

/-- `_budget_record_identity`. -/
def budgetRecordIdentity (record : TokenUsageRecord) (scope : EvidenceScope) :
    Except EvidenceError (Text × Int) := do
  match store.billableRequests.find? fun attempt => RecordOf record scope attempt with
  | some attempt => pure (Text.ofUuid attempt.id, attempt.createdAt)
  | none =>
      let admitted ← store.budgetAdmittedAt now scope record.correlationId record.ts
      pure (record.correlationId, admitted)

/-! ## The choice -/

/-- What a piece of evidence says of a request. -/
structure Reading where
  identity : Text
  tokens : Int
  rank : ℕ
  receivedAt : Int
deriving DecidableEq

/-- The arguments of `accept`. -/
structure Accepted extends Reading where
  admitted : Int
deriving DecidableEq

/-- A stored piece of evidence. -/
inductive Piece where
  | attempt (attempt : BillableRequestAttempt)
  | finalization (item : BudgetReservationFinalization)
  | usage (record : TokenUsageRecord)

/-- Whether a usage record belongs to a scope. -/
def recordMatches (record : TokenUsageRecord) (scope : EvidenceScope) : Bool :=
  match scope.scopeType with
  | .person => decide (record.userId = scope.scopeId)
  | .application =>
      decide (∃ id ∈ store.usageApplicationAttributions record.id, Text.ofUuid id = scope.scopeId)
  | .system => decide (record.requestSource = "gateway-publication-probe") &&
      store.billableRequests.any fun attempt => RecordOf record scope attempt

/-- The arguments that the loops call `accept` with for a piece of evidence, if they
do. -/
def accepted? (scope : EvidenceScope) : Piece → Except EvidenceError (Option Accepted)
  | .attempt attempt =>
      match attempt.actualTokens with
      | none => pure none
      | some actualTokens =>
          pure (if attempt.scope = scope then
            some ⟨⟨Text.ofUuid attempt.id, actualTokens, 2, attempt.updatedAt⟩, attempt.createdAt⟩
            else none)
  | .finalization item =>
      if item.scope = scope ∧ item.finalizationKind ≠ .unverifiedUpperBound then do
        let boundAttempt ← store.budgetBoundAttempt now scope item.correlationId
        let identity := match boundAttempt with
          | some attempt => Text.ofUuid attempt.id
          | none => item.correlationId
        let admitted ←
          store.budgetAdmittedAt now scope item.correlationId item.reservationCreatedAt
        let receivedAt := (store.budgetEvidenceReceivedAt (finalizationEvidenceKey item)).getD now
        pure (some ⟨⟨identity, item.totalTokens, 1, receivedAt⟩, admitted⟩)
      else pure none
  | .usage record =>
      if store.recordMatches record scope = true then
        match canonicalBudgetTokens record (store.reconciledUsageIds record.id) with
        | none => pure none
        | some tokens => do
            let (identity, admitted) ← store.budgetRecordIdentity now record scope
            let exact := record.estimated = false ∧ record.ingestError = none
            let evidenceKey :=
              if exact then BudgetEvidenceKey.usage record.id
              else BudgetEvidenceKey.reconciled record.id
            let receivedAt := (store.budgetEvidenceReceivedAt evidenceKey).getD record.ts
            pure (some ⟨⟨identity, tokens, if exact then 3 else 1, receivedAt⟩, admitted⟩)
      else pure none

/-- The pieces in the order of the three loops. -/
def pieces : List Piece :=
  store.billableRequests.map .attempt ++ store.budgetReservationFinalizations.map .finalization ++
    store.usageRecords.map .usage

/-- What `choices` and `received` hold for every request. -/
abbrev Choices := AList fun _ : Text => Accepted

/-- `accept`. -/
def accept (choices : Choices) (item : Accepted) : Choices :=
  if store.strict now item.admitted = false then choices
  else
    match choices.lookup item.identity with
    | none => choices.insert item.identity item
    | some previous =>
        if previous.rank < item.rank ∨
            item.rank = previous.rank ∧ item.receivedAt < previous.receivedAt then
          choices.insert item.identity item
        else choices

/-- `_strict_budget_choices`. -/
def strictBudgetChoices (scope : EvidenceScope) : Except EvidenceError Choices :=
  foldChecked (store.accepted? now scope) (store.accept now) store.pieces ∅

end EvidenceStore

end Turnstile
