import Mathlib.Data.List.MinMax
import Mathlib.Data.Prod.Lex
import Mathlib.Order.BooleanAlgebra.Basic
import Turnstile.Foundation.Selection
import Turnstile.Foundation.Store
import Turnstile.Domain.BillableRequests
import Turnstile.Persistence.BudgetEvidence

/-!
# Billable requests in the repository

Attempts are stored with the evidence for them.  `begin_billable_request` admits a new
attempt when the confirmed tokens of its budget, the reservations of the attempts that
no evidence has settled, and its own reservation fit the limit.

The confirmed tokens are a base total over usage records, finalizations and strict
evidence, and an adjustment that takes the evidence for attempts out of the base total
and puts their effective tokens in.
-/

namespace Turnstile

open Guard

/-! ## Storing an attempt -/

namespace EvidenceStore

/-- `billable_requests[row.id] = row`. -/
def putAttempt (store : EvidenceStore) (row : BillableRequestAttempt) : EvidenceStore :=
  if h : row.id ∈ store.billableRequests.map (·.id) then
    { store with
      billableRequests := store.billableRequests.map fun old => if old.id = row.id then row else old
      attempts_nodup := by
        have hids : (store.billableRequests.map fun old => if old.id = row.id then row else old).map
            (·.id) = store.billableRequests.map (·.id) := by
          rw [List.map_map]
          refine List.map_congr_left fun old _ => ?_
          by_cases hold : old.id = row.id <;> simp [hold]
        rw [hids]
        exact store.attempts_nodup }
  else
    { store with
      billableRequests := store.billableRequests ++ [row]
      attempts_nodup := by
        rw [List.map_append]
        refine List.Nodup.append store.attempts_nodup (List.nodup_singleton _) ?_
        exact List.disjoint_singleton.2 h }

/-! ## The tokens of an attempt -/

variable (store : EvidenceStore) (now : Int)

/-- `_billable_scope_matches`. -/
def billableScopeMatches (record : TokenUsageRecord) (scope : EvidenceScope) : Bool :=
  match scope.scopeType with
  | .person => decide (record.userId = scope.scopeId)
  | .system => decide (record.requestSource = "gateway-publication-probe")
  | .application =>
      decide (∃ id ∈ store.usageApplicationAttributions record.id, Text.ofUuid id = scope.scopeId)

/-- A record that an attempt made. -/
def MadeBy (record : TokenUsageRecord) (attempt : BillableRequestAttempt) : Prop :=
  record.requestId = Text.ofUuid attempt.id ∧
    attempt.correlationId = some record.correlationId ∧ record.modelId = attempt.modelId

instance (record : TokenUsageRecord) (attempt : BillableRequestAttempt) :
    Decidable (MadeBy record attempt) :=
  inferInstanceAs (Decidable (_ ∧ _))

/-- `_billable_canonical_tokens`. -/
def billableCanonicalTokens (attempt : BillableRequestAttempt) : Option Int :=
  let records := store.usageRecords.filter fun record =>
    MadeBy record attempt ∧ record.usageDomain = .apim ∧
      (if store.strict now attempt.createdAt = true then
        canonicalBudgetTokens record (store.reconciledUsageIds record.id) ≠ none
        else record.estimated = false ∨ 400 ≤ record.statusCode) ∧
      store.billableScopeMatches record attempt.scope = true
  if records = [] then none else some (records.map (·.totalTokens)).sum

/-- `_billable_effective_tokens`. -/
def billableEffectiveTokens (attempt : BillableRequestAttempt) :
    Except EvidenceError (Option Int) :=
  if store.strict now attempt.createdAt = true then do
    let choices ← store.strictBudgetChoices now attempt.scope
    pure ((choices.lookup (Text.ofUuid attempt.id)).map (·.tokens))
  else
    match store.billableCanonicalTokens now attempt with
    | some canonical => pure (some canonical)
    | none =>
        if attempt.state = .exact then pure attempt.actualTokens
        else
          let recoveries := store.budgetReservationFinalizations.filter fun item =>
            item.correlationId = Text.ofUuid attempt.id ∧ item.scope = attempt.scope ∧
              item.periodStart = attempt.periodStart ∧
              item.finalizationKind ≠ .unverifiedUpperBound
          -- The attempt is not strict here, whatever the source asks again.
          let strongest := recoveries.argmax fun item =>
            (toLex (decide (item.finalizationKind = .exactUsage), item.evidenceAt) : Bool ×ₗ Int)
          pure (strongest.map (·.totalTokens))

/-! ## Confirmed tokens -/

/-- Tokens by correlation. -/
abbrev TokensByCorrelation := AList fun _ : Text => Int

/-- Finalizations by correlation. -/
abbrev FinalizationsByCorrelation := AList fun _ : Text => BudgetReservationFinalization

variable (scope : EvidenceScope) (period : Date)

/-- The attempts of a scope that are not strict. -/
def legacyAttempts : List BillableRequestAttempt :=
  store.billableRequests.filter fun row =>
    row.scope = scope ∧ store.strict now row.createdAt = false

/-- The usage records of a scope and a month. -/
def periodRecords : List TokenUsageRecord :=
  store.usageRecords.filter fun record =>
    record.usageDomain = .apim ∧ monthStart record.ts = period ∧
      store.billableScopeMatches record scope = true

/-- The test of `_billable_budget_adjustment` for a record of an attempt. -/
def Attributed (record : TokenUsageRecord) : Prop :=
  ∃ attempt ∈ store.legacyAttempts now scope, MadeBy record attempt

instance (record : TokenUsageRecord) : Decidable (store.Attributed now scope record) :=
  inferInstanceAs (Decidable (∃ _ ∈ _, _))

/-- `canonical` of `_billable_budget_adjustment`. -/
def attributedTokens : TokensByCorrelation :=
  ((store.periodRecords scope period).filter fun r => store.Attributed now scope r).foldl
    (fun canonical record => canonical.insert record.correlationId record.totalTokens) ∅

/-- `recovered` of `_billable_budget_adjustment`. -/
def recoveredAttempts : FinalizationsByCorrelation :=
  store.budgetReservationFinalizations.foldl (fun recovered item =>
    if item.scope ≠ scope ∨ item.periodStart ≠ period ∨
        (∀ attempt ∈ store.legacyAttempts now scope,
          item.correlationId ≠ Text.ofUuid attempt.id) ∨
        (∃ record ∈ store.periodRecords scope period,
          item.correlationId = record.correlationId) ∨
        item.finalizationKind = .unverifiedUpperBound then recovered
    else
      match recovered.lookup item.correlationId with
      | none => recovered.insert item.correlationId item
      | some prior =>
          if item.finalizationKind = .exactUsage ∧ prior.finalizationKind ≠ .exactUsage then
            recovered.insert item.correlationId item
          else recovered) ∅

/-- `_billable_budget_adjustment`. -/
def billableBudgetAdjustment : Except EvidenceError Int := do
  let effective ← ((store.legacyAttempts now scope).filter (·.periodStart = period)).mapM
    (store.billableEffectiveTokens now)
  pure ((effective.map (·.getD 0)).sum -
    Store.total id (store.attributedTokens now scope period) -
    Store.total (·.totalTokens) (store.recoveredAttempts now scope period))

/-- `_strict_budget_record`. -/
def strictBudgetRecord (record : TokenUsageRecord) : Except EvidenceError Bool := do
  let identity ← store.budgetRecordIdentity now record scope
  pure (store.strict now identity.2)

/-- The records of a scope as `budget_scope_confirmed_tokens` reads them: one that is not
a person's is an application's. -/
def confirmedScopeMatches (record : TokenUsageRecord) : Bool :=
  match scope.scopeType with
  | .person => decide (record.userId = scope.scopeId)
  | _ =>
      decide (∃ id ∈ store.usageApplicationAttributions record.id, Text.ofUuid id = scope.scopeId)

/-- A record that `budget_scope_confirmed_tokens` counts, if it is not strict. -/
def Countable (record : TokenUsageRecord) : Prop :=
  record.estimated = false ∨ record.ingestError = some "stream_cache_usage_unavailable"

instance (record : TokenUsageRecord) : Decidable (Countable record) :=
  inferInstanceAs (Decidable (_ ∨ _))

/-- The loop over usage records of `budget_scope_confirmed_tokens`. -/
def countedRecord? (record : TokenUsageRecord) : Except EvidenceError (Option TokenUsageRecord) :=
  if record.usageDomain = .apim ∧ monthStart record.ts = period ∧
      store.confirmedScopeMatches scope record = true ∧ Countable record then do
    let isStrict ← store.strictBudgetRecord now scope record
    pure (if isStrict = true then none else some record)
  else pure none

/-- `canonical` of `budget_scope_confirmed_tokens`. -/
def canonicalTokens : Except EvidenceError TokensByCorrelation :=
  foldChecked (store.countedRecord? now scope period)
    (fun canonical record => canonical.insert record.correlationId record.totalTokens)
    store.usageRecords ∅

/-- `strength` of a finalization. -/
def strength : ReservationFinalizationKind → ℕ
  | .unverifiedUpperBound => 1
  | .terminalZero => 2
  | .exactUsage => 3

/-- The loop over finalizations of `budget_scope_confirmed_tokens`. -/
def countedFinalization? (canonical : TokensByCorrelation) (item : BudgetReservationFinalization) :
    Except EvidenceError (Option BudgetReservationFinalization) :=
  if item.scope ≠ scope ∨ item.periodStart ≠ period ∨ item.correlationId ∈ canonical ∨
      item.finalizationKind = .unverifiedUpperBound then pure none
  else do
    let admitted ←
      store.budgetAdmittedAt now scope item.correlationId item.reservationCreatedAt
    pure (if store.strict now admitted = true then none else some item)

/-- `strongest` of `budget_scope_confirmed_tokens`. -/
def strongestFinalizations (canonical : TokensByCorrelation) :
    Except EvidenceError FinalizationsByCorrelation :=
  foldChecked (store.countedFinalization? now scope period canonical)
    (fun strongest item =>
      match strongest.lookup item.correlationId with
      | none => strongest.insert item.correlationId item
      | some existing =>
          if strength existing.finalizationKind < strength item.finalizationKind then
            strongest.insert item.correlationId item
          else strongest)
    store.budgetReservationFinalizations ∅

/-- The tokens of a choice that was admitted in the month. -/
def monthTokens (item : Accepted) : Int :=
  if monthStart item.admitted = period then item.tokens else 0

/-- `budget_scope_confirmed_tokens`, with the adjustment of the repository. -/
def budgetScopeConfirmedTokens : Except EvidenceError Int := do
  let canonical ← store.canonicalTokens now scope period
  let strongest ← store.strongestFinalizations now scope period canonical
  let choices ← store.strictBudgetChoices now scope
  let adjustment ← store.billableBudgetAdjustment now scope period
  pure (Store.total id canonical + Store.total (·.totalTokens) strongest +
    Store.total (monthTokens period) choices + adjustment)

/-- The attempts that hold a reservation of a scope and a month. -/
def reservations : List BillableRequestAttempt :=
  store.billableRequests.filter fun row =>
    row.scope = scope ∧ ¬row.Delegated ∧ row.periodStart = period ∧ row.state ≠ .exact

/-- `pending` of `begin_billable_request`. -/
def pendingTokens : Except EvidenceError Int := do
  let reserved ← (store.reservations scope period).mapM fun row => do
    let effective ← store.billableEffectiveTokens now row
    pure (if effective = none then row.reservedTokens else 0)
  pure reserved.sum

end EvidenceStore

/-! ## The calls -/

inductive EnforcementMode where
  | audit
  | block
deriving DecidableEq, Repr

structure TokenBudget where
  tokenLimit : Option Int
  parentScopeId : Text
deriving DecidableEq

structure GatewayApplicationBudget where
  tokenLimit : Option Int
  enforce : Bool
deriving DecidableEq

/-- The repository, as far as billable requests read and write it. -/
structure BillableRepository extends EvidenceStore where
  /-- The budgets of users, by month. -/
  tokenBudgets : Date → Text → Option TokenBudget
  departmentEnforcement : Text → Option EnforcementMode
  gatewayApplicationBudgets : Date → UUID → Option GatewayApplicationBudget

/-- `quota`. -/
structure Quota where
  mode : EnforcementMode
  tokenLimit : Option Int
  usedTokens : Int
deriving DecidableEq

namespace BillableRepository

variable (repo : BillableRepository) (plan : BillableRequestPlan) (now : Int)

/-- The exceptions of reading evidence are those of the calls. -/
def evidence {α : Type} (x : Except EvidenceError α) : Except BillableError α :=
  x.mapError fun
    | .ambiguousBinding => .ambiguousBinding

/-- `person_budget_state`. -/
def personBudgetState : Except EvidenceError (Option Quota) :=
  match repo.tokenBudgets plan.periodStart plan.scope.scopeId with
  | none => pure none
  | some budget => do
      let used ← repo.budgetScopeConfirmedTokens now plan.scope plan.periodStart
      let mode := (repo.departmentEnforcement budget.parentScopeId).getD .audit
      pure (some ⟨mode, budget.tokenLimit, used⟩)

/-- The quota that `begin_billable_request` checks. -/
def quota : Except BillableError (Option Quota) :=
  match plan.admissionAuthority, plan.scope.scopeType with
  | .postgresql, .person => evidence (repo.personBudgetState plan now)
  | .postgresql, .application =>
      match plan.scope.scopeId.toUuid? with
      | none => .error .malformedScope
      | some applicationId =>
          match repo.gatewayApplicationBudgets plan.periodStart applicationId with
          | none => pure none
          | some budget => do
              let used ←
                evidence (repo.budgetScopeConfirmedTokens now plan.scope plan.periodStart)
              pure (some ⟨if budget.enforce = true then .block else .audit,
                budget.tokenLimit, used⟩)
  | _, _ => pure none

/-- The comparison of `begin_billable_request`. -/
def checkQuota (quota : Option Quota) (pending : Int) : Except BillableError Unit :=
  match quota with
  | none => pure ()
  | some quota =>
      match quota.mode, quota.tokenLimit with
      | .audit, _ => pure ()
      | .block, none => .error .missingLimit
      | .block, some limit =>
          require (quota.usedTokens + pending + plan.reservedTokens ≤ limit) .budgetExceeded

/-- The attempts of an operation. -/
def attemptsOf (operationKey : String) : List BillableRequestAttempt :=
  repo.billableRequests.filter (·.operationKey = operationKey)

def putAttempt (row : BillableRequestAttempt) : BillableRepository :=
  { repo with toEvidenceStore := repo.toEvidenceStore.putAttempt row }

/-- `begin_billable_request` of an attempt that is not used again. -/
def startAttempt (id : UUID) : Except BillableError (BillableRepository × BillableRequestAttempt) :=
  do
    let previous := repo.attemptsOf plan.operationKey
    require (previous.length < plan.attemptLimit ∧
      ∀ row ∈ previous, row.authorizationId ≠ plan.authorizationId) .outcomeUncertain
    let quota ← repo.quota plan now
    let pending ← evidence (repo.pendingTokens now plan.scope plan.periodStart)
    checkQuota plan quota pending
    let row := plan.attempt id (previous.length + 1) now
    pure (repo.putAttempt row, row)

/-- `begin_billable_request`, with the identifier that `uuid4` gives. -/
def beginBillableRequest (id : UUID) :
    Except BillableError (BillableRepository × BillableRequestAttempt) :=
  match (repo.attemptsOf plan.operationKey).find? fun row => row.ReusableBy plan with
  | some row => pure (repo, row)
  | none => repo.startAttempt plan now id

/-- `recover_billable_request`. -/
def recoverBillableRequest : Except BillableError BillableRequestAttempt :=
  recoverBillableAttempt plan (repo.attemptsOf plan.operationKey)

/-- `finish_billable_request`. -/
def finishBillableRequest (id : UUID) (outcome : BillableRequestOutcome) :
    Except BillableError BillableRepository :=
  match repo.billableRequests.find? (·.id = id) with
  | none => .error .unknownRequest
  | some row =>
      if row.state = .exact then
        if outcome.actualTokens ≠ none ∧ row.actualTokens ≠ outcome.actualTokens then
          .error .acknowledgementChanged
        else pure repo
      else pure (repo.putAttempt (row.finished outcome now))

end BillableRepository

end Turnstile
