import Turnstile.Domain.Dispatch
import Turnstile.Domain.Operations
import Turnstile.Foundation.Program

/-!
# The atomic table ledger

A scope is a partition of the table.  It holds the summary, a row per attempt, and
the rows of the dispatches it coordinates.  `reserve` and `_update_attempt` read
the summary and the attempt in two requests and commit both under the tags they
read; after a conflict or a lost response they read again.
-/

namespace Turnstile

open Guard

/-- A row of a partition. -/
inductive LedgerRow where
  | summary
  | attempt (key : AttemptKey)
  | dispatch (key : AttemptKey)
deriving DecidableEq

/-- Partition and row key. -/
structure RowKey where
  scope : LedgerScope
  row : LedgerRow
deriving DecidableEq

/-- What a row stores. -/
inductive LedgerDocument where
  | summary (summary : LedgerSummary)
  | attempt (attempt : LedgerAttempt)
  | dispatch (dispatch : LedgerDispatch)

namespace LedgerDocument

/-- `LedgerSummary.model_validate` of a stored document. -/
def asSummary : LedgerDocument → Except LedgerError LedgerSummary
  | .summary s => .ok s
  | _ => .error (.invalidModel "LedgerSummary")

/-- `LedgerAttempt.model_validate` of a stored document. -/
def asAttempt : LedgerDocument → Except LedgerError LedgerAttempt
  | .attempt a => .ok a
  | _ => .error (.invalidModel "LedgerAttempt")

/-- `LedgerDispatch.model_validate` of a stored document. -/
def asDispatch : LedgerDocument → Except LedgerError LedgerDispatch
  | .dispatch d => .ok d
  | _ => .error (.invalidModel "LedgerDispatch")

@[simp] theorem asSummary_eq_ok {d : LedgerDocument} {s : LedgerSummary} :
    d.asSummary = .ok s ↔ d = .summary s := by
  cases d <;> simp [asSummary]

@[simp] theorem asAttempt_eq_ok {d : LedgerDocument} {a : LedgerAttempt} :
    d.asAttempt = .ok a ↔ d = .attempt a := by
  cases d <;> simp [asAttempt]

@[simp] theorem asDispatch_eq_ok {d : LedgerDocument} {p : LedgerDispatch} :
    d.asDispatch = .ok p ↔ d = .dispatch p := by
  cases d <;> simp [asDispatch]

end LedgerDocument

/-- `SUMMARY_ROW` of a scope. -/
def summaryKey (scope : LedgerScope) : RowKey := ⟨scope, .summary⟩

/-- The row of an attempt. -/
def LedgerAttemptIdentity.rowKey (identity : LedgerAttemptIdentity) : RowKey :=
  ⟨identity.scope, .attempt identity.attemptKey⟩

/-- A client of the ledger's table; its inputs are readings of the clock. -/
abbrev LedgerProgram := Program RowKey LedgerDocument Int LedgerError

/-- The summary and the attempt of a request, under the tags they were read with. -/
def pairBatch (identity : LedgerAttemptIdentity) (summary : LedgerSummary)
    (attempt : LedgerAttempt) (summaryEtag : ℕ) (attemptEtag : Option ℕ) :
    List (Write RowKey LedgerDocument) :=
  [⟨summaryKey identity.scope, .summary summary, some summaryEtag⟩,
    ⟨identity.rowKey, .attempt attempt, attemptEtag⟩]

/-- `range(max(1, min(attempts, 5)))`. -/
def boundedRetries (attempts : ℕ) : ℕ := max 1 (min attempts 5)

/-! ## Reservations -/

structure ReservedLedgerAttempt where
  summary : LedgerSummary
  attempt : LedgerAttempt
  created : Bool

/-- A reservation to make, with the arguments of `reserve`. -/
structure Reservation where
  identity : LedgerAttemptIdentity
  reservedTokens : Int
  epoch : UUID
  reservedUsd : Option ℚ := none
  priceSnapshot : Option BudgetPriceProjection := none

/-- The stored attempt is the reservation that is asked for. -/
def Reservation.Same (r : Reservation) (summary : LedgerSummary) (receipt : LedgerAttempt) : Prop :=
  receipt.identity = r.identity ∧ receipt.epoch = summary.epoch ∧
    receipt.reservedTokens = r.reservedTokens ∧
    receipt.reservedUsd.map usdDecimal = r.reservedUsd ∧ receipt.priceSnapshot = r.priceSnapshot

instance (r : Reservation) (summary : LedgerSummary) (receipt : LedgerAttempt) :
    Decidable (r.Same summary receipt) := inferInstanceAs (Decidable (_ ∧ _))

/-- One round of `reserve`. -/
def reserveRound (r : Reservation) (retry : LedgerProgram ReservedLedgerAttempt) :
    LedgerProgram ReservedLedgerAttempt := do
  match ← Program.get (summaryKey r.identity.scope) with
  | none => .raise (.unavailable "Budget execution scope is not initialized")
  | some current =>
      let state ← Program.lift current.document.asSummary
      Program.lift (require (state.epoch = r.epoch ∧ state.scope = r.identity.scope)
        (.protocolConflict "Budget execution epoch does not match"))
      match ← Program.get r.identity.rowKey with
      | some previous =>
          let receipt ← Program.lift previous.document.asAttempt
          Program.lift (require (r.Same state receipt)
            (.protocolConflict "An attempt cannot change its reservation"))
          pure ⟨state, receipt, false⟩
      | none =>
          let now ← Program.input
          let (updated, receipt) ← Program.lift (reserveLedger state r.identity r.reservedTokens
            now r.reservedUsd r.priceSnapshot .verifiedUpperBound)
          match ← Program.send (pairBatch r.identity updated receipt current.etag none) with
          | .committed => pure ⟨updated, receipt, true⟩
          | .conflict => retry
          | .transport => retry

/-- The loop of `reserve` with `n` rounds left. -/
def reserveRounds (r : Reservation) (n : ℕ) : LedgerProgram ReservedLedgerAttempt :=
  Program.rounds (reserveRound r)
    (.raise (.unavailable "Ledger admission exhausted its bounded retries")) n

/-- `AtomicTableLedger.reserve`. -/
def reserve (r : Reservation) (attempts : ℕ) : LedgerProgram ReservedLedgerAttempt :=
  reserveRounds r (boundedRetries attempts)

/-! ## Updates of an attempt -/

/-- What `_update_attempt` applies. -/
abbrev Transition :=
  LedgerSummary → LedgerAttempt → Int → Except LedgerError (LedgerSummary × LedgerAttempt)

/-- One round of `_update_attempt`.  An update that does nothing returns the summary
it was given, and any other gives it another version, so the test `updated is state`
is a comparison here. -/
def updateRound (identity : LedgerAttemptIdentity) (transition : Transition)
    (retry : LedgerProgram (LedgerSummary × LedgerAttempt)) :
    LedgerProgram (LedgerSummary × LedgerAttempt) := do
  let summaryValue ← Program.get (summaryKey identity.scope)
  let attemptValue ← Program.get identity.rowKey
  match summaryValue, attemptValue with
  | some summaryRow, some attemptRow =>
      let state ← Program.lift summaryRow.document.asSummary
      let receipt ← Program.lift attemptRow.document.asAttempt
      Program.lift (require
        (receipt.identity = identity ∧ state.scope = identity.scope ∧ receipt.epoch = state.epoch)
        (.protocolConflict "Ledger request identity does not match"))
      let now ← Program.input
      let (updated, result) ← Program.lift (transition state receipt now)
      if updated = state then pure (state, receipt)
      else
        match ← Program.send
            (pairBatch identity updated result summaryRow.etag (some attemptRow.etag)) with
        | .committed => pure (updated, result)
        | .conflict => retry
        | .transport => retry
  | _, _ => .raise (.unavailable "Ledger request or summary is not available")

/-- `_update_attempt`, with its three rounds. -/
def updateAttempt (identity : LedgerAttemptIdentity) (transition : Transition) :
    LedgerProgram (LedgerSummary × LedgerAttempt) :=
  Program.rounds (updateRound identity transition)
    (.raise (.unavailable "Ledger settlement exhausted its bounded retries")) (boundedRetries 3)

/-- `AtomicTableLedger.settle`. -/
def settle (charge : LedgerCharge) : LedgerProgram (LedgerSummary × LedgerAttempt) :=
  updateAttempt charge.identity fun state receipt now => settleLedger state receipt charge now

/-- `AtomicTableLedger.complete`. -/
def complete (receipt : LedgerAdmissionReceipt) (completion : Decoded Completion) :
    LedgerProgram (LedgerSummary × LedgerAttempt) :=
  updateAttempt receipt.identity fun state attempt now =>
    completeLedger state attempt receipt completion now

/-- `AtomicTableLedger.transition`. -/
def transition (identity : LedgerAttemptIdentity) (state : TransitionState) :
    LedgerProgram (LedgerSummary × LedgerAttempt) :=
  if state = .cancelled then
    .raise (.protocolConflict "Cancellation requires a durable cancelled dispatch")
  else
    updateAttempt identity fun summary receipt now =>
      transitionLedgerAttempt summary receipt state now

namespace Sample

/-- The table after `initialize`. -/
def initialTable : Table RowKey LedgerDocument where
  rows key := if key = summaryKey scope then some ⟨.summary tokenSummary, 0⟩ else none
  next := 1

theorem initialTable_wellTagged : initialTable.WellTagged := by
  intro key row hrow
  simp only [initialTable] at hrow ⊢
  split at hrow
  next =>
    cases hrow
    exact Nat.zero_lt_one
  next => cases hrow

end Sample

end Turnstile
