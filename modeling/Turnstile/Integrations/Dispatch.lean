import Turnstile.Integrations.AtomicLedger

/-!
# Dispatches on the atomic table ledger

The owner of a plan stores it (`begin_dispatch`), reserves every scope of it, and
authorizes it by a conditional write of the plan's row.  A recovery worker cancels
an expired plan by a conditional write of the same row, and then compensates: it
cancels the reservations that exist and stores a cancelled attempt, a tombstone, in
the place of those that do not.
-/

namespace Turnstile

open Guard

/-- The plan's row. -/
def LedgerDispatch.rowKey (plan : LedgerDispatch) : RowKey :=
  ⟨plan.scope, .dispatch plan.attemptKey⟩

/-- The owner and the receipts are the plan's. -/
def LedgerDispatch.SameAs (stored plan : LedgerDispatch) : Prop :=
  stored.owner = plan.owner ∧ stored.first = plan.first ∧ stored.second = plan.second

instance (stored plan : LedgerDispatch) : Decidable (stored.SameAs plan) :=
  inferInstanceAs (Decidable (_ ∧ _))

/-- A write of the plan's row alone. -/
def planBatch (plan stored : LedgerDispatch) (etag : Option ℕ) :
    List (Write RowKey LedgerDocument) :=
  [⟨plan.rowKey, .dispatch stored, etag⟩]

/-! ## The owner -/

/-- `begin_dispatch`. -/
def beginDispatch (plan : LedgerDispatch) : LedgerProgram LedgerDispatch := do
  let now ← Program.input
  Program.lift (require (plan.state = .preparing ∧ now < plan.expiresAt)
    (.protocolConflict "A new dispatch must have a live preparation lease"))
  let outcome ← Program.send (planBatch plan plan none)
  if outcome = .committed then pure plan
  else
    match ← Program.get plan.rowKey with
    | none => .raise (.unavailable "Dispatch creation was not confirmed")
    | some existing =>
        let stored ← Program.lift existing.document.asDispatch
        Program.lift (require (stored = plan) (.unavailable "Dispatch creation was not confirmed"))
        pure plan

/-- The reservation that a receipt admits. -/
def LedgerAdmissionReceipt.reservation (admission : LedgerAdmissionReceipt) : Reservation where
  identity := admission.identity
  reservedTokens := admission.reservedTokens
  epoch := admission.epoch
  reservedUsd := admission.reservedUsd.map usdDecimal
  priceSnapshot := admission.priceSnapshot

/-- The loop of `reserve_dispatch`. -/
def reserveReceipts (plan : LedgerDispatch) : List LedgerAdmissionReceipt → LedgerProgram Unit
  | [] => pure ()
  | admission :: rest => do
      match ← Program.get plan.rowKey with
      | none => .raise (.protocolConflict "Dispatch preparation was cancelled or fenced")
      | some current =>
          let stored ← Program.lift current.document.asDispatch
          Program.lift (require (stored = plan)
            (.protocolConflict "Dispatch preparation was cancelled or fenced"))
          let now ← Program.input
          Program.lift (require (now < plan.expiresAt)
            (.protocolConflict "Dispatch preparation lease expired"))
          let result ← reserve admission.reservation 3
          Program.lift (require (result.attempt.state = .reserved)
            (.protocolConflict "An earlier attempt cannot authorize another dispatch"))
          reserveReceipts plan rest

/-- `reserve_dispatch`. -/
def reserveDispatch (plan : LedgerDispatch) : LedgerProgram Unit :=
  reserveReceipts plan plan.receipts

/-- The loop of `authorize_dispatch`. -/
def checkReserved : List LedgerAdmissionReceipt → LedgerProgram Unit
  | [] => pure ()
  | admission :: rest => do
      match ← Program.get admission.identity.rowKey with
      | none =>
          .raise (.protocolConflict "Every required budget must be reserved before dispatch")
      | some stored =>
          let attempt ← Program.lift stored.document.asAttempt
          Program.lift (require (attempt.identity = admission.identity ∧
              attempt.epoch = admission.epoch ∧
              attempt.reservedTokens = admission.reservedTokens ∧
              attempt.budgetMode = admission.budgetMode ∧
              attempt.reservedUsd = admission.reservedUsd ∧
              attempt.priceSnapshot = admission.priceSnapshot ∧ attempt.state = .reserved)
            (.protocolConflict "Dispatch reservation does not match its plan"))
          checkReserved rest

/-- `authorize_dispatch`. -/
def authorizeDispatch (plan : LedgerDispatch) : LedgerProgram Bool := do
  match ← Program.get plan.rowKey with
  | none => .raise (.protocolConflict "Only the current preparing owner can authorize dispatch")
  | some current =>
      let stored ← Program.lift current.document.asDispatch
      Program.lift (require (stored = plan)
        (.protocolConflict "Only the current preparing owner can authorize dispatch"))
      let now ← Program.input
      Program.lift (require (now < plan.expiresAt)
        (.protocolConflict "Dispatch preparation lease expired"))
      checkReserved plan.receipts
      let later ← Program.input
      let authorized ← Program.lift (LedgerDispatch.modelValidate
        { plan.toDispatchFields with state := .dispatching, updatedAt := later })
      Program.lift (require (authorized.updatedAt < plan.expiresAt)
        (.protocolConflict "Dispatch preparation expired before authorization"))
      let outcome ← Program.send (planBatch plan authorized (some current.etag))
      pure (decide (outcome = .committed))

/-! ## Cancellation -/

/-- The write that cancels a plan. -/
def cancelStored (plan stored : LedgerDispatch) (etag : ℕ) (retry : LedgerProgram Bool) :
    LedgerProgram Bool := do
  let later ← Program.input
  let cancelled ← Program.lift (LedgerDispatch.modelValidate
    { stored.toDispatchFields with state := .cancelled, updatedAt := later })
  match ← Program.send (planBatch plan cancelled (some etag)) with
  | .committed => pure true
  | .conflict => retry
  | .transport => retry

/-- One round of `cancel_dispatch`. -/
def cancelRound (plan : LedgerDispatch) (recovery : Bool) (retry : LedgerProgram Bool) :
    LedgerProgram Bool := do
  match ← Program.get plan.rowKey with
  | none => .raise (.unavailable "Dispatch cancellation requires its durable plan")
  | some current =>
      let stored ← Program.lift current.document.asDispatch
      Program.lift (require (stored.SameAs plan)
        (.protocolConflict "Dispatch cancellation belongs to another owner"))
      match stored.state with
      | .dispatching => pure false
      | .cancelled => pure true
      | .preparing =>
          if recovery = true then do
            let now ← Program.input
            if now < stored.expiresAt then pure false
            else cancelStored plan stored current.etag retry
          else cancelStored plan stored current.etag retry

/-- `cancel_dispatch`. -/
def cancelDispatch (plan : LedgerDispatch) (recovery : Bool) : LedgerProgram Bool :=
  Program.rounds (cancelRound plan recovery)
    (.raise (.unavailable "Dispatch cancellation exhausted its bounded retries")) 3

/-! ## Recovery -/

/-- The test of a stored attempt against a cancelled admission. -/
def Reclaims (summary : LedgerSummary) (attempt : LedgerAttempt)
    (admission : LedgerAdmissionReceipt) : Prop :=
  attempt.identity = admission.identity ∧ attempt.epoch = admission.epoch ∧
    attempt.reservedTokens = admission.reservedTokens ∧ attempt.budgetMode = summary.budgetMode ∧
    (admission.budgetMode = .usd → attempt.reservedUsd = admission.reservedUsd ∧
      attempt.priceSnapshot = admission.priceSnapshot)

instance (summary : LedgerSummary) (attempt : LedgerAttempt) (admission : LedgerAdmissionReceipt) :
    Decidable (Reclaims summary attempt admission) := inferInstanceAs (Decidable (_ ∧ _))

/-- One round of `compensate_dispatch` for a receipt; it returns how many reservations
it released. -/
def compensateRound (admission : LedgerAdmissionReceipt) (retry : LedgerProgram ℕ) :
    LedgerProgram ℕ := do
  let currentSummary ← Program.get (summaryKey admission.identity.scope)
  let existing ← Program.get admission.identity.rowKey
  match currentSummary with
  | none => .raise (.unavailable "Dispatch compensation requires its budget summary")
  | some summaryRow =>
      let summary ← Program.lift summaryRow.document.asSummary
      Program.lift (require (summary.epoch = admission.epoch ∧
          summary.scope = admission.identity.scope ∧
          (admission.budgetMode = .usd → summary.budgetMode = .usd))
        (.protocolConflict "Dispatch compensation epoch does not match"))
      match existing with
      | some attemptRow =>
          let attempt ← Program.lift attemptRow.document.asAttempt
          Program.lift (require (Reclaims summary attempt admission)
            (.protocolConflict "Cancelled reservation identity changed"))
          if attempt.state = .settled ∨ attempt.state = .cancelled then pure 0
          else do
            let _ ← updateAttempt admission.identity fun current retained moment =>
              transitionLedgerAttempt current retained .cancelled moment
            pure 1
      | none =>
          let now ← Program.input
          let (advanced, tombstone) ← Program.lift (cancellationTombstone summary admission now)
          match ← Program.send
              (pairBatch admission.identity advanced tombstone summaryRow.etag none) with
          | .committed => pure 0
          | .conflict => retry
          | .transport => retry

/-- The three rounds for one receipt. -/
def compensateReceipt (admission : LedgerAdmissionReceipt) : LedgerProgram ℕ :=
  Program.rounds (compensateRound admission)
    (.raise (.unavailable "Cancellation tombstone was not confirmed")) 3

/-- The loop of `compensate_dispatch`. -/
def compensateReceipts : List LedgerAdmissionReceipt → ℕ → LedgerProgram ℕ
  | [], released => pure released
  | admission :: rest, released => do
      let n ← compensateReceipt admission
      compensateReceipts rest (released + n)

/-- `compensate_dispatch`. -/
def compensateDispatch (plan : LedgerDispatch) : LedgerProgram ℕ := do
  match ← Program.get plan.rowKey with
  | none => .raise (.unavailable "Dispatch compensation requires its durable plan")
  | some current =>
      let stored ← Program.lift current.document.asDispatch
      Program.lift (require (stored.state = .cancelled ∧ stored.SameAs plan)
        (.protocolConflict "Unknown dispatch outcome cannot release reservations"))
      compensateReceipts stored.receipts 0

/-- `finish_dispatch_recovery`. -/
def finishDispatchRecovery (plan : LedgerDispatch) : LedgerProgram Unit := do
  match ← Program.get plan.rowKey with
  | none => .raise (.unavailable "Recovered dispatch is missing")
  | some current =>
      let stored ← Program.lift current.document.asDispatch
      Program.lift (require (stored.SameAs plan)
        (.protocolConflict "Recovered dispatch identity changed"))
      Program.lift (require (stored.state ≠ .preparing)
        (.protocolConflict "A preparing dispatch cannot leave recovery"))
      if stored.recoveryComplete = true then pure ()
      else do
        let now ← Program.input
        let updated ← Program.lift (LedgerDispatch.modelValidate
          { stored.toDispatchFields with recoveryComplete := true, updatedAt := now })
        match ← Program.send (planBatch plan updated (some current.etag)) with
        | .committed => pure ()
        | .conflict => .raise (.unavailable "Ledger changed during the conditional transaction")
        | .transport => .raise .transport

end Turnstile
