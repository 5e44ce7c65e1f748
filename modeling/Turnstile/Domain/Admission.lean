import Turnstile.Domain.Evidence

/-!
# Scopes, identities, admissions and resolutions

A budget scope is a person or an application in one UTC month.  An attempt is
admitted to a scope under an identity that never changes, and its admission
receipt repeats the identity with the amount that was reserved.  A resolution is
an owner's approval to release one admission whose usage will never be known.
-/

namespace Turnstile

open Guard

inductive LedgerScopeType where
  | person
  | application
deriving DecidableEq, Repr

/-- `LedgerScope.validate_scope`. -/
def validateScope (scopeType : LedgerScopeType) (scopeId : Text) (periodStart : Date) : Bool :=
  scopeId.fits 255 && decide (periodStart.day = 1) &&
    (match scopeType with
      | .person => true
      | .application => scopeId.toUuid?.isSome)

/-- A budget scope.  It stands for its partition, which the source hashes from
the same three fields. -/
structure LedgerScope where
  scopeType : LedgerScopeType
  scopeId : Text
  periodStart : Date
  valid : validateScope scopeType scopeId periodStart = true
deriving DecidableEq

/-- `LedgerAttemptIdentity.validate_attempt`. -/
def validateAttempt (scope : LedgerScope) (nativeGatewayId correlationId modelId : Text)
    (admittedAt : Int) : Bool :=
  decide (scope.periodStart = monthStart admittedAt) &&
    nativeGatewayId.fits 80 && correlationId.fits 255 && modelId.fits 255

structure LedgerAttemptIdentity where
  scope : LedgerScope
  gatewayProfileId : UUID
  nativeGatewayId : Text
  correlationId : Text
  modelId : Text
  admittedAt : Int
  valid : validateAttempt scope nativeGatewayId correlationId modelId admittedAt = true
deriving DecidableEq

/-- `LedgerAttemptIdentity.attempt_key`: the list the source hashes. -/
structure AttemptKey where
  gatewayProfileId : UUID
  nativeGatewayId : Text
  correlationId : Text
deriving DecidableEq, Repr

def LedgerAttemptIdentity.attemptKey (identity : LedgerAttemptIdentity) : AttemptKey :=
  ⟨identity.gatewayProfileId, identity.nativeGatewayId, identity.correlationId⟩

/-- `normalized_identity`, on the JSON dump of an identity. -/
def normalizedIdentity (identity : LedgerAttemptIdentity) :
    Except LedgerError LedgerAttemptIdentity := do
  require (identity.scope.scopeId.fits 255 = true ∧ identity.nativeGatewayId.fits 255 = true ∧
      identity.correlationId.fits 255 = true ∧ identity.modelId.fits 255 = true)
    (.valueError "Execution identity is blank or too long")
  require (identity.scope.scopeType = .application →
      identity.scope.scopeId.toUuid?.map Text.ofUuid = some identity.scope.scopeId)
    (.valueError "Application scope must use its canonical UUID")
  require (identity.scope.periodStart = monthStart identity.admittedAt)
    (.valueError "Execution scope must retain the UTC admission month")
  pure identity

/-- On decoded values normalising changes nothing. -/
theorem normalizedIdentity_eq {identity normalized : LedgerAttemptIdentity}
    (h : normalizedIdentity identity = .ok normalized) : normalized = identity := by
  simp only [normalizedIdentity, require_bind_eq_ok, pure_eq, Except.ok.injEq] at h
  exact h.2.2.2.symm

/-! ## Admission receipts -/

/-- The fields of an admission receipt, checked or not. -/
structure ReceiptFields where
  identity : LedgerAttemptIdentity
  epoch : UUID
  reservedTokens : Int
  budgetMode : BudgetMode
  reservedUsd : Option Int
  priceSnapshot : Option BudgetPriceProjection
deriving DecidableEq

/-- A USD field that may be absent. -/
def usdField (field : String) : Option Int → Except LedgerError Unit
  | none => .ok ()
  | some amount => do
      require (0 ≤ amount) (.tooSmall field)
      require (amount < usdBound) (.tooLarge field)

@[simp] theorem usdField_eq_ok {field : String} {amount : Option Int} {u : Unit} :
    usdField field amount = .ok u ↔ ∀ x ∈ amount, UsdInRange x := by
  cases amount with
  | none => simp [usdField]
  | some x => simp [usdField, require_bind_eq_ok, UsdInRange]

/-- An integer field with `ge=lower, le=2**63 - 1`. -/
def tokenField (field : String) (lower value : Int) : Except LedgerError Unit := do
  require (lower ≤ value) (.tooSmall field)
  require (value ≤ maxTokens) (.tooLarge field)

@[simp] theorem tokenField_eq_ok {field : String} {lower value : Int} {u : Unit} :
    tokenField field lower value = .ok u ↔ lower ≤ value ∧ value ≤ maxTokens := by
  simp [tokenField, require_bind_eq_ok]

/-- `LedgerAdmissionReceipt`: the field bounds and `validate_budget_mode`. -/
def ReceiptFields.validate (receipt : ReceiptFields) : Except LedgerError Unit := do
  tokenField "reserved_tokens" 1 receipt.reservedTokens
  usdField "reserved_usd" receipt.reservedUsd
  match receipt.budgetMode with
  | .usd =>
      match receipt.reservedUsd, receipt.priceSnapshot with
      | some _, some projection =>
          require (receipt.identity.modelId.toUuid? = some projection.modelId)
            (.invalidModel "USD admission price belongs to another model")
      | _, _ =>
          .error (.invalidModel "USD admission receipts require reservation and price evidence")
  | .tokens =>
      require (receipt.reservedUsd = none ∧ receipt.priceSnapshot = none)
        (.invalidModel "Token admission receipts cannot carry USD evidence")

structure LedgerAdmissionReceipt extends ReceiptFields where
  valid : toReceiptFields.validate = .ok ()

instance : DecidableEq LedgerAdmissionReceipt := fun a b =>
  decidable_of_iff (a.toReceiptFields = b.toReceiptFields)
    ⟨fun h => by cases a; cases b; cases h; rfl, fun h => h ▸ rfl⟩

/-- `LedgerAdmissionReceipt.model_validate`. -/
def LedgerAdmissionReceipt.modelValidate (receipt : ReceiptFields) :
    Except LedgerError LedgerAdmissionReceipt :=
  match h : receipt.validate with
  | .ok () => .ok ⟨receipt, h⟩
  | .error e => .error e

theorem LedgerAdmissionReceipt.modelValidate_eq_ok {fields : ReceiptFields}
    {receipt : LedgerAdmissionReceipt} :
    modelValidate fields = .ok receipt ↔ receipt.toReceiptFields = fields := by
  unfold modelValidate
  split
  next h =>
    constructor
    · intro he
      cases he
      rfl
    · rintro rfl
      rfl
  next e h =>
    constructor
    · intro he
      cases he
    · rintro rfl
      rw [receipt.valid] at h
      cases h

/-! ## Resolutions -/

inductive ResolutionReason where
  | gatewayValidationFailure
  | providerResultUnavailable
  | evidenceIrrecoverable
deriving DecidableEq, Repr

/-- An approved release.  Its text formats are part of being decoded. -/
structure BudgetReservationResolution where
  id : UUID
  receipt : ReceiptFields
  actor : String
  reason : ResolutionReason
  evidenceSha256 : Hex64
  approvedAt : Int
deriving DecidableEq

/-- The USD part of `validate_resolution`. -/
def validateResolutionUsd (receipt : ReceiptFields) : Except LedgerError Unit :=
  match receipt.budgetMode with
  | .tokens =>
      require (receipt.reservedUsd = none ∧ receipt.priceSnapshot = none)
        (.valueError "Reservation resolution requires its original budget mode and evidence")
  | .usd =>
      match receipt.reservedUsd, receipt.priceSnapshot with
      | some reservedUsd, some projection => do
          require (Text.ofUuid projection.modelId = receipt.identity.modelId)
            (.valueError "USD resolution requires its admitted model price")
          let _ ← usdCompletionCharge projection ⟨0, 0, 0, 0⟩
          exactUsdAmount reservedUsd
      | _, _ =>
          .error
            (.valueError "Reservation resolution requires its original budget mode and evidence")

/-- `validate_resolution`. -/
def validateResolution :
    Decoded BudgetReservationResolution → Except LedgerError BudgetReservationResolution
  | .malformed =>
      .error (.valueError "Reservation resolution requires exact persisted approval evidence")
  | .record resolution => do
      let identity ← normalizedIdentity resolution.receipt.identity
      exactInteger "reserved_tokens" resolution.receipt.reservedTokens
      require (resolution.receipt.reservedTokens ≠ 0 ∧ identity.admittedAt ≤ resolution.approvedAt)
        (.valueError "Reservation resolution must follow its original admission")
      validateResolutionUsd resolution.receipt
      pure { resolution with receipt := { resolution.receipt with identity := identity } }

end Turnstile
