import Turnstile.Domain.Admission

/-!
# The ledger's documents

A scope has one summary, with its limit and its three balances in each unit, and
one document per attempt.  A charge is the evidence a settlement task carries.

Each model is a record of its fields with the proof that the model's own
validation passes.  `Valid` says what the validation requires, field by field,
and `validate_eq_ok` connects the two.
-/

namespace Turnstile

open Guard

/-! ## The summary -/

structure SummaryFields where
  epoch : UUID
  scope : LedgerScope
  version : Int
  policyRevision : Int
  tokenLimit : Int
  budgetMode : BudgetMode
  usdLimit : Option Int
  enforce : Bool
  enabled : Bool
  requireVerifiedBound : Bool
  confirmedTokens : Int
  activeReservedTokens : Int
  upperBoundTokens : Int
  confirmedUsd : Int
  activeReservedUsd : Int
  upperBoundUsd : Int
  updatedAt : Int
deriving DecidableEq

namespace SummaryFields

/-- `LedgerSummary`: the field bounds and `validate_budget_mode`. -/
def validate (s : SummaryFields) : Except LedgerError Unit := do
  require (0 ≤ s.version) (.tooSmall "version")
  require (0 ≤ s.policyRevision) (.tooSmall "policy_revision")
  tokenField "token_limit" 0 s.tokenLimit
  usdField "usd_limit" s.usdLimit
  tokenField "confirmed_tokens" 0 s.confirmedTokens
  tokenField "active_reserved_tokens" 0 s.activeReservedTokens
  tokenField "upper_bound_tokens" 0 s.upperBoundTokens
  usdField "confirmed_usd" (some s.confirmedUsd)
  usdField "active_reserved_usd" (some s.activeReservedUsd)
  usdField "upper_bound_usd" (some s.upperBoundUsd)
  require (s.budgetMode = .tokens → s.usdLimit = none)
    (.invalidModel "Token ledger summaries cannot carry a USD limit")
  require (s.budgetMode = .usd → s.usdLimit ≠ none)
    (.invalidModel "USD ledger summaries require a USD limit")
  require (s.budgetMode = .tokens →
      s.confirmedUsd = 0 ∧ s.activeReservedUsd = 0 ∧ s.upperBoundUsd = 0)
    (.invalidModel "Token ledger summaries cannot carry USD balances")

/-- What the validation of a summary requires. -/
structure Valid (s : SummaryFields) : Prop where
  version : 0 ≤ s.version
  policyRevision : 0 ≤ s.policyRevision
  tokenLimit : 0 ≤ s.tokenLimit ∧ s.tokenLimit ≤ maxTokens
  usdLimit : ∀ x ∈ s.usdLimit, UsdInRange x
  confirmedTokens : 0 ≤ s.confirmedTokens ∧ s.confirmedTokens ≤ maxTokens
  activeReservedTokens : 0 ≤ s.activeReservedTokens ∧ s.activeReservedTokens ≤ maxTokens
  upperBoundTokens : 0 ≤ s.upperBoundTokens ∧ s.upperBoundTokens ≤ maxTokens
  confirmedUsd : UsdInRange s.confirmedUsd
  activeReservedUsd : UsdInRange s.activeReservedUsd
  upperBoundUsd : UsdInRange s.upperBoundUsd
  tokenMode : s.budgetMode = .tokens → s.usdLimit = none
  usdMode : s.budgetMode = .usd → s.usdLimit ≠ none
  tokenBalances : s.budgetMode = .tokens →
    s.confirmedUsd = 0 ∧ s.activeReservedUsd = 0 ∧ s.upperBoundUsd = 0

theorem validate_eq_ok {s : SummaryFields} {u : Unit} : s.validate = .ok u ↔ s.Valid := by
  simp only [validate, check_bind_eq_ok, require_eq_ok, tokenField_eq_ok, usdField_eq_ok,
    Option.mem_def, Option.some.injEq, forall_eq']
  constructor
  · rintro ⟨h₁, h₂, h₃, h₄, h₅, h₆, h₇, h₈, h₉, h₁₀, h₁₁, h₁₂, h₁₃⟩
    exact ⟨h₁, h₂, h₃, h₄, h₅, h₆, h₇, h₈, h₉, h₁₀, h₁₁, h₁₂, h₁₃⟩
  · rintro ⟨h₁, h₂, h₃, h₄, h₅, h₆, h₇, h₈, h₉, h₁₀, h₁₁, h₁₂, h₁₃⟩
    exact ⟨h₁, h₂, h₃, h₄, h₅, h₆, h₇, h₈, h₉, h₁₀, h₁₁, h₁₂, h₁₃⟩

/-- `available_tokens`. -/
def availableTokens (s : SummaryFields) : Int :=
  s.tokenLimit - s.confirmedTokens - s.activeReservedTokens - s.upperBoundTokens

/-- `available_usd`, computed in the default context. -/
def availableUsd (s : SummaryFields) : Option Int :=
  match s.budgetMode, s.usdLimit with
  | .usd, some limit =>
      some (defaultContext.sub
        (defaultContext.sub (defaultContext.sub limit s.confirmedUsd) s.activeReservedUsd)
        s.upperBoundUsd)
  | _, _ => none

end SummaryFields

structure LedgerSummary extends SummaryFields where
  valid : toSummaryFields.validate = .ok ()

namespace LedgerSummary

theorem fields_injective {s t : LedgerSummary} (h : s.toSummaryFields = t.toSummaryFields) :
    s = t := by
  cases s
  cases t
  cases h
  rfl

instance : DecidableEq LedgerSummary := fun s t =>
  decidable_of_iff (s.toSummaryFields = t.toSummaryFields)
    ⟨fields_injective, fun h => h ▸ rfl⟩

theorem isValid (s : LedgerSummary) : s.toSummaryFields.Valid :=
  SummaryFields.validate_eq_ok.1 s.valid

/-- `LedgerSummary.model_validate`. -/
def modelValidate (s : SummaryFields) : Except LedgerError LedgerSummary :=
  match h : s.validate with
  | .ok () => .ok ⟨s, h⟩
  | .error e => .error e

theorem modelValidate_eq_ok {fields : SummaryFields} {s : LedgerSummary} :
    modelValidate fields = .ok s ↔ s.toSummaryFields = fields := by
  unfold modelValidate
  split
  next h =>
    constructor
    · intro he
      cases he
      rfl
    · rintro rfl
      rfl
  next e h =>
    constructor
    · intro he
      cases he
    · rintro rfl
      rw [s.valid] at h
      cases h

theorem modelValidate_eq_error {fields : SummaryFields} {e : LedgerError} :
    modelValidate fields = .error e ↔ fields.validate = .error e := by
  unfold modelValidate
  split
  next h => simp [h]
  next e' h => simp [h]

/-- The scope a USD amount is checked against, `limit` or zero. -/
theorem usdLimit_of_mode (s : LedgerSummary) (h : s.budgetMode = .usd) :
    ∃ limit, s.usdLimit = some limit :=
  Option.ne_none_iff_exists'.1 (s.isValid.usdMode h)

end LedgerSummary

/-! ## Attempts -/

inductive AttemptState where
  | reserved
  | dispatching
  | uncertain
  | settled
  | upperBound
  | cancelled
  | released
deriving DecidableEq, Repr

/-- `state in {"reserved", "dispatching", "uncertain"}`: the reservation counts
as active. -/
def AttemptState.active : AttemptState → Bool
  | .reserved | .dispatching | .uncertain => true
  | _ => false

namespace AttemptState

@[simp] theorem active_reserved : reserved.active = true := rfl

@[simp] theorem active_dispatching : dispatching.active = true := rfl

@[simp] theorem active_uncertain : uncertain.active = true := rfl

@[simp] theorem active_settled : settled.active = false := rfl

@[simp] theorem active_upperBound : upperBound.active = false := rfl

@[simp] theorem active_cancelled : cancelled.active = false := rfl

@[simp] theorem active_released : released.active = false := rfl

end AttemptState

/-- `evidence_rank`: none, a terminal task, or complete usage. -/
inductive EvidenceRank where
  | zero
  | two
  | three
deriving DecidableEq, Repr

/-- The number that stands for the rank. -/
def EvidenceRank.value : EvidenceRank → Nat
  | .zero => 0
  | .two => 2
  | .three => 3

/-- `evidence_key`, by its prefix. -/
inductive EvidenceKey where
  | resolution (id : Text)
  | completion (digest : Sha256 (UsageCounters × Int))
  | rejection (digest : Sha256 (UsageCounters × Int))
  | other (text : String)
deriving DecidableEq, Repr

/-- The length is between 1 and 512. -/
def EvidenceKey.fits : EvidenceKey → Bool
  | .resolution (.plain text) => decide (text.length ≤ 501)
  | .other text => decide (1 ≤ text.length ∧ text.length ≤ 512)
  | _ => true

/-- `"resolution:" + approved["id"]`. -/
def EvidenceKey.ofResolution (id : UUID) : EvidenceKey := .resolution (.ofUuid id)

@[simp] theorem EvidenceKey.fits_ofResolution (id : UUID) : (ofResolution id).fits = true := rfl

/-- `startswith("resolution:")`. -/
def EvidenceKey.isResolution : EvidenceKey → Bool
  | .resolution _ => true
  | _ => false

structure AttemptFields where
  identity : LedgerAttemptIdentity
  epoch : UUID
  state : AttemptState
  reservedTokens : Int
  budgetMode : BudgetMode := .tokens
  reservedUsd : Option Int := none
  actualUsd : Option Int := none
  priceSnapshot : Option BudgetPriceProjection := none
  priceEtag : Option String := none
  actualTokens : Option Int := none
  evidenceRevision : Int := 0
  evidenceKey : Option EvidenceKey := none
  evidenceRank : EvidenceRank := .zero
  completionEvidence : Option (Decoded Completion) := none
  rejectionPolicy : Option (Decoded RejectionPolicy) := none
  rejectionEvidence : Option (Decoded Completion) := none
  resolutionEvidence : Option (Decoded BudgetReservationResolution) := none
  updatedAt : Int
deriving DecidableEq

namespace AttemptFields

/-- The admission receipt that the attempt's own fields make up. -/
def receipt (a : AttemptFields) : ReceiptFields where
  identity := a.identity
  epoch := a.epoch
  reservedTokens := a.reservedTokens
  budgetMode := a.budgetMode
  reservedUsd := a.reservedUsd
  priceSnapshot := a.priceSnapshot

/-- `price_etag` has between 1 and 255 characters. -/
def etagField : Option String → Except LedgerError Unit
  | none => .ok ()
  | some etag => do
      require (1 ≤ etag.length) (.tooSmall "price_etag")
      require (etag.length ≤ 255) (.tooLarge "price_etag")

/-- What `validate_charge` checks of a retained resolution. -/
def validateRetainedResolution (a : AttemptFields) : Except LedgerError Unit :=
  match a.resolutionEvidence with
  | none => .ok ()
  | some value => do
      let resolution ← validateResolution value
      let expected ← LedgerAdmissionReceipt.modelValidate a.receipt
      let approved ← LedgerAdmissionReceipt.modelValidate resolution.receipt
      require (approved = expected ∧
          ((a.state = .released ∧ a.evidenceRank = .two) ∨
            (a.state = .settled ∧ a.evidenceRank = .three)))
        (.invalidModel "Approved resolution must retain its original admission")

/-- What `validate_charge` checks of the admitted rejection policy. -/
def validateRetainedPolicy (a : AttemptFields) : Except LedgerError Unit :=
  match a.rejectionPolicy with
  | none => .ok ()
  | some policy => do
      let _ ← validateRejectionPolicy policy
      pure ()

/-- What `validate_charge` checks of a retained rejection. -/
def validateRetainedRejection (a : AttemptFields) : Except LedgerError Unit :=
  match a.rejectionEvidence with
  | none => .ok ()
  | some evidence => do
      validateRejectionEvidence a.rejectionPolicy evidence a.identity.admittedAt
      require (a.state = .settled ∧ (a.evidenceRank = .two ∨ a.evidenceRank = .three) ∧
          (a.evidenceRank = .two → a.actualTokens = some 0))
        (.invalidModel "Retained rejection must match its budget decision")

/-- What `validate_charge` checks of a retained completion. -/
def validateRetainedCompletion (a : AttemptFields) : Except LedgerError Unit :=
  match a.completionEvidence with
  | none => .ok ()
  | some value => do
      let evidence ← validateCompletion value
      require (evidence.rejection = none ∧ a.state = .settled ∧ a.evidenceRank = .three ∧
          a.actualTokens = some evidence.totalTokens)
        (.invalidModel "Stored completion must match the settled charge")

/-- `LedgerAttempt`: the field bounds and `validate_charge`. -/
def validate (a : AttemptFields) : Except LedgerError Unit := do
  tokenField "reserved_tokens" 1 a.reservedTokens
  usdField "reserved_usd" a.reservedUsd
  usdField "actual_usd" a.actualUsd
  etagField a.priceEtag
  require (∀ x ∈ a.actualTokens, 0 ≤ x) (.tooSmall "actual_tokens")
  require (∀ x ∈ a.actualTokens, x ≤ maxTokens) (.tooLarge "actual_tokens")
  require (0 ≤ a.evidenceRevision) (.tooSmall "evidence_revision")
  require (∀ key ∈ a.evidenceKey, key.fits = true) (.tooLarge "evidence_key")
  a.validateRetainedResolution
  require (a.state = .released →
      a.resolutionEvidence ≠ none ∧ a.actualTokens = none ∧ a.evidenceRevision ≠ 0)
    (.invalidModel "Released reservations retain approval, not fabricated actual usage")
  a.validateRetainedPolicy
  a.validateRetainedRejection
  a.validateRetainedCompletion
  require (a.state = .settled ↔ a.actualTokens ≠ none)
    (.invalidModel "Only settled attempts have an actual charge")
  require (a.budgetMode = .usd → a.reservedUsd ≠ none ∧ a.priceSnapshot ≠ none)
    (.invalidModel "USD attempts require an amount reservation and price snapshot")
  require (a.budgetMode = .usd → (a.state = .settled ↔ a.actualUsd ≠ none))
    (.invalidModel "Settled USD attempts require an exact amount")
  require (a.budgetMode = .tokens → a.reservedUsd = none ∧ a.actualUsd = none ∧
      a.priceSnapshot = none ∧ a.priceEtag = none)
    (.invalidModel "Token attempts cannot carry USD evidence")
  require (0 < a.evidenceRevision ↔ a.evidenceKey ≠ none)
    (.invalidModel "Evidence revision and identity must be recorded together")
  require (a.state = .settled → a.evidenceRevision ≠ 0)
    (.invalidModel "Settlement requires durable evidence")
  require (a.identity.admittedAt ≤ a.updatedAt)
    (.invalidModel "Attempt update cannot precede admission")

/-- What the validation of an attempt requires. -/
structure Valid (a : AttemptFields) : Prop where
  reservedTokens : 1 ≤ a.reservedTokens ∧ a.reservedTokens ≤ maxTokens
  reservedUsd : ∀ x ∈ a.reservedUsd, UsdInRange x
  actualUsd : ∀ x ∈ a.actualUsd, UsdInRange x
  priceEtag : etagField a.priceEtag = .ok ()
  actualTokens : ∀ x ∈ a.actualTokens, 0 ≤ x
  actualTokens_le : ∀ x ∈ a.actualTokens, x ≤ maxTokens
  evidenceRevision : 0 ≤ a.evidenceRevision
  evidenceKey : ∀ key ∈ a.evidenceKey, key.fits = true
  resolution : a.validateRetainedResolution = .ok ()
  released : a.state = .released →
    a.resolutionEvidence ≠ none ∧ a.actualTokens = none ∧ a.evidenceRevision ≠ 0
  policy : a.validateRetainedPolicy = .ok ()
  rejection : a.validateRetainedRejection = .ok ()
  completion : a.validateRetainedCompletion = .ok ()
  settled : a.state = .settled ↔ a.actualTokens ≠ none
  usd : a.budgetMode = .usd → a.reservedUsd ≠ none ∧ a.priceSnapshot ≠ none
  usdSettled : a.budgetMode = .usd → (a.state = .settled ↔ a.actualUsd ≠ none)
  tokens : a.budgetMode = .tokens → a.reservedUsd = none ∧ a.actualUsd = none ∧
    a.priceSnapshot = none ∧ a.priceEtag = none
  keyed : 0 < a.evidenceRevision ↔ a.evidenceKey ≠ none
  durable : a.state = .settled → a.evidenceRevision ≠ 0
  updatedAt : a.identity.admittedAt ≤ a.updatedAt

theorem validate_eq_ok {a : AttemptFields} {u : Unit} : a.validate = .ok u ↔ a.Valid := by
  simp only [validate, check_bind_eq_ok, require_eq_ok, tokenField_eq_ok, usdField_eq_ok]
  constructor
  · rintro ⟨h₁, h₂, h₃, h₄, h₅, h₆, h₇, h₈, h₉, h₁₀, h₁₁, h₁₂, h₁₃, h₁₄, h₁₅, h₁₆, h₁₇, h₁₈, h₁₉,
      h₂₀⟩
    exact ⟨h₁, h₂, h₃, h₄, h₅, h₆, h₇, h₈, h₉, h₁₀, h₁₁, h₁₂, h₁₃, h₁₄, h₁₅, h₁₆, h₁₇, h₁₈, h₁₉,
      h₂₀⟩
  · rintro ⟨h₁, h₂, h₃, h₄, h₅, h₆, h₇, h₈, h₉, h₁₀, h₁₁, h₁₂, h₁₃, h₁₄, h₁₅, h₁₆, h₁₇, h₁₈, h₁₉,
      h₂₀⟩
    exact ⟨h₁, h₂, h₃, h₄, h₅, h₆, h₇, h₈, h₉, h₁₀, h₁₁, h₁₂, h₁₃, h₁₄, h₁₅, h₁₆, h₁₇, h₁₈, h₁₉,
      h₂₀⟩

/-- A retained resolution approved this admission, and says so in the state. -/
theorem validateRetainedResolution_eq_ok {a : AttemptFields} {u : Unit} :
    a.validateRetainedResolution = .ok u ↔ ∀ value ∈ a.resolutionEvidence,
      ∃ resolution, validateResolution value = .ok resolution ∧
        resolution.receipt = a.receipt ∧ a.receipt.validate = .ok () ∧
        ((a.state = .released ∧ a.evidenceRank = .two) ∨
          (a.state = .settled ∧ a.evidenceRank = .three)) := by
  unfold validateRetainedResolution
  cases a.resolutionEvidence with
  | none => simp
  | some value =>
      simp only [bind_eq_ok, require_eq_ok, LedgerAdmissionReceipt.modelValidate_eq_ok,
        Option.mem_def, Option.some.injEq, forall_eq']
      constructor
      · rintro ⟨resolution, hr, expected, he, approved, ha, rfl, hstate⟩
        exact ⟨resolution, hr, ha.symm.trans he, he ▸ approved.valid, hstate⟩
      · rintro ⟨resolution, hr, hreceipt, hvalid, hstate⟩
        exact ⟨resolution, hr, ⟨a.receipt, hvalid⟩, rfl, ⟨a.receipt, hvalid⟩, hreceipt.symm, rfl,
          hstate⟩

/-- A retained rejection has its policy, and was settled as a zero charge unless
complete usage came later. -/
theorem validateRetainedRejection_eq_ok {a : AttemptFields} {u : Unit} :
    a.validateRetainedRejection = .ok u ↔ ∀ evidence ∈ a.rejectionEvidence,
      validateRejectionEvidence a.rejectionPolicy evidence a.identity.admittedAt = .ok () ∧
        a.state = .settled ∧ (a.evidenceRank = .two ∨ a.evidenceRank = .three) ∧
        (a.evidenceRank = .two → a.actualTokens = some 0) := by
  unfold validateRetainedRejection
  cases a.rejectionEvidence with
  | none => simp
  | some evidence =>
      simp only [bind_eq_ok, require_eq_ok, Option.mem_def, Option.some.injEq, forall_eq']
      constructor
      · rintro ⟨_, h, hstate⟩
        exact ⟨h, hstate⟩
      · rintro ⟨h, hstate⟩
        exact ⟨(), h, hstate⟩

/-- A retained completion is the settled charge. -/
theorem validateRetainedCompletion_eq_ok {a : AttemptFields} {u : Unit} :
    a.validateRetainedCompletion = .ok u ↔ ∀ value ∈ a.completionEvidence,
      ∃ evidence, validateCompletion value = .ok evidence ∧ evidence.rejection = none ∧
        a.state = .settled ∧ a.evidenceRank = .three ∧
        a.actualTokens = some evidence.totalTokens := by
  unfold validateRetainedCompletion
  cases a.completionEvidence with
  | none => simp
  | some value => simp [bind_eq_ok]

end AttemptFields

structure LedgerAttempt extends AttemptFields where
  valid : toAttemptFields.validate = .ok ()

namespace LedgerAttempt

theorem fields_injective {a b : LedgerAttempt} (h : a.toAttemptFields = b.toAttemptFields) :
    a = b := by
  cases a
  cases b
  cases h
  rfl

instance : DecidableEq LedgerAttempt := fun a b =>
  decidable_of_iff (a.toAttemptFields = b.toAttemptFields)
    ⟨fields_injective, fun h => h ▸ rfl⟩

theorem isValid (a : LedgerAttempt) : a.toAttemptFields.Valid :=
  AttemptFields.validate_eq_ok.1 a.valid

/-- `LedgerAttempt.model_validate`. -/
def modelValidate (a : AttemptFields) : Except LedgerError LedgerAttempt :=
  match h : a.validate with
  | .ok () => .ok ⟨a, h⟩
  | .error e => .error e

theorem modelValidate_eq_ok {fields : AttemptFields} {a : LedgerAttempt} :
    modelValidate fields = .ok a ↔ a.toAttemptFields = fields := by
  unfold modelValidate
  split
  next h =>
    constructor
    · intro he
      cases he
      rfl
    · rintro rfl
      rfl
  next e h =>
    constructor
    · intro he
      cases he
    · rintro rfl
      rw [a.valid] at h
      cases h

theorem modelValidate_eq_error {fields : AttemptFields} {e : LedgerError} :
    modelValidate fields = .error e ↔ fields.validate = .error e := by
  unfold modelValidate
  split
  next h => simp [h]
  next e' h => simp [h]

/-- An attempt has an actual charge exactly when it is settled. -/
theorem settled_iff (a : LedgerAttempt) : a.state = .settled ↔ ∃ n, a.actualTokens = some n := by
  rw [a.isValid.settled, Option.ne_none_iff_exists']

end LedgerAttempt

/-! ## Charges -/

structure ChargeFields where
  identity : LedgerAttemptIdentity
  epoch : UUID
  revision : Int
  evidenceKey : EvidenceKey
  totalTokens : Int
  budgetMode : BudgetMode := .tokens
  actualUsd : Option Int := none
  priceSnapshot : Option BudgetPriceProjection := none
  evidenceRank : EvidenceRank := .three
  resolutionEvidence : Option (Decoded BudgetReservationResolution) := none
deriving DecidableEq

namespace ChargeFields

/-- What `validate_resolution_charge` checks of an approval. -/
def validateApproval (c : ChargeFields) : Except LedgerError Unit :=
  match c.resolutionEvidence with
  | none => .ok ()
  | some value => do
      let approved ← validateResolution value
      let receipt ← LedgerAdmissionReceipt.modelValidate approved.receipt
      require (c.evidenceRank = .two ∧ c.totalTokens = 0 ∧ c.actualUsd = none ∧
          c.evidenceKey = .ofResolution approved.id ∧ receipt.epoch = c.epoch ∧
          receipt.identity = c.identity ∧ receipt.budgetMode = c.budgetMode ∧
          receipt.priceSnapshot = c.priceSnapshot)
        (.invalidModel "Resolution task cannot change an approved identity or amount")

/-- `LedgerCharge`: the field bounds and `validate_resolution_charge`. -/
def validate (c : ChargeFields) : Except LedgerError Unit := do
  require (1 ≤ c.revision) (.tooSmall "revision")
  require (c.evidenceKey.fits = true) (.tooLarge "evidence_key")
  tokenField "total_tokens" 0 c.totalTokens
  usdField "actual_usd" c.actualUsd
  require (c.evidenceRank ≠ .zero) (.tooSmall "evidence_rank")
  require (c.budgetMode = .usd →
      c.priceSnapshot ≠ none ∧ (c.resolutionEvidence = none → c.actualUsd ≠ none))
    (.invalidModel "USD settlement requires measured cost and price evidence")
  require (c.budgetMode = .tokens → c.actualUsd = none ∧ c.priceSnapshot = none)
    (.invalidModel "Token settlement cannot carry USD evidence")
  require (c.evidenceKey.isResolution = true ↔ c.resolutionEvidence ≠ none)
    (.invalidModel "Reservation resolution tasks require their immutable approval")
  c.validateApproval

/-- What the validation of a charge requires. -/
structure Valid (c : ChargeFields) : Prop where
  revision : 1 ≤ c.revision
  evidenceKey : c.evidenceKey.fits = true
  totalTokens : 0 ≤ c.totalTokens ∧ c.totalTokens ≤ maxTokens
  actualUsd : ∀ x ∈ c.actualUsd, UsdInRange x
  evidenceRank : c.evidenceRank ≠ .zero
  usd : c.budgetMode = .usd →
    c.priceSnapshot ≠ none ∧ (c.resolutionEvidence = none → c.actualUsd ≠ none)
  tokens : c.budgetMode = .tokens → c.actualUsd = none ∧ c.priceSnapshot = none
  keyed : c.evidenceKey.isResolution = true ↔ c.resolutionEvidence ≠ none
  approval : c.validateApproval = .ok ()

theorem validate_eq_ok {c : ChargeFields} {u : Unit} : c.validate = .ok u ↔ c.Valid := by
  simp only [validate, check_bind_eq_ok, require_eq_ok, tokenField_eq_ok, usdField_eq_ok]
  constructor
  · rintro ⟨h₁, h₂, h₃, h₄, h₅, h₆, h₇, h₈, h₉⟩
    exact ⟨h₁, h₂, h₃, h₄, h₅, h₆, h₇, h₈, h₉⟩
  · rintro ⟨h₁, h₂, h₃, h₄, h₅, h₆, h₇, h₈, h₉⟩
    exact ⟨h₁, h₂, h₃, h₄, h₅, h₆, h₇, h₈, h₉⟩

end ChargeFields

structure LedgerCharge extends ChargeFields where
  valid : toChargeFields.validate = .ok ()

theorem LedgerCharge.isValid (c : LedgerCharge) : c.toChargeFields.Valid :=
  ChargeFields.validate_eq_ok.1 c.valid

end Turnstile
