import Turnstile.Domain.Ledger

/-!
# The stored documents

What a table row holds is a JSON object.  A key with a default may be absent from
it: `model_validate` then takes the default, while code that reads the object
itself may raise or take another value.  A document keeps `none` for such a key;
the keys that every reader defaults in the same way are read here once.
-/

namespace Turnstile

open Guard

/-- The JSON object of a summary. -/
structure SummaryDocument where
  protocolVersion : Option Int
  epoch : UUID
  scope : LedgerScope
  version : Option Int
  policyRevision : Option Int
  tokenLimit : Int
  budgetMode : BudgetMode
  usdLimit : Option Int
  enforce : Bool
  enabled : Option Bool
  requireVerifiedBound : Bool
  confirmedTokens : Option Int
  activeReservedTokens : Option Int
  upperBoundTokens : Option Int
  confirmedUsd : Int
  activeReservedUsd : Int
  upperBoundUsd : Int
  updatedAt : Int
deriving DecidableEq

/-- The JSON object of an attempt. -/
structure AttemptDocument where
  identity : LedgerAttemptIdentity
  epoch : UUID
  state : AttemptState
  reservedTokens : Int
  budgetMode : BudgetMode
  reservedUsd : Option Int
  actualUsd : Option Int
  priceSnapshot : Option BudgetPriceProjection
  priceEtag : Option String
  actualTokens : Option Int
  evidenceRevision : Option Int
  evidenceKey : Option EvidenceKey
  evidenceRank : Option EvidenceRank
  completionEvidence : Option (Decoded Completion)
  rejectionPolicy : Option (Decoded RejectionPolicy)
  rejectionEvidence : Option (Decoded Completion)
  resolutionEvidence : Option (Decoded BudgetReservationResolution)
  updatedAt : Int
deriving DecidableEq

namespace SummaryDocument

/-- The fields with their defaults filled in. -/
def fields (d : SummaryDocument) : SummaryFields where
  epoch := d.epoch
  scope := d.scope
  version := d.version.getD 0
  policyRevision := d.policyRevision.getD 0
  tokenLimit := d.tokenLimit
  budgetMode := d.budgetMode
  usdLimit := d.usdLimit
  enforce := d.enforce
  enabled := d.enabled.getD true
  requireVerifiedBound := d.requireVerifiedBound
  confirmedTokens := d.confirmedTokens.getD 0
  activeReservedTokens := d.activeReservedTokens.getD 0
  upperBoundTokens := d.upperBoundTokens.getD 0
  confirmedUsd := d.confirmedUsd
  activeReservedUsd := d.activeReservedUsd
  upperBoundUsd := d.upperBoundUsd
  updatedAt := d.updatedAt

/-- `LedgerSummary.model_validate` of a document. -/
def modelValidate (d : SummaryDocument) : Except LedgerError LedgerSummary := do
  require (d.protocolVersion.getD 2 = 2) (.invalidModel "protocol_version")
  LedgerSummary.modelValidate d.fields

theorem modelValidate_eq_ok {d : SummaryDocument} {s : LedgerSummary} :
    d.modelValidate = .ok s ↔ d.protocolVersion.getD 2 = 2 ∧ s.toSummaryFields = d.fields := by
  rw [modelValidate, require_bind_eq_ok, LedgerSummary.modelValidate_eq_ok]

end SummaryDocument

/-- `model_dump(mode="json")` of a summary. -/
def LedgerSummary.dump (s : LedgerSummary) : SummaryDocument where
  protocolVersion := some 2
  epoch := s.epoch
  scope := s.scope
  version := some s.version
  policyRevision := some s.policyRevision
  tokenLimit := s.tokenLimit
  budgetMode := s.budgetMode
  usdLimit := s.usdLimit
  enforce := s.enforce
  enabled := some s.enabled
  requireVerifiedBound := s.requireVerifiedBound
  confirmedTokens := some s.confirmedTokens
  activeReservedTokens := some s.activeReservedTokens
  upperBoundTokens := some s.upperBoundTokens
  confirmedUsd := s.confirmedUsd
  activeReservedUsd := s.activeReservedUsd
  upperBoundUsd := s.upperBoundUsd
  updatedAt := s.updatedAt

@[simp] theorem LedgerSummary.fields_dump (s : LedgerSummary) :
    s.dump.fields = s.toSummaryFields := rfl

/-- A dumped summary reads back as itself. -/
@[simp] theorem LedgerSummary.modelValidate_dump (s : LedgerSummary) :
    s.dump.modelValidate = .ok s :=
  SummaryDocument.modelValidate_eq_ok.2 ⟨rfl, rfl⟩

namespace AttemptDocument

/-- The fields with their defaults filled in. -/
def fields (d : AttemptDocument) : AttemptFields where
  identity := d.identity
  epoch := d.epoch
  state := d.state
  reservedTokens := d.reservedTokens
  budgetMode := d.budgetMode
  reservedUsd := d.reservedUsd
  actualUsd := d.actualUsd
  priceSnapshot := d.priceSnapshot
  priceEtag := d.priceEtag
  actualTokens := d.actualTokens
  evidenceRevision := d.evidenceRevision.getD 0
  evidenceKey := d.evidenceKey
  evidenceRank := d.evidenceRank.getD .zero
  completionEvidence := d.completionEvidence
  rejectionPolicy := d.rejectionPolicy
  rejectionEvidence := d.rejectionEvidence
  resolutionEvidence := d.resolutionEvidence
  updatedAt := d.updatedAt

/-- `LedgerAttempt.model_validate` of a document. -/
def modelValidate (d : AttemptDocument) : Except LedgerError LedgerAttempt :=
  LedgerAttempt.modelValidate d.fields

theorem modelValidate_eq_ok {d : AttemptDocument} {a : LedgerAttempt} :
    d.modelValidate = .ok a ↔ a.toAttemptFields = d.fields :=
  LedgerAttempt.modelValidate_eq_ok

end AttemptDocument

/-- `model_dump(mode="json")` of an attempt. -/
def LedgerAttempt.dump (a : LedgerAttempt) : AttemptDocument where
  identity := a.identity
  epoch := a.epoch
  state := a.state
  reservedTokens := a.reservedTokens
  budgetMode := a.budgetMode
  reservedUsd := a.reservedUsd
  actualUsd := a.actualUsd
  priceSnapshot := a.priceSnapshot
  priceEtag := a.priceEtag
  actualTokens := a.actualTokens
  evidenceRevision := some a.evidenceRevision
  evidenceKey := a.evidenceKey
  evidenceRank := some a.evidenceRank
  completionEvidence := a.completionEvidence
  rejectionPolicy := a.rejectionPolicy
  rejectionEvidence := a.rejectionEvidence
  resolutionEvidence := a.resolutionEvidence
  updatedAt := a.updatedAt

@[simp] theorem LedgerAttempt.fields_dump (a : LedgerAttempt) :
    a.dump.fields = a.toAttemptFields := rfl

/-- A dumped attempt reads back as itself. -/
@[simp] theorem LedgerAttempt.modelValidate_dump (a : LedgerAttempt) :
    a.dump.modelValidate = .ok a :=
  AttemptDocument.modelValidate_eq_ok.2 rfl

/-! ## A scope to evaluate on -/

namespace Sample

/-- 2026-09-22T00:00:00Z. -/
def start : Int := 1790035200000000

def scope : LedgerScope :=
  ⟨.person, .uuid 7 0, ⟨2026, 9, 1⟩, by decide⟩

def identity (correlationId : UUID) : LedgerAttemptIdentity where
  scope := scope
  gatewayProfileId := 1
  nativeGatewayId := .uuid 2 0
  correlationId := .uuid correlationId 0
  modelId := .uuid 3 0
  admittedAt := start
  valid := by
    have h : scope.periodStart = monthStart start := by decide
    simp [validateAttempt, h, Text.fits]

/-- An enforced token budget of 1000, of which 40 are used. -/
def tokenSummary : LedgerSummary where
  epoch := 5
  scope := scope
  version := 0
  policyRevision := 0
  tokenLimit := 1000
  budgetMode := .tokens
  usdLimit := none
  enforce := true
  enabled := true
  requireVerifiedBound := false
  confirmedTokens := 40
  activeReservedTokens := 0
  upperBoundTokens := 0
  confirmedUsd := 0
  activeReservedUsd := 0
  upperBoundUsd := 0
  updatedAt := start
  valid := rfl

/-- The same budget once attempt 1 has reserved 100. -/
def reservedSummary : LedgerSummary where
  toSummaryFields := { tokenSummary.toSummaryFields with version := 1, activeReservedTokens := 100 }
  valid := rfl

def reservedAttempt : LedgerAttempt where
  identity := identity 1
  epoch := 5
  state := .reserved
  reservedTokens := 100
  updatedAt := start
  valid := rfl

def receipt : LedgerAdmissionReceipt where
  toReceiptFields := reservedAttempt.receipt
  valid := rfl

/-- A completion of 60 tokens. -/
def completion : Completion where
  inputTokens := 50
  cachedTokens := 0
  cacheWriteTokens := 0
  outputTokens := 10
  totalTokens := 60
  source := .observer
  observedAt := start
  rejection := none

/-- One dollar per million input tokens, two per million output tokens. -/
def price : ModelPrice where
  inputPricePerMillion := 1
  cachedPricePerMillion := 1
  cacheWritePricePerMillion := 1
  outputPricePerMillion := 2
  contextTiers := []
  selectedTier := none

def rateSchedules : List RateSchedule :=
  [⟨0, none, 100000000, 100000000, 100000000, 200000000⟩]

def projection : BudgetPriceProjection where
  modelId := 3
  priceSha256 := ⟨some price, rateSchedules⟩
  price := some price
  rateSchedules := rateSchedules
  updatedAt := start
  verified := by decide +kernel

/-- An enforced budget of ten dollars. -/
def usdSummary : LedgerSummary where
  toSummaryFields := { tokenSummary.toSummaryFields with
    tokenLimit := 0, confirmedTokens := 0, budgetMode := .usd, usdLimit := some (10 ^ 15) }
  valid := rfl

/-- An enforced budget of `10¹⁵` dollars and 60 units of the last place. -/
def wideUsdSummary : LedgerSummary where
  toSummaryFields := { usdSummary.toSummaryFields with usdLimit := some (10 ^ 29 + 60) }
  valid := rfl

end Sample

end Turnstile
