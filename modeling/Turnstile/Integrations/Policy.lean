import Turnstile.Ledger.State

/-!
# Policies and unit switches

A policy reaches a scope through `write_policy`.  A policy in the other unit also
opens a balance in it, and is written only when the summary is disabled and no
counter of the summary says that something is reserved.  `quiesce_budget_scope`
stops new reservations before that, and allows them again.

Each function here maps the summary that was read to the summary that is written;
the result that equals the argument is returned without a write.
-/

namespace Turnstile

open Guard

structure LedgerPolicyUpdate where
  scope : LedgerScope
  epoch : UUID
  revision : Int
  tokenLimit : Int
  budgetMode : BudgetMode
  usdLimit : Option Int
  enforce : Bool
  enabled : Bool

/-- `int(opening_balance)`. -/
def openingTokens (openingBalance : ℚ) : Int := openingBalance.num.tdiv openingBalance.den

/-- No counter of the summary says that something is reserved. -/
def SummaryFields.Unreserved (s : SummaryFields) : Prop :=
  s.activeReservedTokens = 0 ∧ s.upperBoundTokens = 0 ∧ s.activeReservedUsd = 0 ∧
    s.upperBoundUsd = 0

instance (s : SummaryFields) : Decidable s.Unreserved := inferInstanceAs (Decidable (_ ∧ _))

/-- The part of `write_policy` that opens a balance in the other unit. -/
def switchUnit (summary : LedgerSummary) (budgetMode : BudgetMode) (usdLimit : Option Int)
    (openingBalance : Option ℚ) : Except LedgerError LedgerSummary := do
  let wait := LedgerError.unavailable "Budget unit switch awaits existing request settlement"
  require (summary.enabled = false ∧ summary.Unreserved) wait
  match openingBalance, budgetMode with
  | none, _ => .error wait
  | some opening, .tokens =>
      LedgerSummary.modelValidate { summary.toSummaryFields with
        budgetMode, usdLimit, confirmedTokens := openingTokens opening, confirmedUsd := 0 }
  | some opening, .usd =>
      match usdOfDecimal? opening with
      | none => .error (.tooLarge "confirmed_usd")
      | some confirmedUsd =>
          LedgerSummary.modelValidate { summary.toSummaryFields with
            budgetMode, usdLimit, confirmedUsd }

/-- `write_policy`, from the summary that was read. -/
def writePolicy (summary : LedgerSummary) (update : LedgerPolicyUpdate)
    (openingBalance : Option ℚ) (now : Int) : Except LedgerError LedgerSummary := do
  require (summary.scope = update.scope)
    (.protocolConflict "Budget policy belongs to another scope")
  require (summary.epoch = update.epoch)
    (.protocolConflict "Budget policy belongs to another epoch")
  if update.revision < summary.policyRevision then pure summary
  else do
    require (update.revision = summary.policyRevision → summary.budgetMode = update.budgetMode)
      (.protocolConflict "A budget policy revision cannot change its unit")
    let opened ← (if summary.budgetMode = update.budgetMode then .ok summary
      else switchUnit summary update.budgetMode update.usdLimit openingBalance)
    updateLedgerPolicy opened update.epoch update.revision update.tokenLimit update.enforce
      update.enabled now update.budgetMode update.usdLimit

/-- `quiesce_budget_scope`, from the summary that was read. -/
def quiesceBudgetScope (summary : LedgerSummary) (scope : LedgerScope) (epoch : UUID)
    (revision : Int) (enabled : Bool) (now : Int) : Except LedgerError LedgerSummary := do
  require (summary.scope = scope ∧ summary.epoch = epoch)
    (.protocolConflict "Budget switch belongs to another scope or epoch")
  if revision ≤ summary.policyRevision then pure summary
  else if summary.enabled = enabled then pure summary
  else LedgerSummary.modelValidate { summary.toSummaryFields with
    enabled, version := summary.version + 1, updatedAt := now }

/-! ## What they have done -/

section Results

variable {summary summary' : LedgerSummary} {update : LedgerPolicyUpdate}
  {openingBalance : Option ℚ} {now : Int}

/-- The summary of a unit switch. -/
structure Switched (summary : LedgerSummary) (budgetMode : BudgetMode) (usdLimit : Option Int)
    (openingBalance : Option ℚ) (summary' : LedgerSummary) : Prop where
  opening : openingBalance ≠ none
  disabled : summary.enabled = false
  unreserved : summary.Unreserved
  opened : ∃ confirmedTokens confirmedUsd, summary'.toSummaryFields =
    { summary.toSummaryFields with budgetMode, usdLimit, confirmedTokens, confirmedUsd }

theorem switchUnit_result {budgetMode : BudgetMode} {usdLimit : Option Int}
    (h : switchUnit summary budgetMode usdLimit openingBalance = .ok summary') :
    Switched summary budgetMode usdLimit openingBalance summary' := by
  obtain ⟨⟨hdisabled, hunreserved⟩, h⟩ := require_bind_eq_ok.1 h
  split at h
  next => cases h
  next =>
    exact ⟨Option.some_ne_none _, hdisabled, hunreserved, _, _,
      LedgerSummary.modelValidate_eq_ok.1 h⟩
  next =>
    split at h
    next => cases h
    next =>
      exact ⟨Option.some_ne_none _, hdisabled, hunreserved, _, _,
        LedgerSummary.modelValidate_eq_ok.1 h⟩

/-- How `writePolicy` returns. -/
inductive PolicyWritten (summary : LedgerSummary) (update : LedgerPolicyUpdate)
    (openingBalance : Option ℚ) (now : Int) : LedgerSummary → Prop where
  | kept : PolicyWritten summary update openingBalance now summary
  | updated {summary' : LedgerSummary} : summary.budgetMode = update.budgetMode →
      summary'.toSummaryFields = { summary.toSummaryFields with
        policyRevision := update.revision, tokenLimit := update.tokenLimit
        usdLimit := update.usdLimit, enforce := update.enforce, enabled := update.enabled
        version := summary.version + 1, updatedAt := now } →
      PolicyWritten summary update openingBalance now summary'
  | switched (confirmedTokens confirmedUsd : Int) {summary' : LedgerSummary} :
      summary.budgetMode ≠ update.budgetMode → openingBalance ≠ none →
      summary.enabled = false → summary.Unreserved →
      summary'.toSummaryFields = { summary.toSummaryFields with
        policyRevision := update.revision, tokenLimit := update.tokenLimit
        budgetMode := update.budgetMode, usdLimit := update.usdLimit
        enforce := update.enforce, enabled := update.enabled, confirmedTokens, confirmedUsd
        version := summary.version + 1, updatedAt := now } →
      PolicyWritten summary update openingBalance now summary'

theorem writePolicy_result (h : writePolicy summary update openingBalance now = .ok summary') :
    PolicyWritten summary update openingBalance now summary' := by
  obtain ⟨-, h⟩ := require_bind_eq_ok.1 h
  obtain ⟨-, h⟩ := require_bind_eq_ok.1 h
  split at h
  next =>
    cases h
    exact .kept
  next hnlt =>
    obtain ⟨hunit, h⟩ := require_bind_eq_ok.1 h
    obtain ⟨opened, hopened, h⟩ := bind_eq_ok.1 h
    obtain ⟨-, hresult⟩ := updateLedgerPolicy_result h
    split at hopened
    next hmode =>
      cases hopened
      cases hresult with
      | kept => exact .kept
      | advanced _ _ hs =>
          refine .updated hmode ?_
          rw [hs, ← hmode]
    next hmode =>
      obtain ⟨hopening, hdisabled, hunreserved, confirmedTokens, confirmedUsd, hs⟩ :=
        switchUnit_result hopened
      -- The revision is newer, so the opened summary is not returned as it is.
      have hrevision : opened.policyRevision = summary.policyRevision := by rw [hs]
      have hne : update.revision ≠ summary.policyRevision := fun heq => hmode (hunit heq)
      cases hresult with
      | kept hle => omega
      | advanced _ _ hs' =>
          refine .switched confirmedTokens confirmedUsd hmode hopening hdisabled hunreserved ?_
          rw [hs', hs]

/-- A policy that is written is in its own unit, and without an opening balance that
is the unit the scope had. -/
theorem PolicyWritten.budgetMode (h : PolicyWritten summary update openingBalance now summary')
    (hne : summary' ≠ summary) : summary'.budgetMode = update.budgetMode ∧
      (openingBalance = none → summary'.budgetMode = summary.budgetMode) := by
  cases h with
  | kept => exact absurd rfl hne
  | updated hmode hs =>
      rw [hs]
      exact ⟨hmode, fun _ => rfl⟩
  | switched _ _ _ hopening _ _ hs =>
      rw [hs]
      exact ⟨rfl, fun hnone => absurd hnone hopening⟩

/-- Quiescing changes whether the scope is enabled. -/
theorem quiesceBudgetScope_result {scope : LedgerScope} {epoch : UUID} {revision : Int}
    {enabled : Bool}
    (h : quiesceBudgetScope summary scope epoch revision enabled now = .ok summary') :
    summary' = summary ∨ summary'.toSummaryFields = { summary.toSummaryFields with
      enabled, version := summary.version + 1, updatedAt := now } := by
  obtain ⟨-, h⟩ := require_bind_eq_ok.1 h
  split at h
  next =>
    cases h
    exact .inl rfl
  next =>
    split at h
    next =>
      cases h
      exact .inl rfl
    next => exact .inr (LedgerSummary.modelValidate_eq_ok.1 h)

end Results

end Turnstile
