import Turnstile.Domain.Documents

/-!
# Completing an attempt

`completion_transaction` settles an attempt from the usage its producer reports.
It reads and writes the stored objects and never the models, so it repeats the
checks it needs.  A completion that a stored completion, a stored rejection or a
confirmed charge already answers leaves both objects as they are.

The function is cut at its own paragraphs.  `CompletionAdmitted` and
`CompletionCharged` say what a run that returned has checked and written, and
`completionTransaction_eq_ok` is the inversion every later proof starts from.
-/

namespace Turnstile

open Guard

/-! ## Reading fields of an object -/

/-- `exact_integer(value[field])`. -/
def exactKey (field : String) : Option Int → Except LedgerError Int
  | none => .error (.keyError field)
  | some value => do
      exactInteger field value
      pure value

@[simp] theorem exactKey_eq_ok {field : String} {value : Option Int} {n : Int} :
    exactKey field value = .ok n ↔ value = some n ∧ 0 ≤ n ∧ n ≤ maxTokens := by
  cases value with
  | none => simp [exactKey]
  | some m =>
      simp only [exactKey, check_bind_eq_ok, exactInteger_eq_ok, pure_eq, Except.ok.injEq,
        Option.some.injEq]
      constructor
      · rintro ⟨h, rfl⟩
        exact ⟨rfl, h⟩
      · rintro ⟨rfl, h⟩
        exact ⟨h, rfl⟩

/-- `exact_usd_amount(value.get(field))`. -/
def exactUsdField : Option Int → Except LedgerError Int
  | none => .error (.valueError "USD accounting requires an exact decimal amount")
  | some amount => do
      exactUsdAmount amount
      pure amount

@[simp] theorem exactUsdField_eq_ok {value : Option Int} {x : Int} :
    exactUsdField value = .ok x ↔ value = some x ∧ UsdInRange x := by
  cases value with
  | none => simp [exactUsdField]
  | some y =>
      simp only [exactUsdField, check_bind_eq_ok, exactUsdAmount_eq_ok, pure_eq, Except.ok.injEq,
        Option.some.injEq]
      constructor
      · rintro ⟨h, rfl⟩
        exact ⟨rfl, h⟩
      · rintro ⟨rfl, h⟩
        exact ⟨h, rfl⟩

/-! ## Matching the admission -/

/-- The price of a completion and the charge it replaces, zero in token mode. -/
def priceCompletion (attempt : AttemptDocument) (receipt : ReceiptFields)
    (identity : LedgerAttemptIdentity) (evidence : Completion) :
    BudgetMode → Except LedgerError (Int × Int)
  | .tokens => .ok (0, 0)
  | .usd =>
      match attempt.priceSnapshot with
      | none => .error (.valueError "USD completion requires the admitted model price")
      | some projection => do
          require (Text.ofUuid projection.modelId = identity.modelId)
            (.valueError "USD completion requires the admitted model price")
          let reservedUsd ← exactUsdField attempt.reservedUsd
          require (receipt.budgetMode = .usd ∧ receipt.priceSnapshot = some projection)
            (.valueError "USD completion receipt differs from its reservation")
          let receiptUsd ← exactUsdField receipt.reservedUsd
          require (receiptUsd = reservedUsd)
            (.valueError "USD completion receipt differs from its reservation")
          let actualUsd ← usdCompletionCharge projection evidence.toUsageCounters
          if attempt.state = .settled then do
            let previousUsd ← exactUsdField attempt.actualUsd
            pure (actualUsd, previousUsd)
          else pure (actualUsd, 0)

/-- The part of `completion_transaction` that matches the completion to its
immutable admission; it returns the USD charge and the charge that replaces. -/
def checkAdmission (summary : SummaryDocument) (attempt : AttemptDocument)
    (receipt : ReceiptFields) (evidence : Completion) : Except LedgerError (Int × Int) := do
  let identity ← normalizedIdentity receipt.identity
  checkIf (evidence.rejection ≠ none)
    (validateRejectionEvidence attempt.rejectionPolicy (.record evidence) identity.admittedAt)
  let mismatch := LedgerError.valueError "Completion does not match its immutable admission"
  require (summary.protocolVersion = some 2 ∧ summary.scope = identity.scope) mismatch
  let stored ← normalizedIdentity attempt.identity
  require (stored = identity ∧ summary.epoch = receipt.epoch ∧ attempt.epoch = receipt.epoch)
    mismatch
  exactInteger "reserved_tokens" attempt.reservedTokens
  exactInteger "reserved_tokens" receipt.reservedTokens
  require (attempt.reservedTokens = receipt.reservedTokens ∧ receipt.reservedTokens ≠ 0) mismatch
  require (identity.admittedAt ≤ evidence.observedAt)
    (.valueError "Completion cannot precede admission")
  require (attempt.budgetMode = summary.budgetMode)
    (.valueError "Completion budget mode differs from its admission")
  priceCompletion attempt receipt identity evidence summary.budgetMode

/-- What holds of a completion that matches its admission. -/
structure CompletionAdmitted (summary : SummaryDocument) (attempt : AttemptDocument)
    (receipt : ReceiptFields) (evidence : Completion) (usd : Int × Int) : Prop where
  identified : normalizedIdentity receipt.identity = .ok receipt.identity
  rejection : evidence.rejection ≠ none → validateRejectionEvidence attempt.rejectionPolicy
    (.record evidence) receipt.identity.admittedAt = .ok ()
  protocolVersion : summary.protocolVersion = some 2
  scope : summary.scope = receipt.identity.scope
  identity : attempt.identity = receipt.identity
  summaryEpoch : summary.epoch = receipt.epoch
  attemptEpoch : attempt.epoch = receipt.epoch
  reserved : attempt.reservedTokens = receipt.reservedTokens
  reservedTokens : 1 ≤ attempt.reservedTokens ∧ attempt.reservedTokens ≤ maxTokens
  observed : receipt.identity.admittedAt ≤ evidence.observedAt
  mode : attempt.budgetMode = summary.budgetMode
  priced : priceCompletion attempt receipt receipt.identity evidence summary.budgetMode = .ok usd

theorem checkAdmission_eq_ok {summary : SummaryDocument} {attempt : AttemptDocument}
    {receipt : ReceiptFields} {evidence : Completion} {usd : Int × Int} :
    checkAdmission summary attempt receipt evidence = .ok usd ↔
      CompletionAdmitted summary attempt receipt evidence usd := by
  constructor
  · intro h
    obtain ⟨identity, hid, h⟩ := bind_eq_ok.1 h
    obtain rfl := normalizedIdentity_eq hid
    obtain ⟨hrej, h⟩ := check_bind_eq_ok.1 h
    obtain ⟨⟨hversion, hscope⟩, h⟩ := require_bind_eq_ok.1 h
    obtain ⟨stored, hstored, h⟩ := bind_eq_ok.1 h
    obtain rfl := normalizedIdentity_eq hstored
    simp only [check_bind_eq_ok, require_eq_ok, exactInteger_eq_ok] at h
    obtain ⟨⟨hident, hsepoch, haepoch⟩, hares, hrres, ⟨hres, hpos⟩, hobs, hmode, hprice⟩ := h
    refine ⟨hid, checkIf_eq_ok.1 hrej, hversion, hscope, hident, hsepoch, haepoch, hres, ⟨?_, ?_⟩,
      hobs, hmode, hprice⟩
    · omega
    · exact hares.2
  · intro h
    refine bind_eq_ok.2 ⟨_, h.identified, ?_⟩
    refine check_bind_eq_ok.2 ⟨checkIf_eq_ok.2 h.rejection, ?_⟩
    refine require_bind_eq_ok.2 ⟨⟨h.protocolVersion, h.scope⟩, ?_⟩
    refine bind_eq_ok.2 ⟨_, h.identity ▸ h.identified, ?_⟩
    have hres := h.reservedTokens
    have heq := h.reserved
    simp only [check_bind_eq_ok, require_eq_ok, exactInteger_eq_ok]
    exact ⟨⟨h.identity, h.summaryEpoch, h.attemptEpoch⟩, ⟨by omega, by omega⟩,
      ⟨by omega, by omega⟩, ⟨heq, by omega⟩, h.observed, h.mode, h.priced⟩

/-! ## The objects' own shape -/

/-- The counters of a summary object. -/
structure SummaryCounters where
  confirmedTokens : Int
  activeReservedTokens : Int
  upperBoundTokens : Int
  version : Int
deriving DecidableEq, Repr

/-- The loop over the counters of the summary and the test of its booleans. -/
def checkCounters (summary : SummaryDocument) : Except LedgerError SummaryCounters := do
  let confirmedTokens ← exactKey "confirmed_tokens" summary.confirmedTokens
  let activeReservedTokens ← exactKey "active_reserved_tokens" summary.activeReservedTokens
  let upperBoundTokens ← exactKey "upper_bound_tokens" summary.upperBoundTokens
  exactInteger "token_limit" summary.tokenLimit
  let version ← exactKey "version" summary.version
  let _ ← exactKey "policy_revision" summary.policyRevision
  require (summary.enabled ≠ none) (.keyError "enabled")
  pure ⟨confirmedTokens, activeReservedTokens, upperBoundTokens, version⟩

/-- What holds of a summary object whose counters were read. -/
structure CountersRead (summary : SummaryDocument) (counters : SummaryCounters) : Prop where
  confirmed : summary.confirmedTokens = some counters.confirmedTokens
  active : summary.activeReservedTokens = some counters.activeReservedTokens
  upper : summary.upperBoundTokens = some counters.upperBoundTokens
  version : summary.version = some counters.version
  confirmedRange : 0 ≤ counters.confirmedTokens ∧ counters.confirmedTokens ≤ maxTokens
  activeRange : 0 ≤ counters.activeReservedTokens ∧ counters.activeReservedTokens ≤ maxTokens
  upperRange : 0 ≤ counters.upperBoundTokens ∧ counters.upperBoundTokens ≤ maxTokens
  versionRange : 0 ≤ counters.version ∧ counters.version ≤ maxTokens
  tokenLimit : 0 ≤ summary.tokenLimit ∧ summary.tokenLimit ≤ maxTokens
  revision : ∃ n, summary.policyRevision = some n ∧ 0 ≤ n ∧ n ≤ maxTokens
  enabled : summary.enabled ≠ none

theorem checkCounters_eq_ok {summary : SummaryDocument} {counters : SummaryCounters} :
    checkCounters summary = .ok counters ↔ CountersRead summary counters := by
  constructor
  · intro h
    simp only [checkCounters, bind_eq_ok, exactKey_eq_ok, exactInteger_eq_ok, require_eq_ok,
      pure_eq, Except.ok.injEq] at h
    obtain ⟨c, ⟨hc, hcr⟩, a, ⟨ha, har⟩, u, ⟨hu, hur⟩, -, hl, v, ⟨hv, hvr⟩, p, hp, -, he, rfl⟩ := h
    exact ⟨hc, ha, hu, hv, hcr, har, hur, hvr, hl, ⟨p, hp⟩, he⟩
  · intro h
    obtain ⟨p, hp⟩ := h.revision
    simp only [checkCounters, bind_eq_ok, exactKey_eq_ok, exactInteger_eq_ok, require_eq_ok,
      pure_eq, Except.ok.injEq]
    exact ⟨_, ⟨h.confirmed, h.confirmedRange⟩, _, ⟨h.active, h.activeRange⟩, _,
      ⟨h.upper, h.upperRange⟩, (), h.tokenLimit, _, ⟨h.version, h.versionRange⟩, p, hp, (),
      h.enabled, rfl⟩

/-- `expected_receipt`: the admission as the attempt's object records it. -/
def expectedReceipt (attempt : AttemptDocument) (receipt : ReceiptFields) (mode : BudgetMode) :
    ReceiptFields where
  identity := receipt.identity
  epoch := receipt.epoch
  reservedTokens := receipt.reservedTokens
  budgetMode := mode
  reservedUsd := if mode = .usd then attempt.reservedUsd else none
  priceSnapshot := if mode = .usd then attempt.priceSnapshot else none

/-- The test of a retained resolution. -/
def checkResolution (attempt : AttemptDocument) (receipt : ReceiptFields) (mode : BudgetMode) :
    Except LedgerError Unit :=
  match attempt.resolutionEvidence with
  | none => .ok ()
  | some value => do
      let resolution ← validateResolution value
      require (resolution.receipt = expectedReceipt attempt receipt mode)
        (.valueError "Reservation resolution belongs to another admission")

/-- The charge that is already recorded: zero unless the attempt is settled. -/
def previousTokens (attempt : AttemptDocument) : Except LedgerError Int :=
  if attempt.state = .settled then
    match attempt.actualTokens with
    | none => .error (.valueError "Execution accounting requires an exact nonnegative int64")
    | some actual => exactKey "actual_tokens" (some actual)
  else do
    require (attempt.actualTokens = none)
      (.valueError "Only settled attempts may have actual charges")
    pure 0

theorem previousTokens_settled {attempt : AttemptDocument} (h : attempt.state = .settled)
    {n : Int} : previousTokens attempt = .ok n ↔
      attempt.actualTokens = some n ∧ 0 ≤ n ∧ n ≤ maxTokens := by
  rw [previousTokens, if_pos h]
  cases attempt.actualTokens with
  | none => simp
  | some actual => simp

theorem previousTokens_of_not_settled {attempt : AttemptDocument} (h : attempt.state ≠ .settled)
    {n : Int} : previousTokens attempt = .ok n ↔ attempt.actualTokens = none ∧ n = 0 := by
  rw [previousTokens, if_neg h, require_bind_eq_ok, pure_eq, Except.ok.injEq, eq_comm (a := 0)]

/-! ## Evidence that is already recorded -/

/-- The comparison with a stored completion, or with a confirmed charge. -/
def answeredByCompletion (attempt : AttemptDocument) (evidence : Completion)
    (mode : BudgetMode) (usd : Int × Int) (previous : Int) : Except LedgerError Bool :=
  match attempt.completionEvidence with
  | some prior => do
      let retained ← validateCompletion prior
      require (attempt.state = .settled ∧ previous = retained.totalTokens ∧
          attempt.evidenceRank = some .three)
        (.valueError "Retained completion must match the actual settled charge")
      require (retained.counters = evidence.counters)
        (.valueError "Conflicting complete producer evidence requires review")
      require (mode = .usd → usd.2 = usd.1)
        (.valueError "Conflicting complete USD producer evidence requires review")
      pure true
  | none => do
      require (attempt.state = .settled → attempt.evidenceRank.getD .three = .three →
          previous = evidence.totalTokens)
        (.valueError "Conflicting complete accounting evidence requires review")
      pure false

/-- Whether the attempt already holds what the evidence says; the transaction
then returns both objects as they are. -/
def answered (attempt : AttemptDocument) (evidence : Completion)
    (mode : BudgetMode) (usd : Int × Int) (previous : Int) : Except LedgerError Bool :=
  if evidence.rejection ≠ none ∧ attempt.state = .settled then
    if attempt.evidenceRank.getD .three = .three then pure true
    else do
      require (previous = 0)
        (.valueError "Rejection evidence cannot replace an existing nonzero charge")
      match attempt.rejectionEvidence with
      | some retained => do
          validateRejectionEvidence attempt.rejectionPolicy retained attempt.identity.admittedAt
          let kept ← validateCompletion retained
          require (kept.rejection = evidence.rejection)
            (.valueError "Conflicting rejection evidence requires review")
          pure true
      | none => answeredByCompletion attempt evidence mode usd previous
  else answeredByCompletion attempt evidence mode usd previous

/-! ## The charge -/

/-- The balances in USD, computed in the local context. -/
def chargeUsdBalances (summary : SummaryDocument) (attempt : AttemptDocument)
    (usd : Int × Int) : Except LedgerError SummaryDocument := do
  let held ← exactUsdField attempt.reservedUsd
  let c := localContext
  exactUsdAmount summary.confirmedUsd
  exactUsdAmount summary.activeReservedUsd
  exactUsdAmount summary.upperBoundUsd
  let confirmedUsd := c.sub (c.add summary.confirmedUsd usd.1) usd.2
  let activeReservedUsd :=
    c.sub summary.activeReservedUsd (if attempt.state.active then held else 0)
  let upperBoundUsd :=
    c.sub summary.upperBoundUsd (if attempt.state = .upperBound then held else 0)
  exactUsdAmount confirmedUsd
  exactUsdAmount activeReservedUsd
  exactUsdAmount upperBoundUsd
  pure { summary with confirmedUsd, activeReservedUsd, upperBoundUsd }

/-- The summary with the charge, at its next version. -/
def chargeSummary (summary : SummaryDocument) (attempt : AttemptDocument)
    (receipt : ReceiptFields) (counters : SummaryCounters) (evidence : Completion)
    (usd : Int × Int) (previous : Int) : Except LedgerError SummaryDocument := do
  let version := counters.version + 1
  exactInteger "version" version
  match summary.budgetMode with
  | .tokens => do
      let reserved := receipt.reservedTokens
      let confirmedTokens := counters.confirmedTokens + evidence.totalTokens - previous
      let activeReservedTokens :=
        counters.activeReservedTokens - (if attempt.state.active then reserved else 0)
      let upperBoundTokens :=
        counters.upperBoundTokens - (if attempt.state = .upperBound then reserved else 0)
      exactInteger "confirmed_tokens" confirmedTokens
      exactInteger "active_reserved_tokens" activeReservedTokens
      exactInteger "upper_bound_tokens" upperBoundTokens
      pure { summary with
        version := some version
        confirmedTokens := some confirmedTokens
        activeReservedTokens := some activeReservedTokens
        upperBoundTokens := some upperBoundTokens }
  | .usd => chargeUsdBalances { summary with version := some version } attempt usd

/-- The attempt with the charge. -/
def chargeAttempt (attempt : AttemptDocument) (mode : BudgetMode) (evidence : Completion)
    (usd : Int × Int) (updatedAt : Int) : Except LedgerError AttemptDocument := do
  let evidenceRevision ← exactKey "evidence_revision" attempt.evidenceRevision
  let digest : Sha256 (UsageCounters × Int) := ⟨evidence.counters⟩
  let settled : AttemptDocument := { attempt with
    state := .settled
    actualTokens := some evidence.totalTokens
    actualUsd := if mode = .usd then some usd.1 else attempt.actualUsd
    evidenceRevision := some (max evidenceRevision 1)
    updatedAt }
  if evidence.rejection = none then
    pure { settled with
      evidenceKey := some (.completion digest)
      evidenceRank := some .three
      completionEvidence := some (.record evidence) }
  else
    pure { settled with
      evidenceKey := some (.rejection digest)
      evidenceRank := some .two
      rejectionEvidence := some (.record evidence) }

/-- `completion_transaction`. -/
def completionTransaction (summary : SummaryDocument) (attempt : AttemptDocument)
    (receipt : ReceiptFields) (completion : Decoded Completion) (now : Int) :
    Except LedgerError (SummaryDocument × AttemptDocument) := do
  let evidence ← validateCompletion completion
  let usd ← checkAdmission summary attempt receipt evidence
  let counters ← checkCounters summary
  checkResolution attempt receipt summary.budgetMode
  require (attempt.state = .released →
      attempt.resolutionEvidence ≠ none ∧ attempt.evidenceRank = some .two)
    (.valueError "Released reservations require persisted approval evidence")
  if attempt.state = .released ∧ evidence.rejection ≠ none then pure (summary, attempt) else do
    let previous ← previousTokens attempt
    if ← answered attempt evidence summary.budgetMode usd previous then
      pure (summary, attempt)
    else do
      let charged ← chargeSummary summary attempt receipt counters evidence usd previous
      let updatedAt := max now (max summary.updatedAt attempt.updatedAt)
      let settled ← chargeAttempt attempt summary.budgetMode evidence usd updatedAt
      pure ({ charged with updatedAt }, settled)

/-! ## What a returned transaction has checked -/

/-- Everything that is checked before the recorded evidence is looked at. -/
structure CompletionChecked (summary : SummaryDocument) (attempt : AttemptDocument)
    (receipt : ReceiptFields) (completion : Decoded Completion) (evidence : Completion)
    (usd : Int × Int) (counters : SummaryCounters) : Prop where
  validated : validateCompletion completion = .ok evidence
  admitted : CompletionAdmitted summary attempt receipt evidence usd
  counters : CountersRead summary counters
  resolution : checkResolution attempt receipt summary.budgetMode = .ok ()
  released : attempt.state = .released →
    attempt.resolutionEvidence ≠ none ∧ attempt.evidenceRank = some .two

/-- How a transaction that passed those checks ends. -/
inductive CompletionResult (summary : SummaryDocument) (attempt : AttemptDocument)
    (receipt : ReceiptFields) (evidence : Completion) (usd : Int × Int)
    (counters : SummaryCounters) (now : Int) : SummaryDocument → AttemptDocument → Prop where
  /-- A rejection says nothing new of a released reservation. -/
  | skipped : attempt.state = .released → evidence.rejection ≠ none →
      CompletionResult summary attempt receipt evidence usd counters now summary attempt
  /-- The attempt already holds the evidence. -/
  | answered (previous : Int) : ¬(attempt.state = .released ∧ evidence.rejection ≠ none) →
      previousTokens attempt = .ok previous →
      answered attempt evidence summary.budgetMode usd previous = .ok true →
      CompletionResult summary attempt receipt evidence usd counters now summary attempt
  /-- The charge was recorded. -/
  | charged (previous : Int) (charged : SummaryDocument) (settled : AttemptDocument) :
      ¬(attempt.state = .released ∧ evidence.rejection ≠ none) →
      previousTokens attempt = .ok previous →
      answered attempt evidence summary.budgetMode usd previous = .ok false →
      chargeSummary summary attempt receipt counters evidence usd previous = .ok charged →
      chargeAttempt attempt summary.budgetMode evidence usd
        (max now (max summary.updatedAt attempt.updatedAt)) = .ok settled →
      CompletionResult summary attempt receipt evidence usd counters now
        { charged with updatedAt := max now (max summary.updatedAt attempt.updatedAt) } settled

theorem completionTransaction_eq_ok {summary summary' : SummaryDocument}
    {attempt attempt' : AttemptDocument} {receipt : ReceiptFields}
    {completion : Decoded Completion} {now : Int} :
    completionTransaction summary attempt receipt completion now = .ok (summary', attempt') ↔
      ∃ evidence usd counters,
        CompletionChecked summary attempt receipt completion evidence usd counters ∧
        CompletionResult summary attempt receipt evidence usd counters now summary' attempt' := by
  constructor
  · intro h
    obtain ⟨evidence, hval, h⟩ := bind_eq_ok.1 h
    obtain ⟨usd, hadm, h⟩ := bind_eq_ok.1 h
    obtain ⟨counters, hcount, h⟩ := bind_eq_ok.1 h
    obtain ⟨hres, h⟩ := check_bind_eq_ok.1 h
    obtain ⟨hrel, h⟩ := require_bind_eq_ok.1 h
    refine ⟨evidence, usd, counters,
      ⟨hval, checkAdmission_eq_ok.1 hadm, checkCounters_eq_ok.1 hcount, hres, hrel⟩, ?_⟩
    split at h
    next hskip =>
      cases h
      exact .skipped hskip.1 hskip.2
    next hskip =>
      obtain ⟨previous, hprev, h⟩ := bind_eq_ok.1 h
      obtain ⟨done, hdone, h⟩ := bind_eq_ok.1 h
      cases done with
      | true =>
          cases h
          exact .answered previous hskip hprev hdone
      | false =>
          obtain ⟨charged, hcharge, h⟩ := bind_eq_ok.1 h
          obtain ⟨settled, hsettle, h⟩ := bind_eq_ok.1 h
          cases h
          exact .charged previous charged _ hskip hprev hdone hcharge hsettle
  · rintro ⟨evidence, usd, counters, hchk, hresult⟩
    refine bind_eq_ok.2 ⟨evidence, hchk.validated, ?_⟩
    refine bind_eq_ok.2 ⟨usd, checkAdmission_eq_ok.2 hchk.admitted, ?_⟩
    refine bind_eq_ok.2 ⟨counters, checkCounters_eq_ok.2 hchk.counters, ?_⟩
    refine check_bind_eq_ok.2 ⟨hchk.resolution, require_bind_eq_ok.2 ⟨hchk.released, ?_⟩⟩
    cases hresult with
    | skipped hstate hrej => rw [if_pos ⟨hstate, hrej⟩, pure_eq]
    | answered previous hskip hprev hdone =>
        rw [if_neg hskip]
        refine bind_eq_ok.2 ⟨previous, hprev, bind_eq_ok.2 ⟨true, hdone, ?_⟩⟩
        rw [if_pos rfl, pure_eq]
    | charged previous charged settled hskip hprev hdone hcharge hsettle =>
        rw [if_neg hskip]
        refine bind_eq_ok.2 ⟨previous, hprev, bind_eq_ok.2 ⟨false, hdone, ?_⟩⟩
        rw [if_neg Bool.false_ne_true]
        exact bind_eq_ok.2 ⟨charged, hcharge, bind_eq_ok.2 ⟨_, hsettle, rfl⟩⟩

/-- What is known of an attempt whose evidence does not answer a completion. -/
structure Unanswered (attempt : AttemptDocument) (evidence : Completion) (previous : Int) :
    Prop where
  completion : attempt.completionEvidence = none
  confirmed : attempt.state = .settled → attempt.evidenceRank.getD .three = .three →
    evidence.rejection = none ∧ previous = evidence.totalTokens
  rejected : evidence.rejection ≠ none → attempt.state = .settled →
    previous = 0 ∧ attempt.rejectionEvidence = none

theorem unanswered_of_answered {attempt : AttemptDocument} {evidence : Completion}
    {mode : BudgetMode} {usd : Int × Int} {previous : Int}
    (h : answered attempt evidence mode usd previous = .ok false) :
    Unanswered attempt evidence previous := by
  have byCompletion : ∀ {x}, x = Except.ok false →
      answeredByCompletion attempt evidence mode usd previous = x →
      attempt.completionEvidence = none ∧ (attempt.state = .settled →
        attempt.evidenceRank.getD .three = .three → previous = evidence.totalTokens) := by
    rintro x rfl hx
    unfold answeredByCompletion at hx
    cases hprior : attempt.completionEvidence with
    | none =>
        rw [hprior] at hx
        exact ⟨rfl, (require_bind_eq_ok.1 hx).1⟩
    | some prior =>
        rw [hprior] at hx
        obtain ⟨_, -, hx⟩ := bind_eq_ok.1 hx
        obtain ⟨-, hx⟩ := require_bind_eq_ok.1 hx
        obtain ⟨-, hx⟩ := require_bind_eq_ok.1 hx
        obtain ⟨-, hx⟩ := require_bind_eq_ok.1 hx
        cases hx
  unfold answered at h
  split at h
  next hrej =>
    split at h
    next => cases h
    next hrank =>
      obtain ⟨hzero, h⟩ := require_bind_eq_ok.1 h
      cases hretained : attempt.rejectionEvidence with
      | none =>
          rw [hretained] at h
          obtain ⟨hnone, htotal⟩ := byCompletion h rfl
          exact ⟨hnone, fun _ hr => absurd hr hrank, fun _ _ => ⟨hzero, hretained⟩⟩
      | some retained =>
          rw [hretained] at h
          obtain ⟨-, h⟩ := check_bind_eq_ok.1 h
          obtain ⟨_, -, h⟩ := bind_eq_ok.1 h
          obtain ⟨-, h⟩ := require_bind_eq_ok.1 h
          cases h
  next hrej =>
    obtain ⟨hnone, htotal⟩ := byCompletion h rfl
    refine ⟨hnone, fun hs hr => ⟨?_, htotal hs hr⟩, fun hr hs => absurd ⟨hr, hs⟩ hrej⟩
    by_contra hne
    exact hrej ⟨hne, hs⟩

/-- The balances that a charge moved, in token mode. -/
theorem chargeSummary_tokens {summary charged : SummaryDocument} {attempt : AttemptDocument}
    {receipt : ReceiptFields} {counters : SummaryCounters} {evidence : Completion}
    {usd : Int × Int} {previous : Int} (hmode : summary.budgetMode = .tokens)
    (h : chargeSummary summary attempt receipt counters evidence usd previous = .ok charged) :
    ∃ confirmed active upper : Int,
      confirmed = counters.confirmedTokens + evidence.totalTokens - previous ∧
      active = counters.activeReservedTokens
        - (if attempt.state.active then receipt.reservedTokens else 0) ∧
      upper = counters.upperBoundTokens
        - (if attempt.state = .upperBound then receipt.reservedTokens else 0) ∧
      (0 ≤ counters.version + 1 ∧ counters.version + 1 ≤ maxTokens) ∧
      (0 ≤ confirmed ∧ confirmed ≤ maxTokens) ∧ (0 ≤ active ∧ active ≤ maxTokens) ∧
      (0 ≤ upper ∧ upper ≤ maxTokens) ∧
      charged = { summary with
        version := some (counters.version + 1)
        confirmedTokens := some confirmed
        activeReservedTokens := some active
        upperBoundTokens := some upper } := by
  unfold chargeSummary at h
  rw [hmode] at h
  simp only [check_bind_eq_ok, exactInteger_eq_ok, pure_eq, Except.ok.injEq] at h
  obtain ⟨hversion, hconfirmed, hactive, hupper, rfl⟩ := h
  exact ⟨_, _, _, rfl, rfl, rfl, hversion, hconfirmed, hactive, hupper, by rw [hmode]⟩

/-- The balances that a charge moved, in USD mode.  Fifty digits are enough for
the balances to be exact. -/
theorem chargeSummary_usd {summary charged : SummaryDocument} {attempt : AttemptDocument}
    {receipt : ReceiptFields} {counters : SummaryCounters} {evidence : Completion}
    {usd : Int × Int} {previous : Int} (hmode : summary.budgetMode = .usd)
    (hactual : UsdInRange usd.1) (hprevious : UsdInRange usd.2)
    (h : chargeSummary summary attempt receipt counters evidence usd previous = .ok charged) :
    ∃ held confirmed active upper : Int,
      attempt.reservedUsd = some held ∧
      confirmed = summary.confirmedUsd + usd.1 - usd.2 ∧
      active = summary.activeReservedUsd - (if attempt.state.active then held else 0) ∧
      upper = summary.upperBoundUsd - (if attempt.state = .upperBound then held else 0) ∧
      (0 ≤ counters.version + 1 ∧ counters.version + 1 ≤ maxTokens) ∧
      UsdInRange confirmed ∧ UsdInRange active ∧ UsdInRange upper ∧
      charged = { summary with
        version := some (counters.version + 1)
        confirmedUsd := confirmed
        activeReservedUsd := active
        upperBoundUsd := upper } := by
  unfold chargeSummary at h
  rw [hmode] at h
  simp only [exactInteger_eq_ok, chargeUsdBalances, bind_eq_ok,
    exactUsdField_eq_ok, exactUsdAmount_eq_ok, exists_const, pure_eq, Except.ok.injEq] at h
  obtain ⟨hversion, held, ⟨hheld, hheldRange⟩, hc, ha, hu, hconfirmed, hactive, hupper, rfl⟩ := h
  simp only [UsdInRange, usdBound] at hactual hprevious hheldRange hc ha hu
  have hsum : localContext.add summary.confirmedUsd usd.1 = summary.confirmedUsd + usd.1 :=
    (localContext_exact (by simp only [usdBound]; omega) (by simp only [usdBound]; omega)).add
  have hdiff : localContext.sub (summary.confirmedUsd + usd.1) usd.2
      = summary.confirmedUsd + usd.1 - usd.2 :=
    (localContext_exact (by simp only [usdBound]; omega) (by simp only [usdBound]; omega)).sub
  have hsub : ∀ balance : Int, 0 ≤ balance → balance < 10 ^ 30 → ∀ (p : Prop) [Decidable p],
      localContext.sub balance (if p then held else 0) = balance - (if p then held else 0) := by
    intro balance h0 h1 p _
    refine (localContext_exact ?_ ?_).sub <;> simp only [usdBound] <;> split <;> omega
  rw [hsum, hdiff] at hconfirmed ⊢
  rw [hsub _ ha.1 ha.2] at hactive ⊢
  rw [hsub _ hu.1 hu.2] at hupper ⊢
  exact ⟨held, _, _, _, hheld, rfl, rfl, rfl, hversion, hconfirmed, hactive, hupper, by rw [hmode]⟩

/-- A charge gives the summary its next version. -/
theorem chargeSummary_version {summary charged : SummaryDocument} {attempt : AttemptDocument}
    {receipt : ReceiptFields} {counters : SummaryCounters} {evidence : Completion}
    {usd : Int × Int} {previous : Int}
    (h : chargeSummary summary attempt receipt counters evidence usd previous = .ok charged) :
    charged.version = some (counters.version + 1) := by
  unfold chargeSummary at h
  obtain ⟨-, h⟩ := check_bind_eq_ok.1 h
  cases hmode : summary.budgetMode with
  | tokens =>
      simp only [hmode, check_bind_eq_ok, pure_eq, Except.ok.injEq] at h
      obtain ⟨-, -, -, rfl⟩ := h
      rfl
  | usd =>
      simp only [hmode, chargeUsdBalances, bind_eq_ok, pure_eq, Except.ok.injEq] at h
      obtain ⟨_, -, _, -, _, -, _, -, _, -, _, -, _, -, rfl⟩ := h
      rfl

/-- The attempt that a charge wrote. -/
theorem chargeAttempt_eq_ok {attempt settled : AttemptDocument} {mode : BudgetMode}
    {evidence : Completion} {usd : Int × Int} {updatedAt : Int}
    (h : chargeAttempt attempt mode evidence usd updatedAt = .ok settled) :
    ∃ revision : Int, attempt.evidenceRevision = some revision ∧ 0 ≤ revision ∧
      settled = { attempt with
        state := .settled
        actualTokens := some evidence.totalTokens
        actualUsd := if mode = .usd then some usd.1 else attempt.actualUsd
        evidenceRevision := some (max revision 1)
        evidenceKey := settled.evidenceKey
        evidenceRank := if evidence.rejection = none then some .three else some .two
        completionEvidence :=
          if evidence.rejection = none then some (.record evidence) else attempt.completionEvidence
        rejectionEvidence :=
          if evidence.rejection = none then attempt.rejectionEvidence else some (.record evidence)
        updatedAt := updatedAt } ∧
      settled.evidenceKey ≠ none ∧ ∀ key ∈ settled.evidenceKey, key.fits = true := by
  obtain ⟨revision, hrev, h⟩ := bind_eq_ok.1 h
  obtain ⟨hrev, hpos, -⟩ := exactKey_eq_ok.1 hrev
  refine ⟨revision, hrev, hpos, ?_⟩
  by_cases hnone : evidence.rejection = none
  · rw [if_pos hnone, pure_eq, Except.ok.injEq] at h
    subst h
    simp [hnone, EvidenceKey.fits]
  · rw [if_neg hnone, pure_eq, Except.ok.injEq] at h
    subst h
    simp [hnone, EvidenceKey.fits]

/-- The price of a completion, in token mode. -/
theorem priceCompletion_tokens {attempt : AttemptDocument} {receipt : ReceiptFields}
    {identity : LedgerAttemptIdentity} {evidence : Completion} {usd : Int × Int}
    (h : priceCompletion attempt receipt identity evidence .tokens = .ok usd) : usd = (0, 0) := by
  cases h
  rfl

/-- The price of a completion, in USD mode. -/
theorem priceCompletion_usd {attempt : AttemptDocument} {receipt : ReceiptFields}
    {identity : LedgerAttemptIdentity} {evidence : Completion} {usd : Int × Int} :
    priceCompletion attempt receipt identity evidence .usd = .ok usd ↔
      ∃ projection held, attempt.priceSnapshot = some projection ∧
        attempt.reservedUsd = some held ∧ UsdInRange held ∧
        Text.ofUuid projection.modelId = identity.modelId ∧
        receipt.budgetMode = .usd ∧ receipt.priceSnapshot = some projection ∧
        receipt.reservedUsd = some held ∧
        usdCompletionCharge projection evidence.toUsageCounters = .ok usd.1 ∧
        (attempt.state = .settled → attempt.actualUsd = some usd.2 ∧ UsdInRange usd.2) ∧
        (attempt.state ≠ .settled → usd.2 = 0) := by
  constructor
  · intro h
    unfold priceCompletion at h
    simp only at h
    split at h
    next => cases h
    next projection hproj =>
      obtain ⟨hmodel, h⟩ := require_bind_eq_ok.1 h
      obtain ⟨held, hheld, h⟩ := bind_eq_ok.1 h
      obtain ⟨⟨hrmode, hrprice⟩, h⟩ := require_bind_eq_ok.1 h
      obtain ⟨rheld, hrheld, h⟩ := bind_eq_ok.1 h
      obtain ⟨hsame, h⟩ := require_bind_eq_ok.1 h
      obtain ⟨actual, hactual, h⟩ := bind_eq_ok.1 h
      obtain ⟨hheld, hrange⟩ := exactUsdField_eq_ok.1 hheld
      obtain ⟨hrheld, -⟩ := exactUsdField_eq_ok.1 hrheld
      rw [hsame] at hrheld
      refine ⟨projection, held, hproj, hheld, hrange, hmodel, hrmode, hrprice, hrheld, ?_⟩
      split at h
      next hs =>
        obtain ⟨previous, hprevious, h⟩ := bind_eq_ok.1 h
        cases h
        exact ⟨hactual, fun _ => exactUsdField_eq_ok.1 hprevious, fun hne => absurd hs hne⟩
      next hs =>
        cases h
        exact ⟨hactual, fun hs' => absurd hs' hs, fun _ => rfl⟩
  · rintro ⟨projection, held, hproj, hheld, hrange, hmodel, hrmode, hrprice, hrheld,
      hactual, hs, hns⟩
    unfold priceCompletion
    simp only [hproj]
    refine require_bind_eq_ok.2
      ⟨hmodel, bind_eq_ok.2 ⟨held, exactUsdField_eq_ok.2 ⟨hheld, hrange⟩, ?_⟩⟩
    refine require_bind_eq_ok.2 ⟨⟨hrmode, hrprice⟩, ?_⟩
    refine bind_eq_ok.2 ⟨held, exactUsdField_eq_ok.2 ⟨hrheld, hrange⟩, ?_⟩
    refine require_bind_eq_ok.2 ⟨rfl, bind_eq_ok.2 ⟨usd.1, hactual, ?_⟩⟩
    split
    next hstate => exact bind_eq_ok.2 ⟨usd.2, exactUsdField_eq_ok.2 (hs hstate), rfl⟩
    next hstate => rw [pure_eq, ← hns hstate]

/-- The two amounts of a priced completion are amounts of `NUMERIC(30,14)`. -/
theorem CompletionAdmitted.usd_inRange {summary : SummaryDocument} {attempt : AttemptDocument}
    {receipt : ReceiptFields} {evidence : Completion} {usd : Int × Int}
    (h : CompletionAdmitted summary attempt receipt evidence usd) :
    UsdInRange usd.1 ∧ UsdInRange usd.2 := by
  have hpriced := h.priced
  cases hmode : summary.budgetMode with
  | tokens =>
      rw [hmode] at hpriced
      rw [priceCompletion_tokens hpriced]
      decide
  | usd =>
      rw [hmode] at hpriced
      obtain ⟨_, _, -, -, -, -, -, -, -, hactual, hs, hns⟩ := priceCompletion_usd.1 hpriced
      refine ⟨usdCompletionCharge_inRange hactual, ?_⟩
      by_cases hstate : attempt.state = .settled
      · exact (hs hstate).2
      · rw [hns hstate]
        decide

end Turnstile
