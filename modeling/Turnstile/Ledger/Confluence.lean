import Turnstile.Ledger.Conservation

/-!
# Settlement is confluent

The evidence about an attempt reaches the ledger on two paths: as durable tasks,
of rank 2 when the gateway saw the request end and of rank 3 when its usage is
known, and as completions that the Observer writes itself.  Deliveries are
repeated, late, and in any order.

What an attempt holds after some deliveries depends only on the greatest rank
among those that returned (`Stage`).  One delivery takes the stage to the join of
its rank with the delivery's (`Delivers.stage`), and the balances follow the
attempt's share, so they depend on that rank alone.  A delivery that is not late and
whose numbers are in range returns at every stage (`Stage.returns`).
-/

namespace Turnstile

open Guard

/-- The greater of two ranks. -/
def EvidenceRank.join (r d : EvidenceRank) : EvidenceRank :=
  if r.value ≤ d.value then d else r

theorem EvidenceRank.join_three (r : EvidenceRank) : r.join .three = .three := by
  cases r <;> rfl

/-! ## Errors that do not depend on the order -/

/-- The update came before the documents' last times. -/
def LedgerError.Untimely (e : LedgerError) : Prop :=
  e = .protocolConflict "Ledger updates require nondecreasing aware timestamps" ∨
    e = .invalidModel "Attempt update cannot precede admission"

/-- A number is above the range it is kept in. -/
def LedgerError.OutOfRange : LedgerError → Prop
  | .tooLarge _ => True
  | .notExactInteger _ value => maxTokens < value
  | .conflictFrom cause => cause.OutOfRange
  | _ => False

/-- The update is late: its time is before the summary's last one or the admission. -/
def Late (summary : LedgerSummary) (attempt : LedgerAttempt) (now : Int) : Prop :=
  now < summary.updatedAt ∨ now < attempt.identity.admittedAt

/-- The clock stopped the update, which was late, or the range of its numbers, which do
not fit. -/
def Unordered (late unfit : Prop) (e : LedgerError) : Prop :=
  (e.Untimely ∧ late) ∨ (e.OutOfRange ∧ unfit)

/-- The range stopped the update, which does not fit. -/
def Overflow (unfit : Prop) (e : LedgerError) : Prop := e.OutOfRange ∧ unfit

/-- A check of a value that is not negative fails on the range. -/
theorem overflow_exactInteger {field : String} {value : Int} {unfit : Prop} (h : 0 ≤ value)
    (hfits : ¬unfit → value ≤ maxTokens) : Raises (Overflow unfit) (exactInteger field value) := by
  refine raises_require.2 fun hne => ?_
  simp only [not_and_or, not_le] at hne
  have hlarge := hne.resolve_left (by omega)
  exact ⟨hlarge, by_contra fun hfit => absurd (hfits hfit) (not_le.2 hlarge)⟩

theorem overflow_exactKey {field : String} {value : Int} {unfit : Prop} (h : 0 ≤ value)
    (hfits : ¬unfit → value ≤ maxTokens) :
    Raises (Overflow unfit) (exactKey field (some value)) :=
  raises_bind.2 ⟨overflow_exactInteger h hfits, fun _ _ => raises_ok _⟩

theorem unordered_tokenField {field : String} {value : Int} {late unfit : Prop} (h : 0 ≤ value)
    (hfits : ¬unfit → value ≤ maxTokens) :
    Raises (Unordered late unfit) (tokenField field 0 value) := by
  refine raises_bind.2 ⟨raises_require.2 fun hne => absurd h hne, fun _ _ => ?_⟩
  exact raises_require.2 fun hne => .inr ⟨trivial, by_contra fun hfit => hne (hfits hfit)⟩

/-- A summary with valid terms whose counters are not negative. -/
theorem unordered_advanceSummary {summary : LedgerSummary} {now : Int} {updates : SummaryFields}
    {late unfit : Prop} (hlate : now < summary.updatedAt → late)
    (hmode : summary.budgetMode = .tokens)
    (hterms : KeepsTerms summary.toSummaryFields updates) (hc : 0 ≤ updates.confirmedTokens)
    (ha : 0 ≤ updates.activeReservedTokens) (hu : 0 ≤ updates.upperBoundTokens)
    (hc' : ¬unfit → updates.confirmedTokens ≤ maxTokens)
    (ha' : updates.activeReservedTokens ≤ maxTokens)
    (hu' : updates.upperBoundTokens ≤ maxTokens)
    (husd : updates.confirmedUsd = 0 ∧ updates.activeReservedUsd = 0 ∧
      updates.upperBoundUsd = 0) :
    Raises (Unordered late unfit) (advanceSummary summary now updates) := by
  have hvalid := summary.isValid
  have hm : updates.budgetMode = .tokens := hterms.budgetMode.trans hmode
  have hlimit : updates.usdLimit = none := hterms.usdLimit.trans (hvalid.tokenMode hmode)
  have hversion : 0 ≤ summary.version + 1 := by
    have := hvalid.version
    omega
  have hrevision : 0 ≤ updates.policyRevision := hterms.policyRevision ▸ hvalid.policyRevision
  have htokens : 0 ≤ updates.tokenLimit ∧ updates.tokenLimit ≤ maxTokens :=
    hterms.tokenLimit ▸ hvalid.tokenLimit
  refine raises_bind.2 ⟨raises_require.2 fun h => .inl ⟨.inl rfl, hlate (by omega)⟩, fun _ _ => ?_⟩
  intro e he
  rw [LedgerSummary.modelValidate_eq_error] at he
  revert e
  change Raises (Unordered late unfit) _
  have hconfirmed : Raises (Unordered late unfit)
      (tokenField "confirmed_tokens" 0 updates.confirmedTokens) := unordered_tokenField hc hc'
  simp [SummaryFields.validate, usdField, hversion, hrevision, hlimit, hm, husd, usdBound,
    hconfirmed, unordered_tokenField htokens.1 fun _ => htokens.2,
    unordered_tokenField ha fun _ => ha', unordered_tokenField hu fun _ => hu']

/-! ## What is delivered -/

/-- The evidence that is delivered about one attempt. -/
structure Evidence where
  /-- The rank-2 task. -/
  task : LedgerCharge
  /-- The rank-3 task. -/
  usage : LedgerCharge
  /-- The admission receipt that completions carry. -/
  receipt : LedgerAdmissionReceipt
  /-- The five counters of every completion. -/
  counters : UsageCounters × Int

/-- A task charges this attempt. -/
structure Charges (charge : LedgerCharge) (a : AttemptFields) : Prop where
  identity : charge.identity = a.identity
  epoch : charge.epoch = a.epoch
  mode : charge.budgetMode = .tokens
  resolution : charge.resolutionEvidence = none

/-- The evidence is about this attempt, and all complete evidence has one total. -/
structure Evidence.About (e : Evidence) (a : AttemptFields) : Prop where
  task : Charges e.task a
  taskRank : e.task.evidenceRank = .two
  taskRevision : e.task.revision = 1
  usage : Charges e.usage a
  usageRank : e.usage.evidenceRank = .three
  usageRevision : 1 < e.usage.revision
  total : e.usage.totalTokens = e.counters.2
  receipt : e.receipt.toReceiptFields = a.receipt

inductive Delivery where
  | task
  | usage
  | completion (c : Completion)

namespace Delivery

def rank : Delivery → EvidenceRank
  | .task => .two
  | .usage | .completion _ => .three

/-- The delivery is of this evidence: a completion is complete usage of the
attempt, with the counters that all completions have. -/
def Of (e : Evidence) (a : AttemptFields) : Delivery → Prop
  | .task | .usage => True
  | .completion c => c.Valid ∧ c.rejection = none ∧ c.counters = e.counters ∧
      a.identity.admittedAt ≤ c.observedAt ∧ normalizedIdentity a.identity = .ok a.identity

/-- One delivery, on the path it takes. -/
def deliver (e : Evidence) (d : Delivery) (now : Int) (summary : LedgerSummary)
    (attempt : LedgerAttempt) : Except LedgerError (LedgerSummary × LedgerAttempt) :=
  match d with
  | .task => settleLedger summary attempt e.task now
  | .usage => settleLedger summary attempt e.usage now
  | .completion c => completeLedger summary attempt e.receipt (.record c) now

end Delivery

/-- The charge fits into the confirmed tokens. -/
def Charged (total : Int) (summary : LedgerSummary) (attempt : LedgerAttempt) : Prop :=
  summary.confirmedTokens + total - attempt.actual .tokens ≤ maxTokens

namespace Delivery

/-- A task is late by its time; a completion takes the latest of the three. -/
def Late (summary : LedgerSummary) (attempt : LedgerAttempt) (now : Int) : Delivery → Prop
  | .completion _ => False
  | _ => Turnstile.Late summary attempt now

/-- The numbers that the delivery writes are in range, and those that a completion reads. -/
def InRange (e : Evidence) (summary : LedgerSummary) (attempt : LedgerAttempt) : Delivery → Prop
  | .task => Charged e.task.totalTokens summary attempt
  | .usage => Charged e.usage.totalTokens summary attempt
  | .completion c => summary.version < maxTokens ∧ summary.policyRevision ≤ maxTokens ∧
      attempt.evidenceRevision ≤ maxTokens ∧ Charged c.totalTokens summary attempt

end Delivery

/-- A run of deliveries, any of which may raise, with the greatest rank of those
that returned. -/
inductive Delivers (e : Evidence) (summary₀ : LedgerSummary) (attempt₀ : LedgerAttempt) :
    EvidenceRank → LedgerSummary → LedgerAttempt → Prop where
  | start : Delivers e summary₀ attempt₀ .zero summary₀ attempt₀
  | delivered {r summary attempt summary' attempt'} (d : Delivery) (now : Int) :
      Delivers e summary₀ attempt₀ r summary attempt → d.Of e attempt₀.toAttemptFields →
      d.deliver e now summary attempt = .ok (summary', attempt') →
      Delivers e summary₀ attempt₀ (r.join d.rank) summary' attempt'
  | raised {r summary attempt} (d : Delivery) (now : Int) (error : LedgerError) :
      Delivers e summary₀ attempt₀ r summary attempt → d.Of e attempt₀.toAttemptFields →
      d.deliver e now summary attempt = .error error →
      Delivers e summary₀ attempt₀ r summary attempt

/-! ## Stages -/

/-- What an attempt holds when evidence up to some rank was recorded. -/
inductive Holds (e : Evidence) (a : AttemptFields) : EvidenceRank → Prop where
  | nothing : a.state ≠ .settled → a.state ≠ .released → Unevidenced a → Holds e a .zero
  | task : a.state = .settled → a.actualTokens = some e.task.totalTokens →
      a.evidenceRank = .two → a.evidenceRevision = 1 → a.evidenceKey = some e.task.evidenceKey →
      a.completionEvidence = none → Holds e a .two
  | usage : a.state = .settled → a.actualTokens = some e.counters.2 → a.evidenceRank = .three →
      a.evidenceRevision = e.usage.revision → a.evidenceKey = some e.usage.evidenceKey →
      a.completionEvidence = none → Holds e a .three
  | completion (c : Completion) : a.state = .settled → a.actualTokens = some e.counters.2 →
      a.evidenceRank = .three → a.completionEvidence = some (.record c) → c.Valid →
      c.counters = e.counters → Holds e a .three

/-- The attempt is the one the deliveries are about, and holds evidence up to
rank `r`; what it is charged or holds is in the summary's counters. -/
structure Stage (e : Evidence) (summary₀ : LedgerSummary) (attempt₀ : LedgerAttempt)
    (r : EvidenceRank) (summary : LedgerSummary) (attempt : LedgerAttempt) : Prop where
  identity : attempt.identity = attempt₀.identity
  epoch : attempt.epoch = attempt₀.epoch
  reserved : attempt.reservedTokens = attempt₀.reservedTokens
  mode : attempt.budgetMode = .tokens
  rejection : attempt.rejectionEvidence = none
  resolution : attempt.resolutionEvidence = none
  holds : Holds e attempt.toAttemptFields r
  terms : KeepsTerms summary₀.toSummaryFields summary.toSummaryFields
  balances : ∀ c, summary.balance .tokens c
    = summary₀.balance .tokens c - attempt₀.share .tokens c + attempt.share .tokens c

theorem Holds.rank {e : Evidence} {a : AttemptFields} {r : EvidenceRank} (h : Holds e a r) :
    a.evidenceRank = r := by
  cases h with
  | nothing _ _ hfresh => exact hfresh.rank
  | task _ _ hrank => exact hrank
  | usage _ _ hrank => exact hrank
  | completion _ _ _ hrank => exact hrank

section Steps

variable {e : Evidence} {summary₀ summary summary' : LedgerSummary}
  {attempt₀ attempt attempt' : LedgerAttempt} {r : EvidenceRank} {now : Int}

/-- A charge is answered exactly when evidence of its rank was recorded. -/
theorem settlementAnswered_task (habout : e.About attempt₀.toAttemptFields)
    (hstage : Stage e summary₀ attempt₀ r summary attempt) :
    settlementAnswered attempt e.task = .ok (decide (r ≠ .zero)) := by
  have hrank := habout.taskRank
  have hrevision := habout.taskRevision
  have hresolution := hstage.resolution
  have hrejection := hstage.rejection
  cases hstage.holds with
  | nothing _ _ hfresh =>
      simp [settlementAnswered, hfresh.completion, hfresh.rank, hrank, hresolution, hrejection,
        EvidenceRank.value]
  | task _ hactual hr hrev hkey hcompletion =>
      simp [settlementAnswered, hcompletion, hr, hrank, hresolution, hrejection, hrevision, hrev,
        hactual, hkey, EvidenceRank.value, require]
  | usage _ _ hr _ _ hcompletion =>
      simp [settlementAnswered, hcompletion, hr, hrank, EvidenceRank.value]
  | completion _ _ _ hr hcompletion =>
      simp [settlementAnswered, hcompletion, hrank, require]

theorem settlementAnswered_usage (habout : e.About attempt₀.toAttemptFields)
    (hstage : Stage e summary₀ attempt₀ r summary attempt) :
    settlementAnswered attempt e.usage = .ok (decide (r = .three)) := by
  have hrank := habout.usageRank
  have htotal := habout.total
  have hresolution := hstage.resolution
  have hrejection := hstage.rejection
  cases hstage.holds with
  | nothing _ _ hfresh =>
      simp [settlementAnswered, hfresh.completion, hfresh.rank, hrank, hresolution, hrejection,
        EvidenceRank.value]
  | task _ _ hr _ _ hcompletion =>
      simp [settlementAnswered, hcompletion, hr, hrank, hresolution, hrejection,
        EvidenceRank.value]
  | usage _ hactual hr hrev hkey hcompletion =>
      simp [settlementAnswered, hcompletion, hr, hrank, hresolution, hrejection, hrev, hactual,
        hkey, htotal, EvidenceRank.value, require]
  | completion _ _ hactual hr hcompletion =>
      simp [settlementAnswered, hcompletion, hrank, hactual, htotal, require]

/-- Where the deliveries start: an attempt of a token scope, within its counters. -/
structure Starts (summary₀ : LedgerSummary) (attempt₀ : LedgerAttempt) : Prop where
  mode : summary₀.budgetMode = .tokens
  attemptMode : attempt₀.budgetMode = .tokens
  coherent : Coherent summary₀.toSummaryFields attempt₀.toAttemptFields
  within : Within summary₀ attempt₀

theorem Stage.summaryMode (hstage : Stage e summary₀ attempt₀ r summary attempt)
    (hstart : Starts summary₀ attempt₀) : summary.budgetMode = .tokens :=
  hstage.terms.budgetMode.trans hstart.mode

theorem Stage.within (hstage : Stage e summary₀ attempt₀ r summary attempt)
    (hstart : Starts summary₀ attempt₀) : Within summary attempt := by
  intro c
  have hbalance := hstage.balances c
  have hwithin := hstart.within c
  omega

/-- A task either finds its evidence recorded or is recorded. -/
theorem settleLedger_of_stage {charge : LedgerCharge} {answered : Bool}
    (hstart : Starts summary₀ attempt₀)
    (hstage : Stage e summary₀ attempt₀ r summary attempt)
    (hcharge : Charges charge attempt₀.toAttemptFields)
    (hanswered : settlementAnswered attempt charge = .ok answered) :
    settleLedger summary attempt charge now =
      if answered then .ok (summary, attempt) else recordSettlement summary attempt charge now := by
  have hmode := hstage.summaryMode hstart
  have hepoch : attempt.epoch = summary.epoch := by
    rw [hstage.epoch, hstage.terms.epoch, hstart.coherent.epoch]
  have hcepoch : charge.epoch = summary.epoch := by
    rw [hcharge.epoch, hstage.terms.epoch, hstart.coherent.epoch]
  have hidentity : attempt.identity = charge.identity :=
    hstage.identity.trans hcharge.identity.symm
  have hscope : attempt.identity.scope = summary.scope := by
    rw [hstage.identity, hstage.terms.scope, hstart.coherent.scope]
  have husd : summary.budgetMode ≠ .usd := by
    rw [hmode]
    exact BudgetMode.noConfusion
  unfold settleLedger
  rw [hcharge.resolution]
  simp only
  rw [require_bind_of ⟨hepoch, hcepoch, hidentity, hscope⟩,
    if_neg (fun h => h.1 (hmode.trans hstage.mode.symm)),
    require_bind_of ⟨hstage.mode.trans hmode.symm, hcharge.mode.trans hmode.symm⟩,
    require_bind_of (fun h => absurd h husd), require_bind_of (fun h => absurd h husd),
    hanswered, ok_bind]
  cases answered <;> rfl

/-- What is recorded of a charge is a valid attempt, if its time is right. -/
theorem unordered_recorded (charge : LedgerCharge) (time : Int) {fields : AttemptFields}
    {late unfit : Prop} (hlate : time < attempt.identity.admittedAt → late)
    (hmode : attempt.budgetMode = .tokens) (hrejection : attempt.rejectionEvidence = none)
    (hresolution : attempt.resolutionEvidence = none)
    (hcompletion : attempt.completionEvidence = none)
    (hfields : fields = { attempt.toAttemptFields with
      state := .settled
      actualTokens := some charge.totalTokens
      evidenceRank := charge.evidenceRank
      evidenceRevision := max charge.revision attempt.evidenceRevision
      evidenceKey := some charge.evidenceKey
      updatedAt := time }) :
    Raises (Unordered late unfit) (LedgerAttempt.modelValidate fields) := by
  intro error he
  rw [LedgerAttempt.modelValidate_eq_error] at he
  revert error
  change Raises (Unordered late unfit) _
  have hvalid := attempt.isValid
  have hcharge := charge.isValid
  obtain ⟨hr, ha, hp, het⟩ := hvalid.tokens hmode
  have hpolicy : fields.validateRetainedPolicy = .ok () := by
    rw [hfields]
    exact hvalid.policy
  have hreserved := hvalid.reservedTokens
  have htotal := hcharge.totalTokens
  have hrevision := hcharge.revision
  have hmax : 0 < max charge.revision attempt.evidenceRevision := by omega
  have hmax' : 0 ≤ max charge.revision attempt.evidenceRevision := by omega
  have hmax'' : max charge.revision attempt.evidenceRevision ≠ 0 := by omega
  simp only [AttemptFields.validate, raises_bind, hpolicy, raises_ok, true_and]
  simp [hfields, tokenField, hr, ha, hp, het, hmode, hresolution, hrejection, hcompletion,
    AttemptFields.etagField, AttemptFields.validateRetainedResolution,
    AttemptFields.validateRetainedRejection, AttemptFields.validateRetainedCompletion,
    usdField, hreserved, htotal, hcharge.evidenceKey, hmax, hmax', hmax'']
  intro _ _ hlt
  exact .inl ⟨.inr rfl, hlate hlt⟩

/-- Recording a charge fails on the clock or on the range. -/
theorem unordered_recordSettlement {charge : LedgerCharge}
    (hstart : Starts summary₀ attempt₀)
    (hstage : Stage e summary₀ attempt₀ r summary attempt)
    (hcompletion : attempt.completionEvidence = none) :
    Raises (Unordered (Late summary attempt now) (¬Charged charge.totalTokens summary attempt))
      (recordSettlement summary attempt charge now) := by
  have hmode := hstage.summaryMode hstart
  have hwithin := hstage.within hstart
  have hamode := hstage.mode
  obtain ⟨husd, -, -, -⟩ := attempt.isValid.tokens hamode
  obtain ⟨hzero, hzero', hzero''⟩ := summary.isValid.tokenBalances hmode
  have hactive := summary.isValid.activeReservedTokens
  have hupper := summary.isValid.upperBoundTokens
  have hreserved := attempt.isValid.reservedTokens.1
  have htotal := charge.isValid.totalTokens.1
  have hcharged := hwithin.confirmed hamode
  have hsub : defaultContext.sub 0 0 = 0 := by decide
  have hactive' : 0 ≤ (chargedFields summary attempt charge).activeReservedTokens ∧
      (chargedFields summary attempt charge).activeReservedTokens ≤ maxTokens := by
    simp only [chargedFields, hamode, true_and]
    split
    next hstate =>
      have := hwithin.active hstate
      omega
    next => omega
  have hupper' : 0 ≤ (chargedFields summary attempt charge).upperBoundTokens ∧
      (chargedFields summary attempt charge).upperBoundTokens ≤ maxTokens := by
    simp only [chargedFields, hamode, true_and]
    split
    next hstate =>
      have := hwithin.upper hstate
      omega
    next => omega
  refine raises_bind.2 ⟨?_, fun _ _ => raises_bind.2 ⟨?_, fun _ _ => raises_ok _⟩⟩
  · refine unordered_advanceSummary .inl hmode ⟨rfl, rfl, rfl, rfl, rfl, rfl, rfl, rfl, rfl⟩ ?_
      hactive'.1 hupper'.1 (fun hfits => ?_) hactive'.2 hupper'.2 ?_
    · simp only [chargedFields, hmode, if_true, AttemptFields.actual] at hcharged ⊢
      omega
    · have hfits := not_not.1 hfits
      simp only [chargedFields, hmode, if_true, Charged, AttemptFields.actual] at hfits ⊢
      omega
    · simp [chargedFields, hmode, husd, hzero, hzero', hzero'', hsub]
  · refine unordered_recorded charge now .inr hamode hstage.rejection hstage.resolution
      hcompletion ?_
    rw [if_neg (by rw [hmode]; exact BudgetMode.noConfusion)]

/-- A task is recorded, found recorded, or fails on the clock or the range. -/
theorem unordered_settleLedger {charge : LedgerCharge} {answered : Bool}
    (hstart : Starts summary₀ attempt₀)
    (hstage : Stage e summary₀ attempt₀ r summary attempt)
    (hcharge : Charges charge attempt₀.toAttemptFields)
    (hanswered : settlementAnswered attempt charge = .ok answered)
    (hcompletion : answered = false → attempt.completionEvidence = none) :
    Raises (Unordered (Late summary attempt now) (¬Charged charge.totalTokens summary attempt))
      (settleLedger summary attempt charge now) := by
  rw [settleLedger_of_stage hstart hstage hcharge hanswered]
  cases answered with
  | true => exact raises_ok _
  | false => exact unordered_recordSettlement hstart hstage (hcompletion rfl)

/-- The attempt that a recorded charge leaves, with the balances that follow it. -/
theorem Stage.recorded {charge : LedgerCharge} {d : EvidenceRank}
    (hstart : Starts summary₀ attempt₀)
    (hstage : Stage e summary₀ attempt₀ r summary attempt)
    (hcharge : Charges charge attempt₀.toAttemptFields)
    (hanswered : settlementAnswered attempt charge = .ok false)
    (hsettle : settleLedger summary attempt charge now = .ok (summary', attempt'))
    (hholds : attempt'.toAttemptFields = { attempt.toAttemptFields with
        state := .settled
        actualTokens := some charge.totalTokens
        evidenceRank := charge.evidenceRank
        evidenceRevision := max charge.revision attempt.evidenceRevision
        evidenceKey := some charge.evidenceKey
        updatedAt := now } → Holds e attempt'.toAttemptFields d) :
    Stage e summary₀ attempt₀ d summary' attempt' := by
  have hmode := hstage.summaryMode hstart
  have hresult := settleLedger_result hsettle
  have hterms := hresult.keepsTerms
  have hbalances : ∀ c, summary'.balance .tokens c
      = summary₀.balance .tokens c - attempt₀.share .tokens c + attempt'.share .tokens c := by
    intro c
    have hbalance := hstage.balances c
    have hexact : BudgetMode.tokens = .usd → ExactSum summary.toSummaryFields (some attempt) c
        (.settle attempt.identity.attemptKey charge) := fun h => BudgetMode.noConfusion h
    have hmove := hresult.moves hmode hexact
    rw [Moves, Store.share_some] at hmove
    omega
  cases hresult with
  | resolved _ hres =>
      rw [hcharge.resolution] at hres
      cases hres
  | late _ hlate => exact absurd (hmode.trans hstage.mode.symm) hlate
  | answered _ _ hdone =>
      rw [hanswered] at hdone
      cases hdone
  | charged _ _ _ _ _ ha =>
      rw [if_neg (by rw [hmode]; exact BudgetMode.noConfusion)] at ha
      have hheld := hholds ha
      refine ⟨?_, ?_, ?_, ?_, ?_, ?_, hheld, hstage.terms.trans hterms, hbalances⟩
      · rw [ha]
        exact hstage.identity
      · rw [ha]
        exact hstage.epoch
      · rw [ha]
        exact hstage.reserved
      · rw [ha]
        exact hstage.mode
      · rw [ha]
        exact hstage.rejection
      · rw [ha]
        exact hstage.resolution

/-! ## The rank-2 task -/

theorem unordered_task (hstart : Starts summary₀ attempt₀)
    (habout : e.About attempt₀.toAttemptFields)
    (hstage : Stage e summary₀ attempt₀ r summary attempt) :
    Raises (Unordered (Late summary attempt now) (¬Charged e.task.totalTokens summary attempt))
      (settleLedger summary attempt e.task now) := by
  refine unordered_settleLedger hstart hstage habout.task
    (settlementAnswered_task habout hstage) fun h => ?_
  cases hstage.holds with
  | nothing _ _ hfresh => exact hfresh.completion
  | _ => simp at h

theorem Stage.task (hstart : Starts summary₀ attempt₀)
    (habout : e.About attempt₀.toAttemptFields)
    (hstage : Stage e summary₀ attempt₀ r summary attempt)
    (hsettle : settleLedger summary attempt e.task now = .ok (summary', attempt')) :
    Stage e summary₀ attempt₀ (r.join .two) summary' attempt' := by
  have hanswered := settlementAnswered_task habout hstage
  cases r with
  | zero =>
      refine hstage.recorded hstart habout.task hanswered hsettle fun ha => ?_
      cases hstage.holds with
      | nothing _ _ hfresh =>
          rw [ha]
          refine .task rfl rfl habout.taskRank ?_ rfl hfresh.completion
          simp [habout.taskRevision, hfresh.revision]
  | two =>
      rw [settleLedger_of_stage hstart hstage habout.task hanswered] at hsettle
      cases hsettle
      exact hstage
  | three =>
      rw [settleLedger_of_stage hstart hstage habout.task hanswered] at hsettle
      cases hsettle
      exact hstage

/-! ## The rank-3 task -/

theorem unordered_usage (hstart : Starts summary₀ attempt₀)
    (habout : e.About attempt₀.toAttemptFields)
    (hstage : Stage e summary₀ attempt₀ r summary attempt) :
    Raises (Unordered (Late summary attempt now) (¬Charged e.usage.totalTokens summary attempt))
      (settleLedger summary attempt e.usage now) := by
  refine unordered_settleLedger hstart hstage habout.usage
    (settlementAnswered_usage habout hstage) fun h => ?_
  cases hstage.holds with
  | nothing _ _ hfresh => exact hfresh.completion
  | task _ _ _ _ _ hcompletion => exact hcompletion
  | _ => simp at h

theorem Stage.usage (hstart : Starts summary₀ attempt₀)
    (habout : e.About attempt₀.toAttemptFields)
    (hstage : Stage e summary₀ attempt₀ r summary attempt)
    (hsettle : settleLedger summary attempt e.usage now = .ok (summary', attempt')) :
    Stage e summary₀ attempt₀ (r.join .three) summary' attempt' := by
  have hanswered := settlementAnswered_usage habout hstage
  have hrevision := habout.usageRevision
  have htotal := congrArg some habout.total
  cases r with
  | zero =>
      refine hstage.recorded hstart habout.usage hanswered hsettle fun ha => ?_
      cases hstage.holds with
      | nothing _ _ hfresh =>
          rw [ha]
          refine .usage rfl htotal habout.usageRank ?_ rfl hfresh.completion
          have hzero := hfresh.revision
          simp only
          omega
  | two =>
      refine hstage.recorded hstart habout.usage hanswered hsettle fun ha => ?_
      cases hstage.holds with
      | task _ _ _ hone _ hcompletion =>
          rw [ha]
          refine .usage rfl htotal habout.usageRank ?_ rfl hcompletion
          simp only
          omega
  | three =>
      rw [settleLedger_of_stage hstart hstage habout.usage hanswered] at hsettle
      cases hsettle
      exact hstage

/-! ## Completions -/

variable {c : Completion}

theorem Stage.admitted (hstart : Starts summary₀ attempt₀)
    (habout : e.About attempt₀.toAttemptFields)
    (hstage : Stage e summary₀ attempt₀ r summary attempt)
    (hof : (Delivery.completion c).Of e attempt₀.toAttemptFields) :
    CompletionAdmitted summary.dump attempt.dump e.receipt.toReceiptFields c (0, 0) := by
  obtain ⟨-, hrejection, -, hobserved, hnormalized⟩ := hof
  have hidentity : e.receipt.identity = attempt₀.identity := by rw [habout.receipt]; rfl
  have hepoch : e.receipt.epoch = attempt₀.epoch := by rw [habout.receipt]; rfl
  have hreserved : e.receipt.reservedTokens = attempt₀.reservedTokens := by
    rw [habout.receipt]
    rfl
  have hmode : summary.budgetMode = .tokens := hstage.summaryMode hstart
  exact {
    identified := by rw [hidentity]; exact hnormalized
    rejection := fun h => absurd hrejection h
    protocolVersion := rfl
    scope := by
      rw [hidentity, hstart.coherent.scope]
      exact hstage.terms.scope
    identity := hstage.identity.trans hidentity.symm
    summaryEpoch := by
      rw [hepoch, hstart.coherent.epoch]
      exact hstage.terms.epoch
    attemptEpoch := hstage.epoch.trans hepoch.symm
    reserved := hstage.reserved.trans hreserved.symm
    reservedTokens := attempt.isValid.reservedTokens
    observed := by rw [hidentity]; exact hobserved
    mode := hstage.mode.trans hmode.symm
    priced := by
      have hdump : summary.dump.budgetMode = .tokens := hmode
      rw [hdump]
      rfl }

/-- A completion is answered exactly by a completion. -/
theorem Stage.answers (hstage : Stage e summary₀ attempt₀ r summary attempt)
    (hof : (Delivery.completion c).Of e attempt₀.toAttemptFields) :
    answered attempt.dump c .tokens (0, 0) (attempt.actual .tokens)
      = .ok (decide (attempt.completionEvidence ≠ none)) := by
  obtain ⟨-, hrejection, hcounters, -, -⟩ := hof
  have htotal : c.totalTokens = e.counters.2 := congrArg Prod.snd hcounters
  rw [answered, if_neg (fun h => h.1 hrejection), answeredByCompletion]
  have hdump : attempt.dump.completionEvidence = attempt.completionEvidence := rfl
  rw [hdump]
  cases hstage.holds with
  | nothing hstate _ hfresh =>
      rw [hfresh.completion]
      refine require_bind_of (fun h => absurd h hstate) _
  | task _ _ hrank _ _ hcompletion =>
      rw [hcompletion]
      refine require_bind_of (fun _ h => ?_) _
      have hthree : attempt.evidenceRank = .three := h
      rw [hrank] at hthree
      cases hthree
  | usage _ hactual _ _ _ hcompletion =>
      rw [hcompletion]
      refine require_bind_of (fun _ _ => ?_) _
      simp [AttemptFields.actual, hactual, htotal]
  | completion c' hstate hactual hrank hcompletion hvalid hsame =>
      have hagain : validateCompletion (.record c') = .ok c' :=
        validateCompletion_eq_ok.2 ⟨rfl, hvalid⟩
      have hretained : c'.totalTokens = e.counters.2 := congrArg Prod.snd hsame
      have hrank' : attempt.dump.evidenceRank = some .three := congrArg some hrank
      have hprevious : attempt.actual .tokens = c'.totalTokens := by
        simp [AttemptFields.actual, hactual, hretained]
      rw [hcompletion]
      simp only [hagain, ok_bind]
      rw [require_bind_of ⟨hstate, hprevious, hrank'⟩,
        require_bind_of (hsame.trans hcounters.symm),
        require_bind_of (fun _ => trivial)]
      rfl

theorem Stage.not_released (hstage : Stage e summary₀ attempt₀ r summary attempt) :
    attempt.state ≠ .released := by
  intro hreleased
  cases hstage.holds with
  | nothing _ h => exact h hreleased
  | task h => rw [hreleased] at h; cases h
  | usage h => rw [hreleased] at h; cases h
  | completion _ h => rw [hreleased] at h; cases h

/-- The transaction of a completion fails on the range only. -/
theorem overflow_completionTransaction (hstart : Starts summary₀ attempt₀)
    (habout : e.About attempt₀.toAttemptFields)
    (hstage : Stage e summary₀ attempt₀ r summary attempt)
    (hof : (Delivery.completion c).Of e attempt₀.toAttemptFields) :
    Raises (Overflow (¬(Delivery.completion c).InRange e summary attempt))
      (completionTransaction summary.dump attempt.dump e.receipt.toReceiptFields (.record c)
        now) := by
  have hadmitted := hstage.admitted hstart habout hof
  have hmode : summary.budgetMode = .tokens := hstage.summaryMode hstart
  have hdump : summary.dump.budgetMode = .tokens := hmode
  have hwithin := hstage.within hstart
  have hcharged := hwithin.confirmed hstage.mode
  have hreleased : attempt.dump.state ≠ .released := hstage.not_released
  have hrevision := attempt.isValid.evidenceRevision
  have hvalid := summary.isValid
  have hversion := hvalid.version
  have htotal := hof.1.total.1
  have hreserved : attempt.reservedTokens = e.receipt.reservedTokens := hadmitted.reserved
  have hresolution : attempt.dump.resolutionEvidence = none := hstage.resolution
  unfold completionTransaction
  rw [validateCompletion_eq_ok.2 ⟨rfl, hof.1⟩, ok_bind, checkAdmission_eq_ok.2 hadmitted, ok_bind]
  refine raises_bind.2 ⟨?_, fun counters hcounters => ?_⟩
  · refine raises_bind.2 ⟨overflow_exactKey hvalid.confirmedTokens.1
      fun _ => hvalid.confirmedTokens.2, fun _ _ => ?_⟩
    refine raises_bind.2 ⟨overflow_exactKey hvalid.activeReservedTokens.1
      fun _ => hvalid.activeReservedTokens.2, fun _ _ => ?_⟩
    refine raises_bind.2 ⟨overflow_exactKey hvalid.upperBoundTokens.1
      fun _ => hvalid.upperBoundTokens.2, fun _ _ => ?_⟩
    refine raises_bind.2 ⟨overflow_exactInteger hvalid.tokenLimit.1
      fun _ => hvalid.tokenLimit.2, fun _ _ => ?_⟩
    refine raises_bind.2 ⟨overflow_exactKey hversion
      fun hfits => (not_not.1 hfits).1.le, fun _ _ => ?_⟩
    refine raises_bind.2 ⟨overflow_exactKey hvalid.policyRevision
      fun hfits => (not_not.1 hfits).2.1, fun _ _ => ?_⟩
    refine raises_bind.2 ⟨raises_require.2 fun h => ?_, fun _ _ => raises_ok _⟩
    exact absurd (Option.some_ne_none _) h
  have hread := checkCounters_eq_ok.1 hcounters
  have hc : summary.confirmedTokens = counters.confirmedTokens := Option.some.inj hread.confirmed
  have ha : summary.activeReservedTokens = counters.activeReservedTokens :=
    Option.some.inj hread.active
  have hu : summary.upperBoundTokens = counters.upperBoundTokens := Option.some.inj hread.upper
  have hv : summary.version = counters.version := Option.some.inj hread.version
  have hactive := hvalid.activeReservedTokens
  have hupper := hvalid.upperBoundTokens
  have hpositive := attempt.isValid.reservedTokens.1
  rw [checkResolution, hresolution]
  simp only [ok_bind]
  rw [require_bind_of (fun h => absurd h hreleased), if_neg (fun h => hreleased h.1),
    attempt.previousTokens_dump, ok_bind, hdump, hstage.answers hof, ok_bind]
  split
  next => exact raises_ok _
  next =>
    refine raises_bind.2 ⟨?_, fun _ _ => raises_bind.2 ⟨?_, fun _ _ => raises_ok _⟩⟩
    · unfold chargeSummary
      rw [hdump]
      refine raises_bind.2 ⟨overflow_exactInteger (by omega) fun hfits => ?_, fun _ _ => ?_⟩
      · have hnext := (not_not.1 hfits).1
        omega
      refine raises_bind.2 ⟨overflow_exactInteger (by omega) fun hfits => ?_, fun _ _ => ?_⟩
      · obtain ⟨-, -, -, hsum⟩ := not_not.1 hfits
        rw [Charged] at hsum
        omega
      have hactive' : 0 ≤ counters.activeReservedTokens
            - (if attempt.dump.state.active then e.receipt.reservedTokens else 0) ∧
          counters.activeReservedTokens
            - (if attempt.dump.state.active then e.receipt.reservedTokens else 0) ≤ maxTokens := by
        split
        next hstate =>
          have := hwithin.active hstate
          omega
        next => omega
      have hupper' : 0 ≤ counters.upperBoundTokens
            - (if attempt.dump.state = .upperBound then e.receipt.reservedTokens else 0) ∧
          counters.upperBoundTokens
            - (if attempt.dump.state = .upperBound then e.receipt.reservedTokens else 0)
              ≤ maxTokens := by
        split
        next hstate =>
          have := hwithin.upper hstate
          omega
        next => omega
      refine raises_bind.2 ⟨overflow_exactInteger hactive'.1 fun _ => hactive'.2, fun _ _ => ?_⟩
      exact raises_bind.2 ⟨overflow_exactInteger hupper'.1 fun _ => hupper'.2,
        fun _ _ => raises_ok _⟩
    · refine raises_bind.2 ⟨overflow_exactKey hrevision
        fun hfits => (not_not.1 hfits).2.2.1, fun _ _ => ?_⟩
      by_cases hrej : c.rejection = none
      · rw [if_pos hrej]
        exact raises_ok _
      · exact absurd hof.2.1 hrej

/-- So does the completion. -/
theorem overflow_completion (hstart : Starts summary₀ attempt₀)
    (habout : e.About attempt₀.toAttemptFields)
    (hstage : Stage e summary₀ attempt₀ r summary attempt)
    (hof : (Delivery.completion c).Of e attempt₀.toAttemptFields) :
    Raises (Overflow (¬(Delivery.completion c).InRange e summary attempt))
      (completeLedger summary attempt e.receipt (.record c) now) := by
  refine raises_bind.2 ⟨?_, ?_⟩
  · intro error he
    cases hx : completionTransaction summary.dump attempt.dump e.receipt.toReceiptFields
        (.record c) now with
    | ok _ =>
        rw [hx] at he
        cases he
    | error cause =>
        have hrange := overflow_completionTransaction hstart habout hstage hof cause hx
        rw [hx] at he
        simp only [conflictFromValueError, Except.error.injEq] at he
        subst he
        split
        next => exact hrange
        next => exact hrange
  · rintro ⟨updated, settled⟩ htransaction
    rw [conflictFromValueError_eq_ok] at htransaction
    have hsdump : summary.dump.fields.Valid := summary.isValid
    have hadump : attempt.dump.fields.Valid := attempt.isValid
    obtain ⟨hversion, hs, ha⟩ := completionTransaction_valid hsdump hadump htransaction
    simp only
    split
    next => exact raises_ok _
    next =>
      have hsummary : updated.modelValidate
          = .ok ⟨updated.fields, SummaryFields.validate_eq_ok.2 hs⟩ :=
        SummaryDocument.modelValidate_eq_ok.2 ⟨by rw [hversion]; rfl, rfl⟩
      have hattempt : settled.modelValidate
          = .ok ⟨settled.fields, AttemptFields.validate_eq_ok.2 ha⟩ :=
        AttemptDocument.modelValidate_eq_ok.2 rfl
      rw [hsummary, hattempt]
      simp

theorem Stage.completion (hstart : Starts summary₀ attempt₀)
    (hstage : Stage e summary₀ attempt₀ r summary attempt)
    (hof : (Delivery.completion c).Of e attempt₀.toAttemptFields)
    (hcomplete : completeLedger summary attempt e.receipt (.record c) now
      = .ok (summary', attempt')) :
    Stage e summary₀ attempt₀ .three summary' attempt' := by
  have hmode := hstage.summaryMode hstart
  have hresult := completeLedger_result hcomplete
  have hterms := hresult.keepsTerms
  have hbalances : ∀ c, summary'.balance .tokens c
      = summary₀.balance .tokens c - attempt₀.share .tokens c + attempt'.share .tokens c := by
    intro c
    have hbalance := hstage.balances c
    have hmove := hresult.moves (c := c) hmode
    rw [Moves, Store.share_some] at hmove
    omega
  cases hresult with
  | kept evidence usd hvalidated hadmitted hreason =>
      obtain ⟨heq, -⟩ := validateCompletion_eq_ok.1 hvalidated
      cases heq
      rcases hreason with ⟨hreleased, -⟩ | ⟨previous, hprevious, hanswered⟩
      · exact absurd hreleased hstage.not_released
      · rw [attempt.previousTokens_dump] at hprevious
        cases hprevious
        have hpriced := hadmitted.priced
        have hdump : summary.dump.budgetMode = .tokens := hmode
        rw [hdump] at hpriced
        rw [hmode, priceCompletion_tokens hpriced, hstage.answers hof] at hanswered
        have hsome : attempt.completionEvidence ≠ none :=
          of_decide_eq_true (Except.ok.inj hanswered)
        cases hstage.holds with
        | nothing _ _ hfresh => exact absurd hfresh.completion hsome
        | task _ _ _ _ _ hcompletion => exact absurd hcompletion hsome
        | usage _ _ _ _ _ hcompletion => exact absurd hcompletion hsome
        | completion => exact hstage
  | charged evidence usd previous key hallowed htokens _ ha =>
      obtain ⟨heq, hvalid⟩ := validateCompletion_eq_ok.1 hallowed.validated
      cases heq
      obtain ⟨-, hrejection, hcounters, -, -⟩ := hof
      have htotal : c.totalTokens = e.counters.2 := congrArg Prod.snd hcounters
      rw [if_neg (by rw [hmode]; exact BudgetMode.noConfusion), if_pos hrejection,
        if_pos hrejection, if_pos hrejection] at ha
      refine ⟨?_, ?_, ?_, ?_, ?_, ?_, ?_, hstage.terms.trans hterms, hbalances⟩
      · rw [ha]
        exact hstage.identity
      · rw [ha]
        exact hstage.epoch
      · rw [ha]
        exact hstage.reserved
      · rw [ha]
        exact hstage.mode
      · rw [ha]
        exact hstage.rejection
      · rw [ha]
        exact hstage.resolution
      · rw [ha]
        exact .completion c rfl (congrArg some htotal) rfl rfl hvalid hcounters

end Steps

/-! ## Runs of deliveries -/

section Runs

variable {e : Evidence} {summary₀ summary : LedgerSummary} {attempt₀ attempt : LedgerAttempt}
  {r : EvidenceRank}

/-- One delivery takes the stage to the join of the ranks. -/
theorem Stage.deliver {summary' : LedgerSummary} {attempt' : LedgerAttempt} {d : Delivery}
    {now : Int} (hstart : Starts summary₀ attempt₀) (habout : e.About attempt₀.toAttemptFields)
    (hstage : Stage e summary₀ attempt₀ r summary attempt)
    (hof : d.Of e attempt₀.toAttemptFields)
    (h : d.deliver e now summary attempt = .ok (summary', attempt')) :
    Stage e summary₀ attempt₀ (r.join d.rank) summary' attempt' := by
  cases d with
  | task => exact hstage.task hstart habout h
  | usage => exact hstage.usage hstart habout h
  | completion c =>
      rw [Delivery.rank, EvidenceRank.join_three]
      exact hstage.completion hstart hof h

/-- A run of deliveries is at the stage of the greatest rank that returned. -/
theorem Delivers.stage (hstart : Starts summary₀ attempt₀)
    (habout : e.About attempt₀.toAttemptFields) (hsettled : attempt₀.state ≠ .settled)
    (hreleased : attempt₀.state ≠ .released)
    (h : Delivers e summary₀ attempt₀ r summary attempt) :
    Stage e summary₀ attempt₀ r summary attempt := by
  induction h with
  | start =>
      have hfresh := hstart.coherent.unevidenced hsettled hreleased
      refine ⟨rfl, rfl, rfl, hstart.attemptMode, hfresh.rejection, hfresh.resolution,
        .nothing hsettled hreleased hfresh, .refl _, fun c => ?_⟩
      omega
  | delivered d now _ hof hdeliver ih => exact ih.deliver hstart habout hof hdeliver
  | raised d now error _ _ _ ih => exact ih

/-- At every stage a delivery returns, or fails on the clock or the range. -/
theorem Stage.unordered {d : Delivery} {now : Int} (hstart : Starts summary₀ attempt₀)
    (habout : e.About attempt₀.toAttemptFields)
    (hstage : Stage e summary₀ attempt₀ r summary attempt)
    (hof : d.Of e attempt₀.toAttemptFields) :
    Raises (Unordered (d.Late summary attempt now) (¬d.InRange e summary attempt))
      (d.deliver e now summary attempt) := by
  cases d with
  | task => exact unordered_task hstart habout hstage
  | usage => exact unordered_usage hstart habout hstage
  | completion c => exact (overflow_completion hstart habout hstage hof).mono fun _ => .inr

/-- At every stage a delivery that is not late and whose numbers are in range returns. -/
theorem Stage.returns {d : Delivery} {now : Int} (hstart : Starts summary₀ attempt₀)
    (habout : e.About attempt₀.toAttemptFields)
    (hstage : Stage e summary₀ attempt₀ r summary attempt)
    (hof : d.Of e attempt₀.toAttemptFields) (htimely : ¬d.Late summary attempt now)
    (hrange : d.InRange e summary attempt) :
    ∃ summary' attempt', d.deliver e now summary attempt = .ok (summary', attempt') ∧
      Stage e summary₀ attempt₀ (r.join d.rank) summary' attempt' := by
  cases hdeliver : d.deliver e now summary attempt with
  | ok x => exact ⟨x.1, x.2, rfl, hstage.deliver hstart habout hof hdeliver⟩
  | error error =>
      rcases hstage.unordered hstart habout hof error hdeliver with ⟨-, hlate⟩ | ⟨-, hunfit⟩
      · exact absurd hlate htimely
      · exact absurd hrange hunfit

/-- The attempt is settled at rank 3 with the common total, in the balances too. -/
structure SettledAt (e : Evidence) (summary₀ : LedgerSummary) (attempt₀ : LedgerAttempt)
    (summary : LedgerSummary) (attempt : LedgerAttempt) : Prop where
  state : attempt.state = .settled
  rank : attempt.evidenceRank = .three
  actual : attempt.actualTokens = some e.counters.2
  confirmed : summary.confirmedTokens = summary₀.confirmedTokens + e.counters.2
  active : summary.activeReservedTokens = summary₀.activeReservedTokens
    - (if attempt₀.state.active = true then attempt₀.reservedTokens else 0)
  upper : summary.upperBoundTokens = summary₀.upperBoundTokens
    - (if attempt₀.state = .upperBound then attempt₀.reservedTokens else 0)

/-- With complete evidence recorded, the attempt and the balances are determined. -/
theorem Stage.complete (hstage : Stage e summary₀ attempt₀ .three summary attempt)
    (hsettled : attempt₀.state ≠ .settled) : SettledAt e summary₀ attempt₀ summary attempt := by
  have hheld : attempt.state = .settled ∧ attempt.actualTokens = some e.counters.2 := by
    cases hstage.holds with
    | usage hs ha => exact ⟨hs, ha⟩
    | completion _ hs ha => exact ⟨hs, ha⟩
  obtain ⟨hstate, hactual⟩ := hheld
  refine ⟨hstate, hstage.holds.rank, hactual, ?_, ?_, ?_⟩
  · have hbalance := hstage.balances .confirmed
    simp only [SummaryFields.balance, AttemptFields.share, AttemptFields.actual, hstate, hactual,
      hsettled, if_true, if_false, Option.getD_some] at hbalance
    omega
  · have hbalance := hstage.balances .active
    simp only [SummaryFields.balance, AttemptFields.share, AttemptFields.held, hstate,
      AttemptState.active_settled, Bool.false_eq_true, if_false] at hbalance
    omega
  · have hbalance := hstage.balances .upper
    have hne : AttemptState.settled ≠ .upperBound := AttemptState.noConfusion
    simp only [SummaryFields.balance, AttemptFields.share, AttemptFields.held, hstate, hne,
      if_false] at hbalance
    omega

end Runs

/-- Evidence about the sample attempt: a task saw 30 tokens, complete usage is 60. -/
def Sample.evidence : Evidence where
  task := {
    identity := identity 1, epoch := 5, revision := 1, evidenceKey := .other "execution"
    totalTokens := 30, evidenceRank := .two, valid := by decide +kernel }
  usage := {
    identity := identity 1, epoch := 5, revision := 2, evidenceKey := .other "usage"
    totalTokens := 60, valid := by decide +kernel }
  receipt := receipt
  counters := completion.counters

theorem Sample.evidence_about : evidence.About reservedAttempt.toAttemptFields where
  task := ⟨rfl, rfl, rfl, rfl⟩
  taskRank := rfl
  taskRevision := rfl
  usage := ⟨rfl, rfl, rfl, rfl⟩
  usageRank := rfl
  usageRevision := by decide
  total := rfl
  receipt := rfl

namespace Ledger

/-- Settlement is confluent.  Of an attempt of a reachable token scope that is not
settled or released, evidence is delivered in any order, any number of times, at
any times and on either path.  A delivery that raises does so on the range of a
number that is out of range, or, of a task, because its own time is before the
summary's or the admission; any other returns.  Once one with rank 3 returned, the
attempt is settled at that rank with the common total, and the three balances are
determined: settling and completing yield the same. -/
theorem settlement_confluent {l₀ l : Ledger} (hmode : l₀.summary.budgetMode = .tokens)
    (hempty : l₀.attempts = ∅) (hrun : Reaches (fun _ op => op.Keeps .tokens) l₀ l)
    {key : AttemptKey} {attempt₀ : LedgerAttempt}
    (hlookup : l.attempts.lookup key = some attempt₀)
    (hstate : attempt₀.state = .reserved ∨ attempt₀.state = .dispatching ∨
      attempt₀.state = .uncertain ∨ attempt₀.state = .upperBound ∨ attempt₀.state = .cancelled)
    {e : Evidence} (habout : e.About attempt₀.toAttemptFields) :
    (∀ (r : EvidenceRank) (summary : LedgerSummary) (attempt : LedgerAttempt) (d : Delivery)
      (now : Int) (error : LedgerError), Delivers e l.summary attempt₀ r summary attempt →
      d.Of e attempt₀.toAttemptFields → d.deliver e now summary attempt = .error error →
      Unordered (d.Late summary attempt now) (¬d.InRange e summary attempt) error) ∧
    (∀ (summary : LedgerSummary) (attempt : LedgerAttempt),
      Delivers e l.summary attempt₀ .three summary attempt →
      SettledAt e l.summary attempt₀ summary attempt) ∧
    (∀ (r : EvidenceRank) (summary : LedgerSummary) (attempt : LedgerAttempt) (d : Delivery)
      (now : Int), Delivers e l.summary attempt₀ r summary attempt →
      d.Of e attempt₀.toAttemptFields → ¬d.Late summary attempt now →
      d.InRange e summary attempt → ∃ summary' attempt',
        d.deliver e now summary attempt = .ok (summary', attempt') ∧
        (d.rank = .three → SettledAt e l.summary attempt₀ summary' attempt')) ∧
    ∀ (r : EvidenceRank) (summary : LedgerSummary) (attempt : LedgerAttempt) (c : Completion)
      (now now' : Int), Delivers e l.summary attempt₀ r summary attempt →
      (Delivery.completion c).Of e attempt₀.toAttemptFields → ¬Late summary attempt now →
      Delivery.usage.InRange e summary attempt →
      (Delivery.completion c).InRange e summary attempt →
      ∃ settled completed, settleLedger summary attempt e.usage now = .ok settled ∧
        completeLedger summary attempt e.receipt (.record c) now' = .ok completed ∧
        settled.1.confirmedTokens = completed.1.confirmedTokens ∧
        settled.1.activeReservedTokens = completed.1.activeReservedTokens ∧
        settled.1.upperBoundTokens = completed.1.upperBoundTokens := by
  have hconserves := (Conserves.opening hmode hempty).reaches
    (fun _ _ hkeeps => ⟨hkeeps, fun hm => BudgetMode.noConfusion hm⟩) hrun
  have hsettled : attempt₀.state ≠ .settled := by
    rcases hstate with h | h | h | h | h <;> rw [h] <;> exact AttemptState.noConfusion
  have hreleased : attempt₀.state ≠ .released := by
    rcases hstate with h | h | h | h | h <;> rw [h] <;> exact AttemptState.noConfusion
  have hstart : Starts l.summary attempt₀ := by
    refine ⟨hconserves.mode, ?_, AllCoherent.reaches hempty hrun key attempt₀ hlookup, ?_⟩
    · exact (hconserves.attempts key attempt₀ hlookup).resolve_right fun h =>
        BudgetMode.noConfusion h.1
    · intro c
      have hle := hconserves.share_le hlookup c
      have hopen := l₀.summary.balance_nonneg .tokens c
      omega
  have hreturns : ∀ (r : EvidenceRank) (summary : LedgerSummary) (attempt : LedgerAttempt)
      (d : Delivery) (now : Int), Delivers e l.summary attempt₀ r summary attempt →
      d.Of e attempt₀.toAttemptFields → ¬d.Late summary attempt now →
      d.InRange e summary attempt → ∃ summary' attempt',
        d.deliver e now summary attempt = .ok (summary', attempt') ∧
        (d.rank = .three → SettledAt e l.summary attempt₀ summary' attempt') := by
    intro r summary attempt d now hdelivers hof htimely hrange
    obtain ⟨summary', attempt', hdeliver, hstage⟩ :=
      (hdelivers.stage hstart habout hsettled hreleased).returns hstart habout hof htimely hrange
    refine ⟨summary', attempt', hdeliver, fun hrank => ?_⟩
    rw [hrank, EvidenceRank.join_three] at hstage
    exact hstage.complete hsettled
  refine ⟨fun r summary attempt d now error hdelivers hof herror => ?_,
    fun _ _ hdelivers => ?_, hreturns,
    fun r summary attempt c now now' hdelivers hof htimely husage hcompletion => ?_⟩
  · exact (hdelivers.stage hstart habout hsettled hreleased).unordered hstart habout hof
      error herror
  · exact (hdelivers.stage hstart habout hsettled hreleased).complete hsettled
  · obtain ⟨s, a, hsettle, hs⟩ :=
      hreturns r summary attempt .usage now hdelivers trivial htimely husage
    obtain ⟨s', a', hcomplete, hs'⟩ :=
      hreturns r summary attempt (.completion c) now' hdelivers hof id hcompletion
    have hs := hs rfl
    have hs' := hs' rfl
    exact ⟨(s, a), (s', a'), hsettle, hcomplete, hs.confirmed.trans hs'.confirmed.symm,
      hs.active.trans hs'.active.symm, hs.upper.trans hs'.upper.symm⟩

/-- The reserved attempt is settled by the task of rank 3 or by a completion, with the same
balances; after the task, the completion and the task of rank 2 return too. -/
theorem settlement_confluent_sample :
    (∃ settled completed,
      settleLedger Sample.reservedSummary Sample.reservedAttempt Sample.evidence.usage Sample.start
        = .ok settled ∧
      completeLedger Sample.reservedSummary Sample.reservedAttempt Sample.evidence.receipt
        (.record Sample.completion) Sample.start = .ok completed ∧
      settled.1.confirmedTokens = 40 + Sample.evidence.counters.2 ∧
      settled.1.confirmedTokens = completed.1.confirmedTokens) ∧
    ∃ summary attempt, Delivers Sample.evidence Sample.reservedSummary Sample.reservedAttempt .three
      summary attempt ∧ summary.confirmedTokens = 40 + Sample.evidence.counters.2 := by
  have hrun : run ⟨Sample.tokenSummary, ∅⟩ (Sample.completedSteps.take 1)
      = .ok ⟨Sample.reservedSummary,
        AList.insert (Sample.identity 1).attemptKey Sample.reservedAttempt ∅⟩ := rfl
  have hkeeps : ∀ _ : Ledger, ∀ step ∈ Sample.completedSteps.take 1, step.1.Keeps .tokens := by
    intro _ step hstep
    simp only [Sample.completedSteps, List.take, List.mem_cons, List.not_mem_nil, or_false] at hstep
    rw [hstep]
    trivial
  have hvalidated : validateCompletion (.record Sample.completion) = .ok Sample.completion := rfl
  have hof : (Delivery.completion Sample.completion).Of Sample.evidence
      Sample.reservedAttempt.toAttemptFields :=
    ⟨(validateCompletion_eq_ok.1 hvalidated).2, rfl, rfl, by decide, rfl⟩
  obtain ⟨-, hthree, hreturns, hsame⟩ := settlement_confluent rfl rfl
    (reaches_of_run .refl hkeeps hrun) (AList.lookup_insert _) (.inl rfl) Sample.evidence_about
  have hstart : Delivers Sample.evidence Sample.reservedSummary Sample.reservedAttempt .zero
      Sample.reservedSummary Sample.reservedAttempt := .start
  have htimely : ¬Late Sample.reservedSummary Sample.reservedAttempt Sample.start := by
    unfold Late
    decide
  have husage : Delivery.usage.InRange Sample.evidence Sample.reservedSummary
      Sample.reservedAttempt := by
    unfold Delivery.InRange Charged
    decide
  have hcompletion : (Delivery.completion Sample.completion).InRange Sample.evidence
      Sample.reservedSummary Sample.reservedAttempt := by
    unfold Delivery.InRange Charged
    decide
  refine ⟨?_, ?_⟩
  · obtain ⟨settled, completed, hsettle, hcomplete, hconfirmed, -⟩ :=
      hsame _ _ _ _ Sample.start Sample.start hstart hof htimely husage hcompletion
    obtain ⟨summary', attempt', hdeliver, hsettled⟩ :=
      hreturns _ _ _ .usage Sample.start hstart trivial htimely husage
    obtain rfl : settled = (summary', attempt') := Except.ok.inj (hsettle.symm.trans hdeliver)
    exact ⟨_, completed, hsettle, hcomplete, (hsettled rfl).confirmed, hconfirmed⟩
  · have hsettled := hstart.delivered .usage Sample.start trivial rfl
    have hcompleted := hsettled.delivered (.completion Sample.completion) Sample.start hof rfl
    have hdelivers := hcompleted.delivered .task Sample.start trivial rfl
    exact ⟨_, _, hdelivers, (hthree _ _ hdelivers).confirmed⟩

end Ledger

end Turnstile
