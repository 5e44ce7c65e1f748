import Turnstile.Domain.Effects

/-!
# Completed documents are documents of the model

The Observer stores what `completionTransaction` returns without validating it,
and every later reader validates what it finds.  So the transaction has to keep
the two models' rules by itself.  A charge that was recorded leaves a valid
summary (`charged_summary_valid`) and a valid attempt (`charged_attempt_valid`),
and the evidence it stores answers the same completion when it comes again
(`answered_again`).
-/

namespace Turnstile

open Guard

section Charged

variable {summary charged : SummaryDocument} {attempt settled : AttemptDocument}
  {receipt : ReceiptFields} {completion : Decoded Completion} {evidence : Completion}
  {usd : Int × Int} {counters : SummaryCounters} {previous now updatedAt : Int}

/-- The charged summary is within the bounds of the model. -/
theorem charged_summary_valid (hvalid : summary.fields.Valid)
    (hchk : CompletionChecked summary attempt receipt completion evidence usd counters)
    (hcharge : chargeSummary summary attempt receipt counters evidence usd previous
      = .ok charged) :
    charged.protocolVersion = some 2 ∧ { charged with updatedAt }.fields.Valid := by
  obtain ⟨hactual, hprevious⟩ := hchk.admitted.usd_inRange
  cases hmode : summary.budgetMode with
  | tokens =>
      obtain ⟨c, a, u, -, -, -, hversion, hc, ha, hu, rfl⟩ := chargeSummary_tokens hmode hcharge
      refine ⟨hchk.admitted.protocolVersion, ?_⟩
      exact {
        version := hversion.1
        policyRevision := hvalid.policyRevision
        tokenLimit := hvalid.tokenLimit
        usdLimit := hvalid.usdLimit
        confirmedTokens := hc
        activeReservedTokens := ha
        upperBoundTokens := hu
        confirmedUsd := hvalid.confirmedUsd
        activeReservedUsd := hvalid.activeReservedUsd
        upperBoundUsd := hvalid.upperBoundUsd
        tokenMode := hvalid.tokenMode
        usdMode := hvalid.usdMode
        tokenBalances := hvalid.tokenBalances }
  | usd =>
      obtain ⟨held, c, a, u, -, -, -, -, hversion, hc, ha, hu, rfl⟩ :=
        chargeSummary_usd hmode hactual hprevious hcharge
      refine ⟨hchk.admitted.protocolVersion, ?_⟩
      exact {
        version := hversion.1
        policyRevision := hvalid.policyRevision
        tokenLimit := hvalid.tokenLimit
        usdLimit := hvalid.usdLimit
        confirmedTokens := hvalid.confirmedTokens
        activeReservedTokens := hvalid.activeReservedTokens
        upperBoundTokens := hvalid.upperBoundTokens
        confirmedUsd := hc
        activeReservedUsd := ha
        upperBoundUsd := hu
        tokenMode := hvalid.tokenMode
        usdMode := hvalid.usdMode
        tokenBalances := by
          intro htokens
          have hm : summary.budgetMode = .tokens := htokens
          rw [hmode] at hm
          cases hm }

/-- What a valid attempt that a charge replaces has in its evidence: with a
resolution, only complete usage can be charged. -/
theorem resolution_of_unanswered (hvalid : attempt.fields.Valid)
    (hskip : ¬(attempt.state = .released ∧ evidence.rejection ≠ none))
    (hopen : Unanswered attempt evidence previous) (hres : attempt.resolutionEvidence ≠ none) :
    evidence.rejection = none := by
  by_contra hrej
  obtain ⟨value, hvalue⟩ := Option.ne_none_iff_exists'.1 hres
  obtain ⟨_, -, -, -, hstate⟩ :=
    AttemptFields.validateRetainedResolution_eq_ok.1 hvalid.resolution value hvalue
  rcases hstate with ⟨hreleased, -⟩ | ⟨hsettled, hrank⟩
  · exact hskip ⟨hreleased, hrej⟩
  · have hget : attempt.evidenceRank.getD .three = .three := by
      have hrank : attempt.evidenceRank.getD .zero = .three := hrank
      cases hr : attempt.evidenceRank with
      | none => rfl
      | some rank =>
          rw [hr] at hrank
          exact hrank
    exact hrej (hopen.confirmed hsettled hget).1

/-- The settled attempt is within the rules of the model. -/
theorem charged_attempt_valid (hvalid : attempt.fields.Valid)
    (hchk : CompletionChecked summary attempt receipt completion evidence usd counters)
    (hskip : ¬(attempt.state = .released ∧ evidence.rejection ≠ none))
    (hopen : Unanswered attempt evidence previous) (hclock : attempt.updatedAt ≤ updatedAt)
    (hsettle : chargeAttempt attempt summary.budgetMode evidence usd updatedAt = .ok settled) :
    settled.fields.Valid := by
  obtain ⟨revision, hrev, hpos, hsettled, hkey, hfits⟩ := chargeAttempt_eq_ok hsettle
  obtain ⟨hactual, -⟩ := hchk.admitted.usd_inRange
  obtain ⟨hevidence, hev⟩ := validateCompletion_eq_ok.1 hchk.validated
  have hmode : attempt.budgetMode = summary.budgetMode := hchk.admitted.mode
  have hresolved := resolution_of_unanswered hvalid hskip hopen
  generalize hk : settled.evidenceKey = key at hsettled hkey hfits
  rw [hsettled]
  have hretained : ∀ value ∈ attempt.resolutionEvidence, ∃ resolution,
      validateResolution value = .ok resolution ∧
        resolution.receipt = attempt.fields.receipt ∧
        attempt.fields.receipt.validate = .ok () := by
    intro value hvalue
    obtain ⟨resolution, hr, hreceipt, hok, -⟩ :=
      AttemptFields.validateRetainedResolution_eq_ok.1 hvalid.resolution value hvalue
    exact ⟨resolution, hr, hreceipt, hok⟩
  exact {
    reservedTokens := hvalid.reservedTokens
    reservedUsd := hvalid.reservedUsd
    actualUsd := by
      intro x hx
      have hx : (if summary.budgetMode = .usd then some usd.1 else attempt.actualUsd)
        = some x := hx
      split at hx
      next =>
        cases hx
        exact hactual
      next => exact hvalid.actualUsd x hx
    priceEtag := hvalid.priceEtag
    actualTokens := by
      intro x hx
      cases hx
      exact hev.total.1
    actualTokens_le := by
      intro x hx
      cases hx
      exact hev.total.2
    evidenceRevision := by
      have h : (0 : Int) ≤ max revision 1 := by omega
      exact h
    evidenceKey := hfits
    resolution := by
      refine AttemptFields.validateRetainedResolution_eq_ok.2 fun value hvalue => ?_
      obtain ⟨resolution, hr, hreceipt, hok⟩ := hretained value hvalue
      have hvalue : attempt.resolutionEvidence = some value := hvalue
      have hnone := hresolved (by rw [hvalue]; exact Option.some_ne_none _)
      refine ⟨resolution, hr, hreceipt, hok, .inr ⟨rfl, ?_⟩⟩
      simp [AttemptDocument.fields, hnone]
    released := by
      intro h
      cases h
    policy := hvalid.policy
    rejection := by
      refine AttemptFields.validateRetainedRejection_eq_ok.2 fun value hvalue => ?_
      by_cases hnone : evidence.rejection = none
      · have hvalue : attempt.rejectionEvidence = some value := by
          simpa [AttemptDocument.fields, hnone] using hvalue
        obtain ⟨hok, -⟩ :=
          AttemptFields.validateRetainedRejection_eq_ok.1 hvalid.rejection value hvalue
        refine ⟨hok, rfl, .inr ?_, fun h => ?_⟩
        · simp [AttemptDocument.fields, hnone]
        · simp [AttemptDocument.fields, hnone] at h
      · have hvalue : Decoded.record evidence = value := by
          simpa [AttemptDocument.fields, hnone] using hvalue
        subst hvalue
        have hok := hchk.admitted.rejection hnone
        rw [← hchk.admitted.identity] at hok
        refine ⟨hok, rfl, .inl ?_, fun _ => ?_⟩
        · simp [AttemptDocument.fields, hnone]
        · exact congrArg some (hev.total_of_rejection hnone)
    completion := by
      refine AttemptFields.validateRetainedCompletion_eq_ok.2 fun value hvalue => ?_
      by_cases hnone : evidence.rejection = none
      · have hvalue : Decoded.record evidence = value := by
          simpa [AttemptDocument.fields, hnone] using hvalue
        subst hvalue
        refine ⟨evidence, validateCompletion_eq_ok.2 ⟨rfl, hev⟩, hnone, rfl, ?_, rfl⟩
        simp [AttemptDocument.fields, hnone]
      · have hvalue : attempt.completionEvidence = some value := by
          simpa [AttemptDocument.fields, hnone] using hvalue
        rw [hopen.completion] at hvalue
        cases hvalue
    settled := by simp [AttemptDocument.fields]
    usd := hvalid.usd
    usdSettled := by
      intro husd
      have husd : attempt.budgetMode = .usd := husd
      have husd : summary.budgetMode = .usd := hmode.symm.trans husd
      simp [AttemptDocument.fields, husd]
    tokens := by
      intro htokens
      have htokens : attempt.budgetMode = .tokens := htokens
      obtain ⟨hr, ha, hp, he⟩ := hvalid.tokens htokens
      have hne : summary.budgetMode ≠ .usd := by
        rw [← hmode, htokens]
        exact BudgetMode.noConfusion
      refine ⟨hr, ?_, hp, he⟩
      simpa [AttemptDocument.fields, hne] using ha
    keyed := by
      have h : (0 : Int) < max revision 1 := by omega
      exact ⟨fun _ => hkey, fun _ => h⟩
    durable := by
      intro _ h
      have h : max revision 1 = 0 := h
      omega
    updatedAt := le_trans hvalid.updatedAt hclock }

/-- The evidence that a charge stored answers the completion it came from. -/
theorem answered_again
    (hchk : CompletionChecked summary attempt receipt completion evidence usd counters)
    (hsettle : chargeAttempt attempt summary.budgetMode evidence usd updatedAt = .ok settled)
    {again : Int × Int} (hsame : summary.budgetMode = .usd → again.2 = again.1) :
    answered settled evidence summary.budgetMode again evidence.totalTokens = .ok true := by
  obtain ⟨revision, hrev, hpos, hsettled, hkey, hfits⟩ := chargeAttempt_eq_ok hsettle
  obtain ⟨-, hev⟩ := validateCompletion_eq_ok.1 hchk.validated
  have hagain : validateCompletion (.record evidence) = .ok evidence :=
    validateCompletion_eq_ok.2 ⟨rfl, hev⟩
  generalize settled.evidenceKey = key at hsettled
  subst hsettled
  by_cases hnone : evidence.rejection = none
  · rw [answered, if_neg (fun h => h.1 hnone), answeredByCompletion]
    simp [hnone, hagain, require_bind_of, require_of hsame]
  · have hok := hchk.admitted.rejection hnone
    rw [← hchk.admitted.identity] at hok
    have hzero := hev.total_of_rejection hnone
    rw [answered, if_pos ⟨hnone, rfl⟩]
    simp [hnone, hok, hagain, hzero, require_bind_of]

/-- What was checked of the two documents is still so once they are charged. -/
theorem checked_again
    (hchk : CompletionChecked summary attempt receipt completion evidence usd counters)
    (hcharge : chargeSummary summary attempt receipt counters evidence usd previous
      = .ok charged)
    (hsettle : chargeAttempt attempt summary.budgetMode evidence usd updatedAt = .ok settled) :
    charged.budgetMode = summary.budgetMode ∧ ∃ counters',
      CompletionChecked { charged with updatedAt } settled receipt completion evidence
        (usd.1, if summary.budgetMode = .usd then usd.1 else 0) counters' := by
  obtain ⟨hactual, hprevious⟩ := hchk.admitted.usd_inRange
  obtain ⟨revision, -, -, hsettled, -, -⟩ := chargeAttempt_eq_ok hsettle
  have hread := hchk.counters
  have hadm := hchk.admitted
  generalize settled.evidenceKey = key at hsettled
  have hresolution : ∀ mode, checkResolution settled receipt mode
      = checkResolution attempt receipt mode := by
    intro mode
    rw [hsettled]
    rfl
  have hpriced : priceCompletion settled receipt receipt.identity evidence summary.budgetMode
      = .ok (usd.1, if summary.budgetMode = .usd then usd.1 else 0) := by
    have hpriced := hadm.priced
    cases hmode : summary.budgetMode with
    | tokens =>
        rw [hmode] at hpriced
        cases hpriced
        rfl
    | usd =>
        rw [hmode] at hpriced
        obtain ⟨projection, held, hproj, hheld, hrange, hmodel, hrmode, hrprice, hrheld,
            hcost, -⟩ :=
          priceCompletion_usd.1 hpriced
        refine priceCompletion_usd.2 ⟨projection, held, ?_, ?_, hrange, hmodel, hrmode, hrprice,
          hrheld, hcost, ?_, ?_⟩
        · rw [hsettled]
          exact hproj
        · rw [hsettled]
          exact hheld
        · intro _
          rw [hsettled, if_pos hmode]
          exact ⟨rfl, hactual⟩
        · intro hne
          rw [hsettled] at hne
          exact absurd rfl hne
  have hrest : ∀ d : SummaryDocument, d.protocolVersion = summary.protocolVersion →
      d.scope = summary.scope → d.epoch = summary.epoch → d.budgetMode = summary.budgetMode →
      CompletionAdmitted d settled receipt evidence
        (usd.1, if summary.budgetMode = .usd then usd.1 else 0) := by
    intro d hversion hscope hepoch hmode
    have hrejection := hadm.rejection
    have hidentity := hadm.identity
    have hattemptEpoch := hadm.attemptEpoch
    have hreserved := hadm.reserved
    have hreservedTokens := hadm.reservedTokens
    have hmodes := hadm.mode
    exact {
      identified := hadm.identified
      rejection := by
        rw [hsettled]
        exact hrejection
      protocolVersion := hversion.trans hadm.protocolVersion
      scope := hscope.trans hadm.scope
      identity := by
        rw [hsettled]
        exact hidentity
      summaryEpoch := hepoch.trans hadm.summaryEpoch
      attemptEpoch := by
        rw [hsettled]
        exact hattemptEpoch
      reserved := by
        rw [hsettled]
        exact hreserved
      reservedTokens := by
        rw [hsettled]
        exact hreservedTokens
      observed := hadm.observed
      mode := by
        rw [hsettled, hmode]
        exact hmodes
      priced := by
        rw [hmode]
        exact hpriced }
  have hreleased : settled.state = .released →
      settled.resolutionEvidence ≠ none ∧ settled.evidenceRank = some .two := by
    rw [hsettled]
    intro h
    cases h
  cases hmode : summary.budgetMode with
  | tokens =>
      obtain ⟨c, a, u, -, -, -, hv, hc, ha, hu, rfl⟩ := chargeSummary_tokens hmode hcharge
      refine ⟨hmode, ⟨c, a, u, counters.version + 1⟩, hchk.validated, ?_, ?_, ?_, hreleased⟩
      · rw [← hmode]
        exact hrest _ rfl rfl rfl rfl
      · exact ⟨rfl, rfl, rfl, rfl, hc, ha, hu, hv, hread.tokenLimit, hread.revision,
          hread.enabled⟩
      · rw [hresolution]
        exact hchk.resolution
  | usd =>
      obtain ⟨held, c, a, u, -, -, -, -, hv, -, -, -, rfl⟩ :=
        chargeSummary_usd hmode hactual hprevious hcharge
      refine ⟨hmode, { counters with version := counters.version + 1 }, hchk.validated, ?_, ?_,
        ?_, hreleased⟩
      · rw [if_pos hmode] at hrest
        rw [if_pos rfl]
        exact hrest _ rfl rfl rfl rfl
      · exact ⟨hread.confirmed, hread.active, hread.upper, rfl, hread.confirmedRange,
          hread.activeRange, hread.upperRange, hv, hread.tokenLimit, hread.revision,
          hread.enabled⟩
      · rw [hresolution]
        exact hchk.resolution

end Charged

/-! ## The transaction -/

section Transaction

variable {summary summary' : SummaryDocument} {attempt attempt' : AttemptDocument}
  {receipt : ReceiptFields} {completion : Decoded Completion} {now : Int}

/-- Both documents that the transaction returns validate. -/
theorem completionTransaction_valid (hs : summary.fields.Valid) (ha : attempt.fields.Valid)
    (h : completionTransaction summary attempt receipt completion now = .ok (summary', attempt')) :
    summary'.protocolVersion = some 2 ∧ summary'.fields.Valid ∧ attempt'.fields.Valid := by
  obtain ⟨evidence, usd, counters, hchk, hresult⟩ := completionTransaction_eq_ok.1 h
  cases hresult with
  | skipped => exact ⟨hchk.admitted.protocolVersion, hs, ha⟩
  | answered => exact ⟨hchk.admitted.protocolVersion, hs, ha⟩
  | charged previous charged settled hskip hprev hdone hcharge hsettle =>
      have hopen := unanswered_of_answered hdone
      obtain ⟨hversion, hvalid⟩ := charged_summary_valid hs hchk hcharge
      refine ⟨hversion, hvalid, charged_attempt_valid ha hchk hskip hopen ?_ hsettle⟩
      omega

/-- The transaction moves neither document back in time. -/
theorem completionTransaction_updatedAt
    (h : completionTransaction summary attempt receipt completion now = .ok (summary', attempt')) :
    summary.updatedAt ≤ summary'.updatedAt ∧ attempt.updatedAt ≤ attempt'.updatedAt := by
  obtain ⟨evidence, usd, counters, hchk, hresult⟩ := completionTransaction_eq_ok.1 h
  cases hresult with
  | skipped => exact ⟨le_refl _, le_refl _⟩
  | answered => exact ⟨le_refl _, le_refl _⟩
  | charged previous charged settled hskip hprev hdone hcharge hsettle =>
      obtain ⟨_, -, -, hsettled, -⟩ := chargeAttempt_eq_ok hsettle
      have hupdated := congrArg AttemptDocument.updatedAt hsettled
      simp only at hupdated ⊢
      omega

/-- The same completion finds its own charge. -/
theorem completionTransaction_again (now' : Int)
    (h : completionTransaction summary attempt receipt completion now = .ok (summary', attempt')) :
    completionTransaction summary' attempt' receipt completion now'
      = .ok (summary', attempt') := by
  obtain ⟨evidence, usd, counters, hchk, hresult⟩ := completionTransaction_eq_ok.1 h
  cases hresult with
  | skipped hstate hrej =>
      exact completionTransaction_eq_ok.2 ⟨evidence, usd, counters, hchk, .skipped hstate hrej⟩
  | answered previous hskip hprev hdone =>
      exact completionTransaction_eq_ok.2
        ⟨evidence, usd, counters, hchk, .answered previous hskip hprev hdone⟩
  | charged previous charged settled hskip hprev hdone hcharge hsettle =>
      obtain ⟨hmode, counters', hchk'⟩ := checked_again hchk hcharge hsettle
      obtain ⟨_, -, -, hsettled, -⟩ := chargeAttempt_eq_ok hsettle
      have hstate : attempt'.state = .settled := by rw [hsettled]
      have hactual : attempt'.actualTokens = some evidence.totalTokens := by rw [hsettled]
      have hev := (validateCompletion_eq_ok.1 hchk.validated).2
      refine completionTransaction_eq_ok.2 ⟨evidence, _, counters', hchk',
        .answered evidence.totalTokens ?_ ?_ ?_⟩
      · rw [hstate]
        intro h
        cases h.1
      · exact (previousTokens_settled hstate).2 ⟨hactual, hev.total⟩
      · rw [hmode]
        exact answered_again hchk hsettle fun husd => by rw [if_pos husd]

end Transaction

/-- The raw-object completion path stays inside the model: whatever the completion
and the time, from documents that validate the transaction returns documents that
validate, keeps the admission, moves no clock back, and is its own fixed point. -/
theorem completionTransaction_stays_in_model {summary summary' : SummaryDocument}
    {attempt attempt' : AttemptDocument} {s : LedgerSummary} {a : LedgerAttempt}
    (receipt : LedgerAdmissionReceipt) (completion : Decoded Completion) (now : Int)
    (hs : summary.modelValidate = .ok s) (ha : attempt.modelValidate = .ok a)
    (h : completionTransaction summary attempt receipt.toReceiptFields completion now
      = .ok (summary', attempt')) :
    (∃ s', summary'.modelValidate = .ok s') ∧ (∃ a', attempt'.modelValidate = .ok a') ∧
      (attempt'.identity = attempt.identity ∧ attempt'.epoch = attempt.epoch ∧
        attempt'.reservedTokens = attempt.reservedTokens ∧
        attempt'.reservedUsd = attempt.reservedUsd ∧
        attempt'.priceSnapshot = attempt.priceSnapshot ∧
        attempt'.rejectionPolicy = attempt.rejectionPolicy ∧
        attempt'.resolutionEvidence = attempt.resolutionEvidence) ∧
      (summary.updatedAt ≤ summary'.updatedAt ∧ attempt.updatedAt ≤ attempt'.updatedAt) ∧
      ∀ now', completionTransaction summary' attempt' receipt.toReceiptFields completion now'
        = .ok (summary', attempt') := by
  obtain ⟨-, hs⟩ := SummaryDocument.modelValidate_eq_ok.1 hs
  have ha := AttemptDocument.modelValidate_eq_ok.1 ha
  obtain ⟨hversion, hsvalid, havalid⟩ :=
    completionTransaction_valid (hs ▸ s.isValid) (ha ▸ a.isValid) h
  refine ⟨⟨⟨summary'.fields, SummaryFields.validate_eq_ok.2 hsvalid⟩, ?_⟩,
    ⟨⟨attempt'.fields, AttemptFields.validate_eq_ok.2 havalid⟩, ?_⟩, ?_,
    completionTransaction_updatedAt h, fun now' => completionTransaction_again now' h⟩
  · rw [SummaryDocument.modelValidate_eq_ok, hversion]
    exact ⟨rfl, rfl⟩
  · exact AttemptDocument.modelValidate_eq_ok.2 rfl
  · obtain ⟨_, _, _, -, hresult⟩ := completionTransaction_eq_ok.1 h
    cases hresult with
    | skipped => exact ⟨rfl, rfl, rfl, rfl, rfl, rfl, rfl⟩
    | answered => exact ⟨rfl, rfl, rfl, rfl, rfl, rfl, rfl⟩
    | charged _ _ _ _ _ _ _ hsettle =>
        obtain ⟨_, -, -, hsettled, -⟩ := chargeAttempt_eq_ok hsettle
        rw [hsettled]
        exact ⟨rfl, rfl, rfl, rfl, rfl, rfl, rfl⟩

/-- A completion of 60 tokens settles a reservation of 100, and again changes
nothing. -/
theorem completionTransaction_stays_in_model_sample :
    ∃ summary' attempt',
      completionTransaction Sample.reservedSummary.dump Sample.reservedAttempt.dump
        Sample.receipt.toReceiptFields (.record Sample.completion) Sample.start
        = .ok (summary', attempt') ∧
      (summary'.confirmedTokens = some 100 ∧ attempt'.actualTokens = some 60) ∧
      ∀ now', completionTransaction summary' attempt' Sample.receipt.toReceiptFields
        (.record Sample.completion) now' = .ok (summary', attempt') := by
  refine ⟨_, _, rfl, ⟨rfl, rfl⟩, ?_⟩
  exact (completionTransaction_stays_in_model Sample.receipt (.record Sample.completion)
    Sample.start Sample.reservedSummary.modelValidate_dump
    Sample.reservedAttempt.modelValidate_dump rfl).2.2.2.2

end Turnstile
