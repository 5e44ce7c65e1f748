import Turnstile.Ledger.Errors

/-!
# Conservation of the balances

In a run that stays in one unit, each counter of the summary is its opening value
plus the shares of the stored attempts.  One step moves the share of one attempt
(`Conserves.step`), so a whole run conserves (`Conserves.reaches`).

A share is at most its counter, so what a step takes out of a counter was in it,
and no step of a token scope fails because a counter would be negative
(`Conserves.raises`).
-/

namespace Turnstile

open Guard

/-- The operation keeps a scope in unit `m`. -/
def LedgerOp.Keeps (m : BudgetMode) : LedgerOp → Prop
  | .policy _ _ _ _ _ budgetMode _ => budgetMode = m
  | _ => True

instance (m : BudgetMode) (op : LedgerOp) : Decidable (op.Keeps m) := by
  unfold LedgerOp.Keeps
  split <;> infer_instance

namespace Ledger

/-- Every stored attempt is in unit `m`, cancelled ones aside. -/
def AllInMode (m : BudgetMode) (l : Ledger) : Prop :=
  ∀ key attempt, l.attempts.lookup key = some attempt → attempt.InMode m

/-- The scope is kept in unit `m`, and each counter is its opening value plus the
shares of the stored attempts. -/
structure Conserves (m : BudgetMode) (opening : Counter → Int) (l : Ledger) : Prop where
  mode : l.summary.budgetMode = m
  attempts : l.AllInMode m
  balances : ∀ c, l.summary.balance m c
    = opening c + Store.total (fun a => a.share m c) l.attempts

/-- A scope without attempts conserves its own balances. -/
theorem Conserves.opening {m : BudgetMode} {l : Ledger} (hmode : l.summary.budgetMode = m)
    (hempty : l.attempts = ∅) : l.Conserves m (l.summary.balance m) := by
  refine ⟨hmode, ?_, fun c => ?_⟩
  · intro key attempt h
    rw [hempty] at h
    cases h
  · rw [hempty, Store.total_empty, add_zero]

variable {m : BudgetMode} {opening : Counter → Int} {l l' : Ledger} {op : LedgerOp} {now : Int}

/-- One step conserves. -/
theorem Conserves.step (h : l.Conserves m opening) (hkeeps : op.Keeps m)
    (hexact : m = .usd → ∀ key, op.key? = some key →
      ExactStep l.summary.toSummaryFields (l.attempts.lookup key) op)
    (happly : l.apply op now = .ok l') : l'.Conserves m opening := by
  rcases apply_cases happly with
    ⟨key, summary', attempt', hkey, hwrite, rfl⟩ |
    ⟨epoch, revision, tokenLimit, enforce, enabled, budgetMode, usdLimit, summary', rfl, hresult,
      rfl⟩
  · have hin := hwrite.inMode h.mode fun a ha => h.attempts key a ha
    refine ⟨hwrite.keepsTerms.budgetMode.trans h.mode, ?_, fun c => ?_⟩
    · intro k a ha
      by_cases hk : k = key
      · subst hk
        rw [AList.lookup_insert] at ha
        cases ha
        exact hin
      · rw [AList.lookup_insert_ne hk] at ha
        exact h.attempts k a ha
    · have hbalance := h.balances c
      have hmove := hwrite.moves h.mode (fun a ha => h.attempts key a ha)
        fun hm => (hexact hm key hkey).2 c
      have htotal := Store.total_insert (fun a : LedgerAttempt => a.share m c) key attempt'
        l.attempts
      simp only [Moves] at hmove htotal ⊢
      omega
  · have hm : budgetMode = m := hkeeps
    cases hresult with
    | kept => exact h
    | advanced _ _ hs =>
        refine ⟨by rw [hs]; exact hm, h.attempts, fun c => ?_⟩
        rw [← h.balances c, hs]
        cases m <;> cases c <;> rfl

/-- A run of steps that keep the unit conserves. -/
theorem Conserves.reaches {allowed : Ledger → LedgerOp → Prop} {l₀ : Ledger}
    (h₀ : l₀.Conserves m opening)
    (hallowed : ∀ l op, allowed l op → op.Keeps m ∧ (m = .usd → ∀ key, op.key? = some key →
      ExactStep l.summary.toSummaryFields (l.attempts.lookup key) op))
    (h : Reaches allowed l₀ l) : l.Conserves m opening := by
  induction h with
  | refl => exact h₀
  | step _ _ _ hop happly ih => exact ih.step (hallowed _ _ hop).1 (hallowed _ _ hop).2 happly

/-- A share of a stored attempt is within its counter, above the opening value. -/
theorem Conserves.share_le (h : l.Conserves m opening) {key : AttemptKey}
    {attempt : LedgerAttempt} (ha : l.attempts.lookup key = some attempt) (c : Counter) :
    opening c + attempt.share m c ≤ l.summary.balance m c := by
  have hle := Store.le_total (f := fun a : LedgerAttempt => a.share m c)
    (fun a => a.share_nonneg m c) ha
  have hbalance := h.balances c
  omega

end Ledger

/-! ## No counter becomes negative -/

section Errors

variable {summary : LedgerSummary} {attempt : LedgerAttempt} {now : Int}

/-- The counters of `fields` are those of a summary in token mode, less a share of
an attempt in some of them. -/
theorem balance_nonneg_of_tokens {fields : SummaryFields} (hmode : summary.budgetMode = .tokens)
    (hconfirmed : 0 ≤ fields.confirmedTokens) (hactive : 0 ≤ fields.activeReservedTokens)
    (hupper : 0 ≤ fields.upperBoundTokens) (husd : fields.confirmedUsd = summary.confirmedUsd)
    (husd' : fields.activeReservedUsd = summary.activeReservedUsd)
    (husd'' : fields.upperBoundUsd = summary.upperBoundUsd) :
    ∀ m c, 0 ≤ fields.balance m c := by
  obtain ⟨h₁, h₂, h₃⟩ := summary.isValid.tokenBalances hmode
  intro m c
  cases m <;> cases c
  · exact hconfirmed
  · exact hactive
  · exact hupper
  · exact le_of_eq (husd.trans h₁).symm
  · exact le_of_eq (husd'.trans h₂).symm
  · exact le_of_eq (husd''.trans h₃).symm

theorem raises_reserveLedger {identity : LedgerAttemptIdentity} {reservedTokens : Int}
    {reservedUsd : Option ℚ} {priceSnapshot : Option BudgetPriceProjection}
    {countAssurance : CountAssurance} (hmode : summary.budgetMode = .tokens) :
    Raises Harmless (reserveLedger summary identity reservedTokens now reservedUsd priceSnapshot
      countAssurance) := by
  refine raises_bind.2 ⟨raises_require.2 fun _ => rfl, fun _ _ => ?_⟩
  refine raises_bind.2 ⟨raises_require.2 fun _ => rfl, fun _ _ => ?_⟩
  refine raises_bind.2 ⟨raises_require.2 fun _ => rfl, fun _ _ => ?_⟩
  refine raises_bind.2 ⟨raises_require.2 fun _ => rfl, fun _ _ => ?_⟩
  rw [hmode]
  refine raises_bind.2 ⟨raises_require.2 fun _ => rfl, fun _ _ => ?_⟩
  refine raises_bind.2 ⟨raises_attempt _, fun attempt' hattempt => ?_⟩
  refine raises_bind.2 ⟨raises_require.2 fun _ => rfl, fun _ _ => ?_⟩
  refine raises_bind.2 ⟨raises_advanceSummary ?_, fun _ _ => raises_ok _⟩
  have hreserved := attempt'.isValid.reservedTokens.1
  rw [LedgerAttempt.modelValidate_eq_ok.1 hattempt] at hreserved
  have hactive := summary.isValid.activeReservedTokens.1
  refine balance_nonneg_of_tokens hmode summary.isValid.confirmedTokens.1 ?_
    summary.isValid.upperBoundTokens.1 rfl rfl rfl
  simp only at hreserved ⊢
  omega

/-- What an attempt holds or was charged is in the counters. -/
def Within (summary : LedgerSummary) (attempt : LedgerAttempt) : Prop :=
  ∀ c, attempt.share .tokens c ≤ summary.balance .tokens c

theorem Within.active (h : Within summary attempt) (hstate : attempt.state.active = true) :
    attempt.reservedTokens ≤ summary.activeReservedTokens := by
  have := h .active
  simpa [AttemptFields.share, hstate, AttemptFields.held, SummaryFields.balance] using this

theorem Within.upper (h : Within summary attempt) (hstate : attempt.state = .upperBound) :
    attempt.reservedTokens ≤ summary.upperBoundTokens := by
  have := h .upper
  simpa [AttemptFields.share, hstate, AttemptFields.held, SummaryFields.balance] using this

theorem Within.confirmed (h : Within summary attempt) (hmode : attempt.budgetMode = .tokens) :
    attempt.actual .tokens ≤ summary.confirmedTokens := by
  have := h .confirmed
  rwa [attempt.share_confirmed hmode] at this

theorem raises_transitionLedgerAttempt {target : TransitionState}
    (hmode : summary.budgetMode = .tokens) (hin : attempt.InMode .tokens)
    (hwithin : Within summary attempt) :
    Raises Harmless (transitionLedgerAttempt summary attempt target now) := by
  refine raises_bind.2 ⟨raises_require.2 fun _ => rfl, fun _ _ => ?_⟩
  split
  next => exact raises_ok _
  next =>
    refine raises_bind.2 ⟨raises_require.2 fun _ => rfl, fun _ hallowed => ?_⟩
    refine raises_bind.2 ⟨raises_advanceSummary ?_, fun _ _ => ?_⟩
    · have hstate : attempt.state.active = true := by
        have hallowed := require_eq_ok.1 hallowed
        cases target <;> simp only [TransitionState.allowed, List.mem_cons, List.not_mem_nil,
          or_false] at hallowed
        · rw [hallowed]
          rfl
        · rw [hallowed]
          rfl
        · rcases hallowed with hstate | hstate | hstate <;> rw [hstate] <;> rfl
        · rw [hallowed]
          rfl
      have hamode : attempt.budgetMode = .tokens := by
        refine hin.resolve_right fun hc => ?_
        rw [hc.2] at hstate
        cases hstate
      have hactive := hwithin.active hstate
      have hreserved := attempt.isValid.reservedTokens.1
      have hupper := summary.isValid.upperBoundTokens.1
      have hheld := summary.isValid.activeReservedTokens.1
      rw [transitionFields, hamode]
      refine balance_nonneg_of_tokens hmode summary.isValid.confirmedTokens.1 ?_ ?_ rfl rfl rfl
      · simp only
        split <;> omega
      · simp only
        split <;> omega
    · refine raises_bind.2 ⟨raises_attempt _, fun _ _ => raises_ok _⟩

theorem raises_resolveLedger {resolution : Decoded BudgetReservationResolution}
    (hmode : summary.budgetMode = .tokens) (hwithin : Within summary attempt) :
    Raises Harmless (resolveLedger summary attempt resolution now) := by
  refine raises_bind.2 ⟨?_, fun approved _ => ?_⟩
  · intro e he
    cases hv : validateResolution resolution with
    | ok _ =>
        rw [hv] at he
        cases he
    | error e' =>
        rw [hv] at he
        cases e' <;> cases he <;> rfl
  refine raises_bind.2 ⟨raises_receipt _, fun expected _ => ?_⟩
  refine raises_bind.2 ⟨raises_receipt _, fun receipt _ => ?_⟩
  refine raises_bind.2 ⟨raises_require.2 fun _ => rfl, fun _ hsame => ?_⟩
  have hamode : attempt.budgetMode = .tokens := (require_eq_ok.1 hsame).2.2.2.1.trans hmode
  cases attempt.resolutionEvidence with
  | some earlier => simp
  | none =>
      simp only
      split
      next => exact raises_ok _
      next =>
        refine raises_bind.2 ⟨raises_require.2 fun _ => rfl, fun _ hheld => ?_⟩
        refine raises_bind.2 ⟨raises_advanceSummary ?_, fun _ _ =>
          raises_bind.2 ⟨raises_attempt _, fun _ _ => raises_ok _⟩⟩
        have hactive := summary.isValid.activeReservedTokens.1
        have hupper := summary.isValid.upperBoundTokens.1
        rw [releaseHeld, hamode]
        refine balance_nonneg_of_tokens hmode summary.isValid.confirmedTokens.1 ?_ ?_ rfl rfl rfl
        · simp only
          split
          next hne =>
            have := hwithin.active ((require_eq_ok.1 hheld).resolve_right hne)
            omega
          next => omega
        · simp only
          split
          next => omega
          next heq =>
            have := hwithin.upper (not_not.1 heq)
            omega

@[simp] theorem raises_settlementAnswered (attempt : LedgerAttempt) (charge : LedgerCharge) :
    Raises Harmless (settlementAnswered attempt charge) := by
  unfold settlementAnswered
  simp only
  split
  next => simp
  next =>
    split
    next => simp
    next =>
      split
      next => simp
      next =>
        split
        next => simp
        next =>
          split
          next => simp
          next => split <;> simp

theorem raises_settleLedger {charge : LedgerCharge} (hmode : summary.budgetMode = .tokens)
    (hwithin : Within summary attempt) :
    Raises Harmless (settleLedger summary attempt charge now) := by
  unfold settleLedger
  cases charge.resolutionEvidence with
  | some resolution => exact raises_resolveLedger hmode hwithin
  | none =>
      refine raises_bind.2 ⟨raises_require.2 fun _ => rfl, fun _ _ => ?_⟩
      split
      next => exact raises_bind.2 ⟨raises_require.2 fun _ => rfl, fun _ _ => raises_ok _⟩
      next =>
        refine raises_bind.2 ⟨raises_require.2 fun _ => rfl, fun _ hsame => ?_⟩
        refine raises_bind.2 ⟨raises_require.2 fun _ => rfl, fun _ _ => ?_⟩
        refine raises_bind.2 ⟨raises_require.2 fun _ => rfl, fun _ _ => ?_⟩
        refine raises_bind.2 ⟨raises_settlementAnswered _ _, fun answered _ => ?_⟩
        split
        next => exact raises_ok _
        next =>
          refine raises_bind.2 ⟨raises_advanceSummary ?_, fun _ _ =>
            raises_bind.2 ⟨raises_attempt _, fun _ _ => raises_ok _⟩⟩
          have hamode : attempt.budgetMode = .tokens := (require_eq_ok.1 hsame).1.trans hmode
          obtain ⟨husd, -, -, -⟩ := attempt.isValid.tokens hamode
          obtain ⟨-, hzero, hzero'⟩ := summary.isValid.tokenBalances hmode
          have hactive := summary.isValid.activeReservedTokens.1
          have hupper := summary.isValid.upperBoundTokens.1
          have htotal := charge.isValid.totalTokens.1
          have hcharged := hwithin.confirmed hamode
          have hsub : defaultContext.sub 0 0 = 0 := by decide
          refine balance_nonneg_of_tokens hmode ?_ ?_ ?_ ?_ ?_ ?_
          · simp only [chargedFields, hmode, if_true, AttemptFields.actual] at hcharged ⊢
            omega
          · simp only [chargedFields, hamode, true_and]
            split
            next hstate =>
              have := hwithin.active hstate
              omega
            next => omega
          · simp only [chargedFields, hamode, true_and]
            split
            next hstate =>
              have := hwithin.upper hstate
              omega
            next => omega
          · simp [chargedFields, hmode]
          · simp [chargedFields, husd, hzero, hsub]
          · simp [chargedFields, husd, hzero', hsub]

theorem raises_answered (attempt : AttemptDocument) (evidence : Completion) (mode : BudgetMode)
    (usd : Int × Int) (previous : Int) :
    Raises Harmless (answered attempt evidence mode usd previous) := by
  have hcompletion : Raises Harmless
      (answeredByCompletion attempt evidence mode usd previous) := by
    unfold answeredByCompletion
    cases attempt.completionEvidence <;> simp
  unfold answered
  split
  next =>
    split
    next => exact raises_ok _
    next =>
      refine raises_bind.2 ⟨raises_require.2 fun _ => rfl, fun _ _ => ?_⟩
      cases attempt.rejectionEvidence with
      | none => exact hcompletion
      | some retained => simp
  next => exact hcompletion

theorem raises_completionTransaction {receipt : ReceiptFields} {completion : Decoded Completion}
    (hmode : summary.budgetMode = .tokens) (hwithin : Within summary attempt) :
    Raises Harmless
      (completionTransaction summary.dump attempt.dump receipt completion now) := by
  have hprice : ∀ identity evidence mode,
      Raises Harmless (priceCompletion attempt.dump receipt identity evidence mode) := by
    intro identity evidence mode
    cases mode with
    | tokens => exact raises_ok _
    | usd =>
        unfold priceCompletion
        cases attempt.dump.priceSnapshot with
        | none => simp
        | some projection =>
            simp only [raises_bind, raises_require, raises_exactUsdField,
              raises_usdCompletionCharge, harmless_valueError, implies_true, true_and]
            intros
            split <;> simp
  refine raises_bind.2 ⟨raises_validateCompletion _, fun evidence hevidence => ?_⟩
  refine raises_bind.2 ⟨?_, fun usd husd => ?_⟩
  · simp [checkAdmission, hprice, raises_exactInteger, counterFields]
  have hadm := checkAdmission_eq_ok.1 husd
  have hamode : attempt.budgetMode = .tokens := by
    have : attempt.budgetMode = summary.budgetMode := hadm.mode
    rw [this, hmode]
  refine raises_bind.2 ⟨?_, fun counters hcounters => ?_⟩
  · have hc := summary.isValid.confirmedTokens.1
    have ha := summary.isValid.activeReservedTokens.1
    have hu := summary.isValid.upperBoundTokens.1
    simp [checkCounters, LedgerSummary.dump, raises_exactKey, raises_exactInteger, counterFields,
      hc, ha, hu]
  have hread := checkCounters_eq_ok.1 hcounters
  refine raises_bind.2 ⟨?_, fun _ _ => ?_⟩
  · unfold checkResolution
    cases attempt.dump.resolutionEvidence <;> simp
  refine raises_bind.2 ⟨raises_require.2 fun _ => rfl, fun _ _ => ?_⟩
  split
  next => exact raises_ok _
  next =>
    refine raises_bind.2 ⟨?_, fun previous hprevious => ?_⟩
    · unfold previousTokens
      split
      next => cases attempt.dump.actualTokens <;> simp [raises_exactKey, counterFields]
      next => simp
    refine raises_bind.2 ⟨raises_answered _ _ _ _ _, fun done _ => ?_⟩
    split
    next => exact raises_ok _
    next =>
      refine raises_bind.2 ⟨?_, fun charged _ => ?_⟩
      · have hc : summary.confirmedTokens = counters.confirmedTokens :=
          Option.some.inj hread.confirmed
        have ha : summary.activeReservedTokens = counters.activeReservedTokens :=
          Option.some.inj hread.active
        have hu : summary.upperBoundTokens = counters.upperBoundTokens :=
          Option.some.inj hread.upper
        have hreserved : attempt.reservedTokens = receipt.reservedTokens := hadm.reserved
        have hcharged := hwithin.confirmed hamode
        have htotal := (validateCompletion_eq_ok.1 hevidence).2.total.1
        have hactive := summary.isValid.activeReservedTokens.1
        have hupper := summary.isValid.upperBoundTokens.1
        have hprev : previous = attempt.actual .tokens := by
          rw [attempt.previousTokens_dump] at hprevious
          exact (Except.ok.inj hprevious).symm
        have hdump : summary.dump.budgetMode = .tokens := hmode
        unfold chargeSummary
        rw [hdump]
        refine raises_bind.2 ⟨raises_exactInteger (.inl (by decide)), fun _ _ => ?_⟩
        refine raises_bind.2 ⟨raises_exactInteger (.inr ?_), fun _ _ => ?_⟩
        · omega
        refine raises_bind.2 ⟨raises_exactInteger (.inr ?_), fun _ _ => ?_⟩
        · split
          next hstate =>
            have := hwithin.active hstate
            omega
          next => omega
        refine raises_bind.2 ⟨raises_exactInteger (.inr ?_), fun _ _ => raises_ok _⟩
        split
        next hstate =>
          have := hwithin.upper hstate
          omega
        next => omega
      · refine raises_bind.2 ⟨?_, fun _ _ => raises_ok _⟩
        refine raises_bind.2 ⟨raises_exactKey (.inl (by decide)), fun _ _ => ?_⟩
        by_cases hrej : evidence.rejection = none
        · rw [if_pos hrej]
          exact raises_ok _
        · rw [if_neg hrej]
          exact raises_ok _

theorem raises_completeLedger {receipt : LedgerAdmissionReceipt}
    {completion : Decoded Completion} (hmode : summary.budgetMode = .tokens)
    (hwithin : Within summary attempt) :
    Raises Harmless (completeLedger summary attempt receipt completion now) := by
  refine raises_bind.2 ⟨?_, ?_⟩
  · intro e he
    cases hx : completionTransaction summary.dump attempt.dump receipt.toReceiptFields completion
        now with
    | ok _ =>
        rw [hx] at he
        cases he
    | error e' =>
        have he' := raises_completionTransaction hmode hwithin e' hx
        rw [hx] at he
        simp only [conflictFromValueError, Except.error.injEq] at he
        subst he
        split
        next => exact he'
        next => exact he'
  · rintro ⟨updated, settled⟩ htransaction
    rw [conflictFromValueError_eq_ok] at htransaction
    have hsdump : summary.dump.fields.Valid := summary.isValid
    have hadump : attempt.dump.fields.Valid := attempt.isValid
    obtain ⟨hversion, hs, ha⟩ := completionTransaction_valid hsdump hadump htransaction
    simp only
    split
    next => exact raises_ok _
    next =>
      -- Both documents validate, so neither check can fail.
      have hsummary : updated.modelValidate
          = .ok ⟨updated.fields, SummaryFields.validate_eq_ok.2 hs⟩ :=
        SummaryDocument.modelValidate_eq_ok.2 ⟨by rw [hversion]; rfl, rfl⟩
      have hattempt : settled.modelValidate
          = .ok ⟨settled.fields, AttemptFields.validate_eq_ok.2 ha⟩ :=
        AttemptDocument.modelValidate_eq_ok.2 rfl
      rw [hsummary, hattempt]
      simp

end Errors

namespace Ledger

variable {opening : Counter → Int} {l : Ledger} {op : LedgerOp} {now : Int}

theorem raises_onAttempt {key : AttemptKey}
    {f : LedgerSummary → LedgerAttempt → Except LedgerError (LedgerSummary × LedgerAttempt)}
    (h : ∀ attempt, l.attempts.lookup key = some attempt → Raises Harmless (f l.summary attempt)) :
    Raises Harmless (l.onAttempt key f) := by
  unfold onAttempt
  cases ha : l.attempts.lookup key with
  | none => simp
  | some attempt => exact raises_bind.2 ⟨h attempt ha, fun _ _ => raises_ok _⟩

theorem raises_onAbsent {key : AttemptKey}
    {x : Except LedgerError (LedgerSummary × LedgerAttempt)} (h : Raises Harmless x) :
    Raises Harmless (l.onAbsent key x) :=
  raises_bind.2 ⟨raises_require.2 fun _ => rfl, fun _ _ =>
    raises_bind.2 ⟨h, fun _ _ => raises_ok _⟩⟩

/-- In a token scope that conserves, no operation fails on a negative counter. -/
theorem Conserves.raises (h : l.Conserves .tokens opening) (hopening : ∀ c, 0 ≤ opening c)
    (hkeeps : op.Keeps .tokens) : Raises Harmless (l.apply op now) := by
  have hwithin : ∀ key attempt, l.attempts.lookup key = some attempt →
      Within l.summary attempt := by
    intro key attempt ha c
    have hle := h.share_le ha c
    have hopen := hopening c
    omega
  cases op with
  | reserve => exact raises_onAbsent (raises_reserveLedger h.mode)
  | transition key target =>
      rw [apply]
      refine raises_onAttempt fun attempt ha => ?_
      exact raises_transitionLedgerAttempt h.mode (h.attempts key attempt ha)
        (hwithin key attempt ha)
  | settle key charge =>
      rw [apply]
      refine raises_onAttempt fun attempt ha => ?_
      exact raises_settleLedger h.mode (hwithin key attempt ha)
  | resolve key resolution =>
      rw [apply]
      refine raises_onAttempt fun attempt ha => ?_
      exact raises_resolveLedger h.mode (hwithin key attempt ha)
  | complete key receipt completion =>
      rw [apply]
      refine raises_onAttempt fun attempt ha => ?_
      exact raises_completeLedger h.mode (hwithin key attempt ha)
  | tombstone admission =>
      refine raises_onAbsent (raises_bind.2 ⟨raises_require.2 fun _ => rfl, fun _ _ => ?_⟩)
      refine raises_bind.2 ⟨raises_attempt _, fun _ _ => ?_⟩
      refine raises_bind.2 ⟨raises_summary ?_, fun _ _ => raises_ok _⟩
      intro m c
      have hmc := l.summary.balance_nonneg m c
      cases m <;> cases c <;> exact hmc
  | policy epoch revision tokenLimit enforce enabled budgetMode usdLimit =>
      have hbalance : ∀ m c, 0 ≤ ({ l.summary.toSummaryFields with
          policyRevision := revision, tokenLimit, budgetMode, usdLimit, enforce, enabled }
            : SummaryFields).balance m c := by
        intro m c
        have hmc := l.summary.balance_nonneg m c
        cases m <;> cases c <;> exact hmc
      refine raises_bind.2 ⟨raises_bind.2 ⟨raises_require.2 fun _ => rfl, fun _ _ => ?_⟩,
        fun _ _ => raises_ok _⟩
      refine raises_bind.2 ⟨raises_summary hbalance, fun candidate _ => ?_⟩
      split
      next => exact raises_ok _
      next =>
        split
        next => exact raises_bind.2 ⟨raises_require.2 fun _ => rfl, fun _ _ => raises_ok _⟩
        next => exact raises_advanceSummary hbalance

/-- Token-ledger conservation.  After any run from a scope with nothing reserved,
the active counter is the sum of the reservations that are reserved, dispatching
or uncertain, the upper-bound counter the sum of those held at their upper bound,
and the confirmed counter its opening value plus the sum of the settled charges;
and no operation fails because a counter would be negative. -/
theorem token_conservation {l₀ l : Ledger} (hmode : l₀.summary.budgetMode = .tokens)
    (hactive : l₀.summary.activeReservedTokens = 0) (hupper : l₀.summary.upperBoundTokens = 0)
    (hempty : l₀.attempts = ∅) (hrun : Reaches (fun _ op => op.Keeps .tokens) l₀ l) :
    l.summary.activeReservedTokens = Store.total (fun a : LedgerAttempt =>
        if a.state = .reserved ∨ a.state = .dispatching ∨ a.state = .uncertain
          then a.reservedTokens else 0) l.attempts ∧
      l.summary.upperBoundTokens = Store.total (fun a : LedgerAttempt =>
        if a.state = .upperBound then a.reservedTokens else 0) l.attempts ∧
      l.summary.confirmedTokens = l₀.summary.confirmedTokens +
        Store.total (fun a : LedgerAttempt =>
          if a.state = .settled then a.actualTokens.getD 0 else 0) l.attempts ∧
      ∀ op now e, op.Keeps .tokens → l.apply op now = .error e → e.negativeCounter = false := by
  have h := (Conserves.opening hmode hempty).reaches
    (fun _ _ hkeeps => ⟨hkeeps, fun hm => BudgetMode.noConfusion hm⟩) hrun
  have hlive : (fun a : LedgerAttempt => a.share .tokens .active) = fun a =>
      if a.state = .reserved ∨ a.state = .dispatching ∨ a.state = .uncertain
        then a.reservedTokens else 0 := by
    funext a
    cases hstate : a.state <;> simp [AttemptFields.share, AttemptFields.held, hstate]
  have hopening : ∀ c, 0 ≤ l₀.summary.balance .tokens c := l₀.summary.balance_nonneg .tokens
  refine ⟨?_, ?_, ?_, fun op now e hkeeps he => h.raises hopening hkeeps e he⟩
  · have hbalance := h.balances .active
    simp only [SummaryFields.balance, hactive, hlive, zero_add] at hbalance
    exact hbalance
  · have hbalance := h.balances .upper
    simp only [SummaryFields.balance, hupper, zero_add] at hbalance
    exact hbalance
  · exact h.balances .confirmed

/-- A reservation of 100 that a completion settles at 60. -/
theorem token_conservation_sample :
    ∃ l, run ⟨Sample.tokenSummary, ∅⟩ Sample.completedSteps = .ok l ∧
      l.summary.confirmedTokens = 100 ∧
      l.summary.confirmedTokens = Sample.tokenSummary.confirmedTokens +
        Store.total (fun a : LedgerAttempt =>
          if a.state = .settled then a.actualTokens.getD 0 else 0) l.attempts := by
  have hkeeps : ∀ l : Ledger, ∀ step ∈ Sample.completedSteps, step.1.Keeps .tokens := by
    intro _ step hstep
    simp only [Sample.completedSteps, List.mem_cons, List.not_mem_nil, or_false] at hstep
    rcases hstep with rfl | rfl <;> trivial
  refine ⟨_, rfl, rfl, ?_⟩
  have hrun : run ⟨Sample.tokenSummary, ∅⟩ Sample.completedSteps = _ := rfl
  exact (token_conservation rfl rfl rfl rfl (reaches_of_run .refl hkeeps hrun)).2.2.1

end Ledger

end Turnstile
