import Turnstile.Ledger.State

/-!
# Balances and shares

A summary keeps three counters in each unit: what is confirmed, what is actively
reserved, and what is held at its upper bound.  An attempt has a share in exactly
one of them, by its state.  `LedgerWrite.moves` says that every step takes the
share of the attempt it replaces out of the balances and puts in the share of the
attempt it writes.  In USD this needs the sums of the step to be exact in the
context they are computed in (`ExactStep`).
-/

namespace Turnstile

inductive Counter where
  | confirmed
  | active
  | upper
deriving DecidableEq, Repr

namespace SummaryFields

/-- The counter of a summary in one unit. -/
def balance (s : SummaryFields) : BudgetMode → Counter → Int
  | .tokens, .confirmed => s.confirmedTokens
  | .tokens, .active => s.activeReservedTokens
  | .tokens, .upper => s.upperBoundTokens
  | .usd, .confirmed => s.confirmedUsd
  | .usd, .active => s.activeReservedUsd
  | .usd, .upper => s.upperBoundUsd

end SummaryFields

namespace AttemptFields

/-- What the attempt reserved, in one unit. -/
def held (a : AttemptFields) : BudgetMode → Int
  | .tokens => a.reservedTokens
  | .usd => a.reservedUsd.getD 0

/-- What the attempt was charged, in one unit. -/
def actual (a : AttemptFields) : BudgetMode → Int
  | .tokens => a.actualTokens.getD 0
  | .usd => a.actualUsd.getD 0

/-- What the attempt contributes to a counter. -/
def share (a : AttemptFields) (m : BudgetMode) : Counter → Int
  | .confirmed => if a.state = .settled then a.actual m else 0
  | .active => if a.state.active = true then a.held m else 0
  | .upper => if a.state = .upperBound then a.held m else 0

end AttemptFields

namespace LedgerAttempt

variable (a : LedgerAttempt)

theorem held_nonneg (m : BudgetMode) : 0 ≤ a.held m := by
  cases m with
  | tokens =>
      have h := a.isValid.reservedTokens.1
      simp only [AttemptFields.held]
      omega
  | usd =>
      simp only [AttemptFields.held]
      cases hr : a.reservedUsd with
      | none => simp
      | some x => exact (a.isValid.reservedUsd x hr).1

theorem actual_nonneg (m : BudgetMode) : 0 ≤ a.actual m := by
  cases m with
  | tokens =>
      simp only [AttemptFields.actual]
      cases hr : a.actualTokens with
      | none => simp
      | some x => exact a.isValid.actualTokens x hr
  | usd =>
      simp only [AttemptFields.actual]
      cases hr : a.actualUsd with
      | none => simp
      | some x => exact (a.isValid.actualUsd x hr).1

theorem share_nonneg (m : BudgetMode) (c : Counter) : 0 ≤ a.share m c := by
  have hheld := a.held_nonneg m
  have hactual := a.actual_nonneg m
  cases c <;> simp only [AttemptFields.share] <;> split <;> omega

/-- An attempt that is not settled was charged nothing. -/
theorem share_confirmed {m : BudgetMode} (hm : a.budgetMode = m) :
    a.share m .confirmed = a.actual m := by
  simp only [AttemptFields.share]
  split
  next => rfl
  next hstate =>
    cases m with
    | tokens =>
        have h : a.actualTokens = none := by
          by_contra hne
          exact hstate (a.isValid.settled.2 hne)
        simp [AttemptFields.actual, h]
    | usd =>
        have h : a.actualUsd = none := by
          by_contra hne
          exact hstate ((a.isValid.usdSettled hm).2 hne)
        simp [AttemptFields.actual, h]

/-- `completion_transaction` reads the charge it replaces. -/
theorem previousTokens_dump : previousTokens a.dump = .ok (a.actual .tokens) := by
  by_cases hstate : a.state = .settled
  · obtain ⟨n, hn⟩ := a.settled_iff.1 hstate
    have hactual : a.actual .tokens = n := by simp [AttemptFields.actual, hn]
    rw [hactual, @previousTokens_settled a.dump hstate]
    exact ⟨hn, a.isValid.actualTokens n hn, a.isValid.actualTokens_le n hn⟩
  · have hnone : a.actualTokens = none := by
      by_contra hne
      exact hstate (a.isValid.settled.2 hne)
    rw [@previousTokens_of_not_settled a.dump hstate]
    exact ⟨hnone, by simp [AttemptFields.actual, hnone]⟩

/-- In a scope kept in unit `m`, an attempt is in that unit; a USD scope may also
have the tombstone of an admission in tokens, which nothing charges. -/
def InMode (m : BudgetMode) : Prop := a.budgetMode = m ∨ m = .usd ∧ a.state = .cancelled

end LedgerAttempt

/-! ## Sums in the default context -/

/-- The exact results of `available_usd` have at most 28 digits. -/
def ExactAvailable (summary : SummaryFields) : Prop :=
  ∀ limit ∈ summary.usdLimit,
    defaultContext.Exact (limit - summary.confirmedUsd) ∧
    defaultContext.Exact (limit - summary.confirmedUsd - summary.activeReservedUsd) ∧
    defaultContext.Exact
      (limit - summary.confirmedUsd - summary.activeReservedUsd - summary.upperBoundUsd)

/-- The USD sums that an operation computes in the default context, for one counter,
have at most 28 digits.  Completions and resolutions use the local context. -/
def ExactSum (summary : SummaryFields) (attempt : Option LedgerAttempt) :
    Counter → LedgerOp → Prop
  | .active, .reserve _ _ reservedUsd _ _ =>
      ∀ units ∈ reservedUsd.bind usdOfDecimal?,
        defaultContext.Exact (summary.activeReservedUsd + units)
  | .active, .transition _ target =>
      ∀ a ∈ attempt, a.state ∈ target.allowed → target = .upperBound ∨ target = .cancelled →
        defaultContext.Exact (summary.activeReservedUsd - a.held .usd)
  | .upper, .transition _ target =>
      ∀ a ∈ attempt, a.state ∈ target.allowed → target = .upperBound →
        defaultContext.Exact (summary.upperBoundUsd + a.held .usd)
  | .confirmed, .settle _ charge =>
      ∀ a ∈ attempt, charge.resolutionEvidence = none →
        settlementAnswered a charge = .ok false →
        defaultContext.Exact (summary.confirmedUsd + charge.actualUsd.getD 0) ∧
        defaultContext.Exact (summary.confirmedUsd + charge.actualUsd.getD 0 - a.actual .usd)
  | .active, .settle _ charge =>
      ∀ a ∈ attempt, charge.resolutionEvidence = none →
        settlementAnswered a charge = .ok false →
        defaultContext.Exact (summary.activeReservedUsd - a.share .usd .active)
  | .upper, .settle _ charge =>
      ∀ a ∈ attempt, charge.resolutionEvidence = none →
        settlementAnswered a charge = .ok false →
        defaultContext.Exact (summary.upperBoundUsd - a.share .usd .upper)
  | _, _ => True

/-- What an enforcing reservation compares with is exact. -/
def ExactRemaining (summary : SummaryFields) : LedgerOp → Prop
  | .reserve .. => summary.enforce = true → ExactAvailable summary
  | _ => True

/-- Everything that an operation computes in the default context is exact. -/
def ExactStep (summary : SummaryFields) (attempt : Option LedgerAttempt) (op : LedgerOp) : Prop :=
  ExactRemaining summary op ∧ ∀ c, ExactSum summary attempt c op

/-! ## Steps move shares -/

section Moves

variable {m : BudgetMode} {c : Counter} {summary summary' : LedgerSummary} {now : Int}

/-- The attempt `a` was replaced by `a'`, and the balance follows. -/
def Moves (m : BudgetMode) (c : Counter) (s s' : SummaryFields) (a : Option LedgerAttempt)
    (a' : LedgerAttempt) : Prop :=
  s'.balance m c = s.balance m c - Store.share (fun b => b.share m c) a + a'.share m c

theorem Moves.refl (s : SummaryFields) (a : LedgerAttempt) : Moves m c s s (some a) a := by
  simp [Moves]

section Reserve

variable {identity : LedgerAttemptIdentity} {reservedTokens : Int} {reservedUsd : Option ℚ}
  {priceSnapshot : Option BudgetPriceProjection} {countAssurance : CountAssurance}
  {attempt' : LedgerAttempt}

theorem ReserveResult.mode
    (h : ReserveResult summary identity reservedTokens now reservedUsd priceSnapshot
      summary' attempt') : attempt'.budgetMode = summary.budgetMode := by
  cases h with
  | tokens hmode _ _ _ _ ha => rw [ha, hmode]
  | usd _ _ _ hmode _ _ _ _ _ _ _ ha => rw [ha, hmode]

theorem ReserveResult.moves
    (h : ReserveResult summary identity reservedTokens now reservedUsd priceSnapshot
      summary' attempt')
    (hm : summary.budgetMode = m)
    (hexact : m = .usd → ExactSum summary.toSummaryFields none c
      (.reserve identity reservedTokens reservedUsd priceSnapshot countAssurance)) :
    Moves m c summary.toSummaryFields summary'.toSummaryFields none attempt' := by
  unfold Moves
  cases h with
  | tokens hmode _ _ _ hs ha =>
      obtain rfl : m = .tokens := hm.symm.trans hmode
      rw [hs, ha]
      cases c <;> simp [SummaryFields.balance, AttemptFields.share, AttemptFields.held]
  | usd amount units projection hmode hamount _ hunits _ _ _ hs ha =>
      obtain rfl : m = .usd := hm.symm.trans hmode
      rw [hs, ha]
      cases c with
      | active =>
          have hsum := hexact rfl units (by rw [hamount]; exact hunits)
          simp [SummaryFields.balance, AttemptFields.share, AttemptFields.held, hsum.add]
      | confirmed => simp [SummaryFields.balance, AttemptFields.share]
      | upper => simp [SummaryFields.balance, AttemptFields.share]

end Reserve

variable {attempt attempt' : LedgerAttempt} {key : AttemptKey}

/-- Only an active attempt moves. -/
theorem TransitionState.active_of_allowed {target : TransitionState}
    (h : attempt.state ∈ target.allowed) : attempt.state.active = true := by
  cases target <;> simp only [TransitionState.allowed, List.mem_cons, List.not_mem_nil,
    or_false] at h
  · rw [h]
    rfl
  · rw [h]
    rfl
  · rcases h with h | h | h <;> rw [h] <;> rfl
  · rw [h]
    rfl

theorem TransitionResult.inMode {target : TransitionState}
    (h : TransitionResult summary attempt target now summary' attempt')
    (hin : attempt.InMode m) : attempt'.InMode m := by
  cases h with
  | kept => exact hin
  | moved hstate _ _ ha =>
      have hactive := TransitionState.active_of_allowed hstate
      refine .inl ?_
      rw [ha]
      refine hin.resolve_right fun hc => ?_
      rw [hc.2] at hactive
      cases hactive

theorem TransitionResult.moves {target : TransitionState}
    (h : TransitionResult summary attempt target now summary' attempt')
    (hin : attempt.InMode m)
    (hexact : m = .usd →
      ExactSum summary.toSummaryFields (some attempt) c (.transition key target)) :
    Moves m c summary.toSummaryFields summary'.toSummaryFields (some attempt) attempt' := by
  cases h with
  | kept => exact Moves.refl _ _
  | moved hstate _ hs ha =>
      have hactive := TransitionState.active_of_allowed hstate
      have hmode : attempt.budgetMode = m := by
        refine hin.resolve_right fun hc => ?_
        rw [hc.2] at hactive
        cases hactive
      have hnu : attempt.state ≠ .upperBound := by
        intro hu
        rw [hu] at hactive
        cases hactive
      have hns : attempt.state ≠ .settled := by
        intro hu
        rw [hu] at hactive
        cases hactive
      unfold Moves
      rw [hs, ha]
      cases m with
      | tokens =>
          cases target <;> cases c <;>
            simp [SummaryFields.balance, AttemptFields.share, AttemptFields.held,
              transitionFields, hmode, hactive, hnu, hns, TransitionState.state]
      | usd =>
          cases c with
          | confirmed =>
              cases target <;> simp [SummaryFields.balance, AttemptFields.share, transitionFields,
                hmode, hns, TransitionState.state]
          | active =>
              have hrelease : target = .upperBound ∨ target = .cancelled →
                  defaultContext.sub summary.activeReservedUsd (attempt.reservedUsd.getD 0)
                    = summary.activeReservedUsd - attempt.reservedUsd.getD 0 :=
                fun htarget => (hexact rfl attempt rfl hstate htarget).sub
              cases target <;> simp [SummaryFields.balance, AttemptFields.share,
                AttemptFields.held, transitionFields, hmode, hactive, TransitionState.state,
                hrelease]
          | upper =>
              have hhold : target = .upperBound →
                  defaultContext.add summary.upperBoundUsd (attempt.reservedUsd.getD 0)
                    = summary.upperBoundUsd + attempt.reservedUsd.getD 0 :=
                fun htarget => (hexact rfl attempt rfl hstate htarget).add
              cases target <;> simp [SummaryFields.balance, AttemptFields.share,
                AttemptFields.held, transitionFields, hmode, hnu, TransitionState.state, hhold]

theorem ResolveResult.mode (h : ResolveResult summary attempt now summary' attempt') :
    attempt'.budgetMode = attempt.budgetMode := by
  cases h with
  | kept => rfl
  | released _ _ _ _ _ ha => rw [ha]

theorem ResolveResult.moves
    (h : ResolveResult summary attempt now summary' attempt')
    (hm : summary.budgetMode = m) (hmode : attempt.budgetMode = summary.budgetMode) :
    Moves m c summary.toSummaryFields summary'.toSummaryFields (some attempt) attempt' := by
  have ham : attempt.budgetMode = m := hmode.trans hm
  cases h with
  | kept => exact Moves.refl _ _
  | released approved hnone hstate _ hs ha =>
      have hns : attempt.state ≠ .settled := by
        rintro hsettled
        rw [hsettled] at hstate
        rcases hstate with hstate | hstate <;> cases hstate
      have hsplit : attempt.state.active = true ∧ attempt.state ≠ .upperBound ∨
          attempt.state.active = false ∧ attempt.state = .upperBound := by
        rcases hstate with hstate | hstate
        · refine .inl ⟨hstate, fun hu => ?_⟩
          rw [hu] at hstate
          cases hstate
        · exact .inr ⟨by rw [hstate]; rfl, hstate⟩
      unfold Moves
      rw [hs, ha]
      cases m with
      | tokens =>
          rcases hsplit with ⟨hact, hup⟩ | ⟨hact, hup⟩ <;> cases c <;>
            simp [SummaryFields.balance, AttemptFields.share, AttemptFields.held, releaseHeld,
              ham, hact, hup, hns]
      | usd =>
          obtain ⟨held, hheld⟩ := Option.ne_none_iff_exists'.1 (attempt.isValid.usd ham).1
          have hrange := attempt.isValid.reservedUsd held hheld
          have hsub : ∀ x, UsdInRange x → ∀ y, (y = held ∨ y = 0) →
              localContext.sub x y = x - y := by
            intro x hx y hy
            simp only [UsdInRange] at hx hrange
            refine (localContext_exact ?_ ?_).sub <;> rcases hy with rfl | rfl <;>
              simp only [usdBound] at * <;> omega
          have hactive := fun y hy => hsub _ summary.isValid.activeReservedUsd y hy
          have hupper := fun y hy => hsub _ summary.isValid.upperBoundUsd y hy
          rcases hsplit with ⟨hact, hup⟩ | ⟨hact, hup⟩ <;> cases c <;>
            simp [SummaryFields.balance, AttemptFields.share, AttemptFields.held, releaseHeld,
              ham, hact, hup, hns, hheld, hactive, hupper]

theorem SettleResult.inMode {charge : LedgerCharge}
    (h : SettleResult summary attempt charge now summary' attempt')
    (hm : summary.budgetMode = m) (hin : attempt.InMode m) : attempt'.InMode m := by
  cases h with
  | resolved _ _ hresolve =>
      obtain ⟨hsame, hresult⟩ := resolveLedger_result hresolve
      exact .inl (hresult.mode.trans (hsame.mode.trans hm))
  | late => exact hin
  | answered => exact hin
  | charged _ hallowed _ _ _ ha =>
      refine .inl ?_
      rw [ha]
      exact hallowed.attemptMode.trans hm

theorem SettleResult.moves {charge : LedgerCharge}
    (h : SettleResult summary attempt charge now summary' attempt')
    (hm : summary.budgetMode = m)
    (hexact : m = .usd → ExactSum summary.toSummaryFields (some attempt) c (.settle key charge)) :
    Moves m c summary.toSummaryFields summary'.toSummaryFields (some attempt) attempt' := by
  cases h with
  | resolved resolution _ hresolve =>
      obtain ⟨hsame, hresult⟩ := resolveLedger_result hresolve
      exact hresult.moves hm hsame.mode
  | late => exact Moves.refl _ _
  | answered => exact Moves.refl _ _
  | charged hnone hallowed hopen _ hs ha =>
      have ham : attempt.budgetMode = m := hallowed.attemptMode.trans hm
      have hconfirmed := attempt.share_confirmed ham
      unfold Moves
      rw [Store.share_some, hs, ha]
      cases m with
      | tokens =>
          cases c
          · rw [hconfirmed]
            simp [SummaryFields.balance, AttemptFields.share, AttemptFields.actual,
              chargedFields, hm]
            omega
          · simp [SummaryFields.balance, AttemptFields.share, AttemptFields.held,
              chargedFields, ham]
          · simp [SummaryFields.balance, AttemptFields.share, AttemptFields.held,
              chargedFields, ham]
      | usd =>
          cases c with
          | confirmed =>
              obtain ⟨hsum, hdiff⟩ := hexact rfl attempt rfl hnone hopen
              rw [hconfirmed]
              have hsub := hdiff.sub
              simp only [AttemptFields.actual] at hsub
              simp only [SummaryFields.balance, AttemptFields.share, AttemptFields.actual,
                chargedFields, hm, if_true, hsum.add, hsub]
              omega
          | active =>
              have hact := (hexact rfl attempt rfl hnone hopen).sub
              simp only [AttemptFields.share, AttemptFields.held] at hact
              simp [SummaryFields.balance, AttemptFields.share, AttemptFields.held,
                chargedFields, hact]
          | upper =>
              have hup := (hexact rfl attempt rfl hnone hopen).sub
              simp only [AttemptFields.share, AttemptFields.held] at hup
              simp [SummaryFields.balance, AttemptFields.share, AttemptFields.held,
                chargedFields, hup]

theorem CompleteResult.inMode {receipt : LedgerAdmissionReceipt} {completion : Decoded Completion}
    (h : CompleteResult summary attempt receipt completion now summary' attempt')
    (hin : attempt.InMode m) (hm : summary.budgetMode = m) : attempt'.InMode m := by
  cases h with
  | kept => exact hin
  | charged _ _ _ _ hallowed _ _ ha =>
      have hamode : attempt.budgetMode = summary.budgetMode := hallowed.admitted.mode
      refine .inl ?_
      rw [ha]
      exact hamode.trans hm

theorem CompleteResult.moves {receipt : LedgerAdmissionReceipt} {completion : Decoded Completion}
    (h : CompleteResult summary attempt receipt completion now summary' attempt')
    (hm : summary.budgetMode = m) :
    Moves m c summary.toSummaryFields summary'.toSummaryFields (some attempt) attempt' := by
  cases h with
  | kept => exact Moves.refl _ _
  | charged evidence usd previous key hallowed htokens husd ha =>
      have hamode : attempt.budgetMode = summary.budgetMode := hallowed.admitted.mode
      have ham : attempt.budgetMode = m := hamode.trans hm
      have hconfirmed := attempt.share_confirmed ham
      unfold Moves
      rw [Store.share_some, ha]
      cases m with
      | tokens =>
          rw [htokens hm]
          have hprevious : previous = attempt.actual .tokens := by
            have hprev := hallowed.previous
            rw [attempt.previousTokens_dump] at hprev
            exact (Except.ok.inj hprev).symm
          cases c
          · rw [hconfirmed, hprevious]
            simp [SummaryFields.balance, AttemptFields.share, AttemptFields.actual]
            omega
          · simp [SummaryFields.balance, AttemptFields.share, AttemptFields.held]
          · simp [SummaryFields.balance, AttemptFields.share, AttemptFields.held]
      | usd =>
          rw [husd hm]
          have hpriced := hallowed.admitted.priced
          have hdump : summary.dump.budgetMode = .usd := hm
          rw [hdump] at hpriced
          obtain ⟨_, held, -, -, -, -, -, -, -, -, hsettled, hnot⟩ :=
            priceCompletion_usd.1 hpriced
          have hprevious : usd.2 = attempt.actual .usd := by
            rw [← hconfirmed]
            by_cases hstate : attempt.state = .settled
            · have hactual : attempt.actualUsd = some usd.2 := (hsettled hstate).1
              simp [AttemptFields.share, AttemptFields.actual, hstate, hactual]
            · simp [AttemptFields.share, hstate, hnot hstate]
          cases c
          · rw [hconfirmed, hprevious]
            simp [SummaryFields.balance, AttemptFields.share, AttemptFields.actual, hm]
            omega
          · simp [SummaryFields.balance, AttemptFields.share, AttemptFields.held]
          · simp [SummaryFields.balance, AttemptFields.share, AttemptFields.held]

/-- Every write keeps the unit of its scope. -/
theorem LedgerWrite.inMode {op : LedgerOp} {a : Option LedgerAttempt}
    (h : LedgerWrite summary now op a summary' attempt') (hm : summary.budgetMode = m)
    (hin : ∀ attempt ∈ a, attempt.InMode m) : attempt'.InMode m := by
  cases h with
  | reserve _ hresult => exact .inl (hresult.mode.trans hm)
  | transition _ hresult => exact hresult.inMode (hin _ rfl)
  | settle hresult => exact hresult.inMode hm (hin _ rfl)
  | resolve hsame hresult => exact .inl (hresult.mode.trans (hsame.mode.trans hm))
  | complete hresult => exact hresult.inMode (hin _ rfl) hm
  | @tombstone admission _ _ hadmits hs ha =>
      unfold LedgerAttempt.InMode
      rw [ha]
      cases m with
      | usd => exact .inr ⟨rfl, rfl⟩
      | tokens =>
          left
          cases hmode : admission.budgetMode with
          | tokens => rfl
          | usd =>
              rw [hadmits hmode] at hm
              cases hm

/-- Every write moves the share of its attempt. -/
theorem LedgerWrite.moves {op : LedgerOp} {a : Option LedgerAttempt}
    (h : LedgerWrite summary now op a summary' attempt') (hm : summary.budgetMode = m)
    (hin : ∀ attempt ∈ a, attempt.InMode m)
    (hexact : m = .usd → ExactSum summary.toSummaryFields a c op) :
    Moves m c summary.toSummaryFields summary'.toSummaryFields a attempt' := by
  cases h with
  | reserve _ hresult => exact hresult.moves hm hexact
  | transition _ hresult => exact hresult.moves (hin _ rfl) hexact
  | settle hresult => exact hresult.moves hm hexact
  | resolve hsame hresult => exact hresult.moves hm hsame.mode
  | complete hresult => exact hresult.moves hm
  | tombstone _ hs ha =>
      unfold Moves
      rw [hs, ha]
      cases m <;> cases c <;> simp [SummaryFields.balance, AttemptFields.share]

end Moves

/-- The reservation of a dollar of ten is exact. -/
theorem Sample.reserveUsd_exact (a : Option LedgerAttempt) (c : Counter) :
    ExactSum usdSummary.toSummaryFields a c (reserveUsd 1 1) := by
  cases c with
  | active =>
      have hamount : usdOfDecimal? 1 = some (10 ^ 14) := by decide +kernel
      intro units hunits
      rw [Option.bind_some, hamount] at hunits
      obtain rfl : (10 ^ 14 : Int) = units := Option.some.inj hunits
      decide +kernel
  | _ => trivial

end Turnstile
