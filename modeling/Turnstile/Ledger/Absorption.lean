import Mathlib.Data.Prod.Lex
import Turnstile.Ledger.State

/-!
# Operations that are already done

The document of an attempt only moves on: its admission is fixed, its state goes
through the stages of a request, its evidence gets heavier in the lexicographic
order of rank and revision, and what is retained stays (`Follows`).

An operation is absorbed by a document that says already what the operation says.
Then it changes nothing, whichever way it returns (`LedgerWrite.of_absorbed`).  An
operation that changed something is absorbed by what it wrote
(`LedgerWrite.absorbed`), and by every later document (`Follows.absorbed`).
-/

namespace Turnstile

open Guard

/-! ## Later documents of an attempt -/

/-- How far a request has come. -/
def AttemptState.stage : AttemptState → ℕ
  | .reserved => 0
  | .dispatching => 1
  | .uncertain => 2
  | .upperBound => 3
  | .settled | .cancelled | .released => 4

/-- The state is final unless usage is charged. -/
def AttemptState.Closed (s : AttemptState) : Prop := s = .settled ∨ s = .cancelled

/-- The weight of the evidence that the attempt holds. -/
def AttemptFields.weight (a : AttemptFields) : ℕ ×ₗ Int :=
  toLex (a.evidenceRank.value, a.evidenceRevision)

/-- The weight of a charge. -/
def ChargeFields.weight (c : ChargeFields) : ℕ ×ₗ Int := toLex (c.evidenceRank.value, c.revision)

/-- `a'` is a later document of the attempt. -/
structure Follows (a a' : AttemptFields) : Prop where
  identity : a'.identity = a.identity
  epoch : a'.epoch = a.epoch
  reservedTokens : a'.reservedTokens = a.reservedTokens
  reservedUsd : a'.reservedUsd = a.reservedUsd
  priceSnapshot : a'.priceSnapshot = a.priceSnapshot
  stage : a.state.stage ≤ a'.state.stage
  weight : a.weight ≤ a'.weight
  settled : a.state = .settled → a'.state = .settled
  closed : a.state.Closed → a'.state.Closed
  completion : a.completionEvidence ≠ none → a'.completionEvidence ≠ none
  rejection : a.rejectionEvidence ≠ none → a'.rejectionEvidence ≠ none
  resolution : a.resolutionEvidence ≠ none → a'.resolutionEvidence ≠ none

theorem Follows.refl (a : AttemptFields) : Follows a a :=
  ⟨rfl, rfl, rfl, rfl, rfl, le_refl _, le_refl _, id, id, id, id, id⟩

section Follows

variable {summary summary' : LedgerSummary} {attempt attempt' : LedgerAttempt} {now : Int}

theorem TransitionState.stage_of_allowed {target : TransitionState} {state : AttemptState}
    (h : state ∈ target.allowed) : state.stage < target.state.stage := by
  cases target <;> simp only [allowed, List.mem_cons, List.not_mem_nil, or_false] at h
  case dispatching => subst h; decide
  case uncertain => subst h; decide
  case upperBound => rcases h with rfl | rfl | rfl <;> decide
  case cancelled => subst h; decide

/-- A closed state is in the last stage. -/
theorem AttemptState.Closed.stage {s : AttemptState} (h : s.Closed) : s.stage = 4 := by
  rcases h with rfl | rfl <;> rfl

theorem TransitionState.stage_le (target : TransitionState) : target.state.stage ≤ 4 := by
  cases target <;> decide

theorem AttemptState.stage_le (s : AttemptState) : s.stage ≤ 4 := by
  cases s <;> decide

theorem TransitionResult.follows {target : TransitionState}
    (h : TransitionResult summary attempt target now summary' attempt') :
    Follows attempt.toAttemptFields attempt'.toAttemptFields := by
  cases h with
  | kept => exact .refl _
  | moved hstate _ _ ha =>
      have hstage := TransitionState.stage_of_allowed hstate
      have hle := target.stage_le
      rw [ha]
      refine ⟨rfl, rfl, rfl, rfl, rfl, hstage.le, le_refl _, fun hs => ?_, fun hs => ?_, id, id, id⟩
      · rw [AttemptState.Closed.stage (.inl hs)] at hstage
        omega
      · rw [hs.stage] at hstage
        omega

theorem ResolveResult.follows (h : ResolveResult summary attempt now summary' attempt')
    (hcoherent : Coherent summary.toSummaryFields attempt.toAttemptFields) :
    Follows attempt.toAttemptFields attempt'.toAttemptFields := by
  cases h with
  | kept => exact .refl _
  | released approved hnone hheld _ _ ha =>
      have hopen : attempt.state ≠ .settled ∧ attempt.state ≠ .cancelled ∧
          attempt.state ≠ .released := by
        refine ⟨fun hs => ?_, fun hs => ?_, fun hs => ?_⟩ <;> simp [hs] at hheld
      have hfresh := hcoherent.unevidenced hopen.1 hopen.2.2
      rw [ha]
      refine ⟨rfl, rfl, rfl, rfl, rfl, attempt.state.stage_le, ?_, fun hs => absurd hs hopen.1,
        fun hs => ?_, id, id, fun _ => Option.some_ne_none _⟩
      · rw [AttemptFields.weight, AttemptFields.weight, Prod.Lex.toLex_le_toLex, hfresh.rank]
        exact .inl Nat.zero_lt_two
      · rcases hs with hs | hs
        · exact absurd hs hopen.1
        · exact absurd hs hopen.2.1

/-- A charge that evidence does not answer is heavier than it. -/
theorem weight_lt_of_unanswered {charge : LedgerCharge}
    (h : settlementAnswered attempt charge = .ok false) :
    attempt.completionEvidence = none ∧ attempt.weight < charge.weight := by
  unfold settlementAnswered at h
  simp only at h
  split at h
  next =>
    obtain ⟨-, h⟩ := require_bind_eq_ok.1 h
    cases h
  next hnone =>
    refine ⟨not_not.1 hnone, Prod.Lex.toLex_lt_toLex.2 ?_⟩
    split at h
    next => cases h
    next hrank =>
      split at h
      next =>
        obtain ⟨-, h⟩ := require_bind_eq_ok.1 h
        cases h
      next =>
        split at h
        next =>
          obtain ⟨-, h⟩ := require_bind_eq_ok.1 h
          cases h
        next =>
          split at h
          next => cases h
          next hless =>
            split at h
            next =>
              obtain ⟨-, h⟩ := require_bind_eq_ok.1 h
              cases h
            next hequal =>
              by_cases hstronger : attempt.evidenceRank.value < charge.evidenceRank.value
              · exact .inl hstronger
              · have h₁ : ¬charge.revision < attempt.evidenceRevision := fun hlt =>
                  hless ⟨hstronger, hlt⟩
                have h₂ : charge.revision ≠ attempt.evidenceRevision := fun heq =>
                  hequal ⟨hstronger, heq⟩
                exact .inr ⟨by omega, by omega⟩

theorem SettleResult.follows {charge : LedgerCharge}
    (h : SettleResult summary attempt charge now summary' attempt')
    (hcoherent : Coherent summary.toSummaryFields attempt.toAttemptFields) :
    Follows attempt.toAttemptFields attempt'.toAttemptFields := by
  cases h with
  | resolved _ _ hresolve => exact (resolveLedger_result hresolve).2.follows hcoherent
  | late => exact .refl _
  | answered => exact .refl _
  | charged _ _ hanswered _ _ ha =>
      obtain ⟨-, hweight⟩ := weight_lt_of_unanswered hanswered
      rw [ha]
      refine ⟨rfl, rfl, rfl, rfl, rfl, attempt.state.stage_le, hweight.le.trans ?_, fun _ => rfl,
        fun _ => .inl rfl, id, id, id⟩
      exact Prod.Lex.toLex_le_toLex.2 (.inr ⟨rfl, le_max_left _ _⟩)

theorem CompleteResult.follows {receipt : LedgerAdmissionReceipt} {completion : Decoded Completion}
    (h : CompleteResult summary attempt receipt completion now summary' attempt')
    (hcoherent : Coherent summary.toSummaryFields attempt.toAttemptFields) :
    Follows attempt.toAttemptFields attempt'.toAttemptFields := by
  cases h with
  | kept => exact .refl _
  | charged evidence usd previous key hallowed _ _ ha =>
      rw [ha]
      refine ⟨rfl, rfl, rfl, rfl, rfl, attempt.state.stage_le, ?_, fun _ => rfl, fun _ => .inl rfl,
        fun h => ?_, fun h => ?_, id⟩
      · refine Prod.Lex.toLex_le_toLex.2 ?_
        by_cases hnone : evidence.rejection = none
        · simp only [if_pos hnone]
          cases attempt.evidenceRank
          · exact .inl (Nat.succ_pos 2)
          · exact .inl (Nat.lt_succ_self 2)
          · exact .inr ⟨rfl, le_max_left _ _⟩
        · -- A rejection is not charged over complete usage.
          simp only [if_neg hnone]
          cases hrank : attempt.evidenceRank with
          | zero => exact .inl Nat.zero_lt_two
          | two => exact .inr ⟨rfl, le_max_left _ _⟩
          | three =>
              by_cases hs : attempt.state = .settled
              · have hrank' : attempt.dump.evidenceRank.getD .three = .three := hrank
                exact absurd (hallowed.unanswered.confirmed hs hrank').1 hnone
              · have hr : attempt.state ≠ .released := fun hr => hallowed.released ⟨hr, hnone⟩
                have hzero := (hcoherent.unevidenced hs hr).rank
                rw [hrank] at hzero
                cases hzero
      · dsimp only
        split
        · exact Option.some_ne_none _
        · exact h
      · dsimp only
        split
        · exact h
        · exact Option.some_ne_none _

/-- Every write of a stored attempt moves it on. -/
theorem LedgerWrite.follows {op : LedgerOp}
    (h : LedgerWrite summary now op (some attempt) summary' attempt')
    (hcoherent : Coherent summary.toSummaryFields attempt.toAttemptFields) :
    Follows attempt.toAttemptFields attempt'.toAttemptFields := by
  cases h with
  | transition _ hresult => exact hresult.follows
  | settle hresult => exact hresult.follows hcoherent
  | resolve _ hresult => exact hresult.follows hcoherent
  | complete hresult => exact hresult.follows hcoherent

end Follows

/-! ## Absorbed operations -/

/-- A resolution has nothing left to resolve. -/
def AttemptFields.Resolved (a : AttemptFields) : Prop :=
  a.resolutionEvidence ≠ none ∨ a.state.Closed

/-- The document says already what the operation says. -/
def LedgerOp.Absorbed (a : AttemptFields) : LedgerOp → Prop
  | .reserve identity reservedTokens reservedUsd priceSnapshot _ =>
      a.identity = identity ∧ a.reservedTokens = reservedTokens ∧
        a.reservedUsd.map usdDecimal = reservedUsd ∧ a.priceSnapshot = priceSnapshot
  | .transition _ target => target.state.stage ≤ a.state.stage
  | .settle _ charge =>
      match charge.resolutionEvidence with
      | some _ => a.Resolved
      | none => a.completionEvidence ≠ none ∨ charge.weight ≤ a.weight
  | .resolve _ _ => a.Resolved
  | .complete _ _ completion =>
      ∀ evidence, completion = .record evidence →
        if evidence.rejection = none then a.completionEvidence ≠ none
        else a.state = .settled ∧ (a.evidenceRank = .three ∨ a.rejectionEvidence ≠ none)
  | .tombstone _ => True
  | .policy .. => False

/-- What absorbs an operation still does later. -/
theorem Follows.absorbed {a a' : AttemptFields} {op : LedgerOp} (h : Follows a a')
    (habsorbed : op.Absorbed a) : op.Absorbed a' := by
  have hresolved : a.Resolved → a'.Resolved := fun hr => hr.imp h.resolution h.closed
  cases op with
  | reserve identity reservedTokens reservedUsd priceSnapshot countAssurance =>
      obtain ⟨hidentity, htokens, husd, hprice⟩ := habsorbed
      exact ⟨h.identity.trans hidentity, h.reservedTokens.trans htokens,
        by rw [h.reservedUsd]; exact husd, h.priceSnapshot.trans hprice⟩
  | transition key target => exact le_trans habsorbed h.stage
  | settle key charge =>
      simp only [LedgerOp.Absorbed] at habsorbed ⊢
      split at habsorbed
      next => exact hresolved habsorbed
      next => exact habsorbed.imp h.completion fun hle => hle.trans h.weight
  | resolve key resolution => exact hresolved habsorbed
  | complete key receipt completion =>
      intro evidence hevidence
      have hevidence := habsorbed evidence hevidence
      split at hevidence
      next hnone =>
        rw [if_pos hnone]
        exact h.completion hevidence
      next hsome =>
        rw [if_neg hsome]
        obtain ⟨hs, hheld⟩ := hevidence
        refine ⟨h.settled hs, hheld.imp (fun hrank => ?_) h.rejection⟩
        have hweight := Prod.Lex.toLex_le_toLex.1 h.weight
        rw [hrank] at hweight
        cases hrank' : a'.evidenceRank with
        | zero => simp [hrank', EvidenceRank.value] at hweight
        | two => simp [hrank', EvidenceRank.value] at hweight
        | three => rfl
  | tombstone admission => trivial
  | policy => exact habsorbed

section Absorbed

variable {summary summary' : LedgerSummary} {attempt attempt' : LedgerAttempt} {now : Int}

theorem ResolveResult.of_resolved (h : ResolveResult summary attempt now summary' attempt')
    (hresolved : attempt.Resolved) : summary' = summary ∧ attempt' = attempt := by
  cases h with
  | kept => exact ⟨rfl, rfl⟩
  | released _ hnone hheld =>
      rcases hresolved with hr | hs | hs
      · exact absurd hnone hr
      · simp [hs] at hheld
      · simp [hs] at hheld

/-- An absorbed operation changes nothing. -/
theorem LedgerWrite.of_absorbed {op : LedgerOp}
    (h : LedgerWrite summary now op (some attempt) summary' attempt')
    (habsorbed : op.Absorbed attempt.toAttemptFields) :
    summary' = summary ∧ attempt' = attempt := by
  cases h with
  | transition _ hresult =>
      cases hresult with
      | kept => exact ⟨rfl, rfl⟩
      | moved hstate =>
          have hlt := TransitionState.stage_of_allowed hstate
          exact absurd habsorbed (Nat.not_le.2 hlt)
  | settle hresult =>
      simp only [LedgerOp.Absorbed] at habsorbed
      cases hresult with
      | resolved resolution hres hresolve =>
          rw [hres] at habsorbed
          exact (resolveLedger_result hresolve).2.of_resolved habsorbed
      | late => exact ⟨rfl, rfl⟩
      | answered => exact ⟨rfl, rfl⟩
      | charged hres _ hanswered =>
          rw [hres] at habsorbed
          obtain ⟨hnone, hlt⟩ := weight_lt_of_unanswered hanswered
          rcases habsorbed with hheld | hle
          · exact absurd hnone hheld
          · exact absurd hle (not_le.2 hlt)
  | resolve _ hresult => exact hresult.of_resolved habsorbed
  | complete hresult =>
      cases hresult with
      | kept => exact ⟨rfl, rfl⟩
      | charged evidence usd previous key hallowed =>
          obtain ⟨hrecord, -⟩ := validateCompletion_eq_ok.1 hallowed.validated
          have hheld := habsorbed evidence hrecord
          split at hheld
          next => exact absurd hallowed.unanswered.completion hheld
          next hsome =>
            obtain ⟨hs, hheld⟩ := hheld
            rcases hheld with hrank | hrejected
            · have hrank' : attempt.dump.evidenceRank.getD .three = .three := hrank
              exact absurd (hallowed.unanswered.confirmed hs hrank').1 hsome
            · exact absurd (hallowed.unanswered.rejected hsome hs).2 hrejected

theorem ResolveResult.resolved (h : ResolveResult summary attempt now summary' attempt')
    (hchanged : summary' ≠ summary) : attempt'.Resolved := by
  cases h with
  | kept => exact absurd rfl hchanged
  | released _ _ _ _ _ ha =>
      left
      rw [ha]
      exact Option.some_ne_none _

/-- An operation of a request that changed the summary is absorbed by the attempt it
wrote. -/
theorem LedgerWrite.absorbed {op : LedgerOp} {a : Option LedgerAttempt}
    (h : LedgerWrite summary now op a summary' attempt') (hchanged : summary' ≠ summary) :
    op.Absorbed attempt'.toAttemptFields := by
  cases h with
  | reserve hallowed hresult =>
      cases hresult with
      | tokens _ husd hprice _ _ ha =>
          rw [ha, husd, hprice]
          exact ⟨rfl, rfl, rfl, rfl⟩
      | usd amount units projection _ husd hprice hunits _ _ _ _ ha =>
          rw [ha, husd, hprice]
          exact ⟨rfl, rfl, congrArg some (usdDecimal_of hunits), rfl⟩
  | transition _ hresult =>
      cases hresult with
      | kept => exact absurd rfl hchanged
      | moved _ _ _ ha =>
          rw [ha]
          exact le_refl _
  | settle hresult =>
      simp only [LedgerOp.Absorbed]
      cases hresult with
      | resolved _ hres hresolve =>
          rw [hres]
          exact (resolveLedger_result hresolve).2.resolved hchanged
      | late => exact absurd rfl hchanged
      | answered => exact absurd rfl hchanged
      | charged hres _ _ _ _ ha =>
          rw [hres, ha]
          exact .inr (Prod.Lex.toLex_le_toLex.2 (.inr ⟨rfl, le_max_left _ _⟩))
  | resolve _ hresult => exact hresult.resolved hchanged
  | complete hresult =>
      cases hresult with
      | kept => exact absurd rfl hchanged
      | charged evidence usd previous key hallowed _ _ ha =>
          obtain ⟨hrecord, -⟩ := validateCompletion_eq_ok.1 hallowed.validated
          intro evidence' hrecord'
          rw [hrecord, Decoded.record.injEq] at hrecord'
          subst hrecord'
          rw [ha]
          split
          next => simp
          next => simp
  | tombstone => trivial

theorem ResolveResult.version (h : ResolveResult summary attempt now summary' attempt') :
    summary' = summary ∨ summary'.version = summary.version + 1 := by
  cases h with
  | kept => exact .inl rfl
  | released _ _ _ _ hs => exact .inr (by rw [hs])

/-- A write leaves the summary as it is or gives it its next version, and a row that
was absent always costs a version. -/
theorem LedgerWrite.version {op : LedgerOp} {a : Option LedgerAttempt}
    (h : LedgerWrite summary now op a summary' attempt') :
    (summary' = summary ∧ a ≠ none) ∨ summary'.version = summary.version + 1 := by
  cases h with
  | reserve _ hresult =>
      right
      cases hresult with
      | tokens _ _ _ _ hs => rw [hs]
      | usd _ _ _ _ _ _ _ _ _ _ hs => rw [hs]
  | transition _ hresult =>
      cases hresult with
      | kept => exact .inl ⟨rfl, Option.some_ne_none _⟩
      | moved _ _ hs => exact .inr (by rw [hs])
  | settle hresult =>
      cases hresult with
      | resolved _ _ hresolve =>
          exact (resolveLedger_result hresolve).2.version.imp
            (fun hs => ⟨hs, Option.some_ne_none _⟩) id
      | late => exact .inl ⟨rfl, Option.some_ne_none _⟩
      | answered => exact .inl ⟨rfl, Option.some_ne_none _⟩
      | charged _ _ _ _ hs => exact .inr (by rw [hs])
  | resolve _ hresult => exact hresult.version.imp (fun hs => ⟨hs, Option.some_ne_none _⟩) id
  | complete hresult =>
      cases hresult with
      | kept => exact .inl ⟨rfl, Option.some_ne_none _⟩
      | charged _ _ _ _ _ htokens husd =>
          right
          cases hmode : summary.budgetMode with
          | tokens => rw [htokens hmode]
          | usd => rw [husd hmode]
  | tombstone _ hs => exact .inr (by rw [hs])

end Absorbed

/-! ## Operations that leave the summary as it is

Whether an operation leaves the summary as it is depends on the attempt and on the terms
of the scope, and on nothing else of the summary. -/

section Kept

variable {summary summary' : LedgerSummary} {attempt attempt' : LedgerAttempt} {now : Int}

/-- An advanced summary is another one. -/
theorem advanceSummary_ne {updates : SummaryFields} :
    advanceSummary summary now updates ≠ .ok summary := by
  intro h
  have hversion := congrArg SummaryFields.version (advanceSummary_eq_ok.1 h).2
  simp only at hversion
  omega

theorem transitionLedgerAttempt_kept {target : TransitionState}
    (h : transitionLedgerAttempt summary attempt target now = .ok (summary, attempt'))
    (hterms : KeepsTerms summary.toSummaryFields summary'.toSummaryFields) :
    transitionLedgerAttempt summary' attempt target now = .ok (summary', attempt) := by
  obtain ⟨⟨hepoch, hscope⟩, h⟩ := require_bind_eq_ok.1 h
  refine require_bind_eq_ok.2
    ⟨⟨hepoch.trans hterms.epoch.symm, hscope.trans hterms.scope.symm⟩, ?_⟩
  split at h
  next hstate => rw [if_pos hstate, pure_eq]
  next =>
    obtain ⟨-, h⟩ := require_bind_eq_ok.1 h
    obtain ⟨updated, hadvance, h⟩ := bind_eq_ok.1 h
    obtain ⟨written, hwritten, h⟩ := bind_eq_ok.1 h
    cases h
    exact absurd hadvance advanceSummary_ne

theorem resolveLedger_kept {resolution : Decoded BudgetReservationResolution}
    (h : resolveLedger summary attempt resolution now = .ok (summary, attempt'))
    (hterms : KeepsTerms summary.toSummaryFields summary'.toSummaryFields) :
    resolveLedger summary' attempt resolution now = .ok (summary', attempt) := by
  obtain ⟨approved, happroved, h⟩ := bind_eq_ok.1 h
  obtain ⟨expected, hexpected, h⟩ := bind_eq_ok.1 h
  obtain ⟨receipt, hreceipt, h⟩ := bind_eq_ok.1 h
  obtain ⟨⟨hsame, hscope, hepoch, hmode, happrovedAt⟩, h⟩ := require_bind_eq_ok.1 h
  refine bind_eq_ok.2 ⟨approved, happroved, bind_eq_ok.2 ⟨expected, hexpected, ?_⟩⟩
  refine bind_eq_ok.2
    ⟨receipt, hreceipt, require_bind_eq_ok.2 ⟨⟨hsame, ?_, ?_, ?_, happrovedAt⟩, ?_⟩⟩
  · exact hscope.trans hterms.scope.symm
  · exact hepoch.trans hterms.epoch.symm
  · exact hmode.trans hterms.budgetMode.symm
  cases hres : attempt.resolutionEvidence with
  | some earlier =>
      simp only [hres] at h ⊢
      obtain ⟨retained, hretained, h⟩ := bind_eq_ok.1 h
      obtain ⟨hsame, -⟩ := require_bind_eq_ok.1 h
      exact bind_eq_ok.2 ⟨retained, hretained, require_bind_eq_ok.2 ⟨hsame, rfl⟩⟩
  | none =>
      simp only [hres] at h ⊢
      split at h
      next hdone => rw [if_pos hdone, pure_eq]
      next =>
        obtain ⟨-, h⟩ := require_bind_eq_ok.1 h
        obtain ⟨updated, hadvance, h⟩ := bind_eq_ok.1 h
        obtain ⟨written, hwritten, h⟩ := bind_eq_ok.1 h
        cases h
        exact absurd hadvance advanceSummary_ne

theorem settleLedger_kept {charge : LedgerCharge}
    (h : settleLedger summary attempt charge now = .ok (summary, attempt'))
    (hterms : KeepsTerms summary.toSummaryFields summary'.toSummaryFields) :
    settleLedger summary' attempt charge now = .ok (summary', attempt) := by
  unfold settleLedger at h ⊢
  cases hres : charge.resolutionEvidence with
  | some resolution =>
      simp only [hres] at h ⊢
      exact resolveLedger_kept h hterms
  | none =>
      simp only [hres, hterms.epoch, hterms.scope, hterms.budgetMode] at h ⊢
      obtain ⟨hsame, h⟩ := require_bind_eq_ok.1 h
      refine require_bind_eq_ok.2 ⟨hsame, ?_⟩
      split at h
      next hlate =>
        rw [if_pos hlate]
        obtain ⟨hlate, -⟩ := require_bind_eq_ok.1 h
        exact require_bind_eq_ok.2 ⟨hlate, rfl⟩
      next hlate =>
        rw [if_neg hlate]
        obtain ⟨hmode, h⟩ := require_bind_eq_ok.1 h
        obtain ⟨husd, h⟩ := require_bind_eq_ok.1 h
        obtain ⟨hconfirmed, h⟩ := require_bind_eq_ok.1 h
        obtain ⟨done, hdone, h⟩ := bind_eq_ok.1 h
        refine require_bind_eq_ok.2 ⟨hmode, require_bind_eq_ok.2 ⟨husd, ?_⟩⟩
        refine require_bind_eq_ok.2 ⟨hconfirmed, bind_eq_ok.2 ⟨done, hdone, ?_⟩⟩
        cases done with
        | true => rfl
        | false =>
            rw [if_neg Bool.false_ne_true] at h
            obtain ⟨updated, hadvance, h⟩ := bind_eq_ok.1 h
            obtain ⟨written, hwritten, h⟩ := bind_eq_ok.1 h
            cases h
            exact absurd hadvance advanceSummary_ne

theorem completionAdmitted_terms {receipt : ReceiptFields} {evidence : Completion}
    {usd : Int × Int} {document : AttemptDocument}
    (h : CompletionAdmitted summary.dump document receipt evidence usd)
    (hterms : KeepsTerms summary.toSummaryFields summary'.toSummaryFields) :
    CompletionAdmitted summary'.dump document receipt evidence usd := by
  have hmode : summary'.dump.budgetMode = summary.dump.budgetMode := hterms.budgetMode
  refine ⟨h.identified, h.rejection, rfl, hterms.scope.trans h.scope, h.identity,
    hterms.epoch.trans h.summaryEpoch, h.attemptEpoch, h.reserved, h.reservedTokens, h.observed,
    h.mode.trans hmode.symm, ?_⟩
  rw [hmode]
  exact h.priced

theorem completeLedger_kept {receipt : LedgerAdmissionReceipt} {completion : Decoded Completion}
    (h : completeLedger summary attempt receipt completion now = .ok (summary, attempt'))
    (hterms : KeepsTerms summary.toSummaryFields summary'.toSummaryFields)
    (hversion : summary'.version ≤ maxTokens) :
    completeLedger summary' attempt receipt completion now = .ok (summary', attempt) := by
  have hmode : summary'.dump.budgetMode = summary.dump.budgetMode := hterms.budgetMode
  obtain ⟨⟨updated, settled⟩, htransaction, h⟩ := bind_eq_ok.1 h
  rw [conflictFromValueError_eq_ok] at htransaction
  obtain ⟨evidence, usd, counters, hchk, hresult⟩ := completionTransaction_eq_ok.1 htransaction
  have hv : summary.version = counters.version := Option.some.inj hchk.counters.version
  have hvalid := summary'.isValid
  let counters' : SummaryCounters := ⟨summary'.confirmedTokens, summary'.activeReservedTokens,
    summary'.upperBoundTokens, summary'.version⟩
  have hread : CountersRead summary'.dump counters' := by
    obtain ⟨revision, hrevision, hrange⟩ := hchk.counters.revision
    refine ⟨rfl, rfl, rfl, rfl, hvalid.confirmedTokens, hvalid.activeReservedTokens,
      hvalid.upperBoundTokens, ⟨hvalid.version, hversion⟩, hvalid.tokenLimit,
      ⟨revision, ?_, hrange⟩, Option.some_ne_none _⟩
    rw [← hrevision]
    exact congrArg some hterms.policyRevision
  have hchk' : CompletionChecked summary'.dump attempt.dump receipt.toReceiptFields completion
      evidence usd counters' := by
    refine ⟨hchk.validated, completionAdmitted_terms hchk.admitted hterms, hread, ?_, hchk.released⟩
    rw [hmode]
    exact hchk.resolution
  have hreturn : CompletionResult summary'.dump attempt.dump receipt.toReceiptFields evidence usd
      counters' now summary'.dump attempt.dump → completeLedger summary' attempt receipt completion
        now = .ok (summary', attempt) := by
    intro hresult'
    have htransaction' := completionTransaction_eq_ok.2 ⟨evidence, usd, counters', hchk', hresult'⟩
    exact bind_eq_ok.2 ⟨_, conflictFromValueError_eq_ok.2 htransaction', if_pos rfl⟩
  cases hresult with
  | skipped hstate hrejection => exact hreturn (.skipped hstate hrejection)
  | answered previous hskip hprevious hdone =>
      rw [← hmode] at hdone
      exact hreturn (.answered previous hskip hprevious hdone)
  | charged previous charged settled hskip hprevious hdone hcharge =>
      -- A charge is not kept: it has the next version.
      have hnext := chargeSummary_version hcharge
      simp only at h
      split at h
      next hsame =>
        have heq : charged.version = some summary.version :=
          congrArg SummaryDocument.version hsame
        rw [hnext, Option.some.injEq] at heq
        omega
      next =>
        obtain ⟨summary₁, hsummary, h⟩ := bind_eq_ok.1 h
        obtain ⟨attempt₁, hattempt, h⟩ := bind_eq_ok.1 h
        cases h
        have hfields := (SummaryDocument.modelValidate_eq_ok.1 hsummary).2
        have heq := congrArg SummaryFields.version hfields
        simp only [SummaryDocument.fields, hnext, Option.getD_some] at heq
        omega

/-- A write that leaves the summary as it is leaves the attempt as it is. -/
theorem LedgerWrite.kept {op : LedgerOp}
    (h : LedgerWrite summary now op (some attempt) summary' attempt')
    (hsame : summary' = summary) : attempt' = attempt := by
  have hne : ∀ {s : SummaryFields}, s.version = summary.version + 1 →
      summary'.toSummaryFields ≠ s := by
    rintro s hversion rfl
    rw [hsame] at hversion
    omega
  cases h with
  | transition _ hresult =>
      cases hresult with
      | kept => rfl
      | moved _ _ hs => exact absurd hs (hne rfl)
  | settle hresult =>
      cases hresult with
      | resolved _ _ hresolve =>
          cases (resolveLedger_result hresolve).2 with
          | kept => rfl
          | released _ _ _ _ hs => exact absurd hs (hne rfl)
      | late => rfl
      | answered => rfl
      | charged _ _ _ _ hs => exact absurd hs (hne rfl)
  | resolve _ hresult =>
      cases hresult with
      | kept => rfl
      | released _ _ _ _ hs => exact absurd hs (hne rfl)
  | complete hresult =>
      cases hresult with
      | kept => rfl
      | charged _ _ _ _ _ htokens husd =>
          cases hmode : summary.budgetMode with
          | tokens => exact absurd (htokens hmode) (hne rfl)
          | usd => exact absurd (husd hmode) (hne rfl)

end Kept

/-! ## Absorbed operations of a scope -/

namespace Ledger

variable {l l' : Ledger} {op : LedgerOp} {now : Int}

/-- The stored attempt says already what the operation says. -/
def Absorbs (l : Ledger) (op : LedgerOp) : Prop :=
  ∃ key attempt, op.key? = some key ∧ l.attempts.lookup key = some attempt ∧
    op.Absorbed attempt.toAttemptFields

/-- The operation leaves the scope as it is. -/
def Keeps (l : Ledger) (op : LedgerOp) (now : Int) : Prop :=
  ∃ l', l.apply op now = .ok l' ∧ l'.summary = l.summary ∧
    ∀ key, l'.attempts.lookup key = l.attempts.lookup key

/-- A transition that returns what it was given leaves the scope as it is. -/
theorem keeps_of_onAttempt {key : AttemptKey} {attempt : LedgerAttempt}
    {f : LedgerSummary → LedgerAttempt → Except LedgerError (LedgerSummary × LedgerAttempt)}
    (hop : l.apply op now = l.onAttempt key f) (hlookup : l.attempts.lookup key = some attempt)
    (hf : f l.summary attempt = .ok (l.summary, attempt)) : l.Keeps op now := by
  refine ⟨⟨l.summary, l.attempts.insert key attempt⟩, ?_, rfl, fun key' => ?_⟩
  · rw [hop, onAttempt_eq_ok]
    exact ⟨attempt, l.summary, attempt, hlookup, hf, rfl⟩
  · by_cases hkey : key' = key
    · subst hkey
      rw [AList.lookup_insert, hlookup]
    · exact AList.lookup_insert_ne hkey

/-- An operation that leaves the summary as it is leaves its attempt as it is. -/
theorem attempt_of_kept {key : AttemptKey} {attempt attempt' : LedgerAttempt}
    (hop : op.key? = some key) (hlookup : l.attempts.lookup key = some attempt)
    (happly : l.apply op now = .ok ⟨l.summary, l.attempts.insert key attempt'⟩) :
    attempt' = attempt := by
  rcases apply_cases happly with
    ⟨key', summary'', attempt'', hkey, hwrite, hl⟩ | ⟨_, _, _, _, _, _, _, _, rfl, -⟩
  · obtain rfl : key = key' := Option.some.inj (hop.symm.trans hkey)
    have hattempt := congrArg (AList.lookup key) (congrArg Ledger.attempts hl)
    simp only [AList.lookup_insert, Option.some.injEq] at hattempt
    rw [hlookup] at hwrite
    rw [hattempt]
    exact hwrite.kept (congrArg Ledger.summary hl).symm
  · cases hop

/-- An operation on an attempt keeps the terms of the scope. -/
theorem keepsTerms_of_apply (hop : op.key? ≠ none) (happly : l.apply op now = .ok l') :
    KeepsTerms l.summary.toSummaryFields l'.summary.toSummaryFields := by
  rcases apply_cases happly with
    ⟨key, summary', attempt', -, hwrite, rfl⟩ | ⟨_, _, _, _, _, _, _, _, rfl, -⟩
  · exact hwrite.keepsTerms
  · exact absurd rfl hop

/-- An operation on an attempt that changed the summary gave it its next version. -/
theorem version_of_apply (hop : op.key? ≠ none) (happly : l.apply op now = .ok l') :
    (l'.summary = l.summary ∧ ∃ key ∈ op.key?, l.attempts.lookup key ≠ none) ∨
      l'.summary.version = l.summary.version + 1 := by
  rcases apply_cases happly with
    ⟨key, summary', attempt', hkey, hwrite, rfl⟩ | ⟨_, _, _, _, _, _, _, _, rfl, -⟩
  · exact hwrite.version.imp (fun h => ⟨h.1, key, hkey, h.2⟩) id
  · exact absurd rfl hop

/-- An absorbed operation leaves the summary as it is, if it returns at all. -/
theorem Absorbs.unchanged (h : l.Absorbs op) (happly : l.apply op now = .ok l') :
    l'.summary = l.summary := by
  obtain ⟨key, attempt, hkey, hlookup, habsorbed⟩ := h
  rcases apply_cases happly with
    ⟨key', summary', attempt', hkey', hwrite, rfl⟩ | ⟨_, _, _, _, _, _, _, _, rfl, -⟩
  · rw [hkey, Option.some.injEq] at hkey'
    rw [← hkey', hlookup] at hwrite
    exact (hwrite.of_absorbed habsorbed).1
  · exact habsorbed.elim

/-- An operation on an attempt that changed the summary is absorbed. -/
theorem absorbs_of_changed (hop : op.key? ≠ none) (happly : l.apply op now = .ok l')
    (hchanged : l'.summary ≠ l.summary) : l'.Absorbs op := by
  rcases apply_cases happly with
    ⟨key, summary', attempt', hkey, hwrite, rfl⟩ | ⟨_, _, _, _, _, _, _, _, rfl, -⟩
  · exact ⟨key, attempt', hkey, AList.lookup_insert _, hwrite.absorbed hchanged⟩
  · exact absurd rfl hop

/-- An absorbed operation stays absorbed. -/
theorem Absorbs.step {op' : LedgerOp} (h : l.Absorbs op) (hcoherent : l.AllCoherent)
    (happly : l.apply op' now = .ok l') : l'.Absorbs op := by
  obtain ⟨key, attempt, hkey, hlookup, habsorbed⟩ := h
  rcases apply_cases happly with
    ⟨key', summary', attempt', -, hwrite, rfl⟩ | ⟨_, _, _, _, _, _, _, summary', -, -, rfl⟩
  · by_cases hk : key = key'
    · subst hk
      rw [hlookup] at hwrite
      have hfollows := hwrite.follows (hcoherent key attempt hlookup)
      exact ⟨key, attempt', hkey, AList.lookup_insert _, hfollows.absorbed habsorbed⟩
    · exact ⟨key, attempt, hkey, by rw [AList.lookup_insert_ne hk, hlookup], habsorbed⟩
  · exact ⟨key, attempt, hkey, hlookup, habsorbed⟩

end Ledger

end Turnstile
