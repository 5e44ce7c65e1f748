import Turnstile.Foundation.Store
import Turnstile.Domain.Effects

/-!
# A scope and its runs

A scope is its summary and its attempts, stored by attempt key.  A run applies
operations to what is stored, each at some time; an operation that raises leaves
the scope as it is, so only the ones that return are steps.
-/

namespace Turnstile

open Guard

structure Ledger where
  summary : LedgerSummary
  attempts : AList fun _ : AttemptKey => LedgerAttempt

/-- The operations on a scope, with their arguments. -/
inductive LedgerOp where
  | reserve (identity : LedgerAttemptIdentity) (reservedTokens : Int) (reservedUsd : Option ℚ)
      (priceSnapshot : Option BudgetPriceProjection) (countAssurance : CountAssurance)
  | transition (key : AttemptKey) (target : TransitionState)
  | settle (key : AttemptKey) (charge : LedgerCharge)
  | resolve (key : AttemptKey) (resolution : Decoded BudgetReservationResolution)
  | complete (key : AttemptKey) (receipt : LedgerAdmissionReceipt)
      (completion : Decoded Completion)
  | tombstone (admission : LedgerAdmissionReceipt)
  | policy (epoch : UUID) (revision tokenLimit : Int) (enforce enabled : Bool)
      (budgetMode : BudgetMode) (usdLimit : Option Int)

namespace Ledger

/-- Store the result of an operation on the attempt at `key`. -/
def onAttempt (l : Ledger) (key : AttemptKey)
    (f : LedgerSummary → LedgerAttempt → Except LedgerError (LedgerSummary × LedgerAttempt)) :
    Except LedgerError Ledger :=
  match l.attempts.lookup key with
  | none => .error (.unavailable "Ledger request or summary is not available")
  | some attempt => do
      let stored ← f l.summary attempt
      pure ⟨stored.1, l.attempts.insert key stored.2⟩

/-- Store a new attempt. -/
def onAbsent (l : Ledger) (key : AttemptKey)
    (x : Except LedgerError (LedgerSummary × LedgerAttempt)) : Except LedgerError Ledger := do
  require (l.attempts.lookup key = none)
    (.protocolConflict "An attempt cannot change its reservation")
  let stored ← x
  pure ⟨stored.1, l.attempts.insert key stored.2⟩

/-- The test that `compensate_dispatch` makes before it stores a tombstone. -/
def admits (l : Ledger) (admission : LedgerAdmissionReceipt) : Prop :=
  l.summary.epoch = admission.epoch ∧ l.summary.scope = admission.identity.scope ∧
    (admission.budgetMode = .usd → l.summary.budgetMode = .usd)

instance (l : Ledger) (admission : LedgerAdmissionReceipt) : Decidable (l.admits admission) :=
  inferInstanceAs (Decidable (_ ∧ _ ∧ _))

/-- One operation on the stored summary and the stored attempt. -/
def apply (l : Ledger) (op : LedgerOp) (now : Int) : Except LedgerError Ledger :=
  match op with
  | .reserve identity reservedTokens reservedUsd priceSnapshot countAssurance =>
      l.onAbsent identity.attemptKey
        (reserveLedger l.summary identity reservedTokens now reservedUsd priceSnapshot
          countAssurance)
  | .transition key target =>
      l.onAttempt key fun summary attempt => transitionLedgerAttempt summary attempt target now
  | .settle key charge =>
      l.onAttempt key fun summary attempt => settleLedger summary attempt charge now
  | .resolve key resolution =>
      l.onAttempt key fun summary attempt => resolveLedger summary attempt resolution now
  | .complete key receipt completion =>
      l.onAttempt key fun summary attempt =>
        completeLedger summary attempt receipt completion now
  | .tombstone admission =>
      l.onAbsent admission.identity.attemptKey do
        require (l.admits admission)
          (.protocolConflict "Dispatch compensation epoch does not match")
        cancellationTombstone l.summary admission now
  | .policy epoch revision tokenLimit enforce enabled budgetMode usdLimit => do
      let summary ← updateLedgerPolicy l.summary epoch revision tokenLimit enforce enabled now
        budgetMode usdLimit
      pure ⟨summary, l.attempts⟩

theorem onAttempt_eq_ok {l l' : Ledger} {key : AttemptKey}
    {f : LedgerSummary → LedgerAttempt → Except LedgerError (LedgerSummary × LedgerAttempt)} :
    l.onAttempt key f = .ok l' ↔ ∃ attempt summary' attempt',
      l.attempts.lookup key = some attempt ∧ f l.summary attempt = .ok (summary', attempt') ∧
        l' = ⟨summary', l.attempts.insert key attempt'⟩ := by
  unfold onAttempt
  cases l.attempts.lookup key with
  | none => simp
  | some attempt =>
      simp only [bind_eq_ok, pure_eq, Except.ok.injEq, Option.some.injEq, Prod.exists]
      constructor
      · rintro ⟨summary', attempt', hf, rfl⟩
        exact ⟨attempt, summary', attempt', rfl, hf, rfl⟩
      · rintro ⟨_, summary', attempt', rfl, hf, rfl⟩
        exact ⟨summary', attempt', hf, rfl⟩

theorem onAbsent_eq_ok {l l' : Ledger} {key : AttemptKey}
    {x : Except LedgerError (LedgerSummary × LedgerAttempt)} :
    l.onAbsent key x = .ok l' ↔ l.attempts.lookup key = none ∧ ∃ summary' attempt',
      x = .ok (summary', attempt') ∧ l' = ⟨summary', l.attempts.insert key attempt'⟩ := by
  rw [onAbsent, require_bind_eq_ok]
  refine and_congr_right fun _ => ?_
  simp only [bind_eq_ok, pure_eq, Except.ok.injEq, Prod.exists]
  constructor
  · rintro ⟨summary', attempt', hx, rfl⟩
    exact ⟨summary', attempt', hx, rfl⟩
  · rintro ⟨summary', attempt', hx, rfl⟩
    exact ⟨summary', attempt', hx, rfl⟩

/-- The scopes that runs of allowed operations lead to. -/
inductive Reaches (allowed : Ledger → LedgerOp → Prop) (l₀ : Ledger) : Ledger → Prop where
  | refl : Reaches allowed l₀ l₀
  | step {l l' : Ledger} (op : LedgerOp) (now : Int) : Reaches allowed l₀ l → allowed l op →
      l.apply op now = .ok l' → Reaches allowed l₀ l'

/-- Apply operations one after the other. -/
def run (l : Ledger) : List (LedgerOp × Int) → Except LedgerError Ledger
  | [] => .ok l
  | (op, now) :: rest => do
      let l' ← l.apply op now
      l'.run rest

/-- What a list of operations leads to is reached, if they are allowed anywhere. -/
theorem reaches_of_run {allowed : Ledger → LedgerOp → Prop} {l₀ l l' : Ledger}
    {steps : List (LedgerOp × Int)} (h₀ : Reaches allowed l₀ l)
    (hallowed : ∀ l, ∀ step ∈ steps, allowed l step.1) (h : l.run steps = .ok l') :
    Reaches allowed l₀ l' := by
  induction steps generalizing l with
  | nil =>
      cases h
      exact h₀
  | cons step rest ih =>
      obtain ⟨l₁, happly, h⟩ := bind_eq_ok.1 h
      refine ih (.step step.1 step.2 h₀ (hallowed l step (List.mem_cons_self ..)) happly) ?_ h
      exact fun l s hs => hallowed l s (List.mem_cons_of_mem _ hs)

/-- The operations return, and what they lead to passes a test. -/
def runsTo (l : Ledger) (steps : List (LedgerOp × Int)) (p : Ledger → Bool) : Bool :=
  match l.run steps with
  | .ok l' => p l'
  | .error _ => false

theorem of_runsTo {l : Ledger} {steps : List (LedgerOp × Int)} {p : Ledger → Bool}
    (h : l.runsTo steps p = true) : ∃ l', l.run steps = .ok l' ∧ p l' = true := by
  unfold runsTo at h
  split at h
  next l' hrun => exact ⟨l', hrun, h⟩
  next => cases h

end Ledger

/-- A reservation of 100 tokens and its completion at 60. -/
def Sample.completedSteps : List (LedgerOp × Int) :=
  [(.reserve (identity 1) 100 none none .verifiedUpperBound, start),
    (.complete (identity 1).attemptKey receipt (.record completion), start)]

/-- A reservation in USD, at the sample price. -/
def Sample.reserveUsd (correlationId : UUID) (amount : ℚ) : LedgerOp :=
  .reserve (identity correlationId) 1 (some amount) (some projection) .verifiedUpperBound

/-! ## Steps on documents

Every step writes a summary, and all but a change of policy write one attempt.
`LedgerWrite` is the step with the stored attempt it replaces. -/

/-- What one operation makes of a summary and the attempt it is about. -/
inductive LedgerWrite (summary : LedgerSummary) (now : Int) :
    LedgerOp → Option LedgerAttempt → LedgerSummary → LedgerAttempt → Prop where
  | reserve {identity reservedTokens reservedUsd priceSnapshot countAssurance summary' attempt'} :
      ReserveAllowed summary identity now →
      ReserveResult summary identity reservedTokens now reservedUsd priceSnapshot
        summary' attempt' →
      LedgerWrite summary now
        (.reserve identity reservedTokens reservedUsd priceSnapshot countAssurance) none
        summary' attempt'
  | transition {key target attempt summary' attempt'} :
      attempt.epoch = summary.epoch ∧ attempt.identity.scope = summary.scope →
      TransitionResult summary attempt target now summary' attempt' →
      LedgerWrite summary now (.transition key target) (some attempt) summary' attempt'
  | settle {key charge attempt summary' attempt'} :
      SettleResult summary attempt charge now summary' attempt' →
      LedgerWrite summary now (.settle key charge) (some attempt) summary' attempt'
  | resolve {key resolution attempt summary' attempt'} : SameAdmission summary attempt →
      ResolveResult summary attempt now summary' attempt' →
      LedgerWrite summary now (.resolve key resolution) (some attempt) summary' attempt'
  | complete {key receipt completion attempt summary' attempt'} :
      CompleteResult summary attempt receipt completion now summary' attempt' →
      LedgerWrite summary now (.complete key receipt completion) (some attempt)
        summary' attempt'
  | tombstone {admission} {summary' : LedgerSummary} {attempt' : LedgerAttempt} :
      (admission.budgetMode = .usd → summary.budgetMode = .usd) →
      summary'.toSummaryFields =
        { summary.toSummaryFields with version := summary.version + 1, updatedAt := now } →
      attempt'.toAttemptFields =
        { identity := admission.identity, epoch := admission.epoch, state := .cancelled
          reservedTokens := admission.reservedTokens, budgetMode := admission.budgetMode
          reservedUsd := admission.reservedUsd, priceSnapshot := admission.priceSnapshot
          updatedAt := now } →
      LedgerWrite summary now (.tombstone admission) none summary' attempt'

/-- The operations of requests: not a tombstone and not a change of policy. -/
def LedgerOp.OfRequest : LedgerOp → Prop
  | .tombstone _ | .policy .. => False
  | _ => True

/-- The row an operation is about. -/
def LedgerOp.key? : LedgerOp → Option AttemptKey
  | .reserve identity .. => some identity.attemptKey
  | .transition key _ => some key
  | .settle key _ => some key
  | .resolve key _ => some key
  | .complete key _ _ => some key
  | .tombstone admission => some admission.identity.attemptKey
  | .policy .. => none

/-- A step is a write of one attempt, or a change of policy. -/
theorem Ledger.apply_cases {l l' : Ledger} {op : LedgerOp} {now : Int}
    (h : l.apply op now = .ok l') :
    (∃ key summary' attempt', op.key? = some key ∧
        LedgerWrite l.summary now op (l.attempts.lookup key) summary' attempt' ∧
        l' = ⟨summary', l.attempts.insert key attempt'⟩) ∨
      ∃ epoch revision tokenLimit enforce enabled budgetMode usdLimit summary',
        op = .policy epoch revision tokenLimit enforce enabled budgetMode usdLimit ∧
        PolicyResult l.summary revision tokenLimit enforce enabled now budgetMode usdLimit
          summary' ∧
        l' = ⟨summary', l.attempts⟩ := by
  cases op with
  | reserve identity reservedTokens reservedUsd priceSnapshot countAssurance =>
      obtain ⟨habsent, summary', attempt', hx, rfl⟩ := onAbsent_eq_ok.1 h
      obtain ⟨hallowed, hresult⟩ := reserveLedger_result hx
      exact .inl ⟨_, summary', attempt', rfl, habsent ▸ .reserve hallowed hresult, rfl⟩
  | transition key target =>
      rw [apply, onAttempt_eq_ok] at h
      obtain ⟨attempt, summary', attempt', hlookup, hf, rfl⟩ := h
      obtain ⟨hsame, hresult⟩ := transitionLedgerAttempt_result hf
      exact .inl ⟨_, summary', attempt', rfl, hlookup ▸ .transition hsame hresult, rfl⟩
  | settle key charge =>
      rw [apply, onAttempt_eq_ok] at h
      obtain ⟨attempt, summary', attempt', hlookup, hf, rfl⟩ := h
      exact .inl ⟨_, summary', attempt', rfl, hlookup ▸ .settle (settleLedger_result hf), rfl⟩
  | resolve key resolution =>
      rw [apply, onAttempt_eq_ok] at h
      obtain ⟨attempt, summary', attempt', hlookup, hf, rfl⟩ := h
      obtain ⟨hsame, hresult⟩ := resolveLedger_result hf
      exact .inl ⟨_, summary', attempt', rfl, hlookup ▸ .resolve hsame hresult, rfl⟩
  | complete key receipt completion =>
      rw [apply, onAttempt_eq_ok] at h
      obtain ⟨attempt, summary', attempt', hlookup, hf, rfl⟩ := h
      exact .inl ⟨_, summary', attempt', rfl, hlookup ▸ .complete (completeLedger_result hf), rfl⟩
  | tombstone admission =>
      obtain ⟨habsent, summary', attempt', hx, rfl⟩ := onAbsent_eq_ok.1 h
      obtain ⟨hadmits, hx⟩ := require_bind_eq_ok.1 hx
      obtain ⟨hsummary, hattempt⟩ := cancellationTombstone_result hx
      exact .inl ⟨_, summary', attempt', rfl,
        habsent ▸ .tombstone hadmits.2.2 hsummary hattempt, rfl⟩
  | policy epoch revision tokenLimit enforce enabled budgetMode usdLimit =>
      obtain ⟨summary', hp, h⟩ := bind_eq_ok.1 h
      cases h
      exact .inr ⟨epoch, revision, tokenLimit, enforce, enabled, budgetMode, usdLimit, summary',
        rfl, (updateLedgerPolicy_result hp).2, rfl⟩

/-! ## What a write leaves alone -/

/-- The summary's scope and terms are what they were. -/
structure KeepsTerms (s s' : SummaryFields) : Prop where
  epoch : s'.epoch = s.epoch
  scope : s'.scope = s.scope
  policyRevision : s'.policyRevision = s.policyRevision
  tokenLimit : s'.tokenLimit = s.tokenLimit
  budgetMode : s'.budgetMode = s.budgetMode
  usdLimit : s'.usdLimit = s.usdLimit
  enforce : s'.enforce = s.enforce
  enabled : s'.enabled = s.enabled
  requireVerifiedBound : s'.requireVerifiedBound = s.requireVerifiedBound

theorem KeepsTerms.refl (s : SummaryFields) : KeepsTerms s s :=
  ⟨rfl, rfl, rfl, rfl, rfl, rfl, rfl, rfl, rfl⟩

theorem KeepsTerms.trans {s t u : SummaryFields} (h : KeepsTerms s t) (h' : KeepsTerms t u) :
    KeepsTerms s u :=
  ⟨h'.epoch.trans h.epoch, h'.scope.trans h.scope, h'.policyRevision.trans h.policyRevision,
    h'.tokenLimit.trans h.tokenLimit, h'.budgetMode.trans h.budgetMode,
    h'.usdLimit.trans h.usdLimit, h'.enforce.trans h.enforce, h'.enabled.trans h.enabled,
    h'.requireVerifiedBound.trans h.requireVerifiedBound⟩

theorem KeepsTerms.symm {s t : SummaryFields} (h : KeepsTerms s t) : KeepsTerms t s :=
  ⟨h.epoch.symm, h.scope.symm, h.policyRevision.symm, h.tokenLimit.symm, h.budgetMode.symm,
    h.usdLimit.symm, h.enforce.symm, h.enabled.symm, h.requireVerifiedBound.symm⟩

section KeepsTerms

variable {summary summary' : LedgerSummary} {attempt attempt' : LedgerAttempt} {now : Int}

theorem ResolveResult.keepsTerms (h : ResolveResult summary attempt now summary' attempt') :
    KeepsTerms summary.toSummaryFields summary'.toSummaryFields := by
  cases h with
  | kept => exact .refl _
  | released _ _ _ _ hs =>
      rw [hs]
      unfold releaseHeld
      cases attempt.budgetMode <;> exact ⟨rfl, rfl, rfl, rfl, rfl, rfl, rfl, rfl, rfl⟩

theorem SettleResult.keepsTerms {charge : LedgerCharge}
    (h : SettleResult summary attempt charge now summary' attempt') :
    KeepsTerms summary.toSummaryFields summary'.toSummaryFields := by
  cases h with
  | resolved _ _ hresolve => exact (resolveLedger_result hresolve).2.keepsTerms
  | late => exact .refl _
  | answered => exact .refl _
  | charged _ _ _ _ hs =>
      rw [hs]
      exact ⟨rfl, rfl, rfl, rfl, rfl, rfl, rfl, rfl, rfl⟩

theorem CompleteResult.keepsTerms {receipt : LedgerAdmissionReceipt}
    {completion : Decoded Completion}
    (h : CompleteResult summary attempt receipt completion now summary' attempt') :
    KeepsTerms summary.toSummaryFields summary'.toSummaryFields := by
  cases h with
  | kept => exact .refl _
  | charged _ _ _ _ _ htokens husd =>
      cases hm : summary.budgetMode with
      | tokens =>
          rw [htokens hm]
          exact ⟨rfl, rfl, rfl, rfl, rfl, rfl, rfl, rfl, rfl⟩
      | usd =>
          rw [husd hm]
          exact ⟨rfl, rfl, rfl, rfl, rfl, rfl, rfl, rfl, rfl⟩

theorem TransitionResult.keepsTerms {target : TransitionState}
    (h : TransitionResult summary attempt target now summary' attempt') :
    KeepsTerms summary.toSummaryFields summary'.toSummaryFields := by
  cases h with
  | kept => exact .refl _
  | moved _ _ hs =>
      rw [hs]
      unfold transitionFields
      cases attempt.budgetMode <;> exact ⟨rfl, rfl, rfl, rfl, rfl, rfl, rfl, rfl, rfl⟩

/-- No write changes the scope, the unit or the terms. -/
theorem LedgerWrite.keepsTerms {op : LedgerOp} {a : Option LedgerAttempt}
    (h : LedgerWrite summary now op a summary' attempt') :
    KeepsTerms summary.toSummaryFields summary'.toSummaryFields := by
  cases h with
  | reserve _ hresult =>
      cases hresult with
      | tokens _ _ _ _ hs =>
          rw [hs]
          exact ⟨rfl, rfl, rfl, rfl, rfl, rfl, rfl, rfl, rfl⟩
      | usd _ _ _ _ _ _ _ _ _ _ hs =>
          rw [hs]
          exact ⟨rfl, rfl, rfl, rfl, rfl, rfl, rfl, rfl, rfl⟩
  | transition _ hresult => exact hresult.keepsTerms
  | settle hresult => exact hresult.keepsTerms
  | resolve _ hresult => exact hresult.keepsTerms
  | complete hresult => exact hresult.keepsTerms
  | tombstone _ hs =>
      rw [hs]
      exact ⟨rfl, rfl, rfl, rfl, rfl, rfl, rfl, rfl, rfl⟩

end KeepsTerms

/-! ## Attempts of a scope -/

/-- No evidence was recorded for the attempt. -/
structure Unevidenced (a : AttemptFields) : Prop where
  rank : a.evidenceRank = .zero
  revision : a.evidenceRevision = 0
  completion : a.completionEvidence = none
  rejection : a.rejectionEvidence = none
  resolution : a.resolutionEvidence = none

/-- The attempt belongs to the summary's scope, and was settled or released if any
evidence was recorded for it. -/
structure Coherent (summary : SummaryFields) (a : AttemptFields) : Prop where
  epoch : a.epoch = summary.epoch
  scope : a.identity.scope = summary.scope
  unevidenced : a.state ≠ .settled → a.state ≠ .released → Unevidenced a

theorem Coherent.keepsTerms {s s' : SummaryFields} {a : AttemptFields} (h : Coherent s a)
    (hkeeps : KeepsTerms s s') : Coherent s' a :=
  ⟨h.epoch.trans hkeeps.epoch.symm, h.scope.trans hkeeps.scope.symm, h.unevidenced⟩

section Coherent

variable {summary summary' : LedgerSummary} {now : Int}

theorem ResolveResult.coherent {attempt attempt' : LedgerAttempt}
    (hresult : ResolveResult summary attempt now summary' attempt')
    (h : Coherent summary.toSummaryFields attempt.toAttemptFields) :
    Coherent summary'.toSummaryFields attempt'.toAttemptFields := by
  have hterms := hresult.keepsTerms
  cases hresult with
  | kept => exact h
  | released _ _ _ _ _ ha =>
      refine Coherent.keepsTerms (s := summary.toSummaryFields) ?_ hterms
      rw [ha]
      exact ⟨h.epoch, h.scope, fun _ hne => absurd rfl hne⟩

/-- Every write leaves its attempt coherent with its summary.  A tombstone needs
the check that admitted it. -/
theorem LedgerWrite.coherent {op : LedgerOp} {a : Option LedgerAttempt}
    {attempt' : LedgerAttempt} (hwrite : LedgerWrite summary now op a summary' attempt')
    (h : ∀ attempt ∈ a, Coherent summary.toSummaryFields attempt.toAttemptFields)
    (hadmits : ∀ admission, op = .tombstone admission →
      summary.epoch = admission.epoch ∧ summary.scope = admission.identity.scope) :
    Coherent summary'.toSummaryFields attempt'.toAttemptFields := by
  have hterms := hwrite.keepsTerms
  refine Coherent.keepsTerms (s := summary.toSummaryFields) ?_ hterms
  cases hwrite with
  | reserve hallowed hresult =>
      cases hresult with
      | tokens _ _ _ _ _ ha =>
          rw [ha]
          exact ⟨rfl, hallowed.scope, fun _ _ => ⟨rfl, rfl, rfl, rfl, rfl⟩⟩
      | usd _ _ _ _ _ _ _ _ _ _ _ ha =>
          rw [ha]
          exact ⟨rfl, hallowed.scope, fun _ _ => ⟨rfl, rfl, rfl, rfl, rfl⟩⟩
  | @transition _ target attempt _ _ _ hresult =>
      have hcoherent := h attempt rfl
      cases hresult with
      | kept => exact hcoherent
      | moved hstate _ _ ha =>
          rw [ha]
          refine ⟨hcoherent.epoch, hcoherent.scope, fun _ _ => ?_⟩
          have hlive : attempt.state ≠ .settled ∧ attempt.state ≠ .released := by
            constructor <;> intro heq <;> rw [heq] at hstate <;> cases target <;>
              simp [TransitionState.allowed] at hstate
          have hfresh := hcoherent.unevidenced hlive.1 hlive.2
          exact ⟨hfresh.rank, hfresh.revision, hfresh.completion, hfresh.rejection,
            hfresh.resolution⟩
  | @settle _ _ attempt _ _ hresult =>
      have hcoherent := h attempt rfl
      cases hresult with
      | resolved _ _ hresolve =>
          have hresult := (resolveLedger_result hresolve).2
          exact (hresult.coherent hcoherent).keepsTerms hterms.symm
      | late => exact hcoherent
      | answered => exact hcoherent
      | charged _ _ _ _ _ ha =>
          rw [ha]
          exact ⟨hcoherent.epoch, hcoherent.scope, fun hne => absurd rfl hne⟩
  | @resolve _ _ attempt _ _ _ hresult =>
      have hcoherent := h attempt rfl
      exact (hresult.coherent hcoherent).keepsTerms hterms.symm
  | @complete _ _ _ attempt _ _ hresult =>
      have hcoherent := h attempt rfl
      cases hresult with
      | kept => exact hcoherent
      | charged _ _ _ _ _ _ _ ha =>
          rw [ha]
          exact ⟨hcoherent.epoch, hcoherent.scope, fun hne => absurd rfl hne⟩
  | @tombstone admission _ _ _ _ ha =>
      rw [ha]
      obtain ⟨hepoch, hscope⟩ := hadmits admission rfl
      exact ⟨hepoch.symm, hscope.symm, fun _ _ => ⟨rfl, rfl, rfl, rfl, rfl⟩⟩

end Coherent

namespace Ledger

/-- Every stored attempt is coherent with the summary. -/
def AllCoherent (l : Ledger) : Prop :=
  ∀ key attempt, l.attempts.lookup key = some attempt →
    Coherent l.summary.toSummaryFields attempt.toAttemptFields

variable {l l' : Ledger} {op : LedgerOp} {now : Int}

theorem AllCoherent.step (h : l.AllCoherent) (happly : l.apply op now = .ok l') :
    l'.AllCoherent := by
  have hadmits : ∀ admission, op = .tombstone admission →
      l.summary.epoch = admission.epoch ∧ l.summary.scope = admission.identity.scope := by
    rintro admission rfl
    obtain ⟨-, _, _, hx, -⟩ := onAbsent_eq_ok.1 happly
    obtain ⟨hadmits, -⟩ := require_bind_eq_ok.1 hx
    exact ⟨hadmits.1, hadmits.2.1⟩
  rcases apply_cases happly with
    ⟨key, summary', attempt', -, hwrite, rfl⟩ | ⟨_, _, _, _, _, _, _, summary', rfl, hresult, rfl⟩
  · intro k a ha
    by_cases hk : k = key
    · subst hk
      rw [AList.lookup_insert] at ha
      cases ha
      exact hwrite.coherent (fun attempt hattempt => h k attempt hattempt) hadmits
    · rw [AList.lookup_insert_ne hk] at ha
      exact (h k a ha).keepsTerms hwrite.keepsTerms
  · cases hresult with
    | kept => exact h
    | advanced _ _ hs =>
        intro k a ha
        have hcoherent := h k a ha
        refine ⟨hcoherent.epoch.trans ?_, hcoherent.scope.trans ?_, hcoherent.unevidenced⟩
        · rw [hs]
        · rw [hs]

/-- Every run from a scope without attempts stores coherent attempts. -/
theorem AllCoherent.reaches {allowed : Ledger → LedgerOp → Prop} {l₀ : Ledger}
    (hempty : l₀.attempts = ∅) (h : Reaches allowed l₀ l) : l.AllCoherent := by
  induction h with
  | refl =>
      intro key attempt ha
      rw [hempty] at ha
      cases ha
  | step _ _ _ _ happly ih => exact ih.step happly

end Ledger

end Turnstile
