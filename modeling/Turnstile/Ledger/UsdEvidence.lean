import Turnstile.Ledger.Balance

/-!
# Confirmed USD evidence

Rank 3 is confirmed usage.  A USD attempt that is settled at that rank keeps its
amount through every operation but two.  A completion is compared with the stored
amount only when an earlier completion is stored; after a task settled the attempt
it is compared by its token total alone.  A task of equal amount at a higher
revision is recorded again, through a sum that the default context may round.

`Consistent` excludes these two.  In every run of consistent steps the amount and
what the scope confirmed stay (`usd_evidence_kept`); a completion that returns and
is not consistent changes them (`usd_evidence_overwritten`).
-/

namespace Turnstile

open Guard

/-- A USD attempt that is settled with complete evidence, at some amount. -/
structure AttemptFields.Confirmed (a : AttemptFields) (amount : Int) : Prop where
  mode : a.budgetMode = .usd
  state : a.state = .settled
  rank : a.evidenceRank = .three
  actual : a.actualUsd = some amount

instance (a : AttemptFields) (amount : Int) : Decidable (a.Confirmed amount) :=
  decidable_of_iff (a.budgetMode = .usd ∧ a.state = .settled ∧ a.evidenceRank = .three ∧
      a.actualUsd = some amount)
    ⟨fun ⟨h₁, h₂, h₃, h₄⟩ => ⟨h₁, h₂, h₃, h₄⟩, fun ⟨h₁, h₂, h₃, h₄⟩ => ⟨h₁, h₂, h₃, h₄⟩⟩

theorem AttemptFields.Confirmed.of_eq {a a' : AttemptFields} {previous amount : Int}
    (h : a.Confirmed previous) (hmode : a'.budgetMode = a.budgetMode)
    (hstate : a'.state = .settled) (hrank : a'.evidenceRank = .three)
    (hactual : a'.actualUsd = some amount) : a'.Confirmed amount :=
  ⟨hmode.trans h.mode, hstate, hrank, hactual⟩

/-- An operation that brings no evidence against the confirmed amount of its
attempt.  A completion prices to that amount, unless a completion is stored
already or the token totals differ; a task that is recorded again adds to a
balance that keeps its digits. -/
def ConsistentStep (summary : SummaryFields) (a : LedgerAttempt) : LedgerOp → Prop
  | .complete _ _ completion =>
      ∀ evidence, completion = .record evidence → evidence.rejection = none →
        a.completionEvidence = none → a.actualTokens = some evidence.totalTokens →
        ∀ projection ∈ a.priceSnapshot, ∀ charge,
          usdCompletionCharge projection evidence.toUsageCounters = .ok charge →
          a.actualUsd = some charge
  | .settle _ charge =>
      charge.evidenceRank = .three → settlementAnswered a charge = .ok false →
        defaultContext.Exact summary.confirmedUsd ∧
        defaultContext.Exact (summary.confirmedUsd + a.actual .usd)
  | _ => True

/-- An operation that is consistent with a confirmed amount, if its attempt has one. -/
def Ledger.Consistent (l : Ledger) (op : LedgerOp) : Prop :=
  ∀ key a amount, op.key? = some key → l.attempts.lookup key = some a → a.Confirmed amount →
    ConsistentStep l.summary.toSummaryFields a op

section Steps

variable {summary summary' : LedgerSummary} {attempt attempt' : LedgerAttempt} {amount now : Int}

theorem ResolveResult.of_confirmed (h : ResolveResult summary attempt now summary' attempt')
    (hconfirmed : attempt.Confirmed amount) : summary' = summary ∧ attempt' = attempt := by
  cases h with
  | kept => exact ⟨rfl, rfl⟩
  | released _ _ hstate =>
      rw [hconfirmed.state] at hstate
      rcases hstate with hstate | hstate <;> cases hstate

/-- A task of lower rank is answered by confirmed usage. -/
theorem settlementAnswered_of_confirmed {charge : LedgerCharge}
    (hconfirmed : attempt.Confirmed amount)
    (hanswered : settlementAnswered attempt charge = .ok false) : charge.evidenceRank = .three := by
  cases hrank : charge.evidenceRank with
  | three => rfl
  | two =>
      exfalso
      simp only [settlementAnswered, hconfirmed.rank, hrank, EvidenceRank.value] at hanswered
      split at hanswered
      next =>
        obtain ⟨-, hanswered⟩ := require_bind_eq_ok.1 hanswered
        cases hanswered
      next =>
        rw [if_pos (by decide)] at hanswered
        cases hanswered
  | zero => exact absurd hrank charge.isValid.evidenceRank

theorem SettleResult.keepsConfirmed {key : AttemptKey} {charge : LedgerCharge}
    (h : SettleResult summary attempt charge now summary' attempt')
    (hconfirmed : attempt.Confirmed amount)
    (hstep : ConsistentStep summary.toSummaryFields attempt (.settle key charge)) :
    summary'.confirmedUsd = summary.confirmedUsd ∧ attempt'.Confirmed amount := by
  cases h with
  | resolved _ _ hresolve =>
      obtain ⟨rfl, rfl⟩ := (resolveLedger_result hresolve).2.of_confirmed hconfirmed
      exact ⟨rfl, hconfirmed⟩
  | late => exact ⟨rfl, hconfirmed⟩
  | answered => exact ⟨rfl, hconfirmed⟩
  | charged _ hallowed hopen _ hs ha =>
      have hrank := settlementAnswered_of_confirmed hconfirmed hopen
      have hmode : summary.budgetMode = .usd := hallowed.attemptMode.symm.trans hconfirmed.mode
      have hamount : charge.actualUsd = some amount :=
        (hallowed.confirmed hmode hconfirmed.rank hrank).trans hconfirmed.actual
      obtain ⟨hbalance, hsum⟩ := hstep hrank hopen
      have hactual : attempt.actual .usd = amount := by
        simp [AttemptFields.actual, hconfirmed.actual]
      rw [hactual] at hsum
      refine ⟨?_, hconfirmed.of_eq ?_ ?_ ?_ ?_⟩
      · have hback : defaultContext.Exact (summary.confirmedUsd + amount - amount) := by
          rwa [Int.add_sub_cancel]
        rw [hs]
        simp only [chargedFields, hmode, if_true, hamount, hconfirmed.actual, Option.getD_some,
          hsum.add, hback.sub, Int.add_sub_cancel]
      · rw [ha]
      · rw [ha]
      · rw [ha]
        exact hrank
      · rw [ha]
        simp only [hmode, if_true]
        exact hamount

/-- What a completion that returns does to a confirmed amount. -/
theorem CompleteResult.of_confirmed {receipt : LedgerAdmissionReceipt}
    {completion : Decoded Completion}
    (h : CompleteResult summary attempt receipt completion now summary' attempt')
    (hconfirmed : attempt.Confirmed amount) :
    (summary' = summary ∧ attempt' = attempt ∧
        ∀ evidence, completion = .record evidence → evidence.rejection = none →
          attempt.completionEvidence ≠ none) ∨
      ∃ evidence projection charge, completion = .record evidence ∧ evidence.rejection = none ∧
        attempt.completionEvidence = none ∧ attempt.actualTokens = some evidence.totalTokens ∧
        attempt.priceSnapshot = some projection ∧
        usdCompletionCharge projection evidence.toUsageCounters = .ok charge ∧
        summary'.confirmedUsd = summary.confirmedUsd + charge - amount ∧
        attempt'.Confirmed charge := by
  cases h with
  | kept evidence usd hvalidated _ hreason =>
      refine .inl ⟨rfl, rfl, fun evidence' heq hrejection hnone => ?_⟩
      obtain ⟨rfl, -⟩ := validateCompletion_eq_ok.1 hvalidated
      cases heq
      rcases hreason with ⟨hreleased, -⟩ | ⟨previous, -, hanswered⟩
      · rw [hconfirmed.state] at hreleased
        cases hreleased
      · rw [answered, if_neg (fun h => h.1 hrejection), answeredByCompletion] at hanswered
        have hdump : attempt.dump.completionEvidence = none := hnone
        rw [hdump] at hanswered
        obtain ⟨-, hanswered⟩ := require_bind_eq_ok.1 hanswered
        cases hanswered
  | charged evidence usd previous key hallowed _ husd ha =>
      obtain ⟨rfl, -⟩ := validateCompletion_eq_ok.1 hallowed.validated
      have hmode : summary.budgetMode = .usd := by
        have hsame : attempt.budgetMode = summary.budgetMode := hallowed.admitted.mode
        exact hsame.symm.trans hconfirmed.mode
      have hstate : attempt.dump.state = .settled := hconfirmed.state
      have hrank : attempt.dump.evidenceRank.getD .three = .three := hconfirmed.rank
      obtain ⟨hrejection, htotal⟩ := hallowed.unanswered.confirmed hstate hrank
      have hpriced := hallowed.admitted.priced
      have hdump : summary.dump.budgetMode = .usd := hmode
      rw [hdump] at hpriced
      obtain ⟨projection, -, hprojection, -, -, -, -, -, -, hcharge, hsettled, -⟩ :=
        priceCompletion_usd.1 hpriced
      have hprevious : usd.2 = amount := by
        have hactual : attempt.actualUsd = some usd.2 := (hsettled hstate).1
        rw [hconfirmed.actual] at hactual
        exact (Option.some.inj hactual).symm
      have htokens : attempt.actualTokens = some evidence.totalTokens := by
        obtain ⟨total, hactual⟩ := attempt.settled_iff.1 hconfirmed.state
        have hread := hallowed.previous
        rw [attempt.previousTokens_dump] at hread
        rw [hactual, ← htotal, ← Except.ok.inj hread]
        simp [AttemptFields.actual, hactual]
      refine .inr ⟨evidence, projection, usd.1, rfl, hrejection, hallowed.unanswered.completion,
        htokens, hprojection, hcharge, ?_, hconfirmed.of_eq ?_ ?_ ?_ ?_⟩
      · rw [husd hmode, ← hprevious]
      · rw [ha]
      · rw [ha]
      · rw [ha]
        simp only [hrejection, if_true]
      · rw [ha]
        simp only [hmode, if_true]

theorem CompleteResult.keepsConfirmed {key : AttemptKey} {receipt : LedgerAdmissionReceipt}
    {completion : Decoded Completion}
    (h : CompleteResult summary attempt receipt completion now summary' attempt')
    (hconfirmed : attempt.Confirmed amount)
    (hstep : ConsistentStep summary.toSummaryFields attempt (.complete key receipt completion)) :
    summary'.confirmedUsd = summary.confirmedUsd ∧ attempt'.Confirmed amount := by
  rcases h.of_confirmed hconfirmed with ⟨rfl, rfl, -⟩ |
    ⟨evidence, projection, charge, heq, hrejection, hnone, htokens, hprojection, hcharge,
      hbalance, hconfirmed'⟩
  · exact ⟨rfl, hconfirmed⟩
  · have hsame := hstep evidence heq hrejection hnone htokens projection hprojection charge hcharge
    rw [hconfirmed.actual] at hsame
    cases hsame
    exact ⟨by omega, hconfirmed'⟩

/-- A consistent write keeps a confirmed amount, and what the scope confirmed. -/
theorem LedgerWrite.keepsConfirmed {op : LedgerOp}
    (h : LedgerWrite summary now op (some attempt) summary' attempt')
    (hconfirmed : attempt.Confirmed amount)
    (hstep : ConsistentStep summary.toSummaryFields attempt op) :
    summary'.confirmedUsd = summary.confirmedUsd ∧ attempt'.Confirmed amount := by
  cases h with
  | @transition _ target _ _ _ _ hresult =>
      cases hresult with
      | kept => exact ⟨rfl, hconfirmed⟩
      | moved hstate =>
          rw [hconfirmed.state] at hstate
          cases target <;> simp [TransitionState.allowed] at hstate
  | settle hresult => exact hresult.keepsConfirmed hconfirmed hstep
  | resolve _ hresult =>
      obtain ⟨rfl, rfl⟩ := hresult.of_confirmed hconfirmed
      exact ⟨rfl, hconfirmed⟩
  | complete hresult => exact hresult.keepsConfirmed hconfirmed hstep

end Steps

/-! ## Runs -/

namespace Ledger

variable {l₀ l l' : Ledger} {key : AttemptKey} {a : LedgerAttempt} {amount now : Int}

/-- A consistent step keeps every confirmed amount; a step on the attempt itself
keeps what the scope confirmed. -/
theorem keepsConfirmed_step {op : LedgerOp} (hlookup : l.attempts.lookup key = some a)
    (hconfirmed : a.Confirmed amount) (hconsistent : l.Consistent op)
    (happly : l.apply op now = .ok l') :
    (∃ a', l'.attempts.lookup key = some a' ∧ a'.Confirmed amount) ∧
      (op.key? = some key → l'.summary.confirmedUsd = l.summary.confirmedUsd) := by
  rcases apply_cases happly with
    ⟨k, summary', attempt', hkey, hwrite, rfl⟩ | ⟨_, _, _, _, _, _, _, summary', rfl, -, rfl⟩
  · by_cases hk : key = k
    · subst hk
      rw [hlookup] at hwrite
      obtain ⟨hbalance, hconfirmed'⟩ :=
        hwrite.keepsConfirmed hconfirmed (hconsistent key a amount hkey hlookup hconfirmed)
      exact ⟨⟨attempt', AList.lookup_insert _, hconfirmed'⟩, fun _ => hbalance⟩
    · refine ⟨⟨a, ?_, hconfirmed⟩, fun h => ?_⟩
      · rw [AList.lookup_insert_ne hk]
        exact hlookup
      · rw [hkey] at h
        exact absurd (Option.some.inj h).symm hk
  · exact ⟨⟨a, hlookup, hconfirmed⟩, fun h => by cases h⟩

theorem keepsConfirmed_reaches (hlookup : l₀.attempts.lookup key = some a)
    (hconfirmed : a.Confirmed amount) (hrun : Reaches Consistent l₀ l) :
    ∃ a', l.attempts.lookup key = some a' ∧ a'.Confirmed amount := by
  induction hrun with
  | refl => exact ⟨a, hlookup, hconfirmed⟩
  | step op now _ hconsistent happly ih =>
      obtain ⟨a₁, hlookup₁, hconfirmed₁⟩ := ih
      exact (keepsConfirmed_step hlookup₁ hconfirmed₁ hconsistent happly).1

/-- A completion that returns keeps a confirmed amount exactly if it is consistent. -/
theorem complete_keepsConfirmed_iff {receipt : LedgerAdmissionReceipt}
    {completion : Decoded Completion} (hlookup : l.attempts.lookup key = some a)
    (hconfirmed : a.Confirmed amount)
    (happly : l.apply (.complete key receipt completion) now = .ok l') :
    l'.summary.confirmedUsd = l.summary.confirmedUsd ↔
      l.Consistent (.complete key receipt completion) := by
  refine ⟨fun hbalance => ?_, fun hconsistent => ?_⟩
  · intro k a₁ amount₁ hk hlookup₁ hconfirmed₁
    cases hk
    rw [hlookup] at hlookup₁
    cases hlookup₁
    rw [apply, onAttempt_eq_ok] at happly
    obtain ⟨a₂, summary', attempt', hlookup₂, hf, rfl⟩ := happly
    rw [hlookup] at hlookup₂
    cases hlookup₂
    intro evidence heq hrejection hnone htokens projection hprojection charge hcharge
    rcases (completeLedger_result hf).of_confirmed hconfirmed with ⟨-, -, hkept⟩ |
      ⟨_, _, charge', heq', -, -, -, hprojection', hcharge', hbalance', -⟩
    · exact absurd hnone (hkept evidence heq hrejection)
    · rw [heq] at heq'
      cases heq'
      rw [hprojection] at hprojection'
      cases hprojection'
      rw [hcharge] at hcharge'
      cases hcharge'
      have hsame : charge = amount := by
        simp only at hbalance
        omega
      rw [hsame]
      exact hconfirmed.actual
  · exact (keepsConfirmed_step hlookup hconfirmed hconsistent happly).2 rfl

end Ledger

namespace Sample

def usdReceipt : LedgerAdmissionReceipt where
  identity := identity 1
  epoch := 5
  reservedTokens := 1
  budgetMode := .usd
  reservedUsd := some (10 ^ 14)
  priceSnapshot := some projection
  valid := by decide +kernel

/-- A task that saw 60 input tokens. -/
def usdUsage : LedgerCharge where
  identity := identity 1
  epoch := 5
  revision := 2
  evidenceKey := .other "usage"
  totalTokens := 60
  budgetMode := .usd
  actualUsd := some (60 * 10 ^ 8)
  priceSnapshot := some projection
  valid := by decide +kernel

/-- A reservation of one dollar, settled by the task. -/
def usdSettledSteps : List (LedgerOp × Int) :=
  [(reserveUsd 1 1, start), (.settle (identity 1).attemptKey usdUsage, start)]

/-- The completion of the attempt by a producer. -/
def usdComplete (completion : Completion) : LedgerOp :=
  .complete (identity 1).attemptKey usdReceipt (.record completion)

/-- The settled attempt, and whether a completion then changes what is confirmed. -/
theorem usdSettled (completion : Completion) (changes : Bool)
    (h : Ledger.runsTo ⟨usdSummary, ∅⟩ usdSettledSteps (fun l =>
      match l.attempts.lookup (identity 1).attemptKey with
      | some a => decide (a.Confirmed (60 * 10 ^ 8)) &&
          l.runsTo [(usdComplete completion, start)] fun l' =>
            decide (l'.summary.confirmedUsd ≠ l.summary.confirmedUsd) == changes
      | none => false) = true) :
    ∃ l a l', Ledger.Reaches (fun _ op => op.OfRequest) ⟨usdSummary, ∅⟩ l ∧
      l.attempts.lookup (identity 1).attemptKey = some a ∧ a.Confirmed (60 * 10 ^ 8) ∧
      l.apply (usdComplete completion) start = .ok l' ∧
      decide (l'.summary.confirmedUsd ≠ l.summary.confirmedUsd) = changes := by
  obtain ⟨l, hrun, htest⟩ := Ledger.of_runsTo h
  split at htest
  next a hlookup =>
    obtain ⟨hstate, hnext⟩ := Bool.and_eq_true_iff.1 htest
    have hconfirmed := of_decide_eq_true hstate
    obtain ⟨l', hrun', hchanges⟩ := Ledger.of_runsTo hnext
    obtain ⟨l₁, happly, hlast⟩ := bind_eq_ok.1 hrun'
    cases hlast
    refine ⟨l, a, l', ?_, hlookup, hconfirmed, happly, eq_of_beq hchanges⟩
    refine Ledger.reaches_of_run .refl (fun _ step hstep => ?_) hrun
    simp only [usdSettledSteps, List.mem_cons, List.not_mem_nil, or_false] at hstep
    rcases hstep with rfl | rfl <;> trivial
  next => cases htest

end Sample

namespace Ledger

/-- Confirmed USD evidence is kept.  From any state in which an attempt is settled
with complete evidence, a run of consistent operations keeps its amount, and the
operations on it keep what the scope confirmed.  A completion that returns keeps
both only if it is consistent. -/
theorem usd_evidence_kept {l₀ l : Ledger} {key : AttemptKey} {a : LedgerAttempt} {amount : Int}
    (hlookup : l₀.attempts.lookup key = some a) (hconfirmed : a.Confirmed amount)
    (hrun : Reaches Consistent l₀ l) :
    (∃ a', l.attempts.lookup key = some a' ∧ a'.Confirmed amount) ∧
      (∀ op now l', op.key? = some key → l.Consistent op → l.apply op now = .ok l' →
        l'.summary.confirmedUsd = l.summary.confirmedUsd ∧
        ∃ a', l'.attempts.lookup key = some a' ∧ a'.Confirmed amount) ∧
      ∀ receipt completion now l', l.apply (.complete key receipt completion) now = .ok l' →
        (l'.summary.confirmedUsd = l.summary.confirmedUsd ↔
          l.Consistent (.complete key receipt completion)) := by
  obtain ⟨a', hlookup', hconfirmed'⟩ := keepsConfirmed_reaches hlookup hconfirmed hrun
  refine ⟨⟨a', hlookup', hconfirmed'⟩, fun op now l' hkey hconsistent happly => ?_,
    fun _ _ _ _ happly => complete_keepsConfirmed_iff hlookup' hconfirmed' happly⟩
  obtain ⟨hkept, hbalance⟩ := keepsConfirmed_step hlookup' hconfirmed' hconsistent happly
  exact ⟨hbalance hkey, hkept⟩

/-- A completion with the task's 60 input tokens confirms its amount. -/
theorem usd_evidence_kept_sample :
    ∃ l l', Reaches (fun _ op => op.OfRequest) ⟨Sample.usdSummary, ∅⟩ l ∧
      l.apply (Sample.usdComplete { Sample.completion with inputTokens := 60, outputTokens := 0 })
        Sample.start = .ok l' ∧
      l.summary.confirmedUsd = l'.summary.confirmedUsd ∧
      l.Consistent
        (Sample.usdComplete { Sample.completion with inputTokens := 60, outputTokens := 0 }) := by
  obtain ⟨l, a, l', hreach, hlookup, hconfirmed, happly, hsame⟩ :=
    Sample.usdSettled { Sample.completion with inputTokens := 60, outputTokens := 0 } false
      (by decide +kernel)
  have hbalance : l'.summary.confirmedUsd = l.summary.confirmedUsd :=
    not_not.1 (of_decide_eq_false hsame)
  exact ⟨l, l', hreach, happly, hbalance.symm,
    ((usd_evidence_kept hlookup hconfirmed .refl).2.2 _ _ _ _ happly).1 hbalance⟩

/-- The task saw 60 input tokens; a completion of 50 and 10 output tokens, with the
same total, replaces the amount it confirmed. -/
theorem usd_evidence_overwritten :
    ¬ ∀ l₀ l l' key a amount receipt evidence now, l₀.summary.budgetMode = .usd →
      l₀.attempts = ∅ → Reaches (fun _ op => op.OfRequest) l₀ l →
      l.attempts.lookup key = some a → a.Confirmed amount → evidence.rejection = none →
      l.apply (.complete key receipt (.record evidence)) now = .ok l' →
      l'.summary.confirmedUsd = l.summary.confirmedUsd := by
  intro hall
  obtain ⟨l, a, l', hreach, hlookup, hconfirmed, happly, hchanges⟩ :=
    Sample.usdSettled Sample.completion true (by decide +kernel)
  exact of_decide_eq_true hchanges
    (hall _ _ _ _ _ _ _ _ _ rfl rfl hreach hlookup hconfirmed rfl happly)

end Ledger

end Turnstile
