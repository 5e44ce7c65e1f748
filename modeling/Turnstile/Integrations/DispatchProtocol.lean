import Turnstile.Foundation.Serial
import Turnstile.Integrations.Dispatch
import Turnstile.Ledger.Absorption

/-!
# What the clients of a plan keep to

The owner of a plan and any number of recovery workers call the methods of one plan
in any order and any number of times, over rows that other requests change too.

The plan's row decides.  It is created once as the plan, and then either authorized
or cancelled, under its tag, and never leaves that state (`DispatchRely.decided`).
Only a client that has read it cancelled writes a cancelled attempt, and an attempt
that is settled or cancelled stays so.
-/

namespace Turnstile

open Guard

/-! ## Calls -/

/-- A call of one of the dispatch methods.  Only the owner's calls carry the plan as it
was prepared. -/
inductive DispatchCall where
  | beginDispatch
  | reserveDispatch
  | authorizeDispatch
  | cancelDispatch (stored : LedgerDispatch) (recovery : Bool)
  | compensateDispatch (stored : LedgerDispatch)
  | finishDispatchRecovery (stored : LedgerDispatch)

/-- What a call returns. -/
inductive DispatchReply where
  | done
  | authorized (success : Bool)
  | cancelled (success : Bool)
  | compensated (released : ℕ)
deriving DecidableEq

namespace DispatchCall

/-- The copy of the plan that the call carries is the plan's. -/
def About (plan : LedgerDispatch) : DispatchCall → Prop
  | .cancelDispatch stored _ | .compensateDispatch stored | .finishDispatchRecovery stored =>
      stored.SameAs plan
  | _ => True

def authorizes : DispatchCall → Bool
  | .authorizeDispatch => true
  | _ => false

def cancels : DispatchCall → Bool
  | .cancelDispatch _ _ => true
  | _ => false

/-- The method's program. -/
def program (plan : LedgerDispatch) : DispatchCall → LedgerProgram DispatchReply
  | .beginDispatch => do
      let _ ← Turnstile.beginDispatch plan
      pure .done
  | .reserveDispatch => do
      Turnstile.reserveDispatch plan
      pure .done
  | .authorizeDispatch => do
      let success ← Turnstile.authorizeDispatch plan
      pure (.authorized success)
  | .cancelDispatch stored recovery => do
      let success ← Turnstile.cancelDispatch stored recovery
      pure (.cancelled success)
  | .compensateDispatch stored => do
      let released ← Turnstile.compensateDispatch stored
      pure (.compensated released)
  | .finishDispatchRecovery stored => do
      Turnstile.finishDispatchRecovery stored
      pure .done

end DispatchCall

/-! ## The rows of a plan -/

/-- The plan's row is in a state. -/
def InState (plan : LedgerDispatch) (state : DispatchState) (t : Table RowKey LedgerDocument) :
    Prop :=
  ∃ stored etag, t.rows plan.rowKey = some ⟨.dispatch stored, etag⟩ ∧ stored.state = state

/-- The attempt of a receipt exists and is settled or cancelled. -/
def ClosedAt (admission : LedgerAdmissionReceipt) (t : Table RowKey LedgerDocument) : Prop :=
  ∃ attempt etag, t.rows admission.identity.rowKey = some ⟨.attempt attempt, etag⟩ ∧
    attempt.state.Closed

theorem InState.unique {plan : LedgerDispatch} {state state' : DispatchState}
    {t : Table RowKey LedgerDocument} (h : InState plan state t) (h' : InState plan state' t) :
    state = state' := by
  obtain ⟨stored, etag, hrow, rfl⟩ := h
  obtain ⟨stored', etag', hrow', rfl⟩ := h'
  rw [hrow, Option.some.injEq, Row.mk.injEq, LedgerDocument.dispatch.injEq] at hrow'
  rw [hrow'.1]

theorem LedgerDispatch.SameAs.rowKey {stored plan : LedgerDispatch} (h : stored.SameAs plan) :
    stored.rowKey = plan.rowKey := by
  simp [LedgerDispatch.rowKey, LedgerDispatch.scope, LedgerDispatch.attemptKey, h.2.1]

theorem LedgerDispatch.SameAs.receipts {stored plan : LedgerDispatch} (h : stored.SameAs plan) :
    stored.receipts = plan.receipts := by
  simp [DispatchFields.receipts, h.2.1, h.2.2]

theorem LedgerDispatch.SameAs.trans {a b c : LedgerDispatch} (h : a.SameAs b) (h' : b.SameAs c) :
    a.SameAs c :=
  ⟨h.1.trans h'.1, h.2.1.trans h'.2.1, h.2.2.trans h'.2.2⟩

section Rows

variable {plan stored : LedgerDispatch} {t : Table RowKey LedgerDocument}
  {identity : LedgerAttemptIdentity}

theorem pairBatch_rows_plan (summary : LedgerSummary) (attempt : LedgerAttempt) (e : ℕ)
    (e' : Option ℕ) :
    (t.apply (pairBatch identity summary attempt e e')).rows plan.rowKey = t.rows plan.rowKey := by
  refine Table.apply_rows_of_not_mem fun w hw => ?_
  simp only [pairBatch, List.mem_cons, List.not_mem_nil, or_false] at hw
  rcases hw with rfl | rfl <;>
    simp [summaryKey, LedgerAttemptIdentity.rowKey, LedgerDispatch.rowKey]

theorem pairBatch_rows_self (summary : LedgerSummary) (attempt : LedgerAttempt) (e : ℕ)
    (e' : Option ℕ) : (t.apply (pairBatch identity summary attempt e e')).rows identity.rowKey
      = some ⟨.attempt attempt, t.next⟩ := by
  simp [pairBatch, Table.apply, summaryKey, LedgerAttemptIdentity.rowKey]

theorem pairBatch_rows_of_ne {other : LedgerAttemptIdentity} (h : other.rowKey ≠ identity.rowKey)
    (summary : LedgerSummary) (attempt : LedgerAttempt) (e : ℕ) (e' : Option ℕ) :
    (t.apply (pairBatch identity summary attempt e e')).rows other.rowKey
      = t.rows other.rowKey := by
  refine Table.apply_rows_of_not_mem fun w hw => ?_
  simp only [pairBatch, List.mem_cons, List.not_mem_nil, or_false] at hw
  rcases hw with rfl | rfl
  · simp [summaryKey, LedgerAttemptIdentity.rowKey]
  · exact h.symm

theorem planBatch_rows_self (etag : Option ℕ) :
    (t.apply (planBatch plan stored etag)).rows plan.rowKey
      = some ⟨.dispatch stored, t.next⟩ := by
  simp [planBatch, Table.apply]

theorem planBatch_rows_attempt (etag : Option ℕ) :
    (t.apply (planBatch plan stored etag)).rows identity.rowKey = t.rows identity.rowKey := by
  refine Table.apply_rows_of_not_mem fun w hw => ?_
  rw [List.mem_singleton.1 hw]
  simp [LedgerAttemptIdentity.rowKey, LedgerDispatch.rowKey]

end Rows

/-! ## What other requests do to a plan's attempts -/

section Writes

variable {summary summary' : LedgerSummary} {attempt attempt' : LedgerAttempt} {now : Int}

theorem ResolveResult.closed (h : ResolveResult summary attempt now summary' attempt')
    (hclosed : attempt.state.Closed) : attempt'.state.Closed := by
  cases h with
  | kept => exact hclosed
  | released _ _ hheld =>
      rcases hclosed with hs | hs <;> simp [hs] at hheld

/-- An attempt that is settled or cancelled stays so. -/
theorem LedgerWrite.closed {op : LedgerOp}
    (h : LedgerWrite summary now op (some attempt) summary' attempt')
    (hclosed : attempt.state.Closed) : attempt'.state.Closed := by
  cases h with
  | transition _ hresult =>
      cases hresult with
      | kept => exact hclosed
      | moved hstate =>
          have hlt := TransitionState.stage_of_allowed hstate
          rw [hclosed.stage] at hlt
          exact absurd (TransitionState.stage_le _) (Nat.not_le.2 hlt)
  | settle hresult =>
      cases hresult with
      | resolved _ _ hresolve => exact (resolveLedger_result hresolve).2.closed hclosed
      | late => exact hclosed
      | answered => exact hclosed
      | charged _ _ _ _ _ ha =>
          left
          rw [ha]
  | resolve _ hresult => exact hresult.closed hclosed
  | complete hresult =>
      cases hresult with
      | kept => exact hclosed
      | charged _ _ _ _ _ _ _ ha =>
          left
          rw [ha]

theorem ResolveResult.of_cancelled (h : ResolveResult summary attempt now summary' attempt')
    (hcancelled : attempt'.state = .cancelled) : attempt.state = .cancelled := by
  cases h with
  | kept => exact hcancelled
  | released _ _ _ _ _ ha =>
      rw [ha] at hcancelled
      cases hcancelled

/-- Only a cancellation cancels an attempt. -/
theorem LedgerWrite.of_cancelled {op : LedgerOp}
    (h : LedgerWrite summary now op (some attempt) summary' attempt')
    (hop : ∀ key, op ≠ .transition key .cancelled) (hcancelled : attempt'.state = .cancelled) :
    attempt.state = .cancelled := by
  cases h with
  | @transition key target _ _ _ _ hresult =>
      cases hresult with
      | kept => exact hcancelled
      | moved _ _ _ ha =>
          rw [ha] at hcancelled
          cases target with
          | cancelled => exact absurd rfl (hop key)
          | dispatching => cases hcancelled
          | uncertain => cases hcancelled
          | upperBound => cases hcancelled
  | settle hresult =>
      cases hresult with
      | resolved _ _ hresolve => exact (resolveLedger_result hresolve).2.of_cancelled hcancelled
      | late => exact hcancelled
      | answered => exact hcancelled
      | charged _ _ _ _ _ ha =>
          rw [ha] at hcancelled
          cases hcancelled
  | resolve _ hresult => exact hresult.of_cancelled hcancelled
  | complete hresult =>
      cases hresult with
      | kept => exact hcancelled
      | charged _ _ _ _ _ _ _ ha =>
          rw [ha] at hcancelled
          cases hcancelled

end Writes

/-- A row of the plan's attempts is left alone, or another request's operation, but
not a cancellation, is applied to it. -/
def AttemptStep (row row' : Option (Row LedgerDocument)) : Prop :=
  row' = row ∨ ∃ attempt etag attempt' etag' summary summary' now op,
    row = some ⟨.attempt attempt, etag⟩ ∧ row' = some ⟨.attempt attempt', etag'⟩ ∧
      (∀ key, op ≠ LedgerOp.transition key .cancelled) ∧
      LedgerWrite summary now op (some attempt) summary' attempt'

/-- What the surroundings of a plan may do: anything to rows that are not the plan's,
and requests' operations on its attempts.  No other plan uses its identities, so they
create none of its rows and cancel nothing of it. -/
structure Surrounds {ι : Type} (plan : LedgerDispatch) (w w' : World ι RowKey LedgerDocument) :
    Prop where
  log : w'.log = w.log
  tagged : w'.table.WellTagged
  evolves : w.table.Evolves w'.table
  planRow : w'.table.rows plan.rowKey = w.table.rows plan.rowKey
  attempts : ∀ admission ∈ plan.receipts,
    AttemptStep (w.table.rows admission.identity.rowKey) (w'.table.rows admission.identity.rowKey)

/-! ## The protocol -/

/-- The commit writes a receipt's attempt as cancelled. -/
def CancelsAttempt {ι : Type} (admission : LedgerAdmissionReceipt)
    (c : Commit ι RowKey LedgerDocument) : Prop :=
  ∃ write ∈ c.batch, ∃ attempt, write.key = admission.identity.rowKey ∧
    write.document = .attempt attempt ∧ attempt.state = .cancelled

section Protocol

variable {ι : Type} [DecidableEq ι]

omit [DecidableEq ι] in
/-- The commits of the owner's authorizations. -/
def authorizations (calls : ι → DispatchCall) (w : World ι RowKey LedgerDocument) :
    List (Commit ι RowKey LedgerDocument) :=
  w.log.filter fun c => (calls c.client).authorizes

/-- The plan's row is decided once, by an authorization or a cancellation that was
committed, and attempts are cancelled under a cancelled row. -/
structure DispatchInv (calls : ι → DispatchCall) (plan : LedgerDispatch)
    (w : World ι RowKey LedgerDocument) : Prop where
  tagged : w.table.WellTagged
  stored : ∀ row, w.table.rows plan.rowKey = some row → ∃ stored,
    row.document = .dispatch stored ∧ stored.SameAs plan ∧ plan.state = .preparing ∧
      (stored.state = .preparing → stored = plan)
  attempts : ∀ admission ∈ plan.receipts, ∀ row,
    w.table.rows admission.identity.rowKey = some row → ∃ attempt,
      row.document = .attempt attempt ∧
        (attempt.state = .cancelled → InState plan .cancelled w.table)
  authorized : InState plan .dispatching w.table ↔ authorizations calls w ≠ []
  cancelled : InState plan .cancelled w.table ↔ ∃ c ∈ w.log, (calls c.client).cancels = true
  once : (authorizations calls w).length ≤ 1
  compensated : ∀ c ∈ w.log, ∀ admission ∈ plan.receipts, CancelsAttempt admission c →
    InState plan .cancelled w.table ∧ ClosedAt admission w.table

/-- What every client may rely on. -/
structure DispatchRely (plan : LedgerDispatch) (i : ι) (w w' : World ι RowKey LedgerDocument) :
    Prop where
  evolves : w.table.Evolves w'.table
  own : w'.own i = w.own i
  decided : ∀ state, state ≠ .preparing → InState plan state w.table → InState plan state w'.table
  closed : ∀ admission ∈ plan.receipts, ClosedAt admission w.table → ClosedAt admission w'.table

theorem DispatchRely.trans {plan : LedgerDispatch} {i : ι}
    {w₁ w₂ w₃ : World ι RowKey LedgerDocument}
    (h : DispatchRely plan i w₁ w₂) (h' : DispatchRely plan i w₂ w₃) :
    DispatchRely plan i w₁ w₃ where
  evolves := h.evolves.trans h'.evolves
  own := h'.own.trans h.own
  decided state hstate hin := h'.decided state hstate (h.decided state hstate hin)
  closed admission hmem hclosed := h'.closed admission hmem (h.closed admission hmem hclosed)

def dispatchProtocol (calls : ι → DispatchCall) (plan : LedgerDispatch) :
    Protocol ι RowKey LedgerDocument where
  inv := DispatchInv calls plan
  rely := DispatchRely plan
  refl _ _ := ⟨.refl _, rfl, fun _ _ h => h, fun _ _ h => h⟩
  trans _ _ _ _ h h' := h.trans h'

variable {calls : ι → DispatchCall} {plan : LedgerDispatch} {i : ι}
  {w w' : World ι RowKey LedgerDocument}

omit [DecidableEq ι] in
theorem DispatchInv.not_both (h : DispatchInv calls plan w)
    (hcancelled : InState plan .cancelled w.table) : authorizations calls w = [] := by
  by_contra hne
  have hauthorized := h.authorized.2 hne
  cases hauthorized.unique hcancelled

/-- The surroundings keep to the protocol. -/
theorem dispatchProtocol_tolerates : (dispatchProtocol calls plan).Tolerates (Surrounds plan) := by
  intro w w' hinv hsurrounds
  have hstate : ∀ state, InState plan state w'.table ↔ InState plan state w.table := by
    intro state
    simp only [InState, hsurrounds.planRow]
  have hown : ∀ i, w'.own i = w.own i := fun i => by rw [World.own, hsurrounds.log, World.own]
  have hauthorizations : authorizations calls w' = authorizations calls w := by
    rw [authorizations, hsurrounds.log, authorizations]
  have hclosed : ∀ admission ∈ plan.receipts, ClosedAt admission w.table →
      ClosedAt admission w'.table := by
    rintro admission hmem ⟨attempt₀, etag₀, hrow₀, hclosed⟩
    rcases hsurrounds.attempts admission hmem with hsame |
      ⟨attempt, etag, attempt', etag', _, _, _, _, hrow, hrow', -, hwrite⟩
    · exact ⟨attempt₀, etag₀, by rw [hsame, hrow₀], hclosed⟩
    · rw [hrow₀] at hrow
      cases hrow
      exact ⟨attempt', etag', hrow', hwrite.closed hclosed⟩
  refine ⟨⟨hsurrounds.tagged, ?_, ?_, ?_, ?_, ?_, ?_⟩, fun i => ⟨hsurrounds.evolves, hown i,
    fun state _ => (hstate state).2, hclosed⟩⟩
  · rw [hsurrounds.planRow]
    exact hinv.stored
  · intro admission hmem row' hrow'
    rcases hsurrounds.attempts admission hmem with hsame |
      ⟨attempt, etag, attempt', etag', _, _, _, _, hrow, hrow'', hop, hwrite⟩
    · rw [hsame] at hrow'
      obtain ⟨attempt, hdocument, hcancelled⟩ := hinv.attempts admission hmem row' hrow'
      exact ⟨attempt, hdocument, fun h => (hstate _).2 (hcancelled h)⟩
    · rw [hrow''] at hrow'
      cases hrow'
      refine ⟨attempt', rfl, fun hcancelled => (hstate _).2 ?_⟩
      obtain ⟨attempt₀, hdocument, hcancelled₀⟩ := hinv.attempts admission hmem _ hrow
      cases hdocument
      exact hcancelled₀ (hwrite.of_cancelled hop hcancelled)
  · rw [hstate, hauthorizations]
    exact hinv.authorized
  · rw [hstate, hsurrounds.log]
    exact hinv.cancelled
  · rw [hauthorizations]
    exact hinv.once
  · rw [hsurrounds.log]
    intro c hc admission hmem hcancels
    obtain ⟨hin, hclosedAt⟩ := hinv.compensated c hc admission hmem hcancels
    exact ⟨(hstate _).2 hin, hclosed admission hmem hclosedAt⟩

omit [DecidableEq ι] in
theorem authorizations_commit (w : World ι RowKey LedgerDocument)
    (batch : List (Write RowKey LedgerDocument)) (reported : Bool) :
    authorizations calls (w.commit ⟨i, batch, reported⟩) = authorizations calls w ++
      if (calls i).authorizes = true then [⟨i, batch, reported⟩] else [] := by
  unfold authorizations
  rw [World.commit_log, List.filter_append, List.filter_singleton]
  cases (calls i).authorizes <;> rfl

/-- A write of an attempt is allowed to a client that neither authorizes nor cancels
the plan, if the attempt is cancelled under a cancelled plan only and a closed one
stays closed. -/
theorem allows_pair_of_plan {identity : LedgerAttemptIdentity} {summary' : LedgerSummary}
    {attempt' : LedgerAttempt} (e : ℕ) (e' : Option ℕ) (hinv : DispatchInv calls plan w)
    (hauthorizes : (calls i).authorizes = false) (hcancels : (calls i).cancels = false)
    (hcancelled : attempt'.state = .cancelled → InState plan .cancelled w.table)
    (hclosed : ∀ attempt etag, w.table.rows identity.rowKey = some ⟨.attempt attempt, etag⟩ →
      attempt.state.Closed → attempt'.state.Closed) (reported : Bool) :
    (dispatchProtocol calls plan).Allows i w
      (w.commit ⟨i, pairBatch identity summary' attempt' e e', reported⟩) := by
  have hstate : ∀ state, InState plan state (w.table.apply
      (pairBatch identity summary' attempt' e e')) ↔ InState plan state w.table := by
    intro state
    simp only [InState, pairBatch_rows_plan]
  have hauthorizations : authorizations calls (w.commit
      ⟨i, pairBatch identity summary' attempt' e e', reported⟩) = authorizations calls w := by
    rw [authorizations_commit, hauthorizes]
    simp
  have hkeeps : ∀ admission ∈ plan.receipts, ClosedAt admission w.table → ClosedAt admission
      (w.table.apply (pairBatch identity summary' attempt' e e')) := by
    rintro admission hmem ⟨attempt, etag, hrow, hattempt⟩
    by_cases hkey : admission.identity.rowKey = identity.rowKey
    · rw [hkey] at hrow
      refine ⟨attempt', w.table.next, ?_, hclosed attempt etag hrow hattempt⟩
      rw [hkey, pairBatch_rows_self]
    · exact ⟨attempt, etag, by rw [pairBatch_rows_of_ne hkey, hrow], hattempt⟩
  refine ⟨⟨hinv.tagged.apply _, ?_, ?_, ?_, ?_, ?_, ?_⟩, fun j hj =>
    ⟨Table.evolves_apply _ _, ?_, fun state _ => (hstate state).2, hkeeps⟩⟩
  · rw [World.commit_table, pairBatch_rows_plan]
    exact hinv.stored
  · intro admission hmem row hrow
    rw [World.commit_table, hstate]
    by_cases hkey : admission.identity.rowKey = identity.rowKey
    · rw [World.commit_table, hkey, pairBatch_rows_self] at hrow
      cases hrow
      exact ⟨attempt', rfl, hcancelled⟩
    · rw [World.commit_table, pairBatch_rows_of_ne hkey] at hrow
      exact hinv.attempts admission hmem row hrow
  · rw [World.commit_table, hstate, hauthorizations]
    exact hinv.authorized
  · rw [World.commit_table, hstate, hinv.cancelled]
    simp [hcancels]
  · rw [hauthorizations]
    exact hinv.once
  · intro c hc admission hmem hcancelsAttempt
    rw [World.commit_table, hstate]
    rcases List.mem_append.1 hc with hc | hc
    · obtain ⟨hin, hclosedAt⟩ := hinv.compensated c hc admission hmem hcancelsAttempt
      exact ⟨hin, hkeeps admission hmem hclosedAt⟩
    · rw [List.mem_singleton.1 hc] at hcancelsAttempt
      obtain ⟨write, hwrite, attempt, hkey, hdocument, hattempt⟩ := hcancelsAttempt
      simp only [pairBatch, List.mem_cons, List.not_mem_nil, or_false] at hwrite
      rcases hwrite with rfl | rfl
      · cases hdocument
      · cases hdocument
        refine ⟨hcancelled hattempt, attempt', w.table.next, ?_, .inr hattempt⟩
        rw [← hkey, pairBatch_rows_self]
  · have hother : i ≠ j := fun h => hj h.symm
    simp [World.own, List.filter_append, hother]

/-- A write of the plan's row is allowed if a decided row stays as it was decided, and
the row is authorized or cancelled just by the calls that do so. -/
theorem allows_plan {stored : LedgerDispatch} (e : Option ℕ) (hinv : DispatchInv calls plan w)
    (hsame : stored.SameAs plan) (hprepared : plan.state = .preparing)
    (hpreparing : stored.state = .preparing → stored = plan)
    (hdecided : ∀ state, state ≠ .preparing → InState plan state w.table → stored.state = state)
    (hauthorizes : stored.state = .dispatching ↔
      InState plan .dispatching w.table ∨ (calls i).authorizes = true)
    (honce : (calls i).authorizes = true → ¬InState plan .dispatching w.table)
    (hcancels : stored.state = .cancelled ↔
      InState plan .cancelled w.table ∨ (calls i).cancels = true) (reported : Bool) :
    (dispatchProtocol calls plan).Allows i w
      (w.commit ⟨i, planBatch plan stored e, reported⟩) := by
  have hstate : ∀ state, InState plan state (w.table.apply (planBatch plan stored e)) ↔
      stored.state = state := by
    intro state
    constructor
    · rintro ⟨stored', etag, hrow, rfl⟩
      rw [planBatch_rows_self] at hrow
      cases hrow
      rfl
    · rintro rfl
      exact ⟨stored, _, planBatch_rows_self e, rfl⟩
  have hkeeps : ∀ admission ∈ plan.receipts, ClosedAt admission w.table → ClosedAt admission
      (w.table.apply (planBatch plan stored e)) := by
    rintro admission hmem ⟨attempt, etag, hrow, hattempt⟩
    exact ⟨attempt, etag, by rw [planBatch_rows_attempt, hrow], hattempt⟩
  refine ⟨⟨hinv.tagged.apply _, ?_, ?_, ?_, ?_, ?_, ?_⟩, fun j hj =>
    ⟨Table.evolves_apply _ _, ?_, fun state hdec hin => (hstate state).2 (hdecided state hdec hin),
      hkeeps⟩⟩
  · intro row hrow
    rw [World.commit_table, planBatch_rows_self] at hrow
    cases hrow
    exact ⟨stored, rfl, hsame, hprepared, hpreparing⟩
  · intro admission hmem row hrow
    rw [World.commit_table, planBatch_rows_attempt] at hrow
    obtain ⟨attempt, hdocument, hcancelled⟩ := hinv.attempts admission hmem row hrow
    refine ⟨attempt, hdocument, fun h => (hstate _).2 ?_⟩
    exact hdecided _ (by decide) (hcancelled h)
  · rw [World.commit_table, hstate, hauthorizes, authorizations_commit, hinv.authorized]
    cases (calls i).authorizes <;> simp
  · rw [World.commit_table, hstate, hcancels, hinv.cancelled]
    simp only [World.commit_log, List.mem_append, List.mem_singleton, or_and_right, exists_or,
      exists_eq_left]
  · rw [authorizations_commit]
    split
    next hi =>
      have hnone : authorizations calls w = [] := by
        by_contra hne
        exact honce hi (hinv.authorized.2 hne)
      rw [hnone]
      simp
    next =>
      rw [List.append_nil]
      exact hinv.once
  · intro c hc admission hmem hcancelsAttempt
    rw [World.commit_table, hstate]
    rcases List.mem_append.1 hc with hc | hc
    · obtain ⟨hin, hclosedAt⟩ := hinv.compensated c hc admission hmem hcancelsAttempt
      exact ⟨hdecided _ (by decide) hin, hkeeps admission hmem hclosedAt⟩
    · rw [List.mem_singleton.1 hc] at hcancelsAttempt
      obtain ⟨write, hwrite, attempt, -, hdocument, -⟩ := hcancelsAttempt
      rw [List.mem_singleton.1 hwrite] at hdocument
      cases hdocument
  · have hother : i ≠ j := fun h => hj h.symm
    simp [World.own, List.filter_append, hother]

end Protocol

end Turnstile
