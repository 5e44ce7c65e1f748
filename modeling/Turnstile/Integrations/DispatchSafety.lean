import Turnstile.Integrations.DispatchProtocol

/-!
# Authorization and compensation of a dispatch

Every method of a plan keeps to the plan's protocol.  So at most one authorization
returns true, and it excludes every cancellation of an attempt of the plan.  Under a
cancelled row nothing is authorized any more, and what was compensated stays closed.

A reservation that has read the plan before it was cancelled may still be committed
afterwards; compensation then finds it and cancels it.
-/

namespace Turnstile

open Guard

section Protocol

variable {ι : Type} [DecidableEq ι] {calls : ι → DispatchCall} {plan : LedgerDispatch} {i : ι}
  {w w' : World ι RowKey LedgerDocument}

/-! ## The owner keeps to the protocol -/

/-- A call that neither authorizes nor cancels. -/
def Neutral (call : DispatchCall) : Prop := call.authorizes = false ∧ call.cancels = false

theorem meets_done {α : Type} (result : Except LedgerError α) :
    (Program.done result : LedgerProgram α).Meets (dispatchProtocol calls plan) i
      (fun _ _ => True) w :=
  fun _ _ _ => trivial

theorem meets_beginDispatch (hcall : Neutral (calls i)) :
    (beginDispatch plan).Meets (dispatchProtocol calls plan) i (fun _ _ => True) w := by
  unfold beginDispatch
  refine Program.Meets.input_bind fun now => ?_
  refine Program.Meets.lift_bind (fun _ _ => meets_done _) fun _ hguard => ?_
  obtain ⟨hprepared, -⟩ := require_eq_ok.1 hguard
  have hstored : ∀ (existing : Row LedgerDocument) (w : World ι RowKey LedgerDocument),
      (do
        let stored ← Program.lift existing.document.asDispatch
        Program.lift (require (stored = plan) (.unavailable "Dispatch creation was not confirmed"))
        pure plan : LedgerProgram LedgerDispatch).Meets (dispatchProtocol calls plan) i
        (fun _ _ => True) w := by
    intro existing w
    refine Program.Meets.lift_bind (fun _ _ => meets_done _) fun stored _ => ?_
    exact Program.Meets.lift_bind (fun _ _ => meets_done _) fun _ _ => meets_done _
  -- Whatever was heard of the batch, the plan is read back.
  have hconfirm : ∀ {reply : Option (Row LedgerDocument) → LedgerProgram LedgerDispatch}
      (outcome : Outcome) (w : World ι RowKey LedgerDocument),
      (∀ w, (reply none).Meets (dispatchProtocol calls plan) i (fun _ _ => True) w) →
      (∀ row w, (reply (some row)).Meets (dispatchProtocol calls plan) i (fun _ _ => True) w) →
        (if outcome = .committed then pure plan
          else Program.get plan.rowKey >>= reply).Meets (dispatchProtocol calls plan) i
          (fun _ _ => True) w := by
    intro reply outcome w hnone hsome
    split
    next => exact meets_done _
    next =>
      refine Program.Meets.get_bind fun w₁ _ _ => ?_
      cases w₁.table.rows plan.rowKey with
      | none => exact hnone w₁
      | some existing => exact hsome existing w₁
  refine Program.Meets.send_bind fun w₁ _ hinv => ?_
  refine ⟨fun hadmits => ⟨fun reported => ?_, hconfirm _ _ (fun _ => meets_done _) hstored,
    hconfirm _ _ (fun _ => meets_done _) hstored⟩,
    fun _ => hconfirm _ _ (fun _ => meets_done _) hstored,
    hconfirm _ _ (fun _ => meets_done _) hstored⟩
  simp only [planBatch, Table.admits_cons, Table.admits_nil, and_true, Table.etag?_eq_none]
    at hadmits
  have habsent : ∀ state, ¬InState plan state w₁.table := by
    rintro state ⟨_, _, hrow, -⟩
    rw [hadmits] at hrow
    cases hrow
  refine allows_plan none hinv ⟨rfl, rfl, rfl⟩ hprepared (fun _ => rfl)
    (fun state _ h => absurd h (habsent state)) ?_ (fun _ => habsent _) ?_ reported
  · simp [hprepared, habsent, hcall.1]
  · simp [hprepared, habsent, hcall.2]

/-- A new attempt is reserved. -/
theorem reserveLedger_state {summary summary' : LedgerSummary} {attempt' : LedgerAttempt}
    {identity : LedgerAttemptIdentity} {reservedTokens now : Int} {reservedUsd : Option ℚ}
    {priceSnapshot : Option BudgetPriceProjection} {countAssurance : CountAssurance}
    (h : reserveLedger summary identity reservedTokens now reservedUsd priceSnapshot
      countAssurance = .ok (summary', attempt')) : attempt'.state = .reserved := by
  cases (reserveLedger_result h).2 with
  | tokens _ _ _ _ _ ha => rw [ha]
  | usd _ _ _ _ _ _ _ _ _ _ _ ha => rw [ha]

theorem meets_reserve (hcall : Neutral (calls i)) (r : Reservation) (attempts : ℕ) :
    (reserve r attempts).Meets (dispatchProtocol calls plan) i (fun _ _ => True) w := by
  refine Program.Meets.rounds (fun w (_ : True) => meets_done _) (fun retry hretry w _ => ?_) _ w
    trivial
  have hagain := fun w => hretry w trivial
  unfold reserveRound
  refine Program.Meets.get_bind fun w₁ _ _ => ?_
  cases w₁.table.rows (summaryKey r.identity.scope) with
  | none => exact meets_done _
  | some current =>
  refine Program.Meets.lift_bind (fun _ _ => meets_done _) fun state _ => ?_
  refine Program.Meets.lift_bind (fun _ _ => meets_done _) fun _ _ => ?_
  refine Program.Meets.get_bind fun w₂ _ _ => ?_
  cases w₂.table.rows r.identity.rowKey with
  | some previous =>
      refine Program.Meets.lift_bind (fun _ _ => meets_done _) fun receipt _ => ?_
      exact Program.Meets.lift_bind (fun _ _ => meets_done _) fun _ _ => meets_done _
  | none =>
      refine Program.Meets.input_bind fun now => ?_
      refine Program.Meets.lift_bind (fun _ _ => meets_done _) fun ⟨updated, receipt⟩ hresult => ?_
      refine Program.Meets.send_bind fun w₃ _ hinv => ?_
      refine ⟨fun hadmits => ⟨fun reported => ?_, meets_done _, hagain _⟩, fun _ => hagain _,
        hagain _⟩
      simp only [pairBatch, Table.admits_cons, Table.admits_nil, and_true] at hadmits
      have habsent := Table.etag?_eq_none.1 hadmits.2
      have hreserved := reserveLedger_state hresult
      refine allows_pair_of_plan _ _ hinv hcall.1 hcall.2 (fun h => ?_) (fun _ _ h => ?_) reported
      · rw [hreserved] at h
        cases h
      · rw [habsent] at h
        cases h

theorem meets_reserveReceipts (hcall : Neutral (calls i)) :
    ∀ (rest : List LedgerAdmissionReceipt) (w : World ι RowKey LedgerDocument),
      DispatchInv calls plan w →
      (reserveReceipts plan rest).Meets (dispatchProtocol calls plan) i (fun _ _ => True) w
  | [], _, _ => meets_done _
  | admission :: rest, w, _ => by
      unfold reserveReceipts
      refine Program.Meets.get_bind fun w₁ _ hinv₁ => ?_
      cases w₁.table.rows plan.rowKey with
      | none => exact meets_done _
      | some current =>
          refine Program.Meets.lift_bind (fun _ _ => meets_done _) fun stored _ => ?_
          refine Program.Meets.lift_bind (fun _ _ => meets_done _) fun _ _ => ?_
          refine Program.Meets.input_bind fun now => ?_
          refine Program.Meets.lift_bind (fun _ _ => meets_done _) fun _ _ => ?_
          refine Program.Meets.bind hinv₁
            ((meets_reserve hcall _ _).mono fun result w₂ hinv₂ _ => ?_)
          cases result with
          | error e => trivial
          | ok result =>
              refine Program.Meets.lift_bind (fun _ _ => meets_done _) fun _ _ => ?_
              exact meets_reserveReceipts hcall rest w₂ hinv₂

theorem meets_checkReserved :
    ∀ (rest : List LedgerAdmissionReceipt) (w : World ι RowKey LedgerDocument),
      (checkReserved rest).Meets (dispatchProtocol calls plan) i
        (fun _ w' => (dispatchProtocol calls plan).rely i w w') w
  | [], _ => fun _ hrely _ => hrely
  | admission :: rest, w => by
      unfold checkReserved
      refine Program.Meets.get_bind fun w₁ hrely₁ _ => ?_
      have hraise : ∀ e, (Program.raise e : LedgerProgram Unit).Meets
          (dispatchProtocol calls plan) i (fun _ w' => (dispatchProtocol calls plan).rely i w w')
          w₁ := fun _ w₂ hrely₂ _ => hrely₁.trans hrely₂
      cases w₁.table.rows admission.identity.rowKey with
      | none => exact hraise _
      | some stored =>
          refine Program.Meets.lift_bind (fun e _ => hraise e) fun attempt _ => ?_
          refine Program.Meets.lift_bind (fun e _ => hraise e) fun _ _ => ?_
          exact (meets_checkReserved rest w₁).mono fun _ _ _ hrely₂ => hrely₁.trans hrely₂

/-- An authorization that returns true has committed. -/
theorem meets_authorizeDispatch (hcall : (calls i).authorizes = true)
    (hcancels : (calls i).cancels = false) :
    (authorizeDispatch plan).Meets (dispatchProtocol calls plan) i
      (fun result w' => result = .ok true → w'.own i ≠ []) w := by
  have hraise : ∀ (e : LedgerError) (w : World ι RowKey LedgerDocument),
      (Program.raise e : LedgerProgram Bool).Meets (dispatchProtocol calls plan) i
        (fun result w' => result = .ok true → w'.own i ≠ []) w := by
    rintro e w w' - - ⟨⟩
  unfold authorizeDispatch
  refine Program.Meets.get_bind fun w₁ _ hinv₁ => ?_
  cases hcurrent : w₁.table.rows plan.rowKey with
  | none => exact hraise _ _
  | some current =>
  refine Program.Meets.lift_bind (fun e _ => hraise e _) fun stored hstored => ?_
  refine Program.Meets.lift_bind (fun e _ => hraise e _) fun _ hguard => ?_
  rw [LedgerDocument.asDispatch_eq_ok, require_eq_ok.1 hguard] at hstored
  refine Program.Meets.input_bind fun now => ?_
  refine Program.Meets.lift_bind (fun e _ => hraise e _) fun _ _ => ?_
  refine Program.Meets.bind hinv₁ ((meets_checkReserved _ w₁).mono fun result w₂ hinv₂ hrely₂ => ?_)
  cases result with
  | error e => rintro ⟨⟩
  | ok _ =>
  refine Program.Meets.input_bind fun later => ?_
  refine Program.Meets.lift_bind (fun e _ => hraise e _) fun authorized hauthorized => ?_
  refine Program.Meets.lift_bind (fun e _ => hraise e _) fun _ _ => ?_
  rw [LedgerDispatch.modelValidate_eq_ok] at hauthorized
  have hfalse : ∀ (outcome : Outcome) (w : World ι RowKey LedgerDocument), outcome ≠ .committed →
      (pure (decide (outcome = .committed)) : LedgerProgram Bool).Meets
        (dispatchProtocol calls plan) i (fun result w' => result = .ok true → w'.own i ≠ []) w := by
    intro outcome w hne w' _ _ hok
    rw [decide_eq_false hne] at hok
    cases hok
  refine Program.Meets.send_bind fun w₃ hrely₃ hinv₃ => ?_
  refine ⟨fun hadmits => ⟨fun reported => ?_, ?_, hfalse _ _ (by decide)⟩,
    fun _ => hfalse _ _ (by decide), hfalse _ _ (by decide)⟩
  · -- The tag still matches, so the row is the plan as it was prepared.
    simp only [planBatch, Table.admits_cons, Table.admits_nil, and_true] at hadmits
    have hrow := (hrely₂.trans hrely₃).evolves.row_of_etag hinv₁.tagged hcurrent hadmits
    obtain ⟨_, _, -, hprepared, -⟩ := hinv₃.stored _ hrow
    have hin : InState plan .preparing w₃.table :=
      ⟨plan, current.etag, by rw [hrow, ← hstored], hprepared⟩
    have hnot : ∀ state, state ≠ .preparing → ¬InState plan state w₃.table :=
      fun state hstate h => hstate (h.unique hin)
    have hstate : authorized.state = .dispatching := by rw [hauthorized]
    refine allows_plan _ hinv₃ ?_ hprepared (fun h => ?_) (fun state hne h => ?_) ?_
      (fun _ => hnot _ (by decide)) ?_ reported
    · rw [LedgerDispatch.SameAs, hauthorized]
      exact ⟨rfl, rfl, rfl⟩
    · rw [hstate] at h
      cases h
    · exact absurd h (hnot state hne)
    · simp [hstate, hcall]
    · simp [hstate, hcancels, hnot]
  · intro w₄ hrely₄ _ _
    rw [hrely₄.own]
    simp [World.own, List.filter_append]

/-- `cancel_dispatch`. -/
theorem meets_cancelDispatch {copy : LedgerDispatch} (hcopy : copy.SameAs plan)
    (hcall : (calls i).cancels = true) (hauthorizes : (calls i).authorizes = false)
    (recovery : Bool) :
    (cancelDispatch copy recovery).Meets (dispatchProtocol calls plan) i (fun _ _ => True) w := by
  refine Program.Meets.rounds (fun w (_ : True) => meets_done _) (fun retry hretry w _ => ?_) _ w
    trivial
  have hagain := fun w => hretry w trivial
  unfold cancelRound
  rw [hcopy.rowKey]
  refine Program.Meets.get_bind fun w₁ _ hinv₁ => ?_
  cases hcurrent : w₁.table.rows plan.rowKey with
  | none => exact meets_done _
  | some current =>
  refine Program.Meets.lift_bind (fun _ _ => meets_done _) fun stored hstored => ?_
  refine Program.Meets.lift_bind (fun _ _ => meets_done _) fun _ hguard => ?_
  rw [LedgerDocument.asDispatch_eq_ok] at hstored
  have hsame : stored.SameAs plan := (require_eq_ok.1 hguard).trans hcopy
  cases hstate : stored.state with
  | dispatching => exact meets_done _
  | cancelled => exact meets_done _
  | preparing =>
  have hcancel : (cancelStored copy stored current.etag retry).Meets (dispatchProtocol calls plan)
      i (fun _ _ => True) w₁ := by
    unfold cancelStored
    refine Program.Meets.input_bind fun later => ?_
    refine Program.Meets.lift_bind (fun _ _ => meets_done _) fun cancelled hcancelled => ?_
    rw [LedgerDispatch.modelValidate_eq_ok] at hcancelled
    refine Program.Meets.send_bind fun w₂ hrely₂ hinv₂ => ?_
    refine ⟨fun hadmits => ⟨fun reported => ?_, meets_done _, hagain _⟩, fun _ => hagain _,
      hagain _⟩
    rw [planBatch, hcopy.rowKey] at hadmits ⊢
    simp only [Table.admits_cons, Table.admits_nil, and_true] at hadmits
    have hrow := hrely₂.evolves.row_of_etag hinv₁.tagged hcurrent hadmits
    obtain ⟨_, _, -, hprepared, -⟩ := hinv₂.stored _ hrow
    have hin : InState plan .preparing w₂.table :=
      ⟨stored, current.etag, by rw [hrow, ← hstored], hstate⟩
    have hnot : ∀ state, state ≠ .preparing → ¬InState plan state w₂.table :=
      fun state hne h => hne (h.unique hin)
    have hstate' : cancelled.state = .cancelled := by rw [hcancelled]
    refine allows_plan _ hinv₂ ?_ hprepared (fun h => ?_) (fun state hne h => ?_) ?_
      (fun _ => hnot _ (by decide)) ?_ reported
    · rw [LedgerDispatch.SameAs, hcancelled]
      exact hsame
    · rw [hstate'] at h
      cases h
    · exact absurd h (hnot state hne)
    · simp [hstate', hauthorizes, hnot]
    · simp [hstate', hcall]
  dsimp only
  split
  next =>
    refine Program.Meets.input_bind fun now => ?_
    split
    next => exact meets_done _
    next => exact hcancel
  next => exact hcancel

/-- `finish_dispatch_recovery`. -/
theorem meets_finishDispatchRecovery {copy : LedgerDispatch} (hcopy : copy.SameAs plan)
    (hcall : Neutral (calls i)) :
    (finishDispatchRecovery copy).Meets (dispatchProtocol calls plan) i (fun _ _ => True) w := by
  unfold finishDispatchRecovery
  rw [hcopy.rowKey]
  refine Program.Meets.get_bind fun w₁ _ hinv₁ => ?_
  cases hcurrent : w₁.table.rows plan.rowKey with
  | none => exact meets_done _
  | some current =>
  refine Program.Meets.lift_bind (fun _ _ => meets_done _) fun stored hstored => ?_
  refine Program.Meets.lift_bind (fun _ _ => meets_done _) fun _ hguard => ?_
  refine Program.Meets.lift_bind (fun _ _ => meets_done _) fun _ hdecided => ?_
  rw [LedgerDocument.asDispatch_eq_ok] at hstored
  have hsame : stored.SameAs plan := (require_eq_ok.1 hguard).trans hcopy
  have hne : stored.state ≠ .preparing := require_eq_ok.1 hdecided
  dsimp only
  split
  next => exact meets_done _
  next =>
    refine Program.Meets.input_bind fun now => ?_
    refine Program.Meets.lift_bind (fun _ _ => meets_done _) fun updated hupdated => ?_
    rw [LedgerDispatch.modelValidate_eq_ok] at hupdated
    refine Program.Meets.send_bind fun w₂ hrely₂ hinv₂ => ?_
    refine ⟨fun hadmits => ⟨fun reported => ?_, meets_done _, meets_done _⟩, fun _ => meets_done _,
      meets_done _⟩
    rw [planBatch, hcopy.rowKey] at hadmits ⊢
    simp only [Table.admits_cons, Table.admits_nil, and_true] at hadmits
    have hrow := hrely₂.evolves.row_of_etag hinv₁.tagged hcurrent hadmits
    obtain ⟨_, _, -, hprepared, -⟩ := hinv₂.stored _ hrow
    have hin : InState plan stored.state w₂.table :=
      ⟨stored, current.etag, by rw [hrow, ← hstored], rfl⟩
    have hstate : updated.state = stored.state := by rw [hupdated]
    have hiff : ∀ state, stored.state = state ↔ InState plan state w₂.table :=
      fun state => ⟨fun h => h ▸ hin, fun h => hin.unique h⟩
    refine allows_plan _ hinv₂ ?_ hprepared (fun h => ?_) (fun state _ h => ?_) ?_ (fun h => ?_) ?_
      reported
    · rw [LedgerDispatch.SameAs, hupdated]
      exact hsame
    · exact absurd (hstate.symm.trans h) hne
    · exact hstate.trans ((hiff state).2 h)
    · rw [hstate, hiff, hcall.1]
      simp
    · rw [hcall.1] at h
      cases h
    · rw [hstate, hiff, hcall.2]
      simp

/-! ## Compensation -/

/-- The plan is cancelled, and the attempts of the receipts in `handled` are closed. -/
structure Compensating (plan : LedgerDispatch) (handled : List LedgerAdmissionReceipt)
    (w : World ι RowKey LedgerDocument) : Prop where
  cancelled : InState plan .cancelled w.table
  receipts : ∀ admission ∈ handled, admission ∈ plan.receipts
  closed : ∀ admission ∈ handled, ClosedAt admission w.table

variable {handled : List LedgerAdmissionReceipt} {admission : LedgerAdmissionReceipt}

theorem Compensating.rely (h : Compensating plan handled w) (hrely : DispatchRely plan i w w') :
    Compensating plan handled w' where
  cancelled := hrely.decided _ (by decide) h.cancelled
  receipts := h.receipts
  closed admission hmem :=
    hrely.closed admission (h.receipts admission hmem) (h.closed admission hmem)

omit [DecidableEq ι] in
/-- A closed attempt is written. -/
theorem Compensating.commit (h : Compensating plan handled w) {identity : LedgerAttemptIdentity}
    {summary' : LedgerSummary} {attempt' : LedgerAttempt} (e : ℕ) (e' : Option ℕ)
    (hclosed : attempt'.state.Closed) (reported : Bool) : Compensating plan handled
      (w.commit ⟨i, pairBatch identity summary' attempt' e e', reported⟩) where
  cancelled := by
    obtain ⟨stored, etag, hrow, hstate⟩ := h.cancelled
    exact ⟨stored, etag, by rw [World.commit_table, pairBatch_rows_plan, hrow], hstate⟩
  receipts := h.receipts
  closed admission hmem := by
    by_cases hkey : admission.identity.rowKey = identity.rowKey
    · refine ⟨attempt', w.table.next, ?_, hclosed⟩
      rw [World.commit_table, hkey, pairBatch_rows_self]
    · obtain ⟨attempt, etag, hrow, hattempt⟩ := h.closed admission hmem
      exact ⟨attempt, etag, by rw [World.commit_table, pairBatch_rows_of_ne hkey, hrow], hattempt⟩

omit [DecidableEq ι] in
/-- One more receipt is handled. -/
theorem Compensating.cons (h : Compensating plan handled w) (hmem : admission ∈ plan.receipts)
    (hclosed : ClosedAt admission w.table) : Compensating plan (admission :: handled) w where
  cancelled := h.cancelled
  receipts := by
    intro other hother
    rcases List.mem_cons.1 hother with rfl | hother
    · exact hmem
    · exact h.receipts other hother
  closed := by
    intro other hother
    rcases List.mem_cons.1 hother with rfl | hother
    · exact hclosed
    · exact h.closed other hother

/-- What handles a receipt, if it returns. -/
def Handles {α : Type} (plan : LedgerDispatch) (handled : List LedgerAdmissionReceipt)
    (admission : LedgerAdmissionReceipt) (result : Except LedgerError α)
    (w : World ι RowKey LedgerDocument) : Prop :=
  ∀ x, result = .ok x → Compensating plan (admission :: handled) w

theorem meets_handles_raise {α : Type} (e : LedgerError) :
    (Program.raise e : LedgerProgram α).Meets (dispatchProtocol calls plan) i
      (Handles plan handled admission) w := by
  rintro w' - - x ⟨⟩

theorem meets_handles_done {α : Type} (x : α) (hmem : admission ∈ plan.receipts)
    (hw : Compensating plan handled w) (hclosed : ClosedAt admission w.table) :
    (Program.done (.ok x) : LedgerProgram α).Meets (dispatchProtocol calls plan) i
      (Handles plan handled admission) w :=
  fun _ hrely _ _ _ => (hw.cons hmem hclosed).rely hrely

/-- A cancelling transition leaves the attempt cancelled. -/
theorem transition_cancelled {summary summary' : LedgerSummary} {attempt attempt' : LedgerAttempt}
    {now : Int}
    (h : transitionLedgerAttempt summary attempt .cancelled now = .ok (summary', attempt')) :
    (summary' = summary → attempt.state = .cancelled) ∧ attempt'.state = .cancelled := by
  cases (transitionLedgerAttempt_result h).2 with
  | kept hstate => exact ⟨fun _ => hstate.symm, hstate.symm⟩
  | moved _ _ hs ha =>
      refine ⟨fun hsame => ?_, by rw [ha]; rfl⟩
      have hversion := congrArg SummaryFields.version hs
      rw [hsame] at hversion
      exact absurd hversion (by simp)

theorem meets_cancelAttempt (hcall : Neutral (calls i)) (hmem : admission ∈ plan.receipts)
    (hw : Compensating plan handled w) :
    (updateAttempt admission.identity fun current retained moment =>
      transitionLedgerAttempt current retained .cancelled moment).Meets
      (dispatchProtocol calls plan) i (Handles plan handled admission) w := by
  refine Program.Meets.rounds (fun _ _ => meets_handles_raise _) (fun retry hretry w hw => ?_) _ w
    hw
  unfold updateRound
  refine Program.Meets.get_bind fun w₁ hrely₁ hinv₁ => ?_
  refine Program.Meets.get_bind fun w₂ hrely₂ hinv₂ => ?_
  have hw₂ := (hw.rely hrely₁).rely hrely₂
  cases w₁.table.rows (summaryKey admission.identity.scope) with
  | none => exact meets_handles_raise _
  | some summaryRow =>
  cases hattempt : w₂.table.rows admission.identity.rowKey with
  | none => exact meets_handles_raise _
  | some attemptRow =>
  refine Program.Meets.lift_bind (fun e _ => meets_handles_raise e) fun state _ => ?_
  refine Program.Meets.lift_bind (fun e _ => meets_handles_raise e) fun receipt hreceipt => ?_
  refine Program.Meets.lift_bind (fun e _ => meets_handles_raise e) fun _ _ => ?_
  refine Program.Meets.input_bind fun now => ?_
  refine Program.Meets.lift_bind (fun e _ => meets_handles_raise e)
    fun ⟨updated, result⟩ hresult => ?_
  rw [LedgerDocument.asAttempt_eq_ok] at hreceipt
  obtain ⟨hkept, hcancelled⟩ := transition_cancelled hresult
  dsimp only
  split
  next hsame =>
    exact meets_handles_done _ hmem hw₂
      ⟨receipt, attemptRow.etag, by rw [hattempt, ← hreceipt], .inr (hkept hsame)⟩
  next =>
    refine Program.Meets.send_bind fun w₃ hrely₃ hinv₃ => ?_
    have hw₃ := hw₂.rely hrely₃
    refine ⟨fun hadmits => ⟨fun reported => ?_, ?_, ?_⟩, fun _ => hretry _ hw₃, hretry _ hw₃⟩
    · exact allows_pair_of_plan _ _ hinv₃ hcall.1 hcall.2 (fun _ => hw₃.cancelled)
        (fun _ _ _ _ => .inr hcancelled) reported
    · refine meets_handles_done _ hmem (hw₃.commit _ _ (.inr hcancelled) _) ?_
      exact ⟨result, _, pairBatch_rows_self _ _ _ _, .inr hcancelled⟩
    · exact hretry _ (hw₃.commit _ _ (.inr hcancelled) _)

theorem meets_compensateReceipt (hcall : Neutral (calls i)) (hmem : admission ∈ plan.receipts)
    (hw : Compensating plan handled w) :
    (compensateReceipt admission).Meets (dispatchProtocol calls plan) i
      (Handles plan handled admission) w := by
  refine Program.Meets.rounds (fun _ _ => meets_handles_raise _) (fun retry hretry w hw => ?_) _ w
    hw
  unfold compensateRound
  refine Program.Meets.get_bind fun w₁ hrely₁ hinv₁ => ?_
  refine Program.Meets.get_bind fun w₂ hrely₂ hinv₂ => ?_
  have hw₂ := (hw.rely hrely₁).rely hrely₂
  cases w₁.table.rows (summaryKey admission.identity.scope) with
  | none => exact meets_handles_raise _
  | some summaryRow =>
  refine Program.Meets.lift_bind (fun e _ => meets_handles_raise e) fun summary _ => ?_
  refine Program.Meets.lift_bind (fun e _ => meets_handles_raise e) fun _ _ => ?_
  cases hexisting : w₂.table.rows admission.identity.rowKey with
  | some attemptRow =>
      refine Program.Meets.lift_bind (fun e _ => meets_handles_raise e) fun attempt hattempt => ?_
      refine Program.Meets.lift_bind (fun e _ => meets_handles_raise e) fun _ _ => ?_
      rw [LedgerDocument.asAttempt_eq_ok] at hattempt
      split
      next hclosed =>
        exact meets_handles_done _ hmem hw₂
          ⟨attempt, attemptRow.etag, by rw [hexisting, ← hattempt], hclosed⟩
      next =>
        refine Program.Meets.bind hinv₂ ((meets_cancelAttempt hcall hmem hw₂).mono ?_)
        intro result w₃ _ hhandles
        cases result with
        | error e => rintro x ⟨⟩
        | ok x => exact fun _ hrely _ _ _ => (hhandles x rfl).rely hrely
  | none =>
      refine Program.Meets.input_bind fun now => ?_
      refine Program.Meets.lift_bind (fun e _ => meets_handles_raise e)
        fun closed htombstone => ?_
      obtain ⟨advanced, tombstone⟩ := closed
      have hcancelled : tombstone.state = .cancelled := by
        rw [(cancellationTombstone_result htombstone).2]
      refine Program.Meets.send_bind fun w₃ hrely₃ hinv₃ => ?_
      have hw₃ := hw₂.rely hrely₃
      refine ⟨fun hadmits => ⟨fun reported => ?_, ?_, ?_⟩, fun _ => hretry _ hw₃, hretry _ hw₃⟩
      · exact allows_pair_of_plan _ _ hinv₃ hcall.1 hcall.2 (fun _ => hw₃.cancelled)
          (fun _ _ _ _ => .inr hcancelled) reported
      · refine meets_handles_done _ hmem (hw₃.commit _ _ (.inr hcancelled) _) ?_
        exact ⟨tombstone, _, pairBatch_rows_self _ _ _ _, .inr hcancelled⟩
      · exact hretry _ (hw₃.commit _ _ (.inr hcancelled) _)

/-- Every attempt of the plan is closed, if the compensation returned. -/
def Compensated (plan : LedgerDispatch) (result : Except LedgerError ℕ)
    (w : World ι RowKey LedgerDocument) : Prop :=
  ∀ n, result = .ok n → ∀ admission ∈ plan.receipts, ClosedAt admission w.table

theorem meets_compensateReceipts (hcall : Neutral (calls i)) :
    ∀ (rest handled : List LedgerAdmissionReceipt) (released : ℕ)
      (w : World ι RowKey LedgerDocument), DispatchInv calls plan w →
      Compensating plan handled w → (∀ admission ∈ rest, admission ∈ plan.receipts) →
      (∀ admission ∈ plan.receipts, admission ∈ rest ∨ admission ∈ handled) →
      (compensateReceipts rest released).Meets (dispatchProtocol calls plan) i
        (Compensated plan) w
  | [], handled, released, w, _, hw, _, hall => by
      intro w' hrely _ _ _ admission hmem
      refine (hw.rely hrely).closed admission ((hall admission hmem).resolve_left ?_)
      exact List.not_mem_nil
  | admission :: rest, handled, released, w, hinv, hw, hrest, hall => by
      unfold compensateReceipts
      have hmem := hrest admission (List.mem_cons_self ..)
      refine Program.Meets.bind hinv ((meets_compensateReceipt hcall hmem hw).mono ?_)
      intro result w₁ hinv₁ hhandles
      cases result with
      | error e => rintro n ⟨⟩
      | ok n =>
          refine meets_compensateReceipts hcall rest (admission :: handled) _ w₁ hinv₁
            (hhandles n rfl) (fun other hother => hrest other (List.mem_cons_of_mem _ hother))
            fun other hother => ?_
          rcases hall other hother with h | h
          · rcases List.mem_cons.1 h with rfl | h
            · exact .inr (List.mem_cons_self ..)
            · exact .inl h
          · exact .inr (List.mem_cons_of_mem _ h)

/-- `compensate_dispatch`. -/
theorem meets_compensateDispatch {copy : LedgerDispatch} (hcopy : copy.SameAs plan)
    (hcall : Neutral (calls i)) :
    (compensateDispatch copy).Meets (dispatchProtocol calls plan) i (Compensated plan) w := by
  have hraise : ∀ (e : LedgerError) (w : World ι RowKey LedgerDocument),
      (Program.raise e : LedgerProgram ℕ).Meets (dispatchProtocol calls plan) i
        (Compensated plan) w := by
    rintro e w w' - - n ⟨⟩
  unfold compensateDispatch
  rw [hcopy.rowKey]
  refine Program.Meets.get_bind fun w₁ _ hinv₁ => ?_
  cases hcurrent : w₁.table.rows plan.rowKey with
  | none => exact hraise _ _
  | some current =>
  refine Program.Meets.lift_bind (fun e _ => hraise e _) fun stored hstored => ?_
  refine Program.Meets.lift_bind (fun e _ => hraise e _) fun _ hguard => ?_
  rw [LedgerDocument.asDispatch_eq_ok] at hstored
  obtain ⟨hstate, hsame⟩ := require_eq_ok.1 hguard
  have hin : InState plan .cancelled w₁.table :=
    ⟨stored, current.etag, by rw [hcurrent, ← hstored], hstate⟩
  have hreceipts := (hsame.trans hcopy).receipts
  refine meets_compensateReceipts hcall _ [] 0 w₁ hinv₁
    ⟨hin, fun _ h => absurd h List.not_mem_nil, fun _ h => absurd h List.not_mem_nil⟩ ?_ ?_
  · exact fun admission hmem => hreceipts ▸ hmem
  · exact fun admission hmem => .inl (hreceipts ▸ hmem)

/-! ## The clients of a plan -/

/-- What a call's result says from the time it returns. -/
structure Dispatched (calls : ι → DispatchCall) (plan : LedgerDispatch) (i : ι)
    (result : Except LedgerError DispatchReply) (w : World ι RowKey LedgerDocument) : Prop where
  authorized : result = .ok (.authorized true) → ∃ c ∈ authorizations calls w, c.client = i
  compensated : ∀ released, result = .ok (.compensated released) →
    ∀ admission ∈ plan.receipts, ClosedAt admission w.table

/-- The clients before any has started, over the table `t₀`. -/
def dispatchers (calls : ι → DispatchCall) (plan : LedgerDispatch)
    (t₀ : Table RowKey LedgerDocument) :
    System ι RowKey LedgerDocument Int LedgerError DispatchReply where
  world := ⟨t₀, []⟩
  threads i := (calls i).program plan

/-- A call whose result says nothing. -/
theorem meets_plain {α : Type} {p : LedgerProgram α} {reply : α → DispatchReply}
    (hauthorized : ∀ x, reply x ≠ .authorized true)
    (hcompensated : ∀ x released, reply x ≠ .compensated released)
    (hinv : DispatchInv calls plan w)
    (h : p.Meets (dispatchProtocol calls plan) i (fun _ _ => True) w) :
    (p >>= fun x => (pure (reply x) : LedgerProgram DispatchReply)).Meets
      (dispatchProtocol calls plan) i (Dispatched calls plan i) w := by
  refine Program.Meets.bind hinv (h.mono fun result w' _ _ => ?_)
  cases result with
  | ok x =>
      refine fun w'' _ _ => ⟨fun h => ?_, fun released h => ?_⟩
      · exact absurd (Except.ok.inj h) (hauthorized x)
      · exact absurd (Except.ok.inj h) (hcompensated x released)
  | error e => exact ⟨fun h => (nomatch h), fun _ h => (nomatch h)⟩

/-- Every call keeps to the protocol. -/
theorem meets_dispatchCall (habout : (calls i).About plan) (hinv : DispatchInv calls plan w) :
    ((calls i).program plan).Meets (dispatchProtocol calls plan) i (Dispatched calls plan i) w := by
  cases hcall : calls i with
  | beginDispatch =>
      have hneutral : Neutral (calls i) := by rw [hcall]; exact ⟨rfl, rfl⟩
      exact meets_plain (by simp) (by simp) hinv (meets_beginDispatch hneutral)
  | reserveDispatch =>
      have hneutral : Neutral (calls i) := by rw [hcall]; exact ⟨rfl, rfl⟩
      exact meets_plain (by simp) (by simp) hinv (meets_reserveReceipts hneutral _ _ hinv)
  | authorizeDispatch =>
      have hauthorizes : (calls i).authorizes = true := by rw [hcall]; rfl
      have hcancels : (calls i).cancels = false := by rw [hcall]; rfl
      refine Program.Meets.bind hinv
        ((meets_authorizeDispatch hauthorizes hcancels).mono fun result w' _ hown => ?_)
      cases result with
      | ok success =>
          refine fun w'' hrely _ => ⟨fun h => ?_, fun released h => (nomatch h)⟩
          cases h
          have hne : w''.own i ≠ [] := by
            rw [hrely.own]
            exact hown rfl
          obtain ⟨c, hc⟩ := List.exists_mem_of_ne_nil _ hne
          obtain ⟨hlog, hclient⟩ := World.mem_own.1 hc
          refine ⟨c, List.mem_filter.2 ⟨hlog, ?_⟩, hclient⟩
          rw [hclient, hauthorizes]
      | error e => exact ⟨fun h => (nomatch h), fun _ h => (nomatch h)⟩
  | cancelDispatch stored recovery =>
      rw [hcall] at habout
      exact meets_plain (by simp) (by simp) hinv
        (meets_cancelDispatch habout (by rw [hcall]; rfl) (by rw [hcall]; rfl) recovery)
  | compensateDispatch stored =>
      have hneutral : Neutral (calls i) := by rw [hcall]; exact ⟨rfl, rfl⟩
      rw [hcall] at habout
      refine Program.Meets.bind hinv
        ((meets_compensateDispatch habout hneutral).mono fun result w' _ hcompensated => ?_)
      cases result with
      | ok n =>
          refine fun w'' hrely _ => ⟨fun h => (nomatch h), fun released _ admission hmem => ?_⟩
          exact hrely.closed admission hmem (hcompensated n rfl admission hmem)
      | error e => exact ⟨fun h => (nomatch h), fun _ h => (nomatch h)⟩
  | finishDispatchRecovery stored =>
      have hneutral : Neutral (calls i) := by rw [hcall]; exact ⟨rfl, rfl⟩
      rw [hcall] at habout
      exact meets_plain (by simp) (by simp) hinv (meets_finishDispatchRecovery habout hneutral)

/-- The attempt of a receipt is reserved. -/
def ReservedAt (admission : LedgerAdmissionReceipt) (t : Table RowKey LedgerDocument) : Prop :=
  ∃ attempt etag, t.rows admission.identity.rowKey = some ⟨.attempt attempt, etag⟩ ∧
    attempt.state = .reserved

omit [DecidableEq ι] in
/-- A closed attempt is not reserved, and holds no active reservation. -/
theorem ClosedAt.inactive {t : Table RowKey LedgerDocument} (h : ClosedAt admission t) :
    ¬ReservedAt admission t ∧ ∃ attempt etag,
      t.rows admission.identity.rowKey = some ⟨.attempt attempt, etag⟩ ∧
        (attempt.state = .settled ∨ attempt.state = .cancelled) ∧
        attempt.state.active = false := by
  obtain ⟨attempt, etag, hrow, hclosed⟩ := h
  refine ⟨?_, attempt, etag, hrow, hclosed, ?_⟩
  · rintro ⟨attempt', etag', hrow', hreserved⟩
    rw [hrow] at hrow'
    cases hrow'
    rcases hclosed with h | h <;> rw [h] at hreserved <;> cases hreserved
  · rcases hclosed with h | h <;> rw [h] <;> rfl

/-- A reservation that still has to read the cancelled plan ends in an error, and
commits nothing. -/
theorem reserveReceipts_fenced {s s' : System ι RowKey LedgerDocument Int LedgerError DispatchReply}
    (hsound : System.Sound (dispatchProtocol calls plan) (Dispatched calls plan) s)
    (hreach : System.Reaches (Surrounds plan) s s')
    (hcancelled : InState plan .cancelled s.world.table) {rest : List LedgerAdmissionReceipt}
    (hthread : s.threads i = do
      reserveReceipts plan (admission :: rest)
      pure .done) :
    s'.world.own i = s.world.own i ∧
      ∀ result, s'.threads i = .done result → ∃ e, result = .error e := by
  let fenced : World ι RowKey LedgerDocument → LedgerProgram DispatchReply → Prop := fun w p =>
    InState plan .cancelled w.table ∧ w.own i = s.world.own i ∧
      (p = (do
          reserveReceipts plan (admission :: rest)
          pure .done) ∨
        ∃ e, p = .done (.error e))
  have hfenced : fenced s'.world (s'.threads i) := by
    refine hsound.client dispatchProtocol_tolerates hreach ⟨hcancelled, rfl, .inl hthread⟩ ?_ ?_
    · rintro w w' p - hrely ⟨hin, hown, hp⟩
      exact ⟨hrely.decided _ (by decide) hin, hrely.own.trans hown, hp⟩
    · rintro w w' p p' l hinv ⟨hin, hown, rfl | ⟨e, rfl⟩⟩ hnext
      · cases l with
        | read =>
            obtain ⟨stored, etag, hrow, hstate⟩ := hin
            obtain ⟨stored', hstored, -, hprepared, -⟩ := hinv.stored _ hrow
            cases hstored
            have hne : stored ≠ plan := by
              rintro rfl
              rw [hprepared] at hstate
              cases hstate
            have hraise := require_of_not hne
              (e := LedgerError.protocolConflict "Dispatch preparation was cancelled or fenced")
            simp only [reserveReceipts, Program.get_bind] at hnext
            cases hnext
            refine ⟨⟨stored, etag, hrow, hstate⟩, hown,
              .inr ⟨.protocolConflict "Dispatch preparation was cancelled or fenced", ?_⟩⟩
            simp only [hrow, LedgerDocument.asDispatch, Program.lift_ok_bind, hraise,
              Program.lift_error_bind]
            rfl
        | reported => cases hnext
        | lost => cases hnext
        | dropped => cases hnext
        | ask x => cases hnext
      · cases l <;> cases hnext
  refine ⟨hfenced.2.1, fun result hdone => ?_⟩
  rcases hfenced.2.2 with hp | ⟨e, hp⟩
  · rw [hp] at hdone
    cases hdone
  · rw [hdone] at hp
    cases hp
    exact ⟨e, rfl⟩

/-- What holds of a reached state of the clients of a plan, and from then on. -/
structure DispatchSafe (calls : ι → DispatchCall) (plan : LedgerDispatch)
    (s : System ι RowKey LedgerDocument Int LedgerError DispatchReply) : Prop where
  /-- At most one authorization returns true. -/
  once : ∀ i j, s.threads i = .done (.ok (.authorized true)) →
    s.threads j = .done (.ok (.authorized true)) → i = j
  /-- An authorized plan has no cancelled attempt, and nobody ever wrote one. -/
  kept : ∀ s', System.Reaches (Surrounds plan) s s' → authorizations calls s'.world ≠ [] →
    ∀ admission ∈ plan.receipts, (∀ c ∈ s'.world.log, ¬CancelsAttempt admission c) ∧
      ∀ attempt etag, s.world.table.rows admission.identity.rowKey
        = some ⟨.attempt attempt, etag⟩ ∨ s'.world.table.rows admission.identity.rowKey
        = some ⟨.attempt attempt, etag⟩ → attempt.state ≠ .cancelled
  /-- A cancelled plan is not authorized any more. -/
  unauthorized : InState plan .cancelled s.world.table →
    ∀ s', System.Reaches (Surrounds plan) s s' →
      ∀ i, s'.threads i ≠ .done (.ok (.authorized true))
  /-- Nor does a reservation that has yet to read the plan commit anything. -/
  fenced : InState plan .cancelled s.world.table → ∀ i admission rest,
    (s.threads i = do
      reserveReceipts plan (admission :: rest)
      pure .done) →
    ∀ s', System.Reaches (Surrounds plan) s s' → s'.world.own i = s.world.own i ∧
      ∀ result, s'.threads i = .done result → ∃ e, result = .error e
  /-- An attempt that was cancelled, as a tombstone or not, is never reserved again. -/
  tombstones : ∀ c ∈ s.world.log, ∀ admission ∈ plan.receipts, CancelsAttempt admission c →
    ∀ s', System.Reaches (Surrounds plan) s s' → ¬ReservedAt admission s'.world.table
  /-- After a compensation the attempts exist and hold no active reservation. -/
  compensated : ∀ i released, s.threads i = .done (.ok (.compensated released)) →
    ∀ s', System.Reaches (Surrounds plan) s s' → ∀ admission ∈ plan.receipts,
      ¬ReservedAt admission s'.world.table ∧ ∃ attempt etag,
        s'.world.table.rows admission.identity.rowKey = some ⟨.attempt attempt, etag⟩ ∧
        (attempt.state = .settled ∨ attempt.state = .cancelled) ∧ attempt.state.active = false

/-- The protocol is safe. -/
theorem dispatchSafe_of_sound {s : System ι RowKey LedgerDocument Int LedgerError DispatchReply}
    (hsound : System.Sound (dispatchProtocol calls plan) (Dispatched calls plan) s) :
    DispatchSafe calls plan s := by
  have hinv : ∀ s', System.Reaches (Surrounds plan) s s' → DispatchInv calls plan s'.world :=
    fun s' hreach => (hsound.reaches dispatchProtocol_tolerates hreach).inv
  have hlog : ∀ s', System.Reaches (Surrounds plan) s s' → s.world.log <+: s'.world.log :=
    fun s' hreach => hreach.log_prefix fun w w' h => by rw [h.log]
  have hstays : ∀ s', System.Reaches (Surrounds plan) s s' →
      InState plan .cancelled s.world.table → authorizations calls s'.world = [] := by
    intro s' hreach hcancelled
    obtain ⟨c, hc, hcancels⟩ := hsound.inv.cancelled.1 hcancelled
    refine (hinv s' hreach).not_both ((hinv s' hreach).cancelled.2 ⟨c, ?_, hcancels⟩)
    exact (hlog s' hreach).subset hc
  refine ⟨fun i j hi hj => ?_, fun s' hreach hauthorized admission hmem => ?_,
    fun hcancelled s' hreach i hi => ?_,
    fun hcancelled i admission rest hthread s' hreach =>
      reserveReceipts_fenced hsound hreach hcancelled hthread,
    fun c hc admission hmem hcancels s' hreach => ?_,
    fun i released hi s' hreach admission hmem => ?_⟩
  · obtain ⟨a, ha, rfl⟩ := (hsound.result hi).authorized rfl
    obtain ⟨b, hb, rfl⟩ := (hsound.result hj).authorized rfl
    obtain ⟨c, hc⟩ := List.length_eq_one_iff.1
      (Nat.le_antisymm hsound.inv.once (List.length_pos_of_mem ha))
    rw [hc, List.mem_singleton] at ha hb
    rw [ha, hb]
  · refine ⟨fun c hc hcancels => hauthorized ?_, fun attempt etag hrow hattempt => hauthorized ?_⟩
    · exact (hinv s' hreach).not_both ((hinv s' hreach).compensated c hc admission hmem hcancels).1
    · rcases hrow with hrow | hrow
      · obtain ⟨attempt', hdocument, hcancelled⟩ := hsound.inv.attempts admission hmem _ hrow
        cases hdocument
        exact hstays s' hreach (hcancelled hattempt)
      · obtain ⟨attempt', hdocument, hcancelled⟩ :=
          (hinv s' hreach).attempts admission hmem _ hrow
        cases hdocument
        exact (hinv s' hreach).not_both (hcancelled hattempt)
  · have hsound' := hsound.reaches dispatchProtocol_tolerates hreach
    obtain ⟨c, hc, -⟩ := (hsound'.result hi).authorized rfl
    rw [hstays s' hreach hcancelled] at hc
    exact absurd hc List.not_mem_nil
  · have hclosed := ((hinv s' hreach).compensated c ((hlog s' hreach).subset hc) admission hmem
      hcancels).2
    exact hclosed.inactive.1
  · have hsound' := hsound.reaches dispatchProtocol_tolerates hreach
    exact ((hsound'.result (hreach.done hi)).compensated released rfl admission hmem).inactive

/-- Authorization and compensation of a dispatch exclude each other.  For any plan whose
rows are absent at first, any number of calls of its owner and of recovery workers in
any interleaving, with lost responses, and any requests of others around them. -/
theorem dispatch_authorization_excludes_compensation {t₀ : Table RowKey LedgerDocument}
    {s : System ι RowKey LedgerDocument Int LedgerError DispatchReply} (htagged : t₀.WellTagged)
    (habsent : t₀.rows plan.rowKey = none)
    (hattempts : ∀ admission ∈ plan.receipts, t₀.rows admission.identity.rowKey = none)
    (habout : ∀ i, (calls i).About plan)
    (hreach : System.Reaches (Surrounds plan) (dispatchers calls plan t₀) s) :
    DispatchSafe calls plan s := by
  have hnot : ∀ state, ¬InState plan state t₀ := by
    rintro state ⟨stored, etag, hrow, -⟩
    rw [habsent] at hrow
    cases hrow
  have hinv : DispatchInv calls plan (dispatchers calls plan t₀).world := by
    refine ⟨htagged, fun row hrow => ?_, fun admission hmem row hrow => ?_, ?_, ?_, Nat.zero_le _,
      fun c hc => absurd hc List.not_mem_nil⟩
    · rw [dispatchers, habsent] at hrow
      cases hrow
    · rw [dispatchers, hattempts admission hmem] at hrow
      cases hrow
    · exact ⟨fun h => absurd h (hnot _), fun h => absurd rfl h⟩
    · exact ⟨fun h => absurd h (hnot _), fun ⟨c, hc, _⟩ => absurd hc List.not_mem_nil⟩
  have hsound : System.Sound (dispatchProtocol calls plan) (Dispatched calls plan)
      (dispatchers calls plan t₀) :=
    ⟨hinv, fun i => meets_dispatchCall (habout i) hinv⟩
  exact dispatchSafe_of_sound (hsound.reaches dispatchProtocol_tolerates hreach)

end Protocol

/-! ## A run -/

def LedgerDocument.dispatchState? : LedgerDocument → Option DispatchState
  | .dispatch plan => some plan.state
  | _ => none

def LedgerDocument.attemptState? : LedgerDocument → Option AttemptState
  | .attempt receipt => some receipt.state
  | _ => none

instance (plan : LedgerDispatch) (state : DispatchState) (t : Table RowKey LedgerDocument) :
    Decidable (InState plan state t) :=
  decidable_of_iff ((t.rows plan.rowKey).bind (fun row => row.document.dispatchState?) = some state)
    (by
      constructor
      · intro h
        obtain ⟨⟨document, etag⟩, hrow, hstate⟩ := Option.bind_eq_some_iff.1 h
        cases document with
        | dispatch stored => exact ⟨stored, etag, hrow, Option.some.inj hstate⟩
        | summary _ => cases hstate
        | attempt _ => cases hstate
      · rintro ⟨stored, etag, hrow, rfl⟩
        rw [hrow]
        rfl)

instance (admission : LedgerAdmissionReceipt) (t : Table RowKey LedgerDocument) :
    Decidable (ReservedAt admission t) :=
  decidable_of_iff ((t.rows admission.identity.rowKey).bind
      (fun row => row.document.attemptState?) = some .reserved)
    (by
      constructor
      · intro h
        obtain ⟨⟨document, etag⟩, hrow, hstate⟩ := Option.bind_eq_some_iff.1 h
        cases document with
        | attempt attempt => exact ⟨attempt, etag, hrow, Option.some.inj hstate⟩
        | summary _ => cases hstate
        | dispatch _ => cases hstate
      · rintro ⟨attempt, etag, hrow, hstate⟩
        rw [hrow, ← hstate]
        rfl)

namespace Sample

/-- A plan of one receipt, on a lease of a minute. -/
def plan : LedgerDispatch where
  owner := 9
  first := receipt
  second := none
  expiresAt := start + 60000000
  updatedAt := start
  valid := by decide +kernel

/-- The owner stores and reserves the plan; a recovery worker cancels and compensates
it. -/
def planCalls : Fin 4 → DispatchCall
  | 0 => .beginDispatch
  | 1 => .reserveDispatch
  | 2 => .cancelDispatch plan true
  | 3 => .compensateDispatch plan

/-- The reservation reads the plan and the absent attempt, then the lease runs out and
the plan is cancelled. -/
def lateCancellation : List (Fin 4 × Label Int) :=
  [(0, .ask start), (0, .reported),
    (1, .read), (1, .ask start), (1, .read), (1, .read), (1, .ask start),
    (2, .read), (2, .ask (start + 60000000)), (2, .ask (start + 60000000)), (2, .reported)]

end Sample

/-- A reservation that had read the plan before it was cancelled is committed after. -/
theorem reserved_after_cancellation : ¬∀ s s',
    System.Reaches (Surrounds Sample.plan)
      (dispatchers Sample.planCalls Sample.plan Sample.initialTable) s →
    System.Reaches (Surrounds Sample.plan) s s' → InState Sample.plan .cancelled s.world.table →
    ∀ admission ∈ Sample.plan.receipts, ReservedAt admission s'.world.table →
      ReservedAt admission s.world.table := by
  intro hclaim
  have htest : ((dispatchers Sample.planCalls Sample.plan Sample.initialTable).run?
      Sample.lateCancellation).any (fun s => decide (InState Sample.plan .cancelled s.world.table ∧
        ¬ReservedAt Sample.receipt s.world.table) &&
        (s.run? [(1, .reported)]).any
          fun s' => decide (ReservedAt Sample.receipt s'.world.table)) = true := by
    decide +kernel
  obtain ⟨s, hrun, hs⟩ := (Option.any_eq_true _ _).1 htest
  obtain ⟨hcancelled, hs'⟩ := Bool.and_eq_true_iff.1 hs
  obtain ⟨s', hrun', hreserved⟩ := (Option.any_eq_true _ _).1 hs'
  exact (of_decide_eq_true hcancelled).2 (hclaim s s' (System.reaches_of_run? hrun)
    (System.reaches_of_run? hrun') (of_decide_eq_true hcancelled).1 Sample.receipt
    (List.mem_singleton_self _) (of_decide_eq_true hreserved))

/-! ## A plan of two receipts -/

namespace Sample

/-- The application that the person's attempt is also charged to. -/
def applicationScope : LedgerScope :=
  ⟨.application, .uuid 8 0, ⟨2026, 9, 1⟩, by decide⟩

def applicationIdentity : LedgerAttemptIdentity :=
  { identity 1 with scope := applicationScope, valid := (identity 1).valid }

def applicationSummary : LedgerSummary where
  toSummaryFields := { tokenSummary.toSummaryFields with scope := applicationScope }
  valid := rfl

def applicationReceipt : LedgerAdmissionReceipt where
  toReceiptFields := { receipt.toReceiptFields with identity := applicationIdentity }
  valid := by decide +kernel

def pairPlan : LedgerDispatch where
  toDispatchFields := { plan.toDispatchFields with second := some applicationReceipt }
  valid := by decide +kernel

/-- The summaries of both scopes. -/
def pairTable : Table RowKey LedgerDocument where
  rows key :=
    if key = summaryKey scope then some ⟨.summary tokenSummary, 0⟩
    else if key = summaryKey applicationScope then some ⟨.summary applicationSummary, 1⟩
    else none
  next := 2

theorem pairTable_wellTagged : pairTable.WellTagged := by
  intro key row hrow
  simp only [pairTable] at hrow ⊢
  split at hrow
  next =>
    cases hrow
    exact Nat.zero_lt_two
  next =>
    split at hrow
    next =>
      cases hrow
      exact Nat.one_lt_two
    next => cases hrow

/-- The owner stores, reserves and authorizes the plan; a recovery worker cancels and
compensates it. -/
def pairCalls : Fin 5 → DispatchCall
  | 0 => .beginDispatch
  | 1 => .reserveDispatch
  | 2 => .authorizeDispatch
  | 3 => .cancelDispatch pairPlan true
  | 4 => .compensateDispatch pairPlan

theorem pairCalls_about : ∀ i, (pairCalls i).About pairPlan
  | 0 => trivial
  | 1 => trivial
  | 2 => trivial
  | 3 => ⟨rfl, rfl, rfl⟩
  | 4 => ⟨rfl, rfl, rfl⟩

/-- The plan is stored, and its first receipt is reserved. -/
def firstReserved : List (Fin 5 × Label Int) :=
  [(0, .ask start), (0, .reported),
    (1, .read), (1, .ask start), (1, .read), (1, .read), (1, .ask start), (1, .reported)]

/-- The second receipt is reserved too, and the plan is authorized.  The recovery worker comes
when the lease has run out. -/
def authorizedPair : List (Fin 5 × Label Int) :=
  firstReserved ++
    [(1, .read), (1, .ask start), (1, .read), (1, .read), (1, .ask start), (1, .reported),
      (2, .read), (2, .ask start), (2, .read), (2, .read), (2, .ask start), (2, .reported),
      (3, .read)]

/-- The lease runs out while the second receipt is reserved.  Compensation cancels the first
one, and puts a tombstone where the second one would be stored. -/
def compensatedPair : List (Fin 5 × Label Int) :=
  firstReserved ++
    [(1, .read), (1, .ask start), (1, .read), (1, .read), (1, .ask start),
      (3, .read), (3, .ask (start + 60000000)), (3, .ask (start + 60000000)), (3, .reported),
      (4, .read), (4, .read), (4, .read), (4, .read), (4, .read),
      (4, .ask (start + 60000000)), (4, .reported),
      (4, .read), (4, .read), (4, .ask (start + 60000000)), (4, .reported)]

/-- What two of the calls return in a run. -/
theorem pair_run (events : List (Fin 5 × Label Int)) (i j : Fin 5) (left right : DispatchReply)
    (h : ((dispatchers pairCalls pairPlan pairTable).run? events).any (fun s =>
      decide ((s.threads i).value? = some left ∧ (s.threads j).value? = some right)) = true) :
    ∃ s, (dispatchers pairCalls pairPlan pairTable).run? events = some s ∧
      s.threads i = .done (.ok left) ∧ s.threads j = .done (.ok right) := by
  obtain ⟨s, hrun, hs⟩ := (Option.any_eq_true _ _).1 h
  obtain ⟨hleft, hright⟩ := of_decide_eq_true hs
  exact ⟨s, hrun, Program.value?_eq_some.1 hleft, Program.value?_eq_some.1 hright⟩

end Sample

/-- A run in which the plan is authorized, and one in which it is compensated. -/
theorem dispatch_authorization_excludes_compensation_sample :
    (∃ s, DispatchSafe Sample.pairCalls Sample.pairPlan s ∧
      s.threads 2 = .done (.ok (.authorized true)) ∧
      s.threads 3 = .done (.ok (.cancelled false))) ∧
    ∃ s, DispatchSafe Sample.pairCalls Sample.pairPlan s ∧
      s.threads 3 = .done (.ok (.cancelled true)) ∧
      s.threads 4 = .done (.ok (.compensated 1)) := by
  have hsafe : ∀ {events s},
      (dispatchers Sample.pairCalls Sample.pairPlan Sample.pairTable).run? events = some s →
        DispatchSafe Sample.pairCalls Sample.pairPlan s := by
    intro events s hrun
    refine dispatch_authorization_excludes_compensation Sample.pairTable_wellTagged rfl ?_
      Sample.pairCalls_about (System.reaches_of_run? hrun)
    intro admission hmem
    obtain rfl | hmem := List.mem_cons.1 hmem
    · rfl
    · rw [List.mem_singleton.1 hmem]
      rfl
  obtain ⟨s, hrun, hreplies⟩ := Sample.pair_run Sample.authorizedPair 2 3 (.authorized true)
    (.cancelled false) (by decide +kernel)
  obtain ⟨s', hrun', hreplies'⟩ := Sample.pair_run Sample.compensatedPair 3 4 (.cancelled true)
    (.compensated 1) (by decide +kernel)
  exact ⟨⟨s, hsafe hrun, hreplies⟩, s', hsafe hrun', hreplies'⟩

end Turnstile
