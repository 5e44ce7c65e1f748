import Turnstile.Services.RouteJournalRules

/-!
# The rules of recovery

A receipt row exists only when the batch of its operation was applied, and a batch whose
condition has failed for good is not applied any more.  So a recovery that finds the
receipt has found the batch applied, and one that finds another tag and then no receipt
has found it fenced.
-/

namespace Turnstile

open Guard

section

variable {ι : Type} {calls : ι → RouteCall} {i : ι} {w : RouteWorld ι} {α : Type}
  {Q : α → RouteWorld ι → Prop} {E : RouteError → RouteWorld ι → Prop}

/-! ## Reading the writer and the active row -/

/-- The row that holds a writer state. -/
def writerRow (current : Option (RouteWriterState × ℕ)) : Option (Row RouteDocument) :=
  current.map fun c => ⟨.record (.writer c.1), c.2⟩

/-- The row that holds an active head. -/
def activeRow (current : Option (ActiveRouteHead × ℕ)) : Option (Row RouteDocument) :=
  current.map fun c => ⟨.record (.active c.1), c.2⟩

theorem meets_readWriter {self : RouteProjection}
    {f : Option (RouteWriterState × ℕ) → RouteClient α}
    (h : ∀ current w', Relies calls i w w' → RouteWorldInv calls w' →
      JustRead w' i (.root .writer) (writerRow current) → RouteMeets calls i Q E (f current) w')
    (hE : ∀ e w', Relies calls i w w' → RouteWorldInv calls w' → E e w') :
    RouteMeets calls i Q E (readWriter self >>= f) w := by
  unfold readWriter
  rw [Client.bind_assoc]
  refine meets_read (fun found w' hr hw' hread => ?_) hE
  have hfail : ∀ e, RouteMeets calls i Q E (Client.raise e : RouteClient α) w' :=
    fun e => meets_failed fun w'' hr' hw'' => hE e w'' (hr.trans hr') hw''
  split
  next => exact h none w' hr hw' hread
  next state etag =>
    split
    next => exact h (some (state, etag)) w' hr hw' hread
    next => exact hfail _
  next => exact hfail _

theorem meets_readActive {self : RouteProjection}
    {f : Option (ActiveRouteHead × ℕ) → RouteClient α}
    (h : ∀ current w', Relies calls i w w' → RouteWorldInv calls w' →
      JustRead w' i (.root .active) (activeRow current) → RouteMeets calls i Q E (f current) w')
    (hE : ∀ e w', Relies calls i w w' → RouteWorldInv calls w' → E e w') :
    RouteMeets calls i Q E (readActive self >>= f) w := by
  unfold readActive
  rw [Client.bind_assoc]
  refine meets_read (fun found w' hr hw' hread => ?_) hE
  have hfail : ∀ e, RouteMeets calls i Q E (Client.raise e : RouteClient α) w' :=
    fun e => meets_failed fun w'' hr' hw'' => hE e w'' (hr.trans hr') hw''
  split
  next => exact h none w' hr hw' hread
  next head etag =>
    split
    next => exact h (some (head, etag)) w' hr hw' hread
    next => exact hfail _
  next => exact hfail _

/-! ## Verdicts -/

/-- The tags of a batch were given before. -/
def Tagged (body : RouteBatch) (w : RouteWorld ι) : Prop :=
  ∀ x ∈ body.writes, ∀ etag, x.ifMatch = some etag → etag < w.table.next

theorem stays_tagged (body : RouteBatch) : Stays (ι := ι) (Tagged body) :=
  fun _ _ _ hc h x hx etag hetag => Nat.lt_of_lt_of_le (h x hx etag hetag) hc.table.next_le

/-- What a recovery has found of an operation with this receipt row and batch.  Whoever
knows that the tags of the batch were given may conclude that it is fenced. -/
structure Verdict (known : Prop) (row : RouteRow) (body : RouteBatch) (outcome : RouteOutcome)
    (w : RouteWorld ι) : Prop where
  outcomes : outcome ∈ [RouteOutcome.confirmed, .conflict, .unknown, .notAppliedFenced]
  confirmed : outcome = .confirmed → w.table.rows (.root row) ≠ none
  fenced : outcome = .notAppliedFenced → known → Fenced w body

theorem stays_verdict (known : Prop) (row : RouteRow) (body : RouteBatch)
    (outcome : RouteOutcome) : Stays (ι := ι) (Verdict known row body outcome) :=
  fun _ _ _ hc h => ⟨h.outcomes, fun ho => hc.table.kept _ (h.confirmed ho),
    fun ho hp => (h.fenced ho hp).mono hc⟩

theorem Verdict.of_unknown (known : Prop) (row : RouteRow) (body : RouteBatch) :
    Verdict known row body .unknown w :=
  ⟨by decide, fun h => (by cases h), fun h => by cases h⟩

/-- The receipt of a recorded operation is in the table only when its batch was applied. -/
theorem applied_of_receipt (hw : RouteWorldInv calls w) (hp : OperationIdsPromised calls)
    {row : RouteRow} {body : RouteBatch} (hknown : Known w row body)
    (hrow : w.table.rows (.root row) ≠ none) :
    ∃ j, (j, RouteEvent.applied (.batch body)) ∈ w.history := by
  obtain ⟨e, he, rfl, rfl⟩ := hknown
  have hj := hw.journals hp
  obtain ⟨k, -, hcall, hpublication⟩ := (hj.proper e he).begun
  obtain ⟨r, hr⟩ := Option.ne_none_iff_exists'.1 hrow
  obtain ⟨j, s, happlied, x, hx, hkey, -⟩ := hw.table.source _ _ hr
  obtain ⟨hsent, -⟩ := hw.table.applied j s happlied
  cases s with
  | entity key document =>
      obtain rfl := List.mem_singleton.1 hx
      exfalso
      cases hw.table.submitted j _ hsent with
      | entity _ _ hprepared =>
          obtain ⟨-, -, hwriter, htransition⟩ := hprepared.staged
          generalize calls k = c at hcall
          cases c <;> first
            | cases hcall
            | exact hwriter _ (hkey.trans (congrArg RouteKey.root (Option.some.inj hcall).symm))
            | exact htransition _ (hkey.trans (congrArg RouteKey.root (Option.some.inj hcall).symm))
  | batch b =>
      have hmem : e.row ∈ b.rows := RouteBatch.mem_rows.2 ⟨x, hx, hkey⟩
      have hj' := hj.row_of_sent (hw.table.submitted j _ hsent) he hmem
      obtain ⟨e', he', -, hbody, hcall', -⟩ := hj.sent j b e.publicationId hsent
        ((hp j k _ hj' hcall).trans hpublication)
      rw [hj', Option.some.injEq] at hcall'
      have hsame := (hj.entry_eq hp he he' hcall').2
      rw [hsame, hbody]
      exact ⟨j, happlied⟩

/-- What a recovery has found is true. -/
theorem Verdict.reports {row : RouteRow} {body : RouteBatch} {outcome : RouteOutcome}
    (h : Verdict (OperationIdsPromised calls) row body outcome w) (hw : RouteWorldInv calls w)
    (hp : OperationIdsPromised calls) (hknown : Known w row body) :
    Reports w i row body outcome := by
  have houtcomes := h.outcomes
  cases outcome with
  | confirmed =>
      exact ⟨by decide, fun p => applied_of_receipt hw hp hknown (h.confirmed rfl),
        fun he => by cases he⟩
  | notAppliedFenced => exact ⟨by decide, fun p => h.fenced rfl hp, fun he => by cases he⟩
  | conflict => exact .of_silent (by decide)
  | unknown => exact .of_silent (by decide)
  | started => exact absurd houtcomes (by decide)
  | expiredBeforeDispatch => exact absurd houtcomes (by decide)
  | conditionalConflict => exact absurd houtcomes (by decide)
  | unknownNoReplay => exact absurd houtcomes (by decide)

/-- A receipt that was found is a verdict. -/
theorem verdict_of_found {row : RouteRow} {body : RouteBatch} {observed receipt : RouteDocument}
    {r : Row RouteDocument} {known : Prop} (hr : w.table.rows (.root row) = some r) :
    Verdict known row body (verdict observed receipt) w := by
  have hne : w.table.rows (.root row) ≠ none := by
    rw [hr]
    exact Option.some_ne_none r
  unfold verdict
  split
  next => exact ⟨by decide, fun _ => hne, fun h => by cases h⟩
  next => exact ⟨by decide, fun h => (by cases h), fun h => by cases h⟩

/-- A batch that expects another tag than its row carries is dead. -/
theorem dead_of_etag {body : RouteBatch} (htagged : Tagged body w) {x : Write RouteRow RouteRecord}
    (hx : x ∈ body.writes) {r : Row RouteDocument} (hr : w.table.rows (.root x.key) = some r)
    (hne : some r.etag ≠ x.ifMatch) : w.table.Dead (RouteSubmission.batch body).writes := by
  refine ⟨⟨.root x.key, .record x.document, x.ifMatch⟩, List.mem_map.2 ⟨x, hx, rfl⟩, ?_⟩
  cases hmatch : x.ifMatch with
  | none =>
      show w.table.rows (.root x.key) ≠ none
      rw [hr]
      exact Option.some_ne_none r
  | some etag =>
      refine ⟨htagged x hx etag hmatch, ?_⟩
      rw [Table.etag?, hr, ← hmatch]
      exact hne

/-! ## Recoveries -/

/-- The end of a recovery: the receipt is read again. -/
def secondRead (row : RouteKey) (receipt : RouteDocument) : RouteClient RouteOutcome := do
  let second ← readDocument row
  match second with
  | some r => pure (verdict r.document receipt)
  | none => pure .notAppliedFenced

/-- The receipt is read again after a row that has another tag. -/
theorem meets_secondRead {row : RouteRow} {body : RouteBatch} {receipt : RouteDocument}
    {known : Prop} (hmem : row ∈ body.rows)
    (hdead : known → w.table.Dead (RouteSubmission.batch body).writes) :
    RouteMeets calls i (Verdict known row body) (fun _ _ => True)
      (secondRead (.root row) receipt) w := by
  refine meets_read (fun found w' hr hw' hread => ?_) fun _ _ _ _ => trivial
  cases found with
  | some r =>
      exact meets_ended fun w'' hr' _ =>
        (stays_verdict _ _ _ _).relies hr' (verdict_of_found hread.rows)
  | none =>
      refine meets_ended fun w'' hr' _ =>
        (stays_verdict _ _ _ _).relies hr' ⟨by decide, fun h => (by cases h), fun _ hp => ?_⟩
      obtain ⟨recent, hc⟩ := hr.continues
      refine ⟨(hdead hp).of_evolves hc.table, fun j hj => ?_⟩
      obtain ⟨x, hx, hkey⟩ := RouteBatch.mem_rows.1 hmem
      exact (hw'.table.applied j _ hj).2 x hx (hkey ▸ hread.rows)

/-- What is found at first is the verdict; else a row with another tag than the batch
expects decides. -/
theorem meets_recoverWriter {self : RouteProjection} {intent : RouteWriterIntent} (known : Prop)
    (htagged : known → Tagged intent.body w) :
    RouteMeets calls i (Verdict known (.writerTransition intent.receipt.operationId) intent.body)
      (fun _ _ => True) (recoverWriter self intent) w := by
  refine meets_lifted (fun record hrecord => ?_) fun _ _ _ _ => trivial
  obtain ⟨-, hrecorded⟩ := RouteWriterIntent.toRecord_eq_ok hrecord
  refine meets_lifted (fun _ _ => ?_) fun _ _ _ _ => trivial
  refine meets_read (fun found w₁ hr₁ hw₁ hread₁ => ?_) fun _ _ _ _ => trivial
  cases found with
  | some r =>
      exact meets_ended fun w' hr' _ =>
        (stays_verdict _ _ _ _).relies hr' (verdict_of_found hread₁.rows)
  | none =>
      refine meets_readWriter (fun current w₂ hr₂ _ hread₂ => ?_) fun _ _ _ _ => trivial
      have hsilent : RouteMeets calls i
          (Verdict known (.writerTransition intent.receipt.operationId) intent.body)
          (fun _ _ => True) (pure .unknown) w₂ :=
        meets_ended fun _ _ _ => .of_unknown _ _ _
      cases current with
      | none => exact hsilent
      | some current =>
          obtain ⟨state, etag⟩ := current
          split
          next => cases ‹some _ = none›
          next state' etag' hcurrent =>
            obtain ⟨rfl, rfl⟩ := Prod.ext_iff.1 (Option.some.inj hcurrent)
            split
            next => exact hsilent
            next hne =>
              refine meets_secondRead ?_ fun hp => ?_
              · rw [RouteBatch.rows, hrecorded.writes]
                exact List.mem_cons_of_mem _ (List.mem_singleton_self _)
              · refine dead_of_etag ((stays_tagged _).relies (hr₁.trans hr₂) (htagged hp))
                  (x := ⟨.writer, .writer intent.after, intent.receipt.beforeEtag⟩) ?_
                  hread₂.rows hne
                rw [hrecorded.writes]
                exact List.mem_cons_self

theorem meets_recover {self : RouteProjection} {receipt : RouteTransitionReceipt}
    {body : RouteBatch} {head : ActiveRouteHead} {known : Prop}
    (htagged : known → Tagged body w)
    (hmem : .transition receipt.operationId ∈ body.rows)
    (hactive : (⟨.active, .active head, receipt.beforeEtag⟩ : Write RouteRow RouteRecord) ∈
      body.writes) :
    RouteMeets calls i
      (Verdict known (.transition receipt.operationId) body) (fun _ _ => True)
      (recover self receipt) w := by
  refine meets_lifted (fun _ _ => ?_) fun _ _ _ _ => trivial
  refine meets_read (fun found w₁ hr₁ hw₁ hread₁ => ?_) fun _ _ _ _ => trivial
  cases found with
  | some r =>
      exact meets_ended fun w' hr' _ =>
        (stays_verdict _ _ _ _).relies hr' (verdict_of_found hread₁.rows)
  | none =>
      refine meets_readActive (fun current w₂ hr₂ _ hread₂ => ?_) fun _ _ _ _ => trivial
      have hsilent : RouteMeets calls i (Verdict known (.transition receipt.operationId) body)
          (fun _ _ => True) (pure .unknown) w₂ :=
        meets_ended fun _ _ _ => .of_unknown _ _ _
      cases current with
      | none => exact hsilent
      | some current =>
          obtain ⟨found, etag⟩ := current
          split
          next => cases ‹some _ = none›
          next found' etag' hcurrent =>
            obtain ⟨rfl, rfl⟩ := Prod.ext_iff.1 (Option.some.inj hcurrent)
            split
            next => exact hsilent
            next hne =>
              refine meets_secondRead hmem fun hp => ?_
              exact dead_of_etag ((stays_tagged _).relies (hr₁.trans hr₂) (htagged hp)) hactive
                hread₂.rows hne

/-- Where the active row does not decide, the writer row may. -/
theorem meets_recoverActivation {self : RouteProjection} {intent : RouteActivationIntent}
    (hw : RouteWorldInv calls w) (known : Prop) (htagged : known → Tagged intent.body w) :
    RouteMeets calls i (Verdict known (.transition intent.receipt.operationId) intent.body)
      (fun _ _ => True) (recoverActivation self intent) w := by
  refine meets_lifted (fun record hrecord => ?_) fun _ _ _ _ => trivial
  obtain ⟨-, hrecorded⟩ := RouteActivationIntent.toRecord_eq_ok hrecord
  have hmem : .transition intent.receipt.operationId ∈ intent.body.rows := by
    rw [RouteBatch.rows, hrecorded.writes, RouteActivationIntent.headWrites]
    simp
  refine meets_lifted (fun _ _ => ?_) fun _ _ _ _ => trivial
  have hT : Stays fun w' : RouteWorld ι => known → Tagged intent.body w' :=
    fun _ _ _ hc h hp => stays_tagged _ _ _ _ hc (h hp)
  have hactive : (⟨.active, .active intent.head, intent.receipt.beforeEtag⟩ :
      Write RouteRow RouteRecord) ∈ intent.body.writes := by
    rw [hrecorded.writes]
    simp [RouteActivationIntent.headWrites]
  refine RouteMeets.bind hw (((meets_recover htagged hmem hactive).frame hT htagged).weaken
    (fun _ _ _ h => h) fun _ _ _ _ => trivial) fun outcome w₁ _ hfound => ?_
  obtain ⟨hverdict, htagged₁⟩ := hfound
  have hended : RouteMeets calls i
      (Verdict known (.transition intent.receipt.operationId) intent.body)
      (fun _ _ => True) (pure outcome) w₁ :=
    meets_ended fun w' hr' _ => (stays_verdict _ _ _ _).relies hr' hverdict
  split
  next => exact hended
  next writerEtag hetag =>
    split
    next =>
      refine meets_readWriter (fun current w₂ hr₂ _ hread₂ => ?_) fun _ _ _ _ => trivial
      have hsilent : RouteMeets calls i
          (Verdict known (.transition intent.receipt.operationId) intent.body)
          (fun _ _ => True) (pure .unknown) w₂ :=
        meets_ended fun _ _ _ => .of_unknown _ _ _
      cases current with
      | none => exact hsilent
      | some current =>
          obtain ⟨found, etag⟩ := current
          split
          next => cases ‹some _ = none›
          next found' etag' hcurrent =>
            obtain ⟨rfl, rfl⟩ := Prod.ext_iff.1 (Option.some.inj hcurrent)
            split
            next => exact hsilent
            next hne =>
              refine meets_secondRead hmem fun hp => ?_
              obtain ⟨-, -, hnone⟩ | ⟨before, after, etag', -, hafter, hetag', -⟩ :=
                hrecorded.writer
              · rw [hetag] at hnone
                cases hnone
              · refine dead_of_etag ((stays_tagged _).relies hr₂ (htagged₁ hp))
                  (x := ⟨.writer, .writer after, intent.writerEtag⟩) ?_ hread₂.rows ?_
                · rw [hrecorded.writes, RouteActivationIntent.writerWrites, hafter]
                  exact List.mem_cons_self
                · rw [hetag]
                  exact fun h => hne (Option.some.inj h)
    next => exact hended

end

end Turnstile
