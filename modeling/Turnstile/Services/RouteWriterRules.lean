import Turnstile.Services.RouteRecovery

/-!
# The rules of writer operations

An operation on the writer row sends one batch, made from a state that was read with its
tag.  It records its intent first, and gives up where its own clock says that the lease
has run out; what keeps the others safe is the tag, not the clock.
-/

namespace Turnstile

open Guard

section

variable {ι : Type} {calls : ι → RouteCall} {i : ι} {w : RouteWorld ι} {σ : Type}

/-- What an operation on the writer row starts from. -/
structure FromRead (calls : ι → RouteCall) (w : RouteWorld ι) (i : ι)
    (before : Option (RouteWriterState × ℕ)) (after : RouteWriterState) (kind : RouteWriterKind)
    (operationId : UUID) : Prop where
  row : (calls i).receiptRow? = some (.writerTransition operationId)
  seen : ∀ state etag, before = some (state, etag) →
    w.table.Seen (.root .writer) ⟨.record (.writer state), etag⟩
  claimed : before = none → ∃ active : Option (ActiveRouteHead × ℕ), ClaimedOn w i active ∧
    after.activeGeneration = (active.map fun a => a.1.approval.generation).getD 0 ∧
    after.activeVersion = active.map (fun a => a.1.approval.routeVersion) ∧
    after.activeSha256 = active.map fun a => ⟨a.1⟩
  aborted : kind = .abort → ∃ a pending, calls i = .abortWriter a pending ∧
    before.bind (fun b => b.1.pending) = some pending

theorem stays_fromRead (before : Option (RouteWriterState × ℕ)) (after : RouteWriterState)
    (kind : RouteWriterKind) (operationId : UUID) :
    Stays fun w => FromRead calls w i before after kind operationId := by
  intro w w' recent hc h
  refine { h with
    seen := fun state etag hb => (h.seen state etag hb).of_evolves hc.table
    claimed := fun hnone => ?_ }
  obtain ⟨active, hactive, hfields⟩ := h.claimed hnone
  exact ⟨active, hactive.mono hc, hfields⟩

/-- The batch of an operation that starts from what was read is prepared. -/
theorem FromRead.prepared {self : RouteProjection} {before : Option (RouteWriterState × ℕ)}
    {after : RouteWriterState} {kind : RouteWriterKind} {operationId boundary : UUID}
    (h : FromRead calls w i before after kind operationId)
    {record : RouteWriterIntent}
    (hrecord : (writerIntent self before after kind operationId boundary).toRecord = .ok record) :
    PreparedWriter calls w i (writerIntent self before after kind operationId boundary) := by
  obtain ⟨rfl, -⟩ := RouteWriterIntent.toRecord_eq_ok hrecord
  refine ⟨hrecord, h.row, fun state hstate => ?_, fun hnone => ?_, fun hkind => ?_⟩
  · obtain ⟨⟨state', etag⟩, rfl, rfl⟩ := Option.map_eq_some_iff.1 hstate
    exact ⟨etag, rfl, h.seen state' etag rfl⟩
  · exact h.claimed (Option.map_eq_none_iff.1 hnone)
  · obtain ⟨a, pending, hcall, hpending⟩ := h.aborted hkind
    refine ⟨a, pending, hcall, ?_⟩
    cases before with
    | none => cases hpending
    | some b => exact hpending

theorem FromRead.sendable {self : RouteProjection} {before : Option (RouteWriterState × ℕ)}
    {after : RouteWriterState} {kind : RouteWriterKind} {operationId boundary : UUID}
    (h : FromRead calls w i before after kind operationId) :
    Sendable calls writerView w i (writerIntent self before after kind operationId boundary) := by
  refine ⟨h.row, fun x hx etag hetag => ?_, ?_⟩
  · rcases List.mem_cons.1 hx with rfl | hx
    · obtain ⟨⟨state, etag'⟩, hb, rfl⟩ := Option.map_eq_some_iff.1 hetag
      exact (h.seen state etag' hb).1
    · obtain rfl := List.mem_singleton.1 hx
      cases hetag
  · exact List.mem_cons_of_mem _ (List.mem_singleton_self _)

/-- An owner who looks at the clock only lets time pass. -/
theorem meets_requireLive {S : RouteWorld ι → Prop}
    (hS : ∀ w' w'', Relies calls i w' w'' → S w' → S w'') (hs : S w)
    (before : Option RouteWriterState) (after : RouteWriterState) (kind : RouteWriterKind) :
    RouteMeets calls i (fun _ => S) (fun _ => S) (requireLive before after kind) w := by
  unfold requireLive
  refine meets_now fun time w₁ hr₁ _ => ?_
  have hs₁ := hS _ _ hr₁ hs
  refine meets_lifted (fun _ _ => ?_) fun _ w' hr' _ => hS _ _ hr' hs₁
  split
  next => exact meets_ended fun w' hr' _ => hS _ _ hr' hs₁
  next =>
    split
    next => exact meets_ended fun w' hr' _ => hS _ _ hr' hs₁
    next =>
      refine meets_now fun time' w₂ hr₂ _ => ?_
      have hs₂ := hS _ _ hr₂ hs₁
      intro w' hr' _
      cases RouteWriterState.requireOwner _ _ _ time' <;> exact hS _ _ hr' hs₂

/-- A client that gives up before it sends may say so. -/
theorem MaySend.expires {row : RouteRow} {body : RouteBatch} (h : MaySend calls i body w)
    (hw : RouteWorldInv calls w) (hp : OperationIdsPromised calls)
    (hrow : (calls i).receiptRow? = some row) (hknown : Known w row body) :
    Reports w i row body .expiredBeforeDispatch := by
  obtain ⟨e, he, rfl, -⟩ := hknown
  obtain ⟨k, -, hcall, hpublication⟩ := ((hw.journals hp).proper e he).begun
  obtain ⟨e', -, -, -, hrow', hbegan, hunsent, -⟩ :=
    h hp e.publicationId ((hp i k _ hrow hcall).trans hpublication)
  rw [hrow, Option.some.injEq] at hrow'
  rw [← hrow'] at hbegan hunsent
  exact ⟨by decide, fun _ => hunsent, fun _ => hbegan⟩

/-! ## A recorded intent -/

section

variable {α β : Type} {v : IntentView β} {journal : RouteJournal β σ}
  {Open : σ → RouteWorld ι → Prop} {Holds : σ → β → RouteWorld ι → Prop} {object : σ} {b : β}

/-- The intent is recorded and its batch not yet sent. -/
structure ReadyToSend (calls : ι → RouteCall) (i : ι) (v : IntentView β)
    (Holds : σ → β → RouteWorld ι → Prop) (object : σ) (b : β) (w : RouteWorld ι) : Prop where
  row : (calls i).receiptRow? = some (v.row b)
  holds : Holds object b w
  may : MaySend calls i (v.body b) w
  prepared : Prepared calls w i (.batch (v.body b))
  tagged : Tagged (v.body b) w

theorem ReadyToSend.relies (hjournal : KeepsJournal calls i v journal Open Holds)
    {w w' : RouteWorld ι} (hr : Relies calls i w w')
    (h : ReadyToSend calls i v Holds object b w) : ReadyToSend calls i v Holds object b w' := by
  obtain ⟨recent, hc⟩ := hr.continues
  exact ⟨h.row, hjournal.holds _ _ _ _ _ hc h.holds, h.may.stable hr, h.prepared.mono hc,
    stays_tagged _ _ _ _ hc h.tagged⟩

/-- What is recorded, and then raised. -/
theorem meets_recordRaise (hjournal : KeepsJournal calls i v journal Open Holds)
    (hw : RouteWorldInv calls w) (hholds : Holds object b w) {outcome : RouteOutcome}
    (hreports : OperationIdsPromised calls → Known w (v.row b) (v.body b) →
      Reports w i (v.row b) (v.body b) outcome) (e : RouteError) {Q : α → RouteWorld ι → Prop} :
    RouteMeets calls i Q (fun _ _ => True)
      (journal.recordOutcome object (v.operationId b) outcome >>= fun _ => Client.raise e) w :=
  RouteMeets.bind hw (hjournal.record hw hholds hreports) fun _ _ _ _ =>
    meets_failed fun _ _ _ => trivial

/-- Whoever gives up before the batch is sent records it. -/
theorem ReadyToSend.meets_expire (hjournal : KeepsJournal calls i v journal Open Holds)
    (hw : RouteWorldInv calls w) (h : ReadyToSend calls i v Holds object b w) (e : RouteError)
    {Q : α → RouteWorld ι → Prop} :
    RouteMeets calls i Q (fun _ _ => True)
      (if e.isValueError = true then
        journal.recordOutcome object (v.operationId b) .expiredBeforeDispatch >>= fun _ =>
          Client.raise e
      else Client.raise e) w := by
  split
  next =>
    exact meets_recordRaise hjournal hw h.holds
      (fun hp hknown => h.may.expires hw hp h.row hknown) e
  next => exact meets_failed fun _ _ _ => trivial

/-- A prepared intent is begun. -/
theorem meets_begin (hjournal : KeepsJournal calls i v journal Open Holds)
    (hw : RouteWorldInv calls w) (hopen : Open object w)
    (hprepared : Prepared calls w i (.batch (v.body b))) (hsend : Sendable calls v w i b)
    {Q : α → RouteWorld ι → Prop} {f : σ → RouteClient α}
    (h : ∀ object' w', RouteWorldInv calls w' → ReadyToSend calls i v Holds object' b w' →
      RouteMeets calls i Q (fun _ _ => True) (f object') w') :
    RouteMeets calls i Q (fun _ _ => True) (journal.beginOnce object b >>= f) w := by
  have hstays : Stays fun w' => Prepared calls w' i (.batch (v.body b)) ∧ Tagged (v.body b) w' :=
    fun _ _ _ hc hb => ⟨hb.1.mono hc, stays_tagged _ _ _ _ hc hb.2⟩
  refine RouteMeets.bind hw (((hjournal.begin hw hopen hsend).frame hstays
    ⟨hprepared, hsend.tagged⟩).weaken (fun _ _ _ h => h) fun _ _ _ _ => trivial)
    fun object' w' hw' hbegun => ?_
  obtain ⟨⟨hholds, hmay⟩, hprepared', htagged⟩ := hbegun
  exact h object' w' hw' ⟨hsend.row, hholds, hmay, hprepared', htagged⟩

/-- The batch is sent, and the object still holds its intent. -/
theorem ReadyToSend.meets_submit (hjournal : KeepsJournal calls i v journal Open Holds)
    (h : ReadyToSend calls i v Holds object b w) {Q : α → RouteWorld ι → Prop}
    {f : SubmitAnswer → RouteClient α}
    (hf : ∀ answer w', RouteWorldInv calls w' → Holds object b w' → Tagged (v.body b) w' →
      RouteMeets calls i Q (fun _ _ => True) (f answer) w') :
    RouteMeets calls i Q (fun _ _ => True) (submit (.batch (v.body b)) >>= f) w :=
  meets_submit_batch h.prepared h.may fun answer w' _ hc hw' =>
    hf answer w' hw' (hjournal.holds _ _ _ _ _ hc h.holds) (stays_tagged _ _ _ _ hc h.tagged)

end

/-! ## Changes of the writer row -/

variable {journal : RouteJournal RouteWriterIntent σ} {Open : σ → RouteWorld ι → Prop}
  {Holds : σ → RouteWriterIntent → RouteWorld ι → Prop} {object : σ}

/-- The intent is recorded, its batch is sent once, and what became of it is recorded. -/
theorem meets_changeWriter {self : RouteProjection}
    (hjournal : KeepsJournal calls i writerView journal Open Holds)
    (hopen : Open object w) {before : Option (RouteWriterState × ℕ)} {after : RouteWriterState}
    {kind : RouteWriterKind} {operationId boundary : UUID}
    (h : FromRead calls w i before after kind operationId) :
    RouteMeets calls i (fun _ _ => True) (fun _ _ => True)
      (changeWriter self before after kind operationId boundary journal object) w := by
  have hraise : ∀ (e : RouteError) w', RouteMeets calls i
      (fun (_ : RouteWriterState × ℕ) _ => True) (fun _ _ => True) (Client.raise e) w' :=
    fun e w' => meets_failed fun _ _ _ => trivial
  unfold changeWriter
  refine meets_read (fun existing w₁ hr₁ hw₁ _ => ?_) fun _ _ _ _ => trivial
  have h₁ := (stays_fromRead before after kind operationId).relies hr₁ h
  dsimp only
  split
  next =>
    refine meets_lifted (fun record hrecord => ?_) fun _ _ _ _ => trivial
    refine meets_begin hjournal hw₁ ((hjournal.opens object).relies hr₁ hopen)
      (.writer _ (h₁.prepared hrecord)) h₁.sendable fun object' w₂ hw₂ hready => ?_
    refine RouteMeets.bind hw₂ (RouteMeets.handle hw₂ (meets_requireLive
      (fun _ _ => ReadyToSend.relies hjournal) hready _ _ _)
      fun e w₃ hw₃ hready₃ => hready₃.meets_expire hjournal hw₃ e) fun _ w₃ hw₃ hready₃ => ?_
    refine hready₃.meets_submit hjournal fun answer w₄ hw₄ hholds htagged => ?_
    cases answer with
    | refused => exact meets_recordRaise hjournal hw₄ hholds (fun _ _ => .of_silent (by decide)) _
    | lost => exact meets_recordRaise hjournal hw₄ hholds (fun _ _ => .of_silent (by decide)) _
    | applied =>
        refine RouteMeets.bind hw₄
          (((meets_recoverWriter (OperationIdsPromised calls) fun _ => htagged).frame
          (hjournal.holds object' _) hholds).weaken (fun _ _ _ h => h) fun _ _ _ _ => trivial)
          fun outcome w₅ hw₅ hfound => ?_
        obtain ⟨hverdict, hholds₅⟩ := hfound
        refine RouteMeets.bind hw₅ (hjournal.record hw₅ hholds₅ fun hp hknown =>
          hverdict.reports hw₅ hp hknown) fun _ w₆ _ _ => ?_
        split
        next =>
          refine meets_readWriter (fun current w₇ _ _ _ => ?_) fun _ _ _ _ => trivial
          split
          next => exact hraise _ _
          next =>
            split
            next =>
              refine meets_now fun time w₈ _ _ => meets_lifted (fun _ _ => ?_)
                fun _ _ _ _ => trivial
              exact meets_ended fun _ _ _ => trivial
            next => exact hraise _ _
        next => exact hraise _ _
  next => exact hraise _ _

/-! ## Operations -/

section

variable (hjournal : KeepsJournal calls i writerView journal Open Holds) {self : RouteProjection}
  {ownerToken publicationId operationId boundary : UUID}
  (hrow : (calls i).receiptRow? = some (.writerTransition operationId))

include hjournal hrow

/-- A state that was read with its tag may be changed by any operation but a claim. -/
theorem meets_changeRead (hopen : Open object w) {current : RouteWriterState × ℕ}
    (hseen : w.table.Seen (.root .writer) ⟨.record (.writer current.1), current.2⟩)
    {after : RouteWriterState} {kind : RouteWriterKind}
    (haborted : kind = .abort → ∃ a pending, calls i = .abortWriter a pending ∧
      current.1.pending = some pending) :
    RouteMeets calls i (fun _ _ => True) (fun _ _ => True)
      (changeWriter self (some current) after kind operationId boundary journal object) w := by
  refine meets_changeWriter hjournal hopen ⟨hrow, fun state etag hsome => ?_, fun hnone => ?_,
    haborted⟩
  · obtain rfl := Option.some.inj hsome
    exact hseen
  · cases hnone

theorem meets_claimWriter (hopen : Open object w) :
    RouteMeets calls i (fun _ _ => True) (fun _ _ => True)
      (claimWriter self ownerToken publicationId operationId boundary journal object) w := by
  unfold claimWriter
  refine meets_readWriter (fun current w₁ hr₁ hw₁ _ => ?_) fun _ _ _ _ => trivial
  dsimp only
  split
  next =>
    refine meets_readActive (fun active w₂ hr₂ hw₂ hread => ?_) fun _ _ _ _ => trivial
    refine meets_now fun instant w₃ hr₃ hw₃ => ?_
    refine meets_lifted (fun state hstate => ?_) fun _ _ _ _ => trivial
    obtain ⟨recent, hc⟩ := hr₃.continues
    refine meets_changeWriter hjournal ((hjournal.opens object).relies
      (hr₁.trans (hr₂.trans hr₃)) hopen) ⟨hrow, fun _ _ hsome => (by cases hsome),
      fun _ => ⟨active, ?_, ?_⟩, fun hkind => (by cases hkind)⟩
    · obtain ⟨older, hhistory⟩ := hread.history
      refine ClaimedOn.mono hc ⟨[], older, hhistory, fun _ => hread.rows⟩
    · unfold RouteWriterState.modelValidate at hstate
      split at hstate
      next =>
        obtain rfl := Except.ok.inj hstate
        exact ⟨rfl, rfl, rfl⟩
      next => cases hstate
  next => exact meets_failed fun _ _ _ => trivial

/-- The state is made from what was read by the clock of the caller. -/
theorem meets_changeNow (hopen : Open object w) {current : RouteWriterState × ℕ}
    (hseen : w.table.Seen (.root .writer) ⟨.record (.writer current.1), current.2⟩)
    {kind : RouteWriterKind} (hkind : kind ≠ .abort)
    (change : ℤ → Except RouteError RouteWriterState) :
    RouteMeets calls i (fun _ _ => True) (fun _ _ => True)
      (now >>= fun instant => Client.lift (change instant) >>= fun after =>
        changeWriter self (some current) after kind operationId boundary journal object) w := by
  refine meets_now fun instant w₁ hr₁ _ => meets_lifted (fun after _ => ?_) fun _ _ _ _ => trivial
  obtain ⟨recent, hc⟩ := hr₁.continues
  exact meets_changeRead hjournal hrow ((hjournal.opens object).relies hr₁ hopen)
    (hseen.of_evolves hc.table) fun h => absurd h hkind

theorem meets_takeoverWriter (hopen : Open object w) {current : RouteWriterState × ℕ}
    (hseen : w.table.Seen (.root .writer) ⟨.record (.writer current.1), current.2⟩) :
    RouteMeets calls i (fun _ _ => True) (fun _ _ => True)
      (takeoverWriter self current ownerToken publicationId operationId boundary journal object)
      w :=
  meets_changeNow hjournal hrow hopen hseen (by decide) _

theorem meets_renewWriter (hopen : Open object w) {current : RouteWriterState × ℕ}
    (hseen : w.table.Seen (.root .writer) ⟨.record (.writer current.1), current.2⟩) :
    RouteMeets calls i (fun _ _ => True) (fun _ _ => True)
      (renewWriter self current ownerToken publicationId operationId boundary journal object)
      w :=
  meets_changeNow hjournal hrow hopen hseen (by decide) _

theorem meets_prepareWriter (hopen : Open object w) {current : RouteWriterState × ℕ}
    (hseen : w.table.Seen (.root .writer) ⟨.record (.writer current.1), current.2⟩)
    {pending : RoutePendingActivation} :
    RouteMeets calls i (fun _ _ => True) (fun _ _ => True)
      (prepareWriter self current pending ownerToken publicationId operationId boundary journal
        object) w :=
  meets_changeNow hjournal hrow hopen hseen (by decide) _

theorem meets_abortWriter (hopen : Open object w) {current : RouteWriterState × ℕ}
    (hseen : w.table.Seen (.root .writer) ⟨.record (.writer current.1), current.2⟩)
    {pending : RoutePendingActivation} {a : WriterArguments}
    (hcall : calls i = .abortWriter a pending) :
    RouteMeets calls i (fun _ _ => True) (fun _ _ => True)
      (abortWriter self current pending ownerToken publicationId operationId boundary journal
        object) w := by
  refine meets_now fun instant w₁ hr₁ _ => meets_lifted (fun _ _ => ?_) fun _ _ _ _ => trivial
  refine meets_lifted (fun _ hpending => ?_) fun _ _ _ _ => trivial
  refine meets_lifted (fun after _ => ?_) fun _ _ _ _ => trivial
  obtain ⟨recent, hc⟩ := hr₁.continues
  exact meets_changeRead hjournal hrow ((hjournal.opens object).relies hr₁ hopen)
    (hseen.of_evolves hc.table) fun _ => ⟨a, pending, hcall, require_eq_ok.1 hpending⟩

end

end

end Turnstile
