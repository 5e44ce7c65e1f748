import Turnstile.Services.RouteActivationRules

/-!
# Runs of route workers

Every call keeps to the contract, so every state that is reached by any interleaving of
calls satisfies its invariant, and a recovery that has returned has told the truth.
-/

namespace Turnstile

open Guard

section

variable {ι : Type} {calls : ι → RouteCall} {i : ι} {w : RouteWorld ι}

/-! ## Initialization -/

theorem keeps_initializationJournal (operationId : UUID) (h : (calls i).publication? = none) :
    KeepsJournal calls i activationView (initializationJournal operationId) (fun _ _ => True)
      (fun _ _ _ => True) where
  opens _ := fun _ _ _ _ _ => trivial
  holds _ _ := fun _ _ _ _ _ => trivial
  begin := by
    intro o intent w _ _ _
    refine meets_read (fun recorded w₁ _ _ _ => ?_) fun _ _ _ _ => trivial
    dsimp only
    split
    next =>
      refine meets_lifted (fun record _ => ?_) fun _ _ _ _ => trivial
      refine RouteMeets.bind ‹_› (meets_stageEntity ⟨?_, fun digest cursor hkey => ?_⟩)
        fun _ w₂ _ _ => meets_ended fun w₃ _ _ => ⟨trivial, maySend_of_other h⟩
      · exact ⟨fun hk => (by cases hk), fun hk => (by cases hk), fun _ hk => (by cases hk),
          fun _ hk => by cases hk⟩
      · cases hkey
    next => exact meets_failed fun _ _ _ => trivial
  record := by
    intro o intent w outcome _ _ _
    change RouteMeets calls i _ _ (if _ then _ else _) w
    split
    next => exact meets_ended fun _ _ _ => trivial
    next => exact meets_failed fun _ _ _ => trivial

theorem meets_recoverInitialization {self : RouteProjection} {identity : ProgramIdentity}
    {budgetEpoch operationId : UUID} {record : RouteActivationIntent}
    (hw : RouteWorldInv calls w) :
    RouteMeets calls i Unsaid Unsaid
      (recoverInitialization self identity budgetEpoch operationId record) w := by
  refine meets_lifted (fun intent _ => ?_) fun _ _ _ _ => trivial
  refine meets_lifted (fun _ _ => ?_) fun _ _ _ _ => trivial
  refine RouteMeets.bind hw (meets_recoverActivation hw False False.elim) fun outcome w₁ _ _ => ?_
  dsimp only
  split
  next =>
    refine meets_readActive (fun current w₂ _ _ _ => ?_) fun _ _ _ _ => trivial
    split
    next => exact meets_ended fun _ _ _ => trivial
    next => exact meets_failed fun _ _ _ => trivial
  next => exact meets_failed fun _ _ _ => trivial

theorem meets_initializeEmptyScope {self : RouteProjection} {identity : ProgramIdentity}
    {proof : ProgramCapabilityProof} {budgetEpoch operationId boundary : UUID}
    (hrow : (calls i).receiptRow? = some (.transition operationId))
    (hother : (calls i).publication? = none) :
    RouteMeets calls i Unsaid Unsaid
      (initializeEmptyScope self identity proof budgetEpoch operationId boundary) w := by
  refine meets_lifted (fun _ _ => ?_) fun _ _ _ _ => trivial
  refine meets_read (fun recorded w₁ _ hw₁ _ => ?_) fun _ _ _ _ => trivial
  split
  next => exact meets_recoverInitialization hw₁
  next => exact meets_failed fun _ _ _ => trivial
  next =>
    refine meets_readActive (fun active w₂ _ hw₂ _ => ?_) fun _ _ _ _ => trivial
    dsimp only
    split
    next =>
      refine meets_now fun instant w₃ _ hw₃ => ?_
      refine meets_lifted (fun approval _ => ?_) fun _ _ _ _ => trivial
      refine meets_lifted (fun snapshot _ => ?_) fun _ _ _ _ => trivial
      refine RouteMeets.bind hw₃ (meets_stage hw₃) fun _ w₄ hw₄ _ => ?_
      refine RouteMeets.bind hw₄ (meets_activate (keeps_initializationJournal operationId hother)
        hrow (fun _ h => by cases h) trivial) fun head w₅ _ _ => ?_
      split
      next => exact meets_ended fun _ _ _ => trivial
      next => exact meets_failed fun _ _ _ => trivial
    next => exact meets_failed fun _ _ _ => trivial

/-! ## Recoveries -/

/-- What an outcome says of a recorded operation. -/
structure RecoveredEntry (outcome : RouteOutcome) (w : RouteWorld ι) (e : JournalEntry) : Prop where
  saved : Saved w e
  confirmed : outcome = .confirmed → ∃ j, (j, RouteEvent.applied (.batch e.body)) ∈ w.history
  fenced : outcome = .notAppliedFenced → Fenced w e.body

theorem stays_recovered (outcome : RouteOutcome) (e : JournalEntry) :
    Stays fun w : RouteWorld ι => OperationIdsPromised calls → RecoveredEntry outcome w e := by
  intro w w' recent hc h hp
  refine ⟨(h hp).saved.mono hc, fun ho => ?_, fun ho => ((h hp).fenced ho).mono hc⟩
  obtain ⟨j, hj⟩ := (h hp).confirmed ho
  exact ⟨j, hc.mem hj⟩

/-- A verdict on a recorded operation is the truth. -/
theorem Verdict.recovered {e : JournalEntry} {outcome : RouteOutcome}
    (h : Verdict (OperationIdsPromised calls) e.row e.body outcome w) (hw : RouteWorldInv calls w)
    (hp : OperationIdsPromised calls) (he : Saved w e) : RecoveredEntry outcome w e := by
  obtain ⟨k, -⟩ := ((hw.journals hp).proper e he).begun
  have hreports := h.reports (i := k) hw hp ⟨e, he, rfl, rfl⟩
  refine ⟨he, fun ho => ?_, fun ho => ?_⟩
  · subst ho
    exact hreports.truthful e.publicationId
  · subst ho
    exact hreports.truthful e.publicationId

/-- The entry of the last operation of a journal. -/
def PersistentRouteWriterJournal.LastEntry (j : PersistentRouteWriterJournal)
    (e : JournalEntry) : Prop :=
  ∃ o, j.checkpoint.operations.getLast? = some o ∧ o.entry j.publicationId = e

/-- The entry of the activation of a journal. -/
def PersistentRouteActivationJournal.LastEntry (j : PersistentRouteActivationJournal)
    (e : JournalEntry) : Prop :=
  ∃ c, j.checkpoint = some c ∧ c.entry j.publicationId = e

/-- The outcome of a recovery is true of the operation that is last in the journal. -/
theorem PersistentRouteWriterJournal.meets_recover {self : RouteProjection}
    {j : PersistentRouteWriterJournal} (hw : RouteWorldInv calls w)
    (hloaded : PersistentRouteWriterJournal.Loaded calls j w) :
    RouteMeets calls i
      (fun outcome w' => ∃ e, j.LastEntry e ∧
        (OperationIdsPromised calls → RecoveredEntry outcome w' e)) Unsaid
      (j.recover self) w := by
  refine meets_lifted (fun found hfound => ?_) fun _ _ _ _ => trivial
  cases found with
  | none => exact meets_failed fun _ _ _ => trivial
  | some intent =>
      obtain ⟨operations, before, hlist⟩ := PersistentRouteWriterJournal.intent_eq_ok hfound
      have hholds : PersistentRouteWriterJournal.Holds calls j intent w :=
        ⟨hloaded, operations, before, hlist⟩
      have hlast : j.LastEntry (WriterOperation.entry j.publicationId ⟨intent, before⟩) :=
        ⟨_, by rw [hlist, List.getLast?_concat], rfl⟩
      have hentry : OperationIdsPromised calls →
          Saved w (WriterOperation.entry j.publicationId ⟨intent, before⟩) :=
        fun hp => hloaded.entry hp (by rw [hlist]; simp)
      have htagged : OperationIdsPromised calls → Tagged intent.body w :=
        fun hp => ((hw.journals hp).proper _ (hentry hp)).tagged
      have hstays : Stays (ι := ι) fun w' => PersistentRouteWriterJournal.Holds calls j intent w' ∧
          (OperationIdsPromised calls →
            Saved w' (WriterOperation.entry j.publicationId ⟨intent, before⟩)) :=
        fun _ _ _ hc h => ⟨PersistentRouteWriterJournal.stays_holds j intent _ _ _ hc h.1,
          fun hp => (h.2 hp).mono hc⟩
      refine RouteMeets.bind hw (((meets_recoverWriter (OperationIdsPromised calls) htagged).frame
        hstays ⟨hholds, hentry⟩).weaken (fun _ _ _ h => h) fun _ _ _ _ => trivial)
        fun outcome w₁ hw₁ hfound₁ => ?_
      obtain ⟨hverdict, hholds₁, hentry₁⟩ := hfound₁
      have hrecovered : OperationIdsPromised calls → RecoveredEntry outcome w₁
          (WriterOperation.entry j.publicationId ⟨intent, before⟩) :=
        fun hp => Verdict.recovered hverdict hw₁ hp (hentry₁ hp)
      refine RouteMeets.bind hw₁ (((PersistentRouteWriterJournal.keeps_journal.record hw₁ hholds₁
        fun hp hknown => hverdict.reports hw₁ hp hknown).frame (stays_recovered outcome _)
        hrecovered).weaken (fun _ _ _ h => h) fun _ _ _ _ => trivial)
        fun _ w₂ _ hfound₂ => ?_
      exact meets_ended fun w₃ hr₃ _ => ⟨_, hlast, (stays_recovered _ _).relies hr₃ hfound₂.2⟩

theorem PersistentRouteActivationJournal.meets_recover {self : RouteProjection}
    {j : PersistentRouteActivationJournal} (hw : RouteWorldInv calls w)
    (hloaded : PersistentRouteActivationJournal.Loaded calls j w) :
    RouteMeets calls i
      (fun outcome w' => ∃ e, j.LastEntry e ∧
        (OperationIdsPromised calls → RecoveredEntry outcome w' e)) Unsaid
      (j.recover self) w := by
  refine meets_lifted (fun found hfound => ?_) fun _ _ _ _ => trivial
  cases found with
  | none => exact meets_failed fun _ _ _ => trivial
  | some intent =>
      obtain ⟨before, hbefore, rfl⟩ := PersistentRouteActivationJournal.intent_eq_ok hfound
      have hholds : PersistentRouteActivationJournal.Holds calls j before.intent w :=
        ⟨hloaded, before, hbefore, rfl⟩
      have hentry : OperationIdsPromised calls → Saved w (before.entry j.publicationId) :=
        fun hp => hloaded.entry hp hbefore
      have htagged : OperationIdsPromised calls → Tagged before.intent.body w :=
        fun hp => ((hw.journals hp).proper _ (hentry hp)).tagged
      have hstays : Stays (ι := ι) fun w' =>
          PersistentRouteActivationJournal.Holds calls j before.intent w' ∧
          (OperationIdsPromised calls → Saved w' (before.entry j.publicationId)) :=
        fun _ _ _ hc h => ⟨PersistentRouteActivationJournal.stays_holds j _ _ _ _ hc h.1,
          fun hp => (h.2 hp).mono hc⟩
      refine RouteMeets.bind hw (((meets_recoverActivation hw (OperationIdsPromised calls)
        htagged).frame hstays ⟨hholds, hentry⟩).weaken (fun _ _ _ h => h) fun _ _ _ _ => trivial)
        fun outcome w₁ hw₁ hfound₁ => ?_
      obtain ⟨hverdict, hholds₁, hentry₁⟩ := hfound₁
      have hrecovered : OperationIdsPromised calls →
          RecoveredEntry outcome w₁ (before.entry j.publicationId) :=
        fun hp => Verdict.recovered hverdict hw₁ hp (hentry₁ hp)
      have hended : ∀ w', (OperationIdsPromised calls →
          RecoveredEntry outcome w' (before.entry j.publicationId)) →
          RouteMeets calls i (fun outcome w' => ∃ e, j.LastEntry e ∧
            (OperationIdsPromised calls → RecoveredEntry outcome w' e)) Unsaid
            (pure outcome) w' :=
        fun w' h => meets_ended fun w₃ hr₃ _ =>
          ⟨_, ⟨before, hbefore, rfl⟩, (stays_recovered _ _).relies hr₃ h⟩
      split
      next => exact hended w₁ hrecovered
      next =>
        refine RouteMeets.bind hw₁ (((PersistentRouteActivationJournal.keeps_journal.record hw₁
          hholds₁ fun hp hknown => hverdict.reports hw₁ hp hknown).frame
          (stays_recovered outcome _) hrecovered).weaken (fun _ _ _ h => h)
          fun _ _ _ _ => trivial) fun _ w₂ _ hfound₂ => hended w₂ hfound₂.2

/-! ## Calls -/

def JournalKind.publication? : JournalKind → Option UUID
  | persistent publicationId _ => some publicationId
  | other => none

/-- The publication whose operation a call recovers. -/
def RouteCall.recovers? : RouteCall → Option UUID
  | recoverWriter publicationId _ | recoverActivation publicationId _ => some publicationId
  | _ => none

theorem meets_withWriterJournal {α : Type} {kind : JournalKind}
    {body : {σ : Type} → RouteJournal RouteWriterIntent σ → σ → RouteClient α}
    {Q : α → RouteWorld ι → Prop} (hkind : (calls i).publication? = kind.publication?)
    (h : ∀ {σ : Type} (journal : RouteJournal RouteWriterIntent σ) (object : σ)
      (Open : σ → RouteWorld ι → Prop) (Holds : σ → RouteWriterIntent → RouteWorld ι → Prop)
      (w' : RouteWorld ι), KeepsJournal calls i writerView journal Open Holds → Open object w' →
      RouteWorldInv calls w' → RouteMeets calls i Q Unsaid (body journal object) w')
    (hw : RouteWorldInv calls w) : RouteMeets calls i Q Unsaid (withWriterJournal kind body) w := by
  cases kind with
  | persistent p c =>
      refine PersistentRouteWriterJournal.meets_connect (fun j w' hj hloaded hw' => ?_)
        fun _ _ => trivial
      exact h _ j _ _ w' PersistentRouteWriterJournal.keeps_journal ⟨hloaded, hj ▸ hkind⟩ hw'
  | other => exact h _ () _ _ w (keeps_otherJournal _ hkind) trivial hw

theorem meets_withActivationJournal {α : Type} {kind : JournalKind}
    {body : {σ : Type} → RouteJournal RouteActivationIntent σ → σ → RouteClient α}
    {Q : α → RouteWorld ι → Prop} (hkind : (calls i).publication? = kind.publication?)
    (h : ∀ {σ : Type} (journal : RouteJournal RouteActivationIntent σ) (object : σ)
      (Open : σ → RouteWorld ι → Prop)
      (Holds : σ → RouteActivationIntent → RouteWorld ι → Prop) (w' : RouteWorld ι),
      KeepsJournal calls i activationView journal Open Holds → Open object w' →
      RouteWorldInv calls w' → RouteMeets calls i Q Unsaid (body journal object) w')
    (hw : RouteWorldInv calls w) :
    RouteMeets calls i Q Unsaid (withActivationJournal kind body) w := by
  cases kind with
  | persistent p c =>
      refine PersistentRouteActivationJournal.meets_connect (fun j w' hj hloaded hw' => ?_)
        fun _ _ => trivial
      exact h _ j _ _ w' PersistentRouteActivationJournal.keeps_journal ⟨hloaded, hj ▸ hkind⟩ hw'
  | other => exact h _ () _ _ w (keeps_otherJournal _ hkind) trivial hw

/-- The writer state that a caller read. -/
theorem meets_heldWriter {α : Type} {self : RouteProjection}
    {f : RouteWriterState × ℕ → RouteClient α} {Q : α → RouteWorld ι → Prop}
    (h : ∀ current w', Relies calls i w w' → RouteWorldInv calls w' →
      w'.table.Seen (.root .writer) ⟨.record (.writer current.1), current.2⟩ →
      RouteMeets calls i Q Unsaid (f current) w') :
    RouteMeets calls i Q Unsaid (heldWriter self >>= f) w := by
  unfold heldWriter
  rw [Client.bind_assoc]
  refine meets_readWriter (fun current w' hr hw' hread => ?_) fun _ _ _ _ => trivial
  cases current with
  | none => exact meets_failed fun _ _ _ => trivial
  | some current => exact h current w' hr hw' (hread.seen hw')

/-- A call on the writer row keeps to the contract when its operation does. -/
theorem meets_writerCall {a : WriterArguments}
    {operation : {σ : Type} → RouteJournal RouteWriterIntent σ → σ →
      RouteClient (RouteWriterState × ℕ)}
    (hkind : (calls i).publication? = a.journal.publication?)
    (h : ∀ {σ : Type} (journal : RouteJournal RouteWriterIntent σ) (object : σ)
      (Open : σ → RouteWorld ι → Prop) (Holds : σ → RouteWriterIntent → RouteWorld ι → Prop)
      (w' : RouteWorld ι), KeepsJournal calls i writerView journal Open Holds → Open object w' →
      RouteWorldInv calls w' → RouteMeets calls i Unsaid Unsaid (operation journal object) w')
    (hw : RouteWorldInv calls w) :
    RouteMeets calls i Unsaid Unsaid (writerCall a operation) w :=
  RouteMeets.bind hw (meets_withWriterJournal hkind h hw) fun _ _ _ _ =>
    meets_ended fun _ _ _ => trivial

/-- A call keeps to the contract when the operation that gives its result does. -/
theorem meets_unsaid {α : Type} {Q : α → RouteWorld ι → Prop} {p : RouteClient α}
    {result : α → RouteResult} (hw : RouteWorldInv calls w) (h : RouteMeets calls i Q Unsaid p w) :
    RouteMeets calls i Unsaid Unsaid (p >>= fun a => pure (result a)) w :=
  RouteMeets.bind hw h fun _ _ _ _ => meets_ended fun _ _ _ => trivial

/-- Every call keeps to the contract. -/
theorem meets_routeCall (self : RouteProjection) (hw : RouteWorldInv calls w) :
    RouteMeets calls i Unsaid Unsaid ((calls i).program self) w := by
  cases hcall : calls i with
  | claimWriter a =>
      have hrow : (calls i).receiptRow? = some (.writerTransition a.operationId) :=
        congrArg RouteCall.receiptRow? hcall
      refine meets_writerCall (congrArg RouteCall.publication? hcall)
        (fun _ _ _ _ w' hjournal hopen _ => ?_) hw
      exact meets_claimWriter hjournal hrow hopen
  | takeoverWriter a =>
      have hrow : (calls i).receiptRow? = some (.writerTransition a.operationId) :=
        congrArg RouteCall.receiptRow? hcall
      refine meets_writerCall (congrArg RouteCall.publication? hcall)
        (fun _ _ _ _ w' hjournal hopen _ => ?_) hw
      exact meets_heldWriter fun current w'' hr _ hseen =>
        meets_takeoverWriter hjournal hrow ((hjournal.opens _).relies hr hopen) hseen
  | renewWriter a =>
      have hrow : (calls i).receiptRow? = some (.writerTransition a.operationId) :=
        congrArg RouteCall.receiptRow? hcall
      refine meets_writerCall (congrArg RouteCall.publication? hcall)
        (fun _ _ _ _ w' hjournal hopen _ => ?_) hw
      exact meets_heldWriter fun current w'' hr _ hseen =>
        meets_renewWriter hjournal hrow ((hjournal.opens _).relies hr hopen) hseen
  | prepareWriter a pending =>
      have hrow : (calls i).receiptRow? = some (.writerTransition a.operationId) :=
        congrArg RouteCall.receiptRow? hcall
      refine meets_writerCall (congrArg RouteCall.publication? hcall)
        (fun _ _ _ _ w' hjournal hopen _ => ?_) hw
      exact meets_heldWriter fun current w'' hr _ hseen =>
        meets_prepareWriter hjournal hrow ((hjournal.opens _).relies hr hopen) hseen
  | abortWriter a pending =>
      have hrow : (calls i).receiptRow? = some (.writerTransition a.operationId) :=
        congrArg RouteCall.receiptRow? hcall
      refine meets_writerCall (congrArg RouteCall.publication? hcall)
        (fun _ _ _ _ w' hjournal hopen _ => ?_) hw
      exact meets_heldWriter fun current w'' hr _ hseen =>
        meets_abortWriter hjournal hrow ((hjournal.opens _).relies hr hopen) hseen hcall
  | recoverWriter p c =>
      exact PersistentRouteWriterJournal.meets_connect
        (fun j w' _ hloaded hw' => meets_unsaid hw' (j.meets_recover hw' hloaded))
        fun _ _ => trivial
  | activate a =>
      have hrow : (calls i).receiptRow? = some (.transition a.operationId) :=
        congrArg RouteCall.receiptRow? hcall
      have hkind : (calls i).publication? = a.journal.publication? :=
        congrArg RouteCall.publication? hcall
      rw [RouteCall.program]
      refine meets_withActivationJournal hkind
        (fun journal object Open Holds w' hjournal hopen hw' => ?_) hw
      have hactivate : ∀ w'' writer, RouteWorldInv calls w'' → Open object w'' →
          (∀ c, writer = some c → a.withWriter = true) →
          RouteMeets calls i Unsaid Unsaid
            (activate self a.snapshot a.identity a.proof a.budgetEpoch a.operationId a.boundary
              a.expectedEtag journal object writer >>= fun _ => pure RouteResult.done) w'' :=
        fun w'' writer hw'' hopen'' hwith => meets_unsaid hw''
          (meets_activate hjournal hrow (fun c hc => ⟨a, hcall, hwith c hc, rfl⟩) hopen'')
      dsimp only
      split
      next hwith =>
        refine meets_heldWriter fun current w'' hr hw'' _ => ?_
        exact hactivate w'' (some current) hw'' ((hjournal.opens _).relies hr hopen)
          fun _ _ => hwith
      next => exact hactivate w' none hw' hopen fun _ h => by cases h
  | initializeEmptyScope identity proof budgetEpoch operationId boundary =>
      exact meets_unsaid hw (meets_initializeEmptyScope (by rw [hcall]; rfl) (by rw [hcall]; rfl))
  | recoverActivation p c =>
      exact PersistentRouteActivationJournal.meets_connect
        (fun j w' _ hloaded hw' => meets_unsaid hw' (j.meets_recover hw' hloaded))
        fun _ _ => trivial
  | stage snapshot checkedAt => exact meets_unsaid hw (meets_stage hw)
  | stageSlice snapshot checkedAt cursor maximum =>
      exact meets_unsaid hw (meets_stageSlice hw)
  | verifySliceRecorded snapshot checkedAt cursor maximum =>
      exact meets_unsaid hw (meets_verifySliceRecorded hw)
  | stageModelAddition addition checkedAt =>
      exact meets_unsaid hw meets_stageModelAddition

/-! ## Reached states -/

variable [DecidableEq ι] {self : RouteProjection} {s : RouteSystem ι}

theorem RouteSystem.Reachable.sound (h : s.Reachable self calls) :
    Client.Sound routeDynamics (routeContract calls) (fun _ => RouteEnds Unsaid Unsaid)
      s := by
  have hempty : RouteWorldInv calls (RouteWorld.empty : RouteWorld ι) := .empty
  have hstart : Client.Sound routeDynamics (routeContract calls)
      (fun _ => RouteEnds Unsaid Unsaid) (RouteSystem.start self calls) :=
    ⟨hempty, fun _ => meets_routeCall self hempty⟩
  exact hstart.reaches tolerates_route h

theorem RouteSystem.Reachable.inv (h : s.Reachable self calls) : RouteWorldInv calls s.world :=
  h.sound.inv

end

end Turnstile
