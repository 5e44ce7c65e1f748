import Turnstile.Services.RouteStagingRules

/-!
# The rules of activations

An activation is prepared from the rows that were read with their tags and from a
snapshot that was read back.  Its intent is recorded, its batch is sent once, and what
became of it is recorded.
-/

namespace Turnstile

open Guard

section

variable {ι : Type} {calls : ι → RouteCall} {i : ι} {w : RouteWorld ι} {σ : Type}
  {journal : RouteJournal RouteActivationIntent σ} {Open : σ → RouteWorld ι → Prop}
  {Holds : σ → RouteActivationIntent → RouteWorld ι → Prop} {object : σ}

theorem PreparedActivation.sendable {intent : RouteActivationIntent}
    (h : PreparedActivation calls w i intent) : Sendable calls activationView w i intent := by
  have hwrites := (RouteActivationIntent.toRecord_eq_ok h.recorded).2.writes
  refine ⟨h.row, fun x hx etag hetag => ?_, ?_⟩
  · change x ∈ intent.body.writes at hx
    rw [hwrites, RouteActivationIntent.writerWrites, RouteActivationIntent.headWrites] at hx
    rcases List.mem_append.1 hx with hx | hx
    · obtain ⟨-, hnone, -⟩ | ⟨before, after, etag', hbefore, hafter, hetag', -⟩ :=
        (RouteActivationIntent.toRecord_eq_ok h.recorded).2.writer
      · rw [hnone] at hx
        cases hx
      · rw [hafter] at hx
        obtain rfl := List.mem_singleton.1 hx
        obtain ⟨seenTag, hseenTag, hseen⟩ := (h.writer before hbefore).seen
        obtain rfl : seenTag = etag := Option.some.inj (hseenTag.symm.trans hetag)
        exact hseen.1
    · rcases List.mem_cons.1 hx with rfl | hx
      · obtain ⟨head, hseen, -⟩ := h.active etag hetag
        exact hseen.1
      · obtain rfl := List.mem_singleton.1 hx
        cases hetag
  · show RouteRow.transition _ ∈ intent.body.writes.map Write.key
    rw [hwrites, RouteActivationIntent.headWrites]
    simp

/-- The intent of a prepared activation is recorded and its batch is sent once. -/
theorem meets_dispatchActivation {self : RouteProjection} {intent : RouteActivationIntent}
    {dispatchable : ℤ → Except RouteError Unit}
    (hjournal : KeepsJournal calls i activationView journal Open Holds)
    (hw : RouteWorldInv calls w) (hopen : Open object w)
    (h : ∀ record, intent.toRecord = .ok record → PreparedActivation calls w i intent) :
    RouteMeets calls i Unsaid Unsaid (dispatchActivation self intent dispatchable journal object)
      w := by
  refine meets_lifted (fun record hrecord => ?_) fun _ _ _ _ => trivial
  have hprepared := h record hrecord
  refine meets_begin hjournal hw hopen (.activation _ hprepared) hprepared.sendable
    fun object' w₁ _ hready₁ => ?_
  refine meets_now fun dispatchAt w₂ hr₂ hw₂ => ?_
  have hready₂ := hready₁.relies hjournal hr₂
  have hexpire :
      RouteMeets calls i (fun _ => ReadyToSend calls i activationView Holds object' intent)
      Unsaid ((Client.lift (dispatchable dispatchAt)).handle fun e =>
        if e.isValueError = true then
          journal.recordOutcome object' intent.receipt.operationId .expiredBeforeDispatch >>=
            fun _ =>
            Client.raise e
        else Client.raise e) w₂ := by
    cases dispatchable dispatchAt with
    | ok u => exact meets_ended fun w' hr _ => hready₂.relies hjournal hr
    | error e => exact hready₂.meets_expire hjournal hw₂ e
  refine RouteMeets.bind hw₂ hexpire fun _ w₃ hw₃ hready₃ => ?_
  refine hready₃.meets_submit hjournal fun answer w₄ hw₄ hholds htagged => ?_
  cases answer with
  | refused => exact meets_recordRaise hjournal hw₄ hholds (fun _ _ => .of_silent (by decide)) _
  | lost => exact meets_recordRaise hjournal hw₄ hholds (fun _ _ => .of_silent (by decide)) _
  | applied =>
      refine RouteMeets.bind hw₄ (RouteMeets.handle hw₄ ((meets_recoverActivation hw₄
        (OperationIdsPromised calls) fun _ => htagged).frame (hjournal.holds object' _) hholds)
          fun e w₅ hw₅ hfailed =>
          meets_recordRaise hjournal hw₅ hfailed.2 (fun _ _ => .of_silent (by decide)) _)
        fun outcome w₅ hw₅ hfound => ?_
      obtain ⟨hverdict, hholds₅⟩ := hfound
      refine RouteMeets.bind hw₅ (hjournal.record hw₅ hholds₅ fun hp hknown =>
        hverdict.reports hw₅ hp hknown) fun _ w₆ _ _ => ?_
      split
      next => exact meets_ended fun _ _ _ => trivial
      next => exact meets_failed fun _ _ _ => trivial

/-! ## Activations -/

/-- What is known when an activation builds its intent. -/
structure Verified (calls : ι → RouteCall) (i : ι) (snapshot : RouteSnapshot)
    (writer : Option (RouteWriterState × ℕ)) (current : Option (ActiveRouteHead × ℕ))
    (w : RouteWorld ι) : Prop where
  valid : ∃ instant, snapshot.requireValid instant = .ok ()
  read : ∀ e ∈ snapshot.entities, ReadBack w e
  writer : ∀ state etag, writer = some (state, etag) →
    w.table.Seen (.root .writer) ⟨.record (.writer state), etag⟩
  active : ∀ head etag, current = some (head, etag) →
    w.table.Seen (.root .active) ⟨.record (.active head), etag⟩

theorem stays_verified (snapshot : RouteSnapshot) (writer : Option (RouteWriterState × ℕ))
    (current : Option (ActiveRouteHead × ℕ)) :
    Stays (ι := ι) (Verified calls i snapshot writer current) :=
  fun _ _ _ hc h => ⟨h.valid, fun e he => (h.read e he).mono hc,
    fun state etag hs => (h.writer state etag hs).of_evolves hc.table,
    fun head etag hs => (h.active head etag hs).of_evolves hc.table⟩

theorem writerAfterActivation_eq_ok {self : RouteProjection} {state after : RouteWriterState}
    {current : Option ActiveRouteHead} {generation : ℕ} {head : ActiveRouteHead}
    {pending : RoutePendingActivation} {instant : ℤ}
    (h : writerAfterActivation self state current generation head pending instant = .ok after) :
    state.pending = some pending := by
  obtain ⟨-, h⟩ := check_bind_eq_ok.1 h
  obtain ⟨hchecks, -⟩ := require_bind_eq_ok.1 h
  exact hchecks.2.2.2

theorem Verified.prepared {self : RouteProjection} {snapshot : RouteSnapshot}
    {operationId boundary : UUID} {head : ActiveRouteHead}
    {writer : Option (RouteWriterState × ℕ)} {writerAfter : Option RouteWriterState}
    {current : Option (ActiveRouteHead × ℕ)}
    (h : Verified calls i snapshot writer current w)
    (hrow : (calls i).receiptRow? = some (.transition operationId))
    (hcall : ∀ c, writer = some c → ∃ a, calls i = .activate a ∧ a.withWriter = true ∧
      a.snapshot = snapshot)
    (hhead : head.approval = snapshot.approval)
    (hpending : ∀ state etag, writer = some (state, etag) →
      ∃ pending, state.pending = some pending ∧ pending.snapshotSha256 = ⟨snapshot⟩)
    {record : RouteActivationIntent}
    (hrecord : (activationIntent self operationId boundary (current.map Prod.snd)
      ((current.map fun c => c.1.approval.generation).getD 0) head writer writerAfter).toRecord =
        .ok record) :
    PreparedActivation calls w i (activationIntent self operationId boundary
      (current.map Prod.snd) ((current.map fun c => c.1.approval.generation).getD 0) head writer
      writerAfter) := by
  obtain ⟨rfl, -⟩ := RouteActivationIntent.toRecord_eq_ok hrecord
  refine ⟨hrecord, hrow, fun etag hetag => ?_, fun state hstate => ?_,
    ⟨snapshot, hhead.symm, h.valid, h.read⟩⟩
  · obtain ⟨c, rfl, rfl⟩ := Option.map_eq_some_iff.1 hetag
    exact ⟨c.1, h.active _ _ rfl, rfl⟩
  · obtain ⟨c, rfl, rfl⟩ := Option.map_eq_some_iff.1 hstate
    obtain ⟨a, ha, hwith, rfl⟩ := hcall c rfl
    obtain ⟨pending, hp, hsha⟩ := hpending _ _ rfl
    exact ⟨⟨c.2, rfl, h.writer _ _ rfl⟩, a, pending, ha, hwith, hp, hsha, h.read⟩

/-- The end of `activate`: there is no receipt yet, and the intent is dispatched. -/
def activatePrepared (self : RouteProjection) (snapshot : RouteSnapshot)
    (identity : ProgramIdentity) (proof : ProgramCapabilityProof)
    (budgetEpoch operationId boundary : UUID) (expectedEtag : Option ℕ)
    (journal : RouteJournal RouteActivationIntent σ) (object : σ)
    (writer : Option (RouteWriterState × ℕ)) (generation : ℕ) (head : ActiveRouteHead)
    (writerAfter : Option RouteWriterState) : RouteClient σ := do
  let previous ← (readDocument (.root (.transition operationId))).handle fun _ =>
    Client.raise (.unknown "ROUTE_TRANSITION_UNCERTAIN_RECOVER_ONLY")
  if previous = none then pure ()
  else Client.raise (.conflict "ROUTE_TRANSITION_ALREADY_EXISTS_RECOVER_ONLY")
  dispatchActivation self
    (activationIntent self operationId boundary expectedEtag generation head writer writerAfter)
    (requireDispatchable snapshot identity proof budgetEpoch head (writer.map Prod.fst))
    journal object

/-- `activate` once the snapshot was verified. -/
def activateVerified (self : RouteProjection) (snapshot : RouteSnapshot)
    (identity : ProgramIdentity) (proof : ProgramCapabilityProof)
    (budgetEpoch operationId boundary : UUID) (expectedEtag : Option ℕ)
    (journal : RouteJournal RouteActivationIntent σ) (object : σ)
    (writer : Option (RouteWriterState × ℕ)) : RouteClient σ := do
  let observedWriter ← readWriter self
  if writer = none ∧ observedWriter ≠ none then
    Client.raise (.conflict "ROUTE_ACTIVATION_WRITER_REQUIRED")
  else pure ()
  if writer ≠ none ∧ observedWriter ≠ writer then
    Client.raise (.conflict "ROUTE_ACTIVATION_WRITER_ETAG_CHANGED")
  else pure ()
  let current ← readActive self
  if current.map Prod.snd = expectedEtag then pure ()
  else Client.raise (.conflict "ROUTE_ACTIVATION_ETAG_CHANGED")
  let generation := (current.map fun c => c.1.approval.generation).getD 0
  if h : snapshot.approval.generation = generation + 1 then do
    let instant ← now
    let head ← Client.lift (ActiveRouteHead.modelValidate snapshot.approval instant)
    Client.lift (head.requireReady identity proof budgetEpoch instant true)
    Client.lift (snapshot.requireValid instant)
    let writerAfter ← match writer with
      | none => pure none
      | some (state, _) => do
          let after ← Client.lift
              (writerAfterActivation self state (current.map Prod.fst) generation
            head ⟨operationId, generation, snapshot.approval, ⟨snapshot⟩, h⟩ instant)
          pure (some after)
    activatePrepared self snapshot identity proof budgetEpoch operationId boundary expectedEtag
      journal object writer generation head writerAfter
  else Client.raise (.conflict "ROUTE_ACTIVATION_GENERATION_INVALID")

theorem activate_eq (self : RouteProjection) (snapshot : RouteSnapshot)
    (identity : ProgramIdentity) (proof : ProgramCapabilityProof)
    (budgetEpoch operationId boundary : UUID) (expectedEtag : Option ℕ)
    (journal : RouteJournal RouteActivationIntent σ) (object : σ)
    (writer : Option (RouteWriterState × ℕ)) :
    activate self snapshot identity proof budgetEpoch operationId boundary expectedEtag journal
      object writer = now >>= fun checkedAt =>
        (if writer.isSome then requireVerifiedSnapshot self snapshot checkedAt
        else verifySnapshot self snapshot checkedAt) >>= fun _ =>
          activateVerified self snapshot identity proof budgetEpoch operationId boundary
            expectedEtag journal object writer := by
  cases writer <;> rfl

/-- What the verification of a snapshot establishes. -/
theorem meets_verify {self : RouteProjection} {snapshot : RouteSnapshot} {checkedAt : ℤ}
    {withWriter : Bool} (hw : RouteWorldInv calls w) :
    RouteMeets calls i (fun _ w' => (∃ instant, snapshot.requireValid instant = .ok ()) ∧
      ∀ e ∈ snapshot.entities, ReadBack w' e) Unsaid
      (if withWriter then requireVerifiedSnapshot self snapshot checkedAt
      else verifySnapshot self snapshot checkedAt) w := by
  split
  next => exact meets_requireVerifiedSnapshot
  next => exact meets_verifySnapshot hw

/-- A receipt is looked for, and a read that fails is reported. -/
theorem meets_readOr {key : RouteKey} {e : RouteError} (hw : RouteWorldInv calls w) :
    RouteMeets calls i Unsaid Unsaid
      ((readDocument key).handle fun _ => Client.raise e) w := by
  have hread : RouteMeets calls i Unsaid Unsaid (readDocument key) w := by
    rw [← Client.bind_pure (readDocument key)]
    exact meets_read (fun _ _ _ _ _ => meets_ended fun _ _ _ => trivial) fun _ _ _ _ => trivial
  exact hread.handle hw fun _ _ _ _ => meets_failed fun _ _ _ => trivial

section

variable {self : RouteProjection} {snapshot : RouteSnapshot} {identity : ProgramIdentity}
  {proof : ProgramCapabilityProof} {budgetEpoch operationId boundary : UUID}
  {expectedEtag : Option ℕ} {writer : Option (RouteWriterState × ℕ)}
  (hjournal : KeepsJournal calls i activationView journal Open Holds)
  (hrow : (calls i).receiptRow? = some (.transition operationId))
  (hcall : ∀ c, writer = some c → ∃ a, calls i = .activate a ∧ a.withWriter = true ∧
    a.snapshot = snapshot)

include hjournal hrow hcall

theorem meets_activatePrepared (hw : RouteWorldInv calls w) (hopen : Open object w)
    {current : Option (ActiveRouteHead × ℕ)} {head : ActiveRouteHead}
    {writerAfter : Option RouteWriterState} (h : Verified calls i snapshot writer current w)
    (hhead : head.approval = snapshot.approval)
    (hpending : ∀ state etag, writer = some (state, etag) →
      ∃ pending, state.pending = some pending ∧ pending.snapshotSha256 = ⟨snapshot⟩) :
    RouteMeets calls i Unsaid Unsaid
      (activatePrepared self snapshot identity proof budgetEpoch operationId boundary
        (current.map Prod.snd) journal object writer
        ((current.map fun c => c.1.approval.generation).getD 0) head writerAfter) w := by
  have hstays : Stays fun w' => Open object w' ∧ Verified calls i snapshot writer current w' :=
    fun _ _ _ hc hs => ⟨hjournal.opens _ _ _ _ hc hs.1, stays_verified _ _ _ _ _ _ hc hs.2⟩
  refine RouteMeets.bind hw (((meets_readOr hw).frame hstays ⟨hopen, h⟩).weaken
    (fun _ _ _ h => h) fun _ _ _ _ => trivial) fun previous w₁ hw₁ hfound => ?_
  obtain ⟨-, hopen₁, h₁⟩ := hfound
  dsimp only
  split
  next =>
    exact meets_dispatchActivation hjournal hw₁ hopen₁ fun record hrecord =>
      h₁.prepared hrow hcall hhead hpending hrecord
  next => exact meets_failed fun _ _ _ => trivial

theorem meets_activateVerified (hopen : Open object w)
    (hvalid : ∃ instant, snapshot.requireValid instant = .ok ())
    (hread : ∀ e ∈ snapshot.entities, ReadBack w e) :
    RouteMeets calls i Unsaid Unsaid
      (activateVerified self snapshot identity proof budgetEpoch operationId boundary expectedEtag
        journal object writer) w := by
  have hraise : ∀ (e : RouteError) w', RouteMeets calls i (fun (_ : σ) _ => True) Unsaid
      (Client.raise e) w' := fun e w' => meets_failed fun _ _ _ => trivial
  unfold activateVerified
  refine meets_readWriter (fun observed w₁ hr₁ hw₁ hobserved => ?_) fun _ _ _ _ => trivial
  dsimp only
  split
  next => exact hraise _ _
  next =>
    split
    next => exact hraise _ _
    next hsame =>
      refine meets_readActive (fun current w₂ hr₂ hw₂ hactive => ?_) fun _ _ _ _ => trivial
      split
      next hetag =>
        split
        next hgeneration =>
          refine meets_now fun instant w₃ hr₃ hw₃ => ?_
          refine meets_lifted (fun head hhead => ?_) fun _ _ _ _ => trivial
          refine meets_lifted (fun _ _ => ?_) fun _ _ _ _ => trivial
          refine meets_lifted (fun _ _ => ?_) fun _ _ _ _ => trivial
          have hverified : Verified calls i snapshot writer current w₃ := by
            have hr := hr₁.trans (hr₂.trans hr₃)
            obtain ⟨recent, hc⟩ := hr.continues
            obtain ⟨recent₂, hc₂⟩ := (hr₂.trans hr₃).continues
            obtain ⟨recent₃, hc₃⟩ := hr₃.continues
            refine ⟨hvalid, fun e he => (hread e he).mono hc, fun state etag hs => ?_,
              fun head etag hs => ?_⟩
            · have hobs : observed = some (state, etag) := by
                by_contra hne
                exact hsame ⟨by rw [hs]; exact Option.some_ne_none _, by rw [hs]; exact hne⟩
              rw [hobs] at hobserved
              exact (hobserved.seen hw₁).of_evolves hc₂.table
            · rw [hs] at hactive
              exact (hactive.seen hw₂).of_evolves hc₃.table
          have hopen₃ := (hjournal.opens object).relies (hr₁.trans (hr₂.trans hr₃)) hopen
          have happroval : head.approval = snapshot.approval := by
            unfold ActiveRouteHead.modelValidate at hhead
            split at hhead
            next =>
              obtain rfl := Except.ok.inj hhead
              rfl
            next => cases hhead
          rw [← hetag]
          cases writer with
          | none =>
              exact meets_activatePrepared hjournal hrow hcall hw₃ hopen₃ hverified happroval
                fun _ _ hs => by cases hs
          | some c =>
              refine meets_lifted (fun after hafter => ?_) fun _ _ _ _ => trivial
              refine meets_activatePrepared hjournal hrow hcall hw₃ hopen₃ hverified happroval
                fun state etag hs => ?_
              obtain rfl := Option.some.inj hs
              exact ⟨_, writerAfterActivation_eq_ok hafter, rfl⟩
        next => exact hraise _ _
      next => exact hraise _ _

/-- An activation sends its batch for a snapshot that was read back. -/
theorem meets_activate (hopen : Open object w) :
    RouteMeets calls i Unsaid Unsaid
      (activate self snapshot identity proof budgetEpoch operationId boundary expectedEtag journal
        object writer) w := by
  rw [activate_eq]
  refine meets_now fun checkedAt w₁ hr₁ hw₁ => ?_
  refine RouteMeets.bind hw₁ (((meets_verify hw₁).frame (hjournal.opens object)
    ((hjournal.opens object).relies hr₁ hopen)).weaken (fun _ _ _ h => h) fun _ _ _ _ => trivial)
    fun _ w₂ hw₂ hverified => ?_
  obtain ⟨⟨hvalid, hread⟩, hopen₂⟩ := hverified
  exact meets_activateVerified hjournal hrow hcall hopen₂ hvalid hread

end

end

end Turnstile
