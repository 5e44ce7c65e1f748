import Turnstile.Integrations.RouteWorld

/-!
# The route projection

The requests that `TableRouteProjection` makes, operation by operation.  A journal is
passed to the operations that record an intent; they thread its object.
-/

namespace Turnstile

open Guard

/-- The configuration of a projection; `uuid5` derives identifiers. -/
structure RouteProjection where
  target : RouteTarget
  scope : RouteScope
  uuid5 : UUID → String → UUID

/-- A journal with objects `σ` for intents `β`. -/
structure RouteJournal (β σ : Type) where
  beginOnce : σ → β → RouteClient σ
  recordOutcome : σ → UUID → RouteOutcome → RouteClient Unit

/-! ## Requests -/

/-- `now()`. -/
def now : RouteClient ℤ := .call .clock fun time => .done (.ok time)

/-- `_read_document`. -/
def readDocument (key : RouteKey) : RouteClient (Option (Row RouteDocument)) :=
  .call (.read key) fun
    | some row => .done (.ok row)
    | none => .done (.error .http)

def submit (s : RouteSubmission) : RouteClient SubmitAnswer :=
  .call (.submit s) fun answer => .done (.ok answer)

/-- `conditional_batch`, with the boundary it draws. -/
def conditionalBatch (self : RouteProjection) (boundary : UUID)
    (writes : List (Write RouteRow RouteRecord)) : RouteBatch :=
  ⟨self.target, self.scope, boundary, writes⟩

/-! ## Staging and reading back -/

/-- `_stage_entity`. -/
def stageEntity (entity : RouteEntity) (checkExisting : Bool) : RouteClient Unit := do
  let existing ← if checkExisting then readDocument entity.key else pure none
  match existing with
  | some row =>
      if row.document = entity.document then pure ()
      else Client.raise (.conflict "ROUTE_IMMUTABLE_ENTITY_CONFLICT")
  | none => do
      let answer ← submit (.entity entity.key entity.document)
      match answer with
      | .lost => Client.raise (.unknown "ROUTE_CREATE_NOT_CONFIRMED")
      | _ => do
          let readback ← readDocument entity.key
          if readback.map Row.document = some entity.document then pure ()
          else Client.raise (.conflict "ROUTE_IMMUTABLE_READBACK_DIFFERS")

/-- `_snapshot_entities`. -/
def snapshotEntities (self : RouteProjection) (snapshot : RouteSnapshot) (checkedAt : ℤ) :
    Except RouteError (List RouteEntity) := do
  snapshot.requireValid checkedAt
  require (snapshot.approval.scope = self.scope) (.conflict "ROUTE_SNAPSHOT_SCOPE_MISMATCH")
  pure snapshot.entities

/-- `_slice_end`. -/
def sliceEnd (cursor maximum : ℤ) (count : ℕ) : Except RouteError ℕ := do
  require (0 ≤ cursor ∧ cursor ≤ count ∧ 1 ≤ maximum ∧ maximum ≤ 100)
    (.value "ROUTE_PROJECTION_SLICE_INVALID")
  pure (min (count : ℤ) (cursor + maximum)).toNat

/-- `entities[cursor:end]`. -/
def slice (entities : List RouteEntity) (cursor : ℤ) (stop : ℕ) : List RouteEntity :=
  (entities.take stop).drop cursor.toNat

/-- `stage_slice`. -/
def stageSlice (self : RouteProjection) (snapshot : RouteSnapshot) (checkedAt cursor maximum : ℤ) :
    RouteClient ℕ := do
  let entities ← Client.lift (snapshotEntities self snapshot checkedAt)
  let stop ← Client.lift (sliceEnd cursor maximum entities.length)
  let batch := slice entities cursor stop
  Client.each (fun entity =>
    stageEntity entity (batch.length ≤ 3 || entity.key.partition = .contents)) batch
  pure stop

/-- Read an entity back. -/
def verifyEntity (entity : RouteEntity) : RouteClient Unit := do
  let observed ← readDocument entity.key
  if observed.map Row.document = some entity.document then pure ()
  else Client.raise (.conflict "ROUTE_SNAPSHOT_READBACK_INCOMPLETE")

/-- `verify_slice`. -/
def verifySlice (self : RouteProjection) (snapshot : RouteSnapshot) (checkedAt cursor maximum : ℤ) :
    RouteClient ℕ := do
  let entities ← Client.lift (snapshotEntities self snapshot checkedAt)
  let stop ← Client.lift (sliceEnd cursor maximum entities.length)
  Client.each verifyEntity (slice entities cursor stop)
  pure stop

/-- `_readback_receipt`. -/
def readbackReceipt (snapshot : RouteSnapshot) (cursor : ℕ) : RouteEntity where
  key := .root (.readback snapshot.configurationSha256 cursor)
  document := .readback ⟨snapshot.approval.scope, snapshot.configurationSha256, cursor,
    3 * snapshot.routes.length⟩

/-- Require the receipt at a cursor. -/
def requireReceipt (snapshot : RouteSnapshot) (cursor : ℕ) (code : String) : RouteClient Unit := do
  let receipt := readbackReceipt snapshot cursor
  let observed ← readDocument receipt.key
  if observed.map Row.document = some receipt.document then pure ()
  else Client.raise (.conflict code)

/-- `verify_slice_recorded`. -/
def verifySliceRecorded (self : RouteProjection) (snapshot : RouteSnapshot)
    (checkedAt cursor maximum : ℤ) : RouteClient ℕ := do
  Client.lift (snapshot.requireValid checkedAt)
  let _ ← Client.lift (sliceEnd cursor maximum (3 * snapshot.routes.length))
  if cursor ≠ 0 then
    requireReceipt snapshot cursor.toNat "ROUTE_PREVIOUS_READBACK_RECEIPT_MISSING"
  else pure ()
  let stop ← verifySlice self snapshot checkedAt cursor maximum
  stageEntity (readbackReceipt snapshot stop) true
  pure stop

/-- `require_verified_snapshot`. -/
def requireVerifiedSnapshot (self : RouteProjection) (snapshot : RouteSnapshot) (checkedAt : ℤ) :
    RouteClient Unit := do
  Client.lift (snapshot.requireValid checkedAt)
  Client.lift (require (snapshot.approval.scope = self.scope)
    (.conflict "ROUTE_SNAPSHOT_SCOPE_MISMATCH"))
  requireReceipt snapshot (3 * snapshot.routes.length) "ROUTE_FINAL_READBACK_RECEIPT_MISSING"

/-- `verify_snapshot`. -/
def verifySnapshot (self : RouteProjection) (snapshot : RouteSnapshot) (checkedAt : ℤ) :
    RouteClient Unit := do
  let entities ← Client.lift (snapshotEntities self snapshot checkedAt)
  Client.each verifyEntity entities

/-- `stage`. -/
def stage (self : RouteProjection) (snapshot : RouteSnapshot) (checkedAt : ℤ) :
    RouteClient Unit := do
  let entities ← Client.lift (snapshotEntities self snapshot checkedAt)
  Client.each (fun entity => stageEntity entity true) entities
  verifySnapshot self snapshot checkedAt

/-- `stage_model_addition`. -/
def stageModelAddition (self : RouteProjection) (addition : ModelRouteAddition) (checkedAt : ℤ) :
    RouteClient Unit := do
  Client.lift (require (addition.program.scope = self.scope)
    (.conflict "MODEL_ADDITION_SCOPE_CHANGED"))
  match addition.snapshot.routes with
  | [] => Client.raise (.value "MODEL_ADDITION_REQUIRES_SINGLE_MODEL")
  | route :: _ => do
      let existing ← readDocument (.root (.model (memberRow route.routeAlias)))
      if existing = none then pure ()
      else Client.raise (.conflict "MODEL_ADDITION_ALREADY_ACTIVE")
      let entities ← Client.lift (snapshotEntities self addition.snapshot checkedAt)
      Client.each (fun entity => stageEntity entity true) entities
      let _ ← verifySliceRecorded self addition.snapshot checkedAt 0 3
      pure ()

/-! ## The writer row -/

/-- `read_active`. -/
def readActive (self : RouteProjection) : RouteClient (Option (ActiveRouteHead × ℕ)) := do
  let observed ← readDocument (.root .active)
  match observed with
  | none => pure none
  | some ⟨.record (.active head), etag⟩ =>
      if head.approval.scope = self.scope then pure (some (head, etag))
      else Client.raise (.conflict "ROUTE_ACTIVE_SCOPE_MISMATCH")
  | some _ => Client.raise (.value "ROUTE_DOCUMENT_INVALID")

/-- `read_writer`. -/
def readWriter (self : RouteProjection) : RouteClient (Option (RouteWriterState × ℕ)) := do
  let observed ← readDocument (.root .writer)
  match observed with
  | none => pure none
  | some ⟨.record (.writer state), etag⟩ =>
      if state.scope = self.scope then pure (some (state, etag))
      else Client.raise (.conflict "ROUTE_WRITER_SCOPE_MISMATCH")
  | some _ => Client.raise (.value "ROUTE_DOCUMENT_INVALID")

/-- What a receipt row says of an intent. -/
def verdict (observed receipt : RouteDocument) : RouteOutcome :=
  if observed = receipt then .confirmed else .conflict

/-- `recover_writer`. -/
def recoverWriter (self : RouteProjection) (intent : RouteWriterIntent) :
    RouteClient RouteOutcome := do
  let _ ← Client.lift intent.toRecord
  Client.lift (require (intent.receipt.scope = self.scope ∧ intent.target = self.target)
    (.conflict "ROUTE_WRITER_RECOVERY_TARGET_CHANGED"))
  let row := RouteKey.root (.writerTransition intent.receipt.operationId)
  let receipt := RouteDocument.record (.writerReceipt intent.receipt)
  let observed ← readDocument row
  match observed with
  | some r => pure (verdict r.document receipt)
  | none => do
      let current ← readWriter self
      match current with
      | none => pure .unknown
      | some (_, etag) =>
          if some etag = intent.receipt.beforeEtag then pure .unknown
          else do
            let second ← readDocument row
            match second with
            | some r => pure (verdict r.document receipt)
            | none => pure .notAppliedFenced

/-- The owner is still the owner, of the new state and, where it keeps its lease, of the
old one. -/
def requireLive (before : Option RouteWriterState) (after : RouteWriterState)
    (kind : RouteWriterKind) : RouteClient Unit := do
  let instant ← now
  Client.lift (after.requireOwner after.ownerToken after.publicationId instant)
  match before with
  | none => pure ()
  | some state =>
      if kind = .takeover ∨ kind = .claim then pure ()
      else do
        let instant ← now
        Client.lift (state.requireOwner after.ownerToken after.publicationId instant)

section

variable {σ : Type}

/-- The intent of `_change_writer`. -/
def writerIntent (self : RouteProjection) (before : Option (RouteWriterState × ℕ))
    (after : RouteWriterState) (kind : RouteWriterKind) (operationId boundary : UUID) :
    RouteWriterIntent :=
  let receipt : RouteWriterReceipt :=
    { operationId := operationId
      scope := self.scope
      kind := kind
      beforeEtag := before.map Prod.snd
      beforeSha256 := before.map fun b => ⟨b.1⟩
      afterSha256 := ⟨after⟩
      ownerToken := after.ownerToken
      writerEpoch := after.writerEpoch }
  let body := conditionalBatch self boundary
    [⟨.writer, .writer after, receipt.beforeEtag⟩,
      ⟨.writerTransition operationId, .writerReceipt receipt, none⟩]
  ⟨receipt, before.map Prod.fst, after, body, ⟨body⟩, self.target⟩

/-- `_change_writer`. -/
def changeWriter (self : RouteProjection) (before : Option (RouteWriterState × ℕ))
    (after : RouteWriterState) (kind : RouteWriterKind) (operationId boundary : UUID)
    (journal : RouteJournal RouteWriterIntent σ) (object : σ) :
    RouteClient (RouteWriterState × ℕ) := do
  let existing ← readDocument (.root (.writerTransition operationId))
  if existing = none then pure ()
  else Client.raise (.conflict "ROUTE_WRITER_TRANSITION_EXISTS_RECOVER_ONLY")
  let intent := writerIntent self before after kind operationId boundary
  let _ ← Client.lift intent.toRecord
  let object ← journal.beginOnce object intent
  (requireLive (before.map Prod.fst) after kind).handle fun e =>
    if e.isValueError then do
      journal.recordOutcome object operationId .expiredBeforeDispatch
      Client.raise e
    else Client.raise e
  let answer ← submit (.batch intent.body)
  match answer with
  | .refused => do
      journal.recordOutcome object operationId .conditionalConflict
      Client.raise (.conflict "ROUTE_WRITER_CONFLICT")
  | .lost => do
      journal.recordOutcome object operationId .unknownNoReplay
      Client.raise (.unknown "ROUTE_WRITER_UNKNOWN_RECOVER_ONLY")
  | .applied => do
      let outcome ← recoverWriter self intent
      journal.recordOutcome object operationId outcome
      if outcome = .confirmed then pure ()
      else Client.raise (.unknown "ROUTE_WRITER_RECEIPT_NOT_CONFIRMED")
      let current ← readWriter self
      match current with
      | none => Client.raise (.conflict "ROUTE_WRITER_ALREADY_SUPERSEDED")
      | some (state, etag) =>
          if state = after then do
            let instant ← now
            Client.lift (state.requireOwner after.ownerToken after.publicationId instant)
            pure (state, etag)
          else Client.raise (.conflict "ROUTE_WRITER_ALREADY_SUPERSEDED")

/-- What `claim_writer` writes. -/
def claimedState (self : RouteProjection) (ownerToken publicationId : UUID)
    (active : Option (ActiveRouteHead × ℕ)) (instant : ℤ) : RouteWriterFields where
  scope := self.scope
  ownerToken := ownerToken
  publicationId := publicationId
  writerEpoch := 1
  leasedEpoch := instant
  leaseUntilEpoch := instant + 30
  activeGeneration := (active.map fun a => a.1.approval.generation).getD 0
  activeVersion := active.map fun a => a.1.approval.routeVersion
  activeSha256 := active.map fun a => ⟨a.1⟩
  pending := none

/-- `claim_writer`. -/
def claimWriter (self : RouteProjection) (ownerToken publicationId operationId boundary : UUID)
    (journal : RouteJournal RouteWriterIntent σ) (object : σ) :
    RouteClient (RouteWriterState × ℕ) := do
  let current ← readWriter self
  if current = none then pure ()
  else Client.raise (.conflict "ROUTE_WRITER_EXISTS_USE_TAKEOVER")
  let active ← readActive self
  let instant ← now
  let state ← Client.lift
    (RouteWriterState.modelValidate (claimedState self ownerToken publicationId active instant))
  changeWriter self none state .claim operationId boundary journal object

/-- `takeover_writer`. -/
def takeoverWriter (self : RouteProjection) (current : RouteWriterState × ℕ)
    (ownerToken publicationId operationId boundary : UUID)
    (journal : RouteJournal RouteWriterIntent σ) (object : σ) :
    RouteClient (RouteWriterState × ℕ) := do
  let instant ← now
  let after ← Client.lift (current.1.takeover ownerToken publicationId instant)
  changeWriter self (some current) after .takeover operationId boundary journal object

/-- `renew_writer`. -/
def renewWriter (self : RouteProjection) (current : RouteWriterState × ℕ)
    (ownerToken publicationId operationId boundary : UUID)
    (journal : RouteJournal RouteWriterIntent σ) (object : σ) :
    RouteClient (RouteWriterState × ℕ) := do
  let instant ← now
  let after ← Client.lift (current.1.renew ownerToken publicationId instant)
  changeWriter self (some current) after .renew operationId boundary journal object

/-- `prepare_writer`. -/
def prepareWriter (self : RouteProjection) (current : RouteWriterState × ℕ)
    (pending : RoutePendingActivation) (ownerToken publicationId operationId boundary : UUID)
    (journal : RouteJournal RouteWriterIntent σ) (object : σ) :
    RouteClient (RouteWriterState × ℕ) := do
  let instant ← now
  let after ← Client.lift (current.1.prepare pending ownerToken publicationId instant)
  changeWriter self (some current) after .prepare operationId boundary journal object

/-- `abort_writer`. -/
def abortWriter (self : RouteProjection) (current : RouteWriterState × ℕ)
    (pending : RoutePendingActivation) (ownerToken publicationId operationId boundary : UUID)
    (journal : RouteJournal RouteWriterIntent σ) (object : σ) :
    RouteClient (RouteWriterState × ℕ) := do
  let instant ← now
  Client.lift (current.1.requireOwner ownerToken publicationId instant)
  Client.lift (require (current.1.pending = some pending)
    (.conflict "ROUTE_WRITER_ABORT_PENDING_CHANGED"))
  let after ← Client.lift current.1.withoutPending
  changeWriter self (some current) after .abort operationId boundary journal object

/-! ## The active row -/

/-- `recover`. -/
def recover (self : RouteProjection) (receipt : RouteTransitionReceipt) :
    RouteClient RouteOutcome := do
  Client.lift (require (receipt.scope = self.scope) (.conflict "ROUTE_RECEIPT_SCOPE_MISMATCH"))
  let row := RouteKey.root (.transition receipt.operationId)
  let document := RouteDocument.record (.receipt receipt)
  let observed ← readDocument row
  match observed with
  | some r => pure (verdict r.document document)
  | none => do
      let current ← readActive self
      match current with
      | none => pure .unknown
      | some (_, etag) =>
          if some etag = receipt.beforeEtag then pure .unknown
          else do
            let second ← readDocument row
            match second with
            | some r => pure (verdict r.document document)
            | none => pure .notAppliedFenced

/-- `recover_activation`. -/
def recoverActivation (self : RouteProjection) (intent : RouteActivationIntent) :
    RouteClient RouteOutcome := do
  let _ ← Client.lift intent.toRecord
  Client.lift (require (intent.target = self.target)
    (.conflict "ROUTE_ACTIVATION_RECOVERY_TARGET_CHANGED"))
  let outcome ← recover self intent.receipt
  match intent.writerEtag with
  | none => pure outcome
  | some writerEtag =>
      if outcome = .unknown then do
        let writer ← readWriter self
        match writer with
        | none => pure .unknown
        | some (_, etag) =>
            if etag = writerEtag then pure .unknown
            else do
              let observed ← readDocument (.root (.transition intent.receipt.operationId))
              match observed with
              | some r => pure (verdict r.document (.record (.receipt intent.receipt)))
              | none => pure .notAppliedFenced
      else pure outcome

/-- The head is still ready, and the owner still the owner. -/
def requireDispatchable (snapshot : RouteSnapshot) (identity : ProgramIdentity)
    (proof : ProgramCapabilityProof) (budgetEpoch : UUID) (head : ActiveRouteHead)
    (writer : Option RouteWriterState) (dispatchAt : ℤ) : Except RouteError Unit := do
  match writer with
  | none => pure ()
  | some state => state.requireOwner state.ownerToken state.publicationId dispatchAt
  head.requireReady identity proof budgetEpoch dispatchAt false
  snapshot.requireValid dispatchAt
  require (dispatchAt < head.approval.activateBeforeEpoch)
    (.conflict "ROUTE_ACTIVATION_WINDOW_EXPIRED")

/-- The intent of `activate`. -/
def activationIntent (self : RouteProjection) (operationId boundary : UUID)
    (expectedEtag : Option ℕ) (generation : ℕ) (head : ActiveRouteHead)
    (writer : Option (RouteWriterState × ℕ)) (writerAfter : Option RouteWriterState) :
    RouteActivationIntent :=
  let receipt : RouteTransitionReceipt :=
    { operationId := operationId
      scope := self.scope
      beforeEtag := expectedEtag
      beforeGeneration := generation
      afterSha256 := ⟨head⟩
      routeVersion := head.approval.routeVersion
      approvalId := head.approval.approvalId }
  let headWrites : List (Write RouteRow RouteRecord) :=
    [⟨.active, .active head, expectedEtag⟩, ⟨.transition operationId, .receipt receipt, none⟩]
  let writerWrites : List (Write RouteRow RouteRecord) :=
    match writer, writerAfter with
    | some (_, etag), some after => [⟨.writer, .writer after, some etag⟩]
    | _, _ => []
  let body := conditionalBatch self boundary (writerWrites ++ headWrites)
  ⟨receipt, head, body, ⟨body⟩, self.target, writer.map Prod.fst, writerAfter,
    writer.map Prod.snd⟩

/-- The state an activation leaves to the writer. -/
def writerAfterActivation (self : RouteProjection) (state : RouteWriterState)
    (current : Option ActiveRouteHead) (generation : ℕ) (head : ActiveRouteHead)
    (pending : RoutePendingActivation) (instant : ℤ) : Except RouteError RouteWriterState := do
  state.requireOwner state.ownerToken state.publicationId instant
  require (state.scope = self.scope ∧ state.activeGeneration = generation ∧
      state.activeSha256 = current.map Sha256.mk ∧ state.pending = some pending)
    (.conflict "ROUTE_ACTIVATION_PENDING_CHANGED")
  state.withActive head

/-- Record the intent of an activation, send its batch once and record what became of it. -/
def dispatchActivation (self : RouteProjection) (intent : RouteActivationIntent)
    (dispatchable : ℤ → Except RouteError Unit) (journal : RouteJournal RouteActivationIntent σ)
    (object : σ) : RouteClient σ := do
  let _ ← Client.lift intent.toRecord
  let object ← journal.beginOnce object intent
  let operationId := intent.receipt.operationId
  let dispatchAt ← now
  (Client.lift (dispatchable dispatchAt)).handle fun e =>
    if e.isValueError then do
      journal.recordOutcome object operationId .expiredBeforeDispatch
      Client.raise e
    else Client.raise e
  let answer ← submit (.batch intent.body)
  match answer with
  | .refused => do
      journal.recordOutcome object operationId .conditionalConflict
      Client.raise (.conflict "ROUTE_ACTIVATION_CONFLICT")
  | .lost => do
      journal.recordOutcome object operationId .unknownNoReplay
      Client.raise (.unknown "ROUTE_ACTIVATION_UNKNOWN_RECOVER_ONLY")
  | .applied => do
      let outcome ← (recoverActivation self intent).handle fun _ => do
        journal.recordOutcome object operationId .unknownNoReplay
        Client.raise (.unknown "ROUTE_ACTIVATION_RECEIPT_NOT_CONFIRMED")
      journal.recordOutcome object operationId outcome
      if outcome = .confirmed then pure object
      else Client.raise (.unknown "ROUTE_ACTIVATION_RECEIPT_NOT_CONFIRMED")

/-- `activate`; it returns the object of its journal. -/
def activate (self : RouteProjection) (snapshot : RouteSnapshot) (identity : ProgramIdentity)
    (proof : ProgramCapabilityProof) (budgetEpoch operationId boundary : UUID)
    (expectedEtag : Option ℕ) (journal : RouteJournal RouteActivationIntent σ) (object : σ)
    (writer : Option (RouteWriterState × ℕ)) : RouteClient σ := do
  let checkedAt ← now
  match writer with
  | some _ => requireVerifiedSnapshot self snapshot checkedAt
  | none => verifySnapshot self snapshot checkedAt
  let observedWriter ← readWriter self
  if writer = none ∧ observedWriter ≠ none then
    Client.raise (.conflict "ROUTE_ACTIVATION_WRITER_REQUIRED")
  else pure ()
  if writer ≠ none ∧ observedWriter ≠ writer then
    Client.raise (.conflict "ROUTE_ACTIVATION_WRITER_ETAG_CHANGED")
  else pure ()
  let current ← readActive self
  if current.map Prod.snd = expectedEtag then pure ()
  else Client.raise (.conflict "ROUTE_ACTIVATION_ETAG_CHANGED")
  let generation := (current.map fun c => c.1.approval.generation).getD 0
  if h : snapshot.approval.generation = generation + 1 then do
    let instant ← now
    let head ← Client.lift (ActiveRouteHead.modelValidate snapshot.approval instant)
    Client.lift (head.requireReady identity proof budgetEpoch instant true)
    Client.lift (snapshot.requireValid instant)
    let writerAfter ← match writer with
      | none => pure none
      | some (state, _) => do
          let after ← Client.lift
              (writerAfterActivation self state (current.map Prod.fst) generation
            head ⟨operationId, generation, snapshot.approval, ⟨snapshot⟩, h⟩ instant)
          pure (some after)
    let previous ← (readDocument (.root (.transition operationId))).handle fun _ =>
      Client.raise (.unknown "ROUTE_TRANSITION_UNCERTAIN_RECOVER_ONLY")
    if previous = none then pure ()
    else Client.raise (.conflict "ROUTE_TRANSITION_ALREADY_EXISTS_RECOVER_ONLY")
    dispatchActivation self
      (activationIntent self operationId boundary expectedEtag generation head writer writerAfter)
      (requireDispatchable snapshot identity proof budgetEpoch head (writer.map Prod.fst))
      journal object
  else Client.raise (.conflict "ROUTE_ACTIVATION_GENERATION_INVALID")

/-! ## Initialization -/

/-- The journal of `initialize_empty_scope`; its object is the head it began with. -/
def initializationJournal (operationId : UUID) :
    RouteJournal RouteActivationIntent (Option ActiveRouteHead) where
  beginOnce _ intent := do
    let recorded ← readDocument (.root (.initialization operationId))
    if recorded = none then pure ()
    else Client.raise (.unknown "ROUTE_INITIALIZATION_RECOVERY_ONLY")
    let record ← Client.lift intent.toRecord
    stageEntity ⟨.root (.initialization operationId), .initialization record⟩ true
    pure (some intent.head)
  recordOutcome _ current _ :=
    if current = operationId then pure ()
    else Client.raise (.conflict "ROUTE_INITIALIZATION_OPERATION_CHANGED")

/-- The approval of `initialize_empty_scope`. -/
def emptyApproval (self : RouteProjection) (identity : ProgramIdentity)
    (budgetEpoch operationId : UUID) (instant : ℤ) : Except RouteError ConfigurationApproval := do
  let version := self.uuid5 operationId "empty-configuration"
  let (_, manifest, dependencies) ←
    configurationManifests self.scope version [] (fun _ => none) instant
  ConfigurationApproval.modelValidate
    { approvalId := self.uuid5 operationId "empty-approval"
      scope := self.scope
      routeVersion := version
      generation := 1
      manifestSha256 := manifest
      dependencyManifestSha256 := dependencies
      catalogSha256 := catalogDigest []
      entryCount := 0
      requiredProgramSha256 := identity.programSha256
      requiredProfiles := []
      budgetEpoch := budgetEpoch
      issuedEpoch := instant
      activateBeforeEpoch := instant + 600 }

/-- `initialize_empty_scope` of an operation that was recorded. -/
def recoverInitialization (self : RouteProjection) (identity : ProgramIdentity)
    (budgetEpoch operationId : UUID) (record : RouteActivationIntent) :
    RouteClient ActiveRouteHead := do
  let intent ← Client.lift (RouteActivationIntent.fromRecord record)
  Client.lift (require (intent.receipt.operationId = operationId ∧
      intent.head.approval.requiredProgramSha256 = identity.programSha256 ∧
      intent.head.approval.budgetEpoch = budgetEpoch ∧ intent.head.approval.entryCount = 0)
    (.unknown "ROUTE_INITIALIZATION_RECOVERY_ONLY"))
  let outcome ← recoverActivation self intent
  if outcome = .confirmed then pure ()
  else Client.raise (.unknown "ROUTE_INITIALIZATION_RECOVERY_ONLY")
  let observed ← readActive self
  if observed.map Prod.fst = some intent.head then pure intent.head
  else Client.raise (.conflict "ROUTE_INITIALIZATION_HEAD_CHANGED")

/-- `initialize_empty_scope`. -/
def initializeEmptyScope (self : RouteProjection) (identity : ProgramIdentity)
    (proof : ProgramCapabilityProof) (budgetEpoch operationId boundary : UUID) :
    RouteClient ActiveRouteHead := do
  Client.lift (require (identity.scope = self.scope ∧ proof.identity = identity)
    (.conflict "ROUTE_INITIALIZATION_PROGRAM_CHANGED"))
  let recorded ← readDocument (.root (.initialization operationId))
  match recorded with
  | some ⟨.initialization record, _⟩ =>
      recoverInitialization self identity budgetEpoch operationId record
  | some _ => Client.raise (.value "ROUTE_ACTIVATION_RECORD_INVALID")
  | none => do
      let active ← readActive self
      if active = none then pure ()
      else Client.raise (.conflict "ROUTE_INITIALIZATION_CANNOT_REPLACE_HEAD")
      let instant ← now
      let approval ← Client.lift (emptyApproval self identity budgetEpoch operationId instant)
      let snapshot ← Client.lift (RouteSnapshot.prepare approval [] (fun _ => none) instant)
      stage self snapshot instant
      let head ← activate self snapshot identity proof budgetEpoch operationId boundary none
        (initializationJournal operationId) none none
      match head with
      | some head => pure head
      | none => Client.raise (.unknown "ROUTE_INITIALIZATION_RECOVERY_ONLY")

end

end Turnstile
