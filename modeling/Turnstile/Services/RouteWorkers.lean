import Turnstile.Integrations.StorageRouteProjection

/-!
# Route workers

The journals of a publication as clients of its stored checkpoints, and the calls that
route workers make.  Each call loads the journal that it uses and reads the writer state
that it is given; both may be old by the time it goes on.  A worker that makes several
calls, or that another worker replaces, is several clients, and one that has crashed is
not scheduled any more.
-/

namespace Turnstile

open Guard

/-! ## Persistent journals -/

/-- The end of `_save`. -/
def requireSaved (answer : SaveAnswer) : RouteClient Unit :=
  match answer with
  | .saved => pure ()
  | .refused => Client.raise (.runtime "ROUTE_CHECKPOINT_OR_LEASE_CHANGED")
  | .failed => Client.raise (.runtime "ROUTE_CHECKPOINT_UNAVAILABLE")

namespace PersistentRouteWriterJournal

/-- The journal of a publication, from what is stored. -/
def connect (publicationId : UUID) (contextSha256 : Sha256 String) :
    RouteClient PersistentRouteWriterJournal :=
  .call (.storedWriter publicationId) fun stored =>
    Client.lift (load publicationId contextSha256 stored)

/-- `_save`. -/
def save (j : PersistentRouteWriterJournal) (candidate : WriterCheckpoint) :
    RouteClient PersistentRouteWriterJournal :=
  .call (.saveWriter j.publicationId j.stored candidate) fun answer => do
    requireSaved answer
    pure { j with checkpoint := candidate, stored := some candidate }

/-- `begin_once` and `record_outcome`. -/
def journal : RouteJournal RouteWriterIntent PersistentRouteWriterJournal where
  beginOnce j intent := do
    let candidate ← Client.lift (j.begun intent)
    j.save candidate
  recordOutcome j operationId outcome := do
    let candidate ← Client.lift (j.recorded operationId outcome)
    match candidate with
    | none => pure ()
    | some candidate => do
        let _ ← j.save candidate
        pure ()

/-- `recover`. -/
def recover (self : RouteProjection) (j : PersistentRouteWriterJournal) :
    RouteClient RouteOutcome := do
  let intent ← Client.lift j.intent
  match intent with
  | none => Client.raise (.value "ROUTE_WRITER_INTENT_MISSING")
  | some intent => do
      let outcome ← recoverWriter self intent
      journal.recordOutcome j intent.receipt.operationId outcome
      pure outcome

end PersistentRouteWriterJournal

namespace PersistentRouteActivationJournal

/-- The journal of a publication, from what is stored. -/
def connect (publicationId : UUID) (contextSha256 : Sha256 String) :
    RouteClient PersistentRouteActivationJournal :=
  .call (.storedActivation publicationId) fun stored =>
    Client.lift (load publicationId contextSha256 stored)

/-- `_save`. -/
def save (j : PersistentRouteActivationJournal) (candidate : ActivationCheckpoint) :
    RouteClient PersistentRouteActivationJournal :=
  .call (.saveActivation j.publicationId j.checkpoint candidate) fun answer => do
    requireSaved answer
    pure { j with checkpoint := some candidate }

/-- `begin_once` and `record_outcome`. -/
def journal : RouteJournal RouteActivationIntent PersistentRouteActivationJournal where
  beginOnce j intent := do
    let candidate ← Client.lift (j.begun intent)
    j.save candidate
  recordOutcome j operationId outcome := do
    let candidate ← Client.lift (j.recorded operationId outcome)
    match candidate with
    | none => pure ()
    | some candidate => do
        let _ ← j.save candidate
        pure ()

/-- `recover`. -/
def recover (self : RouteProjection) (j : PersistentRouteActivationJournal) :
    RouteClient RouteOutcome := do
  let intent ← Client.lift j.intent
  match intent with
  | none => Client.raise (.value "ROUTE_ACTIVATION_INTENT_MISSING")
  | some intent => do
      let outcome ← recoverActivation self intent
      if j.checkpoint.map ActivationCheckpoint.outcome = some .expiredBeforeDispatch ∧
          outcome = .unknown then pure outcome
      else do
        journal.recordOutcome j intent.receipt.operationId outcome
        pure outcome

end PersistentRouteActivationJournal

/-! ## Calls -/

/-- The journal that a call uses: that of a publication, or one of another kind, of which
nothing is known. -/
inductive JournalKind where
  | persistent (publicationId : UUID) (contextSha256 : Sha256 String)
  | other
deriving DecidableEq

/-- A journal of another kind. -/
def otherJournal {β : Type} : RouteJournal β Unit where
  beginOnce _ _ := .call .other Client.lift
  recordOutcome _ _ _ := .call .other Client.lift

/-- The arguments that the operations on the writer row share. -/
structure WriterArguments where
  ownerToken : UUID
  publicationId : UUID
  operationId : UUID
  boundary : UUID
  journal : JournalKind
deriving DecidableEq

/-- The arguments of `activate`; with `withWriter` it is given the writer state. -/
structure ActivationArguments where
  snapshot : RouteSnapshot
  identity : ProgramIdentity
  proof : ProgramCapabilityProof
  budgetEpoch : UUID
  operationId : UUID
  boundary : UUID
  expectedEtag : Option ℕ
  journal : JournalKind
  withWriter : Bool

/-- The calls of route workers. -/
inductive RouteCall where
  | claimWriter (arguments : WriterArguments)
  | takeoverWriter (arguments : WriterArguments)
  | renewWriter (arguments : WriterArguments)
  | prepareWriter (arguments : WriterArguments) (pending : RoutePendingActivation)
  | abortWriter (arguments : WriterArguments) (pending : RoutePendingActivation)
  | recoverWriter (publicationId : UUID) (contextSha256 : Sha256 String)
  | activate (arguments : ActivationArguments)
  | initializeEmptyScope (identity : ProgramIdentity) (proof : ProgramCapabilityProof)
      (budgetEpoch operationId boundary : UUID)
  | recoverActivation (publicationId : UUID) (contextSha256 : Sha256 String)
  | stage (snapshot : RouteSnapshot) (checkedAt : ℤ)
  | stageSlice (snapshot : RouteSnapshot) (checkedAt cursor maximum : ℤ)
  | verifySliceRecorded (snapshot : RouteSnapshot) (checkedAt cursor maximum : ℤ)
  | stageModelAddition (addition : ModelRouteAddition) (checkedAt : ℤ)

/-- What a call returns. -/
inductive RouteResult where
  | writer (state : RouteWriterState) (etag : ℕ)
  | head (head : ActiveRouteHead)
  | verdict (outcome : RouteOutcome)
  | cursor (stop : ℕ)
  | done
deriving DecidableEq

/-- The writer state that a caller read. -/
def heldWriter (self : RouteProjection) : RouteClient (RouteWriterState × ℕ) := do
  let current ← readWriter self
  match current with
  | some current => pure current
  | none => Client.raise (.value "ROUTE_WRITER_UNAVAILABLE")

/-- Run an operation on the writer row with its journal. -/
def withWriterJournal {α : Type} (kind : JournalKind)
    (body : {σ : Type} → RouteJournal RouteWriterIntent σ → σ → RouteClient α) : RouteClient α :=
  match kind with
  | .persistent publicationId contextSha256 => do
      let object ← PersistentRouteWriterJournal.connect publicationId contextSha256
      body PersistentRouteWriterJournal.journal object
  | .other => body otherJournal ()

/-- Run an activation with its journal. -/
def withActivationJournal {α : Type} (kind : JournalKind)
    (body : {σ : Type} → RouteJournal RouteActivationIntent σ → σ → RouteClient α) :
    RouteClient α :=
  match kind with
  | .persistent publicationId contextSha256 => do
      let object ← PersistentRouteActivationJournal.connect publicationId contextSha256
      body PersistentRouteActivationJournal.journal object
  | .other => body otherJournal ()

/-- An operation on the writer row whose result is the new state. -/
def writerCall (a : WriterArguments)
    (operation : {σ : Type} → RouteJournal RouteWriterIntent σ → σ →
      RouteClient (RouteWriterState × ℕ)) : RouteClient RouteResult := do
  let current ← withWriterJournal a.journal operation
  pure (.writer current.1 current.2)

/-- What a call does. -/
def RouteCall.program (self : RouteProjection) : RouteCall → RouteClient RouteResult
  | claimWriter a =>
      writerCall a fun journal object =>
        Turnstile.claimWriter self a.ownerToken a.publicationId a.operationId a.boundary journal
          object
  | takeoverWriter a =>
      writerCall a fun journal object => do
        let current ← heldWriter self
        Turnstile.takeoverWriter self current a.ownerToken a.publicationId a.operationId a.boundary
          journal object
  | renewWriter a =>
      writerCall a fun journal object => do
        let current ← heldWriter self
        Turnstile.renewWriter self current a.ownerToken a.publicationId a.operationId a.boundary
          journal object
  | prepareWriter a pending =>
      writerCall a fun journal object => do
        let current ← heldWriter self
        Turnstile.prepareWriter self current pending a.ownerToken a.publicationId a.operationId
          a.boundary journal object
  | abortWriter a pending =>
      writerCall a fun journal object => do
        let current ← heldWriter self
        Turnstile.abortWriter self current pending a.ownerToken a.publicationId a.operationId
          a.boundary journal object
  | recoverWriter publicationId contextSha256 => do
      let j ← PersistentRouteWriterJournal.connect publicationId contextSha256
      let outcome ← j.recover self
      pure (.verdict outcome)
  | activate a =>
      withActivationJournal a.journal fun journal object => do
        let writer ← if a.withWriter then do
            let current ← heldWriter self
            pure (some current)
          else pure none
        let _ ← Turnstile.activate self a.snapshot a.identity a.proof a.budgetEpoch a.operationId
          a.boundary a.expectedEtag journal object writer
        pure .done
  | initializeEmptyScope identity proof budgetEpoch operationId boundary => do
      let head ← Turnstile.initializeEmptyScope self identity proof budgetEpoch operationId boundary
      pure (.head head)
  | recoverActivation publicationId contextSha256 => do
      let j ← PersistentRouteActivationJournal.connect publicationId contextSha256
      let outcome ← j.recover self
      pure (.verdict outcome)
  | stage snapshot checkedAt => do
      Turnstile.stage self snapshot checkedAt
      pure .done
  | stageSlice snapshot checkedAt cursor maximum => do
      let stop ← Turnstile.stageSlice self snapshot checkedAt cursor maximum
      pure (.cursor stop)
  | verifySliceRecorded snapshot checkedAt cursor maximum => do
      let stop ← Turnstile.verifySliceRecorded self snapshot checkedAt cursor maximum
      pure (.cursor stop)
  | stageModelAddition addition checkedAt => do
      Turnstile.stageModelAddition self addition checkedAt
      pure .done

/-- A system of route workers on one scope. -/
abbrev RouteSystem (ι : Type) :=
  Client.System ι RouteRequest.Answer (RouteWorld ι) RouteError RouteResult

/-- Every call is about to begin, on an empty table. -/
def RouteSystem.start {ι : Type} (self : RouteProjection) (calls : ι → RouteCall) :
    RouteSystem ι :=
  ⟨.empty, fun i => (calls i).program self⟩

/-- The states reached by any interleaving of the calls. -/
def RouteSystem.Reachable {ι : Type} [DecidableEq ι] (self : RouteProjection)
    (calls : ι → RouteCall) (s : RouteSystem ι) : Prop :=
  Client.Reaches routeDynamics Client.anyChange (RouteSystem.start self calls) s

end Turnstile
