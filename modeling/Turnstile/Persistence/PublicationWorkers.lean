import Turnstile.Persistence.Publications

/-!
# Workers of the publication repository

A worker claims a publication through its outbox row, for the time of a lease, and moves it
from status to status.  Owners create publications for several targets at once, cancel
them, and roll a target back through an operation.
-/

namespace Turnstile

open Procedure

/-! ## Leases -/

/-- The outbox row can be claimed. -/
def PublicationOutbox.Claimable (row : PublicationOutbox) (now : ℤ) : Prop :=
  row.status = .queued ∧ row.availableAt ≤ now ∨
    row.status = .leased ∧ ∃ expires ∈ row.leaseExpiresAt, expires < now

instance (row : PublicationOutbox) (now : ℤ) : Decidable (row.Claimable now) :=
  inferInstanceAs (Decidable (_ ∨ _))

/-- `claim_gateway_publication`. -/
def claimGatewayPublication (worker : String) (leaseSeconds now : ℤ) :
    RepositoryM (Option UUID) := do
  let s ← get
  match s.outbox.find? fun row => row.Claimable now with
  | none => return none
  | some row =>
      modify fun s => s.setOutbox row.publicationId fun row =>
        { row with
          status := .leased
          leaseOwner := some worker
          leaseExpiresAt := some (now + leaseSeconds)
          attempts := row.attempts + 1 }
      let p ← demand (s.publication? row.publicationId) (.value "Unknown publication")
      modify fun s => s.setPublication p.id fun p =>
        { p with
          attemptCount := p.attemptCount + 1
          startedAt := p.startedAt.orElse fun _ => some now }
      return some p.id

/-- `renew_gateway_publication_lease`. -/
def renewGatewayPublicationLease (id : UUID) (worker : String) (leaseSeconds now : ℤ) :
    RepositoryM Bool := do
  let s ← get
  if s.OwnsPublicationLease id worker now then
    modify fun s => s.setOutbox id fun row =>
      { row with leaseExpiresAt := some (now + leaseSeconds) }
    return true
  else return false

/-- `delete_gateway_publication_credential`. -/
def deleteGatewayPublicationCredential (id : UUID) : RepositoryM Unit :=
  modify fun s => s.setSecret id none

/-! ## Status changes -/

/-- The row of a publication that its owner cancelled. -/
def GatewayPublication.cancelled (p : GatewayPublication) : GatewayPublication :=
  { p with
    status := .rolledBack
    errorCode := some "cancelled_by_owner"
    errorMessage := some "Publication cancelled before processing" }

/-- The outbox row of a publication that no worker is wanted for. -/
def PublicationOutbox.rest (row : PublicationOutbox) (now : ℤ) : PublicationOutbox :=
  { row with
    status := .completed
    availableAt := now
    leaseOwner := none
    leaseExpiresAt := none }

/-- The outbox row of a publication that waits for a worker. -/
def PublicationOutbox.wait (row : PublicationOutbox) (now : ℤ) : PublicationOutbox :=
  { row with
    status := .queued
    availableAt := now
    leaseOwner := none
    leaseExpiresAt := none }

/-- `cancel_unstarted_gateway_publication`. -/
def cancelUnstartedGatewayPublication (id : UUID) (actor : String) (now : ℤ) :
    RepositoryM Bool := do
  let s ← get
  match s.publication? id, s.outbox? id with
  | some p, some row =>
      if p.status = .queued ∧ p.attemptCount = 0 ∧ p.startedAt = none ∧
          row.status = .queued then
        modify fun s => s.setPublication id GatewayPublication.cancelled
        deleteGatewayPublicationCredential id
        modify fun s => s.setOutbox id fun row => row.rest now
        modify fun s => s.record [⟨id, some .queued, .rolledBack, actor, false⟩]
        return true
      else return false
  | _, _ => return false

/-- `resume_gateway_publication_authorization`. -/
def resumeGatewayPublicationAuthorization (id : UUID) (createdBy : String) (now : ℤ) :
    RepositoryM Unit := do
  let s ← get
  let p ← demand (s.publication? id) (.value "Unknown publication")
  require (p.status = .awaitingAuthorization)
    (.value "The publication is not waiting for provider authorization")
  modify fun s => s.setPublication id fun p =>
    { p with
      status := .verifying
      errorCode := none
      errorMessage := none
      createdBy := createdBy }
  let _ ← demand (s.outbox? id) .stopIteration
  modify fun s => s.setOutbox id fun row => row.wait now

/-- The `updates` of a transition. -/
structure PublicationUpdates where
  apimRevision : Option (Option String)
  policySha256 : Option (Option String)
  resourceManifest : Option ResourceManifest
  errorCode : Option (Option String)
  errorMessage : Option (Option String)
deriving DecidableEq, Repr

/-- `publication.update(updates)`. -/
def PublicationUpdates.apply (u : PublicationUpdates) (p : GatewayPublication) :
    GatewayPublication :=
  { p with
    apimRevision := u.apimRevision.getD p.apimRevision
    policySha256 := u.policySha256.getD p.policySha256
    resourceManifest := u.resourceManifest.getD p.resourceManifest
    errorCode := u.errorCode.getD p.errorCode
    errorMessage := u.errorMessage.getD p.errorMessage }

/-- `transition_gateway_publication`. -/
def transitionGatewayPublication (id : UUID) (expected status : PublicationStatus)
    (updates : PublicationUpdates) (actor : String) (now : ℤ) : RepositoryM Bool := do
  let s ← get
  match s.publication? id with
  | none => return false
  | some p =>
      if p.status ≠ expected then return false
      else if expected ≠ .failed ∧ expected ≠ .awaitingAuthorization ∧
          ¬s.OwnsPublicationLease id actor now then return false
      else
        modify fun s => s.setPublication id fun p => { updates.apply p with status := status }
        modify fun s => s.record [⟨id, some expected, status, actor, false⟩]
        modify fun s =>
          if status.ends = true ∨ expected = .validating ∧ status = .provisioning then
            s.setSecret id none
          else s
        let _ ← demand (s.outbox? id) .stopIteration
        modify fun s => s.setOutbox id fun row =>
          if status.ends = true ∨ status = .awaitingAuthorization then row.rest now
          else row.wait now
        return true

/-- The phase that a checkpoint belongs to. -/
def checkpointPhase? : String → Option PublicationStatus
  | "probe_verification" => some .verifying
  | "route_activation" => some .promoting
  | "route_writer" => some .promoting
  | "route_dependencies" => some .queued
  | "route_commit_approval" => some .promoting
  | "route_preparation" => some .queued
  | "route_credentials" => some .queued
  | "route_program_promotion" => some .promoting
  | _ => none

/-- `_checkpoint_gateway_publication`. -/
def checkpointGatewayPublication (id : UUID) (worker : String) (expected : Option String)
    (checkpoint field : String) (now : ℤ) : RepositoryM Bool := do
  let phase ← demand (checkpointPhase? field) (.value field)
  let s ← get
  match s.publication? id with
  | none => return false
  | some p =>
      if p.status = phase ∧ s.OwnsPublicationLease id worker now ∧
          p.resourceManifest.get field = expected then
        modify fun s => s.setPublication id fun p =>
          { p with resourceManifest := p.resourceManifest.set field checkpoint }
        modify fun s => s.record [⟨id, some phase, phase, worker, false⟩]
        return true
      else return false

/-- `reserve_gateway_publication_probe`. -/
def reserveGatewayPublicationProbe (id : UUID) (worker : String) (requestLimit : ℕ) (now : ℤ) :
    RepositoryM Bool := do
  require (0 < requestLimit) (.value "Publication probe request limit must be positive")
  let s ← get
  match s.publication? id with
  | none => return false
  | some p =>
      if p.status = .verifying ∧ s.OwnsPublicationLease id worker now ∧
          s.probeCount id < requestLimit then
        modify fun s => s.record [⟨id, some p.status, p.status, worker, true⟩]
        return true
      else return false

/-! ## Several targets -/

/-- An entry of `children`, and what the repository makes up for it. -/
structure RolloutChild where
  gatewayProfileId : UUID
  desiredSpec : GatewayReleaseSpec
  desiredSpecSha256 : ReleaseDigest
  credentialCiphertext : Option String
  expectedBaseReleaseId : Option UUID
  initialManifest : Option InitialManifest
  required : Bool
  fresh : Fresh
deriving DecidableEq, Repr

/-- The arguments of `create_multi_target_rollout`. -/
structure RolloutRequest where
  rolloutId : UUID
  rolloutKind : PublicationKind
  logicalModelId : Option UUID
  requestSha256 : String
  createdBy : String
  children : List RolloutChild
deriving DecidableEq, Repr

namespace RolloutRequest

variable (a : RolloutRequest)

/-- The publication of a child. -/
def publicationRequest (child : RolloutChild) : PublicationRequest where
  gatewayProfileId := child.gatewayProfileId
  desiredSpec := child.desiredSpec
  desiredSpecSha256 := child.desiredSpecSha256
  publicationKind := a.rolloutKind
  createdBy := a.createdBy
  credentialCiphertext := child.credentialCiphertext
  expectedBaseReleaseId := child.expectedBaseReleaseId
  initialManifest := child.initialManifest

/-- What is checked of a child before anything is written. -/
def checkChild (s : PublicationStore) (child : RolloutChild) : Except PublicationError Unit :=
  match s.gateway? child.gatewayProfileId with
  | none => .error (.value "Unknown gateway")
  | some gateway =>
      if gateway.isApim = false ∨ gateway.enabled = false ∧ a.rolloutKind ≠ .modelRemove ∨
          child.gatewayProfileId ∉ s.registry.apimTargets then
        .error (.value "The selected APIM target is unavailable")
      else if (a.publicationRequest child).existing? s ≠ none then
        .error (.value "A target already has this desired release; use its existing publication")
      else if s.Busy child.gatewayProfileId then
        .error (.value "Another gateway publication is already in progress")
      else .ok ()

/-- Every check before the first child is created. -/
def validated (r : PublicationRules) (s : PublicationStore) : Except PublicationError Unit := do
  if a.children.length < 2 then
    .error (.value "A multi-target rollout requires at least two children")
  else if (a.rolloutKind = .modelAdd ∨ a.rolloutKind = .modelRemove) ∧
      a.logicalModelId = none then
    .error (.value "A model rollout requires a logical model identity")
  else if ¬(a.children.map RolloutChild.gatewayProfileId).Nodup then
    .error (.value "A multi-target rollout cannot repeat an APIM target")
  else do
    a.children.forM fun child =>
      r.validateIntent child.gatewayProfileId a.rolloutKind child.desiredSpec
    a.children.forM (a.checkChild s)

/-- The children in turn. -/
def createChildren (r : PublicationRules) : List RolloutChild →
    RepositoryM (List MultiTargetRolloutChild)
  | [] => return []
  | child :: rest => do
      let id ← createGatewayPublication r (a.publicationRequest child) child.fresh
      let rows ← createChildren r rest
      return ⟨a.rolloutId, child.gatewayProfileId, id, child.required⟩ :: rows

/-- What the handler restores: the rows that were there, and their credentials. -/
def restore (before after : PublicationStore) : PublicationStore :=
  { after with
    publications := after.publications.take before.publications.length
    audit := after.audit.take before.audit.length
    outbox := after.outbox.take before.outbox.length
    secrets := before.secrets }

end RolloutRequest

/-- `create_multi_target_rollout`. -/
def createMultiTargetRollout (r : PublicationRules) (a : RolloutRequest) : RepositoryM UUID := do
  let s ← get
  match s.rollouts.find? fun row => row.requestSha256 = a.requestSha256 with
  | some row => return row.id
  | none =>
      lift (a.validated r s)
      rescue
        (do
          let rows ← a.createChildren r a.children
          modify fun s =>
            { s with
              rollouts := s.rollouts ++
                [⟨a.rolloutId, a.rolloutKind, a.logicalModelId, a.requestSha256, a.createdBy⟩]
              rolloutChildren := s.rolloutChildren ++ rows })
        (RolloutRequest.restore s)
      return a.rolloutId

/-! ## Release operations -/

/-- `create_gateway_release_operation`, for an operation that provisions no gateway. -/
def createGatewayReleaseOperation (gateway : UUID) (kind createdBy : String)
    (target prior : Option UUID) (confirmation : Option String) (fresh : UUID) :
    RepositoryM UUID := do
  let s ← get
  require (∀ row ∈ s.operations, row.gatewayProfileId = gateway → row.status.terminal = true)
    (.value "Another gateway release operation is already in progress")
  modify fun s =>
    { s with
      operations := s.operations ++
        [⟨fresh, gateway, kind, target, prior, .queued, confirmation, none, none, none, 0,
          createdBy⟩] }
  modify fun s => s.recordOperation ⟨fresh, none, .queued, createdBy⟩
  return fresh

/-- `claim_gateway_release_operation`; the operations stand in the order of creation. -/
def claimGatewayReleaseOperation (worker : String) (leaseSeconds now : ℤ) :
    RepositoryM (Option UUID) := do
  let s ← get
  match s.operations.find? fun row =>
      !row.status.terminal && row.leaseExpiresAt.all (· < now) with
  | none => return none
  | some row =>
      modify fun s => s.setOperation row.id fun row =>
        { row with
          leaseOwner := some worker
          leaseExpiresAt := some (now + leaseSeconds)
          attemptCount := row.attemptCount + 1 }
      return some row.id

/-- The worker holds the lease of the operation. -/
def GatewayReleaseOperation.LeasedBy (row : GatewayReleaseOperation) (actor : String) (now : ℤ) :
    Prop :=
  row.leaseOwner = some actor ∧ ∃ expires ∈ row.leaseExpiresAt, now < expires

instance (row : GatewayReleaseOperation) (actor : String) (now : ℤ) :
    Decidable (row.LeasedBy actor now) :=
  inferInstanceAs (Decidable (_ ∧ _))

/-- `transition_gateway_release_operation`; `checkpoint` is the publication that the
checkpoint in `updates` links, if there is one. -/
def transitionGatewayReleaseOperation (id : UUID) (expected status : OperationStatus)
    (checkpoint : Option (Option UUID)) (actor : String) (keepLease : Bool) (now : ℤ) :
    RepositoryM Bool := do
  require (keepLease = false ∨ status = expected ∧ status.terminal = false)
    (.value "Only an in-progress checkpoint can retain its release lease")
  let s ← get
  match s.operation? id with
  | none => return false
  | some row =>
      if row.status = expected ∧ row.LeasedBy actor now then
        modify fun s => s.setOperation id fun row =>
          { row with
            routeRollbackPublicationId := checkpoint.getD row.routeRollbackPublicationId
            status := status
            leaseOwner := if keepLease then row.leaseOwner else none
            leaseExpiresAt := if keepLease then row.leaseExpiresAt else none }
        modify fun s => s.recordOperation ⟨id, some expected, status, actor⟩
        return true
      else return false

/-- `_configuration_rollback_values`: the release of a configuration rollback. -/
def configurationRollbackValues (r : PublicationRules) (operation : GatewayReleaseOperation)
    (target prior : GatewayPublication) :
    Except PublicationError (GatewayReleaseSpec × RouteRollback) :=
  match operation.confirmationSha256 with
  | some confirmation =>
      if operation.operationKind = "rollback" ∧
          (operation.status = .validatingDependencies ∨
            operation.status = .verifyingReadback) ∧
          target.id ≠ prior.id ∧
          operation.gatewayProfileId = target.gatewayProfileId ∧
          prior.gatewayProfileId = target.gatewayProfileId ∧
          r.isDigest confirmation = true ∧
          (target.resourceManifest.get "fixed_route_program").isSome = true ∧
          target.resourceManifest.get "fixed_route_program" =
            prior.resourceManifest.get "fixed_route_program" ∧
          target.resourceManifest.independent = false then do
        let spec := { target.desiredSpec with removedModels := [] }
        r.validateIntent target.gatewayProfileId .routeReconcile spec
        return (spec, ⟨operation.id, target.id, prior.id, confirmation⟩)
      else
        .error (.value "Fixed route rollback requires matching releases and confirmation")
  | none => .error (.value "Fixed route rollback requires matching releases and confirmation")

/-- The release that a configuration rollback queues. -/
def rollbackRequest (operation : GatewayReleaseOperation) (prior : GatewayPublication)
    (spec : GatewayReleaseSpec) (detail : RouteRollback) : PublicationRequest where
  gatewayProfileId := operation.gatewayProfileId
  desiredSpec := spec
  desiredSpecSha256 := .rollback detail spec
  publicationKind := .routeReconcile
  createdBy := operation.createdBy
  credentialCiphertext := none
  expectedBaseReleaseId := some prior.id
  initialManifest := none

/-- `enqueue_gateway_configuration_rollback`. -/
def enqueueGatewayConfigurationRollback (r : PublicationRules) (operationId : UUID)
    (actor : String) (fresh : Fresh) : RepositoryM UUID := do
  let s ← get
  let operation ← demand (s.operation? operationId) (.value "Unknown release operation")
  require (operation.LeasedBy actor fresh.now)
    (.value "Configuration rollback requires the current worker lease")
  let target ← demand (operation.targetReleaseId.bind s.publication?)
    (.value "Unknown publication")
  let prior ← demand (operation.priorReleaseId.bind s.publication?) (.value "Unknown publication")
  let values ← lift (configurationRollbackValues r operation target prior)
  match operation.routeRollbackPublicationId with
  | some linked =>
      let p ← demand (s.publication? linked) (.value "Unknown publication")
      require (p.desiredSpecSha256 = .rollback values.2 values.1 ∧
          p.resourceManifest.routeRollback = some values.2 ∧
          p.baseReleaseId = some prior.id ∧
          p.gatewayProfileId = operation.gatewayProfileId ∧ p.desiredSpec = values.1)
        (.value "Configuration rollback publication changed")
      return p.id
  | none =>
      require (s.effective operation.gatewayProfileId = some prior.id)
        (.value "The effective gateway release changed before configuration rollback")
      let id ← createGatewayPublication r (rollbackRequest operation prior values.1 values.2) fresh
      modify fun s => s.setPublication id fun p =>
        { p with
          resourceManifest := { ResourceManifest.empty with routeRollback := some values.2 } }
      modify fun s => s.setOperation operationId fun row =>
        { row with routeRollbackPublicationId := some id }
      modify fun s =>
        s.recordOperation ⟨operationId, some operation.status, operation.status, actor⟩
      return id

/-- `complete_gateway_configuration_rollback`. -/
def completeGatewayConfigurationRollback (r : PublicationRules) (operationId : UUID)
    (actor : String) (fresh : Fresh) : RepositoryM Unit := do
  let s ← get
  let operation ← demand (s.operation? operationId) (.value "Unknown release operation")
  require (operation.status = .verifyingReadback ∧
      operation.routeRollbackPublicationId.isSome = true)
    (.value "Configuration rollback is not ready to complete")
  let child ← enqueueGatewayConfigurationRollback r operationId actor fresh
  let s ← get
  require ((s.publication? child).map GatewayPublication.status = some .active ∧
      s.effective operation.gatewayProfileId = some child)
    (.value "Configuration rollback publication is not currently active")
  modify fun s => s.setOperation operationId fun row =>
    { row with status := .succeeded, leaseOwner := none, leaseExpiresAt := none }
  modify fun s =>
    s.recordOperation ⟨operationId, some .verifyingReadback, .succeeded, actor⟩

end Turnstile
