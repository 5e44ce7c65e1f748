import Turnstile.Domain.Values

/-!
# Gateway publications

A publication builds a release of one target: it carries the whole desired specification,
the release it was computed from, and a manifest of what its worker has recorded.  A
release becomes effective when its publication is activated; a publication that adds or
removes one model's route stands beside the effective release.
-/

namespace Turnstile

/-! ## Statuses -/

/-- `PublicationStatus`. -/
inductive PublicationStatus where
  | queued
  | validating
  | provisioning
  | buildingRevision
  | verifying
  | awaitingAuthorization
  | promoting
  | active
  | failed
  | superseded
  | rollingBack
  | rolledBack
deriving DecidableEq, Repr

/-- `PublicationKind`. -/
inductive PublicationKind where
  | modelAdd
  | modelRemove
  | credentialRotation
  | routeReconcile
deriving DecidableEq, Repr

namespace PublicationStatus

/-- The publication is at its end. -/
def terminal : PublicationStatus → Bool
  | .active | .failed | .superseded | .rolledBack => true
  | _ => false

/-- `in_flight`. -/
def inFlight (status : PublicationStatus) : Bool :=
  !status.terminal

/-- The release was promoted, or taken back. -/
def settled : PublicationStatus → Bool
  | .active | .superseded | .rolledBack => true
  | _ => false

/-- The statuses that a transition completes the publication with. -/
def ends (status : PublicationStatus) : Bool :=
  status = .active || status = .failed || status = .rolledBack

/-- No worker is wanted. -/
def resting (status : PublicationStatus) : Bool :=
  status.terminal || status = .awaitingAuthorization

/-- The pairs that workers and owners move a publication by: from a status in flight to
another one, to its failure, or to its cancellation. -/
def LeadsTo (status next : PublicationStatus) : Prop :=
  status.inFlight = true ∧ (next.inFlight = true ∨ next = .failed ∨ next = .rolledBack)

instance (status next : PublicationStatus) : Decidable (status.LeadsTo next) :=
  inferInstanceAs (Decidable (_ ∧ _))

theorem inFlight_of_not_resting {status : PublicationStatus} (h : status.resting = false) :
    status.inFlight = true := by
  cases status <;> first | rfl | cases h

theorem inFlight_of_settled {status : PublicationStatus} (h : status.settled = true) :
    status.inFlight = false := by
  cases status <;> first | rfl | cases h

theorem resting_of_settled {status : PublicationStatus} (h : status.settled = true) :
    status.resting = true := by
  cases status <;> first | rfl | cases h

end PublicationStatus

/-! ## Specifications -/

/-- `AuthStrategy`, as far as the store tells strategies apart. -/
inductive AuthStrategy where
  | namedValueBearer
  | namedValueApiKey
  | oauthClientCredentials
  | other (name : String)
deriving DecidableEq, Repr

/-- `GatewayDeploymentScope`: all deployments of a target, or a selection. -/
structure GatewayDeploymentScope where
  selected : Bool
  deploymentIds : List UUID
deriving DecidableEq, Repr

/-- `binding["model"]`; its profile is what the releases of one model have in common. -/
structure ReleaseModel where
  modelKey : String
  profile : String
deriving DecidableEq, Repr

/-- The configuration of a runtime. -/
structure RuntimeConfig where
  controlPlaneManaged : Bool
  namedValueName : Option String
  details : String
deriving DecidableEq, Repr

/-- `GatewayModelBinding`. -/
structure GatewayModelBinding where
  model : ReleaseModel
  logicalModelId : Option UUID
  providerId : Option UUID
  providerName : String
  providerKind : String
  providerConfig : String
  runtimeId : Option UUID
  runtimeName : String
  runtimeConfig : String
  authStrategy : AuthStrategy
  namedValueName : Option String
  keyVaultSecretId : Option String
  deploymentScope : GatewayDeploymentScope
deriving DecidableEq, Repr

/-- An entry of `removed_models`. -/
structure RemovedModel where
  modelId : UUID
  modelKey : String
deriving DecidableEq, Repr

/-- An entry of `gateway_deployments`. -/
structure DeploymentSnapshot where
  deploymentId : UUID
  nativeGatewayId : String
  endpointUrl : String
deriving DecidableEq, Repr

/-- `GatewayReleaseSpec`. -/
structure GatewayReleaseSpec where
  gatewayProfileId : UUID
  bindings : List GatewayModelBinding
  discoveryModelIds : List String
  removedModels : List RemovedModel
  gatewayDeployments : List DeploymentSnapshot
deriving DecidableEq, Repr

/-! ## Manifests -/

/-- `model_route_addition`. -/
structure ModelRouteAdditionMarker where
  version : ℤ
  programReleaseId : UUID
  alias? : String
deriving DecidableEq, Repr

/-- `model_route_removal`. -/
structure ModelRouteRemovalMarker where
  version : ℤ
  programReleaseId : UUID
  sourcePublicationId : UUID
  sourceSpecSha256 : String
  modelId : UUID
  alias? : String
deriving DecidableEq, Repr

/-- `fixed_route_migration`. -/
structure FixedRouteMigration where
  requestId : UUID
  previousPublicationId : UUID
  details : String
deriving DecidableEq, Repr

/-- `initial_manifest`. -/
inductive InitialManifest where
  | modelRouteAddition (marker : ModelRouteAdditionMarker)
  | modelRouteRemoval (marker : ModelRouteRemovalMarker)
  | fixedRouteMigration (migration : FixedRouteMigration)
  | other (details : String)
deriving DecidableEq, Repr

/-- `route_rollback`. -/
structure RouteRollback where
  operationId : UUID
  targetReleaseId : UUID
  priorReleaseId : UUID
  confirmationSha256 : String
deriving DecidableEq, Repr

/-- `resource_manifest`: the three intents that a publication is created with, and the
other fields. -/
structure ResourceManifest where
  modelRouteAddition : Option ModelRouteAdditionMarker
  modelRouteRemoval : Option ModelRouteRemovalMarker
  fixedRouteMigration : Option FixedRouteMigration
  routeRollback : Option RouteRollback
  fields : List (String × String)
deriving DecidableEq, Repr

namespace ResourceManifest

/-- `{}`. -/
def empty : ResourceManifest := ⟨none, none, none, none, []⟩

/-- `name in manifest`. -/
def has (manifest : ResourceManifest) (name : String) : Bool :=
  manifest.fields.any fun field => field.1 = name

/-- `manifest.get(name)`. -/
def get (manifest : ResourceManifest) (name : String) : Option String :=
  manifest.fields.lookup name

/-- `{**manifest, name: value}`. -/
def set (manifest : ResourceManifest) (name value : String) : ResourceManifest :=
  { manifest with fields := (name, value) :: manifest.fields.filter fun field => field.1 ≠ name }

/-- The publication stands beside the effective release. -/
def independent (manifest : ResourceManifest) : Bool :=
  manifest.modelRouteAddition.isSome || manifest.modelRouteRemoval.isSome

/-- The manifest has the intents of another. -/
def SameIntent (a b : ResourceManifest) : Prop :=
  a.modelRouteAddition = b.modelRouteAddition ∧ a.modelRouteRemoval = b.modelRouteRemoval ∧
    a.fixedRouteMigration = b.fixedRouteMigration ∧ a.routeRollback = b.routeRollback

instance (a b : ResourceManifest) : Decidable (a.SameIntent b) :=
  inferInstanceAs (Decidable (_ ∧ _ ∧ _ ∧ _))

end ResourceManifest

/-- The content that `desired_spec_sha256` is computed from. -/
inductive ReleaseDigest where
  | release (spec : GatewayReleaseSpec)
  | intent (manifest : InitialManifest) (spec : GatewayReleaseSpec)
  | rollback (detail : RouteRollback) (spec : GatewayReleaseSpec)
deriving DecidableEq, Repr

/-! ## Rows -/

/-- A row of `gateway_publications`. -/
structure GatewayPublication where
  id : UUID
  gatewayProfileId : UUID
  generation : ℕ
  desiredSpec : GatewayReleaseSpec
  desiredSpecSha256 : ReleaseDigest
  publicationKind : PublicationKind
  status : PublicationStatus
  baseReleaseId : Option UUID
  apimRevision : Option String
  policySha256 : Option String
  resourceManifest : ResourceManifest
  errorCode : Option String
  errorMessage : Option String
  attemptCount : ℕ
  createdBy : String
  startedAt : Option ℤ
deriving DecidableEq, Repr

inductive OutboxStatus where
  | queued
  | leased
  | completed
deriving DecidableEq, Repr

/-- A row of `gateway_publication_outbox`. -/
structure PublicationOutbox where
  publicationId : UUID
  status : OutboxStatus
  availableAt : ℤ
  leaseOwner : Option String
  leaseExpiresAt : Option ℤ
  attempts : ℕ
deriving DecidableEq, Repr

/-- A row of `gateway_publication_audit`. -/
structure PublicationAudit where
  publicationId : UUID
  fromStatus : Option PublicationStatus
  toStatus : PublicationStatus
  actor : String
  /-- Its detail is a `probe_request`. -/
  probeRequest : Bool
deriving DecidableEq, Repr

/-- The statuses of an operation that its worker leads it through. -/
inductive OperationStatus where
  | queued
  | validatingDependencies
  | preflightProbing
  | promoting
  | verifyingReadback
  | postPromotionProbing
  | restoring
  | succeeded
  | failed
  | restored
deriving DecidableEq, Repr

/-- The operation is at its end. -/
def OperationStatus.terminal : OperationStatus → Bool
  | .succeeded | .failed | .restored => true
  | _ => false

/-- A row of `gateway_release_operations`. -/
structure GatewayReleaseOperation where
  id : UUID
  gatewayProfileId : UUID
  operationKind : String
  targetReleaseId : Option UUID
  priorReleaseId : Option UUID
  status : OperationStatus
  confirmationSha256 : Option String
  /-- `checkpoint["route_rollback_publication_id"]`. -/
  routeRollbackPublicationId : Option UUID
  leaseOwner : Option String
  leaseExpiresAt : Option ℤ
  attemptCount : ℕ
  createdBy : String
deriving DecidableEq, Repr

/-- A row of `gateway_release_operation_audit`. -/
structure OperationAudit where
  operationId : UUID
  fromStatus : Option OperationStatus
  toStatus : OperationStatus
  actor : String
deriving DecidableEq, Repr

end Turnstile
