import Turnstile.Domain.Publications
import Turnstile.Foundation.Procedure
import Turnstile.Foundation.Rows

/-!
# The publication repository

The repository keeps the registry of models, their runtimes and their routes, and beside
it the publications with their outbox.  Every operation reads and writes it in place: what
it has written before it raises stays written.
-/

namespace Turnstile

open Procedure

/-! ## The registry -/

/-- A row of `gateways`; its configuration is a JSON text. -/
structure GatewayRow where
  id : UUID
  isApim : Bool
  enabled : Bool
  config : String
deriving DecidableEq, Repr

/-- A row of `gateway_deployments`, as far as publications look at it. -/
structure DeploymentRow where
  id : UUID
  apimTargetId : UUID
  nativeGatewayId : String
  endpointUrl : String
  retired : Bool
deriving DecidableEq, Repr

/-- A row of `providers`. -/
structure ProviderRow where
  id : UUID
  name : String
  providerKind : String
  enabled : Bool
  config : String
deriving DecidableEq, Repr

/-- A row of `runtimes`. -/
structure RuntimeRow where
  id : UUID
  providerId : UUID
  gatewayProfileId : Option UUID
  name : String
  config : RuntimeConfig
deriving DecidableEq, Repr

/-- A row of `models`; its profile is what all its targets have in common. -/
structure ModelRow where
  id : UUID
  modelKey : String
  profile : String
  providerId : UUID
  runtimeId : UUID
  isDefault : Bool
  publicationId : Option UUID
deriving DecidableEq, Repr

/-- `ApimTargetRouteBinding`: `require_enabled_default` is a field. -/
structure ApimTargetRouteBinding where
  id : UUID
  logicalModelId : UUID
  apimTargetId : UUID
  runtimeId : UUID
  enabled : Bool
  isDefaultServing : Bool
  deploymentScope : GatewayDeploymentScope
  currentPublicationId : Option UUID
  enabled_of_default : isDefaultServing = true → enabled = true
deriving DecidableEq

/-- A row of `user_model_policies`. -/
structure UserModelPolicy where
  userId : String
  modelIds : List UUID
  updatedBy : String
deriving DecidableEq, Repr

/-- A row of `user_model_access_audit`. -/
structure UserModelAccessAudit where
  userId : String
  previousModelIds : List UUID
  newModelIds : List UUID
  changedBy : String
deriving DecidableEq, Repr

/-- The registry that publications read, and that activations change. -/
structure GatewayRegistry where
  gateways : List GatewayRow
  apimTargets : List UUID
  deployments : List DeploymentRow
  providers : List ProviderRow
  runtimes : List RuntimeRow
  models : List ModelRow
  routes : List ApimTargetRouteBinding
  policies : List UserModelPolicy
  assistantModelId : Option UUID
  accessAudit : List UserModelAccessAudit
deriving DecidableEq

/-! ## The store -/

/-- A row of `multi_target_rollouts`. -/
structure MultiTargetRollout where
  id : UUID
  rolloutKind : PublicationKind
  logicalModelId : Option UUID
  requestSha256 : String
  createdBy : String
deriving DecidableEq, Repr

/-- A row of `multi_target_rollout_children`. -/
structure MultiTargetRolloutChild where
  rolloutId : UUID
  apimTargetId : UUID
  publicationId : UUID
  required : Bool
deriving DecidableEq, Repr

/-- The repository. -/
structure PublicationStore where
  registry : GatewayRegistry
  publications : List GatewayPublication
  outbox : List PublicationOutbox
  secrets : List (UUID × String)
  effective : UUID → Option UUID
  audit : List PublicationAudit
  operations : List GatewayReleaseOperation
  operationAudit : List OperationAudit
  rollouts : List MultiTargetRollout
  rolloutChildren : List MultiTargetRolloutChild
  /-- The publications that billable requests were made for. -/
  billableProbes : List UUID

/-- What an operation raises. -/
inductive PublicationError where
  | value (message : String)
  | index
  | stopIteration
deriving DecidableEq, Repr

/-- `_managed_program_publication` replaces these fields of a release. -/
structure ProgramOverlay where
  apimRevision : Option String
  policySha256 : Option String
  resourceManifest : ResourceManifest
deriving DecidableEq, Repr

/-- What the operations compute from texts and documents. -/
structure PublicationRules where
  /-- `str.casefold`. -/
  casefold : String → String
  /-- `text.rstrip("/")`. -/
  stripSlashes : String → String
  /-- `GatewayReleaseSpec` accepts the document. -/
  specAccepted : GatewayReleaseSpec → Bool
  /-- The text of a digest. -/
  digestText : ReleaseDigest → String
  /-- The text is a SHA-256 digest. -/
  isDigest : String → Bool
  /-- `managed_route_program_initialization` is configured. -/
  managedInitialization : String → Bool
  /-- What `_managed_program_publication` makes of a release. -/
  managedProgram : GatewayPublication → String → Except PublicationError ProgramOverlay
  /-- The configuration with its managed initialization only. -/
  initializationConfig : String → String
  /-- `config["fixed_route_program_upgrade"]`. -/
  programUpgrade : String → Option String
  /-- The checks of `_program_migration_manifest` on the descriptor. -/
  migrationMatches : GatewayPublication → GatewayReleaseSpec → FixedRouteMigration → Bool
  /-- The diagnostic of `_route_reconcile_credential_read_denied`. -/
  credentialReadDenied : Option String → Option String → Bool
  /-- `_route_reconcile_preparation_failed`. -/
  preparationFailed : GatewayPublication → Bool
  /-- The denials that `_model_addition_credential_retry` recovers from. -/
  additionDenied : Option String → Option String → Bool
  /-- `_validate_preparation_checkpoint`. -/
  preparationValid : GatewayPublication → GatewayPublication → String → Bool
  /-- `manifest["route_activation"]["outcome"] == "confirmed"`. -/
  activationConfirmed : ResourceManifest → Bool
  /-- The evidence that a retry preserves, from the publication and its audit. -/
  preservedFields : GatewayPublication → List PublicationAudit → Option String → Option String →
    String → Except PublicationError (List (String × String))
  /-- `publication_model_id`. -/
  publicationModelId : UUID → String → UUID
  /-- `apim_target_route_binding_id_for`. -/
  routeBindingId : UUID → UUID → UUID
  /-- `_activated_runtime_credentials`. -/
  activatedRuntimeCredentials : RuntimeConfig → GatewayModelBinding → ResourceManifest →
    RuntimeConfig
  /-- `_activation_runtime_config`. -/
  activationRuntimeConfig : GatewayModelBinding → RuntimeConfig
  /-- `_require_program_migration_activation`, after its manifest check. -/
  migrationActivation : GatewayPublication → Option GatewayPublication →
    Except PublicationError Unit

namespace PublicationStore

/-- `_find(self.gateway_publications, id)`. -/
def publication? (s : PublicationStore) (id : UUID) : Option GatewayPublication :=
  Rows.find? GatewayPublication.id id s.publications

/-- The outbox row of a publication. -/
def outbox? (s : PublicationStore) (id : UUID) : Option PublicationOutbox :=
  Rows.find? PublicationOutbox.publicationId id s.outbox

/-- `_find(self.gateways, id)`. -/
def gateway? (s : PublicationStore) (id : UUID) : Option GatewayRow :=
  Rows.find? GatewayRow.id id s.registry.gateways

/-- `_find(self.gateway_release_operations, id)`. -/
def operation? (s : PublicationStore) (id : UUID) : Option GatewayReleaseOperation :=
  Rows.find? GatewayReleaseOperation.id id s.operations

/-- `effective_gateway_publication`. -/
def effectivePublication? (s : PublicationStore) (target : UUID) : Option GatewayPublication :=
  (s.effective target).bind s.publication?

/-- A publication of the target is in flight. -/
def Busy (s : PublicationStore) (target : UUID) : Prop :=
  ∃ p ∈ s.publications, p.gatewayProfileId = target ∧ p.status.inFlight = true

instance (s : PublicationStore) (target : UUID) : Decidable (s.Busy target) :=
  inferInstanceAs (Decidable (∃ p ∈ s.publications, _))

/-- `_owns_publication_lease`. -/
def OwnsPublicationLease (s : PublicationStore) (id : UUID) (worker : String) (now : ℤ) : Prop :=
  ∃ row ∈ s.outbox, row.publicationId = id ∧ row.status = .leased ∧
    row.leaseOwner = some worker ∧ ∃ expires ∈ row.leaseExpiresAt, now < expires

instance (s : PublicationStore) (id : UUID) (worker : String) (now : ℤ) :
    Decidable (s.OwnsPublicationLease id worker now) :=
  inferInstanceAs (Decidable (∃ row ∈ s.outbox, _))

/-- The probe requests recorded for a publication. -/
def probeCount (s : PublicationStore) (id : UUID) : ℕ :=
  s.audit.countP fun row => row.publicationId = id ∧ row.probeRequest = true

/-- The publication with its row written. -/
def setPublication (s : PublicationStore) (id : UUID)
    (f : GatewayPublication → GatewayPublication) : PublicationStore :=
  { s with publications := Rows.update GatewayPublication.id id f s.publications }

/-- The store with the outbox row of a publication written. -/
def setOutbox (s : PublicationStore) (id : UUID) (f : PublicationOutbox → PublicationOutbox) :
    PublicationStore :=
  { s with outbox := Rows.update PublicationOutbox.publicationId id f s.outbox }

/-- The store with an operation written. -/
def setOperation (s : PublicationStore) (id : UUID)
    (f : GatewayReleaseOperation → GatewayReleaseOperation) : PublicationStore :=
  { s with operations := Rows.update GatewayReleaseOperation.id id f s.operations }

/-- The store with a credential, or without one. -/
def setSecret (s : PublicationStore) (id : UUID) (credential : Option String) :
    PublicationStore :=
  { s with
    secrets := (credential.map fun text => (id, text)).toList ++
      s.secrets.filter fun entry => entry.1 ≠ id }

/-- The store with entries of the audit. -/
def record (s : PublicationStore) (entries : List PublicationAudit) : PublicationStore :=
  { s with audit := s.audit ++ entries }

/-- The store with an entry of the audit of operations. -/
def recordOperation (s : PublicationStore) (entry : OperationAudit) : PublicationStore :=
  { s with operationAudit := s.operationAudit ++ [entry] }

/-- The store with a change of the registry. -/
def setRegistry (s : PublicationStore) (f : GatewayRegistry → GatewayRegistry) :
    PublicationStore :=
  { s with registry := f s.registry }

end PublicationStore

abbrev RepositoryM := Procedure PublicationError PublicationStore

/-! ## What a publication may ask for -/

/-- The arguments of `create_gateway_publication`. -/
structure PublicationRequest where
  gatewayProfileId : UUID
  desiredSpec : GatewayReleaseSpec
  desiredSpecSha256 : ReleaseDigest
  publicationKind : PublicationKind
  createdBy : String
  credentialCiphertext : Option String
  expectedBaseReleaseId : Option UUID
  initialManifest : Option InitialManifest
deriving DecidableEq, Repr

namespace PublicationRules

variable (r : PublicationRules)

/-- `GatewayPublicationIntent.model_validate`. -/
def validateIntent (gateway : UUID) (kind : PublicationKind) (spec : GatewayReleaseSpec) :
    Except PublicationError Unit :=
  if r.specAccepted spec = false then
    .error (.value "invalid gateway release")
  else if gateway ≠ spec.gatewayProfileId then
    .error (.value "publication target must match its desired gateway release")
  else if kind = .modelRemove ∧ spec.removedModels.length ≠ 1 then
    .error (.value "a model removal publication requires one removal target")
  else if kind ≠ .modelRemove ∧ spec.removedModels ≠ [] then
    .error (.value "only model removal publications can carry a removal target")
  else if kind ≠ .modelRemove ∧ spec.bindings = [] then
    .error (.value "non-removal publications require a binding")
  else .ok ()

/-- `_managed_program_publication`. -/
def managedProgramPublication (previous : Option GatewayPublication) (config : String) :
    Except PublicationError (Option GatewayPublication) :=
  match previous with
  | none =>
      if r.managedInitialization config then
        .error (.value "Managed initialization requires its original publication")
      else .ok none
  | some row => do
      let overlay ← r.managedProgram row config
      return some { row with
        apimRevision := overlay.apimRevision
        policySha256 := overlay.policySha256
        resourceManifest := overlay.resourceManifest }

/-- The conditions of `_model_addition_manifest`. -/
def ModelAdditionMatches (previous : GatewayPublication) (spec : GatewayReleaseSpec)
    (digest : ReleaseDigest) (marker : ModelRouteAdditionMarker) : Prop :=
  marker.version = 1 ∧ marker.programReleaseId = previous.id ∧ previous.status = .active ∧
    previous.resourceManifest.has "fixed_route_program" = true ∧
    spec.gatewayProfileId = previous.gatewayProfileId ∧
    (∃ binding ∈ spec.bindings, spec.bindings = [binding] ∧
      spec.discoveryModelIds = [marker.alias?] ∧ marker.alias? = binding.model.modelKey) ∧
    spec.removedModels = [] ∧
    (∀ binding ∈ previous.desiredSpec.bindings,
      r.casefold binding.model.modelKey ≠ r.casefold marker.alias?) ∧
    digest = .intent (.modelRouteAddition marker) spec

instance (previous : GatewayPublication) (spec : GatewayReleaseSpec) (digest : ReleaseDigest)
    (marker : ModelRouteAdditionMarker) :
    Decidable (r.ModelAdditionMatches previous spec digest marker) :=
  inferInstanceAs (Decidable (_ ∧ _ ∧ _ ∧ _ ∧ _ ∧ _ ∧ _ ∧ _ ∧ _))

/-- `_model_addition_manifest`. -/
def modelAdditionManifest (previous : Option GatewayPublication) (spec : GatewayReleaseSpec)
    (digest : ReleaseDigest) (marker : ModelRouteAdditionMarker) :
    Except PublicationError ResourceManifest :=
  match previous with
  | none => .error (.value "Model addition requires an existing fixed program")
  | some row =>
      if r.ModelAdditionMatches row spec digest marker then
        .ok { ResourceManifest.empty with modelRouteAddition := some marker }
      else .error (.value "Model addition cannot contain or replace existing models")

/-- The conditions of `_model_removal_manifest`. -/
def ModelRemovalMatches (previous source : GatewayPublication) (spec : GatewayReleaseSpec)
    (digest : ReleaseDigest) (marker : ModelRouteRemovalMarker) : Prop :=
  marker.version = 1 ∧ previous.status = .active ∧ source.status = .active ∧
    source.publicationKind = .modelAdd ∧
    source.resourceManifest.modelRouteAddition.isSome = true ∧
    source.gatewayProfileId = previous.gatewayProfileId ∧
    spec.gatewayProfileId = previous.gatewayProfileId ∧
    spec.bindings = [] ∧ spec.discoveryModelIds = [] ∧
    spec.removedModels = [⟨marker.modelId, marker.alias?⟩] ∧
    (∃ binding ∈ source.desiredSpec.bindings, source.desiredSpec.bindings = [binding] ∧
      marker.alias? = binding.model.modelKey) ∧
    marker.programReleaseId = previous.id ∧ marker.sourcePublicationId = source.id ∧
    marker.sourceSpecSha256 = r.digestText source.desiredSpecSha256 ∧
    digest = .intent (.modelRouteRemoval marker) spec

instance (previous source : GatewayPublication) (spec : GatewayReleaseSpec)
    (digest : ReleaseDigest) (marker : ModelRouteRemovalMarker) :
    Decidable (r.ModelRemovalMatches previous source spec digest marker) :=
  inferInstanceAs
    (Decidable (_ ∧ _ ∧ _ ∧ _ ∧ _ ∧ _ ∧ _ ∧ _ ∧ _ ∧ _ ∧ _ ∧ _ ∧ _ ∧ _ ∧ _))

/-- `_model_removal_manifest`. -/
def modelRemovalManifest (previous source : Option GatewayPublication)
    (spec : GatewayReleaseSpec) (digest : ReleaseDigest) (marker : ModelRouteRemovalMarker) :
    Except PublicationError ResourceManifest :=
  match previous, source with
  | some row, some from? =>
      if r.ModelRemovalMatches row from? spec digest marker then
        .ok { ResourceManifest.empty with modelRouteRemoval := some marker }
      else .error (.value "Model removal source or target binding changed")
  | _, _ => .error (.value "Model removal requires its current program and source publication")

/-- `_program_migration_manifest`. -/
def programMigrationManifest (previous : Option GatewayPublication) (spec : GatewayReleaseSpec)
    (digest : ReleaseDigest) (migration : FixedRouteMigration) :
    Except PublicationError ResourceManifest :=
  match previous with
  | none => .error (.value "Program migration requires an existing release and exact manifest")
  | some row =>
      if migration.previousPublicationId = row.id ∧ row.status = .active ∧
          row.desiredSpec.bindings ≠ [] ∧
          row.resourceManifest.has "fixed_route_program" = false ∧
          r.migrationMatches row spec migration = true ∧
          digest = .intent (.fixedRouteMigration migration) spec then
        .ok { ResourceManifest.empty with fixedRouteMigration := some migration }
      else
        .error (.value "Program migration cannot change its previous release or model routes")

/-- `_validate_gateway_deployment_snapshots` for one snapshot. -/
def SnapshotCurrent (gateway : UUID) (deployments : List DeploymentRow)
    (snapshot : DeploymentSnapshot) : Prop :=
  ∃ current ∈ Rows.find? DeploymentRow.id snapshot.deploymentId deployments,
    current.retired = false ∧ current.apimTargetId = gateway ∧
      r.casefold current.nativeGatewayId = r.casefold snapshot.nativeGatewayId ∧
      r.stripSlashes current.endpointUrl = r.stripSlashes snapshot.endpointUrl

instance (gateway : UUID) (deployments : List DeploymentRow) (snapshot : DeploymentSnapshot) :
    Decidable (r.SnapshotCurrent gateway deployments snapshot) :=
  inferInstanceAs (Decidable (∃ current ∈ Rows.find? _ _ _, _))

/-- `_validate_gateway_deployment_snapshots`. -/
def validateDeploymentSnapshots (gateway : UUID) (spec : GatewayReleaseSpec)
    (deployments : List DeploymentRow) : Except PublicationError Unit :=
  if ∀ snapshot ∈ spec.gatewayDeployments, r.SnapshotCurrent gateway deployments snapshot then
    .ok ()
  else .error (.value "Gateway deployment changed before publication; refresh and retry")

end PublicationRules

/-! ## Creation -/

namespace PublicationRequest

variable (a : PublicationRequest)

/-- `model_addition`. -/
def modelAddition : Bool :=
  match a.initialManifest with
  | some (.modelRouteAddition _) => true
  | _ => false

/-- `model_removal`. -/
def modelRemoval : Bool :=
  match a.initialManifest with
  | some (.modelRouteRemoval _) => true
  | _ => false

/-- The manifest asks for a migration, or for what is no migration either. -/
def migration : Bool :=
  a.initialManifest.isSome && !a.modelAddition && !a.modelRemoval

/-- The checks that need no gateway. -/
def checkKind (r : PublicationRules) : Except PublicationError Unit := do
  r.validateIntent a.gatewayProfileId a.publicationKind a.desiredSpec
  if a.modelRemoval = true ∧ (a.publicationKind ≠ .modelRemove ∨
      a.expectedBaseReleaseId = none ∨ a.credentialCiphertext ≠ none) then
    .error (.value "Model removal requires its current base without credentials")
  else if a.modelAddition = true ∧ (a.publicationKind ≠ .modelAdd ∨
      a.expectedBaseReleaseId = none) then
    .error (.value "Model addition requires its current program base")
  else if a.migration = true ∧ (a.publicationKind ≠ .routeReconcile ∨
      a.credentialCiphertext ≠ none ∨ a.expectedBaseReleaseId = none) then
    .error (.value "Program migration requires a new route reconcile without credentials")
  else .ok ()

/-- The checks of the gateway and of the base. -/
def checkGateway (s : PublicationStore) : Except PublicationError GatewayRow :=
  match s.gateway? a.gatewayProfileId with
  | none => .error (.value "Unknown gateway")
  | some gateway =>
      if gateway.isApim = false ∨
          gateway.enabled = false ∧ a.publicationKind ≠ .modelRemove then
        .error (.value "The selected APIM gateway is unavailable")
      else if (a.publicationKind = .routeReconcile ∨ a.expectedBaseReleaseId ≠ none) ∧
          (a.expectedBaseReleaseId = none ∨
            s.effective a.gatewayProfileId ≠ a.expectedBaseReleaseId) then
        .error (.value "The effective gateway release changed; reconcile again")
      else .ok gateway

/-- The manifest that the publication starts with. -/
def manifest (r : PublicationRules) (s : PublicationStore) (gateway : GatewayRow) :
    Except PublicationError ResourceManifest :=
  match a.initialManifest with
  | none => .ok .empty
  | some (.modelRouteAddition marker) => do
      let previous ← r.managedProgramPublication
        (a.expectedBaseReleaseId.bind s.publication?) gateway.config
      r.modelAdditionManifest previous a.desiredSpec a.desiredSpecSha256 marker
  | some (.modelRouteRemoval marker) =>
      r.modelRemovalManifest (a.expectedBaseReleaseId.bind s.publication?)
        (s.publication? marker.sourcePublicationId) a.desiredSpec a.desiredSpecSha256 marker
  | some (.fixedRouteMigration migration) =>
      r.programMigrationManifest (a.expectedBaseReleaseId.bind s.publication?) a.desiredSpec
        a.desiredSpecSha256 migration
  | some (.other _) =>
      .error (.value "Program migration requires an existing release and exact manifest")

/-- Every check before the look-up of an existing publication. -/
def validated (r : PublicationRules) (s : PublicationStore) :
    Except PublicationError ResourceManifest := do
  a.checkKind r
  let gateway ← a.checkGateway s
  a.manifest r s gateway

/-- `existing`: the last publication of the same release. -/
def existing? (s : PublicationStore) : Option GatewayPublication :=
  s.publications.reverse.find? fun p =>
    p.gatewayProfileId = a.gatewayProfileId ∧ p.desiredSpecSha256 = a.desiredSpecSha256 ∧
      p.status ≠ .superseded ∧ p.status ≠ .rolledBack

/-- The removal of an active addition is confirmed, and no route is left of it. -/
def Removed (r : PublicationRules) (s : PublicationStore) (existing : GatewayPublication) :
    Prop :=
  a.modelAddition = true ∧ existing.status = .active ∧
    (∃ p ∈ s.publications, p.gatewayProfileId = a.gatewayProfileId ∧
      p.publicationKind = .modelRemove ∧ p.status = .active ∧
      p.resourceManifest.modelRouteRemoval.map ModelRouteRemovalMarker.sourcePublicationId =
        some existing.id ∧
      r.activationConfirmed p.resourceManifest = true) ∧
    ∀ route ∈ s.registry.routes, route.apimTargetId = a.gatewayProfileId →
      route.currentPublicationId ≠ some existing.id

instance (r : PublicationRules) (s : PublicationStore) (existing : GatewayPublication) :
    Decidable (a.Removed r s existing) :=
  inferInstanceAs (Decidable (_ ∧ _ ∧ (∃ p ∈ s.publications, _) ∧ _))

/-- A failed publication that changed nothing is left behind, and its request starts anew. -/
def Replaceable (r : PublicationRules) (s : PublicationStore) (manifest : ResourceManifest)
    (existing : GatewayPublication) : Prop :=
  (a.modelAddition = true ∨ a.modelRemoval = true ∨
      (a.publicationKind = .routeReconcile ∧ existing.publicationKind = .routeReconcile ∧
        r.credentialReadDenied existing.errorCode existing.errorMessage = true) ∨
      ((a.publicationKind = .routeReconcile ∨ a.publicationKind = .modelRemove) ∧
        r.preparationFailed existing = true)) ∧
    existing.status = .failed ∧ existing.baseReleaseId = a.expectedBaseReleaseId ∧
    existing.desiredSpec = a.desiredSpec ∧
    (existing.resourceManifest = manifest ∨
      ((a.publicationKind = .routeReconcile ∨ a.publicationKind = .modelRemove) ∧
        r.preparationFailed existing = true) ∧ manifest = .empty) ∧
    existing.apimRevision = none ∧ existing.policySha256 = none ∧
    (∃ row ∈ s.outbox, row.publicationId = existing.id ∧ row.status = .completed ∧
      row.leaseOwner = none ∧ row.leaseExpiresAt = none) ∧
    s.probeCount existing.id = 0 ∧ existing.id ∉ s.billableProbes

instance (r : PublicationRules) (s : PublicationStore) (manifest : ResourceManifest)
    (existing : GatewayPublication) : Decidable (a.Replaceable r s manifest existing) :=
  inferInstanceAs (Decidable (_ ∧ _ ∧ _ ∧ _ ∧ _ ∧ _ ∧ _ ∧ (∃ row ∈ s.outbox, _) ∧ _ ∧ _))

/-- A retry of the publication needs a new credential. -/
def requiresCredential (existing : GatewayPublication) : Bool :=
  match existing.desiredSpec.bindings.getLast? with
  | none => false
  | some latest =>
      (latest.authStrategy = .namedValueBearer || latest.authStrategy = .namedValueApiKey) &&
        latest.keyVaultSecretId = none &&
        !(a.publicationKind = .routeReconcile || a.publicationKind = .modelRemove)

/-- `1 + max(generation)`. -/
def generation (s : PublicationStore) : ℕ :=
  1 + ((s.publications.filter fun p => p.gatewayProfileId = a.gatewayProfileId).map
    GatewayPublication.generation).foldr max 0

/-- The row that is inserted. -/
def publication (s : PublicationStore) (manifest : ResourceManifest) (id : UUID) :
    GatewayPublication where
  id := id
  gatewayProfileId := a.gatewayProfileId
  generation := a.generation s
  desiredSpec := a.desiredSpec
  desiredSpecSha256 := a.desiredSpecSha256
  publicationKind := a.publicationKind
  status := .queued
  baseReleaseId := s.effective a.gatewayProfileId
  apimRevision := none
  policySha256 := none
  resourceManifest := manifest
  errorCode := none
  errorMessage := none
  attemptCount := 0
  createdBy := a.createdBy
  startedAt := none

end PublicationRequest

/-- The store with a new publication. -/
def PublicationStore.insert (s : PublicationStore) (publication : GatewayPublication)
    (credential : Option String) (now : ℤ) : PublicationStore :=
  { s with
    publications := s.publications ++ [publication]
    audit := s.audit ++ [⟨publication.id, none, .queued, publication.createdBy, false⟩]
    secrets := credential.elim s.secrets fun text =>
      (publication.id, text) :: s.secrets.filter fun entry => entry.1 ≠ publication.id
    outbox := s.outbox ++ [⟨publication.id, .queued, now, none, none, 0⟩] }

/-- The end of `create_gateway_publication`: a new publication, under the request's own
identity or under `fresh`. -/
def insertGatewayPublication (r : PublicationRules) (a : PublicationRequest)
    (manifest : ResourceManifest) (fresh : UUID) (now : ℤ) : RepositoryM GatewayPublication := do
  let s ← get
  require (¬s.Busy a.gatewayProfileId) (.value "Another gateway publication is already in progress")
  lift (r.validateDeploymentSnapshots a.gatewayProfileId a.desiredSpec s.registry.deployments)
  let id := (manifest.fixedRouteMigration.map FixedRouteMigration.requestId).getD fresh
  require (s.publication? id = none)
    (.value "The publication request ID is already used by another intent")
  let publication := a.publication s manifest id
  modify fun s => s.insert publication a.credentialCiphertext now
  return publication

/-! ## Retries -/

/-- A manifest has no field but these, and its intents are those of `intents`. -/
def ResourceManifest.Only (manifest intents : ResourceManifest) (names : List String) : Prop :=
  manifest.SameIntent intents ∧ ∀ field ∈ manifest.fields, field.1 ∈ names

instance (manifest intents : ResourceManifest) (names : List String) :
    Decidable (manifest.Only intents names) :=
  inferInstanceAs (Decidable (_ ∧ _))

/-- What a retry of a prepared publication may have recorded. -/
def preparationFields : List String :=
  ["route_preparation", "route_credentials", "route_last_progress_attempt"]

namespace PublicationRules

variable (r : PublicationRules)

/-- `_model_addition_credential_retry`. -/
def modelAdditionCredentialRetry (p : GatewayPublication) (previous : Option GatewayPublication)
    (marker : ModelRouteAdditionMarker) (probeCount : ℕ) (config : String) :
    Except PublicationError Unit := do
  let previous ← r.managedProgramPublication previous (r.initializationConfig config)
  match previous with
  | none =>
      .error (.value "Model addition recovery requires an unchanged zero-probe preparation denial")
  | some row =>
      if p.publicationKind = .modelAdd ∧
          p.resourceManifest.Only { ResourceManifest.empty with modelRouteAddition := some marker }
            preparationFields ∧
          p.apimRevision = none ∧ p.policySha256 = none ∧ probeCount = 0 ∧
          p.baseReleaseId = some row.id ∧ r.additionDenied p.errorCode p.errorMessage = true then
        let _ ← r.modelAdditionManifest (some row) p.desiredSpec p.desiredSpecSha256 marker
        if p.resourceManifest.fields = [] ∨ r.preparationValid p row config = true then .ok ()
        else .error (.value "Route preparation checkpoint changed")
      else
        .error
          (.value "Model addition recovery requires an unchanged zero-probe preparation denial")

/-- `_program_migration_retry`. -/
def programMigrationRetry (p : GatewayPublication) (previous : Option GatewayPublication)
    (migration : FixedRouteMigration) (probeCount : ℕ) : Except PublicationError Unit :=
  match previous with
  | none =>
      .error (.value "Program migration retry requires an unchanged zero-probe preparation")
  | some row =>
      if p.publicationKind = .routeReconcile ∧
          p.resourceManifest.Only
            { ResourceManifest.empty with fixedRouteMigration := some migration }
            preparationFields ∧
          p.apimRevision = none ∧ p.policySha256 = none ∧ probeCount = 0 ∧
          p.baseReleaseId = some row.id ∧ migration.requestId = p.id then do
        let _ ← r.programMigrationManifest (some row) p.desiredSpec p.desiredSpecSha256 migration
        if p.resourceManifest.fields = [] ∨ r.preparationValid p row "" = true then .ok ()
        else .error (.value "Route preparation checkpoint changed")
      else .error (.value "Program migration retry requires an unchanged zero-probe preparation")

end PublicationRules

/-- The other arguments of `requeue_gateway_publication`, and the identity that it gives a new
credential. -/
structure RetryRequest where
  createdBy : String
  credentialCiphertext : Option String
  desiredSpec : Option GatewayReleaseSpec
  desiredSpecSha256 : Option ReleaseDigest
  imageProbeAuthorization : Option String
  credentialGeneration : String
deriving DecidableEq, Repr

namespace RetryRequest

variable (a : RetryRequest)

/-- The retry replaces nothing. -/
def plain : Bool :=
  a.credentialCiphertext.isNone && a.desiredSpec.isNone && a.desiredSpecSha256.isNone &&
    a.imageProbeAuthorization.isNone

/-- The retry of the intent that a publication has. -/
def retryIntent (r : PublicationRules) (s : PublicationStore) (p : GatewayPublication) :
    Except PublicationError Unit :=
  match p.resourceManifest.modelRouteAddition, p.resourceManifest.fixedRouteMigration with
  | some marker, _ =>
      r.modelAdditionCredentialRetry p (s.effectivePublication? p.gatewayProfileId) marker
        (s.probeCount p.id) (((s.gateway? p.gatewayProfileId).map GatewayRow.config).getD "{}")
  | none, some migration =>
      r.programMigrationRetry p (s.effectivePublication? p.gatewayProfileId) migration
        (s.probeCount p.id)
  | none, none => .ok ()

/-- The worker of a publication is done, and no other works on its target. -/
def checkIdle (s : PublicationStore) (p : GatewayPublication) : Except PublicationError Unit :=
  match s.outbox? p.id with
  | some row =>
      if row.status = .completed ∧ row.leaseOwner = none ∧ row.leaseExpiresAt = none ∧
          ¬s.Busy p.gatewayProfileId then .ok ()
      else .error (.value "Program migration retry requires an idle completed worker")
  | none => .error (.value "Program migration retry requires an idle completed worker")

/-- What a retry with an intent checks. -/
def checkIntent (r : PublicationRules) (s : PublicationStore) (p : GatewayPublication) :
    Except PublicationError Unit :=
  if a.plain = false then
    .error (.value "Program migration retry cannot replace its immutable intent")
  else do
    retryIntent r s p
    r.validateDeploymentSnapshots p.gatewayProfileId p.desiredSpec s.registry.deployments
    checkIdle s p

/-- What a retry without an intent checks; it returns what it keeps of the manifest. -/
def checkPlain (r : PublicationRules) (s : PublicationStore) (p : GatewayPublication) :
    Except PublicationError (List (String × String)) :=
  if p.resourceManifest.routeRollback.isSome = true ∨
      ["route_configuration", "route_preparation", "route_credentials",
        "route_dependencies"].any p.resourceManifest.has = true then
    .error (.value ("Configuration publication requires explicit recovery or a new approval; " ++
      "its immutable intent and probe evidence cannot be reset"))
  else if a.desiredSpec.isSome ≠ a.desiredSpecSha256.isSome then
    .error (.value "A replacement release requires both its spec and hash")
  else do
    let spec := a.desiredSpec.getD p.desiredSpec
    r.validateIntent p.gatewayProfileId p.publicationKind spec
    if ∃ current ∈ s.effectivePublication? p.gatewayProfileId,
        current.resourceManifest.has "fixed_route_program" = true ∨
          current.resourceManifest.has "route_configuration" = true then
      .error (.value "publication_retry_requires_new_release")
    else do
      r.validateDeploymentSnapshots p.gatewayProfileId spec s.registry.deployments
      if s.Busy p.gatewayProfileId then
        .error (.value "Another gateway publication is already in progress")
      else
        r.preservedFields p (s.audit.filter fun row => row.publicationId = p.id)
          a.credentialCiphertext a.imageProbeAuthorization a.credentialGeneration

/-- The row that a retry with an intent writes. -/
def resumed (p : GatewayPublication) : GatewayPublication :=
  { p with status := .queued, errorCode := none, errorMessage := none }

/-- The row that a retry without an intent writes. -/
def restarted (preserved : List (String × String)) (p : GatewayPublication) :
    GatewayPublication :=
  { p with
    status := .queued
    apimRevision := none
    policySha256 := none
    resourceManifest := { ResourceManifest.empty with fields := preserved }
    errorCode := none
    errorMessage := none
    attemptCount := 0
    startedAt := none
    createdBy := a.createdBy
    desiredSpec := if a.desiredSpecSha256.isSome then a.desiredSpec.getD p.desiredSpec
      else p.desiredSpec
    desiredSpecSha256 := if a.desiredSpec.isSome then
        a.desiredSpecSha256.getD p.desiredSpecSha256
      else p.desiredSpecSha256 }

end RetryRequest

/-- A retry with an intent keeps it. -/
def GatewayPublication.retriesIntent (p : GatewayPublication) : Bool :=
  p.resourceManifest.fixedRouteMigration.isSome || p.resourceManifest.modelRouteAddition.isSome

/-- The rows that a retry with an intent writes. -/
def requeueIntent (r : PublicationRules) (p : GatewayPublication) (a : RetryRequest) (now : ℤ) :
    RepositoryM Unit := do
  let s ← get
  lift (a.checkIntent r s p)
  modify fun s => s.setPublication p.id RetryRequest.resumed
  modify fun s => s.setOutbox p.id fun row => { row with status := .queued, availableAt := now }

/-- The rows that a retry without an intent writes. -/
def requeuePlain (r : PublicationRules) (p : GatewayPublication) (a : RetryRequest) (now : ℤ) :
    RepositoryM Unit := do
  let s ← get
  let preserved ← lift (a.checkPlain r s p)
  modify fun s => s.setPublication p.id (a.restarted preserved)
  let _ ← demand (s.outbox? p.id) .stopIteration
  modify fun s => s.setOutbox p.id fun row =>
    { row with
      status := .queued
      availableAt := now
      leaseOwner := none
      leaseExpiresAt := none
      attempts := 0 }
  modify fun s => s.setSecret p.id a.credentialCiphertext

/-- The rows that a retry writes. -/
def requeueRows (r : PublicationRules) (p : GatewayPublication) (a : RetryRequest) (now : ℤ) :
    RepositoryM Unit :=
  if p.retriesIntent = true then requeueIntent r p a now else requeuePlain r p a now

/-- `requeue_gateway_publication`. -/
def requeueGatewayPublication (r : PublicationRules) (id : UUID) (a : RetryRequest) (now : ℤ) :
    RepositoryM Unit := do
  let s ← get
  let p ← demand (s.publication? id) (.value "Unknown publication")
  require (p.status = .failed) (.value "Only a failed publication can be retried")
  requeueRows r p a now
  modify fun s => s.record [⟨id, some .failed, .queued, a.createdBy, false⟩]

/-- What `create_gateway_publication` does with a publication of the same release. -/
def reuseGatewayPublication (r : PublicationRules) (a : PublicationRequest)
    (manifest : ResourceManifest) (existing : GatewayPublication) (credentialGeneration : String)
    (now : ℤ) : RepositoryM UUID := do
  require (a.migration = false ∨ (existing.status ≠ .failed ∧
      manifest.fixedRouteMigration.map FixedRouteMigration.requestId = some existing.id ∧
      existing.resourceManifest.fixedRouteMigration = manifest.fixedRouteMigration))
    (.value "Program migration recovery requires its original active intent")
  if existing.status ≠ .failed then return existing.id
  else
    require (a.credentialCiphertext ≠ none ∨ a.requiresCredential existing = false)
      (.value "A failed publication requires a replacement API key")
    requeueGatewayPublication r existing.id
      ⟨a.createdBy, a.credentialCiphertext, none, none, none, credentialGeneration⟩ now
    return existing.id

/-- The identities that the repository makes up, and the time that it reads. -/
structure Fresh where
  publicationId : UUID
  credentialGeneration : String
  now : ℤ
deriving DecidableEq, Repr

/-- `create_gateway_publication`. -/
def createGatewayPublication (r : PublicationRules) (a : PublicationRequest) (fresh : Fresh) :
    RepositoryM UUID := do
  let s ← get
  let manifest ← lift (a.validated r s)
  match a.existing? s with
  | none =>
      let publication ← insertGatewayPublication r a manifest fresh.publicationId fresh.now
      return publication.id
  | some existing =>
      if a.Removed r s existing then
        modify fun s => s.setPublication existing.id fun p => { p with status := .superseded }
        modify fun s => s.record [⟨existing.id, some .active, .superseded, a.createdBy, false⟩]
        let publication ← insertGatewayPublication r a manifest fresh.publicationId fresh.now
        return publication.id
      else if a.Replaceable r s manifest existing then
        let publication ← insertGatewayPublication r a manifest fresh.publicationId fresh.now
        return publication.id
      else
        reuseGatewayPublication r a manifest existing fresh.credentialGeneration fresh.now

end Turnstile
