import Turnstile.Persistence.PublicationWorkers

/-!
# Activations

An activation makes a promoted publication the active one: it changes the registry as the
kind of the publication says, writes the routes of its release, and moves the effective
release of the target.  A rollback moves it back.
-/

namespace Turnstile

open Procedure

/-! ## Routes -/

namespace GatewayRegistry

/-- `_find(self.models, id)`. -/
def model? (g : GatewayRegistry) (id : UUID) : Option ModelRow :=
  Rows.find? ModelRow.id id g.models

/-- `_find(self.runtimes, id)`. -/
def runtime? (g : GatewayRegistry) (id : UUID) : Option RuntimeRow :=
  Rows.find? RuntimeRow.id id g.runtimes

/-- `_find(self.providers, id)`. -/
def provider? (g : GatewayRegistry) (id : UUID) : Option ProviderRow :=
  Rows.find? ProviderRow.id id g.providers

/-- The first model of an alias. -/
def modelOfAlias? (casefold : String → String) (g : GatewayRegistry) (key : String) :
    Option ModelRow :=
  Rows.find? (fun model => casefold model.modelKey) (casefold key) g.models

/-- The runtime that a binding names at a target, by its identity or else by its name. -/
def targetRuntime? (casefold : String → String) (g : GatewayRegistry) (target : UUID)
    (binding : GatewayModelBinding) : Option RuntimeRow :=
  g.runtimes.find? fun runtime =>
    runtime.gatewayProfileId = some target ∧
      (binding.runtimeId = some runtime.id ∨
        binding.runtimeId = none ∧ casefold runtime.name = casefold binding.runtimeName)

/-- A selected deployment is active and belongs to the target. -/
def DeploymentActive (g : GatewayRegistry) (target id : UUID) : Prop :=
  ∃ deployment ∈ Rows.find? DeploymentRow.id id g.deployments,
    deployment.apimTargetId = target ∧ deployment.retired = false

instance (g : GatewayRegistry) (target id : UUID) : Decidable (g.DeploymentActive target id) :=
  inferInstanceAs (Decidable (∃ deployment ∈ Rows.find? _ _ _, _))

end GatewayRegistry

/-- What `upsert_apim_target_route_binding` checks. -/
def checkRoute (s : PublicationStore) (route : ApimTargetRouteBinding) :
    Except PublicationError Unit :=
  if route.apimTargetId ∉ s.registry.apimTargets then .error (.value "Unknown APIM target")
  else if s.registry.model? route.logicalModelId = none then
    .error (.value "Unknown logical model")
  else if (s.registry.runtime? route.runtimeId).bind RuntimeRow.gatewayProfileId ≠
      some route.apimTargetId then
    .error (.value "Route Runtime does not belong to the APIM target")
  else if ∃ id ∈ route.currentPublicationId, ¬∃ p ∈ s.publications,
      p.id = id ∧ p.gatewayProfileId = route.apimTargetId then
    .error (.value "Route publication does not belong to the APIM target")
  else if route.deploymentScope.selected = true ∧ ¬∀ id ∈ route.deploymentScope.deploymentIds,
      s.registry.DeploymentActive route.apimTargetId id then
    .error
      (.value "Selected Gateway deployments must be active and belong to the APIM target")
  else if ∃ row ∈ s.registry.routes, row.id ≠ route.id ∧
      row.logicalModelId = route.logicalModelId ∧ row.apimTargetId = route.apimTargetId then
    .error (.value "APIM target route already exists for this logical model")
  else if route.isDefaultServing = true ∧ ∃ row ∈ s.registry.routes, row.id ≠ route.id ∧
      row.logicalModelId = route.logicalModelId ∧ row.isDefaultServing = true then
    .error (.value "Logical model already has a default APIM target route")
  else if ∃ existing ∈ Rows.find? ApimTargetRouteBinding.id route.id s.registry.routes,
      existing.logicalModelId ≠ route.logicalModelId ∨
        existing.apimTargetId ≠ route.apimTargetId then
    .error (.value "APIM target route identity cannot be changed in place")
  else .ok ()

/-- The registry with a route written. -/
def GatewayRegistry.putRoute (route : ApimTargetRouteBinding) (g : GatewayRegistry) :
    GatewayRegistry :=
  { g with routes := Rows.put ApimTargetRouteBinding.id route g.routes }

/-- `upsert_apim_target_route_binding`. -/
def upsertApimTargetRouteBinding (route : ApimTargetRouteBinding) : RepositoryM Unit := do
  let s ← get
  lift (checkRoute s route)
  modify fun s => s.setRegistry (GatewayRegistry.putRoute route)

/-- The model of a binding. -/
def bindingModel (r : PublicationRules) (g : GatewayRegistry) (binding : GatewayModelBinding) :
    Except PublicationError ModelRow :=
  match (match binding.logicalModelId with
    | some id => g.model? id
    | none => g.modelOfAlias? r.casefold binding.model.modelKey) with
  | none => .error (.value "An active release binding has no logical model")
  | some model =>
      if r.casefold model.modelKey = r.casefold binding.model.modelKey then .ok model
      else .error (.value "An active release binding changed logical model alias")

/-- The runtime of a binding. -/
def bindingRuntime (r : PublicationRules) (g : GatewayRegistry) (target : UUID)
    (binding : GatewayModelBinding) : Except PublicationError RuntimeRow :=
  match (match binding.runtimeId with
    | some id => g.runtime? id
    | none => g.targetRuntime? r.casefold target binding) with
  | none => .error (.value "An active release binding has no target Runtime")
  | some runtime =>
      if runtime.gatewayProfileId = some target then .ok runtime
      else .error (.value "An active release binding has no target Runtime")

/-- The route of a binding. -/
def bindingRoute (r : PublicationRules) (p : GatewayPublication) (binding : GatewayModelBinding)
    (model : ModelRow) (runtime : RuntimeRow) : ApimTargetRouteBinding where
  id := r.routeBindingId model.id p.gatewayProfileId
  logicalModelId := model.id
  apimTargetId := p.gatewayProfileId
  runtimeId := runtime.id
  enabled := true
  isDefaultServing := model.runtimeId = runtime.id
  deploymentScope := binding.deploymentScope
  currentPublicationId := some p.id
  enabled_of_default := fun _ => rfl

/-- The round of `_sync_active_route_bindings` for one binding. -/
def syncBinding (r : PublicationRules) (p : GatewayPublication) (binding : GatewayModelBinding) :
    RepositoryM Unit := do
  let s ← get
  let model ← lift (bindingModel r s.registry binding)
  let runtime ← lift (bindingRuntime r s.registry p.gatewayProfileId binding)
  upsertApimTargetRouteBinding (bindingRoute r p binding model runtime)

/-- `_sync_active_route_bindings`. -/
def syncActiveRouteBindings (r : PublicationRules) (p : GatewayPublication) : RepositoryM Unit := do
  let s ← get
  if p.gatewayProfileId ∈ s.registry.apimTargets then
    each (syncBinding r p) p.desiredSpec.bindings
  else pure ()

/-! ## The registry of an activation -/

namespace ApimTargetRouteBinding

/-- The route serves a model at a target. -/
def At (route : ApimTargetRouteBinding) (model target : UUID) : Prop :=
  route.logicalModelId = model ∧ route.apimTargetId = target

instance (route : ApimTargetRouteBinding) (model target : UUID) :
    Decidable (route.At model target) :=
  inferInstanceAs (Decidable (_ ∧ _))

/-- `route["is_default_serving"] = serving`, of an enabled route. -/
def serve (route : ApimTargetRouteBinding) (serving : Bool) : ApimTargetRouteBinding :=
  if h : route.enabled = true then
    { route with isDefaultServing := serving, enabled_of_default := fun _ => h }
  else route

end ApimTargetRouteBinding

/-- A policy without a model. -/
def UserModelPolicy.without (model : UUID) (changedBy : String) (policy : UserModelPolicy) :
    UserModelPolicy :=
  if model ∈ policy.modelIds then
    { policy with modelIds := policy.modelIds.filter (· ≠ model), updatedBy := changedBy }
  else policy

namespace GatewayRegistry

/-- The enabled routes of a model. -/
def enabledRoutes (g : GatewayRegistry) (model : UUID) : List ApimTargetRouteBinding :=
  g.routes.filter fun route => route.logicalModelId = model ∧ route.enabled = true

/-- `selected`: the default route that is left, or else the first one. -/
def selectedRoute? (g : GatewayRegistry) (model : UUID) : Option ApimTargetRouteBinding :=
  ((g.enabledRoutes model).find? fun route => route.isDefaultServing).orElse fun _ =>
    (g.enabledRoutes model).head?

/-- The registry without the routes of a model at a target. -/
def dropRoutes (model target : UUID) (g : GatewayRegistry) : GatewayRegistry :=
  { g with routes := g.routes.filter fun route => ¬route.At model target }

/-- The registry where one of the enabled routes of a model serves by default. -/
def serveBy (model : UUID) (selected : ApimTargetRouteBinding) (g : GatewayRegistry) :
    GatewayRegistry :=
  { g with
    routes := g.routes.map fun route =>
      if route.logicalModelId = model then route.serve (route.id = selected.id) else route }

/-- The registry where a model is served by a runtime. -/
def moveModel (model : UUID) (runtime : RuntimeRow) (provider : ProviderRow)
    (g : GatewayRegistry) : GatewayRegistry :=
  { g with
    models := Rows.update ModelRow.id model
      (fun row => { row with runtimeId := runtime.id, providerId := provider.id }) g.models }

/-- The registry without a model, its place in the policies and in the assistant. -/
def dropModel (model : UUID) (changedBy : String) (g : GatewayRegistry) : GatewayRegistry :=
  { g with
    policies := g.policies.map (UserModelPolicy.without model changedBy)
    accessAudit :=
      ((g.policies.filter fun policy => model ∈ policy.modelIds).map fun policy =>
        ⟨policy.userId, policy.modelIds, policy.modelIds.filter (· ≠ model), changedBy⟩).reverse ++
        g.accessAudit
    assistantModelId := if g.assistantModelId = some model then none else g.assistantModelId
    models := g.models.eraseP fun row => row.id = model }

end GatewayRegistry

/-- What a `model_remove` activation does to the model and its routes. -/
def removeModel (r : PublicationRules) (p : GatewayPublication) : RepositoryM Unit := do
  let s ← get
  let target ← demand p.desiredSpec.removedModels.head? .index
  let model ← demand (s.registry.model? target.modelId) (.value "Unknown model")
  require (r.casefold model.modelKey = r.casefold target.modelKey)
    (.value "The model removal target changed before activation")
  require (model.isDefault = false) (.value "The default model cannot be deleted")
  modify fun s => s.setRegistry (GatewayRegistry.dropRoutes target.modelId p.gatewayProfileId)
  let s ← get
  match s.registry.selectedRoute? target.modelId with
  | some selected =>
      modify fun s => s.setRegistry (GatewayRegistry.serveBy target.modelId selected)
      let runtime ← demand (s.registry.runtime? selected.runtimeId) (.value "Unknown runtime")
      let provider ← demand (s.registry.provider? runtime.providerId) (.value "Unknown provider")
      modify fun s => s.setRegistry (GatewayRegistry.moveModel target.modelId runtime provider)
  | none => modify fun s => s.setRegistry (GatewayRegistry.dropModel target.modelId p.createdBy)

/-- What a `credential_rotation` activation does to the runtime. -/
def rotateCredential (r : PublicationRules) (p : GatewayPublication)
    (binding : GatewayModelBinding) : RepositoryM Unit := do
  let s ← get
  let runtime ← demand (s.registry.targetRuntime? r.casefold p.gatewayProfileId binding)
    (.value "The managed runtime no longer exists")
  require (runtime.config.controlPlaneManaged = true)
    (.value "The runtime is not managed by the control plane")
  modify fun s => s.setRegistry fun g =>
    { g with
      runtimes := Rows.update RuntimeRow.id runtime.id
        (fun row =>
          { row with config := { row.config with namedValueName := binding.namedValueName } })
        g.runtimes }

/-- The identities that an activation makes up. -/
structure FreshRows where
  providerId : UUID
  runtimeId : UUID
deriving DecidableEq, Repr

/-- The provider of a `model_add` activation. -/
def activatedProvider (binding : GatewayModelBinding) (casefold : String → String)
    (fresh : FreshRows) : RepositoryM ProviderRow := do
  let s ← get
  match binding.providerId with
  | some id => demand (s.registry.provider? id) (.value "Unknown provider")
  | none =>
      match Rows.find? (fun row : ProviderRow => casefold row.name)
          (casefold binding.providerName) s.registry.providers with
      | some provider =>
          require (provider.enabled = true ∧ provider.providerKind = binding.providerKind ∧
              provider.config = binding.providerConfig)
            (.value "A provider with this name exists with incompatible settings")
          return provider
      | none =>
          let provider : ProviderRow :=
            ⟨fresh.providerId, binding.providerName, binding.providerKind, true,
              binding.providerConfig⟩
          modify fun s => s.setRegistry fun g => { g with providers := g.providers ++ [provider] }
          return provider

/-- The runtime of a `model_add` activation. -/
def activatedRuntime (r : PublicationRules) (p : GatewayPublication)
    (binding : GatewayModelBinding) (provider : ProviderRow) (fresh : FreshRows) :
    RepositoryM RuntimeRow := do
  let s ← get
  match binding.runtimeId with
  | some id =>
      let runtime ← demand (s.registry.runtime? id) (.value "Unknown runtime")
      require (runtime.providerId = provider.id)
        (.value "The selected runtime no longer belongs to the provider")
      modify fun s => s.setRegistry fun g =>
        { g with
          runtimes := Rows.update RuntimeRow.id id
            (fun row =>
              { row with
                config := r.activatedRuntimeCredentials row.config binding p.resourceManifest })
            g.runtimes }
      return runtime
  | none =>
      let runtime : RuntimeRow :=
        ⟨fresh.runtimeId, provider.id, some p.gatewayProfileId, binding.runtimeName,
          r.activationRuntimeConfig binding⟩
      modify fun s => s.setRegistry fun g => { g with runtimes := g.runtimes ++ [runtime] }
      return runtime

/-- The identity that a `model_add` activation creates its model under. -/
def activatedModelId (r : PublicationRules) (p : GatewayPublication)
    (binding : GatewayModelBinding) : UUID :=
  binding.logicalModelId.getD (r.publicationModelId p.id binding.model.modelKey)

/-- The model of a `model_add` activation. -/
def activatedModel (r : PublicationRules) (p : GatewayPublication)
    (binding : GatewayModelBinding) (provider : ProviderRow) (runtime : RuntimeRow) :
    RepositoryM Unit := do
  let s ← get
  match s.registry.modelOfAlias? r.casefold binding.model.modelKey with
  | some model =>
      require (binding.logicalModelId = some model.id) (.value "The model alias is already active")
      require (model.profile = binding.model.profile)
        (.value "Multi-target child conflicts with the logical model identity")
  | none =>
      modify fun s => s.setRegistry fun g =>
        { g with
          models := g.models ++
            [⟨activatedModelId r p binding, binding.model.modelKey, binding.model.profile,
              provider.id, runtime.id, false, some p.id⟩] }

/-- What a `model_add` activation does to the registry. -/
def addModel (r : PublicationRules) (p : GatewayPublication) (binding : GatewayModelBinding)
    (fresh : FreshRows) : RepositoryM Unit := do
  let provider ← activatedProvider binding r.casefold fresh
  let runtime ← activatedRuntime r p binding provider fresh
  activatedModel r p binding provider runtime

/-! ## Activations -/

/-- The aliases that a release serves itself. -/
def absorbedAliases (casefold : String → String) (spec : GatewayReleaseSpec) : List String :=
  (spec.bindings.filter fun binding => binding.model.modelKey ≠ "").map fun binding =>
    casefold binding.model.modelKey

/-- An active addition whose alias the release serves itself. -/
def Absorbed (casefold : String → String) (p item : GatewayPublication) : Prop :=
  item.gatewayProfileId = p.gatewayProfileId ∧ item.id ≠ p.id ∧ item.status = .active ∧
    item.publicationKind = .modelAdd ∧
    casefold ((item.resourceManifest.modelRouteAddition.map
      ModelRouteAdditionMarker.alias?).getD "") ∈ absorbedAliases casefold p.desiredSpec

instance (casefold : String → String) (p item : GatewayPublication) :
    Decidable (Absorbed casefold p item) :=
  inferInstanceAs (Decidable (_ ∧ _ ∧ _ ∧ _ ∧ _))

/-- `item["status"] = "superseded"`. -/
def GatewayPublication.supersede (p : GatewayPublication) : GatewayPublication :=
  { p with status := .superseded }

/-- `_supersede_absorbed_model_additions`. -/
def supersedeAbsorbedModelAdditions (casefold : String → String) (p : GatewayPublication)
    (s : PublicationStore) : PublicationStore :=
  if p.resourceManifest.independent = true then s
  else
    { s with
      publications := s.publications.map fun item =>
        if Absorbed casefold p item then item.supersede else item }

/-- The release before the publication is superseded. -/
def supersedePrevious (p : GatewayPublication) : RepositoryM Unit := do
  let s ← get
  match s.effective p.gatewayProfileId with
  | some previous =>
      if previous = p.id then pure ()
      else
        let _ ← demand (s.publication? previous) (.value "Unknown publication")
        modify fun s => s.setPublication previous GatewayPublication.supersede
  | none => pure ()

/-- The release of the target becomes the one of the publication. -/
def replaceEffective (r : PublicationRules) (p : GatewayPublication) : RepositoryM Unit := do
  supersedePrevious p
  modify (supersedeAbsorbedModelAdditions r.casefold p)
  modify fun s => { s with effective := Function.update s.effective p.gatewayProfileId (some p.id) }

/-- The publication becomes active; `entries` of the audit are written for it. -/
def recordActivation (p : GatewayPublication) (entries : ℕ) (actor : String) :
    RepositoryM Unit := do
  modify fun s => s.setPublication p.id fun p => { p with status := .active }
  modify fun s =>
    s.record (List.replicate entries ⟨p.id, some .promoting, .active, actor, false⟩)
  let s ← get
  let _ ← demand (s.outbox? p.id) .stopIteration
  modify fun s => s.setOutbox p.id fun row => { row with status := .completed }

/-- `ModelActivationValidator`. -/
abbrev ModelActivationValidator :=
  GatewayPublication → Option GatewayPublication → Option String → Except PublicationError Unit

/-- What `activate_gateway_publication` checks of a publication that stands beside the
effective release. -/
def checkModelActivation (r : PublicationRules) (validate : Option ModelActivationValidator)
    (s : PublicationStore) (p : GatewayPublication) : Except PublicationError Unit :=
  match validate with
  | none => .error (.value "Model activation requires its complete transaction validator")
  | some validate =>
      if s.effective p.gatewayProfileId ≠ p.baseReleaseId then
        .error (.value "Model addition program base changed")
      else
        match s.gateway? p.gatewayProfileId with
        | none => .error (.value "Unknown gateway")
        | some gateway => do
            let previous ← r.managedProgramPublication
              (s.effectivePublication? p.gatewayProfileId) gateway.config
            validate p previous (r.programUpgrade gateway.config)

/-- What `activate_gateway_publication` checks of a migration. -/
def checkMigrationActivation (r : PublicationRules) (s : PublicationStore)
    (p : GatewayPublication) (migration : FixedRouteMigration) : Except PublicationError Unit :=
  if s.effective p.gatewayProfileId ≠ p.baseReleaseId then
    .error (.value "Program migration activation confirmation base changed")
  else do
    let previous := s.effectivePublication? p.gatewayProfileId
    let _ ← r.programMigrationManifest previous p.desiredSpec p.desiredSpecSha256 migration
    r.migrationActivation p previous

/-- What `activate_gateway_publication` checks of the markers of a publication. -/
def checkMarkers (r : PublicationRules) (validate : Option ModelActivationValidator)
    (s : PublicationStore) (p : GatewayPublication) : Except PublicationError Unit :=
  if p.resourceManifest.independent = true then checkModelActivation r validate s p else .ok ()

/-- What `activate_gateway_publication` checks of the migration of a publication. -/
def checkMigration (r : PublicationRules) (s : PublicationStore) (p : GatewayPublication) :
    Except PublicationError Unit :=
  match p.resourceManifest.fixedRouteMigration with
  | some migration => checkMigrationActivation r s p migration
  | none => .ok ()

/-- The checks of `activate_gateway_publication` before it looks at the kind. -/
def checkActivation (r : PublicationRules) (validate : Option ModelActivationValidator)
    (s : PublicationStore) (p : GatewayPublication) (actor : String) (now : ℤ) :
    Except PublicationError Unit :=
  if ¬s.OwnsPublicationLease p.id actor now then
    .error (.value "Publication activation requires the current worker lease")
  else if p.status ≠ .promoting then
    .error (.value "Only a promoted gateway publication can be activated")
  else do
    checkMarkers r validate s p
    checkMigration r s p

/-- A rotation of OAuth credentials changes no runtime. -/
def GatewayPublication.rotatesOauth (p : GatewayPublication) : Bool :=
  p.publicationKind = .credentialRotation &&
    p.desiredSpec.bindings.getLast?.any fun binding =>
        binding.authStrategy = .oauthClientCredentials

/-- `activate_gateway_publication`. -/
def activateGatewayPublication (r : PublicationRules) (id : UUID) (actor : String)
    (validate : Option ModelActivationValidator) (fresh : FreshRows) (now : ℤ) :
    RepositoryM Unit := do
  let s ← get
  let p ← demand (s.publication? id) (.value "Unknown publication")
  if p.status = .active then pure ()
  else
    lift (checkActivation r validate s p actor now)
    if p.publicationKind = .modelRemove then
      removeModel r p
      if p.resourceManifest.modelRouteRemoval.isSome = true then recordActivation p 1 actor
      else
        syncActiveRouteBindings r p
        replaceEffective r p
        recordActivation p 1 actor
    else if p.publicationKind = .routeReconcile ∨ p.rotatesOauth = true then
      syncActiveRouteBindings r p
      replaceEffective r p
      recordActivation p 2 actor
    else
      let binding ← demand p.desiredSpec.bindings.getLast? .index
      if p.publicationKind = .credentialRotation then
        rotateCredential r p binding
        syncActiveRouteBindings r p
        replaceEffective r p
        recordActivation p 0 actor
      else
        addModel r p binding fresh
        syncActiveRouteBindings r p
        if p.resourceManifest.modelRouteAddition.isSome = true then recordActivation p 1 actor
        else
          replaceEffective r p
          recordActivation p 1 actor

/-! ## Rollbacks -/

/-- `complete_gateway_release_rollback`. -/
def completeGatewayReleaseRollback (r : PublicationRules) (operationId targetId priorId : UUID)
    (actor : String) (now : ℤ) : RepositoryM Unit := do
  let s ← get
  let operation ← demand (s.operation? operationId) (.value "Unknown release operation")
  require (operation.status = .postPromotionProbing ∧ operation.LeasedBy actor now)
    (.value "Rollback operation is not ready to complete")
  let target ← demand (s.publication? targetId) (.value "Unknown publication")
  let prior ← demand (s.publication? priorId) (.value "Unknown publication")
  require (target.gatewayProfileId = operation.gatewayProfileId ∧
      prior.gatewayProfileId = operation.gatewayProfileId)
    (.value "Rollback releases belong to another gateway")
  require (s.effective operation.gatewayProfileId = some priorId)
    (.value "Effective gateway release changed during rollback")
  modify fun s => s.setPublication targetId fun p => { p with status := .active }
  modify fun s => s.setPublication priorId fun p => { p with status := .rolledBack }
  modify fun s =>
    { s with effective := Function.update s.effective operation.gatewayProfileId (some targetId) }
  syncActiveRouteBindings r target
  modify fun s => s.record
    [⟨targetId, some target.status, .active, actor, false⟩,
      ⟨priorId, some prior.status, .rolledBack, actor, false⟩]
  modify fun s => s.setOperation operationId fun row =>
    { row with status := .succeeded, leaseOwner := none, leaseExpiresAt := none }
  modify fun s =>
    s.recordOperation ⟨operationId, some .postPromotionProbing, .succeeded, actor⟩

end Turnstile
