import Mathlib.Data.Option.Basic
import Mathlib.Logic.Function.Basic
import Mathlib.Order.Bounds.Basic
import Mathlib.Order.WithBot
import Turnstile.Domain.GatewayTargets
import Turnstile.Foundation.Guard
import Turnstile.Foundation.Selection
import Turnstile.Foundation.Merge

/-!
# Observations and attributions in the repository

The repository merges what it is told of a gateway instance, and of the gateway that
served a request, into one row each.  Deliveries are repeated and come in any order.
-/

namespace Turnstile

open Guard

/-! ## The store -/

/-- `ValueError` of the repository. -/
structure ValueError where
  message : String
deriving DecidableEq, Repr

/-- A row of `gateway_deployments`. -/
structure GatewayDeploymentRow where
  apimTargetId : UUID
  nativeGatewayId : String
  kind : GatewayDeploymentKind

/-- A row of `gateway_instance_observations`. -/
structure ObservationRow where
  observation : GatewayInstanceObservation
  updatedAt : ℤ
deriving DecidableEq

/-- A row of `usage_gateway_attributions`. -/
structure AttributionRow (casefold : String → String) where
  attribution : UsageGatewayAttribution casefold
  createdAt : ℤ
  updatedAt : ℤ
deriving DecidableEq

/-- The part of the repository that gateways report to. -/
structure GatewayTargetStore (casefold : String → String) where
  apimTargets : List UUID
  gatewayDeployments : UUID → Option GatewayDeploymentRow
  usageRecords : List NonemptyText
  gatewayInstanceObservations : UUID × NonemptyText → Option ObservationRow
  usageGatewayAttributions : NonemptyText → Option (AttributionRow casefold)

/-! ## Merging an observation -/

namespace GatewayInstanceObservation

variable (existing incoming : GatewayInstanceObservation)

/-- `last_successful_request_at` of the merged row. -/
def mergedSuccess : Option ℤ :=
  match incoming.lastSuccessfulRequestAt, existing.lastSuccessfulRequestAt with
  | some new, some old => if old < new then some new else some old
  | some new, none => some new
  | none, old => old

theorem mem_of_mem_mergedSuccess {time : ℤ} (h : time ∈ existing.mergedSuccess incoming) :
    time ∈ incoming.lastSuccessfulRequestAt ∨ time ∈ existing.lastSuccessfulRequestAt := by
  unfold mergedSuccess at h
  split at h
  next new old hnew hold =>
    split at h
    · exact .inl (hnew ▸ h)
    · exact .inr (hold ▸ h)
  next new hnew hold => exact .inl (hnew ▸ h)
  next hnew => exact .inr h

theorem le_of_mem_mergedSuccess {time : ℤ} (h : time ∈ existing.mergedSuccess incoming) :
    time ≤ max incoming.lastSeenAt existing.lastSeenAt := by
  rcases existing.mem_of_mem_mergedSuccess incoming h with hnew | hold
  · exact le_max_of_le_left (incoming.success time hnew)
  · exact le_max_of_le_right (existing.success time hold)

/-- What the row of an instance becomes. -/
def merge : GatewayInstanceObservation where
  deploymentId := existing.deploymentId
  nativeInstanceId := existing.nativeInstanceId
  runtimeVersion :=
    if existing.lastSeenAt ≤ incoming.lastSeenAt then
      incoming.runtimeVersion.or existing.runtimeVersion
    else existing.runtimeVersion
  processorCount :=
    if existing.lastSeenAt ≤ incoming.lastSeenAt then
      incoming.processorCount.or existing.processorCount
    else existing.processorCount
  firstSeenAt := min incoming.firstSeenAt existing.firstSeenAt
  lastSeenAt := max incoming.lastSeenAt existing.lastSeenAt
  lastSuccessfulRequestAt := existing.mergedSuccess incoming
  source := if existing.lastSeenAt ≤ incoming.lastSeenAt then incoming.source else existing.source
  confidence :=
    if existing.lastSeenAt ≤ incoming.lastSeenAt then incoming.confidence else existing.confidence
  window := (min_le_left _ _).trans (incoming.window.trans (le_max_left _ _))
  success _ h := existing.le_of_mem_mergedSuccess incoming h

end GatewayInstanceObservation

/-! ## Merging an attribution -/

namespace UsageGatewayAttribution

variable {casefold : String → String} {existing incoming : UsageGatewayAttribution casefold}

/-- Attributions to one gateway. -/
structure SameGateway (a b : UsageGatewayAttribution casefold) : Prop where
  target : a.apimTargetId = b.apimTargetId
  gateway : casefold a.nativeGatewayId = casefold b.nativeGatewayId
  managed : a.isManaged = b.isManaged
  service : casefold a.apimServiceId = casefold b.apimServiceId
  region : casefold a.apimRegion = casefold b.apimRegion
  revision : a.apiRevision = b.apiRevision

/-- Attributions that may be merged. -/
structure Matches (a b : UsageGatewayAttribution casefold) : Prop extends SameGateway a b where
  deployment : ∀ x ∈ a.gatewayDeploymentId, ∀ y ∈ b.gatewayDeploymentId, x = y
  instance_ : ∀ x ∈ a.nativeInstanceId, ∀ y ∈ b.nativeInstanceId, casefold x = casefold y

theorem agrees_iff {α β : Type} [DecidableEq β] {f : α → β} {a b : Option α} :
    agrees f a b = true ↔ ∀ x ∈ a, ∀ y ∈ b, f x = f y := by
  cases a <;> cases b <;> simp [agrees]

theorem identityMatches_iff : existing.identityMatches incoming = true ↔
    existing.Matches incoming := by
  simp only [identityMatches, Bool.and_eq_true, decide_eq_true_eq, agrees_iff, and_assoc]
  constructor
  · rintro ⟨htarget, hgateway, hmanaged, hservice, hregion, hrevision, hdeployment, hinstance⟩
    exact ⟨⟨htarget, hgateway, hmanaged, hservice, hregion, hrevision⟩, hdeployment, hinstance⟩
  · rintro ⟨⟨htarget, hgateway, hmanaged, hservice, hregion, hrevision⟩, hdeployment, hinstance⟩
    exact ⟨htarget, hgateway, hmanaged, hservice, hregion, hrevision, hdeployment, hinstance⟩

/-- What the row of a request becomes.  A deployment id and a given instance id are
true in Python, so `or` keeps the first that is given. -/
def merge (existing incoming : UsageGatewayAttribution casefold)
    (h : existing.identityMatches incoming = true) : UsageGatewayAttribution casefold where
  usageId := existing.usageId
  apimTargetId := existing.apimTargetId
  gatewayDeploymentId := existing.gatewayDeploymentId.or incoming.gatewayDeploymentId
  nativeGatewayId := existing.nativeGatewayId
  nativeInstanceId := existing.nativeInstanceId.or incoming.nativeInstanceId
  isManaged := existing.isManaged
  apimServiceId := existing.apimServiceId
  apimRegion := existing.apimRegion
  apiRevision := existing.apiRevision
  eventSchemaVersion := max existing.eventSchemaVersion incoming.eventSchemaVersion
  attributionSource :=
    if existing.attributionSource.rank ≤ incoming.attributionSource.rank then
      incoming.attributionSource
    else existing.attributionSource
  observedAt := max existing.observedAt incoming.observedAt
  identity := by
    refine ⟨existing.identity.gateway, fun hmanaged id hid => ?_⟩
    rw [Option.mem_def, Option.or_eq_some_iff] at hid
    rcases hid with hid | ⟨-, hid⟩
    · exact existing.identity.instance_ hmanaged id hid
    · rw [(identityMatches_iff.1 h).managed] at hmanaged
      exact incoming.identity.instance_ hmanaged id hid

end UsageGatewayAttribution

/-! ## Deliveries -/

namespace GatewayTargetStore

variable {casefold : String → String} (store : GatewayTargetStore casefold)

/-- `upsert_gateway_instance_observation` at time `now`. -/
def upsertGatewayInstanceObservation (now : ℤ) (observation : GatewayInstanceObservation) :
    Except ValueError (GatewayTargetStore casefold × ObservationRow) := do
  require (store.gatewayDeployments observation.deploymentId).isSome ⟨"Unknown Gateway deployment"⟩
  let row : ObservationRow :=
    match store.gatewayInstanceObservations observation.key with
    | none => ⟨observation, now⟩
    | some existing => ⟨existing.observation.merge observation, now⟩
  pure ({ store with
    gatewayInstanceObservations :=
      Function.update store.gatewayInstanceObservations observation.key (some row) }, row)

/-- The checks of `upsert_usage_gateway_attribution` that do not look at its row. -/
def checkUsageGatewayAttribution (attribution : UsageGatewayAttribution casefold) :
    Except ValueError Unit := do
  require (attribution.apimTargetId ∈ store.apimTargets) ⟨"Unknown APIM target"⟩
  require (attribution.usageId ∈ store.usageRecords) ⟨"Unknown canonical usage ID"⟩
  match attribution.gatewayDeploymentId with
  | none => pure ()
  | some id =>
      match store.gatewayDeployments id with
      | none => .error ⟨"Usage Gateway deployment does not belong to the APIM target"⟩
      | some deployment =>
          require (deployment.apimTargetId = attribution.apimTargetId)
            ⟨"Usage Gateway deployment does not belong to the APIM target"⟩
          require (casefold deployment.nativeGatewayId = casefold attribution.nativeGatewayId ∧
              decide (deployment.kind = .managed) = attribution.isManaged)
            ⟨"Usage Gateway attribution conflicts with the deployment identity"⟩

/-- `upsert_usage_gateway_attribution` at time `now`. -/
def upsertUsageGatewayAttribution (now : ℤ) (attribution : UsageGatewayAttribution casefold) :
    Except ValueError (GatewayTargetStore casefold × AttributionRow casefold) := do
  store.checkUsageGatewayAttribution attribution
  let row : AttributionRow casefold ←
    match store.usageGatewayAttributions attribution.usageId with
    | none => pure ⟨attribution, now, now⟩
    | some existing =>
        if h : existing.attribution.identityMatches attribution = true then
          pure ⟨existing.attribution.merge attribution h, existing.createdAt, now⟩
        else .error ⟨"Conflicting Gateway attribution for canonical usage ID"⟩
  pure ({ store with
    usageGatewayAttributions :=
      Function.update store.usageGatewayAttributions attribution.usageId (some row) }, row)

/-- An observation is delivered; what raises changes nothing. -/
def deliverObservation (delivery : GatewayInstanceObservation × ℤ) : GatewayTargetStore casefold :=
  match store.upsertGatewayInstanceObservation delivery.2 delivery.1 with
  | .ok (store, _) => store
  | .error _ => store

/-- An attribution is delivered; what raises changes nothing. -/
def deliverAttribution (delivery : UsageGatewayAttribution casefold × ℤ) :
    GatewayTargetStore casefold :=
  match store.upsertUsageGatewayAttribution delivery.2 delivery.1 with
  | .ok (store, _) => store
  | .error _ => store

/-- Some delivery raises the conflict. -/
def HitsConflict (deliveries : List (UsageGatewayAttribution casefold × ℤ)) : Prop :=
  Hits deliverAttribution
    (fun store delivery => store.upsertUsageGatewayAttribution delivery.2 delivery.1
      = .error ⟨"Conflicting Gateway attribution for canonical usage ID"⟩) store deliveries

end GatewayTargetStore

end Turnstile
