import Mathlib.Data.Option.Basic
import Mathlib.Tactic.Common
import Turnstile.Domain.Values

/-!
# Gateway observations and usage attributions

What a gateway reports of its instances and of the requests they served.  A value that
the model validators refuse cannot be built.  `str.casefold` is a parameter: nothing
depends on how it folds a text.
-/

namespace Turnstile

/-- A text with `min_length=1`. -/
abbrev NonemptyText := { text : String // text ≠ "" }

/-! ## Instances -/

/-- `GatewayDeploymentKind`. -/
inductive GatewayDeploymentKind where
  | managed
  | selfHosted
deriving DecidableEq, Repr

/-- `GatewayObservationSource`. -/
inductive GatewayObservationSource where
  | apimContext
  | clusterTelemetry
  | localLog
  | probe
deriving DecidableEq, Repr

/-- `GatewayObservationConfidence`. -/
inductive GatewayObservationConfidence where
  | declared
  | reachable
  | observed
deriving DecidableEq, Repr

/-- `GatewayInstanceObservation`. -/
structure GatewayInstanceObservation where
  deploymentId : UUID
  nativeInstanceId : NonemptyText
  runtimeVersion : Option NonemptyText
  processorCount : Option { count : ℤ // 1 ≤ count }
  firstSeenAt : ℤ
  lastSeenAt : ℤ
  lastSuccessfulRequestAt : Option ℤ
  source : GatewayObservationSource
  confidence : GatewayObservationConfidence
  /-- "Gateway instance last-seen time cannot precede first-seen time" -/
  window : firstSeenAt ≤ lastSeenAt
  /-- "Gateway instance success time cannot follow last-seen time" -/
  success : ∀ at_ ∈ lastSuccessfulRequestAt, at_ ≤ lastSeenAt
deriving DecidableEq

namespace GatewayInstanceObservation

/-- The instance that is observed. -/
def key (o : GatewayInstanceObservation) : UUID × NonemptyText :=
  (o.deploymentId, o.nativeInstanceId)

end GatewayInstanceObservation

/-! ## Attributions -/

/-- `UsageGatewayAttributionSource`. -/
inductive UsageGatewayAttributionSource where
  | eventHub
  | observer
  | reconciliation
  | backfill
deriving DecidableEq, Repr

/-- `source_rank` of `upsert_usage_gateway_attribution`. -/
def UsageGatewayAttributionSource.rank : UsageGatewayAttributionSource → ℕ
  | .backfill => 1
  | .reconciliation => 2
  | .eventHub => 3
  | .observer => 4

theorem UsageGatewayAttributionSource.rank_injective :
    Function.Injective UsageGatewayAttributionSource.rank := by
  intro a b h
  cases a <;> cases b <;> first | rfl | cases h

/-- `UsageGatewayAttribution.validate_gateway_identity`. -/
structure ValidGatewayIdentity (casefold : String → String) (isManaged : Bool)
    (nativeGatewayId : NonemptyText) (nativeInstanceId : Option NonemptyText) : Prop where
  gateway : isManaged = true ↔ casefold nativeGatewayId = "managed"
  instance_ : isManaged = true → ∀ id ∈ nativeInstanceId, casefold id = "managed"

/-- `UsageGatewayAttribution`. -/
structure UsageGatewayAttribution (casefold : String → String) where
  usageId : NonemptyText
  apimTargetId : UUID
  gatewayDeploymentId : Option UUID
  nativeGatewayId : NonemptyText
  nativeInstanceId : Option NonemptyText
  isManaged : Bool
  apimServiceId : NonemptyText
  apimRegion : NonemptyText
  apiRevision : NonemptyText
  eventSchemaVersion : { version : ℤ // 2 ≤ version }
  attributionSource : UsageGatewayAttributionSource
  observedAt : ℤ
  identity : ValidGatewayIdentity casefold isManaged nativeGatewayId nativeInstanceId
deriving DecidableEq

namespace UsageGatewayAttribution

variable {casefold : String → String}

/-- An identifier that may be missing agrees with any when it is. -/
def agrees {α β : Type} [DecidableEq β] (f : α → β) : Option α → Option α → Bool
  | some a, some b => f a = f b
  | _, _ => true

/-- `identity_matches`. -/
def identityMatches (existing incoming : UsageGatewayAttribution casefold) : Bool :=
  existing.apimTargetId = incoming.apimTargetId
    && casefold existing.nativeGatewayId = casefold incoming.nativeGatewayId
    && existing.isManaged = incoming.isManaged
    && casefold existing.apimServiceId = casefold incoming.apimServiceId
    && casefold existing.apimRegion = casefold incoming.apimRegion
    && existing.apiRevision = incoming.apiRevision
    && agrees id existing.gatewayDeploymentId incoming.gatewayDeploymentId
    && agrees (fun text : NonemptyText => casefold text) existing.nativeInstanceId
      incoming.nativeInstanceId

end UsageGatewayAttribution

end Turnstile
