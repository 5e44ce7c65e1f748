import Turnstile.Domain.Values

/-!
# The availability of a model

The state of a model in the repository, and the table entity it is projected to.  An
entity is read back as a state when it names the model and passes the state's checks.
-/

namespace Turnstile

open Guard

/-- What the projection raises. -/
inductive AvailabilityError where
  | unavailable (message : String)
  | transport
deriving DecidableEq, Repr

/-- `lifecycle` of a model. -/
inductive AvailabilityLifecycle where
  | staged
  | active
  | deleted
deriving DecidableEq, Repr

/-- `AVAILABILITY_PARTITION`. -/
def availabilityPartition : String := "model-availability|v1"

/-- `MAX_AVAILABILITY_REVISION`. -/
def maxAvailabilityRevision : ℤ := 2147483647

/-- `ModelAvailabilityState`. -/
structure ModelAvailabilityState where
  modelId : UUID
  revision : ℤ
  enabled : Bool
  lifecycle : AvailabilityLifecycle
  inRange : 1 ≤ revision ∧ revision ≤ maxAvailabilityRevision
  /-- "A deleted model cannot be available" -/
  deleted : ¬(lifecycle = .deleted ∧ enabled = true)
deriving DecidableEq

/-- A row of the availability partition. -/
structure AvailabilityEntity where
  partitionKey : String
  rowKey : Text
  schemaVersion : ℤ
  modelId : Text
  revision : ℤ
  enabled : Bool
  lifecycle : AvailabilityLifecycle
deriving DecidableEq

namespace ModelAvailabilityState

/-- `entity`. -/
def entity (state : ModelAvailabilityState) : AvailabilityEntity where
  partitionKey := availabilityPartition
  rowKey := .ofUuid state.modelId
  schemaVersion := 1
  modelId := .ofUuid state.modelId
  revision := state.revision
  enabled := state.enabled
  lifecycle := state.lifecycle

/-- `from_entity`, whose errors `_projected_state` turns into one. -/
def fromEntity (entity : AvailabilityEntity) (modelId : UUID) :
    Except AvailabilityError ModelAvailabilityState :=
  if entity.partitionKey = availabilityPartition ∧ entity.rowKey = .ofUuid modelId ∧
      entity.modelId = .ofUuid modelId ∧ entity.schemaVersion = 1 then
    if h : (1 ≤ entity.revision ∧ entity.revision ≤ maxAvailabilityRevision) ∧
        ¬(entity.lifecycle = .deleted ∧ entity.enabled = true) then
      .ok ⟨modelId, entity.revision, entity.enabled, entity.lifecycle, h.1, h.2⟩
    else .error (.unavailable "Model availability projection is invalid")
  else .error (.unavailable "Model availability projection is invalid")

/-- An entity is read back as the state it was made of. -/
theorem fromEntity_eq_ok {entity : AvailabilityEntity} {modelId : UUID}
    {state : ModelAvailabilityState} :
    fromEntity entity modelId = .ok state ↔ entity = state.entity ∧ state.modelId = modelId := by
  unfold fromEntity
  constructor
  · intro h
    split at h
    next hidentity =>
      split at h
      next hvalid =>
        cases h
        obtain ⟨hpartition, hrow, hmodel, hschema⟩ := hidentity
        refine ⟨?_, rfl⟩
        cases entity
        subst hpartition hrow hmodel hschema
        rfl
      next => cases h
    next => cases h
  · rintro ⟨rfl, rfl⟩
    rw [if_pos ⟨rfl, rfl, rfl, rfl⟩, dif_pos ⟨state.inRange, state.deleted⟩]
    rfl

theorem entity_injective : Function.Injective entity := by
  intro a b h
  have ha : fromEntity b.entity a.modelId = .ok a := fromEntity_eq_ok.2 ⟨h.symm, rfl⟩
  have hmodel : b.modelId = a.modelId := by
    have hkey : Text.ofUuid a.modelId = Text.ofUuid b.modelId :=
      congrArg AvailabilityEntity.modelId h
    injection hkey with hmodel
    exact hmodel.symm
  have hb : fromEntity b.entity a.modelId = .ok b := fromEntity_eq_ok.2 ⟨rfl, hmodel⟩
  exact Except.ok.inj (ha.symm.trans hb)

end ModelAvailabilityState

end Turnstile
