import Turnstile.Domain.ModelAvailability
import Turnstile.Foundation.Client
import Turnstile.Foundation.Guard
import Turnstile.Foundation.Selection
import Turnstile.Foundation.Table

/-!
# Projecting the availability of models

A projector reads the row of a model, then the state the repository has for it, and
replaces the row it read.  It returns a state when it finds it in the row and in the
repository afterwards.  A replacement may be applied and reported as refused, and one whose
response is lost may be applied at any later moment or never.

A replacement carries the tag of a row that was read before its state, so the row it
replaces is not newer (`Safe`).  The row never goes back (`availability_never_rolls_back`).
-/

namespace Turnstile

open Guard

/-! ## The world of the projectors -/

/-- A request of a projector. -/
inductive AvailabilityRequest where
  | readRow (modelId : UUID)
  | readSource (modelId : UUID)
  | replace (modelId : UUID) (entity : AvailabilityEntity) (etag : Option ℕ)

/-- How a replacement is answered: `true`, `false` or an error. -/
inductive ReplaceAnswer where
  | replaced
  | refused
  | failed
deriving DecidableEq, Repr

/-- What a request is answered with; a read that failed is answered with `none`. -/
def AvailabilityRequest.Answer : AvailabilityRequest → Type
  | readRow _ => Option (Option (Row AvailabilityEntity))
  | readSource _ => Option (Option ModelAvailabilityState)
  | replace _ _ _ => ReplaceAnswer

/-- A computation of a projector. -/
abbrev AvailabilityClient (α : Type) := Client AvailabilityRequest.Answer AvailabilityError α

/-- What a projector found when it read a row: the repository's state and the row. -/
structure AvailabilitySnapshot (ι : Type) where
  client : ι
  modelId : UUID
  source : Option ModelAvailabilityState
  row : Option AvailabilityEntity
deriving DecidableEq

/-- The rows, the repository, and the replacements in flight.  The history is kept for the
proofs: all states the repository has had, all entities that were stored, and what there
was when a projector read a row, the newest first. -/
structure AvailabilityWorld (ι : Type) where
  table : Table UUID AvailabilityEntity
  source : UUID → Option ModelAvailabilityState
  pool : List (Write UUID AvailabilityEntity)
  published : List ModelAvailabilityState
  stored : List (UUID × AvailabilityEntity)
  snapshots : List (AvailabilitySnapshot ι)

namespace AvailabilityWorld

variable {ι : Type}

/-- Nothing is stored and nothing has happened. -/
def empty : AvailabilityWorld ι := ⟨⟨fun _ => none, 0⟩, fun _ => none, [], [], [], []⟩

/-- The entity in the row of a model. -/
def row? (w : AvailabilityWorld ι) (modelId : UUID) : Option AvailabilityEntity :=
  (w.table.rows modelId).map Row.document

def look (w : AvailabilityWorld ι) (i : ι) (modelId : UUID) : AvailabilityWorld ι :=
  { w with snapshots := ⟨i, modelId, w.source modelId, w.row? modelId⟩ :: w.snapshots }

def commit (w : AvailabilityWorld ι) (write : Write UUID AvailabilityEntity) :
    AvailabilityWorld ι :=
  { w with
    table := w.table.apply [write]
    stored := (write.key, write.document) :: w.stored }

/-- A replacement is applied if the row still carries the tag. -/
def offer (w : AvailabilityWorld ι) (write : Write UUID AvailabilityEntity) : AvailabilityWorld ι :=
  if w.table.Admits [write] then w.commit write else w

/-- The repository's state of a model becomes a newer one. -/
def publish (w : AvailabilityWorld ι) (state : ModelAvailabilityState) : AvailabilityWorld ι :=
  { w with
    source := Function.update w.source state.modelId (some state)
    published := state :: w.published }

end AvailabilityWorld

/-- Which of its possible answers a request gets, and what else happens. -/
inductive AvailabilityLabel where
  | plain
  | fail
  /-- The replacement is applied and reported as refused. -/
  | doubted
  /-- The response is lost; the replacement stays in flight. -/
  | lost
  | publish (state : ModelAvailabilityState)
  | deliver (n : ℕ)
deriving DecidableEq

section

variable {ι : Type}

/-- How the world answers client `i`. -/
def AvailabilityWorld.answer (i : ι) (w : AvailabilityWorld ι) (l : AvailabilityLabel) :
    (r : AvailabilityRequest) → Option (r.Answer × AvailabilityWorld ι)
  | .readRow modelId =>
      match l with
      | .plain => some (some (w.table.rows modelId), w.look i modelId)
      | .fail => some (none, w)
      | _ => none
  | .readSource modelId =>
      match l with
      | .plain => some (some (w.source modelId), w)
      | .fail => some (none, w)
      | _ => none
  | .replace modelId entity etag =>
      match l with
      | .plain =>
          some (if w.table.Admits [⟨modelId, entity, etag⟩] then .replaced else .refused,
            w.offer ⟨modelId, entity, etag⟩)
      | .doubted => some (.refused, w.offer ⟨modelId, entity, etag⟩)
      | .lost => some (.failed, { w with pool := ⟨modelId, entity, etag⟩ :: w.pool })
      | _ => none

/-- The repository changes, with a greater revision, or a replacement in flight arrives. -/
def AvailabilityWorld.change (w : AvailabilityWorld ι) :
    AvailabilityLabel → Option (AvailabilityWorld ι)
  | .publish state =>
      if ∀ current ∈ w.source state.modelId, current.revision < state.revision then
        some (w.publish state)
      else none
  | .deliver n => (w.pool[n]?).map fun write => { w with pool := w.pool.eraseIdx n }.offer write
  | _ => none

def availabilityDynamics :
    Client.Dynamics ι AvailabilityRequest.Answer (AvailabilityWorld ι) AvailabilityLabel where
  answer := AvailabilityWorld.answer
  env := AvailabilityWorld.change

end

/-! ## A projector -/

/-- `read_versioned_entity` of the row of a model. -/
def readVersionedEntity (modelId : UUID) :
    AvailabilityClient (Option (Row AvailabilityEntity)) :=
  .call (.readRow modelId) fun answer => .done (answer.elim (.error .transport) .ok)

/-- `get_model_availability_state`. -/
def getModelAvailabilityState (modelId : UUID) :
    AvailabilityClient (Option ModelAvailabilityState) :=
  .call (.readSource modelId) fun answer => .done (answer.elim (.error .transport) .ok)

/-- What `replace_if_match` returns. -/
def ReplaceAnswer.result : ReplaceAnswer → Except AvailabilityError Bool
  | .replaced => .ok true
  | .refused => .ok false
  | .failed => .error .transport

/-- `replace_if_match` of the row of a model. -/
def replaceAvailabilityIfMatch (modelId : UUID) (entity : AvailabilityEntity) (etag : Option ℕ) :
    AvailabilityClient Bool :=
  .call (.replace modelId entity etag) fun answer => .done answer.result

/-- `_projected_state`. -/
def projectedState (current : Option (Row AvailabilityEntity)) (modelId : UUID) :
    Except AvailabilityError (Option ModelAvailabilityState) :=
  match current with
  | none => .ok none
  | some row => (ModelAvailabilityState.fromEntity row.document modelId).map some

/-- The projected state is newer than the desired one, or another with its revision. -/
def RollsBack (projected : Option ModelAvailabilityState) (desired : ModelAvailabilityState) :
    Prop :=
  ∃ state ∈ projected, desired.revision < state.revision ∨
    state.revision = desired.revision ∧ state ≠ desired

instance (projected : Option ModelAvailabilityState) (desired : ModelAvailabilityState) :
    Decidable (RollsBack projected desired) :=
  inferInstanceAs (Decidable (∃ state ∈ projected, _))

/-- One round of `project_model_availability`. -/
def availabilityRound (modelId : UUID) (retry : AvailabilityClient ModelAvailabilityState) :
    AvailabilityClient ModelAvailabilityState := do
  let current ← readVersionedEntity modelId
  let projected ← Client.lift (projectedState current modelId)
  match ← getModelAvailabilityState modelId with
  | none => .raise (.unavailable "Model availability source is missing")
  | some desired =>
      if desired.modelId ≠ modelId then
        .raise (.unavailable "Model availability source is missing")
      else if RollsBack projected desired then
        .raise (.unavailable "Model availability revision cannot roll back")
      else if ← replaceAvailabilityIfMatch modelId desired.entity (current.map Row.etag) then
        let observed ← Client.lift (projectedState (← readVersionedEntity modelId) modelId)
        let latest ← getModelAvailabilityState modelId
        if latest = some desired ∧ observed = some desired then pure desired else retry
      else retry

/-- `for _ in range(3)`. -/
def availabilityRounds (modelId : UUID) : ℕ → AvailabilityClient ModelAvailabilityState
  | 0 => .raise (.unavailable "Model availability projection is pending")
  | n + 1 => availabilityRound modelId (availabilityRounds modelId n)

/-- `project_model_availability`. -/
def projectModelAvailability (modelId : UUID) : AvailabilityClient ModelAvailabilityState :=
  availabilityRounds modelId 3

end Turnstile
