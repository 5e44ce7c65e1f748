import Turnstile.Foundation.Client
import Turnstile.Domain.RouteRenewals
import Turnstile.Integrations.StorageRouteIntents

/-!
# The rows of proofs and renewals

The part of a scope's partition that holds the proof of the program and the renewals of
approvals, each with a receipt and an intent by its identifier.  A submission whose response
is lost is applied at any later moment or never.

The history is kept for the proofs; no request reads it.  It says what a client read, which row
it created, which batch it sent, and what every write replaced.
-/

namespace Turnstile

/-! ## Rows -/

/-- The row keys.  A digest is known by what it is of. -/
inductive ProofRow where
  | approval (contentSha256 : Sha256 RouteContent)
      (originalApprovalSha256 : Sha256 ConnectionApproval)
  | approvalReceipt (approvalId : UUID)
  | approvalIntent (approvalId : UUID)
  | proof (apiRevision gatewayId instanceId : String)
  | proofReceipt (proofId : UUID)
  | proofIntent (proofId : UUID)
deriving DecidableEq

/-- The documents of a batch. -/
inductive ProofRecord where
  | renewal (renewal : RouteApprovalRenewal)
  | proof (proof : ProgramCapabilityProof)
deriving DecidableEq

/-- What `conditional_batch` builds. -/
structure ProofBatch where
  target : RouteTarget
  scope : RouteScope
  boundary : UUID
  writes : List (Write ProofRow ProofRecord)
deriving DecidableEq

/-- The intent of a renewal. -/
structure RenewalIntent where
  renewal : RouteApprovalRenewal
  expectedEtag : Option ℕ
  target : RouteTarget
  bodySha256 : Sha256 ProofBatch
deriving DecidableEq

/-- The intent of a proof. -/
structure ProofIntent where
  proof : ProgramCapabilityProof
  expectedEtag : Option ℕ
  target : RouteTarget
  body : ProofBatch
  bodySha256 : Sha256 ProofBatch
deriving DecidableEq

inductive ProofDocument where
  | record (record : ProofRecord)
  | renewalIntent (intent : RenewalIntent)
  | proofIntent (intent : ProofIntent)
deriving DecidableEq

/-- The writes of a batch, on the rows of the scope. -/
def ProofBatch.entities (batch : ProofBatch) : List (Write ProofRow ProofDocument) :=
  batch.writes.map fun write => ⟨write.key, .record write.document, write.ifMatch⟩

/-- The insertion of a row. -/
def insertion (row : ProofRow) (document : ProofDocument) : List (Write ProofRow ProofDocument) :=
  [⟨row, document, none⟩]

/-! ## Requests -/

inductive ProofRequest where
  | read (row : ProofRow)
  | insert (row : ProofRow) (document : ProofDocument)
  | send (batch : ProofBatch)

inductive InsertAnswer where
  | created
  | refused
  | lost
deriving DecidableEq, Repr

/-- A batch is refused by the status of the response, or by that of one of its operations. -/
inductive BatchAnswer where
  | committed
  | conflict
  | operationConflict
  | unavailable
deriving DecidableEq, Repr

/-- What a request is answered with; a read that failed is answered with `none`. -/
def ProofRequest.Answer : ProofRequest → Type
  | read _ => Option (Option (Row ProofDocument))
  | insert _ _ => InsertAnswer
  | send _ => BatchAnswer

/-- A computation of a publisher. -/
abbrev ProofClient (α : Type) := Client ProofRequest.Answer RouteError α

/-! ## Worlds -/

inductive ProofEvent where
  | observed (row : ProofRow) (found : Option (Row ProofDocument))
  | created (row : ProofRow)
  | sent (batch : ProofBatch)
  | replaced (row : ProofRow) (old new : ProofDocument)
deriving DecidableEq

/-- The table, the submissions in flight, and the history, newest first. -/
structure ProofWorld (ι : Type) where
  table : Table ProofRow ProofDocument
  pool : List (ι × List (Write ProofRow ProofDocument))
  history : List (ι × ProofEvent)

namespace ProofWorld

variable {ι : Type}

def log (w : ProofWorld ι) (i : ι) (event : ProofEvent) : ProofWorld ι :=
  { w with history := (i, event) :: w.history }

/-- What some writes replace. -/
def replacements (w : ProofWorld ι) (writes : List (Write ProofRow ProofDocument)) :
    List ProofEvent :=
  writes.filterMap fun write =>
    (w.table.rows write.key).map fun old => .replaced write.key old.document write.document

/-- Apply the writes of client `i`. -/
def commit (w : ProofWorld ι) (i : ι) (writes : List (Write ProofRow ProofDocument)) :
    ProofWorld ι :=
  { w with
    table := w.table.apply writes
    history := (w.replacements writes).map (fun event => (i, event)) ++ w.history }

/-- Apply the writes of client `i` if their conditions hold. -/
def offer (w : ProofWorld ι) (i : ι) (writes : List (Write ProofRow ProofDocument)) :
    ProofWorld ι :=
  if w.table.Admits writes then w.commit i writes else w

/-- Leave some writes in flight. -/
def launch (w : ProofWorld ι) (i : ι) (writes : List (Write ProofRow ProofDocument)) :
    ProofWorld ι :=
  { w with pool := (i, writes) :: w.pool }

end ProofWorld

/-- Which of its possible answers a request gets, and which submission in flight arrives. -/
inductive ProofLabel where
  | plain
  | fail
  | lost
  | inner
  | deliver (n : ℕ)
deriving DecidableEq, Repr

section

variable {ι : Type}

/-- How the world answers client `i`. -/
def ProofWorld.answer (i : ι) (w : ProofWorld ι) (l : ProofLabel) :
    (r : ProofRequest) → Option (r.Answer × ProofWorld ι)
  | .read row =>
      match l with
      | .plain => some (some (w.table.rows row), w.log i (.observed row (w.table.rows row)))
      | .fail => some (none, w)
      | _ => none
  | .insert row document =>
      match l with
      | .plain =>
          if w.table.Admits (insertion row document) then
            some (.created, (w.commit i (insertion row document)).log i (.created row))
          else some (.refused, w)
      | .lost => some (.lost, w.launch i (insertion row document))
      | _ => none
  | .send batch =>
      match l with
      | .plain =>
          some (if w.table.Admits batch.entities then .committed else .conflict,
            (w.log i (.sent batch)).offer i batch.entities)
      | .inner =>
          if w.table.Admits batch.entities then none
          else some (.operationConflict, w.log i (.sent batch))
      | .lost => some (.unavailable, (w.log i (.sent batch)).launch i batch.entities)
      | _ => none

/-- A submission in flight arrives. -/
def ProofWorld.arrive (w : ProofWorld ι) : ProofLabel → Option (ProofWorld ι)
  | .deliver n =>
      match w.pool[n]? with
      | some (i, writes) => some ({ w with pool := w.pool.eraseIdx n }.offer i writes)
      | none => none
  | _ => none

/-- How the world answers, and what it does on its own. -/
def proofDynamics : Client.Dynamics ι ProofRequest.Answer (ProofWorld ι) ProofLabel where
  answer := ProofWorld.answer
  env := ProofWorld.arrive

end

end Turnstile
