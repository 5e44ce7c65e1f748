import Turnstile.Domain.Values
import Turnstile.Foundation.Client
import Turnstile.Foundation.Entities

/-!
# The router catalog table

A published router has two entries in a partition of a table: the row of its identifier,
which is put unconditionally, and the row of its name.  Routers of one name share its row:
the one written last is the primary document and the others are alternate documents.  The
row of a name is read, merged and written back under its tag, in three attempts.

The keys of both are digests of trimmed lower-case text, so they are in one space.
-/

namespace Turnstile

/-! ## Entities -/

/-- `text.strip().lower()`. -/
structure Folding where
  lower : Text → Text
  lower_ofUuid : ∀ id, lower (Text.ofUuid id) = Text.ofUuid id

abbrev RouterRowKey := Sha256 Text

/-- `router_row_key`. -/
def routerRowKey (folding : Folding) (nameOrId : Text) : RouterRowKey := ⟨folding.lower nameOrId⟩

/-- `ModelRouter`, as far as the projector reads it. -/
structure CatalogRouter where
  id : UUID
  name : Text
  version : ℕ
deriving DecidableEq

/-- A document of the catalog; `contents` are its other fields, as JSON. -/
structure RouterDocument where
  routerId : UUID
  routerName : Text
  routerVersion : ℕ
  contents : String
deriving DecidableEq

/-- `build_router_table_document`, for a published router with the given contents. -/
def buildRouterTableDocument (router : CatalogRouter) (contents : String) : RouterDocument :=
  ⟨router.id, router.name, router.version, contents⟩

/-- An entity of the partition.  `PrimaryEntry` tells the rows of names from those of
identifiers. -/
structure RouterEntity where
  primaryEntry : Bool
  routerId : UUID
  routerName : Text
  routerVersion : ℕ
  document : RouterDocument
  sha256 : Sha256 RouterDocument
  /-- `AlternateDocuments`; absent when empty. -/
  alternateDocuments : List RouterDocument
  owned : document.routerId = routerId
  digest : sha256 = ⟨document⟩
deriving DecidableEq

/-- `docs_by_id.setdefault`. -/
def setDefault (docs : List RouterDocument) (doc : RouterDocument) : List RouterDocument :=
  if doc.routerId ∈ docs.map (·.routerId) then docs else docs ++ [doc]

/-- `_parse_entity_documents`. -/
def parseEntityDocuments (entity : RouterEntity) : List RouterDocument :=
  entity.alternateDocuments.foldl setDefault [entity.document]

/-! ## Requests -/

/-- When a write is admitted: always, with `If-Match: *`, as an insertion, or with
`If-Match: etag`. -/
inductive WriteCondition where
  | always
  | present
  | absent
  | tagged (etag : ℕ)
deriving DecidableEq

inductive CatalogRequest where
  | get (key : RouterRowKey)
  | write (key : RouterRowKey) (entity : Option RouterEntity) (condition : WriteCondition)

/-- The answer to a read: the entity and its tag, 404, or a failure. -/
inductive GetAnswer where
  | found (row : Row RouterEntity)
  | missing
  | failed
deriving DecidableEq

/-- The answer to a write: a success, 409 or 412, 404, or a failure. -/
inductive WriteAnswer where
  | written
  | conflict
  | missing
  | failed
deriving DecidableEq, Repr

def CatalogRequest.Answer : CatalogRequest → Type
  | get _ => GetAnswer
  | write _ _ _ => WriteAnswer

/-- What `raise_for_status` or the transport raises. -/
inductive CatalogError where
  | conflict
  | missing
  | failed
deriving DecidableEq, Repr

abbrev CatalogClient (α : Type) := Client CatalogRequest.Answer CatalogError α

def getEntity (key : RouterRowKey) : CatalogClient GetAnswer :=
  .call (.get key) fun answer => .done (.ok answer)

/-- `client.put` without a condition. -/
def putEntity (key : RouterRowKey) (entity : RouterEntity) : CatalogClient WriteAnswer :=
  .call (.write key (some entity) .always) fun answer => .done (.ok answer)

/-- `client.put` with `If-Match`. -/
def replaceEntity (key : RouterRowKey) (entity : RouterEntity) (etag : ℕ) :
    CatalogClient WriteAnswer :=
  .call (.write key (some entity) (.tagged etag)) fun answer => .done (.ok answer)

/-- `client.post`. -/
def postEntity (key : RouterRowKey) (entity : RouterEntity) : CatalogClient WriteAnswer :=
  .call (.write key (some entity) .absent) fun answer => .done (.ok answer)

/-- `client.delete`, with the tag of `If-Match`, or with `*`. -/
def deleteEntity (key : RouterRowKey) (etag : Option ℕ) : CatalogClient WriteAnswer :=
  .call (.write key none (etag.elim .present .tagged)) fun answer => .done (.ok answer)

/-- `raise_for_status`. -/
def WriteAnswer.raiseForStatus : WriteAnswer → CatalogClient Unit
  | written => pure ()
  | conflict => Client.raise .conflict
  | missing => Client.raise .missing
  | failed => Client.raise .failed

/-- The end of a round: a conflict goes on to the next one, unless this is the last. -/
def WriteAnswer.settle (again : Option (CatalogClient Unit)) : WriteAnswer → CatalogClient Unit
  | conflict => again.getD (Client.raise .conflict)
  | answer => answer.raiseForStatus

/-! ## Deleting a router -/

variable (folding : Folding)

/-- The entity of a name whose first document is left as the primary one. -/
def replacementEntity (routerName : Text) (primaryDoc : RouterDocument)
    (altDocs : List RouterDocument) : RouterEntity where
  primaryEntry := true
  routerId := primaryDoc.routerId
  routerName := if primaryDoc.routerName = .plain "" then routerName else primaryDoc.routerName
  routerVersion := if primaryDoc.routerVersion = 0 then 1 else primaryDoc.routerVersion
  document := primaryDoc
  sha256 := ⟨primaryDoc⟩
  alternateDocuments := altDocs
  owned := rfl
  digest := rfl

/-- What `delete_router` does with the row of the name as it was read. -/
def removeFrom (targetId : UUID) (routerName : Text) (again : Option (CatalogClient Unit))
    (row : Row RouterEntity) : CatalogClient Unit :=
  let existingDocs := parseEntityDocuments row.document
  let remainingDocs := existingDocs.filter fun d => d.routerId ≠ targetId
  match remainingDocs with
  | primaryDoc :: altDocs =>
      if remainingDocs.length ≠ existingDocs.length ∨ row.document.routerId = targetId then
        replaceEntity (routerRowKey folding routerName)
          (replacementEntity routerName primaryDoc altDocs) row.etag >>= (·.settle again)
      else pure ()
  | [] =>
      if row.document.routerId ≠ targetId then pure ()
      else deleteEntity (routerRowKey folding routerName) (some row.etag) >>= fun
        | .missing => pure ()
        | answer => answer.settle again

/-- The rounds of `delete_router` on the row of the name, and how many are left. -/
def removeName (targetId : UUID) (routerName : Text) : ℕ → CatalogClient Unit
  | 0 => pure ()
  | n + 1 => getEntity (routerRowKey folding routerName) >>= fun
      | .missing => pure ()
      | .failed => Client.raise .failed
      | .found row => removeFrom folding targetId routerName
          (if n = 0 then none else some (removeName targetId routerName n)) row

/-- `delete_router`. -/
def deleteRouter (routerId : UUID) (routerName : Option Text) : CatalogClient Unit :=
  deleteEntity (routerRowKey folding (.ofUuid routerId)) none >>= fun
    | .conflict => Client.raise .conflict
    | .failed => Client.raise .failed
    | _ =>
        match routerName with
        | none => pure ()
        | some name => if name = .plain "" then pure () else removeName folding routerId name 3

/-! ## Upserting a router -/

/-- The entity of an identifier. -/
def idEntity (router : CatalogRouter) (contents : String) : RouterEntity where
  primaryEntry := false
  routerId := router.id
  routerName := router.name
  routerVersion := router.version
  document := buildRouterTableDocument router contents
  sha256 := ⟨buildRouterTableDocument router contents⟩
  alternateDocuments := []
  owned := rfl
  digest := rfl

/-- The entity of a name. -/
def nameEntity (router : CatalogRouter) (contents : String) (otherDocs : List RouterDocument) :
    RouterEntity :=
  { idEntity router contents with
    primaryEntry := true
    alternateDocuments := otherDocs }

/-- The documents of other routers in the row of a name; where active routers are given,
only theirs. -/
def otherDocs (targetId : UUID) (activeRouterIds : Option (List UUID)) (entity : RouterEntity) :
    List RouterDocument :=
  (parseEntityDocuments entity).filter fun existing =>
    existing.routerId ≠ targetId ∧ ∀ active ∈ activeRouterIds, existing.routerId ∈ active

/-- The rounds of `upsert_router` on the row of the name, and how many are left. -/
def mergeName (router : CatalogRouter) (contents : String) (activeRouterIds : Option (List UUID)) :
    ℕ → CatalogClient Unit
  | 0 => pure ()
  | n + 1 =>
      let key := routerRowKey folding router.name
      let again := if n = 0 then none else some (mergeName router contents activeRouterIds n)
      getEntity key >>= fun
        | .failed => Client.raise .failed
        | .missing => postEntity key (nameEntity router contents []) >>= (·.settle again)
        | .found row =>
            replaceEntity key (nameEntity router contents
              (otherDocs router.id activeRouterIds row.document)) row.etag >>= (·.settle again)

/-- `upsert_router`; `contents` are what `build_router_table_document` found for a router
that is published, if it found any. -/
def upsertRouter (router : CatalogRouter) (contents : Option String)
    (activeRouterIds : Option (List UUID)) : CatalogClient Bool :=
  match contents with
  | none => do
      deleteRouter folding router.id (some router.name)
      pure false
  | some contents => do
      let idResp ← putEntity (routerRowKey folding (.ofUuid router.id)) (idEntity router contents)
      idResp.raiseForStatus
      mergeName folding router contents activeRouterIds 3
      pure true

/-! ## Calls -/

/-- A call of the projector. -/
inductive CatalogCall where
  | upsert (router : CatalogRouter) (contents : Option String)
      (activeRouterIds : Option (List UUID))
  | delete (routerId : UUID) (routerName : Option Text)
deriving DecidableEq

namespace CatalogCall

/-- What a call does. -/
def perform : CatalogCall → CatalogClient Unit
  | upsert router contents active => upsertRouter folding router contents active >>=
      fun _ => pure ()
  | delete routerId routerName => deleteRouter folding routerId routerName

/-- The router of a call. -/
def routerId : CatalogCall → UUID
  | upsert router _ _ => router.id
  | delete routerId _ => routerId

/-- The name that a call gives for its router. -/
def routerName : CatalogCall → Option Text
  | upsert router _ _ => some router.name
  | delete _ routerName => routerName

/-- The document that a call publishes. -/
def document? : CatalogCall → Option RouterDocument
  | upsert router contents _ => contents.map (buildRouterTableDocument router)
  | delete _ _ => none

end CatalogCall

/-! ## The world -/

/-- A change of a row, by a client. -/
structure CatalogChange (ι : Type) where
  client : ι
  key : RouterRowKey
  before : Option RouterEntity
  after : Option RouterEntity

/-- The partition, and its changes, newest first.  No request reads the changes. -/
structure CatalogWorld (ι : Type) where
  table : Table RouterRowKey RouterEntity
  history : List (CatalogChange ι)

/-- How a request ends: it is answered, it fails and has no effect, or its response is
lost. -/
inductive CatalogLabel where
  | answered
  | refused
  | lost
deriving DecidableEq, Repr

namespace CatalogWorld

variable {ι : Type}

/-- The entity of a row. -/
def entity? (w : CatalogWorld ι) (key : RouterRowKey) : Option RouterEntity :=
  (w.table.rows key).map Row.document

/-- A row is written or deleted by client `i`. -/
def change (w : CatalogWorld ι) (i : ι) (key : RouterRowKey) (after : Option RouterEntity) :
    CatalogWorld ι where
  table := w.table.set key after
  history := ⟨i, key, w.entity? key, after⟩ :: w.history

/-- Whether a write is admitted. -/
def Admits (w : CatalogWorld ι) (key : RouterRowKey) : WriteCondition → Prop
  | .always => True
  | .present => w.table.rows key ≠ none
  | .absent => w.table.rows key = none
  | .tagged etag => w.table.etag? key = some etag

instance (w : CatalogWorld ι) (key : RouterRowKey) :
    (condition : WriteCondition) → Decidable (w.Admits key condition)
  | .always => .isTrue trivial
  | .present => inferInstanceAs (Decidable (w.table.rows key ≠ none))
  | .absent => inferInstanceAs (Decidable (w.table.rows key = none))
  | .tagged etag => inferInstanceAs (Decidable (w.table.etag? key = some etag))

/-- The answer to a write that is not admitted. -/
def refusal (w : CatalogWorld ι) (key : RouterRowKey) : WriteAnswer :=
  if w.table.rows key = none then .missing else .conflict

/-- How the partition answers client `i`. -/
def answer (i : ι) (w : CatalogWorld ι) :
    CatalogLabel → (r : CatalogRequest) → Option (r.Answer × CatalogWorld ι)
  | .answered, .get key => some ((w.table.rows key).elim .missing .found, w)
  | _, .get _ => some (.failed, w)
  | .answered, .write key after condition =>
      some (if w.Admits key condition then (.written, w.change i key after)
        else (w.refusal key, w))
  | .refused, .write _ _ _ => some (.failed, w)
  | .lost, .write key after condition =>
      some (.failed, if w.Admits key condition then w.change i key after else w)

end CatalogWorld

/-- How the partition answers; it does nothing on its own. -/
def catalogDynamics {ι : Type} :
    Client.Dynamics ι CatalogRequest.Answer (CatalogWorld ι) CatalogLabel where
  answer := CatalogWorld.answer
  env _ _ := none

end Turnstile
