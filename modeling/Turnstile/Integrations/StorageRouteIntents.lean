import Turnstile.Domain.StorageRoutes
import Turnstile.Foundation.Table

/-!
# Route rows and intents

The rows of one scope's partition, and the intents that are recorded before a batch is
sent.  A batch is known by its boundary, which is drawn for it, and by its writes, so an
intent checks its body by comparing the writes with those it stands for.
-/

namespace Turnstile

open Guard

/-! ## Rows -/

/-- The partitions of a scope. -/
inductive RoutePartition where
  | root
  | contents
  | members (version : UUID)
  | catalog (version : UUID)
deriving DecidableEq, Repr

/-- `str(UUID(...))`, 32 hex digits in five groups. -/
def canonicalText (id : UUID) : List Char :=
  let digits := (List.range 32).map fun i => Nat.digitChar (id / 16 ^ (31 - i) % 16)
  digits.take 8 ++ '-' :: (digits.drop 8).take 4 ++ '-' :: (digits.drop 12).take 4 ++
    '-' :: (digits.drop 16).take 4 ++ '-' :: digits.drop 20

/-- What a partition key has after the partition of its scope: `content_partition`,
`member_partition` and `catalog_partition`. -/
def RoutePartition.suffix : RoutePartition → List Char
  | root => []
  | contents => ":content".toList
  | members version => ':' :: canonicalText version
  | catalog version => ':' :: canonicalText version ++ ":catalog".toList

/-- The row keys. -/
inductive RouteRow where
  | writer
  | active
  | writerTransition (operationId : UUID)
  | transition (operationId : UUID)
  | initialization (operationId : UUID)
  | readback (configurationSha256 : Sha256 RouteConfiguration) (cursor : ℕ)
  | model (aliasSha256 : Sha256 (List Char))
  | content (sha256 : Sha256 RouteContent)
  | member (aliasSha256 : Sha256 (List Char))
deriving DecidableEq

structure RouteKey where
  partition : RoutePartition
  row : RouteRow
deriving DecidableEq

/-- `member_row`. -/
def memberRow (a : RouteAlias) : Sha256 (List Char) := ⟨a.casefold⟩

/-! ## Batches -/

/-- The documents of a batch. -/
inductive RouteRecord where
  | writer (state : RouteWriterState)
  | active (head : ActiveRouteHead)
  | writerReceipt (receipt : RouteWriterReceipt)
  | receipt (receipt : RouteTransitionReceipt)
deriving DecidableEq

/-- The endpoint and the table. -/
structure RouteTarget where
  endpoint : String
  table : String
deriving DecidableEq

/-- What `conditional_batch` builds for the partition of a scope. -/
structure RouteBatch where
  target : RouteTarget
  scope : RouteScope
  boundary : UUID
  writes : List (Write RouteRow RouteRecord)
deriving DecidableEq

/-- `require_route_batch`. -/
def requireRouteBatch (target : RouteTarget) (scope : RouteScope) (body : RouteBatch)
    (expected : List (Write RouteRow RouteRecord)) : Except RouteError Unit :=
  require (body.target = target ∧ body.scope = scope ∧ body.writes = expected)
    (.value "ROUTE_ACTIVATION_BATCH_INVALID")

/-! ## Writer intents -/

/-- `RouteWriterIntent`. -/
structure RouteWriterIntent where
  receipt : RouteWriterReceipt
  before : Option RouteWriterState
  after : RouteWriterState
  body : RouteBatch
  bodySha256 : Sha256 RouteBatch
  target : RouteTarget
deriving DecidableEq

namespace RouteWriterIntent

/-- The state a transition from `before` must lead to. -/
def expectedAfter (i : RouteWriterIntent) (before : RouteWriterState) :
    Except RouteError RouteWriterState :=
  match i.receipt.kind with
  | .takeover => before.takeover i.after.ownerToken i.after.publicationId i.after.leasedEpoch
  | .renew => before.renew i.after.ownerToken i.after.publicationId i.after.leasedEpoch
  | .prepare =>
      match i.after.pending with
      | none => .error (.value "ROUTE_WRITER_TRANSITION_INVALID")
      | some pending =>
          before.prepare pending i.after.ownerToken i.after.publicationId i.after.leasedEpoch
  | .abort => do
      require (before.pending ≠ none) (.value "ROUTE_WRITER_TRANSITION_INVALID")
      before.requireOwner i.after.ownerToken i.after.publicationId i.after.leasedEpoch
      before.withoutPending
  | .claim => .error (.value "ROUTE_WRITER_TRANSITION_INVALID")

/-- The transition is one of those the writer can make. -/
def requireTransition (i : RouteWriterIntent) : Except RouteError Unit :=
  match i.before with
  | none =>
      require (i.receipt.kind = .claim ∧ i.after.writerEpoch = 1 ∧ i.after.pending = none)
        (.value "ROUTE_WRITER_TRANSITION_INVALID")
  | some before => do
      let expected ← i.expectedAfter before
      require (expected = i.after) (.value "ROUTE_WRITER_TRANSITION_INVALID")

/-- The writes of the intent. -/
def writes (i : RouteWriterIntent) : List (Write RouteRow RouteRecord) :=
  [⟨.writer, .writer i.after, i.receipt.beforeEtag⟩,
    ⟨.writerTransition i.receipt.operationId, .writerReceipt i.receipt, none⟩]

/-- `RouteWriterIntent.to_record`; the record has the fields of the intent. -/
def toRecord (i : RouteWriterIntent) : Except RouteError RouteWriterIntent := do
  require (i.receipt.scope = i.after.scope ∧ i.receipt.ownerToken = i.after.ownerToken ∧
      i.receipt.writerEpoch = i.after.writerEpoch ∧ i.receipt.afterSha256 = ⟨i.after⟩ ∧
      i.receipt.beforeSha256 = i.before.map Sha256.mk ∧
      (i.receipt.beforeEtag = none ↔ i.before = none) ∧ i.bodySha256 = ⟨i.body⟩)
    (.value "ROUTE_WRITER_INTENT_INVALID")
  i.requireTransition
  requireRouteBatch i.target i.receipt.scope i.body i.writes
  pure i

/-- `RouteWriterIntent.from_record`. -/
def fromRecord (record : RouteWriterIntent) : Except RouteError RouteWriterIntent := do
  let restored ← record.toRecord
  require (restored = record) (.value "ROUTE_WRITER_RECORD_NONCANONICAL")
  pure record

/-- What an intent that was recorded satisfies. -/
structure Recorded (i : RouteWriterIntent) : Prop where
  owner : i.receipt.ownerToken = i.after.ownerToken
  writerEpoch : i.receipt.writerEpoch = i.after.writerEpoch
  etag : i.receipt.beforeEtag = none ↔ i.before = none
  transition : i.requireTransition = .ok ()
  writes : i.body.writes = i.writes

theorem toRecord_eq_ok {i r : RouteWriterIntent} (h : i.toRecord = .ok r) : r = i ∧ i.Recorded := by
  obtain ⟨hfields, h⟩ := require_bind_eq_ok.1 h
  obtain ⟨htransition, h⟩ := check_bind_eq_ok.1 h
  obtain ⟨hbatch, h⟩ := check_bind_eq_ok.1 h
  obtain ⟨-, howner, hepoch, -, -, hetag, -⟩ := hfields
  obtain ⟨-, -, hwrites⟩ := require_eq_ok.1 hbatch
  exact ⟨(Except.ok.inj h).symm, howner, hepoch, hetag, htransition, hwrites⟩

/-- A recorded intent is restored. -/
theorem fromRecord_of_toRecord {i r : RouteWriterIntent} (h : i.toRecord = .ok r) :
    i.fromRecord = .ok i := by
  obtain ⟨rfl, -⟩ := toRecord_eq_ok h
  rw [fromRecord, h, ok_bind, require_bind_of rfl]
  rfl

theorem fromRecord_eq_ok {i r : RouteWriterIntent} (h : i.fromRecord = .ok r) :
    r = i ∧ i.toRecord = .ok i := by
  obtain ⟨restored, hrestored, h⟩ := bind_eq_ok.1 h
  obtain ⟨rfl, h⟩ := require_bind_eq_ok.1 h
  exact ⟨(Except.ok.inj h).symm, hrestored⟩

end RouteWriterIntent

/-! ## Activation intents -/

/-- `RouteActivationIntent`. -/
structure RouteActivationIntent where
  receipt : RouteTransitionReceipt
  head : ActiveRouteHead
  body : RouteBatch
  bodySha256 : Sha256 RouteBatch
  target : RouteTarget
  writerBefore : Option RouteWriterState
  writerAfter : Option RouteWriterState
  writerEtag : Option ℕ
deriving DecidableEq

namespace RouteActivationIntent

/-- The writes to the active row and of the receipt. -/
def headWrites (i : RouteActivationIntent) : List (Write RouteRow RouteRecord) :=
  [⟨.active, .active i.head, i.receipt.beforeEtag⟩,
    ⟨.transition i.receipt.operationId, .receipt i.receipt, none⟩]

/-- `RouteActivationIntent._require_valid_body`. -/
def requireValidBody (i : RouteActivationIntent) : Except RouteError Unit :=
  match i.writerBefore, i.writerAfter, i.writerEtag with
  | none, none, none => requireRouteBatch i.target i.receipt.scope i.body i.headWrites
  | some before, some after, some etag => do
      before.requireOwner before.ownerToken before.publicationId i.head.activatedEpoch
      let expected ← before.withActive i.head
      require (before.scope = i.receipt.scope ∧
          (before.pending.map RoutePendingActivation.operationId = some i.receipt.operationId) ∧
          (before.pending.map RoutePendingActivation.approval = some i.head.approval) ∧
          before.activeGeneration = i.receipt.beforeGeneration ∧ after = expected)
        (.value "ROUTE_ACTIVATION_WRITER_CHANGED")
      requireRouteBatch i.target i.receipt.scope i.body
        (⟨.writer, .writer after, some etag⟩ :: i.headWrites)
  | _, _, _ => .error (.value "ROUTE_ACTIVATION_WRITER_INCOMPLETE")

/-- `RouteActivationIntent.to_record`; the record has the fields of the intent. -/
def toRecord (i : RouteActivationIntent) : Except RouteError RouteActivationIntent := do
  require (i.bodySha256 = ⟨i.body⟩ ∧ i.receipt.scope = i.head.approval.scope ∧
      i.receipt.routeVersion = i.head.approval.routeVersion ∧
      i.receipt.approvalId = i.head.approval.approvalId ∧ i.receipt.afterSha256 = ⟨i.head⟩ ∧
      i.receipt.beforeGeneration + 1 = i.head.approval.generation ∧
      (i.receipt.beforeEtag = none ↔ i.receipt.beforeGeneration = 0))
    (.value "ROUTE_ACTIVATION_INTENT_INVALID")
  i.requireValidBody
  pure i

/-- `RouteActivationIntent.from_record`. -/
def fromRecord (record : RouteActivationIntent) : Except RouteError RouteActivationIntent := do
  let restored ← record.toRecord
  require (restored = record) (.value "ROUTE_ACTIVATION_RECORD_NONCANONICAL")
  pure record

/-- The write to the writer row, where the writer is known. -/
def writerWrites (i : RouteActivationIntent) : List (Write RouteRow RouteRecord) :=
  match i.writerAfter with
  | some after => [⟨.writer, .writer after, i.writerEtag⟩]
  | none => []

/-- What the writer states of a recorded intent satisfy. -/
structure Prepared (i : RouteActivationIntent) (before after : RouteWriterState) : Prop where
  pending : ∃ p, before.pending = some p ∧ p.operationId = i.receipt.operationId ∧
    p.approval = i.head.approval
  activeGeneration : before.activeGeneration = i.receipt.beforeGeneration
  after : before.withActive i.head = .ok after

/-- What an intent that was recorded satisfies. -/
structure Recorded (i : RouteActivationIntent) : Prop where
  afterSha256 : i.receipt.afterSha256 = ⟨i.head⟩
  generation : i.receipt.beforeGeneration + 1 = i.head.approval.generation
  etag : i.receipt.beforeEtag = none ↔ i.receipt.beforeGeneration = 0
  writer : (i.writerBefore = none ∧ i.writerAfter = none ∧ i.writerEtag = none) ∨
    ∃ before after etag, i.writerBefore = some before ∧ i.writerAfter = some after ∧
      i.writerEtag = some etag ∧ i.Prepared before after
  writes : i.body.writes = i.writerWrites ++ i.headWrites

theorem requireValidBody_eq_ok {i : RouteActivationIntent} (h : i.requireValidBody = .ok ()) :
    ((i.writerBefore = none ∧ i.writerAfter = none ∧ i.writerEtag = none) ∨
      ∃ before after etag, i.writerBefore = some before ∧ i.writerAfter = some after ∧
        i.writerEtag = some etag ∧ i.Prepared before after) ∧
      i.body.writes = i.writerWrites ++ i.headWrites := by
  rw [requireValidBody] at h
  split at h
  next hbefore hafter hetag =>
    obtain ⟨-, -, hwrites⟩ := require_eq_ok.1 h
    exact ⟨.inl ⟨hbefore, hafter, hetag⟩, by simpa [writerWrites, hafter] using hwrites⟩
  next before after etag hbefore hafter hetag =>
    obtain ⟨-, h⟩ := check_bind_eq_ok.1 h
    obtain ⟨expected, hexpected, h⟩ := bind_eq_ok.1 h
    obtain ⟨⟨-, hoperation, happroval, hgeneration, hafter'⟩, h⟩ := require_bind_eq_ok.1 h
    obtain ⟨-, -, hwrites⟩ := require_eq_ok.1 h
    subst hafter'
    obtain ⟨p, hp, hoperation⟩ := Option.map_eq_some_iff.1 hoperation
    rw [hp] at happroval
    refine ⟨.inr ⟨before, after, etag, hbefore, hafter, hetag,
      ⟨p, hp, hoperation, Option.some.inj happroval⟩, hgeneration, hexpected⟩, ?_⟩
    simpa [writerWrites, hafter, hetag] using hwrites
  next => cases h

theorem toRecord_eq_ok {i r : RouteActivationIntent} (h : i.toRecord = .ok r) :
    r = i ∧ i.Recorded := by
  obtain ⟨hfields, h⟩ := require_bind_eq_ok.1 h
  obtain ⟨hbody, h⟩ := check_bind_eq_ok.1 h
  obtain ⟨-, -, -, -, hafter, hgeneration, hetag⟩ := hfields
  obtain ⟨hwriter, hwrites⟩ := requireValidBody_eq_ok hbody
  exact ⟨(Except.ok.inj h).symm, hafter, hgeneration, hetag, hwriter, hwrites⟩

/-- A recorded intent is restored. -/
theorem fromRecord_of_toRecord {i r : RouteActivationIntent} (h : i.toRecord = .ok r) :
    i.fromRecord = .ok i := by
  obtain ⟨rfl, -⟩ := toRecord_eq_ok h
  rw [fromRecord, h, ok_bind, require_bind_of rfl]
  rfl

theorem fromRecord_eq_ok {i r : RouteActivationIntent} (h : i.fromRecord = .ok r) :
    r = i ∧ i.toRecord = .ok i := by
  obtain ⟨restored, hrestored, h⟩ := bind_eq_ok.1 h
  obtain ⟨rfl, h⟩ := require_bind_eq_ok.1 h
  exact ⟨(Except.ok.inj h).symm, hrestored⟩

end RouteActivationIntent

/-! ## Documents -/

/-- What `_readback_receipt` records. -/
structure ReadbackReceipt where
  scope : RouteScope
  configurationSha256 : Sha256 RouteConfiguration
  verifiedEntities : ℕ
  totalEntities : ℕ
deriving DecidableEq

/-- The documents of the table; the head of a single model is not looked into. -/
inductive RouteDocument where
  | record (record : RouteRecord)
  | content (route : RouteContent)
  | member (member : RouteMember)
  | catalog (entry : CatalogEntry)
  | readback (receipt : ReadbackReceipt)
  | initialization (record : RouteActivationIntent)
  | modelHead (details : String)
deriving DecidableEq

/-! ## Entities -/

/-- An entity of a snapshot. -/
structure RouteEntity where
  key : RouteKey
  document : RouteDocument
deriving DecidableEq

/-- The entities of a snapshot, in the order in which they are staged. -/
def RouteSnapshot.entities (snapshot : RouteSnapshot) : List RouteEntity :=
  let version := snapshot.approval.routeVersion
  (snapshot.routes.map fun route => ⟨⟨.contents, .content route.sha256⟩, .content route⟩) ++
  (snapshot.members.map fun member =>
    ⟨⟨.members version, .member (memberRow member.routeAlias)⟩, .member member⟩) ++
  ((sortedByAlias RouteContent.routeAlias snapshot.routes).map fun route =>
    ⟨⟨.catalog version, .member (memberRow route.routeAlias)⟩, .catalog (catalogEntry route)⟩)

/-- A row of the scope's own partition. -/
def RouteKey.root (row : RouteRow) : RouteKey := ⟨.root, row⟩

/-- What a client may ask the table to write: a batch, or one new entity. -/
inductive RouteSubmission where
  | batch (body : RouteBatch)
  | entity (key : RouteKey) (document : RouteDocument)
deriving DecidableEq

/-- The writes of a submission. -/
def RouteSubmission.writes : RouteSubmission → List (Write RouteKey RouteDocument)
  | batch body => body.writes.map fun w => ⟨.root w.key, .record w.document, w.ifMatch⟩
  | entity key document => [⟨key, document, none⟩]

end Turnstile
