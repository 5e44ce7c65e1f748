import Mathlib.Data.List.Sort
import Turnstile.Domain.Values

/-!
# Storage routes

The documents of the route table.  A configuration is approved as a whole, as a
`RouteSnapshot` of contents and members, and the active head names the approval in
force.  The writer state names the worker that may publish, until when, and the
activation it has prepared.

Every document carries what its constructor checks, so parsing one again returns it.
A canonical UUID is known by its identifier.  Of a content and of a connection the
fields that the protocol reads are kept; `details` stands for the rest of the document.
-/

namespace Turnstile

open Guard

/-! ## Errors -/

/-- What the route functions raise: `RouteProjectionConflict` is a `ValueError`,
`RouteProjectionUnknown` is not. -/
inductive RouteError where
  | value (code : String)
  | conflict (code : String)
  | unknown (code : String)
  | runtime (code : String)
  | http
deriving DecidableEq, Repr

/-- `except ValueError`. -/
def RouteError.isValueError : RouteError → Bool
  | .value _ | .conflict _ => true
  | _ => false

/-! ## Scalars -/

/-- The largest integer of a document. -/
def maxInteger : ℕ := 2 ^ 53 - 1

/-- `EpochSeconds`. -/
def IsEpoch (n : ℤ) : Prop := 0 ≤ n ∧ n ≤ maxInteger

instance (n : ℤ) : Decidable (IsEpoch n) := inferInstanceAs (Decidable (_ ∧ _))

/-- `Generation`. -/
def IsGeneration (n : ℕ) : Prop := 1 ≤ n ∧ n ≤ maxInteger

instance (n : ℕ) : Decidable (IsGeneration n) := inferInstanceAs (Decidable (_ ∧ _))

inductive RouteProfile where
  | openaiV1
  | anthropicMessages
  | openaiImages
  | microsoftDecision
deriving DecidableEq, Repr

/-- The two sets of profiles are the same. -/
def RouteProfile.sameSet (a b : List RouteProfile) : Bool :=
  a.all (· ∈ b) && b.all (· ∈ a)

/-- A character of an alias. -/
def isAliasChar (c : Char) : Bool :=
  c.isAlphanum || c == '.' || c == '_' || c == ':' || c == '-'

/-- `Alias`. -/
structure RouteAlias where
  text : String
  valid : 1 ≤ text.toList.length ∧ text.toList.length ≤ 255 ∧ text.toList.all isAliasChar
deriving DecidableEq

/-- `alias.casefold()`; an alias has ASCII characters only. -/
def RouteAlias.casefold (a : RouteAlias) : List Char := a.text.toList.map Char.toLower

/-- `RouteScope`; the policy ABI is constant. -/
structure RouteScope where
  targetId : UUID
  apiId : String
  gatewayId : String
deriving DecidableEq

/-! ## Connections and contents -/

/-- `ConnectionRevision`. -/
structure ConnectionRevision where
  scope : RouteScope
  revisionId : UUID
  details : String
deriving DecidableEq

inductive ConnectionState where
  | approved
  | revoked
deriving DecidableEq, Repr

/-- `ConnectionApproval`. -/
structure ConnectionApproval where
  approvalId : UUID
  connection : ConnectionRevision
  state : ConnectionState
  evidenceSha256 : Sha256 String
  issuedEpoch : ℤ
  expiresEpoch : ℤ
  epochs : IsEpoch issuedEpoch ∧ IsEpoch expiresEpoch
  window : 0 < expiresEpoch - issuedEpoch ∧ expiresEpoch - issuedEpoch ≤ 86400
deriving DecidableEq

/-- `ConnectionApproval.require_current`. -/
def ConnectionApproval.requireCurrent (a : ConnectionApproval) (connection : ConnectionRevision)
    (now : ℤ) : Except RouteError Unit :=
  require (a.connection = connection ∧ a.state = .approved ∧ a.issuedEpoch ≤ now)
    (.value "ROUTE_CONNECTION_APPROVAL_INVALID")

/-- `RouteContent`. -/
structure RouteContent where
  scope : RouteScope
  modelId : UUID
  routeAlias : RouteAlias
  displayName : String
  createdAt : ℤ
  profile : RouteProfile
  connection : ConnectionRevision
  budgetEpoch : UUID
  details : String
  bindings : connection.scope = scope
deriving DecidableEq

/-- `RouteContent.sha256`. -/
def RouteContent.sha256 (r : RouteContent) : Sha256 RouteContent := ⟨r⟩

/-- `RouteMember`. -/
structure RouteMember where
  scope : RouteScope
  routeVersion : UUID
  routeAlias : RouteAlias
  modelId : UUID
  contentSha256 : Sha256 RouteContent
  connectionApproval : ConnectionApproval
  approvalSha256 : Sha256 ConnectionApproval
  approval : connectionApproval.connection.scope = scope ∧ approvalSha256 = ⟨connectionApproval⟩
deriving DecidableEq

/-- What `catalog_entry` returns. -/
structure CatalogEntry where
  id : RouteAlias
  displayName : String
  createdAt : ℤ
  logicalModelId : UUID
deriving DecidableEq

/-- `catalog_entry`. -/
def catalogEntry (route : RouteContent) : CatalogEntry where
  id := route.routeAlias
  displayName := route.displayName
  createdAt := route.createdAt
  logicalModelId := route.modelId

/-! ## Manifests -/

section

variable {α : Type}

/-- `sorted(items, key=lambda item: item.routeAlias)`. -/
def sortedByAlias (key : α → RouteAlias) (items : List α) : List α :=
  items.insertionSort fun a b => (key a).text ≤ (key b).text

theorem sortedByAlias_perm (key : α → RouteAlias) (items : List α) :
    (sortedByAlias key items).Perm items :=
  List.perm_insertionSort _ items

/-- A dictionary whose keys are aliases, as its canonical document orders them. -/
abbrev AliasDict (α : Type) := List (RouteAlias × α)

end

/-- What a manifest says of one alias. -/
structure ManifestEntry where
  contentSha256 : Sha256 RouteContent
  approvalSha256 : Sha256 ConnectionApproval
deriving DecidableEq

/-- The loop of `configuration_manifests`: a member for every route.  `approvals` looks a
connection approval up by its revision, `aliases` are those already seen. -/
def configurationMembers (scope : RouteScope) (version : UUID)
    (approvals : UUID → Option ConnectionApproval) (now : ℤ) :
    List RouteContent → List (List Char) → Except RouteError (List RouteMember)
  | [], _ => .ok []
  | route :: routes, aliases => do
      require (route.scope = scope ∧ route.routeAlias.casefold ∉ aliases)
        (.value "ROUTE_SCOPE_OR_DUPLICATE_ALIAS")
      match approvals route.connection.revisionId with
      | none => .error (.value "ROUTE_INDEPENDENT_CONNECTION_APPROVAL_REQUIRED")
      | some approval => do
          approval.requireCurrent route.connection now
          if h : approval.connection.scope = scope then do
            let members ← configurationMembers scope version approvals now routes
              (route.routeAlias.casefold :: aliases)
            pure (⟨scope, version, route.routeAlias, route.modelId, route.sha256,
              approval, ⟨approval⟩,
              h, rfl⟩ :: members)
          else .error (.value "ROUTE_MEMBER_APPROVAL_MISMATCH")

/-- The manifest of the members. -/
def manifestOf (members : List RouteMember) : AliasDict ManifestEntry :=
  sortedByAlias Prod.fst
    (members.map fun m => (m.routeAlias, ⟨m.contentSha256, m.approvalSha256⟩))

/-- The dependencies of the routes. -/
def dependenciesOf (routes : List RouteContent) : AliasDict (Sha256 ConnectionRevision) :=
  sortedByAlias Prod.fst (routes.map fun r => (r.routeAlias, ⟨r.connection⟩))

/-- `configuration_manifests`. -/
def configurationManifests (scope : RouteScope) (version : UUID) (routes : List RouteContent)
    (approvals : UUID → Option ConnectionApproval) (now : ℤ) :
    Except RouteError (List RouteMember × Sha256 (AliasDict ManifestEntry) ×
      Sha256 (AliasDict (Sha256 ConnectionRevision))) := do
  let members ← configurationMembers scope version approvals now routes []
  pure (sortedByAlias RouteMember.routeAlias members, ⟨manifestOf members⟩, ⟨dependenciesOf routes⟩)

/-- `catalog_digest`. -/
def catalogDigest (routes : List RouteContent) : Sha256 (AliasDict CatalogEntry) :=
  ⟨sortedByAlias Prod.fst (routes.map fun r => (r.routeAlias, catalogEntry r))⟩

/-! ## Approvals, snapshots and heads -/

/-- What an approval binds: all but its identifier and its window. -/
structure ConfigurationBinding where
  scope : RouteScope
  routeVersion : UUID
  generation : ℕ
  manifestSha256 : Sha256 (AliasDict ManifestEntry)
  dependencyManifestSha256 : Sha256 (AliasDict (Sha256 ConnectionRevision))
  catalogSha256 : Sha256 (AliasDict CatalogEntry)
  entryCount : ℕ
  requiredProgramSha256 : Sha256 String
  requiredProfiles : List RouteProfile
  budgetEpoch : UUID
deriving DecidableEq

/-- The fields of `ConfigurationApproval`. -/
structure ConfigurationFields extends ConfigurationBinding where
  approvalId : UUID
  issuedEpoch : ℤ
  activateBeforeEpoch : ℤ
deriving DecidableEq

/-- `ConfigurationApproval.validate_window`, and the bounds of the fields. -/
structure ConfigurationFields.Valid (a : ConfigurationFields) : Prop where
  generation : IsGeneration a.generation
  entryCount : a.entryCount ≤ 10000
  epochs : IsEpoch a.issuedEpoch ∧ IsEpoch a.activateBeforeEpoch
  window : 0 < a.activateBeforeEpoch - a.issuedEpoch ∧ a.activateBeforeEpoch - a.issuedEpoch ≤ 600
  profiles : a.requiredProfiles.Nodup

instance (a : ConfigurationFields) : Decidable a.Valid :=
  decidable_of_iff (IsGeneration a.generation ∧ a.entryCount ≤ 10000 ∧
      (IsEpoch a.issuedEpoch ∧ IsEpoch a.activateBeforeEpoch) ∧
      (0 < a.activateBeforeEpoch - a.issuedEpoch ∧
        a.activateBeforeEpoch - a.issuedEpoch ≤ 600) ∧ a.requiredProfiles.Nodup)
    ⟨fun ⟨h₁, h₂, h₃, h₄, h₅⟩ => ⟨h₁, h₂, h₃, h₄, h₅⟩,
      fun ⟨h₁, h₂, h₃, h₄, h₅⟩ => ⟨h₁, h₂, h₃, h₄, h₅⟩⟩

/-- `ConfigurationApproval`. -/
structure ConfigurationApproval extends ConfigurationFields where
  valid : toConfigurationFields.Valid
deriving DecidableEq

/-- `ConfigurationApproval(...)`. -/
def ConfigurationApproval.modelValidate (a : ConfigurationFields) :
    Except RouteError ConfigurationApproval :=
  if h : a.Valid then .ok ⟨a, h⟩ else .error (.value "ROUTE_CONFIGURATION_APPROVAL_INVALID")

/-- `ProgramIdentity`. -/
structure ProgramIdentity where
  scope : RouteScope
  apiRevision : String
  instanceId : String
  programSha256 : Sha256 String
  trustBindingSha256 : Sha256 String
deriving DecidableEq

instance decidableProgramMem (digest : Sha256 String) (digests : List (Sha256 String)) :
    Decidable (digest ∈ digests) :=
  inferInstance

/-- `ProgramCapabilityProof`. -/
structure ProgramCapabilityProof where
  proofId : UUID
  identity : ProgramIdentity
  supportedProfiles : List RouteProfile
  issuedEpoch : ℤ
  expiresEpoch : ℤ
  profiles : supportedProfiles ≠ [] ∧ supportedProfiles.Nodup
  epochs : IsEpoch issuedEpoch ∧ IsEpoch expiresEpoch
  window : 0 < expiresEpoch - issuedEpoch ∧ expiresEpoch - issuedEpoch ≤ 120
deriving DecidableEq

/-- What `configuration_sha256` is the digest of. -/
structure RouteConfiguration where
  approval : ConfigurationBinding
  routes : List RouteContent
  members : List RouteMember
deriving DecidableEq

/-- `RouteSnapshot`. -/
structure RouteSnapshot where
  approval : ConfigurationApproval
  routes : List RouteContent
  members : List RouteMember
  lengths : routes.length ≤ 10000 ∧ members.length ≤ 10000
deriving DecidableEq

namespace RouteSnapshot

/-- `RouteSnapshot.configuration_sha256`. -/
def configurationSha256 (s : RouteSnapshot) : Sha256 RouteConfiguration :=
  ⟨⟨s.approval.toConfigurationBinding, s.routes, s.members⟩⟩

/-- The connection approvals of the members by revision; two members of one revision have
the same one. -/
def connections : List RouteMember → List (UUID × ConnectionApproval) →
    Except RouteError (List (UUID × ConnectionApproval))
  | [], seen => .ok seen
  | member :: members, seen => do
      let revision := member.connectionApproval.connection.revisionId
      require (∀ a, seen.lookup revision = some a → a = member.connectionApproval)
        (.value "ROUTE_CONNECTION_APPROVAL_CONFLICT")
      connections members ((revision, member.connectionApproval) :: seen)

/-- `RouteSnapshot.require_valid`. -/
def requireValid (s : RouteSnapshot) (checkedAt : ℤ) : Except RouteError Unit := do
  require (s.routes.length = s.members.length ∧ s.routes.length = s.approval.entryCount)
    (.value "ROUTE_SNAPSHOT_INCOMPLETE")
  let approvals ← connections s.members []
  let (members, manifest, dependencies) ← configurationManifests s.approval.scope
    s.approval.routeVersion s.routes (fun revision => approvals.lookup revision) checkedAt
  require (s.members = members ∧ manifest = s.approval.manifestSha256 ∧
      dependencies = s.approval.dependencyManifestSha256 ∧
      s.approval.catalogSha256 = catalogDigest s.routes ∧
      (∀ r ∈ s.routes, r.budgetEpoch = s.approval.budgetEpoch) ∧
      RouteProfile.sameSet s.approval.requiredProfiles (s.routes.map RouteContent.profile))
    (.value "ROUTE_SNAPSHOT_APPROVAL_MISMATCH")

/-- `RouteSnapshot.prepare`. -/
def prepare (approval : ConfigurationApproval) (routes : List RouteContent)
    (connections : UUID → Option ConnectionApproval) (checkedAt : ℤ) :
    Except RouteError RouteSnapshot := do
  let (members, manifest, dependencies) ← configurationManifests approval.scope
    approval.routeVersion routes connections checkedAt
  require (approval.issuedEpoch ≤ checkedAt ∧ checkedAt < approval.activateBeforeEpoch ∧
      approval.entryCount = routes.length ∧ approval.manifestSha256 = manifest ∧
      approval.dependencyManifestSha256 = dependencies ∧
      approval.catalogSha256 = catalogDigest routes ∧
      RouteProfile.sameSet approval.requiredProfiles (routes.map RouteContent.profile) ∧
      ∀ r ∈ routes, r.budgetEpoch = approval.budgetEpoch)
    (.value "ROUTE_SNAPSHOT_APPROVAL_MISMATCH")
  if h : routes.length ≤ 10000 ∧ members.length ≤ 10000 then do
    let snapshot : RouteSnapshot := ⟨approval, routes, members, h⟩
    snapshot.requireValid checkedAt
    pure snapshot
  else .error (.value "ROUTE_SNAPSHOT_LENGTH")

end RouteSnapshot

/-- `ActiveRouteHead`. -/
structure ActiveRouteHead where
  approval : ConfigurationApproval
  activatedEpoch : ℤ
  activation : approval.issuedEpoch ≤ activatedEpoch ∧ activatedEpoch < approval.activateBeforeEpoch
deriving DecidableEq

namespace ActiveRouteHead

/-- `ActiveRouteHead(...)`. -/
def modelValidate (approval : ConfigurationApproval) (activatedEpoch : ℤ) :
    Except RouteError ActiveRouteHead :=
  if h : approval.issuedEpoch ≤ activatedEpoch ∧ activatedEpoch < approval.activateBeforeEpoch then
    .ok ⟨approval, activatedEpoch, h⟩
  else .error (.value "ROUTE_ACTIVATION_TIME_INVALID")

/-- `ActiveRouteHead.require_ready`, of a program that may take the place of others. -/
def requireReadyAfter (head : ActiveRouteHead) (identity : ProgramIdentity)
    (proof : ProgramCapabilityProof) (budgetEpoch : UUID) (now : ℤ) (activating : Bool)
    (legacyProgramSha256 : Option (Sha256 String))
    (predecessorProgramSha256 : List (Sha256 String)) : Except RouteError Unit :=
  require (proof.identity = identity ∧ head.approval.scope = identity.scope ∧
      proof.issuedEpoch ≤ now ∧ now < proof.expiresEpoch ∧
      (head.approval.requiredProgramSha256 = identity.programSha256 ∨
        activating = false ∧ (some head.approval.requiredProgramSha256 = legacyProgramSha256 ∨
          head.approval.requiredProgramSha256 ∈ predecessorProgramSha256)) ∧
      head.approval.budgetEpoch = budgetEpoch ∧
      (∀ p ∈ head.approval.requiredProfiles, p ∈ proof.supportedProfiles) ∧
      head.activatedEpoch ≤ now ∧ (activating → head.activatedEpoch = now))
    (.value "ROUTE_PROGRAM_CONFIGURATION_BINDING_INVALID")

/-- `ActiveRouteHead.require_ready`, of a program that takes no other's place. -/
def requireReady (head : ActiveRouteHead) (identity : ProgramIdentity)
    (proof : ProgramCapabilityProof) (budgetEpoch : UUID) (now : ℤ) (activating : Bool) :
    Except RouteError Unit :=
  head.requireReadyAfter identity proof budgetEpoch now activating none []

end ActiveRouteHead

/-- `ModelRouteAddition`. -/
structure ModelRouteAddition where
  publicationId : UUID
  program : ProgramIdentity
  snapshot : RouteSnapshot
  single : snapshot.routes.length = 1 ∧ snapshot.members.length = 1 ∧
    snapshot.approval.entryCount = 1 ∧ snapshot.approval.generation = 1
  scope : snapshot.approval.scope = program.scope
  required : snapshot.approval.requiredProgramSha256 = program.programSha256
  valid : snapshot.requireValid snapshot.approval.issuedEpoch = .ok ()

/-! ## The writer -/

/-- `RoutePendingActivation`. -/
structure RoutePendingActivation where
  operationId : UUID
  baseGeneration : ℕ
  approval : ConfigurationApproval
  snapshotSha256 : Sha256 RouteSnapshot
  generation : approval.generation = baseGeneration + 1
deriving DecidableEq

/-- The fields of `RouteWriterState`. -/
structure RouteWriterFields where
  scope : RouteScope
  ownerToken : UUID
  publicationId : UUID
  writerEpoch : ℕ
  leasedEpoch : ℤ
  leaseUntilEpoch : ℤ
  activeGeneration : ℕ
  activeVersion : Option UUID
  activeSha256 : Option (Sha256 ActiveRouteHead)
  pending : Option RoutePendingActivation
deriving DecidableEq

/-- `RouteWriterState.validate_state`, and the bounds of the fields. -/
structure RouteWriterFields.Valid (s : RouteWriterFields) : Prop where
  writerEpoch : IsGeneration s.writerEpoch
  epochs : IsEpoch s.leasedEpoch ∧ IsEpoch s.leaseUntilEpoch
  activeGeneration : s.activeGeneration ≤ maxInteger
  lease : 0 < s.leaseUntilEpoch - s.leasedEpoch ∧ s.leaseUntilEpoch - s.leasedEpoch ≤ 30
  active : s.activeGeneration = 0 ↔ s.activeVersion = none ∧ s.activeSha256 = none
  version : s.activeVersion = none ↔ s.activeSha256 = none
  pending : ∀ p, s.pending = some p →
    p.approval.scope = s.scope ∧ p.baseGeneration = s.activeGeneration

instance (s : RouteWriterFields) : Decidable s.Valid :=
  decidable_of_iff (IsGeneration s.writerEpoch ∧
      (IsEpoch s.leasedEpoch ∧ IsEpoch s.leaseUntilEpoch) ∧ s.activeGeneration ≤ maxInteger ∧
      (0 < s.leaseUntilEpoch - s.leasedEpoch ∧ s.leaseUntilEpoch - s.leasedEpoch ≤ 30) ∧
      (s.activeGeneration = 0 ↔ s.activeVersion = none ∧ s.activeSha256 = none) ∧
      (s.activeVersion = none ↔ s.activeSha256 = none) ∧
      ∀ p, s.pending = some p →
        p.approval.scope = s.scope ∧ p.baseGeneration = s.activeGeneration)
    ⟨fun ⟨h₁, h₂, h₃, h₄, h₅, h₆, h₇⟩ => ⟨h₁, h₂, h₃, h₄, h₅, h₆, h₇⟩,
      fun ⟨h₁, h₂, h₃, h₄, h₅, h₆, h₇⟩ => ⟨h₁, h₂, h₃, h₄, h₅, h₆, h₇⟩⟩

/-- `RouteWriterState`. -/
structure RouteWriterState extends RouteWriterFields where
  valid : toRouteWriterFields.Valid
deriving DecidableEq

namespace RouteWriterState

/-- `RouteWriterState.model_validate(...)`. -/
def modelValidate (s : RouteWriterFields) : Except RouteError RouteWriterState :=
  if h : s.Valid then .ok ⟨s, h⟩ else .error (.value "ROUTE_WRITER_STATE_INVALID")

/-- `RouteWriterState.require_owner`. -/
def requireOwner (s : RouteWriterState) (ownerToken publicationId : UUID) (now : ℤ) :
    Except RouteError Unit :=
  require (s.ownerToken = ownerToken ∧ s.publicationId = publicationId ∧
      s.leasedEpoch ≤ now ∧ now < s.leaseUntilEpoch)
    (.value "ROUTE_WRITER_OWNER_OR_LEASE_CHANGED")

/-- `RouteWriterState.takeover`. -/
def takeover (s : RouteWriterState) (ownerToken publicationId : UUID) (now : ℤ) :
    Except RouteError RouteWriterState := do
  require (s.leaseUntilEpoch ≤ now) (.value "ROUTE_WRITER_LEASE_NOT_EXPIRED")
  require (ownerToken ≠ s.ownerToken) (.value "ROUTE_WRITER_OWNER_TOKEN_REUSED")
  modelValidate { s.toRouteWriterFields with
    ownerToken := ownerToken
    publicationId := publicationId
    writerEpoch := s.writerEpoch + 1
    leasedEpoch := now
    leaseUntilEpoch := now + 30 }

/-- `RouteWriterState.renew`. -/
def renew (s : RouteWriterState) (ownerToken publicationId : UUID) (now : ℤ) :
    Except RouteError RouteWriterState := do
  s.requireOwner ownerToken publicationId now
  modelValidate { s.toRouteWriterFields with leasedEpoch := now, leaseUntilEpoch := now + 30 }

/-- `RouteWriterState.prepare`. -/
def prepare (s : RouteWriterState) (pending : RoutePendingActivation)
    (ownerToken publicationId : UUID) (now : ℤ) : Except RouteError RouteWriterState := do
  s.requireOwner ownerToken publicationId now
  require (s.pending = none) (.value "ROUTE_WRITER_PENDING_RECOVER_ONLY")
  modelValidate { s.toRouteWriterFields with pending := some pending }

/-- The state without its pending activation. -/
def withoutPending (s : RouteWriterState) : Except RouteError RouteWriterState :=
  modelValidate { s.toRouteWriterFields with pending := none }

/-- The state once its pending activation has made `head` the active head. -/
def withActive (s : RouteWriterState) (head : ActiveRouteHead) :
    Except RouteError RouteWriterState :=
  modelValidate { s.toRouteWriterFields with
    pending := none
    activeGeneration := head.approval.generation
    activeVersion := some head.approval.routeVersion
    activeSha256 := some ⟨head⟩ }

end RouteWriterState

inductive RouteWriterKind where
  | claim
  | takeover
  | renew
  | prepare
  | abort
deriving DecidableEq, Repr

/-- `RouteWriterReceipt`. -/
structure RouteWriterReceipt where
  operationId : UUID
  scope : RouteScope
  kind : RouteWriterKind
  beforeEtag : Option ℕ
  beforeSha256 : Option (Sha256 RouteWriterState)
  afterSha256 : Sha256 RouteWriterState
  ownerToken : UUID
  writerEpoch : ℕ
deriving DecidableEq

/-- `RouteTransitionReceipt`. -/
structure RouteTransitionReceipt where
  operationId : UUID
  scope : RouteScope
  beforeEtag : Option ℕ
  beforeGeneration : ℕ
  afterSha256 : Sha256 ActiveRouteHead
  routeVersion : UUID
  approvalId : UUID
deriving DecidableEq

end Turnstile
