import Turnstile.Integrations.RouteProofWorld
import Turnstile.Integrations.StorageRouteProjection

/-!
# Publication of proofs and renewals

The requests of `publish_approval_renewal` and of `_publish_program_proof`: the receipt of an
earlier publication is looked for, then its intent; the row that is replaced is read; the
intent is recorded as a new row; the batch is sent; and what was written is read back.
-/

namespace Turnstile

open Guard

/-! ## Requests -/

/-- `_read_document`. -/
def readRow (row : ProofRow) : ProofClient (Option (Row ProofDocument)) :=
  .call (.read row) fun
    | some found => .done (.ok found)
    | none => .done (.error .http)

/-- Create a row; a lost response is an `httpx.HTTPError`. -/
def createRow (row : ProofRow) (document : ProofDocument) (code : String) : ProofClient Unit :=
  .call (.insert row document) fun
    | .created => .done (.ok ())
    | .refused => .done (.error (.unknown code))
    | .lost => .done (.error .http)

/-- Send a batch. -/
def sendBatch (batch : ProofBatch) : ProofClient BatchAnswer :=
  .call (.send batch) fun answer => .done (.ok answer)

/-- `require_route_batch`. -/
def requireProofBatch (self : RouteProjection) (body : ProofBatch)
    (expected : List (Write ProofRow ProofRecord)) : Except RouteError Unit :=
  require (body.target = self.target ∧ body.scope = self.scope ∧ body.writes = expected)
    (.value "ROUTE_ACTIVATION_BATCH_INVALID")

/-! ## Renewals -/

/-- `row_key`. -/
def RouteApprovalRenewal.rowKey (renewal : RouteApprovalRenewal) : ProofRow :=
  .approval renewal.contentSha256 renewal.originalApprovalSha256

/-- `parse_document(RouteApprovalRenewal, ...)`. -/
def parseRenewal : ProofDocument → Except RouteError RouteApprovalRenewal
  | .record (.renewal renewal) => .ok renewal
  | _ => .error (.value "ROUTE_DOCUMENT_INVALID")

/-- `read_approval_renewal_history`. -/
def readApprovalRenewalHistory (route : RouteContent) (member : RouteMember)
    (program : ProgramIdentity) : ProofClient (Option (RouteApprovalRenewal × ℕ)) := do
  match ← readRow (.approval route.sha256 member.approvalSha256) with
  | none => pure none
  | some found => do
      let renewal ← Client.lift (parseRenewal found.document)
      Client.lift (renewal.requireCurrent route member program renewal.approval.issuedEpoch)
      pure (some (renewal, found.etag))

/-- `read_approval_renewal`. -/
def readApprovalRenewal (route : RouteContent) (member : RouteMember) (program : ProgramIdentity)
    (now : ℤ) : ProofClient (Option (RouteApprovalRenewal × ℕ)) := do
  match ← readApprovalRenewalHistory route member program with
  | none => pure none
  | some (renewal, etag) => do
      Client.lift (renewal.requireCurrent route member program now)
      pure (some (renewal, etag))

/-- The receipt is that of the renewal, and the renewal is in force. -/
def confirmRenewal (renewal : RouteApprovalRenewal) (route : RouteContent) (member : RouteMember)
    (program : ProgramIdentity) (now : ℤ) (receipt : Row ProofDocument) : ProofClient Unit := do
  let confirmed ← readApprovalRenewal route member program now
  Client.lift (require (receipt.document = .record (.renewal renewal) ∧
      confirmed.map Prod.fst = some renewal)
    (.conflict "ROUTE_APPROVAL_RENEWAL_RECEIPT_CHANGED"))

/-- The writes of a renewal. -/
def renewalWrites (renewal : RouteApprovalRenewal) (expectedEtag : Option ℕ) :
    List (Write ProofRow ProofRecord) :=
  [⟨renewal.rowKey, .renewal renewal, expectedEtag⟩,
    ⟨.approvalReceipt renewal.approval.approvalId, .renewal renewal, none⟩]

/-- The renewal that is replaced, if there is one, was read with the expected tag and may be
replaced. -/
def requireRenewalFollows (renewal : RouteApprovalRenewal) (expectedEtag : Option ℕ)
    (current : Option (Row ProofDocument)) : Except RouteError Unit := do
  require (current.map Row.etag = expectedEtag) (.conflict "ROUTE_APPROVAL_RENEWAL_ETAG_CHANGED")
  match current with
  | none => .ok ()
  | some found => do
      let previous ← parseRenewal found.document
      require (renewal.Follows previous) (.conflict "ROUTE_APPROVAL_RENEWAL_REGRESSION")

/-- `publish_approval_renewal`, with the boundary that its batch draws. -/
def publishApprovalRenewal (self : RouteProjection) (boundary : UUID)
    (renewal : RouteApprovalRenewal) (route : RouteContent) (member : RouteMember)
    (proof : ProgramCapabilityProof) (expectedEtag : Option ℕ) (now : ℤ) : ProofClient Unit := do
  Client.lift (renewal.requireCurrent route member proof.identity now)
  Client.lift (require (proof.identity.scope = self.scope ∧ proof.issuedEpoch ≤ now ∧
      now < proof.expiresEpoch ∧ route.profile ∈ proof.supportedProfiles)
    (.conflict "ROUTE_APPROVAL_RENEWAL_PROOF_CHANGED"))
  match ← readRow (.approvalReceipt renewal.approval.approvalId) with
  | some receipt => confirmRenewal renewal route member proof.identity now receipt
  | none => do
      let intent ← readRow (.approvalIntent renewal.approval.approvalId)
      Client.lift (require (intent = none)
        (.unknown "ROUTE_APPROVAL_RENEWAL_UNKNOWN_RECOVER_ONLY"))
      let current ← readRow renewal.rowKey
      Client.lift (requireRenewalFollows renewal expectedEtag current)
      let body : ProofBatch :=
        ⟨self.target, self.scope, boundary, renewalWrites renewal expectedEtag⟩
      Client.lift (requireProofBatch self body (renewalWrites renewal expectedEtag))
      let record := ProofDocument.renewalIntent ⟨renewal, expectedEtag, self.target, ⟨body⟩⟩
      createRow (.approvalIntent renewal.approval.approvalId) record
        "ROUTE_APPROVAL_RENEWAL_INTENT_NOT_OWNED"
      let observed ← readRow (.approvalIntent renewal.approval.approvalId)
      Client.lift (require (observed.map Row.document = some record)
        (.unknown "ROUTE_APPROVAL_RENEWAL_INTENT_NOT_CONFIRMED"))
      let answer ← sendBatch body
      Client.lift (require (answer ≠ .conflict) (.conflict "ROUTE_APPROVAL_RENEWAL_CONFLICT"))
      match ← readRow (.approvalReceipt renewal.approval.approvalId) with
      | none => Client.raise (.unknown "ROUTE_APPROVAL_RENEWAL_UNKNOWN_RECOVER_ONLY")
      | some receipt => confirmRenewal renewal route member proof.identity now receipt

/-! ## Proofs -/

/-- `_program_proof_row`. -/
def programProofRow (identity : ProgramIdentity) : ProofRow :=
  .proof identity.apiRevision identity.scope.gatewayId identity.instanceId

/-- `parse_document(ProgramCapabilityProof, ...)`. -/
def parseProof : ProofDocument → Except RouteError ProgramCapabilityProof
  | .record (.proof proof) => .ok proof
  | _ => .error (.value "ROUTE_DOCUMENT_INVALID")

/-- `read_program_proof`. -/
def readProgramProof (self : RouteProjection) (identity : ProgramIdentity) :
    ProofClient (Option (ProgramCapabilityProof × ℕ)) := do
  Client.lift (require (identity.scope = self.scope)
    (.conflict "ROUTE_PROGRAM_PROOF_SCOPE_CHANGED"))
  match ← readRow (programProofRow identity) with
  | none => pure none
  | some found => do
      let proof ← Client.lift (parseProof found.document)
      Client.lift (require (proof.identity = identity)
        (.conflict "ROUTE_PROGRAM_PROOF_IDENTITY_CHANGED"))
      pure (some (proof, found.etag))

/-- The receipt is that of the proof, and the proof is stored. -/
def confirmProof (self : RouteProjection) (proof : ProgramCapabilityProof)
    (identity : ProgramIdentity) (receipt : Row ProofDocument) (code : String) :
    ProofClient Unit := do
  let current ← readProgramProof self identity
  Client.lift (require (receipt.document = .record (.proof proof) ∧
      current.map Prod.fst = some proof) (.conflict code))

/-- The writes of a proof. -/
def proofWrites (proof : ProgramCapabilityProof) (identity : ProgramIdentity)
    (expectedEtag : Option ℕ) : List (Write ProofRow ProofRecord) :=
  [⟨programProofRow identity, .proof proof, expectedEtag⟩,
    ⟨.proofReceipt proof.proofId, .proof proof, none⟩]

/-- The intent of an earlier call stands for the same batch. -/
def requireSameIntent (self : RouteProjection) (proof : ProgramCapabilityProof)
    (identity : ProgramIdentity) (expectedEtag : Option ℕ) :
    ProofDocument → Except RouteError Unit
  | .proofIntent recorded => do
      require (recorded.proof = proof ∧ recorded.expectedEtag = expectedEtag ∧
        recorded.target = self.target) (.conflict "ROUTE_PROGRAM_PROOF_INTENT_CHANGED")
      require (recorded.bodySha256 = ⟨recorded.body⟩)
        (.conflict "ROUTE_PROGRAM_PROOF_INTENT_CHANGED")
      requireProofBatch self recorded.body (proofWrites proof identity expectedEtag)
  | _ => .error (.conflict "ROUTE_PROGRAM_PROOF_INTENT_CHANGED")

/-- The proof that is replaced, if there is one, was read with the expected tag and may be
replaced. -/
def requireProofFollows (proof : ProgramCapabilityProof) (expectedEtag : Option ℕ)
    (current : Option (ProgramCapabilityProof × ℕ)) : Except RouteError Unit := do
  require (current.map Prod.snd = expectedEtag) (.conflict "ROUTE_PROGRAM_PROOF_ETAG_CHANGED")
  require (∀ found ∈ current, proof.Follows found.1) (.conflict "ROUTE_PROGRAM_PROOF_REGRESSION")

/-- `_publish_program_proof` from the proof that is replaced, with the boundary that its batch
draws. -/
def replaceProof (self : RouteProjection) (boundary : UUID) (proof : ProgramCapabilityProof)
    (identity : ProgramIdentity) (expectedEtag : Option ℕ)
    (current : Option (ProgramCapabilityProof × ℕ)) : ProofClient Unit := do
  Client.lift (requireProofFollows proof expectedEtag current)
  let body : ProofBatch :=
    ⟨self.target, self.scope, boundary, proofWrites proof identity expectedEtag⟩
  Client.lift (requireProofBatch self body (proofWrites proof identity expectedEtag))
  let record := ProofDocument.proofIntent ⟨proof, expectedEtag, self.target, body, ⟨body⟩⟩
  createRow (.proofIntent proof.proofId) record "ROUTE_PROGRAM_PROOF_INTENT_NOT_OWNED_RECOVER_ONLY"
  let saved ← readRow (.proofIntent proof.proofId)
  Client.lift (require (saved.map Row.document = some record)
    (.unknown "ROUTE_PROGRAM_PROOF_INTENT_NOT_CONFIRMED"))
  let answer ← sendBatch body
  Client.lift (require (answer ≠ .conflict ∧ answer ≠ .operationConflict)
    (.conflict "ROUTE_PROGRAM_PROOF_CONFLICT"))
  match ← readRow (.proofReceipt proof.proofId) with
  | none => Client.raise (.unknown "ROUTE_PROGRAM_PROOF_UNKNOWN_RECOVER_ONLY")
  | some observed => do
      Client.lift (require (observed.document = .record (.proof proof))
        (.conflict "ROUTE_PROGRAM_PROOF_RECEIPT_CHANGED"))
      confirmProof self proof identity observed "ROUTE_PROGRAM_PROOF_READBACK_CHANGED"

/-- `_publish_program_proof`. -/
def publishProof (self : RouteProjection) (boundary : UUID) (proof : ProgramCapabilityProof)
    (identity : ProgramIdentity) (expectedEtag : Option ℕ) (checkedAt : ℤ)
    (previousIdentity : ProgramIdentity) : ProofClient Unit := do
  Client.lift (require (identity.scope = self.scope ∧ proof.identity = identity ∧
      proof.issuedEpoch ≤ checkedAt ∧ checkedAt < proof.expiresEpoch)
    (.conflict "ROUTE_PROGRAM_PROOF_IDENTITY_OR_TIME_INVALID"))
  match ← readRow (.proofReceipt proof.proofId) with
  | some prior => confirmProof self proof identity prior "ROUTE_PROGRAM_PROOF_RECEIPT_CHANGED"
  | none => do
      match ← readRow (.proofIntent proof.proofId) with
      | some previousIntent => do
          Client.lift (requireSameIntent self proof identity expectedEtag previousIntent.document)
          match ← readRow (.proofReceipt proof.proofId) with
          | none => Client.raise (.unknown "ROUTE_PROGRAM_PROOF_UNKNOWN_RECOVER_ONLY")
          | some observed =>
              confirmProof self proof identity observed "ROUTE_PROGRAM_PROOF_RECEIPT_CHANGED"
      | none => do
          let current ← readProgramProof self previousIdentity
          replaceProof self boundary proof identity expectedEtag current

/-- `publish_program_proof`. -/
def publishProgramProof (self : RouteProjection) (boundary : UUID)
    (proof : ProgramCapabilityProof) (identity : ProgramIdentity) (expectedEtag : Option ℕ)
    (checkedAt : ℤ) : ProofClient Unit :=
  publishProof self boundary proof identity expectedEtag checkedAt identity

/-- `publish_upgraded_program_proof`. -/
def publishUpgradedProgramProof (self : RouteProjection) (boundary : UUID)
    (upgrade : FixedProgramUpgrade) (previous : FixedProgramInstallation)
    (proof : ProgramCapabilityProof) (expectedEtag : Option ℕ) (checkedAt : ℤ) :
    ProofClient Unit := do
  Client.lift (upgrade.requirePrevious upgrade.previousPublicationId previous)
  Client.lift (require (upgrade.installation.binding.storageEndpoint = self.target.endpoint ∧
      upgrade.installation.binding.storageTable = self.target.table)
    (.conflict "ROUTE_PROGRAM_UPGRADE_STORAGE_CHANGED"))
  publishProof self boundary proof upgrade.installation.program expectedEtag checkedAt
    previous.program

/-! ## Calls -/

/-- A call of one of the publications. -/
inductive ProofCall where
  | renewal (boundary : UUID) (extended : RouteApprovalRenewal) (route : RouteContent)
      (member : RouteMember) (capability : ProgramCapabilityProof)
        (expectedEtag : Option ℕ) (now : ℤ)
  | proof (boundary : UUID) (capability : ProgramCapabilityProof) (identity : ProgramIdentity)
      (expectedEtag : Option ℕ) (checkedAt : ℤ)
  | upgradedProof (boundary : UUID) (upgrade : FixedProgramUpgrade)
      (previous : FixedProgramInstallation) (capability : ProgramCapabilityProof)
      (expectedEtag : Option ℕ) (checkedAt : ℤ)

namespace ProofCall

/-- What a call executes. -/
def program (self : RouteProjection) : ProofCall → ProofClient Unit
  | renewal boundary extended route member capability expectedEtag now =>
      publishApprovalRenewal self boundary extended route member capability expectedEtag now
  | proof boundary capability identity expectedEtag checkedAt =>
      publishProgramProof self boundary capability identity expectedEtag checkedAt
  | upgradedProof boundary upgrade previous capability expectedEtag checkedAt =>
      publishUpgradedProgramProof self boundary upgrade previous capability expectedEtag checkedAt

/-- The row that a call publishes. -/
def row : ProofCall → ProofRow
  | renewal _ extended _ _ _ _ _ => extended.rowKey
  | proof _ _ identity _ _ => programProofRow identity
  | upgradedProof _ upgrade _ _ _ _ => programProofRow upgrade.installation.program

/-- What a call publishes. -/
def record : ProofCall → ProofRecord
  | renewal _ extended _ _ _ _ _ => .renewal extended
  | proof _ capability _ _ _ => .proof capability
  | upgradedProof _ _ _ capability _ _ => .proof capability

end ProofCall

end Turnstile
