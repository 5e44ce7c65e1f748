import Turnstile.Domain.Evidence
import Turnstile.Domain.Publications
import Turnstile.Domain.StorageRoutes
import Turnstile.Foundation.Dictionary

/-!
# Budget contracts of publications

How the tokens of a request are counted before it is sent, model by model, and what a
publication captures of it when it is queued.  A contract comes from an approval, from an
earlier publication, from the record of the gateway fence, or is estimated; a policy of
the gateway or of the model is then laid over it, operation by operation.

The parsed documents carry what their validators check.  Dictionaries are lists of
entries in the order of insertion.
-/

namespace Turnstile

open Guard

/-! ## Errors -/

/-- What capturing raises: its own `ValueError`s, and the errors of the validators. -/
inductive CaptureError where
  | value (text : String)
  | validation
deriving DecidableEq, Repr

/-- The value of a document that its type accepts. -/
def Decoded.validated {α : Type} : Decoded α → Except CaptureError α
  | record value => .ok value
  | malformed => .error .validation

/-- The value of a document that capturing checks itself. -/
def Decoded.checked {α : Type} (text : String) : Decoded α → Except CaptureError α
  | record value => .ok value
  | malformed => .error (.value text)

/-- The largest count of a document. -/
def maxCount : ℕ := 2 ^ 63 - 1

/-! ## Request policies -/

/-- A rule of `terminal_rejections`. -/
inductive RequestRejection where
  | rule (rule : RejectionRuleV1)
  | protocol (rule : RejectionRuleV2)
deriving DecidableEq

def RequestRejection.rule? : RequestRejection → Option RejectionRuleV1
  | rule r => some r
  | protocol _ => none

def RequestRejection.protocol? : RequestRejection → Option RejectionRuleV2
  | rule _ => none
  | protocol r => some r

/-- The fields of `ProtocolRequestPolicy`; `summarized` is the one thinking display there
is, and `minimumOutputTokens` the requirement of the one control there is. -/
structure RequestPolicyFields where
  version : ℕ
  operation : Option Operation
  summarized : Bool
  minimumOutputTokens : Option ℕ
  terminalRejections : List RequestRejection
  evidenceSha256 : Hex64
  verifiedAt : ℤ
deriving DecidableEq

namespace RequestPolicyFields

/-- The policy that `validate_rejection_policy` is asked about. -/
def rejectionContract? (p : RequestPolicyFields) : Option RejectionContract :=
  match p.operation with
  | some operation =>
      (p.terminalRejections.mapM RequestRejection.protocol?).map (.v2 operation)
  | none => (p.terminalRejections.mapM RequestRejection.rule?).map .v1

/-- The rules are those of a rejection policy. -/
def rejectionsOk (p : RequestPolicyFields) : Bool :=
  p.terminalRejections.isEmpty || p.rejectionContract?.any fun c => c.ok && c.unique

/-- `ProtocolRequestPolicy.validate_rejections`, and the bounds of the fields. -/
structure Valid (p : RequestPolicyFields) : Prop where
  version : 1 ≤ p.version ∧ p.version ≤ 3
  operation : 2 ≤ p.version ↔ p.operation ≠ none
  summarized : p.version = 3 ↔ p.summarized = true
  messages : p.version = 3 → p.operation = some .anthropicMessages ∧ p.minimumOutputTokens = none
  minimum : ∀ n, p.minimumOutputTokens = some n → 0 < n ∧ n ≤ maxCount
  length : p.terminalRejections.length ≤ 16
  rejections : p.rejectionsOk = true

end RequestPolicyFields

/-- `ProtocolRequestPolicy`. -/
structure ProtocolRequestPolicy extends RequestPolicyFields where
  valid : toRequestPolicyFields.Valid
deriving DecidableEq

/-- `ModelRequestPolicyBinding`. -/
structure ModelRequestPolicyBinding where
  bindingSha256 : Hex64
  policies : List (Operation × ProtocolRequestPolicy)
  distinct : (policies.map Prod.fst).Nodup
  valid : policies ≠ [] ∧ ∀ entry ∈ policies, entry.2.operation = none ∨
    entry.2.operation = some entry.1

/-! ## Count contracts -/

inductive RequestFeature where
  | conversationState
  | opaqueState
  | multimodalInput
  | serverTools
  | background
  | compaction
deriving DecidableEq, Repr

inductive OutputField where
  | maxTokens
  | maxCompletionTokens
  | maxOutputTokens
  | none
deriving DecidableEq, Repr

inductive CountAlgorithm where
  | contextInputCeiling
  | requestTotalCeiling
  | legacyRequestEstimate
deriving DecidableEq, Repr

/-- A URL. -/
structure Endpoint where
  scheme : String
  username : Option String
  password : Option String
  path : Option String
  query : Option String
  fragment : Option String
deriving DecidableEq

/-- The fields of `NativeCountContract`; `anthropic` is its kind, `upperBound` its assurance. -/
structure NativeCountFields where
  anthropic : Bool
  endpoint : Endpoint
  upperBound : Bool
  upperBoundPaddingTokens : ℕ
  supportedFeatures : List RequestFeature
  evidenceSha256 : Hex64
deriving DecidableEq

namespace NativeCountFields

/-- Where a native counter of its kind is. -/
def suffix (c : NativeCountFields) : String :=
  if c.anthropic then "/messages/count_tokens" else "/responses/input_tokens"

/-- `NativeCountContract.validate_endpoint`, and the bounds of the fields. -/
structure Valid (c : NativeCountFields) : Prop where
  padding : c.upperBoundPaddingTokens ≤ maxCount
  scheme : c.endpoint.scheme = "https"
  credentials : c.endpoint.username.getD "" = "" ∧ c.endpoint.password.getD "" = ""
  plain : c.endpoint.query.getD "" = "" ∧ c.endpoint.fragment.getD "" = ""
  path : c.suffix.toList <:+ (c.endpoint.path.getD "").toList
  assurance : c.upperBound = false → c.upperBoundPaddingTokens = 0
  features : RequestFeature.serverTools ∉ c.supportedFeatures ∧
    RequestFeature.background ∉ c.supportedFeatures

end NativeCountFields

/-- `NativeCountContract`. -/
structure NativeCountContract extends NativeCountFields where
  valid : toNativeCountFields.Valid
deriving DecidableEq

/-- The fields of `ProtocolCountContract`. -/
structure CountFields where
  algorithm : CountAlgorithm
  inputCeiling : ℕ
  outputCeiling : ℕ
  outputField : OutputField
  requestTokenCeiling : Option ℕ
  outputEstimate : Option ℕ
  multimodalItemCeiling : Option ℕ
  requireVerifiedBound : Bool
  supportedFeatures : List RequestFeature
  operations : List Operation
  evidenceSha256 : Hex64
  verifiedAt : ℤ
  nativeCounter : Option NativeCountContract
  requestPolicy : Option ProtocolRequestPolicy
deriving DecidableEq

/-- An operation whose requests have no output parameter. -/
def Operation.fixedOutput : Operation → Bool
  | responsesCompact | imagesGenerations | microsoftDecision => true
  | _ => false

namespace CountFields

/-- A count that may be absent is positive and in range. -/
def CountOk (count : Option ℕ) : Prop := ∀ n, count = some n → 0 < n ∧ n ≤ maxCount

instance (count : Option ℕ) : Decidable (CountOk count) :=
  decidable_of_iff (∀ n ∈ count, 0 < n ∧ n ≤ maxCount) Iff.rfl

/-- A request policy that a contract can carry. -/
def PolicyOk (c : CountFields) (p : ProtocolRequestPolicy) : Prop :=
  (2 ≤ p.version → some c.operations = p.operation.map fun o => [o]) ∧
  (∀ n ∈ p.minimumOutputTokens, c.operations = [.responses] ∧
    (c.outputField = .maxOutputTokens ∨
      c.algorithm = .requestTotalCeiling ∧ c.outputField = .none) ∧
    (c.algorithm = .contextInputCeiling → n ≤ c.outputCeiling))

instance (c : CountFields) (p : ProtocolRequestPolicy) : Decidable (c.PolicyOk p) :=
  inferInstanceAs (Decidable (_ ∧ _))

/-- What an estimate may say. -/
def LegacyOk (c : CountFields) : Prop :=
  c.requireVerifiedBound = false ∧ c.outputEstimate ≠ none ∧ c.nativeCounter = none ∧
  c.inputCeiling = 0 ∧ c.outputCeiling = 0 ∧ c.requestTokenCeiling = none ∧
  (c.outputField = .none ↔ c.operations.all Operation.fixedOutput) ∧
  (c.operations.any Operation.fixedOutput → c.outputField = .none)

instance (c : CountFields) : Decidable c.LegacyOk := inferInstanceAs (Decidable (_ ∧ _))

/-- What a ceiling on the whole request may say. -/
def RequestTotalOk (c : CountFields) : Prop :=
  c.outputEstimate = none ∧ c.requestTokenCeiling ≠ none ∧ c.outputField = .none ∧
  c.nativeCounter = none ∧ c.multimodalItemCeiling = none

instance (c : CountFields) : Decidable c.RequestTotalOk := inferInstanceAs (Decidable (_ ∧ _))

/-- What a ceiling on the input may say. -/
def ContextInputOk (c : CountFields) : Prop :=
  c.outputEstimate = none ∧ 0 < c.inputCeiling ∧ 0 < c.outputCeiling ∧ c.outputField ≠ .none ∧
  c.inputCeiling + c.outputCeiling ≤ maxCount ∧ Operation.responsesCompact ∉ c.operations ∧
  Operation.imagesGenerations ∉ c.operations ∧ c.requestTokenCeiling = none ∧
  ∀ n ∈ c.multimodalItemCeiling, RequestFeature.multimodalInput ∈ c.supportedFeatures ∧
    n ≤ c.inputCeiling

instance (c : CountFields) : Decidable c.ContextInputOk := inferInstanceAs (Decidable (_ ∧ _))

/-- What a contract of its algorithm may say. -/
def AlgorithmOk (c : CountFields) : Prop :=
  match c.algorithm with
  | .legacyRequestEstimate => c.LegacyOk
  | .requestTotalCeiling => c.RequestTotalOk
  | .contextInputCeiling => c.ContextInputOk

instance (c : CountFields) : Decidable c.AlgorithmOk := by
  unfold AlgorithmOk
  cases c.algorithm <;> infer_instance

/-- `ProtocolCountContract.validate_ceiling`, and the bounds of the fields. -/
structure Valid (c : CountFields) : Prop where
  ceilings : c.inputCeiling ≤ maxCount ∧ c.outputCeiling ≤ maxCount
  counts : CountOk c.requestTokenCeiling ∧ CountOk c.outputEstimate ∧
    CountOk c.multimodalItemCeiling
  operations : c.operations ≠ [] ∧ c.operations.Nodup
  features : c.supportedFeatures.Nodup
  policy : ∀ p ∈ c.requestPolicy, c.PolicyOk p
  algorithm : c.AlgorithmOk

instance (c : CountFields) : Decidable c.Valid :=
  decidable_of_iff ((c.inputCeiling ≤ maxCount ∧ c.outputCeiling ≤ maxCount) ∧
      (CountOk c.requestTokenCeiling ∧ CountOk c.outputEstimate ∧
        CountOk c.multimodalItemCeiling) ∧
      (c.operations ≠ [] ∧ c.operations.Nodup) ∧ c.supportedFeatures.Nodup ∧
      (∀ p ∈ c.requestPolicy, c.PolicyOk p) ∧ c.AlgorithmOk)
    ⟨fun ⟨h₁, h₂, h₃, h₄, h₅, h₆⟩ => ⟨h₁, h₂, h₃, h₄, h₅, h₆⟩,
      fun ⟨h₁, h₂, h₃, h₄, h₅, h₆⟩ => ⟨h₁, h₂, h₃, h₄, h₅, h₆⟩⟩

end CountFields

/-- `ProtocolCountContract`. -/
structure ProtocolCountContract extends CountFields where
  valid : toCountFields.Valid
deriving DecidableEq

/-- `ProtocolCountContract.model_validate`. -/
def ProtocolCountContract.modelValidate (c : CountFields) :
    Except CaptureError ProtocolCountContract :=
  if h : c.Valid then .ok ⟨c, h⟩ else .error .validation

/-- `ModelCountContract`; `base` has the fields that it inherits. -/
structure ModelCountContract where
  base : ProtocolCountContract
  modelId : UUID
  protocols : List (Operation × ProtocolCountContract)
  covered : ∀ entry ∈ protocols, entry.1 ∈ entry.2.operations
deriving DecidableEq

namespace ModelCountContract

/-- `ModelCountContract.model_validate`. -/
def modelValidate (base : ProtocolCountContract) (modelId : UUID)
    (protocols : List (Operation × ProtocolCountContract)) :
    Except CaptureError ModelCountContract :=
  if h : ∀ entry ∈ protocols, entry.1 ∈ entry.2.operations then .ok ⟨base, modelId, protocols, h⟩
  else .error .validation

/-- `(contract, *contract.protocols.values())`. -/
def all (c : ModelCountContract) : List ProtocolCountContract :=
  c.base :: c.protocols.map Prod.snd

/-- The operations that a contract counts. -/
def Supports (c : ModelCountContract) (operation : Operation) : Prop :=
  operation ∈ c.base.operations ∨ operation ∈ c.protocols.map Prod.fst

instance (c : ModelCountContract) (operation : Operation) : Decidable (c.Supports operation) :=
  inferInstanceAs (Decidable (_ ∨ _))

/-- One of its contracts is an estimate. -/
def isLegacy (c : ModelCountContract) : Bool :=
  c.all.any fun item => item.algorithm == .legacyRequestEstimate

/-- All of its contracts were verified at `instant` at the latest. -/
def Precedes (c : ModelCountContract) (instant : ℤ) : Prop :=
  ∀ item ∈ c.all, item.verifiedAt ≤ instant

instance (c : ModelCountContract) (instant : ℤ) : Decidable (c.Precedes instant) :=
  inferInstanceAs (Decidable (∀ item ∈ c.all, item.verifiedAt ≤ instant))

/-- All of its contracts are estimates without a request policy. -/
def Unverified (c : ModelCountContract) : Prop :=
  ∀ item ∈ c.all, item.algorithm = .legacyRequestEstimate ∧ item.requestPolicy = none

instance (c : ModelCountContract) : Decidable c.Unverified :=
  inferInstanceAs (Decidable (∀ item ∈ c.all, _ ∧ _))

end ModelCountContract

/-- `ApprovedModelCountContract`. -/
structure ApprovedModelCountContract where
  bindingSha256 : Hex64
  contract : ModelCountContract
  verified : contract.isLegacy = false

/-! ## Publications -/

inductive ApiFormat where
  | openaiChat
  | anthropicMessages
  | openaiImages
  | microsoftDecision
deriving DecidableEq, Repr

/-- What counting reads of a `GatewayModelBinding`; `details` stands for the rest of its
document. -/
structure BudgetBinding where
  modelKey : RouteAlias
  logicalModelId : Option UUID
  runtimeId : Option UUID
  routingManaged : Bool
  apiFormat : ApiFormat
  backendPath : String
  details : String
deriving DecidableEq

/-- `BudgetPublicationContracts`. -/
structure BudgetPublicationContracts where
  publicationId : UUID
  gatewayProfileId : UUID
  epoch : UUID
  releaseSpecSha256 : Hex64
  bindingSha256 : List (String × Hex64)
  modelContracts : List (String × ModelCountContract)
deriving DecidableEq

/-- What is read of a `GatewayPublication`; `budgetContracts` is what its manifest has, and
`distinct` what `require_unique_aliases` checks. -/
structure BudgetPublication where
  id : UUID
  gatewayProfileId : UUID
  desiredSpecSha256 : Hex64
  bindings : List BudgetBinding
  publicationKind : PublicationKind
  status : PublicationStatus
  createdAt : ℤ
  budgetContracts : Option (Decoded BudgetPublicationContracts)
  distinct : (bindings.map fun b => b.modelKey.casefold).Nodup

/-- A model of the registry. -/
structure CountedModel where
  id : UUID
  modelKey : RouteAlias
  runtimeId : Option UUID

/-- A contract as the fence has it, not validated yet. -/
inductive RecordedContract where
  | record (modelId : Decoded UUID) (contract : Decoded ModelCountContract)
  | other

/-- The gateway fence. -/
structure GatewayFence where
  protocolVersion : ℤ
  mode : String
  gatewayProfileId : UUID
  requireVerifiedBound : Decoded Bool
  epoch : Decoded UUID
  modelContracts : Decoded (List (String × RecordedContract))
  requestPolicies : Decoded (List (Operation × ProtocolRequestPolicy))
  modelRequestPolicies : Decoded (List (UUID × ModelRequestPolicyBinding))
  approvedModelContracts : Decoded (List (UUID × ApprovedModelCountContract))
  distinct : ∀ policies, requestPolicies = .record policies → (policies.map Prod.fst).Nodup

/-- The digest of a binding, and `uuid5`. -/
structure BudgetCounting where
  bindingDigest : BudgetBinding → Hex64
  uuid5 : UUID → String → UUID

namespace BudgetPublicationContracts

variable (self : BudgetCounting)

/-- The digests of the bindings by model key. -/
def expectedDigests (publication : BudgetPublication) : List (String × Hex64) :=
  Dictionary.collect (fun b => b.modelKey.text) (fun _ b => self.bindingDigest b)
    publication.bindings

/-- `validate_publication`. -/
def validatePublication (c : BudgetPublicationContracts) (publication : BudgetPublication) :
    Except CaptureError Unit := do
  require (c.publicationId = publication.id ∧ c.gatewayProfileId = publication.gatewayProfileId ∧
      c.releaseSpecSha256 = publication.desiredSpecSha256)
    (.value "Budget contracts belong to another publication")
  require (c.bindingSha256.Perm (expectedDigests self publication) ∧
      (c.modelContracts.map Prod.fst).Perm ((expectedDigests self publication).map Prod.fst))
    (.value "Budget contract binding changed after publication was queued")

end BudgetPublicationContracts

/-! ## Estimates -/

/-- `text.rstrip("/")`. -/
def rstripSlash (text : String) : List Char :=
  (text.toList.reverse.dropWhile (· = '/')).reverse

/-- The managed route to the chat completions of OpenAI. -/
def BudgetBinding.openaiV1 (binding : BudgetBinding) : Bool :=
  binding.routingManaged && rstripSlash binding.backendPath == "/openai/v1/chat/completions".toList

/-- The operations of a binding and their output fields; the first is the primary one. -/
def BudgetBinding.estimatedFields (binding : BudgetBinding) :
    (Operation × OutputField) × List (Operation × OutputField) :=
  match binding.apiFormat with
  | .microsoftDecision => ((.microsoftDecision, .none), [])
  | .openaiImages => ((.imagesGenerations, .none), [])
  | .anthropicMessages => ((.anthropicMessages, .maxTokens), [])
  | .openaiChat =>
      if binding.openaiV1 then
        ((.chatCompletions, .maxCompletionTokens),
          [(.responses, .maxOutputTokens), (.responsesCompact, .none)])
      else ((.chatCompletions, .maxTokens), [])

/-- The estimate of one operation. -/
def estimatedCount (publication : BudgetPublication) (digest : Hex64)
    (field : Operation × OutputField) : Except CaptureError ProtocolCountContract :=
  ProtocolCountContract.modelValidate
    { algorithm := .legacyRequestEstimate
      inputCeiling := 0
      outputCeiling := 0
      outputField := field.2
      requestTokenCeiling := none
      outputEstimate := some (if field.1 = .imagesGenerations then 8192 else 4096)
      multimodalItemCeiling := none
      requireVerifiedBound := false
      supportedFeatures := []
      operations := [field.1]
      evidenceSha256 := digest
      verifiedAt := publication.createdAt
      nativeCounter := none
      requestPolicy := none }

/-- `_estimate`. -/
def estimate (publication : BudgetPublication) (binding : BudgetBinding) (modelId : UUID)
    (digest : Hex64) : Except CaptureError ModelCountContract := do
  let fields := binding.estimatedFields
  let primary ← estimatedCount publication digest fields.1
  let rest ← fields.2.mapM (estimatedCount publication digest)
  ModelCountContract.modelValidate primary modelId
    ((fields.1.1, primary) :: (fields.2.map Prod.fst).zip rest)

/-! ## Capturing -/

/-- A contract of an earlier publication, and the snapshot it is from. -/
structure PriorContract where
  snapshot : BudgetPublicationContracts
  contract : ModelCountContract

section

variable (self : BudgetCounting) (publication : BudgetPublication)

/-- The loop over the inherited publications. -/
def inheritedPrior (key : String) (epoch : UUID) :
    List BudgetPublication → Except CaptureError (Option PriorContract)
  | [] => .ok none
  | source :: rest =>
      match source.budgetContracts with
      | none => inheritedPrior key epoch rest
      | some saved => do
          let candidate ← saved.validated
          match Dictionary.get key candidate.modelContracts with
          | none => inheritedPrior key epoch rest
          | some prior => do
              candidate.validatePublication self source
              require (source.status = .active ∧
                  candidate.gatewayProfileId = publication.gatewayProfileId ∧
                  candidate.epoch = epoch)
                (.value "Inherited model contracts require an active Gateway publication epoch")
              require (prior.Precedes publication.createdAt)
                (.value "Inherited model evidence must precede publication")
              pure (some ⟨candidate, prior⟩)

/-- The snapshot of the previous publication. -/
def previousSnapshot (epoch : UUID) (previous : Option BudgetPublication) :
    Except CaptureError (Option BudgetPublicationContracts) :=
  match previous.bind fun p => p.budgetContracts.map fun saved => (p, saved) with
  | none => .ok none
  | some (p, saved) => do
      let inherited ← saved.validated
      require (inherited.publicationId = p.id ∧
          inherited.gatewayProfileId = publication.gatewayProfileId ∧ inherited.epoch = epoch)
        (.value "Inherited budget contracts belong to another publication epoch")
      pure (some inherited)

/-- The contract that a binding had before. -/
def priorContract (key : String) (epoch : UUID) (recorded : List (String × RecordedContract))
    (inherited : Option BudgetPublicationContracts) (publications : List BudgetPublication) :
    Except CaptureError (Option PriorContract) :=
  match inherited.bind fun s => (Dictionary.get key s.modelContracts).map (PriorContract.mk s) with
  | some prior => .ok (some prior)
  | none =>
      if key ∈ recorded.map Prod.fst then .ok none
      else inheritedPrior self publication key epoch publications

/-- The identity that is looked for in the registry. -/
def identityHint (binding : BudgetBinding) (prior : Option PriorContract)
    (recorded : Option RecordedContract) : Except CaptureError (Option UUID) :=
  match binding.logicalModelId, prior, recorded with
  | some id, _, _ => .ok (some id)
  | none, some p, _ => .ok (some p.contract.modelId)
  | none, none, some (.record modelId _) => do
      let id ← modelId.validated
      pure (some id)
  | none, none, _ => .ok none

/-- The models of the registry that a binding may be. -/
def registryMatches (registry : List CountedModel) (binding : BudgetBinding)
    (hint : Option UUID) : List CountedModel :=
  registry.filter fun m =>
    m.modelKey.casefold == binding.modelKey.casefold &&
      (m.runtimeId == binding.runtimeId ||
        (binding.runtimeId == none && hint == some m.id))

/-- Who a binding is, and whether it is a model that the publication adds. -/
structure BudgetIdentity where
  modelId : UUID
  newModel : Bool
deriving DecidableEq

/-- The identity of a binding whose matches in the registry are known. -/
def budgetIdentity (candidateKey : Option String) (binding : BudgetBinding)
    (found : List CountedModel) : Except CaptureError BudgetIdentity := do
  let newModel := publication.publicationKind == .modelAdd &&
    candidateKey == some binding.modelKey.text && found.isEmpty
  require (found.length ≤ 1) (.value "Budget model identity is ambiguous")
  match binding.logicalModelId, found with
  | some id, _ => pure ⟨id, newModel⟩
  | none, m :: _ => pure ⟨m.id, newModel⟩
  | none, [] =>
      if newModel then pure ⟨self.uuid5 publication.id binding.modelKey.text, newModel⟩
      else .error (.value "Budget model identity is unavailable")

/-- The policies of the gateway with those of the model. -/
def selectedPolicies (policies : List (Operation × ProtocolRequestPolicy)) (digest : Hex64)
    (modelPolicy : Option ModelRequestPolicyBinding) :
    Except CaptureError (List (Operation × ProtocolRequestPolicy)) :=
  match modelPolicy with
  | none => .ok policies
  | some bound => do
      require (bound.bindingSha256 = digest)
        (.value "Model request policy does not match the publication route")
      require (∀ entry ∈ bound.policies, entry.2.verifiedAt ≤ publication.createdAt)
        (.value "Model request policy evidence must precede publication")
      require (∀ entry ∈ bound.policies, ∀ p ∈ Dictionary.get entry.1 policies, p = entry.2)
        (.value "Model and Gateway request policies conflict")
      pure (Dictionary.overwrite policies bound.policies)

/-- The contract of an approval. -/
def approvedContract (binding : BudgetBinding) (modelId : UUID) (digest : Hex64)
    (approved : ApprovedModelCountContract) : Except CaptureError ModelCountContract := do
  require (approved.bindingSha256 = digest)
    (.value "Approved budget contract does not match the publication route")
  let required ← estimate publication binding modelId digest
  require (∀ operation ∈ required.protocols.map Prod.fst, approved.contract.Supports operation)
    (.value "Approved route contract must retain every supported protocol")
  require (approved.contract.Precedes publication.createdAt)
    (.value "Approved route evidence must precede publication")
  pure approved.contract

/-- The contract of the fence. -/
def recordedContract (binding : BudgetBinding) (identity : BudgetIdentity) (digest : Hex64)
    (recorded : RecordedContract) : Except CaptureError ModelCountContract :=
  match recorded with
  | .other => .error .validation
  | .record _ contract => do
      let contract ← contract.validated
      if contract.modelId = identity.modelId then pure contract
      else do
        require (identity.newModel = true)
          (.value "Budget contract belongs to another model identity")
        estimate publication binding identity.modelId digest

/-- The contract that a policy is laid over. -/
def chosenContract (binding : BudgetBinding) (identity : BudgetIdentity) (digest : Hex64)
    (approved : Option ApprovedModelCountContract) (prior : Option PriorContract)
    (recorded : Option RecordedContract) : Except CaptureError ModelCountContract :=
  match approved with
  | some approved => approvedContract publication binding identity.modelId digest approved
  | none =>
      match prior.filter fun p => p.contract.modelId = identity.modelId with
      | some prior => do
          require (Dictionary.get binding.modelKey.text prior.snapshot.bindingSha256 = some digest ∨
              prior.contract.Unverified)
            (.value "Verified counting or request policy cannot be inherited by a changed route")
          pure prior.contract
      | none =>
          match recorded with
          | some recorded => recordedContract publication binding identity digest recorded
          | none =>
              if identity.newModel then estimate publication binding identity.modelId digest
              else .error (.value "An existing model is missing its approved budget contract")

/-- The contract that counts an operation. -/
def countedBy (base : ProtocolCountContract) (protocols : List (Operation × ProtocolCountContract))
    (operation : Operation) : Option ProtocolCountContract :=
  (Dictionary.get operation protocols).or
    (if operation ∈ base.operations then some base else none)

/-- One round of the overlay. -/
def overlayOperation (contract : ModelCountContract)
    (protocols : List (Operation × ProtocolCountContract))
    (entry : Operation × ProtocolRequestPolicy) :
    Except CaptureError (List (Operation × ProtocolCountContract)) :=
  match countedBy contract.base protocols entry.1 with
  | none => .ok protocols
  | some original => do
      let value ← ProtocolCountContract.modelValidate
        { original.toCountFields with
          operations := [entry.1]
          requestPolicy := some entry.2
          outputField :=
            if entry.1 = .responses ∧ original.algorithm ≠ .requestTotalCeiling then
              .maxOutputTokens
            else original.outputField }
      pure (Dictionary.update entry.1 (fun _ => value) protocols)

/-- The contract with its policies. -/
def overlay (contract : ModelCountContract) (modelPolicy : Option ModelRequestPolicyBinding)
    (selected : List (Operation × ProtocolRequestPolicy)) :
    Except CaptureError ModelCountContract := do
  require (∀ bound ∈ modelPolicy, ∀ entry ∈ bound.policies, contract.Supports entry.1)
    (.value "Model request policy requires a supported route operation")
  let protocols ← selected.foldlM (overlayOperation contract) contract.protocols
  if selected = [] then pure contract
  else ModelCountContract.modelValidate contract.base contract.modelId protocols

end

/-- What capturing knows of the fence and of the earlier publications. -/
structure CaptureContext where
  epoch : UUID
  requireVerifiedBound : Bool
  recorded : List (String × RecordedContract)
  policies : List (Operation × ProtocolRequestPolicy)
  modelPolicies : List (UUID × ModelRequestPolicyBinding)
  approved : List (UUID × ApprovedModelCountContract)
  inherited : Option BudgetPublicationContracts
  candidateKey : Option String

section

variable (self : BudgetCounting) (publication : BudgetPublication)

/-- `new_model_key or ...`. -/
def candidateKey (newModelKey : Option String) : Option String :=
  if newModelKey.getD "" = "" then publication.bindings.getLast?.map fun b => b.modelKey.text
  else newModelKey

/-- What is checked before the loop. -/
def captureContext (fence : GatewayFence) (previous : Option BudgetPublication)
    (newModelKey : Option String) : Except CaptureError CaptureContext := do
  require (fence.protocolVersion = 2 ∧ fence.mode = "active" ∧
      fence.gatewayProfileId = publication.gatewayProfileId)
    (.value "Budget publication requires its active Gateway fence")
  let requireVerifiedBound ← fence.requireVerifiedBound.checked
    "Gateway fence verified bound requirement must be a boolean"
  let epoch ← fence.epoch.validated
  let recorded ← fence.modelContracts.checked
    "Budget publication requires explicit existing model contracts"
  let policies ← fence.requestPolicies.validated
  require (∀ entry ∈ policies, entry.2.summarized = false)
    (.value "Streaming defaults require an evidence-bound model request policy")
  let modelPolicies ← fence.modelRequestPolicies.validated
  let approved ← fence.approvedModelContracts.validated
  require (∀ entry ∈ approved, entry.1 = entry.2.contract.modelId)
    (.value "Approved contract key must match its model identity")
  let inherited ← previousSnapshot publication epoch previous
  pure ⟨epoch, requireVerifiedBound, recorded, policies, modelPolicies, approved, inherited,
    candidateKey publication newModelKey⟩

/-- One round of the loop of `capture`. -/
def captureBinding (context : CaptureContext) (registry : List CountedModel)
    (publications : List BudgetPublication) (binding : BudgetBinding) :
    Except CaptureError ModelCountContract := do
  let key := binding.modelKey.text
  let recorded := Dictionary.get key context.recorded
  let prior ← priorContract self publication key context.epoch context.recorded context.inherited
    publications
  let hint ← identityHint binding prior recorded
  let identity ← budgetIdentity self publication context.candidateKey binding
    (registryMatches registry binding hint)
  let digest := self.bindingDigest binding
  let modelPolicy := Dictionary.get identity.modelId context.modelPolicies
  let selected ← selectedPolicies publication context.policies digest modelPolicy
  let chosen ← chosenContract publication binding identity digest
    (Dictionary.get identity.modelId context.approved) prior recorded
  let contract ← overlay chosen modelPolicy selected
  require (context.requireVerifiedBound = true → contract.isLegacy = false)
    (.value "Hard budget fence requires an approved verified count contract")
  pure contract

/-- `BudgetPublicationContracts.capture`. -/
def capture (registry : List CountedModel) (fence : GatewayFence)
    (previous : Option BudgetPublication) (newModelKey : Option String)
    (publications : List BudgetPublication) : Except CaptureError BudgetPublicationContracts := do
  let context ← captureContext publication fence previous newModelKey
  let captured ← publication.bindings.mapM fun binding => do
    let contract ← captureBinding self publication context registry publications binding
    pure (binding, contract)
  pure
    { publicationId := publication.id
      gatewayProfileId := publication.gatewayProfileId
      epoch := context.epoch
      releaseSpecSha256 := publication.desiredSpecSha256
      bindingSha256 := Dictionary.collect (fun c => c.1.modelKey.text)
        (fun _ c => self.bindingDigest c.1) captured
      modelContracts := Dictionary.collect (fun c => c.1.modelKey.text) (fun _ c => c.2) captured }

end

end Turnstile
