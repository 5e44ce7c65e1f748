import Turnstile.Domain.BudgetContracts

/-!
# What a captured budget contract is

Every contract that a publication captures is accounted for: whose it is, where it was
taken from, and what was laid over it.  A snapshot is read again by later publications,
so a history of captures is considered next.  A contract that says more than an estimate
was approved, recorded or given a policy in a capture of the history, and the binding of its
model key had the same digest then (`verified_contract_keeps_route`).
-/

namespace Turnstile

open Guard BudgetPublicationContracts

@[simp] theorem validated_eq_ok {α : Type} {d : Decoded α} {value : α} :
    d.validated = .ok value ↔ d = .record value := by
  cases d <;> simp [Decoded.validated]

/-! ## Policies -/

section Policies

variable {publication : BudgetPublication}
  {policies selected : List (Operation × ProtocolRequestPolicy)} {digest : Hex64}
  {modelPolicy : Option ModelRequestPolicyBinding}

/-- A policy of the model goes before one of the gateway. -/
theorem get_selectedPolicies
    (h : selectedPolicies publication policies digest modelPolicy = .ok selected)
    (operation : Operation) :
    Dictionary.get operation selected
      = (modelPolicy.bind fun bound => Dictionary.get operation bound.policies).or
          (Dictionary.get operation policies) := by
  cases modelPolicy with
  | none =>
      obtain rfl := Except.ok.inj h
      rfl
  | some bound =>
      obtain ⟨-, h⟩ := require_bind_eq_ok.1 h
      obtain ⟨-, h⟩ := require_bind_eq_ok.1 h
      obtain ⟨-, h⟩ := require_bind_eq_ok.1 h
      obtain rfl := Except.ok.inj h
      exact Dictionary.get_overwrite bound.distinct operation

theorem nodup_selectedPolicies
    (h : selectedPolicies publication policies digest modelPolicy = .ok selected)
    (distinct : (policies.map Prod.fst).Nodup) : (selected.map Prod.fst).Nodup := by
  cases modelPolicy with
  | none =>
      obtain rfl := Except.ok.inj h
      exact distinct
  | some bound =>
      obtain ⟨-, h⟩ := require_bind_eq_ok.1 h
      obtain ⟨-, h⟩ := require_bind_eq_ok.1 h
      obtain ⟨-, h⟩ := require_bind_eq_ok.1 h
      obtain rfl := Except.ok.inj h
      exact Dictionary.nodup_overwrite distinct

end Policies

/-! ## The overlay -/

theorem countedBy_eq_none {c : ModelCountContract} {operation : Operation} :
    countedBy c.base c.protocols operation = none ↔ ¬c.Supports operation := by
  rw [countedBy, Option.or_eq_none_iff, Dictionary.get_eq_none, ModelCountContract.Supports,
    not_or, and_comm]
  by_cases h : operation ∈ c.base.operations <;> simp [h]

theorem modelValidate_fields {c : CountFields} {value : ProtocolCountContract}
    (h : ProtocolCountContract.modelValidate c = .ok value) : value.toCountFields = c := by
  unfold ProtocolCountContract.modelValidate at h
  split at h
  next => rw [← Except.ok.inj h]
  next => cases h

/-- The counting of `original` for `operation` alone, under `policy`. -/
def ProtocolCountContract.Narrowed (original value : ProtocolCountContract)
    (operation : Operation) (policy : ProtocolRequestPolicy) : Prop :=
  value.toCountFields = { original.toCountFields with
    operations := [operation]
    requestPolicy := some policy
    outputField :=
      if operation = .responses ∧ original.algorithm ≠ .requestTotalCeiling then .maxOutputTokens
      else original.outputField }

/-- `contract` is `chosen` with the selected policies laid over it, and nothing else. -/
structure Overlaid (selected : List (Operation × ProtocolRequestPolicy))
    (chosen contract : ModelCountContract) : Prop where
  base : contract.base = chosen.base
  modelId : contract.modelId = chosen.modelId
  policy : ∀ operation policy original, Dictionary.get operation selected = some policy →
    countedBy chosen.base chosen.protocols operation = some original →
      ∃ value, Dictionary.get operation contract.protocols = some value ∧
        original.Narrowed value operation policy
  others : ∀ operation, Dictionary.get operation selected = none ∨ ¬chosen.Supports operation →
    Dictionary.get operation contract.protocols = Dictionary.get operation chosen.protocols
  unsupported : (∀ entry ∈ selected, ¬chosen.Supports entry.1) → contract = chosen

section Overlay

variable {chosen contract : ModelCountContract}
  {protocols protocols' : List (Operation × ProtocolCountContract)}
  {entry : Operation × ProtocolRequestPolicy}
  {done selected : List (Operation × ProtocolRequestPolicy)}

/-- One round of the overlay, for an operation that no round was about. -/
theorem overlayOperation_cases
    (h : overlayOperation chosen protocols entry = .ok protocols')
    (hsame : Dictionary.get entry.1 protocols = Dictionary.get entry.1 chosen.protocols) :
    (¬chosen.Supports entry.1 ∧ protocols' = protocols) ∨
      ∃ original value, countedBy chosen.base chosen.protocols entry.1 = some original ∧
        original.Narrowed value entry.1 entry.2 ∧
        protocols' = Dictionary.update entry.1 (fun _ => value) protocols := by
  have hcounted : countedBy chosen.base protocols entry.1
      = countedBy chosen.base chosen.protocols entry.1 := by
    rw [countedBy, countedBy, hsame]
  rw [overlayOperation, hcounted] at h
  cases horiginal : countedBy chosen.base chosen.protocols entry.1 with
  | none =>
      rw [horiginal] at h
      obtain rfl := Except.ok.inj h
      exact .inl ⟨countedBy_eq_none.1 horiginal, rfl⟩
  | some original =>
      rw [horiginal] at h
      obtain ⟨value, hvalue, h⟩ := bind_eq_ok.1 h
      obtain rfl := Except.ok.inj h
      have hfields := modelValidate_fields hvalue
      exact .inr ⟨original, value, rfl, by rw [ProtocolCountContract.Narrowed, hfields], rfl⟩

/-- What the rounds of the overlay did, those of `done`. -/
def OverlaidBy (chosen : ModelCountContract) (done : List (Operation × ProtocolRequestPolicy))
    (protocols : List (Operation × ProtocolCountContract)) : Prop :=
  (done.map Prod.fst).Nodup →
    (∀ operation policy original, Dictionary.get operation done = some policy →
      countedBy chosen.base chosen.protocols operation = some original →
        ∃ value, Dictionary.get operation protocols = some value ∧
          original.Narrowed value operation policy) ∧
    (∀ operation, Dictionary.get operation done = none ∨ ¬chosen.Supports operation →
      Dictionary.get operation protocols = Dictionary.get operation chosen.protocols) ∧
    ((∀ entry ∈ done, ¬chosen.Supports entry.1) → protocols = chosen.protocols)

theorem overlaidBy_step
    (h : overlayOperation chosen protocols entry = .ok protocols')
    (hdone : OverlaidBy chosen done protocols) :
    OverlaidBy chosen (done ++ [entry]) protocols' := by
  intro hnodup
  rw [List.map_append, List.map_singleton] at hnodup
  obtain ⟨hnodup, -, hnew⟩ := List.nodup_append'.1 hnodup
  obtain ⟨hpolicy, hothers, hunsupported⟩ := hdone hnodup
  have hfresh : Dictionary.get entry.1 done = none :=
    Dictionary.get_eq_none.2 (List.disjoint_singleton.1 hnew)
  have hget : ∀ operation, Dictionary.get operation (done ++ [entry])
      = if entry.1 = operation then some entry.2 else Dictionary.get operation done := by
    intro operation
    rw [Dictionary.get_append_singleton]
    split
    next heq => rw [← heq, hfresh, Option.none_or]
    next => rw [Option.or_none]
  rcases overlayOperation_cases h (hothers entry.1 (.inl hfresh)) with hcase | hcase
  · obtain ⟨hnot, rfl⟩ := hcase
    refine ⟨?_, ?_, ?_⟩
    · intro operation policy original hselected horiginal
      rw [hget] at hselected
      split at hselected
      next heq =>
        rw [← heq, countedBy_eq_none.2 hnot] at horiginal
        cases horiginal
      next => exact hpolicy operation policy original hselected horiginal
    · intro operation hother
      refine hothers operation (hother.imp (fun hnone => ?_) id)
      rw [hget] at hnone
      split at hnone
      next => cases hnone
      next => exact hnone
    · intro hall
      exact hunsupported fun e he => hall e (List.mem_append_left _ he)
  · obtain ⟨original, value, horiginal, hvalue, rfl⟩ := hcase
    have hsupports : chosen.Supports entry.1 := by
      by_contra hnot
      rw [countedBy_eq_none.2 hnot] at horiginal
      cases horiginal
    refine ⟨?_, ?_, ?_⟩
    · intro operation policy original' hselected horiginal'
      rw [hget] at hselected
      rw [Dictionary.get_update]
      split at hselected
      next heq =>
        subst heq
        obtain rfl := Option.some.inj hselected
        obtain rfl := Option.some.inj (horiginal.symm.trans horiginal')
        exact ⟨value, if_pos rfl, hvalue⟩
      next hne =>
        rw [if_neg hne]
        exact hpolicy operation policy original' hselected horiginal'
    · intro operation hother
      rw [hget] at hother
      have hne : entry.1 ≠ operation := by
        rintro rfl
        rw [if_pos rfl] at hother
        rcases hother with hnone | hnot
        · cases hnone
        · exact hnot hsupports
      rw [if_neg hne] at hother
      rw [Dictionary.get_update, if_neg hne]
      exact hothers operation hother
    · intro hall
      exact absurd hsupports (hall entry (List.mem_append_right _ List.mem_cons_self))

/-- The overlay lays every selected policy over what the contract supports. -/
theorem overlaid_of_overlay {modelPolicy : Option ModelRequestPolicyBinding}
    (h : overlay chosen modelPolicy selected = .ok contract)
    (distinct : (selected.map Prod.fst).Nodup) : Overlaid selected chosen contract := by
  obtain ⟨-, h⟩ := require_bind_eq_ok.1 h
  obtain ⟨protocols, hprotocols, h⟩ := bind_eq_ok.1 h
  have hstart : OverlaidBy chosen [] chosen.protocols := by
    intro _
    refine ⟨?_, fun _ _ => rfl, fun _ => rfl⟩
    intro operation policy original hget
    cases hget
  obtain ⟨hpolicy, hothers, hunsupported⟩ := foldlM_keeps hprotocols hstart
    (fun _ _ _ _ hround hdone => overlaidBy_step hround hdone) distinct
  split at h
  next hnone =>
    obtain rfl := Except.ok.inj h
    subst hnone
    refine ⟨rfl, rfl, ?_, fun _ _ => rfl, fun _ => rfl⟩
    intro operation policy original hget
    cases hget
  next =>
    unfold ModelCountContract.modelValidate at h
    split at h
    next hcovered =>
      obtain rfl := Except.ok.inj h
      refine ⟨rfl, rfl, hpolicy, hothers, fun hall => ?_⟩
      obtain rfl := hunsupported hall
      rfl
    next => cases h

end Overlay

/-! ## Where a contract is taken from -/

section Sources

variable (self : BudgetCounting) (publication : BudgetPublication) (context : CaptureContext)
  (registry : List CountedModel) (publications : List BudgetPublication)

/-- The contracts of earlier snapshots that a model key may inherit: of the previous
publication, or of an active one of the same gateway and epoch that it is valid for. -/
inductive Inheritable (key : String) : PriorContract → Prop
  | previous {snapshot : BudgetPublicationContracts} {contract : ModelCountContract}
      (saved : context.inherited = some snapshot)
      (found : Dictionary.get key snapshot.modelContracts = some contract) :
      Inheritable key ⟨snapshot, contract⟩
  | publication {source : BudgetPublication} {snapshot : BudgetPublicationContracts}
      {contract : ModelCountContract} (member : source ∈ publications)
      (saved : source.budgetContracts = some (.record snapshot))
      (found : Dictionary.get key snapshot.modelContracts = some contract)
      (valid : snapshot.validatePublication self source = .ok ())
      (active : source.status = .active)
      (profile : snapshot.gatewayProfileId = publication.gatewayProfileId)
      (epoch : snapshot.epoch = context.epoch)
      (precedes : contract.Precedes publication.createdAt) : Inheritable key ⟨snapshot, contract⟩

/-- Who a binding is: its logical model, else the one model of the registry that it may
be, else the new model that the publication adds. -/
structure Identified (binding : BudgetBinding) (hint : Option UUID)
    (identity : BudgetIdentity) : Prop where
  unambiguous : (registryMatches registry binding hint).length ≤ 1
  logical : ∀ id, binding.logicalModelId = some id → identity.modelId = id
  registered : binding.logicalModelId = none → ∀ m ∈ registryMatches registry binding hint,
    identity.modelId = m.id
  unregistered : binding.logicalModelId = none → registryMatches registry binding hint = [] →
    identity.newModel = true ∧ identity.modelId = self.uuid5 publication.id binding.modelKey.text
  added : identity.newModel = true → publication.publicationKind = .modelAdd ∧
    context.candidateKey = some binding.modelKey.text ∧ registryMatches registry binding hint = []

/-- Where the contract that the policies are laid over is taken from. -/
inductive TakenFrom (binding : BudgetBinding) (identity : BudgetIdentity) :
    ModelCountContract → Prop
  | approval {approved : ApprovedModelCountContract} {required : ModelCountContract}
      (found : Dictionary.get identity.modelId context.approved = some approved)
      (route : approved.bindingSha256 = self.bindingDigest binding)
      (estimated : estimate publication binding identity.modelId (self.bindingDigest binding)
        = .ok required)
      (covers : ∀ operation ∈ required.protocols.map Prod.fst, approved.contract.Supports operation)
      (precedes : approved.contract.Precedes publication.createdAt) :
      TakenFrom binding identity approved.contract
  | snapshot {prior : PriorContract}
      (inheritable : Inheritable self publication context publications binding.modelKey.text prior)
      (route : Dictionary.get binding.modelKey.text prior.snapshot.bindingSha256
          = some (self.bindingDigest binding) ∨ prior.contract.Unverified) :
      TakenFrom binding identity prior.contract
  | record {modelId : Decoded UUID} {contract : ModelCountContract}
      (found : Dictionary.get binding.modelKey.text context.recorded
        = some (.record modelId (.record contract))) :
      TakenFrom binding identity contract
  | estimate {contract : ModelCountContract} (added : identity.newModel = true)
      (estimated : estimate publication binding identity.modelId (self.bindingDigest binding)
        = .ok contract) :
      TakenFrom binding identity contract

/-- A contract that was captured for a binding: whose it is, where it was taken from, and
what was laid over it. -/
inductive Captured (binding : BudgetBinding) (contract : ModelCountContract) : Prop
  | intro {prior : Option PriorContract} {hint : Option UUID} {identity : BudgetIdentity}
      {selected : List (Operation × ProtocolRequestPolicy)} {chosen : ModelCountContract}
      (inheritable : ∀ p ∈ prior,
        Inheritable self publication context publications binding.modelKey.text p)
      (hinted : identityHint binding prior (Dictionary.get binding.modelKey.text context.recorded)
        = .ok hint)
      (identified : Identified self publication context registry binding hint identity)
      (owner : contract.modelId = identity.modelId)
      (taken : TakenFrom self publication context publications binding identity chosen)
      (policies : ∀ operation, Dictionary.get operation selected
        = ((Dictionary.get identity.modelId context.modelPolicies).bind fun bound =>
            Dictionary.get operation bound.policies).or (Dictionary.get operation context.policies))
      (route : ∀ bound, Dictionary.get identity.modelId context.modelPolicies = some bound →
        bound.bindingSha256 = self.bindingDigest binding ∧
          ∀ entry ∈ bound.policies, entry.2.verifiedAt ≤ publication.createdAt)
      (overlaid : Overlaid selected chosen contract)
      (bounded : context.requireVerifiedBound = true → contract.isLegacy = false) :
      Captured binding contract

end Sources

section Capturing

variable {self : BudgetCounting} {publication : BudgetPublication} {context : CaptureContext}
  {registry : List CountedModel} {publications : List BudgetPublication} {binding : BudgetBinding}
  {fence : GatewayFence} {previous : Option BudgetPublication} {newModelKey : Option String}
  {recorded : Option RecordedContract} {prior : Option PriorContract} {identity : BudgetIdentity}
  {key : String}

theorem inheritable_of_inheritedPrior {p : PriorContract} {sources : List BudgetPublication}
    (h : inheritedPrior self publication key context.epoch sources = .ok (some p))
    (hsources : ∀ source ∈ sources, source ∈ publications) :
    Inheritable self publication context publications key p := by
  induction sources with
  | nil => cases h
  | cons source rest ih =>
      have hrest : ∀ source ∈ rest, source ∈ publications :=
        fun other hother => hsources other (List.mem_cons_of_mem _ hother)
      rw [inheritedPrior] at h
      cases hsaved : source.budgetContracts with
      | none =>
          rw [hsaved] at h
          exact ih h hrest
      | some saved =>
          rw [hsaved] at h
          obtain ⟨snapshot, hsnapshot, hrun⟩ := bind_eq_ok.1 h
          clear h
          obtain rfl := validated_eq_ok.1 hsnapshot
          cases hfound : Dictionary.get key snapshot.modelContracts with
          | none =>
              rw [hfound] at hrun
              exact ih hrun hrest
          | some contract =>
              rw [hfound] at hrun
              obtain ⟨hvalid, hrun⟩ := check_bind_eq_ok.1 hrun
              obtain ⟨hsource, hrun⟩ := require_bind_eq_ok.1 hrun
              obtain ⟨hprecedes, hrun⟩ := require_bind_eq_ok.1 hrun
              obtain rfl := Option.some.inj (Except.ok.inj hrun)
              exact .publication (hsources source List.mem_cons_self) hsaved hfound hvalid hsource.1
                hsource.2.1 hsource.2.2 hprecedes

theorem inheritable_of_priorContract {p : PriorContract}
    (h : priorContract self publication key context.epoch context.recorded context.inherited
      publications = .ok (some p)) :
    Inheritable self publication context publications key p := by
  unfold priorContract at h
  split at h
  next prior hprior =>
    obtain rfl := Option.some.inj (Except.ok.inj h)
    obtain ⟨snapshot, hsnapshot, hfound⟩ := Option.bind_eq_some_iff.1 hprior
    obtain ⟨contract, hcontract, rfl⟩ := Option.map_eq_some_iff.1 hfound
    exact .previous hsnapshot hcontract
  next =>
    split at h
    next => cases h
    next => exact inheritable_of_inheritedPrior h fun _ hsource => hsource

theorem identified_of_budgetIdentity {hint : Option UUID}
    (h : budgetIdentity self publication context.candidateKey binding
      (registryMatches registry binding hint) = .ok identity) :
    Identified self publication context registry binding hint identity := by
  obtain ⟨hunambiguous, h⟩ := require_bind_eq_ok.1 h
  have hadded : ∀ {newModel : Bool}, (publication.publicationKind == .modelAdd &&
      context.candidateKey == some binding.modelKey.text &&
        (registryMatches registry binding hint).isEmpty) = newModel → newModel = true →
      publication.publicationKind = .modelAdd ∧
        context.candidateKey = some binding.modelKey.text ∧
        registryMatches registry binding hint = [] := by
    rintro newModel rfl hnew
    simpa [and_assoc] using hnew
  cases hlogical : binding.logicalModelId with
  | some id =>
      rw [hlogical] at h
      obtain rfl := Except.ok.inj h
      exact ⟨hunambiguous, fun _ hid => Option.some.inj (hlogical.symm.trans hid),
        fun hnone => (by cases hlogical.symm.trans hnone),
        fun hnone => (by cases hlogical.symm.trans hnone), hadded rfl⟩
  | none =>
      rw [hlogical] at h
      cases hfound : registryMatches registry binding hint with
      | cons m rest =>
          rw [hfound] at h hunambiguous
          obtain rfl := Except.ok.inj h
          have hrest : rest = [] := by
            cases rest with
            | nil => rfl
            | cons m' rest => simp at hunambiguous
          subst hrest
          refine ⟨?_, fun _ hid => (by cases hlogical.symm.trans hid), ?_, ?_, ?_⟩
          · rw [hfound]
            exact hunambiguous
          · intro _ m' hm'
            rw [hfound, List.mem_singleton] at hm'
            rw [hm']
          · intro _ hnone
            cases hfound.symm.trans hnone
          · rw [← hfound]
            exact hadded rfl
      | nil =>
          rw [hfound] at h
          simp only at h
          split at h
          next hnew =>
            obtain rfl := Except.ok.inj h
            refine ⟨?_, fun _ hid => (by cases hlogical.symm.trans hid), ?_, ?_, ?_⟩
            · rw [hfound]
              exact Nat.zero_le 1
            · intro _ m hm
              rw [hfound] at hm
              cases hm
            · exact fun _ _ => ⟨hnew, rfl⟩
            · exact hadded (by rw [hfound])
          next => cases h

theorem modelId_of_modelValidate {base : ProtocolCountContract} {modelId : UUID}
    {protocols : List (Operation × ProtocolCountContract)} {contract : ModelCountContract}
    (h : ModelCountContract.modelValidate base modelId protocols = .ok contract) :
    contract.modelId = modelId := by
  unfold ModelCountContract.modelValidate at h
  split at h
  next =>
    obtain rfl := Except.ok.inj h
    rfl
  next => cases h

theorem modelId_of_estimate {modelId : UUID} {digest : Hex64} {contract : ModelCountContract}
    (h : estimate publication binding modelId digest = .ok contract) :
    contract.modelId = modelId := by
  obtain ⟨primary, -, h⟩ := bind_eq_ok.1 h
  obtain ⟨rest, -, h⟩ := bind_eq_ok.1 h
  exact modelId_of_modelValidate h

/-- The contract that is chosen is that of the model, and one of a permitted source. -/
theorem takenFrom_of_chosenContract {chosen : ModelCountContract}
    (h : chosenContract publication binding identity (self.bindingDigest binding)
      (Dictionary.get identity.modelId context.approved) prior
      (Dictionary.get binding.modelKey.text context.recorded) = .ok chosen)
    (hprior : ∀ p ∈ prior, Inheritable self publication context publications
      binding.modelKey.text p)
    (happroved : ∀ entry ∈ context.approved, entry.1 = entry.2.contract.modelId) :
    chosen.modelId = identity.modelId ∧
      TakenFrom self publication context publications binding identity chosen := by
  unfold chosenContract at h
  split at h
  next approved hfound =>
    obtain ⟨hroute, h⟩ := require_bind_eq_ok.1 h
    obtain ⟨required, hestimated, h⟩ := bind_eq_ok.1 h
    obtain ⟨hcovers, h⟩ := require_bind_eq_ok.1 h
    obtain ⟨hprecedes, h⟩ := require_bind_eq_ok.1 h
    obtain rfl := Except.ok.inj h
    exact ⟨(happroved _ (Dictionary.mem_of_get hfound)).symm,
      .approval hfound hroute hestimated hcovers hprecedes⟩
  next =>
    split at h
    next p hp =>
      obtain ⟨hmem, howner⟩ := Option.filter_eq_some_iff.1 hp
      obtain ⟨hroute, h⟩ := require_bind_eq_ok.1 h
      obtain rfl := Except.ok.inj h
      exact ⟨of_decide_eq_true howner, .snapshot (hprior p hmem) hroute⟩
    next =>
      split at h
      next saved hsaved =>
        cases saved with
        | other => cases h
        | record modelId contract =>
            obtain ⟨value, hvalue, hrun⟩ := bind_eq_ok.1 h
            clear h
            obtain rfl := validated_eq_ok.1 hvalue
            split at hrun
            next howner =>
              obtain rfl := Except.ok.inj hrun
              exact ⟨howner, .record hsaved⟩
            next =>
              obtain ⟨hnew, hrun⟩ := require_bind_eq_ok.1 hrun
              exact ⟨modelId_of_estimate hrun, .estimate hnew hrun⟩
      next =>
        split at h
        next hnew => exact ⟨modelId_of_estimate h, .estimate hnew h⟩
        next => cases h

/-- What the context of a capture was read from. -/
theorem captureContext_facts
    (h : captureContext publication fence previous newModelKey = .ok context) :
    (∀ entry ∈ context.approved, entry.1 = entry.2.contract.modelId) ∧
      (context.policies.map Prod.fst).Nodup ∧
      ∀ snapshot, context.inherited = some snapshot →
        ∃ p ∈ previous, p.budgetContracts = some (.record snapshot) := by
  obtain ⟨-, h⟩ := require_bind_eq_ok.1 h
  obtain ⟨required, -, h⟩ := bind_eq_ok.1 h
  obtain ⟨epoch, -, h⟩ := bind_eq_ok.1 h
  obtain ⟨saved, -, h⟩ := bind_eq_ok.1 h
  obtain ⟨policies, hpolicies, h⟩ := bind_eq_ok.1 h
  obtain ⟨-, h⟩ := require_bind_eq_ok.1 h
  obtain ⟨modelPolicies, -, h⟩ := bind_eq_ok.1 h
  obtain ⟨approved, -, h⟩ := bind_eq_ok.1 h
  obtain ⟨happroved, h⟩ := require_bind_eq_ok.1 h
  obtain ⟨inherited, hinherited, h⟩ := bind_eq_ok.1 h
  obtain rfl := Except.ok.inj h
  refine ⟨happroved, fence.distinct policies (validated_eq_ok.1 hpolicies), ?_⟩
  rintro snapshot rfl
  unfold previousSnapshot at hinherited
  split at hinherited
  next => cases hinherited
  next p saved hread =>
    obtain ⟨value, hvalue, hrun⟩ := bind_eq_ok.1 hinherited
    obtain ⟨-, hrun⟩ := require_bind_eq_ok.1 hrun
    obtain rfl := Option.some.inj (Except.ok.inj hrun)
    obtain ⟨q, hq, hsaved⟩ := Option.bind_eq_some_iff.1 hread
    obtain ⟨d, hd, hpair⟩ := Option.map_eq_some_iff.1 hsaved
    cases hpair
    rw [validated_eq_ok.1 hvalue] at hd
    exact ⟨p, hq, hd⟩

theorem captured_of_captureBinding {contract : ModelCountContract}
    (hcontext : captureContext publication fence previous newModelKey = .ok context)
    (h : captureBinding self publication context registry publications binding = .ok contract) :
    Captured self publication context registry publications binding contract := by
  obtain ⟨happroved, hdistinct, -⟩ := captureContext_facts hcontext
  obtain ⟨prior, hprior, h⟩ := bind_eq_ok.1 h
  obtain ⟨hint, hhint, h⟩ := bind_eq_ok.1 h
  obtain ⟨identity, hidentity, h⟩ := bind_eq_ok.1 h
  obtain ⟨selected, hselected, h⟩ := bind_eq_ok.1 h
  obtain ⟨chosen, hchosen, h⟩ := bind_eq_ok.1 h
  obtain ⟨overlaid, hoverlaid, h⟩ := bind_eq_ok.1 h
  obtain ⟨hbounded, h⟩ := require_bind_eq_ok.1 h
  obtain rfl := Except.ok.inj h
  have hinheritable : ∀ p ∈ prior, Inheritable self publication context publications
      binding.modelKey.text p := by
    rintro p rfl
    exact inheritable_of_priorContract hprior
  obtain ⟨howner, htaken⟩ := takenFrom_of_chosenContract hchosen hinheritable happroved
  have hover := overlaid_of_overlay hoverlaid (nodup_selectedPolicies hselected hdistinct)
  refine .intro hinheritable hhint (identified_of_budgetIdentity hidentity)
    (hover.modelId.trans howner) htaken (get_selectedPolicies hselected) ?_ hover hbounded
  intro bound hbound
  rw [hbound] at hselected
  obtain ⟨hroute, hselected⟩ := require_bind_eq_ok.1 hselected
  obtain ⟨hprecedes, -⟩ := require_bind_eq_ok.1 hselected
  exact ⟨hroute, hprecedes⟩

/-- A capture is one contract and one digest for every binding. -/
theorem capture_eq_ok {c : BudgetPublicationContracts}
    (h : capture self publication registry fence previous newModelKey publications = .ok c) :
    ∃ context captured, captureContext publication fence previous newModelKey = .ok context ∧
      captured.map Prod.fst = publication.bindings ∧
      (∀ entry ∈ captured, captureBinding self publication context registry publications entry.1
        = .ok entry.2) ∧
      c = { publicationId := publication.id
            gatewayProfileId := publication.gatewayProfileId
            epoch := context.epoch
            releaseSpecSha256 := publication.desiredSpecSha256
            bindingSha256 := Dictionary.collect (fun e => e.1.modelKey.text)
              (fun _ e => self.bindingDigest e.1) captured
            modelContracts := Dictionary.collect (fun e => e.1.modelKey.text)
              (fun _ e => e.2) captured } := by
  obtain ⟨context, hcontext, h⟩ := bind_eq_ok.1 h
  obtain ⟨captured, hcaptured, h⟩ := bind_eq_ok.1 h
  have hall := forall₂_of_mapM hcaptured
  refine ⟨context, captured, hcontext, ?_, ?_, (Except.ok.inj h).symm⟩
  · clear h hcaptured
    generalize publication.bindings = bindings at hall
    induction hall with
    | nil => rfl
    | cons hfirst _ ih =>
        obtain ⟨contract, -, hpair⟩ := bind_eq_ok.1 hfirst
        obtain rfl := Except.ok.inj hpair
        rw [List.map_cons, ih]
  · intro entry hentry
    obtain ⟨b, -, hb⟩ := exists_of_mem_mapM hcaptured hentry
    obtain ⟨contract, hcontract, hpair⟩ := bind_eq_ok.1 hb
    obtain rfl := Except.ok.inj hpair
    exact hcontract

/-- The model keys of a publication are distinct. -/
theorem BudgetPublication.nodup_keys (publication : BudgetPublication) :
    (publication.bindings.map fun b => b.modelKey.text).Nodup := by
  have hdistinct := publication.distinct
  have hfold : (publication.bindings.map fun b => b.modelKey.casefold)
      = (publication.bindings.map fun b => b.modelKey.text).map
          fun text => text.toList.map Char.toLower := by
    rw [List.map_map]
    rfl
  rw [hfold] at hdistinct
  exact hdistinct.of_map

/-- What a captured snapshot has under the model key of a binding. -/
theorem captured_binding {c : BudgetPublicationContracts}
    (h : capture self publication registry fence previous newModelKey publications = .ok c)
    (hbinding : binding ∈ publication.bindings) :
    ∃ context contract, captureContext publication fence previous newModelKey = .ok context ∧
      Dictionary.get binding.modelKey.text c.modelContracts = some contract ∧
      Dictionary.get binding.modelKey.text c.bindingSha256 = some (self.bindingDigest binding) ∧
      Captured self publication context registry publications binding contract := by
  obtain ⟨context, captured, hcontext, hbindings, hcaptured, rfl⟩ := capture_eq_ok h
  rw [← hbindings] at hbinding
  obtain ⟨entry, hentry, rfl⟩ := List.mem_map.1 hbinding
  have hdistinct : (captured.map fun e => e.1.modelKey.text).Nodup := by
    have hkeys := publication.nodup_keys
    rw [← hbindings, List.map_map] at hkeys
    exact hkeys
  exact ⟨context, entry.2, hcontext, Dictionary.get_collect_of_mem hdistinct hentry,
    Dictionary.get_collect_of_mem hdistinct hentry,
    captured_of_captureBinding hcontext (hcaptured entry hentry)⟩

theorem digests_of_capture {c : BudgetPublicationContracts}
    (h : capture self publication registry fence previous newModelKey publications = .ok c) :
    c.bindingSha256 = expectedDigests self publication ∧
      c.modelContracts.map Prod.fst = (expectedDigests self publication).map Prod.fst := by
  obtain ⟨context, captured, hcontext, hbindings, hcaptured, rfl⟩ := capture_eq_ok h
  have hdigests : expectedDigests self publication
      = Dictionary.collect (fun e => e.1.modelKey.text) (fun _ e => self.bindingDigest e.1)
          captured := by
    rw [expectedDigests, ← hbindings, Dictionary.collect, List.foldl_map, Dictionary.collect]
  rw [hdigests]
  exact ⟨rfl, Dictionary.keys_collect _ _ _ captured⟩

/-- A captured key is that of a binding. -/
theorem exists_binding_of_captured {c : BudgetPublicationContracts} {contract : ModelCountContract}
    (h : capture self publication registry fence previous newModelKey publications = .ok c)
    (hget : Dictionary.get key c.modelContracts = some contract) :
    ∃ binding ∈ publication.bindings, binding.modelKey.text = key := by
  have hkey : key ∈ (expectedDigests self publication).map Prod.fst := by
    rw [← (digests_of_capture h).2]
    exact List.mem_map.2 ⟨_, Dictionary.mem_of_get hget, rfl⟩
  cases hdigest : Dictionary.get key (expectedDigests self publication) with
  | none => exact absurd hkey (Dictionary.get_eq_none.1 hdigest)
  | some digest => exact Dictionary.exists_of_get_collect hdigest

end Capturing

/-! ## Histories of captures -/

/-- A capture that returned. -/
structure CaptureRun (counting : BudgetCounting) where
  publication : BudgetPublication
  registry : List CountedModel
  fence : GatewayFence
  previous : Option BudgetPublication
  newModelKey : Option String
  publications : List BudgetPublication
  contracts : BudgetPublicationContracts
  captured : capture counting publication registry fence previous newModelKey publications
    = .ok contracts

/-- The snapshots that a capture is given. -/
def CaptureRun.Reads {self : BudgetCounting} (run : CaptureRun self)
    (snapshot : BudgetPublicationContracts) : Prop :=
  ∃ source ∈ run.previous.toList ++ run.publications,
    source.budgetContracts = some (.record snapshot)

/-- Captures, the latest first.  Each is given snapshots that were there at the start, or
that were captured before it. -/
inductive CaptureHistory {self : BudgetCounting} (initial : List BudgetPublicationContracts) :
    List (CaptureRun self) → Prop
  | start : CaptureHistory initial []
  | capture {run : CaptureRun self} {runs : List (CaptureRun self)}
      (before : CaptureHistory initial runs)
      (reads : ∀ snapshot, run.Reads snapshot →
        snapshot ∈ initial ∨ ∃ earlier ∈ runs, earlier.contracts = snapshot) :
      CaptureHistory initial (run :: runs)

/-- The contract of a binding is more than an estimate for a reason that its own capture saw:
it was approved for the route, or recorded, or carries a policy that was given for it. -/
inductive Vouched (self : BudgetCounting) (context : CaptureContext) (binding : BudgetBinding)
    (contract : ModelCountContract) : Prop
  | approval {approved : ApprovedModelCountContract}
      (found : Dictionary.get contract.modelId context.approved = some approved)
      (route : approved.bindingSha256 = self.bindingDigest binding)
      (same : approved.contract = contract) :
      Vouched self context binding contract
  | record {recordedId : Decoded UUID}
      (found : Dictionary.get binding.modelKey.text context.recorded
        = some (.record recordedId (.record contract))) :
      Vouched self context binding contract
  | gatewayPolicy {operation : Operation} {policy : ProtocolRequestPolicy}
      {value : ProtocolCountContract}
      (found : Dictionary.get operation context.policies = some policy)
      (carried : Dictionary.get operation contract.protocols = some value)
      (given : value.requestPolicy = some policy) :
      Vouched self context binding contract
  | modelPolicy {bound : ModelRequestPolicyBinding} {operation : Operation}
      {policy : ProtocolRequestPolicy} {value : ProtocolCountContract}
      (found : Dictionary.get contract.modelId context.modelPolicies = some bound)
      (route : bound.bindingSha256 = self.bindingDigest binding)
      (chosen : Dictionary.get operation bound.policies = some policy)
      (carried : Dictionary.get operation contract.protocols = some value)
      (given : value.requestPolicy = some policy) :
      Vouched self context binding contract

section Histories

variable {self : BudgetCounting} {publication : BudgetPublication} {context : CaptureContext}
  {registry : List CountedModel} {publications : List BudgetPublication} {binding : BudgetBinding}
  {contract : ModelCountContract} {initial : List BudgetPublicationContracts}
  {runs : List (CaptureRun self)} {key : String}

theorem fields_of_estimatedCount {digest : Hex64} {field : Operation × OutputField}
    {value : ProtocolCountContract} (h : estimatedCount publication digest field = .ok value) :
    value.algorithm = .legacyRequestEstimate ∧ value.requestPolicy = none := by
  have hfields := modelValidate_fields h
  rw [hfields]
  exact ⟨rfl, rfl⟩

/-- An estimate says nothing that was verified. -/
theorem unverified_of_estimate {modelId : UUID} {digest : Hex64}
    (h : estimate publication binding modelId digest = .ok contract) : contract.Unverified := by
  obtain ⟨primary, hprimary, h⟩ := bind_eq_ok.1 h
  obtain ⟨rest, hrest, h⟩ := bind_eq_ok.1 h
  have hall : ∀ item ∈ primary :: rest,
      item.algorithm = .legacyRequestEstimate ∧ item.requestPolicy = none := by
    intro item hitem
    rcases List.mem_cons.1 hitem with rfl | hitem
    · exact fields_of_estimatedCount hprimary
    · obtain ⟨field, -, hfield⟩ := exists_of_mem_mapM hrest hitem
      exact fields_of_estimatedCount hfield
  unfold ModelCountContract.modelValidate at h
  split at h
  next =>
    obtain rfl := Except.ok.inj h
    intro item hitem
    rcases List.mem_cons.1 hitem with rfl | hitem
    · exact hall _ List.mem_cons_self
    · obtain ⟨entry, hentry, rfl⟩ := List.mem_map.1 hitem
      rcases List.mem_cons.1 hentry with rfl | hentry
      · exact hall _ List.mem_cons_self
      · exact hall _ (List.mem_cons_of_mem _ (List.of_mem_zip hentry).2)
  next => cases h

/-- A captured contract that is more than an estimate is vouched for, or was inherited as it
is, with the route that it was captured for. -/
theorem vouched_or_inherited
    (h : Captured self publication context registry publications binding contract)
    (hverified : ¬contract.Unverified) :
    Vouched self context binding contract ∨
      ∃ prior, Inheritable self publication context publications binding.modelKey.text prior ∧
        prior.contract = contract ∧
        Dictionary.get binding.modelKey.text prior.snapshot.bindingSha256
          = some (self.bindingDigest binding) := by
  cases h with
  | @intro prior hint identity selected chosen _ _ _ owner taken policies route overlaid _ =>
      by_cases hselected : ∃ entry ∈ selected, chosen.Supports entry.1
      · obtain ⟨entry, hentry, hsupports⟩ := hselected
        left
        have hget : Dictionary.get entry.1 selected ≠ none := fun hnone =>
          Dictionary.get_eq_none.1 hnone (List.mem_map_of_mem hentry)
        obtain ⟨policy, hpolicy⟩ := Option.ne_none_iff_exists'.1 hget
        obtain ⟨original, horiginal⟩ := Option.ne_none_iff_exists'.1 fun hnone =>
          countedBy_eq_none.1 hnone hsupports
        obtain ⟨value, hvalue, hnarrowed⟩ := overlaid.policy _ _ _ hpolicy horiginal
        have hgiven : value.requestPolicy = some policy := by
          rw [ProtocolCountContract.Narrowed] at hnarrowed
          rw [hnarrowed]
        rw [policies] at hpolicy
        cases hbound : Dictionary.get identity.modelId context.modelPolicies with
        | none =>
            rw [hbound, Option.bind_none, Option.none_or] at hpolicy
            exact .gatewayPolicy hpolicy hvalue hgiven
        | some bound =>
            rw [hbound, Option.bind_some] at hpolicy
            rcases Option.or_eq_some_iff.1 hpolicy with hmodel | ⟨-, hgateway⟩
            · rw [← owner] at hbound
              exact .modelPolicy hbound (route bound (owner ▸ hbound)).1 hmodel hvalue hgiven
            · exact .gatewayPolicy hgateway hvalue hgiven
      · have hsame : contract = chosen :=
          overlaid.unsupported fun entry hentry hsupports => hselected ⟨entry, hentry, hsupports⟩
        subst hsame
        cases taken with
        | approval hfound hroute _ _ _ =>
            rw [← owner] at hfound
            exact .inl (.approval hfound hroute rfl)
        | @snapshot prior hinheritable hroute =>
            exact .inr ⟨prior, hinheritable, rfl, hroute.resolve_right hverified⟩
        | record hfound => exact .inl (.record hfound)
        | estimate _ hestimated => exact absurd (unverified_of_estimate hestimated) hverified

/-- What a capture inherits from is one of the snapshots that it is given. -/
theorem CaptureRun.reads_of_inheritable {run : CaptureRun self} {prior : PriorContract}
    (hcontext : captureContext run.publication run.fence run.previous run.newModelKey
      = .ok context)
    (h : Inheritable self run.publication context run.publications key prior) :
    run.Reads prior.snapshot ∧
      Dictionary.get key prior.snapshot.modelContracts = some prior.contract := by
  cases h with
  | previous hsaved hfound =>
      obtain ⟨source, hsource, hread⟩ := (captureContext_facts hcontext).2.2 _ hsaved
      exact ⟨⟨source, List.mem_append_left _ (Option.mem_toList.2 hsource), hread⟩, hfound⟩
  | publication hmember hsaved hfound _ _ _ _ _ =>
      exact ⟨⟨_, List.mem_append_right _ hmember, hsaved⟩, hfound⟩

end Histories

/-! ## A publication and the next one -/

namespace CaptureSample

/-- A ceiling on whole requests. -/
def chatFields : CountFields where
  algorithm := .requestTotalCeiling
  inputCeiling := 0
  outputCeiling := 0
  outputField := .none
  requestTokenCeiling := some 1000
  outputEstimate := none
  multimodalItemCeiling := none
  requireVerifiedBound := true
  supportedFeatures := []
  operations := [.chatCompletions]
  evidenceSha256 := 9
  verifiedAt := 5
  nativeCounter := none
  requestPolicy := none

theorem chatFields_valid : chatFields.Valid := by decide

theorem chat_covered : ∀ entry ∈ ([] : List (Operation × ProtocolCountContract)),
    entry.1 ∈ entry.2.operations :=
  fun _ hmem => absurd hmem List.not_mem_nil

def chatContract : ModelCountContract := ⟨⟨chatFields, chatFields_valid⟩, 7, [], chat_covered⟩

theorem chatContract_verified : chatContract.isLegacy = false := by decide

theorem chat_alias : 1 ≤ "chat".toList.length ∧ "chat".toList.length ≤ 255 ∧
    "chat".toList.all isAliasChar := by decide

def chatBinding : BudgetBinding where
  modelKey := ⟨"chat", chat_alias⟩
  logicalModelId := some 7
  runtimeId := none
  routingManaged := false
  apiFormat := .openaiChat
  backendPath := "/chat/completions"
  details := ""

theorem chat_distinct : ([chatBinding].map fun b => b.modelKey.casefold).Nodup :=
  List.nodup_singleton _

/-- A stand-in for the digests, which tells the logical models apart. -/
def counting : BudgetCounting where
  bindingDigest := fun binding => binding.logicalModelId.getD 0
  uuid5 := fun publication _ => publication + 1

/-- The publication `id`. -/
def publicationOf (id : UUID) (status : PublicationStatus)
    (saved : Option (Decoded BudgetPublicationContracts)) : BudgetPublication where
  id := id
  gatewayProfileId := 2
  desiredSpecSha256 := 3
  bindings := [chatBinding]
  publicationKind := .routeReconcile
  status := status
  createdAt := 10
  budgetContracts := saved
  distinct := chat_distinct

theorem recorded_distinct {recorded : List (Operation × ProtocolRequestPolicy)}
    (h : (recorded.map Prod.fst).Nodup) (policies : List (Operation × ProtocolRequestPolicy))
    (heq : Decoded.record recorded = .record policies) : (policies.map Prod.fst).Nodup := by
  obtain rfl := Decoded.record.inj heq
  exact h

/-- The fence of the gateway, with these policies and approvals. -/
def fenceOf (policies : List (Operation × ProtocolRequestPolicy))
    (distinct : (policies.map Prod.fst).Nodup)
    (approvals : List (UUID × ApprovedModelCountContract)) : GatewayFence where
  protocolVersion := 2
  mode := "active"
  gatewayProfileId := 2
  requireVerifiedBound := .record true
  epoch := .record 4
  modelContracts := .record []
  requestPolicies := .record policies
  modelRequestPolicies := .record []
  approvedModelContracts := .record approvals
  distinct := recorded_distinct distinct

/-- A fence without policies. -/
def plainFence (approvals : List (UUID × ApprovedModelCountContract)) : GatewayFence :=
  fenceOf [] List.nodup_nil approvals

def policyFields : RequestPolicyFields where
  version := 1
  operation := none
  summarized := false
  minimumOutputTokens := none
  terminalRejections := []
  evidenceSha256 := 8
  verifiedAt := 6

theorem policyFields_valid : policyFields.Valid where
  version := by decide
  operation := by decide
  summarized := by decide
  messages := by decide
  minimum := by
    intro n h
    cases h
  length := by decide
  rejections := by decide

/-- A policy for chat completions. -/
def chatPolicy : ProtocolRequestPolicy := ⟨policyFields, policyFields_valid⟩

theorem chatPolicy_distinct : ([(Operation.chatCompletions, chatPolicy)].map Prod.fst).Nodup :=
  List.nodup_singleton _

/-- A fence with the policy, and no approval. -/
def policyFence : GatewayFence :=
  fenceOf [(.chatCompletions, chatPolicy)] chatPolicy_distinct []

theorem policedFields_valid : { chatFields with requestPolicy := some chatPolicy }.Valid := by
  decide

/-- The counting of chat completions with the policy. -/
def policedCount : ProtocolCountContract := ⟨_, policedFields_valid⟩

theorem policed_covered : ∀ entry ∈ [(Operation.chatCompletions, policedCount)],
    entry.1 ∈ entry.2.operations := by
  intro entry hentry
  obtain rfl := List.mem_singleton.1 hentry
  exact List.mem_cons_self

/-- The contract with the policy laid over it. -/
def policedContract : ModelCountContract :=
  ⟨chatContract.base, 7, [(.chatCompletions, policedCount)], policed_covered⟩

/-- The snapshot of the publication `id`. -/
def contractsOf (id : UUID) (contract : ModelCountContract) : BudgetPublicationContracts where
  publicationId := id
  gatewayProfileId := 2
  epoch := 4
  releaseSpecSha256 := 3
  bindingSha256 := [("chat", 7)]
  modelContracts := [("chat", contract)]

/-- The publication `id`, active with a contract. -/
def activeOf (id : UUID) (contract : ModelCountContract) : BudgetPublication :=
  publicationOf id .active (some (.record (contractsOf id contract)))

/-- The contract is approved for the first publication. -/
theorem first_captured : capture counting (publicationOf 1 .queued none) []
    (plainFence [(7, ⟨7, chatContract, chatContract_verified⟩)]) none none []
      = .ok (contractsOf 1 chatContract) := by
  rfl

/-- The next publication inherits it, and lays the policy over it. -/
theorem second_captured : capture counting (publicationOf 11 .queued none) [] policyFence
    (some (activeOf 1 chatContract)) none [] = .ok (contractsOf 11 policedContract) := by
  rfl

/-- The one after that inherits it as it is. -/
theorem third_captured : capture counting (publicationOf 12 .queued none) [] (plainFence [])
    (some (activeOf 11 policedContract)) none [] = .ok (contractsOf 12 policedContract) := by
  rfl

def firstRun : CaptureRun counting :=
  ⟨publicationOf 1 .queued none, [], plainFence [(7, ⟨7, chatContract, chatContract_verified⟩)],
    none, none, [], contractsOf 1 chatContract, first_captured⟩

def secondRun : CaptureRun counting :=
  ⟨publicationOf 11 .queued none, [], policyFence, some (activeOf 1 chatContract), none, [],
    contractsOf 11 policedContract, second_captured⟩

def thirdRun : CaptureRun counting :=
  ⟨publicationOf 12 .queued none, [], plainFence [], some (activeOf 11 policedContract), none, [],
    contractsOf 12 policedContract, third_captured⟩

theorem history : CaptureHistory [] [thirdRun, secondRun, firstRun] := by
  refine .capture (.capture (.capture .start ?_) ?_) ?_
  · rintro snapshot ⟨source, hsource, -⟩
    cases hsource
  · rintro snapshot ⟨source, hsource, hread⟩
    obtain rfl := List.mem_singleton.1 hsource
    obtain rfl := Decoded.record.inj (Option.some.inj hread)
    exact .inr ⟨firstRun, List.mem_cons_self, rfl⟩
  · rintro snapshot ⟨source, hsource, hread⟩
    obtain rfl := List.mem_singleton.1 hsource
    obtain rfl := Decoded.record.inj (Option.some.inj hread)
    exact .inr ⟨secondRun, List.mem_cons_self, rfl⟩

theorem policedContract_not_unverified : ¬policedContract.Unverified := by decide

end CaptureSample

/-- A snapshot that capturing returns is valid for its publication, and has a contract for
every binding that is accounted for. -/
theorem capture_accounts {self : BudgetCounting} {publication : BudgetPublication}
    {registry : List CountedModel} {fence : GatewayFence} {previous : Option BudgetPublication}
    {newModelKey : Option String} {publications : List BudgetPublication}
    {c : BudgetPublicationContracts}
    (h : capture self publication registry fence previous newModelKey publications = .ok c) :
    c.validatePublication self publication = .ok () ∧
      ∀ binding ∈ publication.bindings, ∃ context contract,
        captureContext publication fence previous newModelKey = .ok context ∧
        Dictionary.get binding.modelKey.text c.modelContracts = some contract ∧
        Captured self publication context registry publications binding contract := by
  constructor
  · obtain ⟨hdigests, hkeys⟩ := digests_of_capture h
    have hheader : c.publicationId = publication.id ∧
        c.gatewayProfileId = publication.gatewayProfileId ∧
        c.releaseSpecSha256 = publication.desiredSpecSha256 := by
      obtain ⟨context, captured, -, -, -, rfl⟩ := capture_eq_ok h
      exact ⟨rfl, rfl, rfl⟩
    refine require_bind_eq_ok.2 ⟨hheader, require_of ?_⟩
    rw [hdigests, hkeys]
    exact ⟨List.Perm.refl _, List.Perm.refl _⟩
  · intro binding hbinding
    obtain ⟨context, contract, hcontext, hcontract, -, hcaptured⟩ := captured_binding h hbinding
    exact ⟨context, contract, hcontext, hcontract, hcaptured⟩

open CaptureSample

/-- The policy of the fence is laid over the contract that the second publication inherits. -/
theorem second_capture_accounts :
    (contractsOf 11 policedContract).validatePublication counting (publicationOf 11 .queued none)
      = .ok () ∧
    ∃ context contract,
      captureContext (publicationOf 11 .queued none) policyFence (some (activeOf 1 chatContract))
        none = .ok context ∧
      Dictionary.get chatBinding.modelKey.text (contractsOf 11 policedContract).modelContracts
        = some contract ∧
      Captured counting (publicationOf 11 .queued none) context [] [] chatBinding contract :=
  ⟨(capture_accounts second_captured).1,
    (capture_accounts second_captured).2 chatBinding List.mem_cons_self⟩

/-- In every history of captures, a contract that is more than an estimate was vouched for in
a capture of the history, or was there at the start, and the binding of its model key had the
digest then that it has now. -/
theorem verified_contract_keeps_route {self : BudgetCounting}
    {initial : List BudgetPublicationContracts} {runs : List (CaptureRun self)}
    (h : CaptureHistory initial runs) {run : CaptureRun self} (hrun : run ∈ runs) {key : String}
    {contract : ModelCountContract}
    (hget : Dictionary.get key run.contracts.modelContracts = some contract)
    (hverified : ¬contract.Unverified) :
    (∃ origin ∈ runs, ∃ context binding,
      captureContext origin.publication origin.fence origin.previous origin.newModelKey
        = .ok context ∧
      binding ∈ origin.publication.bindings ∧ binding.modelKey.text = key ∧
      Vouched self context binding contract ∧
      Dictionary.get key run.contracts.bindingSha256 = some (self.bindingDigest binding)) ∨
    ∃ snapshot ∈ initial, Dictionary.get key snapshot.modelContracts = some contract ∧
      Dictionary.get key snapshot.bindingSha256
        = Dictionary.get key run.contracts.bindingSha256 := by
  induction h generalizing run with
  | start => cases hrun
  | @capture latest runs before reads ih =>
      rcases List.mem_cons.1 hrun with rfl | hearlier
      · obtain ⟨binding, hbinding, rfl⟩ := exists_binding_of_captured run.captured hget
        obtain ⟨context, found, hcontext, hfound, hdigest, hcaptured⟩ :=
          captured_binding run.captured hbinding
        obtain rfl := Option.some.inj (hget.symm.trans hfound)
        rcases vouched_or_inherited hcaptured hverified with hvouched | hinherited
        · exact .inl ⟨run, List.mem_cons_self, context, binding, hcontext, hbinding, rfl, hvouched,
            hdigest⟩
        · obtain ⟨prior, hinheritable, rfl, hroute⟩ := hinherited
          obtain ⟨hread, hprior⟩ := CaptureRun.reads_of_inheritable hcontext hinheritable
          rw [hdigest, ← hroute]
          rcases reads prior.snapshot hread with hinitial | ⟨earlier, hmem, heq⟩
          · exact .inr ⟨prior.snapshot, hinitial, hprior, rfl⟩
          · rw [← heq] at hprior ⊢
            rcases ih hmem hprior with horigin | horigin
            · obtain ⟨origin, horigin, rest⟩ := horigin
              exact .inl ⟨origin, List.mem_cons_of_mem _ horigin, rest⟩
            · exact .inr horigin
      · rcases ih hearlier hget with horigin | horigin
        · obtain ⟨origin, horigin, rest⟩ := horigin
          exact .inl ⟨origin, List.mem_cons_of_mem _ horigin, rest⟩
        · exact .inr horigin

/-- The policy that the third publication has was given in the second. -/
theorem inherited_contract_keeps_route :
    (∃ origin ∈ [thirdRun, secondRun, firstRun], ∃ context binding,
      captureContext origin.publication origin.fence origin.previous origin.newModelKey
        = .ok context ∧
      binding ∈ origin.publication.bindings ∧ binding.modelKey.text = "chat" ∧
      Vouched counting context binding policedContract ∧
      Dictionary.get "chat" thirdRun.contracts.bindingSha256
        = some (counting.bindingDigest binding)) ∨
    ∃ snapshot ∈ ([] : List BudgetPublicationContracts),
      Dictionary.get "chat" snapshot.modelContracts = some policedContract ∧
      Dictionary.get "chat" snapshot.bindingSha256
        = Dictionary.get "chat" thirdRun.contracts.bindingSha256 :=
  verified_contract_keeps_route history List.mem_cons_self rfl policedContract_not_unverified

end Turnstile
