import Turnstile.Persistence.PublicationRuns

/-!
# Release operations in the order of their creation

Publications are created, led through their statuses and activated beside the release
operations of their targets.  Only the calls that are about operations write these, and an
operation is created only where those of its target are at their end: the one that is not is
the newest.
-/

namespace Turnstile

open Procedure PublicationStore

/-! ## What leaves the operations alone -/

section Frames

variable {r : PublicationRules} {J : List GatewayReleaseOperation → Prop}

namespace PublicationStore

variable {s : PublicationStore}

@[simp] theorem operations_setPublication (id : UUID)
    (f : GatewayPublication → GatewayPublication) :
    (s.setPublication id f).operations = s.operations := rfl

@[simp] theorem operations_setOutbox (id : UUID) (f : PublicationOutbox → PublicationOutbox) :
    (s.setOutbox id f).operations = s.operations := rfl

@[simp] theorem operations_setSecret (id : UUID) (credential : Option String) :
    (s.setSecret id credential).operations = s.operations := rfl

@[simp] theorem operations_record (entries : List PublicationAudit) :
    (s.record entries).operations = s.operations := rfl

@[simp] theorem operations_recordOperation (entry : OperationAudit) :
    (s.recordOperation entry).operations = s.operations := rfl

@[simp] theorem operations_insert (p : GatewayPublication) (credential : Option String) (now : ℤ) :
    (s.insert p credential now).operations = s.operations := rfl

end PublicationStore

/-- The operations keep a property. -/
abbrev KeepsOperations {α : Type} (J : List GatewayReleaseOperation → Prop) (p : RepositoryM α) :
    Prop :=
  Keeps (fun s => J s.operations) p

theorem insertGatewayPublication_operations (a : PublicationRequest) (manifest : ResourceManifest)
    (fresh : UUID) (now : ℤ) :
    KeepsOperations J (insertGatewayPublication r a manifest fresh now) := by
  intro s h
  simp only [insertGatewayPublication, meets_bind, meets_get, meets_require, meets_lift,
    meets_modify, meets_pure, operations_insert]
  exact ⟨fun _ => ⟨fun _ _ => ⟨fun _ => h, fun _ => h⟩, fun _ _ => h⟩, fun _ => h⟩

theorem requeueGatewayPublication_operations (id : UUID) (a : RetryRequest) (now : ℤ) :
    KeepsOperations J (requeueGatewayPublication r id a now) := by
  intro s h
  simp only [requeueGatewayPublication, requeueRows, meets_bind, meets_get, meets_demand,
    meets_require, meets_modify, operations_record]
  refine ⟨fun p _ => ⟨fun _ => ?_, fun _ => h⟩, fun _ => h⟩
  split_ifs
  · simp [requeueIntent, h]
  · simp [requeuePlain, h]

theorem createGatewayPublication_operations (a : PublicationRequest) (fresh : Fresh) :
    KeepsOperations J (createGatewayPublication r a fresh) := by
  intro s h
  have hinsert : ∀ manifest, ∀ t : PublicationStore, J t.operations →
      Meets (do
        let publication ← insertGatewayPublication r a manifest fresh.publicationId fresh.now
        return publication.id) t (fun _ u => J u.operations) fun _ u => J u.operations := by
    intro manifest t ht
    rw [meets_bind]
    exact insertGatewayPublication_operations a manifest fresh.publicationId fresh.now t ht
  unfold createGatewayPublication
  rw [meets_bind, meets_get, meets_bind, meets_lift]
  refine ⟨fun manifest _ => ?_, fun _ _ => h⟩
  cases a.existing? s with
  | none => exact hinsert manifest s h
  | some existing =>
      dsimp only
      rw [meets_ite, meets_ite]
      refine ⟨fun _ => ?_, fun _ => ⟨fun _ => hinsert manifest s h, fun _ => ?_⟩⟩
      · rw [meets_bind, meets_modify, meets_bind, meets_modify]
        exact hinsert manifest _ h
      · simp only [reuseGatewayPublication, meets_bind, meets_require, meets_ite, meets_pure]
        refine ⟨fun _ => ⟨fun _ => h, fun _ => ⟨fun _ => ?_, fun _ => h⟩⟩, fun _ => h⟩
        exact requeueGatewayPublication_operations _ _ _ s h

theorem createChildren_operations (a : RolloutRequest) (children : List RolloutChild) :
    KeepsOperations J (a.createChildren r children) := by
  induction children with
  | nil => exact fun s h => h
  | cons child rest ih =>
      refine (createGatewayPublication_operations _ _).bind fun id => ?_
      exact ih.bind fun rows s h => h

theorem createMultiTargetRollout_operations (a : RolloutRequest) :
    KeepsOperations J (createMultiTargetRollout r a) := by
  intro s h
  unfold createMultiTargetRollout
  rw [meets_bind, meets_get]
  cases s.rollouts.find? _ with
  | some row => exact h
  | none =>
      simp only [meets_bind, meets_lift, meets_rescue, meets_modify, meets_pure]
      refine ⟨fun _ _ => ?_, fun _ _ => h⟩
      exact createChildren_operations a a.children s h

theorem resumeGatewayPublicationAuthorization_operations (id : UUID)
    (createdBy : String) (now : ℤ) :
    KeepsOperations J (resumeGatewayPublicationAuthorization id createdBy now) := by
  intro s h
  simp only [resumeGatewayPublicationAuthorization, meets_bind, meets_get, meets_demand,
    meets_require, meets_modify, operations_setPublication, operations_setOutbox]
  exact ⟨fun _ _ => ⟨fun _ => ⟨fun _ _ => h, fun _ => h⟩, fun _ => h⟩, fun _ => h⟩

theorem claimGatewayPublication_operations (worker : String) (leaseSeconds now : ℤ) :
    KeepsOperations J (claimGatewayPublication worker leaseSeconds now) := by
  intro s h
  unfold claimGatewayPublication
  rw [meets_bind, meets_get]
  cases s.outbox.find? _ with
  | none => exact h
  | some row =>
      simp only [meets_bind, meets_modify, meets_demand, meets_pure, operations_setPublication,
        operations_setOutbox]
      exact ⟨fun _ _ => h, fun _ => h⟩

theorem renewGatewayPublicationLease_operations (id : UUID) (worker : String)
    (leaseSeconds now : ℤ) :
    KeepsOperations J (renewGatewayPublicationLease id worker leaseSeconds now) := by
  intro s h
  simp only [renewGatewayPublicationLease, meets_bind, meets_get, meets_ite, meets_modify,
    meets_pure, operations_setOutbox]
  exact ⟨fun _ => h, fun _ => h⟩

theorem cancelUnstartedGatewayPublication_operations (id : UUID) (actor : String) (now : ℤ) :
    KeepsOperations J (cancelUnstartedGatewayPublication id actor now) := by
  intro s h
  unfold cancelUnstartedGatewayPublication
  rw [meets_bind, meets_get]
  cases s.publication? id with
  | none => exact h
  | some p =>
      cases s.outbox? id with
      | none => exact h
      | some row =>
          simp only [deleteGatewayPublicationCredential, meets_ite, meets_bind, meets_modify,
            meets_pure, operations_setPublication, operations_setSecret, operations_setOutbox,
            operations_record]
          exact ⟨fun _ => h, fun _ => h⟩

theorem transitionGatewayPublication_operations (id : UUID) (expected status : PublicationStatus)
    (updates : PublicationUpdates) (actor : String) (now : ℤ) :
    KeepsOperations J (transitionGatewayPublication id expected status updates actor now) := by
  intro s h
  unfold transitionGatewayPublication
  rw [meets_bind, meets_get]
  cases s.publication? id with
  | none => exact h
  | some p =>
      simp only [meets_ite, meets_bind, meets_modify, meets_demand, meets_pure,
        operations_setOutbox]
      refine ⟨fun _ => h, fun _ => ⟨fun _ => h, fun _ => ?_⟩⟩
      split_ifs
      · exact ⟨fun _ _ => h, fun _ => h⟩
      · exact ⟨fun _ _ => h, fun _ => h⟩

theorem checkpointGatewayPublication_operations (id : UUID) (worker : String)
    (expected : Option String) (checkpoint field : String) (now : ℤ) :
    KeepsOperations J (checkpointGatewayPublication id worker expected checkpoint field now) := by
  intro s h
  unfold checkpointGatewayPublication
  rw [meets_bind, meets_demand]
  refine ⟨fun phase _ => ?_, fun _ => h⟩
  rw [meets_bind, meets_get]
  cases s.publication? id with
  | none => exact h
  | some p =>
      simp only [meets_ite, meets_bind, meets_modify, meets_pure, operations_setPublication,
        operations_record]
      exact ⟨fun _ => h, fun _ => h⟩

theorem reserveGatewayPublicationProbe_operations (id : UUID) (worker : String) (requestLimit : ℕ)
    (now : ℤ) : KeepsOperations J (reserveGatewayPublicationProbe id worker requestLimit now) := by
  intro s h
  unfold reserveGatewayPublicationProbe
  rw [meets_bind, meets_require]
  refine ⟨fun _ => ?_, fun _ => h⟩
  rw [meets_bind, meets_get]
  cases s.publication? id with
  | none => exact h
  | some p =>
      simp only [meets_ite, meets_bind, meets_modify, meets_pure, operations_record]
      exact ⟨fun _ => h, fun _ => h⟩

/-- Where only the registry differs, the operations do not. -/
theorem operations_of_registry {p : RepositoryM Unit}
    (h : ∀ s : PublicationStore, Keeps s.OnlyRegistry p) : KeepsOperations J p := by
  intro s hs
  refine (h s s (.refl s)).mono (fun _ t ht => ?_) fun _ t ht => ?_
  · rwa [ht.operations]
  · rwa [ht.operations]

theorem replaceEffective_operations (p : GatewayPublication) :
    KeepsOperations J (replaceEffective r p) := by
  intro s h
  have habsorbed : ∀ t : PublicationStore, J t.operations →
      J (supersedeAbsorbedModelAdditions r.casefold p t).operations := by
    intro t ht
    unfold supersedeAbsorbedModelAdditions
    split_ifs
    · exact ht
    · exact ht
  unfold replaceEffective supersedePrevious
  rw [meets_bind, meets_bind, meets_get]
  cases s.effective p.gatewayProfileId with
  | none => exact habsorbed s h
  | some previous =>
      simp only [meets_ite, meets_pure, meets_bind, meets_demand, meets_modify]
      exact ⟨fun _ => habsorbed s h, fun _ => ⟨fun _ _ => habsorbed _ h, fun _ => h⟩⟩

theorem recordActivation_operations (p : GatewayPublication) (entries : ℕ) (actor : String) :
    KeepsOperations J (recordActivation p entries actor) := by
  intro s h
  simp only [recordActivation, meets_bind, meets_modify, meets_get, meets_demand,
    operations_setOutbox]
  exact ⟨fun _ _ => h, fun _ => h⟩

theorem activateGatewayPublication_operations (id : UUID) (actor : String)
    (validate : Option ModelActivationValidator) (fresh : FreshRows) (now : ℤ) :
    KeepsOperations J (activateGatewayPublication r id actor validate fresh now) := by
  intro s h
  have hsync : ∀ p, KeepsOperations J (syncActiveRouteBindings r p) := fun p =>
    operations_of_registry fun _ => syncActiveRouteBindings_registry p
  have hadds : ∀ p binding, KeepsOperations J (addModel r p binding fresh) := fun p binding =>
    operations_of_registry fun _ => addModel_registry p binding fresh
  have hends : ∀ p entries, KeepsOperations J (do
      syncActiveRouteBindings r p
      replaceEffective r p
      recordActivation p entries actor) := fun p entries =>
    (hsync p).bind fun _ => (replaceEffective_operations p).bind fun _ =>
      recordActivation_operations p entries actor
  unfold activateGatewayPublication
  rw [meets_bind, meets_get, meets_bind, meets_demand]
  refine ⟨fun p _ => ?_, fun _ => h⟩
  rw [meets_ite]
  refine ⟨fun _ => h, fun _ => ?_⟩
  rw [meets_bind, meets_lift]
  refine ⟨fun _ _ => ?_, fun _ _ => h⟩
  split_ifs
  · exact (operations_of_registry fun _ => removeModel_registry p).bind
      (fun _ => recordActivation_operations p 1 actor) s h
  · exact (operations_of_registry fun _ => removeModel_registry p).bind (fun _ => hends p 1) s h
  · exact hends p 2 s h
  · rw [meets_bind, meets_demand]
    exact ⟨fun binding _ =>
      (operations_of_registry fun _ => rotateCredential_registry p binding).bind
      (fun _ => hends p 0) s h, fun _ => h⟩
  · rw [meets_bind, meets_demand]
    exact ⟨fun binding _ => (hadds p binding).bind (fun _ => (hsync p).bind fun _ =>
      recordActivation_operations p 1 actor) s h, fun _ => h⟩
  · rw [meets_bind, meets_demand]
    exact ⟨fun binding _ => (hadds p binding).bind (fun _ => hends p 1) s h, fun _ => h⟩

end Frames

/-! ## The newest operation -/

/-- An operation that is not at its end is the newest of its target; one that is has no lease. -/
structure OperationsInOrder (createdAt : UUID → ℤ) (operations : List GatewayReleaseOperation) :
    Prop where
  distinct : (operations.map GatewayReleaseOperation.id).Nodup
  released : ∀ o ∈ operations, o.status.terminal = true → o.leaseOwner = none
  newest : ∀ o ∈ operations, o.status.terminal = false → ∀ other ∈ operations,
    other.gatewayProfileId = o.gatewayProfileId → other.id ≠ o.id →
      createdAt other.id < createdAt o.id

/-- The clock goes on between two operations of a target, and identities are new. -/
def PublicationCall.InTime (createdAt : UUID → ℤ) (s : PublicationStore) : PublicationCall → Prop
  | createOperation gateway _ _ _ _ _ fresh =>
      fresh ∉ s.operations.map GatewayReleaseOperation.id ∧
        ∀ o ∈ s.operations, o.gatewayProfileId = gateway → createdAt o.id < createdAt fresh
  | _ => True

section InOrder

variable {r : PublicationRules} {createdAt : UUID → ℤ} {s : PublicationStore}
  {operations : List GatewayReleaseOperation}

/-- What a worker writes to an operation: it does not take it back from its end. -/
theorem OperationsInOrder.update (h : OperationsInOrder createdAt operations) {id : UUID}
    {f : GatewayReleaseOperation → GatewayReleaseOperation}
    (same : ∀ o, (f o).id = o.id ∧ (f o).gatewayProfileId = o.gatewayProfileId)
    (ended : ∀ o ∈ operations, o.id = id → o.status.terminal = true →
      (f o).status.terminal = true)
    (released : ∀ o ∈ operations, o.id = id → (f o).status.terminal = true →
      (f o).leaseOwner = none) :
    OperationsInOrder createdAt (Rows.update GatewayReleaseOperation.id id f operations) := by
  have hids : ∀ o, (if o.id = id then f o else o).id = o.id ∧
      (if o.id = id then f o else o).gatewayProfileId = o.gatewayProfileId := by
    intro o
    split_ifs
    · exact same o
    · exact ⟨rfl, rfl⟩
  refine ⟨?_, ?_, ?_⟩
  · rw [Rows.map_update fun o => (same o).1]
    exact h.distinct
  · rw [Rows.update_eq_map h.distinct]
    intro o' ho' hended
    obtain ⟨o, ho, rfl⟩ := List.mem_map.1 ho'
    split_ifs at hended ⊢ with hid
    · exact released o ho hid hended
    · exact h.released o ho hended
  · rw [Rows.update_eq_map h.distinct]
    intro o' ho' hopen other' hother' hgateway hne
    obtain ⟨o, ho, rfl⟩ := List.mem_map.1 ho'
    obtain ⟨other, hother, rfl⟩ := List.mem_map.1 hother'
    rw [(hids o).2, (hids other).2] at hgateway
    rw [(hids o).1, (hids other).1] at hne ⊢
    refine h.newest o ho ?_ other hother hgateway hne
    by_contra hended
    split_ifs at hopen with hid
    · rw [ended o ho hid (Bool.not_eq_false _ ▸ hended)] at hopen
      cases hopen
    · exact hended hopen

theorem createGatewayReleaseOperation_inOrder (h : OperationsInOrder createdAt s.operations)
    {gateway : UUID} {kind createdBy : String} {target prior : Option UUID}
    {confirmation : Option String} {fresh : UUID}
    (hfresh : fresh ∉ s.operations.map GatewayReleaseOperation.id)
    (hlater : ∀ o ∈ s.operations, o.gatewayProfileId = gateway → createdAt o.id < createdAt fresh) :
    Meets (createGatewayReleaseOperation gateway kind createdBy target prior confirmation fresh) s
      (fun _ t => OperationsInOrder createdAt t.operations)
      fun _ t => OperationsInOrder createdAt t.operations := by
  simp only [createGatewayReleaseOperation, meets_bind, meets_get, meets_require, meets_modify,
    meets_pure, operations_recordOperation]
  refine ⟨fun hended => ⟨?_, ?_, ?_⟩, fun _ => h⟩
  · rw [List.map_append, List.map_singleton]
    exact List.nodup_append.2 ⟨h.distinct, List.nodup_singleton _, by
      intro x hx y hy heq
      have hsame : x = fresh := heq.trans (List.mem_singleton.1 hy)
      exact hfresh (hsame ▸ hx)⟩
  · intro o ho hterminal
    rcases List.mem_append.1 ho with ho | ho
    · exact h.released o ho hterminal
    · rw [List.mem_singleton.1 ho]
  · intro o ho hopen other hother hgateway hne
    rcases List.mem_append.1 ho with ho | ho
    · rcases List.mem_append.1 hother with hother | hother
      · exact h.newest o ho hopen other hother hgateway hne
      · rw [List.mem_singleton.1 hother] at hgateway
        rw [hended o ho hgateway.symm] at hopen
        cases hopen
    · rw [List.mem_singleton.1 ho] at hgateway hne ⊢
      rcases List.mem_append.1 hother with hother | hother
      · exact hlater other hother hgateway
      · exact absurd (by rw [List.mem_singleton.1 hother]) hne

theorem claimGatewayReleaseOperation_inOrder (worker : String) (leaseSeconds now : ℤ) :
    KeepsOperations (OperationsInOrder createdAt)
      (claimGatewayReleaseOperation worker leaseSeconds now) := by
  intro s h
  unfold claimGatewayReleaseOperation
  rw [meets_bind, meets_get]
  cases hfound : s.operations.find? _ with
  | none => exact h
  | some row =>
      simp only [meets_bind, meets_modify, meets_pure]
      refine h.update (fun _ => ⟨rfl, rfl⟩) (fun _ _ _ hended => hended) ?_
      intro o ho hid hended
      have hopen := List.find?_some hfound
      rw [Rows.eq_of_key h.distinct ho (List.mem_of_find?_eq_some hfound) hid] at hended
      simp only [Bool.and_eq_true, Bool.not_eq_true'] at hopen
      rw [hended] at hopen
      cases hopen.1

theorem transitionGatewayReleaseOperation_inOrder (id : UUID) (expected status : OperationStatus)
    (checkpoint : Option (Option UUID)) (actor : String) (keepLease : Bool) (now : ℤ) :
    KeepsOperations (OperationsInOrder createdAt)
      (transitionGatewayReleaseOperation id expected status checkpoint actor keepLease now) := by
  intro s h
  unfold transitionGatewayReleaseOperation
  rw [meets_bind, meets_require]
  refine ⟨fun hkeep => ?_, fun _ => h⟩
  rw [meets_bind, meets_get]
  cases hfound : s.operation? id with
  | none => exact h
  | some row =>
      simp only [meets_ite, meets_bind, meets_modify, meets_pure, operations_recordOperation]
      refine ⟨fun hleased => ?_, fun _ => h⟩
      have hrow : ∀ o ∈ s.operations, o.id = id → o = row := fun o ho hid =>
        Rows.eq_of_key h.distinct ho (Rows.mem_of_find? hfound)
          (hid.trans (Rows.key_of_find? hfound).symm)
      refine h.update (fun _ => ⟨rfl, rfl⟩) ?_ ?_
      · -- An operation at its end has no lease, so no worker writes it.
        intro o ho hid hended
        have hnone := h.released o ho hended
        rw [hrow o ho hid, hleased.2.1] at hnone
        cases hnone
      · intro o _ _ hended
        rcases hkeep with hkeep | ⟨-, hopen⟩
        · dsimp only
          rw [hkeep]
          rfl
        · rw [show status.terminal = true from hended] at hopen
          cases hopen

theorem enqueueGatewayConfigurationRollback_inOrder (operationId : UUID) (actor : String)
    (fresh : Fresh) : KeepsOperations (OperationsInOrder createdAt)
      (enqueueGatewayConfigurationRollback r operationId actor fresh) := by
  intro s h
  unfold enqueueGatewayConfigurationRollback
  simp only [meets_bind, meets_get, meets_demand, meets_require, meets_lift]
  refine ⟨fun operation _ => ⟨fun _ => ⟨fun target _ => ⟨fun prior _ =>
    ⟨fun values _ => ?_, fun _ _ => h⟩, fun _ => h⟩, fun _ => h⟩, fun _ => h⟩, fun _ => h⟩
  cases operation.routeRollbackPublicationId with
  | some linked =>
      simp only [meets_bind, meets_demand, meets_require, meets_pure]
      exact ⟨fun _ _ => ⟨fun _ => h, fun _ => h⟩, fun _ => h⟩
  | none =>
      simp only [meets_bind, meets_require, meets_modify, meets_pure]
      refine ⟨fun _ => (createGatewayPublication_operations _ fresh s h).mono (fun _ t ht => ?_)
        fun _ _ ht => ht, fun _ => h⟩
      exact ht.update (fun _ => ⟨rfl, rfl⟩) (fun _ _ _ hended => hended)
        fun o ho _ hended => ht.released o ho hended

theorem completeGatewayConfigurationRollback_inOrder (operationId : UUID) (actor : String)
    (fresh : Fresh) : KeepsOperations (OperationsInOrder createdAt)
      (completeGatewayConfigurationRollback r operationId actor fresh) := by
  intro s h
  unfold completeGatewayConfigurationRollback
  simp only [meets_bind, meets_get, meets_demand, meets_require, meets_modify]
  refine ⟨fun operation _ => ⟨fun _ => ?_, fun _ => h⟩, fun _ => h⟩
  refine (enqueueGatewayConfigurationRollback_inOrder operationId actor fresh s h).mono
    (fun _ t ht => ⟨fun _ => ?_, fun _ => ht⟩) fun _ _ ht => ht
  exact ht.update (fun _ => ⟨rfl, rfl⟩) (fun _ _ _ _ => rfl) fun _ _ _ _ => rfl

theorem completeGatewayReleaseRollback_inOrder (operationId targetId priorId : UUID)
    (actor : String) (now : ℤ) : KeepsOperations (OperationsInOrder createdAt)
      (completeGatewayReleaseRollback r operationId targetId priorId actor now) := by
  intro s h
  unfold completeGatewayReleaseRollback
  simp only [meets_bind, meets_get, meets_demand, meets_require, meets_modify]
  refine ⟨fun operation _ => ⟨fun _ => ⟨fun target _ => ⟨fun prior _ => ⟨fun _ => ⟨fun _ => ?_,
    fun _ => h⟩, fun _ => h⟩, fun _ => h⟩, fun _ => h⟩, fun _ => h⟩, fun _ => h⟩
  have hsync : KeepsOperations (OperationsInOrder createdAt) (syncActiveRouteBindings r target) :=
    operations_of_registry fun _ => syncActiveRouteBindings_registry target
  refine (hsync _ ?_).mono (fun _ t ht => ?_) fun _ _ ht => ht
  · exact h
  exact ht.update (fun _ => ⟨rfl, rfl⟩) (fun _ _ _ _ => rfl) fun _ _ _ _ => rfl

/-- Every call keeps the operations in order. -/
theorem PublicationCall.perform_inOrder (h : OperationsInOrder createdAt s.operations)
    (call : PublicationCall) (htime : call.InTime createdAt s) :
    OperationsInOrder createdAt ((call.perform r).after s).operations := by
  have hdiscard : ∀ {α : Type} {p : RepositoryM α},
      KeepsOperations (OperationsInOrder createdAt) p →
        KeepsOperations (OperationsInOrder createdAt) (discard p) :=
    fun hp t ht => meets_discard.2 (hp t ht)
  cases call with
  | create request fresh => exact (hdiscard (createGatewayPublication_operations _ _)).after h
  | rollout request => exact (hdiscard (createMultiTargetRollout_operations _)).after h
  | requeue id request now => exact Keeps.after (requeueGatewayPublication_operations _ _ _) h
  | resume id createdBy now =>
      exact Keeps.after (resumeGatewayPublicationAuthorization_operations _ _ _) h
  | claim worker leaseSeconds now =>
      exact (hdiscard (claimGatewayPublication_operations _ _ _)).after h
  | renew id worker leaseSeconds now =>
      exact (hdiscard (renewGatewayPublicationLease_operations _ _ _ _)).after h
  | cancel id actor now =>
      exact (hdiscard (cancelUnstartedGatewayPublication_operations _ _ _)).after h
  | transition id expected status updates actor now =>
      exact (hdiscard (transitionGatewayPublication_operations _ _ _ _ _ _)).after h
  | checkpoint id worker expected value field now =>
      exact (hdiscard (checkpointGatewayPublication_operations _ _ _ _ _ _)).after h
  | reserveProbe id worker requestLimit now =>
      exact (hdiscard (reserveGatewayPublicationProbe_operations _ _ _ _)).after h
  | deleteCredential id => exact h
  | activate id actor validate fresh now =>
      exact Keeps.after (activateGatewayPublication_operations _ _ _ _ _) h
  | createOperation gateway kind createdBy target prior confirmation fresh =>
      exact after_of_meets (meets_discard.2
        (createGatewayReleaseOperation_inOrder h htime.1 htime.2))
  | claimOperation worker leaseSeconds now =>
      exact (hdiscard (claimGatewayReleaseOperation_inOrder _ _ _)).after h
  | transitionOperation id expected status linked actor keepLease now =>
      exact (hdiscard (transitionGatewayReleaseOperation_inOrder _ _ _ _ _ _ _)).after h
  | enqueueRollback operationId actor fresh =>
      exact (hdiscard (enqueueGatewayConfigurationRollback_inOrder _ _ _)).after h
  | completeConfigurationRollback operationId actor fresh =>
      exact Keeps.after (completeGatewayConfigurationRollback_inOrder _ _ _) h
  | completeRollback operationId targetId priorId actor now =>
      exact Keeps.after (completeGatewayReleaseRollback_inOrder _ _ _ _ _) h
  | upsertRoute route =>
      exact Keeps.after
        (operations_of_registry fun _ => upsertApimTargetRouteBinding_registry route) h
  | changeRegistry change => exact h

end InOrder

end Turnstile
