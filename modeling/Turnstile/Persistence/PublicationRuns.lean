import Turnstile.Persistence.ActivationMoves

/-!
# Runs of the publication repository

A run makes calls in any order.  A call that raises leaves the store as far as it came.
Callers promise little (`Promised`): the pairs of statuses that a transition may have, that
a worker's manifest keeps the markers, and that a rollback goes back to another release,
which was promoted.
-/

namespace Turnstile

open Procedure ReleaseBoard PublicationStore

/-! ## Calls -/

/-- The calls that publications are made with.  Calls of other tables change the registry. -/
inductive PublicationCall where
  | create (request : PublicationRequest) (fresh : Fresh)
  | rollout (request : RolloutRequest)
  | requeue (id : UUID) (request : RetryRequest) (now : ℤ)
  | resume (id : UUID) (createdBy : String) (now : ℤ)
  | claim (worker : String) (leaseSeconds now : ℤ)
  | renew (id : UUID) (worker : String) (leaseSeconds now : ℤ)
  | cancel (id : UUID) (actor : String) (now : ℤ)
  | transition (id : UUID) (expected status : PublicationStatus) (updates : PublicationUpdates)
      (actor : String) (now : ℤ)
  | checkpoint (id : UUID) (worker : String) (expected : Option String)
      (value field : String) (now : ℤ)
  | reserveProbe (id : UUID) (worker : String) (requestLimit : ℕ) (now : ℤ)
  | deleteCredential (id : UUID)
  | activate (id : UUID) (actor : String) (validate : Option ModelActivationValidator)
      (fresh : FreshRows) (now : ℤ)
  | createOperation (gateway : UUID) (kind createdBy : String) (target prior : Option UUID)
      (confirmation : Option String) (fresh : UUID)
  | claimOperation (worker : String) (leaseSeconds now : ℤ)
  | transitionOperation (id : UUID) (expected status : OperationStatus)
      (linked : Option (Option UUID)) (actor : String) (keepLease : Bool) (now : ℤ)
  | enqueueRollback (operationId : UUID) (actor : String) (fresh : Fresh)
  | completeConfigurationRollback (operationId : UUID) (actor : String) (fresh : Fresh)
  | completeRollback (operationId targetId priorId : UUID) (actor : String) (now : ℤ)
  | upsertRoute (route : ApimTargetRouteBinding)
  | changeRegistry (change : GatewayRegistry → GatewayRegistry)

/-- What a call does, without what it returns. -/
def PublicationCall.perform (r : PublicationRules) : PublicationCall → RepositoryM Unit
  | create request fresh => discard (createGatewayPublication r request fresh)
  | rollout request => discard (createMultiTargetRollout r request)
  | requeue id request now => requeueGatewayPublication r id request now
  | resume id createdBy now => resumeGatewayPublicationAuthorization id createdBy now
  | claim worker leaseSeconds now => discard (claimGatewayPublication worker leaseSeconds now)
  | renew id worker leaseSeconds now =>
      discard (renewGatewayPublicationLease id worker leaseSeconds now)
  | cancel id actor now => discard (cancelUnstartedGatewayPublication id actor now)
  | transition id expected status updates actor now =>
      discard (transitionGatewayPublication id expected status updates actor now)
  | checkpoint id worker expected value field now =>
      discard (checkpointGatewayPublication id worker expected value field now)
  | reserveProbe id worker requestLimit now =>
      discard (reserveGatewayPublicationProbe id worker requestLimit now)
  | deleteCredential id => deleteGatewayPublicationCredential id
  | activate id actor validate fresh now =>
      activateGatewayPublication r id actor validate fresh now
  | createOperation gateway kind createdBy target prior confirmation fresh =>
      discard
        (createGatewayReleaseOperation gateway kind createdBy target prior confirmation fresh)
  | claimOperation worker leaseSeconds now =>
      discard (claimGatewayReleaseOperation worker leaseSeconds now)
  | transitionOperation id expected status linked actor keepLease now =>
      discard (transitionGatewayReleaseOperation id expected status linked actor keepLease now)
  | enqueueRollback operationId actor fresh =>
      discard (enqueueGatewayConfigurationRollback r operationId actor fresh)
  | completeConfigurationRollback operationId actor fresh =>
      completeGatewayConfigurationRollback r operationId actor fresh
  | completeRollback operationId targetId priorId actor now =>
      completeGatewayReleaseRollback r operationId targetId priorId actor now
  | upsertRoute route => upsertApimTargetRouteBinding route
  | changeRegistry change => modify fun s => s.setRegistry change

/-- What the callers promise. -/
def PublicationCall.Promised (s : PublicationStore) : PublicationCall → Prop
  | transition id expected status updates _ _ =>
      ∀ p, s.publication? id = some p → updates.Promised expected status p
  | createOperation _ kind _ target prior _ _ => kind = "rollback" →
      ∀ id ∈ target, s.board.Settled false id ∧ prior ≠ some id
  | completeRollback operationId targetId priorId _ _ =>
      ∃ operation ∈ s.operation? operationId, operation.operationKind = "rollback" ∧
        operation.targetReleaseId = some targetId ∧ operation.priorReleaseId = some priorId
  | _ => True

/-! ## Runs -/

/-- No publication was made yet. -/
def PublicationStore.Empty (s : PublicationStore) : Prop :=
  s.publications = [] ∧ s.outbox = [] ∧ (∀ target, s.effective target = none) ∧
    s.operations = []

/-- The stores that runs reach whose calls are allowed. -/
inductive PublicationStore.Reachable (r : PublicationRules)
    (allowed : PublicationStore → PublicationCall → Prop) : PublicationStore → Prop
  | empty (s : PublicationStore) (h : s.Empty) : Reachable r allowed s
  | call (s : PublicationStore) (call : PublicationCall) (h : Reachable r allowed s)
      (promised : call.Promised s) (hallowed : allowed s call) :
      Reachable r allowed ((call.perform r).after s)

/-- Rollbacks go back to another release, which was promoted. -/
def PublicationStore.Eligible (s : PublicationStore) : Prop :=
  ∀ entry ∈ s.operations.map GatewayReleaseOperation.releases, entry.2.1 = "rollback" →
    ∀ id ∈ entry.2.2.1, s.board.Settled false id ∧ entry.2.2.2 ≠ some id

/-- What every store keeps. -/
structure PublicationStore.Kept (s : PublicationStore) : Prop where
  sound : s.board.Sound
  sourced : s.board.Sourced
  eligible : s.Eligible

/-- The release that a call builds on, or takes back, is the one it was meant for: a failed
publication without an intent is queued again while its base is still effective, and a
release is taken back while none is being built. -/
def PublicationCall.Current (s : PublicationStore) : PublicationCall → Prop
  | create request _ => ∀ p, request.existing? s = some p → p.status = .failed →
      p.retriesIntent = false → p.baseReleaseId = s.effective p.gatewayProfileId
  | requeue id _ _ => ∀ p, s.publication? id = some p → p.retriesIntent = false →
      p.baseReleaseId = s.effective p.gatewayProfileId
  | enqueueRollback operationId _ _ => s.RollbackCurrent operationId
  | completeConfigurationRollback operationId _ _ => s.RollbackCurrent operationId
  | completeRollback operationId _ _ _ _ =>
      ∀ operation ∈ s.operation? operationId, ¬s.Busy operation.gatewayProfileId
  | _ => True

section Calls

variable {r : PublicationRules} {s t : PublicationStore} {strict : Bool}

/-- What a call has done: moves, and no change of what the operations are about, but for a
new rollback. -/
structure PublicationStore.Moved (strict : Bool) (s t : PublicationStore) : Prop where
  moves : ReleaseBoard.Moves strict s.board t.board
  eligible : ∀ entry ∈ t.operations.map GatewayReleaseOperation.releases,
    entry ∈ s.operations.map GatewayReleaseOperation.releases ∨
      (entry.2.1 = "rollback" → ∀ id ∈ entry.2.2.1, s.board.Settled false id ∧
        entry.2.2.2 ≠ some id)

theorem PublicationStore.Leads.moved (h : s.Leads strict t) : s.Moved strict t :=
  ⟨h.moves, fun _ hentry => .inl (h.operations ▸ hentry)⟩

/-- A call that leaves the board and the operations is no move. -/
theorem PublicationStore.Moved.of_eq (hboard : t.board = s.board)
    (hoperations : t.operations = s.operations) : s.Moved strict t :=
  ⟨hboard ▸ .refl, fun _ hentry => .inl (hoperations ▸ hentry)⟩

theorem PublicationStore.Kept.moved (h : s.Kept) (hmoved : s.Moved strict t) : t.Kept where
  sound := h.sound.moves hmoved.moves
  sourced := h.sourced.moves h.sound hmoved.moves
  eligible := by
    intro entry hentry hkind id hid
    rcases hmoved.eligible entry hentry with hold | hnew
    · have hbefore := h.eligible entry hold hkind id hid
      exact ⟨hbefore.1.moves h.sound hmoved.moves, hbefore.2⟩
    · have hbefore := hnew hkind id hid
      exact ⟨hbefore.1.moves h.sound hmoved.moves, hbefore.2⟩

/-- A rollback that goes back to a promoted release is a move. -/
theorem PublicationStore.RollsBack.move {operationId : UUID} {target prior : GatewayPublication}
    (h : s.RollsBack operationId target prior) (hs : s.board.Sound)
    (hsettled : s.board.Settled false target.id)
    (hidle : strict = true → ∀ operation ∈ s.operation? operationId,
      ¬s.Busy operation.gatewayProfileId) :
    Move strict s.board (s.board.rollBack target prior) := by
  obtain ⟨p, hp, hid, hstatus, hplain⟩ := hsettled
  cases hs.eq_of_id hp (publication?_mem h.target_row) hid
  refine .rollBack target prior hp (publication?_mem h.prior_row) hstatus hplain
    h.gateway h.effective
    fun hstrict => ?_
  obtain ⟨operation, hoperation, -, hgateway⟩ := h.operation
  have hfree := hidle hstrict operation hoperation
  rwa [hgateway] at hfree

theorem createGatewayReleaseOperation_moved {gateway : UUID} {kind createdBy : String}
    {target prior : Option UUID} {confirmation : Option String} {fresh : UUID}
    (hpromised : kind = "rollback" →
      ∀ id ∈ target, s.board.Settled false id ∧ prior ≠ some id) :
    Meets (createGatewayReleaseOperation gateway kind createdBy target prior confirmation fresh) s
      (fun _ t => s.Moved strict t) fun _ t => s.Moved strict t := by
  simp only [createGatewayReleaseOperation, meets_bind, meets_get, meets_require, meets_modify,
    meets_pure]
  refine ⟨fun _ => ⟨.refl, fun entry hentry => ?_⟩, fun _ => .of_eq rfl rfl⟩
  change entry ∈ (s.operations ++ [_]).map GatewayReleaseOperation.releases at hentry
  rw [List.map_append, List.map_singleton] at hentry
  rcases List.mem_append.1 hentry with hold | hnew
  · exact .inl hold
  · rw [List.mem_singleton] at hnew
    subst hnew
    exact .inr hpromised

theorem completeGatewayReleaseRollback_moved {operationId targetId priorId : UUID} (h : s.Kept)
    {actor : String} {now : ℤ}
    (hpromised : (PublicationCall.completeRollback operationId targetId priorId actor now).Promised
      s)
    (hidle : strict = true → ∀ operation ∈ s.operation? operationId,
      ¬s.Busy operation.gatewayProfileId) :
    Meets (completeGatewayReleaseRollback r operationId targetId priorId actor now) s
      (fun _ t => s.Moved strict t) fun _ t => s.Moved strict t := by
  obtain ⟨operation, hoperation, hkind, htarget, hprior⟩ := hpromised
  have hentry : operation.releases ∈ s.operations.map GatewayReleaseOperation.releases :=
    List.mem_map_of_mem (Rows.mem_of_find? hoperation)
  obtain ⟨hsettled, hother⟩ := h.eligible _ hentry hkind targetId htarget
  have hne : targetId ≠ priorId := by
    rintro rfl
    exact hother hprior
  refine (completeGatewayReleaseRollback_meets h.sound hne actor now).mono (fun _ t => ?_)
    fun _ t => ?_
  · rintro ⟨target, prior, rfl, rfl, hrolls, hboard, hoperations⟩
    refine ⟨?_, fun _ hentry => .inl (hoperations ▸ hentry)⟩
    rw [hboard]
    exact .single (hrolls.move h.sound hsettled hidle)
  · rintro (rfl | ⟨target, prior, rfl, rfl, hrolls, hboard, hoperations⟩)
    · exact .of_eq rfl rfl
    · refine ⟨?_, fun _ hentry => .inl (hoperations ▸ hentry)⟩
      rw [hboard]
      exact .single (hrolls.move h.sound hsettled hidle)

/-- A call that leads on whether it returns or raises has moved the store. -/
theorem moved_of_leads {α : Type} {p : RepositoryM α}
    (h : Meets p s (fun _ t => s.Leads strict t) fun _ t => s.Leads strict t) :
    Meets p s (fun _ t => s.Moved strict t) fun _ t => s.Moved strict t :=
  h.mono (fun _ _ ht => ht.moved) fun _ _ ht => ht.moved

/-- A call that changes the registry only moves nothing. -/
theorem moved_of_registry {p : RepositoryM Unit} (h : Keeps s.OnlyRegistry p) :
    Meets p s (fun _ t => s.Moved strict t) fun _ t => s.Moved strict t :=
  (h s (.refl s)).mono (fun _ _ ht => .of_eq ht.board ht.operations)
    fun _ _ ht => .of_eq ht.board ht.operations

/-- Every call is a sequence of moves, whether it returns or raises. -/
theorem PublicationCall.perform_moved (strict : Bool) (h : s.Kept) (call : PublicationCall)
    (promised : call.Promised s) (current : strict = true → call.Current s) :
    Meets (call.perform r) s (fun _ t => s.Moved strict t) fun _ t => s.Moved strict t := by
  have hsame : s.Moved strict s := .of_eq rfl rfl
  cases call with
  | create request fresh =>
      refine meets_discard.2 ((createGatewayPublication_leads strict h.sound h.sourced current
        fresh).mono (fun _ _ ht => ht.1.moved) fun _ _ ht => ht.moved)
  | rollout request =>
      refine meets_discard.2 ((createMultiTargetRollout_leads strict).mono (fun _ _ ht => ht.moved)
        fun _ t ht => ?_)
      rw [ht]
      exact hsame
  | requeue id request now =>
      refine (requeueGatewayPublication_leads strict h.sound current now).mono
        (fun _ _ ht => ht.1.moved) fun _ t ht => ?_
      rw [ht]
      exact hsame
  | resume id createdBy now =>
      exact moved_of_leads
        (resumeGatewayPublicationAuthorization_leads strict h.sound createdBy now)
  | claim worker leaseSeconds now =>
      exact meets_discard.2 (moved_of_leads
        (claimGatewayPublication_leads strict h.sound worker leaseSeconds now))
  | renew id worker leaseSeconds now =>
      exact meets_discard.2 (moved_of_leads
        (renewGatewayPublicationLease_leads strict h.sound worker leaseSeconds now))
  | cancel id actor now =>
      exact meets_discard.2 (moved_of_leads
        (cancelUnstartedGatewayPublication_leads strict h.sound actor now))
  | transition id expected status updates actor now =>
      exact meets_discard.2 (moved_of_leads
        (transitionGatewayPublication_leads strict h.sound promised actor now))
  | checkpoint id worker expected value field now =>
      exact meets_discard.2 (moved_of_leads
        (checkpointGatewayPublication_leads strict h.sound worker expected value field now))
  | reserveProbe id worker requestLimit now =>
      exact meets_discard.2 (moved_of_leads
        (reserveGatewayPublicationProbe_leads strict worker requestLimit now))
  | deleteCredential id =>
      exact moved_of_leads (deleteGatewayPublicationCredential_leads strict)
  | activate id actor validate fresh now =>
      refine (activateGatewayPublication_meets h.sound actor validate fresh now).mono
        (fun _ t ht => ⟨ht.1.moves h.sound strict, fun _ hentry => .inl (ht.2 ▸ hentry)⟩)
        fun _ t ht => .of_eq ht.board ht.operations
  | createOperation gateway kind createdBy target prior confirmation fresh =>
      exact meets_discard.2 (createGatewayReleaseOperation_moved promised)
  | claimOperation worker leaseSeconds now =>
      exact meets_discard.2 (moved_of_leads
        (claimGatewayReleaseOperation_leads strict worker leaseSeconds now))
  | transitionOperation id expected status linked actor keepLease now =>
      exact meets_discard.2 (moved_of_leads
        (transitionGatewayReleaseOperation_leads strict expected status linked actor keepLease
          now))
  | enqueueRollback operationId actor fresh =>
      exact meets_discard.2 (moved_of_leads
        (enqueueGatewayConfigurationRollback_leads strict h.sound h.sourced current actor fresh))
  | completeConfigurationRollback operationId actor fresh =>
      exact moved_of_leads
        (completeGatewayConfigurationRollback_leads strict h.sound h.sourced current actor fresh)
  | completeRollback operationId targetId priorId actor now =>
      exact completeGatewayReleaseRollback_moved h promised current
  | upsertRoute route => exact moved_of_registry (upsertApimTargetRouteBinding_registry route)
  | changeRegistry change => exact PublicationStore.Moved.of_eq rfl rfl

theorem PublicationStore.Empty.kept (h : s.Empty) : s.Kept := by
  obtain ⟨hpublications, houtbox, heffective, hoperations⟩ := h
  have hboard : s.board = ⟨[], [], fun _ => none⟩ := by
    unfold board
    rw [hpublications, houtbox, funext heffective]
  refine ⟨?_, ?_, ?_⟩
  · rw [hboard]
    constructor <;> simp
  · rw [hboard]
    intro p hp
    cases hp
  · intro entry hentry
    rw [hoperations] at hentry
    cases hentry

/-- Every reachable store keeps its promises. -/
theorem PublicationStore.Reachable.kept {allowed : PublicationStore → PublicationCall → Prop}
    (h : Reachable r allowed s) : s.Kept := by
  induction h with
  | empty s h => exact h.kept
  | call s call _ promised _ ih =>
      refine ih.moved (after_of_meets (call.perform_moved false ih promised fun hstrict => ?_))
      cases hstrict

end Calls

end Turnstile
