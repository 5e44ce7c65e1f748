import Turnstile.Persistence.PublicationMoves

/-!
# Workers and owners as moves

What workers do between a claim and the end of a publication, and what owners do to
several targets at once, is a sequence of moves as well.
-/

namespace Turnstile

open Procedure ReleaseBoard PublicationStore

/-! ## Workers -/

section Workers

variable {r : PublicationRules} {s : PublicationStore} {p : GatewayPublication} {id : UUID}
  {row : PublicationOutbox}

namespace PublicationStore

/-- Every outbox row has its publication. -/
theorem exists_publication (h : s.board.Sound) (hrow : row ∈ s.outbox) :
    ∃ p, s.publication? row.publicationId = some p ∧ s.outbox? row.publicationId = some row := by
  have hid : row.publicationId ∈ s.outbox.map PublicationOutbox.publicationId :=
    List.mem_map_of_mem hrow
  have hrows : s.outbox.map PublicationOutbox.publicationId =
      s.publications.map GatewayPublication.id := h.rows
  rw [hrows] at hid
  obtain ⟨p, hp, hkey⟩ := List.mem_map.1 hid
  obtain ⟨q, hq⟩ := Rows.exists_find? hp hkey
  exact ⟨q, hq, (Rows.find?_eq_some (outbox_distinct h)).2 ⟨hrow, rfl⟩⟩

/-- The publication of an outbox row that does not rest is in flight. -/
theorem inFlight_of_outbox (h : s.board.Sound) (hp : s.publication? id = some p)
    (hrow : s.outbox? id = some row) (hstatus : row.status ≠ .completed) :
    p.status.inFlight = true := by
  have hfollows := follows h hp hrow
  refine PublicationStatus.inFlight_of_not_resting (Bool.eq_false_iff.2 fun hrest => ?_)
  exact hstatus (hfollows.2.2 hrest)

/-- The publication that a worker holds, with its row. -/
theorem OwnsPublicationLease.rows {worker : String} {now : ℤ} (h : s.board.Sound)
    (howns : s.OwnsPublicationLease id worker now) :
    ∃ p row, s.publication? id = some p ∧ s.outbox? id = some row ∧ row.status = .leased := by
  obtain ⟨row, hrow, hkey, hleased, -⟩ := howns
  obtain ⟨p, hp, hfound⟩ := exists_publication h hrow
  rw [hkey] at hp hfound
  exact ⟨p, row, hp, hfound, hleased⟩

end PublicationStore

/-- Writing the rows of a publication in flight advances it. -/
theorem advance_move (strict : Bool) (h : s.board.Sound) (hp : s.publication? id = some p)
    (hrow : s.outbox? id = some row) (before : p.status.inFlight = true)
    {f : GatewayPublication → GatewayPublication} {g : PublicationOutbox → PublicationOutbox}
    (after : (f p).status.inFlight = true ∨ (f p).status = .failed ∨ (f p).status = .rolledBack)
    (same : p.SameRelease (f p)) (markers : p.KeepsMarkers (f p))
    (hfollows : (g row).publicationId = row.publicationId ∧
      ((g row).status = .completed ↔ (f p).status.resting = true)) :
    Move strict s.board ((s.setPublication id f).setOutbox id g).board := by
  rw [write_board h hp hrow same.1]
  refine .advance p (f p) (g row) (publication?_mem hp) before after same markers ⟨?_, hfollows.2⟩
  rw [hfollows.1, (follows h hp hrow).1, same.1]

/-- A change of a row that keeps its status follows the publication as before. -/
theorem follows_same (h : s.board.Sound) (hp : s.publication? id = some p)
    (hrow : s.outbox? id = some row) (hleased : row.status ≠ .completed) {other : PublicationOutbox}
    (hother : other.status ≠ .completed) :
    other.status = .completed ↔ p.status.resting = true := by
  refine iff_of_false hother fun hrest => ?_
  exact hleased ((follows h hp hrow).2.2 hrest)

theorem claimGatewayPublication_leads (strict : Bool) (h : s.board.Sound) (worker : String)
    (seconds now : ℤ) :
    Meets (claimGatewayPublication worker seconds now) s (fun _ t => s.Leads strict t)
      fun _ t => s.Leads strict t := by
  unfold claimGatewayPublication
  rw [meets_bind, meets_get]
  cases hfound : s.outbox.find? fun row => row.Claimable now with
  | none => exact .refl s
  | some row =>
      obtain ⟨p, hp, hrow⟩ := exists_publication h (List.mem_of_find?_eq_some hfound)
      have hclaim := List.find?_some hfound
      have hclaimable : row.Claimable now := of_decide_eq_true hclaim
      have hstatus : row.status ≠ .completed := by
        intro heq
        rcases hclaimable with ⟨hqueued, -⟩ | ⟨hleased, -⟩
        · rw [heq] at hqueued
          cases hqueued
        · rw [heq] at hleased
          cases hleased
      have hflight := inFlight_of_outbox h hp hrow hstatus
      simp only [meets_bind, meets_modify, meets_demand, meets_pure]
      refine ⟨fun q hq => ?_, fun hnone => ?_⟩
      · cases hp.symm.trans hq
        rw [publication?_id hp]
        refine .of_move (advance_move strict h hp hrow hflight (.inl hflight)
          ⟨rfl, rfl, rfl, rfl, rfl⟩ (.inl ⟨rfl, rfl, rfl⟩) ⟨rfl, ?_⟩) rfl rfl
        exact follows_same h hp hrow hstatus (by simp)
      · cases hp.symm.trans hnone

theorem renewGatewayPublicationLease_leads (strict : Bool) (h : s.board.Sound) (worker : String)
    (seconds now : ℤ) :
    Meets (renewGatewayPublicationLease id worker seconds now) s (fun _ t => s.Leads strict t)
      fun _ t => s.Leads strict t := by
  simp only [renewGatewayPublicationLease, meets_bind, meets_get, meets_ite, meets_modify,
    meets_pure]
  refine ⟨fun howns => ?_, fun _ => .refl s⟩
  obtain ⟨p, row, hp, hrow, hleased⟩ := howns.rows h
  have hstatus : row.status ≠ .completed := by rw [hleased]; decide
  have hflight := inFlight_of_outbox h hp hrow hstatus
  have hmove := advance_move (f := fun p => p)
    (g := fun row => { row with leaseExpiresAt := some (now + seconds) }) strict h hp hrow hflight
    (.inl hflight) (.refl p) (.refl p) ⟨rfl, follows_same h hp hrow hstatus hstatus⟩
  rw [setPublication_self] at hmove
  exact .of_move hmove rfl rfl

/-- A credential that is forgotten moves nothing. -/
theorem deleteGatewayPublicationCredential_leads (strict : Bool) :
    Meets (deleteGatewayPublicationCredential id) s (fun _ t => s.Leads strict t)
      fun _ t => s.Leads strict t :=
  .of_eq rfl rfl rfl

theorem cancelUnstartedGatewayPublication_leads (strict : Bool) (h : s.board.Sound)
    (actor : String) (now : ℤ) :
    Meets (cancelUnstartedGatewayPublication id actor now) s (fun _ t => s.Leads strict t)
      fun _ t => s.Leads strict t := by
  unfold cancelUnstartedGatewayPublication
  rw [meets_bind, meets_get]
  cases hp : s.publication? id with
  | none => exact .refl s
  | some p =>
      cases hrow : s.outbox? id with
      | none => exact .refl s
      | some row =>
          simp only [deleteGatewayPublicationCredential, meets_ite, meets_bind, meets_modify,
            meets_pure]
          refine ⟨fun hunstarted => ?_, fun _ => .refl s⟩
          obtain ⟨hqueued, -⟩ := hunstarted
          have hflight : p.status.inFlight = true := by rw [hqueued]; rfl
          refine .of_move (advance_move strict h hp hrow hflight (.inr (.inr rfl))
            ⟨rfl, rfl, rfl, rfl, rfl⟩ (.inl ⟨rfl, rfl, rfl⟩) ⟨rfl, ?_⟩) rfl rfl
          exact iff_of_true rfl rfl

theorem resumeGatewayPublicationAuthorization_leads (strict : Bool) (h : s.board.Sound)
    (createdBy : String) (now : ℤ) :
    Meets (resumeGatewayPublicationAuthorization id createdBy now) s
      (fun _ t => s.Leads strict t) fun _ t => s.Leads strict t := by
  simp only [resumeGatewayPublicationAuthorization, meets_bind, meets_get, meets_demand,
    meets_require, meets_modify]
  refine ⟨fun p hp => ⟨fun hawaiting => ⟨fun row hrow => ?_, fun hnone => ?_⟩, fun _ => .refl s⟩,
    fun _ => .refl s⟩
  · have hflight : p.status.inFlight = true := by rw [hawaiting]; rfl
    refine .of_move (advance_move strict h hp hrow hflight (.inl rfl)
      ⟨rfl, rfl, rfl, rfl, rfl⟩ (.inl ⟨rfl, rfl, rfl⟩) ⟨rfl, ?_⟩) rfl rfl
    exact iff_of_false (by simp [PublicationOutbox.wait]) (by simp; rfl)
  · obtain ⟨row, hrow⟩ := exists_outbox h hp
    cases hrow.symm.trans hnone

/-- What a worker promises of a transition: the pair is one of those that publications are
moved by, and a manifest that it writes keeps the markers. -/
def PublicationUpdates.Promised (updates : PublicationUpdates) (expected status : PublicationStatus)
    (p : GatewayPublication) : Prop :=
  expected.LeadsTo status ∧ ∀ manifest ∈ updates.resourceManifest,
    manifest.modelRouteAddition = p.resourceManifest.modelRouteAddition ∧
      manifest.modelRouteRemoval = p.resourceManifest.modelRouteRemoval

theorem PublicationUpdates.keepsMarkers {updates : PublicationUpdates}
    {expected status : PublicationStatus} (h : updates.Promised expected status p) :
    p.KeepsMarkers { updates.apply p with status := status } := by
  left
  obtain ⟨-, hmanifest⟩ := h
  unfold PublicationUpdates.apply
  cases hnew : updates.resourceManifest with
  | none => exact ⟨rfl, rfl, rfl⟩
  | some manifest =>
      obtain ⟨hadd, hremove⟩ := hmanifest manifest (by rw [hnew]; rfl)
      exact ⟨hadd, hremove, rfl⟩

/-- The row that a transition writes rests exactly when the new status does. -/
theorem transition_follows {status : PublicationStatus}
    (h : status.inFlight = true ∨ status = .failed ∨ status = .rolledBack) (now : ℤ)
    (row : PublicationOutbox) :
    (if status.ends = true ∨ status = .awaitingAuthorization then row.rest now
      else row.wait now : PublicationOutbox).status = .completed ↔ status.resting = true := by
  cases status with
  | superseded => rcases h with h | h | h <;> cases h
  | active => rcases h with h | h | h <;> cases h
  | failed => exact iff_of_true rfl rfl
  | rolledBack => exact iff_of_true rfl rfl
  | awaitingAuthorization => exact iff_of_true rfl rfl
  | queued => exact iff_of_false (fun h => by cases h) (fun h => by cases h)
  | validating => exact iff_of_false (fun h => by cases h) (fun h => by cases h)
  | provisioning => exact iff_of_false (fun h => by cases h) (fun h => by cases h)
  | buildingRevision => exact iff_of_false (fun h => by cases h) (fun h => by cases h)
  | verifying => exact iff_of_false (fun h => by cases h) (fun h => by cases h)
  | promoting => exact iff_of_false (fun h => by cases h) (fun h => by cases h)
  | rollingBack => exact iff_of_false (fun h => by cases h) (fun h => by cases h)

theorem transitionGatewayPublication_leads (strict : Bool) (h : s.board.Sound)
    {expected status : PublicationStatus} {updates : PublicationUpdates}
    (hpromised : ∀ p, s.publication? id = some p → updates.Promised expected status p)
    (actor : String) (now : ℤ) :
    Meets (transitionGatewayPublication id expected status updates actor now) s
      (fun _ t => s.Leads strict t) fun _ t => s.Leads strict t := by
  unfold transitionGatewayPublication
  rw [meets_bind, meets_get]
  cases hp : s.publication? id with
  | none => exact .refl s
  | some p =>
      have hkept := hpromised p hp
      simp only [meets_ite, meets_bind, meets_modify, meets_demand, meets_pure]
      refine ⟨fun _ => .refl s, fun hexpected => ⟨fun _ => .refl s, fun _ => ?_⟩⟩
      have hstatus : p.status = expected := not_not.1 hexpected
      have hflight : p.status.inFlight = true := hstatus ▸ hkept.1.1
      refine ⟨fun row hrow => ?_, fun hnone => ?_⟩
      · have hnext : status.inFlight = true ∨ status = .failed ∨ status = .rolledBack := hkept.1.2
        have hmove := advance_move (f := fun p => { updates.apply p with status := status })
          (g := fun row => if status.ends = true ∨ status = .awaitingAuthorization then row.rest now
            else row.wait now) strict h hp hrow hflight hnext ⟨rfl, rfl, rfl, rfl, rfl⟩
          (PublicationUpdates.keepsMarkers hkept)
          ⟨by split_ifs <;> rfl, transition_follows hnext now row⟩
        by_cases hforget : status.ends = true ∨ expected = .validating ∧ status = .provisioning
        · rw [if_pos hforget]
          exact .of_move hmove rfl rfl
        · rw [if_neg hforget]
          exact .of_move hmove rfl rfl
      · obtain ⟨row, hrow⟩ := exists_outbox h hp
        cases hrow.symm.trans hnone

theorem checkpointGatewayPublication_leads (strict : Bool) (h : s.board.Sound) (worker : String)
    (expected : Option String) (checkpoint field : String) (now : ℤ) :
    Meets (checkpointGatewayPublication id worker expected checkpoint field now) s
      (fun _ t => s.Leads strict t) fun _ t => s.Leads strict t := by
  unfold checkpointGatewayPublication
  rw [meets_bind, meets_demand]
  refine ⟨fun phase hphase => ?_, fun _ => .refl s⟩
  rw [meets_bind, meets_get]
  cases hp : s.publication? id with
  | none => exact .refl s
  | some p =>
      simp only [meets_ite, meets_bind, meets_modify, meets_pure]
      refine ⟨fun howned => ?_, fun _ => .refl s⟩
      obtain ⟨-, howns, -⟩ := howned
      obtain ⟨q, row, hq, hrow, hleased⟩ := howns.rows h
      cases hp.symm.trans hq
      have hstatus : row.status ≠ .completed := by rw [hleased]; decide
      have hflight := inFlight_of_outbox h hp hrow hstatus
      have hmove := advance_move
        (f := fun p => { p with resourceManifest := p.resourceManifest.set field checkpoint })
        (g := fun row => row) strict h hp hrow hflight (.inl hflight) ⟨rfl, rfl, rfl, rfl, rfl⟩
        (.inl ⟨rfl, rfl, rfl⟩) ⟨rfl, follows_same h hp hrow hstatus hstatus⟩
      rw [setOutbox_self] at hmove
      exact .of_move hmove rfl rfl

theorem reserveGatewayPublicationProbe_leads (strict : Bool) (worker : String) (limit : ℕ)
    (now : ℤ) :
    Meets (reserveGatewayPublicationProbe id worker limit now) s
      (fun _ t => s.Leads strict t) fun _ t => s.Leads strict t := by
  unfold reserveGatewayPublicationProbe
  rw [meets_bind, meets_require]
  refine ⟨fun _ => ?_, fun _ => .refl s⟩
  rw [meets_bind, meets_get]
  cases hp : s.publication? id with
  | none => exact .refl s
  | some p =>
      simp only [meets_ite, meets_bind, meets_modify, meets_pure]
      exact ⟨fun _ => .of_eq rfl rfl rfl, fun _ => .refl s⟩

/-! ## Operations -/

/-- Writing an operation keeps what it is about. -/
theorem written_leads {t : PublicationStore} (strict : Bool)
    {f : GatewayReleaseOperation → GatewayReleaseOperation}
    (hoperations : t.operations = Rows.update GatewayReleaseOperation.id id f s.operations)
    (hf : ∀ row, (f row).releases = row.releases) (hboard : t.board = s.board)
    (hregistry : t.registry = s.registry) : s.Leads strict t :=
  .of_eq hboard (by rw [hoperations, Rows.map_update hf]) hregistry

theorem claimGatewayReleaseOperation_leads (strict : Bool) (worker : String) (seconds now : ℤ) :
    Meets (claimGatewayReleaseOperation worker seconds now) s (fun _ t => s.Leads strict t)
      fun _ t => s.Leads strict t := by
  unfold claimGatewayReleaseOperation
  rw [meets_bind, meets_get]
  cases s.operations.find? fun row =>
      !row.status.terminal && row.leaseExpiresAt.all (· < now) with
  | none => exact .refl s
  | some row => exact written_leads strict rfl (fun _ => rfl) rfl rfl

theorem transitionGatewayReleaseOperation_leads (strict : Bool)
    (expected status : OperationStatus) (checkpoint : Option (Option UUID)) (actor : String)
    (keepLease : Bool) (now : ℤ) :
    Meets (transitionGatewayReleaseOperation id expected status checkpoint actor keepLease now) s
      (fun _ t => s.Leads strict t) fun _ t => s.Leads strict t := by
  unfold transitionGatewayReleaseOperation
  rw [meets_bind, meets_require]
  refine ⟨fun _ => ?_, fun _ => .refl s⟩
  rw [meets_bind, meets_get]
  cases s.operation? id with
  | none => exact .refl s
  | some row =>
      simp only [meets_ite, meets_bind, meets_modify, meets_pure]
      refine ⟨fun _ => ?_, fun _ => .refl s⟩
      exact written_leads strict rfl (fun _ => rfl) rfl rfl

/-- Where an operation's publication failed, it was built on the effective release. -/
def PublicationStore.RollbackCurrent (s : PublicationStore) (operationId : UUID) : Prop :=
  ∀ p ∈ s.publications, ∀ detail spec, p.desiredSpecSha256 = .rollback detail spec →
    detail.operationId = operationId → p.status = .failed → p.retriesIntent = false →
      p.baseReleaseId = s.effective p.gatewayProfileId

theorem configurationRollbackValues_ok {operation : GatewayReleaseOperation}
    {target prior : GatewayPublication} {values : GatewayReleaseSpec × RouteRollback}
    (h : configurationRollbackValues r operation target prior = .ok values) :
    values.2.operationId = operation.id ∧ values.2.targetReleaseId = target.id ∧
      values.2.priorReleaseId = prior.id := by
  unfold configurationRollbackValues at h
  cases hconfirmation : operation.confirmationSha256 with
  | none =>
      rw [hconfirmation] at h
      cases h
  | some confirmation =>
      rw [hconfirmation] at h
      dsimp only at h
      split at h
      next =>
        obtain ⟨_, -, h⟩ := Guard.bind_eq_ok.1 h
        cases h
        exact ⟨rfl, rfl, rfl⟩
      next => cases h

/-- The publication of a configuration rollback is labelled as one. -/
theorem relabel_leads {t : PublicationStore} (strict : Bool) (ht : t.board.Sound)
    (hp : t.publication? id = some p) (hplain : p.resourceManifest.independent = false)
    {m : ResourceManifest} (hmanifest : m.independent = false) :
    t.Leads strict (t.setPublication id fun p => { p with resourceManifest := m }) := by
  obtain ⟨row, hrow⟩ := exists_outbox ht hp
  have hfollows := follows ht hp hrow
  refine .of_move ?_ rfl rfl
  rw [write_publication ht hp hrow rfl]
  exact .relabel p _ row (publication?_mem hp) rfl ⟨rfl, rfl, rfl, rfl, rfl⟩ ⟨hplain, hmanifest⟩
    ⟨hfollows.1, hfollows.2⟩

theorem enqueueGatewayConfigurationRollback_leads (strict : Bool) (h : s.board.Sound)
    (hsources : s.board.Sourced) (hcurrent : strict = true → s.RollbackCurrent id)
    (actor : String) (fresh : Fresh) :
    Meets (enqueueGatewayConfigurationRollback r id actor fresh) s
      (fun _ t => s.Leads strict t) fun _ t => s.Leads strict t := by
  unfold enqueueGatewayConfigurationRollback
  simp only [meets_bind, meets_get, meets_demand, meets_require, meets_lift]
  refine ⟨fun operation hoperation => ⟨fun _ => ⟨fun target htarget => ⟨fun prior hprior =>
    ⟨fun values hvalues => ?_, fun _ _ => .refl s⟩, fun _ => .refl s⟩, fun _ => .refl s⟩,
    fun _ => .refl s⟩, fun _ => .refl s⟩
  obtain ⟨hid, -, -⟩ := configurationRollbackValues_ok hvalues
  have hoperationId : operation.id = id := Rows.key_of_find? hoperation
  cases operation.routeRollbackPublicationId with
  | some linked =>
      simp only [meets_bind, meets_demand, meets_require, meets_pure]
      exact ⟨fun _ _ => ⟨fun _ => .refl s, fun _ => .refl s⟩, fun _ => .refl s⟩
  | none =>
      simp only [meets_bind, meets_require, meets_modify, meets_pure]
      refine ⟨fun _ => ?_, fun _ => .refl s⟩
      refine (createGatewayPublication_leads strict h hsources (fun hstrict p hp => ?_) fresh).mono
        (fun created t => ?_) fun _ t ht => ht
      · exact hcurrent hstrict p (PublicationRequest.existing?_mem hp) values.2 values.1
          (PublicationRequest.existing?_same hp).2 (hid.trans hoperationId)
      · rintro ⟨hleads, q, hq, hdigest⟩
        have ht := h.moves hleads.moves
        have hplain : q.resourceManifest.independent = false := by
          by_contra hmarked
          exact (ht.marked q (publication?_mem hq)).2.2 (Bool.not_eq_false _ ▸ hmarked)
            values.2 values.1 hdigest
        have hlabelled := relabel_leads (m := { ResourceManifest.empty with
          routeRollback := some values.2 }) strict ht hq hplain rfl
        exact (hleads.trans hlabelled).trans (written_leads strict rfl (fun _ => rfl) rfl rfl)

theorem completeGatewayConfigurationRollback_leads (strict : Bool) (h : s.board.Sound)
    (hsources : s.board.Sourced) (hcurrent : strict = true → s.RollbackCurrent id)
    (actor : String) (fresh : Fresh) :
    Meets (completeGatewayConfigurationRollback r id actor fresh) s
      (fun _ t => s.Leads strict t) fun _ t => s.Leads strict t := by
  unfold completeGatewayConfigurationRollback
  simp only [meets_bind, meets_get, meets_demand, meets_require, meets_modify]
  refine ⟨fun operation _ => ⟨fun _ => ?_, fun _ => .refl s⟩, fun _ => .refl s⟩
  refine (enqueueGatewayConfigurationRollback_leads strict h hsources hcurrent actor fresh).mono
    (fun _ t ht => ⟨fun _ => ?_, fun _ => ht⟩) fun _ _ ht => ht
  exact ht.trans (written_leads strict rfl (fun _ => rfl) rfl rfl)

end Workers

/-! ## Several targets -/

/-- Publications of the targets were added to the store, and nothing else was done to it. -/
structure PublicationStore.Extends (s t : PublicationStore) (targets : List UUID) : Prop where
  publications : s.publications <+: t.publications
  added : ∀ p ∈ t.publications, p ∈ s.publications ∨ p.gatewayProfileId ∈ targets
  outbox : s.outbox <+: t.outbox
  audit : s.audit <+: t.audit
  rest : { t with
    publications := s.publications
    outbox := s.outbox
    audit := s.audit
    secrets := s.secrets } = s

section Rollouts

variable {r : PublicationRules} {a : RolloutRequest} {s t : PublicationStore}
  {targets : List UUID}

theorem PublicationStore.Extends.refl (s : PublicationStore) : s.Extends s [] where
  publications := List.prefix_rfl
  added := fun _ hp => .inl hp
  outbox := List.prefix_rfl
  audit := List.prefix_rfl
  rest := rfl

theorem PublicationStore.Extends.insert (h : s.Extends t targets) (p : GatewayPublication)
    (credential : Option String) (now : ℤ) :
    s.Extends (t.insert p credential now) (p.gatewayProfileId :: targets) where
  publications := h.publications.trans (List.prefix_append _ _)
  added := by
    intro q hq
    rcases List.mem_append.1 hq with hold | hnew
    · exact (h.added q hold).imp_right (List.mem_cons_of_mem _)
    · rw [List.mem_singleton.1 hnew]
      exact .inr List.mem_cons_self
  outbox := h.outbox.trans (List.prefix_append _ _)
  audit := h.audit.trans (List.prefix_append _ _)
  rest := h.rest

/-- What was added can be taken away again. -/
theorem PublicationStore.Extends.restore (h : s.Extends t targets) :
    RolloutRequest.restore s t = s := by
  unfold RolloutRequest.restore
  rw [← List.prefix_iff_eq_take.1 h.publications, ← List.prefix_iff_eq_take.1 h.outbox,
    ← List.prefix_iff_eq_take.1 h.audit]
  exact h.rest

theorem PublicationRequest.existing?_eq_none {request : PublicationRequest} :
    request.existing? s = none ↔ ∀ p ∈ s.publications,
      ¬(p.gatewayProfileId = request.gatewayProfileId ∧
        p.desiredSpecSha256 = request.desiredSpecSha256 ∧ p.status ≠ .superseded ∧
        p.status ≠ .rolledBack) := by
  unfold PublicationRequest.existing?
  simp only [List.find?_eq_none, List.mem_reverse, decide_eq_true_eq]

/-- A child of a target that was not added to creates its publication, or changes nothing. -/
theorem createChild_extends (strict : Bool) (h : s.Extends t targets)
    (hleads : s.Leads strict t) {child : RolloutChild}
    (hnew : child.gatewayProfileId ∉ targets)
    (hnone : (a.publicationRequest child).existing? s = none) :
    Meets (createGatewayPublication r (a.publicationRequest child) child.fresh) t
      (fun _ u => s.Extends u (child.gatewayProfileId :: targets) ∧ s.Leads strict u)
      fun _ u => u = t := by
  have hnone' : (a.publicationRequest child).existing? t = none := by
    rw [PublicationRequest.existing?_eq_none] at hnone ⊢
    intro p hp hsame
    rcases h.added p hp with hold | hadded
    · exact hnone p hold hsame
    · have htarget : p.gatewayProfileId = child.gatewayProfileId := hsame.1
      exact hnew (htarget ▸ hadded)
  unfold createGatewayPublication
  rw [meets_bind, meets_get, meets_bind, meets_lift]
  refine ⟨fun manifest hvalid => ?_, fun _ _ => rfl⟩
  rw [hnone']
  dsimp only
  rw [meets_bind]
  refine (insertGatewayPublication_inserts t child.fresh.publicationId child.fresh.now).mono
    (fun p u => ?_) fun _ _ hu => hu
  rintro ⟨id, rfl, rfl, hfree, hfresh⟩
  refine ⟨h.insert _ _ _, hleads.trans (.of_move ?_ rfl rfl)⟩
  exact insert_move strict _ _ (PublicationRequest.wellMarked hvalid t id)
    (PublicationRequest.sourceSettled hvalid t id) hfree hfresh

/-- The children in turn. -/
theorem createChildren_extends (strict : Bool) {children : List RolloutChild}
    (h : s.Extends t targets) (hleads : s.Leads strict t)
    (hdistinct : (children.map RolloutChild.gatewayProfileId).Nodup)
    (hnew : ∀ child ∈ children, child.gatewayProfileId ∉ targets)
    (hnone : ∀ child ∈ children, (a.publicationRequest child).existing? s = none) :
    Meets (a.createChildren r children) t
      (fun _ u => s.Leads strict u)
      fun _ u => ∃ targets, s.Extends u targets := by
  induction children generalizing t targets with
  | nil => exact hleads
  | cons child rest ih =>
      rw [List.map_cons, List.nodup_cons] at hdistinct
      unfold RolloutRequest.createChildren
      rw [meets_bind]
      refine (createChild_extends strict h hleads (hnew child List.mem_cons_self)
        (hnone child List.mem_cons_self)).mono (fun id u => ?_) fun _ u => ?_
      · rintro ⟨hextends, hleads'⟩
        rw [meets_bind]
        refine (ih hextends hleads' hdistinct.2 (fun other hother hmem => ?_)
          fun other hother => hnone other (List.mem_cons_of_mem _ hother)).mono
          (fun _ _ hu => hu) fun _ _ hu => hu
        cases List.mem_cons.1 hmem with
        | inl heq => exact hdistinct.1 (heq ▸ List.mem_map_of_mem hother)
        | inr hold => exact hnew other (List.mem_cons_of_mem _ hother) hold
      · rintro rfl
        exact ⟨targets, h⟩

theorem RolloutRequest.checkChild_ok {child : RolloutChild} (h : a.checkChild s child = .ok ()) :
    (a.publicationRequest child).existing? s = none := by
  unfold RolloutRequest.checkChild at h
  split at h
  next => cases h
  next =>
    split at h
    next => cases h
    next =>
      split at h
      next => cases h
      next hnone => exact not_not.1 hnone

/-- What is checked of the children before the first one is created. -/
theorem RolloutRequest.validated_ok (h : a.validated r s = .ok ()) :
    (a.children.map RolloutChild.gatewayProfileId).Nodup ∧
      ∀ child ∈ a.children, (a.publicationRequest child).existing? s = none := by
  unfold RolloutRequest.validated at h
  split at h
  next => cases h
  next =>
    split at h
    next => cases h
    next =>
      split at h
      next => cases h
      next hdistinct =>
        obtain ⟨_, -, h⟩ := Guard.bind_eq_ok.1 h
        refine ⟨not_not.1 hdistinct, fun child hchild => ?_⟩
        exact a.checkChild_ok (Guard.forM_eq_ok.1 h child hchild)

/-- A rollout creates all of its children, or changes nothing. -/
theorem createMultiTargetRollout_leads (strict : Bool) :
    Meets (createMultiTargetRollout r a) s (fun _ t => s.Leads strict t) fun _ t => t = s := by
  unfold createMultiTargetRollout
  rw [meets_bind, meets_get]
  cases s.rollouts.find? fun row => row.requestSha256 = a.requestSha256 with
  | some row => exact .refl s
  | none =>
      dsimp only
      rw [meets_bind, meets_lift]
      refine ⟨fun _ hvalid => ?_, fun _ _ => rfl⟩
      obtain ⟨hdistinct, hnone⟩ := a.validated_ok hvalid
      rw [meets_bind, meets_rescue, meets_bind]
      refine (createChildren_extends strict (.refl s) (.refl s) hdistinct
        (fun _ _ h => by cases h) hnone).mono (fun rows t ht => ?_) fun _ t => ?_
      · exact ht.trans (.of_eq rfl rfl rfl)
      · rintro ⟨targets, hextends⟩
        exact hextends.restore

end Rollouts

end Turnstile
