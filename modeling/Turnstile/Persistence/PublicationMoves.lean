import Turnstile.Persistence.ReleaseBoard

/-!
# The operations as moves

Each operation of the repository is walked once: whether it returns or raises, what it has
done to the board is a sequence of moves.
-/

namespace Turnstile

open Procedure ReleaseBoard

/-- The releases that an operation is about. -/
def GatewayReleaseOperation.releases (operation : GatewayReleaseOperation) :
    UUID × String × Option UUID × Option UUID :=
  (operation.id, operation.operationKind, operation.targetReleaseId, operation.priorReleaseId)

namespace PublicationStore

/-- One store leads to another by moves, and keeps its operations and its registry. -/
structure Leads (strict : Bool) (s t : PublicationStore) : Prop where
  moves : ReleaseBoard.Moves strict s.board t.board
  operations : t.operations.map GatewayReleaseOperation.releases =
    s.operations.map GatewayReleaseOperation.releases
  registry : t.registry = s.registry

variable {strict : Bool} {s t u : PublicationStore} {p : GatewayPublication}
  {row : PublicationOutbox} {id : UUID}

theorem Leads.refl (s : PublicationStore) : s.Leads strict s :=
  ⟨.refl, rfl, rfl⟩

theorem Leads.trans (h : s.Leads strict t) (h' : t.Leads strict u) : s.Leads strict u :=
  ⟨h.moves.trans h'.moves, h'.operations.trans h.operations, h'.registry.trans h.registry⟩

/-- One move leads on. -/
theorem Leads.of_move (hmove : Move strict s.board t.board)
    (hoperations : t.operations = s.operations) (hregistry : t.registry = s.registry) :
    s.Leads strict t :=
  ⟨.single hmove, by rw [hoperations], hregistry⟩

/-- Where nothing of it is changed, nothing moves. -/
theorem Leads.of_eq (hboard : t.board = s.board)
    (hoperations : t.operations.map GatewayReleaseOperation.releases =
      s.operations.map GatewayReleaseOperation.releases)
    (hregistry : t.registry = s.registry) : s.Leads strict t :=
  ⟨hboard ▸ .refl, hoperations, hregistry⟩

/-! ## Rows of the board -/

theorem publication?_mem (h : s.publication? id = some p) : p ∈ s.board.publications :=
  Rows.mem_of_find? h

theorem publication?_id (h : s.publication? id = some p) : p.id = id :=
  Rows.key_of_find? h

theorem publication?_of_mem (h : s.board.Sound) (hp : p ∈ s.publications) :
    s.publication? p.id = some p :=
  (Rows.find?_eq_some h.distinct).2 ⟨hp, rfl⟩

/-- Every publication has its outbox row. -/
theorem exists_outbox (h : s.board.Sound) (hp : s.publication? id = some p) :
    ∃ row, s.outbox? id = some row := by
  have hid : id ∈ s.publications.map GatewayPublication.id :=
    publication?_id hp ▸ List.mem_map_of_mem (publication?_mem hp)
  have hrows : s.outbox.map PublicationOutbox.publicationId =
      s.publications.map GatewayPublication.id := h.rows
  rw [← hrows] at hid
  obtain ⟨row, hrow, hkey⟩ := List.mem_map.1 hid
  exact Rows.exists_find? hrow hkey

theorem publications_distinct (h : s.board.Sound) :
    (s.publications.map GatewayPublication.id).Nodup := h.distinct

theorem outbox_distinct (h : s.board.Sound) :
    (s.outbox.map PublicationOutbox.publicationId).Nodup := by
  have hrows : s.outbox.map PublicationOutbox.publicationId =
      s.publications.map GatewayPublication.id := h.rows
  rw [hrows]
  exact h.distinct

/-- The row of a publication follows it. -/
theorem follows (h : s.board.Sound) (hp : s.publication? id = some p)
    (hrow : s.outbox? id = some row) : ReleaseBoard.Follows row p := by
  have hkey : row.publicationId = p.id := (Rows.key_of_find? hrow).trans (publication?_id hp).symm
  exact ⟨hkey, h.outbox p (publication?_mem hp) row (Rows.mem_of_find? hrow) hkey⟩

/-- Writing both rows of a publication is one write of the board. -/
theorem write_board {f : GatewayPublication → GatewayPublication}
    {g : PublicationOutbox → PublicationOutbox} (h : s.board.Sound)
    (hp : s.publication? id = some p) (hrow : s.outbox? id = some row) (hf : (f p).id = p.id) :
    ((s.setPublication id f).setOutbox id g).board = s.board.write (f p) (g row) := by
  have hid : (f p).id = id := hf.trans (publication?_id hp)
  have hpublications : Rows.update GatewayPublication.id id f s.publications =
      s.publications.map fun q => if q.id = (f p).id then f p else q := by
    rw [Rows.update_eq_map (publications_distinct h)]
    refine List.map_congr_left fun q hq => ?_
    rw [hid]
    split_ifs with hqid
    · rw [Rows.eq_of_key (publications_distinct h) hq (publication?_mem hp)
        (hqid.trans (publication?_id hp).symm)]
    · rfl
  have houtbox : Rows.update PublicationOutbox.publicationId id g s.outbox =
      s.outbox.map fun other => if other.publicationId = (f p).id then g row else other := by
    rw [Rows.update_eq_map (outbox_distinct h)]
    refine List.map_congr_left fun other hother => ?_
    rw [hid]
    split_ifs with hkey
    · rw [Rows.eq_of_key (outbox_distinct h) hother (Rows.mem_of_find? hrow)
        (hkey.trans (Rows.key_of_find? hrow).symm)]
    · rfl
  unfold board write setOutbox setPublication
  rw [hpublications, houtbox]

theorem setOutbox_self (s : PublicationStore) (id : UUID) :
    s.setOutbox id (fun row => row) = s := by
  unfold setOutbox
  rw [Rows.update_self]

theorem setPublication_self (s : PublicationStore) (id : UUID) :
    s.setPublication id (fun p => p) = s := by
  unfold setPublication
  rw [Rows.update_self]

/-- Writing the row of a publication alone is a write of the board. -/
theorem write_publication {f : GatewayPublication → GatewayPublication} (h : s.board.Sound)
    (hp : s.publication? id = some p) (hrow : s.outbox? id = some row) (hf : (f p).id = p.id) :
    (s.setPublication id f).board = s.board.write (f p) row := by
  have hboth := write_board (g := fun row => row) h hp hrow hf
  rwa [setOutbox_self] at hboth

theorem publication?_setPublication {f : GatewayPublication → GatewayPublication}
    (hf : ∀ p, (f p).id = p.id) :
    (s.setPublication id f).publication? id = (s.publication? id).map f :=
  Rows.find?_update_same hf

end PublicationStore

/-! ## Creation -/

section Creation

variable {r : PublicationRules} {s : PublicationStore} {a : PublicationRequest}
  {manifest : ResourceManifest} {strict : Bool}

/-- A generation is larger than those that its target has. -/
theorem PublicationRequest.lt_generation {q : GatewayPublication} (hq : q ∈ s.publications)
    (hsame : q.gatewayProfileId = a.gatewayProfileId) : q.generation < a.generation s := by
  have hmem : q.generation ∈ (s.publications.filter fun p =>
      p.gatewayProfileId = a.gatewayProfileId).map GatewayPublication.generation :=
    List.mem_map_of_mem (List.mem_filter.2 ⟨hq, by simpa using hsame⟩)
  have hle : ∀ l : List ℕ, q.generation ∈ l → q.generation ≤ l.foldr max 0 := by
    intro l hl
    induction l with
    | nil => cases hl
    | cons n rest ih =>
        cases List.mem_cons.1 hl with
        | inl heq => exact heq ▸ le_max_left _ _
        | inr hrest => exact (ih hrest).trans (le_max_right _ _)
  unfold PublicationRequest.generation
  have := hle _ hmem
  omega

theorem PublicationRules.modelAdditionManifest_ok {previous : Option GatewayPublication}
    {spec : GatewayReleaseSpec} {digest : ReleaseDigest} {marker : ModelRouteAdditionMarker}
    (h : r.modelAdditionManifest previous spec digest marker = .ok manifest) :
    ∃ row, previous = some row ∧ r.ModelAdditionMatches row spec digest marker ∧
      manifest = { ResourceManifest.empty with modelRouteAddition := some marker } := by
  unfold PublicationRules.modelAdditionManifest at h
  cases previous with
  | none => cases h
  | some row =>
      dsimp only at h
      split_ifs at h with hmatches
      exact ⟨row, rfl, hmatches, (Except.ok.inj h).symm⟩

theorem PublicationRules.modelRemovalManifest_ok {previous source : Option GatewayPublication}
    {spec : GatewayReleaseSpec} {digest : ReleaseDigest} {marker : ModelRouteRemovalMarker}
    (h : r.modelRemovalManifest previous source spec digest marker = .ok manifest) :
    digest = .intent (.modelRouteRemoval marker) spec ∧
      manifest = { ResourceManifest.empty with modelRouteRemoval := some marker } ∧
      ∃ from?, source = some from? ∧ from?.status = .active ∧
        from?.resourceManifest.modelRouteAddition.isSome = true := by
  unfold PublicationRules.modelRemovalManifest at h
  cases previous with
  | none => cases h
  | some row =>
      cases source with
      | none => cases h
      | some from? =>
          dsimp only at h
          split_ifs at h with hmatches
          obtain ⟨-, -, hactive, -, hadded, -, -, -, -, -, -, -, -, -, hdigest⟩ := hmatches
          exact ⟨hdigest, (Except.ok.inj h).symm, from?, rfl, hactive, hadded⟩

theorem PublicationRules.programMigrationManifest_ok {previous : Option GatewayPublication}
    {spec : GatewayReleaseSpec} {digest : ReleaseDigest} {migration : FixedRouteMigration}
    (h : r.programMigrationManifest previous spec digest migration = .ok manifest) :
    ∃ row, previous = some row ∧
      manifest = { ResourceManifest.empty with fixedRouteMigration := some migration } := by
  unfold PublicationRules.programMigrationManifest at h
  cases previous with
  | none => cases h
  | some row =>
      dsimp only at h
      split_ifs at h with hmatches
      exact ⟨row, rfl, (Except.ok.inj h).symm⟩

/-- What the first checks say of a request with a marker. -/
theorem PublicationRequest.checkKind_ok (h : a.checkKind r = .ok ()) :
    (a.modelRemoval = true → a.publicationKind = .modelRemove) ∧
      (a.modelAddition = true → a.publicationKind = .modelAdd) := by
  unfold PublicationRequest.checkKind at h
  obtain ⟨-, -, h⟩ := Guard.bind_eq_ok.1 h
  split_ifs at h with hremoval haddition hmigration
  constructor
  · intro htrue
    by_contra hkind
    exact hremoval ⟨htrue, .inl hkind⟩
  · intro htrue
    by_contra hkind
    exact haddition ⟨htrue, .inl hkind⟩

/-- A manifest that passed its checks has one marker, that of the request, or none. -/
theorem PublicationRequest.manifest_ok {gateway : GatewayRow}
    (h : a.manifest r s gateway = .ok manifest) :
    manifest.independent = false ∨
      (∃ marker, a.modelAddition = true ∧
        manifest = { ResourceManifest.empty with modelRouteAddition := some marker } ∧
        a.desiredSpecSha256 = .intent (.modelRouteAddition marker) a.desiredSpec) ∨
      ∃ marker, a.modelRemoval = true ∧
        manifest = { ResourceManifest.empty with modelRouteRemoval := some marker } ∧
        a.desiredSpecSha256 = .intent (.modelRouteRemoval marker) a.desiredSpec ∧
        ∃ from?, s.publication? marker.sourcePublicationId = some from? ∧
          from?.status = .active ∧ from?.resourceManifest.modelRouteAddition.isSome = true := by
  unfold PublicationRequest.manifest at h
  unfold PublicationRequest.modelAddition PublicationRequest.modelRemoval
  cases hinitial : a.initialManifest with
  | none =>
      rw [hinitial] at h
      left
      rw [← Except.ok.inj h]
      rfl
  | some initial =>
      rw [hinitial] at h
      cases initial with
      | modelRouteAddition marker =>
          obtain ⟨previous, -, h⟩ := Guard.bind_eq_ok.1 h
          obtain ⟨row, -, hmatches, hmanifest⟩ := PublicationRules.modelAdditionManifest_ok h
          obtain ⟨-, -, -, -, -, -, -, -, hdigest⟩ := hmatches
          exact .inr (.inl ⟨marker, rfl, hmanifest, hdigest⟩)
      | modelRouteRemoval marker =>
          obtain ⟨hdigest, hmanifest, hsource⟩ := PublicationRules.modelRemovalManifest_ok h
          exact .inr (.inr ⟨marker, rfl, hmanifest, hdigest, hsource⟩)
      | fixedRouteMigration migration =>
          obtain ⟨row, -, hmanifest⟩ := PublicationRules.programMigrationManifest_ok h
          left
          rw [hmanifest]
          rfl
      | other details => cases h

/-- The new row of a request that passed its checks is well marked. -/
theorem PublicationRequest.wellMarked (h : a.validated r s = .ok manifest) (t : PublicationStore)
    (id : UUID) : (a.publication t manifest id).WellMarked := by
  obtain ⟨_, hkind, h⟩ := Guard.bind_eq_ok.1 h
  obtain ⟨gateway, -, h⟩ := Guard.bind_eq_ok.1 h
  obtain ⟨hremoval, haddition⟩ := checkKind_ok hkind
  change (manifest.modelRouteAddition.isSome = true → a.publicationKind = .modelAdd) ∧
    (manifest.modelRouteRemoval.isSome = true → a.publicationKind = .modelRemove) ∧
    (manifest.independent = true → ∀ detail spec, a.desiredSpecSha256 ≠ .rollback detail spec)
  rcases manifest_ok h with hnone | ⟨marker, hasked, rfl, hdigest⟩ |
    ⟨marker, hasked, rfl, hdigest, -⟩
  · have hparts : manifest.modelRouteAddition.isSome = false ∧
        manifest.modelRouteRemoval.isSome = false := by
      simpa [ResourceManifest.independent] using hnone
    simp [hparts.1, hparts.2, hnone]
  · refine ⟨fun _ => haddition hasked, fun hnone => (by cases hnone), fun _ detail spec heq => ?_⟩
    rw [hdigest] at heq
    cases heq
  · refine ⟨fun hnone => (by cases hnone), fun _ => hremoval hasked, fun _ detail spec heq => ?_⟩
    rw [hdigest] at heq
    cases heq

/-- The removal that a request asks for takes back an addition that was promoted. -/
theorem PublicationRequest.sourceSettled (h : a.validated r s = .ok manifest)
    (t : PublicationStore) (id : UUID) : s.board.SourceSettled (a.publication t manifest id) := by
  obtain ⟨_, -, h⟩ := Guard.bind_eq_ok.1 h
  obtain ⟨gateway, -, h⟩ := Guard.bind_eq_ok.1 h
  intro marker hmarker
  change manifest.modelRouteRemoval = some marker at hmarker
  rcases manifest_ok h with hnone | ⟨other, -, rfl, -⟩ |
    ⟨other, -, rfl, -, source, hsource, hactive, hadded⟩
  · unfold ResourceManifest.independent at hnone
    rw [hmarker] at hnone
    simp at hnone
  · cases hmarker
  · cases hmarker
    refine ⟨source, PublicationStore.publication?_mem hsource,
      PublicationStore.publication?_id hsource, by rw [hactive]; rfl, ?_⟩
    unfold ResourceManifest.independent
    rw [hadded]
    rfl

/-- The end of a creation inserts a row under a new identity, or changes nothing. -/
theorem insertGatewayPublication_inserts (s : PublicationStore) (fresh : UUID) (now : ℤ) :
    Meets (insertGatewayPublication r a manifest fresh now) s
      (fun p t => ∃ id, p = a.publication s manifest id ∧
        t = s.insert p a.credentialCiphertext now ∧ ¬s.Busy a.gatewayProfileId ∧
          ∀ q ∈ s.publications, q.id ≠ id)
      fun _ t => t = s := by
  simp only [insertGatewayPublication, meets_bind, meets_get, meets_require, meets_lift,
    meets_modify, meets_pure, implies_true, and_true]
  intro hfree _ _ hfresh
  exact ⟨_, rfl, trivial, hfree, Rows.find?_eq_none.1 hfresh⟩

/-- The new row is a move. -/
theorem insert_move (strict : Bool) {id : UUID} (credential : Option String) (now : ℤ)
    (hmarked : (a.publication s manifest id).WellMarked)
    (hsourced : s.board.SourceSettled (a.publication s manifest id))
    (hfree : ¬s.Busy a.gatewayProfileId) (hnew : ∀ q ∈ s.publications, q.id ≠ id) :
    Move strict s.board (s.insert (a.publication s manifest id) credential now).board :=
  .create (a.publication s manifest id) ⟨id, .queued, now, none, none, 0⟩ hnew rfl hfree
    (fun _ hq hsame => a.lt_generation hq hsame) rfl hmarked hsourced ⟨rfl, by simp; rfl⟩

/-- The end of a creation adds one publication, or changes nothing. -/
theorem insertGatewayPublication_leads (strict : Bool) (h : s.board.Sound)
    (hmarked : ∀ id, (a.publication s manifest id).WellMarked)
    (hsourced : ∀ id, s.board.SourceSettled (a.publication s manifest id)) (fresh : UUID)
    (now : ℤ) :
    Meets (insertGatewayPublication r a manifest fresh now) s
      (fun p t => s.Leads strict t ∧ t.publication? p.id = some p ∧
        p.desiredSpecSha256 = a.desiredSpecSha256)
      fun _ t => t = s := by
  refine (insertGatewayPublication_inserts s fresh now).mono (fun p t => ?_) fun _ _ ht => ht
  rintro ⟨id, rfl, rfl, hfree, hnew⟩
  have hmove := insert_move strict a.credentialCiphertext now (hmarked id) (hsourced id) hfree hnew
  refine ⟨.of_move hmove rfl rfl, ?_, rfl⟩
  refine PublicationStore.publication?_of_mem (h.move hmove) ?_
  exact List.mem_append_right _ (List.mem_singleton_self _)

end Creation

/-! ## Retries -/

section Retries

variable {r : PublicationRules} {s : PublicationStore} {p : GatewayPublication} {strict : Bool}

theorem PublicationRules.managedProgramPublication_id {previous : Option GatewayPublication}
    {config : String} {row : GatewayPublication}
    (h : r.managedProgramPublication previous config = .ok (some row)) :
    ∃ old, previous = some old ∧ old.id = row.id := by
  unfold PublicationRules.managedProgramPublication at h
  cases previous with
  | none =>
      dsimp only at h
      split_ifs at h
      cases h
  | some old =>
      obtain ⟨overlay, -, h⟩ := Guard.bind_eq_ok.1 h
      cases h
      exact ⟨old, rfl, rfl⟩

theorem PublicationStore.effective_of_effectivePublication? {target : UUID}
    (h : s.effectivePublication? target = some p) : s.effective target = some p.id := by
  obtain ⟨id, heff, hp⟩ := Option.bind_eq_some_iff.1 h
  rw [heff, publication?_id hp]

theorem PublicationRules.modelAdditionCredentialRetry_ok {previous : Option GatewayPublication}
    {marker : ModelRouteAdditionMarker} {count : ℕ} {config : String}
    (h : r.modelAdditionCredentialRetry p previous marker count config = .ok ()) :
    ∃ old, previous = some old ∧ p.baseReleaseId = some old.id := by
  obtain ⟨managed, hmanaged, h⟩ := Guard.bind_eq_ok.1 h
  cases managed with
  | none => cases h
  | some row =>
      dsimp only at h
      split at h
      next hdenied =>
        obtain ⟨-, -, -, -, -, hbase, -⟩ := hdenied
        obtain ⟨old, hold, hid⟩ := r.managedProgramPublication_id hmanaged
        exact ⟨old, hold, hid ▸ hbase⟩
      next => cases h

theorem PublicationRules.programMigrationRetry_ok {previous : Option GatewayPublication}
    {migration : FixedRouteMigration} {count : ℕ}
    (h : r.programMigrationRetry p previous migration count = .ok ()) :
    ∃ old, previous = some old ∧ p.baseReleaseId = some old.id := by
  unfold PublicationRules.programMigrationRetry at h
  cases previous with
  | none => cases h
  | some row =>
      dsimp only at h
      split at h
      next hunchanged =>
        obtain ⟨-, -, -, -, -, hbase, -⟩ := hunchanged
        exact ⟨row, rfl, hbase⟩
      next => cases h

/-- A retry with an intent checks that its base is still effective, and that its target is
idle. -/
theorem RetryRequest.checkIntent_ok {a : RetryRequest} (h : a.checkIntent r s p = .ok ())
    (hintent : p.retriesIntent = true) :
    p.baseReleaseId = s.effective p.gatewayProfileId ∧ ¬s.Busy p.gatewayProfileId := by
  unfold RetryRequest.checkIntent at h
  split_ifs at h with hplain
  obtain ⟨_, hretry, h⟩ := Guard.bind_eq_ok.1 h
  obtain ⟨_, -, hidle⟩ := Guard.bind_eq_ok.1 h
  constructor
  · have hbase : ∃ old, s.effectivePublication? p.gatewayProfileId = some old ∧
        p.baseReleaseId = some old.id := by
      unfold GatewayPublication.retriesIntent at hintent
      unfold RetryRequest.retryIntent at hretry
      cases hadd : p.resourceManifest.modelRouteAddition with
      | some marker =>
          rw [hadd] at hretry
          exact r.modelAdditionCredentialRetry_ok hretry
      | none =>
          cases hmigration : p.resourceManifest.fixedRouteMigration with
          | some migration =>
              rw [hadd, hmigration] at hretry
              exact r.programMigrationRetry_ok hretry
          | none =>
              rw [hadd, hmigration] at hintent
              cases hintent
    obtain ⟨old, hold, hid⟩ := hbase
    rw [hid, PublicationStore.effective_of_effectivePublication? hold]
  · unfold RetryRequest.checkIdle at hidle
    split at hidle
    · split_ifs at hidle with hrow
      exact hrow.2.2.2
    · cases hidle

/-- A retry without an intent checks that its target is idle. -/
theorem RetryRequest.checkPlain_ok {a : RetryRequest} {preserved : List (String × String)}
    (h : a.checkPlain r s p = .ok preserved) : ¬s.Busy p.gatewayProfileId := by
  unfold RetryRequest.checkPlain at h
  split at h
  next => cases h
  next =>
    split at h
    next => cases h
    next =>
      obtain ⟨_, -, h⟩ := Guard.bind_eq_ok.1 h
      split at h
      next => cases h
      next =>
        obtain ⟨_, -, h⟩ := Guard.bind_eq_ok.1 h
        split at h
        next => cases h
        next hfree => exact hfree

/-- What a retry without an intent writes keeps the release. -/
theorem RetryRequest.restarted_same (a : RetryRequest) (preserved : List (String × String))
    (p : GatewayPublication) : p.SameRelease (a.restarted preserved p) :=
  ⟨rfl, rfl, rfl, rfl, rfl⟩

/-- A retry leads on from a failed publication, or changes nothing. -/
theorem requeueRows_leads (strict : Bool) {id : UUID} {a : RetryRequest} (h : s.board.Sound)
    (hp : s.publication? id = some p) (hfailed : p.status = .failed)
    (hcurrent : strict = true → p.retriesIntent = false →
      p.baseReleaseId = s.effective p.gatewayProfileId) (now : ℤ) :
    Meets (requeueRows r p a now) s
      (fun _ t => s.Leads strict t ∧ ∃ q, t.publication? id = some q ∧
        (a.desiredSpecSha256 = none → q.desiredSpecSha256 = p.desiredSpecSha256))
      fun _ t => t = s := by
  have hid := PublicationStore.publication?_id hp
  obtain ⟨row, hrow⟩ := PublicationStore.exists_outbox h hp
  have hfollows := PublicationStore.follows h hp hrow
  unfold requeueRows
  rw [meets_ite]
  constructor
  · intro hintent
    simp only [requeueIntent, meets_bind, meets_get, meets_lift, meets_modify, implies_true,
      and_true]
    intro _ hcheck
    obtain ⟨hbase, hidle⟩ := RetryRequest.checkIntent_ok hcheck hintent
    have hmove : Move strict s.board (((s.setPublication p.id RetryRequest.resumed).setOutbox p.id
        fun row => { row with status := .queued, availableAt := now }).board) := by
      rw [hid, PublicationStore.write_board h hp hrow rfl]
      exact .retry p (RetryRequest.resumed p) _ (PublicationStore.publication?_mem hp) hfailed rfl
        hidle (fun _ => hbase) ⟨rfl, rfl, rfl, rfl, rfl⟩ (.inl ⟨rfl, rfl, rfl⟩)
        ⟨hfollows.1, by simp; rfl⟩
    refine ⟨.of_move hmove rfl rfl, RetryRequest.resumed p, ?_, fun _ => rfl⟩
    rw [← hid] at hp ⊢
    change (s.setPublication p.id RetryRequest.resumed).publication? p.id = _
    rw [PublicationStore.publication?_setPublication (f := RetryRequest.resumed) fun _ => rfl, hp]
    rfl
  · intro hplain
    simp only [requeuePlain, meets_bind, meets_get, meets_lift, meets_modify, meets_demand,
      implies_true, and_true]
    intro preserved hcheck
    rw [hid] at *
    refine ⟨fun _ _ => ?_, fun hnone => by rw [hrow] at hnone; cases hnone⟩
    have hmove : Move strict s.board (((s.setPublication id (a.restarted preserved)).setOutbox id
        fun row =>
          { row with
            status := .queued
            availableAt := now
            leaseOwner := none
            leaseExpiresAt := none
            attempts := 0 }).board) := by
      rw [PublicationStore.write_board h hp hrow rfl]
      exact .retry p (a.restarted preserved p) _ (PublicationStore.publication?_mem hp) hfailed
        rfl (RetryRequest.checkPlain_ok hcheck)
        (fun hstrict => hcurrent hstrict (Bool.eq_false_iff.2 hplain))
        (a.restarted_same preserved p) (.inr rfl) ⟨hfollows.1, by simp; rfl⟩
    refine ⟨.of_move hmove rfl rfl, a.restarted preserved p, ?_, fun hnone => ?_⟩
    · change (s.setPublication id (a.restarted preserved)).publication? id = _
      rw [PublicationStore.publication?_setPublication (f := a.restarted preserved) fun _ => rfl,
        hp]
      rfl
    · unfold RetryRequest.restarted
      rw [hnone]
      cases a.desiredSpec <;> rfl

theorem requeueGatewayPublication_leads (strict : Bool) {id : UUID} {a : RetryRequest}
    (h : s.board.Sound)
    (hcurrent : strict = true → ∀ p, s.publication? id = some p → p.retriesIntent = false →
      p.baseReleaseId = s.effective p.gatewayProfileId) (now : ℤ) :
    Meets (requeueGatewayPublication r id a now) s
      (fun _ t => s.Leads strict t ∧ ∃ q, t.publication? id = some q ∧
        ∀ p, s.publication? id = some p → a.desiredSpecSha256 = none →
          q.desiredSpecSha256 = p.desiredSpecSha256)
      fun _ t => t = s := by
  simp only [requeueGatewayPublication, meets_bind, meets_get, meets_demand, meets_require,
    meets_modify, implies_true, and_true]
  intro p hp hfailed
  refine (requeueRows_leads strict h hp hfailed (fun hstrict => hcurrent hstrict p hp) now).mono
    (fun _ t => ?_) fun _ _ ht => ht
  rintro ⟨hleads, q, hq, hdigest⟩
  refine ⟨hleads.trans (.of_eq rfl rfl rfl), q, hq, fun p' hp' hnone => ?_⟩
  rw [hp, Option.some.injEq] at hp'
  rw [← hp']
  exact hdigest hnone

/-! ## Creation, with what is there already -/

variable {a : PublicationRequest} {manifest : ResourceManifest}

theorem PublicationRequest.existing?_mem {existing : GatewayPublication}
    (h : a.existing? s = some existing) : existing ∈ s.publications :=
  List.mem_reverse.1 (List.mem_of_find?_eq_some h)

theorem PublicationRequest.existing?_same {existing : GatewayPublication}
    (h : a.existing? s = some existing) :
    existing.gatewayProfileId = a.gatewayProfileId ∧
      existing.desiredSpecSha256 = a.desiredSpecSha256 := by
  have hfound := List.find?_some h
  have hall := of_decide_eq_true hfound
  exact ⟨hall.1, hall.2.1⟩

/-- A creation of a new publication, from a store that leads there. -/
theorem insert_leads {t : PublicationStore} (h : s.Leads strict t) (hs : s.board.Sound)
    (hvalid : a.validated r s = .ok manifest) (fresh : Fresh) :
    Meets (do
        let publication ← insertGatewayPublication r a manifest fresh.publicationId fresh.now
        return publication.id) t
      (fun id u => s.Leads strict u ∧ ∃ q, u.publication? id = some q ∧
        q.desiredSpecSha256 = a.desiredSpecSha256)
      fun _ u => s.Leads strict u := by
  rw [meets_bind]
  have hsourced : ∀ id, t.board.SourceSettled (a.publication t manifest id) :=
    fun id marker hmarker => (a.sourceSettled hvalid t id marker hmarker).moves hs h.moves
  refine (insertGatewayPublication_leads strict (hs.moves h.moves) (a.wellMarked hvalid t)
    hsourced fresh.publicationId fresh.now).mono (fun p u => ?_) fun _ u => ?_
  · rintro ⟨hleads, hfound, hdigest⟩
    exact ⟨h.trans hleads, p, hfound, hdigest⟩
  · rintro rfl
    exact h

/-- A creation finds its release, or adds it: what it returns is a publication of it. -/
theorem createGatewayPublication_leads (strict : Bool) (h : s.board.Sound)
    (hsources : s.board.Sourced)
    (hcurrent : strict = true → ∀ p, a.existing? s = some p → p.status = .failed →
      p.retriesIntent = false → p.baseReleaseId = s.effective p.gatewayProfileId)
    (fresh : Fresh) :
    Meets (createGatewayPublication r a fresh) s
      (fun id t => s.Leads strict t ∧ ∃ q, t.publication? id = some q ∧
        q.desiredSpecSha256 = a.desiredSpecSha256)
      fun _ t => s.Leads strict t := by
  unfold createGatewayPublication
  rw [meets_bind, meets_get, meets_bind, meets_lift]
  refine ⟨fun manifest hvalid => ?_, fun _ _ => .refl s⟩
  cases hexisting : a.existing? s with
  | none => exact insert_leads (.refl s) h hvalid fresh
  | some existing =>
      have hmem := a.existing?_mem hexisting
      have hfound := PublicationStore.publication?_of_mem h hmem
      obtain ⟨row, hrow⟩ := PublicationStore.exists_outbox h hfound
      have hfollows := PublicationStore.follows h hfound hrow
      dsimp only
      rw [meets_ite]
      constructor
      · intro hremoved
        obtain ⟨-, hactive, ⟨removal, hremoval, -, -, -, hsource, -⟩, -⟩ := hremoved
        obtain ⟨marker, hmarker, hid⟩ := Option.map_eq_some_iff.1 hsource
        have hindependent : existing.resourceManifest.independent = true := by
          obtain ⟨source, hmem', hsame, -, hmarked⟩ := hsources removal hremoval marker hmarker
          rwa [h.eq_of_id hmem' hmem (hsame.trans hid)] at hmarked
        have hmove : Move strict s.board
            (s.setPublication existing.id GatewayPublication.supersede).board := by
          rw [PublicationStore.write_publication h hfound hrow rfl]
          exact .retire existing row hmem hactive hindependent
            ⟨hfollows.1, by rw [hfollows.2, hactive]; exact iff_of_true rfl rfl⟩
        rw [meets_bind, meets_modify, meets_bind, meets_modify]
        refine insert_leads ?_ h hvalid fresh
        exact (PublicationStore.Leads.of_move hmove rfl rfl).trans (.of_eq rfl rfl rfl)
      · intro _
        rw [meets_ite]
        constructor
        · intro _
          exact insert_leads (.refl s) h hvalid fresh
        · intro _
          simp only [reuseGatewayPublication, meets_bind, meets_require, meets_ite, meets_pure]
          refine ⟨fun _ => ⟨fun _ => ?_, fun hfailed => ?_⟩, fun _ => .refl s⟩
          · exact ⟨.refl s, existing, hfound, (a.existing?_same hexisting).2⟩
          · refine ⟨fun _ => ?_, fun _ => .refl s⟩
            have hstatus : existing.status = .failed := not_not.1 hfailed
            refine (requeueGatewayPublication_leads strict h
              (fun hstrict p hp => ?_) fresh.now).mono
              (fun _ t => ?_) fun _ t => ?_
            · cases hfound.symm.trans hp
              exact hcurrent hstrict existing hexisting hstatus
            · rintro ⟨hleads, q, hq, hdigest⟩
              exact ⟨hleads, q, hq, (hdigest existing hfound rfl).trans
                (a.existing?_same hexisting).2⟩
            · rintro rfl
              exact .refl _

end Retries

end Turnstile
