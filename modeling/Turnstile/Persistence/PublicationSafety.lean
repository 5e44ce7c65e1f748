import Mathlib.Data.Nat.Pairing
import Turnstile.Persistence.PublicationRuns

/-!
# What runs keep of releases

In every reachable store the publications, their outbox and the effective releases agree.
A release replaces the one that it was built on, as long as every call is current.
-/

namespace Turnstile

open Procedure ReleaseBoard PublicationStore

/-! ## The store in order -/

/-- The publications, their outbox and the effective releases agree. -/
structure PublicationStore.InOrder (s : PublicationStore) : Prop where
  one_in_flight : ∀ target, (s.publications.countP fun p =>
    p.gatewayProfileId = target ∧ p.status.inFlight = true) ≤ 1
  generations : s.publications.Pairwise fun p q =>
    p.gatewayProfileId = q.gatewayProfileId → p.generation < q.generation
  effective : ∀ target id, s.effective target = some id →
    ∃ p ∈ s.publications, p.id = id ∧ p.gatewayProfileId = target ∧ p.status = .active
  others : ∀ p ∈ s.publications, p.status = .active →
    s.effective p.gatewayProfileId = some p.id ∨
      p.resourceManifest.modelRouteAddition.isSome = true ∧ p.publicationKind = .modelAdd ∨
      p.resourceManifest.modelRouteRemoval.isSome = true ∧ p.publicationKind = .modelRemove
  distinct : (s.publications.map GatewayPublication.id).Nodup
  outbox : ∀ p ∈ s.publications, ∃ row,
    (s.outbox.filter fun row => row.publicationId = p.id) = [row] ∧
      (row.status = .completed ↔ p.status.terminal = true ∨ p.status = .awaitingAuthorization)

/-- Of rows that are all one row, there is one at most. -/
theorem countP_le_one {α : Type} {c : α → Bool} {rows : List α} (hnodup : rows.Nodup)
    (hone : ∀ a ∈ rows, ∀ b ∈ rows, c a = true → c b = true → a = b) : rows.countP c ≤ 1 := by
  rw [List.countP_eq_length_filter]
  cases hfilter : rows.filter c with
  | nil => exact Nat.zero_le _
  | cons a rest =>
      cases rest with
      | nil => exact le_rfl
      | cons b tail =>
          have ha := List.mem_filter.1 (hfilter ▸ List.mem_cons_self : a ∈ rows.filter c)
          have hb := List.mem_filter.1
            (hfilter ▸ List.mem_cons_of_mem a List.mem_cons_self : b ∈ rows.filter c)
          have hdistinct := hnodup.filter c
          rw [hfilter, List.nodup_cons] at hdistinct
          cases hone a ha.1 b hb.1 ha.2 hb.2
          exact absurd List.mem_cons_self hdistinct.1

/-- Where the keys of rows are distinct, the rows of a key that is there are one row. -/
theorem filter_key_eq_singleton {α : Type} {key : α → UUID} {rows : List α} {row : α}
    (hnodup : (rows.map key).Nodup) (hrow : row ∈ rows) :
    (rows.filter fun other => key other = key row) = [row] := by
  have hone := countP_le_one (c := fun other => decide (key other = key row)) hnodup.of_map
    fun a ha b hb hka hkb => Rows.eq_of_key hnodup ha hb
      ((of_decide_eq_true hka).trans (of_decide_eq_true hkb).symm)
  have hmem : row ∈ rows.filter fun other => key other = key row :=
    List.mem_filter.2 ⟨hrow, decide_eq_true rfl⟩
  rw [List.countP_eq_length_filter] at hone
  obtain ⟨other, hother⟩ := List.length_eq_one_iff.1
    (le_antisymm hone (List.length_pos_of_mem hmem))
  rw [hother, List.mem_singleton] at hmem
  rw [hother, hmem]

/-- A store that keeps its promises is in order. -/
theorem PublicationStore.Kept.inOrder {s : PublicationStore} (h : s.Kept) : s.InOrder where
  one_in_flight := by
    intro target
    refine countP_le_one (publications_distinct h.sound).of_map fun p hp q hq hcp hcq => ?_
    have hp' := of_decide_eq_true hcp
    have hq' := of_decide_eq_true hcq
    exact h.sound.single p hp q hq (hp'.1.trans hq'.1.symm) hp'.2 hq'.2
  generations := h.sound.ordered
  effective := by
    intro target id heff
    obtain ⟨p, hp, hid, hgateway, hactive, -⟩ := h.sound.effective target id heff
    exact ⟨p, hp, hid, hgateway, hactive⟩
  others := by
    intro p hp hactive
    rcases h.sound.active p hp hactive with heff | hindependent
    · exact .inl heff
    · obtain ⟨hadd, hremove, -⟩ := h.sound.marked p hp
      rcases Bool.or_eq_true_iff.1 hindependent with hmarker | hmarker
      · exact .inr (.inl ⟨hmarker, hadd hmarker⟩)
      · exact .inr (.inr ⟨hmarker, hremove hmarker⟩)
  distinct := publications_distinct h.sound
  outbox := by
    intro p hp
    obtain ⟨row, hrow⟩ := exists_outbox h.sound (publication?_of_mem h.sound hp)
    have hkey : row.publicationId = p.id := Rows.key_of_find? hrow
    have hmem := Rows.mem_of_find? hrow
    refine ⟨row, ?_, ?_⟩
    · rw [← hkey]
      exact filter_key_eq_singleton (outbox_distinct h.sound) hmem
    · have hrests := h.sound.outbox p hp row hmem hkey
      unfold PublicationStatus.resting at hrests
      simpa only [Bool.or_eq_true, decide_eq_true_eq] using hrests

/-- Every store that calls reach from an empty one is in order. -/
theorem reachable_store_in_order {r : PublicationRules} {s : PublicationStore}
    (h : Reachable r (fun _ _ => True) s) : s.InOrder :=
  h.kept.inOrder

/-! ## No release is lost -/

/-- Where the effective release of a target moved, it moved to a release that was built on the
one before. -/
def PublicationStore.ReplacesItsBase (s t : PublicationStore) (target : UUID) : Prop :=
  t.effective target ≠ s.effective target →
    ∃ p ∈ t.publications, t.effective target = some p.id ∧ p.gatewayProfileId = target ∧
      p.baseReleaseId = s.effective target

section Based

variable {r : PublicationRules} {s : PublicationStore}

/-- In a run of current calls every publication in flight is built on the effective release. -/
theorem PublicationStore.Reachable.based
    (h : Reachable r (fun s call => call.Current s) s) : s.board.Based := by
  induction h with
  | empty s hempty =>
      intro p hp
      change p ∈ s.publications at hp
      rw [hempty.1] at hp
      cases hp
  | call s call hreach promised hcurrent ih =>
      have hkept := hreach.kept
      have hmoved : s.Moved true ((call.perform r).after s) := after_of_meets
        (call.perform_moved true hkept promised fun _ => hcurrent)
      exact ih.moves hkept.sound hmoved.moves

/-- An activation on a board where the publications in flight are built on the effective
release moves the release to one that was built on it. -/
theorem PublicationStore.Activates.replacesItsBase {t : PublicationStore} {id : UUID}
    (h : s.Activates r id t.board) (hbased : s.board.Based) (target : UUID) :
    s.ReplacesItsBase t target := by
  intro hmoved
  have heffective : t.board.effective target ≠ s.board.effective target := hmoved
  change ∃ p ∈ t.board.publications, t.board.effective target = some p.id ∧ _ ∧ _
  generalize t.board = b at h heffective
  cases h with
  | already => exact absurd rfl heffective
  | stand p row found queued status independent => exact absurd rfl heffective
  | promote p row found queued status plain =>
      have htarget : target = p.gatewayProfileId := by
        by_contra hne
        exact heffective (Function.update_of_ne hne _ _)
      subst htarget
      refine ⟨p.activated, List.mem_map.2 ⟨p, publication?_mem found, if_pos rfl⟩,
        Function.update_self _ _ _, rfl, ?_⟩
      exact hbased p (publication?_mem found) (by rw [status]; rfl)

/-- No release is lost: as long as every call is current, an activation replaces only the
release that its publication was built on. -/
theorem activation_replaces_its_base (h : Reachable r (fun s call => call.Current s) s)
    (id : UUID) (actor : String) (validate : Option ModelActivationValidator) (fresh : FreshRows)
    (now : ℤ) (target : UUID) :
    s.ReplacesItsBase ((activateGatewayPublication r id actor validate fresh now).after s)
      target := by
  refine after_of_meets (I := fun t => s.ReplacesItsBase t target)
    ((activateGatewayPublication_meets h.kept.sound actor validate fresh now).mono
      (fun _ t ht => ht.1.replacesItsBase h.based target) fun _ t ht => ?_)
  intro hmoved
  exact absurd (congrFun (congrArg ReleaseBoard.effective ht.board) target) hmoved

end Based

/-! ## A release that is lost -/

/-- A call that promises nothing of the store, and that is current in every one. -/
def PublicationCall.plain : PublicationCall → Bool
  | claim .. => true
  | transition _ expected status updates _ _ =>
      decide (expected.LeadsTo status) && updates.resourceManifest.isNone
  | activate .. => true
  | _ => false

/-- Calls that promise nothing lead on. -/
theorem PublicationStore.Reachable.calls {r : PublicationRules}
    {allowed : PublicationStore → PublicationCall → Prop}
    (hallowed : ∀ s call, call.Current s → allowed s call) (calls : List PublicationCall)
    (hplain : calls.all PublicationCall.plain = true) {s : PublicationStore}
    (h : Reachable r allowed s) :
    Reachable r allowed (calls.foldl (fun s call => (call.perform r).after s) s) := by
  induction calls generalizing s with
  | nil => exact h
  | cons call rest ih =>
      rw [List.all_cons, Bool.and_eq_true] at hplain
      refine ih hplain.2 (.call s call h ?_ (hallowed s call ?_))
      · cases call with
        | transition id expected status updates actor now =>
            intro p _
            obtain ⟨hleads, hnone⟩ := Bool.and_eq_true_iff.1 hplain.1
            refine ⟨of_decide_eq_true hleads, fun manifest hmanifest => ?_⟩
            rw [Option.isNone_iff_eq_none.1 hnone] at hmanifest
            cases hmanifest
        | claim worker leaseSeconds now => trivial
        | activate id actor validate fresh now => trivial
        | _ => cases hplain.1
      · cases call with
        | transition id expected status updates actor now => trivial
        | claim worker leaseSeconds now => trivial
        | activate id actor validate fresh now => trivial
        | _ => cases hplain.1

namespace Sample

/-- Rules for texts that are compared as they are, and for releases without a program. -/
def publicationRules : PublicationRules where
  casefold := id
  stripSlashes := id
  specAccepted _ := true
  digestText _ := "digest"
  isDigest text := text = "digest"
  managedInitialization _ := false
  managedProgram p _ := .ok ⟨p.apimRevision, p.policySha256, p.resourceManifest⟩
  initializationConfig := id
  programUpgrade _ := none
  migrationMatches _ _ _ := false
  credentialReadDenied _ _ := false
  preparationFailed _ := false
  additionDenied _ _ := false
  preparationValid _ _ _ := false
  activationConfirmed _ := false
  preservedFields _ _ _ _ _ := .ok []
  publicationModelId id _ := 1000 + id
  routeBindingId model target := Nat.pair model target
  activatedRuntimeCredentials config _ _ := config
  activationRuntimeConfig binding := ⟨true, binding.namedValueName, binding.runtimeConfig⟩
  migrationActivation _ _ := .ok ()

/-- A target without releases. -/
def emptyStore : PublicationStore where
  registry := ⟨[⟨1, true, true, "{}"⟩], [1], [], [], [], [], [], [], none, []⟩
  publications := []
  outbox := []
  secrets := []
  effective _ := none
  audit := []
  operations := []
  operationAudit := []
  rollouts := []
  rolloutChildren := []
  billableProbes := []

/-- A model of its own provider and runtime, without credentials. -/
def modelBinding (name : String) : GatewayModelBinding where
  model := ⟨name, ""⟩
  logicalModelId := none
  providerId := none
  providerName := name
  providerKind := "openai"
  providerConfig := "{}"
  runtimeId := none
  runtimeName := name
  runtimeConfig := "{}"
  authStrategy := .other "managed_identity"
  namedValueName := none
  keyVaultSecretId := none
  deploymentScope := ⟨false, []⟩

/-- A release with one model. -/
def modelRelease (name : String) : GatewayReleaseSpec where
  gatewayProfileId := 1
  bindings := [modelBinding name]
  discoveryModelIds := [name]
  removedModels := []
  gatewayDeployments := []

/-- The request to add a model. -/
def addRequest (name : String) : PublicationRequest where
  gatewayProfileId := 1
  desiredSpec := modelRelease name
  desiredSpecSha256 := .release (modelRelease name)
  publicationKind := .modelAdd
  createdBy := "owner"
  credentialCiphertext := none
  expectedBaseReleaseId := none
  initialManifest := none

/-- A transition that updates nothing. -/
def move (id : UUID) (expected status : PublicationStatus) : List PublicationCall :=
  [.claim "worker" 180 0, .transition id expected status ⟨none, none, none, none, none⟩ "worker" 0]

/-- What a worker does with a publication that it completes. -/
def promotion (id : UUID) : List PublicationCall :=
  move id .queued .validating ++ move id .validating .provisioning ++
    move id .provisioning .buildingRevision ++ move id .buildingRevision .verifying ++
    move id .verifying .promoting ++ [.claim "worker" 180 0]

/-- The activation that ends it. -/
def activation (id : UUID) : PublicationCall :=
  .activate id "worker" none ⟨10 * id, 10 * id + 1⟩ 0

/-- The owner's retry of the first publication, with the release that it has. -/
def retry : PublicationCall :=
  .requeue 2 ⟨"owner", none, some (modelRelease "first"), some (.release (modelRelease "first")),
    none, ""⟩ 0

/-- Calls in turn. -/
def calls (s : PublicationStore) (calls : List PublicationCall) : PublicationStore :=
  calls.foldl (fun s call => (call.perform publicationRules).after s) s

/-- The first publication fails. -/
def failedStore : PublicationStore :=
  calls emptyStore (.create (addRequest "first") ⟨2, "", 0⟩ :: move 2 .queued .failed)

/-- The second one is about to be activated. -/
def promotingStore : PublicationStore :=
  calls failedStore (.create (addRequest "second") ⟨3, "", 0⟩ :: promotion 3)

/-- The second one is active. -/
def secondStore : PublicationStore :=
  calls promotingStore [activation 3]

/-- The first one is about to be activated after a retry. -/
def retriedStore : PublicationStore :=
  calls secondStore (retry :: promotion 2)

theorem emptyStore_empty : emptyStore.Empty :=
  ⟨rfl, rfl, fun _ => rfl, rfl⟩

/-- A creation that finds no publication of its release is current. -/
theorem create_reachable {s : PublicationStore} {request : PublicationRequest} {fresh : Fresh}
    (h : Reachable publicationRules (fun s call => call.Current s) s)
    (hnone : request.existing? s = none) :
    Reachable publicationRules (fun s call => call.Current s)
      (((PublicationCall.create request fresh).perform publicationRules).after s) := by
  refine .call s (.create request fresh) h trivial fun p hp => ?_
  rw [hnone] at hp
  cases hp

theorem failedStore_reachable :
    Reachable publicationRules (fun s call => call.Current s) failedStore :=
  (create_reachable (.empty _ emptyStore_empty) rfl).calls (fun _ _ h => h) _ (by decide)

theorem promotingStore_reachable :
    Reachable publicationRules (fun s call => call.Current s) promotingStore :=
  (create_reachable failedStore_reachable (by decide +kernel)).calls (fun _ _ h => h) _
    (by decide)

theorem secondStore_reachable :
    Reachable publicationRules (fun s call => call.Current s) secondStore :=
  promotingStore_reachable.calls (fun _ _ h => h) [activation 3] (by decide)

/-- What is reachable by current calls is reachable. -/
theorem reachable_of_current {s : PublicationStore}
    (h : Reachable publicationRules (fun s call => call.Current s) s) :
    Reachable publicationRules (fun _ _ => True) s := by
  induction h with
  | empty s h => exact .empty s h
  | call s call _ promised _ ih => exact .call s call ih promised trivial

theorem retriedStore_reachable : Reachable publicationRules (fun _ _ => True) retriedStore := by
  have hretried : Reachable publicationRules (fun _ _ => True)
      ((retry.perform publicationRules).after secondStore) :=
    .call _ _ (reachable_of_current secondStore_reachable) trivial trivial
  exact hretried.calls (fun _ _ _ => trivial) (promotion 2) (by decide)

end Sample

theorem second_store_in_order : Sample.secondStore.InOrder :=
  reachable_store_in_order (Sample.reachable_of_current Sample.secondStore_reachable)

theorem second_release_replaces_its_base :
    Sample.promotingStore.ReplacesItsBase ((activateGatewayPublication Sample.publicationRules 3
      "worker" none ⟨30, 31⟩ 0).after Sample.promotingStore) 1 ∧
    Sample.secondStore.effective 1 ≠ Sample.promotingStore.effective 1 :=
  ⟨activation_replaces_its_base Sample.promotingStore_reachable 3 "worker" none ⟨30, 31⟩ 0 1,
    by decide +kernel⟩

/-- A publication that failed before another release was activated drops that release when it
is tried again. -/
theorem retried_release_drops_the_one_before :
    ¬∀ s, Reachable Sample.publicationRules (fun _ _ => True) s →
      ∀ id actor validate fresh now target,
        s.ReplacesItsBase
          ((activateGatewayPublication Sample.publicationRules id actor validate fresh now).after s)
          target := by
  intro hall
  have hkept := hall _ Sample.retriedStore_reachable 2 "worker" none ⟨20, 21⟩ 0 1
  have hmoved : ((activateGatewayPublication Sample.publicationRules 2 "worker" none ⟨20, 21⟩
      0).after Sample.retriedStore).effective 1 ≠ Sample.retriedStore.effective 1 := by
    decide +kernel
  obtain ⟨p, hp, -, -, hbase⟩ := hkept hmoved
  have hnone : ∀ p ∈ ((activateGatewayPublication Sample.publicationRules 2 "worker" none ⟨20, 21⟩
      0).after Sample.retriedStore).publications,
      p.baseReleaseId ≠ Sample.retriedStore.effective 1 := by
    decide +kernel
  exact hnone p hp hbase

end Turnstile
