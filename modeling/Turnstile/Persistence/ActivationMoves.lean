import Turnstile.Persistence.WorkerMoves

/-!
# Activations and rollbacks as moves

An activation first changes the registry and then the releases.  Where it raises, it has
not come to the releases.
-/

namespace Turnstile

open Procedure ReleaseBoard PublicationStore

/-! ## The registry -/

/-- Only the registry differs. -/
def PublicationStore.OnlyRegistry (s t : PublicationStore) : Prop :=
  { t with registry := s.registry } = s

section Registry

variable {r : PublicationRules} {s t : PublicationStore}

namespace PublicationStore

@[simp] theorem OnlyRegistry.refl (s : PublicationStore) : s.OnlyRegistry s := rfl

/-- A change of the registry is one. -/
@[simp] theorem onlyRegistry_setRegistry {f : GatewayRegistry → GatewayRegistry} :
    s.OnlyRegistry (t.setRegistry f) ↔ s.OnlyRegistry t := Iff.rfl

theorem OnlyRegistry.board (h : s.OnlyRegistry t) : t.board = s.board := by
  rw [← h]
  rfl

theorem OnlyRegistry.operations (h : s.OnlyRegistry t) : t.operations = s.operations := by
  rw [← h]

theorem OnlyRegistry.publication? (h : s.OnlyRegistry t) (id : UUID) :
    t.publication? id = s.publication? id := by
  rw [← h]
  rfl

end PublicationStore

theorem upsertApimTargetRouteBinding_registry (route : ApimTargetRouteBinding) :
    Keeps s.OnlyRegistry (upsertApimTargetRouteBinding route) := by
  intro t ht
  simp only [upsertApimTargetRouteBinding, meets_bind, meets_get, meets_lift, meets_modify,
    onlyRegistry_setRegistry]
  exact ⟨fun _ _ => ht, fun _ _ => ht⟩

theorem syncBinding_registry (p : GatewayPublication) (binding : GatewayModelBinding) :
    Keeps s.OnlyRegistry (syncBinding r p binding) := by
  intro t ht
  simp only [syncBinding, meets_bind, meets_get, meets_lift]
  refine ⟨fun model _ => ⟨fun runtime _ => ?_, fun _ _ => ht⟩, fun _ _ => ht⟩
  exact upsertApimTargetRouteBinding_registry _ t ht

theorem syncActiveRouteBindings_registry (p : GatewayPublication) :
    Keeps s.OnlyRegistry (syncActiveRouteBindings r p) := by
  intro t ht
  simp only [syncActiveRouteBindings, meets_bind, meets_get, meets_ite, meets_pure]
  refine ⟨fun _ => ?_, fun _ => ht⟩
  exact meets_each ht fun binding _ u hu => syncBinding_registry p binding u hu

theorem removeModel_registry (p : GatewayPublication) :
    Keeps s.OnlyRegistry (removeModel r p) := by
  intro t ht
  simp only [removeModel, meets_bind, meets_get, meets_demand, meets_require, meets_modify]
  refine ⟨fun target _ => ⟨fun model _ => ⟨fun _ => ⟨fun _ => ?_, fun _ => ht⟩, fun _ => ht⟩,
    fun _ => ht⟩, fun _ => ht⟩
  cases (t.setRegistry _).registry.selectedRoute? target.modelId with
  | none => simpa using ht
  | some selected =>
      simp only [meets_bind, meets_modify, meets_demand, onlyRegistry_setRegistry]
      exact ⟨fun _ _ => ⟨fun _ _ => ht, fun _ => ht⟩, fun _ => ht⟩

theorem rotateCredential_registry (p : GatewayPublication) (binding : GatewayModelBinding) :
    Keeps s.OnlyRegistry (rotateCredential r p binding) := by
  intro t ht
  simp only [rotateCredential, meets_bind, meets_get, meets_demand, meets_require, meets_modify,
    onlyRegistry_setRegistry]
  exact ⟨fun _ _ => ⟨fun _ => ht, fun _ => ht⟩, fun _ => ht⟩

theorem activatedProvider_registry (binding : GatewayModelBinding) (casefold : String → String)
    (fresh : FreshRows) : Keeps s.OnlyRegistry (activatedProvider binding casefold fresh) := by
  intro t ht
  unfold activatedProvider
  rw [meets_bind, meets_get]
  cases binding.providerId with
  | some id =>
      dsimp only
      rw [meets_demand]
      exact ⟨fun _ _ => ht, fun _ => ht⟩
  | none =>
      dsimp only
      split
      · simp only [meets_bind, meets_require, meets_pure]
        exact ⟨fun _ => ht, fun _ => ht⟩
      · simpa only [meets_bind, meets_modify, meets_pure, onlyRegistry_setRegistry] using ht

theorem activatedRuntime_registry (p : GatewayPublication) (binding : GatewayModelBinding)
    (provider : ProviderRow) (fresh : FreshRows) :
    Keeps s.OnlyRegistry (activatedRuntime r p binding provider fresh) := by
  intro t ht
  unfold activatedRuntime
  rw [meets_bind, meets_get]
  cases binding.runtimeId with
  | some id =>
      simp only [meets_bind, meets_demand, meets_require, meets_modify, meets_pure,
        onlyRegistry_setRegistry]
      exact ⟨fun _ _ => ⟨fun _ => ht, fun _ => ht⟩, fun _ => ht⟩
  | none => simpa only [meets_bind, meets_modify, meets_pure, onlyRegistry_setRegistry] using ht

theorem activatedModel_registry (p : GatewayPublication) (binding : GatewayModelBinding)
    (provider : ProviderRow) (runtime : RuntimeRow) :
    Keeps s.OnlyRegistry (activatedModel r p binding provider runtime) := by
  intro t ht
  unfold activatedModel
  rw [meets_bind, meets_get]
  split
  · simp only [meets_bind, meets_require]
    exact ⟨fun _ => ⟨fun _ => ht, fun _ => ht⟩, fun _ => ht⟩
  · simpa only [meets_modify, onlyRegistry_setRegistry] using ht

theorem addModel_registry (p : GatewayPublication) (binding : GatewayModelBinding)
    (fresh : FreshRows) : Keeps s.OnlyRegistry (addModel r p binding fresh) :=
  (activatedProvider_registry binding r.casefold fresh).bind fun provider =>
    (activatedRuntime_registry p binding provider fresh).bind fun runtime =>
      activatedModel_registry p binding provider runtime

end Registry

/-! ## The release -/

section Release

variable {r : PublicationRules} {s t : PublicationStore} {p : GatewayPublication}
  {row : PublicationOutbox}

/-- The publication when it is active. -/
def GatewayPublication.activated (p : GatewayPublication) : GatewayPublication :=
  { p with status := .active }

/-- The outbox row of a publication that is active. -/
def PublicationOutbox.activated (row : PublicationOutbox) : PublicationOutbox :=
  { row with status := .completed }

/-- The publications where the release of the target gave way to `p`. -/
def PublicationStore.givenWay (s : PublicationStore) (r : PublicationRules)
    (p : GatewayPublication) : PublicationStore :=
  { s with
    publications := s.publications.map fun q =>
      if s.effective p.gatewayProfileId = some q.id ∨ Absorbed r.casefold p q then q.supersede
      else q
    effective := Function.update s.effective p.gatewayProfileId (some p.id) }

/-- The release before the publication is superseded: it is there, and it is another one. -/
theorem supersedePrevious_meets (h : s.board.Sound) (hp : s.publication? p.id = some p)
    (hstatus : p.status = .promoting) :
    Meets (supersedePrevious p) s
      (fun _ t => t =
        { s with
          publications := s.publications.map fun q =>
            if s.effective p.gatewayProfileId = some q.id then q.supersede else q })
      fun _ _ => False := by
  unfold supersedePrevious
  rw [meets_bind, meets_get]
  cases heff : s.effective p.gatewayProfileId with
  | none =>
      rw [meets_pure]
      simp
  | some previous =>
      have hne : previous ≠ p.id := by
        rintro rfl
        refine h.not_effective (publication?_mem hp) (fun hactive => ?_) _ heff
        rw [hstatus] at hactive
        cases hactive
      obtain ⟨old, hold, hid, -⟩ := h.effective _ _ heff
      dsimp only
      rw [if_neg hne, meets_bind, meets_demand]
      refine ⟨fun _ _ => ?_, fun hnone => ?_⟩
      · rw [meets_modify]
        unfold setPublication
        rw [Rows.update_eq_map (publications_distinct h)]
        simp only [Option.some.injEq, eq_comm]
      · exact Rows.find?_eq_none.1 hnone old hold hid

/-- A release that was superseded is not absorbed as well. -/
theorem supersede_absorbed (casefold : String → String) (p : GatewayPublication) (c : Prop)
    [Decidable c] (q : GatewayPublication) :
    (if Absorbed casefold p (if c then q.supersede else q) then
        (if c then q.supersede else q : GatewayPublication).supersede
      else if c then q.supersede else q) =
      if c ∨ Absorbed casefold p q then q.supersede else q := by
  by_cases hc : c
  · have hnot : ¬Absorbed casefold p q.supersede := by
      rintro ⟨-, -, hstatus, -⟩
      cases hstatus
    simp only [hc, if_true, if_neg hnot, true_or]
  · simp only [hc, if_false, false_or]

theorem replaceEffective_meets (h : s.board.Sound) (hp : s.publication? p.id = some p)
    (hstatus : p.status = .promoting) (hplain : p.resourceManifest.independent = false) :
    Meets (replaceEffective r p) s (fun _ t => t = s.givenWay r p) fun _ _ => False := by
  unfold replaceEffective
  rw [meets_bind]
  refine (supersedePrevious_meets h hp hstatus).mono (fun _ t => ?_) fun _ _ hf => hf
  rintro rfl
  simp only [meets_bind, meets_modify, supersedeAbsorbedModelAdditions, hplain]
  unfold givenWay
  rw [if_neg Bool.false_ne_true]
  simp only [List.map_map, Function.comp_def, supersede_absorbed]

/-- A publication that is promoting gives way to none. -/
theorem not_gives_way (h : s.board.Sound) (hp : s.publication? p.id = some p)
    (hstatus : p.status = .promoting) (casefold : String → String) :
    ¬(s.effective p.gatewayProfileId = some p.id ∨ Absorbed casefold p p) := by
  rintro (heff | habsorbed)
  · refine h.not_effective (publication?_mem hp) (fun hactive => ?_) _ heff
    rw [hstatus] at hactive
    cases hactive
  · exact habsorbed.2.1 rfl

/-- The end of an activation writes both rows of the publication. -/
theorem recordActivation_meets (hrow : s.outbox? p.id = some row) (entries : ℕ) (actor : String) :
    Meets (recordActivation p entries actor) s
      (fun _ t =>
        t = ((s.setPublication p.id GatewayPublication.activated).setOutbox p.id
          PublicationOutbox.activated).record
            (List.replicate entries ⟨p.id, some .promoting, .active, actor, false⟩))
      fun _ _ => False := by
  simp only [recordActivation, meets_bind, meets_modify, meets_get, meets_demand]
  refine ⟨fun _ _ => rfl, fun hnone => ?_⟩
  cases hrow.symm.trans hnone

/-- A publication that stands beside the effective release writes its own rows only. -/
theorem stand_board (h : s.board.Sound) (hp : s.publication? p.id = some p)
    (hrow : s.outbox? p.id = some row) :
    ((s.setPublication p.id GatewayPublication.activated).setOutbox p.id
      PublicationOutbox.activated).board = s.board.write p.activated row.activated :=
  write_board h hp hrow rfl

/-- A publication that becomes the release writes its rows where the release before it, and
what it absorbs, gave way. -/
theorem promote_board (h : s.board.Sound) (hp : s.publication? p.id = some p)
    (hrow : s.outbox? p.id = some row) (hstatus : p.status = .promoting) :
    (((s.givenWay r p).setPublication p.id GatewayPublication.activated).setOutbox p.id
      PublicationOutbox.activated).board =
      s.board.promote p.activated row.activated fun q => Absorbed r.casefold p q := by
  have hids : (s.givenWay r p).publications.map GatewayPublication.id =
      s.publications.map GatewayPublication.id := by
    unfold givenWay
    rw [List.map_map]
    refine List.map_congr_left fun q _ => ?_
    rw [Function.comp_apply]
    split_ifs <;> rfl
  have hpublications : Rows.update GatewayPublication.id p.id GatewayPublication.activated
      (s.givenWay r p).publications = (s.board.promote p.activated row.activated fun q =>
        Absorbed r.casefold p q).publications := by
    rw [Rows.update_eq_map (hids ▸ publications_distinct h)]
    unfold givenWay ReleaseBoard.promote
    rw [List.map_map]
    refine List.map_congr_left fun q hq => ?_
    simp only [Function.comp_apply, decide_eq_true_eq]
    by_cases hid : q.id = p.id
    · cases Rows.eq_of_key (publications_distinct h) hq (publication?_mem hp) hid
      rw [if_neg (not_gives_way h hp hstatus r.casefold), if_pos rfl]
      exact (if_pos rfl).symm
    · have hkept : (if s.effective p.gatewayProfileId = some q.id ∨ Absorbed r.casefold p q then
          q.supersede else q).id ≠ p.id := by
        split_ifs <;> exact hid
      rw [if_neg hkept]
      exact (if_neg hid).symm
  have houtbox : Rows.update PublicationOutbox.publicationId p.id PublicationOutbox.activated
      s.outbox = s.outbox.map fun other =>
        if other.publicationId = p.activated.id then row.activated else other := by
    rw [Rows.update_eq_map (outbox_distinct h)]
    refine List.map_congr_left fun other hother => ?_
    split_ifs with hkey
    · rw [Rows.eq_of_key (outbox_distinct h) hother (Rows.mem_of_find? hrow)
        (hkey.trans (Rows.key_of_find? hrow).symm)]
    · exact absurd hkey ‹_›
    · exact absurd ‹_› hkey
    · rfl
  change ReleaseBoard.mk (Rows.update _ _ _ (s.givenWay r p).publications)
    (Rows.update _ _ _ s.outbox) (Function.update _ _ _) = _
  rw [hpublications, houtbox]
  rfl

end Release

/-! ## Activations -/

namespace GatewayPublication

variable {p : GatewayPublication}

/-- A removal stands beside the effective release when its own marker says so. -/
theorem WellMarked.independent_remove (h : p.WellMarked)
    (hkind : p.publicationKind = .modelRemove) :
    p.resourceManifest.independent = p.resourceManifest.modelRouteRemoval.isSome := by
  unfold ResourceManifest.independent
  cases hadd : p.resourceManifest.modelRouteAddition with
  | none => rfl
  | some marker =>
      have := h.1 (by rw [hadd]; rfl)
      rw [hkind] at this
      cases this

/-- An addition stands beside the effective release when its own marker says so. -/
theorem WellMarked.independent_add (h : p.WellMarked) (hkind : p.publicationKind = .modelAdd) :
    p.resourceManifest.independent = p.resourceManifest.modelRouteAddition.isSome := by
  unfold ResourceManifest.independent
  cases hremove : p.resourceManifest.modelRouteRemoval with
  | none => rw [Option.isSome_none, Bool.or_false]
  | some marker =>
      have := h.2.1 (by rw [hremove]; rfl)
      rw [hkind] at this
      cases this

/-- Other publications become the release of their target. -/
theorem WellMarked.not_independent (h : p.WellMarked) (hremove : p.publicationKind ≠ .modelRemove)
    (hadd : p.publicationKind ≠ .modelAdd) : p.resourceManifest.independent = false := by
  rw [Bool.eq_false_iff]
  intro hindependent
  rcases Bool.or_eq_true_iff.1 hindependent with hmarker | hmarker
  · exact hadd (h.1 hmarker)
  · exact hremove (h.2.1 hmarker)

end GatewayPublication

/-- What an activation that returns has done to the board. -/
inductive PublicationStore.Activates (r : PublicationRules) (s : PublicationStore) (id : UUID) :
    ReleaseBoard → Prop
  | already : Activates r s id s.board
  | stand (p : GatewayPublication) (row : PublicationOutbox) (found : s.publication? id = some p)
      (queued : s.outbox? id = some row) (status : p.status = .promoting)
      (independent : p.resourceManifest.independent = true) :
      Activates r s id (s.board.write p.activated row.activated)
  | promote (p : GatewayPublication) (row : PublicationOutbox) (found : s.publication? id = some p)
      (queued : s.outbox? id = some row) (status : p.status = .promoting)
      (plain : p.resourceManifest.independent = false) :
      Activates r s id (s.board.promote p.activated row.activated fun q => Absorbed r.casefold p q)

section Activations

variable {r : PublicationRules} {s t : PublicationStore} {p : GatewayPublication} {id : UUID}

namespace PublicationStore

theorem OnlyRegistry.outbox? (h : s.OnlyRegistry t) (id : UUID) :
    t.outbox? id = s.outbox? id := by
  rw [← h]
  rfl

/-- An activation is a move, or none. -/
theorem Activates.moves {b : ReleaseBoard} (h : s.Activates r id b) (hs : s.board.Sound)
    (strict : Bool) : ReleaseBoard.Moves strict s.board b := by
  cases h with
  | already => exact .refl
  | stand p row found queued status independent =>
      refine .single (.stand p _ _ (publication?_mem found) status rfl independent
        ⟨rfl, rfl, rfl, rfl, rfl⟩ (.inl ⟨rfl, rfl, rfl⟩) ?_)
      exact ⟨(follows hs found queued).1, iff_of_true rfl rfl⟩
  | promote p row found queued status plain =>
      refine .single (.promote p _ _ _ (publication?_mem found) status rfl plain
        ⟨rfl, rfl, rfl, rfl, rfl⟩ (fun item habsorbed => ?_) ?_)
      · have hitem := of_decide_eq_true habsorbed
        exact ⟨hitem.2.2.1, hitem.1⟩
      · exact ⟨(follows hs found queued).1, iff_of_true rfl rfl⟩

end PublicationStore

/-- The end of an activation that stands beside the effective release. -/
theorem recordActivation_stands (hs : s.board.Sound) (ht : s.OnlyRegistry t)
    (hp : s.publication? p.id = some p) (hstatus : p.status = .promoting)
    (hindependent : p.resourceManifest.independent = true) (entries : ℕ) (actor : String) :
    Meets (recordActivation p entries actor) t
      (fun _ u => s.Activates r p.id u.board ∧ u.operations = s.operations)
      fun _ _ => False := by
  obtain ⟨row, hrow⟩ := exists_outbox hs hp
  have hsound : t.board.Sound := ht.board ▸ hs
  have htp : t.publication? p.id = some p := (ht.publication? p.id).trans hp
  have htrow : t.outbox? p.id = some row := (ht.outbox? p.id).trans hrow
  refine (recordActivation_meets htrow entries actor).mono (fun _ u => ?_) fun _ _ hf => hf
  rintro rfl
  refine ⟨?_, ht.operations⟩
  change s.Activates r p.id ((t.setPublication p.id GatewayPublication.activated).setOutbox p.id
    PublicationOutbox.activated).board
  rw [stand_board hsound htp htrow, ht.board]
  exact .stand p row hp hrow hstatus hindependent

/-- The end of an activation that moves the effective release. -/
theorem recordActivation_promotes (hs : s.board.Sound) (ht : s.OnlyRegistry t)
    (hp : s.publication? p.id = some p) (hstatus : p.status = .promoting)
    (hplain : p.resourceManifest.independent = false) (entries : ℕ) (actor : String) :
    Meets (do replaceEffective r p; recordActivation p entries actor) t
      (fun _ u => s.Activates r p.id u.board ∧ u.operations = s.operations)
      fun _ _ => False := by
  obtain ⟨row, hrow⟩ := exists_outbox hs hp
  have hsound : t.board.Sound := ht.board ▸ hs
  have htp : t.publication? p.id = some p := (ht.publication? p.id).trans hp
  have htrow : t.outbox? p.id = some row := (ht.outbox? p.id).trans hrow
  rw [meets_bind]
  refine (replaceEffective_meets (r := r) hsound htp hstatus hplain).mono (fun _ u => ?_)
    fun _ _ hf => hf
  rintro rfl
  refine (recordActivation_meets (s := t.givenWay r p) htrow entries actor).mono (fun _ u => ?_)
    fun _ _ hf => hf
  rintro rfl
  refine ⟨?_, ht.operations⟩
  change s.Activates r p.id (((t.givenWay r p).setPublication p.id
    GatewayPublication.activated).setOutbox p.id PublicationOutbox.activated).board
  rw [promote_board hsound htp htrow hstatus, ht.board]
  exact .promote p row hp hrow hstatus hplain

/-- The routes of the release are written, and it becomes the effective one. -/
theorem syncAndReplace_meets (hs : s.board.Sound) (ht : s.OnlyRegistry t)
    (hp : s.publication? p.id = some p) (hstatus : p.status = .promoting)
    (hplain : p.resourceManifest.independent = false) (entries : ℕ) (actor : String) :
    Meets
      (do
        syncActiveRouteBindings r p
        replaceEffective r p
        recordActivation p entries actor) t
      (fun _ u => s.Activates r p.id u.board ∧ u.operations = s.operations)
      fun _ u => s.OnlyRegistry u := by
  rw [meets_bind]
  refine (syncActiveRouteBindings_registry p t ht).mono (fun _ u hu => ?_) fun _ _ hu => hu
  exact (recordActivation_promotes hs hu hp hstatus hplain entries actor).mono
    (fun _ _ h => h) fun _ _ hf => hf.elim

/-- An activation that returns has moved the board once at most; where it raises it has
changed the registry only. -/
theorem activateGatewayPublication_meets (hs : s.board.Sound) (actor : String)
    (validate : Option ModelActivationValidator) (fresh : FreshRows) (now : ℤ) :
    Meets (activateGatewayPublication r id actor validate fresh now) s
      (fun _ t => s.Activates r id t.board ∧ t.operations = s.operations)
      fun _ t => s.OnlyRegistry t := by
  unfold activateGatewayPublication
  rw [meets_bind, meets_get, meets_bind, meets_demand]
  refine ⟨fun p hfound => ?_, fun _ => .refl s⟩
  have hid := publication?_id hfound
  subst hid
  have hmarked := hs.marked p (publication?_mem hfound)
  rw [meets_ite]
  refine ⟨fun _ => ⟨.already, rfl⟩, fun _ => ?_⟩
  rw [meets_bind, meets_lift]
  refine ⟨fun _ hcheck => ?_, fun _ _ => .refl s⟩
  have hstatus : p.status = .promoting := by
    unfold checkActivation at hcheck
    split at hcheck
    next => cases hcheck
    next =>
      split at hcheck
      next => cases hcheck
      next hpromoting => exact not_not.1 hpromoting
  rw [meets_ite]
  constructor
  · intro hkind
    have hindependent := hmarked.independent_remove hkind
    rw [meets_bind]
    refine (removeModel_registry p s (.refl s)).mono (fun _ t ht => ?_) fun _ _ ht => ht
    rw [meets_ite]
    constructor
    · intro hmarker
      exact (recordActivation_stands hs ht hfound hstatus (hindependent.trans hmarker) 1 actor).mono
        (fun _ _ h => h) fun _ _ hf => hf.elim
    · intro hmarker
      exact syncAndReplace_meets hs ht hfound hstatus
        (hindependent.trans (Bool.eq_false_iff.2 hmarker)) 1 actor
  · intro hremove
    rw [meets_ite]
    constructor
    · intro hkind
      have hadd : p.publicationKind ≠ .modelAdd := by
        rcases hkind with hkind | hkind
        · rw [hkind]
          decide
        · have hrotation := of_decide_eq_true (Bool.and_eq_true_iff.1 hkind).1
          rw [hrotation]
          decide
      exact syncAndReplace_meets hs (.refl s) hfound hstatus (hmarked.not_independent hremove hadd)
        2 actor
    · intro hkind
      rw [meets_bind, meets_demand]
      refine ⟨fun binding _ => ?_, fun _ => .refl s⟩
      rw [meets_ite]
      constructor
      · intro hrotation
        have hadd : p.publicationKind ≠ .modelAdd := by
          rw [hrotation]
          decide
        rw [meets_bind]
        refine (rotateCredential_registry p binding s (.refl s)).mono (fun _ t ht => ?_)
          fun _ _ ht => ht
        exact syncAndReplace_meets hs ht hfound hstatus (hmarked.not_independent hremove hadd) 0
          actor
      · intro hrotation
        have hadd : p.publicationKind = .modelAdd := by
          cases hkindof : p.publicationKind with
          | modelAdd => rfl
          | modelRemove => exact absurd hkindof hremove
          | credentialRotation => exact absurd hkindof hrotation
          | routeReconcile => exact absurd (.inl hkindof) hkind
        have hindependent := hmarked.independent_add hadd
        rw [meets_bind]
        refine (addModel_registry p binding fresh s (.refl s)).mono (fun _ t ht => ?_)
          fun _ _ ht => ht
        rw [meets_bind]
        refine (syncActiveRouteBindings_registry p t ht).mono (fun _ u hu => ?_) fun _ _ hu => hu
        rw [meets_ite]
        constructor
        · intro hmarker
          exact (recordActivation_stands hs hu hfound hstatus (hindependent.trans hmarker) 1
            actor).mono (fun _ _ h => h) fun _ _ hf => hf.elim
        · intro hmarker
          exact (recordActivation_promotes hs hu hfound hstatus
            (hindependent.trans (Bool.eq_false_iff.2 hmarker)) 1 actor).mono
            (fun _ _ h => h) fun _ _ hf => hf.elim

end Activations

/-! ## Rollbacks -/

section Rollbacks

variable {r : PublicationRules} {s : PublicationStore} {operationId targetId priorId : UUID}

/-- The releases that a rollback moves between. -/
structure PublicationStore.RollsBack (s : PublicationStore) (operationId : UUID)
    (target prior : GatewayPublication) : Prop where
  operation : ∃ operation, s.operation? operationId = some operation ∧
    operation.status = .postPromotionProbing ∧
    operation.gatewayProfileId = target.gatewayProfileId
  target_row : s.publication? target.id = some target
  prior_row : s.publication? prior.id = some prior
  gateway : prior.gatewayProfileId = target.gatewayProfileId
  effective : s.effective target.gatewayProfileId = some prior.id

/-- The store where both releases were written, and the target is effective again. -/
def PublicationStore.rolledBack (s : PublicationStore) (targetId priorId gateway : UUID) :
    PublicationStore :=
  { (s.setPublication targetId GatewayPublication.activated).setPublication priorId
      (fun p => { p with status := .rolledBack }) with
    effective := Function.update s.effective gateway (some targetId) }

theorem rolledBack_board (hs : s.board.Sound) {target prior : GatewayPublication}
    (hne : target.id ≠ prior.id) :
    (s.rolledBack target.id prior.id target.gatewayProfileId).board =
      s.board.rollBack target prior := by
  have hfirst := Rows.update_eq_map (k := target.id) (f := GatewayPublication.activated)
    (publications_distinct hs)
  have hids : (Rows.update GatewayPublication.id target.id GatewayPublication.activated
      s.publications).map GatewayPublication.id = s.publications.map GatewayPublication.id :=
    Rows.map_update fun _ => rfl
  have hpublications : Rows.update GatewayPublication.id prior.id
      (fun p => { p with status := .rolledBack })
      (Rows.update GatewayPublication.id target.id GatewayPublication.activated s.publications) =
      (s.board.rollBack target prior).publications := by
    rw [Rows.update_eq_map (hids ▸ publications_distinct hs), hfirst, List.map_map]
    refine List.map_congr_left fun q _ => ?_
    rw [Function.comp_apply]
    by_cases hid : q.id = target.id
    · have hother : q.activated.id ≠ prior.id := fun heq => hne (hid.symm.trans heq)
      rw [if_pos hid, if_neg hother, if_pos hid]
      rfl
    · rw [if_neg hid, if_neg hid]
  change ReleaseBoard.mk (Rows.update _ _ _ (Rows.update _ _ _ s.publications)) s.outbox
    (Function.update _ _ _) = _
  rw [hpublications]
  rfl

/-- A rollback that returns has moved the board back; where it raises, it may have moved it
all the same. -/
theorem completeGatewayReleaseRollback_meets (hs : s.board.Sound) (hne : targetId ≠ priorId)
    (actor : String) (now : ℤ) :
    Meets (completeGatewayReleaseRollback r operationId targetId priorId actor now) s
      (fun _ t => ∃ target prior, target.id = targetId ∧ prior.id = priorId ∧
        s.RollsBack operationId target prior ∧ t.board = s.board.rollBack target prior ∧
        t.operations.map GatewayReleaseOperation.releases =
          s.operations.map GatewayReleaseOperation.releases)
      fun _ t => t = s ∨ ∃ target prior, target.id = targetId ∧ prior.id = priorId ∧
        s.RollsBack operationId target prior ∧ t.board = s.board.rollBack target prior ∧
        t.operations = s.operations := by
  unfold completeGatewayReleaseRollback
  simp only [meets_bind, meets_get, meets_demand, meets_require, meets_modify, true_or,
    implies_true, and_true]
  intro operation hoperation hready target htarget prior hprior hgateway heffective
  have hid := publication?_id htarget
  have hid' := publication?_id hprior
  subst hid hid'
  obtain ⟨hat, hat'⟩ := hgateway
  have hrolls : s.RollsBack operationId target prior :=
    ⟨⟨operation, hoperation, hready.1, hat.symm⟩, htarget, hprior, hat'.trans hat.symm,
      hat ▸ heffective⟩
  have hboard := rolledBack_board hs hne
  rw [hat] at hboard
  have hsync := syncActiveRouteBindings_registry (r := r) target
    (s.rolledBack target.id prior.id operation.gatewayProfileId) (.refl _)
  refine Meets.mono hsync (fun _ t ht => ?_) fun _ t ht => ?_
  · refine ⟨target, prior, rfl, rfl, hrolls, ?_, ?_⟩
    · exact ht.board.trans hboard
    · have hkept : (Rows.update GatewayReleaseOperation.id operationId
          (fun row => { row with status := .succeeded, leaseOwner := none, leaseExpiresAt := none })
          t.operations).map GatewayReleaseOperation.releases =
          t.operations.map GatewayReleaseOperation.releases := Rows.map_update fun _ => rfl
      exact hkept.trans (congrArg _ ht.operations)
  · exact .inr ⟨target, prior, rfl, rfl, hrolls, ht.board.trans hboard, ht.operations⟩

end Rollbacks

end Turnstile
