import Turnstile.Services.RouteWriterRules

/-!
# The rules of staging and activation

Entities are staged one by one, and a readback receipt at a cursor is staged only after
all entities before the cursor were read back.  An activation is sent for a snapshot that
was read back as a whole.
-/

namespace Turnstile

open Guard

section

variable {ι : Type} {calls : ι → RouteCall} {i : ι} {w : RouteWorld ι} {σ : Type}

/-- The end of an operation of which nothing is said. -/
abbrev Unsaid {α : Type} : α → RouteWorld ι → Prop := fun _ _ => True

/-! ## Entities of a snapshot -/

/-- The entities of a snapshot lie outside the partition of the scope itself. -/
theorem entity_partition {snapshot : RouteSnapshot} {e : RouteEntity}
    (he : e ∈ snapshot.entities) : e.key.partition ≠ .root := by
  unfold RouteSnapshot.entities at he
  dsimp only at he
  rcases List.mem_append.1 he with he | he
  · rcases List.mem_append.1 he with he | he <;>
      (obtain ⟨x, -, rfl⟩ := List.mem_map.1 he; exact fun h => by cases h)
  · obtain ⟨x, -, rfl⟩ := List.mem_map.1 he
    exact fun h => by cases h

theorem preparedEntity_of_snapshot {snapshot : RouteSnapshot} {e : RouteEntity}
    (he : e ∈ snapshot.entities) : PreparedEntity w e.key := by
  have hroot : ∀ row, e.key ≠ .root row := fun row h => entity_partition he (by rw [h]; rfl)
  exact ⟨⟨hroot _, hroot _, fun _ => hroot _, fun _ => hroot _⟩,
    fun digest cursor h => absurd h (hroot _)⟩

theorem length_entities {snapshot : RouteSnapshot}
    (h : snapshot.routes.length = snapshot.members.length) :
    snapshot.entities.length = 3 * snapshot.routes.length := by
  simp only [RouteSnapshot.entities, sortedByAlias, List.length_append, List.length_map,
    List.length_insertionSort, ← h]
  omega

theorem length_of_requireValid {snapshot : RouteSnapshot} {instant : ℤ}
    (h : snapshot.requireValid instant = .ok ()) :
    snapshot.routes.length = snapshot.members.length := by
  obtain ⟨⟨hlength, -⟩, -⟩ := require_bind_eq_ok.1 h
  exact hlength

/-- The entities are determined by what `configuration_sha256` is the digest of. -/
theorem entities_of_digest {snapshot other : RouteSnapshot}
    (h : snapshot.configurationSha256 = other.configurationSha256) :
    snapshot.entities = other.entities := by
  simp only [RouteSnapshot.configurationSha256, Sha256.mk.injEq, RouteConfiguration.mk.injEq] at h
  obtain ⟨hbinding, hroutes, hmembers⟩ := h
  have hversion : snapshot.approval.routeVersion = other.approval.routeVersion :=
    congrArg ConfigurationBinding.routeVersion hbinding
  unfold RouteSnapshot.entities
  rw [hversion, hroutes, hmembers]

/-- All entities of a snapshot were read back. -/
theorem Backed.all {snapshot : RouteSnapshot}
    (h : Backed w snapshot.configurationSha256 (3 * snapshot.routes.length))
    (hlength : snapshot.routes.length = snapshot.members.length) (e : RouteEntity)
    (he : e ∈ snapshot.entities) : ReadBack w e := by
  refine h snapshot rfl e ?_
  rw [← length_entities hlength, List.take_length]
  exact he

theorem stays_readBack (e : RouteEntity) : Stays (ι := ι) fun w => ReadBack w e :=
  fun _ _ _ hc h => h.mono hc

/-! ## Staging -/

/-- What is left of staging an entity once it is known whether its row exists. -/
def stageAfter (entity : RouteEntity) (existing : Option (Row RouteDocument)) : RouteClient Unit :=
  match existing with
  | some row =>
      if row.document = entity.document then pure ()
      else Client.raise (.conflict "ROUTE_IMMUTABLE_ENTITY_CONFLICT")
  | none => do
      let answer ← submit (.entity entity.key entity.document)
      match answer with
      | .lost => Client.raise (.unknown "ROUTE_CREATE_NOT_CONFIRMED")
      | _ => do
          let readback ← readDocument entity.key
          if readback.map Row.document = some entity.document then pure ()
          else Client.raise (.conflict "ROUTE_IMMUTABLE_READBACK_DIFFERS")

theorem stageEntity_eq (entity : RouteEntity) (checkExisting : Bool) :
    stageEntity entity checkExisting =
      if checkExisting then readDocument entity.key >>= stageAfter entity
      else stageAfter entity none := by
  unfold stageEntity
  cases checkExisting <;> rfl

theorem meets_readCheck {key : RouteKey} {document : RouteDocument} {e : RouteError} :
    RouteMeets calls i Unsaid Unsaid
      (readDocument key >>= fun readback =>
        if readback.map Row.document = some document then pure () else Client.raise e) w := by
  refine meets_read (fun found w₁ _ _ _ => ?_) fun _ _ _ _ => trivial
  split
  next => exact meets_ended fun _ _ _ => trivial
  next => exact meets_failed fun _ _ _ => trivial

theorem meets_stageAfter {entity : RouteEntity} (existing : Option (Row RouteDocument))
    (h : PreparedEntity w entity.key) :
    RouteMeets calls i Unsaid Unsaid (stageAfter entity existing) w := by
  have hraise : ∀ (e : RouteError) w', RouteMeets calls i (Unsaid (α := Unit)) Unsaid
      (Client.raise e) w' := fun e w' => meets_failed fun _ _ _ => trivial
  cases existing with
  | some row =>
      dsimp only [stageAfter]
      split
      next => exact meets_ended fun _ _ _ => trivial
      next => exact hraise _ _
  | none =>
      dsimp only [stageAfter]
      refine meets_submit_entity h fun answer w₁ _ _ _ => ?_
      cases answer with
      | lost => exact hraise _ _
      | applied => exact meets_readCheck
      | refused => exact meets_readCheck

theorem meets_stageEntity {entity : RouteEntity} {checkExisting : Bool}
    (h : PreparedEntity w entity.key) :
    RouteMeets calls i Unsaid Unsaid (stageEntity entity checkExisting) w := by
  rw [stageEntity_eq]
  split
  next =>
    refine meets_read (fun found w₁ hr _ _ => ?_) fun _ _ _ _ => trivial
    obtain ⟨recent, hc⟩ := hr.continues
    exact meets_stageAfter found
      { h with readback := fun digest cursor hk => (h.readback digest cursor hk).mono hc }
  next => exact meets_stageAfter none h

/-- Entities of a snapshot may be staged in any order. -/
theorem meets_stageEntities (snapshot : RouteSnapshot) (check : RouteEntity → Bool)
    {entities : List RouteEntity} (hw : RouteWorldInv calls w)
    (h : ∀ e ∈ entities, e ∈ snapshot.entities) :
    RouteMeets calls i Unsaid Unsaid
      (Client.each (fun e => stageEntity e (check e)) entities) w := by
  refine Client.Meets.each (R := fun _ _ => True) (fun done e rest w' hl _ _ => ?_)
    (fun _ _ _ => trivial) (fun _ _ _ _ _ _ => trivial) hw trivial
  have he : e ∈ snapshot.entities := h e (by rw [hl]; simp)
  refine Client.Meets.mono (meets_stageEntity (preparedEntity_of_snapshot he)) fun r _ _ _ => ?_
  cases r <;> trivial

/-! ## Reading back -/

theorem meets_verifyEntity {entity : RouteEntity} :
    RouteMeets calls i (fun _ w' => ReadBack w' entity) Unsaid (verifyEntity entity) w := by
  refine meets_read (fun found w₁ _ _ hread => ?_) fun _ _ _ _ => trivial
  split
  next hsame =>
    obtain ⟨r, rfl, hdocument⟩ := Option.map_eq_some_iff.1 hsame
    exact meets_ended fun w₂ hr _ =>
      (stays_readBack entity).relies hr ⟨i, r, hread.mem, hdocument⟩
  next => exact meets_failed fun _ _ _ => trivial

theorem meets_verifyEntities (hw : RouteWorldInv calls w) (entities : List RouteEntity) :
    RouteMeets calls i (fun _ w' => ∀ e ∈ entities, ReadBack w' e) Unsaid
      (Client.each verifyEntity entities) w := by
  have hdone : ∀ done : List RouteEntity,
      Stays fun w' : RouteWorld ι => ∀ e ∈ done, ReadBack w' e :=
    fun done _ _ _ hc h e he => (h e he).mono hc
  refine Client.Meets.each (R := fun done w' => ∀ e ∈ done, ReadBack w' e)
    (fun done e rest w' _ _ hbefore => ?_) (fun _ _ h => h)
    (fun done w₁ w₂ hr _ h => (hdone done).relies hr h) hw fun e he => absurd he List.not_mem_nil
  refine Client.Meets.mono (meets_verifyEntity.frame (hdone done) hbefore) fun r w'' _ hr => ?_
  cases r with
  | error e => trivial
  | ok u =>
      obtain ⟨hread, hbefore'⟩ := hr
      intro e' he'
      rcases List.mem_append.1 he' with he' | he'
      · exact hbefore' e' he'
      · rw [List.mem_singleton.1 he']
        exact hread

theorem sliceEnd_eq_ok {cursor maximum : ℤ} {count stop : ℕ}
    (h : sliceEnd cursor maximum count = .ok stop) :
    0 ≤ cursor ∧ cursor.toNat ≤ stop ∧ stop ≤ count := by
  obtain ⟨⟨h₁, h₂, h₃, h₄⟩, h⟩ := require_bind_eq_ok.1 h
  obtain rfl := Except.ok.inj h
  omega

theorem snapshotEntities_eq_ok {self : RouteProjection} {snapshot : RouteSnapshot} {checkedAt : ℤ}
    {entities : List RouteEntity} (h : snapshotEntities self snapshot checkedAt = .ok entities) :
    snapshot.requireValid checkedAt = .ok () ∧ entities = snapshot.entities := by
  obtain ⟨hvalid, h⟩ := check_bind_eq_ok.1 h
  obtain ⟨-, h⟩ := require_bind_eq_ok.1 h
  exact ⟨hvalid, (Except.ok.inj h).symm⟩

theorem meets_verifySlice {self : RouteProjection} {snapshot : RouteSnapshot}
    {checkedAt cursor maximum : ℤ} (hw : RouteWorldInv calls w) :
    RouteMeets calls i
      (fun stop w' => cursor.toNat ≤ stop ∧
        ∀ e ∈ slice snapshot.entities cursor stop, ReadBack w' e) Unsaid
      (verifySlice self snapshot checkedAt cursor maximum) w := by
  refine meets_lifted (fun entities hentities => ?_) fun _ _ _ _ => trivial
  obtain ⟨-, rfl⟩ := snapshotEntities_eq_ok hentities
  refine meets_lifted (fun stop hstop => ?_) fun _ _ _ _ => trivial
  refine RouteMeets.bind hw (meets_verifyEntities hw _) fun _ w₁ _ hread => ?_
  exact meets_ended fun w₂ hr _ =>
    ⟨(sliceEnd_eq_ok hstop).2.1, fun e he => (stays_readBack e).relies hr (hread e he)⟩

/-- A receipt that is found was staged for what was read back. -/
theorem meets_requireReceipt {snapshot : RouteSnapshot} {cursor : ℕ} {code : String} :
    RouteMeets calls i (fun _ w' => Backed w' snapshot.configurationSha256 cursor) Unsaid
      (requireReceipt snapshot cursor code) w := by
  refine meets_read (fun found w₁ _ hw₁ hread => ?_) fun _ _ _ _ => trivial
  split
  next hsame =>
    obtain ⟨r, rfl, -⟩ := Option.map_eq_some_iff.1 hsame
    refine meets_ended fun w₂ hr _ => ?_
    obtain ⟨recent, hc⟩ := hr.continues
    exact (hw₁.table.backed hread.rows).mono hc
  next => exact meets_failed fun _ _ _ => trivial

/-- The entities up to the end of a slice are those before the slice and the slice. -/
theorem mem_take_slice {entities : List RouteEntity} {cursor : ℤ} {stop : ℕ}
    (h : cursor.toNat ≤ stop) {e : RouteEntity} (he : e ∈ entities.take stop) :
    e ∈ entities.take cursor.toNat ∨ e ∈ slice entities cursor stop := by
  rw [← List.take_append_drop cursor.toNat (entities.take stop), List.take_take,
    Nat.min_eq_left h] at he
  exact List.mem_append.1 he

/-- The receipt at the end of a slice is staged once all entities before it were read back. -/
theorem meets_verifySliceRecorded {self : RouteProjection} {snapshot : RouteSnapshot}
    {checkedAt cursor maximum : ℤ} (hw : RouteWorldInv calls w) :
    RouteMeets calls i Unsaid Unsaid
      (verifySliceRecorded self snapshot checkedAt cursor maximum) w := by
  have hbacked : Stays (ι := ι) fun w' => Backed w' snapshot.configurationSha256 cursor.toNat :=
    fun _ _ _ hc h => h.mono hc
  have hverify : ∀ w', RouteWorldInv calls w' →
      Backed w' snapshot.configurationSha256 cursor.toNat →
      RouteMeets calls i Unsaid Unsaid
        (verifySlice self snapshot checkedAt cursor maximum >>= fun stop =>
          stageEntity (readbackReceipt snapshot stop) true >>= fun _ => pure stop) w' := by
    intro w' hw' hbefore
    refine RouteMeets.bind hw' (((meets_verifySlice hw').frame hbacked hbefore).weaken
      (fun _ _ _ h => h) fun _ _ _ _ => trivial) fun stop w₁ hw₁ hread => ?_
    obtain ⟨⟨hstop, hslice⟩, hbefore₁⟩ := hread
    refine RouteMeets.bind hw₁ (meets_stageEntity ⟨?_, fun digest cursor' hkey => ?_⟩)
      fun _ _ _ _ => meets_ended fun _ _ _ => trivial
    · exact ⟨fun h => (by cases h), fun h => (by cases h), fun _ h => (by cases h),
        fun _ h => by cases h⟩
    · obtain ⟨rfl, rfl⟩ : snapshot.configurationSha256 = digest ∧ stop = cursor' := by
        cases hkey
        exact ⟨rfl, rfl⟩
      intro other hother e he
      rw [entities_of_digest hother] at he
      rcases mem_take_slice hstop he with he | he
      · exact hbefore₁ snapshot rfl e he
      · exact hslice e he
  refine meets_lifted (fun _ _ => ?_) fun _ _ _ _ => trivial
  refine meets_lifted (fun _ hstop => ?_) fun _ _ _ _ => trivial
  dsimp only
  split
  next => exact RouteMeets.bind hw meets_requireReceipt fun _ w₁ hw₁ hbefore =>
    hverify w₁ hw₁ hbefore
  next hzero =>
    refine hverify w hw ?_
    rw [not_not.1 hzero]
    intro other _ e he
    cases he

theorem meets_requireVerifiedSnapshot {self : RouteProjection} {snapshot : RouteSnapshot}
    {checkedAt : ℤ} :
    RouteMeets calls i (fun _ w' => (∃ instant, snapshot.requireValid instant = .ok ()) ∧
      ∀ e ∈ snapshot.entities, ReadBack w' e) Unsaid
      (requireVerifiedSnapshot self snapshot checkedAt) w := by
  refine meets_lifted (fun _ hvalid => ?_) fun _ _ _ _ => trivial
  refine meets_lifted (fun _ _ => ?_) fun _ _ _ _ => trivial
  exact meets_requireReceipt.weaken (fun _ _ _ hbacked => ⟨⟨checkedAt, hvalid⟩,
    hbacked.all (length_of_requireValid hvalid)⟩) fun _ _ _ _ => trivial

theorem meets_verifySnapshot {self : RouteProjection} {snapshot : RouteSnapshot} {checkedAt : ℤ}
    (hw : RouteWorldInv calls w) :
    RouteMeets calls i (fun _ w' => (∃ instant, snapshot.requireValid instant = .ok ()) ∧
      ∀ e ∈ snapshot.entities, ReadBack w' e) Unsaid
      (verifySnapshot self snapshot checkedAt) w := by
  refine meets_lifted (fun entities hentities => ?_) fun _ _ _ _ => trivial
  obtain ⟨hvalid, rfl⟩ := snapshotEntities_eq_ok hentities
  exact (meets_verifyEntities hw _).weaken
    (fun _ _ _ hread => ⟨⟨checkedAt, hvalid⟩, hread⟩) fun _ _ _ _ => trivial

theorem meets_stage {self : RouteProjection} {snapshot : RouteSnapshot} {checkedAt : ℤ}
    (hw : RouteWorldInv calls w) :
    RouteMeets calls i Unsaid Unsaid (stage self snapshot checkedAt) w := by
  refine meets_lifted (fun entities hentities => ?_) fun _ _ _ _ => trivial
  obtain ⟨-, rfl⟩ := snapshotEntities_eq_ok hentities
  exact RouteMeets.bind hw (meets_stageEntities _ (fun _ => true) hw fun _ he => he)
    fun _ _ hw₁ _ => (meets_verifySnapshot hw₁).weaken (fun _ _ _ _ => trivial)
      fun _ _ _ _ => trivial

theorem meets_stageSlice {self : RouteProjection} {snapshot : RouteSnapshot}
    {checkedAt cursor maximum : ℤ} (hw : RouteWorldInv calls w) :
    RouteMeets calls i Unsaid Unsaid (stageSlice self snapshot checkedAt cursor maximum) w := by
  refine meets_lifted (fun entities hentities => ?_) fun _ _ _ _ => trivial
  obtain ⟨-, rfl⟩ := snapshotEntities_eq_ok hentities
  refine meets_lifted (fun stop _ => ?_) fun _ _ _ _ => trivial
  refine RouteMeets.bind hw (meets_stageEntities snapshot _ hw fun e he => ?_) fun _ _ _ _ =>
    meets_ended fun _ _ _ => trivial
  exact List.mem_of_mem_take (List.mem_of_mem_drop he)

theorem meets_stageModelAddition {self : RouteProjection} {addition : ModelRouteAddition}
    {checkedAt : ℤ} :
    RouteMeets calls i Unsaid Unsaid (stageModelAddition self addition checkedAt) w := by
  refine meets_lifted (fun _ _ => ?_) fun _ _ _ _ => trivial
  split
  next => exact meets_failed fun _ _ _ => trivial
  next =>
    refine meets_read (fun existing w₁ _ hw₁ _ => ?_) fun _ _ _ _ => trivial
    dsimp only
    split
    next =>
      refine meets_lifted (fun entities hentities => ?_) fun _ _ _ _ => trivial
      obtain ⟨-, rfl⟩ := snapshotEntities_eq_ok hentities
      exact RouteMeets.bind hw₁ (meets_stageEntities _ (fun _ => true) hw₁ fun _ he => he)
        fun _ _ hw₂ _ => RouteMeets.bind hw₂ (meets_verifySliceRecorded hw₂)
          fun _ _ _ _ => meets_ended fun _ _ _ => trivial
    next => exact meets_failed fun _ _ _ => trivial

end

end Turnstile
