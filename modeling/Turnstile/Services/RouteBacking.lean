import Turnstile.Services.RouteTruth

/-!
# What backs an active head

The active head names its configuration by digests only.  They determine the entities of
the snapshot, whose keys are distinct, and all of them were read back before the head was
written; entities are never overwritten, so they are stored from then on.
-/

namespace Turnstile

/-! ## Entities of one approval -/

theorem SnapshotBound.nodup_routes {s : RouteSnapshot} {members : List RouteMember}
    (h : SnapshotBound s members) : s.routes.Nodup :=
  List.Nodup.of_map _ h.nodup

/-- Two snapshots of one approval have the same entities. -/
theorem SnapshotBound.entities_perm {s t : RouteSnapshot} {members members' : List RouteMember}
    (hs : SnapshotBound s members) (ht : SnapshotBound t members')
    (happroval : s.approval = t.approval) : s.entities.Perm t.entities := by
  obtain ⟨hmembers, hroutes⟩ := hs.same ht happroval
  have hsorted : sortedByAlias RouteContent.routeAlias s.routes =
      sortedByAlias RouteContent.routeAlias t.routes :=
    sortedByAlias_congr hroutes (nodup_routeAlias hs.nodup)
  unfold RouteSnapshot.entities
  rw [happroval, hmembers, hsorted]
  exact ((hroutes.map _).append_right _).append_right _

/-- The aliases of the members differ, also when their case is folded. -/
theorem SnapshotBound.nodup_members {s : RouteSnapshot} {members : List RouteMember}
    (h : SnapshotBound s members) : (s.members.map fun m => m.routeAlias.casefold).Nodup := by
  obtain ⟨approvals, now, hall⟩ := h.isMember
  have hfold : members.map (fun m => m.routeAlias.casefold) =
      s.routes.map fun r => r.routeAlias.casefold := by
    have haliases := congrArg (List.map RouteAlias.casefold) (map_routeAlias_of_isMember hall)
    rw [List.map_map, List.map_map] at haliases
    exact haliases
  rw [h.sorted, ((sortedByAlias_perm _ members).map _).nodup_iff, hfold]
  exact h.nodup

/-- No two entities of a snapshot have the same key. -/
theorem SnapshotBound.nodup_keys {s : RouteSnapshot} {members : List RouteMember}
    (h : SnapshotBound s members) : (s.entities.map RouteEntity.key).Nodup := by
  have hcontents : (s.routes.map fun route =>
      (⟨.contents, .content route.sha256⟩ : RouteKey)).Nodup := by
    refine h.nodup_routes.map fun a b hab => ?_
    simpa [RouteContent.sha256] using hab
  have hkeys : ∀ (partition : RoutePartition) (aliases : List (List Char)), aliases.Nodup →
      (aliases.map fun text => (⟨partition, .member ⟨text⟩⟩ : RouteKey)).Nodup :=
    fun partition aliases hnodup => hnodup.map fun a b hab => by simpa using hab
  have hmembers := hkeys (.members s.approval.routeVersion) _ h.nodup_members
  have hcatalog := hkeys (.catalog s.approval.routeVersion) _
    (((sortedByAlias_perm RouteContent.routeAlias s.routes).map _).nodup_iff.2 h.nodup)
  simp only [List.map_map] at hmembers hcatalog
  simp only [RouteSnapshot.entities, List.map_append, List.map_map, List.nodup_append]
  refine ⟨⟨hcontents, hmembers, ?_⟩, hcatalog, ?_⟩
  · intro a ha b hb hab
    obtain ⟨route, -, rfl⟩ := List.mem_map.1 ha
    obtain ⟨member, -, rfl⟩ := List.mem_map.1 hb
    cases hab
  · intro a ha b hb hab
    obtain ⟨route, -, rfl⟩ := List.mem_map.1 hb
    rcases List.mem_append.1 ha with ha | ha <;>
      (obtain ⟨x, -, rfl⟩ := List.mem_map.1 ha; cases hab)

/-! ## Rows -/

section

variable {ι : Type} {calls : ι → RouteCall} {w w' : RouteWorld ι}

/-- An entity is stored with its document. -/
def Stored (w : RouteWorld ι) (e : RouteEntity) : Prop :=
  ∃ etag, w.table.rows e.key = some ⟨e.document, etag⟩

/-- An entity of a snapshot that was read back is stored. -/
theorem RouteInv.stored (h : RouteInv calls w) {snapshot : RouteSnapshot} {e : RouteEntity}
    (he : e ∈ snapshot.entities) (hread : ReadBack w e) : Stored w e := by
  have hroot : ∀ row, e.key ≠ .root row := fun row hrow => entity_partition he (by rw [hrow]; rfl)
  obtain ⟨j, r, hr, hdocument⟩ := hread
  refine ⟨r.etag, ?_⟩
  rw [h.observed j e.key r ⟨hroot _, hroot _⟩ hr, ← hdocument]

theorem readBack_step {e : RouteEntity} (h : RouteStep calls w w') (hw : ReadBack w e) :
    ReadBack w' e := by
  obtain ⟨recent, hhistory⟩ := h.history
  obtain ⟨j, r, hr, hdocument⟩ := hw
  exact ⟨j, r, hhistory ▸ List.mem_append_right _ hr, hdocument⟩

/-- The head in the active row was activated for a snapshot that was read back. -/
theorem RouteInv.activated (h : RouteInv calls w) {head : ActiveRouteHead}
    (hactive : w.active? = some head) : ∃ snapshot : RouteSnapshot,
      snapshot.approval = head.approval ∧ (∃ instant, snapshot.requireValid instant = .ok ()) ∧
      ∀ e ∈ snapshot.entities, ReadBack w e := by
  unfold RouteWorld.active? at hactive
  split at hactive
  next found hfound =>
    obtain rfl := Option.some.inj hactive
    obtain ⟨r, hr, hdocument⟩ := Option.map_eq_some_iff.1 hfound
    obtain ⟨i, s, hs, x, hx, hkey, hsame⟩ := h.source _ r hr
    have hprepared := h.submitted i s (h.applied i s hs).1
    cases hprepared with
    | writer intent hp =>
        rw [hp.writes] at hx
        rcases List.mem_cons.1 hx with rfl | hx
        · cases hkey
        · rw [List.mem_singleton.1 hx] at hkey
          cases hkey
    | activation intent hp =>
        rw [hp.writes] at hx
        rcases List.mem_append.1 hx with hx | hx
        · obtain ⟨after, -, rfl⟩ := Option.map_eq_some_iff.1 (Option.mem_toList.1 hx)
          cases hkey
        rcases List.mem_cons.1 hx with rfl | hx
        · have hhead := hsame.trans hdocument
          simp only [RouteDocument.record.injEq, RouteRecord.active.injEq] at hhead
          exact hhead ▸ hp.backed
        · rw [List.mem_singleton.1 hx] at hkey
          cases hkey
    | entity key document hp =>
        rw [List.mem_singleton.1 hx] at hkey
        exact absurd hkey hp.staged.2.1
  next => cases hactive

end

/-! ## Results -/

section

variable {ι : Type} [DecidableEq ι] {calls : ι → RouteCall} {self : RouteProjection}
  {s s' : RouteSystem ι}

/-- An active head is that of a snapshot, and every snapshot that its approval names is
stored, entity by entity under distinct keys, in that state and in every later one. -/
theorem active_head_backed (h : s.Reachable self calls) {head : ActiveRouteHead}
    (hactive : s.world.active? = some head)
    (hlater : Client.Reaches routeDynamics Client.anyChange s s') :
    (∃ snapshot : RouteSnapshot, snapshot.approval = head.approval ∧
      ∃ instant, snapshot.requireValid instant = .ok ()) ∧
    ∀ (snapshot : RouteSnapshot) (instant : ℤ), snapshot.approval = head.approval →
      snapshot.requireValid instant = .ok () →
      (snapshot.entities.map RouteEntity.key).Nodup ∧
        ∀ e ∈ snapshot.entities, Stored s'.world e := by
  obtain ⟨activated, happroval, ⟨instant, hvalid⟩, hread⟩ := h.inv.table.activated hactive
  obtain ⟨members, hbound⟩ := RouteSnapshot.requireValid_bound hvalid
  have hinv : RouteInv calls s'.world := (RouteSystem.Reachable.inv (h.trans hlater)).table
  refine ⟨⟨activated, happroval, instant, hvalid⟩, fun snapshot instant' happroval' hvalid' => ?_⟩
  obtain ⟨members', hbound'⟩ := RouteSnapshot.requireValid_bound hvalid'
  refine ⟨hbound'.nodup_keys, fun e he => hinv.stored he ?_⟩
  have hperm := hbound'.entities_perm hbound (happroval'.trans happroval.symm)
  exact h.keepsFrom hlater (fun _ _ => readBack_step) (hread e (hperm.mem_iff.1 he))

/-- The snapshot of two routes that the second publication has activated is stored. -/
theorem published_snapshot_backed : ∃ s head,
    RouteSystem.Reachable RouteSample.routeProjection RouteSample.republicationCalls s ∧
      s.world.active? = some head ∧ RouteSample.pairSnapshot.entities.length = 6 ∧
      (RouteSample.pairSnapshot.entities.map RouteEntity.key).Nodup ∧
      ∀ e ∈ RouteSample.pairSnapshot.entities, Stored s.world e := by
  have hruns : ((RouteSystem.start RouteSample.routeProjection RouteSample.republicationCalls).run?
      routeDynamics RouteSample.republishing).map (fun s =>
        s.world.active?.map (·.approval)) = some (some RouteSample.pairConfiguration) := rfl
  obtain ⟨s, hrun, happroval⟩ := Option.map_eq_some_iff.1 hruns
  obtain ⟨head, hactive, happroval⟩ := Option.map_eq_some_iff.1 happroval
  have hreach :
      RouteSystem.Reachable RouteSample.routeProjection RouteSample.republicationCalls s :=
    Client.reaches_of_run? hrun
  have hvalid : RouteSample.pairSnapshot.requireValid 1 = .ok () := rfl
  exact ⟨s, head, hreach, hactive, rfl,
    (active_head_backed hreach hactive .refl).2 _ 1 happroval.symm hvalid⟩

/-- A readback receipt at a cursor is stored only where the first entities of every
snapshot with this digest are stored, then and in every later state. -/
theorem readback_receipt_backed (h : s.Reachable self calls)
    {digest : Sha256 RouteConfiguration} {cursor : ℕ} {r : Row RouteDocument}
    (hreceipt : s.world.table.rows (.root (.readback digest cursor)) = some r)
    (hlater : Client.Reaches routeDynamics Client.anyChange s s') :
    (∀ snapshot other : RouteSnapshot, snapshot.configurationSha256 = digest →
      other.configurationSha256 = digest → snapshot.entities = other.entities) ∧
    ∀ snapshot : RouteSnapshot, snapshot.configurationSha256 = digest →
      ∀ e ∈ snapshot.entities.take cursor, Stored s'.world e := by
  refine ⟨fun snapshot other hsnapshot hother => entities_of_digest (hsnapshot.trans hother.symm),
    fun snapshot hdigest e he => ?_⟩
  have hinv : RouteInv calls s'.world := (RouteSystem.Reachable.inv (h.trans hlater)).table
  have hread : ReadBack s'.world e := h.keepsFrom hlater (fun _ _ => readBack_step)
    (h.inv.table.backed hreceipt snapshot hdigest e he)
  exact hinv.stored (List.mem_of_mem_take he) hread

/-- The receipt of the second publication is that of a snapshot that is stored, and so is the
receipt of the first one still. -/
theorem published_receipt_backed : ∃ s r r',
    RouteSystem.Reachable RouteSample.routeProjection RouteSample.republicationCalls s ∧
      s.world.table.rows (.root (.readback RouteSample.pairSnapshot.configurationSha256 6)) =
        some r ∧
      (∀ e ∈ RouteSample.pairSnapshot.entities.take 6, Stored s.world e) ∧
      s.world.table.rows (.root (.readback RouteSample.routeSnapshot.configurationSha256 3)) =
        some r' ∧
      ∀ e ∈ RouteSample.routeSnapshot.entities.take 3, Stored s.world e := by
  have hruns : ((RouteSystem.start RouteSample.routeProjection RouteSample.republicationCalls).run?
      routeDynamics RouteSample.republishing).map (fun s =>
        ((s.world.table.rows
            (.root (.readback RouteSample.pairSnapshot.configurationSha256 6))).isSome,
          (s.world.table.rows
            (.root (.readback RouteSample.routeSnapshot.configurationSha256 3))).isSome)) =
      some (true, true) := rfl
  obtain ⟨s, hrun, hsome⟩ := Option.map_eq_some_iff.1 hruns
  obtain ⟨hpair, hfirst⟩ := Prod.ext_iff.1 hsome
  obtain ⟨r, hreceipt⟩ := Option.isSome_iff_exists.1 hpair
  obtain ⟨r', hreceipt'⟩ := Option.isSome_iff_exists.1 hfirst
  have hreach :
      RouteSystem.Reachable RouteSample.routeProjection RouteSample.republicationCalls s :=
    Client.reaches_of_run? hrun
  exact ⟨s, r, r', hreach, hreceipt, (readback_receipt_backed hreach hreceipt .refl).2 _ rfl,
    hreceipt', (readback_receipt_backed hreach hreceipt' .refl).2 _ rfl⟩

end

end Turnstile
