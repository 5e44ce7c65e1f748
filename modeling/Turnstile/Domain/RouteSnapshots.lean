import Turnstile.Domain.StorageRoutes

/-!
# What a configuration approval binds

An operator approves three digests and a count.  The manifest has the digest of the content of
every alias and that of its connection approval, so it determines the routes and the members
(`members_perm`); the members are stored in the order of their aliases, and the order of the
routes is seen by none of the digests (`configurationManifests_perm`).
-/

namespace Turnstile

open Guard

/-! ## Sorted dictionaries -/

section Sorted

variable {α : Type} {key : α → RouteAlias}

theorem RouteAlias.eq_of_text {a b : RouteAlias} (h : a.text = b.text) : a = b := by
  cases a
  cases b
  cases h
  rfl

theorem pairwise_sortedByAlias (key : α → RouteAlias) (items : List α) :
    (sortedByAlias key items).Pairwise fun a b => (key a).text ≤ (key b).text := by
  have htotal : Std.Total fun a b : α => (key a).text ≤ (key b).text :=
    ⟨fun a b => String.le_total (key a).text (key b).text⟩
  have htrans : IsTrans α fun a b => (key a).text ≤ (key b).text :=
    ⟨fun _ _ _ h h' => String.le_trans h h'⟩
  exact List.pairwise_insertionSort _ items

/-- A list is sorted in one way only, where the aliases are distinct. -/
theorem sortedByAlias_congr {items items' : List α} (h : items.Perm items')
    (hnodup : (items.map key).Nodup) : sortedByAlias key items = sortedByAlias key items' := by
  refine List.Perm.eq_of_pairwise ?_ (pairwise_sortedByAlias key items)
    (pairwise_sortedByAlias key items')
    ((sortedByAlias_perm key items).trans (h.trans (sortedByAlias_perm key items').symm))
  intro a b ha hb hab hba
  have ha := (sortedByAlias_perm key items).mem_iff.1 ha
  have hb := h.mem_iff.2 ((sortedByAlias_perm key items').mem_iff.1 hb)
  exact List.inj_on_of_nodup_map hnodup ha hb (RouteAlias.eq_of_text (String.le_antisymm hab hba))

end Sorted

/-! ## Members -/

section Members

variable {scope : RouteScope} {version : UUID} {approvals : UUID → Option ConnectionApproval}
  {now : ℤ} {routes routes' : List RouteContent} {members members' : List RouteMember}

/-- The member of a route. -/
structure IsMember (scope : RouteScope) (version : UUID)
    (approvals : UUID → Option ConnectionApproval) (now : ℤ) (route : RouteContent)
    (member : RouteMember) : Prop where
  routeScope : route.scope = scope
  approval : approvals route.connection.revisionId = some member.connectionApproval
  current : member.connectionApproval.requireCurrent route.connection now = .ok ()
  scope : member.scope = scope
  version : member.routeVersion = version
  routeAlias : member.routeAlias = route.routeAlias
  modelId : member.modelId = route.modelId
  content : member.contentSha256 = route.sha256

/-- The loop makes the members of the routes, whose aliases differ. -/
theorem configurationMembers_eq_ok {aliases : List (List Char)} :
    configurationMembers scope version approvals now routes aliases = .ok members ↔
      (routes.map fun r => r.routeAlias.casefold).Nodup ∧
      (∀ r ∈ routes, r.routeAlias.casefold ∉ aliases) ∧
      List.Forall₂ (IsMember scope version approvals now) routes members := by
  induction routes generalizing aliases members with
  | nil =>
      constructor
      · intro h
        obtain rfl := Except.ok.inj h
        exact ⟨List.nodup_nil, fun r hr => absurd hr List.not_mem_nil, .nil⟩
      · rintro ⟨-, -, hmembers⟩
        cases hmembers
        rfl
  | cons route routes ih =>
      unfold configurationMembers
      rw [require_bind_eq_ok, List.map_cons, List.nodup_cons]
      constructor
      · rintro ⟨⟨hscope, halias⟩, h⟩
        split at h
        next => cases h
        next approval happroval =>
          obtain ⟨hcurrent, h⟩ := check_bind_eq_ok.1 h
          split at h
          next hconnection =>
            obtain ⟨rest, hrest, h⟩ := bind_eq_ok.1 h
            obtain rfl := Except.ok.inj h
            obtain ⟨hnodup, hfresh, hmembers⟩ := ih.1 hrest
            refine ⟨⟨?_, hnodup⟩, ?_, .cons ⟨hscope, happroval, hcurrent, rfl, rfl, rfl, rfl, rfl⟩
              hmembers⟩
            · intro hmem
              obtain ⟨other, hother, heq⟩ := List.mem_map.1 hmem
              exact hfresh other hother (heq ▸ List.mem_cons_self)
            · intro r hr
              rcases List.mem_cons.1 hr with rfl | hr
              · exact halias
              · exact fun hmem => hfresh r hr (List.mem_cons_of_mem _ hmem)
          next => cases h
      · rintro ⟨⟨hfirst, hnodup⟩, hfresh, hmembers⟩
        cases hmembers with
        | @cons _ member _ rest hmember hrest =>
          obtain ⟨memberScope, memberVersion, memberAlias, memberModel, content, approval, digest,
            ⟨hconnection, rfl⟩⟩ := member
          obtain ⟨rfl, happroval, hcurrent, rfl, rfl, rfl, rfl, rfl⟩ := hmember
          refine ⟨⟨rfl, hfresh route List.mem_cons_self⟩, ?_⟩
          rw [happroval]
          refine check_bind_eq_ok.2 ⟨hcurrent, ?_⟩
          rw [dif_pos hconnection]
          refine bind_eq_ok.2 ⟨rest, ih.2 ⟨hnodup, fun r hr hmem => ?_, hrest⟩, rfl⟩
          rcases List.mem_cons.1 hmem with heq | hmem
          · exact hfirst (heq ▸ List.mem_map_of_mem hr)
          · exact hfresh r (List.mem_cons_of_mem route hr) hmem

theorem map_routeAlias_of_isMember
    (h : List.Forall₂ (IsMember scope version approvals now) routes members) :
    members.map RouteMember.routeAlias = routes.map RouteContent.routeAlias := by
  induction h with
  | nil => rfl
  | cons hmember _ ih => rw [List.map_cons, List.map_cons, ih, hmember.routeAlias]

theorem nodup_routeAlias (h : (routes.map fun r => r.routeAlias.casefold).Nodup) :
    (routes.map RouteContent.routeAlias).Nodup := by
  have hmap : routes.map (fun r => r.routeAlias.casefold) =
      (routes.map RouteContent.routeAlias).map RouteAlias.casefold := by
    rw [List.map_map]
    rfl
  rw [hmap] at h
  exact List.Nodup.of_map _ h

/-- The routes of some members are the contents that their manifest names. -/
theorem routes_eq_of_isMember
    (h : List.Forall₂ (IsMember scope version approvals now) routes members) :
    routes = members.map fun m => m.contentSha256.of := by
  induction h with
  | nil => rfl
  | cons hmember _ ih =>
      rw [List.map_cons, ← ih, hmember.content]
      rfl

/-- The member that an entry of a manifest is of. -/
def entryMember (scope : RouteScope) (version : UUID) (entry : RouteAlias × ManifestEntry) :
    Option RouteMember :=
  if h : entry.2.approvalSha256.of.connection.scope = scope then
    some ⟨scope, version, entry.1, entry.2.contentSha256.of.modelId, entry.2.contentSha256,
      entry.2.approvalSha256.of, entry.2.approvalSha256, ⟨h, rfl⟩⟩
  else none

/-- What a manifest says of a member. -/
def memberEntry (member : RouteMember) : RouteAlias × ManifestEntry :=
  (member.routeAlias, ⟨member.contentSha256, member.approvalSha256⟩)

theorem entryMember_memberEntry {route : RouteContent} {member : RouteMember}
    (h : IsMember scope version approvals now route member) :
    entryMember scope version (memberEntry member) = some member := by
  obtain ⟨memberScope, memberVersion, memberAlias, memberModel, content, approval, digest,
    ⟨hconnection, rfl⟩⟩ := member
  obtain ⟨-, -, -, rfl, rfl, rfl, rfl, rfl⟩ := h
  exact dif_pos hconnection

theorem map_entryMember (h : List.Forall₂ (IsMember scope version approvals now) routes members) :
    (members.map memberEntry).map (entryMember scope version) = members.map some := by
  induction h with
  | nil => rfl
  | cons hmember _ ih =>
      rw [List.map_cons, List.map_cons, ih, entryMember_memberEntry hmember, List.map_cons]

theorem manifestOf_perm (members : List RouteMember) :
    (manifestOf members).Perm (members.map memberEntry) :=
  sortedByAlias_perm Prod.fst _

/-- A manifest determines the members, whatever approvals and times they were made with. -/
theorem members_perm {approvals' : UUID → Option ConnectionApproval} {now' : ℤ}
    (h : List.Forall₂ (IsMember scope version approvals now) routes members)
    (h' : List.Forall₂ (IsMember scope version approvals' now') routes' members')
    (hmanifest : manifestOf members = manifestOf members') : members.Perm members' := by
  have hentries : (members.map memberEntry).Perm (members'.map memberEntry) :=
    (manifestOf_perm members).symm.trans (hmanifest ▸ manifestOf_perm members')
  have hsome := hentries.map (entryMember scope version)
  rw [map_entryMember h, map_entryMember h'] at hsome
  have hall := hsome.filterMap id
  rwa [List.filterMap_map, List.filterMap_map, Function.id_comp, List.filterMap_some,
    List.filterMap_some] at hall

/-- The order of the routes is seen by none of the digests, and not by the members. -/
theorem configurationManifests_perm (hperm : routes.Perm routes')
    {result : List RouteMember × Sha256 (AliasDict ManifestEntry) ×
      Sha256 (AliasDict (Sha256 ConnectionRevision))}
    (h : configurationManifests scope version routes approvals now = .ok result) :
    configurationManifests scope version routes' approvals now = .ok result := by
  unfold configurationManifests at h ⊢
  obtain ⟨members, hmembers, h⟩ := bind_eq_ok.1 h
  obtain rfl := Except.ok.inj h
  obtain ⟨hnodup, -, hall⟩ := configurationMembers_eq_ok.1 hmembers
  obtain ⟨members', hall', hperm'⟩ := List.perm_comp_forall₂ hperm.symm hall
  have haliases := nodup_routeAlias hnodup
  have hmemberAliases : (members.map RouteMember.routeAlias).Nodup :=
    map_routeAlias_of_isMember hall ▸ haliases
  refine bind_eq_ok.2 ⟨members', configurationMembers_eq_ok.2
    ⟨(hperm.map _).nodup_iff.1 hnodup, fun _ _ => List.not_mem_nil, hall'⟩, ?_⟩
  have hmanifest : manifestOf members' = manifestOf members := by
    refine (sortedByAlias_congr (hperm'.symm.map memberEntry) ?_).symm
    rw [List.map_map]
    exact hmemberAliases
  have hdependencies : dependenciesOf routes' = dependenciesOf routes := by
    refine (sortedByAlias_congr (hperm.map _) ?_).symm
    rw [List.map_map]
    exact haliases
  rw [hmanifest, hdependencies, sortedByAlias_congr hperm'.symm hmemberAliases]
  rfl

/-- The catalog is that of the aliases, which are distinct. -/
theorem catalogDigest_perm (hperm : routes.Perm routes')
    (hnodup : (routes.map RouteContent.routeAlias).Nodup) :
    catalogDigest routes = catalogDigest routes' := by
  unfold catalogDigest
  rw [sortedByAlias_congr (hperm.map fun r => (r.routeAlias, catalogEntry r))]
  rw [List.map_map]
  exact hnodup

end Members

/-! ## Changed aliases -/

/-- A content without `display_name` and `created_at`. -/
structure UnlabelledContent where
  scope : RouteScope
  modelId : UUID
  routeAlias : RouteAlias
  profile : RouteProfile
  connection : ConnectionRevision
  budgetEpoch : UUID
  details : String
deriving DecidableEq

/-- `route.model_dump(mode="json", exclude={"display_name", "created_at"})`. -/
def RouteContent.unlabelled (route : RouteContent) : UnlabelledContent where
  scope := route.scope
  modelId := route.modelId
  routeAlias := route.routeAlias
  profile := route.profile
  connection := route.connection
  budgetEpoch := route.budgetEpoch
  details := route.details

/-- `index`, of `changed_route_aliases`. -/
def indexRoutes : List RouteContent → List (List Char) →
    Except RouteError (AliasDict (Sha256 UnlabelledContent))
  | [], _ => .ok []
  | route :: routes, normalized => do
      require (normalized.contains route.routeAlias.casefold = false)
        (.value "ROUTE_DUPLICATE_ALIAS")
      let result ← indexRoutes routes (route.routeAlias.casefold :: normalized)
      pure ((route.routeAlias, ⟨route.unlabelled⟩) :: result)

/-- `changed_route_aliases`. -/
def changedRouteAliases (before after : List RouteContent) :
    Except RouteError (List RouteAlias) := do
  let previous ← indexRoutes before []
  let current ← indexRoutes after []
  pure ((sortedByAlias Prod.fst (current.filter fun entry =>
    previous.lookup entry.1 ≠ some entry.2)).map Prod.fst)

theorem indexRoutes_eq {routes : List RouteContent} {normalized : List (List Char)}
    (hnodup : (routes.map fun r => r.routeAlias.casefold).Nodup)
    (hfresh : ∀ r ∈ routes, r.routeAlias.casefold ∉ normalized) :
    indexRoutes routes normalized = .ok (routes.map fun r => (r.routeAlias, ⟨r.unlabelled⟩)) := by
  induction routes generalizing normalized with
  | nil => rfl
  | cons route routes ih =>
      rw [List.map_cons, List.nodup_cons] at hnodup
      have hfirst : normalized.contains route.routeAlias.casefold = false := by
        simpa using hfresh route List.mem_cons_self
      rw [indexRoutes, require_bind_of hfirst, ih hnodup.2, ok_bind, pure_eq, List.map_cons]
      intro r hr hmem
      rcases List.mem_cons.1 hmem with heq | hmem
      · exact hnodup.1 (heq ▸ List.mem_map_of_mem hr)
      · exact hfresh r (List.mem_cons_of_mem route hr) hmem

/-- Routes in another order have changed no alias. -/
theorem changedRouteAliases_perm {routes routes' : List RouteContent} (hperm : routes.Perm routes')
    (hnodup : (routes.map fun r => r.routeAlias.casefold).Nodup) :
    changedRouteAliases routes routes' = .ok [] := by
  have hlookup : ∀ route ∈ routes, (routes.map fun r =>
      (r.routeAlias, (⟨r.unlabelled⟩ : Sha256 UnlabelledContent))).lookup route.routeAlias
        = some ⟨route.unlabelled⟩ := by
    intro route hroute
    have haliases := nodup_routeAlias hnodup
    clear hperm hnodup
    induction routes with
    | nil => cases hroute
    | cons first rest ih =>
        rw [List.map_cons, List.nodup_cons] at haliases
        rw [List.map_cons, List.lookup_cons]
        rcases List.mem_cons.1 hroute with rfl | hroute
        · simp
        · have hne : route.routeAlias ≠ first.routeAlias := fun heq =>
            haliases.1 (heq ▸ List.mem_map_of_mem hroute)
          rw [beq_eq_false_iff_ne.2 hne]
          exact ih hroute haliases.2
  unfold changedRouteAliases
  rw [indexRoutes_eq hnodup fun _ _ => List.not_mem_nil, ok_bind,
    indexRoutes_eq ((hperm.map _).nodup_iff.1 hnodup) fun _ _ => List.not_mem_nil, ok_bind]
  have hnone :
      (routes'.map fun r => (r.routeAlias, (⟨r.unlabelled⟩ : Sha256 UnlabelledContent))).filter
      (fun entry => (routes.map fun r =>
        (r.routeAlias, (⟨r.unlabelled⟩ : Sha256 UnlabelledContent))).lookup entry.1 ≠ some entry.2)
        = [] := by
    refine List.filter_eq_nil_iff.2 fun entry hentry => ?_
    obtain ⟨route, hroute, rfl⟩ := List.mem_map.1 hentry
    have hsame := hlookup route (hperm.mem_iff.2 hroute)
    simpa using hsame
  rw [hnone]
  rfl

/-! ## Snapshots -/

/-- What a valid snapshot is made of: its members are those of its routes, and its approval
names its digests. -/
structure SnapshotBound (s : RouteSnapshot) (members : List RouteMember) : Prop where
  nodup : (s.routes.map fun r => r.routeAlias.casefold).Nodup
  isMember : ∃ approvals now, List.Forall₂ (IsMember s.approval.scope s.approval.routeVersion
    approvals now) s.routes members
  sorted : s.members = sortedByAlias RouteMember.routeAlias members
  manifest : s.approval.manifestSha256 = ⟨manifestOf members⟩

theorem RouteSnapshot.requireValid_bound {s : RouteSnapshot} {checkedAt : ℤ}
    (h : s.requireValid checkedAt = .ok ()) : ∃ members, SnapshotBound s members := by
  unfold RouteSnapshot.requireValid at h
  obtain ⟨-, h⟩ := require_bind_eq_ok.1 h
  obtain ⟨approvals, -, h⟩ := bind_eq_ok.1 h
  obtain ⟨result, hresult, h⟩ := bind_eq_ok.1 h
  obtain ⟨members, hmembers, hpure⟩ := bind_eq_ok.1 hresult
  obtain rfl := Except.ok.inj hpure
  obtain ⟨hsorted, hmanifest, -⟩ := require_eq_ok.1 h
  obtain ⟨hnodup, -, hall⟩ := configurationMembers_eq_ok.1 hmembers
  exact ⟨members, hnodup, ⟨_, checkedAt, hall⟩, hsorted, hmanifest.symm⟩

/-- Snapshots of one approval have the same members, and the same routes in some order. -/
theorem SnapshotBound.same {s t : RouteSnapshot} {members members' : List RouteMember}
    (hs : SnapshotBound s members) (ht : SnapshotBound t members')
    (happroval : s.approval = t.approval) : s.members = t.members ∧ s.routes.Perm t.routes := by
  obtain ⟨approvals, now, hall⟩ := hs.isMember
  obtain ⟨approvals', now', hall'⟩ := ht.isMember
  rw [← happroval] at hall'
  have hmanifest : manifestOf members = manifestOf members' := by
    have hdigest := hs.manifest.symm.trans (happroval ▸ ht.manifest)
    exact Sha256.mk.inj hdigest
  have hperm := members_perm hall hall' hmanifest
  refine ⟨?_, ?_⟩
  · rw [hs.sorted, ht.sorted]
    refine sortedByAlias_congr hperm ?_
    rw [map_routeAlias_of_isMember hall]
    exact nodup_routeAlias hs.nodup
  · rw [routes_eq_of_isMember hall, routes_eq_of_isMember hall']
    exact hperm.map _

/-- Two snapshots of one approval that are valid, at whatever times, have the same members and,
up to their order, the same routes; no alias is changed between them.  A snapshot that was
prepared is valid at that time.  The digests of a configuration do not depend on the order of
its routes. -/
theorem approval_binds_configuration :
    (∀ (s t : RouteSnapshot) (checkedAt checkedAt' : ℤ), s.approval = t.approval →
      s.requireValid checkedAt = .ok () → t.requireValid checkedAt' = .ok () →
        s.members = t.members ∧ s.routes.Perm t.routes ∧
          changedRouteAliases s.routes t.routes = .ok []) ∧
    (∀ (approval : ConfigurationApproval) (routes : List RouteContent)
      (connections : UUID → Option ConnectionApproval) (checkedAt : ℤ) (s : RouteSnapshot),
      RouteSnapshot.prepare approval routes connections checkedAt = .ok s →
        s.requireValid checkedAt = .ok ()) ∧
    (∀ (routes routes' : List RouteContent), routes.Perm routes' →
      (∀ scope version approvals now result,
        configurationManifests scope version routes approvals now = .ok result →
          configurationManifests scope version routes' approvals now = .ok result ∧
            catalogDigest routes = catalogDigest routes') ∧
      ((routes.map RouteContent.routeAlias).Nodup →
        catalogDigest routes = catalogDigest routes')) := by
  refine ⟨?_, ?_, ?_⟩
  · intro s t checkedAt checkedAt' happroval hs ht
    obtain ⟨members, hbound⟩ := RouteSnapshot.requireValid_bound hs
    obtain ⟨members', hbound'⟩ := RouteSnapshot.requireValid_bound ht
    obtain ⟨hmembers, hroutes⟩ := hbound.same hbound' happroval
    exact ⟨hmembers, hroutes, changedRouteAliases_perm hroutes hbound.nodup⟩
  · intro approval routes connections checkedAt s h
    unfold RouteSnapshot.prepare at h
    obtain ⟨result, -, h⟩ := bind_eq_ok.1 h
    obtain ⟨-, h⟩ := require_bind_eq_ok.1 h
    split at h
    next =>
      obtain ⟨hvalid, h⟩ := check_bind_eq_ok.1 h
      obtain rfl := Except.ok.inj h
      exact hvalid
    next => cases h
  · intro routes routes' hperm
    refine ⟨fun scope version approvals now result h => ?_, catalogDigest_perm hperm⟩
    refine ⟨configurationManifests_perm hperm h, catalogDigest_perm hperm ?_⟩
    obtain ⟨members, hmembers, -⟩ := bind_eq_ok.1 h
    exact nodup_routeAlias (configurationMembers_eq_ok.1 hmembers).1

/-! ## Two snapshots of one approval -/

namespace RouteSample

def routeScope : RouteScope := ⟨7, "api", "gateway"⟩

def routeIdentity : ProgramIdentity := ⟨routeScope, "1", "instance", ⟨"program"⟩, ⟨"trust"⟩⟩

def routeConnection : ConnectionApproval where
  approvalId := 20
  connection := ⟨routeScope, 21, "connection"⟩
  state := .approved
  evidenceSha256 := ⟨"evidence"⟩
  issuedEpoch := 0
  expiresEpoch := 600
  epochs := by decide
  window := by decide

def routeModel : RouteContent where
  scope := routeScope
  modelId := 22
  routeAlias := ⟨"model", by decide⟩
  displayName := "Model"
  createdAt := 0
  profile := .openaiV1
  connection := routeConnection.connection
  budgetEpoch := 8
  details := ""
  bindings := rfl

def routeMember : RouteMember where
  scope := routeScope
  routeVersion := 23
  routeAlias := routeModel.routeAlias
  modelId := 22
  contentSha256 := routeModel.sha256
  connectionApproval := routeConnection
  approvalSha256 := ⟨routeConnection⟩
  approval := by decide

def routeConfiguration : ConfigurationApproval where
  scope := routeScope
  routeVersion := 23
  generation := 1
  manifestSha256 := ⟨manifestOf [routeMember]⟩
  dependencyManifestSha256 := ⟨dependenciesOf [routeModel]⟩
  catalogSha256 := catalogDigest [routeModel]
  entryCount := 1
  requiredProgramSha256 := routeIdentity.programSha256
  requiredProfiles := [.openaiV1]
  budgetEpoch := 8
  approvalId := 24
  issuedEpoch := 0
  activateBeforeEpoch := 600
  valid := by decide

def routeSnapshot : RouteSnapshot := ⟨routeConfiguration, [routeModel], [routeMember], by decide⟩

/-- A second model on the same connection. -/
def secondModel : RouteContent where
  scope := routeScope
  modelId := 32
  routeAlias := ⟨"other", by decide⟩
  displayName := "Other"
  createdAt := 0
  profile := .openaiV1
  connection := routeConnection.connection
  budgetEpoch := 8
  details := ""
  bindings := rfl

def pairMember (route : RouteContent) : RouteMember where
  scope := routeScope
  routeVersion := 33
  routeAlias := route.routeAlias
  modelId := route.modelId
  contentSha256 := route.sha256
  connectionApproval := routeConnection
  approvalSha256 := ⟨routeConnection⟩
  approval := by decide

def pairRoutes : List RouteContent := [secondModel, routeModel]

def pairConfiguration : ConfigurationApproval where
  scope := routeScope
  routeVersion := 33
  generation := 2
  manifestSha256 := ⟨manifestOf (pairRoutes.map pairMember)⟩
  dependencyManifestSha256 := ⟨dependenciesOf pairRoutes⟩
  catalogSha256 := catalogDigest pairRoutes
  entryCount := 2
  requiredProgramSha256 := routeIdentity.programSha256
  requiredProfiles := [.openaiV1]
  budgetEpoch := 8
  approvalId := 34
  issuedEpoch := 0
  activateBeforeEpoch := 600
  valid := by decide

def connectionApprovals (revisionId : UUID) : Option ConnectionApproval :=
  if revisionId = 21 then some routeConnection else none

/-- The members are in the order of their aliases. -/
def pairSnapshot : RouteSnapshot :=
  ⟨pairConfiguration, pairRoutes, [pairMember routeModel, pairMember secondModel], by decide⟩

/-- The same routes the other way round. -/
def reversedSnapshot : RouteSnapshot :=
  { pairSnapshot with routes := pairRoutes.reverse, lengths := by decide }

end RouteSample

/-- A snapshot of two routes is prepared, and with the routes the other way round it is valid
later on: the members are the same, and no alias is changed. -/
theorem reversed_snapshot_bound :
    RouteSnapshot.prepare RouteSample.pairConfiguration RouteSample.pairRoutes
      RouteSample.connectionApprovals 0 = .ok RouteSample.pairSnapshot ∧
    RouteSample.pairSnapshot.requireValid 0 = .ok () ∧
    RouteSample.reversedSnapshot.requireValid 300 = .ok () ∧
    RouteSample.pairSnapshot.routes ≠ RouteSample.reversedSnapshot.routes ∧
    RouteSample.pairSnapshot.members = RouteSample.reversedSnapshot.members ∧
    RouteSample.pairSnapshot.routes.Perm RouteSample.reversedSnapshot.routes ∧
    changedRouteAliases RouteSample.pairSnapshot.routes RouteSample.reversedSnapshot.routes =
      .ok [] ∧
    catalogDigest RouteSample.pairSnapshot.routes =
      catalogDigest RouteSample.reversedSnapshot.routes := by
  obtain ⟨hbinds, hprepares, hdigests⟩ := approval_binds_configuration
  have hprepared : RouteSnapshot.prepare RouteSample.pairConfiguration RouteSample.pairRoutes
      RouteSample.connectionApprovals 0 = .ok RouteSample.pairSnapshot := rfl
  have hvalid : RouteSample.pairSnapshot.requireValid 0 = .ok () :=
    hprepares _ _ _ _ _ hprepared
  have hreversed : RouteSample.reversedSnapshot.requireValid 300 = .ok () := rfl
  obtain ⟨hmembers, hroutes, hchanged⟩ :=
    hbinds RouteSample.pairSnapshot RouteSample.reversedSnapshot 0 300 rfl hvalid hreversed
  exact ⟨hprepared, hvalid, hreversed, by decide, hmembers, hroutes, hchanged,
    (hdigests _ _ hroutes).2 (by decide)⟩

end Turnstile
