import Turnstile.Persistence.GatewayTargets

/-!
# The order of deliveries

What the row of an instance says is the least, the greatest or the newest of what was
delivered, so it depends on the set of deliveries alone (`Summarises`), except for a
version and a processor count: the newest observation that gives none leaves what was
there.  Whether attributions conflict depends on the set of deliveries too, and the row
of a request says what all of them agree on.
-/

namespace Turnstile

open Guard

/-! ## The row of an instance -/

namespace GatewayInstanceObservation

variable {existing incoming o o' r r' : GatewayInstanceObservation} {key : UUID × NonemptyText}
  {s : Set GatewayInstanceObservation} {β : Type} {field : GatewayInstanceObservation → Option β}

/-- The time of the last success; one that is missing is before any other. -/
def successTime (o : GatewayInstanceObservation) : WithBot ℤ := o.lastSuccessfulRequestAt

theorem merge_successTime :
    (existing.merge incoming).successTime = max incoming.successTime existing.successTime := by
  change (existing.mergedSuccess incoming : WithBot ℤ) = max incoming.successTime _
  unfold successTime mergedSuccess
  cases incoming.lastSuccessfulRequestAt with
  | none => exact (max_eq_right (bot_le (α := WithBot ℤ))).symm
  | some new =>
      cases existing.lastSuccessfulRequestAt with
      | none => exact (max_eq_left (bot_le (α := WithBot ℤ))).symm
      | some old =>
          dsimp only
          split
          next hlt => exact (max_eq_left (WithBot.coe_le_coe.2 hlt.le)).symm
          next hle => exact (max_eq_right (WithBot.coe_le_coe.2 (not_lt.1 hle))).symm

/-- An optional field: what the newest gives replaces what was there. -/
def Filled (field : GatewayInstanceObservation → Option β) : Prop :=
  ∀ existing incoming, field (existing.merge incoming)
    = if existing.lastSeenAt ≤ incoming.lastSeenAt then (field incoming).or (field existing)
      else field existing

theorem filled_runtimeVersion : Filled runtimeVersion := fun _ _ => rfl

theorem filled_processorCount : Filled processorCount := fun _ _ => rfl

/-- Such a field of the row: the newest observation's value, if it gives one. -/
structure Carries (field : GatewayInstanceObservation → Option β)
    (s : Set GatewayInstanceObservation) (r : GatewayInstanceObservation) : Prop where
  newest : ∀ o ∈ s, o.lastSeenAt = r.lastSeenAt → ∀ v ∈ field o, v ∈ field r
  given : ∀ v ∈ field r, ∃ o ∈ s, v ∈ field o

/-- What the row of an instance says of a set of observations. -/
structure Summarises (key : UUID × NonemptyText) (s : Set GatewayInstanceObservation)
    (r : GatewayInstanceObservation) : Prop where
  key : r.key = key
  first : IsLeast (firstSeenAt '' s) r.firstSeenAt
  last : IsGreatest (lastSeenAt '' s) r.lastSeenAt
  success : IsGreatest (successTime '' s) r.successTime
  newest : ∀ o ∈ s, o.lastSeenAt = r.lastSeenAt →
    r.source = o.source ∧ r.confidence = o.confidence
  version : Carries runtimeVersion s r
  count : Carries processorCount s r

/-- One observation says itself. -/
theorem summarises_singleton (o : GatewayInstanceObservation) : Summarises o.key {o} o where
  key := rfl
  first := by
    rw [Set.image_singleton]
    exact isLeast_singleton
  last := by
    rw [Set.image_singleton]
    exact isGreatest_singleton
  success := by
    rw [Set.image_singleton]
    exact isGreatest_singleton
  newest := by
    rintro _ rfl -
    exact ⟨rfl, rfl⟩
  version := ⟨by rintro _ rfl - v hv; exact hv, fun v hv => ⟨o, rfl, hv⟩⟩
  count := ⟨by rintro _ rfl - v hv; exact hv, fun v hv => ⟨o, rfl, hv⟩⟩

theorem Carries.merge (h : Carries field s r) (hfield : Filled field)
    (hdistinct : Set.InjOn lastSeenAt (insert o s)) : Carries field (insert o s) (r.merge o) := by
  have hlast : (r.merge o).lastSeenAt = max o.lastSeenAt r.lastSeenAt := rfl
  constructor
  · intro x hx hnewest v hv
    rw [hlast] at hnewest
    rw [hfield]
    split
    next hle =>
      rw [max_eq_left hle] at hnewest
      cases hdistinct hx (Set.mem_insert _ _) hnewest
      rw [Option.mem_def.1 hv]
      rfl
    next hlt =>
      rw [max_eq_right (not_le.1 hlt).le] at hnewest
      rcases hx with rfl | hx
      · exact absurd hnewest.ge hlt
      · exact h.newest x hx hnewest v hv
  · intro v hv
    rw [hfield] at hv
    have hcases : v ∈ field o ∨ v ∈ field r := by
      split at hv
      next =>
        rcases Option.or_eq_some_iff.1 hv with hv | ⟨-, hv⟩
        · exact .inl hv
        · exact .inr hv
      next => exact .inr hv
    rcases hcases with hv | hv
    · exact ⟨o, Set.mem_insert _ _, hv⟩
    · obtain ⟨x, hx, hv⟩ := h.given v hv
      exact ⟨x, Set.mem_insert_of_mem _ hx, hv⟩

/-- Merging an observation adds it to what the row says. -/
theorem Summarises.merge (h : Summarises key s r)
    (hdistinct : Set.InjOn lastSeenAt (insert o s)) : Summarises key (insert o s) (r.merge o) where
  key := h.key
  first := by
    rw [Set.image_insert_eq]
    exact h.first.insert _
  last := by
    rw [Set.image_insert_eq]
    exact h.last.insert _
  success := by
    rw [Set.image_insert_eq, merge_successTime]
    exact h.success.insert _
  newest := by
    intro x hx hnewest
    have hlast : (r.merge o).lastSeenAt = max o.lastSeenAt r.lastSeenAt := rfl
    rw [hlast] at hnewest
    unfold GatewayInstanceObservation.merge
    by_cases hle : r.lastSeenAt ≤ o.lastSeenAt
    · rw [max_eq_left hle] at hnewest
      cases hdistinct hx (Set.mem_insert _ _) hnewest
      simp only [if_pos hle, and_self]
    · rw [max_eq_right (not_le.1 hle).le] at hnewest
      simp only [if_neg hle]
      rcases hx with rfl | hx
      · exact absurd hnewest.ge hle
      · exact h.newest x hx hnewest
  version := h.version.merge filled_runtimeVersion hdistinct
  count := h.count.merge filled_processorCount hdistinct

/-- Rows that are the same apart from the version and the processor count. -/
structure Same (r r' : GatewayInstanceObservation) : Prop where
  key : r.key = r'.key
  first : r.firstSeenAt = r'.firstSeenAt
  last : r.lastSeenAt = r'.lastSeenAt
  success : r.lastSuccessfulRequestAt = r'.lastSuccessfulRequestAt
  source : r.source = r'.source
  confidence : r.confidence = r'.confidence

/-- Rows that say the same set of observations are the same. -/
theorem Summarises.same (h : Summarises key s r) (h' : Summarises key s r') : Same r r' := by
  have hlast : r.lastSeenAt = r'.lastSeenAt := h.last.unique h'.last
  obtain ⟨o, ho, hnewest⟩ := h.last.1
  have hsaid := h.newest o ho hnewest
  have hsaid' := h'.newest o ho (hnewest.trans hlast)
  exact ⟨h.key.trans h'.key.symm, h.first.unique h'.first, hlast, h.success.unique h'.success,
    hsaid.1.trans hsaid'.1.symm, hsaid.2.trans hsaid'.2.symm⟩

/-- The newest of some observations gives a value, or none of them does. -/
def LatestCarries (field : GatewayInstanceObservation → Option β)
    (s : Set GatewayInstanceObservation) : Prop :=
  ∀ o ∈ s, (∀ x ∈ s, x.lastSeenAt ≤ o.lastSeenAt) → field o = none → ∀ x ∈ s, field x = none

theorem Carries.eq (h : Carries field s r) (h' : Carries field s r')
    (hlast : IsGreatest (lastSeenAt '' s) r.lastSeenAt)
    (hlast' : IsGreatest (lastSeenAt '' s) r'.lastSeenAt) (hlatest : LatestCarries field s) :
    field r = field r' := by
  obtain ⟨o, ho, hnewest⟩ := hlast.1
  have hmax : ∀ x ∈ s, x.lastSeenAt ≤ o.lastSeenAt := fun x hx =>
    hnewest ▸ hlast.2 (Set.mem_image_of_mem _ hx)
  cases hfield : field o with
  | some v =>
      have hr : field r = some v := h.newest o ho hnewest v hfield
      have hr' : field r' = some v := h'.newest o ho (hnewest.trans (hlast.unique hlast')) v hfield
      rw [hr, hr']
  | none =>
      have hnone := hlatest o ho hmax hfield
      have hmissing : ∀ {r}, Carries field s r → field r = none := by
        intro r h
        rw [Option.eq_none_iff_forall_not_mem]
        intro v hv
        obtain ⟨x, hx, hv⟩ := h.given v hv
        rw [hnone x hx] at hv
        cases hv
      rw [hmissing h, hmissing h']

/-- Observations of one instance, no two of which were made at one time. -/
structure Distinct (key : UUID × NonemptyText) (s : Set GatewayInstanceObservation) : Prop where
  key : ∀ o ∈ s, o.key = key
  times : Set.InjOn lastSeenAt s

end GatewayInstanceObservation

open GatewayInstanceObservation

/-- Observations of one instance are merged into its row. -/
def observationMerger : Merger (GatewayInstanceObservation × ℤ) ObservationRow where
  first d := ⟨d.1, d.2⟩
  merge row d := some ⟨row.observation.merge d.1, d.2⟩

theorem observationMerger_summary (key : UUID × NonemptyText) :
    observationMerger.Summary Prod.fst
      (fun s row => Distinct key s → Summarises key s row.observation) (fun _ _ => False) where
  first d hdistinct := by
    rw [← hdistinct.key d.1 rfl]
    exact summarises_singleton d.1
  merge := by
    intro s row d row' hrow hmerge hdistinct
    cases hmerge
    have hbefore : Distinct key s :=
      ⟨fun o ho => hdistinct.key o (Set.mem_insert_of_mem _ ho),
        hdistinct.times.mono (Set.subset_insert _ _)⟩
    exact (hrow hbefore).merge hdistinct.times
  refused _ := iff_of_false (fun h => Option.some_ne_none _ h) (by simp)
  symm h := h
  irrefl _ h := h

/-- No observation is refused. -/
theorem observationMerger_not_refuses {observations : List (GatewayInstanceObservation × ℤ)} :
    ¬observationMerger.Refuses observations := by
  rw [(observationMerger_summary (0, ⟨"-", by decide⟩)).refuses_iff]
  simp

/-- An optional field of the row is the same whenever the newest observation gives it or
none does, and otherwise some redelivery changes it. -/
theorem field_redelivers_iff {key : UUID × NonemptyText} {β : Type}
    {field : GatewayInstanceObservation → Option β}
    {observations : List (GatewayInstanceObservation × ℤ)} (hfield : Filled field)
    (hcarries : ∀ {s r}, Summarises key s r → Carries field s r)
    (hdistinct : Distinct key {o | o ∈ observations.map Prod.fst}) :
    (∀ observations', Merger.Redelivers Prod.fst observations observations' →
        Option.Rel (fun r r' => field r.observation = field r'.observation)
          (observationMerger.run observations) (observationMerger.run observations')) ↔
      LatestCarries field {o | o ∈ observations.map Prod.fst} := by
  have hsummary := observationMerger_summary key
  constructor
  · intro hsame o ho hmax hnone x hx
    by_contra hgiven
    obtain ⟨d, hd, rfl⟩ := List.mem_map.1 ho
    obtain ⟨d', hd', rfl⟩ := List.mem_map.1 hx
    have hagain :
        ∀ e ∈ observations, Merger.Redelivers Prod.fst observations (e :: observations) := by
      intro e he o
      rw [List.map_cons, List.mem_cons]
      exact or_iff_right_of_imp fun heq => heq ▸ List.mem_map_of_mem he
    -- With the newest in front no other is the latest, so the field stays missing,
    obtain ⟨r, hr, -, hmissing⟩ := observationMerger.run_cons_induction (a := d) (l := observations)
      (P := fun r => r.observation.lastSeenAt = d.1.lastSeenAt ∧ field r.observation = none)
      ⟨rfl, hnone⟩ <| by
        rintro r r' e he ⟨hlast, hr⟩ hmerge
        cases hmerge
        have hle := hmax e.1 (List.mem_map_of_mem he)
        refine ⟨(congrArg (max e.1.lastSeenAt) hlast).trans (max_eq_right hle), ?_⟩
        rw [hfield, hr, hlast]
        split
        next hge =>
          have heq := hdistinct.times (List.mem_map_of_mem he) ho (le_antisymm hle hge)
          rw [heq, hnone]
          rfl
        next => rfl
    -- and with one in front that gives it, it stays given.
    obtain ⟨r', hr', hstays⟩ := observationMerger.run_cons_induction (a := d') (l := observations)
      (P := fun r => field r.observation ≠ none) hgiven <| by
        intro r r' e he hr hmerge
        cases hmerge
        rw [hfield]
        split
        next => simp [hr]
        next => exact hr
    have h := hsame _ (hagain d hd)
    have h' := hsame _ (hagain d' hd')
    rw [hr] at h
    rw [hr'] at h'
    generalize observationMerger.run observations = row at h h'
    cases h with
    | some h =>
        cases h' with
        | some h' => exact hstays (h'.symm.trans (h.trans hmissing))
  · intro hlatest observations' hsame
    refine hsummary.run_redelivers (fun h h' => ?_) hsame observationMerger_not_refuses
    have hr := h hdistinct
    have hr' := h' hdistinct
    exact (hcarries hr).eq (hcarries hr') hr.last hr'.last hlatest

/-! ### The store -/

namespace GatewayTargetStore

variable {casefold : String → String} {store : GatewayTargetStore casefold}
  {key : UUID × NonemptyText} {observations : List (GatewayInstanceObservation × ℤ)}

theorem deliverObservation_of_unknown {d : GatewayInstanceObservation × ℤ}
    (h : store.gatewayDeployments d.1.deploymentId = none) :
    store.deliverObservation d = store := by
  unfold deliverObservation upsertGatewayInstanceObservation
  rw [h]
  rfl

theorem deliverObservation_of_known {d : GatewayInstanceObservation × ℤ}
    (h : (store.gatewayDeployments d.1.deploymentId).isSome) :
    store.deliverObservation d = { store with
      gatewayInstanceObservations := Function.update store.gatewayInstanceObservations d.1.key
        (observationMerger.deliver (store.gatewayInstanceObservations d.1.key) d) } := by
  unfold deliverObservation upsertGatewayInstanceObservation
  rw [require_bind_of h]
  cases store.gatewayInstanceObservations d.1.key <;> rfl

/-- The row of an instance after deliveries: nothing, if its deployment is unknown. -/
theorem observation_after (habsent : store.gatewayInstanceObservations key = none)
    (hkey : ∀ d ∈ observations, d.1.key = key) :
    (observations.foldl deliverObservation store).gatewayDeployments = store.gatewayDeployments ∧
      (observations.foldl deliverObservation store).gatewayInstanceObservations key
        = if (store.gatewayDeployments key.1).isSome then observationMerger.run observations
          else none := by
  induction observations using List.reverseRecOn with
  | nil => exact ⟨rfl, by simpa using habsent⟩
  | append_singleton observations d ih =>
      obtain ⟨hdeployments, hrow⟩ := ih fun d hd => hkey d (List.mem_append_left _ hd)
      have hd : d.1.key = key := hkey d (by simp)
      have hdeployment : d.1.deploymentId = key.1 := congrArg Prod.fst hd
      rw [List.foldl_append, List.foldl_cons, List.foldl_nil]
      by_cases hknown : (store.gatewayDeployments key.1).isSome
      · rw [if_pos hknown] at hrow ⊢
        rw [deliverObservation_of_known (by rw [hdeployments, hdeployment]; exact hknown)]
        refine ⟨hdeployments, ?_⟩
        dsimp only
        rw [hd, Function.update_self, hrow, Merger.run_concat]
      · rw [if_neg hknown] at hrow ⊢
        rw [deliverObservation_of_unknown]
        · exact ⟨hdeployments, hrow⟩
        · rw [hdeployments, hdeployment]
          simpa using hknown

end GatewayTargetStore

/-! ## The row of a request -/

namespace UsageGatewayAttribution

variable {casefold : String → String} {a b c r r' : UsageGatewayAttribution casefold}
  {usageId : NonemptyText} {s : Set (UsageGatewayAttribution casefold)}

theorem SameGateway.refl (a : UsageGatewayAttribution casefold) : SameGateway a a :=
  ⟨rfl, rfl, rfl, rfl, rfl, rfl⟩

theorem SameGateway.symm (h : SameGateway a b) : SameGateway b a :=
  ⟨h.target.symm, h.gateway.symm, h.managed.symm, h.service.symm, h.region.symm, h.revision.symm⟩

theorem SameGateway.trans (h : SameGateway a b) (h' : SameGateway b c) : SameGateway a c :=
  ⟨h.target.trans h'.target, h.gateway.trans h'.gateway, h.managed.trans h'.managed,
    h.service.trans h'.service, h.region.trans h'.region, h.revision.trans h'.revision⟩

theorem Matches.refl (a : UsageGatewayAttribution casefold) : Matches a a where
  toSameGateway := .refl a
  deployment _ hx _ hy := Option.mem_unique hx hy
  instance_ _ hx _ hy := by rw [Option.mem_unique hx hy]

theorem Matches.symm (h : Matches a b) : Matches b a where
  toSameGateway := h.toSameGateway.symm
  deployment x hx y hy := (h.deployment y hy x hx).symm
  instance_ x hx y hy := (h.instance_ y hy x hx).symm

/-- What the row of a request says of a set of attributions. -/
structure Summarises (usageId : NonemptyText) (s : Set (UsageGatewayAttribution casefold))
    (r : UsageGatewayAttribution casefold) : Prop where
  nonempty : s.Nonempty
  usage : (∀ a ∈ s, a.usageId = usageId) → r.usageId = usageId
  gateway : ∀ a ∈ s, SameGateway a r
  deployment : ∀ x, x ∈ r.gatewayDeploymentId ↔ ∃ a ∈ s, x ∈ a.gatewayDeploymentId
  instance_ : ∀ a ∈ s, ∀ x ∈ a.nativeInstanceId, ∃ y ∈ r.nativeInstanceId, casefold y = casefold x
  given : ∀ y ∈ r.nativeInstanceId, ∃ a ∈ s, y ∈ a.nativeInstanceId
  version : IsGreatest (eventSchemaVersion '' s) r.eventSchemaVersion
  source : IsGreatest ((fun a => a.attributionSource.rank) '' s) r.attributionSource.rank
  observed : IsGreatest (observedAt '' s) r.observedAt

/-- One attribution says itself. -/
theorem summarises_singleton (a : UsageGatewayAttribution casefold) : Summarises usageId {a} a where
  nonempty := ⟨a, rfl⟩
  usage h := h a rfl
  gateway := by
    rintro _ rfl
    exact .refl _
  deployment x := by simp
  instance_ := by
    rintro _ rfl x hx
    exact ⟨x, hx, rfl⟩
  given y hy := ⟨a, rfl, hy⟩
  version := by
    rw [Set.image_singleton]
    exact isGreatest_singleton
  source := by
    rw [Set.image_singleton]
    exact isGreatest_singleton
  observed := by
    rw [Set.image_singleton]
    exact isGreatest_singleton

/-- An attribution matches the row when it matches all that the row says. -/
theorem Summarises.matches_iff (h : Summarises usageId s r) :
    Matches r a ↔ ∀ b ∈ s, Matches b a := by
  constructor
  · intro hmatch b hb
    refine ⟨(h.gateway b hb).trans hmatch.toSameGateway, fun x hx => ?_, fun x hx y hy => ?_⟩
    · exact hmatch.deployment x ((h.deployment x).2 ⟨b, hb, hx⟩)
    · obtain ⟨z, hz, hfold⟩ := h.instance_ b hb x hx
      exact hfold.symm.trans (hmatch.instance_ z hz y hy)
  · intro hmatch
    obtain ⟨b, hb⟩ := h.nonempty
    refine ⟨(h.gateway b hb).symm.trans (hmatch b hb).toSameGateway, fun x hx => ?_, fun x hx => ?_⟩
    · obtain ⟨c, hc, hx⟩ := (h.deployment x).1 hx
      exact (hmatch c hc).deployment x hx
    · obtain ⟨c, hc, hx⟩ := h.given x hx
      exact (hmatch c hc).instance_ x hx

theorem merge_rank (h : r.identityMatches a = true) :
    (r.merge a h).attributionSource.rank
      = max a.attributionSource.rank r.attributionSource.rank := by
  unfold merge
  dsimp only
  split
  next hle => exact (max_eq_left hle).symm
  next hlt => exact (max_eq_right (not_le.1 hlt).le).symm

/-- Merging an attribution adds it to what the row says. -/
theorem Summarises.merge (h : Summarises usageId s r) (hmatch : r.identityMatches a = true) :
    Summarises usageId (insert a s) (r.merge a hmatch) where
  nonempty := Set.insert_nonempty a s
  usage hs := h.usage fun b hb => hs b (Set.mem_insert_of_mem _ hb)
  gateway := by
    rintro b (rfl | hb)
    · have hsame := (identityMatches_iff.1 hmatch).toSameGateway.symm
      exact ⟨hsame.target, hsame.gateway, hsame.managed, hsame.service, hsame.region,
        hsame.revision⟩
    · have hsame := h.gateway b hb
      exact ⟨hsame.target, hsame.gateway, hsame.managed, hsame.service, hsame.region,
        hsame.revision⟩
  deployment x := by
    have hx := (identityMatches_iff.1 hmatch).deployment
    simp only [UsageGatewayAttribution.merge, Set.exists_mem_insert, ← h.deployment x]
    cases hr : r.gatewayDeploymentId with
    | none => simp
    | some y =>
        simp only [Option.some_or, Option.mem_some_iff]
        constructor
        · exact .inr
        · rintro (ha | hy)
          · exact hx y hr x ha
          · exact hy
  instance_ := by
    rintro b (rfl | hb) x hx
    · cases hr : r.nativeInstanceId with
      | none => exact ⟨x, by simpa [UsageGatewayAttribution.merge, hr] using hx, rfl⟩
      | some y =>
          exact ⟨y, by simp [UsageGatewayAttribution.merge, hr],
            (identityMatches_iff.1 hmatch).instance_ y hr x hx⟩
    · obtain ⟨y, hy, hfold⟩ := h.instance_ b hb x hx
      exact ⟨y, by simp [UsageGatewayAttribution.merge, Option.mem_def.1 hy], hfold⟩
  given y hy := by
    rcases Option.or_eq_some_iff.1 hy with hy | ⟨-, hy⟩
    · obtain ⟨b, hb, hy⟩ := h.given y hy
      exact ⟨b, Set.mem_insert_of_mem _ hb, hy⟩
    · exact ⟨a, Set.mem_insert _ _, hy⟩
  version := by
    have hversion := h.version.insert a.eventSchemaVersion
    rw [max_comm] at hversion
    rw [Set.image_insert_eq]
    exact hversion
  source := by
    rw [Set.image_insert_eq, merge_rank]
    exact h.source.insert _
  observed := by
    have hobserved := h.observed.insert a.observedAt
    rw [max_comm] at hobserved
    rw [Set.image_insert_eq]
    exact hobserved

/-- Rows that are the same apart from letter case. -/
structure Same (r r' : UsageGatewayAttribution casefold) : Prop extends SameGateway r r' where
  usage : r.usageId = r'.usageId
  deployment : r.gatewayDeploymentId = r'.gatewayDeploymentId
  instance_ : r.nativeInstanceId.map (fun id : NonemptyText => casefold id)
    = r'.nativeInstanceId.map (fun id : NonemptyText => casefold id)
  version : r.eventSchemaVersion = r'.eventSchemaVersion
  source : r.attributionSource = r'.attributionSource
  observed : r.observedAt = r'.observedAt

/-- Rows that say the same set of attributions are the same apart from letter case. -/
theorem Summarises.same (h : Summarises usageId s r) (h' : Summarises usageId s r')
    (hs : ∀ a ∈ s, a.usageId = usageId) : Same r r' := by
  obtain ⟨a, ha⟩ := h.nonempty
  refine ⟨(h.gateway a ha).symm.trans (h'.gateway a ha), (h.usage hs).trans (h'.usage hs).symm,
    Option.ext fun x => (h.deployment x).trans (h'.deployment x).symm, ?_,
    h.version.unique h'.version,
    UsageGatewayAttributionSource.rank_injective (h.source.unique h'.source),
    h.observed.unique h'.observed⟩
  -- An instance id of one row was given by an attribution, so the other row has one too.
  have hinto : ∀ {r r'}, Summarises usageId s r → Summarises usageId s r' →
      ∀ y ∈ r.nativeInstanceId, ∃ z ∈ r'.nativeInstanceId, casefold z = casefold y := by
    intro r r' h h' y hy
    obtain ⟨b, hb, hy⟩ := h.given y hy
    exact h'.instance_ b hb y hy
  cases hr : r.nativeInstanceId with
  | some y =>
      obtain ⟨z, hz, hfold⟩ := hinto h h' y hr
      rw [Option.mem_def.1 hz, Option.map_some, Option.map_some, hfold]
  | none =>
      cases hr' : r'.nativeInstanceId with
      | none => rfl
      | some z =>
          obtain ⟨y, hy, -⟩ := hinto h' h z hr'
          rw [hr] at hy
          cases hy

end UsageGatewayAttribution

open UsageGatewayAttribution in
/-- Attributions of one request are merged into its row, unless they conflict. -/
def attributionMerger (casefold : String → String) :
    Merger (UsageGatewayAttribution casefold × ℤ) (AttributionRow casefold) where
  first d := ⟨d.1, d.2, d.2⟩
  merge row d :=
    if h : row.attribution.identityMatches d.1 = true then
      some ⟨row.attribution.merge d.1 h, row.createdAt, d.2⟩
    else none

theorem attributionMerger_summary (casefold : String → String) (usageId : NonemptyText) :
    (attributionMerger casefold).Summary Prod.fst
      (fun s row => UsageGatewayAttribution.Summarises usageId s row.attribution)
      (fun a b => ¬a.Matches b) where
  first d := UsageGatewayAttribution.summarises_singleton d.1
  merge := by
    intro s row d row' hrow hmerge
    unfold attributionMerger at hmerge
    dsimp only at hmerge
    split at hmerge
    next hmatch =>
      cases hmerge
      exact hrow.merge hmatch
    next => cases hmerge
  refused := by
    intro s row d hrow
    have hmatch := hrow.matches_iff (a := d.1)
    rw [← UsageGatewayAttribution.identityMatches_iff] at hmatch
    unfold attributionMerger
    by_cases h : row.attribution.identityMatches d.1 = true
    · simp only [dif_pos h, reduceCtorEq, false_iff]
      rintro ⟨b, hb, hclash⟩
      exact hclash (hmatch.1 h b hb)
    · simp only [dif_neg h, true_iff]
      by_contra hnone
      refine h (hmatch.2 fun b hb => ?_)
      by_contra hclash
      exact hnone ⟨b, hb, hclash⟩
  symm h := mt UsageGatewayAttribution.Matches.symm h
  irrefl a h := h (.refl a)

/-! ### The store -/

namespace GatewayTargetStore

variable {casefold : String → String} {store : GatewayTargetStore casefold}
  {usageId : NonemptyText} {attributions : List (UsageGatewayAttribution casefold × ℤ)}
  {d : UsageGatewayAttribution casefold × ℤ}

/-- The checks that do not look at the row pass. -/
def Admissible (store : GatewayTargetStore casefold) (a : UsageGatewayAttribution casefold) :
    Prop :=
  store.checkUsageGatewayAttribution a = .ok ()

instance (a : UsageGatewayAttribution casefold) : Decidable (store.Admissible a) :=
  inferInstanceAs (Decidable (_ = _))

/-- They do not raise the conflict. -/
theorem check_ne_conflict (a : UsageGatewayAttribution casefold) :
    store.checkUsageGatewayAttribution a
      ≠ .error ⟨"Conflicting Gateway attribution for canonical usage ID"⟩ := by
  have hraises : Raises (· ≠ ⟨"Conflicting Gateway attribution for canonical usage ID"⟩)
      (store.checkUsageGatewayAttribution a) := by
    unfold checkUsageGatewayAttribution
    simp only [raises_bind, raises_require]
    refine ⟨fun _ => by decide, fun _ _ => ⟨fun _ => by decide, fun _ _ => ?_⟩⟩
    cases a.gatewayDeploymentId with
    | none => exact raises_ok ()
    | some id =>
        dsimp only
        cases store.gatewayDeployments id with
        | none => exact raises_error.2 (by decide)
        | some deployment =>
            simp only [raises_bind, raises_require]
            exact ⟨fun _ => by decide, fun _ _ _ => by decide⟩
  exact fun h => hraises _ h rfl

theorem deliverAttribution_of_inadmissible (h : ¬store.Admissible d.1) :
    store.deliverAttribution d = store ∧ store.upsertUsageGatewayAttribution d.2 d.1
      ≠ .error ⟨"Conflicting Gateway attribution for canonical usage ID"⟩ := by
  obtain ⟨e, he⟩ : ∃ e, store.checkUsageGatewayAttribution d.1 = .error e := by
    cases hcheck : store.checkUsageGatewayAttribution d.1 with
    | error e => exact ⟨e, rfl⟩
    | ok _ => exact absurd hcheck h
  have hraise : store.upsertUsageGatewayAttribution d.2 d.1 = .error e := by
    unfold upsertUsageGatewayAttribution
    rw [he, error_bind]
  refine ⟨by rw [deliverAttribution, hraise], ?_⟩
  rw [hraise]
  intro hconflict
  cases hconflict
  exact check_ne_conflict d.1 he

/-- An admissible attribution is offered to the row of its request. -/
theorem upsert_of_admissible (h : store.Admissible d.1) :
    store.upsertUsageGatewayAttribution d.2 d.1 =
      match (attributionMerger casefold).offer (store.usageGatewayAttributions d.1.usageId) d with
      | none => .error ⟨"Conflicting Gateway attribution for canonical usage ID"⟩
      | some row => .ok ({ store with
          usageGatewayAttributions :=
            Function.update store.usageGatewayAttributions d.1.usageId (some row) }, row) := by
  unfold upsertUsageGatewayAttribution
  rw [show store.checkUsageGatewayAttribution d.1 = .ok () from h, ok_bind]
  cases store.usageGatewayAttributions d.1.usageId with
  | none => rfl
  | some row =>
      unfold Merger.offer attributionMerger
      by_cases hmatch : row.attribution.identityMatches d.1 = true
      · simp only [dif_pos hmatch]
        rfl
      · simp only [dif_neg hmatch]
        rfl

theorem deliverAttribution_of_admissible (h : store.Admissible d.1) :
    store.deliverAttribution d = { store with
      usageGatewayAttributions := Function.update store.usageGatewayAttributions d.1.usageId <|
        (attributionMerger casefold).deliver (store.usageGatewayAttributions d.1.usageId) d } := by
  rw [deliverAttribution, upsert_of_admissible h, Merger.deliver]
  cases (attributionMerger casefold).offer (store.usageGatewayAttributions d.1.usageId) d with
  | none => simp
  | some row => rfl

/-- The deliveries that pass the checks of the store. -/
def admitted (store : GatewayTargetStore casefold)
    (attributions : List (UsageGatewayAttribution casefold × ℤ)) :
    List (UsageGatewayAttribution casefold × ℤ) :=
  attributions.filter fun d => store.Admissible d.1

/-- The row of a request after deliveries, and whether one of them conflicted. -/
theorem attribution_after (habsent : store.usageGatewayAttributions usageId = none)
    (husage : ∀ d ∈ attributions, d.1.usageId = usageId) :
    (∀ a, (attributions.foldl deliverAttribution store).Admissible a ↔ store.Admissible a) ∧
      (attributions.foldl deliverAttribution store).usageGatewayAttributions usageId
        = (attributionMerger casefold).run (store.admitted attributions) ∧
      (store.HitsConflict attributions
        ↔ (attributionMerger casefold).Refuses (store.admitted attributions)) := by
  induction attributions using List.reverseRecOn with
  | nil => exact ⟨fun _ => Iff.rfl, habsent, iff_of_false not_hits_nil not_hits_nil⟩
  | append_singleton attributions d ih =>
      obtain ⟨hadmissible, hrow, hconflict⟩ := ih fun d hd => husage d (List.mem_append_left _ hd)
      have hd : d.1.usageId = usageId := husage d (by simp)
      rw [HitsConflict, hits_concat, ← HitsConflict, hconflict, List.foldl_append, List.foldl_cons,
        List.foldl_nil, admitted, List.filter_append, ← admitted]
      by_cases hpass : store.Admissible d.1
      · have hnow := (hadmissible d.1).2 hpass
        rw [List.filter_cons_of_pos (by simpa using hpass), List.filter_nil,
          deliverAttribution_of_admissible hnow, Merger.run_concat, Merger.refuses_concat,
          upsert_of_admissible hnow, hd, hrow]
        refine ⟨hadmissible, by dsimp only; rw [Function.update_self], or_congr_right ?_⟩
        cases (attributionMerger casefold).offer _ d <;> simp
      · obtain ⟨hsame, hne⟩ := deliverAttribution_of_inadmissible (mt (hadmissible d.1).1 hpass)
        rw [List.filter_cons_of_neg (by simpa using hpass), List.filter_nil, List.append_nil, hsame]
        exact ⟨hadmissible, hrow, or_iff_left hne⟩

end GatewayTargetStore

/-! ## Order and duplication -/

namespace GatewayTargetStore

variable {casefold : String → String} (store : GatewayTargetStore casefold)

/-- The row of an instance after deliveries. -/
def observed (key : UUID × NonemptyText)
    (observations : List (GatewayInstanceObservation × ℤ)) : Option ObservationRow :=
  (observations.foldl deliverObservation store).gatewayInstanceObservations key

/-- The row of a request after deliveries. -/
def attributed (usageId : NonemptyText)
    (attributions : List (UsageGatewayAttribution casefold × ℤ)) :
    Option (AttributionRow casefold) :=
  (attributions.foldl deliverAttribution store).usageGatewayAttributions usageId

/-- However the observations are delivered, the rows agree. -/
def OrderFree (agree : GatewayInstanceObservation → GatewayInstanceObservation → Prop)
    (key : UUID × NonemptyText) (observations : List (GatewayInstanceObservation × ℤ)) : Prop :=
  ∀ observations', Merger.Redelivers Prod.fst observations observations' →
    Option.Rel (fun r r' => agree r.observation r'.observation) (store.observed key observations)
      (store.observed key observations')

end GatewayTargetStore

section

variable {casefold : String → String} {store : GatewayTargetStore casefold}
  {key : UUID × NonemptyText} {usageId : NonemptyText}
  {observations : List (GatewayInstanceObservation × ℤ)}
  {attributions : List (UsageGatewayAttribution casefold × ℤ)}

/-- The rows agree when what the merger makes of them does, or nothing is stored. -/
theorem orderFree_iff {agree : GatewayInstanceObservation → GatewayInstanceObservation → Prop}
    (habsent : store.gatewayInstanceObservations key = none)
    (hkey : ∀ d ∈ observations, d.1.key = key) :
    store.OrderFree agree key observations ↔ store.gatewayDeployments key.1 = none ∨
      ∀ observations', Merger.Redelivers Prod.fst observations observations' →
        Option.Rel (fun r r' => agree r.observation r'.observation)
          (observationMerger.run observations) (observationMerger.run observations') := by
  have hkey' : ∀ observations', Merger.Redelivers Prod.fst observations observations' →
      ∀ d ∈ observations', d.1.key = key := by
    intro observations' hsame d hd
    obtain ⟨d', hd', heq⟩ := List.mem_map.1 ((hsame d.1).1 (List.mem_map_of_mem hd))
    exact heq ▸ hkey d' hd'
  unfold GatewayTargetStore.OrderFree GatewayTargetStore.observed
  cases hdeployment : store.gatewayDeployments key.1 with
  | none =>
      refine iff_of_true (fun observations' hsame => ?_) (.inl rfl)
      rw [(GatewayTargetStore.observation_after habsent hkey).2,
        (GatewayTargetStore.observation_after habsent (hkey' observations' hsame)).2, hdeployment]
      exact .none
  | some deployment =>
      rw [or_iff_right (Option.some_ne_none deployment)]
      refine forall_congr' fun observations' => forall_congr' fun hsame => ?_
      rw [(GatewayTargetStore.observation_after habsent hkey).2,
        (GatewayTargetStore.observation_after habsent (hkey' observations' hsame)).2, hdeployment]
      rfl

/-- What is delivered in any order and however often makes the same row: of an instance,
apart from a version and a processor count that the newest observation does not give; of
a request, apart from letter case, unless some two attributions conflict. -/
theorem gateway_merges_order_free (habsent : store.gatewayInstanceObservations key = none)
    (hkey : ∀ d ∈ observations, d.1.key = key)
    (hdistinct : (observations.map fun d => d.1.lastSeenAt).Nodup)
    (hunused : store.usageGatewayAttributions usageId = none)
    (husage : ∀ d ∈ attributions, d.1.usageId = usageId) :
    store.OrderFree GatewayInstanceObservation.Same key observations ∧
      (store.OrderFree (fun r r' => r.runtimeVersion = r'.runtimeVersion) key observations ↔
        store.gatewayDeployments key.1 = none ∨
          LatestCarries runtimeVersion {o | o ∈ observations.map Prod.fst}) ∧
      (store.OrderFree (fun r r' => r.processorCount = r'.processorCount) key observations ↔
        store.gatewayDeployments key.1 = none ∨
          LatestCarries processorCount {o | o ∈ observations.map Prod.fst}) ∧
      ∀ attributions', Merger.Redelivers Prod.fst attributions attributions' →
        (store.HitsConflict attributions' ↔ store.HitsConflict attributions) ∧
          (¬store.HitsConflict attributions →
            Option.Rel (fun r r' => r.attribution.Same r'.attribution)
              (store.attributed usageId attributions)
                (store.attributed usageId attributions')) := by
  have hset : Distinct key {o | o ∈ observations.map Prod.fst} := by
    constructor
    · intro o ho
      obtain ⟨d, hd, rfl⟩ := List.mem_map.1 ho
      exact hkey d hd
    · intro o ho o' ho' htime
      obtain ⟨d, hd, rfl⟩ := List.mem_map.1 ho
      obtain ⟨d', hd', rfl⟩ := List.mem_map.1 ho'
      rw [List.inj_on_of_nodup_map hdistinct hd hd' htime]
  refine ⟨?_, ?_, ?_, fun attributions' hsame => ?_⟩
  · rw [orderFree_iff habsent hkey]
    refine .inr fun observations' hsame => ?_
    exact (observationMerger_summary key).run_redelivers
      (fun h h' => (h hset).same (h' hset)) hsame observationMerger_not_refuses
  · rw [orderFree_iff habsent hkey,
      field_redelivers_iff filled_runtimeVersion (fun h => h.version) hset]
  · rw [orderFree_iff habsent hkey,
      field_redelivers_iff filled_processorCount (fun h => h.count) hset]
  · have husage' : ∀ d ∈ attributions', d.1.usageId = usageId := by
      intro d hd
      obtain ⟨d', hd', heq⟩ := List.mem_map.1 ((hsame d.1).1 (List.mem_map_of_mem hd))
      exact heq ▸ husage d' hd'
    have hsummary := attributionMerger_summary casefold usageId
    obtain ⟨-, hrow, hconflict⟩ := GatewayTargetStore.attribution_after hunused husage
    obtain ⟨-, hrow', hconflict'⟩ := GatewayTargetStore.attribution_after hunused husage'
    have hadmitted : Merger.Redelivers Prod.fst (store.admitted attributions)
        (store.admitted attributions') := by
      intro a
      simp only [GatewayTargetStore.admitted, List.mem_map, List.mem_filter, decide_eq_true_eq]
      have ha := hsame a
      simp only [List.mem_map] at ha
      constructor
      · rintro ⟨d, ⟨hd, hpass⟩, rfl⟩
        obtain ⟨d', hd', heq⟩ := ha.1 ⟨d, hd, rfl⟩
        exact ⟨d', ⟨hd', heq ▸ hpass⟩, heq⟩
      · rintro ⟨d, ⟨hd, hpass⟩, rfl⟩
        obtain ⟨d', hd', heq⟩ := ha.2 ⟨d, hd, rfl⟩
        exact ⟨d', ⟨hd', heq ▸ hpass⟩, heq⟩
    rw [hconflict, hconflict', GatewayTargetStore.attributed, GatewayTargetStore.attributed, hrow,
      hrow']
    refine ⟨hsummary.refuses_redelivers hadmitted, fun hnone => ?_⟩
    refine hsummary.run_redelivers (fun h h' => h.same h' fun a ha => ?_) hadmitted hnone
    obtain ⟨d, hd, rfl⟩ := List.mem_map.1 ha
    exact husage d (List.mem_filter.1 hd).1

end

/-! ### A version that comes late -/

namespace Sample

def instanceKey : UUID × NonemptyText := (2, ⟨"instance", by decide⟩)

/-- An observation of the instance at a time. -/
def observation (time : ℤ) (runtimeVersion : Option NonemptyText) : GatewayInstanceObservation where
  deploymentId := 2
  nativeInstanceId := ⟨"instance", by decide⟩
  runtimeVersion := runtimeVersion
  processorCount := none
  firstSeenAt := time
  lastSeenAt := time
  lastSuccessfulRequestAt := none
  source := .apimContext
  confidence := .observed
  window := le_rfl
  success := nofun

def attribution (source : UsageGatewayAttributionSource) (deploymentId : Option UUID)
    (nativeInstanceId : Option NonemptyText) : UsageGatewayAttribution String.toLower where
  usageId := ⟨"usage", by decide⟩
  apimTargetId := 1
  gatewayDeploymentId := deploymentId
  nativeGatewayId := ⟨"gateway", by decide⟩
  nativeInstanceId := nativeInstanceId
  isManaged := false
  apimServiceId := ⟨"service", by decide⟩
  apimRegion := ⟨"region", by decide⟩
  apiRevision := ⟨"1", by decide⟩
  eventSchemaVersion := ⟨2, by decide⟩
  attributionSource := source
  observedAt := 0
  identity := ⟨by decide +kernel, nofun⟩

def gatewayStore : GatewayTargetStore String.toLower where
  apimTargets := [1]
  gatewayDeployments id := if id = 2 then some ⟨1, "gateway", .selfHosted⟩ else none
  usageRecords := [⟨"usage", by decide⟩]
  gatewayInstanceObservations _ := none
  usageGatewayAttributions _ := none

/-- The first of the attributions gives nothing, the second the deployment, and two the instance,
in different letters. -/
def attributions : List (UsageGatewayAttribution String.toLower × ℤ) :=
  [(attribution .backfill none none, 12), (attribution .observer (some 2) none, 13),
    (attribution .eventHub none (some ⟨"Unit", by decide⟩), 14),
    (attribution .reconciliation none (some ⟨"unit", by decide⟩), 15)]

theorem attributions_agree : ¬gatewayStore.HitsConflict attributions := by
  have hpasses : ∀ n < 4, ∀ d ∈ attributions[n]?,
      (((attributions.take n).foldl GatewayTargetStore.deliverAttribution
        gatewayStore).upsertUsageGatewayAttribution d.2 d.1).isOk = true := by decide +kernel
  rintro ⟨before, d, after, hsplit, hconflict⟩
  have hlength : before.length < 4 := by
    have hsum := congrArg List.length hsplit
    rw [List.length_append, List.length_cons] at hsum
    change 4 = _ at hsum
    omega
  have hpass := hpasses before.length hlength d (by
    rw [hsplit, List.getElem?_append_right le_rfl, Nat.sub_self]
    rfl)
  rw [hsplit, List.take_left] at hpass
  rw [hconflict] at hpass
  cases hpass

/-- The version is known, and then the instance is seen again without it. -/
def observations : List (GatewayInstanceObservation × ℤ) :=
  [(observation 1 (some ⟨"2.0", by decide⟩), 10), (observation 2 none, 11)]

end Sample

/-- An observation that is delivered after a later one does not give the row its version. -/
theorem gateway_observation_order_matters :
    Sample.gatewayStore.gatewayInstanceObservations Sample.instanceKey = none ∧
      (∀ d ∈ Sample.observations, d.1.key = Sample.instanceKey) ∧
      (Sample.observations.map fun d => d.1.lastSeenAt).Nodup ∧
      Sample.observations.reverse.Perm Sample.observations ∧
      (Sample.gatewayStore.observed Sample.instanceKey Sample.observations).map (·.observation)
        ≠ (Sample.gatewayStore.observed Sample.instanceKey Sample.observations.reverse).map
          (·.observation) :=
  ⟨rfl, by decide, by decide, List.reverse_perm _, by decide⟩

/-- The rows agree in whatever order and however often the deliveries come; but not on the version
of the instance, which a late observation gives.  The row of the request has the deployment and
the instance, each of which other attributions do not give, in one of its spellings. -/
theorem gateway_merges_order_free_sample :
    Sample.gatewayStore.OrderFree GatewayInstanceObservation.Same Sample.instanceKey
        Sample.observations ∧
      ¬Sample.gatewayStore.OrderFree (fun r r' => r.runtimeVersion = r'.runtimeVersion)
        Sample.instanceKey Sample.observations ∧
      (∀ attributions', Merger.Redelivers Prod.fst Sample.attributions attributions' →
        ¬Sample.gatewayStore.HitsConflict attributions' ∧
        Option.Rel (fun r r' => r.attribution.Same r'.attribution)
          (Sample.gatewayStore.attributed ⟨"usage", by decide⟩ Sample.attributions)
          (Sample.gatewayStore.attributed ⟨"usage", by decide⟩ attributions')) ∧
      Merger.Redelivers Prod.fst Sample.attributions
        (Sample.attributions.reverse ++ Sample.attributions.reverse) ∧
      (Sample.gatewayStore.attributed ⟨"usage", by decide⟩ Sample.attributions).map (fun r =>
        (r.attribution.gatewayDeploymentId, r.attribution.nativeInstanceId)) =
          some (some 2, some ⟨"Unit", by decide⟩) ∧
      (Sample.gatewayStore.attributed ⟨"usage", by decide⟩
        (Sample.attributions.reverse ++ Sample.attributions.reverse)).map (fun r =>
        (r.attribution.gatewayDeploymentId, r.attribution.nativeInstanceId)) =
          some (some 2, some ⟨"unit", by decide⟩) := by
  have habsent : Sample.gatewayStore.gatewayInstanceObservations Sample.instanceKey = none := rfl
  have hunused : Sample.gatewayStore.usageGatewayAttributions ⟨"usage", by decide⟩ = none := rfl
  have hkey : ∀ d ∈ Sample.observations, d.1.key = Sample.instanceKey := by decide
  have husage : ∀ d ∈ Sample.attributions, d.1.usageId = ⟨"usage", by decide⟩ := by decide
  obtain ⟨hrows, hversion, -, hattributions⟩ :=
    gateway_merges_order_free habsent hkey (by decide) hunused husage
  refine ⟨hrows, fun hfree => ?_, fun attributions' hsame => ?_, fun a => ?_, by decide +kernel,
    by decide +kernel⟩
  · rcases hversion.1 hfree with hunknown | hlatest
    · exact absurd hunknown (by decide)
    · have hmax : ∀ o ∈ Sample.observations.map Prod.fst, o.lastSeenAt ≤ 2 := by decide
      have hnone := hlatest (Sample.observation 2 none) (by decide) hmax rfl
        (Sample.observation 1 (some ⟨"2.0", by decide⟩)) (by decide)
      cases hnone
  · obtain ⟨hconflict, hsame⟩ := hattributions attributions' hsame
    exact ⟨mt hconflict.1 Sample.attributions_agree, hsame Sample.attributions_agree⟩
  · simp only [List.map_append, List.map_reverse, List.mem_append, List.mem_reverse, or_self]

end Turnstile
