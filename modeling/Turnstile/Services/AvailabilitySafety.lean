import Turnstile.Services.AvailabilityProjection

/-!
# The projection never goes back

Whatever is in flight replaces a row by one that is not older (`Safe`), so what was stored
of a model has rising revisions (`AvailabilityInv`).  What the projectors may rely on is
that nothing of the history is lost (`Advances`); every step of the system keeps to it.
-/

namespace Turnstile

open Guard Client

variable {ι : Type}

namespace AvailabilityWorld

variable {w w' w'' : AvailabilityWorld ι} {i : ι} {m : UUID} {state d : ModelAvailabilityState}
  {write : Write UUID AvailabilityEntity} {entity : AvailabilityEntity}

/-! ## What is never lost -/

/-- `w'` is a later state of `w`. -/
structure Advances (w w' : AvailabilityWorld ι) : Prop where
  table : w.table.Evolves w'.table
  source : ∀ m state, w.source m = some state →
    ∃ state', w'.source m = some state' ∧ (state' = state ∨ state.revision < state'.revision)
  published : ∀ state ∈ w.published, state ∈ w'.published
  stored : w.stored <:+ w'.stored
  snapshots : w.snapshots <:+ w'.snapshots

theorem Advances.refl (w : AvailabilityWorld ι) : Advances w w where
  table := .refl _
  source _ state h := ⟨state, h, .inl rfl⟩
  published _ h := h
  stored := List.suffix_rfl
  snapshots := List.suffix_rfl

theorem Advances.trans (h : Advances w w') (h' : Advances w' w'') : Advances w w'' where
  table := h.table.trans h'.table
  source m state hstate := by
    obtain ⟨state', hstate', hcases⟩ := h.source m state hstate
    obtain ⟨state'', hstate'', hcases'⟩ := h'.source m state' hstate'
    refine ⟨state'', hstate'', ?_⟩
    rcases hcases with rfl | hlt
    · exact hcases'
    · rcases hcases' with rfl | hlt'
      · exact .inr hlt
      · exact .inr (hlt.trans hlt')
  published state hstate := h'.published state (h.published state hstate)
  stored := h.stored.trans h'.stored
  snapshots := h.snapshots.trans h'.snapshots

/-- A state that is found again was there all the time. -/
theorem Advances.source_between (h : Advances w w') (h' : Advances w' w'')
    (hfirst : w.source m = some d) (hlast : w''.source m = some d) : w'.source m = some d := by
  obtain ⟨state, hstate, hcases⟩ := h.source m d hfirst
  obtain ⟨state', hstate', hcases'⟩ := h'.source m state hstate
  rw [hlast] at hstate'
  cases hstate'
  rcases hcases with rfl | hlt
  · exact hstate
  · rcases hcases' with rfl | hlt'
    · exact hstate
    · exact absurd (hlt.trans hlt') (lt_irrefl _)

theorem advances_look (w : AvailabilityWorld ι) (i : ι) (m : UUID) : Advances w (w.look i m) where
  table := .refl _
  source _ state h := ⟨state, h, .inl rfl⟩
  published _ h := h
  stored := List.suffix_rfl
  snapshots := List.suffix_cons _ _

theorem advances_commit (w : AvailabilityWorld ι) (write : Write UUID AvailabilityEntity) :
    Advances w (w.commit write) where
  table := Table.evolves_apply _ _
  source _ state h := ⟨state, h, .inl rfl⟩
  published _ h := h
  stored := List.suffix_cons _ _
  snapshots := List.suffix_rfl

theorem advances_pool (w : AvailabilityWorld ι) (pool : List (Write UUID AvailabilityEntity)) :
    Advances w { w with pool := pool } where
  table := .refl _
  source _ state h := ⟨state, h, .inl rfl⟩
  published _ h := h
  stored := List.suffix_rfl
  snapshots := List.suffix_rfl

theorem advances_offer (w : AvailabilityWorld ι) (write : Write UUID AvailabilityEntity) :
    Advances w (w.offer write) := by
  unfold offer
  split
  · exact advances_commit w write
  · exact .refl w

@[simp] theorem publish_source_self : (w.publish state).source state.modelId = some state :=
  Function.update_self ..

theorem publish_source_of_ne (h : m ≠ state.modelId) : (w.publish state).source m = w.source m :=
  Function.update_of_ne h ..

theorem advances_publish
    (h : ∀ current ∈ w.source state.modelId, current.revision < state.revision) :
    Advances w (w.publish state) where
  table := .refl _
  source m old hold := by
    by_cases hm : m = state.modelId
    · subst hm
      exact ⟨state, publish_source_self, .inr (h old hold)⟩
    · exact ⟨old, by rw [publish_source_of_ne hm, hold], .inl rfl⟩
  published _ h := List.mem_cons_of_mem _ h
  stored := List.suffix_rfl
  snapshots := List.suffix_rfl

/-! ## Replacements that do not go back -/

/-- A replacement by a state of the repository that is not older than the row whose tag
it carries. -/
def Safe (w : AvailabilityWorld ι) (write : Write UUID AvailabilityEntity) : Prop :=
  ∃ desired ∈ w.published, desired.modelId = write.key ∧ write.document = desired.entity ∧
    ∀ etag ∈ write.ifMatch, ∃ row, row.etag = etag ∧ w.table.Seen write.key row ∧
      row.document.revision ≤ desired.revision

theorem Safe.of_advances (h : w.Safe write) (hw : Advances w w') : w'.Safe write := by
  obtain ⟨desired, hdesired, hkey, hdocument, hrow⟩ := h
  refine ⟨desired, hw.published _ hdesired, hkey, hdocument, fun etag hetag => ?_⟩
  obtain ⟨row, htag, hseen, hle⟩ := hrow etag hetag
  exact ⟨row, htag, hseen.of_evolves hw.table, hle⟩

/-- What holds at all times. -/
structure AvailabilityInv (w : AvailabilityWorld ι) : Prop where
  tagged : w.table.WellTagged
  source : ∀ m state, w.source m = some state → state ∈ w.published ∧ state.modelId = m
  newest : ∀ state ∈ w.published,
    ∃ current, w.source state.modelId = some current ∧ state.revision ≤ current.revision
  unique : ∀ a ∈ w.published, ∀ b ∈ w.published, a.modelId = b.modelId →
    a.revision = b.revision → a = b
  origin : ∀ e ∈ w.stored, ∃ state ∈ w.published, state.modelId = e.1 ∧ e.2 = state.entity
  rising : w.stored.Pairwise fun later earlier =>
    later.1 = earlier.1 → earlier.2.revision ≤ later.2.revision
  row : ∀ m, w.row? m = (w.stored.find? fun e => e.1 = m).map Prod.snd
  snapshots : ∀ e ∈ w.snapshots, ∀ entity ∈ e.row, (e.modelId, entity) ∈ w.stored
  pool : ∀ write ∈ w.pool, w.Safe write

namespace AvailabilityInv

theorem empty : AvailabilityInv (AvailabilityWorld.empty : AvailabilityWorld ι) where
  tagged := by
    intro m row h
    cases h
  source m state h := by cases h
  newest state h := by cases h
  unique a ha := by cases ha
  origin e h := by cases h
  rising := List.Pairwise.nil
  row m := rfl
  snapshots e h := by cases h
  pool write h := by cases h

/-- The entity of a row is the newest that was stored. -/
theorem mem_stored (h : AvailabilityInv w) (hrow : w.row? m = some entity) :
    (m, entity) ∈ w.stored := by
  rw [h.row, Option.map_eq_some_iff] at hrow
  obtain ⟨e, he, rfl⟩ := hrow
  have hkey : e.1 = m := by simpa using List.find?_some he
  rw [← hkey]
  exact List.mem_of_find?_eq_some he

/-- Nothing that was stored of a model is newer than its row. -/
theorem le_row (h : AvailabilityInv w) {e : UUID × AvailabilityEntity} (he : e ∈ w.stored) :
    ∃ entity, w.row? e.1 = some entity ∧ e.2.revision ≤ entity.revision := by
  have hfound : (w.stored.find? fun x => x.1 = e.1).isSome := by
    rw [List.find?_isSome]
    exact ⟨e, he, by simp⟩
  obtain ⟨first, hfirst⟩ := Option.isSome_iff_exists.1 hfound
  refine ⟨first.2, by rw [h.row, hfirst]; rfl, ?_⟩
  obtain ⟨hkey, before, after, hsplit, hbefore⟩ := List.find?_eq_some_iff_append.1 hfirst
  have hkey : first.1 = e.1 := by simpa using hkey
  have hrising := h.rising
  rw [hsplit] at he hrising
  rcases List.mem_append.1 he with hearly | hlate
  · exact absurd (hbefore e hearly) (by simp)
  · rcases List.mem_cons.1 hlate with rfl | hlate
    · exact le_refl _
    · exact (List.pairwise_cons.1 (List.pairwise_append.1 hrising).2.1).1 e hlate hkey

/-- Entities of one model with one revision are the same. -/
theorem entity_unique (h : AvailabilityInv w) {e e' : UUID × AvailabilityEntity}
    (he : e ∈ w.stored) (he' : e' ∈ w.stored) (hkey : e.1 = e'.1)
    (hrevision : e.2.revision = e'.2.revision) : e.2 = e'.2 := by
  obtain ⟨a, ha, hmodel, hentity⟩ := h.origin e he
  obtain ⟨b, hb, hmodel', hentity'⟩ := h.origin e' he'
  rw [hentity, hentity'] at hrevision ⊢
  rw [h.unique a ha b hb (hmodel.trans (hkey.trans hmodel'.symm)) hrevision]

theorem look (h : AvailabilityInv w) (i : ι) (m : UUID) : AvailabilityInv (w.look i m) where
  tagged := h.tagged
  source := h.source
  newest := h.newest
  unique := h.unique
  origin := h.origin
  rising := h.rising
  row := h.row
  snapshots e he entity hentity := by
    rcases List.mem_cons.1 he with rfl | he
    · exact h.mem_stored hentity
    · exact h.snapshots e he entity hentity
  pool := h.pool

theorem setPool (h : AvailabilityInv w) {pool : List (Write UUID AvailabilityEntity)}
    (hpool : ∀ write ∈ pool, w.Safe write) : AvailabilityInv { w with pool := pool } where
  tagged := h.tagged
  source := h.source
  newest := h.newest
  unique := h.unique
  origin := h.origin
  rising := h.rising
  row := h.row
  snapshots := h.snapshots
  pool write hwrite := (hpool write hwrite).of_advances (advances_pool w pool)

/-- A safe replacement that is admitted does not go back. -/
theorem commit (h : AvailabilityInv w) (hsafe : w.Safe write) (hadmits : w.table.Admits [write]) :
    AvailabilityInv (w.commit write) := by
  obtain ⟨desired, hdesired, hmodel, hdocument, hrow⟩ := hsafe
  have htag : w.table.etag? write.key = write.ifMatch := hadmits write (List.mem_singleton_self _)
  refine ⟨h.tagged.apply _, h.source, h.newest, h.unique, fun e he => ?_, ?_, fun m => ?_,
    fun e he entity hentity => List.mem_cons_of_mem _ (h.snapshots e he entity hentity),
    fun write' hwrite' => (h.pool write' hwrite').of_advances (advances_commit w write)⟩
  · rcases List.mem_cons.1 he with rfl | he
    · exact ⟨desired, hdesired, hmodel, hdocument⟩
    · exact h.origin e he
  · refine List.pairwise_cons.2 ⟨fun e he hkey => ?_, h.rising⟩
    -- The row that is replaced is the newest stored, and the replacement is not older.
    obtain ⟨entity, hentity, hle⟩ := h.le_row he
    rw [← hkey] at hentity
    obtain ⟨row, hfound, rfl⟩ := Option.map_eq_some_iff.1 hentity
    have hmatch : write.ifMatch = some row.etag := by
      rw [← htag, Table.etag?, hfound]
      rfl
    obtain ⟨row', htag', hseen, hle'⟩ := hrow row.etag hmatch
    have hsame : w.table.rows write.key = some row' :=
      hseen.rows_of_etag? (by rw [htag, hmatch, htag'])
    rw [hfound, Option.some.injEq] at hsame
    rw [← hsame] at hle'
    change e.2.revision ≤ write.document.revision
    rw [hdocument]
    exact hle.trans hle'
  · change ((w.table.apply [write]).rows m).map Row.document
      = (((write.key, write.document) :: w.stored).find? fun e => e.1 = m).map Prod.snd
    by_cases hm : write.key = m
    · subst hm
      rw [Table.apply_rows_cons_self, List.find?_cons_of_pos (by simp)]
      rfl
    · rw [Table.apply_rows_of_not_mem (by simpa using hm),
        List.find?_cons_of_neg (by simpa using hm)]
      exact h.row m

theorem offer (h : AvailabilityInv w) (hsafe : w.Safe write) : AvailabilityInv (w.offer write) := by
  unfold AvailabilityWorld.offer
  split
  next hadmits => exact h.commit hsafe hadmits
  next => exact h

theorem publish (h : AvailabilityInv w)
    (hnewer : ∀ current ∈ w.source state.modelId, current.revision < state.revision) :
    AvailabilityInv (w.publish state) := by
  have hadvances := advances_publish hnewer
  -- No state of this model had this revision before.
  have hfresh : ∀ old ∈ w.published, old.modelId = state.modelId →
      old.revision < state.revision := by
    intro old hold hmodel
    obtain ⟨current, hcurrent, hle⟩ := h.newest old hold
    rw [hmodel] at hcurrent
    exact hle.trans_lt (hnewer current hcurrent)
  refine ⟨h.tagged, fun m old hold => ?_, fun old hold => ?_, fun a ha b hb hmodel hrevision => ?_,
    fun e he => ?_, h.rising, h.row, h.snapshots,
    fun write hwrite => (h.pool write hwrite).of_advances hadvances⟩
  · by_cases hm : m = state.modelId
    · subst hm
      rw [publish_source_self] at hold
      cases hold
      exact ⟨List.mem_cons_self .., rfl⟩
    · rw [publish_source_of_ne hm] at hold
      obtain ⟨hmem, hmodel⟩ := h.source m old hold
      exact ⟨List.mem_cons_of_mem _ hmem, hmodel⟩
  · rcases List.mem_cons.1 hold with rfl | hold
    · exact ⟨old, publish_source_self, le_refl _⟩
    · obtain ⟨current, hcurrent, hle⟩ := h.newest old hold
      obtain ⟨current', hcurrent', rfl | hlt⟩ := hadvances.source _ _ hcurrent
      · exact ⟨_, hcurrent', hle⟩
      · exact ⟨_, hcurrent', hle.trans hlt.le⟩
  · rcases List.mem_cons.1 ha with hnew | hold <;> rcases List.mem_cons.1 hb with hnew' | hold'
    · rw [hnew, hnew']
    · rw [hnew] at hmodel hrevision
      exact absurd hrevision (hfresh b hold' hmodel.symm).ne'
    · rw [hnew'] at hmodel hrevision
      exact absurd hrevision (hfresh a hold hmodel).ne
    · exact h.unique a hold b hold' hmodel hrevision
  · obtain ⟨old, hold, hmodel, hentity⟩ := h.origin e he
    exact ⟨old, List.mem_cons_of_mem _ hold, hmodel, hentity⟩

end AvailabilityInv

end AvailabilityWorld

/-! ## The contract of the projectors -/

open AvailabilityWorld

/-- The invariant, and that nothing is lost, whatever changes are left out. -/
def availabilityContract (guard : AvailabilityWorld ι → AvailabilityWorld ι → Prop) :
    Contract ι (AvailabilityWorld ι) where
  inv := AvailabilityInv
  rely _ := Advances
  guard := guard
  refl _ := Advances.refl
  trans _ _ _ _ := Advances.trans

variable {guard : AvailabilityWorld ι → AvailabilityWorld ι → Prop} {i : ι} {m : UUID}
  {w w' : AvailabilityWorld ι}

theorem availabilityContract_tolerates :
    (availabilityContract guard).Tolerates (availabilityDynamics (ι := ι)) := by
  intro w l w' hinv hchange _
  change w.change l = some w' at hchange
  unfold AvailabilityWorld.change at hchange
  split at hchange
  next state =>
    split at hchange
    next hnewer =>
      cases hchange
      exact ⟨hinv.publish hnewer, fun _ => advances_publish hnewer⟩
    next => cases hchange
  next n =>
    obtain ⟨write, hwrite, rfl⟩ := Option.map_eq_some_iff.1 hchange
    have hsafe := hinv.pool write (List.mem_of_getElem? hwrite)
    have hrest : AvailabilityInv { w with pool := w.pool.eraseIdx n } :=
      hinv.setPool fun write hwrite => hinv.pool write (List.mem_of_mem_eraseIdx hwrite)
    have hadvances := advances_pool w (w.pool.eraseIdx n)
    exact ⟨hrest.offer (hsafe.of_advances hadvances),
      fun _ => hadvances.trans (advances_offer _ write)⟩
  next => cases hchange

/-- What a projector that returned a state had found. -/
def Projected (m : UUID) (i : ι) (result : Except AvailabilityError ModelAvailabilityState)
    (w : AvailabilityWorld ι) : Prop :=
  ∀ d, result = .ok d → d.modelId = m ∧ ⟨i, m, some d, some d.entity⟩ ∈ w.snapshots

theorem meets_availability_raise (e : AvailabilityError) (w : AvailabilityWorld ι) :
    Meets availabilityDynamics (availabilityContract guard) i (Projected m i)
      (Client.raise e : AvailabilityClient ModelAvailabilityState) w := by
  rintro w' _ _ d ⟨⟩

theorem meets_readRow
    {k : Option (Row AvailabilityEntity) → AvailabilityClient ModelAvailabilityState}
    (h : ∀ w', Advances w w' → AvailabilityInv w' →
      Meets availabilityDynamics (availabilityContract guard) i (Projected m i)
        (k (w'.table.rows m)) (w'.look i m)) :
    Meets availabilityDynamics (availabilityContract guard) i (Projected m i)
      (readVersionedEntity m >>= k) w := by
  intro w' hadvances hinv l answer w'' hanswer _
  cases l with
  | plain =>
      cases hanswer
      exact ⟨⟨hinv.look i m, fun _ _ => advances_look w' i m⟩, h w' hadvances hinv⟩
  | fail =>
      cases hanswer
      exact ⟨Contract.Allows.refl hinv, meets_availability_raise _ _⟩
  | _ => cases hanswer

theorem meets_readSource
    {k : Option ModelAvailabilityState → AvailabilityClient ModelAvailabilityState}
    (h : ∀ w', Advances w w' → AvailabilityInv w' →
      Meets availabilityDynamics (availabilityContract guard) i (Projected m i)
        (k (w'.source m)) w') :
    Meets availabilityDynamics (availabilityContract guard) i (Projected m i)
      (getModelAvailabilityState m >>= k) w := by
  intro w' hadvances hinv l answer w'' hanswer _
  cases l with
  | plain =>
      cases hanswer
      exact ⟨Contract.Allows.refl hinv, h w' hadvances hinv⟩
  | fail =>
      cases hanswer
      exact ⟨Contract.Allows.refl hinv, meets_availability_raise _ _⟩
  | _ => cases hanswer

/-- A safe replacement may be sent, and nothing follows from how it is answered. -/
theorem meets_replaceIfMatch {entity : AvailabilityEntity} {etag : Option ℕ}
    {k : Bool → AvailabilityClient ModelAvailabilityState}
    (hsafe : w.Safe ⟨m, entity, etag⟩)
    (h : ∀ b w', Advances w w' → AvailabilityInv w' →
      Meets availabilityDynamics (availabilityContract guard) i (Projected m i) (k b) w') :
    Meets availabilityDynamics (availabilityContract guard) i (Projected m i)
      (replaceAvailabilityIfMatch m entity etag >>= k) w := by
  intro w' hadvances hinv l answer w'' hanswer _
  have hsafe' := hsafe.of_advances hadvances
  have hoffer := hinv.offer hsafe'
  have hoffered := advances_offer w' ⟨m, entity, etag⟩
  have hnext : ∀ (answer : ReplaceAnswer) w'', Advances w' w'' → AvailabilityInv w'' →
      Meets availabilityDynamics (availabilityContract guard) i (Projected m i)
        ((Client.done answer.result).bind k) w'' := by
    intro answer w'' hadvances' hinv'
    cases answer with
    | replaced => exact h true w'' (hadvances.trans hadvances') hinv'
    | refused => exact h false w'' (hadvances.trans hadvances') hinv'
    | failed => exact meets_availability_raise _ _
  cases l with
  | plain =>
      cases hanswer
      exact ⟨⟨hoffer, fun _ _ => hoffered⟩, hnext _ _ hoffered hoffer⟩
  | doubted =>
      cases hanswer
      exact ⟨⟨hoffer, fun _ _ => hoffered⟩, hnext _ _ hoffered hoffer⟩
  | lost =>
      cases hanswer
      refine ⟨⟨hinv.setPool fun write hwrite => ?_, fun _ _ => advances_pool w' _⟩,
        meets_availability_raise _ _⟩
      rcases List.mem_cons.1 hwrite with rfl | hwrite
      · exact hsafe'
      · exact hinv.pool write hwrite
  | _ => cases hanswer

/-! ## A round -/

/-- What was read of a row is what it holds. -/
theorem projectedState_row {projected : Option ModelAvailabilityState}
    (h : projectedState (w.table.rows m) m = .ok projected) :
    (projected.map ModelAvailabilityState.entity) = w.row? m ∧
      ∀ state ∈ projected, state.modelId = m := by
  unfold projectedState at h
  cases hrow : w.table.rows m with
  | none =>
      rw [hrow] at h
      cases h
      exact ⟨by rw [row?, hrow]; rfl, nofun⟩
  | some row =>
      rw [hrow] at h
      dsimp only at h
      cases hstate : ModelAvailabilityState.fromEntity row.document m with
      | error e =>
          rw [hstate] at h
          cases h
      | ok state =>
          rw [hstate] at h
          cases h
          obtain ⟨hentity, hmodel⟩ := ModelAvailabilityState.fromEntity_eq_ok.1 hstate
          refine ⟨by rw [row?, hrow, Option.map_some, Option.map_some, hentity], ?_⟩
          rintro _ ⟨⟩
          exact hmodel

theorem meets_availabilityRound {retry : AvailabilityClient ModelAvailabilityState}
    (hretry : ∀ w', AvailabilityInv w' →
      Meets availabilityDynamics (availabilityContract guard) i (Projected m i) retry w')
    (w : AvailabilityWorld ι) :
    Meets availabilityDynamics (availabilityContract guard) i (Projected m i)
      (availabilityRound m retry) w := by
  unfold availabilityRound
  refine meets_readRow fun w₁ _ hinv₁ => ?_
  refine Meets.lift_bind (fun e _ => meets_availability_raise e _) fun projected hprojected => ?_
  have hlook₁ := advances_look w₁ i m
  refine meets_readSource fun w₂ hadvances₂ hinv₂ => ?_
  cases hsource : w₂.source m with
  | none => exact meets_availability_raise _ _
  | some desired =>
  obtain ⟨hpublished, hmodel⟩ := hinv₂.source m desired hsource
  dsimp only
  split
  next hforeign => exact absurd hmodel hforeign
  next =>
  split
  next => exact meets_availability_raise _ _
  next hforward =>
  -- The row that was read is not newer than the desired state.
  have hsafe : w₂.Safe ⟨m, desired.entity, (w₁.table.rows m).map Row.etag⟩ := by
    refine ⟨desired, hpublished, hmodel, rfl, fun etag hetag => ?_⟩
    obtain ⟨row, hrow, rfl⟩ := Option.map_eq_some_iff.1 hetag
    have hseen : w₂.table.Seen m row :=
      (Table.Seen.of_rows hinv₁.tagged hrow).of_evolves (hlook₁.trans hadvances₂).table
    refine ⟨row, rfl, hseen, ?_⟩
    obtain ⟨hentity, -⟩ := projectedState_row hprojected
    rw [row?, hrow, Option.map_some, Option.map_eq_some_iff] at hentity
    obtain ⟨state, rfl, hdocument⟩ := hentity
    rw [← hdocument]
    by_contra hlt
    exact hforward ⟨state, rfl, .inl (not_le.1 hlt)⟩
  refine meets_replaceIfMatch hsafe fun replaced w₃ hadvances₃ hinv₃ => ?_
  cases replaced with
  | false => exact hretry w₃ hinv₃
  | true =>
  refine meets_readRow fun w₄ hadvances₄ hinv₄ => ?_
  refine Meets.lift_bind (fun e _ => meets_availability_raise e _) fun observed hobserved => ?_
  have hlook₄ := advances_look w₄ i m
  refine meets_readSource fun w₅ hadvances₅ hinv₅ => ?_
  split
  next hboth =>
    -- The repository had the desired state before and after the row was read.
    obtain ⟨hlatest, rfl⟩ := hboth
    have hsame : w₄.source m = some desired :=
      (hadvances₃.trans hadvances₄).source_between (hlook₄.trans hadvances₅) hsource hlatest
    have hrow : w₄.row? m = some desired.entity := (projectedState_row hobserved).1.symm
    intro w₆ hadvances₆ _ d hd
    cases hd
    refine ⟨hmodel, (hadvances₅.trans hadvances₆).snapshots.subset ?_⟩
    rw [← hsame, ← hrow]
    exact List.mem_cons_self ..
  next => exact hretry w₅ hinv₅

theorem meets_projectModelAvailability (w : AvailabilityWorld ι) :
    Meets availabilityDynamics (availabilityContract guard) i (Projected m i)
      (projectModelAvailability m) w := by
  unfold projectModelAvailability
  induction 3 generalizing w with
  | zero => exact meets_availability_raise _ _
  | succ n ih => exact meets_availabilityRound (fun w' _ => ih w') w

/-! ## Runs -/

section

variable [DecidableEq ι] {calls : ι → UUID}

/-- Projectors of some models, over a table that is still empty. -/
abbrev Projectors (ι : Type) :=
  Client.System ι AvailabilityRequest.Answer (AvailabilityWorld ι) AvailabilityError
    ModelAvailabilityState

def projectors (calls : ι → UUID) : Projectors ι :=
  ⟨.empty, fun i => projectModelAvailability (calls i)⟩

/-- Any interleaving of projectors, of changes of the repository, and of what is in flight. -/
abbrev AvailabilityRuns : Projectors ι → Projectors ι → Prop :=
  Reaches availabilityDynamics anyChange

/-- The repository's state of a model is left alone. -/
def SourceRests (m : UUID) (w w' : AvailabilityWorld ι) : Prop := w'.source m = w.source m

/-- Nothing is lost by a step; what a projector found is what there was when it read a row. -/
theorem world_of_step {s s' : Projectors ι} (h : Step availabilityDynamics guard s s') :
    Advances s.world s'.world ∧ ∀ e ∈ s'.world.snapshots, e ∈ s.world.snapshots ∨
      e.source = s.world.source e.modelId ∧ e.row = s.world.row? e.modelId ∧
        ∃ next, s.clients e.client = .call (.readRow e.modelId) next := by
  obtain ⟨⟨j, l⟩, hnext, -⟩ := h
  have hquiet : ∀ {w w' : AvailabilityWorld ι} {P : AvailabilitySnapshot ι → Prop},
      Advances w w' → w'.snapshots = w.snapshots →
      Advances w w' ∧ ∀ e ∈ w'.snapshots, e ∈ w.snapshots ∨ P e := by
    intro w w' P hadvances hsnapshots
    rw [hsnapshots]
    exact ⟨hadvances, fun e he => .inl he⟩
  have hoffered : ∀ (w : AvailabilityWorld ι) write, (w.offer write).snapshots = w.snapshots := by
    intro w write
    unfold AvailabilityWorld.offer
    split <;> rfl
  cases j with
  | none =>
      obtain ⟨w', hchange, rfl⟩ := Option.map_eq_some_iff.1 hnext
      change s.world.change l = some w' at hchange
      unfold AvailabilityWorld.change at hchange
      split at hchange
      next state =>
        split at hchange
        next hnewer =>
          cases hchange
          exact hquiet (advances_publish hnewer) rfl
        next => cases hchange
      next n =>
        obtain ⟨write, -, rfl⟩ := Option.map_eq_some_iff.1 hchange
        exact hquiet
          ((advances_pool s.world (s.world.pool.eraseIdx n)).trans (advances_offer _ write))
          (hoffered _ write)
      next => cases hchange
  | some j =>
      rw [Client.System.next?] at hnext
      split at hnext
      next => cases hnext
      next r next hcall =>
        obtain ⟨⟨answer, w'⟩, hanswer, rfl⟩ := Option.map_eq_some_iff.1 hnext
        cases r with
        | readRow m =>
            cases l with
            | plain =>
                cases hanswer
                refine ⟨advances_look _ _ _, fun e he => ?_⟩
                rcases List.mem_cons.1 he with rfl | he
                · exact .inr ⟨rfl, rfl, next, hcall⟩
                · exact .inl he
            | fail =>
                cases hanswer
                exact hquiet (.refl _) rfl
            | _ => cases hanswer
        | readSource m =>
            cases l with
            | plain =>
                cases hanswer
                exact hquiet (.refl _) rfl
            | fail =>
                cases hanswer
                exact hquiet (.refl _) rfl
            | _ => cases hanswer
        | replace m entity etag =>
            cases l with
            | plain =>
                cases hanswer
                exact hquiet (advances_offer _ _) (hoffered _ _)
            | doubted =>
                cases hanswer
                exact hquiet (advances_offer _ _) (hoffered _ _)
            | lost =>
                cases hanswer
                exact hquiet (advances_pool _ _) rfl
            | _ => cases hanswer

theorem advances_of_reaches {s s' : Projectors ι} (h : Reaches availabilityDynamics guard s s') :
    Advances s.world s'.world := by
  induction h with
  | refl => exact .refl _
  | tail _ hstep ih => exact ih.trans (world_of_step hstep).1

/-- What a projector found is what there was at some moment when it read a row. -/
theorem snapshot_taken {s s' : Projectors ι} (h : Reaches availabilityDynamics guard s s')
    {e : AvailabilitySnapshot ι} (he : e ∈ s'.world.snapshots) (hnew : e ∉ s.world.snapshots) :
    ∃ s₁, Reaches availabilityDynamics guard s s₁ ∧ Reaches availabilityDynamics guard s₁ s' ∧
      e.source = s₁.world.source e.modelId ∧ e.row = s₁.world.row? e.modelId ∧
      ∃ next, s₁.clients e.client = .call (.readRow e.modelId) next := by
  induction h with
  | refl => exact absurd he hnew
  | tail hbefore hstep ih =>
      rcases (world_of_step hstep).2 e he with hold | ⟨hsource, hrow, hcall⟩
      · obtain ⟨s₁, hto, hfrom, hfound⟩ := ih hold
        exact ⟨s₁, hto, hfrom.tail hstep, hfound⟩
      · exact ⟨_, hbefore, .single hstep, hsource, hrow, hcall⟩

theorem source_rests {s s' : Projectors ι} (h : Reaches availabilityDynamics (SourceRests m) s s') :
    s'.world.source m = s.world.source m := by
  induction h with
  | refl => rfl
  | tail _ hstep ih =>
      obtain ⟨-, -, hrests⟩ := hstep
      exact hrests.trans ih

theorem runs_of_reaches {s s' : Projectors ι} (h : Reaches availabilityDynamics guard s s') :
    AvailabilityRuns s s' := by
  induction h with
  | refl => exact .refl
  | tail _ hstep ih =>
      obtain ⟨l, hnext, -⟩ := hstep
      exact ih.tail ⟨l, hnext, trivial⟩

omit [DecidableEq ι] in
theorem projectors_sound (calls : ι → UUID) :
    Sound availabilityDynamics (availabilityContract anyChange) (fun i => Projected (calls i) i)
      (projectors calls) :=
  ⟨.empty, fun _ => meets_projectModelAvailability _⟩

/-- The state in the row of a model is not older than the given one, and it is that one if
it has its revision. -/
def RowReaches (w : AvailabilityWorld ι) (m : UUID) (state : ModelAvailabilityState) : Prop :=
  ∃ state', w.row? m = some state'.entity ∧ state'.modelId = m ∧
    state.revision ≤ state'.revision ∧ (state.revision = state'.revision → state' = state)

/-- A projector has read a row. -/
def Started (i : ι) (w : AvailabilityWorld ι) : Prop := ∃ e ∈ w.snapshots, e.client = i

omit [DecidableEq ι] in
theorem rowReaches_of_stored (h : AvailabilityInv w) {state : ModelAvailabilityState}
    (hstored : (state.modelId, state.entity) ∈ w.stored) : RowReaches w state.modelId state := by
  obtain ⟨entity, hrow, hle⟩ := h.le_row hstored
  have hmem := h.mem_stored hrow
  obtain ⟨state', -, hmodel, rfl⟩ := h.origin _ hmem
  refine ⟨state', hrow, hmodel, hle, fun hrevision => ?_⟩
  exact ModelAvailabilityState.entity_injective (h.entity_unique hmem hstored rfl hrevision.symm)

/-- A row holds a state of its model and never goes back.  What a call returns was in the row
and in the repository at one moment while it read the row.  Once the repository rests, a call
that started then and has returned leaves a row that stays what the repository has. -/
theorem availability_never_rolls_back {s : Projectors ι}
    (h : AvailabilityRuns (projectors calls) s) :
    (∀ m entity, s.world.row? m = some entity →
      ∃ state : ModelAvailabilityState, state.modelId = m ∧ state.entity = entity ∧
        ∀ s', AvailabilityRuns s s' → RowReaches s'.world m state) ∧
    (∀ i d, s.clients i = .done (.ok d) → ∃ s₁, AvailabilityRuns (projectors calls) s₁ ∧
      AvailabilityRuns s₁ s ∧ (∃ next, s₁.clients i = .call (.readRow (calls i)) next) ∧
      s₁.world.source (calls i) = some d ∧ s₁.world.row? (calls i) = some d.entity) ∧
    (∀ i d s' s'', ¬Started i s.world →
      Reaches availabilityDynamics (SourceRests (calls i)) s s' →
      s'.clients i = .done (.ok d) →
      Reaches availabilityDynamics (SourceRests (calls i)) s' s'' →
        s''.world.source (calls i) = some d ∧ s''.world.row? (calls i) = some d.entity) := by
  have hsound : ∀ {s'}, AvailabilityRuns (projectors calls) s' → _ := fun hruns =>
    (projectors_sound calls).reaches availabilityContract_tolerates hruns
  refine ⟨fun m entity hrow => ?_, fun i d hdone => ?_, fun i d s' s'' hfresh hto hdone hon => ?_⟩
  · have hstored := (hsound h).inv.mem_stored hrow
    obtain ⟨state, -, rfl, rfl⟩ := (hsound h).inv.origin _ hstored
    exact ⟨state, rfl, rfl, fun s' hruns => rowReaches_of_stored (hsound (h.trans hruns)).inv
      ((advances_of_reaches hruns).stored.subset hstored)⟩
  · obtain ⟨-, hfound⟩ := (hsound h).result hdone d rfl
    obtain ⟨s₁, hto, hon, hsource, hrow, hcall⟩ := snapshot_taken h hfound List.not_mem_nil
    exact ⟨s₁, hto, hon, hcall, hsource.symm, hrow.symm⟩
  · -- The row was read after the repository came to rest.
    have hruns' := h.trans (runs_of_reaches hto)
    have hruns'' := hruns'.trans (runs_of_reaches hon)
    obtain ⟨hmodel, hfound⟩ := (hsound hruns').result hdone d rfl
    obtain ⟨s₁, hto₁, hon₁, hsource, hrow, -⟩ :=
      snapshot_taken hto hfound fun hold => hfresh ⟨_, hold, rfl⟩
    have hrests : s''.world.source (calls i) = some d := by
      rw [source_rests hon, source_rests hto, ← source_rests hto₁]
      exact hsource.symm
    refine ⟨hrests, ?_⟩
    have hinv := (hsound hruns'').inv
    have hstored : (d.modelId, d.entity) ∈ s''.world.stored := by
      rw [hmodel]
      exact (advances_of_reaches hon).stored.subset
        ((hsound hruns').inv.snapshots _ hfound _ rfl)
    -- The row is not older than `d`, and the repository has nothing newer.
    obtain ⟨state, hrow', hstate, hle, hsame⟩ := rowReaches_of_stored hinv hstored
    rw [hmodel] at hrow' hstate
    obtain ⟨origin, horigin, horiginModel, hentity⟩ := hinv.origin _ (hinv.mem_stored hrow')
    cases ModelAvailabilityState.entity_injective hentity
    obtain ⟨current, hcurrent, hnewest⟩ := hinv.newest state horigin
    rw [hstate, hrests] at hcurrent
    cases hcurrent
    rw [hrow', hsame (le_antisymm hle hnewest)]

end

/-! ### A projector that is overtaken -/

namespace Sample

def availability (revision : ℤ) (h : 1 ≤ revision ∧ revision ≤ maxAvailabilityRevision) :
    ModelAvailabilityState :=
  ⟨7, revision, true, .active, h, nofun⟩

/-- The first projector has read the old state when the second projects the new one; its
own replacement is refused and it starts over. -/
def overtaking : List (Option Bool × AvailabilityLabel) :=
  [(none, .publish (availability 1 (by decide))), (some false, .plain), (some false, .plain),
    (none, .publish (availability 2 (by decide))), (some true, .plain), (some true, .plain),
    (some true, .plain), (some true, .plain), (some true, .plain), (some false, .plain),
    (some false, .plain), (some false, .plain), (some false, .plain), (some false, .plain),
    (some false, .plain)]

end Sample

theorem availability_never_rolls_back_sample :
    ∃ s, AvailabilityRuns (projectors fun _ : Bool => 7) s ∧
      s.clients false = .done (.ok (Sample.availability 2 (by decide))) ∧
      ∃ s₁, AvailabilityRuns s₁ s ∧
        s₁.world.source 7 = some (Sample.availability 2 (by decide)) ∧
        s₁.world.row? 7 = some (Sample.availability 2 (by decide)).entity := by
  have htest : ((projectors fun _ : Bool => 7).run? availabilityDynamics Sample.overtaking).any
      (fun s => (s.clients false).value?.any
        fun d => decide (d = Sample.availability 2 (by decide))) = true := by
    decide +kernel
  obtain ⟨s, hrun, hs⟩ := (Option.any_eq_true _ _).1 htest
  obtain ⟨d, hdone, hd⟩ := (Option.any_eq_true _ _).1 hs
  rw [Client.value?_eq_some, of_decide_eq_true hd] at hdone
  have hruns := Client.reaches_of_run? hrun
  obtain ⟨s₁, -, hon, -, hsource, hrow⟩ :=
    (availability_never_rolls_back hruns).2.1 false _ hdone
  exact ⟨s, hruns, hdone, s₁, hon, hsource, hrow⟩

end Turnstile
