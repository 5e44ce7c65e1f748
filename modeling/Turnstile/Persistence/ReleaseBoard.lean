import Mathlib.Logic.Relation
import Turnstile.Persistence.Activations

/-!
# The board of releases

The board shows what the repository promises about releases: the publications in the order
of their creation, the outbox, and the effective release of each target.  `Move` lists all
that an operation does to it, and `Sound` is what every move keeps.

A strict move retries a publication only on the release that it was built on, and takes a
release back only while none is being built.
-/

namespace Turnstile

/-- The part of the repository that releases are about. -/
structure ReleaseBoard where
  publications : List GatewayPublication
  outbox : List PublicationOutbox
  effective : UUID → Option UUID

/-- The board of the repository. -/
def PublicationStore.board (s : PublicationStore) : ReleaseBoard :=
  ⟨s.publications, s.outbox, s.effective⟩

namespace GatewayPublication

/-- What no operation changes of a publication. -/
def SameRelease (p q : GatewayPublication) : Prop :=
  q.id = p.id ∧ q.gatewayProfileId = p.gatewayProfileId ∧ q.generation = p.generation ∧
    q.publicationKind = p.publicationKind ∧ q.baseReleaseId = p.baseReleaseId

/-- The publication keeps the markers that it has, and their digest, or loses them. -/
def KeepsMarkers (p q : GatewayPublication) : Prop :=
  (q.resourceManifest.modelRouteAddition = p.resourceManifest.modelRouteAddition ∧
      q.resourceManifest.modelRouteRemoval = p.resourceManifest.modelRouteRemoval ∧
      q.desiredSpecSha256 = p.desiredSpecSha256) ∨
    q.resourceManifest.independent = false

/-- A marker is one of the publication's kind, and its digest is one of an intent. -/
def WellMarked (p : GatewayPublication) : Prop :=
  (p.resourceManifest.modelRouteAddition.isSome = true → p.publicationKind = .modelAdd) ∧
    (p.resourceManifest.modelRouteRemoval.isSome = true → p.publicationKind = .modelRemove) ∧
    (p.resourceManifest.independent = true →
      ∀ detail spec, p.desiredSpecSha256 ≠ .rollback detail spec)

theorem SameRelease.refl (p : GatewayPublication) : p.SameRelease p :=
  ⟨rfl, rfl, rfl, rfl, rfl⟩

theorem KeepsMarkers.refl (p : GatewayPublication) : p.KeepsMarkers p :=
  .inl ⟨rfl, rfl, rfl⟩

theorem WellMarked.of_keeps {p q : GatewayPublication} (h : p.WellMarked) (hsame : p.SameRelease q)
    (hkeeps : p.KeepsMarkers q) : q.WellMarked := by
  obtain ⟨hadd, hremove, hdigest⟩ := h
  obtain ⟨-, -, -, hkind, -⟩ := hsame
  unfold WellMarked
  rw [hkind]
  rcases hkeeps with ⟨ha, hr, hd⟩ | hnone
  · unfold ResourceManifest.independent at *
    rw [ha, hr, hd]
    exact ⟨hadd, hremove, hdigest⟩
  · have hparts : q.resourceManifest.modelRouteAddition.isSome = false ∧
        q.resourceManifest.modelRouteRemoval.isSome = false := by
      simpa [ResourceManifest.independent] using hnone
    simp [hparts.1, hparts.2, hnone]

end GatewayPublication

namespace ReleaseBoard

/-- A publication of the target is in flight. -/
def Busy (b : ReleaseBoard) (target : UUID) : Prop :=
  ∃ p ∈ b.publications, p.gatewayProfileId = target ∧ p.status.inFlight = true

/-- The board with the rows of a publication replaced. -/
def write (b : ReleaseBoard) (p : GatewayPublication) (row : PublicationOutbox) : ReleaseBoard :=
  { b with
    publications := b.publications.map fun q => if q.id = p.id then p else q
    outbox := b.outbox.map fun other => if other.publicationId = p.id then row else other }

/-- The board where a publication became the release of its target: the one before it, and
the additions that it absorbs, are superseded. -/
def promote (b : ReleaseBoard) (p : GatewayPublication) (row : PublicationOutbox)
    (absorbed : GatewayPublication → Bool) : ReleaseBoard where
  publications := b.publications.map fun q =>
    if q.id = p.id then p
    else if b.effective p.gatewayProfileId = some q.id ∨ absorbed q = true then q.supersede
    else q
  outbox := b.outbox.map fun other => if other.publicationId = p.id then row else other
  effective := Function.update b.effective p.gatewayProfileId (some p.id)

/-- The board where the release of a target was taken back to an earlier one. -/
def rollBack (b : ReleaseBoard) (target prior : GatewayPublication) : ReleaseBoard where
  publications := b.publications.map fun q =>
    if q.id = target.id then { q with status := .active }
    else if q.id = prior.id then { q with status := .rolledBack }
    else q
  outbox := b.outbox
  effective := Function.update b.effective target.gatewayProfileId (some target.id)

@[simp] theorem write_effective (b : ReleaseBoard) (p : GatewayPublication)
    (row : PublicationOutbox) : (b.write p row).effective = b.effective := rfl

@[simp] theorem promote_effective (b : ReleaseBoard) (p : GatewayPublication)
    (row : PublicationOutbox) (absorbed : GatewayPublication → Bool) :
    (b.promote p row absorbed).effective =
      Function.update b.effective p.gatewayProfileId (some p.id) := rfl

@[simp] theorem rollBack_effective (b : ReleaseBoard) (target prior : GatewayPublication) :
    (b.rollBack target prior).effective =
      Function.update b.effective target.gatewayProfileId (some target.id) := rfl

/-- The outbox row of a publication rests exactly when its publication does. -/
def Follows (row : PublicationOutbox) (p : GatewayPublication) : Prop :=
  row.publicationId = p.id ∧ (row.status = .completed ↔ p.status.resting = true)

/-- A release that was promoted once; `marked` tells whether it stands beside the effective
release. -/
def Settled (b : ReleaseBoard) (marked : Bool) (id : UUID) : Prop :=
  ∃ p ∈ b.publications, p.id = id ∧ p.status.settled = true ∧
    p.resourceManifest.independent = marked

/-- The addition that a removal takes back was promoted. -/
def SourceSettled (b : ReleaseBoard) (p : GatewayPublication) : Prop :=
  ∀ marker, p.resourceManifest.modelRouteRemoval = some marker →
    b.Settled true marker.sourcePublicationId

/-- What an operation does to the board, in one move. -/
inductive Move (strict : Bool) (b : ReleaseBoard) : ReleaseBoard → Prop
  | create (p : GatewayPublication) (row : PublicationOutbox)
      (fresh : ∀ q ∈ b.publications, q.id ≠ p.id) (queued : p.status = .queued)
      (free : ¬b.Busy p.gatewayProfileId)
      (last : ∀ q ∈ b.publications, q.gatewayProfileId = p.gatewayProfileId →
        q.generation < p.generation)
      (base : p.baseReleaseId = b.effective p.gatewayProfileId) (marked : p.WellMarked)
      (sourced : b.SourceSettled p) (follows : Follows row p) :
      Move strict b
        { b with publications := b.publications ++ [p], outbox := b.outbox ++ [row] }
  | advance (p q : GatewayPublication) (row : PublicationOutbox) (mem : p ∈ b.publications)
      (before : p.status.inFlight = true)
      (after : q.status.inFlight = true ∨ q.status = .failed ∨ q.status = .rolledBack)
      (same : p.SameRelease q) (markers : p.KeepsMarkers q) (follows : Follows row q) :
      Move strict b (b.write q row)
  | retry (p q : GatewayPublication) (row : PublicationOutbox) (mem : p ∈ b.publications)
      (before : p.status = .failed) (after : q.status = .queued)
      (free : ¬b.Busy p.gatewayProfileId)
      (base : strict = true → p.baseReleaseId = b.effective p.gatewayProfileId)
      (same : p.SameRelease q) (markers : p.KeepsMarkers q) (follows : Follows row q) :
      Move strict b (b.write q row)
  | retire (p : GatewayPublication) (row : PublicationOutbox) (mem : p ∈ b.publications)
      (before : p.status = .active) (independent : p.resourceManifest.independent = true)
      (follows : Follows row p.supersede) : Move strict b (b.write p.supersede row)
  | relabel (p q : GatewayPublication) (row : PublicationOutbox) (mem : p ∈ b.publications)
      (status : q.status = p.status) (same : p.SameRelease q)
      (unmarked : p.resourceManifest.independent = false ∧ q.resourceManifest.independent = false)
      (follows : Follows row q) : Move strict b (b.write q row)
  | stand (p q : GatewayPublication) (row : PublicationOutbox) (mem : p ∈ b.publications)
      (before : p.status = .promoting) (after : q.status = .active)
      (independent : q.resourceManifest.independent = true) (same : p.SameRelease q)
      (markers : p.KeepsMarkers q) (follows : Follows row q) : Move strict b (b.write q row)
  | promote (p q : GatewayPublication) (row : PublicationOutbox)
      (absorbed : GatewayPublication → Bool) (mem : p ∈ b.publications)
      (before : p.status = .promoting) (after : q.status = .active)
      (unmarked : q.resourceManifest.independent = false) (same : p.SameRelease q)
      (only : ∀ item, absorbed item = true →
        item.status = .active ∧ item.gatewayProfileId = p.gatewayProfileId)
      (follows : Follows row q) : Move strict b (b.promote q row absorbed)
  | rollBack (target prior : GatewayPublication) (mem : target ∈ b.publications)
      (mem_prior : prior ∈ b.publications) (settled : target.status.settled = true)
      (unmarked : target.resourceManifest.independent = false)
      (gateway : prior.gatewayProfileId = target.gatewayProfileId)
      (effective : b.effective target.gatewayProfileId = some prior.id)
      (idle : strict = true → ¬b.Busy target.gatewayProfileId) :
      Move strict b (b.rollBack target prior)

/-- What the repository promises of its releases. -/
structure Sound (b : ReleaseBoard) : Prop where
  distinct : (b.publications.map GatewayPublication.id).Nodup
  rows : b.outbox.map PublicationOutbox.publicationId = b.publications.map GatewayPublication.id
  ordered : b.publications.Pairwise fun p q =>
    p.gatewayProfileId = q.gatewayProfileId → p.generation < q.generation
  single : ∀ p ∈ b.publications, ∀ q ∈ b.publications, p.gatewayProfileId = q.gatewayProfileId →
    p.status.inFlight = true → q.status.inFlight = true → p = q
  effective : ∀ target id, b.effective target = some id → ∃ p ∈ b.publications,
    p.id = id ∧ p.gatewayProfileId = target ∧ p.status = .active ∧
      p.resourceManifest.independent = false
  active : ∀ p ∈ b.publications, p.status = .active →
    b.effective p.gatewayProfileId = some p.id ∨ p.resourceManifest.independent = true
  outbox : ∀ p ∈ b.publications, ∀ row ∈ b.outbox, row.publicationId = p.id →
    (row.status = .completed ↔ p.status.resting = true)
  marked : ∀ p ∈ b.publications, p.WellMarked

/-- Every publication that is being built was built on the release that is effective. -/
def Based (b : ReleaseBoard) : Prop :=
  ∀ p ∈ b.publications, p.status.inFlight = true →
    p.baseReleaseId = b.effective p.gatewayProfileId

namespace Sound

variable {b : ReleaseBoard} {p q : GatewayPublication} {row : PublicationOutbox}

theorem eq_of_id (h : b.Sound) (hp : p ∈ b.publications) (hq : q ∈ b.publications)
    (hid : p.id = q.id) : p = q :=
  Rows.eq_of_key h.distinct hp hq hid

/-- The release of a target, as a row. -/
theorem effective_row (h : b.Sound) {target : UUID} (hp : p ∈ b.publications)
    (heff : b.effective target = some p.id) :
    p.gatewayProfileId = target ∧ p.status = .active ∧ p.resourceManifest.independent = false := by
  obtain ⟨other, hmem, hid, hrest⟩ := h.effective target p.id heff
  cases h.eq_of_id hmem hp hid
  exact hrest

/-! ## Rewriting rows -/

/-- A change of rows keeps the board sound where it keeps the releases, and the row by row
promises hold after it. -/
theorem rewrite (h : b.Sound) {f : GatewayPublication → GatewayPublication}
    {g : PublicationOutbox → PublicationOutbox} {t : UUID → Option UUID}
    (same : ∀ p ∈ b.publications, p.SameRelease (f p))
    (keys : ∀ row ∈ b.outbox, (g row).publicationId = row.publicationId)
    (single : ∀ p ∈ b.publications, ∀ q ∈ b.publications,
      p.gatewayProfileId = q.gatewayProfileId → (f p).status.inFlight = true →
        (f q).status.inFlight = true → p = q)
    (effective : ∀ target id, t target = some id → ∃ p ∈ b.publications,
      p.id = id ∧ p.gatewayProfileId = target ∧ (f p).status = .active ∧
        (f p).resourceManifest.independent = false)
    (active : ∀ p ∈ b.publications, (f p).status = .active →
      t p.gatewayProfileId = some p.id ∨ (f p).resourceManifest.independent = true)
    (outbox : ∀ p ∈ b.publications, ∀ row ∈ b.outbox, row.publicationId = p.id →
      ((g row).status = .completed ↔ (f p).status.resting = true))
    (marked : ∀ p ∈ b.publications, (f p).WellMarked) :
    Sound ⟨b.publications.map f, b.outbox.map g, t⟩ := by
  have hids : (b.publications.map f).map GatewayPublication.id =
      b.publications.map GatewayPublication.id := by
    rw [List.map_map]
    exact List.map_congr_left fun p hp => (same p hp).1
  have hkeys : (b.outbox.map g).map PublicationOutbox.publicationId =
      b.outbox.map PublicationOutbox.publicationId := by
    rw [List.map_map]
    exact List.map_congr_left keys
  refine ⟨?_, ?_, ?_, ?_, ?_, ?_, ?_, ?_⟩
  · simpa only [hids] using h.distinct
  · simpa only [hids, hkeys] using h.rows
  · refine List.pairwise_map.2 (h.ordered.imp_of_mem fun {p q} hp hq hlt hsame => ?_)
    obtain ⟨-, hgp, hnp, -⟩ := same p hp
    obtain ⟨-, hgq, hnq, -⟩ := same q hq
    rw [hnp, hnq]
    exact hlt (by rw [← hgp, ← hgq, hsame])
  · intro p' hp' q' hq' hsame hfp hfq
    obtain ⟨p, hp, rfl⟩ := List.mem_map.1 hp'
    obtain ⟨q, hq, rfl⟩ := List.mem_map.1 hq'
    rw [(same p hp).2.1, (same q hq).2.1] at hsame
    rw [single p hp q hq hsame hfp hfq]
  · intro target id ht
    obtain ⟨p, hp, hid, hgateway, hrest⟩ := effective target id ht
    refine ⟨f p, List.mem_map_of_mem hp, ?_, ?_, hrest⟩
    · rw [(same p hp).1, hid]
    · rw [(same p hp).2.1, hgateway]
  · intro p' hp' hactive
    obtain ⟨p, hp, rfl⟩ := List.mem_map.1 hp'
    rw [(same p hp).1, (same p hp).2.1]
    exact active p hp hactive
  · intro p' hp' row' hrow' hkey
    obtain ⟨p, hp, rfl⟩ := List.mem_map.1 hp'
    obtain ⟨row, hrow, rfl⟩ := List.mem_map.1 hrow'
    rw [keys row hrow, (same p hp).1] at hkey
    exact outbox p hp row hrow hkey
  · intro p' hp'
    obtain ⟨p, hp, rfl⟩ := List.mem_map.1 hp'
    exact marked p hp

/-- The promises of one publication's rows, where the effective releases stay. -/
theorem write (h : b.Sound) (mem : p ∈ b.publications) (same : p.SameRelease q)
    (follows : Follows row q) (marked : q.WellMarked)
    (single : q.status.inFlight = true → p.status.inFlight = true ∨ ¬b.Busy p.gatewayProfileId)
    (effective : b.effective p.gatewayProfileId = some p.id →
      q.status = .active ∧ q.resourceManifest.independent = false)
    (active : q.status = .active →
      b.effective p.gatewayProfileId = some p.id ∨ q.resourceManifest.independent = true) :
    (b.write q row).Sound := by
  have hq : q.id = p.id := same.1
  have hself : ∀ other ∈ b.publications, other.id = q.id → other = p := fun other hother hid =>
    h.eq_of_id hother mem (hid.trans hq)
  refine h.rewrite ?_ ?_ ?_ ?_ ?_ ?_ ?_
  · intro other hother
    split_ifs with hid
    · rwa [hself other hother hid]
    · exact .refl other
  · intro other _
    split_ifs with hid
    · rw [follows.1, hid]
    · rfl
  · -- a publication that is in flight now was so before, or none of its target was
    have hwas : ∀ other ∈ b.publications,
        (if other.id = q.id then q else other).status.inFlight = true →
        other.status.inFlight = true ∨ other = p ∧ ¬b.Busy p.gatewayProfileId := by
      intro other hother hflight
      split_ifs at hflight with hid
      · cases hself other hother hid
        exact (single hflight).imp_right fun hfree => ⟨rfl, hfree⟩
      · exact .inl hflight
    intro x hx y hy hsame hfx hfy
    rcases hwas x hx hfx with hx' | ⟨rfl, hfree⟩
    · rcases hwas y hy hfy with hy' | ⟨rfl, hfree⟩
      · exact h.single x hx y hy hsame hx' hy'
      · exact absurd ⟨x, hx, hsame, hx'⟩ hfree
    · rcases hwas y hy hfy with hy' | ⟨rfl, -⟩
      · exact absurd ⟨y, hy, hsame.symm, hy'⟩ hfree
      · rfl
  · intro target id ht
    obtain ⟨other, hother, hid, hgateway, hactive, hplain⟩ := h.effective target id ht
    refine ⟨other, hother, hid, hgateway, ?_⟩
    split_ifs with hsame
    · cases hself other hother hsame
      exact effective (by rw [hgateway, ht, hid])
    · exact ⟨hactive, hplain⟩
  · intro other hother hactive
    split_ifs at hactive ⊢ with hid
    · cases hself other hother hid
      exact active hactive
    · exact h.active other hother hactive
  · intro other hother old hold hkey
    by_cases hid : other.id = q.id
    · rw [if_pos hid, if_pos (hkey.trans hid)]
      exact follows.2
    · rw [if_neg hid, if_neg (hkey ▸ hid)]
      exact h.outbox other hother old hold hkey
  · intro other hother
    split_ifs with hid
    · exact marked
    · exact h.marked other hother

/-! ## The moves -/

theorem create (h : b.Sound) (fresh : ∀ q ∈ b.publications, q.id ≠ p.id)
    (queued : p.status = .queued) (free : ¬b.Busy p.gatewayProfileId)
    (last : ∀ q ∈ b.publications, q.gatewayProfileId = p.gatewayProfileId →
      q.generation < p.generation)
    (marked : p.WellMarked) (follows : Follows row p) :
    Sound { b with publications := b.publications ++ [p], outbox := b.outbox ++ [row] } := by
  have hids : p.id ∉ b.publications.map GatewayPublication.id := by
    intro hmem
    obtain ⟨q, hq, hid⟩ := List.mem_map.1 hmem
    exact fresh q hq hid
  have hkeys : ∀ old ∈ b.outbox, old.publicationId ≠ p.id := by
    intro old hold heq
    exact hids (heq ▸ h.rows ▸ List.mem_map_of_mem hold)
  refine ⟨?_, ?_, ?_, ?_, ?_, ?_, ?_, ?_⟩
  · rw [List.map_append, List.map_singleton]
    exact List.nodup_append.2 ⟨h.distinct, List.nodup_singleton _, by
      intro x hx y hy
      rw [List.mem_singleton] at hy
      rintro rfl
      exact hids (hy ▸ hx)⟩
  · simp only [List.map_append, List.map_singleton, h.rows, follows.1]
  · refine List.pairwise_append.2 ⟨h.ordered, List.pairwise_singleton _ _, ?_⟩
    intro q hq x hx hsame
    rw [List.mem_singleton] at hx
    subst hx
    exact last q hq hsame
  · intro x hx y hy hsame hfx hfy
    rcases List.mem_append.1 hx with hold | hnew <;>
      rcases List.mem_append.1 hy with hold' | hnew'
    · exact h.single x hold y hold' hsame hfx hfy
    · rw [List.mem_singleton] at hnew'
      subst hnew'
      exact absurd ⟨x, hold, hsame, hfx⟩ free
    · rw [List.mem_singleton] at hnew
      subst hnew
      exact absurd ⟨y, hold', hsame.symm, hfy⟩ free
    · rw [List.mem_singleton] at hnew hnew'
      rw [hnew, hnew']
  · intro target id ht
    obtain ⟨q, hq, hrest⟩ := h.effective target id ht
    exact ⟨q, List.mem_append_left _ hq, hrest⟩
  · intro x hx hactive
    rcases List.mem_append.1 hx with hx | hx
    · exact h.active x hx hactive
    · rw [List.mem_singleton.1 hx, queued] at hactive
      cases hactive
  · intro x hx other hother hkey
    rcases List.mem_append.1 hx with hold | hnew <;>
      rcases List.mem_append.1 hother with hold' | hnew'
    · exact h.outbox x hold other hold' hkey
    · rw [List.mem_singleton] at hnew'
      subst hnew'
      exact absurd (hkey.symm.trans follows.1) (fresh x hold)
    · rw [List.mem_singleton] at hnew
      subst hnew
      exact absurd hkey (hkeys other hold')
    · rw [List.mem_singleton] at hnew hnew'
      rw [hnew, hnew']
      exact follows.2
  · intro x hx
    rcases List.mem_append.1 hx with hx | hx
    · exact h.marked x hx
    · rwa [List.mem_singleton.1 hx]

/-- A publication that is not active is not the release of its target. -/
theorem not_effective (h : b.Sound) (hp : p ∈ b.publications) (hstatus : p.status ≠ .active)
    (target : UUID) : b.effective target ≠ some p.id := fun heff =>
  hstatus (h.effective_row hp heff).2.1

/-- Superseding a publication changes no marker. -/
theorem wellMarked_supersede (h : p.WellMarked) : p.supersede.WellMarked :=
  h.of_keeps ⟨rfl, rfl, rfl, rfl, rfl⟩ (.inl ⟨rfl, rfl, rfl⟩)

theorem promote (h : b.Sound) {absorbed : GatewayPublication → Bool} (mem : p ∈ b.publications)
    (before : p.status = .promoting) (after : q.status = .active)
    (unmarked : q.resourceManifest.independent = false) (same : p.SameRelease q)
    (only : ∀ item, absorbed item = true →
      item.status = .active ∧ item.gatewayProfileId = p.gatewayProfileId)
    (follows : Follows row q) : (b.promote q row absorbed).Sound := by
  have hq : q.id = p.id := same.1
  have hgateway : q.gatewayProfileId = p.gatewayProfileId := same.2.1
  have hself : ∀ other ∈ b.publications, other.id = q.id → other = p := fun other hother hid =>
    h.eq_of_id hother mem (hid.trans hq)
  refine h.rewrite ?_ ?_ ?_ ?_ ?_ ?_ ?_
  · intro other hother
    split_ifs with hid hold
    · rwa [hself other hother hid]
    · exact .refl other
    · exact .refl other
  · intro other _
    split_ifs with hid
    · rw [follows.1, hid]
    · rfl
  · have hwas : ∀ other ∈ b.publications, (if other.id = q.id then q
        else if b.effective q.gatewayProfileId = some other.id ∨ absorbed other = true then
          other.supersede else other : GatewayPublication).status.inFlight = true →
        other.status.inFlight = true := by
      intro other _ hflight
      split_ifs at hflight with hid hold
      · rw [after] at hflight
        cases hflight
      · cases hflight
      · exact hflight
    intro x hx y hy hsame hfx hfy
    exact h.single x hx y hy hsame (hwas x hx hfx) (hwas y hy hfy)
  · intro target id ht
    by_cases htarget : target = q.gatewayProfileId
    · subst htarget
      rw [Function.update_self, Option.some.injEq] at ht
      refine ⟨p, mem, by rw [← ht, hq], hgateway.symm, ?_⟩
      rw [if_pos hq.symm]
      exact ⟨after, unmarked⟩
    · rw [Function.update_of_ne htarget] at ht
      obtain ⟨other, hother, hid, hat, hactive, hplain⟩ := h.effective target id ht
      have hne : other.id ≠ q.id := by
        intro heq
        cases hself other hother heq
        rw [before] at hactive
        cases hactive
      have hkept : ¬(b.effective q.gatewayProfileId = some other.id ∨ absorbed other = true) := by
        rintro (heff | habsorbed)
        · exact htarget (hat ▸ (h.effective_row hother heff).1)
        · exact htarget (hat ▸ hgateway ▸ (only other habsorbed).2)
      refine ⟨other, hother, hid, hat, ?_⟩
      rw [if_neg hne, if_neg hkept]
      exact ⟨hactive, hplain⟩
  · intro other hother hactive
    split_ifs at hactive ⊢ with hid hold
    · cases hself other hother hid
      left
      rw [hgateway, Function.update_self, hq]
    · cases hactive
    · rcases h.active other hother hactive with heff | hindependent
      · by_cases hat : other.gatewayProfileId = q.gatewayProfileId
        · rw [hat] at heff
          exact absurd (.inl heff) hold
        · left
          rwa [Function.update_of_ne hat]
      · exact .inr hindependent
  · intro other hother old hrow hkey
    by_cases hid : other.id = q.id
    · rw [if_pos hid, if_pos (hkey.trans hid)]
      exact follows.2
    · rw [if_neg hid, if_neg (hkey ▸ hid)]
      split_ifs with hold
      · have hactive : other.status = .active := by
          rcases hold with heff | habsorbed
          · exact (h.effective_row hother heff).2.1
          · exact (only other habsorbed).1
        rw [h.outbox other hother old hrow hkey, hactive]
        exact iff_of_true rfl rfl
      · exact h.outbox other hother old hrow hkey
  · intro other hother
    split_ifs with hid hold
    · exact (h.marked p mem).of_keeps same (.inr unmarked)
    · exact wellMarked_supersede (h.marked other hother)
    · exact h.marked other hother

theorem rollBack (h : b.Sound) {target prior : GatewayPublication}
    (mem : target ∈ b.publications) (mem_prior : prior ∈ b.publications)
    (settled : target.status.settled = true)
    (unmarked : target.resourceManifest.independent = false)
    (gateway : prior.gatewayProfileId = target.gatewayProfileId)
    (effective : b.effective target.gatewayProfileId = some prior.id) :
    (b.rollBack target prior).Sound := by
  have hself : ∀ other ∈ b.publications, other.id = target.id → other = target :=
    fun other hother => h.eq_of_id hother mem
  have hprior : ∀ other ∈ b.publications, other.id = prior.id → other = prior :=
    fun other hother => h.eq_of_id hother mem_prior
  have hactive := (h.effective_row mem_prior effective).2.1
  unfold ReleaseBoard.rollBack
  rw [← List.map_id b.outbox]
  refine h.rewrite ?_ (fun _ _ => rfl) ?_ ?_ ?_ ?_ ?_
  · intro other _
    split_ifs <;> exact ⟨rfl, rfl, rfl, rfl, rfl⟩
  · have hwas : ∀ other : GatewayPublication,
        (if other.id = target.id then { other with status := .active }
          else if other.id = prior.id then { other with status := .rolledBack }
          else other : GatewayPublication).status.inFlight = true →
        other.status.inFlight = true := by
      intro other hflight
      split_ifs at hflight
      · cases hflight
      · cases hflight
      · exact hflight
    intro x hx y hy hsame hfx hfy
    exact h.single x hx y hy hsame (hwas x hfx) (hwas y hfy)
  · intro at? id ht
    by_cases htarget : at? = target.gatewayProfileId
    · subst htarget
      rw [Function.update_self, Option.some.injEq] at ht
      refine ⟨target, mem, ht, rfl, ?_⟩
      rw [if_pos rfl]
      exact ⟨rfl, unmarked⟩
    · rw [Function.update_of_ne htarget] at ht
      obtain ⟨other, hother, hid, hat, hrest⟩ := h.effective at? id ht
      have hne : other.id ≠ target.id := fun heq => htarget (hat ▸ hself other hother heq ▸ rfl)
      have hne' : other.id ≠ prior.id := fun heq =>
        htarget (hat ▸ hprior other hother heq ▸ gateway)
      refine ⟨other, hother, hid, hat, ?_⟩
      rw [if_neg hne, if_neg hne']
      exact hrest
  · intro other hother hnow
    split_ifs at hnow ⊢ with hid hid'
    · cases hself other hother hid
      left
      rw [Function.update_self]
    · rcases h.active other hother hnow with heff | hindependent
      · by_cases hat : other.gatewayProfileId = target.gatewayProfileId
        · rw [hat, effective, Option.some.injEq] at heff
          exact absurd heff.symm hid'
        · left
          rwa [Function.update_of_ne hat]
      · exact .inr hindependent
  · intro other hother row hrow hkey
    rw [id_eq, h.outbox other hother row hrow hkey]
    split_ifs with hid hid'
    · cases hself other hother hid
      exact iff_of_true (PublicationStatus.resting_of_settled settled) rfl
    · cases hprior other hother hid'
      rw [hactive]
      exact iff_of_true rfl rfl
    · exact Iff.rfl
  · intro other hother
    split_ifs
    all_goals
      exact (h.marked other hother).of_keeps ⟨rfl, rfl, rfl, rfl, rfl⟩ (.inl ⟨rfl, rfl, rfl⟩)

/-- Every move keeps the board sound. -/
theorem move (h : b.Sound) {strict : Bool} {b' : ReleaseBoard} (hmove : b.Move strict b') :
    b'.Sound := by
  cases hmove with
  | create p row fresh queued free last base marked sourced follows =>
      exact h.create fresh queued free last marked follows
  | advance p q row mem before after same markers follows =>
      have hne : p.status ≠ .active := by
        intro heq
        rw [heq] at before
        cases before
      refine h.write mem same follows ((h.marked p mem).of_keeps same markers)
        (fun _ => .inl before) (fun heff => absurd heff (h.not_effective mem hne _)) ?_
      intro hactive
      rw [hactive] at after
      rcases after with hflight | hend | hend <;> cases ‹_›
  | retry p q row mem before after free base same markers follows =>
      have hne : p.status ≠ .active := by
        rw [before]
        decide
      refine h.write mem same follows ((h.marked p mem).of_keeps same markers)
        (fun _ => .inr free) (fun heff => absurd heff (h.not_effective mem hne _)) ?_
      intro hactive
      rw [after] at hactive
      cases hactive
  | retire p row mem before independent follows =>
      refine h.write mem ⟨rfl, rfl, rfl, rfl, rfl⟩ follows (wellMarked_supersede (h.marked p mem))
        (fun hflight => by cases hflight) ?_ (fun hactive => by cases hactive)
      intro heff
      rw [(h.effective_row mem heff).2.2] at independent
      cases independent
  | relabel p q row mem status same unmarked follows =>
      refine h.write mem same follows ((h.marked p mem).of_keeps same (.inr unmarked.2)) ?_ ?_ ?_
      · intro hflight
        rw [status] at hflight
        exact .inl hflight
      · intro heff
        exact ⟨by rw [status, (h.effective_row mem heff).2.1], unmarked.2⟩
      · intro hactive
        rw [status] at hactive
        rcases h.active p mem hactive with heff | hindependent
        · exact .inl heff
        · rw [unmarked.1] at hindependent
          cases hindependent
  | stand p q row mem before after independent same markers follows =>
      have hne : p.status ≠ .active := by
        rw [before]
        decide
      refine h.write mem same follows ((h.marked p mem).of_keeps same markers) ?_
        (fun heff => absurd heff (h.not_effective mem hne _)) (fun _ => .inr independent)
      intro hflight
      rw [after] at hflight
      cases hflight
  | promote p q row absorbed mem before after unmarked same only follows =>
      exact h.promote mem before after unmarked same only follows
  | rollBack target prior mem mem_prior settled unmarked gateway effective idle =>
      exact h.rollBack mem mem_prior settled unmarked gateway effective

end Sound

/-! ## Releases that are settled -/

section Settled

variable {b : ReleaseBoard} {p q : GatewayPublication} {row : PublicationOutbox} {id : UUID}
  {marked : Bool}

theorem Settled.map {f : GatewayPublication → GatewayPublication} (h : b.Settled marked id)
    (hid : ∀ p ∈ b.publications, (f p).id = p.id)
    (hkeep : ∀ p ∈ b.publications, p.status.settled = true →
      p.resourceManifest.independent = marked →
        (f p).status.settled = true ∧ (f p).resourceManifest.independent = marked)
    {outbox : List PublicationOutbox} {t : UUID → Option UUID} :
    Settled ⟨b.publications.map f, outbox, t⟩ marked id := by
  obtain ⟨p, hp, hpid, hsettled, hmarked⟩ := h
  exact ⟨f p, List.mem_map_of_mem hp, by rw [hid p hp, hpid], hkeep p hp hsettled hmarked⟩

theorem Settled.write (h : b.Settled marked id) (hb : b.Sound) (mem : p ∈ b.publications)
    (same : p.SameRelease q)
    (hkeep : p.status.settled = true → p.resourceManifest.independent = marked →
      q.status.settled = true ∧ q.resourceManifest.independent = marked) :
    (b.write q row).Settled marked id := by
  refine h.map (fun other hother => ?_) fun other hother hsettled hmarked => ?_
  · split_ifs with heq
    · exact heq.symm
    · rfl
  · split_ifs with heq
    · cases hb.eq_of_id hother mem (heq.trans same.1)
      exact hkeep hsettled hmarked
    · exact ⟨hsettled, hmarked⟩

/-- No move unsettles a release, or moves it beside the effective one. -/
theorem Settled.move (h : b.Settled marked id) (hb : b.Sound) {strict : Bool} {b' : ReleaseBoard}
    (hmove : b.Move strict b') : b'.Settled marked id := by
  cases hmove with
  | create p row =>
      obtain ⟨other, hother, hrest⟩ := h
      exact ⟨other, List.mem_append_left _ hother, hrest⟩
  | advance p q row mem before after same markers follows =>
      refine h.write hb mem same fun hsettled _ => ?_
      rw [PublicationStatus.inFlight_of_settled hsettled] at before
      cases before
  | retry p q row mem before after free base same markers follows =>
      refine h.write hb mem same fun hsettled _ => ?_
      rw [before] at hsettled
      cases hsettled
  | retire p row mem before independent follows =>
      exact h.write hb mem ⟨rfl, rfl, rfl, rfl, rfl⟩ fun _ hmarked => ⟨rfl, hmarked⟩
  | relabel p q row mem status same unmarked follows =>
      refine h.write hb mem same fun hsettled hmarked => ?_
      rw [status, unmarked.2, ← hmarked, unmarked.1]
      exact ⟨hsettled, rfl⟩
  | stand p q row mem before after independent same markers follows =>
      refine h.write hb mem same fun hsettled _ => ?_
      rw [before] at hsettled
      cases hsettled
  | promote p q row absorbed mem before after unmarked same only follows =>
      refine h.map (fun other _ => ?_) fun other hother hsettled hmarked => ?_
      · split_ifs with heq
        · exact heq.symm
        · rfl
        · rfl
      · split_ifs with heq
        · cases hb.eq_of_id hother mem (heq.trans same.1)
          rw [before] at hsettled
          cases hsettled
        · exact ⟨rfl, hmarked⟩
        · exact ⟨hsettled, hmarked⟩
  | rollBack target prior mem mem_prior settled unmarked gateway effective idle =>
      refine h.map (fun other _ => ?_) fun other _ hsettled hmarked => ?_
      · split_ifs <;> rfl
      · split_ifs
        · exact ⟨rfl, hmarked⟩
        · exact ⟨rfl, hmarked⟩
        · exact ⟨hsettled, hmarked⟩

end Settled

/-! ## Removals and what they take back -/

/-- Every removal takes back an addition that was promoted. -/
def Sourced (b : ReleaseBoard) : Prop :=
  ∀ p ∈ b.publications, b.SourceSettled p

section Sourced

variable {b : ReleaseBoard} {p q : GatewayPublication} {row : PublicationOutbox}

theorem SourceSettled.of_keeps {b' : ReleaseBoard} (h : b'.SourceSettled p)
    (hkeeps : p.KeepsMarkers q) : b'.SourceSettled q := by
  intro marker hmarker
  rcases hkeeps with ⟨-, hremoval, -⟩ | hnone
  · exact h marker (hremoval ▸ hmarker)
  · unfold ResourceManifest.independent at hnone
    rw [hmarker] at hnone
    simp at hnone

/-- Where settled releases stay settled and rows keep their markers, removals keep their
sources. -/
theorem Sourced.map (h : b.Sourced) {f : GatewayPublication → GatewayPublication}
    {outbox : List PublicationOutbox} {t : UUID → Option UUID}
    (hsettled : ∀ id, b.Settled true id → Settled ⟨b.publications.map f, outbox, t⟩ true id)
    (hkeeps : ∀ p ∈ b.publications, p.KeepsMarkers (f p)) :
    Sourced ⟨b.publications.map f, outbox, t⟩ := by
  intro p' hp'
  obtain ⟨p, hp, rfl⟩ := List.mem_map.1 hp'
  have hsource : SourceSettled ⟨b.publications.map f, outbox, t⟩ p := fun marker hmarker =>
    hsettled _ (h p hp marker hmarker)
  exact hsource.of_keeps (hkeeps p hp)

theorem Sourced.write (h : b.Sourced) (hb : b.Sound) (mem : p ∈ b.publications)
    (same : p.SameRelease q) (markers : p.KeepsMarkers q)
    (hsettled : ∀ id, b.Settled true id → (b.write q row).Settled true id) :
    (b.write q row).Sourced := by
  refine h.map hsettled fun other hother => ?_
  split_ifs with heq
  · cases hb.eq_of_id hother mem (heq.trans same.1)
    exact markers
  · exact .refl other

theorem Sourced.move (h : b.Sourced) (hb : b.Sound) {strict : Bool} {b' : ReleaseBoard}
    (hmove : b.Move strict b') : b'.Sourced := by
  have hsettled : ∀ id, b.Settled true id → b'.Settled true id := fun id hid => hid.move hb hmove
  cases hmove with
  | create p row fresh queued free last base marked sourced follows =>
      intro other hother marker hmarker
      rcases List.mem_append.1 hother with hold | hnew
      · exact hsettled _ (h other hold marker hmarker)
      · rw [List.mem_singleton.1 hnew] at hmarker
        exact hsettled _ (sourced marker hmarker)
  | advance p q row mem before after same markers follows =>
      exact h.write hb mem same markers hsettled
  | retry p q row mem before after free base same markers follows =>
      exact h.write hb mem same markers hsettled
  | retire p row mem before independent follows =>
      exact h.write hb mem ⟨rfl, rfl, rfl, rfl, rfl⟩ (.inl ⟨rfl, rfl, rfl⟩) hsettled
  | relabel p q row mem status same unmarked follows =>
      exact h.write hb mem same (.inr unmarked.2) hsettled
  | stand p q row mem before after independent same markers follows =>
      exact h.write hb mem same markers hsettled
  | promote p q row absorbed mem before after unmarked same only follows =>
      refine h.map hsettled fun other hother => ?_
      split_ifs
      · exact .inr unmarked
      · exact .inl ⟨rfl, rfl, rfl⟩
      · exact .refl other
  | rollBack target prior mem mem_prior settled unmarked gateway effective idle =>
      refine h.map hsettled fun other _ => ?_
      split_ifs <;> exact .inl ⟨rfl, rfl, rfl⟩

end Sourced

/-! ## Releases that are being built -/

section Based

variable {b : ReleaseBoard} {p q : GatewayPublication} {row : PublicationOutbox}

theorem Based.write (h : b.Based) (same : p.SameRelease q)
    (hbase : q.status.inFlight = true → p.baseReleaseId = b.effective p.gatewayProfileId) :
    (b.write q row).Based := by
  intro other hother hflight
  obtain ⟨old, hold, rfl⟩ := List.mem_map.1 hother
  rw [write_effective]
  split_ifs at hflight ⊢ with heq
  · rw [same.2.2.2.2, same.2.1]
    exact hbase hflight
  · exact h old hold hflight

/-- After a strict move every publication in flight is still built on the effective release. -/
theorem Based.move (h : b.Based) (hb : b.Sound) {b' : ReleaseBoard} (hmove : b.Move true b') :
    b'.Based := by
  cases hmove with
  | create p row fresh queued free last base marked sourced follows =>
      intro other hother hflight
      rcases List.mem_append.1 hother with hold | hnew
      · exact h other hold hflight
      · rw [List.mem_singleton.1 hnew]
        exact base
  | advance p q row mem before after same markers follows =>
      exact h.write same fun _ => h p mem before
  | retry p q row mem before after free base same markers follows =>
      exact h.write same fun _ => base rfl
  | retire p row mem before independent follows =>
      refine h.write (p := p) ⟨rfl, rfl, rfl, rfl, rfl⟩ fun hflight => ?_
      cases hflight
  | relabel p q row mem status same unmarked follows =>
      refine h.write same fun hflight => h p mem ?_
      rwa [status] at hflight
  | stand p q row mem before after independent same markers follows =>
      refine h.write same fun hflight => ?_
      rw [after] at hflight
      cases hflight
  | promote p q row absorbed mem before after unmarked same only follows =>
      intro other hother hflight
      obtain ⟨old, hold, rfl⟩ := List.mem_map.1 hother
      rw [promote_effective]
      split_ifs at hflight ⊢ with heq hgone
      · rw [after] at hflight
        cases hflight
      · cases hflight
      · have hflies : p.status.inFlight = true := by
          rw [before]
          rfl
        have hat : old.gatewayProfileId ≠ q.gatewayProfileId := by
          intro hat
          have hsame := hb.single old hold p mem (hat.trans same.2.1) hflight hflies
          exact heq (hsame ▸ same.1.symm)
        rw [Function.update_of_ne hat]
        exact h old hold hflight
  | rollBack target prior mem mem_prior settled unmarked gateway effective idle =>
      intro other hother hflight
      obtain ⟨old, hold, rfl⟩ := List.mem_map.1 hother
      rw [rollBack_effective]
      split_ifs at hflight ⊢ with heq hprior
      · cases hflight
      · cases hflight
      · have hat : old.gatewayProfileId ≠ target.gatewayProfileId := fun hat =>
          idle rfl ⟨old, hold, hat, hflight⟩
        rw [Function.update_of_ne hat]
        exact h old hold hflight

end Based

/-! ## Several moves -/

/-- Any number of moves. -/
abbrev Moves (strict : Bool) : ReleaseBoard → ReleaseBoard → Prop :=
  Relation.ReflTransGen (Move strict)

section Moves

variable {b b' : ReleaseBoard} {strict : Bool}

theorem Sound.moves (h : b.Sound) (hmoves : Moves strict b b') : b'.Sound := by
  induction hmoves with
  | refl => exact h
  | tail _ hmove ih => exact ih.move hmove

theorem Settled.moves {marked : Bool} {id : UUID} (h : b.Settled marked id) (hb : b.Sound)
    (hmoves : Moves strict b b') : b'.Settled marked id := by
  induction hmoves with
  | refl => exact h
  | tail hbefore hmove ih => exact ih.move (hb.moves hbefore) hmove

theorem Sourced.moves (h : b.Sourced) (hb : b.Sound) (hmoves : Moves strict b b') :
    b'.Sourced := by
  induction hmoves with
  | refl => exact h
  | tail hbefore hmove ih => exact ih.move (hb.moves hbefore) hmove

theorem Based.moves (h : b.Based) (hb : b.Sound) (hmoves : Moves true b b') : b'.Based := by
  induction hmoves with
  | refl => exact h
  | tail hbefore hmove ih => exact ih.move (hb.moves hbefore) hmove

end Moves

end ReleaseBoard

end Turnstile
