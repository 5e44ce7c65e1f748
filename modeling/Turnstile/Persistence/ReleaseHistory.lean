import Turnstile.Persistence.OperationFrames

/-!
# The history of releases

A run is kept with the publications that were active in one of its stores.  What was active
once stays settled: it is active still, or was superseded or taken back.  And every release
was built on one of its own target.
-/

namespace Turnstile

open Procedure PublicationStore

/-! ## What a release was built on -/

namespace ReleaseBoard

/-- The base of a publication is one of its target. -/
def Founded (b : ReleaseBoard) : Prop :=
  ∀ p ∈ b.publications, ∀ id ∈ p.baseReleaseId,
    ∃ base ∈ b.publications, base.id = id ∧ base.gatewayProfileId = p.gatewayProfileId

section Founded

variable {b : ReleaseBoard}

/-- Rewriting rows keeps the bases where it keeps the releases. -/
theorem Founded.map (h : b.Founded) {f : GatewayPublication → GatewayPublication}
    (same : ∀ p ∈ b.publications, p.SameRelease (f p)) {outbox : List PublicationOutbox}
    {t : UUID → Option UUID} : Founded ⟨b.publications.map f, outbox, t⟩ := by
  intro p' hp' id hid
  obtain ⟨p, hp, rfl⟩ := List.mem_map.1 hp'
  obtain ⟨-, hgateway, -, -, hbase⟩ := same p hp
  rw [hbase] at hid
  obtain ⟨base, hmem, hsame, hat⟩ := h p hp id hid
  obtain ⟨hkept, hthere, -⟩ := same base hmem
  exact ⟨f base, List.mem_map_of_mem hmem, by rw [hkept, hsame], by rw [hthere, hgateway, hat]⟩

theorem Founded.write (h : b.Founded) (hb : b.Sound) {p q : GatewayPublication}
    {row : PublicationOutbox} (mem : p ∈ b.publications) (same : p.SameRelease q) :
    (b.write q row).Founded := by
  refine h.map fun other hother => ?_
  split_ifs with hid
  · cases hb.eq_of_id hother mem (hid.trans same.1)
    exact same
  · exact .refl other

theorem Founded.move (h : b.Founded) (hb : b.Sound) {strict : Bool} {b' : ReleaseBoard}
    (hmove : b.Move strict b') : b'.Founded := by
  cases hmove with
  | create p row fresh queued free last base marked sourced follows =>
      intro other hother id hid
      rcases List.mem_append.1 hother with hold | hnew
      · obtain ⟨found, hmem, hfound⟩ := h other hold id hid
        exact ⟨found, List.mem_append_left _ hmem, hfound⟩
      · rw [List.mem_singleton.1 hnew] at hid ⊢
        rw [base] at hid
        obtain ⟨found, hmem, hfound, hat, -⟩ := hb.effective _ id hid
        exact ⟨found, List.mem_append_left _ hmem, hfound, hat⟩
  | advance p q row mem before after same markers follows => exact h.write hb mem same
  | retry p q row mem before after free base same markers follows => exact h.write hb mem same
  | retire p row mem before independent follows =>
      exact h.write hb mem ⟨rfl, rfl, rfl, rfl, rfl⟩
  | relabel p q row mem status same unmarked follows => exact h.write hb mem same
  | stand p q row mem before after independent same markers follows => exact h.write hb mem same
  | promote p q row absorbed mem before after unmarked same only follows =>
      refine h.map fun other hother => ?_
      split_ifs with hid hold
      · cases hb.eq_of_id hother mem (hid.trans same.1)
        exact same
      · exact ⟨rfl, rfl, rfl, rfl, rfl⟩
      · exact .refl other
  | rollBack target prior mem mem_prior settled unmarked gateway effective idle =>
      refine h.map fun other _ => ?_
      split_ifs <;> exact ⟨rfl, rfl, rfl, rfl, rfl⟩

theorem Founded.moves (h : b.Founded) (hb : b.Sound) {strict : Bool} {b' : ReleaseBoard}
    (hmoves : Moves strict b b') : b'.Founded := by
  induction hmoves with
  | refl => exact h
  | tail hbefore hmove ih => exact ih.move (hb.moves hbefore) hmove

end Founded

end ReleaseBoard

/-! ## Runs and what they served -/

/-- The publications that are active. -/
def PublicationStore.activeIds (s : PublicationStore) : List UUID :=
  (s.publications.filter fun p => p.status = .active).map GatewayPublication.id

/-- A run to a store, with the publications that were active after one of its calls. -/
inductive PublicationStore.Serves (r : PublicationRules)
    (allowed : PublicationStore → PublicationCall → Prop) : PublicationStore → List UUID → Prop
  | empty (s : PublicationStore) (h : s.Empty) : Serves r allowed s []
  | call (s : PublicationStore) (served : List UUID) (call : PublicationCall)
      (h : Serves r allowed s served) (promised : call.Promised s) (hallowed : allowed s call) :
      Serves r allowed ((call.perform r).after s)
        (served ++ ((call.perform r).after s).activeIds)

section Serves

variable {r : PublicationRules} {allowed : PublicationStore → PublicationCall → Prop}
  {s : PublicationStore} {served : List UUID}

theorem PublicationStore.Serves.reachable (h : Serves r allowed s served) :
    Reachable r allowed s := by
  induction h with
  | empty s h => exact .empty s h
  | call s served call _ promised hallowed ih => exact .call s call ih promised hallowed

theorem PublicationStore.mem_activeIds {p : GatewayPublication} (hp : p ∈ s.publications)
    (hactive : p.status = .active) : p.id ∈ s.activeIds :=
  List.mem_map_of_mem (List.mem_filter.2 ⟨hp, decide_eq_true hactive⟩)

/-- What is active was served. -/
theorem PublicationStore.Serves.of_active (h : Serves r allowed s served) {p : GatewayPublication}
    (hp : p ∈ s.publications) (hactive : p.status = .active) : p.id ∈ served := by
  cases h with
  | empty s h =>
      rw [h.1] at hp
      cases hp
  | call s served call => exact List.mem_append_right _ (mem_activeIds hp hactive)

/-- What was served is settled. -/
theorem PublicationStore.Serves.settled (h : Serves r allowed s served) :
    ∀ id ∈ served, ∃ marked, s.board.Settled marked id := by
  induction h with
  | empty s h => exact fun id hid => absurd hid List.not_mem_nil
  | call s served call hbefore promised _ ih =>
      have hkept := hbefore.reachable.kept
      have hmoved : s.Moved false ((call.perform r).after s) :=
        after_of_meets (call.perform_moved false hkept promised fun hstrict => by cases hstrict)
      intro id hid
      rcases List.mem_append.1 hid with hold | hnew
      · obtain ⟨marked, hsettled⟩ := ih id hold
        exact ⟨marked, hsettled.moves hkept.sound hmoved.moves⟩
      · obtain ⟨p, hp, rfl⟩ := List.mem_map.1 hnew
        obtain ⟨hmem, hactive⟩ := List.mem_filter.1 hp
        refine ⟨_, p, hmem, rfl, ?_, rfl⟩
        rw [of_decide_eq_true hactive]
        rfl

theorem PublicationStore.Serves.status_settled (h : Serves r allowed s served)
    {p : GatewayPublication} (hp : p ∈ s.publications) (hserved : p.id ∈ served) :
    p.status.settled = true := by
  obtain ⟨_, q, hq, hid, hsettled, -⟩ := h.settled p.id hserved
  rwa [← h.reachable.kept.sound.eq_of_id hq hp hid]

theorem PublicationStore.Reachable.founded (h : Reachable r allowed s) : s.board.Founded := by
  induction h with
  | empty s hempty =>
      intro p hp
      change p ∈ s.publications at hp
      rw [hempty.1] at hp
      cases hp
  | call s call hreach promised _ ih =>
      have hkept := hreach.kept
      have hmoved : s.Moved false ((call.perform r).after s) :=
        after_of_meets (call.perform_moved false hkept promised fun hstrict => by cases hstrict)
      exact ih.moves hkept.sound hmoved.moves

/-- In a run in time the operations are in order. -/
theorem PublicationStore.Reachable.operationsInOrder {createdAt : UUID → ℤ}
    (h : Reachable r (fun s call => call.InTime createdAt s) s) :
    OperationsInOrder createdAt s.operations := by
  induction h with
  | empty s hempty =>
      rw [hempty.2.2.2]
      exact ⟨List.nodup_nil, fun o ho => absurd ho List.not_mem_nil,
        fun o ho => absurd ho List.not_mem_nil⟩
  | call s call _ _ htime ih => exact call.perform_inOrder ih htime

end Serves

end Turnstile
