import Mathlib.Data.Prod.Lex
import Turnstile.Foundation.Ranking
import Turnstile.Persistence.PublicationSafety
import Turnstile.Persistence.ReleaseHistory

/-!
# Release retention

Garbage collection keeps the releases that a rule names: the effective release and its
rollback candidate, what is protected, what is young, what an operation works on, and the
newest few.  The newest few are counted among the publications that are active, superseded
or taken back.  A publication that was cancelled before it was promoted has the last of these
statuses too and takes a place, and no rule names what is active beside the effective release.
-/

namespace Turnstile

open PublicationStore Ranking

/-! ## What retention reads -/

/-- `GatewayReleaseRetentionPolicy`. -/
structure GatewayReleaseRetentionPolicy where
  retainedCount : ℕ
  retainedDays : ℕ
  failedRetainedDays : ℕ
  protectedLabels : List String
  count : 1 ≤ retainedCount ∧ retainedCount ≤ 1000
  days : 1 ≤ retainedDays ∧ retainedDays ≤ 3650
  failedDays : 1 ≤ failedRetainedDays ∧ failedRetainedDays ≤ 3650

/-- `age_limit`. -/
def GatewayReleaseRetentionPolicy.ageLimit (policy : GatewayReleaseRetentionPolicy)
    (status : PublicationStatus) : ℕ :=
  if status = .failed then policy.failedRetainedDays else policy.retainedDays

/-- A row of `gateway_release_protections`. -/
structure GatewayReleaseProtection where
  publicationId : UUID
  pinned : Bool
  protectedLabel : Option String
  retainUntil : Option ℤ

/-- The repository, with the protections and with the times at which publications and
operations were created, in seconds. -/
structure ReleaseArchive where
  store : PublicationStore
  protections : List GatewayReleaseProtection
  publicationCreatedAt : UUID → ℤ
  operationCreatedAt : UUID → ℤ

namespace ReleaseArchive

variable (a : ReleaseArchive)

/-- The publications of a target. -/
def releases (target : UUID) : List GatewayPublication :=
  a.store.publications.filter fun p => p.gatewayProfileId = target

/-- `all_gateway_publications`. -/
def allGatewayPublications (target : UUID) : List GatewayPublication :=
  (a.releases target).insertionSort fun p q =>
    toLex (a.publicationCreatedAt p.id, p.id) ≤ toLex (a.publicationCreatedAt q.id, q.id)

/-- `list_gateway_release_operations_for_gateways`, for one target. -/
def listOperations (target : UUID) (limit : ℕ) : List GatewayReleaseOperation :=
  (descending (fun o => toLex (a.operationCreatedAt o.id, o.id))
    (a.store.operations.filter fun o => o.gatewayProfileId = target)).take limit

/-- `protections.get(id)`. -/
def protection? (id : UUID) : Option GatewayReleaseProtection :=
  Rows.find? GatewayReleaseProtection.publicationId id a.protections

end ReleaseArchive

/-! ## The release context of a target -/

/-- `_has_recorded_release`. -/
def hasRecordedRelease (p : GatewayPublication) : Bool :=
  p.apimRevision.any (· ≠ "") && p.policySha256.any (· ≠ "") && !p.resourceManifest.independent

/-- `_same_gateway_program`. -/
def sameGatewayProgram (target current : GatewayPublication) : Bool :=
  target.resourceManifest.get "fixed_route_program"
    = current.resourceManifest.get "fixed_route_program"

/-- An entry of `contexts`. -/
structure ReleaseContext where
  currentId : Option UUID
  rollbackId : Option UUID

namespace ReleaseArchive

variable (a : ReleaseArchive)

/-- `candidates`, with the bases that are read for it. -/
def candidate? (target id : UUID) : Option GatewayPublication :=
  (Rows.find? GatewayPublication.id id
    ((a.store.effectivePublication? target).toList ++ a.allGatewayPublications target)).orElse
      fun _ => a.store.publication? id

/-- `rollback` of a current release: its base, or else the newest release before it. -/
def rollback? (target : UUID) (current : GatewayPublication) : Option GatewayPublication :=
  ((current.baseReleaseId.bind (a.candidate? target)).filter fun base =>
    hasRecordedRelease base && sameGatewayProgram base current).orElse fun _ =>
      (descending GatewayPublication.generation (a.allGatewayPublications target)).find? fun item =>
        decide (item.id ≠ current.id) && decide (item.generation < current.generation) &&
          hasRecordedRelease item && sameGatewayProgram item current

/-- `_release_contexts`, for the publications of one target. -/
def releaseContext (target : UUID) : ReleaseContext where
  currentId := (a.store.effectivePublication? target).map GatewayPublication.id
  rollbackId := ((a.store.effectivePublication? target).bind (a.rollback? target)).map
    GatewayPublication.id

/-! ## The rules -/

/-- `operation_ids`. -/
def operationIds (target : UUID) : List UUID :=
  ((a.listOperations target 1000).filter fun o => !o.status.terminal).flatMap fun o =>
    o.targetReleaseId.toList ++ o.priorReleaseId.toList

/-- `count_ids`. -/
def countIds (policy : GatewayReleaseRetentionPolicy) (target : UUID) : List UUID :=
  ((descending GatewayPublication.generation ((a.allGatewayPublications target).filter fun p =>
    p.status.settled)).take policy.retainedCount).map GatewayPublication.id

/-- `retention_reasons`. -/
def retentionReasons (policy : GatewayReleaseRetentionPolicy) (target : UUID) (now : ℤ)
    (p : GatewayPublication) : List String :=
  let context := a.releaseContext target
  let protection := a.protection? p.id
  let label := (protection.bind GatewayReleaseProtection.protectedLabel).filter fun label =>
    label ∈ policy.protectedLabels
  (if context.currentId = some p.id then ["current"] else []) ++
    (if context.rollbackId = some p.id then ["immediate_rollback"] else []) ++
    (if protection.any GatewayReleaseProtection.pinned = true then ["pinned"] else []) ++
    label.toList.map ("protected_label:" ++ ·) ++
    (if ∃ time ∈ protection.bind GatewayReleaseProtection.retainUntil, now < time then
      ["retain_until"] else []) ++
    (if p.id ∈ a.countIds policy target then ["retained_count"] else []) ++
    (if now - 86400 * policy.ageLimit p.status ≤ a.publicationCreatedAt p.id then
      ["retained_age"] else []) ++
    (if p.id ∈ a.operationIds target then ["active_operation"] else [])

/-- `retained_release_ids`. -/
def retainedReleaseIds (policy : GatewayReleaseRetentionPolicy) (target : UUID) (now : ℤ) :
    List UUID :=
  ((a.allGatewayPublications target).filter fun p =>
    a.retentionReasons policy target now p ≠ []).map GatewayPublication.id

/-! ## What is still needed -/

/-- The release is pinned, or its label is protected. -/
def Protected (policy : GatewayReleaseRetentionPolicy) (id : UUID) : Prop :=
  ∃ row ∈ a.protection? id, row.pinned = true ∨ ∃ label ∈ row.protectedLabel,
    label ∈ policy.protectedLabels

/-- The release is to be kept until later, or is young. -/
def Unexpired (policy : GatewayReleaseRetentionPolicy) (now : ℤ) (p : GatewayPublication) : Prop :=
  (∃ row ∈ a.protection? p.id, ∃ time ∈ row.retainUntil, now < time) ∨
    now - 86400 * policy.ageLimit p.status ≤ a.publicationCreatedAt p.id

/-- An operation of the target that is not at its end works on the release. -/
def InOperation (target id : UUID) : Prop :=
  ∃ o ∈ a.store.operations, o.gatewayProfileId = target ∧ o.status.terminal = false ∧
    (o.targetReleaseId = some id ∨ o.priorReleaseId = some id)

/-- The newer releases of the target that were active once. -/
def newerServed (served : List UUID) (p : GatewayPublication) : ℕ :=
  (a.releases p.gatewayProfileId).countP fun q => p.generation < q.generation ∧ q.id ∈ served

/-- The newer publications of the target that count as releases and never were active: those
that were cancelled before their promotion. -/
def newerUnserved (served : List UUID) (p : GatewayPublication) : ℕ :=
  (a.releases p.gatewayProfileId).countP fun q =>
    p.generation < q.generation ∧ q.status.settled = true ∧ q.id ∉ served

/-- All that is still needed of a target is retained; `served` was active once. -/
structure RetainsNeeded (policy : GatewayReleaseRetentionPolicy) (target : UUID) (now : ℤ)
    (served : List UUID) : Prop where
  effective : ∀ id ∈ a.store.effective target, id ∈ a.retainedReleaseIds policy target now
  rollback : ∀ id ∈ (a.releaseContext target).rollbackId,
    id ∈ a.retainedReleaseIds policy target now
  active : ∀ p ∈ a.releases target, p.status = .active →
    p.id ∈ a.retainedReleaseIds policy target now
  protects : ∀ p ∈ a.releases target, a.Protected policy p.id ∨ a.Unexpired policy now p →
    p.id ∈ a.retainedReleaseIds policy target now
  operations : ∀ p ∈ a.releases target, a.InOperation target p.id →
    p.id ∈ a.retainedReleaseIds policy target now
  newest : ∀ p ∈ a.releases target, p.id ∈ served →
    a.newerServed served p < policy.retainedCount → p.id ∈ a.retainedReleaseIds policy target now

/-- A rule other than the count keeps the release. -/
def KeptOtherwise (policy : GatewayReleaseRetentionPolicy) (target : UUID) (now : ℤ)
    (p : GatewayPublication) : Prop :=
  a.store.effective target = some p.id ∨ (a.releaseContext target).rollbackId = some p.id ∨
    a.Protected policy p.id ∨ a.Unexpired policy now p ∨ a.InOperation target p.id

end ReleaseArchive

/-! ## What is retained -/

namespace ReleaseArchive

variable {a : ReleaseArchive} {policy : GatewayReleaseRetentionPolicy} {target : UUID} {now : ℤ}
  {p q : GatewayPublication}

@[simp] theorem mem_releases : p ∈ a.releases target ↔
    p ∈ a.store.publications ∧ p.gatewayProfileId = target := by
  simp [releases]

theorem allGatewayPublications_perm :
    (a.allGatewayPublications target).Perm (a.releases target) :=
  List.perm_insertionSort _ _

@[simp] theorem mem_allGatewayPublications :
    p ∈ a.allGatewayPublications target ↔ p ∈ a.releases target :=
  allGatewayPublications_perm.mem_iff

theorem protected_iff {id : UUID} : a.Protected policy id ↔
    (a.protection? id).any GatewayReleaseProtection.pinned = true ∨
      ∃ label ∈ (a.protection? id).bind GatewayReleaseProtection.protectedLabel,
        label ∈ policy.protectedLabels := by
  unfold Protected
  cases a.protection? id with
  | none => simp
  | some row => simp

theorem unexpired_iff : a.Unexpired policy now p ↔
    (∃ time ∈ (a.protection? p.id).bind GatewayReleaseProtection.retainUntil, now < time) ∨
      now - 86400 * policy.ageLimit p.status ≤ a.publicationCreatedAt p.id := by
  unfold Unexpired
  cases a.protection? p.id with
  | none => simp
  | some row => simp

/-- The reasons for a release, one for each rule. -/
theorem retentionReasons_ne_nil : a.retentionReasons policy target now p ≠ [] ↔
    (a.releaseContext target).currentId = some p.id ∨
    (a.releaseContext target).rollbackId = some p.id ∨ a.Protected policy p.id ∨
    a.Unexpired policy now p ∨ p.id ∈ a.operationIds target ∨ p.id ∈ a.countIds policy target := by
  have happend : ∀ {l l' : List String}, l ++ l' ≠ [] ↔ l ≠ [] ∨ l' ≠ [] := by
    intro l l'
    rw [ne_eq, List.append_eq_nil_iff, not_and_or]
  have hreason : ∀ {c : Prop} [Decidable c] {reason : String},
      (if c then [reason] else []) ≠ [] ↔ c := by
    intro c _ reason
    split_ifs with hc
    · simp [hc]
    · simp [hc]
  have hlabel : ∀ {label : Option String},
      (label.filter (· ∈ policy.protectedLabels)).toList.map ("protected_label:" ++ ·) ≠ [] ↔
        ∃ text ∈ label, text ∈ policy.protectedLabels := by
    intro label
    cases label with
    | none => simp
    | some text =>
        by_cases htext : text ∈ policy.protectedLabels
        · simp [htext]
        · simp [htext]
  unfold retentionReasons
  dsimp only
  rw [happend, happend, happend, happend, happend, happend, happend, hreason, hreason, hreason,
    hlabel, hreason, hreason, hreason, hreason, protected_iff, unexpired_iff]
  clear happend hreason hlabel
  grind

/-! ### Releases of a target -/

variable {r : PublicationRules} {served : List UUID}

/-- Publications of a target differ in their identities and in their generations. -/
theorem releases_distinct (h : a.store.board.Sound) :
    ((a.releases target).map GatewayPublication.id).Nodup ∧
      ((a.releases target).map GatewayPublication.generation).Nodup := by
  refine ⟨Rows.nodup_filter h.distinct _, ?_⟩
  refine List.pairwise_map.2 ?_
  have hordered : (a.releases target).Pairwise fun p q =>
      p.gatewayProfileId = q.gatewayProfileId → p.generation < q.generation :=
    h.ordered.filter _
  refine hordered.imp_of_mem fun {p q} hp hq hlt => ?_
  exact (hlt ((mem_releases.1 hp).2.trans (mem_releases.1 hq).2.symm)).ne

theorem mem_retainedReleaseIds (h : a.store.board.Sound) (hp : p ∈ a.releases target) :
    p.id ∈ a.retainedReleaseIds policy target now ↔
      a.retentionReasons policy target now p ≠ [] := by
  unfold retainedReleaseIds
  constructor
  · intro hmem
    obtain ⟨q, hq, hid⟩ := List.mem_map.1 hmem
    obtain ⟨hq, hreasons⟩ := List.mem_filter.1 hq
    rw [mem_allGatewayPublications] at hq
    rw [Rows.eq_of_key (releases_distinct h).1 hq hp hid] at hreasons
    exact of_decide_eq_true hreasons
  · intro hreasons
    exact List.mem_map_of_mem (List.mem_filter.2
      ⟨mem_allGatewayPublications.2 hp, decide_eq_true hreasons⟩)

/-- The place of a release among those that count. -/
theorem mem_countIds (h : a.store.board.Sound) (hp : p ∈ a.releases target) :
    p.id ∈ a.countIds policy target ↔ p.status.settled = true ∧
      (a.releases target).countP (fun q => p.generation < q.generation ∧ q.status.settled = true)
        < policy.retainedCount := by
  have hgenerations : ((a.releases target).map GatewayPublication.generation).Nodup :=
    (releases_distinct h).2
  have hreleases : (a.allGatewayPublications target).Perm (a.releases target) :=
    allGatewayPublications_perm
  have hperm := hreleases.filter fun p => p.status.settled
  have hnodup : (((a.allGatewayPublications target).filter fun p =>
      p.status.settled).map GatewayPublication.generation).Nodup :=
    ((hperm.map _).nodup_iff).2 (Rows.nodup_filter hgenerations _)
  have hmem : p.id ∈ a.countIds policy target ↔ p ∈ (descending GatewayPublication.generation
      ((a.allGatewayPublications target).filter fun p => p.status.settled)).take
        policy.retainedCount := by
    unfold countIds
    constructor
    · intro hin
      obtain ⟨q, hq, hid⟩ := List.mem_map.1 hin
      have hq' := List.mem_filter.1 (mem_descending.1 (List.mem_of_mem_take hq))
      rwa [← Rows.eq_of_key (releases_distinct h).1 (mem_allGatewayPublications.1 hq'.1) hp hid]
    · exact fun hin => List.mem_map_of_mem hin
  rw [hmem, mem_take_descending hnodup, hperm.countP_eq, List.countP_filter, List.mem_filter,
    mem_allGatewayPublications]
  simp only [Bool.decide_and, Bool.decide_eq_true, hp, true_and]

/-- The effective release of a target, as a row. -/
theorem effective_release (h : a.store.board.Sound) {id : UUID}
    (heffective : a.store.effective target = some id) :
    ∃ p ∈ a.releases target, p.id = id ∧ a.store.effectivePublication? target = some p := by
  obtain ⟨p, hp, rfl, hgateway, -⟩ := h.effective target id heffective
  refine ⟨p, mem_releases.2 ⟨hp, hgateway⟩, rfl, ?_⟩
  rw [effectivePublication?, heffective, Option.bind_some]
  exact publication?_of_mem h hp

theorem currentId_eq (h : a.store.board.Sound) :
    (a.releaseContext target).currentId = a.store.effective target := by
  unfold releaseContext
  cases heffective : a.store.effective target with
  | none => rw [effectivePublication?, heffective, Option.bind_none, Option.map_none]
  | some id =>
      obtain ⟨p, -, rfl, hp⟩ := effective_release h heffective
      rw [hp, Option.map_some]

/-- The rollback candidate is a release of the target. -/
theorem rollback_release (h : a.store.board.Sound) (hfounded : a.store.board.Founded) {id : UUID}
    (hrollback : (a.releaseContext target).rollbackId = some id) :
    ∃ p ∈ a.releases target, p.id = id := by
  obtain ⟨p, hp, rfl⟩ := Option.map_eq_some_iff.1 hrollback
  refine ⟨p, ?_, rfl⟩
  obtain ⟨current, hcurrent, hp⟩ := Option.bind_eq_some_iff.1 hp
  obtain ⟨currentId, heffective, hrow⟩ := Option.bind_eq_some_iff.1 hcurrent
  have hmem : current ∈ a.releases target := by
    obtain ⟨q, hq, -, hq'⟩ := effective_release h heffective
    rwa [Option.some.inj (hcurrent.symm.trans hq')]
  unfold rollback? at hp
  cases hbase : (current.baseReleaseId.bind (a.candidate? target)).filter fun base =>
      hasRecordedRelease base && sameGatewayProgram base current with
  | none =>
      rw [hbase, Option.orElse_none] at hp
      exact mem_allGatewayPublications.1 (mem_descending.1 (List.mem_of_find?_eq_some hp))
  | some base =>
      rw [hbase, Option.orElse_some] at hp
      obtain rfl := Option.some.inj hp
      obtain ⟨baseId, hid, hcandidate⟩ :=
        Option.bind_eq_some_iff.1 (Option.filter_eq_some_iff.1 hbase).1
      obtain ⟨found, hfound, hsame, hat⟩ :=
        hfounded current (mem_releases.1 hmem).1 baseId hid
      have hrelease : found ∈ a.releases target :=
        mem_releases.2 ⟨hfound, hat.trans (mem_releases.1 hmem).2⟩
      -- Wherever the base was found, it is the row of its identity.
      have hrow : base ∈ a.store.publications ∧ base.id = baseId := by
        unfold candidate? at hcandidate
        cases hlisted : Rows.find? GatewayPublication.id baseId
            ((a.store.effectivePublication? target).toList ++ a.allGatewayPublications target) with
        | none =>
            rw [hlisted, Option.orElse_none] at hcandidate
            exact ⟨publication?_mem hcandidate, publication?_id hcandidate⟩
        | some listed =>
            rw [hlisted, Option.orElse_some] at hcandidate
            obtain rfl := Option.some.inj hcandidate
            refine ⟨?_, Rows.key_of_find? hlisted⟩
            rcases List.mem_append.1 (Rows.mem_of_find? hlisted) with hin | hin
            · rw [hcurrent, Option.toList_some, List.mem_singleton] at hin
              rw [hin]
              exact (mem_releases.1 hmem).1
            · exact (mem_releases.1 (mem_allGatewayPublications.1 hin)).1
      rwa [h.eq_of_id hrow.1 hfound (hrow.2.trans hsame.symm)]

/-- Every operation that is not at its end is among those that are read. -/
theorem mem_operationIds (h : OperationsInOrder a.operationCreatedAt a.store.operations)
    {id : UUID} :
    id ∈ a.operationIds target ↔ a.InOperation target id := by
  have hids : ((a.store.operations.filter fun o => o.gatewayProfileId = target).map
      GatewayReleaseOperation.id).Nodup := Rows.nodup_filter h.distinct _
  have hnodup : ((a.store.operations.filter fun o => o.gatewayProfileId = target).map fun o =>
      toLex (a.operationCreatedAt o.id, o.id)).Nodup := by
    refine List.Nodup.of_map (fun key => (ofLex key).2) ?_
    rwa [List.map_map]
  have hread : ∀ o : GatewayReleaseOperation, o.status.terminal = false →
      (o ∈ a.listOperations target 1000 ↔
        o ∈ a.store.operations ∧ o.gatewayProfileId = target) := by
    intro o hopen
    unfold listOperations
    rw [mem_take_descending hnodup, List.mem_filter, decide_eq_true_eq]
    refine ⟨And.left, fun ho => ⟨ho, ?_⟩⟩
    have hnone : (a.store.operations.filter fun o => o.gatewayProfileId = target).countP
        (fun other => toLex (a.operationCreatedAt o.id, o.id)
          < toLex (a.operationCreatedAt other.id, other.id)) = 0 := by
      refine List.countP_eq_zero.2 fun other hother => ?_
      obtain ⟨hother, hat⟩ := List.mem_filter.1 hother
      rw [decide_eq_true_eq, not_lt, Prod.Lex.toLex_le_toLex]
      by_cases hsame : other.id = o.id
      · right
        rw [hsame]
        exact ⟨rfl, le_refl _⟩
      · left
        exact h.newest o ho.1 hopen other hother ((of_decide_eq_true hat).trans ho.2.symm) hsame
    rw [hnone]
    omega
  unfold operationIds InOperation
  rw [List.mem_flatMap]
  constructor
  · rintro ⟨o, ho, hid⟩
    obtain ⟨ho, hopen⟩ := List.mem_filter.1 ho
    rw [Bool.not_eq_true'] at hopen
    obtain ⟨hmem, hat⟩ := (hread o hopen).1 ho
    refine ⟨o, hmem, hat, hopen, ?_⟩
    simpa only [List.mem_append, Option.mem_toList] using hid
  · rintro ⟨o, hmem, hat, hopen, hid⟩
    refine ⟨o, List.mem_filter.2 ⟨(hread o hopen).2 ⟨hmem, hat⟩, by rw [hopen]; rfl⟩, ?_⟩
    simpa only [List.mem_append, Option.mem_toList] using hid

/-- The rules, in terms of the store. -/
theorem retained_iff (h : a.store.board.Sound)
    (horder : OperationsInOrder a.operationCreatedAt a.store.operations)
    (hp : p ∈ a.releases target) : p.id ∈ a.retainedReleaseIds policy target now ↔
      a.KeptOtherwise policy target now p ∨ (p.status.settled = true ∧
        (a.releases target).countP (fun q => p.generation < q.generation ∧ q.status.settled = true)
          < policy.retainedCount) := by
  rw [mem_retainedReleaseIds h hp, retentionReasons_ne_nil, currentId_eq h, mem_operationIds horder,
    mem_countIds h hp]
  unfold KeptOtherwise
  grind

/-- The newer publications that count as releases: those that were active, and the others. -/
theorem countP_settled (hserved : ∀ q ∈ a.store.publications, q.id ∈ served →
    q.status.settled = true) : (a.releases p.gatewayProfileId).countP
      (fun q => p.generation < q.generation ∧ q.status.settled = true)
        = a.newerServed served p + a.newerUnserved served p := by
  unfold newerServed newerUnserved
  have hsettled : ∀ q ∈ a.releases p.gatewayProfileId, q.id ∈ served → q.status.settled = true :=
    fun q hq => hserved q (mem_releases.1 hq).1
  generalize a.releases p.gatewayProfileId = l at hsettled
  induction l with
  | nil => rfl
  | cons q rest ih =>
      have hrest := ih fun other hother => hsettled other (List.mem_cons_of_mem _ hother)
      have hq := hsettled q List.mem_cons_self
      rw [List.countP_cons, List.countP_cons, List.countP_cons, hrest]
      by_cases hin : q.id ∈ served
      · simp only [hin, hq hin, not_true, and_true, and_false, decide_false, Bool.false_eq_true,
          if_false]
        omega
      · simp only [hin, not_false_iff, and_true, and_false, decide_false, Bool.false_eq_true,
          if_false]
        omega

end ReleaseArchive

/-! ## When retention keeps what is needed -/

open ReleaseArchive in
/-- In every store of a run, retention keeps all that is still needed just when each release that
was active, and that is active still or among the newest few, is kept by a rule other than the
count or has few newer publications that count, the cancelled ones among them. -/
theorem retention_keeps_needed_iff {r : PublicationRules} {a : ReleaseArchive} {served : List UUID}
    (h : Serves r (fun s call => call.InTime a.operationCreatedAt s) a.store served)
    (policy : GatewayReleaseRetentionPolicy) (target : UUID) (now : ℤ) :
    a.RetainsNeeded policy target now served ↔
      ∀ p ∈ a.releases target, p.id ∈ served →
        (p.status = .active ∨ a.newerServed served p < policy.retainedCount) →
          a.KeptOtherwise policy target now p ∨
            a.newerServed served p + a.newerUnserved served p < policy.retainedCount := by
  have hsound := h.reachable.kept.sound
  have horder := h.reachable.operationsInOrder
  have hsettled : ∀ q ∈ a.store.publications, q.id ∈ served → q.status.settled = true :=
    fun q hq hserved => h.status_settled hq hserved
  have hcount : ∀ p ∈ a.releases target, (a.releases target).countP
      (fun q => p.generation < q.generation ∧ q.status.settled = true)
        = a.newerServed served p + a.newerUnserved served p := by
    intro p hp
    rw [← (mem_releases.1 hp).2]
    exact countP_settled hsettled
  constructor
  · intro hneeded p hp hserved hwhich
    have hretained : p.id ∈ a.retainedReleaseIds policy target now :=
      hwhich.elim (hneeded.active p hp) (hneeded.newest p hp hserved)
    rw [retained_iff hsound horder hp, hcount p hp] at hretained
    exact hretained.imp_right And.right
  · intro hall
    have hkept : ∀ p ∈ a.releases target, a.KeptOtherwise policy target now p →
        p.id ∈ a.retainedReleaseIds policy target now :=
      fun p hp hrule => (retained_iff hsound horder hp).2 (.inl hrule)
    have hserved : ∀ p ∈ a.releases target, p.id ∈ served →
        (p.status = .active ∨ a.newerServed served p < policy.retainedCount) →
          p.id ∈ a.retainedReleaseIds policy target now := by
      intro p hp hin hwhich
      rw [retained_iff hsound horder hp, hcount p hp]
      exact (hall p hp hin hwhich).imp_right fun hfew =>
        ⟨hsettled p (mem_releases.1 hp).1 hin, hfew⟩
    refine ⟨?_, ?_, ?_, ?_, ?_, ?_⟩
    · intro id hid
      obtain ⟨p, hp, rfl, -⟩ := effective_release hsound hid
      exact hkept p hp (.inl hid)
    · intro id hid
      obtain ⟨p, hp, rfl⟩ := rollback_release hsound h.reachable.founded hid
      exact hkept p hp (.inr (.inl hid))
    · intro p hp hactive
      exact hserved p hp (h.of_active (mem_releases.1 hp).1 hactive) (.inl hactive)
    · intro p hp hrule
      exact hkept p hp (.inr (.inr (hrule.elim .inl fun hyoung => .inr (.inl hyoung))))
    · intro p hp hrule
      exact hkept p hp (.inr (.inr (.inr (.inr hrule))))
    · intro p hp hin hnewest
      exact hserved p hp hin (.inr hnewest)

/-! ### A release that a cancelled publication displaces -/

/-- A call that promises nothing of the store. -/
def PublicationCall.simple (call : PublicationCall) : Bool :=
  match call with
  | create .. => true
  | cancel .. => true
  | call => call.plain

theorem PublicationCall.simple_promised {call : PublicationCall} (h : call.simple = true)
    (createdAt : UUID → ℤ) (s : PublicationStore) : call.Promised s ∧ call.InTime createdAt s := by
  cases call with
  | transition id expected status updates actor now =>
      refine ⟨fun p _ => ?_, trivial⟩
      obtain ⟨hleads, hnone⟩ := Bool.and_eq_true_iff.1 h
      refine ⟨of_decide_eq_true hleads, fun manifest hmanifest => ?_⟩
      rw [Option.isNone_iff_eq_none.1 hnone] at hmanifest
      cases hmanifest
  | create request fresh => exact ⟨trivial, trivial⟩
  | cancel id actor now => exact ⟨trivial, trivial⟩
  | claim worker leaseSeconds now => exact ⟨trivial, trivial⟩
  | activate id actor validate fresh now => exact ⟨trivial, trivial⟩
  | _ => cases h

namespace Sample

/-- A store and what it has served, after calls in turn. -/
def serve (run : PublicationStore × List UUID) (calls : List PublicationCall) :
    PublicationStore × List UUID :=
  calls.foldl (fun run call => ((call.perform publicationRules).after run.1,
    run.2 ++ ((call.perform publicationRules).after run.1).activeIds)) run

theorem serve_serves {createdAt : UUID → ℤ} (calls : List PublicationCall)
    (hsimple : calls.all PublicationCall.simple = true) (run : PublicationStore × List UUID)
    (h : Serves publicationRules (fun s call => call.InTime createdAt s) run.1 run.2) :
    Serves publicationRules (fun s call => call.InTime createdAt s) (serve run calls).1
      (serve run calls).2 := by
  induction calls generalizing run with
  | nil => exact h
  | cons call rest ih =>
      rw [List.all_cons, Bool.and_eq_true] at hsimple
      obtain ⟨hpromised, htime⟩ := PublicationCall.simple_promised hsimple.1 createdAt run.1
      exact ih hsimple.2 _ (.call run.1 run.2 call h hpromised htime)

/-- A release is built and activated. -/
def release (name : String) (id : UUID) : List PublicationCall :=
  .create (addRequest name) ⟨id, "", 0⟩ :: promotion id ++ [activation id]

/-- Three releases, and a publication that its owner cancels. -/
def cancelledCalls : List PublicationCall :=
  release "first" 2 ++ release "second" 3 ++ release "third" 4 ++
    [.create (addRequest "fourth") ⟨5, "", 0⟩, .cancel 5 "owner" 0]

def cancelledRun : PublicationStore × List UUID :=
  serve (emptyStore, []) cancelledCalls

/-- The first release is old. -/
def cancelledArchive : ReleaseArchive where
  store := cancelledRun.1
  protections := []
  publicationCreatedAt id := if id = 2 then 0 else 1000000
  operationCreatedAt _ := 0

/-- The newest releases, and those of a day. -/
def retentionPolicy (count : ℕ) (h : 1 ≤ count ∧ count ≤ 1000) : GatewayReleaseRetentionPolicy :=
  ⟨count, 1, 1, [], h, by decide, by decide⟩

theorem cancelledCalls_simple : cancelledCalls.all PublicationCall.simple = true := by
  decide +kernel

theorem cancelledArchive_serves : Serves publicationRules
    (fun s call => call.InTime cancelledArchive.operationCreatedAt s) cancelledArchive.store
      cancelledRun.2 := by
  rw [cancelledArchive, cancelledRun]
  dsimp only
  exact serve_serves cancelledCalls cancelledCalls_simple (emptyStore, [])
    (.empty emptyStore emptyStore_empty)

end Sample

/-- The first of three releases is among the three newest, and is not retained. -/
theorem cancelled_publication_displaces_release :
    ¬∀ (r : PublicationRules) (a : ReleaseArchive) (served : List UUID),
      Serves r (fun s call => call.InTime a.operationCreatedAt s) a.store served →
        ∀ (policy : GatewayReleaseRetentionPolicy) (target : UUID) (now : ℤ),
          a.RetainsNeeded policy target now served := by
  intro hall
  have hneeded := hall Sample.publicationRules Sample.cancelledArchive Sample.cancelledRun.2
    Sample.cancelledArchive_serves
    (Sample.retentionPolicy 3 (by decide)) 1 1000000
  have hfirst : ∃ p ∈ Sample.cancelledArchive.releases 1, p.id = 2 ∧ p.id ∈ Sample.cancelledRun.2 ∧
      Sample.cancelledArchive.newerServed Sample.cancelledRun.2 p < 3 := by
    decide +kernel
  obtain ⟨p, hp, hid, hserved, hnewest⟩ := hfirst
  have hretained := hneeded.newest p hp hserved hnewest
  rw [hid] at hretained
  have hlost : 2 ∉ Sample.cancelledArchive.retainedReleaseIds
      (Sample.retentionPolicy 3 (by decide)) 1 1000000 := by
    decide +kernel
  exact hlost hretained

/-- With one more place all that is needed is retained. -/
theorem retention_keeps_cancelled_archive :
    Sample.cancelledArchive.RetainsNeeded (Sample.retentionPolicy 4 (by decide)) 1 1000000
      Sample.cancelledRun.2 := by
  refine (retention_keeps_needed_iff Sample.cancelledArchive_serves _ 1 1000000).2 ?_
  have hfew : ∀ p ∈ Sample.cancelledArchive.releases 1,
      Sample.cancelledArchive.newerServed Sample.cancelledRun.2 p
        + Sample.cancelledArchive.newerUnserved Sample.cancelledRun.2 p < 4 := by
    decide +kernel
  exact fun p hp _ _ => .inr (hfew p hp)

end Turnstile
