import Mathlib.Logic.Relation
import Turnstile.Services.PolicySwitch

/-!
# Deliveries of policies by several workers

Any number of workers deliver policies to one scope, each as `PolicySwitch` has it, while
requests reserve and settle.  A batch whose request failed may be applied later, as long as
its tag is current.

The stored terms are always those of one policy that was sent, or the first ones, and
policies only replace older ones (`policy_in_force`, `policies_only_advance`).  Whether the
scope is enabled is another matter: a switch of the unit stops the scope for a later policy,
and opens it again when that policy, not the one in force, is enabled.
-/

namespace Turnstile

open Guard

/-! ## The system -/

/-- A batch: the summary, and the tag it expects. -/
abbrev SummaryBatch := LedgerSummary × ℕ

/-- A scope, its workers, and the batches that are on their way. -/
structure DeliveryState (ι : Type) where
  ledger : Ledger
  etag : ℕ
  pcs : ι → Pc
  late : List SummaryBatch

namespace DeliveryState

variable {ι : Type} [DecidableEq ι]

/-- What worker `i` sees. -/
def view (s : DeliveryState ι) (i : ι) : SwitchState := ⟨s.ledger, s.etag, s.pcs i⟩

/-- Worker `i` made a step to `t`. -/
def after (s : DeliveryState ι) (i : ι) (t : SwitchState) : DeliveryState ι :=
  { s with ledger := t.ledger, etag := t.etag, pcs := Function.update s.pcs i t.pc }

/-- The batch of worker `i` is on its way, whatever the worker does next. -/
def delay (s : DeliveryState ι) (i : ι) : DeliveryState ι :=
  match SwitchState.batch? (s.pcs i) with
  | none => s
  | some (updated, expected, _, _) => { s with late := (updated, expected) :: s.late }

/-- A batch arrives, and is applied. -/
def arrive (s : DeliveryState ι) (updated : LedgerSummary) : DeliveryState ι :=
  { s with ledger := ⟨updated, s.ledger.attempts⟩, etag := s.etag + 1 }

/-- Every worker waits, and nothing is under way. -/
structure Idle (s : DeliveryState ι) : Prop where
  pcs : ∀ i, s.pcs i = .idle
  late : s.late = []

end DeliveryState

/-- One step of a system whose workers deliver the policies of `sent`. -/
inductive DeliveryStep {ι : Type} [DecidableEq ι] (sent : LedgerPolicyUpdate → Prop) :
    DeliveryState ι → DeliveryState ι → Prop where
  | event {s : DeliveryState ι} {t : SwitchState} (i : ι) (e : SwitchEvent) :
      (∀ update, e = .begin update → sent update) → (s.view i).next? e = some t →
      DeliveryStep sent s (s.after i t)
  | delay {s : DeliveryState ι} (i : ι) : DeliveryStep sent s (s.delay i)
  | arrive {s : DeliveryState ι} {updated : LedgerSummary} : (updated, s.etag) ∈ s.late →
      DeliveryStep sent s (s.arrive updated)

/-- The states that are reached by any number of steps. -/
def Deliveries {ι : Type} [DecidableEq ι] (sent : LedgerPolicyUpdate → Prop) :
    DeliveryState ι → DeliveryState ι → Prop :=
  Relation.ReflTransGen (DeliveryStep sent)

/-! ## What a delivery writes -/

/-- The policy that a summary has. -/
def SummaryFields.terms (s : SummaryFields) : LedgerPolicyUpdate where
  scope := s.scope
  epoch := s.epoch
  revision := s.policyRevision
  tokenLimit := s.tokenLimit
  budgetMode := s.budgetMode
  usdLimit := s.usdLimit
  enforce := s.enforce
  enabled := s.enabled

theorem KeepsTerms.terms {s s' : SummaryFields} (h : KeepsTerms s s') : s'.terms = s.terms := by
  unfold SummaryFields.terms
  rw [h.scope, h.epoch, h.policyRevision, h.tokenLimit, h.budgetMode, h.usdLimit, h.enforce,
    h.enabled]

/-- A policy that was sent, in another unit than that of the first terms or of a policy that
was sent. -/
def Switches (sent : LedgerPolicyUpdate → Prop) (first update : LedgerPolicyUpdate) : Prop :=
  sent update ∧ ∃ q, (sent q ∨ q = first) ∧ q.budgetMode ≠ update.budgetMode

/-- A batch that was computed from `summary` writes `updated`: a newer policy, or whether the
scope is enabled, for the sake of a newer policy that switches the unit. -/
inductive Rewrites (sent : LedgerPolicyUpdate → Prop) (first : LedgerPolicyUpdate)
    (summary updated : LedgerSummary) : Prop where
  | policy (update : LedgerPolicyUpdate) (openingBalance : Option ℚ) (now : Int) :
      sent update → summary.policyRevision < update.revision →
      PolicyWritten summary update openingBalance now updated →
      updated.terms = update → Rewrites sent first summary updated
  | toggle (update : LedgerPolicyUpdate) (enabled : Bool) (now : Int) :
      Switches sent first update → summary.policyRevision < update.revision →
      (enabled = true → update.enabled = true) →
      updated.toSummaryFields = { summary.toSummaryFields with
        enabled, version := summary.version + 1, updatedAt := now } →
      Rewrites sent first summary updated

section Writes

variable {sent : LedgerPolicyUpdate → Prop} {first : LedgerPolicyUpdate}
  {summary updated : LedgerSummary} {update : LedgerPolicyUpdate} {openingBalance : Option ℚ}
  {now : Int}

/-- A policy that is written is newer, and is the policy that the summary then has. -/
theorem rewrites_of_writePolicy (hsent : sent update)
    (h : writePolicy summary update openingBalance now = .ok updated) (hne : updated ≠ summary) :
    Rewrites sent first summary updated := by
  have hwritten := writePolicy_result h
  obtain ⟨hscope, h⟩ := require_bind_eq_ok.1 h
  obtain ⟨hepoch, h⟩ := require_bind_eq_ok.1 h
  have hnewer : summary.policyRevision < update.revision := by
    split at h
    next => exact absurd (Except.ok.inj h).symm hne
    next hnlt =>
      obtain ⟨hunit, h⟩ := require_bind_eq_ok.1 h
      obtain ⟨opened, hopened, h⟩ := bind_eq_ok.1 h
      by_contra hle
      have heq : update.revision = summary.policyRevision := by omega
      rw [if_pos (hunit heq)] at hopened
      obtain rfl := Except.ok.inj hopened
      cases (updateLedgerPolicy_result h).2 with
      | kept => exact hne rfl
      | advanced hgt => omega
  refine .policy update openingBalance now hsent hnewer hwritten ?_
  cases hwritten with
  | kept => exact absurd rfl hne
  | updated hmode hs =>
      rw [hs]
      unfold SummaryFields.terms
      simp only [hscope, hepoch, hmode]
  | switched _ _ _ _ _ _ hs =>
      rw [hs]
      unfold SummaryFields.terms
      simp only [hscope, hepoch]

theorem rewrites_of_quiesce {enabled : Bool} (hsent : Switches sent first update)
    (henabled : enabled = true → update.enabled = true)
    (h : quiesceBudgetScope summary update.scope update.epoch update.revision enabled now
      = .ok updated) (hne : updated ≠ summary) :
    Rewrites sent first summary updated := by
  have hresult := (quiesceBudgetScope_result h).resolve_left hne
  refine .toggle update enabled now hsent ?_ henabled hresult
  obtain ⟨-, h⟩ := require_bind_eq_ok.1 h
  split at h
  next => exact absurd (Except.ok.inj h).symm hne
  next hnle => omega

end Writes

/-! ## What workers keep to -/

/-- A batch whose tag is current was computed from the summary that is stored. -/
def Pending (sent : LedgerPolicyUpdate → Prop) (first : LedgerPolicyUpdate)
    (summary : LedgerSummary) (etag : ℕ) (updated : LedgerSummary) (expected : ℕ) : Prop :=
  expected ≤ etag ∧ (expected = etag → Rewrites sent first summary updated)

/-- A worker delivers a policy that was sent, stops the scope only for one that switches the
unit, and opens it only for one that is enabled. -/
def Pc.Sends (sent : LedgerPolicyUpdate → Prop) (first : LedgerPolicyUpdate)
    (summary : LedgerSummary) (etag : ℕ) : Pc → Prop
  | .idle => True
  | .started update | .writeRead update _ _ => sent update
  | .pendingFirst update _ | .usageFirst update _ _ | .pendingSecond update _ _
  | .usageSecond update _ _ => Switches sent first update
  | .quiesceRead update _ enabled _ =>
      Switches sent first update ∧ (enabled = true → update.enabled = true)
  | .quiesceCommit update _ enabled _ updated expected =>
      Switches sent first update ∧ (enabled = true → update.enabled = true) ∧
        Pending sent first summary etag updated expected
  | .writeCommit update _ _ updated expected =>
      sent update ∧ Pending sent first summary etag updated expected

namespace Pc

variable {sent : LedgerPolicyUpdate → Prop} {first update : LedgerPolicyUpdate}
  {source : BudgetMode} {summary summary' current : LedgerSummary} {etag : ℕ} {pc : Pc}

/-- What a worker knows of a batch is still known when the stored summary has changed. -/
theorem Sends.changed (h : pc.Sends sent first summary etag) (summary' : LedgerSummary) :
    pc.Sends sent first summary' (etag + 1) := by
  have hpending : ∀ {updated expected}, Pending sent first summary etag updated expected →
      Pending sent first summary' (etag + 1) updated expected := by
    intro updated expected hbatch
    refine ⟨by have := hbatch.1; omega, fun heq => ?_⟩
    have := hbatch.1
    omega
  cases pc with
  | quiesceCommit update source enabled tries updated expected =>
      exact ⟨h.1, h.2.1, hpending h.2.2⟩
  | writeCommit update basis tries updated expected => exact ⟨h.1, hpending h.2⟩
  | _ => exact h

theorem sends_reopenIf (p : Prop) [Decidable p] (h : Switches sent first update)
    (henabled : p → update.enabled = true) :
    (reopenIf update source p).Sends sent first summary etag := by
  unfold reopenIf
  split
  next hp => exact ⟨h, fun _ => henabled hp⟩
  next => trivial

theorem sends_afterRead (h : sent update)
    (hmode : ∃ q, (sent q ∨ q = first) ∧ q.budgetMode = current.budgetMode) :
    (afterRead update current).Sends sent first summary etag := by
  obtain ⟨q, hq, hsame⟩ := hmode
  unfold afterRead
  split
  next => trivial
  next =>
    split
    next => trivial
    next =>
      split
      next => exact h
      next hne =>
        have hswitches : Switches sent first update := ⟨h, q, hq, hsame ▸ hne⟩
        split
        next => exact hswitches
        next => exact hswitches

theorem sends_afterUsage (pending : Bool) (usage : Option SwitchUsage)
    (h : Switches sent first update) :
    (afterUsage update current pending usage).Sends sent first summary etag := by
  unfold afterUsage
  simp only
  split
  next => exact sends_reopenIf _ h fun hp => hp.2.1
  next => exact ⟨h, fun henabled => (by cases henabled)⟩

theorem sends_afterQuiesce {enabled : Bool} (h : Switches sent first update) :
    (afterQuiesce update source enabled current).Sends sent first summary etag := by
  unfold afterQuiesce
  split
  next => trivial
  next =>
    split
    next => trivial
    next =>
      split
      next => exact sends_reopenIf _ h fun hp => hp.2.2
      next =>
        split
        next => exact h
        next => exact h

theorem sends_afterPending (pending : Bool) (h : Switches sent first update) :
    (afterPending update source current pending).Sends sent first summary etag := by
  unfold afterPending
  split
  next => exact sends_reopenIf _ h fun hp => hp.2
  next => exact h

theorem sends_afterSecondUsage (usage : Option SwitchUsage) (h : Switches sent first update) :
    (afterSecondUsage update source current usage).Sends sent first summary etag := by
  unfold afterSecondUsage
  cases usage with
  | none => exact sends_reopenIf _ h id
  | some usage =>
      simp only
      split
      next => exact sends_reopenIf _ h id
      next =>
        split
        next => exact sends_reopenIf _ h id
        next => exact h.1

end Pc

namespace SwitchState

variable {sent : LedgerPolicyUpdate → Prop} {first : LedgerPolicyUpdate} {s t : SwitchState}

theorem sends_afterRead (h : s.pc.Sends sent first s.ledger.summary s.etag) {now : Int} {pc : Pc}
    (hread : s.afterRead now = some pc)
    (hmode : ∃ q, (sent q ∨ q = first) ∧ q.budgetMode = s.ledger.summary.budgetMode) :
    pc.Sends sent first s.ledger.summary s.etag := by
  unfold afterRead at hread
  simp only at hread
  split at hread
  next update hpc =>
    rw [hpc] at h
    obtain rfl := Option.some.inj hread
    exact Pc.sends_afterRead h hmode
  next update source enabled tries hpc =>
    rw [hpc] at h
    obtain ⟨hsent, henabled⟩ := h
    split at hread
    next =>
      obtain rfl := Option.some.inj hread
      trivial
    next updated hquiesce =>
      split at hread
      next =>
        obtain rfl := Option.some.inj hread
        exact Pc.sends_afterQuiesce hsent
      next hne =>
        obtain rfl := Option.some.inj hread
        exact ⟨hsent, henabled, le_refl _,
          fun _ => rewrites_of_quiesce hsent henabled hquiesce hne⟩
  next update basis tries hpc =>
    rw [hpc] at h
    split at hread
    next =>
      obtain rfl := Option.some.inj hread
      trivial
    next updated hwrite =>
      split at hread
      next =>
        obtain rfl := Option.some.inj hread
        trivial
      next hne =>
        obtain rfl := Option.some.inj hread
        exact ⟨h, le_refl _, fun _ => rewrites_of_writePolicy h hwrite hne⟩
  next => cases hread

/-- The batch of a worker, and where it goes after it. -/
theorem sends_batch {summary updated : LedgerSummary} {etag expected : ℕ} {pc success retry : Pc}
    (h : pc.Sends sent first summary etag)
    (hbatch : batch? pc = some (updated, expected, success, retry)) :
    Pending sent first summary etag updated expected ∧
      (∀ summary' etag', success.Sends sent first summary' etag') ∧
      ∀ summary' etag', retry.Sends sent first summary' etag' := by
  unfold batch? at hbatch
  split at hbatch
  next update source enabled tries _ _ =>
    cases hbatch
    obtain ⟨hsent, henabled, hpending⟩ := h
    refine ⟨hpending, fun _ _ => Pc.sends_afterQuiesce hsent, fun _ _ => ?_⟩
    split
    next => trivial
    next => exact ⟨hsent, henabled⟩
  next update basis tries _ _ =>
    cases hbatch
    obtain ⟨hsent, hpending⟩ := h
    refine ⟨hpending, fun _ _ => trivial, fun _ _ => ?_⟩
    split
    next => trivial
    next => exact hsent
  next => cases hbatch

/-- What one event of a worker does to the scope. -/
inductive Moved (sent : LedgerPolicyUpdate → Prop) (first : LedgerPolicyUpdate)
    (s t : SwitchState) : Prop where
  | stayed : t.ledger = s.ledger → t.etag = s.etag →
      t.pc.Sends sent first s.ledger.summary s.etag → Moved sent first s t
  | operated (op : LedgerOp) (now : Int) : op.OnAttempt → s.ledger.apply op now = .ok t.ledger →
      t.etag = s.etag + 1 → t.pc = s.pc → Moved sent first s t
  | wrote (updated : LedgerSummary) : Rewrites sent first s.ledger.summary updated →
      t.ledger = ⟨updated, s.ledger.attempts⟩ → t.etag = s.etag + 1 →
      (∀ summary' etag', t.pc.Sends sent first summary' etag') → Moved sent first s t

theorem moved_of_next {e : SwitchEvent} (h : s.pc.Sends sent first s.ledger.summary s.etag)
    (hsent : ∀ update, e = .begin update → sent update)
    (hmode : ∃ q, (sent q ∨ q = first) ∧ q.budgetMode = s.ledger.summary.budgetMode)
    (hnext : s.next? e = some t) :
    Moved sent first s t := by
  cases e with
  | operation op now =>
      simp only [next?] at hnext
      split at hnext
      next => cases hnext
      next hop =>
        split at hnext
        next => cases hnext
        next ledger happly =>
          cases hnext
          exact .operated op now hop happly rfl rfl
  | begin update =>
      simp only [next?] at hnext
      split at hnext
      next =>
        cases hnext
        exact .stayed rfl rfl (hsent update rfl)
      next => cases hnext
  | read now =>
      obtain ⟨pc, hread, rfl⟩ := Option.map_eq_some_iff.1 hnext
      exact .stayed rfl rfl (sends_afterRead h hread hmode)
  | pendingDispatch pending =>
      simp only [next?] at hnext
      split at hnext
      next hpc =>
        cases hnext
        rw [hpc] at h
        exact .stayed rfl rfl h
      next hpc =>
        cases hnext
        rw [hpc] at h
        exact .stayed rfl rfl (Pc.sends_afterPending pending h)
      next => cases hnext
  | usage usage =>
      simp only [next?] at hnext
      split at hnext
      next hpc =>
        cases hnext
        rw [hpc] at h
        exact .stayed rfl rfl (Pc.sends_afterUsage _ usage h)
      next hpc =>
        cases hnext
        rw [hpc] at h
        exact .stayed rfl rfl (Pc.sends_afterSecondUsage usage h)
      next => cases hnext
  | reported =>
      obtain ⟨⟨updated, expected, success, retry⟩, hbatch, rfl⟩ := Option.map_eq_some_iff.1 hnext
      obtain ⟨hpending, hsuccess, hretry⟩ := sends_batch h hbatch
      simp only
      split
      next hetag => exact .wrote updated (hpending.2 hetag) rfl rfl hsuccess
      next => exact .stayed rfl rfl (hretry _ _)
  | lost =>
      obtain ⟨⟨updated, expected, success, retry⟩, hbatch, hwrite⟩ :=
        Option.bind_eq_some_iff.1 hnext
      obtain ⟨hpending, -, hretry⟩ := sends_batch h hbatch
      simp only at hwrite
      split at hwrite
      next hetag =>
        cases hwrite
        exact .wrote updated (hpending.2 hetag) rfl rfl hretry
      next => cases hwrite
  | dropped =>
      obtain ⟨⟨updated, expected, success, retry⟩, hbatch, rfl⟩ := Option.map_eq_some_iff.1 hnext
      exact .stayed rfl rfl ((sends_batch h hbatch).2.2 _ _)
  | failed =>
      cases hnext
      exact .stayed rfl rfl trivial

end SwitchState

/-! ## What holds in every run -/

/-- The counters of what is reserved are what they were. -/
structure KeepsReserved (s s' : SummaryFields) : Prop where
  activeTokens : s'.activeReservedTokens = s.activeReservedTokens
  upperTokens : s'.upperBoundTokens = s.upperBoundTokens
  activeUsd : s'.activeReservedUsd = s.activeReservedUsd
  upperUsd : s'.upperBoundUsd = s.upperBoundUsd

/-- What a delivery changes of the balances: nothing, unless it switches the unit of a scope
that is stopped and empty. -/
structure KeepsBalances (s s' : SummaryFields) : Prop where
  reserved : KeepsReserved s s'
  confirmed : s'.budgetMode = s.budgetMode →
    s'.confirmedTokens = s.confirmedTokens ∧ s'.confirmedUsd = s.confirmedUsd
  switched : s'.budgetMode ≠ s.budgetMode → s.enabled = false ∧ s.Unreserved

/-- The terms are those of a policy that was sent, or the first ones.  Whether the scope is
enabled may be the doing of a later policy that switches the unit. -/
def Governed (sent : LedgerPolicyUpdate → Prop) (first : LedgerPolicyUpdate)
    (s : SummaryFields) : Prop :=
  ∃ p, (sent p ∨ p = first) ∧ s.terms = { p with enabled := s.enabled } ∧
    (s.enabled = p.enabled ∨
      ∃ u, Switches sent first u ∧ p.revision < u.revision ∧
        (s.enabled = true → u.enabled = true))

section Rewrites

variable {sent : LedgerPolicyUpdate → Prop} {first : LedgerPolicyUpdate}
  {summary updated : LedgerSummary}

theorem Rewrites.keepsBalances (h : Rewrites sent first summary updated) :
    KeepsBalances summary.toSummaryFields updated.toSummaryFields := by
  cases h with
  | policy update openingBalance now hsent hnewer hwritten hterms =>
      cases hwritten with
      | kept => exact ⟨⟨rfl, rfl, rfl, rfl⟩, fun _ => ⟨rfl, rfl⟩, fun hne => absurd rfl hne⟩
      | updated _ hs =>
          rw [hs]
          exact ⟨⟨rfl, rfl, rfl, rfl⟩, fun _ => ⟨rfl, rfl⟩, fun hne => absurd rfl hne⟩
      | switched _ _ hmode _ hdisabled hunreserved hs =>
          rw [hs]
          exact ⟨⟨rfl, rfl, rfl, rfl⟩, fun heq => absurd heq.symm hmode,
            fun _ => ⟨hdisabled, hunreserved⟩⟩
  | toggle update enabled now hsent hnewer henabled hs =>
      rw [hs]
      exact ⟨⟨rfl, rfl, rfl, rfl⟩, fun _ => ⟨rfl, rfl⟩, fun hne => absurd rfl hne⟩

/-- A policy is replaced by newer ones only. -/
theorem Rewrites.advances (h : Rewrites sent first summary updated) :
    summary.policyRevision < updated.policyRevision ∨
      updated.terms = { summary.terms with enabled := updated.enabled } := by
  cases h with
  | policy update openingBalance now hsent hnewer hwritten hterms =>
      left
      have hrevision := congrArg LedgerPolicyUpdate.revision hterms
      exact hnewer.trans_eq hrevision.symm
  | toggle update enabled now hsent hnewer henabled hs =>
      right
      rw [hs]
      rfl

theorem Rewrites.governed (h : Rewrites sent first summary updated)
    (hgoverned : Governed sent first summary.toSummaryFields) :
    Governed sent first updated.toSummaryFields := by
  cases h with
  | policy update openingBalance now hsent hnewer hwritten hterms =>
      have henabled := congrArg LedgerPolicyUpdate.enabled hterms
      refine ⟨update, .inl hsent, ?_, .inl henabled⟩
      rw [← hterms]
      rfl
  | toggle update enabled now hsent hnewer henabled hs =>
      obtain ⟨p, hp, hterms, -⟩ := hgoverned
      have hrevision : summary.policyRevision = p.revision :=
        congrArg LedgerPolicyUpdate.revision hterms
      refine ⟨p, hp, ?_, .inr ⟨update, hsent, hrevision ▸ hnewer, ?_⟩⟩
      · have hupdated : updated.terms = { summary.terms with enabled := enabled } := by
          rw [hs]
          rfl
        rw [hupdated, hterms, hs]
      · rw [hs]
        exact henabled

theorem Governed.mode {s : SummaryFields} (h : Governed sent first s) :
    ∃ q, (sent q ∨ q = first) ∧ q.budgetMode = s.budgetMode := by
  obtain ⟨p, hp, hterms, -⟩ := h
  exact ⟨p, hp, (congrArg LedgerPolicyUpdate.budgetMode hterms).symm⟩

end Rewrites

/-- An operation on an attempt leaves the terms alone. -/
theorem Ledger.apply_keepsTerms {l l' : Ledger} {op : LedgerOp} {now : Int} (hop : op.OnAttempt)
    (h : l.apply op now = .ok l') :
    KeepsTerms l.summary.toSummaryFields l'.summary.toSummaryFields := by
  rcases Ledger.apply_cases h with hwrite | hpolicy
  · obtain ⟨key, summary', attempt', -, hwrite, rfl⟩ := hwrite
    exact hwrite.keepsTerms
  · obtain ⟨epoch, revision, tokenLimit, enforce, enabled, mode, usdLimit, summary', rfl, -⟩ :=
      hpolicy
    exact absurd rfl hop

namespace DeliveryState

variable {ι : Type} {sent : LedgerPolicyUpdate → Prop} {first : LedgerPolicyUpdate}
  {s s' s₀ : DeliveryState ι}

/-- What holds of the stored terms, of the workers, and of the batches on their way. -/
structure Sound (sent : LedgerPolicyUpdate → Prop) (first : LedgerPolicyUpdate)
    (s : DeliveryState ι) : Prop where
  governed : Governed sent first s.ledger.summary.toSummaryFields
  pcs : ∀ i, (s.pcs i).Sends sent first s.ledger.summary s.etag
  late : ∀ batch ∈ s.late, Pending sent first s.ledger.summary s.etag batch.1 batch.2

/-- What a step does to the scope. -/
inductive Changed (sent : LedgerPolicyUpdate → Prop) (first : LedgerPolicyUpdate)
    (s s' : DeliveryState ι) : Prop where
  | same : s'.ledger = s.ledger → Changed sent first s s'
  | operated (op : LedgerOp) (now : Int) : op.OnAttempt → s.ledger.apply op now = .ok s'.ledger →
      Changed sent first s s'
  | wrote (updated : LedgerSummary) : Rewrites sent first s.ledger.summary updated →
      s'.ledger = ⟨updated, s.ledger.attempts⟩ → Changed sent first s s'

theorem pending_changed {summary summary' updated : LedgerSummary} {etag expected : ℕ}
    (h : Pending sent first summary etag updated expected) :
    Pending sent first summary' (etag + 1) updated expected := by
  obtain ⟨hle, -⟩ := h
  exact ⟨by omega, fun heq => by omega⟩

/-- What one step does to the terms of a scope. -/
theorem Changed.advances (h : Changed sent first s s') :
    s.ledger.summary.policyRevision < s'.ledger.summary.policyRevision ∨
      s'.ledger.summary.terms
        = { s.ledger.summary.terms with enabled := s'.ledger.summary.enabled } := by
  cases h with
  | same hledger =>
      right
      rw [hledger]
      rfl
  | operated op now hop happly =>
      right
      have hkeeps := Ledger.apply_keepsTerms hop happly
      rw [hkeeps.terms, hkeeps.enabled]
      rfl
  | wrote updated hrewrites hledger =>
      rw [hledger]
      exact hrewrites.advances

theorem Changed.governed {first : LedgerPolicyUpdate} (h : Changed sent first s s')
    (hgoverned : Governed sent first s.ledger.summary.toSummaryFields) :
    Governed sent first s'.ledger.summary.toSummaryFields := by
  cases h with
  | same hledger =>
      rw [hledger]
      exact hgoverned
  | operated op now hop happly =>
      have hkeeps := Ledger.apply_keepsTerms hop happly
      unfold Governed
      rw [hkeeps.terms, hkeeps.enabled]
      exact hgoverned
  | wrote updated hrewrites hledger =>
      rw [hledger]
      exact hrewrites.governed hgoverned

theorem sound_of_idle (h : s.Idle) : s.Sound sent s.ledger.summary.terms := by
  refine ⟨⟨_, .inr rfl, rfl, .inl rfl⟩, fun i => ?_, fun batch hbatch => ?_⟩
  · rw [h.pcs i]
    trivial
  · rw [h.late] at hbatch
    cases hbatch

variable [DecidableEq ι]

/-- Every worker and every batch outlive a change of the stored summary. -/
theorem Sound.after (h : s.Sound sent first) {i : ι} {t : SwitchState}
    (hchanged : Changed sent first s (s.after i t)) (hetag : t.etag = s.etag + 1)
    (hpc : t.pc.Sends sent first t.ledger.summary t.etag) : (s.after i t).Sound sent first := by
  refine ⟨hchanged.governed h.governed, fun j => ?_, fun batch hbatch => ?_⟩
  · change (Function.update s.pcs i t.pc j).Sends sent first t.ledger.summary t.etag
    by_cases hij : j = i
    · subst hij
      rw [Function.update_self]
      exact hpc
    · rw [Function.update_of_ne hij, hetag]
      exact (h.pcs j).changed _
  · change Pending sent first t.ledger.summary t.etag batch.1 batch.2
    rw [hetag]
    exact pending_changed (h.late batch hbatch)

/-- One step of a worker. -/
theorem Sound.event (h : s.Sound sent first) {i : ι} {t : SwitchState}
    (hmoved : SwitchState.Moved sent first (s.view i) t) :
    (s.after i t).Sound sent first ∧ Changed sent first s (s.after i t) := by
  cases hmoved with
  | stayed hledger hetag hpc =>
      have hsame : Changed sent first s (s.after i t) := .same hledger
      refine ⟨⟨hsame.governed h.governed, fun j => ?_, fun batch hbatch => ?_⟩, hsame⟩
      · change (Function.update s.pcs i t.pc j).Sends sent first t.ledger.summary t.etag
        rw [hledger, hetag]
        by_cases hij : j = i
        · subst hij
          rw [Function.update_self]
          exact hpc
        · rw [Function.update_of_ne hij]
          exact h.pcs j
      · change Pending sent first t.ledger.summary t.etag batch.1 batch.2
        rw [hledger, hetag]
        exact h.late batch hbatch
  | operated op now hop happly hetag hpc =>
      have hoperated : Changed sent first s (s.after i t) := .operated op now hop happly
      refine ⟨h.after hoperated hetag ?_, hoperated⟩
      rw [hpc, hetag]
      exact (h.pcs i).changed _
  | wrote updated hrewrites hledger hetag hpc =>
      have hwrote : Changed sent first s (s.after i t) := .wrote updated hrewrites hledger
      exact ⟨h.after hwrote hetag (hpc _ _), hwrote⟩

theorem Sound.step (h : s.Sound sent first) (hstep : DeliveryStep sent s s') :
    s'.Sound sent first ∧ Changed sent first s s' := by
  cases hstep with
  | @event t i e hsent hnext =>
      exact h.event (SwitchState.moved_of_next (h.pcs i) hsent h.governed.mode hnext)
  | delay i =>
      unfold delay
      split
      next => exact ⟨h, .same rfl⟩
      next updated expected success retry hbatch =>
        refine ⟨⟨h.governed, h.pcs, fun batch hmem => ?_⟩, .same rfl⟩
        rcases List.mem_cons.1 hmem with rfl | hmem
        · exact (SwitchState.sends_batch (h.pcs i) hbatch).1
        · exact h.late batch hmem
  | @arrive updated hmem =>
      have hwrote : Changed sent first s (s.arrive updated) :=
        .wrote updated ((h.late _ hmem).2 rfl) rfl
      refine ⟨⟨hwrote.governed h.governed, fun i => (h.pcs i).changed _, fun batch hbatch => ?_⟩,
        hwrote⟩
      exact pending_changed (h.late batch hbatch)

theorem Sound.run (h : s.Sound sent first) (hrun : Deliveries sent s s') :
    s'.Sound sent first := by
  induction hrun with
  | refl => exact h
  | tail _ hstep ih => exact (ih.step hstep).1

theorem view_after (s : DeliveryState ι) (i : ι) (t : SwitchState) : (s.after i t).view i = t := by
  simp [after, view]

theorem after_view (s : DeliveryState ι) (i : ι) : s.after i (s.view i) = s := by
  simp [after, view]

theorem after_after (s : DeliveryState ι) (i : ι) (u t : SwitchState) :
    (s.after i u).after i t = s.after i t := by
  simp [after]

theorem deliveries_of_run? {events : List SwitchEvent} {i : ι} {t : SwitchState}
    (hsent : ∀ update, .begin update ∈ events → sent update)
    (h : (s.view i).run? events = some t) : Deliveries sent s (s.after i t) := by
  induction events generalizing s with
  | nil =>
      obtain rfl := Option.some.inj h
      rw [after_view]
      exact .refl
  | cons e events ih =>
      obtain ⟨u, hnext, h⟩ := Option.bind_eq_some_iff.1 h
      rw [← after_after s i u t]
      refine .head (.event i e ?_ hnext) (ih ?_ ?_)
      · rintro update rfl
        exact hsent update List.mem_cons_self
      · exact fun update hmem => hsent update (List.mem_cons_of_mem _ hmem)
      · rw [view_after]
        exact h

end DeliveryState

/-- The redelivery of the policy that a summary has changes nothing if the scope is enabled as
the policy says, and is refused otherwise. -/
theorem writePolicy_terms {summary : LedgerSummary} {p : LedgerPolicyUpdate}
    (hterms : summary.terms = { p with enabled := summary.enabled }) (hrevision : 1 ≤ p.revision)
    (openingBalance : Option ℚ) (now : Int) :
    writePolicy summary p openingBalance now =
      if summary.enabled = p.enabled then .ok summary
      else .error (.protocolConflict "A budget policy revision cannot change its contents") := by
  have hscope : summary.scope = p.scope := congrArg LedgerPolicyUpdate.scope hterms
  have hepoch : summary.epoch = p.epoch := congrArg LedgerPolicyUpdate.epoch hterms
  have hrev : summary.policyRevision = p.revision := congrArg LedgerPolicyUpdate.revision hterms
  have hlimit : summary.tokenLimit = p.tokenLimit := congrArg LedgerPolicyUpdate.tokenLimit hterms
  have hmode : summary.budgetMode = p.budgetMode := congrArg LedgerPolicyUpdate.budgetMode hterms
  have husd : summary.usdLimit = p.usdLimit := congrArg LedgerPolicyUpdate.usdLimit hterms
  have henforce : summary.enforce = p.enforce := congrArg LedgerPolicyUpdate.enforce hterms
  have hnlt : ¬p.revision < summary.policyRevision := by omega
  have hfields : { summary.toSummaryFields with
      policyRevision := p.revision, tokenLimit := p.tokenLimit, budgetMode := p.budgetMode
      usdLimit := p.usdLimit, enforce := p.enforce, enabled := p.enabled }
        = { summary.toSummaryFields with enabled := p.enabled } := by
    rw [← hrev, ← hlimit, ← hmode, ← husd, ← henforce]
  -- No check of a summary asks whether the scope is enabled.
  let candidate : LedgerSummary :=
    ⟨{ summary.toSummaryFields with enabled := p.enabled }, summary.valid⟩
  have hcandidate : LedgerSummary.modelValidate { summary.toSummaryFields with
      enabled := p.enabled } = .ok candidate :=
    LedgerSummary.modelValidate_eq_ok.2 rfl
  unfold writePolicy
  rw [require_bind_of hscope, require_bind_of hepoch, if_neg hnlt,
    require_bind_of fun _ => hmode, if_pos hmode, ok_bind]
  unfold updateLedgerPolicy
  rw [require_bind_of ⟨hepoch.symm, hrevision⟩]
  simp only
  rw [hfields, hcandidate, ok_bind, if_neg hnlt, if_pos hrev.symm]
  by_cases henabled : summary.enabled = p.enabled
  · have hsame : candidate = summary := by
      refine LedgerSummary.fields_injective ?_
      change { summary.toSummaryFields with enabled := p.enabled } = summary.toSummaryFields
      rw [← henabled]
    rw [require_bind_of hsame, if_pos henabled, pure_eq]
  · have hdiffers : candidate ≠ summary := fun heq =>
      henabled (congrArg (fun summary : LedgerSummary => summary.enabled) heq).symm
    rw [require_of_not hdiffers, if_neg henabled]
    rfl

/-! ## A stopped scope, and the policy of another unit -/

namespace DeliverySample

open DeliveryState

theorem stopped_valid :
    { Sample.tokenSummary.toSummaryFields with policyRevision := 1, enabled := false }.validate
      = .ok () := rfl

/-- A policy of revision 1 has stopped the scope. -/
def stoppedSummary : LedgerSummary where
  toSummaryFields :=
    { Sample.tokenSummary.toSummaryFields with policyRevision := 1, enabled := false }
  valid := stopped_valid

/-- The scope, with one worker. -/
def stopped : DeliveryState Unit := ⟨⟨stoppedSummary, ∅⟩, 0, fun _ => .idle, []⟩

theorem stopped_idle : stopped.Idle := ⟨fun _ => rfl, rfl⟩

/-- The delivery of a policy in USD that finds no snapshot of the usage, up to its batch. -/
def reopening : List SwitchEvent :=
  [.begin Sample.usdPolicy, .read Sample.start, .pendingDispatch false, .usage none,
    .read Sample.start]

/-- The batch enables the scope. -/
theorem reopened : ∃ u t, (stopped.view ()).run? reopening = some u ∧
    u.next? .reported = some t ∧ t.ledger.summary.enabled = true ∧
    t.ledger.summary.policyRevision = 1 := by
  have h : (((stopped.view ()).run? reopening).any fun u => (u.next? .reported).any fun t =>
      t.ledger.summary.enabled && decide (t.ledger.summary.policyRevision = 1)) = true := by
    decide +kernel
  obtain ⟨u, hrun, hu⟩ := (Option.any_eq_true _ _).1 h
  obtain ⟨t, hnext, ht⟩ := (Option.any_eq_true _ _).1 hu
  obtain ⟨henabled, hrevision⟩ := Bool.and_eq_true_iff.1 ht
  exact ⟨u, t, hrun, hnext, henabled, of_decide_eq_true hrevision⟩

/-- The policies that are sent: the one that stopped the scope, and the one in USD. -/
def policies (u : LedgerPolicyUpdate) : Prop :=
  u = stoppedSummary.terms ∨ u = Sample.usdPolicy

theorem policies_reopening (update : LedgerPolicyUpdate) (h : .begin update ∈ reopening) :
    policies update :=
  .inr (by simpa [reopening] using h)

theorem policies_fixed (u u' : LedgerPolicyUpdate) (hu : policies u ∨ u = stoppedSummary.terms)
    (hu' : policies u' ∨ u' = stoppedSummary.terms) (h : u.revision = u'.revision) : u = u' := by
  have hcases : ∀ {v}, policies v ∨ v = stoppedSummary.terms →
      v = stoppedSummary.terms ∨ v = Sample.usdPolicy := fun hv => hv.elim id .inl
  rcases hcases hu with rfl | rfl <;> rcases hcases hu' with rfl | rfl
  · rfl
  · cases h
  · cases h
  · rfl

/-- A step of the worker from where it has come to. -/
theorem step_reported {u t : SwitchState} (hnext : u.next? .reported = some t) :
    DeliveryStep policies (stopped.after () u) ((stopped.after () u).after () t) := by
  refine .event () .reported (fun _ h => by cases h) ?_
  rw [view_after]
  exact hnext

/-- The run, and its last step. -/
theorem reopens : ∃ s s', Deliveries policies stopped s ∧ DeliveryStep policies s s' ∧
    s'.ledger.summary.enabled = true ∧ s'.ledger.summary.policyRevision = 1 := by
  obtain ⟨u, t, hrun, hnext, hreopened⟩ := reopened
  exact ⟨_, _, deliveries_of_run? policies_reopening hrun, step_reported hnext, hreopened⟩

/-- Then a reservation is completed, and the policy in USD is delivered again, with snapshots
of the usage, up to its batch. -/
def switching : List SwitchEvent :=
  reopening ++ .reported :: Sample.earlyCharge

/-- The batch switches the unit. -/
theorem switched : ∃ u t, (stopped.view ()).run? switching = some u ∧
    u.next? .reported = some t ∧ u.ledger.summary.budgetMode = .tokens ∧
    t.ledger.summary.budgetMode = .usd := by
  have h : (((stopped.view ()).run? switching).any fun u => (u.next? .reported).any fun t =>
      decide (u.ledger.summary.budgetMode = .tokens ∧ t.ledger.summary.budgetMode = .usd))
        = true := by decide +kernel
  obtain ⟨u, hrun, hu⟩ := (Option.any_eq_true _ _).1 h
  obtain ⟨t, hnext, ht⟩ := (Option.any_eq_true _ _).1 hu
  exact ⟨u, t, hrun, hnext, of_decide_eq_true ht⟩

theorem policies_switching (update : LedgerPolicyUpdate) (h : .begin update ∈ switching) :
    policies update :=
  .inr (by
    simpa [switching, reopening, Sample.earlyCharge, Sample.switchDelivery, Sample.lateReserve,
      Sample.lateComplete] using h)

/-- The run, and its last step. -/
theorem switches_unit : ∃ s s', Deliveries policies stopped s ∧ DeliveryStep policies s s' ∧
    s.ledger.summary.budgetMode = .tokens ∧ s'.ledger.summary.budgetMode = .usd := by
  obtain ⟨u, t, hrun, hnext, hswitched⟩ := switched
  exact ⟨_, _, deliveries_of_run? policies_switching hrun, step_reported hnext, hswitched⟩

/-- A scope in tokens, with one worker. -/
def counted : DeliveryState Unit := ⟨⟨Sample.tokenSummary, ∅⟩, 0, fun _ => .idle, []⟩

theorem counted_idle : counted.Idle := ⟨fun _ => rfl, rfl⟩

/-- The delivery of a policy in tokens. -/
def plainDelivery : List SwitchEvent :=
  [.begin Sample.tokenPolicy, .read Sample.start, .read Sample.start, .reported]

theorem plainly_delivered : ∃ t, (counted.view ()).run? plainDelivery = some t ∧
    t.ledger.summary.policyRevision = 2 := by
  have h : (((counted.view ()).run? plainDelivery).any fun t =>
      decide (t.ledger.summary.policyRevision = 2)) = true := by decide +kernel
  obtain ⟨t, hrun, ht⟩ := (Option.any_eq_true _ _).1 h
  exact ⟨t, hrun, of_decide_eq_true ht⟩

theorem plainly_sent (update : LedgerPolicyUpdate) (h : .begin update ∈ plainDelivery) :
    update = Sample.tokenPolicy := by
  simpa [plainDelivery] using h

end DeliverySample

/-! ## The results -/

open DeliveryState DeliverySample

/-- In every run the stored terms are those of a policy that was sent, or the first ones.  The
scope is enabled as that policy says, unless a newer policy was sent that switches the unit,
and it is enabled against its policy only if that newer policy is enabled. -/
theorem policy_in_force {ι : Type} [DecidableEq ι] {sent : LedgerPolicyUpdate → Prop}
    {s₀ s : DeliveryState ι} (hidle : s₀.Idle) (hrun : Deliveries sent s₀ s) :
    Governed sent s₀.ledger.summary.terms s.ledger.summary.toSummaryFields :=
  ((sound_of_idle hidle).run hrun).governed

/-- A scope whose policy is disabled is enabled again, for the policy that waits. -/
theorem stopped_policy_reopened : ∃ s, Deliveries policies stopped s ∧
    stopped.ledger.summary.enabled = false ∧ s.ledger.summary.policyRevision = 1 ∧
    s.ledger.summary.enabled = true ∧
    Governed policies stopped.ledger.summary.terms s.ledger.summary.toSummaryFields := by
  obtain ⟨s, s', hrun, hstep, henabled, hrevision⟩ := reopens
  exact ⟨s', hrun.tail hstep, rfl, hrevision, henabled,
    policy_in_force stopped_idle (hrun.tail hstep)⟩

/-- In every run the stored revision never decreases, and as long as it stays the same, all
terms stay the same but for whether the scope is enabled. -/
theorem policies_only_advance {ι : Type} [DecidableEq ι] {sent : LedgerPolicyUpdate → Prop}
    {s₀ s s' : DeliveryState ι} (hidle : s₀.Idle) (hrun : Deliveries sent s₀ s)
    (hrun' : Deliveries sent s s') :
    s.ledger.summary.policyRevision < s'.ledger.summary.policyRevision ∨
      s'.ledger.summary.terms
        = { s.ledger.summary.terms with enabled := s'.ledger.summary.enabled } := by
  have hsound := (sound_of_idle hidle).run hrun
  induction hrun' with
  | refl => exact .inr rfl
  | @tail u v hbefore hstep ih =>
      rcases ih with hless | hsame
      · left
        rcases ((hsound.run hbefore).step hstep).2.advances with hmore | hterms
        · exact hless.trans hmore
        · have hrevision := congrArg LedgerPolicyUpdate.revision hterms
          exact hless.trans_eq hrevision.symm
      · have hrevision := congrArg LedgerPolicyUpdate.revision hsame
        rcases ((hsound.run hbefore).step hstep).2.advances with hmore | hterms
        · left
          exact (hrevision.symm.trans_lt hmore)
        · right
          rw [hterms, hsame]

/-- The scope is enabled again under the terms that stopped it; the switch of the unit is an
advance. -/
theorem stopped_keeps_terms :
    (∃ s, Deliveries policies stopped s ∧
      s.ledger.summary.terms = { stopped.ledger.summary.terms with enabled := true }) ∧
    ∃ s, Deliveries policies stopped s ∧ s.ledger.summary.budgetMode = .usd ∧
      stopped.ledger.summary.policyRevision < s.ledger.summary.policyRevision := by
  constructor
  · obtain ⟨s, s', hrun, hstep, henabled, hrevision⟩ := reopens
    refine ⟨s', hrun.tail hstep, ?_⟩
    rw [← henabled]
    refine (policies_only_advance stopped_idle .refl (hrun.tail hstep)).resolve_left ?_
    rw [hrevision]
    decide
  · obtain ⟨s, s', hrun, hstep, -, husd⟩ := switches_unit
    refine ⟨s', hrun.tail hstep, husd, ?_⟩
    refine (policies_only_advance stopped_idle .refl (hrun.tail hstep)).resolve_right ?_
    intro hterms
    have hmode : s'.ledger.summary.budgetMode = .tokens :=
      congrArg LedgerPolicyUpdate.budgetMode hterms
    rw [husd] at hmode
    cases hmode

/-- In every step of every run, either an operation on an attempt is applied, or the attempts
and what is reserved stay as they are; the confirmed balances change only when the unit does,
and then the scope is stopped and nothing is reserved. -/
theorem deliveries_keep_reservations {ι : Type} [DecidableEq ι]
    {sent : LedgerPolicyUpdate → Prop} {s₀ s s' : DeliveryState ι} (hidle : s₀.Idle)
    (hrun : Deliveries sent s₀ s) (hstep : DeliveryStep sent s s') :
    (∃ op now, op.OnAttempt ∧ s.ledger.apply op now = .ok s'.ledger) ∨
      s'.ledger.attempts = s.ledger.attempts ∧
        KeepsBalances s.ledger.summary.toSummaryFields s'.ledger.summary.toSummaryFields := by
  cases (((sound_of_idle hidle).run hrun).step hstep).2 with
  | same hledger =>
      right
      rw [hledger]
      exact ⟨rfl, ⟨rfl, rfl, rfl, rfl⟩, fun _ => ⟨rfl, rfl⟩, fun hne => absurd rfl hne⟩
  | operated op now hop happly => exact .inl ⟨op, now, hop, happly⟩
  | wrote updated hrewrites hledger =>
      right
      rw [hledger]
      exact ⟨rfl, hrewrites.keepsBalances⟩

/-- A step that enables the scope, and one that switches its unit. -/
theorem reopening_keeps_reservations :
    (∃ s s', Deliveries policies stopped s ∧ DeliveryStep policies s s' ∧
      s'.ledger.summary.enabled = true ∧
      ((∃ op now, op.OnAttempt ∧ s.ledger.apply op now = .ok s'.ledger) ∨
        s'.ledger.attempts = s.ledger.attempts ∧
          KeepsBalances s.ledger.summary.toSummaryFields s'.ledger.summary.toSummaryFields)) ∧
    ∃ s s', Deliveries policies stopped s ∧ DeliveryStep policies s s' ∧
      s'.ledger.summary.budgetMode ≠ s.ledger.summary.budgetMode ∧
      s'.ledger.attempts = s.ledger.attempts ∧
      KeepsBalances s.ledger.summary.toSummaryFields s'.ledger.summary.toSummaryFields := by
  constructor
  · obtain ⟨s, s', hrun, hstep, henabled, -⟩ := reopens
    exact ⟨s, s', hrun, hstep, henabled, deliveries_keep_reservations stopped_idle hrun hstep⟩
  · obtain ⟨s, s', hrun, hstep, htokens, husd⟩ := switches_unit
    have hswitch : s'.ledger.summary.budgetMode ≠ s.ledger.summary.budgetMode := by
      rw [htokens, husd]
      decide
    refine ⟨s, s', hrun, hstep, hswitch, ?_⟩
    refine (deliveries_keep_reservations stopped_idle hrun hstep).resolve_left ?_
    -- An operation on an attempt keeps the unit.
    rintro ⟨op, now, hop, happly⟩
    exact hswitch (Ledger.apply_budgetMode hop happly)

/-- In every run, where every revision has one policy, the redelivery of the policy in force
changes nothing if the scope is enabled as it says, and is refused otherwise; that is the case
only after a newer policy was sent that switches the unit. -/
theorem redelivery_accepted_iff {ι : Type} [DecidableEq ι] {sent : LedgerPolicyUpdate → Prop}
    {s₀ s : DeliveryState ι} (hidle : s₀.Idle) (hrun : Deliveries sent s₀ s)
    (fixed : ∀ u u', sent u ∨ u = s₀.ledger.summary.terms →
      sent u' ∨ u' = s₀.ledger.summary.terms → u.revision = u'.revision → u = u')
    {p : LedgerPolicyUpdate} (hp : sent p) (hpositive : 1 ≤ p.revision)
    (hrevision : p.revision = s.ledger.summary.policyRevision) (openingBalance : Option ℚ)
    (now : Int) :
    (s.ledger.summary.enabled = p.enabled →
      writePolicy s.ledger.summary p openingBalance now = .ok s.ledger.summary) ∧
    (s.ledger.summary.enabled ≠ p.enabled →
      writePolicy s.ledger.summary p openingBalance now
          = .error (.protocolConflict "A budget policy revision cannot change its contents") ∧
        ∃ u, Switches sent s₀.ledger.summary.terms u ∧ p.revision < u.revision) := by
  obtain ⟨q, hq, hterms, henabled⟩ := ((sound_of_idle hidle).run hrun).governed
  have hqrevision : s.ledger.summary.policyRevision = q.revision :=
    congrArg LedgerPolicyUpdate.revision hterms
  obtain rfl := fixed p q (.inl hp) hq (hrevision.trans hqrevision)
  rw [writePolicy_terms hterms hpositive openingBalance now]
  refine ⟨fun hsame => if_pos hsame, fun hne => ⟨if_neg hne, ?_⟩⟩
  obtain ⟨u, hu, hnewer, -⟩ := henabled.resolve_left hne
  exact ⟨u, hu, hnewer⟩

/-- After the scope was enabled again, the policy that stopped it is refused. -/
theorem stopped_redelivery_refused : ∃ s, Deliveries policies stopped s ∧
    writePolicy s.ledger.summary stoppedSummary.terms none Sample.start
      = .error (.protocolConflict "A budget policy revision cannot change its contents") := by
  obtain ⟨s, s', hrun, hstep, henabled, hrevision⟩ := reopens
  have hdiffers : s'.ledger.summary.enabled ≠ stoppedSummary.terms.enabled := by
    rw [henabled]
    decide
  exact ⟨s', hrun.tail hstep, ((redelivery_accepted_iff stopped_idle (hrun.tail hstep)
    policies_fixed (.inl rfl) (by decide) hrevision.symm none Sample.start).2 hdiffers).1⟩

/-- Where all policies keep the unit that the scope has at first, the scope is enabled exactly as
the policy in force says, in every run. -/
theorem one_unit_policy_in_force {ι : Type} [DecidableEq ι] {sent : LedgerPolicyUpdate → Prop}
    {s₀ s : DeliveryState ι} (hidle : s₀.Idle) (hrun : Deliveries sent s₀ s)
    (hunit : ∀ u, sent u → u.budgetMode = s₀.ledger.summary.budgetMode) :
    ∃ p, (sent p ∨ p = s₀.ledger.summary.terms) ∧ s.ledger.summary.terms = p := by
  obtain ⟨p, hp, hterms, henabled⟩ := ((sound_of_idle hidle).run hrun).governed
  have hmode : ∀ q, sent q ∨ q = s₀.ledger.summary.terms →
      q.budgetMode = s₀.ledger.summary.budgetMode := by
    rintro q (hq | rfl)
    · exact hunit q hq
    · rfl
  refine ⟨p, hp, ?_⟩
  rcases henabled with hsame | hswitch
  · rw [hterms, hsame]
  · obtain ⟨u, hswitches, -, -⟩ := hswitch
    obtain ⟨hu, q, hq, hne⟩ := hswitches
    exact absurd ((hmode q hq).trans (hunit u hu).symm) hne

theorem plain_policy_in_force : ∃ s, Deliveries (fun u => u = Sample.tokenPolicy) counted s ∧
    s.ledger.summary.policyRevision = 2 ∧
    ∃ p, (p = Sample.tokenPolicy ∨ p = counted.ledger.summary.terms) ∧
      s.ledger.summary.terms = p := by
  obtain ⟨t, hrun, hrevision⟩ := plainly_delivered
  have hdeliveries := deliveries_of_run? (s := counted) (i := ()) plainly_sent hrun
  refine ⟨counted.after () t, hdeliveries, hrevision, ?_⟩
  refine one_unit_policy_in_force counted_idle hdeliveries ?_
  rintro u rfl
  rfl

end Turnstile
