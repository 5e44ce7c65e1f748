import Turnstile.Integrations.UnitSwitch

/-!
# The delivery of a policy that switches the unit

`BudgetRecoveryService.policies` compares the confirmed balance of the summary
with the usage snapshot that the opening balance is taken from, and then calls
`write_policy`, which reads the summary again.  Charges are committed by others
meanwhile.  The worker is modelled request by request (`Pc`), an attempt operation
of anyone else by its commit, since a commit succeeds only on the documents it was
computed from.

When no charge changes the confirmed balance between the summary that quiescing
returned and the last read of `write_policy`, the summary that a switch replaces
has the balance that was compared (`switch_loses_no_charge`).  A late charge in
between is lost (`switch_loses_charge`).
-/

namespace Turnstile

open Guard

/-- `budget_switch_usage`: what the database has confirmed of a scope. -/
structure SwitchUsage where
  tokens : Option ℚ
  usd : Option ℚ

namespace SwitchUsage

/-- `usage["usd" if mode == "usd" else "tokens"]`. -/
def field (u : SwitchUsage) : BudgetMode → Option ℚ
  | .tokens => u.tokens
  | .usd => u.usd

end SwitchUsage

namespace SummaryFields

/-- The confirmed balance in the summary's unit. -/
def sourceBalance (s : SummaryFields) : ℚ :=
  match s.budgetMode with
  | .tokens => s.confirmedTokens
  | .usd => s.confirmedUsd / 10 ^ 14

/-- Nothing is actively reserved. -/
def Inactive (s : SummaryFields) : Prop := s.activeReservedTokens = 0 ∧ s.activeReservedUsd = 0

instance (s : SummaryFields) : Decidable s.Inactive := inferInstanceAs (Decidable (_ ∧ _))

end SummaryFields

/-- What a switch is based on: the snapshot that was compared, and the opening balance
that was taken from it. -/
structure SwitchBasis where
  usage : SwitchUsage
  opening : ℚ

/-- Where the worker is in the delivery of one policy.  `tries` counts the reads
that remain after this one; a commit carries the summary and the tag it expects. -/
inductive Pc where
  | idle
  | started (update : LedgerPolicyUpdate)
  | pendingFirst (update : LedgerPolicyUpdate) (current : LedgerSummary)
  | usageFirst (update : LedgerPolicyUpdate) (current : LedgerSummary) (pendingDispatch : Bool)
  | quiesceRead (update : LedgerPolicyUpdate) (source : BudgetMode) (enabled : Bool) (tries : ℕ)
  | quiesceCommit (update : LedgerPolicyUpdate) (source : BudgetMode) (enabled : Bool) (tries : ℕ)
      (updated : LedgerSummary) (etag : ℕ)
  | pendingSecond (update : LedgerPolicyUpdate) (source : BudgetMode) (current : LedgerSummary)
  | usageSecond (update : LedgerPolicyUpdate) (source : BudgetMode) (current : LedgerSummary)
  | writeRead (update : LedgerPolicyUpdate) (basis : Option SwitchBasis) (tries : ℕ)
  | writeCommit (update : LedgerPolicyUpdate) (basis : Option SwitchBasis) (tries : ℕ)
      (updated : LedgerSummary) (etag : ℕ)

namespace Pc

variable (update : LedgerPolicyUpdate) (source : BudgetMode)

/-- `for _ in range(3)`. -/
def quiesce (enabled : Bool) : Pc := .quiesceRead update source enabled 2

/-- `quiesce_budget_scope(…, enabled=True)` and `continue`, under a condition. -/
def reopenIf (p : Prop) [Decidable p] : Pc := if p then quiesce update source true else .idle

/-- After `read_summary`. -/
def afterRead (current : LedgerSummary) : Pc :=
  if current.scope ≠ update.scope then .idle
  else if current.epoch ≠ update.epoch ∨ update.revision < current.policyRevision then .idle
  else if current.budgetMode = update.budgetMode then .writeRead update none 2
  else if update.scope.scopeType = .person then .pendingFirst update current
  else .usageFirst update current false

/-- After the first snapshot. -/
def afterUsage (current : LedgerSummary) (pendingDispatch : Bool) (usage : Option SwitchUsage) :
    Pc :=
  let source := current.budgetMode
  if pendingDispatch = true ∨ current.upperBoundTokens ≠ 0 ∨ current.upperBoundUsd ≠ 0 ∨
      usage.bind (·.field update.budgetMode) = none ∨
      (current.Inactive ∧ usage.bind (·.field source) ≠ some current.sourceBalance) then
    reopenIf update source
      (current.enabled = false ∧ update.enabled = true ∧ current.Inactive)
  else quiesce update source false

/-- After `quiesce_budget_scope` returned `current`. -/
def afterQuiesce (enabled : Bool) (current : LedgerSummary) : Pc :=
  if enabled = true then .idle
  else if update.revision ≤ current.policyRevision then .idle
  else if ¬current.Unreserved then
    reopenIf update source
      ((current.upperBoundTokens ≠ 0 ∨ current.upperBoundUsd ≠ 0) ∧ current.Inactive ∧
        update.enabled = true)
  else if update.scope.scopeType = .person then .pendingSecond update source current
  else .usageSecond update source current

/-- After the second page of pending dispatches. -/
def afterPending (current : LedgerSummary) (pendingDispatch : Bool) : Pc :=
  if pendingDispatch = true then
    reopenIf update source (current.Inactive ∧ update.enabled = true)
  else .usageSecond update source current

/-- After the snapshot that the opening balance is taken from. -/
def afterSecondUsage (current : LedgerSummary) (usage : Option SwitchUsage) : Pc :=
  match usage with
  | none => reopenIf update source (update.enabled = true)
  | some usage =>
      if usage.field source ≠ some current.sourceBalance then
        reopenIf update source (update.enabled = true)
      else
        match usage.field update.budgetMode with
        | none => reopenIf update source (update.enabled = true)
        | some opening => .writeRead update (some ⟨usage, opening⟩) 2

end Pc

/-- What happens next: an operation of anyone else, a request of the worker with its
answer, or an exception that ends the delivery. -/
inductive SwitchEvent where
  | operation (op : LedgerOp) (now : Int)
  | begin (update : LedgerPolicyUpdate)
  | read (now : Int)
  | pendingDispatch (pending : Bool)
  | usage (usage : Option SwitchUsage)
  /-- The batch is tried, and the worker is told whether it was applied. -/
  | reported
  /-- The batch is applied and the response lost. -/
  | lost
  /-- The batch never arrives. -/
  | dropped
  | failed

/-- The scope, the tag of its summary row, and the worker. -/
structure SwitchState where
  ledger : Ledger
  etag : ℕ
  pc : Pc

namespace SwitchState

/-- The worker's batch is applied. -/
def write (s : SwitchState) (updated : LedgerSummary) (pc : Pc) : SwitchState :=
  ⟨⟨updated, s.ledger.attempts⟩, s.etag + 1, pc⟩

/-- One read of the summary row, with what the worker computes from it. -/
def afterRead (s : SwitchState) (now : Int) : Option Pc :=
  let summary := s.ledger.summary
  match s.pc with
  | .started update => some (.afterRead update summary)
  | .quiesceRead update source enabled tries =>
      match quiesceBudgetScope summary update.scope update.epoch update.revision enabled now with
      | .error _ => some .idle
      | .ok updated =>
          if updated = summary then some (.afterQuiesce update source enabled summary)
          else some (.quiesceCommit update source enabled tries updated s.etag)
  | .writeRead update basis tries =>
      match writePolicy summary update (basis.map (·.opening)) now with
      | .error _ => some .idle
      | .ok updated =>
          if updated = summary then some .idle
          else some (.writeCommit update basis tries updated s.etag)
  | _ => none

/-- The batch of the worker: the summary, the tag it expects, and where the worker
goes on success and on a retry. -/
def batch? : Pc → Option (LedgerSummary × ℕ × Pc × Pc)
  | .quiesceCommit update source enabled tries updated etag =>
      some (updated, etag, .afterQuiesce update source enabled updated,
        if tries = 0 then .idle else .quiesceRead update source enabled (tries - 1))
  | .writeCommit update basis tries updated etag =>
      some (updated, etag, .idle,
        if tries = 0 then .idle else .writeRead update basis (tries - 1))
  | _ => none

/-- One event. -/
def next? (s : SwitchState) : SwitchEvent → Option SwitchState
  | .operation op now =>
      if op.key? = none then none
      else
        match s.ledger.apply op now with
        | .error _ => none
        | .ok ledger => some ⟨ledger, s.etag + 1, s.pc⟩
  | .begin update =>
      match s.pc with
      | .idle => some { s with pc := .started update }
      | _ => none
  | .read now => (s.afterRead now).map fun pc => { s with pc }
  | .pendingDispatch pending =>
      match s.pc with
      | .pendingFirst update current => some { s with pc := .usageFirst update current pending }
      | .pendingSecond update source current =>
          some { s with pc := .afterPending update source current pending }
      | _ => none
  | .usage usage =>
      match s.pc with
      | .usageFirst update current pending =>
          some { s with pc := .afterUsage update current pending usage }
      | .usageSecond update source current =>
          some { s with pc := .afterSecondUsage update source current usage }
      | _ => none
  | .reported => (batch? s.pc).map fun (updated, etag, success, retry) =>
      if etag = s.etag then s.write updated success else { s with pc := retry }
  | .lost => (batch? s.pc).bind fun (updated, etag, _, retry) =>
      if etag = s.etag then some (s.write updated retry) else none
  | .dropped => (batch? s.pc).map fun (_, _, _, retry) => { s with pc := retry }
  | .failed => some { s with pc := .idle }

end SwitchState

/-! ## Charges during a delivery -/

/-- The update whose switch could still be based on an older balance: the worker has
compared, or is about to, and may read the summary again. -/
def Pc.window : Pc → Option LedgerPolicyUpdate
  | .pendingSecond update _ _ | .usageSecond update _ _ => some update
  | .writeRead update (some _) _ | .writeCommit update (some _) (_ + 1) _ _ => some update
  | _ => none

/-- The event does not charge the scope while its balance is compared. -/
def Undisturbed (s : SwitchState) (e : SwitchEvent) : Prop :=
  ∀ op now ledger, e = .operation op now → s.ledger.apply op now = .ok ledger →
    ∀ update, s.pc.window = some update → s.ledger.summary.budgetMode ≠ update.budgetMode →
      ledger.summary.sourceBalance = s.ledger.summary.sourceBalance

/-- The states that allowed events lead to. -/
inductive SwitchRuns (allowed : SwitchState → SwitchEvent → Prop) (s₀ : SwitchState) :
    SwitchState → Prop where
  | refl : SwitchRuns allowed s₀ s₀
  | step {s s' : SwitchState} (e : SwitchEvent) : SwitchRuns allowed s₀ s → allowed s e →
      s.next? e = some s' → SwitchRuns allowed s₀ s'

/-- The basis was compared with the balance of this summary, and opens the balance
of its snapshot. -/
def Ready (update : LedgerPolicyUpdate) (basis : Option SwitchBasis) (summary : LedgerSummary) :
    Prop :=
  ∀ b ∈ basis, b.usage.field update.budgetMode = some b.opening ∧
    (summary.budgetMode ≠ update.budgetMode →
      b.usage.field summary.budgetMode = some summary.sourceBalance)

/-- What the worker may rely on at each place, of the stored summary and its tag. -/
def Pc.Holds (summary : LedgerSummary) (etag : ℕ) : Pc → Prop
  | .idle | .started _ => True
  | .pendingFirst update current | .usageFirst update current _ =>
      current.budgetMode = summary.budgetMode ∧ summary.budgetMode ≠ update.budgetMode
  | .quiesceRead update source enabled _ =>
      enabled = false → source = summary.budgetMode ∧ summary.budgetMode ≠ update.budgetMode
  | .quiesceCommit update source enabled _ updated _ =>
      updated.budgetMode = summary.budgetMode ∧ (enabled = false →
        source = summary.budgetMode ∧ summary.budgetMode ≠ update.budgetMode)
  | .pendingSecond update source current | .usageSecond update source current =>
      source = summary.budgetMode ∧ summary.budgetMode ≠ update.budgetMode ∧
        current.sourceBalance = summary.sourceBalance
  | .writeRead update basis _ => Ready update basis summary
  | .writeCommit update basis tries updated expected =>
      expected ≤ etag ∧ updated.budgetMode = update.budgetMode ∧
        (basis = none → updated.budgetMode = summary.budgetMode) ∧
        (expected = etag ∨ 0 < tries → Ready update basis summary)

namespace Pc

variable {update : LedgerPolicyUpdate} {source : BudgetMode} {summary : LedgerSummary} {etag : ℕ}

theorem holds_reopenIf (p : Prop) [Decidable p] :
    (reopenIf update source p).Holds summary etag := by
  unfold reopenIf
  split
  next => exact fun h => by cases h
  next => trivial

theorem holds_afterRead : (afterRead update summary).Holds summary etag := by
  unfold afterRead
  split
  next => trivial
  next =>
    split
    next => trivial
    next =>
      split
      next => exact fun b hb => by cases hb
      next hmode =>
        split
        next => exact ⟨rfl, hmode⟩
        next => exact ⟨rfl, hmode⟩

theorem holds_afterUsage {current : LedgerSummary} (pending : Bool) (usage : Option SwitchUsage)
    (h : current.budgetMode = summary.budgetMode ∧ summary.budgetMode ≠ update.budgetMode) :
    (afterUsage update current pending usage).Holds summary etag := by
  unfold afterUsage
  simp only
  split
  next => exact holds_reopenIf _
  next => exact fun _ => h

theorem holds_afterQuiesce {enabled : Bool} (h : enabled = false →
    source = summary.budgetMode ∧ summary.budgetMode ≠ update.budgetMode) :
    (afterQuiesce update source enabled summary).Holds summary etag := by
  unfold afterQuiesce
  split
  next => trivial
  next henabled =>
    obtain ⟨hsource, hmode⟩ := h (Bool.eq_false_iff.2 henabled)
    split
    next => trivial
    next =>
      split
      next => exact holds_reopenIf _
      next =>
        split
        next => exact ⟨hsource, hmode, rfl⟩
        next => exact ⟨hsource, hmode, rfl⟩

theorem holds_afterPending {current : LedgerSummary} (pending : Bool)
    (h : (pendingSecond update source current).Holds summary etag) :
    (afterPending update source current pending).Holds summary etag := by
  unfold afterPending
  split
  next => exact holds_reopenIf _
  next => exact h

/-- The comparison with the snapshot makes its opening balance ready. -/
theorem holds_afterSecondUsage {current : LedgerSummary} (usage : Option SwitchUsage)
    (h : (usageSecond update source current).Holds summary etag) :
    (afterSecondUsage update source current usage).Holds summary etag := by
  obtain ⟨hsource, -, hbalance⟩ := h
  unfold afterSecondUsage
  cases usage with
  | none => exact holds_reopenIf _
  | some usage =>
      simp only
      split
      next => exact holds_reopenIf _
      next hcompared =>
        split
        next => exact holds_reopenIf _
        next opening hopening =>
          intro b hb
          cases hb
          refine ⟨hopening, fun _ => ?_⟩
          rw [← hsource, ← hbalance]
          exact not_not.1 hcompared

end Pc

namespace SwitchState

variable {s s' : SwitchState}

/-- What holds of the worker's place holds of the stored summary. -/
def Holds (s : SwitchState) : Prop := s.pc.Holds s.ledger.summary s.etag

theorem Holds.read (h : s.Holds) {now : Int} {pc : Pc} (hread : s.afterRead now = some pc) :
    Holds { s with pc } := by
  unfold afterRead at hread
  unfold Holds at h
  simp only at hread
  split at hread
  next update hpc =>
    cases hread
    exact Pc.holds_afterRead
  next update source enabled tries hpc =>
    rw [hpc] at h
    split at hread
    next =>
      cases hread
      trivial
    next updated hquiesce =>
      split at hread
      next =>
        cases hread
        exact Pc.holds_afterQuiesce h
      next =>
        cases hread
        refine ⟨?_, h⟩
        rcases quiesceBudgetScope_result hquiesce with rfl | hs
        · rfl
        · rw [hs]
  next update basis tries hpc =>
    rw [hpc] at h
    split at hread
    next =>
      cases hread
      trivial
    next updated hwrite =>
      split at hread
      next =>
        cases hread
        trivial
      next hne =>
        cases hread
        obtain ⟨hmode, hnone⟩ := (writePolicy_result hwrite).budgetMode hne
        exact ⟨le_refl _, hmode, fun hbasis => hnone (by rw [hbasis]; rfl), fun _ => h⟩
  next => cases hread

section Batches

variable {summary updated : LedgerSummary} {etag expected : ℕ} {pc success retry : Pc}

/-- A retry relies on the summary that is stored. -/
theorem holds_retry (h : pc.Holds summary etag)
    (hbatch : batch? pc = some (updated, expected, success, retry)) :
    retry.Holds summary etag := by
  unfold batch? at hbatch
  split at hbatch
  next update source enabled tries _ _ =>
    cases hbatch
    split
    next => trivial
    next => exact h.2
  next update basis tries _ _ =>
    cases hbatch
    split
    next => trivial
    next htries => exact h.2.2.2 (.inr (by omega))
  next => cases hbatch

/-- After its batch is applied, the worker relies on the summary it wrote. -/
theorem holds_success (h : pc.Holds summary etag)
    (hbatch : batch? pc = some (updated, etag, success, retry)) :
    success.Holds updated (etag + 1) := by
  unfold batch? at hbatch
  split at hbatch
  next =>
    cases hbatch
    refine Pc.holds_afterQuiesce fun henabled => ?_
    rw [h.1]
    exact h.2 henabled
  next =>
    cases hbatch
    trivial
  next => cases hbatch

/-- When the response to a batch that was applied is lost, the retry relies on the
summary that was written. -/
theorem holds_lost (h : pc.Holds summary etag)
    (hbatch : batch? pc = some (updated, etag, success, retry)) :
    retry.Holds updated (etag + 1) := by
  unfold batch? at hbatch
  split at hbatch
  next =>
    cases hbatch
    split
    next => trivial
    next =>
      intro henabled
      rw [h.1]
      exact h.2 henabled
  next update basis tries _ _ =>
    cases hbatch
    obtain ⟨-, hmode, -, hready⟩ := h
    split
    next => trivial
    next =>
      intro b hb
      exact ⟨(hready (.inl rfl) b hb).1, fun hne => absurd hmode hne⟩
  next => cases hbatch

end Batches

/-- An operation of anyone else leaves what the worker relies on, unless it charges
the scope while its balance is compared. -/
theorem Holds.operation (h : s.Holds) {op : LedgerOp} {now : Int} {ledger : Ledger}
    (hop : op.OnAttempt) (happly : s.ledger.apply op now = .ok ledger)
    (hundisturbed : ∀ update, s.pc.window = some update →
      s.ledger.summary.budgetMode ≠ update.budgetMode →
      ledger.summary.sourceBalance = s.ledger.summary.sourceBalance) :
    Holds ⟨ledger, s.etag + 1, s.pc⟩ := by
  have hmode := Ledger.apply_budgetMode hop happly
  have hready : ∀ update basis, Ready update basis s.ledger.summary →
      (basis ≠ none → s.pc.window = some update) → Ready update basis ledger.summary := by
    intro update basis hready hwindow b hb
    obtain ⟨hopening, hcompared⟩ := hready b hb
    refine ⟨hopening, fun hne => ?_⟩
    rw [hmode] at hne ⊢
    have hbasis : basis ≠ none := by
      rw [hb]
      exact Option.some_ne_none _
    rw [hundisturbed update (hwindow hbasis) hne]
    exact hcompared hne
  unfold Holds at h ⊢
  simp only
  cases hpc : s.pc with
  | idle => trivial
  | started => trivial
  | pendingFirst =>
      rw [hpc] at h
      simpa only [Pc.Holds, hmode] using h
  | usageFirst =>
      rw [hpc] at h
      simpa only [Pc.Holds, hmode] using h
  | quiesceRead =>
      rw [hpc] at h
      simpa only [Pc.Holds, hmode] using h
  | quiesceCommit =>
      rw [hpc] at h
      simpa only [Pc.Holds, hmode] using h
  | pendingSecond update source current =>
      rw [hpc] at h
      obtain ⟨hsource, hne, hbalance⟩ := h
      refine ⟨hmode ▸ hsource, hmode ▸ hne, ?_⟩
      rw [hundisturbed update (by rw [hpc]; rfl) hne]
      exact hbalance
  | usageSecond update source current =>
      rw [hpc] at h
      obtain ⟨hsource, hne, hbalance⟩ := h
      refine ⟨hmode ▸ hsource, hmode ▸ hne, ?_⟩
      rw [hundisturbed update (by rw [hpc]; rfl) hne]
      exact hbalance
  | writeRead update basis tries =>
      rw [hpc] at h
      refine hready update basis h fun hbasis => ?_
      obtain ⟨b, rfl⟩ := Option.ne_none_iff_exists'.1 hbasis
      rw [hpc]
      rfl
  | writeCommit update basis tries updated expected =>
      rw [hpc] at h
      obtain ⟨hle, humode, hnone, hbasis⟩ := h
      refine ⟨by omega, humode, hmode ▸ hnone, ?_⟩
      -- The tag the batch expects is gone, so only a retry can commit.
      rintro (hfresh | htries)
      · omega
      · refine hready update basis (hbasis (.inr htries)) fun hsome => ?_
        obtain ⟨b, rfl⟩ := Option.ne_none_iff_exists'.1 hsome
        obtain ⟨n, rfl⟩ := Nat.exists_eq_succ_of_ne_zero htries.ne'
        rw [hpc]
        rfl

/-- One event. -/
theorem Holds.next (h : s.Holds) {e : SwitchEvent} (hundisturbed : Undisturbed s e)
    (hnext : s.next? e = some s') : s'.Holds := by
  cases e with
  | operation op now =>
      simp only [next?] at hnext
      split at hnext
      next => cases hnext
      next hop =>
        split at hnext
        next => cases hnext
        next ledger happly =>
          cases hnext
          exact h.operation hop happly (hundisturbed op now ledger rfl happly)
  | begin update =>
      simp only [next?] at hnext
      split at hnext
      next => cases hnext; trivial
      next => cases hnext
  | read now =>
      obtain ⟨pc, hread, rfl⟩ := Option.map_eq_some_iff.1 hnext
      exact h.read hread
  | pendingDispatch pending =>
      simp only [next?] at hnext
      unfold Holds at h
      split at hnext
      next hpc =>
        cases hnext
        rw [hpc] at h
        exact h
      next hpc =>
        cases hnext
        rw [hpc] at h
        exact Pc.holds_afterPending pending h
      next => cases hnext
  | usage usage =>
      simp only [next?] at hnext
      unfold Holds at h
      split at hnext
      next hpc =>
        cases hnext
        rw [hpc] at h
        exact Pc.holds_afterUsage _ usage h
      next hpc =>
        cases hnext
        rw [hpc] at h
        exact Pc.holds_afterSecondUsage usage h
      next => cases hnext
  | reported =>
      obtain ⟨⟨updated, expected, success, retry⟩, hbatch, rfl⟩ := Option.map_eq_some_iff.1 hnext
      simp only
      split
      next hetag =>
        subst hetag
        exact holds_success h hbatch
      next => exact holds_retry h hbatch
  | lost =>
      obtain ⟨⟨updated, expected, success, retry⟩, hbatch, hwrite⟩ :=
        Option.bind_eq_some_iff.1 hnext
      simp only at hwrite
      split at hwrite
      next hetag =>
        cases hwrite
        subst hetag
        exact holds_lost h hbatch
      next => cases hwrite
  | dropped =>
      obtain ⟨⟨updated, expected, success, retry⟩, hbatch, rfl⟩ := Option.map_eq_some_iff.1 hnext
      exact holds_retry h hbatch
  | failed =>
      cases hnext
      trivial

theorem Holds.runs {s₀ : SwitchState} (h₀ : s₀.Holds) (hrun : SwitchRuns Undisturbed s₀ s) :
    s.Holds := by
  induction hrun with
  | refl => exact h₀
  | step e _ hundisturbed hnext ih => exact ih.next hundisturbed hnext

/-- Execute events one after the other. -/
def run? (s : SwitchState) : List SwitchEvent → Option SwitchState
  | [] => some s
  | e :: events => (s.next? e).bind fun s' => s'.run? events

/-- Each event of an execution is allowed in the state that it finds. -/
def Along (allowed : SwitchState → SwitchEvent → Prop) (s : SwitchState) :
    List SwitchEvent → Prop
  | [] => True
  | e :: events => allowed s e ∧ ∀ s' ∈ s.next? e, Along allowed s' events

theorem runs_of_run? {allowed : SwitchState → SwitchEvent → Prop} {s₀ : SwitchState}
    {events : List SwitchEvent} (h₀ : SwitchRuns allowed s₀ s)
    (hallowed : Along allowed s events) (h : s.run? events = some s') :
    SwitchRuns allowed s₀ s' := by
  induction events generalizing s with
  | nil =>
      cases h
      exact h₀
  | cons e events ih =>
      obtain ⟨s₁, hnext, h⟩ := Option.bind_eq_some_iff.1 h
      exact ih (.step e h₀ hallowed.1 hnext) (hallowed.2 s₁ hnext) h

theorem Along.of_forall {allowed : SwitchState → SwitchEvent → Prop}
    {events : List SwitchEvent} (h : ∀ e ∈ events, ∀ s, allowed s e) :
    Along allowed s events := by
  induction events generalizing s with
  | nil => trivial
  | cons e events ih =>
      exact ⟨h e (List.mem_cons_self ..) s,
        fun _ _ => ih fun e he => h e (List.mem_cons_of_mem _ he)⟩

instance decidableAlong {allowed : SwitchState → SwitchEvent → Prop}
    [∀ s e, Decidable (allowed s e)] :
    ∀ (s : SwitchState) (events : List SwitchEvent), Decidable (Along allowed s events)
  | _, [] => inferInstanceAs (Decidable True)
  | s, e :: events =>
      have : DecidablePred fun s' => Along allowed s' events :=
        fun s' => decidableAlong s' events
      inferInstanceAs (Decidable (allowed s e ∧ ∀ s' ∈ s.next? e, Along allowed s' events))

instance decidableUndisturbed (s : SwitchState) :
    ∀ e, Decidable (Undisturbed s e)
  | .operation op now =>
      decidable_of_iff
        (∀ ledger ∈ (s.ledger.apply op now).toOption, ∀ update ∈ s.pc.window,
          s.ledger.summary.budgetMode ≠ update.budgetMode →
            ledger.summary.sourceBalance = s.ledger.summary.sourceBalance) <| by
        constructor
        · rintro h _ _ ledger he happly update hupdate
          cases he
          exact h ledger (by rw [happly]; rfl) update hupdate
        · intro h ledger hledger
          cases happly : s.ledger.apply op now with
          | error error => rw [happly] at hledger; cases hledger
          | ok _ => rw [happly] at hledger; cases hledger; exact h op now ledger rfl happly
  | .begin _ | .read _ | .pendingDispatch _ | .usage _ | .reported | .lost | .dropped
  | .failed => .isTrue (by rintro _ _ _ he; cases he)

/-- The summary that an admitted batch of `write_policy` replaces has, if the unit
changes, the balance that was compared with the snapshot of the opening balance. -/
def ComparesWhatItReplaces (s : SwitchState) : Prop :=
  ∀ update basis tries updated, s.pc = .writeCommit update basis tries updated s.etag →
    updated.budgetMode ≠ s.ledger.summary.budgetMode →
    ∃ b, basis = some b ∧
      b.usage.field s.ledger.summary.budgetMode = some s.ledger.summary.sourceBalance ∧
      b.usage.field updated.budgetMode = some b.opening

end SwitchState

namespace Sample

/-- The delivery of a USD policy to the sample scope, up to a second snapshot of so many
tokens. -/
def switchDelivery (tokens : ℚ) : List SwitchEvent :=
  [.begin usdPolicy, .read start, .pendingDispatch false, .usage (some ⟨some tokens, some 0⟩),
    .read start, .reported, .pendingDispatch false, .usage (some ⟨some tokens, some 0⟩)]

/-- A reservation, and its completion. -/
def lateReserve : SwitchEvent :=
  .operation (.reserve (identity 1) 100 none none .verifiedUpperBound) start

def lateComplete : SwitchEvent :=
  .operation (.complete (identity 1).attemptKey receipt (.record completion)) start

/-- A reservation is cancelled before the delivery, and completed during it. -/
def lateCharge : List SwitchEvent :=
  [lateReserve, .operation (.transition (identity 1).attemptKey .cancelled) start] ++
    switchDelivery 40 ++ [lateComplete, .read start]

/-- The reservation is completed before the delivery, and once more during it. -/
def earlyCharge : List SwitchEvent :=
  [lateReserve, lateComplete] ++ switchDelivery 100 ++ [lateComplete, .read start]

/-- The delivery to a scope that holds nothing. -/
def switchStart : SwitchState := ⟨⟨tokenSummary, ∅⟩, 0, .idle⟩

/-- The batch of `write_policy` that events lead to, and whether the balance it
replaces was compared. -/
theorem switchBatch (events : List SwitchEvent) (compared : Bool)
    (h : (match switchStart.run? events with
      | none => false
      | some s =>
          match s.pc with
          | .writeCommit _ (some b) _ updated etag =>
              decide (etag = s.etag ∧ updated.budgetMode ≠ s.ledger.summary.budgetMode) &&
                decide (b.usage.field s.ledger.summary.budgetMode
                  = some s.ledger.summary.sourceBalance) == compared
          | _ => false) = true) :
    ∃ s update b tries updated, switchStart.run? events = some s ∧
      s.pc = .writeCommit update (some b) tries updated s.etag ∧
      updated.budgetMode ≠ s.ledger.summary.budgetMode ∧
      decide (b.usage.field s.ledger.summary.budgetMode
        = some s.ledger.summary.sourceBalance) = compared := by
  split at h
  next => cases h
  next s hrun =>
    split at h
    next update b tries updated etag hpc =>
      obtain ⟨hbatch, hcompared⟩ := Bool.and_eq_true_iff.1 h
      obtain ⟨rfl, hmode⟩ := of_decide_eq_true hbatch
      exact ⟨s, update, b, tries, updated, hrun, hpc, hmode, eq_of_beq hcompared⟩
    next => cases h

end Sample

namespace SwitchState

/-- A unit switch loses no charge, in a run in which no charge changes the confirmed
balance between the summary that quiescing returned and the last read of
`write_policy`. -/
theorem switch_loses_no_charge {s₀ s : SwitchState} (hidle : s₀.pc = .idle)
    (hrun : SwitchRuns Undisturbed s₀ s) : s.ComparesWhatItReplaces := by
  have h₀ : s₀.Holds := by
    unfold Holds
    rw [hidle]
    trivial
  have h := h₀.runs hrun
  intro update basis tries updated hpc hswitch
  unfold Holds at h
  rw [hpc] at h
  obtain ⟨-, hmode, hnone, hready⟩ := h
  cases basis with
  | none => exact absurd (hnone rfl) hswitch
  | some b =>
      obtain ⟨hopening, hcompared⟩ := hready (.inl rfl) b rfl
      refine ⟨b, rfl, hcompared fun heq => hswitch (hmode.trans heq.symm), ?_⟩
      rw [hmode]
      exact hopening

/-- A reservation is completed at 60 tokens before the delivery, and completed again after
the second snapshot.  The delivery compares the 100 tokens that its batch replaces. -/
theorem switch_loses_no_charge_sample :
    ∃ s update b tries updated, Sample.switchStart.run? Sample.earlyCharge = some s ∧
      s.pc = .writeCommit update (some b) tries updated s.etag ∧
      s.ledger.summary.sourceBalance = 100 ∧
      ∃ b', some b = some b' ∧
        b'.usage.field s.ledger.summary.budgetMode = some s.ledger.summary.sourceBalance ∧
        b'.usage.field updated.budgetMode = some b'.opening := by
  obtain ⟨s, update, b, tries, updated, hrun, hpc, hmode, -⟩ :=
    Sample.switchBatch Sample.earlyCharge true (by decide +kernel)
  have hcharged : (Sample.switchStart.run? Sample.earlyCharge).map
      (fun s => s.ledger.summary.sourceBalance) = some 100 := by decide +kernel
  have hquiet : Along Undisturbed Sample.switchStart Sample.earlyCharge := by decide +kernel
  rw [hrun] at hcharged
  exact ⟨s, update, b, tries, updated, hrun, hpc, Option.some.inj hcharged,
    switch_loses_no_charge rfl (runs_of_run? .refl hquiet hrun) _ _ _ _ hpc hmode⟩

/-- A cancelled attempt is completed at 60 tokens after the second snapshot of 40.
The batch of `write_policy` replaces a balance of 100 that nothing compared. -/
theorem switch_loses_charge :
    ¬ ∀ s₀ s : SwitchState, s₀.pc = .idle →
      SwitchRuns (fun _ e => ∀ op now, e = .operation op now → op.OfRequest) s₀ s →
      s.ComparesWhatItReplaces := by
  intro hall
  obtain ⟨s, update, b, tries, updated, hrun, hpc, hmode, hcompared⟩ :=
    Sample.switchBatch Sample.lateCharge false (by decide +kernel)
  have hrequests : Along (fun _ e => ∀ op now, e = .operation op now → op.OfRequest)
      Sample.switchStart Sample.lateCharge :=
    .of_forall <| by
      rintro e he _ op now rfl
      simp only [Sample.lateCharge, Sample.lateReserve, Sample.lateComplete,
        Sample.switchDelivery, List.cons_append, List.nil_append, List.mem_cons,
        List.not_mem_nil, or_false, SwitchEvent.operation.injEq, reduceCtorEq, false_or] at he
      rcases he with ⟨rfl, -⟩ | ⟨rfl, -⟩ | ⟨rfl, -⟩ <;> trivial
  obtain ⟨b', hb', hfield, -⟩ :=
    hall _ s rfl (runs_of_run? .refl hrequests hrun) _ _ _ _ hpc hmode
  cases hb'
  exact of_decide_eq_false hcompared hfield

end SwitchState

end Turnstile
