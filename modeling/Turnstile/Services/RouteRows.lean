import Turnstile.Services.RouteWorkers

/-!
# The two rows of a scope

What the writer row and the active row of a scope are for, without tags, batches in
flight or journals: a machine with two cells that moves by one committed change at a
time.  A writer is claimed once and taken over after that; what it has prepared is
activated or aborted before anything else is prepared; an activation raises the
generation by one.
-/

namespace Turnstile

open Guard

/-- The contents of the writer row and of the active row. -/
structure RouteRows where
  writer : Option RouteWriterState
  active : Option ActiveRouteHead

namespace RouteRows

def empty : RouteRows := ⟨none, none⟩

/-- The generation of the active head, or 0. -/
def generation (rows : RouteRows) : ℕ :=
  (rows.active.map fun head => head.approval.generation).getD 0

/-- The writer row names the active head. -/
def Agrees (rows : RouteRows) : Prop :=
  ∀ state, rows.writer = some state →
    state.activeGeneration = rows.generation ∧
    state.activeVersion = rows.active.map (fun head => head.approval.routeVersion) ∧
    state.activeSha256 = rows.active.map Sha256.mk

end RouteRows

/-! ## Changes -/

/-- A change of the writer row that a call makes. -/
inductive WriterChange (call : RouteCall) :
    RouteWriterKind → RouteWriterState → RouteWriterState → Prop where
  | takeover {before after : RouteWriterState} {ownerToken publicationId : UUID} {instant : ℤ}
      (h : before.takeover ownerToken publicationId instant = .ok after) :
      WriterChange call .takeover before after
  | renew {before after : RouteWriterState} {ownerToken publicationId : UUID} {instant : ℤ}
      (h : before.renew ownerToken publicationId instant = .ok after) :
      WriterChange call .renew before after
  | prepare {before after : RouteWriterState} {pending : RoutePendingActivation}
      {ownerToken publicationId : UUID} {instant : ℤ}
      (h : before.prepare pending ownerToken publicationId instant = .ok after) :
      WriterChange call .prepare before after
  | abort {before after : RouteWriterState} {a : WriterArguments}
      {pending : RoutePendingActivation} (hcall : call = .abortWriter a pending)
      (hpending : before.pending = some pending) (h : before.withoutPending = .ok after) :
      WriterChange call .abort before after

/-- What a committed batch does to the two rows. -/
inductive RouteCommit where
  | writer (receipt : RouteWriterReceipt) (after : RouteWriterState)
  | activation (receipt : RouteTransitionReceipt) (head : ActiveRouteHead)
      (after : Option RouteWriterState)
deriving DecidableEq

namespace RouteCommit

/-- The writer was taken over. -/
def isTakeover : RouteCommit → Bool
  | writer receipt _ => receipt.kind == .takeover
  | activation _ _ _ => false

/-- The writer was claimed. -/
def isClaim : RouteCommit → Bool
  | writer receipt _ => receipt.kind == .claim
  | activation _ _ _ => false

/-- The generation that an activation replaced. -/
def base? : RouteCommit → Option ℕ
  | writer _ _ => none
  | activation receipt _ _ => some receipt.beforeGeneration

/-- An activation that leaves the writer row alone. -/
def isAlone : RouteCommit → Bool
  | activation _ _ none => true
  | _ => false

/-- An activation that the writer row is updated with. -/
def isWithWriter : RouteCommit → Bool
  | activation _ _ (some _) => true
  | _ => false

end RouteCommit

/-- The activation that the writer has prepared. -/
structure PendingActivated (call : RouteCall) (before : RouteWriterState)
    (receipt : RouteTransitionReceipt) (head : ActiveRouteHead) (pending : RoutePendingActivation) :
    Prop where
  prepared : before.pending = some pending
  base : before.activeGeneration = receipt.beforeGeneration
  operationId : pending.operationId = receipt.operationId
  approval : pending.approval = head.approval
  snapshot : ∃ a, call = .activate a ∧ pending.snapshotSha256 = ⟨a.snapshot⟩

/-- A call moves the two rows by a commit. -/
inductive RouteMove (call : RouteCall) : RouteRows → RouteCommit → RouteRows → Prop where
  | claim {active : Option ActiveRouteHead} {receipt : RouteWriterReceipt}
      {after : RouteWriterState} (hkind : receipt.kind = .claim) (hepoch : after.writerEpoch = 1)
      (hpending : after.pending = none) :
      RouteMove call ⟨none, active⟩ (.writer receipt after) ⟨some after, active⟩
  | change {active : Option ActiveRouteHead} {receipt : RouteWriterReceipt}
      {before after : RouteWriterState} (h : WriterChange call receipt.kind before after) :
      RouteMove call ⟨some before, active⟩ (.writer receipt after) ⟨some after, active⟩
  | activate {active : Option ActiveRouteHead} {receipt : RouteTransitionReceipt}
      {head : ActiveRouteHead} {before after : RouteWriterState} {pending : RoutePendingActivation}
      (hbase : RouteRows.generation ⟨some before, active⟩ = receipt.beforeGeneration)
      (hgeneration : receipt.beforeGeneration + 1 = head.approval.generation)
      (hpending : PendingActivated call before receipt head pending)
      (h : before.withActive head = .ok after) :
      RouteMove call ⟨some before, active⟩ (.activation receipt head (some after))
        ⟨some after, some head⟩
  | activateAlone {writer : Option RouteWriterState} {active : Option ActiveRouteHead}
      {receipt : RouteTransitionReceipt} {head : ActiveRouteHead}
      (hbase : RouteRows.generation ⟨writer, active⟩ = receipt.beforeGeneration)
      (hgeneration : receipt.beforeGeneration + 1 = head.approval.generation) :
      RouteMove call ⟨writer, active⟩ (.activation receipt head none) ⟨writer, some head⟩

/-- The rows that a list of commits, newest first, leaves. -/
inductive RouteMoves : List RouteCommit → RouteRows → Prop where
  | start : RouteMoves [] .empty
  | move {commits : List RouteCommit} {rows rows' : RouteRows} {call : RouteCall}
      {commit : RouteCommit} (h : RouteMoves commits rows)
        (hmove : RouteMove call rows commit rows') :
      RouteMoves (commit :: commits) rows'

/-! ## What one change does -/

namespace RouteWriterState

theorem modelValidate_eq_ok {s : RouteWriterFields} {state : RouteWriterState}
    (h : modelValidate s = .ok state) : state.toRouteWriterFields = s := by
  unfold modelValidate at h
  split at h
  next =>
    obtain rfl := Except.ok.inj h
    rfl
  next => cases h

end RouteWriterState

section

variable {call : RouteCall} {before after : RouteWriterState} {kind : RouteWriterKind}

theorem WriterChange.kind_ne_claim (h : WriterChange call kind before after) : kind ≠ .claim := by
  cases h <;> exact fun hkind => by cases hkind

/-- Only a takeover raises the epoch, and only by one. -/
theorem WriterChange.writerEpoch (h : WriterChange call kind before after) :
    after.writerEpoch = before.writerEpoch + if kind = .takeover then 1 else 0 := by
  cases h with
  | takeover h =>
      obtain ⟨-, h⟩ := require_bind_eq_ok.1 h
      obtain ⟨-, h⟩ := require_bind_eq_ok.1 h
      rw [RouteWriterState.modelValidate_eq_ok h]
      rfl
  | renew h =>
      obtain ⟨-, h⟩ := check_bind_eq_ok.1 h
      rw [RouteWriterState.modelValidate_eq_ok h]
      rfl
  | prepare h =>
      obtain ⟨-, h⟩ := check_bind_eq_ok.1 h
      obtain ⟨-, h⟩ := require_bind_eq_ok.1 h
      rw [RouteWriterState.modelValidate_eq_ok h]
      rfl
  | abort hcall hpending h =>
      rw [RouteWriterState.modelValidate_eq_ok h]
      rfl

/-- No change of the writer row touches what it says of the active head. -/
theorem WriterChange.active (h : WriterChange call kind before after) :
    after.activeGeneration = before.activeGeneration ∧ after.activeVersion = before.activeVersion ∧
      after.activeSha256 = before.activeSha256 := by
  cases h with
  | takeover h =>
      obtain ⟨-, h⟩ := require_bind_eq_ok.1 h
      obtain ⟨-, h⟩ := require_bind_eq_ok.1 h
      rw [RouteWriterState.modelValidate_eq_ok h]
      exact ⟨rfl, rfl, rfl⟩
  | renew h =>
      obtain ⟨-, h⟩ := check_bind_eq_ok.1 h
      rw [RouteWriterState.modelValidate_eq_ok h]
      exact ⟨rfl, rfl, rfl⟩
  | prepare h =>
      obtain ⟨-, h⟩ := check_bind_eq_ok.1 h
      obtain ⟨-, h⟩ := require_bind_eq_ok.1 h
      rw [RouteWriterState.modelValidate_eq_ok h]
      exact ⟨rfl, rfl, rfl⟩
  | abort hcall hpending h =>
      rw [RouteWriterState.modelValidate_eq_ok h]
      exact ⟨rfl, rfl, rfl⟩

/-- What was prepared stays prepared, or is aborted by a call that names it. -/
theorem WriterChange.pending (h : WriterChange call kind before after)
    {pending : RoutePendingActivation} (hpending : before.pending = some pending) :
    after.pending = some pending ∨
      (after.pending = none ∧ kind = .abort ∧ ∃ a, call = .abortWriter a pending) := by
  cases h with
  | takeover h =>
      obtain ⟨-, h⟩ := require_bind_eq_ok.1 h
      obtain ⟨-, h⟩ := require_bind_eq_ok.1 h
      rw [RouteWriterState.modelValidate_eq_ok h]
      exact .inl hpending
  | renew h =>
      obtain ⟨-, h⟩ := check_bind_eq_ok.1 h
      rw [RouteWriterState.modelValidate_eq_ok h]
      exact .inl hpending
  | prepare h =>
      obtain ⟨-, h⟩ := check_bind_eq_ok.1 h
      obtain ⟨hnone, -⟩ := require_bind_eq_ok.1 h
      rw [hpending] at hnone
      cases hnone
  | abort hcall hsome h =>
      rw [hpending, Option.some.injEq] at hsome
      subst hsome
      rw [RouteWriterState.modelValidate_eq_ok h]
      exact .inr ⟨rfl, rfl, _, hcall⟩

end

/-! ## What one move does -/

section

variable {call : RouteCall} {rows rows' : RouteRows} {commit : RouteCommit}

/-- A move raises the generation by one when it is an activation, and else leaves it. -/
theorem RouteMove.generation (h : RouteMove call rows commit rows') :
    (commit.base? = none ∧ rows'.generation = rows.generation) ∨
      (commit.base? = some rows.generation ∧ rows'.generation = rows.generation + 1) := by
  cases h with
  | claim hkind hepoch hpending => exact .inl ⟨rfl, rfl⟩
  | change h => exact .inl ⟨rfl, rfl⟩
  | activate hbase hgeneration hpending h =>
      refine .inr ⟨congrArg some hbase.symm, ?_⟩
      rw [hbase, hgeneration]
      rfl
  | activateAlone hbase hgeneration =>
      refine .inr ⟨congrArg some hbase.symm, ?_⟩
      rw [hbase, hgeneration]
      rfl

/-- Where there is no writer it is claimed, or there is none after. -/
theorem RouteMove.unclaimed (h : RouteMove call rows commit rows') (hwriter : rows.writer = none) :
    rows'.writer = none ∨ ∃ receipt after, commit = .writer receipt after ∧
      receipt.kind = .claim ∧ rows' = ⟨some after, rows.active⟩ := by
  cases h with
  | claim hkind hepoch hpending => exact .inr ⟨_, _, rfl, hkind, rfl⟩
  | change hchange => cases hwriter
  | activate hbase hgeneration hactivated hafter => cases hwriter
  | activateAlone hbase hgeneration => exact .inl hwriter

/-- What was prepared stays prepared, or is aborted by a call that names it, or is the
activation that is committed. -/
theorem RouteMove.pending (h : RouteMove call rows commit rows') {before : RouteWriterState}
    (hwriter : rows.writer = some before) {pending : RoutePendingActivation}
    (hpending : before.pending = some pending) : ∃ after, rows'.writer = some after ∧
      (after.pending = some pending ∨ after.pending = none ∧
        ((∃ a receipt, call = .abortWriter a pending ∧ receipt.kind = .abort ∧
            commit = .writer receipt after) ∨
          ∃ a receipt head, call = .activate a ∧ commit = .activation receipt head (some after) ∧
            pending.operationId = receipt.operationId ∧ pending.approval = head.approval ∧
            pending.snapshotSha256 = ⟨a.snapshot⟩)) := by
  cases h with
  | claim hkind hepoch hnone => cases hwriter
  | change h =>
      obtain rfl := Option.some.inj hwriter
      refine ⟨_, rfl, ?_⟩
      rcases h.pending hpending with hsame | ⟨hnone, hkind, a, hcall⟩
      · exact .inl hsame
      · exact .inr ⟨hnone, .inl ⟨a, _, hcall, hkind, rfl⟩⟩
  | activate hbase hgeneration hactivated h =>
      obtain rfl := Option.some.inj hwriter
      obtain ⟨a, hcall, hsnapshot⟩ := hactivated.snapshot
      have hsame := hactivated.prepared
      rw [hpending, Option.some.injEq] at hsame
      subst hsame
      refine ⟨_, rfl, .inr ⟨?_, .inr ⟨a, _, _, hcall, rfl, hactivated.operationId,
        hactivated.approval, hsnapshot⟩⟩⟩
      rw [RouteWriterState.modelValidate_eq_ok h]
  | activateAlone hbase hgeneration => exact ⟨before, hwriter, .inl hpending⟩

/-- The writer row is behind the active row. -/
def RouteRows.Behind (rows : RouteRows) : Prop :=
  ∃ state, rows.writer = some state ∧ state.activeGeneration < rows.generation

/-- A writer row that is behind stays behind, and no activation is committed with it. -/
theorem RouteMove.behind (h : RouteMove call rows commit rows') (hbehind : rows.Behind) :
    rows'.Behind ∧ commit.isWithWriter = false := by
  obtain ⟨state, hstate, hlt⟩ := hbehind
  cases h with
  | claim hkind hepoch hnone => cases hstate
  | change h =>
      obtain rfl := Option.some.inj hstate
      exact ⟨⟨_, rfl, h.active.1 ▸ hlt⟩, rfl⟩
  | activate hbase hgeneration hactivated h =>
      obtain rfl := Option.some.inj hstate
      rw [hbase, hactivated.base] at hlt
      exact absurd hlt (Nat.lt_irrefl _)
  | activateAlone hbase hgeneration =>
      refine ⟨⟨state, hstate, ?_⟩, rfl⟩
      rw [hbase] at hlt
      exact Nat.lt_trans hlt (Nat.lt_of_lt_of_eq (Nat.lt_succ_self _) hgeneration)

/-- Two rows that agree go on to agree, unless an activation leaves the writer row alone. -/
theorem RouteMove.agrees (h : RouteMove call rows commit rows') (hagrees : rows.Agrees)
    (hwriter : rows.writer ≠ none) : rows'.Agrees ∨ (commit.isAlone = true ∧ rows'.Behind) := by
  cases h with
  | claim hkind hepoch hnone => exact absurd rfl hwriter
  | change h =>
      refine .inl fun state hstate => ?_
      obtain rfl := Option.some.inj hstate
      obtain ⟨hgeneration, hversion, hsha⟩ := h.active
      rw [hgeneration, hversion, hsha]
      exact hagrees _ rfl
  | activate hbase hgeneration hactivated h =>
      refine .inl fun state hstate => ?_
      obtain rfl := Option.some.inj hstate
      rw [RouteWriterState.modelValidate_eq_ok h]
      exact ⟨rfl, rfl, rfl⟩
  | activateAlone hbase hgeneration =>
      obtain ⟨state, hstate⟩ := Option.ne_none_iff_exists'.1 hwriter
      refine .inr ⟨rfl, state, hstate, ?_⟩
      rw [(hagrees state hstate).1, hbase]
      exact Nat.lt_of_lt_of_eq (Nat.lt_succ_self _) hgeneration

end

/-! ## What a whole run does -/

section

variable {commits : List RouteCommit} {rows : RouteRows}

/-- The epoch counts the takeovers, and a writer is claimed at most once. -/
theorem RouteMoves.writerEpoch (h : RouteMoves commits rows) :
    (rows.writer = none → commits.countP (·.isClaim) = 0 ∧ commits.countP (·.isTakeover) = 0) ∧
      ∀ state, rows.writer = some state → commits.countP (·.isClaim) = 1 ∧
        state.writerEpoch = 1 + commits.countP (·.isTakeover) := by
  induction h with
  | start => exact ⟨fun _ => ⟨rfl, rfl⟩, fun _ h => by cases h⟩
  | move h hmove ih =>
      obtain ⟨hnone, hsome⟩ := ih
      cases hmove with
      | claim hkind hepoch hpending =>
          refine ⟨fun hempty => (by cases hempty), fun state hstate => ?_⟩
          obtain rfl := Option.some.inj hstate
          obtain ⟨hclaims, htakeovers⟩ := hnone rfl
          rw [List.countP_cons, List.countP_cons, hclaims, htakeovers, hepoch]
          simp [RouteCommit.isClaim, RouteCommit.isTakeover, hkind]
      | change hchange =>
          refine ⟨fun hempty => (by cases hempty), fun state hstate => ?_⟩
          obtain rfl := Option.some.inj hstate
          obtain ⟨hclaims, hepoch⟩ := hsome _ rfl
          have hkind := hchange.kind_ne_claim
          rw [hchange.writerEpoch, hepoch, List.countP_cons, List.countP_cons, hclaims]
          simp only [RouteCommit.isClaim, RouteCommit.isTakeover, beq_iff_eq, if_neg hkind]
          exact ⟨trivial, Nat.add_assoc _ _ _⟩
      | activate hbase hgeneration hactivated hafter =>
          refine ⟨fun hempty => (by cases hempty), fun state hstate => ?_⟩
          obtain rfl := Option.some.inj hstate
          rw [RouteWriterState.modelValidate_eq_ok hafter, List.countP_cons, List.countP_cons]
          exact hsome _ rfl
      | activateAlone hbase hgeneration =>
          rw [List.countP_cons, List.countP_cons]
          exact ⟨hnone, hsome⟩

/-- The activations replaced the generations 0, 1, 2, ... in this order. -/
theorem RouteMoves.bases (h : RouteMoves commits rows) :
    commits.filterMap (·.base?) = (List.range rows.generation).reverse := by
  induction h with
  | start => rfl
  | move h hmove ih =>
      rcases hmove.generation with ⟨hbase, hsame⟩ | ⟨hbase, hnext⟩
      · rw [List.filterMap_cons_none hbase, hsame, ih]
      · rw [List.filterMap_cons_some hbase, hnext, ih, List.range_succ, List.reverse_append]
        rfl

end

end Turnstile
