import Turnstile.Integrations.StorageRouteIntents

/-!
# Checkpoints of route publications

What the journals of a publication store, and how a journal makes the next checkpoint
from the one it holds.  A journal object keeps the checkpoint that it was loaded with or
saved last.
-/

namespace Turnstile

open Guard

inductive RouteOutcome where
  | started
  | expiredBeforeDispatch
  | conditionalConflict
  | unknownNoReplay
  | confirmed
  | conflict
  | unknown
  | notAppliedFenced
deriving DecidableEq, Repr

/-! ## Activations -/

/-- `_ActivationCheckpoint` of one scope. -/
structure ActivationCheckpoint where
  contextSha256 : Sha256 String
  intent : RouteActivationIntent
  outcome : RouteOutcome
deriving DecidableEq

/-- `PersistentRouteActivationJournal`; `checkpoint` is also what it believes is stored. -/
structure PersistentRouteActivationJournal where
  publicationId : UUID
  contextSha256 : Sha256 String
  checkpoint : Option ActivationCheckpoint
deriving DecidableEq

namespace PersistentRouteActivationJournal

/-- `PersistentRouteActivationJournal.__init__`. -/
def load (publicationId : UUID) (contextSha256 : Sha256 String)
    (checkpoint : Option ActivationCheckpoint) :
    Except RouteError PersistentRouteActivationJournal :=
  match checkpoint with
  | none => .ok ⟨publicationId, contextSha256, none⟩
  | some c => do
      require (c.contextSha256 = contextSha256) (.value "ROUTE_ACTIVATION_CONTEXT_CHANGED")
      let _ ← RouteActivationIntent.fromRecord c.intent
      pure ⟨publicationId, contextSha256, some c⟩

/-- `PersistentRouteActivationJournal.intent`. -/
def intent (j : PersistentRouteActivationJournal) :
    Except RouteError (Option RouteActivationIntent) :=
  match j.checkpoint with
  | none => .ok none
  | some c => do
      let intent ← RouteActivationIntent.fromRecord c.intent
      pure (some intent)

/-- The checkpoint that `begin_once` saves. -/
def begun (j : PersistentRouteActivationJournal) (intent : RouteActivationIntent) :
    Except RouteError ActivationCheckpoint := do
  require (j.checkpoint = none) (.value "ROUTE_ACTIVATION_ALREADY_STARTED_RECOVER_ONLY")
  let record ← intent.toRecord
  pure ⟨j.contextSha256, record, .started⟩

/-- An outcome that no other replaces, but for the two that may follow an expiry. -/
def terminal (outcome : RouteOutcome) : Bool :=
  outcome ∈ [.confirmed, .conflict, .notAppliedFenced, .expiredBeforeDispatch]

/-- `outcome` may not follow `previous`. -/
def regression (previous outcome : RouteOutcome) : Bool :=
  let expiredFenced := previous == .expiredBeforeDispatch &&
    decide (outcome ∈ [.conflict, .notAppliedFenced])
  (terminal previous && !expiredFenced) || outcome == .started ||
    (previous != .started && decide (outcome ∈ [.expiredBeforeDispatch, .conditionalConflict]))

/-- The checkpoint that `record_outcome` saves, if it has to. -/
def recorded (j : PersistentRouteActivationJournal) (operationId : UUID) (outcome : RouteOutcome) :
    Except RouteError (Option ActivationCheckpoint) := do
  let _ ← j.intent
  match j.checkpoint with
  | none => .error (.value "ROUTE_ACTIVATION_OPERATION_CHANGED")
  | some c => do
      require (c.intent.receipt.operationId = operationId)
        (.value "ROUTE_ACTIVATION_OPERATION_CHANGED")
      if c.outcome = outcome then pure none
      else do
        require (regression c.outcome outcome = false)
          (.value "ROUTE_ACTIVATION_OUTCOME_REGRESSION")
        pure (some { c with outcome := outcome })

/-! ### What is loaded, begun and recorded -/

variable {publicationId : UUID} {contextSha256 : Sha256 String}

theorem load_eq_ok {c : ActivationCheckpoint} :
    (∃ j, load publicationId contextSha256 (some c) = .ok j) ↔
      c.contextSha256 = contextSha256 ∧ ∃ r, c.intent.toRecord = .ok r := by
  constructor
  · rintro ⟨j, h⟩
    obtain ⟨hcontext, h⟩ := require_bind_eq_ok.1 h
    obtain ⟨r, hr, -⟩ := bind_eq_ok.1 h
    exact ⟨hcontext, _, (RouteActivationIntent.fromRecord_eq_ok hr).2⟩
  · rintro ⟨hcontext, r, hr⟩
    refine ⟨⟨publicationId, contextSha256, some c⟩, ?_⟩
    rw [load, require_bind_of hcontext, RouteActivationIntent.fromRecord_of_toRecord hr]
    rfl

/-- A journal that was loaded holds what it was loaded with. -/
theorem checkpoint_of_load {stored : Option ActivationCheckpoint}
    {j : PersistentRouteActivationJournal} (h : load publicationId contextSha256 stored = .ok j) :
    j.publicationId = publicationId ∧ j.checkpoint = stored := by
  cases stored with
  | none =>
      obtain rfl := Except.ok.inj h
      exact ⟨rfl, rfl⟩
  | some c =>
      obtain ⟨-, h⟩ := require_bind_eq_ok.1 h
      obtain ⟨-, -, h⟩ := bind_eq_ok.1 h
      obtain rfl := Except.ok.inj h
      exact ⟨rfl, rfl⟩

theorem begun_eq_ok {j : PersistentRouteActivationJournal} {intent : RouteActivationIntent}
    {c : ActivationCheckpoint} (h : j.begun intent = .ok c) :
    j.checkpoint = none ∧ intent.toRecord = .ok intent ∧
      c = ⟨j.contextSha256, intent, .started⟩ := by
  obtain ⟨hnone, hbody⟩ := require_bind_eq_ok.1 h
  obtain ⟨r, hr, hrest⟩ := bind_eq_ok.1 hbody
  obtain ⟨hsame, -⟩ := RouteActivationIntent.toRecord_eq_ok hr
  subst hsame
  exact ⟨hnone, hr, (Except.ok.inj hrest).symm⟩

/-- The outcome recorded is another one, or it was recorded before. -/
theorem recorded_eq_ok {j : PersistentRouteActivationJournal} {operationId : UUID}
    {outcome : RouteOutcome} {candidate : Option ActivationCheckpoint}
    (h : j.recorded operationId outcome = .ok candidate) :
    ∃ c, j.checkpoint = some c ∧ c.intent.receipt.operationId = operationId ∧
      ((c.outcome = outcome ∧ candidate = none) ∨
        (outcome ≠ .started ∧ candidate = some { c with outcome := outcome })) := by
  obtain ⟨-, -, h⟩ := bind_eq_ok.1 h
  split at h
  next => cases h
  next c hc =>
    obtain ⟨hid, h⟩ := require_bind_eq_ok.1 h
    refine ⟨c, hc, hid, ?_⟩
    split at h
    next hsame => exact .inl ⟨hsame, (Except.ok.inj h).symm⟩
    next =>
      obtain ⟨hregression, h⟩ := require_bind_eq_ok.1 h
      refine .inr ⟨?_, (Except.ok.inj h).symm⟩
      rintro rfl
      simp [regression] at hregression

theorem intent_eq_ok {j : PersistentRouteActivationJournal} {intent : RouteActivationIntent}
    (h : j.intent = .ok (some intent)) : ∃ c, j.checkpoint = some c ∧ c.intent = intent := by
  rw [PersistentRouteActivationJournal.intent] at h
  split at h
  next => cases h
  next c hc =>
    obtain ⟨r, hr, h⟩ := bind_eq_ok.1 h
    obtain ⟨rfl, -⟩ := RouteActivationIntent.fromRecord_eq_ok hr
    exact ⟨c, hc, Option.some.inj (Except.ok.inj h)⟩

end PersistentRouteActivationJournal

/-! ## Writers -/

/-- `_WriterOperation`. -/
structure WriterOperation where
  intent : RouteWriterIntent
  outcome : RouteOutcome
deriving DecidableEq

/-- `_WriterCheckpoint`. -/
structure WriterCheckpoint where
  contextSha256 : Sha256 String
  operations : List WriterOperation
  length : operations.length ≤ 128
deriving DecidableEq

/-- `_WriterCheckpoint.model_validate`. -/
def WriterCheckpoint.modelValidate (contextSha256 : Sha256 String)
    (operations : List WriterOperation) : Except RouteError WriterCheckpoint :=
  if h : operations.length ≤ 128 then .ok ⟨contextSha256, operations, h⟩
  else .error (.value "ROUTE_WRITER_HISTORY_LENGTH")

/-- The operation ids of a checkpoint. -/
def WriterCheckpoint.operationIds (c : WriterCheckpoint) : List UUID :=
  c.operations.map fun entry => entry.intent.receipt.operationId

/-- `PersistentRouteWriterJournal`; `stored` is what it believes is stored. -/
structure PersistentRouteWriterJournal where
  publicationId : UUID
  checkpoint : WriterCheckpoint
  stored : Option WriterCheckpoint
deriving DecidableEq

namespace PersistentRouteWriterJournal

/-- An outcome after which another operation may begin. -/
def resolved (outcome : RouteOutcome) : Bool :=
  outcome ∈ [.confirmed, .notAppliedFenced, .expiredBeforeDispatch]

/-- The checks on the history of a checkpoint: `ids` are those already seen, `target` is
where the first of them was sent. -/
def requireHistory (publicationId : UUID) :
    List WriterOperation → List UUID → Option (RouteTarget × RouteScope) → Except RouteError Unit
  | [], _, _ => .ok ()
  | entry :: operations, ids, target => do
      let intent ← RouteWriterIntent.fromRecord entry.intent
      let bound := (intent.target, intent.receipt.scope)
      require (intent.receipt.operationId ∉ ids ∧ intent.after.publicationId = publicationId ∧
          ∀ t, target = some t → t = bound)
        (.value "ROUTE_WRITER_HISTORY_INVALID")
      requireHistory publicationId operations (intent.receipt.operationId :: ids) (some bound)

/-- `PersistentRouteWriterJournal.__init__`. -/
def load (publicationId : UUID) (contextSha256 : Sha256 String)
    (stored : Option WriterCheckpoint) : Except RouteError PersistentRouteWriterJournal := do
  let checkpoint := stored.getD ⟨contextSha256, [], Nat.zero_le _⟩
  require (checkpoint.contextSha256 = contextSha256) (.value "ROUTE_WRITER_CONTEXT_CHANGED")
  requireHistory publicationId checkpoint.operations [] none
  require (∀ entry ∈ checkpoint.operations.dropLast, resolved entry.outcome)
    (.value "ROUTE_WRITER_UNRESOLVED_HISTORY")
  pure ⟨publicationId, checkpoint, stored⟩

/-- `PersistentRouteWriterJournal.intent`. -/
def intent (j : PersistentRouteWriterJournal) : Except RouteError (Option RouteWriterIntent) :=
  match j.checkpoint.operations.getLast? with
  | none => .ok none
  | some entry => do
      let intent ← RouteWriterIntent.fromRecord entry.intent
      pure (some intent)

/-- The checkpoint that `begin_once` saves. -/
def begun (j : PersistentRouteWriterJournal) (intent : RouteWriterIntent) :
    Except RouteError WriterCheckpoint := do
  let record ← intent.toRecord
  require (intent.receipt.operationId ∉ j.checkpoint.operationIds)
    (.value "ROUTE_WRITER_OPERATION_REUSED")
  require (∀ entry, j.checkpoint.operations.getLast? = some entry → resolved entry.outcome)
    (.value "ROUTE_WRITER_UNKNOWN_RECOVER_ONLY")
  let previous ← j.intent
  require (intent.after.publicationId = j.publicationId ∧
      ∀ p, previous = some p → intent.target = p.target ∧ intent.receipt.scope = p.receipt.scope)
    (.value "ROUTE_WRITER_CONTEXT_CHANGED")
  WriterCheckpoint.modelValidate j.checkpoint.contextSha256
    (j.checkpoint.operations ++ [⟨record, .started⟩])

/-- `outcome` may not follow `previous`. -/
def regression (previous outcome : RouteOutcome) : Bool :=
  PersistentRouteActivationJournal.terminal previous || outcome == .started ||
    (previous != .started && decide (outcome ∈ [.expiredBeforeDispatch, .conditionalConflict]))

/-- The checkpoint that `record_outcome` saves, if it has to. -/
def recorded (j : PersistentRouteWriterJournal) (operationId : UUID) (outcome : RouteOutcome) :
    Except RouteError (Option WriterCheckpoint) := do
  let _ ← j.intent
  match j.checkpoint.operations.getLast? with
  | none => .error (.value "ROUTE_WRITER_OPERATION_CHANGED")
  | some entry => do
      require (entry.intent.receipt.operationId = operationId)
        (.value "ROUTE_WRITER_OPERATION_CHANGED")
      if entry.outcome = outcome then pure none
      else do
        require (regression entry.outcome outcome = false)
          (.value "ROUTE_WRITER_OUTCOME_REGRESSION")
        let record ← entry.intent.toRecord
        let checkpoint ← WriterCheckpoint.modelValidate j.checkpoint.contextSha256
          (j.checkpoint.operations.dropLast ++ [⟨record, outcome⟩])
        pure (some checkpoint)

/-! ### What is loaded, begun and recorded -/

/-- Where an operation was sent. -/
def bound (o : WriterOperation) : RouteTarget × RouteScope :=
  (o.intent.target, o.intent.receipt.scope)

/-- What `__init__` requires of the operations of a checkpoint. -/
structure History (publicationId : UUID) (operations : List WriterOperation) : Prop where
  recorded : ∀ o ∈ operations, o.intent.toRecord = .ok o.intent
  publication : ∀ o ∈ operations, o.intent.after.publicationId = publicationId
  distinct : (operations.map fun o => o.intent.receipt.operationId).Nodup
  bound : ∀ o ∈ operations, ∀ o' ∈ operations, bound o = bound o'
  resolved : ∀ o ∈ operations.dropLast, resolved o.outcome = true

theorem requireHistory_eq_ok {publicationId : UUID} {operations : List WriterOperation}
    {ids : List UUID} {target : Option (RouteTarget × RouteScope)} :
    requireHistory publicationId operations ids target = .ok () ↔
      (∀ o ∈ operations, o.intent.toRecord = .ok o.intent ∧
        o.intent.after.publicationId = publicationId ∧ o.intent.receipt.operationId ∉ ids ∧
        ∀ t, target = some t → t = bound o) ∧
      (operations.map fun o => o.intent.receipt.operationId).Nodup ∧
      ∀ o ∈ operations, ∀ o' ∈ operations, bound o = bound o' := by
  induction operations generalizing ids target with
  | nil => simp [requireHistory]
  | cons o operations ih =>
      have hfirst : requireHistory publicationId (o :: operations) ids target = .ok () ↔
          (o.intent.toRecord = .ok o.intent ∧ o.intent.receipt.operationId ∉ ids ∧
            o.intent.after.publicationId = publicationId ∧ ∀ t, target = some t → t = bound o) ∧
          requireHistory publicationId operations (o.intent.receipt.operationId :: ids)
            (some (bound o)) = .ok () := by
        rw [requireHistory]
        constructor
        · intro h
          obtain ⟨r, hr, h⟩ := bind_eq_ok.1 h
          obtain ⟨rfl, hrecorded⟩ := RouteWriterIntent.fromRecord_eq_ok hr
          obtain ⟨hchecks, h⟩ := require_bind_eq_ok.1 h
          exact ⟨⟨hrecorded, hchecks⟩, h⟩
        · rintro ⟨⟨hrecorded, hchecks⟩, h⟩
          rw [RouteWriterIntent.fromRecord_of_toRecord hrecorded, ok_bind]
          exact require_bind_eq_ok.2 ⟨hchecks, h⟩
      rw [hfirst, ih]
      simp only [List.mem_cons, List.map_cons, List.nodup_cons, List.mem_map]
      constructor
      · rintro ⟨⟨hrecorded, hid, hpublication, htarget⟩, hrest, hnodup, hbound⟩
        refine ⟨?_, ⟨?_, hnodup⟩, ?_⟩
        · rintro o' (rfl | ho')
          · exact ⟨hrecorded, hpublication, hid, htarget⟩
          · obtain ⟨h₁, h₂, h₃, h₄⟩ := hrest o' ho'
            exact ⟨h₁, h₂, fun h => h₃ (.inr h), fun t ht => (htarget t ht).trans (h₄ _ rfl)⟩
        · rintro ⟨o', ho', hsame⟩
          exact (hrest o' ho').2.2.1 (.inl hsame)
        · rintro a (rfl | ha) b (rfl | hb)
          · rfl
          · exact (hrest b hb).2.2.2 _ rfl
          · exact ((hrest a ha).2.2.2 _ rfl).symm
          · exact hbound a ha b hb
      · rintro ⟨hall, ⟨hfresh, hnodup⟩, hbound⟩
        obtain ⟨hrecorded, hpublication, hid, htarget⟩ := hall o (.inl rfl)
        refine ⟨⟨hrecorded, hid, hpublication, htarget⟩, ?_, hnodup,
          fun a ha b hb => hbound a (.inr ha) b (.inr hb)⟩
        intro o' ho'
        obtain ⟨h₁, h₂, h₃, -⟩ := hall o' (.inr ho')
        refine ⟨h₁, h₂, ?_, fun t ht => ?_⟩
        · rintro (hsame | hmem)
          · exact hfresh ⟨o', ho', hsame⟩
          · exact h₃ hmem
        · obtain rfl := Option.some.inj ht
          exact hbound o (.inl rfl) o' (.inr ho')

variable {publicationId : UUID} {contextSha256 : Sha256 String}

/-- A journal is loaded from a checkpoint of its own context with a proper history. -/
theorem load_eq_ok {stored : Option WriterCheckpoint} {j : PersistentRouteWriterJournal} :
    load publicationId contextSha256 stored = .ok j ↔
      (stored.getD ⟨contextSha256, [], Nat.zero_le _⟩).contextSha256 = contextSha256 ∧
      History publicationId (stored.getD ⟨contextSha256, [], Nat.zero_le _⟩).operations ∧
      j = ⟨publicationId, stored.getD ⟨contextSha256, [], Nat.zero_le _⟩, stored⟩ := by
  constructor
  · intro h
    obtain ⟨hcontext, h⟩ := require_bind_eq_ok.1 h
    obtain ⟨hhistory, h⟩ := check_bind_eq_ok.1 h
    obtain ⟨hresolved, h⟩ := require_bind_eq_ok.1 h
    obtain ⟨hall, hdistinct, hbound⟩ := requireHistory_eq_ok.1 hhistory
    exact ⟨hcontext, ⟨fun o ho => (hall o ho).1, fun o ho => (hall o ho).2.1, hdistinct, hbound,
      hresolved⟩, (Except.ok.inj h).symm⟩
  · rintro ⟨hcontext, hhistory, rfl⟩
    refine require_bind_eq_ok.2 ⟨hcontext, check_bind_eq_ok.2 ⟨requireHistory_eq_ok.2 ⟨fun o ho =>
      ⟨hhistory.recorded o ho, hhistory.publication o ho, List.not_mem_nil, nofun⟩,
      hhistory.distinct, hhistory.bound⟩, require_bind_eq_ok.2 ⟨hhistory.resolved, rfl⟩⟩⟩

theorem begun_eq_ok {j : PersistentRouteWriterJournal} {intent : RouteWriterIntent}
    {c : WriterCheckpoint} (h : j.begun intent = .ok c) :
    intent.toRecord = .ok intent ∧ intent.receipt.operationId ∉ j.checkpoint.operationIds ∧
      c.contextSha256 = j.checkpoint.contextSha256 ∧
      c.operations = j.checkpoint.operations ++ [⟨intent, .started⟩] := by
  obtain ⟨r, hr, h⟩ := bind_eq_ok.1 h
  obtain ⟨rfl, -⟩ := RouteWriterIntent.toRecord_eq_ok hr
  obtain ⟨hid, h⟩ := require_bind_eq_ok.1 h
  obtain ⟨-, h⟩ := require_bind_eq_ok.1 h
  obtain ⟨previous, -, h⟩ := bind_eq_ok.1 h
  obtain ⟨-, h⟩ := require_bind_eq_ok.1 h
  rw [WriterCheckpoint.modelValidate] at h
  split at h
  next hlength =>
    obtain rfl := Except.ok.inj h
    exact ⟨hr, hid, rfl, rfl⟩
  next => cases h

/-- What is begun extends the history. -/
theorem History.begun {j : PersistentRouteWriterJournal} {intent : RouteWriterIntent}
    {c : WriterCheckpoint} (hj : History j.publicationId j.checkpoint.operations)
    (h : j.begun intent = .ok c) : History j.publicationId c.operations := by
  obtain ⟨r, hr, h⟩ := bind_eq_ok.1 h
  obtain ⟨rfl, -⟩ := RouteWriterIntent.toRecord_eq_ok hr
  obtain ⟨hid, h⟩ := require_bind_eq_ok.1 h
  obtain ⟨hresolved, h⟩ := require_bind_eq_ok.1 h
  obtain ⟨previous, hprevious, h⟩ := bind_eq_ok.1 h
  obtain ⟨⟨hpublication, htarget⟩, h⟩ := require_bind_eq_ok.1 h
  rw [WriterCheckpoint.modelValidate] at h
  split at h
  next =>
    obtain rfl := Except.ok.inj h
    have hbound : ∀ o ∈ j.checkpoint.operations, PersistentRouteWriterJournal.bound o =
        PersistentRouteWriterJournal.bound ⟨r, .started⟩ := by
      intro o ho
      obtain ⟨last, hlast⟩ := Option.ne_none_iff_exists'.1
        (mt List.getLast?_eq_none_iff.1 (List.ne_nil_of_mem ho))
      rw [PersistentRouteWriterJournal.intent, hlast] at hprevious
      obtain ⟨p, hp, hprevious⟩ := bind_eq_ok.1 hprevious
      obtain ⟨rfl, -⟩ := RouteWriterIntent.fromRecord_eq_ok hp
      obtain ⟨h₁, h₂⟩ := htarget _ (Except.ok.inj hprevious).symm
      have hmem : last ∈ j.checkpoint.operations := List.mem_of_getLast? hlast
      rw [hj.bound o ho last hmem]
      exact Prod.ext h₁.symm h₂.symm
    constructor
    · intro o ho
      rcases List.mem_append.1 ho with ho | ho
      · exact hj.recorded o ho
      · obtain rfl := List.mem_singleton.1 ho
        exact hr
    · intro o ho
      rcases List.mem_append.1 ho with ho | ho
      · exact hj.publication o ho
      · obtain rfl := List.mem_singleton.1 ho
        exact hpublication
    · rw [List.map_append, List.nodup_append]
      refine ⟨hj.distinct, List.nodup_singleton _, fun a ha b hb => ?_⟩
      rintro rfl
      obtain rfl := List.mem_singleton.1 hb
      exact hid ha
    · intro o ho o' ho'
      rcases List.mem_append.1 ho with ho | ho <;> rcases List.mem_append.1 ho' with ho' | ho'
      · exact hj.bound o ho o' ho'
      · obtain rfl := List.mem_singleton.1 ho'
        exact hbound o ho
      · obtain rfl := List.mem_singleton.1 ho
        exact (hbound o' ho').symm
      · rw [List.mem_singleton.1 ho, List.mem_singleton.1 ho']
    · intro o ho
      rw [List.dropLast_concat] at ho
      by_cases hlast : j.checkpoint.operations.getLast? = some o
      · exact hresolved o hlast
      · refine hj.resolved o ?_
        obtain ⟨last, hsome⟩ := Option.ne_none_iff_exists'.1
          (mt List.getLast?_eq_none_iff.1 (List.ne_nil_of_mem ho))
        obtain ⟨operations, hlist⟩ := List.getLast?_eq_some_iff.1 hsome
        rw [hlist] at ho hlast ⊢
        rw [List.getLast?_concat, Option.some.injEq] at hlast
        rw [List.dropLast_concat]
        rcases List.mem_append.1 ho with ho | ho
        · exact ho
        · exact absurd (List.mem_singleton.1 ho).symm hlast
  next => cases h

/-- The outcome recorded is another one, or it was recorded before. -/
theorem recorded_eq_ok {j : PersistentRouteWriterJournal} {operationId : UUID}
    {outcome : RouteOutcome} {candidate : Option WriterCheckpoint}
    (h : j.recorded operationId outcome = .ok candidate) :
    ∃ operations o, j.checkpoint.operations = operations ++ [o] ∧
      o.intent.receipt.operationId = operationId ∧
      ((o.outcome = outcome ∧ candidate = none) ∨
        ∃ c, outcome ≠ .started ∧ candidate = some c ∧
          c.contextSha256 = j.checkpoint.contextSha256 ∧
          c.operations = operations ++ [⟨o.intent, outcome⟩]) := by
  obtain ⟨-, -, h⟩ := bind_eq_ok.1 h
  split at h
  next => cases h
  next o ho =>
    obtain ⟨hid, h⟩ := require_bind_eq_ok.1 h
    obtain ⟨operations, hlist⟩ := List.getLast?_eq_some_iff.1 ho
    refine ⟨operations, o, hlist, hid, ?_⟩
    split at h
    next hsame => exact .inl ⟨hsame, (Except.ok.inj h).symm⟩
    next =>
      obtain ⟨hregression, h⟩ := require_bind_eq_ok.1 h
      obtain ⟨r, hr, h⟩ := bind_eq_ok.1 h
      obtain ⟨rfl, -⟩ := RouteWriterIntent.toRecord_eq_ok hr
      obtain ⟨c, hc, h⟩ := bind_eq_ok.1 h
      refine .inr ⟨c, ?_, (Except.ok.inj h).symm, ?_⟩
      · rintro rfl
        simp [regression] at hregression
      · rw [WriterCheckpoint.modelValidate, hlist, List.dropLast_concat] at hc
        split at hc
        next =>
          obtain rfl := Except.ok.inj hc
          exact ⟨rfl, rfl⟩
        next => cases hc

/-- Another outcome of the last operation keeps the history. -/
theorem History.recorded_last {operations : List WriterOperation} {o : WriterOperation}
    {outcome : RouteOutcome} (h : History publicationId (operations ++ [o])) :
    History publicationId (operations ++ [⟨o.intent, outcome⟩]) := by
  have hmem : ∀ a ∈ operations ++ [(⟨o.intent, outcome⟩ : WriterOperation)],
      ∃ b ∈ operations ++ [o], b.intent = a.intent := by
    intro a ha
    rcases List.mem_append.1 ha with ha | ha
    · exact ⟨a, List.mem_append_left _ ha, rfl⟩
    · obtain rfl := List.mem_singleton.1 ha
      exact ⟨o, by simp, rfl⟩
  constructor
  · intro a ha
    obtain ⟨b, hb, hab⟩ := hmem a ha
    exact hab ▸ h.recorded b hb
  · intro a ha
    obtain ⟨b, hb, hab⟩ := hmem a ha
    exact hab ▸ h.publication b hb
  · simpa using h.distinct
  · intro a ha a' ha'
    obtain ⟨b, hb, hab⟩ := hmem a ha
    obtain ⟨b', hb', hab'⟩ := hmem a' ha'
    have hsame := h.bound b hb b' hb'
    rw [PersistentRouteWriterJournal.bound, PersistentRouteWriterJournal.bound] at hsame ⊢
    rw [← hab, ← hab']
    exact hsame
  · have hresolved := h.resolved
    rw [List.dropLast_concat] at hresolved ⊢
    exact hresolved

theorem intent_eq_ok {j : PersistentRouteWriterJournal} {intent : RouteWriterIntent}
    (h : j.intent = .ok (some intent)) : ∃ operations outcome,
      j.checkpoint.operations = operations ++ [⟨intent, outcome⟩] := by
  rw [PersistentRouteWriterJournal.intent] at h
  split at h
  next => cases h
  next o ho =>
    obtain ⟨r, hr, h⟩ := bind_eq_ok.1 h
    obtain ⟨rfl, -⟩ := RouteWriterIntent.fromRecord_eq_ok hr
    obtain ⟨operations, hlist⟩ := List.getLast?_eq_some_iff.1 ho
    obtain rfl := Option.some.inj (Except.ok.inj h)
    exact ⟨operations, o.outcome, hlist⟩

end PersistentRouteWriterJournal

end Turnstile
