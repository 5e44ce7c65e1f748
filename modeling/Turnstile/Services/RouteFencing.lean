import Turnstile.Domain.RouteSnapshots
import Turnstile.Services.RouteRows
import Turnstile.Services.RouteSteps

/-!
# Fencing of route workers

The two rows of a scope move as `RouteRows` describes, however the workers interleave and
however late a batch arrives: every batch that is applied is a move of the worker that
sent it, and nothing else changes the rows.
-/

namespace Turnstile

open Guard

/-! ## Commits -/

/-- What a batch does to the two rows. -/
def RouteBatch.commit? (b : RouteBatch) : Option RouteCommit :=
  match b.writes with
  | [⟨.writer, .writer after, _⟩, ⟨.writerTransition _, .writerReceipt receipt, _⟩] =>
      some (.writer receipt after)
  | [⟨.active, .active head, _⟩, ⟨.transition _, .receipt receipt, _⟩] =>
      some (.activation receipt head none)
  | [⟨.writer, .writer after, _⟩, ⟨.active, .active head, _⟩,
      ⟨.transition _, .receipt receipt, _⟩] =>
      some (.activation receipt head (some after))
  | _ => none

/-- What an event does to the two rows. -/
def RouteEvent.commit? : RouteEvent → Option RouteCommit
  | applied (.batch b) => b.commit?
  | _ => none

section

variable {ι : Type}

/-- What a history has done to the two rows, newest first. -/
def commitsOf (history : List (ι × RouteEvent)) : List RouteCommit :=
  history.filterMap fun e => e.2.commit?

/-- How many activations a history has. -/
def activationsIn (history : List (ι × RouteEvent)) : ℕ :=
  ((commitsOf history).filterMap (·.base?)).length

/-- The two rows of a world. -/
def RouteWorld.rows (w : RouteWorld ι) : RouteRows := ⟨w.writer?, w.active?⟩

/-- The generation of the head in a row, or 0. -/
def headGeneration (found : Option (Row RouteDocument)) : ℕ :=
  match found.map Row.document with
  | some (.record (.active head)) => head.approval.generation
  | _ => 0

theorem commitsOf_append (recent older : List (ι × RouteEvent)) :
    commitsOf (recent ++ older) = commitsOf recent ++ commitsOf older :=
  List.filterMap_append

theorem commitsOf_eq_nil {recent : List (ι × RouteEvent)}
    (h : ∀ e ∈ recent, ∀ s, e.2 ≠ .applied s) : commitsOf recent = [] := by
  refine List.filterMap_eq_nil_iff.2 fun e he => ?_
  cases hevent : e.2 with
  | applied s => exact absurd hevent (h e he s)
  | observed key found => rfl
  | sent s => rfl
  | savedWriter p c => rfl
  | savedActivation p c => rfl

theorem mem_commitsOf {history : List (ι × RouteEvent)} {c : RouteCommit} :
    c ∈ commitsOf history ↔
      ∃ i b, (i, RouteEvent.applied (.batch b)) ∈ history ∧ b.commit? = some c := by
  constructor
  · intro hc
    obtain ⟨⟨i, event⟩, he, hcommit⟩ := List.mem_filterMap.1 hc
    cases event with
    | applied s =>
        cases s with
        | batch b => exact ⟨i, b, he, hcommit⟩
        | entity key document => cases hcommit
    | observed key found => cases hcommit
    | sent s => cases hcommit
    | savedWriter p c => cases hcommit
    | savedActivation p c => cases hcommit
  · rintro ⟨i, b, he, hcommit⟩
    exact List.mem_filterMap.2 ⟨_, he, hcommit⟩

theorem activationsIn_append (recent older : List (ι × RouteEvent)) :
    activationsIn (recent ++ older) = activationsIn recent + activationsIn older := by
  rw [activationsIn, commitsOf_append, List.filterMap_append, List.length_append]
  rfl

theorem rows_generation (w : RouteWorld ι) :
    w.rows.generation = headGeneration (w.table.rows (.root .active)) := by
  unfold RouteWorld.rows RouteRows.generation RouteWorld.active? headGeneration
  generalize (w.table.rows (.root .active)).map Row.document = found
  cases found with
  | none => rfl
  | some document =>
      cases document with
      | record record => cases record <;> rfl
      | content route => rfl
      | member member => rfl
      | catalog entry => rfl
      | readback receipt => rfl
      | initialization record => rfl
      | modelHead details => rfl

theorem writer?_of_rows {w : RouteWorld ι} {state : RouteWriterState} {etag : ℕ}
    (h : w.table.rows (.root .writer) = some ⟨.record (.writer state), etag⟩) :
    w.writer? = some state := by
  simp [RouteWorld.writer?, h]

theorem writer?_of_absent {w : RouteWorld ι} (h : w.table.rows (.root .writer) = none) :
    w.writer? = none := by
  simp [RouteWorld.writer?, h]

theorem active?_of_rows {w : RouteWorld ι} {head : ActiveRouteHead} {etag : ℕ}
    (h : w.table.rows (.root .active) = some ⟨.record (.active head), etag⟩) :
    w.active? = some head := by
  simp [RouteWorld.active?, h]

theorem writer?_congr {w w' : RouteWorld ι}
    (h : w'.table.rows (.root .writer) = w.table.rows (.root .writer)) :
    w'.writer? = w.writer? := by
  rw [RouteWorld.writer?, h, RouteWorld.writer?]

theorem active?_congr {w w' : RouteWorld ι}
    (h : w'.table.rows (.root .active) = w.table.rows (.root .active)) :
    w'.active? = w.active? := by
  rw [RouteWorld.active?, h, RouteWorld.active?]

theorem rows_congr {w w' : RouteWorld ι}
    (hwriter : w'.table.rows (.root .writer) = w.table.rows (.root .writer))
    (hactive : w'.table.rows (.root .active) = w.table.rows (.root .active)) : w'.rows = w.rows :=
  congrArg₂ RouteRows.mk (writer?_congr hwriter) (active?_congr hactive)

/-! ## Batches are moves -/

variable {calls : ι → RouteCall} {i : ι} {w w' : RouteWorld ι}

theorem Quietly.rows {recent : Option (ι × RouteEvent)} (h : Quietly w w' recent) :
    w'.rows = w.rows :=
  rows_congr (by rw [h.table]) (by rw [h.table])

theorem Quietly.commitsOf {recent : Option (ι × RouteEvent)} (h : Quietly w w' recent) :
    commitsOf w'.history = commitsOf w.history := by
  rw [h.history, commitsOf_append, commitsOf_eq_nil fun e he =>
    h.unapplied e (Option.mem_toList.1 he),
    List.nil_append]

/-- A recorded change of the writer row. -/
theorem RouteWriterIntent.Recorded.change {call : RouteCall} {intent : RouteWriterIntent}
    {before : RouteWriterState} (h : intent.Recorded) (hbefore : intent.before = some before)
    (habort : intent.receipt.kind = .abort → ∃ a pending, call = .abortWriter a pending ∧
      intent.before.bind (fun state => state.pending) = some pending) :
    WriterChange call intent.receipt.kind before intent.after := by
  have htransition := h.transition
  rw [requireTransition, hbefore] at htransition
  obtain ⟨expected, hexpected, hsame⟩ := bind_eq_ok.1 htransition
  obtain rfl := require_eq_ok.1 hsame
  rw [expectedAfter] at hexpected
  cases hkind : intent.receipt.kind with
  | claim =>
      rw [hkind] at hexpected
      cases hexpected
  | takeover =>
      rw [hkind] at hexpected
      exact .takeover hexpected
  | renew =>
      rw [hkind] at hexpected
      exact .renew hexpected
  | prepare =>
      rw [hkind] at hexpected
      cases hpending : intent.after.pending with
      | none =>
          simp only [hpending] at hexpected
          cases hexpected
      | some pending =>
          simp only [hpending] at hexpected
          exact .prepare hexpected
  | abort =>
      rw [hkind] at hexpected
      obtain ⟨-, hexpected⟩ := require_bind_eq_ok.1 hexpected
      obtain ⟨-, hexpected⟩ := check_bind_eq_ok.1 hexpected
      obtain ⟨a, pending, hcall, hpending⟩ := habort hkind
      rw [hbefore] at hpending
      exact .abort hcall hpending hexpected

theorem PreparedWriter.commit? {intent : RouteWriterIntent} (h : PreparedWriter calls w i intent) :
    intent.body.commit? = some (.writer intent.receipt intent.after) := by
  rw [RouteBatch.commit?, (RouteWriterIntent.toRecord_eq_ok h.recorded).2.writes]
  rfl

theorem PreparedActivation.commit? {intent : RouteActivationIntent}
    (h : PreparedActivation calls w i intent) :
    intent.body.commit? = some (.activation intent.receipt intent.head intent.writerAfter) := by
  rw [RouteBatch.commit?, (RouteActivationIntent.toRecord_eq_ok h.recorded).2.writes,
    RouteActivationIntent.writerWrites]
  cases intent.writerAfter <;> rfl

/-- A batch on the writer row that is applied is a move. -/
theorem PreparedWriter.move {intent : RouteWriterIntent} (h : PreparedWriter calls w i intent)
    (happlies : Applies calls w w' i (.batch intent.body)) :
    RouteMove (calls i) w.rows (.writer intent.receipt intent.after) w'.rows := by
  obtain ⟨-, hrecorded⟩ := RouteWriterIntent.toRecord_eq_ok h.recorded
  have hadmits := happlies.admits
  have htable := happlies.table
  rw [h.writes] at hadmits htable
  have htag := ((Table.admits_cons _ _ _).1 hadmits).1
  have hafter : w'.writer? = some intent.after := by
    refine @writer?_of_rows _ _ _ w.table.next ?_
    rw [htable]
    exact Table.apply_rows_cons_self _ _ _
  have hactive : w'.active? = w.active? := by
    refine active?_congr ?_
    rw [htable]
    refine Table.apply_rows_of_not_mem fun x hx => ?_
    rcases List.mem_cons.1 hx with rfl | hx
    · exact fun heq => by cases heq
    · rw [List.mem_singleton.1 hx]
      exact fun heq => by cases heq
  rw [RouteWorld.rows, RouteWorld.rows, hafter, hactive]
  cases hbefore : intent.before with
  | none =>
      have habsent : w.table.rows (.root .writer) = none := by
        rw [← Table.etag?_eq_none, htag]
        exact hrecorded.etag.2 hbefore
      have htransition := hrecorded.transition
      rw [RouteWriterIntent.requireTransition, hbefore] at htransition
      obtain ⟨hkind, hepoch, hpending⟩ := require_eq_ok.1 htransition
      rw [writer?_of_absent habsent]
      exact .claim hkind hepoch hpending
  | some before =>
      obtain ⟨etag, hetag, hseen⟩ := h.before before hbefore
      rw [writer?_of_rows (hseen.rows_of_etag? (htag.trans hetag))]
      refine .change (hrecorded.change hbefore fun hkind => ?_)
      exact h.aborted hkind

/-- The generation that an activation replaces is the one in the active row. -/
theorem PreparedActivation.base {intent : RouteActivationIntent}
    (h : PreparedActivation calls w i intent)
    (htag : w.table.etag? (.root .active) = intent.receipt.beforeEtag) :
    w.rows.generation = intent.receipt.beforeGeneration := by
  obtain ⟨-, hrecorded⟩ := RouteActivationIntent.toRecord_eq_ok h.recorded
  rw [rows_generation]
  cases hetag : intent.receipt.beforeEtag with
  | none =>
      rw [hetag, Table.etag?_eq_none] at htag
      rw [htag, hrecorded.etag.1 hetag]
      rfl
  | some etag =>
      obtain ⟨head, hseen, hgeneration⟩ := h.active etag hetag
      rw [hseen.rows_of_etag? (htag.trans hetag)]
      exact hgeneration

/-- An activation that is applied is a move. -/
theorem PreparedActivation.move {intent : RouteActivationIntent}
    (h : PreparedActivation calls w i intent)
    (happlies : Applies calls w w' i (.batch intent.body)) :
    RouteMove (calls i) w.rows (.activation intent.receipt intent.head intent.writerAfter)
      w'.rows := by
  obtain ⟨-, hrecorded⟩ := RouteActivationIntent.toRecord_eq_ok h.recorded
  have hadmits := happlies.admits
  have htable := happlies.table
  rw [h.writes] at hadmits htable
  have hbase := h.base (hadmits _ (List.mem_append_right _ List.mem_cons_self))
  rcases hrecorded.writer with ⟨-, hafter, -⟩ | ⟨before, after, etag, hbefore, hafter, hetag, hprep⟩
  · rw [hafter] at htable ⊢
    have hactive : w'.active? = some intent.head := by
      refine @active?_of_rows _ _ _ w.table.next ?_
      rw [htable]
      exact Table.apply_rows_cons_self _ _ _
    have hwriter : w'.writer? = w.writer? := by
      refine writer?_congr ?_
      rw [htable]
      refine Table.apply_rows_of_not_mem fun x hx => ?_
      rcases List.mem_cons.1 hx with rfl | hx
      · exact fun heq => by cases heq
      · rw [List.mem_singleton.1 hx]
        exact fun heq => by cases heq
    rw [RouteWorld.rows, RouteWorld.rows, hactive, hwriter]
    exact .activateAlone hbase hrecorded.generation
  · obtain ⟨⟨etag', hetag', hseen⟩, a, pending, hcall, -, hpending, hsnapshot, -⟩ :=
      h.writer before hbefore
    rw [hafter] at htable hadmits ⊢
    have htag := ((Table.admits_cons _ _ _).1 hadmits).1
    have hwriter : w.writer? = some before :=
      writer?_of_rows (hseen.rows_of_etag? (htag.trans hetag'))
    have hactive : w'.active? = some intent.head := by
      refine @active?_of_rows _ _ _ w.table.next ?_
      rw [htable]
      refine (Table.apply_rows_cons_of_ne fun heq => by cases heq).trans ?_
      exact Table.apply_rows_cons_self _ _ _
    have hwriter' : w'.writer? = some after := by
      refine @writer?_of_rows _ _ _ w.table.next ?_
      rw [htable]
      exact Table.apply_rows_cons_self _ _ _
    rw [RouteWorld.rows, hwriter] at hbase
    rw [RouteWorld.rows, RouteWorld.rows, hactive, hwriter, hwriter']
    obtain ⟨prepared, hprepared, hoperation, happroval⟩ := hprep.pending
    rw [hpending, Option.some.injEq] at hprepared
    subst hprepared
    exact .activate hbase hrecorded.generation
      ⟨hpending, hprep.activeGeneration, hoperation, happroval, a, hcall, hsnapshot⟩ hprep.after

/-- A batch that is applied is a move of the worker that sent it. -/
theorem Applies.move {b : RouteBatch} (h : Applies calls w w' i (.batch b)) :
    ∃ c, b.commit? = some c ∧ RouteMove (calls i) w.rows c w'.rows := by
  have hprepared := h.inv.submitted i _ h.sent
  generalize hs : RouteSubmission.batch b = s at hprepared
  cases hprepared with
  | writer intent hp =>
      cases hs
      exact ⟨_, hp.commit?, hp.move h⟩
  | activation intent hp =>
      cases hs
      exact ⟨_, hp.commit?, hp.move h⟩
  | entity key document hp => cases hs

/-- An entity that is staged leaves the two rows alone. -/
theorem Applies.rows_entity {key : RouteKey} {document : RouteDocument}
    (h : Applies calls w w' i (.entity key document)) : w'.rows = w.rows := by
  have hstaged : key.Staged := by
    have hprepared := h.inv.submitted i _ h.sent
    cases hprepared with
    | entity _ _ hp => exact hp.staged
  have hrows : ∀ row, key ≠ .root row → w'.table.rows (.root row) = w.table.rows (.root row) := by
    intro row hrow
    rw [h.table]
    refine Table.apply_rows_of_not_mem fun x hx => ?_
    rw [List.mem_singleton.1 hx]
    exact hrow
  exact rows_congr (hrows _ hstaged.1) (hrows _ hstaged.2.1)

/-- The two rows stay, or a batch that is applied moves them. -/
inductive RowsStep (calls : ι → RouteCall) (w w' : RouteWorld ι) : Prop where
  | stay (hrows : w'.rows = w.rows) (hcommits : commitsOf w'.history = commitsOf w.history)
  | move {i : ι} {b : RouteBatch} {c : RouteCommit} {older : List (ι × RouteEvent)}
      (hhistory : w'.history = (i, .applied (.batch b)) :: older)
      (holder : commitsOf older = commitsOf w.history) (hcommit : b.commit? = some c)
      (h : RouteMove (calls i) w.rows c w'.rows)

theorem RouteStep.rows (h : RouteStep calls w w') : RowsStep calls w w' := by
  cases h with
  | quiet h => exact .stay h.rows h.commitsOf
  | @commit middle recent i s hquiet h =>
      cases s with
      | batch b =>
          obtain ⟨c, hcommit, hmove⟩ := h.move
          exact .move h.history hquiet.commitsOf hcommit (hquiet.rows ▸ hmove)
      | entity key document =>
          refine .stay (h.rows_entity.trans hquiet.rows) ?_
          rw [h.history]
          exact hquiet.commitsOf

/-- The two rows of a world that is reached are what its history has made of them. -/
def Moved (w : RouteWorld ι) : Prop := RouteMoves (commitsOf w.history) w.rows

theorem moved_step (h : RouteStep calls w w') (hw : Moved w) : Moved w' := by
  unfold Moved
  cases h.rows with
  | stay hrows hcommits => rwa [hrows, hcommits]
  | @move i b c older hhistory holder hcommit hmove =>
      have hcommits : commitsOf w'.history = c :: commitsOf w.history := by
        rw [hhistory, ← holder]
        exact List.filterMap_cons_some hcommit
      rw [hcommits]
      exact .move hw hmove

/-! ## Whole runs -/

/-- How a prepared activation came to be gone in `w'`, which has the writer state `after`:
the last event is a batch of a call that names it. -/
inductive PendingGone (calls : ι → RouteCall) (pending : RoutePendingActivation)
    (w' : RouteWorld ι) (after : RouteWriterState) : Prop where
  | aborted {i : ι} {b : RouteBatch} {older : List (ι × RouteEvent)} {a : WriterArguments}
      {receipt : RouteWriterReceipt} (hhistory : w'.history = (i, .applied (.batch b)) :: older)
      (hcommit : b.commit? = some (.writer receipt after)) (hkind : receipt.kind = .abort)
      (hcall : calls i = .abortWriter a pending)
  | activated {i : ι} {b : RouteBatch} {older : List (ι × RouteEvent)} {a : ActivationArguments}
      {receipt : RouteTransitionReceipt} {head : ActiveRouteHead}
      (hhistory : w'.history = (i, .applied (.batch b)) :: older)
      (hcommit : b.commit? = some (.activation receipt head (some after)))
      (hcall : calls i = .activate a) (hoperation : pending.operationId = receipt.operationId)
      (happroval : pending.approval = head.approval)
      (hsnapshot : pending.snapshotSha256 = ⟨a.snapshot⟩)

theorem RouteInv.commit?_of_applied {b : RouteBatch} (h : RouteInv calls w)
    (hb : (i, RouteEvent.applied (.batch b)) ∈ w.history) : ∃ c, b.commit? = some c := by
  have hprepared := h.submitted i _ (h.applied i _ hb).1
  generalize hs : RouteSubmission.batch b = x at hprepared
  cases hprepared with
  | writer intent hp =>
      cases hs
      exact ⟨_, hp.commit?⟩
  | activation intent hp =>
      cases hs
      exact ⟨_, hp.commit?⟩
  | entity key document hp => cases hs

variable [DecidableEq ι] {self : RouteProjection} {s s' : RouteSystem ι}

theorem RouteSystem.Reachable.moved (h : s.Reachable self calls) : Moved s.world :=
  h.keeps .start fun _ _ => moved_step

end

/-! ## A publication -/

namespace RouteSample

def routeProjection : RouteProjection where
  target := ⟨"endpoint", "routes"⟩
  scope := routeScope
  uuid5 id text := id + text.length

theorem routeProfiles_valid :
    ([.openaiV1] : List RouteProfile) ≠ [] ∧ ([.openaiV1] : List RouteProfile).Nodup := by
  decide

theorem routeEpochs_valid : IsEpoch 0 ∧ IsEpoch 120 := by decide

theorem routeWindow_valid : (0 : ℤ) < 120 - 0 ∧ (120 : ℤ) - 0 ≤ 120 := by decide

def routeProof : ProgramCapabilityProof where
  proofId := 90
  identity := routeIdentity
  supportedProfiles := [.openaiV1]
  issuedEpoch := 0
  expiresEpoch := 120
  profiles := routeProfiles_valid
  epochs := routeEpochs_valid
  window := routeWindow_valid

def routePending : RoutePendingActivation := ⟨15, 0, routeConfiguration, ⟨routeSnapshot⟩, rfl⟩

def writerArguments (ownerToken operationId : UUID) (journal : JournalKind) : WriterArguments :=
  ⟨ownerToken, 5, operationId, operationId + 100, journal⟩

def activationArguments : ActivationArguments :=
  ⟨routeSnapshot, routeIdentity, routeProof, 8, 15, 115, none, .other, true⟩

/-- The calls of a publication, an abort and a takeover. -/
def publicationCalls : ℕ → RouteCall
  | 0 => .claimWriter (writerArguments 1 11 .other)
  | 1 => .stage routeSnapshot 0
  | 2 => .verifySliceRecorded routeSnapshot 0 0 3
  | 3 => .prepareWriter (writerArguments 1 12 .other) routePending
  | 4 => .activate activationArguments
  | 5 => .abortWriter (writerArguments 1 13 .other) routePending
  | _ => .takeoverWriter (writerArguments 2 14 .other)

def pairPending : RoutePendingActivation := ⟨25, 1, pairConfiguration, ⟨pairSnapshot⟩, rfl⟩

/-- The calls of a publication, and of a second one that adds a route. -/
def republicationCalls : ℕ → RouteCall
  | 7 => .stage pairSnapshot 1
  | 8 => .verifySliceRecorded pairSnapshot 1 0 6
  | 9 => .prepareWriter (writerArguments 1 22 .other) pairPending
  | 10 => .activate ⟨pairSnapshot, routeIdentity, routeProof, 8, 25, 125, some 6, .other, true⟩
  | i => publicationCalls i

/-- Client `i` makes its requests at instant `time`; `clocks` says which read the clock. -/
def turns {ι : Type} (i : ι) (time : ℤ) (clocks : List Bool) : List (Option ι × RouteLabel) :=
  clocks.map fun clock => (some i, if clock then .instant time else .plain)

/-- The claim is applied, and then the preparation. -/
def preparing : List (Option ℕ × RouteLabel) :=
  turns 0 0 [false, false, true, false, false, true, false] ++
    turns 3 1 [false, true, false, false, true, true, false]

/-- The takeover is applied. -/
def takingOver : List (Option ℕ × RouteLabel) :=
  turns 6 30 [false, true, false, false, true, false]

/-- The snapshot is staged and verified, and the activation is applied. -/
def activating : List (Option ℕ × RouteLabel) :=
  turns 1 0 (List.replicate 12 false) ++ turns 2 0 (List.replicate 6 false) ++
    turns 4 1 [false, true, false, false, false, true, false, false, true, false]

/-- The same for the second publication; the content of the first model is staged already. -/
def republishing : List (Option ℕ × RouteLabel) :=
  preparing ++ activating ++ turns 7 1 (List.replicate 22 false) ++
    turns 8 1 (List.replicate 9 false) ++
    turns 9 2 [false, true, false, false, true, true, false] ++
    turns 10 2 [false, true, false, false, false, true, false, false, true, false]

end RouteSample

/-! ## Results -/

section

variable {ι : Type} [DecidableEq ι] {calls : ι → RouteCall} {self : RouteProjection}
  {s s' : RouteSystem ι}

/-- The epoch of the writer counts the takeovers that were applied, and the writer was
claimed once. -/
theorem writerEpoch_counts_takeovers (h : s.Reachable self calls) :
    (∀ i b, (i, RouteEvent.applied (.batch b)) ∈ s.world.history → ∃ c, b.commit? = some c) ∧
    (s.world.writer? = none → (commitsOf s.world.history).countP (·.isClaim) = 0 ∧
      (commitsOf s.world.history).countP (·.isTakeover) = 0) ∧
    ∀ state, s.world.writer? = some state →
      (commitsOf s.world.history).countP (·.isClaim) = 1 ∧
      state.writerEpoch = 1 + (commitsOf s.world.history).countP (·.isTakeover) :=
  ⟨fun _ _ hb => h.inv.table.commit?_of_applied hb, h.moved.writerEpoch⟩

/-- After a claim, a preparation and a takeover the epoch is 2. -/
theorem writerEpoch_after_takeover : ∃ s,
    RouteSystem.Reachable RouteSample.routeProjection RouteSample.publicationCalls s ∧
      ∃ state, s.world.writer? = some state ∧ state.writerEpoch = 2 ∧
        state.writerEpoch = 1 + (commitsOf s.world.history).countP (·.isTakeover) := by
  obtain ⟨s, hrun, state, hstate, hepoch⟩ : ∃ s,
      (RouteSystem.start RouteSample.routeProjection RouteSample.publicationCalls).run?
        routeDynamics
        (RouteSample.preparing ++ RouteSample.takingOver) = some s ∧
      ∃ state, s.world.writer? = some state ∧ state.writerEpoch = 2 := ⟨_, rfl, _, rfl, rfl⟩
  have hreach : RouteSystem.Reachable RouteSample.routeProjection RouteSample.publicationCalls s :=
    Client.reaches_of_run? hrun
  exact ⟨s, hreach, state, hstate, hepoch,
    ((writerEpoch_counts_takeovers hreach).2.2 state hstate).2⟩

/-- The activations that were applied replaced the generations 0, 1, 2, ... in this order,
up to the one in the active row: no two have the same base. -/
theorem activations_replace_in_order (h : s.Reachable self calls) :
    (commitsOf s.world.history).filterMap (·.base?) =
      (List.range (headGeneration (s.world.table.rows (.root .active)))).reverse := by
  rw [← rows_generation]
  exact h.moved.bases

/-- After two publications there are two activations, that replaced the generations 0 and 1. -/
theorem activations_after_publication : ∃ s,
    RouteSystem.Reachable RouteSample.routeProjection RouteSample.republicationCalls s ∧
      (commitsOf s.world.history).filterMap (·.base?) = [1, 0] := by
  have hruns : ((RouteSystem.start RouteSample.routeProjection RouteSample.republicationCalls).run?
      routeDynamics RouteSample.republishing).map (fun s =>
        headGeneration (s.world.table.rows (.root .active))) = some 2 := rfl
  obtain ⟨s, hrun, hgeneration⟩ := Option.map_eq_some_iff.1 hruns
  have hreach :
      RouteSystem.Reachable RouteSample.routeProjection RouteSample.republicationCalls s :=
    Client.reaches_of_run? hrun
  refine ⟨s, hreach, ?_⟩
  rw [activations_replace_in_order hreach, hgeneration]
  rfl

/-- What the writer has prepared stays prepared in every step, until the batch of an abort
that names it or of the activation that it describes is applied. -/
theorem pending_activation_kept (h : s.Reachable self calls) {l : Option ι × RouteLabel}
    (hnext : s.next? routeDynamics l = some s') {before : RouteWriterState}
    (hwriter : s.world.writer? = some before) {pending : RoutePendingActivation}
    (hpending : before.pending = some pending) : ∃ after, s'.world.writer? = some after ∧
      (after.pending = some pending ∨
        after.pending = none ∧ PendingGone calls pending s'.world after) := by
  cases (h.step hnext).rows with
  | stay hrows hcommits =>
      refine ⟨before, ?_, .inl hpending⟩
      rw [← hwriter]
      exact congrArg RouteRows.writer hrows
  | move hhistory holder hcommit hmove =>
      obtain ⟨after, hafter, hcases⟩ := hmove.pending hwriter hpending
      refine ⟨after, hafter, ?_⟩
      rcases hcases with hsame | ⟨hnone, ⟨a, receipt, hcall, hkind, hc⟩ |
        ⟨a, receipt, head, hcall, hc, hoperation, happroval, hsnapshot⟩⟩
      · exact .inl hsame
      · rw [hc] at hcommit
        exact .inr ⟨hnone, .aborted hhistory hcommit hkind hcall⟩
      · rw [hc] at hcommit
        exact .inr ⟨hnone, .activated hhistory hcommit hcall hoperation happroval hsnapshot⟩

/-- The abort of a preparation is applied: what was prepared is gone. -/
theorem pending_activation_aborted : ∃ s s' after,
    RouteSystem.Reachable RouteSample.routeProjection RouteSample.publicationCalls s ∧
      s.next? routeDynamics (some 5, .plain) = some s' ∧ after.pending = none ∧
      PendingGone RouteSample.publicationCalls RouteSample.routePending s'.world after := by
  obtain ⟨s, s', before, hrun, hnext, hwriter, hpending, hgone⟩ : ∃ s s' before,
      (RouteSystem.start RouteSample.routeProjection RouteSample.publicationCalls).run?
        routeDynamics
        (RouteSample.preparing ++ RouteSample.turns 5 1 [false, true, false, false, true, true])
          = some s ∧
      s.next? routeDynamics (some 5, .plain) = some s' ∧ s.world.writer? = some before ∧
      before.pending = some RouteSample.routePending ∧
      s'.world.writer?.map (fun state => state.pending) = some none :=
    ⟨_, _, _, rfl, rfl, rfl, rfl, rfl⟩
  have hreach : RouteSystem.Reachable RouteSample.routeProjection RouteSample.publicationCalls s :=
    Client.reaches_of_run? hrun
  obtain ⟨after, hafter, hcases⟩ := pending_activation_kept hreach hnext hwriter hpending
  rw [hafter] at hgone
  have hnone : after.pending = none := Option.some.inj hgone
  rcases hcases with hsame | ⟨-, hcause⟩
  · rw [hnone] at hsame
    cases hsame
  · exact ⟨s, s', after, hreach, hnext, hnone, hcause⟩

end

end Turnstile
