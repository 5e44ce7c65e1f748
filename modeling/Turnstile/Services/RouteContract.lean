import Turnstile.Services.RouteWorkers

/-!
# What route workers keep to

`Continues` says what a later world has kept of an earlier one: rows evolve, only the
writer row and the active row are ever overwritten, and the history grows.  `Prepared`
says what a worker knows of the table when it sends a submission; all of it stays true in
later worlds, so it still holds when the submission is applied, however late that is.
-/

namespace Turnstile

open Guard

/-! ## Calls -/

/-- The row of the receipt of the operation that a call makes. -/
def RouteCall.receiptRow? : RouteCall → Option RouteRow
  | claimWriter a | takeoverWriter a | renewWriter a => some (.writerTransition a.operationId)
  | prepareWriter a _ | abortWriter a _ => some (.writerTransition a.operationId)
  | activate a => some (.transition a.operationId)
  | initializeEmptyScope _ _ _ operationId _ => some (.transition operationId)
  | _ => none

/-- The publication whose journal a call uses. -/
def RouteCall.publication? (c : RouteCall) : Option UUID :=
  let kind : JournalKind := match c with
    | claimWriter a | takeoverWriter a | renewWriter a => a.journal
    | prepareWriter a _ | abortWriter a _ => a.journal
    | activate a => a.journal
    | _ => .other
  match kind with
  | .persistent publicationId _ => some publicationId
  | .other => none

/-- What the callers promise of operation identifiers: operations with one identifier are
of one publication, or none of them is recorded in the journal of a publication. -/
def OperationIdsPromised {ι : Type} (calls : ι → RouteCall) : Prop :=
  ∀ i j row, (calls i).receiptRow? = some row → (calls j).receiptRow? = some row →
    (calls i).publication? = (calls j).publication?

/-! ## Rows -/

/-- A row that is never overwritten. -/
def RouteKey.Fixed (k : RouteKey) : Prop := k ≠ .root .writer ∧ k ≠ .root .active

/-- A row that is staged on its own, not by a batch. -/
def RouteKey.Staged (k : RouteKey) : Prop :=
  k ≠ .root .writer ∧ k ≠ .root .active ∧ (∀ id, k ≠ .root (.writerTransition id)) ∧
    ∀ id, k ≠ .root (.transition id)

/-- The rows that a batch names. -/
def RouteBatch.rows (b : RouteBatch) : List RouteRow := b.writes.map Write.key

theorem RouteBatch.mem_rows {b : RouteBatch} {row : RouteRow} :
    row ∈ b.rows ↔ ∃ x ∈ (RouteSubmission.batch b).writes, x.key = .root row := by
  simp [rows, RouteSubmission.writes, RouteKey.root]

section

variable {ι : Type}

/-! ## Later worlds -/

/-- `w'` is a later world than `w`, and `recent` is what happened in between. -/
structure Continues (w w' : RouteWorld ι) (recent : List (ι × RouteEvent)) : Prop where
  history : w'.history = recent ++ w.history
  table : w.table.Evolves w'.table
  fixed : ∀ k r, k.Fixed → w.table.rows k = some r → w'.table.rows k = some r
  alive : ∀ e ∈ recent, ∀ s, e.2 = .applied s → ¬w.table.Dead s.writes
  same : ∀ k, (∀ e ∈ recent, ∀ s, e.2 = .applied s → ∀ x ∈ s.writes, x.key ≠ k) →
    w'.table.rows k = w.table.rows k

theorem Continues.refl (w : RouteWorld ι) : Continues w w [] where
  history := rfl
  table := .refl _
  fixed _ _ _ h := h
  alive _ he := absurd he List.not_mem_nil
  same _ _ := rfl

theorem Continues.trans {w₁ w₂ w₃ : RouteWorld ι} {r₁ r₂ : List (ι × RouteEvent)}
    (h₁ : Continues w₁ w₂ r₁) (h₂ : Continues w₂ w₃ r₂) : Continues w₁ w₃ (r₂ ++ r₁) where
  history := by rw [h₂.history, h₁.history, List.append_assoc]
  table := h₁.table.trans h₂.table
  fixed k r hk hr := h₂.fixed k r hk (h₁.fixed k r hk hr)
  alive e he s hs hdead := by
    rcases List.mem_append.1 he with he | he
    · exact h₂.alive e he s hs (hdead.of_evolves h₁.table)
    · exact h₁.alive e he s hs hdead
  same k hk := by
    rw [h₂.same k fun e he => hk e (List.mem_append_left _ he),
      h₁.same k fun e he => hk e (List.mem_append_right _ he)]

theorem Continues.mem {w w' : RouteWorld ι} {recent : List (ι × RouteEvent)}
    (h : Continues w w' recent) {e : ι × RouteEvent} (he : e ∈ w.history) : e ∈ w'.history := by
  rw [h.history]
  exact List.mem_append_right _ he

/-- Events without a write. -/
theorem Continues.of_table {w w' : RouteWorld ι} {recent : List (ι × RouteEvent)}
    (htable : w'.table = w.table) (hhistory : w'.history = recent ++ w.history)
    (hrecent : ∀ e ∈ recent, ∀ s, e.2 ≠ .applied s) : Continues w w' recent where
  history := hhistory
  table := htable ▸ .refl _
  fixed _ _ _ h := htable ▸ h
  alive e he s hs := absurd hs (hrecent e he s)
  same _ _ := by rw [htable]

/-! ## What was read -/

/-- An entity was read back. -/
def ReadBack (w : RouteWorld ι) (e : RouteEntity) : Prop :=
  ∃ j r, (j, RouteEvent.observed e.key (some r)) ∈ w.history ∧ r.document = e.document

/-- The first entities of every snapshot with this digest were read back. -/
def Backed (w : RouteWorld ι) (digest : Sha256 RouteConfiguration) (cursor : ℕ) : Prop :=
  ∀ snapshot : RouteSnapshot, snapshot.configurationSha256 = digest →
    ∀ e ∈ snapshot.entities.take cursor, ReadBack w e

/-- Client `i` read the active row, and the row has not been written since unless an
applied submission wrote it. -/
def ClaimedOn (w : RouteWorld ι) (i : ι) (active : Option (ActiveRouteHead × ℕ)) : Prop :=
  let row : Option (Row RouteDocument) := active.map fun a => ⟨.record (.active a.1), a.2⟩
  ∃ recent older, w.history = recent ++ (i, .observed (.root .active) row) :: older ∧
    ((∀ e ∈ recent, ∀ s, e.2 = .applied s → ∀ x ∈ s.writes, x.key ≠ .root .active) →
      w.table.rows (.root .active) = row)

section Mono

variable {w w' : RouteWorld ι} {recent : List (ι × RouteEvent)} (h : Continues w w' recent)

include h

theorem ReadBack.mono {e : RouteEntity} (he : ReadBack w e) : ReadBack w' e := by
  obtain ⟨j, r, hr, hdocument⟩ := he
  exact ⟨j, r, h.mem hr, hdocument⟩

theorem Backed.mono {digest : Sha256 RouteConfiguration} {cursor : ℕ}
    (hb : Backed w digest cursor) :
    Backed w' digest cursor :=
  fun snapshot hs e he => (hb snapshot hs e he).mono h

theorem ClaimedOn.mono {i : ι} {active : Option (ActiveRouteHead × ℕ)} (hc : ClaimedOn w i active) :
    ClaimedOn w' i active := by
  obtain ⟨r, older, hhistory, hsame⟩ := hc
  refine ⟨recent ++ r, older, by rw [h.history, hhistory, List.append_assoc], fun hquiet => ?_⟩
  rw [h.same _ fun e he => hquiet e (List.mem_append_left _ he)]
  exact hsame fun e he => hquiet e (List.mem_append_right _ he)

end Mono

/-! ## Prepared submissions -/

variable (calls : ι → RouteCall)

/-- What is known of a writer intent when its batch is sent. -/
structure PreparedWriter (w : RouteWorld ι) (i : ι) (intent : RouteWriterIntent) : Prop where
  recorded : intent.toRecord = .ok intent
  row : (calls i).receiptRow? = some (.writerTransition intent.receipt.operationId)
  before : ∀ state, intent.before = some state → ∃ etag, intent.receipt.beforeEtag = some etag ∧
    w.table.Seen (.root .writer) ⟨.record (.writer state), etag⟩
  claimed : intent.before = none → ∃ active : Option (ActiveRouteHead × ℕ), ClaimedOn w i active ∧
    intent.after.activeGeneration = (active.map fun a => a.1.approval.generation).getD 0 ∧
    intent.after.activeVersion = active.map (fun a => a.1.approval.routeVersion) ∧
    intent.after.activeSha256 = active.map fun a => ⟨a.1⟩
  aborted : intent.receipt.kind = .abort → ∃ a pending, calls i = .abortWriter a pending ∧
    intent.before.bind (fun state => state.pending) = some pending

/-- What is known of an activation that a writer state is passed to. -/
structure PreparedUpdate (w : RouteWorld ι) (i : ι) (intent : RouteActivationIntent)
    (state : RouteWriterState) : Prop where
  seen : ∃ etag, intent.writerEtag = some etag ∧
    w.table.Seen (.root .writer) ⟨.record (.writer state), etag⟩
  call : ∃ a pending, calls i = .activate a ∧ a.withWriter = true ∧ state.pending = some pending ∧
    pending.snapshotSha256 = ⟨a.snapshot⟩ ∧ ∀ e ∈ a.snapshot.entities, ReadBack w e

/-- What is known of an activation intent when its batch is sent. -/
structure PreparedActivation (w : RouteWorld ι) (i : ι) (intent : RouteActivationIntent) :
    Prop where
  recorded : intent.toRecord = .ok intent
  row : (calls i).receiptRow? = some (.transition intent.receipt.operationId)
  active : ∀ etag, intent.receipt.beforeEtag = some etag → ∃ head,
    w.table.Seen (.root .active) ⟨.record (.active head), etag⟩ ∧
      head.approval.generation = intent.receipt.beforeGeneration
  writer : ∀ state, intent.writerBefore = some state → PreparedUpdate calls w i intent state
  backed : ∃ snapshot : RouteSnapshot, snapshot.approval = intent.head.approval ∧
    (∃ instant, snapshot.requireValid instant = .ok ()) ∧ ∀ e ∈ snapshot.entities, ReadBack w e

/-- What is known of an entity when it is staged. -/
structure PreparedEntity (w : RouteWorld ι) (k : RouteKey) : Prop where
  staged : k.Staged
  readback : ∀ digest cursor, k = .root (.readback digest cursor) → Backed w digest cursor

/-- What client `i` knows of a submission when it sends it. -/
inductive Prepared (w : RouteWorld ι) (i : ι) : RouteSubmission → Prop
  | writer (intent : RouteWriterIntent) (h : PreparedWriter calls w i intent) :
      Prepared w i (.batch intent.body)
  | activation (intent : RouteActivationIntent) (h : PreparedActivation calls w i intent) :
      Prepared w i (.batch intent.body)
  | entity (k : RouteKey) (d : RouteDocument) (h : PreparedEntity w k) : Prepared w i (.entity k d)

variable {calls}

theorem Prepared.mono {w w' : RouteWorld ι} {recent : List (ι × RouteEvent)}
    (h : Continues w w' recent) {i : ι} {s : RouteSubmission} (hs : Prepared calls w i s) :
    Prepared calls w' i s := by
  cases hs with
  | writer intent hp =>
      refine .writer intent { hp with before := ?_, claimed := ?_ }
      · intro state hstate
        obtain ⟨etag, hetag, hseen⟩ := hp.before state hstate
        exact ⟨etag, hetag, hseen.of_evolves h.table⟩
      · intro hnone
        obtain ⟨active, hactive, hfields⟩ := hp.claimed hnone
        exact ⟨active, hactive.mono h, hfields⟩
  | activation intent hp =>
      refine .activation intent { hp with active := ?_, writer := ?_, backed := ?_ }
      · intro etag hetag
        obtain ⟨head, hseen, hgeneration⟩ := hp.active etag hetag
        exact ⟨head, hseen.of_evolves h.table, hgeneration⟩
      · intro state hstate
        obtain ⟨⟨etag, hetag, hseen⟩, a, pending, hcall, hwriter, hpending, hsha, hread⟩ :=
          hp.writer state hstate
        exact ⟨⟨etag, hetag, hseen.of_evolves h.table⟩, a, pending, hcall, hwriter, hpending, hsha,
          fun e he => (hread e he).mono h⟩
      · obtain ⟨snapshot, happroval, hvalid, hread⟩ := hp.backed
        exact ⟨snapshot, happroval, hvalid, fun e he => (hread e he).mono h⟩
  | entity k d hp =>
      exact .entity k d { hp with readback :=
        fun digest cursor hk => (hp.readback digest cursor hk).mono h }

/-! ## What a prepared submission writes -/

theorem PreparedWriter.writes {w : RouteWorld ι} {i : ι} {intent : RouteWriterIntent}
    (h : PreparedWriter calls w i intent) : (RouteSubmission.batch intent.body).writes =
      [⟨.root .writer, .record (.writer intent.after), intent.receipt.beforeEtag⟩,
        ⟨.root (.writerTransition intent.receipt.operationId),
          .record (.writerReceipt intent.receipt), none⟩] := by
  rw [RouteSubmission.writes, (RouteWriterIntent.toRecord_eq_ok h.recorded).2.writes]
  rfl

theorem PreparedActivation.writes {w : RouteWorld ι} {i : ι} {intent : RouteActivationIntent}
    (h : PreparedActivation calls w i intent) : (RouteSubmission.batch intent.body).writes =
      ((intent.writerAfter.map fun after =>
        (⟨.root .writer, .record (.writer after), intent.writerEtag⟩ :
          Write RouteKey RouteDocument)).toList) ++
      [⟨.root .active, .record (.active intent.head), intent.receipt.beforeEtag⟩,
        ⟨.root (.transition intent.receipt.operationId), .record (.receipt intent.receipt),
          none⟩] := by
  rw [RouteSubmission.writes, (RouteActivationIntent.toRecord_eq_ok h.recorded).2.writes,
    RouteActivationIntent.writerWrites]
  cases intent.writerAfter <;> rfl

/-- A batch has one receipt, and that in the row of the call. -/
theorem Prepared.receipt {w : RouteWorld ι} {i : ι} {b : RouteBatch}
    (h : Prepared calls w i (.batch b)) : ∃ row, (calls i).receiptRow? = some row ∧ row ∈ b.rows ∧
      ∀ row' ∈ b.rows, row' = row ∨ row' = .writer ∨ row' = .active := by
  generalize hs : RouteSubmission.batch b = s at h
  cases h with
  | writer intent hp =>
      cases hs
      refine ⟨_, hp.row, ?_⟩
      simp only [RouteBatch.mem_rows, hp.writes]
      simp only [RouteKey.root, List.mem_cons, List.not_mem_nil, or_false]
      grind
  | activation intent hp =>
      cases hs
      refine ⟨_, hp.row, ?_⟩
      simp only [RouteBatch.mem_rows, hp.writes]
      cases intent.writerAfter <;>
        simp only [RouteKey.root, Option.map_none, Option.map_some, Option.toList_none,
          Option.toList_some, List.cons_append, List.nil_append, List.mem_cons, List.not_mem_nil,
          or_false] <;> grind
  | entity k d hp => cases hs

/-- Only the writer row and the active row are written over a row. -/
theorem Prepared.ifMatch {w : RouteWorld ι} {i : ι} {s : RouteSubmission}
    (h : Prepared calls w i s) {x : Write RouteKey RouteDocument} (hx : x ∈ s.writes)
    (hk : x.key.Fixed) : x.ifMatch = none := by
  cases h with
  | writer intent hp =>
      rw [hp.writes] at hx
      rcases List.mem_cons.1 hx with rfl | hx
      · exact absurd rfl hk.1
      · rw [List.mem_singleton.1 hx]
  | activation intent hp =>
      rw [hp.writes] at hx
      rcases List.mem_append.1 hx with hx | hx
      · obtain ⟨after, -, rfl⟩ := Option.map_eq_some_iff.1 (Option.mem_toList.1 hx)
        exact absurd rfl hk.1
      rcases List.mem_cons.1 hx with rfl | hx
      · exact absurd rfl hk.2
      · rw [List.mem_singleton.1 hx]
  | entity k d hp => rw [List.mem_singleton.1 hx]

/-! ## The invariant of the table -/

variable (calls)

/-- What holds of the table, of what is in flight and of the history. -/
structure RouteInv (w : RouteWorld ι) : Prop where
  wellTagged : w.table.WellTagged
  submitted : ∀ i s, (i, RouteEvent.sent s) ∈ w.history → Prepared calls w i s
  pool : ∀ i s, (i, s) ∈ w.pool → (i, RouteEvent.sent s) ∈ w.history
  applied : ∀ i s, (i, RouteEvent.applied s) ∈ w.history → (i, RouteEvent.sent s) ∈ w.history ∧
    ∀ x ∈ s.writes, w.table.rows x.key ≠ none
  source : ∀ k r, w.table.rows k = some r → ∃ i s, (i, RouteEvent.applied s) ∈ w.history ∧
    ∃ x ∈ s.writes, x.key = k ∧ x.document = r.document
  observed : ∀ i k r, k.Fixed → (i, RouteEvent.observed k (some r)) ∈ w.history →
    w.table.rows k = some r

variable {calls}

theorem RouteInv.empty : RouteInv calls (RouteWorld.empty : RouteWorld ι) where
  wellTagged _ _ h := nomatch h
  submitted _ _ h := nomatch h
  pool _ _ h := nomatch h
  applied _ _ h := nomatch h
  source _ _ h := nomatch h
  observed _ _ _ _ h := nomatch h

/-- Events without a write keep the invariant, when what is sent is prepared and what is
read is what is stored. -/
theorem RouteInv.quiet {w w' : RouteWorld ι} {recent : List (ι × RouteEvent)}
    (h : RouteInv calls w) (htable : w'.table = w.table)
    (hhistory : w'.history = recent ++ w.history)
    (hpool : ∀ i s, (i, s) ∈ w'.pool → (i, s) ∈ w.pool ∨ (i, RouteEvent.sent s) ∈ recent)
    (happlied : ∀ e ∈ recent, ∀ s, e.2 ≠ .applied s)
    (hsent : ∀ i s, (i, RouteEvent.sent s) ∈ recent → Prepared calls w i s)
    (hobserved : ∀ i k r, (i, RouteEvent.observed k (some r)) ∈ recent → w.table.rows k = some r) :
    RouteInv calls w' := by
  have hcontinues : Continues w w' recent := .of_table htable hhistory happlied
  constructor
  · rw [htable]
    exact h.wellTagged
  · intro i s hs
    rw [hhistory] at hs
    rcases List.mem_append.1 hs with hs | hs
    · exact (hsent i s hs).mono hcontinues
    · exact (h.submitted i s hs).mono hcontinues
  · intro i s hs
    rcases hpool i s hs with hs | hs
    · exact hcontinues.mem (h.pool i s hs)
    · rw [hhistory]
      exact List.mem_append_left _ hs
  · intro i s hs
    rw [hhistory] at hs
    rcases List.mem_append.1 hs with hs | hs
    · exact absurd rfl (happlied _ hs s)
    · obtain ⟨hsent, hrows⟩ := h.applied i s hs
      exact ⟨hcontinues.mem hsent, htable ▸ hrows⟩
  · intro k r hr
    rw [htable] at hr
    obtain ⟨i, s, hs, hx⟩ := h.source k r hr
    exact ⟨i, s, hcontinues.mem hs, hx⟩
  · intro i k r hk hs
    rw [hhistory] at hs
    rw [htable]
    rcases List.mem_append.1 hs with hs | hs
    · exact hobserved i k r hs
    · exact h.observed i k r hk hs

/-- Applying a prepared submission continues the world. -/
theorem Prepared.continues_commit {w w' : RouteWorld ι} {i : ι} {s : RouteSubmission}
    (hs : Prepared calls w' i s) (hadmits : w.table.Admits s.writes) :
    Continues w (w.commit i s) [(i, .applied s)] where
  history := rfl
  table := w.table.evolves_apply _
  fixed k r hk hr := by
    show (w.table.apply s.writes).rows k = some r
    rw [Table.apply_rows_of_not_mem, hr]
    intro x hx hkey
    subst hkey
    have htag := hadmits x hx
    rw [hs.ifMatch hx hk, Table.etag?_eq_none, hr] at htag
    cases htag
  alive e he s' hs' hdead := by
    obtain rfl := List.mem_singleton.1 he
    cases hs'
    exact hdead.not_admits hadmits
  same k hk := Table.apply_rows_of_not_mem (hk _ (List.mem_singleton_self _) s rfl)

/-- Applying a submission that was sent continues the world. -/
theorem RouteInv.continues_commit {w : RouteWorld ι} (h : RouteInv calls w) {i : ι}
    {s : RouteSubmission} (hs : (i, RouteEvent.sent s) ∈ w.history)
    (hadmits : w.table.Admits s.writes) : Continues w (w.commit i s) [(i, .applied s)] :=
  (h.submitted i s hs).continues_commit hadmits

/-- Applying a submission that was sent keeps the invariant. -/
theorem RouteInv.commit {w : RouteWorld ι} (h : RouteInv calls w) {i : ι} {s : RouteSubmission}
    (hs : (i, RouteEvent.sent s) ∈ w.history) (hadmits : w.table.Admits s.writes) :
    RouteInv calls (w.commit i s) := by
  have hcontinues := h.continues_commit hs hadmits
  constructor
  · exact h.wellTagged.apply _
  · intro j s' hs'
    have hold : (j, RouteEvent.sent s') ∈ w.history := by simpa [RouteWorld.commit] using hs'
    exact (h.submitted j s' hold).mono hcontinues
  · exact fun j s' hs' => hcontinues.mem (h.pool j s' hs')
  · intro j s' hs'
    rcases List.mem_cons.1 hs' with heq | hs'
    · cases heq
      refine ⟨hcontinues.mem hs, fun x hx hnone => ?_⟩
      have hfind : (s.writes.find? fun y => y.key = x.key) ≠ none := by
        simp only [ne_eq, List.find?_eq_none, decide_eq_true_eq, not_forall, not_not]
        exact ⟨x, hx, rfl⟩
      obtain ⟨y, hy⟩ := Option.ne_none_iff_exists'.1 hfind
      simp [RouteWorld.commit, Table.apply, hy] at hnone
    · obtain ⟨hsent, hrows⟩ := h.applied j s' hs'
      exact ⟨hcontinues.mem hsent, fun x hx => Table.apply_rows_ne_none (hrows x hx)⟩
  · intro k r hr
    rcases Table.apply_rows_cases hr with hold | ⟨x, hx, hkey, rfl⟩
    · obtain ⟨j, s', hs', hx⟩ := h.source k r hold
      exact ⟨j, s', hcontinues.mem hs', hx⟩
    · exact ⟨i, s, List.mem_cons_self, x, hx, hkey, rfl⟩
  · intro j k r hk hr
    have hold : (j, RouteEvent.observed k (some r)) ∈ w.history := by
      simpa [RouteWorld.commit] using hr
    exact hcontinues.fixed k r hk (h.observed j k r hk hold)

/-- A readback receipt is in the table only when what it says was read back. -/
theorem RouteInv.backed {w : RouteWorld ι} (h : RouteInv calls w)
    {digest : Sha256 RouteConfiguration} {cursor : ℕ} {r : Row RouteDocument}
    (hr : w.table.rows (.root (.readback digest cursor)) = some r) : Backed w digest cursor := by
  obtain ⟨i, s, hs, x, hx, hkey, -⟩ := h.source _ _ hr
  have hp := h.submitted i s (h.applied i s hs).1
  cases hp with
  | writer intent hp =>
      rw [hp.writes] at hx
      rcases List.mem_cons.1 hx with rfl | hx
      · cases hkey
      · obtain rfl := List.mem_singleton.1 hx
        cases hkey
  | activation intent hp =>
      rw [hp.writes] at hx
      rcases List.mem_append.1 hx with hx | hx
      · obtain ⟨after, -, rfl⟩ := Option.map_eq_some_iff.1 (Option.mem_toList.1 hx)
        cases hkey
      rcases List.mem_cons.1 hx with rfl | hx
      · cases hkey
      · obtain rfl := List.mem_singleton.1 hx
        cases hkey
  | entity k d hp =>
      obtain rfl := List.mem_singleton.1 hx
      exact hp.readback digest cursor hkey

end

end Turnstile
