import Mathlib.Data.Prod.Lex
import Turnstile.Foundation.Selection
import Turnstile.Persistence.BudgetEvidence

/-!
# The order of budget evidence

`_strict_budget_choices` is a fold over the stored pieces, in the order of its three
loops and in the order of arrival within each.  For every request it keeps the first
best candidate (`lookup_strictBudgetChoices`).  Which pieces are candidates does not
depend on the order of arrival (`Reordered.candidates_perm`).

The database orders the candidates totally: by rank, by the time received, and then by
`evidence_order` and `evidence_key`.  `budget_evidence_selected` takes the first one of
every request.

The two agree in every order of arrival just when ties do not matter
(`selects_as_database_iff`): of the candidates of the highest rank received earliest,
all that the first loop to have one may meet first report what the database selects.
-/

namespace Turnstile

open Guard

namespace EvidenceStore

variable (store : EvidenceStore) (now : Int) (scope : EvidenceScope)

/-! ## Candidates -/

/-- What the loops accept a piece for, if its request is strict. -/
def strictAccepted? (piece : Piece) : Option Accepted :=
  match store.accepted? now scope piece with
  | .ok (some item) => if store.strict now item.admitted = true then some item else none
  | _ => none

/-- A piece of strict evidence. -/
structure Candidate where
  piece : Piece
  reading : Reading

def candidate? (piece : Piece) : Option Candidate :=
  (store.strictAccepted? now scope piece).map fun item => ⟨piece, item.toReading⟩

/-- The candidates for all requests of a scope, in the order of the loops. -/
def candidates : List Candidate :=
  store.pieces.filterMap (store.candidate? now scope)

/-- Least for the highest rank received earliest. -/
def Reading.key (reading : Reading) : ℕᵒᵈ ×ₗ ℤ :=
  toLex (OrderDual.toDual reading.rank, reading.receivedAt)

theorem Reading.key_lt_iff {a b : Reading} :
    a.key < b.key ↔ b.rank < a.rank ∨ a.rank = b.rank ∧ a.receivedAt < b.receivedAt := by
  rw [Reading.key, Reading.key, Prod.Lex.toLex_lt_toLex]
  exact Iff.rfl

/-! ## The loops keep the first best -/

variable {store now scope}

/-- A piece is a candidate by what the loops read off it, and whether they accept it. -/
theorem candidate?_eq_accepted? {piece : Piece} :
    store.candidate? now scope piece =
      match (store.accepted? now scope piece).map
        (Option.map fun item => (item.toReading, store.strict now item.admitted)) with
      | .ok (some (reading, true)) => some ⟨piece, reading⟩
      | _ => none := by
  rw [candidate?, strictAccepted?]
  cases store.accepted? now scope piece with
  | error error => rfl
  | ok item? =>
      cases item? with
      | none => rfl
      | some item =>
          dsimp only [Except.map, Option.map]
          cases store.strict now item.admitted <;> rfl

theorem accept_eq_keep {choices : Choices} {item : Accepted}
    (hstrict : store.strict now item.admitted = true) :
    store.accept now choices item =
      Selection.keep (·.identity) (·.toReading.key) choices item := by
  rw [accept, if_neg (by rw [hstrict]; exact Bool.noConfusion), Selection.keep]
  cases choices.lookup item.identity with
  | none => rfl
  | some previous => exact if_congr Reading.key_lt_iff.symm rfl rfl

/-- Of what the loops accept, the strict evidence is kept. -/
theorem foldl_accept {l : List Accepted} {choices : Choices} :
    l.foldl (store.accept now) choices =
      (l.filter fun item => store.strict now item.admitted).foldl
        (Selection.keep (·.identity) (·.toReading.key)) choices := by
  induction l generalizing choices with
  | nil => rfl
  | cons item l ih =>
      rw [List.foldl_cons, ih]
      by_cases hstrict : store.strict now item.admitted = true
      · rw [accept_eq_keep hstrict, List.filter_cons, if_pos hstrict, List.foldl_cons]
      · have hskip : store.accept now choices item = choices :=
          if_pos (Bool.eq_false_iff.2 hstrict)
        rw [hskip, List.filter_cons, if_neg hstrict]

theorem strictAccepted?_eq {piece : Piece} :
    store.strictAccepted? now scope piece =
      (passed (store.accepted? now scope) piece).filter
        fun item => store.strict now item.admitted := by
  rw [strictAccepted?, passed]
  cases store.accepted? now scope piece with
  | error error => rfl
  | ok item? =>
      cases item? with
      | none => rfl
      | some item =>
          dsimp only
          rw [Option.filter_some]

/-- The loops fail on an ambiguous binding, and else keep what is strict. -/
theorem strictBudgetChoices_eq_ok {choices : Choices} :
    store.strictBudgetChoices now scope = .ok choices ↔
      (∀ piece ∈ store.pieces, ∃ item, store.accepted? now scope piece = .ok item) ∧
        choices = (store.pieces.filterMap (store.strictAccepted? now scope)).foldl
          (Selection.keep (·.identity) (·.toReading.key)) ∅ := by
  have hstrict : store.pieces.filterMap (store.strictAccepted? now scope) =
      (store.pieces.filterMap (passed (store.accepted? now scope))).filter
        fun item => store.strict now item.admitted := by
    rw [List.filter_filterMap]
    exact List.filterMap_congr fun piece _ => strictAccepted?_eq
  rw [strictBudgetChoices, foldChecked_eq_ok, foldl_accept, hstrict]

/-- The readings of the candidates. -/
theorem map_reading_candidates :
    (store.candidates now scope).map (·.reading) =
      (store.pieces.filterMap (store.strictAccepted? now scope)).map (·.toReading) := by
  rw [candidates, List.map_filterMap, List.map_filterMap]
  refine congrArg (fun f => store.pieces.filterMap f) (funext fun piece => ?_)
  rw [candidate?, Option.map_map]
  rfl

/-- For every request the loops keep the first best candidate. -/
theorem lookup_strictBudgetChoices {choices : Choices}
    (hok : store.strictBudgetChoices now scope = .ok choices) (i : Text) :
    (choices.lookup i).map (·.toReading) =
      (((store.candidates now scope).filter fun c => decide (c.reading.identity = i)).argmin
        fun c => c.reading.key).map (·.reading) := by
  obtain ⟨-, rfl⟩ := strictBudgetChoices_eq_ok.1 hok
  rw [Selection.lookup_foldl_keep]
  have hargmin : ∀ {β : Type} (f : β → Reading) (p : Reading → Bool) (l : List β),
      ((l.map f).filter p).argmin Reading.key =
        ((l.filter (p ∘ f)).argmin (Reading.key ∘ f)).map f :=
    fun f p l => Selection.argmin_filter_map f p l
  have haccepted := hargmin
    (fun item : Accepted => item.toReading) (fun reading => decide (reading.identity = i))
    (store.pieces.filterMap (store.strictAccepted? now scope))
  have hcandidates := hargmin
    (fun c : Candidate => c.reading) (fun reading => decide (reading.identity = i))
    (store.candidates now scope)
  rw [map_reading_candidates] at hcandidates
  exact haccepted.symm.trans hcandidates

/-! ## Any order of arrival -/

/-- The same evidence, stored in another order. -/
structure Reordered (store store' : EvidenceStore) : Prop where
  attempts : store'.billableRequests.Perm store.billableRequests
  finalizations :
    store'.budgetReservationFinalizations.Perm store.budgetReservationFinalizations
  usage : store'.usageRecords.Perm store.usageRecords
  policy : store'.evidencePolicyEffectiveAt = store.evidencePolicyEffectiveAt
  admissions : store'.budgetReservationAdmissions = store.budgetReservationAdmissions
  received : store'.budgetEvidenceReceivedAt = store.budgetEvidenceReceivedAt
  reconciled : store'.reconciledUsageIds = store.reconciledUsageIds
  attributions : store'.usageApplicationAttributions = store.usageApplicationAttributions

/-- The reservations that were finalized in a scope are strict. -/
def StrictFinalizations (store : EvidenceStore) (now : Int) (scope : EvidenceScope) : Prop :=
  ∀ item ∈ store.budgetReservationFinalizations, item.scope = scope →
    store.strict now item.reservationCreatedAt = true

/-- The store with its pieces in another order. -/
def arrange (store : EvidenceStore) {attempts : List BillableRequestAttempt}
    {finalizations : List BudgetReservationFinalization} {usage : List TokenUsageRecord}
    (hattempts : attempts.Perm store.billableRequests)
    (hfinalizations : finalizations.Perm store.budgetReservationFinalizations)
    (husage : usage.Perm store.usageRecords) : EvidenceStore :=
  { store with
    billableRequests := attempts
    budgetReservationFinalizations := finalizations
    usageRecords := usage
    attempts_nodup := (hattempts.map _).nodup_iff.2 store.attempts_nodup
    finalizations_nodup := (hfinalizations.map _).nodup_iff.2 store.finalizations_nodup
    usage_nodup := (husage.map _).nodup_iff.2 store.usage_nodup }

namespace Reordered

theorem arrange {attempts : List BillableRequestAttempt}
    {finalizations : List BudgetReservationFinalization} {usage : List TokenUsageRecord}
    (hattempts : attempts.Perm store.billableRequests)
    (hfinalizations : finalizations.Perm store.budgetReservationFinalizations)
    (husage : usage.Perm store.usageRecords) :
    Reordered store (store.arrange hattempts hfinalizations husage) :=
  ⟨hattempts, hfinalizations, husage, rfl, rfl, rfl, rfl, rfl⟩

variable {store' : EvidenceStore} {correlationId : Text} {fallback : Int}

theorem strict_eq (h : Reordered store store') (admittedAt : Int) :
    store'.strict now admittedAt = store.strict now admittedAt := by
  rw [strict, strict, h.policy]

theorem budgetBoundAttempt_eq (h : Reordered store store') (correlationId : Text) :
    store'.budgetBoundAttempt now scope correlationId =
      store.budgetBoundAttempt now scope correlationId := by
  have htest : (fun a => decide (store'.BoundTo now scope correlationId a)) =
      fun a => decide (store.BoundTo now scope correlationId a) := by
    funext a
    exact decide_eq_decide.2 (by rw [BoundTo, BoundTo, h.strict_eq])
  have hperm := h.attempts.filter fun a => decide (store.BoundTo now scope correlationId a)
  rw [budgetBoundAttempt, budgetBoundAttempt, htest]
  generalize store'.billableRequests.filter _ = l' at hperm
  generalize store.billableRequests.filter _ = l at hperm
  match l, hperm with
  | [], hperm => rw [List.perm_nil.1 hperm]
  | [attempt], hperm => rw [List.perm_singleton.1 hperm]
  | a :: b :: l, hperm =>
      obtain ⟨a', b', t', rfl⟩ : ∃ a' b' t', l' = a' :: b' :: t' := by
        have hlength := hperm.length_eq
        match l', hlength with
        | a' :: b' :: t', _ => exact ⟨a', b', t', rfl⟩
      rfl

/-- Whether a reservation is strict can be read off any of its finalizations. -/
theorem recovery_strict (h : Reordered store store')
    (hstrict : store.StrictFinalizations now scope) :
    (match store'.budgetReservationFinalizations.find? fun item =>
        item.scope = scope ∧ item.correlationId = correlationId with
      | some item => pure item.reservationCreatedAt
      | none => pure fallback : Except EvidenceError Int).map (store.strict now) =
    (match store.budgetReservationFinalizations.find? fun item =>
        item.scope = scope ∧ item.correlationId = correlationId with
      | some item => pure item.reservationCreatedAt
      | none => pure fallback : Except EvidenceError Int).map (store.strict now) := by
  cases hfound : store.budgetReservationFinalizations.find? fun item =>
      item.scope = scope ∧ item.correlationId = correlationId with
  | none =>
      have hfound' : (store'.budgetReservationFinalizations.find? fun item =>
          item.scope = scope ∧ item.correlationId = correlationId) = none :=
        List.find?_eq_none.2 fun item hitem =>
          List.find?_eq_none.1 hfound item (h.finalizations.mem_iff.1 hitem)
      rw [hfound']
  | some item =>
      have hitem := List.mem_of_find?_eq_some hfound
      have hkey : item.scope = scope ∧ item.correlationId = correlationId := by
        simpa using List.find?_some hfound
      obtain ⟨item', hfound'⟩ : ∃ item', (store'.budgetReservationFinalizations.find? fun item =>
          item.scope = scope ∧ item.correlationId = correlationId) = some item' := by
        rw [← Option.isSome_iff_exists, List.find?_isSome]
        exact ⟨item, h.finalizations.mem_iff.2 hitem, decide_eq_true hkey⟩
      have hitem' := h.finalizations.mem_iff.1 (List.mem_of_find?_eq_some hfound')
      have hkey' : item'.scope = scope ∧ item'.correlationId = correlationId := by
        simpa using List.find?_some hfound'
      rw [hfound']
      exact congrArg Except.ok
        ((hstrict item' hitem' hkey'.1).trans (hstrict item hitem hkey.1).symm)

theorem budgetAdmittedAt_strict (h : Reordered store store')
    (hstrict : store.StrictFinalizations now scope) :
    (store'.budgetAdmittedAt now scope correlationId fallback).map (store'.strict now) =
      (store.budgetAdmittedAt now scope correlationId fallback).map (store.strict now) := by
  rw [budgetAdmittedAt, budgetAdmittedAt, h.budgetBoundAttempt_eq, h.admissions,
    funext h.strict_eq]
  cases store.budgetBoundAttempt now scope correlationId with
  | error error => rfl
  | ok attempt? =>
      cases attempt? with
      | some attempt => rfl
      | none =>
          simp only [bind, Except.bind]
          cases store.budgetReservationAdmissions scope correlationId with
          | some createdAt => rfl
          | none => exact h.recovery_strict hstrict

theorem find?_recordOf (h : Reordered store store') (record : TokenUsageRecord) :
    (store'.billableRequests.find? fun attempt => RecordOf record scope attempt) =
      store.billableRequests.find? fun attempt => RecordOf record scope attempt := by
  refine Selection.find?_of_perm h.attempts fun a ha b hb hof hof' => ?_
  have hid : Text.ofUuid a.id = Text.ofUuid b.id :=
    (of_decide_eq_true hof).1.symm.trans (of_decide_eq_true hof').1
  exact List.inj_on_of_nodup_map store'.attempts_nodup ha hb (Text.uuid.inj hid).1

theorem budgetRecordIdentity_strict (h : Reordered store store')
    (hstrict : store.StrictFinalizations now scope) (record : TokenUsageRecord) :
    (store'.budgetRecordIdentity now record scope).map
        (fun found => (found.1, store'.strict now found.2)) =
      (store.budgetRecordIdentity now record scope).map
        fun found => (found.1, store.strict now found.2) := by
  rw [budgetRecordIdentity, budgetRecordIdentity, h.find?_recordOf]
  cases store.billableRequests.find? fun attempt => RecordOf record scope attempt with
  | some attempt => exact congrArg (fun strict => Except.ok (_, strict)) (h.strict_eq _)
  | none =>
      dsimp only
      exact map_bind_congr (record.correlationId, ·) (h.budgetAdmittedAt_strict hstrict)
        (fun _ => rfl) fun _ => rfl

theorem recordMatches_eq (h : Reordered store store') (record : TokenUsageRecord) :
    store'.recordMatches record scope = store.recordMatches record scope := by
  have hany : (store'.billableRequests.any fun attempt => RecordOf record scope attempt) =
      store.billableRequests.any fun attempt => RecordOf record scope attempt := by
    rw [Bool.eq_iff_iff, List.any_eq_true, List.any_eq_true]
    exact exists_congr fun attempt => and_congr_left fun _ => h.attempts.mem_iff
  unfold recordMatches
  rw [h.attributions, hany]

/-- What the loops read off a piece, and whether they accept it. -/
theorem accepted?_strict (h : Reordered store store')
    (hstrict : store.StrictFinalizations now scope) (piece : Piece) :
    (store'.accepted? now scope piece).map
        (Option.map fun item => (item.toReading, store'.strict now item.admitted)) =
      (store.accepted? now scope piece).map
        (Option.map fun item => (item.toReading, store.strict now item.admitted)) := by
  cases piece with
  | attempt attempt =>
      rw [funext h.strict_eq]
      rfl
  | finalization item =>
      simp only [accepted?, h.budgetBoundAttempt_eq, h.received]
      split
      · cases store.budgetBoundAttempt now scope item.correlationId with
        | error error => rfl
        | ok attempt? =>
            exact map_bind_congr (fun strict => some (_, strict))
              (h.budgetAdmittedAt_strict hstrict) (fun _ => rfl) fun _ => rfl
      · rfl
  | usage record =>
      simp only [accepted?, h.recordMatches_eq, h.reconciled, h.received]
      split
      · cases canonicalBudgetTokens record (store.reconciledUsageIds record.id) with
        | none => rfl
        | some tokens =>
            exact map_bind_congr (fun found => some (⟨found.1, tokens, _, _⟩, found.2))
              (h.budgetRecordIdentity_strict hstrict record) (fun _ => rfl) fun _ => rfl
      · rfl

theorem candidate?_eq (h : Reordered store store') (hstrict : store.StrictFinalizations now scope)
    (piece : Piece) : store'.candidate? now scope piece = store.candidate? now scope piece := by
  rw [candidate?_eq_accepted?, candidate?_eq_accepted?, h.accepted?_strict hstrict]

/-- The loops return in every order or in none. -/
theorem accepted?_returns (h : Reordered store store')
    (hstrict : store.StrictFinalizations now scope) (piece : Piece) :
    (∃ item, store'.accepted? now scope piece = .ok item) ↔
      ∃ item, store.accepted? now scope piece = .ok item := by
  rw [← map_returns, h.accepted?_strict hstrict, map_returns]

theorem pieces_perm (h : Reordered store store') : store'.pieces.Perm store.pieces :=
  ((h.attempts.map _).append (h.finalizations.map _)).append (h.usage.map _)

theorem candidates_perm (h : Reordered store store')
    (hstrict : store.StrictFinalizations now scope) :
    (store'.candidates now scope).Perm (store.candidates now scope) := by
  rw [candidates, candidates, funext (h.candidate?_eq hstrict)]
  exact h.pieces_perm.filterMap _

theorem returns (h : Reordered store store') (hstrict : store.StrictFinalizations now scope)
    {choices : Choices} (hok : store.strictBudgetChoices now scope = .ok choices) :
    ∃ choices', store'.strictBudgetChoices now scope = .ok choices' := by
  obtain ⟨hreturns, -⟩ := strictBudgetChoices_eq_ok.1 hok
  refine ⟨_, strictBudgetChoices_eq_ok.2 ⟨fun piece hpiece => ?_, rfl⟩⟩
  exact (h.accepted?_returns hstrict piece).2 (hreturns piece (h.pieces_perm.mem_iff.1 hpiece))

end Reordered

/-! ## The database -/

/-- A value of `evidence_key`. -/
inductive CandidateKey where
  | usage (id : Text)
  | ack (id : UUID)
  | recovery (id : ℕ)
deriving DecidableEq

/-- The `evidence_key` of a piece, given the ids of the recovery rows. -/
def Piece.evidenceKey (recoveryId : BudgetReservationFinalization → ℕ) : Piece → CandidateKey
  | .attempt row => .ack row.id
  | .finalization row => .recovery (recoveryId row)
  | .usage row => .usage row.id

/-- The `evidence_order` of a piece. -/
def Piece.evidenceOrder (recoveryId : BudgetReservationFinalization → ℕ) : Piece → ℕ
  | .finalization row => recoveryId row
  | _ => 0

/-- What the database adds to the evidence of a store: the identity column of the
finalizations and the collation of `evidence_key`. -/
structure EvidenceDatabase (store : EvidenceStore) (κ : Type) [LinearOrder κ] where
  recoveryId : BudgetReservationFinalization → ℕ
  recoveryId_pos : ∀ item ∈ store.budgetReservationFinalizations, 0 < recoveryId item
  recoveryId_inj : ∀ a ∈ store.budgetReservationFinalizations,
    ∀ b ∈ store.budgetReservationFinalizations, recoveryId a = recoveryId b → a = b
  collate : CandidateKey → κ
  collate_inj : ∀ a ∈ store.pieces, ∀ b ∈ store.pieces,
    collate (a.evidenceKey recoveryId) = collate (b.evidenceKey recoveryId) →
      a.evidenceKey recoveryId = b.evidenceKey recoveryId

variable {κ : Type} [LinearOrder κ]

/-- The `ORDER BY` of `budget_evidence_selected` within a request. -/
def EvidenceDatabase.key (database : EvidenceDatabase store κ) (c : Candidate) :
    (ℕᵒᵈ ×ₗ ℤ) ×ₗ ℕ ×ₗ κ :=
  toLex (c.reading.key, toLex (c.piece.evidenceOrder database.recoveryId,
    database.collate (c.piece.evidenceKey database.recoveryId)))

/-- The candidates for a request. -/
def candidatesFor (store : EvidenceStore) (now : Int) (scope : EvidenceScope) (i : Text) :
    List Candidate :=
  (store.candidates now scope).filter fun c => decide (c.reading.identity = i)

/-- The row of `budget_evidence_selected` for a request. -/
def budgetEvidenceSelected (store : EvidenceStore) (now : Int) (scope : EvidenceScope)
    (database : EvidenceDatabase store κ) (i : Text) : Option Candidate :=
  (store.candidatesFor now scope i).argmin database.key

/-- The three loops, in their order. -/
def Piece.loop : Piece → ℕ
  | .attempt _ => 0
  | .finalization _ => 1
  | .usage _ => 2

/-- Least for a candidate that the loops may meet first among the best. -/
def Candidate.readKey (c : Candidate) : (ℕᵒᵈ ×ₗ ℤ) ×ₗ ℕ :=
  toLex (c.reading.key, c.piece.loop)

/-- The choice is the one of the database, in any order of arrival and whatever
evidence of a lower rank there is besides. -/
structure SelectsAsDatabase (store : EvidenceStore) (now : Int) (scope : EvidenceScope)
    (database : EvidenceDatabase store κ) : Prop where
  reordered : ∀ store', Reordered store store' →
    ∃ choices, store'.strictBudgetChoices now scope = .ok choices ∧
      ∀ i, (choices.lookup i).map (·.tokens) =
        (store.budgetEvidenceSelected now scope database i).map (·.reading.tokens)
  lower : ∀ (store' : EvidenceStore) c before after (choices choices' : Choices) i item,
    store.candidates now scope = before ++ after →
    store'.candidates now scope = before ++ c :: after →
    store.strictBudgetChoices now scope = .ok choices →
    store'.strictBudgetChoices now scope = .ok choices' →
    choices.lookup i = some item → (c.reading.identity = i → c.reading.rank < item.rank) →
    (choices'.lookup i).map (·.tokens) = some item.tokens

/-- Ties do not matter: whatever the loops may meet first among the best candidates for
a request reports what the one that the database puts first does. -/
def TiesAgree (store : EvidenceStore) (now : Int) (scope : EvidenceScope)
    (database : EvidenceDatabase store κ) : Prop :=
  ∀ i, ∀ c ∈ store.candidatesFor now scope i, ∀ s ∈ store.candidatesFor now scope i,
    (∀ b ∈ store.candidatesFor now scope i, c.readKey ≤ b.readKey) →
    (∀ b ∈ store.candidatesFor now scope i, database.key s ≤ database.key b) →
    c.reading.tokens = s.reading.tokens

variable {database : EvidenceDatabase store κ} {i : Text}

/-! ## Candidates and pieces -/

theorem candidate?_piece {piece : Piece} {c : Candidate}
    (h : store.candidate? now scope piece = some c) : c.piece = piece := by
  obtain ⟨item, -, rfl⟩ := Option.map_eq_some_iff.1 h
  rfl

/-- A piece is a candidate for one request at most. -/
theorem piece_of_mem {c : Candidate} (hc : c ∈ store.candidatesFor now scope i) :
    c.piece ∈ store.pieces ∧ store.candidate? now scope c.piece = some c ∧
      c.reading.identity = i := by
  obtain ⟨hc, hi⟩ := List.mem_filter.1 hc
  obtain ⟨piece, hpiece, hcandidate⟩ := List.mem_filterMap.1 hc
  rw [candidate?_piece hcandidate]
  exact ⟨hpiece, hcandidate, of_decide_eq_true hi⟩

/-- A stored piece has its own `evidence_key`. -/
theorem EvidenceDatabase.piece_inj {a b : Piece} (ha : a ∈ store.pieces) (hb : b ∈ store.pieces)
    (hkey : a.evidenceKey database.recoveryId = b.evidenceKey database.recoveryId) : a = b := by
  have hmem : ∀ {piece : Piece}, piece ∈ store.pieces → match piece with
      | .attempt attempt => attempt ∈ store.billableRequests
      | .finalization item => item ∈ store.budgetReservationFinalizations
      | .usage record => record ∈ store.usageRecords := by
    intro piece hpiece
    cases piece <;> simpa [pieces] using hpiece
  have ha := hmem ha
  have hb := hmem hb
  cases a with
  | attempt a =>
      cases b with
      | attempt b =>
          have hid : a.id = b.id := CandidateKey.ack.inj hkey
          rw [List.inj_on_of_nodup_map store.attempts_nodup ha hb hid]
      | finalization b => cases hkey
      | usage b => cases hkey
  | finalization a =>
      cases b with
      | attempt b => cases hkey
      | finalization b =>
          rw [database.recoveryId_inj a ha b hb (CandidateKey.recovery.inj hkey)]
      | usage b => cases hkey
  | usage a =>
      cases b with
      | attempt b => cases hkey
      | finalization b => cases hkey
      | usage b =>
          have hid : a.id = b.id := CandidateKey.usage.inj hkey
          rw [List.inj_on_of_nodup_map store.usage_nodup ha hb hid]

/-- The order of the database is total. -/
theorem EvidenceDatabase.key_inj {c s : Candidate} (hc : c ∈ store.candidatesFor now scope i)
    (hs : s ∈ store.candidatesFor now scope i) (hkey : database.key c = database.key s) :
    c = s := by
  obtain ⟨hcpiece, hccandidate, -⟩ := piece_of_mem hc
  obtain ⟨hspiece, hscandidate, -⟩ := piece_of_mem hs
  have hcollate : database.collate (c.piece.evidenceKey database.recoveryId) =
      database.collate (s.piece.evidenceKey database.recoveryId) :=
    congrArg (fun key => (ofLex (ofLex key).2).2) hkey
  have hpiece := database.piece_inj hcpiece hspiece
    (database.collate_inj _ hcpiece _ hspiece hcollate)
  rw [hpiece] at hccandidate
  exact Option.some.inj (hccandidate.symm.trans hscandidate)

/-- The loops come in their order. -/
theorem candidatesFor_pairwise :
    (store.candidatesFor now scope i).Pairwise fun a b => a.piece.loop ≤ b.piece.loop := by
  have hpieces : store.pieces.Pairwise fun a b => a.loop ≤ b.loop := by
    have hany : ∀ {α : Type} (l : List α), l.Pairwise fun _ _ => True :=
      fun l => List.pairwise_of_forall fun _ _ => trivial
    simp [pieces, List.pairwise_append, List.pairwise_map, Piece.loop, hany]
  refine (List.Pairwise.filterMap _ (fun a b hab c hc d hd => ?_) hpieces).filter _
  rw [candidate?_piece hc, candidate?_piece hd]
  exact hab

/-! ## The choice and the database -/

theorem lookup_tokens {choices : Choices}
    (hok : store.strictBudgetChoices now scope = .ok choices) (i : Text) :
    (choices.lookup i).map (·.tokens) =
      ((store.candidatesFor now scope i).argmin fun c => c.reading.key).map
        (·.reading.tokens) := by
  have hreading := congrArg (Option.map Reading.tokens) (lookup_strictBudgetChoices hok i)
  rw [Option.map_map, Option.map_map] at hreading
  exact hreading

/-- Evidence of a lower rank changes nothing. -/
theorem lookup_of_lower {store' : EvidenceStore} {c : Candidate} {before after : List Candidate}
    {choices choices' : Choices} {item : Accepted}
    (hstore : store.candidates now scope = before ++ after)
    (hstore' : store'.candidates now scope = before ++ c :: after)
    (hok : store.strictBudgetChoices now scope = .ok choices)
    (hok' : store'.strictBudgetChoices now scope = .ok choices')
    (hitem : choices.lookup i = some item)
    (hlower : c.reading.identity = i → c.reading.rank < item.rank) :
    (choices'.lookup i).map (·.tokens) = some item.tokens := by
  have hchosen := lookup_strictBudgetChoices hok i
  have hchosen' := lookup_tokens hok' i
  rw [hstore, List.filter_append, hitem] at hchosen
  rw [candidatesFor, hstore', List.filter_append, List.filter_cons] at hchosen'
  obtain ⟨m, hm, hreading⟩ := Option.map_eq_some_iff.1 hchosen.symm
  rw [hchosen']
  split
  next hi =>
    have hworse : m.reading.key < c.reading.key := by
      rw [Reading.key_lt_iff, hreading]
      exact Or.inl (hlower (of_decide_eq_true hi))
    rw [Selection.argmin_append_worse hm hworse, Option.map_some, hreading]
  next =>
    rw [hm, Option.map_some, hreading]

/-- The first best of one order of arrival is least for the loops. -/
theorem readKey_le_of_argmin {m b : Candidate}
    (hm : ((store.candidatesFor now scope i).argmin fun c => c.reading.key) = some m)
    (hb : b ∈ store.candidatesFor now scope i) : m.readKey ≤ b.readKey := by
  have hle : m.reading.key ≤ b.reading.key :=
    List.le_of_mem_argmin (f := fun c : Candidate => c.reading.key) hb hm
  rw [Candidate.readKey, Candidate.readKey, Prod.Lex.toLex_le_toLex]
  rcases hle.lt_or_eq with hlt | heq
  · exact Or.inl hlt
  · refine Or.inr ⟨heq, ?_⟩
    obtain ⟨before, after, hsplit, hbefore⟩ := Selection.exists_of_argmin hm
    have hpairwise : (store.candidatesFor now scope i).Pairwise
        fun a b => a.piece.loop ≤ b.piece.loop := candidatesFor_pairwise
    rw [hsplit] at hb hpairwise
    rcases List.mem_append.1 hb with hb | hb
    · exact absurd heq (hbefore b hb).ne
    · rcases List.mem_cons.1 hb with rfl | hb
      · exact le_rfl
      · exact (List.pairwise_cons.1 (List.pairwise_append.1 hpairwise).2.1).1 b hb

/-- Any piece may be the first that its loop meets. -/
theorem exists_reordered_first {piece : Piece} (hpiece : piece ∈ store.pieces) :
    ∃ store', Reordered store store' ∧ ∃ before after,
      store'.pieces = before ++ piece :: after ∧ ∀ b ∈ before, b.loop < piece.loop := by
  have hfront : ∀ {α : Type} {a : α} {l : List α}, a ∈ l → ∃ rest, (a :: rest).Perm l := by
    intro α a l ha
    obtain ⟨l₁, l₂, rfl⟩ := List.append_of_mem ha
    exact ⟨l₁ ++ l₂, List.perm_middle.symm⟩
  rw [pieces, List.append_assoc, List.mem_append, List.mem_append, List.mem_map, List.mem_map,
    List.mem_map] at hpiece
  rcases hpiece with ⟨attempt, hattempt, rfl⟩ | ⟨item, hitem, rfl⟩ | ⟨record, hrecord, rfl⟩
  · obtain ⟨rest, hperm⟩ := hfront hattempt
    refine ⟨_, Reordered.arrange hperm (.refl _) (.refl _), [], _, rfl, fun b hb => ?_⟩
    exact absurd hb List.not_mem_nil
  · obtain ⟨rest, hperm⟩ := hfront hitem
    refine ⟨_, Reordered.arrange (.refl _) hperm (.refl _), store.billableRequests.map .attempt, _,
      List.append_assoc .., fun b hb => ?_⟩
    obtain ⟨attempt, -, rfl⟩ := List.mem_map.1 hb
    exact Nat.zero_lt_one
  · obtain ⟨rest, hperm⟩ := hfront hrecord
    refine ⟨_, Reordered.arrange (.refl _) (.refl _) hperm, _, _, rfl, fun b hb => ?_⟩
    rcases List.mem_append.1 hb with hb | hb
    · obtain ⟨attempt, -, rfl⟩ := List.mem_map.1 hb
      exact Nat.zero_lt_two
    · obtain ⟨item, -, rfl⟩ := List.mem_map.1 hb
      exact Nat.one_lt_two

/-- In some order of arrival, a candidate that is least for the loops is chosen. -/
theorem exists_reordered_argmin (hstrict : store.StrictFinalizations now scope) {c : Candidate}
    (hc : c ∈ store.candidatesFor now scope i)
    (hleast : ∀ b ∈ store.candidatesFor now scope i, c.readKey ≤ b.readKey) :
    ∃ store', Reordered store store' ∧
      ((store'.candidatesFor now scope i).argmin fun c => c.reading.key) = some c := by
  obtain ⟨hpiece, hcandidate, hi⟩ := piece_of_mem hc
  obtain ⟨store', h, before, after, hpieces, hbefore⟩ := exists_reordered_first hpiece
  refine ⟨store', h, ?_⟩
  have hmem : ∀ {b}, b ∈ store'.candidatesFor now scope i → b ∈ store.candidatesFor now scope i :=
    fun hb => ((h.candidates_perm hstrict).filter _).mem_iff.1 hb
  have hsplit : store'.candidatesFor now scope i =
      (before.filterMap (store'.candidate? now scope)).filter
          (fun c => decide (c.reading.identity = i)) ++
        c :: (after.filterMap (store'.candidate? now scope)).filter
          fun c => decide (c.reading.identity = i) := by
    rw [candidatesFor, candidates, hpieces, List.filterMap_append, List.filterMap_cons,
      h.candidate?_eq hstrict, hcandidate, List.filter_append]
    refine congrArg _ (List.filter_cons_of_pos ?_)
    exact decide_eq_true hi
  rw [hsplit] at hmem ⊢
  refine Selection.argmin_append_cons (fun b hb => ?_) fun b hb => ?_
  · -- A piece in front of it is in an earlier loop, so it is no best candidate.
    obtain ⟨piece, hpiece', hb'⟩ := List.mem_filterMap.1 (List.mem_filter.1 hb).1
    have hloop : b.piece.loop < c.piece.loop := by
      rw [candidate?_piece hb']
      exact hbefore piece hpiece'
    have hle := hleast b (hmem (List.mem_append_left _ hb))
    rw [Candidate.readKey, Candidate.readKey, Prod.Lex.toLex_le_toLex] at hle
    exact hle.resolve_right fun heq => hloop.not_ge heq.2
  · have hle := hleast b (hmem (List.mem_append_right _ (List.mem_cons_of_mem _ hb)))
    rw [Candidate.readKey, Candidate.readKey, Prod.Lex.toLex_le_toLex] at hle
    exact hle.elim le_of_lt fun heq => heq.1.le

/-- The choice is the one of the database in every order of arrival just when ties do
not matter. -/
theorem selects_as_database_iff {choices : Choices}
    (hstrict : store.StrictFinalizations now scope)
    (hok : store.strictBudgetChoices now scope = .ok choices) :
    store.SelectsAsDatabase now scope database ↔ store.TiesAgree now scope database := by
  constructor
  · intro hselects i c hc s hs hleast hfirst
    obtain ⟨store', h, hc'⟩ := exists_reordered_argmin hstrict hc hleast
    obtain ⟨choices', hok', htokens⟩ := hselects.reordered store' h
    have hsame := (lookup_tokens hok' i).symm.trans (htokens i)
    rw [hc'] at hsame
    cases hm : (store.candidatesFor now scope i).argmin database.key with
    | none =>
        rw [List.argmin_eq_none.1 hm] at hc
        exact absurd hc List.not_mem_nil
    | some m =>
        have hle : database.key m ≤ database.key s := List.le_of_mem_argmin hs hm
        have hmem : m ∈ store.candidatesFor now scope i := List.argmin_mem hm
        have hms : m = s := database.key_inj hmem hs (hle.antisymm (hfirst m hmem))
        rw [budgetEvidenceSelected, hm, hms] at hsame
        exact Option.some.inj hsame
  · intro hties
    refine ⟨fun store' h => ?_, ?_⟩
    · obtain ⟨choices', hok'⟩ := h.returns hstrict hok
      refine ⟨choices', hok', fun i => ?_⟩
      have hperm : (store'.candidatesFor now scope i).Perm (store.candidatesFor now scope i) :=
        (h.candidates_perm hstrict).filter _
      rw [lookup_tokens hok' i, budgetEvidenceSelected]
      cases hm : (store'.candidatesFor now scope i).argmin fun c => c.reading.key with
      | none =>
          rw [List.argmin_eq_none] at hm
          rw [hm] at hperm
          rw [hperm.nil_eq.symm]
          rfl
      | some m =>
          have hmem := hperm.mem_iff.1 (List.argmin_mem hm)
          cases hs : (store.candidatesFor now scope i).argmin database.key with
          | none =>
              rw [List.argmin_eq_none.1 hs] at hmem
              exact absurd hmem List.not_mem_nil
          | some s =>
              refine congrArg some (hties i m hmem s (List.argmin_mem hs) (fun b hb => ?_)
                fun b hb => List.le_of_mem_argmin hb hs)
              exact readKey_le_of_argmin hm (hperm.mem_iff.2 hb)
    · intro store' c before after choices choices' i item hstore hstore' hok hok' hitem hlower
      exact lookup_of_lower hstore hstore' hok hok' hitem hlower

end EvidenceStore

/-! ## A tie -/

namespace Sample

open EvidenceStore

def person : EvidenceScope := ⟨.person, .plain "ada"⟩

/-- A finalization from the gateway's usage log. -/
def usageLog (evidenceAt : Int) (hevidence : 0 ≤ evidenceAt) (output : ℕ) :
    BudgetReservationFinalization where
  scope := person
  periodStart := ⟨1970, 1, 1⟩
  correlationId := .plain "request"
  reservationCreatedAt := 0
  reservationTokens := 100
  evidenceAt := evidenceAt
  statusCode := some 200
  inputTokens := some 0
  outputTokens := some output
  totalTokens := output
  finalizationKind := .exactUsage
  source := .apimGatewayLlmLog
  valid := ⟨(by decide : Text.nonblank (.plain "ada") = true),
    (by decide : Text.nonblank (.plain "request") = true), rfl, hevidence, Int.natCast_nonneg _,
    0, rfl, output, rfl, le_rfl, Int.natCast_nonneg _, zero_add _, rfl⟩

/-- Two log entries for one request, received in one batch. -/
def tiedStore (first second : ℕ) : EvidenceStore where
  evidencePolicyEffectiveAt := some 0
  budgetReservationAdmissions _ _ := none
  budgetEvidenceReceivedAt _ := some 50
  reconciledUsageIds _ := false
  usageApplicationAttributions _ := none
  billableRequests := []
  budgetReservationFinalizations :=
    [usageLog 10 (by decide) first, usageLog 20 (by decide) second]
  usageRecords := []
  attempts_nodup := List.nodup_nil
  finalizations_nodup := by simp [finalizationEvidenceKey, usageLog]
  usage_nodup := List.nodup_nil

def tiedDatabase (first second : ℕ) : EvidenceDatabase (tiedStore first second) ℕ where
  recoveryId item := item.evidenceAt.toNat
  recoveryId_pos := by simp [tiedStore, usageLog]
  recoveryId_inj := by simp [tiedStore, usageLog]
  collate
    | .recovery id => id
    | _ => 0
  collate_inj := by simp [tiedStore, usageLog, pieces, Piece.evidenceKey]

/-- The tokens that the choice charges for the request. -/
def tokens (store : EvidenceStore) : Option Int :=
  (store.strictBudgetChoices 100 person).toOption.bind fun choices =>
    (choices.lookup (.plain "request")).map (·.tokens)

theorem tokens_of_ok {store : EvidenceStore} {choices : Choices}
    (hok : store.strictBudgetChoices 100 person = .ok choices) :
    tokens store = (choices.lookup (.plain "request")).map (·.tokens) := by
  rw [tokens, hok]
  rfl

theorem swapped : List.Perm [usageLog 20 (by decide) 9, usageLog 10 (by decide) 7]
    (tiedStore 7 9).budgetReservationFinalizations :=
  .swap _ _ []

end Sample

/-- Entries that agree are charged as the database does. -/
theorem selects_as_database_of_equal_totals :
    (Sample.tiedStore 7 7).SelectsAsDatabase 100 Sample.person (Sample.tiedDatabase 7 7) := by
  have hall : ∀ c ∈ (Sample.tiedStore 7 7).candidates 100 Sample.person, c.reading.tokens = 7 := by
    decide +kernel
  have hstrict : (Sample.tiedStore 7 7).StrictFinalizations 100 Sample.person := by
    unfold EvidenceStore.StrictFinalizations
    decide
  have hreturns : ((Sample.tiedStore 7 7).strictBudgetChoices 100 Sample.person).isOk = true := by
    decide +kernel
  cases hok : (Sample.tiedStore 7 7).strictBudgetChoices 100 Sample.person with
  | error error =>
      rw [hok] at hreturns
      cases hreturns
  | ok choices =>
      refine (EvidenceStore.selects_as_database_iff hstrict hok).2 fun i c hc s hs _ _ => ?_
      rw [hall c (List.mem_filter.1 hc).1, hall s (List.mem_filter.1 hs).1]

/-- The choice among tied evidence is the one that arrived first. -/
theorem tied_evidence_is_read_in_order :
    ¬ (Sample.tiedStore 7 9).SelectsAsDatabase 100 Sample.person (Sample.tiedDatabase 7 9) := by
  intro hselects
  obtain ⟨choices, hok, htokens⟩ := hselects.reordered (Sample.tiedStore 7 9)
    ⟨.refl _, .refl _, .refl _, rfl, rfl, rfl, rfl, rfl⟩
  obtain ⟨choices', hok', htokens'⟩ := hselects.reordered _
    (EvidenceStore.Reordered.arrange (.refl _) Sample.swapped (.refl _))
  have hsame : Sample.tokens (Sample.tiedStore 7 9) =
      Sample.tokens ((Sample.tiedStore 7 9).arrange (.refl _) Sample.swapped (.refl _)) := by
    rw [Sample.tokens_of_ok hok, Sample.tokens_of_ok hok', htokens, htokens']
  revert hsame
  decide +kernel

end Turnstile
