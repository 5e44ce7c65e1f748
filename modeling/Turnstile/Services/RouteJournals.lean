import Turnstile.Services.RouteContract

/-!
# What the journals of publications keep

A checkpoint that was ever saved keeps what it says: an operation was begun by one client
only, its batch was sent at most once and by that client, and its outcome is true.  The
client that began an operation may send its batch (`MaySend`) until it has sent it or has
recorded that it will not.
-/

namespace Turnstile

open Guard

/-! ## Entries -/

/-- What a checkpoint says of one operation: the row of its receipt, its batch and its
outcome. -/
structure JournalEntry where
  publicationId : UUID
  row : RouteRow
  body : RouteBatch
  outcome : RouteOutcome
deriving DecidableEq

/-- The entry of an operation on the writer row. -/
def WriterOperation.entry (publicationId : UUID) (o : WriterOperation) : JournalEntry :=
  ⟨publicationId, .writerTransition o.intent.receipt.operationId, o.intent.body, o.outcome⟩

/-- The entry of an activation. -/
def ActivationCheckpoint.entry (publicationId : UUID) (c : ActivationCheckpoint) : JournalEntry :=
  ⟨publicationId, .transition c.intent.receipt.operationId, c.intent.body, c.outcome⟩

namespace RouteEvent

/-- What was saved. -/
def entries : RouteEvent → List JournalEntry
  | savedWriter publicationId c => c.operations.map (WriterOperation.entry publicationId)
  | savedActivation publicationId c => [c.entry publicationId]
  | _ => []

/-- Nothing was sent and nothing was saved. -/
def passive : RouteEvent → Bool
  | observed _ _ | applied _ => true
  | _ => false

/-- No batch was sent and nothing was saved. -/
def quiet : RouteEvent → Bool
  | sent (.batch _) | savedWriter _ _ | savedActivation _ _ => false
  | _ => true

/-- A batch with this receipt row was sent. -/
def sendsRow (row : RouteRow) : RouteEvent → Bool
  | sent (.batch b) => decide (row ∈ b.rows)
  | _ => false

theorem quiet_of_passive {e : RouteEvent} (h : e.passive = true) : e.quiet = true := by
  cases e <;> first | rfl | cases h

theorem entries_of_quiet {e : RouteEvent} (h : e.quiet = true) : e.entries = [] := by
  cases e <;> first | rfl | cases h

theorem sendsRow_of_quiet {e : RouteEvent} (h : e.quiet = true) (row : RouteRow) :
    e.sendsRow row = false := by
  rcases e with _ | s | _ | _ | _ <;> try rfl
  cases s with
  | batch b => cases h
  | entity k d => rfl

theorem sendsRow_eq_true {e : RouteEvent} {row : RouteRow} :
    e.sendsRow row = true ↔ ∃ b, e = .sent (.batch b) ∧ row ∈ b.rows := by
  constructor
  · intro h
    rcases e with _ | s | _ | _ | _ <;> try cases h
    cases s with
    | batch b => exact ⟨b, rfl, of_decide_eq_true h⟩
    | entity k d => cases h
  · rintro ⟨b, rfl, hrow⟩
    exact decide_eq_true hrow

end RouteEvent

section

variable {ι : Type}

/-- An entry that was ever saved. -/
def Saved (w : RouteWorld ι) (e : JournalEntry) : Prop :=
  ∃ event ∈ w.history, e ∈ event.2.entries

/-- Client `i` has begun the operation with this receipt row. -/
def Began (w : RouteWorld ι) (i : ι) (row : RouteRow) : Prop :=
  ∃ event e, (i, event) ∈ w.history ∧ event.entries.getLast? = some e ∧ e.row = row ∧
    e.outcome = .started

/-- The batch was not applied and never will be. -/
structure Fenced (w : RouteWorld ι) (b : RouteBatch) : Prop where
  dead : w.table.Dead (RouteSubmission.batch b).writes
  unapplied : ∀ j, (j, RouteEvent.applied (.batch b)) ∉ w.history

theorem Began.saved {w : RouteWorld ι} {i : ι} {row : RouteRow} (h : Began w i row) :
    ∃ e, Saved w e ∧ e.row = row := by
  obtain ⟨event, e, hevent, hlast, hrow, -⟩ := h
  exact ⟨e, ⟨_, hevent, List.mem_of_getLast? hlast⟩, hrow⟩

section Mono

variable {w w' : RouteWorld ι} {recent : List (ι × RouteEvent)} (h : Continues w w' recent)

include h

theorem Saved.mono {e : JournalEntry} (he : Saved w e) : Saved w' e := by
  obtain ⟨event, hevent, hentry⟩ := he
  exact ⟨event, h.mem hevent, hentry⟩

theorem Began.mono {i : ι} {row : RouteRow} (hb : Began w i row) : Began w' i row := by
  obtain ⟨event, e, hevent, hlast⟩ := hb
  exact ⟨event, e, h.mem hevent, hlast⟩

theorem Fenced.mono {b : RouteBatch} (hf : Fenced w b) : Fenced w' b := by
  refine ⟨hf.dead.of_evolves h.table, fun j hj => ?_⟩
  rw [h.history] at hj
  rcases List.mem_append.1 hj with hj | hj
  · exact h.alive _ hj _ rfl hf.dead
  · exact hf.unapplied j hj

theorem saved_iff_of_quiet (hrecent : ∀ e ∈ recent, e.2.entries = []) {e : JournalEntry} :
    Saved w' e ↔ Saved w e := by
  refine ⟨?_, fun he => he.mono h⟩
  rintro ⟨event, hevent, hentry⟩
  rw [h.history] at hevent
  rcases List.mem_append.1 hevent with hevent | hevent
  · rw [hrecent event hevent] at hentry
    cases hentry
  · exact ⟨event, hevent, hentry⟩

theorem began_iff_of_quiet (hrecent : ∀ e ∈ recent, e.2.entries = []) {i : ι} {row : RouteRow} :
    Began w' i row ↔ Began w i row := by
  refine ⟨?_, fun hb => hb.mono h⟩
  rintro ⟨event, e, hevent, hlast, hrest⟩
  rw [h.history] at hevent
  rcases List.mem_append.1 hevent with hevent | hevent
  · rw [hrecent _ hevent] at hlast
    cases hlast
  · exact ⟨event, e, hevent, hlast, hrest⟩

end Mono

/-! ## What the others leave alone -/

/-- What happened leaves the operations that client `i` has begun to it. -/
structure Leaves (i : ι) (w : RouteWorld ι) (recent : List (ι × RouteEvent)) : Prop where
  sent : ∀ e ∈ recent, e.1 ≠ i → ∀ row, Began w i row → e.2.sendsRow row = false
  expired : ∀ e ∈ recent, e.1 ≠ i → ∀ entry ∈ e.2.entries,
    entry.outcome = .expiredBeforeDispatch → Began w i entry.row → Saved w entry

variable (calls : ι → RouteCall)

/-- What client `i` relies on between its own submissions and saves. -/
def Relies (i : ι) (w w' : RouteWorld ι) : Prop :=
  ∃ recent, Continues w w' recent ∧ (∀ e ∈ recent, e.1 = i → e.2.passive = true) ∧
    (OperationIdsPromised calls → Leaves i w recent)

variable {calls}

theorem Leaves.of_passive {i : ι} {w : RouteWorld ι} {recent : List (ι × RouteEvent)}
    (h : ∀ e ∈ recent, e.2.passive = true) : Leaves i w recent where
  sent e he _ row _ := RouteEvent.sendsRow_of_quiet (RouteEvent.quiet_of_passive (h e he)) row
  expired e he _ entry hentry := by
    rw [RouteEvent.entries_of_quiet (RouteEvent.quiet_of_passive (h e he))] at hentry
    cases hentry

theorem Relies.of_passive {i : ι} {w w' : RouteWorld ι} {recent : List (ι × RouteEvent)}
    (h : Continues w w' recent) (hrecent : ∀ e ∈ recent, e.2.passive = true) :
    Relies calls i w w' :=
  ⟨recent, h, fun e he _ => hrecent e he, fun _ => .of_passive hrecent⟩

theorem Relies.refl (i : ι) (w : RouteWorld ι) : Relies calls i w w :=
  .of_passive (.refl w) fun _ he => absurd he List.not_mem_nil

theorem Relies.trans {i : ι} {w₁ w₂ w₃ : RouteWorld ι} (h₁ : Relies calls i w₁ w₂)
    (h₂ : Relies calls i w₂ w₃) : Relies calls i w₁ w₃ := by
  obtain ⟨r₁, hc₁, hown₁, hleaves₁⟩ := h₁
  obtain ⟨r₂, hc₂, hown₂, hleaves₂⟩ := h₂
  refine ⟨r₂ ++ r₁, hc₁.trans hc₂, ?_, fun hp => ⟨?_, ?_⟩⟩
  · intro e he hi
    rcases List.mem_append.1 he with he | he
    · exact hown₂ e he hi
    · exact hown₁ e he hi
  · intro e he hi row hrow
    rcases List.mem_append.1 he with he | he
    · exact (hleaves₂ hp).sent e he hi row (hrow.mono hc₁)
    · exact (hleaves₁ hp).sent e he hi row hrow
  · intro e he hi entry hentry houtcome hrow
    rcases List.mem_append.1 he with he | he
    · obtain ⟨event, hevent, hmem⟩ :=
        (hleaves₂ hp).expired e he hi entry hentry houtcome (hrow.mono hc₁)
      rw [hc₁.history] at hevent
      rcases List.mem_append.1 hevent with hevent | hevent
      · by_cases hown : event.1 = i
        · rw [RouteEvent.entries_of_quiet (RouteEvent.quiet_of_passive (hown₁ event hevent hown))]
            at hmem
          cases hmem
        · exact (hleaves₁ hp).expired event hevent hown entry hmem houtcome hrow
      · exact ⟨event, hevent, hmem⟩
    · exact (hleaves₁ hp).expired e he hi entry hentry houtcome hrow

theorem Relies.continues {i : ι} {w w' : RouteWorld ι} (h : Relies calls i w w') :
    ∃ recent, Continues w w' recent := by
  obtain ⟨recent, hc, -⟩ := h
  exact ⟨recent, hc⟩

/-! ## The invariant of the journals -/

variable (calls)

/-- What is true of an entry whose outcome has this meaning. -/
def Truthful (w : RouteWorld ι) (e : JournalEntry) : Prop :=
  match e.outcome with
  | .confirmed => ∃ j, (j, RouteEvent.applied (.batch e.body)) ∈ w.history
  | .notAppliedFenced => Fenced w e.body
  | .expiredBeforeDispatch => ∀ event ∈ w.history, event.2.sendsRow e.row = false
  | _ => True

/-- What holds of an entry from when it was begun. -/
structure Proper (w : RouteWorld ι) (e : JournalEntry) : Prop where
  begun : ∃ k, Began w k e.row ∧ (calls k).receiptRow? = some e.row ∧
    (calls k).publication? = some e.publicationId
  tagged : ∀ x ∈ e.body.writes, ∀ etag, x.ifMatch = some etag → etag < w.table.next
  row : e.row ∈ e.body.rows

/-- What holds of the stored checkpoints and of all that was ever saved. -/
structure Journaled (w : RouteWorld ι) : Prop where
  storedWriter : ∀ p c, w.writerCheckpoints p = some c →
    ∃ i, (i, RouteEvent.savedWriter p c) ∈ w.history
  storedActivation : ∀ p c, w.activationCheckpoints p = some c →
    ∃ i, (i, RouteEvent.savedActivation p c) ∈ w.history
  writerKept : ∀ i p c, (i, RouteEvent.savedWriter p c) ∈ w.history →
    ∃ c', w.writerCheckpoints p = some c' ∧
      (c.operations.map WriterOperation.intent) <+: (c'.operations.map WriterOperation.intent)
  activationKept : ∀ i p c, (i, RouteEvent.savedActivation p c) ∈ w.history →
    ∃ c', w.activationCheckpoints p = some c' ∧ c'.intent = c.intent
  writerHistory : ∀ i p c, (i, RouteEvent.savedWriter p c) ∈ w.history →
    PersistentRouteWriterJournal.History p c.operations
  activationRecorded : ∀ i p c, (i, RouteEvent.savedActivation p c) ∈ w.history →
    c.intent.toRecord = .ok c.intent
  proper : ∀ e, Saved w e → Proper calls w e
  unique : ∀ i j row, Began w i row → Began w j row → i = j
  sent : ∀ j b p, (j, RouteEvent.sent (.batch b)) ∈ w.history → (calls j).publication? = some p →
    ∃ e, Saved w e ∧ e.publicationId = p ∧ e.body = b ∧ (calls j).receiptRow? = some e.row ∧
      Began w j e.row
  once : ∀ e, Saved w e → (w.history.countP fun event => event.2.sendsRow e.row) ≤ 1
  truthful : ∀ e, Saved w e → Truthful w e

variable {calls}

theorem Journaled.empty : Journaled calls (RouteWorld.empty : RouteWorld ι) where
  storedWriter _ _ h := nomatch h
  storedActivation _ _ h := nomatch h
  writerKept _ _ _ h := nomatch h
  activationKept _ _ _ h := nomatch h
  writerHistory _ _ _ h := nomatch h
  activationRecorded _ _ _ h := nomatch h
  proper _ := fun ⟨_, h, _⟩ => nomatch h
  unique _ _ _ := fun ⟨_, _, h, _⟩ => nomatch h
  sent _ _ _ h := nomatch h
  once _ := fun ⟨_, h, _⟩ => nomatch h
  truthful _ := fun ⟨_, h, _⟩ => nomatch h

section

variable {w w' : RouteWorld ι} {recent : List (ι × RouteEvent)}

theorem Proper.mono (h : Continues w w' recent) {e : JournalEntry} (hp : Proper calls w e) :
    Proper calls w' e := by
  obtain ⟨k, hbegan, hcall⟩ := hp.begun
  exact ⟨⟨k, hbegan.mono h, hcall⟩, fun x hx etag hetag =>
    Nat.lt_of_lt_of_le (hp.tagged x hx etag hetag) h.table.next_le, hp.row⟩

/-- An outcome stays true, when no batch of an expired operation is sent. -/
theorem Truthful.mono (h : Continues w w' recent) {e : JournalEntry} (ht : Truthful w e)
    (hsent : e.outcome = .expiredBeforeDispatch →
      ∀ event ∈ recent, event.2.sendsRow e.row = false) :
    Truthful w' e := by
  cases houtcome : e.outcome with
  | confirmed =>
      simp only [Truthful, houtcome] at ht ⊢
      obtain ⟨j, hj⟩ := ht
      exact ⟨j, h.mem hj⟩
  | notAppliedFenced =>
      simp only [Truthful, houtcome] at ht ⊢
      exact ht.mono h
  | expiredBeforeDispatch =>
      simp only [Truthful, houtcome] at ht ⊢
      intro event hevent
      rw [h.history] at hevent
      rcases List.mem_append.1 hevent with hevent | hevent
      · exact hsent houtcome event hevent
      · exact ht event hevent
  | _ => simp only [Truthful, houtcome]

/-- The receipt row of an entry belongs to a call. -/
theorem Journaled.row_ne (h : Journaled calls w) {e : JournalEntry} (he : Saved w e) :
    e.row ≠ .writer ∧ e.row ≠ .active := by
  obtain ⟨k, -, hrow, -⟩ := (h.proper e he).begun
  constructor <;> intro hbad <;> rw [hbad] at hrow <;> generalize calls k = c at hrow <;>
    cases c <;> cases hrow

/-- Two entries with one receipt row are of one publication and have one batch. -/
theorem Journaled.entry_eq (h : Journaled calls w) (hp : OperationIdsPromised calls)
    {e e' : JournalEntry} (he : Saved w e) (he' : Saved w e') (hrow : e.row = e'.row) :
    e.publicationId = e'.publicationId ∧ e.body = e'.body := by
  obtain ⟨k, -, hcall, hpublication⟩ := (h.proper e he).begun
  obtain ⟨k', -, hcall', hpublication'⟩ := (h.proper e' he').begun
  have hsame : e.publicationId = e'.publicationId := by
    have := hp k k' _ hcall (hrow ▸ hcall')
    rw [hpublication, hpublication'] at this
    exact Option.some.inj this
  refine ⟨hsame, ?_⟩
  obtain ⟨⟨i, event⟩, hevent, hmem⟩ := he
  obtain ⟨⟨i', event'⟩, hevent', hmem'⟩ := he'
  cases event with
  | savedWriter p c =>
      obtain ⟨o, ho, rfl⟩ := List.mem_map.1 hmem
      cases event' with
      | savedWriter p' c' =>
          obtain ⟨o', ho', rfl⟩ := List.mem_map.1 hmem'
          obtain rfl : p = p' := hsame
          obtain ⟨stored, hstored, hkept⟩ := h.writerKept _ _ _ hevent
          obtain ⟨stored', hstored', hkept'⟩ := h.writerKept _ _ _ hevent'
          rw [hstored, Option.some.injEq] at hstored'
          subst hstored'
          obtain ⟨s, hs⟩ := h.storedWriter p stored hstored
          have hdistinct := (h.writerHistory _ _ _ hs).distinct
          have hintent : o.intent = o'.intent := by
            have hin := hkept.subset (List.mem_map_of_mem ho)
            have hin' := hkept'.subset (List.mem_map_of_mem ho')
            obtain ⟨a, ha, haeq⟩ := List.mem_map.1 hin
            obtain ⟨b, hb, hbeq⟩ := List.mem_map.1 hin'
            have hids : a.intent.receipt.operationId = b.intent.receipt.operationId := by
              rw [haeq, hbeq]
              exact RouteRow.writerTransition.inj hrow
            rw [← haeq, ← hbeq, List.inj_on_of_nodup_map hdistinct ha hb hids]
          show o.intent.body = o'.intent.body
          rw [hintent]
      | savedActivation p' c' =>
          obtain rfl := List.mem_singleton.1 hmem'
          cases hrow
      | _ => cases hmem'
  | savedActivation p c =>
      obtain rfl := List.mem_singleton.1 hmem
      cases event' with
      | savedWriter p' c' =>
          obtain ⟨o', ho', rfl⟩ := List.mem_map.1 hmem'
          cases hrow
      | savedActivation p' c' =>
          obtain rfl := List.mem_singleton.1 hmem'
          obtain rfl : p = p' := hsame
          obtain ⟨stored, hstored, hkept⟩ := h.activationKept _ _ _ hevent
          obtain ⟨stored', hstored', hkept'⟩ := h.activationKept _ _ _ hevent'
          rw [hstored, Option.some.injEq] at hstored'
          subst hstored'
          show c.intent.body = c'.intent.body
          rw [← hkept, ← hkept']
      | _ => cases hmem'
  | _ => cases hmem

/-- A batch that is not in the journal of a publication has no entry. -/
theorem Journaled.row_of_sent (h : Journaled calls w) {i : ι} {b : RouteBatch}
    (hb : Prepared calls w i (.batch b)) {e : JournalEntry} (he : Saved w e)
    (hrow : e.row ∈ b.rows) :
    (calls i).receiptRow? = some e.row := by
  obtain ⟨row, hcall, -, hrows⟩ := hb.receipt
  rcases hrows e.row hrow with heq | heq | heq
  · rw [heq]
    exact hcall
  · exact absurd heq (h.row_ne he).1
  · exact absurd heq (h.row_ne he).2

/-- Events that neither send a batch nor save keep the invariant. -/
theorem Journaled.quiet (h : Journaled calls w) (hc : Continues w w' recent)
    (hwriter : w'.writerCheckpoints = w.writerCheckpoints)
    (hactivation : w'.activationCheckpoints = w.activationCheckpoints)
    (hquiet : ∀ e ∈ recent, e.2.quiet = true) : Journaled calls w' := by
  have hentries : ∀ e ∈ recent, e.2.entries = [] :=
    fun e he => RouteEvent.entries_of_quiet (hquiet e he)
  have hold : ∀ {e : ι × RouteEvent}, e.2.quiet = false → e ∈ w'.history → e ∈ w.history := by
    intro e hloud he
    rw [hc.history] at he
    rcases List.mem_append.1 he with he | he
    · rw [hquiet e he] at hloud
      cases hloud
    · exact he
  constructor
  · intro p c hstored
    obtain ⟨i, hi⟩ := h.storedWriter p c (hwriter ▸ hstored)
    exact ⟨i, hc.mem hi⟩
  · intro p c hstored
    obtain ⟨i, hi⟩ := h.storedActivation p c (hactivation ▸ hstored)
    exact ⟨i, hc.mem hi⟩
  · intro i p c hsaved
    rw [hwriter]
    exact h.writerKept i p c (hold rfl hsaved)
  · intro i p c hsaved
    rw [hactivation]
    exact h.activationKept i p c (hold rfl hsaved)
  · exact fun i p c hsaved => h.writerHistory i p c (hold rfl hsaved)
  · exact fun i p c hsaved => h.activationRecorded i p c (hold rfl hsaved)
  · exact fun e he => (h.proper e ((saved_iff_of_quiet hc hentries).1 he)).mono hc
  · exact fun i j row hi hj => h.unique i j row ((began_iff_of_quiet hc hentries).1 hi)
      ((began_iff_of_quiet hc hentries).1 hj)
  · intro j b p hsent hp
    obtain ⟨e, he, hpublication, hbody, hrow, hbegan⟩ := h.sent j b p (hold rfl hsent) hp
    exact ⟨e, he.mono hc, hpublication, hbody, hrow, hbegan.mono hc⟩
  · intro e he
    have hcount : (recent.countP fun event => event.2.sendsRow e.row) = 0 :=
      List.countP_eq_zero.2 fun event hevent => by
        rw [RouteEvent.sendsRow_of_quiet (hquiet event hevent)]
        exact Bool.false_ne_true
    rw [hc.history, List.countP_append, hcount, Nat.zero_add]
    exact h.once e ((saved_iff_of_quiet hc hentries).1 he)
  · exact fun e he => (h.truthful e ((saved_iff_of_quiet hc hentries).1 he)).mono hc
      fun _ event hevent => RouteEvent.sendsRow_of_quiet (hquiet event hevent) _

/-! ## Sending a batch -/

/-- Client `i` may send the batch of the operation that it has begun. -/
def MaySend (calls : ι → RouteCall) (i : ι) (b : RouteBatch) (w : RouteWorld ι) : Prop :=
  OperationIdsPromised calls → ∀ p, (calls i).publication? = some p →
    ∃ e, Saved w e ∧ e.publicationId = p ∧ e.body = b ∧ (calls i).receiptRow? = some e.row ∧
      Began w i e.row ∧ (∀ event ∈ w.history, event.2.sendsRow e.row = false) ∧
      ∀ e', Saved w e' → e'.row = e.row → e'.outcome ≠ .expiredBeforeDispatch

theorem MaySend.stable {i : ι} {b : RouteBatch} (h : MaySend calls i b w)
    (hr : Relies calls i w w') : MaySend calls i b w' := by
  intro hp p hpublication
  obtain ⟨e, he, hep, hbody, hrow, hbegan, hunsent, hlive⟩ := h hp p hpublication
  obtain ⟨recent, hc, hown, hleaves⟩ := hr
  refine ⟨e, he.mono hc, hep, hbody, hrow, hbegan.mono hc, ?_, ?_⟩
  · intro event hevent
    rw [hc.history] at hevent
    rcases List.mem_append.1 hevent with hevent | hevent
    · by_cases hi : event.1 = i
      · exact RouteEvent.sendsRow_of_quiet (RouteEvent.quiet_of_passive (hown event hevent hi)) _
      · exact (hleaves hp).sent event hevent hi _ hbegan
    · exact hunsent event hevent
  · rintro e' ⟨event, hevent, hmem⟩ hsame houtcome
    rw [hc.history] at hevent
    rcases List.mem_append.1 hevent with hevent | hevent
    · by_cases hi : event.1 = i
      · rw [RouteEvent.entries_of_quiet
          (RouteEvent.quiet_of_passive (hown event hevent hi))] at hmem
        cases hmem
      · exact hlive e' ((hleaves hp).expired event hevent hi e' hmem houtcome (hsame ▸ hbegan))
          hsame houtcome
    · exact hlive e' ⟨event, hevent, hmem⟩ hsame houtcome

/-- Sending a prepared batch that one may send keeps the invariant. -/
theorem Journaled.send (h : Journaled calls w) (hp : OperationIdsPromised calls) {i : ι}
    {b : RouteBatch} (hb : Prepared calls w i (.batch b)) (hsend : MaySend calls i b w)
    (hc : Continues w w' [(i, .sent (.batch b))])
    (hwriter : w'.writerCheckpoints = w.writerCheckpoints)
    (hactivation : w'.activationCheckpoints = w.activationCheckpoints) : Journaled calls w' := by
  have hentries : ∀ e ∈ [((i, .sent (.batch b)) : ι × RouteEvent)], e.2.entries = [] := by
    simp [RouteEvent.entries]
  have hold : ∀ {e : ι × RouteEvent}, e ≠ (i, .sent (.batch b)) → e ∈ w'.history →
      e ∈ w.history := by
    intro e hne he
    rw [hc.history] at he
    exact (List.mem_cons.1 he).resolve_left hne
  -- An entry whose row the batch has is the one that client `i` may send.
  have hentry : ∀ e, Saved w e → e.row ∈ b.rows →
      (∀ event ∈ w.history, event.2.sendsRow e.row = false) ∧
        e.outcome ≠ .expiredBeforeDispatch := by
    intro e he hrow
    have hcall := h.row_of_sent hb he hrow
    obtain ⟨k, -, hk, hpublication⟩ := (h.proper e he).begun
    obtain ⟨e', -, -, -, hrow', -, hunsent, hlive⟩ :=
      hsend hp e.publicationId (by rw [hp i k _ hcall hk]; exact hpublication)
    rw [hcall, Option.some.injEq] at hrow'
    exact ⟨hrow' ▸ hunsent, hlive e he hrow'⟩
  constructor
  · intro p c hstored
    obtain ⟨j, hj⟩ := h.storedWriter p c (hwriter ▸ hstored)
    exact ⟨j, hc.mem hj⟩
  · intro p c hstored
    obtain ⟨j, hj⟩ := h.storedActivation p c (hactivation ▸ hstored)
    exact ⟨j, hc.mem hj⟩
  · intro j p c hsaved
    rw [hwriter]
    exact h.writerKept j p c (hold (by simp) hsaved)
  · intro j p c hsaved
    rw [hactivation]
    exact h.activationKept j p c (hold (by simp) hsaved)
  · exact fun j p c hsaved => h.writerHistory j p c (hold (by simp) hsaved)
  · exact fun j p c hsaved => h.activationRecorded j p c (hold (by simp) hsaved)
  · exact fun e he => (h.proper e ((saved_iff_of_quiet hc hentries).1 he)).mono hc
  · exact fun j k row hj hk => h.unique j k row ((began_iff_of_quiet hc hentries).1 hj)
      ((began_iff_of_quiet hc hentries).1 hk)
  · intro j b' p hsent hpublication
    rw [hc.history] at hsent
    rcases List.mem_cons.1 hsent with heq | hsent
    · cases heq
      obtain ⟨e, he, hep, hbody, hrow, hbegan, -⟩ := hsend hp p hpublication
      exact ⟨e, he.mono hc, hep, hbody, hrow, hbegan.mono hc⟩
    · obtain ⟨e, he, hep, hbody, hrow, hbegan⟩ := h.sent j b' p hsent hpublication
      exact ⟨e, he.mono hc, hep, hbody, hrow, hbegan.mono hc⟩
  · intro e he
    have he' := (saved_iff_of_quiet hc hentries).1 he
    rw [hc.history, List.countP_append]
    by_cases hrow : e.row ∈ b.rows
    · have hzero : (w.history.countP fun event => event.2.sendsRow e.row) = 0 :=
        List.countP_eq_zero.2 fun event hevent => by
          rw [(hentry e he' hrow).1 event hevent]
          exact Bool.false_ne_true
      rw [hzero]
      exact List.countP_le_length
    · have hzero : ([((i, .sent (.batch b)) : ι × RouteEvent)].countP fun event =>
          event.2.sendsRow e.row) = 0 := by simp [RouteEvent.sendsRow, hrow]
      rw [hzero, Nat.zero_add]
      exact h.once e he'
  · intro e he
    have he' := (saved_iff_of_quiet hc hentries).1 he
    refine (h.truthful e he').mono hc fun houtcome event hevent => ?_
    obtain rfl := List.mem_singleton.1 hevent
    refine decide_eq_false fun hrow => (hentry e he' hrow).2 houtcome

/-- The others had no part in the batch. -/
theorem Journaled.leaves_send (h : Journaled calls w) (hp : OperationIdsPromised calls) {i j : ι}
    (hij : j ≠ i) {b : RouteBatch} (hb : Prepared calls w i (.batch b))
    (hsend : MaySend calls i b w) : Leaves j w [(i, .sent (.batch b))] where
  sent e he _ row hbegan := by
    obtain rfl := List.mem_singleton.1 he
    refine decide_eq_false fun hrow => hij ?_
    obtain ⟨e, hsaved, rfl⟩ := hbegan.saved
    have hcall := h.row_of_sent hb hsaved hrow
    obtain ⟨k, -, hk, hpublication⟩ := (h.proper e hsaved).begun
    obtain ⟨e', -, -, -, hrow', hbegan', -⟩ :=
      hsend hp e.publicationId (by rw [hp i k _ hcall hk]; exact hpublication)
    rw [hcall, Option.some.injEq] at hrow'
    exact h.unique _ _ _ hbegan (hrow' ▸ hbegan')
  expired e he _ entry hentry := by
    obtain rfl := List.mem_singleton.1 he
    cases hentry

/-! ## Saving a checkpoint -/

/-- What client `i` may add to a checkpoint. -/
inductive Added (calls : ι → RouteCall) (w : RouteWorld ι) (i : ι) (e : JournalEntry) : Prop
  | begun (fresh : ∀ e', Saved w e' → e'.row ≠ e.row) (started : e.outcome = .started)
      (row : (calls i).receiptRow? = some e.row)
      (publication : (calls i).publication? = some e.publicationId)
      (tagged : ∀ x ∈ e.body.writes, ∀ etag, x.ifMatch = some etag → etag < w.table.next)
      (mem : e.row ∈ e.body.rows)
  | recorded (e' : JournalEntry) (saved : Saved w e')
      (publication : e'.publicationId = e.publicationId)
      (row : e'.row = e.row) (body : e'.body = e.body) (outcome : e.outcome ≠ .started)
      (truthful : Truthful w e) (expired : e.outcome = .expiredBeforeDispatch → Began w i e.row)

/-- What client `i` may save: entries that were saved, and a last one that it may add. -/
structure MaySave (calls : ι → RouteCall) (w : RouteWorld ι) (i : ι)
    (event : RouteEvent) : Prop where
  unsent : ∀ s, event ≠ .sent s
  last : ∀ e, event.entries.getLast? = some e → Added calls w i e
  rest : ∀ e ∈ event.entries, Saved w e ∨ event.entries.getLast? = some e

theorem MaySave.sendsRow {i : ι} {event : RouteEvent} (h : MaySave calls w i event)
    (row : RouteRow) : event.sendsRow row = false := by
  by_contra htrue
  obtain ⟨b, hb, -⟩ := RouteEvent.sendsRow_eq_true.1 (by simpa using htrue)
  exact h.unsent _ hb

/-- No batch was sent for an operation of a publication that has not begun. -/
theorem Journaled.unsent_of_fresh (h : Journaled calls w) (hp : OperationIdsPromised calls)
    (hinv : RouteInv calls w) {i : ι} {row : RouteRow} {p : UUID}
    (hrow : (calls i).receiptRow? = some row) (hpublication : (calls i).publication? = some p)
    (hfresh : ∀ e, Saved w e → e.row ≠ row) (event : ι × RouteEvent) (hevent : event ∈ w.history) :
    event.2.sendsRow row = false := by
  by_contra htrue
  obtain ⟨b, hb, hmem⟩ := RouteEvent.sendsRow_eq_true.1 (by simpa using htrue)
  obtain ⟨j, event⟩ := event
  obtain rfl : event = .sent (.batch b) := hb
  obtain ⟨row', hcall, -, hrows⟩ := (hinv.submitted j _ hevent).receipt
  have hsame : row = row' := by
    rcases hrows row hmem with heq | heq | heq
    · exact heq
    all_goals
      rw [heq] at hrow
      generalize calls i = c at hrow
      cases c <;> cases hrow
  subst hsame
  obtain ⟨e, he, -, -, hcall', -⟩ :=
    h.sent j b p hevent (by rw [← hp i j row hrow hcall]; exact hpublication)
  rw [hcall, Option.some.injEq] at hcall'
  exact hfresh e he hcall'.symm

/-- A save that is allowed keeps what the invariant says of entries. -/
theorem Journaled.save (h : Journaled calls w) (hp : OperationIdsPromised calls)
    (hinv : RouteInv calls w) {i : ι} {event : RouteEvent} (hsave : MaySave calls w i event)
    (hc : Continues w w' [(i, event)])
    (hstoredWriter : ∀ p c, w'.writerCheckpoints p = some c →
      ∃ i, (i, RouteEvent.savedWriter p c) ∈ w'.history)
    (hstoredActivation : ∀ p c, w'.activationCheckpoints p = some c →
      ∃ i, (i, RouteEvent.savedActivation p c) ∈ w'.history)
    (hwriterKept : ∀ i p c, (i, RouteEvent.savedWriter p c) ∈ w'.history →
      ∃ c', w'.writerCheckpoints p = some c' ∧
        (c.operations.map WriterOperation.intent) <+: (c'.operations.map WriterOperation.intent))
    (hactivationKept : ∀ i p c, (i, RouteEvent.savedActivation p c) ∈ w'.history →
      ∃ c', w'.activationCheckpoints p = some c' ∧ c'.intent = c.intent)
    (hwriterHistory : ∀ i p c, (i, RouteEvent.savedWriter p c) ∈ w'.history →
      PersistentRouteWriterJournal.History p c.operations)
    (hactivationRecorded : ∀ i p c, (i, RouteEvent.savedActivation p c) ∈ w'.history →
      c.intent.toRecord = .ok c.intent) : Journaled calls w' := by
  have hsaved :
      ∀ {e}, Saved w' e → Saved w e ∨ (Added calls w i e ∧ event.entries.getLast? = some e) := by
    rintro e ⟨ev, hev, hmem⟩
    rw [hc.history] at hev
    rcases List.mem_cons.1 hev with rfl | hev
    · rcases hsave.rest e hmem with hold | hlast
      · exact .inl hold
      · exact .inr ⟨hsave.last e hlast, hlast⟩
    · exact .inl ⟨ev, hev, hmem⟩
  have hbegan : ∀ {j row}, Began w' j row → Began w j row ∨
      (j = i ∧ ∀ e, Saved w e → e.row ≠ row) := by
    rintro j row ⟨ev, e, hev, hlast, rfl, hstarted⟩
    rw [hc.history] at hev
    rcases List.mem_cons.1 hev with heq | hev
    · cases heq
      cases hsave.last e hlast with
      | begun hfresh => exact .inr ⟨rfl, hfresh⟩
      | recorded _ _ _ _ _ houtcome => exact absurd hstarted houtcome
    · exact .inl ⟨ev, e, hev, hlast, rfl, hstarted⟩
  have hnew : ∀ {e}, e.outcome = .started → event.entries.getLast? = some e → Began w' i e.row := by
    intro e hstarted hlast
    exact ⟨event, e, by rw [hc.history]; exact List.mem_cons_self, hlast, rfl, hstarted⟩
  refine ⟨hstoredWriter, hstoredActivation, hwriterKept, hactivationKept, hwriterHistory,
    hactivationRecorded, ?_, ?_, ?_, ?_, ?_⟩
  · intro e he
    rcases hsaved he with hold | ⟨hadded, hlast⟩
    · exact (h.proper e hold).mono hc
    · cases hadded with
      | begun _ hstarted hrow hpublication htagged hmem =>
          exact ⟨⟨i, hnew hstarted hlast, hrow, hpublication⟩, fun x hx etag hetag =>
            Nat.lt_of_lt_of_le (htagged x hx etag hetag) hc.table.next_le, hmem⟩
      | recorded e' hold hpublication hrow hbody =>
          obtain ⟨⟨k, hk, hcall, hpub⟩, htagged, hmem⟩ := (h.proper e' hold).mono hc
          rw [hrow] at hk hcall hmem
          rw [hpublication] at hpub
          rw [hbody] at htagged hmem
          exact ⟨⟨k, hk, hcall, hpub⟩, htagged, hmem⟩
  · intro j k row hj hk
    rcases hbegan hj with hj | ⟨rfl, hfresh⟩ <;> rcases hbegan hk with hk | ⟨rfl, hfresh'⟩
    · exact h.unique j k row hj hk
    · obtain ⟨e, he, hrow⟩ := hj.saved
      exact absurd hrow (hfresh' e he)
    · obtain ⟨e, he, hrow⟩ := hk.saved
      exact absurd hrow (hfresh e he)
    · rfl
  · intro j b p hsent hpublication
    have hold : (j, RouteEvent.sent (.batch b)) ∈ w.history := by
      rw [hc.history] at hsent
      refine (List.mem_cons.1 hsent).resolve_left fun heq => ?_
      cases heq
      exact hsave.unsent _ rfl
    obtain ⟨e, he, hep, hbody, hrow, hb⟩ := h.sent j b p hold hpublication
    exact ⟨e, he.mono hc, hep, hbody, hrow, hb.mono hc⟩
  · intro e he
    have hzero : ([(i, event)].countP fun event => event.2.sendsRow e.row) = 0 := by
      simp [hsave.sendsRow]
    rw [hc.history, List.countP_append, hzero, Nat.zero_add]
    rcases hsaved he with hold | ⟨hadded, -⟩
    · exact h.once e hold
    · cases hadded with
      | begun hfresh _ hrow hpublication =>
          have hcount : (w.history.countP fun event => event.2.sendsRow e.row) = 0 :=
            List.countP_eq_zero.2 fun event hevent => by
              rw [h.unsent_of_fresh hp hinv hrow hpublication hfresh event hevent]
              exact Bool.false_ne_true
          rw [hcount]
          exact Nat.zero_le _
      | recorded e' hold _ hrow => exact hrow ▸ h.once e' hold
  · intro e he
    rcases hsaved he with hold | ⟨hadded, -⟩
    · refine (h.truthful e hold).mono hc fun _ ev hev => ?_
      obtain rfl := List.mem_singleton.1 hev
      exact hsave.sendsRow _
    · cases hadded with
      | begun _ hstarted => simp only [Truthful, hstarted]
      | recorded _ _ _ _ _ _ htruthful =>
          refine htruthful.mono hc fun _ ev hev => ?_
          obtain rfl := List.mem_singleton.1 hev
          exact hsave.sendsRow _

/-- The others had no part in what was saved. -/
theorem Journaled.leaves_save (h : Journaled calls w) {i j : ι} (hij : j ≠ i) {event : RouteEvent}
    (hsave : MaySave calls w i event) : Leaves j w [(i, event)] where
  sent e he _ row _ := by
    obtain rfl := List.mem_singleton.1 he
    exact hsave.sendsRow row
  expired e he _ entry hentry houtcome hbegan := by
    obtain rfl := List.mem_singleton.1 he
    rcases hsave.rest entry hentry with hold | hlast
    · exact hold
    · cases hsave.last entry hlast with
      | begun _ hstarted =>
          rw [hstarted] at houtcome
          cases houtcome
      | recorded _ _ _ _ _ _ _ hexpired =>
        exact absurd (h.unique _ _ _ hbegan (hexpired houtcome)) hij

theorem continues_storeWriter (w : RouteWorld ι) (i : ι) (p : UUID) (c : WriterCheckpoint) :
    Continues w (w.storeWriter i p c) [(i, .savedWriter p c)] :=
  .of_table rfl rfl fun e he s hs => by
    obtain rfl := List.mem_singleton.1 he
    cases hs

theorem continues_storeActivation (w : RouteWorld ι) (i : ι) (p : UUID) (c : ActivationCheckpoint) :
    Continues w (w.storeActivation i p c) [(i, .savedActivation p c)] :=
  .of_table rfl rfl fun e he s hs => by
    obtain rfl := List.mem_singleton.1 he
    cases hs

theorem Journaled.storeWriter (h : Journaled calls w) (hp : OperationIdsPromised calls)
    (hinv : RouteInv calls w) {i : ι} {p : UUID} {c : WriterCheckpoint}
    (hsave : MaySave calls w i (.savedWriter p c))
    (hkept : ∀ old, w.writerCheckpoints p = some old →
      old.operations.map WriterOperation.intent <+: c.operations.map WriterOperation.intent)
    (hhistory : PersistentRouteWriterJournal.History p c.operations) :
    Journaled calls (w.storeWriter i p c) := by
  have hc := continues_storeWriter w i p c
  have hold : ∀ {e : ι × RouteEvent}, e ∈ (w.storeWriter i p c).history →
      e = (i, .savedWriter p c) ∨ e ∈ w.history := fun he => List.mem_cons.1 he
  have hstored : ∀ q, (w.storeWriter i p c).writerCheckpoints q =
      if q = p then some c else w.writerCheckpoints q := fun q => Function.update_apply _ _ _ _
  refine h.save hp hinv hsave hc ?_ ?_ ?_ ?_ ?_ ?_
  · intro q c' hc'
    rw [hstored] at hc'
    split at hc'
    next heq =>
      obtain rfl := Option.some.inj hc'
      exact ⟨i, heq ▸ List.mem_cons_self⟩
    next =>
      obtain ⟨j, hj⟩ := h.storedWriter q c' hc'
      exact ⟨j, hc.mem hj⟩
  · intro q c' hc'
    obtain ⟨j, hj⟩ := h.storedActivation q c' hc'
    exact ⟨j, hc.mem hj⟩
  · intro j q c' hevent
    rw [hstored]
    rcases hold hevent with heq | hevent
    · cases heq
      exact ⟨c, if_pos rfl, List.prefix_rfl⟩
    · obtain ⟨old, hold, hbefore⟩ := h.writerKept j q c' hevent
      split
      next heq => exact ⟨c, rfl, hbefore.trans (hkept old (heq ▸ hold))⟩
      next => exact ⟨old, hold, hbefore⟩
  · intro j q c' hevent
    rcases hold hevent with heq | hevent
    · cases heq
    · exact h.activationKept j q c' hevent
  · intro j q c' hevent
    rcases hold hevent with heq | hevent
    · cases heq
      exact hhistory
    · exact h.writerHistory j q c' hevent
  · intro j q c' hevent
    rcases hold hevent with heq | hevent
    · cases heq
    · exact h.activationRecorded j q c' hevent

theorem Journaled.storeActivation (h : Journaled calls w) (hp : OperationIdsPromised calls)
    (hinv : RouteInv calls w) {i : ι} {p : UUID} {c : ActivationCheckpoint}
    (hsave : MaySave calls w i (.savedActivation p c))
    (hkept : ∀ old, w.activationCheckpoints p = some old → c.intent = old.intent)
    (hrecorded : c.intent.toRecord = .ok c.intent) :
    Journaled calls (w.storeActivation i p c) := by
  have hc := continues_storeActivation w i p c
  have hold : ∀ {e : ι × RouteEvent}, e ∈ (w.storeActivation i p c).history →
      e = (i, .savedActivation p c) ∨ e ∈ w.history := fun he => List.mem_cons.1 he
  have hstored : ∀ q, (w.storeActivation i p c).activationCheckpoints q =
      if q = p then some c else w.activationCheckpoints q := fun q => Function.update_apply _ _ _ _
  refine h.save hp hinv hsave hc ?_ ?_ ?_ ?_ ?_ ?_
  · intro q c' hc'
    obtain ⟨j, hj⟩ := h.storedWriter q c' hc'
    exact ⟨j, hc.mem hj⟩
  · intro q c' hc'
    rw [hstored] at hc'
    split at hc'
    next heq =>
      obtain rfl := Option.some.inj hc'
      exact ⟨i, heq ▸ List.mem_cons_self⟩
    next =>
      obtain ⟨j, hj⟩ := h.storedActivation q c' hc'
      exact ⟨j, hc.mem hj⟩
  · intro j q c' hevent
    rcases hold hevent with heq | hevent
    · cases heq
    · exact h.writerKept j q c' hevent
  · intro j q c' hevent
    rw [hstored]
    rcases hold hevent with heq | hevent
    · cases heq
      exact ⟨c, if_pos rfl, rfl⟩
    · obtain ⟨old, hold, hsame⟩ := h.activationKept j q c' hevent
      split
      next heq => exact ⟨c, rfl, (hkept old (heq ▸ hold)).trans hsame⟩
      next => exact ⟨old, hold, hsame⟩
  · intro j q c' hevent
    rcases hold hevent with heq | hevent
    · cases heq
    · exact h.writerHistory j q c' hevent
  · intro j q c' hevent
    rcases hold hevent with heq | hevent
    · cases heq
      exact hrecorded
    · exact h.activationRecorded j q c' hevent

end

end

end Turnstile
