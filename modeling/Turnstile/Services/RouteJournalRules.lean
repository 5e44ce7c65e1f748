import Turnstile.Services.RouteRules

/-!
# The rules of journals

A journal begins an operation once, and the client that began it may send its batch.
What it records of the operation afterwards is true when it is recorded.  The journals
of publications keep to this, and so do those of which nothing is known, since nothing
is said of their operations.
-/

namespace Turnstile

open Guard

section

variable {ι : Type}

/-! ## Reports -/

/-- What client `i` may say of an operation with this receipt row and batch. -/
structure Reports (w : RouteWorld ι) (i : ι) (row : RouteRow) (body : RouteBatch)
    (outcome : RouteOutcome) : Prop where
  ended : outcome ≠ .started
  truthful : ∀ p, Truthful w ⟨p, row, body, outcome⟩
  expired : outcome = .expiredBeforeDispatch → Began w i row

/-- The operation with this receipt row and batch is recorded. -/
def Known (w : RouteWorld ι) (row : RouteRow) (body : RouteBatch) : Prop :=
  ∃ e, Saved w e ∧ e.row = row ∧ e.body = body

theorem Reports.stable {calls : ι → RouteCall} {w w' : RouteWorld ι} {i : ι} {row : RouteRow}
    {body : RouteBatch} {outcome : RouteOutcome} (h : Reports w i row body outcome)
    (hp : OperationIdsPromised calls) (hr : Relies calls i w w') :
    Reports w' i row body outcome := by
  obtain ⟨recent, hc, hown, hleaves⟩ := hr
  refine ⟨h.ended, fun p => (h.truthful p).mono hc fun houtcome event hevent => ?_,
    fun houtcome => (h.expired houtcome).mono hc⟩
  by_cases hi : event.1 = i
  · exact RouteEvent.sendsRow_of_quiet (RouteEvent.quiet_of_passive (hown event hevent hi)) _
  · exact (hleaves hp).sent event hevent hi _ (h.expired houtcome)

/-- Nothing is claimed by the outcomes after which it is not known what became of a batch. -/
theorem Reports.of_silent {w : RouteWorld ι} {i : ι} {row : RouteRow} {body : RouteBatch}
    {outcome : RouteOutcome}
    (h : outcome ∈ [RouteOutcome.conditionalConflict, .unknownNoReplay, .conflict, .unknown]) :
    Reports w i row body outcome := by
  constructor
  · rintro rfl
    exact absurd h (by decide)
  · intro p
    cases outcome <;> trivial
  · rintro rfl
    exact absurd h (by decide)

/-! ## Journals -/

/-- What a journal needs of an intent. -/
structure IntentView (β : Type) where
  operationId : β → UUID
  row : β → RouteRow
  body : β → RouteBatch

def writerView : IntentView RouteWriterIntent :=
  ⟨fun intent => intent.receipt.operationId,
    fun intent => .writerTransition intent.receipt.operationId, RouteWriterIntent.body⟩

def activationView : IntentView RouteActivationIntent :=
  ⟨fun intent => intent.receipt.operationId,
    fun intent => .transition intent.receipt.operationId, RouteActivationIntent.body⟩

variable (calls : ι → RouteCall)

/-- The call of client `i` makes the operation of an intent, with tags that were read. -/
structure Sendable {β : Type} (v : IntentView β) (w : RouteWorld ι) (i : ι) (b : β) : Prop where
  row : (calls i).receiptRow? = some (v.row b)
  tagged : ∀ x ∈ (v.body b).writes, ∀ etag, x.ifMatch = some etag → etag < w.table.next
  mem : v.row b ∈ (v.body b).rows

/-- A journal that begins an operation once and records what is true. -/
structure KeepsJournal {β σ : Type} (i : ι) (v : IntentView β) (journal : RouteJournal β σ)
    (Open : σ → RouteWorld ι → Prop) (Holds : σ → β → RouteWorld ι → Prop) : Prop where
  opens : ∀ o, Stays (Open o)
  holds : ∀ o b, Stays (Holds o b)
  begin : ∀ {o b w}, RouteWorldInv calls w → Open o w → Sendable calls v w i b →
    RouteMeets calls i (fun o' w' => Holds o' b w' ∧ MaySend calls i (v.body b) w')
      (fun _ _ => True) (journal.beginOnce o b) w
  record : ∀ {o b w outcome}, RouteWorldInv calls w → Holds o b w →
    (OperationIdsPromised calls → Known w (v.row b) (v.body b) →
      Reports w i (v.row b) (v.body b) outcome) →
    RouteMeets calls i (fun _ _ => True) (fun _ _ => True)
      (journal.recordOutcome o (v.operationId b) outcome) w

variable {calls} {i : ι} {w w' : RouteWorld ι}

theorem Sendable.mono {β : Type} {v : IntentView β} {b : β} {recent : List (ι × RouteEvent)}
    (h : Sendable calls v w i b) (hc : Continues w w' recent) : Sendable calls v w' i b :=
  { h with tagged := fun x hx etag hetag =>
      Nat.lt_of_lt_of_le (h.tagged x hx etag hetag) hc.table.next_le }

/-- One that is not of a publication may send its batch. -/
theorem maySend_of_other {b : RouteBatch} (h : (calls i).publication? = none) :
    MaySend calls i b w := by
  intro _ p hpublication
  rw [h] at hpublication
  cases hpublication

/-- Journals of another kind. -/
theorem keeps_otherJournal {β : Type} (v : IntentView β) (h : (calls i).publication? = none) :
    KeepsJournal calls i v (otherJournal : RouteJournal β Unit) (fun _ _ => True)
      (fun _ _ _ => True) where
  opens _ := fun _ _ _ _ _ => trivial
  holds _ _ := fun _ _ _ _ _ => trivial
  begin _ _ _ := meets_other (fun _ _ _ => ⟨trivial, maySend_of_other h⟩) fun _ _ _ _ => trivial
  record _ _ _ := meets_other (fun _ _ _ => trivial) fun _ _ _ _ => trivial

/-- Whoever saves the first entry of an operation may send its batch. -/
theorem maySend_of_begun (hw : RouteWorldInv calls w) {event : RouteEvent} {e : JournalEntry}
    (hhistory : w'.history = (i, event) :: w.history) (hlast : event.entries.getLast? = some e)
    (hstarted : e.outcome = .started) (hrow : (calls i).receiptRow? = some e.row)
    (hpublication : (calls i).publication? = some e.publicationId)
    (hsave : OperationIdsPromised calls → MaySave calls w i event)
    (hfresh : OperationIdsPromised calls → ∀ e', Saved w e' → e'.row ≠ e.row) :
    MaySend calls i e.body w' := by
  intro hp p hp'
  obtain rfl : e.publicationId = p := Option.some.inj (hpublication.symm.trans hp')
  have hmem : (i, event) ∈ w'.history := by
    rw [hhistory]
    exact List.mem_cons_self
  refine ⟨e, ⟨_, hmem, List.mem_of_getLast? hlast⟩, rfl, rfl, hrow,
    ⟨event, e, hmem, hlast, rfl, hstarted⟩, ?_, ?_⟩
  · intro event' hevent'
    rw [hhistory] at hevent'
    rcases List.mem_cons.1 hevent' with rfl | hevent'
    · exact (hsave hp).sendsRow _
    · exact (hw.journals hp).unsent_of_fresh hp hw.table hrow hpublication (hfresh hp) _ hevent'
  · rintro e' ⟨event', hevent', hentry⟩ hsame
    rw [hhistory] at hevent'
    rcases List.mem_cons.1 hevent' with rfl | hevent'
    · rcases (hsave hp).rest e' hentry with hold | hlast'
      · exact absurd hsame (hfresh hp e' hold)
      · rw [hlast] at hlast'
        obtain rfl := Option.some.inj hlast'
        rw [hstarted]
        decide
    · exact absurd hsame (hfresh hp e' ⟨event', hevent', hentry⟩)

/-! ## The journal of writer operations -/

namespace PersistentRouteWriterJournal

/-- What the object of a loaded journal holds. -/
structure Loaded (calls : ι → RouteCall) (j : PersistentRouteWriterJournal) (w : RouteWorld ι) :
    Prop where
  held : j.stored = some j.checkpoint ∨ (j.stored = none ∧ j.checkpoint.operations = [])
  saved : OperationIdsPromised calls → ∀ c, j.stored = some c →
    ∃ k, (k, RouteEvent.savedWriter j.publicationId c) ∈ w.history
  history : History j.publicationId j.checkpoint.operations

/-- The last operation of a loaded journal. -/
def Holds (calls : ι → RouteCall) (j : PersistentRouteWriterJournal) (intent : RouteWriterIntent)
    (w : RouteWorld ι) : Prop :=
  Loaded calls j w ∧
    ∃ operations outcome, j.checkpoint.operations = operations ++ [⟨intent, outcome⟩]

theorem stays_loaded (j : PersistentRouteWriterJournal) : Stays (ι := ι) (Loaded calls j) := by
  intro w w' recent hc h
  refine { h with saved := fun hp c hstored => ?_ }
  obtain ⟨k, hk⟩ := h.saved hp c hstored
  exact ⟨k, hc.mem hk⟩

theorem stays_holds (j : PersistentRouteWriterJournal) (intent : RouteWriterIntent) :
    Stays (ι := ι) (Holds calls j intent) :=
  fun _ _ _ hc h => ⟨stays_loaded j _ _ _ hc h.1, h.2⟩

/-- Every operation of a loaded journal was saved. -/
theorem Loaded.entry {j : PersistentRouteWriterJournal} (h : Loaded calls j w)
    (hp : OperationIdsPromised calls) {o : WriterOperation} (ho : o ∈ j.checkpoint.operations) :
    Saved w (o.entry j.publicationId) := by
  rcases h.held with hstored | ⟨-, hnone⟩
  · obtain ⟨k, hk⟩ := h.saved hp _ hstored
    exact ⟨_, hk, List.mem_map_of_mem ho⟩
  · rw [hnone] at ho
    cases ho

/-- An operation that the journal does not know was never begun. -/
theorem Loaded.fresh {j : PersistentRouteWriterJournal} (h : Loaded calls j w)
    (hw : RouteWorldInv calls w) (hp : OperationIdsPromised calls)
    (hcurrent : w.writerCheckpoints j.publicationId = j.stored)
    (hpublication : (calls i).publication? = some j.publicationId) {operationId : UUID}
    (hrow : (calls i).receiptRow? = some (.writerTransition operationId))
    (hid : operationId ∉ j.checkpoint.operationIds) (e : JournalEntry) (he : Saved w e) :
    e.row ≠ .writerTransition operationId := by
  intro hsame
  obtain ⟨k, -, hcall, hpub⟩ := ((hw.journals hp).proper e he).begun
  have hpromise := hp i k _ hrow (hsame ▸ hcall)
  rw [hpublication, hpub, Option.some.injEq] at hpromise
  obtain ⟨⟨k', event⟩, hevent, hmem⟩ := he
  cases event with
  | savedWriter p c =>
      obtain ⟨o, ho, rfl⟩ := List.mem_map.1 hmem
      obtain rfl : j.publicationId = p := hpromise
      obtain ⟨stored, hstored, hkept⟩ := (hw.journals hp).writerKept _ _ _ hevent
      rw [hcurrent] at hstored
      rcases h.held with hheld | ⟨hnone, -⟩
      · rw [hheld, Option.some.injEq] at hstored
        obtain ⟨o', ho', hintent⟩ := List.mem_map.1 (hkept.subset (List.mem_map_of_mem ho))
        refine hid (List.mem_map.2 ⟨o', hstored ▸ ho', ?_⟩)
        rw [hintent]
        exact RouteRow.writerTransition.inj hsame
      · rw [hnone] at hstored
        cases hstored
  | savedActivation p c =>
      obtain rfl := List.mem_singleton.1 hmem
      cases hsame
  | observed key row => cases hmem
  | sent s => cases hmem
  | applied s => cases hmem

theorem entries_append {p : UUID} {c : WriterCheckpoint} {operations : List WriterOperation}
    {o : WriterOperation} (h : c.operations = operations ++ [o]) :
    (RouteEvent.savedWriter p c).entries =
      operations.map (WriterOperation.entry p) ++ [o.entry p] := by
  simp [RouteEvent.entries, h]

/-- A checkpoint with one more entry may be saved when the entry may be added. -/
theorem maySave {j : PersistentRouteWriterJournal} {c : WriterCheckpoint}
    {operations : List WriterOperation} {o : WriterOperation}
    (hc : c.operations = operations ++ [o])
    (hold : ∀ o' ∈ operations, Saved w (o'.entry j.publicationId))
    (hadded : Added calls w i (o.entry j.publicationId)) :
    MaySave calls w i (.savedWriter j.publicationId c) := by
  have hentries := entries_append (p := j.publicationId) hc
  refine ⟨fun s h => (by cases h), fun e he => ?_, fun e he => ?_⟩
  · rw [hentries, List.getLast?_concat, Option.some.injEq] at he
    exact he ▸ hadded
  · rw [hentries] at he ⊢
    rcases List.mem_append.1 he with he | he
    · obtain ⟨o', ho', rfl⟩ := List.mem_map.1 he
      exact .inl (hold o' ho')
    · obtain rfl := List.mem_singleton.1 he
      exact .inr List.getLast?_concat

theorem begun_saves {j : PersistentRouteWriterJournal} {intent : RouteWriterIntent}
    {c : WriterCheckpoint} (hbegun : j.begun intent = .ok c) (h : Loaded calls j w)
    (hw : RouteWorldInv calls w) (hp : OperationIdsPromised calls)
    (hcurrent : w.writerCheckpoints j.publicationId = j.stored)
    (hpublication : (calls i).publication? = some j.publicationId)
    (hsend : Sendable calls writerView w i intent) : SavesWriter calls w i j.publicationId c := by
  obtain ⟨-, hid, -, hoperations⟩ := begun_eq_ok hbegun
  refine ⟨maySave hoperations (fun o ho => h.entry hp ho) ?_, ?_, h.history.begun hbegun⟩
  · exact .begun (h.fresh hw hp hcurrent hpublication hsend.row hid) rfl hsend.row hpublication
      hsend.tagged hsend.mem
  · intro old hold
    rw [hcurrent] at hold
    rcases h.held with hheld | ⟨hnone, -⟩
    · rw [hheld, Option.some.injEq] at hold
      rw [hoperations, ← hold, List.map_append]
      exact List.prefix_append _ _
    · rw [hnone] at hold
      cases hold

theorem recorded_saves {j : PersistentRouteWriterJournal} {intent : RouteWriterIntent}
    {outcome : RouteOutcome} {c : WriterCheckpoint}
    (h : Holds calls j intent w) (hp : OperationIdsPromised calls)
    (hrecorded : j.recorded intent.receipt.operationId outcome = .ok (some c))
    (hcurrent : w.writerCheckpoints j.publicationId = j.stored)
    (hreports : Reports w i (.writerTransition intent.receipt.operationId) intent.body outcome) :
    SavesWriter calls w i j.publicationId c := by
  obtain ⟨hloaded, operations, before, hlist⟩ := h
  obtain ⟨operations', o, hlist', -, ⟨-, hcandidate⟩ | ⟨c', -, hcandidate, -, hoperations⟩⟩ :=
    recorded_eq_ok hrecorded
  · cases hcandidate
  obtain rfl := Option.some.inj hcandidate
  obtain ⟨rfl, ho⟩ := List.append_inj' (hlist.symm.trans hlist') rfl
  obtain rfl := List.singleton_injective ho
  have hentry := hloaded.entry hp (o := ⟨intent, before⟩) (by rw [hlist]; simp)
  refine ⟨maySave hoperations (fun o ho => hloaded.entry hp (by rw [hlist]; simp [ho])) ?_, ?_, ?_⟩
  · exact .recorded _ hentry rfl rfl rfl hreports.ended (hreports.truthful _) hreports.expired
  · intro old hold
    rw [hcurrent] at hold
    rcases hloaded.held with hheld | ⟨hnone, -⟩
    · rw [hheld, Option.some.injEq] at hold
      rw [hoperations, ← hold, hlist, List.map_append, List.map_append]
      exact List.prefix_rfl
    · rw [hnone] at hold
      cases hold
  · have hhistory := hloaded.history
    rw [hlist] at hhistory
    rw [hoperations]
    exact hhistory.recorded_last

/-- The writer journal of a publication keeps to the rules in the calls of the publication. -/
theorem keeps_journal : KeepsJournal calls i writerView journal
    (fun j w => Loaded calls j w ∧ (calls i).publication? = some j.publicationId)
    (Holds calls) where
  opens j := fun _ _ _ hc h => ⟨stays_loaded j _ _ _ hc h.1, h.2⟩
  holds := stays_holds
  begin := by
    rintro j intent w hw ⟨hloaded, hpublication⟩ hsend
    refine meets_lifted (fun c hbegun => ?_) fun _ _ _ _ => trivial
    obtain ⟨-, hid, -, hoperations⟩ := begun_eq_ok hbegun
    have hsaves : ∀ w', Relies calls i w w' → RouteWorldInv calls w' →
        w'.writerCheckpoints j.publicationId = j.stored → OperationIdsPromised calls →
        SavesWriter calls w' i j.publicationId c := fun w' hr hw' hcurrent hp => by
      obtain ⟨recent, hc⟩ := hr.continues
      exact begun_saves hbegun (stays_loaded j _ _ _ hc hloaded) hw' hp hcurrent hpublication
        (hsend.mono hc)
    refine meets_saveWriter hsaves (fun w' w'' hr hw' hcurrent hstored hr' _ => ?_)
      fun _ _ => trivial
    obtain ⟨recent, hc⟩ := hr.continues
    have hlast : (RouteEvent.savedWriter j.publicationId c).entries.getLast? =
        some (WriterOperation.entry j.publicationId ⟨intent, .started⟩) := by
      rw [entries_append hoperations, List.getLast?_concat]
    refine ⟨⟨⟨.inl rfl, fun _ c' hc' => ?_, hloaded.history.begun hbegun⟩, _, .started,
      hoperations⟩, ?_⟩
    · obtain rfl := Option.some.inj hc'
      exact ⟨i, hr'.continues.choose_spec.mem List.mem_cons_self⟩
    · refine MaySend.stable ?_ hr'
      exact maySend_of_begun hw' rfl hlast rfl hsend.row hpublication
        (fun hp => (hsaves w' hr hw' hcurrent hp).may)
        fun hp => (stays_loaded j _ _ _ hc hloaded).fresh hw' hp hcurrent hpublication hsend.row hid
  record := by
    intro j intent w outcome hw h hreports
    refine meets_lifted (fun candidate hrecorded => ?_) fun _ _ _ _ => trivial
    cases candidate with
    | none => exact meets_ended fun _ _ _ => trivial
    | some c =>
        refine RouteMeets.bind (R := fun _ _ => True) hw ?_ fun _ _ _ _ =>
          meets_ended fun _ _ _ => trivial
        refine meets_saveWriter (fun w' hr hw' hcurrent hp => ?_) (fun _ _ _ _ _ _ _ _ => trivial)
          fun _ _ => trivial
        obtain ⟨recent, hc⟩ := hr.continues
        obtain ⟨hloaded, operations, before, hlist⟩ := id h
        have hentry := hloaded.entry hp (o := ⟨intent, before⟩) (by rw [hlist]; simp)
        exact recorded_saves (stays_holds j intent _ _ _ hc h) hp hrecorded hcurrent
          ((hreports hp ⟨_, hentry, rfl, rfl⟩).stable hp hr)

/-- What is loaded holds what is stored. -/
theorem meets_load {α : Type} {Q : α → RouteWorld ι → Prop}
    {E : RouteError → RouteWorld ι → Prop} {publicationId : UUID} {contextSha256 : Sha256 String}
    {f : PersistentRouteWriterJournal → RouteClient α} (hw : RouteWorldInv calls w)
    (h : ∀ j, j.publicationId = publicationId → j.stored = w.writerCheckpoints publicationId →
      Loaded calls j w → RouteMeets calls i Q E (f j) w)
    (hE : ∀ e w', E e w') :
    RouteMeets calls i Q E (Client.lift
      (load publicationId contextSha256 (w.writerCheckpoints publicationId)) >>= f) w := by
  refine meets_lifted (fun j hload => ?_) fun _ _ _ _ => hE _ _
  obtain ⟨-, hhistory, rfl⟩ := load_eq_ok.1 hload
  refine h _ rfl rfl ⟨?_, fun hp c hc => (hw.journals hp).storedWriter _ c hc, hhistory⟩
  cases hstored : w.writerCheckpoints publicationId with
  | none => exact .inr ⟨rfl, rfl⟩
  | some c => exact .inl rfl

theorem meets_connect {α : Type} {Q : α → RouteWorld ι → Prop}
    {E : RouteError → RouteWorld ι → Prop} {publicationId : UUID} {contextSha256 : Sha256 String}
    {f : PersistentRouteWriterJournal → RouteClient α}
    (h : ∀ j w', j.publicationId = publicationId → Loaded calls j w' → RouteWorldInv calls w' →
      RouteMeets calls i Q E (f j) w')
    (hE : ∀ e w', E e w') :
    RouteMeets calls i Q E (connect publicationId contextSha256 >>= f) w := by
  intro w' hr hw' l stored w'' hanswer _
  cases l with
  | plain =>
      cases Option.some.inj hanswer
      exact ⟨.refl hw', meets_load hw' (fun j hj _ hloaded => h j w' hj hloaded hw') hE⟩
  | fail => cases hanswer
  | lost => cases hanswer
  | instant time => cases hanswer
  | raise e => cases hanswer
  | deliver n => cases hanswer

end PersistentRouteWriterJournal

/-! ## The journal of activations -/

namespace PersistentRouteActivationJournal

/-- What the object of a loaded journal holds. -/
structure Loaded (calls : ι → RouteCall) (j : PersistentRouteActivationJournal)
    (w : RouteWorld ι) : Prop where
  saved : OperationIdsPromised calls → ∀ c, j.checkpoint = some c →
    ∃ k, (k, RouteEvent.savedActivation j.publicationId c) ∈ w.history
  recorded : ∀ c, j.checkpoint = some c → c.intent.toRecord = .ok c.intent

/-- The intent of a loaded journal. -/
def Holds (calls : ι → RouteCall) (j : PersistentRouteActivationJournal)
    (intent : RouteActivationIntent) (w : RouteWorld ι) : Prop :=
  Loaded calls j w ∧ ∃ c, j.checkpoint = some c ∧ c.intent = intent

theorem stays_loaded (j : PersistentRouteActivationJournal) : Stays (ι := ι) (Loaded calls j) := by
  intro w w' recent hc h
  refine { h with saved := fun hp c hstored => ?_ }
  obtain ⟨k, hk⟩ := h.saved hp c hstored
  exact ⟨k, hc.mem hk⟩

theorem stays_holds (j : PersistentRouteActivationJournal) (intent : RouteActivationIntent) :
    Stays (ι := ι) (Holds calls j intent) :=
  fun _ _ _ hc h => ⟨stays_loaded j _ _ _ hc h.1, h.2⟩

theorem Loaded.entry {j : PersistentRouteActivationJournal} (h : Loaded calls j w)
    (hp : OperationIdsPromised calls) {c : ActivationCheckpoint} (hc : j.checkpoint = some c) :
    Saved w (c.entry j.publicationId) := by
  obtain ⟨k, hk⟩ := h.saved hp c hc
  exact ⟨_, hk, List.mem_singleton_self _⟩

/-- Where nothing is stored for the publication, its activation was never begun. -/
theorem fresh (hw : RouteWorldInv calls w) (hp : OperationIdsPromised calls) {p : UUID}
    (hcurrent : w.activationCheckpoints p = none) (hpublication : (calls i).publication? = some p)
    {operationId : UUID} (hrow : (calls i).receiptRow? = some (.transition operationId))
    (e : JournalEntry) (he : Saved w e) : e.row ≠ .transition operationId := by
  intro hsame
  obtain ⟨k, -, hcall, hpub⟩ := ((hw.journals hp).proper e he).begun
  have hpromise := hp i k _ hrow (hsame ▸ hcall)
  rw [hpublication, hpub, Option.some.injEq] at hpromise
  obtain ⟨⟨k', event⟩, hevent, hmem⟩ := he
  cases event with
  | savedActivation p' c =>
      obtain rfl := List.mem_singleton.1 hmem
      obtain rfl : p = p' := hpromise
      obtain ⟨stored, hstored, -⟩ := (hw.journals hp).activationKept _ _ _ hevent
      rw [hcurrent] at hstored
      cases hstored
  | savedWriter p' c =>
      obtain ⟨o, -, rfl⟩ := List.mem_map.1 hmem
      cases hsame
  | observed key row => cases hmem
  | sent s => cases hmem
  | applied s => cases hmem

theorem maySave {p : UUID} {c : ActivationCheckpoint} (hadded : Added calls w i (c.entry p)) :
    MaySave calls w i (.savedActivation p c) := by
  refine ⟨fun s h => (by cases h), fun e he => ?_, fun e he => ?_⟩
  · exact (Option.some.inj he) ▸ hadded
  · obtain rfl := List.mem_singleton.1 he
    exact .inr rfl

theorem begun_saves {j : PersistentRouteActivationJournal} {intent : RouteActivationIntent}
    {c : ActivationCheckpoint} (hbegun : j.begun intent = .ok c) (hw : RouteWorldInv calls w)
    (hp : OperationIdsPromised calls)
    (hcurrent : w.activationCheckpoints j.publicationId = j.checkpoint)
    (hpublication : (calls i).publication? = some j.publicationId)
    (hsend : Sendable calls activationView w i intent) :
    SavesActivation calls w i j.publicationId c := by
  obtain ⟨hnone, hrecord, rfl⟩ := begun_eq_ok hbegun
  rw [hnone] at hcurrent
  refine ⟨maySave ?_, fun old hold => ?_, hrecord⟩
  · exact .begun (fresh hw hp hcurrent hpublication hsend.row) rfl hsend.row hpublication
      hsend.tagged hsend.mem
  · rw [hcurrent] at hold
    cases hold

theorem recorded_saves {j : PersistentRouteActivationJournal} {intent : RouteActivationIntent}
    {outcome : RouteOutcome} {c : ActivationCheckpoint} (h : Holds calls j intent w)
    (hp : OperationIdsPromised calls)
    (hrecorded : j.recorded intent.receipt.operationId outcome = .ok (some c))
    (hcurrent : w.activationCheckpoints j.publicationId = j.checkpoint)
    (hreports : Reports w i (.transition intent.receipt.operationId) intent.body outcome) :
    SavesActivation calls w i j.publicationId c := by
  obtain ⟨hloaded, before, hbefore, rfl⟩ := h
  obtain ⟨before', hbefore', -, ⟨-, hcandidate⟩ | ⟨-, hcandidate⟩⟩ := recorded_eq_ok hrecorded
  · cases hcandidate
  obtain rfl := Option.some.inj hcandidate
  obtain rfl := Option.some.inj (hbefore.symm.trans hbefore')
  refine ⟨maySave ?_, fun old hold => ?_, hloaded.recorded before hbefore⟩
  · exact .recorded _ (hloaded.entry hp hbefore) rfl rfl rfl hreports.ended (hreports.truthful _)
      hreports.expired
  · rw [hcurrent, hbefore, Option.some.injEq] at hold
    rw [← hold]

/-- The activation journal of a publication keeps to the rules in the calls of the
publication. -/
theorem keeps_journal : KeepsJournal calls i activationView journal
    (fun j w => Loaded calls j w ∧ (calls i).publication? = some j.publicationId)
    (Holds calls) where
  opens j := fun _ _ _ hc h => ⟨stays_loaded j _ _ _ hc h.1, h.2⟩
  holds := stays_holds
  begin := by
    rintro j intent w hw ⟨hloaded, hpublication⟩ hsend
    refine meets_lifted (fun c hbegun => ?_) fun _ _ _ _ => trivial
    obtain ⟨hnone, hrecord, hcheckpoint⟩ := begun_eq_ok hbegun
    have hsaves : ∀ w', Relies calls i w w' → RouteWorldInv calls w' →
        w'.activationCheckpoints j.publicationId = j.checkpoint → OperationIdsPromised calls →
        SavesActivation calls w' i j.publicationId c := fun w' hr hw' hcurrent hp => by
      obtain ⟨recent, hc⟩ := hr.continues
      exact begun_saves hbegun hw' hp hcurrent hpublication (hsend.mono hc)
    refine meets_saveActivation hsaves (fun w' w'' hr hw' hcurrent hstored hr' _ => ?_)
      fun _ _ => trivial
    obtain ⟨recent, hc⟩ := hr.continues
    have hlast : (RouteEvent.savedActivation j.publicationId c).entries.getLast? =
        some (c.entry j.publicationId) := rfl
    refine ⟨⟨⟨fun _ c' hc' => ?_, fun c' hc' => ?_⟩, c, rfl, by rw [hcheckpoint]⟩, ?_⟩
    · obtain rfl := Option.some.inj hc'
      exact ⟨i, hr'.continues.choose_spec.mem List.mem_cons_self⟩
    · obtain rfl := Option.some.inj hc'
      rw [hcheckpoint]
      exact hrecord
    · refine MaySend.stable ?_ hr'
      subst hcheckpoint
      exact maySend_of_begun hw' rfl hlast rfl hsend.row hpublication
        (fun hp => (hsaves w' hr hw' hcurrent hp).may)
        fun hp => fresh hw' hp (hcurrent.trans hnone) hpublication hsend.row
  record := by
    intro j intent w outcome hw h hreports
    refine meets_lifted (fun candidate hrecorded => ?_) fun _ _ _ _ => trivial
    cases candidate with
    | none => exact meets_ended fun _ _ _ => trivial
    | some c =>
        refine RouteMeets.bind (R := fun _ _ => True) hw ?_ fun _ _ _ _ =>
          meets_ended fun _ _ _ => trivial
        refine meets_saveActivation (fun w' hr hw' hcurrent hp => ?_)
          (fun _ _ _ _ _ _ _ _ => trivial) fun _ _ => trivial
        obtain ⟨recent, hc⟩ := hr.continues
        obtain ⟨hloaded, before, hbefore, hintent⟩ := id h
        have hentry := hloaded.entry hp hbefore
        rw [ActivationCheckpoint.entry, hintent] at hentry
        exact recorded_saves (stays_holds j intent _ _ _ hc h) hp hrecorded hcurrent
          ((hreports hp ⟨_, hentry, rfl, rfl⟩).stable hp hr)

/-- What is loaded holds what is stored. -/
theorem meets_load {α : Type} {Q : α → RouteWorld ι → Prop}
    {E : RouteError → RouteWorld ι → Prop} {publicationId : UUID} {contextSha256 : Sha256 String}
    {f : PersistentRouteActivationJournal → RouteClient α} (hw : RouteWorldInv calls w)
    (h : ∀ j, j.publicationId = publicationId →
      j.checkpoint = w.activationCheckpoints publicationId → Loaded calls j w →
      RouteMeets calls i Q E (f j) w)
    (hE : ∀ e w', E e w') :
    RouteMeets calls i Q E (Client.lift
      (load publicationId contextSha256 (w.activationCheckpoints publicationId)) >>= f) w := by
  refine meets_lifted (fun j hload => ?_) fun _ _ _ _ => hE _ _
  obtain ⟨hid, hcheckpoint⟩ := checkpoint_of_load hload
  refine h j hid hcheckpoint ⟨fun hp c hc => ?_, fun c hc => ?_⟩
  · rw [hid]
    exact (hw.journals hp).storedActivation _ c (hcheckpoint ▸ hc)
  · rw [hcheckpoint] at hc
    rw [hc] at hload
    obtain ⟨-, r, hrecord⟩ := load_eq_ok.1 ⟨j, hload⟩
    obtain ⟨rfl, -⟩ := RouteActivationIntent.toRecord_eq_ok hrecord
    exact hrecord

theorem meets_connect {α : Type} {Q : α → RouteWorld ι → Prop}
    {E : RouteError → RouteWorld ι → Prop} {publicationId : UUID} {contextSha256 : Sha256 String}
    {f : PersistentRouteActivationJournal → RouteClient α}
    (h : ∀ j w', j.publicationId = publicationId → Loaded calls j w' → RouteWorldInv calls w' →
      RouteMeets calls i Q E (f j) w')
    (hE : ∀ e w', E e w') :
    RouteMeets calls i Q E (connect publicationId contextSha256 >>= f) w := by
  intro w' hr hw' l stored w'' hanswer _
  cases l with
  | plain =>
      cases Option.some.inj hanswer
      exact ⟨.refl hw', meets_load hw' (fun j hj _ hloaded => h j w' hj hloaded hw') hE⟩
  | fail => cases hanswer
  | lost => cases hanswer
  | instant time => cases hanswer
  | raise e => cases hanswer
  | deliver n => cases hanswer

end PersistentRouteActivationJournal

end

end Turnstile
