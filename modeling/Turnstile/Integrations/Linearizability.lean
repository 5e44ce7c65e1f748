import Turnstile.Foundation.Serial
import Turnstile.Integrations.AtomicLedger
import Turnstile.Integrations.UnitSwitch
import Turnstile.Ledger.Absorption

/-!
# The atomic table ledger is linearizable

Any number of clients run `reserve`, `settle`, `complete` and `transition` on one
scope.  Every batch that is committed is one operation on the scope that the table
reflects, because both rows were read under tags that still match.  So the log is a
serial history of the operations (`Effects`), in the order of the commits.

A call whose commit was applied is absorbed by the attempt it wrote, however often
it is repeated and whatever the others do.  So no call takes effect twice, whether
or not its client was told.  A call that returned took effect at least once, unless it
has nothing to do: it returns the pair of a commit of its own, or a pair that it read
and that its operation leaves as it is (`Concluded`).
-/

namespace Turnstile

open Guard

/-! ## Calls -/

/-- A call of one of the four methods. -/
inductive LedgerCall where
  | reserve (reservation : Reservation) (attempts : ℕ)
  | settle (charge : LedgerCharge)
  | complete (receipt : LedgerAdmissionReceipt) (completion : Decoded Completion)
  | transition (identity : LedgerAttemptIdentity) (state : TransitionState)

/-- What a call returns; only a reservation says whether it was created. -/
structure LedgerReply where
  summary : LedgerSummary
  attempt : LedgerAttempt
  created : Option Bool

/-- The reply of a reservation. -/
def ReservedLedgerAttempt.reply (x : ReservedLedgerAttempt) : LedgerReply :=
  ⟨x.summary, x.attempt, some x.created⟩

namespace LedgerCall

/-- The request the call is about. -/
def identity : LedgerCall → LedgerAttemptIdentity
  | .reserve r _ => r.identity
  | .settle charge => charge.identity
  | .complete receipt _ => receipt.identity
  | .transition identity _ => identity

/-- The operation on the scope that the call stands for. -/
def op : LedgerCall → LedgerOp
  | .reserve r _ =>
      .reserve r.identity r.reservedTokens r.reservedUsd r.priceSnapshot .verifiedUpperBound
  | .settle charge => .settle charge.identity.attemptKey charge
  | .complete receipt completion => .complete receipt.identity.attemptKey receipt completion
  | .transition identity state => .transition identity.attemptKey state

/-- The epoch that the call insists on. -/
def epoch? : LedgerCall → Option UUID
  | .reserve r _ => some r.epoch
  | _ => none

/-- The method's program. -/
def program : LedgerCall → LedgerProgram LedgerReply
  | .reserve r attempts => do
      let x ← Turnstile.reserve r attempts
      pure x.reply
  | .settle charge => do
      let (summary, attempt) ← Turnstile.settle charge
      pure ⟨summary, attempt, none⟩
  | .complete receipt completion => do
      let (summary, attempt) ← Turnstile.complete receipt completion
      pure ⟨summary, attempt, none⟩
  | .transition identity state => do
      let (summary, attempt) ← Turnstile.transition identity state
      pure ⟨summary, attempt, none⟩

@[simp] theorem op_key? (call : LedgerCall) : call.op.key? = some call.identity.attemptKey := by
  cases call <;> rfl

theorem op_key?_ne_none (call : LedgerCall) : call.op.key? ≠ none := by
  rw [op_key?]
  exact Option.some_ne_none _

/-- The scope holds the outcome of the call already. -/
def Absorbed (call : LedgerCall) (l : Ledger) : Prop :=
  l.Absorbs call.op ∧ ∀ epoch ∈ call.epoch?, l.summary.epoch = epoch

/-- The call has nothing to do: the attempt is stored as a reservation asks for it, or
the operation leaves the scope as it is. -/
def Done (call : LedgerCall) (l : Ledger) : Prop :=
  match call with
  | .reserve r _ => ∃ attempt, l.attempts.lookup r.identity.attemptKey = some attempt ∧
      r.Same l.summary attempt
  | call => ∃ now, l.Keeps call.op now

end LedgerCall

/-! ## Commits as effects -/

/-- The rows of the scope hold the documents of the ledger. -/
structure Reflects (scope : LedgerScope) (t : Table RowKey LedgerDocument) (l : Ledger) : Prop where
  summary : (t.rows (summaryKey scope)).map Row.document = some (.summary l.summary)
  attempts : ∀ key, (t.rows ⟨scope, .attempt key⟩).map Row.document
    = (l.attempts.lookup key).map .attempt

/-- The batch is the call's operation on `l`, carried out. -/
structure CallEffect (call : LedgerCall) (l : Ledger) (batch : List (Write RowKey LedgerDocument))
    (l' : Ledger) : Prop where
  epoch : ∀ epoch ∈ call.epoch?, l.summary.epoch = epoch
  applied : ∃ now, l.apply call.op now = .ok l'
  version : l'.summary.version = l.summary.version + 1
  committed : ∃ attempt summaryEtag attemptEtag,
    l'.attempts.lookup call.identity.attemptKey = some attempt ∧
      batch = pairBatch call.identity l'.summary attempt summaryEtag attemptEtag

section Effects

variable {ι : Type} (calls : ι → LedgerCall)

/-- The effect of a commit is that of its client's call. -/
def Effects (l : Ledger) (c : Commit ι RowKey LedgerDocument) (l' : Ledger) : Prop :=
  CallEffect (calls c.client) l c.batch l'

/-- A call that took effect is absorbed from then on. -/
theorem effects_absorbing :
    Absorbing Ledger.AllCoherent (Effects calls) (fun c => calls c.client)
      LedgerCall.Absorbed where
  keeps l c l' hcoherent heffect := by
    obtain ⟨now, happly⟩ := heffect.applied
    exact hcoherent.step happly
  ineffective l c l' _ habsorbed heffect := by
    obtain ⟨now, happly⟩ := heffect.applied
    have hversion := heffect.version
    rw [habsorbed.1.unchanged happly] at hversion
    omega
  absorbs l c l' _ heffect := by
    obtain ⟨now, happly⟩ := heffect.applied
    have hop := (calls c.client).op_key?_ne_none
    refine ⟨Ledger.absorbs_of_changed hop happly fun hsame => ?_, fun epoch hepoch => ?_⟩
    · have hversion := heffect.version
      rw [hsame] at hversion
      omega
    · rw [(Ledger.keepsTerms_of_apply hop happly).epoch]
      exact heffect.epoch epoch hepoch
  stays l call c l' hcoherent habsorbed heffect := by
    obtain ⟨now, happly⟩ := heffect.applied
    have hop := (calls c.client).op_key?_ne_none
    refine ⟨habsorbed.1.step hcoherent happly, fun epoch hepoch => ?_⟩
    rw [(Ledger.keepsTerms_of_apply hop happly).epoch]
    exact habsorbed.2 epoch hepoch

end Effects

/-! ## The table and the ledger it reflects -/

section Reflects

variable {scope : LedgerScope} {t : Table RowKey LedgerDocument} {l : Ledger}

theorem Reflects.summary_row (h : Reflects scope t l) :
    ∃ etag, t.rows (summaryKey scope) = some ⟨.summary l.summary, etag⟩ := by
  obtain ⟨⟨document, etag⟩, hrow, hdocument⟩ := Option.map_eq_some_iff.1 h.summary
  exact ⟨etag, by rw [hrow, ← hdocument]⟩

theorem Reflects.summary_eq (h : Reflects scope t l) {row : Row LedgerDocument}
    (hrow : t.rows (summaryKey scope) = some row) : row.document = .summary l.summary := by
  have hsummary := h.summary
  rw [hrow] at hsummary
  exact Option.some.inj hsummary

theorem Reflects.attempt_eq (h : Reflects scope t l) {key : AttemptKey} {attempt : LedgerAttempt}
    {etag : ℕ} (hrow : t.rows ⟨scope, .attempt key⟩ = some ⟨.attempt attempt, etag⟩) :
    l.attempts.lookup key = some attempt := by
  have hattempts := h.attempts key
  rw [hrow] at hattempts
  cases hlookup : l.attempts.lookup key with
  | none => simp [hlookup] at hattempts
  | some attempt' =>
      rw [hlookup] at hattempts
      cases hattempts
      rfl

theorem Reflects.attempt_row (h : Reflects scope t l) {key : AttemptKey} {attempt : LedgerAttempt}
    (hlookup : l.attempts.lookup key = some attempt) :
    ∃ etag, t.rows ⟨scope, .attempt key⟩ = some ⟨.attempt attempt, etag⟩ := by
  have hattempts := h.attempts key
  rw [hlookup] at hattempts
  obtain ⟨⟨document, etag⟩, hrow, hdocument⟩ := Option.map_eq_some_iff.1 hattempts
  exact ⟨etag, by rw [hrow, ← hdocument]⟩

theorem Reflects.attempt_none (h : Reflects scope t l) {key : AttemptKey} :
    t.rows ⟨scope, .attempt key⟩ = none ↔ l.attempts.lookup key = none := by
  rw [← Option.map_eq_none_iff (f := Row.document), h.attempts key, Option.map_eq_none_iff]

/-- A committed pair is reflected as one insertion. -/
theorem Reflects.apply (h : Reflects scope t l) {identity : LedgerAttemptIdentity}
    (hscope : identity.scope = scope) (summary' : LedgerSummary) (attempt' : LedgerAttempt)
    (summaryEtag : ℕ) (attemptEtag : Option ℕ) :
    Reflects scope (t.apply (pairBatch identity summary' attempt' summaryEtag attemptEtag))
      ⟨summary', l.attempts.insert identity.attemptKey attempt'⟩ := by
  subst hscope
  refine ⟨?_, fun key => ?_⟩
  · simp [pairBatch, Table.apply]
  · by_cases hkey : key = identity.attemptKey
    · subst hkey
      simp [pairBatch, Table.apply, summaryKey, LedgerAttemptIdentity.rowKey]
    · have hne : identity.attemptKey ≠ key := fun heq => hkey heq.symm
      rw [AList.lookup_insert_ne hkey, ← h.attempts key]
      simp [pairBatch, Table.apply, summaryKey, LedgerAttemptIdentity.rowKey, hne]

end Reflects

/-! ## Clients keep to the serial protocol -/

section Clients

variable {ι : Type} [DecidableEq ι]

/-- The protocol of the clients of one scope that starts as `l₀`. -/
abbrev ledgerProtocol (calls : ι → LedgerCall) (scope : LedgerScope) (l₀ : Ledger) :
    Protocol ι RowKey LedgerDocument :=
  serial (Reflects scope) (Effects calls) l₀

/-- The attempt was stored at some time up to now. -/
def StoredAttempt (calls : ι → LedgerCall) (l₀ : Ledger) (key : AttemptKey)
    (attempt : LedgerAttempt) (w : World ι RowKey LedgerDocument) : Prop :=
  ∃ before l, before <+: w.log ∧ History (Effects calls) l₀ before l ∧
    l.attempts.lookup key = some attempt

/-- The summary was stored at some time up to now. -/
def StoredSummary (calls : ι → LedgerCall) (l₀ : Ledger) (summary : LedgerSummary)
    (w : World ι RowKey LedgerDocument) : Prop :=
  ∃ before l, before <+: w.log ∧ History (Effects calls) l₀ before l ∧ l.summary = summary

/-- What a call that began at `start` returns: the pair that a commit of its own wrote, or
the summary and the attempt that it read, one after the other, of a call that has nothing
to do there.  Nor has it when the attempt is read, if the version still fits. -/
inductive Concluded (calls : ι → LedgerCall) (l₀ : Ledger) (i : ι)
    (start : List (Commit ι RowKey LedgerDocument)) (summary : LedgerSummary)
    (attempt : LedgerAttempt) (w : World ι RowKey LedgerDocument) : Prop where
  | wrote {before : List (Commit ι RowKey LedgerDocument)} (summaryEtag : ℕ)
      (attemptEtag : Option ℕ) : start <+: before →
      before ++ [⟨i, pairBatch (calls i).identity summary attempt summaryEtag attemptEtag, true⟩]
        <+: w.log →
      Concluded calls l₀ i start summary attempt w
  | found {before before' : List (Commit ι RowKey LedgerDocument)} {l l' : Ledger} :
      start <+: before → before <+: before' → before' <+: w.log →
      History (Effects calls) l₀ before l → History (Effects calls) l₀ before' l' →
      l.summary = summary → l'.attempts.lookup (calls i).identity.attemptKey = some attempt →
      (calls i).Done ⟨summary, l'.attempts⟩ →
      (l'.summary.version ≤ maxTokens → (calls i).Done l') →
      Concluded calls l₀ i start summary attempt w

/-- Client `i` was not told of any commit of its own. -/
def Untold (i : ι) (w : World ι RowKey LedgerDocument) : Prop :=
  ∀ c ∈ w.own i, c.reported = false

variable {calls : ι → LedgerCall} {scope : LedgerScope} {l₀ l : Ledger} {i : ι}
  {w w' : World ι RowKey LedgerDocument} {start : List (Commit ι RowKey LedgerDocument)}

theorem Untold.rely (h : Untold i w) (hrely : (ledgerProtocol calls scope l₀).rely i w w') :
    Untold i w' := by
  intro c hc
  rw [hrely.2.2] at hc
  exact h c hc

/-- What client `i` has committed after one more commit of its own. -/
theorem own_commit (w : World ι RowKey LedgerDocument) (i : ι)
    (batch : List (Write RowKey LedgerDocument)) (reported : Bool) :
    (w.commit ⟨i, batch, reported⟩).own i = w.own i ++ [⟨i, batch, reported⟩] := by
  simp [World.own, List.filter_append]

/-- Client `i` was told of no commit of its own, and its call began at `start`. -/
structure Begun (start : List (Commit ι RowKey LedgerDocument)) (i : ι)
    (w : World ι RowKey LedgerDocument) : Prop where
  untold : Untold i w
  after : start <+: w.log

theorem Untold.commit (h : Untold i w) (batch : List (Write RowKey LedgerDocument)) :
    Untold i (w.commit ⟨i, batch, false⟩) := by
  intro c hc
  rw [own_commit, List.mem_append, List.mem_singleton] at hc
  rcases hc with hc | rfl
  · exact h c hc
  · rfl

theorem Begun.rely (h : Begun start i w) (hrely : (ledgerProtocol calls scope l₀).rely i w w') :
    Begun start i w' :=
  ⟨h.untold.rely hrely, h.after.trans hrely.2.1⟩

theorem Begun.commit (h : Begun start i w) (batch : List (Write RowKey LedgerDocument)) :
    Begun start i (w.commit ⟨i, batch, false⟩) :=
  ⟨h.untold.commit batch, h.after.trans (List.prefix_append _ _)⟩

theorem StoredAttempt.rely {key : AttemptKey} {attempt : LedgerAttempt}
    (h : StoredAttempt calls l₀ key attempt w)
    (hrely : (ledgerProtocol calls scope l₀).rely i w w') :
    StoredAttempt calls l₀ key attempt w' := by
  obtain ⟨before, l, hinitial, hhistory, hlookup⟩ := h
  exact ⟨before, l, hinitial.trans hrely.2.1, hhistory, hlookup⟩

theorem StoredSummary.rely {summary : LedgerSummary} (h : StoredSummary calls l₀ summary w)
    (hrely : (ledgerProtocol calls scope l₀).rely i w w') : StoredSummary calls l₀ summary w' := by
  obtain ⟨before, l, hinitial, hhistory, heq⟩ := h
  exact ⟨before, l, hinitial.trans hrely.2.1, hhistory, heq⟩

/-- A batch under tags that match is a commit of the pair that was read, when the
pair's new documents are what the operation makes of it. -/
theorem allows_pair {summary' : LedgerSummary} {attempt' : LedgerAttempt} (summaryEtag : ℕ)
    (attemptEtag : Option ℕ) {now : Int} (htagged : w.table.WellTagged)
    (hreflects : Reflects scope w.table l) (hhistory : History (Effects calls) l₀ w.log l)
    (hscope : (calls i).identity.scope = scope)
    (hepoch : ∀ epoch ∈ (calls i).epoch?, l.summary.epoch = epoch)
    (happly : l.apply (calls i).op now
      = .ok ⟨summary', l.attempts.insert (calls i).identity.attemptKey attempt'⟩)
    (hversion : summary'.version = l.summary.version + 1) (reported : Bool) :
    (ledgerProtocol calls scope l₀).Allows i w (w.commit
        ⟨i, pairBatch (calls i).identity summary' attempt' summaryEtag attemptEtag, reported⟩) ∧
      StoredSummary calls l₀ summary' (w.commit
        ⟨i, pairBatch (calls i).identity summary' attempt' summaryEtag attemptEtag, reported⟩) ∧
      StoredAttempt calls l₀ (calls i).identity.attemptKey attempt' (w.commit
        ⟨i, pairBatch (calls i).identity summary' attempt' summaryEtag attemptEtag, reported⟩) := by
  have heffect : Effects calls l
      ⟨i, pairBatch (calls i).identity summary' attempt' summaryEtag attemptEtag, reported⟩
      ⟨summary', l.attempts.insert (calls i).identity.attemptKey attempt'⟩ :=
    ⟨hepoch, ⟨now, happly⟩, hversion,
      ⟨attempt', summaryEtag, attemptEtag, AList.lookup_insert _, rfl⟩⟩
  refine ⟨serial_allows htagged hhistory heffect ?_, ?_, ?_⟩
  · exact hreflects.apply hscope _ _ _ _
  · exact ⟨_, _, List.prefix_refl _, hhistory.snoc heffect, rfl⟩
  · exact ⟨_, _, List.prefix_refl _, hhistory.snoc heffect, AList.lookup_insert _⟩

theorem Concluded.rely {summary : LedgerSummary} {attempt : LedgerAttempt}
    (h : Concluded calls l₀ i start summary attempt w)
    (hrely : (ledgerProtocol calls scope l₀).rely i w w') :
    Concluded calls l₀ i start summary attempt w' := by
  cases h with
  | wrote summaryEtag attemptEtag hstart hlog =>
      exact .wrote summaryEtag attemptEtag hstart (hlog.trans hrely.2.1)
  | found hstart hbefore hlog hhistory hhistory' hsummary hattempt hdone hdone' =>
      exact .found hstart hbefore (hlog.trans hrely.2.1) hhistory hhistory' hsummary hattempt
        hdone hdone'

omit [DecidableEq ι] in
/-- No call changes the terms of the scope. -/
theorem keepsTerms_of_history {log : List (Commit ι RowKey LedgerDocument)}
    (h : History (Effects calls) l₀ log l) :
    KeepsTerms l₀.summary.toSummaryFields l.summary.toSummaryFields := by
  induction h with
  | nil => exact .refl _
  | snoc _ heffect ih =>
      obtain ⟨now, happly⟩ := heffect.applied
      exact ih.trans (Ledger.keepsTerms_of_apply (calls _).op_key?_ne_none happly)

omit [DecidableEq ι] in
/-- The documents a client reads were stored. -/
theorem stored_of_reflects (hreflects : Reflects scope w.table l)
    (hhistory : History (Effects calls) l₀ w.log l) :
    StoredSummary calls l₀ l.summary w ∧
      ∀ key attempt etag, w.table.rows ⟨scope, .attempt key⟩ = some ⟨.attempt attempt, etag⟩ →
        StoredAttempt calls l₀ key attempt w := by
  refine ⟨⟨w.log, l, List.prefix_refl _, hhistory, rfl⟩, fun key attempt etag hrow => ?_⟩
  exact ⟨w.log, l, List.prefix_refl _, hhistory, hreflects.attempt_eq hrow⟩

/-! ## Updates -/

/-- An update that returned saw stored documents and has concluded, and one that raised
was told of no commit. -/
def Updated (calls : ι → LedgerCall) (l₀ : Ledger)
    (start : List (Commit ι RowKey LedgerDocument)) (i : ι)
    (result : Except LedgerError (LedgerSummary × LedgerAttempt))
    (w : World ι RowKey LedgerDocument) : Prop :=
  match result with
  | .ok (summary, attempt) => StoredSummary calls l₀ summary w ∧
      StoredAttempt calls l₀ (calls i).identity.attemptKey attempt w ∧
      Concluded calls l₀ i start summary attempt w
  | .error _ => Untold i w

theorem meets_update_raise (e : LedgerError) (h : Untold i w) :
    (Program.raise e : LedgerProgram (LedgerSummary × LedgerAttempt)).Meets
      (ledgerProtocol calls scope l₀) i (Updated calls l₀ start i) w :=
  fun _ hrely _ => h.rely hrely

theorem meets_update_done {summary : LedgerSummary} {attempt : LedgerAttempt}
    (hsummary : StoredSummary calls l₀ summary w)
    (hattempt : StoredAttempt calls l₀ (calls i).identity.attemptKey attempt w)
    (hconcluded : Concluded calls l₀ i start summary attempt w) :
    (Program.done (.ok (summary, attempt)) :
      LedgerProgram (LedgerSummary × LedgerAttempt)).Meets
      (ledgerProtocol calls scope l₀) i (Updated calls l₀ start i) w :=
  fun _ hrely _ => ⟨hsummary.rely hrely, hattempt.rely hrely, hconcluded.rely hrely⟩

/-- The call applies a transition to the stored attempt. -/
structure Updates (call : LedgerCall) (f : Transition) : Prop where
  op : ∀ l now, l.apply call.op now
    = Ledger.onAttempt l call.identity.attemptKey fun s a => f s a now
  epoch : call.epoch? = none
  /-- Whether it leaves the summary as it is depends on the attempt and the terms. -/
  kept : ∀ s s' a a' now, f s a now = .ok (s, a') →
    KeepsTerms s.toSummaryFields s'.toSummaryFields → s'.version ≤ maxTokens →
    f s' a now = .ok (s', a)
  done : ∀ l now, l.Keeps call.op now → call.Done l

omit [DecidableEq ι] in
/-- What was read of a call that has nothing to do. -/
theorem Updates.concluded {f : Transition} (hupdates : Updates (calls i) f)
    {w₁ w₂ : World ι RowKey LedgerDocument} {l₁ l₂ : Ledger} {attempt result : LedgerAttempt}
    {now : Int} (hstart : start <+: w₁.log) (hlog : w₁.log <+: w₂.log)
    (hhistory₁ : History (Effects calls) l₀ w₁.log l₁)
    (hhistory₂ : History (Effects calls) l₀ w₂.log l₂)
    (hlookup : l₂.attempts.lookup (calls i).identity.attemptKey = some attempt)
    (hresult : f l₁.summary attempt now = .ok (l₁.summary, result)) :
    Concluded calls l₀ i start l₁.summary attempt w₂ := by
  have hterms := (keepsTerms_of_history hhistory₁).symm.trans (keepsTerms_of_history hhistory₂)
  have happly : (⟨l₁.summary, l₂.attempts⟩ : Ledger).apply (calls i).op now
      = .ok ⟨l₁.summary, l₂.attempts.insert (calls i).identity.attemptKey result⟩ := by
    rw [hupdates.op, Ledger.onAttempt_eq_ok]
    exact ⟨attempt, l₁.summary, result, hlookup, hresult, rfl⟩
  obtain rfl : result = attempt :=
    Ledger.attempt_of_kept (l := ⟨l₁.summary, l₂.attempts⟩) (calls i).op_key? hlookup happly
  refine .found hstart hlog (List.prefix_refl _) hhistory₁ hhistory₂ rfl hlookup ?_ ?_
  · exact hupdates.done _ now (Ledger.keeps_of_onAttempt (hupdates.op _ _) hlookup hresult)
  · intro hversion
    exact hupdates.done _ now (Ledger.keeps_of_onAttempt (hupdates.op _ _) hlookup
      (hupdates.kept _ _ _ _ _ hresult hterms hversion))

theorem meets_updateRound {f : Transition} (hupdates : Updates (calls i) f)
    (hscope : (calls i).identity.scope = scope)
    {retry : LedgerProgram (LedgerSummary × LedgerAttempt)}
    (hretry : ∀ w', (ledgerProtocol calls scope l₀).inv w' ∧ Begun start i w' →
      retry.Meets (ledgerProtocol calls scope l₀) i (Updated calls l₀ start i) w')
    (w : World ι RowKey LedgerDocument)
    (hw : (ledgerProtocol calls scope l₀).inv w ∧ Begun start i w) :
    (updateRound (calls i).identity f retry).Meets (ledgerProtocol calls scope l₀) i
      (Updated calls l₀ start i) w := by
  unfold updateRound
  refine Program.Meets.get_bind fun w₁ hrely₁ hinv₁ => ?_
  have hbegun₁ := hw.2.rely hrely₁
  refine Program.Meets.get_bind fun w₂ hrely₂ hinv₂ => ?_
  have hbegun₂ := hbegun₁.rely hrely₂
  cases hsummary : w₁.table.rows (summaryKey (calls i).identity.scope) with
  | none => exact meets_update_raise _ hbegun₂.untold
  | some summaryRow =>
  cases hattempt : w₂.table.rows (calls i).identity.rowKey with
  | none => exact meets_update_raise _ hbegun₂.untold
  | some attemptRow =>
  refine Program.Meets.lift_bind (fun e _ => meets_update_raise e hbegun₂.untold)
    fun state hstate => ?_
  refine Program.Meets.lift_bind (fun e _ => meets_update_raise e hbegun₂.untold)
    fun receipt hreceipt => ?_
  refine Program.Meets.lift_bind (fun e _ => meets_update_raise e hbegun₂.untold) fun _ _ => ?_
  refine Program.Meets.input_bind fun now => ?_
  refine Program.Meets.lift_bind (fun e _ => meets_update_raise e hbegun₂.untold)
    fun changed hresult => ?_
  obtain ⟨updated, result⟩ := changed
  rw [LedgerDocument.asSummary_eq_ok] at hstate
  rw [LedgerDocument.asAttempt_eq_ok] at hreceipt
  obtain ⟨l₁, hreflects₁, hhistory₁⟩ := hinv₁.2
  obtain ⟨l₂, hreflects₂, hhistory₂⟩ := hinv₂.2
  have hrow₂ : w₂.table.rows ⟨scope, .attempt (calls i).identity.attemptKey⟩
      = some ⟨.attempt receipt, attemptRow.etag⟩ := by
    rw [← hscope, ← hreceipt]
    exact hattempt
  have hstate₁ : l₁.summary = state := by
    rw [hscope] at hsummary
    have hdocument := hreflects₁.summary_eq hsummary
    rw [hstate] at hdocument
    cases hdocument
    rfl
  dsimp only
  split
  next hkept =>
    refine meets_update_done ?_ ((stored_of_reflects hreflects₂ hhistory₂).2 _ _ _ hrow₂) ?_
    · exact (hstate₁ ▸ (stored_of_reflects hreflects₁ hhistory₁).1).rely hrely₂
    · subst hstate₁ hkept
      exact hupdates.concluded hbegun₁.after hrely₂.2.1 hhistory₁ hhistory₂
        (hreflects₂.attempt_eq hrow₂) hresult
  next hchanged =>
    refine Program.Meets.send_bind fun w₃ hrely₃ hinv₃ => ?_
    have hbegun₃ := hbegun₂.rely hrely₃
    refine ⟨fun hadmits => ?_, fun _ => hretry w₃ ⟨hinv₃, hbegun₃⟩,
      hretry w₃ ⟨hinv₃, hbegun₃⟩⟩
    -- Both tags match, so both rows are still the ones that were read.
    simp only [pairBatch, Table.admits_cons, Table.admits_nil, and_true] at hadmits
    obtain ⟨l₃, hreflects₃, hhistory₃⟩ := hinv₃.2
    have hsummary₃ := (hrely₂.1.trans hrely₃.1).row_of_etag hinv₁.1 hsummary hadmits.1
    have hattempt₃ := hrely₃.1.row_of_etag hinv₂.1 hattempt hadmits.2
    have hstate₃ : l₃.summary = state := by
      rw [hscope] at hsummary₃
      have hdocument := hreflects₃.summary_eq hsummary₃
      rw [hstate] at hdocument
      cases hdocument
      rfl
    have hrow₃ : w₃.table.rows ⟨scope, .attempt (calls i).identity.attemptKey⟩
        = some ⟨.attempt receipt, attemptRow.etag⟩ := by
      rw [← hscope, ← hreceipt]
      exact hattempt₃
    have hlookup₃ := hreflects₃.attempt_eq hrow₃
    have happly : l₃.apply (calls i).op now
        = .ok ⟨updated, l₃.attempts.insert (calls i).identity.attemptKey result⟩ := by
      rw [hupdates.op, Ledger.onAttempt_eq_ok]
      exact ⟨receipt, updated, result, hlookup₃, by rw [hstate₃]; exact hresult, rfl⟩
    have hversion : updated.version = l₃.summary.version + 1 := by
      rcases Ledger.version_of_apply (calls i).op_key?_ne_none happly with hsame | hnext
      · exact absurd (hsame.1.trans hstate₃) hchanged
      · exact hnext
    have hepoch₃ : ∀ epoch ∈ (calls i).epoch?, l₃.summary.epoch = epoch := by
      rw [hupdates.epoch]
      intro epoch h
      cases h
    have hallows := allows_pair summaryRow.etag (some attemptRow.etag) hinv₃.1 hreflects₃
      hhistory₃ hscope hepoch₃ happly hversion
    refine ⟨fun reported => (hallows reported).1, ?_, ?_⟩
    · exact meets_update_done (hallows true).2.1 (hallows true).2.2
        (.wrote _ _ hbegun₃.after (List.prefix_refl _))
    · exact hretry _ ⟨(hallows false).1.1, hbegun₃.commit _⟩

theorem meets_updateAttempt {f : Transition} (hupdates : Updates (calls i) f)
    (hscope : (calls i).identity.scope = scope)
    (hw : (ledgerProtocol calls scope l₀).inv w ∧ Begun start i w) :
    (updateAttempt (calls i).identity f).Meets (ledgerProtocol calls scope l₀) i
      (Updated calls l₀ start i) w :=
  Program.Meets.rounds (fun _ h => meets_update_raise _ h.2.untold)
    (fun _ hretry => meets_updateRound hupdates hscope hretry) _ _ hw

/-! ## Reservations -/

/-- What a reservation that ended has said: it was created if its client was told, and
has concluded; one that was committed raised nothing but that its rounds were used up. -/
def Reserved (calls : ι → LedgerCall) (l₀ : Ledger)
    (start : List (Commit ι RowKey LedgerDocument)) (i : ι)
    (result : Except LedgerError ReservedLedgerAttempt) (w : World ι RowKey LedgerDocument) :
    Prop :=
  match result with
  | .ok x => StoredSummary calls l₀ x.summary w ∧
      StoredAttempt calls l₀ (calls i).identity.attemptKey x.attempt w ∧
      (x.created = true ↔ ¬Untold i w) ∧ Concluded calls l₀ i start x.summary x.attempt w
  | .error e => Untold i w ∧
      (w.own i ≠ [] → e = .unavailable "Ledger admission exhausted its bounded retries")

/-- A client that has committed finds its call absorbed. -/
theorem absorbed_of_own (hcoherent : l₀.AllCoherent) (hown : w.own i ≠ [])
    (hhistory : History (Effects calls) l₀ w.log l) : (calls i).Absorbed l ∧ l.AllCoherent := by
  obtain ⟨c, hc⟩ := List.exists_mem_of_ne_nil _ hown
  obtain ⟨hlog, rfl⟩ := World.mem_own.1 hc
  exact ⟨(effects_absorbing calls).absorbed_of_mem hcoherent hhistory c hlog,
    hhistory.keeps (effects_absorbing calls).keeps hcoherent⟩

/-- A reservation that was committed is stored as it was asked for. -/
theorem held_of_own {r : Reservation} {n : ℕ} (hcall : calls i = .reserve r n)
    (hcoherent : l₀.AllCoherent) (hown : w.own i ≠ [])
    (hhistory : History (Effects calls) l₀ w.log l) :
    l.summary.epoch = r.epoch ∧ l.summary.scope = r.identity.scope ∧
      ∃ attempt, l.attempts.lookup r.identity.attemptKey = some attempt ∧
        ∀ summary : LedgerSummary, summary.epoch = r.epoch → r.Same summary attempt := by
  obtain ⟨⟨⟨key, attempt, hkey, hlookup, habsorbed⟩, hepoch⟩, hcoherent⟩ :=
    absorbed_of_own hcoherent hown hhistory
  rw [LedgerCall.op_key?, Option.some.injEq] at hkey
  rw [hcall] at hkey habsorbed hepoch
  subst hkey
  obtain ⟨hidentity, htokens, husd, hprice⟩ := habsorbed
  have hin := hcoherent _ attempt hlookup
  have hepoch : l.summary.epoch = r.epoch := hepoch _ rfl
  refine ⟨hepoch, by rw [← hin.scope, hidentity], attempt, hlookup, fun summary hsummary => ?_⟩
  exact ⟨hidentity, (hin.epoch.trans hepoch).trans hsummary.symm, htokens, husd, hprice⟩

omit [DecidableEq ι] in
/-- What was read of a reservation that is stored as it is asked for. -/
theorem concluded_of_same {r : Reservation} {n : ℕ} (hcall : calls i = .reserve r n)
    {w₁ w₂ : World ι RowKey LedgerDocument} {l₁ l₂ : Ledger} {attempt : LedgerAttempt}
    (hstart : start <+: w₁.log) (hlog : w₁.log <+: w₂.log)
    (hhistory₁ : History (Effects calls) l₀ w₁.log l₁)
    (hhistory₂ : History (Effects calls) l₀ w₂.log l₂)
    (hlookup : l₂.attempts.lookup r.identity.attemptKey = some attempt)
    (hsame : r.Same l₁.summary attempt) : Concluded calls l₀ i start l₁.summary attempt w₂ := by
  have hterms := (keepsTerms_of_history hhistory₁).symm.trans (keepsTerms_of_history hhistory₂)
  obtain ⟨hidentity, hepoch, hheld⟩ := hsame
  refine .found hstart hlog (List.prefix_refl _) hhistory₁ hhistory₂ rfl ?_ ?_ fun _ => ?_
  · rw [hcall]
    exact hlookup
  · rw [hcall]
    exact ⟨attempt, hlookup, hidentity, hepoch, hheld⟩
  · rw [hcall]
    exact ⟨attempt, hlookup, hidentity, hepoch.trans hterms.epoch.symm, hheld⟩

/-- A round of a reservation that was committed before finds it, and says that it was
not created now. -/
theorem meets_reserveRound_found {r : Reservation} {n : ℕ} (hcall : calls i = .reserve r n)
    (hscope : r.identity.scope = scope) (hcoherent : l₀.AllCoherent)
    {retry : LedgerProgram ReservedLedgerAttempt}
    {Q : Except LedgerError ReservedLedgerAttempt → World ι RowKey LedgerDocument → Prop}
    (hown : w.own i ≠ []) (hstart : start <+: w.log)
    (hQ : ∀ summary attempt w', (ledgerProtocol calls scope l₀).rely i w w' →
      StoredSummary calls l₀ summary w' →
      StoredAttempt calls l₀ r.identity.attemptKey attempt w' →
      Concluded calls l₀ i start summary attempt w' →
      Q (.ok ⟨summary, attempt, false⟩) w') :
    (reserveRound r retry).Meets (ledgerProtocol calls scope l₀) i Q w := by
  unfold reserveRound
  refine Program.Meets.get_bind fun w₁ hrely₁ hinv₁ => ?_
  obtain ⟨l₁, hreflects₁, hhistory₁⟩ := hinv₁.2
  have hown₁ : w₁.own i ≠ [] := by
    rw [hrely₁.2.2]
    exact hown
  obtain ⟨hepoch₁, hscope₁, -⟩ := held_of_own hcall hcoherent hown₁ hhistory₁
  obtain ⟨etag₁, hrow₁⟩ := hreflects₁.summary_row
  rw [hscope, hrow₁]
  simp only [LedgerDocument.asSummary, Program.lift_ok_bind]
  rw [require_of ⟨hepoch₁, hscope₁.trans hscope⟩, Program.lift_ok_bind]
  refine Program.Meets.get_bind fun w₂ hrely₂ hinv₂ => ?_
  obtain ⟨l₂, hreflects₂, hhistory₂⟩ := hinv₂.2
  have hown₂ : w₂.own i ≠ [] := by
    rw [hrely₂.2.2]
    exact hown₁
  obtain ⟨-, -, attempt, hlookup, hsame⟩ := held_of_own hcall hcoherent hown₂ hhistory₂
  obtain ⟨etag₂, hrow₂⟩ := hreflects₂.attempt_row hlookup
  have hkey : r.identity.rowKey = ⟨scope, .attempt r.identity.attemptKey⟩ := by
    rw [LedgerAttemptIdentity.rowKey, hscope]
  rw [hkey, hrow₂]
  simp only [LedgerDocument.asAttempt, Program.lift_ok_bind, require_of (hsame _ hepoch₁)]
  intro w₃ hrely₃ _
  have hsummary := (stored_of_reflects hreflects₁ hhistory₁).1
  have hattempt := (stored_of_reflects hreflects₂ hhistory₂).2 _ _ _ hrow₂
  have hrely₂₃ := (ledgerProtocol calls scope l₀).trans _ _ _ _ hrely₂ hrely₃
  refine hQ _ _ _ ((ledgerProtocol calls scope l₀).trans _ _ _ _ hrely₁ hrely₂₃)
    (hsummary.rely hrely₂₃) (hattempt.rely hrely₃) (Concluded.rely ?_ hrely₃)
  exact concluded_of_same hcall (hstart.trans hrely₁.2.1) hrely₂.2.1 hhistory₁ hhistory₂ hlookup
    (hsame _ hepoch₁)

theorem meets_reserve_raise (e : LedgerError) (huntold : Untold i w) (hown : w.own i = []) :
    (Program.raise e : LedgerProgram ReservedLedgerAttempt).Meets
      (ledgerProtocol calls scope l₀) i (Reserved calls l₀ start i) w := by
  intro w' hrely _
  refine ⟨huntold.rely hrely, fun hne => ?_⟩
  rw [hrely.2.2] at hne
  exact absurd hown hne

/-- A round of a reservation that was not committed before. -/
theorem meets_reserveRound_fresh {r : Reservation} {n : ℕ} (hcall : calls i = .reserve r n)
    (hscope : r.identity.scope = scope) {retry : LedgerProgram ReservedLedgerAttempt}
    (hretry : ∀ w', (ledgerProtocol calls scope l₀).inv w' ∧ Begun start i w' →
      retry.Meets (ledgerProtocol calls scope l₀) i (Reserved calls l₀ start i) w')
    (hown : w.own i = []) (hstart : start <+: w.log) :
    (reserveRound r retry).Meets (ledgerProtocol calls scope l₀) i
    (Reserved calls l₀ start i) w := by
  have huntold : ∀ w' : World ι RowKey LedgerDocument, w'.own i = [] → Untold i w' := by
    intro w' h c hc
    rw [h] at hc
    exact absurd hc List.not_mem_nil
  have hidentity : (calls i).identity = r.identity := by rw [hcall]; rfl
  unfold reserveRound
  refine Program.Meets.get_bind fun w₁ hrely₁ hinv₁ => ?_
  have hown₁ : w₁.own i = [] := hrely₁.2.2.trans hown
  have hraise₁ : ∀ e, (Program.raise e : LedgerProgram ReservedLedgerAttempt).Meets
      (ledgerProtocol calls scope l₀) i (Reserved calls l₀ start i) w₁ :=
    fun e => meets_reserve_raise e (huntold w₁ hown₁) hown₁
  cases hcurrent : w₁.table.rows (summaryKey r.identity.scope) with
  | none => exact hraise₁ _
  | some current =>
  refine Program.Meets.lift_bind (fun e _ => hraise₁ e) fun state hstate => ?_
  refine Program.Meets.lift_bind (fun e _ => hraise₁ e) fun _ hguard => ?_
  refine Program.Meets.get_bind fun w₂ hrely₂ hinv₂ => ?_
  have hown₂ : w₂.own i = [] := hrely₂.2.2.trans hown₁
  have hraise₂ : ∀ e, (Program.raise e : LedgerProgram ReservedLedgerAttempt).Meets
      (ledgerProtocol calls scope l₀) i (Reserved calls l₀ start i) w₂ :=
    fun e => meets_reserve_raise e (huntold w₂ hown₂) hown₂
  obtain ⟨l₁, hreflects₁, hhistory₁⟩ := hinv₁.2
  rw [LedgerDocument.asSummary_eq_ok] at hstate
  have hstate₁ : l₁.summary = state := by
    rw [hscope] at hcurrent
    have hdocument := hreflects₁.summary_eq hcurrent
    rw [hstate] at hdocument
    cases hdocument
    rfl
  cases hprevious : w₂.table.rows r.identity.rowKey with
  | some previous =>
      refine Program.Meets.lift_bind (fun e _ => hraise₂ e) fun receipt hreceipt => ?_
      refine Program.Meets.lift_bind (fun e _ => hraise₂ e) fun _ hsame => ?_
      rw [LedgerDocument.asAttempt_eq_ok] at hreceipt
      obtain ⟨l₂, hreflects₂, hhistory₂⟩ := hinv₂.2
      have hrow₂ : w₂.table.rows ⟨scope, .attempt r.identity.attemptKey⟩
          = some ⟨.attempt receipt, previous.etag⟩ := by
        rw [← hscope, ← hreceipt]
        exact hprevious
      intro w₃ hrely₃ _
      have hsummary := ((stored_of_reflects hreflects₁ hhistory₁).1.rely hrely₂).rely hrely₃
      have hattempt := ((stored_of_reflects hreflects₂ hhistory₂).2 _ _ _ hrow₂).rely hrely₃
      refine ⟨hstate₁ ▸ hsummary, hidentity ▸ hattempt, ?_, Concluded.rely ?_ hrely₃⟩
      · have htold := huntold w₃ (hrely₃.2.2.trans hown₂)
        simp [htold]
      · subst hstate₁
        exact concluded_of_same hcall (hstart.trans hrely₁.2.1) hrely₂.2.1 hhistory₁ hhistory₂
          (hreflects₂.attempt_eq hrow₂) (require_eq_ok.1 hsame)
  | none =>
      refine Program.Meets.input_bind fun now => ?_
      refine Program.Meets.lift_bind (fun e _ => hraise₂ e) fun ⟨updated, receipt⟩ hresult => ?_
      refine Program.Meets.send_bind fun w₃ hrely₃ hinv₃ => ?_
      have hown₃ : w₃.own i = [] := hrely₃.2.2.trans hown₂
      have hbegun₃ : Begun start i w₃ :=
        ⟨huntold w₃ hown₃, ((hstart.trans hrely₁.2.1).trans hrely₂.2.1).trans hrely₃.2.1⟩
      refine ⟨fun hadmits => ?_, fun _ => hretry w₃ ⟨hinv₃, hbegun₃⟩,
        hretry w₃ ⟨hinv₃, hbegun₃⟩⟩
      simp only [pairBatch, Table.admits_cons, Table.admits_nil, and_true] at hadmits
      obtain ⟨l₃, hreflects₃, hhistory₃⟩ := hinv₃.2
      have hcurrent₃ := (hrely₂.1.trans hrely₃.1).row_of_etag hinv₁.1 hcurrent hadmits.1
      have hstate₃ : l₃.summary = state := by
        rw [hscope] at hcurrent₃
        have hdocument := hreflects₃.summary_eq hcurrent₃
        rw [hstate] at hdocument
        cases hdocument
        rfl
      have hlookup₃ : l₃.attempts.lookup r.identity.attemptKey = none := by
        rw [← hreflects₃.attempt_none, ← hscope]
        exact Table.etag?_eq_none.1 hadmits.2
      have happly : l₃.apply (calls i).op now
          = .ok ⟨updated, l₃.attempts.insert (calls i).identity.attemptKey receipt⟩ := by
        rw [hcall]
        exact Ledger.onAbsent_eq_ok.2
          ⟨hlookup₃, updated, receipt, by rw [hstate₃]; exact hresult, rfl⟩
      have hversion : updated.version = l₃.summary.version + 1 := by
        rcases Ledger.version_of_apply (calls i).op_key?_ne_none happly with hsame | hnext
        · obtain ⟨-, key, hkey, hne⟩ := hsame
          rw [LedgerCall.op_key?, Option.mem_some_iff, hidentity] at hkey
          rw [← hkey] at hne
          exact absurd hlookup₃ hne
        · exact hnext
      have hepoch₃ : ∀ epoch ∈ (calls i).epoch?, l₃.summary.epoch = epoch := by
        rw [hcall]
        rintro epoch hepoch
        cases hepoch
        rw [hstate₃]
        exact (require_eq_ok.1 hguard).1
      have hallows := allows_pair current.etag none hinv₃.1 hreflects₃ hhistory₃
        (hidentity ▸ hscope) hepoch₃ happly hversion
      rw [hidentity] at hallows
      refine ⟨fun reported => (hallows reported).1, ?_, ?_⟩
      · intro w₄ hrely₄ _
        refine ⟨(hallows true).2.1.rely hrely₄, ?_, ⟨fun _ huntold₄ => ?_, fun _ => rfl⟩,
          Concluded.rely (.wrote current.etag none hbegun₃.after ?_) hrely₄⟩
        · rw [hidentity]
          exact (hallows true).2.2.rely hrely₄
        · have hlast := huntold₄ ⟨i, pairBatch r.identity updated receipt current.etag none, true⟩
            (by rw [hrely₄.2.2, own_commit]; simp)
          cases hlast
        · rw [hidentity]
          exact List.prefix_refl _
      · exact hretry _ ⟨(hallows false).1.1, hbegun₃.commit _⟩

/-- `reserve` with `n` rounds left. -/
theorem meets_reserveRounds {r : Reservation} {attempts : ℕ}
    (hcall : calls i = .reserve r attempts) (hscope : r.identity.scope = scope)
    (hcoherent : l₀.AllCoherent) (n : ℕ)
    (hw : (ledgerProtocol calls scope l₀).inv w ∧ Begun start i w) :
    (reserveRounds r n).Meets (ledgerProtocol calls scope l₀) i (Reserved calls l₀ start i) w := by
  have hidentity : (calls i).identity = r.identity := by rw [hcall]; rfl
  refine Program.Meets.rounds
    (fun w (hw : (ledgerProtocol calls scope l₀).inv w ∧ Begun start i w) => ?_)
    (fun retry hretry w hw => ?_) n w hw
  · exact fun w' hrely _ => ⟨hw.2.untold.rely hrely, fun _ => rfl⟩
  · by_cases hown : w.own i = []
    · exact meets_reserveRound_fresh hcall hscope hretry hown hw.2.after
    · refine meets_reserveRound_found hcall hscope hcoherent hown hw.2.after ?_
      intro summary attempt w' hrely hsummary hattempt hconcluded
      refine ⟨hsummary, by rw [hidentity]; exact hattempt, ?_, hconcluded⟩
      have htold := hw.2.untold.rely hrely
      simp [htold]

/-! ## All clients -/

/-- What a call that began at `start` and has ended has said. -/
structure Answered (calls : ι → LedgerCall) (l₀ : Ledger)
    (start : List (Commit ι RowKey LedgerDocument)) (i : ι)
    (result : Except LedgerError LedgerReply) (w : World ι RowKey LedgerDocument) : Prop where
  summary : ∀ reply, result = .ok reply → StoredSummary calls l₀ reply.summary w
  attempt : ∀ reply, result = .ok reply →
    StoredAttempt calls l₀ (calls i).identity.attemptKey reply.attempt w
  created : ∀ reply created, result = .ok reply → reply.created = some created →
    (created = true ↔ ¬Untold i w)
  failed : ∀ e, result = .error e → Untold i w
  exhausted : ∀ r attempts e, calls i = .reserve r attempts → result = .error e →
    w.own i ≠ [] → e = .unavailable "Ledger admission exhausted its bounded retries"
  /-- What it returns is what it wrote, or there was nothing to do. -/
  concluded : ∀ reply, result = .ok reply →
    Concluded calls l₀ i start reply.summary reply.attempt w

/-- The clients before any has started, over the table `t₀`. -/
def callers (calls : ι → LedgerCall) (t₀ : Table RowKey LedgerDocument) :
    System ι RowKey LedgerDocument Int LedgerError LedgerReply where
  world := ⟨t₀, []⟩
  threads i := (calls i).program

theorem meets_updated {p : LedgerProgram (LedgerSummary × LedgerAttempt)}
    (hcall : ∀ r attempts, calls i ≠ .reserve r attempts)
    (hinv : (ledgerProtocol calls scope l₀).inv w)
    (h : p.Meets (ledgerProtocol calls scope l₀) i (Updated calls l₀ start i) w) :
    (p >>= fun x => (pure ⟨x.1, x.2, none⟩ : LedgerProgram LedgerReply)).Meets
      (ledgerProtocol calls scope l₀) i (Answered calls l₀ start i) w := by
  refine Program.Meets.bind hinv (h.mono fun result w' _ hupdated => ?_)
  cases result with
  | ok x =>
      intro w'' hrely _
      refine ⟨?_, ?_, ?_, ?_, ?_, ?_⟩
      · rintro reply ⟨⟩
        exact hupdated.1.rely hrely
      · rintro reply ⟨⟩
        exact hupdated.2.1.rely hrely
      · rintro reply created ⟨⟩ hcreated
        cases hcreated
      · exact fun e he => nomatch he
      · exact fun r attempts e hr => absurd hr (hcall r attempts)
      · rintro reply ⟨⟩
        exact hupdated.2.2.rely hrely
  | error e =>
      refine ⟨?_, ?_, ?_, fun _ _ => hupdated, fun r attempts e hr => absurd hr (hcall r attempts),
        ?_⟩
      · exact fun reply h => nomatch h
      · exact fun reply h => nomatch h
      · exact fun reply created h => nomatch h
      · exact fun reply h => nomatch h

/-- Every call keeps to the protocol. -/
theorem meets_program (hcoherent : l₀.AllCoherent) (hscope : (calls i).identity.scope = scope)
    (hw : (ledgerProtocol calls scope l₀).inv w ∧ Begun start i w) :
    (calls i).program.Meets (ledgerProtocol calls scope l₀) i (Answered calls l₀ start i) w := by
  cases hcall : calls i with
  | reserve r attempts =>
      rw [hcall] at hscope
      refine Program.Meets.bind hw.1
        ((meets_reserveRounds hcall hscope hcoherent _ hw).mono fun result w' _ hreserved => ?_)
      cases result with
      | ok x =>
          intro w'' hrely _
          have hown : Untold i w'' ↔ Untold i w' := by
            rw [Untold, Untold, hrely.2.2]
          refine ⟨?_, ?_, ?_, ?_, ?_, ?_⟩
          · rintro reply ⟨⟩
            exact hreserved.1.rely hrely
          · rintro reply ⟨⟩
            exact hreserved.2.1.rely hrely
          · rintro reply created ⟨⟩ ⟨⟩
            rw [hown]
            exact hreserved.2.2.1
          · exact fun e he => nomatch he
          · exact fun r attempts e _ he => nomatch he
          · rintro reply ⟨⟩
            exact hreserved.2.2.2.rely hrely
      | error e =>
          refine ⟨?_, ?_, ?_, fun _ _ => hreserved.1, ?_, ?_⟩
          · exact fun reply h => nomatch h
          · exact fun reply h => nomatch h
          · exact fun reply created h => nomatch h
          · rintro r attempts e _ ⟨⟩ hown
            exact hreserved.2 hown
          · exact fun reply h => nomatch h
  | settle charge =>
      have hupdates : Updates (calls i) fun s a now => settleLedger s a charge now := by
        rw [hcall]
        exact ⟨fun _ _ => rfl, rfl, fun _ _ _ _ _ h hterms _ => settleLedger_kept h hterms,
          fun _ now h => ⟨now, h⟩⟩
      have hupdate := meets_updateAttempt hupdates hscope hw
      rw [hcall] at hupdate
      exact meets_updated (by simp [hcall]) hw.1 hupdate
  | complete receipt completion =>
      have hupdates :
          Updates (calls i) fun s a now => completeLedger s a receipt completion now := by
        rw [hcall]
        exact ⟨fun _ _ => rfl, rfl, fun _ _ _ _ _ h => completeLedger_kept h,
          fun _ now h => ⟨now, h⟩⟩
      have hupdate := meets_updateAttempt hupdates hscope hw
      rw [hcall] at hupdate
      exact meets_updated (by simp [hcall]) hw.1 hupdate
  | transition identity state =>
      have hupdates : Updates (calls i) fun s a now => transitionLedgerAttempt s a state now := by
        rw [hcall]
        exact ⟨fun _ _ => rfl, rfl,
          fun _ _ _ _ _ h hterms _ => transitionLedgerAttempt_kept h hterms,
          fun _ now h => ⟨now, h⟩⟩
      have hupdate := meets_updateAttempt hupdates hscope hw
      rw [hcall] at hupdate
      refine meets_updated (by simp [hcall]) hw.1 ?_
      unfold transition
      split
      next => exact meets_update_raise _ hw.2.untold
      next => exact hupdate

/-- A reservation that left its scope within the limit: in tokens the balance that
remains is not negative, in USD the amount was available. -/
def AdmittedWithin (call : LedgerCall) (l l' : Ledger) : Prop :=
  ∀ r attempts, call = .reserve r attempts →
    (l.summary.budgetMode = .tokens → 0 ≤ l'.summary.availableTokens) ∧
    (l.summary.budgetMode = .usd → ∃ units, r.reservedUsd.bind usdOfDecimal? = some units ∧
      units ≤ l.summary.availableUsd.getD 0)

omit [DecidableEq ι] in
theorem Effects.admittedWithin {c : Commit ι RowKey LedgerDocument} {l' : Ledger}
    (h : Effects calls l c l') (henforce : l.summary.enforce = true) :
    AdmittedWithin (calls c.client) l l' := by
  intro r attempts hcall
  obtain ⟨now, happly⟩ := h.applied
  rw [hcall] at happly
  obtain ⟨-, summary', attempt', hreserve, rfl⟩ := Ledger.onAbsent_eq_ok.1 happly
  cases (reserveLedger_result hreserve).2 with
  | tokens hmode _ _ hfit hs =>
      refine ⟨fun _ => ?_, fun husd => ?_⟩
      · have hfit := hfit henforce
        simp only [SummaryFields.availableTokens] at hfit
        simp only [hs, SummaryFields.availableTokens]
        omega
      · rw [hmode] at husd
        cases husd
  | usd amount units projection hmode husd _ hunits _ _ hfit =>
      refine ⟨fun htokens => ?_, fun _ => ⟨units, by rw [husd]; exact hunits, hfit henforce⟩⟩
      rw [hmode] at htokens
      cases htokens

/-- What every interleaving of the calls on one scope comes to. -/
structure Linearized (calls : ι → LedgerCall) (scope : LedgerScope) (l₀ l : Ledger)
    (s : System ι RowKey LedgerDocument Int LedgerError LedgerReply) : Prop where
  /-- The table holds the outcome of the committed pairs, as a serial execution. -/
  reflects : Reflects scope s.world.table l
  history : History (Effects calls) l₀ s.world.log l
  /-- No call takes effect twice. -/
  once : (s.world.log.map fun c => calls c.client).Nodup
  version : l.summary.version = l₀.summary.version + s.world.log.length
  answered : ∀ i result, s.threads i = .done result → Answered calls l₀ [] i result s.world
  /-- So it is from any moment on for a call that has not begun by then. -/
  begins : ∀ i, s.threads i = (calls i).program → s.world.own i = [] →
    ∀ s' result, System.Reaches (fun _ _ => False) s s' → s'.threads i = .done result →
      Answered calls l₀ s.world.log i result s'.world
  /-- A reservation that reads again after a commit of its own returns what it stored. -/
  retried : ∀ i r attempts n, calls i = .reserve r attempts → s.world.own i ≠ [] →
    (s.threads i = do
      let x ← reserveRounds r (n + 1)
      pure x.reply) →
    ∀ s' result, System.Reaches (fun _ _ => False) s s' → s'.threads i = .done result →
      ∃ reply, result = .ok reply ∧ reply.created = some false ∧
        StoredSummary calls l₀ reply.summary s'.world ∧
        StoredAttempt calls l₀ r.identity.attemptKey reply.attempt s'.world
  /-- While the limit is enforced, every committed reservation is within it. -/
  within : l₀.summary.enforce = true → ∀ before c, before ++ [c] <+: s.world.log →
    ∃ l₁ l₂, History (Effects calls) l₀ before l₁ ∧ Effects calls l₁ c l₂ ∧
      AdmittedWithin (calls c.client) l₁ l₂

/-- A call that has not begun concludes with what it does from now on. -/
theorem sound_begins {s s' : System ι RowKey LedgerDocument Int LedgerError LedgerReply}
    (hsound : System.Sound (ledgerProtocol calls scope l₀) (Answered calls l₀ []) s)
    (hscope : (calls i).identity.scope = scope) (hcoherent : l₀.AllCoherent)
    (hthread : s.threads i = (calls i).program) (hown : s.world.own i = [])
    (hreach : System.Reaches (fun _ _ => False) s s') {result : Except LedgerError LedgerReply}
    (hdone : s'.threads i = .done result) :
    Answered calls l₀ s.world.log i result s'.world := by
  have hbegun : Begun s.world.log i s.world := by
    refine ⟨fun c hc => ?_, List.prefix_refl _⟩
    rw [hown] at hc
    cases hc
  have hsound' : System.Sound (ledgerProtocol calls scope l₀)
      (Function.update (Answered calls l₀ []) i (Answered calls l₀ s.world.log i)) s := by
    refine ⟨hsound.inv, fun j => ?_⟩
    by_cases hj : j = i
    · subst hj
      rw [hthread, Function.update_self]
      exact meets_program hcoherent hscope ⟨hsound.inv, hbegun⟩
    · rw [Function.update_of_ne hj]
      exact hsound.meets j
  have hresult := (hsound'.reaches (fun _ _ _ h => h.elim) hreach).result hdone
  rw [Function.update_self] at hresult
  exact hresult

/-- A retry finds the reservation. -/
theorem sound_retried {s s' : System ι RowKey LedgerDocument Int LedgerError LedgerReply}
    (hsound : System.Sound (ledgerProtocol calls scope l₀) (Answered calls l₀ []) s)
    {r : Reservation} {attempts n : ℕ} (hcall : calls i = .reserve r attempts)
    (hscope : r.identity.scope = scope) (hcoherent : l₀.AllCoherent) (hown : s.world.own i ≠ [])
    (hthread : s.threads i = do
      let x ← reserveRounds r (n + 1)
      pure x.reply)
    (hreach : System.Reaches (fun _ _ => False) s s') {result : Except LedgerError LedgerReply}
    (hdone : s'.threads i = .done result) :
    ∃ reply, result = .ok reply ∧ reply.created = some false ∧
      StoredSummary calls l₀ reply.summary s'.world ∧
      StoredAttempt calls l₀ r.identity.attemptKey reply.attempt s'.world := by
  let found : Except LedgerError LedgerReply → World ι RowKey LedgerDocument → Prop :=
    fun result w => ∃ reply, result = .ok reply ∧ reply.created = some false ∧
      StoredSummary calls l₀ reply.summary w ∧
      StoredAttempt calls l₀ r.identity.attemptKey reply.attempt w
  have hsound' : System.Sound (ledgerProtocol calls scope l₀)
      (Function.update (Answered calls l₀ []) i found) s := by
    refine ⟨hsound.inv, fun j => ?_⟩
    by_cases hj : j = i
    · subst hj
      rw [hthread, Function.update_self]
      refine Program.Meets.bind hsound.inv ?_
      refine meets_reserveRound_found hcall hscope hcoherent hown (List.prefix_refl _) ?_
      intro summary attempt w' _ hsummary hattempt _ w'' hrely _
      exact ⟨_, rfl, rfl, hsummary.rely hrely, hattempt.rely hrely⟩
    · rw [Function.update_of_ne hj]
      exact hsound.meets j
  have hresult := (hsound'.reaches (fun _ _ _ h => h.elim) hreach).result hdone
  rw [Function.update_self] at hresult
  exact hresult

/-- The atomic table ledger is linearizable and applies every call at most once.  For
any scope that the ledger's own writes can have led to, any number of clients and any
interleaving of their requests, conflicts and lost responses included, the committed
pairs are a serial execution of the calls' operations in which no call occurs twice
and every effect is one version. -/
theorem atomic_ledger_linearizable {opening : Ledger} {t₀ : Table RowKey LedgerDocument}
    {s : System ι RowKey LedgerDocument Int LedgerError LedgerReply}
    (hempty : opening.attempts = ∅) (hstart : Evolves (fun _ _ => True) opening l₀)
    (htagged : t₀.WellTagged) (hreflects : Reflects scope t₀ l₀)
    (hscope : ∀ i, (calls i).identity.scope = scope)
    (hreach : System.Reaches (fun _ _ => False) (callers calls t₀) s) :
    ∃ l, Linearized calls scope l₀ l s := by
  have hcoherent : l₀.AllCoherent := .evolves hempty hstart
  have hinv : (ledgerProtocol calls scope l₀).inv (callers calls t₀).world :=
    ⟨htagged, l₀, hreflects, .nil⟩
  have huntold : ∀ i, Untold i (callers calls t₀).world := fun i c hc =>
    absurd (World.mem_own.1 hc).1 List.not_mem_nil
  have hsound : System.Sound (ledgerProtocol calls scope l₀) (Answered calls l₀ [])
      (callers calls t₀) :=
    ⟨hinv, fun i => meets_program hcoherent (hscope i) ⟨hinv, huntold i, List.prefix_refl _⟩⟩
  have hsound' := hsound.reaches (fun _ _ _ h => h.elim) hreach
  obtain ⟨-, l, hreflects', hhistory⟩ := hsound'.inv
  refine ⟨l, hreflects', hhistory, (effects_absorbing calls).nodup hcoherent hhistory, ?_,
    fun i result hdone => hsound'.result hdone, ?_, ?_, fun henforce before c hinitial => ?_⟩
  · exact hhistory.count (f := fun l => l.summary.version) fun _ _ _ heffect => heffect.version
  · intro i hthread hown s' result hreach' hdone
    exact sound_begins hsound' (hscope i) hcoherent hthread hown hreach' hdone
  · intro i r attempts n hcall hown hthread s' result hreach' hdone
    have hidentity : r.identity.scope = scope := by
      have h := hscope i
      rw [hcall] at h
      exact h
    exact sound_retried hsound' hcall hidentity hcoherent hown hthread hreach' hdone
  · obtain ⟨l₁, l₂, hbefore, heffect⟩ := hhistory.effect_of_prefix hinitial
    refine ⟨l₁, l₂, hbefore, heffect, heffect.admittedWithin ?_⟩
    rw [(keepsTerms_of_history hbefore).enforce]
    exact henforce

end Clients

namespace Sample

/-- The scope of `tokenSummary`, before any attempt. -/
def emptyScope : Ledger := ⟨tokenSummary, ∅⟩

/-- A charge of 60 tokens to attempt 1. -/
def usageCharge : LedgerCharge where
  identity := identity 1
  epoch := 5
  revision := 2
  evidenceKey := .other "observed usage"
  totalTokens := 60
  valid := by decide +kernel

/-- A reservation of 100 tokens, and calls that settle it with one charge. -/
def settledCalls : ℕ → LedgerCall
  | 0 => .reserve { identity := identity 1, reservedTokens := 100, epoch := 5 } 3
  | _ => .settle usageCharge

/-- The response of the reservation is lost, and so is that of the first settlement; the
second meets a conflict.  Each then runs another round. -/
def lostResponses : List (ℕ × Label Int) :=
  [(0, .read), (0, .read), (0, .ask start), (0, .lost), (0, .read), (0, .read),
    (1, .read), (1, .read), (1, .ask start), (2, .read), (2, .read), (2, .ask start),
    (1, .lost), (2, .reported), (1, .read), (1, .read), (1, .ask start),
    (2, .read), (2, .read), (2, .ask start)]

theorem initialTable_reflects : Reflects scope initialTable emptyScope := by
  refine ⟨by simp [initialTable, emptyScope], fun key => ?_⟩
  simp [initialTable, emptyScope, summaryKey]

end Sample

/-- The lost reservation and the lost charge are found by their retries, and each took
effect once. -/
theorem atomic_ledger_linearizable_sample :
    ∃ s l, Linearized Sample.settledCalls Sample.scope Sample.emptyScope l s ∧
      l.summary.version = 2 ∧ l.summary.confirmedTokens = 40 + 60 ∧
      (∃ reply, s.threads 0 = .done (.ok reply) ∧ reply.created = some false) ∧
      ∀ i ∈ [1, 2], ∃ reply, s.threads i = .done (.ok reply) ∧ reply.summary = l.summary ∧
        Concluded Sample.settledCalls Sample.emptyScope i [] reply.summary reply.attempt
          s.world := by
  have htest : ((callers Sample.settledCalls Sample.initialTable).run? Sample.lostResponses).any
      (fun s => decide (s.world.log.length = 2) && decide (∃ row ∈ s.world.table.rows
          (summaryKey Sample.scope), ∃ summary ∈ row.document.asSummary.toOption,
            summary.confirmedTokens = 100 ∧ ∀ i ∈ [1, 2],
              ∃ reply ∈ (s.threads i).value?, reply.summary = summary) &&
        (s.threads 0).value?.any fun reply => decide (reply.created = some false)) = true := by
    decide +kernel
  obtain ⟨s, hrun, hs⟩ := (Option.any_eq_true _ _).1 htest
  obtain ⟨hs, hreply⟩ := Bool.and_eq_true_iff.1 hs
  obtain ⟨hlength, hsettled⟩ := Bool.and_eq_true_iff.1 hs
  obtain ⟨row, hrow, summary, hsummary, hconfirmed, hsettled⟩ := of_decide_eq_true hsettled
  have hstart : Evolves (fun _ _ => True) Sample.emptyScope Sample.emptyScope := .refl
  obtain ⟨l, hl⟩ := atomic_ledger_linearizable rfl hstart
    Sample.initialTable_wellTagged Sample.initialTable_reflects
    (fun i => by unfold Sample.settledCalls; split <;> rfl) (System.reaches_of_run? hrun)
  have hstored : summary = l.summary := by
    have hdocument := hl.reflects.summary_eq hrow
    rw [hdocument] at hsummary
    exact (Option.some.inj hsummary).symm
  subst hstored
  refine ⟨s, l, hl, ?_, hconfirmed, ?_, fun i hi => ?_⟩
  · rw [hl.version, of_decide_eq_true hlength]
    rfl
  · obtain ⟨reply, hthread, hreply⟩ := (Option.any_eq_true _ _).1 hreply
    exact ⟨reply, Program.value?_eq_some.1 hthread, of_decide_eq_true hreply⟩
  · obtain ⟨reply, hthread, hsame⟩ := hsettled i hi
    have hdone := Program.value?_eq_some.1 hthread
    exact ⟨reply, hdone, hsame, (hl.answered i _ hdone).concluded reply rfl⟩

end Turnstile
