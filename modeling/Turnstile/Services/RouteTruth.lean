import Turnstile.Services.RouteFencing

/-!
# What journals and recoveries say

A checkpoint that was saved, and a recovery that has returned, said the truth about the
batch of the operation, also where the batch is still in flight.
-/

namespace Turnstile

section

variable {ι : Type} {calls : ι → RouteCall} {w w' : RouteWorld ι}

/-- A step only adds to the history. -/
theorem RouteStep.history (h : RouteStep calls w w') :
    ∃ recent, w'.history = recent ++ w.history := by
  cases h with
  | quiet h => exact ⟨_, h.history⟩
  | @commit middle recent i s hquiet h =>
      refine ⟨(i, .applied s) :: recent.toList, ?_⟩
      rw [h.history, hquiet.history]
      rfl

theorem saved_step {e : JournalEntry} (h : RouteStep calls w w') (hw : Saved w e) :
    Saved w' e := by
  obtain ⟨recent, hhistory⟩ := h.history
  obtain ⟨event, hevent, hentry⟩ := hw
  exact ⟨event, hhistory ▸ List.mem_append_right _ hevent, hentry⟩

theorem fenced_step {b : RouteBatch} (h : RouteStep calls w w') (hw : Fenced w b) :
    Fenced w' b := by
  have hquietly : ∀ {middle recent}, Quietly w middle recent → Fenced middle b := by
    intro middle recent hquiet
    refine ⟨hquiet.table ▸ hw.dead, fun j hj => ?_⟩
    rw [hquiet.history] at hj
    rcases List.mem_append.1 hj with hj | hj
    · exact hquiet.unapplied _ (Option.mem_toList.1 hj) _ rfl
    · exact hw.unapplied j hj
  cases h with
  | quiet h => exact hquietly h
  | @commit middle recent i s hquiet h =>
      have hmiddle := hquietly hquiet
      refine ⟨h.table ▸ hmiddle.dead.of_evolves (Table.evolves_apply _ _), fun j hj => ?_⟩
      rw [h.history] at hj
      rcases List.mem_cons.1 hj with heq | hj
      · obtain ⟨-, hevent⟩ := Prod.ext_iff.1 heq
        simp only [RouteEvent.applied.injEq] at hevent
        exact hmiddle.dead.not_admits (hevent ▸ h.admits)
      · exact hmiddle.unapplied j hj

/-- What is true of a recorded operation, now in `w` and in a later world `w'`. -/
structure ToldTruth (w w' : RouteWorld ι) (e : JournalEntry) : Prop where
  once : (w'.history.countP fun event => event.2.sendsRow e.row) ≤ 1
  confirmed : e.outcome = .confirmed → ∃ j, (j, RouteEvent.applied (.batch e.body)) ∈ w.history
  fenced : e.outcome = .notAppliedFenced → ∀ j, (j, RouteEvent.applied (.batch e.body)) ∉ w'.history
  expired : e.outcome = .expiredBeforeDispatch →
    ∀ event ∈ w'.history, event.2.sendsRow e.row = false

/-- The entry of the last operation in what is stored for the publication that a call
recovers. -/
def LastStored (w : RouteWorld ι) : RouteCall → JournalEntry → Prop
  | .recoverWriter publicationId _, e => ∃ c o, w.writerCheckpoints publicationId = some c ∧
      c.operations.getLast? = some o ∧ o.entry publicationId = e
  | .recoverActivation publicationId _, e => ∃ c,
      w.activationCheckpoints publicationId = some c ∧ c.entry publicationId = e
  | _, _ => False

theorem LastStored.publication {call : RouteCall} {e : JournalEntry} {publicationId : UUID}
    (h : LastStored w call e) (hcall : call.recovers? = some publicationId) :
    e.publicationId = publicationId := by
  cases call with
  | recoverWriter p c =>
      obtain ⟨checkpoint, o, -, -, rfl⟩ := h
      exact Option.some.inj hcall
  | recoverActivation p c =>
      obtain ⟨checkpoint, -, rfl⟩ := h
      exact Option.some.inj hcall
  | _ => cases h

theorem RouteWorld.answer_storedWriter {i : ι} {l : RouteLabel} {p : UUID}
    {stored : Option WriterCheckpoint}
    (h : RouteWorld.answer i w l (.storedWriter p) = some (stored, w')) :
    stored = w.writerCheckpoints p ∧ w' = w := by
  cases l with
  | plain =>
      obtain ⟨hstored, hworld⟩ := Prod.ext_iff.1 (Option.some.inj h)
      exact ⟨hstored.symm, hworld.symm⟩
  | _ => cases h

theorem RouteWorld.answer_storedActivation {i : ι} {l : RouteLabel} {p : UUID}
    {stored : Option ActivationCheckpoint}
    (h : RouteWorld.answer i w l (.storedActivation p) = some (stored, w')) :
    stored = w.activationCheckpoints p ∧ w' = w := by
  cases l with
  | plain =>
      obtain ⟨hstored, hworld⟩ := Prod.ext_iff.1 (Option.some.inj h)
      exact ⟨hstored.symm, hworld.symm⟩
  | _ => cases h

/-- What a verdict establishes. -/
def Gives (R : RouteOutcome → RouteWorld ι → Prop) (result : RouteResult) (w : RouteWorld ι) :
    Prop :=
  ∀ outcome, result = .verdict outcome → R outcome w

/-- Call `i` makes its first request in state `r`, and the run goes on to `s`. -/
structure ReadsStored [DecidableEq ι] (self : RouteProjection) (calls : ι → RouteCall) (i : ι)
    (r s : RouteSystem ι) : Prop where
  reachable : r.Reachable self calls
  waits : r.clients i = (calls i).program self
  answered : ∃ l t, r.next? routeDynamics (some i, l) = some t ∧
    Client.Reaches routeDynamics Client.anyChange t s

/-- What is true of a recorded operation that was recovered with an outcome. -/
structure ToldOutcome (w w' : RouteWorld ι) (publicationId : UUID) (outcome : RouteOutcome)
    (e : JournalEntry) : Prop where
  saved : Saved w e
  publication : e.publicationId = publicationId
  confirmed : outcome = .confirmed → ∃ j, (j, RouteEvent.applied (.batch e.body)) ∈ w.history
  fenced : outcome = .notAppliedFenced → ∀ j, (j, RouteEvent.applied (.batch e.body)) ∉ w'.history

end

/-! ## An operation that is fenced -/

namespace RouteSample

/-- Publication 5 claims the writer with a journal, another worker claims it without one,
and publication 5 recovers. -/
def fencedCalls : ℕ → RouteCall
  | 0 => .claimWriter (writerArguments 1 11 (.persistent 5 ⟨"context"⟩))
  | 1 => .claimWriter (writerArguments 2 12 .other)
  | _ => .recoverWriter 5 ⟨"context"⟩

theorem fencedCalls_promised : OperationIdsPromised fencedCalls := by
  intro i j row hi hj
  rcases i with _ | _ | i <;> rcases j with _ | _ | j <;>
    first
      | rfl
      | exact absurd (hi.trans hj.symm) (by decide)
      | cases hi; done
      | cases hj

/-- The batch of publication 5 is in flight when the other claim is applied and the
publication recovers. -/
def fencing : List (Option ℕ × RouteLabel) :=
  turns 0 1 [false, false, false, true, false, false, true] ++ [(some 0, .lost)] ++
    turns 1 1 [false, false, true, false, false, true, false] ++ turns 2 1 (List.replicate 5 false)

end RouteSample

/-! ## Results -/

section

variable {ι : Type} [DecidableEq ι] {calls : ι → RouteCall} {self : RouteProjection}
  {s s' : RouteSystem ι}

/-- Every recorded operation is sent at most once, however long the run goes on; one that
is confirmed was applied, one that is fenced is never applied, also where its batch is
still in flight, and one that expired is never sent. -/
theorem journals_tell_truth (h : s.Reachable self calls) (hp : OperationIdsPromised calls)
    (hlater : Client.Reaches routeDynamics Client.anyChange s s') {e : JournalEntry}
    (he : Saved s.world e) : ToldTruth s.world s'.world e := by
  have hnow := (h.inv.journals hp).truthful e he
  have he' : Saved s'.world e := h.keepsFrom hlater (fun _ _ => saved_step) he
  have hjournals := (RouteSystem.Reachable.inv (h.trans hlater)).journals hp
  have hthen := hjournals.truthful e he'
  unfold Truthful at hnow hthen
  refine ⟨hjournals.once e he', fun ho => ?_, fun ho => ?_, fun ho => ?_⟩
  · rw [ho] at hnow
    exact hnow
  · rw [ho] at hthen
    exact hthen.unapplied
  · rw [ho] at hthen
    exact hthen

/-- The claim of publication 5 is recorded as fenced; when its batch arrives it is not
applied. -/
theorem fenced_claim_not_applied : ∃ s s' e,
    RouteSystem.Reachable RouteSample.routeProjection RouteSample.fencedCalls s ∧
      s.next? routeDynamics (none, .deliver 0) = some s' ∧ Saved s.world e ∧
      e.outcome = .notAppliedFenced ∧
      ∀ j, (j, RouteEvent.applied (.batch e.body)) ∉ s'.world.history := by
  obtain ⟨s, s', c, e, hrun, hnext, hc, hentries, houtcome⟩ : ∃ s s' c e,
      (RouteSystem.start RouteSample.routeProjection RouteSample.fencedCalls).run? routeDynamics
        RouteSample.fencing = some s ∧
      s.next? routeDynamics (none, .deliver 0) = some s' ∧
      s.world.writerCheckpoints 5 = some c ∧
      c.operations.map (WriterOperation.entry 5) = [e] ∧ e.outcome = .notAppliedFenced :=
    ⟨_, _, _, _, rfl, rfl, rfl, rfl, rfl⟩
  have hreach : RouteSystem.Reachable RouteSample.routeProjection RouteSample.fencedCalls s :=
    Client.reaches_of_run? hrun
  have hp := RouteSample.fencedCalls_promised
  obtain ⟨i, hsaved⟩ := (hreach.inv.journals hp).storedWriter 5 c hc
  have he : Saved s.world e := ⟨_, hsaved, by
    change e ∈ c.operations.map (WriterOperation.entry 5)
    rw [hentries]
    exact List.mem_cons_self⟩
  have hlater : Client.Reaches routeDynamics Client.anyChange s s' := .single ⟨_, hnext, trivial⟩
  exact ⟨s, s', e, hreach, hnext, he, houtcome,
    (journals_tell_truth hreach hp hlater he).fenced houtcome⟩

/-- A call that returned a verdict made its first request in some state of the run, and has
established what it establishes from the answer on. -/
theorem RouteSystem.Reachable.verdict (h : s.Reachable self calls) {i : ι}
    {request : RouteRequest} {next : request.Answer → RouteClient RouteResult}
    {R : RouteWorld ι → RouteOutcome → RouteWorld ι → Prop}
    (hprogram : (calls i).program self = .call request next)
    (hmeets : ∀ w l a w', RouteWorldInv calls w → RouteWorld.answer i w l request = some (a, w') →
      RouteMeets calls i (Gives (R w)) Unsaid (next a) w')
    {outcome : RouteOutcome} (hdone : s.clients i = .done (.ok (.verdict outcome))) :
    ∃ r, ReadsStored self calls i r s ∧ R r.world outcome s.world := by
  rcases Client.Reaches.served h (i := i) hprogram with
    hwaits | ⟨r, l, t, hr, hwaits, hnext, -, hlater⟩
  · rw [hdone] at hwaits
    cases hwaits
  · obtain ⟨a, hanswer, hclient⟩ := Client.System.next?_call hwaits hnext
    have hreach : RouteSystem.Reachable self calls r := hr
    have hthen : RouteSystem.Reachable self calls t := hr.tail ⟨_, hnext, trivial⟩
    have hrest := hmeets r.world l a t.world hreach.inv hanswer
    rw [← hclient] at hrest
    have hresult := ((hthen.sound.update hrest).reaches tolerates_route hlater).result hdone
    rw [Function.update_self] at hresult
    exact ⟨r, ⟨hreach, hwaits.trans hprogram.symm, l, t, hnext, hlater⟩, hresult outcome rfl⟩

/-- The outcome of a recovery is true of the operation that is last in what it has read. -/
theorem RouteSystem.Reachable.recovered (h : s.Reachable self calls)
    (hp : OperationIdsPromised calls) {i : ι} {publicationId : UUID}
    (hcall : (calls i).recovers? = some publicationId) {outcome : RouteOutcome}
    (hdone : s.clients i = .done (.ok (.verdict outcome))) :
    ∃ r, ReadsStored self calls i r s ∧
      ∃ e, LastStored r.world (calls i) e ∧ RecoveredEntry outcome s.world e := by
  cases hkind : calls i with
  | recoverWriter p c =>
      refine h.verdict (R := fun w outcome w' => ∃ e, LastStored w (.recoverWriter p c) e ∧
        RecoveredEntry outcome w' e) (by rw [hkind]; rfl) (fun w l a w' hw hanswer => ?_) hdone
      obtain ⟨rfl, rfl⟩ := RouteWorld.answer_storedWriter hanswer
      refine PersistentRouteWriterJournal.meets_load hw (fun j hj hstored hloaded => ?_)
        fun _ _ => trivial
      refine RouteMeets.bind hw (j.meets_recover hw hloaded) fun outcome w₁ _ hfound => ?_
      obtain ⟨e, ⟨o, ho, he⟩, hrecovered⟩ := hfound
      refine meets_ended fun w₂ hr _ outcome' heq => ?_
      obtain rfl := RouteResult.verdict.inj heq
      have hkept : Stays fun w : RouteWorld ι =>
        OperationIdsPromised calls → RecoveredEntry outcome w e := stays_recovered outcome e
      refine ⟨e, ?_, hkept.relies hr hrecovered hp⟩
      rcases hloaded.held with hheld | ⟨-, hnone⟩
      · exact ⟨_, o, hstored.symm.trans hheld, ho, hj ▸ he⟩
      · rw [hnone] at ho
        cases ho
  | recoverActivation p c =>
      refine h.verdict (R := fun w outcome w' => ∃ e, LastStored w (.recoverActivation p c) e ∧
        RecoveredEntry outcome w' e) (by rw [hkind]; rfl) (fun w l a w' hw hanswer => ?_) hdone
      obtain ⟨rfl, rfl⟩ := RouteWorld.answer_storedActivation hanswer
      refine PersistentRouteActivationJournal.meets_load hw (fun j hj hstored hloaded => ?_)
        fun _ _ => trivial
      refine RouteMeets.bind hw (j.meets_recover hw hloaded) fun outcome w₁ _ hfound => ?_
      obtain ⟨e, ⟨checkpoint, hcheckpoint, he⟩, hrecovered⟩ := hfound
      refine meets_ended fun w₂ hr _ outcome' heq => ?_
      obtain rfl := RouteResult.verdict.inj heq
      have hkept : Stays fun w : RouteWorld ι =>
        OperationIdsPromised calls → RecoveredEntry outcome w e := stays_recovered outcome e
      exact ⟨e, ⟨checkpoint, hstored.symm.trans hcheckpoint, hj ▸ he⟩,
        hkept.relies hr hrecovered hp⟩
  | _ =>
      rw [hkind] at hcall
      cases hcall

/-- The verdict of a recovery is the truth about the operation that was last in the checkpoint
that it has read: confirmed only where it was applied, fenced only where it never is. -/
theorem recoveries_tell_truth (h : s.Reachable self calls) (hp : OperationIdsPromised calls)
    (hlater : Client.Reaches routeDynamics Client.anyChange s s') {i : ι} {publicationId : UUID}
    (hcall : (calls i).recovers? = some publicationId) {outcome : RouteOutcome}
    (hdone : s.clients i = .done (.ok (.verdict outcome))) :
    ∃ r, ReadsStored self calls i r s ∧ ∃ e, LastStored r.world (calls i) e ∧
      ToldOutcome s.world s'.world publicationId outcome e := by
  obtain ⟨r, hreads, e, hlast, hrecovered⟩ := h.recovered hp hcall hdone
  refine ⟨r, hreads, e, hlast, hrecovered.saved, hlast.publication hcall, hrecovered.confirmed,
    fun ho => ?_⟩
  have hfenced : Fenced s'.world e.body :=
    h.keepsFrom hlater (fun _ _ => fenced_step) (hrecovered.fenced ho)
  exact hfenced.unapplied

/-- The recovery of publication 5 returns that its claim, which is all that its journal had,
is fenced; when the batch arrives it is not applied. -/
theorem fenced_recovery_returns : ∃ s s',
    RouteSystem.Reachable RouteSample.routeProjection RouteSample.fencedCalls s ∧
      s.next? routeDynamics (none, .deliver 0) = some s' ∧
      s.clients 2 = .done (.ok (.verdict .notAppliedFenced)) ∧
      ∃ r, ReadsStored RouteSample.routeProjection RouteSample.fencedCalls 2 r s ∧
        ∃ e, LastStored r.world (.recoverWriter 5 ⟨"context"⟩) e ∧
          ToldOutcome s.world s'.world 5 .notAppliedFenced e := by
  obtain ⟨s, s', hrun, hnext, hdone⟩ : ∃ s s',
      (RouteSystem.start RouteSample.routeProjection RouteSample.fencedCalls).run? routeDynamics
        RouteSample.fencing = some s ∧
      s.next? routeDynamics (none, .deliver 0) = some s' ∧
      s.clients 2 = .done (.ok (.verdict .notAppliedFenced)) := ⟨_, _, rfl, rfl, rfl⟩
  have hreach : RouteSystem.Reachable RouteSample.routeProjection RouteSample.fencedCalls s :=
    Client.reaches_of_run? hrun
  have hlater : Client.Reaches routeDynamics Client.anyChange s s' := .single ⟨_, hnext, trivial⟩
  exact ⟨s, s', hreach, hnext, hdone,
    recoveries_tell_truth hreach RouteSample.fencedCalls_promised hlater rfl hdone⟩

/-- Every checkpoint that is stored can be loaded again by the journals of its
publication. -/
theorem checkpoints_load_again (h : s.Reachable self calls) (hp : OperationIdsPromised calls)
    (publicationId : UUID) :
    (∀ c, s.world.writerCheckpoints publicationId = some c →
      PersistentRouteWriterJournal.load publicationId c.contextSha256 (some c) =
        .ok ⟨publicationId, c, some c⟩) ∧
    ∀ c, s.world.activationCheckpoints publicationId = some c →
      ∃ j, PersistentRouteActivationJournal.load publicationId c.contextSha256 (some c)
        = .ok j := by
  have hjournals := h.inv.journals hp
  constructor
  · intro c hc
    obtain ⟨i, hsaved⟩ := hjournals.storedWriter publicationId c hc
    exact PersistentRouteWriterJournal.load_eq_ok.2
      ⟨rfl, hjournals.writerHistory i publicationId c hsaved, rfl⟩
  · intro c hc
    obtain ⟨i, hsaved⟩ := hjournals.storedActivation publicationId c hc
    exact PersistentRouteActivationJournal.load_eq_ok.2
      ⟨rfl, _, hjournals.activationRecorded i publicationId c hsaved⟩

/-- What publication 5 stored can be loaded again. -/
theorem fenced_checkpoint_loads : ∃ s c,
    RouteSystem.Reachable RouteSample.routeProjection RouteSample.fencedCalls s ∧
      s.world.writerCheckpoints 5 = some c ∧ c.operations.length = 1 ∧
      PersistentRouteWriterJournal.load 5 c.contextSha256 (some c) = .ok ⟨5, c, some c⟩ := by
  obtain ⟨s, c, hrun, hc, hlength⟩ : ∃ s c,
      (RouteSystem.start RouteSample.routeProjection RouteSample.fencedCalls).run? routeDynamics
        RouteSample.fencing = some s ∧
      s.world.writerCheckpoints 5 = some c ∧ c.operations.length = 1 := ⟨_, _, rfl, rfl, rfl⟩
  have hreach : RouteSystem.Reachable RouteSample.routeProjection RouteSample.fencedCalls s :=
    Client.reaches_of_run? hrun
  exact ⟨s, c, hreach, hc, hlength,
    (checkpoints_load_again hreach RouteSample.fencedCalls_promised 5).1 c hc⟩

end

end Turnstile
