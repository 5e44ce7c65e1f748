import Turnstile.Services.RouteFencing

/-!
# The writer row and the active row

A claim reads the active row and then writes the writer row, and nothing ties the two.  In
between an activation that does not know of a writer may be applied, and then the writer
row is behind.  That is the only way in which the two rows come to disagree; a writer row
that is behind stays so, and no activation is committed with it.
-/

namespace Turnstile

open Guard

section

variable {ι : Type} {calls : ι → RouteCall} {i : ι} {w w' : RouteWorld ι}

/-! ## What was read of the active row -/

/-- A read of the active row found the generation of all activations before it. -/
def ReadsInOrder (w : RouteWorld ι) : Prop :=
  ∀ recent older i found, w.history = recent ++ (i, .observed (.root .active) found) :: older →
    headGeneration found = activationsIn older

/-- The generation is the number of activations. -/
theorem Moved.generation (h : Moved w) : w.rows.generation = activationsIn w.history := by
  rw [activationsIn, h.bases, List.length_reverse, List.length_range]

theorem readsInOrder_cons {history : List (ι × RouteEvent)} {e : ι × RouteEvent}
    (hw : w.history = history) (h : ReadsInOrder w) (hw' : w'.history = e :: history)
    (hread : ∀ found, e.2 = .observed (.root .active) found →
      headGeneration found = activationsIn history) : ReadsInOrder w' := by
  intro recent older i found heq
  rw [hw'] at heq
  cases recent with
  | nil =>
      obtain ⟨rfl, rfl⟩ := List.cons.inj heq
      exact hread found rfl
  | cons first recent =>
      obtain ⟨-, hrest⟩ := List.cons.inj heq
      exact h recent older i found (hw.trans hrest)

theorem Quietly.readsInOrder {recent : Option (ι × RouteEvent)} (h : Quietly w w' recent)
    (hmoved : Moved w) (hw : ReadsInOrder w) : ReadsInOrder w' := by
  cases recent with
  | none => exact fun r older j found heq => hw r older j found (h.history.symm.trans heq)
  | some e =>
      refine readsInOrder_cons rfl hw h.history fun found hfound => ?_
      rw [h.observed e rfl _ _ hfound, ← rows_generation, hmoved.generation]

theorem Quietly.moved {recent : Option (ι × RouteEvent)} (h : Quietly w w' recent)
    (hw : Moved w) : Moved w' := by
  unfold Moved
  rwa [h.rows, h.commitsOf]

theorem Applies.readsInOrder {s : RouteSubmission} (h : Applies calls w w' i s)
    (hw : ReadsInOrder w) : ReadsInOrder w' :=
  readsInOrder_cons rfl hw h.history fun _ heq => by cases heq

/-! ## Claims -/

/-- Client `i` read the active row and has claimed the writer row since. -/
structure ClaimSince (w : RouteWorld ι) (i : ι) (recent : List (ι × RouteEvent)) : Prop where
  read : ∃ found older, w.history = recent ++ (i, .observed (.root .active) found) :: older
  claimed : ∃ b c, (i, RouteEvent.applied (.batch b)) ∈ recent ∧ b.commit? = some c ∧
    c.isClaim = true

/-- An activation that leaves the writer row alone was applied. -/
def Bypassed (recent : List (ι × RouteEvent)) : Prop :=
  ∃ c ∈ commitsOf recent, c.isAlone = true

/-- The writer row agrees with the active row, or an activation bypassed it after the
claim had read the active row. -/
structure Settled (w : RouteWorld ι) (i : ι) (recent : List (ι × RouteEvent)) : Prop where
  claim : ClaimSince w i recent
  rows : w.rows.Agrees ∨ w.rows.Behind ∧ Bypassed recent

/-- Every writer row was claimed, and is settled. -/
def Tied (w : RouteWorld ι) : Prop := w.rows.writer ≠ none → ∃ i recent, Settled w i recent

theorem ClaimSince.append {recent more : List (ι × RouteEvent)} (h : ClaimSince w i recent)
    (hhistory : w'.history = more ++ w.history) : ClaimSince w' i (more ++ recent) := by
  obtain ⟨found, older, hread⟩ := h.read
  obtain ⟨b, c, hb, hc⟩ := h.claimed
  exact ⟨⟨found, older, by rw [hhistory, hread, List.append_assoc]⟩,
    b, c, List.mem_append_right _ hb, hc⟩

theorem Bypassed.append {recent : List (ι × RouteEvent)} (h : Bypassed recent)
    (more : List (ι × RouteEvent)) : Bypassed (more ++ recent) := by
  obtain ⟨c, hc, halone⟩ := h
  exact ⟨c, by rw [commitsOf_append]; exact List.mem_append_right _ hc, halone⟩

theorem Quietly.tied {recent : Option (ι × RouteEvent)} (h : Quietly w w' recent) (hw : Tied w) :
    Tied w' := by
  intro hwriter
  rw [h.rows] at hwriter
  obtain ⟨i, older, hsettled⟩ := hw hwriter
  refine ⟨i, recent.toList ++ older, hsettled.claim.append h.history, ?_⟩
  rw [h.rows]
  rcases hsettled.rows with hagrees | ⟨hbehind, hbypassed⟩
  · exact .inl hagrees
  · exact .inr ⟨hbehind, hbypassed.append _⟩

/-- A move of a writer row that exists. -/
theorem Tied.move {b : RouteBatch} {c : RouteCommit} (hw : Tied w) (hwriter : w.rows.writer ≠ none)
    (hhistory : w'.history = (i, .applied (.batch b)) :: w.history) (hcommit : b.commit? = some c)
    (hmove : RouteMove (calls i) w.rows c w'.rows) : ∃ j recent, Settled w' j recent := by
  obtain ⟨j, recent, hsettled⟩ := hw hwriter
  have hmore : w'.history = [(i, .applied (.batch b))] ++ w.history := hhistory
  refine ⟨j, _, hsettled.claim.append hmore, ?_⟩
  rcases hsettled.rows with hagrees | ⟨hbehind, hbypassed⟩
  · rcases hmove.agrees hagrees hwriter with hagrees' | ⟨halone, hbehind⟩
    · exact .inl hagrees'
    · exact .inr ⟨hbehind, c, mem_commitsOf.2 ⟨i, b, List.mem_cons_self, hcommit⟩, halone⟩
  · exact .inr ⟨(hmove.behind hbehind).1, hbypassed.append _⟩

/-- Whatever wrote the active row was an activation, and it left the writer row alone when
there is none. -/
theorem RouteInv.activation_of_active {s : RouteSubmission} (h : RouteInv calls w)
    (hs : (i, RouteEvent.applied s) ∈ w.history) {x : Write RouteKey RouteDocument}
    (hx : x ∈ s.writes) (hkey : x.key = .root .active) : ∃ b receipt head after, s = .batch b ∧
      b.commit? = some (.activation receipt head after) ∧
      (w.table.rows (.root .writer) = none → after = none) := by
  obtain ⟨hsent, hrows⟩ := h.applied i s hs
  have hprepared := h.submitted i s hsent
  cases hprepared with
  | writer intent hp =>
      rw [hp.writes] at hx
      rcases List.mem_cons.1 hx with rfl | hx
      · cases hkey
      · rw [List.mem_singleton.1 hx] at hkey
        cases hkey
  | activation intent hp =>
      refine ⟨_, _, _, _, rfl, hp.commit?, fun habsent => ?_⟩
      cases hafter : intent.writerAfter with
      | none => rfl
      | some after =>
          rw [hp.writes, hafter] at hrows
          exact absurd habsent (hrows _ List.mem_cons_self)
  | entity key document hp =>
      rw [List.mem_singleton.1 hx] at hkey
      exact absurd hkey hp.staged.2.1

/-- A writer intent that is applied where there is no writer has no state before. -/
theorem PreparedWriter.before_eq_none {intent : RouteWriterIntent}
    (h : PreparedWriter calls w i intent) (happlies : Applies calls w w' i (.batch intent.body))
    (hwriter : w.rows.writer = none) : intent.before = none := by
  cases hbefore : intent.before with
  | none => rfl
  | some before =>
      obtain ⟨etag, hetag, hseen⟩ := h.before before hbefore
      have hadmits := happlies.admits
      rw [h.writes] at hadmits
      have htag := ((Table.admits_cons _ _ _).1 hadmits).1
      have hsome : w.rows.writer = some before :=
        writer?_of_rows (hseen.rows_of_etag? (htag.trans hetag))
      rw [hwriter] at hsome
      cases hsome

/-- A claim settles the writer row. -/
theorem PreparedWriter.settled {intent : RouteWriterIntent} (h : PreparedWriter calls w i intent)
    (happlies : Applies calls w w' i (.batch intent.body)) (hmoved : Moved w)
    (hreads : ReadsInOrder w) (hwriter : w.rows.writer = none) (hwriter' : w'.rows.writer ≠ none) :
    ∃ j recent, Settled w' j recent := by
  have hbefore := h.before_eq_none happlies hwriter
  obtain ⟨active, ⟨recent, older, hhistory, hquiet⟩, hgeneration, hversion, hsha⟩ :=
    h.claimed hbefore
  obtain ⟨-, hrecorded⟩ := RouteWriterIntent.toRecord_eq_ok h.recorded
  have habsent : w.table.rows (.root .writer) = none := by
    have hadmits := happlies.admits
    rw [h.writes] at hadmits
    rw [← Table.etag?_eq_none, ((Table.admits_cons _ _ _).1 hadmits).1]
    exact hrecorded.etag.2 hbefore
  rcases (h.move happlies).unclaimed hwriter with hnone | ⟨receipt, after, hcommit, hkind, hrows'⟩
  · exact absurd hnone hwriter'
  obtain ⟨rfl, rfl⟩ := RouteCommit.writer.inj hcommit
  have hfound := hreads _ _ _ _ hhistory
  have hstate : intent.after.activeGeneration = activationsIn older := by
    rw [hgeneration, ← hfound]
    cases active <;> rfl
  have hclaim : ClaimSince w' i ((i, .applied (.batch intent.body)) :: recent) :=
    { read := ⟨_, older, by rw [happlies.history, hhistory]; rfl⟩
      claimed := ⟨_, _, List.mem_cons_self, h.commit?, by rw [RouteCommit.isClaim, hkind]; rfl⟩ }
  refine ⟨i, _, hclaim, ?_⟩
  rw [hrows']
  by_cases hwritten : ∃ e ∈ recent, ∃ s, e.2 = .applied s ∧ ∃ x ∈ s.writes, x.key = .root .active
  · obtain ⟨⟨j, event⟩, he, s, hs, x, hx, hkey⟩ := hwritten
    dsimp only at hs
    subst hs
    have hmem : (j, RouteEvent.applied s) ∈ w.history := by
      rw [hhistory]
      exact List.mem_append_left _ he
    obtain ⟨b, receipt, head, after, rfl, hcommit, hnone⟩ :=
      happlies.inv.activation_of_active hmem hx hkey
    obtain rfl := hnone habsent
    have hcommits := mem_commitsOf.2 ⟨j, b, he, hcommit⟩
    have hpositive : 0 < activationsIn recent :=
      List.length_pos_of_mem (List.mem_filterMap.2 ⟨_, hcommits, rfl⟩)
    refine .inr ⟨⟨intent.after, rfl, ?_⟩, Bypassed.append ⟨_, hcommits, rfl⟩ [_]⟩
    have hnow : activationsIn w.history = activationsIn recent + activationsIn older := by
      rw [hhistory, activationsIn_append]
      rfl
    calc intent.after.activeGeneration = activationsIn older := hstate
      _ < activationsIn w.history := by rw [hnow]; exact Nat.lt_add_of_pos_left hpositive
      _ = w.rows.generation := hmoved.generation.symm
  · have hsame := hquiet fun e he s hs x hx hkey => hwritten ⟨e, he, s, hs, x, hx, hkey⟩
    refine .inl fun state hstate => ?_
    obtain rfl := Option.some.inj hstate
    have hactive : w.rows.active = active.map Prod.fst := by
      rw [RouteWorld.rows, RouteWorld.active?, hsame]
      cases active <;> rfl
    rw [hactive]
    cases active with
    | none => exact ⟨hgeneration, hversion, hsha⟩
    | some found => exact ⟨hgeneration, hversion, hsha⟩

theorem Applies.tied {s : RouteSubmission} (h : Applies calls w w' i s) (hmoved : Moved w)
    (hreads : ReadsInOrder w) (hw : Tied w) : Tied w' := by
  cases s with
  | batch b =>
      intro hwriter'
      obtain ⟨c, hcommit, hmove⟩ := h.move
      by_cases hwriter : w.rows.writer = none
      · have hprepared := h.inv.submitted i _ h.sent
        generalize hs : RouteSubmission.batch b = s at hprepared
        cases hprepared with
        | writer intent hp =>
            cases hs
            exact hp.settled h hmoved hreads hwriter hwriter'
        | activation intent hp =>
            cases hs
            rcases (hp.move h).unclaimed hwriter with hnone | ⟨receipt, after, hwrong, -⟩
            · exact absurd hnone hwriter'
            · cases hwrong
        | entity key document hp => cases hs
      · exact hw.move hwriter h.history hcommit hmove
  | entity key document =>
      intro hwriter
      rw [h.rows_entity] at hwriter
      obtain ⟨j, recent, hsettled⟩ := hw hwriter
      have hmore : w'.history = [(i, .applied (.entity key document))] ++ w.history := h.history
      refine ⟨j, _, hsettled.claim.append hmore, ?_⟩
      rw [h.rows_entity]
      rcases hsettled.rows with hagrees | ⟨hbehind, hbypassed⟩
      · exact .inl hagrees
      · exact .inr ⟨hbehind, hbypassed.append _⟩

/-! ## Whole runs -/

/-- What is known of the order of reads, claims and activations. -/
structure Ordered (w : RouteWorld ι) : Prop where
  moved : Moved w
  reads : ReadsInOrder w
  tied : Tied w

theorem Ordered.empty : Ordered (RouteWorld.empty : RouteWorld ι) where
  moved := .start
  reads recent older i found h := by cases recent <;> cases h
  tied h := absurd rfl h

theorem Quietly.ordered {recent : Option (ι × RouteEvent)} (h : Quietly w w' recent)
    (hw : Ordered w) : Ordered w' :=
  ⟨h.moved hw.moved, h.readsInOrder hw.moved hw.reads, h.tied hw.tied⟩

theorem ordered_step (h : RouteStep calls w w') (hw : Ordered w) : Ordered w' := by
  have hmoved := moved_step h hw.moved
  cases h with
  | quiet h => exact h.ordered hw
  | commit hquiet h =>
      have hmiddle := hquiet.ordered hw
      exact ⟨hmoved, h.readsInOrder hmiddle.reads, h.tied hmiddle.moved hmiddle.reads hmiddle.tied⟩

/-- A writer row that is behind, and what was committed since `past`. -/
structure BehindSince (past : List RouteCommit) (w : RouteWorld ι) : Prop where
  behind : w.rows.Behind
  newer : ∃ newer, commitsOf w.history = newer ++ past ∧ ∀ c ∈ newer, c.isWithWriter = false

theorem behindSince_step {past : List RouteCommit} (h : RouteStep calls w w')
    (hw : BehindSince past w) : BehindSince past w' := by
  obtain ⟨newer, hnewer, hwithout⟩ := hw.newer
  cases h.rows with
  | stay hrows hcommits => exact ⟨hrows ▸ hw.behind, newer, hcommits.trans hnewer, hwithout⟩
  | @move i b c older hhistory holder hcommit hmove =>
      obtain ⟨hbehind, hc⟩ := hmove.behind hw.behind
      refine ⟨hbehind, c :: newer, ?_, fun c' hc' => ?_⟩
      · rw [hhistory, List.cons_append, ← hnewer, ← holder]
        exact List.filterMap_cons_some hcommit
      · rcases List.mem_cons.1 hc' with rfl | hc'
        · exact hc
        · exact hwithout c' hc'

end

/-! ## A race -/

namespace RouteSample

/-- A claim, an initialization and a takeover. -/
def racingCalls : ℕ → RouteCall
  | 0 => .claimWriter (writerArguments 1 11 .other)
  | 1 => .initializeEmptyScope routeIdentity routeProof 8 12 112
  | _ => .takeoverWriter (writerArguments 2 13 .other)

/-- The claim has read that there is no head; then the scope is initialized, and then the
claim is applied. -/
def racing : List (Option ℕ × RouteLabel) :=
  turns 0 0 [false, false, true, false, false, true] ++
    turns 1 0 [false, false, true, true, false, false, true, false, false, false, false, false,
      true, false] ++
    turns 0 0 [false]

end RouteSample

/-! ## Results -/

section

variable {ι : Type} [DecidableEq ι] {calls : ι → RouteCall} {self : RouteProjection}
  {s s' : RouteSystem ι}

/-- In every state reached the writer row was claimed by a client that had read the active
row, and it agrees with the active row, unless an activation that leaves the writer row
alone was applied after that read: then it is behind. -/
theorem writer_agrees_unless_bypassed (h : s.Reachable self calls) {state : RouteWriterState}
    (hwriter : s.world.writer? = some state) : ∃ i recent, Settled s.world i recent := by
  have hordered : Ordered s.world :=
    h.keeps .empty fun _ _ => ordered_step
  refine hordered.tied fun hnone => ?_
  rw [show s.world.rows.writer = some state from hwriter] at hnone
  cases hnone

/-- An initialization bypasses the claim that it races with, and the writer row is behind. -/
theorem writer_bypassed_by_initialization : ∃ s,
    RouteSystem.Reachable RouteSample.routeProjection RouteSample.racingCalls s ∧
      ∃ i recent, ClaimSince s.world i recent ∧ Bypassed recent ∧ s.world.rows.Behind := by
  obtain ⟨s, hrun, state, hwriter, hstate, hgeneration⟩ : ∃ s,
      (RouteSystem.start RouteSample.routeProjection RouteSample.racingCalls).run? routeDynamics
        RouteSample.racing = some s ∧ ∃ state, s.world.writer? = some state ∧
      state.activeGeneration = 0 ∧ s.world.rows.generation = 1 := ⟨_, rfl, _, rfl, rfl, rfl⟩
  have hreach : RouteSystem.Reachable RouteSample.routeProjection RouteSample.racingCalls s :=
    Client.reaches_of_run? hrun
  obtain ⟨i, recent, hsettled⟩ := writer_agrees_unless_bypassed hreach hwriter
  refine ⟨s, hreach, i, recent, hsettled.claim, ?_⟩
  rcases hsettled.rows with hagrees | ⟨hbehind, hbypassed⟩
  · have hsame := (hagrees state hwriter).1
    rw [hstate, hgeneration] at hsame
    cases hsame
  · exact ⟨hbypassed, hbehind⟩

/-- A writer row that is behind stays behind whatever is done, and no activation is ever
committed with it again. -/
theorem writer_behind_for_good (h : s.Reachable self calls) (hbehind : s.world.rows.Behind)
    (hlater : Client.Reaches routeDynamics Client.anyChange s s') : s'.world.rows.Behind ∧
      ∃ newer, commitsOf s'.world.history = newer ++ commitsOf s.world.history ∧
        ∀ c ∈ newer, c.isWithWriter = false := by
  have hsince : BehindSince (commitsOf s.world.history) s'.world :=
    h.keepsFrom hlater (fun _ _ => behindSince_step)
      ⟨hbehind, [], rfl, fun _ hc => absurd hc List.not_mem_nil⟩
  exact ⟨hsince.behind, hsince.newer⟩

/-- A takeover does not help a writer row that is behind. -/
theorem writer_behind_after_takeover : ∃ s s',
    RouteSystem.Reachable RouteSample.routeProjection RouteSample.racingCalls s ∧
      Client.Reaches routeDynamics Client.anyChange s s' ∧
      s'.world.writer?.map (fun state => state.writerEpoch) = some 2 ∧ s'.world.rows.Behind := by
  obtain ⟨s, s', hrun, hlater, state, hwriter, hstate, hgeneration, hepoch⟩ : ∃ s s',
      (RouteSystem.start RouteSample.routeProjection RouteSample.racingCalls).run? routeDynamics
        RouteSample.racing = some s ∧
      s.run? routeDynamics (RouteSample.turns 2 30 [false, true, false, false, true, false])
        = some s' ∧
      ∃ state, s.world.rows.writer = some state ∧ state.activeGeneration = 0 ∧
        s.world.rows.generation = 1 ∧
        s'.world.writer?.map (fun state => state.writerEpoch) = some 2 :=
    ⟨_, _, rfl, rfl, _, rfl, rfl, rfl, rfl⟩
  have hreach : RouteSystem.Reachable RouteSample.routeProjection RouteSample.racingCalls s :=
    Client.reaches_of_run? hrun
  have hbehind : s.world.rows.Behind := ⟨state, hwriter, by rw [hstate, hgeneration]; decide⟩
  exact ⟨s, s', hreach, Client.reaches_of_run? hlater, hepoch,
    (writer_behind_for_good hreach hbehind (Client.reaches_of_run? hlater)).1⟩

end

end Turnstile
