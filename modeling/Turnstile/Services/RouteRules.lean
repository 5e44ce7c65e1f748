import Turnstile.Services.RouteJournals

/-!
# The rules of route workers

The contract of the route workers, and what each of their requests does under it.  A
request that only reads keeps everything.  A batch is sent once, by the client that began
its operation, and a checkpoint is saved over the one that was expected.
-/

namespace Turnstile

open Guard

section

variable {ι : Type} (calls : ι → RouteCall)

/-- What holds in every world that is reached. -/
structure RouteWorldInv (w : RouteWorld ι) : Prop where
  table : RouteInv calls w
  journals : OperationIdsPromised calls → Journaled calls w

/-- The contract of the route workers. -/
def routeContract : Client.Contract ι (RouteWorld ι) where
  inv := RouteWorldInv calls
  rely := Relies calls
  guard := Client.anyChange
  refl := Relies.refl
  trans _ _ _ _ := Relies.trans

/-- What an ended operation has reached: `Q` of its value, or `E` of its error. -/
def RouteEnds {α : Type} (Q : α → RouteWorld ι → Prop) (E : RouteError → RouteWorld ι → Prop) :
    Except RouteError α → RouteWorld ι → Prop
  | .ok a, w => Q a w
  | .error e, w => E e w

/-- Client `i` keeps to the contract and ends in `Q` or `E`. -/
abbrev RouteMeets {α : Type} (i : ι) (Q : α → RouteWorld ι → Prop)
    (E : RouteError → RouteWorld ι → Prop) (p : RouteClient α) (w : RouteWorld ι) : Prop :=
  Client.Meets routeDynamics (routeContract calls) i (RouteEnds Q E) p w

variable {calls} {α β : Type} {i : ι} {Q : α → RouteWorld ι → Prop}
  {E : RouteError → RouteWorld ι → Prop} {w : RouteWorld ι}

/-! ## Sequences -/

theorem RouteMeets.bind {R : β → RouteWorld ι → Prop} {p : RouteClient β}
    {f : β → RouteClient α} (hw : RouteWorldInv calls w)
    (h : RouteMeets calls i R E p w)
    (hf : ∀ a w', RouteWorldInv calls w' → R a w' → RouteMeets calls i Q E (f a) w') :
    RouteMeets calls i Q E (p >>= f) w := by
  refine Client.Meets.bind hw (h.mono fun r w' hw' hr => ?_)
  cases r with
  | ok a => exact hf a w' hw' hr
  | error e => exact hr

theorem RouteMeets.handle {E' : RouteError → RouteWorld ι → Prop} {p : RouteClient α}
    {f : RouteError → RouteClient α} (hw : RouteWorldInv calls w)
    (h : RouteMeets calls i Q E' p w)
    (hf : ∀ e w', RouteWorldInv calls w' → E' e w' → RouteMeets calls i Q E (f e) w') :
    RouteMeets calls i Q E (p.handle f) w := by
  refine Client.Meets.handle hw (h.mono fun r w' hw' hr => ?_)
  cases r with
  | ok a => exact hr
  | error e => exact hf e w' hw' hr

theorem RouteMeets.weaken {Q' : α → RouteWorld ι → Prop} {E' : RouteError → RouteWorld ι → Prop}
    {p : RouteClient α} (h : RouteMeets calls i Q E p w)
    (hQ : ∀ a w', RouteWorldInv calls w' → Q a w' → Q' a w')
    (hE : ∀ e w', RouteWorldInv calls w' → E e w' → E' e w') :
    RouteMeets calls i Q' E' p w := by
  refine h.mono fun r w' hw' hr => ?_
  cases r with
  | ok a => exact hQ a w' hw' hr
  | error e => exact hE e w' hw' hr

theorem meets_ended {a : α} (h : ∀ w', Relies calls i w w' → RouteWorldInv calls w' → Q a w') :
    RouteMeets calls i Q E (pure a) w :=
  h

theorem meets_failed {e : RouteError}
    (h : ∀ w', Relies calls i w w' → RouteWorldInv calls w' → E e w') :
    RouteMeets calls i Q E (Client.raise e : RouteClient α) w :=
  h

theorem meets_lifted {x : Except RouteError β} {f : β → RouteClient α}
    (h : ∀ a, x = .ok a → RouteMeets calls i Q E (f a) w)
    (hE : ∀ e w', Relies calls i w w' → RouteWorldInv calls w' → E e w') :
    RouteMeets calls i Q E (Client.lift x >>= f) w :=
  Client.Meets.lift_bind (fun e _ => hE e) h

/-! ## What the others may rely on -/

/-- What happened without a save or a batch is as nothing to the others. -/
theorem relies_quiet {w' : RouteWorld ι} {recent : List (ι × RouteEvent)}
    (hc : Continues w w' recent) (hown : ∀ e ∈ recent, e.1 = i)
    (hquiet : ∀ e ∈ recent, e.2.quiet = true) {j : ι} (hj : j ≠ i) : Relies calls j w w' := by
  refine ⟨recent, hc, fun e he heq => absurd ((heq.symm.trans (hown e he))) hj, fun _ => ⟨?_, ?_⟩⟩
  · intro e he _ row _
    exact RouteEvent.sendsRow_of_quiet (hquiet e he) row
  · intro e he _ entry hentry
    rw [RouteEvent.entries_of_quiet (hquiet e he)] at hentry
    cases hentry

/-! ## What a request does to the world -/

namespace RouteWorldInv

theorem empty : RouteWorldInv calls (RouteWorld.empty : RouteWorld ι) :=
  ⟨.empty, fun _ => .empty⟩

/-- Events without a save, a batch or a write keep the invariant. -/
theorem quiet {w' : RouteWorld ι} (h : RouteWorldInv calls w) (recent : List (ι × RouteEvent))
    (htable : w'.table = w.table) (hhistory : w'.history = recent ++ w.history)
    (hpool : ∀ i s, (i, s) ∈ w'.pool → (i, s) ∈ w.pool ∨ (i, RouteEvent.sent s) ∈ recent)
    (hwriter : w'.writerCheckpoints = w.writerCheckpoints)
    (hactivation : w'.activationCheckpoints = w.activationCheckpoints)
    (hquiet : ∀ e ∈ recent, e.2.quiet = true) (happlied : ∀ e ∈ recent, ∀ s, e.2 ≠ .applied s)
    (hsent : ∀ i s, (i, RouteEvent.sent s) ∈ recent → Prepared calls w i s)
    (hobserved : ∀ i k r, (i, RouteEvent.observed k (some r)) ∈ recent →
      w.table.rows k = some r) : RouteWorldInv calls w' where
  table := h.table.quiet htable hhistory hpool happlied hsent hobserved
  journals hp := (h.journals hp).quiet (.of_table htable hhistory happlied) hwriter hactivation
    hquiet

theorem observe (h : RouteWorldInv calls w) (i : ι) (key : RouteKey) :
    RouteWorldInv calls (w.log i (.observed key (w.table.rows key))) := by
  refine h.quiet [(i, .observed key (w.table.rows key))] rfl rfl
    (fun _ _ hs => .inl hs) rfl rfl ?_ ?_ ?_ ?_
  · intro e he
    obtain rfl := List.mem_singleton.1 he
    rfl
  · intro e he s hs
    obtain rfl := List.mem_singleton.1 he
    cases hs
  · intro j s hs
    cases List.mem_singleton.1 hs
  · intro j k r hs
    obtain ⟨-, heq⟩ := Prod.ext_iff.1 (List.mem_singleton.1 hs)
    simp only [RouteEvent.observed.injEq] at heq
    rw [heq.1, heq.2]

/-- What was sent may be in flight or not. -/
theorem withPool (h : RouteWorldInv calls w) {pool : List (ι × RouteSubmission)}
    (hpool : ∀ i s, (i, s) ∈ pool → (i, RouteEvent.sent s) ∈ w.history) :
    RouteWorldInv calls { w with pool := pool } := by
  have hc : Continues w { w with pool := pool } [] :=
    .of_table rfl rfl fun _ he => absurd he List.not_mem_nil
  refine ⟨?_, fun hp => (h.journals hp).quiet hc rfl rfl fun _ he => absurd he List.not_mem_nil⟩
  exact
    { wellTagged := h.table.wellTagged
      submitted := fun i s hs => (h.table.submitted i s hs).mono hc
      pool := hpool
      applied := h.table.applied
      source := h.table.source
      observed := h.table.observed }

theorem relies_withPool (pool : List (ι × RouteSubmission)) (j : ι) :
    Relies calls j w { w with pool := pool } :=
  @Relies.of_passive _ _ _ _ _ [] (.of_table rfl rfl fun _ he => absurd he List.not_mem_nil)
    fun _ he => absurd he List.not_mem_nil

theorem launch (h : RouteWorldInv calls w) {s : RouteSubmission}
    (hs : (i, RouteEvent.sent s) ∈ w.history) :
    RouteWorldInv calls { w with pool := (i, s) :: w.pool } := by
  refine h.withPool fun j s' hs' => ?_
  rcases List.mem_cons.1 hs' with heq | hs'
  · cases heq
    exact hs
  · exact h.table.pool j s' hs'

theorem offer (h : RouteWorldInv calls w) {s : RouteSubmission}
    (hs : (i, RouteEvent.sent s) ∈ w.history) : RouteWorldInv calls (w.offer i s) := by
  unfold RouteWorld.offer
  split
  next hadmits =>
    refine ⟨h.table.commit hs hadmits, fun hp => (h.journals hp).quiet
      (h.table.continues_commit hs hadmits) rfl rfl fun e he => ?_⟩
    obtain rfl := List.mem_singleton.1 he
    rfl
  next => exact h

/-- All could have relied on a submission that arrives. -/
theorem relies_offer (h : RouteWorldInv calls w) {s : RouteSubmission}
    (hs : (i, RouteEvent.sent s) ∈ w.history) (j : ι) : Relies calls j w (w.offer i s) := by
  unfold RouteWorld.offer
  split
  next hadmits =>
    refine .of_passive (h.table.continues_commit hs hadmits) fun e he => ?_
    obtain rfl := List.mem_singleton.1 he
    rfl
  next => exact .refl j w

theorem continues_sent (i : ι) (w : RouteWorld ι) (s : RouteSubmission) :
    Continues w (w.log i (.sent s)) [(i, .sent s)] :=
  .of_table rfl rfl fun e he s' hs' => by
    obtain rfl := List.mem_singleton.1 he
    cases hs'

theorem sendEntity (h : RouteWorldInv calls w) {key : RouteKey} {document : RouteDocument}
    (hprepared : PreparedEntity w key) :
    RouteWorldInv calls (w.log i (.sent (.entity key document))) := by
  refine h.quiet [(i, .sent (.entity key document))] rfl rfl (fun _ _ hs => .inl hs)
    rfl rfl ?_ ?_ ?_ ?_
  · intro e he
    obtain rfl := List.mem_singleton.1 he
    rfl
  · intro e he s hs
    obtain rfl := List.mem_singleton.1 he
    cases hs
  · intro j s hs
    cases List.mem_singleton.1 hs
    exact .entity key document hprepared
  · intro j k r hs
    cases List.mem_singleton.1 hs

theorem sendBatch (h : RouteWorldInv calls w) {b : RouteBatch}
    (hprepared : Prepared calls w i (.batch b)) (hsend : MaySend calls i b w) :
    RouteWorldInv calls (w.log i (.sent (.batch b))) where
  table := @RouteInv.quiet _ _ _ _ [(i, .sent (.batch b))] h.table rfl rfl (fun _ _ hs => .inl hs)
    (fun e he s hs => by
      obtain rfl := List.mem_singleton.1 he
      cases hs)
    (fun j s hs => by
      cases List.mem_singleton.1 hs
      exact hprepared)
    fun j k r hs => by cases List.mem_singleton.1 hs
  journals hp := (h.journals hp).send hp hprepared hsend (continues_sent i w _) rfl rfl

end RouteWorldInv

theorem tolerates_route : (routeContract calls).Tolerates (routeDynamics (ι := ι)) := by
  intro w l w' hw hl _
  cases l with
  | deliver n =>
      simp only [routeDynamics, RouteWorld.arrive] at hl
      split at hl
      next i s hn =>
        obtain rfl := Option.some.inj hl
        have hsent := hw.table.pool i s (List.mem_of_getElem? hn)
        have hinv : RouteWorldInv calls { w with pool := w.pool.eraseIdx n } :=
          hw.withPool fun j s' hs' => hw.table.pool j s' (List.mem_of_mem_eraseIdx hs')
        exact ⟨hinv.offer hsent, fun j =>
          (RouteWorldInv.relies_withPool _ j).trans (hinv.relies_offer hsent j)⟩
      next => cases hl
  | plain => cases hl
  | fail => cases hl
  | lost => cases hl
  | instant time => cases hl
  | raise e => cases hl

/-! ## Requests that change nothing -/

/-- What client `i` knows right after it read a row. -/
structure JustRead (w : RouteWorld ι) (i : ι) (key : RouteKey)
    (found : Option (Row RouteDocument)) : Prop where
  rows : w.table.rows key = found
  history : ∃ older, w.history = (i, .observed key found) :: older

theorem JustRead.seen (hw : RouteWorldInv calls w) {key : RouteKey} {row : Row RouteDocument}
    (h : JustRead w i key (some row)) : w.table.Seen key row :=
  .of_rows hw.table.wellTagged h.rows

theorem JustRead.mem {key : RouteKey} {found : Option (Row RouteDocument)}
    (h : JustRead w i key found) : (i, .observed key found) ∈ w.history := by
  obtain ⟨older, hhistory⟩ := h.history
  rw [hhistory]
  exact List.mem_cons_self

theorem meets_read {key : RouteKey} {f : Option (Row RouteDocument) → RouteClient α}
    (h : ∀ found w', Relies calls i w w' → RouteWorldInv calls w' → JustRead w' i key found →
      RouteMeets calls i Q E (f found) w')
    (hE : ∀ e w', Relies calls i w w' → RouteWorldInv calls w' → E e w') :
    RouteMeets calls i Q E (readDocument key >>= f) w := by
  intro w' hr hw' l a w'' hanswer _
  cases l with
  | plain =>
      cases Option.some.inj hanswer
      have hc : Continues w' (w'.log i (.observed key (w'.table.rows key)))
          [(i, .observed key (w'.table.rows key))] :=
        .of_table rfl rfl fun e he s hs => by
          obtain rfl := List.mem_singleton.1 he
          cases hs
      have hinv := hw'.observe i key
      have hown : ∀ e ∈ [((i, .observed key (w'.table.rows key)) : ι × RouteEvent)],
          e.2.passive = true := by
        intro e he
        obtain rfl := List.mem_singleton.1 he
        rfl
      exact ⟨⟨hinv, fun j _ => .of_passive hc hown⟩,
        h _ _ (hr.trans (.of_passive hc hown)) hinv ⟨rfl, w'.history, rfl⟩⟩
  | fail =>
      cases Option.some.inj hanswer
      exact ⟨.refl hw', fun w'' hr' hw'' => hE _ w'' (hr.trans hr') hw''⟩
  | lost => cases hanswer
  | instant time => cases hanswer
  | raise e => cases hanswer
  | deliver n => cases hanswer

theorem meets_now {f : ℤ → RouteClient α}
    (h : ∀ time w', Relies calls i w w' → RouteWorldInv calls w' →
      RouteMeets calls i Q E (f time) w') :
    RouteMeets calls i Q E (now >>= f) w := by
  intro w' hr hw' l a w'' hanswer _
  cases l with
  | instant time =>
      cases Option.some.inj hanswer
      exact ⟨.refl hw', h _ w' hr hw'⟩
  | plain => cases hanswer
  | fail => cases hanswer
  | lost => cases hanswer
  | raise e => cases hanswer
  | deliver n => cases hanswer

/-! ## Submissions -/

theorem meets_submit {s : RouteSubmission} {f : SubmitAnswer → RouteClient α}
    (hsend : ∀ w', Relies calls i w w' → RouteWorldInv calls w' →
      RouteWorldInv calls (w'.log i (.sent s)) ∧
        ∀ j, j ≠ i → Relies calls j w' (w'.log i (.sent s)))
    (h : ∀ answer w' w'' recent, Relies calls i w w' → RouteWorldInv calls w' →
      Continues w' w'' recent → RouteWorldInv calls w'' →
      RouteMeets calls i Q E (f answer) w'') :
    RouteMeets calls i Q E (submit s >>= f) w := by
  intro w' hr hw' l a w'' hanswer _
  obtain ⟨hsent, hothers⟩ := hsend w' hr hw'
  have hmem : (i, RouteEvent.sent s) ∈ (w'.log i (.sent s)).history := List.mem_cons_self
  have hc := RouteWorldInv.continues_sent i w' s
  cases l with
  | plain =>
      cases Option.some.inj hanswer
      have hinv := hsent.offer hmem
      obtain ⟨recent, hoffer⟩ := (hsent.relies_offer hmem i).continues
      exact ⟨⟨hinv, fun j hj => (hothers j hj).trans (hsent.relies_offer hmem j)⟩,
        h _ w' _ _ hr hw' (hc.trans hoffer) hinv⟩
  | lost =>
      cases Option.some.inj hanswer
      have hinv := hsent.launch hmem
      have hrelies : Relies calls i (w'.log i (.sent s))
          { w'.log i (.sent s) with pool := (i, s) :: w'.pool } :=
        RouteWorldInv.relies_withPool _ i
      obtain ⟨recent, hlaunch⟩ := hrelies.continues
      exact ⟨⟨hinv, fun j hj => (hothers j hj).trans (RouteWorldInv.relies_withPool _ j)⟩,
        h _ w' _ _ hr hw' (hc.trans hlaunch) hinv⟩
  | fail => cases hanswer
  | instant time => cases hanswer
  | raise e => cases hanswer
  | deliver n => cases hanswer

theorem meets_submit_entity {key : RouteKey} {document : RouteDocument}
    {f : SubmitAnswer → RouteClient α} (hprepared : PreparedEntity w key)
    (h : ∀ answer w' recent, Continues w w' recent → RouteWorldInv calls w' →
      RouteMeets calls i Q E (f answer) w') :
    RouteMeets calls i Q E (submit (.entity key document) >>= f) w := by
  refine meets_submit (fun w' hr hw' => ?_) fun answer w' w'' recent hr _ hc hw'' => ?_
  · obtain ⟨recent, hc⟩ := hr.continues
    refine ⟨hw'.sendEntity
      { hprepared with readback := fun d c hk => (hprepared.readback d c hk).mono hc },
      fun j hj => relies_quiet (RouteWorldInv.continues_sent i w' _) ?_ ?_ hj⟩
    · intro e he
      rw [List.mem_singleton.1 he]
    · intro e he
      obtain rfl := List.mem_singleton.1 he
      rfl
  · obtain ⟨older, hold⟩ := hr.continues
    exact h answer w'' _ (hold.trans hc) hw''

theorem meets_submit_batch {b : RouteBatch} {f : SubmitAnswer → RouteClient α}
    (hprepared : Prepared calls w i (.batch b)) (hsend : MaySend calls i b w)
    (h : ∀ answer w' recent, Continues w w' recent → RouteWorldInv calls w' →
      RouteMeets calls i Q E (f answer) w') :
    RouteMeets calls i Q E (submit (.batch b) >>= f) w := by
  refine meets_submit (fun w' hr hw' => ?_) fun answer w' w'' recent hr _ hc hw'' => ?_
  · obtain ⟨recent, hc⟩ := hr.continues
    have hprepared' := hprepared.mono hc
    have hsend' := hsend.stable hr
    refine ⟨hw'.sendBatch hprepared' hsend', fun j hj => ?_⟩
    refine ⟨_, RouteWorldInv.continues_sent i w' _, fun e he heq => ?_, fun hp =>
      (hw'.journals hp).leaves_send hp hj hprepared' hsend'⟩
    rw [List.mem_singleton.1 he] at heq
    exact absurd heq.symm hj
  · obtain ⟨older, hold⟩ := hr.continues
    exact h answer w'' _ (hold.trans hc) hw''

theorem meets_other {Q' : Unit → RouteWorld ι → Prop}
    (hQ : ∀ w', Relies calls i w w' → RouteWorldInv calls w' → Q' () w')
    (hE : ∀ e w', Relies calls i w w' → RouteWorldInv calls w' → E e w') :
    RouteMeets calls i Q' E (.call .other Client.lift) w := by
  intro w' hr hw' l a w'' hanswer _
  cases l with
  | plain =>
      cases Option.some.inj hanswer
      exact ⟨.refl hw', fun w'' hr' hw'' => hQ w'' (hr.trans hr') hw''⟩
  | raise e =>
      cases Option.some.inj hanswer
      exact ⟨.refl hw', fun w'' hr' hw'' => hE e w'' (hr.trans hr') hw''⟩
  | fail => cases hanswer
  | lost => cases hanswer
  | instant time => cases hanswer
  | deliver n => cases hanswer

/-! ## Saves -/

/-- What was saved is neither a submission nor a read. -/
structure IsSave (event : RouteEvent) : Prop where
  unsent : ∀ s, event ≠ .sent s
  unapplied : ∀ s, event ≠ .applied s
  unobserved : ∀ k r, event ≠ .observed k r

/-- A save changes neither the table nor what is in flight. -/
theorem RouteWorldInv.saved {w' : RouteWorld ι} {event : RouteEvent} (h : RouteWorldInv calls w)
    (htable : w'.table = w.table) (hhistory : w'.history = (i, event) :: w.history)
    (hpool : w'.pool = w.pool) (hevent : IsSave event)
    (hjournals : OperationIdsPromised calls → Journaled calls w') : RouteWorldInv calls w' := by
  refine ⟨@RouteInv.quiet _ _ _ _ [(i, event)] h.table htable hhistory
    (fun _ _ hs => .inl (hpool ▸ hs)) ?_ ?_ ?_, hjournals⟩
  · intro e he s hs
    obtain rfl := List.mem_singleton.1 he
    exact hevent.unapplied s hs
  · intro j s hs
    exact absurd (Prod.ext_iff.1 (List.mem_singleton.1 hs)).2.symm (hevent.unsent s)
  · intro j k r hs
    exact absurd (Prod.ext_iff.1 (List.mem_singleton.1 hs)).2.symm (hevent.unobserved k _)

/-- The others may rely on a save that is allowed. -/
theorem RouteWorldInv.relies_saved {w' : RouteWorld ι} {event : RouteEvent}
    (h : RouteWorldInv calls w) (hc : Continues w w' [(i, event)])
    (hsave : OperationIdsPromised calls → MaySave calls w i event) {j : ι} (hj : j ≠ i) :
    Relies calls j w w' := by
  refine ⟨_, hc, fun e he heq => ?_, fun hp => (h.journals hp).leaves_save hj (hsave hp)⟩
  rw [List.mem_singleton.1 he] at heq
  exact absurd heq.symm hj

theorem isSave_writer (p : UUID) (c : WriterCheckpoint) : IsSave (.savedWriter p c) :=
  ⟨fun _ h => (by cases h), fun _ h => (by cases h), fun _ _ h => (by cases h)⟩

theorem isSave_activation (p : UUID) (c : ActivationCheckpoint) : IsSave (.savedActivation p c) :=
  ⟨fun _ h => (by cases h), fun _ h => (by cases h), fun _ _ h => (by cases h)⟩

/-- What was answered to a save, and what is stored then. -/
theorem RouteWorld.save_cases {γ : Type} [DecidableEq γ] {stored w' : RouteWorld ι}
    {current expected : Option γ} {l : RouteLabel} {answer : SaveAnswer}
    (h : w.save stored current expected l = some (answer, w')) :
    (answer = .saved ∧ current = expected ∧ w' = stored) ∨
      (answer ≠ .saved ∧ (w' = w ∨ current = expected ∧ w' = stored)) := by
  cases l with
  | plain =>
      by_cases hcurrent : current = expected
      · simp only [RouteWorld.save, if_pos hcurrent, Option.some.injEq, Prod.mk.injEq] at h
        exact .inl ⟨h.1.symm, hcurrent, h.2.symm⟩
      · simp only [RouteWorld.save, if_neg hcurrent, Option.some.injEq, Prod.mk.injEq] at h
        obtain ⟨rfl, rfl⟩ := h
        exact .inr ⟨by decide, .inl rfl⟩
  | lost =>
      simp only [RouteWorld.save, Option.some.injEq, Prod.mk.injEq] at h
      obtain ⟨rfl, rfl⟩ := h
      refine .inr ⟨by decide, ?_⟩
      split
      next hcurrent => exact .inr ⟨hcurrent, rfl⟩
      next => exact .inl rfl
  | fail =>
      cases Option.some.inj h
      exact .inr ⟨by decide, .inl rfl⟩
  | raise e =>
      cases Option.some.inj h
      exact .inr ⟨by decide, .inl rfl⟩
  | instant time => cases h
  | deliver n => cases h

/-- A save that was not confirmed ends the operation. -/
theorem meets_unsaved {answer : SaveAnswer} {f : Unit → RouteClient α} (h : answer ≠ .saved)
    (hE : ∀ e w', E e w') : RouteMeets calls i Q E (requireSaved answer >>= f) w := by
  cases answer with
  | saved => exact absurd rfl h
  | refused => exact fun w' _ _ => hE _ w'
  | failed => exact fun w' _ _ => hE _ w'

/-- A checkpoint that may be saved over the one that is stored. -/
structure SavesWriter (calls : ι → RouteCall) (w : RouteWorld ι) (i : ι) (p : UUID)
    (c : WriterCheckpoint) : Prop where
  may : MaySave calls w i (.savedWriter p c)
  kept : ∀ old, w.writerCheckpoints p = some old →
    old.operations.map WriterOperation.intent <+: c.operations.map WriterOperation.intent
  history : PersistentRouteWriterJournal.History p c.operations

structure SavesActivation (calls : ι → RouteCall) (w : RouteWorld ι) (i : ι) (p : UUID)
    (c : ActivationCheckpoint) : Prop where
  may : MaySave calls w i (.savedActivation p c)
  kept : ∀ old, w.activationCheckpoints p = some old → c.intent = old.intent
  recorded : c.intent.toRecord = .ok c.intent

theorem RouteWorldInv.storeWriter (h : RouteWorldInv calls w) {p : UUID} {c : WriterCheckpoint}
    (hsave : OperationIdsPromised calls → SavesWriter calls w i p c) :
    RouteWorldInv calls (w.storeWriter i p c) :=
  h.saved rfl rfl rfl (isSave_writer p c) fun hp =>
    (h.journals hp).storeWriter hp h.table (hsave hp).may (hsave hp).kept (hsave hp).history

theorem RouteWorldInv.storeActivation (h : RouteWorldInv calls w) {p : UUID}
    {c : ActivationCheckpoint}
    (hsave : OperationIdsPromised calls → SavesActivation calls w i p c) :
    RouteWorldInv calls (w.storeActivation i p c) :=
  h.saved rfl rfl rfl (isSave_activation p c) fun hp =>
    (h.journals hp).storeActivation hp h.table (hsave hp).may (hsave hp).kept (hsave hp).recorded

theorem meets_saveWriter {j : PersistentRouteWriterJournal} {c : WriterCheckpoint}
    {Q : PersistentRouteWriterJournal → RouteWorld ι → Prop}
    (hsave : ∀ w', Relies calls i w w' → RouteWorldInv calls w' →
      w'.writerCheckpoints j.publicationId = j.stored → OperationIdsPromised calls →
      SavesWriter calls w' i j.publicationId c)
    (h : ∀ w' w'', Relies calls i w w' → RouteWorldInv calls w' →
      w'.writerCheckpoints j.publicationId = j.stored →
      RouteWorldInv calls (w'.storeWriter i j.publicationId c) →
      Relies calls i (w'.storeWriter i j.publicationId c) w'' → RouteWorldInv calls w'' →
      Q { j with checkpoint := c, stored := some c } w'')
    (hE : ∀ e w', E e w') : RouteMeets calls i Q E (j.save c) w := by
  intro w' hr hw' l a w'' hanswer _
  have hstored : w'.writerCheckpoints j.publicationId = j.stored →
      (routeContract calls).Allows i w' (w'.storeWriter i j.publicationId c) := fun hcurrent =>
    ⟨hw'.storeWriter (hsave w' hr hw' hcurrent), fun k hk =>
      hw'.relies_saved (continues_storeWriter w' i j.publicationId c)
        (fun hp => (hsave w' hr hw' hcurrent hp).may) hk⟩
  rcases RouteWorld.save_cases hanswer with ⟨rfl, hcurrent, rfl⟩ | ⟨ha, rfl | ⟨hcurrent, rfl⟩⟩
  · exact ⟨hstored hcurrent, fun w'' hr' hw'' =>
      h w' w'' hr hw' hcurrent (hstored hcurrent).1 hr' hw''⟩
  · exact ⟨.refl hw', meets_unsaved ha hE⟩
  · exact ⟨hstored hcurrent, meets_unsaved ha hE⟩

theorem meets_saveActivation {j : PersistentRouteActivationJournal} {c : ActivationCheckpoint}
    {Q : PersistentRouteActivationJournal → RouteWorld ι → Prop}
    (hsave : ∀ w', Relies calls i w w' → RouteWorldInv calls w' →
      w'.activationCheckpoints j.publicationId = j.checkpoint → OperationIdsPromised calls →
      SavesActivation calls w' i j.publicationId c)
    (h : ∀ w' w'', Relies calls i w w' → RouteWorldInv calls w' →
      w'.activationCheckpoints j.publicationId = j.checkpoint →
      RouteWorldInv calls (w'.storeActivation i j.publicationId c) →
      Relies calls i (w'.storeActivation i j.publicationId c) w'' → RouteWorldInv calls w'' →
      Q { j with checkpoint := some c } w'')
    (hE : ∀ e w', E e w') : RouteMeets calls i Q E (j.save c) w := by
  intro w' hr hw' l a w'' hanswer _
  have hstored : w'.activationCheckpoints j.publicationId = j.checkpoint →
      (routeContract calls).Allows i w' (w'.storeActivation i j.publicationId c) := fun hcurrent =>
    ⟨hw'.storeActivation (hsave w' hr hw' hcurrent), fun k hk =>
      hw'.relies_saved (continues_storeActivation w' i j.publicationId c)
        (fun hp => (hsave w' hr hw' hcurrent hp).may) hk⟩
  rcases RouteWorld.save_cases hanswer with ⟨rfl, hcurrent, rfl⟩ | ⟨ha, rfl | ⟨hcurrent, rfl⟩⟩
  · exact ⟨hstored hcurrent, fun w'' hr' hw'' =>
      h w' w'' hr hw' hcurrent (hstored hcurrent).1 hr' hw''⟩
  · exact ⟨.refl hw', meets_unsaved ha hE⟩
  · exact ⟨hstored hcurrent, meets_unsaved ha hE⟩

/-! ## Facts that stay -/

/-- A fact that later worlds keep. -/
def Stays (S : RouteWorld ι → Prop) : Prop :=
  ∀ w w' recent, Continues w w' recent → S w → S w'

theorem Stays.relies {S : RouteWorld ι → Prop} (hS : Stays S) {w w' : RouteWorld ι}
    (hr : Relies calls i w w') (h : S w) : S w' := by
  obtain ⟨recent, hc⟩ := hr.continues
  exact hS w w' recent hc h

/-- An answer to a submission: it was sent, and it was applied, refused or lost. -/
theorem continues_submit {s : RouteSubmission} {l : RouteLabel} {a : SubmitAnswer}
    {w' : RouteWorld ι} (hw' : RouteWorldInv calls w')
    (h : w.answer i l (.submit s) = some (a, w')) : ∃ recent, Continues w w' recent := by
  have hsent := RouteWorldInv.continues_sent i w s
  cases l with
  | plain =>
      obtain ⟨-, hworld⟩ := Prod.ext_iff.1 (Option.some.inj h)
      change RouteWorld.offer _ i s = w' at hworld
      subst hworld
      rw [RouteWorld.offer] at hw' ⊢
      split
      next hadmits =>
        rw [if_pos hadmits] at hw'
        have hprepared := hw'.table.submitted i s (List.mem_cons_of_mem _ List.mem_cons_self)
        exact ⟨_, hsent.trans (hprepared.continues_commit hadmits)⟩
      next => exact ⟨_, hsent⟩
  | lost =>
      obtain ⟨-, hworld⟩ := Prod.ext_iff.1 (Option.some.inj h)
      subst hworld
      exact ⟨_, hsent.trans (@Continues.of_table _ _ _ [] rfl rfl
        fun _ he => absurd he List.not_mem_nil)⟩
  | fail => cases h
  | instant time => cases h
  | raise e => cases h
  | deliver n => cases h

/-- Whatever a request is answered, the world goes on. -/
theorem continues_answer {l : RouteLabel} {r : RouteRequest} {a : r.Answer} {w' : RouteWorld ι}
    (hw' : RouteWorldInv calls w') (h : w.answer i l r = some (a, w')) :
    ∃ recent, Continues w w' recent := by
  have hsame : ∀ {w₁ : RouteWorld ι}, w₁ = w → ∃ recent, Continues w w₁ recent :=
    fun heq => ⟨[], heq ▸ .refl w⟩
  cases r with
  | submit s => exact continues_submit hw' h
  | read key =>
      cases l <;>
        simp only [RouteWorld.answer, Option.some.injEq, reduceCtorEq] at h
      · obtain rfl := (Prod.ext_iff.1 h).2
        exact ⟨[(i, .observed key (w.table.rows key))], .of_table rfl rfl fun e he s hs => by
          obtain rfl := List.mem_singleton.1 he
          cases hs⟩
      · exact hsame (Prod.ext_iff.1 h).2.symm
  | clock =>
      cases l <;>
        simp only [RouteWorld.answer, Option.some.injEq, reduceCtorEq] at h
      exact hsame (Prod.ext_iff.1 h).2.symm
  | storedWriter p =>
      cases l <;>
        simp only [RouteWorld.answer, Option.some.injEq, reduceCtorEq] at h
      exact hsame (Prod.ext_iff.1 h).2.symm
  | storedActivation p =>
      cases l <;>
        simp only [RouteWorld.answer, Option.some.injEq, reduceCtorEq] at h
      exact hsame (Prod.ext_iff.1 h).2.symm
  | saveWriter p expected recorded =>
      rcases RouteWorld.save_cases h with ⟨-, -, rfl⟩ | ⟨-, rfl | ⟨-, rfl⟩⟩
      · exact ⟨_, continues_storeWriter w i p recorded⟩
      · exact hsame rfl
      · exact ⟨_, continues_storeWriter w i p recorded⟩
  | saveActivation p expected recorded =>
      rcases RouteWorld.save_cases h with ⟨-, -, rfl⟩ | ⟨-, rfl | ⟨-, rfl⟩⟩
      · exact ⟨_, continues_storeActivation w i p recorded⟩
      · exact hsame rfl
      · exact ⟨_, continues_storeActivation w i p recorded⟩
  | other =>
      cases l <;>
        simp only [RouteWorld.answer, Option.some.injEq, reduceCtorEq] at h
      · exact hsame (Prod.ext_iff.1 h).2.symm
      · exact hsame (Prod.ext_iff.1 h).2.symm

/-- A fact that later worlds keep is kept by every client. -/
theorem RouteMeets.frame {S : RouteWorld ι → Prop} {p : RouteClient α} (hS : Stays S) (hs : S w)
    (h : RouteMeets calls i Q E p w) :
    RouteMeets calls i (fun a w' => Q a w' ∧ S w') (fun e w' => E e w' ∧ S w') p w := by
  induction p generalizing w with
  | done r =>
      intro w' hr hw'
      cases r <;> exact ⟨h w' hr hw', hS.relies hr hs⟩
  | call r next ih =>
      intro w' hr hw' l a w'' hanswer hguard
      obtain ⟨hallows, hmeets⟩ := h w' hr hw' l a w'' hanswer hguard
      obtain ⟨recent, hc⟩ := continues_answer hallows.1 hanswer
      exact ⟨hallows, ih a (hS _ _ _ hc (hS.relies hr hs)) hmeets⟩

end

end Turnstile
