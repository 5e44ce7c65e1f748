import Turnstile.Services.RouteRuns

/-!
# Steps of route workers

What one step of a system does to the table and to the history: it applies one submission
that was sent, or it writes nothing.
-/

namespace Turnstile

section

variable {ι : Type} (calls : ι → RouteCall)

/-- Nothing is written, and what is read is what is stored. -/
structure Quietly (w w' : RouteWorld ι) (recent : Option (ι × RouteEvent)) : Prop where
  table : w'.table = w.table
  history : w'.history = recent.toList ++ w.history
  unapplied : ∀ e ∈ recent, ∀ s, e.2 ≠ .applied s
  observed : ∀ e ∈ recent, ∀ key found, e.2 = .observed key found → found = w.table.rows key

/-- Submission `s` of client `i` is applied. -/
structure Applies (w w' : RouteWorld ι) (i : ι) (s : RouteSubmission) : Prop where
  inv : RouteInv calls w
  sent : (i, RouteEvent.sent s) ∈ w.history
  admits : w.table.Admits s.writes
  table : w'.table = w.table.apply s.writes
  history : w'.history = (i, .applied s) :: w.history

/-- What one step does. -/
inductive RouteStep (w w' : RouteWorld ι) : Prop where
  | quiet {recent : Option (ι × RouteEvent)} (h : Quietly w w' recent)
  | commit {middle : RouteWorld ι} {recent : Option (ι × RouteEvent)} {i : ι} {s : RouteSubmission}
      (hquiet : Quietly w middle recent) (h : Applies calls middle w' i s)

variable {calls} {i : ι} {w w' : RouteWorld ι}

/-! ## Requests -/

theorem Quietly.same (htable : w'.table = w.table) (hhistory : w'.history = w.history) :
    Quietly w w' none where
  table := htable
  history := hhistory
  unapplied _ he := by cases he
  observed _ he := by cases he

theorem Quietly.log {event : RouteEvent} (htable : w'.table = w.table)
    (hhistory : w'.history = (i, event) :: w.history) (hunapplied : ∀ s, event ≠ .applied s)
    (hobserved : ∀ key found, event = .observed key found → found = w.table.rows key) :
    Quietly w w' (some (i, event)) where
  table := htable
  history := hhistory
  unapplied e he := by
    obtain rfl := Option.mem_some.1 he
    exact hunapplied
  observed e he := by
    obtain rfl := Option.mem_some.1 he
    exact hobserved

theorem quietly_sent (i : ι) (w : RouteWorld ι) (s : RouteSubmission) :
    Quietly w (w.log i (.sent s)) (some (i, .sent s)) :=
  .log rfl rfl (fun _ h => by cases h) fun _ _ h => by cases h

/-- A submission that arrives is applied, or nothing happens. -/
theorem routeStep_offer {middle : RouteWorld ι} {recent : Option (ι × RouteEvent)}
    {s : RouteSubmission} (hquiet : Quietly w middle recent) (hinv : RouteInv calls middle)
    (hsent : (i, RouteEvent.sent s) ∈ middle.history) :
    RouteStep calls w (middle.offer i s) := by
  unfold RouteWorld.offer
  split
  next hadmits => exact .commit hquiet ⟨hinv, hsent, hadmits, rfl, rfl⟩
  next => exact .quiet hquiet

/-- A save writes nothing to the table. -/
theorem routeStep_save {γ : Type} [DecidableEq γ] {stored : RouteWorld ι} {event : RouteEvent}
    {current expected : Option γ} {l : RouteLabel} {answer : SaveAnswer} (hevent : IsSave event)
    (h : w.save stored current expected l = some (answer, w')) (htable : stored.table = w.table)
    (hhistory : stored.history = (i, event) :: w.history) : RouteStep calls w w' := by
  have hstored : RouteStep calls w stored :=
    .quiet (.log htable hhistory hevent.unapplied fun key found heq =>
      absurd heq (hevent.unobserved key found))
  rcases RouteWorld.save_cases h with ⟨-, -, rfl⟩ | ⟨-, rfl | ⟨-, rfl⟩⟩
  · exact hstored
  · exact .quiet (.same rfl rfl)
  · exact hstored

/-- What an answer does to the world, when the submission it answers may be sent. -/
theorem routeStep_answer {l : RouteLabel} {r : RouteRequest} {a : r.Answer}
    (hsend : ∀ s, r = .submit s → RouteInv calls (w.log i (.sent s)))
    (h : w.answer i l r = some (a, w')) : RouteStep calls w w' := by
  have hsame : ∀ {w₁ : RouteWorld ι}, w₁ = w → RouteStep calls w w₁ :=
    fun heq => heq ▸ .quiet (.same rfl rfl)
  cases r with
  | submit s =>
      have hmem : (i, RouteEvent.sent s) ∈ (w.log i (.sent s)).history := List.mem_cons_self
      cases l <;> simp only [RouteWorld.answer, Option.some.injEq, reduceCtorEq] at h
      · obtain rfl := (Prod.ext_iff.1 h).2
        exact routeStep_offer (quietly_sent i w s) (hsend s rfl) hmem
      · obtain rfl := (Prod.ext_iff.1 h).2
        exact .quiet (.log rfl rfl (fun _ h => (by cases h)) fun _ _ h => by cases h)
  | read key =>
      cases l <;> simp only [RouteWorld.answer, Option.some.injEq, reduceCtorEq] at h
      · obtain rfl := (Prod.ext_iff.1 h).2
        refine .quiet (.log rfl rfl (fun _ h => (by cases h)) fun k found heq => ?_)
        simp only [RouteEvent.observed.injEq] at heq
        obtain ⟨rfl, rfl⟩ := heq
        rfl
      · exact hsame (Prod.ext_iff.1 h).2.symm
  | clock =>
      cases l <;> simp only [RouteWorld.answer, Option.some.injEq, reduceCtorEq] at h
      exact hsame (Prod.ext_iff.1 h).2.symm
  | storedWriter p =>
      cases l <;> simp only [RouteWorld.answer, Option.some.injEq, reduceCtorEq] at h
      exact hsame (Prod.ext_iff.1 h).2.symm
  | storedActivation p =>
      cases l <;> simp only [RouteWorld.answer, Option.some.injEq, reduceCtorEq] at h
      exact hsame (Prod.ext_iff.1 h).2.symm
  | saveWriter p expected recorded => exact routeStep_save (isSave_writer p recorded) h rfl rfl
  | saveActivation p expected recorded =>
      exact routeStep_save (isSave_activation p recorded) h rfl rfl
  | other =>
      cases l <;> simp only [RouteWorld.answer, Option.some.injEq, reduceCtorEq] at h
      · exact hsame (Prod.ext_iff.1 h).2.symm
      · exact hsame (Prod.ext_iff.1 h).2.symm

/-! ## Steps of a system -/

variable [DecidableEq ι] {self : RouteProjection} {s s' : RouteSystem ι}

/-- What a client is about to send may be sent. -/
theorem RouteSystem.Reachable.maySend (h : s.Reachable self calls) {x : RouteSubmission}
    {next : SubmitAnswer → RouteClient RouteResult}
    (hcall : s.clients i = .call (.submit x) next) :
    RouteInv calls (s.world.log i (.sent x)) := by
  have hmeets := h.sound.meets i
  rw [hcall] at hmeets
  obtain ⟨hallows, -⟩ := hmeets s.world (Relies.refl i s.world) h.inv .lost _ _ rfl trivial
  exact (hallows.1.withPool fun j y hy =>
    hallows.1.table.pool j y (List.mem_cons_of_mem _ hy)).table

/-- What one step of a system that is reached does. -/
theorem RouteSystem.Reachable.step (h : s.Reachable self calls) {l : Option ι × RouteLabel}
    (hnext : s.next? routeDynamics l = some s') : RouteStep calls s.world s'.world := by
  obtain ⟨client, label⟩ := l
  cases client with
  | none =>
      obtain ⟨world, hworld, rfl⟩ := Option.map_eq_some_iff.1 hnext
      cases label with
      | deliver n =>
          simp only [routeDynamics, RouteWorld.arrive] at hworld
          split at hworld
          next i x hn =>
            obtain rfl := Option.some.inj hworld
            have hsent := h.inv.table.pool i x (List.mem_of_getElem? hn)
            have hinv : RouteWorldInv calls { s.world with pool := s.world.pool.eraseIdx n } :=
              h.inv.withPool fun j y hy => h.inv.table.pool j y (List.mem_of_mem_eraseIdx hy)
            exact routeStep_offer (.same rfl rfl) hinv.table hsent
          next => cases hworld
      | plain => cases hworld
      | fail => cases hworld
      | lost => cases hworld
      | instant time => cases hworld
      | raise e => cases hworld
  | some i =>
      rw [Client.System.next?] at hnext
      split at hnext
      next => cases hnext
      next r next hcall =>
        obtain ⟨⟨a, world⟩, hanswer, rfl⟩ := Option.map_eq_some_iff.1 hnext
        refine routeStep_answer (fun x hx => ?_) hanswer
        subst hx
        exact h.maySend hcall

/-- What holds at the start and is kept by every step holds in every state reached. -/
theorem RouteSystem.Reachable.keeps (h : s.Reachable self calls) {P : RouteWorld ι → Prop}
    (hstart : P .empty) (hstep : ∀ w w', RouteStep calls w w' → P w → P w') : P s.world := by
  induction h with
  | refl => exact hstart
  | tail hreach hlast ih =>
      obtain ⟨l, hnext, -⟩ := hlast
      exact hstep _ _ (RouteSystem.Reachable.step hreach hnext) ih

/-- What every step keeps is kept from a state that is reached. -/
theorem RouteSystem.Reachable.keepsFrom (h : s.Reachable self calls)
    (hlater : Client.Reaches routeDynamics Client.anyChange s s') {P : RouteWorld ι → Prop}
    (hstep : ∀ w w', RouteStep calls w w' → P w → P w') (hP : P s.world) : P s'.world := by
  induction hlater with
  | refl => exact hP
  | tail hmiddle hlast ih =>
      obtain ⟨l, hnext, -⟩ := hlast
      exact hstep _ _ (RouteSystem.Reachable.step (h.trans hmiddle) hnext) ih

end

end Turnstile
