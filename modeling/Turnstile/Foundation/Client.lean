import Mathlib.Logic.Function.Basic
import Mathlib.Logic.Relation
import Mathlib.Tactic.Common

/-!
# Clients of a shared world

A client makes requests one at a time and goes on with the answer.  `Client` is the tree
of what it does next on every answer.  A `Dynamics` says how a world answers a request,
and how it changes on its own; a label picks one of several possible answers.  A `System`
runs one client per index over one world.

A `Contract` says what holds of the world, and what every client may rely on between its
own requests.  `Meets` is the proof obligation of one client: each answer it may get keeps
the invariant and what the others rely on, and what it returns satisfies the postcondition
from then on.  When every client meets the contract at the start, every system that is
reached keeps to it (`Sound.reaches`).  A contract may leave out some changes of the world;
then it says something of the runs without them.
-/

/-- A client with requests `ρ`, their answers, errors `ε` and results `α`. -/
inductive Client {ρ : Type} (ans : ρ → Type) (ε α : Type) where
  | done (result : Except ε α)
  | call (request : ρ) (next : ans request → Client ans ε α)

namespace Client

variable {ρ : Type} {ans : ρ → Type} {ε α β : Type}

/-! ## Sequences -/

/-- Run `f` on the value a client returns; an error ends the whole. -/
def bind : Client ans ε α → (α → Client ans ε β) → Client ans ε β
  | .done (.ok a), f => f a
  | .done (.error e), _ => .done (.error e)
  | .call r next, f => .call r fun a => (next a).bind f

instance : Monad (Client ans ε) where
  pure a := .done (.ok a)
  bind := Client.bind

/-- Raise an error. -/
def raise (e : ε) : Client ans ε α := .done (.error e)

/-- A computation without requests. -/
def lift (x : Except ε α) : Client ans ε α := .done x

/-- `try: ... except: ...`. -/
def handle : Client ans ε α → (ε → Client ans ε α) → Client ans ε α
  | .done (.ok a), _ => .done (.ok a)
  | .done (.error e), f => f e
  | .call r next, f => .call r fun a => (next a).handle f

/-- `for element in elements: ...`. -/
def each {γ : Type} (body : γ → Client ans ε Unit) : List γ → Client ans ε Unit
  | [] => .done (.ok ())
  | c :: elements => (body c).bind fun _ => each body elements

@[simp] theorem pure_bind (a : α) (f : α → Client ans ε β) :
    ((pure a : Client ans ε α) >>= f) = f a := rfl

@[simp] theorem raise_bind (e : ε) (f : α → Client ans ε β) :
    ((raise e : Client ans ε α) >>= f) = raise e := rfl

@[simp] theorem lift_ok_bind (a : α) (f : α → Client ans ε β) :
    ((lift (.ok a) : Client ans ε α) >>= f) = f a := rfl

@[simp] theorem lift_error_bind (e : ε) (f : α → Client ans ε β) :
    ((lift (.error e) : Client ans ε α) >>= f) = raise e := rfl

theorem bind_assoc (p : Client ans ε α) (f : α → Client ans ε β) {γ : Type}
    (g : β → Client ans ε γ) : (p >>= f) >>= g = p >>= fun a => f a >>= g := by
  induction p with
  | done r => cases r <;> rfl
  | call r next ih => exact congrArg (Client.call r) (funext ih)

@[simp] theorem bind_unit (p : Client ans ε Unit) : (p >>= fun _ => pure ()) = p := by
  induction p with
  | done r => cases r <;> rfl
  | call r next ih => exact congrArg (Client.call r) (funext ih)

theorem bind_pure (p : Client ans ε α) : (p >>= fun a => pure a) = p := by
  induction p with
  | done r => cases r <;> rfl
  | call r next ih => exact congrArg (Client.call r) (funext ih)

/-- The value a client has returned. -/
def value? : Client ans ε α → Option α
  | .done (.ok a) => some a
  | _ => none

theorem value?_eq_some {p : Client ans ε α} {a : α} : p.value? = some a ↔ p = .done (.ok a) := by
  constructor
  · intro h
    unfold value? at h
    split at h
    next => rw [Option.some.inj h]
    next => cases h
  · rintro rfl
    rfl

/-! ## Systems -/

/-- How a world `σ` answers the clients, and how it changes on its own. -/
structure Dynamics (ι : Type) (ans : ρ → Type) (σ lab : Type) where
  answer : ι → σ → lab → (r : ρ) → Option (ans r × σ)
  env : σ → lab → Option σ

/-- The world, and what is left of every client. -/
structure System (ι : Type) (ans : ρ → Type) (σ ε α : Type) where
  world : σ
  clients : ι → Client ans ε α

section

variable {ι σ lab : Type} [DecidableEq ι]

/-- One answered request of client `i`, or a change of the world. -/
def System.next? (D : Dynamics ι ans σ lab) (s : System ι ans σ ε α) :
    Option ι × lab → Option (System ι ans σ ε α)
  | (some i, l) =>
      match s.clients i with
      | .done _ => none
      | .call r next =>
          (D.answer i s.world l r).map fun (a, w) => ⟨w, Function.update s.clients i (next a)⟩
  | (none, l) => (D.env s.world l).map fun w => ⟨w, s.clients⟩

/-- Execute a schedule. -/
def System.run? (D : Dynamics ι ans σ lab) (s : System ι ans σ ε α) :
    List (Option ι × lab) → Option (System ι ans σ ε α)
  | [] => some s
  | l :: schedule => (s.next? D l).bind fun s' => s'.run? D schedule

/-- A step that changes the world as `guard` permits. -/
def Step (D : Dynamics ι ans σ lab) (guard : σ → σ → Prop) (s s' : System ι ans σ ε α) : Prop :=
  ∃ l, s.next? D l = some s' ∧ guard s.world s'.world

/-- What can be reached by any interleaving of such steps. -/
abbrev Reaches (D : Dynamics ι ans σ lab) (guard : σ → σ → Prop) :
    System ι ans σ ε α → System ι ans σ ε α → Prop :=
  Relation.ReflTransGen (Step D guard)

/-- Every step is permitted. -/
def anyChange : σ → σ → Prop := fun _ _ => True

/-- A schedule that executes reaches its last state. -/
theorem reaches_of_run? {D : Dynamics ι ans σ lab} {schedule : List (Option ι × lab)}
    {s s' : System ι ans σ ε α} (h : s.run? D schedule = some s') : Reaches D anyChange s s' := by
  induction schedule generalizing s with
  | nil =>
      obtain rfl := Option.some.inj h
      exact .refl
  | cons l schedule ih =>
      obtain ⟨middle, hfirst, hrest⟩ := Option.bind_eq_some_iff.1 h
      exact .head ⟨l, hfirst, trivial⟩ (ih hrest)

/-- Execute a schedule through worlds that pass a check. -/
def System.runIn? (D : Dynamics ι ans σ lab) (ok : σ → Bool) (s : System ι ans σ ε α) :
    List (Option ι × lab) → Option (System ι ans σ ε α)
  | [] => some s
  | l :: schedule =>
      if ok s.world then (s.next? D l).bind fun s' => s'.runIn? D ok schedule else none

/-- A schedule whose worlds pass a check reaches its last state, in steps that the check
permits. -/
theorem reaches_of_runIn? {D : Dynamics ι ans σ lab} {ok : σ → Bool} {guard : σ → σ → Prop}
    (hok : ∀ w w', ok w = true → guard w w') {schedule : List (Option ι × lab)}
    {s s' : System ι ans σ ε α} (h : s.runIn? D ok schedule = some s') : Reaches D guard s s' := by
  induction schedule generalizing s with
  | nil =>
      obtain rfl := Option.some.inj h
      exact .refl
  | cons l schedule ih =>
      unfold System.runIn? at h
      split at h
      next hpass =>
        obtain ⟨middle, hfirst, hrest⟩ := Option.bind_eq_some_iff.1 h
        exact .head ⟨l, hfirst, hok _ _ hpass⟩ (ih hrest)
      next => cases h

/-- A client that has ended stays as it is. -/
theorem Reaches.done {D : Dynamics ι ans σ lab} {guard : σ → σ → Prop}
    {s s' : System ι ans σ ε α} (h : Reaches D guard s s') {i : ι} {r : Except ε α}
    (hi : s.clients i = .done r) : s'.clients i = .done r := by
  induction h with
  | refl => exact hi
  | tail _ hstep ih =>
      obtain ⟨⟨j, l⟩, hnext, -⟩ := hstep
      cases j with
      | none =>
          obtain ⟨w, -, rfl⟩ := Option.map_eq_some_iff.1 hnext
          exact ih
      | some j =>
          rw [System.next?] at hnext
          split at hnext
          next => cases hnext
          next r next hcall =>
            obtain ⟨⟨a, w⟩, -, rfl⟩ := Option.map_eq_some_iff.1 hnext
            have hne : i ≠ j := by
              rintro rfl
              rw [ih] at hcall
              cases hcall
            simpa only [Function.update_of_ne hne] using ih

/-- A step of a client that waits is the answer to its request. -/
theorem System.next?_call {D : Dynamics ι ans σ lab} {s s' : System ι ans σ ε α} {i : ι} {l : lab}
    {r : ρ} {next : ans r → Client ans ε α} (hi : s.clients i = .call r next)
    (h : s.next? D (some i, l) = some s') :
    ∃ a, D.answer i s.world l r = some (a, s'.world) ∧ s'.clients i = next a := by
  simp only [System.next?, hi] at h
  obtain ⟨⟨a, w⟩, hanswer, rfl⟩ := Option.map_eq_some_iff.1 h
  exact ⟨a, hanswer, Function.update_self ..⟩

/-- A request that a client waits for is answered in some state on the way, unless the client
still waits. -/
theorem Reaches.served {D : Dynamics ι ans σ lab} {guard : σ → σ → Prop}
    {s s' : System ι ans σ ε α} (h : Reaches D guard s s') {i : ι} {r : ρ}
    {next : ans r → Client ans ε α} (hi : s.clients i = .call r next) :
    s'.clients i = .call r next ∨
      ∃ t l t', Reaches D guard s t ∧ t.clients i = .call r next ∧
        t.next? D (some i, l) = some t' ∧ guard t.world t'.world ∧ Reaches D guard t' s' := by
  induction h with
  | refl => exact .inl hi
  | @tail t t' hr hstep ih =>
      rcases ih with hwaits | ⟨u, l, u', hu, hcall, hnext, hguard, hlater⟩
      · obtain ⟨⟨j, l⟩, hnext, hguard⟩ := id hstep
        cases j with
        | none =>
            obtain ⟨w, -, rfl⟩ := Option.map_eq_some_iff.1 hnext
            exact .inl hwaits
        | some j =>
            by_cases hj : j = i
            · subst hj
              exact .inr ⟨t, l, t', hr, hwaits, hnext, hguard, .refl⟩
            · rw [System.next?] at hnext
              split at hnext
              next => cases hnext
              next =>
                obtain ⟨⟨a, w⟩, -, rfl⟩ := Option.map_eq_some_iff.1 hnext
                refine .inl ?_
                simpa only [Function.update_of_ne (Ne.symm hj)] using hwaits
      · exact .inr ⟨u, l, u', hu, hcall, hnext, hguard, hlater.tail hstep⟩

end

/-! ## Contracts -/

/-- What holds of the world, and what every client may rely on between its own
requests, in runs whose changes the guard permits. -/
structure Contract (ι σ : Type) where
  inv : σ → Prop
  rely : ι → σ → σ → Prop
  guard : σ → σ → Prop
  refl : ∀ i w, rely i w w
  trans : ∀ i w₁ w₂ w₃, rely i w₁ w₂ → rely i w₂ w₃ → rely i w₁ w₃

namespace Contract

variable {ι σ lab : Type}

/-- A change that client `i` may make: the invariant still holds, and everyone else
could have relied on it. -/
def Allows (P : Contract ι σ) (i : ι) (w w' : σ) : Prop :=
  P.inv w' ∧ ∀ j, j ≠ i → P.rely j w w'

/-- What the world does on its own keeps the invariant, and all could have relied on it. -/
def Tolerates (P : Contract ι σ) (D : Dynamics ι ans σ lab) : Prop :=
  ∀ w l w', P.inv w → D.env w l = some w' → P.guard w w' → P.inv w' ∧ ∀ i, P.rely i w w'

theorem Allows.refl {P : Contract ι σ} {i : ι} {w : σ} (h : P.inv w) : P.Allows i w w :=
  ⟨h, fun j _ => P.refl j w⟩

end Contract

variable {ι σ lab : Type} {D : Dynamics ι ans σ lab} {P : Contract ι σ} {i : ι}

/-- What is left of client `i` keeps to the contract from world `w`, and ends in `Q`. -/
def Meets (D : Dynamics ι ans σ lab) (P : Contract ι σ) (i : ι) (Q : Except ε α → σ → Prop) :
    Client ans ε α → σ → Prop
  | .done r, w => ∀ w', P.rely i w w' → P.inv w' → Q r w'
  | .call r next, w => ∀ w', P.rely i w w' → P.inv w' →
      ∀ l a w'', D.answer i w' l r = some (a, w'') →
      P.guard w' w'' → P.Allows i w' w'' ∧ Meets D P i Q (next a) w''

/-- The obligation survives whatever the others do. -/
theorem Meets.stable {Q : Except ε α → σ → Prop} {p : Client ans ε α} {w w' : σ}
    (h : Meets D P i Q p w) (hr : P.rely i w w') : Meets D P i Q p w' := by
  cases p with
  | done r => exact fun w'' hr' => h w'' (P.trans _ _ _ _ hr hr')
  | call r next => exact fun w'' hr' => h w'' (P.trans _ _ _ _ hr hr')

/-- A weaker postcondition. -/
theorem Meets.mono {Q Q' : Except ε α → σ → Prop} {p : Client ans ε α} {w : σ}
    (h : Meets D P i Q p w) (hQ : ∀ r w', P.inv w' → Q r w' → Q' r w') : Meets D P i Q' p w := by
  induction p generalizing w with
  | done r => exact fun w' hr hi => hQ r w' hi (h w' hr hi)
  | call r next ih =>
      intro w' hr hi l a w'' hanswer hguard
      obtain ⟨hallows, hmeets⟩ := h w' hr hi l a w'' hanswer hguard
      exact ⟨hallows, ih a hmeets⟩

/-- The sequence rule: the first part may end in a value from which the second meets the
contract. -/
theorem Meets.bind {Q : Except ε β → σ → Prop} {p : Client ans ε α} {f : α → Client ans ε β}
    {w : σ} (hw : P.inv w)
    (h : Meets D P i (fun r w' => match r with
      | .ok a => Meets D P i Q (f a) w'
      | .error e => Q (.error e) w') p w) :
    Meets D P i Q (p >>= f) w := by
  induction p generalizing w with
  | done r =>
      cases r with
      | ok a => exact h w (P.refl _ _) hw
      | error e => exact fun w' hr hi => h w' hr hi
  | call r next ih =>
      intro w' hr hi l a w'' hanswer hguard
      obtain ⟨hallows, hmeets⟩ := h w' hr hi l a w'' hanswer hguard
      exact ⟨hallows, ih a hallows.1 hmeets⟩

/-- The rule for a handler: the first part may end in an error from which the handler
meets the contract. -/
theorem Meets.handle {Q : Except ε α → σ → Prop} {p : Client ans ε α} {f : ε → Client ans ε α}
    {w : σ} (hw : P.inv w)
    (h : Meets D P i (fun r w' => match r with
      | .ok a => Q (.ok a) w'
      | .error e => Meets D P i Q (f e) w') p w) :
    Meets D P i Q (p.handle f) w := by
  induction p generalizing w with
  | done r =>
      cases r with
      | ok a => exact fun w' hr hi => h w' hr hi
      | error e => exact h w (P.refl _ _) hw
  | call r next ih =>
      intro w' hr hi l a w'' hanswer hguard
      obtain ⟨hallows, hmeets⟩ := h w' hr hi l a w'' hanswer hguard
      exact ⟨hallows, ih a hallows.1 hmeets⟩

/-- The rule for a computation without requests. -/
theorem Meets.lift_bind {Q : Except ε β → σ → Prop} {x : Except ε α} {f : α → Client ans ε β}
    {w : σ} (herror : ∀ e, x = .error e → Meets D P i Q (raise e : Client ans ε β) w)
    (hok : ∀ a, x = .ok a → Meets D P i Q (f a) w) : Meets D P i Q (lift x >>= f) w := by
  cases x with
  | error e => exact herror e rfl
  | ok a => exact hok a rfl

/-- The rule for a loop: `R` holds of what was done before every round. -/
theorem Meets.each {γ : Type} {Q : Except ε Unit → σ → Prop} {R : List γ → σ → Prop}
    {body : γ → Client ans ε Unit} {l : List γ}
    (hbody : ∀ done c rest w, l = done ++ c :: rest → P.inv w → R done w →
      Meets D P i (fun r w' => match r with
        | .ok _ => R (done ++ [c]) w'
        | .error e => Q (.error e) w') (body c) w)
    (hdone : ∀ w, P.inv w → R l w → Q (.ok ()) w)
    (hstable : ∀ done w w', P.rely i w w' → P.inv w' → R done w → R done w')
    {w : σ} (hw : P.inv w) (hstart : R [] w) : Meets D P i Q (Client.each body l) w := by
  suffices hrest : ∀ rest done, l = done ++ rest → ∀ w, P.inv w → R done w →
      Meets D P i Q (Client.each body rest) w from hrest l [] rfl w hw hstart
  intro rest
  induction rest with
  | nil =>
      intro done hl w hw hR w' hr hi
      rw [List.append_nil] at hl
      exact hdone w' hi (hl ▸ hstable done w w' hr hi hR)
  | cons c rest ih =>
      intro done hl w hw hR
      refine Meets.bind hw ((hbody done c rest w hl hw hR).mono fun r w' hw' hQ => ?_)
      cases r with
      | error e => exact hQ
      | ok u => exact ih (done ++ [c]) (by rw [hl, List.append_assoc]; rfl) w' hw' hQ

/-! ## Systems that keep to a contract -/

section

variable [DecidableEq ι] {Q : ι → Except ε α → σ → Prop} {s s' : System ι ans σ ε α}

/-- The invariant holds and every client meets the contract. -/
structure Sound (D : Dynamics ι ans σ lab) (P : Contract ι σ) (Q : ι → Except ε α → σ → Prop)
    (s : System ι ans σ ε α) : Prop where
  inv : P.inv s.world
  meets : ∀ i, Meets D P i (Q i) (s.clients i) s.world

theorem Sound.step (h : Sound D P Q s) (henv : P.Tolerates D) (hstep : Step D P.guard s s') :
    Sound D P Q s' := by
  obtain ⟨⟨j, l⟩, hnext, hguard⟩ := hstep
  cases j with
  | none =>
      obtain ⟨w, hw, rfl⟩ := Option.map_eq_some_iff.1 hnext
      obtain ⟨hinv, hrely⟩ := henv _ _ _ h.inv hw hguard
      exact ⟨hinv, fun i => (h.meets i).stable (hrely i)⟩
  | some j =>
      rw [System.next?] at hnext
      split at hnext
      next => cases hnext
      next r next hcall =>
        obtain ⟨⟨a, w⟩, hanswer, rfl⟩ := Option.map_eq_some_iff.1 hnext
        have hmeets := h.meets j
        rw [hcall] at hmeets
        obtain ⟨hallows, hrest⟩ := hmeets _ (P.refl _ _) h.inv l a w hanswer hguard
        refine ⟨hallows.1, fun i => ?_⟩
        by_cases hi : i = j
        · subst hi
          simpa using hrest
        · simpa only [Function.update_of_ne hi] using (h.meets i).stable (hallows.2 i hi)

/-- Every system that is reached keeps to the contract. -/
theorem Sound.reaches (h : Sound D P Q s) (henv : P.Tolerates D) (hr : Reaches D P.guard s s') :
    Sound D P Q s' := by
  induction hr with
  | refl => exact h
  | tail _ hstep ih => exact ih.step henv hstep

omit [DecidableEq ι] in
/-- A client that has ended satisfies its postcondition. -/
theorem Sound.result (h : Sound D P Q s) {r : Except ε α} (hi : s.clients i = .done r) :
    Q i r s.world := by
  have hmeets := h.meets i
  rw [hi] at hmeets
  exact hmeets _ (P.refl _ _) h.inv

/-- One client may be held to another postcondition. -/
theorem Sound.update (h : Sound D P Q s) {R : Except ε α → σ → Prop}
    (hi : Meets D P i R (s.clients i) s.world) : Sound D P (Function.update Q i R) s := by
  refine ⟨h.inv, fun j => ?_⟩
  by_cases hj : j = i
  · subst hj
    simpa using hi
  · simpa only [Function.update_of_ne hj] using h.meets j

/-! ## One client among others -/

/-- A step that the contract permits, and that client `i` could have relied on if another
makes it. -/
def Followed (D : Dynamics ι ans σ lab) (P : Contract ι σ) (i : ι) (s s' : System ι ans σ ε α) :
    Prop :=
  ∃ l, s.next? D l = some s' ∧ P.guard s.world s'.world ∧
    (l.1 ≠ some i → P.inv s'.world ∧ P.rely i s.world s'.world)

/-- A client that meets a contract keeps to it in a run whose other steps it may rely on. -/
theorem Meets.along {R : Except ε α → σ → Prop} (hinv : P.inv s.world)
    (h : Meets D P i R (s.clients i) s.world) (hr : Relation.ReflTransGen (Followed D P i) s s') :
    P.inv s'.world ∧ Meets D P i R (s'.clients i) s'.world := by
  induction hr with
  | refl => exact ⟨hinv, h⟩
  | tail _ hstep ih =>
      obtain ⟨hinv, hmeets⟩ := ih
      obtain ⟨⟨j, l⟩, hnext, hguard, hother⟩ := hstep
      cases j with
      | none =>
          obtain ⟨w, -, rfl⟩ := Option.map_eq_some_iff.1 hnext
          obtain ⟨hinv', hrely⟩ := hother (fun h => by cases h)
          exact ⟨hinv', hmeets.stable hrely⟩
      | some j =>
          rw [System.next?] at hnext
          split at hnext
          next => cases hnext
          next r next hcall =>
            obtain ⟨⟨a, w⟩, hanswer, rfl⟩ := Option.map_eq_some_iff.1 hnext
            by_cases hj : j = i
            · subst hj
              rw [hcall] at hmeets
              obtain ⟨hallows, hrest⟩ := hmeets _ (P.refl _ _) hinv l a w hanswer hguard
              refine ⟨hallows.1, ?_⟩
              simpa using hrest
            · obtain ⟨hinv', hrely⟩ := hother fun h => hj (Option.some.inj h)
              refine ⟨hinv', ?_⟩
              simpa only [Function.update_of_ne (Ne.symm hj)] using hmeets.stable hrely

end

end Client
