import Mathlib.Logic.Relation
import Turnstile.Foundation.Table

/-!
# Programs over a shared table

A client of a conditional table reads one row at a time, sends batches and asks
its surroundings for inputs such as the time.  `Program` is the tree of what it
does next on every answer; `done` carries the value returned or the error
raised.  A batch has three outcomes: it is reported as committed, it is reported
as a conflict, or a transport error hides whether it was applied.

A `System` runs one program per client over one table.  A label says which
client moves and how its request is answered, so a schedule is a list of labels
and `System.run?` executes it.  The log records who committed which batch, and
whether the client was told.

## Relying on the others

A `Protocol` gives every client `i` a preorder `rely i` that the others' commits
follow, and an invariant of the world.  `Program.Meets` is the proof obligation
of one client: at every request, in every world the others may have reached, a
batch that is applied keeps the invariant and follows the rely of everyone else,
and a value that is returned satisfies the postcondition from then on.  If every
client meets the protocol at the start then every reachable world does, and
every client meets it still (`System.Reaches.meets`).
-/

/-- What a client learns of a batch it sent. -/
inductive Outcome where
  | committed
  | conflict
  /-- The response was lost; the batch may or may not have been applied. -/
  | transport
deriving DecidableEq

/-- A client over keys `κ` and documents `δ`, with inputs `χ`, errors `ε` and
results `α`. -/
inductive Program (κ δ χ ε α : Type) where
  | done (result : Except ε α)
  | read (key : κ) (next : Option (Row δ) → Program κ δ χ ε α)
  | commit (batch : List (Write κ δ)) (next : Outcome → Program κ δ χ ε α)
  | ask (next : χ → Program κ δ χ ε α)

/-- A batch that was applied, and whether its client was told. -/
structure Commit (ι κ δ : Type) where
  client : ι
  batch : List (Write κ δ)
  reported : Bool

/-- The table, and what was committed, oldest first. -/
structure World (ι κ δ : Type) where
  table : Table κ δ
  log : List (Commit ι κ δ)

/-- Which of the possible answers a request gets. -/
inductive Label (χ : Type) where
  | read
  /-- The batch is tried, and its client is told whether it was applied. -/
  | reported
  /-- The batch is applied and the response lost. -/
  | lost
  /-- The batch never arrives. -/
  | dropped
  | ask (input : χ)

namespace Program

variable {ι κ δ χ ε α β : Type}

/-- Run `f` on the value a program returns; an error ends the whole. -/
def bind (p : Program κ δ χ ε α) (f : α → Program κ δ χ ε β) : Program κ δ χ ε β :=
  match p with
  | .done (.ok a) => f a
  | .done (.error e) => .done (.error e)
  | .read k next => .read k fun r => (next r).bind f
  | .commit batch next => .commit batch fun o => (next o).bind f
  | .ask next => .ask fun x => (next x).bind f

instance : Monad (Program κ δ χ ε) where
  pure a := .done (.ok a)
  bind := Program.bind

/-- Raise an error. -/
def raise (e : ε) : Program κ δ χ ε α := .done (.error e)

/-- A computation without requests. -/
def lift (x : Except ε α) : Program κ δ χ ε α := .done x

/-- Read a row. -/
def get (k : κ) : Program κ δ χ ε (Option (Row δ)) := .read k fun r => .done (.ok r)

/-- Send a batch. -/
def send (batch : List (Write κ δ)) : Program κ δ χ ε Outcome :=
  .commit batch fun o => .done (.ok o)

/-- `for _ in range(n)`: a round either ends or continues with what follows it. -/
def rounds (round : Program κ δ χ ε α → Program κ δ χ ε α) (exhausted : Program κ δ χ ε α) :
    ℕ → Program κ δ χ ε α
  | 0 => exhausted
  | n + 1 => round (rounds round exhausted n)

/-- Take an input. -/
def input : Program κ δ χ ε χ := .ask fun x => .done (.ok x)

/-- Whether the program has ended with a value. -/
def returned : Program κ δ χ ε α → Bool
  | .done (.ok _) => true
  | _ => false

theorem returned_iff {p : Program κ δ χ ε α} : p.returned = true ↔ ∃ a, p = .done (.ok a) := by
  constructor
  · intro h
    unfold returned at h
    split at h
    next a => exact ⟨a, rfl⟩
    next => cases h
  · rintro ⟨a, rfl⟩
    rfl

/-- The value a program has returned. -/
def value? : Program κ δ χ ε α → Option α
  | .done (.ok a) => some a
  | _ => none

theorem value?_eq_some {p : Program κ δ χ ε α} {a : α} :
    p.value? = some a ↔ p = .done (.ok a) := by
  constructor
  · intro h
    unfold value? at h
    split at h
    next => rw [Option.some.inj h]
    next => cases h
  · rintro rfl
    rfl

@[simp] theorem done_ok_bind (a : α) (f : α → Program κ δ χ ε β) :
    ((.done (.ok a) : Program κ δ χ ε α) >>= f) = f a := rfl

@[simp] theorem done_error_bind (e : ε) (f : α → Program κ δ χ ε β) :
    ((.done (.error e) : Program κ δ χ ε α) >>= f) = .done (.error e) := rfl

@[simp] theorem pure_bind (a : α) (f : α → Program κ δ χ ε β) :
    ((pure a : Program κ δ χ ε α) >>= f) = f a := rfl

@[simp] theorem raise_bind (e : ε) (f : α → Program κ δ χ ε β) :
    ((raise e : Program κ δ χ ε α) >>= f) = raise e := rfl

@[simp] theorem lift_ok_bind (a : α) (f : α → Program κ δ χ ε β) :
    ((lift (.ok a) : Program κ δ χ ε α) >>= f) = f a := rfl

@[simp] theorem lift_error_bind (e : ε) (f : α → Program κ δ χ ε β) :
    ((lift (.error e) : Program κ δ χ ε α) >>= f) = raise e := rfl

@[simp] theorem get_bind (k : κ) (f : Option (Row δ) → Program κ δ χ ε β) :
    ((get k : Program κ δ χ ε _) >>= f) = .read k f := rfl

@[simp] theorem send_bind (batch : List (Write κ δ)) (f : Outcome → Program κ δ χ ε β) :
    ((send batch : Program κ δ χ ε _) >>= f) = .commit batch f := rfl

@[simp] theorem input_bind (f : χ → Program κ δ χ ε β) :
    ((input : Program κ δ χ ε _) >>= f) = .ask f := rfl

end Program

/-! ## Worlds and systems -/

section Semantics

variable {ι κ δ χ ε α : Type} [DecidableEq κ]

/-- A batch is applied. -/
def World.commit (w : World ι κ δ) (c : Commit ι κ δ) : World ι κ δ where
  table := w.table.apply c.batch
  log := w.log ++ [c]

@[simp] theorem World.commit_table (w : World ι κ δ) (c : Commit ι κ δ) :
    (w.commit c).table = w.table.apply c.batch := rfl

@[simp] theorem World.commit_log (w : World ι κ δ) (c : Commit ι κ δ) :
    (w.commit c).log = w.log ++ [c] := rfl

/-- One answered request of client `i`. -/
def Program.next? (i : ι) (w : World ι κ δ) :
    Label χ → Program κ δ χ ε α → Option (World ι κ δ × Program κ δ χ ε α)
  | .read, .read k next => some (w, next (w.table.rows k))
  | .reported, .commit batch next =>
      if w.table.Admits batch then some (w.commit ⟨i, batch, true⟩, next .committed)
      else some (w, next .conflict)
  | .lost, .commit batch next =>
      if w.table.Admits batch then some (w.commit ⟨i, batch, false⟩, next .transport) else none
  | .dropped, .commit _ next => some (w, next .transport)
  | .ask x, .ask next => some (w, next x)
  | _, _ => none

/-- The shared world, and what is left of every client's program. -/
structure System (ι κ δ χ ε α : Type) where
  world : World ι κ δ
  threads : ι → Program κ δ χ ε α

namespace System

variable [DecidableEq ι]

/-- Client `i` moves. -/
def next? (s : System ι κ δ χ ε α) (i : ι) (l : Label χ) : Option (System ι κ δ χ ε α) :=
  ((s.threads i).next? i s.world l).map fun (w, p) => ⟨w, Function.update s.threads i p⟩

/-- Execute a schedule. -/
def run? (s : System ι κ δ χ ε α) : List (ι × Label χ) → Option (System ι κ δ χ ε α)
  | [] => some s
  | (i, l) :: schedule => (s.next? i l).bind fun s' => s'.run? schedule

/-- One client moves, or the surroundings `env` change the world. -/
inductive Step (env : World ι κ δ → World ι κ δ → Prop) :
    System ι κ δ χ ε α → System ι κ δ χ ε α → Prop where
  | thread {s s' : System ι κ δ χ ε α} (i : ι) (l : Label χ) : s.next? i l = some s' → Step env s s'
  | env {s : System ι κ δ χ ε α} {w : World ι κ δ} : env s.world w → Step env s ⟨w, s.threads⟩

/-- Client `i` reads. -/
theorem Step.read {env : World ι κ δ → World ι κ δ → Prop} {s : System ι κ δ χ ε α} {i : ι}
    {k : κ} {next : Option (Row δ) → Program κ δ χ ε α} (h : s.threads i = .read k next) :
    Step env s ⟨s.world, Function.update s.threads i (next (s.world.table.rows k))⟩ :=
  .thread i .read (by rw [System.next?, h]; rfl)

/-- Client `i` commits a batch that the table admits. -/
theorem Step.committed {env : World ι κ δ → World ι κ δ → Prop} {s : System ι κ δ χ ε α} {i : ι}
    {batch : List (Write κ δ)} {next : Outcome → Program κ δ χ ε α}
    (h : s.threads i = .commit batch next) (hadmits : s.world.table.Admits batch) :
    Step env s ⟨s.world.commit ⟨i, batch, true⟩, Function.update s.threads i (next .committed)⟩ :=
  .thread i .reported (by simp [System.next?, h, Program.next?, hadmits])

/-- What can be reached by any interleaving. -/
abbrev Reaches (env : World ι κ δ → World ι κ δ → Prop) :
    System ι κ δ χ ε α → System ι κ δ χ ε α → Prop :=
  Relation.ReflTransGen (Step env)

/-- The log only grows. -/
theorem Reaches.log_prefix {env : World ι κ δ → World ι κ δ → Prop}
    (henv : ∀ w w', env w w' → w.log <+: w'.log) {s s' : System ι κ δ χ ε α}
    (h : Reaches env s s') : s.world.log <+: s'.world.log := by
  induction h with
  | refl => exact List.prefix_refl _
  | @tail s₁ s₂ _ hstep ih =>
      refine ih.trans ?_
      cases hstep with
      | thread i l hnext =>
          obtain ⟨⟨w, p⟩, hp, rfl⟩ := Option.map_eq_some_iff.1 hnext
          unfold Program.next? at hp
          split at hp
          next =>
            cases hp
            exact List.prefix_refl _
          next =>
            split at hp
            next =>
              cases hp
              exact List.prefix_append _ _
            next =>
              cases hp
              exact List.prefix_refl _
          next =>
            split at hp
            next =>
              cases hp
              exact List.prefix_append _ _
            next => cases hp
          next =>
            cases hp
            exact List.prefix_refl _
          next =>
            cases hp
            exact List.prefix_refl _
          next => cases hp
      | env hw => exact henv _ _ hw

/-- A schedule that executes reaches its last state. -/
theorem reaches_of_run? {env : World ι κ δ → World ι κ δ → Prop} :
    ∀ {schedule : List (ι × Label χ)} {s s' : System ι κ δ χ ε α},
      s.run? schedule = some s' → Reaches env s s'
  | [], _, _, h => by cases h; exact .refl
  | (i, l) :: schedule, s, s', h => by
      obtain ⟨s₁, h₁, h₂⟩ := Option.bind_eq_some_iff.1 h
      exact .head (.thread i l h₁) (reaches_of_run? h₂)

end System

end Semantics

/-! ## Protocols -/

/-- What holds of the world, and what every client may rely on between its own
requests. -/
structure Protocol (ι κ δ : Type) where
  inv : World ι κ δ → Prop
  rely : ι → World ι κ δ → World ι κ δ → Prop
  refl : ∀ i w, rely i w w
  trans : ∀ i w₁ w₂ w₃, rely i w₁ w₂ → rely i w₂ w₃ → rely i w₁ w₃

namespace Protocol

variable {ι κ δ : Type}

/-- A change client `i` may make: the invariant still holds, and everyone else
could have relied on it. -/
def Allows (P : Protocol ι κ δ) (i : ι) (w w' : World ι κ δ) : Prop :=
  P.inv w' ∧ ∀ j, j ≠ i → P.rely j w w'

/-- The surroundings keep the invariant and follow every client's rely. -/
def Tolerates (P : Protocol ι κ δ) (env : World ι κ δ → World ι κ δ → Prop) : Prop :=
  ∀ w w', P.inv w → env w w' → P.inv w' ∧ ∀ i, P.rely i w w'

end Protocol

namespace Program

variable {ι κ δ χ ε α β : Type} [DecidableEq κ] {P : Protocol ι κ δ} {i : ι}

/-- What is left of client `i` keeps to the protocol from world `w`, and ends in
`Q`. -/
def Meets (P : Protocol ι κ δ) (i : ι) (Q : Except ε α → World ι κ δ → Prop) :
    Program κ δ χ ε α → World ι κ δ → Prop
  | .done r, w => ∀ w', P.rely i w w' → P.inv w' → Q r w'
  | .read k next, w => ∀ w', P.rely i w w' → P.inv w' → Meets P i Q (next (w'.table.rows k)) w'
  | .commit batch next, w => ∀ w', P.rely i w w' → P.inv w' →
      (w'.table.Admits batch → (∀ reported, P.Allows i w' (w'.commit ⟨i, batch, reported⟩)) ∧
        Meets P i Q (next .committed) (w'.commit ⟨i, batch, true⟩) ∧
        Meets P i Q (next .transport) (w'.commit ⟨i, batch, false⟩)) ∧
      (¬w'.table.Admits batch → Meets P i Q (next .conflict) w') ∧
      Meets P i Q (next .transport) w'
  | .ask next, w => ∀ x, Meets P i Q (next x) w

/-- The obligation survives whatever the others do. -/
theorem Meets.stable {Q : Except ε α → World ι κ δ → Prop} {p : Program κ δ χ ε α}
    {w w' : World ι κ δ} (h : Meets P i Q p w) (hr : P.rely i w w') : Meets P i Q p w' := by
  induction p with
  | done r => exact fun w'' hr' => h w'' (P.trans _ _ _ _ hr hr')
  | read k next _ => exact fun w'' hr' => h w'' (P.trans _ _ _ _ hr hr')
  | commit batch next _ => exact fun w'' hr' => h w'' (P.trans _ _ _ _ hr hr')
  | ask next ih => exact fun x => ih x (h x)

/-- A weaker postcondition. -/
theorem Meets.mono {Q Q' : Except ε α → World ι κ δ → Prop} {p : Program κ δ χ ε α}
    {w : World ι κ δ} (h : Meets P i Q p w) (hQ : ∀ r w', P.inv w' → Q r w' → Q' r w') :
    Meets P i Q' p w := by
  induction p generalizing w with
  | done r => exact fun w' hr hi => hQ r w' hi (h w' hr hi)
  | read k next ih => exact fun w' hr hi => ih _ (h w' hr hi)
  | commit batch next ih =>
      intro w' hr hi
      obtain ⟨hadm, hcon, htra⟩ := h w' hr hi
      refine ⟨fun ha => ?_, fun hn => ih _ (hcon hn), ih _ htra⟩
      obtain ⟨hal, hc, ht⟩ := hadm ha
      exact ⟨hal, ih _ hc, ih _ ht⟩
  | ask next ih => exact fun x => ih x (h x)

/-- The sequence rule: the first part may end in a value from which the second
meets the protocol. -/
theorem Meets.bind {Q : Except ε β → World ι κ δ → Prop} {p : Program κ δ χ ε α}
    {f : α → Program κ δ χ ε β} {w : World ι κ δ} (hw : P.inv w)
    (h : Meets P i (fun r w' => match r with
      | .ok a => Meets P i Q (f a) w'
      | .error e => Q (.error e) w') p w) :
    Meets P i Q (p >>= f) w := by
  induction p generalizing w with
  | done r =>
      cases r with
      | ok a => exact h w (P.refl _ _) hw
      | error e => exact fun w' hr hi => h w' hr hi
  | read k next ih => exact fun w' hr hi => ih _ hi (h w' hr hi)
  | commit batch next ih =>
      intro w' hr hi
      obtain ⟨hadm, hcon, htra⟩ := h w' hr hi
      refine ⟨fun ha => ?_, fun hn => ih _ hi (hcon hn), ih _ hi htra⟩
      obtain ⟨hal, hc, ht⟩ := hadm ha
      exact ⟨hal, ih _ (hal _).1 hc, ih _ (hal _).1 ht⟩
  | ask next ih => exact fun x => ih x hw (h x)

/-- The rule for a read. -/
theorem Meets.get_bind {Q : Except ε β → World ι κ δ → Prop} {k : κ}
    {f : Option (Row δ) → Program κ δ χ ε β} {w : World ι κ δ}
    (h : ∀ w', P.rely i w w' → P.inv w' → Meets P i Q (f (w'.table.rows k)) w') :
    Meets P i Q (get k >>= f) w := h

/-- The rule for an input. -/
theorem Meets.input_bind {Q : Except ε β → World ι κ δ → Prop} {f : χ → Program κ δ χ ε β}
    {w : World ι κ δ} (h : ∀ x, Meets P i Q (f x) w) : Meets P i Q (input >>= f) w := h

/-- The rule for a batch. -/
theorem Meets.send_bind {Q : Except ε β → World ι κ δ → Prop} {batch : List (Write κ δ)}
    {f : Outcome → Program κ δ χ ε β} {w : World ι κ δ}
    (h : ∀ w', P.rely i w w' → P.inv w' →
      (w'.table.Admits batch → (∀ reported, P.Allows i w' (w'.commit ⟨i, batch, reported⟩)) ∧
        Meets P i Q (f .committed) (w'.commit ⟨i, batch, true⟩) ∧
        Meets P i Q (f .transport) (w'.commit ⟨i, batch, false⟩)) ∧
      (¬w'.table.Admits batch → Meets P i Q (f .conflict) w') ∧
      Meets P i Q (f .transport) w') : Meets P i Q (send batch >>= f) w := h

/-- The rule for a computation without requests. -/
theorem Meets.lift_bind {Q : Except ε β → World ι κ δ → Prop} {x : Except ε α}
    {f : α → Program κ δ χ ε β} {w : World ι κ δ}
    (herror : ∀ e, x = .error e → Meets P i Q (raise e : Program κ δ χ ε β) w)
    (hok : ∀ a, x = .ok a → Meets P i Q (f a) w) : Meets P i Q (lift x >>= f) w := by
  cases x with
  | error e => exact herror e rfl
  | ok a => exact hok a rfl

/-- The rule for bounded loops: from worlds with `pre`, a round meets the protocol if
what follows it does. -/
theorem Meets.rounds {Q : Except ε α → World ι κ δ → Prop} {pre : World ι κ δ → Prop}
    {round : Program κ δ χ ε α → Program κ δ χ ε α} {exhausted : Program κ δ χ ε α}
    (hexhausted : ∀ w, pre w → Meets P i Q exhausted w)
    (hround : ∀ retry, (∀ w, pre w → Meets P i Q retry w) →
      ∀ w, pre w → Meets P i Q (round retry) w) :
    ∀ (n : ℕ) (w : World ι κ δ), pre w → Meets P i Q (Program.rounds round exhausted n) w
  | 0 => hexhausted
  | n + 1 => hround _ (Meets.rounds hexhausted hround n)

/-- One answered request is allowed and leaves the client meeting the protocol. -/
theorem Meets.next {Q : Except ε α → World ι κ δ → Prop} {p p' : Program κ δ χ ε α}
    {w w' : World ι κ δ} {l : Label χ} (hi : P.inv w) (h : Meets P i Q p w)
    (hstep : p.next? i w l = some (w', p')) :
    (w' = w ∨ P.Allows i w w') ∧ Meets P i Q p' w' := by
  unfold Program.next? at hstep
  split at hstep
  next k next =>
    cases hstep
    exact ⟨.inl rfl, h w (P.refl _ _) hi⟩
  next batch next =>
    obtain ⟨hadm, hcon, -⟩ := h w (P.refl _ _) hi
    split at hstep
    next ha =>
      cases hstep
      exact ⟨.inr ((hadm ha).1 _), (hadm ha).2.1⟩
    next hn =>
      cases hstep
      exact ⟨.inl rfl, hcon hn⟩
  next batch next =>
    obtain ⟨hadm, -, -⟩ := h w (P.refl _ _) hi
    split at hstep
    next ha =>
      cases hstep
      exact ⟨.inr ((hadm ha).1 _), (hadm ha).2.2⟩
    next hn => cases hstep
  next batch next =>
    cases hstep
    exact ⟨.inl rfl, (h w (P.refl _ _) hi).2.2⟩
  next x next =>
    cases hstep
    exact ⟨.inl rfl, h x⟩
  next => cases hstep

end Program

namespace System

variable {ι κ δ χ ε α : Type} [DecidableEq κ] [DecidableEq ι] {P : Protocol ι κ δ}
  {env : World ι κ δ → World ι κ δ → Prop} {Q : ι → Except ε α → World ι κ δ → Prop}

/-- The invariant holds and every client meets the protocol. -/
structure Sound (P : Protocol ι κ δ) (Q : ι → Except ε α → World ι κ δ → Prop)
    (s : System ι κ δ χ ε α) : Prop where
  inv : P.inv s.world
  meets : ∀ i, (s.threads i).Meets P i (Q i) s.world

theorem Sound.step {s s' : System ι κ δ χ ε α} (h : Sound P Q s) (henv : P.Tolerates env)
    (hstep : Step env s s') : Sound P Q s' := by
  cases hstep with
  | thread i l hnext =>
      obtain ⟨⟨w, p⟩, hp, rfl⟩ := Option.map_eq_some_iff.1 hnext
      obtain ⟨hchange, hmeets⟩ := (h.meets i).next h.inv hp
      refine ⟨?_, fun j => ?_⟩
      · rcases hchange with rfl | hal
        · exact h.inv
        · exact hal.1
      · by_cases hj : j = i
        · subst hj
          simpa using hmeets
        · simp only [Function.update_of_ne hj]
          rcases hchange with rfl | hal
          · exact h.meets j
          · exact (h.meets j).stable (hal.2 j hj)
  | env hw =>
      obtain ⟨hinv, hrely⟩ := henv _ _ h.inv hw
      exact ⟨hinv, fun i => (h.meets i).stable (hrely i)⟩

/-- Every reachable system keeps to the protocol. -/
theorem Sound.reaches {s s' : System ι κ δ χ ε α} (h : Sound P Q s) (henv : P.Tolerates env)
    (hr : Reaches env s s') : Sound P Q s' := by
  induction hr with
  | refl => exact h
  | tail _ hstep ih => exact ih.step henv hstep

/-- What a client's own requests keep, and the others' too, holds of it from then on. -/
theorem Sound.client {s s' : System ι κ δ χ ε α} (h : Sound P Q s) (henv : P.Tolerates env)
    (hr : Reaches env s s') {i : ι} {R : World ι κ δ → Program κ δ χ ε α → Prop}
    (hstart : R s.world (s.threads i))
    (hrely : ∀ w w' p, P.inv w' → P.rely i w w' → R w p → R w' p)
    (hown : ∀ w w' p p' l, P.inv w → R w p → p.next? i w l = some (w', p') → R w' p') :
    R s'.world (s'.threads i) := by
  induction hr with
  | refl => exact hstart
  | @tail s₁ s₂ hreach hstep ih =>
      have hsound := h.reaches henv hreach
      cases hstep with
      | thread j l hnext =>
          obtain ⟨⟨w, p⟩, hp, rfl⟩ := Option.map_eq_some_iff.1 hnext
          by_cases hj : i = j
          · subst hj
            simpa using hown _ _ _ _ _ hsound.inv ih hp
          · simp only [Function.update_of_ne hj]
            rcases ((hsound.meets j).next hsound.inv hp).1 with rfl | hal
            · exact ih
            · exact hrely _ _ _ hal.1 (hal.2 i hj) ih
      | env hw =>
          obtain ⟨hinv, hrely'⟩ := henv _ _ hsound.inv hw
          exact hrely _ _ _ hinv (hrely' i) ih

/-- A client that has ended stays as it is. -/
theorem Reaches.done {s s' : System ι κ δ χ ε α} (hr : Reaches env s s') {i : ι} {r : Except ε α}
    (hi : s.threads i = .done r) : s'.threads i = .done r := by
  induction hr with
  | refl => exact hi
  | tail _ hstep ih =>
      cases hstep with
      | thread j l hnext =>
          obtain ⟨⟨w, p⟩, hp, rfl⟩ := Option.map_eq_some_iff.1 hnext
          by_cases hj : i = j
          · subst hj
            rw [ih] at hp
            cases l <;> cases hp
          · simpa only [Function.update_of_ne hj] using ih
      | env hw => exact ih

omit [DecidableEq ι] in
/-- A client that has ended satisfies its postcondition. -/
theorem Sound.result {s : System ι κ δ χ ε α} (h : Sound P Q s) {i : ι} {r : Except ε α}
    (hi : s.threads i = .done r) : Q i r s.world := by
  have hm := h.meets i
  rw [hi] at hm
  exact hm _ (P.refl _ _) h.inv

end System
