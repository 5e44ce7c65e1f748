import Mathlib.Tactic.Common

/-!
# Procedures that keep what they have written

A procedure reads and writes a state and may raise.  What it has written before it raises
stays written: nothing undoes it.  `Meets p s post fails` says how `p` ends from `s`: in
`post`, with what it returns, or in `fails`, with what it raises.  A law for each step
computes it, so that a procedure is walked once for each result about it.

`Keeps I p` is an invariant of both ways to end; `Atomic p s` says that `p` changes nothing
where it raises from `s`.
-/

abbrev Procedure (ε σ α : Type) := EStateM ε σ α

namespace Procedure

variable {ε σ α β : Type}

/-! ## How a procedure ends -/

/-- From `s` the procedure ends in `post`, or raises in `fails`. -/
def Meets (p : Procedure ε σ α) (s : σ) (post : α → σ → Prop) (fails : ε → σ → Prop) : Prop :=
  match p s with
  | .ok a t => post a t
  | .error e t => fails e t

/-- The state that a procedure ends in, whether or not it raises. -/
def after (p : Procedure ε σ α) (s : σ) : σ :=
  match p s with
  | .ok _ t => t
  | .error _ t => t

/-- The procedure raises from `s`. -/
def Raises (p : Procedure ε σ α) (s : σ) : Prop :=
  ∃ e t, p s = .error e t

/-- What a procedure returns, or raises. -/
def result (p : Procedure ε σ α) (s : σ) : Except ε α :=
  match p s with
  | .ok a _ => .ok a
  | .error e _ => .error e

/-- A check that raises. -/
def require (c : Prop) [Decidable c] (e : ε) : Procedure ε σ Unit :=
  if c then pure () else throw e

/-- A computation that reads and writes nothing. -/
def lift : Except ε α → Procedure ε σ α
  | .ok a => pure a
  | .error e => throw e

/-- A value that must be there. -/
def demand (value : Option α) (e : ε) : Procedure ε σ α :=
  match value with
  | some a => pure a
  | none => throw e

/-- Where the procedure raises, the state is restored before it raises on. -/
def rescue (p : Procedure ε σ α) (restore : σ → σ) : Procedure ε σ α := fun s =>
  match p s with
  | .ok a t => .ok a t
  | .error e t => .error e (restore t)

/-- What a procedure returns, unless it raises an error that is caught. -/
def attempt (caught : ε → Bool) (p : Procedure ε σ α) : Procedure ε σ (Option α) := fun s =>
  match p s with
  | .ok a t => .ok (some a) t
  | .error e t => if caught e then .ok none t else .error e t

/-- A procedure on a part of the state. -/
def within {τ : Type} (part : σ → τ) (put : τ → σ → σ) (p : Procedure ε τ α) : Procedure ε σ α :=
  fun s =>
    match p (part s) with
    | .ok a t => .ok a (put t s)
    | .error e t => .error e (put t s)

/-- A procedure for each item, in turn. -/
def each (f : β → Procedure ε σ Unit) : List β → Procedure ε σ Unit
  | [] => pure ()
  | b :: rest => do
      f b
      each f rest

section Laws

variable {s : σ} {post : α → σ → Prop} {fails : ε → σ → Prop}

theorem Meets.mono {p : Procedure ε σ α} {post' : α → σ → Prop} {fails' : ε → σ → Prop}
    (h : Meets p s post fails) (hpost : ∀ a t, post a t → post' a t)
    (hfails : ∀ e t, fails e t → fails' e t) : Meets p s post' fails' := by
  unfold Meets at *
  split
  next a t heq =>
    rw [heq] at h
    exact hpost a t h
  next e t heq =>
    rw [heq] at h
    exact hfails e t h

@[simp] theorem meets_pure {a : α} : Meets (pure a : Procedure ε σ α) s post fails ↔ post a s :=
  Iff.rfl

@[simp] theorem meets_throw {e : ε} :
    Meets (throw e : Procedure ε σ α) s post fails ↔ fails e s :=
  Iff.rfl

@[simp] theorem meets_bind {p : Procedure ε σ β} {f : β → Procedure ε σ α} :
    Meets (p >>= f) s post fails ↔ Meets p s (fun b t => Meets (f b) t post fails) fails := by
  unfold Meets
  simp only [bind, EStateM.bind]
  cases p s with
  | ok b t => rfl
  | error e t => rfl

@[simp] theorem meets_discard {p : Procedure ε σ α} {post : PUnit → σ → Prop} :
    Meets (discard p) s post fails ↔ Meets p s (fun _ t => post ⟨⟩ t) fails := by
  unfold Meets
  simp only [discard, Functor.discard, Functor.mapConst, EStateM.map, Function.comp_apply,
    Function.const_apply]
  cases p s with
  | ok a t => rfl
  | error e t => rfl

@[simp] theorem meets_get {post : σ → σ → Prop} :
    Meets (get : Procedure ε σ σ) s post fails ↔ post s s :=
  Iff.rfl

@[simp] theorem meets_modify {post : PUnit → σ → Prop} {f : σ → σ} :
    Meets (modify f : Procedure ε σ PUnit) s post fails ↔ post ⟨⟩ (f s) :=
  Iff.rfl

@[simp] theorem meets_ite {c : Prop} [Decidable c] {p q : Procedure ε σ α} :
    Meets (if c then p else q) s post fails ↔
      (c → Meets p s post fails) ∧ (¬c → Meets q s post fails) := by
  by_cases h : c
  · simp [h]
  · simp [h]

@[simp] theorem meets_require {post : Unit → σ → Prop} {c : Prop} [Decidable c] {e : ε} :
    Meets (require c e) s post fails ↔ (c → post () s) ∧ (¬c → fails e s) := by
  simp [require]

@[simp] theorem meets_lift {x : Except ε α} :
    Meets (lift x) s post fails ↔ (∀ a, x = .ok a → post a s) ∧ ∀ e, x = .error e → fails e s := by
  cases x with
  | ok a => simp [lift]
  | error e => simp [lift]

@[simp] theorem meets_demand {value : Option α} {e : ε} :
    Meets (demand value e) s post fails ↔
      (∀ a, value = some a → post a s) ∧ (value = none → fails e s) := by
  cases value with
  | some a => simp [demand]
  | none => simp [demand]

@[simp] theorem meets_rescue {p : Procedure ε σ α} {restore : σ → σ} :
    Meets (rescue p restore) s post fails ↔
      Meets p s post fun e t => fails e (restore t) := by
  unfold Meets rescue
  cases p s with
  | ok a t => rfl
  | error e t => rfl

@[simp] theorem meets_attempt {p : Procedure ε σ β} {caught : ε → Bool}
    {post : Option β → σ → Prop} :
    Meets (attempt caught p) s post fails ↔
      Meets p s (fun b => post (some b)) fun e t =>
        (caught e = true → post none t) ∧ (caught e = false → fails e t) := by
  unfold Meets attempt
  cases p s with
  | ok b t => rfl
  | error e t => cases h : caught e <;> simp [h]

@[simp] theorem meets_within {τ : Type} {part : σ → τ} {put : τ → σ → σ} {p : Procedure ε τ α} :
    Meets (within part put p) s post fails ↔
      Meets p (part s) (fun a t => post a (put t s)) fun e t => fails e (put t s) := by
  unfold Meets within
  cases p (part s) with
  | ok a t => rfl
  | error e t => rfl

theorem result_eq_of_meets {p : Procedure ε σ α} {r : Except ε α}
    (h : Meets p s (fun a _ => r = .ok a) fun e _ => r = .error e) : result p s = r := by
  unfold Meets at h
  unfold result
  cases hp : p s with
  | ok a t =>
      rw [hp] at h
      exact h.symm
  | error e t =>
      rw [hp] at h
      exact h.symm

/-- A loop keeps what each of its rounds keeps. -/
theorem meets_each {f : β → Procedure ε σ Unit} {items : List β} {I J : σ → Prop} (h : I s)
    (hround : ∀ b ∈ items, ∀ t, I t → Meets (f b) t (fun _ => I) fun _ => J) :
    Meets (each f items) s (fun _ => I) fun _ => J := by
  induction items generalizing s with
  | nil => exact h
  | cons b rest ih =>
      refine meets_bind.2
        ((hround b List.mem_cons_self s h).mono (fun _ t ht => ?_) fun _ _ ht => ht)
      exact ih ht fun other hother => hround other (List.mem_cons_of_mem b hother)

end Laws

theorem not_raises_iff {p : Procedure ε σ α} {s : σ} :
    ¬Raises p s ↔ Meets p s (fun _ _ => True) fun _ _ => False := by
  unfold Raises Meets
  cases p s with
  | ok a t => simp
  | error e t => simp

/-- A procedure ends in one of the two ways. -/
theorem not_meets_false {p : Procedure ε σ α} {s : σ} :
    ¬Meets p s (fun _ _ => False) fun _ _ => False := by
  unfold Meets
  cases p s with
  | ok a t => exact not_false
  | error e t => exact not_false

/-- What holds of all states at the end may be assumed there. -/
theorem Meets.congr {p : Procedure ε σ α} {s : σ} {I : σ → Prop} {post post' : α → σ → Prop}
    {fails fails' : ε → σ → Prop} (h : Meets p s (fun _ => I) fun _ => I)
    (hpost : ∀ a t, I t → (post a t ↔ post' a t)) (hfails : ∀ e t, I t → (fails e t ↔ fails' e t)) :
    Meets p s post fails ↔ Meets p s post' fails' := by
  unfold Meets at *
  cases hp : p s with
  | ok a t =>
      rw [hp] at h
      exact hpost a t h
  | error e t =>
      rw [hp] at h
      exact hfails e t h

/-! ## Invariants -/

/-- The procedure keeps an invariant, whether or not it raises. -/
def Keeps (I : σ → Prop) (p : Procedure ε σ α) : Prop :=
  ∀ s, I s → Meets p s (fun _ => I) fun _ => I

theorem after_of_meets {p : Procedure ε σ α} {s : σ} {I : σ → Prop}
    (h : Meets p s (fun _ => I) fun _ => I) : I (p.after s) := by
  unfold Meets at h
  unfold after
  split
  next heq => rwa [heq] at h
  next heq => rwa [heq] at h

theorem Keeps.after {I : σ → Prop} {p : Procedure ε σ α} (h : Keeps I p) {s : σ} (hs : I s) :
    I (p.after s) :=
  after_of_meets (h s hs)

theorem Keeps.bind {I : σ → Prop} {p : Procedure ε σ β} {f : β → Procedure ε σ α} (hp : Keeps I p)
    (hf : ∀ b, Keeps I (f b)) : Keeps I (p >>= f) := fun s hs =>
  meets_bind.2 ((hp s hs).mono (fun b t ht => hf b t ht) fun _ _ ht => ht)

/-! ## Atomic procedures -/

/-- Where the procedure raises from `s`, it has changed nothing. -/
def Atomic (p : Procedure ε σ α) (s : σ) : Prop :=
  Meets p s (fun _ _ => True) fun _ t => t = s

end Procedure
