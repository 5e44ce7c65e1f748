import Mathlib.Tactic.Common

/-!
# Guarded computations

A function that checks its input raises the first failing check.  It is written
as a `do` block over `Except` whose checks are `require` steps, so the text of
the block is the order of the checks.  The lemmas here invert such a block: a
result was returned exactly when every check on the way held, and an error was
raised exactly when the checks before it held and its own did not.
-/

namespace Guard

variable {ε α β : Type}

/-- Raise `e` unless `p` holds. -/
def require (p : Prop) [Decidable p] (e : ε) : Except ε Unit :=
  if p then .ok () else .error e

/-- Run a check only when `p` holds. -/
def checkIf (p : Prop) [Decidable p] (x : Except ε Unit) : Except ε Unit :=
  if p then x else .ok ()

/-- The value, or `e` where there is none. -/
def expect (x : Option α) (e : ε) : Except ε α :=
  match x with
  | some a => .ok a
  | none => .error e

/-! ## Inverting a sequence -/

@[simp] theorem ok_bind (a : α) (f : α → Except ε β) : (Except.ok a >>= f) = f a := rfl

@[simp] theorem error_bind (e : ε) (f : α → Except ε β) :
    ((Except.error e : Except ε α) >>= f) = .error e := rfl

@[simp] theorem pure_eq (a : α) : (pure a : Except ε α) = .ok a := rfl

/-- A sequence returns what its second part returns on a value of its first. -/
theorem bind_eq_ok {x : Except ε α} {f : α → Except ε β} {b : β} :
    (x >>= f) = .ok b ↔ ∃ a, x = .ok a ∧ f a = .ok b := by
  rcases x with e | a <;> simp

/-- A check, of whatever kind, followed by the rest of the block. -/
theorem check_bind_eq_ok {x : Except ε Unit} {f : Unit → Except ε β} {b : β} :
    (x >>= f) = .ok b ↔ x = .ok () ∧ f () = .ok b := by
  rcases x with e | u <;> simp

/-- A check of every item. -/
theorem forM_eq_ok {f : α → Except ε PUnit} {items : List α} :
    items.forM f = .ok () ↔ ∀ a ∈ items, f a = .ok () := by
  induction items with
  | nil => simp
  | cons a rest ih =>
      have hcons : (a :: rest).forM f = (f a >>= fun _ => rest.forM f) := rfl
      rw [hcons, check_bind_eq_ok, ih, List.forall_mem_cons]

/-! ## Inverting a check -/

section

variable {p : Prop} [Decidable p] {e : ε}

theorem require_of (h : p) : require p e = .ok () := if_pos h

theorem require_of_not (h : ¬p) : require p e = .error e := if_neg h

@[simp] theorem require_eq_ok {u : Unit} : require p e = .ok u ↔ p := by
  unfold require
  split
  next h => simpa using h
  next h => simpa using h

@[simp] theorem require_eq_error {e' : ε} : require p e = .error e' ↔ ¬p ∧ e = e' := by
  unfold require
  split
  next h => simp [h]
  next h => simp [h]

theorem require_bind_of (h : p) (f : Unit → Except ε β) : (require p e >>= f) = f () := by
  rw [require_of h, ok_bind]

@[simp] theorem checkIf_eq_ok {x : Except ε Unit} {u : Unit} :
    checkIf p x = .ok u ↔ (p → x = .ok ()) := by
  unfold checkIf
  split
  next h => simp [h]
  next h => simp [h]

/-- A check followed by the rest of the block. -/
theorem require_bind_eq_ok {f : Unit → Except ε β} {b : β} :
    (require p e >>= f) = .ok b ↔ p ∧ f () = .ok b := by
  unfold require
  split
  next h => simp [h]
  next h => simp [h]

end

@[simp] theorem expect_eq_ok {x : Option α} {e : ε} {a : α} : expect x e = .ok a ↔ x = some a := by
  cases x <;> simp [expect]

/-! ## Loops -/

/-- A loop that checks every element, and goes on from what the check lets through. -/
def foldChecked {γ δ : Type} (check : α → Except ε (Option γ)) (f : δ → γ → δ) (l : List α)
    (d : δ) : Except ε δ :=
  l.foldlM (fun d a => do
    match ← check a with
    | some c => pure (f d c)
    | none => pure d) d

/-- What a check lets through. -/
def passed {γ : Type} (check : α → Except ε (Option γ)) (a : α) : Option γ :=
  match check a with
  | .ok c => c
  | .error _ => none

/-- The loop returned just when no check failed, and then it went over what they let
through. -/
theorem foldChecked_eq_ok {γ δ : Type} {check : α → Except ε (Option γ)} {f : δ → γ → δ}
    {l : List α} {d d' : δ} :
    foldChecked check f l d = .ok d' ↔
      (∀ a ∈ l, ∃ c, check a = .ok c) ∧ d' = (l.filterMap (passed check)).foldl f d := by
  unfold foldChecked
  induction l generalizing d with
  | nil =>
      constructor
      · intro h
        cases h
        exact ⟨fun a ha => absurd ha List.not_mem_nil, rfl⟩
      · rintro ⟨-, rfl⟩
        rfl
  | cons a l ih =>
      rw [List.foldlM_cons, List.filterMap_cons, List.forall_mem_cons, passed]
      cases hc : check a with
      | error e =>
          constructor
          · intro h
            cases h
          · rintro ⟨⟨⟨c, h⟩, -⟩, -⟩
            cases h
      | ok c? =>
          have hreturned : ∃ c, (Except.ok c? : Except ε (Option γ)) = .ok c := ⟨c?, rfl⟩
          rw [and_assoc, and_iff_right hreturned]
          cases c? with
          | none => exact ih
          | some c => exact ih

/-- What a loop that returns keeps: `R` holds of what was done before every round. -/
theorem foldlM_keeps {f : β → α → Except ε β} {R : List α → β → Prop} {l : List α} {b b' : β}
    (h : l.foldlM f b = .ok b') (hstart : R [] b)
    (hstep : ∀ done a b b', f b a = .ok b' → R done b → R (done ++ [a]) b') : R l b' := by
  suffices hrest : ∀ rest done b, R done b → rest.foldlM f b = .ok b' → R (done ++ rest) b' from
    hrest l [] b hstart h
  intro rest
  induction rest with
  | nil =>
      intro done b hdone h
      obtain rfl := Except.ok.inj h
      rwa [List.append_nil]
  | cons a rest ih =>
      intro done b hdone h
      rw [List.foldlM_cons] at h
      obtain ⟨middle, hmiddle, h⟩ := bind_eq_ok.1 h
      have hall := ih (done ++ [a]) middle (hstep done a b middle hmiddle hdone) h
      rwa [List.append_assoc] at hall

/-- A computation for every element returned the values of `g`, if each returns it. -/
theorem mapM_eq_map {γ : Type} {f : α → Except ε γ} {g : α → γ} {l : List α} {r : List γ}
    (h : l.mapM f = .ok r) (hg : ∀ a ∈ l, ∀ c, f a = .ok c → c = g a) : r = l.map g := by
  induction l generalizing r with
  | nil =>
      rw [List.mapM_nil] at h
      exact (Except.ok.inj h).symm
  | cons a l ih =>
      rw [List.mapM_cons] at h
      obtain ⟨c, hc, h⟩ := bind_eq_ok.1 h
      obtain ⟨r', hr', h⟩ := bind_eq_ok.1 h
      obtain rfl := Except.ok.inj h
      rw [List.map_cons, hg a (List.mem_cons_self ..) c hc,
        ih hr' fun b hb => hg b (List.mem_cons_of_mem _ hb)]

/-- A computation that returns for every element returns for all of them. -/
theorem mapM_of_forall {f : α → Except ε β} {g : α → β} {l : List α}
    (h : ∀ a ∈ l, f a = .ok (g a)) : l.mapM f = .ok (l.map g) := by
  induction l with
  | nil => rfl
  | cons a l ih =>
      rw [List.mapM_cons, h a List.mem_cons_self, ok_bind,
        ih fun b hb => h b (List.mem_cons_of_mem a hb), ok_bind, List.map_cons, pure_eq]

/-- What was returned for the elements is one value for each. -/
theorem forall₂_of_mapM {f : α → Except ε β} {l : List α} {r : List β} (h : l.mapM f = .ok r) :
    List.Forall₂ (fun a b => f a = .ok b) l r := by
  induction l generalizing r with
  | nil =>
      obtain rfl := Except.ok.inj h
      exact .nil
  | cons a l ih =>
      rw [List.mapM_cons] at h
      obtain ⟨b, hb, h⟩ := bind_eq_ok.1 h
      obtain ⟨rest, hrest, h⟩ := bind_eq_ok.1 h
      obtain rfl := Except.ok.inj h
      exact .cons hb (ih hrest)

theorem exists_of_mem_mapM {f : α → Except ε β} {l : List α} {r : List β} (h : l.mapM f = .ok r)
    {b : β} (hb : b ∈ r) : ∃ a ∈ l, f a = .ok b := by
  have hall := forall₂_of_mapM h
  clear h
  induction hall with
  | nil => cases hb
  | @cons a first l r hfirst _ ih =>
      rcases List.mem_cons.1 hb with rfl | hb
      · exact ⟨a, List.mem_cons_self, hfirst⟩
      · obtain ⟨other, hother, heq⟩ := ih hb
        exact ⟨other, List.mem_cons_of_mem _ hother, heq⟩

/-! ## What two computations agree on -/

theorem map_returns {x : Except ε α} {f : α → β} :
    (∃ b, x.map f = .ok b) ↔ ∃ a, x = .ok a := by
  cases x with
  | error e =>
      constructor
      · rintro ⟨b, ⟨⟩⟩
      · rintro ⟨a, ⟨⟩⟩
  | ok a => exact ⟨fun _ => ⟨a, rfl⟩, fun _ => ⟨f a, rfl⟩⟩

/-- Computations that agree up to `s` agree on all that `s` determines of what follows. -/
theorem map_bind_congr {γ δ : Type} {x x' : Except ε α} {s s' : α → β} {f f' : α → γ}
    {g g' : γ → δ} (k : β → δ) (hx : x'.map s' = x.map s) (hk : ∀ a, g (f a) = k (s a))
    (hk' : ∀ a, g' (f' a) = k (s' a)) :
    (x' >>= fun a => pure (f' a)).map g' = (x >>= fun a => pure (f a)).map g := by
  cases x with
  | error e =>
      cases x' with
      | error e' =>
          cases hx
          rfl
      | ok a' => cases hx
  | ok a =>
      cases x' with
      | error e' => cases hx
      | ok a' =>
          have hs : s' a' = s a := Except.ok.inj hx
          refine congrArg Except.ok ?_
          rw [hk, hk', hs]

/-! ## What a computation can raise -/

/-- Every error of the computation satisfies `P`. -/
def Raises (P : ε → Prop) (x : Except ε α) : Prop := ∀ e, x = .error e → P e

section

variable {P : ε → Prop}

@[simp] theorem raises_ok (a : α) : Raises P (.ok a : Except ε α) := by
  intro e h
  cases h

@[simp] theorem raises_error {e : ε} : Raises P (.error e : Except ε α) ↔ P e := by
  constructor
  · intro h
    exact h e rfl
  · intro h e' he
    cases he
    exact h

/-- A sequence raises what its parts raise. -/
@[simp] theorem raises_bind {x : Except ε α} {f : α → Except ε β} :
    Raises P (x >>= f) ↔ Raises P x ∧ ∀ a, x = .ok a → Raises P (f a) := by
  rcases x with e | a <;> simp

@[simp] theorem raises_require {p : Prop} [Decidable p] {e : ε} :
    Raises P (require p e) ↔ (¬p → P e) := by
  unfold require
  split
  next h => simp [h]
  next h => simp [h]

@[simp] theorem raises_checkIf {p : Prop} [Decidable p] {x : Except ε Unit} :
    Raises P (checkIf p x) ↔ (p → Raises P x) := by
  unfold checkIf
  split
  next h => simp [h]
  next h => simp [h]

theorem Raises.mono {Q : ε → Prop} {x : Except ε α} (h : Raises P x) (hPQ : ∀ e, P e → Q e) :
    Raises Q x :=
  fun e he => hPQ e (h e he)

end

end Guard
