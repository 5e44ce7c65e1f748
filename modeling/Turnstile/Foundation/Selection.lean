import Mathlib.Data.List.AList
import Mathlib.Data.List.MinMax

/-!
# The first best of a list

`List.argmin` keeps the first element of a list whose key is least.  A loop that keeps
one element per identity, and replaces it just by a better one, computes it for every
identity at once (`lookup_foldl_keep`).

The least key does not depend on the order of the list (`key_argmin_of_perm`).  Which
element has it does: what is in front of all that are as good is kept
(`argmin_append_cons`).
-/

/-- The order of the integers that evaluates. -/
instance intPreorder : Preorder ℤ := Int.instLinearOrder.toPreorder

namespace Selection

variable {α β ι κ : Type*} [LinearOrder κ] {key : α → κ} {l l' : List α} {a b m : α}

/-! ## The first best -/

/-- A best element with only worse ones in front is the first best. -/
theorem argmin_append_cons {l₁ l₂ : List α} (hbefore : ∀ b ∈ l₁, key a < key b)
    (hafter : ∀ b ∈ l₂, key a ≤ key b) : (l₁ ++ a :: l₂).argmin key = some a := by
  induction l₁ with
  | nil =>
      rw [List.nil_append, List.argmin_cons]
      cases h : l₂.argmin key with
      | none => rfl
      | some c =>
          have hle := hafter c (List.argmin_mem h)
          exact if_neg hle.not_gt
  | cons b l₁ ih =>
      rw [List.cons_append, List.argmin_cons, ih fun c hc => hbefore c (List.mem_cons_of_mem _ hc)]
      exact if_pos (hbefore b (List.mem_cons_self ..))

/-- Everything in front of the first best is worse. -/
theorem exists_of_argmin (h : l.argmin key = some m) :
    ∃ l₁ l₂, l = l₁ ++ m :: l₂ ∧ ∀ b ∈ l₁, key m < key b := by
  induction l with
  | nil => cases h
  | cons a l ih =>
      rw [List.argmin_cons] at h
      cases hl : l.argmin key with
      | none =>
          rw [hl] at h
          cases h
          exact ⟨[], l, rfl, fun b hb => absurd hb List.not_mem_nil⟩
      | some c =>
          rw [hl] at h
          by_cases hlt : key c < key a
          · have hc : c = m := Option.some.inj (by simpa [hlt] using h)
            subst hc
            obtain ⟨l₁, l₂, rfl, hbefore⟩ := ih hl
            refine ⟨a :: l₁, l₂, rfl, fun b hb => ?_⟩
            rcases List.mem_cons.1 hb with rfl | hb
            · exact hlt
            · exact hbefore b hb
          · have ha : a = m := Option.some.inj (by simpa [hlt] using h)
            subst ha
            exact ⟨[], l, rfl, fun b hb => absurd hb List.not_mem_nil⟩

/-- The least key is the same in any order. -/
theorem key_argmin_of_perm (hperm : l.Perm l') (h : l.argmin key = some m)
    (h' : l'.argmin key = some a) : key m = key a :=
  le_antisymm (List.le_of_mem_argmin (hperm.mem_iff.2 (List.argmin_mem h')) h)
    (List.le_of_mem_argmin (hperm.mem_iff.1 (List.argmin_mem h)) h')

theorem argmin_eq_none_of_perm (hperm : l.Perm l') (h : l.argmin key = none) :
    l'.argmin key = none := by
  rw [List.argmin_eq_none] at h ⊢
  rw [h] at hperm
  exact hperm.nil_eq.symm

/-- Keys that order the elements alike choose alike. -/
theorem argmin_congr {κ' : Type*} [LinearOrder κ'] {key' : α → κ'}
    (h : ∀ a ∈ l, ∀ b ∈ l, key a < key b ↔ key' a < key' b) : l.argmin key = l.argmin key' := by
  induction l with
  | nil => rfl
  | cons a l ih =>
      rw [List.argmin_cons, List.argmin_cons,
        ih fun b hb c hc => h b (List.mem_cons_of_mem _ hb) c (List.mem_cons_of_mem _ hc)]
      cases hc : l.argmin key' with
      | none => rfl
      | some c =>
          have hmem := List.mem_cons_of_mem a (List.argmin_mem hc)
          exact if_congr (h c hmem a (List.mem_cons_self ..)) rfl rfl

theorem argmin_map (f : β → α) (l : List β) :
    (l.map f).argmin key = (l.argmin (key ∘ f)).map f := by
  induction l with
  | nil => rfl
  | cons b l ih =>
      rw [List.map_cons, List.argmin_cons, List.argmin_cons, ih]
      cases l.argmin (key ∘ f) with
      | none => rfl
      | some c => exact (apply_ite (Option.map f) (key (f c) < key (f b)) (some c) (some b)).symm

theorem argmin_filter_map (f : β → α) (p : α → Bool) (l : List β) :
    ((l.map f).filter p).argmin key = ((l.filter (p ∘ f)).argmin (key ∘ f)).map f := by
  rw [List.filter_map, argmin_map]

/-- A worse element makes no difference. -/
theorem argmin_append_worse {l₁ l₂ : List α} (h : (l₁ ++ l₂).argmin key = some m)
    (hworse : key m < key a) : (l₁ ++ a :: l₂).argmin key = some m := by
  obtain ⟨p, q, hsplit, hbefore⟩ := exists_of_argmin h
  have hafter : ∀ b ∈ q, key m ≤ key b := fun b hb =>
    List.le_of_mem_argmin (hsplit ▸ List.mem_append_right _ (List.mem_cons_of_mem _ hb)) h
  rcases List.append_eq_append_iff.1 hsplit with ⟨r, rfl, rfl⟩ | ⟨r, rfl, hr⟩
  · -- The worse element is in front of the first best.
    have hworse' : ∀ b ∈ l₁ ++ a :: r, key m < key b := by
      intro b hb
      rcases List.mem_append.1 hb with hb | hb
      · exact hbefore b (List.mem_append_left _ hb)
      · rcases List.mem_cons.1 hb with rfl | hb
        · exact hworse
        · exact hbefore b (List.mem_append_right _ hb)
    rw [← List.cons_append, ← List.append_assoc]
    exact argmin_append_cons hworse' hafter
  · cases r with
    | nil =>
        rw [List.nil_append] at hr
        subst hr
        have hworse' : ∀ b ∈ p ++ [a], key m < key b := by
          intro b hb
          rcases List.mem_append.1 hb with hb | hb
          · exact hbefore b hb
          · rw [List.mem_singleton.1 hb]
            exact hworse
        rw [List.append_nil, List.append_cons]
        exact argmin_append_cons hworse' hafter
    | cons c r =>
        obtain ⟨rfl, rfl⟩ := List.cons.inj hr
        rw [List.append_assoc, List.cons_append]
        refine argmin_append_cons hbefore fun b hb => ?_
        rcases List.mem_append.1 hb with hb | hb
        · exact hafter b (List.mem_append_left _ hb)
        · rcases List.mem_cons.1 hb with rfl | hb
          · exact hworse.le
          · exact hafter b (List.mem_append_right _ hb)

/-- The first best is the first best of any part that it is in. -/
theorem argmin_filter {p : α → Bool} (h : l.argmin key = some m) (hm : p m = true) :
    (l.filter p).argmin key = some m := by
  obtain ⟨l₁, l₂, rfl, hbefore⟩ := exists_of_argmin h
  rw [List.filter_append, List.filter_cons_of_pos hm]
  refine argmin_append_cons (fun b hb => hbefore b (List.mem_filter.1 hb).1) fun b hb => ?_
  refine List.le_of_mem_argmin (f := key) (List.mem_append_right _ (List.mem_cons_of_mem _ ?_)) h
  exact (List.mem_filter.1 hb).1

/-! ## The only one -/

/-- What at most one element satisfies is found wherever it is. -/
theorem find?_eq_some_of_only {p : α → Bool}
    (honly : ∀ a ∈ l, ∀ b ∈ l, p a = true → p b = true → a = b) :
    l.find? p = some a ↔ a ∈ l ∧ p a = true := by
  constructor
  · intro h
    exact ⟨List.mem_of_find?_eq_some h, List.find?_some h⟩
  · rintro ⟨ha, hp⟩
    cases hfound : l.find? p with
    | none => exact absurd hp (List.find?_eq_none.1 hfound a ha)
    | some b =>
        rw [honly b (List.mem_of_find?_eq_some hfound) a ha (List.find?_some hfound) hp]

/-- What at most one element satisfies is found in any order. -/
theorem find?_of_perm {p : α → Bool} (hperm : l.Perm l')
    (honly : ∀ a ∈ l, ∀ b ∈ l, p a = true → p b = true → a = b) : l.find? p = l'.find? p := by
  cases hfound : l.find? p with
  | none =>
      refine (List.find?_eq_none.2 fun a ha => ?_).symm
      exact List.find?_eq_none.1 hfound a (hperm.mem_iff.2 ha)
  | some a =>
      have ha := List.mem_of_find?_eq_some hfound
      cases hfound' : l'.find? p with
      | none =>
          have hnot := List.find?_eq_none.1 hfound' a (hperm.mem_iff.1 ha)
          exact absurd (List.find?_some hfound) hnot
      | some b =>
          have hb := hperm.mem_iff.2 (List.mem_of_find?_eq_some hfound')
          rw [honly a ha b hb (List.find?_some hfound) (List.find?_some hfound')]

/-! ## One per identity -/

/-- Keep the better of two elements of one identity. -/
def keep [DecidableEq ι] (identity : α → ι) (key : α → κ) (kept : AList fun _ : ι => α) (a : α) :
    AList fun _ : ι => α :=
  match kept.lookup (identity a) with
  | none => kept.insert (identity a) a
  | some b => if key a < key b then kept.insert (identity a) a else kept

/-- The loop keeps the first best of every identity. -/
theorem lookup_foldl_keep [DecidableEq ι] {identity : α → ι} (l : List α) (i : ι) :
    (l.foldl (keep identity key) ∅).lookup i =
      (l.filter fun a => decide (identity a = i)).argmin key := by
  induction l using List.reverseRecOn with
  | nil => simp
  | append_singleton l a ih =>
      rw [List.foldl_append, List.foldl_cons, List.foldl_nil, List.filter_append, keep]
      by_cases hi : identity a = i
      · subst hi
        rw [List.filter_singleton, decide_eq_true rfl, cond_true, List.argmin_concat, ← ih]
        cases hkept : (l.foldl (keep identity key) ∅).lookup (identity a) with
        | none => exact AList.lookup_insert _
        | some b =>
            by_cases hlt : key a < key b
            · simp [hlt]
            · simp [hlt, hkept]
      · rw [List.filter_singleton, decide_eq_false hi, cond_false, List.append_nil, ← ih]
        split
        · exact AList.lookup_insert_ne (Ne.symm hi)
        · split
          · exact AList.lookup_insert_ne (Ne.symm hi)
          · rfl

end Selection
