import Mathlib.Data.List.Perm.Lattice
import Mathlib.Data.List.Nodup

/-!
# Dictionaries in the order of insertion

A dictionary is the list of its entries, each key once.  An entry is updated in place, and a
new one goes to the end.  `collect` reads a list into a dictionary: what a key has is made of
the elements of that key, and the keys are in the order of their first elements.
-/

namespace Turnstile.Dictionary

variable {α κ ν : Type*} [DecidableEq κ]

/-- The entry of a key becomes what `f` makes of it, or of nothing. -/
def update (k : κ) (f : Option ν → ν) : List (κ × ν) → List (κ × ν)
  | [] => [(k, f none)]
  | entry :: rest => if entry.1 = k then (k, f (some entry.2)) :: rest else entry :: update k f rest

/-- What a key has. -/
def get (k : κ) : List (κ × ν) → Option ν
  | [] => none
  | entry :: rest => if entry.1 = k then some entry.2 else get k rest

/-- The dictionary of a list: each element updates the entry of its key. -/
def collect (key : α → κ) (f : Option ν → α → ν) (l : List α) : List (κ × ν) :=
  l.foldl (fun d a => update (key a) (fun v => f v a) d) []

section Update

variable {d d' : List (κ × ν)} {k k' : κ} {v : ν} {f : Option ν → ν}

theorem get_update (k k' : κ) (f : Option ν → ν) (d : List (κ × ν)) :
    get k' (update k f d) = if k = k' then some (f (get k d)) else get k' d := by
  induction d with
  | nil => rfl
  | cons entry rest ih =>
      by_cases hkey : entry.1 = k
      · subst hkey
        by_cases h : entry.1 = k' <;> simp [update, get, h]
      · by_cases h : entry.1 = k'
        · have hne : k ≠ k' := fun heq => hkey (h.trans heq.symm)
          rw [update, if_neg hkey, get, if_pos h, if_neg hne, get, if_pos h]
        · simp [update, get, hkey, h, ih]

theorem keys_update (k : κ) (f : Option ν → ν) (d : List (κ × ν)) :
    (update k f d).map Prod.fst
      = if k ∈ d.map Prod.fst then d.map Prod.fst else d.map Prod.fst ++ [k] := by
  induction d with
  | nil => simp [update]
  | cons entry rest ih =>
      by_cases hkey : entry.1 = k
      · simp [update, hkey]
      · have hne : k ≠ entry.1 := fun h => hkey h.symm
        by_cases hmem : k ∈ rest.map Prod.fst <;> simp [update, hkey, hne, ih, hmem]

theorem nodup_update (h : (d.map Prod.fst).Nodup) : ((update k f d).map Prod.fst).Nodup := by
  rw [keys_update]
  split
  next => exact h
  next hnew =>
    exact List.nodup_append'.2 ⟨h, List.nodup_singleton k, List.disjoint_singleton.2 hnew⟩

/-- An entry is found under its key. -/
theorem mem_iff_get (h : (d.map Prod.fst).Nodup) : (k, v) ∈ d ↔ get k d = some v := by
  induction d with
  | nil => simp [get]
  | cons entry rest ih =>
      obtain ⟨key, value⟩ := entry
      obtain ⟨hnew, hrest⟩ := List.nodup_cons.1 h
      by_cases hkey : key = k
      · subst hkey
        have hnone : (key, v) ∉ rest := fun hmem => hnew (List.mem_map.2 ⟨_, hmem, rfl⟩)
        simp [get, hnone, eq_comm]
      · have hne : k ≠ key := fun heq => hkey heq.symm
        simp [get, hkey, hne, ih hrest]

theorem get_eq_none {d : List (κ × ν)} {k : κ} : get k d = none ↔ k ∉ d.map Prod.fst := by
  induction d with
  | nil => simp [get]
  | cons entry rest ih =>
      by_cases hkey : entry.1 = k
      · simp [get, hkey]
      · have hne : k ≠ entry.1 := fun heq => hkey heq.symm
        simp [get, hkey, hne, ih]

theorem mem_of_get {d : List (κ × ν)} {k : κ} {v : ν} (h : get k d = some v) : (k, v) ∈ d := by
  induction d with
  | nil => cases h
  | cons entry rest ih =>
      rw [get] at h
      split at h
      next hkey =>
        obtain rfl := Option.some.inj h
        rw [← hkey]
        exact List.mem_cons_self
      next => exact List.mem_cons_of_mem _ (ih h)

theorem get_append_singleton {d : List (κ × ν)} {entry : κ × ν} {k : κ} :
    get k (d ++ [entry]) = (get k d).or (if entry.1 = k then some entry.2 else none) := by
  induction d with
  | nil => rfl
  | cons first rest ih =>
      rw [List.cons_append, get, get, ih]
      split <;> rfl

end Update

section Overwrite

/-- The entries of one dictionary over those of another. -/
def overwrite (d entries : List (κ × ν)) : List (κ × ν) :=
  entries.foldl (fun d entry => update entry.1 (fun _ => entry.2) d) d

variable {entries d : List (κ × ν)}

/-- An entry of the first dictionary stays where the second has none. -/
theorem get_overwrite (distinct : (entries.map Prod.fst).Nodup) (k : κ) :
    get k (overwrite d entries) = (get k entries).or (get k d) := by
  unfold overwrite
  induction entries generalizing d with
  | nil => rfl
  | cons entry rest ih =>
      obtain ⟨hnew, hrest⟩ := List.nodup_cons.1 distinct
      rw [List.foldl_cons, ih hrest, get_update, get]
      by_cases hkey : entry.1 = k
      · rw [hkey] at hnew
        rw [if_pos hkey, if_pos hkey, get_eq_none.2 hnew, Option.none_or, Option.some_or]
      · rw [if_neg hkey, if_neg hkey]

theorem nodup_overwrite (h : (d.map Prod.fst).Nodup) :
    ((overwrite d entries).map Prod.fst).Nodup := by
  unfold overwrite
  induction entries generalizing d with
  | nil => exact h
  | cons entry rest ih => exact ih (nodup_update h)

end Overwrite

section Collect

variable {key : α → κ} {f : Option ν → α → ν} {l : List α} {k : κ}

theorem nodup_collect (key : α → κ) (f : Option ν → α → ν) (l : List α) :
    ((collect key f l).map Prod.fst).Nodup := by
  have hfold : ∀ d : List (κ × ν), (d.map Prod.fst).Nodup →
      ((l.foldl (fun d a => update (key a) (fun v => f v a) d) d).map Prod.fst).Nodup := by
    induction l with
    | nil => exact fun _ h => h
    | cons a rest ih => exact fun d h => ih _ (nodup_update h)
  exact hfold [] List.nodup_nil

theorem get_foldl (d : List (κ × ν)) :
    get k (l.foldl (fun d a => update (key a) (fun v => f v a) d) d)
      = (l.filter fun a => key a = k).foldl (fun v a => some (f v a)) (get k d) := by
  induction l generalizing d with
  | nil => rfl
  | cons a rest ih =>
      rw [List.foldl_cons, ih, get_update]
      by_cases h : key a = k <;> simp [h]

/-- What a key has is made of the elements of that key. -/
theorem get_collect (key : α → κ) (f : Option ν → α → ν) (l : List α) (k : κ) :
    get k (collect key f l)
      = (l.filter fun a => key a = k).foldl (fun v a => some (f v a)) none :=
  get_foldl []

/-- An element whose key no other element has is all that its key is made of. -/
theorem get_collect_of_mem {a : α} (distinct : (l.map key).Nodup) (ha : a ∈ l) :
    get (key a) (collect key f l) = some (f none a) := by
  have hfilter : l.filter (fun b => key b = key a) = [a] := by
    induction l with
    | nil => cases ha
    | cons b rest ih =>
        obtain ⟨hnew, hrest⟩ := List.nodup_cons.1 distinct
        rcases List.mem_cons.1 ha with rfl | ha
        · have hnone : rest.filter (fun b => key b = key a) = [] := by
            refine List.filter_eq_nil_iff.2 fun c hc heq => hnew ?_
            exact of_decide_eq_true heq ▸ List.mem_map_of_mem hc
          rw [List.filter_cons, if_pos (decide_eq_true rfl), hnone]
        · have hne : key b ≠ key a := fun heq => hnew (heq ▸ List.mem_map_of_mem ha)
          rw [List.filter_cons, if_neg (by simpa using hne), ih hrest ha]
  rw [get_collect, hfilter]
  rfl

theorem exists_of_get_collect {v : ν} (h : get k (collect key f l) = some v) :
    ∃ a ∈ l, key a = k := by
  by_contra hnone
  have hfilter : l.filter (fun a => key a = k) = [] :=
    List.filter_eq_nil_iff.2 fun a ha heq => hnone ⟨a, ha, of_decide_eq_true heq⟩
  rw [get_collect, hfilter] at h
  cases h

/-- The keys of a dictionary do not depend on what it has under them. -/
theorem keys_collect {μ : Type*} (key : α → κ) (f : Option ν → α → ν) (f' : Option μ → α → μ)
    (l : List α) : (collect key f l).map Prod.fst = (collect key f' l).map Prod.fst := by
  have hfold : ∀ (d : List (κ × ν)) (d' : List (κ × μ)), d.map Prod.fst = d'.map Prod.fst →
      (l.foldl (fun d a => update (key a) (fun v => f v a) d) d).map Prod.fst
        = (l.foldl (fun d a => update (key a) (fun v => f' v a) d) d').map Prod.fst := by
    induction l with
    | nil => exact fun _ _ h => h
    | cons a rest ih =>
        intro d d' h
        refine ih _ _ ?_
        rw [keys_update, keys_update, h]
  exact hfold [] [] rfl

theorem foldl_some_eq (g : ν → α → ν) (start : ν) (l : List α) :
    l.foldl (fun v a => some (g (v.getD start) a)) none
      = if l = [] then none else some (l.foldl g start) := by
  cases l with
  | nil => rfl
  | cons a rest =>
      have hrest : ∀ v, rest.foldl (fun v a => some (g (v.getD start) a)) (some v)
          = some (rest.foldl g v) := by
        induction rest with
        | nil => exact fun _ => rfl
        | cons b rest ih => exact fun v => ih (g v b)
      exact hrest (g start a)

/-- The dictionary of a list starts with the key of the first element. -/
theorem exists_collect_cons (key : α → κ) (f : Option ν → α → ν) (a : α) (l : List α) :
    ∃ v rest, collect key f (a :: l) = (key a, v) :: rest := by
  have hfold : ∀ v d, ∃ v' rest, l.foldl (fun d a => update (key a) (fun v => f v a) d)
      ((key a, v) :: d) = (key a, v') :: rest := by
    induction l with
    | nil => exact fun v d => ⟨v, d, rfl⟩
    | cons b rest ih =>
        intro v d
        rw [List.foldl_cons]
        by_cases h : key a = key b
        · rw [update, if_pos h, ← h]
          exact ih _ _
        · rw [update, if_neg h]
          exact ih _ _
  exact hfold _ []

/-- Lists without a common key are read one after the other. -/
theorem collect_append {l' : List α} (h : ∀ a ∈ l, ∀ b ∈ l', key a ≠ key b) :
    collect key f (l ++ l') = collect key f l ++ collect key f l' := by
  have hupdate : ∀ (d d' : List (κ × ν)) (k : κ) (g : Option ν → ν), k ∉ d.map Prod.fst →
      update k g (d ++ d') = d ++ update k g d' := by
    intro d d' k g
    induction d with
    | nil => exact fun _ => rfl
    | cons entry rest ih =>
        intro hnew
        rw [List.map_cons, List.mem_cons, not_or] at hnew
        rw [List.cons_append, update, if_neg fun heq => hnew.1 heq.symm, ih hnew.2,
          List.cons_append]
  have hfold : ∀ d d' : List (κ × ν), (∀ b ∈ l', key b ∉ d.map Prod.fst) →
      l'.foldl (fun d a => update (key a) (fun v => f v a) d) (d ++ d')
        = d ++ l'.foldl (fun d a => update (key a) (fun v => f v a) d) d' := by
    clear h
    induction l' with
    | nil => exact fun _ _ _ => rfl
    | cons b rest ih =>
        intro d d' hnew
        rw [List.foldl_cons, hupdate _ _ _ _ (hnew b List.mem_cons_self), List.foldl_cons]
        exact ih d _ fun c hc => hnew c (List.mem_cons_of_mem b hc)
  rw [collect, List.foldl_append]
  have hkeys : ∀ b ∈ l', key b ∉ (collect key f l).map Prod.fst := by
    intro b hb hmem
    obtain ⟨entry, hentry, hkey⟩ := List.mem_map.1 hmem
    have hget := (mem_iff_get (nodup_collect key f l)).1 hentry
    rw [get_collect, List.filter_eq_nil_iff.2] at hget
    · cases hget
    · intro a ha
      rw [decide_eq_true_eq, hkey]
      exact h a ha b hb
  have happend := hfold (collect key f l) [] hkeys
  rw [List.append_nil] at happend
  exact happend

end Collect

end Turnstile.Dictionary
