import Mathlib.Data.List.AList
import Mathlib.Data.List.Dedup
import Mathlib.Data.List.Induction
import Mathlib.Tactic.Abel
import Mathlib.Algebra.Order.BigOperators.Group.List

/-!
# Totals over a keyed store

A keyed store is a finite map, `AList` over a constant family.  `total f s` adds
up what `f` gives for every stored value.  Writing one key changes a total by the
value written minus the value replaced (`total_insert`), which is all that a
conservation argument needs to know of a store.
-/

namespace Store

variable {κ ν M : Type*}

/-- What a looked-up value contributes: nothing when the key is absent. -/
def share [Zero M] (f : ν → M) (v : Option ν) : M := v.elim 0 f

@[simp] theorem share_none [Zero M] (f : ν → M) : share f none = 0 := rfl

@[simp] theorem share_some [Zero M] (f : ν → M) (v : ν) : share f (some v) = f v := rfl

theorem share_map [Zero M] {α : Type*} (f : ν → M) (g : α → ν) (o : Option α) :
    share f (o.map g) = share (fun a => f (g a)) o := by
  cases o with
  | none => rfl
  | some a => rfl

/-- The sum of `f` over the stored values. -/
def total [AddCommMonoid M] (f : ν → M) (s : AList fun _ : κ => ν) : M :=
  (s.entries.map fun e => f e.2).sum

@[simp] theorem total_empty [AddCommMonoid M] (f : ν → M) :
    total f (∅ : AList fun _ : κ => ν) = 0 := rfl

/-- Taking one key out of a list of entries takes its share out of the sum. -/
theorem sum_map_kerase [DecidableEq κ] [AddCommMonoid M] (f : ν → M) (k : κ) :
    ∀ l : List (Sigma fun _ : κ => ν),
      (l.map fun e => f e.2).sum
        = share f (l.dlookup k) + ((l.kerase k).map fun e => f e.2).sum
  | [] => by simp
  | ⟨k', v⟩ :: l => by
      by_cases h : k = k'
      · subst h
        simp
      · rw [List.kerase_cons_ne h, List.dlookup_cons_ne _ _ h, List.map_cons, List.map_cons,
          List.sum_cons, List.sum_cons, sum_map_kerase f k l, add_left_comm]

/-- Writing a key adds what is written and takes out what was there. -/
theorem total_insert [DecidableEq κ] [AddCommMonoid M] (f : ν → M) (k : κ) (v : ν)
    (s : AList fun _ : κ => ν) :
    total f (s.insert k v) + share f (s.lookup k) = total f s + f v := by
  have hs := sum_map_kerase f k s.entries
  simp only [total, AList.lookup, AList.entries_insert, List.map_cons, List.sum_cons] at hs ⊢
  rw [hs]
  abel

/-- A total of nothing at every key is nothing. -/
theorem total_eq_zero [DecidableEq κ] [AddCommMonoid M] {f : ν → M} {s : AList fun _ : κ => ν}
    (h : ∀ k v, s.lookup k = some v → f v = 0) : total f s = 0 := by
  refine List.sum_eq_zero fun x hx => ?_
  obtain ⟨e, he, rfl⟩ := List.mem_map.1 hx
  exact h e.1 e.2 (AList.mem_lookup_iff.2 he)

/-! ## Totals of quantities that are never negative -/

theorem lookup_mem [DecidableEq κ] {s : AList fun _ : κ => ν} {k : κ} {v : ν}
    (h : s.lookup k = some v) :
    (⟨k, v⟩ : Sigma fun _ : κ => ν) ∈ s.entries :=
  List.of_mem_dlookup h

section Ordered

variable [AddCommMonoid M] [PartialOrder M] [IsOrderedAddMonoid M] {f : ν → M}

/-- One stored value is at most the whole. -/
theorem le_total [DecidableEq κ] (hf : ∀ v, 0 ≤ f v) {s : AList fun _ : κ => ν} {k : κ} {v : ν}
    (h : s.lookup k = some v) : f v ≤ total f s := by
  have hmem : f v ∈ s.entries.map fun e => f e.2 :=
    List.mem_map.2 ⟨_, lookup_mem h, rfl⟩
  refine List.single_le_sum (fun x hx => ?_) _ hmem
  obtain ⟨e, -, rfl⟩ := List.mem_map.1 hx
  exact hf e.2

/-- A total of zero leaves nothing at any key. -/
theorem eq_zero_of_total [DecidableEq κ] (hf : ∀ v, 0 ≤ f v) {s : AList fun _ : κ => ν}
    (h0 : total f s = 0) {k : κ} {v : ν} (h : s.lookup k = some v) : f v = 0 :=
  le_antisymm (h0 ▸ le_total hf h) (hf v)

end Ordered

/-! ## Parts of a store -/

/-- The total is a sum over any keys that include the stored ones. -/
theorem total_eq_sum [DecidableEq κ] [AddCommMonoid M] {f : ν → M} {keys : List κ}
    {s : AList fun _ : κ => ν} (hkeys : keys.Nodup) (hmem : ∀ k ∈ s, k ∈ keys) :
    total f s = (keys.map fun k => share f (s.lookup k)).sum := by
  induction keys generalizing s with
  | nil =>
      refine total_eq_zero fun k v hk => ?_
      exact absurd (hmem k (AList.lookup_isSome.1 (by rw [hk]; rfl))) List.not_mem_nil
  | cons k keys ih =>
      obtain ⟨hk, hkeys⟩ := List.nodup_cons.1 hkeys
      have herase : total f (s.erase k) = (keys.map fun k' => share f (s.lookup k')).sum := by
        rw [ih hkeys]
        · refine congrArg List.sum (List.map_congr_left fun k' hk' => ?_)
          rw [AList.lookup_erase_ne (ne_of_mem_of_not_mem hk' hk)]
        · intro k' hk'
          obtain ⟨hne, hk'⟩ := AList.mem_erase.1 hk'
          exact (List.mem_cons.1 (hmem k' hk')).resolve_left hne
      rw [List.map_cons, List.sum_cons, ← herase]
      exact sum_map_kerase f k s.entries

/-- Stores whose values contribute the same under every key have the same totals. -/
theorem total_congr [DecidableEq κ] [AddCommMonoid M] {f : ν → M} {s s' : AList fun _ : κ => ν}
    (h : ∀ k, share f (s.lookup k) = share f (s'.lookup k)) : total f s = total f s' := by
  have hkeys : (s.keys ++ s'.keys).dedup.Nodup := List.nodup_dedup _
  rw [total_eq_sum hkeys fun k hk =>
      List.mem_dedup.2 (List.mem_append_left _ (AList.mem_keys.1 hk)),
    total_eq_sum hkeys fun k hk =>
      List.mem_dedup.2 (List.mem_append_right _ (AList.mem_keys.1 hk))]
  exact congrArg List.sum (List.map_congr_left fun k _ => h k)

/-- The part of a store under the keys that satisfy `p`. -/
def restrict [DecidableEq κ] (p : κ → Bool) (s : AList fun _ : κ => ν) : AList fun _ : κ => ν :=
  ⟨s.entries.filter fun e => p e.1, s.nodupKeys.sublist List.filter_sublist⟩

theorem lookup_restrict [DecidableEq κ] (p : κ → Bool) (s : AList fun _ : κ => ν) (k : κ) :
    (restrict p s).lookup k = if p k = true then s.lookup k else none := by
  refine Option.ext fun v => ?_
  have hmem : v ∈ (restrict p s).lookup k ↔ (⟨k, v⟩ : Sigma fun _ : κ => ν) ∈ s.entries ∧
      p k = true :=
    AList.mem_lookup_iff.trans List.mem_filter
  rw [← Option.mem_def, hmem, ← AList.mem_lookup_iff, Option.mem_def]
  split
  next hp => simp [hp]
  next hp => simp [hp]

/-- A store is its part under some keys and its part under the others. -/
theorem total_restrict_add [DecidableEq κ] [AddCommMonoid M] (f : ν → M) (p : κ → Bool)
    (s : AList fun _ : κ => ν) :
    total f (restrict p s) + total f (restrict (fun k => !p k) s) = total f s := by
  have hperm := List.filter_append_perm (fun e : Sigma fun _ : κ => ν => p e.1) s.entries
  rw [total, total, total, ← List.sum_append, ← List.map_append]
  exact (hperm.map _).sum_eq

/-! ## Stores that a loop fills -/

variable {α : Type*}

/-- The last element of a list under a key. -/
def last [DecidableEq κ] (key : α → κ) (l : List α) (k : κ) : Option α :=
  l.reverse.find? fun a => key a = k

/-- The loop leaves the last value under every key. -/
theorem lookup_foldl_insert [DecidableEq κ] {key : α → κ} {value : α → ν} {l : List α} {k : κ} :
    (l.foldl (fun s a => s.insert (key a) (value a)) (∅ : AList fun _ : κ => ν)).lookup k =
      (last key l k).map value := by
  induction l using List.reverseRecOn with
  | nil => rfl
  | append_singleton l a ih =>
      rw [List.foldl_append, List.foldl_cons, List.foldl_nil, last, List.reverse_append,
        List.reverse_singleton, List.singleton_append, List.find?_cons]
      by_cases h : key a = k
      · subst h
        simp
      · rw [AList.lookup_insert_ne (Ne.symm h), ih]
        simp [h, last]

theorem last_mem [DecidableEq κ] {key : α → κ} {l : List α} {k : κ} {a : α}
    (h : last key l k = some a) : a ∈ l ∧ key a = k :=
  ⟨List.mem_reverse.1 (List.mem_of_find?_eq_some h), by simpa using List.find?_some h⟩

theorem last_eq_none [DecidableEq κ] {key : α → κ} {l : List α} {k : κ} :
    last key l k = none ↔ ∀ a ∈ l, key a ≠ k := by
  simp [last]

/-- A sum over a part is a sum over the whole. -/
theorem sum_map_filter [AddCommMonoid M] (f : α → M) (p : α → Bool) (l : List α) :
    ((l.filter p).map f).sum = (l.map fun a => if p a = true then f a else 0).sum := by
  induction l with
  | nil => rfl
  | cons a l ih =>
      rw [List.filter_cons, List.map_cons, List.sum_cons, ← ih]
      split
      · rw [List.map_cons, List.sum_cons]
      · rw [zero_add]

end Store
