import Mathlib.Data.List.Sort
import Mathlib.Data.List.Nodup
import Mathlib.Order.Lattice

/-!
# Ranks

The first elements of a list in the descending order of a key.  Where no key is there twice,
these are the elements that few others exceed.  And lists that differ in their order only
are sorted alike.
-/

namespace Turnstile.Ranking

variable {α κ : Type*} [LinearOrder κ] {key : α → κ} {l : List α} {a : α} {n : ℕ}

/-- The list from the greatest key to the least; elements of one key stay in order. -/
def descending (key : α → κ) (l : List α) : List α :=
  l.insertionSort fun a b => key b ≤ key a

theorem descending_perm (key : α → κ) (l : List α) : (descending key l).Perm l :=
  List.perm_insertionSort _ l

@[simp] theorem mem_descending : a ∈ descending key l ↔ a ∈ l :=
  (descending_perm key l).mem_iff

theorem pairwise_descending (hnodup : (l.map key).Nodup) :
    (descending key l).Pairwise fun a b => key b < key a := by
  have : Std.Total fun a b : α => key b ≤ key a := ⟨fun a b => le_total (key b) (key a)⟩
  have : IsTrans α fun a b : α => key b ≤ key a := ⟨fun a b c hab hbc => hbc.trans hab⟩
  have hle : (descending key l).Pairwise fun a b => key b ≤ key a :=
    List.pairwise_insertionSort _ l
  have hne : (descending key l).Pairwise fun a b => key a ≠ key b :=
    List.pairwise_map.1 (((descending_perm key l).map key).nodup_iff.2 hnodup)
  exact (hle.and hne).imp fun h => lt_of_le_of_ne h.1 h.2.symm

/-- In a list whose keys fall, an element's place is the number of those that exceed it. -/
theorem mem_take_iff (h : l.Pairwise fun a b => key b < key a) :
    a ∈ l.take n ↔ a ∈ l ∧ l.countP (fun b => key a < key b) < n := by
  induction l generalizing n with
  | nil => simp
  | cons first rest ih =>
      obtain ⟨hfirst, hrest⟩ := List.pairwise_cons.1 h
      cases n with
      | zero => simp
      | succ n =>
          rw [List.take_succ_cons, List.mem_cons, List.mem_cons, ih hrest, List.countP_cons]
          by_cases hmem : a ∈ rest
          · have hlt := hfirst a hmem
            have hne : a ≠ first := by
              rintro rfl
              exact lt_irrefl _ hlt
            simp [hmem, hne, hlt]
          · have hnone : rest.countP (fun b => key first < key b) = 0 :=
              List.countP_eq_zero.2 fun b hb => by simpa using (hfirst b hb).le
            constructor
            · rintro (rfl | ⟨hin, -⟩)
              · exact ⟨.inl rfl, by simp [hnone]⟩
              · exact absurd hin hmem
            · rintro ⟨hself | hin, -⟩
              · exact .inl hself
              · exact absurd hin hmem

/-- The first elements are those that few others exceed. -/
theorem mem_take_descending (hnodup : (l.map key).Nodup) :
    a ∈ (descending key l).take n ↔ a ∈ l ∧ l.countP (fun b => key a < key b) < n := by
  rw [mem_take_iff (pairwise_descending hnodup), mem_descending,
    (descending_perm key l).countP_eq]

/-! ## One order -/

/-- A list is sorted in one way only, where elements that are equal in the order are equal. -/
theorem insertionSort_congr {r : α → α → Prop} [DecidableRel r] [Std.Total r] [IsTrans α r]
    {l l' : List α} (h : l.Perm l') (hanti : ∀ a ∈ l, ∀ b ∈ l, r a b → r b a → a = b) :
    l.insertionSort r = l'.insertionSort r := by
  refine List.Perm.eq_of_pairwise ?_ (List.pairwise_insertionSort r l)
    (List.pairwise_insertionSort r l')
    ((List.perm_insertionSort r l).trans (h.trans (List.perm_insertionSort r l').symm))
  intro a b ha hb
  exact hanti a ((List.mem_insertionSort r).1 ha) b
    (h.mem_iff.2 ((List.mem_insertionSort r).1 hb))

end Turnstile.Ranking
