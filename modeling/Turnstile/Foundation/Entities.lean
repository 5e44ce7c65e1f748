import Turnstile.Foundation.Table

/-!
# Tables of entities

A table of entities is written one row at a time, and rows may be deleted.  A write gives
its row a fresh tag.

`Later t t'` is what a reader of `t` may rely on when the table has become `t'`: a row of
`t'` that carries a tag older than `t` is a row of `t`.  So a tag that still matches brings
back the row that was read with it (`Later.row_of_etag`).
-/

namespace Table

variable {κ δ : Type}

/-- `t'` is a later state of `t`. -/
structure Later (t t' : Table κ δ) : Prop where
  next_le : t.next ≤ t'.next
  row_old : ∀ k r, t'.rows k = some r → r.etag < t.next → t.rows k = some r

theorem Later.refl (t : Table κ δ) : t.Later t := ⟨Nat.le_refl _, fun _ _ h _ => h⟩

theorem Later.trans {t₁ t₂ t₃ : Table κ δ} (h₁ : t₁.Later t₂) (h₂ : t₂.Later t₃) : t₁.Later t₃ where
  next_le := Nat.le_trans h₁.next_le h₂.next_le
  row_old := fun k r hr hlt =>
    h₁.row_old k r (h₂.row_old k r hr (Nat.lt_of_lt_of_le hlt h₁.next_le)) hlt

/-- A tag that still matches brings back the row that was read with it. -/
theorem Later.row_of_etag {t t' : Table κ δ} (h : t.Later t') (ht : t.WellTagged) {k : κ}
    {r : Row δ} (hr : t.rows k = some r) (he : t'.etag? k = some r.etag) :
    t'.rows k = some r := by
  obtain ⟨d, hd⟩ := etag?_eq_some.1 he
  have hold := h.row_old k _ hd (ht k r hr)
  rw [hr, Option.some.injEq] at hold
  rw [hd, hold]

section

variable [DecidableEq κ]

/-- The table after a row was written, or deleted. -/
def set (t : Table κ δ) (k : κ) (d? : Option δ) : Table κ δ where
  rows := Function.update t.rows k (d?.map fun d => ⟨d, t.next⟩)
  next := t.next + 1

theorem set_rows_self (t : Table κ δ) (k : κ) (d? : Option δ) :
    (t.set k d?).rows k = d?.map fun d => ⟨d, t.next⟩ := Function.update_self ..

theorem set_rows_of_ne (t : Table κ δ) {k k' : κ} (d? : Option δ) (h : k' ≠ k) :
    (t.set k d?).rows k' = t.rows k' := Function.update_of_ne h ..

/-- A row after the write is a row from before it, or has the fresh tag. -/
theorem set_rows_cases {t : Table κ δ} {k k' : κ} {d? : Option δ} {r : Row δ}
    (h : (t.set k d?).rows k' = some r) : t.rows k' = some r ∨ r.etag = t.next := by
  by_cases hk : k' = k
  · subst hk
    rw [set_rows_self] at h
    obtain ⟨d, -, rfl⟩ := Option.map_eq_some_iff.1 h
    exact Or.inr rfl
  · rw [set_rows_of_ne t d? hk] at h
    exact Or.inl h

theorem WellTagged.set {t : Table κ δ} (h : t.WellTagged) (k : κ) (d? : Option δ) :
    (t.set k d?).WellTagged := by
  intro k' r hr
  rcases set_rows_cases hr with hold | hfresh
  · exact Nat.lt_succ_of_lt (h k' r hold)
  · rw [hfresh]
    exact Nat.lt_succ_self _

theorem later_set (t : Table κ δ) (k : κ) (d? : Option δ) : t.Later (t.set k d?) where
  next_le := Nat.le_succ _
  row_old := by
    intro k' r hr hlt
    rcases set_rows_cases hr with hold | hfresh
    · exact hold
    · rw [hfresh] at hlt
      exact absurd hlt (Nat.lt_irrefl _)

end

end Table
