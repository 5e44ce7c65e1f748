import Mathlib.Logic.Function.Basic
import Mathlib.Tactic.Common

/-!
# Tables with conditional batches

A table maps keys to rows.  A row is a document and the tag of the commit that
wrote it.  A batch lists writes, each with the tag its row must still carry, or
with no tag when the row must be absent.  The table admits a batch when every
condition holds, and then applies all of it under one fresh tag.

`Evolves t t'` is what a reader of `t` may rely on when the table has become
`t'`: rows are not deleted, and a row of `t'` that carries a tag older than `t`
is a row of `t`.  So a tag that still matches brings back the document that was
read with it (`Evolves.row_of_etag`), which is what makes a conditional write
atomic with the read before it.
-/

/-- A stored row: the document and the tag of the commit that wrote it. -/
structure Row (δ : Type) where
  document : δ
  etag : ℕ
deriving DecidableEq

/-- One write of a batch.  With `ifMatch := none` the row must be absent. -/
structure Write (κ δ : Type) where
  key : κ
  document : δ
  ifMatch : Option ℕ
deriving DecidableEq

/-- The rows, and the tag that the next commit gives. -/
structure Table (κ δ : Type) where
  rows : κ → Option (Row δ)
  next : ℕ

namespace Table

variable {κ δ : Type}

/-- The tag a key carries, if its row exists. -/
def etag? (t : Table κ δ) (k : κ) : Option ℕ := (t.rows k).map Row.etag

/-- Every condition of the batch holds. -/
def Admits (t : Table κ δ) (batch : List (Write κ δ)) : Prop :=
  ∀ w ∈ batch, t.etag? w.key = w.ifMatch

instance (t : Table κ δ) (batch : List (Write κ δ)) : Decidable (t.Admits batch) :=
  inferInstanceAs (Decidable (∀ w ∈ batch, t.etag? w.key = w.ifMatch))

/-- The table after the batch. -/
def apply [DecidableEq κ] (t : Table κ δ) (batch : List (Write κ δ)) : Table κ δ where
  rows k :=
    match batch.find? fun w => w.key = k with
    | some w => some ⟨w.document, t.next⟩
    | none => t.rows k
  next := t.next + 1

/-- Every row was written by an earlier commit. -/
def WellTagged (t : Table κ δ) : Prop := ∀ k r, t.rows k = some r → r.etag < t.next

/-- `t'` is a later state of `t`. -/
structure Evolves (t t' : Table κ δ) : Prop where
  next_le : t.next ≤ t'.next
  row_old : ∀ k r, t'.rows k = some r → r.etag < t.next → t.rows k = some r
  kept : ∀ k, t.rows k ≠ none → t'.rows k ≠ none

/-! ## One batch -/

@[simp] theorem admits_nil (t : Table κ δ) : t.Admits [] := by
  simp [Admits]

@[simp] theorem admits_cons (t : Table κ δ) (w : Write κ δ) (batch : List (Write κ δ)) :
    t.Admits (w :: batch) ↔ t.etag? w.key = w.ifMatch ∧ t.Admits batch := by
  simp [Admits]

theorem etag?_eq_none {t : Table κ δ} {k : κ} : t.etag? k = none ↔ t.rows k = none := by
  simp [etag?]

theorem etag?_eq_some {t : Table κ δ} {k : κ} {e : ℕ} :
    t.etag? k = some e ↔ ∃ d, t.rows k = some ⟨d, e⟩ := by
  constructor
  · intro h
    obtain ⟨⟨d, e'⟩, hr, rfl⟩ := Option.map_eq_some_iff.1 h
    exact ⟨d, hr⟩
  · rintro ⟨d, hr⟩
    simp [etag?, hr]

section Apply

variable [DecidableEq κ]

@[simp] theorem apply_next (t : Table κ δ) (batch : List (Write κ δ)) :
    (t.apply batch).next = t.next + 1 := rfl

/-- A row that the batch does not name is unchanged. -/
theorem apply_rows_of_not_mem {t : Table κ δ} {batch : List (Write κ δ)} {k : κ}
    (h : ∀ w ∈ batch, w.key ≠ k) : (t.apply batch).rows k = t.rows k := by
  have hfind : batch.find? (fun w => w.key = k) = none := by
    simpa [List.find?_eq_none] using h
  simp [apply, hfind]

theorem apply_rows_cons_self (t : Table κ δ) (w : Write κ δ) (batch : List (Write κ δ)) :
    (t.apply (w :: batch)).rows w.key = some ⟨w.document, t.next⟩ := by
  simp [apply]

theorem apply_rows_cons_of_ne {t : Table κ δ} {w : Write κ δ} {batch : List (Write κ δ)}
    {k : κ} (h : w.key ≠ k) : (t.apply (w :: batch)).rows k = (t.apply batch).rows k := by
  simp [apply, h]

/-- A row after the batch is a row from before it, or one the batch wrote. -/
theorem apply_rows_cases {t : Table κ δ} {batch : List (Write κ δ)} {k : κ} {r : Row δ}
    (h : (t.apply batch).rows k = some r) :
    t.rows k = some r ∨ ∃ w ∈ batch, w.key = k ∧ r = ⟨w.document, t.next⟩ := by
  cases hf : batch.find? (fun w => w.key = k) with
  | none =>
      simp only [apply, hf] at h
      exact .inl h
  | some w =>
      simp only [apply, hf] at h
      have hw : w.key = k := by simpa using List.find?_some hf
      exact .inr ⟨w, List.mem_of_find?_eq_some hf, hw, (Option.some.inj h).symm⟩

theorem apply_rows_ne_none {t : Table κ δ} {batch : List (Write κ δ)} {k : κ}
    (h : t.rows k ≠ none) : (t.apply batch).rows k ≠ none := by
  cases hf : batch.find? (fun w => w.key = k) with
  | none => simpa [apply, hf] using h
  | some w => simp [apply, hf]

theorem WellTagged.apply {t : Table κ δ} (h : t.WellTagged) (batch : List (Write κ δ)) :
    (t.apply batch).WellTagged := by
  intro k r hr
  rcases apply_rows_cases hr with hold | ⟨w, -, -, rfl⟩
  · exact Nat.lt_succ_of_lt (h k r hold)
  · exact Nat.lt_succ_self _

theorem evolves_apply (t : Table κ δ) (batch : List (Write κ δ)) : t.Evolves (t.apply batch) where
  next_le := Nat.le_succ _
  row_old := by
    intro k r hr hlt
    rcases apply_rows_cases hr with hold | ⟨w, -, -, rfl⟩
    · exact hold
    · exact absurd hlt (Nat.lt_irrefl _)
  kept := fun _ hk => apply_rows_ne_none hk

end Apply

/-! ## Later states -/

theorem Evolves.refl (t : Table κ δ) : t.Evolves t :=
  ⟨Nat.le_refl _, fun _ _ h _ => h, fun _ h => h⟩

theorem Evolves.trans {t₁ t₂ t₃ : Table κ δ} (h₁ : t₁.Evolves t₂) (h₂ : t₂.Evolves t₃) :
    t₁.Evolves t₃ where
  next_le := Nat.le_trans h₁.next_le h₂.next_le
  row_old := fun k r hr hlt =>
    h₁.row_old k r (h₂.row_old k r hr (Nat.lt_of_lt_of_le hlt h₁.next_le)) hlt
  kept := fun k hk => h₂.kept k (h₁.kept k hk)

/-- A tag that still matches brings back the row that was read with it. -/
theorem Evolves.row_of_etag {t t' : Table κ δ} (h : t.Evolves t') (ht : t.WellTagged) {k : κ}
    {r : Row δ} (hr : t.rows k = some r) (he : t'.etag? k = some r.etag) :
    t'.rows k = some r := by
  obtain ⟨d, hd⟩ := etag?_eq_some.1 he
  have hold := h.row_old k _ hd (ht k r hr)
  rw [hr, Option.some.injEq] at hold
  rw [hd, hold]

/-! ## What has been read, and what can no longer be admitted -/

/-- A row that was read: while the key carries its tag, it is that row. -/
def Seen (t : Table κ δ) (k : κ) (r : Row δ) : Prop :=
  r.etag < t.next ∧ ∀ r', t.rows k = some r' → r'.etag = r.etag → r' = r

theorem Seen.of_rows {t : Table κ δ} (ht : t.WellTagged) {k : κ} {r : Row δ}
    (h : t.rows k = some r) : t.Seen k r := by
  refine ⟨ht k r h, fun r' hr' _ => ?_⟩
  rw [h, Option.some.injEq] at hr'
  exact hr'.symm

theorem Seen.of_evolves {t t' : Table κ δ} {k : κ} {r : Row δ} (h : t.Seen k r)
    (he : t.Evolves t') : t'.Seen k r :=
  ⟨Nat.lt_of_lt_of_le h.1 he.next_le, fun r' hr' htag =>
    h.2 r' (he.row_old k r' hr' (htag ▸ h.1)) htag⟩

theorem Seen.rows_of_etag? {t : Table κ δ} {k : κ} {r : Row δ} (h : t.Seen k r)
    (he : t.etag? k = some r.etag) : t.rows k = some r := by
  obtain ⟨d, hd⟩ := etag?_eq_some.1 he
  rw [hd, h.2 _ hd rfl]

/-- A condition of the batch has failed for good. -/
def Dead (t : Table κ δ) (batch : List (Write κ δ)) : Prop :=
  ∃ w ∈ batch, match w.ifMatch with
    | some e => e < t.next ∧ t.etag? w.key ≠ some e
    | none => t.rows w.key ≠ none

theorem Dead.not_admits {t : Table κ δ} {batch : List (Write κ δ)} (h : t.Dead batch) :
    ¬t.Admits batch := by
  obtain ⟨w, hw, hcondition⟩ := h
  intro hadmits
  have htag := hadmits w hw
  cases hmatch : w.ifMatch with
  | none =>
      rw [hmatch] at hcondition htag
      exact hcondition (etag?_eq_none.1 htag)
  | some e =>
      rw [hmatch] at hcondition htag
      exact hcondition.2 htag

theorem Dead.of_evolves {t t' : Table κ δ} {batch : List (Write κ δ)} (h : t.Dead batch)
    (he : t.Evolves t') : t'.Dead batch := by
  obtain ⟨w, hw, hcondition⟩ := h
  refine ⟨w, hw, ?_⟩
  cases hmatch : w.ifMatch with
  | none =>
      rw [hmatch] at hcondition
      exact he.kept _ hcondition
  | some e =>
      rw [hmatch] at hcondition
      refine ⟨Nat.lt_of_lt_of_le hcondition.1 he.next_le, fun htag => hcondition.2 ?_⟩
      obtain ⟨d, hd⟩ := etag?_eq_some.1 htag
      exact etag?_eq_some.2 ⟨d, he.row_old _ _ hd hcondition.1⟩

end Table
