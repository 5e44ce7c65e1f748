import Mathlib.Data.List.Nodup
import Mathlib.Data.List.Forall2
import Mathlib.Tactic.Common

/-!
# Tables as lists of rows

A table is a list of rows in the order they were added, each with a key.  A look-up finds
the first row of a key and an update writes the first row of a key.  Where the keys are
distinct, an update is a map over the rows (`update_eq_map`).
-/

namespace Rows

variable {α β κ : Type} [DecidableEq κ] (key : α → κ)

/-- The first row of a key. -/
def find? (k : κ) (rows : List α) : Option α :=
  List.find? (fun row => key row = k) rows

/-- The table after the first row of a key was written. -/
def update (k : κ) (f : α → α) : List α → List α
  | [] => []
  | row :: rest => if key row = k then f row :: rest else row :: update k f rest

/-- The table after a row was written under its key, at the end where the key is new. -/
def put (row : α) (rows : List α) : List α :=
  if rows.any (fun other => key other = key row) then update key (key row) (fun _ => row) rows
  else rows ++ [row]

variable {key} {k : κ} {f : α → α} {rows : List α}

/-! ## Look-ups -/

theorem mem_of_find? {row : α} (h : find? key k rows = some row) : row ∈ rows :=
  List.mem_of_find?_eq_some h

theorem key_of_find? {row : α} (h : find? key k rows = some row) : key row = k := by
  have hkey := List.find?_some h
  exact of_decide_eq_true hkey

theorem find?_eq_none : find? key k rows = none ↔ ∀ row ∈ rows, key row ≠ k := by
  simp [find?]

theorem exists_find? {row : α} (h : row ∈ rows) (hkey : key row = k) :
    ∃ other, find? key k rows = some other := by
  cases hfind : find? key k rows with
  | some other => exact ⟨other, rfl⟩
  | none => exact absurd hkey (find?_eq_none.1 hfind row h)

omit [DecidableEq κ] in
/-- Rows of one key are one row, where the keys are distinct. -/
theorem eq_of_key (hnodup : (rows.map key).Nodup) {p q : α} (hp : p ∈ rows) (hq : q ∈ rows)
    (h : key p = key q) : p = q :=
  List.inj_on_of_nodup_map hnodup hp hq h

theorem find?_eq_some (hnodup : (rows.map key).Nodup) {row : α} :
    find? key k rows = some row ↔ row ∈ rows ∧ key row = k := by
  constructor
  · intro h
    exact ⟨mem_of_find? h, key_of_find? h⟩
  · rintro ⟨hmem, hkey⟩
    obtain ⟨other, hother⟩ := exists_find? hmem hkey
    have heq : key other = key row := by rw [key_of_find? hother, hkey]
    rw [hother, eq_of_key hnodup (mem_of_find? hother) hmem heq]

/-! ## Updates -/

@[simp] theorem update_self : update key k (fun row => row) rows = rows := by
  induction rows with
  | nil => rfl
  | cons row rest ih =>
      unfold update
      split_ifs
      · rfl
      · rw [ih]

theorem update_eq_map (hnodup : (rows.map key).Nodup) :
    update key k f rows = rows.map fun row => if key row = k then f row else row := by
  induction rows with
  | nil => rfl
  | cons row rest ih =>
      rw [List.map_cons, List.nodup_cons] at hnodup
      by_cases hkey : key row = k
      · have hrest : ∀ other ∈ rest, key other ≠ k := fun other hother heq =>
          hnodup.1 (hkey ▸ heq ▸ List.mem_map_of_mem hother)
        have hsame : rest.map (fun other => if key other = k then f other else other) = rest := by
          conv_rhs => rw [← List.map_id rest]
          exact List.map_congr_left fun other hother => if_neg (hrest other hother)
        simp only [update, if_pos hkey, List.map_cons, hsame]
      · simp only [update, if_neg hkey, List.map_cons, ih hnodup.2]

/-- An update that keeps the keys is found under its key. -/
theorem find?_update_same (h : ∀ row, key (f row) = key row) :
    find? key k (update key k f rows) = (find? key k rows).map f := by
  induction rows with
  | nil => rfl
  | cons row rest ih =>
      unfold find? at *
      by_cases hkey : key row = k
      · simp [update, hkey, h]
      · simp [update, hkey, ih]

/-- What an update does not change of any row, it does not change of the table. -/
theorem map_update {g : α → β} (h : ∀ row, g (f row) = g row) :
    (update key k f rows).map g = rows.map g := by
  induction rows with
  | nil => rfl
  | cons row rest ih =>
      by_cases hkey : key row = k
      · simp [update, hkey, h]
      · simp [update, hkey, ih]

/-- A row of the table was there before, or was written. -/
theorem mem_update {row : α} (h : row ∈ update key k f rows) :
    row ∈ rows ∨ ∃ old ∈ rows, key old = k ∧ row = f old := by
  induction rows with
  | nil => cases h
  | cons first rest ih =>
      unfold update at h
      split at h
      next hkey =>
        cases List.mem_cons.1 h with
        | inl heq => exact .inr ⟨first, List.mem_cons_self, hkey, heq⟩
        | inr hmem => exact .inl (List.mem_cons_of_mem first hmem)
      next hkey =>
        cases List.mem_cons.1 h with
        | inl heq => exact .inl (heq ▸ List.mem_cons_self)
        | inr hmem =>
            rcases ih hmem with hold | ⟨old, hold, hkeyed, heq⟩
            · exact .inl (List.mem_cons_of_mem first hold)
            · exact .inr ⟨old, List.mem_cons_of_mem first hold, hkeyed, heq⟩

/-! ## Writes under a key -/

omit [DecidableEq κ] in
theorem nodup_filter (hnodup : (rows.map key).Nodup) (q : α → Bool) :
    ((rows.filter q).map key).Nodup :=
  hnodup.sublist (List.filter_sublist.map key)

theorem put_of_mem {row : α} (h : key row ∈ rows.map key) :
    put key row rows = update key (key row) (fun _ => row) rows := by
  obtain ⟨other, hother, hkey⟩ := List.mem_map.1 h
  have hany : rows.any (fun other => key other = key row) = true :=
    List.any_eq_true.2 ⟨other, hother, decide_eq_true hkey⟩
  rw [put, if_pos hany]

theorem put_of_not_mem {row : α} (h : key row ∉ rows.map key) :
    put key row rows = rows ++ [row] := by
  have hany : ¬rows.any (fun other => key other = key row) = true := by
    intro hany
    obtain ⟨other, hother, hkey⟩ := List.any_eq_true.1 hany
    exact h (of_decide_eq_true hkey ▸ List.mem_map_of_mem hother)
  rw [put, if_neg hany]

/-- A write puts its row in the place of the one with its key. -/
theorem put_perm (hnodup : (rows.map key).Nodup) (row : α) :
    (put key row rows).Perm (row :: rows.filter fun other => key other ≠ key row) := by
  by_cases h : key row ∈ rows.map key
  · rw [put_of_mem h]
    induction rows with
    | nil => cases h
    | cons first rest ih =>
        rw [List.map_cons, List.nodup_cons] at hnodup
        by_cases hkey : key first = key row
        · have hrest : ∀ other ∈ rest, key other ≠ key row := fun other hother heq =>
            hnodup.1 (hkey ▸ heq ▸ List.mem_map_of_mem hother)
          have hfilter : rest.filter (fun other => key other ≠ key row) = rest :=
            List.filter_eq_self.2 fun other hother => decide_eq_true (hrest other hother)
          simp only [update, if_pos hkey]
          rw [List.filter_cons_of_neg (by simpa using hkey), hfilter]
        · have hmem : key row ∈ rest.map key := by
            cases List.mem_cons.1 h with
            | inl heq => exact absurd heq.symm hkey
            | inr hmem => exact hmem
          simp only [update, if_neg hkey]
          rw [List.filter_cons_of_pos (by simpa using hkey)]
          exact ((ih hnodup.2 hmem).cons first).trans (List.Perm.swap _ _ _)
  · have hfilter : rows.filter (fun other => key other ≠ key row) = rows :=
      List.filter_eq_self.2 fun other hother =>
        decide_eq_true fun heq => h (heq ▸ List.mem_map_of_mem hother)
    rw [put_of_not_mem h, hfilter]
    exact List.perm_append_comm

theorem nodup_put (hnodup : (rows.map key).Nodup) (row : α) :
    ((put key row rows).map key).Nodup := by
  rw [((put_perm hnodup row).map key).nodup_iff, List.map_cons, List.nodup_cons]
  refine ⟨fun hmem => ?_, nodup_filter hnodup _⟩
  obtain ⟨other, hother, hkey⟩ := List.mem_map.1 hmem
  exact of_decide_eq_true (List.mem_filter.1 hother).2 hkey

theorem mem_put (hnodup : (rows.map key).Nodup) {row other : α} :
    other ∈ put key row rows ↔ other = row ∨ other ∈ rows ∧ key other ≠ key row := by
  rw [(put_perm hnodup row).mem_iff, List.mem_cons, List.mem_filter, decide_eq_true_iff]

theorem mem_keys_put (hnodup : (rows.map key).Nodup) {k : κ} (h : k ∈ rows.map key) (row : α) :
    k ∈ (put key row rows).map key := by
  rw [((put_perm hnodup row).map key).mem_iff, List.map_cons, List.mem_cons]
  obtain ⟨other, hother, rfl⟩ := List.mem_map.1 h
  by_cases hkey : key other = key row
  · exact .inl hkey
  · exact .inr (List.mem_map_of_mem (List.mem_filter.2 ⟨hother, decide_eq_true hkey⟩))

/-- A write is not seen where rows of its key are not looked at. -/
theorem filter_put {q : α → Bool} {row : α} (hrow : q row = false)
    (h : ∀ other ∈ rows, key other = key row → q other = false) :
    (put key row rows).filter q = rows.filter q := by
  by_cases hmem : key row ∈ rows.map key
  · rw [put_of_mem hmem]
    clear hmem
    induction rows with
    | nil => rfl
    | cons first rest ih =>
        unfold update
        split
        next hkey =>
          rw [List.filter_cons_of_neg (by simp [hrow]),
            List.filter_cons_of_neg (by simp [h first List.mem_cons_self hkey])]
        next =>
          rw [List.filter_cons, List.filter_cons,
            ih fun other hother => h other (List.mem_cons_of_mem first hother)]
  · rw [put_of_not_mem hmem, List.filter_append, List.filter_cons_of_neg (by simp [hrow]),
      List.filter_nil, List.append_nil]

theorem nodup_foldl_put {new : List α} (hnodup : (rows.map key).Nodup) :
    ((new.foldl (fun rows row => put key row rows) rows).map key).Nodup := by
  induction new generalizing rows with
  | nil => exact hnodup
  | cons row new ih => exact ih (nodup_put hnodup row)

theorem mem_keys_foldl_put {new : List α} (hnodup : (rows.map key).Nodup) {k : κ}
    (h : k ∈ rows.map key) : k ∈ (new.foldl (fun rows row => put key row rows) rows).map key := by
  induction new generalizing rows with
  | nil => exact h
  | cons row new ih => exact ih (nodup_put hnodup row) (mem_keys_put hnodup h row)

/-- After some writes a row is one of those written, or was not overwritten. -/
theorem mem_foldl_put {new : List α} (hnodup : (rows.map key).Nodup) {row : α}
    (h : row ∈ new.foldl (fun rows row => put key row rows) rows) :
    row ∈ new ∨ row ∈ rows ∧ ∀ other ∈ new, key row ≠ key other := by
  induction new generalizing rows with
  | nil => exact .inr ⟨h, fun other hother => absurd hother List.not_mem_nil⟩
  | cons first new ih =>
      rcases ih (nodup_put hnodup first) h with hnew | ⟨hput, hne⟩
      · exact .inl (List.mem_cons_of_mem first hnew)
      · rcases (mem_put hnodup).1 hput with rfl | ⟨hrow, hkey⟩
        · exact .inl List.mem_cons_self
        · exact .inr ⟨hrow, List.forall_mem_cons.2 ⟨hkey, hne⟩⟩

/-- Rows with new and distinct keys are added at the end. -/
theorem foldl_put_of_disjoint {new : List α} (hnew : (new.map key).Nodup)
    (h : ∀ row ∈ new, key row ∉ rows.map key) :
    new.foldl (fun rows row => put key row rows) rows = rows ++ new := by
  induction new generalizing rows with
  | nil => rw [List.foldl_nil, List.append_nil]
  | cons row new ih =>
      rw [List.map_cons, List.nodup_cons] at hnew
      rw [List.foldl_cons, put_of_not_mem (h row List.mem_cons_self), ih hnew.2, List.append_assoc]
      · rfl
      · intro other hother hmem
        rw [List.map_append, List.mem_append] at hmem
        rcases hmem with hmem | hmem
        · exact h other (List.mem_cons_of_mem row hother) hmem
        · have heq : key other = key row := List.mem_singleton.1 hmem
          exact hnew.1 (heq ▸ List.mem_map_of_mem hother)

/-- A row with the key of a row takes its place. -/
theorem put_eq_map (hnodup : (rows.map key).Nodup) {row : α} (h : key row ∈ rows.map key) :
    put key row rows = rows.map fun other => if key other = key row then row else other := by
  rw [put_of_mem h, update_eq_map hnodup]

/-- A row that is written again is where it was. -/
theorem put_self (hnodup : (rows.map key).Nodup) {row : α} (h : row ∈ rows) :
    put key row rows = rows := by
  rw [put_eq_map hnodup (List.mem_map_of_mem h)]
  conv_rhs => rw [← List.map_id rows]
  refine List.map_congr_left fun other hother => ?_
  split
  next heq => exact (eq_of_key hnodup hother h heq).symm
  next => rfl

theorem keys_put_of_mem (hnodup : (rows.map key).Nodup) {row : α} (h : key row ∈ rows.map key) :
    (put key row rows).map key = rows.map key := by
  rw [put_eq_map hnodup h, List.map_map]
  refine List.map_congr_left fun other _ => ?_
  rw [Function.comp_apply]
  split
  next heq => exact heq.symm
  next => rfl

/-- Rows with the keys of rows take their places. -/
theorem foldl_put_of_mem {new : List α} (hnodup : (rows.map key).Nodup) (hnew : (new.map key).Nodup)
    (h : ∀ row ∈ new, key row ∈ rows.map key) :
    new.foldl (fun rows row => put key row rows) rows =
      rows.map fun row => (find? key (key row) new).getD row := by
  induction new generalizing rows with
  | nil => exact (List.map_id rows).symm
  | cons row new ih =>
      rw [List.map_cons, List.nodup_cons] at hnew
      have hmem := h row List.mem_cons_self
      have hkeys := keys_put_of_mem hnodup hmem
      rw [List.foldl_cons, ih, put_eq_map hnodup hmem, List.map_map]
      · refine List.map_congr_left fun other _ => ?_
        rw [Function.comp_apply]
        by_cases heq : key other = key row
        · have hnone : find? key (key row) new = none :=
            find?_eq_none.2 fun row' hrow' hkey => hnew.1 (hkey ▸ List.mem_map_of_mem hrow')
          rw [if_pos heq, hnone, heq]
          simp [find?]
        · have hne : key row ≠ key other := fun h => heq h.symm
          rw [if_neg heq]
          simp [find?, hne]
      · rwa [hkeys]
      · exact hnew.2
      · intro other hother
        rw [hkeys]
        exact h other (List.mem_cons_of_mem row hother)

end Rows
