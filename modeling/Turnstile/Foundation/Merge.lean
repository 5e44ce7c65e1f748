import Mathlib.Data.List.Induction
import Mathlib.Data.Set.Insert
import Mathlib.Data.Set.Function
import Mathlib.Tactic.Common

/-!
# Deliveries merged into one row

The first delivery makes a row, any later one is merged into it or refused, and a
refused one leaves the row as it is.  A row that is described by the set of what was
delivered (`Summary`) depends neither on the order nor on the number of deliveries, and
neither does whether one of them is refused (`Summary.refuses_iff`).
-/

/-! ## Runs -/

section Hits

variable {α σ : Type*} {step : σ → α → σ} {bad : σ → α → Prop} {s : σ} {l : List α} {a : α}

/-- A run over a list comes to an element that is bad where the run is then. -/
def Hits (step : σ → α → σ) (bad : σ → α → Prop) (s : σ) (l : List α) : Prop :=
  ∃ before a after, l = before ++ a :: after ∧ bad (before.foldl step s) a

theorem not_hits_nil : ¬Hits step bad s [] := by
  rintro ⟨before, a, after, h, -⟩
  cases before <;> cases h

theorem hits_concat :
    Hits step bad s (l ++ [a]) ↔ Hits step bad s l ∨ bad (l.foldl step s) a := by
  constructor
  · rintro ⟨before, b, after, h, hbad⟩
    cases after using List.reverseRecOn with
    | nil =>
        obtain ⟨rfl, hlast⟩ := List.append_inj' h rfl
        cases hlast
        exact .inr hbad
    | append_singleton after c =>
        rw [← List.cons_append, ← List.append_assoc] at h
        exact .inl ⟨before, b, after, (List.append_inj' h rfl).1, hbad⟩
  · rintro (⟨before, b, after, rfl, hbad⟩ | hbad)
    · exact ⟨before, b, after ++ [a], by simp, hbad⟩
    · exact ⟨l, a, [], rfl, hbad⟩

end Hits

/-! ## Merging -/

/-- How deliveries are merged into a row. -/
structure Merger (α ρ : Type*) where
  first : α → ρ
  /-- What a delivery makes of the row, unless it is refused. -/
  merge : ρ → α → Option ρ

namespace Merger

variable {α ρ : Type*} (m : Merger α ρ) {a b : α} {r r' : ρ} {l l' : List α}

/-- What is made of the row that is there. -/
def offer : Option ρ → α → Option ρ
  | none, a => some (m.first a)
  | some r, a => m.merge r a

/-- One delivery. -/
def deliver (r : Option ρ) (a : α) : Option ρ := (m.offer r a).or r

/-- The row after some deliveries. -/
def run (l : List α) : Option ρ := l.foldl m.deliver none

@[simp] theorem run_nil : m.run [] = none := rfl

theorem run_concat (l : List α) (a : α) : m.run (l ++ [a]) = m.deliver (m.run l) a := by
  simp [run]

/-- Some delivery is refused. -/
def Refuses (l : List α) : Prop := Hits m.deliver (fun r a => m.offer r a = none) none l

theorem refuses_concat : m.Refuses (l ++ [a]) ↔ m.Refuses l ∨ m.offer (m.run l) a = none :=
  hits_concat

theorem run_eq_none : m.run l = none ↔ l = [] := by
  constructor
  · intro h
    cases l using List.reverseRecOn with
    | nil => rfl
    | append_singleton l a =>
        rw [run_concat, deliver, Option.or_eq_none_iff] at h
        rw [h.2] at h
        cases h.1
  · rintro rfl
    rfl

/-- What the first delivery establishes and every later one keeps. -/
theorem run_cons_induction {P : ρ → Prop} (hfirst : P (m.first a))
    (hmerge : ∀ r r', ∀ b ∈ l, P r → m.merge r b = some r' → P r') :
    ∃ r, m.run (a :: l) = some r ∧ P r := by
  induction l using List.reverseRecOn with
  | nil => exact ⟨m.first a, rfl, hfirst⟩
  | append_singleton l b ih =>
      obtain ⟨r, hrow, hr⟩ := ih fun r r' b hb => hmerge r r' b (List.mem_append_left _ hb)
      rw [← List.cons_append, run_concat, hrow, deliver]
      cases h : m.offer (some r) b with
      | none => exact ⟨r, rfl, hr⟩
      | some r' => exact ⟨r', rfl, hmerge r r' b (by simp) hr h⟩

/-! ## Rows that say a set -/

variable {β : Type*} {what : α → β}

/-- A list delivers the same as another, in whatever order and however often. -/
def Redelivers (what : α → β) (l l' : List α) : Prop := ∀ b, b ∈ l'.map what ↔ b ∈ l.map what

/-- The row is described by the set of what was delivered, and a delivery is refused
just when it clashes with one before it. -/
structure Summary (what : α → β) (describes : Set β → ρ → Prop) (clash : β → β → Prop) :
    Prop where
  first : ∀ a, describes {what a} (m.first a)
  merge : ∀ {s r a r'}, describes s r → m.merge r a = some r' → describes (insert (what a) s) r'
  refused : ∀ {s r a}, describes s r → (m.merge r a = none ↔ ∃ b ∈ s, clash b (what a))
  symm : ∀ {a b}, clash a b → clash b a
  irrefl : ∀ a, ¬clash a a

namespace Summary

variable {m} {describes : Set β → ρ → Prop} {clash : β → β → Prop}

/-- While nothing is refused, the row is described by all deliveries. -/
theorem describes_run (h : m.Summary what describes clash) (hl : ¬m.Refuses l)
    (hrow : m.run l = some r) : describes {b | b ∈ l.map what} r := by
  induction l using List.reverseRecOn generalizing r with
  | nil => cases hrow
  | append_singleton l a ih =>
      rw [refuses_concat, not_or] at hl
      rw [run_concat, deliver] at hrow
      have hset : {b | b ∈ (l ++ [a]).map what} = insert (what a) {b | b ∈ l.map what} := by
        ext b
        simp [or_comm]
      rw [hset]
      cases hbefore : m.run l with
      | none =>
          have hnil := m.run_eq_none.1 hbefore
          subst hnil
          cases hrow
          simpa using h.first a
      | some r₀ =>
          rw [hbefore] at hrow hl
          obtain ⟨r₁, hr₁⟩ := Option.ne_none_iff_exists'.1 hl.2
          rw [hr₁] at hrow
          cases hrow
          exact h.merge (ih hl.1 hbefore) hr₁

/-- Some delivery is refused when two of them clash. -/
theorem refuses_iff (h : m.Summary what describes clash) :
    m.Refuses l ↔ ∃ a ∈ l.map what, ∃ b ∈ l.map what, clash a b := by
  induction l using List.reverseRecOn with
  | nil => exact iff_of_false not_hits_nil (by simp)
  | append_singleton l a ih =>
      rw [refuses_concat, ih, List.map_append, List.map_singleton]
      by_cases hclash : ∃ b ∈ l.map what, ∃ c ∈ l.map what, clash b c
      · obtain ⟨b, hb, c, hc, hbc⟩ := hclash
        exact iff_of_true (.inl ⟨b, hb, c, hc, hbc⟩)
          ⟨b, List.mem_append_left _ hb, c, List.mem_append_left _ hc, hbc⟩
      · -- Nothing was refused so far, so the row is described by what came before.
        have hoffer : m.offer (m.run l) a = none ↔ ∃ b ∈ l.map what, clash b (what a) := by
          cases hrow : m.run l with
          | none =>
              have hnil := m.run_eq_none.1 hrow
              subst hnil
              simp [offer]
          | some r => exact h.refused (h.describes_run (mt ih.1 hclash) hrow)
        rw [or_iff_right hclash, hoffer]
        constructor
        · rintro ⟨b, hb, hba⟩
          exact ⟨b, List.mem_append_left _ hb, what a, by simp, hba⟩
        · rintro ⟨b, hb, c, hc, hbc⟩
          rw [List.mem_append, List.mem_singleton] at hb hc
          rcases hb with hb | rfl <;> rcases hc with hc | rfl
          · exact absurd ⟨b, hb, c, hc, hbc⟩ hclash
          · exact ⟨b, hb, hbc⟩
          · exact ⟨c, hc, h.symm hbc⟩
          · exact absurd hbc (h.irrefl _)

theorem refuses_redelivers (h : m.Summary what describes clash) (hl : Redelivers what l l') :
    m.Refuses l' ↔ m.Refuses l := by
  unfold Redelivers at hl
  simp only [h.refuses_iff, hl]

/-- Unless something is refused, the same deliveries make the same row. -/
theorem run_redelivers (h : m.Summary what describes clash) {same : ρ → ρ → Prop}
    (hsame : ∀ {r r'}, describes {b | b ∈ l.map what} r → describes {b | b ∈ l.map what} r' →
      same r r')
    (hl : Redelivers what l l') (hrefuses : ¬m.Refuses l) :
    Option.Rel same (m.run l) (m.run l') := by
  have hset : {b | b ∈ l'.map what} = {b | b ∈ l.map what} := Set.ext hl
  cases hrow : m.run l with
  | none =>
      have hnil := m.run_eq_none.1 hrow
      subst hnil
      have hnil' : l' = [] := List.map_eq_nil_iff.1 (List.eq_nil_iff_forall_not_mem.2 fun b hb =>
        List.not_mem_nil ((hl b).1 hb))
      rw [hnil']
      exact .none
  | some r =>
      have hl' : l' ≠ [] := by
        rintro rfl
        have hempty : l.map what = [] :=
          List.eq_nil_iff_forall_not_mem.2 fun b hb => List.not_mem_nil ((hl b).2 hb)
        rw [List.map_eq_nil_iff.1 hempty] at hrow
        cases hrow
      obtain ⟨r', hrow'⟩ := Option.ne_none_iff_exists'.1 (mt m.run_eq_none.1 hl')
      rw [hrow']
      have hr' := h.describes_run (mt (h.refuses_redelivers hl).1 hrefuses) hrow'
      rw [hset] at hr'
      exact .some (hsame (h.describes_run hrefuses hrow) hr')

end Summary

end Merger
