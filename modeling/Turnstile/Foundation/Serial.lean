import Turnstile.Foundation.Program

/-!
# Serial histories

An `effect` says how a state changes under an event.  A history is a list of
events that take effect one after the other.

Events are of calls, and a call that took effect may be absorbed: it can never take
effect again, whatever else happens.  `Absorbing` collects what has to be shown of
single effects for that, and then no call takes effect twice (`Absorbing.nodup`).

Clients of a table keep to the `serial` protocol when every batch they commit is
an effect on the state that the table reflects.  The log of a reachable world is
then a history, so the interleaving is equivalent to a serial execution in the
order of the commits.
-/

/-- The events of the list take effect one after the other. -/
inductive History {σ α : Type} (effect : σ → α → σ → Prop) (s₀ : σ) : List α → σ → Prop where
  | nil : History effect s₀ [] s₀
  | snoc {log : List α} {s s' : σ} {a : α} : History effect s₀ log s → effect s a s' →
      History effect s₀ (log ++ [a]) s'

namespace History

variable {σ α : Type} {effect : σ → α → σ → Prop} {s₀ s : σ} {log : List α}

/-- What every effect keeps holds at the end. -/
theorem keeps {inv : σ → Prop} (hstep : ∀ s a s', inv s → effect s a s' → inv s') (h₀ : inv s₀)
    (h : History effect s₀ log s) : inv s := by
  induction h with
  | nil => exact h₀
  | snoc _ heffect ih => exact hstep _ _ _ ih heffect

/-- A quantity that every effect increases by one counts the events. -/
theorem count {f : σ → Int} (hstep : ∀ s a s', effect s a s' → f s' = f s + 1)
    (h : History effect s₀ log s) : f s = f s₀ + log.length := by
  induction h with
  | nil => simp
  | snoc _ heffect ih =>
      rw [hstep _ _ _ heffect, ih, List.length_append, List.length_singleton]
      push_cast
      omega

/-- The event at the end of a prefix took effect on what the events before it led
to. -/
theorem effect_of_prefix {before : List α} {a : α} (h : History effect s₀ log s)
    (hbefore : before ++ [a] <+: log) : ∃ s₁ s₂, History effect s₀ before s₁ ∧ effect s₁ a s₂ := by
  induction h with
  | nil =>
      have := List.prefix_nil.1 hbefore
      simp at this
  | snoc hhistory heffect ih =>
      rcases List.prefix_concat_iff.1 hbefore with heq | hshorter
      · obtain ⟨rfl, hlast⟩ := List.append_inj' heq rfl
        cases hlast
        exact ⟨_, _, hhistory, heffect⟩
      · exact ih hshorter

end History

/-- A call that took effect, in whatever event, is absorbed and stays so; an
absorbed call has no effect. -/
structure Absorbing {σ α β : Type} (inv : σ → Prop) (effect : σ → α → σ → Prop) (call : α → β)
    (absorbed : β → σ → Prop) : Prop where
  keeps : ∀ s a s', inv s → effect s a s' → inv s'
  ineffective : ∀ s a s', inv s → absorbed (call a) s → ¬effect s a s'
  absorbs : ∀ s a s', inv s → effect s a s' → absorbed (call a) s'
  stays : ∀ s b a s', inv s → absorbed b s → effect s a s' → absorbed b s'

namespace Absorbing

variable {σ α β : Type} {inv : σ → Prop} {effect : σ → α → σ → Prop} {call : α → β}
  {absorbed : β → σ → Prop} {s₀ s : σ} {log : List α}

/-- Every call of a history is absorbed at its end. -/
theorem absorbed_of_mem (h : Absorbing inv effect call absorbed) (h₀ : inv s₀)
    (hhistory : History effect s₀ log s) : ∀ a ∈ log, absorbed (call a) s := by
  induction hhistory with
  | nil => exact fun a ha => absurd ha List.not_mem_nil
  | snoc hhistory heffect ih =>
      intro a ha
      have hinv := hhistory.keeps h.keeps h₀
      rcases List.mem_append.1 ha with ha | ha
      · exact h.stays _ _ _ _ hinv (ih a ha) heffect
      · rw [List.mem_singleton.1 ha]
        exact h.absorbs _ _ _ hinv heffect

/-- No call takes effect twice in a history. -/
theorem nodup (h : Absorbing inv effect call absorbed) (h₀ : inv s₀)
    (hhistory : History effect s₀ log s) : (log.map call).Nodup := by
  induction hhistory with
  | nil => exact List.nodup_nil
  | @snoc log s s' a hhistory heffect ih =>
      rw [List.map_append, List.map_singleton, List.nodup_append]
      refine ⟨ih, List.pairwise_singleton _ _, fun b hb c hc hbc => ?_⟩
      obtain ⟨a', ha', rfl⟩ := List.mem_map.1 hb
      rw [List.mem_singleton.1 hc] at hbc
      refine h.ineffective _ _ _ (hhistory.keeps h.keeps h₀) ?_ heffect
      rw [← hbc]
      exact h.absorbed_of_mem h₀ hhistory a' ha'

end Absorbing

/-! ## Clients whose commits are effects -/

section Serial

variable {ι κ δ σ : Type} [DecidableEq ι]

/-- What client `i` committed. -/
def World.own (i : ι) (w : World ι κ δ) : List (Commit ι κ δ) :=
  w.log.filter fun c => c.client = i

theorem World.mem_own {i : ι} {w : World ι κ δ} {c : Commit ι κ δ} :
    c ∈ w.own i ↔ c ∈ w.log ∧ c.client = i := by
  simp [World.own]

/-- The table reflects the state that the log, as a history, leads to.  The others
change no row without a new tag, and commit nothing for client `i`. -/
def serial (reflects : Table κ δ → σ → Prop) (effect : σ → Commit ι κ δ → σ → Prop) (s₀ : σ) :
    Protocol ι κ δ where
  inv w := w.table.WellTagged ∧ ∃ s, reflects w.table s ∧ History effect s₀ w.log s
  rely i w w' := w.table.Evolves w'.table ∧ w.log <+: w'.log ∧ w'.own i = w.own i
  refl _ _ := ⟨.refl _, List.prefix_refl _, rfl⟩
  trans _ _ _ _ h₁ h₂ := ⟨h₁.1.trans h₂.1, h₁.2.1.trans h₂.2.1, h₂.2.2.trans h₁.2.2⟩

variable {reflects : Table κ δ → σ → Prop} {effect : σ → Commit ι κ δ → σ → Prop} {s₀ : σ}

/-- A commit that is an effect on the reflected state is allowed. -/
theorem serial_allows [DecidableEq κ] {w : World ι κ δ} {s s' : σ} {c : Commit ι κ δ}
    (htagged : w.table.WellTagged) (hhistory : History effect s₀ w.log s)
    (heffect : effect s c s') (hreflects : reflects (w.table.apply c.batch) s') :
    (serial reflects effect s₀).Allows c.client w (w.commit c) := by
  refine ⟨⟨htagged.apply _, s', hreflects, hhistory.snoc heffect⟩, fun j hj => ?_⟩
  refine ⟨Table.evolves_apply _ _, List.prefix_append _ _, ?_⟩
  have hother : c.client ≠ j := fun h => hj h.symm
  simp [World.own, List.filter_append, hother]

end Serial
