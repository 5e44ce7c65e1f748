import Mathlib.Algebra.Order.BigOperators.Group.List
import Mathlib.Algebra.Order.Group.Nat
import Mathlib.Algebra.Ring.Nat
import Mathlib.Data.List.Nodup
import Mathlib.Logic.Relation
import Mathlib.Tactic.Common

/-!
# Searching a graph

A graph is a function from a node to its successors.  A search keeps a list of pending
nodes and visits each node once (`search`); it finds what can be reached (`mem_reach`).

A depth-first search that meets no node it is still visiting leaves an order in which
every node comes before its successors (`Ordered`, `order_ordered`).
-/

namespace Graph

variable {α : Type*}

/-! ## Work lists -/

/-- New work is added, wherever. -/
structure Pushes (push : List α → List α → List α) : Prop where
  mem : ∀ {pending new : List α} {a : α}, a ∈ push pending new ↔ a ∈ pending ∨ a ∈ new
  length : ∀ {pending new : List α}, (push pending new).length = pending.length + new.length

/-- A queue. -/
theorem pushes_append : Pushes (α := α) (· ++ ·) :=
  ⟨List.mem_append, List.length_append⟩

variable [DecidableEq α] {successors : α → List α}

/-- A search with a list of pending nodes: `push` adds the successors of a node that is
visited, and nodes that are not known are passed over. -/
def search (successors : α → List α) (known : α → Bool) (push : List α → List α → List α) :
    ℕ → List α → List α → List α
  | 0, _, visited => visited
  | _ + 1, [], visited => visited
  | fuel + 1, a :: pending, visited =>
      if a ∈ visited ∨ known a = false then search successors known push fuel pending visited
      else search successors known push fuel (push pending (successors a)) (visited ++ [a])

/-- The search of all that can be reached, over the nodes of a graph. -/
def reach (successors : α → List α) (known : α → Bool) (push : List α → List α → List α)
    (nodes start : List α) : List α :=
  search successors known push (start.length + (nodes.map fun a => (successors a).length).sum)
    start []

/-- An edge to a known node. -/
def Edge (successors : α → List α) (known : α → Bool) (a b : α) : Prop :=
  b ∈ successors a ∧ known b = true

section

variable {known : α → Bool} {push : List α → List α → List α} {nodes start pending visited : List α}
  {a b : α} {fuel : ℕ}

/-- The edges out of the nodes that are not visited yet. -/
def remaining (successors : α → List α) (nodes visited : List α) : ℕ :=
  ((nodes.filter fun a => a ∉ visited).map fun a => (successors a).length).sum

theorem remaining_visit (ha : a ∈ nodes) (hnew : a ∉ visited) :
    remaining successors nodes (visited ++ [a]) + (successors a).length ≤
      remaining successors nodes visited := by
  have hrest : nodes.filter (fun b => b ∉ visited ++ [a]) =
      (nodes.filter fun b => b ∉ visited).filter fun b => b ≠ a := by
    rw [List.filter_filter]
    refine List.filter_congr fun b _ => ?_
    simp [not_or, and_comm]
  have hsum := ((List.filter_append_perm (fun b => decide (b ≠ a))
    (nodes.filter fun b => b ∉ visited)).map fun b => (successors b).length).sum_eq
  rw [List.map_append, List.sum_append] at hsum
  have hle : (successors a).length ≤ (((nodes.filter fun b => b ∉ visited).filter
      fun b => !decide (b ≠ a)).map fun b => (successors b).length).sum := by
    refine List.single_le_sum (fun _ _ => Nat.zero_le _) _ (List.mem_map.2 ⟨a, ?_, rfl⟩)
    simp [ha, hnew]
  rw [remaining, remaining, hrest, ← hsum]
  exact Nat.add_le_add_left hle _

/-- The search keeps what is visited, visits what is pending, and goes on to what
follows. -/
theorem search_closed (hpush : Pushes push) (hnodes : ∀ a, known a = true → a ∈ nodes)
    (hfuel : pending.length + remaining successors nodes visited ≤ fuel)
    (hopen : ∀ a ∈ visited, ∀ b, Edge successors known a b → b ∈ visited ∨ b ∈ pending) :
    (∀ a ∈ visited, a ∈ search successors known push fuel pending visited) ∧
    (∀ a ∈ pending, known a = true → a ∈ search successors known push fuel pending visited) ∧
    ∀ a ∈ search successors known push fuel pending visited, ∀ b, Edge successors known a b →
      b ∈ search successors known push fuel pending visited := by
  induction fuel generalizing pending visited with
  | zero =>
      obtain rfl : pending = [] := List.length_eq_zero_iff.1 (by omega)
      refine ⟨fun a ha => ha, fun a ha => absurd ha List.not_mem_nil, fun a ha b hb => ?_⟩
      exact (hopen a ha b hb).resolve_right List.not_mem_nil
  | succ fuel ih =>
      cases pending with
      | nil =>
          refine ⟨fun a ha => ha, fun a ha => absurd ha List.not_mem_nil, fun a ha b hb => ?_⟩
          exact (hopen a ha b hb).resolve_right List.not_mem_nil
      | cons a pending =>
          rw [search]
          rw [List.length_cons] at hfuel
          split
          next hskip =>
            have hvisited : ∀ b, known b = true → b = a → b ∈ visited := by
              rintro b hb rfl
              exact hskip.resolve_right (by simp [hb])
            obtain ⟨hkeep, hpending, hclosed⟩ := ih (by omega) fun c hc b hb =>
              (hopen c hc b hb).elim Or.inl fun hmem =>
                (List.mem_cons.1 hmem).elim (fun h => Or.inl (hvisited b hb.2 h)) Or.inr
            refine ⟨hkeep, fun b hb hknown => ?_, hclosed⟩
            rcases List.mem_cons.1 hb with h | hb
            · exact hkeep b (hvisited b hknown h)
            · exact hpending b hb hknown
          next hnew =>
            rw [not_or, Bool.not_eq_false] at hnew
            have hdrop : remaining successors nodes (visited ++ [a]) + (successors a).length ≤
                remaining successors nodes visited := remaining_visit (hnodes a hnew.2) hnew.1
            have hlength : (push pending (successors a)).length +
                remaining successors nodes (visited ++ [a]) ≤ fuel := by
              rw [hpush.length]
              omega
            obtain ⟨hkeep, hpending, hclosed⟩ := ih hlength fun c hc b hb => by
              rcases List.mem_append.1 hc with hc | hc
              · rcases hopen c hc b hb with hmem | hmem
                · exact Or.inl (List.mem_append_left _ hmem)
                · rcases List.mem_cons.1 hmem with rfl | hmem
                  · exact Or.inl (List.mem_append_right _ (List.mem_singleton_self _))
                  · exact Or.inr (hpush.mem.2 (Or.inl hmem))
              · rw [List.mem_singleton.1 hc] at hb
                exact Or.inr (hpush.mem.2 (Or.inr hb.1))
            refine ⟨fun b hb => hkeep b (List.mem_append_left _ hb), fun b hb hknown => ?_, hclosed⟩
            rcases List.mem_cons.1 hb with rfl | hb
            · exact hkeep b (List.mem_append_right _ (List.mem_singleton_self _))
            · exact hpending b (hpush.mem.2 (Or.inl hb)) hknown

/-- The search visits only what can be reached. -/
theorem search_sound (hpush : Pushes push)
    (h : b ∈ search successors known push fuel pending visited) :
    b ∈ visited ∨ ∃ a ∈ pending, known a = true ∧
      Relation.ReflTransGen (Edge successors known) a b := by
  induction fuel generalizing pending visited with
  | zero => exact Or.inl h
  | succ fuel ih =>
      cases pending with
      | nil => exact Or.inl h
      | cons a pending =>
          rw [search] at h
          split at h
          next =>
            refine (ih h).imp_right fun ⟨c, hc, hreach⟩ => ?_
            exact ⟨c, List.mem_cons_of_mem _ hc, hreach⟩
          next hnew =>
            rw [not_or, Bool.not_eq_false] at hnew
            rcases ih h with hmem | ⟨c, hc, hknown, hreach⟩
            · rcases List.mem_append.1 hmem with hmem | hmem
              · exact Or.inl hmem
              · rw [List.mem_singleton.1 hmem]
                exact Or.inr ⟨a, List.mem_cons_self .., hnew.2, .refl⟩
            · rcases hpush.mem.1 hc with hc | hc
              · exact Or.inr ⟨c, List.mem_cons_of_mem _ hc, hknown, hreach⟩
              · exact Or.inr ⟨a, List.mem_cons_self .., hnew.2, hreach.head ⟨hc, hknown⟩⟩

/-- The search visits a node once. -/
theorem search_nodup (h : visited.Nodup) :
    (search successors known push fuel pending visited).Nodup := by
  induction fuel generalizing pending visited with
  | zero => exact h
  | succ fuel ih =>
      cases pending with
      | nil => exact h
      | cons a pending =>
          rw [search]
          split
          next => exact ih h
          next hnew =>
            rw [not_or] at hnew
            exact ih (h.append (List.nodup_singleton a) (List.disjoint_singleton.2 hnew.1))

theorem reach_nodup : (reach successors known push nodes start).Nodup :=
  search_nodup List.nodup_nil

/-- The search finds what can be reached. -/
theorem mem_reach (hpush : Pushes push) (hnodes : ∀ a, known a = true → a ∈ nodes) :
    b ∈ reach successors known push nodes start ↔
      ∃ a ∈ start, known a = true ∧ Relation.ReflTransGen (Edge successors known) a b := by
  constructor
  · intro h
    exact (search_sound hpush h).resolve_left List.not_mem_nil
  · rintro ⟨a, ha, hknown, hreach⟩
    have hfuel : start.length + remaining successors nodes [] ≤
        start.length + (nodes.map fun a => (successors a).length).sum := by
      simp [remaining]
    obtain ⟨-, hstart, hclosed⟩ := search_closed hpush hnodes hfuel
      fun a ha => absurd ha List.not_mem_nil
    induction hreach with
    | refl => exact hstart a ha hknown
    | tail _ hedge ih => exact hclosed _ ih _ hedge

end

/-! ## Depth first -/

/-- A visit of a node and of all that follows: none when it meets a node it is still
visiting, and else the nodes whose visit has ended, the last one first. -/
def visit (successors : α → List α) : ℕ → List α → α → List α → Option (List α)
  | 0, _, _, _ => none
  | fuel + 1, visiting, a, visited =>
      if a ∈ visiting then none
      else if a ∈ visited then some visited
      else do
        let visited ← (successors a).foldlM
          (fun visited b => visit successors fuel (a :: visiting) b visited) visited
        pure (a :: visited)

/-- The visits of all nodes. -/
def order (successors : α → List α) (nodes : List α) : Option (List α) :=
  nodes.foldlM (fun visited a => visit successors (nodes.length + 1) [] a visited) []

/-- Every node comes before its successors. -/
inductive Ordered (successors : α → List α) : List α → Prop
  | nil : Ordered successors []
  | cons {a : α} {l : List α} (new : a ∉ l) (before : ∀ b ∈ successors a, b ∈ l)
      (rest : Ordered successors l) : Ordered successors (a :: l)

section

variable {nodes visiting visited visited' l : List α} {a b : α} {fuel : ℕ}

omit [DecidableEq α] in
theorem Ordered.nodup (h : Ordered successors l) : l.Nodup := by
  induction h with
  | nil => exact List.nodup_nil
  | cons new _ _ ih => exact List.nodup_cons.2 ⟨new, ih⟩

omit [DecidableEq α] in
/-- The order of a part that the edges do not leave. -/
theorem Ordered.filter {p : α → Bool} (hclosed : ∀ a, p a = true → ∀ b ∈ successors a, p b = true)
    (h : Ordered successors l) : Ordered successors (l.filter p) := by
  induction h with
  | nil => exact .nil
  | @cons a l new before _ ih =>
      rw [List.filter_cons]
      split
      next ha =>
        refine .cons (fun hmem => new (List.mem_of_mem_filter hmem)) (fun b hb => ?_) ih
        exact List.mem_filter.2 ⟨before b hb, hclosed a ha b hb⟩
      next => exact ih

/-- What a visit leaves. -/
structure Visited (successors : α → List α) (visiting visited visited' : List α) : Prop where
  ordered : Ordered successors visited'
  kept : ∀ a ∈ visited, a ∈ visited'
  /-- The visits that go on are not among those that have ended. -/
  open_ : ∀ a ∈ visiting, a ∈ visited' → a ∈ visited

omit [DecidableEq α] in
theorem visit_list {visitOne : α → List α → Option (List α)}
    (hone : ∀ a visited visited', Ordered successors visited → visitOne a visited = some visited' →
      Visited successors visiting visited visited' ∧ a ∈ visited')
    (hordered : Ordered successors visited)
    (h : l.foldlM (fun visited b => visitOne b visited) visited = some visited') :
    Visited successors visiting visited visited' ∧ ∀ b ∈ l, b ∈ visited' := by
  induction l generalizing visited with
  | nil =>
      obtain rfl := Option.some.inj h
      exact ⟨⟨hordered, fun a ha => ha, fun a _ ha => ha⟩, fun b hb => absurd hb List.not_mem_nil⟩
  | cons b l ih =>
      rw [List.foldlM_cons] at h
      obtain ⟨middle, hmiddle, h⟩ := Option.bind_eq_some_iff.1 h
      obtain ⟨hfirst, hb⟩ := hone b visited middle hordered hmiddle
      obtain ⟨hrest, hl⟩ := ih hfirst.ordered h
      refine ⟨⟨hrest.ordered, fun a ha => hrest.kept a (hfirst.kept a ha), fun a ha hmem =>
        hfirst.open_ a ha (hrest.open_ a ha hmem)⟩, fun c hc => ?_⟩
      rcases List.mem_cons.1 hc with rfl | hc
      · exact hrest.kept c hb
      · exact hl c hc

theorem visit_visited (hordered : Ordered successors visited)
    (h : visit successors fuel visiting a visited = some visited') :
    Visited successors visiting visited visited' ∧ a ∈ visited' := by
  induction fuel generalizing visiting a visited visited' with
  | zero => cases h
  | succ fuel ih =>
      rw [visit] at h
      split at h
      next => cases h
      next hopen =>
        split at h
        next hmem =>
          obtain rfl := Option.some.inj h
          exact ⟨⟨hordered, fun b hb => hb, fun b _ hb => hb⟩, hmem⟩
        next hnew =>
          obtain ⟨middle, hmiddle, h⟩ := Option.bind_eq_some_iff.1 h
          obtain rfl := Option.some.inj h
          obtain ⟨hvisited, hsuccessors⟩ := visit_list (fun b v v' hv hb => ih hv hb) hordered
            hmiddle
          have hnew' : a ∉ middle := fun hmem =>
            hnew (hvisited.open_ a (List.mem_cons_self ..) hmem)
          refine ⟨⟨.cons hnew' hsuccessors hvisited.ordered,
            fun b hb => List.mem_cons_of_mem _ (hvisited.kept b hb), fun b hb hmem => ?_⟩,
            List.mem_cons_self ..⟩
          rcases List.mem_cons.1 hmem with rfl | hmem
          · exact absurd hb hopen
          · exact hvisited.open_ b (List.mem_cons_of_mem _ hb) hmem

/-- The visits leave an order of all nodes. -/
theorem order_ordered (h : order successors nodes = some l) :
    Ordered successors l ∧ ∀ a ∈ nodes, a ∈ l := by
  have hvisits : Visited successors [] [] l ∧ ∀ a ∈ nodes, a ∈ l :=
    visit_list (fun a v v' hv ha => visit_visited hv ha) .nil h
  obtain ⟨hvisited, hnodes⟩ := hvisits
  exact ⟨hvisited.ordered, hnodes⟩

end

end Graph
