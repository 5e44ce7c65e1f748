import Mathlib.Order.Interval.Finset.Nat
import Turnstile.Services.RouterSoundness

/-!
# Fairness of the weighted order

The order is drawn in rounds.  A round selects one of the candidates that remain: each owns as
many of the draws below the total weight as it weighs (`selected_card`).  No round fails, and
after as many rounds as there are candidates every candidate was selected once.
-/

namespace Turnstile

open ModelRouterExecutionService

/-! ## The loop -/

/-- The variables of `_weighted_order` before a round. -/
structure WeightedState where
  roundIndex : ℕ
  remaining : List ModelRouterStrategyModel
  ordered : List ModelRouterStrategyModel

/-- What a round may raise. -/
inductive WeightedError where
  | zeroDivision
  | index
deriving DecidableEq, Repr

namespace WeightedState

/-- Before the first round. -/
def start (candidates : List ModelRouterStrategyModel) : WeightedState :=
  ⟨0, candidates.insertionSort fun a b => a.modelId ≤ b.modelId, []⟩

def totalWeight (s : WeightedState) : ℕ := (s.remaining.map (·.weight)).sum

/-- The index that a draw selects. -/
def selected (s : WeightedState) (draw : ℕ) : ℕ := selectedIndex draw 0 0 s.remaining

/-- The draw of the round. -/
def draw (hash : String → ℕ) (selectionKey : String) (s : WeightedState) : ℕ :=
  hash s!"{selectionKey}:{s.roundIndex}" % s.totalWeight

/-- The body of the loop. -/
def round (hash : String → ℕ) (selectionKey : String) (s : WeightedState) :
    Except WeightedError WeightedState :=
  if s.totalWeight = 0 then .error .zeroDivision
  else
    match s.remaining[s.selected (s.draw hash selectionKey)]? with
    | none => .error .index
    | some candidate =>
        .ok ⟨s.roundIndex + 1, s.remaining.eraseIdx (s.selected (s.draw hash selectionKey)),
          s.ordered ++ [candidate]⟩

/-- A round of the loop; the loop ends when no candidate remains. -/
def Step (hash : String → ℕ) (selectionKey : String) (s s' : WeightedState) : Prop :=
  s.remaining ≠ [] ∧ s.round hash selectionKey = .ok s'

abbrev Reaches (hash : String → ℕ) (selectionKey : String) : WeightedState → WeightedState → Prop :=
  Relation.ReflTransGen (Step hash selectionKey)

end WeightedState

/-! ## One draw -/

/-- The weight in front of a position. -/
def weightBefore (remaining : List ModelRouterStrategyModel) (i : ℕ) : ℕ :=
  ((remaining.take i).map (·.weight)).sum

theorem weightBefore_cons (candidate : ModelRouterStrategyModel)
    (rest : List ModelRouterStrategyModel) (i : ℕ) :
    weightBefore (candidate :: rest) (i + 1) = candidate.weight + weightBefore rest i := by
  rw [weightBefore, List.take_succ_cons, List.map_cons, List.sum_cons, weightBefore]

theorem weightBefore_succ {remaining : List ModelRouterStrategyModel} {i : ℕ}
    (hi : i < remaining.length) :
    weightBefore remaining (i + 1) = weightBefore remaining i + remaining[i].weight := by
  rw [weightBefore, List.take_add_one, List.getElem?_eq_getElem hi, List.map_append,
    List.sum_append, weightBefore]
  simp

theorem weightBefore_mono {remaining : List ModelRouterStrategyModel} {i j : ℕ} (h : i ≤ j) :
    weightBefore remaining i ≤ weightBefore remaining j := by
  obtain ⟨n, rfl⟩ := Nat.exists_eq_add_of_le h
  unfold weightBefore
  rw [List.take_add, List.map_append, List.sum_append]
  exact Nat.le_add_right _ _

theorem weightBefore_length (remaining : List ModelRouterStrategyModel) :
    weightBefore remaining remaining.length = (remaining.map (·.weight)).sum := by
  rw [weightBefore, List.take_length]

/-- A draw below the total weight lies in the interval of the candidate that it selects. -/
theorem selectedIndex_spec {remaining : List ModelRouterStrategyModel} {draw cumulative : ℕ}
    (index : ℕ) (hlow : cumulative ≤ draw)
    (hhigh : draw < cumulative + (remaining.map (·.weight)).sum) :
    ∃ i, ∃ hi : i < remaining.length,
      selectedIndex draw cumulative index remaining = index + i ∧
        cumulative + weightBefore remaining i ≤ draw ∧
          draw < cumulative + weightBefore remaining i + remaining[i].weight := by
  induction remaining generalizing cumulative index with
  | nil => exact absurd hhigh (by simpa using hlow)
  | cons candidate rest ih =>
      rw [selectedIndex]
      split
      next hlt => exact ⟨0, Nat.succ_pos _, rfl, hlow, hlt⟩
      next hge =>
        rw [List.map_cons, List.sum_cons] at hhigh
        have hlow' : cumulative + candidate.weight ≤ draw := by omega
        obtain ⟨i, hi, hselected, hlow', hhigh'⟩ := ih (index + 1) hlow' (by omega)
        refine ⟨i + 1, Nat.succ_lt_succ hi, by omega, ?_, ?_⟩
        · rw [weightBefore_cons]
          omega
        · rw [weightBefore_cons, List.getElem_cons_succ]
          omega

/-- A draw selects the candidate in whose interval it lies. -/
theorem selectedIndex_eq_iff {remaining : List ModelRouterStrategyModel} {draw i : ℕ}
    (hi : i < remaining.length) (hdraw : draw < (remaining.map (·.weight)).sum) :
    selectedIndex draw 0 0 remaining = i ↔
      weightBefore remaining i ≤ draw ∧ draw < weightBefore remaining i + remaining[i].weight := by
  obtain ⟨j, hj, hselected, hlow, hhigh⟩ :=
    selectedIndex_spec 0 (Nat.zero_le draw) (by rwa [Nat.zero_add])
  rw [Nat.zero_add] at hselected hlow hhigh
  rw [hselected]
  constructor
  · rintro rfl
    exact ⟨hlow, hhigh⟩
  · rintro ⟨hlow', hhigh'⟩
    rw [← weightBefore_succ hj] at hhigh
    rw [← weightBefore_succ hi] at hhigh'
    -- The intervals of two positions do not meet.
    rcases Nat.lt_trichotomy j i with h | h | h
    · have hbefore : weightBefore remaining (j + 1) ≤ weightBefore remaining i :=
        weightBefore_mono h
      omega
    · exact h
    · have hbefore : weightBefore remaining (i + 1) ≤ weightBefore remaining j :=
        weightBefore_mono h
      omega

/-- Of the draws below the total weight, as many select a candidate as it weighs. -/
theorem selected_card {remaining : List ModelRouterStrategyModel} {i : ℕ}
    (hi : i < remaining.length) :
    ((Finset.range (remaining.map (·.weight)).sum).filter fun draw =>
      selectedIndex draw 0 0 remaining = i).card = remaining[i].weight := by
  have hinterval : (Finset.range (remaining.map (·.weight)).sum).filter (fun draw =>
      selectedIndex draw 0 0 remaining = i) =
      Finset.Ico (weightBefore remaining i) (weightBefore remaining i + remaining[i].weight) := by
    ext draw
    rw [Finset.mem_filter, Finset.mem_range, Finset.mem_Ico]
    constructor
    · rintro ⟨hdraw, hselected⟩
      exact (selectedIndex_eq_iff hi hdraw).1 hselected
    · intro hmem
      have hend : weightBefore remaining (i + 1) ≤ weightBefore remaining remaining.length :=
        weightBefore_mono hi
      rw [weightBefore_succ hi, weightBefore_length] at hend
      have hdraw : draw < (remaining.map (·.weight)).sum := hmem.2.trans_le hend
      exact ⟨hdraw, (selectedIndex_eq_iff hi hdraw).2 hmem⟩
  rw [hinterval, Nat.card_Ico]
  omega

/-! ## The rounds -/

variable {hash : String → ℕ} {selectionKey : String}

theorem totalWeight_pos {s : WeightedState} (h : s.remaining ≠ []) : 0 < s.totalWeight := by
  unfold WeightedState.totalWeight
  cases hremaining : s.remaining with
  | nil => exact absurd hremaining h
  | cons candidate rest =>
      rw [List.map_cons, List.sum_cons]
      have := candidate.weight_pos
      omega

/-- A round selects one of the candidates that remain; no round fails. -/
theorem WeightedState.round_eq (hash : String → ℕ) (selectionKey : String) {s : WeightedState}
    (h : s.remaining ≠ []) :
    ∃ hlt : s.selected (s.draw hash selectionKey) < s.remaining.length,
      s.round hash selectionKey = .ok ⟨s.roundIndex + 1,
        s.remaining.eraseIdx (s.selected (s.draw hash selectionKey)),
        s.ordered ++ [s.remaining[s.selected (s.draw hash selectionKey)]]⟩ := by
  have hpos := totalWeight_pos h
  have hdraw : s.draw hash selectionKey < s.totalWeight := Nat.mod_lt _ hpos
  obtain ⟨i, hi, hselected, -, -⟩ := selectedIndex_spec 0 (Nat.zero_le (s.draw hash selectionKey))
    (hdraw.trans_eq (Nat.zero_add _).symm)
  have hlt : s.selected (s.draw hash selectionKey) < s.remaining.length := by
    unfold WeightedState.selected
    rw [hselected, Nat.zero_add]
    exact hi
  refine ⟨hlt, ?_⟩
  unfold WeightedState.round
  rw [if_neg (Nat.ne_of_gt hpos), List.getElem?_eq_getElem hlt]

/-- The loop ends with what the rounds select. -/
theorem WeightedState.reaches_end (hash : String → ℕ) (selectionKey : String) (s : WeightedState) :
    s.Reaches hash selectionKey ⟨s.roundIndex + s.remaining.length, [],
      s.ordered ++ weightedRounds hash selectionKey s.remaining.length s.roundIndex
        s.remaining⟩ := by
  generalize hfuel : s.remaining.length = fuel
  induction fuel generalizing s with
  | zero =>
      have hempty := List.length_eq_zero_iff.1 hfuel
      rw [weightedRounds, List.append_nil, Nat.add_zero, ← hempty]
  | succ fuel ih =>
      have hne : s.remaining ≠ [] := by
        intro hempty
        rw [hempty] at hfuel
        cases hfuel
      obtain ⟨hlt, hround⟩ := WeightedState.round_eq hash selectionKey hne
      have hrest := ih ⟨s.roundIndex + 1,
        s.remaining.eraseIdx (s.selected (s.draw hash selectionKey)),
        s.ordered ++ [s.remaining[s.selected (s.draw hash selectionKey)]]⟩
        (by dsimp only; rw [List.length_eraseIdx_of_lt hlt, hfuel, Nat.add_sub_cancel])
      refine .head ⟨hne, hround⟩ ?_
      rw [weightedRounds]
      have hselected : selectedIndex (hash s!"{selectionKey}:{s.roundIndex}" %
          (s.remaining.map (·.weight)).sum) 0 0 s.remaining
            = s.selected (s.draw hash selectionKey) := rfl
      rw [hselected, List.getElem?_eq_getElem hlt]
      rw [List.append_assoc, Nat.add_right_comm] at hrest
      exact hrest

/-- What remains is sorted, in every round. -/
theorem WeightedState.sorted_of_reaches {candidates : List ModelRouterStrategyModel}
    {s : WeightedState} (h : (start candidates).Reaches hash selectionKey s) :
    s.remaining.Pairwise fun a b => a.modelId ≤ b.modelId := by
  induction h with
  | refl => exact List.pairwise_insertionSort _ _
  | tail _ hstep ih =>
      obtain ⟨hne, hround⟩ := hstep
      obtain ⟨hlt, heq⟩ := WeightedState.round_eq hash selectionKey hne
      rw [heq] at hround
      cases hround
      exact ih.sublist (List.eraseIdx_sublist _ _)

/-- The order of candidates with distinct identifiers does not depend on how they are listed. -/
theorem weightedOrder_eq_of_perm {candidates other : List ModelRouterStrategyModel}
    (hperm : other.Perm candidates) (hids : (candidates.map (·.modelId)).Nodup) :
    weightedOrder hash other selectionKey = weightedOrder hash candidates selectionKey := by
  have hsort : other.insertionSort (fun a b => a.modelId ≤ b.modelId)
      = candidates.insertionSort (fun a b => a.modelId ≤ b.modelId) := by
    refine List.Perm.eq_of_pairwise (fun a b ha hb hab hba => ?_)
      (List.pairwise_insertionSort _ _) (List.pairwise_insertionSort _ _)
      ((List.perm_insertionSort _ _).trans (hperm.trans (List.perm_insertionSort _ _).symm))
    have ha' := hperm.mem_iff.1 ((List.perm_insertionSort _ _).mem_iff.1 ha)
    have hb' := (List.perm_insertionSort _ _).mem_iff.1 hb
    exact List.inj_on_of_nodup_map hids ha' hb' (Nat.le_antisymm hab hba)
  rw [weightedOrder, weightedOrder, hsort, hperm.length_eq]

/-- The weighted order is a fair permutation: the loop ends in it without an error; it does
not depend on how candidates with distinct identifiers are listed; and in every round, of the
draws below the total weight exactly the weight of a candidate select it. -/
theorem weighted_order_fair (hash : String → ℕ) (selectionKey : String)
    (candidates : List ModelRouterStrategyModel) :
    ((WeightedState.start candidates).Reaches hash selectionKey
        ⟨candidates.length, [], weightedOrder hash candidates selectionKey⟩ ∧
      (weightedOrder hash candidates selectionKey).Perm candidates) ∧
    (∀ other : List ModelRouterStrategyModel, other.Perm candidates →
      (candidates.map (·.modelId)).Nodup →
        weightedOrder hash other selectionKey = weightedOrder hash candidates selectionKey) ∧
    ∀ s, (WeightedState.start candidates).Reaches hash selectionKey s → s.remaining ≠ [] →
      (s.remaining.Pairwise fun a b => a.modelId ≤ b.modelId) ∧
      (∃ hlt : s.selected (s.draw hash selectionKey) < s.remaining.length,
        s.round hash selectionKey = .ok ⟨s.roundIndex + 1,
          s.remaining.eraseIdx (s.selected (s.draw hash selectionKey)),
          s.ordered ++ [s.remaining[s.selected (s.draw hash selectionKey)]]⟩) ∧
      ∀ i, ∀ hi : i < s.remaining.length,
        ((Finset.range s.totalWeight).filter fun draw => s.selected draw = i).card
          = s.remaining[i].weight := by
  refine ⟨⟨?_, ?_⟩, fun other hperm hids => weightedOrder_eq_of_perm hperm hids,
    fun s hs hne => ⟨s.sorted_of_reaches hs, WeightedState.round_eq hash selectionKey hne,
      fun i hi => selected_card hi⟩⟩
  · have hend := (WeightedState.start candidates).reaches_end hash selectionKey
    have hlength : (WeightedState.start candidates).remaining.length = candidates.length :=
      List.length_insertionSort _ _
    rw [hlength] at hend
    simpa [WeightedState.start, weightedOrder] using hend
  · exact (weightedRounds_perm (List.length_insertionSort _ _)).trans (List.perm_insertionSort _ _)

/-! ## Three weights -/

namespace Sample

/-- A candidate without goals, of the weight `spare + 1`. -/
def weightedModel (modelId : UUID) (spare : ℕ) : ModelRouterStrategyModel :=
  ⟨modelId, 1, spare + 1, none, none, "", Nat.succ_pos spare⟩

def weightedModels : List ModelRouterStrategyModel :=
  [weightedModel 2 0, weightedModel 1 4, weightedModel 3 1]

/-- The hash is 6 in the first round and 5 in the others. -/
def roundHash (text : String) : ℕ := if text = "chat:0" then 6 else 5

def firstRound : WeightedState := .start weightedModels

/-- What the first round leaves. -/
def secondRound : WeightedState :=
  ⟨1, [weightedModel 1 4, weightedModel 2 0], [weightedModel 3 1]⟩

end Sample

/-- Of 8 draws the candidates own 5, 1 and 2, and the draw 6 selects the third of them; then the
others own 5 and 1 of 6 draws, and the draw 5 selects the second. -/
theorem weighted_order_fair_sample :
    (weightedOrder Sample.roundHash Sample.weightedModels "chat").map (·.modelId) = [3, 2, 1] ∧
    weightedOrder Sample.roundHash Sample.weightedModels.reverse "chat" =
      weightedOrder Sample.roundHash Sample.weightedModels "chat" ∧
    ((Finset.range 8).filter fun draw => Sample.firstRound.selected draw = 0).card = 5 ∧
    ((Finset.range 8).filter fun draw => Sample.firstRound.selected draw = 1).card = 1 ∧
    ((Finset.range 8).filter fun draw => Sample.firstRound.selected draw = 2).card = 2 ∧
    Sample.firstRound.Reaches Sample.roundHash "chat" Sample.secondRound ∧
    ((Finset.range 6).filter fun draw => Sample.secondRound.selected draw = 0).card = 5 ∧
    ((Finset.range 6).filter fun draw => Sample.secondRound.selected draw = 1).card = 1 := by
  obtain ⟨-, hperm, hrounds⟩ :=
    weighted_order_fair Sample.roundHash "chat" Sample.weightedModels
  have hfirst : Sample.firstRound.Reaches Sample.roundHash "chat" Sample.secondRound :=
    .single ⟨by decide, rfl⟩
  obtain ⟨-, -, hstart⟩ := hrounds _ .refl (by decide)
  obtain ⟨-, -, hthen⟩ := hrounds _ hfirst (by decide)
  exact ⟨rfl, hperm _ (List.reverse_perm _) (by decide),
    hstart 0 (by decide), hstart 1 (by decide), hstart 2 (by decide), hfirst,
    hthen 0 (by decide), hthen 1 (by decide)⟩

end Turnstile
