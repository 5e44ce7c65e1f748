import Turnstile.Domain.RouterUpgradeLaws

/-!
# Timeouts, and the whole upgrade

The fallbacks hand their timeouts to the strategies in front of them.  After that no fallback
has one that it could hand over, so a second upgrade changes nothing
(`upgrade_keeps_iff`).
-/

namespace Turnstile

open Guard

namespace RouterUpgrade

variable {F : Type} {python : PythonJson F} {nodes nodes' edges : List (Value F)} {i j n : ℕ}

/-! ## Rounds of the second half -/

/-- A fallback with a timeout, and the strategies in front of it. -/
structure FallbackAt (python : PythonJson F) (edges nodes : List (Value F)) (i : ℕ)
    (found : List ℕ) : Prop where
  type : fieldAt nodes i "type" = .text "fallback"
  present : (fieldAt nodes i "timeout_ms").present = true
  owners : owners python (nodes.map shapeOf) (fieldAt nodes i "id") edges = .ok found

/-- A node has no timeout to hand over. -/
def Settled (python : PythonJson F) (edges nodes : List (Value F)) (i : ℕ) : Prop :=
  fieldAt nodes i "type" ≠ .text "fallback" ∨ (fieldAt nodes i "timeout_ms").present = false ∨
    owners python (nodes.map shapeOf) (fieldAt nodes i "id") edges = .ok []

/-- A round passes over a node without a timeout to hand over. -/
theorem moveTimeout_of_settled (h : Settled python edges nodes i) :
    moveTimeout python edges nodes i = .ok nodes := by
  unfold moveTimeout
  split
  next fallback hnode =>
    split
    next htype hpresent =>
      rcases h with h | h | h
      · rw [fieldAt_of_object hnode] at h
        exact absurd htype h
      · rw [fieldAt_of_object hnode, hpresent] at h
        cases h
      · rw [fieldAt_of_object hnode] at h
        rw [h]
        rfl
    next => rfl
  next => rfl

/-- Some strategies without a timeout are given one. -/
structure TimeoutGiven (timeout : Value F) (found : List ℕ) (nodes nodes' : List (Value F)) :
    Prop where
  alike : Alike nodes nodes'
  other : ∀ j key, key ≠ "timeout_ms" → fieldAt nodes' j key = fieldAt nodes j key
  same : ∀ j, j ∉ found → nodes'[j]? = nodes[j]?
  kept : ∀ j, (fieldAt nodes j "timeout_ms").present = true →
    fieldAt nodes' j "timeout_ms" = fieldAt nodes j "timeout_ms"
  given : ∀ j ∈ found, IsDictAt nodes j → (fieldAt nodes j "timeout_ms").present = false →
    fieldAt nodes' j "timeout_ms" = timeout

theorem timeoutGiven_one {timeout : Value F} (nodes : List (Value F)) (j : ℕ) :
    TimeoutGiven timeout [j] nodes (giveTimeout timeout nodes j) := by
  unfold giveTimeout
  split
  next strategy hnode =>
    split
    next hpresent =>
      refine ⟨.refl _, fun _ _ _ => rfl, fun _ _ => rfl, fun _ _ => rfl, fun j' hj' _ habsent => ?_⟩
      obtain rfl := List.mem_singleton.1 hj'
      rw [fieldAt_of_object hnode, hpresent] at habsent
      cases habsent
    next habsent =>
      have hwrites : Writes nodes j "timeout_ms" timeout (nodes.set j (.object _)) :=
        writes_set hnode
      refine ⟨hwrites.alike (by decide) (by decide), fun j' key hkey =>
        hwrites.other j' key (.inr hkey),
        fun j' hj' => ?_, fun j' hpresent => ?_, fun j' hj' _ _ => ?_⟩
      · exact List.getElem?_set_ne fun heq => hj' (List.mem_singleton.2 heq.symm)
      · refine hwrites.other j' _ (.inl ?_)
        rintro rfl
        rw [fieldAt_of_object hnode] at hpresent
        exact habsent hpresent
      · obtain rfl := List.mem_singleton.1 hj'
        exact hwrites.written
  next hnode =>
    refine ⟨.refl _, fun _ _ _ => rfl, fun _ _ => rfl, fun _ _ => rfl, fun j' hj' hdict _ => ?_⟩
    obtain rfl := List.mem_singleton.1 hj'
    obtain ⟨fields, hfields⟩ := hdict
    exact absurd hfields (hnode fields)

theorem TimeoutGiven.trans {timeout : Value F} {found : List ℕ} {middle : List (Value F)}
    (hpresent : timeout.present = true) (h : TimeoutGiven timeout [j] nodes middle)
    (h' : TimeoutGiven timeout found middle nodes') :
    TimeoutGiven timeout (j :: found) nodes nodes' where
  alike := h.alike.trans h'.alike
  other j' key hkey := (h'.other j' key hkey).trans (h.other j' key hkey)
  same j' hj' := by
    rw [List.mem_cons, not_or] at hj'
    rw [h'.same j' hj'.2, h.same j' (by simpa using hj'.1)]
  kept j' hkept := by
    have hmiddle := h.kept j' hkept
    rw [h'.kept j' (by rw [hmiddle]; exact hkept), hmiddle]
  given j' hj' hdict habsent := by
    by_cases heq : j' = j
    · subst heq
      have hmiddle := h.given j' (List.mem_singleton_self j') hdict habsent
      rw [h'.kept j' (by rw [hmiddle]; exact hpresent), hmiddle]
    · have hmem : j' ∈ found := (List.mem_cons.1 hj').resolve_left heq
      have hsame := h.same j' (by simpa using heq)
      refine h'.given j' hmem ((h.alike.dict j').2 hdict) ?_
      unfold fieldAt at habsent ⊢
      rw [hsame]
      exact habsent

theorem timeoutGiven_foldl {timeout : Value F} (hpresent : timeout.present = true)
    (found : List ℕ) (nodes : List (Value F)) :
    TimeoutGiven timeout found nodes (found.foldl (giveTimeout timeout) nodes) := by
  induction found generalizing nodes with
  | nil => exact ⟨.refl _, fun _ _ _ => rfl, fun _ _ => rfl, fun _ _ => rfl, fun _ h => by cases h⟩
  | cons j found ih => exact (timeoutGiven_one nodes j).trans hpresent (ih _)

theorem moveTimeout_eq (h : moveTimeout python edges nodes i = .ok nodes') :
    (Settled python edges nodes i ∧ nodes' = nodes) ∨
      ∃ found middle, FallbackAt python edges nodes i found ∧
        TimeoutGiven (fieldAt nodes i "timeout_ms") found nodes middle ∧
          Writes middle i "timeout_ms" .null nodes' := by
  unfold moveTimeout at h
  split at h
  next fallback hnode =>
    split at h
    next htype hpresent =>
      obtain ⟨found, hfound, h⟩ := bind_eq_ok.1 h
      rw [← fieldAt_of_object hnode] at htype hpresent hfound
      split at h
      next hempty =>
        refine .inl ⟨.inr (.inr ?_), (Except.ok.inj h).symm⟩
        rw [hfound, hempty]
      next =>
        obtain rfl := Except.ok.inj h
        refine .inr ⟨found, _, ⟨htype, hpresent, hfound⟩, ?_, writes_set ?_⟩
        · rw [← fieldAt_of_object hnode]
          exact timeoutGiven_foldl hpresent found nodes
        · have hself : i ∉ found := fun hmem =>
            strategy_ne (by decide) (by decide) (isStrategyAt_of_owners hfound hmem) htype rfl
          rw [(timeoutGiven_foldl (by rwa [← fieldAt_of_object hnode]) found nodes).same i hself]
          exact hnode
    next hother =>
      refine .inl ⟨?_, (Except.ok.inj h).symm⟩
      by_cases htype : fieldAt nodes i "type" = .text "fallback"
      · refine .inr (.inl (Bool.eq_false_iff.2 fun hpresent => ?_))
        rw [fieldAt_of_object hnode] at htype hpresent
        exact hother htype hpresent
      · exact .inl htype
  next hnode =>
    refine .inl ⟨.inl fun htype => ?_, (Except.ok.inj h).symm⟩
    rw [fieldAt_of_not_dict] at htype
    · cases htype
    · rintro ⟨fields, hfields⟩
      exact hnode fields hfields

/-! ## The second half -/

/-- What the rounds in front of a position have made of the nodes. -/
structure TimeoutsMoved (python : PythonJson F) (edges start : List (Value F)) (n : ℕ)
    (nodes : List (Value F)) : Prop where
  alike : Alike start nodes
  other : ∀ j key, key ≠ "timeout_ms" → fieldAt nodes j key = fieldAt start j key
  pending : ∀ i, n ≤ i → fieldAt start i "type" = .text "fallback" →
    fieldAt nodes i "timeout_ms" = fieldAt start i "timeout_ms"
  settled : ∀ i < n, Settled python edges nodes i
  kept : ∀ j, isStrategyAt (start.map shapeOf) j = .ok true →
    (fieldAt start j "timeout_ms").present = true →
      fieldAt nodes j "timeout_ms" = fieldAt start j "timeout_ms"
  untouched : ∀ j, isStrategyAt (start.map shapeOf) j = .ok true →
    (∀ i < n, ∀ found, FallbackAt python edges start i found → j ∉ found) →
      fieldAt nodes j "timeout_ms" = fieldAt start j "timeout_ms"
  given : ∀ i < n, ∀ found, FallbackAt python edges start i found → ∀ j ∈ found,
    (fieldAt start j "timeout_ms").present = false →
      ∃ i' < n, ∃ found', FallbackAt python edges start i' found' ∧ j ∈ found' ∧
        fieldAt nodes j "timeout_ms" = fieldAt start i' "timeout_ms"

namespace TimeoutsMoved

variable {start : List (Value F)}

theorem zero : TimeoutsMoved python edges start 0 start where
  alike := .refl start
  other _ _ _ := rfl
  pending _ _ _ := rfl
  settled _ h := absurd h (Nat.not_lt_zero _)
  kept _ _ _ := rfl
  untouched _ _ _ := rfl
  given _ h := absurd h (Nat.not_lt_zero _)

theorem owners_eq (h : TimeoutsMoved python edges start n nodes) (i : ℕ) :
    owners python (nodes.map shapeOf) (fieldAt nodes i "id") edges
      = owners python (start.map shapeOf) (fieldAt start i "id") edges := by
  rw [h.alike.owners, h.other i "id" (by decide)]

theorem fallbackAt_iff (h : TimeoutsMoved python edges start n nodes) {found : List ℕ} :
    FallbackAt python edges nodes n found ↔ FallbackAt python edges start n found := by
  have htype := h.other n "type" (by decide)
  constructor
  · rintro ⟨h₁, h₂, h₃⟩
    rw [htype] at h₁
    rw [h.pending n (Nat.le_refl n) h₁] at h₂
    rw [h.owners_eq] at h₃
    exact ⟨h₁, h₂, h₃⟩
  · rintro ⟨h₁, h₂, h₃⟩
    rw [← h.pending n (Nat.le_refl n) h₁] at h₂
    rw [← htype] at h₁
    rw [← h.owners_eq] at h₃
    exact ⟨h₁, h₂, h₃⟩

theorem settled_of (h : Settled python edges nodes i) (halike : Alike nodes nodes')
    (hother : ∀ j key, key ≠ "timeout_ms" → fieldAt nodes' j key = fieldAt nodes j key)
    (htimeout : fieldAt nodes i "type" = .text "fallback" →
      (fieldAt nodes i "timeout_ms").present = false →
        (fieldAt nodes' i "timeout_ms").present = false) : Settled python edges nodes' i := by
  unfold Settled
  rw [hother i "type" (by decide), hother i "id" (by decide), halike.owners]
  by_cases htype : fieldAt nodes i "type" = .text "fallback"
  · rcases h with h | h | h
    · exact .inl h
    · exact .inr (.inl (htimeout htype h))
    · exact .inr (.inr h)
  · exact .inl htype

/-- A round that passes over its node. -/
theorem succ_of_settled (h : TimeoutsMoved python edges start n nodes)
    (hsettled : Settled python edges nodes n) : TimeoutsMoved python edges start (n + 1) nodes := by
  refine ⟨h.alike, h.other, fun i hi htype => h.pending i (by omega) htype, fun i hi => ?_, h.kept,
    fun j hj hnone => h.untouched j hj fun i hi => hnone i (Nat.lt_succ_of_lt hi),
    fun i hi found hfound j hj habsent => ?_⟩
  · rcases Nat.lt_succ_iff_lt_or_eq.1 hi with hi | rfl
    · exact h.settled i hi
    · exact hsettled
  · rcases Nat.lt_succ_iff_lt_or_eq.1 hi with hi | rfl
    · obtain ⟨i', hi', rest⟩ := h.given i hi found hfound j hj habsent
      exact ⟨i', Nat.lt_succ_of_lt hi', rest⟩
    · -- The strategy already has a timeout, from a fallback in front of this one, or none at all.
      have hfallback := h.fallbackAt_iff.2 hfound
      rcases hsettled with hs | hs | hs
      · exact absurd hfallback.type hs
      · rw [hfallback.present] at hs
        cases hs
      · rw [hfallback.owners] at hs
        rw [Except.ok.inj hs] at hj
        cases hj

/-- A round that hands over the timeout of its fallback. -/
theorem succ_of_given (h : TimeoutsMoved python edges start n nodes) {found : List ℕ}
    {middle : List (Value F)} (hfallback : FallbackAt python edges nodes n found)
    (hgiven : TimeoutGiven (fieldAt nodes n "timeout_ms") found nodes middle)
    (hwrites : Writes middle n "timeout_ms" .null nodes') :
    TimeoutsMoved python edges start (n + 1) nodes' := by
  have halike := hgiven.alike.trans (hwrites.alike (by decide) (by decide))
  have hother : ∀ j key, key ≠ "timeout_ms" → fieldAt nodes' j key = fieldAt nodes j key :=
    fun j key hkey => (hwrites.other j key (.inr hkey)).trans (hgiven.other j key hkey)
  have hstart := h.fallbackAt_iff.1 hfallback
  have hstrategies : ∀ j ∈ found, isStrategyAt (start.map shapeOf) j = .ok true :=
    fun j hj => isStrategyAt_of_owners hstart.owners hj
  -- A fallback is no strategy.
  have hfallbacks : ∀ j, isStrategyAt (start.map shapeOf) j = .ok true → ∀ i,
      fieldAt start i "type" = .text "fallback" → j ≠ i :=
    fun j hj i hi => strategy_ne (by decide) (by decide) hj hi
  have hsame :
      ∀ j, j ≠ n → j ∉ found → fieldAt nodes' j "timeout_ms" = fieldAt nodes j "timeout_ms" := by
    intro j hn hj
    rw [hwrites.other j _ (.inl hn)]
    unfold fieldAt
    rw [hgiven.same j hj]
  refine ⟨h.alike.trans halike, fun j key hkey => (hother j key hkey).trans (h.other j key hkey),
    fun i hi htype => ?_, fun i hi => ?_, fun j hj hpresent => ?_, fun j hj hnone => ?_,
    fun i hi found' hfound' j hj habsent => ?_⟩
  · rw [hsame i (by omega) fun hmem => hfallbacks i (hstrategies i hmem) i htype rfl]
    exact h.pending i (by omega) htype
  · rcases Nat.lt_succ_iff_lt_or_eq.1 hi with hi | rfl
    · refine settled_of (h.settled i hi) halike hother fun htype habsent => ?_
      rw [h.other i "type" (by decide)] at htype
      rw [hsame i (by omega) fun hmem => hfallbacks i (hstrategies i hmem) i htype rfl]
      exact habsent
    · refine .inr (.inl ?_)
      rw [hwrites.written]
      rfl
  · rw [hwrites.other j _ (.inl (hfallbacks j hj n hstart.type))]
    have hkept := h.kept j hj hpresent
    rw [hgiven.kept j (by rw [hkept]; exact hpresent)]
    exact hkept
  · rw [hsame j (hfallbacks j hj n hstart.type) (hnone n (Nat.lt_succ_self n) found hstart)]
    exact h.untouched j hj fun i hi => hnone i (Nat.lt_succ_of_lt hi)
  · have hstrategy := isStrategyAt_of_owners hfound'.owners hj
    rw [hwrites.other j _ (.inl (hfallbacks j hstrategy n hstart.type))]
    by_cases hearlier : ∃ i' < n, ∃ other, FallbackAt python edges start i' other ∧ j ∈ other
    · obtain ⟨i', hi', other, hfallback', hmem⟩ := hearlier
      obtain ⟨i'', hi'', other', hfallback'', hmem', heq⟩ :=
        h.given i' hi' other hfallback' j hmem habsent
      refine ⟨i'', Nat.lt_succ_of_lt hi'', other', hfallback'', hmem', ?_⟩
      rw [hgiven.kept j, heq]
      rw [heq]
      exact hfallback''.present
    · have huntouched := h.untouched j hstrategy fun i' hi' other hfallback' hmem =>
        hearlier ⟨i', hi', other, hfallback', hmem⟩
      have hin : i = n := by
        rcases Nat.lt_succ_iff_lt_or_eq.1 hi with hi | rfl
        · exact absurd ⟨i, hi, found', hfound', hj⟩ hearlier
        · rfl
      subst hin
      obtain rfl : found = found' := Except.ok.inj (hstart.owners.symm.trans hfound'.owners)
      refine ⟨i, Nat.lt_succ_self i, found, hfound', hj, ?_⟩
      rw [hgiven.given j hj ((h.alike.dict j).2 (strategy_at hstrategy).1)
        (by rw [huntouched]; exact habsent)]
      exact h.pending i (Nat.le_refl i) hstart.type

theorem succ (h : TimeoutsMoved python edges start n nodes)
    (hround : moveTimeout python edges nodes n = .ok nodes') :
    TimeoutsMoved python edges start (n + 1) nodes' := by
  rcases moveTimeout_eq hround with ⟨hsettled, rfl⟩ | ⟨found, middle, hfallback, hgiven, hwrites⟩
  · exact h.succ_of_settled hsettled
  · exact h.succ_of_given hfallback hgiven hwrites

/-- What the second half has made of the nodes. -/
theorem of_loop {final : List (Value F)} (h : moveTimeouts python edges start = .ok final) :
    TimeoutsMoved python edges start start.length final := by
  have hkeeps := foldlM_keeps (R := fun done nodes => done = List.range done.length →
    TimeoutsMoved python edges start done.length nodes) h (fun _ => zero)
    fun done i nodes nodes' hround hdone hrange => ?_
  · rw [List.length_range] at hkeeps
    exact hkeeps rfl
  · rw [List.length_append, List.length_singleton, List.range_succ] at hrange
    obtain ⟨hdone', hi⟩ := List.append_inj' hrange rfl
    obtain rfl := List.singleton_inj.1 hi
    rw [List.length_append, List.length_singleton]
    exact (hdone hdone').succ hround

end TimeoutsMoved

/-- The second half leaves nodes without a timeout to hand over. -/
theorem moveTimeouts_of_settled (h : ∀ i < nodes.length, Settled python edges nodes i) :
    moveTimeouts python edges nodes = .ok nodes := by
  unfold moveTimeouts
  have hrest : ∀ positions : List ℕ, (∀ i ∈ positions, i < nodes.length) →
      positions.foldlM (moveTimeout python edges) nodes = .ok nodes := by
    intro positions
    induction positions with
    | nil => exact fun _ => rfl
    | cons i positions ih =>
        intro hpositions
        rw [List.foldlM_cons, moveTimeout_of_settled (h i (hpositions i (List.mem_cons_self ..)))]
        exact ih fun i' hi' => hpositions i' (List.mem_cons_of_mem i hi')
  exact hrest _ fun i hi => List.mem_range.1 hi

/-! ## Conversion -/

/-- What the conversion of a type leaves of the fields at a position. -/
def Converted (nodes nodes' : List (Value F)) (i : ℕ) : Prop :=
  (IsDictAt nodes' i ↔ IsDictAt nodes i) ∧
    (∀ key, key ≠ "type" → key ≠ "strategy_type" → fieldAt nodes' i key = fieldAt nodes i key) ∧
    (fieldAt nodes' i "type" = fieldAt nodes i "type" ∨
      fieldAt nodes i "type" = .text "priority" ∧ fieldAt nodes' i "type" = .text "strategy")

theorem converted_of_eq (h : nodes'[i]? = nodes[i]?) : Converted nodes nodes' i := by
  unfold Converted IsDictAt fieldAt
  rw [h]
  exact ⟨Iff.rfl, fun _ _ _ => rfl, .inl rfl⟩

theorem converted_convertPriority (nodes : List (Value F)) (i : ℕ) :
    Converted nodes (nodes.map convertPriority) i := by
  have hnode : (nodes.map convertPriority)[i]? = nodes[i]?.map convertPriority := List.getElem?_map
  by_cases hpriority : ∃ fields, nodes[i]? = some (.object fields) ∧
      Json.get fields "type" = .text "priority"
  · obtain ⟨fields, hi, htype⟩ := hpriority
    have hconverted : convertPriority (.object fields) = .object
        (Json.set (Json.set fields "type" (.text "strategy")) "strategy_type"
          (.text "priority")) := by
      unfold convertPriority
      dsimp only
      rw [htype]
      rfl
    rw [hi, Option.map_some, hconverted] at hnode
    refine ⟨⟨fun _ => ⟨_, hi⟩, fun _ => ⟨_, hnode⟩⟩, fun key h₁ h₂ => ?_, .inr ⟨?_, ?_⟩⟩
    · rw [fieldAt_of_object hnode, fieldAt_of_object hi, Json.get_set_of_ne h₂,
        Json.get_set_of_ne h₁]
    · rw [fieldAt_of_object hi, htype]
    · rw [fieldAt_of_object hnode, Json.get_set_of_ne (by decide), Json.get_set_self]
  · refine converted_of_eq ?_
    rw [hnode]
    cases hi : nodes[i]? with
    | none => rfl
    | some node =>
        rw [Option.map_some]
        congr 1
        unfold convertPriority
        split
        next fields =>
          split
          next htype => exact absurd ⟨fields, hi, htype⟩ hpriority
          next => rfl
        next => rfl

theorem alike_convertPriority (nodes : List (Value F)) :
    Alike nodes (nodes.map convertPriority) where
  length := List.length_map _
  dict i := (converted_convertPriority nodes i).1
  id i := (converted_convertPriority nodes i).2.1 "id" (by decide) (by decide)
  strategy i := by
    rcases (converted_convertPriority nodes i).2.2 with h | ⟨h, h'⟩
    · rw [h]
    · rw [h, h']
      rfl

theorem type_convertPriority (type : String) (hpriority : type ≠ "priority")
    (hstrategy : type ≠ "strategy") (nodes : List (Value F)) (i : ℕ) :
    fieldAt (nodes.map convertPriority) i "type" = .text type ↔
      fieldAt nodes i "type" = .text type := by
  rcases (converted_convertPriority nodes i).2.2 with h | ⟨h, h'⟩
  · rw [h]
  · rw [h, h']
    constructor
    · intro heq
      cases heq
      exact absurd rfl hstrategy
    · intro heq
      cases heq
      exact absurd rfl hpriority

theorem poolAt_convertPriority {enabled : List (Dict F)} :
    PoolAt python (nodes.map convertPriority) i enabled ↔ PoolAt python nodes i enabled := by
  have hcandidates := (converted_convertPriority nodes i).2.1 "candidates" (by decide) (by decide)
  have htype := type_convertPriority "candidate_models" (by decide) (by decide) nodes i
  constructor
  · rintro ⟨h₁, h₂⟩
    rw [hcandidates] at h₂
    exact ⟨htype.1 h₁, h₂⟩
  · rintro ⟨h₁, h₂⟩
    rw [← hcandidates] at h₂
    exact ⟨htype.2 h₁, h₂⟩

theorem poolOf_convertPriority {enabled : List (Dict F)} :
    PoolOf python edges (nodes.map convertPriority) i enabled j
      ↔ PoolOf python edges nodes i enabled j := by
  have hchosen :
      chosenAt python (nodes.map convertPriority) edges i = chosenAt python nodes edges i := by
    unfold chosenAt
    rw [(alike_convertPriority nodes).chosenStrategy, (alike_convertPriority nodes).id]
  constructor
  · rintro ⟨h₁, h₂⟩
    exact ⟨poolAt_convertPriority.1 h₁, hchosen ▸ h₂⟩
  · rintro ⟨h₁, h₂⟩
    exact ⟨poolAt_convertPriority.2 h₁, hchosen.symm ▸ h₂⟩

theorem configsAt_convertPriority :
    configsAt python (nodes.map convertPriority) j = configsAt python nodes j :=
  configsAt_congr ((converted_convertPriority nodes j).2.1 _ (by decide) (by decide))

/-! ## The first half -/

/-- What the first half leaves to the second one. -/
structure PoolsDone (nodes upgraded : List (Value F)) : Prop where
  alike : Alike nodes upgraded
  timeout : ∀ i, fieldAt upgraded i "timeout_ms" = fieldAt nodes i "timeout_ms"
  fallback : ∀ i, fieldAt upgraded i "type" = .text "fallback" ↔
    fieldAt nodes i "type" = .text "fallback"

theorem poolsDone {definition : Dict F} {upgraded : List (Value F)}
    (h : upgradePools python definition edges nodes = .ok upgraded) : PoolsDone nodes upgraded := by
  unfold upgradePools at h
  split at h
  next =>
    rw [← List.length_map convertPriority] at h
    have hloop := PoolsUpgraded.of_loop h
    refine ⟨(alike_convertPriority nodes).trans hloop.alike, fun i => ?_, fun i => ?_⟩
    · rw [hloop.other i _ (by decide) (by decide)]
      exact (converted_convertPriority nodes i).2.1 _ (by decide) (by decide)
    · rw [hloop.other i _ (by decide) (by decide)]
      exact type_convertPriority "fallback" (by decide) (by decide) nodes i
  next =>
    obtain rfl := Except.ok.inj h
    exact ⟨.refl _, fun _ => rfl, fun _ => Iff.rfl⟩

theorem PoolsDone.fallbackAt_iff {upgraded : List (Value F)} (h : PoolsDone nodes upgraded)
    {found : List ℕ} :
    FallbackAt python edges upgraded i found ↔ FallbackAt python edges nodes i found := by
  have howners : owners python (upgraded.map shapeOf) (fieldAt upgraded i "id") edges
      = owners python (nodes.map shapeOf) (fieldAt nodes i "id") edges := by
    rw [h.alike.owners, h.alike.id]
  constructor
  · rintro ⟨h₁, h₂, h₃⟩
    rw [h.timeout] at h₂
    rw [howners] at h₃
    exact ⟨(h.fallback i).1 h₁, h₂, h₃⟩
  · rintro ⟨h₁, h₂, h₃⟩
    rw [← h.timeout] at h₂
    rw [← howners] at h₃
    exact ⟨(h.fallback i).2 h₁, h₂, h₃⟩

/-! ## Results -/

/-- `definition.get("nodes") or []`. -/
def nodesOf (python : PythonJson F) (definition : Dict F) : List (Value F) :=
  (itemsOrEmpty python (Json.get definition "nodes")).toOption.getD []

/-- `definition.get("edges") or []`. -/
def edgesOf (python : PythonJson F) (definition : Dict F) : List (Value F) :=
  (itemsOrEmpty python (Json.get definition "edges")).toOption.getD []

/-- The strategy of a pool has a configuration of a model when the upgrade comes to the pool. -/
def AlreadyConfigured (python : PythonJson F) (definition : Dict F) (i j : ℕ) (text : String) :
    Prop :=
  text ∈ configTexts python (nodesOf python definition) j ∨
    ∃ i' < i, ∃ enabled, PoolOf python (edgesOf python definition) (nodesOf python definition) i'
      enabled j ∧ text ∈ candidateTexts python enabled

/-- A second upgrade changes nothing, and the first one has lost nothing. -/
structure UpgradeKeeps (python : PythonJson F) (definition definition' : Dict F) : Prop where
  idempotent : upgradeV1StrategyOwnership python (.object definition') = .ok (.object definition')
  settings : isFirstVersion python definition = true → ∀ i enabled j,
    PoolOf python (edgesOf python definition) (nodesOf python definition) i enabled j →
      ∀ k candidate, enabled[k]? = some candidate →
        (configTexts python (nodesOf python definition') j).count (modelText python candidate) = 1 ∧
          (AlreadyConfigured python definition i j (modelText python candidate) ∨
            configOf k candidate ∈ configsAt python (nodesOf python definition') j)
  disabled : isFirstVersion python definition = true → ∀ i enabled,
    PoolAt python (nodesOf python definition) i enabled →
      fieldAt (nodesOf python definition') i "candidates" = .array (enabled.map bareCandidate)
  timeouts : ∀ i found,
    FallbackAt python (edgesOf python definition) (nodesOf python definition) i found →
      ∀ j ∈ found, (fieldAt (nodesOf python definition) j "timeout_ms").present = false →
        fieldAt (nodesOf python definition') j "timeout_ms"
          = fieldAt (nodesOf python definition) i "timeout_ms"

/-- A strategy lists a model that its pools enable at most once, and where it lists none, the
first of these pools enables it once. -/
def ListsOnce (python : PythonJson F) (definition : Dict F) : Prop :=
  ∀ i enabled j, PoolOf python (edgesOf python definition) (nodesOf python definition) i enabled j →
    ∀ text ∈ candidateTexts python enabled,
      (configTexts python (nodesOf python definition) j).count text ≤ 1 ∧
        (text ∉ configTexts python (nodesOf python definition) j →
          FirstPool python (edgesOf python definition) (nodesOf python definition) i j text →
            (candidateTexts python enabled).count text = 1)

/-- Fallbacks that share a strategy without a timeout have the same one. -/
def TimeoutsAgree (python : PythonJson F) (definition : Dict F) : Prop :=
  ∀ i i' found found' j,
    FallbackAt python (edgesOf python definition) (nodesOf python definition) i found →
    FallbackAt python (edgesOf python definition) (nodesOf python definition) i' found' →
    j ∈ found → j ∈ found' →
    (fieldAt (nodesOf python definition) j "timeout_ms").present = false →
      fieldAt (nodesOf python definition) i "timeout_ms"
        = fieldAt (nodesOf python definition) i' "timeout_ms"

variable {definition definition' : Dict F}

/-- What an upgrade that returns has computed. -/
structure Upgraded (python : PythonJson F) (definition definition' : Dict F)
    (upgraded moved : List (Value F)) : Prop where
  nodes : itemsOrEmpty python (Json.get definition "nodes") = .ok (nodesOf python definition)
  edges : itemsOrEmpty python (Json.get definition "edges") = .ok (edgesOf python definition)
  pools : upgradePools python definition (edgesOf python definition) (nodesOf python definition)
    = .ok upgraded
  timeouts : moveTimeouts python (edgesOf python definition) upgraded = .ok moved
  result : definition' = Json.set (putNodes definition moved) "schema_version" (.number (.int 2))

theorem upgrade_eq_ok
    (h : upgradeV1StrategyOwnership python (.object definition) = .ok (.object definition')) :
    ∃ upgraded moved, Upgraded python definition definition' upgraded moved := by
  unfold upgradeV1StrategyOwnership at h
  obtain ⟨nodes, hnodes, h⟩ := bind_eq_ok.1 h
  obtain ⟨edges, hedges, h⟩ := bind_eq_ok.1 h
  obtain ⟨upgraded, hupgraded, h⟩ := bind_eq_ok.1 h
  obtain ⟨moved, hmoved, h⟩ := bind_eq_ok.1 h
  cases Except.ok.inj h
  have hnodesOf : nodesOf python definition = nodes := by
    unfold nodesOf
    rw [hnodes]
    rfl
  have hedgesOf : edgesOf python definition = edges := by
    unfold edgesOf
    rw [hedges]
    rfl
  refine ⟨upgraded, moved, ?_, ?_, ?_, ?_, rfl⟩
  · rw [hnodes, hnodesOf]
  · rw [hedges, hedgesOf]
  · rw [hnodesOf, hedgesOf]
    exact hupgraded
  · rw [hedgesOf]
    exact hmoved

/-- A definition whose nodes are no list has no dictionary among them. -/
theorem not_dict_of_items {value : Value F} {items : List (Value F)}
    (h : itemsOrEmpty python value = .ok items)
    (hvalue : ∀ item rest, value ≠ .array (item :: rest)) (i : ℕ) : ¬IsDictAt items i := by
  have hno : ∀ item ∈ items, Json.fields? item = none := by
    unfold itemsOrEmpty at h
    split at h
    next =>
      have hitems := expect_eq_ok.1 h
      cases value with
      | array items' =>
          cases items' with
          | nil =>
              obtain rfl := Option.some.inj hitems
              exact fun _ hitem => absurd hitem List.not_mem_nil
          | cons item rest => exact absurd rfl (hvalue item rest)
      | object fields =>
          obtain rfl := Option.some.inj hitems
          intro item hitem
          obtain ⟨field, -, rfl⟩ := List.mem_map.1 hitem
          rfl
      | text value =>
          obtain rfl := Option.some.inj hitems
          intro item hitem
          obtain ⟨c, -, rfl⟩ := List.mem_map.1 hitem
          rfl
      | null => cases hitems
      | bool _ => cases hitems
      | number _ => cases hitems
    next =>
      obtain rfl := Except.ok.inj h
      exact fun _ hitem => absurd hitem List.not_mem_nil
  rintro ⟨fields, hfields⟩
  have hnone := hno _ (List.mem_of_getElem? hfields)
  cases hnone

namespace Upgraded

variable {upgraded moved : List (Value F)}

theorem done (h : Upgraded python definition definition' upgraded moved) :
    PoolsDone (nodesOf python definition) upgraded :=
  poolsDone h.pools

theorem rounds (h : Upgraded python definition definition' upgraded moved) :
    TimeoutsMoved python (edgesOf python definition) upgraded upgraded.length moved :=
  TimeoutsMoved.of_loop h.timeouts

theorem edges_eq (h : Upgraded python definition definition' upgraded moved) :
    Json.get definition' "edges" = Json.get definition "edges" := by
  rw [h.result, Json.get_set_of_ne (by decide)]
  unfold putNodes
  split
  next => exact Json.get_set_of_ne (by decide) _ _
  next => rfl

/-- The nodes of the result are those that the rounds left, or none is a dictionary. -/
theorem nodes_eq (h : Upgraded python definition definition' upgraded moved) :
    (Json.get definition' "nodes" = .array moved ∧ moved ≠ [] ∧
        putNodes definition' moved = definition') ∨
      (Json.get definition' "nodes" = Json.get definition "nodes" ∧
        (∀ nodes, putNodes definition' nodes = definition') ∧
        ∀ i, ¬IsDictAt (nodesOf python definition) i) := by
  by_cases hlist : ∃ item rest, Json.get definition "nodes" = .array (item :: rest)
  · obtain ⟨item, rest, hitems⟩ := hlist
    have hput : putNodes definition moved = Json.set definition "nodes" (.array moved) := by
      unfold putNodes
      rw [hitems]
    have hget : Json.get definition' "nodes" = .array moved := by
      rw [h.result, hput, Json.get_set_of_ne (by decide), Json.get_set_self]
    have hnodes : nodesOf python definition = item :: rest := by
      unfold nodesOf
      rw [hitems, itemsOrEmpty_array]
      rfl
    have hne : moved ≠ [] := by
      have hlength := h.rounds.alike.length.trans h.done.alike.length
      rw [hnodes] at hlength
      rintro rfl
      cases hlength
    have hassigned : Json.Assigned definition' "nodes" (.array moved) := by
      rw [h.result, hput]
      exact (Json.assigned_set _ _ _).set_other (by decide) _
    refine .inl ⟨hget, hne, ?_⟩
    obtain ⟨first, others, rfl⟩ := List.exists_cons_of_ne_nil hne
    unfold putNodes
    rw [hget]
    exact hassigned.set_eq
  · have hlist' : ∀ item rest, Json.get definition "nodes" ≠ .array (item :: rest) :=
      fun item rest heq => hlist ⟨item, rest, heq⟩
    have hput : ∀ (fields : Dict F) nodes, Json.get fields "nodes" = Json.get definition "nodes" →
        putNodes fields nodes = fields := by
      intro fields nodes hsame
      unfold putNodes
      split
      next item rest heq => exact absurd (hsame.symm.trans heq) (hlist' item rest)
      next => rfl
    have hget : Json.get definition' "nodes" = Json.get definition "nodes" := by
      rw [h.result, hput definition moved rfl, Json.get_set_of_ne (by decide)]
    exact .inr ⟨hget, fun nodes => hput _ nodes hget, not_dict_of_items h.nodes hlist'⟩

/-- The nodes of the result, by their fields. -/
theorem fieldAt_eq (h : Upgraded python definition definition' upgraded moved) (i : ℕ)
    (key : String) : fieldAt (nodesOf python definition') i key = fieldAt moved i key := by
  rcases h.nodes_eq with ⟨hget, -, -⟩ | ⟨hget, -, hnone⟩
  · unfold nodesOf
    rw [hget, itemsOrEmpty_array]
    rfl
  · have hsame : nodesOf python definition' = nodesOf python definition := by
      unfold nodesOf
      rw [hget]
    rw [hsame, fieldAt_of_not_dict (hnone i), fieldAt_of_not_dict]
    rw [h.rounds.alike.dict, h.done.alike.dict]
    exact hnone i

theorem configsAt_eq (h : Upgraded python definition definition' upgraded moved) (j : ℕ) :
    configsAt python (nodesOf python definition') j = configsAt python upgraded j := by
  refine configsAt_congr ?_
  rw [h.fieldAt_eq, h.rounds.other j _ (by decide)]

/-- A second upgrade changes nothing. -/
theorem idempotent (h : Upgraded python definition definition' upgraded moved) :
    upgradeV1StrategyOwnership python (.object definition') = .ok (.object definition') := by
  have hversion : isFirstVersion python definition' = false := by
    unfold isFirstVersion Json.getD
    rw [h.result, Json.hasKey_set_self, if_pos rfl, Json.get_set_self]
    rfl
  have hschema : Json.Assigned definition' "schema_version" (.number (.int 2)) := by
    rw [h.result]
    exact Json.assigned_set _ _ _
  -- The nodes that are read again have no timeout to hand over.
  have hagain : ∃ nodes, itemsOrEmpty python (Json.get definition' "nodes") = .ok nodes ∧
      moveTimeouts python (edgesOf python definition) nodes = .ok nodes ∧
        putNodes definition' nodes = definition' := by
    rcases h.nodes_eq with ⟨hget, -, hput⟩ | ⟨hget, hput, hnone⟩
    · refine ⟨moved, by rw [hget, itemsOrEmpty_array], moveTimeouts_of_settled fun i hi => ?_, hput⟩
      rw [h.rounds.alike.length] at hi
      exact h.rounds.settled i hi
    · refine ⟨nodesOf python definition, by rw [hget, h.nodes],
        moveTimeouts_of_settled fun i _ => .inl fun htype => ?_, hput _⟩
      rw [fieldAt_of_not_dict (hnone i)] at htype
      cases htype
  obtain ⟨nodes, hnodes, hmoved, hput⟩ := hagain
  have hpools : upgradePools python definition' (edgesOf python definition) nodes = .ok nodes := by
    unfold upgradePools
    rw [hversion]
    rfl
  unfold upgradeV1StrategyOwnership
  dsimp only
  rw [hnodes, ok_bind, h.edges_eq, h.edges, ok_bind, hpools, ok_bind, hmoved, ok_bind, hput,
    hschema.set_eq]
  rfl

/-- The first half, from the nodes as they came. -/
theorem pools_loop (h : Upgraded python definition definition' upgraded moved)
    (hversion : isFirstVersion python definition = true) :
    PoolsUpgraded python (edgesOf python definition)
      ((nodesOf python definition).map convertPriority)
      (nodesOf python definition).length upgraded := by
  have hpools := h.pools
  unfold upgradePools at hpools
  rw [if_pos hversion, ← List.length_map convertPriority] at hpools
  have hloop := PoolsUpgraded.of_loop hpools
  rwa [List.length_map] at hloop

end Upgraded

theorem poolAt_lt {enabled : List (Dict F)} (h : PoolAt python nodes i enabled) :
    i < nodes.length := by
  by_contra hge
  have htype := h.type
  unfold fieldAt at htype
  rw [List.getElem?_eq_none (Nat.le_of_not_lt hge)] at htype
  cases htype

theorem fallbackAt_lt {found : List ℕ} (h : FallbackAt python edges nodes i found) :
    i < nodes.length := by
  by_contra hge
  have htype := h.type
  unfold fieldAt at htype
  rw [List.getElem?_eq_none (Nat.le_of_not_lt hge)] at htype
  cases htype

/-- Of the pools of a strategy that enable a model, there is a first one. -/
theorem exists_firstPool {enabled : List (Dict F)} {text : String}
    (h : PoolOf python edges nodes i enabled j) (htext : text ∈ candidateTexts python enabled) :
    ∃ i' ≤ i, ∃ enabled', PoolOf python edges nodes i' enabled' j ∧
      text ∈ candidateTexts python enabled' ∧ FirstPool python edges nodes i' j text := by
  induction i using Nat.strongRecOn generalizing enabled with
  | _ i ih =>
      by_cases hfirst : FirstPool python edges nodes i j text
      · exact ⟨i, Nat.le_refl i, enabled, h, htext, hfirst⟩
      · unfold FirstPool at hfirst
        push Not at hfirst
        obtain ⟨i', hi', enabled', hpool, hmem⟩ := hfirst
        obtain ⟨first, hle, rest⟩ := ih i' hi' hpool hmem
        exact ⟨first, Nat.le_trans hle (Nat.le_of_lt hi'), rest⟩

theorem firstPool_convertPriority {text : String} :
    FirstPool python edges (nodes.map convertPriority) i j text
      ↔ FirstPool python edges nodes i j text := by
  unfold FirstPool
  simp only [poolOf_convertPriority]

/-- The settings of the candidates are kept exactly where no model is listed twice. -/
theorem settings_iff {upgraded moved : List (Value F)}
    (h : Upgraded python definition definition' upgraded moved)
    (hversion : isFirstVersion python definition = true) :
    (∀ i enabled j,
      PoolOf python (edgesOf python definition) (nodesOf python definition) i enabled j →
        ∀ k candidate, enabled[k]? = some candidate →
          (configTexts python (nodesOf python definition') j).count
              (modelText python candidate) = 1 ∧
            (AlreadyConfigured python definition i j (modelText python candidate) ∨
              configOf k candidate ∈ configsAt python (nodesOf python definition') j)) ↔
      ListsOnce python definition := by
  have hloop := h.pools_loop hversion
  have htexts :
      ∀ j, configTexts python (nodesOf python definition') j = configTexts python upgraded j := by
    intro j
    unfold configTexts
    rw [h.configsAt_eq]
  have hstart : ∀ j, configTexts python ((nodesOf python definition).map convertPriority) j
      = configTexts python (nodesOf python definition) j := by
    intro j
    unfold configTexts
    rw [configsAt_convertPriority]
  have hconfigured : ∀ j, ∀ text ∈ configTexts python (nodesOf python definition) j,
      (configTexts python (nodesOf python definition') j).count text
        = (configTexts python (nodesOf python definition) j).count text := by
    intro j text htext
    rw [htexts, hloop.configured j text (by rw [hstart]; exact htext), hstart]
  have hadded : ∀ i enabled j,
      PoolOf python (edgesOf python definition) (nodesOf python definition) i enabled j →
      ∀ text ∈ candidateTexts python enabled,
        text ∉ configTexts python (nodesOf python definition) j →
        FirstPool python (edgesOf python definition) (nodesOf python definition) i j text →
          (configTexts python (nodesOf python definition') j).count text
              = (candidateTexts python enabled).count text ∧
            ∀ k candidate, enabled[k]? = some candidate → modelText python candidate = text →
              configOf k candidate ∈ configsAt python (nodesOf python definition') j := by
    intro i enabled j hpool text htext hnew hfirst
    rw [htexts, h.configsAt_eq]
    exact hloop.added i (poolAt_lt hpool.pool) enabled j (poolOf_convertPriority.2 hpool) text htext
      (by rw [hstart]; exact hnew) (firstPool_convertPriority.2 hfirst)
  constructor
  · intro hkeeps i enabled j hpool text htext
    obtain ⟨candidate, hcandidate, rfl⟩ := List.mem_map.1 htext
    obtain ⟨k, hk⟩ := List.mem_iff_getElem?.1 hcandidate
    have hone := (hkeeps i enabled j hpool k candidate hk).1
    refine ⟨?_, fun hnew hfirst => ?_⟩
    · by_cases hlisted :
        modelText python candidate ∈ configTexts python (nodesOf python definition) j
      · rw [hconfigured j _ hlisted] at hone
        exact Nat.le_of_eq hone
      · rw [List.count_eq_zero_of_not_mem hlisted]
        exact Nat.zero_le 1
    · rw [(hadded i enabled j hpool _ htext hnew hfirst).1] at hone
      exact hone
  · intro honce i enabled j hpool k candidate hk
    have htext : modelText python candidate ∈ candidateTexts python enabled :=
      List.mem_map_of_mem (List.mem_of_getElem? hk)
    by_cases hlisted : modelText python candidate ∈ configTexts python (nodesOf python definition) j
    · refine ⟨?_, .inl (.inl hlisted)⟩
      rw [hconfigured j _ hlisted]
      have hle := (honce i enabled j hpool _ htext).1
      have hpos := List.count_pos_iff.2 hlisted
      omega
    · obtain ⟨i', hi', enabled', hpool', htext', hfirst'⟩ := exists_firstPool hpool htext
      have hcount := (hadded i' enabled' j hpool' _ htext' hlisted hfirst').1
      rw [(honce i' enabled' j hpool' _ htext').2 hlisted hfirst'] at hcount
      refine ⟨hcount, ?_⟩
      rcases Nat.lt_or_eq_of_le hi' with hlt | rfl
      · exact .inl (.inr ⟨i', hlt, enabled', hpool', htext'⟩)
      · exact .inr ((hadded i' enabled j hpool _ htext hlisted hfirst').2 k candidate hk rfl)

theorem disabled_dropped {upgraded moved : List (Value F)}
    (h : Upgraded python definition definition' upgraded moved)
    (hversion : isFirstVersion python definition = true) {enabled : List (Dict F)}
    (hpool : PoolAt python (nodesOf python definition) i enabled) :
    fieldAt (nodesOf python definition') i "candidates" = .array (enabled.map bareCandidate) := by
  rw [h.fieldAt_eq, h.rounds.other i _ (by decide)]
  exact (h.pools_loop hversion).bare i (poolAt_lt hpool) enabled (poolAt_convertPriority.2 hpool)

/-- The timeouts of the fallbacks are kept exactly where those that share a strategy agree. -/
theorem timeouts_iff {upgraded moved : List (Value F)}
    (h : Upgraded python definition definition' upgraded moved) :
    (∀ i found,
      FallbackAt python (edgesOf python definition) (nodesOf python definition) i found →
        ∀ j ∈ found, (fieldAt (nodesOf python definition) j "timeout_ms").present = false →
          fieldAt (nodesOf python definition') j "timeout_ms"
            = fieldAt (nodesOf python definition) i "timeout_ms") ↔
              TimeoutsAgree python definition := by
  have hdone := h.done
  constructor
  · intro hkeeps i i' found found' j hfound hfound' hj hj' habsent
    rw [← hkeeps i found hfound j hj habsent, hkeeps i' found' hfound' j hj' habsent]
  · intro hagree i found hfound j hj habsent
    have hfound' := (hdone.fallbackAt_iff (i := i)).2 hfound
    obtain ⟨i', -, found', hfallback, hj', heq⟩ := h.rounds.given i (fallbackAt_lt hfound') found
      hfound' j hj (by rw [hdone.timeout]; exact habsent)
    rw [h.fieldAt_eq, heq, hdone.timeout]
    exact hagree i' i found' found j (hdone.fallbackAt_iff.1 hfallback) hfound hj' hj habsent

/-- An upgrade that returns is idempotent and drops what was disabled; it loses nothing
exactly when no strategy gets a model twice, and fallbacks that share a strategy without a
timeout have the same one. -/
theorem upgrade_keeps_iff
    (h : upgradeV1StrategyOwnership python (.object definition) = .ok (.object definition')) :
    UpgradeKeeps python definition definition' ↔
      (isFirstVersion python definition = true → ListsOnce python definition) ∧
        TimeoutsAgree python definition := by
  obtain ⟨upgraded, moved, hupgraded⟩ := upgrade_eq_ok h
  constructor
  · intro hkeeps
    exact ⟨fun hversion => (settings_iff hupgraded hversion).1 (hkeeps.settings hversion),
      (timeouts_iff hupgraded).1 hkeeps.timeouts⟩
  · rintro ⟨honce, hagree⟩
    exact ⟨hupgraded.idempotent,
      fun hversion => (settings_iff hupgraded hversion).2 (honce hversion),
      fun hversion i enabled hpool => disabled_dropped hupgraded hversion hpool,
      (timeouts_iff hupgraded).2 hagree⟩

/-! ## A pool that lists a model twice -/

namespace Sample

/-- Texts, as Python renders and compares them. -/
def texts : PythonJson Unit where
  str := fun
    | .text value => value
    | _ => ""
  eq := fun
    | .text left, .text right => left == right
    | _, _ => false
  isZero := fun _ => false
  isOne := fun _ => false

def poolOfTwo : Dict Unit :=
  [("id", .text "pool"), ("type", .text "candidate_models"),
    ("candidates", .array [.object [("model_id", .text "gpt")],
      .object [("model_id", .text "gpt"), ("weight", .number (.int 20))]])]

/-- A definition of version 1 whose pool lists a model twice. -/
def twice : Dict Unit :=
  [("nodes", .array
      [.object poolOfTwo, .object [("id", .text "strategy"), ("type", .text "strategy")]]),
    ("edges", .array [])]

end Sample

/-- The strategy gets both settings of the model. -/
theorem upgrade_configures_twice : ¬∀ (definition definition' : Dict Unit),
    upgradeV1StrategyOwnership Sample.texts (.object definition) = .ok (.object definition') →
      UpgradeKeeps Sample.texts definition definition' := by
  intro hclaim
  obtain ⟨definition', hupgrade, hcount⟩ : ∃ definition',
      upgradeV1StrategyOwnership Sample.texts (.object Sample.twice)
          = .ok (.object definition') ∧
        (configTexts Sample.texts (nodesOf Sample.texts definition') 1).count "gpt" = 2 :=
    ⟨_, rfl, rfl⟩
  have hpool : PoolOf Sample.texts (edgesOf Sample.texts Sample.twice)
      (nodesOf Sample.texts Sample.twice) 0 [[("model_id", .text "gpt")],
        [("model_id", .text "gpt"), ("weight", .number (.int 20))]] 1 :=
    ⟨⟨rfl, _, rfl, rfl⟩, rfl⟩
  have hone := ((hclaim _ _ hupgrade).settings rfl 0 _ 1 hpool 0 _ rfl).1
  have htwo : (configTexts Sample.texts (nodesOf Sample.texts definition') 1).count
    (modelText Sample.texts [("model_id", .text "gpt")]) = 2 := hcount
  rw [htwo] at hone
  cases hone

/-! ## A pool of two models, and a fallback -/

namespace Sample

def gpt : Dict Unit :=
  [("model_id", .text "gpt"), ("weight", .number (.int 20))]

def llama : Dict Unit :=
  [("model_id", .text "llama")]

/-- The pool enables two of its three models. -/
def poolOfThree : Dict Unit :=
  [("id", .text "pool"), ("type", .text "candidate_models"),
    ("candidates", .array [.object gpt,
      .object [("model_id", .text "phi"), ("enabled", .bool false)], .object llama])]

def timed : Dict Unit :=
  [("id", .text "fallback"), ("type", .text "fallback"), ("timeout_ms", .number (.int 500))]

/-- The fallback stands behind the strategy. -/
def once : Dict Unit :=
  [("nodes", .array
      [.object poolOfThree, .object [("id", .text "strategy"), ("type", .text "strategy")],
        .object timed]),
    ("edges", .array
      [.object [("source", .text "pool"), ("target", .text "strategy")],
        .object [("source", .text "strategy"), ("target", .text "fallback")]])]

theorem type_of_once {type : String}
    (h : fieldAt (nodesOf texts once) i "type" = .text type) :
    (i = 0 ∧ type = "candidate_models") ∨ (i = 1 ∧ type = "strategy") ∨
      (i = 2 ∧ type = "fallback") := by
  match i, h with
  | 0, h =>
      cases h
      exact .inl ⟨rfl, rfl⟩
  | 1, h =>
      cases h
      exact .inr (.inl ⟨rfl, rfl⟩)
  | 2, h =>
      cases h
      exact .inr (.inr ⟨rfl, rfl⟩)
  | n + 3, h => cases h

theorem pool_of_once {enabled : List (Dict Unit)}
    (h : PoolAt texts (nodesOf texts once) i enabled) : i = 0 ∧ enabled = [gpt, llama] := by
  obtain ⟨rfl, -⟩ | ⟨-, htype⟩ | ⟨-, htype⟩ := type_of_once h.type
  · exact ⟨rfl, h.unique ⟨rfl, _, rfl, rfl⟩⟩
  · exact absurd htype (by decide)
  · exact absurd htype (by decide)

theorem once_lists : ListsOnce texts once := by
  intro i enabled j hpool text htext
  obtain ⟨rfl, rfl⟩ := pool_of_once hpool.pool
  obtain rfl : 1 = j := Option.some.inj (Except.ok.inj (rfl.trans hpool.chosen))
  have hnone : configTexts texts (nodesOf texts once) 1 = [] := rfl
  have htexts : candidateTexts texts [gpt, llama] = ["gpt", "llama"] := rfl
  have hcount : ∀ text ∈ ["gpt", "llama"], ["gpt", "llama"].count text = 1 := by decide
  rw [hnone]
  rw [htexts] at htext ⊢
  exact ⟨Nat.zero_le _, fun _ _ => hcount text htext⟩

theorem fallback_of_once {found : List ℕ}
    (h : FallbackAt texts (edgesOf texts once) (nodesOf texts once) i found) : i = 2 := by
  obtain ⟨-, htype⟩ | ⟨-, htype⟩ | ⟨rfl, -⟩ := type_of_once h.type
  · exact absurd htype (by decide)
  · exact absurd htype (by decide)
  · rfl

theorem once_agrees : TimeoutsAgree texts once := by
  intro i i' found found' j h h' _ _ _
  rw [fallback_of_once h, fallback_of_once h']

end Sample

/-- The strategy gets the settings of both models, and the timeout of the fallback. -/
theorem upgrade_keeps_iff_sample : ∃ definition',
    upgradeV1StrategyOwnership Sample.texts (.object Sample.once)
        = .ok (.object definition') ∧
      configsAt Sample.texts (nodesOf Sample.texts definition') 1
        = [configOf 0 Sample.gpt, configOf 1 Sample.llama] ∧
      fieldAt (nodesOf Sample.texts definition') 1 "timeout_ms" = .number (.int 500) ∧
      UpgradeKeeps Sample.texts Sample.once definition' :=
  ⟨_, rfl, rfl, rfl, (upgrade_keeps_iff rfl).2 ⟨fun _ => Sample.once_lists, Sample.once_agrees⟩⟩

end RouterUpgrade

end Turnstile
