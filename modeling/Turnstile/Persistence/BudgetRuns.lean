import Turnstile.Persistence.BudgetSwitch

/-!
# Runs of the budget repository

Every call of the repository, from an empty store on, keeps the hierarchy, whether or not it
raises, provided that each upsert is given the limit of its mode only and the amounts are fair.
-/

namespace Turnstile

open Guard Procedure BudgetRow

/-! ## A unit switch -/

/-- Rows that take the places of stored ones are all written. -/
theorem meets_each_replace {updated : List BudgetRow} {s : BudgetStore}
    {post : Unit → BudgetStore → Prop} {fails : BudgetError → BudgetStore → Prop}
    (hnodup : (s.tokenBudgets.map key).Nodup)
    (h : ∀ row ∈ updated, row.key ∈ s.tokenBudgets.map key)
    (hpost : post () (updated.foldl BudgetStore.putBudget s)) :
    Meets (each (fun row => do
      let s ← (get : BudgetProcedure BudgetStore)
      let _ ← demand (s.budget? row.key) .keyError
      modify fun s => s.putBudget row) updated) s post fails := by
  induction updated generalizing s with
  | nil => exact hpost
  | cons row updated ih =>
      have hrow := h row List.mem_cons_self
      have hkeys : (s.putBudget row).tokenBudgets.map key = s.tokenBudgets.map key :=
        Rows.keys_put_of_mem hnodup hrow
      unfold each
      simp only [meets_bind, meets_get, meets_demand, meets_modify]
      refine ⟨fun _ _ => ih (hkeys ▸ hnodup) (fun other hother => ?_) hpost, fun hnone => ?_⟩
      · rw [hkeys]
        exact h other (List.mem_cons_of_mem row hother)
      · obtain ⟨old, hold, hkey⟩ := List.mem_map.1 hrow
        exact absurd hkey (Rows.find?_eq_none.1 hnone old hold)

/-- What a unit switch makes of the stored rows: the same rows, with the new limits in the
organization's tree and unchanged outside it. -/
structure SwitchedRows (rows rows' : List BudgetRow) (periodStart : ℤ) (organizationId : Text) :
    Prop where
  hierarchy : Hierarchy rows'
  keys : rows'.map key = rows.map key
  outside : ∀ row ∈ rows, ¬InTree rows periodStart organizationId row → row ∈ rows'

section Switch

variable {rows : List BudgetRow} {periodStart : ℤ} {organizationId : Text}
  {previousMode mode : BudgetMode} {tree : List (BudgetRow × BudgetRow)}

/-- The row that is stored in the place of a row. -/
def replacement (tree : List (BudgetRow × BudgetRow)) (row : BudgetRow) : BudgetRow :=
  (Rows.find? key row.key (tree.map (·.2))).getD row

theorem key_replacement (row : BudgetRow) : (replacement tree row).key = row.key := by
  unfold replacement
  cases hfind : Rows.find? key row.key (tree.map (·.2)) with
  | none => rfl
  | some new => exact Rows.key_of_find? hfind

namespace SwitchedTree

theorem keys (h : SwitchedTree rows periodStart organizationId previousMode mode tree) :
    (tree.map (·.2)).map key = (tree.map (·.1)).map key := by
  rw [List.map_map, List.map_map]
  exact List.map_congr_left fun pair hpair => (h.rescaled pair hpair).key

variable (hrows : Hierarchy rows)
  (h : SwitchedTree rows periodStart organizationId previousMode mode tree)

include hrows h

theorem keys_nodup : ((tree.map (·.2)).map key).Nodup := by
  rw [h.keys]
  refine List.Nodup.map_on (fun p hp q hq heq => ?_) h.nodup
  exact Rows.eq_of_key hrows.nodup ((h.mem p).1 hp).1 ((h.mem q).1 hq).1 heq

theorem replacement_of_mem {pair : BudgetRow × BudgetRow} (hpair : pair ∈ tree) :
    replacement tree pair.1 = pair.2 := by
  have hfind : Rows.find? key pair.1.key (tree.map (·.2)) = some pair.2 :=
    (Rows.find?_eq_some (h.keys_nodup hrows)).2
      ⟨List.mem_map_of_mem hpair, (h.rescaled pair hpair).key⟩
  rw [replacement, hfind]
  rfl

theorem replacement_of_not_mem {row : BudgetRow} (hrow : row ∈ rows)
    (hout : ¬InTree rows periodStart organizationId row) : replacement tree row = row := by
  have hfind : Rows.find? key row.key (tree.map (·.2)) = none := by
    refine Rows.find?_eq_none.2 fun new hnew hkey => hout ?_
    obtain ⟨pair, hpair, rfl⟩ := List.mem_map.1 hnew
    rw [(h.rescaled pair hpair).key] at hkey
    obtain ⟨hold, hin⟩ := (h.mem pair.1).1 (List.mem_map_of_mem hpair)
    exact Rows.eq_of_key hrows.nodup hold hrow hkey ▸ hin
  rw [replacement, hfind]
  rfl

/-- The rows under a row of the tree are rows of the tree. -/
theorem children_perm {pair : BudgetRow × BudgetRow} (hpair : pair ∈ tree) :
    (rows.filter fun row => Under pair.1 row).Perm
      ((tree.filter fun child => Under pair.1 child.1).map (·.1)) := by
  have hold := (h.mem pair.1).1 (List.mem_map_of_mem hpair)
  have hfilter : (tree.filter fun child => Under pair.1 child.1).map (·.1) =
      (tree.map (·.1)).filter fun row => Under pair.1 row := by
    rw [List.filter_map]
    rfl
  rw [hfilter]
  refine (List.perm_ext_iff_of_nodup ((List.Nodup.of_map _ hrows.nodup).filter _)
    (h.nodup.filter _)).2 fun row => ?_
  rw [List.mem_filter, List.mem_filter, h.mem]
  constructor
  · rintro ⟨hrow, hunder⟩
    exact ⟨⟨hrow, (inTree_iff_of_under hrows.nodup hold.1 (of_decide_eq_true hunder)).2 hold.2⟩,
      hunder⟩
  · rintro ⟨⟨hrow, -⟩, hunder⟩
    exact ⟨hrow, hunder⟩

/-- The new limits keep the hierarchy. -/
theorem switchedRows :
    SwitchedRows rows (rows.map (replacement tree)) periodStart organizationId where
  keys := by
    rw [List.map_map]
    exact List.map_congr_left fun row _ => key_replacement row
  outside := fun row hrow hout =>
    List.mem_map.2 ⟨row, hrow, h.replacement_of_not_mem hrows hrow hout⟩
  hierarchy := by
    -- A row is the old row of a pair of the tree, or it is not in the tree.
    have hcases : ∀ row ∈ rows, (∃ pair ∈ tree, pair.1 = row) ∨
        ¬InTree rows periodStart organizationId row := by
      intro row hrow
      by_cases hin : InTree rows periodStart organizationId row
      · exact .inl (List.mem_map.1 ((h.mem row).2 ⟨hrow, hin⟩))
      · exact .inr hin
    refine hrows.map key_replacement ?_ ?_ ?_ ?_
    · intro row hrow
      rcases hcases row hrow with ⟨pair, hpair, rfl⟩ | hout
      · rw [h.replacement_of_mem hrows hpair]
        exact (h.rescaled pair hpair).parent
      · rw [h.replacement_of_not_mem hrows hrow hout]
    · intro row hrow
      rcases hcases row hrow with ⟨pair, hpair, rfl⟩ | hout
      · rw [h.replacement_of_mem hrows hpair]
        exact (h.rescaled pair hpair).new
      · rw [h.replacement_of_not_mem hrows hrow hout]
        exact hrows.regular row hrow
    · intro parent hparent row hrow hunder
      have hiff : InTree rows periodStart organizationId row ↔
          InTree rows periodStart organizationId parent :=
        inTree_iff_of_under hrows.nodup hparent hunder
      rcases hcases parent hparent with ⟨pair, hpair, rfl⟩ | hout
      · have hin := ((h.mem pair.1).1 (List.mem_map_of_mem hpair)).2
        rcases hcases row hrow with ⟨child, hchild, rfl⟩ | hout
        · rw [h.replacement_of_mem hrows hpair, h.replacement_of_mem hrows hchild,
            (h.rescaled pair hpair).newMode, (h.rescaled child hchild).newMode]
        · exact absurd (hiff.2 hin) hout
      · rw [h.replacement_of_not_mem hrows hparent hout,
          h.replacement_of_not_mem hrows hrow fun hin => hout (hiff.1 hin)]
        exact hrows.modes parent hparent row hrow hunder
    · intro parent hparent
      rcases hcases parent hparent with ⟨pair, hpair, rfl⟩ | hout
      · rw [h.replacement_of_mem hrows hpair,
          ((h.children_perm hrows hpair).map fun row => (replacement tree row).amount).sum_eq,
          List.map_map]
        refine le_of_eq_of_le (congrArg List.sum (List.map_congr_left fun child hchild => ?_))
          (h.sums pair hpair)
        rw [Function.comp_apply, h.replacement_of_mem hrows (List.mem_of_mem_filter hchild)]
      · rw [h.replacement_of_not_mem hrows hparent hout]
        refine le_of_eq_of_le (congrArg List.sum (List.map_congr_left fun row hrow => ?_))
          (hrows.sums parent hparent)
        obtain ⟨hrow, hunder⟩ := List.mem_filter.1 hrow
        have hiff : InTree rows periodStart organizationId row ↔
            InTree rows periodStart organizationId parent :=
          inTree_iff_of_under hrows.nodup hparent (of_decide_eq_true hunder)
        rw [h.replacement_of_not_mem hrows hrow fun hin => hout (hiff.1 hin)]

end SwitchedTree

end Switch

/-- A unit switch stores the rows of the tree with their new limits, or raises before it has
written anything. -/
theorem switchOrganizationBudget_meets {periodStart : ℤ} {organizationId : Text} {mode : BudgetMode}
    {amount threshold : ℤ} (hfair : Fair mode amount) {s : BudgetStore} (hs : InHierarchy s) :
    Meets (switchOrganizationBudget periodStart organizationId mode amount threshold) s
      (fun _ t => SwitchedRows s.tokenBudgets t.tokenBudgets periodStart organizationId)
      fun _ t => t = s := by
  unfold switchOrganizationBudget
  simp only [meets_bind, meets_get, meets_lift]
  refine ⟨fun updated hupdated => ?_, fun _ _ => trivial⟩
  obtain ⟨previousMode, tree, rfl, htree⟩ := proportionalBudgetTree_ok hs hfair hupdated
  have hmem : ∀ row ∈ tree.map (·.2), row.key ∈ s.tokenBudgets.map key := by
    intro row hrow
    obtain ⟨pair, hpair, rfl⟩ := List.mem_map.1 hrow
    rw [(htree.rescaled pair hpair).key]
    exact List.mem_map_of_mem ((htree.mem pair.1).1 (List.mem_map_of_mem hpair)).1
  refine meets_each_replace hs.nodup hmem ?_
  rw [tokenBudgets_foldl_putBudget, Rows.foldl_put_of_mem hs.nodup (htree.keys_nodup hs) hmem]
  exact htree.switchedRows hs

theorem switchOrganizationBudget_keeps {periodStart : ℤ} {organizationId : Text} {mode : BudgetMode}
    {amount threshold : ℤ} (hfair : Fair mode amount) :
    Keeps InHierarchy (switchOrganizationBudget periodStart organizationId mode amount threshold) :=
  fun _ hs => (switchOrganizationBudget_meets hfair hs).mono (fun _ _ h => h.hierarchy)
    fun _ _ h => h ▸ hs

/-! ## Runs -/

/-- A call of the repository. -/
inductive BudgetCall where
  | upsert (row : BudgetRow)
  | bulkUpsert (periodStart : ℤ) (departmentId : Text) (entries : List (Text × ℤ))
      (warningThresholdPercent : ℤ) (mode : BudgetMode) (selectedUserIds : Option (List Text))
      (modelIds : Option (List UUID))
  | switch (periodStart : ℤ) (organizationId : Text) (mode : BudgetMode)
      (amount warningThresholdPercent : ℤ)
  | delete (key : BudgetKey)
  | rollForward (periodStart : ℤ)
deriving DecidableEq

namespace BudgetCall

/-- The store after a call, whether or not it raised. -/
def perform : BudgetCall → BudgetStore → BudgetStore
  | upsert row => (upsertTokenBudget row).after
  | bulkUpsert periodStart departmentId entries threshold mode selectedUserIds modelIds =>
      (bulkUpsertUserBudgets periodStart departmentId entries threshold mode selectedUserIds
        modelIds).after
  | switch periodStart organizationId mode amount threshold =>
      (switchOrganizationBudget periodStart organizationId mode amount threshold).after
  | delete key => (deleteTokenBudget key).after
  | rollForward periodStart => (rollForwardBudgets periodStart).after

/-- The amounts of a call are positive. -/
def Positive : BudgetCall → Prop
  | upsert row => (∀ limit ∈ row.tokenLimit, 0 < limit) ∧ ∀ limit ∈ row.usdLimit, 0 < limit
  | bulkUpsert _ _ entries _ _ _ _ => ∀ entry ∈ entries, 0 < entry.2
  | switch _ _ _ amount _ => 0 < amount
  | delete _ => True
  | rollForward _ => True

/-- The amounts of a call are fair, and an upsert has the limit of its mode only. -/
def Regular : BudgetCall → Prop
  | upsert row => OneFairLimit row
  | bulkUpsert _ _ entries _ mode _ _ => ∀ entry ∈ entries, Fair mode entry.2
  | switch _ _ mode amount _ => Fair mode amount
  | delete _ => True
  | rollForward _ => True

theorem perform_keeps {call : BudgetCall} (hcall : call.Regular) {s : BudgetStore}
    (hs : InHierarchy s) : InHierarchy (call.perform s) := by
  cases call with
  | upsert row => exact (upsertTokenBudget_keeps hcall).after hs
  | bulkUpsert periodStart departmentId entries threshold mode selectedUserIds modelIds =>
      exact (bulkUpsertUserBudgets_keeps hcall).after hs
  | switch periodStart organizationId mode amount threshold =>
      exact (switchOrganizationBudget_keeps hcall).after hs
  | delete key => exact (deleteTokenBudget_keeps key).after hs
  | rollForward periodStart => exact (rollForwardBudgets_keeps periodStart).after hs

end BudgetCall

/-- The states of a repository that was started without budgets, after calls of some kind. -/
inductive ReachableBudgets (allowed : BudgetCall → Prop) : BudgetStore → Prop
  | empty {s : BudgetStore} (hbudgets : s.tokenBudgets = [])
      (hmarkers : ∀ period, s.budgetRollForward period = none) : ReachableBudgets allowed s
  | call {s : BudgetStore} {call : BudgetCall} (h : ReachableBudgets allowed s)
      (hallowed : allowed call) : ReachableBudgets allowed (call.perform s)

theorem hierarchy_of_reachable {s : BudgetStore} (h : ReachableBudgets BudgetCall.Regular s) :
    InHierarchy s := by
  induction h with
  | empty hbudgets _ =>
      unfold InHierarchy
      rw [hbudgets]
      exact Hierarchy.empty
  | call _ hallowed ih => exact BudgetCall.perform_keeps hallowed ih

/-- After any regular calls, whether or not they raised, the limits of the rows under a row are
of its unit and add up to at most its limit, and each row has one limit.  A unit switch of an
organization keeps the rows, with positive limits, and the rows outside its tree as they were. -/
theorem budgets_within_parents {s : BudgetStore} (h : ReachableBudgets BudgetCall.Regular s) :
    (∀ parent ∈ s.tokenBudgets,
      (∀ row ∈ s.tokenBudgets, Under parent row → row.budgetMode = parent.budgetMode) ∧
        allocated s.tokenBudgets parent ≤ parent.amount) ∧
    (∀ row ∈ s.tokenBudgets, ∀ mode, row.limit mode ≠ none ↔ mode = row.budgetMode) ∧
    ∀ (periodStart : ℤ) (organizationId : Text) (mode : BudgetMode) (amount threshold : ℤ),
      Fair mode amount →
      let t := (BudgetCall.switch periodStart organizationId mode amount threshold).perform s
      t.tokenBudgets.map key = s.tokenBudgets.map key ∧
        (∀ row ∈ t.tokenBudgets, 0 < row.amount) ∧
        ∀ row ∈ s.tokenBudgets, ¬InTree s.tokenBudgets periodStart organizationId row →
          row ∈ t.tokenBudgets := by
  have hs := hierarchy_of_reachable h
  refine ⟨fun parent hparent => ⟨hs.modes parent hparent, hs.sums parent hparent⟩,
    fun row hrow => (hs.regular row hrow).oneLimit, ?_⟩
  intro periodStart organizationId mode amount threshold hfair
  have hsame : SwitchedRows s.tokenBudgets s.tokenBudgets periodStart organizationId :=
    ⟨hs, rfl, fun row hrow _ => hrow⟩
  have hswitched : SwitchedRows s.tokenBudgets
      ((switchOrganizationBudget periodStart organizationId mode amount threshold).after
        s).tokenBudgets periodStart organizationId := by
    have hmeets : Procedure.Meets
        (switchOrganizationBudget periodStart organizationId mode amount threshold) s
        (fun _ t => SwitchedRows s.tokenBudgets t.tokenBudgets periodStart organizationId)
        fun _ t => t = s :=
      switchOrganizationBudget_meets hfair hs
    exact after_of_meets (I := fun t => SwitchedRows s.tokenBudgets t.tokenBudgets periodStart
      organizationId) (hmeets.mono (fun _ _ ht => ht) fun _ _ ht => ht ▸ hsame)
  exact ⟨hswitched.keys, fun row hrow => (hswitched.hierarchy.regular row hrow).pos,
    hswitched.outside⟩

/-! ## A row with two limits -/

/-- A store without budgets. -/
def noBudgets : BudgetStore where
  tokenBudgets := []
  tokenBudgetAudit := []
  budgetRollForward := fun _ => none
  enabledModels := []
  userModelPolicies := fun _ => none
  userModelAccessAudit := []

/-- A row of an organization, with the limits it is given. -/
def organizationRow (mode : BudgetMode) (tokenLimit usdLimit : Option ℤ) : BudgetRow where
  periodStart := 739311
  scopeType := .organization
  scopeId := .plain "acme"
  parentScopeId := none
  budgetMode := mode
  tokenLimit := tokenLimit
  usdLimit := usdLimit
  warningThresholdPercent := 80

/-- A row of a department of the organization. -/
def departmentRow (mode : BudgetMode) (tokenLimit usdLimit : Option ℤ) : BudgetRow :=
  { organizationRow mode tokenLimit usdLimit with
    scopeType := .department
    scopeId := .plain "research"
    parentScopeId := some (.plain "acme") }

/-- An organization of 300 dollars with a department of 100, switched to 1000 tokens. -/
theorem switched_department_within_parent :
    let s := (BudgetCall.switch 739311 (.plain "acme") .tokens 1000 80).perform
      ((BudgetCall.upsert (departmentRow .usd none (some (100 * 10 ^ 14)))).perform
        ((BudgetCall.upsert (organizationRow .usd none (some (300 * 10 ^ 14)))).perform noBudgets))
    departmentRow .tokens (some 333) none ∈ s.tokenBudgets ∧
      (∀ row ∈ s.tokenBudgets, ∀ mode, row.limit mode ≠ none ↔ mode = row.budgetMode) := by
  refine ⟨by decide +kernel, (budgets_within_parents ?_).2.1⟩
  refine .call (.call (.call (.empty rfl fun _ => rfl) ?_) ?_) ?_
  · exact oneFairLimit_withLimit (organizationRow .usd none none) ⟨by decide, by decide, by decide⟩
  · exact oneFairLimit_withLimit (departmentRow .usd none none) ⟨by decide, by decide, by decide⟩
  · exact ⟨by decide, by decide, by decide⟩

/-- A token budget of 100 that also has a USD limit is stored with both. -/
theorem token_row_with_usd_limit :
    ¬∀ s, ReachableBudgets BudgetCall.Positive s →
      ∀ row ∈ s.tokenBudgets, row.budgetMode = .tokens → row.usdLimit = none := by
  intro hall
  have hrow := hall ((BudgetCall.upsert (organizationRow .tokens (some 100)
    (some (5 * 10 ^ 14)))).perform noBudgets)
    (.call (.empty rfl fun _ => rfl) ⟨by decide, by decide⟩)
    (organizationRow .tokens (some 100) (some (5 * 10 ^ 14))) (by decide) rfl
  cases hrow

end Turnstile
