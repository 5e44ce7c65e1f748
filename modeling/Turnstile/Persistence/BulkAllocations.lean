import Turnstile.Persistence.BudgetRuns

/-!
# Allocations of a department

A bulk upsert checks the total of a department once, against the limits that it will have, and
then writes the users one after another.  Each of these upserts is checked against the limits
that the other users have at that moment: the new ones of the users before it, and the old
ones of the users after it.  The models are looked up last, when the budgets are written.

So an allocation that fits can be refused, because a user that gets more comes before one that
gets less, and what was written before a refusal stays.  `DepartmentHolds.allocateUsers_iff`
says which allocations go through, and `allocation_settles_iff` when the whole call does what
its total says, or nothing.
-/

namespace Turnstile

open Guard Procedure BudgetRow

/-! ## The rows of a department -/

/-- What is allocated of the budget of a row to some of the scopes. -/
def allocatedTo (rows : List BudgetRow) (parent : BudgetRow) (ids : List Text) : ℤ :=
  allocated (rows.filter fun row => row.scopeId ∈ ids) parent

/-- What is allocated of the budget of a row to the other scopes. -/
def allocatedBeside (rows : List BudgetRow) (parent : BudgetRow) (ids : List Text) : ℤ :=
  allocated (rows.filter fun row => row.scopeId ∉ ids) parent

theorem allocated_filter (rows : List BudgetRow) (parent : BudgetRow) (q : BudgetRow → Bool) :
    allocated (rows.filter q) parent + allocated (rows.filter fun row => !q row) parent
      = allocated rows parent := by
  rw [← allocated_append]
  exact allocated_perm (List.filter_append_perm q rows) parent

/-- A scope that is none of some others. -/
theorem allocatedBeside_singleton {rows : List BudgetRow} {parent : BudgetRow} {id : Text}
    {ids : List Text} (h : id ∉ ids) :
    allocatedBeside rows parent [id]
      = allocatedBeside rows parent (id :: ids) + allocatedTo rows parent ids := by
  have hsplit := allocated_filter (rows.filter fun row => row.scopeId ∉ [id]) parent
    fun row => row.scopeId ∉ ids
  rw [List.filter_filter, List.filter_filter] at hsplit
  rw [allocatedBeside, ← hsplit]
  unfold allocatedBeside allocatedTo
  congr 2
  · refine List.filter_congr fun row _ => ?_
    rw [← Bool.decide_and]
    refine decide_eq_decide.2 ?_
    rw [List.mem_singleton, List.mem_cons, not_or, and_comm]
  · refine List.filter_congr fun row _ => ?_
    rw [← decide_not, ← Bool.decide_and]
    refine decide_eq_decide.2 ⟨fun hboth => not_not.1 hboth.1, fun hmem => ⟨not_not.2 hmem, ?_⟩⟩
    rw [List.mem_singleton]
    rintro rfl
    exact h hmem

/-- Only the rows under a row count. -/
theorem allocated_congr {rows : List BudgetRow} {parent : BudgetRow} {q q' : BudgetRow → Bool}
    (h : ∀ row ∈ rows, Under parent row → q row = q' row) :
    allocated (rows.filter q) parent = allocated (rows.filter q') parent := by
  unfold allocated
  rw [List.filter_filter, List.filter_filter]
  have hfilter : rows.filter (fun row => decide (Under parent row) && q row) =
      rows.filter fun row => decide (Under parent row) && q' row := by
    refine List.filter_congr fun row hrow => ?_
    by_cases hunder : Under parent row
    · rw [h row hrow hunder]
    · simp [hunder]
  rw [hfilter]

theorem allocatedBeside_nil (rows : List BudgetRow) (parent : BudgetRow) :
    allocatedBeside rows parent [] = allocated rows parent := by
  have hall : rows.filter (fun row => row.scopeId ∉ ([] : List Text)) = rows :=
    List.filter_eq_self.2 fun row _ => by simp
  rw [allocatedBeside, hall]

theorem allocatedTo_put {rows : List BudgetRow} {parent row : BudgetRow} {ids : List Text}
    (h : row.scopeId ∉ ids) :
    allocatedTo (Rows.put key row rows) parent ids = allocatedTo rows parent ids := by
  unfold allocatedTo
  have hsame : (Rows.put key row rows).filter (fun other => other.scopeId ∈ ids) =
      rows.filter fun other => other.scopeId ∈ ids := by
    refine Rows.filter_put (by simpa using h) fun other _ hkey => ?_
    have hid : other.scopeId = row.scopeId := congrArg (fun key : BudgetKey => key.2.2) hkey
    simpa [hid] using h
  rw [hsame]

/-- A row under a row is known by its scope. -/
theorem key_ne_iff {parent row other : BudgetRow} (h : Under parent row) (h' : Under parent other) :
    other.key ≠ row.key ↔ other.scopeId ≠ row.scopeId := by
  have hperiod : other.periodStart = row.periodStart := h'.1.trans h.1.symm
  have htype : other.scopeType = row.scopeType := Option.some.inj (h'.2.1.trans h.2.1.symm)
  rw [not_iff_not, key, key, hperiod, htype, Prod.mk.injEq, Prod.mk.injEq]
  simp

theorem allocatedBeside_put {rows : List BudgetRow} (hnodup : (rows.map key).Nodup)
    {parent row : BudgetRow} (hunder : Under parent row) {ids : List Text} (h : row.scopeId ∉ ids) :
    allocatedBeside (Rows.put key row rows) parent ids
      = row.amount + allocatedBeside rows parent (row.scopeId :: ids) := by
  have hrest : allocated ((rows.filter fun other => other.key ≠ row.key).filter
      fun other => other.scopeId ∉ ids) parent
      = allocatedBeside rows parent (row.scopeId :: ids) := by
    rw [List.filter_filter, allocatedBeside]
    refine allocated_congr fun other _ hother => ?_
    rw [← Bool.decide_and]
    refine decide_eq_decide.2 ?_
    rw [key_ne_iff hunder hother, List.mem_cons, not_or, and_comm]
  rw [allocatedBeside, allocated_perm ((Rows.put_perm hnodup row).filter _),
    List.filter_cons_of_pos (by simpa using h), allocated_cons, if_pos hunder, hrest]

/-! ## Sums -/

/-- A positive amount; in USD a fair one. -/
def Payable (mode : BudgetMode) (amount : ℤ) : Prop :=
  0 < amount ∧ (mode = .usd → Fair .usd amount)

theorem Fair.payable {mode : BudgetMode} {amount : ℤ} (h : Fair mode amount) :
    Payable mode amount :=
  ⟨h.1, fun husd => husd ▸ h⟩

variable {mode : BudgetMode} {bound : ℤ}

theorem sum_nonneg_of_payable {limits : List ℤ} (h : ∀ limit ∈ limits, Payable mode limit) :
    0 ≤ limits.sum :=
  List.sum_nonneg fun limit hlimit => (h limit hlimit).1.le

theorem sumLimits_payable {limits : List ℤ} (h : ∀ limit ∈ limits, Payable mode limit)
    (hbound : Payable mode bound) :
    sumLimits defaultContext mode limits ≤ bound ↔ limits.sum ≤ bound := by
  cases mode with
  | tokens => rw [sumLimits_tokens]
  | usd =>
      exact sumLimits_le_iff (by decide) (fun limit hlimit => (h limit hlimit).2 rfl)
        (hbound.2 rfl).2.1

/-- The sum of two sums is compared as it is. -/
theorem addLimits_sums {limits limits' : List ℤ} (h : ∀ limit ∈ limits, Payable mode limit)
    (h' : ∀ limit ∈ limits', Payable mode limit) (hbound : Payable mode bound) :
    addLimits defaultContext mode (sumLimits defaultContext mode limits)
        (sumLimits defaultContext mode limits') ≤ bound ↔
      limits.sum + limits'.sum ≤ bound := by
  cases mode with
  | tokens => rw [sumLimits_tokens, sumLimits_tokens, addLimits]
  | usd =>
      obtain ⟨-, hsmall, -⟩ := hbound.2 rfl
      have hwide : bound < 10 ^ (defaultContext.prec + 12) := hsmall.trans_le (by decide)
      have hcents : ∀ {amounts : List ℤ}, (∀ limit ∈ amounts, Payable .usd limit) →
          ∀ limit ∈ amounts, 0 ≤ limit ∧ 10 ^ 12 ∣ limit := fun hall limit hlimit =>
        ⟨(hall limit hlimit).1.le, ((hall limit hlimit).2 rfl).2.2 rfl⟩
      obtain ⟨hsum, hdvd⟩ := Rounding.sumTo_nonneg (p := defaultContext.prec) (hcents h)
      obtain ⟨hsum', hdvd'⟩ := Rounding.sumTo_nonneg (p := defaultContext.prec) (hcents h')
      have hpos := sum_nonneg_of_payable h
      have hpos' := sum_nonneg_of_payable h'
      change Rounding.roundTo defaultContext.prec (Rounding.sumTo defaultContext.prec limits
        + Rounding.sumTo defaultContext.prec limits') ≤ bound ↔ _
      constructor
      · intro hle
        have hexact := Rounding.le_of_roundTo_le (by decide) (add_nonneg hsum hsum')
          (dvd_add hdvd hdvd') hwide hle
        rw [Rounding.sumTo_le (by decide) hwide (hcents h) (by omega),
          Rounding.sumTo_le (by decide) hwide (hcents h') (by omega)] at hexact
        exact hexact
      · intro hle
        have hexact := Rounding.sumTo_of_sum_le hwide (hcents h) (by omega)
        have hexact' := Rounding.sumTo_of_sum_le hwide (hcents h') (by omega)
        rw [hexact] at hdvd ⊢
        rw [hexact'] at hdvd' ⊢
        rwa [Rounding.roundTo_of_dvd (add_nonneg hpos hpos') (by omega) (dvd_add hdvd hdvd')]

/-! ## The states of an allocation -/

/-- The limit of a row in its own unit, which can be paid. -/
structure BudgetRow.Funded (row : BudgetRow) : Prop where
  limit : row.limit row.budgetMode = some row.amount
  payable : Payable row.budgetMode row.amount

/-- The hierarchy holds for a department: its users have its unit, and their limits add up to
at most its own. -/
structure DepartmentHolds (s : BudgetStore) (department : BudgetRow) : Prop where
  nodup : (s.tokenBudgets.map key).Nodup
  stored : department ∈ s.tokenBudgets
  type : department.scopeType = .department
  funded : department.Funded
  rows : ∀ row ∈ s.tokenBudgets, Under department row →
    row.Funded ∧ row.budgetMode = department.budgetMode
  sum : allocated s.tokenBudgets department ≤ department.amount

theorem BudgetRow.Regular.funded {row : BudgetRow} (h : row.Regular) : row.Funded :=
  ⟨limit_budgetMode h, h.fair.payable⟩

theorem InHierarchy.department {s : BudgetStore} (hs : InHierarchy s) {department : BudgetRow}
    (hstored : department ∈ s.tokenBudgets) (htype : department.scopeType = .department) :
    DepartmentHolds s department where
  nodup := hs.nodup
  stored := hstored
  type := htype
  funded := (hs.regular department hstored).funded
  rows := fun row hrow hunder =>
    ⟨(hs.regular row hrow).funded, hs.modes department hstored row hrow hunder⟩
  sum := hs.sums department hstored

/-- The store after a row was upserted. -/
def BudgetStore.upserted (s : BudgetStore) (row : BudgetRow) : BudgetStore :=
  if s.budget? row.key = some row then s else s.putBudget row

/-- An upsert writes if both of its checks pass. -/
theorem meets_upsertTokenBudget {s : BudgetStore} {row : BudgetRow} {amount : ℤ}
    (hlimit : row.limit row.budgetMode = some amount) {post : Unit → BudgetStore → Prop}
    {fails : BudgetError → BudgetStore → Prop} :
    Meets (upsertTokenBudget row) s post fails ↔
      (checkParent s row.periodStart row.scopeType row.scopeId row.parentScopeId row.budgetMode
          amount = .ok () ∧
        checkChildren s row.periodStart row.scopeType row.scopeId row.budgetMode amount = .ok () →
          post () (s.upserted row)) ∧
      (∀ e, checkParent s row.periodStart row.scopeType row.scopeId row.parentScopeId
        row.budgetMode amount = .error e → fails e s) ∧
      (∀ e, checkParent s row.periodStart row.scopeType row.scopeId row.parentScopeId
          row.budgetMode amount = .ok () →
        checkChildren s row.periodStart row.scopeType row.scopeId row.budgetMode amount = .error e →
          fails e s) := by
  unfold upsertTokenBudget
  simp only [meets_bind, meets_get, meets_demand, meets_lift, hlimit, Option.some.injEq, forall_eq']
  have hwrite : Meets (if s.budget? row.key = some row then pure ()
      else modify fun s => s.putBudget row : BudgetProcedure Unit) s post fails ↔
      post () (s.upserted row) := by
    unfold BudgetStore.upserted
    split
    · exact meets_pure
    · exact meets_modify
  cases hparent : checkParent s row.periodStart row.scopeType row.scopeId row.parentScopeId
      row.budgetMode amount with
  | error e => simp
  | ok u =>
      cases hchildren : checkChildren s row.periodStart row.scopeType row.scopeId row.budgetMode
          amount with
      | error e => simp
      | ok u => simpa using hwrite

namespace DepartmentHolds

variable {s : BudgetStore} {department : BudgetRow} (h : DepartmentHolds s department)

include h

theorem budget?_department :
    s.budget? (department.periodStart, .department, department.scopeId) = some department := by
  have hkey : department.key = (department.periodStart, .department, department.scopeId) := by
    rw [key, h.type]
  exact (Rows.find?_eq_some h.nodup).2 ⟨h.stored, hkey⟩

omit h in
theorem under_iff (htype : department.scopeType = .department) {row : BudgetRow} :
    Under department row ↔ row.periodStart = department.periodStart ∧ row.scopeType = .user ∧
      row.parentScopeId = some department.scopeId := by
  unfold Under
  rw [htype, BudgetScopeType.child?, Option.some_inj]

variable (threshold : ℤ) {entry : Text × ℤ}

/-- The row of an entry is one under the department. -/
theorem under_entryRow :
    Under department (entryRow department.periodStart department.scopeId threshold
      department.budgetMode entry) :=
  (under_iff h.type).2 ⟨rfl, rfl, rfl⟩

/-- The limits of the rows under the department that satisfy a condition. -/
theorem limits_payable (q : BudgetRow → Bool) :
    ∀ limit ∈ ((s.tokenBudgets.filter q).filter fun row => Under department row).map amount,
      Payable department.budgetMode limit := by
  intro limit hlimit
  obtain ⟨row, hrow, rfl⟩ := List.mem_map.1 hlimit
  obtain ⟨hrow, hunder⟩ := List.mem_filter.1 hrow
  obtain ⟨hfunded, hmode⟩ := h.rows row (List.mem_of_mem_filter hrow) (of_decide_eq_true hunder)
  exact hmode ▸ hfunded.payable

/-- The limits of rows under the department are all there. -/
theorem limit_of_under {row : BudgetRow} (hrow : row ∈ s.tokenBudgets)
    (hunder : Under department row) : row.limit department.budgetMode = some row.amount := by
  obtain ⟨hfunded, hmode⟩ := h.rows row hrow hunder
  exact hmode ▸ hfunded.limit

/-! ### The checks -/

/-- The siblings that an upsert of a user looks at. -/
theorem siblings_eq_beside (id : Text) :
    (s.tokenBudgets.filter fun row => row.periodStart = department.periodStart ∧
      row.scopeType = .user ∧ row.parentScopeId = some department.scopeId ∧ row.scopeId ≠ id) =
      (s.tokenBudgets.filter fun row => row.scopeId ∉ [id]).filter
        fun row => Under department row := by
  rw [List.filter_filter]
  refine List.filter_congr fun row _ => ?_
  rw [← Bool.decide_and]
  refine decide_eq_decide.2 ?_
  rw [under_iff h.type, List.mem_singleton, and_assoc, and_assoc]

/-- The rows of the other users that a bulk upsert looks at. -/
theorem unselected_eq_beside (ids : List Text) :
    (s.tokenBudgets.filter fun row => row.periodStart = department.periodStart ∧
      row.scopeType = .user ∧ row.parentScopeId = some department.scopeId ∧ row.scopeId ∉ ids) =
      (s.tokenBudgets.filter fun row => row.scopeId ∉ ids).filter
        fun row => Under department row := by
  rw [List.filter_filter]
  refine List.filter_congr fun row _ => ?_
  rw [← Bool.decide_and]
  refine decide_eq_decide.2 ?_
  rw [under_iff h.type, and_assoc, and_assoc]

theorem modes_filter (q : BudgetRow → Bool) :
    ∀ row ∈ (s.tokenBudgets.filter q).filter fun row => Under department row,
      row.budgetMode = department.budgetMode := by
  intro row hrow
  obtain ⟨hrow, hunder⟩ := List.mem_filter.1 hrow
  exact (h.rows row (List.mem_of_mem_filter hrow) (of_decide_eq_true hunder)).2

theorem completeLimits_filter (q : BudgetRow → Bool) :
    completeLimits department.budgetMode
        ((s.tokenBudgets.filter q).filter fun row => Under department row) =
      .ok (((s.tokenBudgets.filter q).filter fun row => Under department row).map amount) := by
  refine mapM_of_forall fun row hrow => ?_
  obtain ⟨hrow, hunder⟩ := List.mem_filter.1 hrow
  rw [h.limit_of_under (List.mem_of_mem_filter hrow) (of_decide_eq_true hunder)]

theorem numericLimits_filter (q : BudgetRow → Bool) :
    numericLimits department.budgetMode
        ((s.tokenBudgets.filter q).filter fun row => Under department row) =
      .ok (((s.tokenBudgets.filter q).filter fun row => Under department row).map amount) := by
  refine mapM_of_forall fun row hrow => ?_
  obtain ⟨hrow, hunder⟩ := List.mem_filter.1 hrow
  rw [h.limit_of_under (List.mem_of_mem_filter hrow) (of_decide_eq_true hunder)]

/-- The check of an upsert against the department. -/
theorem checkParent_entry (hentry : Payable department.budgetMode entry.2) :
    checkParent s department.periodStart .user entry.1 (some department.scopeId)
        department.budgetMode entry.2 =
      Guard.require
        (allocatedBeside s.tokenBudgets department [entry.1] + entry.2 ≤ department.amount)
        (.constraintViolation "Child budgets exceed parent budget") := by
  have happend : addLimits defaultContext department.budgetMode
      (sumLimits defaultContext department.budgetMode
        (((s.tokenBudgets.filter fun row => row.scopeId ∉ [entry.1]).filter
          fun row => Under department row).map amount)) entry.2 =
      sumLimits defaultContext department.budgetMode
        ((((s.tokenBudgets.filter fun row => row.scopeId ∉ [entry.1]).filter
          fun row => Under department row).map amount) ++ [entry.2]) := by
    rw [sumLimits, sumLimits, List.foldl_append, List.foldl_cons, List.foldl_nil]
  have hpayable : ∀ limit ∈ (((s.tokenBudgets.filter fun row => row.scopeId ∉ [entry.1]).filter
      fun row => Under department row).map amount) ++ [entry.2],
      Payable department.budgetMode limit := by
    intro limit hlimit
    rcases List.mem_append.1 hlimit with hlimit | hlimit
    · exact h.limits_payable _ limit hlimit
    · rw [List.mem_singleton.1 hlimit]
      exact hentry
  unfold checkParent
  simp only [BudgetScopeType.parent?, h.budget?_department, Option.bind_some, h.funded.limit]
  rw [h.siblings_eq_beside, require_bind_of (by simp), require_bind_of (h.modes_filter _),
    h.completeLimits_filter, ok_bind, happend]
  refine if_congr ?_ rfl rfl
  rw [sumLimits_payable hpayable h.funded.payable, List.sum_append, List.sum_singleton]
  rfl

/-- The check of a bulk upsert. -/
theorem checkAllocation_eq {entries : List (Text × ℤ)}
    (hentries : ∀ entry ∈ entries, Payable department.budgetMode entry.2) :
    checkAllocation s department.periodStart department.scopeId entries department.budgetMode =
      Guard.require (allocatedBeside s.tokenBudgets department (entries.map (·.1))
          + (entries.map (·.2)).sum ≤ department.amount)
        (.constraintViolation "User allocations would exceed the department budget") := by
  have hpayable : ∀ limit ∈ entries.map (·.2), Payable department.budgetMode limit := by
    intro limit hlimit
    obtain ⟨entry, hentry, rfl⟩ := List.mem_map.1 hlimit
    exact hentries entry hentry
  unfold checkAllocation
  simp only [h.budget?_department, h.funded.limit]
  rw [h.unselected_eq_beside, require_bind_of trivial, require_bind_of (h.modes_filter _),
    h.numericLimits_filter, ok_bind]
  refine if_congr ?_ rfl rfl
  rw [addLimits_sums (h.limits_payable _) hpayable h.funded.payable]
  rfl

/-! ### The upsert of a user -/

/-- An upsert of a user goes through if its limit fits beside those that the others have. -/
theorem meets_upsert (hentry : Payable department.budgetMode entry.2)
    {post : Unit → BudgetStore → Prop} {fails : BudgetError → BudgetStore → Prop} :
    Meets (upsertTokenBudget (entryRow department.periodStart department.scopeId threshold
        department.budgetMode entry)) s post fails ↔
      (allocatedBeside s.tokenBudgets department [entry.1] + entry.2 ≤ department.amount →
        post () (s.upserted (entryRow department.periodStart department.scopeId threshold
          department.budgetMode entry))) ∧
      (¬allocatedBeside s.tokenBudgets department [entry.1] + entry.2 ≤ department.amount →
        fails (.constraintViolation "Child budgets exceed parent budget") s) := by
  have hlimit := limit_withLimit (entryRow department.periodStart department.scopeId threshold
    department.budgetMode entry) department.budgetMode entry.2
  rw [meets_upsertTokenBudget hlimit]
  change (checkParent s department.periodStart .user entry.1 (some department.scopeId)
      department.budgetMode entry.2 = .ok () ∧ Except.ok () = Except.ok () → _) ∧
    (∀ e, checkParent s department.periodStart .user entry.1 (some department.scopeId)
      department.budgetMode entry.2 = .error e → _) ∧
        (∀ e, _ → Except.ok () = Except.error e → _) ↔ _
  rw [h.checkParent_entry hentry]
  simp only [require_eq_ok, require_eq_error]
  simp

/-! ### The store after an upsert -/

omit h in
theorem tokenBudgets_upserted (hnodup : (s.tokenBudgets.map key).Nodup) (row : BudgetRow) :
    (s.upserted row).tokenBudgets = Rows.put key row s.tokenBudgets := by
  unfold BudgetStore.upserted
  split
  next hstored =>
    exact (Rows.put_self hnodup (Rows.mem_of_find? hstored)).symm
  next => rfl

/-- The hierarchy holds after the upsert of a user that fits. -/
theorem upserted (hentry : Payable department.budgetMode entry.2)
    (hfits : allocatedBeside s.tokenBudgets department [entry.1] + entry.2 ≤ department.amount) :
    DepartmentHolds (s.upserted (entryRow department.periodStart department.scopeId threshold
      department.budgetMode entry)) department := by
  have hunder : Under department (entryRow department.periodStart department.scopeId threshold
      department.budgetMode entry) := h.under_entryRow threshold
  have hlimit := limit_withLimit (entryRow department.periodStart department.scopeId threshold
    department.budgetMode entry) department.budgetMode entry.2
  have hamount : (entryRow department.periodStart department.scopeId threshold
      department.budgetMode entry).amount = entry.2 :=
    amount_withLimit (entryRow department.periodStart department.scopeId threshold
      department.budgetMode entry) department.budgetMode entry.2
  have hrows := tokenBudgets_upserted h.nodup (entryRow department.periodStart department.scopeId
    threshold department.budgetMode entry)
  refine ⟨?_, ?_, h.type, h.funded, ?_, ?_⟩
  · rw [hrows]
    exact Rows.nodup_put h.nodup _
  · rw [hrows, Rows.mem_put h.nodup]
    exact .inr ⟨h.stored, hunder.key_ne.symm⟩
  · intro row hrow hrow'
    rw [hrows, Rows.mem_put h.nodup] at hrow
    rcases hrow with rfl | ⟨hold, -⟩
    · refine ⟨⟨?_, ?_⟩, rfl⟩
      · rw [hamount]
        exact hlimit
      · rw [hamount]
        exact hentry
    · exact h.rows row hold hrow'
  · rw [hrows, ← allocatedBeside_nil, allocatedBeside_put h.nodup hunder List.not_mem_nil, hamount,
      add_comm]
    exact hfits

end DepartmentHolds

/-! ## The users in turn -/

/-- The row of a user of a department. -/
def userRow (department : BudgetRow) (threshold : ℤ) (entry : Text × ℤ) : BudgetRow :=
  entryRow department.periodStart department.scopeId threshold department.budgetMode entry

/-- The upserts of an allocation. -/
def allocateUsers (department : BudgetRow) (threshold : ℤ) (entries : List (Text × ℤ)) :
    BudgetProcedure Unit :=
  each (fun entry => upsertTokenBudget (userRow department threshold entry)) entries

theorem allocateUsers_cons (department : BudgetRow) (threshold : ℤ) (entry : Text × ℤ)
    (entries : List (Text × ℤ)) :
    allocateUsers department threshold (entry :: entries) =
      upsertTokenBudget (userRow department threshold entry) >>= fun _ =>
        allocateUsers department threshold entries := rfl

/-- An entry fits beside the limits that the other users have. -/
def FitsBeside (rows : List BudgetRow) (department : BudgetRow) (entry : Text × ℤ) : Prop :=
  allocatedBeside rows department [entry.1] + entry.2 ≤ department.amount

instance (rows : List BudgetRow) (department : BudgetRow) (entry : Text × ℤ) :
    Decidable (FitsBeside rows department entry) :=
  inferInstanceAs (Decidable (_ ≤ _))

/-- Each entry fits beside the new limits of the entries before it, the old ones of the users
after it, and those of the users that are not selected. -/
def StepsFit (rows : List BudgetRow) (department : BudgetRow) (entries : List (Text × ℤ)) : Prop :=
  ∀ before entry after, entries = before ++ entry :: after →
    allocatedBeside rows department (entries.map (·.1)) + (before.map (·.2)).sum + entry.2
      + allocatedTo rows department (after.map (·.1)) ≤ department.amount

/-- The first entry that is not stored as it is given, if there is one, does not fit beside the
limits that the other users have. -/
def WritesNothing (rows : List BudgetRow) (department : BudgetRow) (threshold : ℤ)
    (entries : List (Text × ℤ)) : Prop :=
  ∀ before entry after, entries = before ++ entry :: after →
    (∀ other ∈ before, userRow department threshold other ∈ rows) →
      userRow department threshold entry ∈ rows ∨ ¬FitsBeside rows department entry

theorem stepsFit_nil (rows : List BudgetRow) (department : BudgetRow) :
    StepsFit rows department [] := by
  intro before entry after heq
  cases before with
  | nil => cases heq
  | cons first before => cases heq

theorem stepsFit_cons {rows : List BudgetRow} (hnodup : (rows.map key).Nodup)
    {department : BudgetRow} (htype : department.scopeType = .department) (threshold : ℤ)
    {entry : Text × ℤ} {entries : List (Text × ℤ)} (hentry : entry.1 ∉ entries.map (·.1)) :
    StepsFit rows department (entry :: entries) ↔ FitsBeside rows department entry ∧
      StepsFit (Rows.put key (userRow department threshold entry) rows) department entries := by
  have hunder : Under department (userRow department threshold entry) :=
    (DepartmentHolds.under_iff htype).2 ⟨rfl, rfl, rfl⟩
  have hamount : (userRow department threshold entry).amount = entry.2 :=
    amount_withLimit (userRow department threshold entry) department.budgetMode entry.2
  have hbeside := allocatedBeside_put hnodup hunder hentry
  have hsplit : allocatedBeside rows department [entry.1]
      = allocatedBeside rows department (entry.1 :: entries.map (·.1))
        + allocatedTo rows department (entries.map (·.1)) :=
    allocatedBeside_singleton hentry
  rw [hamount] at hbeside
  change _ = entry.2 + allocatedBeside rows department (entry.1 :: entries.map (·.1)) at hbeside
  have hafter : ∀ before next after, entries = before ++ next :: after →
      (userRow department threshold entry).scopeId ∉ after.map (·.1) := by
    intro before next after heq hmem
    refine hentry ?_
    rw [heq, List.map_append, List.map_cons]
    exact List.mem_append_right _ (List.mem_cons_of_mem _ hmem)
  constructor
  · intro h
    refine ⟨?_, fun before next after heq => ?_⟩
    · have hfirst := h [] entry entries rfl
      rw [List.map_cons, List.map_nil, List.sum_nil] at hfirst
      unfold FitsBeside
      omega
    · have hnext := h (entry :: before) next after (by rw [heq, List.cons_append])
      rw [List.map_cons, List.map_cons, List.sum_cons] at hnext
      rw [hbeside, allocatedTo_put (hafter before next after heq)]
      omega
  · rintro ⟨hfits, hrest⟩ before next after heq
    rw [List.map_cons]
    cases before with
    | nil =>
        obtain ⟨rfl, rfl⟩ := List.cons.inj heq
        unfold FitsBeside at hfits
        rw [List.map_nil, List.sum_nil]
        omega
    | cons first before =>
        obtain ⟨rfl, htail⟩ := List.cons.inj heq
        have hnext := hrest before next after htail
        rw [hbeside, allocatedTo_put (hafter before next after htail)] at hnext
        rw [List.map_cons, List.sum_cons]
        omega

namespace DepartmentHolds

variable {s : BudgetStore} {department : BudgetRow} {entries : List (Text × ℤ)} (threshold : ℤ)

/-- The users of an allocation are upserted, each, if its steps fit. -/
theorem allocateUsers_iff (h : DepartmentHolds s department) (hnodup : (entries.map (·.1)).Nodup)
    (hentries : ∀ entry ∈ entries, Payable department.budgetMode entry.2) :
    Meets (allocateUsers department threshold entries) s (fun _ _ => True) (fun _ _ => False) ↔
      StepsFit s.tokenBudgets department entries := by
  induction entries generalizing s with
  | nil =>
      exact iff_of_true trivial (stepsFit_nil _ _)
  | cons entry entries ih =>
      rw [List.map_cons, List.nodup_cons] at hnodup
      have hentry := hentries entry List.mem_cons_self
      rw [stepsFit_cons h.nodup h.type threshold hnodup.1]
      rw [allocateUsers_cons, meets_bind]
      refine (h.meets_upsert threshold hentry).trans ?_
      change (FitsBeside s.tokenBudgets department entry →
        Meets (allocateUsers department threshold entries) _ _ _) ∧
          (¬FitsBeside s.tokenBudgets department entry → False) ↔ _
      by_cases hfits : FitsBeside s.tokenBudgets department entry
      · have hrest := ih (h.upserted threshold hentry hfits) hnodup.2
          fun other hother => hentries other (List.mem_cons_of_mem entry hother)
        rw [tokenBudgets_upserted h.nodup] at hrest
        rw [hrest]
        simp only [hfits, not_true_eq_false, true_implies, true_and, false_implies, and_true]
        rfl
      · simp only [hfits, not_false_eq_true, false_implies, true_implies, and_false, false_and]

/-- A row that is stored as it is given fits. -/
theorem fitsBeside_of_stored (h : DepartmentHolds s department) {entry : Text × ℤ}
    (hstored : userRow department threshold entry ∈ s.tokenBudgets) :
    FitsBeside s.tokenBudgets department entry := by
  have hunder : Under department (userRow department threshold entry) :=
    (under_iff h.type).2 ⟨rfl, rfl, rfl⟩
  have hamount : (userRow department threshold entry).amount = entry.2 :=
    amount_withLimit (userRow department threshold entry) department.budgetMode entry.2
  have hbeside := allocatedBeside_put h.nodup hunder List.not_mem_nil
  rw [Rows.put_self h.nodup hstored, allocatedBeside_nil, hamount] at hbeside
  change _ = entry.2 + allocatedBeside s.tokenBudgets department [entry.1] at hbeside
  have hsum := h.sum
  unfold FitsBeside
  omega

end DepartmentHolds

/-- What was written is in the audit. -/
theorem allocateUsers_audit (department : BudgetRow) (threshold : ℤ) (entries : List (Text × ℤ))
    (n : ℕ) : Keeps (fun s => n ≤ s.tokenBudgetAudit.length)
      (allocateUsers department threshold entries) := by
  refine fun s hs => meets_each hs fun entry _ t ht => ?_
  unfold upsertTokenBudget
  simp only [meets_bind, meets_get, meets_demand, meets_lift, meets_ite, meets_pure, meets_modify]
  refine ⟨fun _ _ => ⟨fun _ _ => ⟨fun _ _ => ⟨fun _ => ht, fun _ => ?_⟩, fun _ _ => ht⟩,
    fun _ _ => ht⟩, fun _ => ht⟩
  exact ht.trans (Nat.le_succ _)

theorem allocateUsers_models (department : BudgetRow) (threshold : ℤ) (entries : List (Text × ℤ))
    (models : List UUID) : Keeps (fun s => s.enabledModels = models)
      (allocateUsers department threshold entries) := by
  refine fun s hs => meets_each hs fun entry _ t ht => ?_
  unfold upsertTokenBudget
  simp only [meets_bind, meets_get, meets_demand, meets_lift, meets_ite, meets_pure, meets_modify]
  exact ⟨fun _ _ => ⟨fun _ _ => ⟨fun _ _ => ⟨fun _ => ht, fun _ => ht⟩, fun _ _ => ht⟩,
    fun _ _ => ht⟩, fun _ => ht⟩

theorem writesNothing_cons {rows : List BudgetRow} {department : BudgetRow} {threshold : ℤ}
    {entry : Text × ℤ} {entries : List (Text × ℤ)}
    (hfits : userRow department threshold entry ∈ rows → FitsBeside rows department entry) :
    WritesNothing rows department threshold (entry :: entries) ↔
      (FitsBeside rows department entry → userRow department threshold entry ∈ rows ∧
        WritesNothing rows department threshold entries) := by
  constructor
  · intro h hfit
    have hstored : userRow department threshold entry ∈ rows :=
      (h [] entry entries rfl fun _ hmem => absurd hmem List.not_mem_nil).resolve_right
        (not_not.2 hfit)
    refine ⟨hstored, fun before next after heq hbefore => ?_⟩
    refine h (entry :: before) next after (by rw [heq, List.cons_append]) fun other hother => ?_
    rcases List.mem_cons.1 hother with rfl | hother
    · exact hstored
    · exact hbefore other hother
  · intro h before next after heq hbefore
    cases before with
    | nil =>
        obtain ⟨rfl, -⟩ := List.cons.inj heq
        by_cases hfit : FitsBeside rows department entry
        · exact .inl (h hfit).1
        · exact .inr hfit
    | cons first before =>
        obtain ⟨rfl, htail⟩ := List.cons.inj heq
        have hstored := hbefore entry List.mem_cons_self
        exact (h (hfits hstored)).2 before next after htail fun other hother =>
          hbefore other (List.mem_cons_of_mem entry hother)

namespace DepartmentHolds

variable {s : BudgetStore} {department : BudgetRow} {entries : List (Text × ℤ)} (threshold : ℤ)

/-- The upserts of an allocation, whether or not they go through, leave the store as it is if
nothing is written. -/
theorem allocateUsers_unchanged_iff (h : DepartmentHolds s department)
    (hentries : ∀ entry ∈ entries, Payable department.budgetMode entry.2) :
    Meets (allocateUsers department threshold entries) s (fun _ t => t = s) (fun _ t => t = s) ↔
      WritesNothing s.tokenBudgets department threshold entries := by
  induction entries with
  | nil =>
      refine ⟨fun _ before entry after heq => ?_, fun _ => rfl⟩
      cases before <;> cases heq
  | cons entry entries ih =>
      have hentry := hentries entry List.mem_cons_self
      have hrest := ih fun other hother => hentries other (List.mem_cons_of_mem entry hother)
      rw [writesNothing_cons (h.fitsBeside_of_stored threshold), ← hrest]
      rw [allocateUsers_cons, meets_bind]
      refine (h.meets_upsert threshold hentry).trans ?_
      change (FitsBeside s.tokenBudgets department entry →
        Meets (allocateUsers department threshold entries)
          (s.upserted (userRow department threshold entry)) _ _) ∧
          (¬FitsBeside s.tokenBudgets department entry → s = s) ↔ _
      rw [and_iff_left fun _ => rfl]
      refine imp_congr_right fun _ => ?_
      have hfind : s.budget? (userRow department threshold entry).key =
          some (userRow department threshold entry) ↔
            userRow department threshold entry ∈ s.tokenBudgets :=
        (Rows.find?_eq_some h.nodup).trans (and_iff_left rfl)
      unfold BudgetStore.upserted
      by_cases hstored : userRow department threshold entry ∈ s.tokenBudgets
      · rw [if_pos (hfind.2 hstored), and_iff_right hstored]
      · rw [if_neg fun hsome => hstored (hfind.1 hsome)]
        refine ⟨fun hsame => ?_, fun hboth => absurd hboth.1 hstored⟩
        -- The audit has a row more than before.
        have haudit := allocateUsers_audit department threshold entries
          (s.tokenBudgetAudit.length + 1) (s.putBudget (userRow department threshold entry)) le_rfl
        have hnever : Meets (allocateUsers department threshold entries)
            (s.putBudget (userRow department threshold entry)) (fun _ _ => False)
              fun _ _ => False :=
          (haudit.congr (fun _ t ht => ⟨fun heq => ?_, False.elim⟩)
            fun _ t ht => ⟨fun heq => ?_, False.elim⟩).1 hsame
        · exact absurd hnever not_meets_false
        · rw [heq] at ht
          omega
        · rw [heq] at ht
          omega

end DepartmentHolds

/-! ## The whole call -/

/-- The requested models are enabled. -/
def ModelsEnabled (s : BudgetStore) (modelIds : Option (List UUID)) : Prop :=
  ∀ ids ∈ modelIds, ∀ id ∈ ids, id ∈ s.enabledModels

/-- The new limits and those of the users that are not selected are at most the department's. -/
def TotalFits (rows : List BudgetRow) (department : BudgetRow) (entries : List (Text × ℤ)) : Prop :=
  allocatedBeside rows department (entries.map (·.1)) + (entries.map (·.2)).sum
    ≤ department.amount

/-- What should be allocated. -/
structure Allocable (s : BudgetStore) (department : BudgetRow) (entries : List (Text × ℤ))
    (modelIds : Option (List UUID)) : Prop where
  /-- The other users of the department have its unit. -/
  modes : ∀ row ∈ s.tokenBudgets, Under department row → row.scopeId ∉ entries.map (·.1) →
    row.budgetMode = department.budgetMode
  total : TotalFits s.tokenBudgets department entries
  models : ModelsEnabled s modelIds

/-- The bulk upsert of some users of a department, in its unit. -/
def allocation (department : BudgetRow) (entries : List (Text × ℤ)) (threshold : ℤ)
    (selectedUserIds : Option (List Text)) (modelIds : Option (List UUID)) : BudgetProcedure Unit :=
  bulkUpsertUserBudgets department.periodStart department.scopeId entries threshold
    department.budgetMode selectedUserIds modelIds

/-- The assignment of models fails only on its check. -/
theorem meets_assignModels {userIds : List Text} {ids : List UUID} {s : BudgetStore}
    {fails : BudgetError → BudgetStore → Prop} :
    Meets (assignModels userIds ids) s (fun _ _ => True) fails ↔
      (¬(∀ id ∈ ids, id ∈ s.enabledModels) →
        fails (.constraintViolation "One or more selected models are unavailable") s) := by
  unfold assignModels
  simp only [meets_bind, meets_get, meets_require]
  refine and_iff_right fun _ => ?_
  refine Meets.mono (meets_each (I := fun _ => True) (J := fun _ => False) trivial
    fun _ _ _ _ => ?_) (fun _ _ _ => trivial) fun _ _ => False.elim
  exact trivial

/-- The models of a call are assigned last. -/
def assignRequested (entries : List (Text × ℤ)) (selectedUserIds : Option (List Text)) :
    Option (List UUID) → BudgetProcedure Unit
  | none => pure ()
  | some ids =>
      assignModels (match selectedUserIds with
        | none | some [] => entries.map (·.1)
        | some ids => ids) ids.eraseDups

theorem meets_assignRequested {entries : List (Text × ℤ)} {selectedUserIds : Option (List Text)}
    {modelIds : Option (List UUID)} {s : BudgetStore} {fails : BudgetError → BudgetStore → Prop} :
    Meets (assignRequested entries selectedUserIds modelIds) s (fun _ _ => True) fails ↔
      (¬ModelsEnabled s modelIds →
        fails (.constraintViolation "One or more selected models are unavailable") s) := by
  cases modelIds with
  | none =>
      refine ⟨fun _ hnot => absurd ?_ hnot, fun _ => trivial⟩
      intro ids hids
      cases hids
  | some ids =>
      unfold assignRequested ModelsEnabled
      rw [meets_assignModels]
      simp only [List.mem_eraseDups, Option.mem_def, Option.some.injEq, forall_eq']

namespace DepartmentHolds

variable {s : BudgetStore} {department : BudgetRow} (h : DepartmentHolds s department)
  {entries : List (Text × ℤ)} (hentries : ∀ entry ∈ entries, Payable department.budgetMode entry.2)
  {threshold : ℤ} {selectedUserIds : Option (List Text)} {modelIds : Option (List UUID)}

include h hentries

/-- A bulk upsert checks its total, writes the users and assigns the models. -/
theorem meets_allocation {post : Unit → BudgetStore → Prop}
    {fails : BudgetError → BudgetStore → Prop} :
    Meets (allocation department entries threshold selectedUserIds modelIds) s post fails ↔
      (TotalFits s.tokenBudgets department entries →
        Meets (allocateUsers department threshold entries) s
          (fun _ t => Meets (assignRequested entries selectedUserIds modelIds) t post fails)
            fails) ∧
      (¬TotalFits s.tokenBudgets department entries →
        fails (.constraintViolation "User allocations would exceed the department budget") s) := by
  have hcall : allocation department entries threshold selectedUserIds modelIds
      = (get >>= fun s =>
          if entries ≠ [] then
            lift (checkAllocation s department.periodStart department.scopeId entries
              department.budgetMode) >>= fun _ =>
              allocateUsers department threshold entries >>= fun _ =>
                assignRequested entries selectedUserIds modelIds
          else assignRequested entries selectedUserIds modelIds : BudgetProcedure Unit) := by
    cases modelIds with
    | none => rfl
    | some ids => rfl
  rw [hcall, meets_bind, meets_get]
  by_cases hempty : entries = []
  · have hfits : TotalFits s.tokenBudgets department entries := by
      have hsum := h.sum
      unfold TotalFits
      rw [hempty, List.map_nil, allocatedBeside_nil, List.map_nil, List.sum_nil]
      omega
    rw [and_iff_left fun hnot => absurd hfits hnot, imp_iff_right hfits, if_neg (not_not.2 hempty)]
    subst hempty
    exact Iff.rfl
  · rw [if_pos hempty, meets_bind, meets_lift, h.checkAllocation_eq hentries]
    simp only [meets_bind, require_eq_ok, require_eq_error]
    exact and_congr ⟨fun hok hfits => hok () hfits, fun hok _ hfits => hok hfits⟩
      ⟨fun hraise hnot => hraise _ ⟨hnot, rfl⟩, fun hraise e he => he.2 ▸ hraise he.1⟩

/-- Where the total fits, the call goes through if the steps fit and the models are enabled. -/
theorem allocation_succeeds_iff (hnodup : (entries.map (·.1)).Nodup) :
    ¬Raises (allocation department entries threshold selectedUserIds modelIds) s ↔
      TotalFits s.tokenBudgets department entries ∧ ModelsEnabled s modelIds ∧
        StepsFit s.tokenBudgets department entries := by
  rw [not_raises_iff, h.meets_allocation hentries]
  simp only [meets_assignRequested]
  by_cases htotal : TotalFits s.tokenBudgets department entries
  · have hmodels := allocateUsers_models department threshold entries s.enabledModels s rfl
    simp only [htotal, not_true_eq_false, true_implies, true_and, false_implies, and_true]
    by_cases henabled : ModelsEnabled s modelIds
    · rw [and_iff_right henabled, ← h.allocateUsers_iff threshold hnodup hentries]
      refine hmodels.congr (fun _ t ht => ?_) fun _ _ _ => Iff.rfl
      unfold ModelsEnabled at henabled ⊢
      rw [ht]
      exact iff_true_intro (absurd henabled)
    · have hfalse : Meets (allocateUsers department threshold entries) s
          (fun _ t => ¬ModelsEnabled t modelIds → False) (fun _ _ => False) ↔
          Meets (allocateUsers department threshold entries) s (fun _ _ => False)
            fun _ _ => False := by
        refine hmodels.congr (fun _ t ht => ?_) fun _ _ _ => Iff.rfl
        unfold ModelsEnabled at henabled ⊢
        rw [ht]
        exact iff_false_intro fun hnot => hnot henabled
      rw [hfalse]
      exact iff_of_false not_meets_false fun hboth => henabled hboth.1
  · simp only [htotal, not_false_eq_true, false_implies, true_implies, and_false, false_and]

/-- Where the total fits and the models are not enabled, nothing may be written. -/
theorem allocation_atomic_iff (htotal : TotalFits s.tokenBudgets department entries)
    (henabled : ¬ModelsEnabled s modelIds) :
    Atomic (allocation department entries threshold selectedUserIds modelIds) s ↔
      WritesNothing s.tokenBudgets department threshold entries := by
  have hmodels := allocateUsers_models department threshold entries s.enabledModels s rfl
  unfold Atomic
  rw [h.meets_allocation hentries, and_iff_left fun hnot => absurd htotal hnot,
    imp_iff_right htotal,
    ← h.allocateUsers_unchanged_iff threshold hentries]
  simp only [meets_assignRequested]
  refine hmodels.congr (fun _ t ht => ?_) fun _ _ _ => Iff.rfl
  unfold ModelsEnabled at henabled ⊢
  rw [ht]
  exact imp_iff_right henabled

end DepartmentHolds

/-- In a store in which the hierarchy of the department holds, the allocation is made exactly if
its total fits and its models are enabled, and changes nothing where it raises: this holds of
an allocation whose total does not fit, of one with enabled models whose steps fit, each beside
the new limits of the entries before it and the old ones of the users after it, and of one
with a model that is not enabled that writes nothing before it raises, because the first entry
that changes a row does not fit beside the old limits. -/
theorem allocation_settles_iff {s : BudgetStore} {department : BudgetRow}
    (h : DepartmentHolds s department) {entries : List (Text × ℤ)}
    (hnodup : (entries.map (·.1)).Nodup)
    (hentries : ∀ entry ∈ entries, Payable department.budgetMode entry.2) (threshold : ℤ)
    (selectedUserIds : Option (List Text)) (modelIds : Option (List UUID)) :
    let call := bulkUpsertUserBudgets department.periodStart department.scopeId entries threshold
      department.budgetMode selectedUserIds modelIds
    ((¬Raises call s ↔ Allocable s department entries modelIds) ∧ Atomic call s) ↔
      ¬TotalFits s.tokenBudgets department entries ∨
      ModelsEnabled s modelIds ∧ StepsFit s.tokenBudgets department entries ∨
      ¬ModelsEnabled s modelIds ∧ WritesNothing s.tokenBudgets department threshold entries := by
  change ((¬Raises (allocation department entries threshold selectedUserIds modelIds) s ↔ _) ∧
    Atomic (allocation department entries threshold selectedUserIds modelIds) s) ↔ _
  have hallocable : Allocable s department entries modelIds ↔
      TotalFits s.tokenBudgets department entries ∧ ModelsEnabled s modelIds :=
    ⟨fun hall => ⟨hall.total, hall.models⟩,
      fun hall => ⟨fun row hrow hunder _ => (h.rows row hrow hunder).2, hall.1, hall.2⟩⟩
  rw [hallocable]
  have hsucceeds : ¬Raises (allocation department entries threshold selectedUserIds modelIds) s ↔
      TotalFits s.tokenBudgets department entries ∧ ModelsEnabled s modelIds ∧
        StepsFit s.tokenBudgets department entries :=
    h.allocation_succeeds_iff hentries hnodup
  by_cases htotal : TotalFits s.tokenBudgets department entries
  · by_cases henabled : ModelsEnabled s modelIds
    · have hatomic : ¬Raises (allocation department entries threshold selectedUserIds modelIds) s →
          Atomic (allocation department entries threshold selectedUserIds modelIds) s := by
        intro hnot
        exact ((not_raises_iff.1 hnot).mono (fun _ _ _ => trivial) fun _ _ => False.elim)
      rw [hsucceeds]
      simp only [htotal, henabled, true_and, not_true_eq_false, false_or, false_and, or_false,
        iff_true]
      refine ⟨fun hboth => hboth.1, fun hsteps => ⟨hsteps, hatomic (hsucceeds.2 ?_)⟩⟩
      exact ⟨htotal, henabled, hsteps⟩
    · rw [hsucceeds, h.allocation_atomic_iff hentries htotal henabled]
      simp only [htotal, henabled, true_and, false_and, not_true_eq_false, not_false_eq_true,
        false_or]
  · have hatomic : Atomic (allocation department entries threshold selectedUserIds modelIds) s := by
      unfold Atomic
      rw [h.meets_allocation hentries]
      exact ⟨fun hfits => absurd hfits htotal, fun _ => rfl⟩
    rw [hsucceeds]
    simp only [htotal, false_and, not_false_eq_true, true_or, hatomic, and_true]

/-- A department of 100 tokens, of which one user has 40 and another 60. -/
def sharedDepartment : BudgetStore :=
  (BudgetCall.bulkUpsert 739311 (.plain "research") [(.plain "ada", 40), (.plain "bob", 60)] 80
    .tokens none none).perform
    ((BudgetCall.upsert (departmentRow .tokens (some 100) none)).perform noBudgets)

theorem sharedDepartment_reachable : ReachableBudgets BudgetCall.Regular sharedDepartment := by
  refine .call (.call (.empty rfl fun _ => rfl) ?_) ?_
  · exact oneFairLimit_withLimit (departmentRow .tokens none none) ⟨by decide, by decide, by decide⟩
  · intro entry hentry
    rcases List.mem_cons.1 hentry with rfl | hentry
    · exact ⟨by decide, by decide, by decide⟩
    · rw [List.mem_singleton.1 hentry]
      exact ⟨by decide, by decide, by decide⟩

theorem departmentRow_stored :
    departmentRow .tokens (some 100) none ∈ sharedDepartment.tokenBudgets := by
  decide +kernel

theorem payable_tokens {amount : ℤ} (h : 0 < amount) : Payable .tokens amount := by
  refine ⟨h, fun husd => ?_⟩
  cases husd

/-- The second user is lowered before the first is raised. -/
theorem lowered_user_first :
    let call := bulkUpsertUserBudgets 739311 (.plain "research")
      [(.plain "bob", 40), (.plain "ada", 60)] 80 .tokens none none
    (¬Raises call sharedDepartment ↔ Allocable sharedDepartment
      (departmentRow .tokens (some 100) none) [(.plain "bob", 40), (.plain "ada", 60)] none) ∧
      Atomic call sharedDepartment := by
  have hholds : DepartmentHolds sharedDepartment (departmentRow .tokens (some 100) none) :=
    InHierarchy.department (hierarchy_of_reachable sharedDepartment_reachable)
      departmentRow_stored rfl
  have hsteps : StepsFit sharedDepartment.tokenBudgets (departmentRow .tokens (some 100) none)
      [(.plain "bob", 40), (.plain "ada", 60)] := by
    rw [stepsFit_cons hholds.nodup rfl 80 (by decide),
      stepsFit_cons (Rows.nodup_put hholds.nodup _) rfl 80 (by decide)]
    exact ⟨by decide +kernel, by decide +kernel, stepsFit_nil _ _⟩
  have hpayable : ∀ entry ∈ [((.plain "bob" : Text), (40 : ℤ)), (.plain "ada", 60)],
      Payable .tokens entry.2 := by
    simp [payable_tokens]
  refine (allocation_settles_iff hholds (by decide) hpayable 80 none none).2
    (.inr (.inl ⟨?_, hsteps⟩))
  intro ids hids
  cases hids

/-- The first user is raised before the second is lowered: the allocation of 100 tokens is
refused. -/
theorem raised_user_first :
    ¬∀ (s : BudgetStore) (department : BudgetRow) (entries : List (Text × ℤ)),
      ReachableBudgets BudgetCall.Regular s → department ∈ s.tokenBudgets →
      department.scopeType = .department → (entries.map (·.1)).Nodup →
      (∀ entry ∈ entries, Payable department.budgetMode entry.2) →
      let call := bulkUpsertUserBudgets department.periodStart department.scopeId entries 80
        department.budgetMode none none
      (¬Raises call s ↔ Allocable s department entries none) ∧ Atomic call s := by
  intro hall
  have hholds : DepartmentHolds sharedDepartment (departmentRow .tokens (some 100) none) :=
    InHierarchy.department (hierarchy_of_reachable sharedDepartment_reachable)
      departmentRow_stored rfl
  have hcall := hall sharedDepartment (departmentRow .tokens (some 100) none)
    [(.plain "ada", 60), (.plain "bob", 40)] sharedDepartment_reachable departmentRow_stored rfl
    (by decide) (by simp [departmentRow, organizationRow, payable_tokens])
  refine hcall.1.2 ⟨fun row hrow hunder _ => (hholds.rows row hrow hunder).2, ?_, ?_⟩ ?_
  · unfold TotalFits
    decide +kernel
  · intro ids hids
    cases hids
  · exact ⟨_, _, rfl⟩

end Turnstile
