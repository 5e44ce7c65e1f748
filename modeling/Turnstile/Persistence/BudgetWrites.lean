import Turnstile.Persistence.BudgetRuns
import Turnstile.Persistence.BudgetTransactions

/-!
# What budget transactions write

The checks and the writes of a transaction concern the rows of one period.  What a check found
in those rows still holds when the transaction commits, if the rows are then the same
(`FitsParent.rowsIn`, `CoversChildren.rowsIn`), and so what is written keeps the hierarchy.
-/

namespace Turnstile

open Guard ReadCommitted BudgetRow

/-! ## The rows of a period -/

theorem allocated_rowsIn (t : BudgetTables) {parent : BudgetRow} {p : ℤ}
    (h : parent.periodStart = p) :
    allocated (t.rowsIn p) parent = allocated t.tokenBudgets parent := by
  unfold allocated BudgetTables.rowsIn
  rw [List.filter_filter]
  refine congrArg (fun l : List BudgetRow => (l.map amount).sum) (List.filter_congr fun row _ => ?_)
  rw [← Bool.decide_and]
  refine decide_eq_decide.2 ⟨And.left, fun hunder => ⟨hunder, hunder.1.trans h⟩⟩

theorem mem_rowsIn {t : BudgetTables} {p : ℤ} {row : BudgetRow} :
    row ∈ t.rowsIn p ↔ row ∈ t.tokenBudgets ∧ row.periodStart = p := by
  rw [BudgetTables.rowsIn, List.mem_filter, decide_eq_true_iff]

/-- A query for rows of a period. -/
theorem filter_rowsIn (t : BudgetTables) (p : ℤ) (q : BudgetRow → Prop) [DecidablePred q] :
    (t.tokenBudgets.filter fun row => row.periodStart = p ∧ q row) =
      (t.rowsIn p).filter fun row => q row := by
  rw [BudgetTables.rowsIn, List.filter_filter]
  refine List.filter_congr fun row _ => ?_
  rw [← Bool.decide_and]
  exact decide_eq_decide.2 and_comm

/-- Whether a row covers its children is decided by the rows of its period. -/
theorem coversChildren_rowsIn {t : BudgetTables} {row : BudgetRow} {p : ℤ}
    (h : row.periodStart = p) :
    CoversChildren (t.rowsIn p) row ↔ CoversChildren t.tokenBudgets row := by
  unfold CoversChildren
  rw [allocated_rowsIn t h]
  refine and_congr_left fun _ => ⟨fun hall child hchild hunder => ?_, fun hall child hchild => ?_⟩
  · exact hall child (mem_rowsIn.2 ⟨hchild, hunder.1.trans h⟩) hunder
  · exact hall child (mem_rowsIn.1 hchild).1

theorem fitsParent_rowsIn {t : BudgetTables} {row : BudgetRow} {p : ℤ} (h : row.periodStart = p) :
    FitsParent (t.rowsIn p) row ↔ FitsParent t.tokenBudgets row := by
  have hfilter : (t.rowsIn p).filter (fun other => other.key ≠ row.key) =
      BudgetTables.rowsIn { t with
        tokenBudgets := t.tokenBudgets.filter fun other => other.key ≠ row.key } p := by
    unfold BudgetTables.rowsIn
    rw [List.filter_comm]
  unfold FitsParent
  rw [hfilter]
  constructor
  · intro hall parent hparent hunder
    have hperiod : parent.periodStart = p := hunder.1.symm.trans h
    have hle := hall parent (mem_rowsIn.2 ⟨hparent, hperiod⟩) hunder
    rwa [allocated_rowsIn _ hperiod] at hle
  · intro hall parent hparent hunder
    rw [allocated_rowsIn _ (hunder.1.symm.trans h)]
    exact hall parent (mem_rowsIn.1 hparent).1 hunder

/-- A write in another period is not seen in this one. -/
theorem rowsIn_put {t : BudgetTables} {row : BudgetRow} {p : ℤ} (h : row.periodStart ≠ p) :
    (Rows.put key row t.tokenBudgets).filter (fun other => other.periodStart = p) = t.rowsIn p := by
  refine Rows.filter_put (by simpa using h) fun other _ hkey => ?_
  have hperiod : other.periodStart = row.periodStart := (Prod.mk.inj hkey).1
  simpa [hperiod] using h

/-! ## Checks -/

/-- USD amounts are whole cents. -/
def WholeCents (mode : BudgetMode) (amount : ℤ) : Prop := mode = .usd → 10 ^ 12 ∣ amount

/-- A row that the columns hold is regular, if it is of whole cents. -/
theorem regular_of_inColumns {row : BudgetRow} (h : row.InColumns)
    (hcents : WholeCents row.budgetMode row.amount) : row.Regular := by
  obtain ⟨hlimits, -⟩ := h
  unfold amount at *
  cases hmode : row.budgetMode with
  | tokens =>
      rw [hmode] at hlimits hcents
      obtain ⟨husd, limit, hlimit, hpos, hlt⟩ := hlimits
      refine ⟨fun mode => ?_, ?_⟩
      · rw [hmode]
        cases mode with
        | tokens => simp [BudgetRow.limit, Option.mem_def.1 hlimit]
        | usd => simp [BudgetRow.limit, husd]
      · rw [hmode, amount, hmode, BudgetRow.limit, Option.mem_def.1 hlimit]
        exact ⟨hpos, hlt.trans (by decide), fun heq => by cases heq⟩
  | usd =>
      rw [hmode] at hlimits hcents
      obtain ⟨htokens, limit, hlimit, hpos, hlt⟩ := hlimits
      refine ⟨fun mode => ?_, ?_⟩
      · rw [hmode]
        cases mode with
        | tokens => simp [BudgetRow.limit, htokens]
        | usd => simp [BudgetRow.limit, Option.mem_def.1 hlimit]
      · rw [hmode, amount, hmode]
        refine ⟨?_, ?_, hcents⟩
        · rw [BudgetRow.limit, Option.mem_def.1 hlimit]
          exact hpos
        · rw [BudgetRow.limit, Option.mem_def.1 hlimit]
          exact hlt

/-- Token limits in the column are below `2 ^ 63`. -/
theorem amount_lt_of_tokens {row : BudgetRow} (h : row.InColumns)
    (hmode : row.budgetMode = .tokens) :
    row.amount < 2 ^ 63 := by
  obtain ⟨hlimits, -⟩ := h
  rw [hmode] at hlimits
  obtain ⟨-, limit, hlimit, -, hlt⟩ := hlimits
  rw [amount, hmode, BudgetRow.limit, Option.mem_def.1 hlimit]
  exact hlt

/-- A sum of two amounts that is rounded to at most the limit of a row is at most it. -/
theorem add_le_amount {parent : BudgetRow} (hregular : parent.Regular) (hcolumns : parent.InColumns)
    {total amount : ℤ} (htotal : 0 ≤ total ∧ WholeCents parent.budgetMode total)
    (hamount : 0 ≤ amount ∧ WholeCents parent.budgetMode amount)
    (h : defaultContext.add total amount ≤ parent.amount) : total + amount ≤ parent.amount := by
  have hnonneg : 0 ≤ total + amount := add_nonneg htotal.1 hamount.1
  cases hmode : parent.budgetMode with
  | tokens =>
      exact Rounding.le_of_roundTo_le (p := 28) (e := 0) (by decide) hnonneg (one_dvd _)
        ((amount_lt_of_tokens hcolumns hmode).trans (by decide)) h
  | usd =>
      exact Rounding.le_of_roundTo_le (p := 28) (e := 12) (by decide) hnonneg
        (dvd_add (htotal.2 hmode) (hamount.2 hmode)) (hregular.fair.2.1.trans (by decide)) h

/-- The sum of a column is that of the limits, of rows of the unit. -/
theorem sumColumn_eq {mode : BudgetMode} {rows : List BudgetRow}
    (hregular : ∀ row ∈ rows, row.Regular) (hmode : ∀ row ∈ rows, row.budgetMode = mode) :
    sumColumn mode rows = (rows.map amount).sum := by
  have hlimits : rows.filterMap (BudgetRow.limit mode) = rows.map amount := by
    rw [← List.filterMap_eq_map]
    refine List.filterMap_congr fun row hrow => ?_
    rw [← hmode row hrow, limit_budgetMode (hregular row hrow)]
    rfl
  rw [sumColumn, hlimits]

theorem sum_amounts {mode : BudgetMode} {rows : List BudgetRow}
    (hregular : ∀ row ∈ rows, row.Regular) (hmode : ∀ row ∈ rows, row.budgetMode = mode) :
    0 ≤ (rows.map amount).sum ∧ WholeCents mode (rows.map amount).sum := by
  constructor
  · refine List.sum_nonneg fun x hx => ?_
    obtain ⟨row, hrow, rfl⟩ := List.mem_map.1 hx
    exact (hregular row hrow).pos.le
  · intro husd
    refine List.dvd_sum fun x hx => ?_
    obtain ⟨row, hrow, rfl⟩ := List.mem_map.1 hx
    exact (hregular row hrow).fair.2.2 ((hmode row hrow).trans husd)

/-- The limit of an upsert is the amount of its row. -/
theorem amount_of_ownLimit {row : BudgetRow} {limit : ℤ} (h : ownLimit row = some limit) :
    row.amount = limit := by
  unfold ownLimit at h
  unfold amount BudgetRow.limit
  cases hmode : row.budgetMode with
  | tokens =>
      rw [hmode] at h
      change (if row.usdLimit = none then row.tokenLimit else none) = some limit at h
      split_ifs at h
      rw [h]
      rfl
  | usd =>
      rw [hmode] at h
      change (if row.tokenLimit = none then row.usdLimit else none) = some limit at h
      split_ifs at h
      rw [h]
      rfl

theorem fitsParent_of_none (rows : List BudgetRow) {row : BudgetRow}
    (h : ∀ type id, row.scopeType.parent? = some type → row.parentScopeId = some id → False) :
    FitsParent rows row := by
  intro parent _ hunder
  obtain ⟨type, htype, -⟩ := hunder.parent_key
  exact absurd hunder.2.2 fun hid => h type _ htype hid

theorem coversChildren_of_none (rows : List BudgetRow) {row : BudgetRow} (hrow : row.Regular)
    (h : row.scopeType.child? = none) : CoversChildren rows row := by
  have hnone : ∀ child ∈ rows, ¬Under row child := by
    intro child _ hunder
    have hchild := hunder.2.1
    rw [h] at hchild
    cases hchild
  exact ⟨fun child hchild hunder => absurd hunder (hnone child hchild),
    (allocated_of_none hnone).trans_le hrow.pos.le⟩

section Checks

variable {t : BudgetTables} {row : BudgetRow} (ht : Hierarchy t.tokenBudgets)
  (hcolumns : ∀ other ∈ t.tokenBudgets, other.InColumns) (hrow : row.Regular)

include ht hcolumns hrow in
/-- What the checks against the parent say. -/
theorem fitsParent_of_checks {parent? : Option BudgetRow} {parentType : BudgetScopeType}
    {parentId : Text} (htype : row.scopeType.parent? = some parentType)
    (hid : row.parentScopeId = some parentId)
    (hparent : parent? = Rows.find? key (row.periodStart, parentType, parentId) t.tokenBudgets)
    (hmode : ∀ p ∈ parent?, p.budgetMode = row.budgetMode)
    (hsiblings : ∀ other ∈ t.tokenBudgets.filter (fun other => other.periodStart = row.periodStart ∧
      other.scopeType = row.scopeType ∧ other.parentScopeId = some parentId ∧
        other.scopeId ≠ row.scopeId), other.budgetMode = row.budgetMode)
    (hle : ∀ limit ∈ parent?.bind (BudgetRow.limit row.budgetMode), defaultContext.add
      (sumColumn row.budgetMode (t.tokenBudgets.filter fun other =>
        other.periodStart = row.periodStart ∧ other.scopeType = row.scopeType ∧
          other.parentScopeId = some parentId ∧ other.scopeId ≠ row.scopeId)) row.amount ≤ limit) :
    FitsParent t.tokenBudgets row := by
  intro parent hmem hunder
  obtain ⟨type, htype', hkey⟩ := hunder.parent_key
  obtain rfl := Option.some.inj (htype.symm.trans htype')
  obtain rfl := Option.some.inj (hid.symm.trans hunder.2.2)
  have hfind : parent? = some parent := hparent.trans ((Rows.find?_eq_some ht.nodup).2 ⟨hmem, hkey⟩)
  have hregular := ht.regular parent hmem
  have hmode := hmode parent hfind
  rw [siblings_eq _ hunder] at hsiblings hle
  have hall : ∀ other ∈ (t.tokenBudgets.filter fun other => other.key ≠ row.key).filter fun other =>
      Under parent other, other.Regular := fun other hother =>
    ht.regular other (List.mem_of_mem_filter (List.mem_of_mem_filter hother))
  have hlimit : parent.amount ∈ parent?.bind (BudgetRow.limit row.budgetMode) := by
    rw [hfind, Option.bind_some, ← hmode]
    exact limit_budgetMode hregular
  have hadd := hle parent.amount hlimit
  rw [sumColumn_eq hall hsiblings] at hadd
  refine ⟨hmode.symm, add_le_amount hregular (hcolumns parent hmem) ?_ ?_ hadd⟩
  · rw [hmode]
    exact sum_amounts hall hsiblings
  · rw [hmode]
    exact ⟨hrow.pos.le, hrow.fair.2.2⟩

include ht in
/-- What the checks against the children say. -/
theorem coversChildren_of_checks {childType : BudgetScopeType}
    (htype : row.scopeType.child? = some childType)
    (hmodes : ∀ other ∈ t.tokenBudgets.filter (fun other => other.periodStart = row.periodStart ∧
      other.scopeType = childType ∧ other.parentScopeId = some row.scopeId),
      other.budgetMode = row.budgetMode)
    (hle : sumColumn row.budgetMode (t.tokenBudgets.filter fun other =>
      other.periodStart = row.periodStart ∧ other.scopeType = childType ∧
        other.parentScopeId = some row.scopeId) ≤ row.amount) :
          CoversChildren t.tokenBudgets row := by
  rw [children_eq _ htype] at hmodes hle
  have hall : ∀ other ∈ t.tokenBudgets.filter fun other => Under row other, other.Regular :=
    fun other hother => ht.regular other (List.mem_of_mem_filter hother)
  rw [sumColumn_eq hall hmodes] at hle
  exact ⟨fun child hchild hunder =>
    hmodes child (List.mem_filter.2 ⟨hchild, decide_eq_true hunder⟩), hle⟩

end Checks

/-! ## The rows of people -/

/-- A sum over distinct items is at most the sum over a list that has them all. -/
theorem sum_map_le_of_subset {α : Type} {l l' : List α} {f : α → ℤ} (hnodup : l.Nodup)
    (hsub : l ⊆ l') (hpos : ∀ a ∈ l', 0 ≤ f a) : (l.map f).sum ≤ (l'.map f).sum := by
  obtain ⟨m, hperm, hsublist⟩ := List.subperm_of_subset hnodup hsub
  rw [← (hperm.map f).sum_eq]
  refine List.Sublist.sum_le_sum (hsublist.map f) fun x hx => ?_
  obtain ⟨a, ha, rfl⟩ := List.mem_map.1 hx
  exact hpos a ha

/-- The total of a department, with the limits that some people are to have. -/
def newTotal (rows : List BudgetRow) (department : BudgetRow) (entries : List (Text × ℤ)) : ℤ :=
  ((rows.filter fun row => Under department row ∧ row.scopeId ∉ entries.map (·.1)).map amount).sum +
    (entries.map (·.2)).sum

/-- The sum of the limits of entries is not negative, and of whole cents. -/
theorem sumLimits_nonneg {mode : BudgetMode} {limits : List ℤ}
    (h : ∀ limit ∈ limits, 0 < limit ∧ WholeCents mode limit) :
    0 ≤ sumLimits defaultContext mode limits ∧
      WholeCents mode (sumLimits defaultContext mode limits) := by
  cases mode with
  | tokens =>
      rw [sumLimits_tokens]
      exact ⟨List.sum_nonneg fun x hx => (h x hx).1.le, fun heq => by cases heq⟩
  | usd =>
      obtain ⟨hnonneg, hdvd⟩ := Rounding.sumTo_nonneg (p := 28) (e := 12) (l := limits)
        fun x hx => ⟨(h x hx).1.le, (h x hx).2 rfl⟩
      exact ⟨hnonneg, fun _ => hdvd⟩

/-- What the check of a bulk upsert says, if everyone who is selected has an entry. -/
theorem newTotal_le {rows : List BudgetRow} (h : Hierarchy rows) {department : BudgetRow}
    (hdepartment : department ∈ rows) (hcolumns : department.InColumns)
    (htype : department.scopeType = .department) {entries : List (Text × ℤ)}
    (hentries : ∀ entry ∈ entries, 0 < entry.2 ∧ WholeCents department.budgetMode entry.2)
    {userIds : List Text} (hselected : ∀ id ∈ userIds, id ∈ entries.map (·.1))
    (hmodes : ∀ row ∈ rows.filter (fun row => row.periodStart = department.periodStart ∧
      row.scopeType = .user ∧ row.parentScopeId = some department.scopeId ∧ row.scopeId ∉ userIds),
      row.budgetMode = department.budgetMode)
    (hle : defaultContext.add (sumColumn department.budgetMode (rows.filter fun row =>
        row.periodStart = department.periodStart ∧ row.scopeType = .user ∧
          row.parentScopeId = some department.scopeId ∧ row.scopeId ∉ userIds))
      (sumLimits defaultContext department.budgetMode (entries.map (·.2))) ≤ department.amount) :
    newTotal rows department entries ≤ department.amount := by
  have hregular := h.regular department hdepartment
  have hall : ∀ row ∈ rows.filter (fun row => row.periodStart = department.periodStart ∧
      row.scopeType = .user ∧ row.parentScopeId = some department.scopeId ∧ row.scopeId ∉ userIds),
      row.Regular := fun row hrow => h.regular row (List.mem_of_mem_filter hrow)
  have hlimits : ∀ limit ∈ entries.map (·.2),
      0 < limit ∧ WholeCents department.budgetMode limit := by
    intro limit hlimit
    obtain ⟨entry, hentry, rfl⟩ := List.mem_map.1 hlimit
    exact hentries entry hentry
  rw [sumColumn_eq hall hmodes] at hle
  obtain ⟨htotal, htotal'⟩ := sum_amounts hall hmodes
  have hadd := add_le_amount hregular hcolumns ⟨htotal, htotal'⟩ (sumLimits_nonneg hlimits) hle
  -- The sum of the entries is below the limit of the department, so it is exact.
  have hexact : sumLimits defaultContext department.budgetMode (entries.map (·.2)) =
      (entries.map (·.2)).sum := by
    cases hmode : department.budgetMode with
    | tokens => exact sumLimits_tokens _ _
    | usd =>
        rw [hmode] at hadd hlimits
        refine Rounding.sumTo_le (p := 28) (e := 12) (by decide)
          (hregular.fair.2.1.trans (by decide))
            (fun x hx => ⟨(hlimits x hx).1.le, (hlimits x hx).2 rfl⟩)
          (le_trans ?_ hadd)
        exact le_add_of_nonneg_left htotal
  rw [hexact] at hadd
  refine le_trans (add_le_add_left ?_ _) hadd
  refine sum_map_le_of_subset ((List.Nodup.of_map _ h.nodup).filter _) ?_
    fun row hrow => (hall row hrow).pos.le
  intro row hrow
  obtain ⟨hmem, hunder⟩ := List.mem_filter.1 hrow
  obtain ⟨hunder, hid⟩ := of_decide_eq_true hunder
  have hchild := hunder.2.1
  rw [htype] at hchild
  exact List.mem_filter.2 ⟨hmem, decide_eq_true ⟨hunder.1, Option.some.inj hchild, hunder.2.2,
    fun hmem => hid (hselected _ hmem)⟩⟩

/-- The rows of people may be written, if the new total of their department is at most its
limit. -/
theorem Hierarchy.putPeople {rows : List BudgetRow} (h : Hierarchy rows) {department : BudgetRow}
    (hdepartment : department ∈ rows) (htype : department.scopeType = .department)
    {entries : List (Text × ℤ)} (hpos : ∀ entry ∈ entries, 0 < entry.2) {changed : List BudgetRow}
    (hchanged : ∀ row ∈ changed, row.Regular ∧ Under department row ∧
      row.budgetMode = department.budgetMode ∧ (row.scopeId, row.amount) ∈ entries)
    (hkept : ∀ row ∈ rows, Under department row → row.scopeId ∈ entries.map (·.1) →
      (∀ other ∈ changed, row.key ≠ other.key) → (row.scopeId, row.amount) ∈ entries)
    (hsum : newTotal rows department entries ≤ department.amount) :
    Hierarchy (changed.foldl (fun rows row => Rows.put key row rows) rows) := by
  have hnodup : ((changed.foldl (fun rows row => Rows.put key row rows) rows).map key).Nodup :=
    Rows.nodup_foldl_put h.nodup
  have hmem := fun row (hrow : row ∈ changed.foldl (fun rows row => Rows.put key row rows) rows) =>
    Rows.mem_foldl_put h.nodup hrow
  have hperson : ∀ row ∈ changed, row.scopeType = .user := by
    intro row hrow
    have hchild := (hchanged row hrow).2.1.2.1
    rw [htype] at hchild
    exact Option.some.inj hchild
  -- Who has a row of a person below is the department.
  have hparent : ∀ parent ∈ rows, ∀ row ∈ changed, Under parent row → parent = department := by
    intro parent hp row hrow hunder
    have hunder' := (hchanged row hrow).2.1
    refine Rows.eq_of_key h.nodup hp hdepartment (Prod.ext (hunder.1.symm.trans hunder'.1)
      (Prod.ext ?_ (Option.some.inj (hunder.2.2.symm.trans hunder'.2.2))))
    have hchild := hunder.2.1
    rw [hperson row hrow] at hchild
    cases hptype : parent.scopeType <;> rw [hptype] at hchild <;> cases hchild
    exact hptype.trans htype.symm
  have hleaf : ∀ row ∈ changed, ∀ child, ¬Under row child := by
    intro row hrow child hunder
    have hchild := hunder.2.1
    rw [hperson row hrow] at hchild
    cases hchild
  have hregular : ∀ row ∈ changed.foldl (fun rows row => Rows.put key row rows) rows,
      row.Regular := by
    intro row hrow
    rcases hmem row hrow with hnew | ⟨hold, -⟩
    · exact (hchanged row hnew).1
    · exact h.regular row hold
  refine ⟨hnodup, hregular, ?_, ?_⟩
  · intro parent hp row hrow hunder
    rcases hmem parent hp with hpnew | ⟨hpold, -⟩
    · exact absurd hunder (hleaf parent hpnew row)
    · rcases hmem row hrow with hnew | ⟨hold, -⟩
      · rw [hparent parent hpold row hnew hunder]
        exact (hchanged row hnew).2.2.1
      · exact h.modes parent hpold row hold hunder
  · intro parent hp
    rcases hmem parent hp with hpnew | ⟨hpold, -⟩
    · rw [allocated_of_none fun row _ => hleaf parent hpnew row]
      exact (hregular parent hp).pos.le
    · have hrows : (changed.foldl (fun rows row => Rows.put key row rows) rows).Nodup :=
        List.Nodup.of_map _ hnodup
      by_cases heq : parent = department
      · subst heq
        refine le_trans ?_ hsum
        -- The rows of the department: those of people without an entry, and the others.
        let final := (changed.foldl (fun rows row => Rows.put key row rows) rows).filter
          fun row => Under parent row
        have hsplit := (List.filter_append_perm
          (fun row : BudgetRow => decide (row.scopeId ∉ entries.map (·.1))) final).map amount
        rw [allocated, ← hsplit.sum_eq, List.map_append, List.sum_append, newTotal]
        refine add_le_add ?_ ?_
        · refine sum_map_le_of_subset ((hrows.filter _).filter _) ?_ ?_
          · intro row hrow
            obtain ⟨hrow, hid⟩ := List.mem_filter.1 hrow
            obtain ⟨hrow, hunder⟩ := List.mem_filter.1 hrow
            have hid := of_decide_eq_true hid
            rcases hmem row hrow with hnew | ⟨hold, -⟩
            · exact absurd (List.mem_map.2 ⟨_, (hchanged row hnew).2.2.2, rfl⟩) hid
            · exact List.mem_filter.2 ⟨hold, decide_eq_true ⟨of_decide_eq_true hunder, hid⟩⟩
          · exact fun row hrow => (h.regular row (List.mem_of_mem_filter hrow)).pos.le
        · have hmap :
            (final.filter fun row => !decide (row.scopeId ∉ entries.map (·.1))).map amount =
              ((final.filter fun row => !decide (row.scopeId ∉ entries.map (·.1))).map
                fun row => (row.scopeId, row.amount)).map (·.2) := by
            rw [List.map_map]
            rfl
          rw [hmap]
          refine sum_map_le_of_subset ?_ ?_ fun entry hentry => (hpos entry hentry).le
          · refine List.Nodup.map_on (fun row hrow row' hrow' heq => ?_) ((hrows.filter _).filter _)
            have hunder := of_decide_eq_true
              (List.mem_filter.1 (List.mem_of_mem_filter hrow)).2
            have hunder' := of_decide_eq_true
              (List.mem_filter.1 (List.mem_of_mem_filter hrow')).2
            refine Rows.eq_of_key hnodup (List.mem_of_mem_filter (List.mem_of_mem_filter hrow))
              (List.mem_of_mem_filter (List.mem_of_mem_filter hrow')) (Prod.ext
                (hunder.1.trans hunder'.1.symm) (Prod.ext ?_ (Prod.mk.inj heq).1))
            exact Option.some.inj (hunder.2.1.trans hunder'.2.1.symm)
          · intro entry hentry
            obtain ⟨row, hrow, rfl⟩ := List.mem_map.1 hentry
            obtain ⟨hrow, hid⟩ := List.mem_filter.1 hrow
            obtain ⟨hrow, hunder⟩ := List.mem_filter.1 hrow
            rcases hmem row hrow with hnew | ⟨hold, hne⟩
            · exact (hchanged row hnew).2.2.2
            · exact hkept row hold (of_decide_eq_true hunder) (by simpa using hid) hne
      · refine le_trans ?_ (h.sums parent hpold)
        refine sum_map_le_of_subset (hrows.filter _) ?_ ?_
        · intro row hrow
          obtain ⟨hrow, hunder⟩ := List.mem_filter.1 hrow
          rcases hmem row hrow with hnew | ⟨hold, -⟩
          · exact absurd (hparent parent hpold row hnew (of_decide_eq_true hunder)) heq
          · exact List.mem_filter.2 ⟨hold, hunder⟩
        · exact fun row hrow => (h.regular row (List.mem_of_mem_filter hrow)).pos.le

end Turnstile
