import Turnstile.Persistence.BudgetInterleavings

/-!
# Schedules of budget transactions

Each transaction of the repository keeps to the contract, statement by statement; so do all of
them in any schedule whose steps are apart.
-/

namespace Turnstile

open Guard ReadCommitted BudgetRow BudgetTransaction

variable {ι : Type} [DecidableEq ι] {α : Type} {i : ι} {db : BudgetDatabase ι}
    {start : BudgetTables}

/-! ## One budget -/

/-- A single change that the constraints accept. -/
theorem acceptsAll_put {t : BudgetTables} {row : BudgetRow}
    (h : t.acceptsAll [.put row] = true) : row.InColumns := by
  simp only [BudgetTables.acceptsAll, Bool.and_true, decide_eq_true_iff] at h
  exact h

theorem find?_rowsIn (t : BudgetTables) (key : BudgetKey) :
    Rows.find? BudgetRow.key key t.tokenBudgets
      = Rows.find? BudgetRow.key key (t.rowsIn key.1) := by
  unfold Rows.find? BudgetTables.rowsIn
  rw [List.find?_filter]
  congr 1
  funext row
  by_cases h : row.key = key
  · have hperiod : row.periodStart = key.1 := congrArg Prod.fst h
    simp [h, hperiod]
  · simp [h]

section Upsert

variable {row : BudgetRow} {amount : ℤ}

/-- After the checks against the parent, a regular row fits it. -/
theorem keeps_checkParentRow (hamount : row.amount = amount) {f : Unit → BudgetTransaction α}
    (hdb : Knows (.config row.periodStart) i start [] db)
    (h : ∀ db, Knows (.config row.periodStart) i start [] db →
      (row.Regular → FitsParent (start.rowsIn row.periodStart) row) → KeepsBudgets i (f ()) db) :
    KeepsBudgets i (checkParentRow row amount >>= f) db := by
  subst hamount
  unfold checkParentRow
  split
  next parentType parentId htype hid =>
    simp only [Client.bind_assoc]
    refine hdb.keeps_lock fun db hdb => hdb.keeps_select fun db hJ hK => ?_
    refine keeps_check fun hmode => hK.keeps_select fun db' hJ' hK' => ?_
    refine keeps_check fun hsiblings => keeps_check fun hle => h db' hK' fun hregular => ?_
    have hview : db.view budgetSchema i = db.committed := hK.view_eq
    have hview' : db'.view budgetSchema i = db'.committed := hK'.view_eq
    rw [hview] at hmode hle
    rw [hview'] at hsiblings hle
    rw [← hK'.rows .config, fitsParent_rowsIn rfl]
    refine fitsParent_of_checks hJ'.hierarchy hJ'.inColumns hregular htype hid ?_ hmode
      hsiblings hle
    rw [find?_rowsIn, find?_rowsIn, hK.rows .config, hK'.rows .config]
  next hnone => exact h db hdb fun _ => fitsParent_of_none _ hnone

/-- After the checks against the children, a regular row covers them. -/
theorem keeps_checkChildRows (hamount : row.amount = amount) {f : Unit → BudgetTransaction α}
    (hdb : Knows (.config row.periodStart) i start [] db)
    (h : ∀ db, Knows (.config row.periodStart) i start [] db →
      (row.Regular → CoversChildren (start.rowsIn row.periodStart) row) →
        KeepsBudgets i (f ()) db) :
    KeepsBudgets i (checkChildRows row amount >>= f) db := by
  subst hamount
  unfold checkChildRows
  split
  next childType htype =>
    simp only [Client.bind_assoc]
    refine hdb.keeps_select fun db hJ hK => keeps_check fun hmodes => keeps_check fun hle =>
      h db hK fun _ => ?_
    have hview : db.view budgetSchema i = db.committed := hK.view_eq
    rw [hview] at hmodes hle
    rw [← hK.rows .config, coversChildren_rowsIn rfl]
    exact coversChildren_of_checks hJ.hierarchy htype hmodes hle
  next hnone => exact h db hdb fun hregular => coversChildren_of_none _ hregular hnone

theorem upsertTokenBudget_keepsBudgets (hcents : WholeCents row.budgetMode row.amount)
    (hinv : (budgetContract (ι := ι)).inv db) (hdb : db.changes i = []) :
    KeepsBudgets i (PostgreSql.upsertTokenBudget row) db := by
  unfold PostgreSql.upsertTokenBudget
  split
  next => exact keeps_raise
  next amount hlimit =>
    have hamount := amount_of_ownLimit hlimit
    refine keeps_transaction hinv ?_
    simp only [Client.bind_assoc]
    refine keeps_periodLock hdb fun db start hdb => hdb.keeps_lock fun db hdb => ?_
    refine keeps_checkParentRow hamount hdb fun db hdb hfits => ?_
    refine keeps_checkChildRows hamount hdb fun db hdb hcovers => ?_
    refine hdb.keeps_select fun db hJ hK => ?_
    split
    next =>
      exact keeps_adminCommit hK (fun change hchange => absurd hchange List.not_mem_nil)
        fun t ht hcolumns _ => ⟨ht, hcolumns⟩
    next =>
      simp only [Client.bind_assoc]
      refine hK.keeps_execute fun db hJ hK haccepts db' hK' => ?_
      have hcolumns := acceptsAll_put haccepts
      have hregular := regular_of_inColumns hcolumns hcents
      refine keeps_adminCommit hK' (fun change hchange => ?_) fun t ht htcolumns hrows => ?_
      · rw [List.mem_singleton.1 hchange]
        exact rfl
      · have hfits := hfits hregular
        have hcovers := hcovers hregular
        rw [← hrows, fitsParent_rowsIn rfl] at hfits
        rw [← hrows, coversChildren_rowsIn rfl] at hcovers
        refine ⟨ht.put hregular hfits hcovers, fun other hother => ?_⟩
        rcases (Rows.mem_put ht.nodup).1 hother with rfl | ⟨hold, -⟩
        · exact hcolumns
        · exact htcolumns other hold

end Upsert

theorem deleteTokenBudget_keepsBudgets {key : BudgetKey} (hinv : (budgetContract (ι := ι)).inv db)
    (hdb : db.changes i = []) : KeepsBudgets i (PostgreSql.deleteTokenBudget key) db := by
  have hdelete : ∀ (db : BudgetDatabase ι) (start : BudgetTables),
      Knows (.config key.1) i start [] db →
      KeepsBudgets i (execute (fun t : BudgetTables =>
          if ∃ row ∈ t.tokenBudgets, row.key = key then [BudgetChange.delete key] else []) >>=
        fun _ => run .database .commit >>= fun _ => pure ()) db := by
    intro db start hdb
    refine hdb.keeps_execute fun db hJ hK haccepts db' hK' => ?_
    split at hK'
    · refine keeps_adminCommit hK' (fun change hchange => ?_) fun t ht hcolumns _ => ?_
      · rw [List.mem_singleton.1 hchange]
        exact rfl
      · exact ⟨ht.sublist List.filter_sublist,
          fun row hrow => hcolumns row (List.mem_of_mem_filter hrow)⟩
    · exact keeps_adminCommit hK' (fun change hchange => absurd hchange List.not_mem_nil)
        fun t ht hcolumns _ => ⟨ht, hcolumns⟩
  unfold PostgreSql.deleteTokenBudget
  refine keeps_transaction hinv ?_
  simp only [Client.bind_assoc]
  refine keeps_periodLock hdb fun db start hdb => hdb.keeps_lock fun db hdb => ?_
  unfold checkNoChildren
  split
  next =>
    simp only [Client.bind_assoc]
    refine hdb.keeps_select fun db hJ hK => keeps_check fun _ => ?_
    exact hdelete db start hK
  next => exact hdelete db start hdb

/-! ## The budgets of a department -/

/-- The changes of some rows, written one after the other. -/
theorem foldl_put_apply (rows : List BudgetRow) (t : BudgetTables) :
    (rows.map BudgetChange.put).foldl BudgetTables.apply t =
      { t with
        tokenBudgets := rows.foldl (fun budgets row => Rows.put BudgetRow.key row budgets)
          t.tokenBudgets } := by
  induction rows generalizing t with
  | nil => rfl
  | cons row rows ih =>
      rw [List.map_cons, List.foldl_cons, ih]
      rfl

/-- A loop over rows that writes each, if the constraints accept it. -/
theorem keeps_each_put {p : ℤ} {rows written : List BudgetRow}
    {body : BudgetRow → BudgetTransaction Unit} {f : Unit → BudgetTransaction α}
    (hdb : Knows (.config p) i start (written.map .put) db)
    (hbody : ∀ row ∈ rows,
      ∀ (written : List BudgetRow) (db : BudgetDatabase ι) (g : Unit → BudgetTransaction α),
      Knows (.config p) i start (written.map .put) db →
      (∀ db', Knows (.config p) i start (written.map .put ++ [.put row]) db' → row.InColumns →
        KeepsBudgets i (g ()) db') → KeepsBudgets i (body row >>= g) db)
    (h : ∀ db, Knows (.config p) i start ((written ++ rows).map .put) db →
      (∀ row ∈ rows, row.InColumns) → KeepsBudgets i (f ()) db) :
    KeepsBudgets i (Client.each body rows >>= f) db := by
  induction rows generalizing written db with
  | nil =>
      refine h db ?_ fun row hrow => absurd hrow List.not_mem_nil
      rwa [List.append_nil]
  | cons row rows ih =>
      change KeepsBudgets i ((body row >>= fun _ => Client.each body rows) >>= f) db
      rw [Client.bind_assoc]
      refine hbody row List.mem_cons_self written db _ hdb fun db hdb hrow => ?_
      have hwritten : Knows (.config p) i start ((written ++ [row]).map .put) db := by
        rwa [List.map_append]
      refine ih hwritten (fun other hother => hbody other (List.mem_cons_of_mem row hother))
        fun db hdb hrows => h db ?_ (List.forall_mem_cons.2 ⟨hrow, hrows⟩)
      rwa [List.append_assoc] at hdb

/-- The rows of a hierarchy after some were written are of the columns, if those are. -/
theorem inColumns_foldl_put {t : BudgetTables} (ht : Hierarchy t.tokenBudgets)
    (hcolumns : ∀ row ∈ t.tokenBudgets, row.InColumns) {rows : List BudgetRow}
    (hrows : ∀ row ∈ rows, row.InColumns) :
    ∀ row ∈ rows.foldl (fun budgets row => Rows.put BudgetRow.key row budgets) t.tokenBudgets,
      row.InColumns := by
  intro row hrow
  rcases Rows.mem_foldl_put ht.nodup hrow with hnew | ⟨hold, -⟩
  · exact hrows row hnew
  · exact hcolumns row hold

section Bulk

variable {periodStart : ℤ} {departmentId : Text} {entries : List (Text × ℤ)} {threshold : ℤ}
  {mode : BudgetMode} {userIds : List Text}

/-- A row that is not written again is stored as it would be written. -/
theorem stored_of_not_changed {rows : List BudgetRow} {entry : Text × ℤ} (hentry : entry ∈ entries)
    (h : entryRow periodStart departmentId threshold mode entry ∉
      changedEntries rows periodStart departmentId threshold mode userIds entries) :
    entryRow periodStart departmentId threshold mode entry ∈ rows := by
  by_contra hnot
  refine h (List.mem_filter.2 ⟨List.mem_map_of_mem hentry, decide_eq_true fun hsame => hnot ?_⟩)
  exact Rows.mem_of_find? hsame.2

/-- The rows that a bulk upsert writes keep the hierarchy. -/
theorem Hierarchy.bulk {t : BudgetTables} (ht : Hierarchy t.tokenBudgets)
    (hcolumns : ∀ row ∈ t.tokenBudgets, row.InColumns) {parent : BudgetRow}
    (hparent : parent ∈ t.tokenBudgets)
    (hkey : parent.key = (periodStart, .department, departmentId))
    (hmode : parent.budgetMode = mode) (hcents : ∀ entry ∈ entries, WholeCents mode entry.2)
    (hselected : ∀ id ∈ userIds, id ∈ entries.map (·.1)) {rows : List BudgetRow}
    (hrows : ∀ row, row ∈ rows → row.periodStart = periodStart → row ∈ t.tokenBudgets)
    (hchanged : ∀ row ∈ changedEntries rows periodStart departmentId threshold mode userIds entries,
      row.InColumns)
    (hmodes : ∀ row ∈ t.tokenBudgets.filter (fun row => row.periodStart = periodStart ∧
      row.scopeType = .user ∧ row.parentScopeId = some departmentId ∧ row.scopeId ∉ userIds),
      row.budgetMode = mode)
    (hle : ∃ limit ∈ parent.limit mode, defaultContext.add (sumColumn mode
        (t.tokenBudgets.filter fun row => row.periodStart = periodStart ∧ row.scopeType = .user ∧
          row.parentScopeId = some departmentId ∧ row.scopeId ∉ userIds))
      (sumLimits defaultContext mode (entries.map (·.2))) ≤ limit) :
    Hierarchy ((changedEntries rows periodStart departmentId threshold mode userIds entries).foldl
      (fun budgets row => Rows.put BudgetRow.key row budgets) t.tokenBudgets) := by
  subst hmode
  obtain ⟨hperiod, hrest⟩ := Prod.mk.inj hkey
  obtain ⟨htype, hid⟩ := Prod.mk.inj hrest
  subst hperiod
  subst hid
  have hregular := ht.regular parent hparent
  obtain ⟨limit, hlimit, hle⟩ := hle
  obtain rfl : limit = parent.amount :=
    Option.some.inj ((Option.mem_def.1 hlimit).symm.trans (limit_budgetMode hregular))
  -- The rows of the entries are regular, whether they are written or already stored.
  have hentryRow : ∀ entry ∈ entries,
      (entryRow parent.periodStart parent.scopeId threshold parent.budgetMode entry).Regular := by
    intro entry hentry
    by_cases hmem : entryRow parent.periodStart parent.scopeId threshold parent.budgetMode entry ∈
        changedEntries rows parent.periodStart parent.scopeId threshold parent.budgetMode
          userIds entries
    · refine regular_of_inColumns (hchanged _ hmem) ?_
      have hamount : (entryRow parent.periodStart parent.scopeId threshold parent.budgetMode
          entry).amount = entry.2 := amount_withLimit (entryRow parent.periodStart parent.scopeId
            threshold parent.budgetMode entry) parent.budgetMode entry.2
      rw [hamount]
      exact hcents entry hentry
    · exact ht.regular _ (hrows _ (stored_of_not_changed hentry hmem) rfl)
  have hamount : ∀ entry : Text × ℤ, (entryRow parent.periodStart parent.scopeId threshold
      parent.budgetMode entry).amount = entry.2 := fun entry =>
    amount_withLimit (entryRow parent.periodStart parent.scopeId threshold parent.budgetMode entry)
      parent.budgetMode entry.2
  have hpos : ∀ entry ∈ entries, 0 < entry.2 := fun entry hentry =>
    hamount entry ▸ (hentryRow entry hentry).pos
  refine ht.putPeople hparent htype hpos (fun row hrow => ?_)
    (fun row hrow hunder hmem hne => ?_) ?_
  · obtain ⟨entry, hentry, rfl⟩ := List.mem_map.1 (List.mem_of_mem_filter hrow)
    refine ⟨hentryRow entry hentry, ⟨rfl, ?_, rfl⟩, rfl, ?_⟩
    · rw [htype]
      rfl
    · rw [hamount]
      exact hentry
  · obtain ⟨entry, hentry, hid⟩ := List.mem_map.1 hmem
    have hchild := hunder.2.1
    rw [htype] at hchild
    have hkey : row.key = (entryRow parent.periodStart parent.scopeId threshold parent.budgetMode
        entry).key := Prod.ext hunder.1 (Prod.ext (Option.some.inj hchild) hid.symm)
    have hstored := stored_of_not_changed hentry
      fun hchanged => hne _ hchanged hkey
    obtain rfl := Rows.eq_of_key ht.nodup hrow (hrows _ hstored rfl) hkey
    rw [hamount]
    exact hentry
  · exact newTotal_le ht hparent (hcolumns parent hparent) htype
      (fun entry hentry => ⟨hpos entry hentry, hcents entry hentry⟩) hselected hmodes hle

theorem bulkUpsertUserBudgets_keepsBudgets {selectedUserIds : Option (List Text)}
    (hcents : ∀ entry ∈ entries, WholeCents mode entry.2)
    (hselected : ∀ id ∈ selectedIds entries selectedUserIds, id ∈ entries.map (·.1))
    (hinv : (budgetContract (ι := ι)).inv db) (hdb : db.changes i = []) :
    KeepsBudgets i (PostgreSql.bulkUpsertUserBudgets periodStart departmentId entries threshold mode
      selectedUserIds) db := by
  change KeepsBudgets i (if entries = [] then transaction .database (pure ()) else _) db
  split
  next =>
    refine keeps_transaction hinv ?_
    exact keeps_emptyCommit hdb
  next =>
    refine keeps_transaction hinv ?_
    simp only [Client.bind_assoc]
    refine keeps_periodLock hdb fun db start hdb => hdb.keeps_lock fun db hdb => ?_
    refine hdb.keeps_select fun db hJ hK => ?_
    split
    next => exact keeps_raise
    next parent hparent =>
      simp only [Client.bind_assoc]
      refine keeps_check fun hmode => hK.keeps_select fun db' hJ' hK' => ?_
      refine keeps_check fun hmodes => keeps_check fun hle =>
        hK'.keeps_select fun db'' hJ'' hK'' => ?_
      have hnothing : Knows (.config periodStart) i start (([] : List BudgetRow).map .put) db'' :=
        hK''
      refine keeps_each_put hnothing (fun row _ written db g hdb hnext => ?_)
        fun db hdb hcolumns => ?_
      · simp only [Client.bind_assoc]
        exact hdb.keeps_execute fun db _ _ haccepts db' hK' =>
          hnext db' hK' (acceptsAll_put haccepts)
      · refine keeps_adminCommit hdb (fun change hchange => ?_) fun t ht htcolumns hrows => ?_
        · obtain ⟨row, hrow, rfl⟩ := List.mem_map.1 hchange
          obtain ⟨entry, -, rfl⟩ := List.mem_map.1 (List.mem_of_mem_filter hrow)
          exact rfl
        · rw [hK.view_eq] at hparent
          rw [hK'.view_eq] at hmodes hle
          have hsame : ∀ {db : BudgetDatabase ι}, Knows (.config periodStart) i start [] db →
              t.rowsIn periodStart = db.committed.rowsIn periodStart :=
            fun hdb => hrows.trans (hdb.rows .config).symm
          have hkey := Rows.key_of_find? hparent
          have hmem : parent ∈ t.tokenBudgets := (mem_rowsIn.1 ((hsame hK).symm ▸
            mem_rowsIn.2 ⟨Rows.mem_of_find? hparent, congrArg Prod.fst hkey⟩)).1
          rw [List.nil_append, foldl_put_apply]
          refine ⟨?_, inColumns_foldl_put ht htcolumns hcolumns⟩
          refine ht.bulk htcolumns hmem hkey hmode hcents hselected (fun row hrow hperiod => ?_)
            hcolumns ?_ ?_
          · rw [hK''.view_eq] at hrow
            exact (mem_rowsIn.1 ((hsame hK'').symm ▸ mem_rowsIn.2 ⟨hrow, hperiod⟩)).1
          · rw [filter_rowsIn, hsame hK', ← filter_rowsIn]
            exact hmodes
          · rw [filter_rowsIn, hsame hK', ← filter_rowsIn]
            exact hle

end Bulk

/-! ## The tree of an organization -/

theorem inColumns_amount {root : BudgetRow} {mode : BudgetMode} {amount threshold : ℤ}
    (h : (root.withRootLimit mode amount threshold).InColumns) (hcents : WholeCents mode amount) :
    Fair mode amount := by
  have hamount : (root.withRootLimit mode amount threshold).amount = amount :=
    amount_withLimit root mode amount
  have hregular := regular_of_inColumns h (by rw [hamount]; exact hcents)
  have hfair := hregular.fair
  rw [hamount] at hfair
  exact hfair

theorem switchOrganizationBudget_keepsBudgets {periodStart : ℤ} {organizationId : Text}
    {mode : BudgetMode} {amount threshold : ℤ} (hcents : WholeCents mode amount)
    (hinv : (budgetContract (ι := ι)).inv db) (hdb : db.changes i = []) :
    KeepsBudgets i (PostgreSql.switchOrganizationBudget periodStart organizationId mode amount
      threshold) db := by
  unfold PostgreSql.switchOrganizationBudget
  refine keeps_transaction hinv ?_
  simp only [Client.bind_assoc]
  refine keeps_periodLock hdb fun db start hdb => hdb.keeps_select fun db hJ hK => ?_
  cases hupdated : proportionalBudgetTree ((db.view budgetSchema i).rowsIn periodStart)
      organizationId mode amount threshold with
  | error e => exact keeps_raise
  | ok updated =>
      rw [hK.view_eq] at hupdated
      -- The same rows are computed from the rows of the period at any later time.
      have hlater : ∀ t : BudgetTables, t.rowsIn periodStart = start.rowsIn periodStart →
          proportionalBudgetTree (t.rowsIn periodStart) organizationId mode amount threshold =
            .ok updated := fun t hrows => by
        rw [hrows, ← hK.rows .config]
        exact hupdated
      obtain ⟨⟨root, hroot⟩, hkeys⟩ := proportionalBudgetTree_keys hupdated
      have hnothing : Knows (.config periodStart) i start (([] : List BudgetRow).map .put) db := hK
      refine keeps_each_put hnothing (fun row hrow written db' g hdb hnext => ?_)
        fun db hdb hcolumns => ?_
      · simp only [Client.bind_assoc]
        refine hdb.keeps_execute fun db' hJ' hK' haccepts db'' hK'' => ?_
        -- The row is still there: the transaction removes none.
        have hthere : ∃ other ∈ (db'.view budgetSchema i).tokenBudgets, other.key = row.key := by
          rw [hK'.view_eq, foldl_put_apply]
          refine List.mem_map.1 (Rows.mem_keys_foldl_put hJ'.hierarchy.nodup ?_)
          have hkey := hkeys row hrow
          rw [List.foldl_nil, hK.rows .config, ← hK'.rows .config] at hkey
          obtain ⟨other, hother, heq⟩ := List.mem_map.1 hkey
          exact heq ▸ List.mem_map_of_mem (mem_rowsIn.1 hother).1
        rw [if_pos hthere] at haccepts hK''
        exact hnext db'' hK'' (acceptsAll_put haccepts)
      · have hfair := inColumns_amount (hcolumns _ hroot) hcents
        refine keeps_adminCommit hdb (fun change hchange => ?_) fun t ht htcolumns hrows => ?_
        · obtain ⟨row, hrow, rfl⟩ := List.mem_map.1 hchange
          obtain ⟨old, hold, heq⟩ := List.mem_map.1 (hkeys row hrow)
          exact (congrArg Prod.fst heq).symm.trans (mem_rowsIn.1 hold).2
        · obtain ⟨previousMode, tree, rfl, htree⟩ :=
            proportionalBudgetTree_ok ht hfair (hlater t hrows)
          have hmem : ∀ row ∈ tree.map (·.2), row.key ∈ t.tokenBudgets.map key := by
            intro row hrow
            obtain ⟨pair, hpair, rfl⟩ := List.mem_map.1 hrow
            rw [(htree.rescaled pair hpair).key]
            exact List.mem_map_of_mem ((htree.mem pair.1).1 (List.mem_map_of_mem hpair)).1
          rw [List.nil_append, foldl_put_apply]
          refine ⟨?_, inColumns_foldl_put ht htcolumns hcolumns⟩
          change Hierarchy (List.foldl _ t.tokenBudgets _)
          rw [Rows.foldl_put_of_mem ht.nodup (htree.keys_nodup ht) hmem]
          exact (htree.switchedRows ht).hierarchy

/-! ## A new period -/

/-- What a roll-forward copies: rows of its period, that are a hierarchy. -/
structure Copied (periodStart : ℤ) (rows : List BudgetRow) : Prop where
  hierarchy : Hierarchy rows
  inColumns : ∀ row ∈ rows, row.InColumns
  period : ∀ row ∈ rows, row.periodStart = periodStart

theorem Copied.nil (periodStart : ℤ) : Copied periodStart [] :=
  ⟨Hierarchy.empty, fun _ h => absurd h List.not_mem_nil, fun _ h => absurd h List.not_mem_nil⟩

theorem inColumns_inPeriod {row : BudgetRow} (h : row.InColumns) (periodStart : ℤ) :
    (row.inPeriod periodStart).InColumns := h

/-- The rows of a period of a hierarchy, copied to another. -/
theorem Copied.of_source {t : BudgetTables} (ht : Hierarchy t.tokenBudgets)
    (hcolumns : ∀ row ∈ t.tokenBudgets, row.InColumns) (source periodStart : ℤ) :
    Copied periodStart ((t.rowsIn source).map (BudgetRow.inPeriod periodStart)) := by
  have hsource : Hierarchy (t.rowsIn source) := ht.sublist List.filter_sublist
  refine ⟨hsource.inPeriod (fun row hrow => (mem_rowsIn.1 hrow).2) periodStart, ?_, ?_⟩
  · intro row hrow
    obtain ⟨old, hold, rfl⟩ := List.mem_map.1 hrow
    exact inColumns_inPeriod (hcolumns old (mem_rowsIn.1 hold).1) periodStart
  · intro row hrow
    obtain ⟨old, -, rfl⟩ := List.mem_map.1 hrow
    rfl

/-- The insertions of some rows, one after the other. -/
theorem foldl_insert_apply (rows : List BudgetRow) (t : BudgetTables) :
    (rows.map BudgetChange.insert).foldl BudgetTables.apply t =
      { t with
        tokenBudgets := rows.foldl (fun budgets row => Rows.put BudgetRow.key row budgets)
          t.tokenBudgets } := by
  induction rows generalizing t with
  | nil => rfl
  | cons row rows ih =>
      rw [List.map_cons, List.foldl_cons, ih]
      rfl

/-- The tables after a roll-forward. -/
theorem apply_rollForward {periodStart : ℤ} {rows : List BudgetRow}
    (hrows : Copied periodStart rows) {t : BudgetTables}
    (hempty : rows ≠ [] → t.rowsIn periodStart = []) (marker : BudgetRollForward) :
    (rows.map BudgetChange.insert ++
        [BudgetChange.mark periodStart marker]).foldl BudgetTables.apply t =
      { tokenBudgets := t.tokenBudgets ++ rows
        budgetRollForward := Function.update t.budgetRollForward periodStart (some marker) } := by
  have hput : rows.foldl (fun budgets row => Rows.put BudgetRow.key row budgets) t.tokenBudgets =
      t.tokenBudgets ++ rows := by
    refine Rows.foldl_put_of_disjoint hrows.hierarchy.nodup fun row hrow hmem => ?_
    obtain ⟨other, hother, hkey⟩ := List.mem_map.1 hmem
    have hin : other ∈ t.rowsIn periodStart :=
      mem_rowsIn.2 ⟨hother, (congrArg Prod.fst hkey).trans (hrows.period row hrow)⟩
    rw [hempty (List.ne_nil_of_mem hrow)] at hin
    exact absurd hin List.not_mem_nil
  rw [List.foldl_append, foldl_insert_apply, hput]
  rfl

theorem marked_rollForward {periodStart p : ℤ} {rows : List BudgetRow}
    {marker : BudgetRollForward} :
    RollsForward p (rows.map BudgetChange.insert ++ [BudgetChange.mark periodStart marker]) ↔
      p = periodStart := by
  constructor
  · rintro ⟨change, hchange, hmarked⟩
    rcases List.mem_append.1 hchange with hchange | hchange
    · obtain ⟨row, -, rfl⟩ := List.mem_map.1 hchange
      cases hmarked
    · rw [List.mem_singleton.1 hchange] at hmarked
      exact (Option.some.inj hmarked).symm
  · rintro rfl
    exact ⟨.mark p marker, List.mem_append_right _ List.mem_cons_self, rfl⟩

/-- The commit of a roll-forward into a period without rows. -/
theorem keeps_rollForwardCommit {periodStart : ℤ} {rows : List BudgetRow}
    {marker : BudgetRollForward} (hdb : Knows (.rollForward periodStart) i start
      (rows.map BudgetChange.insert ++ [BudgetChange.mark periodStart marker]) db)
    (hrows : Copied periodStart rows) (hempty : rows ≠ [] → start.rowsIn periodStart = [])
    (hmarker : start.budgetRollForward periodStart = none) :
    KeepsBudgets i (run .database .commit >>= fun _ => pure ()) db := by
  refine hdb.keeps_commit .rollForward (fun db hJ hK => ?_) fun _ => keeps_pure
  have hempty : rows ≠ [] → db.committed.rowsIn periodStart = [] := fun hne =>
    (hK.rows .rollForward).trans (hempty hne)
  have hmarker : db.committed.budgetRollForward periodStart = none := hK.stable.2.trans hmarker
  have hsame : ∀ q, q ≠ periodStart → rows.filter (fun row => row.periodStart = q) = [] := by
    intro q hq
    refine List.filter_eq_nil_iff.2 fun row hrow => ?_
    simpa [hrows.period row hrow] using Ne.symm hq
  rw [apply_rollForward hrows hempty]
  refine ⟨⟨?_, ?_, ?_, ?_, ?_⟩, fun q hq => ?_, fun q hq => ?_⟩
  · refine hJ.hierarchy.append hrows.hierarchy fun row hrow row' hrow' heq => ?_
    have hin : row ∈ db.committed.rowsIn periodStart :=
      mem_rowsIn.2 ⟨hrow, heq.trans (hrows.period row' hrow')⟩
    rw [hempty (List.ne_nil_of_mem hrow')] at hin
    exact absurd hin List.not_mem_nil
  · intro row hrow
    rcases List.mem_append.1 hrow with hrow | hrow
    · exact hJ.inColumns row hrow
    · exact hrows.inColumns row hrow
  · refine List.forall_mem_cons.2 ⟨fun row hrow => ?_, hJ.unmixed⟩
    rcases List.mem_append.1 hrow with hrow | hrow
    · obtain ⟨other, hother, heq⟩ := List.mem_map.1 hrow
      obtain rfl := BudgetChange.insert.inj heq
      rw [hrows.period other hother]
      exact hempty (List.ne_nil_of_mem hother)
    · cases List.mem_singleton.1 hrow
  · intro q
    by_cases hq : q = periodStart
    · subst hq
      have hnone : db.history.filter (fun entry => RollsForward q entry.2) = [] :=
        List.filter_eq_nil_iff.2 fun entry hentry => by
          simpa using hJ.unmarked q hmarker entry hentry
      rw [List.filter_cons_of_pos (by simpa using marked_rollForward.2 rfl), hnone]
      exact le_rfl
    · rw [List.filter_cons_of_neg (by simpa using fun h => hq (marked_rollForward.1 h))]
      exact hJ.once q
  · intro q hnone
    have hq : q ≠ periodStart := by
      rintro rfl
      simp at hnone
    have hnone : db.committed.budgetRollForward q = none :=
      (Function.update_of_ne hq _ _).symm.trans hnone
    exact List.forall_mem_cons.2 ⟨fun h => hq (marked_rollForward.1 h), hJ.unmarked q hnone⟩
  · unfold BudgetTables.rowsIn
    rw [List.filter_append, hsame q hq, List.append_nil]
  · rcases hq with hq | hq
    · exact Function.update_of_ne hq _ _
    · cases hq

theorem rollForwardBudgets_keepsBudgets {periodStart : ℤ} (hinv : (budgetContract (ι := ι)).inv db)
    (hdb : db.changes i = []) : KeepsBudgets i (PostgreSql.rollForwardBudgets periodStart) db := by
  unfold PostgreSql.rollForwardBudgets
  refine keeps_transaction hinv ?_
  simp only [Client.bind_assoc]
  refine keeps_periodLock hdb fun db start hdb => hdb.keeps_select fun db hJ hK => ?_
  split
  next =>
    refine hK.keeps_commit .rollForward (fun db hJ _ => ⟨?_, fun _ _ => rfl, fun _ _ => rfl⟩)
      fun _ => keeps_pure
    exact hJ.admin (p := 0) (fun change hchange => absurd hchange List.not_mem_nil) rfl
      hJ.hierarchy hJ.inColumns
  next hmarker =>
    have hmarker : start.budgetRollForward periodStart = none := by
      rw [hK.view_eq] at hmarker
      exact hK.stable.2.symm.trans (not_ne_iff.1 hmarker)
    simp only [Client.bind_assoc]
    refine hK.keeps_select fun db' hJ' hK' => hK'.keeps_select fun db'' hJ'' hK'' => ?_
    have hmark : ∀ (db : BudgetDatabase ι) (rows : List BudgetRow) (marker : BudgetRollForward),
        Knows (.rollForward periodStart) i start (rows.map .insert) db → Copied periodStart rows →
        (rows ≠ [] → start.rowsIn periodStart = []) →
        KeepsBudgets i (execute (fun _ => [.mark periodStart marker]) >>= fun _ =>
          run .database .commit >>= fun _ => pure ()) db := fun db rows marker hdb hrows hempty =>
      hdb.keeps_execute fun db _ _ _ db' hK' => keeps_rollForwardCommit hK' hrows hempty hmarker
    unfold copyRows
    split
    next source hsource =>
      have hempty : start.rowsIn periodStart = [] := by
        split at hsource
        next hoccupied =>
          rw [hK'.view_eq] at hoccupied
          exact (hK'.rows .rollForward).symm.trans hoccupied
        next => cases hsource
      refine hK''.keeps_execute fun db hJ hK _ db' hK' => ?_
      rw [hK.view_eq] at hK' ⊢
      have hrows := Copied.of_source hJ.hierarchy hJ.inColumns source periodStart
      refine hmark db' _ _ ?_ hrows fun _ => hempty
      rw [List.map_map]
      exact hK'
    next =>
      exact hmark db'' [] _ hK'' (Copied.nil periodStart) fun h => absurd rfl h

/-! ## Schedules -/

namespace BudgetCall

/-- The transaction of a call. -/
def transaction : BudgetCall → BudgetTransaction Unit
  | upsert row => PostgreSql.upsertTokenBudget row
  | bulkUpsert periodStart departmentId entries threshold mode selectedUserIds _ =>
      PostgreSql.bulkUpsertUserBudgets periodStart departmentId entries threshold mode
        selectedUserIds
  | switch periodStart organizationId mode amount threshold =>
      PostgreSql.switchOrganizationBudget periodStart organizationId mode amount threshold
  | delete key => PostgreSql.deleteTokenBudget key
  | rollForward periodStart => PostgreSql.rollForwardBudgets periodStart

/-- USD amounts are of whole cents, and everyone who is selected in a bulk upsert has an entry. -/
def InCents : BudgetCall → Prop
  | upsert row => WholeCents row.budgetMode row.amount
  | bulkUpsert _ _ entries _ mode selectedUserIds _ =>
      (∀ entry ∈ entries, WholeCents mode entry.2) ∧
      ∀ id ∈ selectedIds entries selectedUserIds, id ∈ entries.map (·.1)
  | switch _ _ mode amount _ => WholeCents mode amount
  | delete _ => True
  | rollForward _ => True

theorem transaction_keepsBudgets {call : BudgetCall} (hcall : call.InCents)
    (hinv : (budgetContract (ι := ι)).inv db) (hdb : db.changes i = []) :
    KeepsBudgets i call.transaction db := by
  cases call with
  | upsert row => exact upsertTokenBudget_keepsBudgets hcall hinv hdb
  | bulkUpsert periodStart departmentId entries threshold mode selectedUserIds modelIds =>
      exact bulkUpsertUserBudgets_keepsBudgets hcall.1 hcall.2 hinv hdb
  | switch periodStart organizationId mode amount threshold =>
      exact switchOrganizationBudget_keepsBudgets hcall hinv hdb
  | delete key => exact deleteTokenBudget_keepsBudgets hinv hdb
  | rollForward periodStart => exact rollForwardBudgets_keepsBudgets hinv hdb

end BudgetCall

abbrev BudgetSystem (ι : Type) :=
  Client.System ι (@Statement.Answer BudgetTables BudgetChange BudgetLock)
    (BudgetDatabase ι) BudgetFailure Unit

/-- The transactions of some calls, over some committed tables. -/
def budgetSystem (tables : BudgetTables) (calls : ι → BudgetCall) : BudgetSystem ι where
  world := ⟨tables, [], [], []⟩
  clients i := (calls i).transaction

/-- In every interleaving whose steps are apart, the committed rows are a hierarchy, each
period is rolled forward at most once, and only a period without rows inherits any. -/
theorem budgets_interleaved {tables : BudgetTables} (hrows : Hierarchy tables.tokenBudgets)
    (hcolumns : ∀ row ∈ tables.tokenBudgets, row.InColumns) {calls : ι → BudgetCall}
    (hcalls : ∀ i, (calls i).InCents) {s : BudgetSystem ι}
    (hr : Client.Reaches (dynamics budgetSchema) Apart (budgetSystem tables calls) s) :
    Hierarchy s.world.committed.tokenBudgets ∧
      (∀ p, (s.world.history.filter fun entry => RollsForward p entry.2).length ≤ 1) ∧
      ∀ entry ∈ s.world.history, Unmixed entry := by
  have hinv : (budgetContract (ι := ι)).inv (budgetSystem tables calls).world :=
    ⟨fun l hl => absurd hl List.not_mem_nil, hrows, hcolumns, fun entry h =>
        absurd h List.not_mem_nil,
      fun _ => Nat.zero_le 1, fun _ _ entry h => absurd h List.not_mem_nil⟩
  have hsound : Client.Sound (dynamics budgetSchema) budgetContract (fun _ _ _ => True)
      (budgetSystem tables calls) :=
    ⟨hinv, fun i => BudgetCall.transaction_keepsBudgets (hcalls i) hinv rfl⟩
  obtain ⟨-, hJ⟩ := (hsound.reaches (fun _ _ _ _ henv => by cases henv) hr).inv
  exact ⟨hJ.hierarchy, hJ.once, hJ.unmixed⟩

/-! ## A department in March -/

/-- February: an organization with 100 tokens, 60 of them a department's. -/
def february : BudgetTables where
  tokenBudgets := [organizationRow .tokens (some 100) none, departmentRow .tokens (some 60) none]
  budgetRollForward := fun _ => none

/-- A roll-forward of March, and another department that gets 100 tokens. -/
def marchCalls : Bool → BudgetCall
  | false => .rollForward 739342
  | true => .upsert { departmentRow .tokens (some 100) none with
      periodStart := 739342
      scopeId := .plain "design" }

/-- The department is stored after the roll-forward has found March empty, and committed before
it copies February. -/
def marchSchedule : List (Option Bool × Fate) :=
  List.replicate 4 (some false, .done) ++ List.replicate 9 (some true, .done) ++
    List.replicate 3 (some false, .done)

/-- The rows after the schedule. -/
def mixedRows : List BudgetRow :=
  february.tokenBudgets ++
    [{ departmentRow .tokens (some 100) none with
        periodStart := 739342
        scopeId := .plain "design" }] ++
    february.tokenBudgets.map (BudgetRow.inPeriod 739342)

/-- In March the departments have 160 tokens of the 100 of their organization. -/
theorem march_is_over_allocated :
    ¬∀ s, Client.Reaches (dynamics budgetSchema) Client.anyChange
        (budgetSystem february marchCalls) s →
      ∀ parent ∈ s.world.committed.tokenBudgets,
        allocated s.world.committed.tokenBudgets parent ≤ parent.amount := by
  intro hall
  have hrun : ((budgetSystem february marchCalls).run? (dynamics budgetSchema) marchSchedule).map
      (fun s => s.world.committed.tokenBudgets) = some mixedRows := by decide +kernel
  obtain ⟨s, hs, hrows⟩ := Option.map_eq_some_iff.1 hrun
  have hle := hall s (Client.reaches_of_run? hs)
    ((organizationRow .tokens (some 100) none).inPeriod 739342) (by rw [hrows]; decide +kernel)
  rw [hrows] at hle
  exact absurd hle (by decide +kernel)

/-- No administrator's transaction is in progress. -/
def noAdministrators (db : BudgetDatabase Bool) : Bool :=
  db.locks.all fun l => match l.1 with
    | .config _ => false
    | _ => true

theorem apart_of_noAdministrators {db db' : BudgetDatabase Bool} (h : noAdministrators db = true) :
    Apart db db' := by
  intro p i j _ hconfig
  have hadmin := List.all_eq_true.1 h _ hconfig
  cases hadmin

theorem february_hierarchy : Hierarchy february.tokenBudgets := by
  have hrows :
      february.tokenBudgets = ((BudgetCall.upsert (departmentRow .tokens (some 60) none)).perform
      ((BudgetCall.upsert (organizationRow .tokens (some 100) none)).perform
        noBudgets)).tokenBudgets := by
    decide
  rw [hrows]
  refine hierarchy_of_reachable (.call (.call (.empty rfl fun _ => rfl) ?_) ?_)
  · exact oneFairLimit_withLimit (organizationRow .tokens none none)
      ⟨by decide, by decide, by decide⟩
  · exact oneFairLimit_withLimit (departmentRow .tokens none none) ⟨by decide, by decide, by decide⟩

/-- Alone, the roll-forward of March copies the rows of February. -/
theorem march_inherits_february :
    ∃ s : BudgetSystem Bool, s.world.committed.tokenBudgets =
        february.tokenBudgets ++ february.tokenBudgets.map (BudgetRow.inPeriod 739342) ∧
      Hierarchy s.world.committed.tokenBudgets := by
  have hrun : ((budgetSystem february marchCalls).runIn? (dynamics budgetSchema) noAdministrators
      (List.replicate 7 (some false, .done))).map (fun s => s.world.committed.tokenBudgets) =
      some (february.tokenBudgets ++ february.tokenBudgets.map (BudgetRow.inPeriod 739342)) := by
    decide +kernel
  obtain ⟨s, hs, hrows⟩ := Option.map_eq_some_iff.1 hrun
  have hcents : ∀ b, (marchCalls b).InCents := by
    intro b
    cases b with
    | false => trivial
    | true => exact fun h => by cases h
  exact ⟨s, hrows, (budgets_interleaved february_hierarchy (by decide) hcents
    (Client.reaches_of_runIn? (fun _ _ => apart_of_noAdministrators) hs)).1⟩

end Turnstile
