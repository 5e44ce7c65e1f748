import Turnstile.Persistence.BudgetWrites

/-!
# Interleaved budget transactions

A transaction that holds the lock of a period, of either kind, relies on the rows of the period
not to change.  Between transactions of one kind the lock sees to that.  Between a roll-forward
and an administrator nothing does: `Apart` says that while both are in progress for a period,
neither commits a change of its rows.

In runs whose steps are apart each committed state is a hierarchy, each period is rolled forward
at most once, and only while it has no rows (`budgets_interleaved`).
-/

namespace Turnstile

open Guard ReadCommitted BudgetRow BudgetTransaction

variable {ι : Type} [DecidableEq ι]

abbrev BudgetDatabase (ι : Type) := Database BudgetTables BudgetChange BudgetLock ι

/-! ## What is promised -/

/-- The committed transaction rolled a period forward. -/
def RollsForward (periodStart : ℤ) (changes : List BudgetChange) : Prop :=
  ∃ change ∈ changes, change.marked? = some periodStart

instance (periodStart : ℤ) (changes : List BudgetChange) :
    Decidable (RollsForward periodStart changes) :=
  inferInstanceAs (Decidable (∃ change ∈ changes, change.marked? = some periodStart))

/-- The rows that a transaction inherited were inherited by periods without rows. -/
def Unmixed (entry : BudgetTables × List BudgetChange) : Prop :=
  ∀ row, .insert row ∈ entry.2 → entry.1.rowsIn row.periodStart = []

/-- What holds of the committed state, and of the transactions that were committed. -/
structure BudgetInvariant (t : BudgetTables) (history : List (BudgetTables × List BudgetChange)) :
    Prop where
  hierarchy : Hierarchy t.tokenBudgets
  inColumns : ∀ row ∈ t.tokenBudgets, row.InColumns
  unmixed : ∀ entry ∈ history, Unmixed entry
  once : ∀ p, (history.filter fun entry => RollsForward p entry.2).length ≤ 1
  unmarked : ∀ p, t.budgetRollForward p = none → ∀ entry ∈ history, ¬RollsForward p entry.2

/-- What a lock keeps of the committed state. -/
def stableUnder : BudgetLock → BudgetTables → BudgetTables → Prop
  | .config p, t, t' => t'.rowsIn p = t.rowsIn p
  | .rollForward p, t, t' =>
      t'.rowsIn p = t.rowsIn p ∧ t'.budgetRollForward p = t.budgetRollForward p
  | .scope _, _, _ => True

theorem stableUnder_refl (name : BudgetLock) (t : BudgetTables) : stableUnder name t t := by
  cases name with
  | config p => exact rfl
  | rollForward p => exact ⟨rfl, rfl⟩
  | scope key => trivial

theorem stableUnder_trans (name : BudgetLock) (t₁ t₂ t₃ : BudgetTables)
    (h : stableUnder name t₁ t₂) (h' : stableUnder name t₂ t₃) : stableUnder name t₁ t₃ := by
  cases name with
  | config p => exact Eq.trans h' h
  | rollForward p => exact ⟨h'.1.trans h.1, h'.2.trans h.2⟩
  | scope key => trivial

/-- While a roll-forward of a period and an administrator's transaction in it are both in
progress, no change of the rows of the period is committed. -/
def Apart (db db' : BudgetDatabase ι) : Prop :=
  ∀ p i j, (.rollForward p, i) ∈ db.locks → (.config p, j) ∈ db.locks →
    db'.committed.rowsIn p = db.committed.rowsIn p

/-- What budget transactions rely on. -/
def budgetContract : Client.Contract ι (BudgetDatabase ι) :=
  contract BudgetInvariant stableUnder stableUnder_refl stableUnder_trans Apart

/-- A transaction keeps to the contract. -/
abbrev KeepsBudgets {α : Type} (i : ι) (p : BudgetTransaction α) (db : BudgetDatabase ι) : Prop :=
  Keeps budgetSchema budgetContract i p db

/-- The lock of a period, of an administrator's transaction or of a roll-forward. -/
inductive PeriodLock (p : ℤ) : BudgetLock → Prop
  | config : PeriodLock p (.config p)
  | rollForward : PeriodLock p (.rollForward p)

/-- A transaction that holds the lock of a period knows its own changes, and that what the lock
keeps is as it was. -/
structure Knows (name : BudgetLock) (i : ι) (start : BudgetTables) (changes : List BudgetChange)
    (db : BudgetDatabase ι) : Prop where
  held : (name, i) ∈ db.locks
  changes_eq : db.changes i = changes
  stable : stableUnder name start db.committed

section Knowledge

variable {name : BudgetLock} {p : ℤ} {i : ι} {start : BudgetTables} {changes : List BudgetChange}
  {db : BudgetDatabase ι}

theorem Knows.kept : Kept budgetContract i (Knows (ι := ι) name i start changes) := by
  rintro db db' ⟨⟨hlocks, hchanges⟩, hstable⟩ h
  exact ⟨(hlocks name).2 h.held, hchanges.trans h.changes_eq,
    stableUnder_trans name _ _ _ h.stable (hstable name h.held)⟩

theorem Knows.rows (h : Knows name i start changes db) (hname : PeriodLock p name) :
    db.committed.rowsIn p = start.rowsIn p := by
  cases hname with
  | config => exact h.stable
  | rollForward => exact h.stable.1

theorem Knows.view_eq (h : Knows name i start changes db) :
    db.view budgetSchema i = changes.foldl BudgetTables.apply db.committed := by
  rw [Database.view, h.changes_eq]
  rfl

theorem Knows.lock (h : Knows name i start changes db) (other : BudgetLock) :
    Knows name i start changes { db with
      locks := (other, i) :: db.locks } :=
  ⟨List.mem_cons_of_mem _ h.held, h.changes_eq, h.stable⟩

theorem Knows.execute (h : Knows name i start changes db) (new : List BudgetChange) :
    Knows name i start (changes ++ new) { db with
      pending := db.pending ++ new.map fun c => (i, c) } :=
  ⟨h.held, (Database.changes_append i db new).trans (by rw [h.changes_eq]), h.stable⟩

end Knowledge

/-! ## Rules -/

section Rules

variable {α : Type} {i : ι} {db : BudgetDatabase ι}

theorem keeps_check {p : Prop} [Decidable p] {e : BudgetError} {f : Unit → BudgetTransaction α}
    (h : p → KeepsBudgets i (f ()) db) : KeepsBudgets i (check p e >>= f) db := by
  unfold check
  by_cases hp : p
  · rw [require_of hp]
    exact h hp
  · rw [require_of_not hp]
    exact keeps_raise

/-- A transaction that has done nothing takes the lock of a period. -/
theorem keeps_periodLock {name : BudgetLock} {f : Unit → BudgetTransaction α}
    (hdb : db.changes i = [])
    (h : ∀ db start, Knows name i start [] db → KeepsBudgets i (f ()) db) :
    KeepsBudgets i (lock name >>= f) db := by
  refine keeps_lock (K := fun db => db.changes i = [])
    (fun _ _ hrely hchanges => hrely.1.2.trans hchanges) hdb fun db hinv hchanges => ?_
  exact h _ db.committed ⟨List.mem_cons_self, hchanges, stableUnder_refl name _⟩

variable {name : BudgetLock} {p : ℤ} {start : BudgetTables} {changes : List BudgetChange}
  (hdb : Knows name i start changes db)

include hdb

theorem Knows.keeps_lock {other : BudgetLock} {f : Unit → BudgetTransaction α}
    (h : ∀ db, Knows name i start changes db → KeepsBudgets i (f ()) db) :
    KeepsBudgets i (BudgetTransaction.lock other >>= f) db :=
  ReadCommitted.keeps_lock Knows.kept hdb fun _ _ hK => h _ (hK.lock other)

theorem Knows.keeps_select {f : BudgetTables → BudgetTransaction α}
    (h : ∀ db, BudgetInvariant db.committed db.history → Knows name i start changes db →
      KeepsBudgets i (f (db.view budgetSchema i)) db) :
    KeepsBudgets i (select >>= f) db :=
  ReadCommitted.keeps_select Knows.kept hdb fun db hinv hK => h db hinv.2 hK

theorem Knows.keeps_execute {new : BudgetTables → List BudgetChange}
    {f : List BudgetChange → BudgetTransaction α}
    (h : ∀ db, BudgetInvariant db.committed db.history → Knows name i start changes db →
      (db.view budgetSchema i).acceptsAll (new (db.view budgetSchema i)) = true →
      ∀ db', Knows name i start (changes ++ new (db.view budgetSchema i)) db' →
        KeepsBudgets i (f (new (db.view budgetSchema i))) db') :
    KeepsBudgets i (BudgetTransaction.execute new >>= f) db :=
  ReadCommitted.keeps_execute Knows.kept hdb fun db hinv hK haccepts =>
    h db hinv.2 hK haccepts _ (hK.execute _)

/-- A commit that changes only rows of the period, and is marked only under the lock of the
roll-forward. -/
theorem Knows.keeps_commit (hname : PeriodLock p name) {f : Unit → BudgetTransaction α}
    (h : ∀ db, BudgetInvariant db.committed db.history → Knows name i start changes db →
      BudgetInvariant (changes.foldl BudgetTables.apply db.committed)
        ((db.committed, changes) :: db.history) ∧
      (∀ q, q ≠ p →
        (changes.foldl BudgetTables.apply db.committed).rowsIn q = db.committed.rowsIn q) ∧
      ∀ q, q ≠ p ∨ name = .config p →
        (changes.foldl BudgetTables.apply db.committed).budgetRollForward q =
          db.committed.budgetRollForward q)
    (hrest : ∀ db', KeepsBudgets i (f ()) db') :
    KeepsBudgets i (run .database .commit >>= f) db := by
  refine ReadCommitted.keeps_commit (K := fun db => Knows name i start changes db)
    Knows.kept hdb fun db hinv hK hguard => ?_
  have hguard : ∀ q j j', (.rollForward q, j) ∈ db.locks → (.config q, j') ∈ db.locks →
      (db.view budgetSchema i).rowsIn q = db.committed.rowsIn q := hguard
  obtain ⟨hJ, hrows, hmarks⟩ := h db hinv.2 hK
  rw [hK.view_eq] at hguard ⊢
  refine ⟨hK.changes_eq ▸ hJ, fun other j hj hother => ?_, hrest⟩
  have hexcl : other ≠ name := fun heq => hj (hinv.1 (other, j) hother (name, i) hK.held heq)
  cases other with
  | scope key => trivial
  | config q =>
      by_cases hq : q = p
      · subst hq
        cases hname with
        | config => exact absurd rfl hexcl
        | rollForward => exact hguard q i j hK.held hother
      · exact hrows q hq
  | rollForward q =>
      by_cases hq : q = p
      · subst hq
        cases hname with
        | config => exact ⟨hguard q j i hother hK.held, hmarks q (.inr rfl)⟩
        | rollForward => exact absurd rfl hexcl
      · exact ⟨hrows q hq, hmarks q (.inl hq)⟩

end Rules

/-! ## Administrators -/

/-- A change that an administrator makes: of the budget rows of one period. -/
def AdminChange (p : ℤ) : BudgetChange → Prop
  | .put row => row.periodStart = p
  | .delete key => key.1 = p
  | .insert _ | .mark _ _ => False

theorem adminChange_apply {p : ℤ} {change : BudgetChange} (h : AdminChange p change)
    (t : BudgetTables) :
    (∀ q, q ≠ p → (t.apply change).rowsIn q = t.rowsIn q) ∧
      (t.apply change).budgetRollForward = t.budgetRollForward := by
  cases change with
  | insert row => exact absurd h id
  | mark period marker => exact absurd h id
  | put row =>
      obtain rfl : row.periodStart = p := h
      exact ⟨fun q hq => rowsIn_put (Ne.symm hq), rfl⟩
  | delete key =>
      obtain rfl : key.1 = p := h
      refine ⟨fun q hq => ?_, rfl⟩
      unfold BudgetTables.apply BudgetTables.rowsIn
      rw [List.filter_filter]
      refine List.filter_congr fun row _ => ?_
      by_cases hrow : row.periodStart = q
      · have hne : row.key ≠ key := fun heq => hq (hrow.symm.trans (congrArg Prod.fst heq))
        simp [hrow, hne]
      · simp [hrow]

theorem adminChanges_apply {p : ℤ} {changes : List BudgetChange}
    (h : ∀ change ∈ changes, AdminChange p change) (t : BudgetTables) :
    (∀ q, q ≠ p → (changes.foldl BudgetTables.apply t).rowsIn q = t.rowsIn q) ∧
      (changes.foldl BudgetTables.apply t).budgetRollForward = t.budgetRollForward := by
  induction changes generalizing t with
  | nil => exact ⟨fun _ _ => rfl, rfl⟩
  | cons change changes ih =>
      obtain ⟨hrows, hmarks⟩ := adminChange_apply (h change List.mem_cons_self) t
      obtain ⟨hrows', hmarks'⟩ :=
        ih (fun other hother => h other (List.mem_cons_of_mem change hother))
        (t.apply change)
      exact ⟨fun q hq => (hrows' q hq).trans (hrows q hq), hmarks'.trans hmarks⟩

/-- An administrator rolls nothing forward. -/
theorem BudgetInvariant.admin {t t' : BudgetTables}
    {history : List (BudgetTables × List BudgetChange)} (h : BudgetInvariant t history)
    {p : ℤ} {changes : List BudgetChange} (hchanges : ∀ change ∈ changes, AdminChange p change)
    (hmarks : t'.budgetRollForward = t.budgetRollForward) (hrows : Hierarchy t'.tokenBudgets)
    (hcolumns : ∀ row ∈ t'.tokenBudgets, row.InColumns) :
    BudgetInvariant t' ((t, changes) :: history) := by
  have hnone : ∀ q, ¬RollsForward q changes := by
    rintro q ⟨change, hchange, hmarked⟩
    have hadmin := hchanges change hchange
    cases change with
    | insert row => exact hadmin
    | mark period marker => exact hadmin
    | put row => cases hmarked
    | delete key => cases hmarked
  refine ⟨hrows, hcolumns, List.forall_mem_cons.2 ⟨fun row hrow => ?_, h.unmixed⟩, fun q => ?_,
    fun q hq => List.forall_mem_cons.2 ⟨hnone q, h.unmarked q (hmarks ▸ hq)⟩⟩
  · exact absurd (hchanges _ hrow) id
  · rw [List.filter_cons_of_neg (by simpa using hnone q)]
    exact h.once q

/-- The commit of an administrator's transaction keeps the hierarchy. -/
theorem keeps_adminCommit {p : ℤ} {i : ι} {start : BudgetTables} {changes : List BudgetChange}
    {db : BudgetDatabase ι} (hdb : Knows (.config p) i start changes db)
    (hadmin : ∀ change ∈ changes, AdminChange p change)
    (h : ∀ t : BudgetTables, Hierarchy t.tokenBudgets → (∀ row ∈ t.tokenBudgets, row.InColumns) →
      t.rowsIn p = start.rowsIn p →
      Hierarchy (changes.foldl BudgetTables.apply t).tokenBudgets ∧
        ∀ row ∈ (changes.foldl BudgetTables.apply t).tokenBudgets, row.InColumns) :
    KeepsBudgets i (run .database .commit >>= fun _ => pure ()) db := by
  refine hdb.keeps_commit .config (fun db hJ hK => ?_) fun _ => keeps_pure
  obtain ⟨hrows, hmarks⟩ := adminChanges_apply hadmin db.committed
  obtain ⟨hhierarchy, hcolumns⟩ := h db.committed hJ.hierarchy hJ.inColumns (hK.rows .config)
  exact ⟨hJ.admin hadmin hmarks hhierarchy hcolumns, hrows,
    fun q _ => congrFun hmarks q⟩

/-- A transaction without changes. -/
theorem keeps_emptyCommit {i : ι} {db : BudgetDatabase ι} (hdb : db.changes i = []) :
    KeepsBudgets i (run .database .commit >>= fun _ => pure ()) db := by
  refine keeps_commit (K := fun db => db.changes i = [])
    (fun _ _ hrely hchanges => hrely.1.2.trans hchanges) hdb fun db hinv hchanges _ => ?_
  have hview : db.view budgetSchema i = db.committed := by
    rw [Database.view, hchanges]
    rfl
  rw [hview, hchanges]
  refine ⟨?_, fun name _ _ _ => stableUnder_refl name _, fun _ => keeps_pure⟩
  exact hinv.2.admin (p := 0) (fun change hchange => absurd hchange List.not_mem_nil) rfl
    hinv.2.hierarchy hinv.2.inColumns

end Turnstile
