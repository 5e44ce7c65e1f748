import Turnstile.Foundation.ReadCommitted
import Turnstile.Persistence.TokenBudgets

/-!
# The token budgets of the PostgreSQL repository

Each operation is a transaction of several statements.  The operations of administrators take
the lock `budget-config` of their period first, and the roll-forward of a period takes the
lock `budget-roll-forward`: so administrators exclude each other and roll-forwards exclude
each other, but a roll-forward and an administrator do not.

The database returns rows in an order of its own, which decides nothing but the violation that
a unit switch raises where there are several.  The locks of single scopes are taken after the
lock of the period.  Rows that are locked by `FOR UPDATE` belong to a period whose lock is
held, so nobody else would change them.
-/

namespace Turnstile

open Guard ReadCommitted

/-! ## Tables -/

structure BudgetTables where
  tokenBudgets : List BudgetRow
  budgetRollForward : ℤ → Option BudgetRollForward

/-- A change of a row. -/
inductive BudgetChange where
  /-- `INSERT`. -/
  | insert (row : BudgetRow)
  /-- `INSERT ... ON CONFLICT ... DO UPDATE`, or an `UPDATE` of a row that is there. -/
  | put (row : BudgetRow)
  | delete (key : BudgetKey)
  /-- `INSERT INTO budget_roll_forward`. -/
  | mark (periodStart : ℤ) (marker : BudgetRollForward)
deriving DecidableEq

namespace BudgetChange

/-- The row of `token_budget` that is changed. -/
def key? : BudgetChange → Option BudgetKey
  | insert row => some row.key
  | put row => some row.key
  | delete key => some key
  | mark _ _ => none

/-- The row of `budget_roll_forward` that is changed. -/
def marked? : BudgetChange → Option ℤ
  | mark periodStart _ => some periodStart
  | _ => none

end BudgetChange

/-- The columns hold a row: one limit, of its mode, that is a `BIGINT` or a `NUMERIC(30,14)`,
and a parent just when it is not of an organization. -/
def BudgetRow.InColumns (row : BudgetRow) : Prop :=
  (match row.budgetMode with
    | .tokens => row.usdLimit = none ∧ ∃ limit ∈ row.tokenLimit, 0 < limit ∧ limit < 2 ^ 63
    | .usd => row.tokenLimit = none ∧ ∃ limit ∈ row.usdLimit, 0 < limit ∧ limit < usdBound) ∧
  (row.scopeType = .organization ↔ row.parentScopeId = none)

instance (row : BudgetRow) : Decidable row.InColumns := by
  unfold BudgetRow.InColumns
  cases row.budgetMode <;> infer_instance

namespace BudgetTables

/-- The tables after a change. -/
def apply (t : BudgetTables) : BudgetChange → BudgetTables
  | .insert row | .put row => { t with
      tokenBudgets := Rows.put BudgetRow.key row t.tokenBudgets }
  | .delete key => { t with
      tokenBudgets := t.tokenBudgets.filter fun row => row.key ≠ key }
  | .mark periodStart marker => { t with
      budgetRollForward := Function.update t.budgetRollForward periodStart (some marker) }

/-- The constraints let a change through. -/
def Accepts (t : BudgetTables) : BudgetChange → Prop
  | .insert row => row.InColumns ∧ ∀ other ∈ t.tokenBudgets, other.key ≠ row.key
  | .put row => row.InColumns
  | .delete _ => True
  | .mark periodStart _ => t.budgetRollForward periodStart = none

instance (t : BudgetTables) (change : BudgetChange) : Decidable (t.Accepts change) := by
  cases change <;> unfold Accepts <;> infer_instance

/-- The constraints let some changes through, one after the other. -/
def acceptsAll (t : BudgetTables) : List BudgetChange → Bool
  | [] => true
  | change :: rest => decide (t.Accepts change) && (t.apply change).acceptsAll rest

/-- The rows of a period. -/
def rowsIn (t : BudgetTables) (periodStart : ℤ) : List BudgetRow :=
  t.tokenBudgets.filter fun row => row.periodStart = periodStart

end BudgetTables

/-- `token_budget` and `budget_roll_forward`. -/
def budgetSchema : Schema BudgetTables BudgetChange where
  apply := BudgetTables.apply
  accepts := BudgetTables.acceptsAll
  clash c c' :=
    (c.key?.isSome && c.key? == c'.key?) || (c.marked?.isSome && c.marked? == c'.marked?)

inductive BudgetLock where
  /-- `budget-config:{period_start}`. -/
  | config (periodStart : ℤ)
  /-- `budget-roll-forward:{period_start}`. -/
  | rollForward (periodStart : ℤ)
  /-- `{period_start}:{scope_type}:{scope_id}`. -/
  | scope (key : BudgetKey)
deriving DecidableEq

/-- What a transaction raises. -/
inductive BudgetFailure where
  | refused (error : BudgetError)
  /-- The database raised, or the connection failed. -/
  | database
deriving DecidableEq

abbrev BudgetTransaction (α : Type) :=
  Transaction BudgetTables BudgetChange BudgetLock BudgetFailure α

namespace BudgetTransaction

/-- `SELECT pg_advisory_xact_lock(...)`. -/
def lock (name : BudgetLock) : BudgetTransaction Unit := run .database (.lock name)

/-- A query. -/
def select : BudgetTransaction BudgetTables := run .database .select

/-- A statement that changes rows. -/
def execute (changes : BudgetTables → List BudgetChange) : BudgetTransaction (List BudgetChange) :=
  run .database (.execute changes)

/-- A check that raises. -/
def check (p : Prop) [Decidable p] (e : BudgetError) : BudgetTransaction Unit :=
  Client.lift (require p (.refused e))

end BudgetTransaction

open BudgetTransaction

/-! ## One budget -/

namespace BudgetScopeType

/-- The value of `scope_type`. -/
def name : BudgetScopeType → String
  | organization => "organization"
  | department => "department"
  | user => "user"

/-- `scope_type.title()`. -/
def title : BudgetScopeType → String
  | organization => "Organization"
  | department => "Department"
  | user => "User"

end BudgetScopeType

/-- `SUM(...)` of the limits in a unit, of some rows. -/
def sumColumn (mode : BudgetMode) (rows : List BudgetRow) : ℤ :=
  (rows.filterMap (BudgetRow.limit mode)).sum

/-- The checks against the parent and the siblings, in the rows of the period. -/
def checkParentRow (row : BudgetRow) (amount : ℤ) : BudgetTransaction Unit :=
  match row.scopeType.parent?, row.parentScopeId with
  | some parentType, some parentId => do
      lock (.scope (row.periodStart, parentType, parentId))
      let t ← select
      let parent := Rows.find? BudgetRow.key (row.periodStart, parentType, parentId) t.tokenBudgets
      check (∀ p ∈ parent, p.budgetMode = row.budgetMode)
        (.constraintViolation "Parent and child budgets must use the same mode")
      let t ← select
      let siblings := t.tokenBudgets.filter fun other =>
        other.periodStart = row.periodStart ∧ other.scopeType = row.scopeType ∧
          other.parentScopeId = some parentId ∧ other.scopeId ≠ row.scopeId
      check (∀ other ∈ siblings, other.budgetMode = row.budgetMode)
        (.constraintViolation "Sibling budgets must use the same mode")
      check (∀ parentLimit ∈ parent.bind (BudgetRow.limit row.budgetMode),
          defaultContext.add (sumColumn row.budgetMode siblings) amount ≤ parentLimit)
        (.constraintViolation (row.scopeType.title ++ " allocations would exceed the " ++
          parentType.name ++ " budget"))
  | _, _ => pure ()

/-- The checks against the children. -/
def checkChildRows (row : BudgetRow) (amount : ℤ) : BudgetTransaction Unit :=
  match row.scopeType.child? with
  | some childType => do
      let t ← select
      let children := t.tokenBudgets.filter fun other =>
        other.periodStart = row.periodStart ∧ other.scopeType = childType ∧
          other.parentScopeId = some row.scopeId
      check (∀ other ∈ children, other.budgetMode = row.budgetMode)
        (.constraintViolation "Parent and child budgets must use the same mode")
      check (sumColumn row.budgetMode children ≤ amount)
        (.constraintViolation ("The " ++ row.scopeType.name ++
          " budget cannot be lower than allocated child budgets"))
  | none => pure ()

/-- The limit of an upsert, which is the only one. -/
def ownLimit (row : BudgetRow) : Option ℤ :=
  match row.budgetMode with
  | .tokens => if row.usdLimit = none then row.tokenLimit else none
  | .usd => if row.tokenLimit = none then row.usdLimit else none

/-- `upsert_token_budget`, of the row with its arguments. -/
def PostgreSql.upsertTokenBudget (row : BudgetRow) : BudgetTransaction Unit :=
  match ownLimit row with
  | none => Client.raise (.refused (.constraintViolation "Budget limit does not match its mode"))
  | some amount => transaction .database (do
      lock (.config row.periodStart)
      lock (.scope row.key)
      checkParentRow row amount
      checkChildRows row amount
      let t ← select
      if Rows.find? BudgetRow.key row.key t.tokenBudgets = some row then pure ()
      else do
        let _ ← execute fun _ => [.put row])

/-- The check of `delete_token_budget`. -/
def checkNoChildren (key : BudgetKey) : BudgetTransaction Unit :=
  match key.2.1.child? with
  | some childType => do
      let t ← select
      check (∀ other ∈ t.tokenBudgets, ¬(other.periodStart = key.1 ∧ other.scopeType = childType ∧
          other.parentScopeId = some key.2.2))
        (.constraintViolation ("Remove allocated " ++ childType.name ++
          " budgets before removing this " ++ key.2.1.name ++ " budget"))
  | none => pure ()

/-- `delete_token_budget`. -/
def PostgreSql.deleteTokenBudget (key : BudgetKey) : BudgetTransaction Unit :=
  transaction .database (do
    lock (.config key.1)
    lock (.scope key)
    checkNoChildren key
    let _ ← execute fun t =>
      if ∃ row ∈ t.tokenBudgets, row.key = key then [.delete key] else [])

/-! ## The budgets of a department -/

/-- `list(selected_user_ids or [user_id for user_id, _ in entries])`. -/
def selectedIds (entries : List (Text × ℤ)) : Option (List Text) → List Text
  | none | some [] => entries.map (·.1)
  | some ids => ids

/-- The rows that `bulk_upsert_user_budgets` writes. -/
def changedEntries (rows : List BudgetRow) (periodStart : ℤ) (departmentId : Text)
    (warningThresholdPercent : ℤ) (mode : BudgetMode) (userIds : List Text)
    (entries : List (Text × ℤ)) : List BudgetRow :=
  (entries.map (entryRow periodStart departmentId warningThresholdPercent mode)).filter fun row =>
    ¬(row.scopeId ∈ userIds ∧ Rows.find? BudgetRow.key row.key rows = some row)

/-- `bulk_upsert_user_budgets`, as far as budgets are concerned. -/
def PostgreSql.bulkUpsertUserBudgets (periodStart : ℤ) (departmentId : Text)
    (entries : List (Text × ℤ)) (warningThresholdPercent : ℤ) (mode : BudgetMode)
    (selectedUserIds : Option (List Text)) : BudgetTransaction Unit :=
  let userIds := selectedIds entries selectedUserIds
  if entries = [] then transaction .database (pure ())
  else transaction .database (do
    lock (.config periodStart)
    lock (.scope (periodStart, .department, departmentId))
    let t ← select
    match Rows.find? BudgetRow.key (periodStart, .department, departmentId) t.tokenBudgets with
    | none => Client.raise (.refused (.constraintViolation
        "Assign the department budget before allocating user budgets"))
    | some parent => do
        check (parent.budgetMode = mode)
          (.constraintViolation "Parent and child budgets must use the same mode")
        let t ← select
        let unselected := t.tokenBudgets.filter fun row =>
          row.periodStart = periodStart ∧ row.scopeType = .user ∧
            row.parentScopeId = some departmentId ∧ row.scopeId ∉ userIds
        check (∀ row ∈ unselected, row.budgetMode = mode)
          (.constraintViolation "Parent and child budgets must use the same mode")
        check (∃ parentLimit ∈ parent.limit mode, defaultContext.add (sumColumn mode unselected)
            (sumLimits defaultContext mode (entries.map (·.2))) ≤ parentLimit)
          (.constraintViolation "User allocations would exceed the department budget")
        let t ← select
        let changed := changedEntries t.tokenBudgets periodStart departmentId
          warningThresholdPercent mode userIds entries
        Client.each (fun row => do
          let _ ← execute fun _ => [.put row]) changed)

/-! ## The tree of an organization -/

/-- `switch_organization_budget`. -/
def PostgreSql.switchOrganizationBudget (periodStart : ℤ) (organizationId : Text)
    (mode : BudgetMode) (amount warningThresholdPercent : ℤ) : BudgetTransaction Unit :=
  transaction .database (do
    lock (.config periodStart)
    let t ← select
    let updated ← Client.lift ((proportionalBudgetTree (t.rowsIn periodStart) organizationId mode
      amount warningThresholdPercent).mapError .refused)
    Client.each (fun row => do
      let _ ← execute fun t =>
        if ∃ other ∈ t.tokenBudgets, other.key = row.key then [.put row] else []) updated)

/-! ## A new period -/

/-- `INSERT INTO token_budget ... SELECT ... WHERE period_start = source`, if there is a source. -/
def copyRows (source : Option ℤ) (periodStart : ℤ) : BudgetTransaction (List BudgetChange) :=
  match source with
  | some source => execute fun t => (t.rowsIn source).map fun row => .insert { row with
      periodStart := periodStart }
  | none => pure []

/-- `roll_forward_budgets`. -/
def PostgreSql.rollForwardBudgets (periodStart : ℤ) : BudgetTransaction Unit :=
  transaction .database (do
    lock (.rollForward periodStart)
    let already ← select
    if already.budgetRollForward periodStart ≠ none then pure ()
    else do
      let occupied ← select
      let earlier ← select
      let latest := ((earlier.tokenBudgets.map (·.periodStart)).filter (· < periodStart)).max?
      let source := if occupied.rowsIn periodStart = [] then latest else none
      let copied ← copyRows source periodStart
      let _ ← execute fun _ => [.mark periodStart ⟨source, copied.length⟩])

end Turnstile
