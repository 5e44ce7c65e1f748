import Turnstile.Domain.BudgetTree
import Turnstile.Foundation.Procedure

/-!
# The token budgets of the in-memory repository

Budgets are stored by period, scope type and scope.  Each operation checks the hierarchy in
its own way and then writes: a single upsert looks at the parent and at the children, a bulk
upsert at the total of a department, a unit switch at the whole tree of an organization, and
a roll-forward copies a period into an empty one unchecked.
-/

namespace Turnstile

open Guard Procedure

/-- A marker of `budget_roll_forward`. -/
structure BudgetRollForward where
  sourcePeriodStart : Option ℤ
  scopeCount : ℕ
deriving DecidableEq, Repr

inductive BudgetAction where
  | assigned
  | updated
  | removed
deriving DecidableEq, Repr

/-- A row of `token_budget_audit`. -/
structure TokenBudgetAudit where
  periodStart : ℤ
  scopeType : BudgetScopeType
  scopeId : Text
  action : BudgetAction
  previousBudgetMode : Option BudgetMode
  newBudgetMode : Option BudgetMode
  previousTokenLimit : Option ℤ
  newTokenLimit : Option ℤ
  previousUsdLimit : Option ℤ
  newUsdLimit : Option ℤ
  previousWarningThresholdPercent : Option ℤ
  newWarningThresholdPercent : Option ℤ
deriving DecidableEq, Repr

/-- What an audit row says of a change. -/
def TokenBudgetAudit.of (key : BudgetKey) (action : BudgetAction)
    (previous new : Option BudgetRow) :
    TokenBudgetAudit where
  periodStart := key.1
  scopeType := key.2.1
  scopeId := key.2.2
  action := action
  previousBudgetMode := previous.map (·.budgetMode)
  newBudgetMode := new.map (·.budgetMode)
  previousTokenLimit := previous.bind (·.tokenLimit)
  newTokenLimit := new.bind (·.tokenLimit)
  previousUsdLimit := previous.bind (·.usdLimit)
  newUsdLimit := new.bind (·.usdLimit)
  previousWarningThresholdPercent := previous.map (·.warningThresholdPercent)
  newWarningThresholdPercent := new.map (·.warningThresholdPercent)

/-- A row of `user_model_access_audit`. -/
structure ModelAccessAudit where
  userId : Text
  previousModelIds : List UUID
  newModelIds : List UUID
deriving DecidableEq, Repr

/-- What the repository stores of budgets. -/
structure BudgetStore where
  tokenBudgets : List BudgetRow
  tokenBudgetAudit : List TokenBudgetAudit
  budgetRollForward : ℤ → Option BudgetRollForward
  /-- The ids of the models that are enabled. -/
  enabledModels : List UUID
  /-- `model_ids` of the policies. -/
  userModelPolicies : Text → Option (List UUID)
  userModelAccessAudit : List ModelAccessAudit

abbrev BudgetProcedure (α : Type) := Procedure BudgetError BudgetStore α

namespace BudgetStore

/-- `token_budgets.get`. -/
def budget? (s : BudgetStore) (key : BudgetKey) : Option BudgetRow :=
  Rows.find? BudgetRow.key key s.tokenBudgets

/-- `token_budgets[key] = row`, with its audit row. -/
def putBudget (s : BudgetStore) (row : BudgetRow) : BudgetStore :=
  { s with
    tokenBudgets := Rows.put BudgetRow.key row s.tokenBudgets
    tokenBudgetAudit :=
      .of row.key (if s.budget? row.key = none then .assigned else .updated) (s.budget? row.key)
        (some row) :: s.tokenBudgetAudit }

/-- `token_budgets.pop(key, None)`, with the audit row of a row that was there. -/
def removeBudget (s : BudgetStore) (key : BudgetKey) : BudgetStore :=
  { s with
    tokenBudgets := s.tokenBudgets.filter fun row => row.key ≠ key
    tokenBudgetAudit :=
      ((s.budget? key).map fun row => .of key .removed (some row) none).toList
        ++ s.tokenBudgetAudit }

/-- `user_model_policies[user_id] = ...`, with its audit row. -/
def putModels (s : BudgetStore) (modelIds : List UUID) (userId : Text) : BudgetStore :=
  { s with
    userModelPolicies := Function.update s.userModelPolicies userId (some modelIds)
    userModelAccessAudit :=
      ⟨userId, (s.userModelPolicies userId).getD [], modelIds⟩ :: s.userModelAccessAudit }

/-- `list_token_budgets`. -/
def listTokenBudgets (s : BudgetStore) (periodStart : ℤ) : List BudgetRow :=
  s.tokenBudgets.filter fun row => row.periodStart = periodStart

end BudgetStore

/-! ## One budget -/

/-- The limits of some rows; one that is missing is an error. -/
def completeLimits (mode : BudgetMode) (rows : List BudgetRow) : Except BudgetError (List ℤ) :=
  rows.mapM fun row =>
    match row.limit mode with
    | some limit => .ok limit
    | none => .error (.constraintViolation "Budget hierarchy has an incomplete limit")

/-- The checks of `upsert_token_budget` against the parent and the siblings. -/
def checkParent (s : BudgetStore) (periodStart : ℤ) (scopeType : BudgetScopeType) (scopeId : Text)
    (parentScopeId : Option Text) (mode : BudgetMode) (amount : ℤ) : Except BudgetError Unit :=
  match scopeType.parent?, parentScopeId with
  | some parentType, some parentId => do
      let parent := s.budget? (periodStart, parentType, parentId)
      require (∀ p ∈ parent, p.budgetMode = mode)
        (.constraintViolation "Parent and child budgets must use the same mode")
      let siblings := s.tokenBudgets.filter fun row =>
        row.periodStart = periodStart ∧ row.scopeType = scopeType ∧
          row.parentScopeId = some parentId ∧ row.scopeId ≠ scopeId
      require (∀ row ∈ siblings, row.budgetMode = mode)
        (.constraintViolation "Sibling budgets must use the same mode")
      let siblingLimits ← completeLimits mode siblings
      match parent.bind (BudgetRow.limit mode) with
      | some parentLimit =>
          require (addLimits defaultContext mode
            (sumLimits defaultContext mode siblingLimits) amount
            ≤ parentLimit) (.constraintViolation "Child budgets exceed parent budget")
      | none => pure ()
  | _, _ => pure ()

/-- The checks of `upsert_token_budget` against the children. -/
def checkChildren (s : BudgetStore) (periodStart : ℤ) (scopeType : BudgetScopeType) (scopeId : Text)
    (mode : BudgetMode) (amount : ℤ) : Except BudgetError Unit :=
  match scopeType.child? with
  | some childType => do
      let children := s.tokenBudgets.filter fun row =>
        row.periodStart = periodStart ∧ row.scopeType = childType ∧
          row.parentScopeId = some scopeId
      require (∀ row ∈ children, row.budgetMode = mode)
        (.constraintViolation "Parent and child budgets must use the same mode")
      let childLimits ← completeLimits mode children
      require (sumLimits defaultContext mode childLimits ≤ amount)
        (.constraintViolation "Parent budget is below allocated child budgets")
  | none => pure ()

/-- `upsert_token_budget`, of the row with its arguments. -/
def upsertTokenBudget (row : BudgetRow) : BudgetProcedure Unit := do
  let s ← get
  let amount ← demand (row.limit row.budgetMode)
    (.constraintViolation "Budget limit does not match its mode")
  lift (checkParent s row.periodStart row.scopeType row.scopeId row.parentScopeId row.budgetMode
    amount)
  lift (checkChildren s row.periodStart row.scopeType row.scopeId row.budgetMode amount)
  -- A row that is stored as it is given is not written again.
  if s.budget? row.key = some row then pure ()
  else modify fun s => s.putBudget row

/-- `delete_token_budget`. -/
def deleteTokenBudget (key : BudgetKey) : BudgetProcedure Bool := do
  let s ← get
  modify fun s => s.removeBudget key
  pure (s.budget? key).isSome

/-! ## The budgets of a department -/

/-- `row[limit_field]`, where a sum is over it. -/
def numericLimits (mode : BudgetMode) (rows : List BudgetRow) : Except BudgetError (List ℤ) :=
  rows.mapM fun row =>
    match row.limit mode with
    | some limit => .ok limit
    | none => .error .typeError

/-- The checks of `bulk_upsert_user_budgets`. -/
def checkAllocation (s : BudgetStore) (periodStart : ℤ) (departmentId : Text)
    (entries : List (Text × ℤ)) (mode : BudgetMode) : Except BudgetError Unit :=
  match s.budget? (periodStart, .department, departmentId) with
  | none => .error (.valueError "Assign the department budget before allocating user budgets")
  | some parent => do
      require (parent.budgetMode = mode)
        (.constraintViolation "Parent and child budgets must use the same mode")
      let unselectedRows := s.tokenBudgets.filter fun row =>
        row.periodStart = periodStart ∧ row.scopeType = .user ∧
          row.parentScopeId = some departmentId ∧ row.scopeId ∉ entries.map (·.1)
      require (∀ row ∈ unselectedRows, row.budgetMode = mode)
        (.constraintViolation "Parent and child budgets must use the same mode")
      let unselectedLimits ← numericLimits mode unselectedRows
      match parent.limit mode with
      | none => .error .typeError
      | some parentLimit =>
          require (addLimits defaultContext mode (sumLimits defaultContext mode unselectedLimits)
              (sumLimits defaultContext mode (entries.map (·.2))) ≤ parentLimit)
            (.constraintViolation "User allocations would exceed the department budget")

/-- The row that `bulk_upsert_user_budgets` upserts for an entry. -/
def entryRow (periodStart : ℤ) (departmentId : Text) (warningThresholdPercent : ℤ)
    (mode : BudgetMode) (entry : Text × ℤ) : BudgetRow where
  periodStart := periodStart
  scopeType := .user
  scopeId := entry.1
  parentScopeId := some departmentId
  budgetMode := mode
  tokenLimit := if mode = .tokens then some entry.2 else none
  usdLimit := if mode = .usd then some entry.2 else none
  warningThresholdPercent := warningThresholdPercent

/-- The part of `bulk_upsert_user_budgets` about models. -/
def assignModels (userIds : List Text) (modelIds : List UUID) : BudgetProcedure Unit := do
  let s ← get
  require (∀ id ∈ modelIds, id ∈ s.enabledModels)
    (.constraintViolation "One or more selected models are unavailable")
  each (fun userId => modify fun s =>
    match s.userModelPolicies userId with
    | some previous =>
        if (∀ id ∈ previous, id ∈ modelIds) ∧ ∀ id ∈ modelIds, id ∈ previous then s
        else s.putModels modelIds userId
    | none => s.putModels modelIds userId) userIds

/-- `bulk_upsert_user_budgets`. -/
def bulkUpsertUserBudgets (periodStart : ℤ) (departmentId : Text) (entries : List (Text × ℤ))
    (warningThresholdPercent : ℤ) (mode : BudgetMode) (selectedUserIds : Option (List Text))
    (modelIds : Option (List UUID)) : BudgetProcedure Unit := do
  let s ← get
  if entries ≠ [] then do
    lift (checkAllocation s periodStart departmentId entries mode)
    each (fun entry => upsertTokenBudget
      (entryRow periodStart departmentId warningThresholdPercent mode entry)) entries
  else pure ()
  let userIds := match selectedUserIds with
    | none | some [] => entries.map (·.1)
    | some ids => ids
  match modelIds with
  | none => pure ()
  | some ids => assignModels userIds ids.eraseDups

/-! ## The tree of an organization -/

/-- `switch_organization_budget`. -/
def switchOrganizationBudget (periodStart : ℤ) (organizationId : Text) (mode : BudgetMode)
    (amount warningThresholdPercent : ℤ) : BudgetProcedure Unit := do
  let s ← get
  let updated ← lift (proportionalBudgetTree (s.listTokenBudgets periodStart) organizationId mode
    amount warningThresholdPercent)
  each (fun row => do
    let s ← get
    let _ ← demand (s.budget? row.key) .keyError
    modify fun s => s.putBudget row) updated

/-! ## A new period -/

/-- The period that `roll_forward_budgets` copies. -/
def sourcePeriod (s : BudgetStore) (periodStart : ℤ) : Option ℤ :=
  if ∃ row ∈ s.tokenBudgets, row.periodStart = periodStart then none
  else ((s.tokenBudgets.map (·.periodStart)).filter fun period => period < periodStart).max?

/-- `roll_forward_budgets`. -/
def rollForwardBudgets (periodStart : ℤ) : BudgetProcedure (Option BudgetRollForward) := do
  let s ← get
  if s.budgetRollForward periodStart ≠ none then pure none
  else do
    let source := sourcePeriod s periodStart
    let copied := s.tokenBudgets.filter fun row => some row.periodStart = source
    each (fun row => modify fun s =>
      s.putBudget { row with
        periodStart := periodStart }) copied
    modify fun s =>
      { s with budgetRollForward := Function.update s.budgetRollForward periodStart
                (some ⟨source, copied.length⟩) }
    pure (some ⟨source, copied.length⟩)

end Turnstile
