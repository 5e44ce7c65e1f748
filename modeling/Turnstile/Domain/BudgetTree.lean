import Turnstile.Domain.Values
import Turnstile.Foundation.Quotients
import Turnstile.Foundation.Rows

/-!
# Budget rows, and the tree of an organization

A budget row is a limit for one scope and one month: of an organization, of a department
under it, or of a user under that.  Limits are token counts, or USD amounts in units of
`10⁻¹⁴` dollars.

A unit switch gives the tree of an organization new limits in the other unit, in proportion
to the old ones.  It computes with fifty digits; tokens are rounded down, and USD amounts to
the nearest dollar.
-/

namespace Turnstile

open Guard

/-! ## Rows -/

inductive BudgetScopeType where
  | organization
  | department
  | user
deriving DecidableEq, Repr

namespace BudgetScopeType

/-- `parent_type`. -/
def parent? : BudgetScopeType → Option BudgetScopeType
  | organization => none
  | department => some organization
  | user => some department

/-- `child_type`. -/
def child? : BudgetScopeType → Option BudgetScopeType
  | organization => some department
  | department => some user
  | user => none

end BudgetScopeType

/-- A row of `token_budget`; the period is a date, by its ordinal. -/
structure BudgetRow where
  periodStart : ℤ
  scopeType : BudgetScopeType
  scopeId : Text
  parentScopeId : Option Text
  budgetMode : BudgetMode
  tokenLimit : Option ℤ
  usdLimit : Option ℤ
  warningThresholdPercent : ℤ
deriving DecidableEq, Repr

abbrev BudgetKey := ℤ × BudgetScopeType × Text

/-- The key of a row in `token_budgets`. -/
def BudgetRow.key (row : BudgetRow) : BudgetKey := (row.periodStart, row.scopeType, row.scopeId)

/-- The limit of a row in a unit. -/
def BudgetRow.limit (mode : BudgetMode) (row : BudgetRow) : Option ℤ :=
  match mode with
  | .tokens => row.tokenLimit
  | .usd => row.usdLimit

/-- A row with another limit, in a unit. -/
def BudgetRow.withLimit (row : BudgetRow) (mode : BudgetMode) (limit : ℤ) : BudgetRow :=
  { row with
    budgetMode := mode
    tokenLimit := if mode = .tokens then some limit else none
    usdLimit := if mode = .usd then some limit else none }

/-- The row of an organization with another limit. -/
def BudgetRow.withRootLimit (row : BudgetRow) (mode : BudgetMode)
    (limit warningThresholdPercent : ℤ) : BudgetRow :=
  { row.withLimit mode limit with
    warningThresholdPercent := warningThresholdPercent }

/-- What the budget repository raises. -/
inductive BudgetError where
  /-- `BudgetConstraintViolation(message)`. -/
  | constraintViolation (message : String)
  /-- The violation of rounded allocations, with the parent's scope type and the shortfall. -/
  | roundedAllocations (parentType : BudgetScopeType) (shortfall : ℤ)
  | valueError (message : String)
  | typeError
  | keyError
  | stopIteration
  | invalidOperation
deriving DecidableEq, Repr

/-! ## Amounts -/

/-- The decimal number of a limit. -/
def limitDecimal (mode : BudgetMode) (limit : ℤ) : ℚ :=
  match mode with
  | .tokens => limit
  | .usd => usdDecimal limit

/-- The limit that a whole number is in a unit. -/
def wholeLimit (mode : BudgetMode) (value : ℤ) : ℤ :=
  match mode with
  | .tokens => value
  | .usd => value * 10 ^ 14

/-- The sum of two limits: token counts are integers and USD amounts are decimals. -/
def addLimits (c : DecimalContext) (mode : BudgetMode) (a b : ℤ) : ℤ :=
  match mode with
  | .tokens => a + b
  | .usd => c.add a b

/-- `sum(limits)`. -/
def sumLimits (c : DecimalContext) (mode : BudgetMode) (limits : List ℤ) : ℤ :=
  limits.foldl (addLimits c mode) 0

/-- A quotient of decimals, which need not be a decimal fraction, in a context. -/
def DecimalContext.quotient (c : DecimalContext) (x y : ℚ) : ℚ := Rounding.quotientTo c.prec (x / y)

/-- `value.quantize(Decimal(1), rounding)`, of what the rounding gives. -/
def quantized (c : DecimalContext) (value : ℤ) : Except BudgetError ℤ :=
  if value.natAbs < 10 ^ c.prec then .ok value else .error .invalidOperation

/-- `ROUND_HALF_UP`, of a positive number. -/
def roundHalfUp (x : ℚ) : ℤ := ⌊x + 1 / 2⌋

/-- `ROUND_DOWN`. -/
def roundDown (x : ℚ) : ℤ := if 0 ≤ x then ⌊x⌋ else ⌈x⌉

/-! ## The tree -/

/-- The value of a row in the new unit, as a whole number. -/
def proportionalValue (mode : BudgetMode) (parentNew rowOld parentOld : ℚ) :
    Except BudgetError ℤ := do
  let value := localContext.quotient (localContext.value (parentNew * rowOld)) parentOld
  let rounded ← if mode = .usd ∧ 0 < value then
      (quantized localContext (roundHalfUp value)).map (max 1)
    else quantized localContext (roundDown value)
  require (0 < rounded) (.constraintViolation
    "New budget is too small to preserve every configured allocation")
  pure rounded

/-- The new row of a department or a user: in proportion to its parent. -/
def proportionalRow (previousMode mode : BudgetMode) (original updated : BudgetRow)
    (row : BudgetRow) : Except BudgetError BudgetRow := do
  require (row.budgetMode = previousMode)
    (.constraintViolation "Budget hierarchy must use one unit")
  match updated.limit mode, row.limit previousMode, original.limit previousMode with
  | some parentNew, some rowOld, some parentOld => do
      require (parentOld ≠ 0) .invalidOperation
      let value ← proportionalValue mode (limitDecimal mode parentNew)
        (limitDecimal previousMode rowOld) (limitDecimal previousMode parentOld)
      pure (row.withLimit mode (wholeLimit mode value))
  | _, _, _ => .error .typeError

/-- The new rows of the children of some rows, each of which is given with its new row. -/
def proportionalRows (previousMode mode : BudgetMode) (parents : List (BudgetRow × BudgetRow))
    (rows : List BudgetRow) : Except BudgetError (List (BudgetRow × BudgetRow)) :=
  rows.mapM fun row =>
    match parents.find? fun parent => some parent.1.scopeId = row.parentScopeId with
    | some (original, updated) => do
        let new ← proportionalRow previousMode mode original updated row
        pure (row, new)
    | none => .error .keyError

/-- The check of the USD allocations under one parent. -/
def checkAllocated (children : List (BudgetRow × BudgetRow)) (parent : BudgetRow) :
    Except BudgetError Unit :=
  let allocated := sumLimits localContext .usd
    ((children.filter fun child => child.1.parentScopeId = some parent.scopeId).filterMap
      (·.2.usdLimit))
  let shortfall := localContext.sub allocated (parent.usdLimit.getD 0)
  require (shortfall ≤ 0) (.roundedAllocations parent.scopeType shortfall)

/-- The check of all parents of some rows, in the order of the rows. -/
def checkAllocations (parents children : List (BudgetRow × BudgetRow)) : Except BudgetError Unit :=
  children.forM fun child =>
    match parents.find? fun parent => some parent.1.scopeId = child.1.parentScopeId with
    | some parent => checkAllocated children parent.2
    | none => .error .keyError

/-- `proportional_budget_tree`. -/
def proportionalBudgetTree (budgets : List BudgetRow) (organizationId : Text) (mode : BudgetMode)
    (amount warningThresholdPercent : ℤ) : Except BudgetError (List BudgetRow) := do
  match budgets.find? fun row => row.scopeType = .organization ∧ row.scopeId = organizationId with
  | none => .error .stopIteration
  | some root => do
      require (root.budgetMode ≠ mode)
        (.constraintViolation "Organization budget unit changed before the switch")
      let departments := budgets.filter fun row =>
        row.scopeType = .department ∧ row.parentScopeId = some organizationId
      let people := budgets.filter fun row =>
        row.scopeType = .user ∧ ∃ d ∈ departments, row.parentScopeId = some d.scopeId
      let newRoot := root.withRootLimit mode amount warningThresholdPercent
      let newDepartments ← proportionalRows root.budgetMode mode [(root, newRoot)] departments
      let newPeople ← proportionalRows root.budgetMode mode newDepartments people
      checkIf (mode = .usd) (do
        checkAllocations [(root, newRoot)] newDepartments
        checkAllocations newDepartments newPeople)
      pure (newRoot :: (newDepartments.map (·.2) ++ newPeople.map (·.2)))

end Turnstile
