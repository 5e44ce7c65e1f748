import Turnstile.Domain.Ledger

/-!
# Dispatches

A dispatch binds the one or two reservations of a request, of a person and of an
application, to a durable plan.  The first receipt's scope holds the plan's row.
-/

namespace Turnstile

open Guard

inductive DispatchState where
  | preparing
  | dispatching
  | cancelled
deriving DecidableEq, Repr

/-- The fields of a dispatch; a list of one or two receipts is its first and what
follows it. -/
structure DispatchFields where
  owner : UUID
  callerRequestId : String := ""
  first : LedgerAdmissionReceipt
  second : Option LedgerAdmissionReceipt
  state : DispatchState := .preparing
  recoveryComplete : Bool := false
  /-- The JSON object, by its text. -/
  countingBasis : String := "\x7b\x7d"
  expiresAt : Int
  updatedAt : Int
deriving DecidableEq

namespace DispatchFields

def receipts (d : DispatchFields) : List LedgerAdmissionReceipt := d.first :: d.second.toList

/-- The loop of `validate_dispatch`. -/
def checkReceipts (first : LedgerAttemptIdentity) :
    List LedgerScopeType → List LedgerAdmissionReceipt → Except LedgerError Unit
  | _, [] => .ok ()
  | scopes, receipt :: rest => do
      let identity := receipt.identity
      require (identity.attemptKey = first.attemptKey ∧ identity.modelId = first.modelId ∧
          identity.admittedAt = first.admittedAt ∧ identity.scope.scopeType ∉ scopes)
        (.invalidModel "A dispatch must bind one attempt and distinct budget scope types")
      checkReceipts first (identity.scope.scopeType :: scopes) rest

/-- `LedgerDispatch`: the field bounds and `validate_dispatch`. -/
def validate (d : DispatchFields) : Except LedgerError Unit := do
  require (d.callerRequestId.length ≤ 255) (.tooLarge "caller_request_id")
  let first := d.first.identity
  require (d.second ≠ none → first.scope.scopeType = .person)
    (.invalidModel "Dual-scope dispatch uses the person partition as its coordinator")
  checkReceipts first [] d.receipts
  require (first.admittedAt < d.expiresAt ∧ d.expiresAt ≤ first.admittedAt + 60000000)
    (.invalidModel "Dispatch preparation requires a bounded admission lease")
  require (first.admittedAt ≤ d.updatedAt) (.invalidModel "Dispatch cannot precede admission")

end DispatchFields

structure LedgerDispatch extends DispatchFields where
  valid : toDispatchFields.validate = .ok ()

namespace LedgerDispatch

theorem fields_injective {a b : LedgerDispatch} (h : a.toDispatchFields = b.toDispatchFields) :
    a = b := by
  cases a
  cases b
  cases h
  rfl

instance : DecidableEq LedgerDispatch := fun a b =>
  decidable_of_iff (a.toDispatchFields = b.toDispatchFields)
    ⟨fields_injective, fun h => h ▸ rfl⟩

/-- `LedgerDispatch.model_validate`. -/
def modelValidate (d : DispatchFields) : Except LedgerError LedgerDispatch :=
  match h : d.validate with
  | .ok () => .ok ⟨d, h⟩
  | .error e => .error e

theorem modelValidate_eq_ok {fields : DispatchFields} {d : LedgerDispatch} :
    modelValidate fields = .ok d ↔ d.toDispatchFields = fields := by
  unfold modelValidate
  split
  next h =>
    constructor
    · intro he
      cases he
      rfl
    · rintro rfl
      rfl
  next e h =>
    constructor
    · intro he
      cases he
    · rintro rfl
      rw [d.valid] at h
      cases h

/-- `scope`. -/
def scope (d : LedgerDispatch) : LedgerScope := d.first.identity.scope

/-- The attempt key of every receipt. -/
def attemptKey (d : LedgerDispatch) : AttemptKey := d.first.identity.attemptKey

end LedgerDispatch

end Turnstile
