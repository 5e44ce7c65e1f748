import Mathlib.Tactic.Positivity
import Mathlib.Algebra.Order.Field.Rat
import Turnstile.Foundation.Guard
import Turnstile.Foundation.Rounding

/-!
# Scalars of the ledger protocol

The values that the ledger's documents are made of, decoded from their JSON
text.  An aware timestamp is the instant it denotes, in microseconds.  A USD
amount is a count of `10⁻¹⁴` dollars, the last place of `NUMERIC(30,14)`.  A
SHA-256 digest is identified with the content it was computed from.

Decimal arithmetic is done in a context.  The default context of Python has 28
significant digits; some functions set 50 locally.  A number of at most 30
digits is exact in the second and not always in the first.
-/

namespace Turnstile

open Guard

/-! ## Time -/

/-- A calendar date. -/
structure Date where
  year : Int
  month : Int
  day : Int
deriving DecidableEq, Repr

/-- The first day of the UTC month an instant falls in. -/
def monthStart (t : Int) : Date :=
  -- Days since 0000-03-01, cut into eras of 400 years.
  let days := t / 86400000000 + 719468
  let era := days / 146097
  let dayOfEra := days % 146097
  let yearOfEra := (dayOfEra - dayOfEra / 1460 + dayOfEra / 36524 - dayOfEra / 146096) / 365
  let dayOfYear := dayOfEra - (365 * yearOfEra + yearOfEra / 4 - yearOfEra / 100)
  let shifted := (5 * dayOfYear + 2) / 153
  let month := if shifted < 10 then shifted + 3 else shifted - 9
  ⟨yearOfEra + era * 400 + (if month ≤ 2 then 1 else 0), month, 1⟩

-- 2026-09-22T00:00:00Z falls in September 2026.
example : monthStart 1790035200000000 = ⟨2026, 9, 1⟩ := by decide

/-! ## Texts, identifiers and digests -/

abbrev UUID := Nat

/-- A string, as far as the protocol looks into it: one that `UUID(...)` accepts
is known by the identifier and by how it is spelled (`0` is the spelling
`str(UUID(...))` gives), any other by its characters. -/
inductive Text where
  | uuid (id : UUID) (spelling : Nat)
  | plain (text : String)
deriving DecidableEq, Repr

namespace Text

/-- `UUID(text)`. -/
def toUuid? : Text → Option UUID
  | .uuid id _ => some id
  | .plain _ => none

/-- `str(id)`. -/
def ofUuid (id : UUID) : Text := .uuid id 0

/-- `text.strip()` is not empty and the length is at most `limit`. -/
def fits (limit : Nat) : Text → Bool
  | .uuid _ _ => true
  | .plain text => text.toList.any (fun c => !c.isWhitespace) && decide (text.length ≤ limit)

end Text

/-- A hex digest, identified with the canonical content it was computed from. -/
structure Sha256 (α : Type) where
  of : α
deriving DecidableEq, Repr

/-- Sixty-four lower-case hex digits, as the number they write. -/
abbrev Hex64 := Nat

/-- A JSON object that should have the protocol's shape.  `malformed` is one
that lacks a key, has a foreign key, or holds a value of another type or format
at some key. -/
inductive Decoded (α : Type) where
  | malformed
  | record (value : α)
deriving DecidableEq, Repr

/-! ## Errors -/

inductive DenialCode where
  | budgetConsumerDisabled
  | budgetCountBoundUnavailable
  | budgetExhausted
  | budgetTemporarilyReserved
  | budgetRequestBoundExceedsBalance
deriving DecidableEq, Repr

/-- What a ledger function raises. -/
inductive LedgerError where
  /-- `ValueError(message)`. -/
  | valueError (message : String)
  /-- `KeyError(key)`. -/
  | keyError (key : String)
  /-- `ValueError` of `exact_integer`, with the value it refused. -/
  | notExactInteger (field : String) (value : Int)
  /-- `decimal.InvalidOperation`. -/
  | invalidOperation
  /-- A model field is below its `ge` bound. -/
  | tooSmall (field : String)
  /-- A model field is above its `le` bound or has too many digits. -/
  | tooLarge (field : String)
  /-- A model validator raised. -/
  | invalidModel (message : String)
  /-- `LedgerProtocolConflict(message)`. -/
  | protocolConflict (message : String)
  /-- `LedgerProtocolConflict(str(cause)) from cause`. -/
  | conflictFrom (cause : LedgerError)
  /-- `LedgerAdmissionDenied(code)`. -/
  | admissionDenied (code : DenialCode)
  /-- `LedgerUnavailable(message)`. -/
  | unavailable (message : String)
  /-- `httpx.TransportError`. -/
  | transport
deriving DecidableEq, Repr

/-- Whether the exception is a `ValueError`; pydantic's `ValidationError` and the
two ledger errors are. -/
def LedgerError.isValueError : LedgerError → Bool
  | .keyError _ | .invalidOperation | .unavailable _ | .transport => false
  | _ => true

/-! ## Token counts -/

/-- `MAX_TOKENS`, the largest signed 64-bit integer. -/
def maxTokens : Int := 2 ^ 63 - 1

/-- `exact_integer`. -/
def exactInteger (field : String) (value : Int) : Except LedgerError Unit :=
  require (0 ≤ value ∧ value ≤ maxTokens) (.notExactInteger field value)

@[simp] theorem exactInteger_eq_ok {field : String} {value : Int} {u : Unit} :
    exactInteger field value = .ok u ↔ 0 ≤ value ∧ value ≤ maxTokens := by
  simp [exactInteger]

/-! ## USD amounts -/

/-- A `decimal` context, by its precision. -/
structure DecimalContext where
  prec : Nat
deriving DecidableEq, Repr

/-- Python's default context. -/
def defaultContext : DecimalContext := ⟨28⟩

/-- The context of `with localcontext() as context: context.prec = 50`. -/
def localContext : DecimalContext := ⟨50⟩

namespace DecimalContext

def round (c : DecimalContext) (x : Int) : Int := Rounding.roundTo c.prec x

def add (c : DecimalContext) (x y : Int) : Int := c.round (x + y)

def sub (c : DecimalContext) (x y : Int) : Int := c.round (x - y)

def mul (c : DecimalContext) (x y : Int) : Int := c.round (x * y)

/-- The exact result has no more digits than the context keeps. -/
def Exact (c : DecimalContext) (x : Int) : Prop := Rounding.Fits c.prec x

instance (c : DecimalContext) (x : Int) : Decidable (c.Exact x) :=
  inferInstanceAs (Decidable (Rounding.Fits _ _))

@[simp] theorem round_eq_self {c : DecimalContext} {x : Int} : c.round x = x ↔ c.Exact x :=
  Rounding.roundTo_eq_self_iff

theorem Exact.round {c : DecimalContext} {x : Int} (h : c.Exact x) : c.round x = x :=
  round_eq_self.2 h

theorem Exact.add {c : DecimalContext} {x y : Int} (h : c.Exact (x + y)) : c.add x y = x + y :=
  h.round

theorem Exact.sub {c : DecimalContext} {x y : Int} (h : c.Exact (x - y)) : c.sub x y = x - y :=
  h.round

@[simp] theorem exact_zero (c : DecimalContext) : c.Exact 0 := Rounding.fits_zero _

/-- The result of an operation on decimal fractions, from its exact result. -/
def value (c : DecimalContext) (x : ℚ) : ℚ := Rounding.roundRat c.prec x

end DecimalContext

/-- One more than the largest amount of `NUMERIC(30,14)`, `10¹⁶` dollars. -/
def usdBound : Int := 10 ^ 30

/-- The range of a model field with `ge=0, max_digits=30, decimal_places=14`. -/
def UsdInRange (x : Int) : Prop := 0 ≤ x ∧ x < usdBound

instance (x : Int) : Decidable (UsdInRange x) := inferInstanceAs (Decidable (_ ∧ _))

/-- Fifty digits hold every sum of three amounts. -/
theorem localContext_exact {x : Int} (h : -(3 * usdBound) < x) (h' : x < 3 * usdBound) :
    localContext.Exact x := by
  refine Rounding.fits_of_lt (by decide) ?_
  simp only [usdBound] at h h'
  have hlt : (x.natAbs : Int) < 10 ^ 50 := by
    rw [Int.natCast_natAbs, abs_lt]
    constructor <;> omega
  exact_mod_cast hlt

/-- `exact_usd_amount`. -/
def exactUsdAmount (amount : Int) : Except LedgerError Unit :=
  require (UsdInRange amount) (.valueError "USD amount does not match NUMERIC(30,14)")

@[simp] theorem exactUsdAmount_eq_ok {amount : Int} {u : Unit} :
    exactUsdAmount amount = .ok u ↔ UsdInRange amount := by
  simp [exactUsdAmount]

/-- A decimal number with at most fourteen places, in units. -/
def usdOfDecimal? (amount : ℚ) : Option Int :=
  if (amount * 10 ^ 14).den = 1 then some (amount * 10 ^ 14).num else none

/-- The decimal number of an amount in units. -/
def usdDecimal (units : Int) : ℚ := units / 10 ^ 14

theorem usdDecimal_of {amount : ℚ} {units : Int} (h : usdOfDecimal? amount = some units) :
    usdDecimal units = amount := by
  unfold usdOfDecimal? at h
  split at h
  next hden =>
    cases h
    have hint : ((amount * 10 ^ 14).num : ℚ) = amount * 10 ^ 14 :=
      Rat.coe_int_num_of_den_eq_one hden
    rw [usdDecimal, hint, mul_div_assoc, div_self (by positivity), mul_one]
  next => cases h

theorem usdOfDecimal?_pos {amount : ℚ} {units : Int} (h : usdOfDecimal? amount = some units)
    (hpos : 0 < amount) : 0 < units := by
  unfold usdOfDecimal? at h
  split at h
  next =>
    cases h
    exact Rat.num_pos.2 (by positivity)
  next => cases h

/-- The unit a scope's budget is kept in. -/
inductive BudgetMode where
  | tokens
  | usd
deriving DecidableEq, Repr

end Turnstile
