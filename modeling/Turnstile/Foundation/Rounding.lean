import Mathlib.Algebra.IsPrimePow
import Mathlib.Algebra.Order.Field.Rat
import Mathlib.Data.Int.GCD
import Mathlib.Data.Nat.Log
import Mathlib.Data.Nat.Prime.Basic
import Mathlib.Data.Rat.Lemmas
import Mathlib.Tactic.FieldSimp
import Mathlib.Tactic.Ring

/-!
# Rounding to significant digits

Decimal arithmetic in a context of precision `p` computes the exact result and
rounds it to `p` significant digits, ties to even.  A number here is an integer
count of some fixed smallest unit, so a coefficient with trailing zeros and the
same number without them are one value: the digits that are dropped start at a
place that depends on the magnitude alone.

`Fits p x` says that `x` has at most `p` significant digits.  Rounding is the
identity exactly on these (`roundTo_eq_self_iff`), and every number below
`10 ^ p` is one of them (`fits_of_lt`).  A decimal fraction is rounded as the
integer it is at enough places (`roundRat`).
-/

namespace Rounding

/-- The number of low decimal places that do not fit in `p` significant digits. -/
def excess (p n : ℕ) : ℕ := Nat.log 10 n + 1 - p

/-- The quotient of `n` by `u`, rounded to the nearest and on a tie to even. -/
def divHalfEven (n u : ℕ) : ℕ :=
  if 2 * (n % u) < u then n / u
  else if u < 2 * (n % u) then n / u + 1
  else if n / u % 2 = 0 then n / u else n / u + 1

/-- `x` rounded half-even to `p` significant digits. -/
def roundTo (p : ℕ) (x : ℤ) : ℤ :=
  x.sign * (divHalfEven x.natAbs (10 ^ excess p x.natAbs) * 10 ^ excess p x.natAbs : ℕ)

/-- `x` has at most `p` significant digits. -/
def Fits (p : ℕ) (x : ℤ) : Prop := 10 ^ excess p x.natAbs ∣ x.natAbs

instance (p : ℕ) (x : ℤ) : Decidable (Fits p x) := inferInstanceAs (Decidable (_ ∣ _))

/-! ## Magnitudes within the precision -/

theorem excess_of_lt {p n : ℕ} (hp : 0 < p) (h : n < 10 ^ p) : excess p n = 0 := by
  have hlog : Nat.log 10 n < p := Nat.log_lt_of_lt_pow' hp.ne' h
  simp only [excess]
  omega

theorem fits_of_lt {p : ℕ} {x : ℤ} (hp : 0 < p) (h : x.natAbs < 10 ^ p) : Fits p x := by
  simp [Fits, excess_of_lt hp h]

@[simp] theorem fits_zero (p : ℕ) : Fits p 0 := by
  simp [Fits]

/-! ## Rounding and exactness -/

theorem divHalfEven_of_dvd {n u : ℕ} (hu : 0 < u) (h : u ∣ n) : divHalfEven n u = n / u := by
  have hmod : n % u = 0 := Nat.mod_eq_zero_of_dvd h
  simp [divHalfEven, hmod, hu]

theorem roundTo_of_fits {p : ℕ} {x : ℤ} (h : Fits p x) : roundTo p x = x := by
  have hu : 0 < 10 ^ excess p x.natAbs := Nat.pow_pos (by decide)
  rw [roundTo, divHalfEven_of_dvd hu h, Nat.div_mul_cancel h]
  exact Int.sign_mul_natAbs x

theorem fits_of_roundTo {p : ℕ} {x : ℤ} (h : roundTo p x = x) : Fits p x := by
  have habs : (roundTo p x).natAbs
      = x.sign.natAbs *
          (divHalfEven x.natAbs (10 ^ excess p x.natAbs) * 10 ^ excess p x.natAbs) := by
    rw [roundTo, Int.natAbs_mul, Int.natAbs_natCast]
  rw [h] at habs
  refine ⟨x.sign.natAbs * divHalfEven x.natAbs (10 ^ excess p x.natAbs), ?_⟩
  calc x.natAbs = _ := habs
    _ = _ := by ring

/-- Rounding changes a number exactly when it has more than `p` significant
digits. -/
theorem roundTo_eq_self_iff {p : ℕ} {x : ℤ} : roundTo p x = x ↔ Fits p x :=
  ⟨fits_of_roundTo, roundTo_of_fits⟩

@[simp] theorem roundTo_zero (p : ℕ) : roundTo p 0 = 0 :=
  roundTo_of_fits (fits_zero p)

theorem roundTo_nonneg {p : ℕ} {x : ℤ} (h : 0 ≤ x) : 0 ≤ roundTo p x :=
  mul_nonneg (Int.sign_nonneg_iff.2 h) (Int.natCast_nonneg _)

/-- Zeros at the end stay. -/
theorem dvd_roundTo {p e : ℕ} {x : ℤ} (h : 10 ^ e ∣ x) : 10 ^ e ∣ roundTo p x := by
  rcases Nat.le_total e (excess p x.natAbs) with hle | hle
  · have hpow : 10 ^ e ∣ divHalfEven x.natAbs (10 ^ excess p x.natAbs) * 10 ^ excess p x.natAbs :=
      Dvd.dvd.mul_left (Nat.pow_dvd_pow 10 hle) _
    exact Dvd.dvd.mul_left (by exact_mod_cast hpow) _
  · have hfits : Fits p x := (Nat.pow_dvd_pow 10 hle).trans (by
      have hnat := Int.natAbs_dvd_natAbs.2 h
      rwa [Int.natAbs_pow] at hnat)
    rwa [roundTo_of_fits hfits]

-- The thirtieth digit of a sum is lost at twenty-eight, and a tie goes to even.
example : roundTo 28 (10 ^ 29 + 1) = 10 ^ 29 := by decide +kernel
example : roundTo 2 125 = 120 := by decide +kernel
example : roundTo 2 135 = 140 := by decide +kernel

/-! ## Decimal fractions -/

/-- Enough decimal places for `x`, if it is a decimal fraction. -/
def places (x : ℚ) : ℕ := Nat.log 2 x.den

/-- A decimal fraction rounded half-even to `p` significant digits. -/
def roundRat (p : ℕ) (x : ℚ) : ℚ := roundTo p (x * 10 ^ places x).num / 10 ^ places x

theorem dvd_ten_pow_log {d j : ℕ} (h : d ∣ 10 ^ j) : d ∣ 10 ^ Nat.log 2 d := by
  have hsplit : d ∣ 2 ^ j * 5 ^ j := by
    rw [← Nat.mul_pow]
    exact h
  obtain ⟨d₁, d₂, h₁, h₂, rfl⟩ := (Nat.dvd_mul).1 hsplit
  obtain ⟨a, -, rfl⟩ := (Nat.dvd_prime_pow Nat.prime_two).1 h₁
  obtain ⟨b, -, rfl⟩ := (Nat.dvd_prime_pow Nat.prime_five).1 h₂
  have hpos : 2 ^ a * 5 ^ b ≠ 0 := Nat.mul_ne_zero (by simp) (by simp)
  have ha : a ≤ Nat.log 2 (2 ^ a * 5 ^ b) :=
    Nat.le_log_of_pow_le (by decide) (Nat.le_mul_of_pos_right _ (Nat.pow_pos (by decide)))
  have hb : b ≤ Nat.log 2 (2 ^ a * 5 ^ b) := by
    refine Nat.le_log_of_pow_le (by decide) ?_
    calc 2 ^ b ≤ 5 ^ b := Nat.pow_le_pow_left (by decide) b
      _ ≤ 2 ^ a * 5 ^ b := Nat.le_mul_of_pos_left _ (Nat.pow_pos (by decide))
  have hten : 10 ^ Nat.log 2 (2 ^ a * 5 ^ b)
      = 2 ^ Nat.log 2 (2 ^ a * 5 ^ b) * 5 ^ Nat.log 2 (2 ^ a * 5 ^ b) := by
    rw [← Nat.mul_pow]
  rw [hten]
  exact Nat.mul_dvd_mul (Nat.pow_dvd_pow _ ha) (Nat.pow_dvd_pow _ hb)

theorem log_mul_pow {n : ℕ} (hn : n ≠ 0) (e : ℕ) : Nat.log 10 (n * 10 ^ e) = Nat.log 10 n + e := by
  induction e with
  | zero => simp
  | succ e ih =>
      have hne : n * 10 ^ e ≠ 0 := Nat.mul_ne_zero hn (by simp)
      rw [pow_succ, ← mul_assoc, Nat.log_mul_base (by decide) hne, ih, Nat.add_assoc]

/-- Zeros at the end are not significant. -/
theorem fits_mul_pow {p : ℕ} {x : ℤ} (h : x.natAbs < 10 ^ p) (e : ℕ) :
    Fits p (x * 10 ^ e) := by
  rcases Nat.eq_zero_or_pos x.natAbs with hzero | hpos
  · rw [Int.natAbs_eq_zero.1 hzero, zero_mul]
    exact fits_zero p
  · have habs : (x * 10 ^ e).natAbs = x.natAbs * 10 ^ e := by
      rw [Int.natAbs_mul, Int.natAbs_pow]
      rfl
    have hlog := log_mul_pow hpos.ne' e
    have hlt : Nat.log 10 x.natAbs < p := Nat.log_lt_of_lt_pow hpos.ne' h
    rw [Fits, habs]
    refine Dvd.dvd.mul_left (Nat.pow_dvd_pow _ ?_) _
    rw [excess, hlog]
    omega

theorem den_dvd_of_decimal {x : ℚ} {n : ℤ} {j : ℕ} (hx : x = n / 10 ^ j) : x.den ∣ 10 ^ j := by
  have hd := Rat.den_dvd n (10 ^ j)
  have hdiv : x = Rat.divInt n (10 ^ j) := by
    rw [hx, Rat.divInt_eq_div]
    push_cast
    rfl
  rw [hdiv]
  exact_mod_cast hd

/-- The places are enough. -/
theorem num_places {x : ℚ} {n : ℤ} {j : ℕ} (hx : x = n / 10 ^ j) :
    ((x * 10 ^ places x).num : ℚ) = x * 10 ^ places x := by
  refine Rat.coe_int_num_of_den_eq_one ?_
  obtain ⟨c, hc⟩ := dvd_ten_pow_log (den_dvd_of_decimal hx)
  have hint : x * 10 ^ places x = ((x.num * c : ℤ) : ℚ) := by
    have hden : (x.den : ℚ) ≠ 0 := by exact_mod_cast x.den_ne_zero
    have hten : (10 : ℚ) ^ places x = x.den * c := by
      rw [places]
      exact_mod_cast hc
    have hnum : x * x.den = x.num := Rat.mul_den_eq_num x
    rw [hten, ← mul_assoc, hnum]
    push_cast
    rfl
  rw [hint]
  exact Rat.den_intCast _

/-- A decimal fraction of at most `p` digits is not changed. -/
theorem roundRat_of_lt {p : ℕ} {x : ℚ} {n : ℤ} {j : ℕ} (hp : 0 < p) (h : n.natAbs < 10 ^ p)
    (hx : x = n / 10 ^ j) : roundRat p x = x := by
  have hnum := num_places hx
  have hfits : Fits p (x * 10 ^ places x).num := by
    have hscaled : (x * 10 ^ places x).num * 10 ^ j = n * 10 ^ places x := by
      have hcast :
          (((x * 10 ^ places x).num * 10 ^ j : ℤ) : ℚ) = ((n * 10 ^ places x : ℤ) : ℚ) := by
        push_cast
        rw [hnum, hx]
        field_simp
      exact_mod_cast hcast
    rcases Nat.le_total (places x) j with hle | hle
    · -- Fewer places: a smaller number.
      obtain ⟨d, rfl⟩ := Nat.exists_eq_add_of_le hle
      have hn : n = (x * 10 ^ places x).num * 10 ^ d := by
        refine mul_right_cancel₀ (pow_ne_zero (places x) (by decide : (10 : ℤ) ≠ 0)) ?_
        rw [← hscaled]
        ring
      refine fits_of_lt hp (lt_of_le_of_lt ?_ h)
      rw [hn, Int.natAbs_mul]
      refine Nat.le_mul_of_pos_right _ ?_
      rw [Int.natAbs_pow]
      exact Nat.pow_pos (by decide)
    · -- More places: zeros at the end.
      obtain ⟨d, hd⟩ := Nat.exists_eq_add_of_le hle
      have hn : (x * 10 ^ places x).num = n * 10 ^ d := by
        refine mul_right_cancel₀ (pow_ne_zero j (by decide : (10 : ℤ) ≠ 0)) ?_
        rw [hscaled, hd]
        ring
      rw [hn]
      exact fits_mul_pow h d
  rw [roundRat, roundTo_of_fits hfits, hnum]
  field_simp

-- A third place is rounded away, a trailing zero is not a digit.
example : roundRat 2 (125 / 1000) = 12 / 100 := by decide +kernel
example : roundRat 2 (15 / 100) = 15 / 100 := by decide +kernel

end Rounding
