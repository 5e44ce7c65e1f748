import Mathlib.Algebra.Order.Floor.Ring
import Mathlib.Algebra.Order.BigOperators.Group.List
import Mathlib.Data.Int.Log
import Mathlib.Data.List.Induction
import Mathlib.Data.Rat.Floor
import Mathlib.Tactic.Linarith
import Turnstile.Foundation.Rounding

/-!
# Sums and quotients in a context

A sum that is rounded after every addition is exact as long as it stays in the precision,
and once it has left it, it never comes back (`sumTo_le`).  So a rounded sum that does not
exceed a number within the precision is exact.

A quotient is rounded to the precision and then to a whole number.  Rounding to `p` digits
moves it by less than its distance to any whole number above, when the denominator is small
enough: then the whole number below is still below the exact quotient
(`floor_quotientTo_le`).
-/

namespace Rounding

/-! ## Sums -/

/-- A power of ten is not crossed downwards. -/
theorem pow_le_roundTo {p m : ℕ} {x : ℤ} (hp : 0 < p) (h : 10 ^ m ≤ x) : 10 ^ m ≤ roundTo p x := by
  obtain ⟨n, rfl⟩ := Int.eq_ofNat_of_zero_le (le_trans (by positivity) h)
  have hn : 10 ^ m ≤ n := by exact_mod_cast h
  have hpos : 0 < n := lt_of_lt_of_le (Nat.pow_pos (by decide)) hn
  have hlog : m ≤ Nat.log 10 n := Nat.le_log_of_pow_le (by decide) hn
  have hunit : excess p n ≤ Nat.log 10 n := by
    unfold excess
    omega
  have hdvd : 10 ^ excess p n ∣ 10 ^ Nat.log 10 n := Nat.pow_dvd_pow 10 hunit
  have hquot : 10 ^ Nat.log 10 n / 10 ^ excess p n ≤ divHalfEven n (10 ^ excess p n) := by
    have hle : 10 ^ Nat.log 10 n / 10 ^ excess p n ≤ n / 10 ^ excess p n :=
      Nat.div_le_div_right (Nat.pow_log_le_self 10 hpos.ne')
    unfold divHalfEven
    split_ifs <;> omega
  have hresult : 10 ^ m ≤ divHalfEven n (10 ^ excess p n) * 10 ^ excess p n :=
    calc 10 ^ m ≤ 10 ^ Nat.log 10 n := Nat.pow_le_pow_right (by decide) hlog
      _ = 10 ^ Nat.log 10 n / 10 ^ excess p n * 10 ^ excess p n := (Nat.div_mul_cancel hdvd).symm
      _ ≤ _ := Nat.mul_le_mul_right _ hquot
  have hsign : (n : ℤ).sign = 1 := Int.sign_eq_one_of_pos (by exact_mod_cast hpos)
  rw [roundTo, Int.natAbs_natCast, hsign, one_mul]
  exact_mod_cast hresult

/-- A multiple of `10 ^ e` within the precision is not changed. -/
theorem roundTo_of_dvd {p e : ℕ} {x : ℤ} (hx : 0 ≤ x) (hsmall : x < 10 ^ (p + e))
    (hdvd : 10 ^ e ∣ x) : roundTo p x = x := by
  obtain ⟨y, rfl⟩ := hdvd
  have hten : (0 : ℤ) < 10 ^ e := by positivity
  have hnonneg : 0 ≤ y := nonneg_of_mul_nonneg_right hx hten
  have hlt : y < 10 ^ p := by
    rw [pow_add, mul_comm] at hsmall
    exact lt_of_mul_lt_mul_right hsmall hten.le
  rw [mul_comm]
  refine roundTo_of_fits (fits_mul_pow ?_ e)
  have habs : (y.natAbs : ℤ) = y := Int.natAbs_of_nonneg hnonneg
  exact_mod_cast habs ▸ hlt

/-- A multiple of `10 ^ e` that is rounded to at most a small enough number is at most it. -/
theorem le_of_roundTo_le {p e : ℕ} (hp : 0 < p) {x bound : ℤ} (hx : 0 ≤ x) (hdvd : 10 ^ e ∣ x)
    (hbound : bound < 10 ^ (p + e)) (h : roundTo p x ≤ bound) : x ≤ bound := by
  by_cases hsmall : x < 10 ^ (p + e)
  · rwa [roundTo_of_dvd hx hsmall hdvd] at h
  · have hlarge := pow_le_roundTo hp (not_lt.1 hsmall)
    omega

/-- The sum of a list, rounded after every addition. -/
def sumTo (p : ℕ) (l : List ℤ) : ℤ := l.foldl (fun sum x => roundTo p (sum + x)) 0

theorem pow_le_foldl_roundTo {p m : ℕ} (hp : 0 < p) {l : List ℤ} (hl : ∀ x ∈ l, 0 ≤ x) {start : ℤ}
    (h : 10 ^ m ≤ start) : 10 ^ m ≤ l.foldl (fun sum x => roundTo p (sum + x)) start := by
  induction l generalizing start with
  | nil => exact h
  | cons x l ih =>
      refine ih (fun y hy => hl y (List.mem_cons_of_mem x hy)) (pow_le_roundTo hp ?_)
      have hx := hl x List.mem_cons_self
      omega

/-- A rounded sum of multiples of `10 ^ e` that does not exceed a small enough number is
the exact sum. -/
theorem foldl_roundTo_eq {p e : ℕ} (hp : 0 < p) {bound : ℤ} (hbound : bound < 10 ^ (p + e))
    {l : List ℤ} (hl : ∀ x ∈ l, 0 ≤ x ∧ 10 ^ e ∣ x) {start : ℤ} (hstart : 0 ≤ start)
    (hdvd : 10 ^ e ∣ start)
    (h : l.foldl (fun sum x => roundTo p (sum + x)) start ≤ bound) :
    l.foldl (fun sum x => roundTo p (sum + x)) start = start + l.sum := by
  induction l generalizing start with
  | nil => simp
  | cons x l ih =>
      obtain ⟨hx, hxdvd⟩ := hl x List.mem_cons_self
      have hrest : ∀ y ∈ l, 0 ≤ y ∧ 10 ^ e ∣ y := fun y hy => hl y (List.mem_cons_of_mem x hy)
      rw [List.foldl_cons] at h ⊢
      have hsmall : start + x < 10 ^ (p + e) := by
        by_contra hlarge
        have hle := pow_le_foldl_roundTo (m := p + e) hp (fun y hy => (hrest y hy).1)
          (pow_le_roundTo hp (not_lt.1 hlarge))
        omega
      have hsumdvd : 10 ^ e ∣ start + x := dvd_add hdvd hxdvd
      have hexact : roundTo p (start + x) = start + x := roundTo_of_dvd (by omega) hsmall hsumdvd
      rw [hexact] at h ⊢
      rw [ih hrest (by omega) hsumdvd h, List.sum_cons, add_assoc]

/-- A rounded sum that does not exceed a small enough number is exact. -/
theorem sumTo_le {p e : ℕ} (hp : 0 < p) {bound : ℤ} (hbound : bound < 10 ^ (p + e)) {l : List ℤ}
    (hl : ∀ x ∈ l, 0 ≤ x ∧ 10 ^ e ∣ x) (h : sumTo p l ≤ bound) : sumTo p l = l.sum := by
  have heq := foldl_roundTo_eq hp hbound hl le_rfl (dvd_zero _) h
  rwa [zero_add] at heq

/-- A sum of multiples of `10 ^ e` that stays small enough is not rounded. -/
theorem foldl_roundTo_of_sum_le {p e : ℕ} {bound : ℤ} (hbound : bound < 10 ^ (p + e)) {l : List ℤ}
    (hl : ∀ x ∈ l, 0 ≤ x ∧ 10 ^ e ∣ x) {start : ℤ} (hstart : 0 ≤ start) (hdvd : 10 ^ e ∣ start)
    (h : start + l.sum ≤ bound) :
    l.foldl (fun sum x => roundTo p (sum + x)) start = start + l.sum := by
  induction l generalizing start with
  | nil => simp
  | cons x l ih =>
      obtain ⟨hx, hxdvd⟩ := hl x List.mem_cons_self
      have hrest : ∀ y ∈ l, 0 ≤ y ∧ 10 ^ e ∣ y := fun y hy => hl y (List.mem_cons_of_mem x hy)
      have hpos : 0 ≤ l.sum := List.sum_nonneg fun y hy => (hrest y hy).1
      rw [List.sum_cons, ← add_assoc] at h ⊢
      have hsumdvd : 10 ^ e ∣ start + x := dvd_add hdvd hxdvd
      have hexact : roundTo p (start + x) = start + x :=
        roundTo_of_dvd (by omega) (by omega) hsumdvd
      rw [List.foldl_cons, hexact]
      exact ih hrest (by omega) hsumdvd h

theorem sumTo_of_sum_le {p e : ℕ} {bound : ℤ} (hbound : bound < 10 ^ (p + e)) {l : List ℤ}
    (hl : ∀ x ∈ l, 0 ≤ x ∧ 10 ^ e ∣ x) (h : l.sum ≤ bound) : sumTo p l = l.sum := by
  have heq := foldl_roundTo_of_sum_le hbound hl le_rfl (dvd_zero _) (by rwa [zero_add])
  rwa [zero_add] at heq

theorem sumTo_nonneg {p e : ℕ} {l : List ℤ} (hl : ∀ x ∈ l, 0 ≤ x ∧ 10 ^ e ∣ x) :
    0 ≤ sumTo p l ∧ 10 ^ e ∣ sumTo p l := by
  unfold sumTo
  induction l using List.reverseRecOn with
  | nil => exact ⟨le_rfl, dvd_zero _⟩
  | append_singleton l x ih =>
      obtain ⟨hx, hxdvd⟩ := hl x (List.mem_append_right l List.mem_cons_self)
      obtain ⟨hsum, hsumdvd⟩ := ih fun y hy => hl y (List.mem_append_left _ hy)
      rw [List.foldl_append, List.foldl_cons, List.foldl_nil]
      exact ⟨roundTo_nonneg (add_nonneg hsum hx), dvd_roundTo (dvd_add hsumdvd hxdvd)⟩

/-! ## Quotients -/

/-- The nearest whole number, and on a tie the even one. -/
def nearest (x : ℚ) : ℤ :=
  if Int.fract x < 1 / 2 then ⌊x⌋
  else if 1 / 2 < Int.fract x then ⌊x⌋ + 1
  else if ⌊x⌋ % 2 = 0 then ⌊x⌋ else ⌊x⌋ + 1

/-- A positive number rounded half-even to `p` significant digits. -/
def quotientTo (p : ℕ) (x : ℚ) : ℚ :=
  nearest (x / 10 ^ (Int.log 10 x + 1 - p)) * 10 ^ (Int.log 10 x + 1 - p)

theorem nearest_le (x : ℚ) : (nearest x : ℚ) ≤ x + 1 / 2 := by
  have hfloor := Int.floor_add_fract x
  have hfract := Int.fract_nonneg x
  unfold nearest
  split_ifs with h h' h'' <;> push_cast <;> linarith

/-- Rounding moves a number by at most half a unit in its last place. -/
theorem quotientTo_le {p : ℕ} {x : ℚ} (hx : 0 < x) :
    quotientTo p x ≤ x + x * 10 ^ (1 - p : ℤ) / 2 := by
  have hlog : (10 : ℚ) ^ Int.log 10 x ≤ x := by
    exact_mod_cast Int.zpow_log_le_self (b := 10) (by decide) hx
  have hunit : (0 : ℚ) < 10 ^ (Int.log 10 x + 1 - p) := zpow_pos (by norm_num) _
  have hle : (10 : ℚ) ^ (Int.log 10 x + 1 - p) ≤ x * 10 ^ (1 - p : ℤ) := by
    rw [add_sub_assoc, zpow_add₀ (by norm_num)]
    exact mul_le_mul_of_nonneg_right hlog (zpow_nonneg (by norm_num) _)
  calc quotientTo p x
      ≤ (x / 10 ^ (Int.log 10 x + 1 - p) + 1 / 2) * 10 ^ (Int.log 10 x + 1 - p) :=
        mul_le_mul_of_nonneg_right (nearest_le _) hunit.le
    _ = x + 10 ^ (Int.log 10 x + 1 - p) / 2 := by
        field_simp
    _ ≤ _ := by linarith

/-- The whole number below a rounded quotient is below the exact one, if the denominator is
small enough. -/
theorem floor_quotientTo_le {p : ℕ} {x : ℚ} {n d : ℤ} (hx : 0 < x) (hd : 0 < d) (hfrac : x = n / d)
    (hsmall : x * d < 10 ^ (p - 1 : ℤ)) : (⌊quotientTo p x⌋ : ℚ) ≤ x := by
  by_contra hlt
  have hd' : (0 : ℚ) < d := by exact_mod_cast hd
  -- The distance to a whole number above is at least one part of the denominator.
  have hgap : 1 ≤ (⌊quotientTo p x⌋ - x) * d := by
    have hint : (⌊quotientTo p x⌋ - x) * d = ((⌊quotientTo p x⌋ * d - n : ℤ) : ℚ) := by
      rw [hfrac]
      push_cast
      field_simp
    have hpos : (0 : ℚ) < (⌊quotientTo p x⌋ - x) * d := mul_pos (by linarith [not_le.1 hlt]) hd'
    rw [hint] at hpos ⊢
    exact_mod_cast hpos
  have hle : (⌊quotientTo p x⌋ : ℚ) - x ≤ x * 10 ^ (1 - p : ℤ) / 2 := by
    have hfloor := Int.floor_le (quotientTo p x)
    have hround := quotientTo_le (p := p) hx
    linarith
  have hunit : (10 : ℚ) ^ (1 - p : ℤ) * 10 ^ (p - 1 : ℤ) = 1 := by
    rw [← zpow_add₀ (by norm_num)]
    simp
  have hpow : (0 : ℚ) < 10 ^ (1 - p : ℤ) := zpow_pos (by norm_num) _
  have hprod : x * 10 ^ (1 - p : ℤ) * d < 1 := by
    have h := mul_lt_mul_of_pos_left hsmall hpow
    rw [hunit] at h
    linarith
  have hfinal : (⌊quotientTo p x⌋ - x) * d ≤ x * 10 ^ (1 - p : ℤ) / 2 * d :=
    mul_le_mul_of_nonneg_right hle hd'.le
  linarith

end Rounding
