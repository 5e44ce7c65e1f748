import Turnstile.Ledger.Conservation

/-!
# Conservation in USD

Reservations, transitions and settlements of a USD scope add and subtract in the
default context, which keeps 28 digits of amounts that may have 30.  A run whose
sums fit conserves exactly and never admits more than remains
(`usd_conservation_of_exact`).  A run that rounds loses amounts
(`usd_conservation_fails`).
-/

namespace Turnstile

open Guard

namespace Ledger

/-- An operation on a USD scope whose sums in the default context are exact. -/
def ExactUsd (l : Ledger) (op : LedgerOp) : Prop :=
  op.Keeps .usd ∧ ∀ key, op.key? = some key →
    ExactStep l.summary.toSummaryFields (l.attempts.lookup key) op

/-- What the three counters of a USD scope should be, from an opening balance. -/
def UsdExactly (confirmed : Int) (l : Ledger) : Prop :=
  l.summary.activeReservedUsd = Store.total (fun a : LedgerAttempt =>
      if a.state = .reserved ∨ a.state = .dispatching ∨ a.state = .uncertain
        then a.reservedUsd.getD 0 else 0) l.attempts ∧
    l.summary.upperBoundUsd = Store.total (fun a : LedgerAttempt =>
      if a.state = .upperBound then a.reservedUsd.getD 0 else 0) l.attempts ∧
    l.summary.confirmedUsd = confirmed + Store.total (fun a : LedgerAttempt =>
      if a.state = .settled then a.actualUsd.getD 0 else 0) l.attempts

instance (confirmed : Int) (l : Ledger) : Decidable (l.UsdExactly confirmed) :=
  inferInstanceAs (Decidable (_ ∧ _ ∧ _))

/-- What remains of a USD budget, exactly. -/
def remainingUsd (l : Ledger) : Int :=
  l.summary.usdLimit.getD 0 - l.summary.confirmedUsd - l.summary.activeReservedUsd
    - l.summary.upperBoundUsd

/-- An enforcing reservation that returns is within what remains. -/
def AdmitsWithin (l : Ledger) : LedgerOp → Prop
  | .reserve identity reservedTokens reservedUsd priceSnapshot countAssurance =>
      ∀ now l', l.summary.enforce = true →
        l.apply (.reserve identity reservedTokens reservedUsd priceSnapshot countAssurance) now
          = .ok l' →
        ∃ units, reservedUsd.bind usdOfDecimal? = some units ∧ units ≤ l.remainingUsd
  | _ => True

/-- The exact results of `available_usd` are what remains. -/
theorem availableUsd_of_exact {l : Ledger} (hmode : l.summary.budgetMode = .usd)
    (hexact : ExactAvailable l.summary.toSummaryFields) :
    l.summary.availableUsd = some l.remainingUsd := by
  obtain ⟨limit, hlimit⟩ := l.summary.usdLimit_of_mode hmode
  obtain ⟨h₁, h₂, h₃⟩ := hexact limit hlimit
  simp only [SummaryFields.availableUsd, hmode, hlimit, remainingUsd, Option.getD_some]
  rw [h₁.sub, h₂.sub, h₃.sub]

/-- USD conservation.  In every run whose steps' sums have at most 28 digits where
the default context computes them, the three counters are exactly what the stored
attempts say, and an enforcing reservation is within the exact remaining balance. -/
theorem usd_conservation_of_exact {l₀ l : Ledger} (hmode : l₀.summary.budgetMode = .usd)
    (hactive : l₀.summary.activeReservedUsd = 0) (hupper : l₀.summary.upperBoundUsd = 0)
    (hempty : l₀.attempts = ∅) (hrun : Reaches ExactUsd l₀ l) :
    l.UsdExactly l₀.summary.confirmedUsd ∧ ∀ op, l.ExactUsd op → l.AdmitsWithin op := by
  have h := (Conserves.opening hmode hempty).reaches
    (fun _ _ hop => ⟨hop.1, fun _ => hop.2⟩) hrun
  have hlive : (fun a : LedgerAttempt => a.share .usd .active) = fun a =>
      if a.state = .reserved ∨ a.state = .dispatching ∨ a.state = .uncertain
        then a.reservedUsd.getD 0 else 0 := by
    funext a
    cases hstate : a.state <;> simp [AttemptFields.share, AttemptFields.held, hstate]
  refine ⟨⟨?_, ?_, ?_⟩, ?_⟩
  · have hbalance := h.balances .active
    simp only [SummaryFields.balance, hactive, hlive, zero_add] at hbalance
    exact hbalance
  · have hbalance := h.balances .upper
    simp only [SummaryFields.balance, hupper, zero_add] at hbalance
    exact hbalance
  · exact h.balances .confirmed
  · intro op hop
    cases op with
    | reserve identity reservedTokens reservedUsd priceSnapshot countAssurance =>
        intro now l' henforce happly
        obtain ⟨-, _, _, hx, -⟩ := onAbsent_eq_ok.1 happly
        obtain ⟨-, hresult⟩ := reserveLedger_result hx
        have havailable := availableUsd_of_exact h.mode ((hop.2 _ rfl).1 henforce)
        cases hresult with
        | tokens htokens =>
            have husd := h.mode
            rw [htokens] at husd
            cases husd
        | usd amount units projection _ hamount _ hunits _ _ hfit =>
            refine ⟨units, by rw [hamount]; exact hunits, ?_⟩
            have hle := hfit henforce
            rwa [havailable] at hle
    | _ => trivial

/-- A reservation of one dollar of ten is exact. -/
theorem usd_conservation_of_exact_sample :
    ∃ l, run ⟨Sample.usdSummary, ∅⟩ [(Sample.reserveUsd 1 1, Sample.start)] = .ok l ∧
      l.summary.activeReservedUsd = 10 ^ 14 ∧ l.UsdExactly 0 := by
  have htest : runsTo ⟨Sample.usdSummary, ∅⟩ [(Sample.reserveUsd 1 1, Sample.start)]
      (fun l => decide (l.summary.activeReservedUsd = 10 ^ 14)) = true := by decide +kernel
  obtain ⟨l, hrun, hactive⟩ := of_runsTo htest
  refine ⟨l, hrun, of_decide_eq_true hactive, ?_⟩
  obtain ⟨l₁, happly, hlast⟩ := bind_eq_ok.1 hrun
  cases hlast
  have hexact : ExactUsd ⟨Sample.usdSummary, ∅⟩ (Sample.reserveUsd 1 1) := by
    refine ⟨trivial, fun key _ => ⟨fun _ limit hlimit => ?_, Sample.reserveUsd_exact _⟩⟩
    obtain rfl : (10 ^ 15 : Int) = limit := Option.some.inj hlimit
    decide +kernel
  exact (usd_conservation_of_exact rfl rfl rfl rfl (.step _ _ .refl hexact happly)).1

/-- `10¹⁵` dollars are reserved of a budget with 60 units of the last place more.
Ten units reserved then are lost from the counter; and 100 would be admitted. -/
theorem usd_conservation_fails :
    (¬ ∀ l₀ l, l₀.summary.budgetMode = .usd → l₀.summary.activeReservedUsd = 0 →
        l₀.summary.upperBoundUsd = 0 → l₀.attempts = ∅ →
        Reaches (fun _ op => op.OfRequest) l₀ l → l.UsdExactly l₀.summary.confirmedUsd) ∧
      ¬ ∀ l₀ l, l₀.summary.budgetMode = .usd → l₀.summary.activeReservedUsd = 0 →
        l₀.summary.upperBoundUsd = 0 → l₀.attempts = ∅ →
        Reaches (fun _ op => op.OfRequest) l₀ l → ∀ op, op.OfRequest → l.AdmitsWithin op := by
  constructor
  · intro hall
    have htest : runsTo ⟨Sample.wideUsdSummary, ∅⟩
        [(Sample.reserveUsd 1 (10 ^ 15), Sample.start),
          (Sample.reserveUsd 2 (1 / 10 ^ 13), Sample.start)]
        (fun l => decide (¬ l.UsdExactly 0)) = true := by decide +kernel
    obtain ⟨l, hrun, hne⟩ := of_runsTo htest
    refine of_decide_eq_true hne (hall ⟨Sample.wideUsdSummary, ∅⟩ l rfl rfl rfl rfl ?_)
    refine reaches_of_run .refl (fun _ step hstep => ?_) hrun
    simp only [List.mem_cons, List.not_mem_nil, or_false] at hstep
    rcases hstep with rfl | rfl <;> trivial
  · intro hall
    have htest : runsTo ⟨Sample.wideUsdSummary, ∅⟩
        [(Sample.reserveUsd 1 (10 ^ 15), Sample.start)]
        (fun l => decide (l.summary.enforce = true ∧ l.remainingUsd = 60) &&
          l.runsTo [(Sample.reserveUsd 2 (1 / 10 ^ 12), Sample.start)] fun _ => true)
        = true := by decide +kernel
    obtain ⟨l, hrun, hnext⟩ := of_runsTo htest
    obtain ⟨hstate, hnext⟩ := Bool.and_eq_true_iff.1 hnext
    obtain ⟨henforce, hremaining⟩ := of_decide_eq_true hstate
    obtain ⟨l', hrun', -⟩ := of_runsTo hnext
    obtain ⟨l₁, happly, -⟩ := bind_eq_ok.1 hrun'
    have hreach : Reaches (fun _ op => op.OfRequest) ⟨Sample.wideUsdSummary, ∅⟩ l := by
      refine reaches_of_run .refl (fun _ step hstep => ?_) hrun
      obtain rfl := List.mem_singleton.1 hstep
      trivial
    obtain ⟨units, hunits, hle⟩ := hall ⟨Sample.wideUsdSummary, ∅⟩ l rfl rfl rfl rfl hreach
      (Sample.reserveUsd 2 (1 / 10 ^ 12)) trivial _ _ henforce happly
    have hamount : usdOfDecimal? (1 / 10 ^ 12) = some 100 := by decide +kernel
    rw [Option.bind_some, hamount] at hunits
    cases hunits
    omega

end Ledger

end Turnstile
