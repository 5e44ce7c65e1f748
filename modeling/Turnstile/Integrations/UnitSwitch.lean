import Turnstile.Integrations.Policy
import Turnstile.Ledger.Balance

/-!
# Unit switches and live reservations

`write_policy` switches the unit of a scope when the counters of the summary say
that nothing is reserved.  It does not look at the attempts.  In runs whose
reservations are all positive and whose sums lose no digits, a counter of zero
means that no attempt is live (`LiveInUnit`), and no live reservation survives a
switch (`no_live_reservation_survives_switch`).  A reservation of zero dollars does
(`live_reservation_survives_switch`).
-/

namespace Turnstile

open Guard

/-- No reservation is held in these states. -/
def AttemptState.terminal : AttemptState → Bool
  | .settled | .cancelled | .released => true
  | _ => false

theorem AttemptState.terminal_eq_false_iff {s : AttemptState} :
    s.terminal = false ↔ s.active = true ∨ s = .upperBound := by
  cases s <;> simp [AttemptState.terminal]

/-- The counters of what is reserved. -/
def Counter.Reserved (c : Counter) : Prop := c ≠ .confirmed

theorem AttemptFields.share_terminal {a : AttemptFields} {m : BudgetMode} {c : Counter}
    (hc : c.Reserved) (h : a.state.terminal = true) : a.share m c = 0 := by
  cases c with
  | confirmed => exact absurd rfl hc
  | active =>
      have hactive : a.state.active = false := by
        cases hstate : a.state <;> rw [hstate] at h <;> first | rfl | cases h
      simp [AttemptFields.share, hactive]
  | upper =>
      have hne : a.state ≠ .upperBound := by
        intro hstate
        rw [hstate] at h
        cases h
      simp [AttemptFields.share, hne]

/-- A live attempt has its reservation in one of the two counters. -/
theorem AttemptFields.share_live {a : AttemptFields} {m : BudgetMode}
    (h : a.state.terminal = false) : ∃ c : Counter, c.Reserved ∧ a.share m c = a.held m := by
  rcases AttemptState.terminal_eq_false_iff.1 h with hactive | hupper
  · exact ⟨.active, Counter.noConfusion, by simp [AttemptFields.share, hactive]⟩
  · exact ⟨.upper, Counter.noConfusion, by simp [AttemptFields.share, hupper]⟩

theorem SummaryFields.Unreserved.balance {s : SummaryFields} (h : s.Unreserved) (m : BudgetMode)
    {c : Counter} (hc : c.Reserved) : s.balance m c = 0 := by
  obtain ⟨h₁, h₂, h₃, h₄⟩ := h
  cases c with
  | confirmed => exact absurd rfl hc
  | active => cases m <;> assumption
  | upper => cases m <;> assumption

/-! ## Writes and live attempts -/

section Writes

variable {summary summary' : LedgerSummary} {attempt attempt' : LedgerAttempt} {now : Int}
  {op : LedgerOp}

/-- The reservation is what it was, and a terminal attempt was not revived. -/
structure KeepsHeld (a a' : AttemptFields) : Prop where
  mode : a'.budgetMode = a.budgetMode
  held : ∀ m, a'.held m = a.held m
  live : a'.state.terminal = false → a.state.terminal = false

theorem KeepsHeld.refl (a : AttemptFields) : KeepsHeld a a := ⟨rfl, fun _ => rfl, id⟩

theorem ResolveResult.keepsHeld (h : ResolveResult summary attempt now summary' attempt') :
    KeepsHeld attempt.toAttemptFields attempt'.toAttemptFields := by
  cases h with
  | kept => exact .refl _
  | released _ _ _ _ _ ha =>
      rw [ha]
      refine ⟨rfl, fun m => by cases m <;> rfl, fun h => by cases h⟩

/-- Every write of a stored attempt keeps its reservation. -/
theorem LedgerWrite.keepsHeld (h : LedgerWrite summary now op (some attempt) summary' attempt') :
    KeepsHeld attempt.toAttemptFields attempt'.toAttemptFields := by
  cases h with
  | transition _ hresult =>
      cases hresult with
      | kept => exact .refl _
      | moved hstate _ _ ha =>
          have hactive := TransitionState.active_of_allowed hstate
          rw [ha]
          exact ⟨rfl, fun m => by cases m <;> rfl,
            fun _ => AttemptState.terminal_eq_false_iff.2 (.inl hactive)⟩
  | settle hresult =>
      cases hresult with
      | resolved _ _ hresolve => exact (resolveLedger_result hresolve).2.keepsHeld
      | late => exact .refl _
      | answered => exact .refl _
      | charged _ _ _ _ _ ha =>
          rw [ha]
          exact ⟨rfl, fun m => by cases m <;> rfl, fun h => by cases h⟩
  | resolve _ hresult => exact hresult.keepsHeld
  | complete hresult =>
      cases hresult with
      | kept => exact .refl _
      | charged _ _ _ _ _ _ _ ha =>
          rw [ha]
          exact ⟨rfl, fun m => by cases m <;> rfl, fun h => by cases h⟩

/-- A terminal attempt of the other unit is returned as it is. -/
theorem LedgerWrite.of_foreign (h : LedgerWrite summary now op (some attempt) summary' attempt')
    (hterminal : attempt.state.terminal = true) (hmode : attempt.budgetMode ≠ summary.budgetMode) :
    summary' = summary ∧ attempt' = attempt := by
  cases h with
  | transition _ hresult =>
      cases hresult with
      | kept => exact ⟨rfl, rfl⟩
      | moved hstate =>
          have hactive := TransitionState.active_of_allowed hstate
          rw [AttemptState.terminal_eq_false_iff.2 (.inl hactive)] at hterminal
          cases hterminal
  | settle hresult =>
      cases hresult with
      | resolved _ _ hresolve => exact absurd (resolveLedger_result hresolve).1.mode hmode
      | late => exact ⟨rfl, rfl⟩
      | answered => exact ⟨rfl, rfl⟩
      | charged _ hallowed => exact absurd hallowed.attemptMode hmode
  | resolve hsame => exact absurd hsame.mode hmode
  | complete hresult =>
      cases hresult with
      | kept => exact ⟨rfl, rfl⟩
      | charged _ _ _ _ hallowed => exact absurd hallowed.admitted.mode hmode

end Writes

/-! ## Runs with unit switches -/

/-- The operation does not go around `write_policy`. -/
def LedgerOp.OnAttempt (op : LedgerOp) : Prop := op.key? ≠ none

/-- The scopes that operations on attempts, policies and quiescing lead to. -/
inductive Evolves (allowed : Ledger → LedgerOp → Prop) (l₀ : Ledger) : Ledger → Prop where
  | refl : Evolves allowed l₀ l₀
  | operation {l l' : Ledger} (op : LedgerOp) (now : Int) : Evolves allowed l₀ l →
      op.OnAttempt → allowed l op → l.apply op now = .ok l' → Evolves allowed l₀ l'
  | policy {l : Ledger} (update : LedgerPolicyUpdate) (openingBalance : Option ℚ) (now : Int)
      (summary' : LedgerSummary) : Evolves allowed l₀ l →
      writePolicy l.summary update openingBalance now = .ok summary' →
      Evolves allowed l₀ ⟨summary', l.attempts⟩
  | quiesce {l : Ledger} (scope : LedgerScope) (epoch : UUID) (revision : Int) (enabled : Bool)
      (now : Int) (summary' : LedgerSummary) : Evolves allowed l₀ l →
      quiesceBudgetScope l.summary scope epoch revision enabled now = .ok summary' →
      Evolves allowed l₀ ⟨summary', l.attempts⟩

namespace Ledger

/-- A USD reservation is positive, and a USD counter of what is reserved loses no
digits. -/
def HoldsExactly (l : Ledger) (op : LedgerOp) : Prop :=
  l.summary.budgetMode = .usd →
    (∀ identity tokens projection assurance,
      op ≠ .reserve identity tokens (some 0) projection assurance) ∧
    ∀ key c, op.key? = some key → c.Reserved →
      ExactSum l.summary.toSummaryFields (l.attempts.lookup key) c op

/-- Every live attempt is in the summary's unit, reserves something of it, and is
counted. -/
structure LiveInUnit (l : Ledger) : Prop where
  mode : ∀ key a, l.attempts.lookup key = some a → a.state.terminal = false →
    a.budgetMode = l.summary.budgetMode
  held : ∀ key a, l.attempts.lookup key = some a → a.state.terminal = false →
    0 < a.held l.summary.budgetMode
  balances : ∀ c, c.Reserved → l.summary.balance l.summary.budgetMode c
    = Store.total (fun a : LedgerAttempt => a.share l.summary.budgetMode c) l.attempts

variable {l₀ l l' : Ledger} {op : LedgerOp} {now : Int}

/-- A scope without attempts and without counters has no live attempt to count. -/
theorem LiveInUnit.opening (hempty : l.attempts = ∅) (hzero : l.summary.Unreserved) :
    l.LiveInUnit := by
  refine ⟨?_, ?_, fun c hc => ?_⟩
  · intro key a ha
    rw [hempty] at ha
    cases ha
  · intro key a ha
    rw [hempty] at ha
    cases ha
  · rw [hempty, Store.total_empty]
    exact hzero.balance _ hc

/-- A new live attempt reserves something, in the summary's unit. -/
theorem held_pos_of_reserve {summary summary' : LedgerSummary} {identity : LedgerAttemptIdentity}
    {reservedTokens : Int} {reservedUsd : Option ℚ} {projection : Option BudgetPriceProjection}
    {attempt' : LedgerAttempt}
    (h : ReserveResult summary identity reservedTokens now reservedUsd projection summary' attempt')
    (hpos : summary.budgetMode = .usd → reservedUsd ≠ some 0) :
    0 < attempt'.held summary.budgetMode := by
  cases h with
  | tokens hmode _ _ _ _ ha =>
      have hone := attempt'.isValid.reservedTokens.1
      rw [hmode]
      simp only [AttemptFields.held]
      omega
  | usd amount units _ hmode hamount _ hunits hnonneg _ _ _ ha =>
      have hne : amount ≠ 0 := by
        rintro rfl
        exact hpos hmode hamount
      have hunit := usdOfDecimal?_pos hunits (lt_of_le_of_ne hnonneg hne.symm)
      rw [hmode, ha]
      exact hunit

/-- What a write leaves is live only in the summary's unit, with something held. -/
theorem LiveInUnit.written {key : AttemptKey} {summary' : LedgerSummary}
    {attempt' : LedgerAttempt} (h : l.LiveInUnit) (hexact : l.HoldsExactly op)
    (hwrite : LedgerWrite l.summary now op (l.attempts.lookup key) summary' attempt')
    (hlive : attempt'.state.terminal = false) :
    attempt'.budgetMode = l.summary.budgetMode ∧ 0 < attempt'.held l.summary.budgetMode := by
  cases hlookup : l.attempts.lookup key with
  | none =>
      rw [hlookup] at hwrite
      cases hwrite with
      | reserve _ hresult =>
          refine ⟨hresult.mode, held_pos_of_reserve hresult fun hmode hzero => ?_⟩
          exact (hexact hmode).1 _ _ _ _ (by rw [hzero])
      | tombstone _ _ ha =>
          rw [ha] at hlive
          cases hlive
  | some a =>
      rw [hlookup] at hwrite
      have hkeeps := hwrite.keepsHeld
      have halive := hkeeps.live hlive
      refine ⟨hkeeps.mode.trans (h.mode key a hlookup halive), ?_⟩
      rw [hkeeps.held]
      exact h.held key a hlookup halive

/-- A write moves the counters of what is reserved. -/
theorem LiveInUnit.moves {key : AttemptKey} {summary' : LedgerSummary} {attempt' : LedgerAttempt}
    {c : Counter} (h : l.LiveInUnit) (hexact : l.HoldsExactly op) (hkey : op.key? = some key)
    (hwrite : LedgerWrite l.summary now op (l.attempts.lookup key) summary' attempt')
    (hc : c.Reserved) :
    Moves l.summary.budgetMode c l.summary.toSummaryFields summary'.toSummaryFields
      (l.attempts.lookup key) attempt' := by
  have hsum := fun hmode => (hexact hmode).2 key c hkey hc
  cases hlookup : l.attempts.lookup key with
  | none =>
      rw [hlookup] at hwrite hsum
      exact hwrite.moves rfl (fun _ ha => by cases ha) hsum
  | some a =>
      rw [hlookup] at hwrite hsum
      by_cases hmode : a.budgetMode = l.summary.budgetMode
      · refine hwrite.moves rfl (fun a' ha' => ?_) hsum
        cases ha'
        exact .inl hmode
      · -- An attempt of the other unit is terminal, and is left alone.
        have hterminal : a.state.terminal = true := by
          by_contra hne
          exact hmode (h.mode key a hlookup (Bool.eq_false_iff.2 hne))
        obtain ⟨rfl, rfl⟩ := hwrite.of_foreign hterminal hmode
        exact Moves.refl _ _

theorem apply_budgetMode (hop : op.OnAttempt) (happly : l.apply op now = .ok l') :
    l'.summary.budgetMode = l.summary.budgetMode := by
  rcases apply_cases happly with ⟨_, _, _, -, hwrite, rfl⟩ | ⟨_, _, _, _, _, _, _, _, rfl, -, -⟩
  · exact hwrite.keepsTerms.budgetMode
  · exact absurd rfl hop

/-- An operation on an attempt keeps live attempts in the unit, and counted. -/
theorem LiveInUnit.operation (h : l.LiveInUnit) (hop : op.OnAttempt) (hexact : l.HoldsExactly op)
    (happly : l.apply op now = .ok l') : l'.LiveInUnit := by
  have hmode := apply_budgetMode hop happly
  rcases apply_cases happly with
    ⟨key, summary', attempt', hkey, hwrite, rfl⟩ | ⟨_, _, _, _, _, _, _, _, rfl, -, -⟩
  · simp only at hmode
    have hwritten := h.written hexact hwrite
    refine ⟨fun k a ha hlive => ?_, fun k a ha hlive => ?_, fun c hc => ?_⟩
    · simp only [hmode]
      by_cases hk : k = key
      · subst hk
        rw [AList.lookup_insert] at ha
        cases ha
        exact (hwritten hlive).1
      · rw [AList.lookup_insert_ne hk] at ha
        exact h.mode k a ha hlive
    · simp only [hmode]
      by_cases hk : k = key
      · subst hk
        rw [AList.lookup_insert] at ha
        cases ha
        exact (hwritten hlive).2
      · rw [AList.lookup_insert_ne hk] at ha
        exact h.held k a ha hlive
    · have hbalance := h.balances c hc
      have hmove := h.moves hexact hkey hwrite hc
      have htotal := Store.total_insert
        (fun a : LedgerAttempt => a.share l.summary.budgetMode c) key attempt' l.attempts
      simp only [hmode]
      simp only [Moves] at hmove htotal
      omega
  · exact absurd rfl hop

/-- A summary with the same unit and the same counters. -/
theorem LiveInUnit.summary (h : l.LiveInUnit) {summary' : LedgerSummary}
    (hmode : summary'.budgetMode = l.summary.budgetMode)
    (hbalance : ∀ m c, summary'.balance m c = l.summary.balance m c) :
    LiveInUnit ⟨summary', l.attempts⟩ := by
  refine ⟨?_, ?_, ?_⟩
  · simp only [hmode]
    exact h.mode
  · simp only [hmode]
    exact h.held
  · simp only [hmode, hbalance]
    exact h.balances

/-- When nothing is counted, every attempt is terminal. -/
theorem LiveInUnit.terminal (h : l.LiveInUnit) (hzero : l.summary.Unreserved) {key : AttemptKey}
    {a : LedgerAttempt} (hlookup : l.attempts.lookup key = some a) :
    a.state.terminal = true := by
  by_contra hne
  have hlive : a.state.terminal = false := Bool.eq_false_iff.2 hne
  obtain ⟨c, hc, hshare⟩ := a.share_live (m := l.summary.budgetMode) hlive
  have hheld := h.held key a hlookup hlive
  have htotal := (h.balances c hc).symm.trans (hzero.balance _ hc)
  have hshare' := Store.eq_zero_of_total
    (fun b : LedgerAttempt => b.share_nonneg l.summary.budgetMode c) htotal hlookup
  rw [hshare] at hshare'
  omega

/-- Without live attempts nothing is reserved in either unit. -/
theorem LiveInUnit.of_terminal (hzero : l.summary.Unreserved)
    (hterminal : ∀ key a, l.attempts.lookup key = some a → a.state.terminal = true) :
    l.LiveInUnit := by
  refine ⟨fun key a ha hlive => ?_, fun key a ha hlive => ?_, fun c hc => ?_⟩
  · rw [hterminal key a ha] at hlive
    cases hlive
  · rw [hterminal key a ha] at hlive
    cases hlive
  · rw [hzero.balance _ hc]
    refine (Store.total_eq_zero fun key a ha => ?_).symm
    exact AttemptFields.share_terminal hc (hterminal key a ha)

theorem LiveInUnit.policy (h : l.LiveInUnit) {update : LedgerPolicyUpdate}
    {openingBalance : Option ℚ} {summary' : LedgerSummary}
    (hwrite : writePolicy l.summary update openingBalance now = .ok summary') :
    LiveInUnit ⟨summary', l.attempts⟩ := by
  cases writePolicy_result hwrite with
  | kept => exact h
  | updated _ hs =>
      refine h.summary (by rw [hs]) fun m c => ?_
      rw [hs]
      cases m <;> cases c <;> rfl
  | switched _ _ _ _ _ hzero hs =>
      refine .of_terminal ?_ fun key a ha => h.terminal hzero ha
      simp only
      rw [hs]
      exact hzero

/-- Attempts are coherent with any summary of their scope and epoch. -/
theorem AllCoherent.summary (h : l.AllCoherent) {summary' : LedgerSummary}
    (hepoch : summary'.epoch = l.summary.epoch) (hscope : summary'.scope = l.summary.scope) :
    AllCoherent ⟨summary', l.attempts⟩ := by
  intro key a ha
  have hcoherent := h key a ha
  exact ⟨hcoherent.epoch.trans hepoch.symm, hcoherent.scope.trans hscope.symm,
    hcoherent.unevidenced⟩

/-- Every run from a scope without attempts stores coherent attempts, whatever its
policies. -/
theorem AllCoherent.evolves {allowed : Ledger → LedgerOp → Prop} (hempty : l₀.attempts = ∅)
    (hrun : Evolves allowed l₀ l) : l.AllCoherent := by
  induction hrun with
  | refl => exact .reaches hempty (.refl : Reaches (fun _ _ => True) _ _)
  | operation op now _ _ _ happly ih => exact ih.step happly
  | policy _ _ _ _ _ hwrite ih =>
      cases writePolicy_result hwrite with
      | kept => exact ih
      | updated _ hs => exact ih.summary (by rw [hs]) (by rw [hs])
      | switched _ _ _ _ _ _ hs => exact ih.summary (by rw [hs]) (by rw [hs])
  | quiesce _ _ _ _ _ summary' _ hquiesce ih =>
      rcases quiesceBudgetScope_result hquiesce with rfl | hs
      · exact ih
      · exact ih.summary (by rw [hs]) (by rw [hs])

theorem LiveInUnit.evolves (hrun : Evolves HoldsExactly l₀ l) (h₀ : l₀.LiveInUnit) :
    l.LiveInUnit := by
  induction hrun with
  | refl => exact h₀
  | operation op now _ hop hexact happly ih => exact ih.operation hop hexact happly
  | policy _ _ _ _ _ hwrite ih => exact ih.policy hwrite
  | quiesce _ _ _ _ _ summary' _ hquiesce ih =>
      rcases quiesceBudgetScope_result hquiesce with rfl | hs
      · exact ih
      · refine ih.summary (by rw [hs]) fun m c => ?_
        rw [hs]
        cases m <;> cases c <;> rfl

/-- No live reservation survives a unit switch, in a run whose USD reservations are
positive and whose USD counters of what is reserved lose no digits.  When
`write_policy` changes the unit, every stored attempt is terminal; so an attempt of
the other unit is terminal in every state. -/
theorem no_live_reservation_survives_switch (hempty : l₀.attempts = ∅)
    (hzero : l₀.summary.Unreserved) (hrun : Evolves HoldsExactly l₀ l) :
    (∀ update openingBalance now summary',
      writePolicy l.summary update openingBalance now = .ok summary' →
      summary'.budgetMode ≠ l.summary.budgetMode →
      ∀ key a, l.attempts.lookup key = some a → a.state.terminal = true) ∧
    ∀ key a, l.attempts.lookup key = some a → a.budgetMode ≠ l.summary.budgetMode →
      a.state.terminal = true := by
  have h := LiveInUnit.evolves hrun (.opening hempty hzero)
  refine ⟨fun update openingBalance now summary' hwrite hswitch key a ha => ?_,
    fun key a ha hmode => ?_⟩
  · cases writePolicy_result hwrite with
    | kept => exact absurd rfl hswitch
    | updated _ hs => exact absurd (by rw [hs]) hswitch
    | switched _ _ _ _ _ hunreserved => exact h.terminal hunreserved ha
  · by_contra hne
    exact hmode (h.mode key a ha (Bool.eq_false_iff.2 hne))

end Ledger

namespace Sample

/-- A token policy, for a scope that is kept in USD. -/
def tokenPolicy : LedgerPolicyUpdate where
  scope := scope
  epoch := 5
  revision := 2
  tokenLimit := 500
  budgetMode := .tokens
  usdLimit := none
  enforce := true
  enabled := true

/-- A USD policy, for a scope that is kept in tokens. -/
def usdPolicy : LedgerPolicyUpdate :=
  { tokenPolicy with tokenLimit := 0, budgetMode := .usd, usdLimit := some (10 ^ 15) }

/-- Steps on attempts, then a quiesced switch to tokens. -/
theorem switches (summary : LedgerSummary) (policy : LedgerPolicyUpdate)
    (steps : List (LedgerOp × Int)) (terminal : Bool)
    (h : Ledger.runsTo ⟨summary, ∅⟩ steps (fun l =>
      match quiesceBudgetScope l.summary scope 5 2 false start with
      | .error _ => false
      | .ok quiesced =>
          match writePolicy quiesced policy (some 0) start,
            l.attempts.lookup (identity 1).attemptKey with
          | .ok written, some a => decide (written.budgetMode ≠ quiesced.budgetMode) &&
              a.state.terminal == terminal
          | _, _ => false) = true) :
    ∃ l quiesced written a, Ledger.run ⟨summary, ∅⟩ steps = .ok l ∧
      quiesceBudgetScope l.summary scope 5 2 false start = .ok quiesced ∧
      writePolicy quiesced policy (some 0) start = .ok written ∧
      written.budgetMode ≠ quiesced.budgetMode ∧
      l.attempts.lookup (identity 1).attemptKey = some a ∧ a.state.terminal = terminal := by
  obtain ⟨l, hrun, htest⟩ := Ledger.of_runsTo h
  split at htest
  next => cases htest
  next quiesced hquiesce =>
    split at htest
    next written a hwrite hlookup =>
      obtain ⟨hmode, hlive⟩ := Bool.and_eq_true_iff.1 htest
      exact ⟨l, quiesced, written, a, hrun, hquiesce, hwrite, of_decide_eq_true hmode, hlookup,
        eq_of_beq hlive⟩
    next => cases htest

end Sample

namespace Ledger

/-- Cancelling the attempt that holds all that is reserved is exact. -/
theorem cancelled_holdsExactly {key : AttemptKey}
    (h : (l.attempts.lookup key).map (fun a => a.held .usd)
      = some l.summary.activeReservedUsd) :
    HoldsExactly l (.transition key .cancelled) := by
  refine fun _ => ⟨fun _ _ _ _ hop => ?_, fun key' c hkey hc => ?_⟩
  · cases hop
  · obtain rfl : key = key' := Option.some.inj hkey
    cases c with
    | confirmed => exact absurd rfl hc
    | active =>
        intro a ha _ _
        rw [ha] at h
        have hheld : a.held .usd = l.summary.activeReservedUsd := Option.some.inj h
        rw [hheld, sub_self]
        decide +kernel
    | upper =>
        rintro a _ _ htarget
        cases htarget

/-- A USD scope switches to tokens after its reservation of a dollar was cancelled. -/
theorem no_live_reservation_survives_switch_sample :
    ∃ attempts quiesced written a,
      Evolves HoldsExactly ⟨Sample.usdSummary, ∅⟩ ⟨quiesced, attempts⟩ ∧
      writePolicy quiesced Sample.tokenPolicy (some 0) Sample.start = .ok written ∧
      written.budgetMode ≠ quiesced.budgetMode ∧
      attempts.lookup (Sample.identity 1).attemptKey = some a ∧ a.state.terminal = true := by
  obtain ⟨l, quiesced, written, a, hrun, hquiesce, hwrite, hswitch, hlookup, -⟩ :=
    Sample.switches Sample.usdSummary Sample.tokenPolicy
      [(Sample.reserveUsd 1 1, Sample.start),
        (.transition (Sample.identity 1).attemptKey .cancelled, Sample.start)] true
      (by decide +kernel)
  obtain ⟨l₁, hreserve, hrun⟩ := bind_eq_ok.1 hrun
  obtain ⟨l₂, hcancel, hlast⟩ := bind_eq_ok.1 hrun
  cases hlast
  have htest : runsTo ⟨Sample.usdSummary, ∅⟩ [(Sample.reserveUsd 1 1, Sample.start)] (fun l =>
      decide ((l.attempts.lookup (Sample.identity 1).attemptKey).map
        (fun a => a.held .usd) = some l.summary.activeReservedUsd)) = true := by decide +kernel
  obtain ⟨l₁', hfirst, hheld⟩ := of_runsTo htest
  obtain ⟨l₁'', hreserve', hlast⟩ := bind_eq_ok.1 hfirst
  cases hlast
  obtain rfl : l₁ = l₁' := Except.ok.inj (hreserve.symm.trans hreserve')
  have hreach : Evolves HoldsExactly ⟨Sample.usdSummary, ∅⟩ l₁ :=
    .operation _ _ .refl (fun h => by cases h)
      (fun _ => ⟨fun _ _ _ _ hop => (by cases hop), fun _ c _ _ => Sample.reserveUsd_exact _ c⟩)
      hreserve
  have hreach' : Evolves HoldsExactly ⟨Sample.usdSummary, ∅⟩ l :=
    .operation _ _ hreach (fun h => by cases h)
      (cancelled_holdsExactly (of_decide_eq_true hheld)) hcancel
  have hquiesced := Evolves.quiesce _ _ _ _ _ _ hreach' hquiesce
  exact ⟨_, quiesced, written, a, hquiesced, hwrite, hswitch, hlookup,
    (no_live_reservation_survives_switch rfl ⟨rfl, rfl, rfl, rfl⟩ hquiesced).1 _ _ _ _ hwrite
      hswitch _ a hlookup⟩

/-- A reservation of zero dollars is live when the scope switches to tokens. -/
theorem live_reservation_survives_switch :
    ¬ ∀ l₀ l update openingBalance now summary' key a, l₀.attempts = ∅ →
      l₀.summary.Unreserved → Evolves (fun _ op => op.OfRequest) l₀ l →
      writePolicy l.summary update openingBalance now = .ok summary' →
      summary'.budgetMode ≠ l.summary.budgetMode → l.attempts.lookup key = some a →
      a.state.terminal = true := by
  intro hall
  obtain ⟨l, quiesced, written, a, hrun, hquiesce, hwrite, hmode, hlookup, hlive⟩ :=
    Sample.switches Sample.usdSummary Sample.tokenPolicy [(Sample.reserveUsd 1 0, Sample.start)]
      false (by decide +kernel)
  obtain ⟨l₁, happly, hlast⟩ := bind_eq_ok.1 hrun
  cases hlast
  have hreach : Evolves (fun _ op => op.OfRequest) ⟨Sample.usdSummary, ∅⟩ l :=
    .operation (Sample.reserveUsd 1 0) Sample.start .refl (fun h => by cases h) trivial happly
  have hterminal := hall _ _ _ _ _ _ _ _ rfl ⟨rfl, rfl, rfl, rfl⟩
    (.quiesce _ _ _ _ _ _ hreach hquiesce) hwrite hmode hlookup
  rw [hlive] at hterminal
  cases hterminal

end Ledger

end Turnstile
