import Mathlib.Algebra.BigOperators.Finprod
import Mathlib.Algebra.Order.BigOperators.Group.Finset
import Turnstile.Persistence.EvidenceOrder
import Turnstile.Persistence.BillableBudget

/-!
# Charges by month

Without a policy for strict evidence, `budget_scope_confirmed_tokens` charges a month the
final usage records of the month, and the recoveries of the month whose correlation has no
such record.  `monthCharge` is what one correlation is charged in one month.

A request is charged once when its charge stays in one month, its home (`ChargedAtHome`):
this is just when the months of a scope add up to one amount for every correlation, and no
month depends on the order of arrival (`charged_once_iff`).
-/

namespace Turnstile

open Guard

namespace EvidenceStore

variable (store : EvidenceStore) (now : Int) (scope : EvidenceScope)

/-- `budget_scope_confirmed_tokens` of the budget repository. -/
def scopeConfirmedTokens (period : Date) : Except EvidenceError Int := do
  let canonical ← store.canonicalTokens now scope period
  let strongest ← store.strongestFinalizations now scope period canonical
  let choices ← store.strictBudgetChoices now scope
  pure (Store.total id canonical + Store.total (·.totalTokens) strongest +
    Store.total (monthTokens period) choices)

/-! ## What a correlation is charged -/

/-- The usage records of a scope. -/
def scopeRecords : List TokenUsageRecord :=
  store.usageRecords.filter fun record =>
    record.usageDomain = .apim ∧ store.confirmedScopeMatches scope record = true

/-- The final usage records of a scope. -/
def finalRecords : List TokenUsageRecord :=
  (store.scopeRecords scope).filter fun record => Countable record

/-- The final usage record of a correlation. -/
def finalRecord? (c : Text) : Option TokenUsageRecord :=
  (store.finalRecords scope).find? fun record => record.correlationId = c

/-- The finalizations of a scope that are more than an upper bound. -/
def recoveries : List BudgetReservationFinalization :=
  store.budgetReservationFinalizations.filter fun item =>
    item.scope = scope ∧ item.finalizationKind ≠ .unverifiedUpperBound

/-- The key of a finalization: the stronger, the less. -/
def weakness (item : BudgetReservationFinalization) : ℕᵒᵈ :=
  OrderDual.toDual (strength item.finalizationKind)

/-- The strongest finalization of a correlation. -/
def strongest? (c : Text) : Option BudgetReservationFinalization :=
  ((store.recoveries scope).filter fun item => item.correlationId = c).argmin weakness

/-- The recovered tokens of a correlation in a month. -/
def recoveredIn (c : Text) (period : Date) : Int :=
  (((store.recoveries scope).filter fun item =>
    item.correlationId = c ∧ item.periodStart = period).argmin weakness).elim 0 fun item =>
      item.totalTokens

/-- The amount of a correlation: the tokens of its final record, or else the total of its
strongest finalization. -/
def requestCharge (c : Text) : Int :=
  match store.finalRecord? scope c with
  | some record => record.totalTokens
  | none => (store.strongest? scope c).elim 0 fun item => item.totalTokens

/-- What a correlation is charged in a month. -/
def monthCharge (period : Date) (c : Text) : Int :=
  match store.finalRecord? scope c with
  | some record =>
      if monthStart record.ts = period then record.totalTokens
      else store.recoveredIn scope c period
  | none => store.recoveredIn scope c period

/-- The month that a correlation belongs to: that of its final record, or else that of its
strongest finalization. -/
def home? (c : Text) : Option Date :=
  match store.finalRecord? scope c with
  | some record => some (monthStart record.ts)
  | none => (store.strongest? scope c).map fun item => item.periodStart

/-- The correlations of a scope. -/
def correlations : List Text :=
  ((store.scopeRecords scope).map (·.correlationId) ++
    (store.budgetReservationFinalizations.filter fun item => item.scope = scope).map
      (·.correlationId)).dedup

/-! ## Without a policy -/

variable {store now scope}

section NoPolicy

variable (hpolicy : store.evidencePolicyEffectiveAt = none)

include hpolicy

theorem strict_eq_false (admittedAt : Int) : store.strict now admittedAt = false := by
  unfold strict
  rw [hpolicy]
  rfl

/-- At most one attempt has an identity, and nothing else binds one. -/
theorem budgetBoundAttempt_returns (now : Int) (scope : EvidenceScope) (c : Text) :
    ∃ bound, store.budgetBoundAttempt now scope c = .ok bound := by
  have hone : ∀ a ∈ store.billableRequests, ∀ b ∈ store.billableRequests,
      store.BoundTo now scope c a → store.BoundTo now scope c b → a = b := by
    intro a ha b hb hbound hbound'
    have hid : ∀ x : BillableRequestAttempt, store.BoundTo now scope c x →
        Text.ofUuid x.id = c := by
      rintro x ⟨-, hx | ⟨-, hx⟩⟩
      · exact hx
      · rw [strict_eq_false hpolicy] at hx
        cases hx
    have hsame : Text.ofUuid a.id = Text.ofUuid b.id := (hid a hbound).trans (hid b hbound').symm
    exact List.inj_on_of_nodup_map store.attempts_nodup ha hb (Text.uuid.inj hsame).1
  unfold budgetBoundAttempt
  cases hfilter : store.billableRequests.filter fun a => store.BoundTo now scope c a with
  | nil => exact ⟨none, rfl⟩
  | cons a rest =>
      cases rest with
      | nil => exact ⟨some a, rfl⟩
      | cons b tail =>
          have hmem : ∀ x ∈ a :: b :: tail, x ∈ store.billableRequests ∧
              store.BoundTo now scope c x := by
            intro x hx
            rw [← hfilter] at hx
            obtain ⟨hx, hbound⟩ := List.mem_filter.1 hx
            exact ⟨hx, of_decide_eq_true hbound⟩
          have ha := hmem a List.mem_cons_self
          have hb := hmem b (List.mem_cons_of_mem a List.mem_cons_self)
          cases hone a ha.1 b hb.1 ha.2 hb.2
          have hnodup := (store.attempts_nodup.of_map).filter fun a =>
            decide (store.BoundTo now scope c a)
          rw [hfilter, List.nodup_cons] at hnodup
          exact absurd List.mem_cons_self hnodup.1

theorem budgetAdmittedAt_returns (now : Int) (scope : EvidenceScope) (c : Text) (fallback : Int) :
    ∃ admitted, store.budgetAdmittedAt now scope c fallback = .ok admitted := by
  obtain ⟨bound, hbound⟩ := budgetBoundAttempt_returns hpolicy now scope c
  unfold budgetAdmittedAt
  rw [hbound]
  cases bound with
  | some attempt => exact ⟨_, rfl⟩
  | none =>
      rw [ok_bind]
      dsimp only
      split
      · exact ⟨_, rfl⟩
      · split <;> exact ⟨_, rfl⟩

theorem budgetRecordIdentity_returns (now : Int) (scope : EvidenceScope)
    (record : TokenUsageRecord) :
    ∃ identity, store.budgetRecordIdentity now record scope = .ok identity := by
  obtain ⟨admitted, hadmitted⟩ := budgetAdmittedAt_returns hpolicy now scope
    record.correlationId record.ts
  unfold budgetRecordIdentity
  split
  · exact ⟨_, rfl⟩
  · rw [hadmitted]
    exact ⟨_, rfl⟩

theorem strictBudgetRecord_eq (record : TokenUsageRecord) :
    store.strictBudgetRecord now scope record = .ok false := by
  obtain ⟨identity, hidentity⟩ := budgetRecordIdentity_returns hpolicy now scope record
  unfold strictBudgetRecord
  rw [hidentity]
  change Except.ok (store.strict now identity.2) = _
  rw [strict_eq_false hpolicy]

theorem accepted?_returns (piece : Piece) :
    ∃ item, store.accepted? now scope piece = .ok item := by
  cases piece with
  | attempt attempt =>
      simp only [accepted?]
      split <;> exact ⟨_, rfl⟩
  | finalization item =>
      obtain ⟨bound, hbound⟩ := budgetBoundAttempt_returns hpolicy now scope
        item.correlationId
      obtain ⟨admitted, hadmitted⟩ := budgetAdmittedAt_returns hpolicy now scope
        item.correlationId item.reservationCreatedAt
      simp only [accepted?]
      split
      · rw [hbound, hadmitted]
        exact ⟨_, rfl⟩
      · exact ⟨_, rfl⟩
  | usage record =>
      obtain ⟨identity, hidentity⟩ := budgetRecordIdentity_returns hpolicy now scope record
      simp only [accepted?]
      split
      · split
        · exact ⟨_, rfl⟩
        · rw [hidentity]
          exact ⟨_, rfl⟩
      · exact ⟨_, rfl⟩

/-- Without a policy no evidence is strict. -/
theorem strictBudgetChoices_eq : store.strictBudgetChoices now scope = .ok ∅ := by
  refine foldChecked_eq_ok.2 ⟨fun piece _ => accepted?_returns hpolicy piece, ?_⟩
  have hkept : ∀ l : List Accepted, l.foldl (store.accept now) ∅ = ∅ := by
    intro l
    induction l with
    | nil => rfl
    | cons item rest ih =>
        rw [List.foldl_cons, accept, if_pos (strict_eq_false hpolicy _)]
        exact ih
  exact (hkept _).symm

/-- The final records of a month, the last one of a correlation. -/
theorem canonicalTokens_eq (period : Date) :
    store.canonicalTokens now scope period = .ok (((store.finalRecords scope).filter fun record =>
      monthStart record.ts = period).foldl
        (fun canonical record => canonical.insert record.correlationId record.totalTokens) ∅) := by
  have hcounted : ∀ record, store.countedRecord? now scope period record =
      .ok (if record.usageDomain = .apim ∧ monthStart record.ts = period ∧
        store.confirmedScopeMatches scope record = true ∧ Countable record then some record
        else none) := by
    intro record
    unfold countedRecord?
    split
    · rw [strictBudgetRecord_eq hpolicy]
      rfl
    · rfl
  refine foldChecked_eq_ok.2 ⟨fun record _ => ⟨_, hcounted record⟩, ?_⟩
  congr 1
  unfold finalRecords scopeRecords
  rw [List.filter_filter, List.filter_filter, ← List.filterMap_eq_filter]
  refine List.filterMap_congr fun record _ => ?_
  unfold passed
  rw [hcounted record]
  simp only [Option.guard, Bool.and_eq_true, decide_eq_true_eq]
  by_cases hall : record.usageDomain = .apim ∧ monthStart record.ts = period ∧
      store.confirmedScopeMatches scope record = true ∧ Countable record
  · rw [if_pos hall]
    obtain ⟨hdomain, hmonth, hscope, hcountable⟩ := hall
    rw [if_pos ⟨⟨hmonth, hcountable⟩, hdomain, hscope⟩]
  · rw [if_neg hall, if_neg]
    rintro ⟨⟨hmonth, hcountable⟩, hdomain, hscope⟩
    exact hall ⟨hdomain, hmonth, hscope, hcountable⟩

/-- The strongest recoveries of a month, of the correlations that have no final record in it. -/
theorem strongestFinalizations_eq (period : Date) (canonical : TokensByCorrelation) :
    store.strongestFinalizations now scope period canonical =
      .ok (((store.recoveries scope).filter fun item =>
        item.periodStart = period ∧ item.correlationId ∉ canonical).foldl
          (Selection.keep (fun item => item.correlationId) weakness) ∅) := by
  have hcounted : ∀ item, store.countedFinalization? now scope period canonical item =
      .ok (if item.scope ≠ scope ∨ item.periodStart ≠ period ∨ item.correlationId ∈ canonical ∨
        item.finalizationKind = .unverifiedUpperBound then none else some item) := by
    intro item
    unfold countedFinalization?
    split
    · rfl
    · obtain ⟨admitted, hadmitted⟩ := budgetAdmittedAt_returns hpolicy now scope
        item.correlationId item.reservationCreatedAt
      rw [hadmitted]
      change Except.ok (if store.strict now admitted = true then none else some item) = _
      rw [strict_eq_false hpolicy]
      rfl
  have hreturns : ∃ strongest, store.strongestFinalizations now scope period canonical =
      .ok strongest := ⟨_, foldChecked_eq_ok.2 ⟨fun item _ => ⟨_, hcounted item⟩, rfl⟩⟩
  obtain ⟨strongest, hstrongest⟩ := hreturns
  rw [hstrongest, (strongest_eq hstrongest).2]
  congr 2
  unfold recoveries
  rw [List.filter_filter, ← List.filterMap_eq_filter]
  refine List.filterMap_congr fun item _ => ?_
  unfold passed
  rw [hcounted item]
  simp only [Option.guard, Bool.and_eq_true, decide_eq_true_eq]
  by_cases hall : item.scope ≠ scope ∨ item.periodStart ≠ period ∨
      item.correlationId ∈ canonical ∨ item.finalizationKind = .unverifiedUpperBound
  · rw [if_pos hall, if_neg]
    rintro ⟨⟨hperiod, hnew⟩, hscope, hkind⟩
    rcases hall with h | h | h | h
    · exact h hscope
    · exact h hperiod
    · exact hnew h
    · exact hkind h
  · simp only [not_or, not_not] at hall
    obtain ⟨hscope, hperiod, hnew, hkind⟩ := hall
    rw [if_neg, if_pos ⟨⟨hperiod, hnew⟩, hscope, hkind⟩]
    rintro (h | h | h | h)
    · exact h hscope
    · exact h hperiod
    · exact hnew h
    · exact hkind h

end NoPolicy

/-! ## One record for a correlation -/

/-- A correlation has at most one usage record of the scope. -/
def OneRecord (store : EvidenceStore) (scope : EvidenceScope) : Prop :=
  ∀ a ∈ store.scopeRecords scope, ∀ b ∈ store.scopeRecords scope,
    a.correlationId = b.correlationId → a = b

theorem mem_recoveries {item : BudgetReservationFinalization} :
    item ∈ store.recoveries scope ↔ item ∈ store.budgetReservationFinalizations ∧
      item.scope = scope ∧ item.finalizationKind ≠ .unverifiedUpperBound := by
  simp [recoveries]

section OneRecord

variable (hone : store.OneRecord scope)

include hone

theorem finalRecord?_eq_some {c : Text} {record : TokenUsageRecord} :
    store.finalRecord? scope c = some record ↔
      record ∈ store.finalRecords scope ∧ record.correlationId = c := by
  have honly : ∀ a ∈ store.finalRecords scope, ∀ b ∈ store.finalRecords scope,
      decide (a.correlationId = c) = true → decide (b.correlationId = c) = true → a = b := by
    intro a ha b hb hac hbc
    refine hone a (List.mem_filter.1 ha).1 b (List.mem_filter.1 hb).1 ?_
    rw [of_decide_eq_true hac, of_decide_eq_true hbc]
  rw [finalRecord?, Selection.find?_eq_some_of_only honly, decide_eq_true_eq]

/-- A month has the final record of a correlation if the record is of the month. -/
theorem last_finalRecords (period : Date) (c : Text) :
    Store.last TokenUsageRecord.correlationId
        ((store.finalRecords scope).filter fun record => monthStart record.ts = period) c =
      (store.finalRecord? scope c).filter fun record => monthStart record.ts = period := by
  cases hlast : Store.last TokenUsageRecord.correlationId
      ((store.finalRecords scope).filter fun record => monthStart record.ts = period) c with
  | some record =>
      obtain ⟨hmem, hc⟩ := Store.last_mem hlast
      obtain ⟨hfinal, hmonth⟩ := List.mem_filter.1 hmem
      rw [(finalRecord?_eq_some hone).2 ⟨hfinal, hc⟩, Option.filter_some, if_pos hmonth]
  | none =>
      rw [Store.last_eq_none] at hlast
      cases hfound : store.finalRecord? scope c with
      | none => rfl
      | some record =>
          obtain ⟨hfinal, hc⟩ := (finalRecord?_eq_some hone).1 hfound
          rw [Option.filter_some, if_neg]
          exact fun hmonth => hlast record (List.mem_filter.2 ⟨hfinal, hmonth⟩) hc

end OneRecord

/-! ## A month, by correlation -/

theorem mem_correlations_of_record {record : TokenUsageRecord}
    (hrecord : record ∈ store.finalRecords scope) :
    record.correlationId ∈ store.correlations scope := by
  refine List.mem_dedup.2 (List.mem_append_left _ (List.mem_map_of_mem ?_))
  exact (List.mem_filter.1 hrecord).1

theorem mem_correlations_of_recovery {item : BudgetReservationFinalization}
    (hitem : item ∈ store.recoveries scope) : item.correlationId ∈ store.correlations scope := by
  obtain ⟨hmem, hscope, -⟩ := mem_recoveries.1 hitem
  refine List.mem_dedup.2 (List.mem_append_right _ (List.mem_map_of_mem ?_))
  exact List.mem_filter.2 ⟨hmem, decide_eq_true hscope⟩

/-- A month is the sum of what its correlations are charged in it. -/
theorem scopeConfirmedTokens_eq (hpolicy : store.evidencePolicyEffectiveAt = none)
    (hone : store.OneRecord scope) (period : Date) {keys : List Text} (hkeys : keys.Nodup)
    (hall : ∀ c ∈ store.correlations scope, c ∈ keys) :
    store.scopeConfirmedTokens now scope period =
      .ok ((keys.map (store.monthCharge scope period)).sum) := by
  unfold scopeConfirmedTokens
  rw [canonicalTokens_eq hpolicy]
  change (store.strongestFinalizations now scope period _ >>= _) = _
  rw [strongestFinalizations_eq hpolicy, strictBudgetChoices_eq hpolicy]
  set canonical := ((store.finalRecords scope).filter fun record =>
    monthStart record.ts = period).foldl
      (fun canonical record => canonical.insert record.correlationId record.totalTokens)
      (∅ : TokensByCorrelation) with hcanonical
  set strongest := ((store.recoveries scope).filter fun item =>
    item.periodStart = period ∧ item.correlationId ∉ canonical).foldl
      (Selection.keep (fun item => item.correlationId) weakness) ∅ with hstrongest
  have hrecord : ∀ c, canonical.lookup c = ((store.finalRecord? scope c).filter fun record =>
      monthStart record.ts = period).map (·.totalTokens) := by
    intro c
    rw [hcanonical, Store.lookup_foldl_insert, last_finalRecords hone]
  have hrecovery : ∀ c, strongest.lookup c = if c ∈ canonical then none else
      ((store.recoveries scope).filter fun item =>
        item.correlationId = c ∧ item.periodStart = period).argmin weakness := by
    intro c
    rw [hstrongest, Selection.lookup_foldl_keep, List.filter_filter]
    split
    next hc =>
      rw [List.argmin_eq_none, List.filter_eq_nil_iff]
      intro item _ hitem
      simp only [Bool.and_eq_true, decide_eq_true_eq] at hitem
      obtain ⟨rfl, -, hnew⟩ := hitem
      exact hnew hc
    next hc =>
      congr 1
      refine List.filter_congr fun item _ => ?_
      rw [← Bool.decide_and]
      refine decide_eq_decide.2 ⟨fun h => ⟨h.1, h.2.1⟩, ?_⟩
      rintro ⟨rfl, hperiod⟩
      exact ⟨rfl, hperiod, hc⟩
  have hcanonicalKeys : ∀ c ∈ canonical, c ∈ keys := by
    intro c hc
    obtain ⟨tokens, htokens⟩ := Option.isSome_iff_exists.1 (AList.lookup_isSome.2 hc)
    rw [hrecord] at htokens
    obtain ⟨record, hfound, -⟩ := Option.map_eq_some_iff.1 htokens
    obtain ⟨hfinal, rfl⟩ := (finalRecord?_eq_some hone).1 (Option.filter_eq_some_iff.1 hfound).1
    exact hall _ (mem_correlations_of_record hfinal)
  have hstrongestKeys : ∀ c ∈ strongest, c ∈ keys := by
    intro c hc
    obtain ⟨item, hitem⟩ := Option.isSome_iff_exists.1 (AList.lookup_isSome.2 hc)
    rw [hrecovery] at hitem
    split at hitem
    next => cases hitem
    next =>
      obtain ⟨hmem, hitem⟩ := List.mem_filter.1 (List.argmin_mem hitem)
      obtain ⟨rfl, -⟩ := of_decide_eq_true hitem
      exact hall _ (mem_correlations_of_recovery hmem)
  have hshare : ∀ c, Store.share id (canonical.lookup c) +
      Store.share (·.totalTokens) (strongest.lookup c) = store.monthCharge scope period c := by
    intro c
    simp only [hrecovery, ← AList.lookup_isSome, hrecord, monthCharge, recoveredIn]
    cases store.finalRecord? scope c with
    | none => exact zero_add _
    | some record =>
        by_cases hmonth : monthStart record.ts = period
        · simp [Option.filter_some, hmonth]
        · simp only [Option.filter_some, decide_eq_true_eq, if_neg hmonth, Option.map_none,
            Option.isSome_none, Bool.false_eq_true, if_false, Store.share_none, zero_add]
          rfl
  change Except.ok _ = _
  rw [Store.total_eq_sum hkeys hcanonicalKeys, Store.total_eq_sum hkeys hstrongestKeys,
    Store.total_empty, add_zero, ← List.sum_map_add]
  exact congrArg (fun l => Except.ok (List.sum l)) (List.map_congr_left fun c _ => hshare c)

theorem correlations_nodup : (store.correlations scope).Nodup := List.nodup_dedup _

theorem scopeConfirmedTokens_correlations (hpolicy : store.evidencePolicyEffectiveAt = none)
    (hone : store.OneRecord scope) (period : Date) :
    store.scopeConfirmedTokens now scope period =
      .ok (((store.correlations scope).map (store.monthCharge scope period)).sum) :=
  scopeConfirmedTokens_eq hpolicy hone period correlations_nodup fun _ hc => hc

/-! ## The home of a correlation -/

theorem recoveredIn_nonneg (c : Text) (period : Date) : 0 ≤ store.recoveredIn scope c period := by
  unfold recoveredIn
  cases ((store.recoveries scope).filter fun item =>
      item.correlationId = c ∧ item.periodStart = period).argmin weakness with
  | none => exact le_rfl
  | some item => exact item.valid.2.2.2.2.1

/-- The recoveries of a correlation in a month. -/
theorem filter_recoveries (c : Text) (period : Date) :
    ((store.recoveries scope).filter fun item =>
        item.correlationId = c ∧ item.periodStart = period) =
      ((store.recoveries scope).filter fun item => item.correlationId = c).filter fun item =>
        item.periodStart = period := by
  rw [List.filter_filter]
  refine List.filter_congr fun item _ => ?_
  rw [← Bool.decide_and]
  exact decide_eq_decide.2 and_comm

/-- A correlation is charged its amount in its home, and what is recovered elsewhere. -/
theorem monthCharge_eq (period : Date) (c : Text) :
    store.monthCharge scope period c =
      if store.home? scope c = some period then store.requestCharge scope c
      else store.recoveredIn scope c period := by
  unfold monthCharge home? requestCharge
  cases store.finalRecord? scope c with
  | some record => exact if_congr Option.some_inj.symm rfl rfl
  | none =>
      cases hstrongest : store.strongest? scope c with
      | none => rfl
      | some item =>
          by_cases hperiod : item.periodStart = period
          · have hhome : ((store.recoveries scope).filter fun item =>
                item.correlationId = c ∧ item.periodStart = period).argmin weakness
                  = some item := by
              rw [filter_recoveries]
              exact Selection.argmin_filter hstrongest (decide_eq_true hperiod)
            change store.recoveredIn scope c period =
              if some item.periodStart = some period then _ else _
            rw [recoveredIn, hhome, if_pos (congrArg some hperiod)]
          · exact (if_neg fun h => hperiod (Option.some.inj h)).symm

theorem monthCharge_of_no_record {c : Text} {period : Date}
    (hrecord : ∀ record ∈ store.finalRecord? scope c, monthStart record.ts ≠ period) :
    store.monthCharge scope period c = store.recoveredIn scope c period := by
  unfold monthCharge
  cases h : store.finalRecord? scope c with
  | none => rfl
  | some record => exact if_neg (hrecord record h)

/-- A correlation without a home is charged nothing. -/
theorem requestCharge_of_homeless {c : Text} (h : store.home? scope c = none) :
    store.requestCharge scope c = 0 := by
  unfold home? at h
  unfold requestCharge
  cases hrecord : store.finalRecord? scope c with
  | some record =>
      rw [hrecord] at h
      cases h
  | none =>
      rw [hrecord] at h
      dsimp only at h ⊢
      rw [Option.map_eq_none_iff.1 h]
      rfl

/-! ## Once -/

/-- The months that have evidence of a scope. -/
def evidenceMonths (store : EvidenceStore) (scope : EvidenceScope) : Finset Date :=
  ((store.finalRecords scope).map (fun record => monthStart record.ts) ++
    (store.recoveries scope).map (·.periodStart)).toFinset

/-- The months of a scope add up to one amount for every correlation, and the order of
arrival makes no difference to a month. -/
structure ChargedOnce (store : EvidenceStore) (now : Int) (scope : EvidenceScope) : Prop where
  once : ∃ tokens : Date → Int,
    (∀ period, store.scopeConfirmedTokens now scope period = .ok (tokens period)) ∧
      ∑ᶠ period, tokens period = ((store.correlations scope).map (store.requestCharge scope)).sum
  reordered : ∀ store', Reordered store store' → ∀ period,
    store'.scopeConfirmedTokens now scope period = store.scopeConfirmedTokens now scope period

/-- Log entries with tokens are of the home of their correlation, and those of one
correlation and month agree. -/
structure ChargedAtHome (store : EvidenceStore) (scope : EvidenceScope) : Prop where
  home : ∀ item ∈ store.recoveries scope, item.totalTokens ≠ 0 →
    store.home? scope item.correlationId = some item.periodStart
  agree : ∀ a ∈ store.recoveries scope, ∀ b ∈ store.recoveries scope,
    a.finalizationKind = .exactUsage → b.finalizationKind = .exactUsage →
    a.correlationId = b.correlationId → a.periodStart = b.periodStart →
    (∀ record ∈ store.finalRecord? scope a.correlationId, monthStart record.ts ≠ a.periodStart) →
    a.totalTokens = b.totalTokens

theorem mem_evidenceMonths_of_home {c : Text} {period : Date}
    (h : store.home? scope c = some period) : period ∈ store.evidenceMonths scope := by
  unfold home? at h
  rw [evidenceMonths, List.mem_toFinset, List.mem_append]
  cases hrecord : store.finalRecord? scope c with
  | some record =>
      rw [hrecord] at h
      exact Or.inl (List.mem_map.2 ⟨record, List.mem_of_find?_eq_some hrecord, Option.some.inj h⟩)
  | none =>
      rw [hrecord] at h
      obtain ⟨item, hitem, rfl⟩ := Option.map_eq_some_iff.1 h
      exact Or.inr (List.mem_map_of_mem (List.mem_filter.1 (List.argmin_mem hitem)).1)

/-- A month that has no evidence is not charged. -/
theorem recoveredIn_eq_zero {c : Text} {period : Date}
    (h : ∀ item ∈ store.recoveries scope, item.correlationId = c → item.periodStart = period →
      item.totalTokens = 0) : store.recoveredIn scope c period = 0 := by
  unfold recoveredIn
  cases hitem : ((store.recoveries scope).filter fun item =>
      item.correlationId = c ∧ item.periodStart = period).argmin weakness with
  | none => rfl
  | some item =>
      obtain ⟨hmem, hcp⟩ := List.mem_filter.1 (List.argmin_mem hitem)
      exact h item hmem (of_decide_eq_true hcp).1 (of_decide_eq_true hcp).2

theorem recoveredIn_of_no_evidence {c : Text} {period : Date}
    (h : period ∉ store.evidenceMonths scope) : store.recoveredIn scope c period = 0 := by
  refine recoveredIn_eq_zero fun item hitem _ hperiod => absurd ?_ h
  rw [evidenceMonths, List.mem_toFinset, List.mem_append]
  exact Or.inr (List.mem_map.2 ⟨item, hitem, hperiod⟩)

theorem monthCharge_of_no_evidence {c : Text} {period : Date}
    (h : period ∉ store.evidenceMonths scope) : store.monthCharge scope period c = 0 := by
  rw [monthCharge_eq, if_neg fun hhome => h (mem_evidenceMonths_of_home hhome)]
  exact recoveredIn_of_no_evidence h

/-- What is recovered for a correlation in months that are not its home. -/
def astray (store : EvidenceStore) (scope : EvidenceScope) (c : Text) : Int :=
  ∑ period ∈ (store.evidenceMonths scope).filter fun period => store.home? scope c ≠ some period,
    store.recoveredIn scope c period

theorem astray_nonneg (c : Text) : 0 ≤ store.astray scope c :=
  Finset.sum_nonneg fun period _ => recoveredIn_nonneg c period

/-- The months charge a correlation its amount, and what is recovered away from home. -/
theorem sum_monthCharge (c : Text) :
    ∑ period ∈ store.evidenceMonths scope, store.monthCharge scope period c =
      store.requestCharge scope c + store.astray scope c := by
  simp only [monthCharge_eq]
  rw [Finset.sum_ite, astray]
  refine congrArg (· + _) ?_
  cases hhome : store.home? scope c with
  | none =>
      rw [requestCharge_of_homeless hhome]
      exact Finset.sum_const_zero
  | some period =>
      have hmonth :
          (store.evidenceMonths scope).filter (fun p => some period = some p) = {period} := by
        refine Finset.ext fun p => ?_
        rw [Finset.mem_filter, Finset.mem_singleton]
        constructor
        · exact fun h => (Option.some.inj h.2).symm
        · rintro rfl
          exact ⟨mem_evidenceMonths_of_home hhome, rfl⟩
      rw [hmonth, Finset.sum_singleton]

/-- All the months together. -/
theorem finsum_monthCharge :
    ∑ᶠ period, ((store.correlations scope).map (store.monthCharge scope period)).sum =
      ((store.correlations scope).map (store.requestCharge scope)).sum +
        ∑ c ∈ (store.correlations scope).toFinset, store.astray scope c := by
  have hnodup : (store.correlations scope).Nodup := correlations_nodup
  simp only [← List.sum_toFinset _ hnodup]
  have hsupport : Function.support (fun period =>
      ∑ c ∈ (store.correlations scope).toFinset, store.monthCharge scope period c) ⊆
        ↑(store.evidenceMonths scope) := by
    intro period hperiod
    by_contra hnot
    exact hperiod (Finset.sum_eq_zero fun c _ => monthCharge_of_no_evidence hnot)
  rw [finsum_eq_sum_of_support_subset _ hsupport, Finset.sum_comm, ← Finset.sum_add_distrib]
  exact Finset.sum_congr rfl fun c _ => sum_monthCharge c

/-! ## Any order of arrival -/

section Reordered

variable {store' : EvidenceStore} (h : Reordered store store')

include h

theorem scopeRecords_perm : (store'.scopeRecords scope).Perm (store.scopeRecords scope) := by
  have hmatches : ∀ record, store'.confirmedScopeMatches scope record =
      store.confirmedScopeMatches scope record := by
    intro record
    unfold confirmedScopeMatches
    rw [h.attributions]
  unfold scopeRecords
  simp only [hmatches]
  exact h.usage.filter _

theorem recoveries_perm : (store'.recoveries scope).Perm (store.recoveries scope) :=
  h.finalizations.filter _

theorem oneRecord_of_reordered (hone : store.OneRecord scope) : store'.OneRecord scope := by
  intro a ha b hb
  exact hone a ((scopeRecords_perm h).mem_iff.1 ha) b ((scopeRecords_perm h).mem_iff.1 hb)

theorem finalRecord?_of_reordered (hone : store.OneRecord scope) (c : Text) :
    store'.finalRecord? scope c = store.finalRecord? scope c := by
  refine Selection.find?_of_perm ((scopeRecords_perm h).filter _) fun a ha b hb hac hbc => ?_
  refine oneRecord_of_reordered h hone a (List.mem_filter.1 ha).1 b (List.mem_filter.1 hb).1 ?_
  rw [of_decide_eq_true hac, of_decide_eq_true hbc]

theorem mem_correlations_of_reordered {c : Text} (hc : c ∈ store'.correlations scope) :
    c ∈ store.correlations scope := by
  have hrecords : (store'.scopeRecords scope).Perm (store.scopeRecords scope) :=
    scopeRecords_perm h
  have hperm := (hrecords.map (·.correlationId)).append
    ((h.finalizations.filter fun item => item.scope = scope).map (·.correlationId))
  exact List.mem_dedup.2 (hperm.mem_iff.1 (List.mem_dedup.1 hc))

/-- A month of the other order, by the same correlations. -/
theorem scopeConfirmedTokens_of_reordered (hpolicy : store.evidencePolicyEffectiveAt = none)
    (hone : store.OneRecord scope) (period : Date) :
    store'.scopeConfirmedTokens now scope period =
      .ok (((store.correlations scope).map (store'.monthCharge scope period)).sum) :=
  scopeConfirmedTokens_eq (h.policy.trans hpolicy) (oneRecord_of_reordered h hone) period
    correlations_nodup fun _ hc => mem_correlations_of_reordered h hc

end Reordered

/-- A log entry without tokens, or one of exact usage. -/
theorem exact_or_zero {item : BudgetReservationFinalization}
    (hitem : item ∈ store.recoveries scope) :
    item.finalizationKind = .exactUsage ∨
      item.finalizationKind = .terminalZero ∧ item.totalTokens = 0 := by
  have hkind := (mem_recoveries.1 hitem).2.2
  have hvalid := item.valid.2.2.2.2.2
  cases h : item.finalizationKind with
  | exactUsage => exact Or.inl rfl
  | terminalZero =>
      rw [h] at hvalid
      exact Or.inr ⟨rfl, hvalid.2.2.1⟩
  | unverifiedUpperBound => exact absurd h hkind

theorem weakness_le_of_exact {a : BudgetReservationFinalization}
    (ha : a.finalizationKind = .exactUsage) (b : BudgetReservationFinalization) :
    weakness a ≤ weakness b := by
  unfold weakness
  rw [OrderDual.toDual_le_toDual, ha]
  cases b.finalizationKind with
  | exactUsage => exact le_rfl
  | terminalZero => decide
  | unverifiedUpperBound => decide

/-- Where log entries agree, the first of them makes no difference. -/
theorem recoveredIn_of_reordered {store' : EvidenceStore} (h : Reordered store store') {c : Text}
    {period : Date}
    (hagree : ∀ a ∈ store.recoveries scope, ∀ b ∈ store.recoveries scope,
      a.finalizationKind = .exactUsage → b.finalizationKind = .exactUsage →
      a.correlationId = c → b.correlationId = c → a.periodStart = period → b.periodStart = period →
      a.totalTokens = b.totalTokens) :
    store'.recoveredIn scope c period = store.recoveredIn scope c period := by
  have hperm : ((store'.recoveries scope).filter fun item =>
      item.correlationId = c ∧ item.periodStart = period).Perm
        ((store.recoveries scope).filter fun item =>
          item.correlationId = c ∧ item.periodStart = period) := (recoveries_perm h).filter _
  unfold recoveredIn
  cases ha : ((store.recoveries scope).filter fun item =>
      item.correlationId = c ∧ item.periodStart = period).argmin weakness with
  | none => rw [Selection.argmin_eq_none_of_perm hperm.symm ha]
  | some a =>
      cases hb : ((store'.recoveries scope).filter fun item =>
          item.correlationId = c ∧ item.periodStart = period).argmin weakness with
      | none =>
          rw [Selection.argmin_eq_none_of_perm hperm hb] at ha
          cases ha
      | some b =>
          have hkey := Selection.key_argmin_of_perm hperm.symm ha hb
          obtain ⟨hamem, hacp⟩ := List.mem_filter.1 (List.argmin_mem ha)
          obtain ⟨hbmem, hbcp⟩ := List.mem_filter.1 (hperm.mem_iff.1 (List.argmin_mem hb))
          obtain ⟨hac, hap⟩ := of_decide_eq_true hacp
          obtain ⟨hbc, hbp⟩ := of_decide_eq_true hbcp
          change b.totalTokens = a.totalTokens
          unfold weakness at hkey
          rw [OrderDual.toDual_inj] at hkey
          rcases exact_or_zero hamem with hexact | ⟨hkind, hzero⟩
          · rcases exact_or_zero hbmem with hexact' | ⟨hkind', -⟩
            · exact hagree b hbmem a hamem hexact' hexact hbc hac hbp hap
            · rw [hexact, hkind'] at hkey
              cases hkey
          · rcases exact_or_zero hbmem with hexact' | ⟨-, hzero'⟩
            · rw [hexact', hkind] at hkey
              cases hkey
            · rw [hzero, hzero']

/-- The store with a finalization in front of the others. -/
theorem exists_front {a : BudgetReservationFinalization} (ha : a ∈ store.recoveries scope) :
    ∃ store', Reordered store store' ∧
      (∀ c ≠ a.correlationId, ∀ period,
        store'.recoveredIn scope c period = store.recoveredIn scope c period) ∧
      (a.finalizationKind = .exactUsage →
        store'.recoveredIn scope a.correlationId a.periodStart = a.totalTokens) := by
  obtain ⟨hmem, hscope, hkind⟩ := mem_recoveries.1 ha
  obtain ⟨before, after, hsplit⟩ := List.append_of_mem hmem
  have hperm : (a :: (before ++ after)).Perm store.budgetReservationFinalizations :=
    hsplit ▸ List.perm_middle.symm
  refine ⟨_, Reordered.arrange (.refl _) hperm (.refl _), fun c hc period => ?_, fun hexact => ?_⟩
  · have hsame : ((a :: (before ++ after)).filter fun item =>
        item.scope = scope ∧ item.finalizationKind ≠ .unverifiedUpperBound).filter
          (fun item => item.correlationId = c ∧ item.periodStart = period) =
        (store.recoveries scope).filter fun item =>
          item.correlationId = c ∧ item.periodStart = period := by
      rw [recoveries, hsplit]
      simp [List.filter_append, Ne.symm hc, hscope, hkind]
    exact congrArg (fun l => (List.argmin weakness l).elim 0 fun item => item.totalTokens) hsame
  · have hfront : ((a :: (before ++ after)).filter fun item =>
        item.scope = scope ∧ item.finalizationKind ≠ .unverifiedUpperBound).filter
          (fun item => item.correlationId = a.correlationId ∧ item.periodStart = a.periodStart) =
        [] ++ a :: ((before ++ after).filter fun item =>
          item.scope = scope ∧ item.finalizationKind ≠ .unverifiedUpperBound).filter
          fun item => item.correlationId = a.correlationId ∧ item.periodStart = a.periodStart := by
      simp [hscope, hkind]
    have hargmin := congrArg (List.argmin weakness) hfront
    rw [Selection.argmin_append_cons (fun b hb => absurd hb List.not_mem_nil)
      fun b _ => weakness_le_of_exact hexact b] at hargmin
    exact congrArg (fun item? => Option.elim item? 0 fun item => item.totalTokens) hargmin

/-! ## When a request is charged once -/

section

variable (hpolicy : store.evidencePolicyEffectiveAt = none) (hone : store.OneRecord scope)

include hpolicy hone

/-- A log entry may be the first to arrive, so it is what its month is charged. -/
theorem recoveredIn_of_once (honce : store.ChargedOnce now scope)
    {a : BudgetReservationFinalization} (ha : a ∈ store.recoveries scope)
    (hexact : a.finalizationKind = .exactUsage)
    (hrecord : ∀ record ∈ store.finalRecord? scope a.correlationId,
      monthStart record.ts ≠ a.periodStart) :
    store.recoveredIn scope a.correlationId a.periodStart = a.totalTokens := by
  obtain ⟨store', h, hothers, hfront⟩ := exists_front ha
  have hvalue := honce.reordered store' h a.periodStart
  rw [scopeConfirmedTokens_of_reordered h hpolicy hone,
    scopeConfirmedTokens_correlations hpolicy hone] at hvalue
  have hsum := Except.ok.inj hvalue
  rw [← List.sum_toFinset _ correlations_nodup, ← List.sum_toFinset _ correlations_nodup,
    ← sub_eq_zero, ← Finset.sum_sub_distrib] at hsum
  have hrecord' : ∀ record ∈ store'.finalRecord? scope a.correlationId,
      monthStart record.ts ≠ a.periodStart := by
    rw [finalRecord?_of_reordered h hone]
    exact hrecord
  rw [Finset.sum_eq_single_of_mem a.correlationId
    (List.mem_toFinset.2 (mem_correlations_of_recovery ha)), sub_eq_zero] at hsum
  · rw [← monthCharge_of_no_record hrecord, ← hsum, monthCharge_of_no_record hrecord',
      hfront hexact]
  · intro c _ hc
    unfold monthCharge
    rw [finalRecord?_of_reordered h hone, hothers c hc, sub_self]

/-- If requests are charged once, they are charged at home. -/
theorem ChargedOnce.at_home (honce : store.ChargedOnce now scope) : store.ChargedAtHome scope := by
  constructor
  case agree =>
    intro a ha b hb hexacta hexactb hc hperiod hrecord
    have hcharge := recoveredIn_of_once hpolicy hone honce ha hexacta hrecord
    rw [hc, hperiod] at hrecord hcharge
    rw [← hcharge, recoveredIn_of_once hpolicy hone honce hb hexactb hrecord]
  case home =>
    intro item hitem htotal
    by_contra haway
    have hexact : item.finalizationKind = .exactUsage :=
      (exact_or_zero hitem).resolve_right fun hzero => htotal hzero.2
    have hrecord : ∀ record ∈ store.finalRecord? scope item.correlationId,
        monthStart record.ts ≠ item.periodStart := by
      intro record hfound hmonth
      refine haway ?_
      unfold home?
      rw [hfound, ← hmonth]
    have hcharge := recoveredIn_of_once hpolicy hone honce hitem hexact hrecord
    have hmonth : item.periodStart ∈ store.evidenceMonths scope := by
      rw [evidenceMonths, List.mem_toFinset, List.mem_append]
      exact Or.inr (List.mem_map_of_mem hitem)
    -- The months add up to the amounts, so nothing is recovered away from home.
    obtain ⟨tokens, htokens, hsum⟩ := honce.once
    have heq : tokens = fun period =>
        ((store.correlations scope).map (store.monthCharge scope period)).sum := by
      funext period
      have hvalue := htokens period
      rw [scopeConfirmedTokens_correlations hpolicy hone] at hvalue
      exact (Except.ok.inj hvalue).symm
    rw [heq, finsum_monthCharge, add_eq_left,
      Finset.sum_eq_zero_iff_of_nonneg fun c _ => astray_nonneg c] at hsum
    have hastray := hsum item.correlationId
      (List.mem_toFinset.2 (mem_correlations_of_recovery hitem))
    rw [astray, Finset.sum_eq_zero_iff_of_nonneg fun period _ => recoveredIn_nonneg _ period]
      at hastray
    exact htotal (hcharge.symm.trans
      (hastray item.periodStart (Finset.mem_filter.2 ⟨hmonth, haway⟩)))

theorem ChargedAtHome.once (hhome : store.ChargedAtHome scope) : store.ChargedOnce now scope := by
  have haway : ∀ c period, store.home? scope c ≠ some period →
      store.recoveredIn scope c period = 0 := by
    intro c period hperiod
    refine recoveredIn_eq_zero fun item hitem hc hp => ?_
    by_contra htotal
    have hitem := hhome.home item hitem htotal
    rw [hc, hp] at hitem
    exact hperiod hitem
  constructor
  case once =>
    refine ⟨fun period => ((store.correlations scope).map (store.monthCharge scope period)).sum,
      scopeConfirmedTokens_correlations hpolicy hone, ?_⟩
    rw [finsum_monthCharge, add_eq_left]
    refine Finset.sum_eq_zero fun c _ => Finset.sum_eq_zero fun period hperiod => ?_
    exact haway c period (Finset.mem_filter.1 hperiod).2
  case reordered =>
    intro store' h period
    rw [scopeConfirmedTokens_of_reordered h hpolicy hone,
      scopeConfirmedTokens_correlations hpolicy hone]
    refine congrArg (fun l => Except.ok (List.sum l)) (List.map_congr_left fun c _ => ?_)
    by_cases hrecord : ∀ record ∈ store.finalRecord? scope c, monthStart record.ts ≠ period
    · have hrecord' : ∀ record ∈ store'.finalRecord? scope c, monthStart record.ts ≠ period := by
        rw [finalRecord?_of_reordered h hone]
        exact hrecord
      rw [monthCharge_of_no_record hrecord, monthCharge_of_no_record hrecord']
      exact recoveredIn_of_reordered h fun a ha b hb hexacta hexactb hac hbc hap hbp =>
        hhome.agree a ha b hb hexacta hexactb (hac.trans hbc.symm) (hap.trans hbp.symm)
          (by rw [hac, hap]; exact hrecord)
    · push Not at hrecord
      obtain ⟨record, hfound, hmonth⟩ := hrecord
      unfold monthCharge
      rw [finalRecord?_of_reordered h hone, hfound]
      dsimp only
      rw [if_pos hmonth, if_pos hmonth]

end

end EvidenceStore

open EvidenceStore in
/-- Without a policy, requests are charged once just when they are charged at home. -/
theorem charged_once_iff {store : EvidenceStore} {now : Int} {scope : EvidenceScope}
    (hpolicy : store.evidencePolicyEffectiveAt = none) (hone : store.OneRecord scope) :
    store.ChargedOnce now scope ↔ store.ChargedAtHome scope :=
  ⟨ChargedOnce.at_home hpolicy hone, ChargedAtHome.once hpolicy hone⟩

/-! ## A request over the end of a month -/

namespace Sample

/-- One minute before February 1970. -/
def lateJanuary : Int := 2678340000000

/-- The log entry of a request that was admitted in late January. -/
def lateEntry : BudgetReservationFinalization where
  scope := person
  periodStart := ⟨1970, 1, 1⟩
  correlationId := .plain "request"
  reservationCreatedAt := lateJanuary
  reservationTokens := 100
  evidenceAt := lateJanuary + 120000000
  statusCode := some 200
  inputTokens := some 5
  outputTokens := some 2
  totalTokens := 7
  finalizationKind := .exactUsage
  source := .apimGatewayLlmLog
  valid := ⟨(by decide : Text.nonblank (.plain "ada") = true),
    (by decide : Text.nonblank (.plain "request") = true), rfl, by decide, by decide,
    5, rfl, 2, rfl, by decide, by decide, rfl, rfl⟩

/-- Its usage record. -/
def lateRecord (ts : Int) : TokenUsageRecord where
  id := .plain "usage"
  requestId := .plain "request"
  correlationId := .plain "request"
  ts := ts
  userId := person.scopeId
  modelId := .plain "model"
  requestSource := "gateway"
  usageDomain := .apim
  inputTokens := 5
  cachedTokens := 0
  cacheWriteTokens := 0
  outputTokens := 2
  statusCode := 200
  estimated := false
  ingestError := none

def lateStore (ts : Int) : EvidenceStore where
  evidencePolicyEffectiveAt := none
  budgetReservationAdmissions _ _ := none
  budgetEvidenceReceivedAt _ := none
  reconciledUsageIds _ := false
  usageApplicationAttributions _ := none
  billableRequests := []
  budgetReservationFinalizations := [lateEntry]
  usageRecords := [lateRecord ts]
  attempts_nodup := List.nodup_nil
  finalizations_nodup := List.nodup_singleton _
  usage_nodup := List.nodup_singleton _

theorem lateStore_oneRecord (ts : Int) : (lateStore ts).OneRecord person := by
  intro a ha b hb _
  rw [List.mem_singleton.1 (List.mem_filter.1 ha).1, List.mem_singleton.1 (List.mem_filter.1 hb).1]

end Sample

/-- Usage that is recorded in the month of the reservation is charged once. -/
theorem charged_once_in_january :
    (Sample.lateStore Sample.lateJanuary).ChargedOnce 0 Sample.person := by
  refine (charged_once_iff rfl (Sample.lateStore_oneRecord _)).2 ⟨?_, ?_⟩
  · decide
  · decide

/-- Usage that is recorded in the next month is charged in both. -/
theorem late_usage_is_charged_twice :
    ¬ (Sample.lateStore (Sample.lateJanuary + 60000000)).ChargedOnce 0 Sample.person := by
  intro honce
  have hhome := (honce.at_home rfl (Sample.lateStore_oneRecord _)).home
  revert hhome
  decide

end Turnstile
