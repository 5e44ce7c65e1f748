import Turnstile.Foundation.Selection
import Turnstile.Persistence.BillableRequests
import Turnstile.Persistence.EvidenceOrder

/-!
# Billable attempts in a budget

The confirmed tokens of a budget are what evidence of no attempt confirms, and the
effective tokens of every attempt of the month, once each (`confirmed_eq`).  With the
reservations of the attempts that nothing has settled, every attempt counts once
(`confirmed_add_uncounted_eq`).

This holds where the evidence is regular: under every correlation of an attempt the base
total has the tokens that the adjustment takes out of it, and a strict attempt is settled
in the month it belongs to.  The adjustment does not ask whether the base total counted a
record, so it takes out tokens that were never in.
-/

namespace Turnstile

open Guard

namespace EvidenceStore

variable (store : EvidenceStore) (now : Int) (scope : EvidenceScope) (period : Date)

/-! ## What a budget is charged -/

/-- The attempts of a scope. -/
def scopeAttempts : List BillableRequestAttempt :=
  store.billableRequests.filter fun row => row.scope = scope

/-- The attempts of a scope and a month. -/
def periodAttempts : List BillableRequestAttempt :=
  (store.scopeAttempts scope).filter fun row => row.periodStart = period

/-- The effective tokens of an attempt. -/
def effective (row : BillableRequestAttempt) : Option Int :=
  passed (store.billableEffectiveTokens now) row

/-- What an attempt is charged: its effective tokens, and until it has any its
reservation. -/
def charge (row : BillableRequestAttempt) : Int :=
  (store.effective now row).getD row.reservedTokens

/-- The records of attempts, in the order of arrival. -/
def attributedRecords : List TokenUsageRecord :=
  (store.periodRecords scope period).filter fun record => store.Attributed now scope record

/-- An identifier of an attempt. -/
def NamesAttempt (i : Text) : Prop :=
  ∃ row ∈ store.scopeAttempts scope, i = Text.ofUuid row.id

instance (i : Text) : Decidable (store.NamesAttempt scope i) :=
  inferInstanceAs (Decidable (∃ _ ∈ _, _))

/-- A correlation of an attempt: its identifier, or that of a record which it made. -/
def OfAttempt (c : Text) : Prop :=
  store.NamesAttempt scope c ∨
    ∃ record ∈ store.attributedRecords now scope period, record.correlationId = c

instance (c : Text) : Decidable (store.OfAttempt now scope period c) :=
  inferInstanceAs (Decidable (_ ∨ _))

/-- The confirmed tokens that belong to no attempt. -/
def ordinaryTokens : Except EvidenceError Int := do
  let canonical ← store.canonicalTokens now scope period
  let strongest ← store.strongestFinalizations now scope period canonical
  let choices ← store.strictBudgetChoices now scope
  pure (Store.total id
      (Store.restrict (fun c => !decide (store.OfAttempt now scope period c)) canonical) +
    Store.total (·.totalTokens)
      (Store.restrict (fun c => !decide (store.NamesAttempt scope c)) strongest) +
    Store.total (monthTokens period)
      (Store.restrict (fun i => !decide (store.NamesAttempt scope i)) choices))

/-- The records that the base total counts, in the order of arrival. -/
def countedRecords : List TokenUsageRecord :=
  store.usageRecords.filterMap (passed (store.countedRecord? now scope period))

/-- The finalization of a correlation that is the first of the strongest. -/
def recovery (c : Text) : Option BudgetReservationFinalization :=
  (store.budgetReservationFinalizations.filter fun item => decide (item.scope = scope ∧
    item.periodStart = period ∧ item.finalizationKind ≠ .unverifiedUpperBound ∧
    item.correlationId = c)).argmin
    fun item => OrderDual.toDual (decide (item.finalizationKind = .exactUsage))

/-- The base total has of attempts what the adjustment takes out of it, and strict attempts
are settled in their month. -/
structure RegularEvidence : Prop where
  /-- Under a correlation of an attempt the last record that is counted, if any, has the
  tokens of the last record that an attempt made, if any. -/
  counted : ∀ c, store.OfAttempt now scope period c →
    Store.share TokenUsageRecord.totalTokens
        (Store.last TokenUsageRecord.correlationId (store.countedRecords now scope period) c) =
      Store.share TokenUsageRecord.totalTokens
        (Store.last TokenUsageRecord.correlationId (store.attributedRecords now scope period) c)
  /-- A record under the identifier of an attempt that is not strict is counted, or there is
  no finalization with tokens. -/
  finalized : ∀ row ∈ store.legacyAttempts now scope,
    (∃ record ∈ store.periodRecords scope period, record.correlationId = Text.ofUuid row.id) →
    (∀ record ∈ store.countedRecords now scope period,
      record.correlationId ≠ Text.ofUuid row.id) →
    Store.share (fun item : BudgetReservationFinalization => item.totalTokens)
      (store.recovery scope period (Text.ofUuid row.id)) = 0
  /-- A strict attempt that has tokens was admitted in the month it is charged to. -/
  admitted : ∀ row ∈ store.scopeAttempts scope, store.strict now row.createdAt = true →
    (store.effective now row).getD 0 ≠ 0 →
      (monthStart row.createdAt = period ↔ row.periodStart = period)

variable {store now scope period}

theorem mem_scopeAttempts {row : BillableRequestAttempt} :
    row ∈ store.scopeAttempts scope ↔ row ∈ store.billableRequests ∧ row.scope = scope := by
  simp [scopeAttempts]

theorem mem_legacyAttempts {row : BillableRequestAttempt} :
    row ∈ store.legacyAttempts now scope ↔
      row ∈ store.scopeAttempts scope ∧ store.strict now row.createdAt = false := by
  simp [legacyAttempts, scopeAttempts, and_assoc]

/-! ## The request of an attempt's evidence -/

/-- Evidence under the identifier of an attempt is bound to it. -/
theorem budgetBoundAttempt_of_id {row : BillableRequestAttempt} {correlationId : Text}
    {bound : Option BillableRequestAttempt} (hrow : row ∈ store.scopeAttempts scope)
    (hid : correlationId = Text.ofUuid row.id)
    (hbound : store.budgetBoundAttempt now scope correlationId = .ok bound) : bound = some row := by
  obtain ⟨hmem, hscope⟩ := mem_scopeAttempts.1 hrow
  have hin : row ∈ store.billableRequests.filter fun a => store.BoundTo now scope correlationId a :=
    List.mem_filter.2 ⟨hmem, decide_eq_true ⟨hscope, Or.inl hid.symm⟩⟩
  unfold budgetBoundAttempt at hbound
  split at hbound
  next h =>
    rw [h] at hin
    exact absurd hin List.not_mem_nil
  next attempt h =>
    rw [h] at hin
    rw [List.mem_singleton.1 hin]
    exact (Except.ok.inj hbound).symm
  next => cases hbound

theorem budgetBoundAttempt_mem {attempt : BillableRequestAttempt} {correlationId : Text}
    (hbound : store.budgetBoundAttempt now scope correlationId = .ok (some attempt)) :
    attempt ∈ store.billableRequests := by
  unfold budgetBoundAttempt at hbound
  split at hbound
  next => cases hbound
  next attempt' h =>
    cases hbound
    exact List.mem_of_mem_filter (h ▸ List.mem_singleton_self attempt)
  next => cases hbound

theorem budgetAdmittedAt_of_id {row : BillableRequestAttempt} {correlationId : Text}
    {fallback admitted : Int} (hrow : row ∈ store.scopeAttempts scope)
    (hid : correlationId = Text.ofUuid row.id)
    (hadmitted : store.budgetAdmittedAt now scope correlationId fallback = .ok admitted) :
    admitted = row.createdAt := by
  obtain ⟨bound, hbound, hrest⟩ := bind_eq_ok.1 hadmitted
  rw [budgetBoundAttempt_of_id hrow hid hbound] at hrest
  exact (Except.ok.inj hrest).symm

/-- What the loops accept for an attempt was admitted with it. -/
theorem accepted?_of_id {row : BillableRequestAttempt} {piece : Piece} {item : Accepted}
    (hrow : row ∈ store.scopeAttempts scope) (hpiece : piece ∈ store.pieces)
    (hitem : store.accepted? now scope piece = .ok (some item))
    (hid : item.identity = Text.ofUuid row.id) : item.admitted = row.createdAt := by
  have hmem := (mem_scopeAttempts.1 hrow).1
  have hsame : ∀ attempt ∈ store.billableRequests,
      Text.ofUuid attempt.id = Text.ofUuid row.id → attempt = row := fun attempt hattempt h =>
    List.inj_on_of_nodup_map store.attempts_nodup hattempt hmem (Text.uuid.inj h).1
  cases piece with
  | attempt attempt =>
      have hattempt : attempt ∈ store.billableRequests := by simpa [pieces] using hpiece
      simp only [accepted?] at hitem
      split at hitem
      next => cases hitem
      next =>
        split at hitem
        next =>
          obtain rfl := Option.some.inj (Except.ok.inj hitem)
          rw [hsame attempt hattempt hid]
        next => cases hitem
  | finalization item' =>
      simp only [accepted?] at hitem
      split at hitem
      next =>
        obtain ⟨bound, hbound, hrest⟩ := bind_eq_ok.1 hitem
        obtain ⟨admitted, hadmitted, hrest⟩ := bind_eq_ok.1 hrest
        obtain rfl := Option.some.inj (Except.ok.inj hrest)
        cases bound with
        | none =>
            have hbound' := budgetBoundAttempt_of_id hrow hid hbound
            cases hbound'
        | some attempt =>
            obtain ⟨bound', hbound', hrest'⟩ := bind_eq_ok.1 hadmitted
            obtain rfl : some attempt = bound' := Except.ok.inj (hbound.symm.trans hbound')
            have hattempt := budgetBoundAttempt_mem hbound
            rw [← hsame attempt hattempt hid]
            exact (Except.ok.inj hrest').symm
      next => cases hitem
  | usage record =>
      simp only [accepted?] at hitem
      split at hitem
      next =>
        split at hitem
        next => cases hitem
        next =>
          obtain ⟨⟨identity, admitted⟩, hidentity, hrest⟩ := bind_eq_ok.1 hitem
          obtain rfl := Option.some.inj (Except.ok.inj hrest)
          unfold budgetRecordIdentity at hidentity
          split at hidentity
          next attempt hfound =>
            obtain ⟨rfl, rfl⟩ := Prod.mk.inj (Except.ok.inj hidentity)
            rw [hsame attempt (List.mem_of_find?_eq_some hfound) hid]
          next =>
            obtain ⟨admitted', hadmitted, hrest⟩ := bind_eq_ok.1 hidentity
            obtain ⟨rfl, rfl⟩ := Prod.mk.inj (Except.ok.inj hrest)
            exact budgetAdmittedAt_of_id hrow hid hadmitted
      next => cases hitem

/-! ## Strict evidence -/

section

variable {choices : Choices} (hchoices : store.strictBudgetChoices now scope = .ok choices)
include hchoices

theorem mem_of_choices {i : Text} {item : Accepted} (h : choices.lookup i = some item) :
    ∃ piece ∈ store.pieces, store.accepted? now scope piece = .ok (some item) ∧
      store.strict now item.admitted = true ∧ item.identity = i := by
  obtain ⟨-, rfl⟩ := strictBudgetChoices_eq_ok.1 hchoices
  rw [Selection.lookup_foldl_keep] at h
  obtain ⟨hitem, hi⟩ := List.mem_filter.1 (List.argmin_mem h)
  obtain ⟨piece, hpiece, haccepted⟩ := List.mem_filterMap.1 hitem
  refine ⟨piece, hpiece, ?_⟩
  unfold strictAccepted? at haccepted
  split at haccepted
  next item' hok =>
    split at haccepted
    next hstrict =>
      cases haccepted
      exact ⟨hok, hstrict, of_decide_eq_true hi⟩
    next => cases haccepted
  next => cases haccepted

/-- The choice for an attempt was admitted with it, and the attempt is strict. -/
theorem admitted_of_choices {row : BillableRequestAttempt} {item : Accepted}
    (hrow : row ∈ store.scopeAttempts scope)
    (h : choices.lookup (Text.ofUuid row.id) = some item) :
    item.admitted = row.createdAt ∧ store.strict now row.createdAt = true := by
  obtain ⟨piece, hpiece, haccepted, hstrict, hid⟩ := mem_of_choices hchoices h
  have hadmitted := accepted?_of_id hrow hpiece haccepted hid
  rw [hadmitted] at hstrict
  exact ⟨hadmitted, hstrict⟩

theorem effective_of_strict {row : BillableRequestAttempt} (hrow : row ∈ store.scopeAttempts scope)
    (hstrict : store.strict now row.createdAt = true) :
    store.billableEffectiveTokens now row =
      .ok ((choices.lookup (Text.ofUuid row.id)).map (·.tokens)) := by
  rw [billableEffectiveTokens, if_pos hstrict, (mem_scopeAttempts.1 hrow).2, hchoices]
  rfl

/-- The strict choices are those of attempts, in the months of the attempts, and those
of other requests. -/
theorem total_choices_eq
    (hregular : ∀ row ∈ store.scopeAttempts scope, store.strict now row.createdAt = true →
      (store.effective now row).getD 0 ≠ 0 →
        (monthStart row.createdAt = period ↔ row.periodStart = period)) :
    Store.total (monthTokens period) choices =
      Store.total (monthTokens period)
        (Store.restrict (fun i => !decide (store.NamesAttempt scope i)) choices) +
      ((store.scopeAttempts scope).map fun row =>
        if store.strict now row.createdAt = true ∧ row.periodStart = period then
          (store.effective now row).getD 0 else 0).sum := by
  have hnodup : ((store.scopeAttempts scope).map fun row => Text.ofUuid row.id).Nodup := by
    have hids : ((store.scopeAttempts scope).map (·.id)).Nodup :=
      store.attempts_nodup.sublist (List.filter_sublist.map _)
    have hmap := hids.map (f := Text.ofUuid) fun a b h => (Text.uuid.inj h).1
    rwa [List.map_map] at hmap
  have hattempts : Store.total (monthTokens period)
      (Store.restrict (fun i => decide (store.NamesAttempt scope i)) choices) =
      ((store.scopeAttempts scope).map fun row =>
        if store.strict now row.createdAt = true ∧ row.periodStart = period then
          (store.effective now row).getD 0 else 0).sum := by
    rw [Store.total_eq_sum hnodup, List.map_map]
    · refine congrArg List.sum (List.map_congr_left fun row hrow => ?_)
      rw [Function.comp_apply, Store.lookup_restrict, if_pos (decide_eq_true ⟨row, hrow, rfl⟩)]
      cases hitem : choices.lookup (Text.ofUuid row.id) with
      | none =>
          rw [Store.share_none]
          split
          next h =>
            rw [effective, passed, effective_of_strict hchoices hrow h.1, hitem]
            rfl
          next => rfl
      | some item =>
          obtain ⟨hadmitted, hstrict⟩ := admitted_of_choices hchoices hrow hitem
          have heffective : store.effective now row = some item.tokens := by
            rw [effective, passed, effective_of_strict hchoices hrow hstrict, hitem]
            rfl
          rw [Store.share_some, monthTokens, hadmitted, heffective, Option.getD_some]
          by_cases htokens : item.tokens = 0
          · rw [htokens, ite_self, ite_self]
          · have hmonth := hregular row hrow hstrict (by rwa [heffective, Option.getD_some])
            exact if_congr (hmonth.trans (and_iff_right hstrict).symm) rfl rfl
    · intro i hi
      obtain ⟨item, hitem⟩ := Option.isSome_iff_exists.1 (AList.lookup_isSome.2 hi)
      rw [Store.lookup_restrict] at hitem
      split at hitem
      next h =>
        obtain ⟨row, hrow, rfl⟩ := of_decide_eq_true h
        exact List.mem_map_of_mem hrow
      next => cases hitem
  rw [← Store.total_restrict_add (monthTokens period)
    (fun i => decide (store.NamesAttempt scope i)) choices, hattempts]
  exact add_comm _ _

end

/-! ## Usage records -/

theorem canonical_eq {canonical : TokensByCorrelation}
    (hcanonical : store.canonicalTokens now scope period = .ok canonical) :
    canonical = (store.countedRecords now scope period).foldl
      (fun canonical record => canonical.insert record.correlationId record.totalTokens) ∅ :=
  (foldChecked_eq_ok.1 hcanonical).2

theorem attributedTokens_eq :
    store.attributedTokens now scope period =
      (store.attributedRecords now scope period).foldl
        (fun canonical record => canonical.insert record.correlationId record.totalTokens) ∅ :=
  rfl

/-- The adjustment takes the records of attempts out of the base total. -/
theorem total_canonical_eq {canonical : TokensByCorrelation}
    (hcanonical : store.canonicalTokens now scope period = .ok canonical)
    (hregular : store.RegularEvidence now scope period) :
    Store.total id canonical =
      Store.total id
        (Store.restrict (fun c => !decide (store.OfAttempt now scope period c)) canonical) +
      Store.total id (store.attributedTokens now scope period) := by
  have hattempts : Store.total id
      (Store.restrict (fun c => decide (store.OfAttempt now scope period c)) canonical) =
      Store.total id (store.attributedTokens now scope period) := by
    refine Store.total_congr fun c => ?_
    rw [Store.lookup_restrict, attributedTokens_eq, Store.lookup_foldl_insert]
    by_cases h : store.OfAttempt now scope period c
    · rw [if_pos (decide_eq_true h), canonical_eq hcanonical, Store.lookup_foldl_insert,
        Store.share_map, Store.share_map]
      exact hregular.counted c h
    · have hlast : Store.last TokenUsageRecord.correlationId
          (store.attributedRecords now scope period) c = none :=
        Store.last_eq_none.2 fun record hrecord hc => h (.inr ⟨record, hrecord, hc⟩)
      rw [if_neg (by simpa using h), hlast]
      rfl
  rw [← Store.total_restrict_add id (fun c => decide (store.OfAttempt now scope period c))
    canonical, hattempts]
  exact add_comm _ _

/-- For a person or an application, what is counted are records of the scope. -/
theorem mem_periodRecords_of_counted {record : TokenUsageRecord}
    (hscope : scope.scopeType ≠ .system) (hmem : record ∈ store.countedRecords now scope period) :
    record ∈ store.periodRecords scope period := by
  obtain ⟨record', hrecord', hpassed⟩ := List.mem_filterMap.1 hmem
  have hmatches : store.confirmedScopeMatches scope record' =
      store.billableScopeMatches record' scope := by
    unfold confirmedScopeMatches billableScopeMatches
    cases htype : scope.scopeType with
    | person => rfl
    | application => rfl
    | system => exact absurd htype hscope
  have hcounted : store.countedRecord? now scope period record' = .ok (some record) := by
    unfold passed at hpassed
    split at hpassed
    next c hc =>
      rw [hpassed] at hc
      exact hc
    next => cases hpassed
  unfold countedRecord? at hcounted
  split at hcounted
  next htest =>
    obtain ⟨isStrict, -, hrest⟩ := bind_eq_ok.1 hcounted
    rw [hmatches] at htest
    split at hrest
    next => cases hrest
    next =>
      rw [← Option.some.inj (Except.ok.inj hrest)]
      exact List.mem_filter.2 ⟨hrecord', decide_eq_true ⟨htest.1, htest.2.1, htest.2.2.1⟩⟩
  next => cases hcounted

theorem mem_canonical_iff {canonical : TokensByCorrelation} {c : Text}
    (hcanonical : store.canonicalTokens now scope period = .ok canonical) :
    c ∈ canonical ↔ ∃ record ∈ store.countedRecords now scope period, record.correlationId = c := by
  rw [← AList.lookup_isSome, canonical_eq hcanonical, Store.lookup_foldl_insert, Option.isSome_map,
    Option.isSome_iff_ne_none, ne_eq, Store.last_eq_none]
  push Not
  rfl

/-! ## Finalizations -/

/-- The test of `recovered`. -/
def Recovers (store : EvidenceStore) (now : Int) (scope : EvidenceScope) (period : Date)
    (item : BudgetReservationFinalization) : Prop :=
  item.scope = scope ∧ item.periodStart = period ∧
    (∃ row ∈ store.legacyAttempts now scope, item.correlationId = Text.ofUuid row.id) ∧
    (∀ record ∈ store.periodRecords scope period, item.correlationId ≠ record.correlationId) ∧
    item.finalizationKind ≠ .unverifiedUpperBound

instance (item : BudgetReservationFinalization) :
    Decidable (Recovers store now scope period item) :=
  inferInstanceAs (Decidable (_ ∧ _))

theorem recoveredAttempts_eq :
    store.recoveredAttempts now scope period =
      (store.budgetReservationFinalizations.filter fun item =>
        Recovers store now scope period item).foldl
        (Selection.keep (fun item => item.correlationId) fun item =>
          OrderDual.toDual (decide (item.finalizationKind = .exactUsage))) ∅ := by
  rw [List.foldl_filter, recoveredAttempts]
  congr 1
  funext recovered item
  have hiff : (item.scope ≠ scope ∨ item.periodStart ≠ period ∨
      (∀ attempt ∈ store.legacyAttempts now scope, item.correlationId ≠ Text.ofUuid attempt.id) ∨
      (∃ record ∈ store.periodRecords scope period, item.correlationId = record.correlationId) ∨
      item.finalizationKind = .unverifiedUpperBound) ↔ ¬Recovers store now scope period item := by
    unfold Recovers
    grind
  by_cases h : Recovers store now scope period item
  · rw [if_neg fun hskip => hiff.1 hskip h, if_pos (decide_eq_true h), Selection.keep]
    cases recovered.lookup item.correlationId with
    | none => rfl
    | some prior =>
        refine if_congr ?_ rfl rfl
        rw [OrderDual.toDual_lt_toDual, Bool.lt_iff]
        simp [and_comm]
  · rw [if_pos (hiff.2 h), if_neg (by simpa using h)]

theorem strongest_eq {canonical : TokensByCorrelation} {strongest : FinalizationsByCorrelation}
    (hstrongest :
      store.strongestFinalizations now scope period canonical = .ok strongest) :
    (∀ item ∈ store.budgetReservationFinalizations, ∃ c,
      store.countedFinalization? now scope period canonical item = .ok c) ∧
    strongest = (store.budgetReservationFinalizations.filterMap
        (passed (store.countedFinalization? now scope period canonical))).foldl
      (Selection.keep (fun item => item.correlationId) fun item =>
        OrderDual.toDual (strength item.finalizationKind)) ∅ := by
  obtain ⟨hreturned, rfl⟩ := foldChecked_eq_ok.1 hstrongest
  refine ⟨hreturned, ?_⟩
  congr 1
  funext strongest item
  rw [Selection.keep]
  cases strongest.lookup item.correlationId with
  | none => rfl
  | some existing => rfl

theorem strength_lt_iff {a b : ReservationFinalizationKind} (ha : a ≠ .unverifiedUpperBound)
    (hb : b ≠ .unverifiedUpperBound) :
    strength a < strength b ↔ decide (a = .exactUsage) < decide (b = .exactUsage) := by
  revert ha hb
  cases a <;> cases b <;> decide

theorem eq_of_counted {canonical : TokensByCorrelation} {item item' : BudgetReservationFinalization}
    (h : store.countedFinalization? now scope period canonical item = .ok (some item')) :
    item' = item := by
  unfold countedFinalization? at h
  split at h
  next => cases h
  next =>
    obtain ⟨admitted, -, hrest⟩ := bind_eq_ok.1 h
    split at hrest
    next => cases hrest
    next => exact (Option.some.inj (Except.ok.inj hrest)).symm

/-- A finalization under the identifier of an attempt that the base total counts. -/
theorem counted_of_attempt {canonical : TokensByCorrelation} {row : BillableRequestAttempt}
    {item : BudgetReservationFinalization} {c : Option BudgetReservationFinalization}
    (hrow : row ∈ store.scopeAttempts scope) (hid : item.correlationId = Text.ofUuid row.id)
    (hc : store.countedFinalization? now scope period canonical item = .ok c) :
    c = if item.scope = scope ∧ item.periodStart = period ∧
        item.finalizationKind ≠ .unverifiedUpperBound ∧ Text.ofUuid row.id ∉ canonical ∧
        store.strict now row.createdAt = false then some item else none := by
  unfold countedFinalization? at hc
  rw [← hid]
  split at hc
  next hskip =>
    rw [← Except.ok.inj hc]
    refine (if_neg ?_).symm
    rintro ⟨hitem, hperiod, hkind, hnot, -⟩
    rcases hskip with h | h | h | h
    · exact h hitem
    · exact h hperiod
    · exact hnot h
    · exact hkind h
  next hcount =>
    simp only [not_or, ne_eq, not_not] at hcount
    obtain ⟨hitem, hperiod, hnot, hkind⟩ := hcount
    obtain ⟨admitted, hadmitted, hrest⟩ := bind_eq_ok.1 hc
    rw [budgetAdmittedAt_of_id hrow hid hadmitted] at hrest
    rw [← Except.ok.inj hrest]
    cases hstrict : store.strict now row.createdAt with
    | true =>
        refine (if_neg ?_).symm
        rintro ⟨-, -, -, -, h⟩
        cases h
    | false => exact (if_pos ⟨hitem, hperiod, hkind, hnot, rfl⟩).symm

/-- What the base total has under the identifier of an attempt. -/
theorem lookup_strongest {canonical : TokensByCorrelation} {strongest : FinalizationsByCorrelation}
    {row : BillableRequestAttempt}
    (hstrongest : store.strongestFinalizations now scope period canonical = .ok strongest)
    (hrow : row ∈ store.scopeAttempts scope) :
    strongest.lookup (Text.ofUuid row.id) =
      if Text.ofUuid row.id ∉ canonical ∧ store.strict now row.createdAt = false then
        store.recovery scope period (Text.ofUuid row.id) else none := by
  obtain ⟨hreturned, hfold⟩ := strongest_eq hstrongest
  have hlists : (store.budgetReservationFinalizations.filterMap
        (passed (store.countedFinalization? now scope period canonical))).filter
        (fun item => decide (item.correlationId = Text.ofUuid row.id)) =
      store.budgetReservationFinalizations.filter fun item => decide ((item.scope = scope ∧
        item.periodStart = period ∧ item.finalizationKind ≠ .unverifiedUpperBound ∧
        item.correlationId = Text.ofUuid row.id) ∧
        Text.ofUuid row.id ∉ canonical ∧ store.strict now row.createdAt = false) := by
    rw [List.filter_filterMap, ← List.filterMap_eq_filter]
    refine List.filterMap_congr fun item hitem => ?_
    obtain ⟨counted, hcounted⟩ := hreturned item hitem
    have hpassed :
        passed (store.countedFinalization? now scope period canonical) item = counted := by
      rw [passed, hcounted]
    rw [hpassed, Option.guard]
    by_cases hid : item.correlationId = Text.ofUuid row.id
    · rw [counted_of_attempt hrow hid hcounted]
      split
      next h => simp [hid, h]
      next h =>
        rw [if_neg]
        · rfl
        · rw [decide_eq_true_iff]
          tauto
    · cases counted with
      | none => simp [hid]
      | some item' => simp [eq_of_counted hcounted, hid]
  rw [hfold, Selection.lookup_foldl_keep, hlists]
  by_cases h : Text.ofUuid row.id ∉ canonical ∧ store.strict now row.createdAt = false
  · simp only [h, and_true, if_true, not_false_eq_true]
    refine Selection.argmin_congr fun a ha b hb => ?_
    obtain ⟨-, ha⟩ := List.mem_filter.1 ha
    obtain ⟨-, hb⟩ := List.mem_filter.1 hb
    exact strength_lt_iff (of_decide_eq_true hb).2.2.1 (of_decide_eq_true ha).2.2.1
  · rw [if_neg h, List.argmin_eq_none, List.filter_eq_nil_iff]
    intro item _ hitem
    exact h (of_decide_eq_true hitem).2

/-- What the adjustment takes out under a correlation. -/
theorem lookup_recovered (c : Text) :
    (store.recoveredAttempts now scope period).lookup c =
      if (∃ row ∈ store.legacyAttempts now scope, c = Text.ofUuid row.id) ∧
          ∀ record ∈ store.periodRecords scope period, c ≠ record.correlationId then
        store.recovery scope period c else none := by
  rw [recoveredAttempts_eq, Selection.lookup_foldl_keep, List.filter_filter]
  split
  next h =>
    rw [recovery]
    refine congrArg (List.argmin _) (List.filter_congr fun item _ => ?_)
    rw [← Bool.decide_and, decide_eq_decide]
    constructor
    · rintro ⟨hid, hitem, hperiod, -, -, hkind⟩
      exact ⟨hitem, hperiod, hkind, hid⟩
    · rintro ⟨hitem, hperiod, hkind, rfl⟩
      exact ⟨rfl, hitem, hperiod, h.1, h.2, hkind⟩
  next h =>
    rw [List.argmin_eq_none, List.filter_eq_nil_iff]
    intro item _ hitem
    rw [← Bool.decide_and, decide_eq_true_iff] at hitem
    obtain ⟨rfl, -, -, hrow, hrecords, -⟩ := hitem
    exact h ⟨hrow, hrecords⟩

/-- The adjustment takes the finalizations of attempts out of the base total. -/
theorem total_strongest_eq {canonical : TokensByCorrelation}
    {strongest : FinalizationsByCorrelation}
    (hcanonical : store.canonicalTokens now scope period = .ok canonical)
    (hstrongest : store.strongestFinalizations now scope period canonical = .ok strongest)
    (hscope : scope.scopeType ≠ .system) (hregular : store.RegularEvidence now scope period) :
    Store.total (·.totalTokens) strongest =
      Store.total (·.totalTokens)
        (Store.restrict (fun c => !decide (store.NamesAttempt scope c)) strongest) +
      Store.total (·.totalTokens) (store.recoveredAttempts now scope period) := by
  have hattempts : Store.total (·.totalTokens)
      (Store.restrict (fun c => decide (store.NamesAttempt scope c)) strongest) =
      Store.total (·.totalTokens) (store.recoveredAttempts now scope period) := by
    refine Store.total_congr fun c => ?_
    rw [Store.lookup_restrict]
    by_cases h : store.NamesAttempt scope c
    · rw [if_pos (decide_eq_true h)]
      obtain ⟨row, hrow, rfl⟩ := h
      rw [lookup_strongest hstrongest hrow]
      cases hstrict : store.strict now row.createdAt with
      | true =>
          rw [if_neg fun h => Bool.noConfusion h.2, lookup_recovered, if_neg]
          rintro ⟨⟨attempt, hattempt, hid⟩, -⟩
          obtain ⟨hattempt, hlegacy⟩ := mem_legacyAttempts.1 hattempt
          rw [List.inj_on_of_nodup_map store.attempts_nodup (mem_scopeAttempts.1 hrow).1
            (mem_scopeAttempts.1 hattempt).1 (Text.uuid.inj hid).1, hlegacy] at hstrict
          cases hstrict
      | false =>
          have hlegacy := mem_legacyAttempts.2 ⟨hrow, hstrict⟩
          by_cases hrecord : ∃ record ∈ store.periodRecords scope period,
              record.correlationId = Text.ofUuid row.id
          · -- The adjustment leaves the finalizations alone.
            have hrecovered :
                (store.recoveredAttempts now scope period).lookup (Text.ofUuid row.id) = none := by
              obtain ⟨record, hmem, hid⟩ := hrecord
              rw [lookup_recovered, if_neg]
              rintro ⟨-, hno⟩
              exact hno record hmem hid.symm
            rw [hrecovered, Store.share_none]
            split
            next hnot =>
              refine hregular.finalized row hlegacy hrecord fun record hmem hid => hnot.1 ?_
              exact (mem_canonical_iff hcanonical).2 ⟨record, hmem, hid⟩
            next => rfl
          · push Not at hrecord
            rw [lookup_recovered, if_pos, if_pos]
            · exact ⟨⟨row, hlegacy, rfl⟩, fun record hmem => (hrecord record hmem).symm⟩
            · refine ⟨fun hin => ?_, rfl⟩
              obtain ⟨record, hmem, hid⟩ := (mem_canonical_iff hcanonical).1 hin
              exact hrecord record (mem_periodRecords_of_counted hscope hmem) hid
    · rw [if_neg (by simpa using h), lookup_recovered, if_neg]
      rintro ⟨⟨row, hrow, hid⟩, -⟩
      exact h ⟨row, (mem_legacyAttempts.1 hrow).1, hid⟩
  rw [← Store.total_restrict_add (fun item : BudgetReservationFinalization => item.totalTokens)
    (fun c => decide (store.NamesAttempt scope c)) strongest, hattempts]
  exact add_comm _ _

/-! ## Every attempt counts once -/

theorem legacyAttempts_eq :
    store.legacyAttempts now scope =
      (store.scopeAttempts scope).filter fun row => store.strict now row.createdAt = false := by
  rw [scopeAttempts, legacyAttempts, List.filter_filter]
  refine List.filter_congr fun row _ => ?_
  rw [Bool.decide_and, Bool.and_comm]

theorem adjustment_eq {adjustment : Int}
    (h : store.billableBudgetAdjustment now scope period = .ok adjustment) :
    adjustment = ((store.scopeAttempts scope).map fun row =>
        if store.strict now row.createdAt = false ∧ row.periodStart = period then
          (store.effective now row).getD 0 else 0).sum -
      Store.total id (store.attributedTokens now scope period) -
      Store.total (·.totalTokens) (store.recoveredAttempts now scope period) := by
  obtain ⟨effective', heffective, hrest⟩ := bind_eq_ok.1 h
  have hlist := mapM_eq_map (g := store.effective now) heffective fun row _ tokens htokens => by
    rw [effective, passed, htokens]
  rw [← Except.ok.inj hrest, hlist, List.map_map, legacyAttempts_eq, List.filter_filter,
    Store.sum_map_filter]
  refine congrArg (fun total => total - _ - _) (congrArg List.sum (List.map_congr_left ?_))
  intro row _
  refine if_congr ?_ rfl rfl
  simp [and_comm]

/-- The confirmed tokens have the effective tokens of every attempt of the month once. -/
theorem confirmed_eq {used : Int} (hscope : scope.scopeType ≠ .system)
    (hregular : store.RegularEvidence now scope period)
    (hused : store.budgetScopeConfirmedTokens now scope period = .ok used) :
    ∃ ordinary, store.ordinaryTokens now scope period = .ok ordinary ∧
      used = ordinary +
        ((store.periodAttempts scope period).map fun row =>
          (store.effective now row).getD 0).sum := by
  obtain ⟨canonical, hcanonical, hrest⟩ := bind_eq_ok.1 hused
  obtain ⟨strongest, hstrongest, hrest⟩ := bind_eq_ok.1 hrest
  obtain ⟨choices, hchoices, hrest⟩ := bind_eq_ok.1 hrest
  obtain ⟨adjustment, hadjustment, hrest⟩ := bind_eq_ok.1 hrest
  have hsum : ((store.periodAttempts scope period).map fun row =>
        (store.effective now row).getD 0).sum =
      ((store.scopeAttempts scope).map fun row =>
        if store.strict now row.createdAt = true ∧ row.periodStart = period then
          (store.effective now row).getD 0 else 0).sum +
      ((store.scopeAttempts scope).map fun row =>
        if store.strict now row.createdAt = false ∧ row.periodStart = period then
          (store.effective now row).getD 0 else 0).sum := by
    rw [periodAttempts, Store.sum_map_filter, ← List.sum_map_add]
    refine congrArg List.sum (List.map_congr_left fun row _ => ?_)
    cases store.strict now row.createdAt <;> simp
  refine ⟨_, bind_eq_ok.2 ⟨canonical, hcanonical, bind_eq_ok.2 ⟨strongest, hstrongest,
    bind_eq_ok.2 ⟨choices, hchoices, rfl⟩⟩⟩, ?_⟩
  rw [← Except.ok.inj hrest, total_canonical_eq hcanonical hregular,
    total_strongest_eq hcanonical hstrongest hscope hregular,
    total_choices_eq hchoices hregular.admitted, adjustment_eq hadjustment, hsum]
  ring

/-- An acknowledgement is evidence, whatever else there is. -/
theorem lookup_of_acknowledged {choices : Choices} {row : BillableRequestAttempt} {tokens : Int}
    (hchoices : store.strictBudgetChoices now scope = .ok choices)
    (hrow : row ∈ store.scopeAttempts scope) (htokens : row.actualTokens = some tokens)
    (hstrict : store.strict now row.createdAt = true) :
    choices.lookup (Text.ofUuid row.id) ≠ none := by
  obtain ⟨hmem, hscope⟩ := mem_scopeAttempts.1 hrow
  obtain ⟨-, rfl⟩ := strictBudgetChoices_eq_ok.1 hchoices
  rw [Selection.lookup_foldl_keep]
  intro hnone
  have hpiece : Piece.attempt row ∈ store.pieces := by simpa [pieces] using hmem
  have haccepted : store.strictAccepted? now scope (.attempt row) =
      some ⟨⟨Text.ofUuid row.id, tokens, 2, row.updatedAt⟩, row.createdAt⟩ := by
    simp [strictAccepted?, accepted?, htokens, hscope, hstrict]
  have hin := List.mem_filterMap.2 ⟨_, hpiece, haccepted⟩
  rw [List.argmin_eq_none, List.filter_eq_nil_iff] at hnone
  exact hnone _ hin (decide_eq_true rfl)

/-- An attempt with an exact acknowledgement has effective tokens. -/
theorem effective_of_exact {choices : Choices} {row : BillableRequestAttempt}
    (hchoices : store.strictBudgetChoices now scope = .ok choices)
    (hrow : row ∈ store.scopeAttempts scope) (hexact : row.state = .exact) :
    store.effective now row ≠ none := by
  obtain ⟨tokens, htokens⟩ := Option.ne_none_iff_exists'.1 (row.measured.1 hexact)
  by_cases hstrict : store.strict now row.createdAt = true
  · rw [effective, passed, effective_of_strict hchoices hrow hstrict]
    simpa using lookup_of_acknowledged hchoices hrow htokens hstrict
  · rw [effective, passed, billableEffectiveTokens, if_neg hstrict]
    cases store.billableCanonicalTokens now row with
    | some canonical => exact Option.some_ne_none _
    | none =>
        rw [if_pos hexact, htokens]
        exact Option.some_ne_none _

/-- What is pending: the reservations of the attempts without effective tokens. -/
theorem pending_eq {choices : Choices} {pending : Int}
    (hchoices : store.strictBudgetChoices now scope = .ok choices)
    (hpending : store.pendingTokens now scope period = .ok pending) :
    pending = ((store.periodAttempts scope period).map fun row =>
      if store.effective now row = none ∧ ¬row.Delegated then row.reservedTokens else 0).sum := by
  obtain ⟨reserved, hreserved, hrest⟩ := bind_eq_ok.1 hpending
  have hlist := mapM_eq_map (g := fun row =>
    if store.effective now row = none then row.reservedTokens else 0) hreserved
    fun row _ tokens htokens => by
      obtain ⟨tokens', htokens', hrest⟩ := bind_eq_ok.1 htokens
      rw [effective, passed, htokens']
      exact (Except.ok.inj hrest).symm
  have hreservations : store.reservations scope period =
      (store.periodAttempts scope period).filter fun row =>
        ¬row.Delegated ∧ row.state ≠ .exact := by
    rw [periodAttempts, scopeAttempts, reservations, List.filter_filter, List.filter_filter]
    refine List.filter_congr fun row _ => ?_
    simp only [← Bool.decide_and, decide_eq_decide]
    tauto
  rw [← Except.ok.inj hrest, hlist, hreservations, Store.sum_map_filter]
  refine congrArg List.sum (List.map_congr_left fun row hrow => ?_)
  have hexact := effective_of_exact hchoices (List.mem_of_mem_filter hrow)
  by_cases hnone : store.effective now row = none
  · have hstate : row.state ≠ .exact := fun h => hexact h hnone
    simp [hnone, hstate]
  · simp [hnone]

theorem choices_of_confirmed {used : Int}
    (hused : store.budgetScopeConfirmedTokens now scope period = .ok used) :
    ∃ choices, store.strictBudgetChoices now scope = .ok choices := by
  obtain ⟨canonical, -, hrest⟩ := bind_eq_ok.1 hused
  obtain ⟨strongest, -, hrest⟩ := bind_eq_ok.1 hrest
  obtain ⟨choices, hchoices, -⟩ := bind_eq_ok.1 hrest
  exact ⟨choices, hchoices⟩

/-- The reservations of the attempts of the month that have no effective tokens. -/
def uncountedTokens (store : EvidenceStore) (now : Int) (scope : EvidenceScope) (period : Date) :
    Int :=
  ((store.periodAttempts scope period).map fun row =>
    if store.effective now row = none then row.reservedTokens else 0).sum

/-- With the reservations that nothing has settled, every attempt of the month counts once. -/
theorem confirmed_add_uncounted_eq {used : Int} (hscope : scope.scopeType ≠ .system)
    (hregular : store.RegularEvidence now scope period)
    (hused : store.budgetScopeConfirmedTokens now scope period = .ok used) :
    ∃ ordinary, store.ordinaryTokens now scope period = .ok ordinary ∧
      used + store.uncountedTokens now scope period =
        ordinary + ((store.periodAttempts scope period).map (store.charge now)).sum := by
  obtain ⟨ordinary, hordinary, hused'⟩ := confirmed_eq hscope hregular hused
  refine ⟨ordinary, hordinary, ?_⟩
  rw [hused', uncountedTokens, add_assoc, ← List.sum_map_add]
  refine congrArg (ordinary + ·) (congrArg List.sum (List.map_congr_left fun row _ => ?_))
  rw [charge]
  cases store.effective now row with
  | none => simp
  | some tokens => simp

/-- Nothing is missing from what is pending where the gateway holds no reservation. -/
theorem pending_eq_uncounted {choices : Choices} {pending : Int}
    (hchoices : store.strictBudgetChoices now scope = .ok choices)
    (hpending : store.pendingTokens now scope period = .ok pending)
    (hheld : ∀ row ∈ store.periodAttempts scope period, store.effective now row = none →
      ¬row.Delegated) : pending = store.uncountedTokens now scope period := by
  rw [pending_eq hchoices hpending, uncountedTokens]
  refine congrArg List.sum (List.map_congr_left fun row hrow => if_congr ?_ rfl rfl)
  exact and_iff_left_of_imp (hheld row hrow)

end EvidenceStore

end Turnstile
