import Mathlib.Algebra.BigOperators.Ring.List
import Turnstile.Persistence.BudgetHierarchy

/-!
# Unit switches in the budget hierarchy

A unit switch gives the rows of an organization's tree new limits, level by level.  In tokens
each new limit is the whole number below the exact share of the parent's new limit, although
the share is computed with fifty digits only; so the shares of children, which add up to at
most the whole, keep the parent's limit.  In USD the new limits are rounded to the nearest
dollar and at least one, and their sums are compared with the parents'.
-/

namespace Turnstile

open Guard Procedure BudgetRow

/-! ## A limit -/

/-- A number that is rounded down to a positive one is rounded to the floor. -/
theorem roundDown_of_pos {x : ℚ} (h : 0 < roundDown x) : roundDown x = ⌊x⌋ := by
  unfold roundDown at *
  split at h
  next hx => rw [if_pos hx]
  next hx =>
    have hceil : ⌈x⌉ ≤ 0 := Int.ceil_le.2 (by exact_mod_cast (not_le.1 hx).le)
    omega

theorem quantized_eq {c : DecimalContext} {value result : ℤ} (h : quantized c value = .ok result) :
    result = value := by
  unfold quantized at h
  split at h
  next => exact (Except.ok.inj h).symm
  next => cases h

theorem proportionalValue_pos {mode : BudgetMode} {parentNew row parent : ℚ} {value : ℤ}
    (h : proportionalValue mode parentNew row parent = .ok value) : 0 < value := by
  unfold proportionalValue at h
  simp only at h
  split at h
  · obtain ⟨rounded, -, h⟩ := bind_eq_ok.1 h
    obtain ⟨hpos, h⟩ := require_bind_eq_ok.1 h
    exact Except.ok.inj h ▸ hpos
  · obtain ⟨rounded, -, h⟩ := bind_eq_ok.1 h
    obtain ⟨hpos, h⟩ := require_bind_eq_ok.1 h
    exact Except.ok.inj h ▸ hpos

theorem proportionalValue_floor {parentNew row parent : ℚ} {value : ℤ}
    (h : proportionalValue .tokens parentNew row parent = .ok value) :
    value = ⌊localContext.quotient (localContext.value (parentNew * row)) parent⌋ := by
  have hpos := proportionalValue_pos h
  unfold proportionalValue at h
  simp only [reduceCtorEq, false_and, if_false] at h
  obtain ⟨rounded, hrounded, h⟩ := bind_eq_ok.1 h
  obtain ⟨-, h⟩ := require_bind_eq_ok.1 h
  obtain rfl := Except.ok.inj h
  have heq := quantized_eq hrounded
  rw [heq] at hpos ⊢
  exact roundDown_of_pos hpos

/-- The new limit in tokens is at most the exact share. -/
theorem proportionalValue_tokens {parentNew row parent value : ℤ} (hnew : Fair .tokens parentNew)
    (hrow : Fair .usd row) (hparent : Fair .usd parent)
    (h : proportionalValue .tokens parentNew (usdDecimal row) (usdDecimal parent) = .ok value) :
    value * parent ≤ parentNew * row := by
  obtain ⟨hnewpos, hnewlt, -⟩ := hnew
  obtain ⟨hrowpos, hrowlt, hrowdvd⟩ := hrow
  obtain ⟨hparpos, hparlt, hpardvd⟩ := hparent
  obtain ⟨c, rfl⟩ := hrowdvd rfl
  obtain ⟨b, rfl⟩ := hpardvd rfl
  have hc : 0 < c := by omega
  have hc' : c < 10 ^ 18 := by omega
  have hb : 0 < b := by omega
  have hb' : (b : ℚ) ≠ 0 := by exact_mod_cast hb.ne'
  have hprod : parentNew * c < 10 ^ 48 :=
    calc parentNew * c < 10 ^ 30 * c := mul_lt_mul_of_pos_right hnewlt hc
      _ < 10 ^ 30 * 10 ^ 18 := mul_lt_mul_of_pos_left hc' (by decide)
      _ = 10 ^ 48 := by decide
  have hprodpos : 0 < parentNew * c := mul_pos hnewpos hc
  -- The product is exact, in cents.
  have hproduct : localContext.value (parentNew * usdDecimal (10 ^ 12 * c)) =
      ((parentNew * c : ℤ) : ℚ) / 10 ^ 2 := by
    have hcents :
        (parentNew : ℚ) * usdDecimal (10 ^ 12 * c) = ((parentNew * c : ℤ) : ℚ) / 10 ^ 2 := by
      rw [usdDecimal]
      push_cast
      ring
    have habs : ((parentNew * c).natAbs : ℤ) < 10 ^ 50 := by
      rw [Int.natAbs_of_nonneg hprodpos.le]
      exact hprod.trans (by decide)
    rw [hcents]
    exact Rounding.roundRat_of_lt (by decide) (by exact_mod_cast habs) rfl
  have hshare : localContext.quotient (localContext.value (parentNew * usdDecimal (10 ^ 12 * c)))
      (usdDecimal (10 ^ 12 * b)) = Rounding.quotientTo 50 ((parentNew * c : ℤ) / (b : ℤ)) := by
    rw [hproduct, DecimalContext.quotient, usdDecimal]
    congr 1
    push_cast
    field_simp
    norm_num
  have hsharepos : (0 : ℚ) < (parentNew * c : ℤ) / (b : ℤ) :=
    div_pos (by exact_mod_cast hprodpos) (by exact_mod_cast hb)
  have hsmall : ((parentNew * c : ℤ) / (b : ℤ) : ℚ) * (b : ℤ) < 10 ^ ((50 : ℕ) - 1 : ℤ) := by
    have hlt : ((parentNew * c : ℤ) : ℚ) < 10 ^ 48 := by exact_mod_cast hprod
    rw [div_mul_cancel₀ _ hb']
    refine hlt.trans ?_
    norm_num
  have hfloor := Rounding.floor_quotientTo_le hsharepos hb rfl hsmall
  rw [← hshare, ← proportionalValue_floor h, le_div_iff₀ (by exact_mod_cast hb)] at hfloor
  have hint : value * b ≤ parentNew * c := by exact_mod_cast hfloor
  calc value * (10 ^ 12 * b) = 10 ^ 12 * (value * b) := by ring
    _ ≤ 10 ^ 12 * (parentNew * c) := by omega
    _ = parentNew * (10 ^ 12 * c) := by ring

/-! ## A row -/

theorem wholeLimit_pos {mode : BudgetMode} {value : ℤ} (h : 0 < value) :
    0 < wholeLimit mode value := by
  cases mode with
  | tokens => exact h
  | usd => exact mul_pos h (by decide)

theorem dvd_wholeLimit {mode : BudgetMode} (value : ℤ) (h : mode = .usd) :
    10 ^ 12 ∣ wholeLimit mode value := by
  rw [h]
  exact Dvd.dvd.mul_left (by decide) value

/-- A row and its parent, each with its new row. -/
structure Rescaled (previousMode mode : BudgetMode) (pair : BudgetRow × BudgetRow) : Prop where
  old : pair.1.Regular
  oldMode : pair.1.budgetMode = previousMode
  new : pair.2.Regular
  newMode : pair.2.budgetMode = mode
  key : pair.2.key = pair.1.key
  parent : pair.2.parentScopeId = pair.1.parentScopeId

/-- The new row of a department or a user, and in tokens at most its exact share. -/
theorem proportionalRow_ok {previousMode mode : BudgetMode} (hne : previousMode ≠ mode)
    {parent : BudgetRow × BudgetRow} (hparent : Rescaled previousMode mode parent)
    {row new : BudgetRow} (hrow : row.Regular)
    (h : proportionalRow previousMode mode parent.1 parent.2 row = .ok new) :
    row.budgetMode = previousMode ∧ ∃ value, 0 < value ∧
      new = row.withLimit mode (wholeLimit mode value) ∧
      (mode = .tokens → new.amount * parent.1.amount ≤ parent.2.amount * row.amount) := by
  unfold proportionalRow at h
  obtain ⟨hmode, h⟩ := require_bind_eq_ok.1 h
  have hold := limit_budgetMode hparent.old
  have hnew := limit_budgetMode hparent.new
  have hown := limit_budgetMode hrow
  rw [hparent.oldMode] at hold
  rw [hparent.newMode] at hnew
  rw [hmode] at hown
  rw [hold, hnew, hown] at h
  obtain ⟨-, h⟩ := require_bind_eq_ok.1 h
  obtain ⟨value, hvalue, h⟩ := bind_eq_ok.1 h
  obtain rfl := Except.ok.inj h
  refine ⟨hmode, value, proportionalValue_pos hvalue, rfl, ?_⟩
  rintro rfl
  cases previousMode with
  | tokens => exact absurd rfl hne
  | usd =>
      rw [amount_withLimit]
      exact proportionalValue_tokens (hparent.newMode ▸ hparent.new.fair) (hmode ▸ hrow.fair)
        (hparent.oldMode ▸ hparent.old.fair) hvalue

/-! ## A level -/

theorem proportionalRows_ok {previousMode mode : BudgetMode}
    {parents : List (BudgetRow × BudgetRow)}
    {rows : List BudgetRow} {children : List (BudgetRow × BudgetRow)}
    (h : proportionalRows previousMode mode parents rows = .ok children) :
    children.map (·.1) = rows ∧ ∀ child ∈ children, ∃ parent ∈ parents,
      some parent.1.scopeId = child.1.parentScopeId ∧
        proportionalRow previousMode mode parent.1 parent.2 child.1 = .ok child.2 := by
  unfold proportionalRows at h
  induction rows generalizing children with
  | nil =>
      rw [List.mapM_nil] at h
      obtain rfl := Except.ok.inj h
      exact ⟨rfl, fun child hchild => absurd hchild List.not_mem_nil⟩
  | cons row rows ih =>
      rw [List.mapM_cons] at h
      obtain ⟨child, hchild, h⟩ := bind_eq_ok.1 h
      obtain ⟨rest, hrest, h⟩ := bind_eq_ok.1 h
      obtain rfl := Except.ok.inj h
      obtain ⟨hmap, hall⟩ := ih hrest
      split at hchild
      next original updated hfind =>
        obtain ⟨new, hnew, hchild⟩ := bind_eq_ok.1 hchild
        obtain rfl := Except.ok.inj hchild
        refine ⟨by rw [List.map_cons, hmap], List.forall_mem_cons.2 ⟨?_, hall⟩⟩
        have hid := List.find?_some hfind
        exact ⟨(original, updated), List.mem_of_find?_eq_some hfind, of_decide_eq_true hid, hnew⟩
      next => cases hchild

/-- The rows under one parent, among rows of one level. -/
def childrenOf (parent : BudgetRow) (pairs : List (BudgetRow × BudgetRow)) :
    List (BudgetRow × BudgetRow) :=
  pairs.filter fun child => child.1.parentScopeId = some parent.scopeId

/-- What the check of a parent says: the new limits are at most the parent's. -/
theorem checkAllocated_ok {children : List (BudgetRow × BudgetRow)} {parent : BudgetRow}
    (hchildren : ∀ child ∈ children, ∃ value, 0 < value ∧
      child.2 = child.1.withLimit .usd (wholeLimit .usd value))
    (hparent : parent.Regular) (hmode : parent.budgetMode = .usd)
    (h : checkAllocated children parent = .ok ()) :
    ((childrenOf parent children).map fun child => child.2.amount).sum ≤ parent.amount := by
  have hlimits : (childrenOf parent children).filterMap (fun child => child.2.usdLimit) =
      (childrenOf parent children).map fun child => child.2.amount := by
    rw [← List.filterMap_eq_map]
    refine List.filterMap_congr fun child hchild => ?_
    obtain ⟨value, -, heq⟩ := hchildren child (List.mem_of_mem_filter hchild)
    rw [Function.comp_apply, heq, amount_withLimit]
    exact limit_withLimit child.1 .usd _
  have hlimit : parent.usdLimit.getD 0 = parent.amount := by
    have hown := limit_budgetMode hparent
    rw [hmode] at hown
    change (parent.limit .usd).getD 0 = _
    rw [hown]
    rfl
  unfold checkAllocated at h
  have hshortfall := require_eq_ok.1 h
  change localContext.sub (sumLimits localContext .usd ((childrenOf parent children).filterMap
    fun child => child.2.usdLimit)) (parent.usdLimit.getD 0) ≤ 0 at hshortfall
  rw [hlimits, hlimit] at hshortfall
  have hle : sumLimits localContext .usd ((childrenOf parent children).map fun child =>
      child.2.amount) ≤ parent.amount := by
    by_contra hlarge
    have hone := Rounding.pow_le_roundTo (p := 50) (m := 0) (by decide)
      (x := sumLimits localContext .usd ((childrenOf parent children).map fun child =>
        child.2.amount) - parent.amount) (by rw [pow_zero]; omega)
    rw [pow_zero] at hone
    exact absurd (hone.trans hshortfall) (by decide)
  have hsum := Rounding.sumTo_le (p := 50) (e := 12) (by decide)
    (hparent.fair.2.1.trans (by decide)) (fun limit hlimit => ?_) hle
  · exact hsum ▸ hle
  · obtain ⟨child, hchild, rfl⟩ := List.mem_map.1 hlimit
    obtain ⟨value, hvalue, heq⟩ := hchildren child (List.mem_of_mem_filter hchild)
    rw [heq, amount_withLimit]
    exact ⟨(wholeLimit_pos hvalue).le, dvd_wholeLimit value rfl⟩

section Level

variable {previousMode mode : BudgetMode} {parents children : List (BudgetRow × BudgetRow)}
  {rows : List BudgetRow}

/-- Every parent of a child is checked. -/
theorem checkAllocations_ok (hinj : ∀ p ∈ parents, ∀ q ∈ parents, p.1.scopeId = q.1.scopeId → p = q)
    (h : checkAllocations parents children = .ok ()) {parent child : BudgetRow × BudgetRow}
    (hparent : parent ∈ parents) (hchild : child ∈ children)
    (hid : child.1.parentScopeId = some parent.1.scopeId) :
    checkAllocated children parent.2 = .ok () := by
  have hcheck := forM_eq_ok.1 h child hchild
  split at hcheck
  next found hfind =>
    have hfound : some found.1.scopeId = child.1.parentScopeId := by
      have hsome := List.find?_some hfind
      exact of_decide_eq_true hsome
    have heq := hinj found (List.mem_of_find?_eq_some hfind) parent hparent
      (Option.some.inj (hfound.trans hid))
    exact heq ▸ hcheck
  next => cases hcheck

/-- What a level computed: each new limit is positive, and in tokens at most its share. -/
structure Scaled (previousMode mode : BudgetMode) (parents : List (BudgetRow × BudgetRow))
    (child : BudgetRow × BudgetRow) : Prop where
  oldMode : child.1.budgetMode = previousMode
  new : ∃ value, 0 < value ∧ child.2 = child.1.withLimit mode (wholeLimit mode value)
  share : ∀ parent ∈ parents, child.1.parentScopeId = some parent.1.scopeId → mode = .tokens →
    child.2.amount * parent.1.amount ≤ parent.2.amount * child.1.amount

theorem Scaled.pos {child : BudgetRow × BudgetRow} (h : Scaled previousMode mode parents child) :
    0 < child.2.amount := by
  obtain ⟨value, hvalue, heq⟩ := h.new
  rw [heq, amount_withLimit]
  exact wholeLimit_pos hvalue

variable (hne : previousMode ≠ mode)
    (hparents : ∀ parent ∈ parents, Rescaled previousMode mode parent)
  (hinj : ∀ p ∈ parents, ∀ q ∈ parents, p.1.scopeId = q.1.scopeId → p = q)
  (hrows : ∀ row ∈ rows, row.Regular)
  (hsums : ∀ parent ∈ parents, ((rows.filter fun row =>
    row.parentScopeId = some parent.1.scopeId).map amount).sum ≤ parent.1.amount)
  (h : proportionalRows previousMode mode parents rows = .ok children)

include hne hparents hinj hrows h in
theorem level_scaled : ∀ child ∈ children, Scaled previousMode mode parents child := by
  intro child hchild
  obtain ⟨hmap, hall⟩ := proportionalRows_ok h
  obtain ⟨parent, hparent, hid, hrow⟩ := hall child hchild
  obtain ⟨hmode, value, hvalue, heq, hshare⟩ := proportionalRow_ok hne (hparents parent hparent)
    (hrows child.1 (hmap ▸ List.mem_map_of_mem hchild)) hrow
  refine ⟨hmode, ⟨value, hvalue, heq⟩, fun other hother hid' htokens => ?_⟩
  rw [← hinj parent hparent other hother (Option.some.inj (hid.trans hid'))]
  exact hshare htokens

include hparents hsums h in
/-- Every new limit in tokens is below its share, and the shares are of at most the whole. -/
theorem level_tokens (hscaled : ∀ child ∈ children, Scaled previousMode .tokens parents child)
    {parent : BudgetRow × BudgetRow} (hparent : parent ∈ parents) :
    ((childrenOf parent.1 children).map fun child => child.2.amount).sum ≤ parent.2.amount := by
  have hold : ((childrenOf parent.1 children).map fun child => child.1.amount).sum
      ≤ parent.1.amount := by
    have hsum := hsums parent hparent
    rw [← (proportionalRows_ok h).1, List.filter_map, List.map_map] at hsum
    exact hsum
  refine le_of_mul_le_mul_right ?_ (hparents parent hparent).old.pos
  calc ((childrenOf parent.1 children).map fun child => child.2.amount).sum * parent.1.amount
      = ((childrenOf parent.1 children).map fun child => child.2.amount * parent.1.amount).sum :=
        (List.sum_map_mul_right ..).symm
    _ ≤ ((childrenOf parent.1 children).map fun child => parent.2.amount * child.1.amount).sum := by
        refine List.sum_le_sum fun child hchild => ?_
        obtain ⟨hmem, hid⟩ := List.mem_filter.1 hchild
        exact (hscaled child hmem).share parent hparent (of_decide_eq_true hid) rfl
    _ = parent.2.amount * ((childrenOf parent.1 children).map fun child => child.1.amount).sum :=
        List.sum_map_mul_left ..
    _ ≤ parent.2.amount * parent.1.amount :=
        mul_le_mul_of_nonneg_left hold (hparents parent hparent).new.pos.le

include hparents hinj in
/-- The new limits in USD are compared with the parent's. -/
theorem level_usd (hscaled : ∀ child ∈ children, Scaled previousMode .usd parents child)
    (hmode : mode = .usd) (hcheck : checkAllocations parents children = .ok ())
    {parent : BudgetRow × BudgetRow} (hparent : parent ∈ parents) :
    ((childrenOf parent.1 children).map fun child => child.2.amount).sum ≤ parent.2.amount := by
  have hrescaled := hparents parent hparent
  cases hchildren : childrenOf parent.1 children with
  | nil => exact hrescaled.new.pos.le
  | cons child rest =>
      have hmem : child ∈ childrenOf parent.1 children := hchildren ▸ List.mem_cons_self
      obtain ⟨hchild, hid⟩ := List.mem_filter.1 hmem
      have hscopeId : parent.2.scopeId = parent.1.scopeId :=
        congrArg (fun key : BudgetKey => key.2.2) hrescaled.key
      have hof : childrenOf parent.2 children = childrenOf parent.1 children := by
        unfold childrenOf
        rw [hscopeId]
      rw [← hchildren, ← hof]
      exact checkAllocated_ok (fun child hchild => (hscaled child hchild).new) hrescaled.new
        (hrescaled.newMode.trans hmode)
        (checkAllocations_ok hinj hcheck hparent hchild (of_decide_eq_true hid))

include hparents hrows h in
/-- A new limit is at most the sum that it is part of. -/
theorem level_rescaled (hscaled : ∀ child ∈ children, Scaled previousMode mode parents child)
    (hnew : ∀ parent ∈ parents,
      ((childrenOf parent.1 children).map fun child => child.2.amount).sum ≤ parent.2.amount) :
    ∀ child ∈ children, Rescaled previousMode mode child := by
  intro child hchild
  obtain ⟨hmap, hall⟩ := proportionalRows_ok h
  obtain ⟨value, hvalue, heq⟩ := (hscaled child hchild).new
  obtain ⟨parent, hparent, hid, -⟩ := hall child hchild
  have hle : child.2.amount ≤ ((childrenOf parent.1 children).map fun child =>
      child.2.amount).sum := by
    refine List.single_le_sum (fun limit hlimit => ?_) _ (List.mem_map_of_mem
      (f := fun child : BudgetRow × BudgetRow => child.2.amount)
      (List.mem_filter.2 ⟨hchild, decide_eq_true hid.symm⟩))
    obtain ⟨other, hother, rfl⟩ := List.mem_map.1 hlimit
    exact (hscaled other (List.mem_of_mem_filter hother)).pos.le
  have hlt := (hle.trans (hnew parent hparent)).trans_lt (hparents parent hparent).new.fair.2.1
  rw [heq, amount_withLimit] at hlt
  have hfair : Fair mode (wholeLimit mode value) :=
    ⟨wholeLimit_pos hvalue, hlt, fun husd => dvd_wholeLimit value husd⟩
  exact
    { old := hrows child.1 (hmap ▸ List.mem_map_of_mem hchild)
      oldMode := (hscaled child hchild).oldMode
      new := heq ▸ regular_withLimit child.1 hfair
      newMode := by rw [heq]; rfl
      key := by rw [heq]; rfl
      parent := by rw [heq]; rfl }

include hne hparents hinj hrows hsums h in
/-- The new rows of a level are regular, and the new limits of the children of a parent add up
to at most the parent's. -/
theorem level_ok (hcheck : mode = .usd → checkAllocations parents children = .ok ()) :
    (∀ child ∈ children, Rescaled previousMode mode child) ∧ ∀ parent ∈ parents,
      ((childrenOf parent.1 children).map fun child => child.2.amount).sum ≤ parent.2.amount := by
  have hscaled := level_scaled hne hparents hinj hrows h
  have hnew : ∀ parent ∈ parents,
      ((childrenOf parent.1 children).map fun child => child.2.amount).sum ≤ parent.2.amount := by
    intro parent hparent
    cases hmode : mode with
    | tokens =>
        subst hmode
        exact level_tokens hparents hsums h hscaled hparent
    | usd =>
        subst hmode
        exact level_usd hparents hinj hscaled rfl (hcheck rfl) hparent
  exact ⟨level_rescaled hparents hrows h hscaled hnew, hnew⟩

end Level

/-! ## The tree -/

/-- A row of the organization's tree in a period. -/
def InTree (rows : List BudgetRow) (periodStart : ℤ) (organizationId : Text)
    (row : BudgetRow) : Prop :=
  row.periodStart = periodStart ∧
    (row.scopeType = .organization ∧ row.scopeId = organizationId ∨
      row.scopeType = .department ∧ row.parentScopeId = some organizationId ∨
      row.scopeType = .user ∧ ∃ department ∈ rows, department.periodStart = periodStart ∧
        department.scopeType = .department ∧ department.parentScopeId = some organizationId ∧
        row.parentScopeId = some department.scopeId)

section Tree

variable {rows : List BudgetRow} {periodStart : ℤ} {organizationId : Text}

/-- A row is in the tree just when the row that it is stored under is. -/
theorem inTree_iff_of_under (hnodup : (rows.map key).Nodup) {parent row : BudgetRow}
    (hparent : parent ∈ rows) (hunder : Under parent row) :
    InTree rows periodStart organizationId row ↔ InTree rows periodStart organizationId parent := by
  obtain ⟨hperiod, htype, hid⟩ := hunder
  unfold InTree
  rw [hperiod]
  refine and_congr_right fun hp => ?_
  cases hparentType : parent.scopeType with
  | organization =>
      rw [hparentType] at htype
      rw [Option.some.inj htype, hid]
      simp
  | department =>
      rw [hparentType] at htype
      rw [Option.some.inj htype, hid]
      simp only [reduceCtorEq, false_and, true_and, false_or, or_false, Option.some_inj]
      constructor
      · rintro ⟨department, hmem, hdperiod, hdtype, hdparent, hscope⟩
        have heq : parent = department := Rows.eq_of_key hnodup hparent hmem
          (Prod.ext (hp.trans hdperiod.symm) (Prod.ext (hparentType.trans hdtype.symm) hscope))
        exact heq ▸ hdparent
      · intro hporg
        exact ⟨parent, hparent, hp, hparentType, hporg, rfl⟩
  | user =>
      rw [hparentType] at htype
      cases htype

/-- A row is stored under one of some rows. -/
def UnderAny (parents : List BudgetRow) (row : BudgetRow) : Prop :=
  ∃ parent ∈ parents, Under parent row

instance (parents : List BudgetRow) (row : BudgetRow) : Decidable (UnderAny parents row) :=
  inferInstanceAs (Decidable (∃ parent ∈ parents, Under parent row))

/-- The rows of the departments that a unit switch looks up. -/
theorem departments_eq {root : BudgetRow} (hperiod : root.periodStart = periodStart)
    (htype : root.scopeType = .organization) (hid : root.scopeId = organizationId) :
    ((rows.filter fun row => row.periodStart = periodStart).filter fun row =>
      row.scopeType = .department ∧ row.parentScopeId = some organizationId) =
      rows.filter fun row => Under root row := by
  rw [List.filter_filter]
  refine List.filter_congr fun row _ => ?_
  rw [← Bool.decide_and]
  refine decide_eq_decide.2 ?_
  unfold Under
  rw [htype, hperiod, hid]
  simp only [BudgetScopeType.child?, Option.some_inj]
  tauto

/-- The rows of the people that a unit switch looks up. -/
theorem people_eq {departments : List BudgetRow}
    (hdepartments : ∀ d ∈ departments, d.periodStart = periodStart ∧ d.scopeType = .department) :
    ((rows.filter fun row => row.periodStart = periodStart).filter fun row =>
      row.scopeType = .user ∧ ∃ d ∈ departments, row.parentScopeId = some d.scopeId) =
      rows.filter fun row => UnderAny departments row := by
  rw [List.filter_filter]
  refine List.filter_congr fun row _ => ?_
  rw [← Bool.decide_and]
  refine decide_eq_decide.2 ?_
  constructor
  · rintro ⟨⟨htype, d, hd, hid⟩, hperiod⟩
    obtain ⟨hdperiod, hdtype⟩ := hdepartments d hd
    refine ⟨d, hd, hperiod.trans hdperiod.symm, ?_, hid⟩
    rw [hdtype, htype]
    rfl
  · rintro ⟨d, hd, hperiod, htype, hid⟩
    obtain ⟨hdperiod, hdtype⟩ := hdepartments d hd
    rw [hdtype] at htype
    exact ⟨⟨Option.some.inj htype, d, hd, hid⟩, hperiod.trans hdperiod⟩

/-- What a unit switch computes for the rows of a tree, each with its new row. -/
structure SwitchedTree (rows : List BudgetRow) (periodStart : ℤ) (organizationId : Text)
    (previousMode mode : BudgetMode) (tree : List (BudgetRow × BudgetRow)) : Prop where
  nodup : (tree.map (·.1)).Nodup
  mem : ∀ row, row ∈ tree.map (·.1) ↔ row ∈ rows ∧ InTree rows periodStart organizationId row
  rescaled : ∀ pair ∈ tree, Rescaled previousMode mode pair
  sums : ∀ pair ∈ tree,
    ((tree.filter fun child => Under pair.1 child.1).map fun child => child.2.amount).sum
      ≤ pair.2.amount

/-- The rows of a level under a row of the level above. -/
theorem childrenOf_eq {parent : BudgetRow} {pairs : List (BudgetRow × BudgetRow)}
    (h : ∀ child ∈ pairs, child.1.periodStart = parent.periodStart ∧
      some child.1.scopeType = parent.scopeType.child?) :
    pairs.filter (fun child => Under parent child.1) = childrenOf parent pairs := by
  refine List.filter_congr fun child hchild => decide_eq_decide.2 ?_
  obtain ⟨hperiod, htype⟩ := h child hchild
  unfold Under
  tauto

/-- No row of a level is under a row of a type with other children. -/
theorem no_children {parent : BudgetRow} {pairs : List (BudgetRow × BudgetRow)}
    (h : ∀ child ∈ pairs, some child.1.scopeType ≠ parent.scopeType.child?) :
    pairs.filter (fun child => Under parent child.1) = [] :=
  List.filter_eq_nil_iff.2 fun child hchild => by
    have hne := h child hchild
    unfold Under
    simp [hne]

theorem rescaled_root {root : BudgetRow} (hroot : root.Regular) {mode : BudgetMode} {amount : ℤ}
    (hfair : Fair mode amount) (threshold : ℤ) :
    Rescaled root.budgetMode mode (root, root.withRootLimit mode amount threshold) where
  old := hroot
  oldMode := rfl
  new := by
    have hregular := regular_withLimit { root with warningThresholdPercent := threshold } hfair
    exact hregular
  newMode := rfl
  key := rfl
  parent := rfl

section Levels

variable {root newRoot : BudgetRow} {departments people : List (BudgetRow × BudgetRow)}
  (hrows : Hierarchy rows) (hroot : root ∈ rows) (hperiod : root.periodStart = periodStart)
  (htype : root.scopeType = .organization) (hid : root.scopeId = organizationId)
  (hdepartments : departments.map (·.1) = rows.filter fun row => Under root row)
  (hpeople : people.map (·.1) = rows.filter fun row => UnderAny (departments.map (·.1)) row)

include hperiod htype hdepartments in
theorem department_of_mem {pair : BudgetRow × BudgetRow} (h : pair ∈ departments) :
    pair.1 ∈ rows ∧ Under root pair.1 ∧ pair.1.periodStart = periodStart ∧
      pair.1.scopeType = .department := by
  have hmem : pair.1 ∈ rows.filter fun row => Under root row :=
    hdepartments ▸ List.mem_map_of_mem h
  obtain ⟨hrow, hunder⟩ := List.mem_filter.1 hmem
  have hunder := of_decide_eq_true hunder
  refine ⟨hrow, hunder, hunder.1.trans hperiod, ?_⟩
  have hchild := hunder.2.1
  rw [htype] at hchild
  exact Option.some.inj hchild

include hperiod htype hdepartments hpeople in
theorem person_of_mem {pair : BudgetRow × BudgetRow} (h : pair ∈ people) :
    pair.1 ∈ rows ∧ (∃ d ∈ departments, Under d.1 pair.1) ∧ pair.1.periodStart = periodStart ∧
      pair.1.scopeType = .user := by
  have hmem : pair.1 ∈ rows.filter fun row => UnderAny (departments.map (·.1)) row :=
    hpeople ▸ List.mem_map_of_mem h
  obtain ⟨hrow, hunder⟩ := List.mem_filter.1 hmem
  obtain ⟨d, hd, hunder⟩ := of_decide_eq_true hunder
  obtain ⟨d, hdmem, rfl⟩ := List.mem_map.1 hd
  obtain ⟨-, -, hdperiod, hdtype⟩ := department_of_mem hperiod htype hdepartments hdmem
  refine ⟨hrow, ⟨d, hdmem, hunder⟩, hunder.1.trans hdperiod, ?_⟩
  have hchild := hunder.2.1
  rw [hdtype] at hchild
  exact Option.some.inj hchild

include hrows hperiod htype hdepartments in
/-- Departments of one id are one department. -/
theorem department_eq {p q : BudgetRow × BudgetRow} (hp : p ∈ departments) (hq : q ∈ departments)
    (h : p.1.scopeId = q.1.scopeId) : p = q := by
  obtain ⟨hprow, -, hpperiod, hptype⟩ := department_of_mem hperiod htype hdepartments hp
  obtain ⟨hqrow, -, hqperiod, hqtype⟩ := department_of_mem hperiod htype hdepartments hq
  have hsame : p.1 = q.1 := Rows.eq_of_key hrows.nodup hprow hqrow
    (Prod.ext (hpperiod.trans hqperiod.symm) (Prod.ext (hptype.trans hqtype.symm) h))
  have hnodup : (departments.map (·.1)).Nodup :=
    hdepartments ▸ (List.Nodup.of_map _ hrows.nodup).filter _
  exact List.inj_on_of_nodup_map hnodup hp hq hsame

include hrows hperiod htype hdepartments hpeople in
theorem tree_nodup : (((root, newRoot) :: (departments ++ people)).map (·.1)).Nodup := by
  have hnodup : rows.Nodup := List.Nodup.of_map _ hrows.nodup
  rw [List.map_cons, List.map_append, List.nodup_cons, List.nodup_append, hdepartments, hpeople]
  refine ⟨?_, hnodup.filter _, hnodup.filter _, ?_⟩
  · intro hmem
    rw [← hdepartments, ← hpeople, List.mem_append] at hmem
    rcases hmem with hmem | hmem
    · obtain ⟨pair, hpair, heq⟩ := List.mem_map.1 hmem
      obtain ⟨-, -, -, hdtype⟩ := department_of_mem hperiod htype hdepartments hpair
      rw [heq, htype] at hdtype
      cases hdtype
    · obtain ⟨pair, hpair, heq⟩ := List.mem_map.1 hmem
      obtain ⟨-, -, -, hptype⟩ := person_of_mem hperiod htype hdepartments hpeople hpair
      rw [heq, htype] at hptype
      cases hptype
  · intro d hd p hp heq
    rw [← hdepartments] at hd
    rw [← hpeople] at hp
    obtain ⟨dpair, hdpair, rfl⟩ := List.mem_map.1 hd
    obtain ⟨ppair, hppair, rfl⟩ := List.mem_map.1 hp
    obtain ⟨-, -, -, hdtype⟩ := department_of_mem hperiod htype hdepartments hdpair
    obtain ⟨-, -, -, hptype⟩ := person_of_mem hperiod htype hdepartments hpeople hppair
    rw [heq, hptype] at hdtype
    cases hdtype

include hrows hroot hperiod htype hid hdepartments hpeople in
theorem tree_mem (row : BudgetRow) :
    row ∈ ((root, newRoot) :: (departments ++ people)).map (·.1) ↔
      row ∈ rows ∧ InTree rows periodStart organizationId row := by
  have hrootunder : ∀ r, Under root r ↔ r.periodStart = periodStart ∧ r.scopeType = .department ∧
      r.parentScopeId = some organizationId := by
    intro r
    unfold Under
    rw [htype, hperiod, hid]
    simp [BudgetScopeType.child?]
  rw [List.map_cons, List.map_append, List.mem_cons, List.mem_append, hdepartments, hpeople,
    List.mem_filter, List.mem_filter]
  constructor
  · rintro (rfl | ⟨hrow, hunder⟩ | ⟨hrow, hunder⟩)
    · exact ⟨hroot, hperiod, .inl ⟨htype, hid⟩⟩
    · obtain ⟨hrperiod, hrtype, hrparent⟩ := (hrootunder row).1 (of_decide_eq_true hunder)
      exact ⟨hrow, hrperiod, .inr (.inl ⟨hrtype, hrparent⟩)⟩
    · obtain ⟨d, hd, hunder⟩ := of_decide_eq_true hunder
      obtain ⟨pair, hpair, rfl⟩ := List.mem_map.1 hd
      obtain ⟨hdrow, hdunder, hdperiod, hdtype⟩ :=
        department_of_mem hperiod htype hdepartments hpair
      have hchild := hunder.2.1
      rw [hdtype] at hchild
      exact ⟨hrow, hunder.1.trans hdperiod, .inr (.inr ⟨Option.some.inj hchild, pair.1, hdrow,
        hdperiod, hdtype, ((hrootunder _).1 hdunder).2.2, hunder.2.2⟩)⟩
  · rintro ⟨hrow, hrperiod, ⟨hrtype, hrid⟩ | ⟨hrtype, hrparent⟩ | ⟨hrtype, d, hd, hdperiod, hdtype,
      hdparent, hrparent⟩⟩
    · exact .inl (Rows.eq_of_key hrows.nodup hrow hroot (Prod.ext (hrperiod.trans hperiod.symm)
        (Prod.ext (hrtype.trans htype.symm) (hrid.trans hid.symm))))
    · exact .inr (.inl ⟨hrow, decide_eq_true ((hrootunder row).2 ⟨hrperiod, hrtype, hrparent⟩)⟩)
    · refine .inr (.inr ⟨hrow, decide_eq_true ⟨d, ?_, hrperiod.trans hdperiod.symm, ?_, hrparent⟩⟩)
      · rw [hdepartments]
        exact List.mem_filter.2 ⟨hd, decide_eq_true ((hrootunder d).2 ⟨hdperiod, hdtype, hdparent⟩)⟩
      · rw [hrtype, hdtype]
        rfl

include hperiod htype hdepartments hpeople in
/-- The rows under a row of the tree are those of the level below. -/
theorem tree_sums (hrootsum : ((childrenOf root departments).map fun child => child.2.amount).sum
      ≤ newRoot.amount)
    (hsums : ∀ d ∈ departments, ((childrenOf d.1 people).map fun child => child.2.amount).sum
      ≤ d.2.amount)
    (hpos : ∀ person ∈ people, 0 < person.2.amount) :
    ∀ pair ∈ (root, newRoot) :: (departments ++ people),
      ((((root, newRoot) :: (departments ++ people)).filter fun child =>
        Under pair.1 child.1).map fun child => child.2.amount).sum ≤ pair.2.amount := by
  have hdepartment := fun pair (h : pair ∈ departments) =>
    department_of_mem hperiod htype hdepartments h
  have hperson := fun pair (h : pair ∈ people) =>
    person_of_mem hperiod htype hdepartments hpeople h
  have hnotroot : ∀ parent : BudgetRow, ¬Under parent root := by
    intro parent hunder
    have hchild := hunder.2.1
    rw [htype] at hchild
    cases hp : parent.scopeType <;> rw [hp] at hchild <;> cases hchild
  intro pair hpair
  rw [List.filter_cons_of_neg (by simpa using hnotroot pair.1), List.filter_append]
  rcases List.mem_cons.1 hpair with rfl | hpair
  · rw [childrenOf_eq fun child hchild => ?_, no_children fun child hchild => ?_, List.append_nil]
    · exact hrootsum
    · rw [(hperson child hchild).2.2.2, htype]
      exact fun heq => by cases heq
    · obtain ⟨-, hunder, -, -⟩ := hdepartment child hchild
      exact ⟨hunder.1, hunder.2.1⟩
  · rcases List.mem_append.1 hpair with hpair | hpair
    · obtain ⟨-, -, hdperiod, hdtype⟩ := hdepartment pair hpair
      rw [no_children fun child hchild => ?_, childrenOf_eq fun child hchild => ?_, List.nil_append]
      · exact hsums pair hpair
      · obtain ⟨-, -, hpperiod, hptype⟩ := hperson child hchild
        refine ⟨hpperiod.trans hdperiod.symm, ?_⟩
        rw [hptype, hdtype]
        rfl
      · rw [(hdepartment child hchild).2.2.2, hdtype]
        exact fun heq => by cases heq
    · obtain ⟨-, -, -, hptype⟩ := hperson pair hpair
      rw [no_children fun child hchild => ?_, no_children fun child hchild => ?_]
      · exact (hpos pair hpair).le
      · rw [hptype]
        exact Option.some_ne_none _
      · rw [hptype]
        exact Option.some_ne_none _

end Levels

theorem proportionalRow_key {previousMode mode : BudgetMode} {original updated row new : BudgetRow}
    (h : proportionalRow previousMode mode original updated row = .ok new) : new.key = row.key := by
  unfold proportionalRow at h
  obtain ⟨-, h⟩ := require_bind_eq_ok.1 h
  split at h
  next =>
    obtain ⟨-, h⟩ := require_bind_eq_ok.1 h
    obtain ⟨value, -, h⟩ := bind_eq_ok.1 h
    obtain rfl := Except.ok.inj h
    rfl
  next => cases h

theorem proportionalRows_keys {previousMode mode : BudgetMode}
    {parents : List (BudgetRow × BudgetRow)}
    {budgets : List BudgetRow} {q : BudgetRow → Bool} {children : List (BudgetRow × BudgetRow)}
    (h : proportionalRows previousMode mode parents (budgets.filter q) = .ok children) :
    ∀ row ∈ children.map (·.2), row.key ∈ budgets.map key := by
  obtain ⟨hmap, hall⟩ := proportionalRows_ok h
  intro row hrow
  obtain ⟨child, hchild, rfl⟩ := List.mem_map.1 hrow
  obtain ⟨parent, -, -, hnew⟩ := hall child hchild
  have hold : child.1 ∈ budgets.filter q := hmap ▸ List.mem_map_of_mem hchild
  rw [proportionalRow_key hnew]
  exact List.mem_map_of_mem (List.mem_of_mem_filter hold)

/-- The new rows are of rows that are there, and the organization's is the first. -/
theorem proportionalBudgetTree_keys {budgets : List BudgetRow} {mode : BudgetMode}
    {amount threshold : ℤ} {updated : List BudgetRow}
    (h : proportionalBudgetTree budgets organizationId mode amount threshold = .ok updated) :
    (∃ root : BudgetRow, root.withRootLimit mode amount threshold ∈ updated) ∧
      ∀ row ∈ updated, row.key ∈ budgets.map key := by
  unfold proportionalBudgetTree at h
  split at h
  next => cases h
  next root hfind =>
    obtain ⟨-, h⟩ := require_bind_eq_ok.1 h
    obtain ⟨departments, hdepartments, h⟩ := bind_eq_ok.1 h
    obtain ⟨people, hpeople, h⟩ := bind_eq_ok.1 h
    obtain ⟨-, h⟩ := check_bind_eq_ok.1 h
    obtain rfl := Except.ok.inj h
    refine ⟨⟨root, List.mem_cons_self⟩, fun row hrow => ?_⟩
    rcases List.mem_cons.1 hrow with rfl | hrow
    · have hkey : (root.withRootLimit mode amount threshold).key = root.key := rfl
      rw [hkey]
      exact List.mem_map_of_mem (List.mem_of_find?_eq_some hfind)
    · rcases List.mem_append.1 hrow with hrow | hrow
      · exact proportionalRows_keys hdepartments row hrow
      · exact proportionalRows_keys hpeople row hrow

theorem proportionalBudgetTree_ok (hrows : Hierarchy rows) {mode : BudgetMode} {amount : ℤ}
    (hfair : Fair mode amount) {threshold : ℤ} {updated : List BudgetRow}
    (h : proportionalBudgetTree (rows.filter fun row => row.periodStart = periodStart)
      organizationId mode amount threshold = .ok updated) :
    ∃ previousMode tree, updated = tree.map (·.2) ∧
      SwitchedTree rows periodStart organizationId previousMode mode tree := by
  unfold proportionalBudgetTree at h
  split at h
  next => cases h
  next root hfind =>
    have hrootmem := List.mem_of_find?_eq_some hfind
    have hrootkey := List.find?_some hfind
    obtain ⟨htype, hid⟩ := of_decide_eq_true hrootkey
    obtain ⟨hroot, hperiod⟩ := List.mem_filter.1 hrootmem
    have hperiod := of_decide_eq_true hperiod
    obtain ⟨hne, h⟩ := require_bind_eq_ok.1 h
    obtain ⟨departments, hlevel, h⟩ := bind_eq_ok.1 h
    obtain ⟨people, hlevel', h⟩ := bind_eq_ok.1 h
    obtain ⟨hcheck, h⟩ := check_bind_eq_ok.1 h
    obtain rfl := Except.ok.inj h
    have hchecks : mode = .usd → checkAllocations [(root, root.withRootLimit mode amount threshold)]
        departments = .ok () ∧ checkAllocations departments people = .ok () := fun hmode =>
      check_bind_eq_ok.1 (checkIf_eq_ok.1 hcheck hmode)
    rw [departments_eq hperiod htype hid] at hlevel hlevel'
    have hdepartments := (proportionalRows_ok hlevel).1
    -- The departments, whose parent is the organization.
    obtain ⟨hdrescaled, hdsums⟩ := level_ok hne
      (fun parent hparent => List.mem_singleton.1 hparent ▸
        rescaled_root (hrows.regular root hroot) hfair threshold)
      (fun p hp q hq _ => (List.mem_singleton.1 hp).trans (List.mem_singleton.1 hq).symm)
      (fun row hrow => hrows.regular row (List.mem_of_mem_filter hrow))
      (fun parent hparent => by
        rw [List.mem_singleton.1 hparent]
        have hsame : (rows.filter fun row => Under root row).filter (fun row =>
            row.parentScopeId = some root.scopeId) = rows.filter fun row => Under root row :=
          List.filter_eq_self.2 fun row hrow =>
            decide_eq_true (of_decide_eq_true (List.mem_filter.1 hrow).2).2.2
        rw [hsame]
        exact hrows.sums root hroot)
      hlevel fun hmode => (hchecks hmode).1
    have hdfacts : ∀ d ∈ rows.filter (fun row => Under root row),
        d.periodStart = periodStart ∧ d.scopeType = .department := by
      intro d hd
      rw [← hdepartments] at hd
      obtain ⟨pair, hpair, rfl⟩ := List.mem_map.1 hd
      exact (department_of_mem hperiod htype hdepartments hpair).2.2
    rw [people_eq hdfacts] at hlevel'
    have hpeople := (proportionalRows_ok hlevel').1
    -- The people, whose parents are the departments.
    obtain ⟨hprescaled, hpsums⟩ := level_ok hne hdrescaled
      (fun p hp q hq => department_eq hrows hperiod htype hdepartments hp hq)
      (fun row hrow => hrows.regular row (List.mem_of_mem_filter hrow))
      (fun parent hparent => by
        obtain ⟨hdrow, hdunder, hdperiod, hdtype⟩ :=
          department_of_mem hperiod htype hdepartments hparent
        have hsame : (rows.filter fun row => UnderAny (rows.filter fun row => Under root row)
            row).filter (fun row => row.parentScopeId = some parent.1.scopeId) =
            rows.filter fun row => Under parent.1 row := by
          rw [List.filter_filter]
          refine List.filter_congr fun row _ => ?_
          rw [← Bool.decide_and]
          refine decide_eq_decide.2 ⟨?_, fun hunder => ⟨hunder.2.2, parent.1,
            hdepartments ▸ List.mem_map_of_mem hparent, hunder⟩⟩
          rintro ⟨hparentId, d, hd, hunder⟩
          obtain ⟨hdperiod', hdtype'⟩ := hdfacts d hd
          refine ⟨hunder.1.trans (hdperiod'.trans hdperiod.symm), ?_, hparentId⟩
          rw [hdtype, ← hdtype']
          exact hunder.2.1
        rw [hsame]
        exact hrows.sums parent.1 hdrow)
      hlevel' fun hmode => (hchecks hmode).2
    rw [← hdepartments] at hpeople
    refine ⟨root.budgetMode, (root, root.withRootLimit mode amount threshold) ::
      (departments ++ people), by rw [List.map_cons, List.map_append], ?_, ?_, ?_, ?_⟩
    · exact tree_nodup hrows hperiod htype hdepartments hpeople
    · exact tree_mem hrows hroot hperiod htype hid hdepartments hpeople
    · refine List.forall_mem_cons.2 ⟨rescaled_root (hrows.regular root hroot) hfair threshold, ?_⟩
      intro pair hpair
      exact (List.mem_append.1 hpair).elim (hdrescaled pair) (hprescaled pair)
    · exact tree_sums hperiod htype hdepartments hpeople (hdsums _ List.mem_cons_self) hpsums
        fun person hperson => (hprescaled person hperson).new.pos

end Tree

end Turnstile
