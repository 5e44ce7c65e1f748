import Mathlib.Algebra.Order.BigOperators.Group.List
import Mathlib.Algebra.BigOperators.Group.List.Basic
import Turnstile.Persistence.TokenBudgets

/-!
# The budget hierarchy

The rows stored under an organization or a department share its unit, and their limits add up
to at most its limit.  Every operation of the repository keeps this, each in its own way: an
upsert by its two checks, a removal because it only takes rows away, a roll-forward because
the copy of a period is as it was, and a unit switch because the new limits of children are
below their exact shares, or are added up and compared.

The checks are made in decimal arithmetic.  They mean what they say for amounts that the
columns of the database hold: at most thirty digits, and USD in whole cents.

An upsert stores the limits it was given, also the one that is not of its mode: then a row has
a limit of each kind.
-/

namespace Turnstile

open Guard Procedure

/-! ## What is promised of a row -/

/-- A positive amount of at most thirty digits, and in USD of whole cents. -/
def Fair (mode : BudgetMode) (amount : ℤ) : Prop :=
  0 < amount ∧ amount < 10 ^ 30 ∧ (mode = .usd → 10 ^ 12 ∣ amount)

namespace BudgetRow

/-- The limit of a row in its own unit. -/
def amount (row : BudgetRow) : ℤ := (row.limit row.budgetMode).getD 0

/-- A row has a limit in its own unit and in no other. -/
structure Regular (row : BudgetRow) : Prop where
  oneLimit : ∀ mode, row.limit mode ≠ none ↔ mode = row.budgetMode
  fair : Fair row.budgetMode row.amount

/-- A row is stored under another: of the next lower type and in the same period. -/
def Under (parent row : BudgetRow) : Prop :=
  row.periodStart = parent.periodStart ∧ some row.scopeType = parent.scopeType.child? ∧
    row.parentScopeId = some parent.scopeId

instance (parent row : BudgetRow) : Decidable (Under parent row) :=
  inferInstanceAs (Decidable (_ ∧ _))

theorem limit_budgetMode {row : BudgetRow} (h : row.Regular) :
    row.limit row.budgetMode = some row.amount := by
  unfold amount
  cases hlimit : row.limit row.budgetMode with
  | none => exact absurd hlimit ((h.oneLimit _).2 rfl)
  | some limit => rfl

@[simp] theorem limit_withLimit (row : BudgetRow) (mode : BudgetMode) (limit : ℤ) :
    (row.withLimit mode limit).limit mode = some limit := by
  cases mode with
  | tokens => rfl
  | usd => rfl

@[simp] theorem amount_withLimit (row : BudgetRow) (mode : BudgetMode) (limit : ℤ) :
    (row.withLimit mode limit).amount = limit := by
  change (((row.withLimit mode limit).limit mode).getD 0) = limit
  rw [limit_withLimit]
  rfl

theorem regular_withLimit (row : BudgetRow) {mode : BudgetMode} {limit : ℤ} (h : Fair mode limit) :
    (row.withLimit mode limit).Regular where
  oneLimit := by
    intro other
    cases mode with
    | tokens => cases other <;> simp [BudgetRow.limit, withLimit]
    | usd => cases other <;> simp [BudgetRow.limit, withLimit]
  fair := by
    rw [amount_withLimit]
    exact h

theorem Regular.pos {row : BudgetRow} (h : row.Regular) : 0 < row.amount := h.fair.1

/-- A row, in another period. -/
def inPeriod (period : ℤ) (row : BudgetRow) : BudgetRow :=
  { row with
    periodStart := period }

/-- The limits of a row do not depend on its period. -/
theorem Regular.inPeriod {row : BudgetRow} (h : row.Regular) (period : ℤ) :
    (row.inPeriod period).Regular where
  oneLimit := h.oneLimit
  fair := h.fair

theorem under_inPeriod {parent row : BudgetRow} {source target : ℤ}
    (hparent : parent.periodStart = source) (hrow : row.periodStart = source) :
    Under (parent.inPeriod target) (row.inPeriod target) ↔ Under parent row := by
  constructor
  · rintro ⟨-, hrest⟩
    exact ⟨hrow.trans hparent.symm, hrest⟩
  · rintro ⟨-, hrest⟩
    exact ⟨rfl, hrest⟩

/-- No row is stored under itself, and the key of a row is not that of its parent. -/
theorem Under.key_ne {parent row : BudgetRow} (h : Under parent row) : row.key ≠ parent.key := by
  intro heq
  have htype : row.scopeType = parent.scopeType := congrArg (fun key : BudgetKey => key.2.1) heq
  have hchild := h.2.1
  rw [htype] at hchild
  cases hp : parent.scopeType <;> rw [hp] at hchild <;> cases hchild

/-- The key under which the parent of a row is stored. -/
theorem Under.parent_key {parent row : BudgetRow} (h : Under parent row) :
    ∃ type, row.scopeType.parent? = some type ∧
      parent.key = (row.periodStart, type, parent.scopeId) := by
  obtain ⟨hperiod, htype, -⟩ := h
  refine ⟨parent.scopeType, ?_, by rw [hperiod, key]⟩
  cases hp : parent.scopeType with
  | organization =>
      rw [hp] at htype
      rw [Option.some.inj htype]
      rfl
  | department =>
      rw [hp] at htype
      rw [Option.some.inj htype]
      rfl
  | user =>
      rw [hp] at htype
      cases htype

end BudgetRow

open BudgetRow

/-! ## The hierarchy -/

/-- What is allocated of the budget of a row: the sum of the limits of the rows under it. -/
def allocated (rows : List BudgetRow) (parent : BudgetRow) : ℤ :=
  ((rows.filter fun row => Under parent row).map amount).sum

/-- The budgets are not over-allocated. -/
structure Hierarchy (rows : List BudgetRow) : Prop where
  nodup : (rows.map BudgetRow.key).Nodup
  regular : ∀ row ∈ rows, row.Regular
  modes : ∀ parent ∈ rows, ∀ row ∈ rows, Under parent row → row.budgetMode = parent.budgetMode
  sums : ∀ parent ∈ rows, allocated rows parent ≤ parent.amount

theorem allocated_cons (rows : List BudgetRow) (row parent : BudgetRow) :
    allocated (row :: rows) parent =
      (if Under parent row then row.amount else 0) + allocated rows parent := by
  unfold allocated
  by_cases h : Under parent row
  · rw [List.filter_cons_of_pos (by simpa using h), if_pos h, List.map_cons, List.sum_cons]
  · rw [List.filter_cons_of_neg (by simpa using h), if_neg h, zero_add]

theorem allocated_append (rows rows' : List BudgetRow) (parent : BudgetRow) :
    allocated (rows ++ rows') parent = allocated rows parent + allocated rows' parent := by
  unfold allocated
  rw [List.filter_append, List.map_append, List.sum_append]

theorem allocated_of_none {rows : List BudgetRow} {parent : BudgetRow}
    (h : ∀ row ∈ rows, ¬Under parent row) : allocated rows parent = 0 := by
  have hnil : rows.filter (fun row => Under parent row) = [] :=
    List.filter_eq_nil_iff.2 fun row hrow => by simpa using h row hrow
  rw [allocated, hnil]
  rfl

theorem allocated_sublist {rows rows' : List BudgetRow} (hreg : ∀ row ∈ rows, row.Regular)
    (h : rows'.Sublist rows) (parent : BudgetRow) :
    allocated rows' parent ≤ allocated rows parent := by
  refine List.Sublist.sum_le_sum ((h.filter _).map amount) fun x hx => ?_
  obtain ⟨row, hrow, rfl⟩ := List.mem_map.1 hx
  exact (hreg row (List.mem_of_mem_filter hrow)).pos.le

theorem allocated_perm {rows rows' : List BudgetRow} (h : rows.Perm rows') (parent : BudgetRow) :
    allocated rows parent = allocated rows' parent :=
  ((h.filter _).map amount).sum_eq

/-- A row leaves its parent enough, beside the other rows under it. -/
def FitsParent (rows : List BudgetRow) (row : BudgetRow) : Prop :=
  ∀ parent ∈ rows, Under parent row → row.budgetMode = parent.budgetMode ∧
    allocated (rows.filter fun other => other.key ≠ row.key) parent + row.amount ≤ parent.amount

/-- A row has enough for the rows under it. -/
def CoversChildren (rows : List BudgetRow) (row : BudgetRow) : Prop :=
  (∀ child ∈ rows, Under row child → child.budgetMode = row.budgetMode) ∧
    allocated rows row ≤ row.amount

namespace Hierarchy

variable {rows rows' : List BudgetRow}

theorem empty : Hierarchy [] where
  nodup := List.nodup_nil
  regular := fun _ h => absurd h List.not_mem_nil
  modes := fun _ h => absurd h List.not_mem_nil
  sums := fun _ h => absurd h List.not_mem_nil

theorem perm (h : Hierarchy rows) (hperm : rows.Perm rows') : Hierarchy rows' where
  nodup := (hperm.map key).nodup_iff.1 h.nodup
  regular := fun row hrow => h.regular row (hperm.mem_iff.2 hrow)
  modes := fun parent hp row hrow => h.modes parent (hperm.mem_iff.2 hp) row (hperm.mem_iff.2 hrow)
  sums := fun parent hp => allocated_perm hperm parent ▸ h.sums parent (hperm.mem_iff.2 hp)

/-- Rows may be taken away. -/
theorem sublist (h : Hierarchy rows) (hsub : rows'.Sublist rows) : Hierarchy rows' where
  nodup := h.nodup.sublist (hsub.map key)
  regular := fun row hrow => h.regular row (hsub.subset hrow)
  modes := fun parent hp row hrow => h.modes parent (hsub.subset hp) row (hsub.subset hrow)
  sums := fun parent hp =>
    (allocated_sublist h.regular hsub parent).trans (h.sums parent (hsub.subset hp))

/-- A row may be written that leaves its parent enough and has enough for its children. -/
theorem put (h : Hierarchy rows) {row : BudgetRow} (hreg : row.Regular) (hup : FitsParent rows row)
    (hdown : CoversChildren rows row) : Hierarchy (Rows.put key row rows) := by
  have hrest : Hierarchy (rows.filter fun other => other.key ≠ row.key) :=
    h.sublist List.filter_sublist
  refine Hierarchy.perm ?_ (Rows.put_perm h.nodup row).symm
  refine ⟨?_, List.forall_mem_cons.2 ⟨hreg, hrest.regular⟩, ?_, ?_⟩
  · exact ((Rows.put_perm h.nodup row).map key).nodup_iff.1 (Rows.nodup_put h.nodup row)
  · intro parent hp child hc hunder
    rcases List.mem_cons.1 hp with rfl | hp'
    · rcases List.mem_cons.1 hc with rfl | hc'
      · rfl
      · exact hdown.1 child (List.mem_of_mem_filter hc') hunder
    · rcases List.mem_cons.1 hc with rfl | hc'
      · exact (hup parent (List.mem_of_mem_filter hp') hunder).1
      · exact hrest.modes parent hp' child hc' hunder
  · intro parent hp
    rw [allocated_cons]
    rcases List.mem_cons.1 hp with rfl | hp
    · rw [if_neg fun hunder => hunder.key_ne rfl, zero_add]
      exact (allocated_sublist h.regular List.filter_sublist parent).trans hdown.2
    · split
      next hunder =>
        rw [add_comm]
        exact (hup parent (List.mem_of_mem_filter hp) hunder).2
      next =>
        rw [zero_add]
        exact hrest.sums parent hp

/-- The rows of different periods have nothing to do with each other. -/
theorem append (h : Hierarchy rows) (h' : Hierarchy rows')
    (hne : ∀ row ∈ rows, ∀ row' ∈ rows', row.periodStart ≠ row'.periodStart) :
    Hierarchy (rows ++ rows') where
  nodup := by
    rw [List.map_append]
    refine h.nodup.append h'.nodup fun k hk hk' => ?_
    obtain ⟨row, hrow, rfl⟩ := List.mem_map.1 hk
    obtain ⟨row', hrow', heq⟩ := List.mem_map.1 hk'
    exact hne row hrow row' hrow' (Prod.mk.inj heq).1.symm
  regular := fun row hrow => (List.mem_append.1 hrow).elim (h.regular row) (h'.regular row)
  modes := by
    intro parent hp row hrow hunder
    rcases List.mem_append.1 hp with hp | hp
    · rcases List.mem_append.1 hrow with hrow | hrow
      · exact h.modes parent hp row hrow hunder
      · exact absurd hunder.1.symm (hne parent hp row hrow)
    · rcases List.mem_append.1 hrow with hrow | hrow
      · exact absurd hunder.1 (hne row hrow parent hp)
      · exact h'.modes parent hp row hrow hunder
  sums := by
    intro parent hp
    rw [allocated_append]
    rcases List.mem_append.1 hp with hp | hp
    · rw [allocated_of_none fun row hrow hunder => hne parent hp row hrow hunder.1.symm, add_zero]
      exact h.sums parent hp
    · rw [allocated_of_none fun row hrow hunder => hne row hrow parent hp hunder.1, zero_add]
      exact h'.sums parent hp

/-- The rows of a period may be moved to another. -/
theorem inPeriod (h : Hierarchy rows) {source : ℤ}
    (hsource : ∀ row ∈ rows, row.periodStart = source)
    (target : ℤ) : Hierarchy (rows.map (BudgetRow.inPeriod target)) where
  nodup := by
    rw [List.map_map]
    refine List.Nodup.map_on ?_ (List.Nodup.of_map _ h.nodup)
    intro p hp q hq heq
    refine Rows.eq_of_key h.nodup hp hq (Prod.ext ?_ (Prod.mk.inj heq).2)
    exact (hsource p hp).trans (hsource q hq).symm
  regular := by
    intro row hrow
    obtain ⟨old, hold, rfl⟩ := List.mem_map.1 hrow
    exact (h.regular old hold).inPeriod target
  modes := by
    intro parent hp row hrow hunder
    obtain ⟨p, hpmem, rfl⟩ := List.mem_map.1 hp
    obtain ⟨r, hrmem, rfl⟩ := List.mem_map.1 hrow
    exact h.modes p hpmem r hrmem
      ((under_inPeriod (hsource p hpmem) (hsource r hrmem)).1 hunder)
  sums := by
    intro parent hp
    obtain ⟨p, hpmem, rfl⟩ := List.mem_map.1 hp
    refine le_of_eq_of_le ?_ (h.sums p hpmem)
    unfold allocated
    rw [List.filter_map, List.map_map]
    have hfilter : rows.filter ((fun row => decide (Under (p.inPeriod target) row)) ∘
        BudgetRow.inPeriod target) = rows.filter fun row => Under p row :=
      List.filter_congr fun row hrow =>
        decide_eq_decide.2 (under_inPeriod (hsource p hpmem) (hsource row hrow))
    rw [hfilter]
    rfl

/-- Rows may get other limits, if those of the rows under a row still are at most its limit. -/
theorem map (h : Hierarchy rows) {f : BudgetRow → BudgetRow} (hkey : ∀ row, (f row).key = row.key)
    (hparent : ∀ row ∈ rows, (f row).parentScopeId = row.parentScopeId)
    (hreg : ∀ row ∈ rows, (f row).Regular)
    (hmodes : ∀ parent ∈ rows, ∀ row ∈ rows, Under parent row →
      (f row).budgetMode = (f parent).budgetMode)
    (hsums : ∀ parent ∈ rows,
      ((rows.filter fun row => Under parent row).map fun row => (f row).amount).sum
        ≤ (f parent).amount) : Hierarchy (rows.map f) := by
  have hunder : ∀ parent, ∀ row ∈ rows, (Under (f parent) (f row) ↔ Under parent row) := by
    intro parent row hrow
    obtain ⟨hperiod, hrest⟩ := Prod.mk.inj (hkey row)
    obtain ⟨htype, -⟩ := Prod.mk.inj hrest
    obtain ⟨hperiod', hrest'⟩ := Prod.mk.inj (hkey parent)
    obtain ⟨htype', hid'⟩ := Prod.mk.inj hrest'
    unfold Under
    rw [hperiod, htype, hperiod', htype', hid', hparent row hrow]
  refine ⟨?_, ?_, ?_, ?_⟩
  · have hkeys : (rows.map f).map key = rows.map key := by
      rw [List.map_map]
      exact List.map_congr_left fun row _ => hkey row
    rw [hkeys]
    exact h.nodup
  · exact fun row hrow => by
      obtain ⟨old, hold, rfl⟩ := List.mem_map.1 hrow
      exact hreg old hold
  · intro parent hp row hrow hur
    obtain ⟨p, hpmem, rfl⟩ := List.mem_map.1 hp
    obtain ⟨r, hrmem, rfl⟩ := List.mem_map.1 hrow
    exact hmodes p hpmem r hrmem ((hunder p r hrmem).1 hur)
  · intro parent hp
    obtain ⟨p, hpmem, rfl⟩ := List.mem_map.1 hp
    refine le_of_eq_of_le ?_ (hsums p hpmem)
    have hfilter : rows.filter ((fun row => decide (Under (f p) row)) ∘ f) =
        rows.filter fun row => Under p row :=
      List.filter_congr fun row hrow => decide_eq_decide.2 (hunder p row hrow)
    unfold allocated
    rw [List.filter_map, List.map_map, hfilter]
    rfl

end Hierarchy

/-! ## Sums of limits -/

theorem sumLimits_tokens (c : DecimalContext) (limits : List ℤ) :
    sumLimits c .tokens limits = limits.sum := by
  have hfold : ∀ start : ℤ, limits.foldl (addLimits c .tokens) start = start + limits.sum := by
    induction limits with
    | nil =>
        intro start
        simp
    | cons x limits ih =>
        intro start
        rw [List.foldl_cons, ih, List.sum_cons, addLimits, add_assoc]
  rw [sumLimits, hfold, zero_add]

/-- A sum of fair amounts that does not exceed a fair one was computed exactly. -/
theorem sumLimits_eq {c : DecimalContext} (hprec : 18 ≤ c.prec) {mode : BudgetMode}
    {limits : List ℤ}
    (hfair : ∀ limit ∈ limits, Fair mode limit) {bound : ℤ} (hbound : bound < 10 ^ 30)
    (h : sumLimits c mode limits ≤ bound) : sumLimits c mode limits = limits.sum := by
  cases mode with
  | tokens => exact sumLimits_tokens c limits
  | usd =>
      have hwide : bound < 10 ^ (c.prec + 12) :=
        hbound.trans_le (pow_le_pow_right₀ (by decide) (by omega))
      exact Rounding.sumTo_le (by omega) hwide
        (fun limit hlimit => ⟨(hfair limit hlimit).1.le, (hfair limit hlimit).2.2 rfl⟩) h

theorem sumLimits_le {c : DecimalContext} (hprec : 18 ≤ c.prec) {mode : BudgetMode}
    {limits : List ℤ}
    (hfair : ∀ limit ∈ limits, Fair mode limit) {bound : ℤ} (hbound : bound < 10 ^ 30)
    (h : sumLimits c mode limits ≤ bound) : limits.sum ≤ bound :=
  sumLimits_eq hprec hfair hbound h ▸ h

/-- A sum of fair amounts that does not exceed a fair one is computed exactly. -/
theorem sumLimits_of_sum_le {c : DecimalContext} (hprec : 18 ≤ c.prec) {mode : BudgetMode}
    {limits : List ℤ} (hfair : ∀ limit ∈ limits, Fair mode limit) {bound : ℤ}
    (hbound : bound < 10 ^ 30) (h : limits.sum ≤ bound) :
    sumLimits c mode limits = limits.sum := by
  cases mode with
  | tokens => exact sumLimits_tokens c limits
  | usd =>
      have hwide : bound < 10 ^ (c.prec + 12) :=
        hbound.trans_le (pow_le_pow_right₀ (by decide) (by omega))
      exact Rounding.sumTo_of_sum_le hwide
        (fun limit hlimit => ⟨(hfair limit hlimit).1.le, (hfair limit hlimit).2.2 rfl⟩) h

theorem sumLimits_le_iff {c : DecimalContext} (hprec : 18 ≤ c.prec) {mode : BudgetMode}
    {limits : List ℤ} (hfair : ∀ limit ∈ limits, Fair mode limit) {bound : ℤ}
    (hbound : bound < 10 ^ 30) : sumLimits c mode limits ≤ bound ↔ limits.sum ≤ bound := by
  constructor
  · exact sumLimits_le hprec hfair hbound
  · intro h
    rwa [sumLimits_of_sum_le hprec hfair hbound h]

/-- The limits of rows of one unit are all there. -/
theorem completeLimits_eq {mode : BudgetMode} {rows : List BudgetRow}
    (hreg : ∀ row ∈ rows, row.Regular) (hmode : ∀ row ∈ rows, row.budgetMode = mode)
    {limits : List ℤ} (h : completeLimits mode rows = .ok limits) : limits = rows.map amount := by
  refine mapM_eq_map h fun row hrow limit hlimit => ?_
  have hown := limit_budgetMode (hreg row hrow)
  rw [hmode row hrow] at hown
  rw [hown] at hlimit
  exact (Except.ok.inj hlimit).symm

/-! ## Upserts -/

/-- The limit of an upsert is that of its mode, and a fair one. -/
def OneFairLimit (row : BudgetRow) : Prop :=
  (∀ mode, row.limit mode ≠ none → mode = row.budgetMode) ∧
    ∀ limit ∈ row.limit row.budgetMode, Fair row.budgetMode limit

theorem oneFairLimit_withLimit (row : BudgetRow) {mode : BudgetMode} {limit : ℤ}
    (h : Fair mode limit) : OneFairLimit (row.withLimit mode limit) := by
  have hregular := regular_withLimit row h
  refine ⟨fun other => (hregular.oneLimit other).1, fun own hown => ?_⟩
  have hlimit : (row.withLimit mode limit).limit mode = some limit := limit_withLimit row mode limit
  exact Option.some.inj (hlimit.symm.trans hown) ▸ h

/-- The siblings that an upsert looks at are the other rows of the parent. -/
theorem siblings_eq (rows : List BudgetRow) {parent row : BudgetRow} (h : Under parent row) :
    (rows.filter fun other => other.periodStart = row.periodStart ∧
      other.scopeType = row.scopeType ∧ other.parentScopeId = some parent.scopeId ∧
        other.scopeId ≠ row.scopeId) =
      (rows.filter fun other => other.key ≠ row.key).filter fun other => Under parent other := by
  rw [List.filter_filter]
  refine List.filter_congr fun other _ => ?_
  rw [← Bool.decide_and]
  refine decide_eq_decide.2 ⟨?_, ?_⟩
  · rintro ⟨hperiod, htype, hparent, hid⟩
    exact ⟨⟨hperiod.trans h.1, htype ▸ h.2.1, hparent⟩,
      fun hkey => hid (congrArg (fun key : BudgetKey => key.2.2) hkey)⟩
  · rintro ⟨⟨hperiod, htype, hparent⟩, hkey⟩
    have hperiod' : other.periodStart = row.periodStart := hperiod.trans h.1.symm
    have htype' : other.scopeType = row.scopeType := Option.some.inj (htype.trans h.2.1.symm)
    exact ⟨hperiod', htype', hparent, fun hid => hkey (Prod.ext hperiod' (Prod.ext htype' hid))⟩

/-- The children that an upsert looks at are the rows under the row. -/
theorem children_eq (rows : List BudgetRow) {row : BudgetRow} {childType : BudgetScopeType}
    (h : row.scopeType.child? = some childType) :
    (rows.filter fun other => other.periodStart = row.periodStart ∧ other.scopeType = childType ∧
      other.parentScopeId = some row.scopeId) = rows.filter fun other => Under row other := by
  refine List.filter_congr fun other _ => decide_eq_decide.2 ?_
  unfold Under
  rw [h, Option.some_inj]

namespace BudgetStore

variable {s : BudgetStore} {row : BudgetRow}

theorem regular_of_oneFairLimit {limit : ℤ} (h : OneFairLimit row)
    (hlimit : row.limit row.budgetMode = some limit) : row.Regular ∧ row.amount = limit := by
  have hamount : row.amount = limit := by
    rw [amount, hlimit]
    rfl
  refine ⟨⟨fun mode => ⟨h.1 mode, ?_⟩, ?_⟩, hamount⟩
  · rintro rfl
    rw [hlimit]
    exact Option.some_ne_none limit
  · rw [hamount]
    exact h.2 limit hlimit

/-- The parent of a row is the one that an upsert looks up. -/
theorem budget?_parent (hs : Hierarchy s.tokenBudgets) {parent : BudgetRow}
    (hparent : parent ∈ s.tokenBudgets) (h : Under parent row) :
    ∃ type, row.scopeType.parent? = some type ∧ row.parentScopeId = some parent.scopeId ∧
      s.budget? (row.periodStart, type, parent.scopeId) = some parent := by
  obtain ⟨type, htype, hkey⟩ := h.parent_key
  exact ⟨type, htype, h.2.2, (Rows.find?_eq_some hs.nodup).2 ⟨hparent, hkey⟩⟩

/-- What the check against the parent says. -/
theorem checkParent_ok (hs : Hierarchy s.tokenBudgets) (hrow : row.Regular)
    (h : checkParent s row.periodStart row.scopeType row.scopeId row.parentScopeId row.budgetMode
      row.amount = .ok ()) : FitsParent s.tokenBudgets row := by
  intro parent hparent hunder
  obtain ⟨type, htype, hid, hlookup⟩ := budget?_parent hs hparent hunder
  have hregular := hs.regular parent hparent
  unfold checkParent at h
  rw [htype, hid] at h
  simp only [hlookup] at h
  obtain ⟨hmode, h⟩ := require_bind_eq_ok.1 h
  have hmode : parent.budgetMode = row.budgetMode := hmode parent rfl
  obtain ⟨hsiblings, h⟩ := require_bind_eq_ok.1 h
  obtain ⟨limits, hlimits, h⟩ := bind_eq_ok.1 h
  rw [siblings_eq _ hunder] at hsiblings hlimits
  have hmem : ∀ other ∈ (s.tokenBudgets.filter fun other => other.key ≠ row.key).filter fun other =>
      Under parent other, other.Regular := fun other hother =>
    hs.regular other (List.mem_of_mem_filter (List.mem_of_mem_filter hother))
  rw [completeLimits_eq hmem hsiblings hlimits] at h
  have hlimit : parent.limit row.budgetMode = some parent.amount := by
    rw [← hmode]
    exact limit_budgetMode hregular
  rw [Option.bind_some, hlimit] at h
  have hle := require_eq_ok.1 h
  refine ⟨hmode.symm, ?_⟩
  -- The amount is the last one that is added up.
  have happend : addLimits defaultContext row.budgetMode (sumLimits defaultContext row.budgetMode
      (((s.tokenBudgets.filter fun other => other.key ≠ row.key).filter fun other =>
        Under parent other).map amount)) row.amount =
      sumLimits defaultContext row.budgetMode
        ((((s.tokenBudgets.filter fun other => other.key ≠ row.key).filter fun other =>
          Under parent other).map amount) ++ [row.amount]) := by
    rw [sumLimits, sumLimits, List.foldl_append, List.foldl_cons, List.foldl_nil]
  rw [happend] at hle
  have hsum := sumLimits_le (by decide) (fun limit hlimit => ?_) hregular.fair.2.1 hle
  · rw [List.sum_append, List.sum_singleton] at hsum
    exact hsum
  · rcases List.mem_append.1 hlimit with hlimit | hlimit
    · obtain ⟨other, hother, rfl⟩ := List.mem_map.1 hlimit
      exact hsiblings other hother ▸ (hmem other hother).fair
    · rw [List.mem_singleton.1 hlimit]
      exact hrow.fair

/-- What the check against the children says. -/
theorem checkChildren_ok (hs : Hierarchy s.tokenBudgets) (hrow : row.Regular)
    (h : checkChildren s row.periodStart row.scopeType row.scopeId row.budgetMode row.amount
      = .ok ()) :
    CoversChildren s.tokenBudgets row := by
  cases htype : row.scopeType.child? with
  | none =>
      have hnone : ∀ child ∈ s.tokenBudgets, ¬Under row child := by
        intro child _ hunder
        have hchild := hunder.2.1
        rw [htype] at hchild
        cases hchild
      exact ⟨fun child hchild hunder => absurd hunder (hnone child hchild),
        (allocated_of_none hnone).trans_le hrow.pos.le⟩
  | some childType =>
      unfold checkChildren at h
      simp only [htype, children_eq _ htype] at h
      obtain ⟨hmodes, h⟩ := require_bind_eq_ok.1 h
      obtain ⟨limits, hlimits, h⟩ := bind_eq_ok.1 h
      have hreg : ∀ other ∈ s.tokenBudgets.filter (fun other => Under row other), other.Regular :=
        fun other hother => hs.regular other (List.mem_of_mem_filter hother)
      rw [completeLimits_eq hreg hmodes hlimits] at h
      refine ⟨fun child hchild hunder =>
        hmodes child (List.mem_filter.2 ⟨hchild, decide_eq_true hunder⟩), ?_⟩
      refine sumLimits_le (by decide) (fun limit hlimit => ?_) hrow.fair.2.1 (require_eq_ok.1 h)
      obtain ⟨other, hother, rfl⟩ := List.mem_map.1 hlimit
      exact hmodes other hother ▸ (hreg other hother).fair

end BudgetStore

/-- The budgets of a store are not over-allocated. -/
def InHierarchy (s : BudgetStore) : Prop := Hierarchy s.tokenBudgets

theorem upsertTokenBudget_keeps {row : BudgetRow} (h : OneFairLimit row) :
    Keeps InHierarchy (upsertTokenBudget row) := by
  intro s hs
  unfold upsertTokenBudget
  simp only [meets_bind, meets_get, meets_demand, meets_lift, meets_ite, meets_pure, meets_modify]
  refine ⟨fun limit hlimit => ⟨fun _ hparent => ⟨fun _ hchildren => ⟨fun _ => hs, fun _ => ?_⟩,
    fun _ _ => hs⟩, fun _ _ => hs⟩, fun _ => hs⟩
  obtain ⟨hregular, rfl⟩ := BudgetStore.regular_of_oneFairLimit h hlimit
  exact Hierarchy.put hs hregular (BudgetStore.checkParent_ok hs hregular hparent)
    (BudgetStore.checkChildren_ok hs hregular hchildren)

/-! ## The other writes of single rows -/

theorem deleteTokenBudget_keeps (key : BudgetKey) : Keeps InHierarchy (deleteTokenBudget key) := by
  intro s hs
  unfold deleteTokenBudget
  simp only [meets_bind, meets_get, meets_modify, meets_pure]
  exact Hierarchy.sublist hs List.filter_sublist

theorem entryRow_oneFairLimit {periodStart : ℤ} {departmentId : Text} {threshold : ℤ}
    {mode : BudgetMode} {entry : Text × ℤ} (h : Fair mode entry.2) :
    OneFairLimit (entryRow periodStart departmentId threshold mode entry) :=
  oneFairLimit_withLimit (entryRow periodStart departmentId threshold mode entry) h

theorem assignModels_keeps (userIds : List Text) (modelIds : List UUID) :
    Keeps InHierarchy (assignModels userIds modelIds) := by
  intro s hs
  unfold assignModels
  simp only [meets_bind, meets_get, meets_require]
  refine ⟨fun _ => meets_each hs fun userId _ t ht => ?_, fun _ => hs⟩
  rw [meets_modify]
  split
  next => split <;> exact ht
  next => exact ht

/-- The total that a bulk upsert checks is not needed: each of its upserts makes its checks. -/
theorem bulkUpsertUserBudgets_keeps {periodStart : ℤ} {departmentId : Text}
    {entries : List (Text × ℤ)} {threshold : ℤ} {mode : BudgetMode}
    {selectedUserIds : Option (List Text)} {modelIds : Option (List UUID)}
    (h : ∀ entry ∈ entries, Fair mode entry.2) :
    Keeps InHierarchy (bulkUpsertUserBudgets periodStart departmentId entries threshold mode
      selectedUserIds modelIds) := by
  intro s hs
  have hentries : ∀ t, InHierarchy t → Meets (each (fun entry => upsertTokenBudget
      (entryRow periodStart departmentId threshold mode entry)) entries) t
      (fun _ => InHierarchy) fun _ => InHierarchy := fun t ht =>
    meets_each ht fun entry hentry =>
      upsertTokenBudget_keeps (entryRow_oneFairLimit (h entry hentry))
  unfold bulkUpsertUserBudgets
  cases modelIds with
  | none =>
      simp only [meets_bind, meets_get, meets_ite, meets_lift, meets_pure]
      exact ⟨fun _ => ⟨fun _ _ => hentries s hs, fun _ _ => hs⟩, fun _ => hs⟩
  | some ids =>
      simp only [meets_bind, meets_get, meets_ite, meets_lift]
      refine ⟨fun _ => ⟨fun _ _ => ?_, fun _ _ => hs⟩, fun _ => assignModels_keeps _ _ s hs⟩
      exact (hentries s hs).mono (fun _ t ht => assignModels_keeps _ _ t ht) fun _ _ ht => ht

/-! ## A new period -/

/-- A period inherits from another only while it has no row. -/
theorem sourcePeriod_empty {s : BudgetStore} {periodStart source : ℤ}
    (h : sourcePeriod s periodStart = some source) :
    ∀ row ∈ s.tokenBudgets, row.periodStart ≠ periodStart := by
  unfold sourcePeriod at h
  split at h
  next => cases h
  next hnone => exact fun row hrow hperiod => hnone ⟨row, hrow, hperiod⟩

theorem tokenBudgets_foldl_putBudget (rows : List BudgetRow) (s : BudgetStore) :
    (rows.foldl BudgetStore.putBudget s).tokenBudgets
      = rows.foldl (fun budgets row => Rows.put BudgetRow.key row budgets) s.tokenBudgets := by
  induction rows generalizing s with
  | nil => rfl
  | cons row rows ih => exact ih (s.putBudget row)

theorem meets_each_put {s : BudgetStore} {f : BudgetRow → BudgetRow} {rows : List BudgetRow}
    {post : Unit → BudgetStore → Prop} {fails : BudgetError → BudgetStore → Prop} :
    Meets (each (fun row => modify fun s : BudgetStore => s.putBudget (f row)) rows) s post fails ↔
      post () ((rows.map f).foldl BudgetStore.putBudget s) := by
  induction rows generalizing s with
  | nil => rfl
  | cons row rows ih =>
      unfold each
      rw [meets_bind, meets_modify, ih]
      rfl

theorem rollForwardBudgets_keeps (periodStart : ℤ) :
    Keeps InHierarchy (rollForwardBudgets periodStart) := by
  intro s hs
  unfold rollForwardBudgets
  simp only [meets_bind, meets_get, meets_ite, meets_pure, meets_modify]
  refine ⟨fun _ => hs, fun _ => meets_each_put.2 ?_⟩
  change Hierarchy (List.foldl BudgetStore.putBudget s _).tokenBudgets
  rw [tokenBudgets_foldl_putBudget]
  cases hsource : sourcePeriod s periodStart with
  | none =>
      have hnil : s.tokenBudgets.filter (fun row => some row.periodStart = none) = [] :=
        List.filter_eq_nil_iff.2 fun row _ => by simp
      rw [hnil]
      exact hs
  | some source =>
      have hempty := sourcePeriod_empty hsource
      have hcopied : Hierarchy ((s.tokenBudgets.filter fun row =>
          some row.periodStart = some source).map (BudgetRow.inPeriod periodStart)) :=
        (Hierarchy.sublist hs List.filter_sublist).inPeriod (fun row hrow =>
          Option.some.inj (of_decide_eq_true (List.mem_filter.1 hrow).2)) periodStart
      have hdisjoint : ∀ row ∈ s.tokenBudgets, ∀ row' ∈ (s.tokenBudgets.filter fun row =>
          some row.periodStart = some source).map (BudgetRow.inPeriod periodStart),
          row.periodStart ≠ row'.periodStart := by
        intro row hrow row' hrow' heq
        obtain ⟨old, -, rfl⟩ := List.mem_map.1 hrow'
        exact hempty row hrow heq
      have happend := Rows.foldl_put_of_disjoint hcopied.nodup
        fun row' hrow' hmem => by
          obtain ⟨row, hrow, hkey⟩ := List.mem_map.1 hmem
          exact hdisjoint row hrow row' hrow' (Prod.mk.inj hkey).1
      have hresult := Hierarchy.append hs hcopied hdisjoint
      rw [← happend] at hresult
      exact hresult

end Turnstile
