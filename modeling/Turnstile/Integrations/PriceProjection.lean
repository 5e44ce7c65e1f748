import Turnstile.Foundation.Program
import Turnstile.Domain.Documents

/-!
# The projected price of a model

Writers publish the accepted price of a model with its time.  A writer leaves the
row alone when the stored digest is its own, when the stored time is newer, or
after another writer was faster; otherwise it replaces the row it read.

A write whose digest is stored already does not advance the stored time.  So an older
writer can replace a price that a newer call has published, exactly when the price is
stored under a time that the older writer has passed (`NoReversal`).  Otherwise, in
every state of every interleaving and over any stored row, the stored price is that of
the newest of the calls that returned, or of a newer projection (`Upheld`).
-/

namespace Turnstile

/-- A client of the price rows. -/
abbrev PriceProgram := Program UUID BudgetPriceProjection Empty LedgerError

/-- `replace_if_match`. -/
def replaceIfMatch (key : UUID) (document : BudgetPriceProjection) (etag : Option ℕ) :
    PriceProgram Bool := do
  match ← Program.send [⟨key, document, etag⟩] with
  | .committed => pure true
  | .conflict => pure false
  | .transport => .raise .transport

/-- One round of `project_model_price`. -/
def projectRound (projection : BudgetPriceProjection) (createOnly : Bool)
    (retry : PriceProgram Bool) : PriceProgram Bool := do
  match ← Program.get projection.modelId with
  | none =>
      if ← replaceIfMatch projection.modelId projection none then pure true else retry
  | some row =>
      let stored := row.document
      if stored.modelId ≠ projection.modelId then
        .raise (.protocolConflict "Projected price row has a foreign model identity")
      else if createOnly = true then pure false
      else if stored.priceSha256 = projection.priceSha256 then pure false
      else if projection.updatedAt < stored.updatedAt then pure false
      else if stored.updatedAt = projection.updatedAt then
        .raise (.protocolConflict "A price timestamp cannot identify two snapshots")
      else if ← replaceIfMatch projection.modelId projection (some row.etag) then pure true
      else retry

/-- `project_model_price`. -/
def projectModelPrice (projection : BudgetPriceProjection) (attempts : ℕ) (createOnly : Bool) :
    PriceProgram Bool :=
  Program.rounds (projectRound projection createOnly)
    (.raise (.unavailable "Price projection exhausted its bounded ETag retries"))
    (max 1 (min attempts 5))

/-! ## Writers of one model -/

section Writers

variable {ι : Type} {calls : ι → BudgetPriceProjection} {model : UUID}
  {first? : Option BudgetPriceProjection}

/-- The stored price is that of `projection`, or is stored under a time that is not older. -/
def Covers (model : UUID) (projection : BudgetPriceProjection)
    (w : World ι UUID BudgetPriceProjection) : Prop :=
  ∃ row, w.table.rows model = some row ∧
    (row.document.price = projection.price ∨ projection.updatedAt ≤ row.document.updatedAt)

/-- The projections that may be stored: the first row, and the calls that are newer. -/
def Storable (calls : ι → BudgetPriceProjection) (first? : Option BudgetPriceProjection)
    (d : BudgetPriceProjection) : Prop :=
  first? = some d ∨ ∃ i, d = calls i ∧ ∀ first ∈ first?, first.updatedAt < d.updatedAt

/-- The row of the model may be stored and covers every call that wrote, and what it covers
stays covered. -/
def priceProtocol (calls : ι → BudgetPriceProjection) (model : UUID)
    (first? : Option BudgetPriceProjection) : Protocol ι UUID BudgetPriceProjection where
  inv w := w.table.WellTagged ∧
    (∀ row, w.table.rows model = some row → Storable calls first? row.document) ∧
    (first? ≠ none → w.table.rows model ≠ none) ∧
    ∀ c ∈ w.log, Covers model (calls c.client) w
  rely _ w w' :=
    w.table.Evolves w'.table ∧ ∀ m, Covers model (calls m) w → Covers model (calls m) w'
  refl _ _ := ⟨Table.Evolves.refl _, fun _ => id⟩
  trans _ _ _ _ h₁ h₂ := ⟨h₁.1.trans h₂.1, fun m => h₂.2 m ∘ h₁.2 m⟩

/-- The price of a call that returned is covered. -/
def Published (calls : ι → BudgetPriceProjection) (model : UUID) (i : ι)
    (result : Except LedgerError Bool) (w : World ι UUID BudgetPriceProjection) : Prop :=
  ∀ b, result = .ok b → Covers model (calls i) w

/-- No price that a call publishes may be stored under a time that a call of another price,
older than that call, has passed. -/
def NoReversal (calls : ι → BudgetPriceProjection) (first? : Option BudgetPriceProjection) : Prop :=
  ∀ d b m, Storable calls first? d → d.price = (calls m).price →
    (calls b).price ≠ (calls m).price →
    ¬(d.updatedAt < (calls b).updatedAt ∧ (calls b).updatedAt < (calls m).updatedAt)

/-- What is assumed of the calls: one model, which the first row is of too, and distinct
times. -/
structure CallsOf (calls : ι → BudgetPriceProjection) (model : UUID)
    (first? : Option BudgetPriceProjection) : Prop where
  same : ∀ i, (calls i).modelId = model
  kept : ∀ first ∈ first?, first.modelId = model
  distinct : ∀ i j, (calls i).updatedAt = (calls j).updatedAt → i = j

variable {i : ι} {w w' : World ι UUID BudgetPriceProjection}

theorem Storable.modelId_eq {d : BudgetPriceProjection} (h : Storable calls first? d)
    (hcalls : CallsOf calls model first?) : d.modelId = model := by
  rcases h with hfirst | ⟨j, rfl, -⟩
  · exact hcalls.kept d hfirst
  · exact hcalls.same j

/-- A call that replaces what may be stored may be stored. -/
theorem Storable.newer {d : BudgetPriceProjection} (h : Storable calls first? d)
    (hlt : d.updatedAt < (calls i).updatedAt) : Storable calls first? (calls i) := by
  refine .inr ⟨i, rfl, fun first hfirst => ?_⟩
  rcases h with hd | ⟨j, rfl, hj⟩
  · rw [hd] at hfirst
    cases hfirst
    exact hlt
  · exact (hj first hfirst).trans hlt

/-- The condition, over the first row and over every three calls. -/
theorem noReversal_iff : NoReversal calls first? ↔
    (∀ first ∈ first?, ∀ b m, first.price = (calls m).price → (calls b).price ≠ (calls m).price →
      ¬(first.updatedAt < (calls b).updatedAt ∧ (calls b).updatedAt < (calls m).updatedAt)) ∧
    ∀ a b m, (∀ first ∈ first?, first.updatedAt < (calls a).updatedAt) →
      (calls a).price = (calls m).price → (calls b).price ≠ (calls m).price →
      ¬((calls a).updatedAt < (calls b).updatedAt ∧ (calls b).updatedAt < (calls m).updatedAt) := by
  constructor
  · intro hno
    exact ⟨fun first hfirst b m => hno first b m (.inl hfirst),
      fun a b m hnewer => hno (calls a) b m (.inr ⟨a, rfl, hnewer⟩)⟩
  · rintro ⟨hfirst, hcalls⟩ d b m (hd | ⟨a, rfl, hnewer⟩)
    · exact hfirst d hd b m
    · exact hcalls a b m hnewer

/-- A replaced row keeps to the protocol, if it covers what was covered. -/
theorem allows_replace {etag : Option ℕ} (reported : Bool)
    (hw : (priceProtocol calls model first?).inv w) (hstorable : Storable calls first? (calls i))
    (hstale : ∀ m, Covers model (calls m) w → (calls i).price = (calls m).price ∨
      (calls m).updatedAt ≤ (calls i).updatedAt) :
    (priceProtocol calls model first?).Allows i w
      (w.commit ⟨i, [⟨model, calls i, etag⟩], reported⟩) := by
  have hrow : (w.table.apply [⟨model, calls i, etag⟩]).rows model
      = some ⟨calls i, w.table.next⟩ :=
    Table.apply_rows_cons_self _ ⟨model, calls i, etag⟩ _
  have hkept : ∀ m, Covers model (calls m) w →
      Covers model (calls m) (w.commit ⟨i, [⟨model, calls i, etag⟩], reported⟩) :=
    fun m hcovers => ⟨_, hrow, hstale m hcovers⟩
  refine ⟨⟨hw.1.apply _, fun row hr => ?_, fun _ hnone => ?_, fun c hc => ?_⟩,
    fun j _ => ⟨Table.evolves_apply _ _, hkept⟩⟩
  · rw [World.commit_table, hrow] at hr
    cases hr
    exact hstorable
  · rw [World.commit_table, hrow] at hnone
    cases hnone
  · rcases List.mem_append.1 hc with hold | hnew
    · exact hkept c.client (hw.2.2.2 c hold)
    · rw [List.mem_singleton.1 hnew]
      exact ⟨_, hrow, .inl rfl⟩

theorem meets_raise (error : LedgerError) (w : World ι UUID BudgetPriceProjection) :
    (Program.raise error : PriceProgram Bool).Meets (priceProtocol calls model first?) i
      (Published calls model i) w := by
  intro _ _ _ b hb
  cases hb

/-- A call that found its price covered returns. -/
theorem meets_found {b : Bool} (hcovers : Covers model (calls i) w) :
    (Program.done (.ok b) : PriceProgram Bool).Meets (priceProtocol calls model first?) i
      (Published calls model i) w :=
  fun _ hrely _ _ _ => hrely.2 i hcovers

/-- What a conditional write of a round does. -/
theorem meets_replace {etag : Option ℕ} {retry : PriceProgram Bool}
    (hstale : ∀ w', (priceProtocol calls model first?).rely i w w' →
      (priceProtocol calls model first?).inv w' → w'.table.etag? model = etag →
      Storable calls first? (calls i) ∧ ∀ m, Covers model (calls m) w' →
        (calls i).price = (calls m).price ∨ (calls m).updatedAt ≤ (calls i).updatedAt)
    (hretry : ∀ w', (priceProtocol calls model first?).inv w' →
      retry.Meets (priceProtocol calls model first?) i (Published calls model i) w') :
    Program.Meets (priceProtocol calls model first?) i (Published calls model i)
      (do if ← replaceIfMatch model (calls i) etag then pure true else retry) w := by
  intro w₁ hrely hinv
  refine ⟨fun hadmits => ?_, fun _ => hretry w₁ hinv, meets_raise _ _⟩
  have htag : w₁.table.etag? model = etag := hadmits _ (List.mem_singleton_self _)
  obtain ⟨hstorable, hcovered⟩ := hstale w₁ hrely hinv htag
  refine ⟨fun reported => allows_replace reported hinv hstorable hcovered, meets_found ?_,
    meets_raise _ _⟩
  exact ⟨_, Table.apply_rows_cons_self _ ⟨model, calls i, etag⟩ _, .inl rfl⟩

/-- A round keeps to the protocol when no reversal is possible. -/
theorem meets_projectRound (hcalls : CallsOf calls model first?) (hno : NoReversal calls first?)
    {retry : PriceProgram Bool}
    (hretry : ∀ w', (priceProtocol calls model first?).inv w' →
      retry.Meets (priceProtocol calls model first?) i (Published calls model i) w')
    (w : World ι UUID BudgetPriceProjection) :
    (projectRound (calls i) false retry).Meets (priceProtocol calls model first?) i
      (Published calls model i) w := by
  unfold projectRound
  rw [hcalls.same, Program.get_bind]
  intro w₁ _ hinv
  cases hrow : w₁.table.rows model with
  | none =>
      refine meets_replace (fun w₂ _ _ htag => ⟨?_, fun m hcovers => ?_⟩) hretry
      · refine .inr ⟨i, rfl, fun first hfirst => ?_⟩
        exact absurd hrow (hinv.2.2.1 (Option.ne_none_iff_exists'.2 ⟨first, hfirst⟩))
      · obtain ⟨row, hr, -⟩ := hcovers
        rw [Table.etag?_eq_none] at htag
        rw [htag] at hr
        cases hr
  | some row =>
      have hstorable := hinv.2.1 row hrow
      simp only [hstorable.modelId_eq hcalls, ne_eq, not_true, if_false, Bool.false_eq_true]
      split
      next hsame =>
        -- The stored digest is the call's own.
        exact meets_found ⟨row, hrow, .inl (BudgetPriceProjection.price_eq_of_sha256 hsame)⟩
      next =>
        split
        next holder => exact meets_found ⟨row, hrow, .inr holder.le⟩
        next hnolder =>
          split
          next => exact meets_raise _ _
          next hne =>
            have hlt : row.document.updatedAt < (calls i).updatedAt := by omega
            refine meets_replace (fun w₂ hrely hinv₂ htag => ⟨hstorable.newer hlt, ?_⟩) hretry
            rintro m ⟨row', hr', hcovers⟩
            -- The tag matches, so the row is the one that was read.
            rw [hrely.1.row_of_etag hinv.1 hrow htag] at hr'
            cases hr'
            rcases hcovers with hprice | hnewer
            · by_contra hother
              obtain ⟨hother, hstale⟩ := not_or.1 hother
              exact hno row.document i m hstorable hprice hother ⟨hlt, not_le.1 hstale⟩
            · exact .inr (hnewer.trans hlt.le)

/-! ## Interleavings -/

/-- The writers of one model before any has started. -/
def writers (calls : ι → BudgetPriceProjection) (attempts : ι → ℕ)
    (t₀ : Table UUID BudgetPriceProjection) :
    System ι UUID BudgetPriceProjection Empty LedgerError Bool where
  world := ⟨t₀, []⟩
  threads i := projectModelPrice (calls i) (attempts i) false

variable [DecidableEq ι] {attempts : ι → ℕ}

/-- Nothing but the writers changes the table. -/
abbrev Interleaves : System ι UUID BudgetPriceProjection Empty LedgerError Bool →
    System ι UUID BudgetPriceProjection Empty LedgerError Bool → Prop :=
  System.Reaches fun _ _ => False

/-- The projection that is stored for the model. -/
def stored (t : Table UUID BudgetPriceProjection) (model : UUID) : Option BudgetPriceProjection :=
  (t.rows model).map Row.document

/-- The stored price is that of every call that returned or wrote, or is stored under a time
that is not older: no older writer has rolled it back. -/
def Upheld (calls : ι → BudgetPriceProjection) (model : UUID)
    (s : System ι UUID BudgetPriceProjection Empty LedgerError Bool) : Prop :=
  ∀ i, (∃ b, s.threads i = .done (.ok b)) ∨ (∃ c ∈ s.world.log, c.client = i) →
    ∃ d, stored s.world.table model = some d ∧
      (d.price = (calls i).price ∨ (calls i).updatedAt ≤ d.updatedAt)

/-- The stored price is that of the newest call, or of a first row that is not older. -/
def NewestStored (calls : ι → BudgetPriceProjection) (model : UUID)
    (first? : Option BudgetPriceProjection) (newest : ι)
    (s : System ι UUID BudgetPriceProjection Empty LedgerError Bool) : Prop :=
  ∃ d, stored s.world.table model = some d ∧ (d.price = (calls newest).price ∨
    first? = some d ∧ (calls newest).updatedAt ≤ d.updatedAt)

variable {s s' : System ι UUID BudgetPriceProjection Empty LedgerError Bool}
  {t₀ : Table UUID BudgetPriceProjection}

omit [DecidableEq ι] in
theorem Covers.stored {w : World ι UUID BudgetPriceProjection} {projection : BudgetPriceProjection}
    (h : Covers model projection w) : ∃ d, stored w.table model = some d ∧
      (d.price = projection.price ∨ projection.updatedAt ≤ d.updatedAt) := by
  obtain ⟨row, hrow, hcovers⟩ := h
  exact ⟨row.document, by rw [Turnstile.stored, hrow]; rfl, hcovers⟩

/-- Every state keeps to the protocol when no reversal is possible. -/
theorem sound_of_noReversal (htagged : t₀.WellTagged)
    (hcalls : CallsOf calls model (stored t₀ model)) (hno : NoReversal calls (stored t₀ model))
    (hreach : Interleaves (writers calls attempts t₀) s) :
    System.Sound (priceProtocol calls model (stored t₀ model)) (Published calls model) s := by
  have hstart : (priceProtocol calls model (stored t₀ model)).inv
      (writers calls attempts t₀).world := by
    refine ⟨htagged, fun row hrow => .inl ?_, fun hfirst hnone => hfirst ?_, fun _ hc => ?_⟩
    · rw [stored, show t₀.rows model = some row from hrow]
      rfl
    · rw [stored, show t₀.rows model = none from hnone]
      rfl
    · cases hc
  have hsound : System.Sound (priceProtocol calls model (stored t₀ model)) (Published calls model)
      (writers calls attempts t₀) := by
    refine ⟨hstart, fun i => ?_⟩
    refine Program.Meets.rounds (fun w _ => meets_raise _ w) (fun retry hretry w _ => ?_) _ _ hstart
    exact meets_projectRound hcalls hno hretry w
  exact hsound.reaches (fun _ _ _ h => h.elim) hreach

omit [DecidableEq ι] in
theorem upheld_of_sound
    (h : System.Sound (priceProtocol calls model first?) (Published calls model) s) :
    Upheld calls model s := by
  rintro i (⟨b, hreturned⟩ | ⟨c, hc, rfl⟩)
  · exact (h.result hreturned b rfl).stored
  · exact (h.inv.2.2.2 c hc).stored

omit [DecidableEq ι] in
/-- When all have returned, the newest price is stored. -/
theorem newestStored_of_sound {newest : ι} (hdistinct : CallsOf calls model first?)
    (hnewest : ∀ i, (calls i).updatedAt ≤ (calls newest).updatedAt)
    (h : System.Sound (priceProtocol calls model first?) (Published calls model) s) {b : Bool}
    (hreturned : s.threads newest = .done (.ok b)) : NewestStored calls model first? newest s := by
  obtain ⟨row, hrow, hcovers⟩ := h.result hreturned _ rfl
  refine ⟨row.document, by rw [stored, hrow]; rfl, ?_⟩
  rcases hcovers with hprice | hnewer
  · exact .inl hprice
  · rcases h.inv.2.1 row hrow with hfirst | ⟨j, hj, -⟩
    · exact .inr ⟨hfirst, hnewer⟩
    · rw [hj] at hnewer ⊢
      rw [hdistinct.distinct j newest (le_antisymm (hnewest j) hnewer)]
      exact .inl rfl

/-! ## Running the calls in turn -/

/-- What one call leaves when nothing interferes. -/
def published (stored : Option BudgetPriceProjection) (projection : BudgetPriceProjection) :
    BudgetPriceProjection :=
  match stored with
  | none => projection
  | some row =>
      if row.priceSha256 = projection.priceSha256 ∨ projection.updatedAt < row.updatedAt then row
      else projection

/-- A conditional write that nothing interferes with. -/
theorem replaces_alone {etag : Option ℕ} {retry : PriceProgram Bool}
    (hi : s.threads i = do if ← replaceIfMatch model (calls i) etag then pure true else retry)
    (htag : s.world.table.etag? model = etag) :
    ∃ s', Interleaves s s' ∧ s'.threads = Function.update s.threads i (.done (.ok true)) ∧
      stored s'.world.table model = some (calls i) := by
  have hadmits : s.world.table.Admits [⟨model, calls i, etag⟩] := by
    simp [htag]
  refine ⟨_, .single (.committed hi hadmits), rfl, ?_⟩
  have hrow := Table.apply_rows_cons_self s.world.table ⟨model, calls i, etag⟩ []
  simp only [stored, World.commit_table] at hrow ⊢
  rw [hrow]
  rfl

/-- One call, run from its start to its return, over a row whose time is not its own. -/
theorem runs_alone (hcalls : CallsOf calls model first?)
    (hi : s.threads i = projectModelPrice (calls i) (attempts i) false)
    (hstored : ∀ d, stored s.world.table model = some d → d.modelId = model ∧
      (d.updatedAt = (calls i).updatedAt → d.priceSha256 = (calls i).priceSha256)) :
    ∃ s' b, Interleaves s s' ∧ s'.threads = Function.update s.threads i (.done (.ok b)) ∧
      stored s'.world.table model
        = some (published (stored s.world.table model) (calls i)) := by
  obtain ⟨n, hn⟩ : ∃ n, max 1 (min (attempts i) 5) = n + 1 :=
    Nat.exists_eq_succ_of_ne_zero (by omega)
  rw [projectModelPrice, hn, Program.rounds, projectRound, Program.get_bind, hcalls.same] at hi
  have hread : Interleaves s _ := .single (System.Step.read hi)
  cases hrow : s.world.table.rows model with
  | none =>
      rw [hrow] at hread
      obtain ⟨s', hreach, hthreads, hs'⟩ := replaces_alone
        (s := ⟨s.world, Function.update s.threads i _⟩) (Function.update_self i _ _)
        (Table.etag?_eq_none.2 hrow)
      refine ⟨s', true, hread.trans hreach, ?_, ?_⟩
      · rw [hthreads, Function.update_idem]
      · rw [hs', stored, hrow]
        rfl
  | some row =>
      have hkept : stored s.world.table model = some row.document := by rw [stored, hrow]; rfl
      obtain ⟨hmodel, htime⟩ := hstored row.document hkept
      rw [hrow] at hread
      simp only [hmodel, ne_eq, not_true, if_false, Bool.false_eq_true] at hread
      rw [hkept, published]
      by_cases hsame : row.document.priceSha256 = (calls i).priceSha256
      · rw [if_pos hsame] at hread
        rw [if_pos (.inl hsame)]
        exact ⟨_, false, hread, rfl, hkept⟩
      rw [if_neg hsame] at hread
      by_cases holder : (calls i).updatedAt < row.document.updatedAt
      · rw [if_pos holder] at hread
        rw [if_pos (.inr holder)]
        exact ⟨_, false, hread, rfl, hkept⟩
      rw [if_neg holder, if_neg fun heq => hsame (htime heq)] at hread
      rw [if_neg (not_or.2 ⟨hsame, holder⟩)]
      obtain ⟨s', hreach, hthreads, hs'⟩ := replaces_alone
        (s := ⟨s.world, Function.update s.threads i _⟩) (Function.update_self i _ _)
        (Table.etag?_eq_some.2 ⟨row.document, hrow⟩)
      refine ⟨s', true, hread.trans hreach, ?_, hs'⟩
      rw [hthreads, Function.update_idem]

/-- A call that finds its price stored, and then an older call of another price. -/
theorem reversal_from {d : BudgetPriceProjection} {b m : ι} (hcalls : CallsOf calls model first?)
    (hd : stored s.world.table model = some d) (hmodel : d.modelId = model)
    (hm : s.threads m = projectModelPrice (calls m) (attempts m) false)
    (hb : s.threads b = projectModelPrice (calls b) (attempts b) false)
    (hprice : d.price = (calls m).price) (hother : (calls b).price ≠ (calls m).price)
    (hpassed : d.updatedAt < (calls b).updatedAt)
    (holder : (calls b).updatedAt < (calls m).updatedAt) :
    ∃ s', Interleaves s s' ∧ ¬Upheld calls model s' := by
  have hne : b ≠ m := fun heq => hother (by rw [heq])
  have hsame : d.priceSha256 = (calls m).priceSha256 :=
    BudgetPriceProjection.sha256_eq_of_price hprice
  have hdiffers : d.priceSha256 ≠ (calls b).priceSha256 := fun h =>
    hother ((BudgetPriceProjection.price_eq_of_sha256 h).symm.trans hprice)
  obtain ⟨s₁, r, hreach₁, hthreads₁, hstored₁⟩ := runs_alone hcalls hm fun d' hd' => by
    rw [hd] at hd'
    cases hd'
    exact ⟨hmodel, fun _ => hsame⟩
  rw [hd, published, if_pos (.inl hsame)] at hstored₁
  have hb₁ : s₁.threads b = projectModelPrice (calls b) (attempts b) false := by
    rw [hthreads₁, Function.update_of_ne hne, hb]
  obtain ⟨s₂, r', hreach₂, hthreads₂, hstored₂⟩ := runs_alone hcalls hb₁ fun d' hd' => by
    rw [hstored₁] at hd'
    cases hd'
    exact ⟨hmodel, fun heq => absurd heq (by omega)⟩
  rw [hstored₁, published, if_neg (not_or.2 ⟨hdiffers, by omega⟩)] at hstored₂
  refine ⟨s₂, hreach₁.trans hreach₂, fun hupheld => ?_⟩
  have hreturned : s₂.threads m = .done (.ok r) := by
    rw [hthreads₂, Function.update_of_ne hne.symm, hthreads₁, Function.update_self]
  obtain ⟨d', hd', hcovers⟩ := hupheld m (.inl ⟨r, hreturned⟩)
  rw [hstored₂] at hd'
  cases hd'
  rcases hcovers with hprice' | hnewer
  · exact hother hprice'
  · omega

/-- A projection that may be stored can be stored, or its price under an older time. -/
theorem runs_storable (attempts : ι → ℕ) {d : BudgetPriceProjection}
    (hcalls : CallsOf calls model (stored t₀ model)) (hd : Storable calls (stored t₀ model) d) :
    ∃ s d', Interleaves (writers calls attempts t₀) s ∧ stored s.world.table model = some d' ∧
      d'.modelId = model ∧ d'.price = d.price ∧ d'.updatedAt ≤ d.updatedAt ∧
      ∀ i, d.updatedAt < (calls i).updatedAt →
        s.threads i = projectModelPrice (calls i) (attempts i) false := by
  rcases hd with hfirst | ⟨a, rfl, hnewer⟩
  · exact ⟨_, d, .refl, hfirst, hcalls.kept d hfirst, rfl, le_refl _, fun _ _ => rfl⟩
  · have hcall : (writers calls attempts t₀).threads a
        = projectModelPrice (calls a) (attempts a) false := rfl
    obtain ⟨s, b, hreach, hthreads, hs⟩ := runs_alone hcalls hcall fun d' hd' =>
      ⟨hcalls.kept d' hd', fun heq => absurd heq (hnewer d' hd').ne⟩
    have hstart : (writers calls attempts t₀).world.table = t₀ := rfl
    rw [hstart] at hs
    have hothers : ∀ i, (calls a).updatedAt < (calls i).updatedAt →
        s.threads i = projectModelPrice (calls i) (attempts i) false := by
      intro i hlt
      rw [hthreads, Function.update_of_ne fun heq => absurd hlt (by rw [heq]; exact lt_irrefl _)]
      rfl
    cases hfirst : stored t₀ model with
    | none =>
        rw [hfirst] at hs
        exact ⟨s, calls a, hreach, hs, hcalls.same a, rfl, le_refl _, hothers⟩
    | some first =>
        have hlt := hnewer first hfirst
        rw [hfirst, published] at hs
        split at hs
        next hkept =>
          rcases hkept with hsame | holder
          · exact ⟨s, first, hreach, hs, hcalls.kept first hfirst,
              BudgetPriceProjection.price_eq_of_sha256 hsame, hlt.le, hothers⟩
          · exact absurd hlt (not_lt.2 holder.le)
        next => exact ⟨s, calls a, hreach, hs, hcalls.same a, rfl, le_refl _, hothers⟩

/-- A reversal is reached where one is possible. -/
theorem reversal_reached {d : BudgetPriceProjection} {b m : ι}
    (hcalls : CallsOf calls model (stored t₀ model)) (hd : Storable calls (stored t₀ model) d)
    (hprice : d.price = (calls m).price) (hother : (calls b).price ≠ (calls m).price)
    (hpassed : d.updatedAt < (calls b).updatedAt)
    (holder : (calls b).updatedAt < (calls m).updatedAt) :
    ∃ s, Interleaves (writers calls attempts t₀) s ∧ ¬Upheld calls model s := by
  obtain ⟨s, d', hreach, hstored, hmodel, hsame, hle, hstart⟩ :=
    runs_storable attempts hcalls hd
  obtain ⟨s', hreach', hnot⟩ := reversal_from hcalls hstored hmodel
    (hstart m (hpassed.trans holder)) (hstart b hpassed) (hsame.trans hprice) hother
    (hle.trans_lt hpassed) holder
  exact ⟨s', hreach.trans hreach', hnot⟩

end Writers

namespace Sample

/-- The model without a price, one microsecond after `projection`. -/
def withoutPrice : BudgetPriceProjection where
  modelId := 3
  priceSha256 := ⟨none, []⟩
  price := none
  rateSchedules := []
  updatedAt := start + 1
  verified := by decide +kernel

/-- A price, no price, and the first price again, each newer than the one before. -/
def priceCalls (i : Fin 3) : BudgetPriceProjection :=
  if i = 0 then projection
  else if i = 1 then withoutPrice
  else { projection with updatedAt := start + 2 }

/-- The first call writes, the third finds its digest, then the second writes. -/
def reversal : List (Fin 3 × Label Empty) :=
  [(0, .read), (0, .reported), (2, .read), (1, .read), (1, .reported)]

/-- No row of the model. -/
def noPrice : Table UUID BudgetPriceProjection := ⟨fun _ => none, 0⟩

/-- The first price is stored. -/
def firstPrice : Table UUID BudgetPriceProjection where
  rows key := if key = 3 then some ⟨projection, 0⟩ else none
  next := 1

theorem noPrice_wellTagged : noPrice.WellTagged := by
  intro key row hrow
  cases hrow

theorem firstPrice_wellTagged : firstPrice.WellTagged := by
  intro key row hrow
  simp only [firstPrice] at hrow ⊢
  split at hrow
  next =>
    cases hrow
    exact Nat.zero_lt_one
  next => cases hrow

/-- No price, and a newer one. -/
def risingCalls (i : Fin 2) : BudgetPriceProjection :=
  if i = 0 then withoutPrice else { projection with updatedAt := start + 2 }

theorem risingCalls_of_none : CallsOf risingCalls 3 none := by
  refine ⟨by decide +kernel, fun _ h => ?_, by decide +kernel⟩
  cases h

theorem risingCalls_of_first : CallsOf risingCalls 3 (some projection) := by
  refine ⟨by decide +kernel, fun first h => ?_, by decide +kernel⟩
  cases h
  rfl

end Sample

section Wins

variable {ι : Type} [DecidableEq ι] {calls : ι → BudgetPriceProjection} {model : UUID}
  {newest : ι} {attempts : ι → ℕ} {t₀ : Table UUID BudgetPriceProjection}

/-- Over any stored row, no price that was published is rolled back in any state of any
interleaving, and the newest price is stored once all calls have returned, exactly when no
price of a call may be stored under a time that an older call of another price has passed. -/
theorem newest_price_wins_iff (htagged : t₀.WellTagged)
    (hcalls : CallsOf calls model (stored t₀ model))
    (hnewest : ∀ i, (calls i).updatedAt ≤ (calls newest).updatedAt) :
    (∀ s, Interleaves (writers calls attempts t₀) s → Upheld calls model s ∧
      ((∀ i, ∃ b, s.threads i = .done (.ok b)) →
        NewestStored calls model (stored t₀ model) newest s)) ↔
      NoReversal calls (stored t₀ model) := by
  constructor
  · intro hall d b m hd hprice hother hpassed
    obtain ⟨s, hreach, hnot⟩ : ∃ s, Interleaves (writers calls attempts t₀) s ∧
        ¬Upheld calls model s :=
      reversal_reached hcalls hd hprice hother hpassed.1 hpassed.2
    exact hnot (hall s hreach).1
  · intro hno s hreach
    have hsound := sound_of_noReversal htagged hcalls hno hreach
    refine ⟨upheld_of_sound hsound, fun hreturned => ?_⟩
    obtain ⟨b, hb⟩ := hreturned newest
    exact newestStored_of_sound hcalls hnewest hsound hb

end Wins

/-- Without a stored row the second price stays; over the first price, which the second call
finds stored, the first call rolls it back. -/
theorem newest_price_wins_iff_sample :
    (∀ s, Interleaves (writers Sample.risingCalls (fun _ => 3) Sample.noPrice) s →
      Upheld Sample.risingCalls 3 s ∧ ((∀ i, ∃ b, s.threads i = .done (.ok b)) →
        NewestStored Sample.risingCalls 3 none 1 s)) ∧
      ¬ ∀ s, Interleaves (writers Sample.risingCalls (fun _ => 3) Sample.firstPrice) s →
        Upheld Sample.risingCalls 3 s ∧ ((∀ i, ∃ b, s.threads i = .done (.ok b)) →
          NewestStored Sample.risingCalls 3 (some Sample.projection) 1 s) := by
  have hnewest : ∀ i, (Sample.risingCalls i).updatedAt ≤ (Sample.risingCalls 1).updatedAt := by
    decide +kernel
  constructor
  · have hcalls : CallsOf Sample.risingCalls 3 (stored Sample.noPrice 3) :=
      Sample.risingCalls_of_none
    refine (newest_price_wins_iff Sample.noPrice_wellTagged hcalls hnewest).2 ?_
    exact noReversal_iff.2 ⟨fun _ h => (by cases h), by decide +kernel⟩
  · intro hall
    have hcalls : CallsOf Sample.risingCalls 3 (stored Sample.firstPrice 3) :=
      Sample.risingCalls_of_first
    have hno := (newest_price_wins_iff Sample.firstPrice_wellTagged hcalls hnewest).1 hall
    exact hno Sample.projection 0 1 (.inl rfl) (by decide +kernel) (by decide +kernel)
      (by decide +kernel)

/-- The price of the first call is the newest, but the second call's is stored. -/
theorem newest_price_reversed :
    ¬ ∀ (calls : Fin 3 → BudgetPriceProjection) (attempts : Fin 3 → ℕ) model newest s,
      CallsOf calls model none → (∀ i, (calls i).updatedAt ≤ (calls newest).updatedAt) →
      Interleaves (writers calls attempts Sample.noPrice) s →
      (∀ i, ∃ b, s.threads i = .done (.ok b)) → NewestStored calls model none newest s := by
  intro hall
  have htest : ((writers Sample.priceCalls (fun _ => 3) Sample.noPrice).run? Sample.reversal).any
      (fun s => decide (∀ i, (s.threads i).returned = true) &&
        decide ((stored s.world.table 3).map (·.price) ≠
          some (Sample.priceCalls 2).price)) = true := by
    decide +kernel
  obtain ⟨s, hrun, hs⟩ := (Option.any_eq_true _ _).1 htest
  obtain ⟨hreturned, hprice⟩ := Bool.and_eq_true_iff.1 hs
  obtain ⟨d, hd, hnewest⟩ := hall Sample.priceCalls (fun _ => 3) 3 2 s
    ⟨by decide +kernel, fun _ h => (by cases h), by decide +kernel⟩ (by decide +kernel)
    (System.reaches_of_run? hrun)
    fun i => Program.returned_iff.1 (of_decide_eq_true hreturned i)
  rcases hnewest with hsame | ⟨hfirst, -⟩
  · refine of_decide_eq_true hprice ?_
    rw [hd, ← hsame]
    rfl
  · cases hfirst

end Turnstile
