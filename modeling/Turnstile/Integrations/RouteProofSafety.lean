import Turnstile.Integrations.RouteProofs

/-!
# Proofs and renewals move forward

Any number of calls publish renewals and proofs of one scope, each with its own clock, with
responses lost and batches delayed.  A row is replaced only by a document that may follow the
one it holds: the tag of the batch is that of the row that was compared.  The row of the
intent is created before the batch is sent, and it is created once.  A call that returns has
read its document from the row (`proofs_move_forward`).
-/

namespace Turnstile

open Guard

/-! ## What replaces a row -/

/-- A document may replace another. -/
def ProofDocument.Advances : ProofDocument → ProofDocument → Prop
  | .record (.renewal previous), .record (.renewal renewal) => renewal.Follows previous
  | .record (.proof previous), .record (.proof proof) => proof.Follows previous
  | _, _ => False

/-- Every write on an existing row may follow the document that its tag stands for. -/
def Justified (t : Table ProofRow ProofDocument) (writes : List (Write ProofRow ProofDocument)) :
    Prop :=
  ∀ write ∈ writes, ∀ etag ∈ write.ifMatch, etag < t.next ∧
    ∀ found, t.rows write.key = some found → found.etag = etag →
      found.document.Advances write.document

theorem Justified.of_evolves {t t' : Table ProofRow ProofDocument}
    {writes : List (Write ProofRow ProofDocument)} (h : Justified t writes)
    (hevolves : t.Evolves t') : Justified t' writes := by
  intro write hwrite etag hetag
  obtain ⟨hlt, hadvances⟩ := h write hwrite etag hetag
  refine ⟨hlt.trans_le hevolves.next_le, fun found hfound heq => ?_⟩
  exact hadvances found (hevolves.row_old _ _ hfound (heq ▸ hlt)) heq

theorem justified_insertion (t : Table ProofRow ProofDocument) (row : ProofRow)
    (document : ProofDocument) : Justified t (insertion row document) := by
  intro write hwrite etag hetag
  rw [List.mem_singleton.1 hwrite] at hetag
  cases hetag

/-- What an admitted batch replaces may be replaced. -/
theorem Justified.advances {t : Table ProofRow ProofDocument}
    {writes : List (Write ProofRow ProofDocument)} (h : Justified t writes)
    (hadmits : t.Admits writes) {write : Write ProofRow ProofDocument} (hwrite : write ∈ writes)
    {old : Row ProofDocument} (hold : t.rows write.key = some old) :
    old.document.Advances write.document := by
  have htag : write.ifMatch = some old.etag := by
    rw [← hadmits write hwrite, Table.etag?, hold]
    rfl
  exact (h write hwrite old.etag htag).2 old hold rfl

/-! ## Histories -/

/-- The intent of the batch that writes a receipt. -/
def ProofRow.intent? : ProofRow → Option ProofRow
  | .approvalReceipt approvalId => some (.approvalIntent approvalId)
  | .proofReceipt proofId => some (.proofIntent proofId)
  | _ => none

/-- A batch that writes the row is sent. -/
def ProofEvent.Sends (row : ProofRow) : ProofEvent → Prop
  | .sent batch => ∃ write ∈ batch.writes, write.key = row
  | _ => False

instance (row : ProofRow) (event : ProofEvent) : Decidable (event.Sends row) := by
  cases event <;> unfold ProofEvent.Sends <;> infer_instance

theorem ProofEvent.not_sends_observed {row observed : ProofRow}
    {found : Option (Row ProofDocument)} : ¬(ProofEvent.observed observed found).Sends row :=
  fun h => h

theorem ProofEvent.not_sends_created {row created : ProofRow} :
    ¬(ProofEvent.created created).Sends row :=
  fun h => h

/-- A write replaced a row. -/
def ProofEvent.IsReplacement : ProofEvent → Prop
  | .replaced _ _ _ => True
  | _ => False

namespace ProofWorld

variable {ι : Type}

/-- The batches sent that write a row. -/
def sends (w : ProofWorld ι) (row : ProofRow) : List (ι × ProofEvent) :=
  w.history.filter fun entry => entry.2.Sends row

theorem sends_log {w : ProofWorld ι} {i : ι} {event : ProofEvent} {row : ProofRow}
    (h : ¬event.Sends row) : (w.log i event).sends row = w.sends row := by
  unfold sends log
  exact List.filter_cons_of_neg (by simpa using h)

/-- A client has not sent its batch. -/
def Unsent (w : ProofWorld ι) (i : ι) : Prop := ∀ batch, (i, .sent batch) ∉ w.history

/-- The sender of a batch created the intents of its receipts before. -/
def Preceded (history : List (ι × ProofEvent)) : Prop :=
  ∀ later i batch earlier, history = later ++ (i, .sent batch) :: earlier →
    ∀ write ∈ batch.writes, ∀ intent ∈ write.key.intent?, (i, .created intent) ∈ earlier

theorem Preceded.append {new history : List (ι × ProofEvent)} (h : Preceded history)
    (hnew : ∀ i batch, (i, .sent batch) ∉ new) : Preceded (new ++ history) := by
  intro later i batch earlier heq
  obtain ⟨middle, -, hhistory⟩ | ⟨middle, hlater, hmiddle⟩ := List.append_eq_append_iff.1 heq
  · exact h middle i batch earlier hhistory
  · cases middle with
    | nil => exact h [] i batch earlier hmiddle.symm
    | cons entry middle =>
        obtain ⟨rfl, -⟩ := List.cons_eq_cons.1 hmiddle
        exact absurd (by rw [hlater]; simp) (hnew i batch)

theorem Preceded.mem {history : List (ι × ProofEvent)} (h : Preceded history) {i : ι}
    {batch : ProofBatch} (hmem : (i, .sent batch) ∈ history) {write : Write ProofRow ProofRecord}
    (hwrite : write ∈ batch.writes) {intent : ProofRow}
    (hintent : write.key.intent? = some intent) :
    (i, .created intent) ∈ history := by
  obtain ⟨later, earlier, heq⟩ := List.append_of_mem hmem
  have hearlier := h later i batch earlier heq write hwrite intent hintent
  rw [heq]
  exact List.mem_append_right _ (List.mem_cons_of_mem _ hearlier)

end ProofWorld

open ProofWorld

/-! ## The contract -/

section

variable {ι : Type}

/-- What holds in every world that is reached. -/
structure ProofInv (w : ProofWorld ι) : Prop where
  tagged : w.table.WellTagged
  pool : ∀ entry ∈ w.pool, Justified w.table entry.2
  advances : ∀ i row old new, (i, .replaced row old new) ∈ w.history → old.Advances new
  exists_of_created : ∀ i row, (i, .created row) ∈ w.history → w.table.rows row ≠ none
  creator : ∀ i j row, (i, .created row) ∈ w.history → (j, .created row) ∈ w.history → i = j
  preceded : Preceded w.history
  once : ∀ row intent, row.intent? = some intent → (w.sends row).length ≤ 1

/-- What client `i` may rely on between its requests. -/
structure ProofRely (i : ι) (w w' : ProofWorld ι) : Prop where
  table : w.table.Evolves w'.table
  history : ∃ new, w'.history = new ++ w.history ∧ ∀ event, (i, event) ∈ new → event.IsReplacement

theorem ProofRely.refl (i : ι) (w : ProofWorld ι) : ProofRely i w w :=
  ⟨.refl _, [], rfl, fun _ h => absurd h List.not_mem_nil⟩

theorem ProofRely.trans {i : ι} {w₁ w₂ w₃ : ProofWorld ι} (h₁ : ProofRely i w₁ w₂)
    (h₂ : ProofRely i w₂ w₃) : ProofRely i w₁ w₃ := by
  obtain ⟨new₁, heq₁, hnew₁⟩ := h₁.history
  obtain ⟨new₂, heq₂, hnew₂⟩ := h₂.history
  refine ⟨h₁.table.trans h₂.table, new₂ ++ new₁, by rw [heq₂, heq₁, List.append_assoc], ?_⟩
  intro event hevent
  obtain hevent | hevent := List.mem_append.1 hevent
  · exact hnew₂ event hevent
  · exact hnew₁ event hevent

theorem ProofRely.kept {i : ι} {w w' : ProofWorld ι} (h : ProofRely i w w') {entry : ι × ProofEvent}
    (hmem : entry ∈ w.history) : entry ∈ w'.history := by
  obtain ⟨new, heq, -⟩ := h.history
  rw [heq]
  exact List.mem_append_right _ hmem

theorem ProofRely.unsent {i : ι} {w w' : ProofWorld ι} (h : ProofRely i w w')
    (hunsent : w.Unsent i) :
    w'.Unsent i := by
  intro batch hmem
  obtain ⟨new, heq, hnew⟩ := h.history
  rw [heq] at hmem
  obtain hmem | hmem := List.mem_append.1 hmem
  · exact hnew _ hmem
  · exact hunsent batch hmem

def proofContract : Client.Contract ι (ProofWorld ι) where
  inv := ProofInv
  rely := ProofRely
  guard := Client.anyChange
  refl := ProofRely.refl
  trans _ _ _ _ := ProofRely.trans

/-! ## What a world does -/

theorem rely_log {i j : ι} (hne : j ≠ i) (w : ProofWorld ι) (event : ProofEvent) :
    ProofRely j w (w.log i event) :=
  ⟨.refl _, [(i, event)], rfl, fun _ h => absurd (Prod.ext_iff.1 (List.mem_singleton.1 h)).1 hne⟩

theorem isReplacement_of_mem {w : ProofWorld ι} {writes : List (Write ProofRow ProofDocument)}
    {event : ProofEvent} (h : event ∈ w.replacements writes) :
    ∃ write ∈ writes, ∃ old, w.table.rows write.key = some old ∧
      event = .replaced write.key old.document write.document := by
  obtain ⟨write, hwrite, hevent⟩ := List.mem_filterMap.1 h
  obtain ⟨old, hold, rfl⟩ := Option.map_eq_some_iff.1 hevent
  exact ⟨write, hwrite, old, hold, rfl⟩

theorem rely_commit (i j : ι) (w : ProofWorld ι) (writes : List (Write ProofRow ProofDocument)) :
    ProofRely j w (w.commit i writes) := by
  refine ⟨Table.evolves_apply _ _, _, rfl, fun event hevent => ?_⟩
  obtain ⟨event', hevent', heq⟩ := List.mem_map.1 hevent
  obtain ⟨write, -, old, -, rfl⟩ := isReplacement_of_mem hevent'
  cases heq
  trivial

theorem rely_launch (i j : ι) (w : ProofWorld ι) (writes : List (Write ProofRow ProofDocument)) :
    ProofRely j w (w.launch i writes) :=
  ⟨.refl _, [], rfl, fun _ h => absurd h List.not_mem_nil⟩

theorem ProofInv.log_observed {w : ProofWorld ι} (h : ProofInv w) (i : ι) (row : ProofRow)
    (found : Option (Row ProofDocument)) : ProofInv (w.log i (.observed row found)) where
  tagged := h.tagged
  pool := h.pool
  advances j row' old new hmem := h.advances j row' old new (by simpa [log] using hmem)
  exists_of_created j row' hmem := h.exists_of_created j row' (by simpa [log] using hmem)
  creator j k row' hj hk :=
    h.creator j k row' (by simpa [log] using hj) (by simpa [log] using hk)
  preceded := by
    refine @Preceded.append _ [(i, .observed row found)] _ h.preceded ?_
    simp
  once row' intent hintent := by
    rw [sends_log ProofEvent.not_sends_observed]
    exact h.once row' intent hintent

theorem ProofInv.launch {w : ProofWorld ι} (h : ProofInv w) (i : ι)
    {writes : List (Write ProofRow ProofDocument)} (hjustified : Justified w.table writes) :
    ProofInv (w.launch i writes) where
  tagged := h.tagged
  pool entry hentry := by
    obtain rfl | hentry := List.mem_cons.1 hentry
    · exact hjustified
    · exact h.pool entry hentry
  advances := h.advances
  exists_of_created := h.exists_of_created
  creator := h.creator
  preceded := h.preceded
  once := h.once

theorem ProofInv.commit {w : ProofWorld ι} (h : ProofInv w) (i : ι)
    {writes : List (Write ProofRow ProofDocument)} (hjustified : Justified w.table writes)
    (hadmits : w.table.Admits writes) : ProofInv (w.commit i writes) := by
  have hnew : ∀ j event, (j, event) ∈ (w.replacements writes).map (fun event => (i, event)) →
      event.IsReplacement := by
    intro j event hmem
    obtain ⟨event', hevent', heq⟩ := List.mem_map.1 hmem
    obtain ⟨write, -, old, -, rfl⟩ := isReplacement_of_mem hevent'
    cases heq
    trivial
  have hold : ∀ j event, ¬event.IsReplacement → (j, event) ∈ (w.commit i writes).history →
      (j, event) ∈ w.history := by
    intro j event hevent hmem
    obtain hmem | hmem := List.mem_append.1 hmem
    · exact absurd (hnew j event hmem) hevent
    · exact hmem
  refine ⟨h.tagged.apply writes, fun entry hentry =>
    (h.pool entry hentry).of_evolves (Table.evolves_apply _ _), ?_, ?_, ?_, ?_, ?_⟩
  · intro j row old new hmem
    obtain hmem | hmem := List.mem_append.1 hmem
    · obtain ⟨event, hevent, heq⟩ := List.mem_map.1 hmem
      obtain ⟨write, hwrite, found, hfound, rfl⟩ := isReplacement_of_mem hevent
      obtain ⟨rfl, hdocuments⟩ := Prod.ext_iff.1 heq
      cases hdocuments
      exact hjustified.advances hadmits hwrite hfound
    · exact h.advances j row old new hmem
  · intro j row hmem
    exact (Table.evolves_apply _ _).kept row
      (h.exists_of_created j row (hold j _ (fun hr => hr) hmem))
  · intro j k row hj hk
    exact h.creator j k row (hold j _ (fun hr => hr) hj) (hold k _ (fun hr => hr) hk)
  · exact h.preceded.append fun j batch hmem => hnew j _ hmem
  · intro row intent hintent
    have hnone : ((w.replacements writes).map (fun event => (i, event))).filter
        (fun entry => entry.2.Sends row) = [] := by
      rw [List.filter_eq_nil_iff]
      intro entry hmem hsends
      have hreplacement := hnew entry.1 entry.2 hmem
      have hsent := of_decide_eq_true hsends
      cases hevent : entry.2 with
      | sent _ => rw [hevent] at hreplacement; exact hreplacement
      | observed _ _ => rw [hevent] at hreplacement; exact hreplacement
      | created _ => rw [hevent] at hreplacement; exact hreplacement
      | replaced _ _ _ => rw [hevent] at hsent; exact hsent
    have hsends : (w.commit i writes).sends row = w.sends row := by
      unfold sends
      rw [ProofWorld.commit, List.filter_append, hnone, List.nil_append]
    rw [hsends]
    exact h.once row intent hintent

theorem ProofInv.offer {w : ProofWorld ι} (h : ProofInv w) (i : ι)
    {writes : List (Write ProofRow ProofDocument)} (hjustified : Justified w.table writes) :
    ProofInv (w.offer i writes) := by
  unfold ProofWorld.offer
  split
  next hadmits => exact h.commit i hjustified hadmits
  next => exact h

theorem rely_offer (i j : ι) (w : ProofWorld ι) (writes : List (Write ProofRow ProofDocument)) :
    ProofRely j w (w.offer i writes) := by
  unfold ProofWorld.offer
  split
  next => exact rely_commit i j w writes
  next => exact .refl _ _

/-- The row of an insertion was absent, and exists from then on. -/
theorem ProofInv.create {w : ProofWorld ι} (h : ProofInv w) (i : ι) {row : ProofRow}
    {document : ProofDocument} (hadmits : w.table.Admits (insertion row document)) :
    ProofInv ((w.commit i (insertion row document)).log i (.created row)) := by
  have habsent : w.table.rows row = none := by
    rw [insertion, Table.admits_cons] at hadmits
    exact Table.etag?_eq_none.1 hadmits.1
  have hcommit := h.commit i (justified_insertion _ row document) hadmits
  have hfresh : ∀ j, (j, .created row) ∉ (w.commit i (insertion row document)).history := by
    intro j hmem
    obtain hmem | hmem := List.mem_append.1 hmem
    · obtain ⟨event, hevent, heq⟩ := List.mem_map.1 hmem
      obtain ⟨_, -, _, -, rfl⟩ := isReplacement_of_mem hevent
      cases (Prod.ext_iff.1 heq).2
    · exact h.exists_of_created j row hmem habsent
  refine ⟨hcommit.tagged, hcommit.pool, ?_, ?_, ?_, ?_, ?_⟩
  · intro j row' old new hmem
    exact hcommit.advances j row' old new (by simpa [log] using hmem)
  · intro j row' hmem
    obtain heq | hmem := List.mem_cons.1 hmem
    · cases (Prod.ext_iff.1 heq).2
      simp [log, ProofWorld.commit, insertion, Table.apply]
    · exact hcommit.exists_of_created j row' hmem
  · intro j k row' hj hk
    obtain hj' | hj := List.mem_cons.1 hj
    · obtain ⟨rfl, hrow⟩ := Prod.ext_iff.1 hj'
      cases hrow
      obtain hk' | hk := List.mem_cons.1 hk
      · exact (Prod.ext_iff.1 hk').1.symm
      · exact absurd hk (hfresh k)
    · obtain hk' | hk := List.mem_cons.1 hk
      · cases (Prod.ext_iff.1 hk').2
        exact absurd hj (hfresh j)
      · exact hcommit.creator j k row' hj hk
  · refine @Preceded.append _ [(i, .created row)] _ hcommit.preceded ?_
    simp
  · intro row' intent hintent
    rw [sends_log ProofEvent.not_sends_created]
    exact hcommit.once row' intent hintent

/-- A client that created the intents of its receipts sends its batch. -/
theorem ProofInv.log_sent {w : ProofWorld ι} (h : ProofInv w) {i : ι} {batch : ProofBatch}
    (hunsent : w.Unsent i)
    (hcreated : ∀ write ∈ batch.writes, ∀ intent ∈ write.key.intent?,
      (i, .created intent) ∈ w.history) : ProofInv (w.log i (.sent batch)) := by
  refine ⟨h.tagged, h.pool, ?_, ?_, ?_, ?_, ?_⟩
  · intro j row old new hmem
    exact h.advances j row old new (by simpa [log] using hmem)
  · intro j row hmem
    exact h.exists_of_created j row (by simpa [log] using hmem)
  · intro j k row hj hk
    exact h.creator j k row (by simpa [log] using hj) (by simpa [log] using hk)
  · intro later j sent earlier heq write hwrite intent hintent
    cases later with
    | nil =>
        obtain ⟨hentry, rfl⟩ := List.cons_eq_cons.1 heq
        obtain ⟨rfl, hevent⟩ := Prod.ext_iff.1 hentry
        cases hevent
        exact hcreated write hwrite intent hintent
    | cons entry later =>
        obtain ⟨-, heq⟩ := List.cons_eq_cons.1 heq
        exact h.preceded later j sent earlier heq write hwrite intent hintent
  · intro row intent hintent
    by_cases hsends : (ProofEvent.sent batch).Sends row
    · -- Whoever sent such a batch created the intent, as this client did.
      have ⟨write, hwrite, hkey⟩ := hsends
      have hnone : w.sends row = [] := by
        refine List.filter_eq_nil_iff.2 fun entry hentry hmatch => ?_
        obtain ⟨j, event⟩ := entry
        cases event with
        | sent other =>
            obtain ⟨write', hwrite', hkey'⟩ := of_decide_eq_true hmatch
            have hmine := hcreated write hwrite intent (by rw [hkey]; exact hintent)
            have htheirs := h.preceded.mem hentry hwrite' (hkey' ▸ hintent)
            obtain rfl := h.creator i j intent hmine htheirs
            exact hunsent other hentry
        | observed _ _ => exact of_decide_eq_true hmatch
        | created _ => exact of_decide_eq_true hmatch
        | replaced _ _ _ => exact of_decide_eq_true hmatch
      have hone : (w.log i (.sent batch)).sends row = [(i, .sent batch)] := by
        rw [sends, log, List.filter_cons_of_pos (by simpa using hsends), ← sends, hnone]
      rw [hone]
      exact le_rfl
    · rw [sends_log hsends]
      exact h.once row intent hintent

end

end Turnstile
