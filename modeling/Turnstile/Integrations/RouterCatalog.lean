import Turnstile.Integrations.RouterTableProjection

/-!
# The router catalog under concurrent calls

A call changes the row of its router's identifier, and in the row of its name just the
documents of its own router (`Lawful`).  Where no name is the identifier of another router,
the documents of a router are changed by its own calls only.  So its last call decides what
the catalog shows of it, however the calls for other routers interleave
(`catalog_faithful`).
-/

namespace Turnstile

/-! ## What a row holds -/

/-- The primary document and the alternate documents. -/
def RouterEntity.documents (entity : RouterEntity) : List RouterDocument :=
  entity.document :: entity.alternateDocuments

/-- The documents are of distinct routers. -/
def RouterEntity.Regular (entity : RouterEntity) : Prop :=
  (entity.documents.map (·.routerId)).Nodup

/-- The documents of a router in a row. -/
def documentsOf (entity : Option RouterEntity) (routerId : UUID) : List RouterDocument :=
  (entity.elim [] RouterEntity.documents).filter fun d => d.routerId = routerId

theorem foldl_setDefault {docs rest : List RouterDocument}
    (h : ((docs ++ rest).map (·.routerId)).Nodup) : rest.foldl setDefault docs = docs ++ rest := by
  induction rest generalizing docs with
  | nil => exact (List.append_nil docs).symm
  | cons doc rest ih =>
      have hnew : doc.routerId ∉ docs.map (·.routerId) := by
        intro hmem
        rw [List.map_append, List.map_cons] at h
        exact List.disjoint_of_nodup_append h hmem List.mem_cons_self
      rw [List.foldl_cons, setDefault, if_neg hnew, ih, List.append_assoc]
      · rfl
      · rwa [List.append_assoc, List.singleton_append]

/-- Every document of a regular entity is parsed. -/
theorem parseEntityDocuments_eq {entity : RouterEntity} (h : entity.Regular) :
    parseEntityDocuments entity = entity.documents :=
  foldl_setDefault h

theorem regular_of_sublist {entity : RouterEntity} {docs : List RouterDocument}
    (h : entity.Regular) (hdocs : docs.Sublist entity.documents) :
    (docs.map (·.routerId)).Nodup :=
  h.sublist (hdocs.map _)

/-! ## The entities that calls write -/

theorem idEntity_regular (router : CatalogRouter) (contents : String) :
    (idEntity router contents).Regular := List.nodup_singleton _

section

variable {entity : RouterEntity} {targetId : UUID} {active : Option (List UUID)}

theorem otherDocs_sublist (h : entity.Regular) :
    (otherDocs targetId active entity).Sublist entity.documents := by
  rw [otherDocs, parseEntityDocuments_eq h]
  exact List.filter_sublist

theorem otherDocs_ne {d : RouterDocument} (h : d ∈ otherDocs targetId active entity) :
    d.routerId ≠ targetId :=
  (of_decide_eq_true (List.mem_filter.1 h).2).1

theorem nameEntity_regular {router : CatalogRouter} (contents : String) (h : entity.Regular) :
    (nameEntity router contents (otherDocs router.id active entity)).Regular := by
  refine List.nodup_cons.2 ⟨fun hmem => ?_, regular_of_sublist h (otherDocs_sublist h)⟩
  obtain ⟨d, hd, hid⟩ := List.mem_map.1 hmem
  exact otherDocs_ne hd hid

/-- The row of a name has one document of the router that was merged into it. -/
theorem documentsOf_nameEntity {router : CatalogRouter} {contents : String}
    {docs : List RouterDocument} (h : ∀ d ∈ docs, d.routerId ≠ router.id) :
    documentsOf (some (nameEntity router contents docs)) router.id =
      [buildRouterTableDocument router contents] := by
  have hnone : docs.filter (fun d => d.routerId = router.id) = [] :=
    List.filter_eq_nil_iff.2 fun d hd hid => h d hd (of_decide_eq_true hid)
  have hself : (buildRouterTableDocument router contents).routerId = router.id := rfl
  change List.filter _ (buildRouterTableDocument router contents :: docs) = _
  rw [List.filter_cons, if_pos (decide_eq_true hself), hnone]

/-- The documents of another router are merged as they are, if it is active. -/
theorem documentsOf_otherDocs {router : CatalogRouter} {contents : String} {r : UUID}
    (h : entity.Regular) (hr : r ≠ router.id) :
    documentsOf (some (nameEntity router contents (otherDocs router.id active entity))) r =
      if ∀ ids ∈ active, r ∈ ids then documentsOf (some entity) r else [] := by
  have hother : documentsOf (some (nameEntity router contents
      (otherDocs router.id active entity))) r =
      (otherDocs router.id active entity).filter fun d => d.routerId = r := by
    have hself : (buildRouterTableDocument router contents).routerId ≠ r := Ne.symm hr
    change List.filter _ (buildRouterTableDocument router contents :: _) = _
    rw [List.filter_cons, decide_eq_false hself]
    rfl
  rw [hother, otherDocs, parseEntityDocuments_eq h, List.filter_filter]
  split
  next hactive =>
    refine List.filter_congr fun d _ => ?_
    by_cases hd : d.routerId = r
    · subst hd
      simpa [hr] using hactive
    · simp [hd]
  next hactive =>
    rw [List.filter_eq_nil_iff]
    intro d _ hd
    simp only [Bool.and_eq_true, decide_eq_true_eq] at hd
    obtain ⟨rfl, -, hmem⟩ := hd
    exact hactive hmem

/-- The documents that a deletion leaves. -/
theorem documents_of_remaining {docs : List RouterDocument} (h : entity.Regular)
    (hdocs : (parseEntityDocuments entity).filter (fun d => d.routerId ≠ targetId) = docs) :
    docs.Sublist entity.documents ∧ (∀ d ∈ docs, d.routerId ≠ targetId) ∧
      ∀ r ≠ targetId, docs.filter (fun d => d.routerId = r) = documentsOf (some entity) r := by
  rw [parseEntityDocuments_eq h] at hdocs
  subst hdocs
  refine ⟨List.filter_sublist, fun d hd => of_decide_eq_true (List.mem_filter.1 hd).2,
    fun r hr => ?_⟩
  rw [List.filter_filter]
  refine List.filter_congr fun d _ => ?_
  by_cases hd : d.routerId = r
  · subst hd
    simpa using hr
  · simp [hd]

end

/-! ## What a call changes -/

section

variable (folding : Folding)

/-- The row of an identifier. -/
def idKey (routerId : UUID) : RouterRowKey := routerRowKey folding (.ofUuid routerId)

theorem idKey_injective : Function.Injective (idKey folding) := by
  intro a b h
  have htext : folding.lower (.ofUuid a) = folding.lower (.ofUuid b) := congrArg Sha256.of h
  rw [folding.lower_ofUuid, folding.lower_ofUuid] at htext
  exact (Text.uuid.inj htext).1

variable {ι : Type} (calls : ι → CatalogCall)

/-- Some call publishes a router. -/
def Catalogued (routerId : UUID) : Prop :=
  ∃ i, (calls i).routerId = routerId ∧ (calls i).document? ≠ none

/-- A call changes the row of its router's identifier, or the documents of its router in
the row of the name.  Documents of a router that is not published may be dropped. -/
def Lawful (call : CatalogCall) (key : RouterRowKey) (before after : Option RouterEntity) : Prop :=
  key = idKey folding call.routerId ∨
    (∃ name ∈ call.routerName, key = routerRowKey folding name) ∧
      ∀ r ≠ call.routerId, (Catalogued calls r → documentsOf after r = documentsOf before r) ∧
        (documentsOf before r = [] → documentsOf after r = [])

/-- Calls of published routers: a router has one name, which its deletions give too, no
name is the identifier of another router, and a list of active routers has all that are
published. -/
structure RegularCalls : Prop where
  named : ∀ i, ∃ name ≠ .plain "", (calls i).routerName = some name
  names : ∀ i j, (calls i).routerId = (calls j).routerId →
    (calls i).routerName = (calls j).routerName
  apart : ∀ i j, (calls i).routerId ≠ (calls j).routerId → ∀ name ∈ (calls i).routerName,
    routerRowKey folding name ≠ idKey folding (calls j).routerId
  active : ∀ i router contents ids, calls i = .upsert router contents (some ids) →
    ∀ r, Catalogued calls r → r ∈ ids

end

/-! ## The contract of all calls -/

section

variable {folding : Folding} {ι : Type} {calls : ι → CatalogCall} {w w' : CatalogWorld ι}

/-- Rows have old tags and are regular, and all changes were lawful. -/
structure CatalogWorld.Sane (folding : Folding) (calls : ι → CatalogCall) (w : CatalogWorld ι) :
    Prop where
  tagged : w.table.WellTagged
  regular : ∀ key entity, w.entity? key = some entity → entity.Regular
  lawful : ∀ change ∈ w.history,
    Lawful folding calls (calls change.client) change.key change.before change.after

theorem CatalogWorld.entity?_change_self (w : CatalogWorld ι) (i : ι) (key : RouterRowKey)
    (after : Option RouterEntity) : (w.change i key after).entity? key = after := by
  unfold entity? change
  rw [Table.set_rows_self, Option.map_map]
  exact Option.map_id_apply

theorem CatalogWorld.entity?_change_of_ne (w : CatalogWorld ι) (i : ι) {key key' : RouterRowKey}
    (after : Option RouterEntity) (h : key' ≠ key) :
    (w.change i key after).entity? key' = w.entity? key' := by
  unfold entity? change
  rw [Table.set_rows_of_ne _ _ h]

theorem CatalogWorld.Sane.change (h : w.Sane folding calls) {i : ι} {key : RouterRowKey}
    {after : Option RouterEntity} (hregular : ∀ entity, after = some entity → entity.Regular)
    (hlawful : Lawful folding calls (calls i) key (w.entity? key) after) :
    (w.change i key after).Sane folding calls where
  tagged := h.tagged.set key after
  regular := by
    intro key' entity hentity
    by_cases hkey : key' = key
    · subst hkey
      rw [w.entity?_change_self] at hentity
      exact hregular entity hentity
    · rw [w.entity?_change_of_ne i after hkey] at hentity
      exact h.regular key' entity hentity
  lawful := by
    intro change hchange
    rcases List.mem_cons.1 hchange with rfl | hchange
    · exact hlawful
    · exact h.lawful change hchange

/-- All calls keep the partition sane, and rely on tags only. -/
def catalogContract (folding : Folding) (calls : ι → CatalogCall) :
    Client.Contract ι (CatalogWorld ι) where
  inv := CatalogWorld.Sane folding calls
  rely _ w w' := w.table.Later w'.table
  guard := Client.anyChange
  refl _ w := .refl w.table
  trans _ _ _ _ h h' := h.trans h'

theorem allows_change (h : w.Sane folding calls) {i : ι} {key : RouterRowKey}
    {after : Option RouterEntity} (hregular : ∀ entity, after = some entity → entity.Regular)
    (hlawful : Lawful folding calls (calls i) key (w.entity? key) after) :
    (catalogContract folding calls).Allows i w (w.change i key after) :=
  ⟨h.change hregular hlawful, fun _ _ => w.table.later_set key after⟩

end

/-! ## Requests -/

section

variable {ι : Type} {P : Client.Contract ι (CatalogWorld ι)} {i : ι} {β : Type}
  {Q : Except CatalogError β → CatalogWorld ι → Prop} {w : CatalogWorld ι} {key : RouterRowKey}

/-- The rule for a read. -/
theorem meets_getEntity {f : GetAnswer → CatalogClient β}
    (h : ∀ w', P.rely i w w' → P.inv w' →
      Client.Meets catalogDynamics P i Q (f ((w'.table.rows key).elim .missing .found)) w' ∧
        Client.Meets catalogDynamics P i Q (f .failed) w') :
    Client.Meets catalogDynamics P i Q (getEntity key >>= f) w := by
  intro w' hrely hinv l a w'' hanswer _
  cases l with
  | answered =>
      cases hanswer
      exact ⟨.refl hinv, (h w' hrely hinv).1⟩
  | refused =>
      cases hanswer
      exact ⟨.refl hinv, (h w' hrely hinv).2⟩
  | lost =>
      cases hanswer
      exact ⟨.refl hinv, (h w' hrely hinv).2⟩

/-- The rule for a write. -/
theorem meets_write {f : WriteAnswer → CatalogClient β} {after : Option RouterEntity}
    {condition : WriteCondition}
    (h : ∀ w', P.rely i w w' → P.inv w' →
      (w'.Admits key condition → P.Allows i w' (w'.change i key after) ∧
        Client.Meets catalogDynamics P i Q (f .written) (w'.change i key after) ∧
        Client.Meets catalogDynamics P i Q (f .failed) (w'.change i key after)) ∧
      (¬w'.Admits key condition →
        Client.Meets catalogDynamics P i Q (f (w'.refusal key)) w') ∧
      Client.Meets catalogDynamics P i Q (f .failed) w') :
    Client.Meets catalogDynamics P i Q (.call (.write key after condition) f) w := by
  intro w' hrely hinv l a w'' hanswer _
  obtain ⟨hadmitted, hrefused, hfailed⟩ := h w' hrely hinv
  cases l with
  | answered =>
      by_cases hadmits : w'.Admits key condition
      · have hsame := Option.some.inj hanswer
        rw [if_pos hadmits] at hsame
        cases hsame
        exact ⟨(hadmitted hadmits).1, (hadmitted hadmits).2.1⟩
      · have hsame := Option.some.inj hanswer
        rw [if_neg hadmits] at hsame
        cases hsame
        exact ⟨.refl hinv, hrefused hadmits⟩
  | refused =>
      cases hanswer
      exact ⟨.refl hinv, hfailed⟩
  | lost =>
      by_cases hadmits : w'.Admits key condition
      · have hsame := Option.some.inj hanswer
        rw [if_pos hadmits] at hsame
        cases hsame
        exact ⟨(hadmitted hadmits).1, (hadmitted hadmits).2.2⟩
      · have hsame := Option.some.inj hanswer
        rw [if_neg hadmits] at hsame
        cases hsame
        exact ⟨.refl hinv, hfailed⟩

end

/-! ## Merging and removing, as if at once -/

/-- What the documents of a router are merged into. -/
structure Merged (router : CatalogRouter) (contents : String) (active : Option (List UUID))
    (before : Option RouterEntity) (after : RouterEntity) : Prop where
  regular : after.Regular
  primary : after.document = buildRouterTableDocument router contents
  own : documentsOf (some after) router.id = [buildRouterTableDocument router contents]
  others : ∀ r ≠ router.id, documentsOf (some after) r =
    if ∀ ids ∈ active, r ∈ ids then documentsOf before r else []

/-- What is left when the documents of a router are removed. -/
structure Remainder (targetId : UUID) (before : RouterEntity) (after : Option RouterEntity) :
    Prop where
  regular : ∀ entity, after = some entity → entity.Regular
  own : documentsOf after targetId = []
  others : ∀ r ≠ targetId, documentsOf after r = documentsOf (some before) r

theorem merged_missing (router : CatalogRouter) (contents : String)
    (active : Option (List UUID)) :
    Merged router contents active none (nameEntity router contents [])
    where
  regular := List.nodup_singleton _
  primary := rfl
  own := documentsOf_nameEntity fun _ hd => absurd hd List.not_mem_nil
  others := by
    intro r hr
    have hself : (buildRouterTableDocument router contents).routerId ≠ r := Ne.symm hr
    have hnone : documentsOf (some (nameEntity router contents [])) r = [] := by
      change List.filter _ [buildRouterTableDocument router contents] = _
      rw [List.filter_cons, decide_eq_false hself]
      rfl
    rw [hnone]
    exact (ite_self _).symm

theorem merged_found {router : CatalogRouter} (contents : String) {active : Option (List UUID)}
    {entity : RouterEntity} (h : entity.Regular) :
    Merged router contents active (some entity)
      (nameEntity router contents (otherDocs router.id active entity)) where
  regular := nameEntity_regular contents h
  primary := rfl
  own := documentsOf_nameEntity fun _ => otherDocs_ne
  others _ hr := documentsOf_otherDocs h hr

theorem remainder_replacement {targetId : UUID} {entity : RouterEntity} {name : Text}
    {primaryDoc : RouterDocument} {altDocs : List RouterDocument} (h : entity.Regular)
    (hdocs : (parseEntityDocuments entity).filter (fun d => d.routerId ≠ targetId) =
      primaryDoc :: altDocs) :
    Remainder targetId entity (some (replacementEntity name primaryDoc altDocs)) := by
  obtain ⟨hsublist, hne, hothers⟩ := documents_of_remaining h hdocs
  refine ⟨?_, ?_, hothers⟩
  · rintro _ ⟨⟩
    exact regular_of_sublist h hsublist
  · exact List.filter_eq_nil_iff.2 fun d hd hid => hne d hd (of_decide_eq_true hid)

theorem remainder_none {targetId : UUID} {entity : RouterEntity} (h : entity.Regular)
    (hdocs : (parseEntityDocuments entity).filter (fun d => d.routerId ≠ targetId) = []) :
    Remainder targetId entity none := by
  obtain ⟨-, -, hothers⟩ := documents_of_remaining h hdocs
  exact ⟨fun _ hnone => (by cases hnone), rfl, hothers⟩

section

variable {folding : Folding} {ι : Type} {P : Client.Contract ι (CatalogWorld ι)} {i : ι}
  {Q : Except CatalogError Unit → CatalogWorld ι → Prop} {R : CatalogWorld ι → Prop}
  {w : CatalogWorld ι}

/-- A contract that knows of tags and regular rows. -/
structure Informed (P : Client.Contract ι (CatalogWorld ι)) (i : ι) : Prop where
  tagged : ∀ w, P.inv w → w.table.WellTagged
  regular : ∀ w, P.inv w → ∀ key entity, w.entity? key = some entity → entity.Regular
  later : ∀ w w', P.rely i w w' → w.table.Later w'.table

/-- What holds while a client waits, and that errors may be raised. -/
structure Waits (P : Client.Contract ι (CatalogWorld ι)) (i : ι) (R : CatalogWorld ι → Prop)
    (Q : Except CatalogError Unit → CatalogWorld ι → Prop) : Prop where
  stable : ∀ w w', R w → P.rely i w w' → P.inv w' → R w'
  error : ∀ e w, Q (.error e) w

theorem Waits.raise (h : Waits P i R Q) (e : CatalogError) :
    Client.Meets catalogDynamics P i Q (Client.raise e) w := fun w' _ _ => h.error e w'

theorem Waits.settle {again : Option (CatalogClient Unit)} {answer : WriteAnswer}
    (h : Waits P i R Q) (hw : R w)
    (hagain : ∀ p ∈ again, ∀ w, R w → Client.Meets catalogDynamics P i Q p w)
    (hanswer : answer ≠ .written) :
    Client.Meets catalogDynamics P i Q (answer.settle again) w := by
  cases answer with
  | written => exact absurd rfl hanswer
  | conflict =>
      cases again with
      | none => exact h.raise .conflict
      | some p => exact hagain p rfl w hw
  | missing => exact h.raise .missing
  | failed => exact h.raise .failed

theorem refusal_ne_written (w : CatalogWorld ι) (key : RouterRowKey) :
    w.refusal key ≠ .written := by
  unfold CatalogWorld.refusal
  split <;> exact WriteAnswer.noConfusion

/-- A row that was read is there while its tag matches. -/
theorem Informed.found (h : Informed P i) {key : RouterRowKey} {row : Row RouterEntity}
    {w w' : CatalogWorld ι} (hinv : P.inv w) (hrely : P.rely i w w')
    (hrow : w.table.rows key = some row) (hadmits : w'.Admits key (.tagged row.etag)) :
    w'.entity? key = some row.document :=
  congrArg (Option.map Row.document)
    ((h.later w w' hrely).row_of_etag (h.tagged w hinv) hrow hadmits)

/-- The rounds of `upsert_router` merge the documents at once. -/
theorem meets_mergeName (hinformed : Informed P i) (hwaits : Waits P i R Q)
    {router : CatalogRouter} {contents : String} {active : Option (List UUID)}
    (hmerge : ∀ w, P.inv w → R w → ∀ after,
      Merged router contents active (w.entity? (routerRowKey folding router.name)) after →
        P.Allows i w (w.change i (routerRowKey folding router.name) (some after)) ∧
          Client.Meets catalogDynamics P i Q (pure ())
            (w.change i (routerRowKey folding router.name) (some after))) :
    ∀ n, n ≠ 0 → ∀ w, R w →
      Client.Meets catalogDynamics P i Q (mergeName folding router contents active n) w := by
  intro n
  induction n with
  | zero => exact fun h => absurd rfl h
  | succ n ih =>
      intro _ w hw
      rw [mergeName]
      have hagain :
          ∀ p ∈ (if n = 0 then none else some (mergeName folding router contents active n)),
          ∀ w, R w → Client.Meets catalogDynamics P i Q p w := by
        intro p hp
        split at hp
        next => cases hp
        next hn =>
          cases hp
          exact ih hn
      refine meets_getEntity fun w₁ hrely hinv => ?_
      have hw₁ := hwaits.stable w w₁ hw hrely hinv
      refine ⟨?_, hwaits.raise .failed⟩
      cases hrow : w₁.table.rows (routerRowKey folding router.name) with
      | none =>
          refine meets_write fun w₂ hrely₂ hinv₂ => ?_
          have hw₂ := hwaits.stable w₁ w₂ hw₁ hrely₂ hinv₂
          refine ⟨fun hadmits => ?_, fun _ => ?_, hwaits.raise .failed⟩
          · have hmissing : w₂.entity? (routerRowKey folding router.name) = none :=
              congrArg (Option.map Row.document) hadmits
            obtain ⟨hallows, hdone⟩ := hmerge w₂ hinv₂ hw₂ (nameEntity router contents [])
              (hmissing ▸ merged_missing router contents active)
            exact ⟨hallows, hdone, hwaits.raise .failed⟩
          · exact hwaits.settle hw₂ hagain (refusal_ne_written w₂ _)
      | some row =>
          refine meets_write fun w₂ hrely₂ hinv₂ => ?_
          have hw₂ := hwaits.stable w₁ w₂ hw₁ hrely₂ hinv₂
          refine ⟨fun hadmits => ?_, fun _ => ?_, hwaits.raise .failed⟩
          · have hfound := hinformed.found hinv hrely₂ hrow hadmits
            have hregular := hinformed.regular w₂ hinv₂ _ _ hfound
            obtain ⟨hallows, hdone⟩ := hmerge w₂ hinv₂ hw₂ _
              (hfound ▸ (merged_found contents hregular : Merged router contents active _ _))
            exact ⟨hallows, hdone, hwaits.raise .failed⟩
          · exact hwaits.settle hw₂ hagain (refusal_ne_written w₂ _)

/-- The rounds of `delete_router` remove the documents at once, if there are any. -/
theorem meets_removeName (hinformed : Informed P i) (hwaits : Waits P i R Q) {targetId : UUID}
    {name : Text}
    (hremove : ∀ w, P.inv w → R w → ∀ before, w.entity? (routerRowKey folding name) = some before →
      ∀ after, Remainder targetId before after →
        P.Allows i w (w.change i (routerRowKey folding name) after) ∧
          Client.Meets catalogDynamics P i Q (pure ())
            (w.change i (routerRowKey folding name) after))
    (hkeep : ∀ w, P.inv w → R w →
      documentsOf (w.entity? (routerRowKey folding name)) targetId = [] →
        Client.Meets catalogDynamics P i Q (pure ()) w) :
    ∀ n, n ≠ 0 → ∀ w, R w →
      Client.Meets catalogDynamics P i Q (removeName folding targetId name n) w := by
  intro n
  induction n with
  | zero => exact fun h => absurd rfl h
  | succ n ih =>
      intro _ w hw
      rw [removeName]
      have hagain : ∀ p ∈ (if n = 0 then none else some (removeName folding targetId name n)),
          ∀ w, R w → Client.Meets catalogDynamics P i Q p w := by
        intro p hp
        split at hp
        next => cases hp
        next hn =>
          cases hp
          exact ih hn
      refine meets_getEntity fun w₁ hrely hinv => ?_
      have hw₁ := hwaits.stable w w₁ hw hrely hinv
      refine ⟨?_, hwaits.raise .failed⟩
      cases hrow : w₁.table.rows (routerRowKey folding name) with
      | none =>
          have hmissing : w₁.entity? (routerRowKey folding name) = none :=
            congrArg (Option.map Row.document) hrow
          exact hkeep w₁ hinv hw₁ (by rw [hmissing]; rfl)
      | some row =>
          have hfound₁ : w₁.entity? (routerRowKey folding name) = some row.document :=
            congrArg (Option.map Row.document) hrow
          have hregular := hinformed.regular w₁ hinv _ _ hfound₁
          have hdocuments := parseEntityDocuments_eq hregular
          change Client.Meets catalogDynamics P i Q (removeFrom folding targetId name _ row) w₁
          cases hdocs : (parseEntityDocuments row.document).filter
              (fun d => decide (d.routerId ≠ targetId)) with
          | cons primaryDoc altDocs =>
              simp only [removeFrom, hdocs]
              split
              next =>
                refine meets_write fun w₂ hrely₂ hinv₂ => ?_
                have hw₂ := hwaits.stable w₁ w₂ hw₁ hrely₂ hinv₂
                refine ⟨fun hadmits => ?_, fun _ => ?_, hwaits.raise .failed⟩
                · obtain ⟨hallows, hdone⟩ := hremove w₂ hinv₂ hw₂ _
                    (hinformed.found hinv hrely₂ hrow hadmits) _
                    (remainder_replacement hregular hdocs)
                  exact ⟨hallows, hdone, hwaits.raise .failed⟩
                · exact hwaits.settle hw₂ hagain (refusal_ne_written w₂ _)
              next hsame =>
                -- Nothing was filtered out, so the row has no document of the router.
                refine hkeep w₁ hinv hw₁ ?_
                have hlength := (not_or.1 hsame).1
                rw [not_not, ← hdocs, List.length_filter_eq_length_iff, hdocuments] at hlength
                rw [hfound₁]
                refine List.filter_eq_nil_iff.2 fun d hd hid => ?_
                exact of_decide_eq_true (hlength d hd) (of_decide_eq_true hid)
          | nil =>
              simp only [removeFrom, hdocs]
              have howned : row.document.routerId = targetId := by
                rw [← row.document.owned]
                by_contra hne
                refine List.filter_eq_nil_iff.1 hdocs row.document.document ?_ (decide_eq_true hne)
                rw [hdocuments]
                exact List.mem_cons_self
              rw [if_neg fun h => h howned]
              refine meets_write fun w₂ hrely₂ hinv₂ => ?_
              have hw₂ := hwaits.stable w₁ w₂ hw₁ hrely₂ hinv₂
              refine ⟨fun hadmits => ?_, fun _ => ?_, hwaits.raise .failed⟩
              · obtain ⟨hallows, hdone⟩ := hremove w₂ hinv₂ hw₂ _
                  (hinformed.found hinv hrely₂ hrow hadmits) _ (remainder_none hregular hdocs)
                exact ⟨hallows, hdone, hwaits.raise .failed⟩
              · cases hrows : w₂.table.rows (routerRowKey folding name) with
                | none =>
                    have hmissing : w₂.entity? (routerRowKey folding name) = none :=
                      congrArg (Option.map Row.document) hrows
                    rw [CatalogWorld.refusal, if_pos hrows]
                    exact hkeep w₂ hinv₂ hw₂ (by rw [hmissing]; rfl)
                | some other =>
                    have hrefusal : w₂.refusal (routerRowKey folding name) = .conflict := by
                      rw [CatalogWorld.refusal, if_neg (by simp [hrows])]
                    have hconflict : WriteAnswer.conflict ≠ .written := fun h => by cases h
                    rw [hrefusal]
                    exact hwaits.settle hw₂ hagain hconflict

/-- `delete_router` drops the row of the identifier, then removes the documents. -/
theorem meets_deleteRouter (hinformed : Informed P i) (hwaits : Waits P i R Q) {targetId : UUID}
    {name : Text} (hname : name ≠ .plain "")
    (hdrop : ∀ w, P.inv w → P.Allows i w (w.change i (idKey folding targetId) none) ∧
      R (w.change i (idKey folding targetId) none))
    (hgone : ∀ w, P.inv w → w.entity? (idKey folding targetId) = none → R w)
    (hremove : ∀ w, P.inv w → R w → ∀ before, w.entity? (routerRowKey folding name) = some before →
      ∀ after, Remainder targetId before after →
        P.Allows i w (w.change i (routerRowKey folding name) after) ∧
          Client.Meets catalogDynamics P i Q (pure ())
            (w.change i (routerRowKey folding name) after))
    (hkeep : ∀ w, P.inv w → R w →
      documentsOf (w.entity? (routerRowKey folding name)) targetId = [] →
        Client.Meets catalogDynamics P i Q (pure ()) w) (w : CatalogWorld ι) :
    Client.Meets catalogDynamics P i Q (deleteRouter folding targetId (some name)) w := by
  have hrest : ∀ w, R w → Client.Meets catalogDynamics P i Q
      (if name = .plain "" then pure () else removeName folding targetId name 3) w := by
    intro w hw
    rw [if_neg hname]
    exact meets_removeName hinformed hwaits hremove hkeep 3 (by decide) w hw
  refine meets_write fun w₁ _ hinv => ⟨fun _ => ?_, fun hmissing => ?_, hwaits.raise .failed⟩
  · obtain ⟨hallows, hw₁⟩ := hdrop w₁ hinv
    exact ⟨hallows, hrest _ hw₁, hwaits.raise .failed⟩
  · have hrows : w₁.table.rows (idKey folding targetId) = none := not_not.1 hmissing
    have hrefusal : w₁.refusal (routerRowKey folding (.ofUuid targetId)) = .missing := if_pos hrows
    rw [hrefusal]
    exact hrest w₁ (hgone w₁ hinv (congrArg (Option.map Row.document) hrows))

theorem perform_upsert (router : CatalogRouter) (contents : String) (active : Option (List UUID)) :
    (CatalogCall.upsert router (some contents) active).perform folding =
      putEntity (idKey folding router.id) (idEntity router contents) >>= fun idResp =>
        idResp.raiseForStatus >>= fun _ => mergeName folding router contents active 3 := by
  simp only [CatalogCall.perform, upsertRouter, Client.bind_assoc, Client.pure_bind,
    Client.bind_unit]
  rfl

theorem perform_withdraw (router : CatalogRouter) (active : Option (List UUID)) :
    (CatalogCall.upsert router none active).perform folding =
      deleteRouter folding router.id (some router.name) := by
  simp only [CatalogCall.perform, upsertRouter, Client.bind_assoc, Client.pure_bind,
    Client.bind_unit]

/-- `upsert_router` puts the row of the identifier, then merges the document. -/
theorem meets_upsertRouter (hinformed : Informed P i) (hwaits : Waits P i R Q)
    {router : CatalogRouter} {contents : String} {active : Option (List UUID)}
    (hput : ∀ w, P.inv w →
      P.Allows i w (w.change i (idKey folding router.id) (some (idEntity router contents))) ∧
        R (w.change i (idKey folding router.id) (some (idEntity router contents))))
    (hmerge : ∀ w, P.inv w → R w → ∀ after,
      Merged router contents active (w.entity? (routerRowKey folding router.name)) after →
        P.Allows i w (w.change i (routerRowKey folding router.name) (some after)) ∧
          Client.Meets catalogDynamics P i Q (pure ())
            (w.change i (routerRowKey folding router.name) (some after))) (w : CatalogWorld ι) :
    Client.Meets catalogDynamics P i Q
      ((CatalogCall.upsert router (some contents) active).perform folding) w := by
  rw [perform_upsert]
  refine meets_write fun w₁ _ hinv => ⟨fun _ => ?_, fun hrefused => ?_, hwaits.raise .failed⟩
  · obtain ⟨hallows, hw₁⟩ := hput w₁ hinv
    exact ⟨hallows, meets_mergeName hinformed hwaits hmerge 3 (by decide) _ hw₁,
      hwaits.raise .failed⟩
  · exact absurd trivial hrefused

end

/-! ## Every call is lawful -/

section

variable {folding : Folding} {ι : Type} {calls : ι → CatalogCall} {i : ι}

theorem catalogContract_informed : Informed (catalogContract folding calls) i where
  tagged _ h := h.tagged
  regular _ h := h.regular
  later _ _ h := h

theorem catalogContract_waits :
    Waits (catalogContract folding calls) i (fun _ => True) fun _ _ => True where
  stable _ _ _ _ _ := trivial
  error _ _ := trivial

theorem meets_trivial {p : CatalogClient Unit} {r : Except CatalogError Unit} (hp : p = .done r)
    (w : CatalogWorld ι) :
    Client.Meets catalogDynamics (catalogContract folding calls) i (fun _ _ => True) p w := by
  rw [hp]
  exact fun _ _ _ => trivial

theorem lawful_id {before after : Option RouterEntity} :
    Lawful folding calls (calls i) (idKey folding (calls i).routerId) before after := Or.inl rfl

theorem lawful_merged (hregular : RegularCalls folding calls) {router : CatalogRouter}
    {contents : String} {active : Option (List UUID)}
    (hi : calls i = .upsert router (some contents) active) {before : Option RouterEntity}
    {after : RouterEntity} (h : Merged router contents active before after) :
    Lawful folding calls (calls i) (routerRowKey folding router.name) before (some after) := by
  rw [hi]
  refine Or.inr ⟨⟨router.name, rfl, rfl⟩, fun r hr => ⟨fun hr' => ?_, fun hnone => ?_⟩⟩
  · rw [h.others r hr, if_pos]
    intro ids hids
    rw [Option.mem_def] at hids
    subst hids
    exact hregular.active i router _ ids hi r hr'
  · rw [h.others r hr, hnone]
    exact ite_self _

theorem lawful_remainder {name : Text} (hname : (calls i).routerName = some name)
    {before : RouterEntity} {after : Option RouterEntity}
    (h : Remainder (calls i).routerId before after) :
    Lawful folding calls (calls i) (routerRowKey folding name) (some before) after := by
  refine Or.inr ⟨⟨name, hname, rfl⟩, fun r hr => ⟨fun _ => h.others r hr, fun hnone => ?_⟩⟩
  rw [h.others r hr, hnone]

/-- A call that deletes meets the contract. -/
theorem deleteRouter_lawful {name : Text} (hname : name ≠ .plain "")
    (hrouter : (calls i).routerName = some name) (w : CatalogWorld ι) :
    Client.Meets catalogDynamics (catalogContract folding calls) i (fun _ _ => True)
      (deleteRouter folding (calls i).routerId (some name)) w := by
  refine meets_deleteRouter catalogContract_informed catalogContract_waits hname (fun w hw => ?_)
    (fun _ _ _ => trivial) (fun w hw _ before hbefore after hafter => ?_)
    (fun w _ _ _ => meets_trivial rfl w) w
  · exact ⟨allows_change hw (fun _ hnone => (by cases hnone)) lawful_id, trivial⟩
  · refine ⟨allows_change hw hafter.regular ?_, meets_trivial rfl _⟩
    rw [hbefore]
    exact lawful_remainder hrouter hafter

theorem perform_lawful (hregular : RegularCalls folding calls) (i : ι) (w : CatalogWorld ι) :
    Client.Meets catalogDynamics (catalogContract folding calls) i (fun _ _ => True)
      ((calls i).perform folding) w := by
  obtain ⟨name, hname, hrouter⟩ := hregular.named i
  have hdelete : Client.Meets catalogDynamics (catalogContract folding calls) i (fun _ _ => True)
      (deleteRouter folding (calls i).routerId (some name)) w :=
    deleteRouter_lawful hname hrouter w
  cases hi : calls i with
  | delete routerId routerName =>
      rw [hi] at hdelete hrouter
      cases hrouter
      exact hdelete
  | upsert router contents active =>
      cases contents with
      | none =>
          rw [hi] at hdelete hrouter
          cases hrouter
          rw [perform_withdraw]
          exact hdelete
      | some contents =>
          refine meets_upsertRouter catalogContract_informed catalogContract_waits
            (fun w hw => ⟨allows_change hw ?_ ?_, trivial⟩)
            (fun w hw _ after hafter => ⟨allows_change hw ?_ ?_, meets_trivial rfl _⟩) w
          · rintro _ ⟨⟩
            exact idEntity_regular router contents
          · have hid : (calls i).routerId = router.id := by rw [hi]; rfl
            rw [← hid]
            exact lawful_id
          · rintro _ ⟨⟩
            exact hafter.regular
          · exact lawful_merged hregular hi hafter

end

/-! ## What the catalog shows after the last call -/

section

variable {ι : Type}

/-- The catalog shows what a call published: its document is the primary one under the
identifier, and the only one of the router under the name.  Of a router that was deleted it
shows nothing. -/
def CatalogWorld.Shows (folding : Folding) (w : CatalogWorld ι) (call : CatalogCall) : Prop :=
  (w.entity? (idKey folding call.routerId)).map (·.document) = call.document? ∧
    ∀ name ∈ call.routerName,
      documentsOf (w.entity? (routerRowKey folding name)) call.routerId = call.document?.toList

/-- The other calls keep what the catalog has of a router. -/
structure CatalogWorld.Keeps (folding : Folding) (calls : ι → CatalogCall) (call : CatalogCall)
    (w w' : CatalogWorld ι) : Prop where
  id : w'.entity? (idKey folding call.routerId) = w.entity? (idKey folding call.routerId)
  shown : Catalogued calls call.routerId → ∀ name ∈ call.routerName,
    documentsOf (w'.entity? (routerRowKey folding name)) call.routerId =
      documentsOf (w.entity? (routerRowKey folding name)) call.routerId
  hidden : ∀ name ∈ call.routerName,
    documentsOf (w.entity? (routerRowKey folding name)) call.routerId = [] →
      documentsOf (w'.entity? (routerRowKey folding name)) call.routerId = []

variable {folding : Folding} {calls : ι → CatalogCall} {call : CatalogCall}
    {w w' w'' : CatalogWorld ι}

theorem CatalogWorld.Keeps.refl : w.Keeps folding calls call w :=
  ⟨rfl, fun _ _ _ => rfl, fun _ _ h => h⟩

theorem CatalogWorld.Keeps.trans (h : w.Keeps folding calls call w')
    (h' : w'.Keeps folding calls call w'') : w.Keeps folding calls call w'' where
  id := h'.id.trans h.id
  shown hr name hname := (h'.shown hr name hname).trans (h.shown hr name hname)
  hidden name hname hnone := h'.hidden name hname (h.hidden name hname hnone)

/-- What is shown stays shown. -/
theorem CatalogWorld.Keeps.shows {i : ι} (h : w.Keeps folding calls (calls i) w')
    (hshows : w.Shows folding (calls i)) : w'.Shows folding (calls i) := by
  refine ⟨by rw [h.id]; exact hshows.1, fun name hname => ?_⟩
  cases hdocument : (calls i).document? with
  | none =>
      have hnone := hshows.2 name hname
      rw [hdocument] at hnone
      exact h.hidden name hname hnone
  | some document =>
      rw [h.shown ⟨i, rfl, by rw [hdocument]; exact fun h => by cases h⟩ name hname, ← hdocument]
      exact hshows.2 name hname

/-- The contract of one call, when no other call is for its router. -/
def lastCallContract (folding : Folding) (calls : ι → CatalogCall) (c : ι) :
    Client.Contract ι (CatalogWorld ι) where
  inv := CatalogWorld.Sane folding calls
  rely i w w' := i = c → w.table.Later w'.table ∧ w.Keeps folding calls (calls c) w'
  guard := Client.anyChange
  refl _ w _ := ⟨.refl w.table, .refl⟩
  trans _ _ _ _ h h' hi := ⟨(h hi).1.trans (h' hi).1, (h hi).2.trans (h' hi).2⟩

/-- What the last call of a router ends in. -/
def Ends (folding : Folding) (call : CatalogCall) (r : Except CatalogError Unit)
    (w : CatalogWorld ι) : Prop :=
  match r with
  | .ok _ => w.Shows folding call
  | .error _ => True

theorem lastCallContract_informed (c : ι) : Informed (lastCallContract folding calls c) c where
  tagged _ h := h.tagged
  regular _ h := h.regular
  later _ _ h := (h rfl).1

/-- A condition on the row of the identifier is kept while a call waits. -/
theorem lastCallContract_waits {c : ι} {R : Option RouterEntity → Prop} :
    Waits (lastCallContract folding calls c) c
      (fun w => R (w.entity? (idKey folding (calls c).routerId))) (Ends folding (calls c)) where
  stable w w' hw hrely _ := by
    rw [(hrely rfl).2.id]
    exact hw
  error _ _ := trivial

theorem lastCallContract_allows {c : ι} {key : RouterRowKey} {after : Option RouterEntity}
    (h : w.Sane folding calls) (hregular : ∀ entity, after = some entity → entity.Regular)
    (hlawful : Lawful folding calls (calls c) key (w.entity? key) after) :
    (lastCallContract folding calls c).Allows c w (w.change c key after) :=
  ⟨h.change hregular hlawful, fun _ hj hc => absurd hc hj⟩

theorem meets_of_shows {c : ι} (h : w.Shows folding (calls c)) :
    Client.Meets catalogDynamics (lastCallContract folding calls c) c (Ends folding (calls c))
      (pure ()) w :=
  fun _ hrely _ => (hrely rfl).2.shows h

/-- A deletion that is the last call of its router ends with nothing shown. -/
theorem deleteRouter_shows {c : ι} {name : Text} (hname : name ≠ .plain "")
    (hrouter : (calls c).routerName = some name) (hdocument : (calls c).document? = none)
    (w : CatalogWorld ι) :
    Client.Meets catalogDynamics (lastCallContract folding calls c) c (Ends folding (calls c))
      (deleteRouter folding (calls c).routerId (some name)) w := by
  have hshows : ∀ w : CatalogWorld ι, w.entity? (idKey folding (calls c).routerId) = none →
      documentsOf (w.entity? (routerRowKey folding name)) (calls c).routerId = [] →
        w.Shows folding (calls c) := by
    intro w hid hnone
    refine ⟨by rw [hid, hdocument]; rfl, fun other hother => ?_⟩
    obtain rfl : name = other := Option.some.inj (hrouter.symm.trans hother)
    rw [hnone, hdocument]
    rfl
  refine meets_deleteRouter (lastCallContract_informed c)
    (lastCallContract_waits (R := fun entity => entity = none)) hname (fun w hw => ?_)
    (fun _ _ h => h) (fun w hw hgone before hbefore after hafter => ?_)
    (fun w _ hgone hnone => meets_of_shows (hshows w hgone hnone)) w
  · exact ⟨lastCallContract_allows hw (fun _ hnone => (by cases hnone)) lawful_id,
      w.entity?_change_self c _ none⟩
  · have hne : idKey folding (calls c).routerId ≠ routerRowKey folding name := by
      intro hkey
      rw [← hkey, hgone] at hbefore
      cases hbefore
    refine ⟨lastCallContract_allows hw hafter.regular ?_, meets_of_shows (hshows _ ?_ ?_)⟩
    · rw [hbefore]
      exact lawful_remainder hrouter hafter
    · rw [w.entity?_change_of_ne c after hne, hgone]
    · rw [w.entity?_change_self]
      exact hafter.own

/-- An upsert that is the last call of its router ends with its document shown. -/
theorem upsertRouter_shows (hregular : RegularCalls folding calls) {c : ι} {router : CatalogRouter}
    {contents : String} {active : Option (List UUID)}
    (hc : calls c = .upsert router (some contents) active) (w : CatalogWorld ι) :
    Client.Meets catalogDynamics (lastCallContract folding calls c) c (Ends folding (calls c))
      ((CatalogCall.upsert router (some contents) active).perform folding) w := by
  have hid : (calls c).routerId = router.id := by rw [hc]; rfl
  have hrouter : (calls c).routerName = some router.name := by rw [hc]; rfl
  have hdocument : (calls c).document? = some (buildRouterTableDocument router contents) := by
    rw [hc]
    rfl
  refine meets_upsertRouter (lastCallContract_informed c)
    (lastCallContract_waits (R := fun entity => entity.map (·.document) = (calls c).document?))
    (fun w hw => ⟨lastCallContract_allows hw ?_ ?_, ?_⟩)
    (fun w hw hput after hafter => ⟨lastCallContract_allows hw ?_ ?_, meets_of_shows ⟨?_, ?_⟩⟩) w
  · rintro _ ⟨⟩
    exact idEntity_regular router contents
  · rw [← hid]
    exact lawful_id
  · rw [hid, w.entity?_change_self, hdocument]
    rfl
  · rintro _ ⟨⟩
    exact hafter.regular
  · exact lawful_merged hregular hc hafter
  · -- A name may be the identifier of its own router.
    by_cases hkey : idKey folding (calls c).routerId = routerRowKey folding router.name
    · rw [hkey, w.entity?_change_self, hdocument]
      exact congrArg some hafter.primary
    · rw [w.entity?_change_of_ne c _ hkey]
      exact hput
  · intro other hother
    obtain rfl : router.name = other := Option.some.inj (hrouter.symm.trans hother)
    rw [w.entity?_change_self, hid, hafter.own, hdocument]
    rfl

/-- The last call of a router ends with the catalog showing what it published. -/
theorem perform_shows (hregular : RegularCalls folding calls) (c : ι) (w : CatalogWorld ι) :
    Client.Meets catalogDynamics (lastCallContract folding calls c) c (Ends folding (calls c))
      ((calls c).perform folding) w := by
  obtain ⟨name, hname, hrouter⟩ := hregular.named c
  have hdelete : (calls c).document? = none →
      Client.Meets catalogDynamics (lastCallContract folding calls c) c (Ends folding (calls c))
        (deleteRouter folding (calls c).routerId (some name)) w :=
    fun hdocument => deleteRouter_shows hname hrouter hdocument w
  cases hc : calls c with
  | delete routerId routerName =>
      rw [hc] at hdelete hrouter
      cases hrouter
      exact hdelete rfl
  | upsert router contents active =>
      cases contents with
      | none =>
          rw [hc] at hdelete hrouter
          cases hrouter
          rw [perform_withdraw]
          exact hdelete rfl
      | some contents =>
          have hshows : Client.Meets catalogDynamics (lastCallContract folding calls c) c
              (Ends folding (calls c))
              ((CatalogCall.upsert router (some contents) active).perform folding) w :=
            upsertRouter_shows hregular hc w
          rw [hc] at hshows
          exact hshows

end

/-! ## Runs -/

section

variable {ι : Type} [DecidableEq ι] {folding : Folding} {calls : ι → CatalogCall}

abbrev CatalogSystem (ι : Type) :=
  Client.System ι CatalogRequest.Answer (CatalogWorld ι) CatalogError Unit

/-- All calls at their start. -/
def catalogStart (folding : Folding) (calls : ι → CatalogCall)
    (table : Table RouterRowKey RouterEntity) : CatalogSystem ι :=
  ⟨⟨table, []⟩, fun i => (calls i).perform folding⟩

/-- Call `c` made its first request when all other calls of its router had ended. -/
def LastCall (folding : Folding) (calls : ι → CatalogCall) (start s : CatalogSystem ι) (c : ι) :
    Prop :=
  ∃ before, Client.Reaches catalogDynamics Client.anyChange start before ∧
    Client.Reaches catalogDynamics Client.anyChange before s ∧
    before.clients c = (calls c).perform folding ∧
    ∀ i ≠ c, (calls i).routerId = (calls c).routerId → ∃ r, before.clients i = .done r

/-- In every run, the last call of a router that has returned is what the catalog shows. -/
def CatalogFaithful (folding : Folding) (calls : ι → CatalogCall) : Prop :=
  ∀ table : Table RouterRowKey RouterEntity, table.WellTagged →
    (∀ key row, table.rows key = some row → row.document.Regular) →
    ∀ s c, LastCall folding calls (catalogStart folding calls table) s c →
      s.clients c = .done (.ok ()) → s.world.Shows folding (calls c)

omit [DecidableEq ι] in
theorem catalogContract_tolerates :
    (catalogContract folding calls).Tolerates (catalogDynamics (ι := ι)) := by
  intro w l w' _ henv
  cases henv

omit [DecidableEq ι] in
/-- An answer changes at most one row. -/
theorem answer_change {i : ι} {w w' : CatalogWorld ι} {l : CatalogLabel} {r : CatalogRequest}
    {a : r.Answer} (h : w.answer i l r = some (a, w')) :
    w' = w ∨ ∃ key after, w' = w.change i key after := by
  cases r with
  | get key => cases l <;> cases h <;> exact Or.inl rfl
  | write key after condition =>
      by_cases hadmits : w.Admits key condition
      · cases l with
        | answered =>
            have hsame := Option.some.inj h
            rw [if_pos hadmits] at hsame
            cases hsame
            exact Or.inr ⟨key, after, rfl⟩
        | refused =>
            cases h
            exact Or.inl rfl
        | lost =>
            have hsame := Option.some.inj h
            rw [if_pos hadmits] at hsame
            cases hsame
            exact Or.inr ⟨key, after, rfl⟩
      · cases l with
        | answered =>
            have hsame := Option.some.inj h
            rw [if_neg hadmits] at hsame
            cases hsame
            exact Or.inl rfl
        | refused =>
            cases h
            exact Or.inl rfl
        | lost =>
            have hsame := Option.some.inj h
            rw [if_neg hadmits] at hsame
            cases hsame
            exact Or.inl rfl

omit [DecidableEq ι] in
/-- A lawful change by a call for another router keeps what the catalog has of a router. -/
theorem keeps_of_lawful (hregular : RegularCalls folding calls) {i c : ι}
    (hne : (calls i).routerId ≠ (calls c).routerId) {w : CatalogWorld ι} {key : RouterRowKey}
    {after : Option RouterEntity}
    (h : Lawful folding calls (calls i) key (w.entity? key) after) :
    w.Keeps folding calls (calls c) (w.change i key after) := by
  rcases h with rfl | ⟨⟨name, hname, rfl⟩, hothers⟩
  · have hrow : ∀ other ∈ (calls c).routerName,
        (w.change i (idKey folding (calls i).routerId) after).entity? (routerRowKey folding other) =
          w.entity? (routerRowKey folding other) := fun other hother =>
      w.entity?_change_of_ne i after (hregular.apart c i hne.symm other hother)
    refine ⟨w.entity?_change_of_ne i after fun h => hne (idKey_injective folding h).symm,
      fun _ other hother => ?_, fun other hother hnone => ?_⟩
    · rw [hrow other hother]
    · rw [hrow other hother, hnone]
  · refine ⟨w.entity?_change_of_ne i after (hregular.apart i c hne name hname).symm,
      fun hr other hother => ?_, fun other hother hnone => ?_⟩
    · by_cases hkey : routerRowKey folding other = routerRowKey folding name
      · rw [hkey, w.entity?_change_self]
        exact (hothers _ hne.symm).1 hr
      · rw [w.entity?_change_of_ne i after hkey]
    · by_cases hkey : routerRowKey folding other = routerRowKey folding name
      · rw [hkey] at hnone ⊢
        rw [w.entity?_change_self]
        exact (hothers _ hne.symm).2 hnone
      · rw [w.entity?_change_of_ne i after hkey, hnone]

theorem sound_of_reaches (hregular : RegularCalls folding calls)
    {table : Table RouterRowKey RouterEntity} (htagged : table.WellTagged)
    (hrows : ∀ key row, table.rows key = some row → row.document.Regular) {s : CatalogSystem ι}
    (hr : Client.Reaches catalogDynamics Client.anyChange (catalogStart folding calls table) s) :
    Client.Sound catalogDynamics (catalogContract folding calls) (fun _ _ _ => True) s := by
  refine Client.Sound.reaches ⟨⟨htagged, fun key entity hentity => ?_, fun _ hchange => ?_⟩,
    fun i => perform_lawful hregular i _⟩ catalogContract_tolerates hr
  · obtain ⟨row, hrow, rfl⟩ := Option.map_eq_some_iff.1 hentity
    exact hrows key row hrow
  · exact absurd hchange List.not_mem_nil

/-- Once the other calls of its router have ended, a call may rely on all other steps. -/
theorem followed_of_reaches (hregular : RegularCalls folding calls) {before s : CatalogSystem ι}
    {c : ι}
    (hsound : Client.Sound catalogDynamics (catalogContract folding calls)
      (fun _ _ _ => True) before)
    (hended : ∀ i ≠ c, (calls i).routerId = (calls c).routerId → ∃ r, before.clients i = .done r)
    (hr : Client.Reaches catalogDynamics Client.anyChange before s) :
    Relation.ReflTransGen (Client.Followed catalogDynamics (lastCallContract folding calls c) c)
      before s := by
  induction hr with
  | refl => exact .refl
  | @tail s₁ s₂ hreach hstep ih =>
      have hsound₁ := hsound.reaches catalogContract_tolerates hreach
      have hsound₂ := hsound₁.step catalogContract_tolerates hstep
      obtain ⟨⟨j, l⟩, hnext, hguard⟩ := hstep
      refine ih.tail ⟨(j, l), hnext, trivial, fun hj => ⟨hsound₂.inv, fun _ => ?_⟩⟩
      cases j with
      | none => cases hnext
      | some i =>
          have hic : i ≠ c := fun h => hj (congrArg some h)
          have hne : (calls i).routerId ≠ (calls c).routerId := by
            intro hsame
            obtain ⟨r, hdone⟩ := hended i hic hsame
            rw [Client.System.next?, Client.Reaches.done hreach hdone] at hnext
            cases hnext
          rw [Client.System.next?] at hnext
          split at hnext
          next => cases hnext
          next r next hcall =>
            obtain ⟨⟨a, w⟩, hanswer, rfl⟩ := Option.map_eq_some_iff.1 hnext
            rcases answer_change hanswer with rfl | ⟨key, after, rfl⟩
            · exact ⟨.refl _, .refl⟩
            · refine ⟨s₁.world.table.later_set key after, keeps_of_lawful hregular hne ?_⟩
              exact hsound₂.inv.lawful _ List.mem_cons_self

end

/-! ## Two routers -/

namespace Sample

/-- Lower case, of the names below. -/
def lowerCase : Folding where
  lower
    | .uuid id _ => .ofUuid id
    | .plain text => .plain text.toLower
  lower_ofUuid _ := rfl

/-- Two routers are published. -/
def publications (name : Text) : Bool → CatalogCall
  | false => .upsert ⟨7, .plain "first", 1⟩ (some "\x7b\x7d") none
  | true => .upsert ⟨8, name, 1⟩ (some "\x7b\x7d") none

/-- The first call, and then the second. -/
def oneAfterTheOther : List (Option Bool × CatalogLabel) :=
  [(some false, .answered), (some false, .answered), (some false, .answered),
    (some true, .answered), (some true, .answered), (some true, .answered)]

def emptyCatalog : Table RouterRowKey RouterEntity := ⟨fun _ => none, 0⟩

end Sample

end Turnstile
