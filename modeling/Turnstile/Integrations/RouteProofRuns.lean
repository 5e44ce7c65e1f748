import Turnstile.Domain.RouteSnapshots
import Turnstile.Integrations.RouteProofSafety

/-!
# The calls that publish proofs and renewals

Every call keeps to the contract: the row that it compares is the row whose tag it sends, it
sends only after it created its intent, and it returns only after it read its document.
-/

namespace Turnstile

open Guard ProofWorld

section

variable {ι : Type} {i : ι}

/-- A client meets the contract of the proofs. -/
abbrev ProofMeets {α : Type} (i : ι) (Q : Except RouteError α → ProofWorld ι → Prop)
    (p : ProofClient α) (w : ProofWorld ι) : Prop :=
  Client.Meets proofDynamics proofContract i Q p w

/-- What a call that returns has read. -/
def Returned (i : ι) (row : ProofRow) (record : ProofRecord) :
    Except RouteError Unit → ProofWorld ι → Prop
  | .ok _, w => ∃ etag, (i, .observed row (some ⟨.record record, etag⟩)) ∈ w.history
  | .error _, _ => True

variable {row : ProofRow} {record : ProofRecord} {w : ProofWorld ι}

/-! ## Requests -/

theorem meets_raised (e : RouteError) :
    ProofMeets i (Returned i row record) (Client.raise e) w :=
  fun _ _ _ => trivial

theorem meets_returned {etag : ℕ}
    (h : (i, .observed row (some ⟨.record record, etag⟩)) ∈ w.history) :
    ProofMeets i (Returned i row record) (pure ()) w :=
  fun _ hrely _ => ⟨etag, hrely.kept h⟩

/-- What a call has done after it read a row. -/
theorem unsent_observed (h : w.Unsent i) {read : ProofRow} {found : Option (Row ProofDocument)} :
    (w.log i (.observed read found)).Unsent i := by
  intro batch hmem
  obtain heq | hmem := List.mem_cons.1 hmem
  · cases heq
  · exact h batch hmem

theorem meets_readProofRow {read : ProofRow} {f : Option (Row ProofDocument) → ProofClient Unit}
    (h : ∀ w', ProofRely i w w' → ProofInv w' →
      ProofMeets i (Returned i row record) (f (w'.table.rows read))
        (w'.log i (.observed read (w'.table.rows read)))) :
    ProofMeets i (Returned i row record) (readRow read >>= f) w := by
  intro w' hrely hinv l a w'' hanswer _
  cases l with
  | plain =>
      cases Option.some.inj hanswer
      exact ⟨⟨hinv.log_observed i read _, fun j hj => rely_log hj w' _⟩, h w' hrely hinv⟩
  | fail =>
      cases Option.some.inj hanswer
      exact ⟨⟨hinv, fun j _ => .refl j w'⟩, meets_raised _⟩
  | lost => cases hanswer
  | inner => cases hanswer
  | deliver n => cases hanswer

theorem meets_createRow {created : ProofRow} {document : ProofDocument} {code : String}
    {f : Unit → ProofClient Unit} (hunsent : w.Unsent i)
    (h : ∀ w', w.table.Evolves w'.table → w'.Unsent i → (i, .created created) ∈ w'.history →
      ProofMeets i (Returned i row record) (f ()) w') :
    ProofMeets i (Returned i row record) (createRow created document code >>= f) w := by
  intro w' hrely hinv l a w'' hanswer _
  have hunsent' := hrely.unsent hunsent
  cases l with
  | plain =>
      change (if _ then _ else _) = _ at hanswer
      split at hanswer
      next hadmits =>
        cases Option.some.inj hanswer
        refine ⟨⟨hinv.create i hadmits, fun j hj => ?_⟩, h _ ?_ ?_ (List.mem_cons_self ..)⟩
        · exact (rely_commit i j w' _).trans (rely_log hj _ _)
        · exact hrely.table.trans (Table.evolves_apply _ _)
        · intro batch hmem
          obtain heq | hmem := List.mem_cons.1 hmem
          · cases heq
          · exact (rely_commit i i w' _).unsent hunsent' batch hmem
      next =>
        cases Option.some.inj hanswer
        exact ⟨⟨hinv, fun j _ => .refl j w'⟩, meets_raised _⟩
  | lost =>
      cases Option.some.inj hanswer
      exact ⟨⟨hinv.launch i (justified_insertion _ _ _), fun j _ => rely_launch i j w' _⟩,
        meets_raised _⟩
  | fail => cases hanswer
  | inner => cases hanswer
  | deliver n => cases hanswer

theorem meets_sendBatch {batch : ProofBatch} {f : BatchAnswer → ProofClient Unit}
    (hunsent : w.Unsent i)
    (hcreated : ∀ write ∈ batch.writes, ∀ intent ∈ write.key.intent?,
      (i, .created intent) ∈ w.history)
    (hjustified : Justified w.table batch.entities)
    (h : ∀ answer w', ProofMeets i (Returned i row record) (f answer) w') :
    ProofMeets i (Returned i row record) (sendBatch batch >>= f) w := by
  intro w' hrely hinv l a w'' hanswer _
  have hsent := hinv.log_sent (hrely.unsent hunsent) fun write hwrite intent hintent =>
    hrely.kept (hcreated write hwrite intent hintent)
  have hjustified' : Justified (w'.log i (.sent batch)).table batch.entities :=
    hjustified.of_evolves hrely.table
  cases l with
  | plain =>
      cases Option.some.inj hanswer
      exact ⟨⟨hsent.offer i hjustified',
        fun j hj => (rely_log hj w' _).trans (rely_offer i j _ _)⟩, h _ _⟩
  | inner =>
      change (if _ then _ else _) = _ at hanswer
      split at hanswer
      next => cases hanswer
      next =>
        cases Option.some.inj hanswer
        exact ⟨⟨hsent, fun j hj => rely_log hj w' _⟩, h _ _⟩
  | lost =>
      cases Option.some.inj hanswer
      exact ⟨⟨hsent.launch i hjustified',
        fun j hj => (rely_log hj w' _).trans (rely_launch i j _ _)⟩, h _ _⟩
  | fail => cases hanswer
  | deliver n => cases hanswer

theorem meets_lift {α : Type} {x : Except RouteError α} {f : α → ProofClient Unit}
    (h : ∀ a, x = .ok a → ProofMeets i (Returned i row record) (f a) w) :
    ProofMeets i (Returned i row record) (Client.lift x >>= f) w :=
  Client.Meets.lift_bind (fun e _ => meets_raised e) h

theorem meets_lift_end {x : Except RouteError Unit} (etag : ℕ)
    (h : x = .ok () → (i, .observed row (some ⟨.record record, etag⟩)) ∈ w.history) :
    ProofMeets i (Returned i row record) (Client.lift x) w := by
  cases x with
  | error e => exact meets_raised e
  | ok u => exact meets_returned (h rfl)

/-! ## Renewals -/

theorem parseRenewal_eq_ok {document : ProofDocument} {renewal : RouteApprovalRenewal} :
    parseRenewal document = .ok renewal ↔ document = .record (.renewal renewal) := by
  constructor
  · intro h
    unfold parseRenewal at h
    split at h
    next => rw [Except.ok.inj h]
    next => cases h
  · rintro rfl
    rfl

/-- The row of a renewal is that of its route and its member. -/
theorem RouteApprovalRenewal.rowKey_of_current {renewal : RouteApprovalRenewal}
    {route : RouteContent} {member : RouteMember} {program : ProgramIdentity} {now : ℤ}
    (h : renewal.requireCurrent route member program now = .ok ()) :
    renewal.rowKey = .approval route.sha256 member.approvalSha256 := by
  unfold requireCurrent at h
  obtain ⟨⟨-, -, hcontent, -, happroval, -⟩, -⟩ := require_bind_eq_ok.1 h
  rw [rowKey, hcontent, happroval]

theorem meets_confirmRenewal {renewal : RouteApprovalRenewal} {route : RouteContent}
    {member : RouteMember} {program : ProgramIdentity} {now : ℤ} {receipt : Row ProofDocument} :
    ProofMeets i (Returned i (.approval route.sha256 member.approvalSha256) (.renewal renewal))
      (confirmRenewal renewal route member program now receipt) w := by
  unfold confirmRenewal readApprovalRenewal readApprovalRenewalHistory
  simp only [Client.bind_assoc]
  refine meets_readProofRow fun w₁ _ _ => ?_
  cases hfound : w₁.table.rows (.approval route.sha256 member.approvalSha256) with
  | none =>
      refine meets_lift_end 0 fun h => ?_
      cases (require_eq_ok.1 h).2
  | some found =>
      simp only [Client.bind_assoc, Client.pure_bind]
      refine meets_lift fun stored hstored => ?_
      refine meets_lift fun _ _ => ?_
      refine meets_lift fun _ _ => ?_
      refine meets_lift_end found.etag fun h => ?_
      obtain rfl := Option.some.inj (require_eq_ok.1 h).2
      rw [← parseRenewal_eq_ok.1 hstored]
      exact List.mem_cons_self ..

/-- The comparison before a batch is sent justifies its writes. -/
theorem justified_renewal {t : Table ProofRow ProofDocument} (htagged : t.WellTagged)
    {renewal : RouteApprovalRenewal} {expectedEtag : Option ℕ}
    (hfollows : requireRenewalFollows renewal expectedEtag (t.rows renewal.rowKey) = .ok ())
    (body : ProofBatch) (hbody : body.writes = renewalWrites renewal expectedEtag) :
    Justified t body.entities := by
  intro write hwrite etag hetag
  unfold ProofBatch.entities at hwrite
  simp only [hbody, renewalWrites, List.map_cons, List.map_nil, List.mem_cons, List.not_mem_nil,
    or_false] at hwrite
  unfold requireRenewalFollows at hfollows
  obtain ⟨htag, hmay⟩ := require_bind_eq_ok.1 hfollows
  obtain rfl | rfl := hwrite
  · obtain rfl : expectedEtag = some etag := hetag
    obtain ⟨found, hfound, rfl⟩ := Option.map_eq_some_iff.1 htag
    rw [hfound] at hmay
    obtain ⟨previous, hprevious, hmay⟩ := bind_eq_ok.1 hmay
    refine ⟨htagged _ _ hfound, fun found' hfound' _ => ?_⟩
    obtain rfl := Option.some.inj (hfound.symm.trans hfound')
    rw [parseRenewal_eq_ok.1 hprevious]
    have hfollows' : renewal.Follows previous := require_eq_ok.1 hmay
    exact hfollows'
  · cases hetag

theorem meets_publishApprovalRenewal {self : RouteProjection} {boundary : UUID}
    {renewal : RouteApprovalRenewal} {route : RouteContent} {member : RouteMember}
    {proof : ProgramCapabilityProof} {expectedEtag : Option ℕ} {now : ℤ} (hunsent : w.Unsent i) :
    ProofMeets i (Returned i renewal.rowKey (.renewal renewal))
      (publishApprovalRenewal self boundary renewal route member proof expectedEtag now) w := by
  unfold publishApprovalRenewal
  refine meets_lift fun _ hcurrent => ?_
  have hrow := RouteApprovalRenewal.rowKey_of_current hcurrent
  refine meets_lift fun _ _ => ?_
  refine meets_readProofRow fun w₁ hrely₁ hinv₁ => ?_
  have hunsent₁ := hrely₁.unsent hunsent
  cases w₁.table.rows (.approvalReceipt renewal.approval.approvalId) with
  | some receipt =>
      rw [hrow]
      exact meets_confirmRenewal
  | none =>
      refine meets_readProofRow fun w₂ hrely₂ hinv₂ => ?_
      have hunsent₂ := hrely₂.unsent (unsent_observed hunsent₁)
      refine meets_lift fun _ _ => ?_
      refine meets_readProofRow fun w₃ hrely₃ hinv₃ => ?_
      have hunsent₃ := hrely₃.unsent (unsent_observed hunsent₂)
      refine meets_lift fun _ hfollows => ?_
      have hjustified := justified_renewal hinv₃.tagged hfollows ⟨self.target, self.scope,
        boundary, renewalWrites renewal expectedEtag⟩ rfl
      refine meets_lift fun _ _ => ?_
      refine meets_createRow (unsent_observed hunsent₃) fun w₄ hevolves hunsent₄ hcreated => ?_
      refine meets_readProofRow fun w₅ hrely₅ hinv₅ => ?_
      have hunsent₅ := hrely₅.unsent hunsent₄
      refine meets_lift fun _ _ => ?_
      refine meets_sendBatch (unsent_observed hunsent₅) ?_
        (hjustified.of_evolves (hevolves.trans hrely₅.table)) fun answer w₆ => ?_
      · intro write hwrite intent hintent
        simp only [renewalWrites, List.mem_cons, List.not_mem_nil, or_false] at hwrite
        obtain rfl | rfl := hwrite
        · cases hintent
        · cases hintent
          exact List.mem_cons_of_mem _ (hrely₅.kept hcreated)
      · refine meets_lift fun _ _ => ?_
        refine meets_readProofRow fun w₇ _ _ => ?_
        cases w₇.table.rows (.approvalReceipt renewal.approval.approvalId) with
        | none => exact meets_raised _
        | some receipt =>
            rw [hrow]
            exact meets_confirmRenewal

/-! ## Proofs -/

theorem parseProof_eq_ok {document : ProofDocument} {proof : ProgramCapabilityProof} :
    parseProof document = .ok proof ↔ document = .record (.proof proof) := by
  constructor
  · intro h
    unfold parseProof at h
    split at h
    next => rw [Except.ok.inj h]
    next => cases h
  · rintro rfl
    rfl

theorem meets_confirmProof {self : RouteProjection} {proof : ProgramCapabilityProof}
    {identity : ProgramIdentity} {receipt : Row ProofDocument} {code : String} :
    ProofMeets i (Returned i (programProofRow identity) (.proof proof))
      (confirmProof self proof identity receipt code) w := by
  unfold confirmProof readProgramProof
  simp only [Client.bind_assoc]
  refine meets_lift fun _ _ => ?_
  refine meets_readProofRow fun w₁ _ _ => ?_
  cases hfound : w₁.table.rows (programProofRow identity) with
  | none =>
      refine meets_lift_end 0 fun h => ?_
      cases (require_eq_ok.1 h).2
  | some found =>
      simp only [Client.bind_assoc, Client.pure_bind]
      refine meets_lift fun stored hstored => ?_
      refine meets_lift fun _ _ => ?_
      refine meets_lift_end found.etag fun h => ?_
      obtain rfl := Option.some.inj (require_eq_ok.1 h).2
      rw [← parseProof_eq_ok.1 hstored]
      exact List.mem_cons_self ..

/-- The comparison before a batch is sent justifies its writes. -/
theorem justified_proof {t : Table ProofRow ProofDocument} (htagged : t.WellTagged)
    {proof : ProgramCapabilityProof} {identity : ProgramIdentity} {expectedEtag : Option ℕ}
    {current : Option (ProgramCapabilityProof × ℕ)}
    (hcurrent : t.rows (programProofRow identity)
      = current.map fun found => ⟨.record (.proof found.1), found.2⟩)
    (hfollows : requireProofFollows proof expectedEtag current = .ok ()) (body : ProofBatch)
    (hbody : body.writes = proofWrites proof identity expectedEtag) :
    Justified t body.entities := by
  intro write hwrite etag hetag
  unfold ProofBatch.entities at hwrite
  simp only [hbody, proofWrites, List.map_cons, List.map_nil, List.mem_cons, List.not_mem_nil,
    or_false] at hwrite
  unfold requireProofFollows at hfollows
  obtain ⟨htag, hmay⟩ := require_bind_eq_ok.1 hfollows
  obtain rfl | rfl := hwrite
  · obtain rfl : expectedEtag = some etag := hetag
    obtain ⟨found, rfl, rfl⟩ := Option.map_eq_some_iff.1 htag
    refine ⟨htagged _ _ hcurrent, fun found' hfound' _ => ?_⟩
    obtain rfl := Option.some.inj (hcurrent.symm.trans hfound')
    have hfollows' : proof.Follows found.1 := require_eq_ok.1 hmay found rfl
    exact hfollows'
  · cases hetag

/-- What is left once the proof that is replaced was read. -/
theorem meets_replaceProof {self : RouteProjection} {boundary : UUID}
    {proof : ProgramCapabilityProof} {identity : ProgramIdentity} {expectedEtag : Option ℕ}
    {current : Option (ProgramCapabilityProof × ℕ)} (htagged : w.table.WellTagged)
    (hunsent : w.Unsent i)
    (hcurrent : w.table.rows (programProofRow identity)
      = current.map fun found => ⟨.record (.proof found.1), found.2⟩) :
    ProofMeets i (Returned i (programProofRow identity) (.proof proof))
      (replaceProof self boundary proof identity expectedEtag current) w := by
  unfold replaceProof
  refine meets_lift fun _ hfollows => ?_
  have hjustified := justified_proof htagged hcurrent hfollows ⟨self.target, self.scope,
    boundary, proofWrites proof identity expectedEtag⟩ rfl
  refine meets_lift fun _ _ => ?_
  refine meets_createRow hunsent fun w₁ hevolves hunsent₁ hcreated => ?_
  refine meets_readProofRow fun w₂ hrely₂ hinv₂ => ?_
  have hunsent₂ := hrely₂.unsent hunsent₁
  refine meets_lift fun _ _ => ?_
  refine meets_sendBatch (unsent_observed hunsent₂) ?_
    (hjustified.of_evolves (hevolves.trans hrely₂.table)) fun answer w₃ => ?_
  · intro write hwrite intent hintent
    simp only [proofWrites, List.mem_cons, List.not_mem_nil, or_false] at hwrite
    obtain rfl | rfl := hwrite
    · cases hintent
    · cases hintent
      exact List.mem_cons_of_mem _ (hrely₂.kept hcreated)
  · refine meets_lift fun _ _ => ?_
    refine meets_readProofRow fun w₄ _ _ => ?_
    cases w₄.table.rows (.proofReceipt proof.proofId) with
    | none => exact meets_raised _
    | some observed => exact meets_lift fun _ _ => meets_confirmProof

theorem meets_publishProof {self : RouteProjection} {boundary : UUID}
    {proof : ProgramCapabilityProof} {identity previousIdentity : ProgramIdentity}
    {expectedEtag : Option ℕ} {checkedAt : ℤ}
    (hrow : programProofRow previousIdentity = programProofRow identity) (hunsent : w.Unsent i) :
    ProofMeets i (Returned i (programProofRow identity) (.proof proof))
      (publishProof self boundary proof identity expectedEtag checkedAt previousIdentity) w := by
  unfold publishProof
  refine meets_lift fun _ _ => ?_
  refine meets_readProofRow fun w₁ hrely₁ _ => ?_
  have hunsent₁ := hrely₁.unsent hunsent
  cases w₁.table.rows (.proofReceipt proof.proofId) with
  | some prior => exact meets_confirmProof
  | none =>
      refine meets_readProofRow fun w₂ hrely₂ _ => ?_
      have hunsent₂ := hrely₂.unsent (unsent_observed hunsent₁)
      cases w₂.table.rows (.proofIntent proof.proofId) with
      | some previousIntent =>
          refine meets_lift fun _ _ => ?_
          refine meets_readProofRow fun w₃ _ _ => ?_
          cases w₃.table.rows (.proofReceipt proof.proofId) with
          | none => exact meets_raised _
          | some observed => exact meets_confirmProof
      | none =>
          unfold readProgramProof
          simp only [Client.bind_assoc]
          refine meets_lift fun _ _ => ?_
          refine meets_readProofRow fun w₃ hrely₃ hinv₃ => ?_
          have hunsent₃ := hrely₃.unsent (unsent_observed hunsent₂)
          rw [hrow]
          cases hfound : w₃.table.rows (programProofRow identity) with
          | none => exact meets_replaceProof hinv₃.tagged (unsent_observed hunsent₃) hfound
          | some found =>
              simp only [Client.bind_assoc, Client.pure_bind]
              refine meets_lift fun stored hstored => ?_
              refine meets_lift fun _ _ => ?_
              refine meets_replaceProof hinv₃.tagged (unsent_observed hunsent₃) (hfound.trans ?_)
              rw [Option.map_some, ← parseProof_eq_ok.1 hstored]

/-- An upgrade keeps the row of the proof. -/
theorem programProofRow_of_previous {upgrade : FixedProgramUpgrade} {publicationId : UUID}
    {previous : FixedProgramInstallation}
    (h : upgrade.requirePrevious publicationId previous = .ok ()) :
    programProofRow previous.program = programProofRow upgrade.installation.program := by
  have hsame := (Upgrades.upgraded ⟨upgrade, publicationId, rfl, h⟩).same
  rw [← hsame]
  rfl

theorem meets_proofCall (self : RouteProjection) (call : ProofCall) (hunsent : w.Unsent i) :
    ProofMeets i (Returned i call.row call.record) (call.program self) w := by
  cases call with
  | renewal boundary renewal route member proof expectedEtag now =>
      exact meets_publishApprovalRenewal hunsent
  | proof boundary proof identity expectedEtag checkedAt =>
      exact meets_publishProof rfl hunsent
  | upgradedProof boundary upgrade previous proof expectedEtag checkedAt =>
      unfold ProofCall.program publishUpgradedProgramProof
      refine meets_lift fun _ hprevious => ?_
      refine meets_lift fun _ _ => ?_
      exact meets_publishProof (programProofRow_of_previous hprevious) hunsent

/-! ## Runs -/

/-- A submission in flight arrives. -/
theorem proofContract_tolerates :
    (proofContract (ι := ι)).Tolerates proofDynamics := by
  intro w l w' hinv hstep _
  cases l with
  | deliver n =>
      dsimp only [proofDynamics] at hstep
      unfold ProofWorld.arrive at hstep
      dsimp only at hstep
      split at hstep
      next i writes hentry =>
        cases Option.some.inj hstep
        have hjustified := hinv.pool (i, writes) (List.mem_of_getElem? hentry)
        have hrest : ProofInv { w with pool := w.pool.eraseIdx n } :=
          ⟨hinv.tagged, fun entry hmem => hinv.pool entry (List.mem_of_mem_eraseIdx hmem),
            hinv.advances, hinv.exists_of_created, hinv.creator, hinv.preceded, hinv.once⟩
        have hrely := fun j => rely_offer i j { w with pool := w.pool.eraseIdx n } writes
        exact ⟨hrest.offer i hjustified, fun j => ⟨(hrely j).table, (hrely j).history⟩⟩
      next => cases hstep
  | plain => cases hstep
  | fail => cases hstep
  | lost => cases hstep
  | inner => cases hstep

end

section

variable {ι : Type} [DecidableEq ι]

/-- The calls against a table, before their first requests. -/
def proofSystem (self : RouteProjection) (table : Table ProofRow ProofDocument)
    (calls : ι → ProofCall) : Client.System ι ProofRequest.Answer (ProofWorld ι) RouteError Unit :=
  ⟨⟨table, [], []⟩, fun i => (calls i).program self⟩

variable {self : RouteProjection} {table : Table ProofRow ProofDocument} {calls : ι → ProofCall}
variable {s s' : Client.System ι ProofRequest.Answer (ProofWorld ι) RouteError Unit}

omit [DecidableEq ι] in
theorem proofSystem_sound (htagged : table.WellTagged) :
    Client.Sound proofDynamics proofContract (fun i => Returned i (calls i).row (calls i).record)
      (proofSystem self table calls) where
  inv :=
    { tagged := htagged
      pool := fun _ h => absurd h List.not_mem_nil
      advances := fun _ _ _ _ h => absurd h List.not_mem_nil
      exists_of_created := fun _ _ h => absurd h List.not_mem_nil
      creator := fun _ _ _ h => absurd h List.not_mem_nil
      preceded := by
        intro later i batch earlier heq
        exact absurd heq.symm (List.append_ne_nil_of_right_ne_nil _ (List.cons_ne_nil _ _))
      once := fun _ _ _ => Nat.zero_le _ }
  meets i := meets_proofCall self (calls i) fun _ h => absurd h List.not_mem_nil

end

section

variable {ι : Type}

/-! ## Steps -/

/-- What has become of a row: it is unchanged, or its replacement is in the history. -/
def RowKept (w' : ProofWorld ι) (row : ProofRow) (old : Row ProofDocument) : Prop :=
  ∃ new, w'.table.rows row = some new ∧ (new = old ∨
    ∃ i, (i, .replaced row old.document new.document) ∈ w'.history)

variable {w w' : ProofWorld ι} {row : ProofRow} {old : Row ProofDocument}

theorem commit_rowKept (i : ι) (writes : List (Write ProofRow ProofDocument))
    (hold : w.table.rows row = some old) : RowKept (w.commit i writes) row old := by
  cases hnew : (w.commit i writes).table.rows row with
  | none => exact absurd hnew ((Table.evolves_apply _ _).kept row (by rw [hold]; simp))
  | some new =>
      refine ⟨new, hnew, ?_⟩
      obtain hsame | ⟨write, hwrite, rfl, rfl⟩ := Table.apply_rows_cases hnew
      · rw [hold] at hsame
        exact .inl (Option.some.inj hsame).symm
      · refine .inr ⟨i, List.mem_append_left _ (List.mem_map.2 ⟨_, ?_, rfl⟩)⟩
        refine List.mem_filterMap.2 ⟨write, hwrite, ?_⟩
        rw [hold]
        rfl

theorem offer_rowKept (i : ι) (writes : List (Write ProofRow ProofDocument))
    (hold : w.table.rows row = some old) : RowKept (w.offer i writes) row old := by
  unfold ProofWorld.offer
  split
  next => exact commit_rowKept i writes hold
  next => exact ⟨old, hold, .inl rfl⟩

theorem RowKept.log {i : ι} {event : ProofEvent} (h : RowKept w row old) :
    RowKept (w.log i event) row old := by
  obtain ⟨new, hnew, hchange⟩ := h
  refine ⟨new, hnew, hchange.imp_right ?_⟩
  rintro ⟨j, hmem⟩
  exact ⟨j, List.mem_cons_of_mem _ hmem⟩

theorem answer_rowKept {i : ι} {l : ProofLabel} {r : ProofRequest} {a : r.Answer}
    (h : w.answer i l r = some (a, w')) (hold : w.table.rows row = some old) :
    RowKept w' row old := by
  have hsame : RowKept w row old := ⟨old, hold, .inl rfl⟩
  cases r with
  | read read =>
      cases l with
      | plain => cases Option.some.inj h; exact hsame.log
      | fail => cases Option.some.inj h; exact hsame
      | lost => cases h
      | inner => cases h
      | deliver n => cases h
  | insert created document =>
      cases l with
      | plain =>
          change (if _ then _ else _) = _ at h
          split at h
          next => cases Option.some.inj h; exact (commit_rowKept i _ hold).log
          next => cases Option.some.inj h; exact hsame
      | lost => cases Option.some.inj h; exact hsame
      | fail => cases h
      | inner => cases h
      | deliver n => cases h
  | send batch =>
      cases l with
      | plain => cases Option.some.inj h; exact offer_rowKept i _ hold
      | inner =>
          change (if _ then _ else _) = _ at h
          split at h
          next => cases h
          next => cases Option.some.inj h; exact hsame.log
      | lost => cases Option.some.inj h; exact hsame.log
      | fail => cases h
      | deliver n => cases h

theorem arrive_rowKept {l : ProofLabel} (h : w.arrive l = some w')
    (hold : w.table.rows row = some old) : RowKept w' row old := by
  cases l with
  | deliver n =>
      unfold ProofWorld.arrive at h
      dsimp only at h
      split at h
      next i writes hentry =>
        cases Option.some.inj h
        exact offer_rowKept (w := { w with pool := w.pool.eraseIdx n }) i writes hold
      next => cases h
  | plain => cases h
  | fail => cases h
  | lost => cases h
  | inner => cases h

theorem not_observed_commit {i j : ι} {writes : List (Write ProofRow ProofDocument)}
    {found : Option (Row ProofDocument)}
    (h : (j, .observed row found) ∈ (w.commit i writes).history) :
    (j, .observed row found) ∈ w.history := by
  obtain hmem | hmem := List.mem_append.1 h
  · obtain ⟨event, hevent, heq⟩ := List.mem_map.1 hmem
    obtain ⟨_, -, _, -, rfl⟩ := isReplacement_of_mem hevent
    cases heq
  · exact hmem

theorem not_observed_offer {i j : ι} {writes : List (Write ProofRow ProofDocument)}
    {found : Option (Row ProofDocument)}
    (h : (j, .observed row found) ∈ (w.offer i writes).history) :
    (j, .observed row found) ∈ w.history := by
  unfold ProofWorld.offer at h
  split at h
  next => exact not_observed_commit h
  next => exact h

/-- What was read is what the row was. -/
theorem answer_observed {i j : ι} {l : ProofLabel} {r : ProofRequest} {a : r.Answer}
    {found : Option (Row ProofDocument)} (h : w.answer i l r = some (a, w'))
    (hmem : (j, .observed row found) ∈ w'.history) :
    (j, .observed row found) ∈ w.history ∨ j = i ∧ r = .read row ∧ w.table.rows row = found := by
  cases r with
  | read read =>
      cases l with
      | plain =>
          cases Option.some.inj h
          obtain heq | hmem := List.mem_cons.1 hmem
          · cases heq
            exact .inr ⟨rfl, rfl, rfl⟩
          · exact .inl hmem
      | fail => cases Option.some.inj h; exact .inl hmem
      | lost => cases h
      | inner => cases h
      | deliver n => cases h
  | insert created document =>
      cases l with
      | plain =>
          change (if _ then _ else _) = _ at h
          split at h
          next =>
            cases Option.some.inj h
            obtain heq | hmem := List.mem_cons.1 hmem
            · cases heq
            · exact .inl (not_observed_commit hmem)
          next => cases Option.some.inj h; exact .inl hmem
      | lost => cases Option.some.inj h; exact .inl hmem
      | fail => cases h
      | inner => cases h
      | deliver n => cases h
  | send batch =>
      have hsent : (j, .observed row found) ∈ (w.log i (.sent batch)).history →
          (j, .observed row found) ∈ w.history := by
        intro hmem
        obtain heq | hmem := List.mem_cons.1 hmem
        · cases heq
        · exact hmem
      cases l with
      | plain => cases Option.some.inj h; exact .inl (hsent (not_observed_offer hmem))
      | inner =>
          change (if _ then _ else _) = _ at h
          split at h
          next => cases h
          next => cases Option.some.inj h; exact .inl (hsent hmem)
      | lost => cases Option.some.inj h; exact .inl (hsent hmem)
      | fail => cases h
      | deliver n => cases h

theorem arrive_observed {l : ProofLabel} {j : ι} {found : Option (Row ProofDocument)}
    (h : w.arrive l = some w') (hmem : (j, .observed row found) ∈ w'.history) :
    (j, .observed row found) ∈ w.history := by
  cases l with
  | deliver n =>
      unfold ProofWorld.arrive at h
      dsimp only at h
      split at h
      next i writes hentry =>
        cases Option.some.inj h
        exact not_observed_offer (w := { w with pool := w.pool.eraseIdx n }) hmem
      next => cases h
  | plain => cases h
  | fail => cases h
  | lost => cases h
  | inner => cases h

end

/-! ## Results -/

section

variable {ι : Type} [DecidableEq ι]
variable {self : RouteProjection} {table : Table ProofRow ProofDocument} {calls : ι → ProofCall}
variable {s s' : Client.System ι ProofRequest.Answer (ProofWorld ι) RouteError Unit}

theorem next_rowKept {l : Option ι × ProofLabel} (hnext : s.next? proofDynamics l = some s')
    {row : ProofRow} {old : Row ProofDocument} (hold : s.world.table.rows row = some old) :
    RowKept s'.world row old := by
  obtain ⟨j, l⟩ := l
  cases j with
  | none =>
      obtain ⟨w, hw, rfl⟩ := Option.map_eq_some_iff.1 hnext
      exact arrive_rowKept hw hold
  | some j =>
      rw [Client.System.next?] at hnext
      split at hnext
      next => cases hnext
      next r next hcall =>
        obtain ⟨⟨a, w⟩, hanswer, rfl⟩ := Option.map_eq_some_iff.1 hnext
        exact answer_rowKept hanswer hold

/-- A call reads a row that carries a document, in a system on the way. -/
def ReadOnTheWay (start s : Client.System ι ProofRequest.Answer (ProofWorld ι) RouteError Unit)
    (i : ι) (row : ProofRow) (found : Option (Row ProofDocument)) : Prop :=
  ∃ middle next, Client.Reaches proofDynamics Client.anyChange start middle ∧
    Client.Reaches proofDynamics Client.anyChange middle s ∧
    middle.clients i = .call (.read row) next ∧ middle.world.table.rows row = found

/-- Whatever the history says was read, was read on the way. -/
theorem readOnTheWay_of_observed {start : Client.System ι ProofRequest.Answer (ProofWorld ι)
      RouteError Unit} (hstart : start.world.history = [])
    (hreach : Client.Reaches proofDynamics Client.anyChange start s) {i : ι} {row : ProofRow}
    {found : Option (Row ProofDocument)} (hmem : (i, .observed row found) ∈ s.world.history) :
    ReadOnTheWay start s i row found := by
  induction hreach with
  | refl =>
      rw [hstart] at hmem
      cases hmem
  | tail hbefore hstep ih =>
      rename_i middle last
      have hlater : (i, .observed row found) ∈ middle.world.history →
          ReadOnTheWay start last i row found := by
        intro hmem
        obtain ⟨read, next, hfirst, hrest, hread⟩ := ih hmem
        exact ⟨read, next, hfirst, hrest.tail hstep, hread⟩
      have hlast := hstep
      obtain ⟨⟨j, l⟩, hnext, -⟩ := hlast
      cases j with
      | none =>
          obtain ⟨w, hw, rfl⟩ := Option.map_eq_some_iff.1 hnext
          exact hlater (arrive_observed hw hmem)
      | some j =>
          rw [Client.System.next?] at hnext
          split at hnext
          next => cases hnext
          next r next hcall =>
            obtain ⟨⟨a, w⟩, hanswer, rfl⟩ := Option.map_eq_some_iff.1 hnext
            obtain hmem | ⟨rfl, rfl, hfound⟩ := answer_observed hanswer hmem
            · exact hlater hmem
            · exact ⟨middle, next, hbefore, .single hstep, hcall, hfound⟩

/-- In every interleaving of publications of renewals and proofs of a scope, with any clocks,
delayed batches and lost responses: a row is replaced only by a document that moves forward;
the batch of an identifier is sent at most once, after its sender created the row of its
intent; and a call that has returned has found in its row what it was asked to publish. -/
theorem proofs_move_forward (htagged : table.WellTagged)
    (hreach : Client.Reaches proofDynamics Client.anyChange (proofSystem self table calls) s) :
    (∀ l s', s.next? proofDynamics l = some s' → ∀ row old, s.world.table.rows row = some old →
      ∃ new, s'.world.table.rows row = some new ∧
        (new = old ∨ old.document.Advances new.document)) ∧
    (∀ receipt intent, receipt.intent? = some intent → (s.world.sends receipt).length ≤ 1 ∧
      ∀ later i batch earlier, s.world.history = later ++ (i, .sent batch) :: earlier →
        (∃ write ∈ batch.writes, write.key = receipt) → (i, .created intent) ∈ earlier) ∧
    ∀ i, s.clients i = .done (.ok ()) → ∃ etag,
      ReadOnTheWay (proofSystem self table calls) s i (calls i).row
        (some ⟨.record (calls i).record, etag⟩) := by
  have hsound := (proofSystem_sound htagged).reaches proofContract_tolerates hreach
  refine ⟨fun l s' hnext row old hold => ?_, fun receipt intent hintent => ⟨?_, ?_⟩,
    fun i hdone => ?_⟩
  · obtain ⟨new, hnew, hchange⟩ := next_rowKept hnext hold
    refine ⟨new, hnew, hchange.imp_right ?_⟩
    rintro ⟨i, hmem⟩
    have hsound' := hsound.step proofContract_tolerates ⟨l, hnext, trivial⟩
    exact hsound'.inv.advances i row _ _ hmem
  · exact hsound.inv.once receipt intent hintent
  · rintro later i batch earlier heq ⟨write, hwrite, rfl⟩
    exact hsound.inv.preceded later i batch earlier heq write hwrite intent hintent
  · obtain ⟨etag, hmem⟩ := hsound.result hdone
    exact ⟨etag, readOnTheWay_of_observed rfl hreach hmem⟩

end

namespace RouteSample

def proofProjection : RouteProjection := ⟨⟨"table", "routes"⟩, routeScope, fun n _ => n⟩

def capability : ProgramCapabilityProof where
  proofId := 7
  identity := routeIdentity
  supportedProfiles := [.openaiV1, .openaiImages]
  issuedEpoch := 100
  expiresEpoch := 160
  profiles := by decide
  epochs := by decide
  window := by decide

/-- A renewal of the approval of the connection. -/
def renewal (approvalId : UUID) (expiresEpoch : ℤ) (epochs : IsEpoch 0 ∧ IsEpoch expiresEpoch)
    (window : 0 < expiresEpoch - 0 ∧ expiresEpoch - 0 ≤ 86400) : RouteApprovalRenewal where
  scope := routeScope
  contentSha256 := routeModel.sha256
  originalApprovalSha256 := routeMember.approvalSha256
  requiredProgramSha256 := routeIdentity.programSha256
  budgetEpoch := 8
  approval := { routeConnection with approvalId, expiresEpoch, epochs, window }

def firstRenewal : RouteApprovalRenewal := renewal 31 700 (by decide) (by decide)
def delayedRenewal : RouteApprovalRenewal := renewal 32 800 (by decide) (by decide)
def lastRenewal : RouteApprovalRenewal := renewal 33 900 (by decide) (by decide)

/-- A proof, a renewal, and two renewals that replace it. -/
def proofCalls : ℕ → ProofCall
  | 0 => .proof 3 capability routeIdentity none 120
  | 1 => .renewal 4 firstRenewal routeModel routeMember capability none 120
  | 2 => .renewal 5 delayedRenewal routeModel routeMember capability (some 3) 120
  | _ => .renewal 6 lastRenewal routeModel routeMember capability (some 3) 120

abbrev proofStart : Client.System ℕ ProofRequest.Answer (ProofWorld ℕ) RouteError Unit :=
  proofSystem proofProjection ⟨fun _ => none, 0⟩ proofCalls

/-- Requests of a call that are answered. -/
def answered (i n : ℕ) : List (Option ℕ × ProofLabel) := List.replicate n (some i, .plain)

/-- The response to the batch of the proof is lost.  The first renewal is stored; the batch of the
second one stays in flight, and the third is about to send its own. -/
def publishing : List (Option ℕ × ProofLabel) :=
  answered 0 5 ++ [(some 0, .lost), (none, .deliver 0)] ++ answered 0 2 ++ answered 1 8 ++
    answered 2 5 ++ [(some 2, .lost)] ++ answered 3 5

/-- The third renewal is confirmed, and then the batch of the second one arrives. -/
def arriving : List (Option ℕ × ProofLabel) := answered 3 2 ++ [(none, .deliver 0)]

end RouteSample

/-- A proof is published, although the response to its batch is lost.  A renewal replaces one that
expires before it, and the renewal in between, whose batch arrives last, does not replace it. -/
theorem proof_published : ∃ s s' t,
    Client.Reaches proofDynamics Client.anyChange RouteSample.proofStart s ∧
    s.next? proofDynamics (some 3, .plain) = some s' ∧
    Client.Reaches proofDynamics Client.anyChange s' t ∧
    (∃ old new, s.world.table.rows RouteSample.lastRenewal.rowKey = some old ∧
      s'.world.table.rows RouteSample.lastRenewal.rowKey = some new ∧
      old.document = .record (.renewal RouteSample.firstRenewal) ∧
      old.document.Advances new.document) ∧
    (t.world.table.rows RouteSample.lastRenewal.rowKey).map Row.document =
      some (.record (.renewal RouteSample.lastRenewal)) ∧
    (t.world.sends (.approvalReceipt 32)).length ≤ 1 ∧
    (∃ etag, ReadOnTheWay RouteSample.proofStart t 0 (RouteSample.proofCalls 0).row
      (some ⟨.record (RouteSample.proofCalls 0).record, etag⟩)) ∧
    ∃ etag, ReadOnTheWay RouteSample.proofStart t 3 (RouteSample.proofCalls 3).row
      (some ⟨.record (RouteSample.proofCalls 3).record, etag⟩) := by
  obtain ⟨s, s', t, old, hrun, hnext, hlast, hold, hdocument, hchanged, hkept, hproof, hdone⟩ :
      ∃ s s' t old, RouteSample.proofStart.run? proofDynamics RouteSample.publishing = some s ∧
        s.next? proofDynamics (some 3, .plain) = some s' ∧
        s'.run? proofDynamics RouteSample.arriving = some t ∧
        s.world.table.rows RouteSample.lastRenewal.rowKey = some old ∧
        old.document = .record (.renewal RouteSample.firstRenewal) ∧
        (s'.world.table.rows RouteSample.lastRenewal.rowKey).map Row.document =
          some (.record (.renewal RouteSample.lastRenewal)) ∧
        (t.world.table.rows RouteSample.lastRenewal.rowKey).map Row.document =
          some (.record (.renewal RouteSample.lastRenewal)) ∧
        t.clients 0 = .done (.ok ()) ∧ t.clients 3 = .done (.ok ()) :=
    ⟨_, _, _, _, rfl, rfl, rfl, rfl, rfl, rfl, rfl, rfl, rfl⟩
  have hreach := Client.reaches_of_run? hrun
  have hlater := Client.reaches_of_run? hlast
  have htagged : Table.WellTagged (⟨fun _ => none, 0⟩ : Table ProofRow ProofDocument) :=
    fun _ _ h => by cases h
  obtain ⟨new, hnew, hsame | hadvances⟩ :=
    (proofs_move_forward htagged hreach).1 _ _ hnext _ _ hold
  · rw [hnew, hsame, Option.map_some, hdocument] at hchanged
    exact absurd hchanged (by decide)
  · have hall := proofs_move_forward htagged (hreach.trans (.head ⟨_, hnext, trivial⟩ hlater))
    exact ⟨s, s', t, hreach, hnext, hlater, ⟨old, new, hold, hnew, hdocument, hadvances⟩, hkept,
      (hall.2.1 _ _ rfl).1, hall.2.2 0 hproof, hall.2.2 3 hdone⟩

end Turnstile
