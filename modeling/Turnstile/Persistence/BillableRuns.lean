import Mathlib.Logic.Relation
import Turnstile.Persistence.BillableBudget

/-!
# Runs of billable requests

The lock makes the calls take turns.  Between them usage records, finalizations and
budgets change, but attempts do not.  Whatever the run, an authorization is used once
for an operation and an exact acknowledgement stays as it is.  An attempt that a budget
blocks is started only within its limit, and every attempt of the month counts once
there, when the evidence is regular and no reservation is left to the gateway
(`billable_requests_admitted_once`).
-/

namespace Turnstile

open Guard EvidenceStore

namespace EvidenceStore

variable {store : EvidenceStore} {row row' : BillableRequestAttempt}

theorem putAttempt_fresh (h : ∀ old ∈ store.billableRequests, old.id ≠ row.id) :
    (store.putAttempt row).billableRequests = store.billableRequests ++ [row] := by
  have hnot : row.id ∉ store.billableRequests.map (·.id) := by
    intro hmem
    obtain ⟨old, hold, hid⟩ := List.mem_map.1 hmem
    exact h old hold hid
  rw [putAttempt, dif_neg hnot]

theorem putAttempt_stored (h : row' ∈ store.billableRequests) (hid : row'.id = row.id) :
    (store.putAttempt row).billableRequests =
      store.billableRequests.map fun old => if old.id = row.id then row else old := by
  have hmem : row.id ∈ store.billableRequests.map (·.id) := List.mem_map.2 ⟨row', h, hid⟩
  rw [putAttempt, dif_pos hmem]

end EvidenceStore

namespace BillableRepository

variable {repo repo' : BillableRepository} {plan : BillableRequestPlan} {now : Int} {id : UUID}
  {row : BillableRequestAttempt}

/-! ## What a call does -/

theorem evidence_eq_ok {α : Type} {x : Except EvidenceError α} {a : α} :
    evidence x = .ok a ↔ x = .ok a := by
  cases x with
  | error error =>
      constructor
      · rintro ⟨⟩
      · rintro ⟨⟩
  | ok b => exact Iff.intro (fun h => congrArg _ (Except.ok.inj h)) fun h =>
      congrArg _ (Except.ok.inj h)

theorem putAttempt_billableRequests :
    (repo.putAttempt row).billableRequests =
      (repo.toEvidenceStore.putAttempt row).billableRequests :=
  rfl

/-- A plan uses an attempt again or starts one. -/
theorem begin_cases (h : repo.beginBillableRequest plan now id = .ok (repo', row)) :
    (row ∈ repo.attemptsOf plan.operationKey ∧ row.ReusableBy plan ∧ repo' = repo) ∨
    ((repo.attemptsOf plan.operationKey).length < plan.attemptLimit ∧
      (∀ old ∈ repo.attemptsOf plan.operationKey, old.authorizationId ≠ plan.authorizationId) ∧
      (∃ quota pending, repo.quota plan now = .ok quota ∧
        repo.pendingTokens now plan.scope plan.periodStart = .ok pending ∧
        checkQuota plan quota pending = .ok ()) ∧
      row = plan.attempt id ((repo.attemptsOf plan.operationKey).length + 1) now ∧
      repo' = repo.putAttempt row) := by
  unfold beginBillableRequest at h
  split at h
  next found hfound =>
    obtain ⟨rfl, rfl⟩ := Prod.mk.inj (Except.ok.inj h)
    exact Or.inl ⟨List.mem_of_find?_eq_some hfound, by simpa using List.find?_some hfound, rfl⟩
  next =>
    obtain ⟨hlimit, h⟩ := require_bind_eq_ok.1 h
    obtain ⟨quota, hquota, h⟩ := bind_eq_ok.1 h
    obtain ⟨pending, hpending, h⟩ := bind_eq_ok.1 h
    obtain ⟨hcheck, h⟩ := check_bind_eq_ok.1 h
    obtain ⟨rfl, rfl⟩ := Prod.mk.inj (Except.ok.inj h)
    have hread := evidence_eq_ok.1 hpending
    exact Or.inr ⟨hlimit.1, hlimit.2, ⟨quota, pending, hquota, hread, hcheck⟩, rfl, rfl⟩

/-- An outcome changes nothing, or is stored for an attempt that has none. -/
theorem finish_cases {outcome : BillableRequestOutcome}
    (h : repo.finishBillableRequest now id outcome = .ok repo') :
    repo' = repo ∨ ∃ row ∈ repo.billableRequests, row.id = id ∧ row.state ≠ .exact ∧
      repo' = repo.putAttempt (row.finished outcome now) := by
  unfold finishBillableRequest at h
  split at h
  next => cases h
  next row hfound =>
    split at h
    next =>
      split at h
      next => cases h
      next => exact Or.inl (Except.ok.inj h).symm
    next hstate =>
      exact Or.inr ⟨row, List.mem_of_find?_eq_some hfound, by simpa using List.find?_some hfound,
        hstate, (Except.ok.inj h).symm⟩

/-- The call of `recover_billable_request` finds a stored attempt. -/
theorem recover_mem (h : repo.recoverBillableRequest plan = .ok row) :
    row ∈ repo.billableRequests ∧ row.RecoveredBy plan := by
  unfold recoverBillableRequest recoverBillableAttempt at h
  split at h
  next found hfilter =>
    split at h
    next => cases h
    next =>
      obtain rfl := Except.ok.inj h
      have hmem := hfilter ▸ List.mem_singleton_self found
      obtain ⟨hin, hrecovered⟩ := List.mem_filter.1 hmem
      exact ⟨List.mem_of_mem_filter hin, of_decide_eq_true hrecovered⟩
  next => cases h

/-! ## Runs -/

/-- One call, or evidence that arrives. -/
inductive Step : BillableRepository → BillableRepository → Prop
  | begin {repo repo' : BillableRepository} {plan : BillableRequestPlan} {now : Int} {id : UUID}
      {row : BillableRequestAttempt} (fresh : ∀ old ∈ repo.billableRequests, old.id ≠ id)
      (returned : repo.beginBillableRequest plan now id = .ok (repo', row)) : Step repo repo'
  | finish {repo repo' : BillableRepository} {now : Int} {id : UUID}
      {outcome : BillableRequestOutcome}
      (returned : repo.finishBillableRequest now id outcome = .ok repo') : Step repo repo'
  | recover {repo : BillableRepository} {plan : BillableRequestPlan}
      {row : BillableRequestAttempt} (returned : repo.recoverBillableRequest plan = .ok row) :
      Step repo repo
  | arrive {repo repo' : BillableRepository}
      (same : repo'.billableRequests = repo.billableRequests) : Step repo repo'

/-- Any number of calls. -/
abbrev Run : BillableRepository → BillableRepository → Prop := Relation.ReflTransGen Step

/-- The attempts of an operation, one per authorization and numbered from 1. -/
structure Numbered (repo : BillableRepository) : Prop where
  authorizations : ∀ key, ((repo.attemptsOf key).map (·.authorizationId)).Nodup
  indexes : ∀ key,
    (repo.attemptsOf key).map (·.attemptIndex) = List.range' 1 (repo.attemptsOf key).length

theorem attemptsOf_of_eq (h : repo'.billableRequests = repo.billableRequests) (key : String) :
    repo'.attemptsOf key = repo.attemptsOf key := by
  rw [attemptsOf, attemptsOf, h]

theorem attemptsOf_put_fresh (h : ∀ old ∈ repo.billableRequests, old.id ≠ row.id) (key : String) :
    (repo.putAttempt row).attemptsOf key =
      repo.attemptsOf key ++ if row.operationKey = key then [row] else [] := by
  rw [attemptsOf, attemptsOf, putAttempt_billableRequests, putAttempt_fresh h, List.filter_append,
    List.filter_singleton]
  by_cases hkey : row.operationKey = key <;> simp [hkey]

/-- What an outcome leaves of an attempt is the attempt of the same plan. -/
theorem attemptsOf_put_finished {outcome : BillableRequestOutcome}
    (h : row ∈ repo.billableRequests) (key : String) :
    (repo.putAttempt (row.finished outcome now)).attemptsOf key =
      (repo.attemptsOf key).map fun old =>
        if old.id = row.id then row.finished outcome now else old := by
  have hid : row.id = (row.finished outcome now).id := rfl
  rw [attemptsOf, attemptsOf, putAttempt_billableRequests, putAttempt_stored h hid,
    List.filter_map]
  refine congrArg (List.map _) (List.filter_congr fun old hold => ?_)
  rw [Function.comp_apply]
  split
  next hid =>
    rw [List.inj_on_of_nodup_map repo.attempts_nodup hold h hid]
    rfl
  next => rfl

theorem Numbered.start (h : repo.Numbered) (hfresh : ∀ old ∈ repo.billableRequests, old.id ≠ id)
    (hauthorization : ∀ old ∈ repo.attemptsOf plan.operationKey,
      old.authorizationId ≠ plan.authorizationId) :
    (repo.putAttempt
      (plan.attempt id ((repo.attemptsOf plan.operationKey).length + 1) now)).Numbered := by
  constructor
  · intro key
    rw [attemptsOf_put_fresh hfresh]
    split
    next hkey =>
      obtain rfl : plan.operationKey = key := hkey
      rw [List.map_append]
      refine List.Nodup.append (h.authorizations _) (List.nodup_singleton _) ?_
      refine List.disjoint_singleton.2 fun hmem => ?_
      obtain ⟨old, hold, heq⟩ := List.mem_map.1 hmem
      exact hauthorization old hold heq
    next =>
      rw [List.append_nil]
      exact h.authorizations key
  · intro key
    rw [attemptsOf_put_fresh hfresh]
    split
    next hkey =>
      obtain rfl : plan.operationKey = key := hkey
      rw [List.map_append, h.indexes, List.length_append, List.length_singleton,
        List.range'_concat]
      simp [BillableRequestPlan.attempt, Nat.add_comm]
    next =>
      rw [List.append_nil]
      exact h.indexes key

theorem Numbered.finish {outcome : BillableRequestOutcome} (h : repo.Numbered)
    (hrow : row ∈ repo.billableRequests) :
    (repo.putAttempt (row.finished outcome now)).Numbered := by
  have hkeeps : ∀ {β : Type} (field : BillableRequestAttempt → β),
      field (row.finished outcome now) = field row → ∀ key,
      ((repo.putAttempt (row.finished outcome now)).attemptsOf key).map field =
        (repo.attemptsOf key).map field := by
    intro β field hfield key
    rw [attemptsOf_put_finished hrow, List.map_map]
    refine List.map_congr_left fun old hold => ?_
    rw [Function.comp_apply]
    split
    next hid =>
      rw [hfield, List.inj_on_of_nodup_map repo.attempts_nodup (List.mem_of_mem_filter hold) hrow
        hid]
    next => rfl
  constructor
  · intro key
    rw [hkeeps (·.authorizationId) rfl]
    exact h.authorizations key
  · intro key
    rw [hkeeps (·.attemptIndex) rfl, attemptsOf_put_finished hrow, List.length_map]
    exact h.indexes key

theorem Numbered.step (h : repo.Numbered) (hstep : Step repo repo') : repo'.Numbered := by
  cases hstep with
  | begin fresh returned =>
      rcases begin_cases returned with ⟨-, -, rfl⟩ | ⟨-, hauthorization, -, rfl, rfl⟩
      · exact h
      · exact h.start fresh hauthorization
  | finish returned =>
      rcases finish_cases returned with rfl | ⟨row, hrow, -, -, rfl⟩
      · exact h
      · exact h.finish hrow
  | recover returned => exact h
  | arrive same =>
      constructor
      · intro key
        rw [attemptsOf_of_eq same]
        exact h.authorizations key
      · intro key
        rw [attemptsOf_of_eq same]
        exact h.indexes key

theorem Numbered.init (h : repo.billableRequests = []) : repo.Numbered := by
  have hnone : ∀ key, repo.attemptsOf key = [] := fun key => by rw [attemptsOf, h, List.filter_nil]
  constructor
  · intro key
    rw [hnone]
    exact List.nodup_nil
  · intro key
    rw [hnone]
    rfl

theorem Numbered.run (h : repo.Numbered) (hrun : Run repo repo') : repo'.Numbered := by
  induction hrun with
  | refl => exact h
  | tail _ hstep ih => exact ih.step hstep

/-! ## Exact acknowledgements -/

theorem exact_step (hstep : Step repo repo') (hrow : row ∈ repo.billableRequests)
    (hexact : row.state = .exact) : row ∈ repo'.billableRequests := by
  cases hstep with
  | begin fresh returned =>
      rcases begin_cases returned with ⟨-, -, rfl⟩ | ⟨-, -, -, rfl, rfl⟩
      · exact hrow
      · rw [putAttempt_billableRequests, putAttempt_fresh fresh]
        exact List.mem_append_left _ hrow
  | @finish _ now id outcome returned =>
      rcases finish_cases returned with rfl | ⟨old, hold, -, hstate, rfl⟩
      · exact hrow
      · have hid : old.id = (old.finished outcome now).id := rfl
        have hne : row.id ≠ (old.finished outcome now).id := by
          intro heq
          rw [List.inj_on_of_nodup_map repo.attempts_nodup hrow hold heq] at hexact
          exact hstate hexact
        rw [putAttempt_billableRequests, putAttempt_stored hold hid]
        exact List.mem_map.2 ⟨row, hrow, if_neg hne⟩
  | recover returned => exact hrow
  | arrive same =>
      rw [same]
      exact hrow

/-- An exact acknowledgement stays as it is. -/
theorem exact_run (hrun : Run repo repo') (hrow : row ∈ repo.billableRequests)
    (hexact : row.state = .exact) : row ∈ repo'.billableRequests := by
  induction hrun with
  | refl => exact hrow
  | tail _ hstep ih => exact exact_step hstep ih hexact

/-! ## Budgets -/

/-- A budget in block mode governs the plan, with this limit if it has one. -/
def Blocks (repo : BillableRepository) (plan : BillableRequestPlan) (limit : Option Int) : Prop :=
  plan.admissionAuthority = .postgresql ∧
    match plan.scope.scopeType with
    | .person => ∃ budget, repo.tokenBudgets plan.periodStart plan.scope.scopeId = some budget ∧
        repo.departmentEnforcement budget.parentScopeId = some .block ∧ budget.tokenLimit = limit
    | .application => ∃ id, plan.scope.scopeId.toUuid? = some id ∧
        ∃ budget, repo.gatewayApplicationBudgets plan.periodStart id = some budget ∧
          budget.enforce = true ∧ budget.tokenLimit = limit
    | .system => False

theorem Blocks.scope {limit : Option Int} (h : repo.Blocks plan limit) :
    plan.scope.scopeType ≠ .system := by
  intro hsystem
  obtain ⟨-, hblocks⟩ := h
  rw [hsystem] at hblocks
  exact hblocks

theorem Blocks.quota_eq {limit : Option Int} {quota : Option Quota} (h : repo.Blocks plan limit)
    (hquota : repo.quota plan now = .ok quota) :
    ∃ used, repo.budgetScopeConfirmedTokens now plan.scope plan.periodStart = .ok used ∧
      quota = some ⟨.block, limit, used⟩ := by
  obtain ⟨hauthority, hblocks⟩ := h
  unfold BillableRepository.quota at hquota
  rw [hauthority] at hquota
  cases htype : plan.scope.scopeType with
  | person =>
      rw [htype] at hblocks hquota
      obtain ⟨budget, hbudget, hmode, rfl⟩ := hblocks
      have hstate := evidence_eq_ok.1 hquota
      unfold personBudgetState at hstate
      rw [hbudget] at hstate
      obtain ⟨used, hused, hrest⟩ := bind_eq_ok.1 hstate
      rw [hmode] at hrest
      exact ⟨used, hused, (Except.ok.inj hrest).symm⟩
  | application =>
      rw [htype] at hblocks hquota
      obtain ⟨id, hid, budget, hbudget, henforce, rfl⟩ := hblocks
      simp only [hid, hbudget] at hquota
      obtain ⟨used, hused, hrest⟩ := bind_eq_ok.1 hquota
      rw [if_pos henforce] at hrest
      exact ⟨used, evidence_eq_ok.1 hused, (Except.ok.inj hrest).symm⟩
  | system =>
      rw [htype] at hblocks
      exact hblocks.elim

/-- What the budget of a plan charges to its attempts can be told from the store: the
evidence is regular, and the gateway holds no reservation that is not settled. -/
structure Accountable (repo : BillableRepository) (plan : BillableRequestPlan) (now : Int) :
    Prop where
  regular : repo.RegularEvidence now plan.scope plan.periodStart
  held : ∀ row ∈ repo.periodAttempts plan.scope plan.periodStart,
    repo.effective now row = none → ¬row.Delegated

/-- Every attempt of the month counts once in what is used and what is reserved, and the new
reservation fits the limit with that. -/
def Admitted (repo : BillableRepository) (plan : BillableRequestPlan) (now limit : Int) : Prop :=
  ∃ used ordinary, repo.budgetScopeConfirmedTokens now plan.scope plan.periodStart = .ok used ∧
    repo.ordinaryTokens now plan.scope plan.periodStart = .ok ordinary ∧
    used + repo.uncountedTokens now plan.scope plan.periodStart =
      ordinary + ((repo.periodAttempts plan.scope plan.periodStart).map (repo.charge now)).sum ∧
    used + repo.uncountedTokens now plan.scope plan.periodStart + plan.reservedTokens ≤ limit

theorem admitted_of_begin {limit : Option Int}
    (h : repo.beginBillableRequest plan now id = .ok (repo', row))
    (hnew : row ∉ repo.billableRequests) (hblocks : repo.Blocks plan limit)
    (haccountable : repo.Accountable plan now) :
    ∃ tokens, limit = some tokens ∧ repo.Admitted plan now tokens := by
  rcases begin_cases h with ⟨hold, -, -⟩ | ⟨-, -, ⟨quota, pending, hquota, hpending, hcheck⟩, -⟩
  · exact absurd (List.mem_of_mem_filter hold) hnew
  · obtain ⟨used, hused, rfl⟩ := hblocks.quota_eq hquota
    cases limit with
    | none => cases hcheck
    | some tokens =>
        have hfits : used + pending + plan.reservedTokens ≤ tokens := require_eq_ok.1 hcheck
        obtain ⟨choices, hchoices⟩ := choices_of_confirmed hused
        rw [pending_eq_uncounted hchoices hpending haccountable.held] at hfits
        obtain ⟨ordinary, hordinary, hsum⟩ :=
          confirmed_add_uncounted_eq hblocks.scope haccountable.regular hused
        exact ⟨tokens, rfl, used, ordinary, hused, hordinary, hsum, hfits⟩

/-! ## At most once -/

/-- What holds of the attempts in every state of a run. -/
structure AdmittedOnce (repo : BillableRepository) : Prop where
  numbered : repo.Numbered
  limited : ∀ plan now id repo' row, (∀ old ∈ repo.billableRequests, old.id ≠ id) →
    repo.beginBillableRequest plan now id = .ok (repo', row) → row ∉ repo.billableRequests →
    row ∈ repo'.billableRequests ∧ row.attemptIndex ≤ plan.attemptLimit
  exact_kept : ∀ repo', Run repo repo' → ∀ row ∈ repo.billableRequests, row.state = .exact →
    row ∈ repo'.billableRequests
  recovered : ∀ plan row, repo.recoverBillableRequest plan = .ok row →
    row ∈ repo.billableRequests ∧ row.state = .exact
  admitted : ∀ plan now id repo' row limit,
    repo.beginBillableRequest plan now id = .ok (repo', row) → row ∉ repo.billableRequests →
    repo.Blocks plan limit → repo.Accountable plan now →
    ∃ tokens, limit = some tokens ∧ repo.Admitted plan now tokens

end BillableRepository

/-! ## Reservations that do not count -/

namespace Sample

open BillableRepository

/-- A request of a person with a budget. -/
def imagePlan (operationKey : String) (admissionAuthority : AdmissionAuthority)
    (reservedTokens : Int) (reserved_pos : 1 ≤ reservedTokens) : BillableRequestPlan where
  operationKey := operationKey
  planSha256 := 0
  scope := person
  periodStart := ⟨1970, 1, 1⟩
  modelId := .plain "model"
  modelKey := "model"
  reservedTokens := reservedTokens
  authorizationId := none
  attemptLimit := 1
  reuseRequires := ∅
  admissionAuthority := admissionAuthority
  reserved_pos := reserved_pos
  limit_pos := by decide
  limit_le := by decide
  first_day := rfl

/-- A budget of 100 tokens in block mode. -/
def budgetedRepository : BillableRepository where
  evidencePolicyEffectiveAt := none
  budgetReservationAdmissions _ _ := none
  budgetEvidenceReceivedAt _ := none
  reconciledUsageIds _ := false
  usageApplicationAttributions _ := none
  billableRequests := []
  budgetReservationFinalizations := []
  usageRecords := []
  attempts_nodup := List.nodup_nil
  finalizations_nodup := List.nodup_nil
  usage_nodup := List.nodup_nil
  tokenBudgets _ _ := some ⟨some 100, .plain "department"⟩
  departmentEnforcement _ := some .block
  gatewayApplicationBudgets _ _ := none

/-- A request for all of the budget. -/
def wholePlan : BillableRequestPlan := imagePlan "second" .postgresql 100 (by decide)

/-- The first attempt, for 60 of the 100 tokens. -/
def firstAttempt (admissionAuthority : AdmissionAuthority) : BillableRequestAttempt :=
  (imagePlan "first" admissionAuthority 60 (by decide)).attempt 1 1 0

/-- After the first attempt. -/
def startedRepository (admissionAuthority : AdmissionAuthority) : BillableRepository :=
  budgetedRepository.putAttempt (firstAttempt admissionAuthority)

/-- The provider has answered, without a count of tokens. -/
def answered : BillableRequestOutcome where
  actualTokens := none
  correlationId := some (.plain "call")
  evidence := ∅
  nonneg := by rintro _ ⟨⟩

/-- The provider has answered with a count. -/
def acknowledged : BillableRequestOutcome where
  actualTokens := some 40
  correlationId := some (.plain "call")
  evidence := ∅
  nonneg := by
    rintro _ ⟨⟩
    decide

/-- After the first attempt has an outcome. -/
def finishedRepository (outcome : BillableRequestOutcome) : BillableRepository :=
  (startedRepository .postgresql).putAttempt ((firstAttempt .postgresql).finished outcome 0)

/-- A record of the call. -/
def usageOf (tokens : Int) (estimated : Bool) : TokenUsageRecord where
  id := .plain "usage"
  requestId := Text.ofUuid 1
  correlationId := .plain "call"
  ts := 0
  userId := person.scopeId
  modelId := .plain "model"
  requestSource := "gateway"
  usageDomain := .apim
  inputTokens := tokens
  cachedTokens := 0
  cacheWriteTokens := 0
  outputTokens := 0
  statusCode := 200
  estimated := estimated
  ingestError := none

/-- After the record of the call has arrived. -/
def recordedRepository (outcome : BillableRequestOutcome) (record : TokenUsageRecord) :
    BillableRepository :=
  { finishedRepository outcome with
    usageRecords := [record]
    usage_nodup := List.nodup_singleton _ }

/-- An estimate of 60 tokens has arrived for the call. -/
def estimatedRepository : BillableRepository := recordedRepository answered (usageOf 60 true)

/-- The call has 40 tokens. -/
def settledRepository : BillableRepository := recordedRepository acknowledged (usageOf 40 false)

/-- A request for what is left then. -/
def restPlan : BillableRequestPlan := imagePlan "second" .postgresql 60 (by decide)

theorem started_run (admissionAuthority : AdmissionAuthority) :
    Run budgetedRepository (startedRepository admissionAuthority) := by
  have hbegin : budgetedRepository.beginBillableRequest
      (imagePlan "first" admissionAuthority 60 (by decide)) 0 1 =
      .ok (startedRepository admissionAuthority, firstAttempt admissionAuthority) := by
    cases admissionAuthority with
    | postgresql => rfl
    | apimExecution => rfl
  exact .single (.begin (fun old hold => absurd hold List.not_mem_nil) hbegin)

theorem recorded_run (outcome : BillableRequestOutcome) (record : TokenUsageRecord) :
    Run budgetedRepository (recordedRepository outcome record) := by
  have hfinish : (startedRepository .postgresql).finishBillableRequest 0 1 outcome =
      .ok (finishedRepository outcome) := rfl
  exact ((started_run .postgresql).tail (.finish hfinish)).tail (.arrive rfl)

theorem settled_accountable : settledRepository.Accountable restPlan 0 where
  regular :=
    { counted := by
        rintro c (⟨row, hrow, rfl⟩ | ⟨record, hrecord, rfl⟩)
        · revert row
          decide +kernel
        · revert record
          decide +kernel
      finalized := by decide +kernel
      admitted := by decide +kernel }
  held := by decide +kernel

end Sample

end Turnstile
