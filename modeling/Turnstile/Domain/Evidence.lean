import Turnstile.Domain.Price

/-!
# Completion and rejection evidence

A producer completion reports the five token counters of one execution.  A
completion with a rejection reports that the provider refused the request before
doing any work; it carries zero counters, and it counts only if a rule of the
policy that was in force at admission names the refusal.

`validateCompletion` and `validateRejectionPolicy` return the normalised object.
On decoded values normalising changes nothing, so each returns its argument
(`validateCompletion_eq_ok`).
-/

namespace Turnstile

open Guard

/-! ## Rejections -/

/-- `REJECTION_OPERATIONS`. -/
inductive Operation where
  | responses
  | responsesCompact
  | chatCompletions
  | anthropicMessages
  | imagesGenerations
  | microsoftDecision
deriving DecidableEq, Repr

/-- One of `error_type`, `error_code`, `error_param` of an observation. -/
inductive ErrorField where
  | absent
  | null
  | value (text : String)
deriving DecidableEq, Repr

/-- The length and the characters a regular expression `[...]{1,limit}` admits. -/
def matchesClass (extra : List Char) (limit : Nat) (text : String) : Bool :=
  let chars := text.toList
  decide (1 ≤ chars.length) && decide (chars.length ≤ limit) &&
    chars.all fun c => c.isAlphanum || extra.contains c

/-- `_error_field`. -/
def ErrorField.ok : ErrorField → Bool
  | .absent | .null => true
  | .value text => matchesClass ['_', '.', '[', ']', '-'] 255 text

def ErrorField.isValue : ErrorField → Bool
  | .value _ => true
  | _ => false

/-- A rule of a version-1 policy. -/
structure RejectionRuleV1 where
  statusCode : Int
  errorType : String
  errorCode : String
deriving DecidableEq, Repr

/-- `_rejection_rule(value)`. -/
def RejectionRuleV1.ok (rule : RejectionRuleV1) : Bool :=
  decide (rule.statusCode = 400 ∨ rule.statusCode = 422) &&
    matchesClass ['_', '.', '-'] 128 rule.errorType &&
    matchesClass ['_', '.', '-'] 128 rule.errorCode

/-- A rule of a version-2 policy. -/
structure RejectionRuleV2 where
  statusCode : Int
  errorType : ErrorField
  errorCode : ErrorField
  errorParam : ErrorField
deriving DecidableEq, Repr

/-- `_rejection_rule(value, 2)`. -/
def RejectionRuleV2.ok (rule : RejectionRuleV2) : Bool :=
  decide (400 ≤ rule.statusCode ∧ rule.statusCode < 500) &&
    decide (rule.statusCode ≠ 408 ∧ rule.statusCode ≠ 499) &&
    rule.errorType.ok && rule.errorCode.ok && rule.errorParam.ok &&
    (rule.errorType.isValue || rule.errorCode.isValue)

/-- A version-2 observation of a terminal response. -/
structure TerminalRejection where
  operation : Operation
  rule : RejectionRuleV2
  observationSha256 : Sha256 (Operation × RejectionRuleV2)
deriving DecidableEq, Repr

/-- `_rejection_digest`. -/
def rejectionDigest (operation : Operation) (rule : RejectionRuleV2) :
    Sha256 (Operation × RejectionRuleV2) :=
  ⟨operation, rule⟩

/-- A rejection object without its policy digest. -/
inductive Rejected where
  | terminal (observation : TerminalRejection)
  | rule (rule : RejectionRuleV1)
  | malformed
deriving DecidableEq, Repr

/-- `validate_terminal_rejection`. -/
def validateTerminalRejection : Rejected → Except LedgerError TerminalRejection
  | .terminal observation => do
      require (observation.rule.ok = true ∧
          observation.observationSha256 = rejectionDigest observation.operation observation.rule)
        (.valueError "Terminal response evidence has an invalid protocol or field shape")
      pure observation
  | _ => .error (.valueError "Terminal response evidence has an invalid protocol or field shape")

/-- The `rejection` of a completion. -/
structure Rejection where
  observed : Rejected
  policyEvidenceSha256 : Hex64
deriving DecidableEq, Repr

/-! ## Completions -/

/-- Who reported a completion. -/
inductive Source where
  | apim
  | observer
  | untrusted
deriving DecidableEq, Repr

structure Completion extends UsageCounters where
  totalTokens : Int
  source : Source
  observedAt : Int
  rejection : Option (Decoded Rejection)
deriving DecidableEq, Repr

/-- `COUNTERS`, in order. -/
def Completion.counters (c : Completion) : UsageCounters × Int := (c.toUsageCounters, c.totalTokens)

/-- The checks that `validate_completion` makes of a `rejection`. -/
def validateCompletionRejection (c : Completion) : Option (Decoded Rejection) →
    Except LedgerError Unit
  | none => .ok ()
  | some .malformed =>
      .error (.valueError "Rejection evidence must retain a declared zero-charge decision")
  | some (.record rejection) => do
      require (c.counters = (⟨0, 0, 0, 0⟩, 0))
        (.valueError "Rejection evidence must retain a declared zero-charge decision")
      match rejection.observed with
      | .terminal _ => do
          let _ ← validateTerminalRejection rejection.observed
          pure ()
      | .rule rule =>
          require (rule.ok = true) (.valueError "Rejection evidence has an invalid error contract")
      | .malformed => .error (.valueError "Rejection evidence has an invalid error contract")

/-- `validate_completion`. -/
def validateCompletion : Decoded Completion → Except LedgerError Completion
  | .malformed =>
      .error (.valueError "Only a complete trusted producer receipt can settle execution")
  | .record c => do
      require (c.source ≠ .untrusted)
        (.valueError "Only a complete trusted producer receipt can settle execution")
      exactInteger "input_tokens" c.inputTokens
      exactInteger "cached_tokens" c.cachedTokens
      exactInteger "cache_write_tokens" c.cacheWriteTokens
      exactInteger "output_tokens" c.outputTokens
      exactInteger "total_tokens" c.totalTokens
      require (c.cacheWriteTokens ≤ c.cachedTokens ∧
          c.inputTokens + c.cachedTokens + c.outputTokens = c.totalTokens)
        (.valueError "Completion usage breakdown does not match its total")
      validateCompletionRejection c c.rejection
      pure c

/-- What `validate_completion` checks. -/
structure Completion.Valid (c : Completion) : Prop where
  trusted : c.source ≠ .untrusted
  input : 0 ≤ c.inputTokens ∧ c.inputTokens ≤ maxTokens
  cached : 0 ≤ c.cachedTokens ∧ c.cachedTokens ≤ maxTokens
  cacheWrite : 0 ≤ c.cacheWriteTokens ∧ c.cacheWriteTokens ≤ maxTokens
  output : 0 ≤ c.outputTokens ∧ c.outputTokens ≤ maxTokens
  total : 0 ≤ c.totalTokens ∧ c.totalTokens ≤ maxTokens
  breakdown : c.cacheWriteTokens ≤ c.cachedTokens ∧
    c.inputTokens + c.cachedTokens + c.outputTokens = c.totalTokens
  rejection : validateCompletionRejection c c.rejection = .ok ()

/-- A validated completion is the record that was validated. -/
theorem validateCompletion_eq_ok {value : Decoded Completion} {c : Completion} :
    validateCompletion value = .ok c ↔ value = .record c ∧ c.Valid := by
  cases value with
  | malformed => simp [validateCompletion]
  | record c' =>
      simp only [validateCompletion, bind_eq_ok, require_eq_ok, exactInteger_eq_ok, exists_const,
        pure_eq, Except.ok.injEq, Decoded.record.injEq]
      constructor
      · rintro ⟨h₁, h₂, h₃, h₄, h₅, h₆, h₇, _, h₈, rfl⟩
        exact ⟨rfl, h₁, h₂, h₃, h₄, h₅, h₆, h₇, h₈⟩
      · rintro ⟨rfl, h⟩
        exact ⟨h.trusted, h.input, h.cached, h.cacheWrite, h.output, h.total, h.breakdown, (),
          h.rejection, rfl⟩

/-- A completion with a rejection charges nothing. -/
theorem Completion.Valid.total_of_rejection {c : Completion} (h : c.Valid)
    (hr : c.rejection ≠ none) : c.totalTokens = 0 := by
  have hrej := h.rejection
  cases hc : c.rejection with
  | none => exact absurd hc hr
  | some decoded =>
      rw [hc] at hrej
      cases decoded with
      | malformed => cases hrej
      | record rejection =>
          simp only [validateCompletionRejection, require_bind_eq_ok] at hrej
          exact congrArg Prod.snd hrej.1

/-! ## Rejection policies -/

/-- The rules of a policy, by its version. -/
inductive RejectionContract where
  | v1 (rules : List RejectionRuleV1)
  | v2 (operation : Operation) (rules : List RejectionRuleV2)
deriving DecidableEq, Repr

structure RejectionPolicy where
  evidenceSha256 : Hex64
  verifiedAt : Int
  contract : RejectionContract
deriving DecidableEq, Repr

/-- Between one and sixteen rules, each well formed. -/
def rulesOk {ρ : Type} (ok : ρ → Bool) (rules : List ρ) : Bool :=
  decide (1 ≤ rules.length ∧ rules.length ≤ 16) && rules.all ok

def RejectionContract.ok : RejectionContract → Bool
  | .v1 rules => rulesOk RejectionRuleV1.ok rules
  | .v2 _ rules => rulesOk RejectionRuleV2.ok rules

def RejectionContract.unique : RejectionContract → Bool
  | .v1 rules => decide rules.Nodup
  | .v2 _ rules => decide rules.Nodup

/-- `validate_rejection_policy`. -/
def validateRejectionPolicy : Decoded RejectionPolicy → Except LedgerError RejectionPolicy
  | .malformed =>
      .error (.valueError "Rejection settlement requires an explicit versioned provider contract")
  | .record policy => do
      require (policy.contract.ok = true)
        (.valueError "Rejection settlement requires an explicit versioned provider contract")
      require (policy.contract.unique = true)
        (.valueError "Rejection settlement rules must be unique")
      pure policy

/-- A version-2 observation as a version-1 rule, if both error fields have a
value. -/
def TerminalRejection.ruleV1? (observation : TerminalRejection) : Option RejectionRuleV1 :=
  match observation.rule.errorType, observation.rule.errorCode with
  | .value errorType, .value errorCode => some ⟨observation.rule.statusCode, errorType, errorCode⟩
  | _, _ => none

/-- Which rejection a policy's contract settles, or `none`. -/
def RejectionContract.settles (contract : RejectionContract) (rejection : Rejected) :
    Except LedgerError (Option Rejected) :=
  match contract with
  | .v1 rules => do
      -- A version-1 policy settles a version-2 observation as the rule it matches.
      let candidate ← (match rejection with
        | .terminal _ => do
            let observation ← validateTerminalRejection rejection
            pure observation.ruleV1?
        | .rule rule => pure (some rule)
        | .malformed => pure none)
      match candidate with
      | none => pure none
      | some rule =>
          if rule.ok = true ∧ rule ∈ rules then pure (some (.rule rule)) else pure none
  | .v2 operation rules => do
      let observation ← validateTerminalRejection rejection
      if observation.operation = operation ∧ observation.rule ∈ rules then
        pure (some rejection)
      else pure none

/-- `rejection_completion`. -/
def rejectionCompletion (policy : Option (Decoded RejectionPolicy)) (rejection : Rejected)
    (source : Source) (observedAt admittedAt : Int) : Except LedgerError (Option Completion) :=
  match policy with
  | none => .ok none
  | some policy => do
      let checked ← validateRejectionPolicy policy
      require (checked.verifiedAt ≤ admittedAt ∧ admittedAt ≤ observedAt)
        (.valueError "Rejection policy must precede admission and evidence must follow it")
      let settled ← checked.contract.settles rejection
      match settled with
      | none => pure none
      | some rejected => do
          let completion ← validateCompletion (.record {
            inputTokens := 0, cachedTokens := 0, cacheWriteTokens := 0, outputTokens := 0
            totalTokens := 0, source, observedAt
            rejection := some (.record ⟨rejected, checked.evidenceSha256⟩) })
          pure (some completion)

/-- `validate_rejection_evidence`. -/
def validateRejectionEvidence (policy : Option (Decoded RejectionPolicy))
    (evidence : Decoded Completion) (admittedAt : Int) : Except LedgerError Unit := do
  let checked ← validateCompletion evidence
  match checked.rejection with
  | some (.record rejected) => do
      let expected ←
        rejectionCompletion policy rejected.observed checked.source checked.observedAt admittedAt
      require (expected = some checked)
        (.valueError "Rejection evidence does not match the immutable admission policy")
  | _ => .error (.valueError "Rejection settlement requires rejection evidence")

end Turnstile
