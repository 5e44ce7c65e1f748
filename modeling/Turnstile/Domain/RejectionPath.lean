import Turnstile.Domain.Evidence
import Turnstile.Domain.ModelRouter
import Turnstile.Foundation.Json

/-!
# The path of a rejection

A gateway reads the error body of a provider's answer and keeps the part of it that a policy
can settle: `normalizeTerminalRejection`.  The part is stored as an observation, derived into
a completion under the policy of the admission, stored again, and checked by processes that
read it back.

A policy of version 1 knows neither operation nor parameter.  It settles the narrower rule
that an observation is of, and stores that rule instead of the observation.
-/

namespace Turnstile

open Guard

/-! ## Observing a rejection -/

namespace Operation

/-- The text of an operation. -/
def text : Operation → String
  | responses => "responses"
  | responsesCompact => "responses-compact"
  | chatCompletions => "chat-completions"
  | anthropicMessages => "anthropic-messages"
  | imagesGenerations => "images-generations"
  | microsoftDecision => "microsoft-decision"

/-- The operations. -/
def all : List Operation :=
  [responses, responsesCompact, chatCompletions, anthropicMessages, imagesGenerations,
    microsoftDecision]

/-- The operation of a text, if it is one of `REJECTION_OPERATIONS`. -/
def ofText? (text : String) : Option Operation := all.find? fun operation => operation.text = text

@[simp] theorem ofText?_text (operation : Operation) : ofText? operation.text = some operation := by
  cases operation <;> decide

end Operation

namespace Json

variable {Number : Type}

/-- `isinstance(value, str)`. -/
def text? : Json Number → Option String
  | .text value => some value
  | _ => none

/-- `set(fields) <= allowed`. -/
def keysAmong (allowed : List String) (fields : List (String × Json Number)) : Bool :=
  fields.all fun field => field.1 ∈ allowed

/-- `set(fields) == keys`. -/
def keysAre (keys : List String) (fields : List (String × Json Number)) : Bool :=
  keysAmong keys fields && keys.all fun key => hasKey fields key

end Json

section Observing

variable {F : Type}

/-- The `state` and `value` of one field of an error, if they pass `_error_field`'s type check. -/
def observedField (error : List (String × Json (Numeral F))) (field : String) :
    Option ErrorField :=
  if Json.hasKey error field then
    match Json.get error field with
    | .null => some .null
    | .text value => some (.value value)
    | _ => none
  else some .absent

/-- `content_type.split(";", 1)[0]`. -/
def mediaType (contentType : String) : String :=
  String.ofList (contentType.toList.takeWhile fun c => c ≠ ';')

/-- `normalize_terminal_rejection`; `str.lower` is a parameter. -/
def normalizeTerminalRejection (lower : String → String)
    (operation statusCode contentType body : Json (Numeral F)) : Option TerminalRejection :=
  match operation, statusCode, contentType, body with
  | .text operation, .number (.int statusCode), .text contentType, .object body => do
      let operation ← Operation.ofText? operation
      guard (400 ≤ statusCode ∧ statusCode < 500 ∧ statusCode ≠ 408 ∧ statusCode ≠ 499)
      guard (lower (strip (mediaType contentType)) = "application/json")
      let error ← (Json.get body "error").fields?
      guard (Json.keysAmong ["error", "type", "request_id"] body = true)
      guard (Json.hasKey body "type" = true → (Json.get body "type").text? = some "error")
      guard (Json.hasKey body "request_id" = true → (Json.get body "request_id").text? ≠ none)
      guard (∀ key ∈ ["usage", "output", "content", "partial_response"],
        Json.hasKey error key = false)
      let errorType ← observedField error "type"
      let errorCode ← observedField error "code"
      let errorParam ← observedField error "param"
      let rule : RejectionRuleV2 := ⟨statusCode, errorType, errorCode, errorParam⟩
      guard (rule.ok = true)
      pure ⟨operation, rule, rejectionDigest operation rule⟩
  | _, _, _, _ => none

/-- An observation is one that `validate_terminal_rejection` returns as it is. -/
theorem validateTerminalRejection_terminal {observation : TerminalRejection} :
    validateTerminalRejection (.terminal observation) = .ok observation ↔
      observation.rule.ok = true ∧
        observation.observationSha256 = rejectionDigest observation.operation observation.rule := by
  unfold validateTerminalRejection
  rw [require_bind_eq_ok]
  exact and_iff_left rfl

theorem validate_normalized {lower : String → String}
    {operation statusCode contentType body : Json (Numeral F)} {observation : TerminalRejection}
    (h : normalizeTerminalRejection lower operation statusCode contentType body
      = some observation) :
    validateTerminalRejection (.terminal observation) = .ok observation := by
  unfold normalizeTerminalRejection at h
  split at h
  next =>
    simp only [Option.bind_eq_bind, Option.bind_eq_some_iff, Option.guard_eq_some'] at h
    obtain ⟨_, -, _, -, _, -, _, -, _, -, _, -, _, -, _, -, _, -, _, -, _, -, _, hok, hpure⟩ := h
    obtain rfl := Option.some.inj hpure
    exact validateTerminalRejection_terminal.2 ⟨hok, rfl⟩
  next => cases h

end Observing

/-! ## Documents -/

/-! ### Digests -/

/-- The hexadecimal digits. -/
def hexDigits : List Char :=
  ['0', '1', '2', '3', '4', '5', '6', '7', '8', '9', 'a', 'b', 'c', 'd', 'e', 'f']

/-- The last digits of a number. -/
def hexText : ℕ → ℕ → List Char
  | 0, _ => []
  | length + 1, n => hexText length (n / 16) ++ [hexDigits.getD (n % 16) '0']

/-- A digest as it is written: sixty-four digits. -/
def Hex64.text (digest : Hex64) : String := String.ofList (hexText 64 digest)

/-- The number that some digits write. -/
def readHex (digits : List Char) : Option ℕ :=
  digits.foldl (fun n c => n.bind fun n => (hexDigits.idxOf? c).map (16 * n + ·)) (some 0)

/-- The digest that is written. -/
def Hex64.ofText? (text : String) : Option Hex64 :=
  if text.toList.length = 64 then readHex text.toList else none

theorem length_hexText (length n : ℕ) : (hexText length n).length = length := by
  induction length generalizing n with
  | zero => rfl
  | succ length ih => rw [hexText, List.length_append, ih, List.length_singleton]

theorem readHex_hexText {length n : ℕ} (h : n < 16 ^ length) :
    readHex (hexText length n) = some n := by
  have hdigit : ∀ d < 16, hexDigits.idxOf? (hexDigits.getD d '0') = some d := by decide
  induction length generalizing n with
  | zero =>
      obtain rfl : n = 0 := by omega
      rfl
  | succ length ih =>
      have hlast := hdigit (n % 16) (by omega)
      have hrest := ih (n := n / 16) (by rw [pow_succ] at h; omega)
      unfold readHex at hrest ⊢
      rw [hexText, List.foldl_append, hrest, List.foldl_cons, List.foldl_nil,
        Option.bind_some, hlast,
        Option.map_some]
      congr 1
      omega

theorem ofText?_text {digest : Hex64} (h : digest < 16 ^ 64) :
    Hex64.ofText? digest.text = some digest := by
  unfold Hex64.ofText? Hex64.text
  rw [String.toList_ofList, length_hexText, if_pos rfl]
  exact readHex_hexText h

/-! ### Writing -/

/-- How the standard library writes the moments and the fields of an observation. -/
structure EvidenceText where
  isoformat : ℤ → String
  utcTime : String → Option ℤ
  /-- The moments that a `datetime` in UTC can be. -/
  IsMoment : ℤ → Prop
  utcTime_isoformat : ∀ moment, IsMoment moment → utcTime (isoformat moment) = some moment
  /-- `_rejection_digest`, of an operation and its fields. -/
  sha256 : Operation × RejectionRuleV2 → String

section Documents

variable {F : Type} (texts : EvidenceText)

/-- The value of one field of an error, in a document. -/
def ErrorField.dump : ErrorField → Json (Numeral F)
  | .absent => .object [("state", .text "absent")]
  | .null => .object [("state", .text "null")]
  | .value text => .object [("state", .text "value"), ("value", .text text)]

/-- The three shapes of the value of a field. -/
def ErrorField.load (value : Json (Numeral F)) : Option ErrorField :=
  match value.fields? with
  | none => none
  | some fields =>
      match (Json.get fields "state").text? with
      | some "absent" => if Json.keysAre ["state"] fields then some .absent else none
      | some "null" => if Json.keysAre ["state"] fields then some .null else none
      | some "value" =>
          if Json.keysAre ["state", "value"] fields then
            (Json.get fields "value").text?.map .value
          else none
      | _ => none

/-- The fields of a rejection in a document. -/
def Rejected.dump : Rejected → List (String × Json (Numeral F))
  | .terminal observation =>
      [("version", .number (.int 2)), ("operation", .text observation.operation.text),
        ("status_code", .number (.int observation.rule.statusCode)),
        ("error_type", observation.rule.errorType.dump),
        ("error_code", observation.rule.errorCode.dump),
        ("error_param", observation.rule.errorParam.dump),
        ("observation_sha256", .text (texts.sha256 observation.observationSha256.of))]
  | .rule narrow =>
      [("status_code", .number (.int narrow.statusCode)), ("error_type", .text narrow.errorType),
        ("error_code", .text narrow.errorCode)]
  | .malformed => []

/-- An integer of a document. -/
def Json.int? : Json (Numeral F) → Option ℤ
  | .number (.int value) => some value
  | _ => none

/-- The rejection that some fields of a document are, beside the digest of a policy. -/
def Rejected.load (fields : List (String × Json (Numeral F))) : Rejected :=
  if (Json.get fields "version").int? = some 2 then
    if Json.keysAre ["version", "operation", "status_code", "error_type", "error_code",
        "error_param", "observation_sha256"] fields then
      match (Json.get fields "operation").text?.bind Operation.ofText?,
        (Json.get fields "status_code").int?, ErrorField.load (Json.get fields "error_type"),
        ErrorField.load (Json.get fields "error_code"),
        ErrorField.load (Json.get fields "error_param"),
        (Json.get fields "observation_sha256").text? with
      | some operation, some statusCode, some errorType, some errorCode, some errorParam,
          some digest =>
          let rule : RejectionRuleV2 := ⟨statusCode, errorType, errorCode, errorParam⟩
          -- Another digest than that of the fields is none that a check accepts.
          if digest = texts.sha256 (operation, rule) then
            .terminal ⟨operation, rule, ⟨(operation, rule)⟩⟩
          else .malformed
      | _, _, _, _, _, _ => .malformed
    else .malformed
  else if Json.keysAre ["status_code", "error_type", "error_code"] fields then
    match (Json.get fields "status_code").int?, (Json.get fields "error_type").text?,
      (Json.get fields "error_code").text? with
    | some statusCode, some errorType, some errorCode => .rule ⟨statusCode, errorType, errorCode⟩
    | _, _, _ => .malformed
  else .malformed

/-- The `rejection` of a completion in a document. -/
def Rejection.dump (rejection : Rejection) : Json (Numeral F) :=
  .object (rejection.observed.dump texts ++
    [("policy_evidence_sha256", .text (Hex64.text rejection.policyEvidenceSha256))])

def Rejection.load (value : Json (Numeral F)) : Decoded Rejection :=
  match value.fields? with
  | none => .malformed
  | some fields =>
      match (Json.get fields "policy_evidence_sha256").text?.bind Hex64.ofText? with
      | none => .malformed
      | some digest =>
          .record ⟨Rejected.load texts (fields.filter fun field =>
            field.1 ≠ "policy_evidence_sha256"), digest⟩

/-- The text of a producer. -/
def Source.text : Source → String
  | .apim => "apim"
  | .observer => "observer"
  | .untrusted => ""

def Source.ofText (text : Option String) : Source :=
  if text = some "apim" then .apim else if text = some "observer" then .observer else .untrusted

/-- A completion as a document. -/
def Completion.dump (completion : Completion) : Json (Numeral F) :=
  .object ([("input_tokens", .number (.int completion.inputTokens)),
    ("cached_tokens", .number (.int completion.cachedTokens)),
    ("cache_write_tokens", .number (.int completion.cacheWriteTokens)),
    ("output_tokens", .number (.int completion.outputTokens)),
    ("total_tokens", .number (.int completion.totalTokens)),
    ("source", .text completion.source.text),
    ("observed_at", .text (texts.isoformat completion.observedAt))] ++
    match completion.rejection with
    | none => []
    | some .malformed => [("rejection", .null)]
    | some (.record rejection) => [("rejection", rejection.dump texts)])

/-- The completion that a document is. -/
def Completion.load (value : Json (Numeral F)) : Decoded Completion :=
  match value.fields? with
  | none => .malformed
  | some fields =>
      let keys := ["input_tokens", "cached_tokens", "cache_write_tokens", "output_tokens",
        "total_tokens", "source", "observed_at"]
      if Json.keysAre (if Json.hasKey fields "rejection" then "rejection" :: keys else keys)
          fields then
        match (Json.get fields "input_tokens").int?, (Json.get fields "cached_tokens").int?,
          (Json.get fields "cache_write_tokens").int?, (Json.get fields "output_tokens").int?,
          (Json.get fields "total_tokens").int?,
          (Json.get fields "observed_at").text?.bind texts.utcTime with
        | some inputTokens, some cachedTokens, some cacheWriteTokens, some outputTokens,
            some totalTokens, some observedAt =>
            .record { inputTokens, cachedTokens, cacheWriteTokens, outputTokens, totalTokens
                      source := Source.ofText (Json.get fields "source").text?
                      observedAt
                      rejection := if Json.hasKey fields "rejection" then
                          some (Rejection.load texts (Json.get fields "rejection"))
                        else none }
        | _, _, _, _, _, _ => .malformed
      else .malformed

/-! ### Reading what was written -/

@[simp] theorem load_dump_errorField (field : ErrorField) :
    ErrorField.load (field.dump : Json (Numeral F)) = some field := by
  cases field with
  | absent => rfl
  | null => rfl
  | value text => rfl

/-- A rejection can be written: its observation has the digest of its own fields. -/
def Rejected.Writable : Rejected → Prop
  | .terminal observation =>
      observation.observationSha256 = rejectionDigest observation.operation observation.rule
  | .rule _ => True
  | .malformed => False

theorem load_dump_rejected {rejected : Rejected} (h : rejected.Writable) :
    Rejected.load texts (rejected.dump texts : List (String × Json (Numeral F))) = rejected := by
  cases rejected with
  | terminal observation =>
      obtain ⟨operation, ⟨statusCode, errorType, errorCode, errorParam⟩, digest⟩ := observation
      obtain rfl : digest = ⟨(operation, ⟨statusCode, errorType, errorCode, errorParam⟩)⟩ := h
      unfold Rejected.load Rejected.dump
      simp [Json.get, Json.int?, Json.keysAre, Json.keysAmong, Json.hasKey, Json.text?]
  | rule narrow =>
      unfold Rejected.load Rejected.dump
      simp [Json.get, Json.int?, Json.keysAre, Json.keysAmong, Json.hasKey, Json.text?]
  | malformed => cases h

theorem load_dump_rejection {rejection : Rejection} (h : rejection.observed.Writable)
    (hdigest : rejection.policyEvidenceSha256 < 16 ^ 64) :
    Rejection.load texts (rejection.dump texts : Json (Numeral F)) = .record rejection := by
  have hget : Json.get (rejection.observed.dump texts ++ [("policy_evidence_sha256",
      (.text (Hex64.text rejection.policyEvidenceSha256) : Json (Numeral F)))])
      "policy_evidence_sha256" = .text (Hex64.text rejection.policyEvidenceSha256) := by
    simp [Json.get]
  have hfilter : (rejection.observed.dump texts ++ [("policy_evidence_sha256",
      (.text (Hex64.text rejection.policyEvidenceSha256) : Json (Numeral F)))]).filter
      (fun field => field.1 ≠ "policy_evidence_sha256") = rejection.observed.dump texts := by
    rw [List.filter_append]
    cases rejection.observed <;> simp [Rejected.dump]
  unfold Rejection.load Rejection.dump Json.fields?
  simp only [hget, hfilter, Json.text?, Option.bind_some, ofText?_text hdigest,
    load_dump_rejected texts h]

/-- A completion whose rejection can be written is what is read back of its document. -/
theorem load_dump_completion {completion : Completion} {rejection : Rejection}
    (hrejection : completion.rejection = some (.record rejection))
    (h : rejection.observed.Writable) (hdigest : rejection.policyEvidenceSha256 < 16 ^ 64)
    (hsource : completion.source ≠ .untrusted) (hmoment : texts.IsMoment completion.observedAt) :
    Completion.load texts (completion.dump texts : Json (Numeral F)) = .record completion := by
  obtain ⟨counters, totalTokens, source, observedAt, stored⟩ := completion
  obtain rfl : stored = some (.record rejection) := hrejection
  have hload := load_dump_rejection (F := F) texts h hdigest
  have htext : Source.ofText (some source.text) = source := by
    cases hcase : source with
    | apim => rfl
    | observer => rfl
    | untrusted => exact absurd hcase hsource
  unfold Completion.load Completion.dump
  simp [Json.fields?, Json.get, Json.int?, Json.keysAre, Json.keysAmong, Json.hasKey, Json.text?,
    texts.utcTime_isoformat _ hmoment, hload, htext]

end Documents

/-! ## Deriving a completion -/

/-- The completion of a rejection: nothing is charged. -/
def Rejected.completion (stored : Rejected) (digest : Hex64) (source : Source) (observedAt : ℤ) :
    Completion where
  inputTokens := 0
  cachedTokens := 0
  cacheWriteTokens := 0
  outputTokens := 0
  totalTokens := 0
  source := source
  observedAt := observedAt
  rejection := some (.record ⟨stored, digest⟩)

/-- A rejection that a completion may have. -/
def Rejected.Ok : Rejected → Prop
  | .terminal observation => validateTerminalRejection (.terminal observation) = .ok observation
  | .rule narrow => narrow.ok = true
  | .malformed => False

theorem Rejected.Ok.writable {rejected : Rejected} (h : rejected.Ok) : rejected.Writable := by
  cases rejected with
  | terminal observation => exact (validateTerminalRejection_terminal.1 h).2
  | rule narrow => exact trivial
  | malformed => exact h

theorem validateTerminalRejection_eq {rejected : Rejected} {observation : TerminalRejection}
    (h : validateTerminalRejection rejected = .ok observation) :
    rejected = .terminal observation := by
  cases rejected with
  | terminal given =>
      obtain ⟨-, h⟩ := require_bind_eq_ok.1 h
      rw [Except.ok.inj h]
  | rule narrow => cases h
  | malformed => cases h

/-- A completion of a rejection is complete, from a trusted producer. -/
theorem validateCompletion_completion {stored : Rejected} {digest : Hex64} {source : Source}
    {observedAt : ℤ} {completion : Completion} :
    validateCompletion (.record (stored.completion digest source observedAt)) = .ok completion ↔
      completion = stored.completion digest source observedAt ∧ source ≠ .untrusted ∧
        stored.Ok := by
  rw [validateCompletion_eq_ok, Decoded.record.injEq]
  have hrejection : validateCompletionRejection (stored.completion digest source observedAt)
      (some (.record ⟨stored, digest⟩)) = .ok () ↔ stored.Ok := by
    unfold validateCompletionRejection
    have hzero : (stored.completion digest source observedAt).counters = (⟨0, 0, 0, 0⟩, 0) := rfl
    rw [require_bind_eq_ok, and_iff_right hzero]
    cases stored with
    | terminal observation =>
        dsimp only [Rejected.Ok]
        rw [bind_eq_ok]
        constructor
        · rintro ⟨checked, hchecked, -⟩
          obtain rfl := (Rejected.terminal.inj (validateTerminalRejection_eq hchecked)).symm
          exact hchecked
        · exact fun h => ⟨observation, h, rfl⟩
    | rule narrow => exact require_eq_ok
    | malformed => exact iff_of_false (fun h => by cases h) id
  constructor
  · rintro ⟨rfl, hvalid⟩
    exact ⟨rfl, hvalid.trusted, hrejection.1 hvalid.rejection⟩
  · rintro ⟨rfl, htrusted, hok⟩
    have hzero : (0 : ℤ) ≤ 0 ∧ 0 ≤ maxTokens := by decide
    exact ⟨rfl, htrusted, hzero, hzero, hzero, hzero, hzero, ⟨le_rfl, rfl⟩, hrejection.2 hok⟩

/-- What a contract settles is settled as it is stored. -/
theorem settles_settled {contract : RejectionContract} {rejected stored : Rejected}
    (h : contract.settles rejected = .ok (some stored)) :
    contract.settles stored = .ok (some stored) ∧ stored.Ok := by
  cases contract with
  | v1 rules =>
      unfold RejectionContract.settles at h
      obtain ⟨candidate, -, h⟩ := bind_eq_ok.1 h
      cases candidate with
      | none => cases h
      | some narrow =>
          dsimp only at h
          split at h
          next hrule =>
            obtain rfl := Option.some.inj (Except.ok.inj h)
            refine ⟨?_, hrule.1⟩
            unfold RejectionContract.settles
            dsimp only
            rw [pure_eq, ok_bind]
            dsimp only
            rw [if_pos hrule, pure_eq]
          next => cases h
  | v2 operation rules =>
      have hsettles := h
      unfold RejectionContract.settles at h
      obtain ⟨observation, hobservation, h⟩ := bind_eq_ok.1 h
      split at h
      next hrule =>
        obtain rfl := Option.some.inj (Except.ok.inj h)
        refine ⟨hsettles, ?_⟩
        obtain rfl := validateTerminalRejection_eq hobservation
        exact hobservation
      next => cases h

/-- A rejection completion is the one of what the contract of the policy settles. -/
theorem rejectionCompletion_eq_ok {policy : RejectionPolicy}
    (hpolicy : validateRejectionPolicy (.record policy) = .ok policy) {rejected : Rejected}
    {source : Source} {observedAt admittedAt : ℤ} {completion : Completion} :
    rejectionCompletion (some (.record policy)) rejected source observedAt admittedAt
        = .ok (some completion) ↔
      (policy.verifiedAt ≤ admittedAt ∧ admittedAt ≤ observedAt) ∧ source ≠ .untrusted ∧
        ∃ stored, policy.contract.settles rejected = .ok (some stored) ∧
          completion = stored.completion policy.evidenceSha256 source observedAt := by
  unfold rejectionCompletion
  dsimp only
  rw [hpolicy, ok_bind, require_bind_eq_ok]
  refine and_congr_right fun _ => ?_
  rw [bind_eq_ok]
  constructor
  · rintro ⟨settled, hsettled, h⟩
    cases settled with
    | none => cases h
    | some stored =>
        obtain ⟨checked, hchecked, h⟩ := bind_eq_ok.1 h
        obtain rfl := Option.some.inj (Except.ok.inj h)
        obtain ⟨rfl, htrusted, -⟩ := validateCompletion_completion.1 hchecked
        exact ⟨htrusted, stored, hsettled, rfl⟩
  · rintro ⟨htrusted, stored, hsettled, rfl⟩
    refine ⟨some stored, hsettled, bind_eq_ok.2 ⟨_, ?_, rfl⟩⟩
    exact validateCompletion_completion.2 ⟨rfl, htrusted, (settles_settled hsettled).2⟩

/-! ## The whole path -/

/-- An observation matches a rule of a contract.  A rule of version 1 is of the status, the
type and the code only. -/
def RejectionContract.Matches (contract : RejectionContract) (observation : TerminalRejection) :
    Prop :=
  match contract with
  | .v1 rules => ∃ narrow ∈ rules, observation.rule.statusCode = narrow.statusCode ∧
      observation.rule.errorType = .value narrow.errorType ∧
      observation.rule.errorCode = .value narrow.errorCode
  | .v2 operation rules => observation.operation = operation ∧ observation.rule ∈ rules

theorem ruleV1?_eq_some {observation : TerminalRejection} {narrow : RejectionRuleV1} :
    observation.ruleV1? = some narrow ↔ observation.rule.statusCode = narrow.statusCode ∧
      observation.rule.errorType = .value narrow.errorType ∧
      observation.rule.errorCode = .value narrow.errorCode := by
  obtain ⟨statusCode, errorType, errorCode⟩ := narrow
  unfold TerminalRejection.ruleV1?
  split
  next htype hcode => simp [htype, hcode]
  next hnone =>
    refine iff_of_false (fun h => by cases h) ?_
    rintro ⟨-, htype, hcode⟩
    exact hnone _ _ htype hcode

/-- The rules of an accepted policy are well formed. -/
theorem contract_ok {policy : RejectionPolicy}
    (hpolicy : validateRejectionPolicy (.record policy) = .ok policy) :
    policy.contract.ok = true := by
  unfold validateRejectionPolicy at hpolicy
  exact (require_bind_eq_ok.1 hpolicy).1

/-- The contract of an accepted policy settles the observations that match it. -/
theorem settles_iff {policy : RejectionPolicy}
    (hpolicy : validateRejectionPolicy (.record policy) = .ok policy)
    {observation : TerminalRejection}
    (h : validateTerminalRejection (.terminal observation) = .ok observation) :
    (∃ stored, policy.contract.settles (.terminal observation) = .ok (some stored)) ↔
      policy.contract.Matches observation := by
  have hok := contract_ok hpolicy
  cases hcontract : policy.contract with
  | v1 rules =>
      rw [hcontract] at hok
      have hrules := (Bool.and_eq_true _ _ ▸ hok : _ ∧ _).2
      unfold RejectionContract.settles RejectionContract.Matches
      dsimp only
      rw [h, ok_bind, pure_eq, ok_bind]
      cases hrule : observation.ruleV1? with
      | none =>
          refine iff_of_false ?_ ?_
          · rintro ⟨stored, hstored⟩
            cases hstored
          · rintro ⟨narrow, -, hmatch⟩
            rw [ruleV1?_eq_some.2 hmatch] at hrule
            cases hrule
      | some narrow =>
          dsimp only
          constructor
          · rintro ⟨stored, hstored⟩
            split at hstored
            next hmem => exact ⟨narrow, hmem.2, ruleV1?_eq_some.1 hrule⟩
            next => cases hstored
          · rintro ⟨other, hother, hmatch⟩
            obtain rfl := Option.some.inj (hrule.symm.trans (ruleV1?_eq_some.2 hmatch))
            rw [if_pos ⟨List.all_eq_true.1 hrules narrow hother, hother⟩]
            exact ⟨_, rfl⟩
  | v2 operation rules =>
      unfold RejectionContract.settles RejectionContract.Matches
      dsimp only
      rw [h, ok_bind]
      by_cases hmatch : observation.operation = operation ∧ observation.rule ∈ rules
      · rw [if_pos hmatch]
        exact iff_of_true ⟨_, rfl⟩ hmatch
      · rw [if_neg hmatch]
        refine iff_of_false ?_ hmatch
        rintro ⟨stored, hstored⟩
        cases hstored

/-- A completion that is accepted as the evidence of a policy. -/
structure EvidenceStands (policy : RejectionPolicy) (admittedAt : ℤ)
    (document : Decoded Completion) (completion : Completion) : Prop where
  complete : validateCompletion document = .ok completion
  evidence : validateRejectionEvidence (some (.record policy)) document admittedAt = .ok ()

/-- What holds of a completion that a policy derived. -/
structure SurvivingCompletion (texts : EvidenceText) (F : Type) (policy : RejectionPolicy)
    (admittedAt : ℤ) (completion : Completion) : Prop where
  stands : EvidenceStands policy admittedAt (.record completion) completion
  /-- Also after it was dumped and loaded. -/
  loaded : EvidenceStands policy admittedAt
    (Completion.load texts (completion.dump texts : Json (Numeral F))) completion
  counters : completion.counters = (⟨0, 0, 0, 0⟩, 0)
  /-- It is derived again from its own rejection, and of no other digest. -/
  rejection : ∃ rejection, completion.rejection = some (.record rejection) ∧
    rejectionCompletion (some (.record policy)) rejection.observed completion.source
      completion.observedAt admittedAt = .ok (some completion) ∧
    ∀ digest, validateRejectionEvidence (some (.record policy)) (.record { completion with
      rejection := some (.record ⟨rejection.observed, digest⟩) }) admittedAt = .ok () →
        digest = rejection.policyEvidenceSha256

/-- The evidence of a policy is what it derives again. -/
theorem validateRejectionEvidence_eq_ok {policy : RejectionPolicy}
    (hpolicy : validateRejectionPolicy (.record policy) = .ok policy) {stored : Rejected}
    {digest : Hex64} {source : Source} {observedAt admittedAt : ℤ} :
    validateRejectionEvidence (some (.record policy))
        (.record (stored.completion digest source observedAt)) admittedAt = .ok () ↔
      (policy.verifiedAt ≤ admittedAt ∧ admittedAt ≤ observedAt) ∧ source ≠ .untrusted ∧
        policy.contract.settles stored = .ok (some stored) ∧ digest = policy.evidenceSha256 := by
  unfold validateRejectionEvidence
  rw [bind_eq_ok]
  constructor
  · rintro ⟨checked, hchecked, h⟩
    obtain ⟨rfl, -, -⟩ := validateCompletion_completion.1 hchecked
    obtain ⟨expected, hexpected, h⟩ := bind_eq_ok.1 h
    obtain rfl := require_eq_ok.1 h
    obtain ⟨htimes, htrusted, other, hsettles, heq⟩ :=
      (rejectionCompletion_eq_ok hpolicy).1 hexpected
    have hrejection := congrArg Completion.rejection heq
    obtain ⟨rfl, rfl⟩ := Rejection.mk.inj (Decoded.record.inj (Option.some.inj hrejection))
    exact ⟨htimes, htrusted, hsettles, rfl⟩
  · rintro ⟨htimes, htrusted, hsettles, rfl⟩
    refine ⟨_, validateCompletion_completion.2 ⟨rfl, htrusted, (settles_settled hsettles).2⟩, ?_⟩
    refine bind_eq_ok.2 ⟨_, (rejectionCompletion_eq_ok hpolicy).2 ⟨htimes, htrusted, stored,
      hsettles, rfl⟩, require_eq_ok.2 rfl⟩

/-- A rejection that was normalized is a valid observation, as it is.  A policy derives a
completion from it exactly if it precedes the admission, the admission precedes the
observation, and the observation matches a rule of the policy.  The completion is accepted as
evidence under the policy, also after it was dumped and loaded; it charges nothing, is derived
again from its own rejection, and is evidence of no other policy digest. -/
theorem rejection_survives {F : Type} {lower : String → String}
    {operation statusCode contentType body : Json (Numeral F)} {observation : TerminalRejection}
    (h : normalizeTerminalRejection lower operation statusCode contentType body
      = some observation) :
    validateTerminalRejection (.terminal observation) = .ok observation ∧
    ∀ (policy : RejectionPolicy), validateRejectionPolicy (.record policy) = .ok policy →
      ∀ (source : Source) (observedAt admittedAt : ℤ), source ≠ .untrusted →
        ((∃ completion, rejectionCompletion (some (.record policy)) (.terminal observation) source
            observedAt admittedAt = .ok (some completion)) ↔
          policy.verifiedAt ≤ admittedAt ∧ admittedAt ≤ observedAt ∧
            policy.contract.Matches observation) ∧
        ∀ completion, rejectionCompletion (some (.record policy)) (.terminal observation) source
            observedAt admittedAt = .ok (some completion) →
          ∀ texts : EvidenceText, texts.IsMoment observedAt → policy.evidenceSha256 < 16 ^ 64 →
            SurvivingCompletion texts F policy admittedAt completion := by
  have hvalid := validate_normalized h
  refine ⟨hvalid, fun policy hpolicy source observedAt admittedAt hsource => ⟨?_, ?_⟩⟩
  · rw [← settles_iff hpolicy hvalid]
    constructor
    · rintro ⟨completion, hcompletion⟩
      obtain ⟨⟨hverified, hadmitted⟩, -, stored, hstored, -⟩ :=
        (rejectionCompletion_eq_ok hpolicy).1 hcompletion
      exact ⟨hverified, hadmitted, stored, hstored⟩
    · rintro ⟨hverified, hadmitted, stored, hstored⟩
      exact ⟨_, (rejectionCompletion_eq_ok hpolicy).2
        ⟨⟨hverified, hadmitted⟩, hsource, stored, hstored, rfl⟩⟩
  · intro completion hcompletion texts hmoment hdigest
    obtain ⟨htimes, -, stored, hstored, rfl⟩ := (rejectionCompletion_eq_ok hpolicy).1 hcompletion
    obtain ⟨hsettles, hok⟩ := settles_settled hstored
    have hstands : EvidenceStands policy admittedAt
        (.record (stored.completion policy.evidenceSha256 source observedAt))
        (stored.completion policy.evidenceSha256 source observedAt) :=
      ⟨validateCompletion_completion.2 ⟨rfl, hsource, hok⟩,
        (validateRejectionEvidence_eq_ok hpolicy).2 ⟨htimes, hsource, hsettles, rfl⟩⟩
    have hload : Completion.load texts ((stored.completion policy.evidenceSha256 source
        observedAt).dump texts : Json (Numeral F))
        = .record (stored.completion policy.evidenceSha256 source observedAt) :=
      load_dump_completion texts rfl hok.writable hdigest hsource hmoment
    refine ⟨hstands, hload ▸ hstands, rfl, _, rfl, ?_, fun digest hdigest => ?_⟩
    · exact (rejectionCompletion_eq_ok hpolicy).2 ⟨htimes, hsource, stored, hsettles, rfl⟩
    · exact ((validateRejectionEvidence_eq_ok hpolicy).1 hdigest).2.2.2

/-- The error body of a refused request. -/
def refusedBody : Json (Numeral ℚ) :=
  .object [("error", .object [("type", .text "invalid_request_error"), ("code", .text "bad_image"),
    ("param", .null), ("message", .text "The image is not valid")])]

/-- Its observation. -/
def refusedObservation : TerminalRejection :=
  ⟨.imagesGenerations, ⟨400, .value "invalid_request_error", .value "bad_image", .null⟩,
    rejectionDigest .imagesGenerations
      ⟨400, .value "invalid_request_error", .value "bad_image", .null⟩⟩

/-- A policy of version 1 for it, verified at the start of 2025. -/
def refusedPolicy : RejectionPolicy :=
  ⟨7, 1735689600000000, .v1 [⟨400, "invalid_request_error", "bad_image"⟩]⟩

/-- The text of the first moment of 2025. -/
def refusedTexts : EvidenceText where
  isoformat _ := "2025-01-01T00:00:00+00:00"
  utcTime text := if text = "2025-01-01T00:00:00+00:00" then some 1735689600000000 else none
  IsMoment moment := moment = 1735689600000000
  utcTime_isoformat := by
    rintro moment rfl
    rfl
  sha256 _ := ""

/-- A policy of version 1 settles it, as the rule that it is of. -/
theorem refused_request_survives :
    SurvivingCompletion refusedTexts ℚ refusedPolicy 1735689600000000
      (Rejected.completion (.rule ⟨400, "invalid_request_error", "bad_image"⟩) 7 .apim
        1735689600000000) := by
  have hnormalized : normalizeTerminalRejection id (.text "images-generations" : Json (Numeral ℚ))
      (.number (.int 400)) (.text "application/json; charset=utf-8") refusedBody
        = some refusedObservation := by
    decide +kernel
  have hpolicy : validateRejectionPolicy (.record refusedPolicy) = .ok refusedPolicy := by
    decide +kernel
  exact ((rejection_survives hnormalized).2 refusedPolicy hpolicy .apim 1735689600000000
    1735689600000000 (by decide)).2 _ (by decide +kernel) refusedTexts rfl (by decide)

end Turnstile
