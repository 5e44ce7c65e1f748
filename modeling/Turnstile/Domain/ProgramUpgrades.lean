import Mathlib.Data.Finmap
import Turnstile.Domain.StorageRoutes

/-!
# Program upgrades

An installation of the fixed program names the program, and the programs whose
configurations it still accepts: the legacy one and its predecessors.  An upgrade binds a
new installation to the previous one.

The installation that follows must name the previous program among its predecessors only
if it names any.  An upgrade that names none after a second program forgets that program
(`upgrade_forgets_program`); any other keeps all that was accepted
(`upgrades_keep_configurations`).
-/

namespace Turnstile

open Guard

/-! ## Installations -/

/-- A dictionary by identifier. -/
abbrev IdentifierDict (α : Type) := Finmap fun _ : String => α

/-- The fields of an installation that no upgrade changes. -/
structure InstallationBinding where
  targetIdentitySha256 : Sha256 String
  storageEndpoint : String
  storageTable : String
  gatewayEndpoint : String
  publisherSubscriptionId : String
  retiredOperations : IdentifierDict (String × String)
  credentialVaultOrigin : Option String
  trustedVaultOrigins : List String
  imageLimits : Option String
  oauthEnabled : Bool
  poolEnabled : Bool
  nativeGatewayScope : Bool
  supportedAdapters : List String
deriving DecidableEq

/-- The contract of the operation `microsoft-decision`. -/
def decisionContract : String × String := ("POST", "/providers/microsoft/v1/systemone")

/-- `FixedProgramInstallation`.  The forms of its addresses are left out. -/
structure FixedProgramInstallation where
  program : ProgramIdentity
  parentPolicySha256 : Sha256 String
  operationPoliciesSha256 : IdentifierDict (Sha256 String)
  operationContracts : IdentifierDict (String × String)
  supportedProfiles : List RouteProfile
  decisionEnabled : Bool
  modelAdditionsEnabled : Bool
  legacyProgramSha256 : Option (Sha256 String)
  predecessorProgramSha256 : List (Sha256 String)
  binding : InstallationBinding
  /-- "MODEL_ADDITION_LEGACY_PROGRAM_REQUIRES_CAPABILITY" -/
  legacy : legacyProgramSha256 ≠ none → modelAdditionsEnabled = true
  /-- "ROUTE_PREDECESSOR_PROGRAM_BINDING_INVALID" -/
  predecessors : predecessorProgramSha256 ≠ [] → modelAdditionsEnabled = true ∧
    predecessorProgramSha256.Nodup ∧ program.programSha256 ∉ predecessorProgramSha256 ∧
    ∀ digest ∈ legacyProgramSha256, digest ∉ predecessorProgramSha256
  length : predecessorProgramSha256.length ≤ 32
  /-- "ROUTE_PROGRAM_IMAGE_CAPACITY_REQUIRED" -/
  images : .openaiImages ∈ supportedProfiles ↔ binding.imageLimits ≠ none
  /-- "ROUTE_PROGRAM_DECISION_CAPABILITY_REQUIRED" -/
  decision : (.microsoftDecision ∈ supportedProfiles ↔ decisionEnabled = true) ∧
    (decisionEnabled = true →
      operationContracts.lookup "microsoft-decision" = some decisionContract)
  /-- "ROUTE_OAUTH_MANAGED_GATEWAY_REQUIRED" -/
  oauth : binding.oauthEnabled = true → program.scope.gatewayId = "managed"
  /-- "ROUTE_PROGRAM_INSTALLATION_INVALID" -/
  contracts : operationContracts.keys = operationPoliciesSha256.keys ∧ supportedProfiles.Nodup ∧
    binding.trustedVaultOrigins.Nodup ∧
    ∀ origin ∈ binding.credentialVaultOrigin, origin ∈ binding.trustedVaultOrigins
deriving DecidableEq

/-- The digests of the programs whose configurations an installation accepts. -/
def FixedProgramInstallation.accepted (installation : FixedProgramInstallation) :
    List (Sha256 String) :=
  installation.program.programSha256 ::
    (installation.legacyProgramSha256.toList ++ installation.predecessorProgramSha256)

/-- `FixedProgramUpgrade`. -/
structure FixedProgramUpgrade where
  previousPublicationId : UUID
  previousInstallationSha256 : Sha256 FixedProgramInstallation
  installation : FixedProgramInstallation
deriving DecidableEq

/-- `FixedProgramUpgrade.require_previous`. -/
def FixedProgramUpgrade.requirePrevious (upgrade : FixedProgramUpgrade) (publicationId : UUID)
    (previous : FixedProgramInstallation) : Except RouteError Unit := do
  let current := upgrade.installation
  let decides := current.decisionEnabled = true ∧ previous.decisionEnabled = false
  checkIf decides (require
    (current.operationContracts
        = previous.operationContracts.insert "microsoft-decision" decisionContract ∧
      current.supportedProfiles = previous.supportedProfiles ++ [.microsoftDecision])
    (.value "DECISION_PROGRAM_UPGRADE_CONTRACT_CHANGED"))
  require (upgrade.previousPublicationId = publicationId ∧
      upgrade.previousInstallationSha256 = ⟨previous⟩ ∧
      current.modelAdditionsEnabled = true ∧
      current.legacyProgramSha256
        = some (previous.legacyProgramSha256.getD previous.program.programSha256) ∧
      (current.predecessorProgramSha256 ≠ [] →
        some previous.program.programSha256 = current.legacyProgramSha256 ∨
          previous.program.programSha256 ∈ current.predecessorProgramSha256) ∧
      (∀ digest ∈ previous.predecessorProgramSha256, digest ∈ current.predecessorProgramSha256) ∧
      current.program.programSha256 ≠ previous.program.programSha256 ∧
      current.parentPolicySha256 ≠ previous.parentPolicySha256 ∧
      { current.program with programSha256 := previous.program.programSha256 } = previous.program ∧
      current.binding = previous.binding ∧
      (¬decides → current.decisionEnabled = previous.decisionEnabled ∧
        current.operationContracts = previous.operationContracts ∧
        current.supportedProfiles = previous.supportedProfiles))
    (.value "MODEL_PROGRAM_UPGRADE_BINDING_CHANGED")

/-! ## Chains -/

/-- An upgrade from one installation to the next is accepted. -/
def Upgrades (previous current : FixedProgramInstallation) : Prop :=
  ∃ (upgrade : FixedProgramUpgrade) (publicationId : UUID), upgrade.installation = current ∧
    upgrade.requirePrevious publicationId previous = .ok ()

/-- The next installation names predecessors, or its legacy program is the previous one. -/
def NamesPredecessors (previous current : FixedProgramInstallation) : Prop :=
  current.predecessorProgramSha256 ≠ [] ∨
    previous.legacyProgramSha256.getD previous.program.programSha256
      = previous.program.programSha256

/-- What an accepted upgrade may change of the programs. -/
structure Upgraded (previous current : FixedProgramInstallation) : Prop where
  legacy : current.legacyProgramSha256
    = some (previous.legacyProgramSha256.getD previous.program.programSha256)
  named : current.predecessorProgramSha256 ≠ [] →
    some previous.program.programSha256 = current.legacyProgramSha256 ∨
      previous.program.programSha256 ∈ current.predecessorProgramSha256
  kept : ∀ digest ∈ previous.predecessorProgramSha256, digest ∈ current.predecessorProgramSha256
  changed : current.program.programSha256 ≠ previous.program.programSha256
  same : { current.program with programSha256 := previous.program.programSha256 } = previous.program

theorem Upgrades.upgraded {previous current : FixedProgramInstallation}
    (h : Upgrades previous current) : Upgraded previous current := by
  obtain ⟨upgrade, publicationId, rfl, haccepted⟩ := h
  unfold FixedProgramUpgrade.requirePrevious at haccepted
  obtain ⟨-, haccepted⟩ := check_bind_eq_ok.1 haccepted
  obtain ⟨-, -, -, hlegacy, hnamed, hkept, hchanged, -, hsame, -⟩ := require_eq_ok.1 haccepted
  exact ⟨hlegacy, hnamed, hkept, hchanged, hsame⟩

section

variable {previous current : FixedProgramInstallation} {digest : Sha256 String}

theorem mem_accepted : digest ∈ previous.accepted ↔ digest = previous.program.programSha256 ∨
    some digest = previous.legacyProgramSha256 ∨ digest ∈ previous.predecessorProgramSha256 := by
  simp [FixedProgramInstallation.accepted, eq_comm]

/-- Only the previous program can be forgotten, and it is when no predecessor is named. -/
theorem accepted_subset_iff (h : Upgraded previous current) :
    previous.accepted ⊆ current.accepted ↔ NamesPredecessors previous current := by
  constructor
  · intro hsubset
    have hmem := hsubset (List.mem_cons_self ..)
    rw [mem_accepted, h.legacy] at hmem
    rcases hmem with hsame | hlegacy | hnamed
    · exact absurd hsame.symm h.changed
    · exact .inr (Option.some.inj hlegacy).symm
    · exact .inl (List.ne_nil_of_mem hnamed)
  · intro hnames digest hdigest
    rw [mem_accepted] at hdigest ⊢
    rcases hdigest with rfl | hlegacy | hkept
    · rcases hnames with hnames | hlegacy
      · exact .inr (h.named hnames)
      · exact .inr (.inl (by rw [h.legacy, hlegacy]))
    · rw [h.legacy, ← hlegacy]
      exact .inr (.inl rfl)
    · exact .inr (.inr (h.kept digest hkept))

end

/-- The proof of an installation's program, for another of its programs. -/
def ProgramCapabilityProof.ofProgram (proof : ProgramCapabilityProof)
    (programSha256 : Sha256 String) : ProgramCapabilityProof :=
  { proof with identity := { proof.identity with programSha256 := programSha256 } }

/-- `require_ready` under an installation, of a head that is not being activated. -/
def ActiveRouteHead.ReadyUnder (head : ActiveRouteHead) (installation : FixedProgramInstallation)
    (proof : ProgramCapabilityProof) (budgetEpoch : UUID) (now : ℤ) : Prop :=
  head.requireReadyAfter installation.program proof budgetEpoch now false
    installation.legacyProgramSha256 installation.predecessorProgramSha256 = .ok ()

section

variable {previous current : FixedProgramInstallation} {head : ActiveRouteHead}
  {proof : ProgramCapabilityProof} {budgetEpoch : UUID} {now : ℤ}

/-- A head stays ready when the programs differ in the digest only and none is forgotten. -/
theorem readyUnder_of_accepted
    (hsame : { current.program with programSha256 := previous.program.programSha256 }
      = previous.program)
    (hsubset : previous.accepted ⊆ current.accepted)
    (h : head.ReadyUnder previous proof budgetEpoch now) :
    head.ReadyUnder current (proof.ofProgram current.program.programSha256) budgetEpoch now := by
  unfold ActiveRouteHead.ReadyUnder ActiveRouteHead.requireReadyAfter at h ⊢
  rw [require_eq_ok] at h ⊢
  obtain ⟨hidentity, hscope, hissued, hexpires, hprogram, hepoch, hprofiles, hactivated, -⟩ := h
  have hprogram' := hsubset (mem_accepted.2 (hprogram.imp_right And.right))
  refine ⟨?_, ?_, hissued, hexpires, (mem_accepted.1 hprogram').imp_right fun h => ⟨rfl, h⟩, hepoch,
    hprofiles, hactivated, nofun⟩
  · rw [ProgramCapabilityProof.ofProgram, hidentity, ← hsame]
  · rw [hscope, ← hsame]

end

/-- An upgrade keeps all accepted programs just when it names predecessors or the previous
program is its legacy program.  Along a chain of such upgrades no accepted program is
forgotten and every head that was ready stays ready. -/
theorem upgrades_keep_configurations {installation : ℕ → FixedProgramInstallation} {n : ℕ}
    (hchain : ∀ k < n, Upgrades (installation k) (installation (k + 1))) :
    (∀ k < n, (installation k).accepted ⊆ (installation (k + 1)).accepted ↔
      NamesPredecessors (installation k) (installation (k + 1))) ∧
    ∀ k l, k ≤ l → l ≤ n →
      (∀ j, k ≤ j → j < l → NamesPredecessors (installation j) (installation (j + 1))) →
      (installation k).accepted ⊆ (installation l).accepted ∧
      ∀ (head : ActiveRouteHead) proof budgetEpoch now,
        head.ReadyUnder (installation k) proof budgetEpoch now →
        head.ReadyUnder (installation l) (proof.ofProgram (installation l).program.programSha256)
          budgetEpoch now := by
  refine ⟨fun k hk => accepted_subset_iff (hchain k hk).upgraded, fun k l hkl hl hnames => ?_⟩
  have hkept : (installation k).accepted ⊆ (installation l).accepted ∧
      { (installation l).program with programSha256 := (installation k).program.programSha256 }
        = (installation k).program := by
    induction l, hkl using Nat.le_induction with
    | base => exact ⟨List.Subset.refl _, rfl⟩
    | succ l hkl ih =>
        obtain ⟨hsubset, hsame⟩ := ih (by omega) fun j hj hjl => hnames j hj (by omega)
        have hupgraded := (hchain l (by omega)).upgraded
        have hstep := (accepted_subset_iff hupgraded).2 (hnames l hkl (by omega))
        refine ⟨List.Subset.trans hsubset hstep, ?_⟩
        rw [← hsame, ← hupgraded.same]
  exact ⟨hkept.1, fun head proof budgetEpoch now => readyUnder_of_accepted hkept.2 hkept.1⟩

/-! ### A program that is forgotten -/

namespace Sample

def routeScope : RouteScope := ⟨1, "api", "managed"⟩

/-- A program of the scope. -/
def program (digest : String) : ProgramIdentity := ⟨routeScope, "1", "managed", ⟨digest⟩, ⟨"trust"⟩⟩

def binding : InstallationBinding where
  targetIdentitySha256 := ⟨"target"⟩
  storageEndpoint := "https://unitstore.table.core.windows.net"
  storageTable := "Routes"
  gatewayEndpoint := "https://unit.azure-api.net/llm"
  publisherSubscriptionId := "unit"
  retiredOperations := ∅
  credentialVaultOrigin := none
  trustedVaultOrigins := []
  imageLimits := none
  oauthEnabled := false
  poolEnabled := false
  nativeGatewayScope := false
  supportedAdapters := []

/-- An installation without predecessors. -/
def installation (digest policy : String) (additions : Bool) (legacy : Option (Sha256 String))
    (h : legacy ≠ none → additions = true) : FixedProgramInstallation where
  program := program digest
  parentPolicySha256 := ⟨policy⟩
  operationPoliciesSha256 := Finmap.singleton "models" ⟨"models"⟩
  operationContracts := Finmap.singleton "models" ("GET", "/models")
  supportedProfiles := [.openaiV1]
  decisionEnabled := false
  modelAdditionsEnabled := additions
  legacyProgramSha256 := legacy
  predecessorProgramSha256 := []
  binding := binding
  legacy := h
  predecessors h := absurd rfl h
  length := by decide
  images := by decide
  decision := by decide
  oauth := nofun
  contracts := by decide

/-- Three programs; the second upgrade names no predecessor. -/
def installations : ℕ → FixedProgramInstallation
  | 0 => installation "0" "a" false none (by decide)
  | 1 => installation "1" "b" true (some ⟨"0"⟩) (by decide)
  | _ => installation "2" "a" true (some ⟨"0"⟩) (by decide)

/-- The same, but the second upgrade names its predecessor. -/
def namedInstallations : ℕ → FixedProgramInstallation
  | 0 => installations 0
  | 1 => installations 1
  | _ =>
    { installations 2 with
      predecessorProgramSha256 := [⟨"1"⟩]
      predecessors := by decide
      length := by decide }

/-- An upgrade to an installation after a given one. -/
def upgrade (previous current : FixedProgramInstallation) : FixedProgramUpgrade :=
  ⟨8, ⟨previous⟩, current⟩

/-- An empty configuration for the second program. -/
def configuration : ConfigurationApproval where
  scope := routeScope
  routeVersion := 5
  generation := 1
  manifestSha256 := ⟨[]⟩
  dependencyManifestSha256 := ⟨[]⟩
  catalogSha256 := ⟨[]⟩
  entryCount := 0
  requiredProgramSha256 := ⟨"1"⟩
  requiredProfiles := []
  budgetEpoch := 6
  approvalId := 4
  issuedEpoch := 100
  activateBeforeEpoch := 200
  valid := by decide

def head : ActiveRouteHead := ⟨configuration, 100, by decide⟩

/-- A head for the first program. -/
def firstHead : ActiveRouteHead :=
  ⟨{ configuration with requiredProgramSha256 := ⟨"0"⟩, valid := by decide }, 100, by decide⟩

def proof (digest : String) : ProgramCapabilityProof :=
  ⟨7, program digest, [.openaiV1], 150, 200, by decide, by decide, by decide⟩

theorem installations_upgrade : ∀ k < 2,
    (upgrade (installations k) (installations (k + 1))).requirePrevious 8 (installations k)
      = .ok () := by
  decide

theorem namedInstallations_upgrade : ∀ k < 2,
    (upgrade (namedInstallations k) (namedInstallations (k + 1))).requirePrevious 8
      (namedInstallations k) = .ok () := by
  decide

end Sample

/-- The third installation refuses what was ready under the second. -/
theorem upgrade_forgets_program :
    (∀ k < 2, Upgrades (Sample.installations k) (Sample.installations (k + 1))) ∧
    Sample.head.ReadyUnder (Sample.installations 1) (Sample.proof "1") 6 160 ∧
    ¬Sample.head.ReadyUnder (Sample.installations 2)
      ((Sample.proof "1").ofProgram (Sample.installations 2).program.programSha256) 6 160 ∧
    ¬(Sample.installations 1).accepted ⊆ (Sample.installations 2).accepted := by
  refine ⟨fun k hk => ⟨_, 8, rfl, Sample.installations_upgrade k hk⟩, ?_, ?_, by decide⟩
  · unfold ActiveRouteHead.ReadyUnder
    decide
  · unfold ActiveRouteHead.ReadyUnder
    decide

/-- Through two upgrades, of which the second names the program of the first, no accepted program
is forgotten, and a head for the first program and one for the second stay ready. -/
theorem upgrades_keep_configurations_sample :
    (Sample.namedInstallations 0).accepted ⊆ (Sample.namedInstallations 1).accepted ∧
    (Sample.namedInstallations 0).accepted ⊆ (Sample.namedInstallations 2).accepted ∧
    Sample.firstHead.ReadyUnder (Sample.namedInstallations 2) ((Sample.proof "0").ofProgram
      (Sample.namedInstallations 2).program.programSha256) 6 160 ∧
    Sample.head.ReadyUnder (Sample.namedInstallations 2) ((Sample.proof "1").ofProgram
      (Sample.namedInstallations 2).program.programSha256) 6 160 := by
  have hchain : ∀ k < 2,
      Upgrades (Sample.namedInstallations k) (Sample.namedInstallations (k + 1)) :=
    fun k hk => ⟨_, 8, rfl, Sample.namedInstallations_upgrade k hk⟩
  have hnames : ∀ j < 2,
      NamesPredecessors (Sample.namedInstallations j) (Sample.namedInstallations (j + 1)) := by
    unfold NamesPredecessors
    decide
  have hfirst : Sample.firstHead.ReadyUnder (Sample.namedInstallations 0) (Sample.proof "0") 6
      160 := by
    unfold ActiveRouteHead.ReadyUnder
    decide
  have hsecond : Sample.head.ReadyUnder (Sample.namedInstallations 1) (Sample.proof "1") 6
      160 := by
    unfold ActiveRouteHead.ReadyUnder
    decide
  obtain ⟨hsteps, hruns⟩ := upgrades_keep_configurations hchain
  obtain ⟨hkept, hready⟩ := hruns 0 2 (by decide) (by decide) fun j _ hj => hnames j hj
  obtain ⟨-, hready'⟩ := hruns 1 2 (by decide) (by decide) fun j _ hj => hnames j hj
  exact ⟨(hsteps 0 (by decide)).2 (hnames 0 (by decide)), hkept, hready _ _ _ _ hfirst,
    hready' _ _ _ _ hsecond⟩

end Turnstile
