import Mathlib.Data.List.DropRight
import Turnstile.Domain.ProgramUpgrades
import Turnstile.Domain.Publications

/-!
# The history of program upgrades

A gateway configuration keeps the upgrades of its fixed program in one list, the newest apart.
The list outlives the publication it was begun for: a successor carries the installation that
was registered when it was made, and the upgrades up to that installation are absorbed.  The
others are read against the publication that is current.

A newest upgrade is what the history reads as, in every run (`ProgramState.Inv`).  What an
upgrade may name as its predecessors is read from the history too: the programs approved for
the present publication, and not only those that the registered program names.
-/

namespace Turnstile

open Guard

/-! ## Reading a history -/

/-- The configuration of a gateway: its upgrade records, and the rest of it. -/
structure GatewayProgramConfig where
  fixedRouteProgramUpgrade : Option FixedProgramUpgrade
  /-- A missing history is an empty one. -/
  fixedRouteProgramUpgradeHistory : List FixedProgramUpgrade
  details : String
deriving DecidableEq

/-- The upgrades of a configuration, in the order of their registration. -/
def GatewayProgramConfig.records (config : GatewayProgramConfig) : List FixedProgramUpgrade :=
  config.fixedRouteProgramUpgradeHistory ++ config.fixedRouteProgramUpgrade.toList

namespace FixedProgramUpgrade

/-- The upgrade is not of the publication, and is the installation that it carries. -/
def absorbedBy (publicationId : UUID) (installation : FixedProgramInstallation)
    (upgrade : FixedProgramUpgrade) : Bool :=
  decide (upgrade.previousPublicationId ≠ publicationId ∧ upgrade.installation = installation)

/-- Each upgrade requires the one before it. -/
def requireChain : List FixedProgramUpgrade → Except RouteError Unit
  | first :: second :: rest => do
      second.requirePrevious second.previousPublicationId first.installation
      requireChain (second :: rest)
  | _ => .ok ()

/-- The approved programs without the legacy program of an upgrade. -/
def withoutLegacy (upgrade : FixedProgramUpgrade) (programs : List (Sha256 String)) :
    List (Sha256 String) :=
  programs.filter fun digest => some digest ≠ upgrade.installation.legacyProgramSha256

/-- The upgrades that a publication has not absorbed, from an installation on. -/
def readUpgrades (publicationId : UUID) : FixedProgramInstallation → List (Sha256 String) →
    List FixedProgramUpgrade → Except RouteError FixedProgramInstallation
  | installation, _, [] => .ok installation
  | installation, approvedPrograms, upgrade :: upgrades => do
      upgrade.requirePrevious publicationId installation
      let predecessors := upgrade.installation.predecessorProgramSha256
      require (predecessors ≠ [] → predecessors = upgrade.withoutLegacy approvedPrograms)
        (.value "MODEL_PROGRAM_PREDECESSOR_HISTORY_CHANGED")
      readUpgrades publicationId upgrade.installation
        (approvedPrograms ++ [upgrade.installation.program.programSha256]) upgrades

end FixedProgramUpgrade

open FixedProgramUpgrade

/-- The programs that an absorbed installation starts with. -/
def FixedProgramInstallation.approved (installation : FixedProgramInstallation) :
    List (Sha256 String) :=
  installation.legacyProgramSha256.toList ++ installation.predecessorProgramSha256
    ++ [installation.program.programSha256]

/-- The upgrades up to the last one that a publication has absorbed. -/
def GatewayProgramConfig.absorbed (config : GatewayProgramConfig) (publicationId : UUID)
    (installation : FixedProgramInstallation) : List FixedProgramUpgrade :=
  config.records.rdropWhile fun upgrade => !upgrade.absorbedBy publicationId installation

/-- The upgrades after it. -/
def GatewayProgramConfig.unabsorbed (config : GatewayProgramConfig) (publicationId : UUID)
    (installation : FixedProgramInstallation) : List FixedProgramUpgrade :=
  config.records.rtakeWhile fun upgrade => !upgrade.absorbedBy publicationId installation

/-- `_registered_program_installation`. -/
def registeredProgramInstallation (publicationId : UUID) (installation : FixedProgramInstallation)
    (config : GatewayProgramConfig) : Except RouteError FixedProgramInstallation :=
  match config.absorbed publicationId installation with
  | [] => readUpgrades publicationId installation [installation.program.programSha256]
      (config.unabsorbed publicationId installation)
  | absorbed => do
      requireChain absorbed
      readUpgrades publicationId installation installation.approved
        (config.unabsorbed publicationId installation)

/-! ## Registering an upgrade -/

/-- What an upgrade reads of a publication. -/
structure ProgramPublication where
  id : UUID
  status : PublicationStatus
  gatewayProfileId : UUID
  /-- `resource_manifest["fixed_route_program"]`. -/
  fixedRouteProgram : Option FixedProgramInstallation
deriving DecidableEq

/-- The configuration with an upgrade as its newest. -/
def GatewayProgramConfig.updated (config : GatewayProgramConfig) (upgrade : FixedProgramUpgrade) :
    GatewayProgramConfig :=
  { config with
    fixedRouteProgramUpgrade := some upgrade
    fixedRouteProgramUpgradeHistory :=
      config.fixedRouteProgramUpgradeHistory ++ config.fixedRouteProgramUpgrade.toList }

@[simp] theorem GatewayProgramConfig.records_updated (config : GatewayProgramConfig)
    (upgrade : FixedProgramUpgrade) :
    (config.updated upgrade).records = config.records ++ [upgrade] := rfl

/-- `_fixed_program_upgrade_config`; nothing is written where the upgrade is registered. -/
def fixedProgramUpgradeConfig (previous : Option ProgramPublication) (config : GatewayProgramConfig)
    (upgrade : FixedProgramUpgrade) (expectedConfigSha256 : Sha256 GatewayProgramConfig) :
    Except RouteError (Option GatewayProgramConfig) := do
  let publication ← expect previous (.value "Program upgrade requires a current publication")
  let installation ← expect publication.fixedRouteProgram
    (.value "Program upgrade requires an installed fixed program")
  require (publication.status = .active ∧
      publication.gatewayProfileId = installation.program.scope.targetId)
    (.value "Program upgrade current publication changed")
  let current ← registeredProgramInstallation publication.id installation config
  if config.fixedRouteProgramUpgrade = some upgrade then pure none
  else do
    upgrade.requirePrevious publication.id current
    require (⟨config⟩ = expectedConfigSha256)
      (.value "Program upgrade Gateway configuration changed")
    let _ ← registeredProgramInstallation publication.id installation (config.updated upgrade)
    pure (some (config.updated upgrade))

/-! ## Laws of the history -/

section History

variable {publicationId : UUID} {installation : FixedProgramInstallation}

theorem requireChain_nil : requireChain [] = .ok () := rfl

theorem requireChain_append {upgrades upgrades' : List FixedProgramUpgrade}
    (h : requireChain (upgrades ++ upgrades') = .ok ()) : requireChain upgrades = .ok () := by
  induction upgrades with
  | nil => rfl
  | cons first rest ih =>
      cases rest with
      | nil => rfl
      | cons second rest =>
          obtain ⟨hsecond, hrest⟩ := check_bind_eq_ok.1 h
          exact check_bind_eq_ok.2 ⟨hsecond, ih hrest⟩

/-- A chain may be continued from its last upgrade. -/
theorem requireChain_concat {upgrades : List FixedProgramUpgrade} {upgrade : FixedProgramUpgrade}
    (h : requireChain upgrades = .ok ())
    (hlast : ∀ last ∈ upgrades.getLast?,
      upgrade.requirePrevious upgrade.previousPublicationId last.installation = .ok ()) :
    requireChain (upgrades ++ [upgrade]) = .ok () := by
  induction upgrades with
  | nil => rfl
  | cons first rest ih =>
      cases rest with
      | nil => exact check_bind_eq_ok.2 ⟨hlast first rfl, rfl⟩
      | cons second rest =>
          obtain ⟨hsecond, hrest⟩ := check_bind_eq_ok.1 h
          exact check_bind_eq_ok.2 ⟨hsecond, ih hrest fun last hmem =>
            hlast last (by rwa [List.getLast?_cons_cons])⟩

/-- The programs that are approved before the upgrades of a publication. -/
def approvedBefore (absorbed : List FixedProgramUpgrade) (installation : FixedProgramInstallation) :
    List (Sha256 String) :=
  if absorbed = [] then [installation.program.programSha256] else installation.approved

/-- What is read of one more upgrade. -/
theorem readUpgrades_concat {approvedPrograms : List (Sha256 String)}
    {upgrades : List FixedProgramUpgrade} {upgrade : FixedProgramUpgrade}
    {current result : FixedProgramInstallation}
    (h : readUpgrades publicationId installation approvedPrograms upgrades = .ok current) :
    readUpgrades publicationId installation approvedPrograms (upgrades ++ [upgrade]) = .ok result ↔
      upgrade.requirePrevious publicationId current = .ok () ∧
        (upgrade.installation.predecessorProgramSha256 ≠ [] →
          upgrade.installation.predecessorProgramSha256 = upgrade.withoutLegacy (approvedPrograms
            ++ upgrades.map fun u => u.installation.program.programSha256)) ∧
        result = upgrade.installation := by
  induction upgrades generalizing installation approvedPrograms with
  | nil =>
      obtain rfl := Except.ok.inj h
      rw [List.nil_append, readUpgrades, check_bind_eq_ok, require_bind_eq_ok, List.map_nil,
        List.append_nil, readUpgrades, Except.ok.injEq]
      exact and_congr_right fun _ => and_congr_right fun _ => eq_comm
  | cons first rest ih =>
      rw [readUpgrades, check_bind_eq_ok, require_bind_eq_ok] at h
      obtain ⟨hprevious, hnamed, h⟩ := h
      rw [List.cons_append, readUpgrades, check_bind_eq_ok, require_bind_eq_ok, ih h,
        List.map_cons, List.append_assoc, List.singleton_append]
      exact ⟨fun hall => hall.2.2, fun hall => ⟨hprevious, hnamed, hall⟩⟩

/-- The upgrades that are read end in the installation that is returned. -/
theorem readUpgrades_last {approvedPrograms : List (Sha256 String)}
    {upgrades : List FixedProgramUpgrade} {current : FixedProgramInstallation}
    (h : readUpgrades publicationId installation approvedPrograms upgrades = .ok current) :
    upgrades = [] ∧ current = installation ∨
      ∃ before last, upgrades = before ++ [last] ∧ last.installation = current ∧
        ∃ previous, last.requirePrevious publicationId previous = .ok () := by
  induction upgrades generalizing installation approvedPrograms with
  | nil => exact .inl ⟨rfl, (Except.ok.inj h).symm⟩
  | cons first rest ih =>
      rw [readUpgrades, check_bind_eq_ok, require_bind_eq_ok] at h
      obtain ⟨hprevious, -, h⟩ := h
      refine .inr ?_
      rcases ih h with ⟨rfl, rfl⟩ | ⟨before, last, rfl, hlast⟩
      · exact ⟨[], first, rfl, rfl, installation, hprevious⟩
      · exact ⟨first :: before, last, rfl, hlast⟩

/-- The records of a configuration: those of earlier publications, of which the last is the
installation that the present one carries, and those of the present one. -/
structure HistorySplit (publicationId : UUID) (installation : FixedProgramInstallation)
    (records earlier present : List FixedProgramUpgrade) : Prop where
  append : records = earlier ++ present
  ofOthers : ∀ upgrade ∈ earlier, upgrade.previousPublicationId ≠ publicationId
  ofOwn : ∀ upgrade ∈ present, upgrade.previousPublicationId = publicationId
  carried : ∀ upgrade ∈ earlier.getLast?, upgrade.installation = installation

variable {config : GatewayProgramConfig} {earlier present : List FixedProgramUpgrade}

theorem HistorySplit.absorbed
    (h : HistorySplit publicationId installation config.records earlier present) :
    config.absorbed publicationId installation = earlier ∧
      config.unabsorbed publicationId installation = present := by
  unfold GatewayProgramConfig.absorbed GatewayProgramConfig.unabsorbed
  rw [h.append]
  have hown := h.ofOwn
  -- The upgrades of the present publication are none that it absorbs; the last before them is one.
  have hbase : ∀ hne : earlier ≠ [], ¬(!(earlier.getLast hne).absorbedBy publicationId
      installation) = true := by
    intro hne
    have hmem : earlier.getLast hne ∈ earlier.getLast? := List.getLast?_eq_some_getLast hne
    simp [absorbedBy, h.ofOthers _ (List.getLast_mem hne), h.carried _ hmem]
  clear h
  induction present using List.reverseRecOn with
  | nil =>
      rw [List.append_nil]
      exact ⟨List.rdropWhile_eq_self_iff.2 hbase, List.rtakeWhile_eq_nil_iff.2 hbase⟩
  | append_singleton upgrades upgrade ih =>
      have hmem : upgrade.previousPublicationId = publicationId :=
        hown upgrade (List.mem_append_right _ List.mem_cons_self)
      have hnot : (!upgrade.absorbedBy publicationId installation) = true := by
        simp [absorbedBy, hmem]
      obtain ⟨hdrop, htake⟩ := ih fun other hother => hown other (List.mem_append_left _ hother)
      rw [← List.append_assoc, List.rdropWhile_concat, if_pos hnot, List.rtakeWhile_concat,
        if_pos hnot, hdrop, htake]
      exact ⟨rfl, rfl⟩

/-- What a configuration reads as. -/
theorem HistorySplit.registered
    (h : HistorySplit publicationId installation config.records earlier present)
    (hchain : requireChain config.records = .ok ()) :
    registeredProgramInstallation publicationId installation config =
      readUpgrades publicationId installation (approvedBefore earlier installation) present := by
  obtain ⟨habsorbed, hunabsorbed⟩ := h.absorbed
  rw [h.append] at hchain
  unfold registeredProgramInstallation approvedBefore
  rw [habsorbed, hunabsorbed]
  cases earlier with
  | nil => rfl
  | cons first rest =>
      dsimp only
      rw [requireChain_append hchain, ok_bind, if_neg (List.cons_ne_nil first rest)]

end History

/-! ## Runs -/

/-- A publication is active and carries an installation of its gateway's program. -/
structure ProgramPublication.Carries (publication : ProgramPublication)
    (installation : FixedProgramInstallation) : Prop where
  active : publication.status = .active
  target : publication.gatewayProfileId = installation.program.scope.targetId
  carried : publication.fixedRouteProgram = some installation

/-- A current publication with its installation, and the configuration of its gateway. -/
structure ProgramState where
  publication : ProgramPublication
  installation : FixedProgramInstallation
  config : GatewayProgramConfig
  /-- The installation of the last upgrade that was accepted, or the initial one. -/
  last : FixedProgramInstallation
  /-- The publications that have been current. -/
  seen : List UUID

namespace ProgramState

/-- The states after some upgrades and some successors, from a configuration without upgrade
records.  A successor is a publication of its own. -/
inductive Reachable : ProgramState → Prop
  | start {publication : ProgramPublication} {installation : FixedProgramInstallation}
      {config : GatewayProgramConfig} (hcarries : publication.Carries installation)
      (hrecords : config.records = []) :
      Reachable ⟨publication, installation, config, installation, [publication.id]⟩
  | upgrade {s : ProgramState} {upgrade : FixedProgramUpgrade}
      {expectedConfigSha256 : Sha256 GatewayProgramConfig} {result : Option GatewayProgramConfig}
      (h : Reachable s) (haccepted : fixedProgramUpgradeConfig (some s.publication) s.config upgrade
        expectedConfigSha256 = .ok result) :
      Reachable { s with
        config := result.getD s.config
        last := upgrade.installation }
  | succeed {s : ProgramState} {publication : ProgramPublication}
      {installed : FixedProgramInstallation} (h : Reachable s)
      (hregistered : registeredProgramInstallation s.publication.id s.installation s.config
        = .ok installed)
      (hcarries : publication.Carries installed) (hfresh : publication.id ∉ s.seen) :
      Reachable ⟨publication, installed, s.config, s.last, publication.id :: s.seen⟩

/-- What holds of every reachable state. -/
structure Inv (s : ProgramState) : Prop where
  carries : s.publication.Carries s.installation
  current : s.publication.id ∈ s.seen
  seen : ∀ upgrade ∈ s.config.records, upgrade.previousPublicationId ∈ s.seen
  chain : requireChain s.config.records = .ok ()
  history : ∃ earlier present,
    HistorySplit s.publication.id s.installation s.config.records earlier present ∧
      readUpgrades s.publication.id s.installation (approvedBefore earlier s.installation) present
        = .ok s.last

variable {s : ProgramState}

theorem Inv.registered (h : s.Inv) :
    registeredProgramInstallation s.publication.id s.installation s.config = .ok s.last := by
  obtain ⟨earlier, present, hsplit, hread⟩ := h.history
  rw [hsplit.registered h.chain, hread]

/-- The last record is of the last installation. -/
theorem Inv.lastRecord (h : s.Inv) :
    ∀ upgrade ∈ s.config.records.getLast?, upgrade.installation = s.last := by
  obtain ⟨earlier, present, hsplit, hread⟩ := h.history
  rw [hsplit.append]
  rcases readUpgrades_last hread with ⟨rfl, hlast⟩ | ⟨before, last, rfl, hlast, -⟩
  · rw [List.append_nil, hlast]
    exact hsplit.carried
  · intro upgrade hmem
    rw [← List.append_assoc, List.getLast?_concat] at hmem
    exact Option.some.inj hmem ▸ hlast

theorem requirePrevious_publication {upgrade : FixedProgramUpgrade} {publicationId : UUID}
    {previous : FixedProgramInstallation}
    (h : upgrade.requirePrevious publicationId previous = .ok ()) :
    upgrade.previousPublicationId = publicationId := by
  unfold FixedProgramUpgrade.requirePrevious at h
  obtain ⟨-, h⟩ := check_bind_eq_ok.1 h
  exact (require_eq_ok.1 h).1

/-! ## Every reachable state -/

theorem inv_start {publication : ProgramPublication} {installation : FixedProgramInstallation}
    {config : GatewayProgramConfig} (hcarries : publication.Carries installation)
    (hrecords : config.records = []) :
    Inv ⟨publication, installation, config, installation, [publication.id]⟩ where
  carries := hcarries
  current := List.mem_cons_self
  seen := by
    intro upgrade hmem
    rw [hrecords] at hmem
    exact absurd hmem List.not_mem_nil
  chain := by
    rw [hrecords]
    exact requireChain_nil
  history := by
    refine ⟨[], [], ⟨hrecords, ?_, ?_, ?_⟩, ?_⟩
    · exact fun upgrade hmem => absurd hmem List.not_mem_nil
    · exact fun upgrade hmem => absurd hmem List.not_mem_nil
    · exact fun upgrade hmem => absurd hmem (Option.not_mem_none upgrade)
    · rw [readUpgrades]

section Upgrade

variable {upgrade : FixedProgramUpgrade}

/-- What is accepted: the newest upgrade again, or one that is read after the others. -/
theorem Inv.accepted_iff (h : s.Inv) {expectedConfigSha256 : Sha256 GatewayProgramConfig}
    {result : Option GatewayProgramConfig} :
    fixedProgramUpgradeConfig (some s.publication) s.config upgrade expectedConfigSha256
        = .ok result ↔
      s.config.fixedRouteProgramUpgrade = some upgrade ∧ result = none ∨
      s.config.fixedRouteProgramUpgrade ≠ some upgrade ∧
        upgrade.requirePrevious s.publication.id s.last = .ok () ∧
        expectedConfigSha256 = ⟨s.config⟩ ∧
        (∃ installed, registeredProgramInstallation s.publication.id s.installation
          (s.config.updated upgrade) = .ok installed) ∧
        result = some (s.config.updated upgrade) := by
  unfold fixedProgramUpgradeConfig
  rw [expect, ok_bind, h.carries.carried, expect, ok_bind,
    require_bind_of ⟨h.carries.active, h.carries.target⟩, h.registered, ok_bind]
  by_cases hnewest : s.config.fixedRouteProgramUpgrade = some upgrade
  · rw [if_pos hnewest]
    refine ⟨fun hresult => .inl ⟨hnewest, (Except.ok.inj hresult).symm⟩, ?_⟩
    rintro (⟨-, rfl⟩ | ⟨hother, -⟩)
    · rfl
    · exact absurd hnewest hother
  · rw [if_neg hnewest, check_bind_eq_ok, require_bind_eq_ok, Guard.bind_eq_ok]
    constructor
    · rintro ⟨hprevious, hdigest, installed, hread, hresult⟩
      exact .inr ⟨hnewest, hprevious, hdigest.symm, ⟨installed, hread⟩,
        (Except.ok.inj hresult).symm⟩
    · rintro (⟨hsame, -⟩ | ⟨-, hprevious, rfl, ⟨installed, hread⟩, rfl⟩)
      · exact absurd hsame hnewest
      · exact ⟨hprevious, rfl, installed, hread, rfl⟩

/-- The records after an upgrade that is read after the others. -/
theorem HistorySplit.concat {publicationId : UUID} {installation : FixedProgramInstallation}
    {config : GatewayProgramConfig} {earlier present : List FixedProgramUpgrade}
    (h : HistorySplit publicationId installation config.records earlier present)
    (hown : upgrade.previousPublicationId = publicationId) :
    HistorySplit publicationId installation (config.updated upgrade).records earlier
      (present ++ [upgrade]) where
  append := by rw [GatewayProgramConfig.records_updated, h.append, List.append_assoc]
  ofOthers := h.ofOthers
  ofOwn := by
    intro other hmem
    rcases List.mem_append.1 hmem with hmem | hmem
    · exact h.ofOwn other hmem
    · rw [List.mem_singleton.1 hmem, hown]
  carried := h.carried

theorem Inv.chain_updated (h : s.Inv)
    (hprevious : upgrade.requirePrevious s.publication.id s.last = .ok ()) :
    requireChain (s.config.updated upgrade).records = .ok () := by
  rw [GatewayProgramConfig.records_updated]
  refine requireChain_concat h.chain fun last hmem => ?_
  rw [h.lastRecord last hmem, requirePrevious_publication hprevious]
  exact hprevious

/-- The newest upgrade does not follow itself. -/
theorem Inv.not_newest (h : s.Inv)
    (hprevious : upgrade.requirePrevious s.publication.id s.last = .ok ()) :
    s.config.fixedRouteProgramUpgrade ≠ some upgrade := by
  intro hnewest
  have hmem : upgrade ∈ s.config.records.getLast? := by
    rw [GatewayProgramConfig.records, hnewest]
    exact List.getLast?_concat
  exact (Upgrades.upgraded ⟨upgrade, _, rfl, hprevious⟩).changed
    (congrArg (fun i => i.program.programSha256) (h.lastRecord upgrade hmem))

end Upgrade

/-- The programs that are approved for the current publication, in the order of their approval:
those of its own installation, then those registered since. -/
def approvedPrograms (s : ProgramState) : List (Sha256 String) :=
  approvedBefore (s.config.absorbed s.publication.id s.installation) s.installation
    ++ (s.config.unabsorbed s.publication.id s.installation).map fun upgrade =>
      upgrade.installation.program.programSha256

section Upgrade

variable {upgrade : FixedProgramUpgrade}

/-- An updated configuration reads as the upgrade, where the upgrade names the approved
programs. -/
theorem Inv.registered_updated (h : s.Inv)
    (hprevious : upgrade.requirePrevious s.publication.id s.last = .ok ())
    {installed : FixedProgramInstallation} :
    registeredProgramInstallation s.publication.id s.installation (s.config.updated upgrade)
        = .ok installed ↔
      (upgrade.installation.predecessorProgramSha256 ≠ [] →
        upgrade.installation.predecessorProgramSha256 = upgrade.withoutLegacy s.approvedPrograms) ∧
      installed = upgrade.installation := by
  obtain ⟨earlier, present, hsplit, hread⟩ := h.history
  obtain ⟨habsorbed, hunabsorbed⟩ := hsplit.absorbed
  have hconcat := HistorySplit.concat hsplit (requirePrevious_publication hprevious)
  rw [hconcat.registered (h.chain_updated hprevious), readUpgrades_concat hread,
    approvedPrograms, habsorbed, hunabsorbed]
  exact ⟨fun hall => hall.2, fun hall => ⟨hprevious, hall⟩⟩

theorem Inv.upgraded (h : s.Inv) {expectedConfigSha256 : Sha256 GatewayProgramConfig}
    {result : Option GatewayProgramConfig}
    (haccepted : fixedProgramUpgradeConfig (some s.publication) s.config upgrade
      expectedConfigSha256 = .ok result) :
    Inv { s with
      config := result.getD s.config
      last := upgrade.installation } := by
  rcases h.accepted_iff.1 haccepted with ⟨hnewest, rfl⟩ | ⟨-, hprevious, -, ⟨installed, hread⟩, rfl⟩
  · have hmem : upgrade ∈ s.config.records.getLast? := by
      rw [GatewayProgramConfig.records, hnewest]
      exact List.getLast?_concat
    rw [h.lastRecord upgrade hmem]
    exact h
  · obtain ⟨earlier, present, hsplit, -⟩ := h.history
    have hconcat := HistorySplit.concat hsplit (requirePrevious_publication hprevious)
    obtain ⟨-, rfl⟩ := (h.registered_updated hprevious).1 hread
    rw [hconcat.registered (h.chain_updated hprevious)] at hread
    refine ⟨h.carries, h.current, ?_, h.chain_updated hprevious, earlier, present ++ [upgrade],
      hconcat, hread⟩
    intro other hmem
    rcases List.mem_append.1 hmem with hmem | hmem
    · exact h.seen other hmem
    · rw [List.mem_singleton.1 hmem, requirePrevious_publication hprevious]
      exact h.current

end Upgrade

/-- A successor absorbs all that is registered. -/
theorem Inv.succeeded (h : s.Inv) {publication : ProgramPublication}
    {installed : FixedProgramInstallation}
    (hregistered : registeredProgramInstallation s.publication.id s.installation s.config
      = .ok installed)
    (hcarries : publication.Carries installed) (hfresh : publication.id ∉ s.seen) :
    Inv ⟨publication, installed, s.config, s.last, publication.id :: s.seen⟩ := by
  rw [h.registered] at hregistered
  obtain rfl := Except.ok.inj hregistered
  refine ⟨hcarries, List.mem_cons_self, fun other hmem =>
    List.mem_cons_of_mem _ (h.seen other hmem),
    h.chain, s.config.records, [], ⟨(List.append_nil _).symm, ?_, ?_, h.lastRecord⟩, ?_⟩
  · exact fun other hmem hsame => hfresh (hsame ▸ h.seen other hmem)
  · exact fun other hmem => absurd hmem List.not_mem_nil
  · rw [readUpgrades]

/-- The records of every reachable state are split at the installation of its publication. -/
theorem Reachable.inv (h : s.Reachable) : s.Inv := by
  induction h with
  | start hcarries hrecords => exact inv_start hcarries hrecords
  | upgrade _ haccepted ih => exact ih.upgraded haccepted
  | succeed _ hregistered hcarries hfresh ih => exact ih.succeeded hregistered hcarries hfresh

/-! ## The registered program's own predecessors -/

/-- The registered program names all programs that were approved before it. -/
def NamesApproved (s : ProgramState) : Prop :=
  s.last.predecessorProgramSha256
    = s.approvedPrograms.dropLast.filter fun digest => some digest ≠ s.last.legacyProgramSha256

/-- The registered program's own predecessors, followed by it. -/
def ownPrograms (s : ProgramState) : List (Sha256 String) :=
  s.last.predecessorProgramSha256 ++ [s.last.program.programSha256]

/-- The registered program is the last that was approved. -/
theorem Inv.approvedPrograms_eq (h : s.Inv) :
    s.approvedPrograms = s.approvedPrograms.dropLast ++ [s.last.program.programSha256] := by
  obtain ⟨earlier, present, hsplit, hread⟩ := h.history
  obtain ⟨habsorbed, hunabsorbed⟩ := hsplit.absorbed
  rw [approvedPrograms, habsorbed, hunabsorbed]
  rcases readUpgrades_last hread with ⟨rfl, hlast⟩ | ⟨before, last, rfl, hlast, -⟩
  · rw [List.map_nil, List.append_nil, approvedBefore, hlast]
    by_cases hearlier : earlier = []
    · rw [if_pos hearlier]
      rfl
    · rw [if_neg hearlier, FixedProgramInstallation.approved, List.dropLast_concat]
  · rw [List.map_append, List.map_singleton, ← List.append_assoc, List.dropLast_concat, hlast]

/-- Where it names them all, its own list is the one that an upgrade is asked for. -/
theorem Inv.withoutLegacy_ownPrograms (h : s.Inv) (hnames : s.NamesApproved)
    {upgrade : FixedProgramUpgrade}
    (hprevious : upgrade.requirePrevious s.publication.id s.last = .ok ()) :
    upgrade.withoutLegacy s.ownPrograms = upgrade.withoutLegacy s.approvedPrograms := by
  have hlegacy := (Upgrades.upgraded ⟨upgrade, _, rfl, hprevious⟩).legacy
  rw [h.approvedPrograms_eq, ownPrograms, hnames]
  unfold withoutLegacy
  rw [List.filter_append, List.filter_append, List.filter_filter, hlegacy]
  congr 1
  refine List.filter_congr fun digest _ => ?_
  cases hlast : s.last.legacyProgramSha256 with
  | none => simp
  | some legacy => simp

/-! ## The history stays readable -/

/-- In every reachable state the history reads as the last accepted upgrade.  What follows it is
accepted where it names no predecessors, or the programs that are approved for the publication;
these are the registered program's own predecessors and it, where it names them all. -/
theorem program_history_readable (h : s.Reachable) :
    registeredProgramInstallation s.publication.id s.installation s.config = .ok s.last ∧
    ∀ upgrade : FixedProgramUpgrade,
      upgrade.requirePrevious s.publication.id s.last = .ok () →
        ((∃ result, fixedProgramUpgradeConfig (some s.publication) s.config upgrade ⟨s.config⟩
            = .ok result) ↔
          upgrade.installation.predecessorProgramSha256 = [] ∨
            upgrade.installation.predecessorProgramSha256
              = upgrade.withoutLegacy s.approvedPrograms) ∧
        (s.NamesApproved →
          upgrade.withoutLegacy s.approvedPrograms = upgrade.withoutLegacy s.ownPrograms) := by
  refine ⟨h.inv.registered, fun upgrade hprevious => ⟨?_, fun hnames =>
    (h.inv.withoutLegacy_ownPrograms hnames hprevious).symm⟩⟩
  constructor
  · rintro ⟨result, haccepted⟩
    rcases h.inv.accepted_iff.1 haccepted with ⟨hnewest, -⟩ | ⟨-, -, -, ⟨installed, hread⟩, -⟩
    · exact absurd hnewest (h.inv.not_newest hprevious)
    · obtain ⟨hnamed, -⟩ := (h.inv.registered_updated hprevious).1 hread
      exact or_iff_not_imp_left.2 hnamed
  · intro hnamed
    have hread : registeredProgramInstallation s.publication.id s.installation
        (s.config.updated upgrade) = .ok upgrade.installation :=
      (h.inv.registered_updated hprevious).2 ⟨or_iff_not_imp_left.1 hnamed, rfl⟩
    exact ⟨_, h.inv.accepted_iff.2 (.inr
      ⟨h.inv.not_newest hprevious, hprevious, rfl, ⟨_, hread⟩, rfl⟩)⟩

end ProgramState

/-! ### A history with a program that names no predecessors -/

namespace Sample

/-- The publication of the first program. -/
def programPublication : ProgramPublication := ⟨8, .active, 1, some (installations 0)⟩

/-- A gateway configuration without upgrades. -/
def programConfig : GatewayProgramConfig := ⟨none, [], "gateway"⟩

/-- The state before any upgrade. -/
def programStart : ProgramState :=
  ⟨programPublication, installations 0, programConfig, installations 0, [8]⟩

/-- The configuration after the first upgrade, and after the second. -/
def programConfigs : ℕ → GatewayProgramConfig
  | 0 => programConfig
  | k + 1 => (programConfigs k).updated (upgrade (installations k) (installations (k + 1)))

theorem fourthInstallation_legacy : (some ⟨"0"⟩ : Option (Sha256 String)) ≠ none → true = true :=
  fun _ => rfl

/-- A fourth program, which names only the third as its predecessor. -/
def fourthInstallation : FixedProgramInstallation :=
  { installation "3" "b" true (some ⟨"0"⟩) fourthInstallation_legacy with
    predecessorProgramSha256 := [⟨"2"⟩]
    predecessors := by decide
    length := by decide }

theorem programStart_reachable : programStart.Reachable :=
  .start ⟨rfl, rfl, rfl⟩ rfl

/-- Two upgrades are accepted. -/
theorem programUpgraded_reachable : ProgramState.Reachable
    ⟨programPublication, installations 0, programConfigs 2, installations 2, [8]⟩ := by
  have hfirst : fixedProgramUpgradeConfig (some programPublication) programConfig
      (upgrade (installations 0) (installations 1)) ⟨programConfig⟩
        = .ok (some (programConfigs 1)) := by
    decide
  have hsecond : fixedProgramUpgradeConfig (some programPublication) (programConfigs 1)
      (upgrade (installations 1) (installations 2)) ⟨programConfigs 1⟩
        = .ok (some (programConfigs 2)) := by
    decide
  exact (programStart_reachable.upgrade hfirst).upgrade hsecond

end Sample

/-- The third upgrade names the registered program, and not the one before it. -/
theorem upgrade_of_own_predecessors :
    ¬∀ s : ProgramState, s.Reachable →
      registeredProgramInstallation s.publication.id s.installation s.config = .ok s.last ∧
      ∀ upgrade : FixedProgramUpgrade,
        upgrade.requirePrevious s.publication.id s.last = .ok () →
        upgrade.installation.predecessorProgramSha256 = upgrade.withoutLegacy s.ownPrograms →
          ∃ result, fixedProgramUpgradeConfig (some s.publication) s.config upgrade ⟨s.config⟩
            = .ok result := by
  intro h
  have haccepted := (h _ Sample.programUpgraded_reachable).2
    (Sample.upgrade (Sample.installations 2) Sample.fourthInstallation) (by decide) (by decide)
  obtain ⟨result, haccepted⟩ := haccepted
  have hrefused : fixedProgramUpgradeConfig (some Sample.programPublication)
      (Sample.programConfigs 2)
      (Sample.upgrade (Sample.installations 2) Sample.fourthInstallation)
      ⟨Sample.programConfigs 2⟩
        = .error (.value "MODEL_PROGRAM_PREDECESSOR_HISTORY_CHANGED") := by
    decide
  rw [hrefused] at haccepted
  cases haccepted

/-- The same upgrade is accepted where it names both programs that are approved. -/
theorem upgrade_of_all_predecessors :
    (∃ result, fixedProgramUpgradeConfig (some Sample.programPublication) (Sample.programConfigs 2)
        (Sample.upgrade (Sample.installations 2)
          { Sample.fourthInstallation with
            predecessorProgramSha256 := [⟨"1"⟩, ⟨"2"⟩]
            predecessors := by decide
            length := by decide })
        ⟨Sample.programConfigs 2⟩ = .ok result) :=
  ((ProgramState.program_history_readable Sample.programUpgraded_reachable).2 _ (by decide)).1.2
    (.inr (by decide))

end Turnstile
