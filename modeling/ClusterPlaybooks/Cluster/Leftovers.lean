import ClusterPlaybooks.Cluster.Decommission
import ClusterPlaybooks.Service.PathTasks

/-!
# What removed nodes keep

The paths that the setup and the upgrade of a node create are spread over several roles, with
names that are built from the version variables and from the operating system.  The role
{lit}`decomissionNodes` removes a list of paths of its own.  Kafka leaves behind the directory of
the old version, whose name the list has with its two numbers the other way round, and the
directories named after the version twice.  Both clusters leave behind the unit file of hosts of
the Debian family.

The role ends with a task that unmounts a volume and removes its mount point.  It is not among the
tasks here, so a path at or below the mount point counts as kept.

Main results:

- Theorem {lit}`Kafka.nothingLeft_iff` and theorem {lit}`ZooKeeper.nothingLeft_iff`: when nothing
  is left of one service.
- Theorem {lit}`nothing_left_behind_iff`: the same for both.
- Theorem {lit}`development_broker_leftovers`: what a broker of the development inventory keeps.
-/

namespace ClusterPlaybooks

open Service

/-- The fact {lit}`ansible_os_family`. -/
inductive OsFamily where
  | redHat
  | debian
  | other
deriving DecidableEq, Repr

/-- The fact {lit}`ansible_distribution`. -/
inductive Distribution where
  | centOS
  | redHatEnterpriseLinux
  | redHat
  | debian
  | ubuntu
  | other
deriving DecidableEq, Repr

/-! ## Kafka -/

namespace Kafka

/-- The path of the live link. -/
def Vars.livePath (v : Vars) : String :=
  v.kafkaInstallDir ++ "/kafka"

/-- The paths of {lit}`createDirStructure`. -/
def createDirStructurePaths (v : Vars) : List PathTask :=
  [.present v.kafkaInstallDir, .present v.kafkaDataDir, .present v.kafkaLogDir]

/--
The paths of {lit}`download`: the archive has the version directory; the permissions are set
with {lit}`recurse` and no {lit}`state`, which creates a missing directory.
-/
def downloadPaths (v : Vars) : List PathTask :=
  [.unarchive (v.permissionsDir ++ "/bin")
      [v.versionDir, v.versionDir ++ "/bin", v.versionDir ++ "/config"],
    .present v.permissionsDir]

/-- The path of {lit}`createSymlink`. -/
def createSymlinkPaths (v : Vars) : List PathTask :=
  [.present v.livePath]

/-- The path of {lit}`envSet`. -/
def envSetPaths : List PathTask :=
  [.write "/etc/profile.d" "/etc/profile.d/kafka.sh"]

/-- The paths of the role {lit}`configure`. -/
def configurePaths (v : Vars) : List PathTask :=
  [.write v.versionDir (v.versionDir ++ "/bin/kafka-server-start.sh"),
    .write v.versionDir (v.versionDir ++ "/config/kafka-broker.properties"),
    .write v.versionDir (v.versionDir ++ "/config/log4j.properties")]

/-- The directory of the unit file; there is none for other families. -/
def unitDir : OsFamily → Option String
  | .redHat => some "/usr/lib/systemd/system"
  | .debian => some "/lib/systemd/system"
  | .other => none

/-- The unit file. -/
def unitFile (os : OsFamily) : Option String :=
  (unitDir os).map (· ++ "/kafka.service")

/-- The path of the role {lit}`service`. -/
def servicePaths (os : OsFamily) : List PathTask :=
  (unitDir os).toList.map fun dir => .write dir (dir ++ "/kafka.service")

/-- The paths of the playbook {lit}`clusterSetup`. -/
def clusterSetupPaths (os : OsFamily) (v : Vars) : List PathTask :=
  createDirStructurePaths v ++ downloadPaths v ++ createSymlinkPaths v ++ envSetPaths ++
    configurePaths v ++ servicePaths os

/-- The paths of the playbook {lit}`clusterUpgrade`. -/
def clusterUpgradePaths (v : Vars) : List PathTask :=
  createDirStructurePaths v ++ downloadPaths v ++ configurePaths v ++ createSymlinkPaths v

/-- The variables with which the old version was set up. -/
def Vars.oldVars (v : Vars) : Option Vars := do
  let version ← v.kafkaOldVersion
  let scala ← v.kafkaOldScalaVersion
  return { v with kafkaVersion := version, kafkaScalaVersion := scala }

/-- The variables of all versions that were installed, the first one first. -/
def installed (v o : Vars) (upgraded : Bool) : List Vars :=
  if upgraded then [o, v] else [v]

/-- The setup of a node, and its upgrade if it had one. -/
def history (os : OsFamily) (v o : Vars) (upgraded : Bool) : List PathTask :=
  if upgraded then clusterSetupPaths os o ++ clusterUpgradePaths v else clusterSetupPaths os v

/-- The paths that should be gone from a removed node. -/
def ownPaths (os : OsFamily) (v o : Vars) (upgraded : Bool) : List String :=
  (installed v o upgraded).flatMap (fun u => [u.versionDir, u.permissionsDir]) ++
    [v.livePath, v.kafkaDataDir, v.kafkaLogDir] ++ (unitFile os).toList

/-- The paths that the role {lit}`decomissionNodes` names. -/
def Vars.namedPaths (v : Vars) : List String :=
  v.removedPaths.getD []

/-- The removal of a node with all tasks succeeding leaves none of its paths. -/
def NothingLeft (os : OsFamily) (v o : Vars) (upgraded : Bool) (s : Paths) : Prop :=
  ∃ s', runTasks s (v.namedPaths.map .absent) = some s' ∧
    ∀ p ∈ ownPaths os v o upgraded, s' p = false

/--
The paths that the role does not name: the directory named after each version twice, the
directory of the old version, and the unit file of the Debian family.
-/
def unnamedPaths (os : OsFamily) (v o : Vars) (upgraded : Bool) : List String :=
  (installed v o upgraded).map Vars.permissionsDir ++
    (if upgraded then [o.versionDir] else []) ++
    if os = .debian then ["/lib/systemd/system/kafka.service"] else []

section Leftovers

variable {os : OsFamily} {v o : Vars} {upgraded : Bool} {before s : Paths}

/-- Setup and upgrade remove nothing. -/
theorem history_safe : ∀ t ∈ history os v o upgraded, t.isSafe = true := by
  have hall : (history os v o upgraded).all PathTask.isSafe = true := by
    cases upgraded <;> cases os <;> rfl
  exact List.all_eq_true.mp hall

/-- Every installed version sets permissions on the directory named after it twice. -/
theorem permissionsDir_mem {u : Vars} (hu : u ∈ installed v o upgraded) :
    .present u.permissionsDir ∈ history os v o upgraded := by
  cases upgraded with
  | true =>
      rcases List.mem_pair.mp hu with rfl | rfl
      · simp [history, clusterSetupPaths, downloadPaths]
      · simp [history, clusterUpgradePaths, downloadPaths]
  | false =>
      rw [List.mem_singleton.mp hu]
      simp [history, clusterSetupPaths, downloadPaths]

/-- The old version is configured in its directory. -/
theorem oldVersionDir_mem :
    .write o.versionDir (o.versionDir ++ "/config/log4j.properties") ∈ history os v o true := by
  simp [history, clusterSetupPaths, configurePaths]

/-- The unit file is written. -/
theorem unitFile_mem {dir : String} (hdir : unitDir os = some dir) :
    .write dir (dir ++ "/kafka.service") ∈ history os v o upgraded := by
  cases upgraded <;> simp [history, clusterSetupPaths, servicePaths, hdir]

/-- The role names the link, the data, the logs, the current version and one unit file. -/
theorem named_covered (ho : v.oldVars = some o) :
    ∀ p ∈ [v.livePath, v.kafkaDataDir, v.kafkaLogDir, v.versionDir,
      "/usr/lib/systemd/system/kafka.service"], Covered v.namedPaths p := by
  cases hversion : v.kafkaOldVersion with
  | none => simp [Vars.oldVars, hversion] at ho
  | some version =>
      cases hscala : v.kafkaOldScalaVersion with
      | none => simp [Vars.oldVars, hversion, hscala] at ho
      | some scala =>
          intro p hp
          apply covered_of_mem
          simp only [List.mem_cons, List.not_mem_nil, or_false] at hp
          rcases hp with rfl | rfl | rfl | rfl | rfl <;>
            simp [Vars.namedPaths, Vars.removedPaths, hversion, hscala, Vars.livePath]

/-- Every path of a broker is named, or one of those that are not. -/
theorem own_named_or_unnamed (ho : v.oldVars = some o) {p : String}
    (hp : p ∈ ownPaths os v o upgraded) :
    p ∈ unnamedPaths os v o upgraded ∨ Covered v.namedPaths p := by
  have hnamed := named_covered ho
  simp only [ownPaths, List.mem_append, List.mem_flatMap, List.mem_cons, List.not_mem_nil,
    or_false] at hp
  rcases hp with (⟨u, hu, rfl | rfl⟩ | hshared) | hfile
  · cases upgraded with
    | true =>
        rcases List.mem_pair.mp hu with rfl | rfl
        · exact Or.inl (by simp [unnamedPaths])
        · exact Or.inr (hnamed _ (by simp))
    | false =>
        rw [List.mem_singleton.mp hu]
        exact Or.inr (hnamed _ (by simp))
  · left
    simp only [unnamedPaths, List.mem_append, List.mem_map]
    exact Or.inl (Or.inl ⟨u, hu, rfl⟩)
  · right
    rcases hshared with rfl | rfl | rfl
    · exact hnamed _ (by simp)
    · exact hnamed _ (by simp)
    · exact hnamed _ (by simp)
  · cases os with
    | redHat =>
        obtain rfl : p = "/usr/lib/systemd/system/kafka.service" := by
          simpa [unitFile, unitDir] using hfile
        exact Or.inr (hnamed _ (by simp))
    | debian =>
        obtain rfl : p = "/lib/systemd/system/kafka.service" := by
          simpa [unitFile, unitDir] using hfile
        exact Or.inl (by simp [unnamedPaths])
    | other => simp [unitFile, unitDir] at hfile

/-- The paths that are not named are paths of the broker, and setup and upgrade create them. -/
theorem unnamed_own_and_there (hrun : runTasks before (history os v o upgraded) = some s)
    {p : String} (hp : p ∈ unnamedPaths os v o upgraded) :
    p ∈ ownPaths os v o upgraded ∧ s p = true := by
  simp only [unnamedPaths, List.mem_append, List.mem_map] at hp
  rcases hp with (⟨u, hu, rfl⟩ | hold) | hunit
  · refine ⟨?_, present_of_runTasks history_safe hrun (permissionsDir_mem hu)⟩
    simp only [ownPaths, List.mem_append, List.mem_flatMap]
    exact Or.inl (Or.inl ⟨u, hu, by simp⟩)
  · cases upgraded with
    | false => simp at hold
    | true =>
        obtain rfl : p = o.versionDir := by simpa using hold
        refine ⟨?_, (written_of_runTasks history_safe hrun oldVersionDir_mem).2⟩
        simp [ownPaths, installed]
  · by_cases hos : os = .debian
    · subst hos
      obtain rfl : p = "/lib/systemd/system/kafka.service" := by simpa using hunit
      refine ⟨?_, (written_of_runTasks history_safe hrun (unitFile_mem rfl)).1⟩
      simp [ownPaths, unitFile, unitDir]
    · simp [hos] at hunit

/--
After a successful setup and upgrade, nothing is left of a removed broker exactly if the paths
that the role does not name are covered by those it names.
-/
theorem nothingLeft_iff (ho : v.oldVars = some o)
    (hrun : runTasks before (history os v o upgraded) = some s) :
    NothingLeft os v o upgraded s ↔
      ∀ p ∈ unnamedPaths os v o upgraded, Covered v.namedPaths p := by
  rw [← all_gone_iff (fun p hp => own_named_or_unnamed ho hp)
    fun p hp => unnamed_own_and_there hrun hp]
  simp [NothingLeft, runTasks_absent]

end Leftovers

end Kafka

/-! ## ZooKeeper -/

namespace ZooKeeper

/-- The path of the live link. -/
def Vars.livePath (v : Vars) : String :=
  v.zookeeperInstallDir ++ "/zookeeper"

/-- The paths of {lit}`createDirStructure`. -/
def createDirStructurePaths (v : Vars) : List PathTask :=
  [.present v.versionDir, .present v.zookeeperDataDir, .present v.zookeeperLogDir]

/-- The paths of {lit}`download`. -/
def downloadPaths (v : Vars) : List PathTask :=
  [.unarchive (v.versionDir ++ "/bin")
      [v.versionDir, v.versionDir ++ "/bin", v.versionDir ++ "/conf"],
    .present v.versionDir]

/-- The path of {lit}`createSymlink`. -/
def createSymlinkPaths (v : Vars) : List PathTask :=
  [.present v.livePath]

/-- The path of {lit}`envSet`. -/
def envSetPaths : List PathTask :=
  [.write "/etc/profile.d" "/etc/profile.d/zookeeper.sh"]

/-- The paths of the role {lit}`copyFiles`. -/
def copyFilesPaths (v : Vars) : List PathTask :=
  if v.zookeeperSslQuorum then (v.zookeeperCopyFiles.getD []).map .present else []

/-- The paths of the role {lit}`configure`. -/
def configurePaths (v : Vars) : List PathTask :=
  [.write v.zookeeperDataDir (v.zookeeperDataDir ++ "/myid"),
    .write v.versionDir (v.versionDir ++ "/conf/zoo.cfg"),
    .write v.versionDir (v.versionDir ++ "/conf/log4j.properties"),
    .write v.versionDir (v.versionDir ++ "/conf/java.env"),
    .write v.versionDir (v.versionDir ++ "/conf/jaas.conf")]

/-- The directory of the unit file; it depends on the distribution. -/
def unitDir : Distribution → Option String
  | .centOS | .redHatEnterpriseLinux | .redHat => some "/usr/lib/systemd/system"
  | .debian | .ubuntu => some "/lib/systemd/system"
  | .other => none

/-- The unit file. -/
def unitFile (os : Distribution) : Option String :=
  (unitDir os).map (· ++ "/zookeeper.service")

/-- The path of the role {lit}`service`. -/
def servicePaths (os : Distribution) : List PathTask :=
  (unitDir os).toList.map fun dir => .write dir (dir ++ "/zookeeper.service")

/-- The paths of the playbook {lit}`clusterSetup`. -/
def clusterSetupPaths (os : Distribution) (v : Vars) : List PathTask :=
  createDirStructurePaths v ++ downloadPaths v ++ createSymlinkPaths v ++ envSetPaths ++
    copyFilesPaths v ++ configurePaths v ++ servicePaths os

/-- The paths of the playbook {lit}`clusterUpgrade`. -/
def clusterUpgradePaths (v : Vars) : List PathTask :=
  createDirStructurePaths v ++ downloadPaths v ++ configurePaths v ++ createSymlinkPaths v

/-- The variables with which the old version was set up. -/
def Vars.oldVars (v : Vars) : Option Vars :=
  v.zookeeperOldVersion.map fun version => { v with zookeeperVersion := version }

/-- The variables of all versions that were installed, the first one first. -/
def installed (v o : Vars) (upgraded : Bool) : List Vars :=
  if upgraded then [o, v] else [v]

/-- The setup of a node, and its upgrade if it had one. -/
def history (os : Distribution) (v o : Vars) (upgraded : Bool) : List PathTask :=
  if upgraded then clusterSetupPaths os o ++ clusterUpgradePaths v else clusterSetupPaths os v

/-- The paths that should be gone from a removed node. -/
def ownPaths (os : Distribution) (v o : Vars) (upgraded : Bool) : List String :=
  (installed v o upgraded).map Vars.versionDir ++
    [v.livePath, v.zookeeperDataDir, v.zookeeperLogDir] ++ (unitFile os).toList

/-- The paths that the role {lit}`decomissionNodes` names, in two of its tasks. -/
def Vars.namedPaths (v : Vars) : List String :=
  v.removedPaths.getD [] ++ ["/usr/lib/systemd/system/zookeeper.service"]

/-- The removal of a node with all tasks succeeding leaves none of its paths. -/
def NothingLeft (os : Distribution) (v o : Vars) (upgraded : Bool) (s : Paths) : Prop :=
  ∃ s', runTasks s (v.namedPaths.map .absent) = some s' ∧
    ∀ p ∈ ownPaths os v o upgraded, s' p = false

/-- The path that the role does not name: the unit file of Debian and Ubuntu. -/
def unnamedPaths (os : Distribution) : List String :=
  if os = .debian ∨ os = .ubuntu then ["/lib/systemd/system/zookeeper.service"] else []

section Leftovers

variable {os : Distribution} {v o : Vars} {upgraded : Bool} {before s : Paths}

/-- Setup and upgrade remove nothing. -/
theorem history_safe : ∀ t ∈ history os v o upgraded, t.isSafe = true := by
  have hcopy : ∀ u : Vars, (copyFilesPaths u).all PathTask.isSafe = true := by
    intro u
    unfold copyFilesPaths
    split
    · simp [PathTask.isSafe]
    · rfl
  have hsetup : ∀ u : Vars, (clusterSetupPaths os u).all PathTask.isSafe = true := by
    intro u
    simp only [clusterSetupPaths, List.all_append, hcopy]
    cases os <;> rfl
  apply List.all_eq_true.mp
  cases upgraded with
  | true =>
      rw [history, if_pos rfl, List.all_append, hsetup]
      rfl
  | false => exact hsetup v

/-- The unit file is written. -/
theorem unitFile_mem {dir : String} (hdir : unitDir os = some dir) :
    .write dir (dir ++ "/zookeeper.service") ∈ history os v o upgraded := by
  cases upgraded <;> simp [history, clusterSetupPaths, servicePaths, hdir]

/-- The role names the directories of both versions, the link, the data and the logs. -/
theorem named_covered (ho : v.oldVars = some o) :
    ∀ p ∈ [v.livePath, v.versionDir, o.versionDir, v.zookeeperDataDir, v.zookeeperLogDir,
      "/usr/lib/systemd/system/zookeeper.service"], Covered v.namedPaths p := by
  cases hversion : v.zookeeperOldVersion with
  | none => simp [Vars.oldVars, hversion] at ho
  | some version =>
      obtain rfl : { v with zookeeperVersion := version } = o := by
        simpa [Vars.oldVars, hversion] using ho
      intro p hp
      apply covered_of_mem
      simp only [List.mem_cons, List.not_mem_nil, or_false] at hp
      rcases hp with rfl | rfl | rfl | rfl | rfl | rfl <;>
        simp [Vars.namedPaths, Vars.removedPaths, hversion, Vars.livePath, Vars.versionDir]

/-- Every path of a node is named, or it is the unit file that is not. -/
theorem own_named_or_unnamed (ho : v.oldVars = some o) {p : String}
    (hp : p ∈ ownPaths os v o upgraded) : p ∈ unnamedPaths os ∨ Covered v.namedPaths p := by
  have hnamed := named_covered ho
  simp only [ownPaths, List.mem_append, List.mem_map, List.mem_cons, List.not_mem_nil,
    or_false] at hp
  rcases hp with (⟨u, hu, rfl⟩ | hshared) | hfile
  · right
    cases upgraded with
    | true =>
        rcases List.mem_pair.mp hu with rfl | rfl
        · exact hnamed _ (by simp)
        · exact hnamed _ (by simp)
    | false =>
        rw [List.mem_singleton.mp hu]
        exact hnamed _ (by simp)
  · right
    rcases hshared with rfl | rfl | rfl
    · exact hnamed _ (by simp)
    · exact hnamed _ (by simp)
    · exact hnamed _ (by simp)
  · by_cases hos : os = .debian ∨ os = .ubuntu
    · left
      rcases hos with rfl | rfl
      · simpa [unnamedPaths, unitFile, unitDir] using hfile
      · simpa [unnamedPaths, unitFile, unitDir] using hfile
    · right
      cases os with
      | debian => simp at hos
      | ubuntu => simp at hos
      | other => simp [unitFile, unitDir] at hfile
      | centOS | redHatEnterpriseLinux | redHat =>
          obtain rfl : p = "/usr/lib/systemd/system/zookeeper.service" := by
            simpa [unitFile, unitDir] using hfile
          exact hnamed _ (by simp)

/-- The unit file that is not named is a path of the node, and the setup creates it. -/
theorem unnamed_own_and_there (hrun : runTasks before (history os v o upgraded) = some s)
    {p : String} (hp : p ∈ unnamedPaths os) :
    p ∈ ownPaths os v o upgraded ∧ s p = true := by
  have hos : os = .debian ∨ os = .ubuntu := by
    by_contra hnot
    simp [unnamedPaths, hnot] at hp
  obtain rfl : p = "/lib/systemd/system/zookeeper.service" := by
    simpa [unnamedPaths, hos] using hp
  have hdir : unitDir os = some "/lib/systemd/system" := by
    rcases hos with rfl | rfl <;> rfl
  refine ⟨?_, (written_of_runTasks history_safe hrun (unitFile_mem hdir)).1⟩
  simp [ownPaths, unitFile, hdir]

/--
After a successful setup and upgrade, nothing is left of a removed node exactly if the unit file
that the role does not name is covered by the paths it names.
-/
theorem nothingLeft_iff (ho : v.oldVars = some o)
    (hrun : runTasks before (history os v o upgraded) = some s) :
    NothingLeft os v o upgraded s ↔ ∀ p ∈ unnamedPaths os, Covered v.namedPaths p := by
  rw [← all_gone_iff (fun p hp => own_named_or_unnamed ho hp)
    fun p hp => unnamed_own_and_there hrun hp]
  simp [NothingLeft, runTasks_absent]

end Leftovers

end ZooKeeper

/-! ## Both services -/

/--
Nothing is left of a removed broker and of a removed ZooKeeper node, whatever the variables and
the operating systems, exactly if the paths that the roles do not name are covered by those
they name.
-/
theorem nothing_left_behind_iff (os : OsFamily) (dist : Distribution) (v o : Kafka.Vars)
    (w x : ZooKeeper.Vars) (upgraded upgraded' : Bool) (before s before' s' : Paths)
    (ho : v.oldVars = some o) (hx : w.oldVars = some x)
    (hrun : runTasks before (Kafka.history os v o upgraded) = some s)
    (hrun' : runTasks before' (ZooKeeper.history dist w x upgraded') = some s') :
    (Kafka.NothingLeft os v o upgraded s ∧ ZooKeeper.NothingLeft dist w x upgraded' s') ↔
      (∀ p ∈ Kafka.unnamedPaths os v o upgraded, Covered v.namedPaths p) ∧
        ∀ p ∈ ZooKeeper.unnamedPaths dist, Covered w.namedPaths p :=
  and_congr (Kafka.nothingLeft_iff ho hrun) (ZooKeeper.nothingLeft_iff hx hrun')

/-- A host with the directories that the packages of the system bring. -/
def freshHost : Paths :=
  fun p => ["/etc/profile.d", "/usr/lib/systemd/system", "/lib/systemd/system"].contains p

/-- On hosts of the RedHat family, with a Kafka version that equals the Scala version. -/
theorem nothing_left_behind_iff_redHat :
    ∃ s s', runTasks freshHost (Kafka.history .redHat
        { Kafka.developmentVars with kafkaVersion := "2.13" }
        { Kafka.developmentVars with kafkaVersion := "3.0.0" } false) = some s ∧
      runTasks freshHost (ZooKeeper.history .centOS ZooKeeper.developmentVars
        { ZooKeeper.developmentVars with zookeeperVersion := "3.7.1" } true) = some s' ∧
      Kafka.NothingLeft .redHat { Kafka.developmentVars with kafkaVersion := "2.13" }
        { Kafka.developmentVars with kafkaVersion := "3.0.0" } false s ∧
      ZooKeeper.NothingLeft .centOS ZooKeeper.developmentVars
        { ZooKeeper.developmentVars with zookeeperVersion := "3.7.1" } true s' := by
  refine ⟨_, _, rfl, rfl, ?_⟩
  exact (nothing_left_behind_iff .redHat .centOS _ _ _ _ false true freshHost _ freshHost _
    rfl rfl rfl rfl).mpr (by decide +kernel)

/--
A broker of the development inventory on a host of the Debian family, set up with version 3.0.0
and upgraded to 3.3.1, keeps four of its paths.
-/
theorem development_broker_leftovers :
    (runTasks freshHost (Kafka.history .debian Kafka.developmentVars
        { Kafka.developmentVars with kafkaVersion := "3.0.0" } true ++
        Kafka.developmentVars.namedPaths.map .absent)).map
      (fun s => (Kafka.ownPaths .debian Kafka.developmentVars
        { Kafka.developmentVars with kafkaVersion := "3.0.0" } true).filter s) =
      some ["/kafka/kafka_2.13-3.0.0", "/kafka/kafka_3.0.0-3.0.0", "/kafka/kafka_3.3.1-3.3.1",
        "/lib/systemd/system/kafka.service"] := by
  decide +kernel

end ClusterPlaybooks
