import ClusterPlaybooks.Kafka.Templates
import ClusterPlaybooks.Service.Roles
import ClusterPlaybooks.Text.LooseVersion

/-!
# The Kafka playbooks

Roles and playbooks of the Kafka cluster, task by task.
-/

namespace ClusterPlaybooks
namespace Kafka

open Ansible
open Service
open Text

/-- A Kafka node. -/
abbrev KafkaNode := Node KafkaFile ConfigFile

/-- A task of a Kafka playbook. -/
abbrev KafkaTask := Task Host KafkaNode Choice

/-- A play of a Kafka playbook. -/
abbrev KafkaPlay := Play Host KafkaNode Choice

/-! ## Roles -/

/-- The tasks {lit}`createDirStructure` of the role {lit}`common`. -/
def createDirStructure (v : Vars) : List KafkaTask :=
  [{ name := "Creating installing dir", items := [call (fileDirectory v.kafkaInstallDir)] },
    { name := "Creating kafka directories"
      items := [call (fileDirectory v.kafkaDataDir), call (fileDirectory v.kafkaLogDir)] }]

/-- The role {lit}`common`. -/
def common (v : Vars) : List KafkaTask :=
  Service.common "kafka" v.useSystemFirewall (createDirStructure v)

/--
The directory that {lit}`download` names in its last two tasks.  It is built from
{lit}`kafkaVersion` twice and not from {lit}`kafkaScalaVersion`.
-/
def Vars.permissionsDir (v : Vars) : String :=
  v.dirOf v.kafkaVersion v.kafkaVersion

/-- The tasks {lit}`download` of the role {lit}`install`. -/
def download (v : Vars) : List KafkaTask :=
  [inert "Install  | Check if local Kafka package tar file exist ." 1,
    inert "Install  | Check if remote Kafka package tar file exist ." 1,
    inert "Install  | Download Kafka Bin file at remote host" 1,
    { name := "copy and unarchive kafka"
      items := [call (unarchiveBeside v.versionDir v.permissionsDir v.archive)] },
    { name := "Ensuring permissions on unarchieved files"
      items := [call (fileDirectory v.permissionsDir)] }]

/-- The tasks {lit}`createSymlink` of the role {lit}`install`. -/
def createSymlink (v : Vars) : List KafkaTask :=
  [{ name := "Creating symlink to latest version"
     items := [call (fileLink v.versionDir (some "kafkaSymlinkStatus"))] }]

/-- The tasks {lit}`jvmSettings` of the role {lit}`configure`. -/
def jvmSettings (inv : Inventory) (v : Vars) : KafkaTask where
  name := "Creating kafka JVM configurations | kafka-server-start.sh"
  items := [call (template v.versionDir .serverStart (render inv v .serverStart)
    (some "jvmConfigStatus"))]

/-- The tasks {lit}`dynamicConfigs` of the role {lit}`configure`, for one file. -/
def dynamicConfigs (inv : Inventory) (v : Vars) (kafkaConfigFile : KafkaFile) : KafkaTask where
  name := "Creating kafka configurations"
  items := [call (template v.versionDir kafkaConfigFile (render inv v kafkaConfigFile)
    (some "configStatus"))]

/-- The role {lit}`configure`. -/
def configure (inv : Inventory) (v : Vars) : List KafkaTask :=
  [jvmSettings inv v, dynamicConfigs inv v .brokerProperties,
    dynamicConfigs inv v .log4jProperties]

/-- The ports every playbook waits for after a restart. -/
def Vars.ports (v : Vars) : List String :=
  [v.kafkaPort, v.kafkaJmxPort]

/-- Restart Kafka, then wait for its two ports. -/
def restartAndCheck (v : Vars) (cond : Host → KafkaNode → Option Bool) : List KafkaTask :=
  serviceState "kafka" .restarted cond :: portCheck v.ports cond

/-! ## What the roles keep -/

section Keep

variable {h : Host} {I : KafkaNode → Prop} {v : Vars}

/-- The role {lit}`common` keeps what creating directories keeps. -/
theorem common_keep (hdir : ∀ d, (call (fileDirectory d)).Keeps h I) :
    TasksKeep h I (common v) := by
  apply Service.common_keep
  simp [createDirStructure, hdir]

/-- Unpacking a version keeps what its two calls keep. -/
theorem download_keep
    (hunarchive : (call (unarchiveBeside v.versionDir v.permissionsDir v.archive)).Keeps h I)
    (hdir : (call (fileDirectory v.permissionsDir)).Keeps h I) :
    TasksKeep h I (download v) := by
  simp [download, hunarchive, hdir]

/-- Switching the version keeps what the link call keeps. -/
theorem createSymlink_keep
    (hlink : (call (fileLink v.versionDir (some "kafkaSymlinkStatus"))).Keeps h I) :
    TasksKeep h I (createSymlink v) := by
  simp [createSymlink, hlink]

/-- Configuring keeps what the template calls keep. -/
theorem configure_keep {inv : Inventory}
    (hfile : ∀ file reg, (call (template v.versionDir file (render inv v file)
      (some reg))).Keeps h I) : TasksKeep h I (configure inv v) := by
  simp [configure, jvmSettings, dynamicConfigs, hfile]

end Keep

/-! ## Plays -/

/-- A play on all brokers at once. -/
def Inventory.onBrokers (inv : Inventory) (tasks : List KafkaTask) : KafkaPlay :=
  onAll inv.hosts inv.nodup_hosts tasks

/-- A play on one broker after the other. -/
def Inventory.rolling (inv : Inventory) (tasks : List KafkaTask) : KafkaPlay :=
  oneByOne inv.hosts inv.nodup_hosts tasks

/-- A play on the controller that touches no broker. -/
def Inventory.onLocalhost (inv : Inventory) (name : String) : KafkaPlay :=
  onAll [inv.localhost] (List.nodup_singleton _) [inert name 1]

/-! ## Playbooks -/

/-- The playbook {lit}`clusterRollingRestart`. -/
def clusterRollingRestart (inv : Inventory) (v : Vars) : List KafkaPlay :=
  [inv.rolling (gatherFacts :: restartAndCheck v always)]

/-- The playbook {lit}`clusterBrokerProperties`. -/
def clusterBrokerProperties (inv : Inventory) (v : Vars) : List KafkaPlay :=
  [inv.rolling (gatherFacts :: dynamicConfigs inv v .brokerProperties ::
    restartAndCheck v (whenChanged "configStatus"))]

/-- The playbook {lit}`clusterLogging`. -/
def clusterLogging (inv : Inventory) (v : Vars) : List KafkaPlay :=
  [inv.rolling (gatherFacts :: dynamicConfigs inv v .log4jProperties ::
    restartAndCheck v (whenChanged "configStatus"))]

/-- The playbook {lit}`clusterJvmConfigs`. -/
def clusterJvmConfigs (inv : Inventory) (v : Vars) : List KafkaPlay :=
  [inv.rolling (gatherFacts :: jvmSettings inv v ::
    restartAndCheck v (whenChanged "jvmConfigStatus"))]

/-- The playbook {lit}`clusterUpgrade`. -/
def clusterUpgrade (inv : Inventory) (v : Vars) : List KafkaPlay :=
  [inv.onBrokers (gatherFacts :: java ++ common v),
    inv.onBrokers (gatherFacts :: download v ++ configure inv v),
    inv.onLocalhost "Switching Kafka Version on all nodes (Rolling fashion)",
    inv.rolling (createSymlink v ++ restartAndCheck v always)]

/-- {lit}`set_fact` of the two version names; it fails while an old variable is not defined. -/
def setVersionFacts (v : Vars) : Effect Host KafkaFile ConfigFile :=
  fun _ n _ => if v.kafkaOldVersion.isSome ∧ v.kafkaOldScalaVersion.isSome then some n else none

/-- The name of a version, as {lit}`clusterRemoveOldVersion` compares it. -/
def versionName (scala version : String) : String :=
  "kafka_" ++ scala ++ "-" ++ version

/-- The call that removes the directory of the old version. -/
def removeOldVersion (v : Vars) : Action Host KafkaNode Choice :=
  match v.kafkaOldScalaVersion, v.kafkaOldVersion with
  | some scala, some old =>
      callWhen (fun _ _ =>
          versionNe (versionName scala old) (versionName v.kafkaScalaVersion v.kafkaVersion))
        (fileAbsent (v.dirOf scala old))
  | _, _ => callWhen (fun _ _ => some false) noEffect

/-- The playbook {lit}`clusterRemoveOldVersion`. -/
def clusterRemoveOldVersion (inv : Inventory) (v : Vars) : List KafkaPlay :=
  [inv.rolling
    [{ name := "current kafka version", items := [call (setVersionFacts v)] },
      { name := "removing old kafka config files", items := [removeOldVersion v] }]]

/-- The directory of the old version, if its two variables are defined. -/
def Vars.oldVersionDir (v : Vars) : Option String :=
  match v.kafkaOldScalaVersion, v.kafkaOldVersion with
  | some scala, some old => some (v.dirOf scala old)
  | _, _ => none

/--
The tasks of {lit}`clusterDownGradeVersion` that look for the old version.  The second one
asks for the flag {lit}`exists` of the result itself.
-/
def checkOldVersion (v : Vars) : List KafkaTask :=
  [{ name := "check kafka installation files"
     items := [call (stat v.oldVersionDir "kafkaOldVersionStatus")] },
    { name := "fails if kafka installation files are missing"
      items := [callWhen (whenNot "kafkaOldVersionStatus" ["exists"]) fail] }]

/-- The tasks {lit}`createSymlink` with the variables of the old version. -/
def revertSymlink (v : Vars) : List KafkaTask :=
  match v.kafkaOldScalaVersion, v.kafkaOldVersion with
  | some scala, some old => createSymlink { v with kafkaScalaVersion := scala, kafkaVersion := old }
  | _, _ => [{ name := "Creating symlink to latest version", items := [call fail] }]

/-- The playbook {lit}`clusterDownGradeVersion`. -/
def clusterDownGradeVersion (inv : Inventory) (v : Vars) : List KafkaPlay :=
  [{ inv.onBrokers (checkOldVersion v) with anyErrorsFatal := true },
    inv.rolling (revertSymlink v ++ restartAndCheck v (whenChanged "kafkaSymlinkStatus"))]

/-! ## The development inventory -/

/-- The group variables of the development inventory. -/
def developmentVars : Vars where
  javaVersion := 11
  useSystemFirewall := false
  kafkaInstallDir := "/kafka"
  kafkaDataDir := "/kafka/kafka-data"
  kafkaLogDir := "/kafka/kafka-logs"
  kafkaGcLogs := true
  kafkaGcLogsLocation := "/kafka/kafka-logs"
  kafkaGcLogFileCount := "5"
  kafkaGcLogFileSize := "10M"
  kafkaXms := "2048m"
  kafkaXmx := "2048m"
  kafkaPort := "9092"
  kafkaJmxPort := "9998"
  kafkaZookeeperAddressString := "10.2.122.163:2181,10.2.119.55:2181,10.2.142.107:2181"
  kafkaZookeeperConnectionTimeoutMs := some "10000"
  kafkaClusterName := "kafka-cluster"
  kafkaVersion := "3.3.1"
  kafkaScalaVersion := "2.13"
  kafkaOldVersion := some "3.0.0"
  kafkaOldScalaVersion := some "2.13"
  archive := fun _ => none
  kafkaDefaultReplicationFactor := some "3"
  kafkaMinInsyncReplicas := some "2"
  kafkaBackgroundThread := some "10"
  kafkaMessagesMaxBytes := some "1000012"
  kafkaReplicaFetchMaxBytes := some "2000000"
  kafkaQuededMaxRequests := some "500"
  kafkaNumReplicaFetchers := some "1"
  kafkaNumNetworkThreads := some "6"
  kafkaNumIoThreads := some "8"
  kafkaSocketSendBufferBytes := some "102400"
  kafkaSocetReceiveBufferBytes := some "102400"
  kafkaSocetRequestMaxBytes := some "104857600"
  kafkaNumPartitions := some "1"
  kafkaNumRecoveryThreadsPerDataDir := some "1"
  kafkaOffsetsTopicReplicationFactor := some "3"
  kafkaTransactionStateLogReplicationFactor := some "3"
  kafkaTransactionStateLogMinIsr := some "3"
  kafkaLogFlushIntervalMessages := some "10000"
  kafkaLogFlushIntervalMs := some "1000"
  kafkaLogRetentionHours := some "168"
  kafkaLogSegmentBytes := some "2073741824"
  kafkalogRetentionCheckIntervalMs := some "300000"
  kafkaGroupInitRebalanceDelayMs := some "3"

/-- The brokers of the development inventory. -/
def developmentInventory : Inventory where
  clusterNodes := ["10.2.122.163", "10.2.119.55", "10.2.142.107"]
  nodup_nodes := by decide
  clusterAddNodes := []
  nodup_added := List.nodup_nil
  localhost := "localhost"
  hostvars := fun h => ⟨h, some "1"⟩

/-- A broker that runs files rendered from the given variables. -/
def configuredNode (inv : Inventory) (v : Vars) (h : Host) : KafkaNode where
  dirs := fun d =>
    if d = v.versionDir then some ⟨true, fun f => render inv v f h⟩ else none
  live := some v.versionDir
  uploads := fun _ => false
  process := some fun f => render inv v f h
  openPorts := v.ports
  regs := fun _ => none
  starts := []

/-- It has on its disk what it runs. -/
theorem configuredNode_process (inv : Inventory) (v : Vars) (h : Host) :
    (configuredNode inv v h).process = some (configuredNode inv v h).disk := by
  have hdir : (configuredNode inv v h).dirs v.versionDir =
      some ⟨true, fun f => render inv v f h⟩ := if_pos rfl
  have hdisk : (configuredNode inv v h).disk = fun f => render inv v f h := by
    funext f
    change ((configuredNode inv v h).dirs v.versionDir).bind _ = _
    rw [hdir, Option.bind_some]
  rw [hdisk, configuredNode]

/-- Everything goes well, and restarted brokers open their ports. -/
def allGood (_ : State Host KafkaNode Choice) (_ : Host) : Choice :=
  Choice.good developmentVars.ports

/-- No port opens after a restart, and the first port check finds that out. -/
def noPortOpens (s : State Host KafkaNode Choice) (h : Host) : Choice :=
  if (s.nodes h).openPorts = [] ∧ s.tasks.length ≤ 1 then Choice.bad else Choice.good []

end Kafka
end ClusterPlaybooks
