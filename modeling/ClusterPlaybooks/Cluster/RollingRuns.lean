import ClusterPlaybooks.Ansible.Schedule
import ClusterPlaybooks.Kafka.Playbooks
import ClusterPlaybooks.Service.Availability
import ClusterPlaybooks.ZooKeeper.Playbooks

/-!
# The rolling playbooks take down one node at a time

Five ZooKeeper and five Kafka playbooks restart nodes of a running cluster.  All of
them are rolling playbooks: what they do to all nodes at once leaves the service
alone, and a restart is followed by a check of all ports under the same condition.

Main results:

- Theorems {lit}`ZooKeeper.rolling_gentle` and {lit}`Kafka.rolling_gentle`: every play
  of these playbooks is of one of the two kinds.
- Theorem {lit}`rolling_runs_available`: at every moment of every run at most one
  node is not serving.
-/

namespace ClusterPlaybooks

open Ansible
open Service

/-! ## ZooKeeper -/

namespace ZooKeeper

/-- The playbooks that restart the nodes of a running cluster. -/
inductive RollingPlaybook where
  | rollingRestart
  | configsUpdate (zookeeperConfigFile : ConfFile)
  | upgrade
  | migrateToMtls
  | migrateToSasLAuth
deriving DecidableEq, Repr

/-- The plays of a rolling playbook. -/
def RollingPlaybook.plays (inv : Inventory) (v : Vars) : RollingPlaybook → List ZkPlay
  | .rollingRestart => clusterRollingRestart inv v
  | .configsUpdate file => clusterConfigsUpdate inv v file
  | .upgrade => clusterUpgrade inv v
  | .migrateToMtls => clusterMigrateToMtls inv v
  | .migrateToSasLAuth => clusterMigrateToSasLAuth inv v

section Gentle

variable {ε : Type} {env : ε → ZkNode → ZkNode} {inv : Inventory} {v : Vars} {D : Host → Prop}
variable {ports : List String} {h : Host}

/-- A play on the controller leaves the nodes alone. -/
theorem gentle_onLocalhost {title : String} : Gentle env ports D (inv.onLocalhost title) :=
  gentle_onAll fun _ _ => by simp

/-- A rolling play of harmless tasks, a restart, and a check of the client port. -/
theorem gentle_rolling (henv : Undisturbed env) {cond : Host → ZkNode → Option Bool}
    (hcond : ByRegisters cond) (tasks : List ZkTask)
    (hkeep : ∀ h, TasksKeep h (Node.serves [v.zookeeperClientPort]) tasks) :
    Gentle env [v.zookeeperClientPort] D (inv.rolling (tasks ++ restartAndCheck v cond)) :=
  gentle_oneByOne henv hcond tasks fun h _ => hkeep h

/-- Writing a configuration file leaves the ports alone. -/
theorem dynamicConfigs_serves {file : ConfFile} :
    (dynamicConfigs inv v file).Keeps h (Node.serves ports) :=
  dynamicConfigs_keeps template_ports.call_keeps

/-- Unpacking and configuring a version leaves the ports alone. -/
theorem prepare_serves :
    TasksKeep h (Node.serves ports) (gatherFacts :: download v ++ configure inv v) := by
  have hdownload : TasksKeep h (Node.serves ports) (download v) :=
    download_keep unarchiveInto_ports.call_keeps fileDirectory_ports.call_keeps
  have hconfigure : TasksKeep h (Node.serves ports) (configure inv v) :=
    configure_keep template_ports.call_keeps fun _ => template_ports.call_keeps
  simp [hdownload, hconfigure]

/-- Editing lines of {lit}`zoo.cfg` leaves the ports alone. -/
theorem zooCfgLine_serves {regexp key value : String} :
    (zooCfgLine v regexp key value).Keeps h (Node.serves ports) :=
  editFile_ports.call_keeps

/-- So does switching an authentication setting on. -/
theorem quorumAuthLine_serves {setting : String} :
    (quorumAuthLine v setting).Keeps h (Node.serves ports) := by
  intro a ha
  cases List.mem_singleton.mp ha
  exact zooCfgLine_serves

/-- Every play of a rolling playbook keeps the nodes serving or brings them back. -/
theorem rolling_gentle (henv : Undisturbed env) (p : RollingPlaybook) :
    ∀ q ∈ p.plays inv v, Gentle env [v.zookeeperClientPort] D q := by
  have hcommon : ∀ h, TasksKeep h (Node.serves [v.zookeeperClientPort]) (common v) :=
    fun h => common_keep fun d => fileDirectory_ports.call_keeps
  cases p with
  | rollingRestart =>
      simp only [RollingPlaybook.plays, clusterRollingRestart, List.forall_mem_singleton]
      exact gentle_rolling henv always_byRegisters [gatherFacts] fun h => by simp
  | configsUpdate file =>
      simp only [RollingPlaybook.plays, clusterConfigsUpdate, List.forall_mem_cons]
      refine ⟨gentle_onAll fun h _ => by simp, ?_, by simp⟩
      exact gentle_rolling henv whenChanged_byRegisters
        [gatherFacts, dynamicConfigs inv v file] fun h => by simp [dynamicConfigs_serves]
  | upgrade =>
      simp only [RollingPlaybook.plays, clusterUpgrade, List.forall_mem_cons]
      refine ⟨gentle_onAll fun h _ => by simp [hcommon h],
        gentle_onAll fun h _ => prepare_serves, gentle_onLocalhost, ?_, by simp⟩
      exact gentle_rolling henv always_byRegisters (createSymlink v) fun h =>
        createSymlink_keep fileLink_ports.call_keeps
  | migrateToMtls =>
      simp only [RollingPlaybook.plays, clusterMigrateToMtls, List.forall_mem_cons]
      refine ⟨gentle_onAll fun h _ => ?_, ?_, gentle_onLocalhost, ?_, gentle_onLocalhost, ?_,
        gentle_onLocalhost, by simp⟩
      · simp [copyFiles_keep fun _ => copy_ports.keeps]
      · exact gentle_rolling henv always_byRegisters [gatherFacts, sslQuorumBasicSettings v]
          fun h => by simp [sslQuorumBasicSettings, zooCfgLine_serves]
      · exact gentle_rolling henv always_byRegisters
          [gatherFacts, dynamicConfigs inv (v.withTls "true") .zooCfg] fun h => by
            simp [dynamicConfigs_serves]
      · exact gentle_rolling henv always_byRegisters
          [gatherFacts, dynamicConfigs inv (v.withTls "false") .zooCfg] fun h => by
            simp [dynamicConfigs_serves]
  | migrateToSasLAuth =>
      simp only [RollingPlaybook.plays, clusterMigrateToSasLAuth, List.forall_mem_cons]
      refine ⟨?_, ?_, ?_, by simp⟩
      · exact gentle_rolling henv always_byRegisters
          [gatherFacts, dynamicConfigs inv v .jaasConf, dynamicConfigs inv v.withSasl .javaEnv,
            quorumAuthLine v "enableSasl"] fun h => by
            simp [dynamicConfigs_serves, quorumAuthLine_serves]
      · exact gentle_rolling henv always_byRegisters
          [gatherFacts, quorumAuthLine v "learnerRequireSasl"] fun h => by
            simp [quorumAuthLine_serves]
      · exact gentle_rolling henv always_byRegisters
          [gatherFacts, dynamicConfigs inv v.withSasl .zooCfg] fun h => by
            simp [dynamicConfigs_serves]

end Gentle

end ZooKeeper

/-! ## Kafka -/

namespace Kafka

/-- The playbooks that restart the brokers of a running cluster. -/
inductive RollingPlaybook where
  | rollingRestart
  | brokerProperties
  | jvmConfigs
  | logging
  | upgrade
deriving DecidableEq, Repr

/-- The plays of a rolling playbook. -/
def RollingPlaybook.plays (inv : Inventory) (v : Vars) : RollingPlaybook → List KafkaPlay
  | .rollingRestart => clusterRollingRestart inv v
  | .brokerProperties => clusterBrokerProperties inv v
  | .jvmConfigs => clusterJvmConfigs inv v
  | .logging => clusterLogging inv v
  | .upgrade => clusterUpgrade inv v

section Gentle

variable {ε : Type} {env : ε → KafkaNode → KafkaNode} {inv : Inventory} {v : Vars}
variable {D : Host → Prop} {ports : List String} {h : Host}

/-- A rolling play of harmless tasks, a restart, and a check of both ports. -/
theorem gentle_rolling (henv : Undisturbed env) {cond : Host → KafkaNode → Option Bool}
    (hcond : ByRegisters cond) (tasks : List KafkaTask)
    (hkeep : ∀ h, TasksKeep h (Node.serves v.ports) tasks) :
    Gentle env v.ports D (inv.rolling (tasks ++ restartAndCheck v cond)) :=
  gentle_oneByOne henv hcond tasks fun h _ => hkeep h

/-- A rolling play that writes one file and restarts the brokers on which it changed. -/
theorem gentle_update (henv : Undisturbed env) {file : KafkaFile} {name reg status : String} :
    Gentle env v.ports D (inv.rolling (gatherFacts ::
      { name := name
        items := [call (template v.versionDir file (render inv v file) (some reg))] } ::
      restartAndCheck v (whenChanged status))) :=
  gentle_rolling henv whenChanged_byRegisters
    [gatherFacts, ⟨name, [call (template v.versionDir file (render inv v file) (some reg))]⟩]
    fun h => by simp [template_ports.call_keeps]

/-- Every play of a rolling playbook keeps the brokers serving or brings them back. -/
theorem rolling_gentle (henv : Undisturbed env) (p : RollingPlaybook) :
    ∀ q ∈ p.plays inv v, Gentle env v.ports D q := by
  cases p with
  | rollingRestart =>
      simp only [RollingPlaybook.plays, clusterRollingRestart, List.forall_mem_singleton]
      exact gentle_rolling henv always_byRegisters [gatherFacts] fun h => by simp
  | brokerProperties =>
      simp only [RollingPlaybook.plays, clusterBrokerProperties, List.forall_mem_singleton]
      exact gentle_update henv
  | jvmConfigs =>
      simp only [RollingPlaybook.plays, clusterJvmConfigs, List.forall_mem_singleton]
      exact gentle_update henv
  | logging =>
      simp only [RollingPlaybook.plays, clusterLogging, List.forall_mem_singleton]
      exact gentle_update henv
  | upgrade =>
      have hcommon : ∀ h, TasksKeep h (Node.serves v.ports) (common v) :=
        fun h => common_keep fun d => fileDirectory_ports.call_keeps
      have hdownload : ∀ h, TasksKeep h (Node.serves v.ports) (download v) :=
        fun h => download_keep unarchiveBeside_ports.call_keeps fileDirectory_ports.call_keeps
      have hconfigure : ∀ h, TasksKeep h (Node.serves v.ports) (configure inv v) :=
        fun h => configure_keep fun _ _ => template_ports.call_keeps
      simp only [RollingPlaybook.plays, clusterUpgrade, List.forall_mem_cons]
      refine ⟨gentle_onAll fun h _ => by simp [hcommon h],
        gentle_onAll fun h _ => by simp [hdownload h, hconfigure h],
        gentle_onAll fun h _ => by simp, ?_, by simp⟩
      exact gentle_rolling henv always_byRegisters (createSymlink v) fun h =>
        createSymlink_keep fileLink_ports.call_keeps

end Gentle

end Kafka

/-! ## Every run -/

/--
At every moment of every run of a rolling playbook at most one node is not serving,
and all nodes are after an end without a failure in a rolling play.
-/
theorem rolling_runs_available :
    (∀ (p : ZooKeeper.RollingPlaybook) (inv : ZooKeeper.Inventory) (v : ZooKeeper.Vars)
        (ε : Type) (env : ε → ZooKeeper.ZkNode → ZooKeeper.ZkNode)
        (nodes : ZooKeeper.Host → ZooKeeper.ZkNode)
        (es : List (Event ZooKeeper.Host Choice ε))
        (s : State ZooKeeper.Host ZooKeeper.ZkNode Choice),
      Undisturbed env → (∀ h ∈ inv.clusterNodes, (nodes h).serves [v.zookeeperClientPort]) →
      run env (start (p.plays inv v) nodes) es = some s →
      Available [v.zookeeperClientPort] (fun h => h ∈ inv.clusterNodes) s) ∧
    (∀ (p : Kafka.RollingPlaybook) (inv : Kafka.Inventory) (v : Kafka.Vars)
        (ε : Type) (env : ε → Kafka.KafkaNode → Kafka.KafkaNode)
        (nodes : Kafka.Host → Kafka.KafkaNode)
        (es : List (Event Kafka.Host Choice ε)) (s : State Kafka.Host Kafka.KafkaNode Choice),
      Undisturbed env → (∀ h ∈ inv.hosts, (nodes h).serves v.ports) →
      run env (start (p.plays inv v) nodes) es = some s →
      Available v.ports (fun h => h ∈ inv.hosts) s) := by
  constructor
  · intro p inv v ε env nodes es s henv hnodes hrun
    exact rolling_available henv (ZooKeeper.rolling_gentle henv p) hnodes hrun
  · intro p inv v ε env nodes es s henv hnodes hrun
    exact rolling_available henv (Kafka.rolling_gentle henv p) hnodes hrun

/-- The second broker does not open its JMX port after the restart. -/
def jmxPortMissing (s : State Kafka.Host Kafka.KafkaNode Choice) (h : Kafka.Host) : Choice :=
  if h = "10.2.119.55" then
    if (s.nodes h).openPorts = ["9092"] ∧ s.tasks.isEmpty then Choice.bad
    else Choice.good ["9092"]
  else Choice.good Kafka.developmentVars.ports

/-- The end of an upgrade of the development cluster in which this happens. -/
def brokenUpgrade : State Kafka.Host Kafka.KafkaNode Choice :=
  drive jmxPortMissing 400
    (start (Kafka.clusterUpgrade Kafka.developmentInventory Kafka.developmentVars)
      (Kafka.configuredNode Kafka.developmentInventory Kafka.developmentVars))

/-- The end of a rolling restart of the ZooKeeper development cluster. -/
def restartedCluster : State ZooKeeper.Host ZooKeeper.ZkNode Choice :=
  drive (fun _ _ => Choice.good ["2181"]) 100
    (start (ZooKeeper.clusterRollingRestart ZooKeeper.developmentInventory
        ZooKeeper.developmentVars)
      (ZooKeeper.configuredNode ZooKeeper.developmentInventory ZooKeeper.developmentVars))

/-- These runs exist. -/
theorem restarted_and_broken_run :
    (∃ es : List (Event ZooKeeper.Host Choice Empty),
      run calm (start (ZooKeeper.RollingPlaybook.rollingRestart.plays
          ZooKeeper.developmentInventory ZooKeeper.developmentVars)
        (ZooKeeper.configuredNode ZooKeeper.developmentInventory ZooKeeper.developmentVars))
        es = some restartedCluster) ∧
    (∃ es : List (Event Kafka.Host Choice Empty),
      run calm (start (Kafka.RollingPlaybook.upgrade.plays Kafka.developmentInventory
          Kafka.developmentVars)
        (Kafka.configuredNode Kafka.developmentInventory Kafka.developmentVars))
        es = some brokenUpgrade) :=
  ⟨⟨_, run_follow calm _ 100 _⟩, ⟨_, run_follow calm _ 400 _⟩⟩

/--
A rolling restart of the ZooKeeper development cluster ends with all nodes serving.
The broken upgrade of the Kafka development cluster is aborted with exactly one broker
down.
-/
theorem rolling_runs_available_development :
    (restartedCluster.ended = true ∧
      ∀ h ∈ ZooKeeper.developmentInventory.clusterNodes,
        (restartedCluster.nodes h).serves ["2181"]) ∧
    (brokenUpgrade.aborted = true ∧
      ∀ h ∈ Kafka.developmentInventory.hosts,
        ¬(brokenUpgrade.nodes h).serves ["9092", "9998"] ↔ h = "10.2.119.55") := by
  rcases restarted_and_broken_run with ⟨⟨es, hrestart⟩, ⟨fs, hupgrade⟩⟩
  have hzk := rolling_runs_available.1 .rollingRestart ZooKeeper.developmentInventory
    ZooKeeper.developmentVars Empty calm _ es restartedCluster undisturbed_calm (by decide)
    hrestart
  have hkafka := rolling_runs_available.2 .upgrade Kafka.developmentInventory
    Kafka.developmentVars Empty calm _ fs brokenUpgrade undisturbed_calm (by decide) hupgrade
  have hended : restartedCluster.ended = true := by decide +kernel
  have hfailures : restartedCluster.fresh = [] := by decide +kernel
  have hmember : "10.2.119.55" ∈ Kafka.developmentInventory.hosts := by decide
  have hdown : ¬(brokenUpgrade.nodes "10.2.119.55").serves ["9092", "9998"] := by
    decide +kernel
  refine ⟨⟨hended, hzk.all_up hended fun _ => hfailures⟩, by decide +kernel, ?_⟩
  intro h hh
  constructor
  · intro hserves
    exact hkafka.one_down h _ hh hmember hserves hdown
  · rintro rfl
    exact hdown

end ClusterPlaybooks
