import ClusterPlaybooks.Ansible.Schedule
import ClusterPlaybooks.Kafka.Playbooks
import ClusterPlaybooks.Service.Decommission
import ClusterPlaybooks.ZooKeeper.Playbooks

/-!
# Removing nodes from the clusters

The playbooks {lit}`clusterRemoveNodes` of Kafka and ZooKeeper stop the service of a node, wait
for its ports to be closed, and remove its directories, among them the one with its data.  The
order of the tasks is right, but the play ignores errors.  A node whose service cannot be
stopped and whose ports stay open loses its data while the service runs.

Main results:

- Theorem {lit}`data_removed_after_checks`: in both playbooks, the data of a node on which no
  required check fails is removed only after all of them have succeeded.
- Theorem {lit}`running_broker_loses_data`: a run that removes the data of a running broker.
-/

namespace ClusterPlaybooks

open Ansible
open Service
open Text

/-- The group {lit}`clusterRemoveNodes`, and the controller. -/
structure RemoveNodes where
  clusterRemoveNodes : List String
  nodup : clusterRemoveNodes.Nodup
  localhost : String

/-! ## Kafka -/

namespace Kafka

/-- A task of the playbook. -/
abbrev LeavingTask := Task Host (Leaving KafkaFile ConfigFile) Choice

/-- A play of the playbook. -/
abbrev LeavingPlay := Play Host (Leaving KafkaFile ConfigFile) Choice

/-- The services the role stops. -/
def relatedServices : List String :=
  ["kafka", "awslogsd"]

/--
The paths the role removes.  The directory of the old version is named with its two version
numbers the other way round.
-/
def Vars.removedPaths (v : Vars) : Option (List String) :=
  match v.kafkaOldVersion, v.kafkaOldScalaVersion with
  | some old, some oldScala =>
      some [v.kafkaInstallDir ++ "/kafka", v.kafkaDataDir, v.kafkaLogDir, v.versionDir,
        v.kafkaInstallDir ++ "/kafka_" ++ old ++ "-" ++ oldScala,
        v.kafkaInstallDir ++ "/jmxMonitor", "/usr/lib/systemd/system/kafka.service"]
  | _, _ => none

/-- The tasks of the role {lit}`decomissionNodes` after its checks. -/
def cleanUp (v : Vars) : List LeavingTask :=
  [removing "Removing data & log dirs related to installation" (v.kafkaInstallDir ++ "/kafka")
      v.removedPaths,
    silent "remove kafka cron",
    silent "unmount kafka ebs volume"]

/-- The role {lit}`decomissionNodes`. -/
def decomissionNodes (v : Vars) : List LeavingTask :=
  (relatedServices.map fun serviceName => (Check.stopped serviceName).task "kafka") ++
    ([v.kafkaPort, v.kafkaJmxPort].map fun port => (Check.closed port).task "kafka") ++
    cleanUp v

/-- The playbook {lit}`clusterRemoveNodes`. -/
def clusterRemoveNodes (g : RemoveNodes) (v : Vars) : List LeavingPlay :=
  [controllerPlay g.localhost "reassign partitions to other nodes if any",
    removalPlay g.clusterRemoveNodes g.nodup (decomissionNodes v)]

/-- The state before a run of the playbook. -/
def startRemoval (g : RemoveNodes) (v : Vars) (nodes : Host → KafkaNode) :
    State Host (Leaving KafkaFile ConfigFile) Choice :=
  start (clusterRemoveNodes g v) fun h => (nodes h).leave

/-- Stopping Kafka, and the checks that its ports are closed. -/
def Vars.requiredChecks (v : Vars) : List Check :=
  [.stopped "kafka", .closed v.kafkaPort, .closed v.kafkaJmxPort]

/-- The playbook as one that makes checks before it removes paths. -/
def removal (g : RemoveNodes) (v : Vars) : Removal Host KafkaFile ConfigFile where
  pauses := [(g.localhost, "reassign partitions to other nodes if any")]
  hosts := g.clusterRemoveNodes
  nodup := g.nodup
  own := "kafka"
  checks := [.stopped "kafka", .stopped "awslogsd", .closed v.kafkaPort, .closed v.kafkaJmxPort]
  later := cleanUp v
  later_silent := by
    intro a ha
    simp only [cleanUp, List.flatMap_cons, List.flatMap_nil, List.append_nil, List.mem_append] at ha
    rcases ha with ha | ha | ha
    · exact removing_silent a ha
    · exact ⟨noEffect, List.mem_singleton.mp ha⟩
    · exact ⟨noEffect, List.mem_singleton.mp ha⟩

/-- The playbook starts as one that makes checks first. -/
theorem startRemoval_eq (g : RemoveNodes) (v : Vars) (nodes : Host → KafkaNode) :
    startRemoval g v nodes = (removal g v).start nodes :=
  rfl

/-- The required checks are checks of the playbook. -/
theorem requiredChecks_subset (g : RemoveNodes) (v : Vars) :
    v.requiredChecks ⊆ (removal g v).checks := by
  simp [Vars.requiredChecks, removal]

end Kafka

/-! ## ZooKeeper -/

namespace ZooKeeper

/-- A task of the playbook. -/
abbrev LeavingTask := Task Host (Leaving ConfFile ConfigFile) Choice

/-- A play of the playbook. -/
abbrev LeavingPlay := Play Host (Leaving ConfFile ConfigFile) Choice

/-- The services the role stops. -/
def relatedServices : List String :=
  ["zookeeper", "awslogsd"]

/-- The paths the role removes. -/
def Vars.removedPaths (v : Vars) : Option (List String) :=
  v.zookeeperOldVersion.map fun old =>
    [v.zookeeperInstallDir ++ "/zookeeper", v.versionDir,
      v.zookeeperInstallDir ++ "/zookeeper-" ++ old, v.zookeeperDataDir, v.zookeeperLogDir,
      v.zookeeperInstallDir ++ "/zooki.py"]

/-- The tasks of the role {lit}`decomissionNodes` after its checks. -/
def cleanUp (v : Vars) : List LeavingTask :=
  [removing "Removing data & log dirs related to installation"
      (v.zookeeperInstallDir ++ "/zookeeper") v.removedPaths,
    silent "deleting zookeeper user",
    silent "deleting zookeeper group",
    silent "remove zookeeper cron",
    removing "remove zookeeper systemd file" (v.zookeeperInstallDir ++ "/zookeeper")
      (some ["/usr/lib/systemd/system/zookeeper.service"]),
    silent "unmount zookeeper ebs volume"]

/-- The role {lit}`decomissionNodes`. -/
def decomissionNodes (v : Vars) : List LeavingTask :=
  (relatedServices.map fun serviceName => (Check.stopped serviceName).task "zookeeper") ++
    ([v.zookeeperClientPort].map fun port => (Check.closed port).task "zookeeper") ++
    cleanUp v

/-- The playbook {lit}`clusterRemoveNodes`. -/
def clusterRemoveNodes (g : RemoveNodes) (v : Vars) : List LeavingPlay :=
  [removalPlay g.clusterRemoveNodes g.nodup (decomissionNodes v)]

/-- The state before a run of the playbook. -/
def startRemoval (g : RemoveNodes) (v : Vars) (nodes : Host → ZkNode) :
    State Host (Leaving ConfFile ConfigFile) Choice :=
  start (clusterRemoveNodes g v) fun h => (nodes h).leave

/-- Stopping ZooKeeper, and the check that its port is closed. -/
def Vars.requiredChecks (v : Vars) : List Check :=
  [.stopped "zookeeper", .closed v.zookeeperClientPort]

/-- The playbook as one that makes checks before it removes paths. -/
def removal (g : RemoveNodes) (v : Vars) : Removal Host ConfFile ConfigFile where
  pauses := []
  hosts := g.clusterRemoveNodes
  nodup := g.nodup
  own := "zookeeper"
  checks := [.stopped "zookeeper", .stopped "awslogsd", .closed v.zookeeperClientPort]
  later := cleanUp v
  later_silent := by
    intro a ha
    simp only [cleanUp, List.flatMap_cons, List.flatMap_nil, List.append_nil, List.mem_append] at ha
    rcases ha with ha | ha | ha | ha | ha | ha
    · exact removing_silent a ha
    · exact ⟨noEffect, List.mem_singleton.mp ha⟩
    · exact ⟨noEffect, List.mem_singleton.mp ha⟩
    · exact ⟨noEffect, List.mem_singleton.mp ha⟩
    · exact removing_silent a ha
    · exact ⟨noEffect, List.mem_singleton.mp ha⟩

/-- The playbook starts as one that makes checks first. -/
theorem startRemoval_eq (g : RemoveNodes) (v : Vars) (nodes : Host → ZkNode) :
    startRemoval g v nodes = (removal g v).start nodes :=
  rfl

/-- The required checks are checks of the playbook. -/
theorem requiredChecks_subset (g : RemoveNodes) (v : Vars) :
    v.requiredChecks ⊆ (removal g v).checks := by
  simp [Vars.requiredChecks, removal]

end ZooKeeper

/-! ## Both playbooks -/

/--
In every run of the two playbooks, with nodes that may come back by themselves at any moment,
the data directory of a node on which no required check fails is removed only after stopping
the service and every check of its ports have succeeded on this node and in this run.
-/
theorem data_removed_after_checks (g : RemoveNodes) (h : String) :
    (∀ (v : Kafka.Vars) (nodes : String → Kafka.KafkaNode)
        (es : List (Event String Choice (List String))) s,
      Lawful Leaving.selfRestart (ChecksPass "kafka" v.requiredChecks h)
        (Kafka.startRemoval g v nodes) es →
      run Leaving.selfRestart (Kafka.startRemoval g v nodes) es = some s →
      RemovedAfterChecks v.kafkaDataDir v.requiredChecks (nodes h) (s.nodes h)) ∧
    ∀ (v : ZooKeeper.Vars) (nodes : String → ZooKeeper.ZkNode)
        (es : List (Event String Choice (List String))) s,
      Lawful Leaving.selfRestart (ChecksPass "zookeeper" v.requiredChecks h)
        (ZooKeeper.startRemoval g v nodes) es →
      run Leaving.selfRestart (ZooKeeper.startRemoval g v nodes) es = some s →
      RemovedAfterChecks v.zookeeperDataDir v.requiredChecks (nodes h) (s.nodes h) := by
  refine ⟨?_, ?_⟩
  · intro v nodes es s hlaw hrun
    rw [Kafka.startRemoval_eq] at hlaw hrun
    exact removal_after_checks aloof_selfRestart (Kafka.requiredChecks_subset g v) hlaw hrun _
  · intro v nodes es s hlaw hrun
    rw [ZooKeeper.startRemoval_eq] at hlaw hrun
    exact removal_after_checks aloof_selfRestart (ZooKeeper.requiredChecks_subset g v) hlaw
      hrun _

/-! ## Runs on one broker -/

/-- One broker is to be removed. -/
def oneBroker : RemoveNodes where
  clusterRemoveNodes := ["54.84.131.96"]
  nodup := by decide
  localhost := "localhost"

/-- A running broker with its data directory. -/
def dataBroker (_ : String) : Kafka.KafkaNode where
  dirs := fun d =>
    if d = "/kafka/kafka-data" ∨ d = "/kafka/kafka_2.13-3.3.1" then some ⟨true, fun _ => none⟩
    else none
  live := some "/kafka/kafka_2.13-3.3.1"
  uploads := fun _ => false
  process := some fun _ => none
  openPorts := ["9092", "9998"]
  regs := fun _ => none
  starts := []

/-- Everything goes well. -/
def passesChecks (_ : State String (Leaving Kafka.KafkaFile ConfigFile) Choice) (_ : String) :
    Choice :=
  Choice.good []

/-- The four checks of the role fail, and everything else goes well. -/
def failsChecks (s : State String (Leaving Kafka.KafkaFile ConfigFile) Choice) (_ : String) :
    Choice :=
  if 3 ≤ s.tasks.length ∧ s.tasks.length ≤ 6 then Choice.bad else Choice.good []

/-- The state before the broker is removed. -/
def brokerStart : State String (Leaving Kafka.KafkaFile ConfigFile) Choice :=
  Kafka.startRemoval oneBroker Kafka.developmentVars dataBroker

/-- A run in which everything goes well removes the data after all checks have succeeded. -/
theorem data_removed_after_checks_broker :
    (drive passesChecks 40 brokerStart).succeeded = true ∧
      (((drive passesChecks 40 brokerStart).nodes "54.84.131.96").node.dirs
        "/kafka/kafka-data").isNone = true ∧
      RemovedAfterChecks "/kafka/kafka-data" Kafka.developmentVars.requiredChecks
        (dataBroker "54.84.131.96") ((drive passesChecks 40 brokerStart).nodes "54.84.131.96") := by
  refine ⟨by decide +kernel, by decide +kernel, ?_⟩
  have hpass : ∀ s h, ChecksPass "kafka" Kafka.developmentVars.requiredChecks "54.84.131.96" s h
      (passesChecks s h) := by
    intro s h _ c _ _ hfailed
    cases hfailed
  exact (data_removed_after_checks oneBroker "54.84.131.96").1 Kafka.developmentVars dataBroker
    (follow passesChecks 40 brokerStart) _ (lawful_follow hpass 40 brokerStart)
    (run_follow Leaving.selfRestart passesChecks 40 brokerStart)

/--
Stopping the service fails and the ports stay open.  The run goes on, removes the data of the
running broker, and ends as a success.
-/
theorem running_broker_loses_data :
    run Leaving.selfRestart brokerStart (follow failsChecks 40 brokerStart) =
        some (drive failsChecks 40 brokerStart) ∧
      (drive failsChecks 40 brokerStart).succeeded = true ∧
      ((drive failsChecks 40 brokerStart).nodes "54.84.131.96").node.process.isSome = true ∧
      ¬RemovedAfterChecks "/kafka/kafka-data" Kafka.developmentVars.requiredChecks
        (dataBroker "54.84.131.96") ((drive failsChecks 40 brokerStart).nodes "54.84.131.96") := by
  refine ⟨run_follow _ _ _ _, by decide +kernel, by decide +kernel, ?_⟩
  intro hremoved
  have hgone : (((drive failsChecks 40 brokerStart).nodes "54.84.131.96").node.dirs
      "/kafka/kafka-data").isNone = true := by decide +kernel
  have hstopped := hremoved (by decide) (Option.isNone_iff_eq_none.mp hgone) (.stopped "kafka")
    (by decide)
  revert hstopped
  decide +kernel

end ClusterPlaybooks
