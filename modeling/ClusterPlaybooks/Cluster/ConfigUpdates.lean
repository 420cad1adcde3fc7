import ClusterPlaybooks.Kafka.Playbooks
import ClusterPlaybooks.Service.InterruptedUpdate
import ClusterPlaybooks.ZooKeeper.Playbooks

/-!
# The configuration updates of both services

Three Kafka playbooks and one ZooKeeper playbook update a configuration file.  All four
restart a node only if its file changed in the same run.

Main results:

- Theorem {lit}`bad_config_one_down_iff`: for which clusters and numbers of runs a bad
  configuration takes down at most one node.
- Theorem {lit}`retried_update_two_down`: a retried update that takes down two brokers.
- Theorem {lit}`config_update_running_iff`: after which earlier runs an update without failures
  leaves all nodes running the new configuration.
- Theorem {lit}`interrupted_update_not_running`: a successful update after which a broker
  still runs the old configuration.
-/

namespace ClusterPlaybooks

open Ansible
open Service
open Text

/-! ## The four playbooks -/

namespace Kafka

/-- The playbooks that update one file. -/
inductive ConfigPlaybook where
  | brokerProperties
  | jvmConfigs
  | logging
deriving DecidableEq, Repr

/-- The plays of the playbook. -/
def ConfigPlaybook.plays (inv : Inventory) (v : Vars) : ConfigPlaybook → List KafkaPlay
  | .brokerProperties => clusterBrokerProperties inv v
  | .jvmConfigs => clusterJvmConfigs inv v
  | .logging => clusterLogging inv v

/-- The file the playbook writes. -/
def ConfigPlaybook.file : ConfigPlaybook → KafkaFile
  | .brokerProperties => .brokerProperties
  | .jvmConfigs => .serverStart
  | .logging => .log4jProperties

/-- The task that writes it. -/
def ConfigPlaybook.title : ConfigPlaybook → String
  | .jvmConfigs => "Creating kafka JVM configurations | kafka-server-start.sh"
  | _ => "Creating kafka configurations"

/-- The name under which the task registers its result. -/
def ConfigPlaybook.reg : ConfigPlaybook → String
  | .jvmConfigs => "jvmConfigStatus"
  | _ => "configStatus"

/-- The playbook as an update. -/
def ConfigPlaybook.update (p : ConfigPlaybook) (inv : Inventory) (v : Vars) :
    UpdatePlaybook Host KafkaFile ConfigFile where
  hosts := inv.hosts
  nodup := inv.nodup_hosts
  before := []
  title := p.title
  dir := v.versionDir
  file := p.file
  render := render inv v p.file
  reg := p.reg
  serviceName := "kafka"
  ports := v.ports
  ports_ne := by simp [Vars.ports]

/-- Its plays are those of the playbook. -/
theorem update_plays (p : ConfigPlaybook) (inv : Inventory) (v : Vars) :
    (p.update inv v).plays = p.plays inv v := by
  cases p <;> rfl

end Kafka

namespace ZooKeeper

/-- The playbook {lit}`clusterConfigsUpdate` as an update. -/
def configsUpdate (inv : Inventory) (v : Vars) (zookeeperConfigFile : ConfFile) :
    UpdatePlaybook Host ConfFile ConfigFile where
  hosts := inv.clusterNodes
  nodup := inv.nodup
  before := [[("Gathering Facts", 1),
    ("make sure gather facts is triggered on all nodes required for zoo.cfg", 1)]]
  title := "Creating zookeeper configurations"
  dir := v.versionDir
  file := zookeeperConfigFile
  render := render inv v zookeeperConfigFile
  reg := "configStatus"
  serviceName := "zookeeper"
  ports := [v.zookeeperClientPort]
  ports_ne := by simp

/-- It gathers the facts of all nodes first. -/
theorem configsUpdate_before (inv : Inventory) (v : Vars) (file : ConfFile) :
    (configsUpdate inv v file).before = [[("Gathering Facts", 1)] ++
      [("make sure gather facts is triggered on all nodes required for zoo.cfg", 1)]] :=
  rfl

/-- Its plays are those of the playbook. -/
theorem configsUpdate_plays (inv : Inventory) (v : Vars) (file : ConfFile) :
    (configsUpdate inv v file).plays = clusterConfigsUpdate inv v file :=
  rfl

end ZooKeeper

/-! ## Bad configurations -/

/--
With a configuration no node can serve with, at most one node is ever down in at most
{lit}`r` runs of the update exactly if {lit}`r` is at most one or the files of at most one
node differ from the new configuration.  For Kafka this is about the brokers before the
first one on which the file cannot be written.  ZooKeeper can lose such nodes in its first
play, so it is about all nodes on which it can.
-/
theorem bad_config_one_down_iff (r : Nat) :
    (∀ (p : Kafka.ConfigPlaybook) (inv : Kafka.Inventory) (v : Kafka.Vars)
        (nodes : Kafka.Host → Kafka.KafkaNode),
      (∀ h ∈ inv.hosts, (nodes h).serves v.ports) →
      ((∀ ls, RefusedRuns (p.update inv v) ls → ls.length ≤ r →
          OneEverDown (p.update inv v) nodes ls) ↔
        r ≤ 1 ∨ AtMostOneDiffers (p.update inv v) ((p.update inv v).reached nodes) nodes)) ∧
    (∀ (file : ZooKeeper.ConfFile) (inv : ZooKeeper.Inventory) (v : ZooKeeper.Vars)
        (nodes : ZooKeeper.Host → ZooKeeper.ZkNode),
      (∀ h ∈ inv.clusterNodes, (nodes h).serves [v.zookeeperClientPort]) →
      ((∀ ls, RefusedRuns (ZooKeeper.configsUpdate inv v file) ls → ls.length ≤ r →
          OneEverDown (ZooKeeper.configsUpdate inv v file) nodes ls) ↔
        r ≤ 1 ∨ AtMostOneDiffers (ZooKeeper.configsUpdate inv v file)
          ((ZooKeeper.configsUpdate inv v file).writable nodes) nodes)) := by
  constructor
  · intro p inv v nodes hserves
    exact one_ever_down_iff r rfl hserves
  · intro file inv v nodes hserves
    exact one_ever_down_iff_writable r (ZooKeeper.configsUpdate_before inv v file) hserves

/-! ### A Kafka cluster that is given too much memory -/

namespace Kafka

/-- A heap that is larger than the machines. -/
def oversizedVars : Vars :=
  { developmentVars with kafkaXms := "512g", kafkaXmx := "512g" }

/-- The end of the first run of the update with the oversized heap. -/
def firstTry : State Host KafkaNode Choice :=
  drive noPortOpens 60 (launch Node.forget (clusterJvmConfigs developmentInventory oversizedVars)
    (configuredNode developmentInventory developmentVars))

/-- The end of the second run. -/
def secondTry : State Host KafkaNode Choice :=
  drive noPortOpens 60 (launch Node.forget (clusterJvmConfigs developmentInventory oversizedVars)
    firstTry.nodes)

/-- The two runs as a history. -/
def twoTries : List (Launch Host KafkaNode Choice Empty) :=
  [⟨clusterJvmConfigs developmentInventory oversizedVars,
      follow noPortOpens 60 (launch Node.forget
        (clusterJvmConfigs developmentInventory oversizedVars)
        (configuredNode developmentInventory developmentVars))⟩,
    ⟨clusterJvmConfigs developmentInventory oversizedVars,
      follow noPortOpens 60 (launch Node.forget
        (clusterJvmConfigs developmentInventory oversizedVars) firstTry.nodes)⟩]

/-- No start in these runs opens a port. -/
theorem twoTries_refused :
    RefusedRuns (ConfigPlaybook.jvmConfigs.update developmentInventory oversizedVars)
      twoTries := by
  have hchoice : ∀ s h, Refuses oversizedVars.ports (noPortOpens s h) := by
    intro s h
    refine ⟨"9092", by decide, ?_⟩
    unfold noPortOpens
    split <;> simp [Choice.bad, Choice.good]
  constructor
  · intro l hl
    simp only [twoTries, List.mem_cons, List.not_mem_nil, or_false] at hl
    rcases hl with rfl | rfl <;> rfl
  · intro l hl h x hx
    simp only [twoTries, List.mem_cons, List.not_mem_nil, or_false] at hl
    rcases hl with rfl | rfl
    · rcases mem_follow hx with ⟨s, rfl⟩
      exact hchoice s h
    · rcases mem_follow hx with ⟨s, rfl⟩
      exact hchoice s h

/-- The second run ends a history. -/
theorem secondTry_moment :
    Moment calm Node.forget (configuredNode developmentInventory developmentVars) twoTries
      secondTry :=
  Moment.later (run_follow calm noPortOpens 60 _)
    (Moment.now List.prefix_rfl (run_follow calm noPortOpens 60 _))

/-- All brokers serve before the first run, and two of them are down after the second. -/
theorem retried_update_two_down :
    (∀ h ∈ developmentInventory.hosts,
      (configuredNode developmentInventory developmentVars h).serves oversizedVars.ports) ∧
    RefusedRuns (ConfigPlaybook.jvmConfigs.update developmentInventory oversizedVars)
      twoTries ∧
    ¬OneEverDown (ConfigPlaybook.jvmConfigs.update developmentInventory oversizedVars)
      (configuredNode developmentInventory developmentVars) twoTries := by
  refine ⟨by decide, twoTries_refused, ?_⟩
  intro hone
  have hfst : ¬(secondTry.nodes "10.2.122.163").serves oversizedVars.ports := by decide +kernel
  have hsnd : ¬(secondTry.nodes "10.2.119.55").serves oversizedVars.ports := by decide +kernel
  have heq := hone secondTry secondTry secondTry_moment secondTry_moment "10.2.122.163" (by decide)
    "10.2.119.55" (by decide) hfst hsnd
  exact absurd heq (by decide)

/-- One run with the oversized heap takes down at most one broker; two runs may not. -/
theorem bad_config_one_down_development :
    (∀ ls, RefusedRuns (ConfigPlaybook.jvmConfigs.update developmentInventory oversizedVars) ls →
      ls.length ≤ 1 →
      OneEverDown (ConfigPlaybook.jvmConfigs.update developmentInventory oversizedVars)
        (configuredNode developmentInventory developmentVars) ls) ∧
    ¬∀ ls, RefusedRuns (ConfigPlaybook.jvmConfigs.update developmentInventory oversizedVars) ls →
      ls.length ≤ 2 →
      OneEverDown (ConfigPlaybook.jvmConfigs.update developmentInventory oversizedVars)
        (configuredNode developmentInventory developmentVars) ls := by
  have hiff := fun r => (bad_config_one_down_iff r).1 .jvmConfigs developmentInventory
    oversizedVars (configuredNode developmentInventory developmentVars) (by decide)
  refine ⟨(hiff 1).mpr (Or.inl (Nat.le_refl 1)), ?_⟩
  intro hall
  rcases (hiff 2).mp hall with hr | hone
  · omega
  · have heq := hone "10.2.122.163" (by decide) "10.2.119.55" (by decide) (by decide +kernel)
      (by decide +kernel)
    exact absurd heq (by decide)

end Kafka

/-! ## Interrupted updates -/

/--
After any history of runs of an update, a run without failures leaves all nodes running the new
content exactly if none of the earlier runs with this content was cut on a node between the
template task and the end of the restart, or a later one has written another content there.
-/
theorem config_update_running_iff (p : Kafka.ConfigPlaybook) (file : ZooKeeper.ConfFile) :
    (∀ (inv : Kafka.Inventory) (nodes before : Kafka.Host → Kafka.KafkaNode)
        (runs : List (Kafka.Vars × List (Event Kafka.Host Choice Empty))) (v : Kafka.Vars)
        (es : List (Event Kafka.Host Choice Empty))
        (s : State Kafka.Host Kafka.KafkaNode Choice),
      (∀ r ∈ runs, r.1.versionDir = v.versionDir) →
      (∀ h ∈ inv.hosts, (nodes h).live = some v.versionDir) →
      (∀ h ∈ inv.hosts, ((nodes h).dirs v.versionDir).isSome = true) →
      (∀ h ∈ inv.hosts, (nodes h).process = some (nodes h).disk) →
      runAll calm Node.forget nodes (runs.map fun r => ⟨p.plays inv r.1, r.2⟩) = some before →
      run calm (launch Node.forget (p.plays inv v) before) es = some s → s.succeeded = true →
      ((∀ h ∈ inv.hosts, (s.nodes h).running p.file = Kafka.render inv v p.file h) ↔
        ∀ h ∈ inv.hosts, ¬CutOff h (Kafka.render inv v p.file h)
          ((nodes h).copy v.versionDir p.file) (runs.map fun r => (p.update inv r.1, r.2)))) ∧
    (∀ (inv : ZooKeeper.Inventory) (nodes before : ZooKeeper.Host → ZooKeeper.ZkNode)
        (runs : List (ZooKeeper.Vars × List (Event ZooKeeper.Host Choice Empty)))
        (v : ZooKeeper.Vars) (es : List (Event ZooKeeper.Host Choice Empty))
        (s : State ZooKeeper.Host ZooKeeper.ZkNode Choice),
      (∀ r ∈ runs, r.1.versionDir = v.versionDir) →
      (∀ h ∈ inv.clusterNodes, (nodes h).live = some v.versionDir) →
      (∀ h ∈ inv.clusterNodes, ((nodes h).dirs v.versionDir).isSome = true) →
      (∀ h ∈ inv.clusterNodes, (nodes h).process = some (nodes h).disk) →
      runAll calm Node.forget nodes
        (runs.map fun r => ⟨ZooKeeper.clusterConfigsUpdate inv r.1 file, r.2⟩) = some before →
      run calm (launch Node.forget (ZooKeeper.clusterConfigsUpdate inv v file) before) es = some s →
      s.succeeded = true →
      ((∀ h ∈ inv.clusterNodes, (s.nodes h).running file = ZooKeeper.render inv v file h) ↔
        ∀ h ∈ inv.clusterNodes, ¬CutOff h (ZooKeeper.render inv v file h)
          ((nodes h).copy v.versionDir file)
          (runs.map fun r => (ZooKeeper.configsUpdate inv r.1 file, r.2)))) := by
  constructor
  · intro inv nodes before runs v es s hdirs hlive hdir hloaded hall hrun hsucc
    exact playbook_running_iff (f := p.update inv) (v := v) (Kafka.update_plays p inv)
      (fun r hr => ⟨rfl, hdirs r hr, rfl⟩) hlive hdir hloaded hall hrun hsucc
  · intro inv nodes before runs v es s hdirs hlive hdir hloaded hall hrun hsucc
    exact playbook_running_iff (f := fun w => ZooKeeper.configsUpdate inv w file) (v := v)
      (fun w => ZooKeeper.configsUpdate_plays inv w file)
      (fun r hr => ⟨rfl, hdirs r hr, rfl⟩) hlive hdir hloaded hall hrun hsucc

/-! ### An update of the Kafka logging configuration -/

namespace Kafka

/-- A new directory for the logs. -/
def movedLogsVars : Vars :=
  { developmentVars with kafkaLogDir := "/logs/kafka" }

/-- A run of {lit}`clusterLogging` that is cut off before the first broker is restarted. -/
def cutOffUpdate : State Host KafkaNode Choice :=
  drive allGood 6 (launch Node.forget (clusterLogging developmentInventory movedLogsVars)
    (configuredNode developmentInventory developmentVars))

/-- The end of the run after it. -/
def repeatedUpdate : State Host KafkaNode Choice :=
  drive allGood 60 (launch Node.forget (clusterLogging developmentInventory movedLogsVars)
    cutOffUpdate.nodes)

/--
The first broker has the new logging configuration on its disk when the update is
repeated, so it is not restarted and goes on with the old one.
-/
theorem interrupted_update_not_running :
    (∀ h, (configuredNode developmentInventory developmentVars h).process =
      some (configuredNode developmentInventory developmentVars h).disk) ∧
    (∀ h, (configuredNode developmentInventory developmentVars h).live =
      some movedLogsVars.versionDir) ∧
    (∃ es, runAll calm Node.forget (configuredNode developmentInventory developmentVars)
      [⟨ConfigPlaybook.logging.plays developmentInventory movedLogsVars, es⟩] =
        some cutOffUpdate.nodes) ∧
    (∃ es, run calm (launch Node.forget
      (ConfigPlaybook.logging.plays developmentInventory movedLogsVars) cutOffUpdate.nodes) es =
        some repeatedUpdate) ∧
    repeatedUpdate.succeeded = true ∧
    "10.2.122.163" ∈ developmentInventory.hosts ∧
    (repeatedUpdate.nodes "10.2.122.163").running .log4jProperties ≠
      render developmentInventory movedLogsVars .log4jProperties "10.2.122.163" := by
  refine ⟨configuredNode_process _ _, fun _ => rfl, ?_, ?_, by decide +kernel, by decide,
    by decide +kernel⟩
  · refine ⟨follow allGood 6 (launch Node.forget
      (clusterLogging developmentInventory movedLogsVars)
      (configuredNode developmentInventory developmentVars)), ?_⟩
    simp only [runAll, ConfigPlaybook.plays, run_follow, Option.bind_some]
    rfl
  · exact ⟨_, run_follow calm allGood 60 _⟩

/-- Another directory for the logs. -/
def otherLogsVars : Vars :=
  { developmentVars with kafkaLogDir := "/scratch/kafka" }

/-- A run with the other directory, cut off before the first broker is restarted. -/
def otherUpdate : List (Event Host Choice Empty) :=
  follow allGood 6 (launch Node.forget (clusterLogging developmentInventory otherLogsVars)
    (configuredNode developmentInventory developmentVars))

/-- The nodes after it. -/
def otherCutOff : State Host KafkaNode Choice :=
  drive allGood 6 (launch Node.forget (clusterLogging developmentInventory otherLogsVars)
    (configuredNode developmentInventory developmentVars))

/-- The end of the next run, which has the new directory. -/
def plainUpdate : State Host KafkaNode Choice :=
  drive allGood 60 (launch Node.forget (clusterLogging developmentInventory movedLogsVars)
    otherCutOff.nodes)

/--
After a run with another content that was cut off, the next one is successful and leaves all
brokers with the new configuration.
-/
theorem config_update_running_development :
    otherCutOff.succeeded = false ∧ plainUpdate.succeeded = true ∧
    ∀ h ∈ developmentInventory.hosts, (plainUpdate.nodes h).running .log4jProperties =
      render developmentInventory movedLogsVars .log4jProperties h := by
  have hsucc : plainUpdate.succeeded = true := by decide +kernel
  have hall : runAll calm Node.forget (configuredNode developmentInventory developmentVars)
      ([(otherLogsVars, otherUpdate)].map fun r =>
        ⟨ConfigPlaybook.logging.plays developmentInventory r.1, r.2⟩) = some otherCutOff.nodes := by
    simp only [List.map_cons, List.map_nil, runAll, ConfigPlaybook.plays, otherUpdate, run_follow,
      Option.bind_some]
    rfl
  have hiff := (config_update_running_iff .logging .zooCfg).1 developmentInventory
    (configuredNode developmentInventory developmentVars) otherCutOff.nodes
    [(otherLogsVars, otherUpdate)] movedLogsVars _ plainUpdate (by decide) (fun _ _ => rfl)
    (fun _ _ => rfl) (fun h _ => configuredNode_process _ _ h) hall
    (run_follow calm allGood 60 _) hsucc
  refine ⟨by decide +kernel, hsucc, hiff.mpr ?_⟩
  rintro h hh ⟨before, r, after, hruns, hrender, _⟩
  have hr : r ∈ before ++ r :: after := List.mem_append_right before List.mem_cons_self
  rw [← hruns, List.map_singleton, List.mem_singleton] at hr
  subst hr
  have hdiffer : ∀ h ∈ developmentInventory.hosts,
      render developmentInventory otherLogsVars .log4jProperties h ≠
        render developmentInventory movedLogsVars .log4jProperties h := by
    decide +kernel
  exact hdiffer h hh hrender

end Kafka

end ClusterPlaybooks
