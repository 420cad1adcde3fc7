import ClusterPlaybooks.Service.Roles
import ClusterPlaybooks.ZooKeeper.Templates

/-!
# The ZooKeeper playbooks

Roles and playbooks of the ZooKeeper cluster, task by task.
-/

namespace ClusterPlaybooks
namespace ZooKeeper

open Ansible
open Service
open Text

/-- A ZooKeeper node. -/
abbrev ZkNode := Node ConfFile ConfigFile

/-- A task of a ZooKeeper playbook. -/
abbrev ZkTask := Task Host ZkNode Choice

/-- A play of a ZooKeeper playbook. -/
abbrev ZkPlay := Play Host ZkNode Choice

/-! ## Roles -/

/-- The tasks {lit}`createDirStructure` of the role {lit}`common`. -/
def createDirStructure (v : Vars) : List ZkTask :=
  [{ name := "Creating installing dir", items := [call (fileDirectory v.versionDir)] },
    { name := "Creating zookeeper directories"
      items := [call (fileDirectory v.zookeeperDataDir),
        call (fileDirectory v.zookeeperLogDir)] }]

/-- The role {lit}`common`. -/
def common (v : Vars) : List ZkTask :=
  Service.common "zookeeper" v.useSystemFirewall (createDirStructure v)

/-- The tasks {lit}`download` of the role {lit}`install`. -/
def download (v : Vars) : List ZkTask :=
  [{ name := "Copying and Unarchive zookeeper tar"
     items := [call (unarchiveInto v.versionDir v.archive)] },
    { name := "Ensuring permissions on unarchieved files"
      items := [call (fileDirectory v.versionDir)] }]

/-- The tasks {lit}`createSymlink` of the role {lit}`install`. -/
def createSymlink (v : Vars) : List ZkTask :=
  [{ name := "Creating symlink to latest version"
     items := [call (fileLink v.versionDir (some "zookeeperSymlinkStatus"))] }]

/-- The role {lit}`install`. -/
def install (v : Vars) : List ZkTask :=
  download v ++ createSymlink v ++ [inert "Setting zookeeper Home | /etc/profile.d/zookeeper.sh" 1]

/-- The role {lit}`copyFiles`. -/
def copyFiles (v : Vars) : List ZkTask :=
  [{ name := "copy files"
     items := (v.zookeeperCopyFiles.getD []).map fun dest =>
       callWhen (fun _ _ => some v.zookeeperSslQuorum) (copy dest) }]

/-- The tasks {lit}`dynamicConfigs` of the role {lit}`configure`, for one file. -/
def dynamicConfigs (inv : Inventory) (v : Vars) (zookeeperConfigFile : ConfFile) : ZkTask where
  name := "Creating zookeeper configurations"
  items := [call (template v.versionDir zookeeperConfigFile (render inv v zookeeperConfigFile)
    (some "configStatus"))]

/-- The role {lit}`configure`.  The identity file goes to the data directory. -/
def configure (inv : Inventory) (v : Vars) : List ZkTask :=
  { name := "Adding Zookeeper ID File"
    items := [call (template v.zookeeperDataDir .myid (render inv v .myid) none)] } ::
  [ConfFile.zooCfg, .log4jProperties, .javaEnv, .jaasConf].map (dynamicConfigs inv v)

/-- The role {lit}`service`. -/
def service : List ZkTask :=
  [inert "Creating Service File | zookeeper | RedHat" 1,
    inert "Creating Service File | zookeeper | Debian/Ubuntu" 1]

/-- The role {lit}`systemUpgrade`. -/
def systemUpgrade : List ZkTask :=
  [inert "system upgrade | RedHat" 1, inert "system upgrade | Debian" 1,
    inert "removing unused packages | Debian" 1]

/-- Restart ZooKeeper, then wait for the client port. -/
def restartAndCheck (v : Vars) (cond : Host → ZkNode → Option Bool) : List ZkTask :=
  serviceState "zookeeper" .restarted cond :: portCheck [v.zookeeperClientPort] cond

/-! ## What the roles keep -/

section Keep

variable {h : Host} {I : ZkNode → Prop} {v : Vars}

/-- Upgrading the system keeps everything. -/
@[simp]
theorem systemUpgrade_keep : TasksKeep h I systemUpgrade := by
  simp [systemUpgrade]

/-- Writing the service file keeps everything. -/
@[simp]
theorem service_keep : TasksKeep h I service := by
  simp [service]

/-- The role {lit}`common` keeps what creating directories keeps. -/
theorem common_keep (hdir : ∀ d, (call (fileDirectory d)).Keeps h I) :
    TasksKeep h I (common v) := by
  apply Service.common_keep
  simp [createDirStructure, hdir]

/-- Unpacking a version keeps what its two calls keep. -/
theorem download_keep (hunarchive : (call (unarchiveInto v.versionDir v.archive)).Keeps h I)
    (hdir : (call (fileDirectory v.versionDir)).Keeps h I) : TasksKeep h I (download v) := by
  simp [download, hunarchive, hdir]

/-- Switching the version keeps what the link call keeps. -/
theorem createSymlink_keep
    (hlink : (call (fileLink v.versionDir (some "zookeeperSymlinkStatus"))).Keeps h I) :
    TasksKeep h I (createSymlink v) := by
  simp [createSymlink, hlink]

/-- Installing keeps what its calls keep. -/
theorem install_keep (hunarchive : (call (unarchiveInto v.versionDir v.archive)).Keeps h I)
    (hdir : (call (fileDirectory v.versionDir)).Keeps h I)
    (hlink : (call (fileLink v.versionDir (some "zookeeperSymlinkStatus"))).Keeps h I) :
    TasksKeep h I (install v) := by
  simp [install, download_keep hunarchive hdir, createSymlink_keep hlink]

/-- Uploading keeps what the copy calls keep. -/
theorem copyFiles_keep
    (hcopy : ∀ dest, (callWhen (fun _ _ => some v.zookeeperSslQuorum) (copy dest)).Keeps h I) :
    TasksKeep h I (copyFiles v) := by
  simp [copyFiles, Task.Keeps, hcopy]

/-- Writing one file keeps what the template call keeps. -/
theorem dynamicConfigs_keeps {inv : Inventory} {file : ConfFile}
    (hfile : (call (template v.versionDir file (render inv v file)
      (some "configStatus"))).Keeps h I) : (dynamicConfigs inv v file).Keeps h I := by
  simp [dynamicConfigs, hfile]

/-- Configuring keeps what the template calls keep. -/
theorem configure_keep {inv : Inventory}
    (hmyid : (call (template v.zookeeperDataDir .myid (render inv v .myid) none)).Keeps h I)
    (hfile : ∀ file, (call (template v.versionDir file (render inv v file)
      (some "configStatus"))).Keeps h I) : TasksKeep h I (configure inv v) := by
  simp [configure, dynamicConfigs, hmyid, hfile]

/-- Restarting and waiting keeps what the restart keeps. -/
theorem restartAndCheck_keep {cond : Host → ZkNode → Option Bool}
    (hrestart : (callWhen cond restarted).Keeps h I) :
    TasksKeep h I (restartAndCheck v cond) := by
  rw [restartAndCheck, tasksKeep_cons]
  exact ⟨serviceState_keeps hrestart, portCheck_keep⟩

end Keep

/-! ## Plays -/

/-- A play on all cluster nodes at once. -/
def Inventory.onNodes (inv : Inventory) (tasks : List ZkTask) : ZkPlay :=
  onAll inv.clusterNodes inv.nodup tasks

/-- A play on one cluster node after the other. -/
def Inventory.rolling (inv : Inventory) (tasks : List ZkTask) : ZkPlay :=
  oneByOne inv.clusterNodes inv.nodup tasks

/-- A play on the controller that touches no node. -/
def Inventory.onLocalhost (inv : Inventory) (name : String) : ZkPlay :=
  onAll [inv.localhost] (List.nodup_singleton _) [inert name 1]

/-- A play on the controller keeps everything. -/
theorem onLocalhost_valid {inv : Inventory} {ε : Type} {env : ε → ZkNode → ZkNode}
    {title : String} {A : Host → ZkNode → Prop} (hstable : ∀ h, Stable env (A h)) :
    (Stage.steady (inv.onLocalhost title) A).Valid env := by
  apply Stage.steady_valid hstable
  intro h _ a ha
  cases List.mem_singleton.mp ha
  exact noEffect_keeps

/-- An assertion about every cluster node. -/
def AllNodes (inv : Inventory) (P : ZkNode → Prop) : Host → ZkNode → Prop :=
  fun h n => h ∈ inv.clusterNodes → P n

/-! ## Playbooks -/

/-- The playbook {lit}`clusterSetup`. -/
def clusterSetup (inv : Inventory) (v : Vars) : List ZkPlay :=
  [inv.onNodes (gatherFacts :: (if v.systemUpgradeRequired then systemUpgrade else []) ++ java ++
      common v ++ install v ++ copyFiles v ++ configure inv v ++ service),
    inv.rolling (serviceState "zookeeper" .started always ::
      portCheck [v.zookeeperClientPort] always ++
      portCheck [v.zookeeperSecureClientPort] fun _ _ => some v.zookeeperSslQuorum)]

/-- The playbook {lit}`clusterUpgrade`. -/
def clusterUpgrade (inv : Inventory) (v : Vars) : List ZkPlay :=
  [inv.onNodes (gatherFacts :: java ++ common v),
    inv.onNodes (gatherFacts :: download v ++ configure inv v),
    inv.onLocalhost "Switching zookeeper Version on all nodes (Rolling fashion)",
    inv.rolling (createSymlink v ++ restartAndCheck v always)]

/-- The playbook {lit}`clusterConfigsUpdate` for one file. -/
def clusterConfigsUpdate (inv : Inventory) (v : Vars) (zookeeperConfigFile : ConfFile) :
    List ZkPlay :=
  [inv.onNodes [gatherFacts,
      inert "make sure gather facts is triggered on all nodes required for zoo.cfg" 1],
    inv.rolling (gatherFacts :: dynamicConfigs inv v zookeeperConfigFile ::
      restartAndCheck v (whenChanged "configStatus"))]

/-- The playbook {lit}`clusterRollingRestart`. -/
def clusterRollingRestart (inv : Inventory) (v : Vars) : List ZkPlay :=
  [inv.rolling (gatherFacts :: restartAndCheck v always)]

/-- The playbook {lit}`clusterRemoveOldVersions`. -/
def clusterRemoveOldVersions (inv : Inventory) (v : Vars) : List ZkPlay :=
  [inv.onNodes [{ name := "Removing Old zookeeper files"
                  items := match v.zookeeperOldVersion with
                    | some old =>
                        [callWhen (fun _ _ => versionNe old v.zookeeperVersion)
                          (fileAbsent (v.zookeeperInstallDir ++ "/zookeeper-" ++ old))]
                    | none => [callWhen (fun _ _ => some false) noEffect] }]]

/-- A {lit}`lineinfile` call on {lit}`zoo.cfg`. -/
def zooCfgLine (v : Vars) (regexp key value : String) : Action Host ZkNode Choice :=
  call (editFile v.versionDir .zooCfg (lineinfile regexp (.entry key value)))

/-- The basic encryption settings the first rolling play of the migration writes. -/
def sslQuorumBasicSettings (v : Vars) : ZkTask where
  name := "MigrateToMtls | sslQuourm basic settings in zoo.cfg"
  items :=
    [zooCfgLine v "sslQuorum=" "sslQuorum" "false",
      zooCfgLine v "portUnification=" "portUnification" "true",
      zooCfgLine v "serverCnxnFactory=" "serverCnxnFactory"
        "org.apache.zookeeper.server.NettyServerCnxnFactory",
      zooCfgLine v "ssl.quorum.keyStore.password=" "ssl.quorum.keyStore.password"
        v.zookeeperSslQuorumKeystorePassword,
      zooCfgLine v "ssl.quorum.keyStore.location=" "ssl.quorum.keyStore.location"
        v.zookeeperSslQuorumKeystoreLocation,
      zooCfgLine v "ssl.quorum.trustStore.location=" "ssl.quorum.trustStore.location"
        v.zookeeperSslQuorumTruststoreLocation,
      zooCfgLine v "ssl.quorum.trustStore.password=" "ssl.quorum.trustStore.password"
        v.zookeeperSslQuorumTruststorePassword]

/-- The variables of the two plays that render {lit}`zoo.cfg` with encryption on. -/
def Vars.withTls (v : Vars) (portUnification : String) : Vars :=
  { v with zookeeperSslQuorum := true, zookeeperPortUnification := some portUnification }

/-- What the operator is asked to check after the first rolling play. -/
def tlsSocketPrompt : String :=
  "please check logs of all nodes that \"Creating TLS-enabled quorum server socket\" " ++
    "message appears in logs file"

/-- What the operator is asked to check after the other rolling plays. -/
def workingPrompt : String :=
  "please check logs of all nodes that cluster is working"

/-- The playbook {lit}`clusterMigrateToMtls`. -/
def clusterMigrateToMtls (inv : Inventory) (v : Vars) : List ZkPlay :=
  [inv.onNodes (gatherFacts :: copyFiles v),
    inv.rolling (gatherFacts :: sslQuorumBasicSettings v :: restartAndCheck v always),
    inv.onLocalhost tlsSocketPrompt,
    inv.rolling (gatherFacts :: dynamicConfigs inv (v.withTls "true") .zooCfg ::
      restartAndCheck v always),
    inv.onLocalhost workingPrompt,
    inv.rolling (gatherFacts :: dynamicConfigs inv (v.withTls "false") .zooCfg ::
      restartAndCheck v always),
    inv.onLocalhost workingPrompt]

/-- The variables of the plays that write files with authentication on. -/
def Vars.withSasl (v : Vars) : Vars :=
  { v with zookeeperQuorumAuthEnableSasl := true }

/-- The task that switches one authentication setting on. -/
def quorumAuthLine (v : Vars) (setting : String) : ZkTask where
  name := "MigrateToSasL | " ++ setting ++ " in zoo.cfg"
  items := [zooCfgLine v ("quorum.auth." ++ setting ++ "=") ("quorum.auth." ++ setting) "true"]

/-- Its only call edits {lit}`zoo.cfg`. -/
theorem quorumAuthLine_items (v : Vars) (setting : String) : (quorumAuthLine v setting).items =
    [zooCfgLine v ("quorum.auth." ++ setting ++ "=") ("quorum.auth." ++ setting) "true"] :=
  rfl

/-- The playbook {lit}`clusterMigrateToSasLAuth`. -/
def clusterMigrateToSasLAuth (inv : Inventory) (v : Vars) : List ZkPlay :=
  [inv.rolling (gatherFacts :: dynamicConfigs inv v .jaasConf ::
      dynamicConfigs inv v.withSasl .javaEnv :: quorumAuthLine v "enableSasl" ::
      restartAndCheck v always),
    inv.rolling (gatherFacts :: quorumAuthLine v "learnerRequireSasl" ::
      restartAndCheck v always),
    inv.rolling (gatherFacts :: dynamicConfigs inv v.withSasl .zooCfg ::
      restartAndCheck v always)]

/-! ## The development inventory -/

/-- The group variables of the development inventory. -/
def developmentVars : Vars where
  systemUpgradeRequired := false
  useSystemFirewall := false
  zookeeperInstallDir := "/zookeeper"
  zookeeperDataDir := "/zookeeper/zookeeper-data"
  zookeeperLogDir := "/zookeeper/zookeeper-logs"
  zookeeperVersion := "3.8.0"
  zookeeperOldVersion := some "3.7.1"
  archive := fun _ => none
  zookeeperUserGeneratedMyId := true
  zookeeperQuorumAuthEnableSasl := true
  zookeeperQuorumCnxnThreadsSize := "20"
  zookeeperQuorumUsername := "quorum"
  zookeeperQuorumPassword := "IdontKnow"
  zookeeperSslQuorum := false
  zookeeperPortUnification := some "false"
  zookeeperSecureClientPort := "2182"
  zookeeperSslQuorumReloadCertFiles := some "false"
  zookeeperSslQuorumProtocol := some "TLSv1.2"
  zookeeperSslQuorumKeystorePassword := "IdontKnow"
  zookeeperSslQuorumTruststorePassword := "IdontKnow"
  zookeeperSslQuorumHostnameVerification := some "true"
  zookeeperSslQuorumKeystoreLocation := "/zookeeper/zookeeper-3.8.0/conf/keystore.jks"
  zookeeperSslQuorumTruststoreLocation := "/zookeeper/zookeeper-3.8.0/conf/truststore.jks"
  zookeeperCopyFiles := some ["/zookeeper/zookeeper-3.8.0/conf/keystore.jks",
    "/zookeeper/zookeeper-3.8.0/conf/truststore.jks"]
  zookeeperAdminPortUnification := some "false"
  zookeeperXms := "256m"
  zookeeperXmx := "256m"
  zookeeperJvmFlags := some ""
  omitted := ""
  zookeeperJmxEnabled := true
  zookeeperJmxPort := "9999"
  zookeeperTickTime := "2000"
  zookeeperInitLimit := "5"
  zookeeperSyncLimit := "2"
  zookeeperMaxClientCnxns := "60"
  zookeeperClientPort := "2181"
  zookeeperAutoPurgeSnapRetainCount := none
  zookeeperAutoPurgeIntervalHour := none
  zookeeperPrometheusExporterEnabled := true
  zookeeperPrometheusExporterHttpPort := "7000"

/-- The cluster nodes of the development inventory. -/
def developmentInventory : Inventory where
  clusterNodes := ["zookeeper1.localhost", "zookeeper2.localhost", "zookeeper3.localhost"]
  nodup := by decide
  localhost := "localhost"
  hostvars := fun h =>
    if h = "zookeeper1.localhost" then ⟨"10.2.122.163", h, some 163⟩
    else if h = "zookeeper2.localhost" then ⟨"10.2.119.55", h, some 55⟩
    else ⟨"10.2.142.107", h, some 107⟩

/-- A node that runs files rendered from the given variables. -/
def configuredNode (inv : Inventory) (v : Vars) (h : Host) : ZkNode where
  dirs := fun d =>
    if d = v.versionDir then some ⟨true, fun f => render inv v f h⟩ else none
  live := some v.versionDir
  uploads := fun _ => false
  process := some fun f => render inv v f h
  openPorts := [v.zookeeperClientPort]
  regs := fun _ => none
  starts := []

/-- A configured node would read the rendered files again. -/
@[simp]
theorem configuredNode_disk (inv : Inventory) (v : Vars) (h : Host) :
    (configuredNode inv v h).disk = fun f => render inv v f h := by
  funext f
  simp [Node.disk, configuredNode]

end ZooKeeper
end ClusterPlaybooks
