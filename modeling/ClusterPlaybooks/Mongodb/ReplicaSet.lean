import ClusterPlaybooks.Ansible.RunOnce

/-!
# Initialising a MongoDB replica set

To initialise a replica set the role stops the servers, writes a configuration without the
security settings, starts the servers with it, runs a script, and then writes the configuration
with the security settings again and restarts the servers.  The task that copies the script
names a template that does not exist, so the play stops there, between the two configurations.

Main results:

- Theorem {lit}`survives_beforeUpload`: when a host comes to the configuration without security
  settings.
- Theorem {lit}`alive_after_script`: no host comes past the missing template.
- Theorem {lit}`never_open_iff`: no host is left open exactly if every host is dropped before it
  has got that configuration.
-/

namespace ClusterPlaybooks
namespace Mongodb

open Ansible

/-! ## The configuration file -/

/-- The values of {lit}`mongodb_security` with which a server is secured. -/
inductive Security where
  | keyfile
  | x509
deriving DecidableEq, Repr

/-- The values of {lit}`cluster_role`. -/
inductive ClusterRole where
  | shard
  | config
  | replicaSet
  | router
deriving DecidableEq, Repr

/-- The variables of the template {lit}`mongod.conf.j2`. -/
structure Vars where
  logFile : String
  clusterRole : ClusterRole
  storagePath : String
  replicaSetName : Option String
  configDb : Option String
  mongodbSecurity : Security
  keyfilePath : String
  rsPort : String
  certChain : String
  certIntermediate : String
  operationProfiling : Option (String × String)

/-- A rendered configuration file, by its sections. -/
structure Conf where
  systemLog : List String
  storage : List String
  replication : List String
  sharding : List String
  security : List String
  net : List String
  operationProfiling : List String
deriving DecidableEq, Repr

/-- The section {lit}`systemLog`. -/
def systemLogSection (v : Vars) : List String :=
  ["systemLog:", "  destination: file", "  logAppend: true", "  path: " ++ v.logFile,
    "  verbosity: 0", "  component:"] ++
  (["control", "command", "sharding", "ftdc", "replication", "network", "query", "storage"].flatMap
    fun component => ["    " ++ component ++ ":", "      verbosity: 0"]) ++
  ["      journal:", "        verbosity: 0"]

/-- The section {lit}`storage`. -/
def storageSection (v : Vars) : List String :=
  match v.clusterRole with
  | .shard | .config | .replicaSet =>
      ["# Where and how to store data.", "storage:", "  dbPath: " ++ v.storagePath, "  journal:",
        "    enabled: true"]
  | .router => []

/-- The section {lit}`replication`. -/
def replicationSection (v : Vars) : List String :=
  match v.replicaSetName with
  | some name => ["replication:", "  replSetName: " ++ name]
  | none => []

/-- The section {lit}`sharding`. -/
def shardingSection (v : Vars) : List String :=
  match v.clusterRole, v.configDb with
  | .shard, _ => ["sharding:", "  clusterRole: shardsvr"]
  | .config, _ => ["sharding:", "  clusterRole: configsvr"]
  | .router, some configDb => ["sharding:", "  configDB: " ++ configDb]
  | _, _ => []

/-- The section {lit}`security` of a server that is not being configured. -/
def securitySection (v : Vars) : List String :=
  "security:" :: match v.mongodbSecurity with
    | .keyfile => ["  authorization: enabled", "  keyFile: " ++ v.keyfilePath]
    | .x509 => ["  clusterAuthMode: x509"]

/-- The section {lit}`net`; a server that is being configured does not require TLS. -/
def netSection (v : Vars) (inventoryHostname : String) (configuring : Bool) : List String :=
  ["# network interfaces", "net:", "  port: " ++ v.rsPort] ++
  match v.mongodbSecurity with
  | .keyfile => ["  bindIp: 127.0.0.1," ++ inventoryHostname]
  | .x509 =>
      ["  bindIp: 0.0.0.0", "  # bindIp: 127.0.0.1," ++ inventoryHostname, "  tls:",
        if configuring then "    mode: allowTLS" else "    mode: requireTLS",
        "    disabledProtocols: \"TLS1_0,TLS1_1\"", "    certificateKeyFile: " ++ v.certChain,
        "    clusterFile: " ++ v.certChain, "    CAFile: " ++ v.certIntermediate]

/-- The section {lit}`operationProfiling`. -/
def operationProfilingSection (v : Vars) : List String :=
  match v.clusterRole, v.operationProfiling with
  | .config, some (threshold, mode) | .shard, some (threshold, mode) =>
      ["operationProfiling:", "  slowOpThresholdMs: " ++ threshold, "  mode: " ++ mode]
  | _, _ => []

/-- The template {lit}`mongod.conf.j2`; an undefined fact counts as false. -/
def render (v : Vars) (inventoryHostname : String) (configuringReplicaSet : Option Bool) :
    Conf where
  systemLog := systemLogSection v
  storage := storageSection v
  replication := replicationSection v
  sharding := shardingSection v
  security := if configuringReplicaSet = some true then [] else securitySection v
  net := netSection v inventoryHostname (configuringReplicaSet = some true)
  operationProfiling := operationProfilingSection v

/-- The file has the security settings, and with certificates it requires TLS. -/
def Secured (v : Vars) (c : Conf) : Prop :=
  c.security = securitySection v ∧
    (v.mongodbSecurity = .x509 → "    mode: requireTLS" ∈ c.net)

/-! ## Hosts and tasks -/

/-- The state of a host. -/
structure MongoHost where
  /-- the unit files {lit}`mongodb.service`, {lit}`mongod.service` and {lit}`mongos.service` -/
  unitDb : Bool
  unitD : Bool
  unitS : Bool
  /-- the registered results of looking for them -/
  statDb : Option Bool
  statD : Option Bool
  statS : Option Bool
  configuringReplicaSet : Option Bool
  /-- the file {lit}`/etc/mongod.conf` -/
  conf : Option Conf
  /-- the configuration from which the running {lit}`mongod` was started -/
  mongod : Option Conf
  mongos : Bool
  /-- the script {lit}`/tmp/init_replica_set.js` is there -/
  script : Bool
deriving DecidableEq, Repr

/-- A task for all hosts. -/
abbrev MongoTask := OnceTask String MongoHost

/-- A task for all hosts without a condition. -/
def onHosts (name : String) (effect : String → MongoHost → Option MongoHost) : MongoTask where
  name := name
  runOnce := false
  cond := fun _ => true
  effect := effect

/-- A task for the first host without a condition. -/
def onFirst (name : String) (effect : String → MongoHost → Option MongoHost) : MongoTask where
  name := name
  runOnce := true
  cond := fun _ => true
  effect := effect

/-- {lit}`service` with {lit}`state: started`: a server that is not running loads the file. -/
def startMongod (_ : String) (n : MongoHost) : Option MongoHost :=
  match n.mongod with
  | some _ => some n
  | none => n.conf.map fun c => { n with mongod := some c }

/-- {lit}`service` with {lit}`state: stopped`. -/
def stopMongod (_ : String) (n : MongoHost) : Option MongoHost :=
  some { n with mongod := none }

/-- Write the file {lit}`/etc/mongod.conf` from its template. -/
def writeConf (v : Vars) (h : String) (n : MongoHost) : Option MongoHost :=
  some { n with conf := some (render v h n.configuringReplicaSet) }

/-- The files in the directory {lit}`templates` of the role. -/
def templates : List String :=
  ["add-shard-to-cluster.js.j2", "create_database.js.j2", "init-replica-set.js.j2",
    "mongod.conf.j2", "mongod.list.j2", "mongod.service.j2", "user-Init.js.j2",
    "userAdminInit.js.j2"]

/-- Write the script from a template, which must exist. -/
def writeScript (src : String) (_ : String) (n : MongoHost) : Option MongoHost :=
  if src ∈ templates then some { n with script := true } else none

/-- The tasks {lit}`service_stop`. -/
def serviceStop : List MongoTask :=
  [onHosts "stat for mongodb" fun _ n => some { n with statDb := some n.unitDb },
    onHosts "stat for mongod" fun _ n => some { n with statD := some n.unitD },
    onHosts "stat for mongos" fun _ n => some { n with statS := some n.unitS },
    { onHosts "Stop the daemon service" stopMongod with cond := fun n => n.statDb = some true },
    { onHosts "Stop the daemon service" stopMongod with cond := fun n => n.statD = some true },
    { onHosts "Stop the shard service" (fun _ n => some { n with mongos := false }) with
      cond := fun n => n.statS = some true }]

/-- The tasks {lit}`service_start`. -/
def serviceStart : List MongoTask :=
  [onHosts "Start mongodb service" startMongod]

/-- The tasks before the configuration without security settings is written. -/
def beforeUpload : List MongoTask :=
  serviceStop ++
    [onHosts "Configuring the replica set" fun _ n =>
      some { n with configuringReplicaSet := some true }]

/-- The task that writes it. -/
def upload (v : Vars) : MongoTask :=
  onHosts "Upload init_replica_set config file" (writeConf v)

/-- The start of the servers with it; the pause is made once for all hosts. -/
def startOpen : List MongoTask :=
  serviceStart ++ [onFirst "Delay" fun _ n => some n]

/-- The task that copies the script. -/
def copyScript : MongoTask :=
  onFirst "Save the init_replica_set.js template to remote tmp"
    (writeScript "init_replica_set.js.j2")

/-- The tasks that run the script and restore the configuration. -/
def restore (v : Vars) : List MongoTask :=
  [onFirst "Run the init_replica_set.js script" fun _ n =>
      if n.script ∧ n.mongod.isSome then some n else none,
    onHosts "Remove the init_replica_set.js script from remote tmp" fun _ n =>
      some { n with script := false },
    onHosts "Stop the daemon service" stopMongod,
    onHosts "No longer configuring the replica set" fun _ n =>
      some { n with configuringReplicaSet := some false },
    onHosts "Restore the mongodb configuration" (writeConf v),
    onHosts "Restart the daemon service" startMongod]

/-- The tasks {lit}`init_replica_set`. -/
def initReplicaSet (v : Vars) : List MongoTask :=
  beforeUpload ++ [upload v] ++ startOpen ++ [copyScript] ++ restore v

/-- The play with a pattern of failures. -/
def initialise (v : Vars) (pattern : Nat → String → Fate) (hosts : List String)
    (nodes : String → MongoHost) : Playing String MongoHost :=
  play pattern 0 (initReplicaSet v) ⟨nodes, hosts⟩

/-- Neither the file on disk nor the running server is without security settings. -/
def Guarded (v : Vars) (n : MongoHost) : Prop :=
  (∀ c, n.conf = some c → Secured v c) ∧ ∀ c, n.mongod = some c → Secured v c

/-- Whether the task with the given number runs on a host; three of the first ones may not. -/
def runsOn (n : MongoHost) : Nat → Bool
  | 3 => n.unitDb
  | 4 => n.unitD
  | 5 => n.unitS
  | _ => true

/--
The host does not get the configuration without security settings: one of the seven tasks before
fails on it, or the task that writes the file fails without having written it.
-/
def StoppedInTime (n : MongoHost) (fates : Nat → Fate) : Prop :=
  (∃ k < 7, runsOn n k = true ∧ fates k ≠ .ok) ∨ fates 7 = .failed false

/-! ## Before the upload -/

section Upload

variable {v : Vars} {h : String} {n : MongoHost} {pattern : Nat → String → Fate}

/-- The tasks that run on a host before the upload succeed. -/
def ReadyForUpload (n : MongoHost) (fates : Nat → Fate) : Prop :=
  ∀ k < 7, runsOn n k = true → fates k = .ok

instance (n : MongoHost) (fates : Nat → Fate) : Decidable (ReadyForUpload n fates) :=
  inferInstanceAs (Decidable (∀ k < 7, _))

/-- The seven tasks, one by one. -/
theorem readyForUpload_iff (n : MongoHost) (fates : Nat → Fate) :
    ReadyForUpload n fates ↔ fates 0 = .ok ∧ fates 1 = .ok ∧ fates 2 = .ok ∧
      (n.unitDb = true → fates 3 = .ok) ∧ (n.unitD = true → fates 4 = .ok) ∧
      (n.unitS = true → fates 5 = .ok) ∧ fates 6 = .ok := by
  constructor
  · intro hready
    exact ⟨hready 0 (by omega) rfl, hready 1 (by omega) rfl, hready 2 (by omega) rfl,
      hready 3 (by omega), hready 4 (by omega), hready 5 (by omega), hready 6 (by omega) rfl⟩
  · rintro ⟨h0, h1, h2, h3, h4, h5, h6⟩ k hk hruns
    rcases k with _ | _ | _ | _ | _ | _ | _ | k
    · exact h0
    · exact h1
    · exact h2
    · exact h3 hruns
    · exact h4 hruns
    · exact h5 hruns
    · exact h6
    · omega

/-- The node of a host on which the unit files were looked for. -/
def registered (n : MongoHost) : MongoHost :=
  { n with statDb := some n.unitDb, statD := some n.unitD, statS := some n.unitS }

/-- The node of a host that is ready for the upload. -/
def readyNode (n : MongoHost) : MongoHost :=
  { registered n with
    mongod := if n.unitDb || n.unitD then none else n.mongod
    mongos := n.mongos && !n.unitS
    configuringReplicaSet := some true }

/-- A host comes to the upload exactly if it is ready for it. -/
theorem survives_beforeUpload :
    survives pattern h 0 beforeUpload n =
      if ReadyForUpload n (pattern · h) then some (readyNode n) else none := by
  simp only [beforeUpload, serviceStop, List.cons_append, List.nil_append]
  -- the three unit files are looked for
  rw [survives_cons { n with statDb := some n.unitDb } true 0 rfl (fun _ => rfl) (by simp),
    survives_cons { n with statDb := some n.unitDb, statD := some n.unitD } true 1 rfl
      (fun _ => rfl) (by simp),
    survives_cons (registered n) true 2 rfl (fun _ => rfl) (by simp)]
  -- the services with a unit file are stopped
  rw [survives_cons { registered n with mongod := if n.unitDb then none else n.mongod } n.unitDb 3
      (by simp [registered]) (by simp +contextual [onHosts, stopMongod])
      (by simp +contextual [registered]),
    survives_cons { registered n with mongod := if n.unitDb || n.unitD then none else n.mongod }
      n.unitD 4 (by simp [registered]) (by simp +contextual [onHosts, stopMongod])
      (by simp +contextual),
    survives_cons { readyNode n with configuringReplicaSet := n.configuringReplicaSet } n.unitS 5
      (by simp [registered]) (by simp +contextual [onHosts, registered, readyNode])
      (by simp +contextual [registered, readyNode]),
    survives_cons (readyNode n) true 6 rfl (fun _ => rfl) (by simp)]
  simp only [readyForUpload_iff, forall_const, ite_and, survives]

/-- The tasks before the upload leave a guarded host guarded. -/
theorem beforeUpload_keeps_guarded :
    ∀ t ∈ beforeUpload, ∀ m m', t.effect h m = some m' → Guarded v m → Guarded v m' := by
  intro t ht m m' heffect hguarded
  simp only [beforeUpload, serviceStop, onHosts, List.cons_append, List.nil_append,
    List.mem_cons, List.not_mem_nil, or_false] at ht
  rcases ht with rfl | rfl | rfl | rfl | rfl | rfl | rfl <;> cases heffect
  · exact hguarded
  · exact hguarded
  · exact hguarded
  · exact ⟨hguarded.1, by simp⟩
  · exact ⟨hguarded.1, by simp⟩
  · exact hguarded
  · exact hguarded

/-- The tasks before the upload are for all hosts. -/
theorem beforeUpload_runOnce : ∀ t ∈ beforeUpload, t.runOnce = false := by
  have hall : beforeUpload.all (fun t => !t.runOnce) = true := rfl
  intro t ht
  simpa using List.all_eq_true.mp hall t ht

end Upload

/-! ## After the upload -/

section Play

variable {v : Vars} {h : String} {pattern : Nat → String → Fate} {hosts : List String}
  {nodes : String → MongoHost} {p : Playing String MongoHost}

/-- Nothing after the upload and before the missing template changes the file. -/
theorem startOpen_keeps_conf {c : Conf} :
    ∀ t ∈ startOpen ++ [copyScript], ∀ m m', t.effect h m = some m' →
      m.conf = some c → m'.conf = some c := by
  intro t ht m m' heffect hconf
  simp only [startOpen, serviceStart, copyScript, onHosts, onFirst, List.cons_append,
    List.nil_append, List.mem_cons, List.not_mem_nil, or_false] at ht
  rcases ht with rfl | rfl | rfl
  · simp only [startMongod] at heffect
    split at heffect
    · cases heffect
      exact hconf
    · rcases Option.map_eq_some_iff.mp heffect with ⟨d, _, rfl⟩
      exact hconf
  · cases heffect
    exact hconf
  · simp [writeScript, templates] at heffect

/-- No host comes past the missing template. -/
theorem alive_after_script (k : Nat) :
    (play pattern k (startOpen ++ [copyScript]) p).alive = [] := by
  rw [play_append]
  apply alive_step_of_impossible
  · rfl
  · exact fun _ => rfl
  · intro h n
    simp [copyScript, onFirst, writeScript, templates]

/-- The state after the upload. -/
def uploaded (v : Vars) (pattern : Nat → String → Fate) (hosts : List String)
    (nodes : String → MongoHost) : Playing String MongoHost :=
  (play pattern 0 beforeUpload ⟨nodes, hosts⟩).step (upload v) (pattern 7)

/-- The tasks that restore the configuration are not reached. -/
theorem initialise_nodes :
    (initialise v pattern hosts nodes).nodes =
      (play pattern 8 (startOpen ++ [copyScript]) (uploaded v pattern hosts nodes)).nodes := by
  have hsplit : initReplicaSet v =
      beforeUpload ++ ([upload v] ++ ((startOpen ++ [copyScript]) ++ restore v)) := by
    simp [initReplicaSet]
  rw [initialise, hsplit, play_append, play_append, play_append,
    play_of_alive_nil _ (alive_after_script _)]
  rfl

/-- A host that is not ready is dropped before the upload. -/
theorem not_alive_of_not_ready (hready : ¬ReadyForUpload (nodes h) (pattern · h)) :
    h ∉ (play pattern 0 beforeUpload ⟨nodes, hosts⟩).alive := by
  rw [alive_play_iff 0 beforeUpload_runOnce, survives_beforeUpload]
  simp [hready]

/-- A host that is ready comes to the upload. -/
theorem ready_host (hh : h ∈ hosts) (hready : ReadyForUpload (nodes h) (pattern · h)) :
    h ∈ (play pattern 0 beforeUpload ⟨nodes, hosts⟩).alive ∧
      (play pattern 0 beforeUpload ⟨nodes, hosts⟩).nodes h = readyNode (nodes h) := by
  have hsurvives : survives pattern h 0 beforeUpload (nodes h) = some (readyNode (nodes h)) := by
    rw [survives_beforeUpload, if_pos hready]
  constructor
  · rw [alive_play_iff 0 beforeUpload_runOnce, hsurvives]
    simp [hh]
  · exact play_nodes_of_survives 0 beforeUpload_runOnce hh hsurvives

/-- A host that is stopped in time is guarded and dropped after the upload. -/
theorem stopped_host (hguarded : Guarded v (nodes h))
    (hstopped : StoppedInTime (nodes h) (pattern · h)) :
    Guarded v ((uploaded v pattern hosts nodes).nodes h) ∧
      h ∉ (uploaded v pattern hosts nodes).alive := by
  have hkept : Guarded v ((play pattern 0 beforeUpload ⟨nodes, hosts⟩).nodes h) :=
    play_keeps beforeUpload_keeps_guarded 0 hguarded
  by_cases halive : h ∈ (play pattern 0 beforeUpload ⟨nodes, hosts⟩).alive
  · -- then all the tasks before succeeded, and the upload fails without writing
    have hfate : pattern 7 h = .failed false := by
      rcases hstopped with ⟨k, hk, hruns, hfails⟩ | hfate
      · exact absurd halive (not_alive_of_not_ready fun hready => hfails (hready k hk hruns))
      · exact hfate
    constructor
    · rw [uploaded, step_nodes_of_alive rfl halive, hfate]
      exact hkept
    · rw [uploaded, mem_alive_step_iff rfl, hfate]
      simp [OnceTask.perform, upload, onHosts, writeConf]
  · refine ⟨?_, fun hh => halive (alive_step_subset hh)⟩
    rwa [uploaded, step_nodes_of_not_alive halive]

/-- A host that is not stopped in time has the configuration without security settings. -/
theorem open_host (hh : h ∈ hosts) (hopen : ¬StoppedInTime (nodes h) (pattern · h)) :
    ((uploaded v pattern hosts nodes).nodes h).conf = some (render v h (some true)) := by
  have hready : ReadyForUpload (nodes h) (pattern · h) := by
    intro k hk hruns
    by_contra hfails
    exact hopen (Or.inl ⟨k, hk, hruns, hfails⟩)
  have hfate : pattern 7 h ≠ .failed false := fun hfate => hopen (Or.inr hfate)
  rcases ready_host hh hready with ⟨halive, hnode⟩
  rw [uploaded, step_nodes_of_alive rfl halive, hnode]
  cases hcase : pattern 7 h with
  | ok => rfl
  | failed applied =>
      cases applied with
      | true => rfl
      | false => exact absurd hcase hfate

/-- A rendered configuration is secured unless the set is being configured. -/
theorem secured_render_iff {configuring : Option Bool} :
    Secured v (render v h configuring) ↔ configuring ≠ some true := by
  by_cases hconfiguring : configuring = some true
  · simp [hconfiguring, Secured, render, securitySection]
  · simp only [hconfiguring, Secured, render, if_false, decide_false, ne_eq, not_false_eq_true,
      true_and, iff_true]
    intro hx509
    simp [netSection, hx509]

end Play

/--
When the play is over no host has a configuration without security settings, and no server runs
with one, exactly if every host was stopped before it had got that configuration.
-/
theorem never_open_iff (v : Vars) (pattern : Nat → String → Fate) (hosts : List String)
    (nodes : String → MongoHost) (hstart : ∀ h ∈ hosts, Guarded v (nodes h)) :
    (∀ h ∈ hosts, Guarded v ((initialise v pattern hosts nodes).nodes h)) ↔
      ∀ h ∈ hosts, StoppedInTime (nodes h) (pattern · h) := by
  rw [initialise_nodes]
  constructor
  · intro hguarded h hh
    by_contra hopen
    have hconf : ((play pattern 8 (startOpen ++ [copyScript])
        (uploaded v pattern hosts nodes)).nodes h).conf = some (render v h (some true)) :=
      play_keeps startOpen_keeps_conf 8 (open_host hh hopen)
    exact secured_render_iff.mp ((hguarded h hh).1 _ hconf) rfl
  · intro hstopped h hh
    have hhost : Guarded v ((uploaded v pattern hosts nodes).nodes h) ∧
        h ∉ (uploaded v pattern hosts nodes).alive :=
      stopped_host (hstart h hh) (hstopped h hh)
    rw [play_nodes_of_not_alive 8 hhost.2]
    exact hhost.1

/-- The variables of a replica set with a key file. -/
def keyfileVars : Vars where
  logFile := "/var/log/mongodb/mongod.log"
  clusterRole := .replicaSet
  storagePath := "/var/lib/mongodb"
  replicaSetName := some "rs0"
  configDb := none
  mongodbSecurity := .keyfile
  keyfilePath := "/etc/mongod.key"
  rsPort := "27017"
  certChain := ""
  certIntermediate := ""
  operationProfiling := none

/-- A host whose server runs with the security settings. -/
def securedHost (v : Vars) (h : String) : MongoHost where
  unitDb := false
  unitD := true
  unitS := false
  statDb := none
  statD := none
  statS := none
  configuringReplicaSet := none
  conf := some (render v h none)
  mongod := some (render v h none)
  mongos := false
  script := false

/-- Such a host is guarded. -/
theorem guarded_securedHost (v : Vars) (h : String) : Guarded v (securedHost v h) := by
  have hsecured : ∀ c, some (render v h none) = some c → Secured v c := by
    rintro c hc
    cases hc
    exact secured_render_iff.mpr (by simp)
  exact ⟨hsecured, hsecured⟩

/-- A host on which the upload fails without writing the file stays guarded. -/
theorem never_open_iff_failed_upload :
    Guarded keyfileVars ((initialise keyfileVars
      (fun k _ => if k = 7 then .failed false else .ok) ["mongo1"]
      (securedHost keyfileVars)).nodes "mongo1") := by
  apply (never_open_iff keyfileVars _ ["mongo1"] (securedHost keyfileVars) ?_).mpr ?_
  · simp
  · exact fun h _ => guarded_securedHost keyfileVars h
  · exact fun h _ => Or.inr rfl

/-- If no task fails from outside, the file and the server of the only host are left open. -/
theorem initialise_leaves_open :
    Guarded keyfileVars (securedHost keyfileVars "mongo1") ∧
      ((initialise keyfileVars (fun _ _ => .ok) ["mongo1"]
        (securedHost keyfileVars)).nodes "mongo1").mongod =
          some (render keyfileVars "mongo1" (some true)) ∧
      ¬Guarded keyfileVars ((initialise keyfileVars (fun _ _ => .ok) ["mongo1"]
        (securedHost keyfileVars)).nodes "mongo1") := by
  have hmongod : ((initialise keyfileVars (fun _ _ => .ok) ["mongo1"]
      (securedHost keyfileVars)).nodes "mongo1").mongod =
        some (render keyfileVars "mongo1" (some true)) := by
    decide +kernel
  refine ⟨guarded_securedHost keyfileVars "mongo1", hmongod, ?_⟩
  intro hguarded
  exact secured_render_iff.mp (hguarded.2 _ hmongod) rfl

end Mongodb
end ClusterPlaybooks
