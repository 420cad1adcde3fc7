import ClusterPlaybooks.Ansible.History
import ClusterPlaybooks.ZooKeeper.KeyStores

/-!
# Which runs supply the key stores

A run of the setup brings the stores along whenever it needs them.  A run of the
migration to mutual TLS brings them along only when {lit}`zookeeperSslQuorum` is
on already, and a run of the upgrade never does.

Main results:

- Theorems {lit}`copyFiles_ensures` and {lit}`configure_ensures`: the role
  {lit}`copyFiles` brings the stores along when encryption is on, and a version
  configured after that is ready to be started.
- Theorems {lit}`setup_ready`, {lit}`upgrade_ready`, {lit}`migration_ready`: complete
  runs that are supplied with stores start no node without them.
-/

namespace ClusterPlaybooks
namespace ZooKeeper

open Ansible
open Service
open Text

/-! ## Preparing a version -/

/-- While a version is prepared only its own directory may be unfinished. -/
structure StoreView.Preparing (v : Vars) (w : StoreView) : Prop where
  stocked : w.Stocked
  others : ∀ d, d ≠ v.versionDir → w.live = some d → w.DirOk d

/-- Encryption is off, or both stores are there. -/
def StoreView.Supply (v : Vars) (w : StoreView) : Prop :=
  v.zookeeperSslQuorum = true → w.Holds v

/-- The version is ready to be switched to. -/
structure StoreView.Prepared (v : Vars) (w : StoreView) : Prop extends w.Preparing v where
  own : w.DirOk v.versionDir

/-- What the plays that prepare a version cannot falsify. -/
structure Closed (v : Vars) (P : StoreView → Prop) : Prop where
  update : ∀ w z, P w → P (w.write v.versionDir z)
  link : ∀ w, P w → P (w.switch v.versionDir)
  copy : ∀ w path, P w → P (w.upload path)

section Preparing

variable {v : Vars} {w : StoreView}

theorem StoreView.Ready.preparing (hw : w.Ready) : w.Preparing v :=
  ⟨hw.stocked, fun d _ => hw.live d⟩

theorem StoreView.Prepared.ready (hw : w.Prepared v) : w.Ready := by
  refine ⟨hw.stocked, fun d hd => ?_⟩
  by_cases heq : d = v.versionDir
  · exact heq ▸ hw.own
  · exact hw.others d heq hd

/-- More uploaded files do not harm a directory. -/
theorem StoreView.DirOk.upload {d : String} (hw : w.DirOk d) (path : String) :
    (w.upload path).DirOk d :=
  fun f hf => (hw f hf).mono fun _ => w.upload_mono

/-- More uploaded files do not remove stores. -/
theorem StoreView.Holds.upload (hw : w.Holds v) (path : String) :
    (w.upload path).Holds v :=
  ⟨w.upload_mono hw.1, w.upload_mono hw.2⟩

/-- Preparing a version leaves the other directories and the log alone. -/
theorem preparing_closed : Closed v (StoreView.Preparing v) where
  update := by
    intro w z hw
    refine ⟨hw.stocked, fun d hne hd f hf => ?_⟩
    rw [w.write_of_ne hne] at hf
    exact hw.others d hne hd f hf
  link := fun w hw => ⟨hw.stocked, fun d hne hd => absurd (Option.some.inj hd).symm hne⟩
  copy := fun w path hw => ⟨hw.stocked, fun d hne hd => (hw.others d hne hd).upload path⟩

/-- It does not take stores away, either. -/
theorem supplied_closed : Closed v fun w => w.Preparing v ∧ w.Supply v where
  update := fun w z hw => ⟨preparing_closed.update w z hw.1, hw.2⟩
  link := fun w hw => ⟨preparing_closed.link w hw.1, hw.2⟩
  copy := fun w path hw =>
    ⟨preparing_closed.copy w path hw.1, fun hon => (hw.2 hon).upload path⟩

/-- A node that is ready stays ready when it is started. -/
theorem ready_keptByStart : KeptByStart StoreView.Ready := by
  intro w st hw hloaded huploads
  refine ⟨fun st' hst' => ?_, hw.live⟩
  rcases List.mem_cons.mp hst' with rfl | hmem
  · apply stocked_of_present
    intro f hf
    rw [hloaded] at hf
    rcases Option.bind_eq_some_iff.mp hf with ⟨d, hd, hfd⟩
    rw [huploads]
    exact hw.live d hd f hfd
  · exact hw.stocked st' hmem

theorem prepared_keptByStart : KeptByStart (StoreView.Prepared v) := by
  intro w st hw hloaded huploads
  have hready := ready_keptByStart w st hw.ready hloaded huploads
  exact ⟨⟨hready.stocked, hw.others⟩, hw.own⟩

end Preparing

/-! ## The roles -/

section Roles

variable {inv : Inventory} {v : Vars} {h : Host} {P : StoreView → Prop}

/-- Any file of a version may be written. -/
theorem template_closed (hP : Closed v P) (file : ConfFile) :
    (call (template v.versionDir file (render inv v file) (some "configStatus"))).Keeps h
      (Seen P) := by
  by_cases hfile : file = .zooCfg
  · subst hfile
    exact zooCfgTemplate_seen fun w c hw _ => hP.update w (some c) hw
  · exact otherTemplate_seen hfile

theorem configure_closed (hP : Closed v P) : TasksKeep h (Seen P) (configure inv v) :=
  configure_keep (otherTemplate_seen (by decide)) (template_closed hP)

theorem download_closed (hP : Closed v P) : TasksKeep h (Seen P) (download v) :=
  download_keep (unarchiveInto_seen hP.update) fileDirectory_seen

theorem install_closed (hP : Closed v P) : TasksKeep h (Seen P) (install v) :=
  install_keep (unarchiveInto_seen hP.update) fileDirectory_seen (fileLink_seen hP.link)

theorem copyFiles_closed (hcopy : ∀ w path, P w →
    P (w.upload path)) :
    TasksKeep h (Seen P) (copyFiles v) :=
  copyFiles_keep fun dest => copy_seen fun w => hcopy w dest

theorem common_seen : TasksKeep h (Seen P) (common v) :=
  common_keep fun _ => fileDirectory_seen

/-- The role {lit}`copyFiles` brings the stores along when encryption is on. -/
theorem copyFiles_ensures (hfiles : v.zookeeperCopyFiles =
      some [v.zookeeperSslQuorumKeystoreLocation, v.zookeeperSslQuorumTruststoreLocation])
    (hcopy : ∀ w path, P w → P (w.upload path)) :
    Ensures calm h (Seen P) ((copyFiles v).flatMap Task.items)
      (Seen fun w => P w ∧ w.Supply v) := by
  have hitems : (copyFiles v).flatMap Task.items =
      [callWhen (fun _ _ => some v.zookeeperSslQuorum) (copy v.zookeeperSslQuorumKeystoreLocation),
        callWhen (fun _ _ => some v.zookeeperSslQuorum)
          (copy v.zookeeperSslQuorumTruststoreLocation)] := by
    simp [copyFiles, hfiles]
  rw [hitems]
  have hkey : (callWhen (fun _ _ => some v.zookeeperSslQuorum)
      (copy v.zookeeperSslQuorumKeystoreLocation)).Gives h (Seen P) (Seen fun w => P w ∧
        (v.zookeeperSslQuorum = true →
          w.uploads v.zookeeperSslQuorumKeystoreLocation = true)) := by
    apply callWhen_gives
    · intro n hn hoff
      exact ⟨hn, fun hon => by simp [hon] at hoff⟩
    · intro n x n' hn _ heff
      cases heff
      exact ⟨hcopy _ _ hn, fun _ => (storeView n).upload_self _⟩
  have htrust : (callWhen (fun _ _ => some v.zookeeperSslQuorum)
      (copy v.zookeeperSslQuorumTruststoreLocation)).Gives h (Seen fun w => P w ∧
        (v.zookeeperSslQuorum = true → w.uploads v.zookeeperSslQuorumKeystoreLocation = true))
      (Seen fun w => P w ∧ w.Supply v) := by
    apply callWhen_gives
    · intro n hn hoff
      exact ⟨hn.1, fun hon => by simp [hon] at hoff⟩
    · intro n x n' hn _ heff
      cases heff
      exact ⟨hcopy _ _ hn.1, fun hon =>
        ⟨(storeView n).upload_mono (hn.2 hon), (storeView n).upload_self _⟩⟩
  exact Ensures.cons (stable_calm _) (stable_calm _) hkey
    (Ensures.single (stable_calm _) (stable_calm _) htrust)

/-- Configuring a version finishes its directory. -/
theorem configure_ensures :
    Ensures calm h (Seen fun w => w.Preparing v ∧ w.Supply v)
      ((configure inv v).flatMap Task.items) (Seen (StoreView.Prepared v)) := by
  have hzooCfg : (call (template v.versionDir .zooCfg (render inv v .zooCfg)
      (some "configStatus"))).Gives h (Seen fun w => w.Preparing v ∧ w.Supply v)
      (Seen (StoreView.Prepared v)) := by
    refine zooCfgTemplate_seen_gives fun w c hw hc => ?_
    refine ⟨preparing_closed.update w _ hw.1, fun f hf => ?_⟩
    rw [w.write_self] at hf
    cases hf
    exact zooCfg_present hc hw.2
  refine Ensures.cons (stable_calm _) (stable_calm _) (otherTemplate_seen (by decide)).gives ?_
  refine Ensures.cons (stable_calm _) (stable_calm _) hzooCfg ?_
  -- the other three files do not matter
  refine Ensures.cons (stable_calm _) (stable_calm _) (otherTemplate_seen (by decide)).gives ?_
  refine Ensures.cons (stable_calm _) (stable_calm _) (otherTemplate_seen (by decide)).gives ?_
  exact Ensures.single (stable_calm _) (stable_calm _) (otherTemplate_seen (by decide)).gives

end Roles

/-! ## Complete runs that are supplied -/

/-- The variables of a run: a version with quorum encryption, and both stores to upload. -/
structure Guided (v : Vars) : Prop where
  version : versionGe v.zookeeperVersion "3.5.5" = some true
  copyFiles : v.zookeeperCopyFiles =
    some [v.zookeeperSslQuorumKeystoreLocation, v.zookeeperSslQuorumTruststoreLocation]

section Runs

variable {inv : Inventory} {v : Vars} {h : Host} {P : StoreView → Prop}

/-- The tasks of the setup before the upload. -/
def installTasks (v : Vars) : List ZkTask :=
  gatherFacts :: (if v.systemUpgradeRequired then systemUpgrade else []) ++ java ++ common v ++
    install v

/-- The tasks of the first play of the setup. -/
def setupTasks (inv : Inventory) (v : Vars) : List ZkTask :=
  installTasks v ++ copyFiles v ++ configure inv v ++ service

/-- The tasks of the second play of the setup. -/
def startTasks (v : Vars) : List ZkTask :=
  serviceState "zookeeper" .started always :: portCheck [v.zookeeperClientPort] always ++
    portCheck [v.zookeeperSecureClientPort] fun _ _ => some v.zookeeperSslQuorum

theorem installTasks_closed (hP : Closed v P) : TasksKeep h (Seen P) (installTasks v) := by
  simp only [installTasks, tasksKeep_append, tasksKeep_cons]
  refine ⟨⟨⟨⟨gatherFacts_keeps, ?_⟩, java_keep⟩, common_seen⟩, install_closed hP⟩
  split
  · exact systemUpgrade_keep
  · exact tasksKeep_nil

theorem setupTasks_closed (hP : Closed v P) : TasksKeep h (Seen P) (setupTasks inv v) := by
  simp only [setupTasks, tasksKeep_append]
  exact ⟨⟨⟨installTasks_closed hP, copyFiles_closed hP.copy⟩, configure_closed hP⟩, service_keep⟩

theorem startTasks_keep (hstart : KeptByStart P) : TasksKeep h (Seen P) (startTasks v) := by
  simp only [startTasks, tasksKeep_append, tasksKeep_cons]
  exact ⟨⟨serviceState_keeps (started_seen hstart), portCheck_keep⟩, portCheck_keep⟩

/-- The plays of the setup keep what is closed. -/
theorem setup_keep (hP : Closed v P) (hstart : KeptByStart P) :
    ∀ p ∈ clusterSetup inv v, TasksKeep h (Seen P) p.tasks := by
  intro p hp
  rcases List.mem_pair.mp hp with rfl | rfl
  · exact setupTasks_closed hP
  · exact startTasks_keep hstart

/-- The tasks of the second play of the upgrade. -/
def upgradeTasks (inv : Inventory) (v : Vars) : List ZkTask :=
  gatherFacts :: download v ++ configure inv v

/-- The tasks of the last play of the upgrade. -/
def switchTasks (v : Vars) : List ZkTask :=
  createSymlink v ++ restartAndCheck v always

theorem upgradeTasks_closed (hP : Closed v P) : TasksKeep h (Seen P) (upgradeTasks inv v) := by
  simp only [upgradeTasks, tasksKeep_append, tasksKeep_cons]
  exact ⟨⟨gatherFacts_keeps, download_closed hP⟩, configure_closed hP⟩

theorem javaAndCommon_seen : TasksKeep h (Seen P) (gatherFacts :: java ++ common v) := by
  simp only [tasksKeep_append, tasksKeep_cons]
  exact ⟨⟨gatherFacts_keeps, java_keep⟩, common_seen⟩

theorem switchTasks_keep (hlink : ∀ w, P w → P (w.switch v.versionDir))
    (hstart : KeptByStart P) : TasksKeep h (Seen P) (switchTasks v) :=
  tasksKeep_append.mpr
    ⟨createSymlink_keep (fileLink_seen hlink), restartAndCheck_keep (restarted_seen hstart)⟩

/-- The plays of the upgrade keep what is closed. -/
theorem upgrade_keep (hP : Closed v P) (hstart : KeptByStart P) :
    ∀ p ∈ clusterUpgrade inv v, TasksKeep h (Seen P) p.tasks := by
  intro p hp
  simp only [clusterUpgrade, List.mem_cons, List.not_mem_nil, or_false] at hp
  rcases hp with rfl | rfl | rfl | rfl
  · exact javaAndCommon_seen
  · exact upgradeTasks_closed hP
  · simp [Inventory.onLocalhost, onAll]
  · exact switchTasks_keep hP.link hstart

/-- The plays of the migration keep what is closed. -/
theorem migration_keep (hP : Closed v P) (hstart : KeptByStart P) :
    ∀ p ∈ clusterMigrateToMtls inv v, TasksKeep h (Seen P) p.tasks := by
  have hrender : ∀ portUnification,
      (dynamicConfigs inv (v.withTls portUnification) .zooCfg).Keeps h (Seen P) := fun _ =>
    dynamicConfigs_keeps (zooCfgTemplate_seen fun w c hw _ => hP.update w (some c) hw)
  have hlines : (sslQuorumBasicSettings v).Keeps h (Seen P) := by
    intro a ha
    simp only [sslQuorumBasicSettings, List.mem_cons, List.not_mem_nil, or_false] at ha
    rcases ha with rfl | rfl | rfl | rfl | rfl | rfl | rfl <;>
      exact editFile_seen fun w c hw _ => hP.update w _ hw
  have hrestart : TasksKeep h (Seen P) (restartAndCheck v always) :=
    restartAndCheck_keep (restarted_seen hstart)
  intro p hp
  simp only [clusterMigrateToMtls, List.mem_cons, List.not_mem_nil, or_false] at hp
  rcases hp with rfl | rfl | rfl | rfl | rfl | rfl | rfl
  · simp only [Inventory.onNodes, onAll, tasksKeep_cons]
    exact ⟨gatherFacts_keeps, copyFiles_closed hP.copy⟩
  · simp only [Inventory.rolling, oneByOne, tasksKeep_cons]
    exact ⟨gatherFacts_keeps, hlines, hrestart⟩
  · simp [Inventory.onLocalhost, onAll]
  · simp only [Inventory.rolling, oneByOne, tasksKeep_cons]
    exact ⟨gatherFacts_keeps, hrender _, hrestart⟩
  · simp [Inventory.onLocalhost, onAll]
  · simp only [Inventory.rolling, oneByOne, tasksKeep_cons]
    exact ⟨gatherFacts_keeps, hrender _, hrestart⟩
  · simp [Inventory.onLocalhost, onAll]

/-- A play all of whose calls keep an assertion about cluster nodes. -/
theorem steadyNodes_valid {p : ZkPlay} {I : ZkNode → Prop} (hkeeps : ∀ h, TasksKeep h I p.tasks) :
    (Stage.steady p (AllNodes inv I)).Valid calm :=
  Stage.steady_valid (fun _ => stable_calm _) fun h _ a ha => (hkeeps h a ha).imp

/-- The proof outline of the setup. -/
def setupOutline (inv : Inventory) (v : Vars) : List (Stage Host ZkNode Choice) :=
  [Stage.part (· ∈ inv.clusterNodes) (inv.onNodes (setupTasks inv v)) (Seen StoreView.Ready)
      (Seen (StoreView.Preparing v)) (Seen (StoreView.Prepared v)),
    Stage.steady (inv.rolling (startTasks v)) (AllNodes inv (Seen (StoreView.Prepared v)))]

/-- The first play of the setup leaves a version ready to be started. -/
theorem setupTasks_ensures (hvars : Guided v) :
    Ensures calm h (Seen StoreView.Ready) ((setupTasks inv v).flatMap Task.items)
      (Seen (StoreView.Prepared v)) := by
  have hinstall : Ensures calm h (Seen (StoreView.Preparing v))
      ((installTasks v).flatMap Task.items) (Seen (StoreView.Preparing v)) :=
    Ensures.of_keeps (stable_calm _) (installTasks_closed preparing_closed)
  have hservice : Ensures calm h (Seen (StoreView.Prepared v))
      (service.flatMap Task.items) (Seen (StoreView.Prepared v)) :=
    Ensures.of_keeps (stable_calm _) service_keep
  rw [setupTasks, List.flatMap_append, List.flatMap_append, List.flatMap_append]
  have hupload := hinstall.append (copyFiles_ensures hvars.copyFiles preparing_closed.copy)
  exact ((hupload.append configure_ensures).append hservice).consequence
    (fun _ hn => StoreView.Ready.preparing hn) fun _ hn => hn

/-- A run of the setup leaves the nodes ready. -/
theorem setup_ready (hvars : Guided v) {nodes : Host → ZkNode}
    (hnodes : ∀ h ∈ inv.clusterNodes, (storeView (nodes h)).Ready)
    {es : List (Event Host Choice Empty)} {s : State Host ZkNode Choice}
    (hrun : run calm (launch Node.forget (clusterSetup inv v) nodes) es = some s)
    (hsucc : s.succeeded = true) :
    ∀ h ∈ inv.clusterNodes, (storeView (s.nodes h)).Ready := by
  have hvalid : ∀ st ∈ setupOutline inv v, st.Valid calm := by
    intro st hst
    rcases List.mem_pair.mp hst with rfl | rfl
    · exact Stage.part_valid (stable_calm _) (stable_calm _) (stable_calm _) (fun _ hh => hh)
        (fun _ hn => StoreView.Ready.preparing hn) (fun _ _ => setupTasks_closed preparing_closed)
        fun _ _ => setupTasks_ensures hvars
    · exact steadyNodes_valid fun _ => startTasks_keep prepared_keptByStart
  have hchain : Chained (AllNodes inv (Seen StoreView.Ready)) (setupOutline inv v) :=
    ⟨fun _ _ hn => hn, fun _ _ hn => hn, trivial⟩
  have hbefore : ∀ h, AllNodes inv (Seen StoreView.Ready) h (nodes h).forget := hnodes
  intro h hh
  exact (outline_calm hvalid hchain hbefore hrun hsucc h hh).ready

/-- The proof outline of the upgrade. -/
def upgradeOutline (inv : Inventory) (v : Vars) : List (Stage Host ZkNode Choice) :=
  [Stage.steady (inv.onNodes (gatherFacts :: java ++ common v))
      (AllNodes inv (Seen fun w => w.Ready ∧ w.Supply v)),
    Stage.part (· ∈ inv.clusterNodes) (inv.onNodes (upgradeTasks inv v))
      (Seen fun w => w.Ready ∧ w.Supply v) (Seen fun w => w.Preparing v ∧ w.Supply v)
      (Seen (StoreView.Prepared v)),
    Stage.steady (inv.onLocalhost "Switching zookeeper Version on all nodes (Rolling fashion)")
      (AllNodes inv (Seen (StoreView.Prepared v))),
    Stage.steady (inv.rolling (switchTasks v)) (AllNodes inv (Seen (StoreView.Prepared v)))]

/-- The second play of the upgrade leaves a version ready to be switched to. -/
theorem upgradeTasks_ensures :
    Ensures calm h (Seen fun w => w.Ready ∧ w.Supply v)
      ((upgradeTasks inv v).flatMap Task.items) (Seen (StoreView.Prepared v)) := by
  have hdownload : Ensures calm h (Seen fun w => w.Preparing v ∧ w.Supply v)
      ((gatherFacts :: download v).flatMap Task.items)
      (Seen fun w => w.Preparing v ∧ w.Supply v) :=
    Ensures.of_keeps (stable_calm _)
      (tasksKeep_cons.mpr ⟨gatherFacts_keeps, download_closed supplied_closed⟩)
  rw [upgradeTasks, List.flatMap_append]
  exact (hdownload.append configure_ensures).consequence
    (fun _ hn => ⟨hn.1.preparing, hn.2⟩) fun _ hn => hn

/-- Switching the link to a prepared version leaves it prepared. -/
theorem StoreView.Prepared.switch {w : StoreView} (hw : w.Prepared v) :
    (w.switch v.versionDir).Prepared v :=
  ⟨preparing_closed.link w hw.toPreparing, hw.own⟩

/-- A run of the upgrade that is supplied with stores leaves the nodes ready. -/
theorem upgrade_ready {nodes : Host → ZkNode}
    (hnodes : ∀ h ∈ inv.clusterNodes, (storeView (nodes h)).Ready)
    (hsupply : ∀ h ∈ inv.clusterNodes, (storeView (nodes h)).Supply v)
    {es : List (Event Host Choice Empty)} {s : State Host ZkNode Choice}
    (hrun : run calm (launch Node.forget (clusterUpgrade inv v) nodes) es = some s)
    (hsucc : s.succeeded = true) :
    ∀ h ∈ inv.clusterNodes, (storeView (s.nodes h)).Ready := by
  have hvalid : ∀ st ∈ upgradeOutline inv v, st.Valid calm := by
    intro st hst
    simp only [upgradeOutline, List.mem_cons, List.not_mem_nil, or_false] at hst
    rcases hst with rfl | rfl | rfl | rfl
    · exact steadyNodes_valid fun _ => javaAndCommon_seen
    · exact Stage.part_valid (stable_calm _) (stable_calm _) (stable_calm _) (fun _ hh => hh)
        (fun _ hn => ⟨hn.1.preparing, hn.2⟩) (fun _ _ => upgradeTasks_closed supplied_closed)
        fun _ _ => upgradeTasks_ensures
    · exact onLocalhost_valid fun _ => stable_calm _
    · exact steadyNodes_valid fun _ =>
        switchTasks_keep (fun _ hw => hw.switch) prepared_keptByStart
  have hsame : ∀ (A : Host → ZkNode → Prop) h n, A h n → A h n := fun _ _ _ hn => hn
  have hchain : Chained (AllNodes inv (Seen fun w => w.Ready ∧ w.Supply v))
      (upgradeOutline inv v) := ⟨hsame _, hsame _, hsame _, hsame _, trivial⟩
  have hbefore : ∀ h, AllNodes inv (Seen fun w => w.Ready ∧ w.Supply v) h (nodes h).forget :=
    fun h hh => ⟨hnodes h hh, hsupply h hh⟩
  intro h hh
  exact (outline_calm hvalid hchain hbefore hrun hsucc h hh).ready

/-- The stores are there if the directory of the version is live. -/
structure StoreView.Migratable (v : Vars) (w : StoreView) : Prop extends w.Ready where
  stores : w.live = some v.versionDir → w.Holds v

/-- A {lit}`zoo.cfg` of the version may be replaced by one whose stores are there. -/
theorem StoreView.Migratable.write {w : StoreView} {c : ConfigFile} (hw : w.Migratable v)
    (hc : w.live = some v.versionDir → Present w.uploads c) :
    (w.write v.versionDir (some c)).Migratable v := by
  refine ⟨⟨hw.stocked, fun d hd f hf => ?_⟩, hw.stores⟩
  by_cases heq : d = v.versionDir
  · subst heq
    rw [w.write_self] at hf
    cases hf
    exact hc hd
  · rw [w.write_of_ne heq] at hf
    exact hw.live d hd f hf

theorem migratable_keptByStart : KeptByStart (StoreView.Migratable v) :=
  fun w st hw hloaded huploads =>
    ⟨ready_keptByStart w st hw.toReady hloaded huploads, hw.stores⟩

/-- A line that names no store, or one that is there, does no harm. -/
theorem Present.lineinfile {uploads : String → Bool} {f : ConfigFile} {re key value : String}
    (hf : Present uploads f)
    (hkeys : ∀ k ∈ storeKeys,
      (k = key ∧ uploads value = true ∧ ∀ x, (Line.entry k x).found re = true) ∨
        (k ≠ key ∧ ∀ x, (Line.entry k x).found re = false)) :
    Present uploads (lineinfile re (.entry key value) f) := by
  intro k hk path hpath
  rcases hkeys k hk with ⟨rfl, hvalue, hfound⟩ | ⟨hne, hnot⟩
  · rw [lookup_lineinfile_self re k value f hfound] at hpath
    exact Option.some.inj hpath ▸ hvalue
  · rw [lookup_lineinfile_of_not_found re key k value f hne hnot] at hpath
    exact hf k hk path hpath

/-- The basic settings only name stores that are there. -/
theorem basicSettings_migratable :
    (sslQuorumBasicSettings v).Keeps h (Seen (StoreView.Migratable v)) := by
  have hline : ∀ re key value, (∀ w : StoreView, w.Holds v → ∀ k ∈ storeKeys,
      (k = key ∧ w.uploads value = true ∧ ∀ x, (Line.entry k x).found re = true) ∨
        (k ≠ key ∧ ∀ x, (Line.entry k x).found re = false)) →
      (zooCfgLine v re key value).Keeps h (Seen (StoreView.Migratable v)) := by
    intro re key value hkeys
    refine editFile_seen fun w c hw hc => hw.write fun hlive => ?_
    exact (hw.live _ hlive c hc).lineinfile (hkeys w (hw.stores hlive))
  have hother : ∀ re key value,
      ("ssl.quorum.keyStore.location" ≠ key ∧
        ∀ x, (Line.entry "ssl.quorum.keyStore.location" x).found re = false) →
      ("ssl.quorum.trustStore.location" ≠ key ∧
        ∀ x, (Line.entry "ssl.quorum.trustStore.location" x).found re = false) →
      (zooCfgLine v re key value).Keeps h (Seen (StoreView.Migratable v)) :=
    fun re key value hkey htrust => hline re key value fun _ _ =>
      forall_storeKeys.mpr ⟨Or.inr hkey, Or.inr htrust⟩
  intro a ha
  simp only [sslQuorumBasicSettings, List.mem_cons, List.not_mem_nil, or_false] at ha
  rcases ha with rfl | rfl | rfl | rfl | rfl | rfl | rfl
  · exact hother _ _ _ ⟨by decide, fun _ => rfl⟩ ⟨by decide, fun _ => rfl⟩
  · exact hother _ _ _ ⟨by decide, fun _ => rfl⟩ ⟨by decide, fun _ => rfl⟩
  · exact hother _ _ _ ⟨by decide, fun _ => rfl⟩ ⟨by decide, fun _ => rfl⟩
  · exact hother _ _ _ ⟨by decide, fun _ => rfl⟩ ⟨by decide, fun _ => rfl⟩
  · refine hline _ _ _ fun w hw => forall_storeKeys.mpr ⟨?_, ?_⟩
    · exact Or.inl ⟨rfl, hw.1, fun _ => rfl⟩
    · exact Or.inr ⟨by decide, fun _ => rfl⟩
  · refine hline _ _ _ fun w hw => forall_storeKeys.mpr ⟨?_, ?_⟩
    · exact Or.inr ⟨by decide, fun _ => rfl⟩
    · exact Or.inl ⟨rfl, hw.2, fun _ => rfl⟩
  · exact hother _ _ _ ⟨by decide, fun _ => rfl⟩ ⟨by decide, fun _ => rfl⟩

/-- Rendering {lit}`zoo.cfg` only names stores that are there. -/
theorem dynamicConfigs_migratable {portUnification : String} :
    (dynamicConfigs inv (v.withTls portUnification) .zooCfg).Keeps h
      (Seen (StoreView.Migratable v)) :=
  dynamicConfigs_keeps (zooCfgTemplate_seen fun _ _ hw hc =>
    hw.write fun hlive => zooCfg_present hc fun _ => hw.stores hlive)

/-- The upload play brings the stores along, or they are there already if they are needed. -/
def StoreView.Uploadable (v : Vars) (w : StoreView) : Prop :=
  w.Ready ∧ (v.zookeeperSslQuorum = true ∨ (w.live = some v.versionDir → w.Holds v))

/-- The proof outline of the migration: after the upload one assertion holds to the end. -/
def migrationOutline (inv : Inventory) (v : Vars) : List (Stage Host ZkNode Choice) :=
  Stage.part (· ∈ inv.clusterNodes) (inv.onNodes (gatherFacts :: copyFiles v))
    (Seen (StoreView.Uploadable v)) (Seen StoreView.Ready) (Seen (StoreView.Migratable v)) ::
  (clusterMigrateToMtls inv v).tail.map fun p =>
    Stage.steady p (AllNodes inv (Seen (StoreView.Migratable v)))

/-- Ready nodes stay ready when files are uploaded. -/
theorem StoreView.Ready.upload {w : StoreView} (hw : w.Ready) (path : String) :
    (w.upload path).Ready :=
  ⟨hw.stocked, fun d hd => (hw.live d hd).upload path⟩

/-- After the upload play the stores of a live version are there. -/
theorem upload_ensures (hvars : Guided v) :
    Ensures calm h (Seen (StoreView.Uploadable v))
      ((gatherFacts :: copyFiles v).flatMap Task.items) (Seen (StoreView.Migratable v)) := by
  have hclosed : ∀ w path, StoreView.Uploadable v w → (w.upload path).Uploadable v :=
    fun w path hw => ⟨hw.1.upload path, hw.2.imp_right fun hlive hd => (hlive hd).upload path⟩
  refine Ensures.cons (stable_calm _) (stable_calm _) noEffect_keeps.gives ?_
  refine (copyFiles_ensures hvars.copyFiles hclosed).consequence (fun _ hn => hn)
    fun n hn => ⟨hn.1.1, fun hlive => ?_⟩
  rcases hn.1.2 with hon | hthere
  · exact hn.2 hon
  · exact hthere hlive

/-- The rolling plays of the migration keep the stores in order. -/
theorem migration_tail_keep :
    ∀ p ∈ (clusterMigrateToMtls inv v).tail,
      TasksKeep h (Seen (StoreView.Migratable v)) p.tasks := by
  have hrestart : TasksKeep h (Seen (StoreView.Migratable v)) (restartAndCheck v always) :=
    restartAndCheck_keep (restarted_seen migratable_keptByStart)
  intro p hp
  simp only [clusterMigrateToMtls, List.tail_cons, List.mem_cons, List.not_mem_nil,
    or_false] at hp
  rcases hp with rfl | rfl | rfl | rfl | rfl | rfl
  · simp only [Inventory.rolling, oneByOne, tasksKeep_cons]
    exact ⟨gatherFacts_keeps, basicSettings_migratable, hrestart⟩
  · simp [Inventory.onLocalhost, onAll]
  · simp only [Inventory.rolling, oneByOne, tasksKeep_cons]
    exact ⟨gatherFacts_keeps, dynamicConfigs_migratable, hrestart⟩
  · simp [Inventory.onLocalhost, onAll]
  · simp only [Inventory.rolling, oneByOne, tasksKeep_cons]
    exact ⟨gatherFacts_keeps, dynamicConfigs_migratable, hrestart⟩
  · simp [Inventory.onLocalhost, onAll]

/-- A run of the migration that is supplied with stores leaves the nodes ready. -/
theorem migration_ready (hvars : Guided v) {nodes : Host → ZkNode}
    (hnodes : ∀ h ∈ inv.clusterNodes, (storeView (nodes h)).Ready)
    (hsupply : v.zookeeperSslQuorum = true ∨ ∀ h ∈ inv.clusterNodes,
      (nodes h).live = some v.versionDir → (storeView (nodes h)).Holds v)
    {es : List (Event Host Choice Empty)} {s : State Host ZkNode Choice}
    (hrun : run calm (launch Node.forget (clusterMigrateToMtls inv v) nodes) es = some s)
    (hsucc : s.succeeded = true) :
    ∀ h ∈ inv.clusterNodes, (storeView (s.nodes h)).Ready := by
  have hvalid : ∀ st ∈ migrationOutline inv v, st.Valid calm := by
    intro st hst
    rcases List.mem_cons.mp hst with rfl | hst
    · refine Stage.part_valid (stable_calm _) (stable_calm _) (stable_calm _) (fun _ hh => hh)
        (fun _ hn => hn.1) (fun _ _ => ?_) fun _ _ => upload_ensures hvars
      exact tasksKeep_cons.mpr
        ⟨gatherFacts_keeps, copyFiles_closed fun w path hw => hw.upload path⟩
    · rcases List.mem_map.mp hst with ⟨p, hp, rfl⟩
      exact steadyNodes_valid fun _ => migration_tail_keep p hp
  have hchain : Chained (AllNodes inv (Seen (StoreView.Uploadable v))) (migrationOutline inv v) :=
    ⟨fun _ _ hn => hn, chained_steady _ _⟩
  have hbefore : ∀ h, AllNodes inv (Seen (StoreView.Uploadable v)) h (nodes h).forget :=
    fun h hh => ⟨hnodes h hh, hsupply.imp_right fun hall => hall h hh⟩
  intro h hh
  exact (outline_calm hvalid hchain hbefore hrun hsucc h hh).toReady

end Runs

end ZooKeeper
end ClusterPlaybooks
