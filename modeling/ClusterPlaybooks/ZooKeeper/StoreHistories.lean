import ClusterPlaybooks.Ansible.Schedule
import ClusterPlaybooks.ZooKeeper.StoreSupply

/-!
# Key stores over histories of runs

A run of the migration to mutual TLS with {lit}`zookeeperSslQuorum` off writes the
names of the stores into {lit}`zoo.cfg` and restarts the nodes, but it does not
upload the stores.  A run of the upgrade with {lit}`zookeeperSslQuorum` on renders a
{lit}`zoo.cfg` that names the stores of the new version and does not upload them,
either.  Unless the stores are there already, the restarted nodes miss them.

Main results:

- Theorems {lit}`upgrade_bare` and {lit}`migration_bare`: complete runs without a supply
  of stores start a node without them.
- Theorem {lit}`stores_present_iff`: over a whole history no node is started without
  its stores exactly if every run was supplied.
- Theorem {lit}`migration_without_stores`: the migration of a node after its setup, with
  the variables of the guide.
-/

namespace ClusterPlaybooks
namespace ZooKeeper

open Ansible
open Service
open Text

/-! ## Starts without stores -/

/-- Some start in the log did not find its stores. -/
def StoreView.Bare (w : StoreView) : Prop :=
  ∃ st ∈ w.starts, stocked st = false

/-- The {lit}`zoo.cfg` of the version names the stores of the variables. -/
def StoreView.Named (v : Vars) (w : StoreView) : Prop :=
  ∃ f, w.zooCfg v.versionDir = some f ∧ storeKeys.map (lookup · f) =
    [some v.zookeeperSslQuorumKeystoreLocation, some v.zookeeperSslQuorumTruststoreLocation]

/-- The version is live, and a store of the variables is missing. -/
def StoreView.Missing (v : Vars) (w : StoreView) : Prop :=
  w.live = some v.versionDir ∧ ¬ w.Holds v

section Bare

variable {inv : Inventory} {v : Vars} {h : Host}

theorem bare_closed : Closed v StoreView.Bare :=
  ⟨fun _ _ hw => hw, fun _ hw => hw, fun _ _ hw => hw⟩

theorem bare_keptByStart : KeptByStart StoreView.Bare := by
  intro w st hw _ _
  rcases hw with ⟨st', hst', hbare⟩
  exact ⟨st', List.mem_cons_of_mem st hst', hbare⟩

/-- A view with all starts stocked has no bare one. -/
theorem StoreView.Bare.not_stocked {w : StoreView} (hw : w.Bare) : ¬ w.Stocked := by
  intro hstocked
  rcases hw with ⟨st, hst, hbare⟩
  rw [hstocked st hst] at hbare
  cases hbare

/-- A restart from a {lit}`zoo.cfg` that names a missing store is bare. -/
theorem restarted_bare :
    (call restarted).Gives h (Seen fun w => w.Missing v ∧ w.Named v) (Seen StoreView.Bare) := by
  apply call_gives
  intro n x n' hn heff
  cases heff
  rcases view_startService n x.alive x.ports with ⟨st, hloaded, huploads, heq⟩
  rcases hn with ⟨⟨hlive, hmissing⟩, f, hf, hstores⟩
  rw [Seen, heq]
  refine ⟨st, List.mem_cons_self, ?_⟩
  rw [hlive, Option.bind_some, hf] at hloaded
  unfold stocked
  rw [hloaded]
  simp only [hstores, huploads]
  rw [Bool.eq_false_iff]
  intro hboth
  exact hmissing (Bool.and_eq_true_iff.mp hboth)

/-- Restarting from such a {lit}`zoo.cfg` and waiting for the port leaves a bare start. -/
theorem restartAndCheck_bare :
    Ensures calm h (Seen fun w => w.Missing v ∧ w.Named v)
      ((restartAndCheck v always).flatMap Task.items) (Seen StoreView.Bare) :=
  Ensures.cons (stable_calm _) (stable_calm _) restarted_bare
    (Ensures.of_keeps (stable_calm _) portCheck_keep)

/-- A call may do anything to nothing. -/
theorem tasksKeep_true {tasks : List ZkTask} : TasksKeep h (fun _ => True) tasks :=
  fun _ _ _ _ _ _ _ _ => trivial

/-! ## The migration -/

/-- The basic settings name both stores. -/
theorem basicSettings_named :
    Ensures calm h (Seen (StoreView.Missing v)) (sslQuorumBasicSettings v).items
      (Seen fun w => w.Missing v ∧ w.Named v) := by
  have hkeep : ∀ re key value,
      (zooCfgLine v re key value).Keeps h (Seen (StoreView.Missing v)) :=
    fun _ _ _ => editFile_seen fun _ _ hw _ => hw
  have hkey : (zooCfgLine v "ssl.quorum.keyStore.location=" "ssl.quorum.keyStore.location"
      v.zookeeperSslQuorumKeystoreLocation).Gives h (Seen (StoreView.Missing v))
      (Seen fun w => w.Missing v ∧ ∃ f, w.zooCfg v.versionDir = some f ∧
        lookup "ssl.quorum.keyStore.location" f =
          some v.zookeeperSslQuorumKeystoreLocation) := by
    refine editFile_seen_gives fun w c hw _ => ⟨hw, _, w.write_self _ _, ?_⟩
    exact lookup_lineinfile_self _ _ _ c fun _ => rfl
  have htrust : (zooCfgLine v "ssl.quorum.trustStore.location=" "ssl.quorum.trustStore.location"
      v.zookeeperSslQuorumTruststoreLocation).Gives h
      (Seen fun w => w.Missing v ∧ ∃ f, w.zooCfg v.versionDir = some f ∧
        lookup "ssl.quorum.keyStore.location" f = some v.zookeeperSslQuorumKeystoreLocation)
      (Seen fun w => w.Missing v ∧ w.Named v) := by
    refine editFile_seen_gives fun w c hw hc => ⟨hw.1, _, w.write_self _ _, ?_⟩
    rcases hw.2 with ⟨f, hf, hlookup⟩
    rw [hc] at hf
    cases hf
    have hother := lookup_lineinfile_of_not_found "ssl.quorum.trustStore.location="
      "ssl.quorum.trustStore.location" "ssl.quorum.keyStore.location"
      v.zookeeperSslQuorumTruststoreLocation c (by decide) fun _ => rfl
    have hself := lookup_lineinfile_self "ssl.quorum.trustStore.location="
      "ssl.quorum.trustStore.location" v.zookeeperSslQuorumTruststoreLocation c fun _ => rfl
    simp [storeKeys, hother, hself, hlookup]
  have hpassword : (zooCfgLine v "ssl.quorum.trustStore.password="
      "ssl.quorum.trustStore.password" v.zookeeperSslQuorumTruststorePassword).Gives h
      (Seen fun w => w.Missing v ∧ w.Named v) (Seen fun w => w.Missing v ∧ w.Named v) := by
    refine editFile_seen_gives fun w c hw hc => ⟨hw.1, _, w.write_self _ _, ?_⟩
    rcases hw.2 with ⟨f, hf, hstores⟩
    rw [hc] at hf
    cases hf
    have hother : ∀ key ∈ storeKeys, lookup key (lineinfile "ssl.quorum.trustStore.password="
        (.entry "ssl.quorum.trustStore.password" v.zookeeperSslQuorumTruststorePassword) c) =
        lookup key c := forall_storeKeys.mpr
      ⟨lookup_lineinfile_of_not_found _ _ _ _ c (by decide) fun _ => rfl,
        lookup_lineinfile_of_not_found _ _ _ _ c (by decide) fun _ => rfl⟩
    rw [List.map_congr_left hother]
    exact hstores
  refine Ensures.cons (stable_calm _) (stable_calm _) (hkeep _ _ _).gives ?_
  refine Ensures.cons (stable_calm _) (stable_calm _) (hkeep _ _ _).gives ?_
  refine Ensures.cons (stable_calm _) (stable_calm _) (hkeep _ _ _).gives ?_
  refine Ensures.cons (stable_calm _) (stable_calm _) (hkeep _ _ _).gives ?_
  refine Ensures.cons (stable_calm _) (stable_calm _) hkey ?_
  refine Ensures.cons (stable_calm _) (stable_calm _) htrust ?_
  exact Ensures.single (stable_calm _) (stable_calm _) hpassword

/-- The upload play leaves the stores missing when encryption is off. -/
theorem copyFiles_off {I : ZkNode → Prop} (hoff : v.zookeeperSslQuorum = false) :
    TasksKeep h I (gatherFacts :: copyFiles v) := by
  refine tasksKeep_cons.mpr ⟨gatherFacts_keeps, copyFiles_keep fun dest => ?_⟩
  apply callWhen_keeps
  intro n x n' _ hcond _
  simp [hoff] at hcond

/-- The proof outline of a migration without a supply, for the host whose stores are missing. -/
def bareMigrationOutline (inv : Inventory) (v : Vars) (h : Host) :
    List (Stage Host ZkNode Choice) :=
  [Stage.part (· = h) (inv.onNodes (gatherFacts :: copyFiles v)) (Seen (StoreView.Missing v))
      (Seen (StoreView.Missing v)) (Seen (StoreView.Missing v)),
    Stage.part (· = h) (inv.rolling (gatherFacts :: sslQuorumBasicSettings v ::
      restartAndCheck v always)) (Seen (StoreView.Missing v)) (fun _ => True)
      (Seen StoreView.Bare)] ++
  ((clusterMigrateToMtls inv v).drop 2).map fun p =>
    Stage.steady p fun k n => k = h → Seen StoreView.Bare n

/-- A complete migration with encryption off starts a node whose stores are missing without them. -/
theorem migration_bare (hoff : v.zookeeperSslQuorum = false) {nodes : Host → ZkNode}
    (hh : h ∈ inv.clusterNodes) (hlive : (nodes h).live = some v.versionDir)
    (hmissing : ¬ (storeView (nodes h)).Holds v) {es : List (Event Host Choice Empty)}
    {s : State Host ZkNode Choice}
    (hrun : run calm (launch Node.forget (clusterMigrateToMtls inv v) nodes) es = some s)
    (hsucc : s.succeeded = true) : (storeView (s.nodes h)).Bare := by
  have hhost : ∀ k, k = h → k ∈ inv.clusterNodes := fun k hk => hk ▸ hh
  have hvalid : ∀ st ∈ bareMigrationOutline inv v h, st.Valid calm := by
    intro st hst
    simp only [bareMigrationOutline, List.cons_append, List.nil_append, List.mem_cons] at hst
    rcases hst with rfl | rfl | hst
    · exact Stage.part_valid (stable_calm _) (stable_calm _) (stable_calm _) hhost
        (fun _ hn => hn) (fun _ _ => copyFiles_off hoff)
        fun _ _ => Ensures.of_keeps (stable_calm _) (copyFiles_off hoff)
    · refine Stage.part_valid (stable_calm _) (stable_calm _) (stable_calm _) hhost
        (fun _ _ => trivial) (fun _ _ => tasksKeep_true) fun k _ => ?_
      refine Ensures.cons (stable_calm _) (stable_calm _) noEffect_keeps.gives ?_
      exact basicSettings_named.append restartAndCheck_bare
    · rcases List.mem_map.mp hst with ⟨p, hp, rfl⟩
      refine Stage.steady_valid (fun _ => stable_calm _) fun k _ a ha => ?_
      exact (migration_keep bare_closed bare_keptByStart p (List.mem_of_mem_drop hp) a ha).imp
  have hchain : Chained (fun k n => k = h → Seen (StoreView.Missing v) n)
      (bareMigrationOutline inv v h) :=
    ⟨fun _ _ hn => hn, fun _ _ hn => hn, chained_steady _ _⟩
  have hbefore : ∀ k, k = h → Seen (StoreView.Missing v) (nodes k).forget := by
    rintro k rfl
    exact ⟨hlive, hmissing⟩
  exact outline_calm hvalid hchain hbefore hrun hsucc h rfl

/-! ## The upgrade -/

/-- The version is configured with the names of missing stores. -/
theorem upgradeTasks_named (hvars : Guided v) (hon : v.zookeeperSslQuorum = true) :
    Ensures calm h (Seen fun w => ¬ w.Holds v) ((upgradeTasks inv v).flatMap Task.items)
      (Seen fun w => ¬ w.Holds v ∧ w.Named v) := by
  have hdownload : TasksKeep h (Seen fun w => ¬ w.Holds v) (gatherFacts :: download v) :=
    tasksKeep_cons.mpr ⟨gatherFacts_keeps, download_keep (unarchiveInto_seen fun _ _ hw => hw)
      fileDirectory_seen⟩
  have hother : ∀ {d : String} {file : ConfFile} {reg : Option String} {P : StoreView → Prop},
      file ≠ .zooCfg → (call (template d file (render inv v file) reg)).Gives h (Seen P)
        (Seen P) := fun hfile => (otherTemplate_seen hfile).gives
  have hzooCfg : (call (template v.versionDir .zooCfg (render inv v .zooCfg)
      (some "configStatus"))).Gives h (Seen fun w => ¬ w.Holds v)
      (Seen fun w => ¬ w.Holds v ∧ w.Named v) := by
    refine zooCfgTemplate_seen_gives fun w c hw hc => ⟨hw, c, w.write_self _ _, ?_⟩
    rw [zooCfg_stores hc, if_pos ⟨hon, hvars.version⟩]
  rw [upgradeTasks, List.flatMap_append]
  refine (Ensures.of_keeps (stable_calm _) hdownload).append ?_
  refine Ensures.cons (stable_calm _) (stable_calm _) (hother (by decide)) ?_
  refine Ensures.cons (stable_calm _) (stable_calm _) hzooCfg ?_
  refine Ensures.cons (stable_calm _) (stable_calm _) (hother (by decide)) ?_
  refine Ensures.cons (stable_calm _) (stable_calm _) (hother (by decide)) ?_
  exact Ensures.single (stable_calm _) (stable_calm _) (hother (by decide))

/-- Switching to such a version leaves a bare start. -/
theorem switchTasks_bare :
    Ensures calm h (Seen fun w => ¬ w.Holds v ∧ w.Named v) ((switchTasks v).flatMap Task.items)
      (Seen StoreView.Bare) := by
  have hlink : (call (fileLink v.versionDir (some "zookeeperSymlinkStatus"))).Gives h
      (Seen fun w => ¬ w.Holds v ∧ w.Named v) (Seen fun w => w.Missing v ∧ w.Named v) := by
    apply call_gives
    intro n x n' hn heff
    rw [Seen, view_fileLink heff]
    exact ⟨⟨rfl, hn.1⟩, hn.2⟩
  exact Ensures.cons (stable_calm _) (stable_calm _) hlink restartAndCheck_bare

/-- The proof outline of an upgrade without a supply, for the host whose stores are missing. -/
def bareUpgradeOutline (inv : Inventory) (v : Vars) (h : Host) :
    List (Stage Host ZkNode Choice) :=
  [Stage.steady (inv.onNodes (gatherFacts :: java ++ common v))
      (fun k n => k = h → Seen (fun w => ¬ w.Holds v) n),
    Stage.part (· = h) (inv.onNodes (upgradeTasks inv v)) (Seen fun w => ¬ w.Holds v)
      (fun _ => True) (Seen fun w => ¬ w.Holds v ∧ w.Named v),
    Stage.steady (inv.onLocalhost "Switching zookeeper Version on all nodes (Rolling fashion)")
      (fun k n => k = h → Seen (fun w => ¬ w.Holds v ∧ w.Named v) n),
    Stage.part (· = h) (inv.rolling (switchTasks v)) (Seen fun w => ¬ w.Holds v ∧ w.Named v)
      (fun _ => True) (Seen StoreView.Bare)]

/-- A complete upgrade with encryption on starts a node whose stores are missing without them. -/
theorem upgrade_bare (hvars : Guided v) (hon : v.zookeeperSslQuorum = true)
    {nodes : Host → ZkNode} (hh : h ∈ inv.clusterNodes)
    (hmissing : ¬ (storeView (nodes h)).Holds v) {es : List (Event Host Choice Empty)}
    {s : State Host ZkNode Choice}
    (hrun : run calm (launch Node.forget (clusterUpgrade inv v) nodes) es = some s)
    (hsucc : s.succeeded = true) : (storeView (s.nodes h)).Bare := by
  have hhost : ∀ k, k = h → k ∈ inv.clusterNodes := fun k hk => hk ▸ hh
  have hvalid : ∀ st ∈ bareUpgradeOutline inv v h, st.Valid calm := by
    intro st hst
    simp only [bareUpgradeOutline, List.mem_cons, List.not_mem_nil, or_false] at hst
    rcases hst with rfl | rfl | rfl | rfl
    · refine Stage.steady_valid (fun _ => stable_calm _) fun k _ a ha => ?_
      exact (javaAndCommon_seen a ha).imp
    · exact Stage.part_valid (stable_calm _) (stable_calm _) (stable_calm _) hhost
        (fun _ _ => trivial) (fun _ _ => tasksKeep_true)
        fun _ _ => upgradeTasks_named hvars hon
    · exact onLocalhost_valid fun _ => stable_calm _
    · exact Stage.part_valid (stable_calm _) (stable_calm _) (stable_calm _) hhost
        (fun _ _ => trivial) (fun _ _ => tasksKeep_true) fun _ _ => switchTasks_bare
  have hsame : ∀ (A : Host → ZkNode → Prop) k n, A k n → A k n := fun _ _ _ hn => hn
  have hchain : Chained (fun k n => k = h → Seen (fun w => ¬ w.Holds v) n)
      (bareUpgradeOutline inv v h) := ⟨hsame _, hsame _, hsame _, hsame _, trivial⟩
  have hbefore : ∀ k, k = h → Seen (fun w => ¬ w.Holds v) (nodes k).forget := by
    rintro k rfl
    exact hmissing
  exact outline_calm hvalid hchain hbefore hrun hsucc h rfl

end Bare

/-! ## Histories -/

/-- The playbooks of a history. -/
inductive StorePlaybook where
  | clusterSetup
  | clusterMigrateToMtls
  | clusterUpgrade
deriving DecidableEq, Repr

/-- A run of a history, with the variables of that time. -/
structure StoreRun where
  playbook : StorePlaybook
  vars : Vars
  events : List (Event Host Choice Empty)

/-- The plays of a run. -/
def StoreRun.plays (inv : Inventory) (r : StoreRun) : List ZkPlay :=
  match r.playbook with
  | .clusterSetup => clusterSetup inv r.vars
  | .clusterMigrateToMtls => clusterMigrateToMtls inv r.vars
  | .clusterUpgrade => clusterUpgrade inv r.vars

/-- Complete runs without failures, one after the other, lead from {lit}`nodes` to {lit}`nodes'`. -/
def Completed (inv : Inventory) : (Host → ZkNode) → List StoreRun → (Host → ZkNode) → Prop
  | nodes, [], nodes' => nodes' = nodes
  | nodes, r :: rs, nodes' =>
      ∃ s, run calm (launch Node.forget (r.plays inv) nodes) r.events = some s ∧
        s.succeeded = true ∧ Completed inv s.nodes rs nodes'

/-- The stores a run needs are uploaded by it or were there before. -/
def StoreRun.Supplied (inv : Inventory) (nodes : Host → ZkNode) (r : StoreRun) : Prop :=
  match r.playbook with
  | .clusterSetup => True
  | .clusterMigrateToMtls => r.vars.zookeeperSslQuorum = true ∨ ∀ h ∈ inv.clusterNodes,
      (nodes h).live = some r.vars.versionDir → (storeView (nodes h)).Holds r.vars
  | .clusterUpgrade => r.vars.zookeeperSslQuorum = false ∨ ∀ h ∈ inv.clusterNodes,
      (storeView (nodes h)).Holds r.vars

/-- Every run of a history is supplied in the state it starts from. -/
def AllSupplied (inv : Inventory) : (Host → ZkNode) → List StoreRun → Prop
  | _, [] => True
  | nodes, r :: rs => r.Supplied inv nodes ∧
      ∀ s, run calm (launch Node.forget (r.plays inv) nodes) r.events = some s →
        AllSupplied inv s.nodes rs

section Histories

variable {inv : Inventory} {nodes nodes' : Host → ZkNode} {r : StoreRun}
variable {s : State Host ZkNode Choice}

/-- A supplied run leaves ready nodes ready. -/
theorem StoreRun.ready (hvars : Guided r.vars)
    (hnodes : ∀ h ∈ inv.clusterNodes, (storeView (nodes h)).Ready)
    (hrun : run calm (launch Node.forget (r.plays inv) nodes) r.events = some s)
    (hsucc : s.succeeded = true) (hsupply : r.Supplied inv nodes) :
    ∀ h ∈ inv.clusterNodes, (storeView (s.nodes h)).Ready := by
  rcases r with ⟨playbook, v, events⟩
  cases playbook with
  | clusterSetup => exact setup_ready hvars hnodes hrun hsucc
  | clusterMigrateToMtls => exact migration_ready hvars hnodes hsupply hrun hsucc
  | clusterUpgrade =>
      refine upgrade_ready hnodes (fun h hh hon => ?_) hrun hsucc
      rcases hsupply with hoff | hthere
      · have hoff : v.zookeeperSslQuorum = false := hoff
        rw [hoff] at hon
        cases hon
      · exact hthere h hh

/-- A run that is not supplied leaves a bare start. -/
theorem StoreRun.bare (hvars : Guided r.vars)
    (hrun : run calm (launch Node.forget (r.plays inv) nodes) r.events = some s)
    (hsucc : s.succeeded = true) (hsupply : ¬ r.Supplied inv nodes) :
    ∃ h ∈ inv.clusterNodes, (storeView (s.nodes h)).Bare := by
  rcases r with ⟨playbook, v, events⟩
  cases playbook with
  | clusterSetup => exact absurd trivial hsupply
  | clusterMigrateToMtls =>
      simp only [StoreRun.Supplied, not_or, not_forall, Bool.not_eq_true] at hsupply
      rcases hsupply with ⟨hoff, h, hh, hlive, hmissing⟩
      exact ⟨h, hh, migration_bare hoff hh hlive hmissing hrun hsucc⟩
  | clusterUpgrade =>
      simp only [StoreRun.Supplied, not_or, not_forall, Bool.not_eq_false] at hsupply
      rcases hsupply with ⟨hon, h, hh, hmissing⟩
      exact ⟨h, hh, upgrade_bare hvars hon hh hmissing hrun hsucc⟩

/-- A bare start stays in the log. -/
theorem Completed.bare {rs : List StoreRun} (hruns : Completed inv nodes rs nodes') {h : Host}
    (hbare : (storeView (nodes h)).Bare) : (storeView (nodes' h)).Bare := by
  induction rs generalizing nodes with
  | nil =>
      have heq : nodes' = nodes := hruns
      rw [heq]
      exact hbare
  | cons r rs ih =>
      rcases hruns with ⟨s, hrun, _, hrest⟩
      apply ih hrest
      have hkeep : ∀ p ∈ r.plays inv, ∀ k ∈ p.hosts, ∀ a ∈ p.actions,
          a.Keeps k fun n => k = h → Seen StoreView.Bare n := by
        rcases r with ⟨playbook, v, events⟩
        intro p hp k _ a ha
        cases playbook with
        | clusterSetup => exact (setup_keep bare_closed bare_keptByStart p hp a ha).imp
        | clusterMigrateToMtls =>
            exact (migration_keep bare_closed bare_keptByStart p hp a ha).imp
        | clusterUpgrade => exact (upgrade_keep bare_closed bare_keptByStart p hp a ha).imp
      have hbefore : ∀ k, k = h → Seen StoreView.Bare (nodes k).forget := by
        rintro k rfl
        exact hbare
      exact run_keeps (fun _ => stable_calm _) hkeep hbefore hrun h rfl

end Histories

/--
Over a history of complete runs without failures, no playbook starts a node whose
{lit}`zoo.cfg` names stores that are not there, exactly if every run of the migration
has encryption on or finds the stores of the live version, and every run of the
upgrade has encryption off or finds the stores of the new version.
-/
theorem stores_present_iff (inv : Inventory) (rs : List StoreRun)
    (hvars : ∀ r ∈ rs, Guided r.vars) {nodes nodes' : Host → ZkNode}
    (hnodes : ∀ h ∈ inv.clusterNodes, (storeView (nodes h)).Ready)
    (hruns : Completed inv nodes rs nodes') :
    (∀ h ∈ inv.clusterNodes, ∀ st ∈ (nodes' h).starts, stocked st = true) ↔
      AllSupplied inv nodes rs := by
  induction rs generalizing nodes with
  | nil =>
      have heq : nodes' = nodes := hruns
      rw [heq]
      exact ⟨fun _ => trivial, fun _ h hh => (hnodes h hh).stocked⟩
  | cons r rs ih =>
      rcases hruns with ⟨s, hrun, hsucc, hrest⟩
      have hvar : Guided r.vars := hvars r List.mem_cons_self
      have hvars' : ∀ r' ∈ rs, Guided r'.vars := fun r' hr' => hvars r' (List.mem_cons_of_mem r hr')
      constructor
      · intro hstocked
        have hsupply : r.Supplied inv nodes := by
          by_contra hnot
          rcases StoreRun.bare hvar hrun hsucc hnot with ⟨h, hh, hbare⟩
          exact (hrest.bare hbare).not_stocked (hstocked h hh)
        have hready := StoreRun.ready hvar hnodes hrun hsucc hsupply
        refine ⟨hsupply, fun s' hs' => ?_⟩
        rw [hrun] at hs'
        cases hs'
        exact (ih hvars' hready hrest).mp hstocked
      · rintro ⟨hsupply, hlater⟩
        have hready := StoreRun.ready hvar hnodes hrun hsucc hsupply
        exact (ih hvars' hready hrest).mpr (hlater s hrun)

/-! ## The development cluster -/

/-- A machine on which nothing is installed. -/
def freshNode : ZkNode where
  dirs := fun _ => none
  live := none
  uploads := fun _ => false
  process := none
  openPorts := []
  regs := fun _ => none
  starts := []

/-- Nothing is missing on a fresh machine. -/
theorem freshNode_ready : (storeView freshNode).Ready where
  stocked := fun st hst => absurd hst (List.not_mem_nil (a := st))
  live := fun d hd => by simp [storeView, freshNode] at hd

/-- A run in which nothing goes wrong. -/
def developmentRun (plays : List ZkPlay) (nodes : Host → ZkNode) : State Host ZkNode Choice :=
  drive (fun _ _ => Choice.good ["2181", "2182"]) 300 (launch Node.forget plays nodes)

/-- This is a run. -/
theorem developmentRun_run (plays : List ZkPlay) (nodes : Host → ZkNode) :
    ∃ es : List (Event Host Choice Empty),
      run calm (launch Node.forget plays nodes) es = some (developmentRun plays nodes) :=
  ⟨_, run_follow calm _ 300 _⟩

/-- The nodes of the development cluster after their setup. -/
def developmentSetup (v : Vars) : State Host ZkNode Choice :=
  developmentRun (clusterSetup developmentInventory v) fun _ => freshNode

/-- The variables of the development cluster are those of the guide. -/
theorem development_guided (sslQuorum : Bool) :
    Guided { developmentVars with zookeeperSslQuorum := sslQuorum } :=
  ⟨by change versionGe "3.8.0" "3.5.5" = some true; decide, rfl⟩

/-- The variables of a cluster that has encryption on from the beginning. -/
def encryptedVars : Vars :=
  { developmentVars with zookeeperSslQuorum := true }

/-- A setup with encryption on brings the stores along. -/
theorem stores_present_development :
    (developmentSetup encryptedVars).succeeded = true ∧
    ∀ h ∈ developmentInventory.clusterNodes,
      ∀ st ∈ ((developmentSetup encryptedVars).nodes h).starts, stocked st = true := by
  have hsucc : (developmentSetup encryptedVars).succeeded = true := by decide +kernel
  rcases developmentRun_run (clusterSetup developmentInventory encryptedVars)
    fun _ => freshNode with ⟨es, hrun⟩
  have hcompleted : Completed developmentInventory (fun _ => freshNode)
      [⟨.clusterSetup, encryptedVars, es⟩] (developmentSetup encryptedVars).nodes :=
    ⟨developmentSetup encryptedVars, hrun, hsucc, rfl⟩
  refine ⟨hsucc, (stores_present_iff developmentInventory _ ?_ (fun _ _ => freshNode_ready)
    hcompleted).mpr ⟨trivial, fun _ _ => trivial⟩⟩
  intro r hr
  rw [List.mem_singleton.mp hr]
  exact development_guided true

/-- The nodes of the development cluster after the setup and the migration. -/
def developmentMigrated : State Host ZkNode Choice :=
  developmentRun (clusterMigrateToMtls developmentInventory developmentVars)
    (developmentSetup developmentVars).nodes

/--
With the variables of the guide the migration after the setup restarts a node
from a {lit}`zoo.cfg` that names stores nobody has uploaded.
-/
theorem migration_without_stores :
    ∃ (es₁ es₂ : List (Event Host Choice Empty)) (nodes' : Host → ZkNode),
      Completed developmentInventory (fun _ => freshNode)
        [⟨.clusterSetup, developmentVars, es₁⟩, ⟨.clusterMigrateToMtls, developmentVars, es₂⟩]
        nodes' ∧
      developmentVars.zookeeperSslQuorum = false ∧
      ∃ st ∈ ( nodes' "zookeeper1.localhost").starts, stocked st = false := by
  rcases developmentRun_run (clusterSetup developmentInventory developmentVars)
    fun _ => freshNode with ⟨es₁, hrun₁⟩
  rcases developmentRun_run (clusterMigrateToMtls developmentInventory developmentVars)
    (developmentSetup developmentVars).nodes with ⟨es₂, hrun₂⟩
  have hcompleted : Completed developmentInventory (fun _ => freshNode)
      [⟨.clusterSetup, developmentVars, es₁⟩, ⟨.clusterMigrateToMtls, developmentVars, es₂⟩]
      developmentMigrated.nodes :=
    ⟨developmentSetup developmentVars, hrun₁, by decide +kernel, developmentMigrated, hrun₂,
      by decide +kernel, rfl⟩
  have hbare : (developmentMigrated.nodes "zookeeper1.localhost").starts.head?.any
      (fun st => !stocked st) = true := by
    decide +kernel
  rcases (Option.any_eq_true _ _).mp hbare with ⟨st, hst, hnot⟩
  have hmem : st ∈ (developmentMigrated.nodes "zookeeper1.localhost").starts :=
    List.mem_of_mem_head? (Option.mem_def.mpr hst)
  exact ⟨es₁, es₂, developmentMigrated.nodes, hcompleted, rfl, st, hmem, by simpa using hnot⟩

end ZooKeeper
end ClusterPlaybooks
