import ClusterPlaybooks.Ansible.Completion
import ClusterPlaybooks.Ansible.History
import ClusterPlaybooks.Ansible.Outline
import ClusterPlaybooks.Ansible.Scripts

/-!
# Setting up group replication

The playbook {lit}`setup_mgr.yml` restarts the servers, creates two accounts, and feeds
SQL scripts to the servers: the host that defines {lit}`bootstrap` starts a group, the
others join it.  Accounts and functions stay when a server is restarted; its membership and
its global variables do not.

A group is known by the server that created it and by the number of groups this server had
created before, so two creations never give the same group.

The playbook never creates a second group, however many runs are made and wherever they
fail.  The script that creates the accounts fails on a host that has them, so it gets
through at most once on the bootstrap host, and the host does not get to the bootstrap
statement without it.

Main results:

- Theorem {lit}`setup_guards`: a server that has created a group has the accounts.
- Theorem {lit}`script_provenance`: where the group of a server comes from.
- Theorem {lit}`setup_one_group`: at no moment of any history are two hosts in different
  groups.
-/

namespace ClusterPlaybooks
namespace Mysql

open Ansible

variable {H : Type}

/-! ## Servers -/

/-- A replication group. -/
structure Group (H : Type) where
  /-- the server that created the group -/
  founder : H
  /-- the number of groups this server had created before -/
  number : Nat
deriving DecidableEq, Repr

/-- The MySQL server of a host. -/
structure Server (H : Type) where
  /-- users with an account for {lit}`'192.168.%.%'` -/
  accounts : List String
  /-- functions and views in the schema {lit}`sys` -/
  objects : List String
  /-- {lit}`group_replication_group_seeds` in {lit}`my.cnf` -/
  cnfSeeds : List H
  /-- the same as the running server has read it -/
  seeds : List H
  /-- the global variable {lit}`group_replication_bootstrap_group` -/
  bootstrap : Bool
  group : Option (Group H)
  /-- the number of groups this server has created -/
  founded : Nat
deriving DecidableEq, Repr

/-- What the tasks do to a server: edits of {lit}`my.cnf`, restarts, and SQL statements. -/
inductive Statement (H : Type) where
  | configureSeeds (seeds : List H)
  | restart
  | setSqlLogBin (on : Bool)
  | createUser (user : String)
  | grant (user : String)
  | changeMaster
  | setBootstrapGroup (on : Bool)
  | startGroupReplication
  | useSchema (schema : String)
  | create (object : String)
deriving DecidableEq, Repr

/--
Execute a statement on the server of a host; {lit}`none` if it fails.  {lit}`seed` is the
group of a seed that answers, if there is one.
-/
def Statement.exec (h : H) (seed : Option (Group H)) :
    Statement H → Server H → Option (Server H)
  | .configureSeeds seeds, s => some { s with cnfSeeds := seeds }
  -- group_replication_start_on_boot and group_replication_bootstrap_group are off in my.cnf
  | .restart, s => some { s with seeds := s.cnfSeeds, bootstrap := false, group := none }
  | .setSqlLogBin _, s => some s
  | .createUser user, s =>
      if user ∈ s.accounts then none else some { s with accounts := user :: s.accounts }
  | .grant user, s => if user ∈ s.accounts then some s else none
  | .changeMaster, s => some s
  | .setBootstrapGroup on, s => some { s with bootstrap := on }
  | .startGroupReplication, s =>
      if s.group.isSome then none
      else if s.bootstrap then
        some { s with group := some ⟨h, s.founded⟩, founded := s.founded + 1 }
      else seed.map fun g => { s with group := some g }
  | .useSchema _, s => some s
  | .create object, s =>
      if object ∈ s.objects then none else some { s with objects := object :: s.objects }

/-! ## Scripts -/

/-- The script {lit}`create_replication_user.sql`. -/
def createReplicationUser (mysqlReplUser : String) : List (Statement H) :=
  [.setSqlLogBin false,
    .createUser mysqlReplUser,
    .grant mysqlReplUser,
    .createUser "monitor",
    .grant "monitor",
    .grant "monitor",
    .setSqlLogBin true]

/-- The script {lit}`start_first_node.sql`. -/
def startFirstNode : List (Statement H) :=
  [.changeMaster, .setBootstrapGroup true, .startGroupReplication, .setBootstrapGroup false]

/-- The script {lit}`start_other_node.sql`. -/
def startOtherNode : List (Statement H) :=
  [.changeMaster, .startGroupReplication]

/-- The script {lit}`addition_to_sys.sql`. -/
def additionToSys : List (Statement H) :=
  [.useSchema "sys",
    .create "IFZERO",
    .create "LOCATE2",
    .create "GTID_NORMALIZE",
    .create "GTID_COUNT",
    .create "gr_applier_queue_length",
    .create "gr_member_in_primary_partition",
    .create "gr_member_routing_candidate_status"]

/-! ## The playbook -/

/-- An inventory in which exactly one host defines {lit}`bootstrap`. -/
structure Inventory (H : Type) where
  /-- the group {lit}`all` -/
  hosts : List H
  nodup : hosts.Nodup
  /-- the group {lit}`mgr_node`, which the seeds are taken from -/
  mgrNode : List H
  /-- the host that defines {lit}`bootstrap` -/
  bootstrap : H
  bootstrap_mem : bootstrap ∈ hosts

/-- The variables and facts a run uses. -/
structure Vars (H : Type) where
  mysqlReplUser : String
  /-- the fact {lit}`ansible_distribution_major_version` -/
  majorVersion : H → String

/-- What a call meets: an outside fault, and the group of a seed that answers. -/
abbrev Choice (H : Type) := Outcome (Option (Group H))

/-- A task that feeds a script to the server on the hosts that meet a condition. -/
def scriptTask (name : String) (cond : H → Bool) (script : List (Statement H)) :
    Task H (Server H) (Choice H) where
  name := name
  items := [scriptWhen cond Statement.exec script]

/-- A task of {lit}`count` calls that change nothing this model looks at. -/
def inert (name : String) (count : Nat) : Task H (Server H) (Choice H) where
  name := name
  items := List.replicate count (scriptWhen (fun _ => true) Statement.exec [])

/-- The tasks that prepare the server. -/
def configureTasks (inv : Inventory H) (v : Vars H) : List (Task H (Server H) (Choice H)) :=
  [inert "Gathering Facts" 1,
    inert "Configure | Configure group_replication_local_address" 1,
    scriptTask "Configure | Configure group_replication_group_seeds" (fun _ => true)
      [.configureSeeds inv.mgrNode],
    inert "Configure | Configure group_replication_group_seeds" 1,
    scriptTask "Configure | Restart mysql (sytemctl)" (fun h => v.majorVersion h == "7") [.restart],
    inert "Configure | Wait for mysql start." 1,
    inert "Setup | Transfer script to node" 4]

section Playbook

variable [DecidableEq H]

/-- The tasks that start group replication. -/
def startTasks (inv : Inventory H) (v : Vars H) : List (Task H (Server H) (Choice H)) :=
  [scriptTask "Setup | Create replication user" (fun _ => true)
      (createReplicationUser v.mysqlReplUser),
    scriptTask "Setup | Start first node" (fun h => h == inv.bootstrap) startFirstNode,
    scriptTask "Setup | Start first node" (fun h => h == inv.bootstrap) additionToSys,
    scriptTask "Setup | Start other node" (fun h => h != inv.bootstrap) startOtherNode]

/-- The only play of {lit}`setup_mgr.yml`. -/
def setupPlay (inv : Inventory H) (v : Vars H) : Play H (Server H) (Choice H) where
  hosts := inv.hosts
  nodup := inv.nodup
  serial := false
  anyErrorsFatal := false
  tasks := configureTasks inv v ++ startTasks inv v

/-- The playbook {lit}`setup_mgr.yml`. -/
def setupMgr (inv : Inventory H) (v : Vars H) : List (Play H (Server H) (Choice H)) :=
  [setupPlay inv v]

/-- A group is joined only if a seed of the server is in it. -/
def JoinsSeed (inv : Inventory H) (s : State H (Server H) (Choice H)) (h : H) (x : Choice H) :
    Prop :=
  ∀ g, x.meets = some g →
    ∃ k ∈ inv.hosts, k ∈ (s.nodes h).seeds ∧ (s.nodes k).group = some g

/-! ## A server that has created a group has the accounts -/

/--
Host {lit}`h` has created a group at most once since it had created {lit}`f h` groups, it
has the accounts if it did, and only the bootstrap host can have done it.
-/
structure AtMostOnce (b : H) (f : H → Nat) (h : H) (s : Server H) : Prop where
  flag : s.bootstrap = true → h = b
  others : h ≠ b → s.founded = f h
  once : s.founded = f h ∨ s.founded = f h + 1 ∧ "monitor" ∈ s.accounts

variable {b h : H} {f : H → Nat} {inv : Inventory H} {v : Vars H}

omit [DecidableEq H] in
/-- A statement that does not start replication or raise the flag keeps the invariant. -/
theorem exec_atMostOnce {seed : Option (Group H)} {st : Statement H} {s s' : Server H}
    (hflag : ∀ on, st = .setBootstrapGroup on → on = true → h = b)
    (hstart : st = .startGroupReplication → h ≠ b) (hs : AtMostOnce b f h s)
    (hexec : st.exec h seed s = some s') : AtMostOnce b f h s' := by
  cases st with
  | configureSeeds seeds =>
      cases hexec
      exact ⟨hs.flag, hs.others, hs.once⟩
  | restart =>
      cases hexec
      exact ⟨fun hon => absurd hon Bool.false_ne_true, hs.others, hs.once⟩
  | setSqlLogBin on =>
      cases hexec
      exact hs
  | createUser user =>
      simp only [Statement.exec] at hexec
      split at hexec
      · cases hexec
      · cases hexec
        refine ⟨hs.flag, hs.others, ?_⟩
        rcases hs.once with hsame | ⟨hmore, hmem⟩
        · exact Or.inl hsame
        · exact Or.inr ⟨hmore, List.mem_cons_of_mem user hmem⟩
  | grant user =>
      simp only [Statement.exec] at hexec
      split at hexec
      · cases hexec
        exact hs
      · cases hexec
  | changeMaster =>
      cases hexec
      exact hs
  | setBootstrapGroup on =>
      cases hexec
      exact ⟨hflag on rfl, hs.others, hs.once⟩
  | startGroupReplication =>
      have hoff : ¬s.bootstrap = true := fun hon => hstart rfl (hs.flag hon)
      simp only [Statement.exec] at hexec
      split at hexec
      · cases hexec
      · rcases Option.map_eq_some_iff.mp hexec with ⟨g, _, rfl⟩
        exact ⟨hs.flag, hs.others, hs.once⟩
  | useSchema schema =>
      cases hexec
      exact hs
  | create object =>
      simp only [Statement.exec] at hexec
      split at hexec
      · cases hexec
      · cases hexec
        exact ⟨hs.flag, hs.others, hs.once⟩

omit [DecidableEq H] in
/-- What the script for the accounts does. -/
theorem runScript_createReplicationUser (user : String) (seed : Option (Group H))
    (s : Server H) :
    runScript (Statement.exec h seed) (createReplicationUser user) s =
      if user ∈ s.accounts then (s, false)
      else if "monitor" = user ∨ "monitor" ∈ s.accounts then
        ({ s with accounts := user :: s.accounts }, false)
      else ({ s with accounts := "monitor" :: user :: s.accounts }, true) := by
  by_cases huser : user ∈ s.accounts
  · simp [createReplicationUser, runScript, Statement.exec, huser]
  · by_cases hmonitor : "monitor" = user ∨ "monitor" ∈ s.accounts
    · simp [createReplicationUser, runScript, Statement.exec, huser, hmonitor]
    · simp [createReplicationUser, runScript, Statement.exec, huser, hmonitor]

omit [DecidableEq H] in
/-- The tasks before the accounts keep the invariant. -/
theorem configureTasks_keep :
    TasksKeep h (AtMostOnce inv.bootstrap f h) (configureTasks inv v) := by
  have hinert : ∀ name count, (inert name count).Keeps h (AtMostOnce inv.bootstrap f h) := by
    intro name count a ha
    rw [List.eq_of_mem_replicate ha]
    exact scriptWhen_keeps fun _ st hst => by cases hst
  have hscript : ∀ name cond (st : Statement H), (∀ on, st ≠ .setBootstrapGroup on) →
      st ≠ .startGroupReplication →
      (scriptTask name cond [st]).Keeps h (AtMostOnce inv.bootstrap f h) := by
    intro name cond st hflag hstart a ha
    cases List.mem_singleton.mp ha
    apply scriptWhen_keeps
    intro _ st' hst' seed s s' hs hexec
    cases List.mem_singleton.mp hst'
    exact exec_atMostOnce (fun on heq => absurd heq (hflag on)) (fun heq => absurd heq hstart)
      hs hexec
  simp [configureTasks, hinert, hscript]

omit [DecidableEq H] in
/-- The script for the accounts keeps the invariant. -/
theorem createUser_keeps :
    (scriptWhen (fun _ => true) Statement.exec (createReplicationUser v.mysqlReplUser)).Keeps h
      (AtMostOnce b f h) := by
  apply scriptWhen_keeps
  intro _ st hst seed s s' hs hexec
  simp only [createReplicationUser, List.mem_cons, List.not_mem_nil, or_false] at hst
  refine exec_atMostOnce ?_ ?_ hs hexec
  · rintro on rfl
    simp at hst
  · rintro rfl
    simp at hst

omit [DecidableEq H] in
/-- It gets through only on a host that has not created a group. -/
theorem createUser_gives :
    (scriptWhen (fun _ => true) Statement.exec (createReplicationUser v.mysqlReplUser)).Gives h
      (AtMostOnce b f h)
      fun s => AtMostOnce b f h s ∧ s.founded = f h ∧ "monitor" ∈ s.accounts := by
  apply scriptWhen_gives
  · intro hcond
    cases hcond
  · intro _ seed s hs hok
    rw [runScript_createReplicationUser] at hok ⊢
    split at hok
    · cases hok
    · rename_i huser
      rw [if_neg huser]
      split at hok
      · cases hok
      · rename_i hmonitor
        rw [if_neg hmonitor]
        have hfounded : s.founded = f h :=
          hs.once.resolve_right fun hmore => hmonitor (Or.inr hmore.2)
        exact ⟨⟨hs.flag, hs.others, Or.inl hfounded⟩, hfounded, List.mem_cons_self⟩

/-- During the bootstrap script a group was created at most once, and then the host is in it. -/
def Starting (b : H) (f : H → Nat) (h : H) (s : Server H) : Prop :=
  AtMostOnce b f h s ∧
    (h = b → "monitor" ∈ s.accounts ∧ (s.founded = f h ∨ s.group.isSome = true))

/-- The bootstrap script creates no second group. -/
theorem startFirst_keeps :
    (scriptWhen (fun h => h == b) Statement.exec startFirstNode).Keeps h (Starting b f h) := by
  apply scriptWhen_keeps
  intro hcond st hst seed s s' hs hexec
  have hb : h = b := by simpa using hcond
  rcases hs with ⟨honce, hstart⟩
  rcases hstart hb with ⟨hmonitor, hgroup⟩
  simp only [startFirstNode, List.mem_cons, List.not_mem_nil, or_false] at hst
  rcases hst with rfl | rfl | rfl | rfl
  · cases hexec
    exact ⟨honce, hstart⟩
  · cases hexec
    exact ⟨⟨fun _ => hb, honce.others, honce.once⟩, fun _ => ⟨hmonitor, hgroup⟩⟩
  · -- a server that has created the group is in it, so it cannot start again
    simp only [Statement.exec] at hexec
    split at hexec
    · cases hexec
    · rename_i hnone
      have hfounded : s.founded = f h := hgroup.resolve_right hnone
      split at hexec
      · cases hexec
        refine ⟨⟨honce.flag, fun hne => absurd hb hne, Or.inr ⟨?_, hmonitor⟩⟩, fun _ => ?_⟩
        · simp only [hfounded]
        · exact ⟨hmonitor, Or.inr rfl⟩
      · rcases Option.map_eq_some_iff.mp hexec with ⟨g, _, rfl⟩
        exact ⟨⟨honce.flag, honce.others, honce.once⟩, fun _ => ⟨hmonitor, Or.inl hfounded⟩⟩
  · cases hexec
    exact ⟨⟨fun hon => absurd hon Bool.false_ne_true, honce.others, honce.once⟩,
      fun _ => ⟨hmonitor, hgroup⟩⟩

/-- On a host that has just got its accounts it keeps the invariant. -/
theorem startFirst_gives :
    (scriptWhen (fun h => h == b) Statement.exec startFirstNode).Gives h
      (fun s => AtMostOnce b f h s ∧ s.founded = f h ∧ "monitor" ∈ s.accounts)
      (AtMostOnce b f h) := by
  refine startFirst_keeps.gives.consequence ?_ fun _ hs => hs.1
  exact fun s hs => ⟨hs.1, fun _ => ⟨hs.2.2, Or.inl hs.2.1⟩⟩

/-- The tasks after the bootstrap script keep the invariant. -/
theorem lastTasks_keep :
    TasksKeep h (AtMostOnce inv.bootstrap f h) ((startTasks inv v).drop 2) := by
  have hsys : (scriptTask "Setup | Start first node" (fun h => h == inv.bootstrap)
      additionToSys).Keeps h (AtMostOnce inv.bootstrap f h) := by
    intro a ha
    cases List.mem_singleton.mp ha
    apply scriptWhen_keeps
    intro _ st hst seed s s' hs hexec
    refine exec_atMostOnce ?_ ?_ hs hexec
    · rintro on rfl
      simp [additionToSys] at hst
    · rintro rfl
      simp [additionToSys] at hst
  have hother : (scriptTask "Setup | Start other node" (fun h => h != inv.bootstrap)
      startOtherNode).Keeps h (AtMostOnce inv.bootstrap f h) := by
    intro a ha
    cases List.mem_singleton.mp ha
    apply scriptWhen_keeps
    intro hcond st hst seed s s' hs hexec
    refine exec_atMostOnce ?_ (fun _ => by simpa using hcond) hs hexec
    rintro on rfl
    simp [startOtherNode] at hst
  simp [startTasks, hsys, hother]

/-- A server that has created a group has the accounts, at every moment of a run. -/
theorem setup_guards :
    Guards calm h (AtMostOnce inv.bootstrap f h) (setupPlay inv v).tasks
      (AtMostOnce inv.bootstrap f h) := by
  refine Guards.append (Guards.of_keeps (stable_calm _) (fun _ hs => hs) configureTasks_keep)
    (Ensures.of_keeps (stable_calm _) configureTasks_keep) ?_
  refine Guards.cons (stable_calm _) (fun _ hs => hs) (fun _ hs => hs) ?_
    (Ensures.single (stable_calm _) (stable_calm _) createUser_gives) ?_
  · intro a ha
    cases List.mem_singleton.mp ha
    exact createUser_keeps
  refine Guards.cons (stable_calm (Starting inv.bootstrap f h)) ?_ (fun _ hs => hs.1) ?_
    (Ensures.single (stable_calm _) (stable_calm _) startFirst_gives) ?_
  · exact fun s hs => ⟨hs.1, fun _ => ⟨hs.2.2, Or.inl hs.2.1⟩⟩
  · intro a ha
    cases List.mem_singleton.mp ha
    exact startFirst_keeps
  · exact Guards.of_keeps (stable_calm _) (fun _ hs => hs) (lastTasks_keep (v := v))

/-- A host that gets through the tasks has created at most one group, too. -/
theorem setup_ensures :
    Ensures calm h (AtMostOnce inv.bootstrap f h) (setupPlay inv v).actions
      (AtMostOnce inv.bootstrap f h) := by
  rw [Play.actions, setupPlay, List.flatMap_append]
  refine (Ensures.of_keeps (stable_calm _) configureTasks_keep).append ?_
  refine Ensures.cons (stable_calm _) (stable_calm _) createUser_gives ?_
  refine Ensures.cons (stable_calm _) (stable_calm _) startFirst_gives ?_
  exact Ensures.of_keeps (stable_calm _) (lastTasks_keep (v := v))

/-! ## Where the group of a server comes from -/

/--
After a call a server is in the group it was in, in none, in the group of a seed, or in
one it has created.
-/
def Provenance (h : H) (a : Action H (Server H) (Choice H)) : Prop :=
  ∀ s x s' w, a.run h s x = some (s', w) →
    s'.group = s.group ∨ s'.group = none ∨ s'.group = x.meets ∨
      ∃ j, s.founded ≤ j ∧ j < s'.founded ∧ s'.group = some ⟨h, j⟩

omit [DecidableEq H] in
/-- The same for a single statement, seen from an earlier state of the server. -/
theorem exec_provenance {seed : Option (Group H)} {st : Statement H} {s₀ s s' : Server H}
    (hs : s₀.founded ≤ s.founded ∧ (s.group = s₀.group ∨ s.group = none ∨ s.group = seed ∨
      ∃ j, s₀.founded ≤ j ∧ j < s.founded ∧ s.group = some ⟨h, j⟩))
    (hexec : st.exec h seed s = some s') :
    s₀.founded ≤ s'.founded ∧ (s'.group = s₀.group ∨ s'.group = none ∨ s'.group = seed ∨
      ∃ j, s₀.founded ≤ j ∧ j < s'.founded ∧ s'.group = some ⟨h, j⟩) := by
  cases st with
  | restart =>
      cases hexec
      exact ⟨hs.1, Or.inr (Or.inl rfl)⟩
  | startGroupReplication =>
      simp only [Statement.exec] at hexec
      split at hexec
      · cases hexec
      · split at hexec
        · cases hexec
          refine ⟨Nat.le_succ_of_le hs.1, Or.inr (Or.inr (Or.inr ?_))⟩
          exact ⟨s.founded, hs.1, Nat.lt_succ_self _, rfl⟩
        · rcases Option.map_eq_some_iff.mp hexec with ⟨g, hg, rfl⟩
          exact ⟨hs.1, Or.inr (Or.inr (Or.inl hg.symm))⟩
  | createUser user =>
      simp only [Statement.exec] at hexec
      split at hexec
      · cases hexec
      · cases hexec
        exact hs
  | grant user =>
      simp only [Statement.exec] at hexec
      split at hexec
      · cases hexec
        exact hs
      · cases hexec
  | create object =>
      simp only [Statement.exec] at hexec
      split at hexec
      · cases hexec
      · cases hexec
        exact hs
  | configureSeeds seeds =>
      cases hexec
      exact hs
  | setSqlLogBin on =>
      cases hexec
      exact hs
  | changeMaster =>
      cases hexec
      exact hs
  | setBootstrapGroup on =>
      cases hexec
      exact hs
  | useSchema schema =>
      cases hexec
      exact hs

omit [DecidableEq H] in
/-- Every script has this property. -/
theorem script_provenance (cond : H → Bool) (script : List (Statement H)) :
    Provenance h (scriptWhen cond Statement.exec script) := by
  intro s x s' w hrun
  rcases scriptWhen_cases hrun with rfl | ⟨_, count, rfl⟩
  · exact Or.inl rfl
  · refine (runScript_keeps (I := fun s' : Server H => s.founded ≤ s'.founded ∧
      (s'.group = s.group ∨ s'.group = none ∨ s'.group = x.meets ∨
        ∃ j, s.founded ≤ j ∧ j < s'.founded ∧ s'.group = some ⟨h, j⟩)) ?_ ?_).2
    · intro st _ m m' hm hexec
      exact exec_provenance hm hexec
    · exact ⟨Nat.le_refl _, Or.inl rfl⟩

/-- All calls of the playbook feed scripts to the server. -/
theorem setup_scripts : ∀ p ∈ setupMgr inv v, ∀ a ∈ p.actions,
    ∃ cond script, a = scriptWhen cond Statement.exec script := by
  intro p hp a ha
  cases List.mem_singleton.mp hp
  simp only [Play.actions, setupPlay, configureTasks, startTasks, inert, scriptTask,
    List.flatMap_append, List.flatMap_cons, List.flatMap_nil, List.append_nil, List.mem_append,
    List.mem_replicate, List.mem_singleton] at ha
  rcases ha with (⟨_, rfl⟩ | ⟨_, rfl⟩ | rfl | ⟨_, rfl⟩ | rfl | ⟨_, rfl⟩ | ⟨_, rfl⟩) |
    rfl | rfl | rfl | rfl <;> exact ⟨_, _, rfl⟩

/-! ## One group -/

/-- The play with the assertion that every host has created at most one group. -/
def setupStage (inv : Inventory H) (v : Vars H) (f : H → Nat) :
    Stage H (Server H) (Choice H) where
  play := setupPlay inv v
  pre := fun h s => h ∈ inv.hosts → AtMostOnce inv.bootstrap f h s
  inv := fun h s => h ∈ inv.hosts → AtMostOnce inv.bootstrap f h s
  post := fun h s => h ∈ inv.hosts → AtMostOnce inv.bootstrap f h s

/-- The annotated play is valid. -/
theorem setupStage_valid : (setupStage inv v f).Valid calm where
  stable_pre := fun _ => stable_calm _
  stable_inv := fun _ => stable_calm _
  stable_post := fun _ => stable_calm _
  pre_inv := fun _ _ hs => hs
  guards := fun _ hh => setup_guards.consequence (fun _ hs => hs hh) fun _ hs _ => hs
  ensures := fun _ hh => setup_ensures.consequence (fun _ hs => hs hh) fun _ hs _ => hs
  frame := fun _ _ _ hs => hs

/-- The hosts are in no group or in the one that the bootstrap host created. -/
structure OneGroup (inv : Inventory H) (f : H → Nat) (nodes : H → Server H) : Prop where
  once : ∀ h ∈ inv.hosts, AtMostOnce inv.bootstrap f h (nodes h)
  group : ∀ h ∈ inv.hosts,
    (nodes h).group = none ∨ (nodes h).group = some ⟨inv.bootstrap, f inv.bootstrap⟩

/-- A permitted call leaves the host in no group or in this one. -/
theorem OneGroup.act {s s' : State H (Server H) (Choice H)} {k : H} {x : Choice H}
    (hs : OneGroup inv f s.nodes) (hlaw : JoinsSeed inv s k x) (hact : s.act k x = some s')
    (hahead : s.Ahead fun h a => Provenance h a)
    (honce : ∀ h ∈ inv.hosts, AtMostOnce inv.bootstrap f h (s'.nodes h)) :
    OneGroup inv f s'.nodes := by
  refine ⟨honce, ?_⟩
  intro h hh
  rcases State.act_cases hact with ⟨a, rest, failed, n, w, hbusy, hcall, rfl⟩
  by_cases hne : h = k
  · subst hne
    have hnode : (s.record h n rest failed w).nodes h = n := by simp [State.record]
    have hnew := honce h hh
    rw [hnode] at hnew ⊢
    have hprov := hahead.busy h _ hbusy a List.mem_cons_self (s.nodes h) x n w hcall
    rcases hprov with hsame | hnone | hseed | ⟨j, hlow, hhigh, hfound⟩
    · rw [hsame]
      exact hs.group h hh
    · exact Or.inl hnone
    · -- the group of a seed is the only one there is
      rw [hseed]
      cases hmeets : x.meets with
      | none => exact Or.inl rfl
      | some g =>
          rcases hlaw g hmeets with ⟨l, hl, _, hg⟩
          rw [← hg]
          exact hs.group l hl
    · -- a new group is the first one of the bootstrap host
      have hold := (hs.once h hh).once
      have hfounder : h = inv.bootstrap := by
        by_contra hne
        have hafter := hnew.others hne
        have hbefore := (hs.once h hh).others hne
        omega
      have hj : j = f h := by
        rcases hnew.once with hn | ⟨hn, _⟩ <;> rcases hold with ho | ⟨ho, _⟩ <;> omega
      right
      rw [hfound, hj, ← hfounder]
  · have hnode : (s.record k n rest failed w).nodes h = s.nodes h := by
      simp [State.record, hne]
    rw [hnode]
    exact hs.group h hh

/-- A run whose joins are all of a seed's group keeps the one group at every moment. -/
theorem OneGroup.run {nodes : H → Server H} {es : List (Event H (Choice H) Empty)}
    {s : State H (Server H) (Choice H)} (hnodes : OneGroup inv f nodes)
    (hlaw : Lawful calm (JoinsSeed inv) (launch id (setupMgr inv v) nodes) es)
    (hrun : run calm (launch id (setupMgr inv v) nodes) es = some s) :
    OneGroup inv f s.nodes := by
  have hvalid : ∀ st ∈ Stage.idle (fun h s => h ∈ inv.hosts → AtMostOnce inv.bootstrap f h s) ::
      [setupStage inv v f], st.Valid calm := by
    intro st hst
    rcases List.mem_pair.mp hst with rfl | rfl
    · exact Stage.idle_valid fun _ => stable_calm _
    · exact setupStage_valid
  have honce : ∀ s : State H (Server H) (Choice H), Along calm (Stage.idle (fun h s =>
      h ∈ inv.hosts → AtMostOnce inv.bootstrap f h s) :: [setupStage inv v f]) s →
      ∀ h ∈ inv.hosts, AtMostOnce inv.bootstrap f h (s.nodes h) := by
    intro s halong h hh
    refine halong.of_stages (A := fun h s => h ∈ inv.hosts → AtMostOnce inv.bootstrap f h s) ?_
      h hh
    intro st hst k n hn
    rcases List.mem_pair.mp hst with rfl | rfl
    · rcases hn with hn | hn | hn <;> exact hn
    · rcases hn with hn | hn | hn <;> exact hn
  have hprov : ∀ p ∈ setupMgr inv v, ∀ h ∈ p.hosts, ∀ a ∈ p.actions, Provenance h a := by
    intro p hp h _ a ha
    rcases setup_scripts p hp a ha with ⟨cond, script, rfl⟩
    exact script_provenance cond script
  -- the outline and the provenance of groups hold along the run, and together they give the rest
  refine (hlaw.invariant (motive := fun s =>
    Along calm (Stage.idle (fun h s => h ∈ inv.hosts → AtMostOnce inv.bootstrap f h s) ::
      [setupStage inv v f]) s ∧ s.Ahead (fun h a => Provenance h a) ∧ OneGroup inv f s.nodes)
    ?_ ?_ hrun).2.2
  · intro s e s' ⟨halong, hahead, hone⟩ hpermit hstep
    have halong' := halong.step hvalid hstep
    refine ⟨halong', hahead.step hstep, ?_⟩
    cases e with
    | env k e => exact e.elim
    | act k x => exact hone.act hpermit hstep hahead (honce s' halong')
    | next =>
        rw [State.next_nodes hstep]
        exact hone
  · refine ⟨Along.start ⟨fun _ _ hn => hn, trivial⟩ hnodes.once, start_ahead hprov, hnodes⟩

/--
All hosts start in no group and with the bootstrap flag off, as {lit}`my.cnf` has it.  Then
at no moment of any sequence of runs of the playbook, with any failures and any versions of
the operating system, do two hosts belong to two different groups.  It does not matter which
accounts exist at the start.
-/
theorem setup_one_group (inv : Inventory H) {nodes : H → Server H}
    (hnogroup : ∀ h ∈ inv.hosts, (nodes h).group = none ∧ (nodes h).bootstrap = false)
    {ls : List (Launch H (Server H) (Choice H) Empty)}
    (hruns : ∀ l ∈ ls, ∃ v, l.plays = setupMgr inv v)
    (hjoins : Provided calm id id (fun l nodes =>
      Lawful calm (JoinsSeed inv) (launch id l.plays nodes) l.events) nodes ls)
    {s : State H (Server H) (Choice H)} (hmoment : Moment calm id nodes ls s) :
    ∀ h ∈ inv.hosts, ∀ k ∈ inv.hosts, ∀ g g', (s.nodes h).group = some g →
      (s.nodes k).group = some g' → g = g' := by
  have hstart : OneGroup inv (fun h => (nodes h).founded) nodes := by
    refine ⟨fun h hh => ⟨fun hon => ?_, fun _ => rfl, Or.inl rfl⟩,
      fun h hh => Or.inl (hnogroup h hh).1⟩
    rw [(hnogroup h hh).2] at hon
    cases hon
  have hone : OneGroup inv (fun h => (nodes h).founded) s.nodes := by
    refine Moment.induct_provided (G := fun s => OneGroup inv (fun h => (nodes h).founded) s.nodes)
      (J := OneGroup inv fun h => (nodes h).founded) ?_ hstart hjoins
      (by rw [List.map_id]; exact hmoment)
    intro l hl before es m hbefore hlaw hes hrun
    rcases hruns l hl with ⟨v, hplays⟩
    rcases hes with ⟨fs, hfs⟩
    have hlaw' : Lawful calm (JoinsSeed inv) (launch id l.plays before) (es ++ fs) := hfs ▸ hlaw
    replace hlaw' := hlaw'.of_append
    simp only [id_eq, hplays] at hlaw' hrun
    have hafter := hbefore.run hlaw' hrun
    exact ⟨hafter, hafter⟩
  intro h hh k hk g g' hg hg'
  rcases hone.group h hh with hnone | hsome
  · rw [hnone] at hg
    cases hg
  · rcases hone.group k hk with hnone' | hsome'
    · rw [hnone'] at hg'
      cases hg'
    · rw [hsome] at hg
      rw [hsome'] at hg'
      exact (Option.some.inj hg).symm.trans (Option.some.inj hg')

/-! ## The hosts of the site -/

/-- The group of the first seed of a host that is in one. -/
def seedGroup (inv : Inventory H) (s : State H (Server H) (Choice H)) (h : H) :
    Option (Group H) :=
  (inv.hosts.filter fun k => k ∈ (s.nodes h).seeds).findSome? fun k => (s.nodes k).group

/-- It is the group of a seed. -/
theorem seedGroup_eq_some {s : State H (Server H) (Choice H)} {g : Group H}
    (hg : seedGroup inv s h = some g) :
    ∃ k ∈ inv.hosts, k ∈ (s.nodes h).seeds ∧ (s.nodes k).group = some g := by
  rcases List.exists_of_findSome?_eq_some hg with ⟨k, hk, hkg⟩
  rw [List.mem_filter, decide_eq_true_eq] at hk
  exact ⟨k, hk.1, hk.2, hkg⟩

/-- If there is none then no seed is in a group. -/
theorem seedGroup_eq_none {s : State H (Server H) (Choice H)}
    (hg : seedGroup inv s h = none) :
    ∀ k ∈ inv.hosts, k ∈ (s.nodes h).seeds → (s.nodes k).group = none := by
  intro k hk hseed
  refine List.findSome?_eq_none_iff.mp hg k ?_
  rw [List.mem_filter, decide_eq_true_eq]
  exact ⟨hk, hseed⟩

/-- No outside fault, and a seed that is in a group answers. -/
def quiet (inv : Inventory H) (s : State H (Server H) (Choice H)) (h : H) : Choice H where
  verdict := .ok
  reached := 0
  meets := seedGroup inv s h

/-- Such an outcome is permitted. -/
theorem quiet_joinsSeed (s : State H (Server H) (Choice H)) (h : H) :
    JoinsSeed inv s h (quiet inv s h) :=
  fun _ hg => seedGroup_eq_some hg

end Playbook

/-- The inventory of the site. -/
def siteInventory : Inventory String where
  hosts := ["192.168.1.101", "192.168.1.102", "192.168.1.103"]
  nodup := by decide
  mgrNode := ["192.168.1.101", "192.168.1.102", "192.168.1.103"]
  bootstrap := "192.168.1.101"
  bootstrap_mem := by decide

/-- The variables of the site on CentOS 7. -/
def siteVars : Vars String where
  mysqlReplUser := "repl"
  majorVersion := fun _ => "7"

/-- A server as it was installed. -/
def installed : Server String where
  accounts := []
  objects := []
  cnfSeeds := ["node1", "node2", "node3"]
  seeds := ["node1", "node2", "node3"]
  bootstrap := false
  group := none
  founded := 0

/-- A run without faults, stopped after some events. -/
def siteRun (count : Nat) (nodes : String → Server String) :
    State String (Server String) (Choice String) :=
  drive (quiet siteInventory) count (launch id (setupMgr siteInventory siteVars) nodes)

/-- The first run sets the group up, the second one is stopped after some restarts. -/
theorem setup_one_group_site :
    (((siteRun 60 fun _ => installed).nodes "192.168.1.103").group =
        some ⟨"192.168.1.101", 0⟩) ∧
      ∀ h ∈ siteInventory.hosts, ∀ k ∈ siteInventory.hosts, ∀ g g',
        ((siteRun 20 (siteRun 60 fun _ => installed).nodes).nodes h).group = some g →
        ((siteRun 20 (siteRun 60 fun _ => installed).nodes).nodes k).group = some g' → g = g' := by
  refine ⟨by decide +kernel, ?_⟩
  have hlaw : ∀ count s, Lawful (calm (σ := Server String)) (JoinsSeed siteInventory) s
      (follow (quiet siteInventory) count s) :=
    fun count s => lawful_follow quiet_joinsSeed count s
  have hfirst := run_follow calm (quiet siteInventory) 60
    (launch id (setupMgr siteInventory siteVars) fun _ => installed)
  have hsecond := run_follow calm (quiet siteInventory) 20
    (launch id (setupMgr siteInventory siteVars) (siteRun 60 fun _ => installed).nodes)
  have hmoment : Moment calm id (fun _ => installed) [⟨_, _⟩, ⟨_, _⟩] _ :=
    Moment.later hfirst (Moment.now List.prefix_rfl hsecond)
  refine setup_one_group siteInventory (fun _ _ => ⟨rfl, rfl⟩) ?_ ?_ hmoment
  · intro l hl
    refine ⟨siteVars, ?_⟩
    rcases List.mem_pair.mp hl with rfl | rfl
    · rfl
    · rfl
  · refine ⟨hlaw 60 _, ?_⟩
    intro m hm
    cases hm.symm.trans hfirst
    exact ⟨hlaw 20 _, fun _ _ => trivial⟩

end Mysql
end ClusterPlaybooks
