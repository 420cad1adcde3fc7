import ClusterPlaybooks.Service.Modules
import Mathlib.Data.List.Nodup

/-!
# Roles shared by the playbooks

The Kafka and the ZooKeeper playbooks have the same roles for packages, system
settings, the state of the service, and port checks.  Tasks that leave nothing
behind that a node state shows are {lit}`inert`: they can only succeed or fail.

A role included in a loop is one task for each item, so a host that fails one of
them does not reach the next.  A module called in a loop is one task.
-/

namespace ClusterPlaybooks
namespace Service

open Ansible

variable {H F C : Type}

/-- A task of {lit}`count` calls that change nothing this model looks at. -/
def inert (name : String) (count : Nat) : Task H (Node F C) Choice where
  name := name
  items := List.replicate count (call noEffect)

/-- The same with {lit}`ignore_errors: true`. -/
def inertIgnoringErrors (name : String) (count : Nat) : Task H (Node F C) Choice where
  name := name
  items := List.replicate count (callIgnoringErrors noEffect)

/-- The implicit first task of a play with {lit}`gather_facts: true`. -/
def gatherFacts : Task H (Node F C) Choice :=
  inert "Gathering Facts" 1

section Inert

variable {h : H} {I : Node F C → Prop}

/-- An inert task keeps everything. -/
@[simp]
theorem inert_keeps {name : String} {count : Nat} : (inert name count).Keeps h I := by
  intro a ha
  rw [List.eq_of_mem_replicate ha]
  exact noEffect_keeps

/-- So does one that ignores errors. -/
@[simp]
theorem inertIgnoringErrors_keeps {name : String} {count : Nat} :
    (inertIgnoringErrors name count).Keeps h I := by
  intro a ha
  rw [List.eq_of_mem_replicate ha]
  apply callIgnoringErrors_keeps
  intro n x n' hI heff
  cases heff
  exact hI

/-- Gathering facts keeps everything. -/
@[simp]
theorem gatherFacts_keeps : gatherFacts.Keeps h I :=
  inert_keeps

end Inert

/-! ## Packages and system settings -/

/-- The role {lit}`java`. -/
def java : List (Task H (Node F C) Choice) :=
  [inertIgnoringErrors "checking java installation" 1,
    inert "Check Java Version Support" 1,
    inert "Setting java update true if required" 1,
    inert "Install Openjdk | <= 8 | RedHat | if java version is less than 8" 2,
    inert "Install Openjdk | >= 11 | RedHat | if java version is greater than 11" 2,
    inert "Install OpenJdk | Debian/Ubuntu" 2,
    inert "Install Openjdk | <= 8 | Amazon | if java version is less than 8" 1,
    inert "Install Openjdk | >= 11 | Amazon | if java version is greater than 11" 1]

/-- The tasks {lit}`commonUtils` of the role {lit}`common`. -/
def commonUtils : List (Task H (Node F C) Choice) :=
  [inert "Install Common Utils" 5,
    inert "install python3* packages and dependencies" 3,
    inert "install python3* packages and dependencies  | Debian" 3]

/-- The tasks {lit}`createUser` of the role {lit}`common`. -/
def createUser (serviceName : String) : List (Task H (Node F C) Choice) :=
  [inert ("creating " ++ serviceName ++ " group") 1,
    inert ("creating " ++ serviceName ++ " user") 1]

/-- The tasks {lit}`systemTuning` of the role {lit}`common`. -/
def systemTuning : List (Task H (Node F C) Choice) :=
  [inertIgnoringErrors "OS Tunning" 1,
    inertIgnoringErrors "Networking Tunning" 18,
    inert "update ulimits" 1]

/-- The tasks {lit}`disableFirewall` of the role {lit}`common`. -/
def disableFirewall (useSystemFirewall : Bool) : List (Task H (Node F C) Choice) :=
  if useSystemFirewall then []
  else
    [inert "disable ufw firewall if exists" 1,
      inert "disable firewalld service if exists" 1,
      inertIgnoringErrors "taking iptables backup" 1,
      inertIgnoringErrors "flushing all iptables rules if exists" 1]

/-- The role {lit}`common` around its directory tasks. -/
def common (serviceName : String) (useSystemFirewall : Bool)
    (createDirStructure : List (Task H (Node F C) Choice)) : List (Task H (Node F C) Choice) :=
  commonUtils ++ createUser serviceName ++ createDirStructure ++ systemTuning ++
    disableFirewall useSystemFirewall

section Keep

variable {h : H} {I : Node F C → Prop}

/-- Installing Java keeps everything. -/
@[simp]
theorem java_keep : TasksKeep h I (java : List (Task H (Node F C) Choice)) := by
  simp [java]

/-- The role {lit}`common` keeps what its directory tasks keep. -/
theorem common_keep {serviceName : String} {useSystemFirewall : Bool}
    {createDirStructure : List (Task H (Node F C) Choice)}
    (hdirs : TasksKeep h I createDirStructure) :
    TasksKeep h I (common serviceName useSystemFirewall createDirStructure) := by
  cases useSystemFirewall <;>
    simp [common, commonUtils, createUser, systemTuning, disableFirewall, hdirs]

end Keep

/-! ## The state of the service -/

/-- The states the role {lit}`serviceState` is asked for. -/
inductive ServiceState where
  | started
  | restarted
deriving DecidableEq, Repr

/-- The word for a state. -/
def ServiceState.word : ServiceState → String
  | .started => "started"
  | .restarted => "restarted"

/-- The {lit}`systemd` call that brings the service into a state. -/
def ServiceState.effect : ServiceState → Effect H F C
  | .started => Service.started
  | .restarted => Service.restarted

/-- The clause of a task without {lit}`when`. -/
def always : H → Node F C → Option Bool :=
  fun _ _ => some true

/-- The role {lit}`serviceState`. -/
def serviceState (serviceName : String) (state : ServiceState)
    (cond : H → Node F C → Option Bool) : Task H (Node F C) Choice where
  name := serviceName ++ " Service | " ++ state.word
  items := [callWhen cond state.effect]

/-- The role {lit}`portCheck`, included for each port. -/
def portCheck (ports : List String) (cond : H → Node F C → Option Bool) :
    List (Task H (Node F C) Choice) :=
  ports.map fun port =>
    { name := "Waiting for port | " ++ port ++ " | to be | started"
      items := [callWhen cond (waitFor port)] }

section Keep

variable {h : H} {I : Node F C → Prop} {cond : H → Node F C → Option Bool}

/-- Changing the state of the service keeps what the {lit}`systemd` call keeps. -/
theorem serviceState_keeps {serviceName : String} {state : ServiceState}
    (hstate : (callWhen cond state.effect).Keeps h I) :
    (serviceState serviceName state cond).Keeps h I := by
  intro a ha
  rw [List.mem_singleton.mp ha]
  exact hstate

/-- Waiting for ports keeps everything. -/
@[simp]
theorem portCheck_keep {ports : List String} : TasksKeep h I (portCheck ports cond) := by
  intro a ha
  simp only [portCheck, List.flatMap_map, List.mem_flatMap, List.mem_singleton] at ha
  rcases ha with ⟨port, _, rfl⟩
  exact waitFor_keeps

end Keep

/-! ## Plays -/

/-- A play on all hosts at once. -/
def onAll (hosts : List H) (nodup : hosts.Nodup) (tasks : List (Task H (Node F C) Choice)) :
    Play H (Node F C) Choice where
  hosts := hosts
  nodup := nodup
  serial := false
  anyErrorsFatal := false
  tasks := tasks

/-- A play with {lit}`serial: 1`. -/
def oneByOne (hosts : List H) (nodup : hosts.Nodup) (tasks : List (Task H (Node F C) Choice)) :
    Play H (Node F C) Choice where
  hosts := hosts
  nodup := nodup
  serial := true
  anyErrorsFatal := false
  tasks := tasks

/--
The plays of an upgrade: prepare the system, install the new version, ask the operator, and
switch one host after the other.  They keep what their tasks keep.
-/
theorem upgradePlays_keep {I : Node F C → Prop} {hosts : List H} {nodup : hosts.Nodup}
    {localhost : H} {title : String} {prepare install switch : List (Task H (Node F C) Choice)}
    (hprepare : ∀ h, TasksKeep h I prepare) (hinstall : ∀ h, TasksKeep h I install)
    (hswitch : ∀ h, TasksKeep h I switch) :
    ∀ p ∈ [onAll hosts nodup (gatherFacts :: java ++ prepare),
        onAll hosts nodup (gatherFacts :: install),
        onAll [localhost] (List.nodup_singleton _) [inert title 1],
        oneByOne hosts nodup switch],
      ∀ h ∈ p.hosts, ∀ a ∈ p.actions, a.Keeps h I := by
  have hfirst : ∀ h, TasksKeep h I (gatherFacts :: java ++ prepare) := by
    simp [hprepare]
  have hsecond : ∀ h, TasksKeep h I (gatherFacts :: install) := by
    simp [hinstall]
  have hprompt : ∀ h : H, TasksKeep h I [inert title 1] := by
    simp
  simp only [List.forall_mem_cons]
  exact ⟨fun h _ => hfirst h, fun h _ => hsecond h, fun h _ => hprompt h, fun h _ => hswitch h,
    by simp⟩

end Service
end ClusterPlaybooks
