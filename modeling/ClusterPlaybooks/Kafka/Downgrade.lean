import ClusterPlaybooks.Ansible.History
import ClusterPlaybooks.Kafka.Playbooks

/-!
# Going back to the old version

The first play of {lit}`clusterDownGradeVersion` is meant to stop the run when a broker
lacks the directory of the old version.  Its {lit}`fail` task asks the registered result
for {lit}`exists`, but the module {lit}`stat` reports {lit}`stat.exists`.  The clause can
never be evaluated, so the task fails on every broker and, the play being
{lit}`any_errors_fatal`, no run gets to the play that moves the links.

Main results:

- Theorem {lit}`downgrade_unchanged`: no run moves a link or restarts a broker.
- Theorem {lit}`downgrade_contract_iff`: the playbook does what it is for exactly when it
  has nothing to do.
-/

namespace ClusterPlaybooks
namespace Kafka

open Ansible
open Service

variable {inv : Inventory} {v : Vars} {nodes : Host → KafkaNode}

/-! ## What the playbook is for -/

/-- The state a run of the playbook starts in. -/
abbrev startDowngrade (inv : Inventory) (v : Vars) (nodes : Host → KafkaNode) :
    State Host KafkaNode Choice :=
  launch Node.forget (clusterDownGradeVersion inv v) nodes

/--
The playbook is all or nothing: it touches no broker when one of them lacks the old
directory, and otherwise moves every link there and restarts the brokers it moved.
-/
structure DowngradeContract (inv : Inventory) (v : Vars) (nodes : Host → KafkaNode) : Prop where
  refused : ∀ old, v.oldVersionDir = some old → (∃ h ∈ inv.hosts, (nodes h).dirs old = none) →
    ∀ es s, run calm (startDowngrade inv v nodes) es = some s →
      ∀ h ∈ inv.hosts, (s.nodes h).live = (nodes h).live ∧ (s.nodes h).starts = (nodes h).starts
  allowed : ∀ old, v.oldVersionDir = some old →
    (∀ h ∈ inv.hosts, ((nodes h).dirs old).isSome = true) →
    ∀ es s, run calm (startDowngrade inv v nodes) es = some s →
      Lawful calm (Faultless v.ports) (startDowngrade inv v nodes) es → s.ended = true →
      ∀ h ∈ inv.hosts, (s.nodes h).live = some old ∧
        (s.nodes h).starts.length =
          (nodes h).starts.length + if (nodes h).live = some old then 0 else 1

/-! ## What the playbook does -/

/-- The result of {lit}`stat` has no flag {lit}`exists`, so the clause cannot be evaluated. -/
theorem whenNot_exists (reg : String) (h : Host) (n : KafkaNode) :
    whenNot reg ["exists"] h n = none := by
  unfold whenNot
  cases n.regs reg with
  | none => rfl
  | some r => rfl

/-- The link and the starts are those the broker had before the run. -/
def Untouched (nodes : Host → KafkaNode) (h : Host) (n : KafkaNode) : Prop :=
  n.live = (nodes h).live ∧ n.starts = (nodes h).starts

/-- Looking for the old version touches nothing. -/
theorem checkOldVersion_keep (h : Host) :
    TasksKeep h (Untouched nodes h) (checkOldVersion v) := by
  have hstat : (call (stat v.oldVersionDir "kafkaOldVersionStatus")).Keeps h
      (Untouched nodes h) := by
    apply call_keeps
    intro n x n' hn heff
    rcases Option.map_eq_some_iff.mp heff with ⟨d, _, rfl⟩
    exact hn
  have hfail : (callWhen (whenNot "kafkaOldVersionStatus" ["exists"]) fail).Keeps h
      (Untouched nodes h) := by
    apply callWhen_keeps
    intro n x n' _ _ heff
    cases heff
  simp [checkOldVersion, hstat, hfail]

/-- No broker gets through the tasks that look for the old version. -/
theorem checkOldVersion_ensures (h : Host) :
    Ensures calm h (Untouched nodes h) ((checkOldVersion v).flatMap Task.items)
      fun _ : KafkaNode => False := by
  have hstat : (call (stat v.oldVersionDir "kafkaOldVersionStatus")).Gives h
      (Untouched nodes h) fun _ => True := fun _ _ _ _ _ => trivial
  have hfail : (callWhen (whenNot "kafkaOldVersionStatus" ["exists"]) fail).Gives h
      (fun _ : KafkaNode => True) fun _ => False := by
    apply callWhen_gives
    · intro n _ hcond
      rw [whenNot_exists] at hcond
      cases hcond
    · intro n x n' _ hcond
      rw [whenNot_exists] at hcond
      cases hcond
  exact Ensures.cons (stable_calm _) (stable_calm _) hstat
    (Ensures.single (stable_calm _) (stable_calm _) hfail)

/-- The playbook with the assertion that no broker gets to its second play. -/
def downgradeStages (inv : Inventory) (v : Vars) (nodes : Host → KafkaNode) :
    List (Stage Host KafkaNode Choice) :=
  [{ play := { inv.onBrokers (checkOldVersion v) with anyErrorsFatal := true }
     pre := Untouched nodes
     inv := Untouched nodes
     post := fun h n => Untouched nodes h n ∧ h ∉ inv.hosts },
    Stage.steady
      (inv.rolling (revertSymlink v ++ restartAndCheck v (whenChanged "kafkaSymlinkStatus")))
      fun h n => Untouched nodes h n ∧ h ∉ inv.hosts]

/-- The annotated plays are valid. -/
theorem downgradeStages_valid : ∀ st ∈ downgradeStages inv v nodes, st.Valid calm := by
  intro st hst
  simp only [downgradeStages, List.mem_cons, List.not_mem_nil, or_false] at hst
  rcases hst with rfl | rfl
  · refine ⟨fun _ => stable_calm _, fun _ => stable_calm _, fun _ => stable_calm _,
      fun _ _ hn => hn, ?_, ?_, fun h hh n hn => ⟨hn, hh⟩⟩
    · intro h _
      exact Guards.of_keeps (stable_calm _) (fun _ hn => hn) (checkOldVersion_keep h)
    · intro h _
      exact (checkOldVersion_ensures h).consequence (fun _ hn => hn) fun _ hfalse => hfalse.elim
  · refine Stage.steady_valid (fun _ => stable_calm _) ?_
    intro h hh a _ n x n' w hn
    exact absurd hh hn.2

/-- No run moves a link or restarts a broker. -/
theorem downgrade_unchanged {es : List (Event Host Choice Empty)}
    {s : State Host KafkaNode Choice}
    (hrun : run calm (startDowngrade inv v nodes) es = some s) (h : Host) :
    (s.nodes h).live = (nodes h).live ∧ (s.nodes h).starts = (nodes h).starts := by
  have hchain : Chained (Untouched nodes) (downgradeStages inv v nodes) :=
    ⟨fun _ _ hn => hn, fun _ _ hn => hn, trivial⟩
  have hnodes : ∀ k, Untouched nodes k (nodes k).forget := fun _ => ⟨rfl, rfl⟩
  have halong := outline_sound (fun _ => stable_calm _) downgradeStages_valid hchain hnodes hrun
  refine halong.of_stages (A := Untouched nodes) ?_ h
  intro st hst k n hn
  simp only [downgradeStages, List.mem_cons, List.not_mem_nil, or_false] at hst
  rcases hst with rfl | rfl | rfl
  · rcases hn with hn | hn | hn <;> exact hn
  · rcases hn with hn | hn | hn
    · exact hn
    · exact hn
    · exact hn.1
  · rcases hn with hn | hn | hn <;> exact hn.1

/-! ## When it does what it is for -/

/-- All tasks of the playbook call modules. -/
theorem downgrade_isCall :
    ∀ p ∈ clusterDownGradeVersion inv v, ∀ a ∈ p.actions, IsCall a := by
  have hcheck : ∀ t ∈ checkOldVersion v, ∀ a ∈ t.items, IsCall a := by
    simp [checkOldVersion]
  have hrevert : ∀ t ∈ revertSymlink v, ∀ a ∈ t.items, IsCall a := by
    unfold revertSymlink
    split <;> simp [createSymlink]
  have hrestart : ∀ t ∈ restartAndCheck v (whenChanged "kafkaSymlinkStatus"),
      ∀ a ∈ t.items, IsCall a := by
    simp [restartAndCheck, serviceState, portCheck]
  intro p hp a ha
  simp only [clusterDownGradeVersion, List.mem_cons, List.not_mem_nil, or_false] at hp
  rcases List.mem_flatMap.mp ha with ⟨t, ht, hat⟩
  rcases hp with rfl | rfl
  · exact hcheck t ht a hat
  · rcases List.mem_append.mp ht with ht | ht
    · exact hrevert t ht a hat
    · exact hrestart t ht a hat

/--
The playbook is all or nothing exactly when a broker lacks the old directory, which it
never finds out, or all links lead there already.
-/
theorem downgrade_contract_iff (inv : Inventory) (v : Vars) (nodes : Host → KafkaNode) :
    DowngradeContract inv v nodes ↔
      ∀ old, v.oldVersionDir = some old →
        (∃ h ∈ inv.hosts, (nodes h).dirs old = none) ∨
          ∀ h ∈ inv.hosts, (nodes h).live = some old := by
  constructor
  · intro hcontract old hold
    by_cases hlacks : ∃ h ∈ inv.hosts, (nodes h).dirs old = none
    · exact Or.inl hlacks
    · right
      have hall : ∀ h ∈ inv.hosts, ((nodes h).dirs old).isSome = true := by
        intro h hh
        by_contra hnone
        exact hlacks ⟨h, hh, by simpa using hnone⟩
      -- a run without faults ends with the links it found
      rcases exists_faultless v.ports (fun h => (nodes h).forget) downgrade_isCall
        with ⟨es, s, hrun, hlaw, hend⟩
      intro h hh
      rw [← (downgrade_unchanged hrun h).1]
      exact (hcontract.allowed old hold hall es s hrun hlaw hend h hh).1
  · intro hcond
    refine ⟨fun _ _ _ es s hrun h _ => downgrade_unchanged hrun h, ?_⟩
    intro old hold hall es s hrun _ _ h hh
    rcases hcond old hold with ⟨k, hk, hlacks⟩ | hlive
    · have hsome := hall k hk
      rw [hlacks] at hsome
      cases hsome
    · have hsame := downgrade_unchanged hrun h
      exact ⟨hsame.1.trans (hlive h hh), by rw [hsame.2, if_pos (hlive h hh), Nat.add_zero]⟩

/-! ## The development brokers -/

/-- A broker on the new version that still has the directory of the old one. -/
def upgradedNode (h : Host) : KafkaNode :=
  { configuredNode developmentInventory developmentVars h with
    dirs := fun d =>
      if d = "/kafka/kafka_2.13-3.0.0" then some ⟨true, fun _ => none⟩
      else (configuredNode developmentInventory developmentVars h).dirs d }

/-- A run without faults on three such brokers. -/
def failedDowngrade : State Host KafkaNode Choice :=
  drive allGood 20 (startDowngrade developmentInventory developmentVars upgradedNode)

/--
Three brokers run the new version and have the old one installed.  A run without faults
is aborted and leaves every link on the new version.
-/
theorem downgrade_never_allowed :
    ¬DowngradeContract developmentInventory developmentVars upgradedNode := by
  intro hcontract
  have hall : ∀ h ∈ developmentInventory.hosts,
      ((upgradedNode h).dirs "/kafka/kafka_2.13-3.0.0").isSome = true := by
    intro h _
    simp [upgradedNode]
  have hrun := run_follow calm allGood 20
    (startDowngrade developmentInventory developmentVars upgradedNode)
  have hgood : ∀ s h, Faultless developmentVars.ports s h (allGood s h) := fun _ _ => Or.inl rfl
  have hlaw : Lawful calm (Faultless developmentVars.ports)
      (startDowngrade developmentInventory developmentVars upgradedNode)
      (follow allGood 20 (startDowngrade developmentInventory developmentVars upgradedNode)) :=
    lawful_follow hgood 20 _
  have hend : failedDowngrade.ended = true := by decide +kernel
  have hlive : (failedDowngrade.nodes "10.2.119.55").live = some developmentVars.versionDir := by
    decide +kernel
  have hmoved := (hcontract.allowed _ rfl hall _ failedDowngrade hrun hlaw hend "10.2.119.55"
    (by decide)).1
  rw [hlive] at hmoved
  revert hmoved
  decide

end Kafka
end ClusterPlaybooks
