import ClusterPlaybooks.Ansible.History
import ClusterPlaybooks.ZooKeeper.QuorumTls

/-!
# Running the migration to mutual TLS a second time

The first rolling play of a second run switches encryption off again, one node
after the other.  Nodes that already insist on encryption do not accept the
connections of such a node.  Only the first host of the inventory may insist on
encryption when the second run starts, since it is the first one to be switched
back.

Main results:

- Theorem {lit}`rerun_linked`: from linked nodes of which only the first insists
  on encryption, every run keeps the nodes linked.
- Theorem {lit}`mtls_rerun_connected`: a second run after an interrupted first
  run keeps the nodes linked under the same condition.
- Theorem {lit}`mtls_rerun_disconnects`: a second run after a finished first run
  cuts the first host off.
-/

namespace ClusterPlaybooks
namespace ZooKeeper

open Ansible
open Service
open Text

/-! ## The outline of a second run -/

/-- No restriction on the files. -/
def anything : (ConfFile → Option ConfigFile) → Prop :=
  TlsIn fun _ => True

/-- The process is still the one of the given node. -/
def sameProcess (old : ZkNode) : (ConfFile → Option ConfigFile) → Prop :=
  fun p => old.process = some p

/-- The process is still the one of the given node, or it was restarted with unified ports. -/
def sameOrUnified (old : ZkNode) : (ConfFile → Option ConfigFile) → Prop :=
  fun p => sameProcess old p ∨ exactly false true p

/-- The first rolling play of a second run. -/
def rerunBasicStage (inv : Inventory) (v : Vars) (old : Host → ZkNode) :
    Stage Host ZkNode Choice where
  play := tlsPlay inv v (sslQuorumBasicSettings v)
  pre := fun h n => h ∈ inv.clusterNodes → n.Within v.versionDir anything (sameProcess (old h))
  inv := fun h n => h ∈ inv.clusterNodes → n.Within v.versionDir anything (sameOrUnified (old h))
  post := AllNodes inv (Settled v (exactly false true))

/-- What holds of the nodes when a second run starts. -/
def Untouched (inv : Inventory) (v : Vars) (old : Host → ZkNode) : Host → ZkNode → Prop :=
  fun h n => h ∈ inv.clusterNodes → n.Within v.versionDir anything (sameProcess (old h))

/-- The proof outline of a second run; its later plays are those of a first run. -/
def rerunOutline (inv : Inventory) (v : Vars) (old : Host → ZkNode) :
    List (Stage Host ZkNode Choice) :=
  Stage.steady (inv.onNodes (gatherFacts :: copyFiles v)) (Untouched inv v old) ::
    rerunBasicStage inv v old :: (mtlsOutline inv v).drop 2

section Rerun

variable {inv : Inventory} {v : Vars} {old : Host → ZkNode}

/-- A line edit leaves the process alone. -/
theorem basicSettings_keeps_process {h : Host} {R : (ConfFile → Option ConfigFile) → Prop} :
    ∀ a ∈ (sslQuorumBasicSettings v).items, a.Keeps h (Node.Within v.versionDir anything R) := by
  intro a ha
  simp only [sslQuorumBasicSettings, List.mem_cons, List.not_mem_nil, or_false] at ha
  rcases ha with rfl | rfl | rfl | rfl | rfl | rfl | rfl <;>
    exact zooCfgLine_keeps fun _ _ => trivial

/-- Only nodes with unified ports on disk are restarted. -/
theorem rerunBasicStage_guards (h : Host) :
    Guards calm h (Node.Within v.versionDir anything (sameProcess (old h)))
      (rollingTasks [sslQuorumBasicSettings v] "zookeeper" [v.zookeeperClientPort])
      (Node.Within v.versionDir anything (sameOrUnified (old h))) := by
  have hsame : ∀ files, sameProcess (old h) files → sameOrUnified (old h) files :=
    fun _ => Or.inl
  have hany : ∀ files : ConfFile → Option ConfigFile, anything files → anything files :=
    fun _ hc => hc
  have hweaken : ∀ n : ZkNode, n.Within v.versionDir anything (sameProcess (old h)) →
      n.Within v.versionDir anything (sameOrUnified (old h)) :=
    fun n hn => hn.weaken hany hsame
  -- facts and edits do not touch the process
  refine Guards.cons (J := Node.Within v.versionDir anything (sameProcess (old h)))
    (stable_calm _) (fun _ hn => hn) hweaken ?_ (Ensures.single (stable_calm _) (stable_calm _)
      noEffect_keeps.gives) ?_
  · intro a ha
    cases List.mem_singleton.mp ha
    exact noEffect_keeps
  refine Guards.cons (J := Node.Within v.versionDir anything (sameProcess (old h)))
    (stable_calm _) (fun _ hn => hn) hweaken basicSettings_keeps_process
    (basicSettings_ensures (stable_calm _) (stable_calm _) (stable_calm _)) ?_
  -- the restart finds unified ports on the disk
  have hrest : Guards calm h (Node.Within v.versionDir (exactly false true) (sameProcess (old h)))
      (serviceState "zookeeper" .restarted always :: portCheck [v.zookeeperClientPort] always)
      (Node.Within v.versionDir (exactly false true) (sameOrUnified (old h))) := by
    refine Guards.of_keeps (stable_calm _) (fun n hn => hn.weaken (fun _ hc => hc) hsame) ?_
    intro a ha
    rw [List.flatMap_cons] at ha
    rcases List.mem_append.mp ha with ha | ha
    · cases List.mem_singleton.mp ha
      exact restarted_keeps fun _ => Or.inr
    · exact portCheck_keep a ha
  exact hrest.consequence (fun _ hn => hn)
    fun n hn => hn.weaken (fun _ _ => trivial) fun _ hc => hc

/-- The first rolling play of a second run meets its obligations. -/
theorem rerunBasicStage_valid : (rerunBasicStage inv v old).Valid calm where
  stable_pre := fun _ => stable_calm _
  stable_inv := fun _ => stable_calm _
  stable_post := fun _ => stable_calm _
  pre_inv := fun _ _ hn hh => (hn hh).weaken (fun _ hc => hc) fun _ => Or.inl
  guards := fun h hh =>
    (rerunBasicStage_guards h).consequence (fun _ hn => hn hh) fun _ hn _ => hn
  ensures := by
    intro h hh
    have hedit : Ensures calm h (Node.Within v.versionDir anything (sameProcess (old h)))
        ([sslQuorumBasicSettings v].flatMap Task.items)
        (Node.Within v.versionDir (exactly false true) (sameOrUnified (old h))) := by
      rw [List.flatMap_cons, List.flatMap_nil, List.append_nil]
      exact (basicSettings_ensures (stable_calm _) (stable_calm _) (stable_calm _)).consequence
        (fun _ hn => hn) fun n hn => hn.weaken (fun _ hc => hc) fun _ => Or.inl
    exact (rolling_ensures selfRestarting_calm (by simp) (fun _ => Or.inr) (stable_calm _)
      hedit).consequence (fun _ hn => hn hh) fun _ hn _ => hn
  frame := fun _ hh _ _ hmem => absurd hmem hh

/-- Every play of a second run meets the obligations of the outline. -/
theorem rerunOutline_valid (hversion : versionGe v.zookeeperVersion "3.5.5" = some true) :
    ∀ st ∈ rerunOutline inv v old, st.Valid calm := by
  intro st hst
  rcases List.mem_cons.mp hst with rfl | hst
  · apply Stage.steady_valid fun _ => stable_calm _
    intro h _ a ha n x n' b hn hrun hh
    exact copyFiles_keeps a ha n x n' b (hn hh) hrun
  rcases List.mem_cons.mp hst with rfl | hst
  · exact rerunBasicStage_valid
  · exact mtlsOutline_valid selfRestarting_calm hversion st (List.mem_of_mem_drop hst)

/-- The assertions of a second run fit together. -/
theorem rerunOutline_chained : Chained (Untouched inv v old) (rerunOutline inv v old) := by
  have htail : Chained _ (mtlsOutline inv v) := mtlsOutline_chained
  exact ⟨fun _ _ hn => hn, fun _ _ hn => hn, htail.2.2⟩

/-- No running node insists on encryption, except the first one. -/
def OnlyFirstStrict (inv : Inventory) (nodes : Host → ZkNode) : Prop :=
  ∀ h ∈ inv.clusterNodes, inv.clusterNodes.head? ≠ some h →
    ∀ p, (nodes h).process = some p → tlsOf p ≠ ⟨true, false⟩

/-- A node that was restarted with unified ports is linked to one that is not strict. -/
theorem reaches_of_unified {p q : ConfFile → Option ConfigFile} (hp : exactly false true p)
    (hq : tlsOf q ≠ ⟨true, false⟩) :
    (tlsOf p).reaches (tlsOf q) = true ∧ (tlsOf q).reaches (tlsOf p) = true := by
  have heq : tlsOf p = ⟨false, true⟩ := hp
  rw [heq]
  generalize tlsOf q = t at hq
  rcases t with ⟨ssl, unification⟩
  cases ssl <;> cases unification <;> simp_all [Tls.reaches]

/-- While the first rolling play of a second run goes on, the nodes stay linked. -/
theorem rerunBasicStage_linked {outline : List (Stage Host ZkNode Choice)}
    {s : State Host ZkNode Choice} (hin : InPlay calm outline (rerunBasicStage inv v old) s)
    (hlost : s.lost = [])
    (hlinked : ∀ h ∈ inv.clusterNodes, ∀ k ∈ inv.clusterNodes, TlsLinked (old h) (old k))
    (hfirst : OnlyFirstStrict inv old) {h k : Host} (hh : h ∈ inv.clusterNodes)
    (hk : k ∈ inv.clusterNodes) : TlsLinked (s.nodes h) (s.nodes k) := by
  have hpost : ∀ j n, (rerunBasicStage inv v old).post j n →
      (rerunBasicStage inv v old).inv j n :=
    fun _ _ hn hj => (hn hj).1.weaken (fun _ _ => trivial) fun _ => Or.inr
  have hinv := hin.inv_all rerunBasicStage_valid.pre_inv hpost hlost
  -- a host that has not been restarted is not strict once another one has been
  have hstrict : ∀ i ∈ inv.clusterNodes, ∀ j ∈ inv.clusterNodes, i ≠ j → ∀ p q,
      (s.nodes i).process = some p → (s.nodes j).process = some q →
      exactly false true p → sameProcess (old i) p ∨ tlsOf q ≠ ⟨true, false⟩ := by
    intro i hi j hj hij p q hp hq _
    by_cases hhead : inv.clusterNodes.head? = some j
    · rcases List.head?_eq_some_iff.mp hhead with ⟨ks, hks⟩
      have hhosts : (rerunBasicStage inv v old).play.hosts = [] ++ j :: ks := hks
      rcases hin.over_or_waiting rfl hlost hhosts with hdone | hwait
      · right
        have heq : tlsOf q = ⟨false, true⟩ := (hdone hj).1.process q hq
        simp [heq]
      · left
        have hmem : i ∈ ks := by
          rw [hks] at hi
          exact (List.mem_cons.mp hi).resolve_left hij
        exact (hwait i hmem hi).process p hp
    · rcases (hinv j hj).process q hq with hsame | hunified
      · exact Or.inr (hfirst j hj hhead q hsame)
      · right
        have heq : tlsOf q = ⟨false, true⟩ := hunified
        simp [heq]
  intro p q hp hq
  by_cases hhk : h = k
  · subst hhk
    rw [hp] at hq
    cases hq
    simp [Tls.reaches]
  rcases (hinv h hh).process p hp with hpold | hpnew
  · rcases (hinv k hk).process q hq with hqold | hqnew
    · exact hlinked h hh k hk p q hpold hqold
    · rcases hstrict k hk h hh (Ne.symm hhk) q p hq hp hqnew with hqold | hnot
      · exact hlinked h hh k hk p q hpold hqold
      · exact (reaches_of_unified hqnew hnot).symm
  · rcases hstrict h hh k hk hhk p q hp hq hpnew with hpold | hnot
    · rcases (hinv k hk).process q hq with hqold | hqnew
      · exact hlinked h hh k hk p q hpold hqold
      · exact reaches_of_unified hpnew (by simp [show tlsOf q = _ from hqnew])
    · exact reaches_of_unified hpnew hnot

/--
From linked nodes of which only the first may insist on encryption, every run of
the migration keeps the nodes linked.
-/
theorem rerun_linked (hversion : versionGe v.zookeeperVersion "3.5.5" = some true)
    (hlive : ∀ h ∈ inv.clusterNodes, (old h).live = some v.versionDir)
    (hlinked : ∀ h ∈ inv.clusterNodes, ∀ k ∈ inv.clusterNodes, TlsLinked (old h) (old k))
    (hfirst : OnlyFirstStrict inv old) {es : List (Event Host Choice Empty)}
    {s : State Host ZkNode Choice}
    (hrun : run calm (start (clusterMigrateToMtls inv v) old) es = some s)
    (hlost : s.lost = []) {h k : Host} (hh : h ∈ inv.clusterNodes)
    (hk : k ∈ inv.clusterNodes) : TlsLinked (s.nodes h) (s.nodes k) := by
  have hstart : ∀ h, Untouched inv v old h (old h) :=
    fun j hj => ⟨hlive j hj, trivial, fun _ hp => hp⟩
  rcases outline_sound (fun _ => stable_calm _) (rerunOutline_valid hversion)
    rerunOutline_chained hstart hrun with ⟨cur, rest, hin, _, _, hsuffix⟩
  have hsteady : ∀ play, cur = Stage.steady play (Untouched inv v old) →
      TlsLinked (s.nodes h) (s.nodes k) := by
    intro play hcur p q hp hq
    subst hcur
    have hinv := hin.inv_all (fun _ _ hn => hn) (fun _ _ hn => hn) hlost
    exact hlinked h hh k hk p q ((hinv h hh).process p hp) ((hinv k hk).process q hq)
  rcases List.mem_cons.mp (hsuffix.subset List.mem_cons_self) with rfl | hcur
  · exact hsteady _ rfl
  rcases List.mem_cons.mp hcur with rfl | hcur
  · exact hsteady _ rfl
  rcases List.mem_cons.mp hcur with rfl | hcur
  · exact rerunBasicStage_linked hin hlost hlinked hfirst hh hk
  · -- from the second rolling play on this is a first run
    have hmem : cur ∈ mtlsOutline inv v := List.mem_of_mem_drop hcur
    have hinv := hin.inv_all
      (mtlsOutline_valid selfRestarting_calm hversion cur hmem).pre_inv
      (mtlsOutline_post_inv (List.mem_cons_of_mem _ hmem)) hlost
    rcases mtlsOutline_compatible (List.mem_cons_of_mem _ hmem) with ⟨S, hS, hwithin⟩
    exact hS.linked (hwithin h hh _ (hinv h)).process (hwithin k hk _ (hinv k)).process

end Rerun

/-! ## Two runs -/

/--
A second run of the migration, after a first one that was stopped anywhere, keeps
all running nodes linked at every moment, provided that no node other than the
first of the inventory ran with encryption only when the first run stopped.
-/
theorem mtls_rerun_connected (inv : Inventory) (v : Vars) {nodes : Host → ZkNode}
    (hplain : ∀ h ∈ inv.clusterNodes, (nodes h).Within v.versionDir plain plain)
    {es₁ es₂ : List (Event Host Choice Empty)} {s₁ s₂ : State Host ZkNode Choice}
    (hrun₁ : run calm (start (clusterMigrateToMtls inv v) nodes) es₁ = some s₁)
    (hall₁ : s₁.lost = [])
    (hstop : ∀ h ∈ inv.clusterNodes, inv.clusterNodes.head? ≠ some h →
      ∀ p, (s₁.nodes h).process = some p → tlsOf p ≠ ⟨true, false⟩)
    (hrun₂ : run calm (launch Node.forget (clusterMigrateToMtls inv v) s₁.nodes) es₂ = some s₂)
    (hall₂ : s₂.lost = []) :
    ∀ h ∈ inv.clusterNodes, ∀ k ∈ inv.clusterNodes, TlsLinked (s₂.nodes h) (s₂.nodes k) := by
  intro h hh k hk
  by_cases hversion : versionGe v.zookeeperVersion "3.5.5" = some true
  · have halong := mtls_along selfRestarting_calm hversion hplain hrun₁
    rcases compatible_of_along selfRestarting_calm hversion halong hall₁ with
      ⟨S, hS, hwithin⟩
    have hfirst : OnlyFirstStrict inv fun j => (s₁.nodes j).forget := hstop
    have hlinked : ∀ i ∈ inv.clusterNodes, ∀ j ∈ inv.clusterNodes,
        TlsLinked (s₁.nodes i).forget (s₁.nodes j).forget :=
      fun i hi j hj => hS.linked (hwithin i hi).process (hwithin j hj).process
    have hlive : ∀ j ∈ inv.clusterNodes, (s₁.nodes j).forget.live = some v.versionDir :=
      fun j hj => (hwithin j hj).live
    exact rerun_linked hversion hlive hlinked hfirst hrun₂ hall₂ hh hk
  · -- without support for encryption it stays off in both runs
    have hfirst := run_keeps (fun _ => stable_calm _) (mtls_keeps_plain hversion) hplain hrun₁
    have hsecond := run_keeps (fun _ => stable_calm _) (mtls_keeps_plain hversion)
      (fun j hj => (hfirst j hj).forget) hrun₂
    exact plain_compatible.linked (hsecond h hh).process (hsecond k hk).process

/-- A run of the migration of the development cluster, stopped after some events. -/
def developmentMigration (count : Nat) : State Host ZkNode Choice :=
  drive (fun _ _ => Choice.good ["2181"]) count
    (start (clusterMigrateToMtls developmentInventory developmentVars)
      (configuredNode developmentInventory developmentVars))

/-- Another run after it, stopped after some events. -/
def developmentRerun (count again : Nat) : State Host ZkNode Choice :=
  drive (fun _ _ => Choice.good ["2181"]) again
    (launch Node.forget (clusterMigrateToMtls developmentInventory developmentVars)
      (developmentMigration count).nodes)

/-- The first run is a run. -/
theorem developmentMigration_run (count : Nat) :
    ∃ es, run calm (start (clusterMigrateToMtls developmentInventory developmentVars)
      (configuredNode developmentInventory developmentVars)) es =
      some (developmentMigration count) :=
  ⟨_, run_follow calm _ count _⟩

/-- The second run is a run. -/
theorem developmentRerun_run (count again : Nat) :
    ∃ es, run calm (launch Node.forget (clusterMigrateToMtls developmentInventory developmentVars)
      (developmentMigration count).nodes) es = some (developmentRerun count again) :=
  ⟨_, run_follow calm _ again _⟩

/-- A first run that was stopped before the first restart does no harm. -/
theorem mtls_rerun_connected_development :
    (developmentRerun 20 40).lost = [] ∧
    ∀ h ∈ developmentInventory.clusterNodes, ∀ k ∈ developmentInventory.clusterNodes,
      TlsLinked ((developmentRerun 20 40).nodes h) ((developmentRerun 20 40).nodes k) := by
  have hall : (developmentRerun 20 40).lost = [] := by decide +kernel
  have hoff : ∀ h ∈ developmentInventory.clusterNodes,
      ((developmentMigration 20).nodes h).process.all fun p => !(tlsOf p).sslQuorum := by
    decide +kernel
  rcases developmentMigration_run 20 with ⟨es₁, hrun₁⟩
  rcases developmentRerun_run 20 40 with ⟨es₂, hrun₂⟩
  refine ⟨hall, mtls_rerun_connected developmentInventory developmentVars
    (fun h _ => configuredNode_plain developmentInventory developmentVars rfl h)
    hrun₁ (by decide +kernel) ?_ hrun₂ hall⟩
  intro h hh _ p hp heq
  have hnot := hoff h hh
  rw [hp] at hnot
  simp [heq] at hnot

/-- After a finished migration a second run cuts the first host off. -/
theorem mtls_rerun_disconnects :
    ∃ (es₁ es₂ : List (Event Host Choice Empty)) (s₁ s₂ : State Host ZkNode Choice),
      run calm (start (clusterMigrateToMtls developmentInventory developmentVars)
        (configuredNode developmentInventory developmentVars)) es₁ = some s₁ ∧
      s₁.succeeded = true ∧
      run calm (launch Node.forget (clusterMigrateToMtls developmentInventory developmentVars)
        s₁.nodes) es₂ = some s₂ ∧
      s₂.lost = [] ∧
      ¬ TlsLinked (s₂.nodes "zookeeper1.localhost") (s₂.nodes "zookeeper2.localhost") := by
  rcases developmentMigration_run 200 with ⟨es₁, hrun₁⟩
  rcases developmentRerun_run 200 27 with ⟨es₂, hrun₂⟩
  exact ⟨es₁, es₂, developmentMigration 200, developmentRerun 200 27, hrun₁,
    by decide +kernel, hrun₂, by decide +kernel, by decide +kernel⟩

end ZooKeeper
end ClusterPlaybooks
