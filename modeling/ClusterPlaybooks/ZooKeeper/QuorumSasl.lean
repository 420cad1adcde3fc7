import ClusterPlaybooks.Ansible.History
import ClusterPlaybooks.Ansible.Schedule
import ClusterPlaybooks.Service.RollingUpdate
import ClusterPlaybooks.ZooKeeper.Playbooks

/-!
# Quorum authentication during the migration to SASL

A node authenticates itself when its running {lit}`enableSasl` and
{lit}`learnerRequireSasl` are on.  It accepts a peer that does so when its own
{lit}`enableSasl` is on, and one that does not unless {lit}`enableSasl` and
{lit}`serverRequireSasl` are on.

The three rolling plays switch the settings on one after the other.  The settings
of a node are therefore a level between zero and three, a play only raises
levels, and at every moment the levels of two nodes differ by one at most.  This
survives any number of interrupted runs.

Main results:

- Theorem {lit}`saslOutline_valid`: the plays only raise levels.
- Theorem {lit}`sasl_migration_connected`: throughout any sequence of runs all
  running nodes accept each other, and after a successful run every node runs
  with all three settings on.
-/

namespace ClusterPlaybooks
namespace ZooKeeper

open Ansible
open Service
open Text

/-! ## Connections -/

/-- The authentication settings in a set of files; a missing {lit}`zoo.cfg` sets nothing. -/
def saslOf (files : ConfFile → Option ConfigFile) : Sasl :=
  sasl ((files .zooCfg).getD [])

/-- A node with these settings authenticates itself when it opens a connection. -/
def Sasl.authenticates (a : Sasl) : Bool :=
  a.enableSasl && a.learnerRequireSasl

/-- A node with settings {lit}`b` accepts a connection from one with settings {lit}`a`. -/
def Sasl.accepts (b a : Sasl) : Bool :=
  if a.authenticates then b.enableSasl else !(b.enableSasl && b.serverRequireSasl)

/-- Two nodes, if both run, accept connections from each other. -/
def SaslLinked (m n : ZkNode) : Prop :=
  ∀ p q, m.process = some p → n.process = some q →
    (saslOf p).accepts (saslOf q) = true ∧ (saslOf q).accepts (saslOf p) = true

/-- Nothing is required without the settings it builds on. -/
def Sasl.Ordered (a : Sasl) : Prop :=
  (a.learnerRequireSasl = true → a.enableSasl = true) ∧
    (a.serverRequireSasl = true → a.enableSasl = true ∧ a.learnerRequireSasl = true)

/-! ## Levels -/

/-- The first {lit}`l` of the three settings are on. -/
def Sasl.level (l : Nat) : Sasl where
  enableSasl := decide (1 ≤ l)
  learnerRequireSasl := decide (2 ≤ l)
  serverRequireSasl := decide (3 ≤ l)

/-- Files whose level lies between two bounds. -/
def Levels (lo hi : Nat) (files : ConfFile → Option ConfigFile) : Prop :=
  ∃ l, lo ≤ l ∧ l ≤ hi ∧ saslOf files = Sasl.level l

/-- Wider bounds hold as well. -/
theorem Levels.mono {lo hi lo' hi' : Nat} (hlo : lo' ≤ lo) (hhi : hi ≤ hi')
    (files : ConfFile → Option ConfigFile) (hfiles : Levels lo hi files) :
    Levels lo' hi' files := by
  rcases hfiles with ⟨l, hl, hl', heq⟩
  exact ⟨l, by omega, by omega, heq⟩

/-- Settings on a level are ordered. -/
theorem Sasl.level_ordered (l : Nat) : (Sasl.level l).Ordered := by
  simp only [Sasl.Ordered, Sasl.level, decide_eq_true_eq]
  omega

/-- Levels that differ by one at most accept each other. -/
theorem Sasl.level_accepts {a b : Nat} (hab : a ≤ b + 1) (hba : b ≤ a + 1) :
    (Sasl.level b).accepts (Sasl.level a) = true := by
  by_cases hauth : 2 ≤ a
  · have ha : 1 ≤ a := by omega
    have hb : 1 ≤ b := by omega
    simp [Sasl.accepts, Sasl.authenticates, Sasl.level, hauth, ha, hb]
  · have hb : ¬ 3 ≤ b := by omega
    simp [Sasl.accepts, Sasl.authenticates, Sasl.level, hauth, hb]

/-- Files on neighbouring levels link their nodes. -/
theorem Levels.linked {k : Nat} {m n : ZkNode}
    (hm : ∀ p, m.process = some p → Levels k (k + 1) p)
    (hn : ∀ q, n.process = some q → Levels k (k + 1) q) : SaslLinked m n := by
  intro p q hp hq
  rcases hm p hp with ⟨a, ha, ha', heqa⟩
  rcases hn q hq with ⟨b, hb, hb', heqb⟩
  rw [heqa, heqb]
  exact ⟨Sasl.level_accepts (by omega) (by omega), Sasl.level_accepts (by omega) (by omega)⟩

/-! ## Edits of zoo.cfg -/

theorem saslOf_update_zooCfg (files : ConfFile → Option ConfigFile) (c : ConfigFile) :
    saslOf (Function.update files .zooCfg (some c)) = sasl c := by
  simp [saslOf]

theorem saslOf_update_of_ne {file : ConfFile} (hne : file ≠ .zooCfg)
    (files : ConfFile → Option ConfigFile) (c : ConfigFile) :
    saslOf (Function.update files file (some c)) = saslOf files := by
  simp [saslOf, hne.symm]

theorem saslOf_eq {files : ConfFile → Option ConfigFile} {c : ConfigFile}
    (hfile : files .zooCfg = some c) : saslOf files = sasl c := by
  simp [saslOf, hfile]

/-- The line of the first play switches {lit}`enableSasl` on. -/
theorem sasl_lineinfile_enableSasl (f : ConfigFile) :
    sasl (lineinfile "quorum.auth.enableSasl=" (.entry "quorum.auth.enableSasl" "true") f) =
      { sasl f with enableSasl := true } := by
  have hself := lookup_lineinfile_self "quorum.auth.enableSasl=" "quorum.auth.enableSasl" "true" f
    fun _ => rfl
  have hlearner := lookup_lineinfile_of_not_found "quorum.auth.enableSasl="
    "quorum.auth.enableSasl" "quorum.auth.learnerRequireSasl" "true" f (by decide) fun _ => rfl
  have hserver := lookup_lineinfile_of_not_found "quorum.auth.enableSasl="
    "quorum.auth.enableSasl" "quorum.auth.serverRequireSasl" "true" f (by decide) fun _ => rfl
  simp [sasl, flag, hself, hlearner, hserver, isTrue]

/-- The line of the second play switches {lit}`learnerRequireSasl` on. -/
theorem sasl_lineinfile_learnerRequireSasl (f : ConfigFile) :
    sasl (lineinfile "quorum.auth.learnerRequireSasl="
      (.entry "quorum.auth.learnerRequireSasl" "true") f) =
      { sasl f with learnerRequireSasl := true } := by
  have hself := lookup_lineinfile_self "quorum.auth.learnerRequireSasl="
    "quorum.auth.learnerRequireSasl" "true" f fun _ => rfl
  have henable := lookup_lineinfile_of_not_found "quorum.auth.learnerRequireSasl="
    "quorum.auth.learnerRequireSasl" "quorum.auth.enableSasl" "true" f (by decide) fun _ => rfl
  have hserver := lookup_lineinfile_of_not_found "quorum.auth.learnerRequireSasl="
    "quorum.auth.learnerRequireSasl" "quorum.auth.serverRequireSasl" "true" f (by decide)
    fun _ => rfl
  simp [sasl, flag, hself, henable, hserver, isTrue]

/-- Switching {lit}`enableSasl` on raises every level to one at least. -/
theorem Sasl.level_enable (l : Nat) :
    { Sasl.level l with enableSasl := true } = Sasl.level (max l 1) := by
  simp only [Sasl.level, Sasl.mk.injEq]
  refine ⟨by simp, by simp, by simp⟩

/-- Switching {lit}`learnerRequireSasl` on raises a level from one on to two at least. -/
theorem Sasl.level_learner {l : Nat} (hl : 1 ≤ l) :
    { Sasl.level l with learnerRequireSasl := true } = Sasl.level (max l 2) := by
  simp only [Sasl.level, Sasl.mk.injEq]
  refine ⟨?_, by simp, by simp⟩
  simp only [le_max_iff, decide_eq_decide]
  omega

/-! ## The plays -/

/-- The tasks of the three plays between gathering facts and the restart. -/
def saslConfig (inv : Inventory) (v : Vars) : Nat → List ZkTask
  | 0 => [dynamicConfigs inv v .jaasConf, dynamicConfigs inv v.withSasl .javaEnv,
      quorumAuthLine v "enableSasl"]
  | 1 => [quorumAuthLine v "learnerRequireSasl"]
  | _ => [dynamicConfigs inv v.withSasl .zooCfg]

/-- A play of the migration. -/
def saslPlay (inv : Inventory) (v : Vars) (j : Nat) : ZkPlay :=
  inv.rolling (rollingTasks (saslConfig inv v j) "zookeeper" [v.zookeeperClientPort])

/--
A play of the migration in a run that found the levels {lit}`k` and {lit}`k + 1`.
Levels below the play are raised step by step, levels above it stay.
-/
def saslStage (inv : Inventory) (v : Vars) (k j : Nat) : Stage Host ZkNode Choice :=
  rollingStage (saslPlay inv v j) v.versionDir (Levels (max j k) (max j (k + 1)))
    (Levels (max j k) (max j k + 1)) (Levels (max (j + 1) k) (max (j + 1) (k + 1)))

/-- The proof outline of a run. -/
def saslOutline (inv : Inventory) (v : Vars) (k : Nat) : List (Stage Host ZkNode Choice) :=
  [saslStage inv v k 0, saslStage inv v k 1, saslStage inv v k 2]

section Plays

variable {inv : Inventory} {v : Vars} {h : Host} {k : Nat}

/-- What a call does to the level on the disk. -/
structure Raises (v : Vars) (h : Host) (j : Nat) (a : Action Host ZkNode Choice) : Prop where
  keeps : ∀ {lo hi : Nat} {R}, j ≤ lo → j + 1 ≤ hi → hi ≤ 3 →
    a.Keeps h (Node.Within v.versionDir (Levels lo hi) R)
  gives : ∀ {lo hi : Nat} {R}, j ≤ lo → hi ≤ 3 →
    a.Gives h (Node.Within v.versionDir (Levels lo hi) R)
      (Node.Within v.versionDir (Levels (max (j + 1) lo) (max (j + 1) hi)) R)

/-- The line edit of an early play raises levels. -/
theorem zooCfgLine_raises {re key value : String} {j : Nat}
    (hedit : ∀ f l, j ≤ l → sasl f = Sasl.level l →
      sasl (lineinfile re (.entry key value) f) = Sasl.level (max (j + 1) l)) :
    Raises v h j (zooCfgLine v re key value) where
  keeps := by
    intro lo hi R hlo hhi _
    apply editFile_keeps
    intro disk c hdisk hc
    rcases hdisk with ⟨l, hl, hl', heq⟩
    rw [saslOf_eq hc] at heq
    refine ⟨max (j + 1) l, by omega, by omega, ?_⟩
    rw [saslOf_update_zooCfg, hedit c l (by omega) heq]
  gives := by
    intro lo hi R hlo _
    apply editFile_gives
    intro disk c hdisk hc
    rcases hdisk with ⟨l, hl, hl', heq⟩
    rw [saslOf_eq hc] at heq
    refine ⟨max (j + 1) l, by omega, by omega, ?_⟩
    rw [saslOf_update_zooCfg, hedit c l (by omega) heq]

/-- Rendering {lit}`zoo.cfg` switches everything on. -/
theorem zooCfgTemplate_raises :
    Raises v h 2 (call (template v.versionDir .zooCfg (render inv v.withSasl .zooCfg)
      (some "configStatus"))) := by
  have hlevel : ∀ c, render inv v.withSasl .zooCfg h = some c → sasl c = Sasl.level 3 := by
    intro c hc
    rw [zooCfg_sasl hc]
    rfl
  constructor
  · intro lo hi R hlo hhi hthree
    apply template_keeps
    intro disk c hdisk hc
    rcases hdisk with ⟨l, hl, hl', _⟩
    exact ⟨3, by omega, by omega, by rw [saslOf_update_zooCfg, hlevel c hc]⟩
  · intro lo hi R hlo hthree
    apply template_gives
    intro disk c hdisk hc
    rcases hdisk with ⟨l, hl, hl', _⟩
    exact ⟨3, by omega, by omega, by rw [saslOf_update_zooCfg, hlevel c hc]⟩

/-- Writing another file leaves the level alone. -/
theorem otherTemplate_keeps {file : ConfFile} (hne : file ≠ .zooCfg)
    {render : Host → Option ConfigFile} {reg : Option String} {lo hi : Nat}
    {R : (ConfFile → Option ConfigFile) → Prop} :
    (call (template v.versionDir file render reg)).Keeps h
      (Node.Within v.versionDir (Levels lo hi) R) := by
  apply template_keeps
  intro disk c hdisk _
  rcases hdisk with ⟨l, hl, hl', heq⟩
  exact ⟨l, hl, hl', by rw [saslOf_update_of_ne hne, heq]⟩

/-- The last call of every play raises levels, and the calls before it leave them alone. -/
theorem saslConfig_calls (inv : Inventory) (v : Vars) (h : Host) {j : Nat} (hj : j ≤ 2) :
    ∃ as a, (saslConfig inv v j).flatMap Task.items = as ++ [a] ∧ Raises v h j a ∧
      ∀ b ∈ as, ∀ {lo hi : Nat} {R}, b.Keeps h (Node.Within v.versionDir (Levels lo hi) R) := by
  match j, hj with
  | 0, _ =>
      refine ⟨_, _, List.dropLast_append_getLast (List.cons_ne_nil _ _) |>.symm, ?_, ?_⟩
      · apply zooCfgLine_raises
        intro f l _ heq
        rw [Nat.max_comm, ← Sasl.level_enable, ← heq]
        exact sasl_lineinfile_enableSasl f
      · intro b hb lo hi R
        change b ∈ [_, _] at hb
        rcases List.mem_pair.mp hb with rfl | rfl
        · exact otherTemplate_keeps (by decide)
        · exact otherTemplate_keeps (by decide)
  | 1, _ =>
      refine ⟨[], _, rfl, ?_, by simp⟩
      apply zooCfgLine_raises
      intro f l hl heq
      rw [Nat.max_comm, ← Sasl.level_learner hl, ← heq]
      exact sasl_lineinfile_learnerRequireSasl f
  | 2, _ => exact ⟨[], _, rfl, zooCfgTemplate_raises, by simp⟩

/-- A play of the migration meets its obligations. -/
theorem saslStage_valid {ε : Type} {env : ε → ZkNode → ZkNode} (henv : SelfRestarting env)
    {j : Nat} (hj : j ≤ 2) (hk : k ≤ 2) : (saslStage inv v k j).Valid env := by
  have hlow : Stable env (Node.Within v.versionDir (Levels (max j k) (max j (k + 1)))
      (Levels (max j k) (max j k + 1))) :=
    Node.Within.stable henv (Levels.mono (by omega) (by omega))
  have hhigh : Stable env (Node.Within v.versionDir
      (Levels (max (j + 1) (max j k)) (max (j + 1) (max j (k + 1))))
      (Levels (max j k) (max j k + 1))) :=
    Node.Within.stable henv (Levels.mono (by omega) (by omega))
  apply rollingStage_valid henv (by simp)
  · exact Levels.mono (by omega) (by omega)
  · exact Levels.mono (by omega) (by omega)
  · intro h b hb
    rcases saslConfig_calls inv v h hj with ⟨as, a, heq, ha, has⟩
    rw [heq] at hb
    rcases List.mem_append.mp hb with hb | hb
    · exact has b hb
    · cases List.mem_singleton.mp hb
      exact ha.keeps (by omega) (by omega) (by omega)
  · intro h
    rcases saslConfig_calls inv v h hj with ⟨as, a, heq, ha, has⟩
    rw [heq]
    have hbefore := Ensures.of_keeps hlow fun b hb => has b hb
    have hraise := Ensures.single hlow hhigh (ha.gives (by omega) (by omega))
    refine (hbefore.append hraise).consequence ?_ ?_
    · exact fun _ hn => hn.weaken (fun _ hc => hc) (Levels.mono (by omega) (by omega))
    · exact fun _ hn => hn.weaken (Levels.mono (by omega) (by omega)) fun _ hc => hc

/-- Every play of the migration meets its obligations. -/
theorem saslOutline_valid (inv : Inventory) (v : Vars) {ε : Type} {env : ε → ZkNode → ZkNode}
    (henv : SelfRestarting env) (hk : k ≤ 2) : ∀ st ∈ saslOutline inv v k, st.Valid env := by
  intro st hst
  simp only [saslOutline, List.mem_cons, List.not_mem_nil, or_false] at hst
  rcases hst with rfl | rfl | rfl
  · exact saslStage_valid henv (by omega) hk
  · exact saslStage_valid henv (by omega) hk
  · exact saslStage_valid henv (by omega) hk

/-- What is known of the nodes between two runs. -/
def Neighbours (inv : Inventory) (d : String) (k : Nat) : Host → ZkNode → Prop :=
  AllNodes inv (Node.Within d (Levels k (k + 1)) (Levels k (k + 1)))

/-- The assertions of the outline fit together. -/
theorem saslOutline_chained :
    Chained (Neighbours inv v.versionDir k) (saslOutline inv v k) := by
  refine ⟨?_, ?_, ?_, trivial⟩
  · intro h n hn hh
    exact (hn hh).weaken (Levels.mono (by omega) (by omega)) (Levels.mono (by omega) (by omega))
  · exact fun h n hn hh => (hn hh).1
  · exact fun h n hn hh => (hn hh).1

/-- All nodes are on neighbouring levels during and after each play. -/
theorem saslOutline_neighbours (hk : k ≤ 2) {st : Stage Host ZkNode Choice}
    (hst : st ∈ Stage.idle (Neighbours inv v.versionDir k) :: saslOutline inv v k) :
    ∃ l ≤ 2, st.inv = Neighbours inv v.versionDir l ∧ ∀ h n, st.post h n → st.inv h n := by
  have hpost : ∀ j h n, (saslStage inv v k j).post h n → (saslStage inv v k j).inv h n := by
    intro j h n hn hh
    exact (hn hh).1.weaken (Levels.mono (by omega) (by omega)) (Levels.mono (by omega) (by omega))
  simp only [saslOutline, List.mem_cons, List.not_mem_nil, or_false] at hst
  rcases hst with rfl | rfl | rfl | rfl
  · exact ⟨k, hk, rfl, fun _ _ hn => hn⟩
  · exact ⟨max 0 k, by omega, rfl, hpost 0⟩
  · exact ⟨max 1 k, by omega, rfl, hpost 1⟩
  · exact ⟨max 2 k, by omega, rfl, hpost 2⟩

end Plays

/-! ## Any number of runs -/

/-- The cluster on its way: all nodes are on two neighbouring levels. -/
def Migrating (inv : Inventory) (d : String) (nodes : Host → ZkNode) : Prop :=
  ∃ k ≤ 2, ∀ h, Neighbours inv d k h (nodes h)

/-- At every moment of a run from neighbouring levels the nodes are on neighbouring levels. -/
theorem sasl_run {inv : Inventory} {v : Vars} {nodes : Host → ZkNode} {k : Nat} (hk : k ≤ 2)
    (hnodes : ∀ h, Neighbours inv v.versionDir k h (nodes h))
    {es : List (Event Host Choice (List String))} {s : State Host ZkNode Choice}
    (hrun : run Node.selfRestart (start (clusterMigrateToSasLAuth inv v) nodes) es = some s) :
    Migrating inv v.versionDir s.nodes ∧
    (s.succeeded = true → ∀ h ∈ inv.clusterNodes, (s.nodes h).Runs (Levels 3 3)) := by
  have hstable : ∀ h, Stable Node.selfRestart (Neighbours inv v.versionDir k h) :=
    fun _ => Stable.imp (Node.Within.stable selfRestarting fun _ hc => hc)
  have hvalid := saslOutline_valid inv v selfRestarting hk
  have halong := outline_sound hstable hvalid saslOutline_chained hnodes hrun
  have hout : ∀ st ∈ Stage.idle (Neighbours inv v.versionDir k) :: saslOutline inv v k,
      st.Valid Node.selfRestart := by
    intro st hst
    rcases List.mem_cons.mp hst with rfl | hst
    · exact Stage.idle_valid hstable
    · exact hvalid st hst
  have hserial : ∀ st ∈ Stage.idle (Neighbours inv v.versionDir k) :: saslOutline inv v k,
      st.play.serial = true ∨ st.play.hosts = [] := by
    intro st hst
    simp only [saslOutline, List.mem_cons, List.not_mem_nil, or_false] at hst
    rcases hst with rfl | rfl | rfl | rfl
    · exact Or.inr rfl
    all_goals exact Or.inl rfl
  have hlost : s.lost = [] := halong.lost_eq_nil hserial
  constructor
  · rcases halong.exists_stage hout (fun st hst => (saslOutline_neighbours hk hst).elim
      fun _ hl => hl.2.2) hlost with ⟨st, hst, hinv⟩
    rcases saslOutline_neighbours hk hst with ⟨l, hl, heq, _⟩
    exact ⟨l, hl, heq ▸ hinv⟩
  · intro hsucc h hh
    rcases (outline_succeeded hstable hvalid halong hsucc h hh).2 with ⟨p, hp, hlevels⟩
    exact ⟨p, hp, Levels.mono (by omega) (by omega) p hlevels⟩

/-- The settings of a node on neighbouring levels are ordered, on disk and running. -/
theorem Neighbours.ordered {inv : Inventory} {d : String} {k : Nat} {h : Host} {n : ZkNode}
    (hh : h ∈ inv.clusterNodes) (hn : Neighbours inv d k h n) :
    (saslOf n.disk).Ordered ∧ ∀ p, n.process = some p → (saslOf p).Ordered := by
  have hfiles : ∀ files, Levels k (k + 1) files → (saslOf files).Ordered := by
    intro files hfiles
    rcases hfiles with ⟨l, _, _, heq⟩
    rw [heq]
    exact Sasl.level_ordered l
  exact ⟨hfiles _ (hn hh).disk, fun p hp => hfiles p ((hn hh).process p hp)⟩

/--
Throughout any sequence of runs of the migration, each stopped anywhere and with
nodes coming back by themselves, all running nodes accept each other and no
{lit}`zoo.cfg` requires what it does not enable.  After a run without failures
every node runs with all three settings on.
-/
theorem sasl_migration_connected (inv : Inventory) (d : String) {nodes : Host → ZkNode}
    (hoff : ∀ h ∈ inv.clusterNodes, (nodes h).Within d
      (fun files => saslOf files = ⟨false, false, false⟩)
      (fun files => saslOf files = ⟨false, false, false⟩))
    {ls : List (Launch Host ZkNode Choice (List String))}
    (hruns : ∀ l ∈ ls, ∃ v : Vars, v.versionDir = d ∧ l.plays = clusterMigrateToSasLAuth inv v)
    {s : State Host ZkNode Choice}
    (hmoment : Moment Node.selfRestart Node.forget nodes ls s) :
    (∀ h ∈ inv.clusterNodes, ∀ k ∈ inv.clusterNodes, SaslLinked (s.nodes h) (s.nodes k)) ∧
    (∀ h ∈ inv.clusterNodes, (saslOf (s.nodes h).disk).Ordered ∧
      ∀ p, (s.nodes h).process = some p → (saslOf p).Ordered) ∧
    (s.succeeded = true → ∀ h ∈ inv.clusterNodes,
      ∃ p, (s.nodes h).process = some p ∧ saslOf p = ⟨true, true, true⟩) := by
  have hstart : Migrating inv d nodes := by
    refine ⟨0, by omega, fun h hh => (hoff h hh).weaken ?_ ?_⟩ <;>
      exact fun _ hc => ⟨0, by omega, by omega, hc⟩
  have hstep : ∀ l ∈ ls, ∀ nodes es s, Migrating inv d nodes → es <+: l.events →
      run Node.selfRestart (launch Node.forget l.plays nodes) es = some s →
      (Migrating inv d s.nodes ∧ (s.succeeded = true → ∀ h ∈ inv.clusterNodes,
        (s.nodes h).Runs (Levels 3 3))) ∧ Migrating inv d s.nodes := by
    intro l hl nodes es s hbefore _ hrun
    rcases hbefore with ⟨k, hk, hnodes⟩
    rcases hruns l hl with ⟨v, rfl, hplays⟩
    rw [hplays] at hrun
    have hafter := sasl_run hk (fun h hh => (hnodes h hh).forget) hrun
    exact ⟨hafter, hafter.1⟩
  rcases Moment.induct hstep hstart hmoment with ⟨⟨k, _, hnodes⟩, hlast⟩
  refine ⟨?_, ?_, ?_⟩
  · intro h hh j hj
    exact Levels.linked (hnodes h hh).process (hnodes j hj).process
  · intro h hh
    exact (hnodes h).ordered hh
  · intro hsucc h hh
    rcases hlast hsucc h hh with ⟨p, hp, l, hl, hl', heq⟩
    have hthree : l = 3 := by omega
    subst hthree
    exact ⟨p, hp, heq⟩

/-- A configured node without authentication has none of the settings. -/
theorem configuredNode_unauthenticated (inv : Inventory) (v : Vars)
    (hoff : v.zookeeperQuorumAuthEnableSasl = false) (h : Host) :
    (configuredNode inv v h).Within v.versionDir
      (fun files => saslOf files = ⟨false, false, false⟩)
      (fun files => saslOf files = ⟨false, false, false⟩) := by
  have hsasl : saslOf (fun f => render inv v f h) = ⟨false, false, false⟩ := by
    change sasl ((zooCfg inv v).getD []) = _
    cases hf : zooCfg inv v with
    | none => rfl
    | some f =>
        rw [Option.getD_some, zooCfg_sasl hf, hoff]
  refine ⟨rfl, ?_, ?_⟩
  · rw [configuredNode_disk]
    exact hsasl
  · intro p hp
    cases hp
    exact hsasl

/-- The variables of the development cluster before it authenticates. -/
def unauthenticatedVars : Vars :=
  { developmentVars with zookeeperQuorumAuthEnableSasl := false }

/-- A run of the migration on the development cluster, stopped after some events. -/
def developmentSasl (count : Nat) (nodes : Host → ZkNode) : State Host ZkNode Choice :=
  drive (fun _ _ => Choice.good ["2181"]) count
    (launch Node.forget (clusterMigrateToSasLAuth developmentInventory unauthenticatedVars) nodes)

/-- A run stopped in the second play, followed by a run without failures. -/
theorem sasl_migration_connected_development :
    (developmentSasl 200 (developmentSasl 40 (configuredNode developmentInventory
      unauthenticatedVars)).nodes).succeeded = true ∧
    ∀ h ∈ developmentInventory.clusterNodes,
      ∃ p, ((developmentSasl 200 (developmentSasl 40 (configuredNode developmentInventory
        unauthenticatedVars)).nodes).nodes h).process = some p ∧ saslOf p = ⟨true, true, true⟩ := by
  have hsucc : (developmentSasl 200 (developmentSasl 40 (configuredNode developmentInventory
      unauthenticatedVars)).nodes).succeeded = true := by
    decide +kernel
  have hfirst := run_follow Node.selfRestart (fun _ _ => Choice.good ["2181"]) 40
    (launch Node.forget (clusterMigrateToSasLAuth developmentInventory unauthenticatedVars)
      (configuredNode developmentInventory unauthenticatedVars))
  have hsecond := run_follow Node.selfRestart (fun _ _ => Choice.good ["2181"]) 200
    (launch Node.forget (clusterMigrateToSasLAuth developmentInventory unauthenticatedVars)
      (developmentSasl 40 (configuredNode developmentInventory unauthenticatedVars)).nodes)
  have hmoment : Moment Node.selfRestart Node.forget _ [⟨_, _⟩, ⟨_, _⟩] _ :=
    Moment.later hfirst (Moment.now List.prefix_rfl hsecond)
  refine ⟨hsucc, (sasl_migration_connected developmentInventory unauthenticatedVars.versionDir
    (fun h _ => configuredNode_unauthenticated developmentInventory unauthenticatedVars rfl h)
    ?_ hmoment).2.2 hsucc⟩
  intro l hl
  refine ⟨unauthenticatedVars, rfl, ?_⟩
  rcases List.mem_pair.mp hl with rfl | rfl
  · rfl
  · rfl

end ZooKeeper
end ClusterPlaybooks
