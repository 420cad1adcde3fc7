import ClusterPlaybooks.Ansible.Schedule
import ClusterPlaybooks.Service.RollingUpdate
import ClusterPlaybooks.ZooKeeper.Playbooks

/-!
# Quorum encryption during the migration to mutual TLS

A node opens quorum connections in the way its running {lit}`sslQuorum` says.  It
accepts both kinds of connections when its running {lit}`portUnification` is on,
and otherwise only the kind it opens itself.

Main results:

- Theorem {lit}`mtls_migration_connected`: as long as every host passed the
  upload, all running nodes reach each other at every moment of the migration,
  and after a successful run they all insist on encryption.
-/

namespace ClusterPlaybooks
namespace ZooKeeper

open Ansible
open Service
open Text

/-! ## Connections -/

/-- The encryption settings in a set of files; a missing {lit}`zoo.cfg` sets nothing. -/
def tlsOf (files : ConfFile → Option ConfigFile) : Tls :=
  tls ((files .zooCfg).getD [])

/-- A node with settings {lit}`a` can open a quorum connection to one with settings {lit}`b`. -/
def Tls.reaches (a b : Tls) : Bool :=
  b.portUnification || a.sslQuorum == b.sslQuorum

/-- Two nodes, if both run, can open quorum connections in both directions. -/
def TlsLinked (m n : ZkNode) : Prop :=
  ∀ p q, m.process = some p → n.process = some q →
    (tlsOf p).reaches (tlsOf q) = true ∧ (tlsOf q).reaches (tlsOf p) = true

instance (m n : ZkNode) : Decidable (TlsLinked m n) :=
  match hm : m.process, hn : n.process with
  | some p, some q =>
      decidable_of_iff
        ((tlsOf p).reaches (tlsOf q) = true ∧ (tlsOf q).reaches (tlsOf p) = true)
        (by simp [TlsLinked, hm, hn])
  | some _, none => .isTrue (by simp [TlsLinked, hn])
  | none, _ => .isTrue (by simp [TlsLinked, hm])

/-- Files whose encryption settings are among the given ones. -/
def TlsIn (A : Tls → Prop) : (ConfFile → Option ConfigFile) → Prop :=
  fun files => A (tlsOf files)

/-- Encryption is off. -/
def plain : (ConfFile → Option ConfigFile) → Prop :=
  TlsIn fun t => t.sslQuorum = false

/-- The settings are exactly these. -/
def exactly (sslQuorum portUnification : Bool) : (ConfFile → Option ConfigFile) → Prop :=
  TlsIn fun t => t = ⟨sslQuorum, portUnification⟩

/-! ## Edits of zoo.cfg -/

@[simp]
theorem tlsOf_update (files : ConfFile → Option ConfigFile) (c : ConfigFile) :
    tlsOf (Function.update files .zooCfg (some c)) = tls c := by
  simp [tlsOf]

theorem tlsOf_eq {files : ConfFile → Option ConfigFile} {c : ConfigFile}
    (hfile : files .zooCfg = some c) : tlsOf files = tls c := by
  simp [tlsOf, hfile]

/-- A line for {lit}`sslQuorum` changes this setting only. -/
theorem tls_lineinfile_sslQuorum (value : String) (f : ConfigFile) :
    tls (lineinfile "sslQuorum=" (.entry "sslQuorum" value) f) =
      ⟨isTrue value, (tls f).portUnification⟩ := by
  have hself := lookup_lineinfile_self "sslQuorum=" "sslQuorum" value f fun _ => rfl
  have hother := lookup_lineinfile_of_not_found "sslQuorum=" "sslQuorum" "portUnification"
    value f (by decide) fun _ => rfl
  simp [tls, flag, hself, hother]

/-- A line for {lit}`portUnification` changes this setting only. -/
theorem tls_lineinfile_portUnification (value : String) (f : ConfigFile) :
    tls (lineinfile "portUnification=" (.entry "portUnification" value) f) =
      ⟨(tls f).sslQuorum, isTrue value⟩ := by
  have hself := lookup_lineinfile_self "portUnification=" "portUnification" value f
    fun _ => rfl
  have hother := lookup_lineinfile_of_not_found "portUnification=" "portUnification"
    "sslQuorum" value f (by decide) fun _ => rfl
  simp [tls, flag, hself, hother]

/-- A line for another key changes neither setting. -/
theorem tls_lineinfile_other {re key : String} (value : String) (f : ConfigFile)
    (hquorum : "sslQuorum" ≠ key ∧ ∀ x, (Line.entry "sslQuorum" x).found re = false)
    (hport : "portUnification" ≠ key ∧
      ∀ x, (Line.entry "portUnification" x).found re = false) :
    tls (lineinfile re (.entry key value) f) = tls f := by
  simp [tls, flag, lookup_lineinfile_of_not_found re key _ value f hquorum.1 hquorum.2,
    lookup_lineinfile_of_not_found re key _ value f hport.1 hport.2]

section Edits

variable {h : Host} {v : Vars} {A B : Tls → Prop} {R : (ConfFile → Option ConfigFile) → Prop}

/-- A line edit gives what it does to the settings. -/
theorem zooCfgLine_gives {re key value : String}
    (hedit : ∀ f, A (tls f) → B (tls (lineinfile re (.entry key value) f))) :
    (zooCfgLine v re key value).Gives h (Node.Within v.versionDir (TlsIn A) R)
      (Node.Within v.versionDir (TlsIn B) R) := by
  apply editFile_gives
  intro disk c hdisk hc
  rw [TlsIn, tlsOf_eq hc] at hdisk
  rw [TlsIn, tlsOf_update]
  exact hedit c hdisk

/-- A line edit keeps what it does not break. -/
theorem zooCfgLine_keeps {re key value : String}
    (hedit : ∀ f, A (tls f) → A (tls (lineinfile re (.entry key value) f))) :
    (zooCfgLine v re key value).Keeps h (Node.Within v.versionDir (TlsIn A) R) := by
  apply editFile_keeps
  intro disk c hdisk hc
  rw [TlsIn, tlsOf_eq hc] at hdisk
  rw [TlsIn, tlsOf_update]
  exact hedit c hdisk

/-- After the first two lines the other basic settings change nothing about encryption. -/
theorem basicSettings_tail_keeps :
    ∀ a ∈ (sslQuorumBasicSettings v).items.drop 2,
      a.Keeps h (Node.Within v.versionDir (TlsIn A) R) := by
  intro a ha
  simp only [sslQuorumBasicSettings, List.drop_succ_cons, List.drop_zero, List.mem_cons,
    List.not_mem_nil, or_false] at ha
  rcases ha with rfl | rfl | rfl | rfl | rfl <;>
    · apply zooCfgLine_keeps
      intro f hf
      rw [tls_lineinfile_other]
      · exact hf
      · exact ⟨by decide, fun _ => rfl⟩
      · exact ⟨by decide, fun _ => rfl⟩

/-- The first line switches encryption off, whatever it was. -/
theorem sslQuorumLine_gives :
    (zooCfgLine v "sslQuorum=" "sslQuorum" "false").Gives h
      (Node.Within v.versionDir (TlsIn A) R) (Node.Within v.versionDir plain R) := by
  apply zooCfgLine_gives
  intro f _
  rw [tls_lineinfile_sslQuorum]
  rfl

/-- The second line unifies the ports and leaves encryption off. -/
theorem portUnificationLine_gives :
    (zooCfgLine v "portUnification=" "portUnification" "true").Gives h
      (Node.Within v.versionDir plain R) (Node.Within v.versionDir (exactly false true) R) := by
  apply zooCfgLine_gives
  intro f hf
  rw [tls_lineinfile_portUnification, hf]
  rfl

/-- All basic settings together unify the ports with encryption off. -/
theorem basicSettings_ensures {ε : Type} {env : ε → ZkNode → ZkNode}
    (hbefore : Stable env (Node.Within v.versionDir (TlsIn A) R))
    (hoff : Stable env (Node.Within v.versionDir plain R))
    (hafter : Stable env (Node.Within v.versionDir (exactly false true) R)) :
    Ensures env h (Node.Within v.versionDir (TlsIn A) R) (sslQuorumBasicSettings v).items
      (Node.Within v.versionDir (exactly false true) R) := by
  refine Ensures.cons hbefore hoff sslQuorumLine_gives ?_
  refine Ensures.cons hoff hafter portUnificationLine_gives ?_
  exact Ensures.of_keeps hafter basicSettings_tail_keeps

/-- Rendering {lit}`zoo.cfg` with encryption on gives the settings asked for. -/
theorem render_withTls {inv : Inventory} {portUnification : String} {f : ConfigFile}
    (hversion : versionGe v.zookeeperVersion "3.5.5" = some true)
    (hf : render inv (v.withTls portUnification) .zooCfg h = some f) :
    tls f = ⟨true, isTrue portUnification⟩ := by
  rw [zooCfg_tls hf, if_pos ⟨rfl, hversion⟩]
  rfl

end Edits

/-! ## The three phases of the migration -/

/-- Both kinds of connections are accepted. -/
def unified : (ConfFile → Option ConfigFile) → Prop :=
  TlsIn fun t => t.portUnification = true

/-- Encryption is on. -/
def encrypted : (ConfFile → Option ConfigFile) → Prop :=
  TlsIn fun t => t.sslQuorum = true

/-- The rolling plays of the migration. -/
def tlsPlay (inv : Inventory) (v : Vars) (config : ZkTask) : ZkPlay :=
  inv.rolling (rollingTasks [config] "zookeeper" [v.zookeeperClientPort])

/-- A cluster node whose files and process are in the given set, and which is running. -/
def Settled (v : Vars) (S : (ConfFile → Option ConfigFile) → Prop) (n : ZkNode) : Prop :=
  n.Within v.versionDir S S ∧ n.Runs S

/-- The proof outline of the migration. -/
def mtlsOutline (inv : Inventory) (v : Vars) : List (Stage Host ZkNode Choice) :=
  [Stage.steady (inv.onNodes (gatherFacts :: copyFiles v))
      (AllNodes inv (Node.Within v.versionDir plain plain)),
    rollingStage (tlsPlay inv v (sslQuorumBasicSettings v)) v.versionDir
      plain plain (exactly false true),
    Stage.steady (inv.onLocalhost tlsSocketPrompt)
      (AllNodes inv (Settled v (exactly false true))),
    rollingStage (tlsPlay inv v (dynamicConfigs inv (v.withTls "true") .zooCfg)) v.versionDir
      (exactly false true) unified (exactly true true),
    Stage.steady (inv.onLocalhost workingPrompt)
      (AllNodes inv (Settled v (exactly true true))),
    rollingStage (tlsPlay inv v (dynamicConfigs inv (v.withTls "false") .zooCfg)) v.versionDir
      (exactly true true) encrypted (exactly true false),
    Stage.steady (inv.onLocalhost workingPrompt)
      (AllNodes inv (Settled v (exactly true false)))]

section Outline

variable {inv : Inventory} {v : Vars} {ε : Type} {env : ε → ZkNode → ZkNode}

/-- Uploading files leaves the configuration alone. -/
theorem copyFiles_keeps {h : Host} {d : String} {D R : (ConfFile → Option ConfigFile) → Prop} :
    ∀ a ∈ (gatherFacts :: copyFiles v).flatMap Task.items, a.Keeps h (Node.Within d D R) := by
  refine tasksKeep_cons.mpr ⟨gatherFacts_keeps, copyFiles_keep fun dest => ?_⟩
  apply callWhen_keeps
  intro n x n' hn _ heff
  cases heff
  exact ⟨hn.live, hn.disk, hn.process⟩

/-- Exact settings satisfy what is true of them. -/
theorem exactly_tlsIn {A : Tls → Prop} {sslQuorum portUnification : Bool}
    (hA : A ⟨sslQuorum, portUnification⟩) (files : ConfFile → Option ConfigFile)
    (hfiles : exactly sslQuorum portUnification files) : TlsIn A files := by
  have heq : tlsOf files = ⟨sslQuorum, portUnification⟩ := hfiles
  rw [TlsIn, heq]
  exact hA

/-- Editing the basic settings never switches encryption on. -/
theorem basicSettings_keeps_plain {h : Host} :
    ∀ a ∈ [sslQuorumBasicSettings v].flatMap Task.items,
      a.Keeps h (Node.Within v.versionDir plain plain) := by
  intro a ha
  rw [List.flatMap_cons, List.flatMap_nil, List.append_nil,
    ← List.take_append_drop 2 (sslQuorumBasicSettings v).items] at ha
  rcases List.mem_append.mp ha with ha | ha
  · simp only [sslQuorumBasicSettings, List.take_succ_cons, List.take_zero, List.mem_cons,
      List.not_mem_nil, or_false] at ha
    rcases ha with rfl | rfl
    · apply zooCfgLine_keeps
      intro f _
      rw [tls_lineinfile_sslQuorum]
      rfl
    · apply zooCfgLine_keeps
      intro f hf
      rw [tls_lineinfile_portUnification]
      exact hf
  · exact basicSettings_tail_keeps a ha

/-- The phase that edits single lines of {lit}`zoo.cfg`. -/
theorem basicPhase_valid (henv : SelfRestarting env) :
    (rollingStage (tlsPlay inv v (sslQuorumBasicSettings v)) v.versionDir plain plain
      (exactly false true)).Valid env := by
  have hplain : Stable env (Node.Within v.versionDir plain plain) :=
    Node.Within.stable henv fun _ hc => hc
  have hdual : Stable env (Node.Within v.versionDir (exactly false true) plain) :=
    Node.Within.stable henv (exactly_tlsIn rfl)
  apply rollingStage_valid henv (by simp)
  · exact fun _ hc => hc
  · exact exactly_tlsIn rfl
  · exact fun _ => basicSettings_keeps_plain
  · intro h
    rw [List.flatMap_cons, List.flatMap_nil, List.append_nil]
    exact basicSettings_ensures hplain hplain hdual

/-- A phase that renders {lit}`zoo.cfg` with encryption on. -/
theorem renderPhase_valid {portUnification : String} {A B : Tls → Prop}
    (henv : SelfRestarting env)
    (hversion : versionGe v.zookeeperVersion "3.5.5" = some true) (hAB : ∀ t, A t → B t)
    (hB : B ⟨true, isTrue portUnification⟩) :
    (rollingStage (tlsPlay inv v (dynamicConfigs inv (v.withTls portUnification) .zooCfg))
      v.versionDir (TlsIn A) (TlsIn B) (exactly true (isTrue portUnification))).Valid
      env := by
  have hbefore : ∀ files, TlsIn A files → TlsIn B files := fun files => hAB (tlsOf files)
  have hafter := exactly_tlsIn hB
  apply rollingStage_valid henv (by simp)
  · exact hbefore
  · exact hafter
  · intro h a ha
    cases List.mem_singleton.mp ha
    apply template_keeps
    intro disk c _ hc
    rw [TlsIn, tlsOf_update, render_withTls hversion hc]
    exact hB
  · intro h
    have hgives : (call (template v.versionDir .zooCfg
        (render inv (v.withTls portUnification) .zooCfg) (some "configStatus"))).Gives h
        (Node.Within v.versionDir (TlsIn A) (TlsIn B))
        (Node.Within v.versionDir (exactly true (isTrue portUnification)) (TlsIn B)) := by
      apply template_gives
      intro disk c _ hc
      rw [exactly, TlsIn, tlsOf_update, render_withTls hversion hc]
    apply Ensures.single (Node.Within.stable henv fun _ hc => hc) (Node.Within.stable henv hafter)
    exact hgives.consequence (fun _ hn => hn.weaken (fun _ hc => hc) hbefore) fun _ hn => hn

/-- Every play of the migration meets the obligations of the outline. -/
theorem mtlsOutline_valid (henv : SelfRestarting env)
    (hversion : versionGe v.zookeeperVersion "3.5.5" = some true) :
    ∀ st ∈ mtlsOutline inv v, st.Valid env := by
  have hsettled : ∀ S h, Stable env (AllNodes inv (Settled v S) h) :=
    fun _ _ => Stable.imp (Node.Runs.stable henv)
  intro st hst
  simp only [mtlsOutline, List.mem_cons, List.not_mem_nil, or_false] at hst
  rcases hst with rfl | rfl | rfl | rfl | rfl | rfl | rfl
  · apply Stage.steady_valid fun _ => Stable.imp (Node.Within.stable henv fun _ hc => hc)
    intro h _ a ha n x n' b hn hrun hh
    exact copyFiles_keeps a ha n x n' b (hn hh) hrun
  · exact basicPhase_valid henv
  · exact onLocalhost_valid (hsettled _)
  · exact renderPhase_valid henv hversion (fun _ ht => by rw [ht]) rfl
  · exact onLocalhost_valid (hsettled _)
  · exact renderPhase_valid henv hversion (fun _ ht => by rw [ht]) rfl
  · exact onLocalhost_valid (hsettled _)

/-- The assertions of the outline fit together. -/
theorem mtlsOutline_chained :
    Chained (AllNodes inv (Node.Within v.versionDir plain plain)) (mtlsOutline inv v) := by
  have hsame : ∀ (A : Host → ZkNode → Prop) h n, A h n → A h n := fun _ _ _ hn => hn
  refine ⟨hsame _, hsame _, hsame _, ?_, hsame _, ?_, hsame _, trivial⟩ <;>
    exact fun _ _ hn hh => (hn hh).1

/-- The migration keeps a set of files that its two ways to write {lit}`zoo.cfg` keep. -/
theorem mtls_keeps {S : (ConfFile → Option ConfigFile) → Prop}
    (hlines : ∀ h, ∀ a ∈ (sslQuorumBasicSettings v).items,
      a.Keeps h (Node.Within v.versionDir S S))
    (hrender : ∀ portUnification h,
      ∀ a ∈ (dynamicConfigs inv (v.withTls portUnification) .zooCfg).items,
      a.Keeps h (Node.Within v.versionDir S S)) :
    ∀ p ∈ clusterMigrateToMtls inv v, ∀ h ∈ p.hosts, ∀ a ∈ p.actions,
      a.Keeps h (AllNodes inv (Node.Within v.versionDir S S) h) := by
  have hrolling : ∀ (config : ZkTask) h,
      (∀ a ∈ config.items, a.Keeps h (Node.Within v.versionDir S S)) →
      ∀ a ∈ (tlsPlay inv v config).actions, a.Keeps h (Node.Within v.versionDir S S) := by
    intro config h hconfig
    exact rollingTasks_keeps (by simpa using hconfig) (restarted_keeps fun _ hc => hc)
  intro p hp h _ a ha
  simp only [clusterMigrateToMtls, List.mem_cons, List.not_mem_nil, or_false] at hp
  rcases hp with rfl | rfl | rfl | rfl | rfl | rfl | rfl
  · exact (copyFiles_keeps a ha).imp
  · exact (hrolling _ h (hlines h) a ha).imp
  · cases List.mem_singleton.mp ha
    exact noEffect_keeps
  · exact (hrolling _ h (hrender "true" h) a ha).imp
  · cases List.mem_singleton.mp ha
    exact noEffect_keeps
  · exact (hrolling _ h (hrender "false" h) a ha).imp
  · cases List.mem_singleton.mp ha
    exact noEffect_keeps

/-- For a version without quorum encryption the whole migration leaves it off. -/
theorem mtls_keeps_plain (hversion : versionGe v.zookeeperVersion "3.5.5" ≠ some true) :
    ∀ p ∈ clusterMigrateToMtls inv v, ∀ h ∈ p.hosts, ∀ a ∈ p.actions,
      a.Keeps h (AllNodes inv (Node.Within v.versionDir plain plain) h) := by
  apply mtls_keeps
  · intro h a ha
    exact basicSettings_keeps_plain a (by simpa using ha)
  · intro portUnification h a ha
    cases List.mem_singleton.mp ha
    apply template_keeps
    intro disk c _ hc
    rw [plain, TlsIn, tlsOf_update, zooCfg_tls hc, if_neg fun hon => hversion hon.2]

/-- Files in one set let running nodes reach each other. -/
def Compatible (S : (ConfFile → Option ConfigFile) → Prop) : Prop :=
  ∀ p q, S p → S q → (tlsOf p).reaches (tlsOf q) = true

/-- Encryption switched off on both sides is compatible. -/
theorem plain_compatible : Compatible plain := by
  intro p q hp hq
  simp [Tls.reaches, show (tlsOf p).sslQuorum = false from hp,
    show (tlsOf q).sslQuorum = false from hq]

/-- Unified ports accept everything. -/
theorem unified_compatible : Compatible unified := by
  intro p q _ hq
  simp [Tls.reaches, show (tlsOf q).portUnification = true from hq]

/-- Encryption switched on on both sides is compatible. -/
theorem encrypted_compatible : Compatible encrypted := by
  intro p q hp hq
  simp [Tls.reaches, show (tlsOf p).sslQuorum = true from hp,
    show (tlsOf q).sslQuorum = true from hq]

/-- In every play of the migration all files, on disk and running, are in one compatible set. -/
theorem mtlsOutline_compatible {st : Stage Host ZkNode Choice}
    (hst : st ∈ Stage.idle (AllNodes inv (Node.Within v.versionDir plain plain)) ::
      mtlsOutline inv v) :
    ∃ S, Compatible S ∧
      ∀ h ∈ inv.clusterNodes, ∀ n, st.inv h n → n.Within v.versionDir S S := by
  have hunified : ∀ b, ∀ files, exactly b true files → unified files :=
    fun _ => exactly_tlsIn rfl
  have hencrypted : ∀ files, exactly true false files → encrypted files := exactly_tlsIn rfl
  simp only [mtlsOutline, List.mem_cons, List.not_mem_nil, or_false] at hst
  rcases hst with rfl | rfl | rfl | rfl | rfl | rfl | rfl | rfl
  · exact ⟨plain, plain_compatible, fun _ hh _ hn => hn hh⟩
  · exact ⟨plain, plain_compatible, fun _ hh _ hn => hn hh⟩
  · exact ⟨plain, plain_compatible, fun _ hh _ hn => hn hh⟩
  · exact ⟨unified, unified_compatible,
      fun _ hh _ hn => (hn hh).1.weaken (hunified _) (hunified _)⟩
  · exact ⟨unified, unified_compatible, fun _ hh _ hn => hn hh⟩
  · exact ⟨unified, unified_compatible,
      fun _ hh _ hn => (hn hh).1.weaken (hunified _) (hunified _)⟩
  · exact ⟨encrypted, encrypted_compatible, fun _ hh _ hn => hn hh⟩
  · exact ⟨encrypted, encrypted_compatible,
      fun _ hh _ hn => (hn hh).1.weaken hencrypted hencrypted⟩

/-- What holds after a play of the migration also holds during it. -/
theorem mtlsOutline_post_inv {st : Stage Host ZkNode Choice}
    (hst : st ∈ Stage.idle (AllNodes inv (Node.Within v.versionDir plain plain)) ::
      mtlsOutline inv v) (h : Host) (n : ZkNode) (hpost : st.post h n) : st.inv h n := by
  simp only [mtlsOutline, List.mem_cons, List.not_mem_nil, or_false] at hst
  rcases hst with rfl | rfl | rfl | rfl | rfl | rfl | rfl | rfl
  · exact hpost
  · exact hpost
  · exact fun hh => (hpost hh).1.weaken (exactly_tlsIn rfl) (exactly_tlsIn rfl)
  · exact hpost
  · exact fun hh => (hpost hh).1.weaken (exactly_tlsIn rfl) (exactly_tlsIn rfl)
  · exact hpost
  · exact fun hh => (hpost hh).1.weaken (exactly_tlsIn rfl) (exactly_tlsIn rfl)
  · exact hpost

/-- Every moment of a migration of plain nodes lies in the outline. -/
theorem mtls_along (henv : SelfRestarting env)
    (hversion : versionGe v.zookeeperVersion "3.5.5" = some true) {nodes : Host → ZkNode}
    (hplain : ∀ h ∈ inv.clusterNodes, (nodes h).Within v.versionDir plain plain)
    {es : List (Event Host Choice ε)} {s : State Host ZkNode Choice}
    (hrun : run env (start (clusterMigrateToMtls inv v) nodes) es = some s) :
    Along env (Stage.idle (AllNodes inv (Node.Within v.versionDir plain plain)) ::
      mtlsOutline inv v) s :=
  outline_sound (fun _ => Stable.imp (Node.Within.stable henv fun _ hc => hc))
    (mtlsOutline_valid henv hversion) mtlsOutline_chained hplain hrun

/-- Along the outline all nodes are within one compatible set, unless a host was dropped. -/
theorem compatible_of_along (henv : SelfRestarting env)
    (hversion : versionGe v.zookeeperVersion "3.5.5" = some true)
    {s : State Host ZkNode Choice}
    (halong : Along env (Stage.idle (AllNodes inv (Node.Within v.versionDir plain plain)) ::
      mtlsOutline inv v) s) (hlost : s.lost = []) :
    ∃ S, Compatible S ∧ ∀ h ∈ inv.clusterNodes, (s.nodes h).Within v.versionDir S S := by
  have hvalid : ∀ st ∈ Stage.idle (AllNodes inv (Node.Within v.versionDir plain plain)) ::
      mtlsOutline inv v, st.Valid env := by
    intro st hst
    rcases List.mem_cons.mp hst with rfl | hst
    · exact Stage.idle_valid fun _ => Stable.imp (Node.Within.stable henv fun _ hc => hc)
    · exact mtlsOutline_valid henv hversion st hst
  rcases halong.exists_stage hvalid (fun _ => mtlsOutline_post_inv) hlost with
    ⟨st, hst, hinv⟩
  rcases mtlsOutline_compatible hst with ⟨S, hS, hwithin⟩
  exact ⟨S, hS, fun h hh => hwithin h hh _ (hinv h)⟩

/-- Processes in one compatible set are linked. -/
theorem Compatible.linked {S : (ConfFile → Option ConfigFile) → Prop} (hS : Compatible S)
    {m n : ZkNode} (hm : ∀ p, m.process = some p → S p) (hn : ∀ q, n.process = some q → S q) :
    TlsLinked m n := by
  intro p q hp hq
  exact ⟨hS p q (hm p hp) (hn q hq), hS q p (hn q hq) (hm p hp)⟩

end Outline

/-! ## The migration -/

/--
As long as every host has passed the upload, all running nodes reach each other
at every moment of the migration, also when nodes come back by themselves.  After
a run without failures every node runs with encryption only.
-/
theorem mtls_migration_connected (inv : Inventory) (v : Vars)
    (hversion : versionGe v.zookeeperVersion "3.5.5" = some true) {nodes : Host → ZkNode}
    (hplain : ∀ h ∈ inv.clusterNodes, (nodes h).Within v.versionDir plain plain)
    {es : List (Event Host Choice (List String))} {s : State Host ZkNode Choice}
    (hrun : run Node.selfRestart (start (clusterMigrateToMtls inv v) nodes) es = some s)
    (hupload : s.lost = []) :
    (∀ h ∈ inv.clusterNodes, ∀ k ∈ inv.clusterNodes,
      TlsLinked (s.nodes h) (s.nodes k)) ∧
    (s.succeeded = true → ∀ h ∈ inv.clusterNodes,
      ∃ p, (s.nodes h).process = some p ∧ tlsOf p = ⟨true, false⟩) := by
  have halong := mtls_along selfRestarting hversion hplain hrun
  constructor
  · rcases compatible_of_along selfRestarting hversion halong hupload with ⟨S, hS, hwithin⟩
    intro h hh k hk
    exact hS.linked (hwithin h hh).process (hwithin k hk).process
  · intro hsucc h hh
    have hlast := outline_succeeded
      (fun _ => Stable.imp (Node.Within.stable selfRestarting fun _ hc => hc))
      (mtlsOutline_valid selfRestarting hversion) halong hsucc h
    exact (hlast hh).2

/-- A configured node without encryption is plain. -/
theorem configuredNode_plain (inv : Inventory) (v : Vars) (hoff : v.zookeeperSslQuorum = false)
    (h : Host) : (configuredNode inv v h).Within v.versionDir plain plain := by
  have htls : plain fun f => render inv v f h := by
    change (tls ((zooCfg inv v).getD [])).sslQuorum = false
    cases hf : zooCfg inv v with
    | none => rfl
    | some f => simp [zooCfg_tls hf, hoff]
  refine ⟨rfl, ?_, ?_⟩
  · rw [configuredNode_disk]
    exact htls
  · intro p hp
    cases hp
    exact htls

/-- The migration of the development cluster, with nothing going wrong. -/
def finishedMigration : State Host ZkNode Choice :=
  drive (fun _ _ => Choice.good ["2181"]) 200
    (start (clusterMigrateToMtls developmentInventory developmentVars)
      (configuredNode developmentInventory developmentVars))

/-- It leaves every node with encryption only. -/
theorem mtls_migration_connected_development :
    finishedMigration.succeeded = true ∧
      ∀ h ∈ developmentInventory.clusterNodes,
        ∃ p, (finishedMigration.nodes h).process = some p ∧ tlsOf p = ⟨true, false⟩ := by
  have hsucc : finishedMigration.succeeded = true := by decide +kernel
  refine ⟨hsucc, ?_⟩
  exact (mtls_migration_connected developmentInventory developmentVars (by decide)
    (fun h _ => configuredNode_plain developmentInventory developmentVars rfl h)
    (run_follow Node.selfRestart (fun _ _ => Choice.good ["2181"]) 200 _)
    (by decide +kernel)).2 hsucc

end ZooKeeper
end ClusterPlaybooks
