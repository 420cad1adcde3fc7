import ClusterPlaybooks.ZooKeeper.QuorumSasl
import ClusterPlaybooks.ZooKeeper.QuorumTls

/-!
# The two security migrations together

The migrations to mutual TLS and to SASL both edit single lines of {lit}`zoo.cfg` and
both render the whole file again.  A line edit leaves the settings of the other migration
alone, because its regular expression finds none of their lines.  A rendered file has
these settings because the group variables were set when the other migration finished.

Main results:

- Theorem {lit}`mtls_keeps_sasl`: every call of the migration to mutual TLS keeps the
  settings of SASL.
- Theorem {lit}`sasl_keeps_mtls`: every call of the migration to SASL keeps the settings
  of mutual TLS.
- Theorem {lit}`migrations_keep_each_other`: neither migration undoes the other one, at
  any moment of any run.
-/

namespace ClusterPlaybooks
namespace ZooKeeper

open Ansible
open Service
open Text

variable {inv : Inventory} {v : Vars} {h : Host}

/-! ## The settings of a finished migration -/

/-- The value {lit}`java.env` gives to the JVM flags when it names the JAAS file. -/
def jaasFlags (installDir : String) : String :=
  "\"$JVMFLAGS -Djava.security.auth.login.config=" ++ installDir ++ "/zookeeper/conf/jaas.conf\""

/-- The {lit}`java.env` of a set of files names the JAAS file. -/
def NamesJaas (installDir : String) (files : ConfFile → Option ConfigFile) : Prop :=
  lookup "export JVMFLAGS" ((files .javaEnv).getD []) = some (jaasFlags installDir)

/-- The settings of the finished migration to SASL. -/
def SaslDone (installDir : String) (files : ConfFile → Option ConfigFile) : Prop :=
  saslOf files = ⟨true, true, true⟩ ∧ NamesJaas installDir files

/-- The settings of the finished migration to mutual TLS. -/
def MtlsDone (files : ConfFile → Option ConfigFile) : Prop :=
  exactly true false files

/-- Writing another file leaves {lit}`java.env` alone. -/
theorem NamesJaas.update {installDir : String} {files : ConfFile → Option ConfigFile}
    {file : ConfFile} (hne : file ≠ .javaEnv) (hfiles : NamesJaas installDir files)
    (c : ConfigFile) : NamesJaas installDir (Function.update files file (some c)) := by
  rw [NamesJaas, Function.update_of_ne hne.symm]
  exact hfiles

/-- A {lit}`java.env` rendered with authentication on names the JAAS file. -/
theorem javaEnv_namesJaas (hon : v.zookeeperQuorumAuthEnableSasl = true)
    (files : ConfFile → Option ConfigFile) :
    NamesJaas v.zookeeperInstallDir (Function.update files .javaEnv (some (javaEnv v))) := by
  have hlast : ∀ value, lookup "export JVMFLAGS"
      [.text "# sasl + Digest-MD5 mutual auth", .entry "export JVMFLAGS" value] = some value := by
    intro value
    simp [Line.valueOf]
  rw [NamesJaas, Function.update_self, Option.getD_some, javaEnv, if_pos hon, lookup_append, hlast]
  rfl

/-! ## What the migration to mutual TLS keeps -/

/-- A line for another key changes none of the authentication settings. -/
theorem sasl_lineinfile_other {re key : String} (value : String) (f : ConfigFile)
    (hother : ∀ setting ∈ ["quorum.auth.enableSasl", "quorum.auth.learnerRequireSasl",
      "quorum.auth.serverRequireSasl"],
      setting ≠ key ∧ ∀ x, (Line.entry setting x).found re = false) :
    sasl (lineinfile re (.entry key value) f) = sasl f := by
  have hsame : ∀ setting ∈ ["quorum.auth.enableSasl", "quorum.auth.learnerRequireSasl",
      "quorum.auth.serverRequireSasl"],
      flag setting (lineinfile re (.entry key value) f) = flag setting f := by
    intro setting hsetting
    rcases hother setting hsetting with ⟨hne, hfound⟩
    rw [flag, lookup_lineinfile_of_not_found re key setting value f hne hfound, flag]
  rw [sasl, hsame "quorum.auth.enableSasl" (by simp),
    hsame "quorum.auth.learnerRequireSasl" (by simp),
    hsame "quorum.auth.serverRequireSasl" (by simp), sasl]

/-- The basic encryption settings leave authentication alone. -/
theorem basicSettings_keeps_sasl {installDir : String} :
    ∀ a ∈ (sslQuorumBasicSettings v).items, a.Keeps h
      (Node.Within v.versionDir (SaslDone installDir) (SaslDone installDir)) := by
  have hline : ∀ re key value,
      (∀ setting ∈ ["quorum.auth.enableSasl", "quorum.auth.learnerRequireSasl",
        "quorum.auth.serverRequireSasl"],
        setting ≠ key ∧ ∀ x, (Line.entry setting x).found re = false) →
      (zooCfgLine v re key value).Keeps h
        (Node.Within v.versionDir (SaslDone installDir) (SaslDone installDir)) := by
    intro re key value hother
    apply editFile_keeps
    intro disk c hdisk hc
    refine ⟨?_, hdisk.2.update (by decide) _⟩
    rw [saslOf_update_zooCfg, sasl_lineinfile_other value c hother, ← saslOf_eq hc]
    exact hdisk.1
  intro a ha
  simp only [sslQuorumBasicSettings, List.mem_cons, List.not_mem_nil, or_false] at ha
  rcases ha with rfl | rfl | rfl | rfl | rfl | rfl | rfl <;>
    · apply hline
      intro setting hsetting
      simp only [List.mem_cons, List.not_mem_nil, or_false] at hsetting
      rcases hsetting with rfl | rfl | rfl <;> exact ⟨by decide, fun _ => rfl⟩

/-- So does a {lit}`zoo.cfg` rendered from variables with authentication on. -/
theorem tlsTemplate_keeps_sasl {installDir portUnification : String}
    (hon : v.zookeeperQuorumAuthEnableSasl = true) :
    ∀ a ∈ (dynamicConfigs inv (v.withTls portUnification) .zooCfg).items, a.Keeps h
      (Node.Within v.versionDir (SaslDone installDir) (SaslDone installDir)) := by
  intro a ha
  cases List.mem_singleton.mp ha
  apply template_keeps
  intro disk c hdisk hc
  refine ⟨?_, hdisk.2.update (by decide) c⟩
  have hsame : (v.withTls portUnification).zookeeperQuorumAuthEnableSasl = true := hon
  rw [saslOf_update_zooCfg, zooCfg_sasl hc, hsame]

/-- Every call of the migration to mutual TLS keeps the settings of SASL. -/
theorem mtls_keeps_sasl {installDir : String} (hon : v.zookeeperQuorumAuthEnableSasl = true) :
    ∀ p ∈ clusterMigrateToMtls inv v, ∀ h ∈ p.hosts, ∀ a ∈ p.actions, a.Keeps h
      (AllNodes inv (Node.Within v.versionDir (SaslDone installDir) (SaslDone installDir)) h) :=
  mtls_keeps (fun _ => basicSettings_keeps_sasl) fun _ _ => tlsTemplate_keeps_sasl hon

/-! ## What the migration to SASL keeps -/

/-- Writing another file leaves the encryption settings alone. -/
theorem tlsOf_update_of_ne {file : ConfFile} (hne : file ≠ .zooCfg)
    (files : ConfFile → Option ConfigFile) (c : ConfigFile) :
    tlsOf (Function.update files file (some c)) = tlsOf files := by
  simp [tlsOf, hne.symm]

/-- Writing another file keeps the settings of mutual TLS. -/
theorem otherTemplate_keeps_mtls {w : Vars} {file : ConfFile} (hne : file ≠ .zooCfg)
    (hdir : w.versionDir = v.versionDir) :
    ∀ a ∈ (dynamicConfigs inv w file).items, a.Keeps h
      (Node.Within v.versionDir MtlsDone MtlsDone) := by
  intro a ha
  cases List.mem_singleton.mp ha
  rw [hdir]
  apply template_keeps
  intro disk c hdisk _
  rw [MtlsDone, exactly, TlsIn, tlsOf_update_of_ne hne]
  exact hdisk

/-- Switching an authentication setting on leaves encryption alone. -/
theorem quorumAuthLine_keeps_mtls {setting : String}
    (hsetting : setting = "enableSasl" ∨ setting = "learnerRequireSasl") :
    ∀ a ∈ (quorumAuthLine v setting).items, a.Keeps h
      (Node.Within v.versionDir MtlsDone MtlsDone) := by
  intro a ha
  cases List.mem_singleton.mp ha
  change (zooCfgLine v _ _ "true").Keeps h
    (Node.Within v.versionDir (TlsIn fun t => t = ⟨true, false⟩) MtlsDone)
  apply zooCfgLine_keeps
  intro f hf
  rw [tls_lineinfile_other]
  · exact hf
  · rcases hsetting with rfl | rfl <;> exact ⟨by decide, fun _ => rfl⟩
  · rcases hsetting with rfl | rfl <;> exact ⟨by decide, fun _ => rfl⟩

/-- A {lit}`zoo.cfg` rendered from variables with encryption on insists on it. -/
theorem saslTemplate_keeps_mtls (hversion : versionGe v.zookeeperVersion "3.5.5" = some true)
    (hssl : v.zookeeperSslQuorum = true) (hport : v.zookeeperPortUnification = some "false") :
    ∀ a ∈ (dynamicConfigs inv v.withSasl .zooCfg).items, a.Keeps h
      (Node.Within v.versionDir MtlsDone MtlsDone) := by
  intro a ha
  cases List.mem_singleton.mp ha
  apply template_keeps
  intro disk c _ hc
  have hon : v.withSasl.zookeeperSslQuorum = true ∧
      versionGe v.withSasl.zookeeperVersion "3.5.5" = some true := ⟨hssl, hversion⟩
  have hunify : v.withSasl.zookeeperPortUnification = some "false" := hport
  rw [MtlsDone, exactly, TlsIn, tlsOf_update, zooCfg_tls hc, if_pos hon, hunify]
  decide

/-- Every call of the migration to SASL keeps the settings of mutual TLS. -/
theorem sasl_keeps_mtls (hversion : versionGe v.zookeeperVersion "3.5.5" = some true)
    (hssl : v.zookeeperSslQuorum = true) (hport : v.zookeeperPortUnification = some "false") :
    ∀ p ∈ clusterMigrateToSasLAuth inv v, ∀ h ∈ p.hosts, ∀ a ∈ p.actions, a.Keeps h
      (AllNodes inv (Node.Within v.versionDir MtlsDone MtlsDone) h) := by
  have hrolling : ∀ j h, (∀ t ∈ saslConfig inv v j, ∀ a ∈ t.items, a.Keeps h
      (Node.Within v.versionDir MtlsDone MtlsDone)) →
      ∀ a ∈ (saslPlay inv v j).actions, a.Keeps h
        (Node.Within v.versionDir MtlsDone MtlsDone) := by
    intro j h hconfig
    refine rollingTasks_keeps ?_ (restarted_keeps fun _ hc => hc)
    intro a ha
    rcases List.mem_flatMap.mp ha with ⟨t, ht, hat⟩
    exact hconfig t ht a hat
  intro p hp h _ a ha
  simp only [clusterMigrateToSasLAuth, List.mem_cons, List.not_mem_nil, or_false] at hp
  rcases hp with rfl | rfl | rfl
  · refine (hrolling 0 h ?_ a ha).imp
    simp only [saslConfig, List.mem_cons, List.not_mem_nil, or_false, forall_eq_or_imp, forall_eq]
    exact ⟨otherTemplate_keeps_mtls (by decide) rfl, otherTemplate_keeps_mtls (by decide) rfl,
      quorumAuthLine_keeps_mtls (Or.inl rfl)⟩
  · refine (hrolling 1 h ?_ a ha).imp
    simp only [saslConfig, List.mem_cons, List.not_mem_nil, or_false, forall_eq]
    exact quorumAuthLine_keeps_mtls (Or.inr rfl)
  · refine (hrolling 2 h ?_ a ha).imp
    simp only [saslConfig, List.mem_cons, List.not_mem_nil, or_false, forall_eq]
    exact saslTemplate_keeps_mtls hversion hssl hport

/-! ## What a finished migration leaves behind -/

/-- Any files at all. -/
def anyFiles : (ConfFile → Option ConfigFile) → Prop :=
  fun _ => True

/-- A node whose link leads to the version is within the trivial bounds. -/
theorem within_any {d : String} {n : ZkNode} (hlive : n.live = some d) :
    n.Within d anyFiles anyFiles :=
  ⟨hlive, trivial, fun _ _ => trivial⟩

/-- The outline of a migration to SASL from any state of the files. -/
def saslDoneOutline (inv : Inventory) (v : Vars) : List (Stage Host ZkNode Choice) :=
  [rollingStage (saslPlay inv v 0) v.versionDir anyFiles anyFiles
      (NamesJaas v.zookeeperInstallDir),
    rollingStage (saslPlay inv v 1) v.versionDir (NamesJaas v.zookeeperInstallDir)
      (NamesJaas v.zookeeperInstallDir) (NamesJaas v.zookeeperInstallDir),
    rollingStage (saslPlay inv v 2) v.versionDir (NamesJaas v.zookeeperInstallDir)
      (NamesJaas v.zookeeperInstallDir) (SaslDone v.zookeeperInstallDir)]

section Finished

variable {ε : Type} {env : ε → ZkNode → ZkNode}

/-- A line edit of {lit}`zoo.cfg` leaves {lit}`java.env` alone. -/
theorem zooCfgLine_keeps_namesJaas {re key value installDir : String}
    {R : (ConfFile → Option ConfigFile) → Prop} :
    (zooCfgLine v re key value).Keeps h (Node.Within v.versionDir (NamesJaas installDir) R) := by
  apply editFile_keeps
  intro disk c hdisk _
  exact hdisk.update (by decide) _

/-- The first play makes {lit}`java.env` name the JAAS file. -/
theorem saslStage_jaas (henv : SelfRestarting env) :
    (rollingStage (saslPlay inv v 0) v.versionDir anyFiles anyFiles
      (NamesJaas v.zookeeperInstallDir)).Valid env := by
  have hany : Stable env (Node.Within v.versionDir anyFiles anyFiles) :=
    Node.Within.stable henv fun _ hc => hc
  have hjaas : Stable env (Node.Within v.versionDir (NamesJaas v.zookeeperInstallDir) anyFiles) :=
    Node.Within.stable henv fun _ _ => trivial
  apply rollingStage_valid henv (by simp)
  · exact fun _ hc => hc
  · exact fun _ _ => trivial
  · intro h a ha
    simp only [saslConfig, dynamicConfigs, quorumAuthLine_items, List.flatMap_cons,
      List.flatMap_nil, List.append_nil, List.cons_append, List.nil_append, List.mem_cons,
      List.not_mem_nil, or_false] at ha
    rcases ha with rfl | rfl | rfl
    · exact template_keeps fun _ _ _ _ => trivial
    · exact template_keeps fun _ _ _ _ => trivial
    · exact editFile_keeps fun _ _ _ _ => trivial
  · intro h
    refine Ensures.cons hany hany (template_keeps fun _ _ _ _ => trivial).gives ?_
    refine Ensures.cons hany hjaas ?_ (Ensures.single hjaas hjaas zooCfgLine_keeps_namesJaas.gives)
    apply template_gives
    intro disk c _ hc
    cases hc
    exact javaEnv_namesJaas (v := v.withSasl) rfl disk

/-- Every play of the migration to SASL meets its obligations. -/
theorem saslDoneOutline_valid (henv : SelfRestarting env) :
    ∀ st ∈ saslDoneOutline inv v, st.Valid env := by
  have hjaas : Stable env (Node.Within v.versionDir (NamesJaas v.zookeeperInstallDir)
      (NamesJaas v.zookeeperInstallDir)) := Node.Within.stable henv fun _ hc => hc
  have hdone : Stable env (Node.Within v.versionDir (SaslDone v.zookeeperInstallDir)
      (NamesJaas v.zookeeperInstallDir)) := Node.Within.stable henv fun _ hc => hc.2
  intro st hst
  simp only [saslDoneOutline, List.mem_cons, List.not_mem_nil, or_false] at hst
  rcases hst with rfl | rfl | rfl
  · exact saslStage_jaas henv
  · apply rollingStage_valid henv (by simp)
    · exact fun _ hc => hc
    · exact fun _ hc => hc
    · intro h a ha
      cases List.mem_singleton.mp ha
      exact zooCfgLine_keeps_namesJaas
    · intro h
      exact Ensures.single hjaas hjaas zooCfgLine_keeps_namesJaas.gives
  · apply rollingStage_valid henv (by simp)
    · exact fun _ hc => hc
    · exact fun _ hc => hc.2
    · intro h a ha
      cases List.mem_singleton.mp ha
      apply template_keeps
      intro disk c hdisk _
      exact hdisk.update (by decide) c
    · intro h
      refine Ensures.single hjaas hdone ?_
      apply template_gives
      intro disk c hdisk hc
      refine ⟨?_, hdisk.update (by decide) c⟩
      rw [saslOf_update_zooCfg, zooCfg_sasl hc]
      rfl

/-- After a finished migration to SASL its settings are on every disk and in every process. -/
theorem sasl_finished (henv : SelfRestarting env) {nodes : Host → ZkNode}
    (hlive : ∀ h ∈ inv.clusterNodes, (nodes h).live = some v.versionDir)
    {es : List (Event Host Choice ε)} {s : State Host ZkNode Choice}
    (hrun : run env (launch Node.forget (clusterMigrateToSasLAuth inv v) nodes) es = some s)
    (hsucc : s.succeeded = true) (hh : h ∈ inv.clusterNodes) :
    (s.nodes h).Within v.versionDir (SaslDone v.zookeeperInstallDir)
      (SaslDone v.zookeeperInstallDir) := by
  have hstable : ∀ h, Stable env (AllNodes inv (Node.Within v.versionDir anyFiles anyFiles) h) :=
    fun _ => Stable.imp (Node.Within.stable henv fun _ hc => hc)
  have hchain : Chained (AllNodes inv (Node.Within v.versionDir anyFiles anyFiles))
      (saslDoneOutline inv v) :=
    ⟨fun _ _ hn => hn, fun _ _ hn hh => (hn hh).1, fun _ _ hn hh => (hn hh).1, trivial⟩
  have hnodes : ∀ h, AllNodes inv (Node.Within v.versionDir anyFiles anyFiles) h
      (nodes h).forget := fun h hh => within_any (hlive h hh)
  have halong := outline_sound hstable (saslDoneOutline_valid henv) hchain hnodes hrun
  exact (outline_succeeded hstable (saslDoneOutline_valid henv) halong hsucc h hh).1

/-- The outline of a migration to mutual TLS from any state of the files. -/
def mtlsDoneOutline (inv : Inventory) (v : Vars) : List (Stage Host ZkNode Choice) :=
  ((clusterMigrateToMtls inv v).take 5).map (fun p =>
    Stage.steady p (AllNodes inv (Node.Within v.versionDir anyFiles anyFiles))) ++
  [rollingStage (tlsPlay inv v (dynamicConfigs inv (v.withTls "false") .zooCfg)) v.versionDir
      (TlsIn fun _ => True) (TlsIn fun _ => True) MtlsDone,
    Stage.steady (inv.onLocalhost workingPrompt) (AllNodes inv (Settled v MtlsDone))]

/-- All calls of the migration leave the link alone. -/
theorem mtls_keeps_any :
    ∀ p ∈ clusterMigrateToMtls inv v, ∀ h ∈ p.hosts, ∀ a ∈ p.actions,
      a.Keeps h (AllNodes inv (Node.Within v.versionDir anyFiles anyFiles) h) := by
  apply mtls_keeps
  · intro h a ha
    simp only [sslQuorumBasicSettings, List.mem_cons, List.not_mem_nil, or_false] at ha
    rcases ha with rfl | rfl | rfl | rfl | rfl | rfl | rfl <;>
      exact editFile_keeps fun _ _ _ _ => trivial
  · intro portUnification h a ha
    cases List.mem_singleton.mp ha
    exact template_keeps fun _ _ _ _ => trivial

/-- Every play of the migration to mutual TLS meets its obligations. -/
theorem mtlsDoneOutline_valid (henv : SelfRestarting env)
    (hversion : versionGe v.zookeeperVersion "3.5.5" = some true) :
    ∀ st ∈ mtlsDoneOutline inv v, st.Valid env := by
  intro st hst
  rcases List.mem_append.mp hst with hst | hst
  · rcases List.mem_map.mp hst with ⟨p, hp, rfl⟩
    exact Stage.steady_valid (fun _ => Stable.imp (Node.Within.stable henv fun _ hc => hc))
      (mtls_keeps_any p (List.mem_of_mem_take hp))
  · rcases List.mem_pair.mp hst with rfl | rfl
    · exact renderPhase_valid henv hversion (fun _ ht => ht) trivial
    · exact onLocalhost_valid fun _ => Stable.imp (Node.Runs.stable henv)

/-- After a finished migration to mutual TLS its settings are on every disk and in every process. -/
theorem mtls_finished (henv : SelfRestarting env)
    (hversion : versionGe v.zookeeperVersion "3.5.5" = some true) {nodes : Host → ZkNode}
    (hlive : ∀ h ∈ inv.clusterNodes, (nodes h).live = some v.versionDir)
    {es : List (Event Host Choice ε)} {s : State Host ZkNode Choice}
    (hrun : run env (launch Node.forget (clusterMigrateToMtls inv v) nodes) es = some s)
    (hsucc : s.succeeded = true) (hh : h ∈ inv.clusterNodes) :
    (s.nodes h).Within v.versionDir MtlsDone MtlsDone := by
  have hstable : ∀ h, Stable env (AllNodes inv (Node.Within v.versionDir anyFiles anyFiles) h) :=
    fun _ => Stable.imp (Node.Within.stable henv fun _ hc => hc)
  have hsame : ∀ (A : Host → ZkNode → Prop) h n, A h n → A h n := fun _ _ _ hn => hn
  have hchain : Chained (AllNodes inv (Node.Within v.versionDir anyFiles anyFiles))
      (mtlsDoneOutline inv v) :=
    ⟨hsame _, hsame _, hsame _, hsame _, hsame _, hsame _, hsame _, trivial⟩
  have hnodes : ∀ h, AllNodes inv (Node.Within v.versionDir anyFiles anyFiles) h
      (nodes h).forget := fun h hh => within_any (hlive h hh)
  have halong := outline_sound hstable (mtlsDoneOutline_valid henv hversion) hchain hnodes hrun
  exact (outline_succeeded hstable (mtlsDoneOutline_valid henv hversion) halong hsucc h hh).1

end Finished

/-! ## One migration after the other -/

/-- The settings hold on the disk of every node and in whatever it runs. -/
def EveryNode (inv : Inventory) (S : (ConfFile → Option ConfigFile) → Prop)
    (s : State Host ZkNode Choice) : Prop :=
  ∀ h ∈ inv.clusterNodes, S (s.nodes h).disk ∧ ∀ p, (s.nodes h).process = some p → S p

/--
One of the migrations has finished and the group variables were set accordingly.  Then
every node keeps its settings at every moment of every run of the other migration.
-/
theorem migrations_keep_each_other (inv : Inventory) (v₀ v : Vars)
    (hversion : versionGe v.zookeeperVersion "3.5.5" = some true)
    (hsame : v₀.zookeeperInstallDir = v.zookeeperInstallDir ∧
      v₀.zookeeperVersion = v.zookeeperVersion)
    {nodes : Host → ZkNode}
    (hlive : ∀ h ∈ inv.clusterNodes, (nodes h).live = some v.versionDir)
    {es₀ es : List (Event Host Choice (List String))} {s₀ s : State Host ZkNode Choice}
    (hfinished : s₀.succeeded = true) :
    (run Node.selfRestart (launch Node.forget (clusterMigrateToSasLAuth inv v₀) nodes) es₀ =
        some s₀ →
      v.zookeeperQuorumAuthEnableSasl = true →
      run Node.selfRestart (launch Node.forget (clusterMigrateToMtls inv v) s₀.nodes) es =
        some s →
      EveryNode inv (SaslDone v.zookeeperInstallDir) s) ∧
    (run Node.selfRestart (launch Node.forget (clusterMigrateToMtls inv v₀) nodes) es₀ =
        some s₀ →
      v.zookeeperSslQuorum = true → v.zookeeperPortUnification = some "false" →
      run Node.selfRestart (launch Node.forget (clusterMigrateToSasLAuth inv v) s₀.nodes) es =
        some s →
      EveryNode inv MtlsDone s) := by
  have hdir : v₀.versionDir = v.versionDir := by
    rw [Vars.versionDir, Vars.versionDir, hsame.1, hsame.2]
  have hlive₀ : ∀ h ∈ inv.clusterNodes, (nodes h).live = some v₀.versionDir := hdir ▸ hlive
  have hstable : ∀ S h, Stable Node.selfRestart (AllNodes inv (Node.Within v.versionDir S S) h) :=
    fun _ _ => Stable.imp (Node.Within.stable selfRestarting fun _ hc => hc)
  constructor
  · intro hfirst hon hrun h hh
    have hdone : ∀ k, AllNodes inv (Node.Within v.versionDir (SaslDone v.zookeeperInstallDir)
        (SaslDone v.zookeeperInstallDir)) k (s₀.nodes k).forget := by
      intro k hk
      have hk' := (sasl_finished selfRestarting hlive₀ hfirst hfinished hk).forget
      rw [hdir, hsame.1] at hk'
      exact hk'
    have hwithin := run_keeps (hstable _) (mtls_keeps_sasl hon) hdone hrun h hh
    exact ⟨hwithin.disk, hwithin.process⟩
  · intro hfirst hssl hport hrun h hh
    have hversion₀ : versionGe v₀.zookeeperVersion "3.5.5" = some true := by
      rw [hsame.2]
      exact hversion
    have hdone : ∀ k, AllNodes inv (Node.Within v.versionDir MtlsDone MtlsDone) k
        (s₀.nodes k).forget := by
      intro k hk
      have hk' := (mtls_finished selfRestarting hversion₀ hlive₀ hfirst hfinished hk).forget
      rw [hdir] at hk'
      exact hk'
    have hwithin := run_keeps (hstable _) (sasl_keeps_mtls hversion hssl hport) hdone hrun h hh
    exact ⟨hwithin.disk, hwithin.process⟩

/-- The variables of the development cluster after both migrations. -/
def bothVars : Vars :=
  { developmentVars with
    zookeeperQuorumAuthEnableSasl := true
    zookeeperSslQuorum := true
    zookeeperPortUnification := some "false" }

/-- A migration of the development cluster, stopped after some events. -/
def stoppedMigration (plays : List ZkPlay) (count : Nat) (nodes : Host → ZkNode) :
    State Host ZkNode Choice :=
  drive (fun _ _ => Choice.good ["2181"]) count (launch Node.forget plays nodes)

/-- Each migration finished, then a run of the other one was stopped half way. -/
theorem migrations_keep_each_other_development :
    EveryNode developmentInventory (SaslDone "/zookeeper")
      (stoppedMigration (clusterMigrateToMtls developmentInventory bothVars) 60
        (stoppedMigration (clusterMigrateToSasLAuth developmentInventory bothVars) 200
          (configuredNode developmentInventory developmentVars)).nodes) ∧
    EveryNode developmentInventory MtlsDone
      (stoppedMigration (clusterMigrateToSasLAuth developmentInventory bothVars) 40
        (stoppedMigration (clusterMigrateToMtls developmentInventory bothVars) 200
          (configuredNode developmentInventory developmentVars)).nodes) := by
  have hlive : ∀ h ∈ developmentInventory.clusterNodes,
      (configuredNode developmentInventory developmentVars h).live = some bothVars.versionDir :=
    fun _ _ => rfl
  constructor
  · exact (migrations_keep_each_other developmentInventory bothVars bothVars (by decide)
      ⟨rfl, rfl⟩ hlive (by decide +kernel)).1 (run_follow _ _ 200 _) rfl (run_follow _ _ 60 _)
  · exact (migrations_keep_each_other developmentInventory bothVars bothVars (by decide)
      ⟨rfl, rfl⟩ hlive (by decide +kernel)).2 (run_follow _ _ 200 _) rfl rfl (run_follow _ _ 40 _)

end ZooKeeper
end ClusterPlaybooks
