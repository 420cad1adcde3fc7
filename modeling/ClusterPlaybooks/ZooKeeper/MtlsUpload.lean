import ClusterPlaybooks.Ansible.Completion
import ClusterPlaybooks.ZooKeeper.QuorumTls

/-!
# A failed upload before the migration to mutual TLS

The upload play of the migration is not serial.  A host that fails in it is
dropped, and the rolling plays go on with the others.  The dropped host keeps
running without encryption, so it is cut off as soon as another node comes up
from a restart in the second rolling play.  Versions below 3.5.5 are given no
encryption by the templates.

Main results:

- Theorem {lit}`mtls_upload_logged`: a process that was not restarted is the old
  one, and a dropped host was never restarted.
- Theorem {lit}`late_call`: in the last two rolling plays a restart finds
  encryption on.
- Theorem {lit}`mtls_dropped_host_connected_iff`: after a host was dropped, the
  nodes reach each other all the time exactly if the version has no encryption
  or no node has come up in the last two rolling plays.
- Theorem {lit}`mtls_dropped_host_disconnected`: a run of the development cluster
  that cuts a dropped host off.
-/

namespace ClusterPlaybooks
namespace ZooKeeper

open Ansible
open Service
open Text

/-! ## The calls of the migration -/

/-- An effect that leaves the process and the log alone. -/
def LeavesProcess (effect : Effect Host ConfFile ConfigFile) : Prop :=
  ∀ h n x n', effect h n x = some n' → n'.process = n.process ∧ n'.starts = n.starts

theorem noEffect_leavesProcess : LeavesProcess noEffect := by
  intro h n x n' heff
  cases heff
  exact ⟨rfl, rfl⟩

theorem copy_leavesProcess (path : String) : LeavesProcess (copy path) := by
  intro h n x n' heff
  cases heff
  exact ⟨rfl, rfl⟩

theorem waitFor_leavesProcess (port : String) : LeavesProcess (waitFor port) := by
  intro h n x n' heff
  unfold waitFor at heff
  split at heff
  · cases heff
    exact ⟨rfl, rfl⟩
  · cases heff

theorem editFile_leavesProcess (d : String) (f : ConfFile) (edit : ConfigFile → ConfigFile) :
    LeavesProcess (editFile d f edit) := by
  intro h n x n' heff
  rcases editFile_eq_some heff with ⟨dir, c, _, _, rfl⟩
  exact ⟨rfl, rfl⟩

theorem template_leavesProcess (d : String) (f : ConfFile)
    (render : Host → Option ConfigFile) (reg : Option String) :
    LeavesProcess (template d f render reg) := by
  intro h n x n' heff
  rcases template_eq_some heff with ⟨dir, c, _, _, rfl⟩
  exact ⟨rfl, rfl⟩

/-- A call that leaves the process and the log alone. -/
def Quiet (a : Action Host ZkNode Choice) : Prop :=
  ∃ cond effect, a = callWhen cond effect ∧ LeavesProcess effect

/-- Such a call keeps what only the process and the log tell. -/
theorem Quiet.keeps {a : Action Host ZkNode Choice} (ha : Quiet a) {h : Host} {I : ZkNode → Prop}
    (hI : ∀ n n', n'.process = n.process → n'.starts = n.starts → I n → I n') : a.Keeps h I := by
  rcases ha with ⟨cond, effect, rfl, heffect⟩
  apply callWhen_keeps
  intro n x n' hn _ heff
  rcases heffect h n x n' heff with ⟨hprocess, hstarts⟩
  exact hI n n' hprocess hstarts hn

theorem quiet_gatherFacts : ∀ a ∈ gatherFacts.items, Quiet a := by
  intro a ha
  rw [List.mem_singleton.mp ha]
  exact ⟨_, _, rfl, noEffect_leavesProcess⟩

section Calls

variable {inv : Inventory} {v : Vars}

/-- The calls of the upload. -/
theorem upload_quiet : ∀ a ∈ (gatherFacts :: copyFiles v).flatMap Task.items, Quiet a := by
  intro a ha
  rw [List.flatMap_cons] at ha
  rcases List.mem_append.mp ha with ha | ha
  · exact quiet_gatherFacts a ha
  · simp only [copyFiles, List.flatMap_cons, List.flatMap_nil, List.append_nil,
      List.mem_map] at ha
    rcases ha with ⟨dest, _, rfl⟩
    exact ⟨_, _, rfl, copy_leavesProcess dest⟩

/-- The calls of a rolling play, if those that write the configuration are quiet. -/
theorem rolling_calls {config : ZkTask} (hconfig : ∀ a ∈ config.items, Quiet a) :
    ∀ a ∈ (tlsPlay inv v config).actions, Quiet a ∨ a = call restarted := by
  intro a ha
  have hmem : a ∈ gatherFacts.items ++ (config.items ++ (call restarted ::
      (portCheck [v.zookeeperClientPort] always).flatMap Task.items)) := ha
  rcases List.mem_append.mp hmem with ha | ha
  · exact Or.inl (quiet_gatherFacts a ha)
  rcases List.mem_append.mp ha with ha | ha
  · exact Or.inl (hconfig a ha)
  rcases List.mem_cons.mp ha with rfl | ha
  · exact Or.inr rfl
  · simp only [portCheck, List.map_cons, List.map_nil, List.flatMap_cons, List.flatMap_nil,
      List.append_nil, List.mem_singleton] at ha
    rw [ha]
    exact Or.inl ⟨_, _, rfl, waitFor_leavesProcess _⟩

/-- Editing the basic settings is quiet. -/
theorem basicSettings_quiet : ∀ a ∈ (sslQuorumBasicSettings v).items, Quiet a := by
  intro a ha
  simp only [sslQuorumBasicSettings, List.mem_cons, List.not_mem_nil, or_false] at ha
  rcases ha with rfl | rfl | rfl | rfl | rfl | rfl | rfl <;>
    exact ⟨_, _, rfl, editFile_leavesProcess _ _ _⟩

/-- So is rendering {lit}`zoo.cfg`. -/
theorem dynamicConfigs_quiet {w : Vars} {file : ConfFile} :
    ∀ a ∈ (dynamicConfigs inv w file).items, Quiet a := by
  intro a ha
  rw [List.mem_singleton.mp ha]
  exact ⟨_, _, rfl, template_leavesProcess _ _ _ _⟩

/-- And what the controller does. -/
theorem onLocalhost_quiet {title : String} : ∀ a ∈ (inv.onLocalhost title).actions, Quiet a := by
  intro a ha
  rw [List.mem_singleton.mp ha]
  exact ⟨_, _, rfl, noEffect_leavesProcess⟩

/-- Every call after the upload is quiet or a restart. -/
theorem mtls_calls : ∀ p ∈ (clusterMigrateToMtls inv v).tail, ∀ a ∈ p.actions,
    Quiet a ∨ a = call restarted := by
  intro p hp a ha
  simp only [clusterMigrateToMtls, List.tail_cons, List.mem_cons, List.not_mem_nil,
    or_false] at hp
  rcases hp with rfl | rfl | rfl | rfl | rfl | rfl
  · exact rolling_calls basicSettings_quiet a ha
  · exact Or.inl (onLocalhost_quiet a ha)
  · exact rolling_calls dynamicConfigs_quiet a ha
  · exact Or.inl (onLocalhost_quiet a ha)
  · exact rolling_calls dynamicConfigs_quiet a ha
  · exact Or.inl (onLocalhost_quiet a ha)

/-! ## Processes and the log of restarts -/

/-- The process is the first one, and nothing was added to the log. -/
def NeverRestarted (old n : ZkNode) : Prop :=
  n.process = old.process ∧ n.starts = old.starts

/-- The log has grown, or the process is the first one. -/
def Logged (old n : ZkNode) : Prop :=
  old.starts.length ≤ n.starts.length ∧
    (n.starts.length = old.starts.length → n.process = old.process)

/-- A node that was never restarted satisfies the log. -/
theorem NeverRestarted.logged {old n : ZkNode} (hn : NeverRestarted old n) : Logged old n := by
  rw [Logged, hn.1, hn.2]
  exact ⟨Nat.le_refl _, fun _ => rfl⟩

/-- A restart is written to the log. -/
theorem restarted_keeps_logged {h : Host} {old : ZkNode} :
    (call restarted).Keeps h (Logged old) := by
  apply call_keeps
  intro n x n' hn heff
  cases heff
  have hlength : (n.startService x.alive x.ports).starts.length = n.starts.length + 1 := rfl
  have hold := hn.1
  rw [Logged, hlength]
  exact ⟨by omega, fun heq => by omega⟩

/-- The log never gets shorter. -/
theorem restarted_keeps_length {h : Host} {k : Nat} :
    (call restarted).Keeps h fun n : ZkNode => k ≤ n.starts.length := by
  apply call_keeps
  intro n x n' hn heff
  cases heff
  exact Nat.le_succ_of_le hn

/-- The outline of a run: before the rolling plays nothing is restarted. -/
def uploadOutline (inv : Inventory) (v : Vars) (old : Host → ZkNode) :
    List (Stage Host ZkNode Choice) :=
  Stage.steady (inv.onNodes (gatherFacts :: copyFiles v)) (fun h => NeverRestarted (old h)) ::
    (clusterMigrateToMtls inv v).tail.map fun p => Stage.steady p fun h => Logged (old h)

variable {old : Host → ZkNode}

/-- Every play meets the obligations of the outline. -/
theorem uploadOutline_valid : ∀ st ∈ uploadOutline inv v old, st.Valid calm := by
  intro st hst
  rcases List.mem_cons.mp hst with rfl | hst
  · refine Stage.steady_valid (fun _ => stable_calm _) fun h _ a ha => ?_
    exact (upload_quiet a ha).keeps fun n n' hprocess hstarts hn =>
      ⟨hprocess.trans hn.1, hstarts.trans hn.2⟩
  · rcases List.mem_map.mp hst with ⟨p, hp, rfl⟩
    refine Stage.steady_valid (fun _ => stable_calm _) fun h _ a ha => ?_
    rcases mtls_calls p hp a ha with hquiet | rfl
    · refine hquiet.keeps fun n n' hprocess hstarts hn => ?_
      rw [Logged, hprocess, hstarts]
      exact hn
    · exact restarted_keeps_logged

/-- The assertions of the outline fit together. -/
theorem uploadOutline_chained :
    Chained (fun h => NeverRestarted (old h)) (uploadOutline inv v old) :=
  ⟨fun _ _ hn => hn, fun _ _ hn => NeverRestarted.logged hn,
    (chained_steady (fun h => Logged (old h)) (clusterMigrateToMtls inv v).tail).2⟩

/-- A host that was dropped before the rolling plays was dropped by the upload. -/
theorem dropped_by_upload {st : Stage Host ZkNode Choice}
    (hst : st ∈ Stage.idle (fun h => NeverRestarted (old h)) :: uploadOutline inv v old)
    (hserial : st.play.serial = false) {h k : Host} (hh : h ∈ st.play.hosts)
    (hk : k ∈ st.play.hosts) (hne : k ≠ h) : st.inv = fun h => NeverRestarted (old h) := by
  simp only [uploadOutline, clusterMigrateToMtls, List.tail_cons, List.map_cons, List.map_nil,
    List.mem_cons, List.not_mem_nil, or_false] at hst
  have hlocal : ∀ title, h ∈ (inv.onLocalhost title).hosts → k ∈ (inv.onLocalhost title).hosts →
      k = h := by
    intro title hh hk
    rw [List.mem_singleton.mp hh, List.mem_singleton.mp hk]
  rcases hst with rfl | rfl | rfl | rfl | rfl | rfl | rfl | rfl
  · rfl
  · rfl
  · cases hserial
  · exact absurd (hlocal _ hh hk) hne
  · cases hserial
  · exact absurd (hlocal _ hh hk) hne
  · cases hserial
  · exact absurd (hlocal _ hh hk) hne

/--
At every moment a process whose log has not grown is the old one, and a dropped host was
never restarted.
-/
theorem mtls_upload_logged {es : List (Event Host Choice Empty)} {s : State Host ZkNode Choice}
    (hrun : run calm (start (clusterMigrateToMtls inv v) old) es = some s) :
    (∀ h, Logged (old h) (s.nodes h)) ∧ ∀ h ∈ s.lost, NeverRestarted (old h) (s.nodes h) := by
  have halong := outline_sound (fun _ => stable_calm _) uploadOutline_valid
    uploadOutline_chained (fun h => ⟨rfl, rfl⟩) hrun
  constructor
  · refine halong.of_stages (A := fun h => Logged (old h)) ?_
    intro st hst h n hn
    rcases List.mem_cons.mp hst with rfl | hst
    · exact NeverRestarted.logged (hn.elim id fun hn => hn.elim id id)
    rcases List.mem_cons.mp hst with rfl | hst
    · exact NeverRestarted.logged (hn.elim id fun hn => hn.elim id id)
    · rcases List.mem_map.mp hst with ⟨p, _, rfl⟩
      exact hn.elim id fun hn => hn.elim id id
  · intro h hh
    rcases halong with ⟨cur, rest, hin, _, _, _⟩
    rcases hin.lost h hh with ⟨st, hst, hserial, hhost, ⟨k, hk, hne⟩, hinv⟩
    rw [dropped_by_upload hst hserial hhost hk hne] at hinv
    exact hinv

/-- A host that is dropped in the end runs its first process all the time. -/
theorem process_of_dropped {es fs : List (Event Host Choice Empty)}
    {s s' : State Host ZkNode Choice}
    (hrun : run calm (start (clusterMigrateToMtls inv v) old) es = some s)
    (hrest : run calm s fs = some s') {h : Host} (hh : h ∈ s'.lost) :
    (s.nodes h).process = (old h).process := by
  have hwhole : run calm (start (clusterMigrateToMtls inv v) old) (es ++ fs) = some s' := by
    rw [run_append, hrun, Option.bind_some, hrest]
  have hend : (s'.nodes h).starts = (old h).starts := ((mtls_upload_logged hwhole).2 h hh).2
  -- the log of the host has not grown until the end, so it had not grown before
  have hcalls : ∀ p ∈ clusterMigrateToMtls inv v, ∀ k ∈ p.hosts, ∀ a ∈ p.actions,
      a.KeepsUnder k (fun _ => True) fun n : ZkNode =>
        k = h → (s.nodes h).starts.length ≤ n.starts.length := by
    intro p hp k _ a ha
    apply Action.Keeps.under
    apply Action.Keeps.imp
    have hquiet : Quiet a ∨ a = call restarted := by
      rcases List.mem_cons.mp hp with rfl | hp
      · exact Or.inl (upload_quiet a ha)
      · exact mtls_calls p hp a ha
    rcases hquiet with hquiet | rfl
    · refine hquiet.keeps fun n n' _ hstarts hn => ?_
      rw [hstarts]
      exact hn
    · exact restarted_keeps_length
  have hgrown : (s.nodes h).starts.length ≤ (s'.nodes h).starts.length :=
    (run_ahead hcalls hrun).keeps (fun _ => stable_calm _) (fun _ _ _ => trivial)
      (fun k hk => by rw [hk]) hrest h rfl
  have hlogged := (mtls_upload_logged hrun).1 h
  rw [hend] at hgrown
  exact hlogged.2 (Nat.le_antisymm hgrown hlogged.1)

end Calls

/-! ## Restarts in the last two rolling plays -/

section Late

variable {inv : Inventory} {v : Vars} {s : State Host ZkNode Choice} {h : Host}
variable {a : Action Host ZkNode Choice} {rest : List (Action Host ZkNode Choice)} {failed : Bool}

/-- Where a host is in a list of four tasks. -/
theorem position_of_four {α : Type} {t₀ t₁ t₂ t₃ t : α} {before after : List α}
    (htasks : [t₀, t₁, t₂, t₃] = before ++ t :: after) :
    (after.length = 1 ∧ before = [t₀, t₁] ∧ t = t₂) ∨
      after.length ≠ 1 ∧ (t = t₀ ∨ t = t₁ ∨ t = t₃) := by
  match before with
  | [] =>
      cases htasks
      exact Or.inr ⟨by simp, Or.inl rfl⟩
  | [_] =>
      cases htasks
      exact Or.inr ⟨by simp, Or.inr (Or.inl rfl)⟩
  | [_, _] =>
      cases htasks
      exact Or.inl ⟨rfl, rfl, rfl⟩
  | [_, _, _] =>
      cases htasks
      exact Or.inr ⟨by simp, Or.inr (Or.inr rfl)⟩
  | _ :: _ :: _ :: _ :: _ => simp at htasks

/--
A host that is busy in a play that renders {lit}`zoo.cfg` with encryption restarts the service
when one task is left, and then finds encryption on; its other calls are quiet.
-/
theorem render_call {outline : List (Stage Host ZkNode Choice)} {portUnification : String}
    {S U T : (ConfFile → Option ConfigFile) → Prop}
    (hversion : versionGe v.zookeeperVersion "3.5.5" = some true)
    (hin : InPlay calm outline (rollingStage (tlsPlay inv v
      (dynamicConfigs inv (v.withTls portUnification) .zooCfg)) v.versionDir S U T) s)
    (hbusy : s.busy h = some ⟨a :: rest, failed⟩) :
    (s.tasks.length = 1 ∧ h ∈ inv.clusterNodes ∧ a = call restarted ∧
        encrypted (s.nodes h).disk) ∨
      s.tasks.length ≠ 1 ∧ Quiet a := by
  have hhost : h ∈ inv.clusterNodes := hin.hosts (List.mem_append_left _ (hin.busy h _ hbusy).1)
  rcases hin.working h _ hbusy with ⟨s₀, m, ts, t, as, hpre, htasks, hitems, hpath, hloop⟩
  have hmem : a ∈ t.items := by
    rw [hitems]
    simp
  rcases position_of_four htasks with ⟨hlength, rfl, rfl⟩ | ⟨hlength, hother⟩
  · refine Or.inl ⟨hlength, hhost, List.mem_singleton.mp hmem, ?_⟩
    -- the host has got through the template task
    have hgives : (call (template v.versionDir .zooCfg
        (render inv (v.withTls portUnification) .zooCfg) (some "configStatus"))).Gives h
        (Node.Within v.versionDir S S) (Node.Within v.versionDir encrypted S) := by
      apply template_gives
      intro disk c _ hc
      rw [encrypted, TlsIn, tlsOf_update, render_withTls hversion hc]
    have hensures : Ensures calm h (Node.Within v.versionDir S S)
        ([gatherFacts, dynamicConfigs inv (v.withTls portUnification) .zooCfg].flatMap Task.items)
        (Node.Within v.versionDir encrypted S) :=
      Ensures.cons (stable_calm _) (stable_calm _) noEffect_keeps.gives
        (Ensures.single (stable_calm _) (stable_calm _) hgives)
    have hm : m.Within v.versionDir encrypted S := hensures s₀ m (hpre hhost) hpath
    have has : as = [] := by
      have hlen := congrArg List.length hitems
      cases as with
      | nil => rfl
      | cons b bs => simp [serviceState] at hlen
    rw [has] at hloop
    exact (hloop.keeps (stable_calm _) (by simp) hm).disk
  · refine Or.inr ⟨hlength, ?_⟩
    rcases hother with rfl | rfl | rfl
    · exact quiet_gatherFacts a hmem
    · exact dynamicConfigs_quiet a hmem
    · rw [List.mem_singleton.mp hmem]
      exact ⟨_, _, rfl, waitFor_leavesProcess _⟩

/-- A prompt is a play with one task, and its call is quiet. -/
theorem prompt_call {outline : List (Stage Host ZkNode Choice)} {title : String}
    {A : Host → ZkNode → Prop}
    (hin : InPlay calm outline (Stage.steady (inv.onLocalhost title) A) s)
    (hbusy : s.busy h = some ⟨a :: rest, failed⟩) : s.tasks.length ≠ 1 ∧ Quiet a := by
  rcases hin.working h _ hbusy with ⟨s₀, m, ts, t, as, _, htasks, hitems, _, _⟩
  have hlist : [inert title 1] = ts ++ t :: s.tasks := htasks
  cases ts with
  | cons _ _ => simp at hlist
  | nil =>
      rcases List.cons.inj hlist with ⟨rfl, hnil⟩
      have hmem : a ∈ (inv.onLocalhost title).actions := by
        change a ∈ (inert title 1 : ZkTask).items
        rw [hitems]
        simp
      exact ⟨by simp [← hnil], onLocalhost_quiet a hmem⟩

/-- A host that is busy in one of the last four plays of the migration. -/
theorem late_call (hversion : versionGe v.zookeeperVersion "3.5.5" = some true)
    (halong : Along calm (Stage.idle (AllNodes inv (Node.Within v.versionDir plain plain)) ::
      mtlsOutline inv v) s) (hlate : s.plays.length ≤ 3)
    (hbusy : s.busy h = some ⟨a :: rest, failed⟩) :
    (s.tasks.length = 1 ∧ h ∈ inv.clusterNodes ∧ a = call restarted ∧
        encrypted (s.nodes h).disk) ∨
      s.tasks.length ≠ 1 ∧ Quiet a := by
  rcases halong with ⟨cur, stages, hin, hplays, _, hsuffix⟩
  have hlength : stages.length ≤ 3 := by
    rw [hplays, List.length_map] at hlate
    exact hlate
  have hlast : (cur :: stages) <:+ (mtlsOutline inv v).drop 3 := by
    refine List.suffix_of_suffix_length_le hsuffix
      ((List.drop_suffix 3 _).trans (List.suffix_cons _ _)) ?_
    change stages.length + 1 ≤ 4
    omega
  have hcur : cur ∈ (mtlsOutline inv v).drop 3 := hlast.subset List.mem_cons_self
  simp only [mtlsOutline, List.drop_succ_cons, List.drop_zero, List.mem_cons, List.not_mem_nil,
    or_false] at hcur
  rcases hcur with rfl | rfl | rfl | rfl
  · exact render_call hversion hin hbusy
  · exact Or.inr (prompt_call hin hbusy)
  · exact render_call hversion hin hbusy
  · exact Or.inr (prompt_call hin hbusy)

/-- In the first plays of the migration the host that is busy has encryption off. -/
theorem early_plain
    (halong : Along calm (Stage.idle (AllNodes inv (Node.Within v.versionDir plain plain)) ::
      mtlsOutline inv v) s) (hearly : ¬ s.plays.length ≤ 3) (hbatch : h ∈ s.batch)
    (hlost : h ∉ s.lost) (hh : h ∈ inv.clusterNodes) {p : ConfFile → Option ConfigFile}
    (hp : (s.nodes h).process = some p) : plain p := by
  rcases halong with ⟨cur, stages, hin, hplays, _, hsuffix⟩
  have hduring := hin.during h hbatch hlost
  rcases hsuffix with ⟨before, hbefore⟩
  have hlength : before.length ≤ 3 := by
    have hlen := congrArg List.length hbefore
    rw [hplays, List.length_map] at hearly
    simp only [mtlsOutline, List.length_append, List.length_cons, List.length_nil] at hlen
    omega
  rcases before with _ | ⟨_, _ | ⟨_, _ | ⟨_, _ | ⟨_, before⟩⟩⟩⟩
  · cases hbefore
    exact (hduring hh).process p hp
  · cases hbefore
    exact (hduring hh).process p hp
  · cases hbefore
    exact (hduring hh).process p hp
  · cases hbefore
    exact exactly_tlsIn (A := fun t => t.sslQuorum = false) rfl p ((hduring hh).1.process p hp)
  · simp only [List.length_cons] at hlength
    omega

/-- The node after a restart. -/
theorem restarted_run {n n' : ZkNode} {x : Choice} {w : Verdict}
    (hrun : (call restarted).run h n x = some (n', w)) :
    n' = if x.verdict = .ok ∨ x.applied = true then n.startService x.alive x.ports else n := by
  rw [Action.run_of_cond (a := call restarted) x rfl rfl] at hrun
  exact (Prod.mk.inj (Option.some.inj hrun)).1.symm

end Late

/-! ## Connections after a failed upload -/

/--
The call brings a service up in one of the last two rolling plays: there are at most three plays
after it, and one task is left in its own.
-/
def BringsUpLate (s : State Host ZkNode Choice) (x : Choice) : Prop :=
  s.plays.length ≤ 3 ∧ s.tasks.length = 1 ∧ x.alive = true ∧ (x.verdict = .ok ∨ x.applied = true)

section Connections

variable {inv : Inventory} {v : Vars} {nodes : Host → ZkNode}
variable {es : List (Event Host Choice Empty)} {s : State Host ZkNode Choice}

/-- As long as no service comes up in the last two rolling plays, all run without encryption. -/
theorem plain_of_lawful (hversion : versionGe v.zookeeperVersion "3.5.5" = some true)
    (hplain : ∀ h ∈ inv.clusterNodes, (nodes h).Within v.versionDir plain plain)
    (hlaw : Lawful calm (fun s _ x => ¬ BringsUpLate s x)
      (start (clusterMigrateToMtls inv v) nodes) es)
    (hrun : run calm (start (clusterMigrateToMtls inv v) nodes) es = some s) :
    ∀ h ∈ inv.clusterNodes, ∀ p, (s.nodes h).process = some p → plain p := by
  have hvalid : ∀ st ∈ Stage.idle (AllNodes inv (Node.Within v.versionDir plain plain)) ::
      mtlsOutline inv v, st.Valid calm := by
    intro st hst
    rcases List.mem_cons.mp hst with rfl | hst
    · exact Stage.idle_valid fun _ => stable_calm _
    · exact mtlsOutline_valid selfRestarting_calm hversion st hst
  have hfirst : run calm (start (clusterMigrateToMtls inv v) nodes) [] =
      some (start (clusterMigrateToMtls inv v) nodes) := rfl
  refine (hlaw.invariant (motive := fun s : State Host ZkNode Choice =>
    Along calm (Stage.idle (AllNodes inv (Node.Within v.versionDir plain plain)) ::
      mtlsOutline inv v) s ∧
    ∀ h ∈ inv.clusterNodes, ∀ p, (s.nodes h).process = some p → plain p) ?_
    ⟨mtls_along selfRestarting_calm hversion hplain hfirst,
      fun h hh p hp => (hplain h hh).process p hp⟩ hrun).2
  rintro s e s' ⟨halong, hoff⟩ hpermit hstep
  have halong' := halong.step hvalid hstep
  refine ⟨halong', fun h hh p hp => ?_⟩
  rcases State.step_nodes hstep h with hsame | ⟨e', _⟩ | ⟨a, rest, failed, x, w, rfl, hbusy, hcall⟩
  · rw [hsame] at hp
    exact hoff h hh p hp
  · exact e'.elim
  by_cases hlate : s.plays.length ≤ 3
  · rcases late_call hversion halong hlate hbusy with ⟨htasks, _, rfl, _⟩ | ⟨_, hquiet⟩
    · -- the service is not restarted, or it does not stay up
      have hnode := restarted_run hcall
      by_cases heffect : x.verdict = .ok ∨ x.applied = true
      · have halive : x.alive = false := by
          cases halive : x.alive with
          | false => rfl
          | true => exact absurd ⟨hlate, htasks, halive, heffect⟩ hpermit
        rw [hnode, if_pos heffect] at hp
        simp [Node.startService, halive] at hp
      · rw [hnode, if_neg heffect] at hp
        exact hoff h hh p hp
    · have hkeeps : a.Keeps h fun n : ZkNode => ∀ p, n.process = some p → plain p :=
        hquiet.keeps fun n n' hprocess _ hn p hp => hn p (hprocess ▸ hp)
      exact hkeeps _ x _ w (hoff h hh) hcall p hp
  · rcases State.act_cases hstep with ⟨b, items, bad, n, w', hbusy', _, rfl⟩
    rcases halong with ⟨cur, stages, hin, _, _, _⟩
    rcases hin.busy h _ hbusy' with ⟨hbatch, hlost, _⟩
    exact early_plain halong' hlate hbatch hlost hh hp

/-- A service that comes up in one of the last two rolling plays runs with encryption. -/
theorem encrypted_of_bringsUpLate (hversion : versionGe v.zookeeperVersion "3.5.5" = some true)
    (hplain : ∀ h ∈ inv.clusterNodes, (nodes h).Within v.versionDir plain plain)
    (hrun : run calm (start (clusterMigrateToMtls inv v) nodes) es = some s) {h : Host} {x : Choice}
    {s' : State Host ZkNode Choice} (hstep : s.act h x = some s') (hup : BringsUpLate s x) :
    h ∈ inv.clusterNodes ∧ ∃ p, (s'.nodes h).process = some p ∧ encrypted p := by
  rcases hup with ⟨hlate, htasks, halive, heffect⟩
  have halong := mtls_along selfRestarting_calm hversion hplain hrun
  rcases State.act_cases hstep with ⟨a, rest, failed, n, w, hbusy, hcall, rfl⟩
  rcases late_call hversion halong hlate hbusy with ⟨_, hh, rfl, hdisk⟩ | ⟨hnot, _⟩
  · refine ⟨hh, (s.nodes h).disk, ?_, hdisk⟩
    rw [restarted_run hcall, if_pos heffect]
    simp [State.record, Node.startService, halive]
  · exact absurd htasks hnot

end Connections

/--
In a run that has dropped a node by the upload, all nodes reach each other at every moment exactly
if the version is below 3.5.5, or no restart of the second or third rolling play has brought a
node up.
-/
theorem mtls_dropped_host_connected_iff (inv : Inventory) (v : Vars) {nodes : Host → ZkNode}
    (hplain : ∀ h ∈ inv.clusterNodes, (nodes h).Within v.versionDir plain plain)
    (hrunning : ∀ h ∈ inv.clusterNodes,
      ∃ p, (nodes h).process = some p ∧ tlsOf p = ⟨false, false⟩)
    {es : List (Event Host Choice Empty)} {s : State Host ZkNode Choice}
    (hrun : run calm (start (clusterMigrateToMtls inv v) nodes) es = some s)
    {dropped : Host} (hnode : dropped ∈ inv.clusterNodes) (hdropped : dropped ∈ s.lost) :
    (∀ es₁ s₁, es₁ <+: es →
      run calm (start (clusterMigrateToMtls inv v) nodes) es₁ = some s₁ →
      ∀ h ∈ inv.clusterNodes, ∀ k ∈ inv.clusterNodes, TlsLinked (s₁.nodes h) (s₁.nodes k)) ↔
    versionGe v.zookeeperVersion "3.5.5" ≠ some true ∨
      Lawful calm (fun s _ x => ¬ BringsUpLate s x)
        (start (clusterMigrateToMtls inv v) nodes) es := by
  by_cases hversion : versionGe v.zookeeperVersion "3.5.5" = some true
  · refine ⟨fun hlinked => Or.inr ?_, ?_⟩
    · refine lawful_of_calls fun before h x after m hes hm hup => ?_
      -- the dropped host does not accept the connections of the node that comes up
      have hafter : run calm m (.act h x :: after) = some s := by
        rw [hes, run_append, hm, Option.bind_some] at hrun
        exact hrun
      rw [run, Option.bind_eq_some_iff] at hafter
      rcases hafter with ⟨m', hstep, hrest⟩
      have hm' : run calm (start (clusterMigrateToMtls inv v) nodes) (before ++ [.act h x]) =
          some m' := by
        rw [run_append, hm, Option.bind_some, run, hstep]
        rfl
      rcases encrypted_of_bringsUpLate hversion hplain hm hstep hup with ⟨hh, q, hq, hencrypted⟩
      rcases hrunning dropped hnode with ⟨p, hp, htls⟩
      have hp' : (m'.nodes dropped).process = some p := by
        rw [process_of_dropped hm' hrest hdropped, hp]
      have hreach := (hlinked _ m' ⟨after, by rw [hes]; simp⟩ hm' h hh dropped hnode q p hq hp').1
      rw [htls] at hreach
      simp [Tls.reaches, show (tlsOf q).sslQuorum = true from hencrypted] at hreach
    · rintro (hold | hlaw)
      · exact absurd hversion hold
      · rintro es₁ s₁ ⟨fs, rfl⟩ hrun₁ h hh k hk
        have hoff := plain_of_lawful hversion hplain hlaw.of_append hrun₁
        exact plain_compatible.linked (hoff h hh) (hoff k hk)
  · refine ⟨fun _ => Or.inl hversion, fun _ es₁ s₁ _ hrun₁ h hh k hk => ?_⟩
    have hwithin := run_keeps (fun _ => stable_calm _) (mtls_keeps_plain hversion) hplain hrun₁
    exact plain_compatible.linked (hwithin h hh).process (hwithin k hk).process

/-- The third host fails the upload task, and nothing else goes wrong. -/
def failedUpload (s : State Host ZkNode Choice) (h : Host) : Choice :=
  if h = "zookeeper3.localhost" ∧ s.plays.length = 6 ∧ s.tasks.isEmpty then Choice.bad
  else Choice.good ["2181"]

/-- The variables of the development cluster with the upload switched on, for some version. -/
def uploadVars (version : String) : Vars :=
  { developmentVars with zookeeperSslQuorum := true, zookeeperVersion := version }

/-- The nodes of the development cluster before the migration. -/
def uploadNodes (version : String) : Host → ZkNode :=
  configuredNode developmentInventory { developmentVars with zookeeperVersion := version }

/-- A run of the development cluster with a failed upload, stopped after some events. -/
def developmentUpload (version : String) (count : Nat) : State Host ZkNode Choice :=
  drive failedUpload count
    (start (clusterMigrateToMtls developmentInventory (uploadVars version)) (uploadNodes version))

/-- This is a run. -/
theorem developmentUpload_run (version : String) (count : Nat) :
    ∃ es, run calm (start (clusterMigrateToMtls developmentInventory (uploadVars version))
      (uploadNodes version)) es = some (developmentUpload version count) :=
  ⟨_, run_follow calm failedUpload count _⟩

/-- A cluster of the version 3.4.14 goes through the whole migration without its third host. -/
theorem mtls_dropped_host_connected_development :
    "zookeeper3.localhost" ∈ (developmentUpload "3.4.14" 80).lost ∧
    ∀ h ∈ developmentInventory.clusterNodes, ∀ k ∈ developmentInventory.clusterNodes,
      TlsLinked ((developmentUpload "3.4.14" 80).nodes h)
        ((developmentUpload "3.4.14" 80).nodes k) := by
  rcases developmentUpload_run "3.4.14" 80 with ⟨es, hrun⟩
  have hnode : "zookeeper3.localhost" ∈ developmentInventory.clusterNodes := by decide
  have hdropped : "zookeeper3.localhost" ∈ (developmentUpload "3.4.14" 80).lost := by
    decide +kernel
  have htls : tls ((zooCfg developmentInventory
      { developmentVars with zookeeperVersion := "3.4.14" }).getD []) = ⟨false, false⟩ := by
    decide +kernel
  have hplain : ∀ h, (uploadNodes "3.4.14" h).Within (uploadVars "3.4.14").versionDir plain plain :=
    configuredNode_plain developmentInventory { developmentVars with zookeeperVersion := "3.4.14" }
      rfl
  exact ⟨hdropped, (mtls_dropped_host_connected_iff developmentInventory (uploadVars "3.4.14")
    (fun h _ => hplain h) (fun h _ => ⟨_, rfl, htls⟩) hrun hnode hdropped).mpr
    (Or.inl (by decide)) es _ List.prefix_rfl hrun⟩

/-- The run goes on without the third host and cuts it off. -/
theorem mtls_dropped_host_disconnected :
    ∃ (es : List (Event Host Choice Empty)) (s : State Host ZkNode Choice),
      run calm (start (clusterMigrateToMtls developmentInventory (uploadVars "3.8.0"))
        (uploadNodes "3.8.0")) es = some s ∧
      s.lost = ["zookeeper3.localhost"] ∧
      (∀ h ∈ developmentInventory.clusterNodes, (s.nodes h).process.isSome = true) ∧
      ¬ TlsLinked (s.nodes "zookeeper1.localhost") (s.nodes "zookeeper3.localhost") := by
  rcases developmentUpload_run "3.8.0" 80 with ⟨es, hrun⟩
  exact ⟨es, developmentUpload "3.8.0" 80, hrun, by decide +kernel, by decide +kernel,
    by decide +kernel⟩

end ZooKeeper
end ClusterPlaybooks
