import ClusterPlaybooks.ZooKeeper.Playbooks

/-!
# Key stores of a node that is started

A {lit}`zoo.cfg` with quorum encryption names a key store and a trust store.  Only
the role {lit}`copyFiles` puts them on a node, and only when
{lit}`zookeeperSslQuorum` is on.  The setup includes the role before it configures
the node, the migration to mutual TLS includes it first, and the upgrade to
another version does not include it at all.

What the playbooks do to the stores of a node depends on a small part of its
state, its {lit}`StoreView`.

Main results:

- Theorem {lit}`zooCfg_present`: a rendered {lit}`zoo.cfg` names stores that are
  there if the variables are supplied with them.
- Theorems {lit}`view_template_zooCfg`, {lit}`view_editFile`,
  {lit}`view_startService` and others: what the modules do to a view.
- Theorems {lit}`fileDirectory_seen`, {lit}`fileLink_seen`, {lit}`restarted_seen` and
  others: what the calls keep.
-/

namespace ClusterPlaybooks
namespace ZooKeeper

open Ansible
open Service
open Text

/-! ## Stores -/

/-- All stores a {lit}`zoo.cfg` names are among the uploaded files. -/
def Present (uploads : String → Bool) (f : ConfigFile) : Prop :=
  ∀ key ∈ storeKeys, ∀ path, lookup key f = some path → uploads path = true

/-- There are two such keys. -/
theorem forall_storeKeys {P : String → Prop} :
    (∀ key ∈ storeKeys, P key) ↔
      P "ssl.quorum.keyStore.location" ∧ P "ssl.quorum.trustStore.location" := by
  simp [storeKeys]

/-- A start found both stores, if the {lit}`zoo.cfg` it read names both. -/
def stocked (st : Start ConfFile ConfigFile) : Bool :=
  match st.loaded .zooCfg with
  | some f =>
      match storeKeys.map (lookup · f) with
      | [some keyStore, some trustStore] => st.uploads keyStore && st.uploads trustStore
      | _ => true
  | none => true

/-- What matters about a node. -/
structure StoreView where
  live : Option String
  uploads : String → Bool
  starts : List (Start ConfFile ConfigFile)
  /-- the {lit}`zoo.cfg` in each directory -/
  zooCfg : String → Option ConfigFile

/-- Another {lit}`zoo.cfg` in a directory, or none. -/
def StoreView.write (w : StoreView) (d : String) (z : Option ConfigFile) : StoreView :=
  { w with zooCfg := Function.update w.zooCfg d z }

/-- Another live directory. -/
def StoreView.switch (w : StoreView) (d : String) : StoreView :=
  { w with live := some d }

/-- One more uploaded file. -/
def StoreView.upload (w : StoreView) (path : String) : StoreView :=
  { w with uploads := Function.update w.uploads path true }

/-- One more start. -/
def StoreView.log (w : StoreView) (st : Start ConfFile ConfigFile) : StoreView :=
  { w with starts := st :: w.starts }

theorem StoreView.write_self (w : StoreView) (d : String) (z : Option ConfigFile) :
    (w.write d z).zooCfg d = z :=
  Function.update_self _ _ _

theorem StoreView.write_of_ne (w : StoreView) {d e : String} (hne : e ≠ d)
    (z : Option ConfigFile) : (w.write d z).zooCfg e = w.zooCfg e :=
  Function.update_of_ne hne _ _

theorem StoreView.upload_self (w : StoreView) (path : String) :
    (w.upload path).uploads path = true :=
  Function.update_self _ _ _

/-- An uploaded file stays uploaded. -/
theorem StoreView.upload_mono (w : StoreView) {path other : String}
    (hother : w.uploads other = true) : (w.upload path).uploads other = true := by
  by_cases heq : other = path
  · subst heq
    exact w.upload_self other
  · exact (Function.update_of_ne heq true w.uploads).trans hother

/-- The view of a node. -/
def storeView (n : ZkNode) : StoreView where
  live := n.live
  uploads := n.uploads
  starts := n.starts
  zooCfg := fun d => (n.dirs d).bind fun dir => dir.files .zooCfg

/-- An assertion about a node that looks at its view only. -/
def Seen (P : StoreView → Prop) (n : ZkNode) : Prop :=
  P (storeView n)

/-- The starts of a view are all stocked. -/
def StoreView.Stocked (w : StoreView) : Prop :=
  ∀ st ∈ w.starts, stocked st = true

/-- The stores named in a directory are there. -/
def StoreView.DirOk (w : StoreView) (d : String) : Prop :=
  ∀ f, w.zooCfg d = some f → Present w.uploads f

/-- No start was without stores, and the next one would not be, either. -/
structure StoreView.Ready (w : StoreView) : Prop where
  stocked : w.Stocked
  live : ∀ d, w.live = some d → w.DirOk d

/-- Both stores of the variables are there. -/
def StoreView.Holds (v : Vars) (w : StoreView) : Prop :=
  w.uploads v.zookeeperSslQuorumKeystoreLocation = true ∧
    w.uploads v.zookeeperSslQuorumTruststoreLocation = true

/-- Stores that are there stay there when more files are uploaded. -/
theorem Present.mono {uploads uploads' : String → Bool} {f : ConfigFile}
    (hmono : ∀ path, uploads path = true → uploads' path = true) (hf : Present uploads f) :
    Present uploads' f :=
  fun key hkey path hpath => hmono path (hf key hkey path hpath)

/-- A start that reads a file whose stores are there is stocked. -/
theorem stocked_of_present {st : Start ConfFile ConfigFile}
    (hpresent : ∀ f, st.loaded .zooCfg = some f → Present st.uploads f) : stocked st = true := by
  unfold stocked
  split
  · rename_i f hf
    split
    · rename_i keyStore trustStore hstores
      simp only [storeKeys, List.map_cons, List.map_nil, List.cons.injEq] at hstores
      have hkey := hpresent f hf _ (by simp [storeKeys]) keyStore hstores.1
      have htrust := hpresent f hf _ (by simp [storeKeys]) trustStore hstores.2.1
      simp [hkey, htrust]
    · rfl
  · rfl

/-- A rendered {lit}`zoo.cfg` names stores that are there, if they are whenever encryption is on. -/
theorem zooCfg_present {inv : Inventory} {v : Vars} {f : ConfigFile} {w : StoreView}
    (hf : zooCfg inv v = some f) (hsupply : v.zookeeperSslQuorum = true → w.Holds v) :
    Present w.uploads f := by
  have hstores := zooCfg_stores hf
  intro key hkey path hpath
  simp only [storeKeys, List.map_cons, List.map_nil] at hstores
  simp only [storeKeys, List.mem_cons, List.not_mem_nil, or_false] at hkey
  split at hstores
  · rename_i hon
    simp only [List.cons.injEq] at hstores
    rcases hkey with rfl | rfl
    · rw [hstores.1] at hpath
      exact Option.some.inj hpath ▸ (hsupply hon.1).1
    · rw [hstores.2.1] at hpath
      exact Option.some.inj hpath ▸ (hsupply hon.1).2
  · simp only [List.cons.injEq] at hstores
    rcases hkey with rfl | rfl
    · rw [hstores.1] at hpath
      cases hpath
    · rw [hstores.2.1] at hpath
      cases hpath

/-! ## What the modules do to a view -/

section Views

variable {h : Host} {n n' : ZkNode} {x : Choice}

/-- Two views agree when their fields do; the files are compared directory by directory. -/
theorem storeView_eq {w : StoreView} (hlive : n.live = w.live) (huploads : n.uploads = w.uploads)
    (hstarts : n.starts = w.starts)
    (hzooCfg : ∀ d, ((n.dirs d).bind fun dir => dir.files .zooCfg) = w.zooCfg d) :
    storeView n = w := by
  rw [storeView, hlive, huploads, hstarts, funext hzooCfg]

/-- Creating a directory is not seen. -/
theorem view_fileDirectory {d : String} (heff : fileDirectory d h n x = some n') :
    storeView n' = storeView n := by
  unfold fileDirectory at heff
  split at heff
  · cases heff
    rfl
  · rename_i hnone
    cases heff
    refine storeView_eq rfl rfl rfl fun e => ?_
    by_cases he : e = d
    · subst he
      simp [storeView, hnone]
    · simp [storeView, he]

/-- The view after a file was written. -/
theorem view_write {d : String} {dir : VersionDir ConfFile ConfigFile} (hdir : n.dirs d = some dir)
    (file : ConfFile) (c : ConfigFile) (reg : Option String) (changed : Bool) :
    storeView ((n.write d dir file c).register reg changed) =
      if file = .zooCfg then
        (storeView n).write d (some c)
      else storeView n := by
  split
  · rename_i hfile
    subst hfile
    refine storeView_eq rfl rfl rfl fun e => ?_
    by_cases he : e = d
    · subst he
      rw [StoreView.write_self]
      simp [Node.write, Node.register]
    · rw [StoreView.write_of_ne _ he]
      simp [Node.write, Node.register, storeView, he]
  · rename_i hfile
    refine storeView_eq rfl rfl rfl fun e => ?_
    by_cases he : e = d
    · subst he
      simp [Node.write, Node.register, storeView, hdir, Ne.symm hfile]
    · simp [Node.write, Node.register, storeView, he]

/-- Writing another file than {lit}`zoo.cfg` is not seen. -/
theorem view_template_other {d : String} {file : ConfFile} {render : Host → Option ConfigFile}
    {reg : Option String} (hfile : file ≠ .zooCfg)
    (heff : template d file render reg h n x = some n') : storeView n' = storeView n := by
  rcases template_eq_some heff with ⟨dir, c, hdir, _, rfl⟩
  rw [view_write hdir, if_neg hfile]

/-- Writing {lit}`zoo.cfg` replaces it. -/
theorem view_template_zooCfg {d : String} {render : Host → Option ConfigFile}
    {reg : Option String} (heff : template d .zooCfg render reg h n x = some n') :
    ∃ c, render h = some c ∧ storeView n' =
      (storeView n).write d (some c) := by
  rcases template_eq_some heff with ⟨dir, c, hdir, hc, rfl⟩
  exact ⟨c, hc, by rw [view_write hdir, if_pos rfl]⟩

/-- Editing {lit}`zoo.cfg` replaces it. -/
theorem view_editFile {d : String} {edit : ConfigFile → ConfigFile}
    (heff : editFile d .zooCfg edit h n x = some n') :
    ∃ c, (storeView n).zooCfg d = some c ∧ storeView n' =
      (storeView n).write d (some (edit c)) := by
  rcases editFile_eq_some heff with ⟨dir, c, hdir, hc, rfl⟩
  refine ⟨c, by simp [storeView, hdir, hc], ?_⟩
  have hview := view_write hdir .zooCfg (edit c) none false
  rw [if_pos rfl] at hview
  exact hview

/-- Unpacking an archive may bring a {lit}`zoo.cfg` along. -/
theorem view_unarchiveInto {d : String} {archive : ConfFile → Option ConfigFile}
    (heff : unarchiveInto d archive h n x = some n') :
    ∃ z, storeView n' =
      (storeView n).write d z := by
  rcases Option.map_eq_some_iff.mp heff with ⟨dir, hdir, heq⟩
  split at heq
  · subst heq
    exact ⟨(storeView n).zooCfg d, by rw [StoreView.write, Function.update_eq_self]⟩
  · subst heq
    refine ⟨(dir.unpack archive).files .zooCfg, storeView_eq rfl rfl rfl fun e => ?_⟩
    by_cases he : e = d
    · subst he
      rw [StoreView.write_self]
      simp
    · rw [StoreView.write_of_ne _ he]
      simp [storeView, he]

/-- Switching the link. -/
theorem view_fileLink {d : String} {reg : Option String}
    (heff : fileLink d reg h n x = some n') :
    storeView n' = (storeView n).switch d := by
  unfold fileLink at heff
  split at heff
  · cases heff
    rfl
  · cases heff

/-- A start reads the {lit}`zoo.cfg` of the live directory. -/
theorem view_startService (n : ZkNode) (alive : Bool) (ports : List String) :
    ∃ st, st.loaded .zooCfg = (storeView n).live.bind (storeView n).zooCfg ∧
      st.uploads = (storeView n).uploads ∧
      storeView (n.startService alive ports) =
        (storeView n).log st := by
  refine ⟨⟨n.disk, n.uploads, alive⟩, ?_, rfl, rfl⟩
  cases hlive : n.live with
  | none => simp [Node.disk, storeView, hlive]
  | some d => simp [Node.disk, storeView, hlive]

end Views

/-! ## What the calls keep -/

section Calls

variable {h : Host} {P : StoreView → Prop} {cond : Host → ZkNode → Option Bool}

/-- A call keeps what its effect keeps. -/
theorem seen_keeps {effect : Effect Host ConfFile ConfigFile}
    (heffect : ∀ n x n', P (storeView n) → cond h n = some true → effect h n x = some n' →
      P (storeView n')) : (callWhen cond effect).Keeps h (Seen P) :=
  callWhen_keeps heffect

/-- Creating a directory keeps everything that is seen. -/
theorem fileDirectory_seen {d : String} : (call (fileDirectory d)).Keeps h (Seen P) := by
  refine seen_keeps fun n x n' hn _ heff => ?_
  rw [view_fileDirectory heff]
  exact hn

/-- Writing another file keeps everything that is seen. -/
theorem otherTemplate_seen {d : String} {file : ConfFile} {render : Host → Option ConfigFile}
    {reg : Option String} (hfile : file ≠ .zooCfg) :
    (call (template d file render reg)).Keeps h (Seen P) := by
  refine seen_keeps fun n x n' hn _ heff => ?_
  rw [view_template_other hfile heff]
  exact hn

/-- Writing {lit}`zoo.cfg` keeps what replacing it keeps. -/
theorem zooCfgTemplate_seen {d : String} {render : Host → Option ConfigFile}
    {reg : Option String}
    (hP : ∀ w c, P w → render h = some c →
      P (w.write d (some c))) :
    (call (template d .zooCfg render reg)).Keeps h (Seen P) := by
  refine seen_keeps fun n x n' hn _ heff => ?_
  rcases view_template_zooCfg heff with ⟨c, hc, heq⟩
  rw [heq]
  exact hP _ c hn hc

/-- Editing {lit}`zoo.cfg` keeps what replacing it keeps. -/
theorem editFile_seen {d : String} {edit : ConfigFile → ConfigFile}
    (hP : ∀ w c, P w → w.zooCfg d = some c →
      P (w.write d (some (edit c)))) :
    (call (editFile d .zooCfg edit)).Keeps h (Seen P) := by
  refine seen_keeps fun n x n' hn _ heff => ?_
  rcases view_editFile heff with ⟨c, hc, heq⟩
  rw [heq]
  exact hP _ c hn hc

/-- A successful edit of {lit}`zoo.cfg` replaced it. -/
theorem editFile_seen_gives {Q : StoreView → Prop} {d : String} {edit : ConfigFile → ConfigFile}
    (hPQ : ∀ w c, P w → w.zooCfg d = some c → Q (w.write d (some (edit c)))) :
    (call (editFile d .zooCfg edit)).Gives h (Seen P) (Seen Q) := by
  apply call_gives
  intro n x n' hn heff
  rcases view_editFile heff with ⟨c, hc, heq⟩
  rw [Seen, heq]
  exact hPQ _ c hn hc

/-- A successful call that writes {lit}`zoo.cfg` replaced it. -/
theorem zooCfgTemplate_seen_gives {Q : StoreView → Prop} {d : String}
    {render : Host → Option ConfigFile} {reg : Option String}
    (hPQ : ∀ w c, P w → render h = some c → Q (w.write d (some c))) :
    (call (template d .zooCfg render reg)).Gives h (Seen P) (Seen Q) := by
  apply call_gives
  intro n x n' hn heff
  rcases view_template_zooCfg heff with ⟨c, hc, heq⟩
  rw [Seen, heq]
  exact hPQ _ c hn hc

/-- Unpacking keeps what any {lit}`zoo.cfg` in the directory keeps. -/
theorem unarchiveInto_seen {d : String} {archive : ConfFile → Option ConfigFile}
    (hP : ∀ w z, P w → P (w.write d z)) :
    (call (unarchiveInto d archive)).Keeps h (Seen P) := by
  refine seen_keeps fun n x n' hn _ heff => ?_
  rcases view_unarchiveInto heff with ⟨z, heq⟩
  rw [heq]
  exact hP _ z hn

/-- Switching the link keeps what the new link keeps. -/
theorem fileLink_seen {d : String} {reg : Option String}
    (hP : ∀ w : StoreView, P w → P (w.switch d)) :
    (call (fileLink d reg)).Keeps h (Seen P) := by
  refine seen_keeps fun n x n' hn _ heff => ?_
  rw [view_fileLink heff]
  exact hP _ hn

/-- Copying a file keeps what another uploaded file keeps. -/
theorem copy_seen {path : String}
    (hP : ∀ w : StoreView, P w → P (w.upload path)) :
    (callWhen cond (copy path)).Keeps h (Seen P) := by
  refine seen_keeps fun n x n' hn _ heff => ?_
  cases heff
  exact hP _ hn

/-- What one more start in the log keeps. -/
def KeptByStart (P : StoreView → Prop) : Prop :=
  ∀ w st, P w → st.loaded .zooCfg = w.live.bind w.zooCfg → st.uploads = w.uploads →
    P (w.log st)

/-- A restart keeps what one more start keeps. -/
theorem restarted_seen (hP : KeptByStart P) : (callWhen cond restarted).Keeps h (Seen P) := by
  refine seen_keeps fun n x n' hn _ heff => ?_
  cases heff
  rcases view_startService n x.alive x.ports with ⟨st, hloaded, huploads, heq⟩
  rw [heq]
  exact hP _ st hn hloaded huploads

/-- So does a call that starts the service unless it runs. -/
theorem started_seen (hP : KeptByStart P) : (callWhen cond started).Keeps h (Seen P) := by
  refine seen_keeps fun n x n' hn _ heff => ?_
  unfold started at heff
  split at heff
  · cases heff
    exact hn
  · cases heff
    rcases view_startService n x.alive x.ports with ⟨st, hloaded, huploads, heq⟩
    rw [heq]
    exact hP _ st hn hloaded huploads

end Calls

end ZooKeeper
end ClusterPlaybooks
