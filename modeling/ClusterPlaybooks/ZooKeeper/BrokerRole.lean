import ClusterPlaybooks.Text.LineEdits

/-!
# The role that sets up a ZooKeeper broker

The role writes the number of the broker into the file {lit}`myid` of its data directory, and
renders {lit}`zoo.cfg` with a line for every broker of the cluster.  The number is written with
the line editor and not with a template, so a number that was written before stays.  The lines
of {lit}`zoo.cfg` are written without the key {lit}`server.` that ZooKeeper reads.

Main results:

- Theorem {lit}`myid_runs`: the lines of {lit}`myid` after any runs of the role.
- Theorem {lit}`zooCfg_no_server`: no line of {lit}`zoo.cfg` is a server line.
- Theorem {lit}`oneIdentity_iff`: when the two files give the broker its identity.
-/

namespace ClusterPlaybooks
namespace BrokerRole

open Text

/-! ## The role -/

/-- An entry of {lit}`cluster_infos`. -/
structure ClusterInfo where
  brokerId : Nat
  hostname : OneLine
  listenPort2 : Nat
  listenPort3 : Nat
deriving DecidableEq

/-- The values of {lit}`cluster_type`. -/
inductive ClusterType where
  | standalone
  | cluster
deriving DecidableEq, Repr

/-- The variables of the role. -/
structure Vars where
  dataDir : OneLine
  configDir : OneLine
  logDir : OneLine
  listenPort : Nat
  clusterType : ClusterType
  brokerId : Nat
  clusterInfos : List ClusterInfo

/-- What the role leaves on a host. -/
structure Disk where
  dirs : List OneLine
  myid : Option TextFile
  zooCfg : Option TextFile
deriving DecidableEq

/-- A line of the cluster block of {lit}`zoo.cfg.j2`. -/
def infoLine (info : ClusterInfo) : List Char :=
  Nat.toDigits 10 info.brokerId ++ ':' :: (info.hostname.text ++
    ':' :: (Nat.toDigits 10 info.listenPort2 ++ ':' :: Nat.toDigits 10 info.listenPort3))

/-- The template {lit}`zoo.cfg.j2` before its cluster block. -/
def zooCfgStart (v : Vars) : TextFile :=
  ["# 服务器与客户端通信心跳 (毫秒)".toList, "# 集群内部通信心跳 (毫秒)".toList,
    "tickTime=2000".toList, [],
    "# Leader与Follower初始化时经历心跳数最大容忍次数".toList,
    "# 超出则任务集群构建失败".toList, "initLimit=20".toList, [],
    "# Leader与Follower通信如果超出心跳数则认为Follower离线".toList,
    "syncLimit=10".toList, [],
    "# 数据目录".toList, "dataDir=".toList ++ v.dataDir.text, [],
    "# 监听端口".toList, "clientPort=".toList ++ Nat.toDigits 10 v.listenPort, [],
    "# admin server".toList, "admin.enableServer=false".toList, []]

/-- The template {lit}`zoo.cfg.j2`. -/
def zooCfg (v : Vars) : TextFile :=
  zooCfgStart v ++ match v.clusterType with
  | .cluster => "# 集群信息".toList :: v.clusterInfos.map infoLine
  | .standalone => []

/-- The task {lit}`file` with {lit}`state: directory`. -/
def createDir (dir : OneLine) (s : Disk) : Disk :=
  { s with dirs := if dir ∈ s.dirs then s.dirs else dir :: s.dirs }

/-- The task {lit}`create myid file in data dir`. -/
def createMyid (v : Vars) (s : Disk) : Disk :=
  match v.clusterType with
  | .cluster =>
      { s with myid := some (ensureLine (Nat.toDigits 10 v.brokerId) (s.myid.getD [])) }
  | .standalone => s

/-- The task {lit}`copy configuration file`. -/
def copyConfiguration (v : Vars) (s : Disk) : Disk :=
  { s with zooCfg := some (zooCfg v) }

/--
A run of the role.  The tasks after these write the unit file and start the service; they
leave the two files alone.
-/
def role (v : Vars) (s : Disk) : Disk :=
  copyConfiguration v (createDir v.logDir (createDir v.configDir
    (createMyid v (createDir v.dataDir s))))

/-- A host on which the role has not run. -/
def Disk.fresh : Disk where
  dirs := []
  myid := none
  zooCfg := none

/-- Runs of the role with the given numbers, one after the other. -/
def runs (v : Vars) (ids : List Nat) : Disk :=
  ids.foldl (fun s id => role { v with brokerId := id } s) Disk.fresh

/-! ## The two files -/

/-- A line by which {lit}`zoo.cfg` tells ZooKeeper of a server. -/
def serverLine (info : ClusterInfo) : List Char :=
  "server.".toList ++ (Nat.toDigits 10 info.brokerId ++ '=' :: (info.hostname.text ++
    ':' :: (Nat.toDigits 10 info.listenPort2 ++ ':' :: Nat.toDigits 10 info.listenPort3)))

/-- The files give the broker its identity. -/
structure OneIdentity (v : Vars) (id : Nat) (s : Disk) : Prop where
  /-- The file {lit}`myid` holds the number and nothing else. -/
  myid : s.myid = some [Nat.toDigits 10 id]
  /-- There is one server line for every entry of the cluster. -/
  servers : ∀ info ∈ v.clusterInfos, (s.zooCfg.getD []).count (serverLine info) = 1

/-- The broker has its identity after each of the runs. -/
def IdentityAfterEach (v : Vars) (ids : List Nat) : Prop :=
  ∀ before id, before ++ [id] <+: ids → OneIdentity v id (runs v (before ++ [id]))

variable {v : Vars}

/-- One more run. -/
theorem runs_concat (before : List Nat) (id : Nat) :
    runs v (before ++ [id]) = role { v with brokerId := id } (runs v before) := by
  simp [runs]

/-- A run of the role in a cluster ensures the line of its number. -/
theorem role_myid (hcluster : v.clusterType = .cluster) (s : Disk) :
    (role v s).myid = some (ensureLine (Nat.toDigits 10 v.brokerId) (s.myid.getD [])) := by
  simp [role, copyConfiguration, createDir, createMyid, hcluster]

/-- The lines of {lit}`myid` after any runs of the role. -/
theorem myid_runs (hcluster : v.clusterType = .cluster) (ids : List Nat) :
    (runs v ids).myid.getD [] = ensureLines [] (ids.map (Nat.toDigits 10)) := by
  induction ids using List.reverseRecOn with
  | nil => rfl
  | append_singleton before id ih =>
      rw [runs_concat, role_myid (v := { v with brokerId := id }) hcluster, Option.getD_some, ih]
      simp [ensureLines]

/-- After at least one run the file is there. -/
theorem myid_runs_concat (hcluster : v.clusterType = .cluster) (before : List Nat) (id : Nat) :
    (runs v (before ++ [id])).myid =
      some (ensureLines [] ((before ++ [id]).map (Nat.toDigits 10))) := by
  rw [← myid_runs hcluster, runs_concat, role_myid (v := { v with brokerId := id }) hcluster]
  rfl

/-- How a server line begins; ZooKeeper looks for this key. -/
def beginsServer (l : List Char) : Bool :=
  "server.".toList.isPrefixOf l

/-- A line of the cluster block begins with a digit. -/
theorem beginsServer_infoLine (info : ClusterInfo) : beginsServer (infoLine info) = false := by
  have hall := all_isDigit_toDigits info.brokerId
  have hne : Nat.toDigits 10 info.brokerId ≠ [] := Nat.toDigits_ne_nil
  unfold infoLine
  generalize Nat.toDigits 10 info.brokerId = w at hall hne
  cases w with
  | nil => exact absurd rfl hne
  | cons c w =>
      have hc : c.isDigit = true := by
        simp only [List.all_cons, Bool.and_eq_true] at hall
        exact hall.1
      have hs : c ≠ 's' := by
        rintro rfl
        simp at hc
      simp [beginsServer, List.isPrefixOf, hs.symm]

/-- No line of {lit}`zoo.cfg` begins like a server line. -/
theorem beginsServer_zooCfg {l : List Char} (hl : l ∈ zooCfg v) : beginsServer l = false := by
  have hstart : (zooCfgStart v).all (fun l => !beginsServer l) = true := by
    simp [zooCfgStart, beginsServer, List.isPrefixOf]
  rcases List.mem_append.mp hl with hfixed | hcluster
  · simpa using List.all_eq_true.mp hstart l hfixed
  · cases htype : v.clusterType with
    | standalone => simp [htype] at hcluster
    | cluster =>
        simp only [htype, List.mem_cons, List.mem_map] at hcluster
        rcases hcluster with rfl | ⟨info, _, rfl⟩
        · rfl
        · exact beginsServer_infoLine info

/-- No line of {lit}`zoo.cfg` is a server line. -/
theorem zooCfg_no_server (info : ClusterInfo) : serverLine info ∉ zooCfg v := by
  intro hmem
  have hbegins : beginsServer (serverLine info) = true :=
    List.isPrefixOf_iff_prefix.mpr (List.prefix_append _ _)
  rw [beginsServer_zooCfg hmem] at hbegins
  cases hbegins

/-- The file {lit}`zoo.cfg` after at least one run. -/
theorem zooCfg_runs_concat (before : List Nat) (id : Nat) :
    (runs v (before ++ [id])).zooCfg = some (zooCfg { v with brokerId := id }) := by
  rw [runs_concat]
  rfl

/-! ## When the broker has its identity -/

/-- Different numbers are different lines, so the last one is alone only if all are equal. -/
theorem myid_single_iff (hcluster : v.clusterType = .cluster) (before : List Nat) (id : Nat) :
    (runs v (before ++ [id])).myid = some [Nat.toDigits 10 id] ↔ ∀ b ∈ before, b = id := by
  rw [myid_runs_concat hcluster, Option.some.injEq]
  constructor
  · intro hsingle b hb
    have hmem : Nat.toDigits 10 b ∈ ensureLines [] ((before ++ [id]).map (Nat.toDigits 10)) :=
      mem_ensureLines.mpr (Or.inr (List.mem_map_of_mem (List.mem_append_left _ hb)))
    rw [hsingle, List.mem_singleton] at hmem
    exact toDigits_injective hmem
  · intro hsame
    cases before with
    | nil => simp [ensureLines]
    | cons b rest =>
        obtain rfl : b = id := hsame b List.mem_cons_self
        rw [List.cons_append, List.map_cons, ensureLines_cons, ensureLine_nil]
        apply ensureLines_constant
        intro l hl
        rcases List.mem_map.mp hl with ⟨c, hc, rfl⟩
        rcases List.mem_append.mp hc with hrest | hlast
        · rw [hsame c (List.mem_cons_of_mem _ hrest)]
        · rw [List.mem_singleton.mp hlast]

/-- The server lines are there only if there are no servers. -/
theorem servers_iff (before : List Nat) (id : Nat) :
    (∀ info ∈ v.clusterInfos,
      ((runs v (before ++ [id])).zooCfg.getD []).count (serverLine info) = 1) ↔
    v.clusterInfos = [] := by
  rw [zooCfg_runs_concat, Option.getD_some]
  constructor
  · intro hlines
    cases hinfos : v.clusterInfos with
    | nil => rfl
    | cons info rest =>
        have hone := hlines info (by simp [hinfos])
        rw [List.count_eq_zero.mpr (zooCfg_no_server info)] at hone
        cases hone
  · intro hnil
    simp [hnil]

/--
After runs with any numbers the broker has its identity each time exactly if the cluster has no
entries and all the numbers are equal.  A cluster from which the number could be taken has an
entry.
-/
theorem oneIdentity_iff (v : Vars) (ids : List Nat) (hcluster : v.clusterType = .cluster)
    (hids : ids ≠ []) :
    IdentityAfterEach v ids ↔ v.clusterInfos = [] ∧ ∀ a ∈ ids, ∀ b ∈ ids, a = b := by
  constructor
  · intro hafter
    rcases List.eq_nil_or_concat' ids with hnil | ⟨before, id, rfl⟩
    · exact absurd hnil hids
    · have hid := hafter before id (List.prefix_refl _)
      have hsame := (myid_single_iff hcluster before id).mp hid.myid
      have hall : ∀ a ∈ before ++ [id], a = id := by
        intro a ha
        rcases List.mem_append.mp ha with hbefore | hlast
        · exact hsame a hbefore
        · exact List.mem_singleton.mp hlast
      exact ⟨(servers_iff before id).mp hid.servers, fun a ha b hb =>
        (hall a ha).trans (hall b hb).symm⟩
  · rintro ⟨hnil, hsame⟩ before id hpre
    constructor
    · apply (myid_single_iff hcluster before id).mpr
      intro b hb
      exact hsame b (hpre.subset (List.mem_append_left _ hb)) id (hpre.subset (by simp))
    · exact (servers_iff before id).mpr hnil

/-- The variables file {lit}`cluster-1.yml`, with the given entries. -/
def cluster1 (infos : List ClusterInfo) : Vars where
  dataDir := ⟨"/data/zookeeper/1".toList, by decide⟩
  configDir := ⟨"/etc/zookeeper/1".toList, by decide⟩
  logDir := ⟨"/var/log/zookeeper/1".toList, by decide⟩
  listenPort := 2181
  clusterType := .cluster
  brokerId := 1
  clusterInfos := infos

/--
With an entry for the broker, repeated runs with its number do not give it its identity.  Without
entries they would.
-/
theorem oneIdentity_iff_sample :
    ¬IdentityAfterEach (cluster1 [⟨1, ⟨"10.211.55.3".toList, by decide⟩, 2888, 3888⟩]) [1, 1] ∧
    IdentityAfterEach (cluster1 []) [1, 1] := by
  constructor
  · intro hafter
    have hnil := (oneIdentity_iff _ [1, 1] rfl (by decide)).mp hafter
    cases hnil.1
  · exact (oneIdentity_iff (cluster1 []) [1, 1] rfl (by decide)).mpr ⟨rfl, by decide⟩

/--
With two entries, a run as broker 1 leaves no server line, and a run as broker 2 after it leaves
both numbers.
-/
theorem identities_accumulate :
    (runs (cluster1 [⟨1, ⟨"10.211.55.3".toList, by decide⟩, 2888, 3888⟩,
        ⟨2, ⟨"10.211.55.3".toList, by decide⟩, 2889, 3889⟩]) [1, 2]).myid =
      some ["1".toList, "2".toList] ∧
    (zooCfg (cluster1 [⟨1, ⟨"10.211.55.3".toList, by decide⟩, 2888, 3888⟩,
        ⟨2, ⟨"10.211.55.3".toList, by decide⟩, 2889, 3889⟩])).count
      "server.1=10.211.55.3:2888:3888".toList = 0 := by
  constructor
  · rw [show [1, 2] = [1] ++ [2] from rfl, myid_runs_concat rfl]
    decide +kernel
  · apply List.count_eq_zero.mpr
    exact zooCfg_no_server ⟨1, ⟨"10.211.55.3".toList, by decide⟩, 2888, 3888⟩

end BrokerRole
end ClusterPlaybooks
