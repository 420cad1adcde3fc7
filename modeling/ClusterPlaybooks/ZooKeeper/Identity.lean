import ClusterPlaybooks.Ansible.Schedule
import ClusterPlaybooks.ZooKeeper.Playbooks

/-!
# Identifiers of the servers

Every {lit}`zoo.cfg` lists all servers with a number each, and the file
{lit}`myid` tells a server its own number.  The two templates compute the number
by different rules.  The server list takes it from the variable
{lit}`zookeeperMyId`, or from the last octet of the inventory name or of
{lit}`ansible_host`; the file {lit}`myid` always takes it from the last octet of
{lit}`ansible_host`.

Main results:

- Theorem {lit}`configure_ensures_written`: the {lit}`configure` role leaves both
  rendered files behind.
- Theorem {lit}`serverLines_zooCfg`: the servers a rendered {lit}`zoo.cfg` lists.
- Theorem {lit}`identity_agreement_iff`: the files of all hosts agree exactly under
  a condition on the inventory.
- Theorem {lit}`identity_disagreement`: an inventory for which they do not, in both
  modes.
-/

namespace ClusterPlaybooks
namespace ZooKeeper

open Ansible
open Service
open Text

/-! ## What the role leaves behind -/

section Written

variable {inv : Inventory} {v : Vars} {h : Host}

/-- A file of a directory is the rendered one. -/
def Written (inv : Inventory) (v : Vars) (h : Host) (d : String) (file : ConfFile)
    (n : ZkNode) : Prop :=
  ∃ c, render inv v file h = some c ∧ n.fileAt d file = some c

/-- A successful template call writes the rendered file. -/
theorem template_written {d : String} {file : ConfFile} {reg : Option String}
    {P : ZkNode → Prop} :
    (call (template d file (render inv v file) reg)).Gives h P (Written inv v h d file) := by
  apply call_gives
  intro n x n' _ heff
  rcases template_fileAt heff with ⟨c, hc, hfile⟩
  exact ⟨c, hc, by rw [hfile, if_pos ⟨rfl, rfl⟩]⟩

/-- A template call for another file leaves it alone. -/
theorem template_keeps_written {d e : String} {file other : ConfFile} (hne : file ≠ other)
    {render' : Host → Option ConfigFile} {reg : Option String} :
    (call (template e other render' reg)).Keeps h (Written inv v h d file) := by
  apply call_keeps
  intro n x n' hn heff
  rcases hn with ⟨c, hc, hfile⟩
  rcases template_fileAt heff with ⟨c', _, hother⟩
  exact ⟨c, hc, by rw [hother, if_neg fun heq => hne heq.2, hfile]⟩

/-- The {lit}`configure` role leaves {lit}`zoo.cfg` and {lit}`myid` behind. -/
theorem configure_ensures_written :
    Ensures calm h (fun _ => True) ((configure inv v).flatMap Task.items)
      (fun n => Written inv v h v.zookeeperDataDir .myid n ∧
        Written inv v h v.versionDir .zooCfg n) := by
  have hkeep : ∀ {file : ConfFile}, file ≠ .myid → file ≠ .zooCfg →
      (call (template v.versionDir file (render inv v file) (some "configStatus"))).Gives h
        (fun n => Written inv v h v.zookeeperDataDir .myid n ∧
          Written inv v h v.versionDir .zooCfg n)
        (fun n => Written inv v h v.zookeeperDataDir .myid n ∧
          Written inv v h v.versionDir .zooCfg n) := by
    intro file hmyid hzooCfg
    refine Action.Gives.and ?_ ?_
    · exact (template_keeps_written hmyid.symm).gives.consequence (fun _ hn => hn.1) fun _ hn => hn
    · exact (template_keeps_written hzooCfg.symm).gives.consequence (fun _ hn => hn.2)
        fun _ hn => hn
  refine Ensures.cons (stable_calm _) (stable_calm _) template_written ?_
  refine Ensures.cons (stable_calm _) (stable_calm _)
    ((template_keeps_written (by decide)).gives.and template_written) ?_
  refine Ensures.cons (stable_calm _) (stable_calm _) (hkeep (by decide) (by decide)) ?_
  refine Ensures.cons (stable_calm _) (stable_calm _) (hkeep (by decide) (by decide)) ?_
  exact Ensures.single (stable_calm _) (stable_calm _) (hkeep (by decide) (by decide))

end Written

/-! ## The server list -/

/-- The line sets a server. -/
def isServerLine : Line → Bool
  | .entry key _ => "server.".toList.isPrefixOf key.toList
  | .text _ => false

/-- The lines of a file that set servers. -/
def serverLines (f : ConfigFile) : ConfigFile :=
  f.filter isServerLine

/-- Different servers have different lines. -/
theorem serverLine_injective : Function.Injective serverLine := by
  rintro ⟨a, m⟩ ⟨b, n⟩ hline
  simp only [serverLine, Line.entry.injEq, String.append_right_inj, String.append_left_inj]
    at hline
  rw [hline.2, toString_injective hline.1]

/-- The servers a rendered {lit}`zoo.cfg` lists. -/
theorem serverLines_zooCfg {inv : Inventory} {v : Vars} {f : ConfigFile}
    (hf : zooCfg inv v = some f) :
    ∃ servers, inv.clusterNodes.mapM (serverOf inv v) = some servers ∧
      serverLines f = servers.map serverLine := by
  rcases zooCfg_eq_some hf with ⟨lines, ssl, hlines, hssl, rfl⟩
  rcases Option.map_eq_some_iff.mp hlines with ⟨servers, hservers, rfl⟩
  refine ⟨servers, hservers, ?_⟩
  have hservers' : serverLines (servers.map serverLine) = servers.map serverLine := by
    refine List.filter_eq_self.mpr fun l hl => ?_
    rcases List.mem_map.mp hl with ⟨server, _, rfl⟩
    simp [serverLine, isServerLine]
  have hgeneral : serverLines (generalSettings v) = [] := by
    simp [serverLines, generalSettings, isServerLine]
  have hmetrics : serverLines (metricsProvider v) = [] := by
    unfold metricsProvider
    split <;> simp [serverLines, isServerLine]
  have hsasl : serverLines (saslBlock v) = [] := by
    unfold saslBlock
    split <;> simp [serverLines, isServerLine]
  have hssl' : serverLines ssl = [] := by
    rw [sslBlock_eq_some hssl]
    split <;> simp [serverLines, sslSettings, isServerLine]
  simp only [serverLines] at hgeneral hmetrics hsasl hssl' hservers' ⊢
  simp [List.filter_append, hgeneral, hmetrics, hsasl, hssl', hservers', isServerLine]

/-! ## Agreement -/

/-- The address the server list gives to a host when it goes by addresses. -/
def listedAddress (inv : Inventory) (h : Host) : String :=
  if isIpv4 h then h else (inv.hostvars h).ansibleHost

/-- The address of a host: its full name when the server list goes by names. -/
def ownAddress (inv : Inventory) (v : Vars) (h : Host) : String :=
  if v.zookeeperUserGeneratedMyId then (inv.hostvars h).ansibleFqdn
  else (inv.hostvars h).ansibleHost

/-- On every host all calls of the {lit}`configure` role succeeded. -/
def Configured (inv : Inventory) (v : Vars) (nodes : Host → ZkNode) : Prop :=
  ∀ h ∈ inv.clusterNodes, ∃ n, Path calm h ((configure inv v).flatMap Task.items) n (nodes h)

/--
All hosts list the same servers, with different numbers and one line for each
host, and the number in {lit}`myid` is the one in the line with the host's address.
-/
def Agreement (inv : Inventory) (v : Vars) (nodes : Host → ZkNode) : Prop :=
  ∃ servers : List (String × Nat),
    (∀ h ∈ inv.clusterNodes, ∃ f, (nodes h).fileAt v.versionDir .zooCfg = some f ∧
      serverLines f = servers.map serverLine) ∧
    (servers.map Prod.snd).Nodup ∧ servers.length = inv.clusterNodes.length ∧
    ∀ h ∈ inv.clusterNodes, ∃ id, (ownAddress inv v h, id) ∈ servers ∧
      (nodes h).fileAt v.zookeeperDataDir .myid = some [.text (toString id)]

/-- Inventories with distinct addresses, and with distinct numbers and names where they are used. -/
structure Addressed (inv : Inventory) (v : Vars) : Prop where
  addresses : ∀ h ∈ inv.clusterNodes, ∃ x : Ipv4, (inv.hostvars h).ansibleHost = x.text
  distinct : ∀ h ∈ inv.clusterNodes, ∀ k ∈ inv.clusterNodes,
    (inv.hostvars h).ansibleHost = (inv.hostvars k).ansibleHost → h = k
  ids : v.zookeeperUserGeneratedMyId = true → ∀ h ∈ inv.clusterNodes,
    ∃ id, 0 < id ∧ (inv.hostvars h).zookeeperMyId = some id
  distinctIds : v.zookeeperUserGeneratedMyId = true → ∀ h ∈ inv.clusterNodes,
    ∀ k ∈ inv.clusterNodes,
      (inv.hostvars h).zookeeperMyId = (inv.hostvars k).zookeeperMyId → h = k
  distinctNames : v.zookeeperUserGeneratedMyId = true → ∀ h ∈ inv.clusterNodes,
    ∀ k ∈ inv.clusterNodes, (inv.hostvars h).ansibleFqdn = (inv.hostvars k).ansibleFqdn → h = k

/--
User-defined numbers are the last octets of {lit}`ansible_host`.  Otherwise the last
octets of the listed addresses differ, and they are the addresses of the hosts.
-/
def IdsAgree (inv : Inventory) (v : Vars) : Prop :=
  if v.zookeeperUserGeneratedMyId then
    ∀ h ∈ inv.clusterNodes, (inv.hostvars h).zookeeperMyId.map Int.natAbs =
      lastOctet (inv.hostvars h).ansibleHost
  else
    (∀ h ∈ inv.clusterNodes, ∀ k ∈ inv.clusterNodes,
      lastOctet (listedAddress inv h) = lastOctet (listedAddress inv k) → h = k) ∧
    ∀ h ∈ inv.clusterNodes, ∃ k ∈ inv.clusterNodes,
      listedAddress inv k = (inv.hostvars h).ansibleHost

section Agree

variable {inv : Inventory} {v : Vars} {nodes : Host → ZkNode}

/-- The server of a host. -/
def server (inv : Inventory) (v : Vars) (h : Host) : String × Nat :=
  (serverOf inv v h).getD ("", 0)

/-- Every listed address has a last octet. -/
theorem lastOctet_listed (haddr : Addressed inv v) {h : Host} (hh : h ∈ inv.clusterNodes) :
    ∃ id, lastOctet (listedAddress inv h) = some id := by
  unfold listedAddress
  split
  · rename_i hname
    rcases (isIpv4_iff h).mp hname with ⟨x, hx⟩
    exact ⟨x.d.val, by rw [← hx, lastOctet_text]⟩
  · rcases haddr.addresses h hh with ⟨x, hx⟩
    exact ⟨x.d.val, by rw [hx, lastOctet_text]⟩

/-- The server list by names. -/
theorem serverOf_user (hmode : v.zookeeperUserGeneratedMyId = true) (h : Host) :
    serverOf inv v h = (inv.hostvars h).zookeeperMyId.map fun id =>
      ((inv.hostvars h).ansibleFqdn, id.natAbs) := by
  rw [serverOf, if_pos hmode]

/-- The server list by addresses. -/
theorem serverOf_listed (hmode : v.zookeeperUserGeneratedMyId = false) (h : Host) :
    serverOf inv v h = (lastOctet (listedAddress inv h)).map fun id =>
      (listedAddress inv h, id) := by
  rw [serverOf, if_neg (by simp [hmode])]
  rfl

/-- Every host has a server. -/
theorem serverOf_eq_server (haddr : Addressed inv v) {h : Host} (hh : h ∈ inv.clusterNodes) :
    serverOf inv v h = some (server inv v h) := by
  have hsome : ∃ server, serverOf inv v h = some server := by
    cases hmode : v.zookeeperUserGeneratedMyId with
    | true =>
        rcases haddr.ids hmode h hh with ⟨id, _, hid⟩
        exact ⟨_, by rw [serverOf_user hmode, hid, Option.map_some]⟩
    | false =>
        rcases lastOctet_listed haddr hh with ⟨id, hid⟩
        exact ⟨_, by rw [serverOf_listed hmode, hid, Option.map_some]⟩
  rcases hsome with ⟨_, heq⟩
  rw [server, heq, Option.getD_some]

/-- The listed servers are those of the hosts. -/
theorem mapM_serverOf (haddr : Addressed inv v) :
    inv.clusterNodes.mapM (serverOf inv v) = some (inv.clusterNodes.map (server inv v)) := by
  have hall : ∀ hosts : List Host, (∀ h ∈ hosts, h ∈ inv.clusterNodes) →
      hosts.mapM (serverOf inv v) = some (hosts.map (server inv v)) := by
    intro hosts hsub
    induction hosts with
    | nil => rfl
    | cons h hs ih =>
        rw [List.mapM_cons, serverOf_eq_server haddr (hsub h List.mem_cons_self),
          ih fun k hk => hsub k (List.mem_cons_of_mem h hk)]
        rfl
  exact hall inv.clusterNodes fun _ hh => hh

/-- What the configured files contain. -/
theorem Configured.files (haddr : Addressed inv v) (hconf : Configured inv v nodes) {h : Host}
    (hh : h ∈ inv.clusterNodes) :
    (∃ f, (nodes h).fileAt v.versionDir .zooCfg = some f ∧
      serverLines f = (inv.clusterNodes.map (server inv v)).map serverLine) ∧
    ∃ id, lastOctet (inv.hostvars h).ansibleHost = some id ∧
      (nodes h).fileAt v.zookeeperDataDir .myid = some [.text (toString id)] := by
  rcases hconf h hh with ⟨n, hpath⟩
  rcases configure_ensures_written n _ trivial hpath with ⟨⟨m, hm, hmyid⟩, f, hf, hzooCfg⟩
  constructor
  · rcases serverLines_zooCfg hf with ⟨servers, hservers, hlines⟩
    rw [mapM_serverOf haddr] at hservers
    cases hservers
    exact ⟨f, hzooCfg, hlines⟩
  · rcases Option.map_eq_some_iff.mp hm with ⟨id, hid, rfl⟩
    exact ⟨id, hid, hmyid⟩

/-- Agreement is a matter of the servers and of the last octets. -/
theorem agreement_iff_servers (haddr : Addressed inv v) (hconf : Configured inv v nodes) :
    Agreement inv v nodes ↔
      (∀ h ∈ inv.clusterNodes, ∀ k ∈ inv.clusterNodes,
        (server inv v h).2 = (server inv v k).2 → h = k) ∧
      ∀ h ∈ inv.clusterNodes, ∃ k ∈ inv.clusterNodes,
        (server inv v k).1 = ownAddress inv v h ∧
          lastOctet (inv.hostvars h).ansibleHost = some (server inv v k).2 := by
  rw [← List.nodup_map_iff_inj_on inv.nodup]
  constructor
  · rintro ⟨servers, hfiles, hnodup, _, hmine⟩
    -- a configured host shows that no other list of servers fits the files
    have hservers : ∀ h ∈ inv.clusterNodes, servers = inv.clusterNodes.map (server inv v) := by
      intro h hh
      rcases hfiles h hh with ⟨f, hf, hlines⟩
      rcases (hconf.files haddr hh).1 with ⟨f', hf', hlines'⟩
      rw [hf] at hf'
      cases hf'
      rw [hlines] at hlines'
      exact List.map_injective_iff.mpr serverLine_injective hlines'
    constructor
    · cases hhosts : inv.clusterNodes with
      | nil => exact List.nodup_nil
      | cons h hs =>
          have hh : h ∈ inv.clusterNodes := by simp [hhosts]
          rw [hservers h hh, List.map_map, hhosts] at hnodup
          exact hnodup
    · intro h hh
      rcases hmine h hh with ⟨id, hid, hmyid⟩
      rcases (hconf.files haddr hh).2 with ⟨octet, hoctet, hmyid'⟩
      rw [hservers h hh] at hid
      rcases List.mem_map.mp hid with ⟨k, hk, heq⟩
      rw [hmyid] at hmyid'
      have hsame : id = octet := by
        simp only [Option.some.injEq, List.cons.injEq, Line.text.injEq, and_true] at hmyid'
        exact toString_injective hmyid'
      exact ⟨k, hk, by rw [heq], by rw [heq, hoctet, hsame]⟩
  · rintro ⟨hnodup, hmine⟩
    refine ⟨inv.clusterNodes.map (server inv v), fun h hh => (hconf.files haddr hh).1, ?_,
      List.length_map _, ?_⟩
    · rw [List.map_map]
      exact hnodup
    · intro h hh
      rcases hmine h hh with ⟨k, hk, haddress, hoctet⟩
      rcases (hconf.files haddr hh).2 with ⟨id, hid, hmyid⟩
      rw [hoctet] at hid
      cases hid
      exact ⟨(server inv v k).2, List.mem_map.mpr ⟨k, hk, Prod.ext haddress rfl⟩, hmyid⟩

/-- With user-defined numbers the files agree if the numbers are the last octets. -/
theorem servers_agree_user (haddr : Addressed inv v)
    (hmode : v.zookeeperUserGeneratedMyId = true) :
    ((∀ h ∈ inv.clusterNodes, ∀ k ∈ inv.clusterNodes,
        (server inv v h).2 = (server inv v k).2 → h = k) ∧
      ∀ h ∈ inv.clusterNodes, ∃ k ∈ inv.clusterNodes,
        (server inv v k).1 = ownAddress inv v h ∧
          lastOctet (inv.hostvars h).ansibleHost = some (server inv v k).2) ↔
      ∀ h ∈ inv.clusterNodes, (inv.hostvars h).zookeeperMyId.map Int.natAbs =
        lastOctet (inv.hostvars h).ansibleHost := by
  have hserver : ∀ h ∈ inv.clusterNodes, ∃ id, 0 < id ∧
      (inv.hostvars h).zookeeperMyId = some id ∧
      server inv v h = ((inv.hostvars h).ansibleFqdn, id.natAbs) := by
    intro h hh
    rcases haddr.ids hmode h hh with ⟨id, hpos, hid⟩
    refine ⟨id, hpos, hid, ?_⟩
    rw [server, serverOf_user hmode, hid, Option.map_some, Option.getD_some]
  have hown : ∀ h, ownAddress inv v h = (inv.hostvars h).ansibleFqdn := by
    intro h
    rw [ownAddress, if_pos hmode]
  constructor
  · rintro ⟨_, hmine⟩ h hh
    rcases hmine h hh with ⟨k, hk, haddress, hoctet⟩
    rcases hserver k hk with ⟨id, _, hid, heq⟩
    rw [heq, hown] at haddress
    have hkh : k = h := haddr.distinctNames hmode k hk h hh haddress
    rw [hoctet, ← hkh, hid, heq, Option.map_some]
  · intro hids
    constructor
    · intro h hh k hk hsame
      rcases hserver h hh with ⟨id, hpos, hid, heq⟩
      rcases hserver k hk with ⟨id', hpos', hid', heq'⟩
      rw [heq, heq'] at hsame
      have hsame : id.natAbs = id'.natAbs := hsame
      have hids : id = id' := by omega
      exact haddr.distinctIds hmode h hh k hk (by rw [hid, hid', hids])
    · intro h hh
      rcases hserver h hh with ⟨id, _, hid, heq⟩
      refine ⟨h, hh, by rw [heq, hown], ?_⟩
      rw [← hids h hh, hid, heq, Option.map_some]

/-- With addresses the files agree if the last octets differ and the addresses are those listed. -/
theorem servers_agree_listed (haddr : Addressed inv v)
    (hmode : v.zookeeperUserGeneratedMyId = false) :
    ((∀ h ∈ inv.clusterNodes, ∀ k ∈ inv.clusterNodes,
        (server inv v h).2 = (server inv v k).2 → h = k) ∧
      ∀ h ∈ inv.clusterNodes, ∃ k ∈ inv.clusterNodes,
        (server inv v k).1 = ownAddress inv v h ∧
          lastOctet (inv.hostvars h).ansibleHost = some (server inv v k).2) ↔
      (∀ h ∈ inv.clusterNodes, ∀ k ∈ inv.clusterNodes,
        lastOctet (listedAddress inv h) = lastOctet (listedAddress inv k) → h = k) ∧
      ∀ h ∈ inv.clusterNodes, ∃ k ∈ inv.clusterNodes,
        listedAddress inv k = (inv.hostvars h).ansibleHost := by
  have hserver : ∀ h ∈ inv.clusterNodes, (server inv v h).1 = listedAddress inv h ∧
      lastOctet (listedAddress inv h) = some (server inv v h).2 := by
    intro h hh
    rcases lastOctet_listed haddr hh with ⟨id, hid⟩
    rw [server, serverOf_listed hmode, hid, Option.map_some, Option.getD_some]
    exact ⟨rfl, rfl⟩
  have hown : ∀ h, ownAddress inv v h = (inv.hostvars h).ansibleHost := by
    intro h
    rw [ownAddress, if_neg (by simp [hmode])]
  constructor
  · rintro ⟨hdistinct, hmine⟩
    constructor
    · intro h hh k hk hsame
      rw [(hserver h hh).2, (hserver k hk).2] at hsame
      exact hdistinct h hh k hk (Option.some.inj hsame)
    · intro h hh
      rcases hmine h hh with ⟨k, hk, haddress, _⟩
      exact ⟨k, hk, by rw [← (hserver k hk).1, haddress, hown]⟩
  · rintro ⟨hdistinct, hlisted⟩
    constructor
    · intro h hh k hk hsame
      exact hdistinct h hh k hk (by rw [(hserver h hh).2, (hserver k hk).2, hsame])
    · intro h hh
      rcases hlisted h hh with ⟨k, hk, haddress⟩
      exact ⟨k, hk, by rw [(hserver k hk).1, haddress, hown], by rw [← haddress, (hserver k hk).2]⟩

end Agree

/--
After the {lit}`configure` role has run on every host, the server lists and the
identity files agree exactly if the numbers of the server list are the last octets of
{lit}`ansible_host` and differ.
-/
theorem identity_agreement_iff (inv : Inventory) (v : Vars) (haddr : Addressed inv v)
    {nodes : Host → ZkNode} (hconf : Configured inv v nodes) :
    Agreement inv v nodes ↔ IdsAgree inv v := by
  rw [agreement_iff_servers haddr hconf, IdsAgree]
  cases hmode : v.zookeeperUserGeneratedMyId with
  | true =>
      rw [if_pos rfl]
      exact servers_agree_user haddr hmode
  | false =>
      rw [if_neg (by decide)]
      exact servers_agree_listed haddr hmode

/-! ## Inventories -/

/-- A machine with the two directories of the role and nothing in them. -/
def blankNode (v : Vars) : ZkNode where
  dirs := fun d =>
    if d = v.versionDir ∨ d = v.zookeeperDataDir then some ⟨true, fun _ => none⟩ else none
  live := some v.versionDir
  uploads := fun _ => false
  process := none
  openPorts := []
  regs := fun _ => none
  starts := []

/-- A blank machine after the {lit}`configure` role, if the role succeeds. -/
def configureCalls (inv : Inventory) (v : Vars) (h : Host) : Option ZkNode :=
  makeCalls h (Choice.good []) ((configure inv v).flatMap Task.items) (blankNode v)

/-- Blank machines on which the role succeeds are configured. -/
theorem configured_of_calls {inv : Inventory} {v : Vars}
    (hcalls : ∀ h ∈ inv.clusterNodes, (configureCalls inv v h).isSome = true) :
    Configured inv v fun h => (configureCalls inv v h).getD (blankNode v) := by
  intro h hh
  rcases Option.isSome_iff_exists.mp (hcalls h hh) with ⟨n, hn⟩
  have hpath : Path calm h ((configure inv v).flatMap Task.items) (blankNode v) n :=
    path_makeCalls calm hn
  exact ⟨blankNode v, by simpa only [hn, Option.getD_some] using hpath⟩

/-- A check for the conditions on an inventory. -/
theorem addressed_of_check {inv : Inventory} {v : Vars}
    (haddr : ∀ h ∈ inv.clusterNodes, isIpv4 (inv.hostvars h).ansibleHost = true ∧
      (inv.hostvars h).zookeeperMyId.any (fun id => decide (0 < id)) = true)
    (hdistinct : ∀ h ∈ inv.clusterNodes, ∀ k ∈ inv.clusterNodes,
      ((inv.hostvars h).ansibleHost = (inv.hostvars k).ansibleHost ∨
        (inv.hostvars h).zookeeperMyId = (inv.hostvars k).zookeeperMyId ∨
        (inv.hostvars h).ansibleFqdn = (inv.hostvars k).ansibleFqdn) → h = k) :
    Addressed inv v where
  addresses := fun h hh => ((isIpv4_iff _).mp (haddr h hh).1).imp fun _ => Eq.symm
  distinct := fun h hh k hk heq => hdistinct h hh k hk (Or.inl heq)
  ids := by
    intro _ h hh
    rcases (Option.any_eq_true _ _).mp (haddr h hh).2 with ⟨id, hid, hpos⟩
    exact ⟨id, by simpa using hpos, hid⟩
  distinctIds := fun _ h hh k hk heq => hdistinct h hh k hk (Or.inr (Or.inl heq))
  distinctNames := fun _ h hh k hk heq => hdistinct h hh k hk (Or.inr (Or.inr heq))

/-- The development inventory uses the last octets as numbers. -/
theorem identity_agreement_development :
    Agreement developmentInventory developmentVars fun h =>
      (configureCalls developmentInventory developmentVars h).getD (blankNode developmentVars) := by
  have hids : ∀ h ∈ developmentInventory.clusterNodes,
      (developmentInventory.hostvars h).zookeeperMyId.map Int.natAbs =
        lastOctet (developmentInventory.hostvars h).ansibleHost := by
    decide
  exact (identity_agreement_iff developmentInventory developmentVars
    (addressed_of_check (by decide) (by decide))
    (configured_of_calls (by decide +kernel))).mpr hids

/-- Two hosts in different subnets. -/
def subnetInventory : Inventory where
  clusterNodes := ["zookeeper1.localhost", "zookeeper2.localhost"]
  nodup := by decide
  localhost := "localhost"
  hostvars := fun h =>
    if h = "zookeeper1.localhost" then ⟨"10.2.119.55", h, some 1⟩ else ⟨"10.2.142.55", h, some 2⟩

/-- Variables for a server list by addresses. -/
def addressVars : Vars :=
  { developmentVars with zookeeperUserGeneratedMyId := false }

/--
Without user-defined numbers two hosts in different subnets get the same number, and
with user-defined numbers {lit}`myid` is another one than in the server list.
-/
theorem identity_disagreement :
    (∃ nodes, Addressed subnetInventory addressVars ∧
      Configured subnetInventory addressVars nodes ∧
      ¬ Agreement subnetInventory addressVars nodes) ∧
    ∃ nodes, Addressed subnetInventory developmentVars ∧
      Configured subnetInventory developmentVars nodes ∧
      ¬ Agreement subnetInventory developmentVars nodes := by
  have haddr : ∀ v, Addressed subnetInventory v := fun v =>
    addressed_of_check (by decide) (by decide)
  have hconf : Configured subnetInventory addressVars _ := configured_of_calls (by decide +kernel)
  have hconf' : Configured subnetInventory developmentVars _ :=
    configured_of_calls (by decide +kernel)
  refine ⟨⟨_, haddr _, hconf, fun hagree => ?_⟩, ⟨_, haddr _, hconf', fun hagree => ?_⟩⟩
  · rcases (agreement_iff_servers (haddr _) hconf).mp hagree with ⟨hdistinct, _⟩
    have hsame : ("zookeeper1.localhost" : Host) = "zookeeper2.localhost" :=
      hdistinct _ (by decide) _ (by decide) (by decide)
    exact absurd hsame (by decide)
  · rcases (agreement_iff_servers (haddr _) hconf').mp hagree with ⟨_, hmine⟩
    have hnone : ¬ ∃ k ∈ subnetInventory.clusterNodes,
        (server subnetInventory developmentVars k).1 =
          ownAddress subnetInventory developmentVars "zookeeper1.localhost" ∧
        lastOctet (subnetInventory.hostvars "zookeeper1.localhost").ansibleHost =
          some (server subnetInventory developmentVars k).2 := by
      decide
    exact hnone (hmine "zookeeper1.localhost" (by decide))

end ZooKeeper
end ClusterPlaybooks
