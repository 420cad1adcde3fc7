import ClusterPlaybooks.Proxysql.GaleraCheck

/-!
# Where the Galera check leaves the servers

A server that is taken out of its hostgroup waits in the maintenance group, 9000 above it, and a
server that comes back goes 9000 down.  So every row has a home, which no run of the check
changes.  As long as no two rows have the same home, no statement of the check is refused, and
one run changes all rows at the same time, each by its own action.

Main results:

- Theorem {lit}`rounds_keep_servers`: no run of the check loses, doubles or exchanges a server.
- Theorem {lit}`round_eq_policy`: one run is the policy, applied to all rows.
- Theorem {lit}`rounds_skip_names_in_s`: a server with a name that ends in {lit}`s` is never
  touched.
-/

namespace ClusterPlaybooks
namespace Proxysql

open Text Relational

/-! ## Homes -/

/-- The hostgroup that a row belongs to. -/
def homeGroup (hg : Nat) : Nat :=
  if 9000 ≤ hg then hg - 9000 else hg

/-- The key of a row at home. -/
def homeKey (k : ServerKey) : ServerKey :=
  { k with hostgroup := homeGroup k.hostgroup }

/-- The place in the table that a row belongs to. -/
def Server.home (r : Server) : ServerKey :=
  homeKey r.key

theorem Server.hostgroup_home (r : Server) : r.home.hostgroup = homeGroup r.hostgroup :=
  rfl

/-- The hostgroups of the options, the backup groups and the maintenance groups are in different
ranges. -/
def Options.Separate (o : Options) : Prop :=
  ∀ g ∈ o.groups, g.1 < 8000 ∧ (g.2 = ['w'] → g.1 < 1000)

instance (o : Options) : Decidable o.Separate :=
  inferInstanceAs (Decidable (∀ g ∈ o.groups, g.1 < 8000 ∧ (g.2 = ['w'] → g.1 < 1000)))

/-- The ranges of the managed hostgroups. -/
theorem Options.Separate.managed {o : Options} (hsep : o.Separate) {hg : Nat}
    (hmem : hg ∈ o.managed) :
    hg < 8000 ∧ 9000 + hg ∈ o.managed ∨ 8000 ≤ hg ∧ hg < 9000 ∨
      9000 ≤ hg ∧ hg < 17000 ∧ hg - 9000 ∈ o.managed := by
  rcases List.mem_flatMap.mp hmem with ⟨g, hg', hin⟩
  have hbounds := hsep g hg'
  have hfamily : ∀ x ∈ g.1 :: (g.1 + 9000) :: (if g.2 = ['w'] then [g.1 + 8000] else []),
      x ∈ o.managed := fun x hx => List.mem_flatMap.mpr ⟨g, hg', hx⟩
  simp only [List.mem_cons] at hin
  rcases hin with rfl | rfl | hin
  · left
    refine ⟨hbounds.1, ?_⟩
    rw [Nat.add_comm]
    exact hfamily _ (by simp)
  · right; right
    refine ⟨by omega, by omega, ?_⟩
    rw [Nat.add_sub_cancel]
    exact hfamily _ (by simp)
  · right; left
    split at hin
    · rename_i hwriter
      rw [List.mem_singleton] at hin
      have := hbounds.2 hwriter
      omega
    · cases hin

/-- An action leaves a row at home or brings it back there. -/
theorem Action.homeGroup_apply {a : Action} {r : Server} (hallowed : a.AllowedFor r.hostgroup)
    (hbound : r.hostgroup < 18000) :
    homeGroup (a.apply r).hostgroup = homeGroup r.hostgroup := by
  cases a with
  | moveUpOffline => simp [apply]
  | moveDownOffline => simp [apply]
  | saveRetry => simp [apply]
  | moveUpHgChange =>
      have hge : 9000 ≤ r.hostgroup := hallowed
      simp only [apply, Server.setHostgroup_fields, homeGroup]
      rw [if_neg (by omega), if_pos hge]
  | moveDownHgChange =>
      have hlt : r.hostgroup < 8000 := hallowed
      simp only [apply, Server.setHostgroup_fields, homeGroup]
      rw [if_pos (by omega), if_neg (by omega)]
      omega

/-- An action leaves the home of a row as it is. -/
theorem Action.home_apply {a : Action} {r : Server} (hallowed : a.AllowedFor r.hostgroup)
    (hbound : r.hostgroup < 18000) : (a.apply r).home = r.home := by
  simp only [Server.home, homeKey, Server.key, hostname_apply, port_apply,
    homeGroup_apply hallowed hbound]

/-! ## The actions of a run -/

/-- The actions of a run in which no connection is refused. -/
def Options.items (o : Options) (e : Env) (t : Servers) : List (Action × Node) :=
  (inKeyOrder (o.getNodes e t)).reduceOption.filterMap (o.evaluateNode (o.cluster e t))

/-- What the check has decided for one row. -/
def Options.decision (o : Options) (e : Env) (c : Cluster) (r : Server) : Option (Action × Node) :=
  if o.isVisible e r then (o.probeNode e r).bind (o.evaluateNode c) else none

/-- A visible server refuses the connection. -/
def Options.Blocked (o : Options) (e : Env) (t : Servers) : Prop :=
  ∃ r ∈ t.rows, o.isVisible e r = true ∧ e.probe r.key = .refused

/-- A run without a refused connection has the actions of its rows, in some order. -/
theorem Options.items_perm (o : Options) (e : Env) (t : Servers) :
    (o.items e t).Perm (t.rows.filterMap (o.decision e (o.cluster e t))) := by
  have hnodes := ((o.getNodes_perm e t).filterMap id).filterMap (o.evaluateNode (o.cluster e t))
  refine hnodes.trans (List.Perm.of_eq ?_)
  rw [List.filterMap_map, List.filterMap_filter, List.filterMap_filterMap]
  apply List.filterMap_congr
  intro r _
  rw [Options.decision]
  split <;> rfl

/-- The ways that one run can go: nothing if a connection is refused, all actions if there are
any, and else perhaps a failover. -/
theorem Options.round_cases (o : Options) (e : Env) (t : Servers) :
    (o.Blocked e t ∧ o.round e t = t) ∨
      (¬ o.Blocked e t ∧ o.round e t = o.pushChanges (o.items e t) t ∧
        ¬ (o.items e t = [] ∧ o.activeFailover ≠ .never ∧ (o.cluster e t).hasWriter = false)) ∨
      ¬ o.Blocked e t ∧ o.items e t = [] ∧ o.activeFailover ≠ .never ∧
        (o.cluster e t).hasWriter = false ∧
        o.round e t =
          ((o.failoverChoice (inKeyOrder (o.getNodes e t)).reduceOption).map
            (o.promoteWriter t)).getD t := by
  have hblocked : none ∈ inKeyOrder (o.getNodes e t) ↔ o.Blocked e t := by
    rw [(o.getNodes_perm e t).mem_iff, List.mem_map, Blocked]
    constructor
    · rintro ⟨r, hr, hnone⟩
      rw [List.mem_filter] at hr
      exact ⟨r, hr.1, hr.2, (probeNode_eq_none hr.2).mp hnone⟩
    · rintro ⟨r, hr, hvisible, hrefused⟩
      exact ⟨r, List.mem_filter.mpr ⟨hr, hvisible⟩, (probeNode_eq_none hvisible).mpr hrefused⟩
  rw [round, evaluateNodes_eq, ← hblocked]
  by_cases hnone : none ∈ inKeyOrder (o.getNodes e t)
  · left
    exact ⟨hnone, by rw [if_pos hnone]⟩
  · right
    simp only [hnone, if_false, not_false_eq_true, true_and, items]
    cases (inKeyOrder (o.getNodes e t)).reduceOption.filterMap (o.evaluateNode (o.cluster e t)) with
    | cons item items => exact .inl ⟨rfl, by simp⟩
    | nil =>
        simp only
        by_cases hfailover : o.activeFailover ≠ .never ∧ (o.cluster e t).hasWriter = false
        · right
          refine ⟨trivial, hfailover.1, hfailover.2, ?_⟩
          rw [if_pos hfailover]
          cases o.failoverChoice (inKeyOrder (o.getNodes e t)).reduceOption <;> rfl
        · left
          rw [if_neg hfailover]
          exact ⟨rfl, fun h => hfailover h.2⟩

/-- A run without failover: nothing if a connection is refused, else all actions. -/
theorem Options.round_of_never {o : Options} (hnever : o.activeFailover = .never) (e : Env)
    (t : Servers) :
    (o.Blocked e t ∧ o.round e t = t) ∨
      ¬ o.Blocked e t ∧ o.round e t = o.pushChanges (o.items e t) t := by
  rcases o.round_cases e t with hround | ⟨hopen, hround, -⟩ | ⟨-, -, hfailover, -⟩
  · exact .inl hround
  · exact .inr ⟨hopen, hround⟩
  · exact absurd hnever hfailover

/-- A decision about a visible row is for this row, and fits its hostgroup. -/
theorem Options.decision_row {o : Options} {e : Env} {c : Cluster} {r : Server} {a : Action}
    {n : Node} (hdecision : o.decision e c r = some (a, n)) :
    o.isVisible e r = true ∧ n.row = r ∧ a.AllowedFor r.hostgroup := by
  rw [decision] at hdecision
  split at hdecision
  · rename_i hvisible
    rcases Option.bind_eq_some_iff.mp hdecision with ⟨n', hn', heval⟩
    have hrow := evaluateNode_row heval
    rw [row_of_probeNode hn'] at hrow
    exact ⟨hvisible, hrow.1, hrow.2.2⟩
  · cases hdecision

/-- Every action of a run is for a row of the table in a managed hostgroup. -/
theorem Options.mem_items {o : Options} {e : Env} {t : Servers} {a : Action} {n : Node}
    (hitem : (a, n) ∈ o.items e t) :
    n.row ∈ t.rows ∧ n.row.hostgroup ∈ o.managed ∧ a.AllowedFor n.row.hostgroup ∧
      o.decision e (o.cluster e t) n.row = some (a, n) := by
  rw [(o.items_perm e t).mem_iff, List.mem_filterMap] at hitem
  rcases hitem with ⟨r, hr, hdecision⟩
  rcases decision_row hdecision with ⟨hvisible, rfl, hallowed⟩
  simp only [isVisible, Bool.and_eq_true, List.contains_iff_mem] at hvisible
  exact ⟨hr, hvisible.1, hallowed, hdecision⟩

/-- A statement of a run is for the row of one of its actions. -/
theorem Options.mem_scripts {o : Options} {e : Env} {t : Servers} {s : Statement Server ServerKey}
    (hs : s ∈ untilBroken (((o.items e t).insertionSort fun i j =>
      actionKey i.1 i.2 ≤ actionKey j.1 j.2).flatMap o.script)) :
    ∃ a n, (a, n) ∈ o.items e t ∧ some s ∈ o.script (a, n) := by
  rcases List.mem_flatMap.mp (mem_of_mem_untilBroken hs) with ⟨⟨a, n⟩, hitem, hs⟩
  exact ⟨a, n, (List.perm_insertionSort _ _).mem_iff.mp hitem, hs⟩

/-! ## Comments without quotes -/

/-- If counters are in use, there is no quote in the hostgroups and in the comments. -/
def Options.Unquoted (o : Options) (t : Servers) : Prop :=
  0 < o.retryUp ∨ 0 < o.retryDown → quote ∉ o.hostgroups ∧ ∀ r ∈ t.rows, quote ∉ r.comment

instance (o : Options) (t : Servers) : Decidable (o.Unquoted t) :=
  inferInstanceAs (Decidable (_ → _ ∧ _))

/-- Numbers have no quotes. -/
theorem quote_notMem_toDigits (k : Nat) : quote ∉ Nat.toDigits 10 k :=
  notMem_toDigits (by decide) k

/-- The names of the counters have no quotes if the hostgroups have none. -/
theorem Options.quote_notMem_keys {o : Options} (hgroups : quote ∉ o.hostgroups) :
    quote ∉ o.retryUpKey ∧ quote ∉ o.retryDownKey := by
  have hid : quote ∉ o.clusterIdentifier := by
    intro hmem
    rcases List.mem_map.mp hmem with ⟨c, hc, heq⟩
    split at heq
    · exact absurd heq (by decide)
    · exact hgroups (heq ▸ hc)
  rw [retryUpKey, retryDownKey, List.mem_append, List.mem_append, not_or, not_or]
  exact ⟨⟨hid, by decide⟩, hid, by decide⟩

/-- The counters that are read from a comment, and what is left of it, have no quotes if the
comment has none. -/
theorem Options.quote_notMem_setRetryUpDown {o : Options} {r : Server}
    (hr : quote ∉ r.comment) (reply : Option Reply) :
    quote ∉ (o.setRetryUpDown r reply).comment ∧ quote ∉ (o.setRetryUpDown r reply).retryUp ∧
      quote ∉ (o.setRetryUpDown r reply).retryDown := by
  have hcounter : ∀ key, quote ∉ (hashGet key (perlSplit isEntrySep r.comment)).getD ['0'] := by
    intro key
    cases hget : hashGet key (perlSplit isEntrySep r.comment) with
    | none => decide
    | some v => exact fun hmem => hr (mem_of_hashGet_perlSplit hget hmem)
  refine ⟨fun hmem => hr ?_, hcounter _, hcounter _⟩
  exact mem_of_mem_removeFrom (mem_of_mem_removeFrom hmem)

/-- A node has no quotes in what it keeps of a comment without quotes. -/
theorem Options.quote_notMem_probeNode {o : Options} {e : Env} {r : Server} {n : Node}
    (hr : quote ∉ r.comment) (hn : o.probeNode e r = some n) :
    quote ∉ n.comment ∧ quote ∉ n.retryUp ∧ quote ∉ n.retryDown := by
  rw [probeNode] at hn
  split at hn
  · cases hn
  · cases hn
  · cases hn
    exact quote_notMem_setRetryUpDown hr _
  · cases hn
    exact quote_notMem_setRetryUpDown hr _

/-- An entry has no quotes if its name and its value have none. -/
theorem quote_notMem_entry {k v : List Char} (hk : quote ∉ k) (hv : quote ∉ v) :
    quote ∉ entry k v := by
  simp [entry, hk, hv, show quote ≠ '=' by decide, show quote ≠ ';' by decide]

/-- The comments that a run saves have no quotes if those of the table have none. -/
theorem Options.Unquoted.pastes {o : Options} {e : Env} {t : Servers} (hquotes : o.Unquoted t)
    {a : Action} {n : Node} (hitem : (a, n) ∈ o.items e t) : o.Pastes n := by
  intro hretry
  rcases hquotes hretry with ⟨hgroups, hcomments⟩
  have hkeys := quote_notMem_keys hgroups
  -- a counter is kept as it was read or counted up
  have hcounter : ∀ {old new : List Char}, (new = old ∨ ∃ k, new = Nat.toDigits 10 k) →
      quote ∉ old → quote ∉ new := by
    rintro old new (rfl | ⟨k, rfl⟩) hold
    · exact hold
    · exact quote_notMem_toDigits k
  rcases mem_items hitem with ⟨hrow, -, -, hdecision⟩
  rw [decision] at hdecision
  split at hdecision
  · rcases Option.bind_eq_some_iff.mp hdecision with ⟨n', hn', heval⟩
    rcases quote_notMem_probeNode (hcomments _ hrow) hn' with ⟨hcomment, hup, hdown⟩
    rcases evaluateNode_counters heval with ⟨hup', hdown'⟩
    rw [savedComment, (evaluateNode_row heval).2.1, List.mem_append, List.mem_append, not_or,
      not_or]
    exact ⟨hcomment, quote_notMem_entry hkeys.1 (hcounter hup' hup),
      quote_notMem_entry hkeys.2 (hcounter hdown' hdown)⟩
  · cases hdecision

/-- A run without failover leaves comments without quotes. -/
theorem Options.Unquoted.round {o : Options} {t : Servers} (hquotes : o.Unquoted t)
    (hnever : o.activeFailover = .never) (e : Env) : o.Unquoted (o.round e t) := by
  intro hretry
  refine ⟨(hquotes hretry).1, ?_⟩
  rcases round_of_never hnever e t with ⟨-, hround⟩ | ⟨-, hround⟩
  · rw [hround]
    exact (hquotes hretry).2
  · rw [hround, pushChanges]
    refine t.exec_induction (P := fun rows => ∀ r ∈ rows, quote ∉ r.comment) ?_ (hquotes hretry).2
    intro s hs rows hrows r' hr'
    rcases List.mem_map.mp hr' with ⟨r, hr, rfl⟩
    rcases mem_scripts hs with ⟨a, n, hitem, hs⟩
    rcases mem_script (mem_items hitem).2.2.1 hs with ⟨htarget, hset⟩
    by_cases hkey : r.key = s.target
    · rw [Statement.onRow_of_eq hkey]
      rcases hset with hset | ⟨-, comment, hcomment, hset⟩
      · rw [hset r (hkey.trans htarget), Action.comment_apply]
        exact hrows r hr
      · have hsaved := hquotes.pastes hitem hretry
        rw [pasted_of_notMem hsaved, Option.some.injEq] at hcomment
        rw [hset, ← hcomment]
        simpa using hsaved
    · rw [Statement.onRow_of_ne hkey]
      exact hrows r hr

/-! ## No server is lost -/

/-- What no run changes about a row: its home, its weight and its connections, and everything if
the hostgroup is none of the check. -/
def Options.kept (o : Options) (r : Server) : ServerKey × Nat × Nat × Option Server :=
  (r.home, r.weight, r.maxConnections, if r.hostgroup ∈ o.managed then none else some r)

/-- An action keeps what no run changes. -/
theorem Options.kept_apply {o : Options} (hsep : o.Separate) {a : Action} {r : Server}
    (hallowed : a.AllowedFor r.hostgroup) (hmanaged : r.hostgroup ∈ o.managed) :
    o.kept (a.apply r) = o.kept r := by
  have hranges := hsep.managed hmanaged
  have hstays : (a.apply r).hostgroup ∈ o.managed := by
    cases a with
    | moveUpOffline | moveDownOffline | saveRetry => simpa [Action.apply] using hmanaged
    | moveUpHgChange =>
        have hge : 9000 ≤ r.hostgroup := hallowed
        simp only [Action.apply, Server.setHostgroup_fields]
        rcases hranges with h | h | h
        · omega
        · omega
        · exact h.2.2
    | moveDownHgChange =>
        have hlt : r.hostgroup < 8000 := hallowed
        simp only [Action.apply, Server.setHostgroup_fields]
        rcases hranges with h | h | h
        · exact h.2
        · omega
        · omega
  have hfields : (a.apply r).weight = r.weight ∧
      (a.apply r).maxConnections = r.maxConnections := by
    cases a <;> simp [Action.apply]
  rw [kept, kept, if_pos hstays, if_pos hmanaged, hfields.1, hfields.2,
    Action.home_apply hallowed (by omega)]

/-- A statement of a run keeps what no run changes. -/
theorem Options.kept_statement {o : Options} (hsep : o.Separate) {a : Action} {n : Node}
    {s : Statement Server ServerKey} (hallowed : a.AllowedFor n.row.hostgroup)
    (hmanaged : n.row.hostgroup ∈ o.managed) (hs : some s ∈ o.script (a, n)) {r : Server}
    (hr : r.key = s.target) : o.kept (s.set r) = o.kept r := by
  rcases mem_script hallowed hs with ⟨htarget, hset⟩
  rw [htarget] at hr
  have hgroup : r.hostgroup = n.row.hostgroup := congrArg ServerKey.hostgroup hr
  rw [← hgroup] at hallowed hmanaged
  rcases hset with hset | ⟨-, comment, -, hset⟩
  · rw [hset r hr]
    exact kept_apply hsep hallowed hmanaged
  · rw [hset]
    simp [kept, Server.home, hmanaged]

/-- The actions of a run keep what no run changes. -/
theorem Options.kept_pushChanges {o : Options} (hsep : o.Separate) (e : Env) (t : Servers) :
    (o.pushChanges (o.items e t) t).rows.map o.kept = t.rows.map o.kept := by
  rw [pushChanges]
  apply Table.map_exec
  intro s hs r hr
  rcases mem_scripts hs with ⟨a, n, hitem, hs⟩
  have hitem := mem_items hitem
  exact kept_statement hsep hitem.2.2.1 hitem.2.1 hs hr

/-- One run keeps what no run changes. -/
theorem Options.kept_round {o : Options} (hsep : o.Separate) (hnever : o.activeFailover = .never)
    (e : Env) (t : Servers) : (o.round e t).rows.map o.kept = t.rows.map o.kept := by
  rcases round_of_never hnever e t with ⟨-, hround⟩ | ⟨-, hround⟩
  · rw [hround]
  · rw [hround, kept_pushChanges hsep]

/-- Any number of runs keeps what no run changes. -/
theorem Options.kept_rounds {o : Options} (hsep : o.Separate) (hnever : o.activeFailover = .never)
    (es : List Env) (t : Servers) : (o.rounds es t).rows.map o.kept = t.rows.map o.kept := by
  induction es generalizing t with
  | nil => rfl
  | cons e es ih =>
      exact (ih (o.round e t)).trans (kept_round hsep hnever e t)

/-- Hostgroups as in the documentation of the check. -/
def sampleOptions : Options where
  hostgroups := ['5', '0', '0', ':', 'W', ',', '5', '0', '1', ':', 'R']
  mainSegment := 1
  retryUp := 0
  retryDown := 0
  activeFailover := .never

/-- A row for a host with a name of one letter. -/
def sampleRow (hg : Nat) (name : Char) (hname : name ≠ ';' ∧ name ≠ quote) : Server where
  hostgroup := hg
  hostname := ⟨[name], by simpa using hname.1.symm, by simpa using hname.2.symm⟩
  port := 3306
  status := .online
  weight := 1
  maxConnections := 1000
  comment := []

/-- A writer. -/
def writerRow : Server :=
  sampleRow 500 'a' (by decide)

/-- A reader. -/
def readerRow : Server :=
  sampleRow 501 'b' (by decide)

/-- A writer, a reader and a reader in the maintenance group. -/
def sampleTable : Servers where
  rows := [writerRow, readerRow, sampleRow 9501 'c' (by decide)]
  keys_nodup := by decide

/-- The same probe for all servers. -/
def uniformEnv (p : Probe) : Env where
  probe _ := p
  joinOrder := id
  joinOrder_perm := List.Perm.refl

/-- The answer of a node that takes writes and is in sync. -/
def syncedReply : Reply where
  readOnly := .off
  localState := some 4
  rejectQueries := .none
  donorRejects := .off
  clusterStatus := .primary
  maintMode := some .disabled
  segment := some 1
  localIndex := some 0

/-- The name that is read from a key does not end in {lit}`s`. -/
theorem HostName.getLast?_read (h : HostName) : h.read.getLast? ≠ some 's' := by
  intro hlast
  have hne : h.read ≠ [] := by
    rintro hnil
    rw [hnil] at hlast
    cases hlast
  apply List.rdropWhile_last_not (· == 's') h.text hne
  rw [beq_iff_eq]
  exact (List.getLast_eq_iff_getLast?_eq_some hne).mpr hlast

/-- The check can name every server of the table and paste every comment, and the rows are in
different classes that its actions keep. -/
structure Options.Orderly {η : Type} (o : Options) (c : ServerKey → η) (e : Env) (t : Servers) :
    Prop where
  names : ∀ r ∈ t.rows, r.hostname.text.getLast? ≠ some 's'
  classes : (t.rows.map fun r => c r.key).Nodup
  pastes : ∀ a n, (a, n) ∈ o.items e t → o.Pastes n
  keep : ∀ a n, (a, n) ∈ o.items e t → ∀ r : Server, r.key = n.row.key →
    c (a.apply r).key = c r.key

/-- The purpose of one run: every row is settled by its own action. -/
def Options.policy (o : Options) (e : Env) (c : Cluster) (r : Server) : Server :=
  match o.decision e c r with
  | some (a, n) => o.settle a n r
  | none => r

/-- A name that does not end in {lit}`s` is read from a key as it is. -/
theorem HostName.read_eq {h : HostName} (hname : h.text.getLast? ≠ some 's') : h.read = h.text := by
  rw [read, List.rdropWhile_eq_self_iff]
  intro hne hlast
  rw [beq_iff_eq] at hlast
  exact hname ((List.getLast_eq_iff_getLast?_eq_some hne).mp hlast)

/-- The elements that a partial function gives for a list have classes of the list. -/
theorem map_filterMap_sublist {α β γ : Type} {f : α → Option β} {g : α → γ} {h : β → γ}
    {l : List α} (hclass : ∀ a ∈ l, ∀ b, f a = some b → h b = g a) :
    ((l.filterMap f).map h).Sublist (l.map g) := by
  induction l with
  | nil => exact List.Sublist.refl _
  | cons a l ih =>
      have hrest := ih fun a' ha' => hclass a' (List.mem_cons_of_mem a ha')
      rw [List.filterMap_cons, List.map_cons]
      cases hfa : f a with
      | none => exact hrest.cons _
      | some b =>
          rw [List.map_cons, hclass a List.mem_cons_self b hfa]
          exact hrest.cons_cons _

namespace Options.Orderly

variable {η : Type} {o : Options} {c : ServerKey → η} {e : Env} {t : Servers}

/-- The statements for an action are for the row of its node. -/
theorem target_eq (horder : o.Orderly c e t) {a : Action} {n : Node}
    (hitem : (a, n) ∈ o.items e t) : n.target = n.row.key := by
  rw [Node.target, HostName.read_eq (horder.names _ (mem_items hitem).1)]
  rfl

/-- The statements for an action are what is executed for it. -/
theorem executed (horder : o.Orderly c e t) {i : Action × Node} (hitem : i ∈ o.items e t)
    {s : Statement Server ServerKey} (hs : s ∈ o.statements i) : some s ∈ o.script i := by
  rw [(horder.pastes i.1 i.2 hitem).script_eq i.1]
  exact List.mem_map_of_mem hs

/-- The actions of a run are for rows of different classes. -/
theorem items_nodup (horder : o.Orderly c e t) :
    ((o.items e t).map fun i => c i.2.target).Nodup := by
  have hclasses : ((o.items e t).map fun i => c i.2.target) =
      (o.items e t).map fun i => c i.2.row.key := by
    apply List.map_congr_left
    rintro ⟨a, n⟩ hitem
    rw [horder.target_eq hitem]
  rw [hclasses]
  refine ((o.items_perm e t).map _).nodup_iff.mpr (horder.classes.sublist ?_)
  apply map_filterMap_sublist
  rintro r hr ⟨a, n⟩ hdecision
  rw [(decision_row hdecision).2.1]

/-- The statements of a run leave every row in its class. -/
theorem keepClass (horder : o.Orderly c e t) {ss : List (Statement Server ServerKey)}
    (hss : ∀ s ∈ ss, ∃ i ∈ o.items e t, s ∈ o.statements i) : KeepClass Server.key c ss := by
  intro s hs r hr
  rcases hss s hs with ⟨⟨a, n⟩, hitem, hs⟩
  rcases mem_script (mem_items hitem).2.2.1 (horder.executed hitem hs) with ⟨htarget, hset⟩
  rw [htarget] at hr
  rcases hset with hset | ⟨-, comment, -, hset⟩
  · rw [hset r hr]
    exact horder.keep a n hitem r (hr.trans (horder.target_eq hitem))
  · rw [hset, Server.key_setComment]

/-- The statements for the actions of a run do to each row what the policy says. -/
theorem follow_eq_policy (horder : o.Orderly c e t) {items : List (Action × Node)}
    (hperm : items.Perm (o.items e t)) {r : Server} (hr : r ∈ t.rows) :
    follow Server.key (items.flatMap o.statements) r = o.policy e (o.cluster e t) r := by
  have hdistinct := (hperm.map fun i => c i.2.target).nodup_iff.mpr horder.items_nodup
  have htarget : ∀ i ∈ items, ∀ s ∈ o.statements i, s.target = i.2.target := by
    rintro ⟨a, n⟩ hitem s hs
    rw [hperm.mem_iff] at hitem
    exact (mem_script (mem_items hitem).2.2.1 (horder.executed hitem hs)).1
  cases hdecision : o.decision e (o.cluster e t) r with
  | none =>
      rw [policy, hdecision]
      apply follow_eq_self (c := c)
      intro s hs heq
      rcases List.mem_flatMap.mp hs with ⟨⟨a, n⟩, hitem, hs⟩
      rw [htarget _ hitem s hs] at heq
      rw [hperm.mem_iff] at hitem
      have hmem := mem_items hitem
      rw [horder.target_eq hitem] at heq
      have hrow : n.row = r := List.inj_on_of_nodup_map horder.classes hmem.1 hr heq
      rw [hrow, hdecision] at hmem
      cases hmem.2.2.2
  | some item =>
      rcases item with ⟨a, n⟩
      have hitem : (a, n) ∈ items := by
        rw [hperm.mem_iff, (o.items_perm e t).mem_iff]
        exact List.mem_filterMap.mpr ⟨r, hr, hdecision⟩
      rcases decision_row hdecision with ⟨-, rfl, hallowed⟩
      have hkey : n.row.key = n.target := (horder.target_eq (hperm.mem_iff.mp hitem)).symm
      rw [policy, hdecision]
      refine Eq.trans ?_ (follow_statements hallowed hkey)
      rcases List.append_of_mem hitem with ⟨before, after, rfl⟩
      apply follow_flatMap (c := c) (k := fun i => i.2.target) htarget hdistinct _
        (congrArg c hkey)
      exact horder.keepClass fun s hs => ⟨(a, n), hperm.mem_iff.mp hitem, hs⟩

/-- A run without a refused connection settles all rows by their own actions. -/
theorem rows_round (horder : o.Orderly c e t) (hnever : o.activeFailover = .never)
    (hopen : ¬ o.Blocked e t) : (o.round e t).rows = t.rows.map (o.policy e (o.cluster e t)) := by
  rcases round_of_never hnever e t with ⟨hblocked, -⟩ | ⟨-, hround⟩
  · exact absurd hblocked hopen
  · have hperm := List.perm_insertionSort (fun i j : Action × Node =>
      actionKey i.1 i.2 ≤ actionKey j.1 j.2) (o.items e t)
    have hwhole : untilBroken (((o.items e t).insertionSort fun i j =>
        actionKey i.1 i.2 ≤ actionKey j.1 j.2).flatMap o.script) =
          ((o.items e t).insertionSort fun i j =>
            actionKey i.1 i.2 ≤ actionKey j.1 j.2).flatMap o.statements := by
      rw [List.flatMap_congr fun i hi =>
        (horder.pastes i.1 i.2 (hperm.mem_iff.mp hi)).script_eq i.1, ← List.map_flatMap,
        untilBroken_map_some]
    rw [hround, pushChanges, hwhole, Table.rows_exec (c := c) horder.classes]
    · exact List.map_congr_left fun r hr => horder.follow_eq_policy hperm hr
    · refine horder.keepClass fun s hs => ?_
      rcases List.mem_flatMap.mp hs with ⟨i, hi, hs⟩
      exact ⟨i, hperm.mem_iff.mp hi, hs⟩

/-- Homes are classes that all actions keep. -/
theorem of_homes (hsep : o.Separate)
    (hnames : ∀ r ∈ t.rows, r.hostname.text.getLast? ≠ some 's') (hquotes : o.Unquoted t)
    (hhomes : (t.rows.map Server.home).Nodup) : o.Orderly homeKey e t where
  names := hnames
  classes := hhomes
  pastes := fun _ _ hitem => hquotes.pastes hitem
  keep := by
    intro a n hitem r hr
    have hmem := mem_items hitem
    have hgroup : r.hostgroup = n.row.hostgroup := congrArg ServerKey.hostgroup hr
    rw [← hgroup] at hmem
    exact congrArg Prod.fst (kept_apply hsep hmem.2.2.1 hmem.2.1)

end Options.Orderly

/-- A run without a refused connection settles all rows at the same time by their own actions:
the order of the statements, their keys and the primary key of the table do not matter. -/
theorem round_eq_policy {o : Options} {e : Env} {t : Servers} (hsep : o.Separate)
    (hnever : o.activeFailover = .never)
    (hnames : ∀ r ∈ t.rows, r.hostname.text.getLast? ≠ some 's') (hquotes : o.Unquoted t)
    (hhomes : (t.rows.map Server.home).Nodup) (hopen : ¬ o.Blocked e t) :
    (o.round e t).rows = t.rows.map (o.policy e (o.cluster e t)) :=
  (Options.Orderly.of_homes hsep hnames hquotes hhomes).rows_round hnever hopen

/-- No connection is refused if all servers give an answer. -/
theorem not_blocked_uniformEnv (o : Options) (a : Reply) (t : Servers) :
    ¬ o.Blocked (uniformEnv (.reply a)) t := by
  rintro ⟨r, -, -, hrefused⟩
  cases hrefused

/-- The run in which all servers are in sync. -/
theorem round_eq_policy_sample :
    (sampleTable.rows.map Server.home).Nodup ∧
      (sampleOptions.round (uniformEnv (.reply syncedReply)) sampleTable).rows =
        sampleTable.rows.map (sampleOptions.policy (uniformEnv (.reply syncedReply))
          (sampleOptions.cluster (uniformEnv (.reply syncedReply)) sampleTable)) :=
  have hhomes : (sampleTable.rows.map Server.home).Nodup := by decide
  ⟨hhomes, round_eq_policy (by decide) rfl (by decide) (by decide) hhomes
    (not_blocked_uniformEnv _ _ _)⟩

end Proxysql
end ClusterPlaybooks
