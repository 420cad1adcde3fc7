import ClusterPlaybooks.Relational.Table
import ClusterPlaybooks.Text.ByteOrder
import ClusterPlaybooks.Text.Perl
import Mathlib.Data.List.ReduceOption

/-!
# The Galera check of ProxySQL

The scheduler of ProxySQL runs {lit}`galera_check.pl` every few seconds.  Each run reads the rows
of the table of servers for its hostgroups, asks every server for its state in a thread of its
own, decides for every row whether it has to leave its hostgroup, go offline or come back, and
writes the changes with one statement after the other.  Between runs it keeps counters in the
comments of the rows.  If there is nothing to do and no writer, it may put another server into
the hostgroup of the writer.

Main results:

- Theorem {lit}`splitKey_actionKey`: what is read from the key of an action.
- Theorem {lit}`script_eq`: what is executed for an action.
- Theorem {lit}`evaluateNode_row`: an action is for the row it was decided for.
- Theorem {lit}`follow_statements`: what the statements for an action do to its row.
-/

namespace ClusterPlaybooks
namespace Proxysql

open Text Relational

/-! ## The table of servers -/

/-- The column {lit}`status`. -/
inductive Status where
  | online
  | offlineSoft
  | offlineHard
  deriving DecidableEq, Repr

/-- A host name, which has no semicolon and no quote. -/
structure HostName where
  text : List Char
  plain : ';' ∉ text
  unquoted : quote ∉ text
  deriving DecidableEq

/-- The primary key of the table {lit}`mysql_servers`. -/
@[ext]
structure ServerKey where
  hostgroup : Nat
  hostname : List Char
  port : Nat
  deriving DecidableEq

/-- A row of the table {lit}`mysql_servers`. -/
@[ext]
structure Server where
  hostgroup : Nat
  hostname : HostName
  port : Nat
  status : Status
  weight : Nat
  maxConnections : Nat
  comment : List Char
  deriving DecidableEq

/-- The key of a row. -/
def Server.key (r : Server) : ServerKey :=
  ⟨r.hostgroup, r.hostname.text, r.port⟩

/-- {lit}`SET status = ...` -/
def Server.setStatus (status : Status) (r : Server) : Server :=
  { r with status := status }

/-- {lit}`SET hostgroup_id = ...` -/
def Server.setHostgroup (hg : Nat) (r : Server) : Server :=
  { r with hostgroup := hg }

/-- {lit}`SET comment = ...` -/
def Server.setComment (comment : List Char) (r : Server) : Server :=
  { r with comment := comment }

section Setters

variable (r : Server) (status : Status) (hg : Nat) (comment : List Char)

/-- {lit}`SET status` leaves the other columns as they are. -/
@[simp]
theorem Server.setStatus_fields :
    (r.setStatus status).hostgroup = r.hostgroup ∧ (r.setStatus status).hostname = r.hostname ∧
      (r.setStatus status).port = r.port ∧ (r.setStatus status).status = status ∧
      (r.setStatus status).weight = r.weight ∧
      (r.setStatus status).maxConnections = r.maxConnections ∧
      (r.setStatus status).comment = r.comment := by
  cases r
  exact ⟨rfl, rfl, rfl, rfl, rfl, rfl, rfl⟩

/-- {lit}`SET hostgroup_id` leaves the other columns as they are. -/
@[simp]
theorem Server.setHostgroup_fields :
    (r.setHostgroup hg).hostgroup = hg ∧ (r.setHostgroup hg).hostname = r.hostname ∧
      (r.setHostgroup hg).port = r.port ∧ (r.setHostgroup hg).status = r.status ∧
      (r.setHostgroup hg).weight = r.weight ∧
      (r.setHostgroup hg).maxConnections = r.maxConnections ∧
      (r.setHostgroup hg).comment = r.comment := by
  cases r
  exact ⟨rfl, rfl, rfl, rfl, rfl, rfl, rfl⟩

/-- {lit}`SET comment` leaves the other columns as they are. -/
@[simp]
theorem Server.setComment_fields :
    (r.setComment comment).hostgroup = r.hostgroup ∧
      (r.setComment comment).hostname = r.hostname ∧ (r.setComment comment).port = r.port ∧
      (r.setComment comment).status = r.status ∧ (r.setComment comment).weight = r.weight ∧
      (r.setComment comment).maxConnections = r.maxConnections ∧
      (r.setComment comment).comment = comment := by
  cases r
  exact ⟨rfl, rfl, rfl, rfl, rfl, rfl, rfl⟩

@[simp]
theorem Server.key_setStatus : (r.setStatus status).key = r.key := by
  simp [Server.key]

@[simp]
theorem Server.key_setComment : (r.setComment comment).key = r.key := by
  simp [Server.key]

end Setters

/-- The table {lit}`mysql_servers`, which is loaded to the runtime after every change. -/
abbrev Servers :=
  Table Server Server.key

/-! ## Options -/

/-- {lit}`--active_failover` -/
inductive ActiveFailover where
  | never
  | backupGroup
  | mainSegment
  | anySegment
  deriving DecidableEq, Repr

/-- The options of the check. -/
structure Options where
  hostgroups : List Char
  mainSegment : Nat
  retryUp : Nat
  retryDown : Nat
  activeFailover : ActiveFailover

/-- {lit}`split '\,'` and {lit}`split /:/`: the hostgroups with their types in lower case. -/
def Options.groups (o : Options) : List (Nat × List Char) :=
  (perlSplit (· == ',') o.hostgroups).map fun hg =>
    let parts := perlSplit (· == ':') hg
    (perlNum (parts.getD 0 []), lower (parts.getD 1 []))

/-- The hostgroup of the writer: the last one of type {lit}`w`. -/
def Options.writerId (o : Options) : Nat :=
  ((o.groups.filter fun g => g.2 = ['w']).getLast?.map Prod.fst).getD 0

/-- The hostgroups of which the rows are read: those of the options, their maintenance groups
and the backup groups of writers. -/
def Options.managed (o : Options) : List Nat :=
  o.groups.flatMap fun g => g.1 :: (g.1 + 9000) :: if g.2 = ['w'] then [g.1 + 8000] else []

/-- {lit}`s/[\:,\,]/_/g`: the hostgroups in the names of the counters. -/
def Options.clusterIdentifier (o : Options) : List Char :=
  o.hostgroups.map fun c => if c = ':' ∨ c = ',' then '_' else c

/-- {lit}`$hg."_retry_up"` -/
def Options.retryUpKey (o : Options) : List Char :=
  o.clusterIdentifier ++ "_retry_up".toList

/-- {lit}`$hg."_retry_down"` -/
def Options.retryDownKey (o : Options) : List Char :=
  o.clusterIdentifier ++ "_retry_down".toList

/-! ## What a server answers -/

/-- A variable that is {lit}`ON`, {lit}`OFF` or not there. -/
inductive Switch where
  | on
  | off
  | missing
  deriving DecidableEq, Repr

/-- {lit}`wsrep_reject_queries` -/
inductive RejectQueries where
  | none
  | all
  | allKill
  | missing
  deriving DecidableEq, Repr

/-- {lit}`wsrep_cluster_status` -/
inductive ClusterStatus where
  | primary
  | nonPrimary
  | disconnected
  | missing
  deriving DecidableEq, Repr

/-- {lit}`pxc_maint_mode` -/
inductive MaintMode where
  | disabled
  | shutdown
  | maintenance
  deriving DecidableEq, Repr

/-- The variables, the status and the cluster view of a server.  The segment is always taken
from the view, as the test {lit}`$self->{wsrep_segment} == 0` reads a field that is never set. -/
structure Reply where
  readOnly : Switch
  localState : Option Nat
  rejectQueries : RejectQueries
  donorRejects : Switch
  clusterStatus : ClusterStatus
  maintMode : Option MaintMode
  segment : Option Nat
  localIndex : Option Nat
  deriving DecidableEq, Repr

/-- What becomes of one row in one run: it is left out as shunned or offline, the connection is
refused, the answer comes too late, or there is an answer. -/
inductive Probe where
  | hidden
  | refused
  | late
  | reply (r : Reply)
  deriving DecidableEq, Repr

/-- {lit}`GaleraNode`: a row with the counters from its comment and the answer, if it came in
time. -/
structure Node where
  row : Server
  comment : List Char
  retryUp : List Char
  retryDown : List Char
  reply : Option Reply
  deriving DecidableEq

/-- What happens outside in one run: the probes, and the order in which the threads end. -/
structure Env where
  probe : ServerKey → Probe
  joinOrder : List Node → List Node
  joinOrder_perm : ∀ ns, (joinOrder ns).Perm ns

/-- {lit}`set_retry_up_down`: read the counters from the comment and cut them out. -/
def Options.setRetryUpDown (o : Options) (r : Server) (reply : Option Reply) : Node :=
  let comments := perlSplit isEntrySep r.comment
  let up := (hashGet o.retryUpKey comments).getD ['0']
  let down := (hashGet o.retryDownKey comments).getD ['0']
  { row := r
    comment := removeAll (entry o.retryUpKey up) (removeAll (entry o.retryDownKey down) r.comment)
    retryUp := up
    retryDown := down
    reply := reply }

/-- What the thread for a row leaves behind.  A refused connection ends the thread, and there is
no node. -/
def Options.probeNode (o : Options) (e : Env) (r : Server) : Option Node :=
  match e.probe r.key with
  | .hidden | .refused => none
  | .late => some (o.setRetryUpDown r none)
  | .reply a => some (o.setRetryUpDown r (some a))

/-! ## Reading the nodes -/

/-- The rows that the query of {lit}`get_nodes` gives. -/
def Options.isVisible (o : Options) (e : Env) (r : Server) : Bool :=
  o.managed.contains r.hostgroup && e.probe r.key != .hidden

/-- {lit}`order by hostgroup_id, hostname` -/
def rowLe (r r' : Server) : Prop :=
  r.hostgroup < r'.hostgroup ∨
    r.hostgroup = r'.hostgroup ∧ r.hostname.text ≤ r'.hostname.text

instance : DecidableRel rowLe := fun r r' =>
  inferInstanceAs (Decidable (r.hostgroup < r'.hostgroup ∨
    r.hostgroup = r'.hostgroup ∧ r.hostname.text ≤ r'.hostname.text))

/-- {lit}`sort keys` for a hash with the keys 1, 2 and so on: the order of the texts. -/
def inKeyOrder {α : Type} (ns : List α) : List α :=
  (((ns.zipIdx 1).map fun n => (Nat.toDigits 10 n.2, n.1)).insertionSort
    (fun a b => a.1 ≤ b.1)).map Prod.snd

/-- {lit}`get_nodes`, and what the threads leave: the visible rows in the order of the query. -/
def Options.getNodes (o : Options) (e : Env) (t : Servers) : List (Option Node) :=
  ((t.rows.filter (o.isVisible e)).insertionSort rowLe).map (o.probeNode e)

/-! ## Counting them -/

/-- What {lit}`process_nodes` counts. -/
structure Cluster where
  size : Nat → Nat
  hostgroupSize : Nat → Nat
  hasWriter : Bool

/-- The nodes that are counted for their segment: one for every host. -/
def counted (seen : List HostName) : List Node → List Node
  | [] => []
  | n :: ns =>
      if n.row.hostname ∉ seen ∧ (n.reply.bind Reply.segment).isSome then
        n :: counted (n.row.hostname :: seen) ns
      else counted seen ns

/-- {lit}`process_nodes`, with the nodes in the order in which their threads ended. -/
def Options.processNodes (o : Options) (joined : List Node) : Cluster where
  size s := (counted [] joined).countP fun n => n.reply.bind Reply.segment = some s
  hostgroupSize hg := joined.countP fun n =>
    n.row.hostgroup = hg ∧ n.row.status ≠ .offlineSoft ∧ (n.reply.bind Reply.segment).isSome
  hasWriter := joined.any fun n =>
    n.reply.any (fun a => a.readOnly = .off) ∧ n.row.status = .online ∧
      n.row.hostgroup = o.writerId

/-- The counts of one run. -/
def Options.cluster (o : Options) (e : Env) (t : Servers) : Cluster :=
  o.processNodes (e.joinOrder ((o.getNodes e t).reduceOption.filter fun n => n.reply.isSome))

/-! ## Deciding -/

/-- The actions of {lit}`GaleraNode`. -/
inductive Action where
  | moveUpOffline
  | moveUpHgChange
  | moveDownHgChange
  | moveDownOffline
  | saveRetry
  deriving DecidableEq, Repr

/-- The numbers of the actions. -/
def Action.code : Action → Nat
  | .moveUpOffline => 1000
  | .moveUpHgChange => 1010
  | .moveDownHgChange => 3001
  | .moveDownOffline => 3010
  | .saveRetry => 9999

/-- The rules for taking a node down.  In the first one the size of the hostgroup does not
matter: the other side of the {lit}`||` compares the main segment with a new hash reference,
which it never equals. -/
def downAction (c : Cluster) (r : Server) (a : Reply) : Option Action :=
  if a.localState = some 2 ∧ a.readOnly = .on ∧ r.status ≠ .offlineSoft then
    some .moveDownOffline
  else if a.localState ≠ some 4 ∧ a.localState ≠ some 2 then some .moveDownHgChange
  else if a.clusterStatus ≠ .primary then some .moveDownHgChange
  else if a.rejectQueries ≠ .none ∧ r.status ≠ .offlineSoft then some .moveDownHgChange
  else if a.localState = some 2 ∧ a.donorRejects = .on then some .moveDownHgChange
  else if a.localState = some 2 ∧ a.readOnly = .off ∧ a.donorRejects = .off ∧
      2 ≤ a.segment.elim 0 c.size ∧ 1 < c.hostgroupSize r.hostgroup ∧
      r.status ≠ .offlineSoft then
    some .moveDownOffline
  else if a.maintMode ≠ none ∧ a.maintMode ≠ some .disabled ∧ r.status ≠ .offlineSoft then
    some .moveDownOffline
  else none

/-- The answer lets a node come back. -/
def Reply.synced (a : Reply) : Prop :=
  a.localState = some 4 ∧ a.rejectQueries = .none ∧ a.clusterStatus = .primary

instance (a : Reply) : Decidable a.synced :=
  inferInstanceAs (Decidable (_ ∧ _))

/-- The rules for bringing a node back. -/
def upAction (r : Server) (reply : Option Reply) : Option Action :=
  if (∃ a ∈ reply, a.synced ∧ (a.maintMode = none ∨ a.maintMode = some .disabled)) ∧
      r.status = .offlineSoft ∧ r.hostgroup < 9000 then
    some .moveUpOffline
  else if (∃ a ∈ reply, a.synced) ∧ 9000 ≤ r.hostgroup then some .moveUpHgChange
  else if reply = none ∧ 9000 ≤ r.hostgroup then some .moveUpHgChange
  else none

/-- One more in a counter. -/
def increment (counter : List Char) : List Char :=
  Nat.toDigits 10 (perlNum counter + 1)

/-- {lit}`evaluate_nodes` for one node: the action, if there is one, and the node with its new
counters. -/
def Options.evaluateNode (o : Options) (c : Cluster) (n : Node) : Option (Action × Node) :=
  match (if n.row.hostgroup < 8000 then n.reply.bind (downAction c n.row) else none) with
  | some a =>
      some (a, if 0 < o.retryDown then { n with retryDown := increment n.retryDown } else n)
  | none =>
      match upAction n.row n.reply with
      | some a => some (a, if 0 < o.retryUp then { n with retryUp := increment n.retryUp } else n)
      | none =>
          let resetUp := 0 < o.retryUp ∧ 0 < perlNum n.retryUp
          let resetDown := 0 < o.retryDown ∧ 0 < perlNum n.retryDown
          if resetUp ∨ resetDown then
            some (.saveRetry,
              { n with
                retryUp := if resetUp then ['0'] else n.retryUp
                retryDown := if resetDown then ['0'] else n.retryDown })
          else none

/-- {lit}`evaluate_nodes`: the actions.  It ends the run at a node whose thread ended with a
refused connection, as a method is called on what is no node. -/
def Options.evaluateNodes (o : Options) (c : Cluster) :
    List (Option Node) → Option (List (Action × Node))
  | [] => some []
  | none :: _ => none
  | some n :: ns => (o.evaluateNodes c ns).map fun items => (o.evaluateNode c n).toList ++ items

/-! ## Writing the changes -/

/-- The key of an action in the hash of actions. -/
def actionKey (a : Action) (n : Node) : List Char :=
  n.row.hostname.text ++ ';' :: (Nat.toDigits 10 n.row.port ++
    ';' :: (Nat.toDigits 10 n.row.hostgroup ++ ';' :: Nat.toDigits 10 a.code))

/-- {lit}`split /s*;\s*/`: the letter {lit}`s` belongs to a separator that follows it.  The field
that has been begun is kept in reverse. -/
def splitKeyFrom (skip : Bool) (field : List Char) : List Char → List (List Char)
  | [] => [field.reverse]
  | c :: s =>
      if skip ∧ isRegexSpace c then splitKeyFrom true field s
      else if c = ';' then (field.dropWhile (· == 's')).reverse :: splitKeyFrom true [] s
      else splitKeyFrom false (c :: field) s

/-- The fields of the key of an action. -/
def splitKey (key : List Char) : List (List Char) :=
  (splitKeyFrom false [] key).rdropWhile List.isEmpty

/-- A statement for the row that the fields of a key name. -/
def updateServer (host port hg : List Char) (set : Server → Server) : Statement Server ServerKey :=
  ⟨⟨perlNum hg, host, perlNum port⟩, set⟩

/-- The functions {lit}`move_node_...` of {lit}`push_changes`, each behind its counter. -/
def Options.moveNode (o : Options) (n : Node) (host port hg action : List Char) :
    List (Statement Server ServerKey) :=
  if perlNum action = Action.moveDownOffline.code then
    if o.retryDown ≤ perlNum n.retryDown then
      [updateServer host port hg (Server.setStatus .offlineSoft)]
    else []
  else if perlNum action = Action.moveDownHgChange.code then
    if o.retryDown ≤ perlNum n.retryDown then
      if 9000 < perlNum hg then []
      else [updateServer host port hg (Server.setHostgroup (9000 + perlNum hg))]
    else []
  else if perlNum action = Action.moveUpOffline.code then
    if o.retryUp ≤ perlNum n.retryUp then
      [updateServer host port hg (Server.setStatus .online)]
    else []
  else if perlNum action = Action.moveUpHgChange.code then
    if o.retryUp ≤ perlNum n.retryUp then
      [updateServer host port hg (Server.setHostgroup (perlNum hg - 9000))]
    else []
  else []

/-- The comment that {lit}`save_retry` writes. -/
def Options.savedComment (o : Options) (n : Node) : List Char :=
  n.comment ++ (entry o.retryUpKey n.retryUp ++ entry o.retryDownKey n.retryDown)

/-- {lit}`save_retry`, for the hostgroup in the key, if counters are in use.  The comment is pasted
between quotes as it is, so one with a single quote in it makes no statement. -/
def Options.saveRetry (o : Options) (n : Node) (host port hg : List Char) :
    List (Option (Statement Server ServerKey)) :=
  if 0 < o.retryUp ∨ 0 < o.retryDown then
    [(pasted (o.savedComment n)).map fun comment =>
      updateServer host port hg (Server.setComment comment)]
  else []

/-- What {lit}`push_changes` executes for one action. -/
def Options.script (o : Options) (item : Action × Node) :
    List (Option (Statement Server ServerKey)) :=
  match splitKey (actionKey item.1 item.2) with
  | host :: port :: hg :: action :: _ =>
      (o.moveNode item.2 host port hg action).map some ++ o.saveRetry item.2 host port hg
  | _ => []

/-- {lit}`push_changes`: the statements for the actions in the order of their keys, up to the
first one that fails. -/
def Options.pushChanges (o : Options) (items : List (Action × Node)) (t : Servers) : Servers :=
  t.exec (untilBroken
    ((items.insertionSort fun i j => actionKey i.1 i.2 ≤ actionKey j.1 j.2).flatMap o.script))

/-! ## Failover -/

/-- The variables of {lit}`initiate_failover`. -/
structure Search where
  failoverNode : Option Node
  candidate : Option Node
  minIndex : Nat
  maxWeight : Nat
  candMinIndex : Nat
  candMaxWeight : Nat

/-- The variables before the first node. -/
def Search.start : Search :=
  ⟨none, none, 100, 0, 100, 0⟩

/-- The nodes that {lit}`initiate_failover` looks at. -/
def Node.eligible (n : Node) : Prop :=
  n.row.hostgroup < 9000 ∧ n.row.status = .online ∧
    ∃ a ∈ n.reply, a.localState = some 4 ∧ a.rejectQueries = .none ∧ a.donorRejects = .off

instance (n : Node) : Decidable n.eligible :=
  inferInstanceAs (Decidable (_ ∧ _))

/-- {lit}`_wsrep_segment` in a comparison of numbers. -/
def Node.segment (n : Node) : Nat :=
  (n.reply.bind Reply.segment).getD 0

/-- {lit}`_wsrep_local_index` in a comparison of numbers. -/
def Node.localIndex (n : Node) : Nat :=
  (n.reply.bind Reply.localIndex).getD 0

/-- One node in the loop of {lit}`initiate_failover`. -/
def Options.searchStep (o : Options) (hasFailoverNode : Bool) (s : Search) (n : Node) : Search :=
  if n.eligible then
    if o.activeFailover = .backupGroup ∧ hasFailoverNode ∧ 8000 < n.row.hostgroup then
      if s.maxWeight < n.row.weight ∧ n.segment = o.mainSegment then
        { s with maxWeight := n.row.weight, failoverNode := some n }
      else if n.segment ≠ o.mainSegment ∧ s.failoverNode.isNone ∧
          s.candMaxWeight < n.row.weight then
        { s with candMaxWeight := n.row.weight, candidate := some n }
      else s
    else if o.activeFailover = .mainSegment ∧ n.segment = o.mainSegment then
      if n.localIndex < s.minIndex then
        { s with minIndex := n.localIndex, failoverNode := some n }
      else s
    else if o.activeFailover = .anySegment then
      if n.segment = o.mainSegment ∧ n.localIndex < s.minIndex then
        { s with minIndex := n.localIndex, failoverNode := some n }
      else if n.segment ≠ o.mainSegment ∧ s.failoverNode.isNone ∧
          n.localIndex < s.candMinIndex then
        { s with candMinIndex := n.localIndex, candidate := some n }
      else s
    else s
  else s

/-- The node that {lit}`initiate_failover` promotes, if there is one. -/
def Options.failoverChoice (o : Options) (ns : List Node) : Option Node :=
  let hasFailoverNode := ns.any fun n => 8000 < n.row.hostgroup
  let s := ns.foldl (o.searchStep hasFailoverNode) Search.start
  s.failoverNode <|> s.candidate

/-- The row that {lit}`promote_writer` inserts. -/
def Options.writerRow (o : Options) (n : Node) : Server :=
  { hostgroup := o.writerId
    hostname := n.row.hostname
    port := n.row.port
    status := .online
    weight := n.row.weight
    maxConnections := n.row.maxConnections
    comment := [] }

/-- {lit}`promote_writer`: the rows of the writer group and of its maintenance group are deleted,
and the node is inserted as the writer. -/
def Options.promoteWriter (o : Options) (t : Servers) (n : Node) : Servers :=
  let t' := t.delete fun r => r.hostgroup = o.writerId ∨ r.hostgroup = 9000 + o.writerId
  (t'.insert (o.writerRow n)).getD t'

/-! ## Runs -/

/-- One run of the check. -/
def Options.round (o : Options) (e : Env) (t : Servers) : Servers :=
  match o.evaluateNodes (o.cluster e t) (inKeyOrder (o.getNodes e t)) with
  | none => t
  | some [] =>
      if o.activeFailover ≠ .never ∧ (o.cluster e t).hasWriter = false then
        match o.failoverChoice (inKeyOrder (o.getNodes e t)).reduceOption with
        | some n => o.promoteWriter t n
        | none => t
      else t
  | some items => o.pushChanges items t

/-- The check again and again. -/
def Options.rounds (o : Options) (es : List Env) (t : Servers) : Servers :=
  es.foldl (fun t e => o.round e t) t

@[simp]
theorem Options.rounds_nil (o : Options) (t : Servers) : o.rounds [] t = t :=
  rfl

@[simp]
theorem Options.rounds_cons (o : Options) (e : Env) (es : List Env) (t : Servers) :
    o.rounds (e :: es) t = o.rounds es (o.round e t) :=
  rfl

theorem Options.rounds_append (o : Options) (es es' : List Env) (t : Servers) :
    o.rounds (es ++ es') t = o.rounds es' (o.rounds es t) :=
  List.foldl_append

/-! ## The order of the nodes -/

/-- The order of the keys is an order of the nodes. -/
theorem inKeyOrder_perm {α : Type} (ns : List α) : (inKeyOrder ns).Perm ns := by
  have hsorted := (List.perm_insertionSort (fun a b => a.1 ≤ b.1)
    ((ns.zipIdx 1).map fun n => (Nat.toDigits 10 n.2, n.1))).map Prod.snd
  have hsame : ((ns.zipIdx 1).map fun n => (Nat.toDigits 10 n.2, n.1)).map Prod.snd = ns := by
    rw [List.map_map]
    exact List.zipIdx_map_fst 1 ns
  rw [hsame] at hsorted
  exact hsorted

/-- The nodes of a run are what the threads leave for the visible rows, in some order. -/
theorem Options.getNodes_perm (o : Options) (e : Env) (t : Servers) :
    (inKeyOrder (o.getNodes e t)).Perm ((t.rows.filter (o.isVisible e)).map (o.probeNode e)) :=
  (inKeyOrder_perm _).trans ((List.perm_insertionSort _ _).map _)

/-- A visible row has no node exactly if the connection is refused. -/
theorem Options.probeNode_eq_none {o : Options} {e : Env} {r : Server}
    (hr : o.isVisible e r = true) : o.probeNode e r = none ↔ e.probe r.key = .refused := by
  have hhidden : e.probe r.key ≠ .hidden := by
    simp only [isVisible, Bool.and_eq_true, bne_iff_ne] at hr
    exact hr.2
  rw [probeNode]
  cases hprobe : e.probe r.key with
  | hidden => exact absurd hprobe hhidden
  | refused => simp
  | late => simp
  | reply a => simp

/-- The node of a row is about that row. -/
theorem Options.row_of_probeNode {o : Options} {e : Env} {r : Server} {n : Node}
    (hn : o.probeNode e r = some n) : n.row = r := by
  rw [probeNode] at hn
  split at hn
  · cases hn
  · cases hn
  · cases hn
    rfl
  · cases hn
    rfl

/-- The actions of a run: none at all if a connection was refused. -/
theorem Options.evaluateNodes_eq (o : Options) (c : Cluster) (ns : List (Option Node)) :
    o.evaluateNodes c ns =
      if none ∈ ns then none else some (ns.reduceOption.filterMap (o.evaluateNode c)) := by
  induction ns with
  | nil => rfl
  | cons n ns ih =>
      cases n with
      | none => simp [evaluateNodes]
      | some n =>
          rw [evaluateNodes, ih, List.reduceOption_cons_of_some, List.filterMap_cons]
          by_cases hnone : none ∈ ns
          · simp [hnone]
          · cases o.evaluateNode c n <;> simp [hnone]

/-! ## Decisions -/

/-- A node is taken down by going offline or to the maintenance group. -/
theorem downAction_cases {c : Cluster} {r : Server} {a : Reply} {action : Action}
    (hdown : downAction c r a = some action) :
    action = .moveDownOffline ∨ action = .moveDownHgChange := by
  unfold downAction at hdown
  grind

/-- A node comes back from offline in its group, or from the maintenance group. -/
theorem upAction_cases {r : Server} {reply : Option Reply} {action : Action}
    (hup : upAction r reply = some action) :
    action = .moveUpOffline ∧ r.status = .offlineSoft ∧ r.hostgroup < 9000 ∨
      action = .moveUpHgChange ∧ 9000 ≤ r.hostgroup := by
  unfold upAction at hup
  split at hup
  · rename_i hback
    exact .inl ⟨(Option.some.inj hup).symm, hback.2⟩
  · split at hup
    · rename_i hback
      exact .inr ⟨(Option.some.inj hup).symm, hback.2⟩
    · split at hup
      · rename_i hback
        exact .inr ⟨(Option.some.inj hup).symm, hback.2⟩
      · cases hup

/-- What an action does to a row, once its counter allows it. -/
def Action.apply (r : Server) : Action → Server
  | .moveUpOffline => r.setStatus .online
  | .moveUpHgChange => r.setHostgroup (r.hostgroup - 9000)
  | .moveDownHgChange => r.setHostgroup (9000 + r.hostgroup)
  | .moveDownOffline => r.setStatus .offlineSoft
  | .saveRetry => r

/-- The hostgroups of which rows can be moved by an action. -/
def Action.AllowedFor (hg : Nat) : Action → Prop
  | .moveDownHgChange | .moveDownOffline => hg < 8000
  | .moveUpHgChange => 9000 ≤ hg
  | .moveUpOffline => hg < 9000
  | .saveRetry => True

/-- An evaluated node keeps its row, its comment and its answer, and the action fits its
hostgroup. -/
theorem Options.evaluateNode_row {o : Options} {c : Cluster} {n n' : Node} {a : Action}
    (heval : o.evaluateNode c n = some (a, n')) :
    n'.row = n.row ∧ n'.comment = n.comment ∧ a.AllowedFor n.row.hostgroup := by
  unfold evaluateNode at heval
  split at heval
  · rename_i action hdown
    split at hdown
    · rename_i hgroup
      rcases Option.bind_eq_some_iff.mp hdown with ⟨reply, -, hdown⟩
      cases heval
      refine ⟨by split <;> rfl, by split <;> rfl, ?_⟩
      rcases downAction_cases hdown with rfl | rfl <;> exact hgroup
    · cases hdown
  · split at heval
    · rename_i action hup
      cases heval
      refine ⟨by split <;> rfl, by split <;> rfl, ?_⟩
      rcases upAction_cases hup with ⟨rfl, -, hgroup⟩ | ⟨rfl, hgroup⟩ <;> exact hgroup
    · simp only at heval
      split at heval
      · cases heval
        exact ⟨rfl, rfl, trivial⟩
      · cases heval

/-- The counters of an evaluated node are those of the node, or numbers. -/
theorem Options.evaluateNode_counters {o : Options} {c : Cluster} {n n' : Node} {a : Action}
    (heval : o.evaluateNode c n = some (a, n')) :
    (n'.retryUp = n.retryUp ∨ ∃ k, n'.retryUp = Nat.toDigits 10 k) ∧
      (n'.retryDown = n.retryDown ∨ ∃ k, n'.retryDown = Nat.toDigits 10 k) := by
  unfold evaluateNode at heval
  split at heval
  · cases heval
    split
    · exact ⟨.inl rfl, .inr ⟨_, rfl⟩⟩
    · exact ⟨.inl rfl, .inl rfl⟩
  · split at heval
    · cases heval
      split
      · exact ⟨.inr ⟨_, rfl⟩, .inl rfl⟩
      · exact ⟨.inl rfl, .inl rfl⟩
    · simp only at heval
      split at heval
      · cases heval
        constructor
        · simp only
          split
          · exact .inr ⟨0, rfl⟩
          · exact .inl rfl
        · simp only
          split
          · exact .inr ⟨0, rfl⟩
          · exact .inl rfl
      · cases heval

/-! ## The keys of actions -/

/-- The name that the fields of a key give for a host. -/
def HostName.read (h : HostName) : List Char :=
  h.text.rdropWhile (· == 's')

/-- The key of the row that the statements for a node are for. -/
def Node.target (n : Node) : ServerKey :=
  ⟨n.row.hostgroup, n.row.hostname.read, n.row.port⟩

/-- A field ends at the next semicolon, without the letters {lit}`s` in front of it. -/
theorem splitKeyFrom_field {w : List Char} (hw : ';' ∉ w) (field s : List Char) :
    splitKeyFrom false field (w ++ ';' :: s) =
      ((w.reverse ++ field).dropWhile (· == 's')).reverse :: splitKeyFrom true [] s := by
  induction w generalizing field with
  | nil => simp [splitKeyFrom]
  | cons c w ih =>
      rw [List.mem_cons, not_or] at hw
      rw [List.cons_append, splitKeyFrom, if_neg (by simp), if_neg (Ne.symm hw.1), ih hw.2]
      simp

/-- The last field has everything that is left. -/
theorem splitKeyFrom_last {w : List Char} (hw : ';' ∉ w) (field : List Char) :
    splitKeyFrom false field w = [(w.reverse ++ field).reverse] := by
  induction w generalizing field with
  | nil => simp [splitKeyFrom]
  | cons c w ih =>
      rw [List.mem_cons, not_or] at hw
      rw [splitKeyFrom, if_neg (by simp), if_neg (Ne.symm hw.1), ih hw.2]
      simp

/-- No white space is passed over in front of a number. -/
theorem splitKeyFrom_digits (k : Nat) (s : List Char) :
    splitKeyFrom true [] (Nat.toDigits 10 k ++ s) =
      splitKeyFrom false [] (Nat.toDigits 10 k ++ s) := by
  have hdigits := all_isDigit_toDigits k
  cases htext : Nat.toDigits 10 k with
  | nil => exact absurd htext Nat.toDigits_ne_nil
  | cons d ds =>
      rw [htext, List.all_cons, Bool.and_eq_true] at hdigits
      have hspace : isRegexSpace d = false := by
        rw [Bool.eq_false_iff]
        intro hspace
        simp only [isRegexSpace, List.mem_cons, List.not_mem_nil, or_false, decide_eq_true_eq]
          at hspace
        rcases hspace with rfl | rfl | rfl | rfl | rfl | rfl <;>
          exact absurd hdigits.1 (by decide)
      rw [List.cons_append, splitKeyFrom, splitKeyFrom]
      simp [hspace]

/-- A number does not end in the letter {lit}`s`. -/
theorem rdropWhile_digits (k : Nat) :
    (Nat.toDigits 10 k).rdropWhile (· == 's') = Nat.toDigits 10 k := by
  rw [List.rdropWhile_eq_self_iff]
  intro hne hlast
  have hmem := List.getLast_mem hne
  rw [beq_iff_eq.mp hlast] at hmem
  exact notMem_toDigits (by decide) k hmem

/-- The fields of the key of an action: the host name loses the letters {lit}`s` at its end. -/
theorem splitKey_actionKey (a : Action) (n : Node) :
    splitKey (actionKey a n) = [n.row.hostname.read, Nat.toDigits 10 n.row.port,
      Nat.toDigits 10 n.row.hostgroup, Nat.toDigits 10 a.code] := by
  have hsemi : ∀ k, ';' ∉ Nat.toDigits 10 k := notMem_toDigits (by decide)
  have hnumber : ∀ k s, splitKeyFrom true [] (Nat.toDigits 10 k ++ ';' :: s) =
      Nat.toDigits 10 k :: splitKeyFrom true [] s := by
    intro k s
    rw [splitKeyFrom_digits, splitKeyFrom_field (hsemi k), List.append_nil]
    exact congrArg (· :: _) (rdropWhile_digits k)
  have hlast : splitKeyFrom true [] (Nat.toDigits 10 a.code) = [Nat.toDigits 10 a.code] := by
    have hskip := splitKeyFrom_digits a.code []
    rw [List.append_nil] at hskip
    rw [hskip, splitKeyFrom_last (hsemi _), List.append_nil, List.reverse_reverse]
  rw [splitKey, actionKey, splitKeyFrom_field n.row.hostname.plain, hnumber, hnumber, hlast,
    List.append_nil]
  exact List.rdropWhile_concat_neg _ [_, _, _] _ (by simp [Nat.toDigits_ne_nil])

/-! ## The statements for an action -/

/-- The counter of a node allows an action. -/
def Options.Reached (o : Options) (n : Node) : Action → Prop
  | .moveDownHgChange | .moveDownOffline => o.retryDown ≤ perlNum n.retryDown
  | .moveUpHgChange | .moveUpOffline => o.retryUp ≤ perlNum n.retryUp
  | .saveRetry => True

instance (o : Options) (n : Node) (a : Action) : Decidable (o.Reached n a) := by
  cases a <;> simp only [Options.Reached] <;> infer_instance

/-- The fields of the key are read back as numbers. -/
theorem Options.script_eq (o : Options) (a : Action) (n : Node) :
    o.script (a, n) =
      (o.moveNode n n.row.hostname.read (Nat.toDigits 10 n.row.port)
          (Nat.toDigits 10 n.row.hostgroup) (Nat.toDigits 10 a.code)).map some ++
        o.saveRetry n n.row.hostname.read (Nat.toDigits 10 n.row.port)
          (Nat.toDigits 10 n.row.hostgroup) := by
  rw [script, splitKey_actionKey]

/-- The move of an action: one statement if the counter allows it, which does what the action is
for to the row it is for. -/
theorem Options.moveNode_cases (o : Options) {a : Action} {n : Node}
    (hallowed : a.AllowedFor n.row.hostgroup) :
    ∃ set : Server → Server, (∀ r, r.key = n.target → set r = a.apply r) ∧
      (o.moveNode n n.row.hostname.read (Nat.toDigits 10 n.row.port)
          (Nat.toDigits 10 n.row.hostgroup) (Nat.toDigits 10 a.code) =
        if o.Reached n a ∧ a ≠ .saveRetry then [⟨n.target, set⟩] else []) := by
  have hgroup : ∀ r : Server, r.key = n.target → r.hostgroup = n.row.hostgroup :=
    fun r hr => congrArg ServerKey.hostgroup hr
  rw [moveNode]
  simp only [perlNum_toDigits, updateServer]
  cases a with
  | moveDownOffline =>
      exact ⟨Server.setStatus .offlineSoft, fun r _ => rfl,
        by simp [Action.code, Reached, Node.target]⟩
  | moveUpOffline =>
      exact ⟨Server.setStatus .online, fun r _ => rfl,
        by simp [Action.code, Reached, Node.target]⟩
  | moveDownHgChange =>
      have hlt : n.row.hostgroup < 8000 := hallowed
      have hsmall : ¬ 9000 < n.row.hostgroup := by omega
      refine ⟨Server.setHostgroup (9000 + n.row.hostgroup), fun r hr => ?_, ?_⟩
      · rw [← hgroup r hr]
        rfl
      · simp [Action.code, Reached, Node.target, hsmall]
  | moveUpHgChange =>
      refine ⟨Server.setHostgroup (n.row.hostgroup - 9000), fun r hr => ?_, ?_⟩
      · rw [← hgroup r hr]
        rfl
      · simp [Action.code, Reached, Node.target]
  | saveRetry =>
      exact ⟨id, fun r _ => rfl, by simp [Action.code]⟩

/-- The statement that saves the counters, if they are in use and the comment can be pasted. -/
theorem Options.saveRetry_eq (o : Options) (n : Node) :
    o.saveRetry n n.row.hostname.read (Nat.toDigits 10 n.row.port)
        (Nat.toDigits 10 n.row.hostgroup) =
      if 0 < o.retryUp ∨ 0 < o.retryDown then
        [(pasted (o.savedComment n)).map fun comment => ⟨n.target, Server.setComment comment⟩]
      else [] := by
  simp only [saveRetry, updateServer, perlNum_toDigits]
  rfl

/-- A statement for an action moves the row, or saves the counters. -/
theorem Options.mem_script {o : Options} {a : Action} {n : Node} {s : Statement Server ServerKey}
    (hallowed : a.AllowedFor n.row.hostgroup) (hs : some s ∈ o.script (a, n)) :
    s.target = n.target ∧
      ((∀ r, r.key = n.target → s.set r = a.apply r) ∨
        (0 < o.retryUp ∨ 0 < o.retryDown) ∧ ∃ comment,
          pasted (o.savedComment n) = some comment ∧ s.set = Server.setComment comment) := by
  rcases o.moveNode_cases hallowed with ⟨set, hset, hmove⟩
  rw [script_eq, hmove, saveRetry_eq, List.mem_append] at hs
  rcases hs with hs | hs
  · split at hs
    · simp only [List.map_singleton, List.mem_singleton, Option.some.injEq] at hs
      subst hs
      exact ⟨rfl, .inl hset⟩
    · cases hs
  · split at hs
    · rename_i hretry
      rw [List.mem_singleton] at hs
      rcases Option.map_eq_some_iff.mp hs.symm with ⟨comment, hcomment, rfl⟩
      exact ⟨rfl, .inr ⟨hretry, comment, hcomment, rfl⟩⟩
    · cases hs

/-- The comment that is saved for a node has no quote in it. -/
def Options.Pastes (o : Options) (n : Node) : Prop :=
  0 < o.retryUp ∨ 0 < o.retryDown → quote ∉ o.savedComment n

/-- The statements for an action whose comment has no quote in it. -/
def Options.statements (o : Options) (item : Action × Node) :
    List (Statement Server ServerKey) :=
  o.moveNode item.2 item.2.row.hostname.read (Nat.toDigits 10 item.2.row.port)
      (Nat.toDigits 10 item.2.row.hostgroup) (Nat.toDigits 10 item.1.code) ++
    if 0 < o.retryUp ∨ 0 < o.retryDown then
      [⟨item.2.target, Server.setComment (o.savedComment item.2)⟩]
    else []

/-- Then everything that is executed is a statement. -/
theorem Options.Pastes.script_eq {o : Options} {n : Node} (hpastes : o.Pastes n) (a : Action) :
    o.script (a, n) = (o.statements (a, n)).map some := by
  rw [Options.script_eq, saveRetry_eq, statements, List.map_append]
  by_cases hretry : 0 < o.retryUp ∨ 0 < o.retryDown
  · rw [if_pos hretry, if_pos hretry, pasted_of_notMem (hpastes hretry)]
    rfl
  · rw [if_neg hretry, if_neg hretry]
    rfl

/-- The row after its action: it is moved if the counter allows it, and the counters are saved if
it is still in its hostgroup. -/
def Options.settle (o : Options) (a : Action) (n : Node) (r : Server) : Server :=
  let moved := if o.Reached n a then a.apply r else r
  if (0 < o.retryUp ∨ 0 < o.retryDown) ∧ moved.hostgroup = r.hostgroup then
    moved.setComment (o.savedComment n)
  else moved

/-- Two rows for one host and port have the same key exactly if they are in the same
hostgroup. -/
theorem Server.key_eq_iff {r r' : Server} (hhost : r'.hostname = r.hostname)
    (hport : r'.port = r.port) : r'.key = r.key ↔ r'.hostgroup = r.hostgroup := by
  constructor
  · exact fun hkey => congrArg ServerKey.hostgroup hkey
  · intro hgroup
    rw [Server.key, Server.key, hgroup, hhost, hport]

@[simp]
theorem Action.hostname_apply (a : Action) (r : Server) : (a.apply r).hostname = r.hostname := by
  cases a <;> simp [apply]

@[simp]
theorem Action.port_apply (a : Action) (r : Server) : (a.apply r).port = r.port := by
  cases a <;> simp [apply]

@[simp]
theorem Action.comment_apply (a : Action) (r : Server) : (a.apply r).comment = r.comment := by
  cases a <;> simp [apply]

/-- The statements for an action do to the row what the action is for. -/
theorem Options.follow_statements {o : Options} {a : Action} {n : Node} {r : Server}
    (hallowed : a.AllowedFor n.row.hostgroup) (hr : r.key = n.target) :
    follow Server.key (o.statements (a, n)) r = o.settle a n r := by
  rcases o.moveNode_cases hallowed with ⟨set, hset, hmove⟩
  rw [statements, hmove, follow_append, settle]
  have hmoved : follow Server.key
      (if o.Reached n a ∧ a ≠ .saveRetry then [⟨n.target, set⟩] else []) r =
        if o.Reached n a then a.apply r else r := by
    by_cases hreached : o.Reached n a
    · by_cases hsave : a = .saveRetry
      · subst hsave
        rw [if_neg (by simp), if_pos hreached]
        rfl
      · rw [if_pos ⟨hreached, hsave⟩, if_pos hreached]
        exact (Statement.onRow_of_eq hr).trans (hset r hr)
    · rw [if_neg (fun h => hreached h.1), if_neg hreached]
      rfl
  rw [hmoved]
  generalize hval : (if o.Reached n a then a.apply r else r) = moved
  have hkey : moved.key = n.target ↔ moved.hostgroup = r.hostgroup := by
    rw [← hr, ← hval]
    split
    · exact Server.key_eq_iff (a.hostname_apply r) (a.port_apply r)
    · simp
  by_cases hretry : 0 < o.retryUp ∨ 0 < o.retryDown
  · rw [if_pos hretry]
    by_cases hsame : moved.hostgroup = r.hostgroup
    · rw [if_pos ⟨hretry, hsame⟩]
      exact Statement.onRow_of_eq (hkey.mpr hsame)
    · rw [if_neg fun h => hsame h.2]
      exact Statement.onRow_of_ne fun h => hsame (hkey.mp h)
  · rw [if_neg hretry, if_neg fun h => hretry h.1]
    rfl

end Proxysql
end ClusterPlaybooks
