import ClusterPlaybooks.Proxysql.Placement
import Mathlib.Data.Finset.Card

/-!
# The Galera check without counters

If no counters are in use, a run applies the action of every row at once.  What a run leaves
online in a hostgroup is fit to serve, apart from servers that come back from the maintenance
group in maintenance mode.  If the servers keep giving the same answers, the table stops changing
after three runs: two runs bring every row to the place its answer calls for, and in the third
run writers that are donors may still go offline because other writers have come back.

Main results:

- Theorem {lit}`round_serves_fit`: what is online after a run is fit to serve.
- Theorem {lit}`rounds_settle`: the table does not change any more after three runs.
- Theorem {lit}`read_only_donors_all_offline`: a group of which all servers are read-only donors
  has no server online after one run.
-/

namespace ClusterPlaybooks
namespace Proxysql

open Text Relational

/-! ## Rows without counters -/

/-- The action for a row, if no counters are in use. -/
def rowAction (c : Cluster) (r : Server) : Probe → Option Action
  | .hidden | .refused => none
  | .late => upAction r none
  | .reply a => (if r.hostgroup < 8000 then downAction c r a else none) <|> upAction r (some a)

/-- The row after its action. -/
def rowStep (c : Cluster) (p : Probe) (r : Server) : Server :=
  match rowAction c r p with
  | some a => a.apply r
  | none => r

/-- No counters are in use. -/
def Options.NoRetry (o : Options) : Prop :=
  o.retryUp = 0 ∧ o.retryDown = 0

/-- Without counters an action is done at once. -/
theorem Options.NoRetry.settle_eq {o : Options} (hretry : o.NoRetry) (a : Action) (n : Node)
    (r : Server) : o.settle a n r = a.apply r := by
  have hreached : o.Reached n a := by
    cases a <;> simp [Reached, hretry.1, hretry.2]
  rw [settle, if_pos hreached, if_neg (by simp [hretry.1, hretry.2])]

/-- Without counters a node has the action of its row. -/
theorem Options.NoRetry.evaluateNode_eq {o : Options} (hretry : o.NoRetry) (c : Cluster)
    (n : Node) :
    o.evaluateNode c n =
      ((if n.row.hostgroup < 8000 then n.reply.bind (downAction c n.row) else none) <|>
        upAction n.row n.reply).map fun a => (a, n) := by
  rw [evaluateNode]
  cases hdown : (if n.row.hostgroup < 8000 then n.reply.bind (downAction c n.row) else none) with
  | some a => simp [hretry.2]
  | none =>
      cases hup : upAction n.row n.reply with
      | some a => simp [hretry.1]
      | none => simp [hretry.1, hretry.2]

/-- Without counters the policy is the step of every visible row. -/
theorem Options.NoRetry.policy_eq {o : Options} (hretry : o.NoRetry) (e : Env) (c : Cluster)
    (r : Server) :
    o.policy e c r = if o.isVisible e r then rowStep c (e.probe r.key) r else r := by
  rw [policy, decision]
  by_cases hvisible : o.isVisible e r = true
  · rw [if_pos hvisible, if_pos hvisible, probeNode, rowStep]
    cases hprobe : e.probe r.key with
    | hidden => rfl
    | refused => rfl
    | late =>
        have hnone : (if r.hostgroup < 8000 then none else none : Option Action) = none := by
          split <;> rfl
        simp only [Option.bind_some, hretry.evaluateNode_eq, setRetryUpDown, Option.bind_none,
          hnone, rowAction]
        cases upAction r none <;> simp [hretry.settle_eq]
    | reply a =>
        simp only [Option.bind_some, hretry.evaluateNode_eq, setRetryUpDown, rowAction]
        cases ((if r.hostgroup < 8000 then downAction c r a else none) <|>
          upAction r (some a)) <;> simp [hretry.settle_eq]
  · rw [if_neg hvisible, if_neg hvisible]

/-! ## The rules -/

/-- The maintenance mode does not keep a node away. -/
def Reply.maintOk (a : Reply) : Prop :=
  a.maintMode = none ∨ a.maintMode = some .disabled

instance (a : Reply) : Decidable a.maintOk :=
  inferInstanceAs (Decidable (_ ∨ _))

/-- A writer that is a donor, and would go offline if there were another server in its
hostgroup. -/
def Donor (size : Nat → Nat) (r : Server) (a : Reply) : Prop :=
  r.hostgroup < 8000 ∧ r.status ≠ .offlineSoft ∧ a.localState = some 2 ∧ a.readOnly = .off ∧
    a.donorRejects = .off ∧ a.clusterStatus = .primary ∧ a.rejectQueries = .none ∧
    2 ≤ a.segment.elim 0 size ∧ a.maintOk

section Rules

variable {c c' : Cluster} {r : Server} {a : Reply}

/-- What is offline does not go offline. -/
theorem status_of_downAction (hdown : downAction c r a = some .moveDownOffline) :
    r.status ≠ .offlineSoft := by
  unfold downAction at hdown
  grind

/-- A node that is ready goes down only for its maintenance mode. -/
theorem downAction_of_synced (hsynced : a.synced) :
    downAction c r a =
      if a.maintOk ∨ r.status = .offlineSoft then none else some .moveDownOffline := by
  unfold downAction Reply.maintOk
  unfold Reply.synced at hsynced
  grind

/-- A donor goes offline exactly if its hostgroup has another server. -/
theorem downAction_of_donor (hdonor : Donor c.size r a) :
    downAction c r a =
      if 1 < c.hostgroupSize r.hostgroup then some .moveDownOffline else none := by
  unfold Donor Reply.maintOk at hdonor
  unfold downAction
  grind

/-- For all others the numbers of servers in the hostgroups do not matter. -/
theorem downAction_congr (hsize : c.size = c'.size) (hgroup : r.hostgroup < 8000)
    (hdonor : ¬ Donor c.size r a) : downAction c r a = downAction c' r a := by
  unfold downAction
  rw [← hsize]
  -- the first five rules do not look at the hostgroup
  refine ite_congr rfl (fun _ => rfl) fun _ => ?_
  refine ite_congr rfl (fun _ => rfl) fun _ => ?_
  refine ite_congr rfl (fun _ => rfl) fun hprimary => ?_
  refine ite_congr rfl (fun _ => rfl) fun hreject => ?_
  refine ite_congr rfl (fun _ => rfl) fun _ => ?_
  by_cases hrule : a.localState = some 2 ∧ a.readOnly = .off ∧ a.donorRejects = .off ∧
      2 ≤ a.segment.elim 0 c.size ∧ r.status ≠ .offlineSoft
  · -- then the maintenance mode alone takes the node down
    have hmaint : ¬ a.maintOk := fun hmaint => hdonor
      ⟨hgroup, hrule.2.2.2.2, hrule.1, hrule.2.1, hrule.2.2.1, by simpa using hprimary,
        by simpa [hrule.2.2.2.2] using hreject, hrule.2.2.2.1, hmaint⟩
    rw [Reply.maintOk, not_or] at hmaint
    rw [if_pos (show a.maintMode ≠ none ∧ a.maintMode ≠ some .disabled ∧
      r.status ≠ .offlineSoft from ⟨hmaint.1, hmaint.2, hrule.2.2.2.2⟩), ite_self, ite_self]
  · have hskip : ∀ k, ¬ (a.localState = some 2 ∧ a.readOnly = .off ∧ a.donorRejects = .off ∧
        2 ≤ a.segment.elim 0 c.size ∧ 1 < k ∧ r.status ≠ .offlineSoft) := fun k h =>
      hrule ⟨h.1, h.2.1, h.2.2.1, h.2.2.2.1, h.2.2.2.2.2⟩
    rw [if_neg (hskip _), if_neg (hskip _)]

/-- A donor that is offline stays there. -/
theorem downAction_of_offline_donor (hdonor : Donor c.size r a) :
    downAction c' (r.setStatus .offlineSoft) a = none := by
  unfold Donor Reply.maintOk at hdonor
  unfold downAction
  grind [Server.setStatus_fields]

end Rules

/-! ## Two steps of one row -/

/-- The only thing that can still happen to a row is that a donor goes offline. -/
def Calm (size : Nat → Nat) (p : Probe) (r : Server) : Prop :=
  (∀ c, c.size = size → rowStep c p r = r) ∨
    ∃ a, p = .reply a ∧ Donor size r a

section Steps

variable {size : Nat → Nat} {c c' : Cluster} {p : Probe} {r : Server} {a : Reply}

/-- A server that does not answer in time goes home. -/
theorem rowStep_late (c : Cluster) (r : Server) :
    rowStep c .late r =
      if 9000 ≤ r.hostgroup then r.setHostgroup (r.hostgroup - 9000) else r := by
  rw [rowStep, rowAction, upAction]
  by_cases hgroup : 9000 ≤ r.hostgroup <;> simp [hgroup, Action.apply]

/-- A server that is ready goes home and then online, or offline for its maintenance mode. -/
theorem rowStep_synced (hsynced : a.synced) (c : Cluster) (r : Server) :
    rowStep c (.reply a) r =
      if 9000 ≤ r.hostgroup then r.setHostgroup (r.hostgroup - 9000)
      else if a.maintOk then
        if r.status = .offlineSoft then r.setStatus .online else r
      else if r.hostgroup < 8000 ∧ r.status ≠ .offlineSoft then r.setStatus .offlineSoft
      else r := by
  rw [rowStep, rowAction, upAction, downAction_of_synced hsynced]
  by_cases hgroup : 9000 ≤ r.hostgroup
  · have h8000 : ¬ r.hostgroup < 8000 := by omega
    have h9000 : ¬ r.hostgroup < 9000 := by omega
    simp [hgroup, h8000, h9000, hsynced, Action.apply]
  · have h9000 : r.hostgroup < 9000 := by omega
    by_cases hmaint : a.maintOk
    · have hmode : a.maintMode = none ∨ a.maintMode = some .disabled := hmaint
      by_cases hstatus : r.status = .offlineSoft <;>
        simp [hgroup, h9000, hmaint, hmode, hstatus, hsynced, Action.apply]
    · have hmode : ¬ (a.maintMode = none ∨ a.maintMode = some .disabled) := hmaint
      by_cases hstatus : r.status = .offlineSoft
      · simp [hgroup, hmaint, hmode, hstatus]
      · by_cases h8000 : r.hostgroup < 8000 <;>
          simp [hgroup, hmaint, hmode, hstatus, h8000, Action.apply]

/-- A server that is not ready only goes down. -/
theorem rowStep_not_synced (hsynced : ¬ a.synced) (c : Cluster) (r : Server) :
    rowStep c (.reply a) r =
      if r.hostgroup < 8000 then
        match downAction c r a with
        | some action => action.apply r
        | none => r
      else r := by
  have hup : upAction r (some a) = none := by
    simp [upAction, hsynced]
  rw [rowStep, rowAction, hup]
  by_cases hgroup : r.hostgroup < 8000
  · simp only [if_pos hgroup]
    cases downAction c r a <;> rfl
  · simp only [if_neg hgroup]
    rfl

/-- A donor is not ready. -/
theorem Donor.not_synced (hdonor : Donor size r a) : ¬ a.synced := by
  intro hsynced
  have hstate := hdonor.2.2.1
  rw [hsynced.1] at hstate
  cases hstate

/-- A donor goes offline exactly if its hostgroup has another server. -/
theorem Donor.rowStep_eq (hdonor : Donor size r a) (hc : c.size = size) :
    rowStep c (.reply a) r =
      if 1 < c.hostgroupSize r.hostgroup then r.setStatus .offlineSoft else r := by
  rw [rowStep_not_synced hdonor.not_synced, if_pos hdonor.1, downAction_of_donor (hc ▸ hdonor)]
  by_cases hmore : 1 < c.hostgroupSize r.hostgroup <;> simp [hmore, Action.apply]

/-- A donor that went offline stays there. -/
theorem Donor.rowStep_offline (hdonor : Donor size r a) (hc : c.size = size) :
    rowStep c (.reply a) (r.setStatus .offlineSoft) = r.setStatus .offlineSoft := by
  rw [rowStep_not_synced hdonor.not_synced, downAction_of_offline_donor (hc ▸ hdonor)]
  split <;> rfl

/-- A calm row stays calm. -/
theorem Calm.rowStep (hcalm : Calm size p r) (hc : c.size = size) :
    Calm size p (rowStep c p r) := by
  rcases hcalm with hfixed | ⟨a, rfl, hdonor⟩
  · rw [hfixed c hc]
    exact .inl hfixed
  · rw [hdonor.rowStep_eq hc]
    split
    · exact .inl fun c hc => hdonor.rowStep_offline hc
    · exact .inr ⟨a, rfl, hdonor⟩

/-- What is in the maintenance group and not ready stays there. -/
theorem calm_of_not_synced (hsynced : ¬ a.synced) (hgroup : 8000 ≤ r.hostgroup) :
    Calm size (.reply a) r := by
  left
  intro c _
  rw [rowStep_not_synced hsynced, if_neg (by omega)]

/-- One step from offline brings a server that is not ready to its place. -/
theorem calm_of_offline (hsynced : ¬ a.synced) (hstatus : r.status = .offlineSoft)
    (hc : c.size = size) : Calm size (.reply a) (rowStep c (.reply a) r) := by
  by_cases hgroup : r.hostgroup < 8000
  · have hdonor : ¬ Donor size r a := fun h => h.2.1 hstatus
    rw [rowStep_not_synced hsynced, if_pos hgroup]
    cases hdown : downAction c r a with
    | none =>
        left
        intro c' hc'
        rw [rowStep_not_synced hsynced, if_pos hgroup,
          downAction_congr (hc'.trans hc.symm) hgroup (hc' ▸ hdonor), hdown]
    | some action =>
        rcases downAction_cases hdown with rfl | rfl
        · exact absurd hstatus (status_of_downAction hdown)
        · apply calm_of_not_synced hsynced
          simp only [Action.apply, Server.setHostgroup_fields]
          omega
  · have hstep : rowStep c (.reply a) r = r := by
      rw [rowStep_not_synced hsynced, if_neg hgroup]
    rw [hstep]
    exact calm_of_not_synced hsynced (by omega)

/-- One step brings a server that is ready and at home to its place. -/
theorem rowStep_of_home (hsynced : a.synced) (hgroup : r.hostgroup < 9000) (c c' : Cluster) :
    rowStep c' (.reply a) (rowStep c (.reply a) r) = rowStep c (.reply a) r := by
  rw [rowStep_synced hsynced c r, if_neg (by omega)]
  by_cases hmaint : a.maintOk
  · rw [if_pos hmaint]
    split
    · rw [rowStep_synced hsynced]
      simp [hmaint, hgroup]
    · rename_i hstatus
      rw [rowStep_synced hsynced]
      simp [hmaint, hgroup, hstatus]
  · rw [if_neg hmaint]
    split
    · rw [rowStep_synced hsynced]
      simp [hmaint, hgroup]
    · rename_i hstatus
      rw [rowStep_synced hsynced, if_neg (by omega), if_neg hmaint, if_neg hstatus]

/-- A server that is not ready and not offline is at its place after two steps. -/
theorem calm_of_not_offline (hsynced : ¬ a.synced) (hc : c.size = size) (hc' : c'.size = size) :
    Calm size (.reply a) (rowStep c' (.reply a) (rowStep c (.reply a) r)) := by
  by_cases hgroup : r.hostgroup < 8000
  · by_cases hdonor : Donor size r a
    · exact (Calm.rowStep (.inr ⟨a, rfl, hdonor⟩) hc).rowStep hc'
    · cases hdown : downAction c r a with
      | none =>
          refine (Calm.rowStep (.inl fun c'' hc'' => ?_) hc).rowStep hc'
          rw [rowStep_not_synced hsynced, if_pos hgroup,
            downAction_congr (hc''.trans hc.symm) hgroup (hc'' ▸ hdonor), hdown]
      | some action =>
          rw [rowStep_not_synced hsynced c r, if_pos hgroup, hdown]
          rcases downAction_cases hdown with rfl | rfl
          · exact calm_of_offline hsynced (by simp [Action.apply]) hc'
          · apply Calm.rowStep _ hc'
            apply calm_of_not_synced hsynced
            simp only [Action.apply, Server.setHostgroup_fields]
            omega
  · exact ((calm_of_not_synced hsynced (by omega)).rowStep hc).rowStep hc'

/-- Two steps bring every row to its place. -/
theorem calm_rowStep_rowStep (hbound : r.hostgroup < 17000) (hc : c.size = size)
    (hc' : c'.size = size) : Calm size p (rowStep c' p (rowStep c p r)) := by
  cases p with
  | hidden => exact .inl fun _ _ => rfl
  | refused => exact .inl fun _ _ => rfl
  | late =>
      left
      intro c'' _
      have hhome : ∀ r' : Server, r'.hostgroup < 9000 → ∀ c, rowStep c .late r' = r' := by
        intro r' hr' c
        rw [rowStep_late, if_neg (by omega)]
      have hfirst : (rowStep c .late r).hostgroup < 9000 := by
        rw [rowStep_late]
        split
        · simp only [Server.setHostgroup_fields]
          omega
        · omega
      rw [hhome _ hfirst c', hhome _ hfirst c'']
  | reply a =>
      by_cases hsynced : a.synced
      · left
        intro c'' _
        by_cases hgroup : r.hostgroup < 9000
        · rw [rowStep_of_home hsynced hgroup, rowStep_of_home hsynced hgroup]
        · apply rowStep_of_home hsynced
          rw [rowStep_synced hsynced, if_pos (by omega)]
          simp only [Server.setHostgroup_fields]
          omega
      · exact calm_of_not_offline hsynced hc hc'

end Steps

/-! ## The counts of a run -/

/-- The answer that comes in time for a row. -/
def Env.answer (e : Env) (r : Server) : Option Reply :=
  match e.probe r.key with
  | .reply a => some a
  | _ => none

/-- The segment of a row of which the server has answered. -/
def Env.answeredSegment (e : Env) (r : Server) : Option Nat :=
  (e.answer r).bind Reply.segment

/-- The nodes with an answer are those of the visible rows with an answer. -/
theorem Options.answered_nodes (o : Options) (e : Env) (rows : List Server) :
    ((rows.filter (o.isVisible e)).filterMap (o.probeNode e)).filter (fun n => n.reply.isSome) =
      (rows.filter fun r => o.isVisible e r && (e.answer r).isSome).map
        fun r => o.setRetryUpDown r (e.answer r) := by
  induction rows with
  | nil => rfl
  | cons r rows ih =>
      by_cases hvisible : o.isVisible e r = true
      · rw [List.filter_cons_of_pos hvisible, List.filterMap_cons, List.filter_cons, hvisible,
          Bool.true_and, probeNode, Env.answer]
        cases hprobe : e.probe r.key <;> simp [ih, setRetryUpDown, Env.answer, hprobe]
      · rw [List.filter_cons_of_neg hvisible, List.filter_cons_of_neg (by simp [hvisible]), ih]

/-- The threads that end in time are those of the visible rows with an answer. -/
theorem Options.joined_perm (o : Options) (e : Env) (t : Servers) :
    (e.joinOrder ((o.getNodes e t).reduceOption.filter fun n => n.reply.isSome)).Perm
      ((t.rows.filter fun r => o.isVisible e r && (e.answer r).isSome).map
        fun r => o.setRetryUpDown r (e.answer r)) := by
  have hsorted := ((List.perm_insertionSort rowLe (t.rows.filter (o.isVisible e))).filterMap
    (o.probeNode e)).filter fun n => n.reply.isSome
  refine (e.joinOrder_perm _).trans ?_
  rw [getNodes, List.reduceOption, List.filterMap_map]
  rwa [answered_nodes] at hsorted

/-- The size of a hostgroup is the number of rows in it that are not offline and of which the
server has answered with its segment. -/
theorem Options.hostgroupSize_eq (o : Options) (e : Env) (t : Servers) (hg : Nat) :
    (o.cluster e t).hostgroupSize hg = t.rows.countP fun r =>
      o.isVisible e r && (e.answeredSegment r).isSome && r.hostgroup == hg &&
        r.status != .offlineSoft := by
  rw [cluster, processNodes]
  simp only [(o.joined_perm e t).countP_eq, List.countP_map, List.countP_filter]
  apply List.countP_congr
  intro r _
  cases hanswer : e.answer r with
  | none => simp [Env.answeredSegment, hanswer]
  | some a => simp [Env.answeredSegment, hanswer, setRetryUpDown]; tauto

/-- The hosts of the nodes in a segment. -/
def hostsIn (s : Nat) (ns : List Node) : Finset HostName :=
  ((ns.filter fun n => n.reply.bind Reply.segment = some s).map fun n => n.row.hostname).toFinset

/-- The hosts of the nodes of a segment, with one node more. -/
theorem hostsIn_cons (s : Nat) (n : Node) (ns : List Node) :
    hostsIn s (n :: ns) =
      if n.reply.bind Reply.segment = some s then insert n.row.hostname (hostsIn s ns)
      else hostsIn s ns := by
  by_cases hsegment : n.reply.bind Reply.segment = some s <;> simp [hostsIn, hsegment]

/-- One node is counted for every host, whatever the order. -/
theorem countP_counted {ns : List Node} {s : Nat}
    (hsegments : ∀ n ∈ ns, ∀ n' ∈ ns, n.row.hostname = n'.row.hostname →
      n.reply.bind Reply.segment = n'.reply.bind Reply.segment) (seen : List HostName) :
    ((counted seen ns).countP fun n => n.reply.bind Reply.segment = some s) =
      (hostsIn s ns \ seen.toFinset).card := by
  induction ns generalizing seen with
  | nil => simp [counted, hostsIn]
  | cons n ns ih =>
      have hrest := ih fun m hm m' hm' =>
        hsegments m (List.mem_cons_of_mem n hm) m' (List.mem_cons_of_mem n hm')
      rw [counted, hostsIn_cons]
      by_cases hseen : n.row.hostname ∈ seen
      · -- the host has been counted already
        rw [if_neg fun h => h.1 hseen, hrest]
        split
        · rw [Finset.insert_sdiff_of_mem _ (List.mem_toFinset.mpr hseen)]
        · rfl
      · by_cases hdefined : (n.reply.bind Reply.segment).isSome
        · rw [if_pos ⟨hseen, hdefined⟩, List.countP_cons, hrest, List.toFinset_cons]
          by_cases hsegment : n.reply.bind Reply.segment = some s
          · have hsame : insert n.row.hostname (hostsIn s ns) \ seen.toFinset =
                insert n.row.hostname (hostsIn s ns \ insert n.row.hostname seen.toFinset) := by
              ext h
              by_cases heq : h = n.row.hostname
              · simp [heq, hseen]
              · simp [heq]
            rw [if_pos hsegment, hsame, Finset.card_insert_of_notMem (by simp)]
            simp [hsegment]
          · -- no other node of this host is in the segment
            have hother : n.row.hostname ∉ hostsIn s ns := by
              intro hmem
              simp only [hostsIn, List.mem_toFinset, List.mem_map, List.mem_filter,
                decide_eq_true_eq] at hmem
              rcases hmem with ⟨m, ⟨hm, hms⟩, hhost⟩
              refine hsegment ((hsegments n List.mem_cons_self m ?_ hhost.symm).trans hms)
              exact List.mem_cons_of_mem n hm
            rw [if_neg hsegment, Finset.sdiff_insert_of_notMem hother]
            simp [hsegment]
        · have hsegment : n.reply.bind Reply.segment ≠ some s := by
            intro h
            rw [h] at hdefined
            exact hdefined rfl
          rw [if_neg fun h => hdefined h.2, hrest, if_neg hsegment]

/-- Answers that do not change between runs: they depend on the server only, and the servers on
one host are in one segment. -/
structure Env.Steady (e : Env) : Prop where
  site : ∀ k k', k.hostname = k'.hostname → k.port = k'.port → e.probe k = e.probe k'
  segment : ∀ r r', r.hostname = r'.hostname → (e.answer r).isSome → (e.answer r').isSome →
    e.answeredSegment r = e.answeredSegment r'

/-- The size of a segment is the number of hosts of which a server has answered with this
segment. -/
theorem Env.Steady.size_eq {e : Env} (hsteady : e.Steady) (o : Options) (t : Servers) (s : Nat) :
    (o.cluster e t).size s =
      ((t.rows.filter fun r => o.isVisible e r && (e.answeredSegment r == some s)).map
        Server.hostname).toFinset.card := by
  have hperm := o.joined_perm e t
  rw [Options.cluster, Options.processNodes]
  simp only
  rw [countP_counted, List.toFinset_nil, Finset.sdiff_empty]
  · congr 1
    ext h
    simp only [hostsIn, List.mem_toFinset, List.mem_map, List.mem_filter, hperm.mem_iff]
    constructor
    · rintro ⟨n, ⟨⟨r, ⟨hr, hvisible⟩, rfl⟩, hs⟩, rfl⟩
      rw [Bool.and_eq_true] at hvisible
      refine ⟨r, ⟨hr, ?_⟩, rfl⟩
      rw [hvisible.1, Bool.true_and, beq_iff_eq]
      exact of_decide_eq_true hs
    · rintro ⟨r, ⟨hr, hvisible⟩, rfl⟩
      rw [Bool.and_eq_true, beq_iff_eq] at hvisible
      have hanswer : (e.answer r).isSome := by
        rcases Option.bind_eq_some_iff.mp hvisible.2 with ⟨a, ha, -⟩
        rw [ha]
        rfl
      refine ⟨_, ⟨⟨r, ⟨hr, by rw [hvisible.1, hanswer]; rfl⟩, rfl⟩, ?_⟩, rfl⟩
      exact decide_eq_true hvisible.2
  · intro n hn n' hn' hhost
    rw [hperm.mem_iff, List.mem_map] at hn hn'
    rcases hn with ⟨r, hr, rfl⟩
    rcases hn' with ⟨r', hr', rfl⟩
    rw [List.mem_filter, Bool.and_eq_true] at hr hr'
    exact hsteady.segment r r' hhost hr.2.2 hr'.2.2

/-! ## Runs with the same answers -/

/-- The ranges of the hostgroups are separate, the check can name every server of the table and
paste every comment, and no two rows have the same home. -/
structure Options.Regular (o : Options) (t : Servers) : Prop where
  separate : o.Separate
  names : ∀ r ∈ t.rows, r.hostname.text.getLast? ≠ some 's'
  unquoted : o.Unquoted t
  homes : (t.rows.map Server.home).Nodup

/-- A run leaves a regular table regular. -/
theorem Options.Regular.round {o : Options} {t : Servers} (hregular : o.Regular t)
    (hnever : o.activeFailover = .never) (e : Env) : o.Regular (o.round e t) := by
  have hkept := kept_round hregular.separate hnever e t
  have hhomes : (o.round e t).rows.map Server.home = t.rows.map Server.home := by
    have hfirst := congrArg (List.map Prod.fst) hkept
    rwa [List.map_map, List.map_map] at hfirst
  refine ⟨hregular.separate, fun r' hr' => ?_, hregular.unquoted.round hnever e,
    hhomes ▸ hregular.homes⟩
  have hmem : r'.home ∈ t.rows.map Server.home := hhomes ▸ List.mem_map_of_mem hr'
  rcases List.mem_map.mp hmem with ⟨r, hr, hhome⟩
  have hname : r.hostname.text = r'.hostname.text := congrArg ServerKey.hostname hhome
  exact hname ▸ hregular.names r hr

/-- The step of a row leaves the server and its home as they are, and keeps the row in managed
hostgroups. -/
theorem rowStep_server {o : Options} (hsep : o.Separate) {r : Server}
    (hmanaged : r.hostgroup ∈ o.managed) (c : Cluster) (p : Probe) :
    (rowStep c p r).hostname = r.hostname ∧ (rowStep c p r).port = r.port ∧
      (rowStep c p r).home = r.home ∧ (rowStep c p r).hostgroup ∈ o.managed := by
  rw [rowStep]
  cases haction : rowAction c r p with
  | none => exact ⟨rfl, rfl, rfl, hmanaged⟩
  | some action =>
      have hallowed : action.AllowedFor r.hostgroup := by
        cases p with
        | hidden | refused => cases haction
        | late =>
            rcases upAction_cases haction with ⟨rfl, -, hgroup⟩ | ⟨rfl, hgroup⟩ <;> exact hgroup
        | reply a =>
            rw [rowAction] at haction
            by_cases hgroup : r.hostgroup < 8000
            · rw [if_pos hgroup] at haction
              cases hdown : downAction c r a with
              | some down =>
                  rw [hdown] at haction
                  cases haction
                  rcases downAction_cases hdown with rfl | rfl <;> exact hgroup
              | none =>
                  rw [hdown] at haction
                  rcases upAction_cases haction with ⟨rfl, -, hgroup⟩ | ⟨rfl, hgroup⟩ <;>
                    exact hgroup
            · rw [if_neg hgroup] at haction
              rcases upAction_cases haction with ⟨rfl, -, hgroup⟩ | ⟨rfl, hgroup⟩ <;>
                exact hgroup
      have hkept := Options.kept_apply hsep hallowed hmanaged
      refine ⟨action.hostname_apply r, action.port_apply r, congrArg Prod.fst hkept, ?_⟩
      have hfourth := congrArg (fun k => k.2.2.2) hkept
      simp only [Options.kept, if_pos hmanaged] at hfourth
      by_contra hout
      rw [if_neg hout] at hfourth
      cases hfourth

section SameAnswers

variable {o : Options} {e : Env} {t : Servers}

/-- What a run does to a row whose server gives the same answers as before. -/
def Options.again (o : Options) (e : Env) (c : Cluster) (r : Server) : Server :=
  if o.isVisible e r then rowStep c (e.probe r.key) r else r

/-- A row has the same home after a run. -/
theorem Options.home_again (o : Options) (hsep : o.Separate) (e : Env) (c : Cluster) (r : Server) :
    (o.again e c r).home = r.home := by
  rw [again]
  split
  · rename_i hvisible
    simp only [isVisible, Bool.and_eq_true, List.contains_iff_mem] at hvisible
    exact (rowStep_server hsep hvisible.1 c _).2.2.1
  · rfl

/-- A row has the same server, the same visibility and the same probe after a run. -/
theorem Env.Steady.again_server (hsteady : e.Steady) (hsep : o.Separate) (c : Cluster)
    (r : Server) :
    (o.again e c r).hostname = r.hostname ∧ e.probe (o.again e c r).key = e.probe r.key ∧
      o.isVisible e (o.again e c r) = o.isVisible e r := by
  rw [Options.again]
  by_cases hvisible : o.isVisible e r = true
  · have hmanaged : r.hostgroup ∈ o.managed := by
      simp only [Options.isVisible, Bool.and_eq_true, List.contains_iff_mem] at hvisible
      exact hvisible.1
    rw [if_pos hvisible]
    rcases rowStep_server hsep hmanaged c (e.probe r.key) with ⟨hhost, hport, -, hstays⟩
    have hprobe : e.probe (rowStep c (e.probe r.key) r).key = e.probe r.key :=
      hsteady.site _ _ (congrArg HostName.text hhost) hport
    refine ⟨hhost, hprobe, ?_⟩
    rw [Options.isVisible, Options.isVisible, hprobe, List.contains_iff_mem.mpr hstays,
      List.contains_iff_mem.mpr hmanaged]
  · rw [if_neg hvisible]
    exact ⟨rfl, rfl, rfl⟩

/-- The segment of a row is the same after a run. -/
theorem Env.Steady.again_segment (hsteady : e.Steady) (hsep : o.Separate) (c : Cluster)
    (r : Server) : e.answeredSegment (o.again e c r) = e.answeredSegment r := by
  rw [Env.answeredSegment, Env.answeredSegment, Env.answer, Env.answer,
    (hsteady.again_server hsep c r).2.1]

/-- A connection that is not refused is not refused after a run. -/
theorem Env.Steady.not_blocked (hsteady : e.Steady) (hsep : o.Separate) (hopen : ¬ o.Blocked e t)
    {t' : Servers} {c : Cluster} (hrows : t'.rows = t.rows.map (o.again e c)) :
    ¬ o.Blocked e t' := by
  rintro ⟨r', hr', hvisible, hrefused⟩
  rw [hrows] at hr'
  rcases List.mem_map.mp hr' with ⟨r, hr, rfl⟩
  have hserver := hsteady.again_server hsep c r
  exact hopen ⟨r, hr, hserver.2.2 ▸ hvisible, hserver.2.1 ▸ hrefused⟩

/-- The sizes of the segments are the same after a run. -/
theorem Env.Steady.size_again (hsteady : e.Steady) (hsep : o.Separate) {t' : Servers}
    {c : Cluster} (hrows : t'.rows = t.rows.map (o.again e c)) :
    (o.cluster e t').size = (o.cluster e t).size := by
  funext s
  rw [hsteady.size_eq, hsteady.size_eq, hrows, List.filter_map, List.map_map]
  have hfilter : ((fun r => o.isVisible e r && (e.answeredSegment r == some s)) ∘ o.again e c) =
      fun r => o.isVisible e r && (e.answeredSegment r == some s) := by
    funext r
    rw [Function.comp_apply, (hsteady.again_server hsep c r).2.2, hsteady.again_segment hsep]
  have hhosts : Server.hostname ∘ o.again e c = Server.hostname :=
    funext fun r => (hsteady.again_server hsep c r).1
  rw [hfilter, hhosts]

/-- A regular table is in order for every run. -/
theorem Options.Regular.orderly (hregular : o.Regular t) : o.Orderly homeKey e t :=
  Orderly.of_homes hregular.separate hregular.names hregular.unquoted hregular.homes

/-- Without counters a run of a regular table is one step of every row. -/
theorem Options.Regular.rows_round (hregular : o.Regular t) (hnever : o.activeFailover = .never)
    (hretry : o.NoRetry) (hopen : ¬ o.Blocked e t) :
    (o.round e t).rows = t.rows.map (o.again e (o.cluster e t)) := by
  rw [hregular.orderly.rows_round hnever hopen]
  exact List.map_congr_left fun r _ => hretry.policy_eq e _ r

/-- A visible row is calm after two steps. -/
theorem Env.Steady.calm_again_again (hsteady : e.Steady) (hsep : o.Separate) {c c' : Cluster}
    {size : Nat → Nat} (hc : c.size = size) (hc' : c'.size = size) {r : Server}
    (hvisible : o.isVisible e (o.again e c' (o.again e c r)) = true) :
    Calm size (e.probe (o.again e c' (o.again e c r)).key) (o.again e c' (o.again e c r)) := by
  have hsecond := hsteady.again_server hsep c' (o.again e c r)
  have hfirst := hsteady.again_server hsep c r
  rw [hsecond.2.2] at hvisible
  have hvisible' := hvisible
  rw [hfirst.2.2] at hvisible'
  have hbound : r.hostgroup < 17000 := by
    simp only [Options.isVisible, Bool.and_eq_true, List.contains_iff_mem] at hvisible'
    have := hsep.managed hvisible'.1
    omega
  rw [hsecond.2.1, hfirst.2.1]
  have hexpand : o.again e c' (o.again e c r) =
      rowStep c' (e.probe r.key) (rowStep c (e.probe r.key) r) := by
    rw [Options.again, if_pos hvisible, hfirst.2.1, Options.again, if_pos hvisible']
  rw [hexpand]
  exact calm_rowStep_rowStep hbound hc hc'

/-- All visible rows of a table are calm. -/
def Options.CalmTable (o : Options) (e : Env) (t : Servers) : Prop :=
  ∀ r ∈ t.rows, o.isVisible e r = true → Calm (o.cluster e t).size (e.probe r.key) r

/-- In a calm table rows can only go offline. -/
theorem Options.CalmTable.again_eq (hcalm : o.CalmTable e t) {r : Server} (hr : r ∈ t.rows) :
    o.again e (o.cluster e t) r = r ∨
      o.again e (o.cluster e t) r = r.setStatus .offlineSoft := by
  rw [again]
  by_cases hvisible : o.isVisible e r = true
  · rw [if_pos hvisible]
    rcases hcalm r hr hvisible with hfixed | ⟨a, hp, hdonor⟩
    · exact .inl (hfixed _ rfl)
    · rw [hp, hdonor.rowStep_eq rfl]
      split
      · exact .inr rfl
      · exact .inl rfl
  · rw [if_neg hvisible]
    exact .inl rfl

/-- So the hostgroups do not grow. -/
theorem Options.CalmTable.hostgroupSize_le (hcalm : o.CalmTable e t) (hsteady : e.Steady)
    (hsep : o.Separate) {t' : Servers} (hrows : t'.rows = t.rows.map (o.again e (o.cluster e t)))
    (hg : Nat) : (o.cluster e t').hostgroupSize hg ≤ (o.cluster e t).hostgroupSize hg := by
  rw [hostgroupSize_eq, hostgroupSize_eq, hrows, List.countP_map]
  apply List.countP_mono_left
  intro r hr
  rw [Function.comp_apply, (hsteady.again_server hsep _ r).2.2, hsteady.again_segment hsep]
  rcases hcalm.again_eq hr with hsame | hoffline
  · rw [hsame]
    exact id
  · rw [hoffline]
    simp

/-- A calm table does not change any more after one run. -/
theorem Options.CalmTable.round_round (hcalm : o.CalmTable e t) (hsteady : e.Steady)
    (hregular : o.Regular t) (hnever : o.activeFailover = .never) (hretry : o.NoRetry)
    (hopen : ¬ o.Blocked e t) : o.round e (o.round e t) = o.round e t := by
  have hsep := hregular.separate
  have hrows := hregular.rows_round hnever hretry hopen
  have hsize := hsteady.size_again hsep hrows
  have hrows' := (hregular.round hnever e).rows_round hnever hretry
    (hsteady.not_blocked hsep hopen hrows)
  apply Table.ext
  rw [hrows', hrows, List.map_map]
  apply List.map_congr_left
  intro r hr
  have hserver := hsteady.again_server hsep (o.cluster e t) r
  rw [Function.comp_apply, again, hserver.2.1, hserver.2.2]
  by_cases hvisible : o.isVisible e r = true
  · rw [if_pos hvisible, again, if_pos hvisible]
    rcases hcalm r hr hvisible with hfixed | ⟨a, hp, hdonor⟩
    · rw [hfixed _ rfl, hfixed _ hsize]
    · rw [hp, hdonor.rowStep_eq rfl]
      split
      · exact hdonor.rowStep_offline hsize
      · rename_i hfew
        have hle := hcalm.hostgroupSize_le hsteady hsep hrows r.hostgroup
        rw [hdonor.rowStep_eq hsize, if_neg (by omega)]
  · rw [if_neg hvisible]

end SameAnswers

/-- If the servers keep giving the same answers, the table does not change any more after three
runs. -/
theorem rounds_settle {o : Options} {e : Env} {t : Servers} (hsteady : e.Steady)
    (hregular : o.Regular t) (hnever : o.activeFailover = .never) (hretry : o.NoRetry)
    (hopen : ¬ o.Blocked e t) (k : Nat) :
    o.rounds (List.replicate (3 + k) e) t = o.rounds (List.replicate 3 e) t := by
  have hsep := hregular.separate
  have hrows₁ := hregular.rows_round hnever hretry hopen
  have hopen₁ := hsteady.not_blocked hsep hopen hrows₁
  have hsize₁ := hsteady.size_again hsep hrows₁
  have hregular₁ := hregular.round hnever e
  have hrows₂ := hregular₁.rows_round hnever hretry hopen₁
  have hopen₂ := hsteady.not_blocked hsep hopen₁ hrows₂
  have hsize₂ := hsteady.size_again hsep hrows₂
  have hregular₂ := hregular₁.round hnever e
  -- two runs bring every row to its place
  have hcalm : o.CalmTable e (o.round e (o.round e t)) := by
    intro r hr hvisible
    rw [hrows₂, hrows₁, List.map_map] at hr
    rcases List.mem_map.mp hr with ⟨r₀, -, rfl⟩
    rw [hsize₂, hsize₁]
    exact hsteady.calm_again_again hsep rfl hsize₁ hvisible
  have hstable := hcalm.round_round hsteady hregular₂ hnever hretry hopen₂
  induction k with
  | zero => rfl
  | succ k ih =>
      rw [← Nat.add_assoc, List.replicate_succ', Options.rounds_append, ih, Options.rounds_cons,
        Options.rounds_nil]
      simp only [List.replicate_succ, List.replicate_zero, Options.rounds_cons,
        Options.rounds_nil]
      rw [hstable]

/-- The same answer of all servers is a steady one. -/
theorem steady_uniformEnv (p : Probe) : (uniformEnv p).Steady where
  site _ _ _ _ := rfl
  segment _ _ _ _ _ := rfl

/-- The sample table is regular. -/
theorem regular_sampleTable : sampleOptions.Regular sampleTable :=
  ⟨by decide, by decide, by decide, by decide⟩

/-- The table of the sample settles if all servers are in sync. -/
theorem rounds_settle_sample :
    sampleOptions.NoRetry ∧
      sampleOptions.rounds (List.replicate 10 (uniformEnv (.reply syncedReply))) sampleTable =
        sampleOptions.rounds (List.replicate 3 (uniformEnv (.reply syncedReply))) sampleTable :=
  ⟨⟨rfl, rfl⟩, rounds_settle (steady_uniformEnv _) regular_sampleTable rfl ⟨rfl, rfl⟩
    (not_blocked_uniformEnv _ _ _) 7⟩

/-! ## What is left online -/

/-- A server with this answer can take queries. -/
def Reply.fit (a : Reply) : Prop :=
  a.clusterStatus = .primary ∧ a.rejectQueries = .none ∧
    (a.localState = some 4 ∨ a.localState = some 2 ∧ a.readOnly ≠ .on ∧ a.donorRejects ≠ .on)

/-- What no rule takes down is fit. -/
theorem fit_of_downAction_eq_none {c : Cluster} {r : Server} {a : Reply}
    (hdown : downAction c r a = none) (hstatus : r.status ≠ .offlineSoft) :
    a.fit ∧ a.maintOk := by
  unfold downAction at hdown
  unfold Reply.fit Reply.maintOk
  grind

/-- What a step leaves online in a hostgroup is fit, and in maintenance mode only if it has just
come back. -/
theorem fit_of_rowStep {c : Cluster} {r : Server} {a : Reply}
    (honline : (rowStep c (.reply a) r).status = .online)
    (hgroup : (rowStep c (.reply a) r).hostgroup < 8000) :
    a.fit ∧ (a.maintOk ∨ r.hostgroup = 9000 + (rowStep c (.reply a) r).hostgroup) := by
  by_cases hsynced : a.synced
  · refine ⟨⟨hsynced.2.2, hsynced.2.1, .inl hsynced.1⟩, ?_⟩
    rw [rowStep_synced hsynced] at honline hgroup ⊢
    by_cases hback : 9000 ≤ r.hostgroup
    · right
      rw [if_pos hback]
      simp only [Server.setHostgroup_fields]
      omega
    · left
      by_contra hmaint
      rw [if_neg hback, if_neg hmaint] at honline hgroup
      split at honline
      · simp at honline
      · rename_i hrule
        rw [if_neg hrule] at hgroup
        exact hrule ⟨hgroup, by simp [honline]⟩
  · rw [rowStep_not_synced hsynced] at honline hgroup ⊢
    by_cases hhome : r.hostgroup < 8000
    · rw [if_pos hhome] at honline hgroup
      cases hdown : downAction c r a with
      | none =>
          rw [hdown] at honline
          have hfit := fit_of_downAction_eq_none hdown (by simp [honline])
          exact ⟨hfit.1, .inl hfit.2⟩
      | some action =>
          rw [hdown] at honline hgroup
          rcases downAction_cases hdown with rfl | rfl
          · simp [Action.apply] at honline
          · simp only [Action.apply, Server.setHostgroup_fields] at hgroup
            omega
    · rw [if_neg hhome] at hgroup
      exact absurd hgroup hhome

/-- After a run every row that is online in a hostgroup of the check, and of which the server has
answered, is fit to serve; only a server that has just come back from the maintenance group can
be in maintenance mode. -/
theorem round_serves_fit {o : Options} {e : Env} {t : Servers} (hregular : o.Regular t)
    (hnever : o.activeFailover = .never) (hretry : o.NoRetry) (hopen : ¬ o.Blocked e t)
    {r' : Server} (hr' : r' ∈ (o.round e t).rows) (honline : r'.status = .online)
    (hgroup : r'.hostgroup < 8000) (hmanaged : r'.hostgroup ∈ o.managed) :
    ∃ r ∈ t.rows, r.home = r'.home ∧ ∀ a, e.probe r.key = .reply a →
      a.fit ∧ (a.maintOk ∨ r.hostgroup = 9000 + r'.hostgroup) := by
  rw [hregular.rows_round hnever hretry hopen] at hr'
  rcases List.mem_map.mp hr' with ⟨r, hr, rfl⟩
  refine ⟨r, hr, (o.home_again hregular.separate e _ r).symm, fun a ha => ?_⟩
  have hmanaged' : r.hostgroup ∈ o.managed := by
    by_contra hout
    have hhidden : ¬ o.isVisible e r = true := by
      simp [Options.isVisible, hout]
    rw [Options.again, if_neg hhidden] at hmanaged
    exact hout hmanaged
  have hvisible : o.isVisible e r = true := by
    simp [Options.isVisible, hmanaged', ha]
  rw [Options.again, if_pos hvisible, ha] at honline hgroup ⊢
  exact fit_of_rowStep honline hgroup

/-- A writer that is in sync is left online. -/
theorem round_serves_fit_sample :
    ∃ r ∈ sampleTable.rows, r.home = writerRow.home ∧
      ∀ a, (uniformEnv (.reply syncedReply)).probe r.key = .reply a →
        a.fit ∧ (a.maintOk ∨ r.hostgroup = 9000 + 500) := by
  have hopen := not_blocked_uniformEnv sampleOptions syncedReply sampleTable
  have hstays : writerRow ∈
      (sampleOptions.round (uniformEnv (.reply syncedReply)) sampleTable).rows := by
    rw [regular_sampleTable.rows_round rfl ⟨rfl, rfl⟩ hopen]
    refine List.mem_map.mpr ⟨_, List.mem_cons_self, ?_⟩
    have hvisible : sampleOptions.isVisible (uniformEnv (.reply syncedReply))
        writerRow = true := by decide
    rw [Options.again, if_pos hvisible]
    exact (rowStep_synced (by decide) _ _).trans rfl
  exact round_serves_fit regular_sampleTable rfl ⟨rfl, rfl⟩ hopen hstays rfl (by decide)
    (by decide)

/-- A step leaves a read-only donor offline, or in the maintenance group. -/
theorem rowStep_read_only_donor {c : Cluster} {r : Server} {a : Reply}
    (hstate : a.localState = some 2) (hread : a.readOnly = .on) (hhome : r.hostgroup < 8000)
    (hstays : (rowStep c (.reply a) r).hostgroup < 8000) :
    (rowStep c (.reply a) r).status = .offlineSoft := by
  have hsynced : ¬ a.synced := by
    rintro ⟨h, -⟩
    rw [hstate] at h
    cases h
  rw [rowStep_not_synced hsynced, if_pos hhome] at hstays ⊢
  cases hdown : downAction c r a with
  | none =>
      by_contra hstatus
      rcases (fit_of_downAction_eq_none hdown hstatus).1 with ⟨-, -, h | h⟩
      · rw [hstate] at h
        cases h
      · exact h.2.1 hread
  | some action =>
      rw [hdown] at hstays
      rcases downAction_cases hdown with rfl | rfl
      · simp [Action.apply]
      · simp only [Action.apply, Server.setHostgroup_fields] at hstays
        omega

/-- If all servers of a hostgroup are read-only donors, no server of it is online after one run:
there is no exception for the last one. -/
theorem read_only_donors_all_offline {o : Options} {e : Env} {t : Servers}
    (hregular : o.Regular t) (hnever : o.activeFailover = .never) (hretry : o.NoRetry)
    (hopen : ¬ o.Blocked e t) {hg : Nat} (hmanaged : hg ∈ o.managed) (hlt : hg < 8000)
    (hdonors : ∀ r ∈ t.rows, homeGroup r.hostgroup = hg → r.hostgroup = hg ∧
      ∃ a, e.probe r.key = .reply a ∧ a.localState = some 2 ∧ a.readOnly = .on) :
    ∀ r' ∈ (o.round e t).rows, r'.hostgroup = hg → r'.status = .offlineSoft := by
  intro r' hr' hgroup
  rw [hregular.rows_round hnever hretry hopen] at hr'
  rcases List.mem_map.mp hr' with ⟨r, hr, rfl⟩
  have hhome : homeGroup r.hostgroup = hg := by
    rw [← Server.hostgroup_home, ← o.home_again hregular.separate e (o.cluster e t) r,
      Server.hostgroup_home, hgroup, homeGroup, if_neg (by omega)]
  rcases hdonors r hr hhome with ⟨hsame, a, ha, hstate, hread⟩
  have hvisible : o.isVisible e r = true := by
    simp [Options.isVisible, hsame, hmanaged, ha]
  rw [Options.again, if_pos hvisible, ha] at hgroup ⊢
  exact rowStep_read_only_donor hstate hread (by omega) (by omega)

/-- The only writer is a read-only donor, and goes offline. -/
theorem read_only_donors_all_offline_sample :
    sampleOptions.Regular sampleTable ∧ ∀ r' ∈ (sampleOptions.round
        (uniformEnv (.reply { syncedReply with localState := some 2, readOnly := .on }))
        sampleTable).rows, r'.hostgroup = 500 → r'.status = .offlineSoft :=
  ⟨regular_sampleTable, read_only_donors_all_offline regular_sampleTable rfl ⟨rfl, rfl⟩
    (not_blocked_uniformEnv _ _ _) (by decide) (by decide) fun r hr hhome =>
      ⟨by revert r; decide, _, rfl, rfl, rfl⟩⟩

end Proxysql
end ClusterPlaybooks
