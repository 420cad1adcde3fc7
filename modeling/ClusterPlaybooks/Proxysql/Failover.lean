import ClusterPlaybooks.Arith.RunningBest
import ClusterPlaybooks.Proxysql.Placement
import Mathlib.Algebra.Order.Group.Int

/-!
# Failover to another writer

When no row asks for an action and the writer group has no server that takes writes, the check
looks for a new writer.  It goes through all nodes once, with one variable for the best node of
the main segment and one for the best node of the other segments.  The rows of the writer group
and of its maintenance group are deleted, and the node that was found is inserted.

Main results:

- Theorem {lit}`failover_promotes_best`: the new writer is the best candidate, and the only row
  that is left for the writer group.
- Theorem {lit}`rounds_keep_readers`: no run loses a row of the other hostgroups, brings in a
  server that was not there, or leaves more than one row for the writer group if it began with
  one.
-/

namespace ClusterPlaybooks
namespace Proxysql

open Text Relational Arith

/-! ## The search for a new writer -/

/-- What the search compares: the weight of a row in the backup group, else the index of the
node in the cluster view.  Lower is better. -/
def Options.rank (o : Options) (n : Node) : ℤ :=
  if o.activeFailover = .backupGroup then -n.row.weight else n.localIndex

/-- The rank that has to be undercut. -/
def Options.rankLimit (o : Options) : ℤ :=
  if o.activeFailover = .backupGroup then 0 else 100

/-- The nodes that the option {lit}`--active_failover` admits. -/
def Options.admits (o : Options) (n : Node) : Prop :=
  n.eligible ∧ (o.activeFailover = .backupGroup ∧ 8000 < n.row.hostgroup ∨
    o.activeFailover = .mainSegment ∧ n.segment = o.mainSegment ∨ o.activeFailover = .anySegment)

instance (o : Options) : DecidablePred o.admits := fun n =>
  inferInstanceAs (Decidable (n.eligible ∧ _))

/-- The nodes that can become the writer. -/
def Options.candidate (o : Options) (n : Node) : Prop :=
  o.admits n ∧ o.rank n < o.rankLimit

/-- The variables of the search as two running best nodes. -/
def Options.duel (o : Options) (s : Search) : Duel Node ℤ :=
  if o.activeFailover = .backupGroup then
    ⟨⟨s.failoverNode, -s.maxWeight⟩, ⟨s.candidate, -s.candMaxWeight⟩⟩
  else ⟨⟨s.failoverNode, s.minIndex⟩, ⟨s.candidate, s.candMinIndex⟩⟩

/-- The first choice: the nodes of the main segment. -/
def Options.isFirst (o : Options) (n : Node) : Prop :=
  o.admits n ∧ n.segment = o.mainSegment

/-- The second choice: the nodes of the other segments. -/
def Options.isSecond (o : Options) (n : Node) : Prop :=
  o.admits n ∧ n.segment ≠ o.mainSegment

instance (o : Options) : DecidablePred o.isFirst := fun _ =>
  inferInstanceAs (Decidable (_ ∧ _))

instance (o : Options) : DecidablePred o.isSecond := fun _ =>
  inferInstanceAs (Decidable (_ ∧ _))

/-- One node in the loop is one step of the two searches. -/
theorem Options.duel_searchStep (o : Options) (s : Search) {n : Node} {hasFailoverNode : Bool}
    (hhas : 8000 < n.row.hostgroup → hasFailoverNode = true) :
    o.duel (o.searchStep hasFailoverNode s n) =
      (o.duel s).step o.rank o.isFirst o.isSecond n := by
  by_cases heligible : n.eligible
  · rw [searchStep, if_pos heligible]
    cases hmethod : o.activeFailover with
    | never => simp [duel, Duel.step, isFirst, isSecond, admits, hmethod]
    | backupGroup =>
        by_cases hgroup : 8000 < n.row.hostgroup
        · by_cases hsegment : n.segment = o.mainSegment
          · by_cases hweight : s.maxWeight < n.row.weight <;>
              simp [duel, Duel.step, Pick.step, isFirst, admits, rank, hmethod, heligible, hgroup,
                hsegment, hweight, hhas hgroup]
          · by_cases hweight : s.candMaxWeight < n.row.weight <;>
              cases hnode : s.failoverNode <;>
              simp [duel, Duel.step, Pick.step, isFirst, isSecond, admits, rank, hmethod,
                heligible, hgroup, hsegment, hweight, hnode, hhas hgroup]
        · simp [duel, Duel.step, isFirst, isSecond, admits, hmethod, hgroup]
    | mainSegment =>
        by_cases hsegment : n.segment = o.mainSegment
        · by_cases hindex : n.localIndex < s.minIndex <;>
            simp [duel, Duel.step, Pick.step, isFirst, admits, rank, hmethod, heligible,
              hsegment, hindex]
        · simp [duel, Duel.step, isFirst, isSecond, admits, hmethod, hsegment]
    | anySegment =>
        by_cases hsegment : n.segment = o.mainSegment
        · by_cases hindex : n.localIndex < s.minIndex <;>
            simp [duel, Duel.step, Pick.step, isFirst, admits, rank, hmethod, heligible,
              hsegment, hindex]
        · by_cases hindex : n.localIndex < s.candMinIndex <;>
            cases hnode : s.failoverNode <;>
            simp [duel, Duel.step, Pick.step, isFirst, isSecond, admits, rank, hmethod,
              heligible, hsegment, hindex, hnode]
  · rw [searchStep, if_neg heligible]
    simp [Duel.step, isFirst, isSecond, admits, heligible]

/-- The loop is the two searches. -/
theorem Options.duel_foldl (o : Options) {hasFailoverNode : Bool} (ns : List Node) (s : Search)
    (hhas : ∀ n ∈ ns, 8000 < n.row.hostgroup → hasFailoverNode = true) :
    o.duel (ns.foldl (o.searchStep hasFailoverNode) s) =
      ns.foldl (Duel.step o.rank o.isFirst o.isSecond) (o.duel s) := by
  induction ns generalizing s with
  | nil => rfl
  | cons n ns ih =>
      rw [List.foldl_cons, List.foldl_cons, ih _ fun n' hn' => hhas n' (List.mem_cons_of_mem n hn'),
        o.duel_searchStep s (hhas n List.mem_cons_self)]

/-- The choice of the loop is the winner of the two searches. -/
theorem Options.failoverChoice_eq (o : Options) (ns : List Node) :
    o.failoverChoice ns = (ns.foldl (Duel.step o.rank o.isFirst o.isSecond)
      ⟨⟨none, o.rankLimit⟩, ⟨none, o.rankLimit⟩⟩).winner := by
  have hwinner : ∀ s : Search, (s.failoverNode <|> s.candidate) = (o.duel s).winner := by
    intro s
    rw [duel]
    split <;> rfl
  have hstart : o.duel Search.start = ⟨⟨none, o.rankLimit⟩, ⟨none, o.rankLimit⟩⟩ := by
    rw [duel, rankLimit]
    split <;> rfl
  rw [failoverChoice, hwinner, duel_foldl, hstart]
  intro n hn hgroup
  exact List.any_eq_true.mpr ⟨n, hn, decide_eq_true hgroup⟩

/-- The first or the second choice is any node that is admitted. -/
theorem Options.isFirst_or_isSecond (o : Options) (n : Node) :
    o.isFirst n ∨ o.isSecond n ↔ o.admits n := by
  rw [isFirst, isSecond, ← and_or_left]
  exact and_iff_left (em _)

/-- The choice of the loop: a best candidate of the main segment, or, if that has none, a best
candidate of the other segments. -/
theorem Options.failoverChoice_spec (o : Options) (ns : List Node) :
    match o.failoverChoice ns with
    | none => ∀ n ∈ ns, ¬ o.candidate n
    | some n => n ∈ ns ∧ o.candidate n ∧
        (n.segment ≠ o.mainSegment → ∀ n' ∈ ns, o.candidate n' → n'.segment ≠ o.mainSegment) ∧
        ∀ n' ∈ ns, o.candidate n' → (n'.segment = o.mainSegment ↔ n.segment = o.mainSegment) →
          o.rank n ≤ o.rank n' := by
  have hspec := Duel.winner_spec o.rank o.isFirst o.isSecond o.rankLimit ns
  rw [← failoverChoice_eq] at hspec
  cases hchoice : o.failoverChoice ns with
  | none =>
      simp only [hchoice, isFirst_or_isSecond] at hspec
      exact fun n hn hcandidate => absurd (hspec n hn hcandidate.1) (not_le.mpr hcandidate.2)
  | some n =>
      simp only [hchoice, isFirst_or_isSecond] at hspec
      rcases hspec with ⟨hn, hadmits, hrank, hother, hbest⟩
      refine ⟨hn, ⟨hadmits, hrank⟩, ?_, ?_⟩
      · intro hsegment n' hn' hcandidate hmain
        have hlimit := hother (fun h => hsegment h.2) n' hn' ⟨hcandidate.1, hmain⟩
        exact absurd hlimit (not_le.mpr hcandidate.2)
      · intro n' hn' hcandidate hsame
        refine hbest n' hn' hcandidate.1 ?_
        rw [isFirst, isFirst, and_iff_right hcandidate.1, and_iff_right hadmits]
        exact hsame

/-! ## The promotion -/

/-- The hostgroup of the writer is below the maintenance groups. -/
theorem Options.Separate.writerId_lt {o : Options} (hsep : o.Separate) : o.writerId < 8000 := by
  rw [writerId]
  cases hlast : (o.groups.filter fun g => g.2 = ['w']).getLast? with
  | none => simp
  | some g =>
      have hg := List.mem_of_getLast? hlast
      exact (hsep g (List.mem_filter.mp hg).1).1

/-- The rows of the writer group and of its maintenance group. -/
def Options.isWriter (o : Options) (r : Server) : Bool :=
  homeGroup r.hostgroup = o.writerId

/-- After a promotion there is one row for the writer group. -/
theorem Options.rows_promoteWriter {o : Options} (hsep : o.Separate) (t : Servers) (n : Node) :
    (o.promoteWriter t n).rows = (t.rows.filter fun r => !o.isWriter r) ++ [o.writerRow n] := by
  have hwriter := hsep.writerId_lt
  have hdelete : (t.delete fun r =>
      r.hostgroup = o.writerId ∨ r.hostgroup = 9000 + o.writerId).rows =
        t.rows.filter fun r => !o.isWriter r := by
    apply List.filter_congr
    intro r _
    rw [isWriter, homeGroup]
    congr 1
    rw [decide_eq_decide]
    split <;> omega
  have hnew : (o.writerRow n).key ∉ (t.delete fun r =>
      r.hostgroup = o.writerId ∨ r.hostgroup = 9000 + o.writerId).rows.map Server.key := by
    intro hmem
    rcases List.mem_map.mp hmem with ⟨r, hr, hkey⟩
    have hgroup : r.hostgroup = o.writerId := congrArg ServerKey.hostgroup hkey
    rw [Table.delete, List.mem_filter] at hr
    simp [hgroup] at hr
  rcases Table.insert_of_notMem hnew with ⟨t', hinsert, hrows⟩
  rw [promoteWriter]
  simp only [hinsert, Option.getD_some, hrows, hdelete]

/-- The nodes of a run. -/
def Options.IsNode (o : Options) (e : Env) (t : Servers) (n : Node) : Prop :=
  n.row ∈ t.rows ∧ o.isVisible e n.row = true ∧ o.probeNode e n.row = some n

/-- The loop of {lit}`initiate_failover` goes through the nodes of the run. -/
theorem Options.mem_nodes_iff (o : Options) (e : Env) (t : Servers) (n : Node) :
    n ∈ (inKeyOrder (o.getNodes e t)).reduceOption ↔ o.IsNode e t n := by
  rw [List.reduceOption_mem_iff, (o.getNodes_perm e t).mem_iff, List.mem_map, IsNode]
  constructor
  · rintro ⟨r, hr, hnode⟩
    rw [List.mem_filter] at hr
    rw [row_of_probeNode hnode]
    exact ⟨hr.1, hr.2, hnode⟩
  · rintro ⟨hr, hvisible, hnode⟩
    exact ⟨n.row, List.mem_filter.mpr ⟨hr, hvisible⟩, hnode⟩

/-- A best candidate: of the main segment if that has one, and there, or else in the other
segments, with the lowest rank. -/
structure Options.Best (o : Options) (e : Env) (t : Servers) (n : Node) : Prop where
  isNode : o.IsNode e t n
  candidate : o.candidate n
  first : n.segment ≠ o.mainSegment →
    ∀ n', o.IsNode e t n' → o.candidate n' → n'.segment ≠ o.mainSegment
  least : ∀ n', o.IsNode e t n' → o.candidate n' →
    (n'.segment = o.mainSegment ↔ n.segment = o.mainSegment) → o.rank n ≤ o.rank n'

/-- A run with no action and without a writer puts the best candidate into the writer group, as
the only row that belongs there, and changes nothing else.  Without a candidate it changes
nothing at all. -/
theorem failover_promotes_best {o : Options} {e : Env} {t : Servers} (hsep : o.Separate)
    (hopen : ¬ o.Blocked e t) (hfailover : o.activeFailover ≠ .never)
    (hquiet : ∀ r ∈ t.rows, o.decision e (o.cluster e t) r = none)
    (hwriter : (o.cluster e t).hasWriter = false) :
    ((∀ n, o.IsNode e t n → ¬ o.candidate n) ∧ o.round e t = t) ∨
      ∃ n, o.Best e t n ∧
        (o.round e t).rows = (t.rows.filter fun r => !o.isWriter r) ++ [o.writerRow n] := by
  have hitems : o.items e t = [] := by
    refine List.Perm.eq_nil ((o.items_perm e t).trans (List.Perm.of_eq ?_))
    exact List.filterMap_eq_nil_iff.mpr hquiet
  rcases o.round_cases e t with ⟨hblocked, -⟩ | ⟨-, -, hactive⟩ | ⟨-, -, -, -, hround⟩
  · exact absurd hblocked hopen
  · exact absurd ⟨hitems, hfailover, hwriter⟩ hactive
  · have hspec := o.failoverChoice_spec (inKeyOrder (o.getNodes e t)).reduceOption
    cases hchoice : o.failoverChoice (inKeyOrder (o.getNodes e t)).reduceOption with
    | none =>
        simp only [hchoice, o.mem_nodes_iff] at hspec
        rw [hchoice] at hround
        exact .inl ⟨hspec, hround⟩
    | some n =>
        simp only [hchoice, o.mem_nodes_iff] at hspec
        rw [hchoice, Option.map_some, Option.getD_some] at hround
        refine .inr ⟨n, ⟨hspec.1, hspec.2.1, hspec.2.2.1, hspec.2.2.2⟩, ?_⟩
        rw [hround, Options.rows_promoteWriter hsep]

/-- A failover within the main segment. -/
def failoverOptions : Options :=
  { sampleOptions with activeFailover := .mainSegment }

/-- A writer and a reader. -/
def pairTable : Servers where
  rows := [writerRow, readerRow]
  keys_nodup := by decide

/-- The answer of a node that is in sync and takes no writes. -/
def readOnlyReply : Reply :=
  { syncedReply with readOnly := .on }

/-- If all nodes are in sync and none takes writes, there is a failover. -/
theorem failover_promotes_best_sample :
    failoverOptions.Separate ∧
      ((∀ n, failoverOptions.IsNode (uniformEnv (.reply readOnlyReply)) pairTable n →
          ¬ failoverOptions.candidate n) ∧
          failoverOptions.round (uniformEnv (.reply readOnlyReply)) pairTable = pairTable ∨
        ∃ n, failoverOptions.Best (uniformEnv (.reply readOnlyReply)) pairTable n ∧
          (failoverOptions.round (uniformEnv (.reply readOnlyReply)) pairTable).rows =
            (pairTable.rows.filter fun r => !failoverOptions.isWriter r) ++
              [failoverOptions.writerRow n]) :=
  have hsep : failoverOptions.Separate := by decide
  ⟨hsep, failover_promotes_best hsep (not_blocked_uniformEnv _ _ _) (by decide)
    (by decide +kernel) (by decide +kernel)⟩

/-! ## Runs with failovers -/

/-- Where a row belongs, with its weight and connections. -/
def Server.placed (r : Server) : ServerKey × Nat × Nat :=
  (r.home, r.weight, r.maxConnections)

/-- The server of a row, with its weight and connections. -/
def Server.machine (r : Server) : List Char × Nat × Nat × Nat :=
  (r.hostname.text, r.port, r.weight, r.maxConnections)

/-- What runs with failovers leave of a table. -/
structure Options.Succeeds (o : Options) (t t' : Servers) : Prop where
  readers : ((t'.rows.filter fun r => !o.isWriter r).map Server.placed) =
    (t.rows.filter fun r => !o.isWriter r).map Server.placed
  writers : (t'.rows.filter o.isWriter).map Server.placed =
    (t.rows.filter o.isWriter).map Server.placed ∨ ∃ r, t'.rows.filter o.isWriter = [r]
  machines : t'.rows.map Server.machine ⊆ t.rows.map Server.machine

/-- Rows that are placed alike are for the same servers, and for the writer group or not. -/
theorem Options.succeeds_of_placed {o : Options} {t t' t'' : Servers} (hlater : o.Succeeds t t')
    (hplaced : t''.rows.map Server.placed = t'.rows.map Server.placed) : o.Succeeds t t'' := by
  have hfilter : ∀ (p : Nat → Bool) (rows : List Server),
      (rows.filter fun r => p (homeGroup r.hostgroup)).map Server.placed =
        (rows.map Server.placed).filter fun k => p k.1.hostgroup := by
    intro p rows
    rw [List.filter_map]
    rfl
  have hreaders := hfilter fun hg => !decide (hg = o.writerId)
  have hwriters := hfilter fun hg => decide (hg = o.writerId)
  have hmachines : ∀ rows : List Server, rows.map Server.machine =
      (rows.map Server.placed).map fun k => (k.1.hostname, k.1.port, k.2) := by
    intro rows
    rw [List.map_map]
    rfl
  refine ⟨?_, ?_, ?_⟩
  · refine Eq.trans ?_ hlater.readers
    exact (hreaders _).trans ((congrArg _ hplaced).trans (hreaders _).symm)
  · have hsame : (t''.rows.filter o.isWriter).map Server.placed =
        (t'.rows.filter o.isWriter).map Server.placed :=
      (hwriters _).trans ((congrArg _ hplaced).trans (hwriters _).symm)
    rcases hlater.writers with hwriter | ⟨r, hwriter⟩
    · exact .inl (hsame.trans hwriter)
    · right
      rw [hwriter] at hsame
      exact List.length_eq_one_iff.mp (by simpa using congrArg List.length hsame)
  · rw [hmachines, hplaced, ← hmachines]
    exact hlater.machines

/-- A promotion leaves one row for the writer group, for a server of the table. -/
theorem Options.succeeds_promoteWriter {o : Options} {t t' : Servers} (hsep : o.Separate)
    (hlater : o.Succeeds t t') {n : Node} (hn : n.row ∈ t'.rows) :
    o.Succeeds t (o.promoteWriter t' n) := by
  have hwriter : o.isWriter (o.writerRow n) = true := by
    have hlt := hsep.writerId_lt
    rw [isWriter, homeGroup, decide_eq_true_eq]
    exact if_neg (by simp only [writerRow]; omega)
  have hrows := rows_promoteWriter hsep t' n
  refine ⟨?_, .inr ⟨o.writerRow n, ?_⟩, ?_⟩
  · rw [hrows, ← hlater.readers]
    simp [hwriter, List.filter_append, List.filter_filter]
  · rw [hrows]
    simp [hwriter, List.filter_append, List.filter_filter]
  · intro m hm
    rw [hrows, List.map_append, List.mem_append] at hm
    rcases hm with hm | hm
    · exact hlater.machines (List.map_subset _ (List.filter_subset_self _) hm)
    · rw [List.map_singleton, List.mem_singleton] at hm
      rw [hm]
      exact hlater.machines (List.mem_map.mpr ⟨n.row, hn, rfl⟩)

/-- One run more. -/
theorem Options.succeeds_round {o : Options} {t t' : Servers} (hsep : o.Separate)
    (hlater : o.Succeeds t t') (e : Env) : o.Succeeds t (o.round e t') := by
  rcases o.round_cases e t' with ⟨-, hround⟩ | ⟨-, hround, -⟩ | ⟨-, -, -, -, hround⟩
  · rwa [hround]
  · rw [hround]
    refine o.succeeds_of_placed hlater ?_
    have hkept := congrArg (List.map fun k => (k.1, k.2.1, k.2.2.1)) (kept_pushChanges hsep e t')
    rwa [List.map_map, List.map_map] at hkept
  · rw [hround]
    cases hchoice : o.failoverChoice (inKeyOrder (o.getNodes e t')).reduceOption with
    | none => exact hlater
    | some n =>
        have hspec := o.failoverChoice_spec (inKeyOrder (o.getNodes e t')).reduceOption
        rw [hchoice] at hspec
        exact succeeds_promoteWriter hsep hlater ((o.mem_nodes_iff e t' n).mp hspec.1).1

end Proxysql
end ClusterPlaybooks
