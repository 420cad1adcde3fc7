import Mathlib.Algebra.Order.Field.Basic
import Mathlib.Algebra.Order.Field.Rat
import Mathlib.Data.List.Nodup
import Mathlib.Data.List.Perm.Subperm
import Mathlib.Data.Nat.Cast.Order.Ring

/-!
# The primary partition of a replication group

The function {lit}`gr_member_in_primary_partition` decides whether a member of a replication
group may be routed to.  It reads the table of group members as this member sees it.  Its
condition is a chain of two comparisons, which MySQL groups from the left: the first comparison
gives one or zero, and the second compares this number with zero.

A member answers yes if it is online and sees a strict majority online.  Two strict majorities
of the same members have a member in common, so members on two sides of a network split that
see nobody of the other side online cannot both answer yes.

Main results:

- Theorem {lit}`MemberTable.report_eq`: the answer of a member.
- Theorem {lit}`exists_common_of_length_lt`: two majorities meet.
- Theorem {lit}`one_primary_partition`: at most one side of a split answers yes.
-/

namespace ClusterPlaybooks
namespace Mysql

/-! ## Values and queries -/

/-- The value of a comparison is a number. -/
def sqlTruth (b : Bool) : ℚ :=
  if b then 1 else 0

/-- The comparisons of the query; they have the same precedence. -/
inductive Comparison where
  | ge
  | eq
deriving DecidableEq, Repr

/-- Compare two numbers. -/
def Comparison.eval : Comparison → ℚ → ℚ → ℚ
  | .ge, a, b => sqlTruth (decide (a ≥ b))
  | .eq, a, b => sqlTruth (decide (a = b))

/-- A chain of comparisons without parentheses is grouped from the left. -/
def compareChain (first : ℚ) (rest : List (Comparison × ℚ)) : ℚ :=
  rest.foldl (fun value c => c.1.eval value c.2) first

/-- {lit}`AND` -/
def sqlAnd (a b : ℚ) : ℚ :=
  sqlTruth (decide (a ≠ 0) && decide (b ≠ 0))

/-- {lit}`IF` -/
def sqlIf {α : Type} (cond : ℚ) (yes no : α) : α :=
  if cond ≠ 0 then yes else no

/-- The value of a query in the place of an expression; no row is {lit}`NULL`. -/
def scalarSubquery {α : Type} : List α → Except String (Option α)
  | [] => .ok none
  | [a] => .ok (some a)
  | _ => .error "Subquery returns more than 1 row"

/-! ## The function -/

/-- The values of {lit}`MEMBER_STATE`. -/
inductive MemberState where
  | online
  | recovering
  | offline
  | error
  | unreachable
deriving DecidableEq, Repr

variable {N S : Type}

/-- A row of {lit}`replication_group_members`. -/
structure MemberRow (N : Type) where
  memberId : N
  memberState : MemberState
deriving DecidableEq, Repr

/-- A row with {lit}`MEMBER_STATE = 'ONLINE'`. -/
def MemberRow.isOnline (r : MemberRow N) : Bool :=
  decide (r.memberState = .online)

/-- A row of {lit}`replication_group_member_stats`. -/
structure StatsRow (N : Type) where
  memberId : N
deriving DecidableEq, Repr

/-- The answers of the function. -/
inductive Answer where
  | yes
  | no
deriving DecidableEq, Repr

/-- {lit}`JOIN` of the two tables {lit}`USING(member_id)` -/
def joinUsingMemberId [DecidableEq N] (members : List (MemberRow N)) (stats : List (StatsRow N)) :
    List (MemberRow N × StatsRow N) :=
  members.flatMap fun r =>
    (stats.filter fun s => decide (r.memberId = s.memberId)).map fun s => (r, s)

/-- {lit}`gr_member_in_primary_partition` -/
def grMemberInPrimaryPartition [DecidableEq N] (members : List (MemberRow N))
    (stats : List (StatsRow N)) : Except String (Option Answer) :=
  let notOnline : ℚ := members.countP fun r => decide (r.memberState ≠ .online)
  let half : ℚ := (members.length : ℚ) / 2
  scalarSubquery <| (joinUsingMemberId members stats).map fun row =>
    sqlIf
      (sqlAnd (sqlTruth (decide (row.1.memberState = .online)))
        (compareChain notOnline [(.ge, half), (.eq, 0)]))
      .yes .no

/-! ## The condition -/

/-- A truth value is zero if it is false. -/
@[simp]
theorem sqlTruth_eq_zero {b : Bool} : sqlTruth b = 0 ↔ b = false := by
  cases b <;> simp [sqlTruth]

/-- A conjunction holds if both parts do. -/
theorem sqlAnd_ne_zero (a b : ℚ) : sqlAnd a b ≠ 0 ↔ a ≠ 0 ∧ b ≠ 0 := by
  simp [sqlAnd]

/-- The chain of the query says that the first comparison does not hold. -/
theorem compareChain_eq_zero (a b : ℚ) :
    compareChain a [(.ge, b), (.eq, 0)] = 0 ↔ b ≤ a := by
  simp [compareChain, Comparison.eval]

/-- Comparing with the exact half is comparing with the double. -/
theorem half_le_iff (n k : ℕ) : (n : ℚ) / 2 ≤ k ↔ n ≤ 2 * k := by
  rw [div_le_iff₀ (by norm_num), mul_comm]
  exact_mod_cast Iff.rfl

/-- At least half of the rows are not online if at most half of them are. -/
theorem length_le_countP_iff (rows : List (MemberRow N)) :
    rows.length ≤ 2 * (rows.countP fun r => decide (r.memberState ≠ .online)) ↔
      2 * rows.countP MemberRow.isOnline ≤ rows.length := by
  have hsplit := rows.length_eq_countP_add_countP MemberRow.isOnline
  have hother : (rows.countP fun r => decide (¬r.isOnline = true)) =
      rows.countP fun r => decide (r.memberState ≠ .online) := by
    apply List.countP_congr
    intro r _
    simp [MemberRow.isOnline]
  omega

/-- The condition of the query: own state online and a strict majority online. -/
theorem condition_ne_zero (rows : List (MemberRow N)) (own : MemberState) :
    sqlAnd (sqlTruth (decide (own = .online)))
        (compareChain (rows.countP fun r => decide (r.memberState ≠ .online) : ℕ)
          [(.ge, (rows.length : ℚ) / 2), (.eq, 0)]) ≠ 0 ↔
      own = .online ∧ rows.length < 2 * rows.countP MemberRow.isOnline := by
  rw [sqlAnd_ne_zero, ne_eq, sqlTruth_eq_zero, ne_eq, compareChain_eq_zero, half_le_iff,
    length_le_countP_iff, not_le, decide_eq_false_iff_not, not_not]

/-! ## The view of a member -/

/-- The table of group members as one member sees it; there is one row for each member. -/
structure MemberTable (N : Type) where
  rows : List (MemberRow N)
  nodup : (rows.map MemberRow.memberId).Nodup

/-- The answer of the member {lit}`me`; the other table has the row of the local member. -/
def MemberTable.report [DecidableEq N] (t : MemberTable N) (me : N) :
    Except String (Option Answer) :=
  grMemberInPrimaryPartition t.rows [⟨me⟩]

/-- The members that are online in the table. -/
def MemberTable.online (t : MemberTable N) : List N :=
  (t.rows.filter MemberRow.isOnline).map MemberRow.memberId

/-- The join with the row of one member keeps the rows of this member. -/
theorem joinUsingMemberId_singleton [DecidableEq N] (rows : List (MemberRow N)) (me : N) :
    joinUsingMemberId rows [⟨me⟩] =
      (rows.filter fun r => decide (r.memberId = me)).map fun r => (r, ⟨me⟩) := by
  induction rows with
  | nil => rfl
  | cons r rows ih =>
      unfold joinUsingMemberId at ih ⊢
      rw [List.flatMap_cons, ih]
      by_cases hme : r.memberId = me <;> simp [hme]

/-- There is one row of a member. -/
theorem filter_memberId_eq [DecidableEq N] {rows : List (MemberRow N)} {r : MemberRow N}
    (hnodup : (rows.map MemberRow.memberId).Nodup) (hr : r ∈ rows) :
    (rows.filter fun q => decide (q.memberId = r.memberId)) = [r] := by
  induction rows with
  | nil => cases hr
  | cons q rows ih =>
      rw [List.map_cons, List.nodup_cons] at hnodup
      rcases List.mem_cons.mp hr with rfl | hmem
      · have hother : ∀ q ∈ rows, ¬decide (q.memberId = r.memberId) = true := by
          intro q hq heq
          exact hnodup.1 (List.mem_map.mpr ⟨q, hq, of_decide_eq_true heq⟩)
        rw [List.filter_cons_of_pos (by simp), List.filter_eq_nil_iff.mpr hother]
      · have hne : q.memberId ≠ r.memberId := by
          intro heq
          exact hnodup.1 (heq ▸ List.mem_map_of_mem hmem)
        rw [List.filter_cons_of_neg (by simpa using hne), ih hnodup.2 hmem]

/-- A member answers yes if it is online and sees a strict majority online. -/
theorem MemberTable.report_eq [DecidableEq N] (t : MemberTable N) {r : MemberRow N}
    (hr : r ∈ t.rows) :
    t.report r.memberId = .ok (some
      (if r.memberState = .online ∧ t.rows.length < 2 * t.rows.countP MemberRow.isOnline
        then .yes else .no)) := by
  unfold MemberTable.report grMemberInPrimaryPartition
  rw [joinUsingMemberId_singleton, filter_memberId_eq t.nodup hr]
  simp only [List.map_cons, List.map_nil, scalarSubquery, sqlIf]
  rw [if_congr (condition_ne_zero t.rows r.memberState) rfl rfl]

/-- The answer is yes under exactly this condition. -/
theorem MemberTable.report_yes_iff [DecidableEq N] (t : MemberTable N) {r : MemberRow N}
    (hr : r ∈ t.rows) :
    t.report r.memberId = .ok (some .yes) ↔
      r.memberState = .online ∧ t.rows.length < 2 * t.rows.countP MemberRow.isOnline := by
  rw [t.report_eq hr]
  split
  · rename_i hcond
    simp [hcond]
  · rename_i hcond
    simp [hcond]

/-! ## Two majorities meet -/

/-- Two lists without repetition that are together longer than a third one meet in it. -/
theorem exists_common_of_length_lt {as bs ms : List N} (has : as.Nodup) (hbs : bs.Nodup)
    (hasms : as ⊆ ms) (hbsms : bs ⊆ ms) (hlen : ms.length < as.length + bs.length) :
    ∃ m, m ∈ as ∧ m ∈ bs := by
  by_contra hnone
  have hdisjoint : as.Disjoint bs := fun m ha hb => hnone ⟨m, ha, hb⟩
  have hsub : as ++ bs ⊆ ms := List.append_subset.mpr ⟨hasms, hbsms⟩
  have hle := ((List.Nodup.append has hbs hdisjoint).subperm hsub).length_le
  rw [List.length_append] at hle
  omega

/-- The members that are online are counted once each. -/
theorem MemberTable.length_online (t : MemberTable N) :
    t.online.length = t.rows.countP MemberRow.isOnline := by
  simp [MemberTable.online, List.countP_eq_length_filter]

/-- No member is online twice. -/
theorem MemberTable.nodup_online (t : MemberTable N) : t.online.Nodup :=
  t.nodup.sublist (List.filter_sublist.map _)

/-- A member that is online has a row that says so. -/
theorem MemberTable.mem_online {t : MemberTable N} {m : N} :
    m ∈ t.online ↔ ∃ r ∈ t.rows, r.memberState = .online ∧ r.memberId = m := by
  simp [MemberTable.online, MemberRow.isOnline, and_assoc]

/-- The members of the group, as the rows of a table list them in some order. -/
def MemberTable.Lists (t : MemberTable N) (members : List N) : Prop :=
  (t.rows.map MemberRow.memberId).Perm members

/-- Who is online is a member. -/
theorem MemberTable.Lists.online_subset {t : MemberTable N} {members : List N}
    (ht : t.Lists members) : t.online ⊆ members := by
  intro m hm
  rcases mem_online.mp hm with ⟨r, hr, _, rfl⟩
  exact ht.subset (List.mem_map_of_mem hr)

/-- Every member has a row. -/
theorem MemberTable.Lists.exists_row {t : MemberTable N} {members : List N}
    (ht : t.Lists members) {m : N} (hm : m ∈ members) : ∃ r ∈ t.rows, r.memberId = m :=
  List.mem_map.mp (ht.symm.subset hm)

/-- The number of rows is the number of members. -/
theorem MemberTable.Lists.length_eq {t : MemberTable N} {members : List N}
    (ht : t.Lists members) : t.rows.length = members.length := by
  rw [← List.Perm.length_eq ht, List.length_map]

/-- A member that answers yes sees a strict majority of the members online. -/
theorem MemberTable.Lists.majority [DecidableEq N] {t : MemberTable N} {members : List N}
    (ht : t.Lists members) {m : N} (hm : m ∈ members) (hyes : t.report m = .ok (some .yes)) :
    members.length < 2 * t.online.length := by
  rcases ht.exists_row hm with ⟨r, hr, rfl⟩
  rw [t.length_online, ← ht.length_eq]
  exact ((t.report_yes_iff hr).mp hyes).2

/--
For every table of group members, the function answers yes to a member exactly if the member is
online and strictly more than half of the rows are.  When the same members are split into sides
and every member sees only members of its own side online, all members that are answered yes
are on one side.
-/
theorem one_primary_partition [DecidableEq N] :
    (∀ (t : MemberTable N) (r : MemberRow N), r ∈ t.rows →
      (t.report r.memberId = .ok (some .yes) ↔
        r.memberState = .online ∧ t.rows.length < 2 * t.rows.countP MemberRow.isOnline)) ∧
    ∀ (members : List N) (table : N → MemberTable N) (side : N → S),
      (∀ m ∈ members, (table m).Lists members) →
      (∀ m ∈ members, ∀ r ∈ (table m).rows, r.memberState = .online →
        side r.memberId = side m) →
      ∀ m ∈ members, ∀ m' ∈ members, (table m).report m = .ok (some .yes) →
        (table m').report m' = .ok (some .yes) → side m = side m' := by
  refine ⟨fun t r hr => t.report_yes_iff hr, ?_⟩
  intro members table side hlists hsides m hm m' hm' hyes hyes'
  have hlen := (hlists m hm).majority hm hyes
  have hlen' := (hlists m' hm').majority hm' hyes'
  -- somebody is online for both, and is therefore on the side of both
  rcases exists_common_of_length_lt (table m).nodup_online (table m').nodup_online
    (hlists m hm).online_subset (hlists m' hm').online_subset (by omega) with ⟨k, hk, hk'⟩
  rcases MemberTable.mem_online.mp hk with ⟨r, hr, hon, rfl⟩
  rcases MemberTable.mem_online.mp hk' with ⟨r', hr', hon', heq⟩
  calc side m = side r.memberId := (hsides m hm r hr hon).symm
    _ = side r'.memberId := by rw [heq]
    _ = side m' := hsides m' hm' r' hr' hon'

/-- The table of a member after a clean split: it cannot reach the other sides. -/
def splitTable [DecidableEq S] (side : N → S) (members : List N) (hnodup : members.Nodup)
    (me : N) : MemberTable N where
  rows := members.map fun m => ⟨m, if side m = side me then .online else .unreachable⟩
  nodup := by simpa [Function.comp_def] using hnodup

/-- The first two of three members are on one side. -/
def pairSide (m : Nat) : Bool :=
  decide (m ≤ 2)

/-- The tables after three members were split into two and one. -/
def pairTable : Nat → MemberTable Nat :=
  splitTable pairSide [1, 2, 3] (by decide)

/-- Of three members split into two and one, the two are the primary partition. -/
theorem one_primary_partition_three :
    (pairTable 1).report 1 = .ok (some .yes) ∧ (pairTable 3).report 3 = .ok (some .no) ∧
      ∀ m ∈ [1, 2, 3], (pairTable m).report m = .ok (some .yes) → pairSide 1 = pairSide m := by
  have hyes : (pairTable 1).report 1 = .ok (some .yes) := by decide +kernel
  refine ⟨hyes, by decide +kernel, ?_⟩
  intro m hm hyes'
  refine one_primary_partition.2 [1, 2, 3] pairTable pairSide ?_ ?_ 1 (by decide) m hm hyes hyes'
  · intro k _
    simp [MemberTable.Lists, pairTable, splitTable]
  · intro k _ r hr hon
    simp only [pairTable, splitTable, List.mem_map] at hr
    rcases hr with ⟨j, _, rfl⟩
    by_contra hne
    simp [hne] at hon

end Mysql
end ClusterPlaybooks
