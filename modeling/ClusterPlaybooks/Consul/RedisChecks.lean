import ClusterPlaybooks.Consul.ReadPool
import ClusterPlaybooks.Text.Shell

/-!
# The checks for Redis

The scripts {lit}`check_redis_master.sh` and {lit}`check_redis_slave.sh` ask the instance of a
node for {lit}`INFO Replication` and count lines of the answer.  A replica serves reads while
its link to its master is up.  The master serves reads only while no replica is attached to it,
and it counts also those whose first synchronisation has not finished.

So the read pool is empty while replicas are attached and none of them has its link up.

Main results:

- Theorem {lit}`checkRedisMaster_eq_zero`: the node that takes writes.
- Theorem {lit}`checkRedisSlave_master`, {lit}`checkRedisSlave_replica`: the nodes that serve
  reads.
- Theorem {lit}`redis_pools_consistent_iff`: when the master stands in for its replicas.
-/

namespace ClusterPlaybooks
namespace Consul

open Text

/-! ## The searches of the scripts -/

/-- Lines that {lit}`grep -E 'role:master'` selects. -/
def masterLine (line : List Char) : Bool :=
  occurs "role:master".toList line

/-- Lines that {lit}`grep -E '^role:slave|^master_link_status:up'` selects. -/
def linkLine (line : List Char) : Bool :=
  "role:slave".toList.isPrefixOf line || "master_link_status:up".toList.isPrefixOf line

/-- Lines that {lit}`grep -E '^role:master|^connected_slaves:0'` selects. -/
def singleLine (line : List Char) : Bool :=
  "role:master".toList.isPrefixOf line || "connected_slaves:0".toList.isPrefixOf line

/-- A line that none of the searches selects. -/
def Unrelated (line : List Char) : Prop :=
  masterLine line = false ∧ linkLine line = false ∧ singleLine line = false

instance decidableUnrelated (line : List Char) : Decidable (Unrelated line) :=
  inferInstanceAs (Decidable (_ ∧ _ ∧ _))

/-! ## A moment of a replication tree -/

/-- A replication tree of Redis instances at one moment. -/
structure Instances (N : Type) extends Tree N where
  alive : N → Bool
  /-- a replica is attached to its master, possibly before its first synchronisation ended -/
  attached : N → Bool
  /-- the link of a replica to its master is up -/
  linkUp : N → Bool
  /-- the other lines of the answers -/
  others : N → List (List Char)
  others_unrelated : ∀ n, ∀ line ∈ others n, Unrelated line

variable {N : Type} [DecidableEq N]

/-- The number of replicas attached to a node. -/
def Instances.connectedSlaves (s : Instances N) (n : N) : Nat :=
  s.nodes.countP fun m => decide (s.master m = some n) && s.attached m

/-- A line of an answer. -/
def infoLine (field value : List Char) : List Char :=
  field ++ value ++ ['\r']

/-- The line for the attached replicas. -/
def Instances.connectedLine (s : Instances N) (n : N) : List Char :=
  infoLine "connected_slaves:".toList (Nat.toDigits 10 (s.connectedSlaves n))

/-- What a node answers to {lit}`INFO Replication`. -/
def Instances.info (s : Instances N) (n : N) : List (List Char) :=
  if s.alive n then
    if (s.master n).isNone then
      [infoLine "role:".toList "master".toList, s.connectedLine n] ++ s.others n
    else
      [infoLine "role:".toList "slave".toList,
        infoLine "master_link_status:".toList (if s.linkUp n then "up".toList else "down".toList),
        s.connectedLine n] ++ s.others n
  -- redis-cli cannot connect and prints nothing to its output
  else []

/-! ## The scripts -/

/-- The script {lit}`check_redis_master.sh`. -/
def checkRedisMaster (s : Instances N) (n : N) : Nat :=
  let role := grepCount masterLine (s.info n)
  if test role (· != 1) then 2 else 0

/-- The script {lit}`check_redis_slave.sh`. -/
def checkRedisSlave (s : Instances N) (n : N) : Nat :=
  let role := grepCount linkLine (s.info n)
  let single := grepCount singleLine (s.info n)
  if test role (· != 2) && test single (· != 2) then 2 else 0

/-! ## What the searches find -/

variable {s : Instances N} {n : N}

omit [DecidableEq N] in
/-- The other lines are never selected. -/
theorem Instances.countP_others {p : List Char → Bool}
    (hother : ∀ line, Unrelated line → p line = false) : (s.others n).countP p = 0 := by
  rw [List.countP_eq_zero]
  intro line hline
  simp [hother line (s.others_unrelated n line hline)]

/-- The line for the attached replicas names no role. -/
theorem Instances.connectedLine_role :
    masterLine (s.connectedLine n) = false ∧ linkLine (s.connectedLine n) = false := by
  constructor
  · have hr : 'r' ∉ s.connectedLine n := by
      intro hr
      have hdigit : 'r' ∈ Nat.toDigits 10 (s.connectedSlaves n) := by
        simpa [Instances.connectedLine, infoLine] using hr
      exact notMem_toDigits (by decide) _ hdigit
    exact occurs_eq_false (by simp) hr
  · rfl

/-- It is selected if their number is zero. -/
theorem Instances.connectedLine_single :
    singleLine (s.connectedLine n) = decide (s.connectedSlaves n = 0) := by
  have hzero := head?_toDigits_eq_zero (s.connectedSlaves n)
  have hne : Nat.toDigits 10 (s.connectedSlaves n) ≠ [] := Nat.toDigits_ne_nil
  have hrole : "role:master".toList.isPrefixOf (s.connectedLine n) = false := rfl
  have hsplit : "connected_slaves:0".toList = "connected_slaves:".toList ++ ['0'] := by decide
  rw [singleLine, hrole, Bool.false_or, Bool.eq_iff_iff, decide_eq_true_eq, ← hzero,
    List.isPrefixOf_iff_prefix, Instances.connectedLine, infoLine, hsplit, List.append_assoc,
    List.prefix_append_right_inj]
  generalize Nat.toDigits 10 (s.connectedSlaves n) = digits at hne
  cases digits with
  | nil => exact absurd rfl hne
  | cons c cs => simp [eq_comm]

/-- The answer of the master. -/
theorem Instances.info_root (halive : s.alive s.root = true) :
    (s.info s.root).countP masterLine = 1 ∧ (s.info s.root).countP linkLine = 0 ∧
      (s.info s.root).countP singleLine = 1 + if s.connectedSlaves s.root = 0 then 1 else 0 := by
  have hinfo : s.info s.root =
      [infoLine "role:".toList "master".toList, s.connectedLine s.root] ++ s.others s.root := by
    simp [Instances.info, halive, s.master_root]
  have hrole : masterLine (infoLine "role:".toList "master".toList) = true ∧
      linkLine (infoLine "role:".toList "master".toList) = false ∧
      singleLine (infoLine "role:".toList "master".toList) = true := by
    decide +kernel
  simp only [hinfo, List.countP_append, List.countP_cons, List.countP_nil, hrole.1, hrole.2.1,
    hrole.2.2, s.connectedLine_role.1, s.connectedLine_role.2, s.connectedLine_single,
    s.countP_others fun _ hl => hl.1, s.countP_others fun _ hl => hl.2.1,
    s.countP_others fun _ hl => hl.2.2]
  simp [Nat.add_comm]

/-- The answer of a replica. -/
theorem Instances.info_replica (hn : n ∈ s.nodes) (hne : n ≠ s.root) (halive : s.alive n = true) :
    (s.info n).countP masterLine = 0 ∧
      (s.info n).countP linkLine = 1 + (if s.linkUp n then 1 else 0) ∧
      (s.info n).countP singleLine ≤ 1 := by
  have hmaster := s.toTree.isNone_master hn hne
  have hrole : masterLine (infoLine "role:".toList "slave".toList) = false ∧
      linkLine (infoLine "role:".toList "slave".toList) = true ∧
      singleLine (infoLine "role:".toList "slave".toList) = false := by
    decide +kernel
  have hlink : ∀ up : Bool,
      masterLine (infoLine "master_link_status:".toList
        (if up then "up".toList else "down".toList)) = false ∧
      linkLine (infoLine "master_link_status:".toList
        (if up then "up".toList else "down".toList)) = up ∧
      singleLine (infoLine "master_link_status:".toList
        (if up then "up".toList else "down".toList)) = false := by
    decide +kernel
  have hup := hlink (s.linkUp n)
  simp only [Instances.info, halive, hmaster, if_true, Bool.false_eq_true, if_false,
    List.countP_append, List.countP_cons, List.countP_nil, hrole.1, hrole.2.1, hrole.2.2, hup.1,
    hup.2.1, hup.2.2, s.connectedLine_role.1, s.connectedLine_role.2, s.connectedLine_single,
    s.countP_others fun _ hl => hl.1, s.countP_others fun _ hl => hl.2.1,
    s.countP_others fun _ hl => hl.2.2]
  refine ⟨trivial, by simp [Nat.add_comm], ?_⟩
  split <;> omega

/-! ## Who passes the checks -/

/-- Exactly the master takes writes, while it is alive. -/
theorem checkRedisMaster_eq_zero (halive : s.alive s.root = true) (hn : n ∈ s.nodes) :
    checkRedisMaster s n = 0 ↔ n = s.root := by
  by_cases hroot : n = s.root
  · subst hroot
    simp [checkRedisMaster, (s.info_root halive).1]
  · cases hup : s.alive n with
    | false => simp [checkRedisMaster, Instances.info, hup, hroot]
    | true => simp [checkRedisMaster, (s.info_replica hn hroot hup).1, hroot]

/-- The master serves reads exactly if no replica is attached to it. -/
theorem checkRedisSlave_master (halive : s.alive s.root = true) :
    checkRedisSlave s s.root = 0 ↔
      ∀ n ∈ s.nodes, s.master n = some s.root → s.attached n = false := by
  rcases s.info_root halive with ⟨_, hlink, hsingle⟩
  have hcount : checkRedisSlave s s.root = 0 ↔ s.connectedSlaves s.root = 0 := by
    by_cases hzero : s.connectedSlaves s.root = 0
    · simp [checkRedisSlave, hlink, hsingle, hzero]
    · simp [checkRedisSlave, hlink, hsingle, hzero]
  rw [hcount, Instances.connectedSlaves, List.countP_eq_zero]
  simp

/-- A replica serves reads exactly if it is alive and its link is up. -/
theorem checkRedisSlave_replica (hn : n ∈ s.nodes) (hne : n ≠ s.root) :
    checkRedisSlave s n = 0 ↔ s.alive n = true ∧ s.linkUp n = true := by
  cases halive : s.alive n with
  | false => simp [checkRedisSlave, Instances.info, halive]
  | true =>
      rcases s.info_replica hn hne halive with ⟨_, hlink, hsingle⟩
      have hnot : ((s.info n).countP singleLine : Int) ≠ 2 := by omega
      cases hup : s.linkUp n with
      | false => simp [checkRedisSlave, hlink, hup, hnot]
      | true => simp [checkRedisSlave, hlink, hup]

/--
The pools of a replication tree: exactly the master takes writes, some node serves reads, and
the master does exactly if no replica that is attached to it does.
-/
structure Instances.Consistent (s : Instances N) : Prop where
  writer : ∀ n ∈ s.nodes, checkRedisMaster s n = 0 ↔ n = s.root
  reader : ∃ n ∈ s.nodes, checkRedisSlave s n = 0
  backup : checkRedisSlave s s.root = 0 ↔
    ∀ n ∈ s.nodes, s.master n = some s.root → s.attached n = true → checkRedisSlave s n ≠ 0

/--
While the master is alive the pools are as they should be exactly if no replica is attached to
the master or some replica that is attached to it is alive and has its link up.
-/
theorem redis_pools_consistent_iff (s : Instances N) (halive : s.alive s.root = true) :
    s.Consistent ↔
      (∀ n ∈ s.nodes, s.master n = some s.root → s.attached n = false) ∨
      ∃ n ∈ s.nodes, s.master n = some s.root ∧ s.attached n = true ∧ s.alive n = true ∧
        s.linkUp n = true := by
  have hreplica : ∀ n ∈ s.nodes, s.master n = some s.root →
      (checkRedisSlave s n = 0 ↔ s.alive n = true ∧ s.linkUp n = true) := by
    intro n hn hmaster
    refine checkRedisSlave_replica hn ?_
    rintro rfl
    rw [s.master_root] at hmaster
    cases hmaster
  constructor
  · intro hs
    by_cases hnone : ∀ n ∈ s.nodes, s.master n = some s.root → s.attached n = false
    · exact Or.inl hnone
    · -- the master does not serve reads, so one of its replicas does
      have hroot : ¬checkRedisSlave s s.root = 0 := by
        rw [checkRedisSlave_master halive]
        exact hnone
      rw [hs.backup] at hroot
      push Not at hroot
      rcases hroot with ⟨n, hn, hmaster, hattached, hpass⟩
      exact Or.inr ⟨n, hn, hmaster, hattached, (hreplica n hn hmaster).mp hpass⟩
  · rintro (hnone | ⟨n, hn, hmaster, hattached, hup⟩)
    · have hroot := (checkRedisSlave_master halive).mpr hnone
      refine ⟨fun n hn => checkRedisMaster_eq_zero halive hn, ⟨s.root, s.root_mem, hroot⟩, ?_⟩
      refine ⟨fun _ n hn hmaster hattached => ?_, fun _ => hroot⟩
      rw [hnone n hn hmaster] at hattached
      cases hattached
    · have hpass := (hreplica n hn hmaster).mpr hup
      refine ⟨fun n hn => checkRedisMaster_eq_zero halive hn, ⟨n, hn, hpass⟩, ?_⟩
      constructor
      · intro hroot
        have hdetached := (checkRedisSlave_master halive).mp hroot n hn hmaster
        rw [hattached] at hdetached
        cases hdetached
      · intro hall
        exact absurd hpass (hall n hn hmaster hattached)

/-! ## A master with one replica -/

/-- A master with one replica that is attached to it. -/
def pair (linkUp : Bool) : Instances Bool where
  nodes := [true, false]
  root := true
  root_mem := by decide
  master := fun n => if n then none else some true
  master_root := rfl
  depth := fun n => if n then 0 else 1
  master_depth := by decide
  alive := fun _ => true
  attached := fun n => !n
  linkUp := fun n => !n && linkUp
  others := fun _ => ["# Replication\r".toList, "master_repl_offset:1540\r".toList]
  others_unrelated := fun _ => by decide +kernel

/-- With the link up the pools are as they should be. -/
theorem redis_pools_consistent_pair : (pair true).Consistent := by
  rw [redis_pools_consistent_iff (pair true) rfl]
  exact Or.inr ⟨false, by decide, rfl, rfl, rfl, rfl⟩

/-- While the replica is still synchronising no node serves reads. -/
theorem synchronising_pair_has_no_reader :
    (pair false).alive true = true ∧ (pair false).attached false = true ∧
      ¬∃ n ∈ (pair false).nodes, checkRedisSlave (pair false) n = 0 := by
  decide +kernel

end Consul
end ClusterPlaybooks
