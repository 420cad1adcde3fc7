import Mathlib.Data.List.Basic

/-!
# Replication trees and their read pools

A replication tree has one root that takes the writes; every other node copies from its
master.  A check decides for each node whether it may serve reads.  If the root serves reads
exactly when none of its direct copies does, then there is always a node that does.

Main results:

- Theorem {lit}`Tree.exists_reader`: the read pool is never empty.
-/

namespace ClusterPlaybooks
namespace Consul

/-- A replication tree. -/
structure Tree (N : Type) where
  nodes : List N
  root : N
  root_mem : root ∈ nodes
  /-- the node a node copies from -/
  master : N → Option N
  master_root : master root = none
  /-- the distance of a node from the root -/
  depth : N → Nat
  master_depth : ∀ n ∈ nodes, n ≠ root → ∃ m ∈ nodes, master n = some m ∧ depth n = depth m + 1

variable {N : Type}

/-- A node of the tree is the root exactly if it has no master. -/
theorem Tree.master_eq_none_iff (t : Tree N) {n : N} (hn : n ∈ t.nodes) :
    t.master n = none ↔ n = t.root := by
  constructor
  · intro hnone
    by_contra hne
    rcases t.master_depth n hn hne with ⟨m, _, hm, _⟩
    rw [hnone] at hm
    cases hm
  · rintro rfl
    exact t.master_root

/-- Every other node has a master. -/
theorem Tree.isNone_master (t : Tree N) {n : N} (hn : n ∈ t.nodes) (hne : n ≠ t.root) :
    (t.master n).isNone = false := by
  rw [Bool.eq_false_iff, Ne, Option.isNone_iff_eq_none]
  exact fun hnone => hne ((t.master_eq_none_iff hn).mp hnone)

/-- The root serves reads exactly if no node that copies from it does. -/
def Tree.Backup (t : Tree N) (reads : N → Prop) : Prop :=
  reads t.root ↔ ∀ n ∈ t.nodes, t.master n = some t.root → ¬reads n

/-- Then the read pool is never empty. -/
theorem Tree.exists_reader {t : Tree N} {reads : N → Prop} (hbackup : t.Backup reads) :
    ∃ n ∈ t.nodes, reads n := by
  by_cases hroot : reads t.root
  · exact ⟨t.root, t.root_mem, hroot⟩
  · by_contra hnone
    refine hroot (hbackup.mpr fun n hn _ hreads => hnone ⟨n, hn, hreads⟩)

end Consul
end ClusterPlaybooks
