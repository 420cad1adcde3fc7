import Mathlib.Data.PNat.Basic
import Mathlib.Data.PNat.Interval
import Mathlib.Data.Finset.Max

/-!
# Sets of positive numbers as lists of intervals

A finite set of positive numbers is written as a list of intervals in increasing order, with at
least one missing number between two of them.

Main results:

- Theorem {lit}`card_numbers`: the size of the set is the sum of the sizes of its intervals.
- Theorem {lit}`exists_separated`: every finite set can be written so.
-/

namespace ClusterPlaybooks
namespace Arith

/-- An interval of positive numbers, given by its first and its last number. -/
structure Interval where
  first : ℕ+
  last : ℕ+
  le : first ≤ last
deriving DecidableEq

/-- The numbers of an interval. -/
def Interval.numbers (i : Interval) : Finset ℕ+ :=
  Finset.Icc i.first i.last

/-- How many numbers an interval has. -/
def Interval.count (i : Interval) : Nat :=
  i.last + 1 - i.first

/-- The numbers of several intervals. -/
def numbers : List Interval → Finset ℕ+
  | [] => ∅
  | i :: is => i.numbers ∪ numbers is

/-- The sum of the sizes of several intervals. -/
def total (is : List Interval) : Nat :=
  (is.map Interval.count).sum

/-- The intervals are in increasing order, and a number is missing between any two of them. -/
def Separated (is : List Interval) : Prop :=
  is.Pairwise fun i j => (i.last : ℕ) + 1 < j.first

variable {i : Interval} {is js : List Interval} {n : ℕ+}

/-- The numbers of an interval are between its ends. -/
@[simp]
theorem mem_interval : n ∈ i.numbers ↔ (i.first : ℕ) ≤ n ∧ (n : ℕ) ≤ i.last :=
  Finset.mem_Icc

/-- A number of several intervals is in one of them. -/
@[simp]
theorem mem_numbers : n ∈ numbers is ↔ ∃ i ∈ is, n ∈ i.numbers := by
  induction is with
  | nil => simp [numbers]
  | cons i is ih =>
      rw [numbers, Finset.mem_union, ih]
      simp

/-- The sum of no sizes. -/
@[simp]
theorem total_nil : total [] = 0 :=
  rfl

/-- The sum with one more interval. -/
@[simp]
theorem total_cons : total (i :: is) = i.count + total is := by
  simp [total]

/-- The sum of two lists of intervals. -/
@[simp]
theorem total_append : total (is ++ js) = total is + total js := by
  simp [total]

/-- An interval has as many numbers as its size says. -/
theorem card_interval (i : Interval) : i.numbers.card = i.count :=
  PNat.card_Icc i.first i.last

/-- The size of the set is the sum of the sizes of its intervals. -/
theorem card_numbers (hsep : Separated is) : (numbers is).card = total is := by
  induction is with
  | nil => rfl
  | cons i is ih =>
      rcases List.pairwise_cons.mp hsep with ⟨hfirst, hrest⟩
      have hdisjoint : Disjoint i.numbers (numbers is) := by
        rw [Finset.disjoint_left]
        intro n hn hmem
        rcases mem_numbers.mp hmem with ⟨j, hj, hnj⟩
        have hgap := hfirst j hj
        rw [mem_interval] at hn hnj
        omega
      rw [numbers, Finset.card_union_of_disjoint hdisjoint, card_interval, ih hrest, total_cons]

/-- One more number before separated intervals extends the first one or begins a new one. -/
theorem exists_separated_insert {a : ℕ+} (hsep : Separated is)
    (hmin : ∀ n ∈ numbers is, a < n) : ∃ js, Separated js ∧ numbers js = insert a (numbers is) := by
  have hmem : ∀ n, n ∈ insert a (numbers is) ↔ (n : ℕ) = a ∨ n ∈ numbers is := by
    intro n
    rw [Finset.mem_insert, PNat.coe_inj]
  cases is with
  | nil =>
      refine ⟨[⟨a, a, le_refl a⟩], List.pairwise_singleton _ _, ?_⟩
      ext n
      rw [hmem]
      simp only [numbers, Finset.mem_union, mem_interval, Finset.notMem_empty, or_false]
      omega
  | cons i is =>
      rcases List.pairwise_cons.mp hsep with ⟨hfirst, hrest⟩
      have hle : (i.first : ℕ) ≤ i.last := i.le
      have hlt : (a : ℕ) < i.first := hmin i.first (by simp [numbers, hle])
      by_cases hnext : (a : ℕ) + 1 = i.first
      · have hext : a ≤ i.last := PNat.coe_le_coe a i.last |>.mp (by omega)
        refine ⟨⟨a, i.last, hext⟩ :: is, List.pairwise_cons.mpr ⟨hfirst, hrest⟩, ?_⟩
        ext n
        rw [hmem]
        simp only [numbers, Finset.mem_union, mem_interval, ← or_assoc]
        apply or_congr_left
        omega
      · refine ⟨⟨a, a, le_refl a⟩ :: i :: is, List.pairwise_cons.mpr ⟨?_, hsep⟩, ?_⟩
        · intro j hj
          rcases List.mem_cons.mp hj with rfl | hj
          · show (a : ℕ) + 1 < j.first
            omega
          · have hgap := hfirst j hj
            show (a : ℕ) + 1 < j.first
            omega
        · ext n
          rw [hmem, numbers, Finset.mem_union, mem_interval]
          apply or_congr_left
          show (a : ℕ) ≤ n ∧ (n : ℕ) ≤ a ↔ (n : ℕ) = a
          omega

/-- Every finite set of positive numbers can be written as separated intervals. -/
theorem exists_separated (s : Finset ℕ+) : ∃ is, Separated is ∧ numbers is = s := by
  induction s using Finset.induction_on_min with
  | empty => exact ⟨[], List.Pairwise.nil, rfl⟩
  | insert a s hmin ih =>
      rcases ih with ⟨is, hsep, rfl⟩
      exact exists_separated_insert hsep hmin

end Arith
end ClusterPlaybooks
