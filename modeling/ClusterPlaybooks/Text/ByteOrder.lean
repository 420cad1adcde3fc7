import Mathlib.Algebra.Ring.Nat
import Mathlib.Data.Char
import Mathlib.Data.List.Lex
import Mathlib.Data.List.Sort

/-!
# Decimal numbers in byte order

Names are listed in byte order, which compares texts letter by letter and puts a text before
its continuations.  Numbers that are written with the same number of digits come in the order
of the numbers.  Of two numbers with different numbers of digits the shorter one is compared
with the first digits of the longer one.

Main results:

- Theorem {lit}`le_take_iff`: a text is compared with the start of a longer one.
- Theorem {lit}`fixed_le_iff`: numbers with the same number of digits.
- Theorem {lit}`toDigits_eq_fixed`: the decimal text of a number.
- Theorem {lit}`getLast_insertionSort`: the last name of a listing is the largest.
-/

namespace ClusterPlaybooks
namespace Text

variable {u v w : List Char}

/-! ## Byte order -/

/-- Texts are compared by their first letters, then by the rest. -/
theorem cons_lt_iff {a b : Char} : a :: u < b :: v ↔ a < b ∨ a = b ∧ u < v :=
  List.cons_lt_cons_iff

/-- The same for the weak order. -/
theorem cons_le_iff {a b : Char} : a :: u ≤ b :: v ↔ a < b ∨ a = b ∧ u ≤ v := by
  rw [le_iff_lt_or_eq, cons_lt_iff, List.cons_eq_cons, le_iff_lt_or_eq]
  tauto

/-- The empty text comes first. -/
theorem nil_le (u : List Char) : [] ≤ u := by
  cases u with
  | nil => exact le_rfl
  | cons c u => exact le_of_lt (List.nil_lt_cons c u)

/-- A common beginning does not matter. -/
theorem append_le_iff : w ++ u ≤ w ++ v ↔ u ≤ v := by
  induction w with
  | nil => rfl
  | cons c w ih =>
      rw [List.cons_append, List.cons_append, cons_le_iff]
      simp [ih]

/-- A text is compared with the start of a longer one. -/
theorem le_take_iff (hlen : u.length ≤ v.length) : u ≤ v ↔ u ≤ v.take u.length := by
  induction u generalizing v with
  | nil => exact ⟨fun _ => nil_le _, fun _ => nil_le v⟩
  | cons a u ih =>
      cases v with
      | nil => simp at hlen
      | cons b v =>
          have hlen' : u.length ≤ v.length := Nat.le_of_succ_le_succ hlen
          rw [List.length_cons, List.take_succ_cons, cons_le_iff, cons_le_iff, ih hlen']

/-- Texts of the same length that end with one more letter. -/
theorem concat_le_iff {a b : Char} (hlen : u.length = v.length) :
    u ++ [a] ≤ v ++ [b] ↔ u < v ∨ u = v ∧ a ≤ b := by
  induction u generalizing v with
  | nil =>
      cases v with
      | nil =>
          rw [List.nil_append, List.nil_append, cons_le_iff]
          simp [le_iff_lt_or_eq]
      | cons c v => simp at hlen
  | cons c u ih =>
      cases v with
      | nil => simp at hlen
      | cons d v =>
          have hlen' : u.length = v.length := Nat.succ.inj hlen
          rw [List.cons_append, List.cons_append, cons_le_iff, ih hlen', cons_lt_iff,
            List.cons_eq_cons]
          tauto

/-- The last name of a listing is the largest. -/
theorem getLast_insertionSort {names : List (List Char)} (hne : names ≠ []) :
    ∃ name ∈ names, (names.insertionSort (· ≤ ·)).getLast? = some name ∧
      ∀ other ∈ names, other ≤ name := by
  have hperm := List.perm_insertionSort (· ≤ ·) names
  have hsorted := List.pairwise_insertionSort (· ≤ ·) names
  generalize names.insertionSort (· ≤ ·) = sorted at hperm hsorted
  have hsome : sorted ≠ [] := fun hnil => hne (by simpa [hnil] using hperm.symm)
  rcases List.eq_nil_or_concat sorted with hnil | ⟨start, last, rfl⟩
  · exact absurd hnil hsome
  · refine ⟨last, hperm.mem_iff.mp (by simp), by simp, ?_⟩
    intro other hother
    rw [List.concat_eq_append] at hperm hsorted
    rcases List.mem_append.mp (hperm.mem_iff.mpr hother) with hstart | hlast
    · exact (List.pairwise_append.mp hsorted).2.2 other hstart last (by simp)
    · rw [List.mem_singleton.mp hlast]

/-! ## Decimal numbers -/

/-- The last digits of a number, so many of them. -/
def fixed : Nat → Nat → List Char
  | 0, _ => []
  | k + 1, n => fixed k (n / 10) ++ [Nat.digitChar (n % 10)]

@[simp]
theorem length_fixed (k n : Nat) : (fixed k n).length = k := by
  induction k generalizing n with
  | zero => rfl
  | succ k ih => simp [fixed, ih]

/-- The order of digits. -/
theorem digitChar_le_iff {a b : Nat} (ha : a < 10) (hb : b < 10) :
    Nat.digitChar a ≤ Nat.digitChar b ↔ a ≤ b := by
  have hdigits : ∀ a < 10, ∀ b < 10, Nat.digitChar a ≤ Nat.digitChar b ↔ a ≤ b := by decide
  exact hdigits a ha b hb

/-- Different numbers have different digits. -/
theorem fixed_inj {k m n : Nat} (hm : m < 10 ^ k) (hn : n < 10 ^ k)
    (heq : fixed k m = fixed k n) : m = n := by
  induction k generalizing m n with
  | zero => omega
  | succ k ih =>
      rw [Nat.pow_succ] at hm hn
      rcases List.append_inj heq (by simp) with ⟨hstart, hlast⟩
      have hdiv := ih (by omega) (by omega) hstart
      have hdigit : Nat.digitChar (m % 10) = Nat.digitChar (n % 10) := List.cons.inj hlast |>.1
      have hle := (digitChar_le_iff (Nat.mod_lt m (by omega)) (Nat.mod_lt n (by omega))).mp
        (le_of_eq hdigit)
      have hge := (digitChar_le_iff (Nat.mod_lt n (by omega)) (Nat.mod_lt m (by omega))).mp
        (le_of_eq hdigit.symm)
      omega

/-- Numbers with the same number of digits come in their order. -/
theorem fixed_le_iff {k m n : Nat} (hm : m < 10 ^ k) (hn : n < 10 ^ k) :
    fixed k m ≤ fixed k n ↔ m ≤ n := by
  induction k generalizing m n with
  | zero =>
      have hm' : m = 0 := by omega
      have hn' : n = 0 := by omega
      simp [hm', hn']
  | succ k ih =>
      rw [Nat.pow_succ] at hm hn
      have hm' : m / 10 < 10 ^ k := by omega
      have hn' : n / 10 < 10 ^ k := by omega
      have hsame : fixed k (m / 10) = fixed k (n / 10) ↔ m / 10 = n / 10 :=
        ⟨fixed_inj hm' hn', fun heq => by rw [heq]⟩
      have hless : fixed k (m / 10) < fixed k (n / 10) ↔ m / 10 < n / 10 := by
        rw [lt_iff_le_and_ne, Ne, ih hm' hn', hsame]
        omega
      rw [fixed, fixed, concat_le_iff (by simp), hless, hsame,
        digitChar_le_iff (Nat.mod_lt m (by omega)) (Nat.mod_lt n (by omega))]
      omega

/-- The first digits of a number. -/
theorem take_fixed (j k n : Nat) : (fixed (j + k) n).take j = fixed j (n / 10 ^ k) := by
  induction k generalizing n with
  | zero => simp [List.take_of_length_le]
  | succ k ih =>
      rw [← Nat.add_assoc, fixed, List.take_append_of_le_length (by simp), ih,
        Nat.div_div_eq_div_mul, Nat.pow_succ, Nat.mul_comm]

/-- A number that has fewer digits is filled up with zeros. -/
theorem fixed_eq_zeros {k n : Nat} (hn : n < 10 ^ k) (j : Nat) :
    fixed (j + k) n = List.replicate j '0' ++ fixed k n := by
  induction k generalizing n with
  | zero =>
      have hzero : n = 0 := by omega
      subst hzero
      induction j with
      | zero => rfl
      | succ j ih =>
          have hstep : fixed (j + 1) 0 = fixed j 0 ++ ['0'] := rfl
          rw [Nat.add_zero, hstep, show fixed j 0 = _ from ih, List.replicate_succ']
          simp [fixed]
  | succ k ih =>
      rw [Nat.pow_succ] at hn
      rw [← Nat.add_assoc, fixed, ih (by omega), fixed, List.append_assoc]

/-- The number of digits of a number. -/
def digitCount (n : Nat) : Nat :=
  (Nat.toDigits 10 n).length

/-- The last digit is one of them. -/
theorem digitCount_of_le {n : Nat} (hge : 10 ≤ n) : digitCount n = digitCount (n / 10) + 1 := by
  simp [digitCount, Nat.toDigits_of_base_le (by decide) hge]

/-- The decimal text of a number. -/
theorem toDigits_eq_fixed (n : Nat) : Nat.toDigits 10 n = fixed (digitCount n) n := by
  induction n using Nat.strongRecOn with
  | ind n ih =>
      by_cases hlt : n < 10
      · have hmod : n % 10 = n := Nat.mod_eq_of_lt hlt
        simp [digitCount, Nat.toDigits_of_lt_base hlt, fixed, hmod]
      · have hge : 10 ≤ n := Nat.le_of_not_lt hlt
        rw [digitCount_of_le hge, fixed, ← ih (n / 10) (by omega)]
        exact Nat.toDigits_of_base_le (by decide) hge

/-- A number is smaller than the power of ten with so many zeros. -/
theorem lt_pow_digitCount (n : Nat) : n < 10 ^ digitCount n := by
  induction n using Nat.strongRecOn with
  | ind n ih =>
      by_cases hlt : n < 10
      · simpa [digitCount, Nat.toDigits_of_lt_base hlt] using hlt
      · have hdiv := ih (n / 10) (by omega)
        rw [digitCount_of_le (Nat.le_of_not_lt hlt), Nat.pow_succ]
        omega

/-- A number with more than one digit is at least the power of ten with one zero less. -/
theorem pow_le_of_digitCount {n k : Nat} (hcount : digitCount n = k + 1) (hk : 0 < k) :
    10 ^ k ≤ n := by
  induction n using Nat.strongRecOn generalizing k with
  | ind n ih =>
      by_cases hlt : n < 10
      · rw [digitCount, Nat.toDigits_of_lt_base hlt] at hcount
        simp at hcount
        omega
      · have hstep := digitCount_of_le (Nat.le_of_not_lt hlt)
        cases k with
        | zero => omega
        | succ k =>
            rw [Nat.pow_succ]
            cases k with
            | zero => omega
            | succ k =>
                have hdiv := ih (n / 10) (by omega) (by omega : _ = k + 1 + 1) (by omega)
                omega

/-- A number has at most so many digits exactly if it is smaller than the power of ten. -/
theorem digitCount_le_iff {n k : Nat} (hk : 0 < k) : digitCount n ≤ k ↔ n < 10 ^ k := by
  constructor
  · intro hle
    exact lt_of_lt_of_le (lt_pow_digitCount n) (Nat.pow_le_pow_right (by decide) hle)
  · intro hlt
    by_contra hmore
    rcases Nat.exists_eq_add_of_lt (Nat.lt_of_not_le hmore) with ⟨d, hd⟩
    have hge := pow_le_of_digitCount hd (by omega)
    have hpow : 10 ^ k ≤ 10 ^ (k + d) := Nat.pow_le_pow_right (by decide) (by omega)
    omega

/-- A decimal number has a digit. -/
theorem digitCount_pos (n : Nat) : 0 < digitCount n :=
  List.length_pos_of_ne_nil Nat.toDigits_ne_nil

/-- Greater numbers are not shorter. -/
theorem digitCount_mono {m n : Nat} (hle : m ≤ n) : digitCount m ≤ digitCount n :=
  (digitCount_le_iff (digitCount_pos n)).mpr (lt_of_le_of_lt hle (lt_pow_digitCount n))

/-- Zeros in front of a number do not change it. -/
theorem ofDigitChars_zeros (count n : Nat) :
    Nat.ofDigitChars 10 (List.replicate count '0' ++ Nat.toDigits 10 n) 0 = n := by
  induction count with
  | zero => exact Nat.ofDigitChars_ten_toDigits
  | succ count ih => exact ih

end Text
end ClusterPlaybooks
