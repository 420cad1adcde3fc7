import ClusterPlaybooks.Text.Shell
import Mathlib.Algebra.Ring.Nat

/-!
# Text functions and numbers of SQL

Positions in a text count from one.  {lit}`LOCATE` gives zero if it finds nothing.  A text in an
arithmetic expression is read as a floating-point number, and the expression is then computed in
floating-point numbers; only numbers without a fraction occur here.

Main results:

- Theorem {lit}`locate_singleton`: the position of a character after a given part of the text.
- Theorem {lit}`substr_append`: a part of a text that is cut out by its position and length.
- Theorem {lit}`splitOn_parts`: a text with separators is taken apart again.
- Theorem {lit}`roundDouble_of_le`: numbers up to {lit}`2 ^ 53` are exact.
-/

namespace ClusterPlaybooks
namespace Text

variable {needle s pre mid post : List Char} {c : Char}

/-! ## Positions -/

/-- The number of characters before the first occurrence. -/
def find (needle : List Char) : List Char → Option Nat
  | [] => if needle.isEmpty then some 0 else none
  | c :: cs => if needle.isPrefixOf (c :: cs) then some 0 else (find needle cs).map (· + 1)

/-- {lit}`LOCATE`: the first position of a text from the given position on. -/
def locate (needle haystack : List Char) (offset : Nat) : Nat :=
  if offset = 0 then 0
  else match find needle (haystack.drop (offset - 1)) with
    | some k => offset + k
    | none => 0

/-- {lit}`SUBSTR`: the characters from a position on, at most the given number of them. -/
def substr (s : List Char) (offset length : Nat) : List Char :=
  if offset = 0 then [] else (s.drop (offset - 1)).take length

/-- A single character is found at its first index. -/
theorem find_singleton : find [c] s = if c ∈ s then some (s.idxOf c) else none := by
  induction s with
  | nil => simp [find]
  | cons d s ih =>
      by_cases hcd : c = d
      · subst hcd
        simp [find]
      · have hdc : d ≠ c := fun heq => hcd heq.symm
        simp only [find, List.isPrefixOf_cons_cons, List.isPrefixOf_nil_left, Bool.and_true,
          beq_iff_eq, hcd, if_false, ih, List.mem_cons, false_or, List.idxOf_cons_ne s hdc]
        split <;> rfl

/-- A character is looked for after a given part of the text. -/
theorem locate_singleton :
    locate [c] (pre ++ s) (pre.length + 1) =
      if c ∈ s then pre.length + 1 + s.idxOf c else 0 := by
  rw [locate, if_neg (by omega), Nat.add_sub_cancel, List.drop_left, find_singleton]
  by_cases hmem : c ∈ s
  · rw [if_pos hmem, if_pos hmem]
  · rw [if_neg hmem, if_neg hmem]

/-- A part of a text is cut out by its position and its length. -/
theorem substr_append : substr (pre ++ (mid ++ post)) (pre.length + 1) mid.length = mid := by
  rw [substr, if_neg (by omega), Nat.add_sub_cancel, List.drop_left, List.take_left]

/-! ## Separators -/

/-- The parts of a text are found again by splitting it at the separator. -/
theorem splitOn_parts {part : List Char} {parts : List (List Char)} (hpart : c ∉ part)
    (hparts : ∀ w ∈ parts, c ∉ w) :
    (part ++ parts.flatMap fun w => c :: w).splitOn c = part :: parts := by
  have hjoin : part ++ parts.flatMap (fun w => c :: w) = [c].intercalate (part :: parts) :=
    (intercalate_cons [c] part parts).symm
  rw [hjoin, List.splitOn_intercalate c (List.forall_mem_cons.mpr ⟨hpart, hparts⟩) (by simp)]

/-! ## Numbers -/

/-- The floating-point number next to a number; of two equally near ones the even one. -/
def roundDouble (x : Int) : Int :=
  if x.natAbs ≤ 2 ^ 53 then x
  else
    let unit := 2 ^ (x.natAbs.log2 - 52)
    let low := x.natAbs / unit
    let high := 2 * (x.natAbs % unit) > unit ∨ 2 * (x.natAbs % unit) = unit ∧ low % 2 = 1
    x.sign * ((if high then low + 1 else low) * unit : Nat)

/-- The sum of two floating-point numbers. -/
def addDouble (x y : Int) : Int :=
  roundDouble (x + y)

/-- The difference of two floating-point numbers. -/
def subDouble (x y : Int) : Int :=
  roundDouble (x - y)

/-- A text in an arithmetic expression: the number its first digits make. -/
def readDouble (s : List Char) : Int :=
  roundDouble (Nat.ofDigitChars 10 (s.takeWhile Char.isDigit) 0)

/-- Numbers up to {lit}`2 ^ 53` are exact. -/
theorem roundDouble_of_le {x : Int} (hx : x.natAbs ≤ 2 ^ 53) : roundDouble x = x :=
  if_pos hx

/-- A small sum is exact. -/
theorem addDouble_of_le {x y : Int} (hxy : (x + y).natAbs ≤ 2 ^ 53) : addDouble x y = x + y :=
  roundDouble_of_le hxy

/-- A small difference is exact. -/
theorem subDouble_of_le {x y : Int} (hxy : (x - y).natAbs ≤ 2 ^ 53) : subDouble x y = x - y :=
  roundDouble_of_le hxy

end Text
end ClusterPlaybooks
