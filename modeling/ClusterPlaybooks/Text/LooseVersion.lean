import Mathlib.Data.List.Basic

/-!
# Loose version numbers

The version test compares two texts component by component.  A text is cut
into runs of digits, runs of lower-case letters, and runs of other characters;
dots separate components and are dropped.  A run of digits counts as a number.
Components are compared like the elements of two lists, and comparing a number
with a word is an error.

Main results:

- Theorem {lit}`looseCompare_self`: a version equals itself.
- Theorem {lit}`versionNe_ne`: versions that compare as different are different
  texts.
-/

namespace ClusterPlaybooks
namespace Text

/-- A component of a version. -/
inductive Component where
  | num (n : Nat)
  | word (w : List Char)
deriving DecidableEq, Repr

/-- The kinds of characters a version is cut by. -/
inductive CharKind where
  | digit
  | lower
  | dot
  | other
deriving DecidableEq, Repr

/-- The kind of a character. -/
def charKind (c : Char) : CharKind :=
  if c.isDigit then .digit
  else if c.isLower then .lower
  else if c = '.' then .dot
  else .other

/-- Maximal runs of characters of one kind. -/
def kindRuns : List Char → List (CharKind × List Char)
  | [] => []
  | c :: cs =>
      match kindRuns cs with
      | [] => [(charKind c, [c])]
      | (k, w) :: rest =>
          if k = charKind c then (k, c :: w) :: rest else (charKind c, [c]) :: (k, w) :: rest

/-- The components of a version text. -/
def components (version : String) : List Component :=
  (kindRuns version.toList).filterMap fun run =>
    match run.1 with
    | .digit => some (.num (Nat.ofDigitChars 10 run.2 0))
    | .dot => none
    | _ => some (.word run.2)

/-- Compare component lists; {lit}`none` is the error of a number against a word. -/
def looseCompare : List Component → List Component → Option Ordering
  | [], [] => some .eq
  | [], _ :: _ => some .lt
  | _ :: _, [] => some .gt
  | .num a :: as, .num b :: bs => if a = b then looseCompare as bs else some (compare a b)
  | .word a :: as, .word b :: bs => if a = b then looseCompare as bs else some (compare a b)
  | .num _ :: _, .word _ :: _ => none
  | .word _ :: _, .num _ :: _ => none

/-- {lit}`a is version(b, '>=')`. -/
def versionGe (a b : String) : Option Bool :=
  (looseCompare (components a) (components b)).map fun o => o != .lt

/-- {lit}`a is version(b, '!=')`. -/
def versionNe (a b : String) : Option Bool :=
  (looseCompare (components a) (components b)).map fun o => o != .eq

/-- Every component list equals itself. -/
theorem looseCompare_self (as : List Component) : looseCompare as as = some .eq := by
  induction as with
  | nil => rfl
  | cons a as ih =>
      cases a with
      | num n => simpa [looseCompare] using ih
      | word w => simpa [looseCompare] using ih

/-- Versions that compare as different are different texts. -/
theorem versionNe_ne {a b : String} (hne : versionNe a b = some true) : a ≠ b := by
  intro heq
  rw [heq, versionNe, looseCompare_self] at hne
  simp at hne

example : versionGe "3.8.0" "3.5.5" = some true := by decide

example : versionGe "3.5.4-beta" "3.5.5" = some false := by decide

end Text
end ClusterPlaybooks
