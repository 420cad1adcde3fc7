import Mathlib.Data.List.Infix

/-!
# Paths of files

A path is a text.  Its steps are the parts between the slashes: an empty part and a dot lead
nowhere, and two dots lead back.  Two texts with the same steps are the same path, and a path
leads into a directory if its steps begin with those of the directory.

Main results:

- Theorem {lit}`leadsInto_self`: a path leads into itself.
- Theorem {lit}`steps_child`: the steps of a path with one more name.
- Theorem {lit}`leadsInto_sibling`: two names below one path lead into each other only if they are
  equal.
-/

namespace ClusterPlaybooks
namespace Text

/-- The part of a path after the given steps. -/
def enterPart (before : List (List Char)) (part : List Char) : List (List Char) :=
  if part = [] ∨ part = ['.'] then before
  else if part = ['.', '.'] then before.dropLast
  else before ++ [part]

/-- The steps of a path of which {lit}`before` and the letters of {lit}`part` have been read. -/
def stepsFrom (before : List (List Char)) (part : List Char) : List Char → List (List Char)
  | [] => enterPart before part
  | c :: cs =>
      if c = '/' then stepsFrom (enterPart before part) [] cs
      else stepsFrom before (part ++ [c]) cs

/-- The steps of a path. -/
def steps (path : List Char) : List (List Char) :=
  stepsFrom [] [] path

/-- The path is the directory or leads into it. -/
def leadsInto (dir path : List Char) : Bool :=
  (steps dir).isPrefixOf (steps path)

/-- A name of a file or directory. -/
structure IsName (name : List Char) : Prop where
  slash : '/' ∉ name
  empty : name ≠ []
  dot : name ≠ ['.']
  dots : name ≠ ['.', '.']

/-- A path leads into itself. -/
theorem leadsInto_self (path : List Char) : leadsInto path path = true :=
  List.isPrefixOf_iff_prefix.mpr List.prefix_rfl

/-- A slash ends the steps before it. -/
theorem stepsFrom_append_slash (before : List (List Char)) (part path rest : List Char) :
    stepsFrom before part (path ++ '/' :: rest) =
      stepsFrom (stepsFrom before part path) [] rest := by
  induction path generalizing before part with
  | nil => simp [stepsFrom]
  | cons c cs ih =>
      rw [List.cons_append, stepsFrom, stepsFrom]
      split
      · exact ih _ _
      · exact ih _ _

/-- Letters without a slash are one part. -/
theorem stepsFrom_of_notMem (before : List (List Char)) {part rest : List Char}
    (hrest : '/' ∉ rest) : stepsFrom before part rest = enterPart before (part ++ rest) := by
  induction rest generalizing part with
  | nil => simp [stepsFrom]
  | cons c cs ih =>
      rw [List.mem_cons, not_or] at hrest
      rw [stepsFrom, if_neg (Ne.symm hrest.1), ih hrest.2, List.append_assoc,
        List.singleton_append]

/-- A name after a slash is one more step. -/
theorem steps_child (path : List Char) {name : List Char} (hname : IsName name) :
    steps (path ++ '/' :: name) = steps path ++ [name] := by
  rw [steps, stepsFrom_append_slash, stepsFrom_of_notMem _ hname.slash, List.nil_append,
    enterPart, if_neg (by simp [hname.empty, hname.dot]), if_neg hname.dots]
  rfl

/-- Two names below one path lead into each other only if they are equal. -/
theorem leadsInto_sibling (path : List Char) {name other : List Char} (hname : IsName name)
    (hother : IsName other) :
    leadsInto (path ++ '/' :: name) (path ++ '/' :: other) = true ↔ name = other := by
  rw [leadsInto, steps_child path hname, steps_child path hother, List.isPrefixOf_iff_prefix,
    List.prefix_append_right_inj]
  constructor
  · intro hbegins
    exact List.singleton_inj.mp (hbegins.eq_of_length rfl)
  · rintro rfl
    exact List.prefix_rfl

example : leadsInto "/opt/app-1/".toList "/opt//app-0/../app-1/./conf".toList = true := by
  decide

end Text
end ClusterPlaybooks
