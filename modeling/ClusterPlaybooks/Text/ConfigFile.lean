import Mathlib.Data.List.Basic

/-!
# Line-oriented configuration files

A configuration file is a list of lines; a line is a {lit}`key=value` entry or
some other text.  Where a key occurs several times the last entry counts.  The
line editor {lit}`lineinfile` replaces the last line found by an anchored
regular expression and appends a line when there is none.  The expressions are
made of literal characters and dots, and a dot stands for any character.

Main results:

- Theorem {lit}`lookup_lineinfile_self`: the edited key has the new value.
- Theorem {lit}`lookup_lineinfile_of_not_found`: a key the expression cannot
  find keeps its value.
-/

namespace ClusterPlaybooks
namespace Text

/-- One line of a configuration file. -/
inductive Line where
  | entry (key value : String)
  | text (content : String)
deriving DecidableEq, Repr

/-- A configuration file. -/
abbrev ConfigFile := List Line

/-- The characters of a line. -/
def Line.chars : Line → List Char
  | .entry key value => key.toList ++ '=' :: value.toList
  | .text content => content.toList

/-- The value a line gives to a key. -/
def Line.valueOf (key : String) : Line → Option String
  | .entry k v => if k = key then some v else none
  | .text _ => none

/-- The value of a key: the last entry counts. -/
def lookup (key : String) : ConfigFile → Option String
  | [] => none
  | l :: ls => (lookup key ls).or (l.valueOf key)

@[simp]
theorem lookup_nil (key : String) : lookup key [] = none :=
  rfl

@[simp]
theorem lookup_cons (key : String) (l : Line) (ls : ConfigFile) :
    lookup key (l :: ls) = (lookup key ls).or (l.valueOf key) :=
  rfl

/-- A later part of a file overrides an earlier one. -/
theorem lookup_append (key : String) (f g : ConfigFile) :
    lookup key (f ++ g) = (lookup key g).or (lookup key f) := by
  induction f with
  | nil => simp
  | cons l ls ih => rw [List.cons_append, lookup_cons, ih, lookup_cons, Option.or_assoc]

/-- A key that no line mentions has no value. -/
theorem lookup_eq_none {key : String} {f : ConfigFile}
    (hnone : ∀ l ∈ f, l.valueOf key = none) : lookup key f = none := by
  induction f with
  | nil => rfl
  | cons l ls ih =>
      rw [lookup_cons, ih fun m hm => hnone m (List.mem_cons_of_mem l hm)]
      rw [hnone l List.mem_cons_self]
      rfl

/-! ## Anchored search -/

/-- Match a pattern at the beginning of a text; a dot stands for any character. -/
def matchFrom : List Char → List Char → Bool
  | [], _ => true
  | _ :: _, [] => false
  | p :: ps, c :: cs => (p == '.' || p == c) && matchFrom ps cs

/-- The regular expression {lit}`^re` finds the line. -/
def Line.found (re : String) (l : Line) : Bool :=
  matchFrom re.toList l.chars

/-! ## The line editor -/

/-- Replace the last line that satisfies {lit}`p`, if there is one. -/
def replaceLast (p : Line → Bool) (new : Line) : ConfigFile → Option ConfigFile
  | [] => none
  | l :: ls =>
      match replaceLast p new ls with
      | some ls' => some (l :: ls')
      | none => if p l then some (new :: ls) else none

/-- {lit}`lineinfile` with {lit}`regexp: ^re`. -/
def lineinfile (re : String) (new : Line) (f : ConfigFile) : ConfigFile :=
  (replaceLast (Line.found re) new f).getD (f ++ [new])

/-- Nothing is replaced exactly when no line satisfies the condition. -/
theorem replaceLast_eq_none {p : Line → Bool} {new : Line} {f : ConfigFile}
    (hnone : replaceLast p new f = none) : ∀ l ∈ f, p l = false := by
  induction f with
  | nil => simp
  | cons m ms ih =>
      simp only [replaceLast] at hnone
      split at hnone
      · cases hnone
      · rename_i hms
        split at hnone
        · cases hnone
        · rename_i hm
          intro l hl
          rcases List.mem_cons.mp hl with rfl | hl
          · simpa using hm
          · exact ih hms l hl

/-- The replaced line is the last one that satisfied the condition. -/
theorem replaceLast_eq_some {p : Line → Bool} {new : Line} {f f' : ConfigFile}
    (hsome : replaceLast p new f = some f') :
    ∃ before old rest, f = before ++ old :: rest ∧ p old = true ∧
      (∀ l ∈ rest, p l = false) ∧ f' = before ++ new :: rest := by
  induction f generalizing f' with
  | nil => simp [replaceLast] at hsome
  | cons m ms ih =>
      simp only [replaceLast] at hsome
      split at hsome
      · rename_i ms' hms
        cases hsome
        rcases ih hms with ⟨before, old, rest, rfl, hold, hrest, rfl⟩
        exact ⟨m :: before, old, rest, rfl, hold, hrest, rfl⟩
      · rename_i hms
        split at hsome
        · rename_i hm
          cases hsome
          exact ⟨[], m, ms, rfl, hm, replaceLast_eq_none hms, rfl⟩
        · cases hsome

/-- The two things {lit}`lineinfile` can do to a file. -/
theorem lineinfile_cases (re : String) (new : Line) (f : ConfigFile) :
    (∃ before old rest, f = before ++ old :: rest ∧ old.found re = true ∧
      (∀ l ∈ rest, l.found re = false) ∧ lineinfile re new f = before ++ new :: rest) ∨
    ((∀ l ∈ f, l.found re = false) ∧ lineinfile re new f = f ++ [new]) := by
  cases hrep : replaceLast (Line.found re) new f with
  | none =>
      right
      exact ⟨replaceLast_eq_none hrep, by simp [lineinfile, hrep]⟩
  | some f' =>
      left
      rcases replaceLast_eq_some hrep with ⟨before, old, rest, hf, hold, hrest, hf'⟩
      exact ⟨before, old, rest, hf, hold, hrest, by simp [lineinfile, hrep, hf']⟩

/-- Lines that are not found do not mention a key whose entries are all found. -/
private theorem valueOf_of_not_found {re key : String} {l : Line}
    (hkey : ∀ v, (Line.entry key v).found re = true) (hl : l.found re = false) :
    l.valueOf key = none := by
  cases l with
  | text content => rfl
  | entry k v =>
      by_cases hk : k = key
      · subst hk
        rw [hkey v] at hl
        cases hl
      · simp [Line.valueOf, hk]

/-- After the edit the key has the value of the new line. -/
theorem lookup_lineinfile_self (re key value : String) (f : ConfigFile)
    (hkey : ∀ v, (Line.entry key v).found re = true) :
    lookup key (lineinfile re (.entry key value) f) = some value := by
  rcases lineinfile_cases re (.entry key value) f with
    ⟨before, old, rest, _, _, hrest, heq⟩ | ⟨_, heq⟩
  · have hnone : lookup key rest = none :=
      lookup_eq_none fun l hl => valueOf_of_not_found hkey (hrest l hl)
    rw [heq, lookup_append, lookup_cons, hnone]
    simp [Line.valueOf]
  · rw [heq, lookup_append]
    simp [Line.valueOf]

/-- A key whose entries the expression cannot find keeps its value. -/
theorem lookup_lineinfile_of_not_found (re key other value : String) (f : ConfigFile)
    (hne : other ≠ key)
    (hnot : ∀ v, (Line.entry other v).found re = false) :
    lookup other (lineinfile re (.entry key value) f) = lookup other f := by
  have hnew : (Line.entry key value).valueOf other = none := by
    simp [Line.valueOf, hne.symm]
  rcases lineinfile_cases re (.entry key value) f with
    ⟨before, old, rest, hf, hold, _, heq⟩ | ⟨_, heq⟩
  · have holdNone : old.valueOf other = none := by
      cases old with
      | text content => rfl
      | entry k v =>
          by_cases hk : k = other
          · subst hk
            rw [hnot v] at hold
            cases hold
          · simp [Line.valueOf, hk]
    rw [heq, hf, lookup_append, lookup_append, lookup_cons, lookup_cons, hnew, holdNone]
  · rw [heq, lookup_append, lookup_cons, lookup_nil, hnew]
    rfl

end Text
end ClusterPlaybooks
