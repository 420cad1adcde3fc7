import ClusterPlaybooks.Service.Modules

/-!
# Tasks that create and remove paths

A node is looked at as the set of the paths that exist on it.  Tasks create directories, unpack
archives, write files and remove paths with everything below them.  A file can be written only
into a directory that exists.

Main results:

- Theorem {lit}`runTasks_keeps`: tasks that remove nothing keep every path.
- Theorem {lit}`present_of_runTasks` and theorem {lit}`written_of_runTasks`: the paths that are
  there after tasks that remove nothing.
- Theorem {lit}`runTasks_absent`: what is left after paths are removed.
- Theorem {lit}`all_gone_iff`: when all paths of a list are gone.
-/

namespace ClusterPlaybooks
namespace Service

/-- The paths that exist on a node. -/
abbrev Paths := String → Bool

/-- A task of a role, as far as it creates or removes paths. -/
inductive PathTask where
  /-- A directory or a link is created if it is missing. -/
  | present (path : String)
  /-- An archive with the given paths is unpacked, unless {lit}`creates` exists. -/
  | unarchive (creates : String) (paths : List String)
  /-- A file is written into an existing directory. -/
  | write (dir path : String)
  /-- A path is removed, with everything below it. -/
  | absent (path : String)
deriving DecidableEq, Repr

/-- The effect of a task; a file cannot be written into a missing directory. -/
def PathTask.apply (s : Paths) : PathTask → Option Paths
  | .present path => some fun p => p == path || s p
  | .unarchive creates paths =>
      some (if s creates then s else fun p => paths.contains p || s p)
  | .write dir path => if s dir then some fun p => p == path || s p else none
  | .absent path => some fun p => s p && !inDir path p

/-- Tasks one after the other; {lit}`none` if one of them fails. -/
def runTasks (s : Paths) (tasks : List PathTask) : Option Paths :=
  tasks.foldlM PathTask.apply s

/-- The task removes nothing. -/
def PathTask.isSafe : PathTask → Bool
  | .absent _ => false
  | _ => true

variable {s s' : Paths} {t : PathTask} {tasks : List PathTask} {p : String}

/-- Tasks are run one by one. -/
theorem runTasks_cons (t : PathTask) (tasks : List PathTask) :
    runTasks s (t :: tasks) = (t.apply s).bind fun s' => runTasks s' tasks :=
  rfl

/-- A task that removes nothing keeps every path. -/
theorem apply_keeps (hsafe : t.isSafe = true) (happly : t.apply s = some s') (hp : s p = true) :
    s' p = true := by
  cases t with
  | present path =>
      cases happly
      simp [hp]
  | unarchive creates paths =>
      cases happly
      by_cases hcreates : s creates = true
      · simp [hcreates, hp]
      · simp [hcreates, hp]
  | write dir path =>
      by_cases hdir : s dir = true
      · simp only [PathTask.apply, hdir, if_true, Option.some.injEq] at happly
        simp [← happly, hp]
      · simp [PathTask.apply, hdir] at happly
  | absent path => simp [PathTask.isSafe] at hsafe

/-- Tasks that remove nothing keep every path. -/
theorem runTasks_keeps (hsafe : ∀ t ∈ tasks, t.isSafe = true) (hrun : runTasks s tasks = some s')
    (hp : s p = true) : s' p = true := by
  induction tasks generalizing s with
  | nil =>
      cases hrun
      exact hp
  | cons t tasks ih =>
      rw [runTasks_cons, Option.bind_eq_some_iff] at hrun
      rcases hrun with ⟨m, happly, hrest⟩
      exact ih (fun u hu => hsafe u (List.mem_cons_of_mem t hu)) hrest
        (apply_keeps (hsafe t List.mem_cons_self) happly hp)

/-- A path that some task leaves behind is there in the end. -/
theorem left_of_runTasks (hsafe : ∀ t ∈ tasks, t.isSafe = true)
    (hrun : runTasks s tasks = some s') (ht : t ∈ tasks)
    (hleft : ∀ m m', t.apply m = some m' → m' p = true) : s' p = true := by
  induction tasks generalizing s with
  | nil => cases ht
  | cons u tasks ih =>
      rw [runTasks_cons, Option.bind_eq_some_iff] at hrun
      rcases hrun with ⟨m, happly, hrest⟩
      have hsafe' : ∀ w ∈ tasks, w.isSafe = true := fun w hw =>
        hsafe w (List.mem_cons_of_mem u hw)
      rcases List.mem_cons.mp ht with rfl | hlater
      · exact runTasks_keeps hsafe' hrest (hleft s m happly)
      · exact ih hsafe' hrest hlater

/-- A directory or link that was created is there. -/
theorem present_of_runTasks (hsafe : ∀ t ∈ tasks, t.isSafe = true)
    (hrun : runTasks s tasks = some s') (hpresent : .present p ∈ tasks) : s' p = true := by
  refine left_of_runTasks hsafe hrun hpresent fun m m' happly => ?_
  cases happly
  simp

/-- A file that was written is there, and so is its directory. -/
theorem written_of_runTasks {dir : String} (hsafe : ∀ t ∈ tasks, t.isSafe = true)
    (hrun : runTasks s tasks = some s') (hwrite : .write dir p ∈ tasks) :
    s' p = true ∧ s' dir = true := by
  constructor
  · refine left_of_runTasks hsafe hrun hwrite fun m m' happly => ?_
    by_cases hdir : m dir = true
    · simp only [PathTask.apply, hdir, if_true, Option.some.injEq] at happly
      simp [← happly]
    · simp [PathTask.apply, hdir] at happly
  · refine left_of_runTasks hsafe hrun hwrite fun m m' happly => ?_
    by_cases hdir : m dir = true
    · exact apply_keeps (t := .write dir p) rfl happly hdir
    · simp [PathTask.apply, hdir] at happly

/-- The path is one of the given ones or lies below one of them. -/
def Covered (paths : List String) (p : String) : Prop :=
  ∃ r ∈ paths, inDir r p = true

instance (paths : List String) (p : String) : Decidable (Covered paths p) :=
  inferInstanceAs (Decidable (∃ r ∈ paths, _))

/-- A path covers itself. -/
theorem covered_of_mem {paths : List String} (hp : p ∈ paths) : Covered paths p :=
  ⟨p, hp, Text.leadsInto_self p.toList⟩

/-- The paths that are left after some are removed. -/
def leftAfter (s : Paths) (paths : List String) : Paths :=
  fun p => s p && paths.all fun r => !inDir r p

/-- Removing paths never fails and leaves what is not covered. -/
theorem runTasks_absent (s : Paths) (paths : List String) :
    runTasks s (paths.map .absent) = some (leftAfter s paths) := by
  induction paths generalizing s with
  | nil =>
      have hall : leftAfter s [] = s := by
        funext p
        simp [leftAfter]
      rw [hall]
      rfl
  | cons r paths ih =>
      rw [List.map_cons, runTasks_cons, PathTask.apply, Option.bind_some, ih]
      congr 1
      funext p
      simp [leftAfter, Bool.and_assoc]

/-- A path that was there is gone exactly if it is covered. -/
theorem leftAfter_eq_false_iff {paths : List String} (hp : s p = true) :
    leftAfter s paths p = false ↔ Covered paths p := by
  simp [leftAfter, hp, Covered]

/-- A covered path is gone in any case. -/
theorem leftAfter_of_covered {paths : List String} (hcovered : Covered paths p) :
    leftAfter s paths p = false := by
  rcases hcovered with ⟨r, hr, hin⟩
  simp only [leftAfter, Bool.and_eq_false_iff, List.all_eq_false]
  exact Or.inr ⟨r, hr, by simp [hin]⟩

/--
Paths of which some are covered and the rest were there are all gone exactly if the rest is
covered, too.
-/
theorem all_gone_iff {own rest paths : List String}
    (hown : ∀ p ∈ own, p ∈ rest ∨ Covered paths p) (hrest : ∀ p ∈ rest, p ∈ own ∧ s p = true) :
    (∀ p ∈ own, leftAfter s paths p = false) ↔ ∀ p ∈ rest, Covered paths p := by
  constructor
  · intro hgone p hp
    rcases hrest p hp with ⟨hmem, hthere⟩
    exact (leftAfter_eq_false_iff hthere).mp (hgone p hmem)
  · intro hcovered p hp
    rcases hown p hp with hmem | hnamed
    · exact leftAfter_of_covered (hcovered p hmem)
    · exact leftAfter_of_covered hnamed

end Service
end ClusterPlaybooks
