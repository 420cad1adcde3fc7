import Mathlib.Data.List.Basic
import Mathlib.Logic.Function.Basic

/-!
# Plays with tasks that run once

A play hands its tasks to all its hosts, one task after the other.  A host on which a task fails
takes no further part.  A task with {lit}`run_once` is carried out on the first host that is
left, and if it fails there the play is over for all hosts.  A pattern says for every task and
every host whether the task fails from outside, and whether it has its effect all the same.  A
task whose effect is impossible fails in any case.

Main results:

- Theorem {lit}`play_of_alive_nil`: a play without hosts changes nothing.
- Theorem {lit}`play_nodes_of_not_alive`: a host that was dropped is left alone.
- Theorem {lit}`alive_step_of_impossible`: a task that runs once and cannot succeed ends the play.
- Theorem {lit}`play_keeps`: what every task keeps is kept by the play.
- Theorem {lit}`alive_play_iff` and theorem {lit}`play_nodes_of_survives`: the hosts that are
  left after tasks for all hosts, and their nodes.
-/

namespace ClusterPlaybooks
namespace Ansible

variable {H σ : Type}

/-! ## Tasks -/

/-- What happens to a task from outside; a failed task may have had its effect. -/
inductive Fate where
  | ok
  | failed (applied : Bool)
deriving DecidableEq, Repr

/-- A task: its {lit}`when` clause and its effect, {lit}`none` if it cannot succeed. -/
structure OnceTask (H σ : Type) where
  name : String
  runOnce : Bool
  cond : σ → Bool
  effect : H → σ → Option σ

/-- Carry out a task on a host; the second component says whether the host goes on. -/
def OnceTask.perform (t : OnceTask H σ) (h : H) (s : σ) (f : Fate) : σ × Bool :=
  if t.cond s then
    match t.effect h s, f with
    | none, _ => (s, false)
    | some s', .ok => (s', true)
    | some s', .failed applied => (if applied then s' else s, false)
  else (s, true)

/-- The nodes, and the hosts that still take part. -/
structure Playing (H σ : Type) where
  nodes : H → σ
  alive : List H

variable [DecidableEq H]

/-- One task. -/
def Playing.step (p : Playing H σ) (t : OnceTask H σ) (o : H → Fate) : Playing H σ :=
  if t.runOnce then
    match p.alive with
    | [] => p
    | h :: _ =>
        { nodes := Function.update p.nodes h (t.perform h (p.nodes h) (o h)).1
          alive := if (t.perform h (p.nodes h) (o h)).2 then p.alive else [] }
  else
    { nodes := fun h => if h ∈ p.alive then (t.perform h (p.nodes h) (o h)).1 else p.nodes h
      alive := p.alive.filter fun h => (t.perform h (p.nodes h) (o h)).2 }

/-- The tasks of a play; the pattern counts them from the given number. -/
def play (pattern : Nat → H → Fate) : Nat → List (OnceTask H σ) → Playing H σ → Playing H σ
  | _, [], p => p
  | k, t :: ts, p => play pattern (k + 1) ts (p.step t (pattern k))

variable {pattern : Nat → H → Fate} {p : Playing H σ} {t : OnceTask H σ}
  {tasks tasks' : List (OnceTask H σ)} {h : H} {s : σ} {o : H → Fate}

/-- A play in two parts. -/
theorem play_append (k : Nat) :
    play pattern k (tasks ++ tasks') p =
      play pattern (k + tasks.length) tasks' (play pattern k tasks p) := by
  induction tasks generalizing k p with
  | nil => rfl
  | cons t ts ih =>
      have hcount : k + (t :: ts).length = k + 1 + ts.length := by
        rw [List.length_cons]
        omega
      rw [List.cons_append, play, ih, hcount, play]

/-! ## Hosts that were dropped -/

/-- A step drops hosts and adds none. -/
theorem alive_step_subset : (p.step t o).alive ⊆ p.alive := by
  unfold Playing.step
  split
  · split
    · exact List.Subset.refl _
    · intro h hh
      split at hh
      · exact hh
      · cases hh
  · exact List.filter_sublist.subset

/-- A step leaves a dropped host alone. -/
theorem step_nodes_of_not_alive (hdropped : h ∉ p.alive) : (p.step t o).nodes h = p.nodes h := by
  unfold Playing.step
  split
  · split
    · rfl
    · rename_i first rest halive
      have hne : h ≠ first := by
        rintro rfl
        exact hdropped (by simp [halive])
      simp [Function.update_of_ne hne]
  · simp [hdropped]

/-- A play leaves a dropped host alone. -/
theorem play_nodes_of_not_alive (k : Nat) (hdropped : h ∉ p.alive) :
    (play pattern k tasks p).nodes h = p.nodes h := by
  induction tasks generalizing k p with
  | nil => rfl
  | cons t ts ih =>
      rw [play, ih (k + 1) fun hh => hdropped (alive_step_subset hh),
        step_nodes_of_not_alive hdropped]

/-- A play without hosts changes nothing. -/
theorem play_of_alive_nil (k : Nat) (hnil : p.alive = []) :
    (play pattern k tasks p).nodes = p.nodes := by
  funext h
  exact play_nodes_of_not_alive k (by simp [hnil])

/-- A task that runs once and is impossible ends the play for all hosts. -/
theorem alive_step_of_impossible (honce : t.runOnce = true) (hcond : ∀ s, t.cond s = true)
    (heffect : ∀ h s, t.effect h s = none) : (p.step t o).alive = [] := by
  unfold Playing.step
  rw [if_pos honce]
  split
  · assumption
  · simp [OnceTask.perform, hcond, heffect]

/-! ## What tasks keep -/

omit [DecidableEq H] in
/-- After a task the node is as before, or it has the effect of the task. -/
theorem perform_cases (f : Fate) :
    (t.perform h s f).1 = s ∨ t.effect h s = some (t.perform h s f).1 := by
  unfold OnceTask.perform
  split
  · cases heffect : t.effect h s with
    | none => exact Or.inl rfl
    | some s' =>
        cases f with
        | ok => exact Or.inr rfl
        | failed applied =>
            cases applied with
            | true => exact Or.inr rfl
            | false => exact Or.inl rfl
  · exact Or.inl rfl

/-- What the effect of a task keeps on a host is kept by a step. -/
theorem step_keeps {I : σ → Prop} (heffect : ∀ s s', t.effect h s = some s' → I s → I s')
    (hI : I (p.nodes h)) : I ((p.step t o).nodes h) := by
  have ht : ∀ s f, I s → I (t.perform h s f).1 := by
    intro s f hs
    rcases perform_cases (t := t) (h := h) (s := s) f with hsame | heff
    · rwa [hsame]
    · exact heffect s _ heff hs
  unfold Playing.step
  split
  · split
    · exact hI
    · rename_i first rest halive
      by_cases hfirst : h = first
      · subst hfirst
        simpa using ht _ _ hI
      · simpa [Function.update_of_ne hfirst] using hI
  · by_cases halive : h ∈ p.alive
    · simpa [halive] using ht _ _ hI
    · simpa [halive] using hI

/-- What the effect of every task keeps on a host is kept by the play. -/
theorem play_keeps {I : σ → Prop}
    (hkeep : ∀ t ∈ tasks, ∀ s s', t.effect h s = some s' → I s → I s') (k : Nat)
    (hI : I (p.nodes h)) : I ((play pattern k tasks p).nodes h) := by
  induction tasks generalizing k p with
  | nil => exact hI
  | cons t ts ih =>
      rw [play]
      apply ih fun u hu => hkeep u (List.mem_cons_of_mem t hu)
      exact step_keeps (hkeep t List.mem_cons_self) hI

/-! ## Hosts that are left -/

/-- A task for all hosts is carried out on every host that is left. -/
theorem step_nodes_of_alive (hall : t.runOnce = false) (halive : h ∈ p.alive) :
    (p.step t o).nodes h = (t.perform h (p.nodes h) (o h)).1 := by
  simp [Playing.step, hall, halive]

/-- A host is left after it exactly if it goes on. -/
theorem mem_alive_step_iff (hall : t.runOnce = false) :
    h ∈ (p.step t o).alive ↔ h ∈ p.alive ∧ (t.perform h (p.nodes h) (o h)).2 = true := by
  simp [Playing.step, hall]

/-- The node of a host on which no task fails, {lit}`none` for every other host. -/
def survives (pattern : Nat → H → Fate) (h : H) :
    Nat → List (OnceTask H σ) → σ → Option σ
  | _, [], s => some s
  | k, t :: ts, s =>
      if (t.perform h s (pattern k h)).2 then
        survives pattern h (k + 1) ts (t.perform h s (pattern k h)).1
      else none

omit [DecidableEq H] in
/--
One more task: its condition is known, and so is the node it leaves, whether it runs or is
passed over.
-/
theorem survives_cons (s' : σ) (runs : Bool) (k : Nat) (hcond : t.cond s = runs)
    (heffect : runs = true → t.effect h s = some s') (hskip : runs = false → s' = s) :
    survives pattern h k (t :: tasks) s =
      if runs = true → pattern k h = .ok then survives pattern h (k + 1) tasks s' else none := by
  cases runs with
  | false =>
      have hpass : t.perform h s (pattern k h) = (s, true) := by
        simp [OnceTask.perform, hcond]
      simp [survives, hpass, hskip rfl]
  | true =>
      cases hfate : pattern k h with
      | ok => simp [survives, OnceTask.perform, hcond, heffect rfl, hfate]
      | failed applied => simp [survives, OnceTask.perform, hcond, heffect rfl, hfate]

/-- After tasks for all hosts, the hosts are left on which no task failed. -/
theorem alive_play_iff (k : Nat) (honce : ∀ t ∈ tasks, t.runOnce = false) :
    h ∈ (play pattern k tasks p).alive ↔
      h ∈ p.alive ∧ (survives pattern h k tasks (p.nodes h)).isSome = true := by
  induction tasks generalizing k p with
  | nil => simp [play, survives]
  | cons t ts ih =>
      have hall := honce t List.mem_cons_self
      rw [play, ih (k + 1) fun u hu => honce u (List.mem_cons_of_mem t hu),
        mem_alive_step_iff hall, survives]
      by_cases halive : h ∈ p.alive
      · rw [step_nodes_of_alive hall halive]
        cases hgo : (t.perform h (p.nodes h) (pattern k h)).2 with
        | true => simp
        | false => simp
      · simp [halive]

/-- Their nodes are what the tasks made of them. -/
theorem play_nodes_of_survives (k : Nat) (honce : ∀ t ∈ tasks, t.runOnce = false)
    (halive : h ∈ p.alive) (hsurvives : survives pattern h k tasks (p.nodes h) = some s) :
    (play pattern k tasks p).nodes h = s := by
  induction tasks generalizing k p with
  | nil => simpa [play, survives] using hsurvives
  | cons t ts ih =>
      have hall := honce t List.mem_cons_self
      rw [survives] at hsurvives
      cases hgo : (t.perform h (p.nodes h) (pattern k h)).2 with
      | false => simp [hgo] at hsurvives
      | true =>
          rw [hgo, if_pos rfl] at hsurvives
          rw [play]
          apply ih (k + 1) (fun u hu => honce u (List.mem_cons_of_mem t hu))
          · exact (mem_alive_step_iff hall).mpr ⟨halive, hgo⟩
          · rwa [step_nodes_of_alive hall halive]

end Ansible
end ClusterPlaybooks
