import Mathlib.Data.List.Basic

/-!
# Processes that make one call after the other

A process is a state and a step: what it does next is fixed by its state, and what comes of it
by an outcome from outside.  A list of outcomes gives a run, and a process that has ended stays
as it is.

Main results:

- Theorem {lit}`run_invariant`: what every step keeps every run keeps.
- Theorem {lit}`run_invariant_of_admits`: the same for runs with outcomes that the states admit.
- Theorem {lit}`run_halts`: a process with a rank that goes down ends after that many calls.
-/

namespace ClusterPlaybooks
namespace Process

variable {σ ο : Type} {step : σ → ο → σ} {s : σ}

/-- The state after the calls of a run. -/
def run (step : σ → ο → σ) (s : σ) (os : List ο) : σ :=
  os.foldl step s

@[simp]
theorem run_nil (step : σ → ο → σ) (s : σ) : run step s [] = s :=
  rfl

@[simp]
theorem run_cons (step : σ → ο → σ) (s : σ) (o : ο) (os : List ο) :
    run step s (o :: os) = run step (step s o) os :=
  rfl

theorem run_append (step : σ → ο → σ) (s : σ) (os os' : List ο) :
    run step s (os ++ os') = run step (run step s os) os' :=
  List.foldl_append

/-- What every step keeps every run keeps. -/
theorem run_invariant {I : σ → Prop} (hstep : ∀ s o, I s → I (step s o)) (hs : I s)
    (os : List ο) : I (run step s os) := by
  induction os generalizing s with
  | nil => exact hs
  | cons o os ih => exact ih (hstep s o hs)

/-- What the steps with the outcomes of a run keep the run keeps. -/
theorem run_invariant_of_mem {I : σ → Prop} {os : List ο}
    (hstep : ∀ s, ∀ o ∈ os, I s → I (step s o)) (hs : I s) : I (run step s os) := by
  induction os generalizing s with
  | nil => exact hs
  | cons o os ih =>
      exact ih (fun s' o' ho' => hstep s' o' (List.mem_cons_of_mem o ho'))
        (hstep s o List.mem_cons_self hs)

/-- Every outcome of a run is one that the state before it admits. -/
def Admits (ok : σ → ο → Prop) (step : σ → ο → σ) : σ → List ο → Prop
  | _, [] => True
  | s, o :: os => ok s o ∧ Admits ok step (step s o) os

instance Admits.decidable {ok : σ → ο → Prop} [∀ s o, Decidable (ok s o)] :
    ∀ (s : σ) (os : List ο), Decidable (Admits ok step s os)
  | _, [] => inferInstanceAs (Decidable True)
  | s, o :: os => @instDecidableAnd (ok s o) _ _ (Admits.decidable (step s o) os)

/-- What the admitted steps keep a run of such steps keeps. -/
theorem run_invariant_of_admits {ok : σ → ο → Prop} {I : σ → Prop}
    (hstep : ∀ s o, ok s o → I s → I (step s o)) (hs : I s) {os : List ο}
    (hadmits : Admits ok step s os) : I (run step s os) := by
  induction os generalizing s with
  | nil => exact hs
  | cons o os ih => exact ih (hstep s o hadmits.1 hs) hadmits.2

/-- What a step of a run brings about and every step keeps holds after the run. -/
theorem run_establishes {P : σ → Prop} {o : ο} (hmake : ∀ s, P (step s o))
    (hkeep : ∀ s o, P s → P (step s o)) {os : List ο} (ho : o ∈ os) : P (run step s os) := by
  induction os generalizing s with
  | nil => cases ho
  | cons o' os ih =>
      rw [run_cons]
      rcases List.mem_cons.mp ho with rfl | hrest
      · exact run_invariant hkeep (hmake s) os
      · exact ih hrest

/-- A process that has ended stays as it is. -/
theorem run_of_halted {halted : σ → Prop} (hstay : ∀ s o, halted s → step s o = s)
    (hs : halted s) (os : List ο) : run step s os = s := by
  induction os with
  | nil => rfl
  | cons o os ih => rw [run_cons, hstay s o hs, ih]

/-- A process with an invariant under which every call lowers a rank ends after that many
calls. -/
theorem run_halts (I halted : σ → Prop) (rank : σ → Nat) (hkeep : ∀ s o, I s → I (step s o))
    (hstay : ∀ s o, halted s → step s o = s) (hzero : ∀ s, I s → rank s = 0 → halted s)
    (hdown : ∀ s o, I s → ¬ halted s → rank (step s o) < rank s) (hs : I s) {os : List ο}
    (hlong : rank s ≤ os.length) : halted (run step s os) := by
  induction os generalizing s with
  | nil => exact hzero s hs (Nat.le_zero.mp hlong)
  | cons o os ih =>
      by_cases hhalted : halted s
      · rwa [run_of_halted hstay hhalted]
      · have hlower := hdown s o hs hhalted
        rw [List.length_cons] at hlong
        exact ih (hkeep s o hs) (by omega)

end Process
end ClusterPlaybooks
