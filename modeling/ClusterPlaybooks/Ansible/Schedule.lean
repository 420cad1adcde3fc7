import ClusterPlaybooks.Ansible.Triples

/-!
# A deterministic schedule

Concrete runs are long lists of events.  The schedule below produces them: the
first busy host of the batch makes its next call, and the controller moves on
when no host is busy.  What a call meets is chosen by a function of the state.

Main results:

- Theorem {lit}`run_follow`: the events of the schedule are a run, and it ends in
  the state the schedule computes.
- Theorem {lit}`mem_follow`: the calls of the schedule have the chosen outcomes.
- Theorem {lit}`path_makeCalls`: calls of one host that all succeed are a path.
-/

namespace ClusterPlaybooks
namespace Ansible

variable {H σ χ ε : Type} [DecidableEq H]

/-- The next event of the schedule and the state after it. -/
def State.pick (choose : State H σ χ → H → χ) (s : State H σ χ) :
    Option (Event H χ ε × State H σ χ) :=
  match s.batch.find? fun h => (s.busy h).isSome with
  | some h => (s.act h (choose s h)).map fun s' => (.act h (choose s h), s')
  | none => s.next.map fun s' => (.next, s')

/-- The first {lit}`count` events of the schedule. -/
def follow (choose : State H σ χ → H → χ) : Nat → State H σ χ → List (Event H χ ε)
  | 0, _ => []
  | count + 1, s =>
      match s.pick choose with
      | some (e, s') => e :: follow choose count s'
      | none => []

/-- The state after the first {lit}`count` events of the schedule. -/
def drive (choose : State H σ χ → H → χ) : Nat → State H σ χ → State H σ χ
  | 0, s => s
  | count + 1, s =>
      match s.pick (ε := Empty) choose with
      | some (_, s') => drive choose count s'
      | none => s

/-- An event picked by the schedule is possible and leads to the picked state. -/
theorem State.pick_step {choose : State H σ χ → H → χ} {s s' : State H σ χ}
    {e : Event H χ ε} (env : ε → σ → σ) (hpick : s.pick choose = some (e, s')) :
    s.step env e = some s' := by
  unfold State.pick at hpick
  split at hpick
  · rcases Option.map_eq_some_iff.mp hpick with ⟨m, hm, heq⟩
    cases heq
    exact hm
  · rcases Option.map_eq_some_iff.mp hpick with ⟨m, hm, heq⟩
    cases heq
    exact hm

/-- The picked state does not depend on the kind of environment. -/
theorem State.pick_snd (choose : State H σ χ → H → χ) (s : State H σ χ) :
    (s.pick (ε := ε) choose).map Prod.snd = (s.pick (ε := Empty) choose).map Prod.snd := by
  unfold State.pick
  split
  · simp only [Option.map_map, Function.comp_def]
  · simp only [Option.map_map, Function.comp_def]

/-- The events of the schedule are a run. -/
theorem run_follow (env : ε → σ → σ) (choose : State H σ χ → H → χ) (count : Nat)
    (s : State H σ χ) :
    run env s (follow choose count s) = some (drive choose count s) := by
  induction count generalizing s with
  | zero => rfl
  | succ count ih =>
      have hsnd := State.pick_snd (ε := ε) choose s
      simp only [follow, drive]
      cases hpick : s.pick (ε := ε) choose with
      | none =>
          have hnone : s.pick (ε := Empty) choose = none := by
            rw [hpick] at hsnd
            exact Option.map_eq_none_iff.mp hsnd.symm
          rw [hnone]
          rfl
      | some r =>
          rcases r with ⟨e, s'⟩
          rw [hpick] at hsnd
          rcases Option.map_eq_some_iff.mp hsnd.symm with ⟨⟨e', m⟩, hm, hs'⟩
          cases hs'
          rw [hm]
          simp only [run, State.pick_step env hpick, Option.bind_some]
          exact ih _

/-- The calls of the schedule have the chosen outcomes. -/
theorem mem_follow {choose : State H σ χ → H → χ} {count : Nat} {s : State H σ χ} {h : H} {x : χ}
    (hmem : Event.act h x ∈ follow (ε := ε) choose count s) : ∃ m, x = choose m h := by
  induction count generalizing s with
  | zero => cases hmem
  | succ count ih =>
      simp only [follow] at hmem
      split at hmem
      · rename_i e s' hpick
        rcases List.mem_cons.mp hmem with rfl | hmem
        · unfold State.pick at hpick
          split at hpick
          · rcases Option.map_eq_some_iff.mp hpick with ⟨m, _, heq⟩
            cases heq
            exact ⟨s, rfl⟩
          · rcases Option.map_eq_some_iff.mp hpick with ⟨m, _, heq⟩
            cases heq
        · exact ih hmem
      · cases hmem

/-! ## Calls on one host -/

omit [DecidableEq H]

/-- The node of a host after calls that all succeed. -/
def makeCalls (h : H) (x : χ) : List (Action H σ χ) → σ → Option σ
  | [], s => some s
  | a :: as, s =>
      match a.run h s x with
      | some (s', .ok) => makeCalls h x as s'
      | _ => none

/-- These calls are a path. -/
theorem path_makeCalls (env : ε → σ → σ) {h : H} {x : χ} {as : List (Action H σ χ)} {s s' : σ}
    (hcalls : makeCalls h x as s = some s') : Path env h as s s' := by
  induction as generalizing s with
  | nil =>
      cases hcalls
      exact Path.nil _
  | cons a as ih =>
      unfold makeCalls at hcalls
      split at hcalls
      · rename_i m hrun
        exact Path.cons x hrun (ih hcalls)
      · cases hcalls

end Ansible
end ClusterPlaybooks
