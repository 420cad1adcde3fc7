import ClusterPlaybooks.Ansible.Calls
import ClusterPlaybooks.Ansible.Schedule

/-!
# Runs that get through

The other modules of this library say what holds in every run.  This one says which
runs exist: if the calls of some hosts succeed under a choice, then a run takes these
hosts through their tasks, batch by batch and play by play.

Main results:

- Theorem {lit}`Reaches.task`: a task gets done.
- Theorem {lit}`Reaches.batches`: the batches of a play get done.
- Theorem {lit}`Reaches.play`: a play gets done.
- Theorem {lit}`Reaches.serialHost`: a serial play gets to a host.
- Theorem {lit}`Reaches.failure`: a host fails its task.
-/

namespace ClusterPlaybooks
namespace Ansible

variable {H σ χ ε : Type} [DecidableEq H]

/-! ## Reachable states -/

/-- Events with choices in {lit}`ok` lead from one state to another. -/
def Reaches (env : ε → σ → σ) (ok : χ → Prop) (s s' : State H σ χ) : Prop :=
  ∃ es : List (Event H χ ε), (∀ h x, Event.act h x ∈ es → ok x) ∧ run env s es = some s'

section Steps

variable {env : ε → σ → σ} {ok : χ → Prop} {s m s' : State H σ χ}

/-- No event at all. -/
theorem Reaches.refl (s : State H σ χ) : Reaches env ok s s :=
  ⟨[], by simp, rfl⟩

/-- One run after another. -/
theorem Reaches.trans (hfst : Reaches env ok s m) (hsnd : Reaches env ok m s') :
    Reaches env ok s s' := by
  rcases hfst with ⟨es, hes, hm⟩
  rcases hsnd with ⟨fs, hfs, hs'⟩
  refine ⟨es ++ fs, ?_, by rw [run_append, hm, Option.bind_some, hs']⟩
  intro h x hx
  rcases List.mem_append.mp hx with hx | hx
  · exact hes h x hx
  · exact hfs h x hx

/-- A move of the controller. -/
theorem Reaches.next (hnext : s.next = some s') : Reaches env ok s s' :=
  ⟨[.next], by simp, by simp [run, State.step, hnext]⟩

/-- A module call. -/
theorem Reaches.act {h : H} {x : χ} (hok : ok x) (hact : s.act h x = some s') :
    Reaches env ok s s' := by
  refine ⟨[.act h x], ?_, by simp [run, State.step, hact]⟩
  intro k y hy
  cases List.mem_singleton.mp hy
  exact hok

end Steps

/-! ## Tasks -/

/-- The controller is between two tasks, and no host of the current batch was dropped. -/
def State.resting (lost : List H) (nodes : H → σ) (tasks : List (Task H σ χ)) (batch : List H)
    (batches : List (List H)) (play : Play H σ χ) (plays : List (Play H σ χ)) :
    State H σ χ where
  nodes := nodes
  lost := lost
  fresh := []
  busy := fun _ => none
  tasks := tasks
  batch := batch
  batches := batches
  play := play
  plays := plays
  aborted := false

section Tasks

variable {env : ε → σ → σ} {ok : χ → Prop} {x : χ} {nodes : H → σ} {rest : List (Task H σ χ)}
variable {lost batch : List H} {waiting : List (List H)} {play : Play H σ χ}
variable {plays : List (Play H σ χ)}

omit [DecidableEq H] in
/-- Calls after calls. -/
theorem makeCalls_append {h : H} {as bs : List (Action H σ χ)} {s : σ} :
    makeCalls h x (as ++ bs) s = (makeCalls h x as s).bind (makeCalls h x bs) := by
  induction as generalizing s with
  | nil => rfl
  | cons a as ih =>
      simp only [List.cons_append, makeCalls]
      split
      · exact ih
      · rfl

omit [DecidableEq H] in
/-- Hosts without calls stay as they are. -/
theorem eq_of_no_calls {nodes' : H → σ} {D : H → Prop}
    (hcalls : ∀ h, D h → makeCalls h x ([] : List (Action H σ χ)) (nodes h) = some (nodes' h))
    (hothers : ∀ h, ¬D h → nodes' h = nodes h) : nodes' = nodes := by
  funext h
  by_cases hh : D h
  · exact (Option.some.inj (hcalls h hh)).symm
  · exact hothers h hh

/-- A busy host makes its calls. -/
theorem Reaches.items {s : State H σ χ} {h : H} {a : Action H σ χ} {as : List (Action H σ χ)}
    {n : σ} (hok : ok x) (hbusy : s.busy h = some ⟨a :: as, false⟩)
    (hcalls : makeCalls h x (a :: as) (s.nodes h) = some n) :
    Reaches env ok s
      { s with
        nodes := Function.update s.nodes h n
        busy := Function.update s.busy h none } := by
  induction as generalizing s a with
  | nil =>
      simp only [makeCalls] at hcalls
      split at hcalls
      · rename_i m hrun
        cases hcalls
        refine Reaches.act hok (h := h) ?_
        simp [State.act, hbusy, hrun, State.record]
      · cases hcalls
  | cons b bs ih =>
      unfold makeCalls at hcalls
      split at hcalls
      · rename_i m hrun
        have hact : s.act h x = some (s.record h m (b :: bs) false .ok) := by
          simp [State.act, hbusy, hrun]
        refine (Reaches.act hok hact).trans ?_
        have hlast := ih (s := s.record h m (b :: bs) false .ok) (a := b)
          (by simp [State.record]) (by simpa [State.record] using hcalls)
        simpa [State.record] using hlast
      · cases hcalls

/-- Busy hosts make their calls, one host after the other. -/
theorem Reaches.hosts (nodes' : H → σ) (a : Action H σ χ) (as : List (Action H σ χ))
    {s : State H σ χ} {hs : List H} (hok : ok x) (hnodup : hs.Nodup)
    (hbusy : ∀ h ∈ hs, s.busy h = some ⟨a :: as, false⟩)
    (hcalls : ∀ h ∈ hs, makeCalls h x (a :: as) (s.nodes h) = some (nodes' h)) :
    Reaches env ok s
      { s with
        nodes := fun h => if h ∈ hs then nodes' h else s.nodes h
        busy := fun h => if h ∈ hs then none else s.busy h } := by
  induction hs generalizing s with
  | nil => simpa using Reaches.refl s
  | cons k ks ih =>
      rcases List.nodup_cons.mp hnodup with ⟨hk, hks⟩
      have hne : ∀ h ∈ ks, h ≠ k := by
        rintro h hh rfl
        exact hk hh
      refine (Reaches.items hok (hbusy k List.mem_cons_self)
        (hcalls k List.mem_cons_self)).trans ?_
      have hlast := ih hks
        (s := { s with
          nodes := Function.update s.nodes k (nodes' k)
          busy := Function.update s.busy k none })
        (fun h hh => by simpa [hne h hh] using hbusy h (List.mem_cons_of_mem k hh))
        (fun h hh => by simpa [hne h hh] using hcalls h (List.mem_cons_of_mem k hh))
      convert hlast using 2
      · funext h
        by_cases hhk : h = k
        · subst hhk
          simp [hk]
        · simp [hhk]
      · funext h
        by_cases hhk : h = k
        · subst hhk
          simp [hk]
        · simp [hhk]

/-- A task gets done by the hosts that were not dropped. -/
theorem Reaches.task (nodes' : H → σ) {t : Task H σ χ} (hok : ok x) (hnodup : batch.Nodup)
    (hcalls : ∀ h, h ∈ batch ∧ h ∉ lost → makeCalls h x t.items (nodes h) = some (nodes' h))
    (hothers : ∀ h, ¬(h ∈ batch ∧ h ∉ lost) → nodes' h = nodes h) :
    Reaches env ok (State.resting lost nodes (t :: rest) batch waiting play plays)
      (State.resting lost nodes' rest batch waiting play plays) := by
  have hnext : (State.resting lost nodes (t :: rest) batch waiting play plays).next =
      some ((State.resting lost nodes (t :: rest) batch waiting play plays).startTask t rest) := by
    simp [State.next, State.resting, State.quiet]
  refine (Reaches.next hnext).trans ?_
  cases hitems : t.items with
  | nil =>
      rw [hitems] at hcalls
      rw [eq_of_no_calls hcalls hothers]
      simpa [State.startTask, State.resting, hitems] using Reaches.refl _
  | cons a as =>
      -- the hosts that have the task to do
      have hmem : ∀ h, h ∈ batch.filter (fun h => decide (h ∉ lost)) ↔ h ∈ batch ∧ h ∉ lost := by
        simp
      have hworking : (batch.filter fun h => decide (h ∉ lost)).Nodup := hnodup.filter _
      have hdone : Reaches env ok _ _ := Reaches.hosts nodes' a as hok hworking
        (s := (State.resting lost nodes (t :: rest) batch waiting play plays).startTask t rest)
        (fun h hh => by
          simp [State.startTask, State.resting, State.alive, hitems, (hmem h).mp hh])
        (fun h hh => by
          simpa [State.startTask, State.resting, hitems] using hcalls h ((hmem h).mp hh))
      convert hdone using 1
      simp only [State.resting, State.startTask, State.mk.injEq, and_true, true_and, hmem]
      refine ⟨?_, ?_⟩
      · funext h
        by_cases hh : h ∈ batch ∧ h ∉ lost
        · rw [if_pos hh]
        · rw [if_neg hh, hothers h hh]
      · funext h
        by_cases hh : h ∈ batch ∧ h ∉ lost
        · rw [if_pos hh]
        · have halive : ¬(h ∈ batch ∧ h ∉ lost ∧ h ∉ ([] : List H)) := by
            simpa using hh
          simp only [State.alive, decide_eq_false halive, if_neg hh]
          rfl

/-- A list of tasks gets done. -/
theorem Reaches.tasks (nodes' : H → σ) (hok : ok x) (hnodup : batch.Nodup)
    (ts : List (Task H σ χ))
    (hcalls : ∀ h, h ∈ batch ∧ h ∉ lost →
      makeCalls h x (ts.flatMap Task.items) (nodes h) = some (nodes' h))
    (hothers : ∀ h, ¬(h ∈ batch ∧ h ∉ lost) → nodes' h = nodes h) :
    Reaches env ok (State.resting lost nodes (ts ++ rest) batch waiting play plays)
      (State.resting lost nodes' rest batch waiting play plays) := by
  induction ts generalizing nodes with
  | nil =>
      rw [eq_of_no_calls hcalls hothers]
      exact Reaches.refl _
  | cons t ts ih =>
      -- the nodes after the first task are what its calls make of them
      have hmiddle : ∀ h, h ∈ batch ∧ h ∉ lost → makeCalls h x t.items (nodes h) =
          some ((makeCalls h x t.items (nodes h)).getD (nodes h)) := by
        intro h hh
        have hcall := hcalls h hh
        rw [List.flatMap_cons, makeCalls_append, Option.bind_eq_some_iff] at hcall
        rcases hcall with ⟨m, hm, _⟩
        rw [hm, Option.getD_some]
      refine (Reaches.task (fun h => if h ∈ batch ∧ h ∉ lost then
        (makeCalls h x t.items (nodes h)).getD (nodes h) else nodes h)
        hok hnodup (fun h hh => by rw [if_pos hh]; exact hmiddle h hh)
        (fun h hh => if_neg hh)).trans ?_
      apply ih
      · intro h hh
        have hcall := hcalls h hh
        rw [List.flatMap_cons, makeCalls_append, hmiddle h hh, Option.bind_some] at hcall
        rw [if_pos hh]
        exact hcall
      · intro h hh
        rw [if_neg hh, hothers h hh]

/-- A busy host makes its only call, which leaves its node alone. -/
theorem Reaches.verdict {s : State H σ χ} {h : H} {a : Action H σ χ} (v : Verdict) (hok : ok x)
    (hbusy : s.busy h = some ⟨[a], false⟩) (hcall : a.run h (s.nodes h) x = some (s.nodes h, v)) :
    Reaches env ok s
      { s with
        busy := Function.update s.busy h none
        fresh := if v = .ok then s.fresh else h :: s.fresh } := by
  refine Reaches.act (h := h) hok ?_
  cases v <;> simp [State.act, hbusy, hcall, State.record]

section Verdicts

variable {y : χ} {bad : List H} {a : Action H σ χ}

/-- Busy hosts make their only call.  Some of them fail. -/
theorem Reaches.verdicts {s : State H σ χ} {hs : List H} (hok : ok x) (hoky : ok y)
    (hnodup : hs.Nodup) (hbusy : ∀ h ∈ hs, s.busy h = some ⟨[a], false⟩)
    (hgood : ∀ h ∈ hs, h ∉ bad → a.run h (s.nodes h) x = some (s.nodes h, .ok))
    (hbad : ∀ h ∈ hs, h ∈ bad → a.run h (s.nodes h) y = some (s.nodes h, .failed)) :
    ∃ fresh, (∀ h, h ∈ fresh ↔ h ∈ s.fresh ∨ h ∈ hs ∧ h ∈ bad) ∧
      Reaches env ok s
        { s with
          busy := fun h => if h ∈ hs then none else s.busy h
          fresh := fresh } := by
  induction hs generalizing s with
  | nil => exact ⟨s.fresh, by simp, by simpa using Reaches.refl s⟩
  | cons k ks ih =>
      rcases List.nodup_cons.mp hnodup with ⟨hk, hks⟩
      have hne : ∀ h ∈ ks, h ≠ k := by
        rintro h hh rfl
        exact hk hh
      -- the first host, whichever way its call goes
      have hfirst : ∃ fresh, (∀ h, h ∈ fresh ↔ h ∈ s.fresh ∨ h = k ∧ k ∈ bad) ∧
          Reaches env ok s { s with busy := Function.update s.busy k none, fresh := fresh } := by
        by_cases hkbad : k ∈ bad
        · refine ⟨k :: s.fresh, by simp [hkbad, or_comm], ?_⟩
          exact Reaches.verdict .failed hoky (hbusy k List.mem_cons_self)
            (hbad k List.mem_cons_self hkbad)
        · refine ⟨s.fresh, by simp [hkbad], ?_⟩
          exact Reaches.verdict .ok hok (hbusy k List.mem_cons_self)
            (hgood k List.mem_cons_self hkbad)
      rcases hfirst with ⟨fresh, hfresh, hfirst⟩
      have hothers := ih hks
        (s := { s with busy := Function.update s.busy k none, fresh := fresh })
        (fun h hh => by simpa [hne h hh] using hbusy h (List.mem_cons_of_mem k hh))
        (fun h hh => hgood h (List.mem_cons_of_mem k hh))
        (fun h hh => hbad h (List.mem_cons_of_mem k hh))
      rcases hothers with ⟨fresh', hfresh', hothers⟩
      refine ⟨fresh', ?_, ?_⟩
      · intro h
        rw [hfresh', hfresh, List.mem_cons]
        constructor
        · rintro ((hh | ⟨rfl, hh⟩) | ⟨hh, hhbad⟩)
          · exact Or.inl hh
          · exact Or.inr ⟨Or.inl rfl, hh⟩
          · exact Or.inr ⟨Or.inr hh, hhbad⟩
        · rintro (hh | ⟨rfl | hh, hhbad⟩)
          · exact Or.inl (Or.inl hh)
          · exact Or.inl (Or.inr ⟨rfl, hhbad⟩)
          · exact Or.inr ⟨hh, hhbad⟩
      · refine hfirst.trans ?_
        convert hothers using 2
        funext h
        by_cases hhk : h = k
        · subst hhk
          simp [hk]
        · simp [hhk]

/--
Some hosts fail the last task of a play while others do it, and the next play starts
without them.
-/
theorem Reaches.dropping {k : H} {t : Task H σ χ} {p : Play H σ χ} (hok : ok x) (hoky : ok y)
    (hnodup : batch.Nodup) (hk : k ∈ batch) (hkgood : k ∉ bad)
    (hfatal : play.anyErrorsFatal = false) (hitems : t.items = [a])
    (hgood : ∀ h ∈ batch, h ∉ bad → a.run h (nodes h) x = some (nodes h, .ok))
    (hbad : ∀ h ∈ batch, h ∈ bad → a.run h (nodes h) y = some (nodes h, .failed)) :
    ∃ lost, (∀ h, h ∈ lost ↔ h ∈ batch ∧ h ∈ bad) ∧
      Reaches env ok (State.resting [] nodes [t] batch [] play (p :: plays))
        (State.resting lost nodes [] [] p.batches p plays) := by
  have hnext : (State.resting [] nodes [t] batch [] play (p :: plays)).next =
      some ((State.resting [] nodes [t] batch [] play (p :: plays)).startTask t []) := by
    simp [State.next, State.resting, State.quiet]
  rcases Reaches.verdicts
    (s := (State.resting [] nodes [t] batch [] play (p :: plays)).startTask t []) hok hoky hnodup
    (fun h hh => by simp [State.startTask, State.resting, State.alive, hitems, hh]) hgood hbad
    with ⟨fresh, hfresh, hcalls⟩
  have hmem : ∀ h, h ∈ fresh ↔ h ∈ batch ∧ h ∈ bad := by
    intro h
    rw [hfresh]
    simp [State.startTask, State.resting]
  refine ⟨fresh, hmem, (Reaches.next hnext).trans (hcalls.trans (Reaches.next ?_))⟩
  -- one host of the batch is left, so the run is not aborted
  have hkfresh : k ∉ fresh := fun hmem' => hkgood ((hmem k).mp hmem').2
  have hbusy : (fun h => if h ∈ batch then none else
      ((State.resting [] nodes [t] batch [] play (p :: plays)).startTask t []).busy h) =
        fun _ => none := by
    funext h
    by_cases hh : h ∈ batch <;> simp [State.startTask, State.resting, State.alive, hh]
  rw [hbusy]
  have hall : (batch.all fun h => decide (h ∈ fresh)) = false := by
    rw [List.all_eq_false]
    exact ⟨k, hk, by simp [hkfresh]⟩
  simp [State.next, State.startTask, State.resting, State.quiet, State.allDropped, hfatal, hall,
    State.startPlay]

end Verdicts

/-- A host fails its task, and this is all that happens to the nodes. -/
theorem Reaches.failure {h : H} {t : Task H σ χ} {a : Action H σ χ} {n : σ} (hok : ok x)
    (hlost : h ∉ lost) (hitems : t.items = [a]) (hcall : a.run h (nodes h) x = some (n, .failed)) :
    ∃ s, Reaches env ok (State.resting lost nodes (t :: rest) [h] waiting play plays) s ∧
      s.nodes = Function.update nodes h n := by
  have hnext : (State.resting lost nodes (t :: rest) [h] waiting play plays).next =
      some ((State.resting lost nodes (t :: rest) [h] waiting play plays).startTask t rest) := by
    simp [State.next, State.resting, State.quiet]
  refine ⟨((State.resting lost nodes (t :: rest) [h] waiting play plays).startTask t rest).record
    h n [] false .failed, (Reaches.next hnext).trans (Reaches.act (h := h) hok ?_), rfl⟩
  simp [State.act, State.startTask, State.resting, State.alive, hlost, hitems, hcall]

end Tasks

/-! ## Batches and plays -/

section Plays

variable {env : ε → σ → σ} {ok : χ → Prop} {x : χ} {nodes : H → σ} {lost before : List H}
variable {waiting : List (List H)} {cur : Play H σ χ} {plays : List (Play H σ χ)}

/-- A controller at rest has dropped nobody. -/
theorem State.resting_allDropped {rest : List (Task H σ χ)} :
    (State.resting lost nodes rest before waiting cur plays).allDropped = false := by
  by_contra hall
  rw [Bool.not_eq_false] at hall
  exact State.fresh_ne_nil _ hall rfl

/-- The next batch starts. -/
theorem Reaches.startBatch {b : List H} :
    Reaches env ok (State.resting lost nodes [] before (b :: waiting) cur plays)
      (State.resting lost nodes cur.tasks b waiting cur plays) := by
  apply Reaches.next
  rw [State.next, State.resting_allDropped]
  simp [State.resting, State.quiet, State.startBatch]

/-- The next play starts. -/
theorem Reaches.startPlay {p : Play H σ χ} :
    Reaches env ok (State.resting lost nodes [] before [] cur (p :: plays))
      (State.resting lost nodes [] [] p.batches p plays) := by
  apply Reaches.next
  rw [State.next, State.resting_allDropped]
  simp [State.resting, State.quiet, State.startPlay]

/-- A batch gets done. -/
theorem Reaches.batch (nodes' : H → σ) {b : List H} (hok : ok x) (hnodup : b.Nodup)
    (hcalls : ∀ h, h ∈ b ∧ h ∉ lost → makeCalls h x cur.actions (nodes h) = some (nodes' h))
    (hothers : ∀ h, ¬(h ∈ b ∧ h ∉ lost) → nodes' h = nodes h) :
    Reaches env ok (State.resting lost nodes [] before (b :: waiting) cur plays)
      (State.resting lost nodes' [] b waiting cur plays) := by
  refine Reaches.startBatch.trans ?_
  rw [show cur.tasks = cur.tasks ++ [] by simp]
  exact Reaches.tasks nodes' hok hnodup cur.tasks hcalls hothers

/-- The first batches of a play get done. -/
theorem Reaches.batches (nodes' : H → σ) (hok : ok x) (done : List (List H))
    (hnodup : done.flatten.Nodup)
    (hcalls : ∀ h, h ∈ done.flatten ∧ h ∉ lost →
      makeCalls h x cur.actions (nodes h) = some (nodes' h))
    (hothers : ∀ h, ¬(h ∈ done.flatten ∧ h ∉ lost) → nodes' h = nodes h) :
    ∃ last, Reaches env ok (State.resting lost nodes [] before (done ++ waiting) cur plays)
      (State.resting lost nodes' [] last waiting cur plays) := by
  induction done generalizing nodes before with
  | nil =>
      have hsame : nodes' = nodes := funext fun h => hothers h (by simp)
      rw [hsame]
      exact ⟨before, Reaches.refl _⟩
  | cons b bs ih =>
      rw [List.flatten_cons, List.nodup_append] at hnodup
      rcases hnodup with ⟨hb, hbs, hdisjoint⟩
      simp only [List.flatten_cons, List.mem_append] at hcalls hothers
      have hnot : ∀ h ∈ bs.flatten, h ∉ b := fun h hh hmem => hdisjoint h hmem h hh rfl
      -- after the first batch only its hosts have moved on
      have hrest : ∃ last, Reaches env ok
          (State.resting lost (fun h => if h ∈ b ∧ h ∉ lost then nodes' h else nodes h) [] b
            (bs ++ waiting) cur plays)
          (State.resting lost nodes' [] last waiting cur plays) := by
        apply ih hbs
        · intro h hh
          rw [if_neg fun hmem => hnot h hh.1 hmem.1]
          exact hcalls h ⟨Or.inr hh.1, hh.2⟩
        · intro h hh
          by_cases hmem : h ∈ b ∧ h ∉ lost
          · rw [if_pos hmem]
          · rw [if_neg hmem]
            refine hothers h ?_
            rintro ⟨hin | hin, hlost⟩
            · exact hmem ⟨hin, hlost⟩
            · exact hh ⟨hin, hlost⟩
      rcases hrest with ⟨last, hlast⟩
      refine ⟨last, (Reaches.batch _ hok hb ?_ ?_).trans hlast⟩
      · intro h hh
        rw [if_pos hh]
        exact hcalls h ⟨Or.inl hh.1, hh.2⟩
      · intro h hh
        rw [if_neg hh]

/-- A play gets done. -/
theorem Reaches.play (nodes' : H → σ) {p : Play H σ χ} (hok : ok x)
    (hcalls : ∀ h, h ∈ p.hosts ∧ h ∉ lost →
      makeCalls h x p.actions (nodes h) = some (nodes' h))
    (hothers : ∀ h, ¬(h ∈ p.hosts ∧ h ∉ lost) → nodes' h = nodes h) :
    ∃ last, Reaches env ok (State.resting lost nodes [] before [] cur (p :: plays))
      (State.resting lost nodes' [] last [] p plays) := by
  rw [← p.flatten_batches] at hcalls hothers
  have hnodup : p.batches.flatten.Nodup := by
    rw [p.flatten_batches]
    exact p.nodup
  rcases Reaches.batches nodes' hok p.batches hnodup hcalls hothers with ⟨last, hlast⟩
  rw [List.append_nil] at hlast
  exact ⟨last, Reaches.startPlay.trans hlast⟩

/-- A serial play gets to a host. -/
theorem Reaches.serialHost (nodes' : H → σ) {p : Play H σ χ} {done rest : List H} {k : H}
    (hok : ok x) (hserial : p.serial = true) (hhosts : p.hosts = done ++ k :: rest)
    (hcalls : ∀ h, h ∈ done ∧ h ∉ lost → makeCalls h x p.actions (nodes h) = some (nodes' h))
    (hothers : ∀ h, ¬(h ∈ done ∧ h ∉ lost) → nodes' h = nodes h) :
    Reaches env ok (State.resting lost nodes [] [] p.batches p plays)
      (State.resting lost nodes' p.tasks [k] (rest.map fun h => [h]) p plays) := by
  have hbatches : p.batches = (done.map fun h => [h]) ++ [k] :: rest.map fun h => [h] := by
    rw [Play.batches, if_pos hserial, hhosts, List.map_append, List.map_cons]
  have hnodup : (done ++ k :: rest).Nodup := hhosts ▸ p.nodup
  rw [← flatten_singletons done] at hcalls hothers
  rcases Reaches.batches nodes' hok (done.map fun h => [h])
    (by rw [flatten_singletons]; exact (List.nodup_append.mp hnodup).1) hcalls hothers with
    ⟨last, hlast⟩
  rw [hbatches]
  exact hlast.trans Reaches.startBatch

end Plays

end Ansible
end ClusterPlaybooks
