import ClusterPlaybooks.Ansible.Triples

/-!
# What all calls of a run keep

A run makes no other calls than those of its plays, each on a host of its play.  An
assertion about the node of one host that all these calls keep is therefore an
invariant of the run.  It is enough to look at the choices that occur in the run.

Main results:

- Theorem {lit}`run_ahead`: the calls ahead of a run are calls of its plays.
- Theorem {lit}`State.Ahead.keeps`: what all calls ahead keep under the choices to come
  holds from now on.
- Theorem {lit}`run_keeps`: what all calls of a playbook keep holds at every moment.
-/

namespace ClusterPlaybooks
namespace Ansible

variable {H σ χ ε : Type}

/-- Batches of one host each hold these hosts. -/
theorem flatten_singletons (hs : List H) : (hs.map fun h => [h]).flatten = hs := by
  induction hs with
  | nil => rfl
  | cons h hs ih => simpa using ih

/-- The batches of a play hold exactly its hosts. -/
theorem Play.flatten_batches (p : Play H σ χ) : p.batches.flatten = p.hosts := by
  unfold Play.batches
  split
  · exact flatten_singletons p.hosts
  · split <;> rename_i hempty
    · simp [List.isEmpty_iff.mp hempty]
    · simp

/-- Every call the run may still make satisfies {lit}`Q`. -/
structure State.Ahead (Q : H → Action H σ χ → Prop) (s : State H σ χ) : Prop where
  busy : ∀ h b, s.busy h = some b → ∀ a ∈ b.items, Q h a
  tasks : ∀ h ∈ s.batch, ∀ a ∈ s.tasks.flatMap Task.items, Q h a
  batches : ∀ h ∈ s.batches.flatten, ∀ a ∈ s.play.actions, Q h a
  plays : ∀ p ∈ s.plays, ∀ h ∈ p.hosts, ∀ a ∈ p.actions, Q h a

variable [DecidableEq H] {Q : H → Action H σ χ → Prop} {s s' : State H σ χ}

/-- Handing out a task gives the hosts calls of this task. -/
theorem State.Ahead.startTask (hs : s.Ahead Q) {t : Task H σ χ} {ts : List (Task H σ χ)}
    (htasks : s.tasks = t :: ts) : (s.startTask t ts).Ahead Q := by
  have hmem : ∀ h ∈ s.batch, ∀ a, a ∈ t.items ∨ a ∈ ts.flatMap Task.items → Q h a := by
    intro h hbatch a ha
    apply hs.tasks h hbatch
    rw [htasks, List.flatMap_cons]
    exact List.mem_append.mpr ha
  refine ⟨?_, fun h hbatch a ha => hmem h hbatch a (Or.inr ha), hs.batches, hs.plays⟩
  intro h b hb a ha
  rcases State.busy_startTask hb with ⟨⟨hbatch, _⟩, rfl, _⟩
  exact hmem h hbatch a (Or.inl ha)

/-- A call is one of those ahead, and the calls ahead of a run stay within {lit}`Q`. -/
theorem State.Ahead.step {env : ε → σ → σ} {e : Event H χ ε} (hs : s.Ahead Q)
    (hstep : s.step env e = some s') : s'.Ahead Q := by
  cases e with
  | act k x =>
      rcases State.act_cases hstep with ⟨a, rest, failed, n, v, hbusy, _, rfl⟩
      refine ⟨?_, hs.tasks, hs.batches, hs.plays⟩
      intro h b hb c hc
      rcases State.busy_record hb with ⟨rfl, rfl, _⟩ | ⟨_, hb'⟩
      · exact hs.busy h _ hbusy c (List.mem_cons_of_mem a hc)
      · exact hs.busy h b hb' c hc
  | env k e =>
      cases hstep
      exact ⟨hs.busy, hs.tasks, hs.batches, hs.plays⟩
  | next =>
      rcases (State.next_cases hstep).2.2 with ⟨_, rfl⟩ | ⟨t, ts, htasks, rfl⟩ |
        ⟨b, bs, _, _, hbatches, rfl⟩ | ⟨p, ps, _, _, _, hplays, rfl⟩
      · exact ⟨hs.busy, hs.tasks, hs.batches, hs.plays⟩
      · exact hs.startTask htasks
      · have hmem : ∀ h, h ∈ b ∨ h ∈ bs.flatten → ∀ a ∈ s.play.actions, Q h a := by
          intro h hh
          apply hs.batches
          rw [hbatches, List.flatten_cons]
          exact List.mem_append.mpr hh
        exact ⟨hs.busy, fun h hh => hmem h (Or.inl hh), fun h hh => hmem h (Or.inr hh), hs.plays⟩
      · have hmem : ∀ q, q = p ∨ q ∈ ps → ∀ h ∈ q.hosts, ∀ a ∈ q.actions, Q h a := by
          intro q hq
          apply hs.plays
          rw [hplays]
          exact List.mem_cons.mpr hq
        refine ⟨hs.busy, fun h hh => by simp [State.startPlay] at hh, ?_,
          fun q hq => hmem q (Or.inr hq)⟩
        intro h hh
        rw [show (s.startPlay p ps).batches.flatten = p.hosts from p.flatten_batches] at hh
        exact hmem p (Or.inl rfl) h hh

omit [DecidableEq H] in
/-- The calls ahead of a new run are the calls of its plays. -/
theorem start_ahead {plays : List (Play H σ χ)} {nodes : H → σ}
    (hplays : ∀ p ∈ plays, ∀ h ∈ p.hosts, ∀ a ∈ p.actions, Q h a) :
    (start plays nodes).Ahead Q := by
  refine ⟨?_, ?_, ?_, hplays⟩ <;> simp [start]

/-- The calls ahead of a run that has begun are calls of its plays. -/
theorem run_ahead {env : ε → σ → σ} {plays : List (Play H σ χ)} {nodes : H → σ}
    {es : List (Event H χ ε)} (hplays : ∀ p ∈ plays, ∀ h ∈ p.hosts, ∀ a ∈ p.actions, Q h a)
    (hrun : run env (start plays nodes) es = some s) : s.Ahead Q :=
  run_induct (fun _ _ _ hm hstep => State.Ahead.step hm hstep) (start_ahead hplays) hrun

/-! ## Invariants -/

/-- {lit}`I` survives the call under every choice in {lit}`ok`. -/
def Action.KeepsUnder (a : Action H σ χ) (h : H) (ok : χ → Prop) (I : σ → Prop) : Prop :=
  ∀ n x n' v, ok x → I n → a.run h n x = some (n', v) → I n'

omit [DecidableEq H] in
/-- What a call keeps it keeps under all choices. -/
theorem Action.Keeps.under {a : Action H σ χ} {h : H} {I : σ → Prop} (hkeeps : a.Keeps h I)
    (ok : χ → Prop) : a.KeepsUnder h ok I :=
  fun n x n' v _ hn hcall => hkeeps n x n' v hn hcall

/-- What all calls ahead keep under the choices to come holds at every moment to come. -/
theorem State.Ahead.keeps {env : ε → σ → σ} {A : H → σ → Prop} {ok : χ → Prop}
    {es : List (Event H χ ε)} (hahead : s.Ahead fun h a => a.KeepsUnder h ok (A h))
    (hstable : ∀ h, Stable env (A h)) (hok : ∀ h x, Event.act h x ∈ es → ok x)
    (hA : ∀ h, A h (s.nodes h)) (hrun : run env s es = some s') : ∀ h, A h (s'.nodes h) := by
  induction es generalizing s with
  | nil =>
      cases hrun
      exact hA
  | cons e es ih =>
      simp only [run, Option.bind_eq_some_iff] at hrun
      rcases hrun with ⟨m, hstep, hrest⟩
      refine ih (hahead.step hstep) (fun h x hx => hok h x (List.mem_cons_of_mem e hx)) ?_ hrest
      intro h
      rcases State.step_nodes hstep h with hsame | ⟨e', henv⟩ |
        ⟨a, rest, failed, x, v, rfl, hbusy, hcall⟩
      · rw [hsame]
        exact hA h
      · rw [henv]
        exact hstable h e' _ (hA h)
      · exact hahead.busy h _ hbusy a List.mem_cons_self (s.nodes h) x _ v
          (hok h x List.mem_cons_self) (hA h) hcall

/-- An assertion that every call of every play keeps holds at every moment of every run. -/
theorem run_keeps {env : ε → σ → σ} {A : H → σ → Prop} {plays : List (Play H σ χ)}
    {nodes : H → σ} {es : List (Event H χ ε)} (hstable : ∀ h, Stable env (A h))
    (hkeeps : ∀ p ∈ plays, ∀ h ∈ p.hosts, ∀ a ∈ p.actions, a.Keeps h (A h))
    (hnodes : ∀ h, A h (nodes h)) (hrun : run env (start plays nodes) es = some s) (h : H) :
    A h (s.nodes h) := by
  have hahead : (start plays nodes).Ahead fun h a => a.KeepsUnder h (fun _ => True) (A h) :=
    start_ahead fun p hp h hh a ha => (hkeeps p hp h hh a ha).under _
  exact hahead.keeps hstable (fun _ _ _ => trivial) hnodes hrun h

end Ansible
end ClusterPlaybooks
