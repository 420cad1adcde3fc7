import ClusterPlaybooks.Ansible.Calls
import ClusterPlaybooks.Ansible.Schedule
import Mathlib.Algebra.Order.BigOperators.Group.List
import Mathlib.Algebra.Order.Ring.Nat

/-!
# Lawful runs and their completion

What a call meets is sometimes restricted by the state of all hosts, for instance when
nothing fails that can succeed.  A run is {lit}`Lawful` if each of its calls meets an
outcome that is permitted in the state it is made in.

Every run comes to an end: each event but those of the environment uses up some of the
work that is left.  So a run can be completed as long as every call that comes up has a
permitted outcome.

Main results:

- Theorem {lit}`Lawful.invariant`: what every permitted step preserves holds after every
  lawful run.
- Theorem {lit}`Lawful.keeps`: the same for what every permitted call keeps.
- Theorem {lit}`lawful_of_calls`: lawful runs are told by their calls.
- Theorem {lit}`State.step_work`: every event uses up some work.
- Theorem {lit}`exists_ended`: every run can be completed lawfully.
-/

namespace ClusterPlaybooks
namespace Ansible

variable {H σ χ ε : Type} [DecidableEq H]

/-! ## Lawful runs -/

/-- The outcome of a call is permitted in a state; other events always are. -/
def State.permits (ok : State H σ χ → H → χ → Prop) (s : State H σ χ) : Event H χ ε → Prop
  | .act h x => ok s h x
  | _ => True

/-- Each event of a run is permitted in the state it occurs in. -/
def Lawful (env : ε → σ → σ) (ok : State H σ χ → H → χ → Prop) :
    State H σ χ → List (Event H χ ε) → Prop
  | _, [] => True
  | s, e :: es => s.permits ok e ∧ ∀ m, s.step env e = some m → Lawful env ok m es

section Lawful

variable {env : ε → σ → σ} {ok : State H σ χ → H → χ → Prop} {s s' : State H σ χ}
variable {es fs : List (Event H χ ε)}

/-- What every permitted step preserves holds after every lawful run. -/
theorem Lawful.invariant {motive : State H σ χ → Prop}
    (hstep : ∀ s e s', motive s → s.permits ok e → s.step env e = some s' → motive s')
    (hlaw : Lawful env ok s es) (hstart : motive s) (hrun : run env s es = some s') :
    motive s' := by
  induction es generalizing s with
  | nil =>
      cases hrun
      exact hstart
  | cons e es ih =>
      simp only [run, Option.bind_eq_some_iff] at hrun
      rcases hrun with ⟨m, hm, hrest⟩
      exact ih (hlaw.2 m hm) (hstep s e m hstart hlaw.1 hm) hrest

/-- What all permitted calls ahead keep holds at every moment of a lawful run. -/
theorem Lawful.keeps {Q : H → Action H σ χ → Prop} {A : H → σ → Prop}
    (hcall : ∀ s h a rest failed x n v, s.busy h = some ⟨a :: rest, failed⟩ → Q h a → ok s h x →
      A h (s.nodes h) → a.run h (s.nodes h) x = some (n, v) → A h n)
    (hstable : ∀ h, Stable env (A h)) (hahead : s.Ahead Q) (hlaw : Lawful env ok s es)
    (hA : ∀ h, A h (s.nodes h)) (hrun : run env s es = some s') (h : H) : A h (s'.nodes h) := by
  refine (hlaw.invariant (motive := fun s => s.Ahead Q ∧ ∀ h, A h (s.nodes h)) ?_
    ⟨hahead, hA⟩ hrun).2 h
  rintro s e s' ⟨hs, hA⟩ hpermit hstep
  refine ⟨hs.step hstep, fun h => ?_⟩
  rcases State.step_nodes hstep h with hsame | ⟨e', henv⟩ |
    ⟨a, rest, failed, x, v, rfl, hbusy, hrun⟩
  · rw [hsame]
    exact hA h
  · rw [henv]
    exact hstable h e' _ (hA h)
  · exact hcall s h a rest failed x _ v hbusy (hs.busy h _ hbusy a List.mem_cons_self) hpermit
      (hA h) hrun

/-- A run that is cut off was lawful so far. -/
theorem Lawful.of_append (hlaw : Lawful env ok s (es ++ fs)) : Lawful env ok s es := by
  induction es generalizing s with
  | nil => trivial
  | cons e es ih => exact ⟨hlaw.1, fun m hm => ih (hlaw.2 m hm)⟩

/-- A run is lawful if every call of it is permitted in the state it is made in. -/
theorem lawful_of_calls
    (hok : ∀ before h x after m, es = before ++ .act h x :: after → run env s before = some m →
      ok m h x) : Lawful env ok s es := by
  induction es generalizing s with
  | nil => trivial
  | cons e es ih =>
      refine ⟨?_, fun m hm => ih ?_⟩
      · cases e with
        | act h x => exact hok [] h x es s rfl rfl
        | next => trivial
        | env h e => trivial
      · intro before h x after m' hes hrun
        refine hok (e :: before) h x after m' (by rw [hes, List.cons_append]) ?_
        rw [run, hm, Option.bind_some]
        exact hrun

/-- The schedule is lawful if its choices are. -/
theorem lawful_follow {choose : State H σ χ → H → χ} (hok : ∀ s h, ok s h (choose s h))
    (count : Nat) (s : State H σ χ) : Lawful env ok s (follow choose count s) := by
  induction count generalizing s with
  | zero => trivial
  | succ count ih =>
      simp only [follow]
      split
      · rename_i e m hpick
        have hstep := State.pick_step env hpick
        refine ⟨?_, fun m' hm' => ?_⟩
        · unfold State.pick at hpick
          split at hpick
          · rcases Option.map_eq_some_iff.mp hpick with ⟨_, _, heq⟩
            cases heq
            exact hok s _
          · rcases Option.map_eq_some_iff.mp hpick with ⟨_, _, heq⟩
            cases heq
            trivial
        · rw [hstep] at hm'
          cases hm'
          exact ih m
      · trivial

end Lawful

/-! ## The work that is left -/

/-- What tasks can take on so many hosts: to hand each out, and its calls. -/
def tasksWork (hosts : Nat) (tasks : List (Task H σ χ)) : Nat :=
  (tasks.map fun t => 1 + hosts * t.items.length).sum

/-- What batches can take: to start each, and its tasks. -/
def batchesWork (tasks : List (Task H σ χ)) (batches : List (List H)) : Nat :=
  (batches.map fun b => 1 + tasksWork b.length tasks).sum

/-- What a play can take: to start it, and its batches. -/
def Play.work (p : Play H σ χ) : Nat :=
  1 + batchesWork p.tasks p.batches

/-- The calls a host still has to make for the current task. -/
def State.pending (s : State H σ χ) (h : H) : Nat :=
  (s.busy h).elim 0 fun b => b.items.length

/-- What a run can still take. -/
def State.work (s : State H σ χ) : Nat :=
  (s.batch.map s.pending).sum + tasksWork s.batch.length s.tasks +
    batchesWork s.play.tasks s.batches + (s.plays.map Play.work).sum +
    if s.aborted then 0 else 1

section Work

variable {s s' : State H σ χ}

/-- A call is one call less. -/
theorem State.record_pending {h : H} {a : Action H σ χ} {rest : List (Action H σ χ)}
    {failed : Bool} (hbusy : s.busy h = some ⟨a :: rest, failed⟩) (n : σ) (v : Verdict) (k : H) :
    (s.record h n rest failed v).pending k ≤ s.pending k ∧
      (k = h → (s.record h n rest failed v).pending k < s.pending k) := by
  by_cases hk : k = h
  · subst hk
    have hlt : (s.record k n rest failed v).pending k < s.pending k := by
      simp only [State.pending, State.record, Function.update_self, hbusy, Option.elim_some,
        List.length_cons]
      split <;> simp
    exact ⟨hlt.le, fun _ => hlt⟩
  · refine ⟨?_, fun heq => absurd heq hk⟩
    simp [State.pending, State.record, hk]

/-- A task gives every host of the batch at most its calls. -/
theorem State.startTask_pending (t : Task H σ χ) (ts : List (Task H σ χ)) :
    (s.batch.map (s.startTask t ts).pending).sum ≤ s.batch.length * t.items.length := by
  have hone : ∀ n ∈ s.batch.map (s.startTask t ts).pending, n ≤ t.items.length := by
    intro n hn
    rcases List.mem_map.mp hn with ⟨h, _, rfl⟩
    simp only [State.pending, State.startTask]
    split <;> simp
  simpa using List.sum_le_card_nsmul _ _ hone

omit [DecidableEq H] in
/-- Nothing is pending while no host is busy. -/
theorem State.pending_sum_of_idle (hidle : ∀ h, s.busy h = none) :
    (s.batch.map s.pending).sum = 0 := by
  have hzero : s.pending = fun _ => 0 := by
    funext h
    simp [State.pending, hidle h]
  rw [hzero]
  simp

/-- Every event of the controller and of its hosts uses up some work. -/
theorem State.step_work {e : Event H χ Empty} (hs : s.Orderly)
    (hstep : s.step calm e = some s') : s'.work < s.work := by
  cases e with
  | env k e => exact e.elim
  | act k x =>
      rcases State.act_cases hstep with ⟨a, rest, failed, n, v, hbusy, _, rfl⟩
      have hless := s.record_pending hbusy n v
      have hsum : (s.batch.map (s.record k n rest failed v).pending).sum <
          (s.batch.map s.pending).sum :=
        List.sum_lt_sum _ _ (fun h _ => (hless h).1) ⟨k, hs.busy k _ hbusy, (hless k).2 rfl⟩
      have hwork : (s.record k n rest failed v).work =
          (s.batch.map (s.record k n rest failed v).pending).sum +
            tasksWork s.batch.length s.tasks + batchesWork s.play.tasks s.batches +
            (s.plays.map Play.work).sum + if s.aborted then 0 else 1 := rfl
      rw [hwork, State.work]
      omega
  | next =>
      rcases State.next_cases hstep with ⟨hnot, hquiet, hcases⟩
      have hidle := hs.idle hquiet
      have hzero := State.pending_sum_of_idle hidle
      rcases hcases with ⟨_, rfl⟩ | ⟨t, ts, htasks, rfl⟩ | ⟨b, bs, htasks, _, hbatches, rfl⟩ |
        ⟨p, ps, htasks, _, hbatches, hplays, rfl⟩
      · have hsame : (s.batch.map ({ s with aborted := true } : State H σ χ).pending).sum =
            (s.batch.map s.pending).sum := rfl
        simp only [State.work, hsame, hnot, if_true, Bool.false_eq_true, if_false]
        omega
      · have hle := s.startTask_pending t ts
        have hwork : (s.startTask t ts).work =
            (s.batch.map (s.startTask t ts).pending).sum + tasksWork s.batch.length ts +
              batchesWork s.play.tasks s.batches + (s.plays.map Play.work).sum +
              if s.aborted then 0 else 1 := rfl
        rw [hwork, State.work, htasks, hzero]
        simp only [tasksWork, List.map_cons, List.sum_cons]
        omega
      · have hpend := State.pending_sum_of_idle (s := s.startBatch b bs) hidle
        rw [State.work, hpend, State.work, hzero, htasks, hbatches]
        simp only [State.startBatch, batchesWork, tasksWork, List.map_cons, List.map_nil,
          List.sum_cons, List.sum_nil, hnot]
        omega
      · have hpend := State.pending_sum_of_idle (s := s.startPlay p ps) hidle
        rw [State.work, hpend, State.work, hzero, htasks, hbatches, hplays]
        simp only [State.startPlay, Play.work, batchesWork, tasksWork, List.map_cons, List.map_nil,
          List.sum_cons, List.sum_nil, hnot, htasks]
        omega

/-! ## Completion -/

/-- A busy host has a call to make. -/
theorem State.busy_step {env : ε → σ → σ} {e : Event H χ ε}
    (hs : ∀ h b, s.busy h = some b → b.items ≠ []) (hstep : s.step env e = some s') :
    ∀ h b, s'.busy h = some b → b.items ≠ [] := by
  intro h b hb
  cases e with
  | env k e =>
      cases hstep
      exact hs h b hb
  | act k x =>
      rcases State.act_cases hstep with ⟨a, rest, failed, n, v, _, _, rfl⟩
      rcases State.busy_record hb with ⟨rfl, rfl, _, hrest⟩ | ⟨_, hb'⟩
      · exact hrest
      · exact hs h b hb'
  | next =>
      rcases (State.next_cases hstep).2.2 with ⟨_, rfl⟩ | ⟨t, ts, _, rfl⟩ |
        ⟨_, _, _, _, _, rfl⟩ | ⟨_, _, _, _, _, _, rfl⟩
      · exact hs h b hb
      · rcases State.busy_startTask hb with ⟨_, rfl, hitems⟩
        exact hitems
      · exact hs h b hb
      · exact hs h b hb

/-- While the run is not over a host has a call to make, or the controller moves on. -/
theorem State.progress (hs : ∀ h b, s.busy h = some b → b.items ≠ []) (hend : s.ended = false) :
    (∃ h a rest failed, s.busy h = some ⟨a :: rest, failed⟩) ∨ ∃ s', s.next = some s' := by
  simp only [State.ended, Bool.or_eq_false_iff] at hend
  by_cases hquiet : s.quiet = true
  · right
    simp only [State.next, hend.1, hquiet, Bool.not_true, Bool.or_self, Bool.false_eq_true,
      if_false]
    have hfin := hend.2
    split
    · exact ⟨_, rfl⟩
    · split
      · exact ⟨_, rfl⟩
      · rename_i htasks
        split
        · exact ⟨_, rfl⟩
        · rename_i hall
          split
          · exact ⟨_, rfl⟩
          · rename_i hbatches
            split
            · exact ⟨_, rfl⟩
            · rename_i hplays
              simp [State.finished, hend.1, hquiet, htasks, hall, hbatches, hplays] at hfin
  · left
    simp only [State.quiet, List.all_eq_true, not_forall, Bool.not_eq_true] at hquiet
    rcases hquiet with ⟨h, _, hbusy⟩
    cases hb : s.busy h with
    | none => simp [hb] at hbusy
    | some b =>
        rcases b with ⟨items, failed⟩
        cases items with
        | nil => exact absurd rfl (hs h _ hb)
        | cons a rest => exact ⟨h, a, rest, failed, hb⟩

/--
A run can be completed lawfully if every call that may come up has a permitted outcome.
-/
theorem exists_ended {ok : State H σ χ → H → χ → Prop} {Q : H → Action H σ χ → Prop}
    (hpossible : ∀ s h a rest failed, Q h a → s.busy h = some ⟨a :: rest, failed⟩ →
      ∃ x, ok s h x ∧ (a.run h (s.nodes h) x).isSome = true)
    {plays : List (Play H σ χ)} (nodes : H → σ)
    (hplays : ∀ p ∈ plays, ∀ h ∈ p.hosts, ∀ a ∈ p.actions, Q h a) :
    ∃ es s', run calm (start plays nodes) es = some s' ∧
      Lawful calm ok (start plays nodes) es ∧ s'.ended = true := by
  have hmain : ∀ (w : Nat) (s : State H σ χ), s.work ≤ w → s.Orderly → s.Ahead Q →
      (∀ h b, s.busy h = some b → b.items ≠ []) →
      ∃ es s', run calm s es = some s' ∧ Lawful calm ok s es ∧ s'.ended = true := by
    intro w
    induction w with
    | zero =>
        -- no work is left only after the run was aborted
        intro s hw _ _ _
        have hab : s.aborted = true := by
          by_contra hnot
          simp [State.work, hnot] at hw
        exact ⟨[], s, rfl, trivial, by simp [State.ended, hab]⟩
    | succ w ih =>
        intro s hw hord hahead hitems
        cases hend : s.ended with
        | true => exact ⟨[], s, rfl, trivial, hend⟩
        | false =>
            -- make one permitted step, then complete the rest
            have hnext : ∃ e m, s.permits ok e ∧ s.step calm e = some m := by
              rcases State.progress hitems hend with ⟨h, a, rest, failed, hbusy⟩ | ⟨m, hm⟩
              · have hQ : Q h a := hahead.busy h _ hbusy a List.mem_cons_self
                rcases hpossible s h a rest failed hQ hbusy with ⟨x, hok, hsome⟩
                rcases Option.isSome_iff_exists.mp hsome with ⟨r, hr⟩
                refine ⟨.act h x, s.record h r.1 rest failed r.2, hok, ?_⟩
                simp [State.step, State.act, hbusy, hr]
              · exact ⟨.next, m, trivial, hm⟩
            rcases hnext with ⟨e, m, hpermit, hm⟩
            have hless := State.step_work hord hm
            rcases ih m (by omega) (hord.step hm) (hahead.step hm) (State.busy_step hitems hm)
              with ⟨es, s', hrun, hlaw, hover⟩
            refine ⟨e :: es, s', by simp [run, hm, hrun], ⟨hpermit, ?_⟩, hover⟩
            intro m' hm'
            rw [hm] at hm'
            cases hm'
            exact hlaw
  have hnone : run (calm : Empty → σ → σ) (start plays nodes) [] = some (start plays nodes) := rfl
  exact hmain _ _ le_rfl (run_orderly hnone) (start_ahead hplays) (by simp [start])

end Work

end Ansible
end ClusterPlaybooks
