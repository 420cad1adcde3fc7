import ClusterPlaybooks.Ansible.Completion
import ClusterPlaybooks.Ansible.Outline

/-!
# Hosts in lockstep

In a play on all hosts at once every host that was not dropped is at the same task.  The
number of calls a host has made tells how far it has come, and no host is more than one
task behind another.  This module has an invariant rule for such a play: one assertion for
each number of calls, and one for the hosts that were dropped.  Unlike in a proof outline,
what a call meets may depend on the other hosts, through the law of a lawful run.

Main results:

- Theorem {lit}`Lockstep.step`: a permitted event keeps the assertions.
- Theorem {lit}`Lockstep.together`: no host is more than one task behind another.
- Theorem {lit}`lockstep_run`: they hold at every moment of a lawful run.
- Theorem {lit}`Lockstep.ended`: when the run is over every host was dropped or has made
  all its calls.
-/

namespace ClusterPlaybooks
namespace Ansible

variable {H σ χ : Type} [DecidableEq H]

/-- The controller aborts a run without fatal errors when all hosts were dropped. -/
theorem State.next_abort {s s' : State H σ χ} (hnext : s.next = some s')
    (hfatal : s.play.anyErrorsFatal = false) (hbefore : s.aborted = false)
    (hafter : s'.aborted = true) : s.allDropped = true := by
  rcases State.next_cases hnext with ⟨_, hquiet, hcases⟩
  unfold State.next at hnext
  simp only [hbefore, hquiet, hfatal, Bool.not_true, Bool.or_self, Bool.false_eq_true, if_false,
    Bool.false_and] at hnext
  split at hnext
  · cases hnext
    simp [State.startTask, hbefore] at hafter
  · split at hnext
    · assumption
    · split at hnext
      · cases hnext
        simp [State.startBatch, hbefore] at hafter
      · split at hnext
        · cases hnext
          simp [State.startPlay, hbefore] at hafter
        · cases hnext

/--
The run is in the batch of a play on all hosts at once.  A host that was not dropped and
has made some calls satisfies the assertion for their number.
-/
structure Lockstep (p : Play H σ χ) (A : Nat → H → σ → Prop) (D : H → σ → Prop)
    (s : State H σ χ) : Prop where
  plays : s.plays = []
  batches : s.batches = []
  batch : s.batch = p.hosts
  play : s.play = p
  lost : s.lost = []
  busy : ∀ h b, s.busy h = some b → h ∈ p.hosts ∧ h ∉ s.fresh ∧ b.failed = false
  /-- the busy hosts are at the task before the waiting ones -/
  working : ∀ h b, s.busy h = some b →
    ∃ ts t, p.tasks = ts ++ t :: s.tasks ∧ b.items <:+ t.items
  /-- the waiting tasks are the last ones -/
  tasks : s.tasks <:+ p.tasks
  made : ∀ h ∈ p.hosts, h ∉ s.fresh →
    ∃ done, done ++ s.left h = p.actions ∧ A done.length h (s.nodes h)
  dropped : ∀ h ∈ s.fresh, D h (s.nodes h)
  aborted : s.aborted = true → ∀ h ∈ p.hosts, h ∈ s.fresh

/--
A permitted call of a host that has made some calls gives the assertion for one more call,
or it is the last one of its task and drops the host.
-/
def Advances (p : Play H σ χ) (ok : State H σ χ → H → χ → Prop) (A : Nat → H → σ → Prop)
    (D : H → σ → Prop) : Prop :=
  ∀ s h a rest x n v done, Lockstep p A D s → s.busy h = some ⟨a :: rest, false⟩ →
    done ++ a :: (rest ++ s.tasks.flatMap Task.items) = p.actions → A done.length h (s.nodes h) →
    ok s h x → a.run h (s.nodes h) x = some (n, v) →
    v = .ok ∧ A (done.length + 1) h n ∨ v ≠ .ok ∧ rest = [] ∧ D h n

section Steps

variable {p : Play H σ χ} {ok : State H σ χ → H → χ → Prop} {A : Nat → H → σ → Prop}
variable {D : H → σ → Prop} {s s' : State H σ χ}

/-- A permitted call keeps the assertions. -/
theorem Lockstep.act (hadv : Advances p ok A D) (hs : Lockstep p A D s) {k : H} {x : χ}
    (hok : ok s k x) (hact : s.act k x = some s') : Lockstep p A D s' := by
  rcases State.act_cases hact with ⟨a, rest, failed, n, v, hbusy, hcall, rfl⟩
  rcases hs.busy k _ hbusy with ⟨hk, hkfresh, rfl⟩
  rcases hs.made k hk hkfresh with ⟨done, hdone, hA⟩
  have hleft : s.left k = a :: (rest ++ s.tasks.flatMap Task.items) := by
    simp [State.left, hbusy]
  have hothers : ∀ h, h ≠ k → (s.record k n rest false v).left h = s.left h := by
    intro h hne
    simp [State.left, State.record, hne]
  have hworking : ∀ h b, (s.record k n rest false v).busy h = some b →
      ∃ ts t, p.tasks = ts ++ t :: s.tasks ∧ b.items <:+ t.items := by
    intro h b hb
    rcases State.busy_record hb with ⟨rfl, rfl, _⟩ | ⟨_, hb'⟩
    · rcases hs.working h _ hbusy with ⟨ts, t, htasks, hsuffix⟩
      exact ⟨ts, t, htasks, (List.suffix_cons a rest).trans hsuffix⟩
    · exact hs.working h b hb'
  rcases hadv s k a rest x n v done hs hbusy (hleft ▸ hdone) hA hok hcall with
    ⟨rfl, hnext⟩ | ⟨hv, rfl, hD⟩
  · -- the host goes on
    have hfresh : (s.record k n rest false .ok).fresh = s.fresh := by
      simp [State.record]
    refine ⟨hs.plays, hs.batches, hs.batch, hs.play, hs.lost, ?_, hworking, hs.tasks, ?_, ?_, ?_⟩
    · intro h b hb
      rw [hfresh]
      rcases State.busy_record hb with ⟨rfl, rfl, _⟩ | ⟨_, hb'⟩
      · exact ⟨hk, hkfresh, rfl⟩
      · exact hs.busy h b hb'
    · intro h hh hnot
      rw [hfresh] at hnot
      by_cases hne : h = k
      · subst hne
        refine ⟨done ++ [a], ?_, ?_⟩
        · rw [State.left_record, ← hdone, hleft, List.append_assoc]
          rfl
        · simpa [State.record] using hnext
      · rw [hothers h hne]
        simpa [State.record, hne] using hs.made h hh hnot
    · intro h hh
      rw [hfresh] at hh
      have hne : h ≠ k := fun heq => hkfresh (heq ▸ hh)
      simpa [State.record, hne] using hs.dropped h hh
    · rw [hfresh]
      exact hs.aborted
  · -- the host is dropped
    have hfresh : (s.record k n [] false v).fresh = k :: s.fresh := by
      cases v with
      | ok => exact absurd rfl hv
      | failed => simp [State.record]
      | unreachable => simp [State.record]
    refine ⟨hs.plays, hs.batches, hs.batch, hs.play, hs.lost, ?_, hworking, hs.tasks, ?_, ?_, ?_⟩
    · intro h b hb
      have hne : h ≠ k := by
        rintro rfl
        simp [State.record] at hb
      rw [hfresh, List.mem_cons, not_or]
      rcases hs.busy h b (by simpa [State.record, hne] using hb) with ⟨hh, hnot, hfail⟩
      exact ⟨hh, ⟨hne, hnot⟩, hfail⟩
    · intro h hh hnot
      rw [hfresh, List.mem_cons, not_or] at hnot
      rw [hothers h hnot.1]
      simpa [State.record, hnot.1] using hs.made h hh hnot.2
    · intro h hh
      rw [hfresh] at hh
      by_cases hne : h = k
      · subst hne
        simpa [State.record] using hD
      · have hold : h ∈ s.fresh := (List.mem_cons.mp hh).resolve_left hne
        simpa [State.record, hne] using hs.dropped h hold
    · intro hab h hh
      rw [hfresh]
      exact List.mem_cons_of_mem k (hs.aborted hab h hh)

omit [DecidableEq H] in
/-- Nobody is busy in a quiet batch. -/
theorem Lockstep.idle (hs : Lockstep p A D s) (hquiet : s.quiet = true) (h : H) :
    s.busy h = none :=
  s.idle_of_quiet (fun k b hb => hs.batch ▸ (hs.busy k b hb).1) hquiet h

/-- Handing out a task keeps the assertions. -/
theorem Lockstep.startTask (hs : Lockstep p A D s) (hquiet : s.quiet = true)
    (hab : s.aborted = false) {t : Task H σ χ} {ts : List (Task H σ χ)}
    (htasks : s.tasks = t :: ts) : Lockstep p A D (s.startTask t ts) := by
  rcases hs.tasks with ⟨us, hus⟩
  rw [htasks] at hus
  have hts : ts <:+ p.tasks := ⟨us ++ [t], by rw [List.append_assoc]; exact hus⟩
  refine ⟨hs.plays, hs.batches, hs.batch, hs.play, hs.lost, ?_, ?_, hts, ?_, hs.dropped, ?_⟩
  · intro h b hb
    rcases State.busy_startTask hb with ⟨⟨hbatch, _, hfresh⟩, rfl, _⟩
    exact ⟨hs.batch ▸ hbatch, hfresh, rfl⟩
  · intro h b hb
    rcases State.busy_startTask hb with ⟨_, rfl, _⟩
    exact ⟨us, t, hus.symm, List.suffix_rfl⟩
  · intro h hh hnot
    rcases hs.made h hh hnot with ⟨done, hdone, hA⟩
    refine ⟨done, ?_, hA⟩
    rw [← hdone]
    congr 1
    have halive : s.alive h = true := by
      simp only [State.alive, decide_eq_true_eq, hs.lost, hs.batch]
      exact ⟨hh, List.not_mem_nil, hnot⟩
    simp only [State.left, hs.idle hquiet h, htasks, State.startTask, halive, Bool.true_and]
    cases hitems : t.items with
    | nil => simp [hitems]
    | cons a as => simp [hitems]
  · intro hab'
    simp [State.startTask, hab] at hab'

/-- A permitted event keeps the assertions. -/
theorem Lockstep.step (hadv : Advances p ok A D) (hfatal : p.anyErrorsFatal = false)
    (hs : Lockstep p A D s) {e : Event H χ Empty} (hpermit : s.permits ok e)
    (hstep : s.step calm e = some s') : Lockstep p A D s' := by
  cases e with
  | env k e => exact e.elim
  | act k x => exact hs.act hadv hpermit hstep
  | next =>
      rcases State.next_cases hstep with ⟨hab, hquiet, hcases⟩
      rcases hcases with ⟨_, rfl⟩ | ⟨t, ts, htasks, rfl⟩ | ⟨b, bs, _, _, hbatches, rfl⟩ |
        ⟨q, qs, _, _, _, hplays, rfl⟩
      · have hall := State.next_abort hstep (hs.play ▸ hfatal) hab rfl
        refine ⟨hs.plays, hs.batches, hs.batch, hs.play, hs.lost, hs.busy, hs.working, hs.tasks,
          hs.made, hs.dropped, ?_⟩
        intro _ h hh
        simp only [State.allDropped, Bool.and_eq_true, List.all_eq_true, decide_eq_true_eq,
          hs.batch] at hall
        exact hall.2 h hh
      · exact hs.startTask hquiet hab htasks
      · rw [hs.batches] at hbatches
        cases hbatches
      · rw [hs.plays] at hplays
        cases hplays

/-- When the run is over every host was dropped or has made all its calls. -/
theorem Lockstep.ended (hs : Lockstep p A D s) (hend : s.ended = true) {h : H}
    (hh : h ∈ p.hosts) : D h (s.nodes h) ∨ A p.actions.length h (s.nodes h) := by
  by_cases hfresh : h ∈ s.fresh
  · exact Or.inl (hs.dropped h hfresh)
  · right
    simp only [State.ended, Bool.or_eq_true] at hend
    rcases hend with hab | hfin
    · exact absurd (hs.aborted hab h hh) hfresh
    · simp only [State.finished, Bool.and_eq_true, List.isEmpty_iff] at hfin
      rcases hs.made h hh hfresh with ⟨done, hdone, hA⟩
      have hleft : s.left h = [] := by
        simp [State.left, hs.idle hfin.1.1.1.1.2 h, hfin.1.1.1.2]
      rw [hleft, List.append_nil] at hdone
      exact hdone ▸ hA

omit [DecidableEq H] in
/-- Every host that was not dropped has made the calls of all tasks before the current one. -/
theorem Lockstep.together (hs : Lockstep p A D s) {k : H} {ts : List (Task H σ χ)}
    {t : Task H σ χ} (htask : p.tasks = ts ++ t :: s.tasks) (hk : k ∈ p.hosts)
    (hfresh : k ∉ s.fresh) :
    ∃ m, (ts.flatMap Task.items).length ≤ m ∧ A m k (s.nodes k) := by
  rcases hs.made k hk hfresh with ⟨done, hdone, hA⟩
  refine ⟨done.length, ?_, hA⟩
  have hactions : p.actions.length = (ts.flatMap Task.items).length + t.items.length +
      (s.tasks.flatMap Task.items).length := by
    rw [Play.actions, htask, List.flatMap_append, List.flatMap_cons, List.length_append,
      List.length_append, Nat.add_assoc]
  have hleft : (s.left k).length ≤ t.items.length + (s.tasks.flatMap Task.items).length := by
    rw [State.left, List.length_append]
    cases hbk : s.busy k with
    | none => simp
    | some bk =>
        rcases hs.working k bk hbk with ⟨ts', t', htask', hsuffix⟩
        have hsame : t' = t := by
          rw [htask] at htask'
          have hcons := (List.append_inj_right' htask' rfl)
          exact (List.cons.inj hcons).1.symm
        subst hsame
        have hle := hsuffix.length_le
        simp only [Option.elim_some]
        omega
  have hlength := congrArg List.length hdone
  rw [List.length_append] at hlength
  omega

/-- Every moment of a lawful run is before the batch of the play or in it. -/
theorem lockstep_run {nodes : H → σ} {es : List (Event H χ Empty)} (hadv : Advances p ok A D)
    (hserial : p.serial = false) (hfatal : p.anyErrorsFatal = false) (hhosts : p.hosts ≠ [])
    (hA : ∀ h ∈ p.hosts, A 0 h (nodes h)) (hlaw : Lawful calm ok (start [p] nodes) es)
    (hrun : run calm (start [p] nodes) es = some s) :
    s.nodes = nodes ∧ s.ended = false ∨ Lockstep p A D s := by
  have hbatches : p.batches = [p.hosts] := by
    simp [Play.batches, hserial, hhosts]
  -- the controller starts the play, then its only batch
  have hmotive : s = start [p] nodes ∨ s = (start [p] nodes).startPlay p [] ∨
      Lockstep p A D s := by
    refine hlaw.invariant (motive := fun s => s = start [p] nodes ∨
      s = (start [p] nodes).startPlay p [] ∨ Lockstep p A D s) ?_ (Or.inl rfl) hrun
    intro s e s' hs hpermit hstep
    rcases hs with rfl | rfl | hs
    · cases e with
      | env k e => exact e.elim
      | act k x => cases hstep
      | next =>
          right
          left
          exact (Option.some.inj hstep).symm
    · cases e with
      | env k e => exact e.elim
      | act k x => cases hstep
      | next =>
          right
          right
          have hbegin : some (((start [p] nodes).startPlay p []).startBatch p.hosts []) =
              some s' := by
            rw [← hstep]
            simp [State.step, State.next, State.startPlay, start, State.quiet, State.allDropped,
              hbatches]
          cases hbegin
          refine ⟨rfl, rfl, rfl, rfl, rfl, ?_, ?_, List.suffix_rfl, ?_, ?_, ?_⟩
          · intro h b hb
            cases hb
          · intro h b hb
            cases hb
          · intro h hh _
            exact ⟨[], rfl, hA h hh⟩
          · intro h hh
            cases hh
          · intro hab
            cases hab
    · exact Or.inr (Or.inr (hs.step hadv hfatal hpermit hstep))
  rcases hmotive with rfl | rfl | hs
  · exact Or.inl ⟨rfl, rfl⟩
  · refine Or.inl ⟨rfl, ?_⟩
    simp [State.ended, State.finished, State.startPlay, start, hbatches]
  · exact Or.inr hs

end Steps

end Ansible
end ClusterPlaybooks
