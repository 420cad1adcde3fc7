import Mathlib.Data.List.Basic
import Mathlib.Logic.Function.Basic

/-!
# Playbook execution

This module fixes an executable small-step semantics for playbooks run by the
linear strategy.  A play runs its task list on a list of hosts, either all at
once or, under {lit}`serial: 1`, one host after the other.  Within one batch
every host finishes a task before any host starts the next one, and the hosts
of a batch work on a task in any order.  A loop keeps going after a failed
item; the host fails when the loop is over.

A host that fails or cannot be reached is dropped for the rest of the run.  When
all hosts of a batch were dropped during that batch, the whole run is aborted;
otherwise it goes on with the remaining hosts.  A host dropped earlier takes no
part in later batches and does not count as a new failure there.

The outside world may change a node at any moment through an environment
event.  Nothing is said about what a module does: an {lit}`Action` is a
function of the host, its node state, and a choice that resolves everything
the controller does not decide.

Main results:

- Definition {lit}`State.step`: one event of a run, {lit}`none` when the event
  is impossible.
- Theorem {lit}`run_induct`: what every step preserves holds after every run.
- Theorem {lit}`State.act_cases`: the exact effect of one module call.
- Theorem {lit}`State.next_cases`: the exact effect of a move of the controller.
- Theorem {lit}`State.step_nodes`: what one event can do to the node of a host.
- Theorems {lit}`State.busy_record` and {lit}`State.busy_startTask`: who is busy after a call
  and after a task was handed out.
- Theorem {lit}`run_orderly`: only hosts of the batch are busy, and an aborted run
  has a host that was dropped in its last batch.
-/

namespace ClusterPlaybooks
namespace Ansible

variable {H σ χ ε : Type}

/-! ## Playbooks -/

/-- The result a module call reports to the controller. -/
inductive Verdict where
  | ok
  | failed
  | unreachable
deriving DecidableEq, Repr

/--
One module call.  {lit}`cond` is the {lit}`when` clause: {lit}`none` is a clause
that cannot be evaluated.  {lit}`exec` runs the module on the node of a host; it
is {lit}`none` on a choice that the node state rules out.
-/
structure Action (H σ χ : Type) where
  cond : H → σ → Option Bool
  exec : H → σ → χ → Option (σ × Verdict)
  ignoreErrors : Bool

/-- {lit}`ignore_errors` turns a failure, but not a lost connection, into success. -/
def Action.settle (a : Action H σ χ) (v : Verdict) : Verdict :=
  if a.ignoreErrors ∧ v = .failed then .ok else v

/-- Evaluate the {lit}`when` clause, then skip, fail, or run the module. -/
def Action.run (a : Action H σ χ) (h : H) (s : σ) (x : χ) : Option (σ × Verdict) :=
  match a.cond h s with
  | none => some (s, a.settle .failed)
  | some false => some (s, .ok)
  | some true => (a.exec h s x).map fun r => (r.1, a.settle r.2)

/-- A task: one module call, or one for each item of its loop. -/
structure Task (H σ χ : Type) where
  name : String
  items : List (Action H σ χ)

/-- A play.  An inventory pattern never lists a host twice. -/
structure Play (H σ χ : Type) where
  hosts : List H
  nodup : hosts.Nodup
  /-- {lit}`serial: 1`; otherwise all hosts form one batch. -/
  serial : Bool
  anyErrorsFatal : Bool
  tasks : List (Task H σ χ)

/-- The module calls of a play in order, for a host on which nothing fails. -/
def Play.actions (p : Play H σ χ) : List (Action H σ χ) :=
  p.tasks.flatMap Task.items

/-- The batches of a play. -/
def Play.batches (p : Play H σ χ) : List (List H) :=
  if p.serial then p.hosts.map fun h => [h]
  else if p.hosts.isEmpty then [] else [p.hosts]

/-- The play the controller is in before the first one starts. -/
def Play.idle : Play H σ χ where
  hosts := []
  nodup := List.nodup_nil
  serial := false
  anyErrorsFatal := false
  tasks := []

/-! ## States and events -/

/-- What a host still has to do for the current task, and whether an item failed. -/
structure Busy (H σ χ : Type) where
  items : List (Action H σ χ)
  failed : Bool

/-- A moment of a run. -/
structure State (H σ χ : Type) where
  nodes : H → σ
  /-- hosts dropped in batches that are over -/
  lost : List H
  /-- hosts dropped in the current batch -/
  fresh : List H
  busy : H → Option (Busy H σ χ)
  tasks : List (Task H σ χ)
  batch : List H
  batches : List (List H)
  play : Play H σ χ
  plays : List (Play H σ χ)
  aborted : Bool

/-- The state before the first play. -/
def start (plays : List (Play H σ χ)) (nodes : H → σ) : State H σ χ where
  nodes := nodes
  lost := []
  fresh := []
  busy := fun _ => none
  tasks := []
  batch := []
  batches := []
  play := Play.idle
  plays := plays
  aborted := false

/-- What can happen next: a module call, a move of the controller, or the environment. -/
inductive Event (H χ ε : Type) where
  | act (h : H) (x : χ)
  | next
  | env (h : H) (e : ε)
deriving DecidableEq, Repr

section Step

variable [DecidableEq H]

/-- No host of the batch is still working on the current task. -/
def State.quiet (s : State H σ χ) : Bool :=
  s.batch.all fun h => (s.busy h).isNone

/-- A host is part of the current task unless it was dropped. -/
def State.alive (s : State H σ χ) (h : H) : Bool :=
  decide (h ∈ s.batch ∧ h ∉ s.lost ∧ h ∉ s.fresh)

/-- Every host of the batch was dropped during the batch. -/
def State.allDropped (s : State H σ χ) : Bool :=
  !s.batch.isEmpty && s.batch.all fun h => decide (h ∈ s.fresh)

/-- Record the result of the item a host just ran; {lit}`rest` are its other items. -/
def State.record (s : State H σ χ) (h : H) (n : σ) (rest : List (Action H σ χ))
    (failed : Bool) (v : Verdict) : State H σ χ :=
  let bad := failed || decide (v = .failed)
  let last := decide (v = .unreachable) || rest.isEmpty
  { s with
    nodes := Function.update s.nodes h n
    busy := Function.update s.busy h (if last then none else some ⟨rest, bad⟩)
    fresh := if decide (v = .unreachable) || (rest.isEmpty && bad) then h :: s.fresh
      else s.fresh }

/-- Host {lit}`h` runs its next item. -/
def State.act (s : State H σ χ) (h : H) (x : χ) : Option (State H σ χ) :=
  match s.busy h with
  | some ⟨a :: rest, failed⟩ =>
      (a.run h (s.nodes h) x).map fun r => s.record h r.1 rest failed r.2
  | _ => none

/-- Hand the next task to every host that is still alive. -/
def State.startTask (s : State H σ χ) (t : Task H σ χ) (ts : List (Task H σ χ)) :
    State H σ χ :=
  { s with
    tasks := ts
    busy := fun h =>
      if s.alive h && !t.items.isEmpty then some ⟨t.items, false⟩ else none }

/-- Start the next batch of the play. -/
def State.startBatch (s : State H σ χ) (b : List H) (bs : List (List H)) : State H σ χ :=
  { s with
    lost := s.lost ++ s.fresh
    fresh := []
    batch := b
    batches := bs
    tasks := s.play.tasks }

/-- Start the next play; its first batch is started by the next move. -/
def State.startPlay (s : State H σ χ) (p : Play H σ χ) (ps : List (Play H σ χ)) :
    State H σ χ :=
  { s with
    lost := s.lost ++ s.fresh
    fresh := []
    batch := []
    batches := p.batches
    play := p
    plays := ps }

/--
The controller moves on once the batch is quiet: it aborts the run, starts the
next task, the next batch, or the next play.
-/
def State.next (s : State H σ χ) : Option (State H σ χ) :=
  if s.aborted || !s.quiet then none
  else if s.play.anyErrorsFatal && !s.fresh.isEmpty then some { s with aborted := true }
  else
    match s.tasks with
    | t :: ts => some (s.startTask t ts)
    | [] =>
        if s.allDropped then some { s with aborted := true }
        else
          match s.batches with
          | b :: bs => some (s.startBatch b bs)
          | [] =>
              match s.plays with
              | p :: ps => some (s.startPlay p ps)
              | [] => none

/-- One event of a run. -/
def State.step (env : ε → σ → σ) (s : State H σ χ) : Event H χ ε → Option (State H σ χ)
  | .act h x => s.act h x
  | .next => s.next
  | .env h e => some { s with nodes := Function.update s.nodes h (env e (s.nodes h)) }

/-- The environment that never does anything. -/
def calm : Empty → σ → σ :=
  fun e => e.elim

/-- A sequence of events; stopping it anywhere is the operator cutting the run off. -/
def run (env : ε → σ → σ) : State H σ χ → List (Event H χ ε) → Option (State H σ χ)
  | s, [] => some s
  | s, e :: es => (s.step env e).bind fun s' => run env s' es

/-- The run has come to its regular end. -/
def State.finished (s : State H σ χ) : Bool :=
  !s.aborted && s.quiet && s.tasks.isEmpty && s.batches.isEmpty && s.plays.isEmpty &&
    !s.allDropped

/-- The run is over, at its regular end or because it was aborted. -/
def State.ended (s : State H σ χ) : Bool :=
  s.aborted || s.finished

/-- The run has come to its regular end and no host failed in it. -/
def State.succeeded (s : State H σ χ) : Bool :=
  s.finished && s.lost.isEmpty && s.fresh.isEmpty

/-! ## Induction over runs -/

/-- What every step preserves holds after every run. -/
theorem run_induct {env : ε → σ → σ} {motive : State H σ χ → Prop}
    (hstep : ∀ s e s', motive s → s.step env e = some s' → motive s')
    {s s' : State H σ χ} {es : List (Event H χ ε)}
    (hstart : motive s) (hrun : run env s es = some s') : motive s' := by
  induction es generalizing s with
  | nil =>
      simp only [run, Option.some.injEq] at hrun
      exact hrun ▸ hstart
  | cons e es ih =>
      simp only [run, Option.bind_eq_some_iff] at hrun
      obtain ⟨m, hm, hrest⟩ := hrun
      exact ih (hstep s e m hstart hm) hrest

/-- A run over a concatenation is a run that continues another. -/
theorem run_append {env : ε → σ → σ} (s : State H σ χ) (es fs : List (Event H χ ε)) :
    run env s (es ++ fs) = (run env s es).bind fun m => run env m fs := by
  induction es generalizing s with
  | nil => rfl
  | cons e es ih =>
      cases hstep : s.step env e with
      | none => simp [run, hstep]
      | some m => simp [run, hstep, ih]

/-! ## What one step can do -/

/-- A module call is made by a busy host and only touches that host. -/
theorem State.act_cases {s s' : State H σ χ} {h : H} {x : χ} (hact : s.act h x = some s') :
    ∃ a rest failed n v, s.busy h = some ⟨a :: rest, failed⟩ ∧
      a.run h (s.nodes h) x = some (n, v) ∧ s' = s.record h n rest failed v := by
  unfold State.act at hact
  split at hact
  · rename_i a rest failed hbusy
    obtain ⟨r, hr, hs'⟩ := Option.map_eq_some_iff.mp hact
    exact ⟨a, rest, failed, r.1, r.2, hbusy, hr, hs'.symm⟩
  · cases hact

/-- A batch that dropped all its hosts dropped one. -/
theorem State.fresh_ne_nil (s : State H σ χ) (hall : s.allDropped = true) : s.fresh ≠ [] := by
  simp only [State.allDropped, Bool.and_eq_true, Bool.not_eq_true', List.all_eq_true,
    decide_eq_true_eq] at hall
  cases hbatch : s.batch with
  | nil => simp [hbatch] at hall
  | cons h hs => exact List.ne_nil_of_mem (hall.2 h (by simp [hbatch]))

/-- The four moves of the controller, with the conditions under which each is made. -/
theorem State.next_cases {s s' : State H σ χ} (hnext : s.next = some s') :
    s.aborted = false ∧ s.quiet = true ∧
      ((s.fresh ≠ [] ∧ s' = { s with aborted := true }) ∨
        (∃ t ts, s.tasks = t :: ts ∧ s' = s.startTask t ts) ∨
        (∃ b bs, s.tasks = [] ∧ s.allDropped = false ∧ s.batches = b :: bs ∧
          s' = s.startBatch b bs) ∨
        (∃ p ps, s.tasks = [] ∧ s.allDropped = false ∧ s.batches = [] ∧
          s.plays = p :: ps ∧ s' = s.startPlay p ps)) := by
  unfold State.next at hnext
  split at hnext
  · cases hnext
  · rename_i hguard
    simp only [Bool.or_eq_true, Bool.not_eq_true', not_or, Bool.not_eq_true,
      Bool.not_eq_false] at hguard
    refine ⟨hguard.1, hguard.2, ?_⟩
    split at hnext
    · rename_i hfatal
      refine Or.inl ⟨?_, (Option.some.inj hnext).symm⟩
      intro hnil
      simp [hnil] at hfatal
    · split at hnext
      · rename_i t ts htasks
        exact Or.inr (Or.inl ⟨t, ts, htasks, (Option.some.inj hnext).symm⟩)
      · rename_i htasks
        split at hnext
        · rename_i hall
          exact Or.inl ⟨s.fresh_ne_nil hall, (Option.some.inj hnext).symm⟩
        · rename_i hall
          have hall : s.allDropped = false := by simpa using hall
          split at hnext
          · rename_i b bs hbatches
            exact Or.inr (Or.inr (Or.inl
              ⟨b, bs, htasks, hall, hbatches, (Option.some.inj hnext).symm⟩))
          · rename_i hbatches
            split at hnext
            · rename_i p ps hplays
              exact Or.inr (Or.inr (Or.inr
                ⟨p, ps, htasks, hall, hbatches, hplays, (Option.some.inj hnext).symm⟩))
            · cases hnext

/-- The controller changes no node. -/
theorem State.next_nodes {s s' : State H σ χ} (hnext : s.next = some s') : s'.nodes = s.nodes := by
  rcases (State.next_cases hnext).2.2 with ⟨_, rfl⟩ | ⟨t, ts, _, rfl⟩ | ⟨b, bs, _, _, _, rfl⟩ |
    ⟨p, ps, _, _, _, _, rfl⟩ <;> rfl

/-- One event leaves the node of a host alone, or is a call of the host, or outside of the run. -/
theorem State.step_nodes {env : ε → σ → σ} {s s' : State H σ χ} {e : Event H χ ε}
    (hstep : s.step env e = some s') (h : H) :
    s'.nodes h = s.nodes h ∨ (∃ e', s'.nodes h = env e' (s.nodes h)) ∨
      ∃ a rest failed x v, e = .act h x ∧ s.busy h = some ⟨a :: rest, failed⟩ ∧
        a.run h (s.nodes h) x = some (s'.nodes h, v) := by
  cases e with
  | act k x =>
      rcases State.act_cases hstep with ⟨a, rest, failed, n, v, hbusy, hrun, rfl⟩
      by_cases hne : h = k
      · subst hne
        exact Or.inr (Or.inr
          ⟨a, rest, failed, x, v, rfl, hbusy, by simpa [State.record] using hrun⟩)
      · exact Or.inl (by simp [State.record, hne])
  | env k e' =>
      cases hstep
      by_cases hne : h = k
      · subst hne
        exact Or.inr (Or.inl ⟨e', by simp⟩)
      · exact Or.inl (by simp [hne])
  | next => exact Or.inl (congrFun (State.next_nodes hstep) h)

/-- A host that is busy after a call goes on with its other items, or is another host. -/
theorem State.busy_record {s : State H σ χ} {h k : H} {n : σ} {rest : List (Action H σ χ)}
    {failed : Bool} {v : Verdict} {b : Busy H σ χ}
    (hb : (s.record k n rest failed v).busy h = some b) :
    (h = k ∧ b = ⟨rest, failed || decide (v = .failed)⟩ ∧ v ≠ .unreachable ∧ rest ≠ []) ∨
      h ≠ k ∧ s.busy h = some b := by
  by_cases hne : h = k
  · subst hne
    simp only [State.record, Function.update_self] at hb
    split at hb
    · cases hb
    · rename_i hlast
      simp only [Bool.or_eq_true, decide_eq_true_eq, List.isEmpty_iff, not_or] at hlast
      exact Or.inl ⟨rfl, (Option.some.inj hb).symm, hlast⟩
  · exact Or.inr ⟨hne, by simpa [State.record, hne] using hb⟩

/-- A host that is busy after a task was handed out is part of it and has all its items to do. -/
theorem State.busy_startTask {s : State H σ χ} {t : Task H σ χ} {ts : List (Task H σ χ)} {h : H}
    {b : Busy H σ χ} (hb : (s.startTask t ts).busy h = some b) :
    (h ∈ s.batch ∧ h ∉ s.lost ∧ h ∉ s.fresh) ∧ b = ⟨t.items, false⟩ ∧ t.items ≠ [] := by
  simp only [State.startTask] at hb
  split at hb
  · rename_i halive
    simp only [Bool.and_eq_true, State.alive, decide_eq_true_eq, Bool.not_eq_true',
      List.isEmpty_eq_false_iff] at halive
    exact ⟨halive.1, (Option.some.inj hb).symm, halive.2⟩
  · cases hb

omit [DecidableEq H] in
/-- If only hosts of the batch are busy, then nobody is when the batch is quiet. -/
theorem State.idle_of_quiet {s : State H σ χ} (hbusy : ∀ h b, s.busy h = some b → h ∈ s.batch)
    (hquiet : s.quiet = true) (h : H) : s.busy h = none := by
  cases hb : s.busy h with
  | none => rfl
  | some b =>
      have hnone := List.all_eq_true.mp hquiet h (hbusy h b hb)
      rw [hb] at hnone
      cases hnone

/-- Only hosts of the batch are busy, and none is after the run was aborted for one of them. -/
structure State.Orderly (s : State H σ χ) : Prop where
  busy : ∀ h b, s.busy h = some b → h ∈ s.batch
  aborted : s.aborted = true → s.quiet = true ∧ s.fresh ≠ []

omit [DecidableEq H] in
/-- Nobody is busy when the batch is quiet. -/
theorem State.Orderly.idle {s : State H σ χ} (hs : s.Orderly) (hquiet : s.quiet = true) (h : H) :
    s.busy h = none :=
  s.idle_of_quiet hs.busy hquiet h

/-- Every event keeps the order. -/
theorem State.Orderly.step {env : ε → σ → σ} {s s' : State H σ χ} {e : Event H χ ε}
    (hs : s.Orderly) (hstep : s.step env e = some s') : s'.Orderly := by
  cases e with
  | act k x =>
      rcases State.act_cases hstep with ⟨a, rest, failed, n, v, hk, _, rfl⟩
      constructor
      · intro h b hb
        rcases State.busy_record hb with ⟨rfl, _⟩ | ⟨_, hb'⟩
        · exact hs.busy h _ hk
        · exact hs.busy h b hb'
      · intro hab
        have hnone := hs.idle (hs.aborted hab).1 k
        rw [hk] at hnone
        cases hnone
  | env k e =>
      cases hstep
      exact ⟨hs.busy, hs.aborted⟩
  | next =>
      rcases State.next_cases hstep with ⟨hnot, hquiet, hcases⟩
      have hidle := hs.idle hquiet
      rcases hcases with ⟨hfresh, rfl⟩ | ⟨t, ts, _, rfl⟩ | ⟨b, bs, _, _, _, rfl⟩ |
        ⟨p, ps, _, _, _, _, rfl⟩
      · exact ⟨hs.busy, fun _ => ⟨hquiet, hfresh⟩⟩
      · refine ⟨?_, fun hab => by simp [State.startTask, hnot] at hab⟩
        intro h b hb
        exact (State.busy_startTask hb).1.1
      · exact ⟨by simp [State.startBatch, hidle],
          fun hab => by simp [State.startBatch, hnot] at hab⟩
      · exact ⟨by simp [State.startPlay, hidle], fun hab => by simp [State.startPlay, hnot] at hab⟩

/-- Every moment of a run is orderly. -/
theorem run_orderly {env : ε → σ → σ} {plays : List (Play H σ χ)} {nodes : H → σ}
    {es : List (Event H χ ε)} {s : State H σ χ}
    (hrun : run env (start plays nodes) es = some s) : s.Orderly := by
  refine run_induct (motive := State.Orderly) (fun _ _ _ hs hstep => hs.step hstep) ?_ hrun
  constructor <;> simp [start]

end Step

end Ansible
end ClusterPlaybooks
