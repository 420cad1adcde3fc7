import ClusterPlaybooks.Ansible.Completion
import ClusterPlaybooks.Service.Roles

/-!
# Taking nodes out of a cluster

The playbooks that remove nodes have a play with {lit}`ignore_errors: true`.  Its role stops the
services, waits for the ports to be closed, and then removes the directories.  The setting of
the play reaches every task of the role, so a host that fails a check goes on with the next
task; only a host that cannot be reached is dropped.

The node of this module carries the reports of the checks of the current run.  In every run the
data of a node is removed after all checks have been answered, with success or with a failure.
If none of them fails, all of them have succeeded.

Main results:

- Theorem {lit}`removal_after_answers`: data is removed only after every check was answered.
- Theorem {lit}`no_failed_report`: a check that does not fail is not reported as failed.
- Theorem {lit}`removal_after_checks`: if no check fails on a node, its data is removed only
  after every check has succeeded.
-/

namespace ClusterPlaybooks
namespace Service

open Ansible

variable {H F C : Type}

/-! ## Nodes and their reports -/

/-- The calls that precede the removal of data. -/
inductive Check where
  /-- the role {lit}`serviceState` with the state {lit}`stopped` -/
  | stopped (serviceName : String)
  /-- the role {lit}`portCheck` with the status {lit}`stopped` -/
  | closed (portNumber : String)
deriving DecidableEq, Repr

/-- A node with the reports of its checks in this run, the latest first. -/
structure Leaving (F C : Type) where
  node : Node F C
  reports : List (Check × Verdict)

/-- A node at the start of a run. -/
def Node.leave (n : Node F C) : Leaving F C where
  node := n.forget
  reports := []

/-- A node that comes back by itself. -/
def Leaving.selfRestart (ports : List String) (n : Leaving F C) : Leaving F C :=
  { n with node := n.node.selfRestart ports }

/-- The directory is there. -/
def Leaving.Has (d : String) (n : Leaving F C) : Prop :=
  (n.node.dirs d).isSome = true

/-- The host has answered a check, with success or with a failure. -/
def Leaving.Answered (n : Leaving F C) (c : Check) : Prop :=
  (c, .ok) ∈ n.reports ∨ (c, .failed) ∈ n.reports

/-- The host has answered some checks. -/
def Leaving.Answers (cs : List Check) (n : Leaving F C) : Prop :=
  ∀ c ∈ cs, n.Answered c

/-- The directory a node had before the run is removed only after all checks have succeeded. -/
def RemovedAfterChecks (d : String) (required : List Check) (old : Node F C) (n : Leaving F C) :
    Prop :=
  (old.dirs d).isSome = true → n.node.dirs d = none → ∀ c ∈ required, (c, .ok) ∈ n.reports

/-! ## Calls -/

/-- {lit}`systemd` with {lit}`state: stopped`; the node has one service of its own. -/
def stopped (own serviceName : String) : Effect H F C :=
  fun _ n _ => some (if serviceName = own then { n with process := none, openPorts := [] } else n)

/-- {lit}`wait_for` a port to be closed. -/
def waitForClosed (port : String) : Effect H F C :=
  fun _ n _ => if port ∈ n.openPorts then none else some n

/-- {lit}`file` with {lit}`state: absent`; the link of the service is at the path {lit}`link`. -/
def pathAbsent (link path : String) : Effect H F C :=
  fun h n x => (fileAbsent path h n x).map fun n' =>
    if inDir path link then { n' with live := none } else n'

/-- The module call of a check. -/
def Check.effect (own : String) : Check → Effect H F C
  | .stopped serviceName => Service.stopped own serviceName
  | .closed port => waitForClosed port

/-- A call on a node with reports; a check adds its own. -/
def reporting (ignoreErrors : Bool) (report : Option Check) (effect : Effect H F C) :
    Action H (Leaving F C) Choice where
  cond := fun _ _ => some true
  exec := fun h n x => (attempt effect h n.node x).map fun r =>
    (⟨r.1, (report.map fun c => (c, r.2)).toList ++ n.reports⟩, r.2)
  ignoreErrors := ignoreErrors

/-- A check under {lit}`ignore_errors: true`. -/
def Check.call (own : String) (c : Check) : Action H (Leaving F C) Choice :=
  reporting true (some c) (c.effect own)

/-! ## Tasks and plays -/

/-- A task for a check, as its role names it. -/
def Check.task (own : String) : Check → Task H (Leaving F C) Choice
  | .stopped serviceName =>
      { name := serviceName ++ " Service | stopped"
        items := [(Check.stopped serviceName).call own] }
  | .closed port =>
      { name := "Waiting for port | " ++ port ++ " | to be | stopped"
        items := [(Check.closed port).call own] }

/-- A task under {lit}`ignore_errors: true` that changes nothing this model looks at. -/
def silent (name : String) : Task H (Leaving F C) Choice where
  name := name
  items := [reporting true none noEffect]

/--
A task under {lit}`ignore_errors: true` that removes paths; it fails as a whole when one of the
paths cannot be rendered.
-/
def removing (name link : String) (paths : Option (List String)) :
    Task H (Leaving F C) Choice where
  name := name
  items := match paths with
    | some ps => ps.map fun path => reporting true none (pathAbsent link path)
    | none => [reporting true none fail]

/-- A play of one task on the controller. -/
def controllerPlay (localhost : H) (name : String) : Play H (Leaving F C) Choice where
  hosts := [localhost]
  nodup := List.nodup_singleton _
  serial := false
  anyErrorsFatal := false
  tasks := [{ name := name, items := [reporting false none noEffect] }]

/-- The play that removes nodes: facts, then the tasks of the role {lit}`decomissionNodes`. -/
def removalPlay (hosts : List H) (nodup : hosts.Nodup) (role : List (Task H (Leaving F C) Choice)) :
    Play H (Leaving F C) Choice where
  hosts := hosts
  nodup := nodup
  serial := true
  anyErrorsFatal := false
  tasks := silent "Gathering Facts" :: role

/-! ## What a call does -/

/-- An attempt ends as the outside world decides. -/
theorem attempt_verdict {effect : Effect H F C} {h : H} {n n' : Node F C} {x : Choice}
    {v : Verdict} (hatt : attempt effect h n x = some (n', v)) : v = x.verdict := by
  unfold attempt at hatt
  split at hatt
  · exact (Prod.mk.inj (Option.some.inj hatt)).2.symm
  · split at hatt
    · cases hatt
    · exact (Prod.mk.inj (Option.some.inj hatt)).2.symm

/-- The node, the reports, and the verdict after a call. -/
theorem reporting_run {ignoreErrors : Bool} {report : Option Check} {effect : Effect H F C} {h : H}
    {n n' : Leaving F C} {x : Choice} {v : Verdict}
    (hrun : (reporting ignoreErrors report effect).run h n x = some (n', v)) :
    (n'.node = n.node ∨ effect h n.node x = some n'.node) ∧
      n'.reports = (report.map fun c => (c, x.verdict)).toList ++ n.reports ∧
      v = (reporting ignoreErrors report effect).settle x.verdict := by
  simp only [Action.run, reporting, Option.map_map, Option.map_eq_some_iff] at hrun
  rcases hrun with ⟨⟨m, w⟩, hatt, heq⟩
  cases attempt_verdict hatt
  cases heq
  exact ⟨attempt_cases hatt, rfl, rfl⟩

section Calls

variable {h : H} {d own : String} {cs : List Check}

/-- A call whose effect keeps a directory keeps it. -/
theorem reporting_keeps_has {ignoreErrors : Bool} {report : Option Check}
    {effect : Effect H F C} (heffect : ∀ n x n', effect h n x = some n' → n'.dirs d = n.dirs d) :
    (reporting ignoreErrors report effect).Keeps h (Leaving.Has d) := by
  intro n x n' v hn hrun
  unfold Leaving.Has at hn ⊢
  rcases (reporting_run hrun).1 with heq | heff
  · rw [heq]
    exact hn
  · rw [heffect n.node x n'.node heff]
    exact hn

/-- A check removes nothing. -/
theorem Check.effect_dirs (c : Check) (n : Node F C) (x : Choice) (n' : Node F C)
    (heff : c.effect own h n x = some n') : n'.dirs d = n.dirs d := by
  cases c with
  | stopped serviceName =>
      simp only [Check.effect, Service.stopped] at heff
      split at heff <;> cases heff <;> rfl
  | closed port =>
      simp only [Check.effect, waitForClosed] at heff
      split at heff <;> cases heff
      rfl

/-- A call takes no answer back. -/
theorem reporting_keeps_answers {ignoreErrors : Bool} {report : Option Check}
    {effect : Effect H F C} :
    (reporting ignoreErrors report effect).Keeps h (Leaving.Answers cs) := by
  intro n x n' v hn hrun c hc
  unfold Leaving.Answered
  rw [(reporting_run hrun).2.1]
  exact (hn c hc).imp (List.mem_append_right _) (List.mem_append_right _)

/-- A host that goes on after a check has answered it. -/
theorem Check.call_gives (c : Check) :
    (c.call own).Gives h (Leaving.Answers (F := F) (C := C) cs) (Leaving.Answers (cs ++ [c])) := by
  intro n x n' hn hrun c' hc'
  rcases List.mem_append.mp hc' with hold | hnew
  · exact reporting_keeps_answers n x n' .ok hn hrun c' hold
  · cases List.mem_singleton.mp hnew
    rcases (reporting_run hrun).2 with ⟨hreports, hsettle⟩
    unfold Leaving.Answered
    rw [hreports]
    -- a lost connection would not have been forgiven
    cases hx : x.verdict with
    | ok => simp
    | failed => simp
    | unreachable => simp [hx, Action.settle] at hsettle

/-- The only call of the task for a check. -/
theorem Check.task_items (c : Check) :
    (c.task own).items = [(c.call own : Action H (Leaving F C) Choice)] := by
  cases c <;> rfl

end Calls

/-! ## The order of checks and removals -/

section Order

variable {ε : Type} {env : ε → Leaving F C → Leaving F C} {h : H} {d own : String}

/-- The environment neither removes a directory nor changes a report. -/
structure Aloof (env : ε → Leaving F C → Leaving F C) : Prop where
  dirs : ∀ e n, (env e n).node.dirs = n.node.dirs
  reports : ∀ e n, (env e n).reports = n.reports

/-- A node that comes back by itself has its directories and its reports. -/
theorem aloof_selfRestart : Aloof (Leaving.selfRestart (F := F) (C := C)) :=
  ⟨fun _ _ => rfl, fun _ _ => rfl⟩

/-- The environment removes no directory. -/
theorem Aloof.stable_has (henv : Aloof env) : Stable env (Leaving.Has d) := by
  intro e n hn
  unfold Leaving.Has
  rw [henv.dirs]
  exact hn

/-- The environment takes no answer back. -/
theorem Aloof.stable_answers (henv : Aloof env) (cs : List Check) :
    Stable env (Leaving.Answers cs) := by
  intro e n hn c hc
  unfold Leaving.Answered
  rw [henv.reports]
  exact hn c hc

/-- A host that has come through the tasks of some checks has answered them. -/
theorem checks_ensure (henv : Aloof env) (done cs : List Check) :
    Ensures env h (Leaving.Answers done) ((cs.map (Check.task own)).flatMap Task.items)
      (Leaving.Answers (done ++ cs)) := by
  induction cs generalizing done with
  | nil =>
      rw [List.append_nil]
      exact Ensures.nil (henv.stable_answers done)
  | cons c cs ih =>
      rw [List.map_cons, List.flatMap_cons, c.task_items, List.singleton_append]
      refine Ensures.cons (henv.stable_answers done) (henv.stable_answers _) c.call_gives ?_
      simpa using ih (done ++ [c])

/-- No directory is removed by the facts and the checks. -/
theorem checks_keep (cs : List Check) :
    TasksKeep h (Leaving.Has (F := F) (C := C) d)
      (silent "Gathering Facts" :: cs.map (Check.task own)) := by
  have hfacts : (reporting true none (noEffect : Effect H F C)).Keeps h (Leaving.Has d) := by
    apply reporting_keeps_has
    intro n x n' heff
    cases heff
    rfl
  intro a ha
  simp only [List.flatMap_cons, List.mem_append, List.mem_flatMap, List.mem_map] at ha
  rcases ha with ha | ⟨t, ⟨c, _, rfl⟩, ha⟩
  · cases List.mem_singleton.mp ha
    exact hfacts
  · rw [c.task_items] at ha
    cases List.mem_singleton.mp ha
    exact reporting_keeps_has c.effect_dirs

end Order

/-! ## Runs -/

/-- A playbook that removes nodes. -/
structure Removal (H F C : Type) where
  /-- the tasks on the controller before the play that removes nodes -/
  pauses : List (H × String)
  hosts : List H
  nodup : hosts.Nodup
  /-- the service of the nodes -/
  own : String
  checks : List Check
  /-- the tasks of the role after its checks -/
  later : List (Task H (Leaving F C) Choice)
  later_silent : ∀ a ∈ later.flatMap Task.items, ∃ effect, a = reporting true none effect

/-- The play of the playbook that removes nodes. -/
def Removal.play (r : Removal H F C) : Play H (Leaving F C) Choice :=
  removalPlay r.hosts r.nodup (r.checks.map (Check.task r.own) ++ r.later)

/-- The plays before it. -/
def Removal.pausePlays (r : Removal H F C) : List (Play H (Leaving F C) Choice) :=
  r.pauses.map fun p => controllerPlay p.1 p.2

/-- The plays of the playbook. -/
def Removal.plays (r : Removal H F C) : List (Play H (Leaving F C) Choice) :=
  r.pausePlays ++ [r.play]

/-- The state before a run of the playbook. -/
def Removal.start (r : Removal H F C) (nodes : H → Node F C) : State H (Leaving F C) Choice :=
  Ansible.start r.plays fun h => (nodes h).leave

/-- The directory was not removed before the required checks were answered. -/
def Leaving.RemovedAfterAnswers (d : String) (required : List Check) (n : Leaving F C) : Prop :=
  n.Has d ∨ n.Answers required

section Outline

variable {ε : Type} {env : ε → Leaving F C → Leaving F C} {r : Removal H F C} {d : String}
variable {required : List Check}

/-- The play, annotated for the hosts that have the directory before the run. -/
def Removal.stage (r : Removal H F C) (d : String) (required : List Check) (D : H → Prop) :
    Stage H (Leaving F C) Choice where
  play := r.play
  pre := fun h n => D h → n.Has d
  inv := fun h n => D h → n.RemovedAfterAnswers d required
  post := fun h n => D h → n.RemovedAfterAnswers d required

/-- The host has answered all checks when it comes to the later tasks. -/
theorem Removal.ensures_checks (henv : Aloof env) (h : H) :
    Ensures env h (Leaving.Has d)
      ((silent "Gathering Facts" :: r.checks.map (Check.task r.own)).flatMap Task.items)
      (Leaving.Answers r.checks) := by
  have hfacts : (reporting true none (noEffect : Effect H F C)).Gives h (Leaving.Has d)
      (Leaving.Answers []) := fun _ _ _ _ _ c hc => by cases hc
  rw [List.flatMap_cons]
  exact Ensures.cons henv.stable_has (henv.stable_answers []) hfacts
    (checks_ensure henv [] r.checks)

/-- The later tasks take no answer back. -/
theorem Removal.later_keep (h : H) : TasksKeep h (Leaving.Answers required) r.later := by
  intro a ha
  rcases r.later_silent a ha with ⟨effect, rfl⟩
  exact reporting_keeps_answers

/-- The assertion survives what happens outside of the run. -/
theorem Aloof.stable_removed (henv : Aloof env) :
    Stable env (Leaving.RemovedAfterAnswers d required) :=
  fun e n hn => hn.imp (henv.stable_has e n) (henv.stable_answers required e n)

/-- The annotated play is valid. -/
theorem Removal.stage_valid (henv : Aloof env) (hrequired : required ⊆ r.checks)
    (D : H → Prop) : (r.stage d required D).Valid env := by
  have hweaken : ∀ n : Leaving F C, n.Answers r.checks → n.RemovedAfterAnswers d required :=
    fun n hn => Or.inr fun c hc => hn c (hrequired hc)
  have htasks : r.play.tasks =
      (silent "Gathering Facts" :: r.checks.map (Check.task r.own)) ++ r.later := rfl
  have hactions : r.play.actions =
      (silent "Gathering Facts" :: r.checks.map (Check.task r.own)).flatMap Task.items ++
        r.later.flatMap Task.items := by
    rw [Play.actions, htasks, List.flatMap_append]
  have hguards : ∀ h, Guards env h (Leaving.Has d) r.play.tasks
      (Leaving.RemovedAfterAnswers d required) := by
    intro h
    rw [htasks]
    refine Guards.append ?_ (r.ensures_checks henv h) ?_
    · exact (Guards.of_keeps henv.stable_has (fun _ hn => hn) (checks_keep r.checks)).consequence
        (fun _ hn => hn) fun _ hn => Or.inl hn
    · exact (Guards.of_keeps (henv.stable_answers r.checks) (fun _ hn => hn)
        (r.later_keep h)).consequence (fun _ hn => hn) hweaken
  have hensures : ∀ h, Ensures env h (Leaving.Has d) r.play.actions
      (Leaving.RemovedAfterAnswers d required) := by
    intro h
    rw [hactions]
    exact ((r.ensures_checks henv h).append
      (Ensures.of_keeps (henv.stable_answers r.checks) (r.later_keep h))).consequence
        (fun _ hn => hn) hweaken
  refine ⟨fun _ => henv.stable_has.imp, fun _ => henv.stable_removed.imp,
    fun _ => henv.stable_removed.imp, fun _ _ hn hD => Or.inl (hn hD), ?_, ?_,
    fun _ _ _ hn hD => Or.inl (hn hD)⟩
  · intro h _ n m n' ts t rest as bs hn hts hitems hpath hloop hD
    exact hguards h n m n' ts t rest as bs (hn hD) hts hitems hpath hloop
  · intro h _ n n' hn hpath hD
    exact hensures h n n' (hn hD) hpath

/-- A task that removes paths reports nothing. -/
theorem removing_silent {name link : String} {paths : Option (List String)} :
    ∀ a ∈ (removing (H := H) (F := F) (C := C) name link paths).items,
      ∃ effect, a = reporting true none effect := by
  intro a ha
  cases paths with
  | none => exact ⟨fail, List.mem_singleton.mp ha⟩
  | some ps =>
      rcases List.mem_map.mp ha with ⟨path, _, rfl⟩
      exact ⟨pathAbsent link path, rfl⟩

/-- A pause on the controller removes no directory. -/
theorem controllerPlay_keep {localhost h : H} {name : String} :
    ∀ a ∈ (controllerPlay (F := F) (C := C) localhost name).actions, a.Keeps h (Leaving.Has d) := by
  intro a ha
  cases List.mem_singleton.mp ha
  apply reporting_keeps_has
  intro n x n' heff
  cases heff
  rfl

/-- The host has the directory if it had it before the run. -/
def StillHas (d : String) (nodes : H → Node F C) (h : H) (n : Leaving F C) : Prop :=
  ((nodes h).dirs d).isSome = true → n.Has d

/-- The playbook with its annotations. -/
def Removal.outline (r : Removal H F C) (d : String) (required : List Check)
    (nodes : H → Node F C) : List (Stage H (Leaving F C) Choice) :=
  r.pausePlays.map (fun p => Stage.steady p (StillHas d nodes)) ++
    [r.stage d required fun h => ((nodes h).dirs d).isSome = true]

/-- The annotated plays are those of the playbook. -/
theorem Removal.outline_plays {nodes : H → Node F C} :
    (r.outline d required nodes).map Stage.play = r.plays := by
  simp [Removal.outline, Removal.plays, Removal.stage, Function.comp_def, Stage.steady]

/-- The annotated plays are valid. -/
theorem Removal.outline_valid (henv : Aloof env) (hrequired : required ⊆ r.checks)
    {nodes : H → Node F C} : ∀ st ∈ r.outline d required nodes, st.Valid env := by
  intro st hst
  rcases List.mem_append.mp hst with hst | hst
  · rcases List.mem_map.mp hst with ⟨p, hp, rfl⟩
    rcases List.mem_map.mp hp with ⟨q, _, rfl⟩
    exact Stage.steady_valid (fun _ => henv.stable_has.imp)
      fun k _ a ha => (controllerPlay_keep a ha).imp
  · cases List.mem_singleton.mp hst
    exact r.stage_valid henv hrequired _

/-- In every run, data is removed only after every required check was answered. -/
theorem removal_after_answers [DecidableEq H] (henv : Aloof env)
    (hrequired : required ⊆ r.checks) {nodes : H → Node F C} {es : List (Event H Choice ε)}
    {s : State H (Leaving F C) Choice} (hrun : run env (r.start nodes) es = some s) {h : H}
    (hdata : ((nodes h).dirs d).isSome = true) : (s.nodes h).RemovedAfterAnswers d required := by
  have hchain : Chained (StillHas d nodes) (r.outline d required nodes) :=
    chained_steady_concat _ fun _ _ hn => hn
  have hstart : r.start nodes =
      start ((r.outline d required nodes).map Stage.play) fun k => (nodes k).leave := by
    rw [Removal.start, r.outline_plays]
  have hnodes : ∀ k, StillHas d nodes k (nodes k).leave := fun _ hn => hn
  rw [hstart] at hrun
  have halong := outline_sound (fun _ => henv.stable_has.imp) (r.outline_valid henv hrequired)
    hchain hnodes hrun
  refine halong.of_stages (A := fun k n => ((nodes k).dirs d).isSome = true →
    n.RemovedAfterAnswers d required) ?_ h hdata
  intro st hst k n hn hD
  rcases List.mem_cons.mp hst with rfl | hst
  · rcases hn with hn | hn | hn <;> exact Or.inl (hn hD)
  rcases List.mem_append.mp hst with hst | hst
  · rcases List.mem_map.mp hst with ⟨p, _, rfl⟩
    rcases hn with hn | hn | hn <;> exact Or.inl (hn hD)
  · cases List.mem_singleton.mp hst
    rcases hn with hn | hn | hn
    · exact Or.inl (hn hD)
    · exact hn hD
    · exact hn hD

end Outline

/-! ## Runs without failing checks -/

section Passing

variable {ε : Type} {env : ε → Leaving F C → Leaving F C} {r : Removal H F C}
variable {required : List Check} {h : H}

/-- No required check of the host fails. -/
def ChecksPass (own : String) (required : List Check) (h : H) :
    State H (Leaving F C) Choice → H → Choice → Prop :=
  fun s k x => k = h → ∀ c ∈ required,
    (∃ rest failed, s.busy k = some ⟨c.call own :: rest, failed⟩) → x.verdict ≠ .failed

/-- A call of the playbook is a check or reports nothing. -/
def IsReporting (own : String) (a : Action H (Leaving F C) Choice) : Prop :=
  (∃ c : Check, a = c.call own) ∨ ∃ ignoreErrors effect, a = reporting ignoreErrors none effect

/-- All calls of the playbook are of this kind. -/
theorem Removal.isReporting (r : Removal H F C) : ∀ p ∈ r.plays, ∀ a ∈ p.actions,
    IsReporting r.own a := by
  intro p hp a ha
  rcases List.mem_append.mp hp with hp | hp
  · rcases List.mem_map.mp hp with ⟨q, _, rfl⟩
    cases List.mem_singleton.mp ha
    exact Or.inr ⟨false, noEffect, rfl⟩
  · cases List.mem_singleton.mp hp
    simp only [Play.actions, Removal.play, removalPlay, List.flatMap_cons, List.flatMap_append,
      List.mem_append, List.flatMap_map, List.mem_flatMap (l := r.checks)] at ha
    rcases ha with ha | ⟨c, _, ha⟩ | ha
    · cases List.mem_singleton.mp ha
      exact Or.inr ⟨true, noEffect, rfl⟩
    · rw [c.task_items] at ha
      exact Or.inl ⟨c, List.mem_singleton.mp ha⟩
    · rcases r.later_silent a ha with ⟨effect, rfl⟩
      exact Or.inr ⟨true, effect, rfl⟩

/-- A required check of the host is not reported as failed. -/
def NoneFailed (required : List Check) (h k : H) (n : Leaving F C) : Prop :=
  k = h → ∀ c ∈ required, (c, .failed) ∉ n.reports

variable [DecidableEq H]

/-- A required check that does not fail is not reported as failed. -/
theorem no_failed_report (henv : Aloof env) {nodes : H → Node F C}
    {es : List (Event H Choice ε)} {s : State H (Leaving F C) Choice}
    (hlaw : Lawful env (ChecksPass r.own required h) (r.start nodes) es)
    (hrun : run env (r.start nodes) es = some s) :
    ∀ c ∈ required, (c, .failed) ∉ (s.nodes h).reports := by
  have hahead : (r.start nodes).Ahead fun _ a => IsReporting r.own a :=
    start_ahead fun p hp _ _ => r.isReporting p hp
  have hstable : ∀ k, Stable env (NoneFailed required h k) := by
    intro k e n hn hk
    rw [henv.reports]
    exact hn hk
  have hstart : ∀ k, NoneFailed required h k ((r.start nodes).nodes k) :=
    fun k _ c _ hc => by cases hc
  refine hlaw.keeps ?_ hstable hahead hstart hrun h rfl
  intro s k a rest failed x n v hbusy hkind hpass hn hcall hk c hc hmem
  rcases hkind with ⟨c', rfl⟩ | ⟨ignoreErrors, effect, rfl⟩
  · rw [(reporting_run hcall).2.1] at hmem
    rcases List.mem_append.mp hmem with hnew | hold
    · -- the report is new, so the check is the call that was made
      rcases Prod.mk.inj (List.mem_singleton.mp hnew) with ⟨rfl, hverdict⟩
      exact hpass hk c hc ⟨rest, failed, hbusy⟩ hverdict.symm
    · exact hn hk c hc hold
  · rw [(reporting_run hcall).2.1] at hmem
    exact hn hk c hc hmem

/-- If no required check of a host fails, its data is removed after all of them have succeeded. -/
theorem removal_after_checks (henv : Aloof env) (hrequired : required ⊆ r.checks)
    {nodes : H → Node F C} {es : List (Event H Choice ε)} {s : State H (Leaving F C) Choice}
    (hlaw : Lawful env (ChecksPass r.own required h) (r.start nodes) es)
    (hrun : run env (r.start nodes) es = some s) (d : String) :
    RemovedAfterChecks d required (nodes h) (s.nodes h) := by
  intro hdata hgone c hc
  have hnone := no_failed_report henv hlaw hrun c hc
  rcases removal_after_answers henv hrequired hrun hdata with hhas | hanswers
  · rw [Leaving.Has, hgone] at hhas
    cases hhas
  · exact (hanswers c hc).resolve_right hnone

end Passing

end Service
end ClusterPlaybooks
