import ClusterPlaybooks.Ansible.Progress
import ClusterPlaybooks.Service.RefusedUpdate
import Mathlib.Data.List.TakeWhile

/-!
# Repeated updates to a bad configuration

A run takes down the first node whose file differs and is aborted.  In the next run the
file of this node has the new content.  The node is neither restarted nor checked, and
the run goes on to the next node whose file differs.

Main results:

- Theorem {lit}`refused_run`: a run takes down the first node whose file differs.
- Theorem {lit}`two_runs_two_down`: two runs take down two nodes.
- Theorems {lit}`one_ever_down_iff` and {lit}`one_ever_down_iff_writable`: at most one node
  is ever down, in all histories of at most {lit}`r` runs, exactly if {lit}`r` is at most
  one or the files of at most one node differ among those that the runs can get to.
-/

namespace ClusterPlaybooks
namespace Service

open Ansible

variable {H F C : Type} [DecidableEq H] [DecidableEq F] [DecidableEq C]
variable {u : UpdatePlaybook H F C} {h k : H} {n : Node F C}

/-! ## A run that takes down a node -/

/-- The node after the file was written. -/
def UpdatePlaybook.wrote (u : UpdatePlaybook H F C) (h : H) (n : Node F C) : Node F C :=
  (template u.dir u.file u.render (some u.reg) h n (Choice.good [])).getD n

section Wrote

variable (hready : Ready u h n)

omit [DecidableEq H]
include hready

/-- The template call succeeds. -/
theorem template_wrote :
    template u.dir u.file u.render (some u.reg) h n (Choice.good []) = some (u.wrote h n) := by
  rcases Option.isSome_iff_exists.mp hready.dir with ⟨dir, hdir⟩
  rcases Option.isSome_iff_exists.mp hready.render with ⟨c, hc⟩
  simp [UpdatePlaybook.wrote, template, hdir, hc]

/-- It leaves the new content on the disk. -/
theorem wrote_same : ¬u.Differs h (u.wrote h n) := by
  rcases template_fileAt (template_wrote hready) with ⟨c, hc, hfiles⟩
  rw [not_differs_iff, hfiles, if_pos ⟨rfl, rfl⟩, hc]

/-- It leaves the ports alone. -/
theorem wrote_openPorts : (u.wrote h n).openPorts = n.openPorts :=
  template_ports h n _ _ (template_wrote hready)

/-- The playbook can write its file again. -/
theorem wrote_ready : Ready u h (u.wrote h n) := by
  refine ⟨?_, hready.render⟩
  rcases template_eq_some (template_wrote hready) with ⟨dir, c, _, _, hwrote⟩
  simp [hwrote, Node.write, Node.register]

/-- It registers whether the file differed. -/
theorem wrote_changed : whenChanged u.reg h (u.wrote h n) = some (decide (u.Differs h n)) := by
  rcases template_eq_some (template_wrote hready) with ⟨dir, c, hdir, hc, hwrote⟩
  simp [hwrote, whenChanged, Node.register, UpdatePlaybook.Differs, Node.fileAt, hdir, hc]

/-- The call that writes the file succeeds. -/
theorem write_run : u.write.run h n (Choice.good []) = some (u.wrote h n, .ok) := by
  have hatt : attempt (template u.dir u.file u.render (some u.reg)) h n (Choice.good []) =
      some (u.wrote h n, .ok) := by
    rw [attempt, template_wrote hready]
    rfl
  exact (Action.run_of_cond _ rfl rfl).trans hatt

end Wrote

omit [DecidableEq H] [DecidableEq F] [DecidableEq C] in
/-- Calls without effect succeed. -/
theorem inert_calls (count : Nat) :
    makeCalls h (Choice.good []) (List.replicate count (call noEffect)) n = some n := by
  induction count with
  | zero => rfl
  | succ count ih =>
      rw [List.replicate_succ, makeCalls]
      exact ih

omit [DecidableEq H] [DecidableEq F] [DecidableEq C] in
/-- Port checks are skipped on a node without a change. -/
theorem check_calls {cond : H → Node F C → Option Bool} {x : Choice}
    (hcond : cond h n = some false) (ports : List String) :
    makeCalls h x ((portCheck ports cond).flatMap Task.items) n = some n := by
  induction ports with
  | nil => rfl
  | cons port ports ih =>
      have hskip : (callWhen cond (waitFor port)).run h n x = some (n, .ok) :=
        Action.run_of_skip x hcond
      rw [portCheck, List.map_cons, List.flatMap_cons, List.singleton_append, makeCalls, hskip]
      exact ih

/-- The tasks of the rolling play up to the restart. -/
def UpdatePlaybook.upToRestart (u : UpdatePlaybook H F C) : List (Task H (Node F C) Choice) :=
  [gatherFacts, { name := u.title, items := [u.write] },
    serviceState u.serviceName .restarted (whenChanged u.reg)]

omit [DecidableEq H] in
/-- The port checks are the other tasks. -/
theorem tasks_eq : u.tasks = u.upToRestart ++ portCheck u.ports (whenChanged u.reg) :=
  rfl

omit [DecidableEq H] in
/-- The calls up to the restart, if the restart makes {lit}`m` of the node. -/
theorem restart_calls {m : Node F C} (hready : Ready u h n)
    (hrestart : (callWhen (whenChanged u.reg) restarted).run h (u.wrote h n) (Choice.good []) =
      some (m, .ok)) :
    makeCalls h (Choice.good []) (u.upToRestart.flatMap Task.items) n = some m := by
  have hgather : (call noEffect).run h n (Choice.good []) = some (n, .ok) := rfl
  have hcalls : u.upToRestart.flatMap Task.items =
      [call noEffect, u.write, callWhen (whenChanged u.reg) restarted] := rfl
  rw [hcalls, makeCalls, hgather]
  simp only [makeCalls, write_run hready, hrestart]

omit [DecidableEq H] in
/-- A node whose file has the content gets through the play without a restart. -/
theorem skip_calls (hready : Ready u h n) (hsame : ¬u.Differs h n) :
    makeCalls h (Choice.good []) (u.tasks.flatMap Task.items) n = some (u.wrote h n) := by
  have hcond : whenChanged u.reg h (u.wrote h n) = some false := by
    rw [wrote_changed hready, decide_eq_false hsame]
  rw [tasks_eq, List.flatMap_append, makeCalls_append,
    restart_calls hready (Action.run_of_skip _ hcond), Option.bind_some]
  exact check_calls hcond u.ports

omit [DecidableEq H] in
/-- A node whose file differs is restarted and opens no port. -/
theorem refuse_calls (hready : Ready u h n) (hdiff : u.Differs h n) :
    makeCalls h (Choice.good []) (u.upToRestart.flatMap Task.items) n =
      some ((u.wrote h n).startService true []) := by
  have hcond : whenChanged u.reg h (u.wrote h n) = some true := by
    rw [wrote_changed hready, decide_eq_true hdiff]
  exact restart_calls hready ((Action.run_of_cond _ hcond rfl).trans rfl)

/-! ### The way to the first node whose file differs -/

section Run

variable {nodes : H → Node F C}

omit [DecidableEq H] [DecidableEq F] [DecidableEq C] in
/-- The chosen calls open no port. -/
theorem good_refuses (u : UpdatePlaybook H F C) : Refuses u.ports (Choice.good []) := by
  rcases List.exists_mem_of_ne_nil u.ports u.ports_ne with ⟨port, hport⟩
  exact ⟨port, hport, by simp [Choice.good]⟩

omit [DecidableEq H] [DecidableEq F] [DecidableEq C] in
/-- Neither does a failing call. -/
theorem bad_refuses (u : UpdatePlaybook H F C) : Refuses u.ports Choice.bad := by
  rcases List.exists_mem_of_ne_nil u.ports u.ports_ne with ⟨port, hport⟩
  exact ⟨port, hport, by simp [Choice.bad]⟩

/-- A run can start the rolling play without the hosts in {lit}`bad`. -/
def UpdatePlaybook.Enters (u : UpdatePlaybook H F C) (bad : List H) : Prop :=
  ∀ nodes : H → Node F C, ∃ lost, (∀ h, h ∈ lost ↔ h ∈ u.hosts ∧ h ∈ bad) ∧
    Reaches calm (Refuses u.ports) (launch Node.forget u.plays nodes)
      (State.resting lost (fun h => (nodes h).forget) [] [] u.rolling.batches u.rolling [])

omit [DecidableEq F] [DecidableEq C] in
/-- The first play of a run starts. -/
theorem launch_starts {ok : Choice → Prop} (p : Play H (Node F C) Choice)
    (plays : List (Play H (Node F C) Choice)) :
    Reaches (calm : Empty → Node F C → Node F C) ok (launch Node.forget (p :: plays) nodes)
      (State.resting [] (fun h => (nodes h).forget) [] [] p.batches p plays) := by
  have hidle : launch Node.forget (p :: plays) nodes =
      State.resting [] (fun h => (nodes h).forget) [] [] [] Play.idle (p :: plays) := rfl
  rw [hidle]
  exact Reaches.startPlay

/-- An update without other plays starts with all hosts. -/
theorem enters_all (hbefore : u.before = []) : u.Enters [] := by
  intro nodes
  refine ⟨[], by simp, ?_⟩
  have hplays : u.plays = [u.rolling] := by
    rw [UpdatePlaybook.plays, UpdatePlaybook.announcing, hbefore]
    rfl
  rw [hplays]
  exact launch_starts u.rolling []

omit [DecidableEq H] [DecidableEq F] [DecidableEq C] in
/-- The calls of inert tasks succeed. -/
theorem inert_tasks_calls (tasks : List (String × Nat)) :
    makeCalls h (Choice.good []) ((tasks.map fun t => (inert t.1 t.2 : Task H (Node F C) Choice)
      ).flatMap Task.items) n = some n := by
  induction tasks with
  | nil => rfl
  | cons t ts ih =>
      have hone : makeCalls h (Choice.good [])
          (inert t.1 t.2 : Task H (Node F C) Choice).items n = some n := inert_calls t.2
      rw [List.map_cons, List.flatMap_cons, makeCalls_append, hone, Option.bind_some]
      exact ih

/--
An update that starts with a play of inert tasks can lose any hosts there, but not all.
-/
theorem enters_without {bad : List H} {tasks : List (String × Nat)} {title : String}
    (hbefore : u.before = [tasks ++ [(title, 1)]]) (hk : k ∈ u.hosts) (hkbad : k ∉ bad) :
    u.Enters bad := by
  intro nodes
  have hplays : u.plays = [u.announce (tasks ++ [(title, 1)]), u.rolling] := by
    rw [UpdatePlaybook.plays, UpdatePlaybook.announcing, hbefore]
    rfl
  have hbatches : (u.announce (tasks ++ [(title, 1)])).batches = [u.hosts] := by
    have hne : u.hosts.isEmpty = false := by
      rw [List.isEmpty_eq_false_iff]
      exact List.ne_nil_of_mem hk
    simp [UpdatePlaybook.announce, Play.batches, onAll, hne]
  have htasks : (u.announce (tasks ++ [(title, 1)])).tasks =
      (tasks.map fun t => inert t.1 t.2) ++ [inert title 1] := by
    simp [UpdatePlaybook.announce, onAll]
  -- all hosts do the tasks before the last one
  have hstart : Reaches calm (Refuses u.ports) (launch Node.forget u.plays nodes)
      (State.resting [] (fun h => (nodes h).forget) [inert title 1] u.hosts []
        (u.announce (tasks ++ [(title, 1)])) [u.rolling]) := by
    rw [hplays]
    refine (launch_starts _ [u.rolling]).trans ?_
    rw [hbatches]
    refine Reaches.startBatch.trans ?_
    rw [htasks]
    exact Reaches.tasks _ (good_refuses u) u.nodup _ (fun h _ => inert_tasks_calls tasks)
      fun h _ => rfl
  have hdrop : ∃ lost, (∀ h, h ∈ lost ↔ h ∈ u.hosts ∧ h ∈ bad) ∧
      Reaches calm (Refuses u.ports)
        (State.resting [] (fun h => (nodes h).forget) [inert title 1] u.hosts []
          (u.announce (tasks ++ [(title, 1)])) [u.rolling])
        (State.resting lost (fun h => (nodes h).forget) [] [] u.rolling.batches u.rolling []) :=
    Reaches.dropping (a := call noEffect) (good_refuses u) (bad_refuses u) u.nodup hk hkbad rfl rfl
      (fun h _ _ => rfl) (fun h _ _ => rfl)
  rcases hdrop with ⟨lost, hlost, hdrop⟩
  exact ⟨lost, hlost, hstart.trans hdrop⟩

/-- The nodes of a run that got through the first hosts without a restart. -/
def afterSkipping (u : UpdatePlaybook H F C) (bad done : List H) (nodes : H → Node F C) (h : H) :
    Node F C :=
  if h ∈ done ∧ h ∉ bad then u.wrote h (nodes h).forget else (nodes h).forget

/-- The nodes after a run that then was aborted at {lit}`k`. -/
def afterRefusal (u : UpdatePlaybook H F C) (bad done : List H) (k : H) (nodes : H → Node F C) :
    H → Node F C :=
  Function.update (afterSkipping u bad done nodes) k
    ((u.wrote k (nodes k).forget).startService true [])

omit [DecidableEq H] [DecidableEq F] [DecidableEq C] in
/-- A port check fails on a node that opened no port. -/
theorem check_run {m : Node F C} {port : String}
    (hcond : whenChanged u.reg h m = some true) (hports : m.openPorts = []) :
    (callWhen (whenChanged u.reg) (waitFor port)).run h m Choice.bad = some (m, .failed) := by
  refine (Action.run_of_cond _ hcond rfl).trans ?_
  have hclosed : waitFor port h m Choice.bad = none := by simp [waitFor, hports]
  change attempt (waitFor port) h m Choice.bad = _
  rw [attempt, hclosed]
  rfl

section Abort

variable {bad done rest : List H} (henters : u.Enters bad)
variable (hhosts : u.hosts = done ++ k :: rest)
variable (hready : ∀ h ∈ done, h ∉ bad → Ready u h (nodes h))
variable (hdone : ∀ h ∈ done, h ∉ bad → ¬u.Differs h (nodes h))

include henters hhosts hready hdone

/-- A run gets to the first node whose file differs. -/
theorem skipping_reaches :
    ∃ lost, (∀ h, h ∈ lost ↔ h ∈ u.hosts ∧ h ∈ bad) ∧
      Reaches calm (Refuses u.ports) (launch Node.forget u.plays nodes)
        (State.resting lost (afterSkipping u bad done nodes) u.tasks [k] (rest.map fun h => [h])
          u.rolling []) := by
  rcases henters nodes with ⟨lost, hlost, hstart⟩
  have hleft : ∀ h, h ∈ done ∧ h ∉ lost ↔ h ∈ done ∧ h ∉ bad := by
    intro h
    refine and_congr_right fun hh => not_congr ?_
    rw [hlost]
    exact and_iff_right (by simp [hhosts, hh])
  refine ⟨lost, hlost, hstart.trans (Reaches.serialHost _ (good_refuses u) rfl hhosts ?_ ?_)⟩
  · intro h hh
    rcases (hleft h).mp hh with ⟨hhdone, hhbad⟩
    rw [afterSkipping, if_pos ⟨hhdone, hhbad⟩]
    exact skip_calls (hready h hhdone hhbad).forget (hdone h hhdone hhbad)
  · intro h hh
    rw [afterSkipping, if_neg fun hin => hh ((hleft h).mpr hin)]

/-- It is aborted there and leaves the node down. -/
theorem refused_run (hkbad : k ∉ bad) (hkready : Ready u k (nodes k))
    (hk : u.Differs k (nodes k)) :
    ∃ s, Reaches calm (Refuses u.ports) (launch Node.forget u.plays nodes) s ∧
      s.nodes = afterRefusal u bad done k nodes := by
  have hnodup : (done ++ k :: rest).Nodup := hhosts ▸ u.nodup
  have hkdone : k ∉ done :=
    fun hmem => (List.nodup_append.mp hnodup).2.2 k hmem k List.mem_cons_self rfl
  rcases List.exists_cons_of_ne_nil u.ports_ne with ⟨port, ports, hports⟩
  rcases skipping_reaches henters hhosts hready hdone with ⟨lost, hlost, hskipping⟩
  have hklost : k ∉ lost := fun hmem => hkbad ((hlost k).mp hmem).2
  -- up to the restart everything succeeds
  have hrestarted : Reaches calm (Refuses u.ports)
      (State.resting lost (afterSkipping u bad done nodes) u.tasks [k] (rest.map fun h => [h])
        u.rolling [])
      (State.resting lost (afterRefusal u bad done k nodes)
        (portCheck u.ports (whenChanged u.reg)) [k] (rest.map fun h => [h]) u.rolling []) := by
    refine Reaches.tasks _ (good_refuses u) (List.nodup_singleton k) u.upToRestart ?_ ?_
    · intro h hh
      cases List.mem_singleton.mp hh.1
      rw [afterRefusal, Function.update_self, afterSkipping, if_neg fun hin => hkdone hin.1]
      exact refuse_calls hkready.forget hk
    · intro h hh
      have hne : h ≠ k := by
        rintro rfl
        exact hh ⟨List.mem_singleton_self h, hklost⟩
      exact Function.update_of_ne hne _ _
  have hcond : whenChanged u.reg k (afterRefusal u bad done k nodes k) = some true := by
    rw [afterRefusal, Function.update_self]
    exact (wrote_changed hkready.forget).trans (congrArg some (decide_eq_true hk))
  have hclosed : (afterRefusal u bad done k nodes k).openPorts = [] := by
    rw [afterRefusal, Function.update_self]
    rfl
  -- the first port check fails
  have hchecks : (portCheck u.ports (whenChanged u.reg) : List (Task H (Node F C) Choice)) =
      portCheck (port :: ports) (whenChanged u.reg) := by rw [hports]
  rw [hchecks] at hrestarted
  have hfailed : ∃ s, Reaches calm (Refuses u.ports)
      (State.resting lost (afterRefusal u bad done k nodes)
        (portCheck (port :: ports) (whenChanged u.reg)) [k] (rest.map fun h => [h]) u.rolling [])
      s ∧
      s.nodes = Function.update (afterRefusal u bad done k nodes) k
        (afterRefusal u bad done k nodes k) :=
    Reaches.failure (a := callWhen (whenChanged u.reg) (waitFor port)) (bad_refuses u) hklost rfl
      (check_run hcond hclosed)
  rcases hfailed with ⟨s, hs, hnodes⟩
  refine ⟨s, hskipping.trans (hrestarted.trans hs), ?_⟩
  rw [hnodes, Function.update_eq_self]

end Abort

/-! ### What the aborted run leaves behind -/

variable {bad done us : List H}

/-- The node is down. -/
theorem afterRefusal_down : ¬(afterRefusal u bad done k nodes k).serves u.ports := by
  rcases List.exists_mem_of_ne_nil u.ports u.ports_ne with ⟨port, hport⟩
  intro hserves
  have hopen := hserves port hport
  simp [afterRefusal, Node.startService] at hopen

/-- The ports of the other nodes are as before. -/
theorem afterRefusal_openPorts (hready : Ready u h (nodes h)) (hne : h ≠ k) :
    (afterRefusal u bad done k nodes h).openPorts = (nodes h).openPorts := by
  rw [afterRefusal, Function.update_of_ne hne, afterSkipping]
  split
  · exact wrote_openPorts hready.forget
  · rfl

/-- The playbook can write its file again. -/
theorem afterRefusal_ready (hready : Ready u h (nodes h)) :
    Ready u h (afterRefusal u bad done k nodes h) := by
  by_cases hne : h = k
  · subst hne
    rw [afterRefusal, Function.update_self]
    exact ⟨(wrote_ready hready.forget).dir, hready.render⟩
  · rw [afterRefusal, Function.update_of_ne hne, afterSkipping]
    split
    · exact wrote_ready hready.forget
    · exact hready.forget

/-- The node that is down has the new content on its disk. -/
theorem afterRefusal_same (hready : Ready u k (nodes k)) :
    ¬u.Differs k (afterRefusal u bad done k nodes k) := by
  rw [afterRefusal, Function.update_self]
  exact wrote_same (n := (nodes k).forget) hready.forget

/-- A node that was not reached has its old content. -/
theorem afterRefusal_differs (hdone : h ∉ done) (hne : h ≠ k) (hdiff : u.Differs h (nodes h)) :
    u.Differs h (afterRefusal u bad done k nodes h) := by
  rw [afterRefusal, Function.update_of_ne hne, afterSkipping, if_neg fun hin => hdone hin.1]
  exact hdiff

omit [DecidableEq F] in
/-- The first of some hosts whose file differs. -/
theorem exists_first_differing (hh : h ∈ us) (hhbad : h ∉ bad) (hdiff : u.Differs h (nodes h)) :
    ∃ done k rest, us = done ++ k :: rest ∧
      (∀ j ∈ done, j ∉ bad → ¬u.Differs j (nodes j)) ∧ k ∉ bad ∧ u.Differs k (nodes k) := by
  have hsome : (us.find? fun j => decide (j ∉ bad ∧ u.Differs j (nodes j))).isSome = true := by
    rw [List.find?_isSome]
    exact ⟨h, hh, decide_eq_true ⟨hhbad, hdiff⟩⟩
  rcases Option.isSome_iff_exists.mp hsome with ⟨k, hk⟩
  rcases List.find?_eq_some_iff_append.mp hk with ⟨hkdiff, done, rest, hus, hdone⟩
  have hkboth := of_decide_eq_true hkdiff
  refine ⟨done, k, rest, hus, ?_, hkboth.1, hkboth.2⟩
  intro j hj hjbad hjdiff
  have hnot := hdone j hj
  rw [decide_eq_true ⟨hjbad, hjdiff⟩] at hnot
  cases hnot

/-- A run that finds a file that differs takes the first such node down. -/
theorem exists_refused_run (henters : u.Enters bad) (hus : us <+: u.hosts)
    (hready : ∀ h ∈ us, h ∉ bad → Ready u h (nodes h)) (hh : h ∈ us) (hhbad : h ∉ bad)
    (hdiff : u.Differs h (nodes h)) :
    ∃ done k s, k ∈ us ∧ k ∉ bad ∧ u.Differs k (nodes k) ∧
      (∀ j ∈ done, j ∉ bad → ¬u.Differs j (nodes j)) ∧
      Reaches calm (Refuses u.ports) (launch Node.forget u.plays nodes) s ∧
      s.nodes = afterRefusal u bad done k nodes := by
  rcases exists_first_differing hh hhbad hdiff with ⟨done, k, rest, hsplit, hdone, hkbad, hk⟩
  have hkmem : k ∈ us := by simp [hsplit]
  have hhosts : ∃ others, u.hosts = done ++ k :: others := by
    rcases hus with ⟨others, hothers⟩
    exact ⟨rest ++ others, by simp [← hothers, hsplit]⟩
  rcases hhosts with ⟨others, hhosts⟩
  have hbefore : ∀ j ∈ done, j ∉ bad → Ready u j (nodes j) :=
    fun j hj => hready j (by simp [hsplit, hj])
  rcases refused_run henters hhosts hbefore hdone hkbad (hready k hkmem hkbad) hk with
    ⟨s, hs, hnodes⟩
  exact ⟨done, k, s, hkmem, hkbad, hk, hdone, hs, hnodes⟩

/-- Two runs take down two nodes if the files of two nodes differ. -/
theorem two_runs_two_down (henters : u.Enters bad) (hus : us <+: u.hosts)
    (hready : ∀ h ∈ us, h ∉ bad → Ready u h (nodes h)) (hh : h ∈ us) (hhbad : h ∉ bad)
    (hk : k ∈ us) (hkbad : k ∉ bad) (hne : h ≠ k) (hhdiff : u.Differs h (nodes h))
    (hkdiff : u.Differs k (nodes k)) :
    ∃ ls, RefusedRuns u ls ∧ ls.length = 2 ∧ ¬OneEverDown u nodes ls := by
  rcases exists_refused_run henters hus hready hh hhbad hhdiff with
    ⟨done, a, s, hamem, habad, ha, hdone, ⟨es, hes, hs⟩, hnodes⟩
  -- the file of one of the two hosts still differs
  have hleft : ∃ j ∈ us, j ∉ bad ∧ u.Differs j (s.nodes j) := by
    rw [hnodes]
    by_cases hha : h = a
    · refine ⟨k, hk, hkbad,
        afterRefusal_differs (fun hmem => hdone k hmem hkbad hkdiff) ?_ hkdiff⟩
      exact fun hka => hne (hha.trans hka.symm)
    · exact ⟨h, hh, hhbad,
        afterRefusal_differs (fun hmem => hdone h hmem hhbad hhdiff) hha hhdiff⟩
  rcases hleft with ⟨j, hj, hjbad, hjdiff⟩
  have hready' : ∀ h ∈ us, h ∉ bad → Ready u h (s.nodes h) := by
    intro h hh hhbad
    rw [hnodes]
    exact afterRefusal_ready (hready h hh hhbad)
  rcases exists_refused_run henters hus hready' hj hjbad hjdiff with
    ⟨done', b, s', hbmem, hbbad, hb, _, ⟨fs, hfs, hs'⟩, hnodes'⟩
  have hab : a ≠ b := by
    rintro rfl
    rw [hnodes] at hb
    exact afterRefusal_same (hready a hamem habad) hb
  refine ⟨[⟨u.plays, es⟩, ⟨u.plays, fs⟩], ⟨by simp, ?_⟩, rfl, ?_⟩
  · intro l hl
    simp only [List.mem_cons, List.not_mem_nil, or_false] at hl
    rcases hl with rfl | rfl
    · exact hes
    · exact hfs
  · intro hone
    have hmoment : Moment calm Node.forget nodes [⟨u.plays, es⟩, ⟨u.plays, fs⟩] s' :=
      Moment.later hs (Moment.now List.prefix_rfl hs')
    refine hab (hone s' s' hmoment hmoment a (hus.subset hamem) b (hus.subset hbmem) ?_ ?_)
    · intro hserves
      have hports : (s'.nodes a).openPorts = (afterRefusal u bad done a nodes a).openPorts := by
        rw [hnodes', afterRefusal_openPorts (hready' a hamem habad) hab, hnodes]
      have hstill : ¬(afterRefusal u bad done a nodes a).serves u.ports := afterRefusal_down
      exact hstill fun port hport => hports ▸ hserves port hport
    · rw [hnodes']
      exact afterRefusal_down

end Run

/-! ## The number of runs -/

/-- Among these hosts, the files of at most one differ from what the playbook writes. -/
def AtMostOneDiffers (u : UpdatePlaybook H F C) (among : List H) (nodes : H → Node F C) : Prop :=
  ∀ h ∈ among, ∀ k ∈ among, u.Differs h (nodes h) → u.Differs k (nodes k) → h = k

/-- The hosts before the first one on which the file cannot be written. -/
def UpdatePlaybook.reached (u : UpdatePlaybook H F C) (nodes : H → Node F C) : List H :=
  u.hosts.takeWhile fun h => decide (Ready u h (nodes h))

/-- The hosts on which the file can be written. -/
def UpdatePlaybook.writable (u : UpdatePlaybook H F C) (nodes : H → Node F C) : List H :=
  u.hosts.filter fun h => decide (Ready u h (nodes h))

section Iff

variable {nodes : H → Node F C}

/--
At most one node is ever down exactly if there are no two runs, or if the files of at
most one node differ among those that the runs can take down.
-/
theorem one_ever_down_among {among : List H} (r : Nat)
    (hserves : ∀ h ∈ u.hosts, (nodes h).serves u.ports)
    (htwo : ∀ h ∈ among, ∀ k ∈ among, h ≠ k → u.Differs h (nodes h) → u.Differs k (nodes k) →
      ∃ ls, RefusedRuns u ls ∧ ls.length = 2 ∧ ¬OneEverDown u nodes ls)
    (hothers : ∀ ls s h, (∀ l ∈ ls, l.plays = u.plays) → h ∈ u.hosts → h ∉ among →
      Moment calm Node.forget nodes ls s → (s.nodes h).serves u.ports) :
    (∀ ls, RefusedRuns u ls → ls.length ≤ r → OneEverDown u nodes ls) ↔
      r ≤ 1 ∨ AtMostOneDiffers u among nodes := by
  constructor
  · intro hall
    by_contra hcond
    rw [not_or] at hcond
    rcases hcond with ⟨hr, hmany⟩
    simp only [AtMostOneDiffers, not_forall] at hmany
    rcases hmany with ⟨h, hh, k, hk, hhdiff, hkdiff, hne⟩
    rcases htwo h hh k hk hne hhdiff hkdiff with ⟨ls, hruns, hlength, hdown⟩
    exact hdown (hall ls hruns (by omega))
  · intro hcond ls hruns hlength
    rcases hcond with hr | hone
    · match ls with
      | [] =>
          intro s s' hs
          cases hs
      | [l] => exact one_run_one_down hruns hserves
      | _ :: _ :: _ =>
          simp only [List.length_cons] at hlength
          omega
    · intro s s' hs hs' h hh k hk hdown hdown'
      have hdiff : ∀ {j : H} {m : State H (Node F C) Choice}, j ∈ u.hosts →
          Moment calm Node.forget nodes ls m → ¬(m.nodes j).serves u.ports →
          j ∈ among ∧ u.Differs j (nodes j) := by
        intro j m hj hm hjdown
        constructor
        · by_contra hjamong
          exact hjdown (hothers ls m j hruns.plays hj hjamong hm)
        · by_contra hsame
          exact hjdown (settled_moment hruns.plays (hserves j hj) hsame hm)
      have hhdiff := hdiff hh hs hdown
      have hkdiff := hdiff hk hs' hdown'
      exact hone h hhdiff.1 k hkdiff.1 hhdiff.2 hkdiff.2

/-- An update without other plays takes down hosts before the first it cannot write on. -/
theorem one_ever_down_iff (r : Nat) (hbefore : u.before = [])
    (hserves : ∀ h ∈ u.hosts, (nodes h).serves u.ports) :
    (∀ ls, RefusedRuns u ls → ls.length ≤ r → OneEverDown u nodes ls) ↔
      r ≤ 1 ∨ AtMostOneDiffers u (u.reached nodes) nodes := by
  apply one_ever_down_among r hserves
  · intro h hh k hk hne hhdiff hkdiff
    have hready : ∀ j ∈ u.reached nodes, j ∉ ([] : List H) → Ready u j (nodes j) := by
      intro j hj _
      have hdec : decide (Ready u j (nodes j)) = true :=
        List.mem_takeWhile_imp (p := fun h => decide (Ready u h (nodes h))) hj
      exact of_decide_eq_true hdec
    exact two_runs_two_down (enters_all hbefore) (List.takeWhile_prefix _) hready hh
      List.not_mem_nil hk List.not_mem_nil hne hhdiff hkdiff
  · intro ls s h hplays hh hout hmoment
    by_cases hready : Ready u h (nodes h)
    · -- a host before this one stops the runs
      rcases hdrop : u.hosts.dropWhile fun h => decide (Ready u h (nodes h)) with _ | ⟨k, rest⟩
      · have hall : u.reached nodes = u.hosts := by
          have hsplit := List.takeWhile_append_dropWhile
            (p := fun h => decide (Ready u h (nodes h))) (l := u.hosts)
          rw [hdrop, List.append_nil] at hsplit
          exact hsplit
        exact absurd (hall ▸ hh) hout
      · have hhosts : u.hosts = u.reached nodes ++ k :: rest := by
          have hsplit := List.takeWhile_append_dropWhile
            (p := fun h => decide (Ready u h (nodes h))) (l := u.hosts)
          rw [hdrop] at hsplit
          exact hsplit.symm
        have hblocked : ¬Ready u k (nodes k) := by
          have hhead := List.head?_dropWhile_not (fun h => decide (Ready u h (nodes h))) u.hosts
          rw [hdrop] at hhead
          simpa using hhead
        have hrest : h ∈ rest := by
          rw [hhosts] at hh
          rcases List.mem_append.mp hh with hin | hin
          · exact absurd hin hout
          · rcases List.mem_cons.mp hin with rfl | hin
            · exact absurd hready hblocked
            · exact hin
        exact behind_moment hbefore hplays hhosts (hserves k (by simp [hhosts])) hblocked hrest
          (hserves h hh) hmoment
    · exact blocked_moment hplays (hserves h hh) hready hmoment

/--
An update that starts with another play can lose hosts there, and takes down hosts it
can write on.
-/
theorem one_ever_down_iff_writable (r : Nat) {tasks : List (String × Nat)} {title : String}
    (hbefore : u.before = [tasks ++ [(title, 1)]])
    (hserves : ∀ h ∈ u.hosts, (nodes h).serves u.ports) :
    (∀ ls, RefusedRuns u ls → ls.length ≤ r → OneEverDown u nodes ls) ↔
      r ≤ 1 ∨ AtMostOneDiffers u (u.writable nodes) nodes := by
  have hmem : ∀ h, h ∈ u.writable nodes ↔ h ∈ u.hosts ∧ Ready u h (nodes h) := by
    intro h
    simp [UpdatePlaybook.writable]
  apply one_ever_down_among r hserves
  · intro h hh k hk hne hhdiff hkdiff
    have hbad : ∀ j, Ready u j (nodes j) →
        j ∉ u.hosts.filter fun j => decide (¬Ready u j (nodes j)) := by
      intro j hj hin
      exact (of_decide_eq_true (List.mem_filter.mp hin).2) hj
    rcases (hmem h).mp hh with ⟨hhosts, hhready⟩
    rcases (hmem k).mp hk with ⟨hkhosts, hkready⟩
    refine two_runs_two_down (enters_without hbefore hhosts (hbad h hhready)) List.prefix_rfl ?_
      hhosts (hbad h hhready) hkhosts (hbad k hkready) hne hhdiff hkdiff
    intro j hj hjbad
    by_contra hjready
    exact hjbad (List.mem_filter.mpr ⟨hj, decide_eq_true hjready⟩)
  · intro ls s h hplays hh hout hmoment
    have hblocked : ¬Ready u h (nodes h) := fun hready => hout ((hmem h).mpr ⟨hh, hready⟩)
    exact blocked_moment hplays (hserves h hh) hblocked hmoment

end Iff

end Service
end ClusterPlaybooks
