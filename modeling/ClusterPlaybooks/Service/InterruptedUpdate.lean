import ClusterPlaybooks.Ansible.Outcomes
import ClusterPlaybooks.Service.LiveLink
import ClusterPlaybooks.Service.RepeatedUpdate

/-!
# Histories of interrupted updates

An update that is stopped between its template task and the end of its restart leaves a node with
a file that the process has not read.  Which file a node has and which one it runs is told by what
its calls met in the runs so far: whether the template task wrote the file, and whether the
restart after a change brought the service up.

Main results:

- Theorem {lit}`update_copy`: one run, stopped anywhere, takes the file and the running content of
  a node where the outcomes of its calls say.
- Theorem {lit}`updates_copy`: so does a history of runs.
- Theorem {lit}`behind_replay_iff`: the runs leave a node with a file that its process has not read
  exactly if one of them was cut there and no later one has written another content.
- Theorem {lit}`updates_running_iff` and theorem {lit}`playbook_running_iff`: when a run without
  failures leaves all nodes running the new content.
-/

namespace ClusterPlaybooks
namespace Service

open Ansible

variable {H F C : Type} [DecidableEq H] [DecidableEq F] [DecidableEq C]

/-! ## What the calls of a host have met -/

/-- The call has had its effect. -/
def Choice.effective (x : Choice) : Bool :=
  decide (x.verdict = .ok) || x.applied

/-- The number of calls a host makes before it writes the file. -/
def UpdatePlaybook.callsBefore (u : UpdatePlaybook H F C) : Nat :=
  (u.announcing.flatMap Play.actions).length + 1

/-- In a run with these events, the template task has written the file of the host. -/
def UpdatePlaybook.writes (u : UpdatePlaybook H F C) (h : H) (es : List (Event H Choice Empty)) :
    Bool :=
  ((met h es)[u.callsBefore]?).any Choice.effective

/--
What the restart after a change has come to: {lit}`none` if it was not made, otherwise whether the
service has stayed up.
-/
def UpdatePlaybook.restart (u : UpdatePlaybook H F C) (h : H) (es : List (Event H Choice Empty)) :
    Option Bool :=
  ((met h es)[u.callsBefore + 1]?).bind fun x => if x.effective then some x.alive else none

/-- The content of a file on the disk, and the one that the process has read. -/
structure Copy (C : Type) where
  file : Option C
  loaded : Option C
deriving DecidableEq, Repr

/-- A run with this content changes the file. -/
def Copy.Changes (content : Option C) (writes : Bool) (c : Copy C) : Prop :=
  writes = true ∧ content.isSome = true ∧ c.file ≠ content

instance {content : Option C} {writes : Bool} {c : Copy C} :
    Decidable (c.Changes content writes) :=
  inferInstanceAs (Decidable (_ ∧ _ ∧ _))

/-- The copy after a run with this content. -/
def Copy.after (content : Option C) (writes : Bool) (restart : Option Bool) (c : Copy C) :
    Copy C :=
  if c.Changes content writes then
    { file := content
      loaded :=
        match restart with
        | none => c.loaded
        | some true => content
        | some false => none }
  else c

/-- The file has the content, and the process does not run it. -/
def Copy.Behind (content : Option C) (c : Copy C) : Prop :=
  c.file = content ∧ c.loaded ≠ content

/--
A run with this content is cut between the template task and the end of the restart: it changes
the file, and the process is not restarted or does not stay up.
-/
def Copy.CutBy (content : Option C) (writes : Bool) (restart : Option Bool) (c : Copy C) : Prop :=
  c.Changes content writes ∧ (restart = some false ∨ restart = none ∧ c.loaded ≠ content)

/-- The copy of a node. -/
def Node.copy (d : String) (f : F) (n : Node F C) : Copy C where
  file := n.fileAt d f
  loaded := n.running f

/-- The copy after runs of updates. -/
def replay (h : H) (c : Copy C)
    (runs : List (UpdatePlaybook H F C × List (Event H Choice Empty))) : Copy C :=
  runs.foldl (fun c r => c.after (r.1.render h) (r.1.writes h r.2) (r.1.restart h r.2)) c

/--
One of the runs with this content was cut on the host, and no later one has written another
content there.
-/
def CutOff (h : H) (content : Option C) (c : Copy C)
    (runs : List (UpdatePlaybook H F C × List (Event H Choice Empty))) : Prop :=
  ∃ before r after, runs = before ++ r :: after ∧ r.1.render h = content ∧
    (replay h c before).CutBy content (r.1.writes h r.2) (r.1.restart h r.2) ∧
    ∀ r' ∈ after, r'.1.writes h r'.2 = true → r'.1.render h = content ∨ r'.1.render h = none

/-! ## One run -/

section Run

variable {u : UpdatePlaybook H F C} {h : H} {n n' : Node F C}

omit [DecidableEq H] [DecidableEq F] [DecidableEq C] in
/-- The node after an attempt. -/
theorem attempt_node {effect : Effect H F C} {x : Choice} {v : Verdict}
    (hatt : attempt effect h n x = some (n', v)) :
    n' = if x.effective then (effect h n x).getD n else n := by
  unfold attempt at hatt
  split at hatt
  · rename_i m hm
    cases hatt
    by_cases hx : x.effective = true
    · rw [if_pos hx, hm, if_pos (by simpa [Choice.effective] using hx)]
      rfl
    · rw [if_neg hx, if_neg (by simpa [Choice.effective] using hx)]
  · rename_i hm
    split at hatt
    · cases hatt
    · cases hatt
      simp [hm]

omit [DecidableEq H] in
/-- The node after the call that writes the file. -/
theorem write_node {x : Choice} {v : Verdict} (hrun : u.write.run h n x = some (n', v)) :
    n' = if x.effective then u.wrote h n else n := by
  rw [Action.run_of_cond (a := u.write) x rfl rfl] at hrun
  exact attempt_node hrun

omit [DecidableEq H] in
/-- A file that cannot be rendered is not written. -/
theorem wrote_of_none (hnone : u.render h = none) : u.wrote h n = n := by
  simp [UpdatePlaybook.wrote, template, hnone]

omit [DecidableEq H] in
/-- Writing the file leaves the process alone. -/
theorem wrote_process : (u.wrote h n).process = n.process := by
  unfold UpdatePlaybook.wrote template
  split <;> rfl

omit [DecidableEq H] in
/-- It leaves the link alone. -/
theorem wrote_live : (u.wrote h n).live = n.live := by
  unfold UpdatePlaybook.wrote template
  split <;> rfl

omit [DecidableEq H] in
/-- A node that was written on has the new content and runs what it ran. -/
theorem wrote_copy (hready : Ready u h n) :
    (u.wrote h n).copy u.dir u.file = ⟨u.render h, n.running u.file⟩ := by
  have hfile : (u.wrote h n).fileAt u.dir u.file = u.render h :=
    not_differs_iff.mp (wrote_same hready)
  rw [Node.copy, hfile, Node.running, wrote_process]
  rfl

omit [DecidableEq H] in
/-- The restart after the template task, on a node that was written on. -/
theorem restart_node {x : Choice} {v : Verdict} (hready : Ready u h n)
    (hrun : (callWhen (whenChanged u.reg) restarted).run h (u.wrote h n) x = some (n', v)) :
    n' = if u.Differs h n ∧ x.effective = true then (u.wrote h n).startService x.alive x.ports
      else u.wrote h n := by
  have hcond : (callWhen (whenChanged u.reg) restarted).cond h (u.wrote h n) =
      some (decide (u.Differs h n)) := wrote_changed hready
  by_cases hdiff : u.Differs h n
  · rw [decide_eq_true hdiff] at hcond
    rw [Action.run_of_cond x hcond rfl] at hrun
    have hatt : attempt restarted h (u.wrote h n) x = some (n', v) := hrun
    simpa [hdiff, restarted] using attempt_node hatt
  · rw [decide_eq_false hdiff] at hcond
    rw [Action.run_of_skip x hcond] at hrun
    cases hrun
    rw [if_neg fun hboth => hdiff hboth.1]

omit [DecidableEq H] [DecidableEq F] [DecidableEq C] in
/-- Without a result of the template task the restart is not made. -/
theorem restart_node_of_none {x : Choice} {v : Verdict} (hreg : n.regs u.reg = none)
    (hrun : (callWhen (whenChanged u.reg) restarted).run h n x = some (n', v)) : n' = n := by
  have hcond : (callWhen (whenChanged (H := H) u.reg) restarted).cond h n = none := by
    simp [callWhen, whenChanged, hreg]
  rw [Action.run, hcond] at hrun
  cases hrun
  rfl

omit [DecidableEq H] [DecidableEq F] [DecidableEq C] in
/-- A started service runs what is on the disk. -/
theorem startService_copy {d : String} {f : F} (hlive : n.live = some d) (alive : Bool)
    (ports : List String) :
    (n.startService alive ports).copy d f =
      ⟨n.fileAt d f, if alive then n.fileAt d f else none⟩ := by
  cases alive with
  | false => rfl
  | true => simp [Node.copy, Node.startService, Node.running, Node.disk, Node.fileAt, hlive]

omit [DecidableEq H] [DecidableEq F] [DecidableEq C] in
/-- The checks after the restart change nothing. -/
theorem makeEach_portCheck {xs : List Choice}
    (hmake : makeEach h ((portCheck u.ports (whenChanged u.reg)).flatMap Task.items) xs n =
      some n') : n' = n :=
  makeEach_of_keeps (fun a ha _ => portCheck_keep a ha) hmake

omit [DecidableEq H] in
/-- What the calls after the template task make of a node that was written on. -/
theorem makeEach_copy_of_ready (hlive : n.live = some u.dir) (hready : Ready u h n)
    {xs : List Choice}
    (hmake : makeEach h (callWhen (whenChanged u.reg) restarted ::
      (portCheck u.ports (whenChanged u.reg)).flatMap Task.items) xs (u.wrote h n) = some n') :
    n'.copy u.dir u.file = (n.copy u.dir u.file).after (u.render h) true
      ((xs[0]?).bind fun x => if x.effective then some x.alive else none) := by
  have hsome : (u.render h).isSome = true := hready.2
  have hwritten := wrote_copy hready
  cases xs with
  | nil =>
      cases hmake
      rw [hwritten]
      by_cases hsame : n.fileAt u.dir u.file = u.render h
      · simp [Copy.after, Copy.Changes, Node.copy, hsame]
      · simp [Copy.after, Copy.Changes, Node.copy, hsame, hsome]
  | cons x xs =>
      rw [makeEach_cons, Option.bind_eq_some_iff] at hmake
      rcases hmake with ⟨⟨m, v⟩, hrestart, hchecks⟩
      rw [makeEach_portCheck hchecks, restart_node hready hrestart]
      by_cases hsame : n.fileAt u.dir u.file = u.render h
      · have hnot : ¬u.Differs h n := not_differs_iff.mpr hsame
        rw [if_neg fun hboth => hnot hboth.1, hwritten]
        simp [Copy.after, Copy.Changes, Node.copy, hsame]
      · have hdiff : u.Differs h n := hsame
        by_cases hx : x.effective = true
        · have hfile : (u.wrote h n).fileAt u.dir u.file = u.render h :=
            not_differs_iff.mp (wrote_same hready)
          rw [if_pos ⟨hdiff, hx⟩, startService_copy (wrote_live.trans hlive), hfile]
          cases halive : x.alive <;>
            simp [Copy.after, Copy.Changes, Node.copy, hsame, hsome, hx, halive]
        · rw [if_neg fun hboth => hx hboth.2, hwritten]
          simp [Copy.after, Copy.Changes, Node.copy, hsame, hsome, hx]

omit [DecidableEq H] [DecidableEq F] [DecidableEq C] in
/-- Without a result of the template task the calls after it change nothing. -/
theorem makeEach_of_none (hreg : n.regs u.reg = none) {xs : List Choice}
    (hmake : makeEach h (callWhen (whenChanged u.reg) restarted ::
      (portCheck u.ports (whenChanged u.reg)).flatMap Task.items) xs n = some n') : n' = n := by
  cases xs with
  | nil =>
      cases hmake
      rfl
  | cons x xs =>
      rw [makeEach_cons, Option.bind_eq_some_iff] at hmake
      rcases hmake with ⟨⟨m, v⟩, hrestart, hchecks⟩
      rw [makeEach_portCheck hchecks]
      exact restart_node_of_none hreg hrestart

omit [DecidableEq H] in
/-- What the calls from the template task on make of a node. -/
theorem makeEach_copy (hlive : n.live = some u.dir) (hdir : (n.dirs u.dir).isSome = true)
    (hreg : n.regs u.reg = none) {xs : List Choice}
    (hmake : makeEach h (u.write :: callWhen (whenChanged u.reg) restarted ::
      (portCheck u.ports (whenChanged u.reg)).flatMap Task.items) xs n = some n') :
    n'.copy u.dir u.file = (n.copy u.dir u.file).after (u.render h) ((xs[0]?).any Choice.effective)
      ((xs[1]?).bind fun x => if x.effective then some x.alive else none) := by
  cases xs with
  | nil =>
      cases hmake
      simp [Copy.after, Copy.Changes]
  | cons x xs =>
      rw [makeEach_cons, Option.bind_eq_some_iff] at hmake
      rcases hmake with ⟨⟨m, v⟩, hwrite, hrest⟩
      have hm := write_node hwrite
      by_cases hwritten : x.effective = true ∧ (u.render h).isSome = true
      · rw [hwritten.1, if_pos rfl] at hm
        rw [hm] at hrest
        have hcopy := makeEach_copy_of_ready hlive ⟨hdir, hwritten.2⟩ hrest
        simpa [hwritten.1] using hcopy
      · -- nothing was written, so nothing is restarted
        have hm : m = n := by
          rw [hm]
          by_cases hx : x.effective = true
          · have hnone : u.render h = none := by
              simpa [hx] using hwritten
            rw [if_pos hx, wrote_of_none hnone]
          · rw [if_neg hx]
        rw [hm] at hrest
        rw [makeEach_of_none hreg hrest]
        refine (if_neg fun hboth => hwritten ⟨?_, hboth.2.1⟩).symm
        simpa using hboth.1

/-- The calls an update makes on one of its hosts. -/
theorem callsOn_update (hh : h ∈ u.hosts) :
    callsOn h u.plays = (u.announcing.flatMap Play.actions ++ [call noEffect]) ++
      (u.write :: callWhen (whenChanged u.reg) restarted ::
        (portCheck u.ports (whenChanged u.reg)).flatMap Task.items) := by
  have hbefore : callsOn h u.announcing = u.announcing.flatMap Play.actions := by
    refine List.flatMap_congr fun p hp => ?_
    rcases List.mem_map.mp hp with ⟨tasks, _, rfl⟩
    exact if_pos hh
  have hrolling : callsOn h [u.rolling] = call noEffect :: u.write ::
      callWhen (whenChanged u.reg) restarted ::
        (portCheck u.ports (whenChanged u.reg)).flatMap Task.items := by
    have hif : callsOn h [u.rolling] = u.rolling.actions ++ [] :=
      congrArg (· ++ []) (if_pos hh)
    rw [hif, List.append_nil]
    rfl
  have hsplit : callsOn h u.plays = callsOn h u.announcing ++ callsOn h [u.rolling] :=
    List.flatMap_append
  rw [hsplit, hbefore, hrolling]
  simp

/-- One run of an update, stopped anywhere. -/
theorem update_copy {nodes : H → Node F C} {es : List (Event H Choice Empty)}
    {s : State H (Node F C) Choice} (hh : h ∈ u.hosts) (hlive : (nodes h).live = some u.dir)
    (hdir : ((nodes h).dirs u.dir).isSome = true)
    (hrun : run calm (launch Node.forget u.plays nodes) es = some s) :
    (s.nodes h).copy u.dir u.file =
      ((nodes h).copy u.dir u.file).after (u.render h) (u.writes h es) (u.restart h es) := by
  have hmake := run_makeEach hrun h
  rw [callsOn_update hh] at hmake
  rcases makeEach_append hmake with ⟨m, hm, hrest⟩
  have hinert : ∀ a ∈ u.announcing.flatMap Play.actions ++ [call noEffect],
      ∀ I : Node F C → Prop, a.Keeps h I := by
    intro a ha I
    rcases List.mem_append.mp ha with ha | ha
    · rcases List.mem_flatMap.mp ha with ⟨p, hp, ha⟩
      exact announcing_keep u hp a ha
    · rw [List.mem_singleton.mp ha]
      exact noEffect_keeps
  have hsame : m = (nodes h).forget := makeEach_of_keeps hinert hm
  subst hsame
  have hlength : (u.announcing.flatMap Play.actions ++ [call noEffect]).length =
      u.callsBefore := by
    simp [UpdatePlaybook.callsBefore]
  rw [hlength] at hrest
  have hcopy := makeEach_copy (n := (nodes h).forget) hlive hdir rfl hrest
  rw [hcopy, List.getElem?_drop, List.getElem?_drop]
  rfl

end Run

/-! ## Histories -/

section History

variable {h : H} {d : String} {f : F} {nodes nodes' : H → Node F C}

/-- A run of an update as a part of a history. -/
def updateLaunch (r : UpdatePlaybook H F C × List (Event H Choice Empty)) :
    Launch H (Node F C) Choice Empty where
  plays := r.1.plays
  events := r.2

/-- Updates remove no directory. -/
theorem update_dirs {u : UpdatePlaybook H F C} {es : List (Event H Choice Empty)}
    {s : State H (Node F C) Choice} (hdir : ((nodes h).dirs d).isSome = true)
    (hrun : run calm (launch Node.forget u.plays nodes) es = some s) :
    ((s.nodes h).dirs d).isSome = true := by
  have hkeep : ∀ p ∈ u.plays, ∀ k ∈ p.hosts, ∀ a ∈ p.actions,
      a.Keeps k fun n => k = h → (n.dirs d).isSome = true := by
    intro p hp k _ a ha
    apply Action.Keeps.imp
    refine update_keep u ?_ ?_ p hp a ha
    · exact call_keeps fun n x n' hn heff => template_keepsDirs.dirs k n x n' heff d hn
    · exact callWhen_keeps fun n x n' hn _ heff => restarted_keepsDirs.dirs k n x n' heff d hn
  refine run_keeps (fun _ => stable_calm _) hkeep ?_ hrun h rfl
  rintro k rfl
  exact hdir

/-- The copy of a node after a history of updates. -/
theorem updates_copy {runs : List (UpdatePlaybook H F C × List (Event H Choice Empty))}
    (hruns : ∀ r ∈ runs, h ∈ r.1.hosts ∧ r.1.dir = d ∧ r.1.file = f)
    (hlive : (nodes h).live = some d) (hdir : ((nodes h).dirs d).isSome = true)
    (hall : runAll calm Node.forget nodes (runs.map updateLaunch) = some nodes') :
    (nodes' h).copy d f = replay h ((nodes h).copy d f) runs := by
  induction runs generalizing nodes with
  | nil =>
      cases hall
      rfl
  | cons r runs ih =>
      rcases hruns r List.mem_cons_self with ⟨hh, rfl, rfl⟩
      simp only [List.map_cons, runAll, Option.bind_eq_some_iff] at hall
      rcases hall with ⟨s, hrun, hrest⟩
      change run calm (launch Node.forget r.1.plays nodes) r.2 = some s at hrun
      have hlive' : (s.nodes h).live = some r.1.dir := by
        have hone : runAll calm Node.forget nodes [updateLaunch r] = some s.nodes := by
          change (run calm (launch Node.forget r.1.plays nodes) r.2).bind
            (fun s => some s.nodes) = _
          rw [hrun]
          rfl
        rw [updates_live (fun l hl => ⟨r.1, by rw [List.mem_singleton.mp hl]; rfl⟩) hone h, hlive]
      rw [ih (fun r' hr' => hruns r' (List.mem_cons_of_mem r hr')) hlive' (update_dirs hdir hrun)
        hrest, update_copy hh hlive hdir hrun]
      rfl

omit [DecidableEq F] in
/-- A run after others. -/
theorem replay_concat (c : Copy C)
    (runs : List (UpdatePlaybook H F C × List (Event H Choice Empty)))
    (r : UpdatePlaybook H F C × List (Event H Choice Empty)) :
    replay h c (runs ++ [r]) =
      (replay h c runs).after (r.1.render h) (r.1.writes h r.2) (r.1.restart h r.2) := by
  simp [replay]

/-- A run that changes the file leaves the node behind exactly if it is cut. -/
theorem behind_after_iff {content : Option C} {writes : Bool} {restart : Option Bool} {c : Copy C}
    (hchanges : c.Changes content writes) :
    (c.after content writes restart).Behind content ↔ c.CutBy content writes restart := by
  have hnone : (none : Option C) ≠ content := by
    rintro rfl
    cases hchanges.2.1
  unfold Copy.after Copy.CutBy Copy.Behind
  rw [if_pos hchanges]
  rcases restart with - | (- | -) <;> simp [hchanges, hnone]

/-- A run that writes nothing new leaves a node as it is. -/
theorem after_of_same {content content' : Option C} {writes : Bool} {restart : Option Bool}
    {c : Copy C} (hfile : c.file = content)
    (hwrites : writes = true → content' = content ∨ content' = none) :
    c.after content' writes restart = c := by
  refine if_neg fun hchanges => ?_
  rcases hwrites hchanges.1 with rfl | rfl
  · exact hchanges.2.2 hfile
  · cases hchanges.2.1

omit [DecidableEq F] in
/-- A node that is behind stays so until a run writes another content. -/
theorem replay_of_same {content : Option C} {c : Copy C}
    {runs : List (UpdatePlaybook H F C × List (Event H Choice Empty))} (hfile : c.file = content)
    (hwrites : ∀ r ∈ runs, r.1.writes h r.2 = true →
      r.1.render h = content ∨ r.1.render h = none) :
    replay h c runs = c := by
  induction runs with
  | nil => rfl
  | cons r runs ih =>
      have hsame : c.after (r.1.render h) (r.1.writes h r.2) (r.1.restart h r.2) = c :=
        after_of_same hfile (hwrites r List.mem_cons_self)
      have hrest := ih fun r' hr' => hwrites r' (List.mem_cons_of_mem r hr')
      unfold replay at hrest ⊢
      rw [List.foldl_cons, hsame, hrest]

omit [DecidableEq F] in
/-- Runs leave a node behind exactly if they cut it off. -/
theorem behind_replay_iff {content : Option C} {c : Copy C}
    {runs : List (UpdatePlaybook H F C × List (Event H Choice Empty))}
    (hstart : ¬c.Behind content) :
    (replay h c runs).Behind content ↔ CutOff h content c runs := by
  constructor
  · intro hbehind
    induction runs using List.reverseRecOn with
    | nil => exact absurd hbehind hstart
    | append_singleton runs r ih =>
        rw [replay_concat] at hbehind
        by_cases hchanges : (replay h c runs).Changes (r.1.render h) (r.1.writes h r.2)
        · -- the last run has written the content
          have hcontent : r.1.render h = content := by
            have hfile := hbehind.1
            unfold Copy.after at hfile
            rw [if_pos hchanges] at hfile
            exact hfile
          refine ⟨runs, r, [], rfl, hcontent, ?_, by simp⟩
          rw [hcontent] at hbehind hchanges
          exact (behind_after_iff hchanges).mp hbehind
        · unfold Copy.after at hbehind
          rw [if_neg hchanges] at hbehind
          rcases ih hbehind with ⟨before, r₀, after, rfl, hrender, hcut, hlater⟩
          refine ⟨before, r₀, after ++ [r], by simp, hrender, hcut, ?_⟩
          intro r' hr' hwrites
          rcases List.mem_append.mp hr' with hr' | hr'
          · exact hlater r' hr' hwrites
          · rw [List.mem_singleton.mp hr'] at hwrites ⊢
            by_contra hother
            rw [not_or] at hother
            exact hchanges ⟨hwrites, Option.isSome_iff_ne_none.mpr hother.2,
              fun hfile => hother.1 (hfile.symm.trans hbehind.1)⟩
  · rintro ⟨before, r, after, rfl, rfl, hcut, hlater⟩
    have hbehind := (behind_after_iff hcut.1).mpr hcut
    have hsplit : replay h c (before ++ r :: after) = replay h
        ((replay h c before).after (r.1.render h) (r.1.writes h r.2) (r.1.restart h r.2))
        after := by
      simp [replay]
    rw [hsplit, replay_of_same hbehind.1 hlater]
    exact hbehind

/--
After a history of updates, a run without failures leaves all nodes running the new content
exactly if no node was cut off with it.
-/
theorem updates_running_iff {u : UpdatePlaybook H F C}
    {runs : List (UpdatePlaybook H F C × List (Event H Choice Empty))}
    (hruns : ∀ r ∈ runs, r.1.hosts = u.hosts ∧ r.1.dir = u.dir ∧ r.1.file = u.file)
    (hlive : ∀ h ∈ u.hosts, (nodes h).live = some u.dir)
    (hdir : ∀ h ∈ u.hosts, ((nodes h).dirs u.dir).isSome = true)
    (hloaded : ∀ h ∈ u.hosts, (nodes h).process = some (nodes h).disk)
    (hall : runAll calm Node.forget nodes (runs.map updateLaunch) = some nodes')
    {es : List (Event H Choice Empty)} {s : State H (Node F C) Choice}
    (hrun : run calm (launch Node.forget u.plays nodes') es = some s)
    (hsucc : s.succeeded = true) :
    (∀ h ∈ u.hosts, (s.nodes h).running u.file = u.render h) ↔
      ∀ h ∈ u.hosts, ¬CutOff h (u.render h) ((nodes h).copy u.dir u.file) runs := by
  have hlive' : ∀ h ∈ u.hosts, (nodes' h).live = some u.dir := by
    intro h hh
    have hls : ∀ l ∈ runs.map updateLaunch, ∃ u : UpdatePlaybook H F C, l.plays = u.plays := by
      intro l hl
      rcases List.mem_map.mp hl with ⟨r, _, rfl⟩
      exact ⟨r.1, rfl⟩
    rw [updates_live hls hall h]
    exact hlive h hh
  rw [update_running_iff hlive' hrun hsucc]
  refine forall₂_congr fun h hh => ?_
  -- before the first run the process runs what is on the disk
  have hstart : ¬((nodes h).copy u.dir u.file).Behind (u.render h) := by
    rintro ⟨hfile, hrunning⟩
    refine hrunning ?_
    rw [← hfile]
    simp [Node.copy, Node.running, hloaded h hh, Node.disk, Node.fileAt, hlive h hh]
  have hcopy : (nodes' h).copy u.dir u.file = replay h ((nodes h).copy u.dir u.file) runs := by
    refine updates_copy (fun r hr => ?_) (hlive h hh) (hdir h hh) hall
    rcases hruns r hr with ⟨hhosts, hd, hf⟩
    exact ⟨hhosts ▸ hh, hd, hf⟩
  rw [← behind_replay_iff hstart, ← hcopy, Copy.Behind, not_and, not_not]
  rfl

/--
The same for the runs of a playbook with variables of its own in each run, which always write the
same file of the same hosts.
-/
theorem playbook_running_iff {V : Type} {f : V → UpdatePlaybook H F C}
    {plays : V → List (Play H (Node F C) Choice)} (hplays : ∀ w, (f w).plays = plays w) {v : V}
    {runs : List (V × List (Event H Choice Empty))}
    (hruns : ∀ r ∈ runs, (f r.1).hosts = (f v).hosts ∧ (f r.1).dir = (f v).dir ∧
      (f r.1).file = (f v).file)
    (hlive : ∀ h ∈ (f v).hosts, (nodes h).live = some (f v).dir)
    (hdir : ∀ h ∈ (f v).hosts, ((nodes h).dirs (f v).dir).isSome = true)
    (hloaded : ∀ h ∈ (f v).hosts, (nodes h).process = some (nodes h).disk)
    (hall : runAll calm Node.forget nodes (runs.map fun r => ⟨plays r.1, r.2⟩) = some nodes')
    {es : List (Event H Choice Empty)} {s : State H (Node F C) Choice}
    (hrun : run calm (launch Node.forget (plays v) nodes') es = some s)
    (hsucc : s.succeeded = true) :
    (∀ h ∈ (f v).hosts, (s.nodes h).running (f v).file = (f v).render h) ↔
      ∀ h ∈ (f v).hosts, ¬CutOff h ((f v).render h) ((nodes h).copy (f v).dir (f v).file)
        (runs.map fun r => (f r.1, r.2)) := by
  have hlaunches : (runs.map fun r => (f r.1, r.2)).map updateLaunch =
      runs.map fun r => ⟨plays r.1, r.2⟩ := by
    rw [List.map_map]
    refine List.map_congr_left fun r _ => ?_
    simp only [Function.comp_apply, updateLaunch, hplays]
  rw [← hlaunches] at hall
  rw [← hplays] at hrun
  refine updates_running_iff ?_ hlive hdir hloaded hall hrun hsucc
  intro r hr
  rcases List.mem_map.mp hr with ⟨w, hw, rfl⟩
  exact hruns w hw

end History

end Service
end ClusterPlaybooks
