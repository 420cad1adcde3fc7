import ClusterPlaybooks.Ansible.History
import ClusterPlaybooks.Ansible.Schedule
import ClusterPlaybooks.Service.Availability

/-!
# Configuration updates

A configuration update writes one file on the nodes, one node after the other.  The
template call registers whether the file changed, and only nodes on which it did are
restarted and checked.  What a node runs after the update therefore depends on what
an earlier, interrupted run left on its disk.

Main results:

- Theorem {lit}`update_running`: after a run without failures a node runs the new
  content if its file changed in this run, and what it ran before if not.
- Theorem {lit}`update_running_iff`: all nodes run the new content exactly if those that
  had it on the disk already ran it.
- Theorem {lit}`updates_live`: updates leave the link alone.
-/

namespace ClusterPlaybooks
namespace Service

open Ansible

variable {H F C : Type}

/-! ## The playbook -/

/-- A playbook that updates one file. -/
structure UpdatePlaybook (H F C : Type) where
  hosts : List H
  nodup : hosts.Nodup
  /-- plays on all hosts before the rolling one, as lists of inert tasks -/
  before : List (List (String × Nat))
  title : String
  dir : String
  file : F
  render : H → Option C
  reg : String
  serviceName : String
  ports : List String
  ports_ne : ports ≠ []

section Plays

variable [DecidableEq F] [DecidableEq C] (u : UpdatePlaybook H F C)

/-- The call that writes the file. -/
def UpdatePlaybook.write : Action H (Node F C) Choice :=
  call (template u.dir u.file u.render (some u.reg))

/-- The tasks of the rolling play. -/
def UpdatePlaybook.tasks : List (Task H (Node F C) Choice) :=
  [gatherFacts, { name := u.title, items := [u.write] }] ++
    serviceState u.serviceName .restarted (whenChanged u.reg) ::
    portCheck u.ports (whenChanged u.reg)

/-- The rolling play. -/
def UpdatePlaybook.rolling : Play H (Node F C) Choice :=
  oneByOne u.hosts u.nodup u.tasks

/-- A play of inert tasks. -/
def UpdatePlaybook.announce (tasks : List (String × Nat)) : Play H (Node F C) Choice :=
  onAll u.hosts u.nodup (tasks.map fun t => inert t.1 t.2)

/-- The plays before the rolling one. -/
def UpdatePlaybook.announcing : List (Play H (Node F C) Choice) :=
  u.before.map u.announce

/-- The plays of the playbook. -/
def UpdatePlaybook.plays : List (Play H (Node F C) Choice) :=
  u.announcing ++ [u.rolling]

omit [DecidableEq F] [DecidableEq C] in
/-- Inert tasks keep everything. -/
theorem inert_keep (tasks : List (String × Nat)) {h : H} {I : Node F C → Prop} :
    TasksKeep h I (tasks.map fun t => inert t.1 t.2) := by
  induction tasks with
  | nil => simp
  | cons t ts ih => simp [ih]

omit [DecidableEq F] [DecidableEq C] in
/-- The plays before the rolling one keep everything. -/
theorem announcing_keep {p : Play H (Node F C) Choice} (hp : p ∈ u.announcing) {h : H}
    {I : Node F C → Prop} : ∀ a ∈ p.actions, a.Keeps h I := by
  rcases List.mem_map.mp hp with ⟨tasks, _, rfl⟩
  exact inert_keep tasks

/-- The calls of the playbook: harmless ones, the one that writes the file, and the restart. -/
theorem update_calls {p : Play H (Node F C) Choice} (hp : p ∈ u.plays)
    {a : Action H (Node F C) Choice} (ha : a ∈ p.actions) :
    (∀ h I, a.Keeps h I) ∨ a = u.write ∨ a = callWhen (whenChanged u.reg) restarted := by
  rcases List.mem_append.mp hp with hp | hp
  · exact Or.inl fun h I => announcing_keep u hp a ha
  cases List.mem_singleton.mp hp
  have hmem : a ∈ u.tasks.flatMap Task.items := ha
  rw [UpdatePlaybook.tasks, List.flatMap_append, List.flatMap_cons] at hmem
  rcases List.mem_append.mp hmem with hmem | hmem
  · simp only [List.flatMap_cons, List.flatMap_nil, List.mem_append, List.mem_singleton,
      List.append_nil] at hmem
    rcases hmem with hgather | rfl
    · exact Or.inl fun h I => gatherFacts_keeps a hgather
    · exact Or.inr (Or.inl rfl)
  rcases List.mem_append.mp hmem with hmem | hmem
  · exact Or.inr (Or.inr (List.mem_singleton.mp hmem))
  · exact Or.inl fun h I => portCheck_keep a hmem

/-- The playbook keeps what writing the file and the restart keep. -/
theorem update_keep {h : H} {I : Node F C → Prop} (hwrite : u.write.Keeps h I)
    (hrestart : (callWhen (whenChanged u.reg) restarted).Keeps h I) :
    ∀ p ∈ u.plays, ∀ a ∈ p.actions, a.Keeps h I := by
  intro p hp a ha
  rcases update_calls u hp ha with hkeeps | rfl | rfl
  · exact hkeeps h I
  · exact hwrite
  · exact hrestart

/-- An update is a rolling playbook. -/
theorem update_gentle {D : H → Prop} :
    ∀ p ∈ u.plays, Gentle (calm (σ := Node F C)) u.ports D p := by
  intro p hp
  rcases List.mem_append.mp hp with hp | hp
  · rcases List.mem_map.mp hp with ⟨tasks, _, rfl⟩
    exact gentle_onAll fun h _ => inert_keep tasks
  · cases List.mem_singleton.mp hp
    refine gentle_oneByOne undisturbed_calm whenChanged_byRegisters
      [gatherFacts, { name := u.title, items := [u.write] }] fun h _ => ?_
    have hwrite : u.write.Keeps h (Node.serves u.ports) := template_ports.call_keeps
    simp [hwrite]

end Plays

/-! ## What a node runs after an update -/

section Running

variable [DecidableEq F] [DecidableEq C] {u : UpdatePlaybook H F C} {h : H} {n₀ : Node F C}
variable {Q Q' : C → Node F C → Prop}

/--
A node on its way through the update, which it entered as {lit}`n₀`: its file had the
new content already and it runs what it ran, or the file changed and {lit}`Q` holds.
-/
def Updating (u : UpdatePlaybook H F C) (h : H) (n₀ : Node F C) (Q : C → Node F C → Prop)
    (n : Node F C) : Prop :=
  ∃ c, u.render h = some c ∧
    ((n₀.fileAt u.dir u.file = some c ∧ (n.regs u.reg).map Registered.changed = some false ∧
        n.running u.file = n₀.running u.file) ∨
      (n₀.fileAt u.dir u.file ≠ some c ∧ (n.regs u.reg).map Registered.changed = some true ∧ Q c n))

/-- The template call puts the new content on the disk and registers whether it is new. -/
theorem write_gives (hlive : n₀.live = some u.dir) :
    u.write.Gives h (fun n => n = n₀)
      (Updating u h n₀ fun c n => n.disk u.file = some c) := by
  apply call_gives
  rintro n x n' rfl heff
  rcases template_eq_some heff with ⟨dir, c, hdir, hc, rfl⟩
  have hfile : n.fileAt u.dir u.file = dir.files u.file := by simp [Node.fileAt, hdir]
  refine ⟨c, hc, ?_⟩
  by_cases hsame : dir.files u.file = some c
  · left
    refine ⟨hfile.trans hsame, ?_, rfl⟩
    simp [Node.register, hsame]
  · right
    refine ⟨hfile ▸ hsame, ?_, ?_⟩
    · simp [Node.register, hsame]
    · beta_reduce
      rw [Node.register_disk, Node.disk_write_live _ c hlive hdir, Function.update_self]

omit [DecidableEq F] [DecidableEq C] in
/-- A call that depends on the change only happens to nodes whose file changed. -/
theorem whenChanged_gives {effect : Effect H F C}
    (hregs : ∀ n x n', effect h n x = some n' → n'.regs = n.regs)
    (hQ : ∀ c n x n', Q c n → effect h n x = some n' → Q' c n') :
    (callWhen (whenChanged u.reg) effect).Gives h (Updating u h n₀ Q) (Updating u h n₀ Q') := by
  apply callWhen_gives
  · rintro n ⟨c, hc, hsame | ⟨_, hreg, _⟩⟩ hcond
    · exact ⟨c, hc, Or.inl hsame⟩
    · simp [whenChanged, hreg] at hcond
  · rintro n x n' ⟨c, hc, ⟨_, hreg, _⟩ | ⟨hdiff, hreg, hq⟩⟩ hcond heff
    · simp [whenChanged, hreg] at hcond
    · exact ⟨c, hc, Or.inr ⟨hdiff, hregs n x n' heff ▸ hreg,
        hQ c n x n' hq heff⟩⟩

omit [DecidableEq F] [DecidableEq C] in
/-- A restart reads the disk. -/
theorem restart_gives :
    (callWhen (whenChanged u.reg) restarted).Gives h
      (Updating u h n₀ fun c n => n.disk u.file = some c)
      (Updating u h n₀ fun c n => n.Coherent ∧ ∀ p, n.process = some p → p u.file = some c) := by
  apply whenChanged_gives
  · intro n x n' heff
    cases heff
    rfl
  · intro c n x n' hdisk heff
    cases heff
    cases halive : x.alive with
    | false => simp [Node.startService, Node.Coherent]
    | true =>
        refine ⟨fun _ => rfl, ?_⟩
        rintro p hp
        cases hp
        exact hdisk

omit [DecidableEq F] [DecidableEq C] in
/-- An open port shows that the restarted process is running. -/
theorem check_gives {port : String} :
    (callWhen (whenChanged u.reg) (waitFor port)).Gives h
      (Updating u h n₀ fun c n => n.Coherent ∧ ∀ p, n.process = some p → p u.file = some c)
      (Updating u h n₀ fun c n => n.running u.file = some c) := by
  apply whenChanged_gives
  · intro n x n' heff
    unfold waitFor at heff
    split at heff
    · cases heff
      rfl
    · cases heff
  · rintro c n x n' ⟨hcoherent, hprocess⟩ heff
    unfold waitFor at heff
    split at heff
    · rename_i hport
      cases heff
      rcases Option.isSome_iff_exists.mp (hcoherent (List.ne_nil_of_mem hport)) with ⟨p, hp⟩
      simp [Node.running, hp, hprocess p hp]
    · cases heff

/-- What a node that gets through the update runs. -/
theorem update_ensures (hlive : n₀.live = some u.dir) :
    Ensures calm h (fun n => n = n₀) (u.tasks.flatMap Task.items)
      (Updating u h n₀ fun c n => n.running u.file = some c) := by
  have hstable : ∀ P : Node F C → Prop, Stable calm P := stable_calm
  rcases List.exists_cons_of_ne_nil u.ports_ne with ⟨port, ports, hports⟩
  rw [UpdatePlaybook.tasks, hports]
  refine Ensures.cons (a := call noEffect) (hstable _) (hstable _) noEffect_keeps.gives ?_
  refine Ensures.cons (a := u.write) (hstable _) (hstable _) (write_gives hlive) ?_
  refine Ensures.cons (a := callWhen (whenChanged u.reg) restarted) (hstable _) (hstable _)
    restart_gives ?_
  refine Ensures.cons (a := callWhen (whenChanged u.reg) (waitFor port)) (hstable _) (hstable _)
    check_gives ?_
  exact Ensures.of_keeps (hstable _) portCheck_keep

/-- The nodes of the playbook as a run finds them. -/
def Entering (u : UpdatePlaybook H F C) (nodes : H → Node F C) : H → Node F C → Prop :=
  fun h n => h ∈ u.hosts → n = (nodes h).forget

/-- The rolling play with its annotation. -/
def updateStage (u : UpdatePlaybook H F C) (nodes : H → Node F C) :
    Stage H (Node F C) Choice where
  play := u.rolling
  pre := Entering u nodes
  inv := fun _ _ => True
  post := fun h n => h ∈ u.hosts →
    Updating u h (nodes h).forget (fun c n => n.running u.file = some c) n

variable {nodes : H → Node F C}

/-- The annotation is valid. -/
theorem updateStage_valid (hlive : ∀ h ∈ u.hosts, (nodes h).live = some u.dir) :
    (updateStage u nodes).Valid calm where
  stable_pre := fun _ => stable_calm _
  stable_inv := fun _ => stable_calm _
  stable_post := fun _ => stable_calm _
  pre_inv := fun _ _ _ => trivial
  guards := fun _ _ _ _ _ _ _ _ _ _ _ _ _ _ _ => trivial
  ensures := by
    intro h _ n n' hpre hpath hh
    have hlive' : (nodes h).forget.live = some u.dir := hlive h hh
    exact update_ensures hlive' n n' (hpre hh) hpath
  frame := fun _ hnot _ _ hh => absurd hh hnot

/-- What a node runs after an update without failures. -/
theorem update_running [DecidableEq H] {es : List (Event H Choice Empty)}
    {s : State H (Node F C) Choice} (hlive : ∀ h ∈ u.hosts, (nodes h).live = some u.dir)
    (hrun : run calm (launch Node.forget u.plays nodes) es = some s)
    (hsucc : s.succeeded = true) (hh : h ∈ u.hosts) :
    Updating u h (nodes h).forget (fun c n => n.running u.file = some c) (s.nodes h) := by
  have hvalid : ∀ st ∈ u.announcing.map (fun p => Stage.steady p (Entering u nodes)) ++
      [updateStage u nodes], st.Valid calm := by
    intro st hst
    rcases List.mem_append.mp hst with hst | hst
    · rcases List.mem_map.mp hst with ⟨p, hp, rfl⟩
      exact Stage.steady_valid (fun _ => stable_calm _) fun h _ => announcing_keep u hp
    · cases List.mem_singleton.mp hst
      exact updateStage_valid hlive
  have hplays : (u.announcing.map (fun p => Stage.steady p (Entering u nodes)) ++
      [updateStage u nodes]).map Stage.play = u.plays := by
    rw [List.map_append, List.map_map]
    exact congrArg (· ++ [u.rolling]) (List.map_id u.announcing)
  have hnodes : ∀ h, Entering u nodes h (nodes h).forget := fun _ _ => rfl
  have hpost := outline_calm hvalid (chained_steady_concat u.announcing fun _ _ hn => hn) hnodes
    (by rw [hplays]; exact hrun) hsucc h
  rw [lastPost_concat] at hpost
  exact hpost hh

/-- All nodes run the new content exactly if those that had it on the disk already ran it. -/
theorem update_running_iff [DecidableEq H] {es : List (Event H Choice Empty)}
    {s : State H (Node F C) Choice} (hlive : ∀ h ∈ u.hosts, (nodes h).live = some u.dir)
    (hrun : run calm (launch Node.forget u.plays nodes) es = some s)
    (hsucc : s.succeeded = true) :
    (∀ h ∈ u.hosts, (s.nodes h).running u.file = u.render h) ↔
      ∀ h ∈ u.hosts, (nodes h).fileAt u.dir u.file = u.render h →
        (nodes h).running u.file = u.render h := by
  refine forall₂_congr fun h hh => ?_
  rcases update_running hlive hrun hsucc hh with ⟨c, hc, ⟨hsame, _, hrunning⟩ | ⟨hdiff, _, hnew⟩⟩
  · rw [hrunning, hc]
    exact ⟨fun hold _ => hold, fun hold => hold hsame⟩
  · rw [hnew, hc]
    exact ⟨fun _ hsame => absurd hsame hdiff, fun _ => rfl⟩

end Running

/-! ## Histories of updates -/

/-- Updates leave the link of every node alone. -/
theorem updates_live [DecidableEq F] [DecidableEq C] [DecidableEq H] {nodes nodes' : H → Node F C}
    {ls : List (Launch H (Node F C) Choice Empty)}
    (hls : ∀ l ∈ ls, ∃ u : UpdatePlaybook H F C, l.plays = u.plays)
    (hall : runAll calm Node.forget nodes ls = some nodes') (h : H) :
    (nodes' h).live = (nodes h).live := by
  refine runAll_induct (J := fun m => (m h).live = (nodes h).live) ?_ rfl hall
  intro l hl m s hm hrun
  rcases hls l hl with ⟨u, hu⟩
  rw [hu] at hrun
  have hkeep : ∀ p ∈ u.plays, ∀ k ∈ p.hosts, ∀ a ∈ p.actions,
      a.Keeps k fun n => k = h → n.live = (nodes h).live := by
    intro p hp k _ a ha
    apply Action.Keeps.imp
    refine update_keep u ?_ ?_ p hp a ha
    · apply call_keeps
      intro n x n' hn heff
      rcases template_eq_some heff with ⟨dir, c, _, _, rfl⟩
      exact hn
    · apply callWhen_keeps
      intro n x n' hn _ heff
      cases heff
      exact hn
  have hstart : ∀ k, k = h → ((m k).forget).live = (nodes h).live := by
    rintro k rfl
    exact hm
  exact run_keeps (fun _ => stable_calm _) hkeep hstart hrun h rfl

end Service
end ClusterPlaybooks
