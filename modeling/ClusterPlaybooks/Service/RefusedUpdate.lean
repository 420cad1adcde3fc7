import ClusterPlaybooks.Service.ConfigUpdate

/-!
# Updates to a configuration that no node can serve with

A node that is restarted with a bad configuration never opens its ports again, so its
port check fails and the run is aborted.  One run takes down at most one node.

Main results:

- Theorem {lit}`update_starts`: every start a run makes is a start with the new content.
- Theorem {lit}`settled_moment`: a node that has the new content on its disk is never
  restarted.
- Theorem {lit}`one_run_one_down`: one run takes down at most one node.
- Theorem {lit}`blocked_moment`: a node on which the file cannot be written is never
  restarted.
- Theorem {lit}`behind_moment`: no run gets past such a node.
-/

namespace ClusterPlaybooks
namespace Service

open Ansible

variable {H F C : Type} [DecidableEq H] [DecidableEq F] [DecidableEq C]
variable {u : UpdatePlaybook H F C} {h k : H} {n : Node F C}

/-! ## Histories -/

/-- The file on the node is not the one the playbook writes. -/
def UpdatePlaybook.Differs (u : UpdatePlaybook H F C) (h : H) (n : Node F C) : Prop :=
  n.fileAt u.dir u.file ≠ u.render h

instance : Decidable (u.Differs h n) :=
  inferInstanceAs (Decidable (n.fileAt u.dir u.file ≠ u.render h))

omit [DecidableEq H] [DecidableEq F] [DecidableEq C] in
theorem not_differs_iff : ¬u.Differs h n ↔ n.fileAt u.dir u.file = u.render h := by
  simp [UpdatePlaybook.Differs]

/-- A service that is started by the call leaves a port closed. -/
def Refuses (ports : List String) (x : Choice) : Prop :=
  ∃ port ∈ ports, port ∉ x.ports

/--
Runs of the playbook in which no start of the service opens all ports.  All these starts
are starts with the new content, see {lit}`update_starts`.
-/
structure RefusedRuns (u : UpdatePlaybook H F C)
    (ls : List (Launch H (Node F C) Choice Empty)) : Prop where
  plays : ∀ l ∈ ls, l.plays = u.plays
  refused : ∀ l ∈ ls, ∀ h x, Event.act h x ∈ l.events → Refuses u.ports x

/-- No two nodes are out of service at any two moments of the history. -/
def OneEverDown (u : UpdatePlaybook H F C) (nodes : H → Node F C)
    (ls : List (Launch H (Node F C) Choice Empty)) : Prop :=
  ∀ s s', Moment calm Node.forget nodes ls s → Moment calm Node.forget nodes ls s' →
    ∀ h ∈ u.hosts, ∀ k ∈ u.hosts, ¬(s.nodes h).serves u.ports → ¬(s'.nodes k).serves u.ports →
      h = k

/-! ## What the playbook starts -/

/-- A node on which the playbook made only starts with the new content. -/
structure StartsNew (u : UpdatePlaybook H F C) (h : H) (old : List (Start F C)) (n : Node F C) :
    Prop where
  live : n.live = some u.dir
  written : (n.regs u.reg).map Registered.changed = some true →
    n.fileAt u.dir u.file = u.render h
  starts : ∃ new, n.starts = new ++ old ∧ ∀ st ∈ new, st.loaded u.file = u.render h

omit [DecidableEq H] in
/-- A registered change means that the new content is on the disk. -/
theorem write_startsNew {old : List (Start F C)} : u.write.Keeps h (StartsNew u h old) := by
  apply call_keeps
  intro n x n' hn heff
  rcases template_fileAt heff with ⟨c, hc, hfiles⟩
  rcases template_eq_some heff with ⟨dir, c', _, _, rfl⟩
  refine ⟨hn.live, fun _ => ?_, hn.starts⟩
  rw [hfiles, if_pos ⟨rfl, rfl⟩, hc]

omit [DecidableEq H] [DecidableEq F] [DecidableEq C] in
/-- So a restart after a change reads the new content. -/
theorem restart_startsNew {old : List (Start F C)} :
    (callWhen (whenChanged u.reg) restarted).Keeps h (StartsNew u h old) := by
  apply callWhen_keeps
  intro n x n' hn hcond heff
  cases heff
  rcases hn.starts with ⟨new, hstarts, hnew⟩
  refine ⟨hn.live, hn.written, ⟨n.disk, n.uploads, x.alive⟩ :: new, ?_, ?_⟩
  · simp [Node.startService, hstarts]
  · intro st hst
    rcases List.mem_cons.mp hst with rfl | hst
    · have hdisk : n.disk u.file = n.fileAt u.dir u.file := by
        simp [Node.disk, Node.fileAt, hn.live]
      exact hdisk.trans (hn.written hcond)
    · exact hnew st hst

/-- Every start a run of the playbook makes is a start with the new content. -/
theorem update_starts {nodes : H → Node F C} {es : List (Event H Choice Empty)}
    {s : State H (Node F C) Choice} (hlive : (nodes h).live = some u.dir)
    (hrun : run calm (launch Node.forget u.plays nodes) es = some s) :
    ∃ new, (s.nodes h).starts = new ++ (nodes h).starts ∧
      ∀ st ∈ new, st.loaded u.file = u.render h := by
  have hkeep : ∀ p ∈ u.plays, ∀ k ∈ p.hosts, ∀ a ∈ p.actions,
      a.Keeps k fun n => k = h → StartsNew u k (nodes h).starts n := by
    intro p hp k _ a ha
    exact (update_keep u write_startsNew restart_startsNew p hp a ha).imp
  have hstart : ∀ k, k = h → StartsNew u k (nodes h).starts ((nodes k).forget) := by
    rintro k rfl
    exact ⟨hlive, by simp [Node.forget], [], rfl, by simp⟩
  exact (run_keeps (fun _ => stable_calm _) hkeep hstart hrun h rfl).starts

/-! ## Nodes that have the content already -/

/-- A serving node with the new content on its disk, and no change registered. -/
structure Settled (u : UpdatePlaybook H F C) (h : H) (n : Node F C) : Prop where
  serves : n.serves u.ports
  file : n.fileAt u.dir u.file = u.render h
  unchanged : (n.regs u.reg).map Registered.changed ≠ some true

omit [DecidableEq H] in
/-- Writing the same content again changes nothing. -/
theorem write_settled : u.write.Keeps h (Settled u h) := by
  apply call_keeps
  intro n x n' hn heff
  rcases template_fileAt heff with ⟨c, hc, hfiles⟩
  rcases template_eq_some heff with ⟨dir, c', hdir, hc', rfl⟩
  have hsame : dir.files u.file = some c' := by
    rw [← hc', ← hn.file]
    simp [Node.fileAt, hdir]
  refine ⟨hn.serves, ?_, ?_⟩
  · rw [hfiles, if_pos ⟨rfl, rfl⟩, hc]
  · simp [Node.register, hsame]

omit [DecidableEq H] [DecidableEq F] [DecidableEq C] in
/-- Without a change there is no restart. -/
theorem restart_settled : (callWhen (whenChanged u.reg) restarted).Keeps h (Settled u h) := by
  apply callWhen_keeps
  intro n x n' hn hcond _
  exact absurd hcond hn.unchanged

/-- A node that has the new content on its disk goes on serving in all runs. -/
theorem settled_moment {nodes : H → Node F C} {ls : List (Launch H (Node F C) Choice Empty)}
    {s : State H (Node F C) Choice} (hplays : ∀ l ∈ ls, l.plays = u.plays)
    (hserves : (nodes h).serves u.ports) (hsame : ¬u.Differs h (nodes h))
    (hmoment : Moment calm Node.forget nodes ls s) : (s.nodes h).serves u.ports := by
  refine Moment.induct (G := fun s => (s.nodes h).serves u.ports)
    (J := fun nodes => (nodes h).serves u.ports ∧ (nodes h).fileAt u.dir u.file = u.render h)
    ?_ ⟨hserves, not_differs_iff.mp hsame⟩ hmoment
  intro l hl nodes es s hnodes _ hrun
  rw [hplays l hl] at hrun
  have hkeep : ∀ p ∈ u.plays, ∀ k ∈ p.hosts, ∀ a ∈ p.actions,
      a.Keeps k fun n => k = h → Settled u k n := by
    intro p hp k _ a ha
    exact (update_keep u write_settled restart_settled p hp a ha).imp
  have hstart : ∀ k, k = h → Settled u k ((nodes k).forget) := by
    rintro k rfl
    exact ⟨hnodes.1, hnodes.2, by simp [Node.forget]⟩
  have hend := run_keeps (fun _ => stable_calm _) hkeep hstart hrun h rfl
  exact ⟨hend.serves, hend.serves, hend.file⟩

/-! ## One run -/

omit [DecidableEq H] in
/-- A node that is down stays down when no start opens all ports. -/
theorem update_stays_down {p : Play H (Node F C) Choice} (hp : p ∈ u.plays)
    {a : Action H (Node F C) Choice} (ha : a ∈ p.actions) :
    a.KeepsUnder h (Refuses u.ports) fun n => ¬n.serves u.ports := by
  intro n x n' v hx hdown hcall
  rcases update_calls u hp ha with hkeeps | rfl | rfl
  · exact hkeeps h (fun n => ¬n.serves u.ports) n x n' v hdown hcall
  · have hkeeps : u.write.Keeps h fun n => ¬n.serves u.ports := by
      apply call_keeps
      intro n x n' hdown heff hserves
      exact hdown fun port hport => template_ports h n x n' heff ▸ hserves port hport
    exact hkeeps n x n' v hdown hcall
  · rcases Action.run_cases hcall with rfl | ⟨w, _, hexec⟩
    · exact hdown
    · have hatt : attempt restarted h n x = some (n', w) := hexec
      rcases attempt_cases hatt with rfl | heff
      · exact hdown
      · cases heff
        rcases hx with ⟨port, hport, hclosed⟩
        intro hserves
        have hopen := hserves port hport
        cases halive : x.alive <;> simp [Node.startService, halive, hclosed] at hopen

/-- A run that has taken down a node takes down no other one later. -/
theorem no_later_down {nodes : H → Node F C} {l : Launch H (Node F C) Choice Empty}
    (hruns : RefusedRuns u [l]) (hserves : ∀ h ∈ u.hosts, (nodes h).serves u.ports)
    {es fs : List (Event H Choice Empty)} {s s' : State H (Node F C) Choice}
    (hs : run calm (launch Node.forget l.plays nodes) es = some s)
    (hs' : run calm (launch Node.forget l.plays nodes) (es ++ fs) = some s')
    (hes : es ++ fs <+: l.events) (hh : h ∈ u.hosts) (hk : k ∈ u.hosts)
    (hdown : ¬(s.nodes h).serves u.ports) (hdown' : ¬(s'.nodes k).serves u.ports) : h = k := by
  rw [hruns.plays l List.mem_cons_self] at hs hs'
  have hrest : run calm s fs = some s' := by
    rw [run_append, hs, Option.bind_some] at hs'
    exact hs'
  have hahead : s.Ahead fun j a =>
      a.KeepsUnder j (Refuses u.ports) fun n => j = h → ¬n.serves u.ports := by
    refine run_ahead ?_ hs
    intro p hp j _ a ha n x n' v hx hn hcall hj
    exact update_stays_down hp ha n x n' v hx (hn hj) hcall
  have hrefused : ∀ j x, Event.act j x ∈ fs → Refuses u.ports x := by
    intro j x hx
    exact hruns.refused l List.mem_cons_self j x
      (hes.subset (List.mem_append_right es hx))
  have hstill : ¬(s'.nodes h).serves u.ports :=
    hahead.keeps (fun _ => stable_calm _) hrefused (fun j hj => hj ▸ hdown) hrest h rfl
  have hup : ∀ h, h ∈ u.hosts → ((nodes h).forget).serves u.ports := hserves
  have havail := rolling_available undisturbed_calm (update_gentle u) hup hs'
  exact havail.one_down h k hh hk hstill hdown'

/-- One run takes down at most one node. -/
theorem one_run_one_down {nodes : H → Node F C} {l : Launch H (Node F C) Choice Empty}
    (hruns : RefusedRuns u [l]) (hserves : ∀ h ∈ u.hosts, (nodes h).serves u.ports) :
    OneEverDown u nodes [l] := by
  intro s s' hs hs' h hh k hk hdown hdown'
  rcases hs.single with ⟨es, hes, hrun⟩
  rcases hs'.single with ⟨fs, hfs, hrun'⟩
  -- one of the two moments is the later one
  rcases List.prefix_or_prefix_of_prefix hes hfs with ⟨rest, rfl⟩ | ⟨rest, rfl⟩
  · exact no_later_down hruns hserves hrun hrun' hfs hh hk hdown hdown'
  · exact (no_later_down hruns hserves hrun' hrun hes hk hh hdown' hdown).symm

/-! ## Nodes that no run gets to -/

/-- The playbook can write its file on the node. -/
structure Ready (u : UpdatePlaybook H F C) (h : H) (n : Node F C) : Prop where
  dir : (n.dirs u.dir).isSome = true
  render : (u.render h).isSome = true

instance : Decidable (Ready u h n) :=
  decidable_of_iff ((n.dirs u.dir).isSome = true ∧ (u.render h).isSome = true)
    ⟨fun hready => ⟨hready.1, hready.2⟩, fun hready => ⟨hready.dir, hready.render⟩⟩

omit [DecidableEq H] [DecidableEq F] [DecidableEq C] in
/-- What was registered does not matter. -/
theorem Ready.forget (hready : Ready u h n) : Ready u h n.forget :=
  ⟨hready.dir, hready.render⟩

/-- A serving node on which the playbook cannot write its file. -/
structure Blocked (u : UpdatePlaybook H F C) (h : H) (n : Node F C) : Prop where
  serves : n.serves u.ports
  blocked : ¬Ready u h n
  unchanged : n.regs u.reg = none

omit [DecidableEq H] in
/-- The file cannot be written there. -/
theorem write_blocked : u.write.Keeps h (Blocked u h) := by
  apply call_keeps
  intro n x n' hn heff
  rcases template_eq_some heff with ⟨dir, c, hdir, hc, _⟩
  exact absurd ⟨by simp [hdir], by simp [hc]⟩ hn.blocked

omit [DecidableEq H] [DecidableEq F] [DecidableEq C] in
/-- So there is no restart either. -/
theorem restart_blocked : (callWhen (whenChanged u.reg) restarted).Keeps h (Blocked u h) := by
  apply callWhen_keeps
  intro n x n' hn hcond _
  simp [whenChanged, hn.unchanged] at hcond

section Histories

variable {nodes : H → Node F C} {es : List (Event H Choice Empty)}
variable {s : State H (Node F C) Choice}

/-- A run leaves such a node as it is. -/
theorem blocked_run (hserves : (nodes h).serves u.ports) (hblocked : ¬Ready u h (nodes h))
    (hrun : run calm (launch Node.forget u.plays nodes) es = some s) :
    Blocked u h (s.nodes h) := by
  have hkeep : ∀ p ∈ u.plays, ∀ k ∈ p.hosts, ∀ a ∈ p.actions,
      a.Keeps k fun n => k = h → Blocked u k n := by
    intro p hp k _ a ha
    exact (update_keep u write_blocked restart_blocked p hp a ha).imp
  have hstart : ∀ k, k = h → Blocked u k ((nodes k).forget) := by
    rintro k rfl
    exact ⟨hserves, fun hready => hblocked ⟨hready.dir, hready.render⟩, rfl⟩
  exact run_keeps (fun _ => stable_calm _) hkeep hstart hrun h rfl

/-- Such a node goes on serving in all runs. -/
theorem blocked_moment {ls : List (Launch H (Node F C) Choice Empty)}
    (hplays : ∀ l ∈ ls, l.plays = u.plays) (hserves : (nodes h).serves u.ports)
    (hblocked : ¬Ready u h (nodes h)) (hmoment : Moment calm Node.forget nodes ls s) :
    (s.nodes h).serves u.ports := by
  refine Moment.induct (G := fun s => (s.nodes h).serves u.ports)
    (J := fun nodes => (nodes h).serves u.ports ∧ ¬Ready u h (nodes h)) ?_ ⟨hserves, hblocked⟩
    hmoment
  intro l hl nodes es s hnodes _ hrun
  rw [hplays l hl] at hrun
  have hend := blocked_run hnodes.1 hnodes.2 hrun
  exact ⟨hend.serves, hend.serves, hend.blocked⟩

/-- The rolling play when it cannot get past {lit}`k`. -/
def blockedStage (u : UpdatePlaybook H F C) (k : H) (nodes : H → Node F C) :
    Stage H (Node F C) Choice where
  play := u.rolling
  pre := Entering u nodes
  inv := fun _ _ => True
  post := fun h _ => h ≠ k

omit [DecidableEq H] in
/-- A node on which the file cannot be written never gets through the play. -/
theorem blocked_ensures {n₀ : Node F C} (hblocked : ¬Ready u k n₀) :
    Ensures calm k (fun n => n = n₀) (u.tasks.flatMap Task.items) fun _ => False := by
  have hstable : ∀ P : Node F C → Prop, Stable calm P := stable_calm
  have hwrite : u.write.Gives k (fun n => n = n₀) fun _ => False := by
    apply call_gives
    rintro n x n' rfl heff
    rcases template_eq_some heff with ⟨dir, c, hdir, hc, _⟩
    exact hblocked ⟨by simp [hdir], by simp [hc]⟩
  refine Ensures.cons (a := call noEffect) (hstable _) (hstable _) noEffect_keeps.gives ?_
  refine Ensures.cons (a := u.write) (hstable _) (hstable _) hwrite ?_
  exact Ensures.of_keeps (hstable _) fun a _ n x n' v hn => hn.elim

omit [DecidableEq H] in
/-- The annotation is valid. -/
theorem blockedStage_valid (hk : k ∈ u.hosts) (hblocked : ¬Ready u k (nodes k)) :
    (blockedStage u k nodes).Valid calm where
  stable_pre := fun _ => stable_calm _
  stable_inv := fun _ => stable_calm _
  stable_post := fun _ => stable_calm _
  pre_inv := fun _ _ _ => trivial
  guards := fun _ _ _ _ _ _ _ _ _ _ _ _ _ _ _ => trivial
  ensures := by
    rintro h hh n n' hpre hpath rfl
    have hblocked' : ¬Ready u h (nodes h).forget :=
      fun hready => hblocked ⟨hready.dir, hready.render⟩
    exact blocked_ensures hblocked' n n' (hpre hh) hpath
  frame := by
    rintro h hnot _ _ rfl
    exact hnot hk

/-- A run without other plays does not touch the nodes after such a node. -/
theorem behind_run {done rest : List H} (hbefore : u.before = [])
    (hhosts : u.hosts = done ++ k :: rest) (hblocked : ¬Ready u k (nodes k)) (hh : h ∈ rest)
    (hrun : run calm (launch Node.forget u.plays nodes) es = some s) :
    s.nodes h = (nodes h).forget := by
  have hplays : [blockedStage u k nodes].map Stage.play = u.plays := by
    rw [UpdatePlaybook.plays, UpdatePlaybook.announcing, hbefore]
    rfl
  have hvalid : ∀ st ∈ [blockedStage u k nodes], st.Valid calm := by
    intro st hst
    cases List.mem_singleton.mp hst
    exact blockedStage_valid (by simp [hhosts]) hblocked
  have hnodes : ∀ h, Entering u nodes h (nodes h).forget := fun _ _ => rfl
  have halong := outline_sound (fun _ => stable_calm _) hvalid
    ⟨fun _ _ hn => hn, trivial⟩ hnodes (by rw [hplays]; exact hrun)
  have hserial : ∀ st ∈ Stage.idle (Entering u nodes) :: [blockedStage u k nodes],
      st.play.serial = true ∨ st.play.hosts = [] := by
    intro st hst
    simp only [List.mem_cons, List.not_mem_nil, or_false] at hst
    rcases hst with rfl | rfl
    · exact Or.inr rfl
    · exact Or.inl rfl
  have hlost := halong.lost_eq_nil hserial
  have hmem : h ∈ u.hosts := by simp [hhosts, hh]
  rcases halong with ⟨cur, later, hin, _, _, hsuffix⟩
  have hcur := hsuffix.subset List.mem_cons_self
  simp only [List.mem_cons, List.not_mem_nil, or_false] at hcur
  rcases hcur with rfl | rfl
  · exact hin.inv_all (fun _ _ hn => hn) (fun _ _ hn => hn) hlost h hmem
  · rcases hin.over_or_waiting rfl hlost hhosts with hover | hwait
    · exact absurd rfl hover
    · exact hwait h hh hmem

/-- The nodes after such a node go on serving in all runs. -/
theorem behind_moment {done rest : List H} {ls : List (Launch H (Node F C) Choice Empty)}
    (hbefore : u.before = []) (hplays : ∀ l ∈ ls, l.plays = u.plays)
    (hhosts : u.hosts = done ++ k :: rest) (hkserves : (nodes k).serves u.ports)
    (hblocked : ¬Ready u k (nodes k)) (hh : h ∈ rest) (hserves : (nodes h).serves u.ports)
    (hmoment : Moment calm Node.forget nodes ls s) : (s.nodes h).serves u.ports := by
  refine Moment.induct (G := fun s => (s.nodes h).serves u.ports)
    (J := fun nodes => (nodes h).serves u.ports ∧ (nodes k).serves u.ports ∧
      ¬Ready u k (nodes k)) ?_ ⟨hserves, hkserves, hblocked⟩ hmoment
  intro l hl nodes es s hnodes _ hrun
  rw [hplays l hl] at hrun
  have hk := blocked_run hnodes.2.1 hnodes.2.2 hrun
  have hend : (s.nodes h).serves u.ports := by
    rw [behind_run hbefore hhosts hnodes.2.2 hh hrun]
    exact hnodes.1
  exact ⟨hend, hend, hk.serves, hk.blocked⟩

end Histories

end Service
end ClusterPlaybooks
