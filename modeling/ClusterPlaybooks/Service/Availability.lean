import ClusterPlaybooks.Service.Roles

/-!
# Availability during rolling runs

A rolling playbook prepares all nodes at once without touching the running
service, and then takes the nodes one at a time: it restarts a node and goes on
only after the node has opened all its ports again.  The restart and the port
checks may both depend on a registered result; then a node is either restarted and
checked or neither.

Main results:

- Theorem {lit}`restart_serves`: a node that gets through a restart and its port
  checks is serving.
- Theorem {lit}`rolling_available`: at every moment of a rolling run at most one
  node is not serving.
-/

namespace ClusterPlaybooks
namespace Service

open Ansible

variable {H F C ε : Type} {h : H} {ports : List String} {env : ε → Node F C → Node F C}

/-! ## Modules that leave the ports alone -/

/-- The module closes no port and opens none. -/
def KeepsPorts (effect : Effect H F C) : Prop :=
  ∀ h n x n', effect h n x = some n' → n'.openPorts = n.openPorts

/-- A call of such a module keeps the node serving. -/
theorem KeepsPorts.keeps {effect : Effect H F C} {cond : H → Node F C → Option Bool}
    (heffect : KeepsPorts effect) : (callWhen cond effect).Keeps h (Node.serves ports) := by
  apply callWhen_keeps
  intro n x n' hserves _ heff port hport
  rw [heffect h n x n' heff]
  exact hserves port hport

/-- So does a call without a {lit}`when` clause. -/
theorem KeepsPorts.call_keeps {effect : Effect H F C} (heffect : KeepsPorts effect) :
    (call effect).Keeps h (Node.serves ports) :=
  heffect.keeps

/-- Writing a file opens and closes no port. -/
theorem template_ports [DecidableEq F] [DecidableEq C] {d : String} {f : F}
    {render : H → Option C} {reg : Option String} : KeepsPorts (template d f render reg) := by
  intro h n x n' heff
  rcases template_eq_some heff with ⟨dir, c, _, _, rfl⟩
  rfl

/-- Editing a file opens and closes no port. -/
theorem editFile_ports [DecidableEq F] {d : String} {f : F} {edit : C → C} :
    KeepsPorts (H := H) (editFile d f edit) := by
  intro h n x n' heff
  rcases editFile_eq_some heff with ⟨dir, c, _, _, rfl⟩
  rfl

/-- Switching the link opens and closes no port. -/
theorem fileLink_ports {d : String} {reg : Option String} :
    KeepsPorts (fileLink d reg : Effect H F C) := by
  intro h n x n' heff
  unfold fileLink at heff
  split at heff
  · cases heff
    rfl
  · cases heff

/-- Creating a directory opens and closes no port. -/
theorem fileDirectory_ports {d : String} : KeepsPorts (fileDirectory d : Effect H F C) := by
  intro h n x n' heff
  unfold fileDirectory at heff
  split at heff
  · cases heff
    rfl
  · cases heff
    rfl

/-- Unpacking an archive opens and closes no port. -/
theorem unarchiveInto_ports {d : String} {archive : F → Option C} :
    KeepsPorts (unarchiveInto d archive : Effect H F C) := by
  intro h n x n' heff
  rcases Option.map_eq_some_iff.mp heff with ⟨dir, _, rfl⟩
  split <;> rfl

/-- Neither does unpacking an archive with its own directory. -/
theorem unarchiveBeside_ports {d creates : String} {archive : F → Option C} :
    KeepsPorts (unarchiveBeside d creates archive : Effect H F C) := by
  intro h n x n' heff
  unfold unarchiveBeside at heff
  split at heff
  · cases heff
    rfl
  · cases heff
    rfl

/-- Uploading a file opens and closes no port. -/
theorem copy_ports {path : String} : KeepsPorts (copy path : Effect H F C) := by
  intro h n x n' heff
  cases heff
  rfl

/-! ## Restart and port checks -/

/-- The environment closes no port and leaves registered results alone. -/
def Undisturbed (env : ε → Node F C → Node F C) : Prop :=
  ∀ e n, (env e n).regs = n.regs ∧ ∀ port ∈ n.openPorts, port ∈ (env e n).openPorts

/-- The calm environment does nothing at all. -/
theorem undisturbed_calm : Undisturbed (calm (σ := Node F C)) :=
  fun e => e.elim

/-- A serving node goes on serving. -/
theorem Undisturbed.serves (henv : Undisturbed env) : Stable env (Node.serves ports) :=
  fun e n hserves port hport => (henv e n).2 port (hserves port hport)

/-- The clause looks at registered results only. -/
def ByRegisters (cond : H → Node F C → Option Bool) : Prop :=
  ∀ h n n', n'.regs = n.regs → cond h n' = cond h n

/-- A task without a clause. -/
theorem always_byRegisters : ByRegisters (always : H → Node F C → Option Bool) :=
  fun _ _ _ _ => rfl

/-- A clause about a registered change. -/
theorem whenChanged_byRegisters {reg : String} :
    ByRegisters (whenChanged reg : H → Node F C → Option Bool) := by
  intro h n n' hregs
  rw [whenChanged, whenChanged, hregs]

/--
The node was restarted and has opened the ports in {lit}`opened`, or it was not
restarted and serves all ports.
-/
def Checked (cond : H → Node F C → Option Bool) (h : H) (ports opened : List String)
    (n : Node F C) : Prop :=
  (cond h n = some true ∧ ∀ port ∈ opened, port ∈ n.openPorts) ∨
    (cond h n = some false ∧ n.serves ports)

section Restart

variable {cond : H → Node F C → Option Bool}

/-- The environment does not undo a check. -/
theorem Checked.stable (henv : Undisturbed env) (hcond : ByRegisters cond)
    {opened : List String} : Stable env (Checked cond h ports opened) := by
  intro e n hn
  rcases hn with ⟨htrue, hopen⟩ | ⟨hfalse, hserves⟩
  · left
    refine ⟨(hcond h n _ (henv e n).1).trans htrue, ?_⟩
    intro port hport
    exact (henv e n).2 port (hopen port hport)
  · right
    exact ⟨(hcond h n _ (henv e n).1).trans hfalse, henv.serves e n hserves⟩

/-- After a restart nothing is known about the ports; without one the node still serves. -/
theorem restarted_checked (hcond : ByRegisters cond) :
    (callWhen cond restarted).Gives h (Node.serves ports) (Checked cond h ports []) := by
  apply callWhen_gives
  · intro n hserves hfalse
    exact Or.inr ⟨hfalse, hserves⟩
  · intro n x n' _ htrue heff
    cases heff
    left
    refine ⟨(hcond h n (n.startService x.alive x.ports) rfl).trans htrue, ?_⟩
    simp

/-- A port check adds a port. -/
theorem waitFor_checked {port : String} {opened : List String} :
    (callWhen cond (waitFor port)).Gives h (Checked cond h ports opened)
      (Checked cond h ports (port :: opened)) := by
  apply callWhen_gives
  · intro n hn hfalse
    rcases hn with ⟨htrue, _⟩ | hskip
    · rw [htrue] at hfalse
      cases hfalse
    · exact Or.inr hskip
  · intro n x n' hn htrue heff
    unfold waitFor at heff
    split at heff
    · rename_i hport
      cases heff
      rcases hn with ⟨_, hopen⟩ | ⟨hfalse, _⟩
      · left
        refine ⟨htrue, ?_⟩
        intro q hq
        rcases List.mem_cons.mp hq with rfl | hq
        · exact hport
        · exact hopen q hq
      · rw [htrue] at hfalse
        cases hfalse
    · cases heff

/-- Checking the ports that are missing completes the check. -/
theorem portCheck_serves (henv : Undisturbed env) (hcond : ByRegisters cond)
    {missing opened : List String} (hports : ∀ port ∈ ports, port ∈ missing ∨ port ∈ opened) :
    Ensures env h (Checked cond h ports opened) ((portCheck missing cond).flatMap Task.items)
      (Node.serves ports) := by
  -- the ports already seen open grow by one with every check
  induction missing generalizing opened with
  | nil =>
      refine (Ensures.nil (Checked.stable henv hcond)).consequence (fun _ hn => hn) ?_
      intro n hn
      rcases hn with ⟨_, hopen⟩ | ⟨_, hserves⟩
      · intro port hport
        rcases hports port hport with hmem | hmem
        · cases hmem
        · exact hopen port hmem
      · exact hserves
  | cons port missing ih =>
      refine Ensures.cons (a := callWhen cond (waitFor port)) (Checked.stable henv hcond)
        (Checked.stable henv hcond) waitFor_checked ?_
      apply ih
      intro q hq
      rcases hports q hq with hmem | hmem
      · rcases List.mem_cons.mp hmem with rfl | hmem
        · exact Or.inr List.mem_cons_self
        · exact Or.inl hmem
      · exact Or.inr (List.mem_cons_of_mem port hmem)

/-- A serving node that gets through a restart and its port checks is serving again. -/
theorem restart_serves (henv : Undisturbed env) (hcond : ByRegisters cond)
    {serviceName : String} :
    Ensures env h (Node.serves ports)
      ((serviceState serviceName .restarted cond :: portCheck ports cond).flatMap Task.items)
      (Node.serves ports) := by
  refine Ensures.cons (a := callWhen cond restarted) henv.serves (Checked.stable henv hcond)
    (restarted_checked hcond) ?_
  exact portCheck_serves henv hcond fun port hport => Or.inl hport

end Restart

/-! ## Rolling playbooks -/

/--
A play keeps every node in {lit}`D` serving all the time, or it is serial and
every node that gets through it is serving.
-/
structure Gentle (env : ε → Node F C → Node F C) (ports : List String) (D : H → Prop)
    (p : Play H (Node F C) Choice) : Prop where
  parallel : p.serial = false → ∀ h, D h → TasksKeep h (Node.serves ports) p.tasks
  serial : p.serial = true → ∀ h, D h →
    Ensures env h (Node.serves ports) p.actions (Node.serves ports)

section Gentle

variable {D : H → Prop} {hosts : List H} {nodup : hosts.Nodup}

/-- A preparing play must keep the nodes serving. -/
theorem gentle_onAll {tasks : List (Task H (Node F C) Choice)}
    (hkeep : ∀ h, D h → TasksKeep h (Node.serves ports) tasks) :
    Gentle env ports D (onAll hosts nodup tasks) where
  parallel := fun _ => hkeep
  serial := fun hserial => by cases hserial

/-- A rolling play may do harmless things before it restarts and checks a node. -/
theorem gentle_oneByOne (henv : Undisturbed env) {cond : H → Node F C → Option Bool}
    (hcond : ByRegisters cond) {serviceName : String} (tasks : List (Task H (Node F C) Choice))
    (hkeep : ∀ h, D h → TasksKeep h (Node.serves ports) tasks) :
    Gentle env ports D (oneByOne hosts nodup
      (tasks ++ serviceState serviceName .restarted cond :: portCheck ports cond)) where
  parallel := fun hserial => by cases hserial
  serial := by
    intro _ h hD
    rw [Play.actions, oneByOne, List.flatMap_append]
    exact (Ensures.of_keeps henv.serves (hkeep h hD)).append (restart_serves henv hcond)

end Gentle

/-- A play of a rolling playbook with its annotation. -/
def servingStage (ports : List String) (D : H → Prop) (p : Play H (Node F C) Choice) :
    Stage H (Node F C) Choice where
  play := p
  pre := fun h n => D h → n.serves ports
  inv := fun h n => p.serial = false → D h → n.serves ports
  post := fun h n => D h → n.serves ports

/-- The annotation is valid. -/
theorem servingStage_valid {D : H → Prop} {p : Play H (Node F C) Choice}
    (henv : Undisturbed env) (hp : Gentle env ports D p) :
    (servingStage ports D p).Valid env where
  stable_pre := fun _ => Stable.imp henv.serves
  stable_inv := fun _ => Stable.imp (Stable.imp henv.serves)
  stable_post := fun _ => Stable.imp henv.serves
  pre_inv := fun _ _ hpre _ => hpre
  guards := by
    intro h _ n m n' ts t rest as bs hpre htasks hitems hpath hloop hserial hD
    have hguards : Guards env h (Node.serves ports) p.tasks (Node.serves ports) :=
      Guards.of_keeps henv.serves (fun _ hn => hn) (hp.parallel hserial h hD)
    exact hguards n m n' ts t rest as bs (hpre hD) htasks hitems hpath hloop
  ensures := by
    intro h _ n n' hpre hpath hD
    cases hserial : p.serial with
    | false =>
        exact Ensures.of_keeps henv.serves (hp.parallel hserial h hD) n n' (hpre hD) hpath
    | true => exact hp.serial hserial h hD n n' (hpre hD) hpath
  frame := fun _ _ _ hpre => hpre

/-- The annotations of consecutive plays fit together. -/
theorem chained_serving (D : H → Prop) (plays : List (Play H (Node F C) Choice)) :
    Chained (fun h (n : Node F C) => D h → n.serves ports)
      (plays.map (servingStage ports D)) := by
  induction plays with
  | nil => trivial
  | cons p ps ih => exact ⟨fun _ _ hn => hn, ih⟩

/-- After the last play every node is serving. -/
theorem lastPost_serving (D : H → Prop) (plays : List (Play H (Node F C) Choice)) :
    lastPost (fun h (n : Node F C) => D h → n.serves ports)
        (plays.map (servingStage ports D)) =
      fun h n => D h → n.serves ports := by
  induction plays with
  | nil => rfl
  | cons p ps ih => exact ih

/-- What an annotation says about the ports: only a serial play lets a node down. -/
structure BoundsPorts (ports : List String) (D : H → Prop) (st : Stage H (Node F C) Choice) :
    Prop where
  pre : ∀ h n, st.pre h n → D h → n.serves ports
  inv : st.play.serial = false → ∀ h n, st.inv h n → D h → n.serves ports
  post : ∀ h n, st.post h n → D h → n.serves ports

/-- All annotations of the outline of a rolling playbook do. -/
theorem boundsPorts_outline (D : H → Prop) {plays : List (Play H (Node F C) Choice)}
    {st : Stage H (Node F C) Choice}
    (hst : st ∈ Stage.idle (fun h (n : Node F C) => D h → n.serves ports) ::
      plays.map (servingStage ports D)) : BoundsPorts ports D st := by
  rcases List.mem_cons.mp hst with rfl | hst
  · exact ⟨fun _ _ hn => hn, fun _ _ _ hn => hn, fun _ _ hn => hn⟩
  · rcases List.mem_map.mp hst with ⟨p, _, rfl⟩
    exact ⟨fun _ _ hn => hn, fun hserial _ _ hn => hn hserial, fun _ _ hn => hn⟩

/-- A node that is not serving is being worked on by a serial play. -/
theorem in_batch_of_down {outline : List (Stage H (Node F C) Choice)}
    {cur : Stage H (Node F C) Choice} {D : H → Prop} {s : State H (Node F C) Choice}
    (hin : InPlay env outline cur s) (hcur : cur ∈ outline)
    (hout : ∀ st ∈ outline, BoundsPorts ports D st) (hD : D h)
    (hdown : ¬(s.nodes h).serves ports) : cur.play.serial = true ∧ h ∈ s.batch := by
  have hlost : h ∉ s.lost := by
    intro hlost
    rcases hin.lost h hlost with ⟨st, hst, hserial, _, _, hinv⟩
    exact hdown ((hout st hst).inv hserial h _ hinv hD)
  by_cases hbatch : h ∈ s.batch
  · refine ⟨?_, hbatch⟩
    cases hserial : cur.play.serial with
    | true => rfl
    | false =>
        have hinv := hin.during h hbatch hlost
        exact absurd ((hout cur hcur).inv hserial h _ hinv hD) hdown
  · exfalso
    by_cases hwait : h ∈ s.batches.flatten
    · exact hdown ((hout cur hcur).pre h _ (hin.before h hwait hlost) hD)
    · exact hdown ((hout cur hcur).post h _ (hin.after h hlost hbatch hwait) hD)

/-- At most one node is down, and none after an end without a failure in a rolling play. -/
structure Available [DecidableEq H] (ports : List String) (D : H → Prop)
    (s : State H (Node F C) Choice) : Prop where
  one_down : ∀ h k, D h → D k → ¬(s.nodes h).serves ports → ¬(s.nodes k).serves ports → h = k
  /-- a failure in a serial play ends the run, so it is one of the current batch -/
  all_up : s.ended = true → (s.play.serial = true → s.fresh = []) →
    ∀ h, D h → (s.nodes h).serves ports

/-- At most one node is down at any moment of a rolling run. -/
theorem rolling_available [DecidableEq H] {D : H → Prop} {nodes : H → Node F C}
    {plays : List (Play H (Node F C) Choice)} {es : List (Event H Choice ε)}
    {s : State H (Node F C) Choice} (henv : Undisturbed env)
    (hplays : ∀ p ∈ plays, Gentle env ports D p) (hnodes : ∀ h, D h → (nodes h).serves ports)
    (hrun : run env (start plays nodes) es = some s) : Available ports D s := by
  have hvalid : ∀ st ∈ plays.map (servingStage ports D), st.Valid env := by
    intro st hst
    rcases List.mem_map.mp hst with ⟨p, hp, rfl⟩
    exact servingStage_valid henv (hplays p hp)
  have hstable : ∀ h : H, Stable env fun n : Node F C => D h → n.serves ports :=
    fun _ => Stable.imp henv.serves
  have hplay : (plays.map (servingStage ports D)).map Stage.play = plays := by
    rw [List.map_map]
    exact List.map_id plays
  rw [← hplay] at hrun
  have halong := outline_sound hstable hvalid (chained_serving D plays) hnodes hrun
  have hout : ∀ st ∈ Stage.idle (fun h (n : Node F C) => D h → n.serves ports) ::
      plays.map (servingStage ports D), BoundsPorts ports D st :=
    fun _ => boundsPorts_outline D
  rcases halong with ⟨cur, rest, hin, hrest⟩
  have hcur := hrest.2.2.subset List.mem_cons_self
  constructor
  · intro h k hDh hDk hh hk
    rcases in_batch_of_down hin hcur hout hDh hh with ⟨hserial, hhbatch⟩
    rcases in_batch_of_down hin hcur hout hDk hk with ⟨_, hkbatch⟩
    rw [hin.batch_eq hserial hkbatch] at hhbatch
    exact List.mem_singleton.mp hhbatch
  · intro hended hfailed h hDh
    by_contra hdown
    rcases in_batch_of_down hin hcur hout hDh hdown with ⟨hserial, _⟩
    have hfresh : s.fresh = [] := hfailed (hin.play_eq ▸ hserial)
    rw [State.ended, Bool.or_eq_true] at hended
    rcases hended with haborted | hfinished
    · exact ((run_orderly hrun).aborted haborted).2 hfresh
    · have hlost : h ∉ s.lost := by
        intro hlost
        rcases hin.lost h hlost with ⟨st, hst, hparallel, _, _, hinv⟩
        exact hdown ((hout st hst).inv hparallel h _ hinv hDh)
      have hlast := outline_finished hstable hvalid ⟨cur, rest, hin, hrest⟩ hfinished hlost
        (by simp [hfresh])
      rw [lastPost_serving] at hlast
      exact hdown (hlast hDh)

end Service
end ClusterPlaybooks
