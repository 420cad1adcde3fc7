import ClusterPlaybooks.Ansible.Completion
import ClusterPlaybooks.Ansible.Outline
import ClusterPlaybooks.Service.Node
import ClusterPlaybooks.Text.Paths

/-!
# Modules acting on service nodes

Each module the playbooks call is given by its effect on a node; the effect is
{lit}`none` where the module cannot succeed.  A call that fails or loses the
connection may have had its effect or not, and a started service may die or open
any ports.  All of this is in the {lit}`Choice` of the call.

Assertions about a node mostly speak about the files it would read from the disk
and the files its process has read.  {lit}`Node.Within` bounds both, and the
lemmas below say once what each module does to such bounds.

Main results:

- Theorems {lit}`call_keeps` and {lit}`call_gives`: calls are described by their
  effects.
- Theorems {lit}`template_keeps`, {lit}`editFile_keeps`, {lit}`restarted_keeps`,
  {lit}`waitFor_keeps`: what survives a call whatever its outcome.
- Theorems {lit}`template_gives`, {lit}`editFile_gives`, {lit}`restarted_gives`,
  {lit}`waitFor_gives`: what a successful call establishes.
- Theorem {lit}`exists_faultless`: every playbook has a run without outside faults.
-/

namespace ClusterPlaybooks
namespace Service

open Ansible

variable {H F C : Type}

/-! ## Outcomes of a call -/

/-- Everything the controller does not decide about a module call. -/
structure Choice where
  verdict : Verdict
  /-- a call without success had its effect before it failed -/
  applied : Bool
  /-- a started service stays up -/
  alive : Bool
  /-- the ports a started service opens -/
  ports : List String
deriving DecidableEq, Repr

/-- Everything goes well, and a started service opens the given ports. -/
def Choice.good (ports : List String) : Choice where
  verdict := .ok
  applied := true
  alive := true
  ports := ports

/-- The call fails and leaves nothing behind. -/
def Choice.bad : Choice where
  verdict := .failed
  applied := false
  alive := false
  ports := []

/-- The effect of a module, {lit}`none` where it cannot succeed. -/
abbrev Effect (H F C : Type) := H → Node F C → Choice → Option (Node F C)

/-- A module call on a node. -/
def attempt (effect : Effect H F C) (h : H) (n : Node F C) (x : Choice) :
    Option (Node F C × Verdict) :=
  match effect h n x with
  | some n' => some (if x.verdict = .ok ∨ x.applied = true then n' else n, x.verdict)
  | none => if x.verdict = .ok then none else some (n, x.verdict)

/-- A call with a {lit}`when` clause. -/
def callWhen (cond : H → Node F C → Option Bool) (effect : Effect H F C) :
    Action H (Node F C) Choice where
  cond := cond
  exec := attempt effect
  ignoreErrors := false

/-- A call without a {lit}`when` clause. -/
def call (effect : Effect H F C) : Action H (Node F C) Choice :=
  callWhen (fun _ _ => some true) effect

/-- A call with {lit}`ignore_errors: true`. -/
def callIgnoringErrors (effect : Effect H F C) : Action H (Node F C) Choice where
  cond := fun _ _ => some true
  exec := attempt effect
  ignoreErrors := true

/-- The clause {lit}`when: reg.changed`; it cannot be evaluated if nothing was registered. -/
def whenChanged (reg : String) : H → Node F C → Option Bool :=
  fun _ n => (n.regs reg).map Registered.changed

/--
The clause {lit}`when: not` with a flag of a registered result; it cannot be evaluated if
nothing was registered or the result has no such flag.
-/
def whenNot (reg : String) (path : List String) : H → Node F C → Option Bool :=
  fun _ n => ((n.regs reg).bind fun r => r.flag path).map not

/-! ## Effects of the modules -/

/-- A module that changes nothing this model looks at. -/
def noEffect : Effect H F C :=
  fun _ n _ => some n

/-- {lit}`template` into a directory. -/
def template [DecidableEq F] [DecidableEq C] (d : String) (f : F) (render : H → Option C)
    (reg : Option String) : Effect H F C :=
  fun h n _ =>
    match n.dirs d, render h with
    | some dir, some c =>
        some ((n.write d dir f c).register reg (decide (dir.files f ≠ some c)))
    | _, _ => none

/-- {lit}`lineinfile` and the like: edit a file that must exist. -/
def editFile [DecidableEq F] (d : String) (f : F) (edit : C → C) : Effect H F C :=
  fun _ n _ =>
    match n.dirs d with
    | some dir => (dir.files f).map fun c => n.write d dir f (edit c)
    | none => none

/-- {lit}`systemd` with {lit}`state: restarted`. -/
def restarted : Effect H F C :=
  fun _ n x => some (n.startService x.alive x.ports)

/-- {lit}`systemd` with {lit}`state: started`: a running service is left alone. -/
def started : Effect H F C :=
  fun _ n x => if n.process.isSome then some n else some (n.startService x.alive x.ports)

/-- {lit}`wait_for` a port to be open. -/
def waitFor (port : String) : Effect H F C :=
  fun _ n _ => if port ∈ n.openPorts then some n else none

/-- {lit}`file` with {lit}`state: link`: the target must exist. -/
def fileLink (d : String) (reg : Option String) : Effect H F C :=
  fun _ n _ =>
    if (n.dirs d).isSome then
      some ({ n with live := some d }.register reg (decide (n.live ≠ some d)))
    else none

/-- The path is the directory or leads into it, however the two are spelt. -/
def inDir (d path : String) : Bool :=
  Text.leadsInto d.toList path.toList

/-- {lit}`file` with {lit}`state: absent`: what is in the directory is gone, too. -/
def fileAbsent (d : String) : Effect H F C :=
  fun _ n _ => some
    { n with
      dirs := fun path => if inDir d path then none else n.dirs path
      uploads := fun path => n.uploads path && !inDir d path }

/-- {lit}`file` with {lit}`state: directory`: an existing directory is left alone. -/
def fileDirectory (d : String) : Effect H F C :=
  fun _ n _ =>
    match n.dirs d with
    | some _ => some n
    | none => some { n with dirs := Function.update n.dirs d (some ⟨false, fun _ => none⟩) }

/-- Unpack an archive into a directory; files that are there already are newer and stay. -/
def VersionDir.unpack (archive : F → Option C) (dir : VersionDir F C) : VersionDir F C where
  unpacked := true
  files := fun f => (dir.files f).or (archive f)

/-- {lit}`unarchive` into a directory that must exist, unless it has been unpacked already. -/
def unarchiveInto (d : String) (archive : F → Option C) : Effect H F C :=
  fun _ n _ => (n.dirs d).map fun dir =>
    if dir.unpacked then n
    else { n with dirs := Function.update n.dirs d (some (dir.unpack archive)) }

/--
{lit}`unarchive` of an archive that brings its own directory {lit}`d` along, unless
the directory {lit}`creates` has been unpacked already.
-/
def unarchiveBeside (d creates : String) (archive : F → Option C) : Effect H F C :=
  fun _ n _ =>
    if ((n.dirs creates).elim false VersionDir.unpacked) then some n
    else some { n with
      dirs := Function.update n.dirs d
        (some (((n.dirs d).getD ⟨false, fun _ => none⟩).unpack archive)) }

/-- {lit}`copy` a file to a path. -/
def copy (path : String) : Effect H F C :=
  fun _ n _ => some { n with uploads := Function.update n.uploads path true }

/-- {lit}`stat` of a path, if the path can be rendered. -/
def stat (path : Option String) (reg : String) : Effect H F C :=
  fun _ n _ => path.map fun d =>
    { n with regs := Function.update n.regs reg (some ⟨false, some (n.dirs d).isSome⟩) }

/-- {lit}`fail`. -/
def fail : Effect H F C :=
  fun _ _ _ => none

/-! ## Calls and their effects -/

section Calls

variable {h : H} {I P Q : Node F C → Prop} {cond : H → Node F C → Option Bool}
variable {effect : Effect H F C}

/-- The node after an attempt is the old one or the one the effect describes. -/
theorem attempt_cases {n n' : Node F C} {x : Choice} {v : Verdict}
    (hatt : attempt effect h n x = some (n', v)) :
    n' = n ∨ effect h n x = some n' := by
  unfold attempt at hatt
  split at hatt
  · rename_i m hm
    cases hatt
    split
    · exact Or.inr hm
    · exact Or.inl rfl
  · split at hatt
    · cases hatt
    · cases hatt
      exact Or.inl rfl

/-- A successful attempt had its effect. -/
theorem attempt_ok {n n' : Node F C} {x : Choice}
    (hatt : attempt effect h n x = some (n', .ok)) : effect h n x = some n' := by
  unfold attempt at hatt
  split at hatt
  · rename_i m hm
    rcases Prod.mk.inj (Option.some.inj hatt) with ⟨hn', hv⟩
    rw [if_pos (Or.inl hv)] at hn'
    rw [hm, hn']
  · split at hatt
    · cases hatt
    · rename_i hv
      rcases Prod.mk.inj (Option.some.inj hatt) with ⟨_, hok⟩
      exact absurd hok hv

/-- A call keeps what its effect keeps. -/
theorem callWhen_keeps
    (heffect : ∀ n x n', I n → cond h n = some true → effect h n x = some n' → I n') :
    (callWhen cond effect).Keeps h I := by
  apply Action.Keeps.of_exec
  intro n x n' v hI hcond hexec
  rcases attempt_cases hexec with rfl | heff
  · exact hI
  · exact heffect n x n' hI hcond heff

/-- A successful call was skipped or had its effect. -/
theorem callWhen_gives (hskip : ∀ n, P n → cond h n = some false → Q n)
    (heffect : ∀ n x n', P n → cond h n = some true → effect h n x = some n' → Q n') :
    (callWhen cond effect).Gives h P Q := by
  intro n x n' hP hrun
  cases hcond : cond h n with
  | none =>
      rw [Action.run, show (callWhen cond effect).cond h n = none from hcond] at hrun
      simp [Action.settle, callWhen] at hrun
  | some b =>
      cases b with
      | false =>
          have hrun' := Action.run_of_skip x (show (callWhen cond effect).cond h n = _ from hcond)
          rw [hrun'] at hrun
          cases hrun
          exact hskip n hP hcond
      | true =>
          have hrun' := Action.run_of_cond x
            (show (callWhen cond effect).cond h n = _ from hcond) rfl
          rw [hrun'] at hrun
          exact heffect n x n' hP hcond (attempt_ok hrun)

/-- An unconditional call keeps what its effect keeps. -/
theorem call_keeps (heffect : ∀ n x n', I n → effect h n x = some n' → I n') :
    (call effect).Keeps h I :=
  callWhen_keeps fun n x n' hI _ heff => heffect n x n' hI heff

/-- A successful unconditional call had its effect. -/
theorem call_gives (heffect : ∀ n x n', P n → effect h n x = some n' → Q n') :
    (call effect).Gives h P Q :=
  callWhen_gives (fun _ _ hcond => by simp at hcond)
    fun n x n' hP _ heff => heffect n x n' hP heff

/-- A call that forgives errors keeps what its effect keeps. -/
theorem callIgnoringErrors_keeps (heffect : ∀ n x n', I n → effect h n x = some n' → I n') :
    (callIgnoringErrors effect).Keeps h I := by
  apply Action.Keeps.of_exec
  intro n x n' v hI _ hexec
  rcases attempt_cases hexec with rfl | heff
  · exact hI
  · exact heffect n x n' hI heff

/-- A module without effect keeps everything. -/
theorem noEffect_keeps : (call (noEffect : Effect H F C)).Keeps h I := by
  apply call_keeps
  intro n x n' hI heff
  cases heff
  exact hI

end Calls

/-! ## Bounds on the disk and on the process -/

/-- The link is {lit}`d`, the disk satisfies {lit}`D`, and what runs satisfies {lit}`R`. -/
structure Node.Within (d : String) (D R : (F → Option C) → Prop) (n : Node F C) : Prop where
  live : n.live = some d
  disk : D n.disk
  process : ∀ p, n.process = some p → R p

/-- The service runs, with files that satisfy {lit}`R`. -/
def Node.Runs (R : (F → Option C) → Prop) (n : Node F C) : Prop :=
  ∃ p, n.process = some p ∧ R p

/-- A port is open only while the service runs. -/
def Node.Coherent (n : Node F C) : Prop :=
  n.openPorts ≠ [] → n.process.isSome = true

section Within

variable {h : H} {d : String} {D D' R R' : (F → Option C) → Prop} {f : F}

/-- Weaker bounds hold as well. -/
theorem Node.Within.weaken {n : Node F C} (hn : n.Within d D R) (hD : ∀ c, D c → D' c)
    (hR : ∀ c, R c → R' c) : n.Within d D' R' :=
  ⟨hn.live, hD _ hn.disk, fun p hp => hR p (hn.process p hp)⟩

/-- A new run starts from the same bounds. -/
theorem Node.Within.forget {n : Node F C} (hn : n.Within d D R) : n.forget.Within d D R :=
  ⟨hn.live, hn.disk, hn.process⟩

/-- All the environment does is to let nodes come back by themselves. -/
def SelfRestarting {ε : Type} (env : ε → Node F C → Node F C) : Prop :=
  ∀ e n, ∃ ports, env e n = n.selfRestart ports

/-- Nodes coming back by themselves are an environment of this kind. -/
theorem selfRestarting : SelfRestarting (Node.selfRestart (F := F) (C := C)) :=
  fun ports _ => ⟨ports, rfl⟩

/-- The calm environment lets no node come back by itself. -/
theorem selfRestarting_calm : SelfRestarting (calm (σ := Node F C)) :=
  fun e => e.elim

section Environment

variable {ε : Type} {env : ε → Node F C → Node F C}

/-- A node that comes back by itself runs with what is on its disk. -/
theorem Node.Within.stable (henv : SelfRestarting env) (hDR : ∀ c, D c → R c) :
    Stable env (Node.Within d D R) := by
  intro e n hn
  rcases henv e n with ⟨ports, heq⟩
  rw [heq]
  refine ⟨hn.live, hn.disk, ?_⟩
  intro p hp
  cases hp
  exact hDR _ hn.disk

/-- A running node that comes back by itself is running again. -/
theorem Node.Runs.stable (henv : SelfRestarting env) :
    Stable env fun n : Node F C => n.Within d D D ∧ n.Runs D := by
  intro e n hn
  refine ⟨Node.Within.stable henv (fun _ hc => hc) e n hn.1, ?_⟩
  rcases henv e n with ⟨ports, heq⟩
  rw [heq]
  exact ⟨n.disk, rfl, hn.1.disk⟩

/-- A port opened by a node that comes back by itself is a port of a running service. -/
theorem Node.Coherent.stable (henv : SelfRestarting env) :
    Stable env fun n : Node F C => n.Within d D D ∧ n.Coherent := by
  intro e n hn
  refine ⟨Node.Within.stable henv (fun _ hc => hc) e n hn.1, ?_⟩
  rcases henv e n with ⟨ports, heq⟩
  rw [heq]
  exact fun _ => rfl

end Environment

section Write

variable [DecidableEq F]

section Template

variable [DecidableEq C] {render : H → Option C} {reg : Option String}

/-- What a template call does to a node. -/
theorem template_eq_some {n n' : Node F C} {x : Choice}
    (heff : template d f render reg h n x = some n') :
    ∃ dir c, n.dirs d = some dir ∧ render h = some c ∧
      n' = (n.write d dir f c).register reg (decide (dir.files f ≠ some c)) := by
  unfold template at heff
  split at heff
  · rename_i dir c hdir hc
    exact ⟨dir, c, hdir, hc, (Option.some.inj heff).symm⟩
  · cases heff

/-- A template call writes one file and no other. -/
theorem template_fileAt {n n' : Node F C} {x : Choice}
    (heff : template d f render reg h n x = some n') :
    ∃ c, render h = some c ∧
      ∀ e g, n'.fileAt e g = if e = d ∧ g = f then some c else n.fileAt e g := by
  rcases template_eq_some heff with ⟨dir, c, hdir, hc, rfl⟩
  exact ⟨c, hc, Node.fileAt_write hdir f c⟩

/-- A template call replaces one file on the disk. -/
theorem template_within {n n' : Node F C} {x : Choice} (hn : n.Within d D R)
    (hD : ∀ disk c, D disk → render h = some c → D' (Function.update disk f (some c)))
    (heff : template d f render reg h n x = some n') : n'.Within d D' R := by
  rcases template_eq_some heff with ⟨dir, c, hdir, hc, rfl⟩
  refine ⟨hn.live, ?_, hn.process⟩
  rw [Node.register_disk, Node.disk_write_live f c hn.live hdir]
  exact hD _ c hn.disk hc

/-- A template call whose contents fit the bound keeps the bounds. -/
theorem template_keeps
    (hD : ∀ disk c, D disk → render h = some c → D (Function.update disk f (some c))) :
    (call (template d f render reg)).Keeps h (Node.Within d D R) :=
  call_keeps fun _ _ _ hn heff => template_within hn hD heff

/-- A successful template call changes the bound on the disk. -/
theorem template_gives
    (hD : ∀ disk c, D disk → render h = some c → D' (Function.update disk f (some c))) :
    (call (template d f render reg)).Gives h (Node.Within d D R) (Node.Within d D' R) :=
  call_gives fun _ _ _ hn heff => template_within hn hD heff

end Template

section Edit

variable {edit : C → C}

/-- What an edit does to a node. -/
theorem editFile_eq_some {n n' : Node F C} {x : Choice}
    (heff : editFile d f edit h n x = some n') :
    ∃ dir c, n.dirs d = some dir ∧ dir.files f = some c ∧ n' = n.write d dir f (edit c) := by
  unfold editFile at heff
  split at heff
  · rename_i dir hdir
    rcases Option.map_eq_some_iff.mp heff with ⟨c, hc, hn'⟩
    exact ⟨dir, c, hdir, hc, hn'.symm⟩
  · cases heff

/-- An edit replaces one file on the disk. -/
theorem editFile_within {n n' : Node F C} {x : Choice} (hn : n.Within d D R)
    (hD : ∀ disk c, D disk → disk f = some c →
      D' (Function.update disk f (some (edit c))))
    (heff : editFile d f edit h n x = some n') : n'.Within d D' R := by
  rcases editFile_eq_some heff with ⟨dir, c, hdir, hc, rfl⟩
  refine ⟨hn.live, ?_, hn.process⟩
  rw [Node.disk_write_live f _ hn.live hdir]
  apply hD _ c hn.disk
  simp [Node.disk, hn.live, hdir, hc]

/-- An edit whose result fits the bound keeps the bounds. -/
theorem editFile_keeps
    (hD : ∀ disk c, D disk → disk f = some c → D (Function.update disk f (some (edit c)))) :
    (call (editFile d f edit)).Keeps h (Node.Within d D R) :=
  call_keeps fun _ _ _ hn heff => editFile_within hn hD heff

/-- A successful edit changes the bound on the disk. -/
theorem editFile_gives
    (hD : ∀ disk c, D disk → disk f = some c →
      D' (Function.update disk f (some (edit c)))) :
    (call (editFile d f edit)).Gives h (Node.Within d D R) (Node.Within d D' R) :=
  call_gives fun _ _ _ hn heff => editFile_within hn hD heff

end Edit

end Write

/-- A restart keeps the bounds when the disk is fit to run. -/
theorem restarted_keeps (hDR : ∀ c, D c → R c) :
    (call restarted).Keeps h (Node.Within (F := F) (C := C) d D R) := by
  apply call_keeps
  intro n x n' hn heff
  cases heff
  refine ⟨hn.live, hn.disk, ?_⟩
  intro p hp
  simp only [Node.startService] at hp
  split at hp
  · cases hp
    exact hDR _ hn.disk
  · cases hp

/-- After a restart the node runs what is on its disk, if it runs. -/
theorem restarted_gives :
    (call restarted).Gives h (Node.Within (F := F) (C := C) d D R)
      (fun n => n.Within d D D ∧ n.Coherent) := by
  apply call_gives
  intro n x n' hn heff
  cases heff
  refine ⟨⟨hn.live, hn.disk, ?_⟩, ?_⟩
  · intro p hp
    simp only [Node.startService] at hp
    split at hp
    · cases hp
      exact hn.disk
    · cases hp
  · intro hports
    cases hx : x.alive <;> simp_all [Node.startService]

/-- Waiting for a port changes nothing. -/
theorem waitFor_keeps {cond : H → Node F C → Option Bool} {port : String}
    {I : Node F C → Prop} : (callWhen cond (waitFor port)).Keeps h I := by
  apply callWhen_keeps
  intro n x n' hI _ heff
  unfold waitFor at heff
  split at heff
  · cases heff
    exact hI
  · cases heff

/-- An open port shows that the service runs what is on the disk. -/
theorem waitFor_gives {port : String} :
    (call (waitFor port)).Gives h (fun n : Node F C => n.Within d D D ∧ n.Coherent)
      (fun n => n.Within d D D ∧ n.Runs D) := by
  apply call_gives
  intro n x n' hn heff
  unfold waitFor at heff
  split at heff
  · rename_i hport
    cases heff
    have hsome : n.process.isSome = true := hn.2 (List.ne_nil_of_mem hport)
    rcases Option.isSome_iff_exists.mp hsome with ⟨p, hp⟩
    exact ⟨hn.1, p, hp, hn.1.process p hp⟩
  · cases heff

end Within

/-! ## Runs without outside faults -/

section Faultless

variable [DecidableEq H]

/-- A call goes well, unless the module cannot succeed. -/
def Faultless (ports : List String) (s : State H (Node F C) Choice) (h : H) (x : Choice) : Prop :=
  x = Choice.good ports ∨ x = Choice.bad ∧ s.act h (Choice.good ports) = none

/-- A call of a module. -/
def IsCall (a : Action H (Node F C) Choice) : Prop :=
  ∃ effect, a.exec = attempt effect

omit [DecidableEq H] in
@[simp]
theorem isCall_callWhen (cond : H → Node F C → Option Bool) (effect : Effect H F C) :
    IsCall (callWhen cond effect) :=
  ⟨effect, rfl⟩

omit [DecidableEq H] in
@[simp]
theorem isCall_call (effect : Effect H F C) : IsCall (call effect) :=
  ⟨effect, rfl⟩

/-- Every playbook has a run without outside faults that comes to an end. -/
theorem exists_faultless (ports : List String) {plays : List (Play H (Node F C) Choice)}
    (nodes : H → Node F C) (hcalls : ∀ p ∈ plays, ∀ a ∈ p.actions, IsCall a) :
    ∃ es s', run calm (start plays nodes) es = some s' ∧
      Lawful calm (Faultless ports) (start plays nodes) es ∧ s'.ended = true := by
  refine exists_ended (Q := fun _ a => IsCall a) ?_ nodes fun p hp h _ a ha => hcalls p hp a ha
  rintro s h a rest failed ⟨effect, hexec⟩ hbusy
  cases hgood : a.run h (s.nodes h) (Choice.good ports) with
  | some r => exact ⟨Choice.good ports, Or.inl rfl, by simp [hgood]⟩
  | none =>
      refine ⟨Choice.bad, Or.inr ⟨rfl, by simp [State.act, hbusy, hgood]⟩, ?_⟩
      unfold Action.run
      split
      · rfl
      · rfl
      · rw [hexec]
        unfold attempt
        split <;> simp [Choice.bad]

end Faultless

end Service
end ClusterPlaybooks
