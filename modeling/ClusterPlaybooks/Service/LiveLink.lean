import ClusterPlaybooks.Ansible.History
import ClusterPlaybooks.Ansible.Progress
import ClusterPlaybooks.Service.Roles

/-!
# The link to the live version

Most modules remove no directory and leave the link alone, and the link module only
points it to a directory that is there.  Removing a directory is harmless exactly for
nodes whose link does not lead into it.

Main results:

- Theorem {lit}`KeepsDirs.call_keeps`: calls that only add directories keep the link intact.
- Theorem {lit}`fileLink_spared`: so does pointing the link to another directory.
- Theorem {lit}`without_linked_iff`: when it survives the removal of a directory.
- Theorem {lit}`versions_linked`: the links are intact throughout every history in which
  removals spare the live directories.
- Theorem {lit}`removal_linked_iff`: for one removal this condition is exact.
-/

namespace ClusterPlaybooks
namespace Service

open Ansible

variable {H F C : Type} {h : H} {n : Node F C} {d : String}

/-! ## Intact links -/

/-- The link points to a directory that exists. -/
def Node.Linked (n : Node F C) : Prop :=
  ∃ d, n.live = some d ∧ (n.dirs d).isSome = true

/-- The live directory is there. -/
theorem Node.linked_iff : n.Linked ↔ (n.live.bind n.dirs).isSome = true := by
  rw [Node.Linked]
  cases n.live with
  | none => simp
  | some d => simp

instance : Decidable n.Linked :=
  decidable_of_iff _ Node.linked_iff.symm

/-- The link does not lead into a directory that is going to be removed. -/
def Node.Spared (removes : Option String) (n : Node F C) : Prop :=
  ∀ d ∈ removes, ∀ l ∈ n.live, inDir d l = false

instance (removes : Option String) : Decidable (n.Spared removes) :=
  inferInstanceAs (Decidable (∀ d ∈ removes, ∀ l ∈ n.live, inDir d l = false))

/-- Nothing is going to be removed. -/
theorem Node.spared_none : n.Spared none := by
  intro d hd
  cases hd

/-! ## What the modules do to it -/

/-- The effect leaves the link alone and removes no directory. -/
structure KeepsDirs (effect : Effect H F C) : Prop where
  live : ∀ h n x n', effect h n x = some n' → n'.live = n.live
  dirs : ∀ h n x n', effect h n x = some n' → ∀ d, (n.dirs d).isSome = true →
    (n'.dirs d).isSome = true

section Keeps

variable {removes : Option String}

/-- Such an effect keeps an intact link intact. -/
theorem KeepsDirs.keeps {effect : Effect H F C} (heffect : KeepsDirs effect)
    {cond : H → Node F C → Option Bool} :
    (callWhen cond effect).Keeps h fun n => n.Linked ∧ n.Spared removes := by
  apply callWhen_keeps
  rintro n x n' ⟨⟨d, hlive, hdir⟩, hspared⟩ _ heff
  have hsame := heffect.live h n x n' heff
  refine ⟨⟨d, hsame.trans hlive, heffect.dirs h n x n' heff d hdir⟩, ?_⟩
  intro e he l hl
  exact hspared e he l (hsame ▸ hl)

/-- The same for a call without a clause. -/
theorem KeepsDirs.call_keeps {effect : Effect H F C} (heffect : KeepsDirs effect) :
    (call effect).Keeps h fun n => n.Linked ∧ n.Spared removes :=
  heffect.keeps

/-- A changed directory is still there. -/
theorem isSome_update {dirs : String → Option (VersionDir F C)} {dir : VersionDir F C} {e : String}
    (he : (dirs e).isSome = true) : (Function.update dirs d (some dir) e).isSome = true := by
  by_cases hed : e = d
  · subst hed
    simp
  · simpa [hed] using he

/-- Writing a file only changes a directory. -/
theorem template_keepsDirs [DecidableEq F] [DecidableEq C] {f : F} {render : H → Option C}
    {reg : Option String} : KeepsDirs (template d f render reg) := by
  constructor
  · intro h n x n' heff
    rcases template_eq_some heff with ⟨dir, c, _, _, rfl⟩
    rfl
  · intro h n x n' heff e he
    rcases template_eq_some heff with ⟨dir, c, _, _, rfl⟩
    exact isSome_update he

/-- Creating a directory removes none. -/
theorem fileDirectory_keepsDirs : KeepsDirs (fileDirectory d : Effect H F C) := by
  constructor
  · intro h n x n' heff
    unfold fileDirectory at heff
    split at heff
    · cases heff
      rfl
    · cases heff
      rfl
  · intro h n x n' heff e he
    unfold fileDirectory at heff
    split at heff
    · cases heff
      exact he
    · cases heff
      exact isSome_update he

/-- Unpacking an archive removes no directory. -/
theorem unarchiveInto_keepsDirs {archive : F → Option C} :
    KeepsDirs (unarchiveInto d archive : Effect H F C) := by
  constructor
  · intro h n x n' heff
    rcases Option.map_eq_some_iff.mp heff with ⟨dir, _, rfl⟩
    split <;> rfl
  · intro h n x n' heff e he
    rcases Option.map_eq_some_iff.mp heff with ⟨dir, _, rfl⟩
    split
    · exact he
    · exact isSome_update he

/-- Neither does unpacking an archive with its own directory. -/
theorem unarchiveBeside_keepsDirs {creates : String} {archive : F → Option C} :
    KeepsDirs (unarchiveBeside d creates archive : Effect H F C) := by
  constructor
  · intro h n x n' heff
    unfold unarchiveBeside at heff
    split at heff
    · cases heff
      rfl
    · cases heff
      rfl
  · intro h n x n' heff e he
    unfold unarchiveBeside at heff
    split at heff
    · cases heff
      exact he
    · cases heff
      exact isSome_update he

/-- A restart touches no directory. -/
theorem restarted_keepsDirs : KeepsDirs (restarted : Effect H F C) := by
  constructor
  · intro h n x n' heff
    cases heff
    rfl
  · intro h n x n' heff e he
    cases heff
    exact he

/-- The link is only pointed to a directory that is there. -/
theorem fileLink_spared {reg : Option String} :
    (call (fileLink d reg : Effect H F C)).Keeps h fun n => n.Linked ∧ n.Spared none := by
  apply call_keeps
  intro n x n' _ heff
  unfold fileLink at heff
  split at heff
  · rename_i hdir
    cases heff
    exact ⟨⟨d, rfl, hdir⟩, Node.spared_none⟩
  · cases heff

end Keeps

/-! ## Removing a directory -/

/-- The node after a directory was removed. -/
def Node.without (d : String) (n : Node F C) : Node F C :=
  { n with
    dirs := fun path => if inDir d path then none else n.dirs path
    uploads := fun path => n.uploads path && !inDir d path }

/-- This is what removing it does. -/
theorem fileAbsent_eq (d : String) (x : Choice) :
    (fileAbsent d : Effect H F C) h n x = some (n.without d) :=
  rfl

/-- An intact link survives exactly if it does not lead into the directory. -/
theorem without_linked_iff (hn : n.Linked) :
    (n.without d).Linked ↔ ∀ l ∈ n.live, inDir d l = false := by
  rcases hn with ⟨l, hlive, hdir⟩
  constructor
  · rintro ⟨l', hlive', hdir'⟩ l hl
    have heq : l = l' := Option.some.inj (hl.symm.trans hlive')
    subst heq
    cases hin : inDir d l with
    | false => rfl
    | true => simp [Node.without, hin] at hdir'
  · intro hspared
    refine ⟨l, hlive, ?_⟩
    simpa [Node.without, hspared l hlive] using hdir

/-- A node whose link does not lead into the directory keeps it intact. -/
theorem fileAbsent_spared {cond : H → Node F C → Option Bool} :
    (callWhen cond (fileAbsent d)).Keeps h fun n => n.Linked ∧ n.Spared (some d) := by
  apply callWhen_keeps
  rintro n x n' ⟨hlinked, hspared⟩ _ heff
  rw [fileAbsent_eq, Option.some.injEq] at heff
  subst heff
  exact ⟨(without_linked_iff hlinked).mpr (hspared d rfl), hspared⟩

/-- A removal whose clause does not hold removes nothing. -/
theorem fileAbsent_guarded {c : Option Bool} :
    (callWhen (fun _ _ => c) (fileAbsent d)).Keeps h fun n : Node F C =>
      n.Linked ∧ n.Spared (if c = some true then some d else none) := by
  by_cases hc : c = some true
  · rw [if_pos hc]
    exact fileAbsent_spared
  · apply callWhen_keeps
    intro n x n' _ hcond
    exact absurd hcond hc

/-! ## Histories -/

/--
A playbook that installs or removes versions.  It keeps the links intact if none of them
leads into the directory it removes.
-/
structure VersionPlaybook (H F C : Type) where
  plays : List (Play H (Node F C) Choice)
  /-- the directory it removes, if it removes one -/
  removes : Option String
  keeps : ∀ p ∈ plays, ∀ h ∈ p.hosts, ∀ a ∈ p.actions,
    a.Keeps h fun n => n.Linked ∧ n.Spared removes

/-- A run of such a playbook. -/
structure VersionRun (H F C : Type) where
  playbook : VersionPlaybook H F C
  events : List (Event H Choice Empty)

/-- The run as a part of a history. -/
def VersionRun.toLaunch (r : VersionRun H F C) : Launch H (Node F C) Choice Empty where
  plays := r.playbook.plays
  events := r.events

/-- No link leads into the directory the run removes. -/
def VersionRun.Spares (hosts : List H) (r : VersionRun H F C) (nodes : H → Node F C) : Prop :=
  ∀ h ∈ hosts, (nodes h).Spared r.playbook.removes

variable [DecidableEq H] {hosts : List H} {nodes : H → Node F C}

/-- A run keeps the links intact if it starts from nodes it spares. -/
theorem version_run_linked {r : VersionRun H F C} {es : List (Event H Choice Empty)}
    {s : State H (Node F C) Choice} (hlinked : ∀ h ∈ hosts, (nodes h).Linked)
    (hspares : r.Spares hosts nodes)
    (hrun : run calm (launch Node.forget r.playbook.plays nodes) es = some s) :
    ∀ h ∈ hosts, (s.nodes h).Linked := by
  have hkeep : ∀ p ∈ r.playbook.plays, ∀ h ∈ p.hosts, ∀ a ∈ p.actions,
      a.Keeps h fun n => h ∈ hosts → n.Linked ∧ n.Spared r.playbook.removes :=
    fun p hp h hh a ha => (r.playbook.keeps p hp h hh a ha).imp
  have hstart : ∀ h, h ∈ hosts →
      (nodes h).forget.Linked ∧ (nodes h).forget.Spared r.playbook.removes :=
    fun h hh => ⟨hlinked h hh, hspares h hh⟩
  intro h hh
  exact (run_keeps (fun _ => stable_calm _) hkeep hstart hrun h hh).1

/-- The links are intact throughout every history in which all runs spare them. -/
theorem versions_linked {rs : List (VersionRun H F C)} {s : State H (Node F C) Choice}
    (hlinked : ∀ h ∈ hosts, (nodes h).Linked)
    (hprov : Provided calm Node.forget VersionRun.toLaunch (VersionRun.Spares hosts) nodes rs)
    (hmoment : Moment calm Node.forget nodes (rs.map VersionRun.toLaunch) s) :
    ∀ h ∈ hosts, (s.nodes h).Linked := by
  refine Moment.induct_provided (G := fun s => ∀ h ∈ hosts, (s.nodes h).Linked)
    (J := fun nodes => ∀ h ∈ hosts, (nodes h).Linked) ?_ hlinked hprov hmoment
  intro r _ nodes es s hnodes hspares _ hrun
  have hend := version_run_linked hnodes hspares hrun
  exact ⟨hend, hend⟩

/-! ## One removal -/

/-- The calls of the play remove the directory. -/
def Removes (p : Play H (Node F C) Choice) (d : String) : Prop :=
  ∀ h n, makeCalls h (Choice.good []) p.actions n = some (Node.without d n)

/-- A removal that meets no fault gets done on all hosts. -/
theorem removal_reaches {p : Play H (Node F C) Choice} (hremoves : Removes p d)
    (nodes : H → Node F C) :
    ∃ es s, run calm (launch Node.forget [p] nodes) es = some s ∧
      ∀ h ∈ p.hosts, s.nodes h = (nodes h).forget.without d := by
  have hreach : ∃ last, Reaches (calm : Empty → Node F C → Node F C) (fun _ => True)
      (State.resting [] (fun h => (nodes h).forget) [] [] [] Play.idle [p])
      (State.resting [] (fun h => if h ∈ p.hosts then (nodes h).forget.without d
        else (nodes h).forget) [] last [] p []) := by
    apply Reaches.play (x := Choice.good []) _ trivial
    · intro h hh
      rw [if_pos hh.1]
      exact hremoves h _
    · intro h hh
      rw [if_neg fun hmem => hh ⟨hmem, List.not_mem_nil⟩]
  rcases hreach with ⟨last, es, _, hrun⟩
  refine ⟨es, _, hrun, ?_⟩
  intro h hh
  exact if_pos hh

/--
All runs of one removal keep the links intact exactly if none of them leads into the
directory.
-/
theorem removal_linked_iff {q : VersionPlaybook H F C} {p : Play H (Node F C) Choice}
    (hplays : q.plays = [p]) (hremoves : q.removes = some d) (hp : Removes p d)
    (hlinked : ∀ h ∈ p.hosts, (nodes h).Linked) :
    (∀ es s, run calm (launch Node.forget q.plays nodes) es = some s →
      ∀ h ∈ p.hosts, (s.nodes h).Linked) ↔ ∀ h ∈ p.hosts, (nodes h).Spared q.removes := by
  constructor
  · intro hall h hh
    rcases removal_reaches hp nodes with ⟨es, s, hrun, hnodes⟩
    rw [← hplays] at hrun
    have hend := hall es s hrun h hh
    rw [hnodes h hh] at hend
    have hforget : (nodes h).forget.Linked := hlinked h hh
    have hspared := (without_linked_iff hforget).mp hend
    intro e he
    rw [hremoves] at he
    cases he
    exact hspared
  · intro hspares es s hrun
    exact version_run_linked (r := ⟨q, es⟩) hlinked hspares hrun

end Service
end ClusterPlaybooks
