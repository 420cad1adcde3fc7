import ClusterPlaybooks.Service.Roles

/-!
# Rolling updates

A rolling update is a serial play that changes files of the live version
directory, restarts the service, and waits for its ports.  The nodes may come
back by themselves at any moment.  Three sets of file contents describe an
update: what is there before, what may be there in between, and what is there
afterwards.

Main results:

- Theorem {lit}`rolling_ensures`: a node that gets through the play runs the new
  contents.
- Theorem {lit}`rolling_guards`: a node in the play never leaves the middle set.
- Theorem {lit}`rollingStage_valid`: the proof outline of a rolling update.
-/

namespace ClusterPlaybooks
namespace Service

open Ansible

variable {H F C ε : Type} {h : H} {d : String} {S T U : (F → Option C) → Prop}
variable {env : ε → Node F C → Node F C}

/-- The tasks of a rolling update around its configuration tasks. -/
def rollingTasks (config : List (Task H (Node F C) Choice)) (serviceName : String)
    (ports : List String) : List (Task H (Node F C) Choice) :=
  gatherFacts :: config ++ serviceState serviceName .restarted always :: portCheck ports always

/-- A node that was restarted and opens its ports runs what is on its disk. -/
theorem restart_ensures {serviceName : String} {ports : List String}
    (henv : SelfRestarting env) (hports : ports ≠ []) (hTU : ∀ c, T c → U c) :
    Ensures env h (Node.Within d T U)
      ((serviceState serviceName .restarted always :: portCheck ports always).flatMap Task.items)
      (fun n => n.Within d T T ∧ n.Runs T) := by
  cases ports with
  | nil => exact absurd rfl hports
  | cons port ports =>
      refine Ensures.cons (a := call restarted) (Node.Within.stable henv hTU)
        (Node.Coherent.stable henv) restarted_gives ?_
      refine Ensures.cons (a := call (waitFor port)) (Node.Coherent.stable henv)
        (Node.Runs.stable henv) waitFor_gives ?_
      exact Ensures.of_keeps (Node.Runs.stable henv) portCheck_keep

/-- A node that gets through a rolling update runs the new contents. -/
theorem rolling_ensures {config : List (Task H (Node F C) Choice)} {serviceName : String}
    {ports : List String} {P : Node F C → Prop} (henv : SelfRestarting env) (hports : ports ≠ [])
    (hTU : ∀ c, T c → U c) (hstable : Stable env P)
    (hconfig : Ensures env h P (config.flatMap Task.items) (Node.Within d T U)) :
    Ensures env h P
      ((rollingTasks config serviceName ports).flatMap Task.items)
      (fun n => n.Within d T T ∧ n.Runs T) := by
  rw [rollingTasks, List.cons_append, List.flatMap_cons, List.flatMap_append]
  have hgather : Ensures env h P gatherFacts.items P :=
    Ensures.single hstable hstable noEffect_keeps.gives
  exact hgather.append (hconfig.append (restart_ensures henv hports hTU))

/-- A rolling update keeps what its configuration calls and a restart keep. -/
theorem rollingTasks_keeps {config : List (Task H (Node F C) Choice)} {serviceName : String}
    {ports : List String} {I : Node F C → Prop}
    (hconfig : ∀ a ∈ config.flatMap Task.items, a.Keeps h I)
    (hrestart : (call restarted).Keeps h I) :
    ∀ a ∈ (rollingTasks config serviceName ports).flatMap Task.items, a.Keeps h I := by
  intro a ha
  rw [rollingTasks, List.cons_append, List.flatMap_cons, List.flatMap_append,
    List.flatMap_cons] at ha
  rcases List.mem_append.mp ha with ha | ha
  · cases List.mem_singleton.mp ha
    exact noEffect_keeps
  rcases List.mem_append.mp ha with ha | ha
  · exact hconfig a ha
  rcases List.mem_append.mp ha with ha | ha
  · cases List.mem_singleton.mp ha
    exact hrestart
  · exact portCheck_keep a ha

/-- A node in a rolling update never leaves the set its configuration calls stay in. -/
theorem rolling_guards {config : List (Task H (Node F C) Choice)} {serviceName : String}
    {ports : List String} (henv : SelfRestarting env) (hSU : ∀ c, S c → U c)
    (hconfig : ∀ a ∈ config.flatMap Task.items, a.Keeps h (Node.Within d U U)) :
    Guards env h (Node.Within d S S) (rollingTasks config serviceName ports)
      (Node.Within d U U) :=
  Guards.of_keeps (Node.Within.stable henv fun _ hc => hc) (fun _ hn => hn.weaken hSU hSU)
    (rollingTasks_keeps hconfig (restarted_keeps fun _ hc => hc))

/-- A rolling update with the sets of contents before, during, and after it. -/
def rollingStage (play : Play H (Node F C) Choice) (d : String)
    (S U T : (F → Option C) → Prop) : Stage H (Node F C) Choice where
  play := play
  pre := fun h n => h ∈ play.hosts → n.Within d S S
  inv := fun h n => h ∈ play.hosts → n.Within d U U
  post := fun h n => h ∈ play.hosts → n.Within d T T ∧ n.Runs T

/-- The proof outline of a rolling update. -/
theorem rollingStage_valid {hosts : List H} {nodup : hosts.Nodup}
    {config : List (Task H (Node F C) Choice)} {serviceName : String} {ports : List String}
    (henv : SelfRestarting env) (hports : ports ≠ []) (hSU : ∀ c, S c → U c)
    (hTU : ∀ c, T c → U c)
    (hkeeps : ∀ h, ∀ a ∈ config.flatMap Task.items, a.Keeps h (Node.Within d U U))
    (hconfig : ∀ h, Ensures env h (Node.Within d S S)
      (config.flatMap Task.items) (Node.Within d T U)) :
    (rollingStage (oneByOne hosts nodup (rollingTasks config serviceName ports)) d S U T).Valid
      env where
  stable_pre := fun _ => Stable.imp (Node.Within.stable henv fun _ hc => hc)
  stable_inv := fun _ => Stable.imp (Node.Within.stable henv fun _ hc => hc)
  stable_post := fun _ => Stable.imp (Node.Runs.stable henv)
  pre_inv := fun _ _ hn hh => (hn hh).weaken hSU hSU
  guards := by
    intro h hh
    exact (rolling_guards henv hSU (hkeeps h)).consequence (fun _ hn => hn hh) fun _ hn _ => hn
  ensures := by
    intro h hh
    have hstable : Stable env (Node.Within d S S) := Node.Within.stable henv fun _ hc => hc
    exact (rolling_ensures henv hports hTU hstable (hconfig h)).consequence
      (fun _ hn => hn hh) fun _ hn _ => hn
  frame := fun _ hh _ _ hmem => absurd hmem hh

end Service
end ClusterPlaybooks
