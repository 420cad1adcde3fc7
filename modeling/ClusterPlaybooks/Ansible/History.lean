import ClusterPlaybooks.Ansible.Machine

/-!
# Histories of runs

An operator runs playbooks one after the other.  Each run starts from the nodes
the run before it left behind and may be stopped anywhere.  What the controller
remembered about a host during a run is gone when the next run starts; the
function {lit}`forget` removes it from the node state.

Main results:

- Theorem {lit}`Moment.induct`: an invariant of the nodes that every run
  re-establishes wherever it is stopped holds throughout every history.
- Theorem {lit}`Moment.induct_provided`: the same for runs that do so only from
  certain nodes.
- Theorem {lit}`runAll_induct`: the same for the nodes after a whole history.
-/

namespace ClusterPlaybooks
namespace Ansible

variable {H σ χ ε : Type} [DecidableEq H]

/-- A playbook together with what happened during one run of it. -/
structure Launch (H σ χ ε : Type) where
  plays : List (Play H σ χ)
  events : List (Event H χ ε)

/-- The state a new run starts in. -/
def launch (forget : σ → σ) (plays : List (Play H σ χ)) (nodes : H → σ) : State H σ χ :=
  start plays fun h => forget (nodes h)

/-- The nodes after all runs of a history. -/
def runAll (env : ε → σ → σ) (forget : σ → σ) :
    (H → σ) → List (Launch H σ χ ε) → Option (H → σ)
  | nodes, [] => some nodes
  | nodes, l :: ls =>
      (run env (launch forget l.plays nodes) l.events).bind fun s =>
        runAll env forget s.nodes ls

/-- {lit}`s` is a moment of the history {lit}`ls` that starts from {lit}`nodes`. -/
inductive Moment (env : ε → σ → σ) (forget : σ → σ) :
    (H → σ) → List (Launch H σ χ ε) → State H σ χ → Prop where
  | now {nodes : H → σ} {l : Launch H σ χ ε} {ls : List (Launch H σ χ ε)}
      {es : List (Event H χ ε)} {s : State H σ χ} :
      es <+: l.events → run env (launch forget l.plays nodes) es = some s →
      Moment env forget nodes (l :: ls) s
  | later {nodes : H → σ} {l : Launch H σ χ ε} {ls : List (Launch H σ χ ε)}
      {m s : State H σ χ} :
      run env (launch forget l.plays nodes) l.events = some m →
      Moment env forget m.nodes ls s → Moment env forget nodes (l :: ls) s

/-- A moment of a single run is a state after some of its events. -/
theorem Moment.single {env : ε → σ → σ} {forget : σ → σ} {nodes : H → σ}
    {l : Launch H σ χ ε} {s : State H σ χ} (hmoment : Moment env forget nodes [l] s) :
    ∃ es, es <+: l.events ∧ run env (launch forget l.plays nodes) es = some s := by
  cases hmoment with
  | now hes hrun => exact ⟨_, hes, hrun⟩
  | later _ hmoment => cases hmoment

section Induction

variable {α : Type} {env : ε → σ → σ} {forget : σ → σ} {J : (H → σ) → Prop}
variable {G : State H σ χ → Prop} {nodes : H → σ} {s : State H σ χ}

/-- Every run of the history starts from nodes that meet its condition. -/
def Provided (env : ε → σ → σ) (forget : σ → σ) (toLaunch : α → Launch H σ χ ε)
    (cond : α → (H → σ) → Prop) : (H → σ) → List α → Prop
  | _, [] => True
  | nodes, r :: rs => cond r nodes ∧
      ∀ m, run env (launch forget (toLaunch r).plays nodes) (toLaunch r).events = some m →
        Provided env forget toLaunch cond m.nodes rs

/-- No condition is always met. -/
theorem provided_of_forall {toLaunch : α → Launch H σ χ ε} {cond : α → (H → σ) → Prop}
    (hcond : ∀ r nodes, cond r nodes) (rs : List α) :
    Provided env forget toLaunch cond nodes rs := by
  induction rs generalizing nodes with
  | nil => trivial
  | cons r rs ih => exact ⟨hcond r nodes, fun _ _ => ih⟩

/--
An invariant that each run keeps wherever it is stopped, provided that it starts from
nodes that meet its condition, holds at every moment.
-/
theorem Moment.induct_provided {toLaunch : α → Launch H σ χ ε} {cond : α → (H → σ) → Prop}
    {rs : List α}
    (hrun : ∀ r ∈ rs, ∀ nodes es s, J nodes → cond r nodes → es <+: (toLaunch r).events →
      run env (launch forget (toLaunch r).plays nodes) es = some s → G s ∧ J s.nodes)
    (hstart : J nodes) (hprov : Provided env forget toLaunch cond nodes rs)
    (hmoment : Moment env forget nodes (rs.map toLaunch) s) : G s := by
  induction rs generalizing nodes with
  | nil => cases hmoment
  | cons r rs ih =>
      rcases hprov with ⟨hcond, hrest⟩
      cases hmoment with
      | now hes hs => exact (hrun r List.mem_cons_self nodes _ s hstart hcond hes hs).1
      | @later _ _ _ m _ hm hlater =>
          refine ih (fun r' hr' => hrun r' (List.mem_cons_of_mem r hr')) ?_ (hrest m hm) hlater
          exact (hrun r List.mem_cons_self nodes _ m hstart hcond List.prefix_rfl hm).2

/-- An invariant that each run keeps wherever it is stopped holds at every moment. -/
theorem Moment.induct {ls : List (Launch H σ χ ε)}
    (hrun : ∀ l ∈ ls, ∀ nodes es s, J nodes → es <+: l.events →
      run env (launch forget l.plays nodes) es = some s → G s ∧ J s.nodes)
    (hstart : J nodes) (hmoment : Moment env forget nodes ls s) : G s := by
  have hprov : Provided env forget id (fun _ _ => True) nodes ls :=
    provided_of_forall (fun _ _ => trivial) ls
  have hmoment : Moment env forget nodes (ls.map id) s := by
    rw [List.map_id]
    exact hmoment
  exact Moment.induct_provided (fun l hl nodes es s hJ _ => hrun l hl nodes es s hJ) hstart
    hprov hmoment

/-- An invariant that each run keeps holds of the nodes a history leaves behind. -/
theorem runAll_induct {nodes' : H → σ} {ls : List (Launch H σ χ ε)}
    (hrun : ∀ l ∈ ls, ∀ nodes s, J nodes →
      run env (launch forget l.plays nodes) l.events = some s → J s.nodes)
    (hstart : J nodes) (hall : runAll env forget nodes ls = some nodes') : J nodes' := by
  induction ls generalizing nodes with
  | nil =>
      simp only [runAll, Option.some.injEq] at hall
      exact hall ▸ hstart
  | cons l ls ih =>
      simp only [runAll, Option.bind_eq_some_iff] at hall
      rcases hall with ⟨s, hs, hrest⟩
      apply ih
      · intro l' hl'
        exact hrun l' (List.mem_cons_of_mem l hl')
      · exact hrun l List.mem_cons_self nodes s hstart hs
      · exact hrest

end Induction

end Ansible
end ClusterPlaybooks
