import ClusterPlaybooks.Ansible.Lockstep
import ClusterPlaybooks.Mysql.GroupReplication

/-!
# Running the setup again

A run of {lit}`setup_mgr.yml` on CentOS 7 first restarts every server, which takes it out of
its group.  On a host that already has one of the two accounts the script that creates them
fails, and the host is dropped before it is back in a group.  So a further run brings all
hosts together only if no host has an account yet.

Main results:

- Theorem {lit}`setup_advances`: what each call of a run without outside faults does.
- Theorem {lit}`setup_repairs_iff`: when a run without outside faults ends with all hosts in
  one group.
-/

namespace ClusterPlaybooks
namespace Mysql

open Ansible

variable {H : Type} [DecidableEq H]

/-! ## Runs without outside faults -/

/-- No outside fault: a server joins the group of a seed, and fails to only if there is none. -/
def Faultless (inv : Inventory H) (s : State H (Server H) (Choice H)) (h : H) (x : Choice H) :
    Prop :=
  x.verdict = .ok ∧ JoinsSeed inv s h x ∧
    (x.meets = none → ∀ k ∈ inv.hosts, k ∈ (s.nodes h).seeds → (s.nodes k).group = none)

/-- Every run of the playbook without outside faults ends with all hosts in one group. -/
def Repairs (inv : Inventory H) (v : Vars H) (nodes : H → Server H) : Prop :=
  ∀ es s, run calm (launch id (setupMgr inv v) nodes) es = some s →
    Lawful calm (Faultless inv) (launch id (setupMgr inv v) nodes) es → s.ended = true →
    ∃ g, ∀ h ∈ inv.hosts, (s.nodes h).group = some g

/-! ## The hosts during such a run -/

/-- The script that creates the accounts gets through on this host. -/
def Clean (v : Vars H) (s : Server H) : Prop :=
  v.mysqlReplUser ≠ "monitor" ∧ v.mysqlReplUser ∉ s.accounts ∧ "monitor" ∉ s.accounts

/-- A server after its restart. -/
def Server.restarted (inv : Inventory H) (s : Server H) : Server H :=
  { s with cnfSeeds := inv.mgrNode, seeds := inv.mgrNode, bootstrap := false, group := none }

/-- A server with its accounts. -/
def Server.enrolled (inv : Inventory H) (v : Vars H) (s : Server H) : Server H :=
  { s.restarted inv with accounts := "monitor" :: v.mysqlReplUser :: s.accounts }

/-- The group the bootstrap host creates in the run. -/
def newGroup (inv : Inventory H) (nodes : H → Server H) : Group H :=
  ⟨inv.bootstrap, (nodes inv.bootstrap).founded⟩

/-- A host that has got through the first calls of the play. -/
def Reached (inv : Inventory H) (v : Vars H) (nodes : H → Server H) (made : Nat) (h : H)
    (s : Server H) : Prop :=
  if made ≤ 2 then s = nodes h
  else if made ≤ 4 then s = { nodes h with cnfSeeds := inv.mgrNode }
  else if made ≤ 10 then s = (nodes h).restarted inv
  else Clean v (nodes h) ∧
    if made ≤ 11 then s = (nodes h).enrolled inv v
    else if h = inv.bootstrap then s.group = some (newGroup inv nodes)
    else if made ≤ 13 then s = (nodes h).enrolled inv v
    else s.group = some (newGroup inv nodes) ∧ inv.bootstrap ∈ inv.mgrNode

/-- A host that was dropped in the run. -/
def Dropped (inv : Inventory H) (v : Vars H) (nodes : H → Server H) (h : H) (s : Server H) :
    Prop :=
  (¬Clean v (nodes h) ∧ s.group = none) ∨
  (h = inv.bootstrap ∧ Clean v (nodes h) ∧ s.group = some (newGroup inv nodes)) ∨
  (h ≠ inv.bootstrap ∧ s.group = none ∧
    (¬Clean v (nodes inv.bootstrap) ∨ inv.bootstrap ∉ inv.mgrNode))

variable {inv : Inventory H} {v : Vars H} {nodes : H → Server H}
variable {s : State H (Server H) (Choice H)} {h : H}

/-- A host in the last tasks is in no group or in the new one. -/
theorem group_of_late (hs : Lockstep (setupPlay inv v) (Reached inv v nodes)
      (Dropped inv v nodes) s)
    (hlate : ∀ k ∈ inv.hosts, k ∉ s.fresh → ∃ m, 13 ≤ m ∧ Reached inv v nodes m k (s.nodes k))
    {k : H} (hk : k ∈ inv.hosts) {g : Group H} (hg : (s.nodes k).group = some g) :
    g = newGroup inv nodes ∧ (k = inv.bootstrap ∨ inv.bootstrap ∈ inv.mgrNode) := by
  by_cases hfresh : k ∈ s.fresh
  · rcases hs.dropped k hfresh with ⟨_, hnone⟩ | ⟨hb, _, hsome⟩ | ⟨_, hnone, _⟩
    · rw [hnone] at hg
      cases hg
    · rw [hsome] at hg
      exact ⟨(Option.some.inj hg).symm, Or.inl hb⟩
    · rw [hnone] at hg
      cases hg
  · rcases hlate k hk hfresh with ⟨m, hm, hreached⟩
    have h2 : ¬m ≤ 2 := by omega
    have h4 : ¬m ≤ 4 := by omega
    have h10 : ¬m ≤ 10 := by omega
    have h11 : ¬m ≤ 11 := by omega
    simp only [Reached, h2, h4, h10, h11, if_false] at hreached
    rcases hreached with ⟨_, hreached⟩
    by_cases hb : k = inv.bootstrap
    · rw [if_pos hb, hg] at hreached
      exact ⟨Option.some.inj hreached, Or.inl hb⟩
    · rw [if_neg hb] at hreached
      split at hreached
      · rw [hreached] at hg
        cases hg
      · rw [hg] at hreached
        exact ⟨Option.some.inj hreached.1, Or.inr hreached.2⟩

/-! ## The calls of the play -/

/-- A call without a script. -/
def inertCall : Action H (Server H) (Choice H) :=
  scriptWhen (fun _ => true) Statement.exec []

/-- The calls of the play in order. -/
theorem setupPlay_actions : (setupPlay inv v).actions =
    [inertCall, inertCall,
      scriptWhen (fun _ => true) Statement.exec [.configureSeeds inv.mgrNode],
      inertCall,
      scriptWhen (fun h => v.majorVersion h == "7") Statement.exec [.restart],
      inertCall, inertCall, inertCall, inertCall, inertCall,
      scriptWhen (fun _ => true) Statement.exec (createReplicationUser v.mysqlReplUser),
      scriptWhen (fun h => h == inv.bootstrap) Statement.exec startFirstNode,
      scriptWhen (fun h => h == inv.bootstrap) Statement.exec additionToSys,
      scriptWhen (fun h => h != inv.bootstrap) Statement.exec startOtherNode] :=
  rfl

/-- The tasks have one call each, but for the one that ends with the tenth call. -/
theorem setupPlay_task {ts us : List (Task H (Server H) (Choice H))}
    {t : Task H (Server H) (Choice H)} (htask : (setupPlay inv v).tasks = ts ++ t :: us) :
    t.items.length = 1 ∨ (ts.flatMap Task.items).length + t.items.length = 10 := by
  have hlengths := congrArg (List.map fun t => t.items.length) htask
  rw [List.map_append, List.map_cons,
    show (setupPlay inv v).tasks.map (fun t => t.items.length) =
      [1, 1, 1, 1, 1, 1, 4, 1, 1, 1, 1] from rfl] at hlengths
  have hcount : ts.length < 11 := by
    have hlen := congrArg List.length htask
    rw [List.length_append, List.length_cons] at hlen
    have hall : (setupPlay inv v).tasks.length = 11 := rfl
    omega
  have hcheck : ∀ n < 11, [1, 1, 1, 1, 1, 1, 4, 1, 1, 1, 1].getD n 0 = 1 ∨
      ([1, 1, 1, 1, 1, 1, 4, 1, 1, 1, 1].take n).sum +
        [1, 1, 1, 1, 1, 1, 4, 1, 1, 1, 1].getD n 0 = 10 := by
    decide
  have hget : [1, 1, 1, 1, 1, 1, 4, 1, 1, 1, 1].getD ts.length 0 = t.items.length := by
    rw [hlengths]
    simp
  have hsum : ([1, 1, 1, 1, 1, 1, 4, 1, 1, 1, 1].take ts.length).sum =
      (ts.flatMap Task.items).length := by
    rw [hlengths, List.length_flatMap]
    simp
  rw [← hget, ← hsum]
  exact hcheck ts.length hcount

/--
A call of the later tasks is the last one of its task, and every host that was not dropped
has made all calls before it.
-/
theorem late_call {A : Nat → H → Server H → Prop} {D : H → Server H → Prop}
    {a : Action H (Server H) (Choice H)} {rest done : List (Action H (Server H) (Choice H))}
    (hs : Lockstep (setupPlay inv v) A D s) (hbusy : s.busy h = some ⟨a :: rest, false⟩)
    (hdone : done ++ a :: (rest ++ s.tasks.flatMap Task.items) = (setupPlay inv v).actions)
    (hlate : 10 ≤ done.length) :
    rest = [] ∧
      ∀ k ∈ inv.hosts, k ∉ s.fresh → ∃ m, done.length ≤ m ∧ A m k (s.nodes k) := by
  rcases hs.working h _ hbusy with ⟨ts, t, htask, hsuffix⟩
  have hitems : rest.length + 1 ≤ t.items.length := hsuffix.length_le
  have hactions := congrArg List.length hdone
  rw [Play.actions, htask, List.flatMap_append, List.flatMap_cons] at hactions
  simp only [List.length_append, List.length_cons] at hactions
  have hone : t.items.length = 1 := by
    rcases setupPlay_task htask with hone | hten
    · exact hone
    · omega
  refine ⟨List.eq_nil_of_length_eq_zero (by omega), ?_⟩
  intro k hk hfresh
  rcases hs.together htask hk hfresh with ⟨m, hm, hA⟩
  exact ⟨m, by omega, hA⟩

section Calls

variable {x : Choice H} {n n' : Server H} {w : Verdict}

omit [DecidableEq H] in
/-- A call without a script succeeds and changes nothing. -/
theorem inertCall_run (hok : x.verdict = .ok) (hrun : inertCall.run h n x = some (n', w)) :
    w = .ok ∧ n' = n := by
  rw [inertCall, scriptWhen_run_ok rfl n hok] at hrun
  cases hrun
  exact ⟨rfl, rfl⟩

omit [DecidableEq H] in
/-- A call of a single statement that succeeds. -/
theorem statementCall_run {cond : H → Bool} {st : Statement H} {m : Server H}
    (hcond : cond h = true) (hst : ∀ seed, st.exec h seed n = some m) (hok : x.verdict = .ok)
    (hrun : (scriptWhen cond Statement.exec [st]).run h n x = some (n', w)) :
    w = .ok ∧ n' = m := by
  rw [scriptWhen_run_ok hcond n hok, runScript_cons_some (hst x.meets)] at hrun
  cases hrun
  exact ⟨rfl, rfl⟩

omit [DecidableEq H] in
/-- The accounts are created on a clean host, and any other host is dropped outside of groups. -/
theorem createCall_run (hok : x.verdict = .ok) (hn : n = (nodes h).restarted inv)
    (hrun : (scriptWhen (fun _ => true) Statement.exec
      (createReplicationUser v.mysqlReplUser)).run h n x = some (n', w)) :
    w = .ok ∧ Clean v (nodes h) ∧ n' = (nodes h).enrolled inv v ∨
      w ≠ .ok ∧ ¬Clean v (nodes h) ∧ n'.group = none := by
  rw [scriptWhen_run_ok rfl n hok, runScript_createReplicationUser] at hrun
  have haccounts : n.accounts = (nodes h).accounts := by rw [hn]; rfl
  have hgroup : n.group = none := by rw [hn]; rfl
  split at hrun
  · rename_i huser
    rw [haccounts] at huser
    cases hrun
    exact Or.inr ⟨by simp, fun hclean => hclean.2.1 huser, hgroup⟩
  · rename_i huser
    split at hrun
    · rename_i hmonitor
      rw [haccounts] at hmonitor
      cases hrun
      refine Or.inr ⟨by simp, fun hclean => ?_, hgroup⟩
      rcases hmonitor with hname | hmem
      · exact hclean.1 hname.symm
      · exact hclean.2.2 hmem
    · rename_i hmonitor
      rw [haccounts] at huser hmonitor
      cases hrun
      refine Or.inl ⟨rfl, ⟨?_, huser, ?_⟩, by rw [hn]; rfl⟩
      · exact fun hname => hmonitor (Or.inl hname.symm)
      · exact fun hmem => hmonitor (Or.inr hmem)

/-- The bootstrap host creates the new group. -/
theorem firstCall_run (hok : x.verdict = .ok) (hb : h = inv.bootstrap)
    (hn : n = (nodes h).enrolled inv v)
    (hrun : (scriptWhen (fun h => h == inv.bootstrap) Statement.exec startFirstNode).run h n x =
      some (n', w)) :
    w = .ok ∧ n'.group = some (newGroup inv nodes) := by
  subst hn
  rw [scriptWhen_run_ok (by simp [hb]) _ hok] at hrun
  have hscript : runScript (Statement.exec h x.meets) startFirstNode ((nodes h).enrolled inv v) =
      ({ (nodes h).enrolled inv v with
        group := some ⟨h, (nodes h).founded⟩, founded := (nodes h).founded + 1 }, true) := by
    simp [startFirstNode, runScript, Statement.exec, Server.enrolled, Server.restarted]
  rw [hscript] at hrun
  cases hrun
  exact ⟨rfl, by rw [newGroup, ← hb]⟩

/-- Adding functions leaves the server in its group. -/
theorem sysCall_run
    (hrun : (scriptWhen (fun h => h == inv.bootstrap) Statement.exec additionToSys).run h n x =
      some (n', w)) : n'.group = n.group := by
  have hkeeps : (scriptWhen (fun h => h == inv.bootstrap) Statement.exec additionToSys).Keeps h
      fun m => m.group = n.group := by
    apply scriptWhen_keeps
    intro _ st hst seed m m' hm hexec
    rw [← hm]
    simp only [additionToSys, List.mem_cons, List.not_mem_nil, or_false] at hst
    rcases hst with rfl | rfl | rfl | rfl | rfl | rfl | rfl | rfl
    · cases hexec
      rfl
    all_goals
      simp only [Statement.exec] at hexec
      split at hexec
      · cases hexec
      · cases hexec
        rfl
  exact hkeeps n x n' w rfl hrun

/-- Another host joins the group of a seed, or stays outside if there is none. -/
theorem otherCall_run (hok : x.verdict = .ok) (hb : h ≠ inv.bootstrap)
    (hn : n = (nodes h).enrolled inv v)
    (hrun : (scriptWhen (fun h => h != inv.bootstrap) Statement.exec startOtherNode).run h n x =
      some (n', w)) :
    (∃ g, x.meets = some g ∧ w = .ok ∧ n'.group = some g) ∨
      x.meets = none ∧ w ≠ .ok ∧ n'.group = none := by
  subst hn
  rw [scriptWhen_run_ok (by simp [hb]) _ hok] at hrun
  cases hmeets : x.meets with
  | none =>
      rw [hmeets] at hrun
      have hscript : runScript (Statement.exec h none) startOtherNode
          ((nodes h).enrolled inv v) = ((nodes h).enrolled inv v, false) := by
        simp [startOtherNode, runScript, Statement.exec, Server.enrolled, Server.restarted]
      rw [hscript] at hrun
      cases hrun
      exact Or.inr ⟨rfl, by simp, rfl⟩
  | some g =>
      rw [hmeets] at hrun
      have hscript : runScript (Statement.exec h (some g)) startOtherNode
          ((nodes h).enrolled inv v) =
            ({ (nodes h).enrolled inv v with group := some g }, true) := by
        simp [startOtherNode, runScript, Statement.exec, Server.enrolled, Server.restarted]
      rw [hscript] at hrun
      cases hrun
      exact Or.inl ⟨g, rfl, rfl, rfl⟩

end Calls

/-- What each call of a run without outside faults does. -/
theorem setup_advances (hcentos : ∀ h ∈ inv.hosts, v.majorVersion h = "7") :
    Advances (setupPlay inv v) (Faultless inv) (Reached inv v nodes) (Dropped inv v nodes) := by
  intro s h a rest x n w done hs hbusy hdone hA hlaw hrun
  rcases hlaw with ⟨hok, hjoins, hnone⟩
  have hh : h ∈ inv.hosts := (hs.busy h _ hbusy).1
  have hlate := late_call hs hbusy hdone
  have hget : (setupPlay inv v).actions[done.length]? = some a := by
    rw [← hdone]
    simp
  rw [setupPlay_actions] at hget
  generalize done.length = m at hget hA hlate ⊢
  have hinert : a = inertCall → Reached inv v nodes (m + 1) h (s.nodes h) →
      w = .ok ∧ Reached inv v nodes (m + 1) h n ∨
        w ≠ .ok ∧ rest = [] ∧ Dropped inv v nodes h n := by
    rintro rfl hnext
    rcases inertCall_run hok hrun with ⟨rfl, rfl⟩
    exact Or.inl ⟨rfl, hnext⟩
  match m with
  | 0 => exact hinert (Option.some.inj hget).symm hA
  | 1 => exact hinert (Option.some.inj hget).symm hA
  | 2 =>
      cases hget
      rcases statementCall_run rfl (fun _ => rfl) hok hrun with ⟨rfl, rfl⟩
      have hA : s.nodes h = nodes h := hA
      exact Or.inl ⟨rfl, by rw [hA]; rfl⟩
  | 3 => exact hinert (Option.some.inj hget).symm hA
  | 4 =>
      cases hget
      rcases statementCall_run (by simp [hcentos h hh]) (fun _ => rfl) hok hrun with ⟨rfl, rfl⟩
      have hA : s.nodes h = { nodes h with cnfSeeds := inv.mgrNode } := hA
      exact Or.inl ⟨rfl, by rw [hA]; rfl⟩
  | 5 => exact hinert (Option.some.inj hget).symm hA
  | 6 => exact hinert (Option.some.inj hget).symm hA
  | 7 => exact hinert (Option.some.inj hget).symm hA
  | 8 => exact hinert (Option.some.inj hget).symm hA
  | 9 => exact hinert (Option.some.inj hget).symm hA
  | 10 =>
      cases hget
      have hA : s.nodes h = (nodes h).restarted inv := hA
      rcases createCall_run hok hA hrun with ⟨rfl, hclean, hn⟩ | ⟨hw, hdirty, hgroup⟩
      · exact Or.inl ⟨rfl, hclean, hn⟩
      · exact Or.inr ⟨hw, (hlate (by omega)).1, Or.inl ⟨hdirty, hgroup⟩⟩
  | 11 =>
      cases hget
      have hA : Clean v (nodes h) ∧ s.nodes h = (nodes h).enrolled inv v := hA
      by_cases hb : h = inv.bootstrap
      · rcases firstCall_run hok hb hA.2 hrun with ⟨rfl, hgroup⟩
        refine Or.inl ⟨rfl, hA.1, ?_⟩
        simpa [hb] using hgroup
      · rw [scriptWhen_run_skip (by simp [hb])] at hrun
        cases hrun
        refine Or.inl ⟨rfl, hA.1, ?_⟩
        simpa [hb] using hA.2
  | 12 =>
      cases hget
      rcases hA with ⟨hclean, hA⟩
      by_cases hb : h = inv.bootstrap
      · have hgroup : n.group = some (newGroup inv nodes) := by
          rw [sysCall_run hrun]
          simpa [hb] using hA
        by_cases hw : w = .ok
        · refine Or.inl ⟨hw, hclean, ?_⟩
          simpa [hb] using hgroup
        · exact Or.inr ⟨hw, (hlate (by omega)).1, Or.inr (Or.inl ⟨hb, hclean, hgroup⟩)⟩
      · rw [scriptWhen_run_skip (by simp [hb])] at hrun
        cases hrun
        exact Or.inl ⟨rfl, hclean, hA⟩
  | 13 =>
      cases hget
      rcases hA with ⟨hclean, hA⟩
      by_cases hb : h = inv.bootstrap
      · rw [scriptWhen_run_skip (by simp [hb])] at hrun
        cases hrun
        refine Or.inl ⟨rfl, hclean, ?_⟩
        simpa [hb] using hA
      · have hA : s.nodes h = (nodes h).enrolled inv v := by simpa [hb] using hA
        have hlate := hlate (by omega)
        have hseeds : (s.nodes h).seeds = inv.mgrNode := by rw [hA]; rfl
        rcases otherCall_run hok hb hA hrun with ⟨g, hmeets, rfl, hgroup⟩ | ⟨hmeets, hw, hgroup⟩
        · -- every group that a seed can be in is the new one
          rcases hjoins g hmeets with ⟨k, hk, hseed, hg⟩
          rcases group_of_late hs hlate.2 hk hg with ⟨rfl, hwhere⟩
          have hboot : inv.bootstrap ∈ inv.mgrNode := by
            rcases hwhere with rfl | hboot
            · exact hseeds ▸ hseed
            · exact hboot
          refine Or.inl ⟨rfl, hclean, ?_⟩
          simpa [hb] using ⟨hgroup, hboot⟩
        · -- the bootstrap host would have answered
          refine Or.inr ⟨hw, hlate.1, Or.inr (Or.inr ⟨hb, hgroup, ?_⟩)⟩
          by_contra hcontra
          rw [not_or, not_not, not_not] at hcontra
          have hout := hnone hmeets inv.bootstrap inv.bootstrap_mem (hseeds ▸ hcontra.2)
          by_cases hfresh : inv.bootstrap ∈ s.fresh
          · rcases hs.dropped _ hfresh with ⟨hdirty, _⟩ | ⟨_, _, hsome⟩ | ⟨hne, _⟩
            · exact hdirty hcontra.1
            · rw [hout] at hsome
              cases hsome
            · exact hne rfl
          · rcases hlate.2 _ inv.bootstrap_mem hfresh with ⟨m, hm, hreached⟩
            have h2 : ¬m ≤ 2 := by omega
            have h4 : ¬m ≤ 4 := by omega
            have h10 : ¬m ≤ 10 := by omega
            have h11 : ¬m ≤ 11 := by omega
            simp only [Reached, h2, h4, h10, h11, if_false, if_true, hout] at hreached
            cases hreached.2
  | m + 14 => cases hget

/-! ## When a run brings the hosts together -/

/-- The choice of {lit}`quiet` is no outside fault. -/
theorem quiet_faultless (s : State H (Server H) (Choice H)) (h : H) :
    Faultless inv s h (quiet inv s h) :=
  ⟨rfl, quiet_joinsSeed s h, seedGroup_eq_none⟩

/-- A host at the end of a run without outside faults. -/
theorem setup_ended (hcentos : ∀ h ∈ inv.hosts, v.majorVersion h = "7")
    {es : List (Event H (Choice H) Empty)}
    (hrun : run calm (launch id (setupMgr inv v) nodes) es = some s)
    (hlaw : Lawful calm (Faultless inv) (launch id (setupMgr inv v) nodes) es)
    (hend : s.ended = true) (hh : h ∈ inv.hosts) :
    Dropped inv v nodes h (s.nodes h) ∨
      Clean v (nodes h) ∧ (s.nodes h).group = some (newGroup inv nodes) ∧
        (h = inv.bootstrap ∨ inv.bootstrap ∈ inv.mgrNode) := by
  have hhosts : (setupPlay inv v).hosts ≠ [] := List.ne_nil_of_mem inv.bootstrap_mem
  rcases lockstep_run (setup_advances hcentos) rfl rfl hhosts (fun _ _ => rfl) hlaw hrun with
    ⟨_, hnot⟩ | hs
  · rw [hend] at hnot
    cases hnot
  · rcases hs.ended hend hh with hdropped | ⟨hclean, hreached⟩
    · exact Or.inl hdropped
    · refine Or.inr ⟨hclean, ?_⟩
      have hcount : (setupPlay inv v).actions.length = 14 := rfl
      by_cases hb : h = inv.bootstrap
      · exact ⟨by simpa [hb, hcount] using hreached, Or.inl hb⟩
      · have hjoined : (s.nodes h).group = some (newGroup inv nodes) ∧
            inv.bootstrap ∈ inv.mgrNode := by
          simpa [hb, hcount] using hreached
        exact ⟨hjoined.1, Or.inr hjoined.2⟩

/--
All hosts run CentOS 7.  A run of the playbook without outside faults ends with all hosts in
one group exactly if no host has one of the two accounts before it and the first host is one
of the seeds, or the only host.
-/
theorem setup_repairs_iff (inv : Inventory H) (v : Vars H) (nodes : H → Server H)
    (hcentos : ∀ h ∈ inv.hosts, v.majorVersion h = "7") :
    Repairs inv v nodes ↔
      (∀ h ∈ inv.hosts, Clean v (nodes h)) ∧
        (inv.bootstrap ∈ inv.mgrNode ∨ ∀ h ∈ inv.hosts, h = inv.bootstrap) := by
  constructor
  · intro hrepairs
    -- there is such a run, and a host that is in a group at its end got through
    have hcomplete : ∃ es s, run calm (launch id (setupMgr inv v) nodes) es = some s ∧
        Lawful calm (Faultless inv) (launch id (setupMgr inv v) nodes) es ∧ s.ended = true := by
      refine exists_ended (Q := fun _ a => ∃ cond script, a = scriptWhen cond Statement.exec script)
        ?_ nodes fun p hp _ _ => setup_scripts p hp
      rintro s h a rest failed ⟨cond, script, rfl⟩ _
      exact ⟨quiet inv s h, quiet_faultless s h, scriptWhen_run_isSome _ _⟩
    rcases hcomplete with ⟨es, s, hrun, hlaw, hend⟩
    rcases hrepairs es s hrun hlaw hend with ⟨g, hg⟩
    have hthrough : ∀ h ∈ inv.hosts, Clean v (nodes h) ∧
        (h = inv.bootstrap ∨ inv.bootstrap ∈ inv.mgrNode) := by
      intro h hh
      have hgroup := hg h hh
      rcases setup_ended hcentos hrun hlaw hend hh with
        (⟨_, hnone⟩ | ⟨hb, hclean, _⟩ | ⟨_, hnone, _⟩) | ⟨hclean, _, hboot⟩
      · rw [hnone] at hgroup
        cases hgroup
      · exact ⟨hclean, Or.inl hb⟩
      · rw [hnone] at hgroup
        cases hgroup
      · exact ⟨hclean, hboot⟩
    refine ⟨fun h hh => (hthrough h hh).1, ?_⟩
    by_cases hboot : inv.bootstrap ∈ inv.mgrNode
    · exact Or.inl hboot
    · exact Or.inr fun h hh => (hthrough h hh).2.resolve_right hboot
  · rintro ⟨hclean, hboot⟩ es s hrun hlaw hend
    refine ⟨newGroup inv nodes, ?_⟩
    intro h hh
    rcases setup_ended hcentos hrun hlaw hend hh with
      (⟨hdirty, _⟩ | ⟨_, _, hgroup⟩ | ⟨hb, _, hwhy⟩) | ⟨_, hgroup, _⟩
    · exact absurd (hclean h hh) hdirty
    · exact hgroup
    · rcases hwhy with hdirty | hout
      · exact absurd (hclean _ inv.bootstrap_mem) hdirty
      · exact absurd (hboot.resolve_left hout h hh) hb
    · exact hgroup

/-- The first run on servers as they were installed. -/
theorem setup_repairs_installed :
    Repairs siteInventory siteVars (fun _ => installed) ↔
      (∀ h ∈ siteInventory.hosts, Clean siteVars installed) ∧
        (siteInventory.bootstrap ∈ siteInventory.mgrNode ∨
          ∀ h ∈ siteInventory.hosts, h = siteInventory.bootstrap) :=
  setup_repairs_iff siteInventory siteVars (fun _ => installed) fun _ _ => rfl

/-- A second run after a fully successful one leaves no host in a group. -/
theorem second_setup_dissolves :
    (siteRun 60 fun _ => installed).succeeded = true ∧
      (∀ h ∈ siteInventory.hosts, ((siteRun 60 fun _ => installed).nodes h).group =
        some ⟨"192.168.1.101", 0⟩) ∧
      (∀ h ∈ siteInventory.hosts,
        ((siteRun 60 (siteRun 60 fun _ => installed).nodes).nodes h).group = none) ∧
      ¬Repairs siteInventory siteVars (siteRun 60 fun _ => installed).nodes := by
  have hnone : ∀ h ∈ siteInventory.hosts,
      ((siteRun 60 (siteRun 60 fun _ => installed).nodes).nodes h).group = none := by
    decide +kernel
  refine ⟨by decide +kernel, by decide +kernel, hnone, ?_⟩
  intro hrepairs
  have hrun := run_follow calm (quiet siteInventory) 60
    (launch id (setupMgr siteInventory siteVars) (siteRun 60 fun _ => installed).nodes)
  rcases hrepairs _ _ hrun (lawful_follow quiet_faultless 60 _) (by decide +kernel) with ⟨g, hg⟩
  have hfirst := hnone "192.168.1.101" (by decide)
  cases hfirst.symm.trans (hg "192.168.1.101" (by decide))

end Mysql
end ClusterPlaybooks
