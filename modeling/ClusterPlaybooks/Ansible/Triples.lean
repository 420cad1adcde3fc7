import ClusterPlaybooks.Ansible.Machine

/-!
# Pre- and postconditions of task lists

The state of a host changes only through its own module calls and through the
environment.  Two notions describe what a list of module calls does to one host.
{lit}`Keeps` is an invariant of a single call, whatever its outcome.
{lit}`Ensures` is a partial-correctness triple for a list of calls all of which
succeed, with environment events anywhere in between.  {lit}`Guards` is the
safety part for a list of tasks: it bounds every state the host can be in,
also after a failed call and inside a loop that goes on after one.

Main results:

- Theorem {lit}`Path.split`: a path through a concatenation has a middle state.
- Theorems {lit}`Ensures.nil`, {lit}`Ensures.cons`, {lit}`Ensures.append`: the
  rules for lists of module calls.
- Theorems {lit}`Guards.nil`, {lit}`Guards.cons`, {lit}`Guards.append`: the rules for the
  states during a list of tasks.
- Theorem {lit}`Guards.of_keeps`: an assertion that every call keeps bounds all
  states.
-/

namespace ClusterPlaybooks
namespace Ansible

variable {H σ χ ε : Type}

/-! ## Single module calls -/

/-- Whatever the outcome of the call, {lit}`I` survives it. -/
def Action.Keeps (a : Action H σ χ) (h : H) (I : σ → Prop) : Prop :=
  ∀ s x s' v, I s → a.run h s x = some (s', v) → I s'

/-- A successful call takes {lit}`P` to {lit}`Q`. -/
def Action.Gives (a : Action H σ χ) (h : H) (P Q : σ → Prop) : Prop :=
  ∀ s x s', P s → a.run h s x = some (s', .ok) → Q s'

/-- A call that preserves an assertion in all cases also preserves it on success. -/
theorem Action.Keeps.gives {a : Action H σ χ} {h : H} {I : σ → Prop}
    (hkeeps : a.Keeps h I) : a.Gives h I I := by
  intro s x s' hI hrun
  exact hkeeps s x s' .ok hI hrun

/-- A call keeps an assertion about some hosts only if it keeps it for all. -/
theorem Action.Keeps.imp {a : Action H σ χ} {h : H} {c : Prop} {I : σ → Prop}
    (hkeeps : a.Keeps h I) : a.Keeps h fun s => c → I s := by
  intro s x s' v hI hrun hc
  exact hkeeps s x s' v (hI hc) hrun

/-- Strengthen the assertion before a call and weaken the one after it. -/
theorem Action.Gives.consequence {a : Action H σ χ} {h : H} {P P' Q Q' : σ → Prop}
    (hgives : a.Gives h P Q) (hpre : ∀ s, P' s → P s) (hpost : ∀ s, Q s → Q' s) :
    a.Gives h P' Q' := by
  intro s x s' hP hrun
  exact hpost s' (hgives s x s' (hpre s hP) hrun)

/-- A successful call gives everything it gives. -/
theorem Action.Gives.and {a : Action H σ χ} {h : H} {P Q R : σ → Prop}
    (hQ : a.Gives h P Q) (hR : a.Gives h P R) : a.Gives h P fun s => Q s ∧ R s :=
  fun s x s' hP hrun => ⟨hQ s x s' hP hrun, hR s x s' hP hrun⟩

/-- A call with a satisfied {lit}`when` clause that forgives nothing is its module. -/
theorem Action.run_of_cond {a : Action H σ χ} {h : H} {s : σ} (x : χ)
    (hcond : a.cond h s = some true) (herr : a.ignoreErrors = false) :
    a.run h s x = a.exec h s x := by
  have hsettle : ∀ v, a.settle v = v := by
    intro v
    simp [Action.settle, herr]
  simp [Action.run, hcond, hsettle]

/-- A skipped call succeeds and changes nothing. -/
theorem Action.run_of_skip {a : Action H σ χ} {h : H} {s : σ} (x : χ)
    (hcond : a.cond h s = some false) : a.run h s x = some (s, .ok) := by
  simp [Action.run, hcond]

/-- The node after a call is the old one or what the module made of it. -/
theorem Action.run_cases {a : Action H σ χ} {h : H} {s s' : σ} {x : χ} {v : Verdict}
    (hrun : a.run h s x = some (s', v)) :
    s' = s ∨ ∃ w, a.cond h s = some true ∧ a.exec h s x = some (s', w) := by
  unfold Action.run at hrun
  split at hrun
  · exact Or.inl (Prod.mk.inj (Option.some.inj hrun)).1.symm
  · exact Or.inl (Prod.mk.inj (Option.some.inj hrun)).1.symm
  · rename_i hcond
    obtain ⟨r, hr, hs'⟩ := Option.map_eq_some_iff.mp hrun
    have hfst : r.1 = s' := (Prod.mk.inj hs').1
    exact Or.inr ⟨r.2, hcond, by rw [hr, ← hfst]⟩

/-- Only the module itself has to preserve an invariant. -/
theorem Action.Keeps.of_exec {a : Action H σ χ} {h : H} {I : σ → Prop}
    (hexec : ∀ s x s' v, I s → a.cond h s = some true → a.exec h s x = some (s', v) → I s') :
    a.Keeps h I := by
  intro s x s' v hI hrun
  rcases Action.run_cases hrun with rfl | ⟨w, hcond, hw⟩
  · exact hI
  · exact hexec s x s' w hI hcond hw

/-! ## Tasks -/

/-- Every call of a task keeps an assertion. -/
def Task.Keeps (t : Task H σ χ) (h : H) (I : σ → Prop) : Prop :=
  ∀ a ∈ t.items, a.Keeps h I

@[simp]
theorem Task.keeps_nil {h : H} {I : σ → Prop} {name : String} :
    (⟨name, []⟩ : Task H σ χ).Keeps h I := by
  simp [Task.Keeps]

@[simp]
theorem Task.keeps_cons {h : H} {I : σ → Prop} {name : String} {a : Action H σ χ}
    {as : List (Action H σ χ)} :
    (⟨name, a :: as⟩ : Task H σ χ).Keeps h I ↔
      a.Keeps h I ∧ (⟨name, as⟩ : Task H σ χ).Keeps h I := by
  simp [Task.Keeps]

/-- Every call of a list of tasks keeps an assertion. -/
def TasksKeep (h : H) (I : σ → Prop) (tasks : List (Task H σ χ)) : Prop :=
  ∀ a ∈ tasks.flatMap Task.items, a.Keeps h I

@[simp]
theorem tasksKeep_nil {h : H} {I : σ → Prop} : TasksKeep (χ := χ) h I [] := by
  simp [TasksKeep]

@[simp]
theorem tasksKeep_cons {h : H} {I : σ → Prop} {t : Task H σ χ} {ts : List (Task H σ χ)} :
    TasksKeep h I (t :: ts) ↔ t.Keeps h I ∧ TasksKeep h I ts := by
  simp [TasksKeep, Task.Keeps, or_imp, forall_and]

@[simp]
theorem tasksKeep_append {h : H} {I : σ → Prop} {ts us : List (Task H σ χ)} :
    TasksKeep h I (ts ++ us) ↔ TasksKeep h I ts ∧ TasksKeep h I us := by
  simp [TasksKeep, or_imp, forall_and]

/-! ## Paths of one host -/

/-- The states one host goes through while the given calls succeed in order. -/
inductive Path (env : ε → σ → σ) (h : H) : List (Action H σ χ) → σ → σ → Prop where
  | nil (s : σ) : Path env h [] s s
  | env {as : List (Action H σ χ)} {s m : σ} (e : ε) :
      Path env h as s m → Path env h as s (env e m)
  | act {as : List (Action H σ χ)} {s m s' : σ} {a : Action H σ χ} (x : χ) :
      Path env h as s m → a.run h m x = some (s', .ok) → Path env h (as ++ [a]) s s'

/-- A path through a concatenation passes a state between the two parts. -/
theorem Path.split {env : ε → σ → σ} {h : H} {as bs : List (Action H σ χ)} {s s' : σ}
    (hpath : Path env h (as ++ bs) s s') :
    ∃ m, Path env h as s m ∧ Path env h bs m s' := by
  generalize hcs : as ++ bs = cs at hpath
  induction hpath generalizing bs with
  | nil s =>
      obtain ⟨rfl, rfl⟩ := List.append_eq_nil_iff.mp hcs
      exact ⟨s, Path.nil s, Path.nil s⟩
  | env e _ ih =>
      obtain ⟨m, hfst, hsnd⟩ := ih hcs
      exact ⟨m, hfst, Path.env e hsnd⟩
  | @act cs s m s' a x hpath hrun ih =>
      -- the last call belongs to the second part unless that part is empty
      rcases List.eq_nil_or_concat bs with rfl | ⟨bs', b, rfl⟩
      · rw [List.append_nil] at hcs
        subst hcs
        exact ⟨s', Path.act x hpath hrun, Path.nil s'⟩
      · rw [List.concat_eq_append, ← List.append_assoc] at hcs
        obtain ⟨hinit, hlast⟩ := List.append_inj' hcs rfl
        obtain ⟨m', hfst, hsnd⟩ := ih hinit
        rw [List.concat_eq_append, (List.cons.inj hlast).1]
        exact ⟨m', hfst, Path.act x hsnd hrun⟩

/-- A path may begin with a call. -/
theorem Path.cons {env : ε → σ → σ} {h : H} {a : Action H σ χ} {as : List (Action H σ χ)}
    {s m s' : σ} (x : χ) (hrun : a.run h s x = some (m, .ok)) (hpath : Path env h as m s') :
    Path env h (a :: as) s s' := by
  induction hpath with
  | nil m => exact Path.act x (Path.nil s) hrun
  | env e _ ih => exact Path.env e (ih hrun)
  | act y _ hlast ih => exact Path.act y (ih hrun) hlast

/-! ## Triples for lists of calls -/

/-- The environment cannot falsify an assertion. -/
def Stable (env : ε → σ → σ) (P : σ → Prop) : Prop :=
  ∀ e s, P s → P (env e s)

/-- An assertion about some hosts only is stable if it is stable for all. -/
theorem Stable.imp {env : ε → σ → σ} {c : Prop} {P : σ → Prop} (hstable : Stable env P) :
    Stable env fun s => c → P s := by
  intro e s hs hc
  exact hstable e s (hs hc)

/-- The calm environment falsifies nothing. -/
theorem stable_calm (P : σ → Prop) : Stable calm P :=
  fun e => e.elim

/-- From {lit}`P`, if all calls succeed, the host ends up in {lit}`Q`. -/
def Ensures (env : ε → σ → σ) (h : H) (P : σ → Prop) (as : List (Action H σ χ))
    (Q : σ → Prop) : Prop :=
  ∀ s s', P s → Path env h as s s' → Q s'

section Rules

variable {env : ε → σ → σ} {h : H} {P Q R : σ → Prop}

/-- The empty list keeps every stable assertion. -/
theorem Ensures.nil (hstable : Stable env P) :
    Ensures (χ := χ) env h P [] P := by
  intro s s' hP hpath
  generalize has : ([] : List (Action H σ χ)) = as at hpath
  induction hpath with
  | nil s => exact hP
  | env e _ ih => exact hstable e _ (ih hP has)
  | act x _ _ _ => simp at has

/-- Sequential composition. -/
theorem Ensures.append {as bs : List (Action H σ χ)}
    (hfst : Ensures env h P as R) (hsnd : Ensures env h R bs Q) :
    Ensures env h P (as ++ bs) Q := by
  intro s s' hP hpath
  obtain ⟨m, hm, hm'⟩ := hpath.split
  exact hsnd m s' (hfst s m hP hm) hm'

/-- Run one call, then the others. -/
theorem Ensures.cons {a : Action H σ χ} {as : List (Action H σ χ)}
    (hstable : Stable env P) (hstableR : Stable env R) (hgives : a.Gives h P R)
    (hrest : Ensures env h R as Q) : Ensures env h P (a :: as) Q := by
  have hone : Ensures env h P [a] R := by
    intro s s' hP hpath
    generalize has : [a] = cs at hpath
    induction hpath with
    | nil s => simp at has
    | env e _ ih => exact hstableR e _ (ih hP has)
    | @act cs s m s' b x hpath hrun _ =>
        have hcs : cs = [] ∧ b = a := by
          rcases List.append_eq_singleton_iff.mp has.symm with ⟨hnil, hb⟩ | ⟨_, hb⟩
          · exact ⟨hnil, (List.cons.inj hb).1⟩
          · cases hb
        obtain ⟨rfl, rfl⟩ := hcs
        exact hgives m x s' (Ensures.nil hstable s m hP hpath) hrun
  exact Ensures.append hone hrest

/-- Strengthen the assertion before the calls and weaken the one after them. -/
theorem Ensures.consequence {P' : σ → Prop} {as : List (Action H σ χ)}
    (hens : Ensures env h P as R) (hpre : ∀ s, P' s → P s) (hpost : ∀ s, R s → Q s) :
    Ensures env h P' as Q := by
  intro s s' hP hpath
  exact hpost s' (hens s s' (hpre s hP) hpath)

/-- Calls that all keep a stable assertion keep it together. -/
theorem Ensures.of_keeps {as : List (Action H σ χ)} (hstable : Stable env P)
    (hkeeps : ∀ a ∈ as, a.Keeps h P) : Ensures env h P as P := by
  induction as with
  | nil => exact Ensures.nil hstable
  | cons a as ih =>
      have hhead : a.Keeps h P := hkeeps a List.mem_cons_self
      have htail : ∀ b ∈ as, b.Keeps h P := fun b hb => hkeeps b (List.mem_cons_of_mem a hb)
      exact Ensures.cons hstable hstable hhead.gives (ih htail)

/-- A stable assertion that holds before and is given by a call holds after it. -/
theorem Ensures.single {a : Action H σ χ} (hstable : Stable env P) (hstableQ : Stable env Q)
    (hgives : a.Gives h P Q) : Ensures env h P [a] Q :=
  Ensures.cons hstable hstableQ hgives (Ensures.nil hstableQ)

end Rules

/-! ## States during a task list -/

/-- The states during the items of one task, each of which may fail. -/
inductive Loop (env : ε → σ → σ) (h : H) : List (Action H σ χ) → σ → σ → Prop where
  | nil (s : σ) : Loop env h [] s s
  | env {as : List (Action H σ χ)} {s m : σ} (e : ε) :
      Loop env h as s m → Loop env h as s (env e m)
  | act {as : List (Action H σ χ)} {s m s' : σ} {a : Action H σ χ} {v : Verdict} (x : χ) :
      Loop env h as s m → a.run h m x = some (s', v) → Loop env h (as ++ [a]) s s'

/--
All states of a host from {lit}`P` on satisfy {lit}`I`: some tasks succeeded, and
the items of the next task ran up to some point.
-/
def Guards (env : ε → σ → σ) (h : H) (P : σ → Prop) (tasks : List (Task H σ χ))
    (I : σ → Prop) : Prop :=
  ∀ s m s' ts t rest as bs, P s → tasks = ts ++ t :: rest → t.items = as ++ bs →
    Path env h (ts.flatMap Task.items) s m → Loop env h as m s' → I s'

section Guarding

variable {env : ε → σ → σ} {h : H} {P R I J : σ → Prop}

/-- A stable assertion that every item keeps bounds the states during a loop. -/
theorem Loop.keeps {as : List (Action H σ χ)} {s s' : σ} (hstable : Stable env J)
    (hkeeps : ∀ a ∈ as, a.Keeps h J) (hJ : J s) (hloop : Loop env h as s s') : J s' := by
  induction hloop with
  | nil s => exact hJ
  | env e _ ih => exact hstable e _ (ih hkeeps hJ)
  | @act as s m s' a v x _ hrun ih =>
      have hprev : ∀ b ∈ as, b.Keeps h J := fun b hb => hkeeps b (List.mem_append_left _ hb)
      exact hkeeps a (by simp) m x s' v (ih hprev hJ) hrun

/-- There are no states during the empty list. -/
theorem Guards.nil : Guards (χ := χ) env h P [] I := by
  intro s m s' ts t rest as bs _ htasks
  simp at htasks

/-- Bound the states during the first task by {lit}`J`, then go on after it. -/
theorem Guards.cons {t : Task H σ χ} {ts : List (Task H σ χ)} (hstable : Stable env J)
    (hPJ : ∀ s, P s → J s) (hJI : ∀ s, J s → I s) (hkeeps : ∀ a ∈ t.items, a.Keeps h J)
    (hens : Ensures env h P t.items R) (hrest : Guards env h R ts I) :
    Guards env h P (t :: ts) I := by
  intro s m s' us u rest as bs hP htasks hitems hpath hloop
  cases us with
  | nil =>
      rw [List.nil_append] at htasks
      rcases List.cons.inj htasks with ⟨rfl, rfl⟩
      have hJm : J m := Ensures.nil hstable s m (hPJ s hP) hpath
      have has : ∀ a ∈ as, a.Keeps h J := by
        intro a ha
        apply hkeeps
        rw [hitems]
        exact List.mem_append_left _ ha
      exact hJI s' (hloop.keeps hstable has hJm)
  | cons u' us =>
      rw [List.cons_append] at htasks
      rcases List.cons.inj htasks with ⟨rfl, htail⟩
      rw [List.flatMap_cons] at hpath
      rcases hpath.split with ⟨n, hfst, hsnd⟩
      exact hrest n m s' us u rest as bs (hens s n hP hfst) htail hitems hsnd hloop

/-- Bound the states during some tasks, then go on after them. -/
theorem Guards.append {ts us : List (Task H σ χ)} (hfst : Guards env h P ts I)
    (hens : Ensures env h P (ts.flatMap Task.items) R) (hsnd : Guards env h R us I) :
    Guards env h P (ts ++ us) I := by
  intro s m s' vs t rest as bs hP htasks hitems hpath hloop
  rcases List.append_eq_append_iff.mp htasks with ⟨ws, hvs, hrest⟩ | ⟨ws, hts, hrest⟩
  · -- the current task is one of the later tasks
    rw [hvs, List.flatMap_append] at hpath
    rcases hpath.split with ⟨n, hn, hn'⟩
    exact hsnd n m s' ws t rest as bs (hens s n hP hn) hrest hitems hn' hloop
  · cases ws with
    | nil =>
        rw [List.append_nil] at hts
        rw [← hts] at hpath
        have hR : R m := hens s m hP hpath
        exact hsnd m m s' [] t rest as bs hR (by simpa using hrest.symm) hitems
          (Path.nil m) hloop
    | cons w ws =>
        rw [List.cons_append] at hrest
        rcases List.cons.inj hrest with ⟨rfl, _⟩
        exact hfst s m s' vs t ws as bs hP hts hitems hpath hloop

/-- Strengthen the assertion before the tasks and weaken the bound. -/
theorem Guards.consequence {P' : σ → Prop} {tasks : List (Task H σ χ)}
    (hguards : Guards env h P tasks J) (hpre : ∀ s, P' s → P s) (hJI : ∀ s, J s → I s) :
    Guards env h P' tasks I := by
  intro s m s' ts t rest as bs hP htasks hitems hpath hloop
  exact hJI s' (hguards s m s' ts t rest as bs (hpre s hP) htasks hitems hpath hloop)

/-- An assertion that all calls of the tasks keep bounds all states. -/
theorem Guards.of_keeps {tasks : List (Task H σ χ)} (hstable : Stable env I)
    (hPI : ∀ s, P s → I s) (hkeeps : ∀ a ∈ tasks.flatMap Task.items, a.Keeps h I) :
    Guards env h P tasks I := by
  intro s m s' ts t rest as bs hP htasks hitems hpath hloop
  have hmem : ∀ u ∈ ts ++ t :: rest, ∀ a ∈ u.items, a.Keeps h I := by
    intro u hu a ha
    exact hkeeps a (List.mem_flatMap.mpr ⟨u, htasks ▸ hu, ha⟩)
  have hts : ∀ a ∈ ts.flatMap Task.items, a.Keeps h I := by
    intro a ha
    rcases List.mem_flatMap.mp ha with ⟨u, hu, hau⟩
    exact hmem u (List.mem_append_left _ hu) a hau
  have has : ∀ a ∈ as, a.Keeps h I := by
    intro a ha
    apply hmem t (by simp) a
    rw [hitems]
    exact List.mem_append_left _ ha
  exact hloop.keeps hstable has (Ensures.of_keeps hstable hts s m (hPI s hP) hpath)

end Guarding

end Ansible
end ClusterPlaybooks
