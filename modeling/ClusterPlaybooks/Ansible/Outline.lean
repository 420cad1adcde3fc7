import ClusterPlaybooks.Ansible.Calls

/-!
# Proof outlines for playbooks

A proof outline annotates every play of a playbook with three assertions about
the node of one host: what holds before the host takes part in the play, what
holds all the time while it does, and what holds after it.  From obligations
about single hosts and single module calls the outline rule derives what holds
of all hosts together at every moment of every run.

Main results:

- Theorem {lit}`Along.step`: one event keeps the outline invariant of a play, or
  enters the next play.
- Theorem {lit}`outline_sound`: every moment of every run lies in a play of the
  outline.  Hosts outside the current batch satisfy the assertion before or
  after the play, hosts of the batch satisfy the one during it, and a dropped
  host satisfies the invariant of the play that dropped it.
- Theorem {lit}`Along.exists_stage`: as long as no host was dropped, one play of
  the outline bounds all hosts.
- Theorem {lit}`InPlay.over_or_waiting`: a serial play is over for a host before any
  host after it starts.
- Theorems {lit}`outline_finished` and {lit}`outline_succeeded`: after a regular end
  every host that was not dropped satisfies the last assertion.
-/

namespace ClusterPlaybooks
namespace Ansible

variable {H σ χ ε : Type}

/-! ## Annotated plays -/

/-- A play with the assertions for a host before, during, and after it. -/
structure Stage (H σ χ : Type) where
  play : Play H σ χ
  pre : H → σ → Prop
  inv : H → σ → Prop
  post : H → σ → Prop

/-- The obligations of an annotated play, each about one host. -/
structure Stage.Valid (env : ε → σ → σ) (st : Stage H σ χ) : Prop where
  stable_pre : ∀ h, Stable env (st.pre h)
  stable_inv : ∀ h, Stable env (st.inv h)
  stable_post : ∀ h, Stable env (st.post h)
  pre_inv : ∀ h s, st.pre h s → st.inv h s
  guards : ∀ h ∈ st.play.hosts, Guards env h (st.pre h) st.play.tasks (st.inv h)
  ensures : ∀ h ∈ st.play.hosts, Ensures env h (st.pre h) st.play.actions (st.post h)
  frame : ∀ h, h ∉ st.play.hosts → ∀ s, st.pre h s → st.post h s

/-- A play during which one assertion holds all the time. -/
def Stage.steady (play : Play H σ χ) (A : H → σ → Prop) : Stage H σ χ where
  play := play
  pre := A
  inv := A
  post := A

/-- An assertion that every call of a play keeps holds all the time. -/
theorem Stage.steady_valid {env : ε → σ → σ} {play : Play H σ χ} {A : H → σ → Prop}
    (hstable : ∀ h, Stable env (A h))
    (hkeeps : ∀ h ∈ play.hosts, ∀ a ∈ play.actions, a.Keeps h (A h)) :
    (Stage.steady play A).Valid env where
  stable_pre := hstable
  stable_inv := hstable
  stable_post := hstable
  pre_inv := fun _ _ hA => hA
  guards := fun h hh => Guards.of_keeps (hstable h) (fun _ hA => hA) (hkeeps h hh)
  ensures := fun h hh => Ensures.of_keeps (hstable h) (hkeeps h hh)
  frame := fun _ _ _ hA => hA

/-- The annotation of the time before the first play. -/
def Stage.idle (A : H → σ → Prop) : Stage H σ χ :=
  Stage.steady Play.idle A

/-- Waiting for the first play keeps every stable assertion. -/
theorem Stage.idle_valid {env : ε → σ → σ} {A : H → σ → Prop}
    (hstable : ∀ h, Stable env (A h)) : (Stage.idle (χ := χ) A).Valid env := by
  apply Stage.steady_valid hstable
  intro h hh
  simp [Play.idle] at hh

/-- A play annotated for some of its hosts only. -/
def Stage.part (D : H → Prop) (play : Play H σ χ) (P I Q : σ → Prop) : Stage H σ χ where
  play := play
  pre := fun h s => D h → P s
  inv := fun h s => D h → I s
  post := fun h s => D h → Q s

/-- The obligations only concern the chosen hosts. -/
theorem Stage.part_valid {env : ε → σ → σ} {D : H → Prop} {play : Play H σ χ}
    {P I Q : σ → Prop} (hP : Stable env P) (hI : Stable env I) (hQ : Stable env Q)
    (hD : ∀ h, D h → h ∈ play.hosts) (hPI : ∀ s, P s → I s)
    (hkeeps : ∀ h, D h → TasksKeep h I play.tasks)
    (hens : ∀ h, D h → Ensures env h P play.actions Q) :
    (Stage.part D play P I Q).Valid env where
  stable_pre := fun _ => Stable.imp hP
  stable_inv := fun _ => Stable.imp hI
  stable_post := fun _ => Stable.imp hQ
  pre_inv := fun _ s hs hDh => hPI s (hs hDh)
  guards := by
    intro h _ s m s' ts t rest as bs hs htasks hitems hpath hloop hDh
    exact Guards.of_keeps hI hPI (hkeeps h hDh) s m s' ts t rest as bs (hs hDh) htasks hitems
      hpath hloop
  ensures := by
    intro h _ s s' hs hpath hDh
    exact hens h hDh s s' (hs hDh) hpath
  frame := fun h hh _ _ hDh => absurd (hD h hDh) hh

/-- Each assertion after a play gives the one before the next play. -/
def Chained : (H → σ → Prop) → List (Stage H σ χ) → Prop
  | _, [] => True
  | A, st :: rest => (∀ h s, A h s → st.pre h s) ∧ Chained st.post rest

/-- The assertion after the last play. -/
def lastPost : (H → σ → Prop) → List (Stage H σ χ) → (H → σ → Prop)
  | A, [] => A
  | _, st :: rest => lastPost st.post rest

section Invariant

variable [DecidableEq H]

/-- The calls a host of the batch still has to make. -/
def State.left (s : State H σ χ) (h : H) : List (Action H σ χ) :=
  ((s.busy h).elim [] Busy.items) ++ s.tasks.flatMap Task.items

/-- The outline invariant while the run is in the annotated play {lit}`cur`. -/
structure InPlay (env : ε → σ → σ) (outline : List (Stage H σ χ)) (cur : Stage H σ χ)
    (s : State H σ χ) : Prop where
  play_eq : s.play = cur.play
  order : s.batch ++ s.batches.flatten <:+ cur.play.hosts
  serial : cur.play.serial = true → ∀ b ∈ s.batch :: s.batches, b.length ≤ 1
  parallel : cur.play.serial = false →
    (s.batch = [] ∧ s.batches.length ≤ 1) ∨ s.batches = []
  tasks : s.tasks <:+ cur.play.tasks
  busy : ∀ h b, s.busy h = some b → h ∈ s.batch ∧ h ∉ s.lost ∧ h ∉ s.fresh
  fresh : ∀ h ∈ s.fresh, h ∈ s.batch ∧ h ∉ s.lost
  /-- a play drops a host and goes on only with other hosts, so it was not serial -/
  lost : ∀ h ∈ s.lost, ∃ st ∈ outline, st.play.serial = false ∧ h ∈ st.play.hosts ∧
    (∃ k ∈ st.play.hosts, k ≠ h) ∧ st.inv h (s.nodes h)
  during : ∀ h ∈ s.batch, h ∉ s.lost → cur.inv h (s.nodes h)
  before : ∀ h ∈ s.batches.flatten, h ∉ s.lost → cur.pre h (s.nodes h)
  after : ∀ h, h ∉ s.lost → h ∉ s.batch → h ∉ s.batches.flatten → cur.post h (s.nodes h)
  /-- a host without a failure has made its calls in order from the assertion before -/
  path : ∀ h ∈ s.batch, h ∉ s.lost → h ∉ s.fresh →
    (∀ b, s.busy h = some b → b.failed = false) →
    ∃ s₀ made, cur.pre h s₀ ∧ Path env h made s₀ (s.nodes h) ∧
      made ++ s.left h = cur.play.actions
  /-- a host at work on a task has succeeded in the tasks before it -/
  working : ∀ h b, s.busy h = some b → ∃ s₀ m ts t as, cur.pre h s₀ ∧
    cur.play.tasks = ts ++ t :: s.tasks ∧ t.items = as ++ b.items ∧
    Path env h (ts.flatMap Task.items) s₀ m ∧ Loop env h as m (s.nodes h)

variable {env : ε → σ → σ} {outline : List (Stage H σ χ)} {cur : Stage H σ χ}
variable {s : State H σ χ}

omit [DecidableEq H] in
/-- Hosts of the current and the waiting batches belong to the play. -/
theorem InPlay.hosts (hin : InPlay env outline cur s) {h : H}
    (hh : h ∈ s.batch ++ s.batches.flatten) : h ∈ cur.play.hosts :=
  hin.order.subset hh

omit [DecidableEq H] in
/-- No host is in the current batch and waits for another one. -/
theorem InPlay.not_waiting (hin : InPlay env outline cur s) {h : H} (hh : h ∈ s.batch) :
    h ∉ s.batches.flatten := by
  intro hwait
  have hnodup := hin.order.sublist.nodup cur.play.nodup
  exact (List.nodup_append.mp hnodup).2.2 h hh h hwait rfl

omit [DecidableEq H] in
/-- A batch of a serial play has one host. -/
theorem InPlay.batch_eq (hin : InPlay env outline cur s) (hserial : cur.play.serial = true) {h : H}
    (hh : h ∈ s.batch) : s.batch = [h] := by
  have hlen : s.batch.length ≤ 1 := hin.serial hserial s.batch List.mem_cons_self
  match hb : s.batch with
  | [] => simp [hb] at hh
  | [k] => simpa [hb, eq_comm] using hh
  | _ :: _ :: _ => simp [hb] at hlen

/-! ## Environment events -/

/-- The environment changes the node of one host and nothing else. -/
theorem InPlay.env_step (hin : InPlay env outline cur s) (hvalid : cur.Valid env)
    (hout : ∀ st ∈ outline, st.Valid env) (k : H) (e : ε) :
    InPlay env outline cur
      { s with nodes := Function.update s.nodes k (env e (s.nodes k)) } where
  play_eq := hin.play_eq
  order := hin.order
  serial := hin.serial
  parallel := hin.parallel
  tasks := hin.tasks
  busy := hin.busy
  fresh := hin.fresh
  lost := by
    intro h hlost
    rcases hin.lost h hlost with ⟨st, hst, hserial, hhost, hother, hinv⟩
    refine ⟨st, hst, hserial, hhost, hother, ?_⟩
    by_cases hk : h = k
    · subst hk
      simpa using (hout st hst).stable_inv h e _ hinv
    · simpa [hk] using hinv
  during := by
    intro h hbatch hlost
    have hinv := hin.during h hbatch hlost
    by_cases hk : h = k
    · subst hk
      simpa using hvalid.stable_inv h e _ hinv
    · simpa [hk] using hinv
  before := by
    intro h hwait hlost
    have hpre := hin.before h hwait hlost
    by_cases hk : h = k
    · subst hk
      simpa using hvalid.stable_pre h e _ hpre
    · simpa [hk] using hpre
  after := by
    intro h hlost hbatch hwait
    have hpost := hin.after h hlost hbatch hwait
    by_cases hk : h = k
    · subst hk
      simpa using hvalid.stable_post h e _ hpost
    · simpa [hk] using hpost
  path := by
    intro h hbatch hlost hfresh hbusy
    obtain ⟨s₀, made, hpre, hpath, hleft⟩ := hin.path h hbatch hlost hfresh hbusy
    refine ⟨s₀, made, hpre, ?_, hleft⟩
    by_cases hk : h = k
    · subst hk
      simpa using Path.env e hpath
    · simpa [hk] using hpath
  working := by
    intro h b hb
    rcases hin.working h b hb with ⟨s₀, m, ts, t, as, hpre, htasks, hitems, hpath, hloop⟩
    refine ⟨s₀, m, ts, t, as, hpre, htasks, hitems, hpath, ?_⟩
    by_cases hk : h = k
    · subst hk
      simpa using Loop.env e hloop
    · simpa [hk] using hloop

/-! ## Module calls -/

/-- A call that leaves its host undropped and unblemished was a success. -/
private theorem record_ok {k : H} {n : σ} {rest : List (Action H σ χ)} {failed : Bool}
    {v : Verdict} (hfresh : k ∉ (s.record k n rest failed v).fresh)
    (hbusy : ∀ b, (s.record k n rest failed v).busy k = some b → b.failed = false) :
    v = .ok ∧ failed = false := by
  cases v with
  | unreachable => simp [State.record] at hfresh
  | ok =>
      cases rest with
      | nil => cases failed <;> simp_all [State.record]
      | cons b bs => simpa [State.record] using hbusy
  | failed =>
      cases rest with
      | nil => simp [State.record] at hfresh
      | cons b bs => simp [State.record] at hbusy

/-- What a host has left to do after a successful call. -/
theorem State.left_record {k : H} {n : σ} {rest : List (Action H σ χ)} {failed : Bool} :
    (s.record k n rest failed .ok).left k = rest ++ s.tasks.flatMap Task.items := by
  cases rest with
  | nil => simp [State.left, State.record]
  | cons b bs => simp [State.left, State.record]

/-- A module call keeps the outline invariant. -/
theorem InPlay.act_step (hin : InPlay env outline cur s) (hvalid : cur.Valid env)
    {k : H} {a : Action H σ χ} {rest : List (Action H σ χ)} {failed : Bool} {n : σ}
    {v : Verdict} {x : χ} (hbusy : s.busy k = some ⟨a :: rest, failed⟩)
    (hrun : a.run k (s.nodes k) x = some (n, v)) :
    InPlay env outline cur (s.record k n rest failed v) := by
  rcases hin.busy k _ hbusy with ⟨hkbatch, hklost, hkfresh⟩
  have hkhost : k ∈ cur.play.hosts := hin.hosts (List.mem_append_left _ hkbatch)
  rcases hin.working k _ hbusy with ⟨s₀, m, ts, t, as, hpre, htasks, hitems, hpath, hloop⟩
  have hitems' : t.items = (as ++ [a]) ++ rest := by simpa using hitems
  have hloop' : Loop env k (as ++ [a]) m n := Loop.act x hloop hrun
  have hinv : cur.inv k n :=
    hvalid.guards k hkhost s₀ m n ts t s.tasks (as ++ [a]) rest hpre htasks hitems' hpath hloop'
  have hnotwait : k ∉ s.batches.flatten := hin.not_waiting hkbatch
  have hnodes : ∀ h, h ≠ k → (s.record k n rest failed v).nodes h = s.nodes h := by
    intro h hne
    simp [State.record, hne]
  have hsubset : ∀ h ∈ s.fresh, h ∈ (s.record k n rest failed v).fresh := by
    intro h hh
    simp only [State.record]
    split
    · exact List.mem_cons_of_mem k hh
    · exact hh
  refine ⟨hin.play_eq, hin.order, hin.serial, hin.parallel, hin.tasks, ?_, ?_, ?_,
    ?_, ?_, ?_, ?_, ?_⟩
  · -- hosts at work
    intro h b hb
    rcases State.busy_record hb with ⟨rfl, _, hv, hrest⟩ | ⟨hne, hb'⟩
    · refine ⟨hkbatch, hklost, ?_⟩
      simpa [State.record, hv, hrest] using hkfresh
    · rcases hin.busy h b hb' with ⟨hbatch, hlost, hfresh⟩
      refine ⟨hbatch, hlost, ?_⟩
      simp only [State.record]
      split
      · simp [hne, hfresh]
      · exact hfresh
  · -- dropped hosts
    intro h hh
    simp only [State.record] at hh
    split at hh
    · rcases List.mem_cons.mp hh with rfl | hh
      · exact ⟨hkbatch, hklost⟩
      · exact hin.fresh h hh
    · exact hin.fresh h hh
  · intro h hlost
    have hne : h ≠ k := fun heq => hklost (heq ▸ hlost)
    rw [hnodes h hne]
    exact hin.lost h hlost
  · intro h hbatch hlost
    by_cases hne : h = k
    · subst hne
      simpa [State.record] using hinv
    · rw [hnodes h hne]
      exact hin.during h hbatch hlost
  · intro h hwait hlost
    have hne : h ≠ k := fun heq => hnotwait (heq ▸ hwait)
    rw [hnodes h hne]
    exact hin.before h hwait hlost
  · intro h hlost hbatch hwait
    have hne : h ≠ k := fun heq => hbatch (heq ▸ hkbatch)
    rw [hnodes h hne]
    exact hin.after h hlost hbatch hwait
  · intro h hbatch hlost hfresh hgood
    by_cases hne : h = k
    · subst hne
      rcases record_ok hfresh hgood with ⟨rfl, rfl⟩
      have hclean : ∀ b, s.busy h = some b → b.failed = false := by
        intro b hb
        rw [hbusy] at hb
        exact (Option.some.inj hb) ▸ rfl
      rcases hin.path h hbatch hlost hkfresh hclean with ⟨s₀, made, hpre, hpath, hleft⟩
      refine ⟨s₀, made ++ [a], hpre, ?_, ?_⟩
      · simpa [State.record] using Path.act x hpath hrun
      · rw [State.left_record, ← hleft]
        simp [State.left, hbusy]
    · have hfresh' : h ∉ s.fresh := fun hmem => hfresh (hsubset h hmem)
      have hgood' : ∀ b, s.busy h = some b → b.failed = false := by
        intro b hb
        exact hgood b (by simpa [State.record, hne] using hb)
      obtain ⟨s₀, made, hpre, hpath, hleft⟩ := hin.path h hbatch hlost hfresh' hgood'
      refine ⟨s₀, made, hpre, ?_, ?_⟩
      · rw [hnodes h hne]
        exact hpath
      · rw [← hleft]
        simp [State.left, State.record, hne]
  · intro h b hb
    rcases State.busy_record hb with ⟨rfl, rfl, _⟩ | ⟨hne, hb'⟩
    · exact ⟨s₀, m, ts, t, as ++ [a], hpre, htasks, hitems', hpath,
        by simpa [State.record] using hloop'⟩
    · rw [hnodes h hne]
      exact hin.working h b hb'

/-! ## Moves of the controller -/

omit [DecidableEq H] in
/-- A quiet batch has no busy host, so only the waiting tasks are left. -/
private theorem quiet_busy (hin : InPlay env outline cur s) (hquiet : s.quiet = true) (h : H) :
    s.busy h = none :=
  s.idle_of_quiet (fun k b hb => (hin.busy k b hb).1) hquiet h

omit [DecidableEq H] in
/-- Aborting the run changes no assertion. -/
theorem InPlay.abort (hin : InPlay env outline cur s) :
    InPlay env outline cur { s with aborted := true } :=
  ⟨hin.play_eq, hin.order, hin.serial, hin.parallel, hin.tasks, hin.busy, hin.fresh,
    hin.lost, hin.during, hin.before, hin.after, hin.path, hin.working⟩

omit [DecidableEq H] in
/-- Between two tasks a host without a failure has made all calls of the tasks before. -/
private theorem made_eq {made : List (Action H σ χ)} {ts us : List (Task H σ χ)}
    (htasks : cur.play.tasks = ts ++ us)
    (hleft : made ++ us.flatMap Task.items = cur.play.actions) :
    made = ts.flatMap Task.items := by
  rw [Play.actions, htasks, List.flatMap_append] at hleft
  exact List.append_cancel_right hleft

/-- Handing out a task keeps the outline invariant. -/
theorem InPlay.startTask_step (hin : InPlay env outline cur s) (hquiet : s.quiet = true)
    {t : Task H σ χ} {ts : List (Task H σ χ)} (htasks : s.tasks = t :: ts) :
    InPlay env outline cur (s.startTask t ts) := by
  rcases hin.tasks with ⟨us, hus⟩
  rw [htasks] at hus
  have halive : ∀ h b, (s.startTask t ts).busy h = some b →
      (h ∈ s.batch ∧ h ∉ s.lost ∧ h ∉ s.fresh) ∧ b.items = t.items := by
    intro h b hb
    rcases State.busy_startTask hb with ⟨halive, rfl, _⟩
    exact ⟨halive, rfl⟩
  have hbefore : ∀ h ∈ s.batch, h ∉ s.lost → h ∉ s.fresh → ∃ s₀, cur.pre h s₀ ∧
      Path env h (us.flatMap Task.items) s₀ (s.nodes h) := by
    intro h hbatch hlost hfresh
    rcases hin.path h hbatch hlost hfresh (by simp [quiet_busy hin hquiet h]) with
      ⟨s₀, made, hpre, hpath, hleft⟩
    have hmade : made = us.flatMap Task.items := by
      apply made_eq hus.symm
      rw [← hleft]
      simp [State.left, htasks, quiet_busy hin hquiet h]
    exact ⟨s₀, hpre, hmade ▸ hpath⟩
  refine ⟨hin.play_eq, hin.order, hin.serial, hin.parallel, ?_, ?_, hin.fresh,
    hin.lost, hin.during, hin.before, hin.after, ?_, ?_⟩
  · exact (List.suffix_cons t ts).trans ⟨us, hus⟩
  · intro h b hb
    exact (halive h b hb).1
  · intro h hbatch hlost hfresh _
    rcases hbefore h hbatch hlost hfresh with ⟨s₀, hpre, hpath⟩
    refine ⟨s₀, us.flatMap Task.items, hpre, hpath, ?_⟩
    have hon : s.alive h = true := by
      simp only [State.alive, decide_eq_true_eq]
      exact ⟨hbatch, hlost, hfresh⟩
    rw [Play.actions, ← hus, List.flatMap_append, List.flatMap_cons]
    cases hitems : t.items with
    | nil => simp [State.left, State.startTask, hitems]
    | cons a as => simp [State.left, State.startTask, hitems, hon]
  · intro h b hb
    rcases halive h b hb with ⟨⟨hbatch, hlost, hfresh⟩, hitems⟩
    rcases hbefore h hbatch hlost hfresh with ⟨s₀, hpre, hpath⟩
    refine ⟨s₀, s.nodes h, us, t, [], hpre, hus.symm, ?_, hpath, Loop.nil _⟩
    rw [hitems, List.nil_append]

omit [DecidableEq H] in
/-- When a batch is over without failures, its hosts satisfy the assertion after the play. -/
private theorem batch_over (hin : InPlay env outline cur s) (hvalid : cur.Valid env)
    (hquiet : s.quiet = true) (htasks : s.tasks = []) {h : H} (hbatch : h ∈ s.batch)
    (hlost : h ∉ s.lost) (hfresh : h ∉ s.fresh) : cur.post h (s.nodes h) := by
  rcases hin.path h hbatch hlost hfresh (by simp [quiet_busy hin hquiet h]) with
    ⟨s₀, made, hpre, hpath, hleft⟩
  have hmade : made = cur.play.actions := by
    rw [← hleft]
    simp [State.left, htasks, quiet_busy hin hquiet h]
  have hhost : h ∈ cur.play.hosts := hin.hosts (List.mem_append_left _ hbatch)
  rw [hmade] at hpath
  exact hvalid.ensures h hhost s₀ _ hpre hpath

/-- A serial batch that goes on has dropped nobody. -/
private theorem serial_fresh (hin : InPlay env outline cur s) (hserial : cur.play.serial = true)
    (hall : s.allDropped = false) : s.fresh = [] := by
  rw [List.eq_nil_iff_forall_not_mem]
  intro h hfresh
  have hone := hin.batch_eq hserial (hin.fresh h hfresh).1
  simp [State.allDropped, hone, hfresh] at hall

/-- A batch that goes on has a host that was not dropped in it. -/
private theorem exists_kept {h : H} (hbatch : h ∈ s.batch) (hall : s.allDropped = false) :
    ∃ k ∈ s.batch, k ∉ s.fresh := by
  by_contra hnone
  simp only [not_exists, not_and, not_not] at hnone
  have hne : s.batch.isEmpty = false := by
    cases hb : s.batch with
    | nil => simp [hb] at hbatch
    | cons k ks => rfl
  have hdropped : s.allDropped = true := by
    simp only [State.allDropped, hne, Bool.not_false, Bool.true_and, List.all_eq_true,
      decide_eq_true_eq]
    exact hnone
  rw [hdropped] at hall
  cases hall

/-- Starting the next batch of a play keeps the outline invariant. -/
theorem InPlay.startBatch_step (hin : InPlay env outline cur s) (hvalid : cur.Valid env)
    (hquiet : s.quiet = true) (htasks : s.tasks = []) (hall : s.allDropped = false)
    {b : List H} {bs : List (List H)} (hbatches : s.batches = b :: bs) :
    InPlay env outline cur (s.startBatch b bs) := by
  -- a parallel play has one batch only, so the batch that is over is serial or empty
  have hfresh : s.fresh = [] := by
    cases hserial : cur.play.serial with
    | true => exact serial_fresh hin hserial hall
    | false =>
        rcases hin.parallel hserial with ⟨hempty, _⟩ | hempty
        · rw [List.eq_nil_iff_forall_not_mem]
          intro h hh
          have hmem := (hin.fresh h hh).1
          rw [hempty] at hmem
          simp at hmem
        · rw [hbatches] at hempty
          cases hempty
  have horder := hin.order
  rw [hbatches, List.flatten_cons] at horder
  refine ⟨hin.play_eq, (List.suffix_append _ _).trans horder, ?_, ?_, ?_, ?_, ?_, ?_, ?_, ?_, ?_,
    ?_, ?_⟩
  · intro hserial c hc
    apply hin.serial hserial c
    rw [hbatches]
    exact List.mem_cons_of_mem _ hc
  · intro hserial
    right
    rcases hin.parallel hserial with ⟨_, hone⟩ | hempty
    · rw [hbatches, List.length_cons] at hone
      have hzero : bs.length = 0 := by omega
      exact List.length_eq_zero_iff.mp hzero
    · rw [hbatches] at hempty
      cases hempty
  · simp [State.startBatch, hin.play_eq]
  · intro h c hc
    have hnone := quiet_busy hin hquiet h
    rw [show (s.startBatch b bs).busy h = s.busy h from rfl, hnone] at hc
    cases hc
  · intro h hh
    simp [State.startBatch] at hh
  · intro h hh
    simp only [State.startBatch, hfresh, List.append_nil] at hh
    exact hin.lost h hh
  · intro h hh hlost
    simp only [State.startBatch, hfresh, List.append_nil] at hh hlost
    exact hvalid.pre_inv h _ (hin.before h (by simp [hbatches, hh]) hlost)
  · intro h hh hlost
    simp only [State.startBatch, hfresh, List.append_nil] at hh hlost
    apply hin.before h _ hlost
    rw [hbatches, List.flatten_cons]
    exact List.mem_append_right _ hh
  · intro h hlost hnb hnw
    simp only [State.startBatch, hfresh, List.append_nil] at hlost hnb hnw
    by_cases hbatch : h ∈ s.batch
    · exact batch_over hin hvalid hquiet htasks hbatch hlost (by simp [hfresh])
    · apply hin.after h hlost hbatch
      rw [hbatches, List.flatten_cons, List.mem_append, not_or]
      exact ⟨hnb, hnw⟩
  · intro h hh hlost _ _
    simp only [State.startBatch, hfresh, List.append_nil] at hh hlost
    refine ⟨s.nodes h, [], hin.before h (by simp [hbatches, hh]) hlost, Path.nil _, ?_⟩
    simp [State.left, State.startBatch, quiet_busy hin hquiet h, Play.actions, hin.play_eq]
  · intro h c hc
    have hnone := quiet_busy hin hquiet h
    rw [show (s.startBatch b bs).busy h = s.busy h from rfl, hnone] at hc
    cases hc

/-- Entering the next play establishes its outline invariant. -/
theorem InPlay.startPlay_step (hin : InPlay env outline cur s) (hvalid : cur.Valid env)
    (hcur : cur ∈ outline) (hquiet : s.quiet = true) (htasks : s.tasks = [])
    (hall : s.allDropped = false) (hbatches : s.batches = []) {st : Stage H σ χ}
    (hst : st.Valid env) (hchain : ∀ h n, cur.post h n → st.pre h n)
    (ps : List (Play H σ χ)) : InPlay env outline st (s.startPlay st.play ps) := by
  have hpost : ∀ h, h ∉ s.lost ++ s.fresh → cur.post h (s.nodes h) := by
    intro h hh
    rw [List.mem_append, not_or] at hh
    by_cases hbatch : h ∈ s.batch
    · exact batch_over hin hvalid hquiet htasks hbatch hh.1 hh.2
    · exact hin.after h hh.1 hbatch (by simp [hbatches])
  refine ⟨rfl, ?_, ?_, ?_, ?_, ?_, ?_, ?_, ?_, ?_, ?_, ?_, ?_⟩
  · simp [State.startPlay, Play.flatten_batches]
  · intro hserial b hb
    rcases List.mem_cons.mp hb with rfl | hb
    · simp [State.startPlay]
    · simp only [State.startPlay, Play.batches, hserial, if_true, List.mem_map] at hb
      rcases hb with ⟨h, _, rfl⟩
      simp
  · intro hserial
    left
    refine ⟨rfl, ?_⟩
    change st.play.batches.length ≤ 1
    rw [Play.batches, hserial]
    cases st.play.hosts <;> simp
  · simp [State.startPlay, htasks]
  · intro h b hb
    rw [show (s.startPlay st.play ps).busy h = s.busy h from rfl, quiet_busy hin hquiet h] at hb
    cases hb
  · intro h hh
    simp [State.startPlay] at hh
  · intro h hh
    rcases List.mem_append.mp hh with hlost | hfresh
    · exact hin.lost h hlost
    · -- only a parallel play goes on after dropping a host
      rcases hin.fresh h hfresh with ⟨hbatch, hlost⟩
      refine ⟨cur, hcur, ?_, hin.hosts (List.mem_append_left _ hbatch), ?_,
        hin.during h hbatch hlost⟩
      · cases hserial : cur.play.serial with
        | false => rfl
        | true =>
            rw [serial_fresh hin hserial hall] at hfresh
            simp at hfresh
      · rcases exists_kept hbatch hall with ⟨k, hk, hkept⟩
        refine ⟨k, hin.hosts (List.mem_append_left _ hk), ?_⟩
        rintro rfl
        exact hkept hfresh
  · intro h hh
    simp [State.startPlay] at hh
  · intro h hh hlost
    exact hchain h _ (hpost h hlost)
  · intro h hlost _ hwait
    simp only [State.startPlay, Play.flatten_batches] at hwait
    exact hst.frame h hwait _ (hchain h _ (hpost h hlost))
  · intro h hh
    simp [State.startPlay] at hh
  · intro h b hb
    rw [show (s.startPlay st.play ps).busy h = s.busy h from rfl, quiet_busy hin hquiet h] at hb
    cases hb

/-! ## Soundness of outlines -/

/-- The run is in some play of the outline and has the plays after it ahead. -/
def Along (env : ε → σ → σ) (outline : List (Stage H σ χ)) (s : State H σ χ) : Prop :=
  ∃ cur rest, InPlay env outline cur s ∧ s.plays = rest.map Stage.play ∧
    Chained cur.post rest ∧ (cur :: rest) <:+ outline

/-- Every event of a run keeps it along a valid outline. -/
theorem Along.step (hout : ∀ st ∈ outline, st.Valid env) {e : Event H χ ε} {s' : State H σ χ}
    (halong : Along env outline s) (hstep : s.step env e = some s') :
    Along env outline s' := by
  rcases halong with ⟨cur, rest, hin, hplays, hchain, hsuffix⟩
  have hcur : cur ∈ outline := hsuffix.subset List.mem_cons_self
  have hvalid : cur.Valid env := hout cur hcur
  cases e with
  | act k x =>
      rcases State.act_cases hstep with ⟨a, items, failed, n, v, hbusy, hrun, rfl⟩
      exact ⟨cur, rest, hin.act_step hvalid hbusy hrun, hplays, hchain, hsuffix⟩
  | env k e =>
      cases hstep
      exact ⟨cur, rest, hin.env_step hvalid hout k e, hplays, hchain, hsuffix⟩
  | next =>
      rcases State.next_cases hstep with ⟨_, hquiet, hcases⟩
      rcases hcases with ⟨_, rfl⟩ | ⟨t, ts, htasks, rfl⟩ | ⟨b, bs, htasks, hall, hbatches, rfl⟩ |
        ⟨p, ps, htasks, hall, hbatches, hps, rfl⟩
      · exact ⟨cur, rest, hin.abort, hplays, hchain, hsuffix⟩
      · exact ⟨cur, rest, hin.startTask_step hquiet htasks, hplays, hchain, hsuffix⟩
      · exact ⟨cur, rest, hin.startBatch_step hvalid hquiet htasks hall hbatches, hplays, hchain,
          hsuffix⟩
      · cases rest with
        | nil =>
            rw [hps] at hplays
            cases hplays
        | cons st rest =>
            rw [hps, List.map_cons] at hplays
            rcases List.cons.inj hplays with ⟨rfl, rfl⟩
            have hsuffix' : (st :: rest) <:+ outline := (List.suffix_cons cur _).trans hsuffix
            have hst : st.Valid env := hout st (hsuffix'.subset List.mem_cons_self)
            exact ⟨st, rest, hin.startPlay_step hvalid hcur hquiet htasks hall hbatches hst
              hchain.1 _, rfl, hchain.2, hsuffix'⟩

omit [DecidableEq H] in
/-- Before the first play every host satisfies the initial assertion. -/
theorem Along.start {A : H → σ → Prop} {stages : List (Stage H σ χ)} {nodes : H → σ}
    (hchain : Chained A stages) (hnodes : ∀ h, A h (nodes h)) :
    Along env (Stage.idle A :: stages) (start (stages.map Stage.play) nodes) := by
  refine ⟨Stage.idle A, stages, ?_, rfl, hchain, List.suffix_rfl⟩
  refine ⟨rfl, ?_, ?_, ?_, ?_, ?_, ?_, ?_, ?_, ?_, ?_, ?_, ?_⟩ <;>
    simp [Ansible.start, Stage.idle, Stage.steady, Play.idle, hnodes]

/-- Every moment of every run lies in a play of the outline. -/
theorem outline_sound {A : H → σ → Prop} {stages : List (Stage H σ χ)} {nodes : H → σ}
    {es : List (Event H χ ε)} {s' : State H σ χ} (hstable : ∀ h, Stable env (A h))
    (hvalid : ∀ st ∈ stages, st.Valid env) (hchain : Chained A stages)
    (hnodes : ∀ h, A h (nodes h))
    (hrun : run env (start (stages.map Stage.play) nodes) es = some s') :
    Along env (Stage.idle A :: stages) s' := by
  have hout : ∀ st ∈ Stage.idle A :: stages, st.Valid env := by
    intro st hst
    rcases List.mem_cons.mp hst with rfl | hst
    · exact Stage.idle_valid hstable
    · exact hvalid st hst
  exact run_induct (fun _ _ _ => Along.step hout) (Along.start hchain hnodes) hrun

omit [DecidableEq H] in
/-- As long as no host was dropped, the assertion during a play holds of all hosts. -/
theorem InPlay.inv_all (hin : InPlay env outline cur s)
    (hpre : ∀ h n, cur.pre h n → cur.inv h n) (hpost : ∀ h n, cur.post h n → cur.inv h n)
    (hlost : s.lost = []) (h : H) : cur.inv h (s.nodes h) := by
  have hnot : h ∉ s.lost := by simp [hlost]
  by_cases hbatch : h ∈ s.batch
  · exact hin.during h hbatch hnot
  · by_cases hwait : h ∈ s.batches.flatten
    · exact hpre h _ (hin.before h hwait hnot)
    · exact hpost h _ (hin.after h hnot hbatch hwait)

omit [DecidableEq H] in
/-- As long as no host was dropped, one play of the outline bounds all hosts. -/
theorem Along.exists_stage (hout : ∀ st ∈ outline, st.Valid env)
    (hpost : ∀ st ∈ outline, ∀ h n, st.post h n → st.inv h n)
    (halong : Along env outline s) (hlost : s.lost = []) :
    ∃ st ∈ outline, ∀ h, st.inv h (s.nodes h) := by
  rcases halong with ⟨cur, rest, hin, _, _, hsuffix⟩
  have hcur : cur ∈ outline := hsuffix.subset List.mem_cons_self
  exact ⟨cur, hcur, hin.inv_all (hout cur hcur).pre_inv (hpost cur hcur) hlost⟩

omit [DecidableEq H] in
/-- A playbook whose plays are all serial never goes on without a host. -/
theorem Along.lost_eq_nil
    (hserial : ∀ st ∈ outline, st.play.serial = true ∨ st.play.hosts = [])
    (halong : Along env outline s) : s.lost = [] := by
  rcases halong with ⟨cur, rest, hin, _, _, _⟩
  rw [List.eq_nil_iff_forall_not_mem]
  intro h hlost
  rcases hin.lost h hlost with ⟨st, hst, hparallel, hhost, _, _⟩
  rcases hserial st hst with hs | hempty
  · rw [hs] at hparallel
    cases hparallel
  · rw [hempty] at hhost
    cases hhost

omit [DecidableEq H] in
/-- The hosts after a host that is not done yet wait for their turn. -/
theorem InPlay.waiting_after (hin : InPlay env outline cur s) (hserial : cur.play.serial = true)
    {k : H} {done ks : List H} (hhosts : cur.play.hosts = done ++ k :: ks)
    (hk : k ∈ s.batch ++ s.batches.flatten) : ∀ h ∈ ks, h ∈ s.batches.flatten := by
  have hnodup : (k :: ks).Nodup := (List.nodup_append.mp (hhosts ▸ cur.play.nodup)).2.1
  -- what is left of the play ends with the host and the hosts after it
  have hsuffix : ∃ before, s.batch ++ s.batches.flatten = before ++ k :: ks := by
    rcases hin.order with ⟨seen, hover⟩
    rw [hhosts] at hover
    rcases List.append_eq_append_iff.mp hover with ⟨rest, _, hrest⟩ | ⟨rest, _, hrest⟩
    · exact ⟨rest, hrest⟩
    · cases rest with
      | nil => exact ⟨[], hrest.symm⟩
      | cons j rest =>
          have hks : ks = rest ++ (s.batch ++ s.batches.flatten) := (List.cons.inj hrest).2
          have hmem : k ∈ ks := hks ▸ List.mem_append_right rest hk
          exact absurd hmem (List.nodup_cons.mp hnodup).1
  rcases hsuffix with ⟨before, hbefore⟩
  have hlen : s.batch.length ≤ 1 := hin.serial hserial s.batch List.mem_cons_self
  intro h hh
  match hb : s.batch with
  | [] =>
      rw [hb, List.nil_append] at hbefore
      simp [hbefore, hh]
  | [j] =>
      rw [hb, List.singleton_append] at hbefore
      cases before with
      | nil =>
          rw [(List.cons.inj hbefore).2]
          exact hh
      | cons i before =>
          rw [(List.cons.inj hbefore).2]
          simp [hh]
  | _ :: _ :: _ => simp [hb] at hlen

omit [DecidableEq H] in
/--
A host of a serial play is done with it, or no host after it has started.
-/
theorem InPlay.over_or_waiting (hin : InPlay env outline cur s)
    (hserial : cur.play.serial = true) (hlost : s.lost = []) {k : H} {done ks : List H}
    (hhosts : cur.play.hosts = done ++ k :: ks) :
    cur.post k (s.nodes k) ∨ ∀ h ∈ ks, cur.pre h (s.nodes h) := by
  have hnot : ∀ h, h ∉ s.lost := by simp [hlost]
  by_cases hk : k ∈ s.batch ++ s.batches.flatten
  · right
    intro h hh
    exact hin.before h (hin.waiting_after hserial hhosts hk h hh) (hnot h)
  · left
    rw [List.mem_append, not_or] at hk
    exact hin.after k (hnot k) hk.1 hk.2

omit [DecidableEq H] in
/-- The last stage of an outline carries its last assertion. -/
private theorem lastPost_suffix {st : Stage H σ χ} {stages : List (Stage H σ χ)}
    (hsuffix : [cur] <:+ st :: stages) : cur.post = lastPost st.post stages := by
  induction stages generalizing st with
  | nil =>
      have heq : [cur] = [st] := hsuffix.eq_of_length rfl
      rw [List.singleton_inj.mp heq]
      rfl
  | cons st' rest ih =>
      rcases List.suffix_cons_iff.mp hsuffix with heq | htail
      · simp at heq
      · exact ih htail

/-- After a regular end every host that was not dropped satisfies the last assertion. -/
theorem outline_finished {A : H → σ → Prop} {stages : List (Stage H σ χ)} {s' : State H σ χ}
    (hstable : ∀ h, Stable env (A h)) (hvalid : ∀ st ∈ stages, st.Valid env)
    (halong : Along env (Stage.idle A :: stages) s') (hfin : s'.finished = true)
    {h : H} (hlost : h ∉ s'.lost) (hfresh : h ∉ s'.fresh) :
    lastPost A stages h (s'.nodes h) := by
  rcases halong with ⟨cur, rest, hin, hplays, _, hsuffix⟩
  simp only [State.finished, Bool.and_eq_true, Bool.not_eq_true', List.isEmpty_iff] at hfin
  rcases hfin with ⟨⟨⟨⟨⟨_, hquiet⟩, htasks⟩, hbatches⟩, hnoplays⟩, _⟩
  have hrest : rest = [] := by
    rw [hnoplays] at hplays
    exact List.map_eq_nil_iff.mp hplays.symm
  subst hrest
  have hcur : cur.Valid env := by
    rcases List.mem_cons.mp (hsuffix.subset List.mem_cons_self) with rfl | hmem
    · exact Stage.idle_valid hstable
    · exact hvalid cur hmem
  rw [show lastPost A stages = cur.post from (lastPost_suffix hsuffix).symm]
  by_cases hbatch : h ∈ s'.batch
  · exact batch_over hin hcur hquiet htasks hbatch hlost hfresh
  · exact hin.after h hlost hbatch (by simp [hbatches])

/-- After a run without failures every host satisfies the last assertion. -/
theorem outline_succeeded {A : H → σ → Prop} {stages : List (Stage H σ χ)} {s' : State H σ χ}
    (hstable : ∀ h, Stable env (A h)) (hvalid : ∀ st ∈ stages, st.Valid env)
    (halong : Along env (Stage.idle A :: stages) s') (hsucc : s'.succeeded = true) (h : H) :
    lastPost A stages h (s'.nodes h) := by
  simp only [State.succeeded, Bool.and_eq_true, List.isEmpty_iff] at hsucc
  rcases hsucc with ⟨⟨hfin, hlost⟩, hfresh⟩
  exact outline_finished hstable hvalid halong hfin (by simp [hlost]) (by simp [hfresh])

/-- The outline rule for a run without failures in the calm environment. -/
theorem outline_calm {A : H → σ → Prop} {stages : List (Stage H σ χ)} {nodes : H → σ}
    {es : List (Event H χ Empty)} {s' : State H σ χ} (hvalid : ∀ st ∈ stages, st.Valid calm)
    (hchain : Chained A stages) (hnodes : ∀ h, A h (nodes h))
    (hrun : run calm (start (stages.map Stage.play) nodes) es = some s')
    (hsucc : s'.succeeded = true) (h : H) : lastPost A stages h (s'.nodes h) :=
  outline_succeeded (fun _ => stable_calm _) hvalid
    (outline_sound (fun _ => stable_calm _) hvalid hchain hnodes hrun) hsucc h

omit [DecidableEq H] in
/-- What every stage of the outline implies holds of all hosts, dropped or not. -/
theorem Along.of_stages {A : H → σ → Prop} (halong : Along env outline s)
    (hA : ∀ st ∈ outline, ∀ h n, st.pre h n ∨ st.inv h n ∨ st.post h n → A h n) (h : H) :
    A h (s.nodes h) := by
  rcases halong with ⟨cur, rest, hin, _, _, hsuffix⟩
  have hcur : cur ∈ outline := hsuffix.subset List.mem_cons_self
  by_cases hlost : h ∈ s.lost
  · rcases hin.lost h hlost with ⟨st, hst, _, _, _, hinv⟩
    exact hA st hst h _ (Or.inr (Or.inl hinv))
  by_cases hbatch : h ∈ s.batch
  · exact hA cur hcur h _ (Or.inr (Or.inl (hin.during h hbatch hlost)))
  by_cases hwait : h ∈ s.batches.flatten
  · exact hA cur hcur h _ (Or.inl (hin.before h hwait hlost))
  · exact hA cur hcur h _ (Or.inr (Or.inr (hin.after h hlost hbatch hwait)))

omit [DecidableEq H] in
/-- Stages of one steady assertion are chained. -/
theorem chained_steady (A : H → σ → Prop) (plays : List (Play H σ χ)) :
    Chained A (plays.map fun p => Stage.steady p A) := by
  induction plays with
  | nil => trivial
  | cons p ps ih => exact ⟨fun _ _ hA => hA, ih⟩

omit [DecidableEq H] in
/-- One more stage can follow stages of one steady assertion. -/
theorem chained_steady_concat {A : H → σ → Prop} (plays : List (Play H σ χ)) {st : Stage H σ χ}
    (hpre : ∀ h n, A h n → st.pre h n) :
    Chained A (plays.map (fun p => Stage.steady p A) ++ [st]) := by
  induction plays with
  | nil => exact ⟨hpre, trivial⟩
  | cons p ps ih => exact ⟨fun _ _ hA => hA, ih⟩

omit [DecidableEq H] in
/-- The last stage carries the last assertion. -/
theorem lastPost_concat {A : H → σ → Prop} (stages : List (Stage H σ χ)) (st : Stage H σ χ) :
    lastPost A (stages ++ [st]) = st.post := by
  induction stages generalizing A with
  | nil => rfl
  | cons st' rest ih => exact ih

end Invariant

end Ansible
end ClusterPlaybooks
