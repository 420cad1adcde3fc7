import ClusterPlaybooks.Ansible.Outline

/-!
# What the calls of one host make of its node

A host makes its calls in the order of the plays.  So the events of a run tell, for one host, the
outcomes that its first calls met, and these tell what has become of its node.  Other hosts, and
the moment at which the run was stopped, matter only as far as they decide how many calls the host
has made.

Main results:

- Theorem {lit}`makeEach_append`: calls are made one list after the other.
- Theorem {lit}`run_makeEach`: the node of a host after a run in the calm environment.
-/

namespace ClusterPlaybooks
namespace Ansible

variable {H σ χ ε : Type} [DecidableEq H]

/-- The outcomes that the calls of a host meet. -/
def met (h : H) : List (Event H χ ε) → List χ
  | [] => []
  | .act k x :: es => if k = h then x :: met h es else met h es
  | .next :: es => met h es
  | .env _ _ :: es => met h es

/-- The calls that plays make on a host, in order. -/
def callsOn (h : H) (plays : List (Play H σ χ)) : List (Action H σ χ) :=
  plays.flatMap fun p => if h ∈ p.hosts then p.actions else []

omit [DecidableEq H] in
/-- Make as many calls as there are outcomes. -/
def makeEach (h : H) : List (Action H σ χ) → List χ → σ → Option σ
  | _, [], n => some n
  | [], _ :: _, _ => none
  | a :: as, x :: xs, n => (a.run h n x).bind fun r => makeEach h as xs r.1

omit [DecidableEq H] in
@[simp]
theorem makeEach_nil (h : H) (as : List (Action H σ χ)) (n : σ) : makeEach h as [] n = some n := by
  cases as <;> rfl

omit [DecidableEq H] in
@[simp]
theorem makeEach_cons (h : H) (a : Action H σ χ) (as : List (Action H σ χ)) (x : χ) (xs : List χ)
    (n : σ) :
    makeEach h (a :: as) (x :: xs) n = (a.run h n x).bind fun r => makeEach h as xs r.1 :=
  rfl

omit [DecidableEq H] in
/-- Calls are made one list after the other. -/
theorem makeEach_append {h : H} {as bs : List (Action H σ χ)} {xs : List χ} {n n' : σ}
    (hmake : makeEach h (as ++ bs) xs n = some n') :
    ∃ m, makeEach h as (xs.take as.length) n = some m ∧
      makeEach h bs (xs.drop as.length) m = some n' := by
  induction as generalizing xs n with
  | nil => exact ⟨n, by simp, by simpa using hmake⟩
  | cons a as ih =>
      cases xs with
      | nil => exact ⟨n, by simp, by simpa using hmake⟩
      | cons x xs =>
          rw [List.cons_append, makeEach_cons, Option.bind_eq_some_iff] at hmake
          rcases hmake with ⟨r, hr, hrest⟩
          rcases ih hrest with ⟨m, hm, hm'⟩
          refine ⟨m, ?_, by simpa using hm'⟩
          rw [List.length_cons, List.take_succ_cons, makeEach_cons, hr, Option.bind_some]
          exact hm

omit [DecidableEq H] in
/-- Calls that keep everything leave the node alone. -/
theorem makeEach_of_keeps {h : H} {as : List (Action H σ χ)} {xs : List χ} {n n' : σ}
    (hkeeps : ∀ a ∈ as, ∀ I, a.Keeps h I) (hmake : makeEach h as xs n = some n') : n' = n := by
  induction as generalizing xs n with
  | nil =>
      cases xs with
      | nil => simpa [eq_comm] using hmake
      | cons x xs => cases hmake
  | cons a as ih =>
      cases xs with
      | nil => simpa [eq_comm] using hmake
      | cons x xs =>
          rw [makeEach_cons, Option.bind_eq_some_iff] at hmake
          rcases hmake with ⟨⟨m, w⟩, hr, hrest⟩
          have hm : m = n := hkeeps a List.mem_cons_self (fun k => k = n) n x m w rfl hr
          rw [hm] at hrest
          exact ih (fun b hb => hkeeps b (List.mem_cons_of_mem a hb)) hrest

/-! ## The calls to come -/

/-- The calls that a host makes from now on, unless it is dropped. -/
def State.toCome (s : State H σ χ) (h : H) : List (Action H σ χ) :=
  (s.busy h).elim [] Busy.items ++
    ((if h ∈ s.batch then s.tasks.flatMap Task.items else []) ++
      ((if h ∈ s.batches.flatten then s.play.actions else []) ++ callsOn h s.plays))

/-- The host was dropped, or these are the calls it makes from now on. -/
def State.Expects (s : State H σ χ) (h : H) (as : List (Action H σ χ)) : Prop :=
  h ∈ s.lost ∨ h ∈ s.fresh ∨ as = s.toCome h

section Expects

variable {s s' : State H σ χ} {h k : H} {as : List (Action H σ χ)}
variable {env : ε → σ → σ} {outline : List (Stage H σ χ)} {cur : Stage H σ χ}

/-- A call of another host changes nothing. -/
theorem State.Expects.record_other (hs : s.Expects h as) (hne : h ≠ k) (n : σ)
    (rest : List (Action H σ χ)) (failed : Bool) (v : Verdict) :
    (s.record k n rest failed v).Expects h as := by
  rcases hs with hlost | hfresh | has
  · exact Or.inl hlost
  · refine Or.inr (Or.inl ?_)
    simp only [State.record]
    split
    · exact List.mem_cons_of_mem k hfresh
    · exact hfresh
  · refine Or.inr (Or.inr ?_)
    rw [has]
    simp [State.toCome, State.record, hne]

/-- After its own call a host expects the calls that are left. -/
theorem State.expects_record {a : Action H σ χ} {rest : List (Action H σ χ)} {failed : Bool}
    (hbusy : s.busy h = some ⟨a :: rest, failed⟩) (n : σ) (v : Verdict) :
    (s.record h n rest failed v).Expects h (s.toCome h).tail := by
  by_cases hv : v = .unreachable
  · refine Or.inr (Or.inl ?_)
    simp [State.record, hv]
  · refine Or.inr (Or.inr ?_)
    cases rest with
    | nil => simp [State.toCome, State.record, hbusy, hv]
    | cons b bs => simp [State.toCome, State.record, hbusy, hv]

/-- Handing out a task changes nothing. -/
theorem State.Expects.startTask (hs : s.Expects h as) (hidle : s.busy h = none)
    {t : Task H σ χ} {ts : List (Task H σ χ)} (htasks : s.tasks = t :: ts) :
    (s.startTask t ts).Expects h as := by
  by_cases hlost : h ∈ s.lost
  · exact Or.inl hlost
  by_cases hfresh : h ∈ s.fresh
  · exact Or.inr (Or.inl hfresh)
  have has := (hs.resolve_left hlost).resolve_left hfresh
  refine Or.inr (Or.inr ?_)
  rw [has]
  by_cases hbatch : h ∈ s.batch
  · have halive : s.alive h = true := by simp [State.alive, hbatch, hlost, hfresh]
    cases hitems : t.items with
    | nil => simp [State.toCome, State.startTask, hidle, htasks, hbatch, hitems]
    | cons b bs => simp [State.toCome, State.startTask, hidle, htasks, hbatch, halive, hitems]
  · have halive : s.alive h = false := by simp [State.alive, hbatch]
    simp [State.toCome, State.startTask, hidle, hbatch, halive]

/-- Starting a batch changes nothing. -/
theorem State.Expects.startBatch (hs : s.Expects h as) (hidle : s.busy h = none)
    (htasks : s.tasks = []) {b : List H} {bs : List (List H)} (hbatches : s.batches = b :: bs)
    (hnodup : (b ++ bs.flatten).Nodup) : (s.startBatch b bs).Expects h as := by
  by_cases hlost : h ∈ s.lost
  · exact Or.inl (List.mem_append_left _ hlost)
  by_cases hfresh : h ∈ s.fresh
  · exact Or.inl (List.mem_append_right _ hfresh)
  have has := (hs.resolve_left hlost).resolve_left hfresh
  refine Or.inr (Or.inr ?_)
  rw [has]
  by_cases hb : h ∈ b
  · have hwait : h ∉ bs.flatten := fun hmem =>
      (List.nodup_append.mp hnodup).2.2 h hb h hmem rfl
    simp only [List.mem_flatten, not_exists, not_and] at hwait
    have hnone : ¬ ∃ l ∈ bs, h ∈ l := fun ⟨l, hl, hmem⟩ => hwait l hl hmem
    simp [State.toCome, State.startBatch, hidle, htasks, hbatches, hb, hnone, Play.actions]
  · simp [State.toCome, State.startBatch, hidle, htasks, hbatches, hb]

/-- Starting a play changes nothing. -/
theorem State.Expects.startPlay (hs : s.Expects h as) (hidle : s.busy h = none)
    (htasks : s.tasks = []) (hbatches : s.batches = []) {p : Play H σ χ} {ps : List (Play H σ χ)}
    (hplays : s.plays = p :: ps) : (s.startPlay p ps).Expects h as := by
  by_cases hlost : h ∈ s.lost
  · exact Or.inl (List.mem_append_left _ hlost)
  by_cases hfresh : h ∈ s.fresh
  · exact Or.inl (List.mem_append_right _ hfresh)
  have has := (hs.resolve_left hlost).resolve_left hfresh
  refine Or.inr (Or.inr ?_)
  rw [has]
  simp only [State.toCome, State.startPlay, hidle, htasks, hbatches, hplays, callsOn,
    p.flatten_batches, List.flatMap_cons]
  simp

/-- A move of the controller changes nothing. -/
theorem State.Expects.next (hs : s.Expects h as) (hin : InPlay env outline cur s)
    (hnext : s.next = some s') : s'.Expects h as := by
  rcases State.next_cases hnext with ⟨_, hquiet, hcases⟩
  have hidle : s.busy h = none :=
    s.idle_of_quiet (fun k b hb => (hin.busy k b hb).1) hquiet h
  rcases hcases with ⟨_, rfl⟩ | ⟨t, ts, htasks, rfl⟩ | ⟨b, bs, htasks, _, hbatches, rfl⟩ |
    ⟨p, ps, htasks, _, hbatches, hplays, rfl⟩
  · exact hs
  · exact hs.startTask hidle htasks
  · refine hs.startBatch hidle htasks hbatches ?_
    have hnodup := hin.order.sublist.nodup cur.play.nodup
    rw [hbatches, List.flatten_cons] at hnodup
    exact (List.nodup_append.mp hnodup).2.1
  · exact hs.startPlay hidle htasks hbatches hplays

end Expects

/-! ## The node of a host -/

/-- The node of a host after events, from the calls it expects. -/
theorem makeEach_of_expects {s s' : State H σ χ} {h : H} {as : List (Action H σ χ)}
    {es : List (Event H χ Empty)} {outline : List (Stage H σ χ)}
    (hout : ∀ st ∈ outline, st.Valid (calm : Empty → σ → σ)) (halong : Along calm outline s)
    (hs : s.Expects h as) (hrun : run calm s es = some s') :
    makeEach h as (met h es) (s.nodes h) = some (s'.nodes h) := by
  induction es generalizing s as with
  | nil =>
      cases hrun
      simp [met]
  | cons e es ih =>
      simp only [run, Option.bind_eq_some_iff] at hrun
      rcases hrun with ⟨m, hstep, hrest⟩
      have halong' := halong.step hout hstep
      rcases halong with ⟨cur, rest, hin, _, _, _⟩
      cases e with
      | env k e => exact e.elim
      | next =>
          rw [met, ← State.next_nodes hstep]
          exact ih halong' (hs.next hin hstep) hrest
      | act k x =>
          rcases State.act_cases hstep with ⟨a, items, failed, n, v, hbusy, hcall, rfl⟩
          by_cases hne : h = k
          · subst hne
            rcases hin.busy h _ hbusy with ⟨_, hlost, hfresh⟩
            have has := (hs.resolve_left hlost).resolve_left hfresh
            have hcons : as = a :: (s.toCome h).tail := by
              rw [has]
              simp [State.toCome, hbusy]
            have hnext := ih halong' (State.expects_record hbusy n v) hrest
            rw [met, if_pos rfl, hcons, makeEach_cons, hcall, Option.bind_some]
            simpa [State.record] using hnext
          · have hnext := ih halong' (hs.record_other hne n items failed v) hrest
            rw [met, if_neg (Ne.symm hne)]
            simpa [State.record, hne] using hnext

/-- The node of a host after a run is what its calls have made of it. -/
theorem run_makeEach {plays : List (Play H σ χ)} {nodes : H → σ} {es : List (Event H χ Empty)}
    {s : State H σ χ} (hrun : run calm (start plays nodes) es = some s) (h : H) :
    makeEach h (callsOn h plays) (met h es) (nodes h) = some (s.nodes h) := by
  have hsteady : ∀ p : Play H σ χ,
      (Stage.steady p fun _ _ => True).Valid (calm : Empty → σ → σ) := fun p =>
    Stage.steady_valid (fun _ => stable_calm _) fun _ _ _ _ _ _ _ _ _ _ => trivial
  have hout : ∀ st ∈ Stage.idle (fun _ _ => True) ::
      plays.map (fun p => Stage.steady p fun _ _ => True), st.Valid (calm : Empty → σ → σ) := by
    intro st hst
    rcases List.mem_cons.mp hst with rfl | hst
    · exact hsteady _
    · rcases List.mem_map.mp hst with ⟨p, _, rfl⟩
      exact hsteady p
  have halong : Along (calm : Empty → σ → σ) (Stage.idle (fun _ _ => True) ::
      plays.map (fun p => Stage.steady p fun _ _ => True)) (start plays nodes) := by
    have hstart : Along (calm : Empty → σ → σ) (Stage.idle (fun _ _ => True) ::
        plays.map (fun p => Stage.steady p fun _ _ => True))
        (start ((plays.map fun p => Stage.steady p fun _ _ => True).map Stage.play) nodes) :=
      Along.start (chained_steady (fun _ _ => True) plays) fun _ => trivial
    rw [List.map_map] at hstart
    simpa [Function.comp_def, Stage.steady] using hstart
  refine makeEach_of_expects hout halong (Or.inr (Or.inr ?_)) hrun
  simp [State.toCome, start]

end Ansible
end ClusterPlaybooks
