import ClusterPlaybooks.Ansible.Triples

/-!
# Scripts of statements

A script is a list of statements for a server on the node, fed to a client that stops at
the first statement that fails.  A statement changes the state of the node, or fails and
leaves it alone.  An outside fault may stop a script after any number of statements, and
then the call has failed or the connection was lost.

What the statements meet outside of the node is part of the outcome of the call.

Main results:

- Theorem {lit}`runScript_keeps`: what all statements keep the script keeps.
- Theorem {lit}`scriptWhen_keeps`: a call keeps what the statements keep.
- Theorem {lit}`scriptWhen_gives`: what a call establishes when its script gets through.
-/

namespace ClusterPlaybooks
namespace Ansible

variable {H σ α St : Type}

/-! ## Scripts -/

/-- Execute statements up to the first failing one, and tell whether there was none. -/
def runScript (exec : St → σ → Option σ) : List St → σ → σ × Bool
  | [], s => (s, true)
  | st :: sts, s =>
      match exec st s with
      | some s' => runScript exec sts s'
      | none => (s, false)

section Scripts

variable {exec : St → σ → Option σ} {st : St} {s s' : σ}

@[simp]
theorem runScript_nil : runScript exec [] s = (s, true) :=
  rfl

/-- A statement that succeeds hands over to the next one. -/
theorem runScript_cons_some {sts : List St} (hst : exec st s = some s') :
    runScript exec (st :: sts) s = runScript exec sts s' := by
  simp [runScript, hst]

/-- A statement that fails ends the script. -/
theorem runScript_cons_none {sts : List St} (hst : exec st s = none) :
    runScript exec (st :: sts) s = (s, false) := by
  simp [runScript, hst]

/-- What all statements keep the script keeps, wherever it ends. -/
theorem runScript_keeps {I : σ → Prop} {sts : List St}
    (hkeeps : ∀ st ∈ sts, ∀ s s', I s → exec st s = some s' → I s') (hI : I s) :
    I (runScript exec sts s).1 := by
  induction sts generalizing s with
  | nil => exact hI
  | cons st sts ih =>
      cases hst : exec st s with
      | none =>
          rw [runScript_cons_none hst]
          exact hI
      | some s' =>
          rw [runScript_cons_some hst]
          exact ih (fun st' hst' => hkeeps st' (List.mem_cons_of_mem st hst'))
            (hkeeps st List.mem_cons_self s s' hI hst)

end Scripts

/-! ## Calls of a script -/

/-- Everything the controller does not decide about the call of a script. -/
structure Outcome (α : Type) where
  /-- what an outside fault makes of the call; {lit}`ok` if there is none -/
  verdict : Verdict
  /-- the number of statements an outside fault lets through -/
  reached : Nat
  /-- what the statements meet outside of the node -/
  meets : α
deriving DecidableEq, Repr

/-- Feed a script to the server, on the hosts that meet a condition. -/
def scriptWhen (cond : H → Bool) (exec : H → α → St → σ → Option σ) (script : List St) :
    Action H σ (Outcome α) where
  cond := fun h _ => some (cond h)
  exec := fun h s x =>
    if x.verdict = .ok then
      some ((runScript (exec h x.meets) script s).1,
        if (runScript (exec h x.meets) script s).2 then .ok else .failed)
    else some ((runScript (exec h x.meets) (script.take x.reached) s).1, x.verdict)
  ignoreErrors := false

section Calls

variable {cond : H → Bool} {exec : H → α → St → σ → Option σ} {script : List St} {h : H}

/-- A call on a host that does not meet the condition is skipped. -/
theorem scriptWhen_run_skip (hcond : cond h = false) (s : σ) (x : Outcome α) :
    (scriptWhen cond exec script).run h s x = some (s, .ok) :=
  Action.run_of_skip x (by simp [scriptWhen, hcond])

/-- A call without an outside fault does what its script does. -/
theorem scriptWhen_run_ok (hcond : cond h = true) (s : σ) {x : Outcome α}
    (hx : x.verdict = .ok) :
    (scriptWhen cond exec script).run h s x =
      some ((runScript (exec h x.meets) script s).1,
        if (runScript (exec h x.meets) script s).2 then .ok else .failed) := by
  rw [Action.run_of_cond x (by simp [scriptWhen, hcond]) rfl]
  simp [scriptWhen, hx]

/-- The node after a call is the old one or what some statements of the script made of it. -/
theorem scriptWhen_cases {s s' : σ} {x : Outcome α} {v : Verdict}
    (hrun : (scriptWhen cond exec script).run h s x = some (s', v)) :
    s' = s ∨ cond h = true ∧
      ∃ count, s' = (runScript (exec h x.meets) (script.take count) s).1 := by
  rcases Action.run_cases hrun with hsame | ⟨w, hcond, hexec⟩
  · exact Or.inl hsame
  · refine Or.inr ⟨by simpa [scriptWhen] using hcond, ?_⟩
    simp only [scriptWhen] at hexec
    split at hexec
    · cases hexec
      exact ⟨script.length, by rw [List.take_length]⟩
    · cases hexec
      exact ⟨x.reached, rfl⟩

/-- A call keeps what the statements of its script keep. -/
theorem scriptWhen_keeps {I : σ → Prop}
    (hkeeps : cond h = true → ∀ st ∈ script, ∀ m s s', I s → exec h m st s = some s' → I s') :
    (scriptWhen cond exec script).Keeps h I := by
  intro s x s' v hI hrun
  rcases scriptWhen_cases hrun with rfl | ⟨hcond, count, rfl⟩
  · exact hI
  · refine runScript_keeps (fun st hst s s' => ?_) hI
    exact hkeeps hcond st (List.mem_of_mem_take hst) x.meets s s'

/-- A successful call was skipped, or its script got through. -/
theorem scriptWhen_gives {P Q : σ → Prop} (hskip : cond h = false → ∀ s, P s → Q s)
    (hscript : cond h = true → ∀ m s, P s → (runScript (exec h m) script s).2 = true →
      Q (runScript (exec h m) script s).1) :
    (scriptWhen cond exec script).Gives h P Q := by
  intro s x s' hP hrun
  cases hcond : cond h with
  | false =>
      rw [scriptWhen_run_skip hcond] at hrun
      cases hrun
      exact hskip hcond s hP
  | true =>
      by_cases hx : x.verdict = .ok
      · rw [scriptWhen_run_ok hcond s hx] at hrun
        split at hrun
        · rename_i hok
          cases hrun
          exact hscript hcond x.meets s hP hok
        · cases hrun
      · rw [Action.run_of_cond x (by simp [scriptWhen, hcond]) rfl] at hrun
        simp only [scriptWhen, if_neg hx, Option.some.injEq, Prod.mk.injEq] at hrun
        exact absurd hrun.2 hx

/-- A call always has an outcome. -/
theorem scriptWhen_run_isSome (s : σ) (x : Outcome α) :
    ((scriptWhen cond exec script).run h s x).isSome = true := by
  unfold Action.run
  split
  · rfl
  · rfl
  · simp only [scriptWhen, Option.isSome_map]
    split <;> rfl

end Calls

end Ansible
end ClusterPlaybooks
