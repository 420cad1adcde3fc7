import ClusterPlaybooks.Process.Stepping
import Mathlib.Data.List.Induction

/-!
# The init script of MySQL

The script {lit}`mysql.sh` starts and stops a server and waits for its pid file to appear or to
go away.  The server runs beside the script, so a run is a list of moments: what the script sees
each time it looks at the pid file or asks whether a process is alive.  A process that is found
dead makes the script look at the pid file once more before it gives up.

Main results:

- Theorem {lit}`wait_returns`: the wait ends after a number of looks that the timeout gives.
- Theorem {lit}`stop_orderly`: with a server that removes its pid file before it ends, a stop
  never complains about it, and tells by its code whether the file has gone.
- Theorem {lit}`start_outcome`: a start without a pid file fails soon after the process it has
  launched; with a pid file that was left behind it succeeds at once.
-/

namespace ClusterPlaybooks
namespace InitScript

open Process

/-! ## The script -/

/-- What the script can see at a moment. -/
structure Moment where
  /-- The process in the pid file, {lit}`none` if the file is missing or empty. -/
  pidFile : Option Nat
  alive : Nat → Bool

/-- The first argument of {lit}`wait_for_pid`. -/
inductive Verb where
  | created
  | removed
deriving DecidableEq, Repr

/-- The test of the pid file. -/
def Verb.seen : Verb → Moment → Bool
  | .created, m => m.pidFile.isSome
  | .removed, m => m.pidFile.isNone

/-- How the wait ends. -/
inductive Ending where
  | success
  /-- The server quit without updating the pid file. -/
  | serverQuit
  | timedOut
deriving DecidableEq, Repr

/-- Where the wait is. -/
inductive Phase where
  | testFile
  | testPid
  | returned (e : Ending)
deriving DecidableEq, Repr

/-- The variables of {lit}`wait_for_pid`. -/
structure Wait where
  i : Nat
  avoidRaceCondition : Bool
  phase : Phase
deriving DecidableEq, Repr

/-- The test of the loop. -/
def enter (timeout i : Nat) : Phase :=
  if i = timeout then .returned .timedOut else .testFile

/-- The wait begins. -/
def Wait.start (timeout : Nat) : Wait where
  i := 0
  avoidRaceCondition := true
  phase := enter timeout 0

/-- One look of the wait. -/
def Wait.step (timeout : Nat) (verb : Verb) (pid : Nat) (s : Wait) (m : Moment) : Wait :=
  match s.phase with
  | .testFile =>
      { s with phase := if verb.seen m then .returned .success else .testPid }
  | .testPid =>
      if m.alive pid then { s with i := s.i + 1, phase := enter timeout (s.i + 1) }
      else if s.avoidRaceCondition then
        { s with avoidRaceCondition := false, phase := enter timeout s.i }
      else { s with phase := .returned .serverQuit }
  | .returned _ => s

/-- The function {lit}`wait_for_pid`. -/
def waitForPid (timeout : Nat) (verb : Verb) (pid : Nat) (ms : List Moment) : Phase :=
  (run (Wait.step timeout verb pid) (.start timeout) ms).phase

/-- The exit code that the wait gives, {lit}`none` as long as it goes on. -/
def Phase.code : Phase → Option Nat
  | .returned .success => some 0
  | .returned _ => some 1
  | _ => none

/--
The function {lit}`mysql_start`: the process that {lit}`mysqld_safe` gets is given.  Without the
program there is a message, and the script exits with 0.
-/
def mysqlStart (timeout : Nat) (executable : Bool) (pid : Nat) (ms : List Moment) : Option Nat :=
  if executable then (waitForPid timeout .created pid ms).code else some 0

/--
The function {lit}`mysql_stop`, from the moment at which it has found the server in the pid file
alive and has sent it the signal.
-/
def mysqlStopAlive (timeout pid : Nat) (ms : List Moment) : Option Nat :=
  (waitForPid timeout .removed pid ms).code

/--
The function {lit}`mysql_stop`.  It looks at the pid file, reads it, and asks whether the process
is alive.  If it is not, no return value is set, and the script exits with the status of its last
command, which is 0.
-/
def mysqlStop (timeout : Nat) : List Moment → Option Nat
  | [] => none
  | m₀ :: ms =>
      if m₀.pidFile = none then some 0
      else match ms with
        | m₁ :: m₂ :: ms =>
            match m₁.pidFile with
            | none => some 0
            | some pid => if m₂.alive pid then mysqlStopAlive timeout pid ms else some 0
        | _ => none

variable {timeout pid : Nat} {verb : Verb}

/-! ## The wait ends -/

/-- The number of looks that are left at most. -/
def Wait.rank (timeout : Nat) (s : Wait) : Nat :=
  match s.phase with
  | .testFile => 2 * (timeout - s.i) + 2 * s.avoidRaceCondition.toNat
  | .testPid => 2 * (timeout - s.i) + 2 * s.avoidRaceCondition.toNat - 1
  | .returned _ => 0

/-- The wait has returned, or its loop is below the timeout. -/
def Wait.Below (timeout : Nat) (s : Wait) : Prop :=
  (∃ e, s.phase = .returned e) ∨ s.i < timeout

/-- The test of the loop ends it at the timeout. -/
theorem enter_cases {i : Nat} (hi : i ≤ timeout) :
    enter timeout i = .returned .timedOut ∨ enter timeout i = .testFile ∧ i < timeout := by
  unfold enter
  split
  · exact Or.inl rfl
  · exact Or.inr ⟨rfl, by omega⟩

/-- Below the timeout the loop goes on. -/
theorem enter_of_lt {i : Nat} (hi : i < timeout) : enter timeout i = .testFile :=
  if_neg (Nat.ne_of_lt hi)

/-- A wait that has returned stays as it is. -/
theorem step_of_returned (s : Wait) (m : Moment) (hs : ∃ e, s.phase = .returned e) :
    s.step timeout verb pid m = s := by
  obtain ⟨e, he⟩ := hs
  simp [Wait.step, he]

theorem run_of_returned {s : Wait} {e : Ending} (hs : s.phase = .returned e) (ms : List Moment) :
    run (Wait.step timeout verb pid) s ms = s :=
  run_of_halted step_of_returned ⟨e, hs⟩ ms

/-- The begin of the wait. -/
theorem below_start (timeout : Nat) : (Wait.start timeout).Below timeout := by
  rcases enter_cases (Nat.zero_le timeout) with hends | ⟨_, hlt⟩
  · exact Or.inl ⟨_, hends⟩
  · exact Or.inr hlt

/-- What a look does below the timeout: the wait returns, or it goes on with a lower rank. -/
theorem step_below {s : Wait} (hs : s.Below timeout) (hgoes : ¬ ∃ e, s.phase = .returned e)
    (m : Moment) :
    (s.step timeout verb pid m).Below timeout ∧
    (s.step timeout verb pid m).rank timeout < s.rank timeout := by
  obtain ⟨i, race, phase⟩ := s
  have hlt : i < timeout := hs.resolve_left hgoes
  cases phase with
  | returned e => exact absurd ⟨e, rfl⟩ hgoes
  | testFile =>
      cases hseen : verb.seen m with
      | true =>
          simp only [Wait.step, hseen, if_true, Wait.Below, Wait.rank]
          exact ⟨Or.inl ⟨_, rfl⟩, by omega⟩
      | false =>
          simp only [Wait.step, hseen, Wait.Below, Wait.rank]
          exact ⟨Or.inr hlt, by simp; omega⟩
  | testPid =>
      cases halive : m.alive pid with
      | true =>
          simp only [Wait.step, halive, if_true, Wait.Below]
          rcases enter_cases (show i + 1 ≤ timeout from hlt) with hends | ⟨hgoes, hlt'⟩
          · rw [hends]
            exact ⟨Or.inl ⟨_, rfl⟩, by simp only [Wait.rank]; omega⟩
          · rw [hgoes]
            exact ⟨Or.inr hlt', by simp only [Wait.rank]; omega⟩
      | false =>
          cases race with
          | true =>
              simp only [Wait.step, halive, Wait.Below, Wait.rank, enter_of_lt hlt]
              exact ⟨Or.inr hlt, by simp⟩
          | false =>
              simp only [Wait.step, halive, Wait.Below, Wait.rank]
              exact ⟨Or.inl ⟨_, rfl⟩, by simp; omega⟩

/-- A look keeps the wait below the timeout. -/
theorem below_step {s : Wait} (hs : s.Below timeout) (m : Moment) :
    (s.step timeout verb pid m).Below timeout := by
  by_cases hends : ∃ e, s.phase = .returned e
  · rw [step_of_returned s m hends]
    exact hs
  · exact (step_below hs hends m).1

/-- The wait ends after at most two looks for every second of the timeout, and two more. -/
theorem wait_returns (timeout : Nat) (verb : Verb) (pid : Nat) {ms : List Moment}
    (hlong : 2 * timeout + 2 ≤ ms.length) :
    ∃ e, waitForPid timeout verb pid ms = .returned e := by
  refine run_halts (Wait.Below timeout) (fun s => ∃ e, s.phase = .returned e)
    (Wait.rank timeout) ?_ ?_ ?_ ?_ (below_start timeout) ?_
  · intro s m hs
    exact below_step hs m
  · exact step_of_returned
  · intro s hs hzero
    by_contra hgoes
    have hdown : (s.step timeout verb pid ⟨none, fun _ => false⟩).rank timeout < s.rank timeout :=
      (step_below hs hgoes _).2
    omega
  · intro s m hs hgoes
    exact (step_below hs hgoes m).2
  · refine Nat.le_trans ?_ hlong
    unfold Wait.rank Wait.start
    rcases enter_cases (Nat.zero_le timeout) with hends | ⟨hgoes, _⟩
    · simp [hends]
    · simp [hgoes]

/-! ## Stopping a server -/

/--
A server that removes its pid file before it ends, on a host where nobody else writes the file.
-/
structure Orderly (pid : Nat) (ms : List Moment) : Prop where
  /-- A pid file that has gone stays away. -/
  once : ms.Pairwise (fun a b => a.pidFile = none → b.pidFile = none)
  /-- When the server has ended the file has gone. -/
  dead : ∀ m ∈ ms, m.alive pid = false → m.pidFile = none

/-- The server goes on like that. -/
theorem Orderly.tail {m : Moment} {ms : List Moment} (h : Orderly pid (m :: ms)) :
    Orderly pid ms where
  once := (List.pairwise_cons.mp h.once).2
  dead := fun m' hm' => h.dead m' (List.mem_cons_of_mem m hm')

/-- A file that is there later on was there before. -/
theorem Orderly.there {m : Moment} {ms : List Moment} {n : Nat} (h : Orderly pid (m :: ms))
    (hms : ms ≠ []) (hn : 0 < n) (hthere : ∀ x ∈ ms.take n, x.pidFile ≠ none) :
    m.pidFile ≠ none := by
  intro hgone
  cases ms with
  | nil => exact hms rfl
  | cons x ms =>
      obtain ⟨n, rfl⟩ := Nat.exists_eq_succ_of_ne_zero (Nat.ne_of_gt hn)
      exact hthere x (by simp) ((List.pairwise_cons.mp h.once).1 x List.mem_cons_self hgone)

/-- A look at a pid file that has gone ends the wait. -/
theorem step_gone {i : Nat} {race : Bool} {m : Moment} (hm : m.pidFile = none) :
    Wait.step timeout .removed pid ⟨i, race, .testFile⟩ m = ⟨i, race, .returned .success⟩ := by
  simp [Wait.step, Verb.seen, hm]

/-- A look at a pid file that is there is followed by a look at the process. -/
theorem step_there {i : Nat} {race : Bool} {m : Moment} (hm : m.pidFile ≠ none) :
    Wait.step timeout .removed pid ⟨i, race, .testFile⟩ m = ⟨i, race, .testPid⟩ := by
  simp [Wait.step, Verb.seen, hm]

/--
The wait for an orderly server to remove its pid file, from any pass of the loop: it succeeds
with a file that has gone, or the time is over and the file was there all the time.
-/
theorem wait_orderly {i : Nat} (hlt : i < timeout) {ms : List Moment} (hms : Orderly pid ms)
    {e : Ending}
    (he : (run (Wait.step timeout .removed pid) ⟨i, true, .testFile⟩ ms).phase = .returned e) :
    (e = .success ∧ ∃ m ∈ ms, m.pidFile = none) ∨
    (e = .timedOut ∧ ∀ m ∈ ms.take (2 * (timeout - i) - 1), m.pidFile ≠ none) := by
  induction ms using List.twoStepInduction generalizing i with
  | nil => cases he
  | singleton m =>
      by_cases hm : m.pidFile = none
      · rw [run_cons, step_gone hm, run_nil] at he
        cases he
        exact Or.inl ⟨rfl, m, List.mem_cons_self, hm⟩
      · rw [run_cons, step_there hm, run_nil] at he
        cases he
  | cons_cons m m' ms ih _ =>
      rw [run_cons] at he
      by_cases hm : m.pidFile = none
      · rw [step_gone hm, run_of_returned rfl] at he
        cases he
        exact Or.inl ⟨rfl, m, List.mem_cons_self, hm⟩
      · rw [step_there hm, run_cons] at he
        cases halive : m'.alive pid with
        | false =>
            -- The file has gone before, so the look after this one sees that.
            have hgone : m'.pidFile = none := hms.dead m' (by simp) halive
            have hstep : Wait.step timeout .removed pid ⟨i, true, .testPid⟩ m' =
                ⟨i, false, .testFile⟩ := by
              simp [Wait.step, halive, enter_of_lt hlt]
            rw [hstep] at he
            cases ms with
            | nil => cases he
            | cons m'' ms =>
                have hgone' : m''.pidFile = none :=
                  (List.pairwise_cons.mp hms.tail.once).1 m'' List.mem_cons_self hgone
                rw [run_cons, step_gone hgone', run_of_returned rfl] at he
                cases he
                exact Or.inl ⟨rfl, m', by simp, hgone⟩
        | true =>
            have hstep : Wait.step timeout .removed pid ⟨i, true, .testPid⟩ m' =
                ⟨i + 1, true, enter timeout (i + 1)⟩ := by
              simp [Wait.step, halive]
            rw [hstep] at he
            rcases enter_cases (show i + 1 ≤ timeout from hlt) with hends | ⟨hgoes, hlt'⟩
            · rw [hends, run_of_returned rfl] at he
              cases he
              have hlast : timeout - i = 1 := by
                unfold enter at hends
                split at hends
                · omega
                · cases hends
              exact Or.inr ⟨rfl, by simpa [hlast] using hm⟩
            · rw [hgoes] at he
              rcases ih hlt' hms.tail.tail he with ⟨rfl, m₀, hm₀, hgone⟩ | ⟨rfl, hthere⟩
              · exact Or.inl ⟨rfl, m₀, by simp [hm₀], hgone⟩
              · have hcount : 2 * (timeout - i) - 1 = 2 * (timeout - (i + 1)) - 1 + 1 + 1 := by
                  omega
                refine Or.inr ⟨rfl, ?_⟩
                rw [hcount, List.take_succ_cons, List.take_succ_cons]
                intro x hx
                rcases List.mem_cons.mp hx with rfl | hx
                · exact hm
                rcases List.mem_cons.mp hx with rfl | hx
                · refine hms.tail.there ?_ (by omega) hthere
                  rintro rfl
                  cases he
                · exact hthere x hx

/-- The code of a stop after the signal, for an orderly server. -/
theorem stopAlive_orderly (hpos : 0 < timeout) {ms : List Moment} (hms : Orderly pid ms)
    (hlong : 2 * timeout + 2 ≤ ms.length) :
    (mysqlStopAlive timeout pid ms = some 0 ∧ ∃ m ∈ ms, m.pidFile = none) ∨
    (mysqlStopAlive timeout pid ms = some 1 ∧ waitForPid timeout .removed pid ms =
      .returned .timedOut ∧ ∀ m ∈ ms.take (2 * timeout - 1), m.pidFile ≠ none) := by
  obtain ⟨e, he⟩ := wait_returns timeout .removed pid hlong
  have hstart : Wait.start timeout = ⟨0, true, .testFile⟩ := by
    simp [Wait.start, enter_of_lt hpos]
  have hrun := he
  unfold waitForPid at hrun
  rw [hstart] at hrun
  rcases wait_orderly hpos hms hrun with ⟨rfl, hgone⟩ | ⟨rfl, hthere⟩
  · exact Or.inl ⟨by simp [mysqlStopAlive, he, Phase.code], hgone⟩
  · exact Or.inr ⟨by simp [mysqlStopAlive, he, Phase.code], he, hthere⟩

/--
Stopping a server that removes its pid file before it ends, with enough looks: the script exits
with 0 and the file has gone, or with 1 because the time is over and the file was there all the
time.  It never says that the server quit without updating the file.
-/
theorem stop_orderly (hpos : 0 < timeout) {ms : List Moment}
    (hpid : ∀ m ∈ ms, m.pidFile = none ∨ m.pidFile = some pid) (hms : Orderly pid ms)
    (hlong : 2 * timeout + 5 ≤ ms.length) :
    (mysqlStop timeout ms = some 0 ∧ ∃ m ∈ ms, m.pidFile = none) ∨
    (mysqlStop timeout ms = some 1 ∧
      waitForPid timeout .removed pid (ms.drop 3) = .returned .timedOut ∧
      ∀ m ∈ ms.take (2 * timeout + 2), m.pidFile = some pid) := by
  match ms with
  | [] | [_] | [_, _] => simp at hlong
  | m₀ :: m₁ :: m₂ :: ms =>
      by_cases h₀ : m₀.pidFile = none
      · exact Or.inl ⟨by simp [mysqlStop, h₀], m₀, by simp, h₀⟩
      by_cases h₁ : m₁.pidFile = none
      · exact Or.inl ⟨by simp [mysqlStop, h₀, h₁], m₁, by simp, h₁⟩
      have hread : m₁.pidFile = some pid := (hpid m₁ (by simp)).resolve_left h₁
      cases halive : m₂.alive pid with
      | false =>
          exact Or.inl ⟨by simp [mysqlStop, h₀, hread, halive], m₂, by simp,
            hms.dead m₂ (by simp) halive⟩
      | true =>
          have hcode : mysqlStop timeout (m₀ :: m₁ :: m₂ :: ms) =
              mysqlStopAlive timeout pid ms := by
            simp [mysqlStop, h₀, hread, halive]
          have hlong' : 2 * timeout + 2 ≤ ms.length := by simpa using hlong
          rw [hcode]
          rcases stopAlive_orderly hpos hms.tail.tail.tail hlong' with
            ⟨hzero, m, hm, hgone⟩ | ⟨hone, hended, hthere⟩
          · exact Or.inl ⟨hzero, m, by simp [hm], hgone⟩
          · refine Or.inr ⟨hone, hended, ?_⟩
            have hcount : 2 * timeout + 2 = 2 * timeout - 1 + 1 + 1 + 1 := by omega
            have h₂ : m₂.pidFile ≠ none := by
              refine hms.tail.tail.there ?_ (by omega) hthere
              rintro rfl
              simp at hlong'
            intro m hm
            refine (hpid m (List.mem_of_mem_take hm)).resolve_left ?_
            simp only [hcount, List.take_succ_cons, List.mem_cons] at hm
            rcases hm with rfl | rfl | rfl | hm
            · exact h₀
            · exact h₁
            · exact h₂
            · exact hthere m hm

/-- A server that needs two looks to remove its file. -/
def leaving : List Moment :=
  List.replicate 5 ⟨some 7, fun _ => true⟩ ++ List.replicate 4 ⟨none, fun _ => false⟩

/-- With a timeout of two seconds the stop succeeds. -/
theorem stop_orderly_sample :
    Orderly 7 leaving ∧
    ((mysqlStop 2 leaving = some 0 ∧ ∃ m ∈ leaving, m.pidFile = none) ∨
      (mysqlStop 2 leaving = some 1 ∧
        waitForPid 2 .removed 7 (leaving.drop 3) = .returned .timedOut ∧
        ∀ m ∈ leaving.take 6, m.pidFile = some 7)) := by
  have horderly : Orderly 7 leaving := by
    constructor
    · simp [leaving]
    · simp [leaving]
  exact ⟨horderly, stop_orderly (by decide) (by simp [leaving]) horderly (by simp [leaving])⟩

/-! ## Starting a server -/

/-- Without a pid file the wait for it does not succeed. -/
theorem wait_created_of_none {s : Wait} (hs : s.phase ≠ .returned .success) {ms : List Moment}
    (hms : ∀ m ∈ ms, m.pidFile = none) :
    (run (Wait.step timeout .created pid) s ms).phase ≠ .returned .success := by
  refine run_invariant_of_mem (I := fun s : Wait => s.phase ≠ .returned .success) ?_ hs
  rintro ⟨i, race, phase⟩ m hm hphase
  cases phase with
  | returned e => exact hphase
  | testFile => simp [Wait.step, Verb.seen, hms m hm]
  | testPid =>
      unfold Wait.step enter
      grind

/-- The looks that are left when the process has ended. -/
def Wait.deadRank (s : Wait) : Nat :=
  match s.phase, s.avoidRaceCondition with
  | .testFile, true => 4
  | .testPid, true => 3
  | .testFile, false => 2
  | .testPid, false => 1
  | .returned _, _ => 0

theorem Wait.deadRank_le (s : Wait) : s.deadRank ≤ 4 := by
  unfold deadRank
  split <;> decide

/-- A look at a dead process without a pid file lowers them. -/
theorem deadRank_step {s : Wait} (hs : s.Below timeout) (hgoes : ¬ ∃ e, s.phase = .returned e)
    {m : Moment} (hm : m.pidFile = none ∧ m.alive pid = false) :
    (s.step timeout .created pid m).deadRank < s.deadRank := by
  obtain ⟨i, race, phase⟩ := s
  have hlt : i < timeout := hs.resolve_left hgoes
  cases phase with
  | returned e => exact absurd ⟨e, rfl⟩ hgoes
  | testFile =>
      cases race <;> simp [Wait.step, Wait.deadRank, Verb.seen, hm.1]
  | testPid =>
      cases race <;> simp [Wait.step, Wait.deadRank, hm.2, enter_of_lt hlt]

/-- A wait below the timeout returns after four looks at a dead process without a pid file. -/
theorem wait_created_of_dead {s : Wait} (hs : s.Below timeout) {ms : List Moment}
    (hms : ∀ m ∈ ms, m.pidFile = none ∧ m.alive pid = false) (hlong : s.deadRank ≤ ms.length) :
    ∃ e, (run (Wait.step timeout .created pid) s ms).phase = .returned e := by
  induction ms generalizing s with
  | nil =>
      obtain ⟨i, race, phase⟩ := s
      cases phase with
      | returned e => exact ⟨e, rfl⟩
      | _ => cases race <;> simp [Wait.deadRank] at hlong
  | cons m ms ih =>
      by_cases hends : ∃ e, s.phase = .returned e
      · rw [run_of_halted step_of_returned hends]
        exact hends
      · have hlower : (s.step timeout .created pid m).deadRank < s.deadRank :=
          deadRank_step hs hends (hms m List.mem_cons_self)
        rw [List.length_cons] at hlong
        exact ih (step_below hs hends m).1
          (fun m' hm' => hms m' (List.mem_cons_of_mem m hm')) (by omega)

/--
A start exits with 0 only if it has seen a pid file, and with a pid file that is there when it
begins, whoever has left it, it exits with 0 at once.  If there is never a pid file and the
process that was launched has ended, it exits with 1 after four more looks.
-/
theorem start_outcome (hpos : 0 < timeout) (pid : Nat) :
    (∀ ms, mysqlStart timeout true pid ms = some 0 → ∃ m ∈ ms, m.pidFile ≠ none) ∧
    (∀ m ms, m.pidFile ≠ none → mysqlStart timeout true pid (m :: ms) = some 0) ∧
    ∀ before after, (∀ m ∈ before, m.pidFile = none) →
      (∀ m ∈ after, m.pidFile = none ∧ m.alive pid = false) → 4 ≤ after.length →
      mysqlStart timeout true pid (before ++ after) = some 1 := by
  have hstart : Wait.start timeout = ⟨0, true, .testFile⟩ := by
    simp [Wait.start, enter_of_lt hpos]
  have hfirst : (Wait.start timeout).phase ≠ .returned .success := by simp [hstart]
  refine ⟨fun ms hzero => ?_, fun m ms hm => ?_, fun before after hbefore hafter hlong => ?_⟩
  · by_contra hnone
    have hms : ∀ m ∈ ms, m.pidFile = none := fun m hm =>
      Classical.not_not.mp fun hne => hnone ⟨m, hm, hne⟩
    have hend : waitForPid timeout .created pid ms ≠ .returned .success :=
      wait_created_of_none hfirst hms
    simp only [mysqlStart, if_true] at hzero
    generalize waitForPid timeout .created pid ms = phase at hzero hend
    match phase with
    | .returned .success => exact hend rfl
    | .returned .serverQuit | .returned .timedOut | .testFile | .testPid => cases hzero
  · have hseen : Wait.step timeout .created pid ⟨0, true, .testFile⟩ m =
        ⟨0, true, .returned .success⟩ := by
      simp [Wait.step, Verb.seen, Option.isSome_iff_ne_none, hm]
    simp only [mysqlStart, waitForPid, if_true, hstart, run_cons, hseen]
    rw [run_of_returned rfl]
    rfl
  · have hbelow : (run (Wait.step timeout .created pid) (.start timeout) before).Below timeout :=
      run_invariant (I := Wait.Below timeout) (fun _ m hs => below_step hs m)
        (below_start timeout) before
    have hrank : (run (Wait.step timeout .created pid) (.start timeout) before).deadRank ≤ 4 :=
      Wait.deadRank_le _
    obtain ⟨e, he⟩ := wait_created_of_dead hbelow hafter (Nat.le_trans hrank hlong)
    rw [← run_append] at he
    have hend : waitForPid timeout .created pid (before ++ after) ≠ .returned .success := by
      refine wait_created_of_none hfirst fun m hm => ?_
      rcases List.mem_append.mp hm with hm | hm
      · exact hbefore m hm
      · exact (hafter m hm).1
    have hcode : waitForPid timeout .created pid (before ++ after) = .returned e := he
    rw [hcode] at hend
    simp only [mysqlStart, if_true, hcode]
    cases e with
    | success => exact absurd rfl hend
    | serverQuit => rfl
    | timedOut => rfl

/-- With a pid file that was left behind and no process at all, the start succeeds. -/
theorem start_outcome_sample :
    0 < 900 ∧ mysqlStart 900 true 7 [⟨some 3, fun _ => false⟩] = some 0 :=
  ⟨by decide, (start_outcome (by decide) 7).2.1 _ [] (by simp)⟩

end InitScript
end ClusterPlaybooks
