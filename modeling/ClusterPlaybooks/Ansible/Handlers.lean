import ClusterPlaybooks.Process.Stepping
import Mathlib.Logic.Function.Basic

/-!
# Roles with handlers

A role copies the files of a service and has it started.  A task that changed a file notifies
handlers by name; the notified handlers run once each, in the order in which the role defines
them, after all the tasks have succeeded.  A run that stops before that, for whatever reason,
forgets what was notified.  A name that no handler has ends the run.

A service reads its files when it is launched, its unit file excepted: that one it gets as
systemd has read it.  Systemd reads it again when it is told to, and when a service is enabled
that was not.

Main results:

- Theorem {lit}`Role.Sound.fresh_event`: complete runs of a role whose notifications are sound
  leave the service with the files on the disk.
- Theorem {lit}`Role.runs_running_of_written`: a run that finds the files that notify a
  restart in place leaves a running service alone.
- Theorem {lit}`Role.cutRun_running_of_no_restart`: so does one that does not reach a restart.
-/

namespace ClusterPlaybooks
namespace Notify

open Process

/-! ## A host -/

/-- A host, as far as one service goes: {lit}`F` are the files, {lit}`C` their contents. -/
structure Host (F C : Type) where
  disk : F → Option C
  /-- The unit file as systemd has read it, {lit}`none` before it has. -/
  loaded : Option (Option C)
  /-- The files as the running service has read them, {lit}`none` if it does not run. -/
  running : Option (F → Option C)
  enabled : Bool

namespace Host

variable {F C : Type} [DecidableEq F]

/-- The files as a service would read them now. -/
def view (unit : F) (h : Host F C) : F → Option C :=
  Function.update h.disk unit (h.loaded.getD (h.disk unit))

/-- The service is stopped if it runs, and launched. -/
def launch (unit : F) (h : Host F C) : Host F C :=
  { h with loaded := some (h.loaded.getD (h.disk unit)), running := some (h.view unit) }

/-- The service is launched if it does not run. -/
def start (unit : F) (h : Host F C) : Host F C :=
  match h.running with
  | none => h.launch unit
  | some _ => h

/-- The command {lit}`systemctl daemon-reload`. -/
def reload (unit : F) (h : Host F C) : Host F C :=
  { h with loaded := some (h.disk unit) }

/-- The command {lit}`systemctl enable`, after which systemd reads its unit files again. -/
def reenable (unit : F) (h : Host F C) : Host F C :=
  { h.reload unit with enabled := true }

/-- The service is enabled if it is not. -/
def enable (unit : F) (h : Host F C) : Host F C :=
  if h.enabled then h else h.reenable unit

/-- A service that does not run is disabled, enabled, stopped and started. -/
def revive (unit : F) (h : Host F C) : Host F C :=
  match h.running with
  | none => (h.reenable unit).launch unit
  | some _ => h

/-- A file gets new contents. -/
def write (f : F) (c : C) (h : Host F C) : Host F C :=
  { h with disk := Function.update h.disk f (some c) }

/-- The service is stopped. -/
def stop (h : Host F C) : Host F C :=
  { h with running := none }

variable {unit : F} {h : Host F C} {v : F → Option C}

@[simp]
theorem launch_disk : (h.launch unit).disk = h.disk :=
  rfl

@[simp]
theorem start_disk : (h.start unit).disk = h.disk := by
  unfold start
  cases h.running <;> rfl

omit [DecidableEq F] in
@[simp]
theorem enable_disk : (h.enable unit).disk = h.disk := by
  unfold enable
  split <;> rfl

omit [DecidableEq F] in
@[simp]
theorem enable_running : (h.enable unit).running = h.running := by
  unfold enable
  split <;> rfl

@[simp]
theorem revive_disk : (h.revive unit).disk = h.disk := by
  unfold revive
  cases h.running <;> rfl

/-- A service that runs is left alone. -/
theorem revive_of_running (hrun : h.running = some v) : h.revive unit = h := by
  simp [revive, hrun]

/-- A service that runs is not started again. -/
theorem start_of_running (hrun : h.running = some v) : h.start unit = h := by
  simp [start, hrun]

/-- Starting leaves a service that runs. -/
theorem start_running_isSome : (h.start unit).running.isSome := by
  unfold start
  cases hrun : h.running with
  | none => rfl
  | some v => simp [hrun]

/-- What is not the unit file a service reads from the disk. -/
theorem view_of_ne {f : F} (hf : f ≠ unit) : h.view unit f = h.disk f :=
  Function.update_of_ne hf _ _

@[simp]
theorem view_unit : h.view unit unit = h.loaded.getD (h.disk unit) :=
  Function.update_self _ _ _

/-- Systemd has read the contents as the unit file of an enabled service, and has given them to
it if it runs. -/
structure LoadedAs (unit : F) (c : Option C) (h : Host F C) : Prop where
  enabled : h.enabled = true
  loaded : h.loaded = some c
  running : ∀ v, h.running = some v → v unit = c

/-- A launch keeps what systemd has read. -/
theorem LoadedAs.launch {c : Option C} (hh : h.LoadedAs unit c) :
    (h.launch unit).LoadedAs unit c where
  enabled := hh.enabled
  loaded := by simp [Host.launch, hh.loaded]
  running := by
    intro v hv
    obtain rfl : h.view unit = v := Option.some.inj hv
    simp [hh.loaded]

omit [DecidableEq F] in
/-- An enabled service is not enabled again. -/
theorem LoadedAs.enable {c : Option C} (hh : h.LoadedAs unit c) :
    (h.enable unit).LoadedAs unit c := by
  rw [Host.enable, if_pos hh.enabled]
  exact hh

/-- Starting keeps what systemd has read. -/
theorem LoadedAs.start {c : Option C} (hh : h.LoadedAs unit c) :
    (h.start unit).LoadedAs unit c := by
  unfold Host.start
  cases h.running with
  | none => exact hh.launch
  | some v => exact hh

end Host

/-! ## Roles -/

/-- What a handler does. -/
inductive Effect where
  | daemonReload
  /-- The setting {lit}`enabled: yes` of a service, which comes before its state. -/
  | enabled
  | restarted
  | started
  /-- A command that always fails. -/
  | failing
  /-- A command that does nothing to the service. -/
  | other
deriving DecidableEq, Repr

/-- A task of a role: {lit}`N` are the names of the handlers. -/
inductive Task (F N : Type) where
  /-- A task that leaves the service and its files alone. -/
  | other (name : String)
  | copy (file : F) (notify : List N)
  | daemonReload
  /-- The setting {lit}`enabled: yes` of a service, which comes before its state. -/
  | enabled
  | started
  /-- A service that does not run is disabled, enabled, stopped and started. -/
  | revived
deriving DecidableEq

/-- A role for one service, with the file that is its unit file. -/
structure Role (F N : Type) where
  unit : F
  tasks : List (Task F N)
  handlers : List (N × Effect)

/-- A run of a role. -/
structure Run (F N C : Type) where
  host : Host F C
  notified : List N
  failed : Bool

/-- A task or a handler. -/
inductive Step (F N : Type) where
  | task (t : Task F N)
  | handler (h : N × Effect)

/-- The files of the copies among tasks, with the names they notify. -/
def copies {F N : Type} : List (Task F N) → List (F × List N)
  | [] => []
  | .copy f ns :: ts => (f, ns) :: copies ts
  | _ :: ts => copies ts

/-- What happens to a host: the role runs to its end or is cut off, or somebody steps in. -/
inductive Event (F C : Type) where
  | complete (render : F → C)
  | cut (render : F → C) (steps : Nat)
  | stop
  | restart

namespace Role

variable {F N C : Type} [DecidableEq F] [DecidableEq N]

/-- A handler has the name. -/
def Handled (role : Role F N) (n : N) : Prop :=
  n ∈ role.handlers.map Prod.fst

instance (role : Role F N) (n : N) : Decidable (role.Handled n) :=
  inferInstanceAs (Decidable (n ∈ role.handlers.map Prod.fst))

/-- One of the names is that of a handler with the effect. -/
def Notifies (role : Role F N) (e : Effect) (ns : List N) : Prop :=
  ∃ n ∈ ns, (n, e) ∈ role.handlers

instance (role : Role F N) (e : Effect) (ns : List N) : Decidable (role.Notifies e ns) :=
  inferInstanceAs (Decidable (∃ n ∈ ns, (n, e) ∈ role.handlers))

/-- The files whose change notifies a restart. -/
def restartFiles (role : Role F N) : List F :=
  ((copies role.tasks).filter (fun c => role.Notifies .restarted c.2)).map Prod.fst

/-- A handler of a run: it is skipped unless it was notified. -/
def runHandler (role : Role F N) (s : Run F N C) (h : N × Effect) : Run F N C :=
  if h.1 ∈ s.notified then
    match h.2 with
    | .daemonReload => { s with host := s.host.reload role.unit }
    | .enabled => { s with host := s.host.enable role.unit }
    | .restarted => { s with host := s.host.launch role.unit }
    | .started => { s with host := s.host.start role.unit }
    | .failing => { s with failed := true }
    | .other => s
  else s

variable {role : Role F N} {s : Run F N C} {h : Host F C} {v : F → Option C}

omit [DecidableEq F] [DecidableEq N] in
theorem mem_copies {ts : List (Task F N)} {f : F} {ns : List N} :
    (f, ns) ∈ copies ts ↔ Task.copy f ns ∈ ts := by
  induction ts with
  | nil => simp [copies]
  | cons t ts ih => cases t <;> simp [copies, ih]

omit [DecidableEq F] in
theorem mem_restartFiles {f : F} : f ∈ role.restartFiles ↔
    ∃ ns, Task.copy f ns ∈ role.tasks ∧ role.Notifies .restarted ns := by
  simp [restartFiles, mem_copies]

/-! ## What handlers do -/

/-- Handlers write no files. -/
theorem runHandler_disk (x : N × Effect) : (role.runHandler s x).host.disk = s.host.disk := by
  unfold runHandler
  split
  · cases x.2 with
    | enabled => exact Host.enable_disk
    | started => exact Host.start_disk
    | _ => rfl
  · rfl

/-- Handlers notify nothing. -/
theorem runHandler_notified (x : N × Effect) :
    (role.runHandler s x).notified = s.notified := by
  unfold runHandler
  split
  · cases x.2 <;> rfl
  · rfl

/-- A handler leaves a running service alone unless it is notified and restarts it. -/
theorem runHandler_running (hrun : s.host.running = some v) {x : N × Effect}
    (hx : x.2 = .restarted → x.1 ∉ s.notified) :
    (role.runHandler s x).host.running = some v := by
  unfold runHandler
  split
  · rename_i hnotified
    cases heff : x.2 with
    | restarted => exact absurd hnotified (hx heff)
    | enabled => exact Host.enable_running.trans hrun
    | started => exact (congrArg Host.running (Host.start_of_running hrun)).trans hrun
    | _ => exact hrun
  · exact hrun

/-- Every notified name has a handler and no handler fails. -/
structure Steady (role : Role F N) : Prop where
  handled : ∀ c ∈ copies role.tasks, ∀ n ∈ c.2, role.Handled n
  works : ∀ h ∈ role.handlers, h.2 ≠ .failing

/-- Nor does a handler. -/
theorem Steady.runHandler_failed (hsteady : role.Steady) (hs : s.failed = false)
    {x : N × Effect} (hx : x ∈ role.handlers) : (role.runHandler s x).failed = false := by
  have hworks := hsteady.works x hx
  unfold runHandler
  split
  · cases heff : x.2 with
    | failing => exact absurd heff hworks
    | _ => exact hs
  · exact hs

/-! ## Fresh services -/

/-- Notifications that make sure that the service gets the files that notify a restart. -/
structure Sound (role : Role F N) : Prop extends role.Steady where
  /-- Every copy of such a file notifies a restart. -/
  restart : ∀ c ∈ copies role.tasks, c.1 ∈ role.restartFiles → role.Notifies .restarted c.2
  /-- The unit file, if it is one of them, also notifies systemd. -/
  reload : ∀ c ∈ copies role.tasks, c.1 = role.unit → c.1 ∈ role.restartFiles →
    role.Notifies .daemonReload c.2
  /-- No restart comes before a reload. -/
  ordered : role.handlers.Pairwise (fun a b => a.2 = .restarted → b.2 ≠ .daemonReload)
  starts : .started ∈ role.tasks

/-- Systemd has the unit file of the disk, if a change of it is to restart the service. -/
def LoadedFresh (role : Role F N) (h : Host F C) : Prop :=
  role.unit ∈ role.restartFiles → ∀ c, h.loaded = some c → c = h.disk role.unit

/-- A running service has the files of the disk that are to restart it. -/
def ViewFresh (role : Role F N) (h : Host F C) : Prop :=
  ∀ v, h.running = some v → ∀ f ∈ role.restartFiles, v f = h.disk f

/-- Systemd and the service have the files of the disk. -/
structure Fresh (role : Role F N) (h : Host F C) : Prop where
  loaded : role.LoadedFresh h
  view : role.ViewFresh h

/-- A handler with the effect is notified and still to come. -/
def Pending (hs : List (N × Effect)) (s : Run F N C) (e : Effect) : Prop :=
  ∃ n ∈ s.notified, (n, e) ∈ hs

/-- What is not fresh will be made so by the handlers still to come. -/
structure Due (role : Role F N) (hs : List (N × Effect)) (s : Run F N C) : Prop where
  loaded : role.LoadedFresh s.host ∨ Pending hs s .daemonReload ∧ Pending hs s .restarted
  view : role.ViewFresh s.host ∨ Pending hs s .restarted

omit [DecidableEq F] in
/-- Reloading makes systemd fresh. -/
theorem loadedFresh_reload : role.LoadedFresh (h.reload role.unit) := by
  intro _ c hc
  exact (Option.some.inj hc).symm

/-- A launch keeps systemd fresh. -/
theorem LoadedFresh.launch (hloaded : role.LoadedFresh h) :
    role.LoadedFresh (h.launch role.unit) := by
  intro hunit c hc
  have hc' : h.loaded.getD (h.disk role.unit) = c := Option.some.inj hc
  cases hold : h.loaded with
  | none => simpa [hold] using hc'.symm
  | some c₀ =>
      have hfresh := hloaded hunit c₀ hold
      simpa [hold, hfresh] using hc'.symm

/-- With a fresh systemd, a launch gives a fresh service. -/
theorem LoadedFresh.viewFresh_launch (hloaded : role.LoadedFresh h) :
    role.ViewFresh (h.launch role.unit) := by
  intro v hv f hf
  obtain rfl : h.view role.unit = v := Option.some.inj hv
  by_cases hunit : f = role.unit
  · subst hunit
    rw [Host.view_unit, Host.launch_disk]
    cases hold : h.loaded with
    | none => rfl
    | some c => exact hloaded hf c hold
  · exact Host.view_of_ne hunit

/-- Starting is a launch or nothing. -/
theorem Due.start {hs : List (N × Effect)} (hdue : role.Due hs s) :
    role.Due hs { s with host := s.host.start role.unit } := by
  cases hrun : s.host.running with
  | some v =>
      rw [Host.start_of_running hrun]
      exact hdue
  | none =>
      have hstart : s.host.start role.unit = s.host.launch role.unit := by
        simp [Host.start, hrun]
      rw [hstart]
      rcases hdue.loaded with hfresh | ⟨hreload, hrestart⟩
      · exact ⟨Or.inl hfresh.launch, Or.inl hfresh.viewFresh_launch⟩
      · exact ⟨Or.inr ⟨hreload, hrestart⟩, Or.inr hrestart⟩

omit [DecidableEq F] in
/-- Enabling is a reload or nothing. -/
theorem Due.enable {hs : List (N × Effect)} (hdue : role.Due hs s) :
    role.Due hs { s with host := s.host.enable role.unit } := by
  unfold Host.enable
  split
  · exact hdue
  · exact ⟨Or.inl loadedFresh_reload, hdue.view⟩

/-- Reviving is a reload with a launch, or nothing. -/
theorem Due.revive {hs : List (N × Effect)} (hdue : role.Due hs s) :
    role.Due hs { s with host := s.host.revive role.unit } := by
  cases hrun : s.host.running with
  | some v =>
      rw [Host.revive_of_running hrun]
      exact hdue
  | none =>
      have hrevive : s.host.revive role.unit = (s.host.reenable role.unit).launch role.unit := by
        simp [Host.revive, hrun]
      have hfresh : role.LoadedFresh (s.host.reenable role.unit) := loadedFresh_reload
      rw [hrevive]
      exact ⟨Or.inl hfresh.launch, Or.inl hfresh.viewFresh_launch⟩

omit [DecidableEq F] [DecidableEq N] in
/-- What is pending is the next handler or comes later. -/
theorem pending_cons {x : N × Effect} {hs : List (N × Effect)} {e : Effect} :
    Pending (x :: hs) s e ↔ (x.1 ∈ s.notified ∧ x.2 = e) ∨ Pending hs s e := by
  constructor
  · rintro ⟨n, hn, hmem⟩
    rcases List.mem_cons.mp hmem with rfl | htail
    · exact Or.inl ⟨hn, rfl⟩
    · exact Or.inr ⟨n, hn, htail⟩
  · rintro (⟨hn, rfl⟩ | ⟨n, hn, hmem⟩)
    · exact ⟨x.1, hn, List.mem_cons_self⟩
    · exact ⟨n, hn, List.mem_cons_of_mem _ hmem⟩

/-- A handler does its part of what is due. -/
theorem due_runHandler {x : N × Effect} {hs : List (N × Effect)} (hdue : role.Due (x :: hs) s)
    (hordered : ∀ y ∈ hs, x.2 = .restarted → y.2 ≠ .daemonReload) :
    role.Due hs (role.runHandler s x) := by
  have hloaded := hdue.loaded
  have hview := hdue.view
  simp only [pending_cons] at hloaded hview
  unfold runHandler
  split
  · rename_i hnotified
    cases heff : x.2 with
    | daemonReload =>
        simp only [heff, reduceCtorEq, and_false, false_or] at hview
        exact ⟨Or.inl loadedFresh_reload, hview⟩
    | restarted =>
        -- No reload is to come, so systemd is fresh already.
        have hnow : role.LoadedFresh s.host := by
          rcases hloaded with hfresh | ⟨hreload | ⟨n, _, hn⟩, _⟩
          · exact hfresh
          · rw [heff] at hreload
            cases hreload.2
          · exact absurd rfl (hordered _ hn heff)
        exact ⟨Or.inl hnow.launch, Or.inl hnow.viewFresh_launch⟩
    | enabled =>
        simp only [heff, reduceCtorEq, and_false, false_or] at hloaded hview
        exact Due.enable ⟨hloaded, hview⟩
    | started =>
        simp only [heff, reduceCtorEq, and_false, false_or] at hloaded hview
        exact Due.start ⟨hloaded, hview⟩
    | failing =>
        simp only [heff, reduceCtorEq, and_false, false_or] at hloaded hview
        exact ⟨hloaded, hview⟩
    | other =>
        simp only [heff, reduceCtorEq, and_false, false_or] at hloaded hview
        exact ⟨hloaded, hview⟩
  · rename_i hskipped
    simp only [hskipped, false_and, false_or] at hloaded hview
    exact ⟨hloaded, hview⟩

/-! ## Runs -/

variable [DecidableEq C] {render : F → C}

/-- A task of a run, with the contents that the templates render to. -/
def runTask (role : Role F N) (render : F → C) (s : Run F N C) : Task F N → Run F N C
  | .other _ => s
  | .copy f ns =>
      if s.host.disk f = some (render f) then s
      else
        { host := s.host.write f (render f)
          notified := s.notified ++ ns
          failed := !decide (∀ n ∈ ns, role.Handled n) }
  | .daemonReload => { s with host := s.host.reload role.unit }
  | .enabled => { s with host := s.host.enable role.unit }
  | .started => { s with host := s.host.start role.unit }
  | .revived => { s with host := s.host.revive role.unit }

/-- A step of a run; a run that has failed does nothing more. -/
def step (role : Role F N) (render : F → C) (s : Run F N C) (st : Step F N) : Run F N C :=
  if s.failed then s
  else match st with
    | .task t => role.runTask render s t
    | .handler h => role.runHandler s h

/-- The steps of a complete run. -/
def steps (role : Role F N) : List (Step F N) :=
  role.tasks.map .task ++ role.handlers.map .handler

/-- A run that begins. -/
def begin (h : Host F C) : Run F N C where
  host := h
  notified := []
  failed := false

/-- A run that is cut off after {lit}`k` steps. -/
def cutRun (role : Role F N) (render : F → C) (k : Nat) (h : Host F C) : Run F N C :=
  run (role.step render) (begin h) (role.steps.take k)

/-- A run that is not cut off. -/
def completeRun (role : Role F N) (render : F → C) (h : Host F C) : Run F N C :=
  role.cutRun render role.steps.length h

/-- The host after an event. -/
def event (role : Role F N) (h : Host F C) : Event F C → Host F C
  | .complete render => (role.completeRun render h).host
  | .cut render k => (role.cutRun render k h).host
  | .stop => h.stop
  | .restart => h.launch role.unit

/-- A copy changes nothing if the file is as rendered. -/
theorem runTask_copy (f : F) (ns : List N) : role.runTask render s (.copy f ns) =
    if s.host.disk f = some (render f) then s
    else
      { host := s.host.write f (render f)
        notified := s.notified ++ ns
        failed := !decide (∀ n ∈ ns, role.Handled n) } :=
  rfl

/-- A run that has failed does nothing more. -/
theorem step_of_failed (hs : s.failed = true) (st : Step F N) : role.step render s st = s := by
  simp [step, hs]

/-- The steps of a run. -/
theorem step_cases {I : Run F N C → Prop} {st : Step F N} (hs : I s)
    (htask : ∀ t, st = .task t → s.failed = false → I (role.runTask render s t))
    (hhandler : ∀ h, st = .handler h → s.failed = false → I (role.runHandler s h)) :
    I (role.step render s st) := by
  unfold step
  cases hfailed : s.failed with
  | true => simpa [hfailed] using hs
  | false =>
      cases st with
      | task t => simpa [hfailed] using htask t rfl hfailed
      | handler h => simpa [hfailed] using hhandler h rfl hfailed

/-- What the tasks and the handlers of a role keep its runs keep, cut off or not. -/
theorem cutRun_invariant {I : Run F N C → Prop} {k : Nat} (hs : I (begin h))
    (htask : ∀ s, ∀ t ∈ role.tasks, I s → I (role.runTask render s t))
    (hhandler : ∀ s, ∀ x, Step.handler x ∈ role.steps.take k → I s → I (role.runHandler s x)) :
    I (role.cutRun render k h) := by
  apply run_invariant_of_mem _ hs
  intro s st hst hI
  apply step_cases hI
  · rintro t rfl _
    have hmem := List.mem_of_mem_take hst
    exact htask s t (by simpa [steps] using hmem) hI
  · rintro x rfl _
    exact hhandler s x hst hI

/-! ## What is copied is on the disk -/

/-- A file that is as rendered stays as it is. -/
theorem runTask_disk {f : F} (hf : s.host.disk f = some (render f)) (t : Task F N) :
    (role.runTask render s t).host.disk f = some (render f) := by
  cases t with
  | copy g ns =>
      rw [runTask_copy]
      split
      · exact hf
      · by_cases hfg : f = g
        · subst hfg
          exact Function.update_self _ _ _
        · exact (Function.update_of_ne hfg _ _).trans hf
  | enabled => exact congrFun Host.enable_disk f |>.trans hf
  | started => exact congrFun Host.start_disk f |>.trans hf
  | revived => exact congrFun Host.revive_disk f |>.trans hf
  | _ => exact hf

/-- No step changes a file that is as rendered. -/
theorem step_disk {f : F} (hf : s.host.disk f = some (render f)) (st : Step F N) :
    (role.step render s st).host.disk f = some (render f) :=
  step_cases (I := fun s => s.host.disk f = some (render f)) hf
    (fun t _ _ => runTask_disk hf t) (fun x _ _ => (congrFun (runHandler_disk x) f).trans hf)

/-- After a copy the file is as rendered. -/
theorem runTask_copy_disk (f : F) (ns : List N) :
    (role.runTask render s (.copy f ns)).host.disk f = some (render f) := by
  rw [runTask_copy]
  split
  · assumption
  · exact Function.update_self _ _ _

/-- A task of a steady role does not end the run. -/
theorem Steady.runTask_failed (hsteady : role.Steady) (hs : s.failed = false) {t : Task F N}
    (ht : t ∈ role.tasks) : (role.runTask render s t).failed = false := by
  cases t with
  | copy f ns =>
      rw [runTask_copy]
      split
      · exact hs
      · simpa using hsteady.handled (f, ns) (mem_copies.mpr ht)
  | _ => exact hs

/-- A step of a steady role does not end the run. -/
theorem Steady.step_failed (hsteady : role.Steady) (hs : s.failed = false) {st : Step F N}
    (hst : st ∈ role.steps) : (role.step render s st).failed = false := by
  cases st with
  | task t =>
      have ht : t ∈ role.tasks := by simpa [steps] using hst
      simpa [step, hs] using hsteady.runTask_failed hs ht
  | handler x =>
      have hx : x ∈ role.handlers := by simpa [steps] using hst
      simpa [step, hs] using hsteady.runHandler_failed hs hx

/-- A run of a steady role does not fail. -/
theorem Steady.run_failed (hsteady : role.Steady) {sts : List (Step F N)}
    (hsts : ∀ st ∈ sts, st ∈ role.steps) (hs : s.failed = false) :
    (run (role.step render) s sts).failed = false :=
  run_invariant_of_mem (I := fun s : Run F N C => s.failed = false)
    (fun _ st hst hgoes => hsteady.step_failed hgoes (hsts st hst)) hs

variable (role s render) in
/-- A run that got through a step has failed, or what the step brings about holds. -/
theorem run_failed_or {P : Host F C → Prop} {st₀ : Step F N} {sts : List (Step F N)}
    (hmake : ∀ s : Run F N C, s.failed = false → P (role.step render s st₀).host)
    (hkeep : ∀ (s : Run F N C) st, P s.host → P (role.step render s st).host)
    (hst₀ : st₀ ∈ sts) :
    (run (role.step render) s sts).failed = true ∨ P (run (role.step render) s sts).host := by
  refine run_establishes (P := fun s : Run F N C => s.failed = true ∨ P s.host)
    (fun s => ?_) (fun s st hs => ?_) hst₀
  · cases hs : s.failed with
    | true => exact Or.inl (by rw [step_of_failed hs, hs])
    | false => exact Or.inr (hmake s hs)
  · rcases hs with hfailed | hP
    · exact Or.inl (by rw [step_of_failed hfailed, hfailed])
    · exact Or.inr (hkeep s st hP)

variable (role s render) in
/-- A run that got through a copy has failed, or the file is as rendered. -/
theorem run_failed_or_disk {f : F} {ns : List N} {sts : List (Step F N)}
    (hcopy : Step.task (.copy f ns) ∈ sts) :
    (run (role.step render) s sts).failed = true ∨
    (run (role.step render) s sts).host.disk f = some (render f) := by
  refine run_failed_or role s render (P := fun h => h.disk f = some (render f)) (fun s hs => ?_)
    (fun s st hdisk => step_disk hdisk st) hcopy
  simpa [step, hs] using runTask_copy_disk f ns

/-- The files copied by tasks that a run of a steady role got through are as rendered. -/
theorem Steady.run_disk (hsteady : role.Steady) {f : F} {ns : List N} {sts : List (Step F N)}
    (hsts : ∀ st ∈ sts, st ∈ role.steps) (hs : s.failed = false)
    (hcopy : Step.task (.copy f ns) ∈ sts) :
    (run (role.step render) s sts).host.disk f = some (render f) := by
  rcases run_failed_or_disk role s render hcopy with hfailed | hdisk
  · rw [hsteady.run_failed hsts hs] at hfailed
    cases hfailed
  · exact hdisk

/-- The files copied by the tasks before the cut are as rendered. -/
theorem Steady.cutRun_disk (hsteady : role.Steady) {f : F} {ns : List N} {k : Nat}
    (hcopy : Task.copy f ns ∈ role.tasks.take k) :
    (role.cutRun render k h).host.disk f = some (render f) := by
  have hmem : Step.task (.copy f ns) ∈ role.steps.take k := by
    rw [steps, List.take_append, ← List.map_take]
    exact List.mem_append_left _ (List.mem_map_of_mem hcopy)
  exact hsteady.run_disk (fun _ hst => List.mem_of_mem_take hst) rfl hmem

/-- After a complete run every file is as rendered. -/
theorem Steady.completeRun_disk (hsteady : role.Steady) {f : F} {ns : List N}
    (hcopy : Task.copy f ns ∈ role.tasks) :
    (role.completeRun render h).host.disk f = some (render f) := by
  unfold completeRun cutRun
  rw [List.take_length]
  exact hsteady.run_disk (fun _ hst => hst) rfl (by simpa [steps] using hcopy)

/-- A task changes a file only by a copy that notifies. -/
theorem runTask_changed {f : F} {n : N} (hnotify : ∀ c ∈ copies role.tasks, c.1 = f → n ∈ c.2)
    {t : Task F N} (ht : t ∈ role.tasks) :
    (role.runTask render s t).host.disk f = s.host.disk f ∨
    n ∈ (role.runTask render s t).notified := by
  cases t with
  | copy g ns =>
      rw [runTask_copy]
      split
      · exact Or.inl rfl
      · by_cases hfg : f = g
        · exact Or.inr (List.mem_append_right _ (hnotify _ (mem_copies.mpr ht) hfg.symm))
        · exact Or.inl (Function.update_of_ne hfg _ _)
  | enabled => exact Or.inl (congrFun Host.enable_disk f)
  | started => exact Or.inl (congrFun Host.start_disk f)
  | revived => exact Or.inl (congrFun Host.revive_disk f)
  | _ => exact Or.inl rfl

/-- What is notified stays so. -/
theorem runTask_notified {n : N} (hn : n ∈ s.notified) (t : Task F N) :
    n ∈ (role.runTask render s t).notified := by
  cases t with
  | copy g ns =>
      rw [runTask_copy]
      split
      · exact hn
      · exact List.mem_append_left _ hn
  | _ => exact hn

/-- A run that changed a file has failed, or has notified what every copy of it notifies. -/
theorem run_changed {f : F} {n : N} (hnotify : ∀ c ∈ copies role.tasks, c.1 = f → n ∈ c.2)
    {ns : List N} {sts : List (Step F N)} (hsts : ∀ st ∈ sts, st ∈ role.steps)
    (hcopy : Step.task (.copy f ns) ∈ sts) (hchanged : s.host.disk f ≠ some (render f)) :
    (run (role.step render) s sts).failed = true ∨
    n ∈ (run (role.step render) s sts).notified := by
  have hkept : (run (role.step render) s sts).host.disk f = s.host.disk f ∨
      n ∈ (run (role.step render) s sts).notified := by
    refine run_invariant_of_mem
      (I := fun t : Run F N C => t.host.disk f = s.host.disk f ∨ n ∈ t.notified) ?_ (Or.inl rfl)
    intro t st hst hI
    apply step_cases (I := fun t : Run F N C => t.host.disk f = s.host.disk f ∨ n ∈ t.notified) hI
    · rintro x rfl _
      have hx : x ∈ role.tasks := by simpa [steps] using hsts _ hst
      rcases hI with hdisk | hn
      · exact (runTask_changed hnotify hx).imp (·.trans hdisk) id
      · exact Or.inr (runTask_notified hn x)
    · rintro x rfl _
      rw [runHandler_disk, runHandler_notified]
      exact hI
  rcases run_failed_or_disk role s render hcopy with hfailed | hdisk
  · exact Or.inl hfailed
  · exact Or.inr (hkept.resolve_left fun hsame => hchanged (hsame.symm.trans hdisk))

/-! ## Runs that do not restart the service -/

/-- A task leaves a running service alone. -/
theorem runTask_running (hrun : s.host.running = some v) (t : Task F N) :
    (role.runTask render s t).host.running = some v := by
  cases t with
  | copy f ns =>
      rw [runTask_copy]
      split <;> exact hrun
  | enabled => exact Host.enable_running.trans hrun
  | started => exact (congrArg Host.running (Host.start_of_running hrun)).trans hrun
  | revived => exact (congrArg Host.running (Host.revive_of_running hrun)).trans hrun
  | _ => exact hrun

/-- A run that does not reach a handler that restarts leaves a running service alone. -/
theorem cutRun_running_of_no_restart {k : Nat} (hrun : h.running = some v)
    (hnone : ∀ x, Step.handler x ∈ role.steps.take k → x.2 ≠ .restarted) :
    (role.cutRun render k h).host.running = some v := by
  apply cutRun_invariant (I := fun s => s.host.running = some v)
  · exact hrun
  · intro s t _ hI
    exact runTask_running hI t
  · intro s x hx hI
    exact runHandler_running hI (fun heff => absurd heff (hnone x hx))

/-- The service runs, the files that notify a restart are as rendered, none is notified. -/
structure Undisturbed (role : Role F N) (render : F → C) (v : F → Option C)
    (s : Run F N C) : Prop where
  running : s.host.running = some v
  written : ∀ f ∈ role.restartFiles, s.host.disk f = some (render f)
  quiet : ¬ role.Notifies .restarted s.notified

/-- A task of the role does not disturb the service. -/
theorem Undisturbed.runTask (hs : role.Undisturbed render v s) {t : Task F N}
    (ht : t ∈ role.tasks) : role.Undisturbed render v (role.runTask render s t) where
  running := runTask_running hs.running t
  written := fun f hf => runTask_disk (hs.written f hf) t
  quiet := by
    cases t with
    | copy f ns =>
        rw [runTask_copy]
        split
        · exact hs.quiet
        · -- A file that is not in place notifies no restart.
          rename_i hchanged
          have hns : ¬ role.Notifies .restarted ns := fun hns =>
            hchanged (hs.written f (mem_restartFiles.mpr ⟨ns, ht, hns⟩))
          rintro ⟨n, hn, hhandler⟩
          rcases List.mem_append.mp hn with hold | hnew
          · exact hs.quiet ⟨n, hold, hhandler⟩
          · exact hns ⟨n, hnew, hhandler⟩
    | _ => exact hs.quiet

omit [DecidableEq C] in
/-- A handler of the role does not disturb the service. -/
theorem Undisturbed.runHandler (hs : role.Undisturbed render v s) {x : N × Effect}
    (hx : x ∈ role.handlers) : role.Undisturbed render v (role.runHandler s x) where
  running := by
    apply runHandler_running hs.running
    intro heff hnotified
    exact hs.quiet ⟨x.1, hnotified, heff ▸ hx⟩
  written := fun f hf => (congrFun (runHandler_disk x) f).trans (hs.written f hf)
  quiet := by
    rw [runHandler_notified]
    exact hs.quiet

/-- A run that finds the files that notify a restart in place leaves all as it is. -/
theorem cutRun_undisturbed {k : Nat} (hrun : h.running = some v)
    (hwritten : ∀ f ∈ role.restartFiles, h.disk f = some (render f)) :
    role.Undisturbed render v (role.cutRun render k h) := by
  apply cutRun_invariant
  · exact ⟨hrun, hwritten, fun ⟨_, hn, _⟩ => nomatch hn⟩
  · intro s t ht hs
    exact hs.runTask ht
  · intro s x hx hs
    have hmem := List.mem_of_mem_take hx
    exact hs.runHandler (by simpa [steps] using hmem)

/-- Runs whose renderings agree with the files in place leave a running service alone. -/
theorem runs_running_of_written {runs : List ((F → C) × Nat)} (hrun : h.running = some v)
    (hwritten : ∀ c ∈ runs, ∀ f ∈ role.restartFiles, h.disk f = some (c.1 f)) :
    (run role.event h (runs.map (fun c => .cut c.1 c.2))).running = some v ∧
    ∀ f ∈ role.restartFiles, (run role.event h (runs.map (fun c => .cut c.1 c.2))).disk f =
      h.disk f := by
  induction runs generalizing h with
  | nil => exact ⟨hrun, fun _ _ => rfl⟩
  | cons c runs ih =>
      have hfirst := hwritten c List.mem_cons_self
      have hstep := cutRun_undisturbed (k := c.2) hrun hfirst
      have hsame : ∀ f ∈ role.restartFiles, (role.cutRun c.1 c.2 h).host.disk f = h.disk f :=
        fun f hf => (hstep.written f hf).trans (hfirst f hf).symm
      rw [List.map_cons, run_cons]
      have hrest := ih hstep.running (fun c' hc' f hf =>
        (hsame f hf).trans (hwritten c' (List.mem_cons_of_mem _ hc') f hf))
      exact ⟨hrest.1, fun f hf => (hrest.2 f hf).trans (hsame f hf)⟩

/-- So do repeated runs of a rendering that is in place. -/
theorem repeated_running (hrun : h.running = some v)
    (hwritten : ∀ f ∈ role.restartFiles, h.disk f = some (render f)) (later : List Nat) :
    (run role.event h (later.map (.cut render))).running = some v ∧
    ∀ f ∈ role.restartFiles,
      (run role.event h (later.map (.cut render))).disk f = some (render f) := by
  have hmap : later.map (Event.cut render) =
      (later.map (fun k => (render, k))).map (fun c => .cut c.1 c.2) := by
    simp
  have hsame : ∀ c ∈ later.map (fun k => (render, k)), ∀ f ∈ role.restartFiles,
      h.disk f = some (c.1 f) := by
    intro c hc f hf
    obtain ⟨k, _, rfl⟩ := List.mem_map.mp hc
    exact hwritten f hf
  have hlater := runs_running_of_written hrun hsame
  rw [hmap]
  exact ⟨hlater.1, fun f hf => (hlater.2 f hf).trans (hwritten f hf)⟩

/-! ## Roles that do not reload systemd -/

/-- Nothing in the role makes systemd read the unit file of an enabled service again. -/
structure NoReload (role : Role F N) : Prop where
  tasks : .daemonReload ∉ role.tasks
  revives : .revived ∉ role.tasks
  handlers : ∀ x ∈ role.handlers, x.2 ≠ .daemonReload

/-- Every event keeps the unit file that systemd has read. -/
theorem NoReload.loadedAs_event (hrole : role.NoReload) {c : Option C}
    (hh : h.LoadedAs role.unit c) (e : Event F C) : (role.event h e).LoadedAs role.unit c := by
  have hcut : ∀ (render : F → C) k, (role.cutRun render k h).host.LoadedAs role.unit c := by
    intro render k
    refine cutRun_invariant (I := fun s => s.host.LoadedAs role.unit c) hh ?_ ?_
    · intro s t ht hs
      cases t with
      | other name => exact hs
      | copy f ns =>
          rw [runTask_copy]
          split <;> exact ⟨hs.enabled, hs.loaded, hs.running⟩
      | daemonReload => exact absurd ht hrole.tasks
      | enabled => exact hs.enable
      | started => exact hs.start
      | revived => exact absurd ht hrole.revives
    · intro s x hx hs
      have hmem := List.mem_of_mem_take hx
      have hno := hrole.handlers x (by simpa [steps] using hmem)
      unfold runHandler
      split
      · cases heff : x.2 with
        | daemonReload => exact absurd heff hno
        | enabled => exact hs.enable
        | restarted => exact hs.launch
        | started => exact hs.start
        | failing => exact hs
        | other => exact hs
      · exact hs
  cases e with
  | complete render => exact hcut render _
  | cut render k => exact hcut render k
  | stop => exact ⟨hh.enabled, hh.loaded, fun _ hv => nomatch hv⟩
  | restart => exact hh.launch

/-! ## Complete runs -/

/-- A task leaves nothing stale that is not due. -/
theorem Sound.due_runTask (hsound : role.Sound) (hdue : role.Due role.handlers s)
    {t : Task F N} (ht : t ∈ role.tasks) :
    role.Due role.handlers (role.runTask render s t) := by
  cases t with
  | other name => exact hdue
  | daemonReload => exact ⟨Or.inl loadedFresh_reload, hdue.view⟩
  | enabled => exact hdue.enable
  | started => exact hdue.start
  | revived => exact hdue.revive
  | copy f ns =>
      have hcopy := mem_copies.mpr ht
      rw [runTask_copy]
      split
      · exact hdue
      · have hmore : ∀ {e}, role.Notifies e (s.notified ++ ns) ↔
            role.Notifies e s.notified ∨ role.Notifies e ns := by
          intro e
          simp only [Notifies, List.mem_append, or_and_right, exists_or]
        by_cases hf : f ∈ role.restartFiles
        · -- The change is notified, so the restart is due.
          have hrestart : role.Notifies .restarted (s.notified ++ ns) :=
            hmore.mpr (Or.inr (hsound.restart _ hcopy hf))
          refine ⟨?_, Or.inr hrestart⟩
          by_cases hunit : f = role.unit
          · exact Or.inr ⟨hmore.mpr (Or.inr (hsound.reload _ hcopy hunit hf)), hrestart⟩
          · rcases hdue.loaded with hfresh | ⟨hreload, _⟩
            · refine Or.inl fun hu c hc => ?_
              rw [hfresh hu c hc]
              exact (Function.update_of_ne (Ne.symm hunit) _ _).symm
            · exact Or.inr ⟨hmore.mpr (Or.inl hreload), hrestart⟩
        · -- The change is to a file that restarts nothing.
          have hkept : ∀ g ∈ role.restartFiles,
              (s.host.write f (render f)).disk g = s.host.disk g := by
            intro g hg
            refine Function.update_of_ne ?_ _ _
            rintro rfl
            exact hf hg
          constructor
          · rcases hdue.loaded with hfresh | ⟨hreload, hrestart⟩
            · refine Or.inl fun hu c hc => ?_
              rw [hkept _ hu]
              exact hfresh hu c hc
            · exact Or.inr ⟨hmore.mpr (Or.inl hreload), hmore.mpr (Or.inl hrestart)⟩
          · rcases hdue.view with hfresh | hrestart
            · refine Or.inl fun v hv g hg => ?_
              rw [hkept g hg]
              exact hfresh v hv g hg
            · exact Or.inr (hmore.mpr (Or.inl hrestart))

/-- The tasks of a sound role leave nothing stale that is not due. -/
theorem Sound.run_tasks (hsound : role.Sound) {ts : List (Task F N)}
    (hmem : ∀ t ∈ ts, t ∈ role.tasks) (hs : s.failed = false) (hdue : role.Due role.handlers s) :
    (run (role.step render) s (ts.map .task)).failed = false ∧
    role.Due role.handlers (run (role.step render) s (ts.map .task)) := by
  induction ts generalizing s with
  | nil => exact ⟨hs, hdue⟩
  | cons t ts ih =>
      have ht := hmem t List.mem_cons_self
      have hstep : role.step render s (.task t) = role.runTask render s t := by simp [step, hs]
      rw [List.map_cons, run_cons, hstep]
      exact ih (fun t' ht' => hmem t' (List.mem_cons_of_mem _ ht'))
        (hsound.runTask_failed hs ht) (hsound.due_runTask hdue ht)

/-- After its handlers a run leaves nothing stale. -/
theorem Steady.fresh_handlers (hsteady : role.Steady) {hs : List (N × Effect)}
    (hmem : ∀ x ∈ hs, x ∈ role.handlers)
    (hordered : hs.Pairwise (fun a b => a.2 = .restarted → b.2 ≠ .daemonReload))
    (hs₀ : s.failed = false) (hdue : role.Due hs s) :
    role.Fresh (run (role.step render) s (hs.map .handler)).host := by
  induction hs generalizing s with
  | nil =>
      constructor
      · rcases hdue.loaded with hfresh | ⟨⟨n, _, hn⟩, _⟩
        · exact hfresh
        · cases hn
      · rcases hdue.view with hfresh | ⟨n, _, hn⟩
        · exact hfresh
        · cases hn
  | cons x hs ih =>
      rw [List.pairwise_cons] at hordered
      have hstep : role.step render s (.handler x) = role.runHandler s x := by simp [step, hs₀]
      rw [List.map_cons, run_cons, hstep]
      apply ih (fun y hy => hmem y (List.mem_cons_of_mem _ hy)) hordered.2
      · exact hsteady.runHandler_failed hs₀ (hmem x List.mem_cons_self)
      · exact due_runHandler hdue hordered.1

/-- A complete run of a sound role leaves nothing stale. -/
theorem Sound.fresh_completeRun (hsound : role.Sound) (hfresh : role.Fresh h) :
    role.Fresh (role.completeRun render h).host := by
  have hbegin : role.Due role.handlers (begin h : Run F N C) :=
    ⟨Or.inl hfresh.loaded, Or.inl hfresh.view⟩
  have htasks : (run (role.step render) (begin h) (role.tasks.map .task)).failed = false ∧
      role.Due role.handlers (run (role.step render) (begin h) (role.tasks.map .task)) :=
    hsound.run_tasks (fun _ ht => ht) rfl hbegin
  unfold completeRun cutRun
  rw [List.take_length, steps, run_append]
  exact hsound.fresh_handlers (fun _ hx => hx) hsound.ordered htasks.1 htasks.2

/-- Whatever happens short of a run that is cut off, nothing gets stale. -/
theorem Sound.fresh_event (hsound : role.Sound) (hfresh : role.Fresh h) {e : Event F C}
    (he : ∀ r k, e ≠ .cut r k) : role.Fresh (role.event h e) := by
  cases e with
  | complete r => exact hsound.fresh_completeRun hfresh
  | cut r k => exact absurd rfl (he r k)
  | stop => exact ⟨hfresh.loaded, fun _ hv => nomatch hv⟩
  | restart => exact ⟨hfresh.loaded.launch, hfresh.loaded.viewFresh_launch⟩

/-- A service that runs is running after every step of a run. -/
theorem step_running_isSome (hs : s.host.running.isSome) (st : Step F N) :
    (role.step render s st).host.running.isSome := by
  apply step_cases (I := fun s => s.host.running.isSome = true) hs
  · intro t _ _
    obtain ⟨v, hv⟩ := Option.isSome_iff_exists.mp hs
    rw [runTask_running hv]
    rfl
  · intro x _ _
    unfold runHandler
    split
    · cases x.2 with
      | enabled => exact (congrArg Option.isSome Host.enable_running).trans hs
      | restarted => rfl
      | started => exact Host.start_running_isSome
      | _ => exact hs
    · exact hs

/-- After a complete run of a sound role the service runs. -/
theorem Sound.completeRun_running (hsound : role.Sound) :
    (role.completeRun render h).host.running.isSome := by
  unfold completeRun cutRun
  rw [List.take_length]
  have hgoes : (run (role.step render) (begin h) role.steps).failed = false :=
    hsound.run_failed (fun _ hst => hst) rfl
  have hstart : Step.task .started ∈ role.steps := by simpa [steps] using hsound.starts
  have hruns := run_failed_or role (begin h) render
    (P := fun h : Host F C => h.running.isSome = true)
    (fun s hs => by simpa [step, hs, runTask] using Host.start_running_isSome)
    (fun s st hs => step_running_isSome hs st) hstart
  simpa [hgoes] using hruns

end Role
end Notify
end ClusterPlaybooks
