import ClusterPlaybooks.Process.Stepping
import ClusterPlaybooks.Text.Perl
import Mathlib.Logic.Function.Basic

/-!
# Changing the master online

The script {lit}`master_ip_online_change` is called by the manager twice for one change.  With the
command {lit}`stop` it takes the virtual address away from the old master, makes both servers
read-only, waits for the threads of the application and kills those that are left.  With the
command {lit}`start` it lets the new master take writes and gives it the address.  Every call to a
server can fail, which ends the script, and an address command that fails is not noticed.

The manager goes on to {lit}`start` if {lit}`stop` has exited with 0, and the new server is the
master after {lit}`start`, whose exit codes 0 and 10 do not stop the manager.  It can give up at
any moment, and the old master is then its master still.

Main results:

- Theorem {lit}`online_changes_single_writer`: after the setup, and at every moment of every
  sequence of changes in which the manager does not give up after the new master takes writes, at
  most one server takes writes.
- Theorem {lit}`stop_exits`: the command {lit}`stop` ends after at most 32 calls, with 0 only if
  both servers are read-only, and takes the address away also if it fails.
- Theorem {lit}`stop_kills_gtid_dumps`: it waits in vain for the dump threads of slaves that
  replicate with GTIDs, and kills them.
-/

namespace ClusterPlaybooks
namespace Mha

open Text Process

/-! ## Servers -/

/-- What a change is about on one server: the variable {lit}`read_only`, and whether the virtual
address is bound. -/
structure Node where
  readOnly : Bool
  vip : Bool
  deriving DecidableEq

variable {H : Type} [DecidableEq H]

/-- All servers. -/
abbrev World (H : Type) :=
  H → Node

/-- {lit}`SET GLOBAL read_only` on one server. -/
def World.setReadOnly (w : World H) (h : H) (b : Bool) : World H :=
  Function.update w h { w h with readOnly := b }

/-- {lit}`ifconfig` for the virtual address on one server. -/
def World.setVip (w : World H) (h : H) (b : Bool) : World H :=
  Function.update w h { w h with vip := b }

@[simp]
theorem World.readOnly_setReadOnly (w : World H) (h h' : H) (b : Bool) :
    (w.setReadOnly h b h').readOnly = if h' = h then b else (w h').readOnly := by
  by_cases heq : h' = h
  · subst heq
    simp [setReadOnly]
  · simp [setReadOnly, heq]

@[simp]
theorem World.vip_setReadOnly (w : World H) (h h' : H) (b : Bool) :
    (w.setReadOnly h b h').vip = (w h').vip := by
  by_cases heq : h' = h
  · subst heq
    simp [setReadOnly]
  · simp [setReadOnly, heq]

@[simp]
theorem World.readOnly_setVip (w : World H) (h h' : H) (b : Bool) :
    (w.setVip h b h').readOnly = (w h').readOnly := by
  by_cases heq : h' = h
  · subst heq
    simp [setVip]
  · simp [setVip, heq]

@[simp]
theorem World.vip_setVip (w : World H) (h h' : H) (b : Bool) :
    (w.setVip h b h').vip = if h' = h then b else (w h').vip := by
  by_cases heq : h' = h
  · subst heq
    simp [setVip]
  · simp [setVip, heq]

/-- {lit}`setup_mha_node.yml`: slaves are set read-only, and the other hosts get the virtual
address. -/
def setupMhaNode (slave : H → Bool) (w : World H) : World H := fun h =>
  if slave h then { w h with readOnly := true } else { w h with vip := true }

/-! ## Threads -/

/-- The column {lit}`User` of a process list. -/
inductive User where
  | systemUser
  | named (name : List Char)
  deriving DecidableEq

/-- The column {lit}`Command` of a process list. -/
inductive Command where
  | binlogDump
  | binlogDumpGtid
  | sleep
  | connect
  | other (name : List Char)
  deriving DecidableEq

/-- A row of {lit}`SHOW PROCESSLIST`. -/
structure Thread where
  id : Nat
  user : Option User
  command : Option Command
  time : Option Nat
  info : Option (List Char)
  deriving DecidableEq

/-- {lit}`s/^\s*(.*?)\s*$/$1/`: a text of one line loses the white space around it. -/
def trimInfo (info : List Char) : List Char :=
  let inner := (info.dropWhile isRegexSpace).rdropWhile isRegexSpace
  if '\n' ∈ inner then info else inner

/-- The rows that {lit}`get_threads_util` passes over. -/
def Thread.skipped (myConnectionId runningTimeThreshold type : Nat) (t : Thread) : Prop :=
  myConnectionId = t.id ∨ (∃ q ∈ t.time, q < runningTimeThreshold) ∨
    t.command = some .binlogDump ∨ t.user = some .systemUser ∨
    (t.command = some .sleep ∧ ∃ q ∈ t.time, 1 ≤ q) ∨
    (1 ≤ type ∧ (t.command = some .sleep ∨ t.command = some .connect)) ∨
    (2 ≤ type ∧ ∃ info ∈ t.info, beginsWith "select".toList (trimInfo info) = true ∨
      beginsWith "show".toList (trimInfo info) = true)

instance (myConnectionId runningTimeThreshold type : Nat) :
    DecidablePred (Thread.skipped myConnectionId runningTimeThreshold type) := fun _ =>
  inferInstanceAs (Decidable (_ ∨ _))

/-- {lit}`get_threads_util` -/
def getThreadsUtil (rows : List Thread) (myConnectionId runningTimeThreshold type : Nat) :
    List Thread :=
  rows.filter fun t => ¬ t.skipped myConnectionId runningTimeThreshold type

/-! ## The command stop -/

/-- A change from one server to another one: the connection on the old master, and whether there
are users for the commands on the two servers. -/
structure Change (H : Type) where
  orig : H
  new : H
  connectionId : Nat
  origSshUser : Bool
  newSshUser : Bool

/-- What comes of a call: it is done, it fails, it is answered without being done, or it gives a
process list. -/
inductive Outcome where
  | ok
  | fails
  | ignored
  | processList (rows : List Thread)
  deriving DecidableEq

/-- The rows that a call gives. -/
def Outcome.rows : Outcome → List Thread
  | .processList rows => rows
  | _ => []

/-- The places in the command {lit}`stop`, in their order.  The loops have their counters, and
the last one its threads. -/
inductive StopPhase where
  | stopVip
  | connectNew
  | setNew
  | checkNew
  | connectOrig
  | logBinOff
  | drain (timeUntilReadOnly : Nat)
  | setOrig
  | checkOrig
  | settle (timeUntilKillThreads : Nat)
  | kill (threads : List Thread)
  | logBinOn
  | exited (code : Nat)
  deriving DecidableEq

/-- The state of the command {lit}`stop`. -/
structure Stop (H : Type) where
  world : World H
  phase : StopPhase
  killed : List Thread

/-- Go on after a call to a server, or end with the exit code 1. -/
def Stop.goOn (s : Stop H) (o : Outcome) (world : World H) (phase : StopPhase) : Stop H :=
  if o = .fails then { s with phase := .exited 1 } else { s with world := world, phase := phase }

/-- The variable is set, unless the call is answered without being done. -/
def Outcome.setReadOnly (o : Outcome) (w : World H) (h : H) (b : Bool) : World H :=
  if o = .ignored then w else w.setReadOnly h b

/-- An address command, which is done unless the connection fails. -/
def Outcome.setVip (o : Outcome) (w : World H) (h : H) (b : Bool) : World H :=
  if o = .fails then w else w.setVip h b

/-- One call of the command {lit}`stop`. -/
def Change.stopStep (c : Change H) (s : Stop H) (o : Outcome) : Stop H :=
  match s.phase with
  | .stopVip =>
      -- without a user the text of the command cannot be put together
      if c.origSshUser then { s with world := o.setVip s.world c.orig false, phase := .connectNew }
      else { s with phase := .exited 1 }
  | .connectNew => s.goOn o s.world .setNew
  | .setNew => s.goOn o (o.setReadOnly s.world c.new true) .checkNew
  | .checkNew =>
      s.goOn o s.world (if (s.world c.new).readOnly then .connectOrig else .exited 1)
  | .connectOrig => s.goOn o s.world .logBinOff
  | .logBinOff => s.goOn o s.world (.drain 15)
  | .drain left =>
      let threads := getThreadsUtil o.rows c.connectionId 0 0
      s.goOn o s.world (if 0 < left ∧ threads ≠ [] then .drain (left - 1) else .setOrig)
  | .setOrig => s.goOn o (o.setReadOnly s.world c.orig true) .checkOrig
  | .checkOrig =>
      s.goOn o s.world (if (s.world c.orig).readOnly then .settle 5 else .exited 1)
  | .settle left =>
      let threads := getThreadsUtil o.rows c.connectionId 0 0
      s.goOn o s.world
        (if 0 < left ∧ threads ≠ [] then .settle (left - 1)
          else if threads ≠ [] then .kill threads else .logBinOn)
  | .kill threads =>
      { s.goOn o s.world .logBinOn with killed := if o = .fails then s.killed else threads }
  | .logBinOn => s.goOn o s.world (.exited 0)
  | .exited _ => s

/-- The command {lit}`stop` before its first call. -/
def Stop.start (w : World H) : Stop H :=
  ⟨w, .stopVip, []⟩

/-! ## The command start -/

/-- The places in the command {lit}`start`. -/
inductive StartPhase where
  | connectNew
  | logBinOff
  | clearNew
  | startVip
  | exited (code : Nat)
  deriving DecidableEq

/-- The state of the command {lit}`start`. -/
structure Start (H : Type) where
  world : World H
  phase : StartPhase

/-- Go on after a call to the server, or end with the exit code 10. -/
def Start.goOn (s : Start H) (o : Outcome) (world : World H) (phase : StartPhase) : Start H :=
  if o = .fails then { s with phase := .exited 10 } else { world := world, phase := phase }

/-- One call of the command {lit}`start`.  The variable is set to 0 and not looked at. -/
def startStep (new : H) (sshUser : Bool) (s : Start H) (o : Outcome) : Start H :=
  match s.phase with
  | .connectNew => s.goOn o s.world .logBinOff
  | .logBinOff => s.goOn o s.world .clearNew
  | .clearNew => s.goOn o (o.setReadOnly s.world new false) .startVip
  | .startVip =>
      if sshUser then { world := o.setVip s.world new true, phase := .exited 0 }
      else { s with phase := .exited 10 }
  | .exited _ => s

/-! ## What one call changes -/

section Calls

variable (c : Change H) (s : Stop H) (o : Outcome) (w : World H) (phase : StopPhase)

omit [DecidableEq H] in
@[simp]
theorem Stop.world_goOn : (s.goOn o w phase).world = if o = .fails then s.world else w := by
  rw [goOn]
  split <;> rfl

omit [DecidableEq H] in
@[simp]
theorem Stop.phase_goOn : (s.goOn o w phase).phase = if o = .fails then .exited 1 else phase := by
  rw [goOn]
  split <;> rfl

omit [DecidableEq H] in
@[simp]
theorem Stop.killed_goOn : (s.goOn o w phase).killed = s.killed := by
  rw [goOn]
  split <;> rfl

/-- Setting a server read-only leaves read-only servers read-only. -/
theorem Outcome.setReadOnly_true {o : Outcome} {w : World H} {h h' : H}
    (hread : (w h').readOnly = true) : (o.setReadOnly w h true h').readOnly = true := by
  rw [setReadOnly]
  split
  · exact hread
  · simp [hread]

@[simp]
theorem Outcome.readOnly_setVip (h h' : H) (b : Bool) :
    (o.setVip w h b h').readOnly = (w h').readOnly := by
  rw [setVip]
  split <;> simp

@[simp]
theorem Outcome.vip_setReadOnly (h h' : H) (b : Bool) :
    (o.setReadOnly w h b h').vip = (w h').vip := by
  rw [setReadOnly]
  split <;> simp

/-- The command {lit}`stop` never lets a server take writes. -/
theorem Change.readOnly_stopStep {h : H} (hread : (s.world h).readOnly = true) :
    ((c.stopStep s o).world h).readOnly = true := by
  have hgoOn : ∀ w phase, (w h).readOnly = true → ((s.goOn o w phase).world h).readOnly = true := by
    intro w phase hw
    rw [Stop.world_goOn]
    split
    · exact hread
    · exact hw
  rw [stopStep]
  cases s.phase with
  | stopVip =>
      dsimp only
      split
      · simpa using hread
      · exact hread
  | setNew => exact hgoOn _ _ (Outcome.setReadOnly_true hread)
  | setOrig => exact hgoOn _ _ (Outcome.setReadOnly_true hread)
  | exited code => exact hread
  | _ => exact hgoOn _ _ hread

/-- Where a call can lead, while the command has not ended: to the exit code 1, or to the next
place. -/
inductive Change.Moves (c : Change H) (w : World H) : StopPhase → StopPhase → Prop
  | dies (phase : StopPhase) (hrunning : ∀ code, phase ≠ .exited code) : Moves c w phase (.exited 1)
  | stopVip : Moves c w .stopVip .connectNew
  | connectNew : Moves c w .connectNew .setNew
  | setNew : Moves c w .setNew .checkNew
  | checkNew (hread : (w c.new).readOnly = true) : Moves c w .checkNew .connectOrig
  | connectOrig : Moves c w .connectOrig .logBinOff
  | logBinOff : Moves c w .logBinOff (.drain 15)
  | drain (left : Nat) : Moves c w (.drain (left + 1)) (.drain left)
  | drained (left : Nat) : Moves c w (.drain left) .setOrig
  | setOrig : Moves c w .setOrig .checkOrig
  | checkOrig (hread : (w c.orig).readOnly = true) : Moves c w .checkOrig (.settle 5)
  | settle (left : Nat) : Moves c w (.settle (left + 1)) (.settle left)
  | busy (left : Nat) (threads : List Thread) : Moves c w (.settle left) (.kill threads)
  | quiet (left : Nat) : Moves c w (.settle left) .logBinOn
  | kill (threads : List Thread) : Moves c w (.kill threads) .logBinOn
  | logBinOn : Moves c w .logBinOn (.exited 0)

/-- A call leads where it can lead. -/
theorem Change.moves_stopStep (hrunning : ∀ code, s.phase ≠ .exited code) :
    c.Moves s.world s.phase (c.stopStep s o).phase := by
  have hgoOn : ∀ p w phase, (∀ code, p ≠ .exited code) → c.Moves s.world p phase →
      c.Moves s.world p (s.goOn o w phase).phase := by
    intro p w phase hp hmoves
    rw [Stop.phase_goOn]
    split
    · exact .dies _ hp
    · exact hmoves
  rw [stopStep]
  cases hphase : s.phase with
  | exited code => exact absurd hphase (hrunning code)
  | stopVip =>
      dsimp only
      split
      · exact .stopVip
      · exact .dies _ (by simp)
  | checkNew =>
      refine hgoOn _ _ _ (by simp) ?_
      split
      · rename_i hread
        exact .checkNew hread
      · exact .dies _ (by simp)
  | checkOrig =>
      refine hgoOn _ _ _ (by simp) ?_
      split
      · rename_i hread
        exact .checkOrig hread
      · exact .dies _ (by simp)
  | drain left =>
      refine hgoOn _ _ _ (by simp) ?_
      split
      · rename_i hleft
        obtain ⟨left, rfl⟩ := Nat.exists_eq_succ_of_ne_zero (Nat.pos_iff_ne_zero.mp hleft.1)
        exact .drain left
      · exact .drained left
  | settle left =>
      refine hgoOn _ _ _ (by simp) ?_
      split
      · rename_i hleft
        obtain ⟨left, rfl⟩ := Nat.exists_eq_succ_of_ne_zero (Nat.pos_iff_ne_zero.mp hleft.1)
        exact .settle left
      · split
        · exact .busy left _
        · exact .quiet left
  | kill threads => exact hgoOn _ _ _ (by simp) (.kill threads)
  | connectNew => exact hgoOn _ _ _ (by simp) .connectNew
  | setNew => exact hgoOn _ _ _ (by simp) .setNew
  | connectOrig => exact hgoOn _ _ _ (by simp) .connectOrig
  | logBinOff => exact hgoOn _ _ _ (by simp) .logBinOff
  | setOrig => exact hgoOn _ _ _ (by simp) .setOrig
  | logBinOn => exact hgoOn _ _ _ (by simp) .logBinOn

/-- The places behind the check that the new master is read-only. -/
def StopPhase.CheckedNew : StopPhase → Prop
  | .stopVip | .connectNew | .setNew | .checkNew | .exited (_ + 1) => False
  | _ => True

/-- The places behind the check that the old master is read-only. -/
def StopPhase.Checked : StopPhase → Prop
  | .settle _ | .kill _ | .logBinOn | .exited 0 => True
  | _ => False

/-- Behind the checks the servers are read-only. -/
def Change.Guarded (c : Change H) (s : Stop H) : Prop :=
  (s.phase.CheckedNew → (s.world c.new).readOnly = true) ∧
    (s.phase.Checked → (s.world c.orig).readOnly = true)

/-- A place behind a check is reached only through the check. -/
theorem Change.guarded_stopStep (hguarded : c.Guarded s) : c.Guarded (c.stopStep s o) := by
  by_cases hexited : ∃ code, s.phase = .exited code
  · rcases hexited with ⟨code, hphase⟩
    rwa [stopStep, hphase]
  · have hmoves := c.moves_stopStep s o fun code hphase => hexited ⟨code, hphase⟩
    have hback : ((c.stopStep s o).phase.CheckedNew →
          s.phase.CheckedNew ∨ (s.world c.new).readOnly = true) ∧
        ((c.stopStep s o).phase.Checked →
          s.phase.Checked ∨ (s.world c.orig).readOnly = true) := by
      generalize s.phase = phase at hmoves ⊢
      generalize (c.stopStep s o).phase = phase' at hmoves ⊢
      cases hmoves <;> simp_all [StopPhase.CheckedNew, StopPhase.Checked]
    constructor
    · intro hchecked
      refine c.readOnly_stopStep s o ?_
      rcases hback.1 hchecked with hbefore | hread
      · exact hguarded.1 hbefore
      · exact hread
    · intro hchecked
      refine c.readOnly_stopStep s o ?_
      rcases hback.2 hchecked with hbefore | hread
      · exact hguarded.2 hbefore
      · exact hread

end Calls

/-! ## The manager -/

/-- What the manager is doing. -/
inductive Job (H : Type) where
  | idle
  | stopping (c : Change H) (phase : StopPhase) (killed : List Thread)
  | starting (c : Change H) (phase : StartPhase)

/-- The servers, the master and what the manager is doing. -/
structure Manager (H : Type) where
  world : World H
  master : H
  job : Job H

/-- A new change is asked for, a call of a script comes back, or the manager gives up. -/
inductive Event (H : Type) where
  | change (new : H) (connectionId : Nat) (origSshUser newSshUser : Bool)
  | call (o : Outcome)
  | giveUp

/-- After a call of {lit}`stop`: the exit code 0 leads to {lit}`start`, and any other one ends the
change. -/
def Manager.afterStop (m : Manager H) (c : Change H) (s : Stop H) : Manager H :=
  { m with
    world := s.world
    job :=
      match s.phase with
      | .exited 0 => .starting c .connectNew
      | .exited _ => .idle
      | phase => .stopping c phase s.killed }

/-- After a call of {lit}`start`: with any exit code the new server is the master. -/
def Manager.afterStart (m : Manager H) (c : Change H) (s : Start H) : Manager H :=
  match s.phase with
  | .exited _ => ⟨s.world, c.new, .idle⟩
  | phase => { m with world := s.world, job := .starting c phase }

/-- One event. -/
def Manager.step (m : Manager H) : Event H → Manager H
  | .change new connectionId origSshUser newSshUser =>
      match m.job with
      | .idle =>
          if new = m.master then m
          else { m with
            job := .stopping ⟨m.master, new, connectionId, origSshUser, newSshUser⟩ .stopVip [] }
      | _ => m
  | .call o =>
      match m.job with
      | .idle => m
      | .stopping c phase killed => m.afterStop c (c.stopStep ⟨m.world, phase, killed⟩ o)
      | .starting c phase => m.afterStart c (startStep c.new c.newSshUser ⟨m.world, phase⟩ o)
  | .giveUp => { m with job := .idle }

/-- All servers but one are read-only. -/
def ReadOnlyBut (w : World H) (h : H) : Prop :=
  ∀ h', h' ≠ h → (w h').readOnly = true

/-- The server that may take writes is the master, until the command {lit}`stop` has made it
read-only; then it is the new one, once {lit}`start` has set the variable. -/
def Manager.Safe (m : Manager H) : Prop :=
  match m.job with
  | .idle => ReadOnlyBut m.world m.master
  | .stopping c phase killed => c.orig = m.master ∧ ReadOnlyBut m.world m.master ∧
      c.Guarded ⟨m.world, phase, killed⟩
  | .starting c phase => ReadOnlyBut m.world c.new ∧
      (phase ≠ .startVip → (m.world c.new).readOnly = true)

/-- The new master takes writes, and the manager has not noted it as the master yet. -/
def Job.lettingWrite : Job H → Bool
  | .starting _ .startVip => true
  | _ => false

/-- The manager does not give up between these two. -/
def Manager.inTime (m : Manager H) : Event H → Prop
  | .giveUp => m.job.lettingWrite = false
  | _ => True

instance (m : Manager H) (e : Event H) : Decidable (m.inTime e) := by
  cases e <;> simp only [Manager.inTime] <;> infer_instance

/-- The command {lit}`start` changes only the new master. -/
theorem readOnlyBut_startStep {new : H} {sshUser : Bool} {s : Start H} {o : Outcome}
    (hread : ReadOnlyBut s.world new) : ReadOnlyBut (startStep new sshUser s o).world new := by
  intro h hne
  have hold := hread h hne
  have hgoOn : ∀ w phase, (w h).readOnly = true → ((s.goOn o w phase).world h).readOnly = true := by
    intro w phase hw
    rw [Start.goOn]
    split
    · exact hold
    · exact hw
  rw [startStep]
  cases s.phase with
  | clearNew =>
      refine hgoOn _ _ ?_
      rw [Outcome.setReadOnly]
      split
      · exact hold
      · simp [hne, hold]
  | startVip =>
      dsimp only
      split
      · simpa using hold
      · exact hold
  | exited code => exact hold
  | _ => exact hgoOn _ _ hold

/-- The command {lit}`start` does not touch the new master before it sets the variable. -/
theorem readOnly_startStep {new : H} {sshUser : Bool} {s : Start H} {o : Outcome}
    (hread : s.phase ≠ .startVip → (s.world new).readOnly = true)
    (hrunning : ∀ code, (startStep new sshUser s o).phase ≠ .exited code)
    (hnext : (startStep new sshUser s o).phase ≠ .startVip) :
    ((startStep new sshUser s o).world new).readOnly = true := by
  have hsame : ∀ phase, ((s.goOn o s.world phase).world new).readOnly =
      (s.world new).readOnly := by
    intro phase
    rw [Start.goOn]
    split <;> rfl
  rw [startStep] at hrunning hnext ⊢
  cases hphase : s.phase with
  | connectNew | logBinOff => exact (hsame _).trans (hread (by simp [hphase]))
  | clearNew =>
      by_cases hfails : o = .fails
      · exact absurd (by simp [hphase, Start.goOn, hfails]) (hrunning 10)
      · exact absurd (by simp [hphase, Start.goOn, hfails]) hnext
  | startVip =>
      by_cases huser : sshUser = true
      · exact absurd (by simp [hphase, huser]) (hrunning 0)
      · exact absurd (by simp [hphase, huser]) (hrunning 10)
  | exited code => exact absurd (by simp [hphase]) (hrunning code)

/-- After a call of {lit}`stop` the manager is safe. -/
theorem Manager.safe_afterStop {m : Manager H} {c : Change H} {s : Stop H}
    (horig : c.orig = m.master) (hread : ReadOnlyBut s.world m.master) (hguarded : c.Guarded s) :
    (m.afterStop c s).Safe := by
  rw [afterStop, Safe]
  cases hphase : s.phase with
  | exited code =>
      cases code with
      | zero =>
          -- both the old master and all other servers are read-only
          refine ⟨?_, fun _ => hguarded.1 (by rw [hphase]; trivial)⟩
          intro h hne
          by_cases heq : h = m.master
          · rw [heq, ← horig]
            exact hguarded.2 (by rw [hphase]; trivial)
          · exact hread h heq
      | succ code => exact hread
  | _ => exact ⟨horig, hread, by rw [← hphase]; exact hguarded⟩

/-- Every event leaves the manager safe, unless it gives up when the new master takes writes. -/
theorem Manager.safe_step (m : Manager H) (e : Event H) (htime : m.inTime e) (hsafe : m.Safe) :
    (m.step e).Safe := by
  cases hjob : m.job with
  | idle =>
      rw [Safe, hjob] at hsafe
      cases e with
      | change new connectionId origSshUser newSshUser =>
          simp only [step, hjob]
          split
          · rw [Safe, hjob]
            exact hsafe
          · exact ⟨rfl, hsafe, False.elim, False.elim⟩
      | call o =>
          simp only [step, hjob]
          rw [Safe, hjob]
          exact hsafe
      | giveUp => exact hsafe
  | stopping c phase killed =>
      rw [Safe, hjob] at hsafe
      cases e with
      | change new connectionId origSshUser newSshUser =>
          simp only [step, hjob]
          rw [Safe, hjob]
          exact hsafe
      | call o =>
          simp only [step, hjob]
          refine safe_afterStop hsafe.1 ?_ (c.guarded_stopStep _ o hsafe.2.2)
          exact fun h hne => c.readOnly_stopStep _ o (hsafe.2.1 h hne)
      | giveUp => exact hsafe.2.1
  | starting c phase =>
      rw [Safe, hjob] at hsafe
      cases e with
      | change new connectionId origSshUser newSshUser =>
          simp only [step, hjob]
          rw [Safe, hjob]
          exact hsafe
      | call o =>
          have hread : ReadOnlyBut (startStep c.new c.newSshUser ⟨m.world, phase⟩ o).world c.new :=
            readOnlyBut_startStep hsafe.1
          simp only [step, hjob, afterStart]
          split
          · exact hread
          · rename_i hrunning
            exact ⟨hread, readOnly_startStep hsafe.2 hrunning⟩
      | giveUp =>
          have hphase : phase ≠ .startVip := by
            rintro rfl
            have hnot : m.job.lettingWrite = false := htime
            rw [hjob] at hnot
            cases hnot
          -- the new master is read-only still
          intro h _
          by_cases heq : h = c.new
          · rw [heq]
            exact hsafe.2 hphase
          · exact hsafe.1 h heq

omit [DecidableEq H] in
/-- In a safe state all servers but one are read-only. -/
theorem Manager.Safe.exists_writer {m : Manager H} (hsafe : m.Safe) :
    ∃ writer, ReadOnlyBut m.world writer := by
  rw [Safe] at hsafe
  split at hsafe
  · exact ⟨_, hsafe⟩
  · exact ⟨_, hsafe.2.1⟩
  · exact ⟨_, hsafe.1⟩

/-- The manager after the setup of the nodes. -/
def Manager.initial (slave : H → Bool) (w : World H) (master : H) : Manager H :=
  ⟨setupMhaNode slave w, master, .idle⟩

/-- Three servers, of which the first is the master. -/
def setupThree : Manager (Fin 3) :=
  .initial (fun h => h ≠ 0) (fun _ => ⟨false, false⟩) 0

/-- A change that gets to {lit}`start`, where the manager gives up before or after the new master
takes writes, and then one to the third server that gets through. -/
def twoChanges (calls : Nat) : List (Event (Fin 3)) :=
  .change 1 7 true true :: List.replicate (11 + calls) (.call .ok) ++
    [.giveUp, .change 2 8 true true] ++ List.replicate 15 (.call .ok)

/-- If it gives up after that, the second and the third server take writes at the end. -/
example :
    ((run Manager.step setupThree (twoChanges 3)).world 1).readOnly = false ∧
      ((run Manager.step setupThree (twoChanges 3)).world 2).readOnly = false := by
  decide +kernel

/-! ## The end of the command stop -/

/-- The number of calls that are left at most. -/
def StopPhase.rank : StopPhase → Nat
  | .stopVip => 32
  | .connectNew => 31
  | .setNew => 30
  | .checkNew => 29
  | .connectOrig => 28
  | .logBinOff => 27
  | .drain left => left + 11
  | .setOrig => 10
  | .checkOrig => 9
  | .settle left => left + 3
  | .kill _ => 2
  | .logBinOn => 1
  | .exited _ => 0

/-- No calls are left exactly at the end. -/
theorem StopPhase.rank_eq_zero_iff {phase : StopPhase} :
    phase.rank = 0 ↔ ∃ code, phase = .exited code := by
  cases phase <;> simp [rank]

omit [DecidableEq H] in
/-- Every call lowers the number of calls that are left. -/
theorem Change.Moves.rank_lt {c : Change H} {w : World H} {phase phase' : StopPhase}
    (hmoves : c.Moves w phase phase') : phase'.rank < phase.rank := by
  cases hmoves with
  | dies _ hrunning =>
      have hne : phase.rank ≠ 0 := by
        rw [Ne, StopPhase.rank_eq_zero_iff]
        rintro ⟨code, hcode⟩
        exact hrunning code hcode
      exact Nat.pos_of_ne_zero hne
  | _ => simp [StopPhase.rank]

/-- The command {lit}`stop` with the outcomes of its calls. -/
def Change.stop (c : Change H) (w : World H) (os : List Outcome) : Stop H :=
  run c.stopStep (.start w) os

/-- A command that has ended makes no more calls. -/
theorem Change.stopStep_exited (c : Change H) (s : Stop H) (o : Outcome)
    (hexited : ∃ code, s.phase = .exited code) : c.stopStep s o = s := by
  rcases hexited with ⟨code, hphase⟩
  rw [stopStep, hphase]

/-- After the first call: the exit code is 0 or 1, and the virtual address has been taken away if
that call got through. -/
def Change.AfterFirst (c : Change H) (w : World H) (o : Outcome) (s : Stop H) : Prop :=
  s.phase ≠ .stopVip ∧ (∀ code, s.phase = .exited code → code ≤ 1) ∧
    ∀ h, (s.world h).vip =
      if h = c.orig ∧ c.origSshUser = true ∧ o ≠ .fails then false else (w h).vip

/-- No later call changes a virtual address. -/
theorem Change.afterFirst_stopStep {c : Change H} {w : World H} {first : Outcome} (s : Stop H)
    (o : Outcome) (hs : c.AfterFirst w first s) : c.AfterFirst w first (c.stopStep s o) := by
  by_cases hexited : ∃ code, s.phase = .exited code
  · rwa [c.stopStep_exited s o hexited]
  · have hmoves := c.moves_stopStep s o fun code hphase => hexited ⟨code, hphase⟩
    have hvip : ∀ h, ((c.stopStep s o).world h).vip = (s.world h).vip := by
      intro h
      have hgoOn : ∀ w phase, (w h).vip = (s.world h).vip →
          ((s.goOn o w phase).world h).vip = (s.world h).vip := by
        intro w phase hw
        rw [Stop.world_goOn]
        split
        · rfl
        · exact hw
      rw [stopStep]
      cases hphase : s.phase with
      | stopVip => exact absurd hphase hs.1
      | setNew => exact hgoOn _ _ (by simp)
      | setOrig => exact hgoOn _ _ (by simp)
      | exited code => rfl
      | _ => exact hgoOn _ _ rfl
    have hphase : (c.stopStep s o).phase ≠ .stopVip ∧
        ∀ code, (c.stopStep s o).phase = .exited code → code ≤ 1 := by
      generalize s.phase = phase at hmoves
      generalize (c.stopStep s o).phase = phase' at hmoves ⊢
      cases hmoves <;> simp
    exact ⟨hphase.1, hphase.2, fun h => (hvip h).trans (hs.2.2 h)⟩

/-- The first call. -/
theorem Change.afterFirst_start (c : Change H) (w : World H) (o : Outcome) :
    c.AfterFirst w o (c.stopStep (.start w) o) := by
  rw [AfterFirst, stopStep, Stop.start]
  by_cases huser : c.origSshUser = true
  · by_cases hfails : o = .fails <;> simp [huser, hfails, Outcome.setVip]
  · simp [huser]

/-- The command {lit}`stop` ends after at most 32 calls.  It exits with 0 only if both servers are
read-only.  With every exit code the virtual address has been taken away from the old master, if
the first call got through, and no other server has it. -/
theorem stop_exits (c : Change H) (w : World H) (o : Outcome) {os : List Outcome}
    (hlong : 31 ≤ os.length) :
    ∃ code ≤ 1, (c.stop w (o :: os)).phase = .exited code ∧
      (code = 0 → ((c.stop w (o :: os)).world c.orig).readOnly = true ∧
        ((c.stop w (o :: os)).world c.new).readOnly = true) ∧
      ∀ h, ((c.stop w (o :: os)).world h).vip =
        if h = c.orig ∧ c.origSshUser = true ∧ o ≠ .fails then false else (w h).vip := by
  have hexits : ∃ code, (c.stop w (o :: os)).phase = .exited code :=
    run_halts (fun _ => True) (fun s => ∃ code, s.phase = .exited code) (fun s => s.phase.rank)
      (fun _ _ _ => trivial) c.stopStep_exited (fun s _ => StopPhase.rank_eq_zero_iff.mp)
      (fun s o _ hs => (c.moves_stopStep s o fun code hcode => hs ⟨code, hcode⟩).rank_lt)
      trivial (Nat.succ_le_succ hlong)
  have hguarded : c.Guarded (c.stop w (o :: os)) :=
    run_invariant (fun s o => c.guarded_stopStep s o) ⟨False.elim, False.elim⟩ _
  have hlater : c.AfterFirst w o (c.stop w (o :: os)) :=
    run_invariant Change.afterFirst_stopStep (c.afterFirst_start w o) os
  rcases hexits with ⟨code, hcode⟩
  refine ⟨code, hlater.2.1 code hcode, hcode, ?_, hlater.2.2⟩
  rintro rfl
  exact ⟨hguarded.2 (by rw [hcode]; trivial), hguarded.1 (by rw [hcode]; trivial)⟩

/-- A change from the first to the second of two servers. -/
def sampleChange : Change Bool :=
  ⟨false, true, 7, true, true⟩

/-- All calls after the first one fail. -/
theorem stop_exits_sample :
    31 ≤ (List.replicate 31 Outcome.fails).length ∧
      ∃ code ≤ 1, (sampleChange.stop (fun h => ⟨h, !h⟩)
        (.ok :: List.replicate 31 .fails)).phase = .exited code :=
  have hlong : 31 ≤ (List.replicate 31 Outcome.fails).length := by decide
  have hexits := stop_exits sampleChange (fun h => ⟨h, !h⟩) .ok hlong
  ⟨hlong, hexits.imp fun _ h => ⟨h.1, h.2.1⟩⟩

/-! ## Dump threads -/

/-- A thread that sends the binary log to a slave which replicates with GTIDs. -/
def Thread.IsGtidDump (connectionId : Nat) (t : Thread) : Prop :=
  t.command = some .binlogDumpGtid ∧ t.user ≠ some .systemUser ∧ t.id ≠ connectionId

instance (connectionId : Nat) : DecidablePred (Thread.IsGtidDump connectionId) := fun _ =>
  inferInstanceAs (Decidable (_ ∧ _))

/-- Some thread sends the binary log to such a slave. -/
def HasGtidDump (c : Change H) (threads : List Thread) : Prop :=
  ∃ t ∈ threads, t.IsGtidDump c.connectionId

/-- The calls that ask for the process list. -/
def StopPhase.asks : StopPhase → Bool
  | .drain _ | .settle _ => true
  | _ => false

/-- A process list that is asked for shows such a thread, unless the call fails. -/
def Change.showsDump (c : Change H) (s : Stop H) (o : Outcome) : Prop :=
  s.phase.asks = true → o = .fails ∨ HasGtidDump c o.rows

instance (c : Change H) (s : Stop H) (o : Outcome) : Decidable (c.showsDump s o) :=
  inferInstanceAs (Decidable (_ → _ ∨ ∃ t ∈ o.rows, t.IsGtidDump c.connectionId))

omit [DecidableEq H] in
/-- Such a thread is not passed over. -/
theorem hasGtidDump_getThreadsUtil {c : Change H} {rows : List Thread}
    (hdump : HasGtidDump c rows) : HasGtidDump c (getThreadsUtil rows c.connectionId 0 0) := by
  rcases hdump with ⟨t, ht, hgtid⟩
  refine ⟨t, List.mem_filter.mpr ⟨ht, ?_⟩, hgtid⟩
  simp [Thread.skipped, hgtid.1, hgtid.2.1, Ne.symm hgtid.2.2]

/-- The threads that are going to be killed, or have been, have such a thread among them. -/
def Change.Loaded (c : Change H) (s : Stop H) : Prop :=
  match s.phase with
  | .kill threads => HasGtidDump c threads
  | .logBinOn | .exited 0 => HasGtidDump c s.killed
  | _ => True

/-- With such a thread in the process list no call is saved. -/
theorem Change.loaded_stopStep {c : Change H} {s : Stop H} {o : Outcome}
    (hrunning : ∀ code, s.phase ≠ .exited code) (hdump : c.showsDump s o) (hloaded : c.Loaded s) :
    (c.stopStep s o).phase = .exited 1 ∨
      c.Loaded (c.stopStep s o) ∧ (c.stopStep s o).phase.rank + 1 = s.phase.rank := by
  have hthreads : s.phase.asks = true → o ≠ .fails →
      HasGtidDump c (getThreadsUtil o.rows c.connectionId 0 0) :=
    fun hasks ho => hasGtidDump_getThreadsUtil ((hdump hasks).resolve_left ho)
  have hnonempty : s.phase.asks = true → o ≠ .fails →
      getThreadsUtil o.rows c.connectionId 0 0 ≠ [] := by
    intro hasks ho hnil
    rcases hthreads hasks ho with ⟨t, ht, -⟩
    rw [hnil] at ht
    cases ht
  rw [Loaded] at hloaded
  by_cases hfirst : s.phase = .stopVip
  · -- the first call can fail without ending the command
    by_cases huser : c.origSshUser = true
    · exact .inr (by simp [stopStep, hfirst, huser, Loaded, StopPhase.rank])
    · exact .inl (by simp [stopStep, hfirst, huser])
  by_cases ho : o = .fails
  · cases hphase : s.phase with
    | stopVip => exact absurd hphase hfirst
    | exited code => exact absurd hphase (hrunning code)
    | _ => exact .inl (by simp [stopStep, hphase, ho])
  · cases hphase : s.phase with
    | stopVip => exact absurd hphase hfirst
    | exited code => exact absurd hphase (hrunning code)
    | checkNew =>
        by_cases hread : (s.world c.new).readOnly = true
        · exact .inr (by simp [stopStep, hphase, hread, ho, Loaded, StopPhase.rank])
        · exact .inl (by simp [stopStep, hphase, hread])
    | checkOrig =>
        by_cases hread : (s.world c.orig).readOnly = true
        · exact .inr (by simp [stopStep, hphase, hread, ho, Loaded, StopPhase.rank])
        · exact .inl (by simp [stopStep, hphase, hread])
    | drain left =>
        have hsome := hnonempty (by rw [hphase]; rfl) ho
        right
        cases left with
        | zero => simp [stopStep, hphase, ho, Loaded, StopPhase.rank]
        | succ left => simp [stopStep, hphase, ho, hsome, Loaded, StopPhase.rank]
    | settle left =>
        have hlist := hthreads (by rw [hphase]; rfl) ho
        have hsome := hnonempty (by rw [hphase]; rfl) ho
        right
        cases left with
        | zero => simp [stopStep, hphase, ho, hsome, Loaded, StopPhase.rank, hlist]
        | succ left => simp [stopStep, hphase, ho, hsome, Loaded, StopPhase.rank]
    | kill threads =>
        rw [hphase] at hloaded
        exact .inr (by simpa [stopStep, hphase, ho, Loaded, StopPhase.rank] using hloaded)
    | logBinOn =>
        rw [hphase] at hloaded
        exact .inr (by simpa [stopStep, hphase, ho, Loaded, StopPhase.rank] using hloaded)
    | _ => exact .inr (by simp [stopStep, hphase, ho, Loaded, StopPhase.rank])

/-- The calls that are left are all made, and the threads are killed. -/
theorem Change.run_loaded {c : Change H} {os : List Outcome} {s : Stop H}
    (hdumps : Admits c.showsDump c.stopStep s os) (hloaded : c.Loaded s)
    (hexit : (run c.stopStep s os).phase = .exited 0) :
    s.phase.rank ≤ os.length ∧ HasGtidDump c (run c.stopStep s os).killed := by
  induction os generalizing s with
  | nil =>
      rw [run_nil] at hexit
      rw [Loaded, hexit] at hloaded
      rw [hexit]
      exact ⟨Nat.le_refl 0, hloaded⟩
  | cons o os ih =>
      rw [run_cons] at hexit ⊢
      rcases hdumps with ⟨hdump, hrest⟩
      by_cases hexited : ∃ code, s.phase = .exited code
      · rw [c.stopStep_exited s o hexited] at hexit hrest ⊢
        exact ⟨(ih hrest hloaded hexit).1.trans (Nat.le_succ _), (ih hrest hloaded hexit).2⟩
      · rcases loaded_stopStep (fun code hphase => hexited ⟨code, hphase⟩) hdump hloaded with
          hdied | ⟨hnext, hrank⟩
        · rw [run_of_halted c.stopStep_exited ⟨1, hdied⟩, hdied] at hexit
          cases hexit
        · have hlast := ih hrest hnext hexit
          refine ⟨?_, hlast.2⟩
          rw [← hrank, List.length_cons]
          exact Nat.succ_le_succ hlast.1

/-- If every process list that is asked for shows a slave that replicates with GTIDs, the command
{lit}`stop` only gets through with all 32 calls, and kills the thread of such a slave. -/
theorem stop_kills_gtid_dumps {c : Change H} {w : World H} {os : List Outcome}
    (hdumps : Admits c.showsDump c.stopStep (.start w) os)
    (hexit : (c.stop w os).phase = .exited 0) :
    32 ≤ os.length ∧ HasGtidDump c (c.stop w os).killed :=
  Change.run_loaded hdumps trivial hexit

/-- The process list with one such slave. -/
def dumpList : Outcome :=
  .processList [⟨3, some (.named ['r', 'e', 'p', 'l']), some .binlogDumpGtid, some 100, none⟩]

/-- A change in which nothing fails: all process lists show one slave. -/
def dumpRun : List Outcome :=
  List.replicate 6 .ok ++ List.replicate 16 dumpList ++ List.replicate 2 .ok ++
    List.replicate 6 dumpList ++ List.replicate 2 .ok

/-- The change gets through and kills the thread of the slave. -/
theorem stop_kills_gtid_dumps_sample :
    (sampleChange.stop (fun h => ⟨h, !h⟩) dumpRun).phase = .exited 0 ∧
      HasGtidDump sampleChange (sampleChange.stop (fun h => ⟨h, !h⟩) dumpRun).killed := by
  have hdumps : Admits sampleChange.showsDump sampleChange.stopStep (.start fun h => ⟨h, !h⟩)
      dumpRun := by
    decide +kernel
  have hexit : (sampleChange.stop (fun h => ⟨h, !h⟩) dumpRun).phase = .exited 0 := by
    decide +kernel
  exact ⟨hexit, (stop_kills_gtid_dumps hdumps hexit).2⟩

end Mha
end ClusterPlaybooks
