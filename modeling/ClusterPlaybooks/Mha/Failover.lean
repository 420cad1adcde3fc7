import ClusterPlaybooks.Mha.OnlineChange

/-!
# Failover to another master

When the master does not answer, the manager calls {lit}`master_ip_failover` with the command
{lit}`stop` or {lit}`stopssh` for the old master and with {lit}`start` for the new one.  The
command {lit}`stop` takes the virtual address away over ssh and does nothing else, and exits with
0 also if the connection fails.  No other script stops the old master, as the line with
{lit}`shutdown_script` is commented out in the configuration of the manager.

Main results:

- Theorem {lit}`failovers_split`: old masters that are alive but cannot be reached all keep the
  address and go on taking writes, next to the new ones.
- Theorem {lit}`failovers_one_address`: as long as the old masters can be reached, only the last
  master has the address.
-/

namespace ClusterPlaybooks
namespace Mha

open Process

variable {H : Type} [DecidableEq H]

/-- The commands {lit}`stop` and {lit}`stopssh`: the servers, and the exit code. -/
def failoverStop (orig : H) (sshUser : Bool) (w : World H) (o : Outcome) : World H × Nat :=
  (if sshUser then o.setVip w orig false else w, 0)

/-- A failover: the outcome of the call for the old master, and those of the calls for the new
one.  The command {lit}`start` is the one of an online change. -/
structure Failover (H : Type) where
  orig : H
  new : H
  sshUser : Bool
  stopOutcome : Outcome
  startOutcomes : List Outcome

/-- The command {lit}`start` after the command {lit}`stop`. -/
def Failover.start (f : Failover H) (w : World H) : Start H :=
  run (startStep f.new f.sshUser)
    ⟨(failoverStop f.orig f.sshUser w f.stopOutcome).1, .connectNew⟩ f.startOutcomes

/-- Failovers one after the other. -/
def failovers (w : World H) (fs : List (Failover H)) : World H :=
  fs.foldl (fun w f => (f.start w).world) w

/-! ## What a failover leaves alone -/

/-- The command {lit}`start` changes only the new master, lets it take writes and gives it the
address. -/
theorem startStep_node (new : H) (sshUser : Bool) (s : Start H) (o : Outcome) (h : H) :
    ((startStep new sshUser s o).world h = s.world h) ∨
      h = new ∧ ((startStep new sshUser s o).world h = { s.world h with readOnly := false } ∨
        (startStep new sshUser s o).world h = { s.world h with vip := true }) := by
  have hgoOn : ∀ phase, ((s.goOn o s.world phase).world h = s.world h) := by
    intro phase
    rw [Start.goOn]
    split <;> rfl
  rw [startStep]
  cases s.phase with
  | clearNew =>
      dsimp only
      rw [Start.goOn]
      split
      · exact .inl rfl
      · rw [Outcome.setReadOnly]
        split
        · exact .inl rfl
        · by_cases heq : h = new
          · subst heq
            exact .inr ⟨rfl, .inl (by simp [World.setReadOnly])⟩
          · exact .inl (by simp [World.setReadOnly, heq])
  | startVip =>
      dsimp only
      split
      · dsimp only
        rw [Outcome.setVip]
        split
        · exact .inl rfl
        · by_cases heq : h = new
          · subst heq
            exact .inr ⟨rfl, .inr (by simp [World.setVip])⟩
          · exact .inl (by simp [World.setVip, heq])
      · exact .inl rfl
  | exited code => exact .inl rfl
  | _ => exact .inl (hgoOn _)

/-- A server that takes writes goes on taking them, and one that has the address keeps it. -/
theorem startStep_keeps (new : H) (sshUser : Bool) (h : H) (s : Start H) (o : Outcome) :
    ((s.world h).readOnly = false → ((startStep new sshUser s o).world h).readOnly = false) ∧
      ((s.world h).vip = true → ((startStep new sshUser s o).world h).vip = true) := by
  rcases startStep_node new sshUser s o h with heq | ⟨-, heq | heq⟩ <;> rw [heq] <;> simp

/-- No failover makes a server read-only, and the address is kept by a server that cannot be
reached. -/
theorem Failover.start_keeps (f : Failover H) (w : World H) (h : H) :
    ((w h).readOnly = false → ((f.start w).world h).readOnly = false) ∧
      ((f.orig = h → f.sshUser = false ∨ f.stopOutcome = .fails) →
        (w h).vip = true → ((f.start w).world h).vip = true) := by
  have hrun : ∀ s : Start H,
      ((s.world h).readOnly = false →
        ((run (startStep f.new f.sshUser) s f.startOutcomes).world h).readOnly = false) ∧
      ((s.world h).vip = true →
        ((run (startStep f.new f.sshUser) s f.startOutcomes).world h).vip = true) := fun s =>
    ⟨fun hread => run_invariant (I := fun s => (s.world h).readOnly = false)
        (fun s o => (startStep_keeps f.new f.sshUser h s o).1) hread _,
      fun hvip => run_invariant (I := fun s => (s.world h).vip = true)
        (fun s o => (startStep_keeps f.new f.sshUser h s o).2) hvip _⟩
  have hstop := hrun ⟨(failoverStop f.orig f.sshUser w f.stopOutcome).1, .connectNew⟩
  constructor
  · intro hread
    refine hstop.1 ?_
    rw [failoverStop]
    split
    · simpa using hread
    · exact hread
  · intro hcut hvip
    refine hstop.2 ?_
    rw [failoverStop]
    split
    · rename_i huser
      rw [Outcome.setVip]
      split
      · exact hvip
      · rename_i hreached
        by_cases horig : f.orig = h
        · exact absurd ((hcut horig).resolve_left (by simp [huser])) hreached
        · simp [Ne.symm horig, hvip]
    · exact hvip

/-! ## Masters that cannot be reached -/

/-- The old master cannot be reached, and everything is done on the new one. -/
structure Failover.CutOff (f : Failover H) : Prop where
  user : f.sshUser = true
  stop : f.stopOutcome = .fails
  start : f.startOutcomes = List.replicate 4 .ok

/-- The new master takes writes and has the address. -/
theorem Failover.CutOff.new_serves {f : Failover H} (hcut : f.CutOff) (w : World H) :
    (f.start w).phase = .exited 0 ∧ ((f.start w).world f.new).readOnly = false ∧
      ((f.start w).world f.new).vip = true := by
  simp [Failover.start, hcut.user, hcut.start, startStep, Start.goOn, Outcome.setReadOnly,
    Outcome.setVip, List.replicate]

/-- If the master takes writes with the address, and in any number of failovers no old master can
be reached although all of them are alive, then all of them and the new master take writes with
the same address. -/
theorem failovers_split {w : World H} {master : H} (hwrites : (w master).readOnly = false)
    (hvip : (w master).vip = true) {fs : List (Failover H)} (hcut : ∀ f ∈ fs, f.CutOff) :
    ∀ h ∈ master :: fs.map Failover.new,
      (failovers w fs h).readOnly = false ∧ (failovers w fs h).vip = true := by
  induction fs generalizing w master with
  | nil =>
      intro h hh
      rw [List.mem_singleton.mp hh]
      exact ⟨hwrites, hvip⟩
  | cons f fs ih =>
      have hf := hcut f List.mem_cons_self
      have hrest : ∀ f' ∈ fs, f'.CutOff := fun f' hf' => hcut f' (List.mem_cons_of_mem f hf')
      have hold := f.start_keeps w master
      intro h hh
      rcases List.mem_cons.mp hh with rfl | hh
      · exact ih (hold.1 hwrites) (hold.2 (fun _ => .inr hf.stop) hvip) hrest h List.mem_cons_self
      · exact ih (hf.new_serves w).2.1 (hf.new_serves w).2.2 hrest h hh

/-- The servers are numbered, and the first of them is the master. -/
def firstMaster : World Nat := fun h =>
  ⟨h ≠ 0, h = 0⟩

/-- Two failovers, in which an old master cannot be reached. -/
def cutOffs : List (Failover Nat) :=
  [⟨0, 1, true, .fails, List.replicate 4 .ok⟩, ⟨1, 2, true, .fails, List.replicate 4 .ok⟩]

/-- Two failovers leave three masters. -/
theorem failovers_split_sample :
    (∀ f ∈ cutOffs, f.CutOff) ∧ ∀ h ∈ [(0 : Nat), 1, 2],
      (failovers firstMaster cutOffs h).readOnly = false ∧
        (failovers firstMaster cutOffs h).vip = true := by
  have hcut : ∀ f ∈ cutOffs, f.CutOff := by
    intro f hf
    simp only [cutOffs, List.mem_cons, List.not_mem_nil, or_false] at hf
    rcases hf with rfl | rfl <;> exact ⟨rfl, rfl, rfl⟩
  exact ⟨hcut, failovers_split (rfl : (firstMaster 0).readOnly = false) rfl hcut⟩

/-! ## Masters that can be reached -/

/-- Every failover is from the master that the one before has made. -/
def Chained (master : H) : List (Failover H) → Prop
  | [] => True
  | f :: fs => f.orig = master ∧ Chained f.new fs

/-- The master after the failovers. -/
def lastMaster (master : H) : List (Failover H) → H
  | [] => master
  | f :: fs => lastMaster f.new fs

/-- After a failover from a master that can be reached no other server has the address. -/
theorem Failover.start_address {f : Failover H} (huser : f.sshUser = true)
    (hreached : f.stopOutcome ≠ .fails) {w : World H} (hvip : ∀ h, h ≠ f.orig → (w h).vip = false)
    {h : H} (hne : h ≠ f.new) : ((f.start w).world h).vip = false := by
  refine run_invariant (I := fun s : Start H => (s.world h).vip = false) (fun s o hs => ?_) ?_ _
  · rcases startStep_node f.new f.sshUser s o h with heq | ⟨heq, -⟩
    · rw [heq]
      exact hs
    · exact absurd heq hne
  · rw [failoverStop, if_pos huser, Outcome.setVip, if_neg hreached]
    by_cases horig : h = f.orig
    · simp [horig]
    · simp [horig, hvip h horig]

/-- If in any number of failovers every old master can be reached, then only the last master can
have the address, whatever fails on the new ones. -/
theorem failovers_one_address {w : World H} {master : H}
    (hvip : ∀ h, h ≠ master → (w h).vip = false) {fs : List (Failover H)}
    (hchained : Chained master fs)
    (hreached : ∀ f ∈ fs, f.sshUser = true ∧ f.stopOutcome ≠ .fails) {h : H}
    (hne : h ≠ lastMaster master fs) : (failovers w fs h).vip = false := by
  induction fs generalizing w master with
  | nil => exact hvip h hne
  | cons f fs ih =>
      have hf := hreached f List.mem_cons_self
      refine ih (fun h' hne' => f.start_address hf.1 hf.2 ?_ hne') hchained.2
        (fun f' hf' => hreached f' (List.mem_cons_of_mem f hf')) hne
      rw [hchained.1]
      exact hvip

/-- A failover in which the new master cannot be reached leaves nobody with the address. -/
theorem failovers_one_address_sample :
    Chained (0 : Nat) [⟨0, 1, true, .ok, [.fails]⟩] ∧
      (failovers firstMaster [⟨0, 1, true, .ok, [.fails]⟩] 0).vip = false :=
  have hchained : Chained (0 : Nat) [⟨0, 1, true, .ok, [.fails]⟩] := ⟨rfl, trivial⟩
  ⟨hchained, failovers_one_address (w := firstMaster) (by simp [firstMaster]) hchained
    (by simp) (h := 0) (by decide)⟩

end Mha
end ClusterPlaybooks
