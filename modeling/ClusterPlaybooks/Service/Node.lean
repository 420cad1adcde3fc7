import ClusterPlaybooks.Ansible.Machine

/-!
# The node of a versioned service

Kafka and ZooKeeper nodes are laid out alike.  There is one directory for each
installed version and a symbolic link to the live one.  The service reads its
files through the link when it is started, and from then on runs with what it
read until it is started again.

The type {lit}`F` names the files the playbooks write into a directory,
{lit}`C` is the type of their contents.

Main results:

- Theorem {lit}`Node.fileAt_write`: writing a file changes this file only.
- Theorem {lit}`Node.disk_write_live`: writing into the live version directory
  changes exactly one file the service would read.
-/

namespace ClusterPlaybooks
namespace Service

variable {F C : Type}

/-- A directory; {lit}`unpacked` says that it has a {lit}`bin` directory. -/
structure VersionDir (F C : Type) where
  unpacked : Bool
  files : F → Option C

/-- A registered task result. -/
structure Registered where
  changed : Bool
  /-- the field {lit}`stat.exists`, in a result of the module {lit}`stat` -/
  statExists : Option Bool
deriving DecidableEq, Repr

/-- A flag of a registered result, by the names that lead to it. -/
def Registered.flag (r : Registered) : List String → Option Bool
  | ["changed"] => some r.changed
  | ["stat", "exists"] => r.statExists
  | _ => none

/-- A start of the service by a playbook: the files it found, and whether it stayed up. -/
structure Start (F C : Type) where
  loaded : F → Option C
  uploads : String → Bool
  alive : Bool

/-- A node, together with what the controller registered for its host. -/
structure Node (F C : Type) where
  /-- directories, by path -/
  dirs : String → Option (VersionDir F C)
  /-- the directory the link of the service points to -/
  live : Option String
  /-- files put there by the copy module, by path -/
  uploads : String → Bool
  /-- the files the running process has read -/
  process : Option (F → Option C)
  openPorts : List String
  regs : String → Option Registered
  /-- starts of the service by a playbook, the latest first -/
  starts : List (Start F C)

/-- The files the service would read if it were started now. -/
def Node.disk (n : Node F C) : F → Option C :=
  fun f => (n.live.bind n.dirs).bind fun dir => dir.files f

/-- A file of a directory. -/
def Node.fileAt (n : Node F C) (d : String) (f : F) : Option C :=
  (n.dirs d).bind fun dir => dir.files f

/-- A file as the running process has read it. -/
def Node.running (n : Node F C) (f : F) : Option C :=
  n.process.bind fun p => p f

/-- The node serves all the given ports. -/
def Node.serves (ports : List String) (n : Node F C) : Prop :=
  ∀ p ∈ ports, p ∈ n.openPorts

instance (ports : List String) (n : Node F C) : Decidable (n.serves ports) :=
  inferInstanceAs (Decidable (∀ p ∈ ports, p ∈ n.openPorts))

/-- Registered results are gone when a new run starts. -/
def Node.forget (n : Node F C) : Node F C :=
  { n with regs := fun _ => none }

/-- Remember a task result, if the task registers it. -/
def Node.register (n : Node F C) (reg : Option String) (changed : Bool) : Node F C :=
  { n with regs := reg.elim n.regs fun name => Function.update n.regs name (some ⟨changed, none⟩) }

/-- Write a file of a directory. -/
def Node.write [DecidableEq F] (n : Node F C) (d : String) (dir : VersionDir F C) (f : F)
    (c : C) : Node F C :=
  { n with
    dirs := Function.update n.dirs d
      (some { dir with files := Function.update dir.files f (some c) }) }

/-- Start the service: the process reads the disk; it may die, and opens some ports. -/
def Node.startService (n : Node F C) (alive : Bool) (ports : List String) : Node F C :=
  { n with
    process := if alive then some n.disk else none
    openPorts := if alive then ports else []
    starts := ⟨n.disk, n.uploads, alive⟩ :: n.starts }

/-- A node that comes back by itself runs with what is on its disk. -/
def Node.selfRestart (ports : List String) (n : Node F C) : Node F C :=
  { n with
    process := some n.disk
    openPorts := ports }

/-! ## The disk after a change -/

@[simp]
theorem Node.forget_disk (n : Node F C) : n.forget.disk = n.disk :=
  rfl

@[simp]
theorem Node.register_disk (n : Node F C) (reg : Option String) (changed : Bool) :
    (n.register reg changed).disk = n.disk :=
  rfl

@[simp]
theorem Node.startService_disk (n : Node F C) (alive : Bool) (ports : List String) :
    (n.startService alive ports).disk = n.disk :=
  rfl

@[simp]
theorem Node.selfRestart_disk (n : Node F C) (ports : List String) :
    (n.selfRestart ports).disk = n.disk :=
  rfl

section Write

variable [DecidableEq F] {n : Node F C} {d : String} {dir : VersionDir F C}

/-- Writing a file changes this file only. -/
theorem Node.fileAt_write (hdir : n.dirs d = some dir) (f : F) (c : C) (e : String) (g : F) :
    (n.write d dir f c).fileAt e g = if e = d ∧ g = f then some c else n.fileAt e g := by
  by_cases he : e = d
  · subst he
    by_cases hg : g = f
    · subst hg
      simp [Node.fileAt, Node.write]
    · simp [Node.fileAt, Node.write, hdir, hg]
  · simp [Node.fileAt, Node.write, he]

/-- A file written into the live version directory is the one the service will read. -/
theorem Node.disk_write_live (f : F) (c : C) (hlive : n.live = some d)
    (hdir : n.dirs d = some dir) :
    (n.write d dir f c).disk = Function.update n.disk f (some c) := by
  funext g
  by_cases hg : g = f
  · subst hg
    simp [Node.disk, Node.write, hlive]
  · simp [Node.disk, Node.write, hlive, hdir, hg]

end Write

end Service
end ClusterPlaybooks
