import ClusterPlaybooks.Text.Shell

/-!
# The failover check of keepalived

The configuration of keepalived defines a check and tracks one.  The check,
{lit}`checkMySQL.py`, counts lines of {lit}`ps -ef` and of {lit}`netstat -tunlp`.  The name of
the check it defines ends with the identifier of the virtual router, but the name it tracks is
fixed.  The lines of {lit}`ps` are searched for the digits of the port anywhere, and the number
of sockets is compared as a string with a number, which never holds in Python 2.

Main results:

- Theorem {lit}`ishaveMySQL_eq`: the check looks at the processes alone.
- Theorem {lit}`Proc.seen_iff`: the lines it counts.
- Theorem {lit}`failsOver_iff`: when keepalived fails over exactly if the server is not serving.
-/

namespace ClusterPlaybooks
namespace Mysql

open Text

/-! ## Processes and sockets -/

/-- A process. -/
structure Proc where
  user : List Char
  pid : Nat
  ppid : Nat
  cpu : Nat
  stime : List Char
  tty : List Char
  time : List Char
  /-- the command line -/
  args : List (List Char)
deriving DecidableEq, Repr

/-- The line of {lit}`ps -ef` for a process. -/
def Proc.line (r : Proc) : List Char :=
  [' '].intercalate ([r.user, Nat.toDigits 10 r.pid, Nat.toDigits 10 r.ppid,
    Nat.toDigits 10 r.cpu, r.stime, r.tty, r.time] ++ r.args)

/-- The first line of {lit}`ps -ef`. -/
def psHeader : List Char :=
  "UID        PID  PPID  C STIME TTY          TIME CMD".toList

/-- The output of {lit}`ps -ef`. -/
def psOutput (procs : List Proc) : List (List Char) :=
  psHeader :: procs.map Proc.line

/-- A socket that is listening. -/
structure Socket where
  proto : List Char
  address : List Char
  port : Nat
  /-- process and program -/
  owner : List Char
deriving DecidableEq, Repr

/-- The line of {lit}`netstat -tunlp` for a socket. -/
def Socket.line (k : Socket) : List Char :=
  [' '].intercalate [k.proto, "0".toList, "0".toList, k.address ++ ':' :: Nat.toDigits 10 k.port,
    "0.0.0.0:*".toList, "LISTEN".toList, k.owner]

/-- The name of a program without its directory. -/
def baseName (path : List Char) : List Char :=
  (path.reverse.takeWhile fun c => c != '/').reverse

/-- The argument that gives a server its port. -/
def portArg (p : Nat) : List Char :=
  "--port=".toList ++ Nat.toDigits 10 p

/-- A server process for a port. -/
def Proc.isMysqldFor (p : Nat) (r : Proc) : Bool :=
  (r.args.head?.any fun w => baseName w == "mysqld".toList) && decide (portArg p ∈ r.args)

/-- MySQL is serving on a port: there is a server process for it and a listening socket. -/
def Serving (p : Nat) (procs : List Proc) (socks : List Socket) : Prop :=
  (∃ r ∈ procs, r.isMysqldFor p = true) ∧ ∃ k ∈ socks, k.port = p

instance (p : Nat) (procs : List Proc) (socks : List Socket) : Decidable (Serving p procs socks) :=
  inferInstanceAs (Decidable (_ ∧ _))

/-! ## The check -/

/-- Lines that {lit}`egrep -i "mysqld"` selects. -/
def mysqldLine (line : List Char) : Bool :=
  occurs "mysqld".toList (line.map Char.toLower)

/-- Lines that {lit}`egrep -iv "mysqld_safe"` drops. -/
def safeLine (line : List Char) : Bool :=
  occurs "mysqld_safe".toList (line.map Char.toLower)

/-- Lines that {lit}`grep -v grep` drops. -/
def grepLine (line : List Char) : Bool :=
  occurs "grep".toList line

/-- A value of Python 2. -/
inductive PyValue where
  | int (n : Int)
  | str (w : List Char)
deriving DecidableEq, Repr

/-- The comparison {lit}`value <= n`; a string is greater than every number. -/
def PyValue.leInt : PyValue → Int → Bool
  | .int m, n => decide (m ≤ n)
  | .str _, _ => false

/-- The method {lit}`ishaveMySQL`. -/
def ishaveMySQL (dbport : Nat) (procs : List Proc) (socks : List Socket) : Nat :=
  let mysqldNum := lineCount (((((psOutput procs).filter mysqldLine).filter fun l =>
    occurs (Nat.toDigits 10 dbport) l).filter fun l => !safeLine l).filter fun l => !grepLine l)
  let mysqlPortNum := PyValue.str (lineCount ((socks.map Socket.line).filter fun l =>
    occurs (':' :: Nat.toDigits 10 dbport) l))
  match number mysqldNum with
  -- an exception ends the script with status one
  | none => 1
  | some num =>
      if num ≤ 0 then 1
      else if decide (0 < num) && mysqlPortNum.leInt 0 then 1
      else 0

/-- The function {lit}`checkMySQL` with its options; the template sets a port as well. -/
def checkMySQL (mysqlPort : Nat) (opts : List (Char × List Char)) (procs : List Proc)
    (socks : List Socket) : Nat :=
  let dbport := opts.foldl (fun port opt => if opt.1 == 'P' then opt.2 else port)
    (Nat.toDigits 10 mysqlPort)
  match number dbport with
  | none => 1
  | some port => ishaveMySQL port.toNat procs socks

/-! ## The configuration -/

/-- A block {lit}`vrrp_script` that calls {lit}`checkMySQL.py` with options. -/
structure VrrpScript where
  name : String
  opts : List (Char × List Char)

/-- What {lit}`keepalived.conf` defines and tracks. -/
structure KeepalivedConf where
  vrrpScripts : List VrrpScript
  trackScript : List String

/-- The template {lit}`keepalived.conf`. -/
def keepalivedConf (keepalivedVrId : String) (mysqlPort : Nat) : KeepalivedConf where
  vrrpScripts := [⟨"vs_mysql_" ++ keepalivedVrId,
    [('h', "localhost".toList), ('P', Nat.toDigits 10 mysqlPort)]⟩]
  trackScript := ["vs_mysql_82"]

/--
Keepalived fails over exactly if MySQL is not serving: what it tracks is defined, and this
check fails exactly if MySQL is not serving.
-/
def FailsOver (keepalivedVrId : String) (p : Nat) (procs : List Proc) (socks : List Socket) :
    Prop :=
  ∀ name ∈ (keepalivedConf keepalivedVrId p).trackScript,
    ∃ sc ∈ (keepalivedConf keepalivedVrId p).vrrpScripts, sc.name = name ∧
      (checkMySQL p sc.opts procs socks ≠ 0 ↔ ¬Serving p procs socks)

instance (keepalivedVrId : String) (p : Nat) (procs : List Proc) (socks : List Socket) :
    Decidable (FailsOver keepalivedVrId p procs socks) :=
  inferInstanceAs (Decidable (∀ _ ∈ _, ∃ _ ∈ _, _))

/-! ## What the check sees -/

/-- The line of a process has a text that the check drops. -/
def Proc.hidden (r : Proc) : Bool :=
  safeLine r.line || grepLine r.line

/-- A line that looks like a server for the port but is none. -/
def Proc.stray (p : Nat) (r : Proc) : Bool :=
  !r.isMysqldFor p && mysqldLine r.line && occurs (Nat.toDigits 10 p) r.line && !r.hidden

/-- The check counts the line of a process. -/
def Proc.seen (p : Nat) (r : Proc) : Bool :=
  mysqldLine r.line && occurs (Nat.toDigits 10 p) r.line && !safeLine r.line && !grepLine r.line

variable {p : Nat} {r : Proc} {procs : List Proc} {socks : List Socket}

/-- A word of a line is a part of it. -/
theorem part_intercalate {w : List Char} {ws : List (List Char)} (hw : w ∈ ws) :
    w <:+: [' '].intercalate ws := by
  induction ws with
  | nil => cases hw
  | cons v vs ih =>
      cases vs with
      | nil =>
          cases List.mem_singleton.mp hw
          simp
      | cons u us =>
          have hcons : [' '].intercalate (v :: u :: us) =
              v ++ ' ' :: [' '].intercalate (u :: us) := by
            simp [List.intercalate]
          rw [hcons]
          rcases List.mem_cons.mp hw with rfl | hw
          · exact ⟨[], ' ' :: [' '].intercalate (u :: us), by simp⟩
          · exact (ih hw).trans ⟨v ++ [' '], [], by simp⟩

/-- An argument of a process is a part of its line. -/
theorem Proc.arg_part {w : List Char} (hw : w ∈ r.args) : w <:+: r.line :=
  part_intercalate (List.mem_append_right _ hw)

/-- The line of a server for the port has the name of the program and the port. -/
theorem Proc.line_of_isMysqldFor (hserver : r.isMysqldFor p = true) :
    mysqldLine r.line = true ∧ occurs (Nat.toDigits 10 p) r.line = true := by
  simp only [Proc.isMysqldFor, Bool.and_eq_true, decide_eq_true_eq, Option.any_eq_true] at hserver
  rcases hserver with ⟨⟨path, hpath, hname⟩, hport⟩
  constructor
  · have hpart : "mysqld".toList <:+: path := by
      have hbase : baseName path = "mysqld".toList := by simpa using hname
      rw [← hbase, baseName]
      have hpre := List.takeWhile_prefix (l := path.reverse) fun c => c != '/'
      simpa using (List.reverse_suffix.mpr hpre).isInfix
    have hline := (hpart.trans (Proc.arg_part (List.mem_of_head? hpath))).map Char.toLower
    have hlower : "mysqld".toList.map Char.toLower = "mysqld".toList := by decide
    rw [hlower] at hline
    exact occurs_iff.mpr hline
  · refine occurs_iff.mpr (List.IsInfix.trans ?_ (Proc.arg_part hport))
    exact (List.suffix_append _ _).isInfix

/-- The check counts the servers that are not hidden, and the strays. -/
theorem Proc.seen_iff :
    r.seen p = true ↔ r.isMysqldFor p = true ∧ r.hidden = false ∨ r.stray p = true := by
  cases hserver : r.isMysqldFor p with
  | false => simp [Proc.seen, Proc.stray, Proc.hidden, hserver, and_assoc]
  | true =>
      rcases Proc.line_of_isMysqldFor hserver with ⟨hname, hport⟩
      simp [Proc.seen, Proc.stray, Proc.hidden, hserver, hname, hport]

/-- The lines that get through the filters are those of the processes the check counts. -/
theorem filter_psOutput :
    ((((psOutput procs).filter mysqldLine).filter fun l => occurs (Nat.toDigits 10 p) l).filter
      fun l => !safeLine l).filter (fun l => !grepLine l) =
    (procs.filter (Proc.seen p)).map Proc.line := by
  have hheader : mysqldLine psHeader = false := by decide +kernel
  have hseen : (fun r : Proc => !grepLine r.line && !safeLine r.line &&
      occurs (Nat.toDigits 10 p) r.line && mysqldLine r.line) = Proc.seen p := by
    funext r
    rw [Proc.seen, Bool.and_assoc, Bool.and_comm, Bool.and_comm (occurs _ _),
      Bool.and_comm (!grepLine _), Bool.and_assoc, Bool.and_assoc, Bool.and_assoc]
  rw [List.filter_filter, List.filter_filter, List.filter_filter, psOutput,
    List.filter_cons_of_neg (by simp [hheader]), List.filter_map]
  simp only [Function.comp_def, hseen]

/-- The check looks at the processes alone. -/
theorem ishaveMySQL_eq :
    ishaveMySQL p procs socks = if ∃ r ∈ procs, r.seen p = true then 0 else 1 := by
  rw [ishaveMySQL, filter_psOutput, lineCount, number_toDigits, List.length_map]
  by_cases hseen : ∃ r ∈ procs, r.seen p = true
  · rcases hseen with ⟨r, hr, hseen⟩
    have hpos : 0 < (procs.filter (Proc.seen p)).length :=
      List.length_pos_of_mem (List.mem_filter.mpr ⟨hr, hseen⟩)
    have hnot : ¬((procs.filter (Proc.seen p)).length : Int) ≤ 0 := by omega
    rw [if_pos ⟨r, hr, hseen⟩]
    -- the second test compares a string with a number
    simp only [hnot, if_false, PyValue.leInt, Bool.and_false, Bool.false_eq_true]
  · have hnil : procs.filter (Proc.seen p) = [] := by
      rw [List.filter_eq_nil_iff]
      exact fun r hr hr' => hseen ⟨r, hr, hr'⟩
    rw [if_neg hseen, hnil]
    rfl

/-- With the options of the configuration it is called for the port of the server. -/
theorem checkMySQL_conf {keepalivedVrId : String} {sc : VrrpScript}
    (hsc : sc ∈ (keepalivedConf keepalivedVrId p).vrrpScripts) :
    checkMySQL p sc.opts procs socks = ishaveMySQL p procs socks := by
  cases List.mem_singleton.mp hsc
  have hopts : [('h', "localhost".toList), ('P', Nat.toDigits 10 p)].foldl
      (fun port (opt : Char × List Char) => if opt.1 == 'P' then opt.2 else port)
      (Nat.toDigits 10 p) = Nat.toDigits 10 p := rfl
  rw [checkMySQL, hopts, number_toDigits]
  rfl

/-! ## When keepalived fails over -/

/-- The check that is tracked is defined exactly if the identifier of the virtual router is 82. -/
theorem failsOver_iff_ishaveMySQL {keepalivedVrId : String} :
    FailsOver keepalivedVrId p procs socks ↔
      keepalivedVrId = "82" ∧ (ishaveMySQL p procs socks ≠ 0 ↔ ¬Serving p procs socks) := by
  have hname : "vs_mysql_" ++ keepalivedVrId = "vs_mysql_82" ↔ keepalivedVrId = "82" := by
    rw [show "vs_mysql_82" = "vs_mysql_" ++ "82" from rfl, String.append_right_inj]
  constructor
  · intro hover
    rcases hover "vs_mysql_82" List.mem_cons_self with ⟨sc, hsc, hdefined, hiff⟩
    rw [checkMySQL_conf hsc] at hiff
    cases List.mem_singleton.mp hsc
    exact ⟨hname.mp hdefined, hiff⟩
  · rintro ⟨hid, hiff⟩ name hmem
    cases List.mem_singleton.mp hmem
    refine ⟨_, List.mem_cons_self, hname.mpr hid, ?_⟩
    rw [checkMySQL_conf List.mem_cons_self]
    exact hiff

/-- The check fails exactly if it counts no line. -/
theorem ishaveMySQL_ne_zero_iff :
    ishaveMySQL p procs socks ≠ 0 ↔ ¬∃ r ∈ procs, r.seen p = true := by
  rw [ishaveMySQL_eq]
  by_cases hseen : ∃ r ∈ procs, r.seen p = true
  · simp [hseen]
  · simp only [hseen, not_false_eq_true, iff_true]
    decide

/--
Keepalived fails over exactly if MySQL is not serving, under these conditions: the identifier
of the virtual router is 82; if the line of a server for the port is not hidden, there is a socket
on the port; a stray is there only while MySQL is serving; and while MySQL is serving, the line of
some server for the port is not hidden, or a stray stands in for it.
-/
theorem failsOver_iff (keepalivedVrId : String) (p : Nat) (procs : List Proc)
    (socks : List Socket) :
    FailsOver keepalivedVrId p procs socks ↔
      keepalivedVrId = "82" ∧
      ((∃ r ∈ procs, r.isMysqldFor p = true ∧ r.hidden = false) → ∃ k ∈ socks, k.port = p) ∧
      ((∃ r ∈ procs, r.stray p = true) → Serving p procs socks) ∧
      (Serving p procs socks →
        ∃ r ∈ procs, r.isMysqldFor p = true ∧ r.hidden = false ∨ r.stray p = true) := by
  rw [failsOver_iff_ishaveMySQL, ishaveMySQL_ne_zero_iff, not_iff_not]
  refine and_congr_right fun _ => ⟨fun hiff => ⟨?_, ?_, ?_⟩, ?_⟩
  · rintro ⟨r, hr, hserver⟩
    exact (hiff.mp ⟨r, hr, Proc.seen_iff.mpr (Or.inl hserver)⟩).2
  · rintro ⟨r, hr, hstray⟩
    exact hiff.mp ⟨r, hr, Proc.seen_iff.mpr (Or.inr hstray)⟩
  · intro hserving
    rcases hiff.mpr hserving with ⟨r, hr, hseen⟩
    exact ⟨r, hr, Proc.seen_iff.mp hseen⟩
  · rintro ⟨hsocket, hstray, hvisible⟩
    constructor
    · rintro ⟨r, hr, hseen⟩
      rcases Proc.seen_iff.mp hseen with hserver | hother
      · exact ⟨⟨r, hr, hserver.1⟩, hsocket ⟨r, hr, hserver⟩⟩
      · exact hstray ⟨r, hr, hother⟩
    · intro hserving
      rcases hvisible hserving with ⟨r, hr, hseen⟩
      exact ⟨r, hr, Proc.seen_iff.mpr hseen⟩

/-! ## A server for port 3306 -/

/-- A server process. -/
def mysqld (pid port : Nat) : Proc where
  user := "mysql".toList
  pid := pid
  ppid := 1
  cpu := 0
  stime := "Nov10".toList
  tty := "?".toList
  time := "00:01:12".toList
  args := ["/usr/local/mysql/bin/mysqld".toList, "--user=mysql".toList, portArg port]

/-- Its socket. -/
def mysqldSocket (port : Nat) : Socket where
  proto := "tcp".toList
  address := "0.0.0.0".toList
  port := port
  owner := "1204/mysqld".toList

/--
Keepalived does not fail over when the server has no socket, or when only a server for another
port runs whose process identifier has the digits of the port.  With another identifier of the
virtual router it does not even track the check.
-/
theorem failover_missed :
    ¬Serving 3306 [mysqld 1204 3306] [] ∧ ishaveMySQL 3306 [mysqld 1204 3306] [] = 0 ∧
    ¬FailsOver "82" 3306 [mysqld 1204 3306] [] ∧
    ¬FailsOver "82" 3306 [mysqld 13306 3307] [mysqldSocket 3307] ∧
    ¬FailsOver "51" 3306 [mysqld 1204 3306] [mysqldSocket 3306] := by
  decide +kernel

end Mysql
end ClusterPlaybooks
