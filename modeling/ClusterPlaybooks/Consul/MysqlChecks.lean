import ClusterPlaybooks.Consul.ReadPool
import ClusterPlaybooks.Text.Shell

/-!
# The checks for MySQL

Consul runs two scripts on every node of a replication tree: {lit}`check_mysql_master.sh`
decides whether the node takes writes, {lit}`check_mysql_slave.sh` whether it serves reads.
They ask the server of the node, and the second one on a master also those of its slaves,
and look at the answers with text tools.

A slave judges itself, and its master judges it once more in another part of the script.
The two judgements agree, so the master serves reads exactly if none of its slaves does.

Main results:

- Theorem {lit}`checkMysqlMaster_eq_zero`: the nodes that take writes.
- Theorem {lit}`checkMysqlSlave_slave`: the slaves that serve reads.
- Theorem {lit}`checkMysqlSlave_root`: when the root serves reads.
- Theorem {lit}`mysql_pools_consistent`: the two pools.
-/

namespace ClusterPlaybooks
namespace Consul

open Text

/-! ## Output of the mysql client -/

/-- A column of a result row. -/
structure Field where
  name : List Char
  value : List Char
deriving DecidableEq, Repr

/-- A column as it is printed after {lit}`\G`, without the blanks before it. -/
def Field.text (f : Field) : List Char :=
  f.name ++ ": ".toList ++ f.value

/-- The line above a row. -/
def rowHeader : List Char :=
  "*************************** 1. row ***************************".toList

/-- The same with the name aligned to the right. -/
def Field.line (width : Nat) (f : Field) : List Char :=
  List.replicate (width - f.name.length) ' ' ++ f.text

/-- The length of the longest name. -/
def nameWidth (row : List Field) : Nat :=
  (row.map fun f => f.name.length).foldr max 0

/-- A row as it is printed after {lit}`\G`. -/
def vertical (row : List Field) : List (List Char) :=
  rowHeader :: row.map (Field.line (nameWidth row))

/-- A row as it is printed in batch mode: a line of names and a line of values. -/
def tabular (row : List Field) : List (List Char) :=
  [['\t'].intercalate (row.map Field.name), ['\t'].intercalate (row.map Field.value)]

/-! ## Slave status -/

/-- Lines that {lit}`grep -Ew "Slave_SQL_Running|Slave_IO_Running"` selects. -/
def threadLine (line : List Char) : Bool :=
  occursWord "Slave_SQL_Running".toList true line || occursWord "Slave_IO_Running".toList true line

/-- Lines that {lit}`grep -w "Seconds_Behind_Master"` selects. -/
def delayLine (line : List Char) : Bool :=
  occursWord "Seconds_Behind_Master".toList true line

/-- Lines that {lit}`grep -E "Slave_IO_Running: Yes|Slave_SQL_Running: Yes"` selects. -/
def runningLine (line : List Char) : Bool :=
  occurs "Slave_IO_Running: Yes".toList line || occurs "Slave_SQL_Running: Yes".toList line

/-- The state of a replication thread. -/
inductive Thread where
  | yes
  | no
  | connecting
deriving DecidableEq, Repr

/-- The state as the server prints it. -/
def Thread.text : Thread → List Char
  | .yes => "Yes".toList
  | .no => "No".toList
  | .connecting => "Connecting".toList

/-- A column that none of the searches of the scripts selects. -/
def Field.Unrelated (f : Field) : Prop :=
  threadLine f.text = false ∧ delayLine f.text = false ∧ runningLine f.text = false

instance Field.decidableUnrelated (f : Field) : Decidable f.Unrelated :=
  inferInstanceAs (Decidable (_ ∧ _ ∧ _))

/-- What a slave knows about its replication. -/
structure SlaveStatus where
  io : Thread
  sql : Thread
  /-- the delay in seconds -/
  delay : Nat
  /-- the other columns, in three groups -/
  before : List Field
  between : List Field
  after : List Field
  unrelated : ∀ f ∈ before ++ between ++ after, f.Unrelated

/-- Both threads run. -/
def SlaveStatus.running (st : SlaveStatus) : Bool :=
  st.io == .yes && st.sql == .yes

/-- Both threads run and the delay is below two minutes. -/
def SlaveStatus.upToDate (st : SlaveStatus) : Bool :=
  st.running && decide (st.delay < 120)

/-- {lit}`Seconds_Behind_Master`: {lit}`NULL` unless both threads run. -/
def SlaveStatus.secondsBehindMaster (st : SlaveStatus) : List Char :=
  if st.running then Nat.toDigits 10 st.delay else "NULL".toList

/-- The columns for the two threads. -/
def SlaveStatus.threads (st : SlaveStatus) : List Field :=
  [⟨"Slave_IO_Running".toList, st.io.text⟩, ⟨"Slave_SQL_Running".toList, st.sql.text⟩]

/-- The column for the delay. -/
def SlaveStatus.delayField (st : SlaveStatus) : Field :=
  ⟨"Seconds_Behind_Master".toList, st.secondsBehindMaster⟩

/-- The row of {lit}`show slave status`. -/
def SlaveStatus.row (st : SlaveStatus) : List Field :=
  st.before ++ st.threads ++ st.between ++ [st.delayField] ++ st.after

/-! ## A moment of a replication tree -/

/-- The name of a host, by which the other hosts reach its server. -/
structure HostName where
  text : List Char
  nonempty : text ≠ []
  plain : ∀ c ∈ text, c.isAlphanum = true ∨ c = '.' ∨ c = '-'
deriving DecidableEq

/-- A row of {lit}`information_schema.PROCESSLIST`. -/
structure Process where
  user : String
  host : List Char
  command : List Char
deriving DecidableEq, Repr

/-- The condition {lit}`user='repl' and COMMAND like '%Binlog Dump%'`. -/
def Process.isDump (p : Process) : Bool :=
  p.user == "repl" && occurs "Binlog Dump".toList p.command

/-- A replication tree of MySQL servers at one moment. -/
structure Servers extends Tree HostName where
  alive : HostName → Bool
  /-- the replication of the nodes other than the root -/
  status : HostName → SlaveStatus
  /-- a slave can ask for events by their GTID -/
  gtid : HostName → Bool
  /-- the port a slave connects from -/
  clientPort : HostName → Nat
  /-- the other connections to a node -/
  sessions : HostName → List Process
  sessions_other : ∀ n, ∀ p ∈ sessions n, p.isDump = false

/-- The connection of a slave to its master. -/
def Servers.dump (s : Servers) (n : HostName) : Process where
  user := "repl"
  host := n.text ++ ':' :: Nat.toDigits 10 (s.clientPort n)
  command := if s.gtid n then "Binlog Dump GTID".toList else "Binlog Dump".toList

/-- The slaves that are connected to a node: those that are alive and run their IO thread. -/
def Servers.connected (s : Servers) (n : HostName) : List HostName :=
  s.nodes.filter fun m => decide (s.master m = some n) && s.alive m && (s.status m).io == .yes

/-- {lit}`information_schema.PROCESSLIST` on a node. -/
def Servers.processlist (s : Servers) (n : HostName) : List Process :=
  s.sessions n ++ (s.connected n).map s.dump

/-- The statements the scripts send. -/
inductive Query where
  /-- {lit}`select 1` -/
  | one
  /-- {lit}`select substring_index(HOST,':',1) from … where …` -/
  | dumpHosts
  /-- {lit}`select count(1) from … where …` -/
  | dumpCount
  /-- {lit}`show slave status` -/
  | slaveStatus
  /-- {lit}`show slave status\G` -/
  | slaveStatusVertical
deriving DecidableEq, Repr

/-- What the server of a node answers. -/
def Servers.answer (s : Servers) (n : HostName) : Query → List (List Char)
  | .one => ["1".toList]
  | .dumpHosts =>
      ((s.processlist n).filter Process.isDump).map fun p => p.host.takeWhile fun c => c != ':'
  | .dumpCount => [Nat.toDigits 10 ((s.processlist n).filter Process.isDump).length]
  | .slaveStatus => if (s.master n).isNone then [] else tabular (s.status n).row
  | .slaveStatusVertical => if (s.master n).isNone then [] else vertical (s.status n).row

/-- What the client prints: nothing if the server is down. -/
def Servers.mysql (s : Servers) (n : HostName) (q : Query) : List (List Char) :=
  if s.alive n then s.answer n q else []

/-- The same with {lit}`-h host`. -/
def Servers.mysqlAt (s : Servers) (host : List Char) (q : Query) : List (List Char) :=
  match s.nodes.find? fun n => n.text == host with
  | some n => s.mysql n q
  | none => []

/-! ## The scripts -/

/-- The script {lit}`check_mysql_master.sh`. -/
def checkMysqlMaster (s : Servers) (n : HostName) : Nat :=
  let slaveInfo := lineCount (s.mysql n .slaveStatus)
  let value := captured (s.mysql n .one)
  if test slaveInfo (· != 0) then 2
  else if value.isEmpty then 2
  -- the status of the last command, which asks the server once more
  else if s.alive n then 0 else 1

/-- The delay a slave status reports; {lit}`NULL` is replaced by a large number. -/
def replDelay (status : List (List Char)) : List Char :=
  let delay := captured ((status.filter delayLine).map lastField)
  if delay == "NULL".toList then "99999".toList else delay

/-- The number of threads a slave status reports as running. -/
def replThreads (status : List (List Char)) : List Char :=
  grepCount runningLine status

/-- The function {lit}`single_mode`; {lit}`some` is an exit. -/
def singleMode (getSlaveCount isSlaveRole : List Char) : Option Nat :=
  if test getSlaveCount (· == 0) && test isSlaveRole (· == 0) then some 0 else none

/-- The function {lit}`slave_mode`. -/
def slaveMode (isSlaveRole : List Char) (status : List (List Char)) : Option Nat :=
  if test isSlaveRole (2 ≤ ·) then
    let slaveModeReplDelay := replDelay status
    let slaveModeReplStatus := replThreads status
    if slaveModeReplDelay != "NULL".toList && test slaveModeReplDelay (· < 120) &&
        test slaveModeReplStatus (2 ≤ ·) then some 0
    else none
  else none

/-- The loop of {lit}`master_mode` over the slaves. -/
def slaveLoop (s : Servers) : List (List Char) → Nat
  | [] => 0
  | mySlave :: hosts =>
      let masterModeReplDelay := replDelay (s.mysqlAt mySlave .slaveStatusVertical)
      let masterModeReplThread := replThreads (s.mysqlAt mySlave .slaveStatusVertical)
      if test masterModeReplDelay (· < 120) && test masterModeReplThread (2 ≤ ·) then 2
      else slaveLoop s hosts

/-- The function {lit}`master_mode`. -/
def masterMode (s : Servers) (getSlaveCount isSlaveRole : List Char)
    (getSlaveHosts : List (List Char)) : Option Nat :=
  if test getSlaveCount (0 < ·) && test isSlaveRole (· == 0) then
    some (slaveLoop s (getSlaveHosts.flatMap words))
  else none

/-- The script {lit}`check_mysql_slave.sh`. -/
def checkMysqlSlave (s : Servers) (n : HostName) : Nat :=
  let value := captured (s.mysql n .one)
  if value.isEmpty then 2
  else
    let getSlaveHosts := s.mysql n .dumpHosts
    let getSlaveCount := captured (s.mysql n .dumpCount)
    let isSlaveRole := grepCount threadLine (s.mysql n .slaveStatusVertical)
    (singleMode getSlaveCount isSlaveRole
      <|> slaveMode isSlaveRole (s.mysql n .slaveStatusVertical)
      <|> masterMode s getSlaveCount isSlaveRole getSlaveHosts).getD 2

/-! ## What the searches find in a slave status -/

/-- Blanks at the start of a line do not matter to the searches. -/
theorem threadLine_blanks (count : Nat) (line : List Char) :
    threadLine (List.replicate count ' ' ++ line) = threadLine line := by
  rw [threadLine, occursWord_blanks (by decide), occursWord_blanks (by decide), threadLine]

/-- The same for the delay. -/
theorem delayLine_blanks (count : Nat) (line : List Char) :
    delayLine (List.replicate count ' ' ++ line) = delayLine line := by
  rw [delayLine, occursWord_blanks (by decide), delayLine]

/-- The same for running threads. -/
theorem runningLine_blanks (count : Nat) (line : List Char) :
    runningLine (List.replicate count ' ' ++ line) = runningLine line := by
  rw [runningLine, occurs_blanks (by decide), occurs_blanks (by decide), runningLine]

/-- The searches are for texts that the line above the row does not have. -/
theorem rowHeader_unrelated :
    threadLine rowHeader = false ∧ delayLine rowHeader = false ∧ runningLine rowHeader = false := by
  have hS : 'S' ∉ rowHeader := by decide +kernel
  refine ⟨?_, ?_, ?_⟩
  · rw [threadLine, occursWord_eq_false (by simp) hS, occursWord_eq_false (by simp) hS,
      Bool.or_self]
  · exact occursWord_eq_false (by simp) hS
  · rw [runningLine, occurs_eq_false (by simp) hS, occurs_eq_false (by simp) hS, Bool.or_self]

/-- A search goes through the columns of the row. -/
theorem filter_vertical {p : List Char → Bool} {row : List Field}
    (hblanks : ∀ count line, p (List.replicate count ' ' ++ line) = p line)
    (hheader : p rowHeader = false) :
    (vertical row).filter p =
      (row.filter fun f => p f.text).map (Field.line (nameWidth row)) := by
  have hline : ∀ width, (fun f : Field => p (f.line width)) = fun f => p f.text := by
    intro width
    funext f
    exact hblanks _ _
  rw [vertical, List.filter_cons_of_neg (by simp [hheader]), List.filter_map]
  simp only [Function.comp_def, hline]

variable {st : SlaveStatus}

/-- The other columns are never selected. -/
theorem SlaveStatus.filter_row {p : Field → Bool}
    (hother : ∀ f : Field, f.Unrelated → p f = false) :
    st.row.filter p = st.threads.filter p ++ [st.delayField].filter p := by
  have hnone : ∀ fs : List Field, (∀ f ∈ fs, f ∈ st.before ++ st.between ++ st.after) →
      fs.filter p = [] := by
    intro fs hfs
    rw [List.filter_eq_nil_iff]
    intro f hf
    simp [hother f (st.unrelated f (hfs f hf))]
  have hbefore := hnone st.before fun f hf => by simp [hf]
  have hbetween := hnone st.between fun f hf => by simp [hf]
  have hafter := hnone st.after fun f hf => by simp [hf]
  simp only [SlaveStatus.row, List.filter_append, hbefore, hbetween, hafter, List.nil_append,
    List.append_nil]

/-- The delay is a single word without small letters. -/
theorem SlaveStatus.secondsBehindMaster_chars {c : Char} (hc : c ∈ st.secondsBehindMaster) :
    c.isDigit = true ∨ c ∈ "NULL".toList := by
  unfold SlaveStatus.secondsBehindMaster at hc
  split at hc
  · exact Or.inl (Nat.isDigit_of_mem_toDigits (by decide) (by decide) hc)
  · exact Or.inr hc

/-- The text of the column for the delay. -/
theorem SlaveStatus.delayField_text : st.delayField.text =
    "Seconds_Behind_Master".toList ++ ": ".toList ++ st.secondsBehindMaster :=
  rfl

/-- It has no letter l. -/
theorem SlaveStatus.notMem_delayField : 'l' ∉ st.delayField.text := by
  intro hl
  rw [SlaveStatus.delayField_text] at hl
  have hvalue : 'l' ∈ st.secondsBehindMaster := by simpa using hl
  rcases st.secondsBehindMaster_chars hvalue with hdigit | hnull
  · exact absurd hdigit (by decide)
  · simp at hnull

/-- The two columns for the threads are found. -/
theorem SlaveStatus.filter_threadLine :
    st.row.filter (fun f => threadLine f.text) = st.threads := by
  rw [SlaveStatus.filter_row fun f hf => hf.1]
  have hthreads : st.threads.filter (fun f => threadLine f.text) = st.threads := by
    rw [List.filter_eq_self]
    intro f hf
    rcases List.mem_pair.mp hf with rfl | rfl
    · cases st.io <;> decide +kernel
    · cases st.sql <;> decide +kernel
  have hdelay : threadLine st.delayField.text = false := by
    rw [threadLine, occursWord_eq_false (by simp) st.notMem_delayField,
      occursWord_eq_false (by simp) st.notMem_delayField, Bool.or_self]
  rw [hthreads, List.filter_cons_of_neg (by simp [hdelay]), List.filter_nil, List.append_nil]

/-- The column for the delay is found. -/
theorem SlaveStatus.filter_delayLine :
    st.row.filter (fun f => delayLine f.text) = [st.delayField] := by
  rw [SlaveStatus.filter_row fun f hf => hf.2.1]
  have hthreads : st.threads.filter (fun f => delayLine f.text) = [] := by
    rw [List.filter_eq_nil_iff]
    intro f hf
    rcases List.mem_pair.mp hf with rfl | rfl
    · cases st.io <;> decide +kernel
    · cases st.sql <;> decide +kernel
  have hdelay : delayLine st.delayField.text = true := by
    rw [SlaveStatus.delayField_text, delayLine, List.append_assoc]
    exact occursWord_append (by decide) rfl
  simp [hthreads, hdelay]

/-- A column for a thread is found if the thread runs. -/
theorem SlaveStatus.countP_runningLine :
    st.row.countP (fun f => runningLine f.text) =
      (if st.io = .yes then 1 else 0) + if st.sql = .yes then 1 else 0 := by
  rw [List.countP_eq_length_filter, SlaveStatus.filter_row fun f hf => hf.2.2]
  have hdelay : runningLine st.delayField.text = false := by
    rw [runningLine, occurs_eq_false (by simp) st.notMem_delayField,
      occurs_eq_false (by simp) st.notMem_delayField, Bool.or_self]
  have hio : runningLine (Field.text ⟨"Slave_IO_Running".toList, st.io.text⟩) =
      decide (st.io = .yes) := by
    cases st.io <;> decide +kernel
  have hsql : runningLine (Field.text ⟨"Slave_SQL_Running".toList, st.sql.text⟩) =
      decide (st.sql = .yes) := by
    cases st.sql <;> decide +kernel
  rw [List.filter_cons_of_neg (by simp [hdelay]), List.filter_nil, List.append_nil,
    ← List.countP_eq_length_filter, SlaveStatus.threads, List.countP_cons, List.countP_cons,
    hio, hsql, List.countP_nil]
  cases st.io <;> cases st.sql <;> rfl

/-- The role of a slave is found. -/
theorem grepCount_threadLine :
    grepCount threadLine (vertical st.row) = Nat.toDigits 10 2 := by
  rw [grepCount, List.countP_eq_length_filter,
    filter_vertical threadLine_blanks rowHeader_unrelated.1, st.filter_threadLine]
  rfl

/-- The running threads are counted. -/
theorem test_replThreads : test (replThreads (vertical st.row)) (2 ≤ ·) = st.running := by
  rw [replThreads, test_grepCount, List.countP_eq_length_filter,
    filter_vertical runningLine_blanks rowHeader_unrelated.2.2, List.length_map,
    ← List.countP_eq_length_filter, st.countP_runningLine, SlaveStatus.running]
  cases st.io <;> cases st.sql <;> decide

/-- The delay is read. -/
theorem replDelay_vertical : replDelay (vertical st.row) =
    if st.running then Nat.toDigits 10 st.delay else "99999".toList := by
  have hfield : lastField (st.delayField.line (nameWidth st.row)) = st.secondsBehindMaster := by
    have hsplit : st.delayField.line (nameWidth st.row) =
        (List.replicate (nameWidth st.row - st.delayField.name.length) ' ' ++
          "Seconds_Behind_Master:".toList) ++ ' ' :: st.secondsBehindMaster := by
      rw [Field.line, SlaveStatus.delayField_text]
      simp
    rw [hsplit]
    refine lastField_append (by decide) ?_ ?_
    · unfold SlaveStatus.secondsBehindMaster
      split
      · exact Nat.toDigits_ne_nil
      · decide
    · intro c hc
      rcases st.secondsBehindMaster_chars hc with hdigit | hnull
      · by_contra hblank
        simp only [isBlank, Bool.not_eq_false, Bool.or_eq_true, beq_iff_eq] at hblank
        rcases hblank with (rfl | rfl) | rfl <;> exact absurd hdigit (by decide)
      · have hletters : ∀ c ∈ "NULL".toList, isBlank c = false := by simp [isBlank]
        exact hletters c hnull
  have hdelay : captured (((vertical st.row).filter delayLine).map lastField) =
      st.secondsBehindMaster := by
    rw [filter_vertical delayLine_blanks rowHeader_unrelated.2.1, st.filter_delayLine,
      List.map_singleton, List.map_singleton, captured_singleton, hfield]
  rw [replDelay, hdelay, SlaveStatus.secondsBehindMaster]
  cases hrunning : st.running with
  | false => rfl
  | true =>
      -- a number is not the text NULL
      have hne : Nat.toDigits 10 st.delay ≠ "NULL".toList := by
        intro heq
        exact notMem_toDigits (c := 'N') (by decide) st.delay (by rw [heq]; decide)
      rw [if_pos rfl, if_pos rfl, if_neg (by simpa only [beq_iff_eq] using hne)]

/-- The judgement of a master about a slave. -/
theorem test_slave :
    (test (replDelay (vertical st.row)) (· < 120) && test (replThreads (vertical st.row)) (2 ≤ ·))
      = st.upToDate := by
  rw [test_replThreads, replDelay_vertical, SlaveStatus.upToDate]
  cases st.running with
  | false => simp
  | true =>
      rw [if_pos rfl, test_toDigits, Bool.and_true, Bool.true_and, decide_eq_decide]
      omega

/-- The judgement of a slave about itself is the same. -/
theorem slaveMode_vertical :
    slaveMode (Nat.toDigits 10 2) (vertical st.row) = if st.upToDate then some 0 else none := by
  have hnull : (replDelay (vertical st.row) != "NULL".toList) = true := by
    rw [replDelay]
    split
    · decide
    · rename_i hne
      simpa using hne
  rw [slaveMode, test_toDigits, if_pos (by decide)]
  simp only [hnull, Bool.true_and, test_slave]

/-! ## What the servers answer -/

variable {s : Servers} {n : HostName}

/-- The client prints nothing for a server that is down. -/
theorem Servers.mysql_dead (hdead : s.alive n = false) (q : Query) : s.mysql n q = [] := by
  simp [Servers.mysql, hdead]

/-- The client prints the answer of a server that is up. -/
theorem Servers.mysql_alive (halive : s.alive n = true) (q : Query) :
    s.mysql n q = s.answer n q := by
  simp [Servers.mysql, halive]

/-- The root has no slave status. -/
theorem Servers.answer_root :
    s.answer s.root .slaveStatus = [] ∧ s.answer s.root .slaveStatusVertical = [] := by
  simp [Servers.answer, s.master_root]

/-- Every other node has one. -/
theorem Servers.answer_slave (hn : n ∈ s.nodes) (hne : n ≠ s.root) :
    s.answer n .slaveStatus = tabular (s.status n).row ∧
      s.answer n .slaveStatusVertical = vertical (s.status n).row := by
  simp [Servers.answer, s.toTree.isNone_master hn hne]

/-- A node is found under the name of its host. -/
theorem Servers.mysqlAt_text (hn : n ∈ s.nodes) (q : Query) :
    s.mysqlAt n.text q = s.mysql n q := by
  have hfind : s.nodes.find? (fun m => m.text == n.text) = some n := by
    cases hfound : s.nodes.find? fun m => m.text == n.text with
    | none =>
        have hnot := List.find?_eq_none.mp hfound n hn
        simp at hnot
    | some m =>
        have hsame := List.find?_some hfound
        rcases m with ⟨text, _, _⟩
        rcases n with ⟨text', _, _⟩
        have htext : text = text' := by simpa using hsame
        subst htext
        rfl
  simp [Servers.mysqlAt, hfind]

/-- The connections the queries select are those of the connected slaves. -/
theorem Servers.filter_isDump :
    (s.processlist n).filter Process.isDump = (s.connected n).map s.dump := by
  have hsessions : (s.sessions n).filter Process.isDump = [] := by
    rw [List.filter_eq_nil_iff]
    intro p hp
    simp [s.sessions_other n p hp]
  have hdumps : ((s.connected n).map s.dump).filter Process.isDump =
      (s.connected n).map s.dump := by
    rw [List.filter_eq_self]
    intro p hp
    rcases List.mem_map.mp hp with ⟨m, _, rfl⟩
    have hcommand : occurs "Binlog Dump".toList (s.dump m).command = true := by
      have hboth : occurs "Binlog Dump".toList "Binlog Dump GTID".toList = true ∧
          occurs "Binlog Dump".toList "Binlog Dump".toList = true := by
        decide
      unfold Servers.dump
      split
      · exact hboth.1
      · exact hboth.2
    rw [Process.isDump, hcommand]
    rfl
  rw [Servers.processlist, List.filter_append, hsessions, hdumps, List.nil_append]

/-- The name of a host has no blank and no colon. -/
theorem HostName.chars (n : HostName) {c : Char} (hc : c ∈ n.text) :
    isBlank c = false ∧ c ≠ ':' := by
  have hcolon : c ≠ ':' := by
    rintro rfl
    exact absurd (n.plain ':' hc) (by decide)
  refine ⟨?_, hcolon⟩
  by_contra hblank
  simp only [isBlank, Bool.not_eq_false, Bool.or_eq_true, beq_iff_eq] at hblank
  rcases hblank with (rfl | rfl) | rfl <;> exact absurd (n.plain _ hc) (by decide)

/-- The names of the connected slaves are the words of the answer. -/
theorem Servers.dumpHosts_words :
    (s.answer n .dumpHosts).flatMap words = (s.connected n).map HostName.text := by
  have hname : ∀ m, (s.dump m).host.takeWhile (fun c => c != ':') = m.text := by
    intro m
    unfold Servers.dump
    rw [List.takeWhile_append_of_pos]
    · simp
    · intro c hc
      simpa using (m.chars hc).2
  have hwords : ∀ m : HostName, words m.text = [m.text] :=
    fun m => words_eq_singleton m.nonempty fun c hc => (m.chars hc).1
  simp only [Servers.answer, s.filter_isDump, List.map_map, Function.comp_def, hname,
    List.flatMap_map, hwords]
  induction s.connected n with
  | nil => rfl
  | cons m ms ih => simp [ih]

/-! ## Who takes writes -/

/-- The write check passes on a node exactly if it is the root and alive. -/
theorem checkMysqlMaster_eq_zero (hn : n ∈ s.nodes) :
    checkMysqlMaster s n = 0 ↔ s.alive n = true ∧ n = s.root := by
  cases halive : s.alive n with
  | false => simp [checkMysqlMaster, s.mysql_dead halive, captured]
  | true =>
      by_cases hroot : n = s.root
      · subst hroot
        have hone : s.answer s.root .one = ["1".toList] := rfl
        simp [checkMysqlMaster, s.mysql_alive halive, s.answer_root.1, hone,
          captured_singleton, halive]
      · simp [checkMysqlMaster, s.mysql_alive halive, (s.answer_slave hn hroot).1, tabular,
          hroot]

/-! ## Who serves reads -/

/-- The read check fails on a node that is down. -/
theorem checkMysqlSlave_dead (hdead : s.alive n = false) : checkMysqlSlave s n = 2 := by
  simp [checkMysqlSlave, s.mysql_dead hdead, captured]

/-- A server that is up answers the first question. -/
theorem captured_one (halive : s.alive n = true) :
    (captured (s.mysql n .one)).isEmpty = false := by
  rw [s.mysql_alive halive, Servers.answer, captured_singleton]
  rfl

/-- A slave serves reads exactly if it is alive and up to date. -/
theorem checkMysqlSlave_slave (hn : n ∈ s.nodes) (hne : n ≠ s.root) :
    checkMysqlSlave s n = 0 ↔ s.alive n = true ∧ (s.status n).upToDate = true := by
  cases halive : s.alive n with
  | false => simp [checkMysqlSlave_dead halive]
  | true =>
      have hrole : grepCount threadLine (s.mysql n .slaveStatusVertical) = Nat.toDigits 10 2 := by
        rw [s.mysql_alive halive, (s.answer_slave hn hne).2, grepCount_threadLine]
      have hstatus : s.mysql n .slaveStatusVertical = vertical (s.status n).row := by
        rw [s.mysql_alive halive, (s.answer_slave hn hne).2]
      have hsingle : ∀ count, singleMode count (Nat.toDigits 10 2) = none := by
        intro count
        simp [singleMode]
      have hmaster : ∀ count hosts, masterMode s count (Nat.toDigits 10 2) hosts = none := by
        intro count hosts
        simp [masterMode]
      rw [checkMysqlSlave, captured_one halive, hrole, hstatus]
      simp only [Bool.false_eq_true, if_false, hsingle, hmaster, slaveMode_vertical]
      cases (s.status n).upToDate <;> simp

/-- The loop over the slaves ends well exactly if none of them is up to date. -/
theorem slaveLoop_eq_zero {ms : List HostName}
    (hms : ∀ m ∈ ms, m ∈ s.nodes ∧ m ≠ s.root ∧ s.alive m = true) :
    slaveLoop s (ms.map HostName.text) = 0 ↔ ∀ m ∈ ms, (s.status m).upToDate = false := by
  induction ms with
  | nil => simp [slaveLoop]
  | cons m ms ih =>
      rcases hms m List.mem_cons_self with ⟨hm, hne, halive⟩
      have hstatus : s.mysqlAt m.text .slaveStatusVertical = vertical (s.status m).row := by
        rw [s.mysqlAt_text hm, s.mysql_alive halive, (s.answer_slave hm hne).2]
      have hrest := ih fun k hk => hms k (List.mem_cons_of_mem m hk)
      rw [List.map_cons, slaveLoop, hstatus, test_slave, List.forall_mem_cons, ← hrest]
      cases (s.status m).upToDate <;> simp

/-- On a root that is alive the script does what its loop does. -/
theorem checkMysqlSlave_root_eq (halive : s.alive s.root = true) :
    checkMysqlSlave s s.root = slaveLoop s ((s.connected s.root).map HostName.text) := by
  have hrole : grepCount threadLine (s.mysql s.root .slaveStatusVertical) =
      Nat.toDigits 10 0 := by
    rw [s.mysql_alive halive, s.answer_root.2]
    rfl
  have hcount : captured (s.mysql s.root .dumpCount) =
      Nat.toDigits 10 (s.connected s.root).length := by
    rw [s.mysql_alive halive, Servers.answer, captured_singleton, s.filter_isDump,
      List.length_map]
  have hhosts : (s.mysql s.root .dumpHosts).flatMap words =
      (s.connected s.root).map HostName.text := by
    rw [s.mysql_alive halive, s.dumpHosts_words]
  have hslave : ∀ status, slaveMode (Nat.toDigits 10 0) status = none := by
    intro status
    rw [slaveMode, test_toDigits]
    rfl
  rw [checkMysqlSlave, captured_one halive, hrole, hcount]
  simp only [Bool.false_eq_true, if_false, hslave, singleMode, masterMode, test_toDigits, hhosts]
  cases s.connected s.root with
  | nil => rfl
  | cons m ms =>
      have hsome : ((↑(m :: ms).length : Int) == 0) = false := by
        rw [beq_eq_false_iff_ne, List.length_cons]
        omega
      have hpos : decide ((0 : Int) < ↑(m :: ms).length) = true := by
        rw [decide_eq_true_eq, List.length_cons]
        omega
      rw [hsome, hpos]
      rfl

/-- The root serves reads exactly if none of its slaves does. -/
theorem checkMysqlSlave_root (halive : s.alive s.root = true) :
    s.Backup fun n => checkMysqlSlave s n = 0 := by
  have hconnected : ∀ m ∈ s.connected s.root,
      m ∈ s.nodes ∧ m ≠ s.root ∧ s.alive m = true := by
    intro m hm
    simp only [Servers.connected, List.mem_filter, Bool.and_eq_true, decide_eq_true_eq] at hm
    refine ⟨hm.1, ?_, hm.2.1.2⟩
    rintro rfl
    have hmaster := hm.2.1.1
    rw [s.master_root] at hmaster
    cases hmaster
  rw [Tree.Backup, checkMysqlSlave_root_eq halive, slaveLoop_eq_zero hconnected]
  constructor
  · intro hnone m hm hmaster hpass
    have hne : m ≠ s.root := by
      rintro rfl
      rw [s.master_root] at hmaster
      cases hmaster
    rcases (checkMysqlSlave_slave hm hne).mp hpass with ⟨hup, hfresh⟩
    -- a slave that is up to date runs its IO thread, so its master sees it
    have hio : ((s.status m).io == .yes) = true := by
      simp only [SlaveStatus.upToDate, SlaveStatus.running, Bool.and_eq_true] at hfresh
      exact hfresh.1.1
    have hmem : m ∈ s.connected s.root := by
      simp [Servers.connected, hm, hmaster, hup, hio]
    rw [hnone m hmem] at hfresh
    cases hfresh
  · intro hnone m hm
    rcases hconnected m hm with ⟨hnode, hne, hup⟩
    have hmaster : s.master m = some s.root := by
      simp only [Servers.connected, List.mem_filter, Bool.and_eq_true, decide_eq_true_eq] at hm
      exact hm.2.1.1
    by_contra hfresh
    rw [Bool.not_eq_false] at hfresh
    exact hnone m hnode hmaster ((checkMysqlSlave_slave hnode hne).mpr ⟨hup, hfresh⟩)

/--
The pools of every replication tree at every moment: exactly the living root takes writes; a
slave serves reads exactly if it is alive, both threads run and the delay is below two minutes;
a living root serves reads exactly if none of its slaves does; so while the root is alive some
node serves reads.
-/
theorem mysql_pools_consistent (s : Servers) :
    (∀ n ∈ s.nodes, checkMysqlMaster s n = 0 ↔ s.alive n = true ∧ n = s.root) ∧
    (∀ n ∈ s.nodes, n ≠ s.root → (checkMysqlSlave s n = 0 ↔
      s.alive n = true ∧ (s.status n).io = .yes ∧ (s.status n).sql = .yes ∧
        (s.status n).delay < 120)) ∧
    (s.alive s.root = true → (checkMysqlSlave s s.root = 0 ↔
      ∀ n ∈ s.nodes, s.master n = some s.root → checkMysqlSlave s n ≠ 0)) ∧
    (s.alive s.root = true → ∃ n ∈ s.nodes, checkMysqlSlave s n = 0) := by
  refine ⟨fun n hn => checkMysqlMaster_eq_zero hn, ?_, checkMysqlSlave_root, ?_⟩
  · intro n hn hne
    rw [checkMysqlSlave_slave hn hne]
    simp [SlaveStatus.upToDate, SlaveStatus.running, and_assoc]
  · intro halive
    exact Tree.exists_reader (checkMysqlSlave_root halive)

/-! ## A chain of three servers -/

/-- The first of three servers. -/
def db1 : HostName := ⟨"192.168.1.101".toList, by decide, by simp⟩

/-- Its slave. -/
def db2 : HostName := ⟨"192.168.1.102".toList, by decide, by simp⟩

/-- The slave of the slave. -/
def db3 : HostName := ⟨"192.168.1.103".toList, by decide, by simp⟩

/-- Columns before those for the threads. -/
def columnsBefore : List Field :=
  [⟨"Slave_IO_State".toList, "Waiting for master to send event".toList⟩,
    ⟨"Master_User".toList, "repl".toList⟩,
    ⟨"Master_Log_File".toList, "mysql-bin.000007".toList⟩,
    ⟨"Read_Master_Log_Pos".toList, "154".toList⟩]

/-- Columns after the one for the delay; the last name begins like that of a thread. -/
def columnsAfter : List Field :=
  [⟨"Master_SSL_Verify_Server_Cert".toList, "No".toList⟩,
    ⟨"Slave_SQL_Running_State".toList, "Reading event from the relay log".toList⟩]

/-- A status with these columns. -/
def chainStatus (io sql : Thread) (delay : Nat) : SlaveStatus where
  io := io
  sql := sql
  delay := delay
  before := columnsBefore
  between := []
  after := columnsAfter
  unrelated := by decide +kernel

/-- A chain of three servers whose second one is far behind. -/
def chain : Servers where
  nodes := [db1, db2, db3]
  root := db1
  root_mem := by simp
  master := fun n => if n = db2 then some db1 else if n = db3 then some db2 else none
  master_root := by decide +kernel
  depth := fun n => if n = db2 then 1 else if n = db3 then 2 else 0
  master_depth := by decide +kernel
  alive := fun _ => true
  status := fun n => if n = db2 then chainStatus .yes .yes 3600 else chainStatus .yes .yes 5
  gtid := fun _ => false
  clientPort := fun _ => 40112
  sessions := fun _ => [⟨"root", "127.0.0.1:40200".toList, "Query".toList⟩]
  sessions_other := fun _ => by decide +kernel

/-- The first server serves reads in place of its slave, and the third one does as well. -/
theorem mysql_pools_consistent_chain :
    checkMysqlSlave chain db2 ≠ 0 ∧ checkMysqlSlave chain db1 = 0 ∧
      checkMysqlSlave chain db3 = 0 := by
  rcases mysql_pools_consistent chain with ⟨_, hslave, hroot, _⟩
  have hsecond : checkMysqlSlave chain db2 ≠ 0 := by
    rw [Ne, hslave db2 (by decide +kernel) (by decide +kernel)]
    decide +kernel
  refine ⟨hsecond, (hroot rfl).mpr ?_, ?_⟩
  · intro n _ hmaster
    have hn : n = db2 := by
      simp only [chain] at hmaster
      split at hmaster
      · assumption
      · split at hmaster
        · exact absurd hmaster (by decide +kernel)
        · cases hmaster
    rw [hn]
    exact hsecond
  · rw [hslave db3 (by decide +kernel) (by decide +kernel)]
    decide +kernel

end Consul
end ClusterPlaybooks
