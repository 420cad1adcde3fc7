import ClusterPlaybooks.Process.Stepping
import ClusterPlaybooks.Text.Shell

/-!
# The start script for a port

The script {lit}`start_mysql.sh` starts the server of a port unless a line of {lit}`ps aux` has
the name of the server with the digits of the port anywhere after it.  It then waits for the pid
file with {lit}`chmod_mysql_pid.sh`, and tests the status of that with {lit}`[ $? ]`, which only
asks whether the status is a text that is not empty.

Main results:

- Theorem {lit}`startMysql_code`: the script never exits with 0.
- Theorem {lit}`started_ports_apart`: of the servers that run at the same time, none has a port
  that is a part of the digits of the port of one that was started before.
-/

namespace ClusterPlaybooks
namespace StartMysql

open Process Text

/-! ## The scripts -/

/-- The name of the server. -/
def serverName : List Char :=
  ['m', 'y', 's', 'q', 'l', 'd']

/-- The lines that {lit}`grep -E "mysqld.*$port"` selects. -/
def mysqldLine (port : List Char) : List Char → Bool
  | [] => false
  | c :: cs =>
      (serverName.isPrefixOf (c :: cs) && occurs port ((c :: cs).drop serverName.length)) ||
        mysqldLine port cs

/-- The number of lines that {lit}`ps aux|grep -v grep |grep -E "mysqld.*$port"` prints. -/
def running (port : List Char) (lines : List (List Char)) : Nat :=
  (lines.filter fun l => !occurs ['g', 'r', 'e', 'p'] l && mysqldLine port l).length

/--
The script {lit}`chmod_mysql_pid.sh`: it is given what its tests of the pid file show, and
returns its exit code, {lit}`none` as long as it waits.
-/
def chmodMysqlPid (times : Nat) : List Bool → Option Nat
  | [] => none
  | true :: _ => some 0
  | false :: tests => if 15 ≤ times + 1 then some 2 else chmodMysqlPid (times + 1) tests

/-- The test {lit}`[ word ]` of the shell. -/
def testWord (word : List Char) : Bool :=
  !word.isEmpty

/-- What a call has come to: its exit code, {lit}`none` as long as it waits, and whether it has
started a server. -/
structure Call where
  code : Option Nat
  started : Bool
deriving DecidableEq, Repr

/--
The script {lit}`start_mysql.sh`.  The port is a text without characters that are special in a
regular expression.  The server is started in the background, before the wait for its pid file.
-/
def startMysql (port : List Char) (lines : List (List Char)) (tests : List Bool) : Call :=
  if port.isEmpty then ⟨some 1, false⟩
  else if Nat.toDigits 10 (running port lines) = ['0'] then
    { code := (chmodMysqlPid 0 tests).map fun status =>
        if testWord (Nat.toDigits 10 status) then 2 else 0
      started := true }
  else ⟨some 1, false⟩

/-! ## The exit code -/

/-- The wait for the pid file ends after fifteen tests. -/
theorem chmodMysqlPid_isSome {times : Nat} {tests : List Bool}
    (hlong : 15 ≤ times + tests.length) (htimes : times < 15) :
    (chmodMysqlPid times tests).isSome := by
  induction tests generalizing times with
  | nil => simp at hlong; omega
  | cons test tests ih =>
      cases test with
      | true => rfl
      | false =>
          unfold chmodMysqlPid
          split
          · rfl
          · rw [List.length_cons] at hlong
            exact ih (by omega) (by omega)

/--
The script ends after at most fifteen tests of the pid file, with the code 1 or 2 and never with
0: with 2 exactly if it has started a server, whether that has come up or not.
-/
theorem startMysql_code (port : List Char) (lines : List (List Char)) {tests : List Bool}
    (hlong : 15 ≤ tests.length) :
    startMysql port lines tests = ⟨some 1, false⟩ ∨
      startMysql port lines tests = ⟨some 2, true⟩ := by
  unfold startMysql
  split
  · exact Or.inl rfl
  split
  · have hends : (chmodMysqlPid 0 tests).isSome := chmodMysqlPid_isSome (by omega) (by omega)
    obtain ⟨status, hstatus⟩ := Option.isSome_iff_exists.mp hends
    have hword : testWord (Nat.toDigits 10 status) = true := by
      simp [testWord, Nat.toDigits_ne_nil]
    exact Or.inr (by simp [hstatus, hword])
  · exact Or.inl rfl

/-- A server that never comes up. -/
theorem startMysql_code_sample :
    15 ≤ (List.replicate 15 false).length ∧
    (startMysql ['3', '3', '0', '6'] [] (List.replicate 15 false) = ⟨some 1, false⟩ ∨
      startMysql ['3', '3', '0', '6'] [] (List.replicate 15 false) = ⟨some 2, true⟩) :=
  have hlong : 15 ≤ (List.replicate 15 false).length := by decide
  ⟨hlong, startMysql_code ['3', '3', '0', '6'] [] hlong⟩

/-! ## Ports that are parts of others -/

/-- A line with the name of the server and the port after it is selected. -/
theorem mysqldLine_of_parts {port before after : List Char} (hport : port <:+: after) :
    mysqldLine port (before ++ (serverName ++ after)) = true := by
  induction before with
  | nil =>
      have hfound : occurs port after = true := occurs_iff.mpr hport
      simp [mysqldLine, serverName, List.isPrefixOf, hfound]
  | cons c before ih => simp [mysqldLine, ih]

/-- A host: the texts that make up the lines of {lit}`ps`, and the lines of other processes. -/
structure Setup where
  basedir : List Char
  datahome : List Char
  /-- The columns before the command, for the server of a port. -/
  columns : Nat → List Char
  others : List (List Char)

/-- The line of {lit}`ps aux` for the server of a port, as the script starts it. -/
def Setup.line (h : Setup) (port : Nat) : List Char :=
  h.columns port ++ (h.basedir ++ (['/', 'b', 'i', 'n', '/'] ++ (serverName ++
    (" --defaults-file=".toList ++ (h.datahome ++ ('/' :: (Nat.toDigits 10 port ++
      "/my.cnf".toList)))))))

/-- The lines of servers are not dropped by {lit}`grep -v grep`. -/
def Setup.Plain (h : Setup) : Prop :=
  ∀ port, occurs ['g', 'r', 'e', 'p'] (h.line port) = false

/--
What happens on a host: a call of the script for a port, with what its tests of the pid file have
shown so far, and the end of the server of a port.
-/
inductive Event where
  | call (port : Nat) (tests : List Bool)
  | exits (port : Nat)

/-- The ports with a running server after an event, in the order in which they were started. -/
def Setup.event (h : Setup) (ports : List Nat) : Event → List Nat
  | .call port tests =>
      if (startMysql (Nat.toDigits 10 port) (h.others ++ ports.map h.line) tests).started then
        ports ++ [port]
      else ports
  | .exits port => ports.filter (· ≠ port)

/-- The line of a server is selected for every port that is a part of its own. -/
theorem Setup.mysqldLine_line (h : Setup) {p q : Nat}
    (hpart : Nat.toDigits 10 p <:+: Nat.toDigits 10 q) :
    mysqldLine (Nat.toDigits 10 p) (h.line q) = true := by
  have hline : h.line q = (h.columns q ++ (h.basedir ++ ['/', 'b', 'i', 'n', '/'])) ++
      (serverName ++ ((" --defaults-file=".toList ++ (h.datahome ++ ['/'])) ++
        Nat.toDigits 10 q ++ "/my.cnf".toList)) := by
    simp [Setup.line]
  rw [hline]
  exact mysqldLine_of_parts (hpart.trans (List.infix_append _ _ _))

/-- If the script starts a server, the port is not a part of the port of one that runs. -/
theorem Setup.not_part_of_started {h : Setup} (hplain : h.Plain) {ports : List Nat} {p : Nat}
    {tests : List Bool}
    (hstart : (startMysql (Nat.toDigits 10 p) (h.others ++ ports.map h.line) tests).started =
      true) :
    ∀ q ∈ ports, ¬ Nat.toDigits 10 p <:+: Nat.toDigits 10 q := by
  intro q hq hpart
  have hmem : h.line q ∈ (h.others ++ ports.map h.line).filter (fun l =>
      !occurs ['g', 'r', 'e', 'p'] l && mysqldLine (Nat.toDigits 10 p) l) := by
    rw [List.mem_filter]
    exact ⟨List.mem_append_right _ (List.mem_map_of_mem hq), by
      simp [hplain q, h.mysqldLine_line hpart]⟩
  have hsome : running (Nat.toDigits 10 p) (h.others ++ ports.map h.line) ≠ 0 :=
    Nat.ne_of_gt (List.length_pos_of_mem hmem)
  have hcount : ¬ Nat.toDigits 10 (running (Nat.toDigits 10 p) (h.others ++ ports.map h.line)) =
      ['0'] := fun hzero => hsome (toDigits_injective hzero)
  unfold startMysql at hstart
  rw [if_neg (by simp [Nat.toDigits_ne_nil]), if_neg hcount] at hstart
  cases hstart

/--
Over any calls of the script for any ports and ends of servers, the port of a running server is
never a part of the digits of the port of one that was started before it and still runs: a call
for such a port finds its server running already.
-/
theorem started_ports_apart {h : Setup} (hplain : h.Plain) (events : List Event) :
    (run h.event [] events).Pairwise fun q p => ¬ Nat.toDigits 10 p <:+: Nat.toDigits 10 q := by
  refine run_invariant (I := fun ports : List Nat =>
    ports.Pairwise fun q p => ¬ Nat.toDigits 10 p <:+: Nat.toDigits 10 q) ?_ List.Pairwise.nil
    events
  intro ports e hports
  cases e with
  | exits port => exact hports.filter _
  | call port tests =>
      unfold Setup.event
      dsimp only
      split
      · rename_i hstart
        rw [List.pairwise_append]
        refine ⟨hports, List.pairwise_singleton _ _, fun q hq p hp => ?_⟩
        rw [List.mem_singleton.mp hp]
        exact Setup.not_part_of_started hplain hstart q hq
      · exact hports

/-- A host with the directories of the role. -/
def sampleSetup : Setup where
  basedir := ['/', 'u', 's', 'r', '/', 'l', 'o', 'c', 'a', 'l', '/', 'm', 'y', 's', 'q', 'l']
  datahome := ['/', 'd', 'a', 't', 'a', '/', 'm', 'y', 's', 'q', 'l']
  columns := fun _ => ['m', 'y', 's', 'q', 'l', ' ']
  others := []

/-- A call for the port 3306 after one for the port 33060, which still waits. -/
theorem started_ports_apart_sample :
    sampleSetup.Plain ∧
    (run sampleSetup.event [] [.call 33060 [], .call 3306 [true]]).Pairwise
      fun q p => ¬ Nat.toDigits 10 p <:+: Nat.toDigits 10 q := by
  have hplain : sampleSetup.Plain := by
    intro port
    apply occurs_eq_false (c := 'g') (by decide)
    have hdigits : 'g' ∉ Nat.toDigits 10 port := notMem_toDigits (by decide) port
    simp [sampleSetup, Setup.line, serverName, hdigits]
  exact ⟨hplain, started_ports_apart hplain _⟩

end StartMysql
end ClusterPlaybooks
