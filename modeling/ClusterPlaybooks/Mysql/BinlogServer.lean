import ClusterPlaybooks.Text.ByteOrder
import ClusterPlaybooks.Text.Shell

/-!
# Resuming the backup of binary logs

The script {lit}`binlog_server.sh` copies binary logs from a remote server in an endless loop.
Each attempt asks for one file, receives this file and some of the following ones into the
backup directory, and then writes to a log file in the same directory.  The next attempt asks
for the last file of the directory in byte order.  The filter that should leave the log file out
looks for another name.

The numbers of the files are padded to six digits.  So the last name in byte order has the
highest number as long as there are at most six digits, and again for the last ten numbers of
every greater length.

Main results:

- Theorem {lit}`Shape.attempt`: what the directory holds after any history.
- Theorem {lit}`binlogName_le_iff`: name order and number order.
- Theorem {lit}`request_right_iff`: when the loop asks for the right file.
-/

namespace ClusterPlaybooks
namespace Mysql

open Text

/-! ## Names -/

/-- A number padded to at least six digits. -/
def padded (n : Nat) : List Char :=
  List.replicate (6 - digitCount n) '0' ++ Nat.toDigits 10 n

/-- The name of a binary log. -/
def binlogName (n : Nat) : List Char :=
  "mysql-bin.".toList ++ padded n

/-- {lit}`FIRST_BINLOG` -/
def firstBinlog : List Char :=
  "mysql-bin.000001".toList

/-- The name of the file {lit}`BACKUP_LOG`. -/
def backupLog (mysqlPort : Nat) : List Char :=
  "backup_".toList ++ (Nat.toDigits 10 mysqlPort ++ ".log".toList)

/-- The number of a binary log, if the name is one. -/
def binlogNumber (name : List Char) : Option Nat :=
  let n := Nat.ofDigitChars 10 (name.drop 10) 0
  if binlogName n = name then some n else none

/-! ## The loop -/

/-- Words that {lit}`grep -v backuplog` looks for. -/
def backuplogWord (w : List Char) : Bool :=
  occurs "backuplog".toList w

/-- The eight words before the name in a line of {lit}`ls -l`. -/
structure Attributes where
  words : List (List Char)
  length_eq : words.length = 8
  plain : ∀ w ∈ words, backuplogWord w = false

/-- The names in a directory in the order of {lit}`ls`. -/
def ls (dir : List (List Char)) : List (List Char) :=
  dir.insertionSort (· ≤ ·)

/-- The words of the lines of {lit}`ls -l`. -/
def lsLong (attrs : Attributes) (dir : List (List Char)) : List (List (List Char)) :=
  ["total".toList, "0".toList] :: (ls dir).map fun name => attrs.words ++ [name]

/-- The file {lit}`LAST_FILE` an attempt asks for. -/
def lastFile (attrs : Attributes) (dir : List (List Char)) : List Char :=
  if test (lineCount (ls dir)) (· == 0) then firstBinlog
  else
    let lines := (lsLong attrs dir).filter fun line => !line.any backuplogWord
    (lines.getLast?.bind fun words => words[8]?).getD []

/-- How an attempt ends. -/
structure Attempt where
  /-- the number of files that are received -/
  delivered : Nat
  /-- the script gets to write to its log -/
  logged : Bool
deriving DecidableEq, Repr

/-- The files of an attempt; a request for another file delivers nothing. -/
def Attempt.files (a : Attempt) (request : List Char) : List (List Char) :=
  match binlogNumber request with
  | some n => (List.range a.delivered).map fun i => binlogName (n + i)
  | none => []

/-- One turn of the loop. -/
def Attempt.run (mysqlPort : Nat) (attrs : Attributes) (dir : List (List Char)) (a : Attempt) :
    List (List Char) :=
  let received := dir ∪ a.files (lastFile attrs dir)
  if a.logged then received ∪ [backupLog mysqlPort] else received

/--
The directory after some attempts.  A restart of the script leaves the directory as it is; an
attempt it cuts off is one that is not logged.
-/
def backupDir (mysqlPort : Nat) (attrs : Attributes) (attempts : List Attempt) :
    List (List Char) :=
  attempts.foldl (Attempt.run mysqlPort attrs) []

/-- The highest number of the binary logs in a directory. -/
def Highest (dir : List (List Char)) (n : Nat) : Prop :=
  binlogName n ∈ dir ∧ ∀ m, binlogName m ∈ dir → m ≤ n

/--
The right file to ask for: the first one while none has been received, then the one with the
highest number.
-/
def RightRequest (dir : List (List Char)) (request : List Char) : Prop :=
  ((∀ n, binlogName n ∉ dir) → request = firstBinlog) ∧
    ∀ n, Highest dir n → request = binlogName n

/-! ## Names and numbers -/

/-- The number of digits in the name of a file. -/
def nameWidth (n : Nat) : Nat :=
  max 6 (digitCount n)

/-- The padded number has so many digits. -/
theorem padded_eq_fixed (n : Nat) : padded n = fixed (nameWidth n) n := by
  have hwidth : nameWidth n = (6 - digitCount n) + digitCount n := by
    unfold nameWidth
    omega
  rw [padded, hwidth, fixed_eq_zeros (lt_pow_digitCount n), toDigits_eq_fixed]

/-- A number fits into its width. -/
theorem lt_pow_nameWidth (n : Nat) : n < 10 ^ nameWidth n :=
  lt_of_lt_of_le (lt_pow_digitCount n)
    (Nat.pow_le_pow_right (by decide) (Nat.le_max_right 6 (digitCount n)))

/-- Greater numbers are not shorter. -/
theorem nameWidth_mono {m n : Nat} (hle : m ≤ n) : nameWidth m ≤ nameWidth n := by
  have hcount := digitCount_mono hle
  unfold nameWidth
  omega

/-- The name of a file consists of a fixed text and the padded number. -/
theorem binlogName_eq (n : Nat) : binlogName n = "mysql-bin.".toList ++ padded n :=
  rfl

/-- The number of a file is read from its name. -/
theorem binlogNumber_binlogName (n : Nat) : binlogNumber (binlogName n) = some n := by
  have hdrop : (binlogName n).drop 10 = padded n := by
    have hlength : "mysql-bin.".toList.length = 10 := by decide
    rw [binlogName_eq, ← hlength, List.drop_left]
  have hread : Nat.ofDigitChars 10 (padded n) 0 = n := ofDigitChars_zeros _ n
  unfold binlogNumber
  rw [hdrop, hread, if_pos rfl]

/-- Only the names of binary logs have a number. -/
theorem binlogName_of_binlogNumber {name : List Char} {n : Nat}
    (hname : binlogNumber name = some n) : name = binlogName n := by
  simp only [binlogNumber] at hname
  split at hname
  · rename_i heq
    cases hname
    exact heq.symm
  · cases hname

/-- Different files have different names. -/
theorem binlogName_inj {m n : Nat} (heq : binlogName m = binlogName n) : m = n := by
  have hread := congrArg binlogNumber heq
  rw [binlogNumber_binlogName, binlogNumber_binlogName] at hread
  exact Option.some.inj hread

/--
The name of a lower number comes first in byte order exactly if it is not greater than the
first digits of the higher number.
-/
theorem binlogName_le_iff {m n : Nat} (hle : m ≤ n) :
    binlogName m ≤ binlogName n ↔ m ≤ n / 10 ^ (nameWidth n - nameWidth m) := by
  have hwidth := nameWidth_mono hle
  have hsum : nameWidth m + (nameWidth n - nameWidth m) = nameWidth n := by omega
  have hsmall : n / 10 ^ (nameWidth n - nameWidth m) < 10 ^ nameWidth m := by
    rw [Nat.div_lt_iff_lt_mul (Nat.pow_pos (by decide)), ← Nat.pow_add, hsum]
    exact lt_pow_nameWidth n
  have htake := take_fixed (nameWidth m) (nameWidth n - nameWidth m) n
  rw [hsum] at htake
  rw [binlogName_eq, binlogName_eq, append_le_iff, padded_eq_fixed, padded_eq_fixed,
    le_take_iff (by simpa using hwidth), length_fixed, htake,
    fixed_le_iff (lt_pow_nameWidth m) hsmall]

/--
The last name in byte order of all files up to a number is that of the highest number, exactly
if the number has at most six digits or is one of the last ten of its length.
-/
theorem last_name_iff (n : Nat) :
    (∀ m, 1 ≤ m → m ≤ n → binlogName m ≤ binlogName n) ↔
      n ≤ 999999 ∨ 10 ^ digitCount n ≤ n + 10 := by
  have hsix : digitCount n ≤ 6 ↔ n ≤ 999999 := by
    rw [digitCount_le_iff (by decide)]
    omega
  constructor
  · intro hlast
    by_cases hsmall : n ≤ 999999
    · exact Or.inl hsmall
    · right
      have hcount : ¬digitCount n ≤ 6 := fun hle => hsmall (hsix.mp hle)
      rcases Nat.exists_eq_add_of_lt (Nat.lt_of_not_le hcount) with ⟨d, hd⟩
      -- the greatest number with one digit less
      have hpow : 10 ^ (6 + d) ≤ n := pow_le_of_digitCount hd (by omega)
      have hone : 10 ^ 6 ≤ 10 ^ (6 + d) := Nat.pow_le_pow_right (by decide) (by omega)
      have hle : 10 ^ (6 + d) - 1 ≤ n := by omega
      have hname := (binlogName_le_iff hle).mp (hlast _ (by omega) hle)
      have hshort : digitCount (10 ^ (6 + d) - 1) ≤ 6 + d := by
        rw [digitCount_le_iff (by omega)]
        omega
      have hwidth : 1 ≤ nameWidth n - nameWidth (10 ^ (6 + d) - 1) := by
        unfold nameWidth
        omega
      have hten : 10 ^ 1 ≤ 10 ^ (nameWidth n - nameWidth (10 ^ (6 + d) - 1)) :=
        Nat.pow_le_pow_right (by decide) hwidth
      have hdiv : n / 10 ^ (nameWidth n - nameWidth (10 ^ (6 + d) - 1)) ≤ n / 10 :=
        Nat.div_le_div_left hten (by decide)
      rw [hd, Nat.pow_succ]
      omega
  · intro hcond m hm hle
    rw [binlogName_le_iff hle]
    by_cases hsame : nameWidth m = nameWidth n
    · simpa [hsame] using hle
    · have hwidth := nameWidth_mono hle
      have hlong : nameWidth n = digitCount n ∧ ¬n ≤ 999999 := by
        rw [← hsix]
        unfold nameWidth at hsame hwidth ⊢
        omega
      have hpow : 10 ^ digitCount n ≤ n + 10 := hcond.resolve_left hlong.2
      have hten : 10 ^ 1 ≤ 10 ^ (nameWidth n - nameWidth m) :=
        Nat.pow_le_pow_right (by decide) (by omega)
      have hsum : 10 ^ nameWidth m * 10 ^ (nameWidth n - nameWidth m) = 10 ^ digitCount n := by
        rw [← Nat.pow_add, ← hlong.1]
        congr 1
        omega
      have hfits : m + 1 ≤ 10 ^ nameWidth m := lt_pow_nameWidth m
      have hmul : (m + 1) * 10 ^ (nameWidth n - nameWidth m) ≤ 10 ^ digitCount n := by
        rw [← hsum]
        exact Nat.mul_le_mul_right _ hfits
      rw [Nat.le_div_iff_mul_le (Nat.pow_pos (by decide))]
      rw [Nat.add_mul, Nat.one_mul] at hmul
      omega

/-! ## The backup directory -/

variable {mysqlPort : Nat} {attrs : Attributes} {dir : List (List Char)}

/-- The name of the log file. -/
theorem backupLog_eq : backupLog mysqlPort =
    "backup_".toList ++ (Nat.toDigits 10 mysqlPort ++ ".log".toList) :=
  rfl

/-- The log file is not a binary log. -/
theorem backupLog_ne (n : Nat) : backupLog mysqlPort ≠ binlogName n := by
  intro heq
  have hhead := congrArg List.head? heq
  have hb : (backupLog mysqlPort).head? = some 'b' := rfl
  have hm : (binlogName n).head? = some 'm' := rfl
  rw [hb, hm] at hhead
  exact absurd hhead (by decide)

/-- It comes before all of them. -/
theorem backupLog_lt (n : Nat) : backupLog mysqlPort < binlogName n := by
  have hb : backupLog mysqlPort = 'b' :: (backupLog mysqlPort).tail := rfl
  have hm : binlogName n = 'm' :: (binlogName n).tail := rfl
  rw [hb, hm, cons_lt_iff]
  exact Or.inl (by decide)

/-- The filter leaves the log file in. -/
theorem backuplogWord_backupLog : backuplogWord (backupLog mysqlPort) = false := by
  have hpat : "backuplog".toList = "backup".toList ++ "log".toList := by decide
  have hname : backupLog mysqlPort = 'b' :: (backupLog mysqlPort).tail := rfl
  have hb : 'b' ∉ (backupLog mysqlPort).tail := by
    intro hb
    have hdigit : 'b' ∈ Nat.toDigits 10 mysqlPort := by
      rw [backupLog_eq] at hb
      simpa using hb
    exact notMem_toDigits (by decide) _ hdigit
  have hstart : ¬"backuplog".toList <+: backupLog mysqlPort := by
    have hsplit : backupLog mysqlPort =
        "backup".toList ++ '_' :: (Nat.toDigits 10 mysqlPort ++ ".log".toList) := by
      rw [backupLog_eq]
      simp
    rw [hpat, hsplit, List.prefix_append_right_inj]
    simp
  rw [backuplogWord, Bool.eq_false_iff, Ne, occurs_iff, hname, List.infix_cons_iff, ← hname,
    not_or]
  exact ⟨hstart, fun hpart => hb (hpart.subset (by simp))⟩

/-- It leaves the binary logs in as well. -/
theorem backuplogWord_binlogName (n : Nat) : backuplogWord (binlogName n) = false := by
  have hk : 'k' ∉ binlogName n := by
    intro hk
    have hdigit : 'k' ∈ Nat.toDigits 10 n := by
      rw [binlogName_eq, padded] at hk
      simpa [List.mem_replicate] using hk
    exact notMem_toDigits (by decide) _ hdigit
  exact occurs_eq_false (by simp) hk

/-- In an empty directory the first file is asked for. -/
theorem lastFile_nil : lastFile attrs [] = firstBinlog := by
  simp [lastFile, ls]

/-- Otherwise the last name in byte order is, unless the filter leaves a file out. -/
theorem lastFile_of_ne_nil (attrs : Attributes) (hne : dir ≠ [])
    (hplain : ∀ name ∈ dir, backuplogWord name = false) :
    lastFile attrs dir ∈ dir ∧ ∀ other ∈ dir, other ≤ lastFile attrs dir := by
  rcases getLast_insertionSort hne with ⟨name, hmem, hlast, hmax⟩
  have hfile : lastFile attrs dir = name := by
    have hcount : test (lineCount (ls dir)) (· == 0) = false := by
      have hlen : (ls dir).length = dir.length := List.length_insertionSort _ _
      have hpos := List.length_pos_of_ne_nil hne
      rw [test_lineCount, hlen, beq_eq_false_iff_ne]
      omega
    have hfilter : (lsLong attrs dir).filter (fun line => !line.any backuplogWord) =
        lsLong attrs dir := by
      rw [List.filter_eq_self]
      intro line hline
      rcases List.mem_cons.mp hline with rfl | hline
      · decide
      · rcases List.mem_map.mp hline with ⟨other, hother, rfl⟩
        have hin : other ∈ dir := (List.perm_insertionSort _ dir).mem_iff.mp hother
        have hwords : attrs.words.any backuplogWord = false := by
          rw [List.any_eq_false]
          intro w hw
          simp [attrs.plain w hw]
        rw [List.any_append, hwords, List.any_cons, List.any_nil, hplain other hin]
        rfl
    have hline : (lsLong attrs dir).getLast? = some (attrs.words ++ [name]) := by
      have hls : (ls dir).getLast? = some name := hlast
      rw [lsLong, List.getLast?_cons, List.getLast?_map, hls]
      rfl
    have hword : (attrs.words ++ [name])[8]? = some name := by
      rw [List.getElem?_append_right (by rw [attrs.length_eq]), attrs.length_eq]
      rfl
    simp only [lastFile, hcount, Bool.false_eq_true, if_false, hfilter, hline, Option.bind_some,
      hword, Option.getD_some]
  rw [hfile]
  exact ⟨hmem, hmax⟩

/-- The directory holds the binary logs up to a number, and possibly the log file. -/
structure Shape (mysqlPort : Nat) (dir : List (List Char)) (n : Nat) : Prop where
  names : ∀ name ∈ dir,
    name = backupLog mysqlPort ∨ ∃ m, 1 ≤ m ∧ m ≤ n ∧ name = binlogName m
  received : ∀ m, 1 ≤ m → m ≤ n → binlogName m ∈ dir

/-- The filter leaves all these files in. -/
theorem Shape.plain {n : Nat} (hs : Shape mysqlPort dir n) :
    ∀ name ∈ dir, backuplogWord name = false := by
  intro name hname
  rcases hs.names name hname with rfl | ⟨m, _, _, rfl⟩
  · exact backuplogWord_backupLog
  · exact backuplogWord_binlogName m

/-- The binary logs in the directory. -/
theorem Shape.mem_iff {n m : Nat} (hs : Shape mysqlPort dir n) :
    binlogName m ∈ dir ↔ 1 ≤ m ∧ m ≤ n := by
  constructor
  · intro hmem
    rcases hs.names _ hmem with hlog | ⟨k, hk, hle, heq⟩
    · exact absurd hlog.symm (backupLog_ne m)
    · rw [binlogName_inj heq]
      exact ⟨hk, hle⟩
  · exact fun hm => hs.received m hm.1 hm.2

/-- The number of the file an attempt asks for is not beyond the next one. -/
theorem Shape.request {n m : Nat} (hs : Shape mysqlPort dir n)
    (hrequest : binlogNumber (lastFile attrs dir) = some m) : 1 ≤ m ∧ m ≤ n + 1 := by
  have hname := binlogName_of_binlogNumber hrequest
  by_cases hne : dir = []
  · subst hne
    have hfirst : firstBinlog = binlogName 1 := by decide
    rw [lastFile_nil, hfirst] at hname
    have hone := binlogName_inj hname
    omega
  · have hmem := (lastFile_of_ne_nil attrs hne hs.plain).1
    rw [hname, hs.mem_iff] at hmem
    omega

/-- An attempt keeps this shape. -/
theorem Shape.attempt {n : Nat} (hs : Shape mysqlPort dir n) (a : Attempt) :
    ∃ n', Shape mysqlPort (a.run mysqlPort attrs dir) n' := by
  have hfiles : ∃ n', Shape mysqlPort (dir ∪ a.files (lastFile attrs dir)) n' := by
    cases hnumber : binlogNumber (lastFile attrs dir) with
    | none =>
        have hnil : dir ∪ a.files (lastFile attrs dir) = dir ∪ [] := by
          rw [Attempt.files, hnumber]
        rw [hnil]
        refine ⟨n, fun name hname => hs.names name (by simpa using hname), fun m hm hle => ?_⟩
        simpa using hs.received m hm hle
    | some first =>
        have hfirst := hs.request hnumber
        have hmem : ∀ name, name ∈ a.files (lastFile attrs dir) ↔
            ∃ i < a.delivered, name = binlogName (first + i) := by
          intro name
          simp [Attempt.files, hnumber, eq_comm]
        refine ⟨max n (first + a.delivered - 1), ?_, ?_⟩
        · intro name hname
          rcases List.mem_union_iff.mp hname with hold | hnew
          · rcases hs.names name hold with hlog | ⟨m, hm, hle, heq⟩
            · exact Or.inl hlog
            · exact Or.inr ⟨m, hm, by omega, heq⟩
          · rcases (hmem name).mp hnew with ⟨i, hi, heq⟩
            exact Or.inr ⟨first + i, by omega, by omega, heq⟩
        · intro m hm hle
          by_cases hold : m ≤ n
          · exact List.mem_union_iff.mpr (Or.inl (hs.received m hm hold))
          · refine List.mem_union_iff.mpr (Or.inr ((hmem _).mpr ⟨m - first, by omega, ?_⟩))
            congr 1
            omega
  rcases hfiles with ⟨n', hs'⟩
  refine ⟨n', ?_⟩
  unfold Attempt.run
  split
  · refine ⟨fun name hname => ?_, fun m hm hle => ?_⟩
    · rcases List.mem_union_iff.mp hname with hold | hlog
      · exact hs'.names name hold
      · exact Or.inl (List.mem_singleton.mp hlog)
    · exact List.mem_union_iff.mpr (Or.inl (hs'.received m hm hle))
  · exact hs'

/-- After any history the directory has this shape. -/
theorem exists_shape (attempts : List Attempt) :
    ∃ n, Shape mysqlPort (backupDir mysqlPort attrs attempts) n := by
  have hrun : ∀ (attempts : List Attempt) (dir : List (List Char)),
      (∃ n, Shape mysqlPort dir n) →
      ∃ n, Shape mysqlPort (attempts.foldl (Attempt.run mysqlPort attrs) dir) n := by
    intro attempts
    induction attempts with
    | nil => exact fun _ hs => hs
    | cons a attempts ih =>
        rintro dir ⟨n, hs⟩
        exact ih _ (hs.attempt a)
  exact hrun attempts [] ⟨0, by simp, by intro m hm hle; omega⟩

/-! ## Which file is asked for -/

/-- While no binary log has been received the right file is asked for in an empty directory. -/
theorem Shape.request_none (hs : Shape mysqlPort dir 0) :
    lastFile attrs dir = firstBinlog ↔ backupLog mysqlPort ∉ dir := by
  by_cases hne : dir = []
  · subst hne
    simp [lastFile_nil]
  · have hlog : ∀ name ∈ dir, name = backupLog mysqlPort := by
      intro name hname
      rcases hs.names name hname with hlog | ⟨m, hm, hle, _⟩
      · exact hlog
      · omega
    have hmem := (lastFile_of_ne_nil attrs hne hs.plain).1
    have hfirst : firstBinlog = binlogName 1 := by decide
    have hwrong : lastFile attrs dir ≠ firstBinlog := by
      rw [hlog _ hmem, hfirst]
      exact backupLog_ne 1
    rw [hlog _ hmem] at hmem
    exact ⟨fun heq => absurd heq hwrong, fun hnot => absurd hmem hnot⟩

/-- Afterwards it is asked for while its name comes last in byte order. -/
theorem Shape.request_some {n : Nat} (hs : Shape mysqlPort dir n) (hn : 1 ≤ n) :
    lastFile attrs dir = binlogName n ↔ ∀ m, 1 ≤ m → m ≤ n → binlogName m ≤ binlogName n := by
  have hmem : binlogName n ∈ dir := hs.received n hn (Nat.le_refl n)
  rcases lastFile_of_ne_nil attrs (List.ne_nil_of_mem hmem) hs.plain with
    ⟨hlast, hmax⟩
  constructor
  · intro heq m hm hle
    rw [← heq]
    exact hmax _ (hs.received m hm hle)
  · intro hall
    have hge := hmax _ hmem
    rcases hs.names _ hlast with hlog | ⟨k, hk, hle, heq⟩
    · -- the log file comes before all binary logs
      rw [hlog] at hge
      exact absurd (backupLog_lt n) (not_lt_of_ge hge)
    · rw [heq] at hge ⊢
      exact le_antisymm (hall k hk hle) hge

/--
At every attempt of every history the script asks for the right file exactly if a binary log
has been received or the log file was not written yet, and the highest number has at most six
digits or is one of the last ten of its length.
-/
theorem request_right_iff (mysqlPort : Nat) (attrs : Attributes) (attempts : List Attempt) :
    RightRequest (backupDir mysqlPort attrs attempts)
        (lastFile attrs (backupDir mysqlPort attrs attempts)) ↔
      (backupLog mysqlPort ∈ backupDir mysqlPort attrs attempts →
        ∃ n, binlogName n ∈ backupDir mysqlPort attrs attempts) ∧
      ∀ n, Highest (backupDir mysqlPort attrs attempts) n →
        n ≤ 999999 ∨ 10 ^ digitCount n ≤ n + 10 := by
  have hshape : ∃ n, Shape mysqlPort (backupDir mysqlPort attrs attempts) n :=
    exists_shape attempts
  generalize backupDir mysqlPort attrs attempts = dir at hshape
  rcases hshape with ⟨n, hs⟩
  by_cases hn : 1 ≤ n
  · have hmem : binlogName n ∈ dir := hs.received n hn (Nat.le_refl n)
    have hhighest : ∀ m, Highest dir m ↔ m = n := by
      intro m
      constructor
      · intro hm
        have hle := (hs.mem_iff.mp hm.1).2
        exact Nat.le_antisymm hle (hm.2 n hmem)
      · rintro rfl
        exact ⟨hmem, fun k hk => (hs.mem_iff.mp hk).2⟩
    have hright : RightRequest dir (lastFile attrs dir) ↔ lastFile attrs dir = binlogName n := by
      constructor
      · exact fun hr => hr.2 n ((hhighest n).mpr rfl)
      · refine fun heq => ⟨fun hnone => absurd hmem (hnone n), fun m hm => ?_⟩
        rw [(hhighest m).mp hm]
        exact heq
    rw [hright, hs.request_some hn, last_name_iff]
    constructor
    · refine fun hcond => ⟨fun _ => ⟨n, hmem⟩, fun m hm => ?_⟩
      rw [(hhighest m).mp hm]
      exact hcond
    · exact fun hcond => hcond.2 n ((hhighest n).mpr rfl)
  · have hzero : n = 0 := by omega
    subst hzero
    have hnone : ∀ m, binlogName m ∉ dir := by
      intro m hm
      have hle := hs.mem_iff.mp hm
      omega
    have hright : RightRequest dir (lastFile attrs dir) ↔ lastFile attrs dir = firstBinlog := by
      constructor
      · exact fun hr => hr.1 hnone
      · exact fun heq => ⟨fun _ => heq, fun m hm => absurd hm.1 (hnone m)⟩
    rw [hright, hs.request_none]
    constructor
    · exact fun hnot => ⟨fun hlog => absurd hlog hnot, fun m hm => absurd hm.1 (hnone m)⟩
    · intro hcond hlog
      rcases hcond.1 hlog with ⟨m, hm⟩
      exact hnone m hm

/-- The words before the names of a backup directory. -/
def rootAttributes : Attributes where
  words := ["-rw-r-----".toList, "1".toList, "root".toList, "root".toList, "177".toList,
    "Nov".toList, "10".toList, "03:12".toList]
  length_eq := rfl
  plain := by decide

/-- After an attempt that receives nothing the script asks for its own log file. -/
theorem failed_first_attempt :
    lastFile rootAttributes (backupDir 3306 rootAttributes [⟨0, true⟩]) =
        "backup_3306.log".toList ∧
      ¬RightRequest (backupDir 3306 rootAttributes [⟨0, true⟩])
        (lastFile rootAttributes (backupDir 3306 rootAttributes [⟨0, true⟩])) := by
  have hfile : lastFile rootAttributes (backupDir 3306 rootAttributes [⟨0, true⟩]) =
      "backup_3306.log".toList := by
    decide +kernel
  refine ⟨hfile, fun hright => ?_⟩
  have hdir : backupDir 3306 rootAttributes [⟨0, true⟩] = [backupLog 3306] := by decide +kernel
  have hfirst := hright.1 fun n hn => by
    rw [hdir] at hn
    exact backupLog_ne n (List.mem_singleton.mp hn).symm
  rw [hfile] at hfirst
  exact absurd hfirst (by decide)

end Mysql
end ClusterPlaybooks
