import ClusterPlaybooks.Text.Python
import Mathlib.Data.List.Induction
import Mathlib.Logic.Function.Basic

/-!
# The JMX metric collector

A run of the collector empties the log files of a fixed list of JMX domains.  Then four threads
work at the same time: one asks the queries of the input file and appends a record for every
metric to the log file of its domain, and three overwrite the files {lit}`cpu.log`,
{lit}`memory.log` and {lit}`disk.log`.

Main results:

- Theorem {lit}`jmxRecords_execute`: what the threads leave in a file that only the first one
  writes.
- Theorem {lit}`lastCollection_of_lossless`: one run from files without records.
- Theorem {lit}`shows_last_collection_iff`: the files show exactly the last collection after
  every run and for every order of the threads exactly under a condition on the metrics.
-/

namespace ClusterPlaybooks
namespace JmxCollector

open Text

variable {V : Type}

/-! ## Metrics and records -/

/-- A metric that JMX returns.  Its domain has no colon, its other part may have some. -/
structure Metric (V : Type) where
  domain : List Char
  name : List Char
  value : V
  domain_plain : ':' ∉ domain

/-- {lit}`to_query_string`: domain, colon, properties and attribute. -/
def Metric.toQueryString (m : Metric V) : List Char :=
  m.domain ++ ':' :: m.name

/-- A record of a metric. -/
structure Record (V : Type) where
  timestamp : List Char
  domainName : List Char
  environment : List Char
  queryName : List Char
  queryValue : V
deriving DecidableEq

/-- A record of the processor, the memory or the disk. -/
structure HostRecord where
  timestamp : List Char
  domainName : List Char
  environment : List Char
deriving DecidableEq

/-- What stands in a log file. -/
inductive Entry (V : Type) where
  | jmx (r : Record V)
  | host (h : HostRecord)
deriving DecidableEq

/-- The record of an entry, if it is one of a metric. -/
def Entry.record? : Entry V → Option (Record V)
  | .jmx r => some r
  | .host _ => none

/-- The records of metrics in a file. -/
def jmxRecords (entries : List (Entry V)) : List (Record V) :=
  entries.filterMap Entry.record?

/-- One collection: a line of the input file comes with the metrics that its query returns. -/
structure Collection (V : Type) where
  environment : List Char
  cTimeNow : List Char
  inputFile : List (List Char × List (Metric V))

/-- The query of a line is asked unless the line is a comment or blank. -/
def asked (query : List Char) : Bool :=
  !"#".toList.isPrefixOf (strip query) && 0 < (strip query).length

/-- The metrics of a collection, in the order in which they are returned. -/
def Collection.metrics (c : Collection V) : List (Metric V) :=
  (c.inputFile.filter fun query => asked query.1).flatMap Prod.snd

/-- The record of a metric: the parts of its query string before and after the first colon. -/
def Collection.record (c : Collection V) (m : Metric V) : Record V where
  timestamp := c.cTimeNow
  domainName := (m.toQueryString.splitOn ':').getD 0 []
  environment := c.environment
  queryName := (m.toQueryString.splitOn ':').getD 1 []
  queryValue := m.value

/-! ## Log files -/

/-- The log files, by their paths. -/
abbrev Logs (V : Type) := List Char → List (Entry V)

/-- The log file of a domain. -/
def logFile (logDir domainName : List Char) : List Char :=
  logDir ++ domainName ++ ".log".toList

/-- The domains whose files are emptied. -/
def domainNameList : List (List Char) :=
  ["java.lang".toList, "kafka.controller".toList, "kafka.log".toList, "kafka.network".toList,
    "kafka.server".toList, "kafka.utils".toList]

/-- {lit}`cleanUpFiles`. -/
def cleanUpFiles (logDir : List Char) (logs : Logs V) : Logs V :=
  domainNameList.foldl (fun logs d => Function.update logs (logFile logDir d) []) logs

/-- A step of a thread.  To open a file for writing and to write it is one step. -/
inductive Op (V : Type) where
  | append (r : Record V)
  | overwrite (h : HostRecord)

/-- The file of the step. -/
def Op.domainName : Op V → List Char
  | .append r => r.domainName
  | .overwrite h => h.domainName

/-- The step belongs to the thread that asks the queries. -/
def Op.isAppend : Op V → Bool
  | .append _ => true
  | .overwrite _ => false

/-- The effect of a step on the contents of its file. -/
def Op.edit : Op V → List (Entry V) → List (Entry V)
  | .append r, entries => entries ++ [.jmx r]
  | .overwrite h, _ => [.host h]

/-- The effect of a step. -/
def Op.apply (logDir : List Char) (logs : Logs V) (op : Op V) : Logs V :=
  Function.update logs (logFile logDir op.domainName)
    (op.edit (logs (logFile logDir op.domainName)))

/-- The steps of a collection one after the other. -/
def execute (logDir : List Char) (logs : Logs V) (ops : List (Op V)) : Logs V :=
  ops.foldl (Op.apply logDir) logs

/-- The steps of {lit}`getMetric`. -/
def Collection.getMetric (c : Collection V) : List (Op V) :=
  c.metrics.map fun m => .append (c.record m)

/-- The files that the other threads write. -/
def hostDomains : List (List Char) :=
  ["cpu".toList, "memory".toList, "disk".toList]

/-- The steps of {lit}`getCpuMetric`, {lit}`getMemoryMetric` and {lit}`getStorageMetric`. -/
def Collection.hostMetrics (c : Collection V) : List (Op V) :=
  hostDomains.map fun d => .overwrite ⟨c.cTimeNow, d, c.environment⟩

/-- A run: a collection and an order of the steps of its threads. -/
structure Run (V : Type) where
  collection : Collection V
  ops : List (Op V)
  /-- Every step is made once. -/
  complete : ops.Perm (collection.getMetric ++ collection.hostMetrics)
  /-- The steps of the first thread keep their order. -/
  ordered : ops.filter Op.isAppend = collection.getMetric

/-- The log files after a run. -/
def Run.finish (logDir : List Char) (logs : Logs V) (r : Run V) : Logs V :=
  execute logDir (cleanUpFiles logDir logs) r.ops

/-- The log files after runs, at first there are none. -/
def after (logDir : List Char) (runs : List (Run V)) : Logs V :=
  runs.foldl (Run.finish logDir) fun _ => []

/-! ## What the files should show -/

/-- The records of the metrics of a domain. -/
def Collection.recordsOf (c : Collection V) (d : List Char) : List (Record V) :=
  (c.metrics.filter fun m => m.domain == d).map c.record

/-- The files show exactly a collection. -/
structure LastCollection (logDir : List Char) (logs : Logs V) (c : Collection V) : Prop where
  /-- Every file holds one record for each metric of its domain and no other. -/
  exact : ∀ d, jmxRecords (logs (logFile logDir d)) = c.recordsOf d
  /-- Every record gives the whole query string. -/
  whole : ∀ m ∈ c.metrics,
    (c.record m).domainName ++ ':' :: (c.record m).queryName = m.toQueryString
  /-- Metrics with different query strings have different records. -/
  distinct : ∀ m ∈ c.metrics, ∀ m' ∈ c.metrics, m.toQueryString ≠ m'.toQueryString →
    c.record m ≠ c.record m'

/-- The metric has a record of its own that no other thread destroys. -/
def Metric.Lossless (m : Metric V) : Prop :=
  ':' ∉ m.name ∧ m.domain ∉ hostDomains

/-! ## Query strings -/

/-- The first part of a text is the whole text exactly if it has no separator. -/
theorem getD_splitOn_iff {sep : Char} {w : List Char} :
    (w.splitOn sep).getD 0 [] = w ↔ sep ∉ w := by
  constructor
  · intro hfirst hmem
    rcases List.eq_append_cons_of_mem hmem with ⟨u, v, rfl, hu⟩
    rw [List.splitOn_append_cons_self_of_not_mem hu] at hfirst
    have hlen := congrArg List.length hfirst
    simp at hlen
  · intro hnot
    rw [List.splitOn_eq_singleton hnot]
    rfl

/-- The parts of a query string are the domain and the parts of the rest. -/
theorem splitOn_toQueryString (m : Metric V) :
    m.toQueryString.splitOn ':' = m.domain :: m.name.splitOn ':' :=
  List.splitOn_append_cons_self_of_not_mem m.domain_plain m.name

/-- The record has the domain of the metric. -/
@[simp]
theorem record_domainName (c : Collection V) (m : Metric V) :
    (c.record m).domainName = m.domain := by
  simp [Collection.record, splitOn_toQueryString]

/-- The record gives the whole query string exactly if there is only one colon. -/
theorem record_whole_iff (c : Collection V) (m : Metric V) :
    (c.record m).domainName ++ ':' :: (c.record m).queryName = m.toQueryString ↔
      ':' ∉ m.name := by
  have hname : (c.record m).queryName = (m.name.splitOn ':').getD 0 [] := by
    simp [Collection.record, splitOn_toQueryString]
  rw [record_domainName, Metric.toQueryString, List.append_cancel_left_eq, List.cons_eq_cons,
    hname, getD_splitOn_iff]
  simp

/-! ## What the steps leave in a file -/

section Files

variable {logDir d : List Char} {logs : Logs V} {ops : List (Op V)} {op : Op V}

/-- Different domains have different files. -/
theorem logFile_inj {d e : List Char} : logFile logDir d = logFile logDir e ↔ d = e := by
  simp [logFile]

/-- The listed files are emptied, the others are left alone. -/
theorem cleanUpFiles_logFile :
    cleanUpFiles logDir logs (logFile logDir d) =
      if d ∈ domainNameList then [] else logs (logFile logDir d) := by
  unfold cleanUpFiles
  generalize domainNameList = names
  induction names generalizing logs with
  | nil => rfl
  | cons name names ih =>
      rw [List.foldl_cons, ih]
      by_cases hmem : d ∈ names
      · rw [if_pos hmem, if_pos (List.mem_cons_of_mem name hmem)]
      · rw [if_neg hmem]
        by_cases hname : d = name
        · rw [hname, Function.update_self, if_pos List.mem_cons_self]
        · rw [Function.update_of_ne (fun heq => hname (logFile_inj.mp heq)), if_neg]
          rintro (_ | hlater)
          · exact hname rfl
          · exact hmem ‹_›

/-- A step changes the file of its domain. -/
theorem apply_logFile :
    op.apply logDir logs (logFile logDir d) =
      if op.domainName = d then op.edit (logs (logFile logDir d)) else logs (logFile logDir d) := by
  rw [Op.apply]
  by_cases hd : op.domainName = d
  · rw [if_pos hd, hd, Function.update_self]
  · rw [if_neg hd, Function.update_of_ne fun heq => hd (logFile_inj.mp heq).symm]

@[simp]
theorem execute_cons :
    execute logDir logs (op :: ops) = execute logDir (op.apply logDir logs) ops :=
  rfl

/-- The records that the steps append to the file of a domain. -/
def appended (d : List Char) (ops : List (Op V)) : List (Record V) :=
  ops.filterMap fun
    | .append r => if r.domainName = d then some r else none
    | .overwrite _ => none

@[simp]
theorem appended_cons_append (r : Record V) :
    appended d (.append r :: ops) =
      (if r.domainName = d then [r] else []) ++ appended d ops := by
  by_cases hd : r.domainName = d
  · simp [appended, hd]
  · simp [appended, hd]

@[simp]
theorem appended_cons_overwrite (h : HostRecord) :
    appended d (.overwrite h :: ops) = appended d ops :=
  rfl

/-- Only the steps of the first thread append. -/
theorem appended_filter : appended d (ops.filter Op.isAppend) = appended d ops := by
  induction ops with
  | nil => rfl
  | cons op ops ih =>
      cases op with
      | append r =>
          rw [List.filter_cons_of_pos (by rfl), appended_cons_append, appended_cons_append, ih]
      | overwrite h =>
          rw [List.filter_cons_of_neg (by simp [Op.isAppend]), appended_cons_overwrite, ih]

/-- The records appended for a collection. -/
theorem appended_getMetric (c : Collection V) : appended d c.getMetric = c.recordsOf d := by
  unfold appended Collection.getMetric Collection.recordsOf
  induction c.metrics with
  | nil => rfl
  | cons m ms ih =>
      by_cases hd : m.domain = d
      · simp [hd, ih]
      · simp [hd, ih]

/-- In a file that is not overwritten the records are added to those before. -/
theorem jmxRecords_execute
    (hkept : ∀ op ∈ ops, op.isAppend = false → op.domainName ≠ d) :
    jmxRecords (execute logDir logs ops (logFile logDir d)) =
      jmxRecords (logs (logFile logDir d)) ++ appended d ops := by
  induction ops generalizing logs with
  | nil => simp [execute, appended]
  | cons op ops ih =>
      rw [execute_cons, ih fun o ho => hkept o (List.mem_cons_of_mem op ho), apply_logFile]
      cases op with
      | append r =>
          by_cases hd : r.domainName = d
          · simp [Op.domainName, Op.edit, hd, jmxRecords, Entry.record?]
          · simp [Op.domainName, hd]
      | overwrite h =>
          have hd : h.domainName ≠ d := hkept _ List.mem_cons_self rfl
          simp [Op.domainName, hd]

/-- A file without records to which nothing is appended stays without records. -/
theorem jmxRecords_execute_nil (hno : appended d ops = [])
    (hstart : jmxRecords (logs (logFile logDir d)) = []) :
    jmxRecords (execute logDir logs ops (logFile logDir d)) = [] := by
  induction ops generalizing logs with
  | nil => exact hstart
  | cons op ops ih =>
      rw [execute_cons]
      cases op with
      | append r =>
          have hd : r.domainName ≠ d := by
            intro heq
            simp [heq] at hno
          refine ih ?_ ?_
          · simpa [hd] using hno
          · rw [apply_logFile, if_neg (by exact hd), hstart]
      | overwrite h =>
          apply ih hno
          rw [apply_logFile]
          split
          · rfl
          · exact hstart

/-- A file that is overwritten, with nothing appended to it, has no records. -/
theorem jmxRecords_overwritten (hno : appended d ops = []) (hd : d ∈ ops.map Op.domainName)
    (hops : ∀ op ∈ ops, op.isAppend = false) :
    jmxRecords (execute logDir logs ops (logFile logDir d)) = [] := by
  induction ops generalizing logs with
  | nil => simp at hd
  | cons op ops ih =>
      have hover := hops op List.mem_cons_self
      cases op with
      | append r => simp [Op.isAppend] at hover
      | overwrite h =>
          rw [appended_cons_overwrite] at hno
          rw [execute_cons]
          by_cases hhere : h.domainName = d
          · apply jmxRecords_execute_nil hno
            rw [apply_logFile, if_pos (by exact hhere)]
            rfl
          · refine ih hno ?_ fun o ho => hops o (List.mem_cons_of_mem _ ho)
            rcases List.mem_cons.mp hd with heq | hlater
            · exact absurd heq.symm hhere
            · exact hlater

end Files

/-! ## One run -/

section OneRun

variable {logDir d : List Char} {logs : Logs V} {r : Run V} {c : Collection V} {m : Metric V}

/-- The records a run appends to the file of a domain. -/
theorem appended_ops (r : Run V) : appended d r.ops = r.collection.recordsOf d := by
  rw [← appended_filter, r.ordered, appended_getMetric]

/-- The other threads overwrite only their own files. -/
theorem domainName_of_not_append (r : Run V) {op : Op V} (hop : op ∈ r.ops)
    (happend : op.isAppend = false) : op.domainName ∈ hostDomains := by
  rcases List.mem_append.mp (r.complete.mem_iff.mp hop) with hmetric | hhost
  · rcases List.mem_map.mp hmetric with ⟨m, _, rfl⟩
    simp [Op.isAppend] at happend
  · rcases List.mem_map.mp hhost with ⟨e, he, rfl⟩
    exact he

/-- A domain has a record exactly if it has a metric. -/
theorem recordsOf_eq_nil_iff : c.recordsOf d = [] ↔ ∀ m ∈ c.metrics, m.domain ≠ d := by
  simp [Collection.recordsOf]

/-- The records in a file of no other thread after a run. -/
theorem jmxRecords_finish (r : Run V) (hd : d ∉ hostDomains) :
    jmxRecords (r.finish logDir logs (logFile logDir d)) =
      jmxRecords (cleanUpFiles logDir logs (logFile logDir d)) ++ r.collection.recordsOf d := by
  rw [Run.finish, jmxRecords_execute, appended_ops]
  intro op hop happend heq
  exact hd (heq ▸ domainName_of_not_append r hop happend)

/-- A run that starts without records shows its collection, if its metrics are lossless. -/
theorem lastCollection_of_lossless
    (hstart : ∀ d, jmxRecords (cleanUpFiles logDir logs (logFile logDir d)) = [])
    (hlossless : ∀ m ∈ r.collection.metrics, m.Lossless) :
    LastCollection logDir (r.finish logDir logs) r.collection := by
  have hwhole : ∀ m ∈ r.collection.metrics,
      (r.collection.record m).domainName ++ ':' :: (r.collection.record m).queryName =
        m.toQueryString := fun m hm =>
    (record_whole_iff r.collection m).mpr (hlossless m hm).1
  refine ⟨fun d => ?_, hwhole, fun m hm m' hm' hne heq => hne ?_⟩
  · by_cases hd : d ∈ hostDomains
    · have hno : r.collection.recordsOf d = [] := by
        rw [recordsOf_eq_nil_iff]
        rintro m hm rfl
        exact (hlossless m hm).2 hd
      rw [hno]
      exact jmxRecords_execute_nil (by rw [appended_ops, hno]) (hstart d)
    · rw [jmxRecords_finish r hd, hstart d, List.nil_append]
  · rw [← hwhole m hm, ← hwhole m' hm', heq]

end OneRun

/-! ## Any number of runs -/

section Runs

variable {logDir d : List Char} {runs : List (Run V)} {cs : List (Collection V)}

/-- One more run. -/
theorem after_concat (runs : List (Run V)) (r : Run V) :
    after logDir (runs ++ [r]) = r.finish logDir (after logDir runs) := by
  simp [after]

/-- After runs whose metrics belong to listed domains no other file has records. -/
theorem jmxRecords_after (hlossless : ∀ r ∈ runs, ∀ m ∈ r.collection.metrics, m.Lossless)
    (hlisted : ∀ r ∈ runs, ∀ m ∈ r.collection.metrics, m.domain ∈ domainNameList) :
    ∀ d, jmxRecords (cleanUpFiles logDir (after logDir runs) (logFile logDir d)) = [] := by
  induction runs using List.reverseRecOn with
  | nil =>
      intro d
      rw [cleanUpFiles_logFile]
      split
      · rfl
      · rfl
  | append_singleton before r ih =>
      intro d
      have hstart := ih (fun q hq => hlossless q (List.mem_append_left _ hq))
        fun q hq => hlisted q (List.mem_append_left _ hq)
      have hlast := lastCollection_of_lossless hstart (hlossless r (by simp))
      rw [cleanUpFiles_logFile]
      split
      · rfl
      · rename_i hd
        rw [after_concat, hlast.exact, recordsOf_eq_nil_iff]
        rintro m hm rfl
        exact hd (hlisted r (by simp) m hm)

/-- After each of the runs the files show exactly the collection of that run. -/
def ShowsLast (logDir : List Char) (runs : List (Run V)) : Prop :=
  ∀ before r, before ++ [r] <+: runs →
    LastCollection logDir (after logDir (before ++ [r])) r.collection

/--
The collections stay apart: every metric is lossless, and all but the last collection have only
metrics of listed domains.
-/
def StayApart (cs : List (Collection V)) : Prop :=
  (∀ c ∈ cs, ∀ m ∈ c.metrics, m.Lossless) ∧
    ∀ c ∈ cs.dropLast, ∀ m ∈ c.metrics, m.domain ∈ domainNameList

/-- Collections that stay apart are shown, whatever the order of the threads. -/
theorem showsLast_of_stayApart (hapart : StayApart (runs.map Run.collection)) :
    ShowsLast logDir runs := by
  rintro before r ⟨rest, rfl⟩
  have hlossless : ∀ q ∈ before ++ [r], ∀ m ∈ q.collection.metrics, m.Lossless := fun q hq =>
    hapart.1 q.collection (List.mem_map_of_mem (List.mem_append_left rest hq))
  have hlisted : ∀ q ∈ before, ∀ m ∈ q.collection.metrics, m.domain ∈ domainNameList := by
    intro q hq
    apply hapart.2
    rw [List.append_assoc, List.map_append, List.dropLast_append_of_ne_nil (by simp)]
    exact List.mem_append_left _ (List.mem_map_of_mem hq)
  rw [after_concat]
  exact lastCollection_of_lossless
    (jmxRecords_after (fun q hq => hlossless q (List.mem_append_left _ hq)) hlisted)
    (hlossless r (by simp))

end Runs

/-! ## Runs in which the other threads write last -/

section Sequential

variable {logDir d : List Char} {logs : Logs V} {c : Collection V} {cs : List (Collection V)}

/-- The steps of the other threads append nothing. -/
theorem not_append_of_mem_hostMetrics {op : Op V} (hop : op ∈ c.hostMetrics) :
    op.isAppend = false := by
  rcases List.mem_map.mp hop with ⟨d, _, rfl⟩
  rfl

/-- The run in which the other threads write after the first one. -/
def Collection.sequential (c : Collection V) : Run V where
  collection := c
  ops := c.getMetric ++ c.hostMetrics
  complete := List.Perm.refl _
  ordered := by
    have hhost : c.hostMetrics.filter Op.isAppend = [] := by
      rw [List.filter_eq_nil_iff]
      intro op hop
      simp [not_append_of_mem_hostMetrics hop]
    have hmetric : c.getMetric.filter Op.isAppend = c.getMetric := by
      rw [List.filter_eq_self]
      intro op hop
      rcases List.mem_map.mp hop with ⟨m, _, rfl⟩
      rfl
    rw [List.filter_append, hhost, hmetric, List.append_nil]

/-- It destroys all records in the files of the other threads. -/
theorem jmxRecords_sequential (hd : d ∈ hostDomains) :
    jmxRecords (c.sequential.finish logDir logs (logFile logDir d)) = [] := by
  have hno : appended d c.hostMetrics = [] := by
    simp [appended, Collection.hostMetrics]
  have hsplit : c.sequential.finish logDir logs =
      execute logDir (execute logDir (cleanUpFiles logDir logs) c.getMetric) c.hostMetrics := by
    simp [Run.finish, Collection.sequential, execute]
  rw [hsplit]
  apply jmxRecords_overwritten hno
  · simpa [Collection.hostMetrics, Op.domainName] using hd
  · exact fun op hop => not_append_of_mem_hostMetrics hop

/-- Collections that are shown in this order are lossless. -/
theorem lossless_of_showsLast (hshows : ShowsLast logDir (cs.map Collection.sequential))
    (hc : c ∈ cs) : ∀ m ∈ c.metrics, m.Lossless := by
  rcases List.append_of_mem hc with ⟨before, rest, rfl⟩
  have hlast := hshows (before.map Collection.sequential) c.sequential (by simp)
  intro m hm
  refine ⟨(record_whole_iff c m).mp (hlast.whole m hm), fun hd => ?_⟩
  have hexact := hlast.exact m.domain
  rw [after_concat, jmxRecords_sequential hd] at hexact
  exact recordsOf_eq_nil_iff.mp hexact.symm m hm rfl

/-- All but the last collection that is shown in this order have only listed domains. -/
theorem listed_of_showsLast (hshows : ShowsLast logDir (cs.map Collection.sequential))
    (hc : c ∈ cs.dropLast) : ∀ m ∈ c.metrics, m.domain ∈ domainNameList := by
  intro m hm
  have hlossless := lossless_of_showsLast hshows ((List.dropLast_sublist cs).subset hc) m hm
  have hne : cs ≠ [] := by
    rintro rfl
    simp at hc
  rcases List.append_of_mem hc with ⟨before, rest, hsplit⟩
  rcases List.exists_cons_of_ne_nil (l := rest ++ [cs.getLast hne]) (by simp) with
    ⟨c', later, hlater⟩
  have hcs : cs = before ++ c :: c' :: later := by
    rw [← List.dropLast_concat_getLast hne, hsplit, List.append_assoc, List.cons_append, hlater]
  subst hcs
  have hfirst := hshows (before.map Collection.sequential) c.sequential (by simp)
  have hsecond := hshows (before.map Collection.sequential ++ [c.sequential]) c'.sequential
    (by simp)
  by_contra hnot
  have hkept := hsecond.exact m.domain
  rw [after_concat, jmxRecords_finish _ hlossless.2, cleanUpFiles_logFile, if_neg hnot,
    hfirst.exact] at hkept
  have hnil : c.recordsOf m.domain = [] := by simpa [Collection.sequential] using hkept
  exact recordsOf_eq_nil_iff.mp hnil m hm rfl

end Sequential

/-- A collection with one query and one metric. -/
def Collection.single (query : List Char) (m : Metric V) : Collection V where
  environment := "kafka-dev".toList
  cTimeNow := "2021-01-01T00:00:00+00:00".toList
  inputFile := [(query, [m])]

end JmxCollector
end ClusterPlaybooks
