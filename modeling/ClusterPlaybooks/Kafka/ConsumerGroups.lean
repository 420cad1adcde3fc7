import ClusterPlaybooks.Text.Python

/-!
# The metric script for consumer groups

The script reads a file with a topic and a consumer group on each line.  For every line it asks
Kafka whether the group exists and starts a thread that writes one record of offsets to the log.
Errors of the group check are caught and printed, errors of the thread end the thread.  The two
words of the line are taken before the handler begins, so a line with one word ends the program.

Main results:

- Theorem {lit}`target_eq`: what the script makes of a line, by the words of the line.
- Theorem {lit}`filter_records`: the records of a line in the log.
- Theorem {lit}`outcomes_eq_iff`: when every line gets what it should get.
- Theorem {lit}`monitoring_isolated_iff`: the same for every order in which the threads write.
-/

namespace ClusterPlaybooks
namespace ConsumerGroups

open Text

/-! ## The script -/

/-- What Kafka answers about a partition of a topic. -/
structure Offsets where
  partition : Nat
  committed : Option Int
  latest : Int
deriving DecidableEq

/-- The numbers that are written for a partition. -/
structure PartitionMetric where
  partition : Nat
  committedOffset : Int
  latestOffset : Int
  lag : Int
deriving DecidableEq

/-- A record of the log. -/
structure Record where
  topic : List Char
  groupId : List Char
  env : List Char
  timestamp : List Char
  partition : List PartitionMetric
deriving DecidableEq

/-- Where the Kafka calls for a line raise an error, if they do. -/
inductive Calls where
  /-- The client cannot be built or the groups cannot be listed. -/
  | checkRaises
  /-- A call of the thread raises before the record is written. -/
  | metricRaises
  /-- Closing the consumer raises, after the record was written. -/
  | closeRaises (offsets : List Offsets)
  /-- No call raises. -/
  | succeed (offsets : List Offsets)
deriving DecidableEq

/-- A line of the input file and what happens to the Kafka calls that are made for it. -/
structure Input where
  line : List Char
  calls : Calls
deriving DecidableEq

/-- What all lines share: the environment, the date and the listing of the consumer groups. -/
structure Site where
  env : List Char
  today : List Char
  groups : List (List Char × List Char)

/-- The numbers for a partition; an offset that was never committed counts as zero. -/
def metricOf (o : Offsets) : PartitionMetric where
  partition := o.partition
  committedOffset := o.committed.getD 0
  latestOffset := o.latest
  lag := o.latest - o.committed.getD 0

/-- The record of a topic and a group. -/
def Site.record (site : Site) (topic group : List Char) (offsets : List Offsets) : Record where
  topic := strip (topic ++ '.' :: beforeFirst "-kafka".toList site.env)
  groupId := strip group
  env := site.env
  timestamp := site.today
  partition := offsets.map metricOf

/-- {lit}`checkConsumerGroupName`: some listed group is this group, as a group of consumers. -/
def Site.checkConsumerGroupName (site : Site) (group : List Char) : Bool :=
  site.groups.any fun listed => (strip group, "consumer".toList) == listed

/-- The record that the thread of {lit}`getMetric` writes, if it comes so far. -/
def Site.getMetric (site : Site) (topic group : List Char) : Calls → Option Record
  | .checkRaises | .metricRaises => none
  | .closeRaises offsets | .succeed offsets => some (site.record topic group offsets)

/-- The body of the handler: an error of the check is caught, and no thread is started. -/
def Site.handle (site : Site) (topic group : List Char) (calls : Calls) : Option Record :=
  match calls with
  | .checkRaises => none
  | _ => if site.checkConsumerGroupName group then site.getMetric topic group calls else none

/--
The first lines of the loop body: {lit}`none` passes over the line, {lit}`some none` is the
error of a missing word, which nothing catches.
-/
def target (line : List Char) : Option (Option (List Char × List Char)) :=
  if !"#".toList.isPrefixOf (strip line) && 0 < (strip line).length then
    some do
      let topic ← (splitWords (strip line))[0]?
      let group ← (splitWords (strip line))[1]?
      return (topic, group)
  else none

/-- The loop of {lit}`main`: the record of each line, if one is written for it. -/
def Site.outcomes (site : Site) : List Input → List (Option Record)
  | [] => []
  | i :: rest =>
      match target i.line with
      | none => none :: site.outcomes rest
      | some none => none :: rest.map fun _ => none
      | some (some (topic, group)) => site.handle topic group i.calls :: site.outcomes rest

/-- The written records with the numbers of their lines, in the order of the lines. -/
def records (k : Nat) : List (Option Record) → List (Nat × Record)
  | [] => []
  | o :: os => o.toList.map (k, ·) ++ records (k + 1) os

/-- A log that a run may leave: the threads write their records in any order. -/
def Site.Writes (site : Site) (inputs : List Input) (log : List (Nat × Record)) : Prop :=
  log.Perm (records 0 (site.outcomes inputs))

/-! ## What a line should get -/

/-- The line is a comment: its first word begins with a hash sign. -/
def isComment (line : List Char) : Bool :=
  (splitWords line).head?.any fun w => w.head? == some '#'

/-- The line has one word and is no comment. -/
def isSingle (line : List Char) : Bool :=
  (splitWords line).length == 1 && !isComment line

/--
The record a line should get: the line has at least two words and is no comment, the group is
listed, and no call raises.
-/
def Site.wanted (site : Site) (i : Input) : Option Record :=
  match splitWords i.line, i.calls with
  | topic :: group :: _, .succeed offsets =>
      if !isComment i.line && site.checkConsumerGroupName group then
        some (site.record topic group offsets)
      else none
  | _, _ => none

/-- The calls for a line that has a listed group raise only after its record was written. -/
def Site.raisesLate (site : Site) (i : Input) : Bool :=
  match splitWords i.line, i.calls with
  | _ :: group :: _, .closeRaises _ => !isComment i.line && site.checkConsumerGroupName group
  | _, _ => false

/-! ## What the script makes of a line -/

section Line

variable {line w g : List Char} {ws : List (List Char)}

/-- The first letter of a stripped line with a word decides whether it is taken. -/
theorem isPrefixOf_strip (hwords : splitWords line = w :: ws) :
    "#".toList.isPrefixOf (strip line) = isComment line := by
  have hhead := head?_strip hwords
  have hcomment : isComment line = (w.head? == some '#') := by
    simp [isComment, hwords]
  rw [hcomment, ← hhead]
  cases strip line with
  | nil => rfl
  | cons c s =>
      simp [List.isPrefixOf, eq_comm]

/-- The script passes over a blank line. -/
theorem target_blank (hwords : splitWords line = []) : target line = none := by
  simp [target, strip_eq_nil_iff.mpr hwords]

/-- What the script makes of a line with words. -/
theorem target_eq (hwords : splitWords line = w :: ws) :
    target line = if isComment line then none else some (ws.head?.map (w, ·)) := by
  have hne : 0 < (strip line).length := by
    apply List.length_pos_iff.mpr
    intro hnil
    rw [strip_eq_nil_iff.mp hnil] at hwords
    cases hwords
  rw [target, isPrefixOf_strip hwords, splitWords_strip, hwords]
  cases isComment line with
  | true => rfl
  | false =>
      cases ws with
      | nil => simp [hne]
      | cons g ws => simp [hne]

/-- A line with one word ends the program, no other line does. -/
theorem target_eq_missing_iff : target line = some none ↔ isSingle line = true := by
  cases hwords : splitWords line with
  | nil => simp [target_blank hwords, isSingle, hwords]
  | cons w ws =>
      rw [target_eq hwords, isSingle, hwords]
      cases isComment line with
      | true => simp
      | false => simp

end Line

section Outcome

variable {site : Site} {i : Input} {inputs rest : List Input}

/-- The record that is written for a line that the script comes to. -/
def Site.outcome (site : Site) (i : Input) : Option Record :=
  match target i.line with
  | some (some (topic, group)) => site.handle topic group i.calls
  | _ => none

/-- A line with one word ends the loop. -/
theorem outcomes_cons_single (hsingle : isSingle i.line = true) :
    site.outcomes (i :: rest) = none :: rest.map fun _ => none := by
  rw [Site.outcomes, target_eq_missing_iff.mpr hsingle]

/-- After every other line the loop goes on. -/
theorem outcomes_cons (hsingle : isSingle i.line = false) :
    site.outcomes (i :: rest) = site.outcome i :: site.outcomes rest := by
  rw [Site.outcomes, Site.outcome]
  cases htarget : target i.line with
  | none => rfl
  | some pair =>
      cases pair with
      | none => simp [target_eq_missing_iff.mp htarget] at hsingle
      | some pair => rfl

/-- A line with fewer than two words, or a comment, should get nothing. -/
theorem wanted_eq_none (hshort : isSingle i.line = true) : site.wanted i = none := by
  simp only [isSingle, Bool.and_eq_true, beq_iff_eq] at hshort
  rcases List.length_eq_one_iff.mp hshort.1 with ⟨w, hwords⟩
  simp [Site.wanted, hwords]

/-- A line gets what it should get, unless its calls raise late. -/
theorem outcome_eq_wanted_iff : site.outcome i = site.wanted i ↔ site.raisesLate i = false := by
  rcases i with ⟨line, calls⟩
  unfold Site.outcome Site.wanted Site.raisesLate
  cases hwords : splitWords line with
  | nil => simp [target_blank hwords]
  | cons topic ws =>
      rw [target_eq hwords]
      cases hcomment : isComment line with
      | true => cases ws <;> cases calls <;> simp
      | false =>
          cases ws with
          | nil => simp
          | cons group ws =>
              cases hgroup : site.checkConsumerGroupName group with
              | true => cases calls <;> simp [Site.handle, Site.getMetric, hgroup]
              | false => cases calls <;> simp [Site.handle, hgroup]

@[simp]
theorem length_outcomes : (site.outcomes inputs).length = inputs.length := by
  induction inputs with
  | nil => rfl
  | cons i rest ih =>
      cases hsingle : isSingle i.line with
      | true => simp [outcomes_cons_single hsingle]
      | false => simp [outcomes_cons hsingle, ih]

/--
Nothing is lost or written by mistake: no line that is reached raises late, and no line after
the first line with one word should get a record.
-/
def Site.Harmless (site : Site) (inputs : List Input) : Prop :=
  (∀ i ∈ inputs.takeWhile (fun i => !isSingle i.line), site.raisesLate i = false) ∧
    ∀ i ∈ inputs.dropWhile (fun i => !isSingle i.line), site.wanted i = none

/-- Every line gets what it should get exactly if the file is harmless. -/
theorem outcomes_eq_iff : site.outcomes inputs = inputs.map site.wanted ↔ site.Harmless inputs := by
  induction inputs with
  | nil => simp [Site.outcomes, Site.Harmless]
  | cons i rest ih =>
      cases hsingle : isSingle i.line with
      | true =>
          -- nothing after this line is read
          have hrest : rest.map (fun _ => none) = rest.map site.wanted ↔
              ∀ j ∈ rest, site.wanted j = none := by
            rw [List.map_inj_left]
            exact forall₂_congr fun _ _ => eq_comm
          rw [outcomes_cons_single hsingle, List.map_cons, wanted_eq_none hsingle,
            List.cons_eq_cons, hrest, Site.Harmless]
          simp [hsingle, wanted_eq_none hsingle]
      | false =>
          rw [outcomes_cons hsingle, List.map_cons, List.cons_eq_cons, ih, outcome_eq_wanted_iff,
            Site.Harmless, Site.Harmless]
          simp [hsingle, and_assoc]

end Outcome

/-! ## The log -/

/-- Records of later lines have greater numbers. -/
theorem le_of_mem_records {os : List (Option Record)} {k : Nat} {e : Nat × Record}
    (he : e ∈ records k os) : k ≤ e.1 := by
  induction os generalizing k with
  | nil => simp [records] at he
  | cons o os ih =>
      rcases List.mem_append.mp he with hhere | hlater
      · rcases List.mem_map.mp hhere with ⟨r, _, rfl⟩
        exact Nat.le_refl k
      · have hle := ih hlater
        omega

/-- The records of a line in the log: the one of its outcome. -/
theorem filter_records (os : List (Option Record)) (k n : Nat) :
    (records k os).filter (fun e => e.1 == k + n) =
    (os[n]?.join).toList.map (k + n, ·) := by
  induction os generalizing k n with
  | nil => simp [records]
  | cons o os ih =>
      rw [records, List.filter_append]
      cases n with
      | zero =>
          have hlater : (records (k + 1) os).filter (fun e => e.1 == k + 0) = [] := by
            rw [List.filter_eq_nil_iff]
            intro e he
            have hle := le_of_mem_records he
            simp only [Nat.add_zero, beq_iff_eq]
            omega
          rw [hlater, List.append_nil]
          cases o <;> simp
      | succ n =>
          have hhere : (o.toList.map (k, ·)).filter (fun e => e.1 == k + (n + 1)) = [] := by
            rw [List.filter_eq_nil_iff]
            intro e he
            rcases List.mem_map.mp he with ⟨r, _, rfl⟩
            simp only [beq_iff_eq]
            omega
          have hindex : k + (n + 1) = k + 1 + n := by omega
          rw [hhere, List.nil_append, hindex, ih, List.getElem?_cons_succ]

/-- Every line has in the log the record it should get, once, and no line has another. -/
def Site.Isolated (site : Site) (inputs : List Input) (log : List (Nat × Record)) : Prop :=
  ∀ n, log.filter (fun e => e.1 == n) = (inputs[n]?.bind site.wanted).toList.map (n, ·)

section Isolated

variable {site : Site} {inputs : List Input} {log : List (Nat × Record)}

/-- A line has at most one record, so the order of the threads does not matter. -/
theorem filter_log (hlog : site.Writes inputs log) (n : Nat) :
    log.filter (fun e => e.1 == n) =
      ((site.outcomes inputs)[n]?.join).toList.map (n, ·) := by
  have hfilter := filter_records (site.outcomes inputs) 0 n
  rw [Nat.zero_add] at hfilter
  have hperm := hlog.filter fun e => e.1 == n
  rw [hfilter] at hperm
  cases hrecord : (site.outcomes inputs)[n]?.join with
  | none =>
      rw [hrecord] at hperm
      exact List.perm_nil.mp hperm
  | some r =>
      rw [hrecord] at hperm
      exact List.perm_singleton.mp hperm

/-- The log is right exactly if every line has the right outcome. -/
theorem isolated_iff_outcomes (hlog : site.Writes inputs log) :
    site.Isolated inputs log ↔ site.outcomes inputs = inputs.map site.wanted := by
  have hinj : ∀ (n : Nat) (a b : Option Record),
      a.toList.map (n, ·) = b.toList.map (n, ·) → a = b := by
    intro n a b heq
    cases a <;> cases b <;> simp_all
  constructor
  · intro hisolated
    apply List.ext_getElem (by simp)
    intro n hn hn'
    have hsame := hisolated n
    rw [filter_log hlog] at hsame
    have hrecord := hinj n _ _ hsame
    have hinput : n < inputs.length := by simpa using hn
    rw [List.getElem?_eq_getElem hn, List.getElem?_eq_getElem hinput] at hrecord
    simpa using hrecord
  · intro heq n
    rw [filter_log hlog, heq, List.getElem?_map]
    cases inputs[n]? <;> rfl

end Isolated

/--
Whatever order the threads write in, the log has for every line of the file the record that the
line itself should get, exactly if the file is harmless.
-/
theorem monitoring_isolated_iff (site : Site) (inputs : List Input) (log : List (Nat × Record))
    (hlog : site.Writes inputs log) : site.Isolated inputs log ↔ site.Harmless inputs :=
  (isolated_iff_outcomes hlog).trans outcomes_eq_iff

/-- A comment, a blank line and a failing line do not keep the next line from its record. -/
theorem monitoring_isolated_iff_failing_line :
    Site.Isolated ⟨"dev-kafka".toList, "2021-01-01".toList, [("g".toList, "consumer".toList)]⟩
      [⟨"# topic group".toList, .metricRaises⟩, ⟨[], .metricRaises⟩,
        ⟨"orders g".toList, .checkRaises⟩, ⟨" orders g ".toList, .succeed [⟨0, some 3, 5⟩]⟩]
      [(3, ⟨"orders.dev".toList, "g".toList, "dev-kafka".toList, "2021-01-01".toList,
        [⟨0, 3, 5, 2⟩]⟩)] :=
  (monitoring_isolated_iff _ _ _ (List.Perm.of_eq (by decide +kernel))).mpr
    ⟨by decide +kernel, by decide +kernel⟩

/-- A line with a topic and no group keeps the next line from its record. -/
theorem single_word_stops_monitoring :
    Site.outcomes ⟨"dev-kafka".toList, "2021-01-01".toList, [("g".toList, "consumer".toList)]⟩
        [⟨"orders".toList, .succeed []⟩, ⟨"orders g".toList, .succeed [⟨0, some 3, 5⟩]⟩] =
      [none, none] ∧
    Site.wanted ⟨"dev-kafka".toList, "2021-01-01".toList, [("g".toList, "consumer".toList)]⟩
        ⟨"orders g".toList, .succeed [⟨0, some 3, 5⟩]⟩ =
      some ⟨"orders.dev".toList, "g".toList, "dev-kafka".toList, "2021-01-01".toList,
        [⟨0, 3, 5, 2⟩]⟩ := by
  decide +kernel

end ConsumerGroups
end ClusterPlaybooks
