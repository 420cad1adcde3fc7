import ClusterPlaybooks.Proxysql.Settling

/-!
# The counters in the comments

With {lit}`--retry_up` and {lit}`--retry_down` the check acts on a row only after several runs
that ask for it.  The numbers of these runs are kept in the comment of the row, between runs in
the same process and between processes.

Main results:

- Theorem {lit}`leaves_with_streak`: with a comment that leaves room for entries, a server stops
  serving exactly with the run that completes the streak of bad answers.
- Theorem {lit}`odd_comment_never_leaves`: with an odd number of separators in its comment a
  server is never taken out, and the comment grows with every bad answer.
-/

namespace ClusterPlaybooks
namespace Proxysql

open Text Relational

/-! ## The names of the counters -/

/-- The two counters. -/
inductive Counter where
  | up
  | down
  deriving DecidableEq

/-- The name of a counter. -/
def Options.nameOf (o : Options) : Counter → List Char
  | .up => o.retryUpKey
  | .down => o.retryDownKey

/-- The hostgroups have no separators of comments in them. -/
def Options.PlainGroups (o : Options) : Prop :=
  NoSep o.hostgroups

/-- The names of the counters have no separators. -/
theorem Options.PlainGroups.noSep {o : Options} (hplain : o.PlainGroups) (c : Counter) :
    NoSep (o.nameOf c) := by
  have hmap : ∀ c d : Char, d ≠ '_' → c ∈ o.hostgroups →
      (if c = ':' ∨ c = ',' then '_' else c) = d → d ∈ o.hostgroups := by
    intro c d hd hc heq
    split at heq
    · exact absurd heq.symm hd
    · exact heq ▸ hc
  have hid : NoSep o.clusterIdentifier := by
    constructor
    · intro hmem
      rcases List.mem_map.mp hmem with ⟨c, hc, heq⟩
      exact hplain.1 (hmap c ';' (by decide) hc heq)
    · intro hmem
      rcases List.mem_map.mp hmem with ⟨c, hc, heq⟩
      exact hplain.2 (hmap c '=' (by decide) hc heq)
  cases c <;> simp [NoSep, nameOf, retryUpKey, retryDownKey, hid.1, hid.2]

/-- The name of a counter, in lower case, does not end the name of another one. -/
theorem Options.nameOf_suffix (o : Options) {c c' : Counter}
    (hend : lower (o.nameOf c) <:+ lower (o.nameOf c')) : c = c' := by
  have hlast : ∀ c, (lower (o.nameOf c)).getLast? =
      some (match c with | .up => 'p' | .down => 'n') := by
    intro c
    cases c <;> simp [nameOf, retryUpKey, retryDownKey, lower]
  have hne : lower (o.nameOf c) ≠ [] := by
    cases c <;> simp [nameOf, retryUpKey, retryDownKey, lower]
  rcases hend with ⟨front, hfront⟩
  have hsame := congrArg List.getLast? hfront
  rw [List.getLast?_append_of_ne_nil _ hne, hlast, hlast, Option.some.injEq] at hsame
  cases c <;> cases c' <;> first | rfl | exact absurd hsame (by decide)

/-- The counters have different names. -/
theorem Options.nameOf_injective (o : Options) : Function.Injective o.nameOf := by
  intro c c' heq
  exact o.nameOf_suffix (heq ▸ List.suffix_rfl)

/-- No name of a counter ends the other one. -/
theorem Options.apart_names (o : Options) : Apart [o.nameOf .up, o.nameOf .down] := by
  have hname : ∀ k ∈ [o.nameOf .up, o.nameOf .down], ∃ c, k = o.nameOf c := by
    simp
  intro k hk k' hk' hend
  rcases hname k hk with ⟨c, rfl⟩
  rcases hname k' hk' with ⟨c', rfl⟩
  rw [o.nameOf_suffix hend]

/-- The digits of a number are no separators. -/
theorem noSep_toDigits (k : Nat) : NoSep (Nat.toDigits 10 k) :=
  ⟨notMem_toDigits (by decide) k, notMem_toDigits (by decide) k⟩

/-- The digits of a number are the same in lower case. -/
theorem lower_toDigits (k : Nat) : lower (Nat.toDigits 10 k) = Nat.toDigits 10 k := by
  have hdigit : ∀ c ∈ Nat.toDigits 10 k, c.toLower = c := by
    intro c hc
    have hc := List.all_eq_true.mp (all_isDigit_toDigits k) c hc
    refine dif_neg ?_
    simp only [Char.isDigit, ge_iff_le, Bool.and_eq_true, decide_eq_true_eq,
      UInt32.le_iff_toNat_le] at hc
    simp only [ge_iff_le, UInt32.le_iff_toNat_le]
    have hbounds : '9'.val.toNat = 57 ∧ 'A'.val.toNat = 65 := ⟨rfl, rfl⟩
    omega
  exact (List.map_congr_left hdigit).trans (List.map_id' _)

/-! ## Counters in a comment -/

/-- The pairs of a name and a number that are written for counters. -/
def Options.pairs (o : Options) (cs : List (Counter × Nat)) : List (List Char × List Char) :=
  cs.map fun c => (o.nameOf c.1, Nat.toDigits 10 c.2)

/-- The base has none of the names of the counters in it. -/
def Options.FreeBase (o : Options) (base : List Char) : Prop :=
  ∀ c, FreeOf (o.nameOf c) base

section Comments

variable {o : Options} {base : List Char}

/-- Names and numbers have no separators. -/
theorem Options.PlainGroups.plainEntries (hplain : o.PlainGroups) (cs : List (Counter × Nat)) :
    PlainEntries (o.pairs cs) := by
  intro e he
  rcases List.mem_map.mp he with ⟨c, -, rfl⟩
  exact ⟨hplain.noSep c.1, noSep_toDigits c.2⟩

/-- Cutting a counter with its number out of a comment leaves the other counters and numbers. -/
theorem Options.FreeBase.removeAll_counter (hfree : o.FreeBase base) (hplain : o.PlainGroups)
    (c : Counter) (k : Nat) (cs : List (Counter × Nat)) :
    removeAll (entry (o.nameOf c) (Nat.toDigits 10 k)) (base ++ entries (o.pairs cs)) =
      base ++ entries (o.pairs (cs.filter fun c' => c' ≠ (c, k))) := by
  have hname : ∀ c, o.nameOf c ∈ [o.nameOf .up, o.nameOf .down] := by
    intro c
    cases c <;> simp
  rw [removeAll_entries o.apart_names (hname c) (hplain.noSep c) (noSep_toDigits k) (hfree c)
    (hplain.plainEntries cs), pairs, pairs, List.filter_map]
  · congr 3
    apply List.filter_congr
    intro c' _
    have hdigits : Nat.toDigits 10 c'.2 = Nat.toDigits 10 k ↔ c'.2 = k := by
      constructor
      · exact fun h => by simpa using congrArg perlNum h
      · exact fun h => by rw [h]
    simp [Prod.ext_iff, o.nameOf_injective.eq_iff, hdigits]
  · intro e he
    rcases List.mem_map.mp he with ⟨c', -, rfl⟩
    exact hname c'.1
  · intro e he heq
    rcases List.mem_map.mp he with ⟨c', -, rfl⟩
    rwa [lower_toDigits, lower_toDigits] at heq

/-! ## Comments that leave room for the counters -/

/-- A comment behind which the counters are read back: it is empty or ends in a separator, it has
keys with values, and not those of the counters. -/
structure Options.Clean (o : Options) (base : List Char) : Prop where
  closed : base = [] ∨ base.getLast? = some ';'
  even : base.countP isEntrySep % 2 = 0
  free : o.FreeBase base

/-- The comment with the counters. -/
def Options.record (o : Options) (base : List Char) (up down : Nat) : List Char :=
  base ++ entries (o.pairs [(.up, up), (.down, down)])

/-- The counters that are read from a comment, and what is left of it. -/
def Options.Records (o : Options) (base : List Char) (up down : Nat) (comment : List Char) : Prop :=
  ∀ (r : Server) (reply : Option Reply), r.comment = comment → o.setRetryUpDown r reply =
    { row := r
      comment := base
      retryUp := Nat.toDigits 10 up
      retryDown := Nat.toDigits 10 down
      reply := reply }

/-- The counters are read back from the comment that was saved. -/
theorem Options.Clean.records_record (hclean : o.Clean base) (hplain : o.PlainGroups)
    (up down : Nat) : o.Records base up down (o.record base up down) := by
  intro r reply hcomment
  have hpieces : ∃ closed, closed.length % 2 = 0 ∧
      perlSplit isEntrySep (o.record base up down) = closed ++
        [o.nameOf .up, Nat.toDigits 10 up, o.nameOf .down, Nat.toDigits 10 down] := by
    rcases splitOnP_append_of_closed hclean.closed with ⟨closed, hlength, -, hsplit⟩
    refine ⟨closed, hlength ▸ hclean.even, ?_⟩
    rw [perlSplit, record, hsplit, splitOnP_entries (hplain.plainEntries _), ← List.append_assoc,
      List.rdropWhile_concat_pos _ _ _ (by simp)]
    have hlast : (Nat.toDigits 10 down).isEmpty = false := by
      simp [Nat.toDigits_ne_nil]
    have hkept := List.rdropWhile_concat_neg List.isEmpty
      (closed ++ [o.nameOf .up, Nat.toDigits 10 up, o.nameOf .down]) _ (by rw [hlast]; decide)
    rwa [List.append_assoc] at hkept
  have hread : hashGet (o.nameOf .up) (perlSplit isEntrySep (o.record base up down)) =
        some (Nat.toDigits 10 up) ∧
      hashGet (o.nameOf .down) (perlSplit isEntrySep (o.record base up down)) =
        some (Nat.toDigits 10 down) := by
    rcases hpieces with ⟨closed, heven, hsplit⟩
    rw [hsplit, hashGet_append heven, hashGet_append heven]
    simp [hashGet, o.nameOf_injective.eq_iff]
  have hcut : removeAll (entry (o.nameOf .up) (Nat.toDigits 10 up))
      (removeAll (entry (o.nameOf .down) (Nat.toDigits 10 down)) (o.record base up down)) =
        base := by
    rw [record, hclean.free.removeAll_counter hplain, hclean.free.removeAll_counter hplain]
    simp [pairs]
  simp only [nameOf] at hread hcut
  rw [setRetryUpDown, hcomment, hread.1, hread.2]
  simp only [Option.getD_some, hcut]

/-- The names of the counters are no pieces of the base. -/
theorem Options.FreeBase.notMem (hfree : o.FreeBase base) {ws : List (List Char)}
    (hws : ∀ w ∈ ws, w <:+: base) (c : Counter) : o.nameOf c ∉ ws :=
  fun hmem => hfree c ((hws _ hmem).map Char.toLower)

/-- A comment without counters has the counters at zero. -/
theorem Options.Clean.records_base (hclean : o.Clean base) (hplain : o.PlainGroups) :
    o.Records base 0 0 base := by
  intro r reply hcomment
  have hread : ∀ c, hashGet (o.nameOf c) (perlSplit isEntrySep base) = none := by
    intro c
    apply hashGet_perlSplit_eq_none
    intro hmem
    exact hclean.free.notMem (fun w hw => infix_of_mem_splitOnP hw) c ((evens_odds_subset _).1 hmem)
  have hcut : ∀ c, removeAll (entry (o.nameOf c) ['0']) base = base := by
    intro c
    have hremove := hclean.free.removeAll_counter hplain c 0 []
    simpa [pairs] using hremove
  have hread' := And.intro (hread .up) (hread .down)
  have hcut' := And.intro (hcut .up) (hcut .down)
  simp only [nameOf] at hread' hcut'
  rw [setRetryUpDown, hcomment, hread'.1, hread'.2]
  simp only [Option.getD_none, hcut'.1, hcut'.2]
  rfl

end Comments

/-! ## What the runs find for one row -/

/-- A run finds nothing out about a row, finds no reason to take it down, or finds one. -/
inductive Verdict where
  | void
  | good
  | bad
  deriving DecidableEq

instance (o : Options) (e : Env) (t : Servers) : Decidable (o.Blocked e t) :=
  inferInstanceAs (Decidable (∃ r ∈ t.rows, o.isVisible e r = true ∧ e.probe r.key = .refused))

/-- What a run finds for a row.  An answer that comes too late is no reason to take it down. -/
def Options.verdict (o : Options) (e : Env) (t : Servers) (r : Server) : Verdict :=
  if o.Blocked e t ∨ o.isVisible e r = false then .void
  else
    match (e.answer r).bind (downAction (o.cluster e t) r) with
    | some _ => .bad
    | none => .good

/-- What the runs find for a row, one after the other. -/
def Options.verdicts (o : Options) (r : Server) : List Env → Servers → List Verdict
  | [], _ => []
  | e :: es, t => o.verdict e t r :: o.verdicts r es (o.round e t)

/-- One more finding for the streak of bad ones. -/
def streakStep (k : Nat) : Verdict → Nat
  | .void => k
  | .good => 0
  | .bad => k + 1

/-- The number of bad findings since the last good one. -/
def streak (vs : List Verdict) : Nat :=
  vs.foldl streakStep 0

/-- A row that serves, and options with a counter for taking it down. -/
structure Options.Watches (o : Options) (r : Server) : Prop where
  never : o.activeFailover = .never
  plain : o.PlainGroups
  retry : 0 < o.retryDown
  online : r.status = .online
  group : r.hostgroup < 8000

section Rounds

variable {o : Options} {e : Env} {t : Servers} {r : Server} {comment : List Char}

/-- The comment does not matter for what a run finds. -/
theorem Options.verdict_setComment (o : Options) (e : Env) (t : Servers) (r : Server)
    (comment : List Char) : o.verdict e t (r.setComment comment) = o.verdict e t r := by
  have hvisible : o.isVisible e (r.setComment comment) = o.isVisible e r := by
    simp [isVisible]
  have hanswer : e.answer (r.setComment comment) = e.answer r := by
    simp [Env.answer]
  have hdown : downAction (o.cluster e t) (r.setComment comment) =
      downAction (o.cluster e t) r := rfl
  rw [verdict, verdict, hvisible, hanswer, hdown]

/-- The node of a row that a run finds something out about. -/
theorem Options.probeNode_of_verdict (hr : r ∈ t.rows) (hverdict : o.verdict e t r ≠ .void) :
    ¬ o.Blocked e t ∧ o.isVisible e r = true ∧
      o.probeNode e r = some (o.setRetryUpDown r (e.answer r)) := by
  have hopen : ¬ (o.Blocked e t ∨ o.isVisible e r = false) := fun h =>
    hverdict (if_pos h)
  rw [not_or, Bool.not_eq_false] at hopen
  refine ⟨hopen.1, hopen.2, ?_⟩
  have hhidden : e.probe r.key ≠ .hidden := by
    have hvisible := hopen.2
    simp only [isVisible, Bool.and_eq_true, bne_iff_ne] at hvisible
    exact hvisible.2
  rw [probeNode, Env.answer]
  cases hprobe : e.probe r.key with
  | hidden => exact absurd hprobe hhidden
  | refused => exact absurd ⟨r, hr, hopen.2, hprobe⟩ hopen.1
  | late => rfl
  | reply a => rfl

/-- The row after a run with a reason to take it down. -/
theorem Options.Watches.policy_bad (hwatch : o.Watches r) (hr : r ∈ t.rows)
    (hbad : o.verdict e t r = .bad) :
    ∃ a, (a = .moveDownOffline ∨ a = .moveDownHgChange) ∧ o.policy e (o.cluster e t) r =
      o.settle a { o.setRetryUpDown r (e.answer r) with
        retryDown := increment (o.setRetryUpDown r (e.answer r)).retryDown } r := by
  rcases probeNode_of_verdict hr (by rw [hbad]; decide) with ⟨hopen, hvisible, hnode⟩
  rw [verdict, if_neg (by simp [hopen, hvisible])] at hbad
  cases hdown : (e.answer r).bind (downAction (o.cluster e t) r) with
  | none => simp [hdown] at hbad
  | some a =>
      have heval : o.evaluateNode (o.cluster e t) (o.setRetryUpDown r (e.answer r)) =
          some (a, { o.setRetryUpDown r (e.answer r) with
            retryDown := increment (o.setRetryUpDown r (e.answer r)).retryDown }) := by
        have hgroup : (o.setRetryUpDown r (e.answer r)).row.hostgroup < 8000 := hwatch.group
        have hreply : (o.setRetryUpDown r (e.answer r)).reply.bind
            (downAction (o.cluster e t) (o.setRetryUpDown r (e.answer r)).row) = some a := hdown
        rw [evaluateNode, if_pos hgroup, hreply]
        simp [hwatch.retry]
      rcases Option.bind_eq_some_iff.mp hdown with ⟨reply, -, haction⟩
      refine ⟨a, downAction_cases haction, ?_⟩
      rw [policy, decision, if_pos hvisible, hnode, Option.bind_some, heval]

/-- The row after a run without a reason to take it down: counters that are not zero are reset. -/
theorem Options.Watches.policy_good (hwatch : o.Watches r) (hr : r ∈ t.rows)
    (hgood : o.verdict e t r = .good)
    (hup : perlNum (o.setRetryUpDown r (e.answer r)).retryUp = 0) :
    o.policy e (o.cluster e t) r =
      if 0 < perlNum (o.setRetryUpDown r (e.answer r)).retryDown then
        r.setComment (o.savedComment { o.setRetryUpDown r (e.answer r) with retryDown := ['0'] })
      else r := by
  rcases probeNode_of_verdict hr (by rw [hgood]; decide) with ⟨hopen, hvisible, hnode⟩
  rw [verdict, if_neg (by simp [hopen, hvisible])] at hgood
  have hdown : (e.answer r).bind (downAction (o.cluster e t) r) = none := by
    cases hdown : (e.answer r).bind (downAction (o.cluster e t) r) with
    | none => rfl
    | some a => simp [hdown] at hgood
  have hstays : upAction r (e.answer r) = none := by
    cases haction : upAction r (e.answer r) with
    | none => rfl
    | some a =>
        have hgroup := hwatch.group
        rcases upAction_cases haction with ⟨-, hoffline, -⟩ | ⟨-, hhigh⟩
        · rw [hwatch.online] at hoffline
          cases hoffline
        · omega
  have heval : o.evaluateNode (o.cluster e t) (o.setRetryUpDown r (e.answer r)) =
      if 0 < perlNum (o.setRetryUpDown r (e.answer r)).retryDown then
        some (.saveRetry, { o.setRetryUpDown r (e.answer r) with retryDown := ['0'] })
      else none := by
    have hgroup : (o.setRetryUpDown r (e.answer r)).row.hostgroup < 8000 := hwatch.group
    have hreply : (o.setRetryUpDown r (e.answer r)).reply.bind
        (downAction (o.cluster e t) (o.setRetryUpDown r (e.answer r)).row) = none := hdown
    have hback : upAction (o.setRetryUpDown r (e.answer r)).row
        (o.setRetryUpDown r (e.answer r)).reply = none := hstays
    rw [evaluateNode, if_pos hgroup, hreply]
    simp only [hback, hup, Nat.lt_irrefl, and_false, if_false, false_or, hwatch.retry, true_and]
    split <;> rfl
  rw [policy, decision, if_pos hvisible, hnode, Option.bind_some, heval]
  by_cases hcounter : 0 < perlNum (o.setRetryUpDown r (e.answer r)).retryDown
  · simp only [if_pos hcounter, settle]
    simp [Reached, Action.apply, hwatch.retry]
  · simp only [if_neg hcounter]

/-- The comment does not matter for whether a row serves. -/
theorem Options.Watches.setComment (hwatch : o.Watches r) (comment : List Char) :
    o.Watches (r.setComment comment) where
  never := hwatch.never
  plain := hwatch.plain
  retry := hwatch.retry
  online := by simpa using hwatch.online
  group := by simpa using hwatch.group

@[simp]
theorem Server.setComment_setComment (r : Server) (c c' : List Char) :
    (r.setComment c).setComment c' = r.setComment c' :=
  rfl

/-- A run changes the rows of a regular table by the policy, unless it is blocked. -/
theorem Options.Regular.mem_round (hregular : o.Regular t) (hnever : o.activeFailover = .never)
    (hopen : ¬ o.Blocked e t) (hr : r ∈ t.rows) :
    o.policy e (o.cluster e t) r ∈ (o.round e t).rows := by
  rw [hregular.orderly.rows_round hnever hopen]
  exact List.mem_map_of_mem hr

/-- A run that finds nothing out about a row leaves it as it is. -/
theorem Options.Regular.mem_round_of_void (hregular : o.Regular t)
    (hnever : o.activeFailover = .never) (hr : r ∈ t.rows) (hvoid : o.verdict e t r = .void) :
    r ∈ (o.round e t).rows := by
  by_cases hblocked : o.Blocked e t
  · rcases round_of_never hnever e t with ⟨-, hround⟩ | ⟨hopen, -⟩
    · rwa [hround]
    · exact absurd hblocked hopen
  · have hhidden : o.isVisible e r = false := by
      rw [verdict] at hvoid
      split at hvoid
      · rename_i h
        exact h.resolve_left hblocked
      · split at hvoid <;> cases hvoid
    have hmem := hregular.mem_round hnever hblocked hr
    rwa [policy, decision, hhidden, if_neg Bool.false_ne_true] at hmem

end Rounds

/-! ## Clean comments count -/

/-- The row is in the table, with the counters in its comment. -/
def Options.Counting (o : Options) (r : Server) (k : Nat) (t : Servers) : Prop :=
  ∃ comment, o.Records r.comment 0 k comment ∧ r.setComment comment ∈ t.rows

/-- The row is online in its hostgroup. -/
def Serves (r : Server) (t : Servers) : Prop :=
  ∃ r' ∈ t.rows, r'.key = r.key ∧ r'.status = .online

section Counting

variable {o : Options} {e : Env} {t : Servers} {r : Server} {k : Nat}

/-- The saved comment of a node with counters. -/
theorem Options.savedComment_eq (o : Options) (r : Server) (base : List Char) (up down : Nat)
    (reply : Option Reply) :
    o.savedComment ⟨r, base, Nat.toDigits 10 up, Nat.toDigits 10 down, reply⟩ =
      o.record base up down := by
  simp [savedComment, record, pairs, nameOf]

/-- A run that does not complete the streak counts it. -/
theorem Options.Counting.round (hcount : o.Counting r k t) (hwatch : o.Watches r)
    (hregular : o.Regular t) (hclean : o.Clean r.comment)
    (hshort : streakStep k (o.verdict e t r) < o.retryDown) :
    o.Counting r (streakStep k (o.verdict e t r)) (o.round e t) := by
  rcases hcount with ⟨comment, hrecords, hr⟩
  have hverdict := o.verdict_setComment e t r comment
  have hwatch' := hwatch.setComment comment
  have hnode := hrecords (r.setComment comment) (e.answer (r.setComment comment)) (by simp)
  cases hv : o.verdict e t r with
  | void =>
      exact ⟨comment, hrecords, hregular.mem_round_of_void hwatch.never hr (hverdict.trans hv)⟩
  | good =>
      rw [hv] at hverdict
      have hpolicy := hwatch'.policy_good hr hverdict (by rw [hnode]; exact perlNum_toDigits 0)
      have hopen := (probeNode_of_verdict hr (by rw [hverdict]; decide)).1
      have hmem := hregular.mem_round hwatch.never hopen hr
      rw [hpolicy, hnode] at hmem
      simp only [perlNum_toDigits] at hmem
      split at hmem
      · refine ⟨_, hclean.records_record hwatch.plain 0 0, ?_⟩
        rwa [Server.setComment_setComment,
          show (['0'] : List Char) = Nat.toDigits 10 0 from rfl, savedComment_eq] at hmem
      · rename_i hzero
        obtain rfl : k = 0 := by omega
        exact ⟨comment, hrecords, hmem⟩
  | bad =>
      rw [hv] at hverdict
      rw [hv, streakStep] at hshort
      rcases hwatch'.policy_bad hr hverdict with ⟨a, ha, hpolicy⟩
      have hopen := (probeNode_of_verdict hr (by rw [hverdict]; decide)).1
      have hmem := hregular.mem_round hwatch.never hopen hr
      refine ⟨_, hclean.records_record hwatch.plain 0 (k + 1), ?_⟩
      rw [hpolicy, hnode, settle, increment, perlNum_toDigits, savedComment_eq] at hmem
      have hreached : ∀ n : Node, n.retryDown = Nat.toDigits 10 (k + 1) → ¬ o.Reached n a := by
        intro n hn
        rcases ha with rfl | rfl <;>
          simpa only [Reached, hn, perlNum_toDigits] using Nat.not_le.mpr hshort
      rw [if_neg (hreached _ rfl), if_pos ⟨.inr hwatch.retry, rfl⟩] at hmem
      exact hmem

/-- A row that has been taken down is at home where it was, but does not serve. -/
theorem Options.settle_down {a : Action} (ha : a = .moveDownOffline ∨ a = .moveDownHgChange)
    {n : Node} (hreached : o.Reached n a) (hgroup : r.hostgroup < 8000) :
    (o.settle a n r).home = r.home ∧
      ¬ ((o.settle a n r).key = r.key ∧ (o.settle a n r).status = .online) := by
  have hallowed : a.AllowedFor r.hostgroup := by
    rcases ha with rfl | rfl <;> exact hgroup
  have hhome := Action.home_apply hallowed (by omega)
  have hsettle : o.settle a n r = a.apply r ∨
      ∃ comment, o.settle a n r = (a.apply r).setComment comment := by
    rw [settle, if_pos hreached]
    split
    · exact .inr ⟨_, rfl⟩
    · exact .inl rfl
  have hdown : ¬ ((a.apply r).key = r.key ∧ (a.apply r).status = .online) := by
    rintro ⟨hkey, honline⟩
    rcases ha with rfl | rfl
    · rw [Action.apply, (Server.setStatus_fields _ _).2.2.2.1] at honline
      cases honline
    · have hmoved : (Action.moveDownHgChange.apply r).hostgroup = r.hostgroup :=
        congrArg ServerKey.hostgroup hkey
      rw [Action.apply, (Server.setHostgroup_fields _ _).1] at hmoved
      omega
  rcases hsettle with hsettle | ⟨comment, hsettle⟩
  · rw [hsettle]
    exact ⟨hhome, hdown⟩
  · rw [hsettle]
    refine ⟨?_, ?_⟩
    · rw [← hhome, Server.home, Server.home, Server.key_setComment]
    · rw [Server.key_setComment, (Server.setComment_fields _ _).2.2.2.1]
      exact hdown

/-- The run that completes the streak takes the row down. -/
theorem Options.Counting.not_serves (hcount : o.Counting r k t) (hwatch : o.Watches r)
    (hregular : o.Regular t) (hbefore : k < o.retryDown)
    (hlong : o.retryDown ≤ streakStep k (o.verdict e t r)) : ¬ Serves r (o.round e t) := by
  rcases hcount with ⟨comment, hrecords, hr⟩
  have hverdict := o.verdict_setComment e t r comment
  have hwatch' := hwatch.setComment comment
  have hretry := hwatch.retry
  have hnode := hrecords (r.setComment comment) (e.answer (r.setComment comment)) (by simp)
  cases hv : o.verdict e t r with
  | void =>
      rw [hv, streakStep] at hlong
      omega
  | good =>
      rw [hv, streakStep] at hlong
      omega
  | bad =>
      rw [hv] at hverdict
      rw [hv, streakStep] at hlong
      rcases hwatch'.policy_bad hr hverdict with ⟨a, ha, hpolicy⟩
      have hopen := (probeNode_of_verdict hr (by rw [hverdict]; decide)).1
      have hmem := hregular.mem_round hwatch.never hopen hr
      rw [hnode, increment, perlNum_toDigits] at hpolicy
      have hreached : ∀ n : Node, n.retryDown = Nat.toDigits 10 (k + 1) → o.Reached n a := by
        intro n hn
        rcases ha with rfl | rfl <;> simpa only [Reached, hn, perlNum_toDigits] using hlong
      have hdown : (o.policy e (o.cluster e t) (r.setComment comment)).home = r.home ∧
          ¬ ((o.policy e (o.cluster e t) (r.setComment comment)).key = r.key ∧
            (o.policy e (o.cluster e t) (r.setComment comment)).status = .online) := by
        rw [hpolicy, ← r.key_setComment comment]
        exact settle_down ha (hreached _ rfl) hwatch'.group
      rintro ⟨r', hr', hkey, honline⟩
      -- the rows of the table are told apart by their homes
      have hsame : r' = o.policy e (o.cluster e t) (r.setComment comment) := by
        refine List.inj_on_of_nodup_map (hregular.round hwatch.never e).homes hr' hmem ?_
        rw [hdown.1, Server.home, Server.home, hkey]
      rw [hsame] at hkey honline
      exact hdown.2 ⟨hkey, honline⟩

/-- A row that is counted serves. -/
theorem Options.Counting.serves (hcount : o.Counting r k t) (hwatch : o.Watches r) :
    Serves r t := by
  rcases hcount with ⟨comment, -, hr⟩
  exact ⟨_, hr, r.key_setComment comment, (hwatch.setComment comment).online⟩

/-- As long as no streak is completed, the row is counted. -/
theorem Options.Counting.rounds (hwatch : o.Watches r) (hclean : o.Clean r.comment)
    (es : List Env) (hcount : o.Counting r k t) (hregular : o.Regular t)
    (hshort : ∀ vs, vs <+: o.verdicts r es t → vs.foldl streakStep k < o.retryDown) :
    o.Counting r ((o.verdicts r es t).foldl streakStep k) (o.rounds es t) ∧
      o.Regular (o.rounds es t) := by
  induction es generalizing t k with
  | nil => exact ⟨hcount, hregular⟩
  | cons e es ih =>
      have hfirst := hshort [o.verdict e t r] ⟨_, rfl⟩
      refine ih (hcount.round hwatch hregular hclean hfirst) (hregular.round hwatch.never e) ?_
      intro vs hvs
      exact hshort (o.verdict e t r :: vs) (List.cons_prefix_cons.mpr ⟨rfl, hvs⟩)

end Counting

/-- The findings of two runs of the check, one after the other. -/
theorem Options.verdicts_append (o : Options) (r : Server) (es es' : List Env) (t : Servers) :
    o.verdicts r (es ++ es') t = o.verdicts r es t ++ o.verdicts r es' (o.rounds es t) := by
  induction es generalizing t with
  | nil => rfl
  | cons e es ih => exact congrArg (_ :: ·) (ih (o.round e t))

/-- A server with a clean comment serves as long as there has been no streak of
{lit}`--retry_down` bad runs, and stops with the run that completes the first one.  Runs without
an answer that counts do not end a streak, and answers that come too late do. -/
theorem leaves_with_streak {o : Options} {t : Servers} {r : Server} (hregular : o.Regular t)
    (hwatch : o.Watches r) (hclean : o.Clean r.comment) (hr : r ∈ t.rows) (es : List Env)
    (hbefore : ∀ vs, vs <+: o.verdicts r es t → vs ≠ o.verdicts r es t →
      streak vs < o.retryDown) :
    Serves r (o.rounds es t) ↔ streak (o.verdicts r es t) < o.retryDown := by
  have hstart : o.Counting r 0 t := ⟨r.comment, hclean.records_base hwatch.plain, hr⟩
  rcases es.eq_nil_or_concat with rfl | ⟨es, e, rfl⟩
  · exact ⟨fun _ => hwatch.retry, fun _ => hstart.serves hwatch⟩
  · rw [List.concat_eq_append] at hbefore ⊢
    rw [o.verdicts_append] at hbefore
    rw [o.verdicts_append, o.rounds_append]
    have hshort : ∀ vs, vs <+: o.verdicts r es t → vs.foldl streakStep 0 < o.retryDown := by
      intro vs hvs
      refine hbefore vs (hvs.trans (List.prefix_append _ _)) fun heq => ?_
      have hlength := hvs.length_le
      rw [heq, List.length_append] at hlength
      exact absurd hlength (by simp [Options.verdicts])
    have hrun := Options.Counting.rounds hwatch hclean es hstart hregular hshort
    have hlast := hshort _ List.prefix_rfl
    have hstep : streak (o.verdicts r es t ++ o.verdicts r [e] (o.rounds es t)) =
        streakStep (streak (o.verdicts r es t)) (o.verdict e (o.rounds es t) r) :=
      List.foldl_append
    rw [hstep]
    constructor
    · intro hserves
      by_contra hlong
      exact hrun.1.not_serves hwatch hrun.2 hlast (Nat.not_lt.mp hlong) hserves
    · intro hnext
      exact (hrun.1.round hwatch hrun.2 hclean hnext).serves hwatch

/-- The hostgroups of the samples, with a counter of two bad runs. -/
def retryOptions : Options :=
  { sampleOptions with retryDown := 2 }

/-- A run in which all servers refuse queries. -/
def refusingEnv : Env :=
  uniformEnv (.reply { syncedReply with rejectQueries := .all })

/-- An empty comment is clean. -/
theorem Options.clean_nil (o : Options) : o.Clean [] where
  closed := .inl rfl
  even := rfl
  free := by
    intro c hfound
    have hempty := List.infix_nil.mp hfound
    cases c <;> simp [nameOf, retryUpKey, retryDownKey, lower] at hempty

/-- The first row of the sample table, with a counter. -/
theorem watches_writerRow : retryOptions.Watches writerRow where
  never := rfl
  plain := by simp [Options.PlainGroups, NoSep, retryOptions, sampleOptions]
  retry := by decide
  online := rfl
  group := by decide

/-- The writer of the sample table leaves with the second run in which it refuses queries. -/
theorem leaves_with_streak_sample :
    retryOptions.Watches writerRow ∧
      ¬ Serves writerRow
        (retryOptions.rounds [refusingEnv, refusingEnv] sampleTable) := by
  have hverdicts : retryOptions.verdicts writerRow
      [refusingEnv, refusingEnv] sampleTable = [.bad, .bad] := by
    decide +kernel
  have hbefore : ∀ vs ∈ [Verdict.bad, .bad].inits, vs ≠ [.bad, .bad] → streak vs < 2 := by
    decide
  have hiff := leaves_with_streak (o := retryOptions) (t := sampleTable)
    ⟨by decide, by decide, by decide, by decide⟩ watches_writerRow (Options.clean_nil _)
    List.mem_cons_self [refusingEnv, refusingEnv] fun vs hvs hne =>
      hbefore vs ((List.mem_inits _ _).mpr (hverdicts ▸ hvs)) (hverdicts ▸ hne)
  rw [hverdicts] at hiff
  exact ⟨watches_writerRow, fun hserves => absurd (hiff.mp hserves) (by decide)⟩

/-! ## Comments in which the counters are lost -/

/-- A comment with an odd number of separators after some bad runs. -/
def Options.oddComment (o : Options) (base : List Char) : Nat → List Char
  | 0 => base
  | k + 1 => base ++ entries (o.pairs (List.replicate k (.down, 1) ++ [(.up, 0), (.down, 1)]))

section Odd

variable {o : Options} {base : List Char}

/-- A name of a counter is no number. -/
theorem Options.nameOf_ne_toDigits (o : Options) (c : Counter) (k : Nat) :
    o.nameOf c ≠ Nat.toDigits 10 k := by
  intro heq
  have hmem : '_' ∈ o.nameOf c := by
    cases c <;> simp [nameOf, retryUpKey, retryDownKey]
  exact notMem_toDigits (by decide) k (heq ▸ hmem)

/-- Behind an odd number of separators the names of the counters are read as values. -/
theorem Options.FreeBase.hashGet_odd (hfree : o.FreeBase base) (hplain : o.PlainGroups)
    (hodd : base.countP isEntrySep % 2 = 1) (c : Counter) (cs : List (Counter × Nat)) :
    hashGet (o.nameOf c) (perlSplit isEntrySep (base ++ entries (o.pairs cs))) = none := by
  apply hashGet_perlSplit_eq_none
  rcases exists_splitOnP_append isEntrySep base with ⟨closed, last, hlength, hpieces⟩
  have hself := hpieces []
  rw [List.append_nil] at hself
  have hclosed : ∀ w ∈ closed, w <:+: base := fun w hw =>
    infix_of_mem_splitOnP (hself ▸ List.mem_append_left _ hw)
  have hshift : ∀ ws : List (List Char), odds (ws.modifyHead (last ++ ·)) = odds ws := by
    intro ws
    cases ws <;> rfl
  rw [hpieces, splitOnP_entries (hplain.plainEntries cs), (evens_odds_append _ _).1,
    if_neg (by omega), hshift, odds_entries, List.mem_append, not_or]
  constructor
  · exact fun hmem => hfree.notMem hclosed c ((evens_odds_subset closed).1 hmem)
  · intro hmem
    rcases List.mem_map.mp hmem with ⟨e, he, heq⟩
    rcases List.mem_map.mp he with ⟨c', -, rfl⟩
    exact o.nameOf_ne_toDigits c c'.2 heq.symm

/-- What is read from a comment with an odd number of separators: the counters are zero, and only
the entry that counts zero is cut out. -/
theorem Options.FreeBase.setRetryUpDown_odd (hfree : o.FreeBase base) (hplain : o.PlainGroups)
    (hodd : base.countP isEntrySep % 2 = 1) (k : Nat) {r : Server} (reply : Option Reply)
    (hr : r.comment = o.oddComment base k) :
    o.setRetryUpDown r reply =
      { row := r
        comment := base ++ entries (o.pairs (List.replicate k (.down, 1)))
        retryUp := Nat.toDigits 10 0
        retryDown := Nat.toDigits 10 0
        reply := reply } := by
  have hform : ∃ cs, o.oddComment base k = base ++ entries (o.pairs cs) ∧
      (cs.filter fun c => c ≠ (.down, 0)).filter (fun c => c ≠ (.up, 0)) =
        List.replicate k (.down, 1) := by
    cases k with
    | zero => exact ⟨[], by simp [oddComment, pairs], rfl⟩
    | succ k =>
        refine ⟨_, rfl, ?_⟩
        simp [List.replicate_succ']
  rcases hform with ⟨cs, hcomment, hcut⟩
  have hread := And.intro (hfree.hashGet_odd hplain hodd .up cs)
    (hfree.hashGet_odd hplain hodd .down cs)
  have hremove : removeAll (entry (o.nameOf .up) (Nat.toDigits 10 0))
      (removeAll (entry (o.nameOf .down) (Nat.toDigits 10 0)) (base ++ entries (o.pairs cs))) =
        base ++ entries (o.pairs (List.replicate k (.down, 1))) := by
    rw [hfree.removeAll_counter hplain, hfree.removeAll_counter hplain, hcut]
  simp only [nameOf] at hread hremove
  rw [setRetryUpDown, hr, hcomment, hread.1, hread.2]
  exact congrArg (fun comment => (⟨r, comment, ['0'], ['0'], reply⟩ : Node)) hremove

/-- One run leaves a row with such a comment where it is. -/
theorem Options.Watches.round_odd {e : Env} {t : Servers} {r : Server} {k : Nat}
    (hwatch : o.Watches r) (hregular : o.Regular t) (hfree : o.FreeBase r.comment)
    (hodd : r.comment.countP isEntrySep % 2 = 1) (htwo : 2 ≤ o.retryDown)
    (hr : r.setComment (o.oddComment r.comment k) ∈ t.rows) :
    r.setComment (o.oddComment r.comment (k + [o.verdict e t r].count .bad)) ∈
      (o.round e t).rows := by
  have hverdict := o.verdict_setComment e t r (o.oddComment r.comment k)
  have hwatch' := hwatch.setComment (o.oddComment r.comment k)
  have hnode := hfree.setRetryUpDown_odd hwatch.plain hodd k
    (r := r.setComment (o.oddComment r.comment k))
    (e.answer (r.setComment (o.oddComment r.comment k))) (by simp)
  cases hv : o.verdict e t r with
  | void => exact hregular.mem_round_of_void hwatch.never hr (hverdict.trans hv)
  | good =>
      rw [hv] at hverdict
      have hpolicy := hwatch'.policy_good hr hverdict (by rw [hnode]; exact perlNum_toDigits 0)
      have hopen := (probeNode_of_verdict hr (by rw [hverdict]; decide)).1
      have hmem := hregular.mem_round hwatch.never hopen hr
      rw [hpolicy, hnode, if_neg (by rw [perlNum_toDigits]; decide)] at hmem
      exact hmem
  | bad =>
      rw [hv] at hverdict
      rcases hwatch'.policy_bad hr hverdict with ⟨a, ha, hpolicy⟩
      have hopen := (probeNode_of_verdict hr (by rw [hverdict]; decide)).1
      have hmem := hregular.mem_round hwatch.never hopen hr
      rw [hpolicy, hnode, settle, increment, perlNum_toDigits] at hmem
      have hreached : ∀ n : Node, n.retryDown = Nat.toDigits 10 (0 + 1) → ¬ o.Reached n a := by
        intro n hn
        rcases ha with rfl | rfl <;>
          simpa only [Reached, hn, perlNum_toDigits] using Nat.not_le.mpr htwo
      rw [if_neg (hreached _ rfl), if_pos ⟨.inr hwatch.retry, rfl⟩,
        Server.setComment_setComment] at hmem
      have hsaved : ∀ n : Node, n.comment =
          r.comment ++ entries (o.pairs (List.replicate k (.down, 1))) →
          n.retryUp = Nat.toDigits 10 0 → n.retryDown = Nat.toDigits 10 (0 + 1) →
          o.savedComment n = o.oddComment r.comment (k + 1) := by
        intro n hn hup hdown
        rw [savedComment, hn, hup, hdown, oddComment, pairs, pairs, List.map_append, entries,
          entries, List.flatMap_append, List.append_assoc]
        simp [nameOf]
      rw [hsaved _ rfl rfl rfl] at hmem
      exact hmem

end Odd

/-- With two bad runs or more for {lit}`--retry_down`, a server with an odd number of separators in
its comment is never taken out of its hostgroup, whatever it answers.  The first bad run puts two
entries behind the comment, and every other one puts one more. -/
theorem odd_comment_never_leaves {o : Options} {t : Servers} {r : Server}
    (hregular : o.Regular t) (hwatch : o.Watches r) (hfree : o.FreeBase r.comment)
    (hodd : r.comment.countP isEntrySep % 2 = 1) (htwo : 2 ≤ o.retryDown) (hr : r ∈ t.rows)
    (es : List Env) :
    r.setComment (o.oddComment r.comment ((o.verdicts r es t).count .bad)) ∈
      (o.rounds es t).rows := by
  suffices h : ∀ k t, o.Regular t → r.setComment (o.oddComment r.comment k) ∈ t.rows →
      r.setComment (o.oddComment r.comment (k + (o.verdicts r es t).count .bad)) ∈
        (o.rounds es t).rows by
    have hstart := h 0 t hregular hr
    rwa [Nat.zero_add] at hstart
  induction es with
  | nil => exact fun k t _ hr => hr
  | cons e es ih =>
      intro k t hregular hr
      have hrest := ih _ _ (hregular.round hwatch.never e)
        (hwatch.round_odd (e := e) hregular hfree hodd htwo hr)
      rw [Nat.add_assoc, ← List.count_append] at hrest
      exact hrest

/-- A row with a comment. -/
def zoneRow : Server :=
  writerRow.setComment ['z', 'o', 'n', 'e', '=', '1']

/-- A server with the comment {lit}`zone=1` that refuses queries all the time. -/
theorem odd_comment_never_leaves_sample :
    zoneRow.setComment (retryOptions.oddComment zoneRow.comment 4) ∈
      (retryOptions.rounds (List.replicate 4 refusingEnv) ⟨[zoneRow], by decide⟩).rows := by
  have hcount : (retryOptions.verdicts zoneRow (List.replicate 4 refusingEnv)
      ⟨[zoneRow], by decide⟩).count .bad = 4 := by
    decide +kernel
  have hfree : retryOptions.FreeBase zoneRow.comment := by
    intro c hfound
    have hlength := hfound.length_le
    rw [length_lower, length_lower] at hlength
    cases c <;> exact absurd hlength (by decide +kernel)
  have hnever := odd_comment_never_leaves (o := retryOptions) (t := ⟨[zoneRow], by decide⟩)
    (r := zoneRow) ⟨by decide, by decide, by decide, by decide⟩ (watches_writerRow.setComment _)
    hfree (by decide) (by decide) (List.mem_singleton.mpr rfl) (List.replicate 4 refusingEnv)
  rwa [hcount] at hnever

end Proxysql
end ClusterPlaybooks
