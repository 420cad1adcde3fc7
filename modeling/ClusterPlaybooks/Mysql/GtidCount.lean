import ClusterPlaybooks.Arith.Intervals
import ClusterPlaybooks.Text.Shell
import ClusterPlaybooks.Text.Sql
import Mathlib.Data.Finset.Prod
import Mathlib.Data.List.TakeWhile

/-!
# Counting the transactions of a GTID set

A GTID set is a finite set of pairs of a server UUID and a transaction number.  The server writes
it in a normal form, {lit}`uuid:1-5:7` for each UUID.  The function {lit}`GTID_COUNT` walks over
this text from colon to colon, and tells a single number from an interval by the positions of
the next dash, colon and comma.

Main results:

- Theorem {lit}`text_injective`: the text of a normal form determines the set.
- Theorem {lit}`exists_normalForm`: every set has a normal form.
- Theorem {lit}`countStep_entry`: one turn of the loop adds the size of one interval.
- Theorem {lit}`countLoop_entries`: the loop ends with the number of all transactions.
- Theorem {lit}`gtidCount_eq_card`: the function counts the set, as long as the sums that occur
  are exact floating-point numbers.
-/

namespace ClusterPlaybooks
namespace Gtid

open Arith Text

/-! ## Sets and their normal form -/

/-- The characters of a UUID: hexadecimal digits and dashes. -/
def isUuidChar (c : Char) : Bool :=
  c.isDigit || ('a' ≤ c && c ≤ 'f') || c == '-'

/-- The UUID of a server. -/
@[ext]
structure Uuid where
  text : List Char
  chars : text.all isUuidChar = true
deriving DecidableEq

/-- A GTID set: pairs of a UUID and a transaction number. -/
abbrev Gtids := Finset (Uuid × ℕ+)

/-- The text of an interval, {lit}`n` or {lit}`n-m`. -/
def intervalText (i : Interval) : List Char :=
  if i.first = i.last then Nat.toDigits 10 i.first
  else Nat.toDigits 10 i.first ++ '-' :: Nat.toDigits 10 i.last

/-- The transactions of one server. -/
@[ext]
structure Group where
  uuid : Uuid
  intervals : List Interval
  nonempty : intervals ≠ []
  separated : Separated intervals

/-- The text of a group, {lit}`uuid:interval:interval`. -/
def Group.text (g : Group) : List Char :=
  g.uuid.text ++ g.intervals.flatMap fun i => ':' :: intervalText i

/-- A set in normal form: one group for each UUID. -/
structure NormalForm where
  groups : List Group
  distinct : (groups.map Group.uuid).Nodup

/-- The text of a set in normal form, its groups separated by a comma and a newline. -/
def NormalForm.text (s : NormalForm) : List Char :=
  [',', '\n'].intercalate (s.groups.map Group.text)

/-- All intervals in the order of the text. -/
def NormalForm.intervals (s : NormalForm) : List Interval :=
  s.groups.flatMap Group.intervals

/-- The pairs of several groups. -/
def pairs : List Group → Gtids
  | [] => ∅
  | g :: gs => {g.uuid} ×ˢ numbers g.intervals ∪ pairs gs

/-! ## The functions -/

/-- {lit}`IFZERO`. -/
def ifZero (a b : Nat) : Nat :=
  if a = 0 then b else a

/-- {lit}`LOCATE2`: a text that is not found is located after the end. -/
def locate2 (needle haystack : List Char) (offset : Nat) : Nat :=
  ifZero (locate needle haystack offset) (haystack.length + 1)

/-- {lit}`GTID_NORMALIZE`. -/
def gtidNormalize (gtidSubtract : List Char → List Char → List Char) (g : List Char) : List Char :=
  gtidSubtract g []

/-- The sum the loop computes for an interval, from left to right in floating-point numbers. -/
def addInterval (gtidSet : List Char) (result : Int)
    (colonPos nextDashPos nextColonPos nextCommaPos : Nat) : Int :=
  addDouble (subDouble (addDouble (roundDouble result)
      (readDouble (substr gtidSet (nextDashPos + 1)
        (min nextColonPos nextCommaPos - (nextDashPos + 1)))))
    (readDouble (substr gtidSet (colonPos + 1) (nextDashPos - (colonPos + 1))))) 1

/-- One turn of the loop: the new result and the new position. -/
def countStep (gtidSet : List Char) (result : Int) (colonPos : Nat) : Int × Nat :=
  let nextDashPos := locate2 ['-'] gtidSet (colonPos + 1)
  let nextColonPos := locate2 [':'] gtidSet (colonPos + 1)
  let nextCommaPos := locate2 [','] gtidSet (colonPos + 1)
  (if nextDashPos < nextColonPos ∧ nextDashPos < nextCommaPos then
      addInterval gtidSet result colonPos nextDashPos nextColonPos nextCommaPos
    else result + 1,
    nextColonPos)

/-- The loop, with a bound on its turns. -/
def countLoop (gtidSet : List Char) : Nat → Int → Nat → Option Int
  | 0, _, _ => none
  | fuel + 1, result, colonPos =>
      if colonPos = gtidSet.length + 1 then some result
      else countLoop gtidSet fuel (countStep gtidSet result colonPos).1
        (countStep gtidSet result colonPos).2

/-- {lit}`RETURNS TEXT(10000)`: a text type with room for 65535 bytes. -/
def returnText (s : List Char) : Option (List Char) :=
  if s.length ≤ 65535 then some s else none

/-- {lit}`RETURNS INT`: a number out of range is an error. -/
def returnInt (x : Int) : Option Int :=
  if -2 ^ 31 ≤ x ∧ x < 2 ^ 31 then some x else none

/-- {lit}`GTID_COUNT`, where the server supplies {lit}`GTID_SUBTRACT`. -/
def gtidCount (gtidSubtract : List Char → List Char → List Char) (fuel : Nat) (g : List Char) :
    Option Int :=
  (returnText (gtidNormalize gtidSubtract g)).bind fun gtidSet =>
    (countLoop gtidSet fuel 0 (locate2 [':'] gtidSet 1)).bind returnInt

/-- {lit}`gr_applier_queue_length`, with the received set and the executed set. -/
def grApplierQueueLength (gtidSubtract : List Char → List Char → List Char) (fuel : Nat)
    (received executed : List Char) : Option Int :=
  gtidCount gtidSubtract fuel (gtidSubtract received executed)

/--
What the server supplies: texts denote sets, and {lit}`GTID_SUBTRACT` gives the text of the
normal form of the difference.
-/
structure Server where
  normal : Gtids → NormalForm
  pairs_normal : ∀ S, pairs (normal S).groups = S
  Denotes : List Char → Gtids → Prop
  denotes_nil : Denotes [] ∅
  denotes_text : ∀ S, Denotes (normal S).text S
  gtidSubtract : List Char → List Char → List Char
  gtidSubtract_eq : ∀ a b A B, Denotes a A → Denotes b B →
    gtidSubtract a b = (normal (A \ B)).text

/--
The sums in which an end of an interval occurs are exact: the number of transactions before the
interval and the end together are at most {lit}`2 ^ 53`.
-/
def Representable (counted : Nat) (is : List Interval) : Prop :=
  ∀ before i after, is = before ++ i :: after → i.first < i.last →
    counted + total before + i.last ≤ 2 ^ 53

/-! ## The size of a set -/

section Pairs

variable {g : Group} {gs : List Group} {p : Uuid × ℕ+}

/-- A pair of several groups is in one of them. -/
@[simp]
theorem mem_pairs : p ∈ pairs gs ↔ ∃ g ∈ gs, p.1 = g.uuid ∧ p.2 ∈ numbers g.intervals := by
  induction gs with
  | nil => simp [pairs]
  | cons g gs ih =>
      rw [pairs, Finset.mem_union, ih, Finset.mem_product, Finset.mem_singleton]
      simp only [List.mem_cons, exists_eq_or_imp]

/-- The number of pairs is the sum of the sizes of all intervals. -/
theorem card_pairs (hdistinct : (gs.map Group.uuid).Nodup) :
    (pairs gs).card = total (gs.flatMap Group.intervals) := by
  induction gs with
  | nil => rfl
  | cons g gs ih =>
      rw [List.map_cons, List.nodup_cons] at hdistinct
      have hdisjoint : Disjoint ({g.uuid} ×ˢ numbers g.intervals) (pairs gs) := by
        rw [Finset.disjoint_left]
        intro p hp hmem
        rcases mem_pairs.mp hmem with ⟨g', hg', huuid, _⟩
        have hsame : p.1 = g.uuid := by simpa using (Finset.mem_product.mp hp).1
        exact hdistinct.1 (List.mem_map.mpr ⟨g', hg', huuid.symm.trans hsame⟩)
      rw [pairs, Finset.card_union_of_disjoint hdisjoint, Finset.card_product,
        Finset.card_singleton, Nat.one_mul, card_numbers g.separated, ih hdistinct.2,
        List.flatMap_cons, total_append]

/-- The transactions of one server in a set are a group. -/
theorem exists_group {S : Gtids} {u : Uuid} (hu : u ∈ S.image Prod.fst) :
    ∃ g : Group, g.uuid = u ∧ ∀ n, n ∈ numbers g.intervals ↔ (u, n) ∈ S := by
  rcases exists_separated ((S.filter fun p => p.1 = u).image Prod.snd) with ⟨is, hsep, hnumbers⟩
  have hmem : ∀ n, n ∈ numbers is ↔ (u, n) ∈ S := by
    intro n
    rw [hnumbers]
    simp
  have hne : is ≠ [] := by
    rintro rfl
    rcases Finset.mem_image.mp hu with ⟨⟨u', n⟩, hp, rfl⟩
    simpa [numbers] using (hmem n).mpr hp
  exact ⟨⟨u, is, hne, hsep⟩, rfl, hmem⟩

/-- The transactions of several servers in a set are a list of groups. -/
theorem exists_groups {S : Gtids} (us : List Uuid) (hus : ∀ u ∈ us, u ∈ S.image Prod.fst) :
    ∃ gs, gs.map Group.uuid = us ∧ ∀ p, p ∈ pairs gs ↔ p.1 ∈ us ∧ p ∈ S := by
  induction us with
  | nil => exact ⟨[], rfl, by simp [pairs]⟩
  | cons u us ih =>
      rcases exists_group (hus u List.mem_cons_self) with ⟨g, huuid, hg⟩
      rcases ih (fun u' hu' => hus u' (List.mem_cons_of_mem u hu')) with ⟨gs, hmap, hgs⟩
      refine ⟨g :: gs, by rw [List.map_cons, huuid, hmap], ?_⟩
      rintro ⟨u', n⟩
      rw [pairs, Finset.mem_union, hgs, Finset.mem_product, Finset.mem_singleton, hg, huuid,
        List.mem_cons, or_and_right]
      apply or_congr_left
      constructor
      · rintro ⟨rfl, hmem⟩
        exact ⟨rfl, hmem⟩
      · rintro ⟨rfl, hmem⟩
        exact ⟨rfl, hmem⟩

/-- Every set has a normal form. -/
theorem exists_normalForm (S : Gtids) : ∃ s : NormalForm, pairs s.groups = S := by
  rcases exists_groups (S.image Prod.fst).toList (fun u hu => Finset.mem_toList.mp hu) with
    ⟨gs, hmap, hgs⟩
  refine ⟨⟨gs, hmap ▸ Finset.nodup_toList _⟩, ?_⟩
  ext p
  rw [hgs, Finset.mem_toList, and_iff_right_iff_imp]
  exact Finset.mem_image_of_mem Prod.fst

end Pairs

/-! ## The text determines the set -/

section Texts

/-- Other characters do not occur in a UUID. -/
theorem notMem_uuid {c : Char} (hc : isUuidChar c = false) (u : Uuid) : c ∉ u.text := by
  intro hmem
  have hchar := List.all_eq_true.mp u.chars c hmem
  rw [hc] at hchar
  cases hchar

/-- A character other than a digit and the dash is not in the text of an interval. -/
theorem notMem_intervalText {c : Char} (hc : c.isDigit = false) (hdash : c ≠ '-') (i : Interval) :
    c ∉ intervalText i := by
  unfold intervalText
  split
  · exact notMem_toDigits hc _
  · simp [notMem_toDigits hc, hdash]

/-- A group has no comma. -/
theorem notMem_groupText (g : Group) : ',' ∉ g.text := by
  rw [Group.text, List.mem_append, List.mem_flatMap]
  rintro (huuid | ⟨i, _, hi⟩)
  · exact notMem_uuid rfl g.uuid huuid
  · rcases List.mem_cons.mp hi with heq | hi
    · cases heq
    · exact notMem_intervalText rfl (by decide) i hi

/-- The text of an interval determines it. -/
theorem intervalText_injective : Function.Injective intervalText := by
  intro i j heq
  have hsplit : ∀ i : Interval, (intervalText i).splitOn '-' =
      if i.first = i.last then [Nat.toDigits 10 i.first]
      else [Nat.toDigits 10 i.first, Nat.toDigits 10 i.last] := by
    intro i
    have hdash : ∀ n, '-' ∉ Nat.toDigits 10 n := notMem_toDigits rfl
    unfold intervalText
    split
    · exact List.splitOn_eq_singleton (hdash _)
    · rw [List.splitOn_append_cons_self_of_not_mem (hdash _),
        List.splitOn_eq_singleton (hdash _)]
  have hparts := congrArg (List.splitOn '-') heq
  rw [hsplit, hsplit] at hparts
  rcases i with ⟨first, last, hle⟩
  rcases j with ⟨first', last', hle'⟩
  have hdigits : ∀ m n : ℕ+, Nat.toDigits 10 m = Nat.toDigits 10 n → m = n := fun m n hmn =>
    PNat.coe_inj.mp (toDigits_injective hmn)
  by_cases hsingle : first = last
  · by_cases hsingle' : first' = last'
    · simp only [hsingle, hsingle', if_true, List.cons.injEq, and_true] at hparts
      rw [Interval.mk.injEq, hsingle, hsingle', hdigits _ _ hparts]
      exact ⟨rfl, rfl⟩
    · simp [hsingle, hsingle'] at hparts
  · by_cases hsingle' : first' = last'
    · simp [hsingle, hsingle'] at hparts
    · simp only [hsingle, hsingle', if_false, List.cons.injEq, and_true] at hparts
      rw [Interval.mk.injEq]
      exact ⟨hdigits _ _ hparts.1, hdigits _ _ hparts.2⟩

/-- The text of a group determines it. -/
theorem groupText_injective : Function.Injective Group.text := by
  have hsplit : ∀ g : Group, g.text.splitOn ':' = g.uuid.text :: g.intervals.map intervalText := by
    intro g
    have hparts : ∀ w ∈ g.intervals.map intervalText, ':' ∉ w := by
      intro w hw
      rcases List.mem_map.mp hw with ⟨i, _, rfl⟩
      exact notMem_intervalText rfl (by decide) i
    rw [← splitOn_parts (notMem_uuid rfl g.uuid) hparts, List.flatMap_map, Group.text]
  intro g g' heq
  have hparts := congrArg (List.splitOn ':') heq
  rw [hsplit, hsplit, List.cons.injEq] at hparts
  apply Group.ext
  · exact Uuid.ext hparts.1
  · exact List.map_injective_iff.mpr intervalText_injective hparts.2

/-- A text that is not empty, taken apart at its commas. -/
theorem splitOn_text {s : NormalForm} {g : Group} {gs : List Group} (hgroups : s.groups = g :: gs) :
    s.text.splitOn ',' = g.text :: gs.map fun g => '\n' :: g.text := by
  have hparts : ∀ w ∈ gs.map (fun g => '\n' :: g.text), ',' ∉ w := by
    intro w hw
    rcases List.mem_map.mp hw with ⟨g', _, rfl⟩
    simp [notMem_groupText]
  rw [← splitOn_parts (notMem_groupText g) hparts, NormalForm.text, hgroups, List.map_cons,
    intercalate_cons, List.flatMap_map, List.flatMap_map]
  rfl

/-- Only the empty set has the empty text. -/
theorem text_eq_nil_iff {s : NormalForm} : s.text = [] ↔ s.groups = [] := by
  cases hgroups : s.groups with
  | nil => simp [NormalForm.text, hgroups]
  | cons g gs =>
      have hmem : ':' ∈ s.text := by
        rcases List.exists_mem_of_ne_nil g.intervals g.nonempty with ⟨i, hi⟩
        rw [NormalForm.text, hgroups, List.map_cons, intercalate_cons, Group.text]
        simp only [List.mem_append, List.mem_flatMap, List.mem_cons]
        exact Or.inl (Or.inr ⟨i, hi, by simp⟩)
      simp [List.ne_nil_of_mem hmem]

/-- The text of a normal form determines its groups. -/
theorem text_injective {s t : NormalForm} (heq : s.text = t.text) : s.groups = t.groups := by
  cases hs : s.groups with
  | nil =>
      symm
      rw [← text_eq_nil_iff, ← heq, text_eq_nil_iff]
      exact hs
  | cons g gs =>
      cases ht : t.groups with
      | nil =>
          rw [← text_eq_nil_iff, ← heq, text_eq_nil_iff, hs] at ht
          cases ht
      | cons g' gs' =>
          have hparts := congrArg (List.splitOn ',') heq
          rw [splitOn_text hs, splitOn_text ht, List.cons.injEq] at hparts
          have hinjective : Function.Injective fun g : Group => '\n' :: g.text := by
            intro a b hab
            exact groupText_injective (List.cons.inj hab).2
          rw [groupText_injective hparts.1, List.map_injective_iff.mpr hinjective hparts.2]

end Texts

/-! ## One turn of the loop -/

section Loop

variable {pre rest tail lead : List Char} {c : Char} {i : Interval} {is : List Interval}
  {result : Int} {counted : Nat}

/-- The next position of a character after a given part of the text. -/
theorem locate2_singleton :
    locate2 [c] (pre ++ rest) (pre.length + 1) = pre.length + 1 + rest.idxOf c := by
  rw [locate2, locate_singleton, ifZero]
  by_cases hmem : c ∈ rest
  · rw [if_pos hmem, if_neg (by omega)]
  · rw [if_neg hmem, if_pos rfl, List.idxOf_eq_length hmem, List.length_append]
    omega

/-- An interval is followed by a colon, by a comma or by nothing. -/
def Ends (tail : List Char) : Prop :=
  min (tail.idxOf ':') (tail.idxOf ',') = 0

/-- A decimal number is read back. -/
theorem readDouble_toDigits {n : Nat} (hn : n ≤ 2 ^ 53) : readDouble (Nat.toDigits 10 n) = n := by
  have hdigits : (Nat.toDigits 10 n).takeWhile Char.isDigit = Nat.toDigits 10 n :=
    List.takeWhile_eq_self_iff.mpr (List.all_eq_true.mp (all_isDigit_toDigits n))
  rw [readDouble, hdigits, Nat.ofDigitChars_ten_toDigits, roundDouble_of_le (by simpa using hn)]

/-- The next position of a character that is no digit. -/
theorem locate2_digits (hc : c.isDigit = false) (n : Nat) :
    locate2 [c] (pre ++ (Nat.toDigits 10 n ++ rest)) (pre.length + 1) =
      pre.length + 1 + ((Nat.toDigits 10 n).length + rest.idxOf c) := by
  rw [locate2_singleton, List.idxOf_append_of_notMem (notMem_toDigits hc n)]

/-- A turn at a single number adds one. -/
theorem countStep_single (n : Nat) (htail : Ends tail) :
    (countStep (pre ++ (Nat.toDigits 10 n ++ tail)) result pre.length).1 = result + 1 := by
  unfold Ends at htail
  simp only [countStep, locate2_digits (rfl : ('-').isDigit = false),
    locate2_digits (rfl : (':').isDigit = false), locate2_digits (rfl : (',').isDigit = false)]
  rw [if_neg (by omega)]

/-- The next position of a colon or a comma behind a dash. -/
theorem locate2_range (hc : c.isDigit = false) (hdash : '-' ≠ c) (m n : Nat) :
    locate2 [c] (pre ++ (Nat.toDigits 10 m ++ '-' :: (Nat.toDigits 10 n ++ rest)))
        (pre.length + 1) =
      pre.length + 1 + ((Nat.toDigits 10 m).length + ((Nat.toDigits 10 n).length +
        rest.idxOf c + 1)) := by
  rw [locate2_digits hc, List.idxOf_cons_ne _ hdash,
    List.idxOf_append_of_notMem (notMem_toDigits hc n)]

/-- A turn at two numbers with a dash computes with their values. -/
theorem countStep_range (m n : Nat) (htail : Ends tail) :
    (countStep (pre ++ (Nat.toDigits 10 m ++ '-' :: (Nat.toDigits 10 n ++ tail))) result
        pre.length).1 =
      addDouble (subDouble (addDouble (roundDouble result) (readDouble (Nat.toDigits 10 n)))
        (readDouble (Nat.toDigits 10 m))) 1 := by
  unfold Ends at htail
  simp only [countStep, locate2_digits (rfl : ('-').isDigit = false), List.idxOf_cons_self,
    locate2_range (rfl : (':').isDigit = false) (by decide),
    locate2_range (rfl : (',').isDigit = false) (by decide)]
  rw [if_pos (by omega), addInterval]
  have hfirst : substr (pre ++ (Nat.toDigits 10 m ++ '-' :: (Nat.toDigits 10 n ++ tail)))
      (pre.length + 1) (pre.length + 1 + ((Nat.toDigits 10 m).length + 0) - (pre.length + 1)) =
        Nat.toDigits 10 m := by
    have hlength : pre.length + 1 + ((Nat.toDigits 10 m).length + 0) - (pre.length + 1) =
        (Nat.toDigits 10 m).length := by
      omega
    rw [hlength, substr_append]
  have hsecond : substr (pre ++ (Nat.toDigits 10 m ++ '-' :: (Nat.toDigits 10 n ++ tail)))
      (pre.length + 1 + ((Nat.toDigits 10 m).length + 0) + 1) (Nat.toDigits 10 n).length =
        Nat.toDigits 10 n := by
    have hshift : pre ++ (Nat.toDigits 10 m ++ '-' :: (Nat.toDigits 10 n ++ tail)) =
        (pre ++ Nat.toDigits 10 m ++ ['-']) ++ (Nat.toDigits 10 n ++ tail) := by
      simp
    have hoffset : pre.length + 1 + ((Nat.toDigits 10 m).length + 0) + 1 =
        (pre ++ Nat.toDigits 10 m ++ ['-']).length + 1 := by
      simp only [List.length_append, List.length_singleton]
      omega
    rw [hshift, hoffset, substr_append]
  have hlength : min
      (pre.length + 1 + ((Nat.toDigits 10 m).length +
        ((Nat.toDigits 10 n).length + tail.idxOf ':' + 1)))
      (pre.length + 1 + ((Nat.toDigits 10 m).length +
        ((Nat.toDigits 10 n).length + tail.idxOf ',' + 1))) -
        (pre.length + 1 + ((Nat.toDigits 10 m).length + 0) + 1) = (Nat.toDigits 10 n).length := by
    omega
  rw [hlength, hfirst, hsecond]

/-- One turn of the loop adds the size of an interval, if the sums are exact. -/
theorem countStep_interval (htail : Ends tail)
    (hexact : i.first < i.last → counted + i.last ≤ 2 ^ 53) :
    (countStep (pre ++ (intervalText i ++ tail)) counted pre.length).1 =
      (counted + i.count : Nat) := by
  have hle : (i.first : ℕ) ≤ i.last := i.le
  have hpos : 0 < (i.first : ℕ) := i.first.pos
  rw [intervalText, Interval.count]
  split
  · rename_i hsame
    rw [countStep_single _ htail, hsame]
    omega
  · rename_i hdiff
    have hlt : counted + (i.last : ℕ) ≤ 2 ^ 53 := hexact (lt_of_le_of_ne i.le hdiff)
    have hsum : addDouble (counted : Int) (i.last : ℕ) = (counted + i.last : ℕ) :=
      addDouble_of_le (by omega)
    have hdifference : subDouble (counted + i.last : ℕ) (i.first : ℕ) =
        (counted + i.last - i.first : ℕ) := by
      rw [subDouble_of_le (by omega)]
      omega
    rw [List.append_assoc, List.cons_append, countStep_range _ _ htail,
      readDouble_toDigits (by omega), readDouble_toDigits (by omega),
      roundDouble_of_le (by omega), hsum, hdifference, addDouble_of_le (by omega)]
    omega

/-! ## The whole loop -/

/-- The text of intervals, each with a colon before it and a text before the colon. -/
def entriesText (es : List (List Char × Interval)) : List Char :=
  es.flatMap fun e => e.1 ++ ':' :: intervalText e.2

/-- What may stand before the colon of a further interval: nothing, or a comma and a UUID. -/
def Leads (lead : List Char) : Prop :=
  (lead = [] ∨ lead.head? = some ',') ∧ ':' ∉ lead

variable {es : List (List Char × Interval)}

/-- What follows an interval ends it. -/
theorem ends_entriesText (hes : ∀ e ∈ es, Leads e.1) : Ends (entriesText es) := by
  cases es with
  | nil => simp [Ends, entriesText]
  | cons e es =>
      rcases (hes e List.mem_cons_self).1 with hnil | hcomma
      · simp [Ends, entriesText, hnil]
      · rcases List.head?_eq_some_iff.mp hcomma with ⟨w, hw⟩
        simp [Ends, entriesText, hw]

/-- The loop ends when the position is after the text. -/
theorem countLoop_done {text : List Char} {fuel colonPos : Nat} (hfuel : 0 < fuel)
    (hdone : colonPos = text.length + 1) : countLoop text fuel result colonPos = some result := by
  obtain ⟨fuel, rfl⟩ : ∃ n, fuel = n + 1 := ⟨fuel - 1, by omega⟩
  rw [countLoop, if_pos hdone]

/-- The first interval may be counted exactly. -/
theorem representable_head (hexact : Representable counted (i :: is)) :
    i.first < i.last → counted + i.last ≤ 2 ^ 53 := by
  intro hlt
  simpa using hexact [] i is rfl hlt

/-- The intervals after it may be counted exactly. -/
theorem representable_tail (hexact : Representable counted (i :: is)) :
    Representable (counted + i.count) is := by
  intro before j after his hlt
  have hsum := hexact (i :: before) j after (by rw [his, List.cons_append]) hlt
  rw [total_cons] at hsum
  omega

/-- One turn of the loop at an interval, and the position of the next colon. -/
theorem countLoop_step {fuel : Nat} (htail : Ends tail)
    (hexact : i.first < i.last → counted + i.last ≤ 2 ^ 53) :
    countLoop (pre ++ ':' :: (intervalText i ++ tail)) (fuel + 1) counted (pre.length + 1) =
      countLoop (pre ++ ':' :: (intervalText i ++ tail)) fuel (counted + i.count : Nat)
        (pre.length + 1 + 1 + ((intervalText i).length + tail.idxOf ':')) := by
  have htext : pre ++ ':' :: (intervalText i ++ tail) =
      (pre ++ [':']) ++ (intervalText i ++ tail) := by
    simp
  have hlength : pre.length + 1 = (pre ++ [':']).length := by
    simp
  have hnext : (countStep ((pre ++ [':']) ++ (intervalText i ++ tail)) counted
      (pre ++ [':']).length).2 =
        (pre ++ [':']).length + 1 + ((intervalText i).length + tail.idxOf ':') := by
    have hcolon : ':' ∉ intervalText i := notMem_intervalText rfl (by decide) i
    show locate2 [':'] _ ((pre ++ [':']).length + 1) = _
    rw [locate2_singleton, List.idxOf_append_of_notMem hcolon]
  have hinside : (pre ++ [':']).length ≠
      ((pre ++ [':']) ++ (intervalText i ++ tail)).length + 1 := by
    simp only [List.length_append]
    omega
  rw [htext, hlength, countLoop, if_neg hinside, countStep_interval htail hexact, hnext]

/-- From an interval on, the loop adds the sizes of all intervals. -/
theorem countLoop_entries {fuel : Nat} (hes : ∀ e ∈ es, Leads e.1)
    (hexact : Representable counted (i :: es.map Prod.snd)) (hfuel : es.length + 2 ≤ fuel) :
    countLoop (pre ++ ':' :: (intervalText i ++ entriesText es)) fuel counted (pre.length + 1) =
      some ((counted + total (i :: es.map Prod.snd) : Nat) : Int) := by
  obtain ⟨fuel, rfl⟩ : ∃ n, fuel = n + 1 := ⟨fuel - 1, by omega⟩
  rw [countLoop_step (ends_entriesText hes) (representable_head hexact)]
  induction es generalizing pre i counted fuel with
  | nil =>
      have hdone : pre.length + 1 + 1 + ((intervalText i).length + (entriesText []).idxOf ':') =
          (pre ++ ':' :: (intervalText i ++ entriesText [])).length + 1 := by
        simp only [entriesText, List.flatMap_nil, List.append_nil, List.length_append,
          List.length_cons, List.idxOf_nil]
        omega
      rw [countLoop_done (by omega) hdone]
      simp
  | cons e es ih =>
      obtain ⟨fuel, rfl⟩ : ∃ n, fuel = n + 1 := ⟨fuel - 1, by omega⟩
      rw [List.forall_mem_cons] at hes
      have hcolon : (entriesText (e :: es)).idxOf ':' = e.1.length := by
        rw [entriesText, List.flatMap_cons, List.append_assoc, List.cons_append,
          List.idxOf_append_of_notMem hes.1.2, List.idxOf_cons_self, Nat.add_zero]
      have htext : pre ++ ':' :: (intervalText i ++ entriesText (e :: es)) =
          (pre ++ ':' :: (intervalText i ++ e.1)) ++
            ':' :: (intervalText e.2 ++ entriesText es) := by
        simp [entriesText]
      have hpos : pre.length + 1 + 1 + ((intervalText i).length + e.1.length) =
          (pre ++ ':' :: (intervalText i ++ e.1)).length + 1 := by
        simp only [List.length_append, List.length_cons]
        omega
      have hrest := representable_tail hexact
      rw [hcolon, htext, hpos,
        countLoop_step (ends_entriesText hes.2) (representable_head hrest),
        ih hes.2 hrest fuel (by rw [List.length_cons] at hfuel; omega), List.map_cons,
        total_cons, total_cons, total_cons, Nat.add_assoc]

end Loop

/-! ## The function -/

section Count

variable {s : NormalForm} {g : Group} {gs : List Group} {lead : List Char}

/-- The intervals of a group with what stands before their colons. -/
def Group.entries (lead : List Char) (g : Group) : List (List Char × Interval) :=
  match g.intervals with
  | [] => []
  | i :: is => (lead ++ g.uuid.text, i) :: is.map fun j => ([], j)

/-- The intervals of all groups with what stands before their colons. -/
def entries : List Group → List (List Char × Interval)
  | [] => []
  | g :: gs => g.entries [] ++ gs.flatMap (Group.entries [',', '\n'])

/-- The entries of a group are its intervals. -/
theorem snd_groupEntries : (g.entries lead).map Prod.snd = g.intervals := by
  unfold Group.entries
  split
  · rename_i hnil
    rw [hnil, List.map_nil]
  · rename_i i is hcons
    simp [hcons, Function.comp_def]

/-- The text of the entries of a group. -/
theorem entriesText_groupEntries : entriesText (g.entries lead) = lead ++ g.text := by
  unfold Group.entries Group.text
  split
  · rename_i hnil
    exact absurd hnil g.nonempty
  · rename_i i is hcons
    simp [entriesText, hcons, List.flatMap_map]

/-- The entries of all groups are all intervals. -/
theorem snd_entries : (entries s.groups).map Prod.snd = s.intervals := by
  unfold NormalForm.intervals
  cases s.groups with
  | nil => rfl
  | cons g gs =>
      simp [entries, snd_groupEntries, List.map_flatMap]

/-- The text of all entries is the text of the normal form. -/
theorem entriesText_entries : entriesText (entries s.groups) = s.text := by
  unfold NormalForm.text
  cases s.groups with
  | nil => rfl
  | cons g gs =>
      have happend : ∀ es es', entriesText (es ++ es') = entriesText es ++ entriesText es' :=
        fun es es' => List.flatMap_append
      have hgroups : entriesText (gs.flatMap (Group.entries [',', '\n'])) =
          gs.flatMap fun g => [',', '\n'] ++ g.text := by
        induction gs with
        | nil => rfl
        | cons g' gs ih =>
            rw [List.flatMap_cons, happend, ih, entriesText_groupEntries, List.flatMap_cons]
      rw [entries, happend, entriesText_groupEntries, hgroups, List.map_cons, intercalate_cons,
        List.flatMap_map, List.nil_append]

/-- The further entries of a group begin at their colon. -/
theorem leads_groupEntries (hlead : lead.head? = some ',') (hcolon : ':' ∉ lead) :
    ∀ e ∈ g.entries lead, Leads e.1 := by
  intro e he
  unfold Group.entries at he
  split at he
  · cases he
  · rcases List.mem_cons.mp he with rfl | he
    · rcases List.head?_eq_some_iff.mp hlead with ⟨w, rfl⟩
      refine ⟨Or.inr rfl, ?_⟩
      rw [List.mem_append]
      rintro (hmem | hmem)
      · exact hcolon hmem
      · exact notMem_uuid rfl g.uuid hmem
    · rcases List.mem_map.mp he with ⟨j, _, rfl⟩
      exact ⟨Or.inl rfl, by simp⟩

/-- The first entry has a UUID before its colon, the others begin with their colon or a comma. -/
theorem entries_cons (g : Group) (gs : List Group) :
    ∃ i es, entries (g :: gs) = (g.uuid.text, i) :: es ∧ ∀ e ∈ es, Leads e.1 := by
  cases hcons : g.intervals with
  | nil => exact absurd hcons g.nonempty
  | cons i is =>
      refine ⟨i, is.map (fun j => ([], j)) ++ gs.flatMap (Group.entries [',', '\n']), ?_, ?_⟩
      · simp [entries, Group.entries, hcons]
      · intro e he
        rcases List.mem_append.mp he with hsame | hfurther
        · rcases List.mem_map.mp hsame with ⟨j, _, rfl⟩
          exact ⟨Or.inl rfl, by simp⟩
        · rcases List.mem_flatMap.mp hfurther with ⟨g', _, hg'⟩
          exact leads_groupEntries rfl (by simp) e hg'

/-- Every entry has at least its colon. -/
theorem length_le_entriesText (es : List (List Char × Interval)) :
    es.length ≤ (entriesText es).length := by
  induction es with
  | nil => simp
  | cons e es ih =>
      simp only [entriesText, List.flatMap_cons, List.length_append, List.length_cons] at ih ⊢
      omega

/-- On the text of a normal form the loop ends with the number of its transactions. -/
theorem countLoop_text {fuel : Nat} (hexact : Representable 0 s.intervals)
    (hfuel : s.text.length < fuel) :
    countLoop s.text fuel 0 (locate2 [':'] s.text 1) = some (total s.intervals : Int) := by
  have hfirst : locate2 [':'] s.text 1 = 0 + 1 + s.text.idxOf ':' :=
    @locate2_singleton [] s.text ':'
  rw [hfirst]
  cases hgroups : s.groups with
  | nil =>
      rw [text_eq_nil_iff.mpr hgroups, NormalForm.intervals, hgroups]
      exact countLoop_done (by omega) rfl
  | cons g gs =>
      rcases entries_cons g gs with ⟨i, es, hentries, hes⟩
      rw [← hgroups] at hentries
      have htext : s.text = g.uuid.text ++ ':' :: (intervalText i ++ entriesText es) := by
        rw [← entriesText_entries, hentries]
        simp [entriesText]
      have hintervals : s.intervals = i :: es.map Prod.snd := by
        rw [← snd_entries, hentries, List.map_cons]
      have hcount : es.length + 1 ≤ s.text.length := by
        have hle := length_le_entriesText (entries s.groups)
        rwa [entriesText_entries, hentries, List.length_cons] at hle
      have hloop : countLoop (g.uuid.text ++ ':' :: (intervalText i ++ entriesText es)) fuel
          ((0 : Nat) : Int) (g.uuid.text.length + 1) =
            some ((0 + total (i :: es.map Prod.snd) : Nat) : Int) :=
        countLoop_entries hes (hintervals ▸ hexact) (by omega)
      rw [Nat.zero_add] at hloop
      rw [hintervals, htext, List.idxOf_append_of_notMem (notMem_uuid rfl g.uuid),
        List.idxOf_cons_self, Nat.add_zero, Nat.add_comm (0 + 1)]
      exact hloop

end Count

/-- The function counts a set, if the sums that occur are exact. -/
theorem gtidCount_of_denotes (srv : Server) {fuel : Nat} {S : Gtids} {g : List Char}
    (hlength : (srv.normal S).text.length ≤ 10000) (hcard : S.card < 2 ^ 31)
    (hexact : Representable 0 (srv.normal S).intervals)
    (hfuel : (srv.normal S).text.length < fuel) (hg : srv.Denotes g S) :
    gtidCount srv.gtidSubtract fuel g = some (S.card : Int) := by
  have hnormal : gtidNormalize srv.gtidSubtract g = (srv.normal S).text := by
    rw [gtidNormalize, srv.gtidSubtract_eq g [] S ∅ hg srv.denotes_nil, Finset.sdiff_empty]
  have htotal : total (srv.normal S).intervals = S.card := by
    rw [NormalForm.intervals, ← card_pairs (srv.normal S).distinct, srv.pairs_normal]
  rw [gtidCount, hnormal, returnText, if_pos (by omega), Option.bind_some,
    countLoop_text hexact hfuel, Option.bind_some, htotal, returnInt, if_pos (by omega)]

/--
As long as the sums that occur are exact, {lit}`GTID_COUNT` gives the number of pairs of a set,
and the length of the queue is the number of received transactions that were not executed.
-/
theorem gtidCount_eq_card (srv : Server) (fuel : Nat) (S : Gtids)
    (hlength : (srv.normal S).text.length ≤ 10000) (hcard : S.card < 2 ^ 31)
    (hexact : Representable 0 (srv.normal S).intervals)
    (hfuel : (srv.normal S).text.length < fuel) :
    (∀ g, srv.Denotes g S → gtidCount srv.gtidSubtract fuel g = some (S.card : Int)) ∧
      ∀ received executed R E, srv.Denotes received R → srv.Denotes executed E → R \ E = S →
        grApplierQueueLength srv.gtidSubtract fuel received executed = some (S.card : Int) := by
  constructor
  · intro g hg
    exact gtidCount_of_denotes srv hlength hcard hexact hfuel hg
  · rintro received executed R E hreceived hexecuted rfl
    rw [grApplierQueueLength, srv.gtidSubtract_eq received executed R E hreceived hexecuted]
    exact gtidCount_of_denotes srv hlength hcard hexact hfuel (srv.denotes_text _)

/-! ## Servers -/

section Servers

variable (s : NormalForm)

/-- A choice of normal forms that contains the given one. -/
noncomputable def normalWith (S : Gtids) : NormalForm :=
  if S = pairs s.groups then s else (exists_normalForm S).choose

/-- They are normal forms of the sets. -/
theorem pairs_normalWith (S : Gtids) : pairs (normalWith s S).groups = S := by
  unfold normalWith
  split
  · rename_i heq
    exact heq.symm
  · exact (exists_normalForm S).choose_spec

/-- Different sets have different texts. -/
theorem normalWith_text_injective {A B : Gtids}
    (heq : (normalWith s A).text = (normalWith s B).text) : A = B := by
  rw [← pairs_normalWith s A, ← pairs_normalWith s B, text_injective heq]

open Classical in
/-- {lit}`GTID_SUBTRACT` on the texts of these normal forms. -/
noncomputable def subtractWith (a b : List Char) : List Char :=
  if h : ∃ S : Gtids × Gtids, a = (normalWith s S.1).text ∧ b = (normalWith s S.2).text then
    (normalWith s (h.choose.1 \ h.choose.2)).text
  else []

/-- It gives the text of the difference. -/
theorem subtractWith_text (A B : Gtids) :
    subtractWith s (normalWith s A).text (normalWith s B).text = (normalWith s (A \ B)).text := by
  have hex : ∃ S : Gtids × Gtids, (normalWith s A).text = (normalWith s S.1).text ∧
      (normalWith s B).text = (normalWith s S.2).text :=
    ⟨(A, B), rfl, rfl⟩
  have hA := normalWith_text_injective s hex.choose_spec.1
  have hB := normalWith_text_injective s hex.choose_spec.2
  rw [subtractWith, dif_pos hex, ← hA, ← hB]

/-- A server that writes the set of a normal form in this form. -/
noncomputable def serverWith : Server where
  normal := normalWith s
  pairs_normal := pairs_normalWith s
  Denotes := fun t S => t = (normalWith s S).text
  denotes_nil := by
    have hempty : (normalWith s ∅).groups = [] := by
      cases hgroups : (normalWith s ∅).groups with
      | nil => rfl
      | cons g gs =>
          rcases List.exists_mem_of_ne_nil g.intervals g.nonempty with ⟨i, hi⟩
          have hmem : (g.uuid, i.first) ∈ pairs (normalWith s ∅).groups := by
            rw [hgroups, mem_pairs]
            exact ⟨g, List.mem_cons_self, rfl, mem_numbers.mpr ⟨i, hi, by simp [i.le]⟩⟩
          rw [pairs_normalWith] at hmem
          cases hmem
    exact (text_eq_nil_iff.mpr hempty).symm
  denotes_text := fun _ => rfl
  gtidSubtract := subtractWith s
  gtidSubtract_eq := by
    rintro a b A B rfl rfl
    exact subtractWith_text s A B

/-- It does so. -/
theorem normal_serverWith : (serverWith s).normal (pairs s.groups) = s :=
  if_pos rfl

end Servers

/-- The UUID of a server. -/
def sampleUuid : Uuid where
  text := "3e11fa47-71ca-11e1-9e33-c80aa9429562".toList
  chars := by decide

/-- The set {lit}`uuid:1-5:7`. -/
def smallSet : NormalForm where
  groups := [{
    uuid := sampleUuid
    intervals := [⟨1, 5, by decide⟩, ⟨7, 7, by decide⟩]
    nonempty := by simp
    separated := by simp [Separated] }]
  distinct := by simp

/-- The first five transactions and the seventh are six. -/
theorem gtidCount_eq_card_six :
    gtidCount (serverWith smallSet).gtidSubtract 100 smallSet.text = some 6 ∧
      grApplierQueueLength (serverWith smallSet).gtidSubtract 100 smallSet.text [] = some 6 := by
  have hnormal := normal_serverWith smallSet
  have hcard : (pairs smallSet.groups).card = 6 := by
    rw [card_pairs smallSet.distinct]
    decide
  have hexact : Representable 0 smallSet.intervals := by
    intro before i after hsplit _
    have hmem : i ∈ smallSet.intervals := by
      rw [hsplit]
      simp
    have hbefore : total before ≤ 6 := by
      have htotal : total smallSet.intervals = 6 := by decide
      rw [hsplit, total_append] at htotal
      omega
    have hlast : (i.last : ℕ) ≤ 7 := by
      have hall : ∀ i ∈ smallSet.intervals, (i.last : ℕ) ≤ 7 := by decide
      exact hall i hmem
    omega
  have hcounts := gtidCount_eq_card (serverWith smallSet) 100 (pairs smallSet.groups)
    (by rw [hnormal]; decide +kernel) (by rw [hcard]; decide) (by rw [hnormal]; exact hexact)
    (by rw [hnormal]; decide +kernel)
  rw [hcard] at hcounts
  have hdenotes : (serverWith smallSet).Denotes smallSet.text (pairs smallSet.groups) := by
    have htext := (serverWith smallSet).denotes_text (pairs smallSet.groups)
    rwa [hnormal] at htext
  exact ⟨hcounts.1 _ hdenotes, hcounts.2 _ _ _ _ hdenotes (serverWith smallSet).denotes_nil
    Finset.sdiff_empty⟩

/-- The set {lit}`uuid:1-2:9007199254740990-9007199254740991`. -/
def largeSet : NormalForm where
  groups := [{
    uuid := sampleUuid
    intervals := [⟨1, 2, by decide⟩,
      ⟨⟨9007199254740990, by decide⟩, ⟨9007199254740991, by decide⟩, Nat.le_succ _⟩]
    nonempty := by simp
    separated := by simp [Separated] }]
  distinct := by simp

/--
Two transactions were counted before an interval that ends at {lit}`2 ^ 53 - 1`.  Their sum with
this end is not a floating-point number, and the function counts three of four transactions.
-/
theorem gtidCount_inexact :
    (largeSet.text.length ≤ 10000 ∧ (∀ i ∈ largeSet.intervals, (i.last : ℕ) < 2 ^ 53) ∧
      (pairs largeSet.groups).card = 4) ∧
    (serverWith largeSet).Denotes largeSet.text (pairs largeSet.groups) ∧
    gtidCount (serverWith largeSet).gtidSubtract 100 largeSet.text = some 3 := by
  have hnormal := normal_serverWith largeSet
  have hdenotes : (serverWith largeSet).Denotes largeSet.text (pairs largeSet.groups) := by
    have htext := (serverWith largeSet).denotes_text (pairs largeSet.groups)
    rwa [hnormal] at htext
  have hnormalize : gtidNormalize (serverWith largeSet).gtidSubtract largeSet.text =
      largeSet.text := by
    rw [gtidNormalize, (serverWith largeSet).gtidSubtract_eq _ [] _ ∅ hdenotes
      (serverWith largeSet).denotes_nil, Finset.sdiff_empty, hnormal]
  have hloop : ((returnText largeSet.text).bind fun gtidSet =>
      (countLoop gtidSet 100 0 (locate2 [':'] gtidSet 1)).bind returnInt) = some 3 := by
    decide +kernel
  refine ⟨⟨by decide +kernel, by decide, ?_⟩, hdenotes, ?_⟩
  · rw [card_pairs largeSet.distinct]
    decide
  · rw [gtidCount, hnormalize, hloop]

end Gtid
end ClusterPlaybooks
