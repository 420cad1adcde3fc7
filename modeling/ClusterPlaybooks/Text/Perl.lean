import ClusterPlaybooks.Text.LineEdits
import Mathlib.Data.List.DropRight

/-!
# Text functions of Perl scripts

A script splits a text at a class of characters, reads the pieces as a hash of keys and values,
and cuts entries out of a text with {lit}`s/entry//ig`.

Main results:

- Theorem {lit}`exists_splitOnP_append`: the pieces of a longer text, with as many closed pieces
  as the first part has separators.
- Theorem {lit}`hashGet_append`: after an even number of pieces the pieces at the end of a text
  are read as keys and values.
- Theorem {lit}`hashGet_eq_none`: only the pieces at even places are keys.
- Theorem {lit}`removeAll_entries`: cutting an entry out of a text that ends in entries leaves the
  other ones.
-/

namespace ClusterPlaybooks
namespace Text

variable {p : Char → Bool} {a b s : List Char}

/-! ## Pieces of a text -/

/-- {lit}`split /[...]/`: the pieces between separators, without the empty ones at the end. -/
def perlSplit (p : Char → Bool) (s : List Char) : List (List Char) :=
  (s.splitOnP p).rdropWhile List.isEmpty

/-- White space in a regular expression. -/
def isRegexSpace (c : Char) : Bool :=
  c ∈ [' ', '\t', '\n', '\r', '\x0b', '\x0c']

/-- A text in arithmetic: the number its first digits make. -/
def perlNum (s : List Char) : Nat :=
  Nat.ofDigitChars 10 (s.takeWhile Char.isDigit) 0

/-- A decimal number is read back. -/
@[simp]
theorem perlNum_toDigits (n : Nat) : perlNum (Nat.toDigits 10 n) = n := by
  have hall : (Nat.toDigits 10 n).takeWhile Char.isDigit = Nat.toDigits 10 n :=
    List.takeWhile_eq_self_iff.mpr fun c hc => List.all_eq_true.mp (all_isDigit_toDigits n) c hc
  rw [perlNum, hall, Nat.ofDigitChars_ten_toDigits]

/-- The pieces of a text that goes on: closed pieces, as many as separators, and an open one. -/
theorem exists_splitOnP_append (p : Char → Bool) (a : List Char) :
    ∃ closed last, closed.length = a.countP p ∧
      ∀ s, (a ++ s).splitOnP p = closed ++ (s.splitOnP p).modifyHead (last ++ ·) := by
  induction a with
  | nil => exact ⟨[], [], rfl, fun s => by cases hs : s.splitOnP p <;> simp [hs]⟩
  | cons c a ih =>
      rcases ih with ⟨closed, last, hlength, hpieces⟩
      by_cases hc : p c = true
      · refine ⟨[] :: closed, last, by simp [hc, hlength], fun s => ?_⟩
        rw [List.cons_append, List.splitOnP_cons_eq_if_modifyHead, if_pos hc, hpieces,
          List.cons_append]
      · cases closed with
        | nil =>
            refine ⟨[], c :: last, by simpa [hc] using hlength, fun s => ?_⟩
            rw [List.cons_append, List.splitOnP_cons_eq_if_modifyHead, if_neg hc, hpieces]
            cases s.splitOnP p <;> simp
        | cons piece closed =>
            refine ⟨(c :: piece) :: closed, last, by simpa [hc] using hlength, fun s => ?_⟩
            rw [List.cons_append, List.splitOnP_cons_eq_if_modifyHead, if_neg hc, hpieces]
            simp

/-- The first piece is at the front of the text, the others are found in it. -/
theorem infix_of_splitOnP {first : List Char} {rest : List (List Char)}
    (hpieces : a.splitOnP p = first :: rest) : first <+: a ∧ ∀ w ∈ rest, w <:+: a := by
  induction a generalizing first rest with
  | nil =>
      rw [List.splitOnP_nil, List.cons.injEq] at hpieces
      rw [← hpieces.1, ← hpieces.2]
      exact ⟨List.nil_prefix, fun w hw => absurd hw List.not_mem_nil⟩
  | cons c a ih =>
      rcases List.exists_cons_of_ne_nil (List.splitOnP_ne_nil p a) with ⟨head, tail, hsplit⟩
      have hfound := ih hsplit
      have htail : ∀ w ∈ tail, w <:+: c :: a := fun w hw =>
        (hfound.2 w hw).trans (List.suffix_cons c a).isInfix
      rw [List.splitOnP_cons_eq_if_modifyHead, hsplit] at hpieces
      split at hpieces
      · rw [List.cons.injEq] at hpieces
        rw [← hpieces.1, ← hpieces.2]
        refine ⟨List.nil_prefix, List.forall_mem_cons.mpr ⟨?_, htail⟩⟩
        exact hfound.1.isInfix.trans (List.suffix_cons c a).isInfix
      · rw [List.modifyHead_cons, List.cons.injEq] at hpieces
        rw [← hpieces.1, ← hpieces.2]
        exact ⟨(List.prefix_cons_inj c).mpr hfound.1, htail⟩

/-- The pieces of a text are found in it. -/
theorem infix_of_mem_splitOnP {w : List Char} (hw : w ∈ a.splitOnP p) : w <:+: a := by
  rcases List.exists_cons_of_ne_nil (List.splitOnP_ne_nil p a) with ⟨first, rest, hsplit⟩
  rw [hsplit] at hw
  rcases List.mem_cons.mp hw with rfl | hw
  · exact (infix_of_splitOnP hsplit).1.isInfix
  · exact (infix_of_splitOnP hsplit).2 w hw

/-! ## Hashes -/

/-- The value of a key in the hash that a list of keys and values makes: the last one counts,
and a key without a value has the empty text. -/
def hashGet (key : List Char) : List (List Char) → Option (List Char)
  | [] => none
  | [k] => if k = key then some [] else none
  | k :: v :: rest => hashGet key rest <|> if k = key then some v else none

mutual

/-- The pieces at the places 0, 2, 4 and so on. -/
def evens : List (List Char) → List (List Char)
  | [] => []
  | w :: ws => w :: odds ws

/-- The pieces at the places 1, 3, 5 and so on. -/
def odds : List (List Char) → List (List Char)
  | [] => []
  | _ :: ws => evens ws

end

/-- Places in a list that goes on are counted from the end of the first part. -/
theorem evens_odds_append (ws vs : List (List Char)) :
    evens (ws ++ vs) = evens ws ++ (if ws.length % 2 = 0 then evens vs else odds vs) ∧
      odds (ws ++ vs) = odds ws ++ (if ws.length % 2 = 0 then odds vs else evens vs) := by
  induction ws with
  | nil => simp [evens, odds]
  | cons w ws ih =>
      have hparity : (w :: ws).length % 2 = 0 ↔ ¬ ws.length % 2 = 0 := by
        rw [List.length_cons]
        omega
      simp only [List.cons_append, evens, odds, ih, hparity]
      by_cases heven : ws.length % 2 = 0 <;> simp [heven]

/-- The pieces at even places are pieces. -/
theorem evens_odds_subset (ws : List (List Char)) : evens ws ⊆ ws ∧ odds ws ⊆ ws := by
  induction ws with
  | nil => exact ⟨List.Subset.refl _, List.Subset.refl _⟩
  | cons w ws ih =>
      exact ⟨List.cons_subset_cons w ih.2, fun v hv => List.mem_cons_of_mem w (ih.1 hv)⟩

/-- The first pieces have their keys among those of all pieces. -/
theorem evens_subset {ws vs : List (List Char)} (hfront : ws <+: vs) : evens ws ⊆ evens vs := by
  rcases hfront with ⟨rest, rfl⟩
  rw [(evens_odds_append ws rest).1]
  exact List.subset_append_left _ _

/-- Only the pieces at even places are keys. -/
theorem hashGet_eq_none {key : List Char} {ws : List (List Char)} (hkey : key ∉ evens ws) :
    hashGet key ws = none := by
  fun_induction hashGet key ws with
  | case1 => rfl
  | case2 => exact absurd List.mem_cons_self hkey
  | case3 => rfl
  | case4 k v rest ih =>
      rw [evens, odds, List.mem_cons, not_or] at hkey
      rw [ih hkey.2, if_neg (Ne.symm hkey.1)]
      rfl

/-- A key that is at no even place of a text is not read from it. -/
theorem hashGet_perlSplit_eq_none {key : List Char} (hkey : key ∉ evens (s.splitOnP p)) :
    hashGet key (perlSplit p s) = none :=
  hashGet_eq_none fun h => hkey (evens_subset (List.rdropWhile_prefix _ _) h)

/-- A value is one of the pieces, or empty. -/
theorem mem_of_hashGet {key v : List Char} {ws : List (List Char)}
    (hget : hashGet key ws = some v) : v = [] ∨ v ∈ ws := by
  fun_induction hashGet key ws with
  | case1 => cases hget
  | case2 => exact .inl (Option.some.inj hget).symm
  | case3 => cases hget
  | case4 k v' rest ih =>
      cases hrest : hashGet key rest with
      | some u =>
          rw [hrest] at hget
          cases hget
          exact (ih hrest).imp id fun hmem => List.mem_cons_of_mem _ (List.mem_cons_of_mem _ hmem)
      | none =>
          rw [hrest] at hget
          change (if k = key then some v' else none) = some v at hget
          split at hget
          · cases hget
            exact .inr (by simp)
          · cases hget

/-- The characters of a value are characters of the text. -/
theorem mem_of_hashGet_perlSplit {key v : List Char} {c : Char}
    (hget : hashGet key (perlSplit p s) = some v) (hc : c ∈ v) : c ∈ s := by
  rcases mem_of_hashGet hget with rfl | hv
  · cases hc
  · exact (infix_of_mem_splitOnP ((List.rdropWhile_prefix _ _).subset hv)).subset hc

/-- After an even number of pieces keys are keys. -/
theorem hashGet_append {key : List Char} {ws : List (List Char)} (heven : ws.length % 2 = 0)
    (vs : List (List Char)) : hashGet key (ws ++ vs) = (hashGet key vs <|> hashGet key ws) := by
  fun_induction hashGet key ws with
  | case1 => simp
  | case2 | case3 => simp at heven
  | case4 k v rest ih =>
      rw [List.cons_append, List.cons_append, hashGet, ih (by simp at heven; omega)]
      cases hashGet key vs <;> rfl

/-! ## Cutting entries out -/

/-- A text in lower case. -/
def lower (s : List Char) : List Char :=
  s.map Char.toLower

/-- The text begins with the pattern, in upper or lower case. -/
def beginsWith (pat s : List Char) : Bool :=
  (lower pat).isPrefixOf (lower s)

/-- {lit}`s/pat//ig` after the given number of characters of the match before. -/
def removeFrom (pat : List Char) : Nat → List Char → List Char
  | _, [] => []
  | skip + 1, _ :: s => removeFrom pat skip s
  | 0, c :: s =>
      if beginsWith pat (c :: s) then removeFrom pat (pat.length - 1) s
      else c :: removeFrom pat 0 s

/-- {lit}`s/pat//ig` for a pattern without special characters. -/
def removeAll (pat s : List Char) : List Char :=
  removeFrom pat 0 s

@[simp]
theorem lower_append (a b : List Char) : lower (a ++ b) = lower a ++ lower b :=
  List.map_append

@[simp]
theorem lower_cons (c : Char) (s : List Char) : lower (c :: s) = c.toLower :: lower s :=
  rfl

@[simp]
theorem lower_nil : lower [] = [] :=
  rfl

@[simp]
theorem length_lower (s : List Char) : (lower s).length = s.length :=
  List.length_map _

@[simp]
theorem removeAll_nil (pat : List Char) : removeAll pat [] = [] :=
  rfl

/-- The characters of a match are passed over. -/
theorem removeFrom_eq_drop (pat : List Char) (skip : Nat) (s : List Char) :
    removeFrom pat skip s = removeAll pat (s.drop skip) := by
  induction s generalizing skip with
  | nil => cases skip <;> rfl
  | cons c s ih =>
      cases skip with
      | zero => rfl
      | succ skip => exact ih skip

/-- What is left after cutting was there. -/
theorem mem_of_mem_removeFrom {pat : List Char} {skip : Nat} {c : Char}
    (hc : c ∈ removeFrom pat skip s) : c ∈ s := by
  fun_induction removeFrom pat skip s with
  | case1 => exact hc
  | case2 _ d s ih => exact List.mem_cons_of_mem d (ih hc)
  | case3 d s _ ih => exact List.mem_cons_of_mem d (ih hc)
  | case4 d s _ ih =>
      rcases List.mem_cons.mp hc with rfl | hc
      · exact List.mem_cons_self
      · exact List.mem_cons_of_mem d (ih hc)

/-- A match is cut out. -/
theorem removeAll_of_match {pat q : List Char} (hne : pat ≠ []) (hq : lower q = lower pat)
    (s : List Char) : removeAll pat (q ++ s) = removeAll pat s := by
  have hlength : q.length = pat.length := by
    rw [← length_lower, hq, length_lower]
  cases q with
  | nil => exact absurd (List.eq_nil_of_length_eq_zero hlength.symm) hne
  | cons c q =>
      have hbegins : beginsWith pat (c :: (q ++ s)) = true := by
        rw [beginsWith, List.isPrefixOf_iff_prefix, ← hq, ← List.cons_append, lower_append]
        exact List.prefix_append _ _
      rw [List.cons_append, removeAll, removeFrom, if_pos hbegins, removeFrom_eq_drop]
      rw [← hlength, List.length_cons, Nat.add_sub_cancel, List.drop_left]

/-- A text in which no match begins stays. -/
theorem removeAll_append {pat : List Char}
    (hnone : ∀ y, y ≠ [] → y <:+ a → beginsWith pat (y ++ s) = false) :
    removeAll pat (a ++ s) = a ++ removeAll pat s := by
  induction a with
  | nil => rfl
  | cons c a ih =>
      have hbegins := hnone (c :: a) (List.cons_ne_nil c a) List.suffix_rfl
      rw [List.cons_append] at hbegins
      rw [List.cons_append, removeAll, removeFrom, hbegins, if_neg Bool.false_ne_true]
      exact congrArg (c :: ·) (ih fun y hne hy => hnone y hne (hy.trans (List.suffix_cons c a)))

/-! ## Entries -/

/-- One entry of a list of settings that is kept in a text. -/
def entry (k v : List Char) : List Char :=
  k ++ '=' :: (v ++ [';'])

/-- The characters that separate keys and values. -/
def isEntrySep (c : Char) : Bool :=
  c == ';' || c == '='

/-- Neither separator is in the text. -/
def NoSep (w : List Char) : Prop :=
  ';' ∉ w ∧ '=' ∉ w

/-- Splitting an entry gives its key and its value. -/
theorem splitOnP_entry {k v : List Char} (hk : NoSep k) (hv : NoSep v) (s : List Char) :
    (entry k v ++ s).splitOnP isEntrySep = k :: v :: s.splitOnP isEntrySep := by
  have hplain : ∀ w, NoSep w → ∀ c ∈ w, isEntrySep c = false := by
    intro w hw c hc
    have hsemi : c ≠ ';' := fun heq => hw.1 (heq ▸ hc)
    have hequal : c ≠ '=' := fun heq => hw.2 (heq ▸ hc)
    simp [isEntrySep, hsemi, hequal]
  have htext : entry k v ++ s = k ++ '=' :: (v ++ ';' :: s) := by
    simp [entry]
  rw [htext, List.splitOnP_append_cons _ _ (by decide), List.splitOnP_append_cons _ _ (by decide),
    List.splitOnP_eq_singleton (hplain k hk), List.splitOnP_eq_singleton (hplain v hv)]
  rfl

/-- What is no lower-case letter is not changed by writing a text in lower case. -/
theorem eq_of_toLower_eq {c d : Char} (hc : c.isLower = false) (heq : d.toLower = c) : d = c := by
  delta Char.toLower at heq
  split at heq
  · rename_i hupper
    -- an upper-case letter becomes a lower-case one, and {lit}`c` is none
    have hval : c.val = d.val + ('a'.val - 'A'.val) := by rw [← heq]
    have hlower : c.isLower = true := by
      have hbounds : 'A'.val.toNat = 65 ∧ 'Z'.val.toNat = 90 ∧ 'a'.val.toNat = 97 ∧
          'z'.val.toNat = 122 ∧ ('a'.val - 'A'.val).toNat = 32 := ⟨rfl, rfl, rfl, rfl, rfl⟩
      simp only [ge_iff_le, UInt32.le_iff_toNat_le] at hupper
      delta Char.isLower
      simp only [hval, Bool.and_eq_true, decide_eq_true_eq, ge_iff_le,
        UInt32.le_iff_toNat_le, UInt32.toNat_add]
      omega
    rw [hlower] at hc
    cases hc
  · exact heq

/-- A text without separators has none in lower case. -/
theorem NoSep.lower {w : List Char} (hw : NoSep w) : NoSep (lower w) := by
  constructor
  · intro hmem
    rcases List.mem_map.mp hmem with ⟨d, hd, heq⟩
    exact hw.1 (eq_of_toLower_eq (by decide) heq ▸ hd)
  · intro hmem
    rcases List.mem_map.mp hmem with ⟨d, hd, heq⟩
    exact hw.2 (eq_of_toLower_eq (by decide) heq ▸ hd)

/-- A text with a terminator at its end matches only up to the first terminator. -/
theorem eq_of_terminated {e : Char} {u x rest : List Char} (hu : e ∉ u) (hx : e ∉ x)
    (hmatch : u ++ [e] <+: x ++ e :: rest) : u = x := by
  induction u generalizing x with
  | nil =>
      cases x with
      | nil => rfl
      | cons d x =>
          rw [List.nil_append, List.cons_append, List.cons_prefix_cons] at hmatch
          exact absurd (hmatch.1 ▸ List.mem_cons_self) hx
  | cons c u ih =>
      rw [List.mem_cons, not_or] at hu
      cases x with
      | nil =>
          rw [List.cons_append, List.nil_append, List.cons_prefix_cons] at hmatch
          exact absurd hmatch.1.symm hu.1
      | cons d x =>
          rw [List.cons_append, List.cons_append, List.cons_prefix_cons] at hmatch
          rw [List.mem_cons, not_or] at hx
          rw [hmatch.1, ih hu.2 hx.2 hmatch.2]

/-- If a terminator is in the first part, the match is in the first part. -/
theorem match_left {e : Char} {u x rest : List Char} (hu : e ∉ u) (hx : e ∈ x)
    (hmatch : u ++ [e] <+: x ++ rest) : u ++ [e] <+: x := by
  rcases List.eq_append_cons_of_mem hx with ⟨front, back, rfl, hfront⟩
  rw [List.append_assoc, List.cons_append] at hmatch
  rw [eq_of_terminated hu hfront hmatch]
  exact ⟨back, by simp⟩

/-- A match of an entry that begins in a text which does not have its key would have to begin
with a longer key in front of the entry that follows. -/
theorem not_beginsWith_entry {k v k' v' y : List Char} (hk : NoSep k) (hv : NoSep v)
    (hk' : NoSep k') (hv' : NoSep v') (hfree : ¬ lower k <:+: lower y)
    (hkeys : lower k ≠ lower y ++ lower k') (rest : List Char) :
    beginsWith (entry k v) (y ++ (entry k' v' ++ rest)) = false := by
  rw [Bool.eq_false_iff]
  intro hbegins
  rw [beginsWith, List.isPrefixOf_iff_prefix] at hbegins
  have hpattern : lower (entry k v) = (lower k ++ '=' :: lower v) ++ [';'] := by
    simp [entry]
  have htext : lower (y ++ (entry k' v' ++ rest)) =
      (lower y ++ (lower k' ++ '=' :: lower v')) ++ ';' :: lower rest := by
    simp [entry]
  have hno : ';' ∉ lower k ++ '=' :: lower v := by
    simp [hk.lower.1, hv.lower.1]
  rw [hpattern, htext] at hbegins
  by_cases hsemi : ';' ∈ lower y
  · rw [List.append_assoc (lower y)] at hbegins
    refine hfree (List.IsInfix.trans ?_ (match_left hno hsemi hbegins).isInfix)
    exact ((List.prefix_append _ _).trans (List.prefix_append _ _)).isInfix
  · have hwhole := eq_of_terminated hno (by simp [hsemi, hk'.lower.1, hv'.lower.1]) hbegins
    have hmatch : lower k ++ ['='] <+: lower y ++ (lower k' ++ '=' :: lower v') :=
      ⟨lower v, by rw [← hwhole]; simp⟩
    by_cases hequal : '=' ∈ lower y
    · exact hfree ((List.prefix_append _ _).isInfix.trans
        (match_left hk.lower.2 hequal hmatch).isInfix)
    · rw [← List.append_assoc] at hmatch
      exact hkeys (eq_of_terminated hk.lower.2 (by simp [hequal, hk'.lower.2]) hmatch)

/-! ## Several entries -/

/-- Settings that are kept in a text. -/
def entries (es : List (List Char × List Char)) : List Char :=
  es.flatMap fun e => entry e.1 e.2

@[simp]
theorem entries_nil : entries [] = [] :=
  rfl

@[simp]
theorem entries_cons (e : List Char × List Char) (es : List (List Char × List Char)) :
    entries (e :: es) = entry e.1 e.2 ++ entries es :=
  rfl

/-- Keys and values without separators. -/
def PlainEntries (es : List (List Char × List Char)) : Prop :=
  ∀ e ∈ es, NoSep e.1 ∧ NoSep e.2

/-- The pieces of entries are their keys and values, and an empty one at the end. -/
theorem splitOnP_entries {es : List (List Char × List Char)} (hplain : PlainEntries es) :
    (entries es).splitOnP isEntrySep = (es.flatMap fun e => [e.1, e.2]) ++ [[]] := by
  induction es with
  | nil => rfl
  | cons e es ih =>
      have he := hplain e List.mem_cons_self
      rw [entries_cons, splitOnP_entry he.1 he.2,
        ih fun e' he' => hplain e' (List.mem_cons_of_mem e he')]
      rfl

/-- Behind a text that is empty or ends in a separator entries have pieces of their own. -/
theorem splitOnP_append_of_closed {a : List Char} (hclosed : a = [] ∨ a.getLast? = some ';') :
    ∃ closed, closed.length = a.countP isEntrySep ∧ (∀ w ∈ closed, w <:+: a) ∧
      ∀ s, (a ++ s).splitOnP isEntrySep = closed ++ s.splitOnP isEntrySep := by
  rcases exists_splitOnP_append isEntrySep a with ⟨closed, last, hlength, hpieces⟩
  have hself := hpieces []
  rw [List.append_nil, List.splitOnP_nil, List.modifyHead_cons, List.append_nil] at hself
  have hlast : last = [] := by
    rcases hclosed with rfl | hend
    · rw [List.splitOnP_nil] at hself
      have hsingle : closed = [] := by simpa using congrArg List.length hself
      rw [hsingle] at hself
      exact (List.cons.inj hself).1.symm
    · rcases List.getLast?_eq_some_iff.mp hend with ⟨front, rfl⟩
      rw [List.splitOnP_append_cons _ _ (by decide), List.splitOnP_nil] at hself
      exact (List.cons.inj (List.append_inj_right' hself rfl)).1.symm
  refine ⟨closed, hlength, fun w hw => ?_, fun s => ?_⟩
  · exact infix_of_mem_splitOnP (hself ▸ List.mem_append_left _ hw)
  · rw [hpieces s, hlast]
    cases s.splitOnP isEntrySep <;> rfl

/-- At the odd places of the pieces of entries are the values. -/
theorem odds_entries (es : List (List Char × List Char)) :
    odds ((es.flatMap fun e => [e.1, e.2]) ++ [[]]) = es.map Prod.snd := by
  induction es with
  | nil => rfl
  | cons e es ih =>
      rw [List.flatMap_cons, List.map_cons, ← ih]
      rfl

/-- An ending of two texts is an ending of the second one, or has all of it. -/
theorem suffix_append_cases {y a b : List Char} (hy : y <:+ a ++ b) :
    y <:+ b ∨ ∃ x, x <:+ a ∧ y = x ++ b := by
  rcases List.suffix_or_suffix_of_suffix hy (List.suffix_append a b) with h | ⟨x, rfl⟩
  · exact .inl h
  · rcases hy with ⟨front, hfront⟩
    rw [← List.append_assoc] at hfront
    exact .inr ⟨x, ⟨front, List.append_cancel_right hfront⟩, rfl⟩

/-- An entry matches at a place inside another one only if its key ends the other key there, and
the values are the same. -/
theorem eq_of_beginsWith_entry {k v k' v' y rest : List Char} (hk : NoSep k) (hv : NoSep v)
    (hk' : NoSep k') (hv' : NoSep v') (hy : y <:+ entry k' v') (hne : y ≠ [])
    (hbegins : beginsWith (entry k v) (y ++ rest) = true) :
    lower k <:+ lower k' ∧ lower v = lower v' := by
  rw [beginsWith, List.isPrefixOf_iff_prefix] at hbegins
  have hpattern : lower (entry k v) = (lower k ++ '=' :: lower v) ++ [';'] := by
    simp [entry]
  have hno : ';' ∉ lower k ++ '=' :: lower v := by
    simp [hk.lower.1, hv.lower.1]
  have hplace : (∃ w, w <:+ v' ∧ y = w ++ [';']) ∨
      ∃ x, x <:+ k' ∧ y = x ++ '=' :: (v' ++ [';']) := by
    rcases suffix_append_cases hy with hy | hx
    · rcases List.suffix_cons_iff.mp hy with rfl | hy
      · exact .inr ⟨[], List.nil_suffix, rfl⟩
      · rcases suffix_append_cases hy with hy | hw
        · rcases List.suffix_cons_iff.mp hy with rfl | hy
          · exact .inl ⟨[], List.nil_suffix, rfl⟩
          · exact absurd (List.suffix_nil.mp hy) hne
        · exact .inl hw
    · exact .inr hx
  rcases hplace with ⟨w, hw, rfl⟩ | ⟨x, hx, rfl⟩
  · -- after the equals sign there is none left for the match
    have htext : lower (w ++ [';'] ++ rest) = lower w ++ ';' :: lower rest := by
      simp
    have hw' : NoSep w := ⟨fun h => hv'.1 (hw.mem h), fun h => hv'.2 (hw.mem h)⟩
    rw [hpattern, htext] at hbegins
    have hwhole := eq_of_terminated hno hw'.lower.1 hbegins
    exact absurd (hwhole ▸ List.mem_append_right _ List.mem_cons_self) hw'.lower.2
  · have htext : lower (x ++ '=' :: (v' ++ [';']) ++ rest) =
        (lower x ++ '=' :: lower v') ++ ';' :: lower rest := by
      simp
    have hx' : NoSep x := ⟨fun h => hk'.1 (hx.mem h), fun h => hk'.2 (hx.mem h)⟩
    rw [hpattern, htext] at hbegins
    have hwhole := eq_of_terminated hno (by simp [hx'.lower.1, hv'.lower.1]) hbegins
    have hkey : lower k = lower x := eq_of_terminated hk.lower.2 hx'.lower.2
      ⟨lower v, by simpa using hwhole⟩
    rw [hkey] at hwhole ⊢
    exact ⟨hx.map Char.toLower, by simpa using hwhole⟩

/-- Keys of which none ends another one. -/
def Apart (keys : List (List Char)) : Prop :=
  ∀ k ∈ keys, ∀ k' ∈ keys, lower k <:+ lower k' → k = k'

/-- The key does not occur in the text, in upper or lower case. -/
def FreeOf (k a : List Char) : Prop :=
  ¬ lower k <:+: lower a

/-- Cutting an entry out of a text that ends in entries: only those with the same key and value
are cut out. -/
theorem removeAll_entries {keys : List (List Char)} (hapart : Apart keys) {k v : List Char}
    (hkey : k ∈ keys) (hk : NoSep k) (hv : NoSep v) {a : List Char} (hfree : FreeOf k a)
    {es : List (List Char × List Char)} (hplain : PlainEntries es) (hkeys : ∀ e ∈ es, e.1 ∈ keys)
    (hvalues : ∀ e ∈ es, lower v = lower e.2 → v = e.2) :
    removeAll (entry k v) (a ++ entries es) = a ++ entries (es.filter fun e => e ≠ (k, v)) := by
  have hpat : entry k v ≠ [] := by simp [entry]
  -- no match begins in the first part
  have hfront : removeAll (entry k v) (a ++ entries es) =
      a ++ removeAll (entry k v) (entries es) := by
    apply removeAll_append
    intro y hne hy
    have hy' : ¬ lower k <:+: lower y := fun h => hfree (h.trans (hy.map Char.toLower).isInfix)
    cases es with
    | nil =>
        rw [Bool.eq_false_iff]
        intro hbegins
        rw [entries_nil, List.append_nil, beginsWith, List.isPrefixOf_iff_prefix] at hbegins
        refine hy' (List.IsInfix.trans ?_ hbegins.isInfix)
        exact ⟨[], lower ('=' :: (v ++ [';'])), by simp [entry]⟩
    | cons e es =>
        have he := hplain e List.mem_cons_self
        refine not_beginsWith_entry hk hv he.1 he.2 hy' (fun heq => ?_) _
        have hsame := hapart _ (hkeys e List.mem_cons_self) _ hkey ⟨lower y, heq.symm⟩
        have hlength := congrArg List.length heq
        rw [hsame, List.length_append, length_lower, length_lower] at hlength
        exact hne (List.eq_nil_of_length_eq_zero (by omega))
  rw [hfront]
  congr 1
  clear hfront
  induction es with
  | nil => rfl
  | cons e es ih =>
      have he := hplain e List.mem_cons_self
      have ih := ih (fun e' he' => hplain e' (List.mem_cons_of_mem e he'))
        (fun e' he' => hkeys e' (List.mem_cons_of_mem e he'))
        (fun e' he' => hvalues e' (List.mem_cons_of_mem e he'))
      rw [entries_cons]
      by_cases heq : e = (k, v)
      · rw [heq, removeAll_of_match hpat rfl, ih]
        simp
      · rw [List.filter_cons_of_pos (by simpa using heq), entries_cons, ← ih]
        apply removeAll_append
        intro y hne hy
        rw [Bool.eq_false_iff]
        intro hbegins
        have hsame := eq_of_beginsWith_entry hk hv he.1 he.2 hy hne hbegins
        have hkey' := hapart _ hkey _ (hkeys e List.mem_cons_self) hsame.1
        have hvalue' := hvalues e List.mem_cons_self hsame.2
        exact heq (Prod.ext hkey'.symm hvalue'.symm)

end Text
end ClusterPlaybooks
