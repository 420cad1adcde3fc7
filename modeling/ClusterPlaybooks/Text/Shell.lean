import Mathlib.Data.List.Infix

/-!
# Text tools of shell scripts

Scripts look at the output of other commands with {lit}`grep`, {lit}`awk` and {lit}`wc`, and
decide with numeric tests.  A line is a list of characters.  A numeric test of a text that is
no number is an error, which counts as false.

Main results:

- Theorem {lit}`occurs_iff`: a text is found in a line exactly if it is a part of it.
- Theorem {lit}`occurs_of_occursWord`: a word that is found is a part of the line.
- Theorem {lit}`test_toDigits`: a test of a decimal number is a test of the number.
- Theorem {lit}`lastField_append`: the last field of a line is its last word.
-/

namespace ClusterPlaybooks
namespace Text

variable {pat line rest w : List Char}

/-! ## Searching a line -/

/-- The text occurs in the line. -/
def occurs (pat : List Char) : List Char → Bool
  | [] => pat.isEmpty
  | c :: cs => pat.isPrefixOf (c :: cs) || occurs pat cs

/-- A text is found exactly if it is a part of the line. -/
theorem occurs_iff : occurs pat line = true ↔ pat <:+: line := by
  induction line with
  | nil => simp [occurs]
  | cons c cs ih =>
      rw [List.infix_cons_iff, ← ih, ← List.isPrefixOf_iff_prefix, occurs, Bool.or_eq_true]

/-- A text with a letter that the line does not have is not found. -/
theorem occurs_eq_false {c : Char} (hc : c ∈ pat) (hline : c ∉ line) :
    occurs pat line = false := by
  rw [Bool.eq_false_iff, Ne, occurs_iff]
  exact fun hpart => hline (hpart.subset hc)

/-- Characters that words are made of. -/
def isWordChar (c : Char) : Bool :=
  c.isAlphanum || c == '_'

/-- No word goes on at the start of the text. -/
def wordEnds : List Char → Bool
  | [] => true
  | c :: _ => !isWordChar c

/--
The text occurs in the line with no word character right before or after it;
{lit}`free` says that there is none before the line.
-/
def occursWord (pat : List Char) (free : Bool) : List Char → Bool
  | [] => free && pat.isEmpty
  | c :: cs =>
      (free && pat.isPrefixOf (c :: cs) && wordEnds ((c :: cs).drop pat.length)) ||
        occursWord pat (!isWordChar c) cs

/-- A word that is found is a part of the line. -/
theorem occurs_of_occursWord {free : Bool} (hword : occursWord pat free line = true) :
    occurs pat line = true := by
  induction line generalizing free with
  | nil =>
      simp only [occursWord, Bool.and_eq_true] at hword
      exact hword.2
  | cons c cs ih =>
      simp only [occursWord, Bool.or_eq_true, Bool.and_eq_true] at hword
      rw [occurs, Bool.or_eq_true]
      rcases hword with hhere | hlater
      · exact Or.inl hhere.1.2
      · exact Or.inr (ih hlater)

/-- A word with a letter that the line does not have is not found. -/
theorem occursWord_eq_false {c : Char} {free : Bool} (hc : c ∈ pat) (hline : c ∉ line) :
    occursWord pat free line = false := by
  rw [Bool.eq_false_iff]
  intro hword
  have hnot := occurs_eq_false hc hline
  rw [occurs_of_occursWord hword] at hnot
  cases hnot

/-- A word at the start of the line is found. -/
theorem occursWord_append (hpat : pat ≠ []) (hends : wordEnds rest = true) :
    occursWord pat true (pat ++ rest) = true := by
  cases pat with
  | nil => exact absurd rfl hpat
  | cons c cs =>
      have hstart : (c :: cs).isPrefixOf (c :: (cs ++ rest)) = true :=
        List.isPrefixOf_iff_prefix.mpr (List.prefix_append (c :: cs) rest)
      have hdrop : (c :: (cs ++ rest)).drop (c :: cs).length = rest := by simp
      rw [List.cons_append, occursWord, hstart, hdrop, hends]
      rfl

/-- The text begins with something other than a blank. -/
def startsPlain (pat : List Char) : Bool :=
  pat.head?.any fun c => c != ' '

/-- Such a text does not begin at a blank. -/
theorem isPrefixOf_blank (hpat : startsPlain pat = true) :
    pat.isPrefixOf (' ' :: line) = false := by
  cases pat with
  | nil => simp [startsPlain] at hpat
  | cons c cs =>
      have hc : c ≠ ' ' := by simpa [startsPlain] using hpat
      simp [List.isPrefixOf, hc]

/-- Blanks at the start of a line do not matter to such a text. -/
theorem occurs_blanks (hpat : startsPlain pat = true) (count : Nat) :
    occurs pat (List.replicate count ' ' ++ line) = occurs pat line := by
  induction count with
  | zero => rfl
  | succ count ih =>
      rw [List.replicate_succ, List.cons_append, occurs, isPrefixOf_blank hpat, ih,
        Bool.false_or]

/-- The same for words. -/
theorem occursWord_blanks (hpat : startsPlain pat = true) (count : Nat) :
    occursWord pat true (List.replicate count ' ' ++ line) = occursWord pat true line := by
  induction count with
  | zero => rfl
  | succ count ih =>
      have hblank : (!isWordChar ' ') = true := by decide
      rw [List.replicate_succ, List.cons_append, occursWord, hblank, isPrefixOf_blank hpat, ih,
        Bool.and_false, Bool.false_and, Bool.false_or]

/-! ## Fields -/

/-- Characters that separate words. -/
def isBlank (c : Char) : Bool :=
  c == ' ' || c == '\t' || c == '\n'

/-- The last word of a line, which {lit}`awk` prints as {lit}`$NF`. -/
def lastField (line : List Char) : List Char :=
  ((line.reverse.dropWhile isBlank).takeWhile fun c => !isBlank c).reverse

/-- The last field of a line is its last word. -/
theorem lastField_append {b : Char} (hb : isBlank b = true) (hw : w ≠ [])
    (hplain : ∀ c ∈ w, isBlank c = false) : lastField (line ++ b :: w) = w := by
  have hreverse : (line ++ b :: w).reverse = w.reverse ++ b :: line.reverse := by simp
  have hdrop : (w.reverse ++ b :: line.reverse).dropWhile isBlank =
      w.reverse ++ b :: line.reverse := by
    cases hlast : w.reverse with
    | nil => exact absurd (List.reverse_eq_nil_iff.mp hlast) hw
    | cons c cs =>
        have hc : isBlank c = false := hplain c (by rw [← List.mem_reverse, hlast]; simp)
        rw [List.cons_append, List.dropWhile_cons_of_neg (by simp [hc])]
  have htake : (w.reverse ++ b :: line.reverse).takeWhile (fun c => !isBlank c) = w.reverse := by
    rw [List.takeWhile_append_of_pos]
    · simp [hb]
    · intro c hc
      simp [hplain c (List.mem_reverse.mp hc)]
  rw [lastField, hreverse, hdrop, htake, List.reverse_reverse]

/-- The words of a line. -/
def words (line : List Char) : List (List Char) :=
  (line.splitOnP isBlank).filter fun w => !w.isEmpty

/-- A word is split no further. -/
theorem words_eq_singleton (hw : w ≠ []) (hplain : ∀ c ∈ w, isBlank c = false) :
    words w = [w] := by
  have hsplit : w.splitOnP isBlank = [w] :=
    List.splitOnP_eq_singleton hplain
  simp [words, hsplit, hw]

/-! ## Command substitution and numeric tests -/

/-- The output of a command as one text, without the last newline. -/
def captured (lines : List (List Char)) : List Char :=
  ['\n'].intercalate lines

/-- A single line is captured as it is. -/
theorem captured_singleton (line : List Char) : captured [line] = line := by
  simp [captured]

/-- A text with a separator before each further part. -/
theorem intercalate_cons {α : Type} (sep part : List α) (parts : List (List α)) :
    sep.intercalate (part :: parts) = part ++ parts.flatMap fun w => sep ++ w := by
  induction parts generalizing part with
  | nil => simp
  | cons w parts ih =>
      rw [List.intercalate_cons_cons, ih, List.flatMap_cons, List.append_assoc, List.append_assoc]

/-- Read a text as a number, if it is one. -/
def number : List Char → Option Int
  | '-' :: w =>
      if w ≠ [] ∧ w.all Char.isDigit then some (-(Nat.ofDigitChars 10 w 0 : Int)) else none
  | w => if w ≠ [] ∧ w.all Char.isDigit then some (Nat.ofDigitChars 10 w 0) else none

/-- A numeric test of a text; it is false for a text that is no number. -/
def test (w : List Char) (p : Int → Bool) : Bool :=
  (number w).any p

/-- A decimal number consists of digits. -/
theorem all_isDigit_toDigits (n : Nat) : (Nat.toDigits 10 n).all Char.isDigit = true := by
  rw [List.all_eq_true]
  intro c hc
  exact Nat.isDigit_of_mem_toDigits (by decide) (by decide) hc

/-- Nothing else is in it. -/
theorem notMem_toDigits {c : Char} (hc : c.isDigit = false) (n : Nat) :
    c ∉ Nat.toDigits 10 n := by
  intro hmem
  have hdigit := List.all_eq_true.mp (all_isDigit_toDigits n) c hmem
  rw [hc] at hdigit
  cases hdigit

/-- Different numbers have different digits. -/
theorem toDigits_injective {m n : Nat} (heq : Nat.toDigits 10 m = Nat.toDigits 10 n) : m = n := by
  rw [← Nat.ofDigitChars_ten_toDigits (n := m), heq, Nat.ofDigitChars_ten_toDigits]

/-- A text of digits is read as a number. -/
theorem number_of_all (hne : w ≠ []) (hall : w.all Char.isDigit = true) :
    number w = some (Nat.ofDigitChars 10 w 0 : Int) := by
  unfold number
  split
  · simp at hall
  · rw [if_pos ⟨hne, hall⟩]

/-- A decimal number is read back. -/
theorem number_toDigits (n : Nat) : number (Nat.toDigits 10 n) = some (n : Int) := by
  rw [number_of_all Nat.toDigits_ne_nil (all_isDigit_toDigits n), Nat.ofDigitChars_ten_toDigits]

/-- A test of a decimal number is a test of the number. -/
@[simp]
theorem test_toDigits (n : Nat) (p : Int → Bool) : test (Nat.toDigits 10 n) p = p n := by
  simp [test, number_toDigits]

/-- Only the number zero begins with the digit zero. -/
theorem head?_toDigits_eq_zero (n : Nat) : (Nat.toDigits 10 n).head? = some '0' ↔ n = 0 := by
  induction n using Nat.strongRecOn with
  | ind n ih =>
      by_cases hlt : n < 10
      · have hdigit : ∀ d < 10, [Nat.digitChar d].head? = some '0' ↔ d = 0 := by decide
        rw [Nat.toDigits_of_lt_base hlt]
        exact hdigit n hlt
      · have hge : 10 ≤ n := Nat.le_of_not_lt hlt
        have hhead : (Nat.toDigits 10 n).head? = (Nat.toDigits 10 (n / 10)).head? := by
          rw [Nat.toDigits_of_base_le (by decide) hge,
            List.head?_append_of_ne_nil _ Nat.toDigits_ne_nil]
        rw [hhead, ih (n / 10) (by omega)]
        omega

/-- The number of lines a command prints, which {lit}`wc -l` prints. -/
def lineCount (lines : List (List Char)) : List Char :=
  Nat.toDigits 10 lines.length

/-- A test of the number of lines. -/
@[simp]
theorem test_lineCount (lines : List (List Char)) (p : Int → Bool) :
    test (lineCount lines) p = p lines.length :=
  test_toDigits lines.length p

/-- The number of lines that match, which {lit}`grep -c` prints. -/
def grepCount (p : List Char → Bool) (lines : List (List Char)) : List Char :=
  Nat.toDigits 10 (lines.countP p)

/-- A test of the number of matches. -/
@[simp]
theorem test_grepCount (p : List Char → Bool) (lines : List (List Char)) (q : Int → Bool) :
    test (grepCount p lines) q = q (lines.countP p) :=
  test_toDigits (lines.countP p) q

end Text
end ClusterPlaybooks
