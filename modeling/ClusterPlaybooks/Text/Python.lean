import Mathlib.Data.List.TakeWhile

/-!
# Text functions of Python scripts

Scripts strip the lines of their input files, pass over comments and blank lines, and split
the rest into words.

Main results:

- Theorem {lit}`splitWords_strip`: stripping a line does not change its words.
- Theorem {lit}`strip_eq_nil_iff`: a line is empty after stripping exactly if it has no words.
- Theorem {lit}`head?_strip`: the first letter that is left is the first letter of the first word.
-/

namespace ClusterPlaybooks
namespace Text

variable {c : Char} {s u : List Char}

/-- Characters for which {lit}`str.isspace` holds. -/
def isSpace (c : Char) : Bool :=
  (9 ≤ c.toNat && c.toNat ≤ 13) || (28 ≤ c.toNat && c.toNat ≤ 32) || c.toNat == 0x85 ||
    c.toNat == 0xA0 || c.toNat == 0x1680 || (0x2000 ≤ c.toNat && c.toNat ≤ 0x200A) ||
    c.toNat == 0x2028 || c.toNat == 0x2029 || c.toNat == 0x202F || c.toNat == 0x205F ||
    c.toNat == 0x3000

/-- {lit}`str.strip()`. -/
def strip (s : List Char) : List Char :=
  ((s.dropWhile isSpace).reverse.dropWhile isSpace).reverse

/-- {lit}`str.split()`: the words of a line. -/
def splitWords (s : List Char) : List (List Char) :=
  (s.splitOnP isSpace).filter fun w => !w.isEmpty

/-- {lit}`str.split(sep)[0]`: the text before the first place where the separator occurs. -/
def beforeFirst (sep : List Char) : List Char → List Char
  | [] => []
  | c :: s => if sep.isPrefixOf (c :: s) then [] else c :: beforeFirst sep s

/-! ## Words of a stripped line -/

@[simp]
theorem splitWords_nil : splitWords [] = [] := by
  simp [splitWords]

/-- A space between two texts separates their words. -/
theorem splitWords_append_cons (hc : isSpace c = true) (s u : List Char) :
    splitWords (s ++ c :: u) = splitWords s ++ splitWords u := by
  rw [splitWords, List.splitOnP_append_cons s u hc, List.filter_append]
  rfl

/-- A space in front belongs to no word. -/
theorem splitWords_cons_space (hc : isSpace c = true) (s : List Char) :
    splitWords (c :: s) = splitWords s := by
  have happend := splitWords_append_cons hc [] s
  rwa [List.nil_append, splitWords_nil, List.nil_append] at happend

/-- Any other letter begins a word. -/
theorem splitWords_cons_plain (hc : isSpace c = false) (s : List Char) :
    ∃ w ws, splitWords (c :: s) = (c :: w) :: ws := by
  rcases List.exists_cons_of_ne_nil (List.splitOnP_ne_nil isSpace s) with ⟨w, ws, hsplit⟩
  refine ⟨w, ws.filter fun w => !w.isEmpty, ?_⟩
  rw [splitWords, List.splitOnP_cons_eq_if_modifyHead, if_neg (by simp [hc]), hsplit]
  simp

/-- Spaces alone are no words. -/
theorem splitWords_spaces (hu : ∀ c ∈ u, isSpace c = true) : splitWords u = [] := by
  induction u with
  | nil => exact splitWords_nil
  | cons c u ih =>
      rw [splitWords_cons_space (hu c List.mem_cons_self)]
      exact ih fun d hd => hu d (List.mem_cons_of_mem c hd)

/-- Spaces at the end belong to no word. -/
theorem splitWords_append_spaces (hu : ∀ c ∈ u, isSpace c = true) (s : List Char) :
    splitWords (s ++ u) = splitWords s := by
  cases u with
  | nil => rw [List.append_nil]
  | cons c u =>
      rw [splitWords_append_cons (hu c List.mem_cons_self),
        splitWords_spaces fun d hd => hu d (List.mem_cons_of_mem c hd), List.append_nil]

/-- Spaces that are dropped in front belong to no word. -/
theorem splitWords_dropWhile (s : List Char) :
    splitWords (s.dropWhile isSpace) = splitWords s := by
  induction s with
  | nil => rfl
  | cons c s ih =>
      cases hc : isSpace c with
      | true => rw [List.dropWhile_cons_of_pos hc, ih, splitWords_cons_space hc]
      | false => rw [List.dropWhile_cons_of_neg (by simp [hc])]

/-- A text is its stripped end and the spaces after it. -/
private theorem append_dropped (s : List Char) :
    ∃ u, (∀ c ∈ u, isSpace c = true) ∧ s = (s.reverse.dropWhile isSpace).reverse ++ u := by
  refine ⟨(s.reverse.takeWhile isSpace).reverse, fun c hc => ?_, ?_⟩
  · exact List.mem_takeWhile_imp (List.mem_reverse.mp hc)
  · rw [← List.reverse_append, List.takeWhile_append_dropWhile, List.reverse_reverse]

/-- Stripping a line does not change its words. -/
theorem splitWords_strip (s : List Char) : splitWords (strip s) = splitWords s := by
  rcases append_dropped (s.dropWhile isSpace) with ⟨u, hu, hsplit⟩
  calc
    splitWords (strip s) = splitWords (strip s ++ u) := (splitWords_append_spaces hu _).symm
    _ = splitWords (s.dropWhile isSpace) := by rw [strip, ← hsplit]
    _ = splitWords s := splitWords_dropWhile s

/-- What is left after stripping begins with a letter of a word. -/
theorem strip_cons (hstrip : strip s = c :: u) : isSpace c = false := by
  rcases append_dropped (s.dropWhile isSpace) with ⟨v, _, hsplit⟩
  rw [← strip, hstrip, List.cons_append] at hsplit
  have hhead := List.head?_dropWhile_not isSpace s
  rw [hsplit] at hhead
  simpa using hhead

/-- A line is empty after stripping exactly if it has no words. -/
theorem strip_eq_nil_iff : strip s = [] ↔ splitWords s = [] := by
  rw [← splitWords_strip s]
  cases hstrip : strip s with
  | nil => simp
  | cons c u =>
      rcases splitWords_cons_plain (strip_cons hstrip) u with ⟨w, ws, hwords⟩
      simp [hwords]

/-- The first letter that is left is the first letter of the first word. -/
theorem head?_strip {w : List Char} {ws : List (List Char)} (hwords : splitWords s = w :: ws) :
    (strip s).head? = w.head? := by
  rw [← splitWords_strip s] at hwords
  cases hstrip : strip s with
  | nil => simp [hstrip] at hwords
  | cons c u =>
      rcases splitWords_cons_plain (strip_cons hstrip) u with ⟨v, vs, hplain⟩
      rw [hstrip, hplain] at hwords
      rw [← (List.cons.inj hwords).1]
      rfl

end Text
end ClusterPlaybooks
