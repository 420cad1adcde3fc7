import ClusterPlaybooks.Text.Shell

/-!
# Editing text files line by line

A file is a list of lines, a line is a list of characters.  The line editor without a search
expression adds a line that is missing and leaves a file alone that has it.  With a search
expression it sets the last line that is found.  A replacement changes every line where its
expression matches.

Main results:

- Theorem {lit}`mem_ensureLines`: a file edited again and again holds all the lines that were
  ensured.
- Theorem {lit}`ensureLines_constant`: ensuring one line again and again gives a file of one line.
- Theorem {lit}`occurs_append_cons`: a text is not found across a character it does not have.
- Theorem {lit}`setLine_append`: the last line that is found is set.
- Theorem {lit}`foldl_last`: of several edits only the last one counts.
- Theorem {lit}`trimAfter_append`: the comma at the end of a quoted list is removed.
- Theorem {lit}`uncomment_comment`: a comment sign is removed once.
-/

namespace ClusterPlaybooks
namespace Text

/-- A value that is written into a line: it has no line break. -/
structure OneLine where
  text : List Char
  oneLine : '\n' ∉ text
deriving DecidableEq

/-- A text file. -/
abbrev TextFile := List (List Char)

/-! ## Ensuring a line -/

/-- {lit}`lineinfile` without {lit}`regexp`: the line is appended unless the file has it. -/
def ensureLine (new : List Char) (f : TextFile) : TextFile :=
  if f.contains new then f else f ++ [new]

/-- The edited file has the line and the lines it had before. -/
@[simp]
theorem mem_ensureLine {new l : List Char} {f : TextFile} :
    l ∈ ensureLine new f ↔ l ∈ f ∨ l = new := by
  unfold ensureLine
  split
  · rename_i hnew
    constructor
    · exact Or.inl
    · rintro (hl | rfl)
      · exact hl
      · exact List.contains_iff_mem.mp hnew
  · simp

/-- Ensure one line after the other, starting with the given file. -/
def ensureLines (f : TextFile) (news : List (List Char)) : TextFile :=
  news.foldl (fun g new => ensureLine new g) f

@[simp]
theorem ensureLine_nil (new : List Char) : ensureLine new [] = [new] := by
  simp [ensureLine]

@[simp]
theorem ensureLines_cons (new : List Char) (f : TextFile) (news : List (List Char)) :
    ensureLines f (new :: news) = ensureLines (ensureLine new f) news :=
  rfl

/-- A file edited again and again holds all the lines that were ensured. -/
theorem mem_ensureLines {l : List Char} {f : TextFile} {news : List (List Char)} :
    l ∈ ensureLines f news ↔ l ∈ f ∨ l ∈ news := by
  induction news generalizing f with
  | nil => simp [ensureLines]
  | cons new news ih =>
      rw [ensureLines_cons, ih, mem_ensureLine, List.mem_cons, or_assoc]

/-- Ensuring one line again and again gives a file of one line. -/
theorem ensureLines_constant {new : List Char} {news : List (List Char)}
    (hsame : ∀ l ∈ news, l = new) : ensureLines [new] news = [new] := by
  induction news with
  | nil => rfl
  | cons l news ih =>
      have hstep : ensureLine l [new] = [new] := by
        rw [ensureLine, if_pos (by simp [hsame l])]
      rw [ensureLines_cons, hstep]
      exact ih fun m hm => hsame m (List.mem_cons_of_mem l hm)

/-! ## Searching for a key -/

section Search

variable {pat a b l : List Char} {c : Char}

/-- A prefix does not go beyond a character it does not have. -/
theorem isPrefixOf_append_cons (a b : List Char) (hc : c ∉ pat) :
    pat.isPrefixOf (a ++ c :: b) = pat.isPrefixOf a := by
  induction pat generalizing a with
  | nil => simp
  | cons d pat ih =>
      rw [List.mem_cons, not_or] at hc
      cases a with
      | nil => simp [List.isPrefixOf, Ne.symm hc.1]
      | cons e a =>
          rw [List.cons_append, List.isPrefixOf_cons_cons, List.isPrefixOf_cons_cons, ih a hc.2]

/-- A text is not found across a character it does not have. -/
theorem occurs_append_cons (hpat : pat ≠ []) (hc : c ∉ pat) :
    occurs pat (a ++ c :: b) = (occurs pat a || occurs pat b) := by
  induction a with
  | nil =>
      have hfront : pat.isPrefixOf (c :: b) = pat.isPrefixOf [] :=
        isPrefixOf_append_cons [] b hc
      cases pat with
      | nil => exact absurd rfl hpat
      | cons d pat =>
          show ((d :: pat).isPrefixOf (c :: b) || occurs (d :: pat) b) = occurs (d :: pat) b
          rw [hfront]
          rfl
  | cons e a ih =>
      have hfront : pat.isPrefixOf (e :: (a ++ c :: b)) = pat.isPrefixOf (e :: a) :=
        isPrefixOf_append_cons (e :: a) b hc
      rw [List.cons_append, occurs, hfront, ih, occurs, Bool.or_assoc]

/-- A text that is not found in a line is not found in a part of it. -/
theorem occurs_part_eq_false (hpart : a <:+: l) (hl : occurs pat l = false) :
    occurs pat a = false := by
  rw [Bool.eq_false_iff, Ne, occurs_iff] at hl ⊢
  exact fun hin => hl (hin.trans hpart)

/-- A part that is joined with others is found in the whole text. -/
theorem infix_intercalate {sep : List Char} {parts : List (List Char)} (hl : l ∈ parts) :
    l <:+: sep.intercalate parts := by
  cases parts with
  | nil => cases hl
  | cons part parts =>
      rw [intercalate_cons]
      rcases List.mem_cons.mp hl with rfl | hl
      · exact (List.prefix_append _ _).isInfix
      · rcases List.append_of_mem hl with ⟨s, t, rfl⟩
        refine ⟨part ++ (s.flatMap fun w => sep ++ w) ++ sep, t.flatMap fun w => sep ++ w, ?_⟩
        simp

/-- The parts between separators are found in the text. -/
theorem infix_of_mem_splitOn (hl : l ∈ a.splitOn c) : l <:+: a := by
  have hjoin : [c].intercalate (a.splitOn c) = a := List.intercalate_splitOn c
  have hin : l <:+: [c].intercalate (a.splitOn c) := infix_intercalate hl
  rwa [hjoin] at hin

/-- A character that is in no part and not in the separator is not in the joined text. -/
theorem notMem_intercalate {sep : List Char} {parts : List (List Char)} (hsep : c ∉ sep)
    (hparts : ∀ w ∈ parts, c ∉ w) : c ∉ sep.intercalate parts := by
  cases parts with
  | nil => simp
  | cons part parts =>
      rw [List.forall_mem_cons] at hparts
      rw [intercalate_cons, List.mem_append, List.mem_flatMap]
      rintro (hmem | ⟨w, hw, hmem⟩)
      · exact hparts.1 hmem
      · rcases List.mem_append.mp hmem with hmem | hmem
        · exact hsep hmem
        · exact hparts.2 w hw hmem

end Search

/-! ## Setting a line -/

/-- Replace the last line that is found, if there is one. -/
def setLast (p : List Char → Bool) (new : List Char) : TextFile → Option TextFile
  | [] => none
  | l :: f =>
      match setLast p new f with
      | some g => some (l :: g)
      | none => if p l then some (new :: f) else none

/-- {lit}`lineinfile` with {lit}`regexp`: the last line that is found is set, or one is appended. -/
def setLine (p : List Char → Bool) (new : List Char) (f : TextFile) : TextFile :=
  (setLast p new f).getD (f ++ [new])

section Lines

variable {p : List Char → Bool} {new l : List Char} {f g : TextFile}

/-- Nothing is replaced if nothing is found. -/
theorem setLast_eq_none (hf : ∀ m ∈ f, p m = false) : setLast p new f = none := by
  induction f with
  | nil => rfl
  | cons m f ih =>
      rw [List.forall_mem_cons] at hf
      simp [setLast, ih hf.2, hf.1]

/-- The last line that is found is set. -/
theorem setLine_append (hl : p l = true) (hg : ∀ m ∈ g, p m = false) :
    setLine p new (f ++ l :: g) = f ++ new :: g := by
  have hreplace : setLast p new (f ++ l :: g) = some (f ++ new :: g) := by
    induction f with
    | nil => simp [setLast, setLast_eq_none hg, hl]
    | cons m f ih => simp [setLast, ih]
  rw [setLine, hreplace, Option.getD_some]

/-- A line that is found alone. -/
theorem filter_eq_single (hl : p l = true) (hf : ∀ m ∈ f, p m = false) (hg : ∀ m ∈ g, p m = false) :
    (f ++ l :: g).filter p = [l] := by
  have hnone : ∀ f : TextFile, (∀ m ∈ f, p m = false) → f.filter p = [] := by
    intro f hf
    rw [List.filter_eq_nil_iff]
    intro m hm
    rw [hf m hm]
    simp
  rw [List.filter_append, List.filter_cons_of_pos hl, hnone f hf, hnone g hg, List.nil_append]

end Lines

/-! ## Repeated edits -/

/-- A file whose lines are all left alone is left alone. -/
theorem map_eq_self {edit : List Char → List Char} {f : TextFile} (hf : ∀ m ∈ f, edit m = m) :
    f.map edit = f := by
  rw [List.map_congr_left hf, List.map_id']

/--
If an edit makes the same file of all files of a kind, and keeps them of this kind, then of
several edits only the last one counts.
-/
theorem foldl_last {ρ : Type} (edit : ρ → TextFile → TextFile) {P : TextFile → Prop}
    {Q : ρ → Prop} (hkeep : ∀ r f, Q r → P f → P (edit r f))
    (hsame : ∀ r f g, Q r → P f → P g → edit r f = edit r g) {rs : List ρ} {r : ρ}
    {f : TextFile} (hrs : ∀ q ∈ rs, Q q) (hr : Q r) (hf : P f) :
    (rs ++ [r]).foldl (fun g q => edit q g) f = edit r f := by
  have hrun : P (rs.foldl (fun g q => edit q g) f) := by
    induction rs generalizing f with
    | nil => exact hf
    | cons q rs ih =>
        rw [List.forall_mem_cons] at hrs
        exact ih hrs.2 (hkeep q f hrs.1 hf)
  rw [List.foldl_append]
  exact hsame r _ f hr hrun hf

/-! ## Replacing in lines -/

/-- The comma and the quote that end a quoted list of which each item is followed by a comma. -/
def commaQuote : List Char :=
  [',', '\'']

/-- Remove the comma of the last comma and quote, which a greedy search finds. -/
def dropLastComma : List Char → List Char
  | [] => []
  | c :: cs =>
      if occurs commaQuote cs then c :: dropLastComma cs
      else if commaQuote.isPrefixOf (c :: cs) then cs
      else c :: cs

/-- {lit}`replace` of {lit}`(key.*)(,)(')` by {lit}`\1\3` in a line. -/
def trimAfter (key : List Char) : List Char → List Char
  | [] => []
  | c :: cs =>
      if key.isPrefixOf (c :: cs) then key ++ dropLastComma ((c :: cs).drop key.length)
      else c :: trimAfter key cs

/-- {lit}`replace` of {lit}`(#)(pat.*)` by {lit}`\2` in a line. -/
def uncomment (pat : List Char) : List Char → List Char
  | [] => []
  | c :: cs => if ('#' :: pat).isPrefixOf (c :: cs) then cs else c :: uncomment pat cs

section Replace

variable {key pat l w : List Char}

/-- The comma at the end of a quoted list is removed. -/
theorem dropLastComma_append (w : List Char) : dropLastComma (w ++ commaQuote) = w ++ ['\''] := by
  induction w with
  | nil => rfl
  | cons c w ih =>
      have hfound : occurs commaQuote (w ++ commaQuote) = true :=
        occurs_iff.mpr (List.suffix_append w commaQuote).isInfix
      rw [List.cons_append, dropLastComma, if_pos hfound, ih, List.cons_append]

/-- Lines without the key are left alone. -/
theorem trimAfter_of_not_occurs (hl : occurs key l = false) : trimAfter key l = l := by
  induction l with
  | nil => rfl
  | cons c l ih =>
      rw [occurs, Bool.or_eq_false_iff] at hl
      rw [trimAfter, hl.1, if_neg (by simp), ih hl.2]

/-- The list after the key loses the comma at its end. -/
theorem trimAfter_append (hkey : key ≠ []) (w : List Char) :
    trimAfter key (key ++ (w ++ commaQuote)) = key ++ (w ++ ['\'']) := by
  cases key with
  | nil => exact absurd rfl hkey
  | cons c key =>
      have hfront : (c :: key).isPrefixOf (c :: (key ++ (w ++ commaQuote))) = true :=
        List.isPrefixOf_iff_prefix.mpr (List.prefix_append (c :: key) (w ++ commaQuote))
      rw [List.cons_append, trimAfter, if_pos hfront]
      show _ ++ dropLastComma (((c :: key) ++ (w ++ commaQuote)).drop (c :: key).length) = _
      rw [List.drop_left, dropLastComma_append, List.cons_append]

/-- Lines without the commented text are left alone. -/
theorem uncomment_of_not_occurs (hl : occurs ('#' :: pat) l = false) : uncomment pat l = l := by
  induction l with
  | nil => rfl
  | cons c l ih =>
      rw [occurs, Bool.or_eq_false_iff] at hl
      rw [uncomment, hl.1, if_neg (by simp), ih hl.2]

/-- A line that begins with the commented text loses its comment sign. -/
theorem uncomment_comment (hw : pat <+: w) : uncomment pat ('#' :: w) = w := by
  have hfront : ('#' :: pat).isPrefixOf ('#' :: w) = true :=
    List.isPrefixOf_iff_prefix.mpr (List.cons_prefix_cons.mpr ⟨rfl, hw⟩)
  rw [uncomment, if_pos hfront]

end Replace

end Text
end ClusterPlaybooks
