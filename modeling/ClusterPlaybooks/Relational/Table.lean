import Mathlib.Data.List.Nodup

/-!
# Tables with a primary key

A table is a list of rows whose keys are distinct.  A client changes it one statement after the
other, each of them for the row with a given key, and stops at the first statement that the
primary key refuses, or at a text that is no statement because a value with a quote in it was
pasted between quotes.

Main results:

- Theorem {lit}`Table.map_exec`: whatever every statement leaves alone on the row it is for, a
  whole script leaves alone on all rows, also if it is cut short.
- Theorem {lit}`Table.rows_exec`: if the keys fall into classes which the statements keep and
  which tell the rows apart, no statement is refused and each row follows its own statements.
- Theorem {lit}`follow_eq_self`: statements for keys of other classes do not touch a row.
- Theorem {lit}`pasted_of_notMem`: a value without a quote can be pasted as it is.
-/

namespace ClusterPlaybooks
namespace Relational

variable {ρ κ η : Type} {key : ρ → κ}

/-- Rows with distinct primary keys. -/
@[ext]
structure Table (ρ : Type) {κ : Type} (key : ρ → κ) where
  rows : List ρ
  keys_nodup : (rows.map key).Nodup

/-- {lit}`DELETE FROM t WHERE p`. -/
def Table.delete (t : Table ρ key) (p : ρ → Bool) : Table ρ key where
  rows := t.rows.filter fun r => !p r
  keys_nodup := t.keys_nodup.sublist (List.filter_sublist.map key)

variable [DecidableEq κ]

/-- {lit}`INSERT INTO t VALUES r`, refused if the key is taken. -/
def Table.insert (t : Table ρ key) (r : ρ) : Option (Table ρ key) :=
  if hnew : key r ∈ t.rows.map key then none
  else some
    { rows := t.rows ++ [r]
      keys_nodup := by
        rw [List.map_append, List.map_singleton]
        exact List.nodup_append.mpr ⟨t.keys_nodup, List.nodup_singleton _, fun a ha b hb heq =>
          hnew (List.mem_singleton.mp hb ▸ heq ▸ ha)⟩ }

/-- A new key is accepted, and its row stands at the end. -/
theorem Table.insert_of_notMem {t : Table ρ key} {r : ρ} (hnew : key r ∉ t.rows.map key) :
    ∃ t', t.insert r = some t' ∧ t'.rows = t.rows ++ [r] := by
  rw [Table.insert, dif_neg hnew]
  exact ⟨_, rfl, rfl⟩

/-! ## Statements for one key -/

/-- {lit}`UPDATE t SET set WHERE key = target`, the key being the whole primary key. -/
structure Statement (ρ κ : Type) where
  target : κ
  set : ρ → ρ

/-- What a statement does to one row. -/
def Statement.onRow (key : ρ → κ) (s : Statement ρ κ) (r : ρ) : ρ :=
  if key r = s.target then s.set r else r

/-- The table after one statement, if the primary key allows it. -/
def Table.update (t : Table ρ key) (s : Statement ρ κ) : Option (Table ρ key) :=
  if hkeys : ((t.rows.map (s.onRow key)).map key).Nodup then some ⟨_, hkeys⟩ else none

/-- A script: the statements one after the other, up to the first that is refused. -/
def Table.exec (t : Table ρ key) : List (Statement ρ κ) → Table ρ key
  | [] => t
  | s :: ss =>
      match t.update s with
      | some t' => t'.exec ss
      | none => t

/-- What becomes of one row when it follows all statements that are for its key at their time. -/
def follow (key : ρ → κ) (ss : List (Statement ρ κ)) (r : ρ) : ρ :=
  ss.foldl (fun r s => s.onRow key r) r

/-- A statement for another key leaves a row as it is. -/
theorem Statement.onRow_of_ne {s : Statement ρ κ} {r : ρ} (hne : key r ≠ s.target) :
    s.onRow key r = r :=
  if_neg hne

/-- A statement changes the row with its key. -/
theorem Statement.onRow_of_eq {s : Statement ρ κ} {r : ρ} (heq : key r = s.target) :
    s.onRow key r = s.set r :=
  if_pos heq

/-- An accepted statement has changed every row as it says. -/
theorem Table.rows_of_update {t t' : Table ρ key} {s : Statement ρ κ}
    (hupdate : t.update s = some t') : t'.rows = t.rows.map (s.onRow key) := by
  rw [Table.update] at hupdate
  split at hupdate
  · rw [← Option.some.inj hupdate]
  · exact absurd hupdate (by simp)

/-- A property of the rows that every accepted statement keeps is kept by a script, cut short
or not. -/
theorem Table.exec_induction {P : List ρ → Prop} {ss : List (Statement ρ κ)}
    (hstep : ∀ s ∈ ss, ∀ rows, P rows → P (rows.map (s.onRow key)))
    (t : Table ρ key) (ht : P t.rows) : P (t.exec ss).rows := by
  induction ss generalizing t with
  | nil => exact ht
  | cons s ss ih =>
      rw [Table.exec]
      split
      · rename_i t' hupdate
        apply ih fun s' hs' => hstep s' (List.mem_cons_of_mem s hs')
        rw [rows_of_update hupdate]
        exact hstep s List.mem_cons_self _ ht
      · exact ht

/-- Whatever every statement leaves alone on the row it is for, a script leaves alone on all
rows. -/
theorem Table.map_exec {β : Type} (g : ρ → β) {ss : List (Statement ρ κ)}
    (hkeep : ∀ s ∈ ss, ∀ r, key r = s.target → g (s.set r) = g r) (t : Table ρ key) :
    (t.exec ss).rows.map g = t.rows.map g := by
  refine t.exec_induction (P := fun rows => rows.map g = t.rows.map g) ?_ rfl
  intro s hs rows hrows
  rw [List.map_map, ← hrows]
  apply List.map_congr_left
  intro r _
  by_cases heq : key r = s.target
  · rw [Function.comp_apply, Statement.onRow_of_eq heq, hkeep s hs r heq]
  · rw [Function.comp_apply, Statement.onRow_of_ne heq]

/-- A row whose key no statement is for stays in the table. -/
theorem Table.mem_exec {ss : List (Statement ρ κ)} {t : Table ρ key} {r : ρ} (hr : r ∈ t.rows)
    (hother : ∀ s ∈ ss, key r ≠ s.target) : r ∈ (t.exec ss).rows := by
  refine t.exec_induction (P := fun rows => r ∈ rows) ?_ hr
  intro s hs rows hrows
  exact List.mem_map.mpr ⟨r, hrows, Statement.onRow_of_ne (hother s hs)⟩

/-! ## Values between quotes -/

/-- The quote of the language. -/
def quote : Char :=
  Char.ofNat 39

/-- The value of a text that stands between quotes: two quotes stand for one, and a single one
ends the value too early. -/
def pasted : List Char → Option (List Char)
  | [] => some []
  | [c] => if c = quote then none else some [c]
  | c :: d :: s =>
      if c = quote then if d = quote then (pasted s).map (quote :: ·) else none
      else (pasted (d :: s)).map (c :: ·)

/-- A text without a quote is its own value. -/
theorem pasted_of_notMem {s : List Char} (hs : quote ∉ s) : pasted s = some s := by
  fun_induction pasted s with
  | case1 => rfl
  | case2 => simp at hs
  | case3 => rfl
  | case4 => simp at hs
  | case5 => simp at hs
  | case6 c d s hc ih =>
      rw [ih fun hmem => hs (List.mem_cons_of_mem c hmem)]
      rfl

/-- The statements in front of the first text that is none. -/
def untilBroken {α : Type} : List (Option α) → List α
  | some a :: l => a :: untilBroken l
  | _ => []

/-- They are statements of the script. -/
theorem mem_of_mem_untilBroken {α : Type} {a : α} {l : List (Option α)}
    (ha : a ∈ untilBroken l) : some a ∈ l := by
  induction l with
  | nil => cases ha
  | cons b l ih =>
      cases b with
      | none => cases ha
      | some b =>
          rw [untilBroken, List.mem_cons] at ha
          rcases ha with rfl | ha
          · exact List.mem_cons_self
          · exact List.mem_cons_of_mem _ (ih ha)

/-- A script of statements is one up to its end. -/
theorem untilBroken_map_some {α : Type} (l : List α) : untilBroken (l.map some) = l := by
  induction l with
  | nil => rfl
  | cons a l ih => rw [List.map_cons, untilBroken, ih]

/-! ## Classes of keys -/

section Classes

variable {c : κ → η} {ss : List (Statement ρ κ)}

/-- Every statement keeps the class of the row it is for. -/
def KeepClass (key : ρ → κ) (c : κ → η) (ss : List (Statement ρ κ)) : Prop :=
  ∀ s ∈ ss, ∀ r, key r = s.target → c (key (s.set r)) = c (key r)

/-- A statement that keeps the class of its row keeps the class of every row. -/
theorem Statement.class_onRow {s : Statement ρ κ}
    (hs : ∀ r, key r = s.target → c (key (s.set r)) = c (key r)) (r : ρ) :
    c (key (s.onRow key r)) = c (key r) := by
  by_cases heq : key r = s.target
  · rw [onRow_of_eq heq, hs r heq]
  · rw [onRow_of_ne heq]

/-- Such a statement leaves the list of the classes as it is. -/
theorem Statement.map_class_onRow {s : Statement ρ κ}
    (hs : ∀ r, key r = s.target → c (key (s.set r)) = c (key r)) (rows : List ρ) :
    ((rows.map (s.onRow key)).map fun r => c (key r)) = rows.map fun r => c (key r) := by
  rw [List.map_map]
  exact List.map_congr_left fun r _ => class_onRow hs r

/-- If its rows are in different classes, a table accepts a statement that keeps the class. -/
theorem Table.update_of_class {t : Table ρ key} {s : Statement ρ κ}
    (hclasses : (t.rows.map fun r => c (key r)).Nodup)
    (hs : ∀ r, key r = s.target → c (key (s.set r)) = c (key r)) :
    ∃ t', t.update s = some t' := by
  have hkeys : ((t.rows.map (s.onRow key)).map key).Nodup := by
    apply List.Nodup.of_map c
    rw [← Statement.map_class_onRow hs] at hclasses
    rwa [List.map_map]
  rw [Table.update, dif_pos hkeys]
  exact ⟨_, rfl⟩

/-- Rows in different classes follow their own statements, and no statement is refused. -/
theorem Table.rows_exec {t : Table ρ key} (hclasses : (t.rows.map fun r => c (key r)).Nodup)
    (hkeep : KeepClass key c ss) : (t.exec ss).rows = t.rows.map (follow key ss) := by
  induction ss generalizing t with
  | nil => exact (List.map_id' t.rows).symm
  | cons s ss ih =>
      have hs := hkeep s List.mem_cons_self
      rcases update_of_class hclasses hs with ⟨t', hupdate⟩
      have hrows := rows_of_update hupdate
      have hclasses' : (t'.rows.map fun r => c (key r)).Nodup := by
        rwa [hrows, Statement.map_class_onRow hs]
      rw [Table.exec, hupdate]
      refine (ih hclasses' fun s' hs' => hkeep s' (List.mem_cons_of_mem s hs')).trans ?_
      rw [hrows, List.map_map]
      rfl

/-- A row keeps its class when it follows such statements. -/
theorem class_follow (hkeep : KeepClass key c ss) (r : ρ) :
    c (key (follow key ss r)) = c (key r) := by
  induction ss generalizing r with
  | nil => rfl
  | cons s ss ih =>
      refine (ih (fun s' hs' => hkeep s' (List.mem_cons_of_mem s hs')) _).trans ?_
      exact Statement.class_onRow (hkeep s List.mem_cons_self) r

/-- Statements for keys of other classes do not touch a row. -/
theorem follow_eq_self {r : ρ} (hother : ∀ s ∈ ss, c s.target ≠ c (key r)) :
    follow key ss r = r := by
  induction ss with
  | nil => rfl
  | cons s ss ih =>
      have hne : key r ≠ s.target := fun heq => hother s List.mem_cons_self (heq ▸ rfl)
      rw [follow, List.foldl_cons, Statement.onRow_of_ne hne]
      exact ih fun s' hs' => hother s' (List.mem_cons_of_mem s hs')

/-- A row follows two scripts one after the other. -/
theorem follow_append (ss ss' : List (Statement ρ κ)) (r : ρ) :
    follow key (ss ++ ss') r = follow key ss' (follow key ss r) :=
  List.foldl_append

/-- Among scripts for keys of different classes a row follows the one for its own class. -/
theorem follow_flatMap {ι : Type} {script : ι → List (Statement ρ κ)} {k : ι → κ}
    {before after : List ι} {i : ι} {r : ρ}
    (htarget : ∀ j ∈ before ++ i :: after, ∀ s ∈ script j, s.target = k j)
    (hclasses : ((before ++ i :: after).map fun j => c (k j)).Nodup)
    (hkeep : KeepClass key c (script i)) (hr : c (key r) = c (k i)) :
    follow key ((before ++ i :: after).flatMap script) r = follow key (script i) r := by
  rw [List.map_append, List.map_cons, List.nodup_append, List.nodup_cons] at hclasses
  have hother : ∀ js ⊆ before ++ i :: after, (∀ j ∈ js, c (k j) ≠ c (k i)) →
      ∀ r', c (key r') = c (k i) → follow key (js.flatMap script) r' = r' := by
    intro js hsub hjs r' hr'
    apply follow_eq_self (c := c)
    intro s hs
    rcases List.mem_flatMap.mp hs with ⟨j, hj, hsj⟩
    rw [htarget j (hsub hj) s hsj, hr']
    exact hjs j hj
  have hbefore : ∀ j ∈ before, c (k j) ≠ c (k i) := fun j hj =>
    hclasses.2.2 _ (List.mem_map_of_mem hj) _ List.mem_cons_self
  have hafter : ∀ j ∈ after, c (k j) ≠ c (k i) := fun j hj heq =>
    hclasses.2.1.1 (heq ▸ List.mem_map_of_mem hj)
  rw [List.flatMap_append, List.flatMap_cons, follow_append, follow_append,
    hother before (by simp) hbefore r hr]
  exact hother after (fun j hj => by simp [hj]) hafter _ ((class_follow hkeep r).trans hr)

end Classes

end Relational
end ClusterPlaybooks
