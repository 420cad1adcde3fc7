import Mathlib.Order.Lattice

/-!
# Running best elements

A loop keeps the best element it has seen, and replaces it only by a better one.  Two such
searches can run in one loop: the second one, for elements of a second choice, goes on only as
long as the first one has found nothing.

Main results:

- Theorem {lit}`Pick.Best.step`: the element that is kept is the best one seen.
- Theorem {lit}`Duel.winner_spec`: the loop ends with the best element of the first choice, or, if
  there is none, with the best one of the second choice.
-/

namespace ClusterPlaybooks
namespace Arith

variable {α β : Type} [LinearOrder β]

/-- The element that is kept, and the score that has to be undercut. -/
structure Pick (α β : Type) where
  chosen : Option α
  best : β

/-- One element more. -/
def Pick.step (score : α → β) (p : Pick α β) (a : α) : Pick α β :=
  if score a < p.best then ⟨some a, score a⟩ else p

/-- The state of a search for elements with the property {lit}`P` below a limit. -/
def Pick.Best (score : α → β) (limit : β) (P : α → Prop) (l : List α) (p : Pick α β) : Prop :=
  match p.chosen with
  | none => p.best = limit ∧ ∀ a ∈ l, P a → limit ≤ score a
  | some a => a ∈ l ∧ P a ∧ p.best = score a ∧ score a < limit ∧
      ∀ a' ∈ l, P a' → score a ≤ score a'

section Search

variable {score : α → β} {limit : β} {P : α → Prop} {l : List α} {p : Pick α β} {a : α}

/-- A search begins with nothing. -/
theorem Pick.Best.start (score : α → β) (limit : β) (P : α → Prop) :
    Pick.Best score limit P [] ⟨none, limit⟩ :=
  ⟨rfl, fun _ h => absurd h List.not_mem_nil⟩

/-- An element of another kind is passed over. -/
theorem Pick.Best.skip (hbest : p.Best score limit P l) (ha : ¬ P a) :
    p.Best score limit P (l ++ [a]) := by
  have hnew : ∀ b, b ∈ l ++ [a] → P b → b ∈ l := by
    intro b hb hP
    rcases List.mem_append.mp hb with hb | hb
    · exact hb
    · exact absurd (List.mem_singleton.mp hb ▸ hP) ha
  unfold Best at hbest ⊢
  cases hchosen : p.chosen with
  | none =>
      simp only [hchosen] at hbest
      exact ⟨hbest.1, fun b hb hP => hbest.2 b (hnew b hb hP) hP⟩
  | some c =>
      simp only [hchosen] at hbest
      exact ⟨List.mem_append_left _ hbest.1, hbest.2.1, hbest.2.2.1, hbest.2.2.2.1,
        fun b hb hP => hbest.2.2.2.2 b (hnew b hb hP) hP⟩

/-- An element of the right kind is kept if it is better. -/
theorem Pick.Best.step (hbest : p.Best score limit P l) (ha : P a) :
    (p.step score a).Best score limit P (l ++ [a]) := by
  have hlimit : p.best ≤ limit ∧ ∀ b ∈ l, P b → p.best ≤ score b := by
    unfold Best at hbest
    cases hchosen : p.chosen with
    | none =>
        simp only [hchosen] at hbest
        exact ⟨hbest.1.le, hbest.1 ▸ hbest.2⟩
    | some c =>
        simp only [hchosen] at hbest
        rw [hbest.2.2.1]
        exact ⟨hbest.2.2.2.1.le, hbest.2.2.2.2⟩
  rw [Pick.step]
  by_cases hbetter : score a < p.best
  · rw [if_pos hbetter]
    refine ⟨by simp, ha, rfl, lt_of_lt_of_le hbetter hlimit.1, fun b hb hP => ?_⟩
    rcases List.mem_append.mp hb with hb | hb
    · exact (lt_of_lt_of_le hbetter (hlimit.2 b hb hP)).le
    · rw [List.mem_singleton.mp hb]
  · rw [if_neg hbetter]
    unfold Best at hbest ⊢
    cases hchosen : p.chosen with
    | none =>
        simp only [hchosen] at hbest
        refine ⟨hbest.1, fun b hb hP => ?_⟩
        rcases List.mem_append.mp hb with hb | hb
        · exact hbest.2 b hb hP
        · rw [List.mem_singleton.mp hb, ← hbest.1]
          exact not_lt.mp hbetter
    | some c =>
        simp only [hchosen] at hbest
        refine ⟨List.mem_append_left _ hbest.1, hbest.2.1, hbest.2.2.1, hbest.2.2.2.1,
          fun b hb hP => ?_⟩
        rcases List.mem_append.mp hb with hb | hb
        · exact hbest.2.2.2.2 b hb hP
        · rw [List.mem_singleton.mp hb, ← hbest.2.2.1]
          exact not_lt.mp hbetter

end Search

/-! ## A first and a second choice -/

/-- Two searches in one loop. -/
structure Duel (α β : Type) where
  first : Pick α β
  second : Pick α β

variable (score : α → β) (P Q : α → Prop) [DecidablePred P] [DecidablePred Q]

/-- One element more: it belongs to the first search, or to the second one as long as the first
one has found nothing. -/
def Duel.step (d : Duel α β) (a : α) : Duel α β :=
  if P a then { d with first := d.first.step score a }
  else if Q a ∧ d.first.chosen.isNone then { d with second := d.second.step score a }
  else d

/-- What the loop ends with. -/
def Duel.winner (d : Duel α β) : Option α :=
  d.first.chosen <|> d.second.chosen

variable {score P Q}

/-- The state of the loop: the second search counts only if the first one has found nothing. -/
def Duel.Best (score : α → β) (P Q : α → Prop) (limit : β) (l : List α) (d : Duel α β) : Prop :=
  d.first.Best score limit P l ∧
    (d.first.chosen = none → d.second.Best score limit (fun a => ¬ P a ∧ Q a) l)

/-- Once something has been found in a search, there is something. -/
theorem Pick.chosen_step {p : Pick α β} {a : α} (hnone : (p.step score a).chosen = none) :
    p.chosen = none := by
  rw [step] at hnone
  split at hnone
  · cases hnone
  · exact hnone

/-- The loop keeps its state. -/
theorem Duel.Best.step {limit : β} {l : List α} {d : Duel α β} (hd : d.Best score P Q limit l)
    (a : α) : (d.step score P Q a).Best score P Q limit (l ++ [a]) := by
  rw [Duel.step]
  by_cases hP : P a
  · rw [if_pos hP]
    exact ⟨hd.1.step hP, fun hnone =>
      (hd.2 (Pick.chosen_step hnone)).skip fun h => h.1 hP⟩
  · rw [if_neg hP]
    by_cases hQ : Q a ∧ d.first.chosen.isNone
    · rw [if_pos hQ]
      exact ⟨hd.1.skip hP, fun hnone => (hd.2 hnone).step ⟨hP, hQ.1⟩⟩
    · rw [if_neg hQ]
      refine ⟨hd.1.skip hP, fun hnone => (hd.2 hnone).skip fun h => ?_⟩
      exact hQ ⟨h.2, by rw [hnone]; rfl⟩

/-- The loop over a whole list. -/
theorem Duel.Best.foldl {limit : β} {l : List α} {d : Duel α β} (hd : d.Best score P Q limit l)
    (rest : List α) : (rest.foldl (Duel.step score P Q) d).Best score P Q limit (l ++ rest) := by
  induction rest generalizing l d with
  | nil => rwa [List.append_nil]
  | cons a rest ih =>
      have hrest := ih (hd.step a)
      rwa [List.append_assoc, List.singleton_append] at hrest

variable (score P Q) in
/-- The loop ends with a best element of the first choice, or, if there is none below the limit,
with a best one of the second choice. -/
theorem Duel.winner_spec (limit : β) (l : List α) :
    match (l.foldl (Duel.step score P Q) ⟨⟨none, limit⟩, ⟨none, limit⟩⟩).winner with
    | none => ∀ a ∈ l, P a ∨ Q a → limit ≤ score a
    | some a => a ∈ l ∧ (P a ∨ Q a) ∧ score a < limit ∧
        (¬ P a → ∀ b ∈ l, P b → limit ≤ score b) ∧
        ∀ b ∈ l, (P b ∨ Q b) → (P b ↔ P a) → score a ≤ score b := by
  have hbest := Duel.Best.foldl
    (show Duel.Best score P Q limit [] ⟨⟨none, limit⟩, ⟨none, limit⟩⟩ from
      ⟨Pick.Best.start .., fun _ => Pick.Best.start ..⟩) l
  rw [List.nil_append] at hbest
  generalize l.foldl (Duel.step score P Q) ⟨⟨none, limit⟩, ⟨none, limit⟩⟩ = d at hbest
  rcases hbest with ⟨hfirst, hsecond⟩
  unfold Duel.winner
  unfold Pick.Best at hfirst hsecond
  cases hchosen : d.first.chosen with
  | some a =>
      simp only [hchosen] at hfirst
      refine ⟨hfirst.1, .inl hfirst.2.1, hfirst.2.2.2.1, fun h => absurd hfirst.2.1 h, ?_⟩
      exact fun b hb _ hiff => hfirst.2.2.2.2 b hb (hiff.mpr hfirst.2.1)
  | none =>
      simp only [hchosen] at hfirst
      have hsecond := hsecond hchosen
      cases hother : d.second.chosen with
      | some a =>
          simp only [hother] at hsecond
          refine ⟨hsecond.1, .inr hsecond.2.1.2, hsecond.2.2.2.1, fun _ => hfirst.2, ?_⟩
          intro b hb hPQ hiff
          have hb' : ¬ P b := fun h => hsecond.2.1.1 (hiff.mp h)
          exact hsecond.2.2.2.2 b hb ⟨hb', hPQ.resolve_left hb'⟩
      | none =>
          simp only [hother] at hsecond
          intro a ha hPQ
          by_cases hP : P a
          · exact hfirst.2 a ha hP
          · exact hsecond.2 a ha ⟨hP, hPQ.resolve_left hP⟩

end Arith
end ClusterPlaybooks
