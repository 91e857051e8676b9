/-
Two texts with a separator between them.

The joined text does not tell where the separator stands if the separator also occurs in one of
the parts.  For a separator whose first letter does not occur in it again, two occurrences never
overlap, and then the pairs with the same joined text are exactly those that differ by moving the
separator from one of its occurrences to another one (`join_eq_join_iff`).
-/
import Mathlib.Data.List.Basic

namespace Separator

variable {α : Type}

/-- The two texts with the separator between them. -/
def join (sep u k : List α) : List α := u ++ (sep ++ k)

/-- The separator has a first letter, which does not occur in it again. -/
def Unbordered : List α → Prop
  | [] => False
  | a :: rest => a ∉ rest

/-- The second pair has a later occurrence of the separator between its parts. -/
def Later (sep : List α) (p q : List α × List α) : Prop :=
  ∃ m, q.1 = join sep p.1 m ∧ p.2 = join sep m q.2

/-- A text that starts with the separator, in two ways. -/
lemma shift_eq {sep : List α} (hsep : Unbordered sep) {a k k' : List α}
    (h : sep ++ k = a ++ (sep ++ k')) :
    (a = [] ∧ k = k') ∨ ∃ m, a = sep ++ m ∧ k = m ++ (sep ++ k') := by
  obtain ⟨b, rest, rfl⟩ : ∃ b rest, sep = b :: rest := by
    cases sep with
    | nil => exact hsep.elim
    | cons b rest => exact ⟨b, rest, rfl⟩
  cases a with
  | nil => exact Or.inl ⟨rfl, List.append_cancel_left h⟩
  | cons a₀ a =>
    obtain ⟨rfl, htail⟩ := List.cons.inj h
    rcases List.append_eq_append_iff.mp htail with ⟨m, rfl, hk⟩ | ⟨m, hrest, hk⟩
    · exact Or.inr ⟨m, rfl, hk⟩
    · cases m with
      | nil =>
        rw [List.append_nil] at hrest
        subst hrest
        exact Or.inr ⟨[], by simp, hk.symm⟩
      | cons c m =>
        -- the first letter would occur in the separator again
        obtain ⟨rfl, -⟩ := List.cons.inj hk
        exact absurd (by simp [hrest]) hsep

lemma later_of_join_eq {sep : List α} (hsep : Unbordered sep) {u a k k' : List α}
    (h : sep ++ k = a ++ (sep ++ k')) :
    (u, k) = (u ++ a, k') ∨ Later sep (u, k) (u ++ a, k') := by
  rcases shift_eq hsep h with ⟨rfl, rfl⟩ | ⟨m, rfl, rfl⟩
  · exact Or.inl (by rw [List.append_nil])
  · exact Or.inr ⟨m, rfl, rfl⟩

/-- **When two pairs are joined to the same text.** -/
theorem join_eq_join_iff {sep : List α} (hsep : Unbordered sep) {p q : List α × List α} :
    join sep p.1 p.2 = join sep q.1 q.2 ↔ p = q ∨ Later sep p q ∨ Later sep q p := by
  obtain ⟨u, k⟩ := p
  obtain ⟨u', k'⟩ := q
  constructor
  · intro h
    rcases List.append_eq_append_iff.mp h with ⟨a, rfl, ha⟩ | ⟨a, rfl, ha⟩
    · rcases later_of_join_eq hsep ha with heq | hlater
      · exact Or.inl heq
      · exact Or.inr (Or.inl hlater)
    · rcases later_of_join_eq hsep ha with heq | hlater
      · exact Or.inl heq.symm
      · exact Or.inr (Or.inr hlater)
  · rintro (heq | ⟨m, hu, hk⟩ | ⟨m, hu, hk⟩)
    · rw [heq]
    · obtain rfl : u' = join sep u m := hu
      obtain rfl : k = join sep m k' := hk
      simp [join]
    · obtain rfl : u = join sep u' m := hu
      obtain rfl : k' = join sep m k := hk
      simp [join]

/-- The first part of the later pair contains the separator. -/
lemma Later.isInfix {sep : List α} {p q : List α × List α} (h : Later sep p q) :
    sep <:+: q.1 := by
  obtain ⟨m, hq, -⟩ := h
  exact ⟨p.1, m, by rw [hq, join, List.append_assoc]⟩

end Separator
