/-
Sequences that several threads make together.

A sequence is tagged: each entry names the thread that it belongs to.  The part of a thread
is what is left of the sequence when the other threads are taken out, and a sequence interleaves
some programs when the part of each thread is its program.  So each thread keeps its order, and
all else is left to chance.
-/
import Mathlib.Algebra.BigOperators.Group.Finset.Piecewise
import Mathlib.Algebra.Order.Group.Multiset

namespace Interleaving

variable {ι C C' : Type} [DecidableEq ι]

/-- The part of one thread. -/
def partOf (i : ι) (w : List (ι × C)) : List C := (w.filter fun x => x.1 = i).map Prod.snd

@[simp] lemma partOf_nil (i : ι) : partOf i ([] : List (ι × C)) = [] := rfl

lemma partOf_append (i : ι) (w w' : List (ι × C)) :
    partOf i (w ++ w') = partOf i w ++ partOf i w' := by
  simp [partOf]

lemma partOf_cons_self (i : ι) (call : C) (w : List (ι × C)) :
    partOf i ((i, call) :: w) = call :: partOf i w := by
  simp [partOf]

lemma partOf_cons_of_ne {i j : ι} (h : j ≠ i) (call : C) (w : List (ι × C)) :
    partOf i ((j, call) :: w) = partOf i w := by
  simp [partOf, h]

/-- The part of each thread is its program. -/
def Interleaves (programs : ι → List C) (w : List (ι × C)) : Prop :=
  ∀ i, partOf i w = programs i

/-- The first entry is the first one of its thread, and the others interleave what is left. -/
lemma Interleaves.of_cons {programs : ι → List C} {i : ι} {call : C} {w : List (ι × C)}
    (h : Interleaves programs ((i, call) :: w)) :
    programs i = call :: partOf i w ∧
      Interleaves (Function.update programs i (partOf i w)) w := by
  have hi : programs i = call :: partOf i w := by rw [← h i, partOf_cons_self]
  refine ⟨hi, ?_⟩
  intro j
  by_cases hj : j = i
  · subst hj
    rw [Function.update_self]
  · rw [Function.update_of_ne hj, ← h j, partOf_cons_of_ne (Ne.symm hj)]

lemma Interleaves.cons {programs : ι → List C} {i : ι} {call : C} {rest : List C}
    {w : List (ι × C)} (hi : programs i = call :: rest)
    (h : Interleaves (Function.update programs i rest) w) :
    Interleaves programs ((i, call) :: w) := by
  intro j
  have hj := h j
  by_cases hij : i = j
  · subst hij
    rw [Function.update_self] at hj
    rw [partOf_cons_self, hj, hi]
  · rw [Function.update_of_ne (Ne.symm hij)] at hj
    rw [partOf_cons_of_ne hij, hj]

/-- An interleaving of the images of some programs is the image of an interleaving. -/
lemma Interleaves.exists_map {g : C' → C} {programs : ι → List C'} {w : List (ι × C)}
    (h : Interleaves (fun i => (programs i).map g) w) :
    ∃ w', Interleaves programs w' ∧ w = w'.map (Prod.map id g) := by
  induction w generalizing programs with
  | nil =>
    refine ⟨[], ?_, rfl⟩
    intro i
    exact (List.map_eq_nil_iff.mp (h i).symm).symm
  | cons x w ih =>
    obtain ⟨i, call⟩ := x
    obtain ⟨hi, hrest⟩ := h.of_cons
    obtain ⟨call', rest, hprogram, rfl, hmap⟩ := List.map_eq_cons_iff.mp hi
    have hupdate : Function.update (fun i => (programs i).map g) i (partOf i w) =
        fun j => (Function.update programs i rest j).map g := by
      funext j
      by_cases hj : j = i
      · subst hj
        rw [Function.update_self, Function.update_self, hmap]
      · rw [Function.update_of_ne hj, Function.update_of_ne hj]
    rw [hupdate] at hrest
    obtain ⟨w', hw', rfl⟩ := ih hrest
    exact ⟨(i, call') :: w', hw'.cons hprogram, rfl⟩

lemma Interleaves.mem_iff {programs : ι → List C} {w : List (ι × C)}
    (h : Interleaves programs w) {call : C} :
    call ∈ w.map Prod.snd ↔ ∃ i, call ∈ programs i := by
  constructor
  · intro hcall
    obtain ⟨⟨i, call⟩, hmem, rfl⟩ := List.mem_map.mp hcall
    refine ⟨i, ?_⟩
    rw [← h i]
    exact List.mem_map_of_mem (List.mem_filter.mpr ⟨hmem, by simp⟩)
  · rintro ⟨i, hcall⟩
    rw [← h i] at hcall
    obtain ⟨x, hx, rfl⟩ := List.mem_map.mp hcall
    exact List.mem_map_of_mem (List.mem_filter.mp hx).1

/-- An interleaving has the entries of all programs, each as often as they do. -/
lemma Interleaves.sum_eq [Fintype ι] {programs : ι → List C} {w : List (ι × C)}
    (h : Interleaves programs w) :
    ∑ i, (programs i : Multiset C) = (w.map Prod.snd : List C) := by
  have hprograms : programs = fun i => partOf i w := funext fun i => (h i).symm
  rw [hprograms]
  clear h hprograms
  induction w with
  | nil => simp
  | cons x w ih =>
    obtain ⟨i, call⟩ := x
    have hsplit : ∀ j, (partOf j ((i, call) :: w) : Multiset C) =
        (if i = j then {call} else 0) + (partOf j w : Multiset C) := by
      intro j
      by_cases hij : i = j
      · subst hij
        rw [partOf_cons_self, if_pos rfl]
        rfl
      · rw [partOf_cons_of_ne hij, if_neg hij, zero_add]
    simp only [hsplit, Finset.sum_add_distrib, Finset.sum_ite_eq, Finset.mem_univ, if_true, ih]
    rfl

end Interleaving
