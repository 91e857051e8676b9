/-
Runs of calls that write to one object.

A call turns the object it is given into a new one; a run is a list of calls made one after
the other on the same object.  `Always P` says that `P` holds of every call of a run
together with the object that the call finds.  The rules are the two that a law about runs
needs: a law that holds of a single call exactly under a condition holds along a run exactly
when each call of the run meets the condition (`always_congr`, and with an invariant
`always_congr_of_invariant`), and a law of a run is a law of each call after the calls that
precede it (`always_iff`).  What each call keeps a run keeps (`after_keeps`).  For runs that go
on for ever there is a rule about the first call of a kind: what all other calls keep still
holds when it is made (`exists_first`).
-/
import Mathlib.Data.List.Basic
import Mathlib.Data.Nat.Find

namespace Reuse

variable {I S : Type} (next : I → S → S)

/-- The object after a run of calls. -/
def after (s : S) (is : List I) : S := is.foldl (fun s i => next i s) s

/-- `P` holds of each call of the run and of the object that the call finds. -/
def Always (P : I → S → Prop) : S → List I → Prop
  | _, [] => True
  | s, i :: is => P i s ∧ Always P (next i s) is

variable {next}

@[simp] lemma after_nil (s : S) : after next s [] = s := rfl

@[simp] lemma after_cons (s : S) (i : I) (is : List I) :
    after next s (i :: is) = after next (next i s) is := rfl

lemma after_append (s : S) (is js : List I) :
    after next s (is ++ js) = after next (after next s is) js := List.foldl_append

lemma after_concat (s : S) (is : List I) (i : I) :
    after next s (is ++ [i]) = next i (after next s is) := by
  simp [after]

/-- What each call keeps a run keeps. -/
lemma after_keeps {P : S → Prop} (h : ∀ i s, P s → P (next i s)) {s : S} (hs : P s)
    (is : List I) : P (after next s is) := by
  induction is generalizing s with
  | nil => exact hs
  | cons i is ih => exact ih (h i s hs)

lemma always_congr {P Q : I → S → Prop} (h : ∀ i s, P i s ↔ Q i s) (s : S) (is : List I) :
    Always next P s is ↔ Always next Q s is := by
  induction is generalizing s with
  | nil => exact Iff.rfl
  | cons i is ih => exact and_congr (h i s) (ih (next i s))

/-- The same, where the two laws agree under an invariant that the first one maintains. -/
lemma always_congr_of_invariant {P Q : I → S → Prop} {Inv : S → Prop}
    (h : ∀ i s, Inv s → (P i s ↔ Q i s)) (hkeep : ∀ i s, P i s → Inv (next i s)) {s : S}
    (hs : Inv s) (is : List I) : Always next P s is ↔ Always next Q s is := by
  induction is generalizing s with
  | nil => exact Iff.rfl
  | cons i is ih =>
    constructor
    · rintro ⟨hi, hrest⟩
      exact ⟨(h i s hs).mp hi, (ih (hkeep i s hi)).mp hrest⟩
    · rintro ⟨hi, hrest⟩
      have hP : P i s := (h i s hs).mpr hi
      exact ⟨hP, (ih (hkeep i s hP)).mpr hrest⟩

/-- `Always`, in terms of the calls that precede each call. -/
lemma always_iff {P : I → S → Prop} {s : S} {is : List I} :
    Always next P s is ↔
      ∀ pre i post, is = pre ++ i :: post → P i (after next s pre) := by
  induction is generalizing s with
  | nil => simp [Always]
  | cons j is ih =>
    rw [Always, ih]
    constructor
    · rintro ⟨hj, hrest⟩ pre i post heq
      cases pre with
      | nil =>
        obtain ⟨rfl, -⟩ : j = i ∧ is = post := by simpa using heq
        exact hj
      | cons k pre =>
        obtain ⟨rfl, htail⟩ : j = k ∧ is = pre ++ i :: post := by simpa using heq
        exact hrest pre i post htail
    · intro h
      exact ⟨h [] j is rfl, fun pre i post heq => h (j :: pre) i post (by simp [heq])⟩

/-! ### Runs that go on for ever -/

/-- The first calls of a run that goes on for ever. -/
def upTo (run : ℕ → I) (n : ℕ) : List I := (List.range n).map run

lemma after_upTo_add (s : S) (run : ℕ → I) (n k : ℕ) :
    after next s (upTo run (n + k)) =
      after next (after next s (upTo run n)) (upTo (fun j => run (n + j)) k) := by
  rw [upTo, List.range_add, List.map_append, List.map_map, after_append]
  rfl

lemma after_upTo_succ (s : S) (run : ℕ → I) (n : ℕ) :
    after next s (upTo run (n + 1)) = next (run n) (after next s (upTo run n)) :=
  after_upTo_add s run n 1

/-- What the other calls keep holds when the first call of a kind is made. -/
lemma exists_first {p : I → Prop} {Q : S → Prop}
    (hkeep : ∀ i s, ¬p i → Q s → Q (next i s)) {s : S} (hs : Q s) {run : ℕ → I}
    (hex : ∃ n, p (run n)) : ∃ n, p (run n) ∧ Q (after next s (upTo run n)) := by
  classical
  refine ⟨Nat.find hex, Nat.find_spec hex, ?_⟩
  have hbefore : ∀ n ≤ Nat.find hex, Q (after next s (upTo run n)) := by
    intro n hn
    induction n with
    | zero => exact hs
    | succ n ih =>
      rw [after_upTo_succ]
      exact hkeep _ _ (Nat.find_min hex (by omega)) (ih (by omega))
  exact hbefore _ le_rfl

end Reuse
