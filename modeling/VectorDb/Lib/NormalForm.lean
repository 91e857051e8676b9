/-
Disjunctive normal forms over some generators of a Boolean algebra.

A literal is a generator or the complement of one.  Conjunctions are built from literals one
meet at a time, and disjunctions from conjunctions one join at a time, so that none of them is
empty.  If there is a generator at all, the disjunctions are exactly the Boolean combinations of
the generators (`disjunction_iff_mem_closure`).
-/
import Mathlib.Order.BooleanSubalgebra

namespace NormalForm

variable {B : Type} [BooleanAlgebra B] {G : Set B}

/-- A generator, or the complement of one. -/
def Literal (G : Set B) (x : B) : Prop := ∃ g ∈ G, x = g ∨ x = gᶜ

/-- A nonempty meet of literals. -/
inductive Conjunction (G : Set B) : B → Prop
  | one {x} (hx : Literal G x) : Conjunction G x
  | and {x y} (hx : Conjunction G x) (hy : Literal G y) : Conjunction G (x ⊓ y)

/-- A nonempty join of conjunctions. -/
inductive Disjunction (G : Set B) : B → Prop
  | one {x} (hx : Conjunction G x) : Disjunction G x
  | or {x y} (hx : Disjunction G x) (hy : Conjunction G y) : Disjunction G (x ⊔ y)

/-! ### Closure -/

lemma Literal.compl {x : B} (hx : Literal G x) : Literal G xᶜ := by
  obtain ⟨g, hg, rfl | rfl⟩ := hx
  · exact ⟨x, hg, Or.inr rfl⟩
  · exact ⟨g, hg, Or.inl (compl_compl g)⟩

lemma Literal.disjunction {x : B} (hx : Literal G x) : Disjunction G x := .one (.one hx)

lemma Conjunction.inf {x y : B} (hx : Conjunction G x) (hy : Conjunction G y) :
    Conjunction G (x ⊓ y) := by
  induction hy with
  | one hy => exact .and hx hy
  | and _ hz ih =>
    rw [← inf_assoc]
    exact .and ih hz

lemma Disjunction.sup {x y : B} (hx : Disjunction G x) (hy : Disjunction G y) :
    Disjunction G (x ⊔ y) := by
  induction hy with
  | one hy => exact .or hx hy
  | or _ hz ih =>
    rw [← sup_assoc]
    exact .or ih hz

lemma Disjunction.inf_conjunction {x y : B} (hx : Disjunction G x) (hy : Conjunction G y) :
    Disjunction G (x ⊓ y) := by
  induction hx with
  | one hx => exact .one (hx.inf hy)
  | or _ hz ih =>
    rw [inf_sup_right]
    exact .or ih (hz.inf hy)

lemma Disjunction.inf {x y : B} (hx : Disjunction G x) (hy : Disjunction G y) :
    Disjunction G (x ⊓ y) := by
  induction hy with
  | one hy => exact hx.inf_conjunction hy
  | or _ hz ih =>
    rw [inf_sup_left]
    exact ih.sup (hx.inf_conjunction hz)

lemma Conjunction.compl {x : B} (hx : Conjunction G x) : Disjunction G xᶜ := by
  induction hx with
  | one hx => exact hx.compl.disjunction
  | and _ hy ih =>
    rw [compl_inf]
    exact ih.sup hy.compl.disjunction

lemma Disjunction.compl {x : B} (hx : Disjunction G x) : Disjunction G xᶜ := by
  induction hx with
  | one hx => exact hx.compl
  | or _ hy ih =>
    rw [compl_sup]
    exact ih.inf hy.compl

/-! ### Boolean combinations -/

lemma Literal.mem_closure {x : B} (hx : Literal G x) : x ∈ BooleanSubalgebra.closure G := by
  obtain ⟨g, hg, rfl | rfl⟩ := hx
  · exact BooleanSubalgebra.subset_closure hg
  · exact BooleanSubalgebra.compl_mem (BooleanSubalgebra.subset_closure hg)

lemma Conjunction.mem_closure {x : B} (hx : Conjunction G x) :
    x ∈ BooleanSubalgebra.closure G := by
  induction hx with
  | one hx => exact hx.mem_closure
  | and _ hy ih => exact BooleanSubalgebra.inf_mem ih hy.mem_closure

lemma Disjunction.mem_closure {x : B} (hx : Disjunction G x) :
    x ∈ BooleanSubalgebra.closure G := by
  induction hx with
  | one hx => exact hx.mem_closure
  | or _ hy ih => exact BooleanSubalgebra.sup_mem ih hy.mem_closure

/-- **Normal forms.**  The Boolean combinations of some generators are the disjunctions of
conjunctions of generators and their complements. -/
theorem disjunction_iff_mem_closure (hG : G.Nonempty) (x : B) :
    Disjunction G x ↔ x ∈ BooleanSubalgebra.closure G := by
  constructor
  · exact Disjunction.mem_closure
  · intro hx
    induction hx using BooleanSubalgebra.closure_bot_sup_induction with
    | mem g hg =>
      have hliteral : Literal G g := ⟨g, hg, Or.inl rfl⟩
      exact hliteral.disjunction
    | bot =>
      obtain ⟨g, hg⟩ := hG
      have hliteral : Literal G g := ⟨g, hg, Or.inl rfl⟩
      rw [← inf_compl_self g]
      exact .one (.and (.one hliteral) hliteral.compl)
    | sup x _ y _ hx hy => exact hx.sup hy
    | compl x _ hx => exact hx.compl

end NormalForm
