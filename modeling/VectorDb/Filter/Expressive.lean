/-
What can be said with one filter.

The conditions of the calls are taken from some collection, and none of them has an alternative
at its top level.  Since the and calls bind tighter than the or calls, a chain of calls on an
empty filter is a disjunctive normal form over these conditions, and every normal form is the
chain of some calls.  So the chains select exactly the Boolean combinations of what the conditions
select (`chain_selects_iff_combination`): nothing needs a filter inside a filter, and no call
leads outside.
-/
import VectorDb.Filter.Chain
import VectorDb.Lib.NormalForm

namespace VectorDb

namespace FilterText

open NormalForm (Literal Conjunction Disjunction)
open Precedence (Expr)

section Expressive

variable {D : Type} (sat : Atom → D → Prop)

/-- The documents that the operand of a call selects. -/
def Call.set (c : Call) : Set D := {d | c.Holds sat d}

/-- What the conditions select, one by one. -/
def generators (K : Set Cond) : Set (Set D) := Cond.set sat '' K

variable {sat} {K : Set Cond}

/-! ### One call -/

lemma Call.set_eq (c : Call) :
    c.set sat = if c.op.negates then (c.cond.set sat)ᶜ else c.cond.set sat := by
  unfold Call.set Call.Holds
  split <;> rfl

lemma groupStep_eq (S : Set D × Set D) (c : Call) :
    groupStep sat S c = if c.op.opensGroup then (total S, c.set sat)
      else (S.1, S.2 ∩ c.set sat) := by
  rcases c with ⟨op, cond⟩
  rw [Call.set_eq]
  cases op <;> rfl

lemma Call.literal {c : Call} (hc : c.cond ∈ K) : Literal (generators sat K) (c.set sat) := by
  refine ⟨c.cond.set sat, ⟨c.cond, hc, rfl⟩, ?_⟩
  rw [Call.set_eq]
  split
  · exact Or.inr rfl
  · exact Or.inl rfl

/-- Each literal is the operand of an or call and of an and call. -/
lemma exists_call {x : Set D} (hx : Literal (generators sat K) x) (opens : Bool) :
    ∃ c : Call, c.cond ∈ K ∧ c.op.opensGroup = opens ∧ c.set sat = x := by
  obtain ⟨g, ⟨c, hc, rfl⟩, rfl | rfl⟩ := hx
  · refine ⟨⟨if opens then .orCond else .andCond, c⟩, hc, ?_, ?_⟩
    · cases opens <;> rfl
    · rw [Call.set_eq]
      cases opens <;> rfl
  · refine ⟨⟨if opens then .orNotCond else .andNotCond, c⟩, hc, ?_, ?_⟩
    · cases opens <;> rfl
    · rw [Call.set_eq]
      cases opens <;> rfl

/-! ### From a normal form to a chain -/

/-- The calls of a conjunction: the first one opens a group, or begins the chain, and the
others narrow it. -/
lemma exists_conjunction {x : Set D} (hx : Conjunction (generators sat K) x) (opens : Bool) :
    ∃ (c : Call) (rest : List Call), (∀ c' ∈ c :: rest, c'.cond ∈ K) ∧
      c.op.opensGroup = opens ∧
      ∀ front, rest.foldl (groupStep sat) (front, c.set sat) = (front, x) := by
  induction hx with
  | one hx =>
    obtain ⟨c, hc, hopens, rfl⟩ := exists_call hx opens
    exact ⟨c, [], by simpa using hc, hopens, fun front => rfl⟩
  | @and x y _ hy ih =>
    obtain ⟨c, rest, hK, hopens, hrest⟩ := ih
    obtain ⟨c', hc', hand, rfl⟩ := exists_call hy false
    refine ⟨c, rest ++ [c'], ?_, hopens, ?_⟩
    · intro r hr
      rw [← List.cons_append, List.mem_append, List.mem_singleton] at hr
      rcases hr with hr | rfl
      · exact hK r hr
      · exact hc'
    · intro front
      rw [List.foldl_append, hrest, List.foldl_cons, List.foldl_nil, groupStep_eq, hand]
      rfl

lemma exists_disjunction {x : Set D} (hx : Disjunction (generators sat K) x) :
    ∃ (c : Call) (rest : List Call), (∀ c' ∈ c :: rest, c'.cond ∈ K) ∧
      total (rest.foldl (groupStep sat) (∅, c.set sat)) = x := by
  induction hx with
  | @one x hx =>
    obtain ⟨c, rest, hK, -, hrest⟩ := exists_conjunction hx false
    refine ⟨c, rest, hK, ?_⟩
    rw [hrest]
    exact Set.empty_union x
  | @or x y _ hy ih =>
    obtain ⟨c, rest, hK, hrest⟩ := ih
    obtain ⟨c', rest', hK', hopens, hrest'⟩ := exists_conjunction hy true
    refine ⟨c, rest ++ c' :: rest', ?_, ?_⟩
    · intro r hr
      rw [← List.cons_append, List.mem_append] at hr
      rcases hr with hr | hr
      · exact hK r hr
      · exact hK' r hr
    · rw [List.foldl_append, List.foldl_cons, groupStep_eq, hopens, if_pos rfl, hrest', hrest]
      rfl

/-! ### From a chain to a normal form -/

/-- The first call of an empty filter, when its condition has no alternative at its top level. -/
lemma groupSets_head {c : Call} (hc : c.cond.expr.front = none) :
    groupSets sat (head c.op c.cond.expr) = (∅, c.set sat) := by
  have hhead : (head c.op c.cond.expr).front = none := by
    unfold head
    split
    · rfl
    · exact hc
  have hfront : ∀ d, ¬ (head c.op c.cond.expr).FrontHolds fun a => sat a d := by
    rintro d ⟨e, he, -⟩
    rw [hhead] at he
    exact Option.some_ne_none e he.symm
  refine Prod.ext (Set.eq_empty_of_forall_notMem hfront) ?_
  ext d
  have hholds := Expr.holds_iff (fun a => sat a d) (head c.op c.cond.expr)
  rw [iff_false_intro (hfront d), false_or] at hholds
  refine hholds.symm.trans ?_
  show _ ↔ c.Holds sat d
  unfold head Call.Holds
  split
  · next hneg => simp [operand, hneg, Cond.Holds, Expr.single, Precedence.Expr.Holds,
      Precedence.Group.Holds, Precedence.Operand.Holds]
  · rfl

lemma selected_run_empty {c : Call} (hc : c.cond.expr.front = none) (rest : List Call) :
    {d | Selects sat (run ⟨[]⟩ (c :: rest)).cond d} =
      total (rest.foldl (groupStep sat) (∅, c.set sat)) := by
  have hread := read_run_empty c rest
  rw [← groupSets_head hc, ← groupSets_readChain]
  ext d
  exact (selects_of_read hread d).trans (Expr.holds_iff _ _)

/-- Both sets of a chain are Boolean combinations, since each call keeps them so. -/
lemma mem_closure_foldl {calls : List Call} (hK : ∀ c ∈ calls, c.cond ∈ K) {S : Set D × Set D}
    (hS : S.1 ∈ BooleanSubalgebra.closure (generators sat K) ∧
      S.2 ∈ BooleanSubalgebra.closure (generators sat K)) :
    (calls.foldl (groupStep sat) S).1 ∈ BooleanSubalgebra.closure (generators sat K) ∧
      (calls.foldl (groupStep sat) S).2 ∈ BooleanSubalgebra.closure (generators sat K) := by
  induction calls generalizing S with
  | nil => exact hS
  | cons c calls ih =>
    refine ih (fun c' hc' => hK c' (by simp [hc'])) ?_
    have hc : c.set sat ∈ BooleanSubalgebra.closure (generators sat K) :=
      (Call.literal (hK c (by simp))).mem_closure
    rw [groupStep_eq]
    split
    · exact ⟨BooleanSubalgebra.sup_mem hS.1 hS.2, hc⟩
    · exact ⟨hS.1, BooleanSubalgebra.inf_mem hS.2 hc⟩

variable (sat) in
/-- **What can be said with one filter.**  Take the conditions of the calls from a nonempty
collection of conditions without an alternative at their top level.  The sets of documents that
an empty filter selects after such calls are exactly the Boolean combinations of what the
conditions select. -/
theorem chain_selects_iff_combination (hone : ∀ c ∈ K, c.expr.front = none) (hK : K.Nonempty)
    (S : Set D) :
    (∃ calls : List Call, (∀ c ∈ calls, c.cond ∈ K) ∧
        {d | Selects sat (run ⟨[]⟩ calls).cond d} = S) ↔
      S ∈ BooleanSubalgebra.closure (Cond.set sat '' K) := by
  constructor
  · rintro ⟨calls, hcalls, rfl⟩
    cases calls with
    | nil =>
      have hall : {d | Selects sat (run ⟨[]⟩ []).cond d} = ⊤ :=
        Set.eq_univ_of_forall fun d => Or.inl rfl
      rw [hall]
      exact BooleanSubalgebra.top_mem
    | cons c rest =>
      have hc := hcalls c (by simp)
      rw [selected_run_empty (hone c.cond hc)]
      have hrest : ∀ c' ∈ rest, c'.cond ∈ K := fun c' hc' => hcalls c' (by simp [hc'])
      have hset : c.set sat ∈ BooleanSubalgebra.closure (generators sat K) :=
        (Call.literal hc).mem_closure
      have hsets := mem_closure_foldl hrest (S := (∅, c.set sat))
        ⟨BooleanSubalgebra.bot_mem, hset⟩
      exact BooleanSubalgebra.sup_mem hsets.1 hsets.2
  · intro hS
    have hgenerators : (generators sat K).Nonempty := hK.image _
    obtain ⟨c, rest, hcalls, hrest⟩ :=
      exists_disjunction ((NormalForm.disjunction_iff_mem_closure hgenerators S).mpr hS)
    exact ⟨c :: rest, hcalls, (selected_run_empty (hone c.cond (hcalls c (by simp))) rest).trans
      hrest⟩

/-- One of two conditions, but not both. -/
theorem chain_selects_either :
    let sat : Atom → Str → Prop := fun a d => a.key = d
    let a : Cond := .ofText "a=1" rfl
    let b : Cond := .ofText "b=1" rfl
    ∃ calls : List Call, (∀ c ∈ calls, c.cond = a ∨ c.cond = b) ∧
      {d | Selects sat (run ⟨[]⟩ calls).cond d} = symmDiff (a.set sat) (b.set sat) := by
  intro sat a b
  have hone : ∀ c ∈ ({a, b} : Set Cond), c.expr.front = none := by
    rintro c (rfl | rfl) <;> rfl
  refine (chain_selects_iff_combination sat hone ⟨a, Or.inl rfl⟩ _).mpr ?_
  have ha : a.set sat ∈ BooleanSubalgebra.closure (Cond.set sat '' {a, b}) :=
    BooleanSubalgebra.subset_closure ⟨a, Or.inl rfl, rfl⟩
  have hb : b.set sat ∈ BooleanSubalgebra.closure (Cond.set sat '' {a, b}) :=
    BooleanSubalgebra.subset_closure ⟨b, Or.inr rfl, rfl⟩
  exact BooleanSubalgebra.sup_mem (BooleanSubalgebra.sdiff_mem ha hb)
    (BooleanSubalgebra.sdiff_mem hb ha)

end Expressive

end FilterText

end VectorDb
