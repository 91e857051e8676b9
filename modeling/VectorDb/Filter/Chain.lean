/-
Chains of builder calls.

A chain is a filter that is started somewhere and then extended by any number of calls.
The reading of the final text is computed by `readChain`, one call at a time; two of its
features are kept along a chain, the disjunction of its finished groups and its last group.
From them follow the two results of this file: when the order of the conjuncts does not
matter, and what a mixed chain selects.
-/
import VectorDb.Filter.Text
import Mathlib.Data.Set.Basic

namespace VectorDb

namespace FilterText

open Precedence (Expr Operand)

/-- A call of the builder with a well-formed condition. -/
structure Call where
  /-- Which of the four calls it is. -/
  op : CondOp
  /-- Its condition. -/
  cond : Cond

/-- Make the calls one after the other. -/
def run (f : Filter) (calls : List Call) : Filter :=
  calls.foldl (fun f c => c.op.apply f c.cond.text) f

/-- The reading of a chain that starts with the reading `e`. -/
def readChain (e : Expr Atom) (calls : List Call) : Expr Atom :=
  calls.foldl (fun e c => extend e c.op c.cond.expr) e

/-- The reading of a chain that starts at a nonempty filter. -/
theorem read_run {f : Filter} {e : Expr Atom} (hf : read f.cond = some e)
    (calls : List Call) : read (run f calls).cond = some (readChain e calls) := by
  induction calls generalizing f e with
  | nil => exact hf
  | cons c calls ih => exact ih (read_apply hf c.op c.cond.read_text)

/-- The reading of a chain that starts at the empty filter. -/
theorem read_run_empty (c : Call) (calls : List Call) :
    read (run ⟨[]⟩ (c :: calls)).cond = some (readChain (head c.op c.cond.expr) calls) :=
  read_run (read_apply_empty c.op c.cond.read_text) calls

section Meaning

variable {D : Type} (sat : Atom → D → Prop)

/-- The truth of the operand that a call adds. -/
def Call.Holds (c : Call) (d : D) : Prop :=
  if c.op.negates then ¬ c.cond.Holds sat d else c.cond.Holds sat d

variable {sat}

lemma operand_holds (c : Call) (d : D) :
    (operand c.op c.cond.expr).Holds (fun a => sat a d) ↔ c.Holds sat d := by
  unfold operand Call.Holds Cond.Holds
  split <;> simp [Precedence.Operand.Holds]

/-! ### Conjuncts -/

variable (sat)

/-- A call of `andCond`, or of `andNotCond` when `negated`. -/
structure Conjunct where
  /-- The call is `andNotCond`. -/
  negated : Bool
  /-- Its condition. -/
  cond : Cond

/-- The call of the builder that a conjunct is. -/
def Conjunct.call (c : Conjunct) : Call :=
  ⟨if c.negated then .andNotCond else .andCond, c.cond⟩

/-- The filter built by conjuncts, in the order in which the mutex serialises them. -/
def build (order : List Conjunct) : Filter := run ⟨[]⟩ (order.map Conjunct.call)

/-- What a conjunct requires of a document. -/
def Conjunct.Holds (c : Conjunct) (d : D) : Prop := c.call.Holds sat d

/-- The condition of an `andCond` has a top-level alternative, other than its last one,
that the document satisfies. -/
def Conjunct.EarlyAlternative (c : Conjunct) (d : D) : Prop :=
  c.negated = false ∧ c.cond.expr.FrontHolds fun a => sat a d

variable {sat}

lemma Conjunct.opensGroup_call (c : Conjunct) : c.call.op.opensGroup = false := by
  unfold Conjunct.call
  split <;> rfl

variable (sat) in
/-- Conjuncts only add operands to the last group. -/
lemma readChain_conjuncts (e : Expr Atom) (cs : List Conjunct) (d : D) :
    ((readChain e (cs.map Conjunct.call)).FrontHolds (fun a => sat a d) ↔
        e.FrontHolds fun a => sat a d) ∧
      ((readChain e (cs.map Conjunct.call)).LastHolds (fun a => sat a d) ↔
        e.LastHolds (fun a => sat a d) ∧ ∀ c ∈ cs, c.Holds sat d) := by
  induction cs generalizing e with
  | nil => simp [readChain]
  | cons c cs ih =>
    -- an and call leaves the finished groups alone and narrows the last one
    have hext : extend e c.call.op c.call.cond.expr =
        e.andOperand (operand c.call.op c.call.cond.expr) := by
      simp [extend, c.opensGroup_call]
    obtain ⟨hfront, hlast⟩ := ih (extend e c.call.op c.call.cond.expr)
    show (Expr.FrontHolds _ (readChain (extend e c.call.op c.call.cond.expr) _) ↔ _) ∧
      (Expr.LastHolds _ (readChain (extend e c.call.op c.call.cond.expr) _) ↔ _)
    rw [hfront, hlast, hext, Expr.frontHolds_andOperand, Expr.lastHolds_andOperand,
      operand_holds, List.forall_mem_cons, and_assoc]
    exact ⟨Iff.rfl, Iff.rfl⟩

lemma frontHolds_head (c : Conjunct) (d : D) :
    (head c.call.op c.cond.expr).FrontHolds (fun a => sat a d) ↔ c.EarlyAlternative sat d := by
  unfold Conjunct.call Conjunct.EarlyAlternative
  cases c.negated <;> simp [head, CondOp.negates]

lemma holds_head (c : Conjunct) (d : D) :
    (head c.call.op c.cond.expr).Holds (fun a => sat a d) ↔ c.Holds sat d := by
  unfold Conjunct.Holds Conjunct.call Call.Holds Cond.Holds
  cases c.negated <;>
    simp [head, CondOp.negates, operand, Expr.single, Precedence.Expr.Holds,
      Precedence.Group.Holds, Precedence.Operand.Holds]

/-- What a sequence of conjuncts selects: a document passes by an early alternative of the
first one, without regard to the others, or it passes all of them. -/
lemma selects_build (c : Conjunct) (rest : List Conjunct) (d : D) :
    Selects sat (build (c :: rest)).cond d ↔
      c.EarlyAlternative sat d ∨ ∀ c' ∈ c :: rest, c'.Holds sat d := by
  have hread := read_run_empty c.call (rest.map Conjunct.call)
  obtain ⟨hfront, hlast⟩ := readChain_conjuncts sat
    (head c.call.op c.cond.expr) rest d
  have hhead := Expr.holds_iff (fun a => sat a d) (head c.call.op c.cond.expr)
  rw [holds_head, frontHolds_head] at hhead
  rw [frontHolds_head] at hfront
  rw [build, List.map_cons, selects_of_read hread, Expr.holds_iff]
  show Expr.FrontHolds _ (readChain (head c.call.op c.cond.expr) _) ∨
    Expr.LastHolds _ (readChain (head c.call.op c.cond.expr) _) ↔ _
  rw [hfront, hlast, List.forall_mem_cons, hhead]
  tauto

/-- A document that passes by an early alternative satisfies the conjunct. -/
lemma Conjunct.holds_of_early {c : Conjunct} {d : D} (h : c.EarlyAlternative sat d) :
    c.Holds sat d := by
  obtain ⟨hneg, hfront⟩ := h
  have hholds : c.cond.Holds sat d := (Expr.holds_iff _ _).mpr (Or.inl hfront)
  simpa [Conjunct.Holds, Conjunct.call, Call.Holds, CondOp.negates, hneg] using hholds

/-- An order selects what it should exactly when no document passes by an early alternative
of its first conjunct and fails another one. -/
lemma selects_order_iff (c : Conjunct) (rest : List Conjunct) (d : D) :
    (Selects sat (build (c :: rest)).cond d ↔ ∀ c' ∈ c :: rest, c'.Holds sat d) ↔
      (c.EarlyAlternative sat d → ∀ c' ∈ rest, c'.Holds sat d) := by
  rw [selects_build, List.forall_mem_cons]
  have hearly : c.EarlyAlternative sat d → c.Holds sat d := Conjunct.holds_of_early
  tauto

end Meaning

/-- **Conjuncts in any order.**  Every order of a collection of `andCond` and `andNotCond`
calls on an empty filter selects exactly the documents that satisfy all of them if and only
if no document satisfies a top-level alternative, other than the last one, of the condition
of an `andCond` and fails one of the other calls. -/
theorem conjuncts_in_any_order_iff {D : Type} (sat : Atom → D → Prop)
    (calls : List Conjunct) :
    (∀ o₁ o₂ : List Conjunct, o₁.Perm calls → o₂.Perm calls → ∀ d,
        (Selects sat (build o₁).cond d ↔ Selects sat (build o₂).cond d) ∧
          (Selects sat (build o₁).cond d ↔ ∀ c ∈ calls, c.Holds sat d)) ↔
      ∀ c rest, (c :: rest).Perm calls → ∀ d,
        c.EarlyAlternative sat d → ∀ c' ∈ rest, c'.Holds sat d := by
  constructor
  · -- any of the calls can be the first one
    intro h c rest hperm d
    have hsel := (h _ _ hperm hperm d).2
    have hall : (∀ c' ∈ calls, c'.Holds sat d) ↔ ∀ c' ∈ c :: rest, c'.Holds sat d :=
      forall_congr' fun c' => by rw [hperm.mem_iff]
    exact (selects_order_iff c rest d).mp (hsel.trans hall)
  · intro h
    have hone : ∀ o : List Conjunct, o.Perm calls → ∀ d,
        (Selects sat (build o).cond d ↔ ∀ c ∈ calls, c.Holds sat d) := by
      intro o hperm d
      have hall : (∀ c' ∈ calls, c'.Holds sat d) ↔ ∀ c' ∈ o, c'.Holds sat d :=
        forall_congr' fun c' => by rw [hperm.mem_iff]
      rw [hall]
      cases o with
      | nil => exact ⟨fun _ => by simp, fun _ => Or.inl rfl⟩
      | cons c rest => exact (selects_order_iff c rest d).mpr (h c rest hperm d)
    intro o₁ o₂ h₁ h₂ d
    exact ⟨(hone o₁ h₁ d).trans (hone o₂ h₂ d).symm, hone o₁ h₁ d⟩

/-- The condition with a given text, when the text is well formed. -/
def Cond.ofText (s : String) (h : (read s.toList).isSome = true) : Cond :=
  ⟨s.toList, (read s.toList).get h, by simp⟩

/-- The key of an atom. -/
def Atom.key : Atom → Str
  | .cmp k _ _ => k
  | .list k _ _ _ => k

/-- `andCond("a=1 or b=1")`. -/
def eitherConjunct : Conjunct := ⟨false, .ofText "a=1 or b=1" rfl⟩

/-- `andCond("c=1")`. -/
def otherConjunct : Conjunct := ⟨false, .ofText "c=1" rfl⟩

/-- A document with `a=1` only is selected when the disjunction comes first, although it
fails the other conjunct, and not selected when the disjunction comes second. -/
theorem conjunct_order_matters :
    let sat : Atom → Unit → Prop := fun a _ => a.key = "a".toList
    (build [eitherConjunct, otherConjunct]).cond = "a=1 or b=1 and (c=1)".toList ∧
      (build [otherConjunct, eitherConjunct]).cond = "c=1 and (a=1 or b=1)".toList ∧
      Selects sat (build [eitherConjunct, otherConjunct]).cond () ∧
      ¬ Selects sat (build [otherConjunct, eitherConjunct]).cond () ∧
      ¬ otherConjunct.Holds sat () := by
  intro sat
  have hearly : eitherConjunct.EarlyAlternative sat () := by
    refine ⟨rfl, _, rfl, ?_⟩
    show "a".toList = "a".toList
    rfl
  have hother : ¬ otherConjunct.Holds sat () := by
    show ¬ "c".toList = "a".toList
    decide
  have hlate : ¬ otherConjunct.EarlyAlternative sat () :=
    fun h => hother (Conjunct.holds_of_early h)
  refine ⟨rfl, rfl, (selects_build _ _ _).mpr (Or.inl hearly), ?_, hother⟩
  rw [selects_build]
  rintro (h | h)
  · exact hlate h
  · exact hother (h otherConjunct (by simp))

/-! ### Mixed chains -/

section Mixed

variable {D : Type} (sat : Atom → D → Prop)

/-- A self-delimiting condition: one comparison, one list expression or one parenthesised
expression. -/
structure Delimited extends Cond where
  /-- The operand that the condition is. -/
  operand : Operand Atom
  /-- The condition is that operand alone. -/
  expr_eq : expr = .single operand
  /-- The operand is not a negation. -/
  not_negation : ∀ o, operand ≠ .not o

/-- The documents that a condition selects. -/
def Cond.set (c : Cond) : Set D := {d | c.Holds sat d}

/-- One call, as an operation on the set selected so far. -/
def leftStep (S : Set D) (c : Call) : Set D :=
  match c.op with
  | .andCond => S ∩ c.cond.set sat
  | .orCond => S ∪ c.cond.set sat
  | .andNotCond => S \ c.cond.set sat
  | .orNotCond => S ∪ (c.cond.set sat)ᶜ

/-- One call, as an operation on the pair of the set selected by the finished groups and
the set selected by the last group: an and call narrows the last group, an or call finishes
it and opens a new one. -/
def groupStep (S : Set D × Set D) (c : Call) : Set D × Set D :=
  match c.op with
  | .andCond => (S.1, S.2 ∩ c.cond.set sat)
  | .orCond => (S.1 ∪ S.2, c.cond.set sat)
  | .andNotCond => (S.1, S.2 \ c.cond.set sat)
  | .orNotCond => (S.1 ∪ S.2, (c.cond.set sat)ᶜ)

/-- The set selected by a pair. -/
def total (S : Set D × Set D) : Set D := S.1 ∪ S.2

/-- The finished groups and the last group of an expression. -/
def groupSets (e : Expr Atom) : Set D × Set D :=
  ({d | e.FrontHolds fun a => sat a d}, {d | e.LastHolds fun a => sat a d})

variable {sat}

lemma groupSets_extend (e : Expr Atom) (c : Call) :
    groupSets sat (extend e c.op c.cond.expr) = groupStep sat (groupSets sat e) c := by
  rcases c with ⟨op, cond⟩
  cases op <;>
    ext d <;>
    simp [groupSets, groupStep, extend, operand, CondOp.opensGroup, CondOp.negates,
      Precedence.Operand.Holds, Cond.set, Cond.Holds, Expr.holds_iff]

lemma groupSets_readChain (e : Expr Atom) (calls : List Call) :
    groupSets sat (readChain e calls) = calls.foldl (groupStep sat) (groupSets sat e) := by
  induction calls generalizing e with
  | nil => rfl
  | cons c calls ih =>
    rw [List.foldl_cons, ← groupSets_extend]
    exact ih _

variable (sat) in
/-- What a chain selects, by precedence. -/
lemma selected_run (start : Cond) (calls : List Call) :
    {d | Selects sat (run ⟨start.text⟩ calls).cond d} =
      total (calls.foldl (groupStep sat) (groupSets sat start.expr)) := by
  have hread := read_run (f := ⟨start.text⟩) start.read_text calls
  rw [← groupSets_readChain]
  ext d
  exact (selects_of_read hread d).trans (Expr.holds_iff _ _)

lemma groupSets_delimited (start : Delimited) :
    groupSets sat start.expr = (∅, start.toCond.set sat) := by
  have hfront : ∀ d, ¬ start.expr.FrontHolds fun a => sat a d := by
    intro d
    rw [start.expr_eq]
    exact Expr.frontHolds_single _ _
  refine Prod.ext (Set.eq_empty_of_forall_notMem hfront) ?_
  ext d
  have hholds := Expr.holds_iff (fun a => sat a d) start.expr
  exact ⟨fun h => hholds.mpr (Or.inr h), fun h => (hholds.mp h).resolve_left (hfront d)⟩

/-! A chain without an and call after an or call is the left fold of its calls. -/

lemma leftStep_or {c : Call} (hc : c.op.opensGroup = true) (S : Set D) :
    leftStep sat S c = S ∪ {d | c.Holds sat d} := by
  rcases c with ⟨op, cond⟩
  cases op <;> first | rfl | simp [CondOp.opensGroup] at hc

lemma leftStep_and {c : Call} (hc : c.op.opensGroup = false) (S : Set D) :
    leftStep sat S c = S ∩ {d | c.Holds sat d} := by
  rcases c with ⟨op, cond⟩
  cases op <;> first | rfl | simp [CondOp.opensGroup] at hc

lemma total_groupStep_or {c : Call} (hc : c.op.opensGroup = true) (S : Set D × Set D) :
    total (groupStep sat S c) = leftStep sat (total S) c := by
  rcases c with ⟨op, cond⟩
  cases op <;> first | rfl | simp [CondOp.opensGroup] at hc

lemma groupStep_and {c : Call} (hc : c.op.opensGroup = false) (S : Set D × Set D) :
    groupStep sat S c = (S.1, leftStep sat S.2 c) := by
  rcases c with ⟨op, cond⟩
  cases op <;> first | rfl | simp [CondOp.opensGroup] at hc

lemma total_foldl_or {calls : List Call} (hor : ∀ c ∈ calls, c.op.opensGroup = true)
    (S : Set D × Set D) :
    total (calls.foldl (groupStep sat) S) = calls.foldl (leftStep sat) (total S) := by
  induction calls generalizing S with
  | nil => rfl
  | cons c calls ih =>
    rw [List.foldl_cons, List.foldl_cons, ih (fun c' hc' => hor c' (by simp [hc'])),
      total_groupStep_or (hor c (by simp))]

/-- Or calls add what they select. -/
lemma foldl_leftStep_or {calls : List Call} (hor : ∀ c ∈ calls, c.op.opensGroup = true)
    (S : Set D) :
    calls.foldl (leftStep sat) S = S ∪ {d | ∃ c ∈ calls, c.Holds sat d} := by
  induction calls generalizing S with
  | nil => simp
  | cons c calls ih =>
    rw [List.foldl_cons, ih fun c' hc' => hor c' (by simp [hc']), leftStep_or (hor c (by simp))]
    ext d
    simp [or_assoc]

/-- And calls narrow the last group to what they select. -/
lemma foldl_groupStep_and {calls : List Call} (hand : ∀ c ∈ calls, c.op.opensGroup = false)
    (S : Set D × Set D) :
    calls.foldl (groupStep sat) S = (S.1, S.2 ∩ {d | ∀ c ∈ calls, c.Holds sat d}) := by
  induction calls generalizing S with
  | nil => simp
  | cons c calls ih =>
    have hc := hand c (by simp)
    rw [List.foldl_cons, groupStep_and hc, leftStep_and hc,
      ih fun c' hc' => hand c' (by simp [hc'])]
    refine Prod.ext rfl ?_
    ext d
    simp [and_assoc]

lemma total_foldl_of_sorted {calls : List Call}
    (hsorted : calls.Pairwise fun c c' => c.op.opensGroup = true → c'.op.opensGroup = true)
    (S : Set D) :
    total (calls.foldl (groupStep sat) (∅, S)) = calls.foldl (leftStep sat) S := by
  induction calls generalizing S with
  | nil => simp [total]
  | cons c calls ih =>
    rw [List.pairwise_cons] at hsorted
    cases hc : c.op.opensGroup with
    | false =>
      rw [List.foldl_cons, groupStep_and hc, ih hsorted.2]
      rfl
    | true =>
      -- after an or call there are or calls only
      have hor : ∀ c' ∈ c :: calls, c'.op.opensGroup = true := by
        intro c' hc'
        rcases List.mem_cons.mp hc' with rfl | hc'
        · exact hc
        · exact hsorted.1 c' hc' hc
      rw [total_foldl_or hor]
      simp [total]

end Mixed

/-- **Builder calls compose by precedence.**  A filter started from a self-delimiting
condition and extended by any calls selects the union of its groups: an or call finishes
the last group and opens a new one, an and call narrows the last group.  This is the left
fold of the calls when no and call comes after an or call. -/
theorem chain_selects {D : Type} (sat : Atom → D → Prop) (start : Delimited)
    (calls : List Call) :
    {d | Selects sat (run ⟨start.text⟩ calls).cond d} =
        total (calls.foldl (groupStep sat) (∅, start.toCond.set sat)) ∧
      ((calls.Pairwise fun c c' => c.op.opensGroup = true → c'.op.opensGroup = true) →
        {d | Selects sat (run ⟨start.text⟩ calls).cond d} =
          calls.foldl (leftStep sat) (start.toCond.set sat)) := by
  have hsel := selected_run sat start.toCond calls
  rw [groupSets_delimited] at hsel
  exact ⟨hsel, fun hsorted => hsel.trans (total_foldl_of_sorted hsorted _)⟩

/-- `a=1`. -/
def startCondition : Delimited where
  toCond := .ofText "a=1" rfl
  operand := .atom (.cmp "a".toList "=".toList (.word "1".toList))
  expr_eq := rfl
  not_negation := by simp

/-- In `a=1 or (b=1) and (c=1)` the conjunct narrows the second alternative only: a
document with `a=1` alone is selected, and is not in the left fold of the calls. -/
theorem chain_regroups :
    let sat : Atom → Unit → Prop := fun a _ => a.key = "a".toList
    let calls : List Call := [⟨.orCond, .ofText "b=1" rfl⟩, ⟨.andCond, .ofText "c=1" rfl⟩]
    (run ⟨startCondition.text⟩ calls).cond = "a=1 or (b=1) and (c=1)".toList ∧
      Selects sat (run ⟨startCondition.text⟩ calls).cond () ∧
      () ∉ calls.foldl (leftStep sat) (startCondition.toCond.set sat) := by
  intro sat calls
  have hc : ¬ (Cond.ofText "c=1" rfl).Holds sat () := by
    show ¬ "c".toList = "a".toList
    decide
  refine ⟨rfl, ?_, fun h => hc h.2⟩
  have hread := read_run (f := ⟨startCondition.text⟩) startCondition.read_text calls
  rw [selects_of_read hread, Expr.holds_iff]
  exact Or.inl ⟨_, rfl, rfl⟩

end FilterText

end VectorDb
