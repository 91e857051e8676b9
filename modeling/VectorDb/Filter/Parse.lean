/-
The parse of a chain of builder calls.

The reading of `VectorDb.Filter.Text` is a tree; here it is flattened to the list of its
and-groups, each the list of its operands, which says at a glance where every condition of
a chain ends up.  The head of the chain keeps its own groups, and each later call adds
exactly one operand at the right end (`chain_groups`).
-/
import VectorDb.Filter.Chain

namespace VectorDb

namespace FilterText

open Precedence (Expr Operand appendToLast)

/-- The filter that a chain starts with: an empty one, or one with a well-formed condition. -/
def startFilter : Option Cond → Filter
  | none => ⟨[]⟩
  | some start => ⟨start.text⟩

/-- The groups after a call: its operand goes to the end of the last group, or is a group of
its own. -/
def addGroups (gs : List (List (Operand Atom))) (c : Call) : List (List (Operand Atom)) :=
  if c.op.opensGroup then gs ++ [[operand c.op c.cond.expr]]
  else appendToLast gs (operand c.op c.cond.expr)

/-- The groups of a first call on an empty filter: those of its condition, or the one group
of its negation. -/
def headGroups (c : Call) : List (List (Operand Atom)) :=
  if c.op.negates then [[.not (.paren c.cond.expr)]] else c.cond.expr.groups

/-- The groups of a chain.  The chain that starts empty and makes no call has none. -/
def chainGroups : Option Cond → List Call → Option (List (List (Operand Atom)))
  | none, [] => none
  | none, c :: calls => some (calls.foldl addGroups (headGroups c))
  | some start, calls => some (calls.foldl addGroups start.expr.groups)

lemma groups_extend (e : Expr Atom) (c : Call) :
    (extend e c.op c.cond.expr).groups = addGroups e.groups c := by
  unfold extend addGroups
  split
  · exact Expr.groups_orOperand e _
  · exact Expr.groups_andOperand e _

lemma groups_readChain (e : Expr Atom) (calls : List Call) :
    (readChain e calls).groups = calls.foldl addGroups e.groups := by
  induction calls generalizing e with
  | nil => rfl
  | cons c calls ih =>
    have hstep := ih (extend e c.op c.cond.expr)
    rw [groups_extend] at hstep
    exact hstep

lemma groups_head (c : Call) : (head c.op c.cond.expr).groups = headGroups c := by
  unfold head headGroups
  split
  · next hneg => rw [Expr.groups_single, operand, if_pos hneg]
  · rfl

/-- **The parse of a chain.**  The text of a chain is read as an expression, whose groups
are those of the head of the chain followed, call by call, by one operand for each call.
Only the text of the chain that starts empty and makes no call is not an expression. -/
theorem chain_groups (start : Option Cond) (calls : List Call) :
    (read (run (startFilter start) calls).cond).map Expr.groups = chainGroups start calls := by
  cases start with
  | some start =>
    have hread := read_run (f := ⟨start.text⟩) start.read_text calls
    rw [startFilter, hread, Option.map_some, groups_readChain]
    rfl
  | none =>
    cases calls with
    | nil => rfl
    | cons c calls =>
      rw [startFilter, read_run_empty, Option.map_some, groups_readChain, groups_head]
      rfl

/-- Without a starting condition and without a call there is nothing to read. -/
theorem empty_chain_unread :
    (run (startFilter none) []).cond = [] ∧
      ¬ ∀ (start : Option Cond) (calls : List Call),
        (read (run (startFilter start) calls).cond).isSome = true :=
  ⟨rfl, fun h => absurd (h none []) (by decide)⟩

example : (read (run (startFilter none) [⟨.andNotCond, .ofText "a=\") or (\"" rfl⟩,
    ⟨.orCond, .ofText "b=1 or c=1" rfl⟩, ⟨.andCond, .ofText "d=1" rfl⟩]).cond).map
      (fun e => e.groups.map List.length) = some [1, 2] := by rfl

end FilterText

end VectorDb
