/-
Boolean expressions with the conventional precedences.

An expression is a disjunction of groups, a group is a conjunction of operands, and an
operand is an atom, a parenthesised expression or a negated operand.  So `not` binds
tighter than `and`, `and` tighter than `or`, and parentheses group.  The three levels are
three mutually inductive types: an expression that is badly grouped, or that has a
connective without an operand, cannot be built.

Groups and disjunctions are listed from the left, so that adding an operand at the right
end of an expression is one constructor.
-/
import Mathlib.Data.Set.Basic

namespace Precedence

variable {A : Type}

/-- The tokens of an expression over the atoms `A`. -/
inductive Token (A : Type) where
  | atom (a : A)
  | and
  | or
  | not
  | lparen
  | rparen
deriving DecidableEq, Repr

mutual

/-- An operand: an atom, an expression in parentheses, or a negated operand. -/
inductive Operand (A : Type) where
  | atom (a : A)
  | paren (e : Expr A)
  | not (o : Operand A)

/-- A nonempty conjunction of operands. -/
inductive Group (A : Type) where
  | one (o : Operand A)
  | and (g : Group A) (o : Operand A)

/-- A nonempty disjunction of groups. -/
inductive Expr (A : Type) where
  | one (g : Group A)
  | or (e : Expr A) (g : Group A)

end

/-! ### The text of an expression -/

mutual

/-- The tokens of an operand. -/
def Operand.tokens : Operand A → List (Token A)
  | .atom a => [.atom a]
  | .paren e => .lparen :: (e.tokens ++ [.rparen])
  | .not o => .not :: o.tokens

/-- The tokens of a group. -/
def Group.tokens : Group A → List (Token A)
  | .one o => o.tokens
  | .and g o => g.tokens ++ .and :: o.tokens

/-- The tokens of an expression. -/
def Expr.tokens : Expr A → List (Token A)
  | .one g => g.tokens
  | .or e g => e.tokens ++ .or :: g.tokens

end

/-! ### The meaning of an expression -/

mutual

/-- The truth value of an operand, given the true atoms. -/
def Operand.Holds (sat : A → Prop) : Operand A → Prop
  | .atom a => sat a
  | .paren e => e.Holds sat
  | .not o => ¬ o.Holds sat

/-- The truth value of a group, given the true atoms. -/
def Group.Holds (sat : A → Prop) : Group A → Prop
  | .one o => o.Holds sat
  | .and g o => g.Holds sat ∧ o.Holds sat

/-- The truth value of an expression, given the true atoms. -/
def Expr.Holds (sat : A → Prop) : Expr A → Prop
  | .one g => g.Holds sat
  | .or e g => e.Holds sat ∨ g.Holds sat

end

namespace Expr

/-- The groups of an expression before its last one. -/
def front : Expr A → Option (Expr A)
  | .one _ => none
  | .or e _ => some e

/-- The last group of an expression. -/
def last : Expr A → Group A
  | .one g => g
  | .or _ g => g

/-- The expression made of the groups `front` and a last group. -/
def join : Option (Expr A) → Group A → Expr A
  | none, g => .one g
  | some e, g => .or e g

@[simp] lemma join_front_last (e : Expr A) : join e.front e.last = e := by
  cases e <;> rfl

/-- Some group before the last one is true. -/
def FrontHolds (sat : A → Prop) (e : Expr A) : Prop :=
  ∃ f, e.front = some f ∧ f.Holds sat

/-- The last group is true. -/
def LastHolds (sat : A → Prop) (e : Expr A) : Prop := e.last.Holds sat

lemma holds_iff (sat : A → Prop) (e : Expr A) :
    e.Holds sat ↔ e.FrontHolds sat ∨ e.LastHolds sat := by
  cases e <;> simp [Expr.Holds, FrontHolds, LastHolds, front, last]

/-! ### Adding an operand at the right end -/

/-- Append an operand to the last group. -/
def andOperand : Expr A → Operand A → Expr A
  | .one g, o => .one (.and g o)
  | .or e g, o => .or e (.and g o)

/-- Open a new group with an operand. -/
def orOperand (e : Expr A) (o : Operand A) : Expr A := .or e (.one o)

lemma tokens_andOperand (e : Expr A) (o : Operand A) :
    (e.andOperand o).tokens = e.tokens ++ .and :: o.tokens := by
  cases e <;> simp [andOperand, Expr.tokens, Group.tokens]

lemma tokens_orOperand (e : Expr A) (o : Operand A) :
    (e.orOperand o).tokens = e.tokens ++ .or :: o.tokens := by
  simp [orOperand, Expr.tokens, Group.tokens]

variable (sat : A → Prop) (e : Expr A) (o : Operand A)

@[simp] lemma frontHolds_andOperand :
    (e.andOperand o).FrontHolds sat ↔ e.FrontHolds sat := by
  cases e <;> simp [andOperand, FrontHolds, front]

@[simp] lemma lastHolds_andOperand :
    (e.andOperand o).LastHolds sat ↔ e.LastHolds sat ∧ o.Holds sat := by
  cases e <;> simp [andOperand, LastHolds, last, Group.Holds]

@[simp] lemma frontHolds_orOperand : (e.orOperand o).FrontHolds sat ↔ e.Holds sat := by
  simp [orOperand, FrontHolds, front]

@[simp] lemma lastHolds_orOperand : (e.orOperand o).LastHolds sat ↔ o.Holds sat := by
  simp [orOperand, LastHolds, last, Group.Holds]

/-! ### Expressions of one operand -/

/-- The expression that is a single operand. -/
def single (o : Operand A) : Expr A := .one (.one o)

lemma tokens_single : (single o).tokens = o.tokens := by
  simp [single, Expr.tokens, Group.tokens]

@[simp] lemma frontHolds_single : ¬ (single o).FrontHolds sat := by
  simp [single, FrontHolds, front]

@[simp] lemma lastHolds_single : (single o).LastHolds sat ↔ o.Holds sat := by
  simp [single, LastHolds, last, Group.Holds]

end Expr

/-! ### The groups of an expression, as lists -/

/-- The operands of a group, from the left. -/
def Group.operands : Group A → List (Operand A)
  | .one o => [o]
  | .and g o => g.operands ++ [o]

/-- The groups of an expression, each as the list of its operands. -/
def Expr.groups : Expr A → List (List (Operand A))
  | .one g => [g.operands]
  | .or e g => e.groups ++ [g.operands]

/-- Append an element to the last one of some lists. -/
def appendToLast {α : Type} : List (List α) → α → List (List α)
  | [], a => [[a]]
  | [l], a => [l ++ [a]]
  | l :: ls, a => l :: appendToLast ls a

lemma appendToLast_concat {α : Type} (ls : List (List α)) (l : List α) (a : α) :
    appendToLast (ls ++ [l]) a = ls ++ [l ++ [a]] := by
  induction ls with
  | nil => rfl
  | cons k ls ih =>
    cases ls with
    | nil => rfl
    | cons k' ls => exact congrArg (k :: ·) ih

lemma flatten_appendToLast {α : Type} (ls : List (List α)) (a : α) :
    (appendToLast ls a).flatten = ls.flatten ++ [a] := by
  induction ls with
  | nil => rfl
  | cons l ls ih =>
    cases ls with
    | nil => simp [appendToLast]
    | cons k ls => simpa [appendToLast] using ih

namespace Expr

variable (e : Expr A) (o : Operand A)

@[simp] lemma groups_andOperand : (e.andOperand o).groups = appendToLast e.groups o := by
  cases e with
  | one g => rfl
  | or e g => exact (appendToLast_concat e.groups g.operands o).symm

@[simp] lemma groups_orOperand : (e.orOperand o).groups = e.groups ++ [[o]] := rfl

@[simp] lemma groups_single : (single o).groups = [[o]] := rfl

end Expr

end Precedence
