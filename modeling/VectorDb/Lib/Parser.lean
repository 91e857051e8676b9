/-
Reading the expressions of `VectorDb.Lib.Grammar` back from their tokens.

The parser goes through the tokens once, from the left.  Its state is a stack with one
entry for each parenthesis that is still open, each entry holding what has been read
before it, and it is either waiting for an operand or just after one.  The two results are
that the parser returns every expression from its tokens (`parse_tokens`) and that it
accepts nothing else (`tokens_of_parse`), so a list of tokens has at most one reading.
-/
import VectorDb.Lib.Grammar
import Mathlib.Data.List.Basic

namespace Precedence

variable {A : Type}

/-- What has been read before an operand, inside the innermost open parenthesis: the
finished groups, the operands of the unfinished group, and the number of `not` before the
operand. -/
structure Context (A : Type) where
  /-- The finished groups. -/
  front : Option (Expr A)
  /-- The operands of the unfinished group. -/
  group : Option (Group A)
  /-- The pending negations. -/
  nots : ℕ

/-- The state of the parser. -/
inductive State (A : Type) where
  /-- An operand is expected. -/
  | operand (c : Context A) (stack : List (Context A))
  /-- An operand was just read; it is the last one of the group `g`. -/
  | connective (front : Option (Expr A)) (g : Group A) (stack : List (Context A))

/-- Negate an operand `n` times. -/
def Operand.negate : ℕ → Operand A → Operand A
  | 0, o => o
  | n + 1, o => negate n (.not o)

namespace Context

/-- Nothing has been read yet. -/
def empty : Context A := ⟨none, none, 0⟩

/-- Add an operand to the unfinished group. -/
def groupWith (c : Context A) (o : Operand A) : Group A :=
  match c.group with
  | none => .one (o.negate c.nots)
  | some g => .and g (o.negate c.nots)

end Context

namespace State

/-- The state after the operand `o` has been read in the context `c`. -/
def plug (c : Context A) (o : Operand A) (stack : List (Context A)) : State A :=
  .connective c.front (c.groupWith o) stack

/-- Read one token. -/
def step : State A → Token A → Option (State A)
  | .operand c stack, .atom a => some (plug c (.atom a) stack)
  | .operand c stack, .lparen => some (.operand .empty (c :: stack))
  | .operand c stack, .not => some (.operand { c with nots := c.nots + 1 } stack)
  | .operand _ _, _ => none
  | .connective front g stack, .and => some (.operand ⟨front, some g, 0⟩ stack)
  | .connective front g stack, .or => some (.operand ⟨some (.join front g), none, 0⟩ stack)
  | .connective front g (c :: stack), .rparen => some (plug c (.paren (.join front g)) stack)
  | .connective _ _ _, _ => none

/-- The expression that has been read, when the state is a final one. -/
def result : State A → Option (Expr A)
  | .connective front g [] => some (.join front g)
  | _ => none

/-- The state before the first token. -/
def start : State A := .operand .empty []

end State

open State

/-- The expression with the given tokens, if there is one. -/
def parse (ts : List (Token A)) : Option (Expr A) :=
  (ts.foldlM step start).bind result

/-! ### The parser reads every expression -/

lemma plug_not (c : Context A) (o : Operand A) (stack : List (Context A)) :
    plug { c with nots := c.nots + 1 } o stack = plug c (.not o) stack := rfl

-- The induction is on the expression; the tokens after it and the parentheses around it are
-- arbitrary.
mutual

lemma run_operand : ∀ (o : Operand A) (c : Context A) (stack : List (Context A))
    (ts : List (Token A)),
    (o.tokens ++ ts).foldlM step (.operand c stack) = ts.foldlM step (plug c o stack)
  | .atom a, c, stack, ts => by simp [Operand.tokens, step]
  | .not o, c, stack, ts => by
      have ih := run_operand o { c with nots := c.nots + 1 } stack ts
      simpa [Operand.tokens, step, plug_not] using ih
  | .paren e, c, stack, ts => by
      have ih := run_expr e (c :: stack) (.rparen :: ts)
      simpa [Operand.tokens, step, Expr.join_front_last] using ih

lemma run_group : ∀ (g : Group A) (front : Option (Expr A)) (stack : List (Context A))
    (ts : List (Token A)),
    (g.tokens ++ ts).foldlM step (.operand ⟨front, none, 0⟩ stack) =
      ts.foldlM step (.connective front g stack)
  | .one o, front, stack, ts => by
      rw [Group.tokens, run_operand o]
      rfl
  | .and g o, front, stack, ts => by
      have hg := run_group g front stack (.and :: (o.tokens ++ ts))
      have ho := run_operand o ⟨front, some g, 0⟩ stack ts
      simp only [Group.tokens, List.append_assoc, List.cons_append]
      rw [hg, List.foldlM_cons]
      exact ho

lemma run_expr : ∀ (e : Expr A) (stack : List (Context A)) (ts : List (Token A)),
    (e.tokens ++ ts).foldlM step (.operand .empty stack) =
      ts.foldlM step (.connective e.front e.last stack)
  | .one g, stack, ts => run_group g none stack ts
  | .or e g, stack, ts => by
      have he := run_expr e stack (.or :: (g.tokens ++ ts))
      have hg := run_group g (some e) stack ts
      simp only [Expr.tokens, List.append_assoc, List.cons_append]
      rw [he, List.foldlM_cons]
      simp only [step, Expr.join_front_last]
      exact hg

end

/-- The parser returns an expression from its tokens. -/
@[simp] theorem parse_tokens (e : Expr A) : parse e.tokens = some e := by
  have h := run_expr e [] []
  simp only [List.append_nil] at h
  rw [parse, start, h]
  simp [result]

/-! ### The parser reads nothing else -/

lemma tokens_negate (n : ℕ) (o : Operand A) :
    (o.negate n).tokens = List.replicate n .not ++ o.tokens := by
  induction n generalizing o with
  | zero => rfl
  | succ n ih => simp [Operand.negate, ih, Operand.tokens, List.replicate_succ']

/-- The tokens of the finished groups, with the `or` after them. -/
def frontTokens : Option (Expr A) → List (Token A)
  | none => []
  | some e => e.tokens ++ [.or]

lemma tokens_join (front : Option (Expr A)) (g : Group A) :
    (Expr.join front g).tokens = frontTokens front ++ g.tokens := by
  cases front <;> simp [Expr.join, Expr.tokens, frontTokens]

/-- The tokens read in a context. -/
def Context.tokens (c : Context A) : List (Token A) :=
  frontTokens c.front ++
    (match c.group with
      | none => []
      | some g => g.tokens ++ [.and]) ++
    List.replicate c.nots .not

lemma tokens_groupWith (c : Context A) (o : Operand A) :
    frontTokens c.front ++ (c.groupWith o).tokens = c.tokens ++ o.tokens := by
  rcases c with ⟨front, _ | g, n⟩ <;>
    simp [Context.groupWith, Context.tokens, Group.tokens, tokens_negate]

/-- The tokens read before the innermost open parenthesis, that parenthesis included. -/
def stackTokens : List (Context A) → List (Token A)
  | [] => []
  | c :: stack => stackTokens stack ++ c.tokens ++ [.lparen]

/-- The tokens that lead from the start to a state. -/
def State.tokens : State A → List (Token A)
  | .operand c stack => stackTokens stack ++ c.tokens
  | .connective front g stack => stackTokens stack ++ (frontTokens front ++ g.tokens)

@[simp] lemma tokens_operand (c : Context A) (stack : List (Context A)) :
    (State.operand c stack).tokens = stackTokens stack ++ c.tokens := rfl

@[simp] lemma tokens_connective (front : Option (Expr A)) (g : Group A)
    (stack : List (Context A)) :
    (State.connective front g stack).tokens =
      stackTokens stack ++ (frontTokens front ++ g.tokens) := rfl

@[simp] lemma tokens_plug (c : Context A) (o : Operand A) (stack : List (Context A)) :
    (plug c o stack).tokens = stackTokens stack ++ c.tokens ++ o.tokens := by
  rw [plug, tokens_connective, tokens_groupWith, List.append_assoc]

lemma tokens_step {s s' : State A} {t : Token A} (h : step s t = some s') :
    s'.tokens = s.tokens ++ [t] := by
  rcases s with ⟨c, stack⟩ | ⟨front, g, stack⟩
  · -- an operand is expected: an atom, a negation or an opening parenthesis
    cases t <;> simp only [step, Option.some.injEq, reduceCtorEq] at h <;> subst h
    · simp [Operand.tokens]
    · simp [Context.tokens, List.replicate_succ']
    · simp [stackTokens, Context.tokens, Context.empty, frontTokens]
  · -- an operand was read: a connective, or the end of the innermost parenthesis
    cases t with
    | atom a => simp [step] at h
    | not => simp [step] at h
    | lparen => simp [step] at h
    | and =>
      simp only [step, Option.some.injEq] at h
      subst h
      simp [Context.tokens]
    | or =>
      simp only [step, Option.some.injEq] at h
      subst h
      simp [Context.tokens, frontTokens, tokens_join]
    | rparen =>
      cases stack with
      | nil => simp [step] at h
      | cons c stack =>
        simp only [step, Option.some.injEq] at h
        subst h
        simp [stackTokens, Operand.tokens, tokens_join]

lemma tokens_run {ts : List (Token A)} {s s' : State A} (h : ts.foldlM step s = some s') :
    s'.tokens = s.tokens ++ ts := by
  induction ts generalizing s with
  | nil =>
    have hs : s = s' := by simpa using h
    simp [hs]
  | cons t ts ih =>
    rw [List.foldlM_cons] at h
    obtain ⟨s₁, hstep, hrun⟩ := Option.bind_eq_some_iff.mp h
    rw [ih hrun, tokens_step hstep]
    simp

/-- An accepted list of tokens is the list of tokens of the expression that was read. -/
theorem tokens_of_parse {ts : List (Token A)} {e : Expr A} (h : parse ts = some e) :
    e.tokens = ts := by
  obtain ⟨s, hrun, hres⟩ := Option.bind_eq_some_iff.mp h
  have htokens := tokens_run hrun
  rcases s with ⟨c, stack⟩ | ⟨front, g, _ | ⟨c, stack⟩⟩
  · simp [result] at hres
  · simp only [result, Option.some.injEq] at hres
    subst hres
    rw [tokens_join]
    simpa [stackTokens, start, Context.tokens, Context.empty, frontTokens] using htokens
  · simp [result] at hres

theorem parse_eq_some_iff {ts : List (Token A)} {e : Expr A} :
    parse ts = some e ↔ ts = e.tokens := by
  constructor
  · intro h
    exact (tokens_of_parse h).symm
  · rintro rfl
    exact parse_tokens e

/-! ### What is not an expression -/

/-- No expression has a pair of parentheses with nothing in it. -/
lemma parse_empty_parens (ts us : List (Token A)) :
    parse (ts ++ .lparen :: .rparen :: us) = none := by
  have hparens : ∀ s : State A, (Token.lparen :: .rparen :: us).foldlM step s = none := by
    rintro (⟨c, stack⟩ | ⟨front, g, stack⟩) <;> simp [step]
  rw [parse, List.foldlM_append]
  cases ts.foldlM step start with
  | none => rfl
  | some s =>
    rw [Option.bind_eq_bind, Option.bind_some, hparens s]
    rfl

/-- No expression goes on after a parenthesis that closes nothing. -/
lemma parse_close (e : Expr A) (us : List (Token A)) :
    parse (e.tokens ++ .rparen :: us) = none := by
  rw [parse, start, run_expr]
  rfl

end Precedence
