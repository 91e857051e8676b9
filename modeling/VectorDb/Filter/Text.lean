/-
The language of filter texts, as the server is assumed to read it.

A text is split into tokens, the tokens of each comparison and of each list expression are
put together into one atom, and what remains is a boolean expression with the conventional
precedences of `VectorDb.Lib.Grammar`.  String literals run from a quote to the next one of
the same kind, so the parentheses and the connectives inside a literal mean nothing.

This file is not translated from the source: it is the reading of a filter against which
the builder is judged.  The results are that the reading can be cut at a blank and at a
parenthesis, and from them what the reading of a filter becomes when the builder extends
it (`read_apply` and `read_apply_empty`).
-/
import VectorDb.Lib.Lexer
import VectorDb.Lib.Parser
import VectorDb.Filter.Basic

namespace VectorDb

namespace FilterText

open Lexer (Tok)
open Precedence (Token Operand Group Expr parse parse_eq_some_iff)

/-! ### Atoms -/

/-- A value on the right of a comparison or in a list. -/
inductive Value where
  | word (w : Str)
  | lit (q : Char) (s : Str)
deriving DecidableEq, Repr

/-- A comparison or a list expression; the latter has at least one item. -/
inductive Atom where
  | cmp (key op : Str) (value : Value)
  | list (key : Str) (op : ListOp) (first : Value) (rest : List Value)
deriving DecidableEq, Repr

/-- The class of a character in a filter text: operators are the runs of class 1, words,
which are keys, numbers and keywords, are the runs of class 0. -/
def kind (c : Char) : Lexer.Kind :=
  if c.isWhitespace then .blank
  else if c = '(' ∨ c = ')' ∨ c = ',' then .punct
  else if c = '"' ∨ c = '\'' then .quote
  else if c = '=' ∨ c = '!' ∨ c = '<' ∨ c = '>' then .run 1
  else .run 0

/-- The connectives, which are not values. -/
def isConnective (w : Str) : Bool :=
  w = "and".toList ∨ w = "or".toList ∨ w = "not".toList

/-- The value that a token is. -/
def value : Tok → Option Value
  | .run 0 w => if isConnective w then none else some (.word w)
  | .lit q s => some (.lit q s)
  | _ => none

/-- What has been read of an atom. -/
inductive State where
  /-- No atom has been started. -/
  | idle
  | key (k : Str)
  | compare (k op : Str)
  | keyNot (k : Str)
  | keyInclude (k : Str)
  /-- The opening parenthesis of the list is expected. -/
  | operator (k : Str) (op : ListOp)
  /-- The first item is expected. -/
  | first (k : Str) (op : ListOp)
  /-- A comma or the closing parenthesis is expected. -/
  | items (k : Str) (op : ListOp) (first : Value) (rest : List Value)
  /-- Another item is expected. -/
  | next (k : Str) (op : ListOp) (first : Value) (rest : List Value)
deriving DecidableEq, Repr

/-- A word at the start of an operand or between two operands. -/
def enter (w : Str) : List (Token Atom) × State :=
  if w = "and".toList then ([.and], .idle)
  else if w = "or".toList then ([.or], .idle)
  else if w = "not".toList then ([.not], .idle)
  else ([], .key w)

/-- Read one token: the tokens of the expression it completes and the next state. -/
def step : State → Tok → Option (List (Token Atom) × State)
  | .idle, .punct '(' => some ([.lparen], .idle)
  | .idle, .punct ')' => some ([.rparen], .idle)
  | .idle, .run 0 w => some (enter w)
  | .key k, .run 1 op => some ([], .compare k op)
  | .key k, .run 0 w =>
      if w = "in".toList then some ([], .operator k .isIn)
      else if w = "not".toList then some ([], .keyNot k)
      else if w = "include".toList then some ([], .keyInclude k)
      else if w = "exclude".toList then some ([], .operator k .excludes)
      else none
  | .compare k op, t => (value t).map fun v => ([.atom (.cmp k op v)], .idle)
  | .keyNot k, .run 0 w => if w = "in".toList then some ([], .operator k .notIn) else none
  | .keyInclude k, .run 0 w =>
      if w = "all".toList then some ([], .operator k .includesAll) else none
  | .keyInclude k, .punct '(' => some ([], .first k .includes)
  | .operator k op, .punct '(' => some ([], .first k op)
  | .first k op, t => (value t).map fun v => ([], .items k op v [])
  | .items k op v vs, .punct ',' => some ([], .next k op v vs)
  | .items k op v vs, .punct ')' => some ([.atom (.list k op v vs)], .idle)
  | .next k op v vs, t => (value t).map fun w => ([], .items k op v (vs ++ [w]))
  | _, _ => none

/-- Read tokens from a given state. -/
def scan : State → List Tok → Option (List (Token Atom) × State)
  | st, [] => some ([], st)
  | st, t :: ts =>
      (step st t).bind fun r => (scan r.2 ts).map fun r' => (r.1 ++ r'.1, r'.2)

/-- Put the tokens of each atom together. -/
def group (ts : List Tok) : Option (List (Token Atom)) :=
  (scan .idle ts).bind fun r => if r.2 = .idle then some r.1 else none

/-- The tokens of a filter text. -/
def tokens (s : Str) : Option (List (Token Atom)) :=
  (Lexer.lex kind s).bind group

/-- The reading of a filter text. -/
def read (s : Str) : Option (Expr Atom) :=
  (tokens s).bind parse

/-! ### Cutting a text -/

lemma scan_append (st : State) (ts us : List Tok) :
    scan st (ts ++ us) =
      (scan st ts).bind fun r => (scan r.2 us).map fun r' => (r.1 ++ r'.1, r'.2) := by
  induction ts generalizing st with
  | nil => simp [scan]
  | cons t ts ih =>
    rw [List.cons_append, scan, scan]
    cases step st t with
    | none => rfl
    | some r =>
      rw [Option.bind_some, Option.bind_some, ih]
      cases scan r.2 ts with
      | none => rfl
      | some r' => simp [Option.map_map, Function.comp_def]

lemma scan_of_group {ts : List Tok} {as : List (Token Atom)} (h : group ts = some as) :
    scan .idle ts = some (as, .idle) := by
  obtain ⟨⟨bs, st⟩, hscan, hst⟩ := Option.bind_eq_some_iff.mp h
  by_cases hidle : st = .idle
  · subst hidle
    obtain rfl : bs = as := by simpa using hst
    exact hscan
  · simp [hidle] at hst

/-- Complete atoms can be cut off at the left. -/
lemma group_append {ts : List Tok} {as : List (Token Atom)} (h : group ts = some as)
    (us : List Tok) : group (ts ++ us) = (group us).map (as ++ ·) := by
  rw [group, scan_append, scan_of_group h, Option.bind_some, group]
  cases scan .idle us with
  | none => rfl
  | some r => by_cases hst : r.2 = .idle <;> simp [hst]

@[simp] lemma tokens_nil : tokens [] = some [] := rfl

lemma tokens_append_blank {s : Str} {as : List (Token Atom)} (hs : tokens s = some as)
    (t : Str) : tokens (s ++ ' ' :: t) = (tokens t).map (as ++ ·) := by
  obtain ⟨ts, hlex, hgroup⟩ := Option.bind_eq_some_iff.mp hs
  rw [tokens, Lexer.lex_append_blank hlex (by decide), tokens]
  cases Lexer.lex kind t with
  | none => rfl
  | some us => exact group_append hgroup us

lemma tokens_append_rparen {s : Str} {as : List (Token Atom)} (hs : tokens s = some as)
    (t : Str) : tokens (s ++ ')' :: t) = (tokens t).map (as ++ .rparen :: ·) := by
  obtain ⟨ts, hlex, hgroup⟩ := Option.bind_eq_some_iff.mp hs
  have hparen : group [.punct ')'] = some [.rparen] := rfl
  rw [tokens, Lexer.lex_append_punct hlex (by decide), tokens]
  cases Lexer.lex kind t with
  | none => rfl
  | some us =>
    have h := group_append hgroup (.punct ')' :: us)
    rw [show Tok.punct ')' :: us = [.punct ')'] ++ us from rfl, group_append hparen us,
      Option.map_map] at h
    exact h

lemma tokens_lparen (t : Str) : tokens ('(' :: t) = (tokens t).map (.lparen :: ·) := by
  have hparen : group [.punct '('] = some [.lparen] := rfl
  rw [tokens, Lexer.lex_punct (by decide), tokens]
  cases Lexer.lex kind t with
  | none => rfl
  | some us => exact group_append hparen us

/-! ### The texts of the builder -/

/-- The operand that a call adds: its condition in parentheses, negated by the two calls
that negate. -/
def operand (op : CondOp) (e : Expr Atom) : Operand Atom :=
  if op.negates then .not (.paren e) else .paren e

/-- The reading of a filter after a call: the operand goes to the last group, or opens a
new one. -/
def extend (e : Expr Atom) (op : CondOp) (c : Expr Atom) : Expr Atom :=
  if op.opensGroup then e.orOperand (operand op c) else e.andOperand (operand op c)

/-- The reading of an empty filter after its first call. -/
def head (op : CondOp) (c : Expr Atom) : Expr Atom :=
  if op.negates then .single (operand op c) else c

/-- The tokens by which a call joins its condition to the filter. -/
def connectives (op : CondOp) : List (Token Atom) :=
  (if op.opensGroup then .or else .and) :: if op.negates then [.not] else []

lemma tokens_operation (op : CondOp) : tokens op.operation = some (connectives op) := by
  cases op <;> rfl

lemma tokens_paren {c : Str} {as : List (Token Atom)} (hc : tokens c = some as) :
    tokens ('(' :: (c ++ [')'])) = some (.lparen :: (as ++ [.rparen])) := by
  rw [tokens_lparen, tokens_append_rparen hc, tokens_nil]
  rfl

lemma tokens_extend (e : Expr Atom) (op : CondOp) (c : Expr Atom) :
    (extend e op c).tokens =
      e.tokens ++ (connectives op ++ .lparen :: (c.tokens ++ [.rparen])) := by
  cases op <;>
    simp [extend, operand, connectives, CondOp.opensGroup, CondOp.negates,
      Precedence.Expr.tokens_andOperand, Precedence.Expr.tokens_orOperand,
      Precedence.Operand.tokens]

/-- A text is read as an expression exactly when it has the tokens of the expression. -/
lemma read_eq_some_iff {s : Str} {e : Expr Atom} :
    read s = some e ↔ tokens s = some e.tokens := by
  rw [read, Option.bind_eq_some_iff]
  constructor
  · rintro ⟨ts, htokens, hparse⟩
    rw [htokens, parse_eq_some_iff.mp hparse]
  · intro htokens
    exact ⟨e.tokens, htokens, parse_eq_some_iff.mpr rfl⟩

/-- The empty text is not an expression. -/
lemma ne_nil_of_read {s : Str} {e : Expr Atom} (h : read s = some e) : s ≠ [] := by
  rintro rfl
  simp [read, parse, Precedence.State.start, Precedence.State.result] at h

/-- **What a call does to the reading of a nonempty filter.** -/
theorem read_apply {f : Filter} {e : Expr Atom} (hf : read f.cond = some e) (op : CondOp)
    {c : Str} {e' : Expr Atom} (hc : read c = some e') :
    read (op.apply f c).cond = some (extend e op e') := by
  rw [op.apply_nonempty (ne_nil_of_read hf)]
  -- the text can be cut at the two blanks and at the parentheses around the condition
  rw [read_eq_some_iff] at hf hc ⊢
  rw [tokens_append_blank hf, tokens_append_blank (tokens_operation op),
    tokens_paren hc, tokens_extend]
  rfl

/-- **What the first call does to an empty filter.** -/
theorem read_apply_empty (op : CondOp) {c : Str} {e : Expr Atom} (hc : read c = some e) :
    read (op.apply ⟨[]⟩ c).cond = some (head op e) := by
  have hnot : tokens "not".toList = some [.not] := rfl
  cases hneg : op.negates with
  | false =>
    rw [CondOp.apply_empty hneg]
    simpa [head, hneg] using hc
  | true =>
    rw [CondOp.apply_empty_negated hneg]
    rw [read_eq_some_iff] at hc ⊢
    rw [tokens_append_blank hnot, tokens_paren hc]
    simp [head, operand, hneg, Precedence.Expr.tokens_single, Precedence.Operand.tokens]

/-! ### Well-formed conditions -/

/-- A well-formed condition: a text together with its reading. -/
structure Cond where
  /-- The text of the condition. -/
  text : Str
  /-- The expression it is read as. -/
  expr : Expr Atom
  /-- It is read as that expression. -/
  read_text : read text = some expr

/-- The documents that a filter text selects: all of them when the text is empty, and
otherwise those that satisfy the expression that the text is read as. -/
def Selects {D : Type} (sat : Atom → D → Prop) (s : Str) (d : D) : Prop :=
  s = [] ∨ ∃ e, read s = some e ∧ e.Holds fun a => sat a d

lemma selects_of_read {D : Type} {sat : Atom → D → Prop} {s : Str} {e : Expr Atom}
    (h : read s = some e) (d : D) : Selects sat s d ↔ e.Holds fun a => sat a d := by
  have hne := ne_nil_of_read h
  simp [Selects, h, hne]

/-- The documents that a condition selects. -/
def Cond.Holds {D : Type} (sat : Atom → D → Prop) (c : Cond) (d : D) : Prop :=
  c.expr.Holds fun a => sat a d

end FilterText

end VectorDb
