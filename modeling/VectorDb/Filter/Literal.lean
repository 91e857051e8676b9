/-
String items and the tokens of a filter.

The texts are lexed with literals that run from a double quote to the next one.  The lexer
knows nothing of the builder, so what an item does to the tokens of a filter is decided by
its text alone.  The result (`literal_structure_iff`) is that the items become the literals of the
list expression, with the same tokens around them whatever the items are, exactly when no
item contains a double quote.
-/
import VectorDb.Lib.Lexer
import VectorDb.Filter.Basic

namespace VectorDb

namespace Literal

open Lexer (Tok lex literals)

/-- The class of a character when the double quote is the only quote. -/
def kind (c : Char) : Lexer.Kind :=
  if c.isWhitespace then .blank
  else if c = '(' ∨ c = ')' ∨ c = ',' then .punct
  else if c = '"' then .quote
  else if c = '=' ∨ c = '!' ∨ c = '<' ∨ c = '>' then .run 1
  else .run 0

lemma kind_quote_iff (c : Char) : kind c = .quote ↔ c = '"' := by
  constructor
  · intro h
    unfold kind at h
    split_ifs at h with h1 h2 h3
    exact h3
  · rintro rfl
    rfl

/-- An identifier: letters, digits and underscores, and at least one of them. -/
def IsIdentifier (s : Str) : Prop :=
  s ≠ [] ∧ ∀ c ∈ s, c.isAlphanum = true ∨ c = '_'

lemma isIdentifier_of_all {s : Str} (hne : s ≠ [])
    (hall : s.all (fun c => c.isAlphanum || c == '_') = true) : IsIdentifier s := by
  refine ⟨hne, ?_⟩
  intro c hc
  have h := List.all_eq_true.mp hall c hc
  simpa using h

lemma kind_identifier {c : Char} (hc : c.isAlphanum = true ∨ c = '_') : kind c = .run 0 := by
  have hne : ∀ d : Char, d.isAlphanum = false ∧ d ≠ '_' → c ≠ d := by
    rintro d ⟨hd, hd'⟩ rfl
    rcases hc with hc | hc
    · simp [hd] at hc
    · exact hd' hc
  have hspace := hne ' ' (by decide)
  have htab := hne '\t' (by decide)
  have hreturn := hne '\r' (by decide)
  have hnewline := hne '\n' (by decide)
  have hopen := hne '(' (by decide)
  have hclose := hne ')' (by decide)
  have hcomma := hne ',' (by decide)
  have hquote := hne '"' (by decide)
  have hequals := hne '=' (by decide)
  have hbang := hne '!' (by decide)
  have hless := hne '<' (by decide)
  have hgreater := hne '>' (by decide)
  simp [kind, Char.isWhitespace, hspace, htab, hreturn, hnewline, hopen, hclose, hcomma, hquote,
    hequals, hbang, hless, hgreater]

lemma lex_identifier {s : Str} (hs : IsIdentifier s) : lex kind s = some [.run 0 s] :=
  Lexer.lex_run hs.1 fun c hc => kind_identifier (hs.2 c hc)

/-! ### The tokens of a list expression -/

section Items

variable {T : Type} [ListItem T] {kind : Char → Lexer.Kind} {tok : T → Tok} {Good : T → Prop}

/-- The items as tokens, given the token of each item. -/
def separated (tok : T → Tok) (item : T) (rest : List T) : List Tok :=
  tok item :: rest.flatMap fun x => [.punct ',', tok x]

/-- If the text of each item is one token before a separator, so it is in a list. -/
lemma lex_items (hcomma : kind ',' = .punct) (hparen : kind ')' = .punct)
    (hitem : ∀ x, Good x → ∀ c t, kind c = .punct →
      lex kind (ListItem.text x ++ c :: t) = (lex kind t).map (tok x :: .punct c :: ·))
    {item : T} {rest : List T} (h : ∀ x ∈ item :: rest, Good x) :
    lex kind (itemsText item rest ++ [')']) =
      some (separated tok item rest ++ [.punct ')']) := by
  induction rest generalizing item with
  | nil =>
    rw [itemsText, hitem item (h item (by simp)) _ _ hparen]
    rfl
  | cons next rest ih =>
    have htext : itemsText item (next :: rest) ++ [')'] =
        ListItem.text item ++ ',' :: (itemsText next rest ++ [')']) := by
      simp [itemsText]
    rw [htext, hitem item (h item (by simp)) _ _ hcomma,
      ih fun x hx => h x (List.mem_cons_of_mem item hx)]
    rfl

/-- A string without double quotes is one literal. -/
lemma lex_text_str (hquote : kind '"' = .quote) (x : Str) (hx : '"' ∉ x) (c : Char)
    (t : Str) (hc : kind c = .punct) :
    lex kind (ListItem.text x ++ c :: t) =
      (lex kind t).map (.lit '"' x :: .punct c :: ·) := by
  have htext : ListItem.text x ++ c :: t = '"' :: (x ++ '"' :: c :: t) := by
    simp [ListItem.text]
  rw [htext, Lexer.lex_literal hquote hx, Lexer.lex_punct hc, Option.map_map]
  rfl

end Items

/-- The tokens of an operator. -/
def operatorToks : ListOp → List Tok
  | .isIn => [.run 0 "in".toList]
  | .notIn => [.run 0 "not".toList, .run 0 "in".toList]
  | .includes => [.run 0 "include".toList]
  | .excludes => [.run 0 "exclude".toList]
  | .includesAll => [.run 0 "include".toList, .run 0 "all".toList]

/-- The tokens of a list expression. -/
def listToks (key : Str) (op : ListOp) (item : Str) (rest : List Str) : List Tok :=
  .run 0 key :: (operatorToks op ++ .punct '(' ::
    (separated (.lit '"') item rest ++ [.punct ')']))

lemma lex_operation (op : ListOp) : lex kind op.operation = some (operatorToks op) := by
  cases op <;> rfl

/-- The tokens of a list expression, from those of its key, its operator and its items. -/
lemma lex_parts {T : Type} [ListItem T] {kind : Char → Lexer.Kind} (hblank : kind ' ' = .blank)
    (hopen : kind '(' = .punct) {key : Str} {op : ListOp} {item : T} {rest : List T}
    {ts : List Tok} (hkey : lex kind key = some [.run 0 key])
    (hop : lex kind op.operation = some (operatorToks op))
    (hitems : lex kind (itemsText item rest ++ [')']) = some ts) :
    lex kind (op.build key (item :: rest)) =
      some (.run 0 key :: (operatorToks op ++ .punct '(' :: ts)) := by
  rw [ListOp.build_cons, Lexer.lex_append_blank hkey hblank, Lexer.lex_append_blank hop hblank,
    Lexer.lex_punct hopen, hitems]
  rfl

/-- The tokens of a list expression whose items contain no double quote. -/
lemma lex_build {key : Str} (hkey : IsIdentifier key) (op : ListOp) {item : Str}
    {rest : List Str} (h : ∀ x ∈ item :: rest, '"' ∉ x) :
    lex kind (op.build key (item :: rest)) = some (listToks key op item rest) :=
  lex_parts rfl rfl (lex_identifier hkey) (lex_operation op)
    (lex_items rfl rfl (lex_text_str rfl) h)

lemma literals_separated (item : Str) (rest : List Str) :
    literals (separated (.lit '"') item rest) = item :: rest := by
  induction rest generalizing item with
  | nil => rfl
  | cons next rest ih => exact congrArg (item :: ·) (ih next)

lemma literals_listToks (key : Str) (op : ListOp) (item : Str) (rest : List Str) :
    literals (listToks key op item rest) = item :: rest := by
  have hop : literals (operatorToks op) = [] := by cases op <;> rfl
  simp [listToks, literals, hop, literals_separated]

/-- A token without the contents of a literal. -/
def erase : Tok → Tok
  | .lit q _ => .lit q []
  | t => t

lemma erase_separated (x y : Str) {xs ys : List Str} (h : xs.length = ys.length) :
    (separated (.lit '"') x xs).map erase = (separated (.lit '"') y ys).map erase := by
  induction xs generalizing x y ys with
  | nil =>
    obtain rfl : ys = [] := List.length_eq_zero_iff.mp h.symm
    rfl
  | cons x' xs ih =>
    cases ys with
    | nil => simp at h
    | cons y' ys => exact congrArg (.lit '"' [] :: .punct ',' :: ·) (ih x' y' (Nat.succ.inj h))

/-! ### Where a list expression is placed -/

/-- A place for the result of a list builder: it becomes the condition of a new filter, or
it is the argument of a call on a filter. -/
inductive Place where
  | filter
  | call (f : Filter) (op : CondOp)

namespace Place

/-- The filter text after the condition has been placed. -/
def text : Place → Str → Str
  | filter, c => (Filter.mk c).cond
  | call f op, c => (op.apply f c).cond

/-- The filter text before the condition is placed. -/
def own : Place → Str
  | filter => []
  | call f _ => f.cond

/-- The text around the condition adds no literal and does not depend on the condition. -/
lemma lex_text (p : Place) {own : List Tok} (hown : lex kind p.own = some own) :
    ∃ before after, literals before = [] ∧ literals after = [] ∧ ∀ c ts,
      lex kind c = some ts → lex kind (p.text c) = some (own ++ before ++ ts ++ after) := by
  have hparen : ∀ {c : Str} {ts : List Tok}, lex kind c = some ts →
      lex kind ('(' :: (c ++ [')'])) = some (.punct '(' :: (ts ++ [.punct ')'])) := by
    intro c ts h
    rw [Lexer.lex_punct rfl, Lexer.lex_append_punct h rfl, Lexer.lex_nil]
    rfl
  cases p with
  | filter =>
    obtain rfl : own = [] := by simpa [Place.own] using hown.symm
    exact ⟨[], [], rfl, rfl, fun c ts h => by simpa [text] using h⟩
  | call f op =>
    by_cases hf : f.cond = []
    · -- an empty filter takes the condition itself, or its negation
      obtain ⟨cond⟩ := f
      obtain rfl : cond = [] := hf
      obtain rfl : own = [] := by simpa [Place.own] using hown.symm
      cases hneg : op.negates with
      | false =>
        refine ⟨[], [], rfl, rfl, ?_⟩
        intro c ts h
        rw [text, CondOp.apply_empty hneg]
        simpa using h
      | true =>
        refine ⟨[.run 0 "not".toList, .punct '('], [.punct ')'], rfl, rfl, ?_⟩
        intro c ts h
        have hnot : lex kind "not".toList = some [.run 0 "not".toList] := rfl
        rw [text, CondOp.apply_empty_negated hneg, Lexer.lex_append_blank hnot rfl, hparen h]
        rfl
    · change lex kind f.cond = some own at hown
      obtain ⟨opToks, hop, hlit⟩ : ∃ ts, lex kind op.operation = some ts ∧ literals ts = [] := by
        cases op <;> exact ⟨_, rfl, rfl⟩
      refine ⟨opToks ++ [.punct '('], [.punct ')'], by simp [hlit, literals], rfl,
        fun c ts h => ?_⟩
      rw [text, op.apply_nonempty hf, Lexer.lex_append_blank hown rfl,
        Lexer.lex_append_blank hop rfl, hparen h]
      simp

end Place

/-- Two lists of items lead to the same tokens up to the contents of the literals, and the
literals that follow those of the filter's own text are the items themselves. -/
def SameStructure (p : Place) (op : ListOp) (key : Str) (xs ys : List Str) : Prop :=
  ∃ own t₁ t₂, lex kind p.own = some own ∧
    lex kind (p.text (op.build key xs)) = some t₁ ∧
    lex kind (p.text (op.build key ys)) = some t₂ ∧
    t₁.map erase = t₂.map erase ∧
    literals t₁ = literals own ++ xs ∧ literals t₂ = literals own ++ ys

/-- A literal of a text contains no double quote. -/
lemma quote_notMem_of_lex {s : Str} {ts : List Tok} (h : lex kind s = some ts) {x : Str}
    (hx : x ∈ literals ts) : '"' ∉ x := by
  obtain ⟨q, hq⟩ := Lexer.mem_literals.mp hx
  obtain ⟨hquote, hnot⟩ := Lexer.clean_of_lex h _ hq
  obtain rfl : q = '"' := (kind_quote_iff q).mp hquote
  exact hnot

/-- **Item text and filter structure.**  Wherever a list expression is placed, two lists of
items of the same length give the same tokens, with the items as the literals of the list,
if and only if the text of the filter has closed literals and no item contains a double
quote. -/
theorem literal_structure_iff {key : Str} (hkey : IsIdentifier key) (op : ListOp)
    (p : Place) {x y : Str} {xs ys : List Str} (hlen : xs.length = ys.length) :
    SameStructure p op key (x :: xs) (y :: ys) ↔
      Even (p.own.count '"') ∧ (∀ s ∈ x :: xs, '"' ∉ s) ∧ ∀ s ∈ y :: ys, '"' ∉ s := by
  constructor
  · -- the items are literals of a text, and no literal contains its quote
    rintro ⟨own, t₁, t₂, hown, h₁, h₂, -, hlit₁, hlit₂⟩
    refine ⟨?_, ?_, ?_⟩
    · rw [← Lexer.lex_isSome_iff_even kind_quote_iff, hown]
      rfl
    · intro s hs
      exact quote_notMem_of_lex h₁ (by rw [hlit₁]; exact List.mem_append_right _ hs)
    · intro s hs
      exact quote_notMem_of_lex h₂ (by rw [hlit₂]; exact List.mem_append_right _ hs)
  · rintro ⟨heven, hxs, hys⟩
    rw [← Lexer.lex_isSome_iff_even kind_quote_iff, Option.isSome_iff_exists] at heven
    obtain ⟨own, hown⟩ := heven
    obtain ⟨before, after, hbefore, hafter, htext⟩ := p.lex_text hown
    refine ⟨own, _, _, hown, htext _ _ (lex_build hkey op hxs), htext _ _ (lex_build hkey op hys),
      ?_, ?_, ?_⟩
    · simp [listToks, erase_separated x y hlen]
    · simp [hbefore, hafter, literals_listToks]
    · simp [hbefore, hafter, literals_listToks]

/-- Two plain words in the same place, where the literals of the filter are closed. -/
theorem literal_structure_plain :
    SameStructure (.call ⟨"page=1".toList⟩ .andCond) .isIn "author".toList
      ["x".toList] ["y".toList] :=
  (literal_structure_iff (isIdentifier_of_all (by decide) rfl) .isIn
    (.call ⟨"page=1".toList⟩ .andCond) rfl).mpr ⟨by decide, by decide, by decide⟩

/-- The item `x") or page in ("1` closes the list and adds an operand: the text has the
tokens of two list expressions, where a plain item gives those of one. -/
theorem literal_breaks_structure :
    ListOp.isIn.build "author".toList ["x\") or page in (\"1".toList] =
        "author in (\"x\") or page in (\"1\")".toList ∧
      ¬ SameStructure .filter .isIn "author".toList ["x\") or page in (\"1".toList]
        ["y".toList] := by
  refine ⟨rfl, ?_⟩
  rintro ⟨own, t₁, t₂, hown, h₁, h₂, herase, -, -⟩
  have e₁ : lex kind (Place.filter.text (ListOp.isIn.build "author".toList
      ["x\") or page in (\"1".toList])) = some (listToks "author".toList .isIn "x".toList [] ++
        .run 0 "or".toList :: listToks "page".toList .isIn "1".toList []) := rfl
  have e₂ : lex kind (Place.filter.text (ListOp.isIn.build "author".toList ["y".toList])) =
      some (listToks "author".toList .isIn "y".toList []) := rfl
  obtain rfl := Option.some.inj (e₁.symm.trans h₁)
  obtain rfl := Option.some.inj (e₂.symm.trans h₂)
  exact absurd (congrArg List.length herase) (by decide)

end Literal

end VectorDb
