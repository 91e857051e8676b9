/-
Filters built from conditions and from list expressions.

The text that a list builder returns is one list expression of the language of
`VectorDb.Filter.Text`, except in two cases: for an empty list it is empty, and a key that is
a connective is read as the connective.  The builder puts either into parentheses as it
stands.  The result of this file is exactly when the text of a filter is empty or well formed
after every call (`stays_wellFormed_iff`).
-/
import VectorDb.Filter.Literal
import VectorDb.Filter.Reader
import VectorDb.Filter.Text
import VectorDb.Lib.Reuse

namespace VectorDb

namespace FilterText

open Lexer (Tok lex)
open Literal (IsIdentifier operatorToks separated)
open Precedence (Expr Token parse)

/-! ### Reading a list expression -/

lemma kind_identifier {c : Char} (hc : c.isAlphanum = true ∨ c = '_') : kind c = .run 0 := by
  have hne : c ≠ '\'' := by
    rintro rfl
    exact absurd hc (by decide)
  have heq : kind c = Literal.kind c := by simp [kind, Literal.kind, hne]
  rw [heq, Literal.kind_identifier hc]

lemma lex_identifier {s : Str} (hs : IsIdentifier s) : lex kind s = some [.run 0 s] :=
  Lexer.lex_run hs.1 fun c hc => kind_identifier (hs.2 c hc)

lemma lex_operation (op : ListOp) : lex kind op.operation = some (operatorToks op) := by
  cases op <;> rfl

lemma lex_text_int (n : ℤ) (c : Char) (t : Str) (hc : kind c = .punct) :
    lex kind (ListItem.text n ++ c :: t) =
      (lex kind t).map (.run 0 (stdToString n) :: .punct c :: ·) := by
  have hchar : ∀ d ∈ stdToString n, kind d = .run 0 := by
    intro d hd
    rcases Reader.isDigit_of_mem_stdToString hd with rfl | hdigit
    · rfl
    · exact kind_identifier (Or.inl (by simp [Char.isAlphanum, hdigit]))
  exact Lexer.lex_append_punct (Lexer.lex_run (Reader.stdToString_ne_nil n) hchar) hc t

/-- A token that completes nothing only changes the state. -/
lemma scan_silent {st st' : State} {t : Tok} (h : step st t = some ([], st'))
    (ts : List Tok) : scan st (t :: ts) = scan st' ts := by
  rw [scan, h, Option.bind_some]
  cases scan st' ts <;> rfl

lemma step_first (k : Str) (op : ListOp) (t : Tok) :
    step (.first k op) t = (value t).map fun v => ([], .items k op v []) := rfl

lemma step_next (k : Str) (op : ListOp) (v : Value) (vs : List Value) (t : Tok) :
    step (.next k op v vs) t = (value t).map fun w => ([], .items k op v (vs ++ [w])) := rfl

section Scan

variable {T : Type} {tok : T → Tok} {val : T → Value}

lemma scan_items (hval : ∀ x, value (tok x) = some (val x)) (k : Str) (op : ListOp)
    (v : Value) (vs : List Value) (rest : List T) :
    scan (.items k op v vs) ((rest.flatMap fun x => [.punct ',', tok x]) ++ [.punct ')']) =
      some ([.atom (.list k op v (vs ++ rest.map val))], .idle) := by
  induction rest generalizing vs with
  | nil => simp [scan, step]
  | cons x rest ih =>
    have hcomma : step (.items k op v vs) (.punct ',') = some ([], .next k op v vs) := rfl
    have hitem : step (.next k op v vs) (tok x) = some ([], .items k op v (vs ++ [val x])) := by
      rw [step_next, hval, Option.map_some]
    have hrest := ih (vs ++ [val x])
    rw [List.append_assoc, List.singleton_append] at hrest
    exact (scan_silent hcomma _).trans ((scan_silent hitem _).trans hrest)

/-- The items of a list complete its atom. -/
lemma scan_separated (hval : ∀ x, value (tok x) = some (val x)) (k : Str) (op : ListOp)
    (item : T) (rest : List T) :
    scan (.first k op) (separated tok item rest ++ [.punct ')']) =
      some ([.atom (.list k op (val item) (rest.map val))], .idle) := by
  have hfirst : step (.first k op) (tok item) = some ([], .items k op (val item) []) := by
    rw [step_first, hval, Option.map_some]
  exact (scan_silent hfirst _).trans (scan_items hval k op (val item) [] rest)

/-- The key of the list is read as a word of its own. -/
lemma scan_operator (k : Str) (op : ListOp) (ts : List Tok) :
    scan (.key k) (operatorToks op ++ .punct '(' :: ts) = scan (.first k op) ts := by
  have hopen : ∀ op', step (.operator k op') (.punct '(') = some ([], .first k op') := by
    intro op'
    rfl
  cases op with
  | isIn =>
    have hin : step (.key k) (.run 0 "in".toList) = some ([], .operator k .isIn) := rfl
    exact (scan_silent hin _).trans (scan_silent (hopen .isIn) ts)
  | notIn =>
    have hnot : step (.key k) (.run 0 "not".toList) = some ([], .keyNot k) := rfl
    have hin : step (.keyNot k) (.run 0 "in".toList) = some ([], .operator k .notIn) := rfl
    exact (scan_silent hnot _).trans ((scan_silent hin _).trans (scan_silent (hopen .notIn) ts))
  | includes =>
    -- the parenthesis decides that there is no `all`
    have hword : step (.key k) (.run 0 "include".toList) = some ([], .keyInclude k) := rfl
    have hfirst : step (.keyInclude k) (.punct '(') = some ([], .first k .includes) := rfl
    exact (scan_silent hword _).trans (scan_silent hfirst ts)
  | excludes =>
    have hword : step (.key k) (.run 0 "exclude".toList) = some ([], .operator k .excludes) := rfl
    exact (scan_silent hword _).trans (scan_silent (hopen .excludes) ts)
  | includesAll =>
    have hword : step (.key k) (.run 0 "include".toList) = some ([], .keyInclude k) := rfl
    have hall : step (.keyInclude k) (.run 0 "all".toList) =
        some ([], .operator k .includesAll) := rfl
    exact (scan_silent hword _).trans
      ((scan_silent hall _).trans (scan_silent (hopen .includesAll) ts))

end Scan

lemma isConnective_iff {w : Str} :
    isConnective w = true ↔ w = "and".toList ∨ w = "or".toList ∨ w = "not".toList := by
  simp [isConnective]

/-- An integer is not taken for a connective. -/
lemma value_int (n : ℤ) :
    value (.run 0 (stdToString n)) = some (.word (stdToString n)) := by
  have hword : ¬ isConnective (stdToString n) = true := by
    rw [isConnective_iff]
    -- each connective starts with a letter
    rintro (h | h | h)
    · have hletter := Reader.isDigit_of_mem_stdToString (c := 'a') (n := n) (by rw [h]; decide)
      exact absurd hletter (by decide)
    · have hletter := Reader.isDigit_of_mem_stdToString (c := 'o') (n := n) (by rw [h]; decide)
      exact absurd hletter (by decide)
    · have hletter := Reader.isDigit_of_mem_stdToString (c := 'n') (n := n) (by rw [h]; decide)
      exact absurd hletter (by decide)
  rw [value, if_neg hword]

lemma enter_of_not_connective {w : Str} (hw : isConnective w = false) :
    enter w = ([], .key w) := by
  have h : ¬ (w = "and".toList ∨ w = "or".toList ∨ w = "not".toList) := by
    rw [← isConnective_iff, hw]
    exact Bool.false_ne_true
  simp only [not_or] at h
  rw [enter, if_neg h.1, if_neg h.2.1, if_neg h.2.2]

lemma enter_of_connective {w : Str} (hw : isConnective w = true) : (enter w).2 = .idle := by
  rcases isConnective_iff.mp hw with rfl | rfl | rfl <;> rfl

/-- After a connective the operator is taken for a key, and what follows does not fit. -/
lemma scan_connective {k : Str} (hk : isConnective k = true) (op : ListOp) (ts : List Tok) :
    scan .idle (.run 0 k :: (operatorToks op ++ .punct '(' :: ts)) = none := by
  have hrest : scan .idle (operatorToks op ++ .punct '(' :: ts) = none := by
    cases op <;> rfl
  have hstep : step .idle (.run 0 k) = some (enter k) := rfl
  rw [scan, hstep, Option.bind_some, enter_of_connective hk, hrest]
  rfl

/-! ### The conditions of a call -/

/-- The value that a list builder returns, on an identifier and a list of integers or of
strings without double quotes. -/
structure ListCond where
  /-- Which of the five builders it is. -/
  op : ListOp
  /-- Its key. -/
  key : Str
  /-- Its list. -/
  list : ItemList
  /-- The key is an identifier. -/
  identifier : IsIdentifier key
  /-- The items contain no double quote. -/
  quoteFree : list.QuoteFree

/-- The text of the expression. -/
def ListCond.text (e : ListCond) : Str := e.list.build e.op e.key

/-- A condition: a well-formed expression, or the value of a list builder. -/
inductive Source where
  | cond (c : Cond)
  | list (e : ListCond)

namespace Source

/-- The text of the condition. -/
def text : Source → Str
  | cond c => c.text
  | list e => e.text

/-- The condition comes from a list builder that was given no item. -/
def IsEmpty : Source → Prop
  | cond _ => False
  | list e => e.list.items = []

/-- The condition is a list expression whose key is a connective. -/
def HasConnectiveKey : Source → Prop
  | cond _ => False
  | list e => e.list.items ≠ [] ∧ isConnective e.key = true

lemma text_eq_nil_iff (c : Source) : c.text = [] ↔ c.IsEmpty := by
  cases c with
  | cond c => exact iff_of_false (ne_nil_of_read c.read_text) id
  | list e => exact e.list.build_eq_nil_iff e.op e.key

end Source

/-- A call of the builder with a condition of either kind. -/
structure SourceCall where
  /-- Which of the four calls it is. -/
  op : CondOp
  /-- Its condition. -/
  source : Source

/-- The filter after the call. -/
def SourceCall.apply (c : SourceCall) (f : Filter) : Filter := c.op.apply f c.source.text

/-- The filter after some calls. -/
def built (f : Filter) (calls : List SourceCall) : Filter :=
  Reuse.after SourceCall.apply f calls

/-- A text is empty or well formed. -/
def Valid (s : Str) : Prop := s = [] ∨ (read s).isSome = true

instance (s : Str) : Decidable (Valid s) := inferInstanceAs (Decidable (_ ∨ _))

lemma valid_of_read {s : Str} {e : Expr Atom} (h : read s = some e) : Valid s :=
  Or.inr (by rw [h]; rfl)

lemma tokens_of_valid {s : Str} (h : Valid s) : ∃ as, tokens s = some as := by
  rcases h with rfl | h
  · exact ⟨[], rfl⟩
  · obtain ⟨e, he⟩ := Option.isSome_iff_exists.mp h
    exact ⟨e.tokens, read_eq_some_iff.mp he⟩

/-! ### The values of the list builders -/

/-- The items of a list as values of the language. -/
def itemValues : ItemList → List Value
  | .ints l => l.map fun n => .word (stdToString n)
  | .strs l => l.map fun s => .lit '"' s

lemma itemValues_eq_nil_iff (list : ItemList) : itemValues list = [] ↔ list.items = [] := by
  cases list <;> simp [itemValues, ItemList.items]

lemma ListCond.exists_values {e : ListCond} (hne : e.list.items ≠ []) :
    ∃ v vs, itemValues e.list = v :: vs :=
  List.exists_cons_of_ne_nil (mt (itemValues_eq_nil_iff e.list).mp hne)

/-- The tokens of a list expression: its key, its operator, and a rest that completes its
atom. -/
lemma lex_listCond (e : ListCond) {v : Value} {vs : List Value}
    (hvalues : itemValues e.list = v :: vs) :
    ∃ ts, lex kind e.text =
        some (.run 0 e.key :: (operatorToks e.op ++ .punct '(' :: ts)) ∧
      scan (.first e.key e.op) ts = some ([.atom (.list e.key e.op v vs)], .idle) := by
  obtain ⟨op, key, list, hkey, hfree⟩ := e
  cases list with
  | ints l =>
    obtain ⟨item, rest, rfl, rfl, rfl⟩ := List.map_eq_cons_iff.mp hvalues
    have hitems : ∀ x ∈ item :: rest, True := fun _ _ => trivial
    have hlex := Literal.lex_parts rfl rfl (lex_identifier hkey) (lex_operation op)
      (Literal.lex_items rfl rfl (fun n _ => lex_text_int n) hitems)
    exact ⟨_, hlex, scan_separated value_int key op item rest⟩
  | strs l =>
    obtain ⟨item, rest, rfl, rfl, rfl⟩ := List.map_eq_cons_iff.mp hvalues
    have hval : ∀ s : Str, value (.lit '"' s) = some (.lit '"' s) := fun _ => rfl
    have hlex := Literal.lex_parts rfl rfl (lex_identifier hkey) (lex_operation op)
      (Literal.lex_items rfl rfl (Literal.lex_text_str rfl) hfree)
    exact ⟨_, hlex, scan_separated hval key op item rest⟩

/-- It is well formed when its key is not a connective. -/
lemma read_listCond {e : ListCond} {v : Value} {vs : List Value}
    (hvalues : itemValues e.list = v :: vs) (hkey : isConnective e.key = false) :
    read e.text = some (.single (.atom (.list e.key e.op v vs))) := by
  obtain ⟨ts, hlex, hatom⟩ := lex_listCond e hvalues
  have hstep : step .idle (.run 0 e.key) = some ([], .key e.key) :=
    congrArg some (enter_of_not_connective hkey)
  have hscan : scan .idle (.run 0 e.key :: (operatorToks e.op ++ .punct '(' :: ts)) =
      some ([.atom (.list e.key e.op v vs)], .idle) :=
    (scan_silent hstep _).trans ((scan_operator e.key e.op ts).trans hatom)
  refine read_eq_some_iff.mpr ?_
  rw [tokens, hlex, Option.bind_some, group, hscan]
  rfl

/-! ### Conditions that are no operand -/

/-- The text in parentheses is no operand, whatever stands before it. -/
def NoOperand (c : Str) : Prop :=
  ∀ as : List (Token Atom), ((tokens ('(' :: (c ++ [')']))).map (as ++ ·)).bind parse = none

lemma noOperand_nil : NoOperand [] := by
  intro as
  rw [tokens_paren tokens_nil]
  exact Precedence.parse_empty_parens as []

lemma noOperand_list {e : ListCond} (hne : e.list.items ≠ [])
    (hkey : isConnective e.key = true) : NoOperand e.text := by
  obtain ⟨v, vs, hvalues⟩ := ListCond.exists_values hne
  obtain ⟨ts, hlex, -⟩ := lex_listCond e hvalues
  have hnone : tokens (e.text ++ [')']) = none := by
    rw [tokens, Lexer.lex_append_punct hlex rfl, Lexer.lex_nil, Option.map_some, Option.bind_some,
      group, scan_append, scan_connective hkey]
    rfl
  intro as
  rw [tokens_lparen, hnone]
  rfl

lemma read_of_noOperand {f : Filter} {as : List (Token Atom)} (hf : tokens f.cond = some as)
    {op : CondOp} {c : Str} (hc : NoOperand c) (h : f.cond ≠ [] ∨ op.negates = true) :
    read (op.apply f c).cond = none := by
  by_cases hcond : f.cond = []
  · obtain ⟨cond⟩ := f
    obtain rfl : cond = [] := hcond
    have hneg : op.negates = true := h.resolve_left (· rfl)
    have hnot : tokens "not".toList = some [.not] := rfl
    rw [CondOp.apply_empty_negated hneg, read, tokens_append_blank hnot]
    exact hc _
  · rw [op.apply_nonempty hcond, read, tokens_append_blank hf,
      tokens_append_blank (tokens_operation op), Option.map_map]
    have hall := hc (as ++ connectives op)
    simpa [Function.comp_def] using hall

/-- The filter stays empty only when the first call of an empty filter is given nothing. -/
lemma apply_eq_nil_iff (op : CondOp) (f : Filter) (c : Str) :
    (op.apply f c).cond = [] ↔ f.cond = [] ∧ op.negates = false ∧ c = [] := by
  by_cases hcond : f.cond = []
  · obtain ⟨cond⟩ := f
    obtain rfl : cond = [] := hcond
    cases hneg : op.negates with
    | false => simp [CondOp.apply_empty hneg]
    | true => simp [CondOp.apply_empty_negated hneg]
  · simp [op.apply_nonempty hcond, hcond]

/-! ### Runs of calls -/

/-- What a call needs to leave a valid filter valid: a builder's empty result only goes into
an empty filter, without a negation, and no key is a connective. -/
def SourceCall.Fits (c : SourceCall) (f : Filter) : Prop :=
  (c.source.IsEmpty → f.cond = [] ∧ c.op.negates = false) ∧ ¬ c.source.HasConnectiveKey

lemma valid_apply {f : Filter} (hf : Valid f.cond) (op : CondOp) {c : Str} {e : Expr Atom}
    (hc : read c = some e) : Valid (op.apply f c).cond := by
  obtain ⟨cond⟩ := f
  rcases hf with hnil | hread
  · obtain rfl : cond = [] := hnil
    exact valid_of_read (read_apply_empty op hc)
  · obtain ⟨x, hx⟩ := Option.isSome_iff_exists.mp hread
    exact valid_of_read (read_apply hx op hc)

lemma not_valid_apply {f : Filter} (hf : Valid f.cond) {op : CondOp} {c : Str}
    (hc : NoOperand c) (h : f.cond ≠ [] ∨ op.negates = true) :
    ¬ Valid (op.apply f c).cond := by
  obtain ⟨as, has⟩ := tokens_of_valid hf
  have hnone := read_of_noOperand has hc h
  rintro (hnil | hread)
  · obtain ⟨hcond, hneg, -⟩ := (apply_eq_nil_iff op f c).mp hnil
    rcases h with h | h
    · exact h hcond
    · exact absurd (hneg.symm.trans h) Bool.false_ne_true
  · simp [hnone] at hread

lemma valid_apply_empty_iff {f : Filter} (hf : Valid f.cond) (op : CondOp) :
    Valid (op.apply f []).cond ↔ f.cond = [] ∧ op.negates = false := by
  constructor
  · intro h
    by_contra hnot
    have hor : f.cond ≠ [] ∨ op.negates = true := by
      by_cases hcond : f.cond = []
      · exact Or.inr (by simpa [hcond] using hnot)
      · exact Or.inl hcond
    exact not_valid_apply hf noOperand_nil hor h
  · rintro ⟨hcond, hneg⟩
    exact Or.inl ((apply_eq_nil_iff op f []).mpr ⟨hcond, hneg, rfl⟩)

lemma not_valid_apply_connective {f : Filter} (hf : Valid f.cond) (op : CondOp)
    {e : ListCond} (hne : e.list.items ≠ []) (hkey : isConnective e.key = true) :
    ¬ Valid (op.apply f e.text).cond := by
  by_cases hor : f.cond ≠ [] ∨ op.negates = true
  · exact not_valid_apply hf (noOperand_list hne hkey) hor
  · -- the text becomes the filter as it is
    obtain ⟨cond⟩ := f
    simp only [ne_eq, not_or, not_not, Bool.not_eq_true] at hor
    obtain ⟨rfl, hneg⟩ := hor
    obtain ⟨v, vs, hvalues⟩ := ListCond.exists_values hne
    obtain ⟨ts, hlex, -⟩ := lex_listCond e hvalues
    have hnone : read e.text = none := by
      rw [read, tokens, hlex, Option.bind_some, group, scan_connective hkey]
      rfl
    rw [CondOp.apply_empty hneg]
    rintro (hnil | hread)
    · exact hne ((Source.text_eq_nil_iff (.list e)).mp hnil)
    · simp [hnone] at hread

/-- **One call.**  A valid filter stays valid exactly when the call fits. -/
lemma valid_apply_iff {f : Filter} (hf : Valid f.cond) (c : SourceCall) :
    Valid (c.apply f).cond ↔ c.Fits f := by
  rcases c with ⟨op, cond | e⟩
  · exact iff_of_true (valid_apply hf op cond.read_text) ⟨False.elim, id⟩
  · by_cases hne : e.list.items = []
    · have htext : e.text = [] := (Source.text_eq_nil_iff (.list e)).mpr hne
      have hfits : SourceCall.Fits ⟨op, .list e⟩ f ↔ f.cond = [] ∧ op.negates = false :=
        ⟨fun h => h.1 hne, fun h => ⟨fun _ => h, fun h => h.1 hne⟩⟩
      rw [hfits, SourceCall.apply, Source.text, htext]
      exact valid_apply_empty_iff hf op
    · cases hkey : isConnective e.key with
      | true =>
        exact iff_of_false (not_valid_apply_connective hf op hne hkey) fun h => h.2 ⟨hne, hkey⟩
      | false =>
        obtain ⟨v, vs, hvalues⟩ := ListCond.exists_values hne
        refine iff_of_true (valid_apply hf op (read_listCond hvalues hkey))
          ⟨fun h => absurd h hne, ?_⟩
        rintro ⟨-, h⟩
        exact absurd (hkey.symm.trans h) Bool.false_ne_true

lemma built_eq_nil_iff (f : Filter) (calls : List SourceCall) :
    (built f calls).cond = [] ↔
      f.cond = [] ∧ ∀ c ∈ calls, c.source.IsEmpty ∧ c.op.negates = false := by
  induction calls generalizing f with
  | nil => simp [built]
  | cons c calls ih =>
    have hstep : (c.apply f).cond = [] ↔
        f.cond = [] ∧ c.op.negates = false ∧ c.source.IsEmpty := by
      rw [SourceCall.apply, apply_eq_nil_iff, Source.text_eq_nil_iff]
    have hrest := ih (c.apply f)
    rw [hstep] at hrest
    rw [List.forall_mem_cons]
    refine Iff.trans hrest ?_
    tauto

/-- **Filters built with the SDK.**  The text of a filter is empty or well formed after every
call if and only if the result of a list builder for an empty list is only ever given to an
empty filter that has been given nothing else, never to a call that negates, and no list
expression has a connective as its key. -/
theorem stays_wellFormed_iff (f : Filter) (hf : Valid f.cond) (calls : List SourceCall) :
    (∀ pre c post, calls = pre ++ c :: post → Valid (built f (pre ++ [c])).cond) ↔
      ∀ pre c post, calls = pre ++ c :: post →
        (c.source.IsEmpty → f.cond = [] ∧
          ∀ c' ∈ pre ++ [c], c'.source.IsEmpty ∧ c'.op.negates = false) ∧
        ¬ c.source.HasConnectiveKey := by
  have hlaw : Reuse.Always SourceCall.apply (fun c f => Valid (c.apply f).cond) f calls ↔
      Reuse.Always SourceCall.apply SourceCall.Fits f calls :=
    @Reuse.always_congr_of_invariant _ _ SourceCall.apply _ _ (fun f => Valid f.cond)
      (fun c _ h => valid_apply_iff h c) (fun _ _ h => h) f hf calls
  rw [Reuse.always_iff, Reuse.always_iff] at hlaw
  have hvalid : ∀ pre c, Valid (built f (pre ++ [c])).cond ↔ Valid (c.apply (built f pre)).cond := by
    intro pre c
    rw [built, Reuse.after_concat]
    rfl
  have hfits : ∀ pre (c : SourceCall), c.Fits (built f pre) ↔
      (c.source.IsEmpty → f.cond = [] ∧
        ∀ c' ∈ pre ++ [c], c'.source.IsEmpty ∧ c'.op.negates = false) ∧
      ¬ c.source.HasConnectiveKey := by
    intro pre c
    rw [SourceCall.Fits, built_eq_nil_iff, List.forall_mem_append, List.forall_mem_singleton]
    tauto
  simp only [hvalid, ← hfits]
  exact hlaw

/-- `Filter::in("page", {1, 2})`. -/
def pageList : ListCond where
  op := .isIn
  key := "page".toList
  list := .ints [1, 2]
  identifier := Literal.isIdentifier_of_all (by decide) rfl
  quoteFree := ItemList.quoteFree_ints _

theorem stays_wellFormed_page :
    Valid (built ⟨[]⟩ [⟨.andNotCond, .list pageList⟩]).cond := by
  have hne : pageList.list.items ≠ [] := by decide
  have hkey : ¬ isConnective pageList.key = true := by decide
  refine (stays_wellFormed_iff ⟨[]⟩ (Or.inl rfl) _).mpr ?_ [] _ [] rfl
  intro pre c post h
  have hmem : c ∈ [] ++ [SourceCall.mk .andNotCond (.list pageList)] := by
    rw [h]
    simp
  obtain rfl := List.mem_singleton.mp hmem
  exact ⟨fun hempty => absurd hempty hne, fun hconnective => hkey hconnective.2⟩

/-- `Filter::in("page", {})`. -/
def noPages : ListCond where
  op := .isIn
  key := "page".toList
  list := .ints []
  identifier := Literal.isIdentifier_of_all (by decide) rfl
  quoteFree := ItemList.quoteFree_ints _

/-- The empty list leaves a connective without an operand. -/
theorem empty_list_breaks_filter :
    Valid "a=1".toList ∧
      (built ⟨"a=1".toList⟩ [⟨.andCond, .list noPages⟩]).cond = "a=1 and ()".toList ∧
      ¬ Valid (built ⟨"a=1".toList⟩ [⟨.andCond, .list noPages⟩]).cond :=
  ⟨by decide, rfl, by decide⟩

end FilterText

end VectorDb
