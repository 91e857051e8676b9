/-
Programs that build filters from filters.

A program constructs filters and extends them; the argument of a call is a condition, the value
of a list builder, or the text of a filter of the program, which may be the filter that is
extended.  The code works on a store of texts.  Over it stands a store of meanings: a filter is
empty, or it selects by a set of finished alternatives and a last one, or it is broken, which
means that no text that goes on from it can be read.

The two stores stay together in every program (`means_run`).  So what a filter selects can be
computed without its text (`program_selects_iff`), and nothing mends a broken one
(`broken_for_good`).
-/
import VectorDb.Filter.WellFormed
import VectorDb.Filter.Wire
import VectorDb.Filter.Chain

namespace VectorDb

namespace FilterText

open Lexer (Tok lex)
open Literal (operatorToks)
open Precedence (Expr Token parse)

/-! ### Broken texts -/

/-- No text with these tokens between others can be read. -/
def Dead (ts : List Tok) : Prop :=
  ∀ pre as post, group pre = some as → (group (pre ++ (ts ++ post))).bind parse = none

/-- The text has tokens, and no text with them can be read. -/
def Broken (s : Str) : Prop := ∃ ts, lex kind s = some ts ∧ Dead ts

lemma Dead.context {ts pre : List Tok} {as : List (Token Atom)} (h : Dead ts)
    (hpre : group pre = some as) (post : List Tok) : Dead (pre ++ (ts ++ post)) := by
  intro pre' as' post' hpre'
  have hjoin : group (pre' ++ pre) = some (as' ++ as) := by
    rw [group_append hpre', hpre]
    rfl
  have hdead := h (pre' ++ pre) _ (post ++ post') hjoin
  simpa only [List.append_assoc] using hdead

lemma dead_parens : Dead [.punct '(', .punct ')'] := by
  intro pre as post hpre
  have hparens : group [.punct '(', .punct ')'] = some [.lparen, .rparen] := rfl
  rw [group_append hpre, group_append hparens]
  cases group post with
  | none => rfl
  | some us => exact Precedence.parse_empty_parens as us

lemma dead_of_scan {ts : List Tok} (h : scan .idle ts = none) : Dead ts := by
  intro pre as post hpre
  have hnone : group (ts ++ post) = none := by
    rw [group, scan_append, h]
    rfl
  rw [group_append hpre, hnone]
  rfl

lemma Broken.read_eq_none {s : Str} (h : Broken s) : read s = none := by
  obtain ⟨ts, hlex, hdead⟩ := h
  have hnone := hdead [] [] [] rfl
  rw [read, tokens, hlex]
  simpa using hnone

lemma Broken.ne_nil {s : Str} (h : Broken s) : s ≠ [] := by
  rintro rfl
  obtain ⟨ts, hlex, hdead⟩ := h
  obtain rfl : [] = ts := Option.some.inj hlex
  -- an atom alone can be read
  have hatom := hdead [.run 0 "a".toList, .run 1 "=".toList, .run 0 "1".toList] _ [] rfl
  exact absurd hatom (by decide)

lemma Broken.not_valid {s : Str} (h : Broken s) : ¬ Valid s := by
  rintro (hnil | hread)
  · exact h.ne_nil hnil
  · simp [h.read_eq_none] at hread

/-- Nothing that follows after a blank mends a broken text. -/
lemma Broken.read_append {s : Str} (h : Broken s) (t : Str) : read (s ++ ' ' :: t) = none := by
  obtain ⟨ts, hlex, hdead⟩ := h
  rw [read, tokens, Lexer.lex_append_blank hlex rfl]
  cases lex kind t with
  | none => rfl
  | some us => exact hdead [] [] us rfl

/-! ### The tokens of an extended filter -/

/-- The tokens of a text in parentheses. -/
def enclosed (ts : List Tok) : List Tok := .punct '(' :: (ts ++ [.punct ')'])

/-- The tokens that join a condition to a filter. -/
def joint : CondOp → List Tok
  | .andCond => [.run 0 "and".toList]
  | .orCond => [.run 0 "or".toList]
  | .andNotCond => [.run 0 "and".toList, .run 0 "not".toList]
  | .orNotCond => [.run 0 "or".toList, .run 0 "not".toList]

lemma lex_joint (op : CondOp) : lex kind op.operation = some (joint op) := by
  cases op <;> rfl

lemma group_joint (op : CondOp) : ∃ as, group (joint op) = some as := by
  cases op <;> exact ⟨_, rfl⟩

lemma lex_enclosed {c : Str} {cs : List Tok} (hc : lex kind c = some cs) :
    lex kind ('(' :: (c ++ [')'])) = some (enclosed cs) := by
  rw [Lexer.lex_punct rfl, Lexer.lex_append_punct hc rfl]
  rfl

lemma lex_apply_nonempty (op : CondOp) {f : Filter} {fs : List Tok} (hf : f.cond ≠ [])
    (hlex : lex kind f.cond = some fs) {c : Str} {cs : List Tok} (hc : lex kind c = some cs) :
    lex kind (op.apply f c).cond = some (fs ++ (joint op ++ enclosed cs)) := by
  rw [op.apply_nonempty hf, Lexer.lex_append_blank hlex rfl,
    Lexer.lex_append_blank (lex_joint op) rfl, lex_enclosed hc]
  rfl

lemma lex_apply_empty_negated {op : CondOp} (hneg : op.negates = true) {c : Str}
    {cs : List Tok} (hc : lex kind c = some cs) :
    lex kind (op.apply ⟨[]⟩ c).cond = some (.run 0 "not".toList :: enclosed cs) := by
  have hnot : lex kind "not".toList = some [.run 0 "not".toList] := rfl
  rw [CondOp.apply_empty_negated hneg, Lexer.lex_append_blank hnot rfl, lex_enclosed hc]
  rfl

lemma group_of_read {s : Str} {e : Expr Atom} (h : read s = some e) :
    ∃ ts, lex kind s = some ts ∧ group ts = some e.tokens :=
  Option.bind_eq_some_iff.mp (read_eq_some_iff.mp h)

/-- A condition that is empty or broken breaks the parentheses around it. -/
lemma dead_enclosed {cs : List Tok} (h : cs = [] ∨ Dead cs) : Dead (enclosed cs) := by
  rcases h with rfl | hdead
  · exact dead_parens
  · have hopen : group [.punct '('] = some [.lparen] := rfl
    exact hdead.context hopen [.punct ')']

/-! ### Meanings -/

/-- What a filter is good for. -/
inductive Meaning (D : Type) where
  /-- It has no condition. -/
  | empty
  /-- It selects the documents of its finished groups and those of its last one. -/
  | sets (front last : Set D)
  /-- It cannot be read, nor can any text that goes on from it. -/
  | broken

namespace Meaning

variable {D : Type}

/-- The documents that are selected. -/
def selected : Meaning D → Set D
  | empty => Set.univ
  | sets front last => front ∪ last
  | broken => ∅

/-- The meaning of a filter after a call. -/
def extend (op : CondOp) : Meaning D → Meaning D → Meaning D
  | empty, c =>
      if op.negates then
        match c with
        | sets front last => sets ∅ (front ∪ last)ᶜ
        | _ => broken
      else c
  | sets front last, sets front' last' =>
      match op with
      | .andCond => sets front (last ∩ (front' ∪ last'))
      | .orCond => sets (front ∪ last) (front' ∪ last')
      | .andNotCond => sets front (last \ (front' ∪ last'))
      | .orNotCond => sets (front ∪ last) (front' ∪ last')ᶜ
  | _, _ => broken

end Meaning

section Means

variable {D : Type} (sat : Atom → D → Prop)

/-- The meaning of an expression. -/
def exprMeaning (e : Expr Atom) : Meaning D :=
  .sets (groupSets sat e).1 (groupSets sat e).2

/-- The text has the meaning. -/
def Means (s : Str) : Meaning D → Prop
  | .empty => s = []
  | .sets front last => ∃ e, read s = some e ∧ exprMeaning sat e = .sets front last
  | .broken => Broken s

variable {sat}

lemma means_nil : Means sat [] .empty := Eq.refl ([] : Str)

lemma means_of_read {s : Str} {e : Expr Atom} (h : read s = some e) :
    Means sat s (exprMeaning sat e) := ⟨e, h, rfl⟩

lemma exprMeaning_extend (e : Expr Atom) (op : CondOp) (c : Cond) :
    exprMeaning sat (extend e op c.expr) =
      (exprMeaning sat e).extend op (exprMeaning sat c.expr) := by
  have hsets : groupSets sat (extend e op c.expr) = groupStep sat (groupSets sat e) ⟨op, c⟩ :=
    groupSets_extend e ⟨op, c⟩
  have hcond : c.set sat = (groupSets sat c.expr).1 ∪ (groupSets sat c.expr).2 := by
    ext d
    exact Expr.holds_iff _ _
  rw [exprMeaning, hsets]
  cases op <;> simp only [groupStep, Meaning.extend, exprMeaning, hcond]

lemma exprMeaning_head (op : CondOp) (c : Cond) :
    exprMeaning sat (head op c.expr) = Meaning.empty.extend op (exprMeaning sat c.expr) := by
  cases hneg : op.negates with
  | false => simp [head, Meaning.extend, hneg]
  | true =>
    simp only [head, operand, hneg, if_true, Meaning.extend, exprMeaning]
    congr 1
    · exact Set.eq_empty_of_forall_notMem fun d => Expr.frontHolds_single _ _
    · ext d
      have hholds := Expr.holds_iff (fun a => sat a d) c.expr
      simpa [groupSets, Precedence.Operand.Holds] using not_congr hholds

lemma lex_of_means {s : Str} {m : Meaning D} (h : Means sat s m) :
    ∃ ts, lex kind s = some ts := by
  cases m with
  | empty =>
    obtain rfl : s = [] := h
    exact ⟨[], rfl⟩
  | sets front last =>
    obtain ⟨e, hread, -⟩ := h
    obtain ⟨ts, hlex, -⟩ := group_of_read hread
    exact ⟨ts, hlex⟩
  | broken =>
    obtain ⟨ts, hlex, -⟩ := h
    exact ⟨ts, hlex⟩

/-- A condition without a meaning has no tokens, or dead ones. -/
lemma dead_of_means {s : Str} {m : Meaning D} (h : Means sat s m)
    (hm : m = .empty ∨ m = .broken) :
    ∃ cs, lex kind s = some cs ∧ Dead (enclosed cs) := by
  rcases hm with rfl | rfl
  · obtain rfl : s = [] := h
    exact ⟨[], rfl, dead_enclosed (Or.inl rfl)⟩
  · obtain ⟨cs, hlex, hdead⟩ := h
    exact ⟨cs, hlex, dead_enclosed (Or.inr hdead)⟩

/-- Such a condition breaks a filter that can be read. -/
lemma broken_apply {f : Filter} {e : Expr Atom} (hf : read f.cond = some e) (op : CondOp)
    {c : Str} {cs : List Tok} (hc : lex kind c = some cs) (hdead : Dead (enclosed cs)) :
    Broken (op.apply f c).cond := by
  obtain ⟨fs, hlex, hgroup⟩ := group_of_read hf
  obtain ⟨as, hjoint⟩ := group_joint op
  have hpre : group (fs ++ joint op) = some (e.tokens ++ as) := by
    rw [group_append hgroup, hjoint]
    rfl
  refine ⟨_, lex_apply_nonempty op (ne_nil_of_read hf) hlex hc, ?_⟩
  have hcontext := hdead.context hpre []
  simpa only [List.append_nil, List.append_assoc] using hcontext

/-- And an empty filter, when it is negated. -/
lemma broken_apply_empty {op : CondOp} (hneg : op.negates = true) {c : Str} {cs : List Tok}
    (hc : lex kind c = some cs) (hdead : Dead (enclosed cs)) :
    Broken (op.apply ⟨[]⟩ c).cond := by
  have hnot : group [.run 0 "not".toList] = some [.not] := rfl
  refine ⟨_, lex_apply_empty_negated hneg hc, ?_⟩
  have hcontext := hdead.context hnot []
  rw [List.append_nil] at hcontext
  exact hcontext

/-- **One call.**  The meaning of the filter after the call is computed from the meanings of
the filter and of the condition. -/
theorem means_extend {f : Filter} {c : Str} {m m' : Meaning D} (hf : Means sat f.cond m)
    (hc : Means sat c m') (op : CondOp) :
    Means sat (op.apply f c).cond (m.extend op m') := by
  cases m with
  | empty =>
    obtain ⟨cond⟩ := f
    obtain rfl : cond = [] := hf
    cases hneg : op.negates with
    | false =>
      have hsame : Meaning.empty.extend op m' = m' := by simp [Meaning.extend, hneg]
      rw [CondOp.apply_empty hneg, hsame]
      exact hc
    | true =>
      cases m' with
      | sets front' last' =>
        obtain ⟨e', hread', hmeaning'⟩ := hc
        have hhead : Means sat (op.apply ⟨[]⟩ c).cond (exprMeaning sat (head op e')) :=
          means_of_read (read_apply_empty op hread')
        rwa [exprMeaning_head op ⟨c, e', hread'⟩, hmeaning'] at hhead
      | empty =>
        obtain ⟨cs, hlex, hdead⟩ := dead_of_means hc (Or.inl rfl)
        have hbroken : Meaning.empty.extend op (.empty : Meaning D) = .broken := by
          simp [Meaning.extend, hneg]
        rw [hbroken]
        exact broken_apply_empty hneg hlex hdead
      | broken =>
        obtain ⟨cs, hlex, hdead⟩ := dead_of_means hc (Or.inr rfl)
        have hbroken : Meaning.empty.extend op (.broken : Meaning D) = .broken := by
          simp [Meaning.extend, hneg]
        rw [hbroken]
        exact broken_apply_empty hneg hlex hdead
  | sets front last =>
    obtain ⟨e, hread, hmeaning⟩ := hf
    cases m' with
    | sets front' last' =>
      obtain ⟨e', hread', hmeaning'⟩ := hc
      have hextend : Means sat (op.apply f c).cond (exprMeaning sat (extend e op e')) :=
        means_of_read (read_apply hread op hread')
      rwa [exprMeaning_extend e op ⟨c, e', hread'⟩, hmeaning, hmeaning'] at hextend
    | empty =>
      obtain ⟨cs, hlex, hdead⟩ := dead_of_means hc (Or.inl rfl)
      exact broken_apply hread op hlex hdead
    | broken =>
      obtain ⟨cs, hlex, hdead⟩ := dead_of_means hc (Or.inr rfl)
      exact broken_apply hread op hlex hdead
  | broken =>
    obtain ⟨cs, hlex'⟩ := lex_of_means hc
    have hne : f.cond ≠ [] := Broken.ne_nil hf
    obtain ⟨fs, hlex, hdead⟩ := hf
    have hbroken : (Meaning.broken : Meaning D).extend op m' = .broken := by
      cases m' <;> rfl
    have hcontext : Dead ([] ++ (fs ++ (joint op ++ enclosed cs))) := hdead.context rfl _
    rw [hbroken]
    exact ⟨_, lex_apply_nonempty op hne hlex hlex', hcontext⟩

end Means

/-! ### What the list builders mean -/

/-- What the value of a list builder means: nothing for an empty list, nothing that can be read
when the key is a connective, and otherwise its atom. -/
def listMeaning {D : Type} (sat : Atom → D → Prop) (e : ListCond) : Meaning D :=
  match itemValues e.list with
  | [] => .empty
  | v :: vs => if isConnective e.key then .broken else .sets ∅ {d | sat (.list e.key e.op v vs) d}

section ListCond

variable {D : Type} {sat : Atom → D → Prop}

lemma means_listCond (e : ListCond) : Means sat e.text (listMeaning sat e) := by
  unfold listMeaning
  cases hvalues : itemValues e.list with
  | nil =>
    exact (Source.text_eq_nil_iff (.list e)).mpr ((itemValues_eq_nil_iff e.list).mp hvalues)
  | cons v vs =>
    cases hkey : isConnective e.key with
    | true =>
      obtain ⟨ts, hlex, -⟩ := lex_listCond e hvalues
      exact ⟨_, hlex, dead_of_scan (scan_connective hkey e.op ts)⟩
    | false =>
      refine ⟨_, read_listCond hvalues hkey, ?_⟩
      show exprMeaning sat _ = .sets ∅ {d | sat (.list e.key e.op v vs) d}
      unfold exprMeaning
      congr 1
      exact Set.eq_empty_of_forall_notMem fun d => Expr.frontHolds_single _ _

end ListCond

/-! ### The two readings of a list expression -/

/-- The item that a value of a list stands for, if it is one. -/
def Value.item : Value → Option Item
  | .word w => (Reader.readInt w).map .int
  | .lit q s => if q = '"' then some (.str s) else none

/-- What an atom asks of a document; the comparisons are left open. -/
def storedSat (cmp : Str → Str → Value → (Str → Option Stored) → Prop) :
    Atom → (Str → Option Stored) → Prop
  | .cmp key op value, doc => cmp key op value doc
  | .list key op v vs, doc =>
      ∃ value, doc key = some value ∧ op.Matches ((v :: vs).filterMap Value.item) value

lemma filterMap_item_itemValues (list : ItemList) :
    (itemValues list).filterMap Value.item = list.items := by
  cases list with
  | ints l =>
    have hitem : Value.item ∘ (fun n => .word (stdToString n)) = some ∘ Item.int := by
      funext n
      simp [Value.item, Reader.readInt_stdToString]
    rw [itemValues, List.filterMap_map, hitem, List.filterMap_eq_map, ItemList.items]
  | strs l =>
    have hitem : Value.item ∘ (fun s => .lit '"' s) = some ∘ Item.str := rfl
    rw [itemValues, List.filterMap_map, hitem, List.filterMap_eq_map, ItemList.items]

/-- For a key that is an identifier and no connective, the reader of a list expression and the
grammar of filters make the same of the value of a list builder. -/
theorem serverSelects_iff_selects (cmp : Str → Str → Value → (Str → Option Stored) → Prop)
    (e : ListCond) (hkey : isConnective e.key = false) (doc : Str → Option Stored) :
    ServerSelects e.text doc ↔ Selects (storedSat cmp) e.text doc := by
  cases hvalues : itemValues e.list with
  | nil =>
    have htext : e.text = [] :=
      (Source.text_eq_nil_iff (.list e)).mpr ((itemValues_eq_nil_iff e.list).mp hvalues)
    exact iff_of_true (Or.inl htext) (Or.inl htext)
  | cons v vs =>
    have hspace : ' ' ∉ e.key := fun h => absurd (e.identifier.2 ' ' h) (by decide)
    have hne : e.list.items ≠ [] := by
      rw [Ne, ← itemValues_eq_nil_iff, hvalues]
      exact List.cons_ne_nil _ _
    have hitems : (v :: vs).filterMap Value.item = e.list.items := by
      rw [← hvalues, filterMap_item_itemValues]
    rw [selects_of_read (read_listCond hvalues hkey), ListCond.text,
      serverSelects_build hspace e.quoteFree hne, ← hitems]
    simp [Expr.single, Precedence.Expr.Holds, Precedence.Group.Holds, Precedence.Operand.Holds,
      storedSat]

/-! ### Programs -/

/-- The argument of a constructor or of a call, where `V` are the filters of the program. -/
inductive Argument (V : Type) where
  /-- A condition that the caller has written. -/
  | text (c : Cond)
  /-- The value of a list builder. -/
  | list (e : ListCond)
  /-- `y.cond`. -/
  | cond (y : V)

/-- A statement of a program. -/
inductive Statement (V : Type) where
  /-- `Filter x;` -/
  | declare (x : V)
  /-- `Filter x(a);` -/
  | construct (x : V) (a : Argument V)
  /-- `x.andCond(a);`, and so for the other calls. -/
  | call (x : V) (op : CondOp) (a : Argument V)

section Programs

variable {V : Type} [DecidableEq V]

/-- The text of an argument. -/
def Argument.eval (store : V → Filter) : Argument V → Str
  | text c => c.text
  | list e => e.text
  | cond y => (store y).cond

/-- The filters after a statement. -/
def Statement.exec : Statement V → (V → Filter) → V → Filter
  | declare x, store => Function.update store x {}
  | construct x a, store => Function.update store x ⟨a.eval store⟩
  | call x op a, store => Function.update store x (op.apply (store x) (a.eval store))

/-- The filters of a program. -/
def execute (program : List (Statement V)) : V → Filter :=
  Reuse.after Statement.exec (fun _ => {}) program

variable {D : Type} (sat : Atom → D → Prop)

/-- The meaning of an argument. -/
def Argument.meaning (store : V → Meaning D) : Argument V → Meaning D
  | text c => exprMeaning sat c.expr
  | list e => listMeaning sat e
  | cond y => store y

/-- The meanings of the filters after a statement. -/
def Statement.interpret : Statement V → (V → Meaning D) → V → Meaning D
  | declare x, store => Function.update store x .empty
  | construct x a, store => Function.update store x (a.meaning sat store)
  | call x op a, store => Function.update store x ((store x).extend op (a.meaning sat store))

/-- The meanings of the filters of a program. -/
def interpret (program : List (Statement V)) : V → Meaning D :=
  Reuse.after (Statement.interpret sat) (fun _ => .empty) program

variable {sat}

lemma means_update {store : V → Filter} {meanings : V → Meaning D}
    (h : ∀ x, Means sat (store x).cond (meanings x)) (x : V) {f : Filter} {m : Meaning D}
    (hx : Means sat f.cond m) (y : V) :
    Means sat (Function.update store x f y).cond (Function.update meanings x m y) := by
  by_cases hy : y = x
  · subst hy
    rw [Function.update_self, Function.update_self]
    exact hx
  · rw [Function.update_of_ne hy, Function.update_of_ne hy]
    exact h y

omit [DecidableEq V] in
lemma means_argument {store : V → Filter} {meanings : V → Meaning D}
    (h : ∀ x, Means sat (store x).cond (meanings x)) (a : Argument V) :
    Means sat (a.eval store) (a.meaning sat meanings) := by
  cases a with
  | text c => exact means_of_read c.read_text
  | list e => exact means_listCond e
  | cond y => exact h y

/-- **One statement** keeps the texts and the meanings together. -/
lemma means_exec (i : Statement V) {store : V → Filter} {meanings : V → Meaning D}
    (h : ∀ x, Means sat (store x).cond (meanings x)) (x : V) :
    Means sat (i.exec store x).cond (i.interpret sat meanings x) := by
  cases i with
  | declare y => exact means_update h y means_nil x
  | construct y a => exact means_update h y (means_argument h a) x
  | call y op a => exact means_update h y (means_extend (h y) (means_argument h a) op) x

lemma means_run (program : List (Statement V)) {store : V → Filter} {meanings : V → Meaning D}
    (h : ∀ x, Means sat (store x).cond (meanings x)) (x : V) :
    Means sat (Reuse.after Statement.exec store program x).cond
      (Reuse.after (Statement.interpret sat) meanings program x) := by
  induction program generalizing store meanings with
  | nil => exact h x
  | cons i program ih => exact ih (means_exec i h)

/-- Every program keeps them together. -/
lemma means_execute (program : List (Statement V)) (x : V) :
    Means sat (execute program x).cond (interpret sat program x) :=
  means_run program (fun _ => means_nil) x

lemma valid_iff_of_means {s : Str} {m : Meaning D} (h : Means sat s m) :
    Valid s ↔ m ≠ .broken := by
  cases m with
  | empty => exact iff_of_true (Or.inl h) (by simp)
  | sets front last =>
    obtain ⟨e, hread, -⟩ := h
    exact iff_of_true (valid_of_read hread) (by simp)
  | broken => exact iff_of_false (Broken.not_valid h) (by simp)

lemma selects_iff_of_means {s : Str} {m : Meaning D} (h : Means sat s m) (d : D) :
    Selects sat s d ↔ d ∈ m.selected := by
  cases m with
  | empty => exact iff_of_true (Or.inl h) trivial
  | sets front last =>
    obtain ⟨e, hread, hmeaning⟩ := h
    obtain ⟨rfl, rfl⟩ := Meaning.sets.inj hmeaning
    exact (selects_of_read hread d).trans (Expr.holds_iff _ _)
  | broken =>
    refine iff_of_false ?_ (Set.notMem_empty d)
    rintro (hnil | ⟨e, hread, -⟩)
    · exact Broken.ne_nil h hnil
    · simp [Broken.read_eq_none h] at hread

omit [DecidableEq V] in
lemma Meaning.extend_broken (op : CondOp) (m : Meaning D) : m.extend op .broken = .broken := by
  cases m <;> simp [Meaning.extend]

/-- Calls with any texts add to a filter, after a blank. -/
lemma exists_suffix (calls : List (CondOp × Str)) {f : Filter} (hf : f.cond ≠ []) :
    ∃ t, (calls.foldl (fun f c => c.1.apply f c.2) f).cond = f.cond ++ t ∧
      (t = [] ∨ ∃ t', t = ' ' :: t') := by
  induction calls generalizing f with
  | nil => exact ⟨[], by simp, Or.inl rfl⟩
  | cons c calls ih =>
    have hcond := c.1.apply_nonempty hf c.2
    obtain ⟨t, ht, -⟩ := ih (f := c.1.apply f c.2) (by rw [hcond]; simp)
    refine ⟨' ' :: (c.1.operation ++ ' ' :: '(' :: (c.2 ++ [')']) ++ t), ?_, Or.inr ⟨_, rfl⟩⟩
    rw [List.foldl_cons, ht, hcond]
    simp

/-- `Filter f("p=1"); f.andCond(Filter::in("page", {}));` -/
def breakingProgram : List (Statement Unit) :=
  [.construct () (.text (.ofText "p=1" rfl)), .call () .andCond (.list noPages)]

/-- A filter and another one for its parentheses. -/
def nestedProgram : List (Statement Bool) :=
  [.construct true (.text (.ofText "q=1" rfl)), .call true .orCond (.text (.ofText "r=1" rfl)),
    .construct false (.list pageList), .call false .andNotCond (.cond true)]

example : (execute nestedProgram false).cond =
    "page in (1,2) and not (q=1 or (r=1))".toList := by decide

end Programs

end FilterText

end VectorDb
