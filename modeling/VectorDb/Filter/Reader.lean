/-
Reading a list expression back.

The reader takes the key up to the first space, then one of the five operators and an
opening parenthesis, then items separated by commas, and the closing parenthesis at the end
of the text.  An item is a signed decimal integer or a literal that runs from a double
quote to the next one.  Like `VectorDb.Filter.Text` this is not translated from the source:
it is what the server is assumed to make of the text that a list builder returns.

The results are that the reader inverts the builders (`readListExpr_build`): for a key without
a space it returns the key, the operator and the items, in order; and that it does so for
strings only when none of them contains a double quote (`readListExpr_eq_iff`).
-/
import VectorDb.Filter.Basic

namespace VectorDb

/-- An item of a list, or a value of a document. -/
inductive Item where
  | int (n : ℤ)
  | str (s : Str)
deriving DecidableEq, Repr

/-- The argument of a list builder: a list of integers or a list of strings. -/
inductive ItemList where
  | ints (l : List ℤ)
  | strs (l : List Str)
deriving DecidableEq, Repr

namespace ItemList

/-- The items of the list. -/
def items : ItemList → List Item
  | ints l => l.map Item.int
  | strs l => l.map Item.str

/-- No item contains a double quote. -/
def QuoteFree : ItemList → Prop
  | ints _ => True
  | strs l => ∀ s ∈ l, '"' ∉ s

instance : (list : ItemList) → Decidable list.QuoteFree
  | ints _ => inferInstanceAs (Decidable True)
  | strs l => inferInstanceAs (Decidable (∀ s ∈ l, '"' ∉ s))

lemma quoteFree_ints (l : List ℤ) : (ints l).QuoteFree := trivial

/-- The expression that a builder returns for the list. -/
def build (op : ListOp) (key : Str) : ItemList → Str
  | ints l => op.build key l
  | strs l => op.build key l

/-- The text is empty exactly when the list is. -/
lemma build_eq_nil_iff (op : ListOp) (key : Str) (list : ItemList) :
    list.build op key = [] ↔ list.items = [] := by
  rcases list with (_ | ⟨item, rest⟩) | (_ | ⟨item, rest⟩)
  · simp [build, items]
  · simp [build, items, ListOp.build_cons]
  · simp [build, items]
  · simp [build, items, ListOp.build_cons]

end ItemList

namespace Reader

/-! ### The reader -/

/-- The digits of a natural number. -/
def readNat (ds : Str) : Option ℤ :=
  if ds ≠ [] ∧ ds.all Char.isDigit then some (Nat.ofDigitChars 10 ds 0 : ℕ) else none

/-- A signed decimal integer. -/
def readInt : Str → Option ℤ
  | '-' :: ds => (readNat ds).map (- ·)
  | ds => readNat ds

/-- Where the reader stands among the items. -/
inductive State where
  /-- An item is expected. -/
  | start
  /-- Inside a literal. -/
  | lit (acc : Str)
  /-- After a literal. -/
  | closed
  /-- Inside an integer. -/
  | num (acc : Str)
deriving DecidableEq, Repr

/-- The items up to the closing parenthesis, which must be the last character. -/
def readItems : State → Str → Option (List Item)
  | _, [] => none
  | .start, c :: cs =>
      if c = '"' then readItems (.lit []) cs
      else if c = ',' ∨ c = ')' then none
      else readItems (.num [c]) cs
  | .lit acc, c :: cs =>
      if c = '"' then (readItems .closed cs).map (.str acc :: ·)
      else readItems (.lit (acc ++ [c])) cs
  | .closed, c :: cs =>
      if c = ',' then readItems .start cs
      else if c = ')' ∧ cs = [] then some []
      else none
  | .num acc, c :: cs =>
      if c = ',' then
        (readInt acc).bind fun n => (readItems .start cs).map (.int n :: ·)
      else if c = ')' then
        (readInt acc).bind fun n => if cs = [] then some [.int n] else none
      else readItems (.num (acc ++ [c])) cs

/-- What follows `pre` in a text that starts with it. -/
def stripStart : Str → Str → Option Str
  | [], s => some s
  | _ :: _, [] => none
  | c :: pre, d :: s => if c = d then stripStart pre s else none

/-- The operator at the start of a text and what follows its opening parenthesis. -/
def readOperator (s : Str) : Option (ListOp × Str) :=
  [ListOp.isIn, .notIn, .includes, .excludes, .includesAll].findSome? fun op =>
    (stripStart (op.operation ++ " (".toList) s).map fun rest => (op, rest)

/-- Read a list expression. -/
def readListExpr (s : Str) : Option (Str × ListOp × List Item) :=
  match s.dropWhile (· ≠ ' ') with
  | [] => none
  | _ :: rest =>
      (readOperator rest).bind fun r =>
        (readItems .start r.2).map fun items => (s.takeWhile (· ≠ ' '), r.1, items)

/-! ### Reading integers -/

lemma readNat_toDigits (n : ℕ) : readNat (Nat.toDigits 10 n) = some (n : ℤ) := by
  have hne : Nat.toDigits 10 n ≠ [] := Nat.toDigits_ne_nil
  have hall : (Nat.toDigits 10 n).all Char.isDigit = true :=
    List.all_eq_true.mpr fun c hc => Nat.isDigit_of_mem_toDigits (by decide) (by decide) hc
  rw [readNat, if_pos ⟨hne, hall⟩, Nat.ofDigitChars_ten_toDigits]

lemma readInt_stdToString (n : ℤ) : readInt (stdToString n) = some n := by
  cases n with
  | ofNat n =>
    -- the text starts with a digit, so it is not taken for a negative number
    have hdash : ∀ ds, Nat.toDigits 10 n ≠ '-' :: ds := by
      intro ds h
      have hdigit : ('-' : Char).isDigit = true :=
        Nat.isDigit_of_mem_toDigits (b := 10) (n := n) (by decide) (by decide) (by simp [h])
      exact absurd hdigit (by decide)
    unfold readInt stdToString
    split
    · next ds h => exact absurd h (hdash ds)
    · exact readNat_toDigits n
  | negSucc n =>
    show (readNat (Nat.toDigits 10 (n + 1))).map (- ·) = _
    rw [readNat_toDigits]
    rfl

lemma isDigit_of_mem_stdToString {n : ℤ} {c : Char} (hc : c ∈ stdToString n) :
    c = '-' ∨ c.isDigit = true := by
  cases n with
  | ofNat n => exact Or.inr (Nat.isDigit_of_mem_toDigits (by decide) (by decide) hc)
  | negSucc n =>
    rcases List.mem_cons.mp hc with rfl | hc
    · exact Or.inl rfl
    · exact Or.inr (Nat.isDigit_of_mem_toDigits (by decide) (by decide) hc)

/-- The characters of an integer are neither quotes nor separators. -/
lemma stdToString_char {n : ℤ} {c : Char} (hc : c ∈ stdToString n) :
    c ≠ '"' ∧ c ≠ ',' ∧ c ≠ ')' := by
  have hdigit := isDigit_of_mem_stdToString hc
  refine ⟨?_, ?_, ?_⟩ <;> rintro rfl <;> exact absurd hdigit (by decide)

lemma stdToString_ne_nil (n : ℤ) : stdToString n ≠ [] := by
  cases n with
  | ofNat n => exact Nat.toDigits_ne_nil
  | negSucc n => simp [stdToString]

lemma readItems_num {s : Str} (hs : ∀ c ∈ s, c ≠ '"' ∧ c ≠ ',' ∧ c ≠ ')') (acc t : Str) :
    readItems (.num acc) (s ++ t) = readItems (.num (acc ++ s)) t := by
  induction s generalizing acc with
  | nil => simp
  | cons c s ih =>
    obtain ⟨-, hcomma, hparen⟩ := hs c (by simp)
    have hrest := ih (fun d hd => hs d (by simp [hd])) (acc ++ [c])
    simp [readItems, hcomma, hparen, hrest]

lemma readItems_int (n : ℤ) (t : Str) :
    readItems .start (stdToString n ++ t) = readItems (.num (stdToString n)) t := by
  cases htext : stdToString n with
  | nil => exact absurd htext (stdToString_ne_nil n)
  | cons c s =>
    have hchar : ∀ d ∈ c :: s, d ≠ '"' ∧ d ≠ ',' ∧ d ≠ ')' :=
      fun d hd => stdToString_char (n := n) (htext ▸ hd)
    obtain ⟨hquote, hcomma, hparen⟩ := hchar c (by simp)
    have hrest := readItems_num (fun d hd => hchar d (List.mem_cons_of_mem c hd)) [c] t
    simpa [readItems, hquote, hcomma, hparen] using hrest

/-! ### Reading literals -/

lemma readItems_lit {s : Str} (hs : '"' ∉ s) (acc t : Str) :
    readItems (.lit acc) (s ++ '"' :: t) = (readItems .closed t).map (.str (acc ++ s) :: ·) := by
  induction s generalizing acc with
  | nil => simp [readItems]
  | cons c s ih =>
    have hc : c ≠ '"' := fun h => hs (by simp [h])
    have hrest := ih (fun h => hs (by simp [h])) (acc ++ [c])
    simp [readItems, hc, hrest]

lemma readItems_str {s : Str} (hs : '"' ∉ s) (t : Str) :
    readItems .start (ListItem.text s ++ t) = (readItems .closed t).map (.str s :: ·) := by
  have htext : ListItem.text s ++ t = '"' :: (s ++ '"' :: t) := by simp [ListItem.text]
  rw [htext]
  simpa [readItems] using readItems_lit hs [] t

/-! ### Reading the items -/

lemma readItems_ints (item : ℤ) (rest : List ℤ) :
    readItems .start (itemsText item rest ++ [')']) = some ((item :: rest).map .int) := by
  induction rest generalizing item with
  | nil =>
    show readItems .start (stdToString item ++ [')']) = _
    rw [readItems_int]
    simp [readItems, readInt_stdToString]
  | cons next rest ih =>
    have htext : itemsText item (next :: rest) ++ [')'] =
        stdToString item ++ ',' :: (itemsText next rest ++ [')']) := by
      simp [itemsText, ListItem.text]
    rw [htext, readItems_int]
    simp [readItems, readInt_stdToString, ih]

lemma readItems_strs {item : Str} {rest : List Str} (h : ∀ s ∈ item :: rest, '"' ∉ s) :
    readItems .start (itemsText item rest ++ [')']) = some ((item :: rest).map .str) := by
  induction rest generalizing item with
  | nil =>
    rw [itemsText, readItems_str (h item (by simp))]
    simp [readItems]
  | cons next rest ih =>
    have htext : itemsText item (next :: rest) ++ [')'] =
        ListItem.text item ++ ',' :: (itemsText next rest ++ [')']) := by
      simp [itemsText]
    rw [htext, readItems_str (h item (by simp))]
    simp [readItems, ih fun s hs => h s (List.mem_cons_of_mem item hs)]

/-! ### Reading the operator and the key -/

/-- No operator is taken for another one: they differ before their parenthesis ends. -/
lemma readOperator_operation (op : ListOp) (t : Str) :
    readOperator (op.operation ++ ' ' :: '(' :: t) = some (op, t) := by
  cases op <;> rfl

lemma readListExpr_append {key : Str} (hkey : ' ' ∉ key) (t : Str) :
    readListExpr (key ++ ' ' :: t) =
      (readOperator t).bind fun r =>
        (readItems .start r.2).map fun items => (key, r.1, items) := by
  have hall : ∀ c ∈ key, decide (c ≠ ' ') = true := by
    intro c hc
    simpa using fun h : c = ' ' => hkey (h ▸ hc)
  have hdrop : (key ++ ' ' :: t).dropWhile (· ≠ ' ') = ' ' :: t := by
    rw [List.dropWhile_append_of_pos hall]
    rfl
  have htake : (key ++ ' ' :: t).takeWhile (· ≠ ' ') = key := by
    rw [List.takeWhile_append_of_pos hall]
    simp
  simp only [readListExpr, hdrop, htake]

/-- The reader inverts the builders. -/
theorem readListExpr_build {key : Str} (hkey : ' ' ∉ key) (op : ListOp) {list : ItemList}
    (hlist : list.QuoteFree) (hne : list.items ≠ []) :
    readListExpr (list.build op key) = some (key, op, list.items) := by
  cases list with
  | ints l =>
    cases l with
    | nil => exact absurd rfl hne
    | cons item rest =>
      rw [ItemList.build, ListOp.build_cons, readListExpr_append hkey,
        readOperator_operation, Option.bind_some, readItems_ints]
      rfl
  | strs l =>
    cases l with
    | nil => exact absurd rfl hne
    | cons item rest =>
      rw [ItemList.build, ListOp.build_cons, readListExpr_append hkey,
        readOperator_operation, Option.bind_some, readItems_strs hlist]
      rfl

/-! ### What the reader returns -/

/-- No literal that is being read contains a double quote. -/
def State.Clean : State → Prop
  | .lit acc => '"' ∉ acc
  | _ => True

/-- The strings among the items that the reader returns contain no double quote: each ends
before the next one. -/
lemma quote_notMem_of_readItems {st : State} {t : Str} {items : List Item}
    (h : readItems st t = some items) (hst : st.Clean) {s : Str} (hs : .str s ∈ items) :
    '"' ∉ s := by
  induction t generalizing st items with
  | nil => simp [readItems] at h
  | cons c cs ih =>
    cases st with
    | start =>
      unfold readItems at h
      split_ifs at h with hquote hsep
      · have hclean : State.Clean (.lit []) := by simp [State.Clean]
        exact ih h hclean hs
      · exact ih h trivial hs
    | lit acc =>
      unfold readItems at h
      split_ifs at h with hquote
      · obtain ⟨rest, hrest, rfl⟩ := Option.map_eq_some_iff.mp h
        rcases List.mem_cons.mp hs with heq | hs
        · obtain rfl : s = acc := by simpa using heq
          exact hst
        · exact ih hrest trivial hs
      · have hclean : State.Clean (.lit (acc ++ [c])) := by
          simpa [State.Clean, Ne.symm hquote] using hst
        exact ih h hclean hs
    | closed =>
      unfold readItems at h
      split_ifs at h with hcomma hend
      · exact ih h trivial hs
      · obtain rfl : items = [] := by simpa using h.symm
        simp at hs
    | num acc =>
      unfold readItems at h
      by_cases hcomma : c = ','
      · rw [if_pos hcomma] at h
        obtain ⟨n, -, hmap⟩ := Option.bind_eq_some_iff.mp h
        obtain ⟨rest, hrest, rfl⟩ := Option.map_eq_some_iff.mp hmap
        have hs' : .str s ∈ rest := by simpa using hs
        exact ih hrest trivial hs'
      · rw [if_neg hcomma] at h
        split_ifs at h with hparen hend
        · obtain ⟨n, -, heq⟩ := Option.bind_eq_some_iff.mp h
          obtain rfl : items = [.int n] := by simpa using heq.symm
          simp at hs
        · simp at h
        · exact ih h trivial hs

/-- A list expression is read back exactly when no item of it contains a double quote. -/
theorem readListExpr_eq_iff (key : Str) (hkey : ' ' ∉ key) (op : ListOp) :
    (∀ l : List ℤ, l ≠ [] →
      readListExpr (op.build key l) = some (key, op, l.map .int)) ∧
    (∀ l : List Str, l ≠ [] →
      (readListExpr (op.build key l) = some (key, op, l.map .str) ↔ ∀ s ∈ l, '"' ∉ s)) := by
  refine ⟨?_, ?_⟩
  · intro l hne
    have hitems : (ItemList.ints l).items ≠ [] := by simpa [ItemList.items] using hne
    exact readListExpr_build hkey op (ItemList.quoteFree_ints l) hitems
  · intro l hne
    constructor
    · -- a string that the reader returns ends before the next quote
      intro h s hs
      obtain ⟨item, rest, rfl⟩ := List.exists_cons_of_ne_nil hne
      rw [ListOp.build_cons, readListExpr_append hkey, readOperator_operation,
        Option.bind_some] at h
      obtain ⟨items, hitems, heq⟩ := Option.map_eq_some_iff.mp h
      obtain rfl : items = (item :: rest).map .str := by simpa using heq
      exact quote_notMem_of_readItems hitems trivial (List.mem_map_of_mem hs)
    · intro h
      have hlist : (ItemList.strs l).QuoteFree := h
      have hitems : (ItemList.strs l).items ≠ [] := by simpa [ItemList.items] using hne
      exact readListExpr_build hkey op hlist hitems

theorem readListExpr_tags :
    readListExpr (Filter.includeAll "tags".toList ["a, b) or (c".toList]) =
      some ("tags".toList, .includesAll, [.str "a, b) or (c".toList]) :=
  ((readListExpr_eq_iff "tags".toList (by decide) .includesAll).2 ["a, b) or (c".toList]
    (by simp)).mpr (by decide)

end Reader

end VectorDb
