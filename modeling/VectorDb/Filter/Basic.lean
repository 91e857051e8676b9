/-
The filter builder: `filter.cpp` and the templates of `filter.h`.

`assemblyCond` is behind the four calls that extend a filter, `assemblyFilterExpr` behind the
five list expressions.  Each call of the first kind holds the mutex of the filter from its
first to its last access to `cond`, so calls made by several threads take effect one after
the other, and a run of the builder is a list of calls.
-/
import VectorDb.Types.Document

namespace VectorDb

namespace Filter

/-! ### Extending a filter -/

/-- `Filter::assemblyCond`. -/
def assemblyCond (f : Filter) (condition operation : Str) : Filter :=
  if f.cond = [] then
    -- `operation.find("not") != std::string::npos`
    if "not".toList <:+: operation then
      { f with cond := "not (".toList ++ condition ++ ")".toList }
    else
      { f with cond := condition }
  else
    { f with
      cond := f.cond ++ " ".toList ++ operation ++ " (".toList ++ condition ++ ")".toList }

/-- `Filter::andCond`. -/
def andCond (f : Filter) (condition : Str) : Filter :=
  f.assemblyCond condition "and".toList

/-- `Filter::orCond`. -/
def orCond (f : Filter) (condition : Str) : Filter :=
  f.assemblyCond condition "or".toList

/-- `Filter::andNotCond`. -/
def andNotCond (f : Filter) (condition : Str) : Filter :=
  f.assemblyCond condition "and not".toList

/-- `Filter::orNotCond`. -/
def orNotCond (f : Filter) (condition : Str) : Filter :=
  f.assemblyCond condition "or not".toList

end Filter

/-- The four calls that extend a filter. -/
inductive CondOp where
  | andCond
  | orCond
  | andNotCond
  | orNotCond
deriving DecidableEq, Repr

namespace CondOp

/-- The call of the builder. -/
def apply : CondOp → Filter → Str → Filter
  | andCond => Filter.andCond
  | orCond => Filter.orCond
  | andNotCond => Filter.andNotCond
  | orNotCond => Filter.orNotCond

/-- The text by which the call joins its condition to the filter. -/
def operation : CondOp → Str
  | andCond => "and".toList
  | orCond => "or".toList
  | andNotCond => "and not".toList
  | orNotCond => "or not".toList

/-- The call opens a new group: `orCond` and `orNotCond`. -/
def opensGroup : CondOp → Bool
  | orCond | orNotCond => true
  | _ => false

/-- The call negates its condition: `andNotCond` and `orNotCond`. -/
def negates : CondOp → Bool
  | andNotCond | orNotCond => true
  | _ => false

lemma apply_eq (op : CondOp) (f : Filter) (c : Str) :
    op.apply f c = f.assemblyCond c op.operation := by
  cases op <;> rfl

lemma not_isInfix_operation (op : CondOp) :
    "not".toList <:+: op.operation ↔ op.negates = true := by
  cases op <;> decide

/-- The first call of an empty filter takes the condition itself. -/
lemma apply_empty {op : CondOp} (hneg : op.negates = false) (c : Str) :
    (op.apply ⟨[]⟩ c).cond = c := by
  rw [apply_eq, Filter.assemblyCond, if_pos rfl, if_neg]
  rw [not_isInfix_operation, hneg]
  exact Bool.false_ne_true

/-- Or the negated condition in parentheses. -/
lemma apply_empty_negated {op : CondOp} (hneg : op.negates = true) (c : Str) :
    (op.apply ⟨[]⟩ c).cond = "not".toList ++ ' ' :: '(' :: (c ++ [')']) := by
  rw [apply_eq, Filter.assemblyCond, if_pos rfl,
    if_pos ((not_isInfix_operation op).mpr hneg)]
  rfl

lemma apply_nonempty (op : CondOp) {f : Filter} (hf : f.cond ≠ []) (c : Str) :
    (op.apply f c).cond =
      f.cond ++ ' ' :: (op.operation ++ ' ' :: '(' :: (c ++ [')'])) := by
  rw [apply_eq, Filter.assemblyCond, if_neg hf]
  simp

end CondOp

/-! ### List expressions -/

/-- `std::to_string` of an integer: its decimal digits, after a minus sign if negative. -/
def stdToString : ℤ → Str
  | .ofNat n => Nat.toDigits 10 n
  | .negSucc n => '-' :: Nat.toDigits 10 (n + 1)

/-- The text of a list item, by the branch of `if constexpr` that its type selects. -/
class ListItem (T : Type) where
  /-- The text written for the item, before the comma. -/
  text : T → Str

instance : ListItem Str where
  text item := "\"".toList ++ item ++ "\"".toList

instance : ListItem ℤ where
  text item := stdToString item

variable {T : Type} [ListItem T]

/-- The loop of `Filter::assemblyFilterExpr`: append each item and a comma. -/
def Filter.appendItems (result : Str) (list : List T) : Str :=
  list.foldl (fun result item => result ++ (ListItem.text item ++ ",".toList)) result

/-- `Filter::assemblyFilterExpr`. -/
def Filter.assemblyFilterExpr (key : Str) (list : List T) (operation : Str) : Str :=
  if list.isEmpty then
    []
  else
    -- the call of `reserve` before the loop has no effect on the text
    let result := appendItems (key ++ " ".toList ++ operation ++ " (".toList) list
    -- the assignment to `result.back()` overwrites the last comma
    if result.length ≠ 0 then result.dropLast ++ ")".toList else result

/-- `Filter::in`. -/
def Filter.in (key : Str) (list : List T) : Str :=
  assemblyFilterExpr key list "in".toList

/-- `Filter::notIn`. -/
def Filter.notIn (key : Str) (list : List T) : Str :=
  assemblyFilterExpr key list "not in".toList

/-- `Filter::include`. -/
def Filter.include (key : Str) (list : List T) : Str :=
  assemblyFilterExpr key list "include".toList

/-- `Filter::exclude`. -/
def Filter.exclude (key : Str) (list : List T) : Str :=
  assemblyFilterExpr key list "exclude".toList

/-- `Filter::includeAll`. -/
def Filter.includeAll (key : Str) (list : List T) : Str :=
  assemblyFilterExpr key list "include all".toList

/-- The five list builders. -/
inductive ListOp where
  | isIn
  | notIn
  | includes
  | excludes
  | includesAll
deriving DecidableEq, Repr

namespace ListOp

/-- The call of the builder. -/
def build : ListOp → Str → List T → Str
  | isIn => Filter.in
  | notIn => Filter.notIn
  | includes => Filter.include
  | excludes => Filter.exclude
  | includesAll => Filter.includeAll

/-- The operator that the builder writes. -/
def operation : ListOp → Str
  | isIn => "in".toList
  | notIn => "not in".toList
  | includes => "include".toList
  | excludes => "exclude".toList
  | includesAll => "include all".toList

lemma build_eq (op : ListOp) (key : Str) (list : List T) :
    op.build key list = Filter.assemblyFilterExpr key list op.operation := by
  cases op <;> rfl

@[simp] lemma build_nil (op : ListOp) (key : Str) : op.build key ([] : List T) = [] := by
  simp [build_eq, Filter.assemblyFilterExpr]

end ListOp

/-- The items as they stand in the text, separated by commas. -/
def itemsText (item : T) : List T → Str
  | [] => ListItem.text item
  | next :: rest => ListItem.text item ++ ',' :: itemsText next rest

lemma Filter.appendItems_cons (result : Str) (item : T) (rest : List T) :
    appendItems result (item :: rest) = result ++ itemsText item rest ++ [','] := by
  induction rest generalizing result item with
  | nil => simp [appendItems, itemsText]
  | cons next rest ih =>
    have h := ih (result ++ (ListItem.text item ++ [','])) next
    simp only [appendItems, List.foldl_cons] at h ⊢
    simpa [itemsText] using h

/-- The text of a list expression with at least one item. -/
lemma ListOp.build_cons (op : ListOp) (key : Str) (item : T) (rest : List T) :
    op.build key (item :: rest) =
      key ++ ' ' :: (op.operation ++ ' ' :: '(' :: (itemsText item rest ++ [')'])) := by
  have hlen : ∀ s : Str, (s ++ [',']).length ≠ 0 := by simp
  rw [build_eq, Filter.assemblyFilterExpr, if_neg (by simp), Filter.appendItems_cons]
  simp only [if_pos (hlen _), List.dropLast_concat]
  simp

example : Filter.notIn "key1".toList ["value1".toList, "value2".toList] =
    "key1 not in (\"value1\",\"value2\")".toList := by rfl

end VectorDb
