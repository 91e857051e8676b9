/-
A list expression as the whole filter of a request.

Five calls take a filter: `count`, `query`, `search`, `dele` and `update`.  Each puts the
text of the filter on the wire as it is, also when it is empty, and the empty text
restricts nothing.  A list builder returns the empty text exactly for the empty list, so a
list with an item selects what its operator says (`serverSelects_build_iff`) and the empty
list selects every document, whichever the operator.
-/
import VectorDb.Filter.Reader
import VectorDb.Rpc.Document

namespace VectorDb

/-! ### What the server selects -/

/-- The value that a document has under a key. -/
inductive Stored where
  | scalar (v : Item)
  | array (l : List Item)
deriving DecidableEq, Repr

/-- The usual meaning of the operators: the first two are about a scalar, the others about
an array. -/
def ListOp.Matches : ListOp → List Item → Stored → Prop
  | isIn, items, .scalar v => v ∈ items
  | notIn, items, .scalar v => v ∉ items
  | includes, items, .array l => ∃ x ∈ l, x ∈ items
  | excludes, items, .array l => ∀ x ∈ l, x ∉ items
  | includesAll, items, .array l => ∀ x ∈ items, x ∈ l
  | _, _, _ => False

/-- The server selects the document `doc` by the text of a filter: the empty text restricts
nothing, and a list expression is read and compared with the value of its key. -/
def ServerSelects (filter : Str) (doc : Str → Option Stored) : Prop :=
  filter = [] ∨ ∃ key op items, Reader.readListExpr filter = some (key, op, items) ∧
    ∃ value, doc key = some value ∧ op.Matches items value

/-! ### The filter on the wire -/

/-- A call that takes a filter, with its other arguments but the names. -/
inductive FilterCall where
  | count
  | query (documentIds : List Str) (params : QueryDocumentParams)
  | search (documentIds : List Str) (vectors : List (List Single))
      (text : List (Str × List Str)) (params : SearchDocumentParams)
  | dele (params : DeleteDocumentParams)
  | update (params : UpdateDocumentParams)

/-- The filter that the server finds in the message; a message without a condition, and a
condition without a filter, have the empty one. -/
def wireFilter (query : Option Olama.QueryCond) : Str := (query.map (·.filter)).getD []

/-- The filter on the wire when `filter` is passed to the call. -/
def FilterCall.wire (client : RpcClient) (dbName collectionName : Str) (timeout : Int32)
    (filter : Filter) : FilterCall → Str
  | count =>
      wireFilter (client.count dbName collectionName (some filter) timeout).request.query
  | query documentIds params =>
      wireFilter (client.query dbName collectionName documentIds
        (some { params with filter := some filter }) timeout).request.query
  | search documentIds vectors text params =>
      ((client.search dbName collectionName documentIds vectors text
        (some { params with filter := some filter }) timeout).request.search.map
          (·.filter)).getD []
  | dele params =>
      wireFilter (client.dele dbName collectionName
        (some { params with filter := some filter }) timeout).request.query
  | update params =>
      wireFilter (client.update dbName collectionName
        (some { params with queryFilter := some filter }) timeout).request.query

/-- Each call puts the text of the filter on the wire. -/
lemma FilterCall.wire_eq (client : RpcClient) (dbName collectionName : Str) (timeout : Int32)
    (filter : Filter) (call : FilterCall) :
    call.wire client dbName collectionName timeout filter = filter.cond := by
  cases call <;> rfl

/-! ### Filters built from a list -/

/-- With an item in the list, the builder's text asks for a value that the operator accepts. -/
lemma serverSelects_build {key : Str} (hkey : ' ' ∉ key) {list : ItemList}
    (hlist : list.QuoteFree) (hne : list.items ≠ []) (op : ListOp)
    (doc : Str → Option Stored) :
    ServerSelects (list.build op key) doc ↔
      ∃ value, doc key = some value ∧ op.Matches list.items value := by
  have hread := Reader.readListExpr_build hkey op hlist hne
  constructor
  · rintro (hempty | ⟨key', op', items', hread', hmatch⟩)
    · exact absurd ((list.build_eq_nil_iff op key).mp hempty) hne
    · obtain ⟨rfl, rfl, rfl⟩ : key = key' ∧ op = op' ∧ list.items = items' := by
        simpa using hread.symm.trans hread'
      exact hmatch
  · exact fun hmatch => Or.inr ⟨key, op, list.items, hread, hmatch⟩

/-- With an item in the list, the builder's text selects what its operator says. -/
lemma serverSelects_build_iff {key : Str} (hkey : ' ' ∉ key) {list : ItemList}
    (hlist : list.QuoteFree) (hne : list.items ≠ []) (op : ListOp) {doc : Str → Option Stored}
    {value : Stored} (hvalue : doc key = some value) :
    ServerSelects (list.build op key) doc ↔ op.Matches list.items value := by
  rw [serverSelects_build hkey hlist hne, hvalue]
  simp

/-- A filter built from a list with an item selects exactly what the list says, through each
of the calls; built from the empty list, it selects every document. -/
theorem list_filter_selects_iff (key : Str) (hkey : ' ' ∉ key) (list : ItemList)
    (hlist : list.QuoteFree) (client : RpcClient) (dbName collectionName : Str)
    (timeout : Int32) (call : FilterCall) :
    let selects (op : ListOp) := ServerSelects
      (call.wire client dbName collectionName timeout ⟨list.build op key⟩)
    (list.items ≠ [] → ∀ doc value, doc key = some (.scalar value) →
      (selects .isIn doc ↔ value ∈ list.items) ∧
      (selects .notIn doc ↔ value ∉ list.items) ∧
      (selects .isIn doc ↔ ¬ selects .notIn doc)) ∧
    (list.items ≠ [] → ∀ doc values, doc key = some (.array values) →
      (selects .includes doc ↔ ∃ x ∈ values, x ∈ list.items) ∧
      (selects .excludes doc ↔ ∀ x ∈ values, x ∉ list.items) ∧
      (selects .includesAll doc ↔ ∀ x ∈ list.items, x ∈ values)) ∧
    (list.items = [] → ∀ op doc, selects op doc) := by
  simp only [FilterCall.wire_eq]
  refine ⟨fun hne doc value hvalue => ?_, fun hne doc values hvalues => ?_,
    fun hempty op doc => Or.inl ((list.build_eq_nil_iff op key).mpr hempty)⟩
  · have hin := serverSelects_build_iff hkey hlist hne .isIn hvalue
    have hnotIn := serverSelects_build_iff hkey hlist hne .notIn hvalue
    refine ⟨hin, hnotIn, ?_⟩
    rw [hin, hnotIn]
    exact not_not.symm
  · exact ⟨serverSelects_build_iff hkey hlist hne .includes hvalues,
      serverSelects_build_iff hkey hlist hne .excludes hvalues,
      serverSelects_build_iff hkey hlist hne .includesAll hvalues⟩

/-- A document with an author and three tags. -/
def taggedDocument : Str → Option Stored := fun key =>
  if key = "author".toList then some (.scalar (.str "jerry".toList))
  else if key = "tags".toList then
    some (.array [.str "fantasy".toList, .str "novel".toList, .str "classic".toList])
  else none

theorem list_filter_selects_tagged :
    ServerSelects (FilterCall.wire {} "db".toList "coll".toList 1000
      ⟨Filter.in "author".toList ["sam".toList, "jerry".toList]⟩ .count) taggedDocument :=
  (((list_filter_selects_iff "author".toList (by decide)
    (.strs ["sam".toList, "jerry".toList]) (by decide) {} "db".toList "coll".toList
    1000 .count).1 (by decide) taggedDocument (.str "jerry".toList) rfl).1).mpr (by decide)

/-- A document with the number `1` under the keys `a` and `a not`. -/
def numberedDocument : Str → Option Stored := fun key =>
  if key = "a".toList ∨ key = "a not".toList then some (.scalar (.int 1)) else none

/-- A deletion by the empty list takes a document that is not in the list, and a key that ends
in `not` turns `in` into `notIn`, so the document whose value is in the list is not selected. -/
theorem empty_list_selects_non_member :
    ServerSelects (FilterCall.wire {} "db".toList "coll".toList 1000
        ⟨Filter.in "author".toList ([] : List Str)⟩ (.dele ⟨[], none, 0⟩)) taggedDocument ∧
      (Filter.in "a not".toList [(1 : ℤ)] = Filter.notIn "a".toList [(1 : ℤ)] ∧
        ¬ ServerSelects (Filter.in "a not".toList [(1 : ℤ)]) numberedDocument) ∧
      ¬ ∀ (key : Str) (list : ItemList), list.QuoteFree → ∀ doc value,
        doc key = some (.scalar value) →
        (ServerSelects (list.build .isIn key) doc ↔ value ∈ list.items) := by
  have htext : Filter.in "a not".toList [(1 : ℤ)] = Filter.notIn "a".toList [(1 : ℤ)] := rfl
  have hiff : ServerSelects (ItemList.build .notIn "a".toList (.ints [1])) numberedDocument ↔
      ListOp.notIn.Matches (ItemList.ints [1]).items (.scalar (.int 1)) :=
    serverSelects_build_iff (by decide) (by decide) (by decide) .notIn rfl
  refine ⟨Or.inl rfl, ⟨htext, fun hselects => ?_⟩, fun h => ?_⟩
  · -- the server reads the key `a`, whose value is in the list
    rw [htext] at hselects
    exact hiff.mp hselects (by decide)
  · have hempty := h "author".toList (.strs []) (by decide) taggedDocument
      (.str "jerry".toList) rfl
    exact absurd (hempty.mp (Or.inl rfl)) (by decide)

end VectorDb
