/-
What becomes of a document on its way to the server and back.

`upsert` and `update` encode documents, `query` and `search` decode them, and between the
two the server is taken to store the messages unchanged.  A field comes back as it was
unless it is an empty array of strings: the encoder sets the case of the `oneof` only with
the first element, so an empty array is sent as a field that is not set, and the decoder
leaves such a field at its default, an empty string.  The other way round, a stored field
that is read and written again is sent as it was stored unless it is an empty array.
-/
import VectorDb.Rpc.Result

namespace VectorDb

/-! ### One field -/

lemma foldl_addStrArr (l₀ l : List Str) :
    l.foldl (fun protoField str => protoField.addStrArr str)
        (⟨some (.valStrArr l₀)⟩ : Olama.Field) =
      ⟨some (.valStrArr (l₀ ++ l))⟩ := by
  induction l generalizing l₀ with
  | nil => simp
  | cons s l ih =>
    rw [List.foldl_cons, Olama.Field.addStrArr, ih]
    simp

/-- The message that the encoder makes of an array. -/
lemma convertField2Proto_strArr (l : List Str) :
    convertField2Proto ⟨.strArr l⟩ {} = ⟨if l = [] then none else some (.valStrArr l)⟩ := by
  cases l with
  | nil => rfl
  | cons s l => exact foldl_addStrArr [s] l

/-- The loop of the decoder copies the array. -/
lemma convertProto2Field_strArr (l : List Str) (field : Field) :
    convertProto2Field ⟨some (.valStrArr l)⟩ field = ⟨.strArr l⟩ := by
  have hcopy : l.foldl (fun strArr str => strArr ++ [str]) [] = l := by
    simp [← List.flatMap_def]
  exact congrArg (fun l => (⟨.strArr l⟩ : Field)) hcopy

/-- A field that is encoded and decoded again. -/
def resent (field : Field) : Field := convertProto2Field (convertField2Proto field {}) {}

lemma resent_strArr (l : List Str) :
    resent ⟨.strArr l⟩ = if l = [] then ⟨.str []⟩ else ⟨.strArr l⟩ := by
  rw [resent, convertField2Proto_strArr]
  by_cases hl : l = []
  · simp [hl, convertProto2Field]
  · simp [hl, convertProto2Field_strArr]

lemma resent_eq_iff (field : Field) : resent field = field ↔ field ≠ ⟨.strArr []⟩ := by
  rcases field with ⟨s | n | d | l⟩
  -- a string, a number and a double set the `oneof` whatever their value
  · simp [resent, convertField2Proto, convertProto2Field, Field.hasValDouble,
      Field.hasValStr, Field.getValStr, Field.setValStr]
  · simp [resent, convertField2Proto, convertProto2Field, Field.hasValDouble,
      Field.hasValStr, Field.hasValU64, Field.getValU64, Field.setValU64]
  · simp [resent, convertField2Proto, convertProto2Field, Field.hasValDouble,
      Field.getValDouble, Field.setValDouble]
  · rw [resent_strArr]
    by_cases hl : l = [] <;> simp [hl]

/-! ### The fields of a document -/

/-- No field holds an empty array. -/
def NoEmptyArray (fields : Map Str Field) : Prop := ∀ k, fields.lookup k ≠ some ⟨.strArr []⟩

lemma noEmptyArray_iff {fields : Map Str Field} :
    NoEmptyArray fields ↔ ∀ e ∈ fields.entries, e.2 ≠ ⟨.strArr []⟩ := by
  constructor
  · intro h e he hempty
    exact h e.1 (by rw [Map.lookup_of_mem he, hempty])
  · intro h k hk
    exact h ⟨k, _⟩ (Map.lookup_eq_some.mp hk) rfl

instance (fields : Map Str Field) : Decidable (NoEmptyArray fields) :=
  decidable_of_iff _ noEmptyArray_iff.symm

/-- The decoder gives each key the value that its field has after the way. -/
lemma lookup_decodeFields {fields : Map Str Field} {stored : Map Str Olama.Field}
    (h : Map.Same stored (encodeFields fields)) (k : Str) :
    (decodeFields stored).lookup k = (fields.lookup k).map resent := by
  rw [decodeFields, Map.lookup_fill_copy (fun f => convertProto2Field f {}), h k, encodeFields,
    Map.lookup_fill_copy (fun f => convertField2Proto f {}), Option.map_map]
  rfl

lemma same_decodeFields_iff {fields : Map Str Field} {stored : Map Str Olama.Field}
    (h : Map.Same stored (encodeFields fields)) :
    Map.Same (decodeFields stored) fields ↔ NoEmptyArray fields := by
  refine forall_congr' ?_
  intro k
  rw [lookup_decodeFields h]
  cases fields.lookup k with
  | none => simp
  | some field =>
    rw [Option.map_some, Option.some_inj, resent_eq_iff, ne_eq, ne_eq, Option.some_inj]

/-! ### Documents -/

/-- The server stored the document unchanged; a map has no order of its own. -/
def StoredAs (sent stored : Olama.Document) : Prop :=
  stored.id = sent.id ∧ stored.vector = sent.vector ∧ Map.Same stored.fields sent.fields

/-- The documents have the same id, the same vector, and the same fields. -/
def SameContent (doc doc' : Document) : Prop :=
  doc'.id = doc.id ∧ doc'.vector = doc.vector ∧ Map.Same doc'.fields doc.fields

lemma sameContent_query_iff {doc : Document} {stored : Olama.Document}
    (h : StoredAs (upsertDocument doc) stored) :
    SameContent doc (queryDocument stored) ↔ NoEmptyArray doc.fields := by
  obtain ⟨hid, hvector, hfields⟩ := h
  exact (and_iff_right hid).trans
    ((and_iff_right hvector).trans (same_decodeFields_iff hfields))

lemma sameContent_search_iff {doc : Document} {stored : Olama.Document}
    (h : StoredAs (upsertDocument doc) stored) :
    SameContent doc (searchDocument stored) ↔ NoEmptyArray doc.fields :=
  sameContent_query_iff h

/-- If a decoder gives each document back under a condition, it gives a list of documents
back, in their order, if all of them meet it. -/
lemma forall₂_decoded_iff {decode : Olama.Document → Document}
    (hdecode : ∀ doc stored, StoredAs (upsertDocument doc) stored →
      (SameContent doc (decode stored) ↔ NoEmptyArray doc.fields))
    {docs : List Document} {stored : List Olama.Document}
    (h : List.Forall₂ StoredAs (docs.map upsertDocument) stored) :
    List.Forall₂ SameContent docs (stored.map decode) ↔ ∀ d ∈ docs, NoEmptyArray d.fields := by
  rw [List.forall₂_map_left_iff] at h
  induction h with
  | nil => simp
  | cons hdoc _ ih =>
    rw [List.map_cons, List.forall₂_cons, ih, hdecode _ _ hdoc, List.forall_mem_cons]

/-- The documents that `query` and `search` make of the stored documents of an `upsert` are
the documents that were given to it, exactly when no field of them is an empty array; and so
for the vector and the fields of an `update`. -/
theorem documents_round_trip_iff (client : RpcClient) (dbName collectionName : Str)
    (docs : List Document) (params : Option UpsertDocumentParams) (timeout : Int32)
    (stored : List Olama.Document)
    (h : List.Forall₂ StoredAs
      (client.upsert dbName collectionName docs params timeout).request.documents stored) :
    (∀ (i : Invocation .query) (r : QueryDocumentResult), i.Accepts →
      i.outcome.response.documents = stored →
      (List.Forall₂ SameContent docs (QueryDocumentResult.documents (i.object r)) ↔
        ∀ d ∈ docs, NoEmptyArray d.fields)) ∧
    (∀ (i : Invocation .search) (r : SearchDocumentResult) (n : ℕ), i.Accepts →
      i.outcome.response.results[n]? = some ⟨stored⟩ →
      ∃ found,
        (SearchDocumentResult.documents (i.object r))[r.documents.length + n]? = some found ∧
        (List.Forall₂ SameContent docs found ↔ ∀ d ∈ docs, NoEmptyArray d.fields)) ∧
    (∀ given : UpdateDocumentParams, ∃ sent,
      (client.update dbName collectionName (some given) timeout).request.update = some sent ∧
      ∀ storedUpdate, StoredAs sent storedUpdate → ∀ decode ∈ [queryDocument, searchDocument],
        ((decode storedUpdate).vector = given.updateVector ∧
            Map.Same (decode storedUpdate).fields given.updateFields ↔
          NoEmptyArray given.updateFields)) := by
  refine ⟨?_, ?_, ?_⟩
  · intro i r hi hstored
    rw [Invocation.documents_object_query hi, hstored]
    exact forall₂_decoded_iff (fun _ _ => sameContent_query_iff) h
  · intro i r n hi hstored
    refine ⟨stored.map searchDocument, ?_, forall₂_decoded_iff (fun _ _ => sameContent_search_iff) h⟩
    rw [Invocation.documents_object_search hi, List.getElem?_append_right (Nat.le_add_right _ _),
      Nat.add_sub_cancel_left, Method.searchDocuments, List.getElem?_map, hstored]
    rfl
  · intro given
    refine ⟨updateDocument given, rfl, fun storedUpdate hstored decode hdecode => ?_⟩
    obtain ⟨-, hvector, hfields⟩ := hstored
    have hiff := (and_iff_right hvector).trans (same_decodeFields_iff hfields)
    rcases List.mem_pair.mp hdecode with rfl | rfl
    · exact hiff
    · exact hiff

/-- A document with a field of each alternative, three of them empty or zero. -/
def sampleDocument : Document where
  id := "0001".toList
  vector := [⟨1065353216⟩, .zero]
  fields := Map.fill Prod.fst Prod.snd
    [("title".toList, ⟨.str []⟩), ("page".toList, ⟨.u64 0⟩), ("price".toList, ⟨.double .zero⟩),
      ("tags".toList, ⟨.strArr [[]]⟩)] ∅

/-- The query that finds the stored document. -/
def findSample : Invocation .query where
  self := {}
  args := ("db".toList, "coll".toList, [sampleDocument.id], none)
  timeout := 5000
  memory := 0
  outcome := ⟨⟨0, []⟩, { documents := [upsertDocument sampleDocument] }⟩

theorem documents_round_trip_sample :
    List.Forall₂ SameContent [sampleDocument]
      (QueryDocumentResult.documents (findSample.object ⟨true, [], [], 0⟩)) :=
  ((documents_round_trip_iff {} "db".toList "coll".toList [sampleDocument] none 5000
    [upsertDocument sampleDocument] (.cons ⟨rfl, rfl, fun _ => rfl⟩ .nil)).1
      findSample ⟨true, [], [], 0⟩ (by decide) rfl).mpr (by decide)

/-- A document whose only field is an empty array. -/
def untaggedDocument : Document where
  id := "0001".toList
  fields := AList.singleton "tags".toList ⟨.strArr []⟩

/-- The empty array comes back as an empty string. -/
theorem empty_array_comes_back_as_string :
    (queryDocument (upsertDocument untaggedDocument)).fields.lookup "tags".toList =
        some ⟨.str []⟩ ∧
      ¬ ∀ (docs : List Document) (stored : List Olama.Document),
        List.Forall₂ StoredAs (docs.map upsertDocument) stored →
        List.Forall₂ SameContent docs (stored.map queryDocument) := by
  refine ⟨by decide, ?_⟩
  intro h
  have hsame := h [untaggedDocument] [upsertDocument untaggedDocument]
    (.cons ⟨rfl, rfl, fun _ => rfl⟩ .nil)
  obtain ⟨⟨-, -, hfields⟩, -⟩ := List.forall₂_cons.mp hsame
  exact absurd (hfields "tags".toList) (by decide)

/-! ### Stored fields that are read and written again -/

/-- A stored field that is decoded and encoded again. -/
def rewritten (stored : Olama.Field) : Olama.Field :=
  convertField2Proto (convertProto2Field stored {}) {}

lemma rewritten_eq_iff (stored : Olama.Field) :
    rewritten stored = stored ↔
      stored.oneofVal ≠ none ∧ stored.oneofVal ≠ some (.valStrArr []) := by
  rcases stored with ⟨_ | s | n | d | l⟩
  -- a field that is not set is read as an empty string, which sets it
  · simp [rewritten, convertField2Proto, convertProto2Field, Field.hasValDouble,
      Field.hasValStr, Field.getValStr]
  · simp [rewritten, convertField2Proto, convertProto2Field, Field.hasValDouble,
      Field.hasValStr, Field.getValStr, Field.setValStr]
  · simp [rewritten, convertField2Proto, convertProto2Field, Field.hasValDouble,
      Field.hasValStr, Field.hasValU64, Field.getValU64, Field.setValU64]
  · simp [rewritten, convertField2Proto, convertProto2Field, Field.hasValDouble,
      Field.getValDouble, Field.setValDouble]
  · rw [rewritten, convertProto2Field_strArr, convertField2Proto_strArr]
    by_cases hl : l = [] <;> simp [hl]

/-- Every value is set, and none is an empty array. -/
def SetAndNonempty (stored : Map Str Olama.Field) : Prop :=
  ∀ k value, stored.lookup k = some value →
    value.oneofVal ≠ none ∧ value.oneofVal ≠ some (.valStrArr [])

lemma setAndNonempty_iff {stored : Map Str Olama.Field} :
    SetAndNonempty stored ↔ ∀ e ∈ stored.entries,
      e.2.oneofVal ≠ none ∧ e.2.oneofVal ≠ some (.valStrArr []) := by
  constructor
  · intro h e he
    exact h e.1 e.2 (Map.lookup_of_mem he)
  · intro h k value hvalue
    exact h ⟨k, value⟩ (Map.lookup_eq_some.mp hvalue)

instance (stored : Map Str Olama.Field) : Decidable (SetAndNonempty stored) :=
  decidable_of_iff _ setAndNonempty_iff.symm

/-- The encoder gives each key the value that its stored field has after the way. -/
lemma lookup_encodeFields (stored : Map Str Olama.Field) (k : Str) :
    (encodeFields (decodeFields stored)).lookup k = (stored.lookup k).map rewritten := by
  rw [encodeFields, Map.lookup_fill_copy (fun f => convertField2Proto f {}), decodeFields,
    Map.lookup_fill_copy (fun f => convertProto2Field f {}), Option.map_map]
  rfl

lemma same_encodeFields_iff (stored : Map Str Olama.Field) :
    Map.Same (encodeFields (decodeFields stored)) stored ↔ SetAndNonempty stored := by
  refine forall_congr' ?_
  intro k
  rw [lookup_encodeFields]
  cases stored.lookup k with
  | none => simp
  | some value => simp [rewritten_eq_iff]

/-- The two documents have the same fields. -/
def SameFields (stored sent : Olama.Document) : Prop := Map.Same sent.fields stored.fields

lemma sameFields_upsert_iff (stored : Olama.Document) :
    SameFields stored (upsertDocument (queryDocument stored)) ↔ SetAndNonempty stored.fields :=
  same_encodeFields_iff stored.fields

/-- The documents that `query` returns, written again by `upsert`, and the fields of each of
them, written again by `update`, are sent with the fields that were stored exactly when every
stored value is set and none of them is an empty array. -/
theorem read_then_write_iff (i : Invocation .query) (h : i.Accepts) (r : QueryDocumentResult)
    (client : RpcClient) (dbName collectionName : Str) (params : Option UpsertDocumentParams)
    (timeout : Int32) :
    (List.Forall₂ SameFields i.outcome.response.documents
        (client.upsert dbName collectionName (QueryDocumentResult.documents (i.object r)) params
          timeout).request.documents ↔
      ∀ stored ∈ i.outcome.response.documents, SetAndNonempty stored.fields) ∧
    (∀ (n : ℕ) (stored : Olama.Document), i.outcome.response.documents[n]? = some stored →
      ∃ doc, (QueryDocumentResult.documents (i.object r))[n]? = some doc ∧
        ∀ given : UpdateDocumentParams, ∃ sent,
          (client.update dbName collectionName (some { given with updateFields := doc.fields })
            timeout).request.update = some sent ∧
          (SameFields stored sent ↔ SetAndNonempty stored.fields)) := by
  rw [Invocation.documents_object_query h]
  refine ⟨?_, ?_⟩
  · show List.Forall₂ SameFields _ ((_ : List Document).map upsertDocument) ↔ _
    rw [List.map_map, List.forall₂_map_right_iff, List.forall₂_same]
    simp only [Function.comp_apply, sameFields_upsert_iff]
  · intro n stored hn
    refine ⟨queryDocument stored, by rw [List.getElem?_map, hn]; rfl, fun given => ?_⟩
    exact ⟨_, rfl, same_encodeFields_iff stored.fields⟩

theorem read_then_write_sample :
    List.Forall₂ SameFields [upsertDocument sampleDocument]
      (RpcClient.upsert {} "db".toList "coll".toList
        (QueryDocumentResult.documents (findSample.object ⟨true, [], [], 0⟩)) none
        5000).request.documents :=
  (read_then_write_iff findSample (by decide) ⟨true, [], [], 0⟩ {} "db".toList "coll".toList none
    5000).1.mpr (by decide)

/-- A stored document whose only field is an empty array. -/
def untaggedStored : Olama.Document where
  id := "0001".toList
  fields := AList.singleton "tags".toList ⟨some (.valStrArr [])⟩

/-- The empty array is written again as a field that is not set. -/
theorem empty_array_is_lost :
    (upsertDocument (queryDocument untaggedStored)).fields.lookup "tags".toList = some ⟨none⟩ ∧
      ¬ ∀ stored : Olama.Document,
        (∀ k value, stored.fields.lookup k = some value → value.oneofVal ≠ none) →
        SameFields stored (upsertDocument (queryDocument stored)) := by
  refine ⟨by decide, ?_⟩
  intro h
  have hset : ∀ k value, untaggedStored.fields.lookup k = some value → value.oneofVal ≠ none := by
    intro k value hvalue
    have hmem : (⟨k, value⟩ : Σ _ : Str, Olama.Field) ∈ untaggedStored.fields.entries :=
      Map.lookup_eq_some.mp hvalue
    obtain ⟨rfl, rfl⟩ := List.mem_singleton.mp hmem
    simp
  exact absurd (h untaggedStored hset "tags".toList) (by decide)

end VectorDb
