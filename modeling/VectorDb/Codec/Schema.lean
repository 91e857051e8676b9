/-
What becomes of the schema of a collection on its way to the server and back.

`createCollection` puts two lists of indexes into one map, keyed by the field name, and
`toCollection` sorts the columns of that map into two lists again, by their types.  The two
loops are inverse, up to the order, when the names are pairwise distinct and the types say
in which list an index belongs (`vectorIndexes_perm`, `filterIndexes_perm`); repeated names
show in the number of columns (`names_nodup_of_length`).
-/
import VectorDb.Rpc.Result

namespace VectorDb

/-! ### The columns of the request -/

/-- The columns that the two loops of `createCollection` assign, with their keys. -/
def requestColumns (indexes : Indexes) : List (Str × Olama.IndexColumn) :=
  indexes.vectorIndex.map (fun v => (v.fieldName, vectorColumn v)) ++
    indexes.filterIndex.map (fun v => (v.fieldName, filterColumn v))

/-- The names of all indexes, of both lists. -/
def Indexes.names (indexes : Indexes) : List Str :=
  indexes.vectorIndex.map (·.fieldName) ++ indexes.filterIndex.map (·.fieldName)

lemma map_fst_requestColumns (indexes : Indexes) :
    (requestColumns indexes).map Prod.fst = indexes.names := by
  simp [requestColumns, Indexes.names, Function.comp_def]

/-- The two loops are one loop over the columns. -/
lemma requestIndexes_eq (indexes : Indexes) :
    requestIndexes indexes = Map.fill Prod.fst Prod.snd (requestColumns indexes) ∅ := by
  rw [requestIndexes, requestColumns, Map.fill_append, ← Map.fill_eq_fill_pairs,
    ← Map.fill_eq_fill_pairs]

/-- The columns of a message, in the order in which its map is iterated. -/
def columns (item : Olama.CreateCollectionRequest) : List Olama.IndexColumn :=
  item.indexes.entries.map (·.2)

/-- The message came as it was sent; the map may be iterated in another order. -/
def SchemaStoredAs (sent stored : Olama.CreateCollectionRequest) : Prop :=
  stored.indexes.entries.Perm sent.indexes.entries ∧
    stored = { sent with indexes := stored.indexes }

/-- If the names are pairwise distinct, there is one column for each index. -/
lemma columns_perm {indexes : Indexes} (hnames : indexes.names.Nodup)
    {item : Olama.CreateCollectionRequest}
    (hitem : item.indexes.entries.Perm (requestIndexes indexes).entries) :
    (columns item).Perm
      (indexes.vectorIndex.map vectorColumn ++ indexes.filterIndex.map filterColumn) := by
  rw [← map_fst_requestColumns] at hnames
  have hnew : ∀ col ∈ requestColumns indexes, col.1 ∉ (∅ : Map Str Olama.IndexColumn) := by simp
  have hentries := Map.entries_fill Prod.snd hnames hnew
  rw [← requestIndexes_eq] at hentries
  have hperm := (hitem.trans hentries).map Sigma.snd
  simpa [columns, requestColumns, Function.comp_def] using hperm

/-- If there is one column for each index, the names are pairwise distinct. -/
lemma names_nodup_of_length {indexes : Indexes} {item : Olama.CreateCollectionRequest}
    (hitem : item.indexes.entries.Perm (requestIndexes indexes).entries)
    (hlength : (columns item).length =
      indexes.vectorIndex.length + indexes.filterIndex.length) :
    indexes.names.Nodup := by
  rw [← map_fst_requestColumns]
  refine Map.nodup_of_length Prod.snd ?_
  rw [← requestIndexes_eq, ← hitem.length_eq, ← List.length_map (f := Sigma.snd)]
  simpa [columns, requestColumns] using hlength

/-! ### The indexes of the result -/

/-- The loop of `toCollection` sorts the columns by their types and keeps their order. -/
lemma foldl_addIndex (size : UInt64) (cols : List Olama.IndexColumn) (indexes : Indexes) :
    cols.foldl (addIndex size) indexes =
      { vectorIndex := indexes.vectorIndex ++
          (cols.filter (·.fieldType = kVector)).map (columnVector size)
        filterIndex := indexes.filterIndex ++
          (cols.filter (·.fieldType ≠ kVector)).map columnFilter } := by
  induction cols generalizing indexes with
  | nil => simp
  | cons col cols ih =>
    rw [List.foldl_cons, ih, addIndex]
    by_cases hcol : col.fieldType = kVector <;> simp [hcol]

lemma indexes_toCollection (item : Olama.CreateCollectionRequest) :
    (toCollection item {}).indexes =
      { vectorIndex :=
          ((columns item).filter (·.fieldType = kVector)).map (columnVector item.size)
        filterIndex := ((columns item).filter (·.fieldType ≠ kVector)).map columnFilter } := by
  have h := foldl_addIndex item.size (columns item) {}
  rw [columns, List.foldl_map] at h
  exact h

/-! ### The round trip -/

/-- What an index says of its column. -/
def VectorIndex.definition (v : VectorIndex) : Str × Str × Str × UInt32 × Str × IndexParams :=
  (v.fieldName, v.fieldType, v.indexType, v.dimension, v.metricType, v.params)

/-- What an index says of its column, but for the type of the elements. -/
def FilterIndex.shape (f : FilterIndex) : Str × Str × Str :=
  (f.fieldName, f.fieldType, f.indexType)

/-- What an index says of its column. -/
def FilterIndex.definition (f : FilterIndex) : Str × Str × Str × Str :=
  (f.fieldName, f.fieldType, f.indexType, f.elemType)

/-- The type of the elements of a column that the request sends. -/
def sentElemType (fieldType : Str) : Str := if fieldType = kArray then kString else []

lemma fieldType_columnFilter (col : Olama.IndexColumn) :
    (columnFilter col).fieldType = col.fieldType := by
  unfold columnFilter
  split <;> rfl

lemma columnFilter_filterColumn (f : FilterIndex) :
    columnFilter (filterColumn f) = { f with elemType := sentElemType f.fieldType } := by
  by_cases h : f.fieldType = kArray <;> simp [columnFilter, filterColumn, sentElemType, h]

lemma sentElemType_eq_kString_iff (fieldType : Str) :
    sentElemType fieldType = kString ↔ fieldType = kArray := by
  by_cases h : fieldType = kArray
  · simp [sentElemType, h]
  · simp [sentElemType, h, kString_ne_nil.symm]

/-- The indexes that the callers build: distinct names, and each index in the list of its
type. -/
structure Indexes.WellFormed (indexes : Indexes) : Prop where
  names_nodup : indexes.names.Nodup
  vector_type : ∀ v ∈ indexes.vectorIndex, v.fieldType = kVector
  filter_type : ∀ f ∈ indexes.filterIndex, f.fieldType ≠ kVector

section RoundTrip

variable {indexes : Indexes} {item : Olama.CreateCollectionRequest}

lemma Indexes.WellFormed.vectorColumns (h : indexes.WellFormed) :
    ∀ col ∈ indexes.vectorIndex.map vectorColumn, col.fieldType = kVector :=
  List.forall_mem_map.mpr h.vector_type

lemma Indexes.WellFormed.filterColumns (h : indexes.WellFormed) :
    ∀ col ∈ indexes.filterIndex.map filterColumn, col.fieldType ≠ kVector :=
  List.forall_mem_map.mpr h.filter_type

lemma vectorIndexes_perm (h : indexes.WellFormed)
    (hitem : item.indexes.entries.Perm (requestIndexes indexes).entries) :
    (toCollection item {}).indexes.vectorIndex.Perm
      (indexes.vectorIndex.map fun v => columnVector item.size (vectorColumn v)) := by
  have hfilter : (indexes.vectorIndex.map vectorColumn ++
      indexes.filterIndex.map filterColumn).filter (·.fieldType = kVector) =
        indexes.vectorIndex.map vectorColumn := by
    rw [List.filter_append,
      List.filter_eq_self.mpr fun col hcol => decide_eq_true (h.vectorColumns col hcol),
      List.filter_eq_nil_iff.mpr fun col hcol => by simpa using h.filterColumns col hcol,
      List.append_nil]
  have hperm := ((columns_perm h.names_nodup hitem).filter (·.fieldType = kVector)).map
    (columnVector item.size)
  rw [hfilter, List.map_map] at hperm
  rw [indexes_toCollection]
  exact hperm

lemma filterIndexes_perm (h : indexes.WellFormed)
    (hitem : item.indexes.entries.Perm (requestIndexes indexes).entries) :
    (toCollection item {}).indexes.filterIndex.Perm
      (indexes.filterIndex.map fun f => columnFilter (filterColumn f)) := by
  have hfilter : (indexes.vectorIndex.map vectorColumn ++
      indexes.filterIndex.map filterColumn).filter (·.fieldType ≠ kVector) =
        indexes.filterIndex.map filterColumn := by
    rw [List.filter_append,
      List.filter_eq_nil_iff.mpr fun col hcol => by simpa using h.vectorColumns col hcol,
      List.filter_eq_self.mpr fun col hcol => decide_eq_true (h.filterColumns col hcol),
      List.nil_append]
  have hperm := ((columns_perm h.names_nodup hitem).filter (·.fieldType ≠ kVector)).map
    columnFilter
  rw [hfilter, List.map_map] at hperm
  rw [indexes_toCollection]
  exact hperm

end RoundTrip

/-- What `createCollection` is told of the schema is what `toCollection` reads from its
request. -/
theorem schema_round_trip (client : RpcClient) (dbName collectionName : Str)
    (shardNum replicaNum : UInt32) (description : Str) (indexes : Indexes)
    (params : Option CreateCollectionParams) (timeout : Int32) (h : indexes.WellFormed)
    (item : Olama.CreateCollectionRequest)
    (hitem : SchemaStoredAs (client.createCollection dbName collectionName shardNum replicaNum
      description indexes params timeout).request item) :
    let collection := toCollection item {}
    (collection.database = dbName ∧ collection.collectionName = collectionName ∧
      collection.shardNum = shardNum ∧ collection.replicaNum = replicaNum ∧
      collection.description = description) ∧
    (∀ given embedding, params = some given → given.embedding = some embedding →
      collection.embedding.field = embedding.field ∧
      collection.embedding.vectorField = embedding.vectorField ∧
      collection.embedding.model = embedding.model) ∧
    (collection.indexes.vectorIndex.map (·.definition)).Perm
      (indexes.vectorIndex.map (·.definition)) ∧
    (collection.indexes.filterIndex.map (·.shape)).Perm
      (indexes.filterIndex.map (·.shape)) ∧
    ∀ f ∈ collection.indexes.filterIndex, f.elemType = kString ↔ f.fieldType = kArray := by
  obtain ⟨hentries, heq⟩ := hitem
  have hvector := (vectorIndexes_perm h hentries).map (·.definition)
  have hfilter := filterIndexes_perm h hentries
  refine ⟨by rw [heq]; exact ⟨rfl, rfl, rfl, rfl, rfl⟩, ?_, ?_, ?_, ?_⟩
  · rintro given embedding rfl hembedding
    rw [heq]
    simp [toCollection, RpcClient.createCollection, requestEmbedding, hembedding]
  · rw [List.map_map] at hvector
    exact hvector
  · have hshape := hfilter.map (·.shape)
    rw [List.map_map] at hshape
    refine hshape.trans (List.Perm.of_eq (List.map_congr_left fun f _ => ?_))
    rw [Function.comp_apply, columnFilter_filterColumn]
    rfl
  · intro f hf
    obtain ⟨given, -, rfl⟩ := List.mem_map.mp (hfilter.mem_iff.mp hf)
    rw [columnFilter_filterColumn]
    exact sentElemType_eq_kString_iff given.fieldType

/-- A vector, a string and an array of tags. -/
def sampleIndexes : Indexes where
  vectorIndex :=
    [{ fieldName := "vector".toList
       fieldType := kVector
       indexType := "HNSW".toList
       dimension := 3
       metricType := "COSINE".toList
       params := { m := 16, efConstruction := 200 }
       indexCount := 0 }]
  filterIndex :=
    [{ fieldName := "id".toList, fieldType := kString, indexType := "primaryKey".toList },
      { fieldName := "tags".toList, fieldType := kArray, indexType := "filter".toList }]

theorem schema_round_trip_sample :
    ((toCollection (RpcClient.createCollection {} "db".toList "coll".toList 1 2 [] sampleIndexes
      none 5000).request {}).indexes.filterIndex.map (·.shape)).Perm
        (sampleIndexes.filterIndex.map (·.shape)) :=
  (schema_round_trip {} "db".toList "coll".toList 1 2 [] sampleIndexes none 5000
    ⟨by decide, by decide, by decide⟩ _ ⟨.refl _, rfl⟩).2.2.2.1

/-! ### The collection that the caller gets -/

/-- The collections have the same schema, with their indexes in any order. -/
structure Collection.SameSchema (c c' : Collection) : Prop where
  header : c.database = c'.database ∧ c.collectionName = c'.collectionName ∧
    c.shardNum = c'.shardNum ∧ c.replicaNum = c'.replicaNum ∧ c.description = c'.description
  embedding : c.embedding.field = c'.embedding.field ∧
    c.embedding.vectorField = c'.embedding.vectorField ∧ c.embedding.model = c'.embedding.model
  vectorIndex : (c.indexes.vectorIndex.map (·.definition)).Perm
    (c'.indexes.vectorIndex.map (·.definition))
  filterIndex : (c.indexes.filterIndex.map (·.definition)).Perm
    (c'.indexes.filterIndex.map (·.definition))

/-- The element types are those that the request sends. -/
def Indexes.SentElemTypes (indexes : Indexes) : Prop :=
  ∀ f ∈ indexes.filterIndex, f.elemType = sentElemType f.fieldType

/-- No embedding is given, or an embedding without any name. -/
def NoEmbedding (params : Option CreateCollectionParams) : Prop :=
  ∀ embedding ∈ params.bind (·.embedding),
    embedding.field = [] ∧ embedding.vectorField = [] ∧ embedding.model = []

section SameSchema

variable {indexes : Indexes} {item : Olama.CreateCollectionRequest}

/-- If the two lists come back, the names are pairwise distinct and the types separate the
lists. -/
lemma wellFormed_of_perm (hitem : item.indexes.entries.Perm (requestIndexes indexes).entries)
    (hvector : (indexes.vectorIndex.map (·.definition)).Perm
      ((toCollection item {}).indexes.vectorIndex.map (·.definition)))
    (hfilter : (indexes.filterIndex.map (·.definition)).Perm
      ((toCollection item {}).indexes.filterIndex.map (·.definition))) :
    indexes.WellFormed := by
  rw [indexes_toCollection] at hvector hfilter
  refine ⟨names_nodup_of_length hitem ?_, ?_, ?_⟩
  · -- there are as many columns as indexes, so no two indexes share a name
    have hv := hvector.length_eq
    have hf := hfilter.length_eq
    simp only [List.length_map] at hv hf
    rw [hv, hf, List.length_eq_length_filter_add (·.fieldType = kVector)]
    simp
  · intro v hv
    -- the list of vector indexes holds columns of that type only
    obtain ⟨w, hw, heq⟩ :=
      List.mem_map.mp (hvector.mem_iff.mp (List.mem_map_of_mem (f := (·.definition)) hv))
    obtain ⟨col, hcol, rfl⟩ := List.mem_map.mp hw
    have htype : col.fieldType = v.fieldType := congrArg (·.2.1) heq
    rw [← htype]
    simpa using (List.mem_filter.mp hcol).2
  · intro f hf
    -- and the list of filter indexes none of them
    obtain ⟨g, hg, heq⟩ :=
      List.mem_map.mp (hfilter.mem_iff.mp (List.mem_map_of_mem (f := (·.definition)) hf))
    obtain ⟨col, hcol, rfl⟩ := List.mem_map.mp hg
    have htype : (columnFilter col).fieldType = f.fieldType := congrArg (·.2.1) heq
    rw [← htype, fieldType_columnFilter]
    simpa using (List.mem_filter.mp hcol).2

lemma definitions_perm_iff (h : indexes.WellFormed)
    (hitem : item.indexes.entries.Perm (requestIndexes indexes).entries) :
    (indexes.filterIndex.map (·.definition)).Perm
        ((toCollection item {}).indexes.filterIndex.map (·.definition)) ↔
      indexes.SentElemTypes := by
  have hperm := (filterIndexes_perm h hitem).map (·.definition)
  rw [List.map_map] at hperm
  constructor
  · intro hdefs f hf
    obtain ⟨g, -, heq⟩ := List.mem_map.mp
      ((hdefs.trans hperm).mem_iff.mp (List.mem_map_of_mem (f := (·.definition)) hf))
    rw [Function.comp_apply, columnFilter_filterColumn] at heq
    have htype : g.fieldType = f.fieldType := congrArg (·.2.1) heq
    have helem : sentElemType g.fieldType = f.elemType := congrArg (·.2.2.2) heq
    rw [← helem, htype]
  · intro helem
    refine .trans (.of_eq (List.map_congr_left fun f hf => ?_)) hperm.symm
    rw [Function.comp_apply, columnFilter_filterColumn, ← helem f hf]

/-- Without an embedding the received collection has the names of a fresh one. -/
lemma noEmbedding_iff {params : Option CreateCollectionParams}
    (hparams : item.embeddingParams = requestEmbedding params) :
    ((toCollection item {}).embedding.field = [] ∧
        (toCollection item {}).embedding.vectorField = [] ∧
        (toCollection item {}).embedding.model = []) ↔ NoEmbedding params := by
  rcases params with _ | ⟨_ | embedding⟩ <;>
    simp [toCollection, hparams, requestEmbedding, NoEmbedding]

end SameSchema

/-- The collection that a successful `createCollection` puts into the result object agrees
with the one that `toCollection` reads from its request exactly when the indexes are
well-formed, their element types are those that are sent, and there is no embedding. -/
theorem created_collection_agrees_iff (client : RpcClient) (dbName collectionName : Str)
    (shardNum replicaNum : UInt32) (description : Str) (indexes : Indexes)
    (params : Option CreateCollectionParams) (timeout : Int32) (memory : Int64)
    (outcome : Outcome Olama.CreateCollectionResponse) (r : CreateCollectionResult)
    (h : ((client.createCollection dbName collectionName shardNum replicaNum description indexes
      params timeout).resume memory outcome).ret = 0)
    (item : Olama.CreateCollectionRequest)
    (hitem : SchemaStoredAs (client.createCollection dbName collectionName shardNum replicaNum
      description indexes params timeout).request item) :
    ∃ collection,
      (((client.createCollection dbName collectionName shardNum replicaNum description indexes
        params timeout).resume memory outcome).object r).collection = some collection ∧
      (collection.SameSchema (toCollection item {}) ↔
        indexes.WellFormed ∧ indexes.SentElemTypes ∧ NoEmbedding params) := by
  obtain ⟨hentries, heq⟩ := hitem
  have hparams : item.embeddingParams = requestEmbedding params := by rw [heq]; rfl
  rw [resume_of_passes (passes_of_ret_eq_zero h)]
  refine ⟨_, rfl, ?_⟩
  constructor
  · rintro ⟨-, ⟨hfield, hvectorField, hmodel⟩, hvector, hfilter⟩
    have hwell := wellFormed_of_perm hentries hvector hfilter
    exact ⟨hwell, (definitions_perm_iff hwell hentries).mp hfilter,
      (noEmbedding_iff hparams).mp ⟨hfield.symm, hvectorField.symm, hmodel.symm⟩⟩
  · rintro ⟨hwell, helem, hembedding⟩
    obtain ⟨hfield, hvectorField, hmodel⟩ := (noEmbedding_iff hparams).mpr hembedding
    refine ⟨?_, ⟨hfield.symm, hvectorField.symm, hmodel.symm⟩, ?_,
      (definitions_perm_iff hwell hentries).mpr helem⟩
    · rw [heq]
      exact ⟨rfl, rfl, rfl, rfl, rfl⟩
    · have hvector := (vectorIndexes_perm hwell hentries).map (·.definition)
      rw [List.map_map] at hvector
      exact hvector.symm

/-- The schema of `sampleIndexes` with the element type that is sent for the tags. -/
def typedIndexes : Indexes where
  vectorIndex := sampleIndexes.vectorIndex
  filterIndex :=
    [{ fieldName := "id".toList, fieldType := kString, indexType := "primaryKey".toList },
      { fieldName := "tags".toList
        fieldType := kArray
        indexType := "filter".toList
        elemType := kString }]

theorem created_collection_agrees_typed :
    ∃ collection,
      (((RpcClient.createCollection {} "db".toList "coll".toList 1 2 [] typedIndexes none
        5000).resume 0 ⟨⟨0, []⟩, {}⟩).object ⟨false, [], none⟩).collection = some collection ∧
      collection.SameSchema (toCollection (RpcClient.createCollection {} "db".toList
        "coll".toList 1 2 [] typedIndexes none 5000).request {}) := by
  obtain ⟨collection, hcollection, hiff⟩ :=
    created_collection_agrees_iff {} "db".toList "coll".toList 1 2 [] typedIndexes none 5000 0
      ⟨⟨0, []⟩, {}⟩ ⟨false, [], none⟩ rfl _ ⟨.refl _, rfl⟩
  have helem : typedIndexes.SentElemTypes := by unfold Indexes.SentElemTypes; decide
  have hembedding : NoEmbedding none := by rintro embedding ⟨⟩
  exact ⟨collection, hcollection,
    hiff.mpr ⟨⟨by decide, by decide, by decide⟩, helem, hembedding⟩⟩

/-- The parameters of a collection whose vectors the server computes from a text. -/
def embeddingParams : CreateCollectionParams where
  embedding := some
    { field := "text".toList, vectorField := "vector".toList, model := "bge-base-zh".toList }

/-- The collection that the caller gets has no embedding, though one was sent, and no element
type for the tags. -/
theorem created_collection_lacks_embedding :
    let call := RpcClient.createCollection {} "db".toList "coll".toList 1 2 [] sampleIndexes
      (some embeddingParams) 5000
    (call.resume 0 ⟨⟨0, []⟩, {}⟩).ret = 0 ∧
      ∀ collection,
        ((call.resume 0 ⟨⟨0, []⟩, {}⟩).object ⟨false, [], none⟩).collection = some collection →
        collection.embedding.field = [] ∧
          (toCollection call.request {}).embedding.field = "text".toList ∧
          ¬ collection.SameSchema (toCollection call.request {}) := by
  intro call
  refine ⟨rfl, ?_⟩
  rintro collection ⟨⟩
  exact ⟨rfl, rfl, fun hsame => absurd hsame.embedding.1 (by decide)⟩

end VectorDb
