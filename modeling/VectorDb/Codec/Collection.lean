/-
What a decoded collection says of the message it was made from.

`toCollection` copies every attribute that `Collection` has a member for, except the progress
of the index status.  The columns of the message are spread over two lists, and each entry of
either list says everything of its column that belongs to its type, so the columns can be
told from the lists up to their order (`columns_perm_contents`).
-/
import VectorDb.Codec.Schema

namespace VectorDb

/-! ### Columns -/

/-- What a column says, by its type: a vector has its dimension, its metric and its
parameters, and an array the type of its elements. -/
structure ColumnContent where
  fieldName : Str
  fieldType : Str
  indexType : Str
  /-- The dimension, the metric and the parameters of a vector. -/
  vector : Option (UInt32 × Str × Olama.IndexParams)
  /-- The type of the elements of an array. -/
  elements : Option Str
deriving DecidableEq

/-- The content of a column of a message; parameters that are absent are default ones. -/
def columnContent (col : Olama.IndexColumn) : ColumnContent where
  fieldName := col.fieldName
  fieldType := col.fieldType
  indexType := col.indexType
  vector :=
    if col.fieldType = kVector then some (col.dimension, col.metricType, col.params.getD {})
    else none
  elements := if col.fieldType = kArray then some col.fieldElementType else none

/-- The content of the column of a vector index. -/
def VectorIndex.content (v : VectorIndex) : ColumnContent where
  fieldName := v.fieldName
  fieldType := v.fieldType
  indexType := v.indexType
  vector := some (v.dimension, v.metricType,
    { m := v.params.m
      efConstruction := v.params.efConstruction
      nprobe := v.params.nProbe
      nlist := v.params.nList })
  elements := none

/-- The content of the column of a filter index. -/
def FilterIndex.content (f : FilterIndex) : ColumnContent where
  fieldName := f.fieldName
  fieldType := f.fieldType
  indexType := f.indexType
  vector := none
  elements := if f.fieldType = kArray then some f.elemType else none

lemma content_columnVector (size : UInt64) {col : Olama.IndexColumn}
    (hcol : col.fieldType = kVector) : (columnVector size col).content = columnContent col := by
  have harray : ¬ kVector = kArray := by decide
  rcases hparams : col.params with _ | p <;>
    simp [columnVector, VectorIndex.content, columnContent, hcol, harray, hparams]

lemma content_columnFilter {col : Olama.IndexColumn} (hcol : col.fieldType ≠ kVector) :
    (columnFilter col).content = columnContent col := by
  by_cases harray : col.fieldType = kArray
  · have hvector : ¬ kArray = kVector := by decide
    simp [columnFilter, FilterIndex.content, columnContent, harray, hvector]
  · simp [columnFilter, FilterIndex.content, columnContent, harray, hcol]

/-- The contents of all columns, in the order of the two lists. -/
def Indexes.contents (indexes : Indexes) : List ColumnContent :=
  indexes.vectorIndex.map VectorIndex.content ++ indexes.filterIndex.map FilterIndex.content

/-- The two lists hold the contents of the columns. -/
lemma columns_perm_contents (item : Olama.CreateCollectionRequest) :
    ((columns item).map columnContent).Perm (toCollection item {}).indexes.contents := by
  have hvector : ((columns item).filter (·.fieldType = kVector)).map
      (fun col => (columnVector item.size col).content) =
        ((columns item).filter (·.fieldType = kVector)).map columnContent :=
    List.map_congr_left fun col hcol =>
      content_columnVector item.size (by simpa using (List.mem_filter.mp hcol).2)
  have hfilter : ((columns item).filter (·.fieldType ≠ kVector)).map
      (fun col => (columnFilter col).content) =
        ((columns item).filter (·.fieldType ≠ kVector)).map columnContent :=
    List.map_congr_left fun col hcol =>
      content_columnFilter (by simpa using (List.mem_filter.mp hcol).2)
  have hsplit := (List.filter_append_perm (·.fieldType = kVector) (columns item)).symm
  rw [indexes_toCollection, Indexes.contents, List.map_map, List.map_map]
  simp only [Function.comp_def]
  rw [hvector, hfilter, ← List.map_append]
  refine (hsplit.map columnContent).trans (.of_eq ?_)
  simp

/-! ### Messages -/

/-- The index status of a message, a default one when it is absent. -/
def statusOf (item : Olama.CreateCollectionRequest) : Olama.IndexStatus :=
  item.indexStatus.getD {}

/-- The embedding of a message, a default one when it is absent. -/
def embeddingOf (item : Olama.CreateCollectionRequest) : Olama.EmbeddingParams :=
  item.embeddingParams.getD {}

/-- The messages agree on every attribute that a collection has a member for, with their
columns in any order. -/
structure MessagesAgree (item item' : Olama.CreateCollectionRequest) : Prop where
  database : item.database = item'.database
  collection : item.collection = item'.collection
  aliasList : item.aliasList = item'.aliasList
  shardNum : item.shardNum = item'.shardNum
  replicaNum : item.replicaNum = item'.replicaNum
  description : item.description = item'.description
  size : item.size = item'.size
  createTime : item.createTime = item'.createTime
  indexStatus : statusOf item = statusOf item'
  embedding : embeddingOf item = embeddingOf item'
  columns : ((columns item).map columnContent).Perm ((columns item').map columnContent)

/-- The progress stays what it is in a fresh collection. -/
lemma indexStatus_toCollection (item : Olama.CreateCollectionRequest) :
    (toCollection item {}).indexStatus =
      { status := (statusOf item).status, startTime := (statusOf item).startTime } := by
  cases hstatus : item.indexStatus <;> simp [toCollection, statusOf, hstatus]

lemma embedding_toCollection (item : Olama.CreateCollectionRequest) :
    (toCollection item {}).embedding =
      { field := (embeddingOf item).field
        vectorField := (embeddingOf item).vectorField
        model := (embeddingOf item).modelName } := by
  cases hparams : item.embeddingParams <;> simp [toCollection, embeddingOf, hparams]

section Decoded

variable {item item' : Olama.CreateCollectionRequest}
  (h : toCollection item {} = toCollection item' {})
include h

lemma statusOf_eq (hprogress : (statusOf item).progress = (statusOf item').progress) :
    statusOf item = statusOf item' := by
  have hstatus := congrArg Collection.indexStatus h
  rw [indexStatus_toCollection, indexStatus_toCollection] at hstatus
  have hcode : (statusOf item).status = (statusOf item').status :=
    congrArg IndexStatus.status hstatus
  have hstart : (statusOf item).startTime = (statusOf item').startTime :=
    congrArg IndexStatus.startTime hstatus
  rw [Olama.IndexStatus.mk.injEq]
  exact ⟨hcode, hprogress, hstart⟩

lemma embeddingOf_eq : embeddingOf item = embeddingOf item' := by
  have hembedding := congrArg Collection.embedding h
  rw [embedding_toCollection, embedding_toCollection] at hembedding
  have hfield : (embeddingOf item).field = (embeddingOf item').field :=
    congrArg Embedding.field hembedding
  have hvector : (embeddingOf item).vectorField = (embeddingOf item').vectorField :=
    congrArg Embedding.vectorField hembedding
  have hmodel : (embeddingOf item).modelName = (embeddingOf item').modelName :=
    congrArg Embedding.model hembedding
  rw [Olama.EmbeddingParams.mk.injEq]
  exact ⟨hfield, hvector, hmodel⟩

lemma columns_perm_of_decoded :
    ((columns item).map columnContent).Perm ((columns item').map columnContent) := by
  have hcontents := columns_perm_contents item'
  rw [← h] at hcontents
  exact (columns_perm_contents item).trans hcontents.symm

/-- Two messages that are decoded into equal collections agree on every attribute that a
collection has a member for exactly when their index statuses have the same progress. -/
theorem decoded_equal_agree_iff :
    MessagesAgree item item' ↔ (statusOf item).progress = (statusOf item').progress := by
  constructor
  · intro hagree
    rw [hagree.indexStatus]
  · intro hprogress
    exact
      { database := congrArg Collection.database h
        collection := congrArg Collection.collectionName h
        aliasList := congrArg Collection.aliases h
        shardNum := congrArg Collection.shardNum h
        replicaNum := congrArg Collection.replicaNum h
        description := congrArg Collection.description h
        size := congrArg Collection.size h
        createTime := congrArg Collection.createTime h
        indexStatus := statusOf_eq h hprogress
        embedding := embeddingOf_eq h
        columns := columns_perm_of_decoded h }

end Decoded

/-- A message whose index is being rebuilt. -/
def rebuilding (progress : Str) : Olama.CreateCollectionRequest where
  database := "db".toList
  collection := "coll".toList
  indexStatus := some { status := "training".toList, progress := progress }

theorem decoded_equal_agree_sample :
    MessagesAgree (rebuilding "50%".toList)
      { rebuilding "50%".toList with embeddingParams := some {} } :=
  (@decoded_equal_agree_iff (rebuilding "50%".toList)
    { rebuilding "50%".toList with embeddingParams := some {} } rfl).mpr rfl

/-- The progress of a rebuild cannot be told from the collection. -/
theorem progress_is_lost :
    (toCollection (rebuilding "50%".toList) {}).indexStatus.progress = [] ∧
      ¬ ∀ item item' : Olama.CreateCollectionRequest,
        toCollection item {} = toCollection item' {} → MessagesAgree item item' := by
  refine ⟨rfl, ?_⟩
  intro h
  have hagree := h (rebuilding "50%".toList) (rebuilding "90%".toList) rfl
  exact absurd (congrArg Olama.IndexStatus.progress hagree.indexStatus) (by decide)

end VectorDb
