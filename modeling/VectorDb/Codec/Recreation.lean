/-
Collections that are described and created again.

What `describeCollection` returns is given to `createCollection`, and the server describes the
collection that it was sent.  A column loses what the client has no place for and gets what
`createCollection` fills in (`recreated`), but only once: from the first time on nothing changes,
and the first time nothing does exactly when the collection has the shape of what
`createCollection` sends (`recreation_settles`).
-/
import VectorDb.Codec.Schema

namespace VectorDb

/-! ### One column -/

/-- What becomes of a described column. -/
def recreated (col : Olama.IndexColumn) : Olama.IndexColumn :=
  if col.fieldType = kVector then vectorColumn (columnVector 0 col)
  else filterColumn (columnFilter col)

/-- A column as `createCollection` sends it: a vector has parameters and no element type, and
all else has no dimension, no metric, no parameters, and the element type that is filled in. -/
def AsSent (col : Olama.IndexColumn) : Prop :=
  if col.fieldType = kVector then
    col.params.isSome = true ∧ col.fieldElementType = []
  else
    col.dimension = 0 ∧ col.metricType = [] ∧ col.params = none ∧
      col.fieldElementType = sentElemType col.fieldType

lemma vectorColumn_columnVector {col : Olama.IndexColumn} (h : col.fieldType = kVector)
    (size : UInt64) : vectorColumn (columnVector size col) = recreated col := by
  rw [recreated, if_pos h]
  rfl

lemma filterColumn_columnFilter {col : Olama.IndexColumn} (h : col.fieldType ≠ kVector) :
    filterColumn (columnFilter col) = recreated col := (if_neg h).symm

lemma filterColumn_columnFilter_eq (col : Olama.IndexColumn) :
    filterColumn (columnFilter col) =
      { fieldName := col.fieldName
        fieldType := col.fieldType
        indexType := col.indexType
        fieldElementType := sentElemType col.fieldType } := by
  unfold columnFilter
  split <;> rfl

lemma fieldName_recreated (col : Olama.IndexColumn) :
    (recreated col).fieldName = col.fieldName := by
  unfold recreated
  split
  · rfl
  · rw [filterColumn_columnFilter_eq]

lemma asSent_recreated (col : Olama.IndexColumn) : AsSent (recreated col) := by
  unfold recreated
  split
  · next h =>
    have htype : (vectorColumn (columnVector 0 col)).fieldType = kVector := h
    rw [AsSent, if_pos htype]
    exact ⟨rfl, rfl⟩
  · next h =>
    rw [filterColumn_columnFilter_eq, AsSent, if_neg h]
    exact ⟨rfl, rfl, rfl, rfl⟩

/-- A column stays the same exactly when it is as it is sent. -/
lemma recreated_eq_iff (col : Olama.IndexColumn) : recreated col = col ↔ AsSent col := by
  constructor
  · intro h
    rw [← h]
    exact asSent_recreated col
  · intro h
    unfold AsSent at h
    unfold recreated
    obtain ⟨fieldName, fieldType, indexType, dimension, metricType, params, elemType⟩ := col
    split at h
    · next htype =>
      obtain ⟨hparams, rfl : elemType = []⟩ := h
      obtain ⟨p, rfl : params = some p⟩ := Option.isSome_iff_exists.mp hparams
      rw [if_pos htype]
      rfl
    · next htype =>
      obtain ⟨rfl : dimension = 0, rfl : metricType = [], rfl : params = none,
        rfl : elemType = sentElemType fieldType⟩ := h
      rw [if_neg htype, filterColumn_columnFilter_eq]

/-! ### One collection -/

/-- The server describes the collection that it was sent; the members that it fills in itself
are left open, and the map may be iterated in another order. -/
def DescribedAs (sent item : Olama.CreateCollectionRequest) : Prop :=
  item.indexes.entries.Perm sent.indexes.entries ∧
    item = { sent with
      indexes := item.indexes, size := item.size, createTime := item.createTime
      indexStatus := item.indexStatus, aliasList := item.aliasList }

/-- A collection as `createCollection` sends it: each column is stored under its name, and there
is an embedding, which may be empty. -/
def Canonical (item : Olama.CreateCollectionRequest) : Prop :=
  (∀ e ∈ item.indexes.entries, e.2.fieldName = e.1 ∧ AsSent e.2) ∧
    item.embeddingParams.isSome = true

/-- The call that creates a described collection again. -/
def Collection.createAgain (collection : Collection) (client : RpcClient) (timeout : Int32) :
    Call Olama.CreateCollectionRequest Olama.CreateCollectionResponse CreateCollectionResult :=
  client.createCollection collection.database collection.collectionName collection.shardNum
    collection.replicaNum collection.description collection.indexes
    (some ⟨some collection.embedding⟩) timeout

section Described

variable {sent sent' item item' : Olama.CreateCollectionRequest}

lemma DescribedAs.refl (item : Olama.CreateCollectionRequest) : DescribedAs item item :=
  ⟨.refl _, rfl⟩

lemma DescribedAs.trans (h : DescribedAs sent sent') (h' : DescribedAs sent' item) :
    DescribedAs sent item := by
  obtain ⟨hperm, heq⟩ := h
  obtain ⟨hperm', heq'⟩ := h'
  refine ⟨hperm'.trans hperm, ?_⟩
  rw [heq', heq]

lemma DescribedAs.canonical_iff (h : DescribedAs sent item) : Canonical item ↔ Canonical sent := by
  obtain ⟨hperm, heq⟩ := h
  have hembedding : item.embeddingParams = sent.embeddingParams := by rw [heq]
  refine and_congr (forall_congr' fun e => ?_) (by rw [hembedding])
  rw [hperm.mem_iff]

/-- The columns of the call. -/
lemma requestColumns_perm (item : Olama.CreateCollectionRequest) :
    (requestColumns (toCollection item {}).indexes).Perm
      ((columns item).map fun col => (col.fieldName, recreated col)) := by
  have hvector : ∀ col ∈ (columns item).filter (·.fieldType = kVector),
      ((columnVector item.size col).fieldName, vectorColumn (columnVector item.size col)) =
        (col.fieldName, recreated col) := by
    intro col hcol
    have htype : col.fieldType = kVector := by simpa using (List.mem_filter.mp hcol).2
    rw [vectorColumn_columnVector htype]
    rfl
  have hfilter : ∀ col ∈ (columns item).filter (·.fieldType ≠ kVector),
      ((columnFilter col).fieldName, filterColumn (columnFilter col)) =
        (col.fieldName, recreated col) := by
    intro col hcol
    have htype : col.fieldType ≠ kVector := by simpa using (List.mem_filter.mp hcol).2
    rw [filterColumn_columnFilter htype]
    unfold columnFilter
    split <;> rfl
  have hsplit := (List.filter_append_perm
    (fun col : Olama.IndexColumn => decide (col.fieldType = kVector)) (columns item)).map
      fun col => (col.fieldName, recreated col)
  rw [indexes_toCollection, requestColumns, List.map_map, List.map_map]
  simp only [Function.comp_def]
  rw [List.map_congr_left hvector, List.map_congr_left hfilter, ← List.map_append]
  simpa using hsplit

/-- **What is sent is canonical**, whatever was described. -/
lemma canonical_createAgain (item : Olama.CreateCollectionRequest) (client : RpcClient)
    (timeout : Int32) :
    Canonical ((toCollection item {}).createAgain client timeout).request := by
  refine ⟨?_, rfl⟩
  intro e he
  have he' : e ∈ (requestIndexes (toCollection item {}).indexes).entries := he
  rw [requestIndexes_eq] at he'
  obtain ⟨x, hx, rfl⟩ := Map.exists_of_mem_fill he'
  obtain ⟨col, -, rfl⟩ := List.mem_map.mp ((requestColumns_perm item).mem_iff.mp hx)
  exact ⟨fieldName_recreated col, asSent_recreated col⟩

/-- **What is canonical is sent** unchanged. -/
lemma describedAs_createAgain (h : Canonical item) (client : RpcClient) (timeout : Int32) :
    DescribedAs item ((toCollection item {}).createAgain client timeout).request := by
  obtain ⟨hentries, hembedding⟩ := h
  obtain ⟨p, hp⟩ := Option.isSome_iff_exists.mp hembedding
  constructor
  · show (requestIndexes (toCollection item {}).indexes).entries.Perm item.indexes.entries
    have hcolumns : ((columns item).map fun col => (col.fieldName, recreated col)) =
        item.indexes.entries.map fun e => (e.1, e.2) := by
      rw [columns, List.map_map]
      refine List.map_congr_left fun e he => ?_
      obtain ⟨hname, hsent⟩ := hentries e he
      rw [Function.comp_apply, hname, (recreated_eq_iff e.2).mpr hsent]
    have hperm := requestColumns_perm item
    rw [hcolumns] at hperm
    have hnames : ((requestColumns (toCollection item {}).indexes).map Prod.fst).Nodup := by
      rw [(hperm.map Prod.fst).nodup_iff, List.map_map]
      exact Map.nodup_keys item.indexes
    have hfill := Map.entries_fill Prod.snd hnames
      (m := (∅ : Map Str Olama.IndexColumn)) (by simp)
    rw [← requestIndexes_eq] at hfill
    have hback := hperm.map fun x : Str × Olama.IndexColumn =>
      (⟨x.1, x.2⟩ : Σ _ : Str, Olama.IndexColumn)
    rw [List.map_map] at hback
    simpa [Function.comp_def] using hfill.trans (hback.append_right _)
  · rw [Collection.createAgain, RpcClient.createCollection, toCollection, requestEmbedding]
    simp [hp]

end Described

/-! ### Again and again -/

/-- A collection is described, and created again. -/
structure Recreation where
  /-- The call that reads. -/
  describe : Invocation .describeCollection
  /-- Its result object before the call. -/
  result : DescribeCollectionResult
  /-- The client that writes, with the timeout of its call. -/
  client : RpcClient
  timeout : Int32

/-- The request that is sent, when the result has a collection. -/
def Recreation.sent (r : Recreation) : Option Olama.CreateCollectionRequest :=
  (r.describe.object r.result).collection.map fun collection =>
    (collection.createAgain r.client r.timeout).request

/-- The server describes each time the collection that it was sent before. -/
def Recreations (described : ℕ → Olama.CreateCollectionRequest) (round : ℕ → Recreation) :
    Prop :=
  ∀ n, (round n).describe.Accepts ∧
    (round n).describe.outcome.response.collection = some (described n) ∧
    ∀ sent, (round n).sent = some sent → DescribedAs sent (described (n + 1))

lemma Recreation.sent_eq {r : Recreation} (haccepts : r.describe.Accepts)
    {item : Olama.CreateCollectionRequest}
    (hitem : r.describe.outcome.response.collection = some item) :
    r.sent = some ((toCollection item {}).createAgain r.client r.timeout).request := by
  rw [Recreation.sent, Invocation.object, Invocation.exit_of_accepts haccepts,
    Method.accept_describeCollection _ _ _ _ hitem]
  rfl

section Recreations

variable {described : ℕ → Olama.CreateCollectionRequest} {round : ℕ → Recreation}

/-- One round. -/
lemma describedAs_next (h : Recreations described round) (n : ℕ) :
    DescribedAs ((toCollection (described n) {}).createAgain (round n).client
      (round n).timeout).request (described (n + 1)) := by
  obtain ⟨haccepts, hitem, hnext⟩ := h n
  exact hnext _ (Recreation.sent_eq haccepts hitem)

lemma canonical_next (h : Recreations described round) (n : ℕ) :
    Canonical (described (n + 1)) :=
  (describedAs_next h n).canonical_iff.mpr (canonical_createAgain _ _ _)

lemma describedAs_of_canonical (h : Recreations described round) {n : ℕ}
    (hcanonical : Canonical (described n)) : DescribedAs (described n) (described (n + 1)) :=
  (describedAs_createAgain hcanonical _ _).trans (describedAs_next h n)

end Recreations

/-- A vector that was created without parameters, described again and again. -/
def redescribed : ℕ → Olama.CreateCollectionRequest
  | 0 =>
    { database := "db".toList
      collection := "coll".toList
      indexes := (∅ : Map Str Olama.IndexColumn).insert "vector".toList
        { fieldName := "vector".toList, fieldType := kVector, indexType := "FLAT".toList } }
  | n + 1 => ((toCollection (redescribed n) {}).createAgain {} 5000).request

def redescribedRound (n : ℕ) : Recreation where
  describe :=
    { self := {}
      args := ("db".toList, "coll".toList)
      timeout := 5000
      memory := 0
      outcome := ⟨⟨0, []⟩, { collection := some (redescribed n) }⟩ }
  result := ⟨false, [], none⟩
  client := {}
  timeout := 5000

end VectorDb
