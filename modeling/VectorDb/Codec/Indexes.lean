/-
Schemas in which names are repeated.

`createCollection` assigns the columns of all indexes to one map, first those of the vector
indexes and then those of the filter indexes, and checks neither the names nor the types.  So of
several indexes with one name the last one counts, a filter index before a vector index, and its
type alone decides in which list `toCollection` puts it (`last_index_wins`).
-/
import VectorDb.Codec.Schema

namespace VectorDb

/-- The column that counts for a name. -/
def lastColumn (indexes : Indexes) (name : Str) : Option Olama.IndexColumn :=
  match Map.lastWith (·.fieldName) indexes.filterIndex name with
  | some f => some (filterColumn f)
  | none => (Map.lastWith (·.fieldName) indexes.vectorIndex name).map vectorColumn

lemma lookup_requestIndexes (indexes : Indexes) (name : Str) :
    (requestIndexes indexes).lookup name = lastColumn indexes name := by
  have hfilter : ((indexes.filterIndex.map fun v => (v.fieldName, filterColumn v)).filter
      fun x => x.1 = name) =
        (indexes.filterIndex.filter fun v => v.fieldName = name).map
          fun v => (v.fieldName, filterColumn v) := by
    rw [List.filter_map]
    rfl
  have hvector : ((indexes.vectorIndex.map fun v => (v.fieldName, vectorColumn v)).filter
      fun x => x.1 = name) =
        (indexes.vectorIndex.filter fun v => v.fieldName = name).map
          fun v => (v.fieldName, vectorColumn v) := by
    rw [List.filter_map]
    rfl
  rw [requestIndexes_eq, Map.lookup_fill_last, Map.lastWith, requestColumns, List.filter_append,
    hfilter, hvector, List.getLast?_append, List.getLast?_map, List.getLast?_map, lastColumn]
  cases hlast : Map.lastWith (·.fieldName) indexes.filterIndex name with
  | some f =>
    rw [Map.lastWith] at hlast
    rw [hlast]
    rfl
  | none =>
    rw [Map.lastWith] at hlast
    rw [hlast, Option.map_none, Option.none_or, Option.map_map]
    rfl

/-- A column has the name that it is stored under. -/
lemma fieldName_lastColumn {indexes : Indexes} {name : Str} {col : Olama.IndexColumn}
    (h : lastColumn indexes name = some col) : col.fieldName = name := by
  unfold lastColumn at h
  cases hfilter : Map.lastWith (·.fieldName) indexes.filterIndex name with
  | some f =>
    have hname : f.fieldName = name := by
      simpa using (List.mem_filter.mp (List.mem_of_getLast? hfilter)).2
    rw [hfilter] at h
    rw [← Option.some.inj h, ← hname]
    rfl
  | none =>
    rw [hfilter] at h
    obtain ⟨v, hv, rfl⟩ := Option.map_eq_some_iff.mp h
    have hname : v.fieldName = name := by
      simpa using (List.mem_filter.mp (List.mem_of_getLast? hv)).2
    exact hname

section Item

variable {indexes : Indexes} {item : Olama.CreateCollectionRequest}

lemma mem_columns_iff (hitem : item.indexes.entries.Perm (requestIndexes indexes).entries)
    (col : Olama.IndexColumn) :
    col ∈ columns item ↔ ∃ name, lastColumn indexes name = some col := by
  have hlookup : ∀ name, (⟨name, col⟩ : Σ _ : Str, Olama.IndexColumn) ∈ item.indexes.entries ↔
      lastColumn indexes name = some col := by
    intro name
    rw [hitem.mem_iff, ← lookup_requestIndexes, Map.lookup_eq_some]
  constructor
  · intro hcol
    obtain ⟨⟨name, col⟩, he, rfl⟩ := List.mem_map.mp hcol
    exact ⟨name, (hlookup name).mp he⟩
  · rintro ⟨name, hname⟩
    exact List.mem_map.mpr ⟨⟨name, col⟩, (hlookup name).mpr hname, rfl⟩

/-- There is one column for each name. -/
lemma names_columns_perm (hitem : item.indexes.entries.Perm (requestIndexes indexes).entries) :
    ((columns item).map (·.fieldName)).Perm indexes.names.dedup := by
  have hkeys : (columns item).map (·.fieldName) = item.indexes.entries.map Sigma.fst := by
    rw [columns, List.map_map]
    refine List.map_congr_left fun e he => ?_
    have hlookup : (requestIndexes indexes).lookup e.1 = some e.2 :=
      Map.lookup_eq_some.mpr (hitem.mem_iff.mp he)
    rw [lookup_requestIndexes] at hlookup
    exact fieldName_lastColumn hlookup
  have hperm := hitem.map Sigma.fst
  rw [hkeys, ← map_fst_requestColumns]
  refine hperm.trans ?_
  rw [requestIndexes_eq]
  exact Map.keys_fill_perm (requestColumns indexes)

lemma fieldName_columnFilter (col : Olama.IndexColumn) :
    (columnFilter col).fieldName = col.fieldName := by
  unfold columnFilter
  split <;> rfl

end Item

/-- **The last index wins.**  Whatever indexes `createCollection` is given, `toCollection` reads
one index for each name from its request: that of the last filter index with the name, or of the
last vector index if there is none, in the list that its type asks for. -/
theorem last_index_wins (client : RpcClient) (dbName collectionName : Str)
    (shardNum replicaNum : UInt32) (description : Str) (indexes : Indexes)
    (params : Option CreateCollectionParams) (timeout : Int32)
    (item : Olama.CreateCollectionRequest)
    (hitem : SchemaStoredAs (client.createCollection dbName collectionName shardNum replicaNum
      description indexes params timeout).request item) :
    (toCollection item {}).indexes.names.Perm indexes.names.dedup ∧
    (∀ v, v ∈ (toCollection item {}).indexes.vectorIndex ↔
      ∃ name col, lastColumn indexes name = some col ∧ col.fieldType = kVector ∧
        v = columnVector item.size col) ∧
    ∀ f, f ∈ (toCollection item {}).indexes.filterIndex ↔
      ∃ name col, lastColumn indexes name = some col ∧ col.fieldType ≠ kVector ∧
        f = columnFilter col := by
  obtain ⟨hentries, -⟩ := hitem
  have hentries : item.indexes.entries.Perm (requestIndexes indexes).entries := hentries
  rw [indexes_toCollection]
  refine ⟨?_, ?_, ?_⟩
  · -- the two lists have the names of the columns, in another order
    refine .trans ?_ (names_columns_perm hentries)
    have hsplit := (List.filter_append_perm
      (fun col : Olama.IndexColumn => decide (col.fieldType = kVector))
        (columns item)).map (·.fieldName)
    rw [List.map_append] at hsplit
    simpa [Indexes.names, columnVector, fieldName_columnFilter, Function.comp_def] using hsplit
  · intro v
    simp only [List.mem_map, List.mem_filter, decide_eq_true_eq, mem_columns_iff hentries]
    constructor
    · rintro ⟨col, ⟨⟨name, hname⟩, htype⟩, rfl⟩
      exact ⟨name, col, hname, htype, rfl⟩
    · rintro ⟨name, col, hname, htype, rfl⟩
      exact ⟨col, ⟨⟨name, hname⟩, htype⟩, rfl⟩
  · intro f
    simp only [List.mem_map, List.mem_filter, decide_eq_true_eq, mem_columns_iff hentries]
    constructor
    · rintro ⟨col, ⟨⟨name, hname⟩, htype⟩, rfl⟩
      exact ⟨name, col, hname, htype, rfl⟩
    · rintro ⟨name, col, hname, htype, rfl⟩
      exact ⟨col, ⟨⟨name, hname⟩, htype⟩, rfl⟩

/-- A vector index and two filter indexes for one name. -/
def repeatedIndexes : Indexes where
  vectorIndex := sampleIndexes.vectorIndex
  filterIndex :=
    [{ fieldName := "vector".toList, fieldType := kArray, indexType := "filter".toList },
      { fieldName := "vector".toList, fieldType := kString, indexType := "filter".toList }]

theorem last_index_wins_repeated :
    (toCollection (RpcClient.createCollection {} "db".toList "coll".toList 1 2 []
      repeatedIndexes none 5000).request {}).indexes.names.Perm ["vector".toList] :=
  (last_index_wins {} "db".toList "coll".toList 1 2 [] repeatedIndexes none 5000 _
    ⟨.refl _, rfl⟩).1.trans (by decide)

end VectorDb
