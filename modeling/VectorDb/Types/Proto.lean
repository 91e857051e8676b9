/-
The messages of `olama.proto` that the client sends and receives.

A scalar field that is not set has its default value, a sub-message that is not set is
`none`, a `oneof` that is not set is `none`, and a `map` field is a finite map with an
arbitrary order of iteration.  A message keeps the fields that the client reads or writes.
-/
import VectorDb.Types.Basic

namespace Olama

open VectorDb (Str Double Single)

/-- The `oneof_val` of a field, when it is set. -/
inductive OneofVal where
  | valStr (s : Str)
  | valU64 (n : UInt64)
  | valDouble (d : Double)
  | valStrArr (l : List Str)
deriving DecidableEq, Repr

structure Field where
  oneofVal : Option OneofVal := none
deriving DecidableEq, Repr

/-- `mutable_val_str_arr()->add_str_arr(s)`: taking the mutable array sets the case of the
`oneof`, to an empty array when another case or none was set. -/
def Field.addStrArr (f : Field) (s : Str) : Field :=
  match f.oneofVal with
  | some (.valStrArr l) => ⟨some (.valStrArr (l ++ [s]))⟩
  | _ => ⟨some (.valStrArr [s])⟩

structure Document where
  id : Str := []
  vector : List Single := []
  score : Single := .zero
  fields : Map Str Field := ∅
deriving DecidableEq

structure EmbeddingParams where
  field : Str := []
  vectorField : Str := []
  modelName : Str := []
deriving DecidableEq, Repr

structure IndexParams where
  m : UInt32 := 0
  efConstruction : UInt32 := 0
  nprobe : UInt32 := 0
  nlist : UInt32 := 0
deriving DecidableEq, Repr

structure IndexColumn where
  fieldName : Str := []
  fieldType : Str := []
  indexType : Str := []
  dimension : UInt32 := 0
  metricType : Str := []
  params : Option IndexParams := none
  fieldElementType : Str := []
deriving DecidableEq, Repr

structure IndexStatus where
  status : Str := []
  progress : Str := []
  startTime : Str := []
deriving DecidableEq, Repr

structure CreateCollectionRequest where
  database : Str := []
  collection : Str := []
  replicaNum : UInt32 := 0
  shardNum : UInt32 := 0
  size : UInt64 := 0
  createTime : Str := []
  description : Str := []
  indexes : Map Str IndexColumn := ∅
  indexStatus : Option IndexStatus := none
  aliasList : List Str := []
  embeddingParams : Option EmbeddingParams := none
deriving DecidableEq

structure QueryCond where
  documentIds : List Str := []
  retrieveVector : Bool := false
  filter : Str := []
  limit : Int64 := 0
  offset : Int64 := 0
  outputFields : List Str := []
deriving DecidableEq, Repr

structure SearchParams where
  nprobe : UInt32 := 0
  ef : UInt32 := 0
  radius : Single := .zero
deriving DecidableEq, Repr

structure SearchCond where
  vectors : List (List Single) := []
  documentIds : List Str := []
  params : Option SearchParams := none
  filter : Str := []
  retrieveVector : Bool := false
  limit : UInt32 := 0
  outputfields : List Str := []
  embeddingItems : List Str := []
deriving DecidableEq, Repr

/-! ### The requests -/

inductive DataType where
  | base
  | aiDoc
deriving DecidableEq, Repr

structure DatabaseRequest where
  database : Str := []
  dbType : DataType := .base
deriving DecidableEq, Repr

structure ListCollectionsRequest where
  database : Str := []
deriving DecidableEq, Repr

structure DescribeCollectionRequest where
  database : Str := []
  collection : Str := []
deriving DecidableEq, Repr

structure TruncateCollectionRequest where
  database : Str := []
  collection : Str := []
deriving DecidableEq, Repr

structure DropCollectionRequest where
  database : Str := []
  collection : Str := []
deriving DecidableEq, Repr

structure RebuildIndexRequest where
  database : Str := []
  collection : Str := []
  dropBeforeRebuild : Bool := false
  throttle : Int32 := 0
deriving DecidableEq, Repr

structure UpsertRequest where
  database : Str := []
  collection : Str := []
  buildIndex : Bool := false
  documents : List Document := []
deriving DecidableEq

structure UpdateRequest where
  database : Str := []
  collection : Str := []
  query : Option QueryCond := none
  update : Option Document := none
deriving DecidableEq

structure DeleteRequest where
  database : Str := []
  collection : Str := []
  query : Option QueryCond := none
deriving DecidableEq, Repr

structure QueryRequest where
  database : Str := []
  collection : Str := []
  query : Option QueryCond := none
  readConsistency : Str := []
deriving DecidableEq, Repr

structure SearchRequest where
  database : Str := []
  collection : Str := []
  search : Option SearchCond := none
  readConsistency : Str := []
deriving DecidableEq, Repr

structure CountRequest where
  database : Str := []
  collection : Str := []
  query : Option QueryCond := none
deriving DecidableEq, Repr

/-! ### The responses -/

structure DatabaseItem where
  createTime : Int64 := 0
deriving DecidableEq, Repr

structure DatabaseResponse where
  code : Int32 := 0
  msg : Str := []
  databases : List Str := []
  affectedCount : UInt64 := 0
  info : Map Str DatabaseItem := ∅
deriving DecidableEq

structure CreateCollectionResponse where
  code : Int32 := 0
  msg : Str := []
deriving DecidableEq, Repr

structure ListCollectionsResponse where
  code : Int32 := 0
  msg : Str := []
  collections : List CreateCollectionRequest := []
deriving DecidableEq

structure DescribeCollectionResponse where
  code : Int32 := 0
  msg : Str := []
  collection : Option CreateCollectionRequest := none
deriving DecidableEq

structure TruncateCollectionResponse where
  code : Int32 := 0
  msg : Str := []
  affectedCount : UInt64 := 0
deriving DecidableEq, Repr

structure DropCollectionResponse where
  code : Int32 := 0
  msg : Str := []
  affectedCount : UInt64 := 0
deriving DecidableEq, Repr

structure RebuildIndexResponse where
  code : Int32 := 0
  msg : Str := []
  taskIds : List Str := []
deriving DecidableEq, Repr

structure UpsertResponse where
  code : Int32 := 0
  msg : Str := []
  affectedCount : UInt64 := 0
deriving DecidableEq, Repr

structure UpdateResponse where
  code : Int32 := 0
  msg : Str := []
  affectedCount : UInt64 := 0
deriving DecidableEq, Repr

structure DeleteResponse where
  code : Int32 := 0
  msg : Str := []
  affectedCount : UInt64 := 0
deriving DecidableEq, Repr

structure QueryResponse where
  code : Int32 := 0
  msg : Str := []
  documents : List Document := []
  count : UInt64 := 0
deriving DecidableEq

structure SearchResult where
  documents : List Document := []
deriving DecidableEq

structure SearchResponse where
  code : Int32 := 0
  msg : Str := []
  results : List SearchResult := []
  warning : Str := []
deriving DecidableEq

structure CountResponse where
  code : Int32 := 0
  msg : Str := []
  count : UInt64 := 0
deriving DecidableEq, Repr

end Olama
