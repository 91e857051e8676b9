/-
The client's view of collections and databases: `collection.h`, `database.h` and `index.h`.

The structures keep the members that some function reads or writes.  A
`std::unique_ptr` is an `Option`, with `none` for the null pointer.
-/
import VectorDb.Types.Basic

namespace VectorDb

structure IndexParams where
  m : UInt32 := 0
  efConstruction : UInt32 := 0
  nList : UInt32 := 0
  nProbe : UInt32 := 0
deriving DecidableEq, Repr

structure FilterIndex where
  fieldName : Str := []
  fieldType : Str := []
  indexType : Str := []
  elemType : Str := []
deriving DecidableEq, Repr

structure VectorIndex where
  fieldName : Str := []
  fieldType : Str := []
  indexType : Str := []
  dimension : UInt32
  metricType : Str := []
  params : IndexParams := {}
  indexCount : UInt64
  elemType : Str := []
deriving DecidableEq, Repr

structure Indexes where
  vectorIndex : List VectorIndex := []
  filterIndex : List FilterIndex := []
deriving DecidableEq, Repr

structure IndexStatus where
  status : Str := []
  progress : Str := []
  startTime : Str := []
deriving DecidableEq, Repr

structure Embedding where
  field : Str := []
  vectorField : Str := []
  model : Str := []
  enabled : Bool := false
deriving DecidableEq, Repr

structure Collection where
  database : Str := []
  collectionName : Str := []
  documentCount : Int64 := 0
  /-- The member `alias`, whose name is a keyword here. -/
  aliases : List Str := []
  shardNum : UInt32 := 0
  replicaNum : UInt32 := 0
  indexes : Indexes := {}
  indexStatus : IndexStatus := {}
  embedding : Embedding := {}
  description : Str := []
  size : UInt64 := 0
  createTime : Str := []
deriving DecidableEq, Repr

structure CreateCollectionParams where
  embedding : Option Embedding
deriving DecidableEq, Repr

structure Database where
  name : Str
  createTime : Int64
deriving DecidableEq, Repr

structure RebuildIndexParams where
  dropBeforeRebuild : Bool := false
  throttle : Int32 := 0
deriving DecidableEq, Repr

/-! ### The results of the calls -/

structure CreateCollectionResult where
  success : Bool
  message : Str
  collection : Option Collection
deriving DecidableEq, Repr

structure ListCollectionResult where
  success : Bool
  message : Str
  collections : List Collection
deriving DecidableEq, Repr

structure DescribeCollectionResult where
  success : Bool
  message : Str
  collection : Option Collection
deriving DecidableEq, Repr

structure TruncateCollectionResult where
  success : Bool
  message : Str
  affectedCount : Int32
deriving DecidableEq, Repr

structure DropCollectionResult where
  success : Bool
  message : Str
  affectedCount : Int32
deriving DecidableEq, Repr

structure CreateDatabaseResult where
  success : Bool
  message : Str
  database : Database
  affectedCount : Int32
deriving DecidableEq, Repr

structure ListDatabaseResult where
  success : Bool
  message : Str
  databases : List Database
deriving DecidableEq, Repr

structure DropDatabaseResult where
  success : Bool
  message : Str
  affectedCount : Int32
deriving DecidableEq, Repr

structure RebuildIndexResult where
  success : Bool
  message : Str
  taskIds : List Str
deriving DecidableEq, Repr

end VectorDb
