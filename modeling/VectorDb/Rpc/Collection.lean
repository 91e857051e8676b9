/-
The calls on collections and on their indexes: `rpc_collection.cpp` and `rpc_index.cpp`.
-/
import VectorDb.Rpc.Call
import VectorDb.Rpc.Client
import VectorDb.Helper

namespace VectorDb

open CallResult (setSuccess setMessage)

instance : Reply Olama.CreateCollectionResponse := ⟨(·.code), (·.msg)⟩

instance : Reply Olama.ListCollectionsResponse := ⟨(·.code), (·.msg)⟩

instance : Reply Olama.DescribeCollectionResponse := ⟨(·.code), (·.msg)⟩

instance : Reply Olama.TruncateCollectionResponse := ⟨(·.code), (·.msg)⟩

instance : Reply Olama.DropCollectionResponse := ⟨(·.code), (·.msg)⟩

instance : Reply Olama.RebuildIndexResponse := ⟨(·.code), (·.msg)⟩

instance : CallResult CreateCollectionResult where
  success := (·.success)
  message := (·.message)
  setSuccess b r := { r with success := b }
  setMessage s r := { r with message := s }

instance : CallResult ListCollectionResult where
  success := (·.success)
  message := (·.message)
  setSuccess b r := { r with success := b }
  setMessage s r := { r with message := s }

instance : CallResult DescribeCollectionResult where
  success := (·.success)
  message := (·.message)
  setSuccess b r := { r with success := b }
  setMessage s r := { r with message := s }

instance : CallResult TruncateCollectionResult where
  success := (·.success)
  message := (·.message)
  setSuccess b r := { r with success := b }
  setMessage s r := { r with message := s }

instance : CallResult DropCollectionResult where
  success := (·.success)
  message := (·.message)
  setSuccess b r := { r with success := b }
  setMessage s r := { r with message := s }

instance : CallResult RebuildIndexResult where
  success := (·.success)
  message := (·.message)
  setSuccess b r := { r with success := b }
  setMessage s r := { r with message := s }

/-! ### The schema of a new collection -/

/-- The column that `createCollection` sends for a vector index. -/
def vectorColumn (v : VectorIndex) : Olama.IndexColumn :=
  { fieldName := v.fieldName
    fieldType := v.fieldType
    indexType := v.indexType
    dimension := v.dimension
    metricType := v.metricType
    params := some
      { m := v.params.m
        efConstruction := v.params.efConstruction
        nlist := v.params.nList
        nprobe := v.params.nProbe } }

/-- The column that `createCollection` sends for a filter index. -/
def filterColumn (v : FilterIndex) : Olama.IndexColumn :=
  { fieldName := v.fieldName
    fieldType := v.fieldType
    indexType := v.indexType
    fieldElementType := if v.fieldType = kArray then kString else [] }

/-- The `indexes` of the request, filled by one loop over the vector indexes and one over
the filter indexes. -/
def requestIndexes (indexes : Indexes) : Map Str Olama.IndexColumn :=
  Map.fill (·.fieldName) filterColumn indexes.filterIndex
    (Map.fill (·.fieldName) vectorColumn indexes.vectorIndex ∅)

/-- The embedding of the request, when both pointers that lead to it are set. -/
def requestEmbedding (params : Option CreateCollectionParams) : Option Olama.EmbeddingParams :=
  match params with
  | none => none
  | some params =>
      match params.embedding with
      | none => none
      | some embedding => some
          { field := embedding.field
            vectorField := embedding.vectorField
            modelName := embedding.model }

namespace RpcClient

/-- `RpcClient::createCollection`. -/
def createCollection (_self : RpcClient) (dbName collectionName : Str)
    (shardNum replicaNum : UInt32) (description : Str) (indexes : Indexes)
    (params : Option CreateCollectionParams) (timeout : Int32) :
    Call Olama.CreateCollectionRequest Olama.CreateCollectionResponse
      CreateCollectionResult where
  request :=
    { database := dbName
      collection := collectionName
      shardNum := shardNum
      replicaNum := replicaNum
      description := description
      indexes := requestIndexes indexes
      embeddingParams := requestEmbedding params }
  timeout := timeout
  onStatus := "Fail to create collection: "
  onCode := "Fail to create collection: "
  accept _ response :=
    let collection : Collection :=
      { database := dbName
        collectionName := collectionName
        shardNum := shardNum
        replicaNum := replicaNum
        description := description
        indexes := indexes }
    ⟨0, [setSuccess true, setMessage response.msg,
      fun r => { r with collection := some collection }]⟩

/-- `RpcClient::listCollections`. -/
def listCollections (_self : RpcClient) (dbName : Str) (timeout : Int32) :
    Call Olama.ListCollectionsRequest Olama.ListCollectionsResponse
      ListCollectionResult where
  request := { database := dbName }
  timeout := timeout
  onStatus := "Fail to list collections: "
  onCode := "Fail to list collection: "
  accept _ response :=
    let collections := response.collections.map fun c => toCollection c {}
    ⟨0, [setSuccess true, setMessage response.msg,
      fun r => { r with collections := collections }]⟩

/-- `RpcClient::describeCollection`. -/
def describeCollection (_self : RpcClient) (dbName collectionName : Str) (timeout : Int32) :
    Call Olama.DescribeCollectionRequest Olama.DescribeCollectionResponse
      DescribeCollectionResult where
  request := { database := dbName, collection := collectionName }
  timeout := timeout
  onStatus := "Fail to describe collection: "
  onCode := "Fail to describe collection: "
  accept _ response :=
    match response.collection with
    | none => fail "Fail to get collection.".toList
    | some c =>
        ⟨0, [setSuccess true, setMessage response.msg,
          fun r => { r with collection := some (toCollection c {}) }]⟩

/-- `RpcClient::truncateCollection`. -/
def truncateCollection (_self : RpcClient) (dbName collectionName : Str) (timeout : Int32) :
    Call Olama.TruncateCollectionRequest Olama.TruncateCollectionResponse
      TruncateCollectionResult where
  request := { database := dbName, collection := collectionName }
  timeout := timeout
  onStatus := "Fail to truncate collection: "
  onCode := "Fail to truncate collection: "
  accept _ response :=
    ⟨0, [setSuccess true, setMessage response.msg,
      fun r => { r with affectedCount := response.affectedCount.toUInt32.toInt32 }]⟩

/-- `RpcClient::dropCollection`. -/
def dropCollection (_self : RpcClient) (dbName collectionName : Str) (timeout : Int32) :
    Call Olama.DropCollectionRequest Olama.DropCollectionResponse
      DropCollectionResult where
  request := { database := dbName, collection := collectionName }
  timeout := timeout
  onStatus := "Fail to drop collection: "
  onCode := "Fail to drop collection: "
  accept _ response :=
    ⟨0, [setSuccess true, setMessage response.msg,
      fun r => { r with affectedCount := response.affectedCount.toUInt32.toInt32 }]⟩

/-- `RpcClient::rebuildIndex`. -/
def rebuildIndex (_self : RpcClient) (dbName collectionName : Str)
    (params : Option RebuildIndexParams) (timeout : Int32) :
    Call Olama.RebuildIndexRequest Olama.RebuildIndexResponse RebuildIndexResult where
  request :=
    match params with
    | none => { database := dbName, collection := collectionName }
    | some params =>
        { database := dbName
          collection := collectionName
          dropBeforeRebuild := params.dropBeforeRebuild
          throttle := params.throttle }
  timeout := timeout
  onStatus := "Fail to rebuild index: "
  onCode := "Fail to rebuild index: "
  accept _ response :=
    ⟨0, [setSuccess true, setMessage response.msg,
      fun r => { r with taskIds := response.taskIds }]⟩

end RpcClient

end VectorDb
