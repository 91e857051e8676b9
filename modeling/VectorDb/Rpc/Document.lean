/-
The calls on documents: `rpc_document.cpp`.

A loop that adds the elements of a vector to a repeated field that was just created is
written as the list of its elements.
-/
import VectorDb.Rpc.Call
import VectorDb.Rpc.Client
import VectorDb.Helper

namespace VectorDb

open CallResult (setSuccess setMessage)

instance : Reply Olama.UpsertResponse := ⟨(·.code), (·.msg)⟩

instance : Reply Olama.QueryResponse := ⟨(·.code), (·.msg)⟩

instance : Reply Olama.DeleteResponse := ⟨(·.code), (·.msg)⟩

instance : Reply Olama.UpdateResponse := ⟨(·.code), (·.msg)⟩

instance : Reply Olama.SearchResponse := ⟨(·.code), (·.msg)⟩

instance : Reply Olama.CountResponse := ⟨(·.code), (·.msg)⟩

instance : CallResult UpsertDocumentResult where
  success := (·.success)
  message := (·.message)
  setSuccess b r := { r with success := b }
  setMessage s r := { r with message := s }

instance : CallResult QueryDocumentResult where
  success := (·.success)
  message := (·.message)
  setSuccess b r := { r with success := b }
  setMessage s r := { r with message := s }

instance : CallResult DeleteDocumentResult where
  success := (·.success)
  message := (·.message)
  setSuccess b r := { r with success := b }
  setMessage s r := { r with message := s }

instance : CallResult UpdateDocumentResult where
  success := (·.success)
  message := (·.message)
  setSuccess b r := { r with success := b }
  setMessage s r := { r with message := s }

instance : CallResult SearchDocumentResult where
  success := (·.success)
  message := (·.message)
  setSuccess b r := { r with success := b }
  setMessage s r := { r with message := s }

instance : CallResult CountResult where
  success := (·.success)
  message := (·.message)
  setSuccess b r := { r with success := b }
  setMessage s r := { r with message := s }

/-! ### Documents on the wire -/

/-- The loop over the fields of a document that is sent: convert each value into a new
field and store it under its key. -/
def encodeFields (fields : Map Str Field) : Map Str Olama.Field :=
  Map.fill (fun e => e.1) (fun e => convertField2Proto e.2 {}) fields.entries ∅

/-- The loop over the fields of a document that was received. -/
def decodeFields (fields : Map Str Olama.Field) : Map Str Field :=
  Map.fill (fun e => e.1) (fun e => convertProto2Field e.2 {}) fields.entries ∅

/-- The document that `upsert` sends. -/
def upsertDocument (doc : Document) : Olama.Document :=
  { id := doc.id, fields := encodeFields doc.fields, vector := doc.vector }

/-- The document that `update` sends. -/
def updateDocument (params : UpdateDocumentParams) : Olama.Document :=
  { vector := params.updateVector, fields := encodeFields params.updateFields }

/-- The document that `query` makes of a document of the response. -/
def queryDocument (doc : Olama.Document) : Document :=
  { id := doc.id, vector := doc.vector, fields := decodeFields doc.fields }

/-- The document that `search` makes of a document of the response. -/
def searchDocument (doc : Olama.Document) : Document :=
  { id := doc.id, vector := doc.vector, score := doc.score, fields := decodeFields doc.fields }

/-! ### The calls -/

namespace RpcClient

/-- `RpcClient::upsert`. -/
def upsert (_self : RpcClient) (dbName collectionName : Str) (documents : List Document)
    (params : Option UpsertDocumentParams) (timeout : Int32) :
    Call Olama.UpsertRequest Olama.UpsertResponse UpsertDocumentResult where
  request :=
    { database := dbName
      collection := collectionName
      documents := documents.map upsertDocument
      buildIndex :=
        match params with
        | some params => params.buildIndex
        | none => true }
  timeout := timeout
  onStatus := "Fail to upsert documents: "
  onCode := "Fail to upsert documents: "
  accept _ response :=
    ⟨0, [setSuccess true, setMessage response.msg,
      fun r => { r with affectedCount := response.affectedCount.toUInt32.toInt32 }]⟩

/-- `RpcClient::query`. -/
def query (self : RpcClient) (dbName collectionName : Str) (documentIds : List Str)
    (params : Option QueryDocumentParams) (timeout : Int32) :
    Call Olama.QueryRequest Olama.QueryResponse QueryDocumentResult where
  request :=
    let queryCond : Olama.QueryCond := { documentIds := documentIds }
    { database := dbName
      collection := collectionName
      readConsistency := self.option.readConsistency
      query := some <|
        match params with
        | none => queryCond
        | some params =>
            { queryCond with
              filter :=
                match params.filter with
                | some filter => filter.cond
                | none => queryCond.filter
              retrieveVector := params.retrieveVector
              outputFields := params.outputFields
              offset := params.offset
              limit := params.limit } }
  timeout := timeout
  onStatus := "Fail to query documents: "
  onCode := "Fail to query documents: "
  accept _ response :=
    let documents := response.documents.map queryDocument
    -- neither the flag nor the message is assigned on this path
    ⟨0, [fun r => { r with documents := documents },
      fun r => { r with total := response.count }]⟩

/-- `RpcClient::dele`. -/
def dele (_self : RpcClient) (dbName collectionName : Str)
    (params : Option DeleteDocumentParams) (timeout : Int32) :
    Call Olama.DeleteRequest Olama.DeleteResponse DeleteDocumentResult where
  request :=
    { database := dbName
      collection := collectionName
      query :=
        match params with
        | none => none
        | some params => some
            { documentIds := params.documentIds
              filter :=
                match params.filter with
                | some filter => filter.cond
                | none => []
              limit := if params.limit > 0 then params.limit else 0 } }
  timeout := timeout
  onStatus := "Fail to dele documents: "
  onCode := "Fail to dele documents: "
  accept _ response :=
    ⟨0, [setSuccess true, setMessage response.msg,
      fun r => { r with affectedCount := response.affectedCount.toUInt32.toInt32 }]⟩

/-- `RpcClient::update`. -/
def update (_self : RpcClient) (dbName collectionName : Str)
    (params : Option UpdateDocumentParams) (timeout : Int32) :
    Call Olama.UpdateRequest Olama.UpdateResponse UpdateDocumentResult where
  request :=
    match params with
    | none => { database := dbName, collection := collectionName }
    | some params =>
        { database := dbName
          collection := collectionName
          query := some
            { documentIds := params.queryIds
              filter :=
                match params.queryFilter with
                | some filter => filter.cond
                | none => [] }
          update := some (updateDocument params) }
  timeout := timeout
  onStatus := "Fail to update documents: "
  onCode := "Fail to update documents: "
  accept _ response :=
    ⟨0, [setSuccess true, setMessage response.msg,
      fun r => { r with affectedCount := response.affectedCount.toUInt32.toInt32 }]⟩

/-- `RpcClient::search`.  The argument `text` is a sorted map, given by its entries in the
order of the keys. -/
def search (self : RpcClient) (dbName collectionName : Str) (documentIds : List Str)
    (vectors : List (List Single)) (text : List (Str × List Str))
    (params : Option SearchDocumentParams) (timeout : Int32) :
    Call Olama.SearchRequest Olama.SearchResponse SearchDocumentResult where
  request :=
    let searchCond : Olama.SearchCond :=
      { documentIds := documentIds
        vectors := vectors
        embeddingItems := text.flatMap (·.2) }
    { database := dbName
      collection := collectionName
      readConsistency := self.option.readConsistency
      search := some <|
        match params with
        | none => searchCond
        | some params =>
            { searchCond with
              filter :=
                match params.filter with
                | some filter => filter.cond
                | none => searchCond.filter
              retrieveVector := params.retrieveVector
              outputfields := params.outputFields
              -- from `int64_t` to `uint32`
              limit := params.limit.toUInt64.toUInt32
              params :=
                match params.searchParams with
                | some searchParams => some
                    { nprobe := searchParams.nprobe.toUInt32
                      ef := searchParams.ef.toUInt32
                      radius := searchParams.radius }
                | none => none } }
  timeout := timeout
  onStatus := "Fail to search documents: "
  onCode := "Fail to search documents: "
  accept _ response :=
    -- each result set is pushed to the documents that the object already has
    ⟨0, (fun r => { r with warning := response.warning }) ::
      (response.results.map fun resultSet (r : SearchDocumentResult) =>
        { r with documents := r.documents ++ [resultSet.documents.map searchDocument] }) ++
      [setSuccess true, setMessage response.msg]⟩

/-- `RpcClient::count`. -/
def count (_self : RpcClient) (dbName collectionName : Str) (filter : Option Filter)
    (timeout : Int32) :
    Call Olama.CountRequest Olama.CountResponse CountResult where
  request :=
    { database := dbName
      collection := collectionName
      query :=
        match filter with
        | none => none
        | some filter => some { filter := filter.cond } }
  timeout := timeout
  onStatus := "Fail to count documents: "
  onCode := "Fail to count documents: "
  accept _ response :=
    ⟨0, [setSuccess true, setMessage response.msg,
      fun r => { r with count := response.count }]⟩

end RpcClient

end VectorDb
