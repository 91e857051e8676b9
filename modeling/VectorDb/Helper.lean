/-
The conversions between the client's types and the wire messages: `helper.cpp`.

A function of the source that writes through an output pointer takes the pointee as its
last argument and returns its new value.
-/
import VectorDb.Types.Collection
import VectorDb.Types.Document
import VectorDb.Types.Proto

namespace VectorDb

/-! ### Fields -/

/-- `convertField2Proto`. -/
def convertField2Proto (field : Field) (protoField : Olama.Field) : Olama.Field :=
  if field.hasValDouble then
    { protoField with oneofVal := some (.valDouble field.getValDouble) }
  else if field.hasValStr then
    { protoField with oneofVal := some (.valStr field.getValStr) }
  else if field.hasValU64 then
    { protoField with oneofVal := some (.valU64 field.getValU64) }
  else if field.hasValStrArr then
    field.getValStrArr.foldl (fun protoField str => protoField.addStrArr str) protoField
  else
    protoField

/-- `convertProto2Field`. -/
def convertProto2Field (protoField : Olama.Field) (field : Field) : Field :=
  match protoField.oneofVal with
  | some (.valStr s) => field.setValStr s
  | some (.valU64 n) => field.setValU64 n
  | some (.valDouble d) => field.setValDouble d
  | some (.valStrArr l) =>
      field.setValStrArr (l.foldl (fun strArr str => strArr ++ [str]) [])
  | none => field

/-! ### Collections -/

/-- The vector index that `toCollection` makes of a column. -/
def columnVector (size : UInt64) (index : Olama.IndexColumn) : VectorIndex :=
  { fieldName := index.fieldName
    fieldType := index.fieldType
    indexType := index.indexType
    dimension := index.dimension
    metricType := index.metricType
    indexCount := size
    params :=
      match index.params with
      | some p =>
          { m := p.m
            efConstruction := p.efConstruction
            nList := p.nlist
            nProbe := p.nprobe }
      | none => {} }

/-- The filter index that `toCollection` makes of a column; only an array has elements. -/
def columnFilter (index : Olama.IndexColumn) : FilterIndex :=
  if index.fieldType = kArray then
    { fieldName := index.fieldName
      fieldType := index.fieldType
      indexType := index.indexType
      elemType := index.fieldElementType }
  else
    { fieldName := index.fieldName
      fieldType := index.fieldType
      indexType := index.indexType }

/-- The body of the loop of `toCollection` over the indexes of a collection whose `size` is
given. -/
def addIndex (size : UInt64) (indexes : Indexes) (index : Olama.IndexColumn) : Indexes :=
  if index.fieldType = kVector then
    { indexes with vectorIndex := indexes.vectorIndex ++ [columnVector size index] }
  else
    { indexes with filterIndex := indexes.filterIndex ++ [columnFilter index] }

/-- `toCollection`. -/
def toCollection (item : Olama.CreateCollectionRequest) (collection : Collection) :
    Collection :=
  { database := item.database
    collectionName := item.collection
    documentCount := item.size.toInt64
    aliases := item.aliasList
    shardNum := item.shardNum
    replicaNum := item.replicaNum
    description := item.description
    size := item.size
    embedding :=
      match item.embeddingParams with
      | some p =>
          { field := p.field
            vectorField := p.vectorField
            model := p.modelName
            enabled := false }
      | none => collection.embedding
    indexStatus :=
      match item.indexStatus with
      | some s =>
          { collection.indexStatus with
            status := s.status
            startTime := s.startTime }
      | none => collection.indexStatus
    createTime := item.createTime
    indexes := item.indexes.entries.foldl (fun indexes e => addIndex item.size indexes e.2)
      collection.indexes }

end VectorDb
