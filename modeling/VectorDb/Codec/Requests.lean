/-
What the requests tell apart.

A request is a message, and the entries of a map in a message have no order.  Two calls of a
method hand over the same request exactly when their arguments differ in what the method does
not put into it: a missing filter and an empty one, parameters left out and their default values,
the limits of two searches that agree modulo `2 ^ 32`, the indexes that a later one of the same
name covers (`same_request_iff`).  No two documents with different contents are confused, also
not an empty array and an empty string, which the decoder does not tell apart.  Of a session the
library gets the calls with their deadlines, and nothing of the other steps
(`sessions_look_same_iff`).
-/
import VectorDb.Codec.Document
import VectorDb.Codec.Indexes
import VectorDb.Lib.Wrap
import VectorDb.Rpc.Auth

namespace VectorDb

/-! ### The same message -/

/-- The messages differ at most in the order of the fields. -/
def SameDocument (doc doc' : Olama.Document) : Prop :=
  Map.Same doc.fields doc'.fields ∧ { doc with fields := ∅ } = { doc' with fields := ∅ }

/-- The requests differ at most in the order of the entries of their maps. -/
def Method.SameRequest : (m : Method) → m.Req → m.Req → Prop
  | createCollection, request, request' =>
      Map.Same request.indexes request'.indexes ∧
        { request with indexes := ∅ } = { request' with indexes := ∅ }
  | upsert, request, request' =>
      List.Forall₂ SameDocument request.documents request'.documents ∧
        { request with documents := [] } = { request' with documents := [] }
  | update, request, request' =>
      Option.Rel SameDocument request.update request'.update ∧
        { request with update := none } = { request' with update := none }
  | _, request, request' => request = request'

/-! ### The same call -/

/-- The text of a filter that may be left out. -/
def filterText (filter : Option Filter) : Str :=
  match filter with
  | some filter => filter.cond
  | none => []

/-- The parameters of a query that is given none. -/
def noQueryParams : QueryDocumentParams where
  filter := none
  retrieveVector := false
  outputFields := []
  offset := 0
  limit := 0

/-- The parameters of a search that is given none. -/
def noSearchParams : SearchDocumentParams where
  filter := none
  searchParams := none
  retrieveVector := false
  outputFields := []
  limit := 0

/-- An upsert builds the index unless it is told not to. -/
def buildsIndex (params : Option UpsertDocumentParams) : Bool :=
  (params.map (·.buildIndex)).getD true

def SameQuery (params params' : QueryDocumentParams) : Prop :=
  filterText params.filter = filterText params'.filter ∧
    { params with filter := none } = { params' with filter := none }

/-- A limit that is not positive is none. -/
def SameDelete (params params' : DeleteDocumentParams) : Prop :=
  filterText params.filter = filterText params'.filter ∧
    params.documentIds = params'.documentIds ∧
    (params.limit = params'.limit ∨ params.limit ≤ 0 ∧ params'.limit ≤ 0)

def SameUpdate (params params' : UpdateDocumentParams) : Prop :=
  filterText params.queryFilter = filterText params'.queryFilter ∧
    params.queryIds = params'.queryIds ∧ params.updateVector = params'.updateVector ∧
    Map.Same params.updateFields params'.updateFields

/-- The limit is sent with 32 bits. -/
def SameSearch (params params' : SearchDocumentParams) : Prop :=
  filterText params.filter = filterText params'.filter ∧
    params.limit.toInt % 2 ^ 32 = params'.limit.toInt % 2 ^ 32 ∧
    { params with filter := none, limit := 0 } = { params' with filter := none, limit := 0 }

/-- The index that counts for a name, without the members that are not sent. -/
def Indexes.lastIndex (indexes : Indexes) (name : Str) : Option (FilterIndex ⊕ VectorIndex) :=
  match Map.lastWith (·.fieldName) indexes.filterIndex name with
  | some f => some (.inl { f with elemType := [] })
  | none =>
      (Map.lastWith (·.fieldName) indexes.vectorIndex name).map fun v =>
        .inr { v with indexCount := 0, elemType := [] }

/-- The embedding of a new collection, without the member that is not sent. -/
def embeddingOfParams (params : Option CreateCollectionParams) : Option Embedding :=
  (params.bind (·.embedding)).map fun embedding => { embedding with enabled := false }

/-- Two calls of a method mean the same: they differ in what the method does not send. -/
def Method.SameCall (self self' : RpcClient) : (m : Method) → m.Args → m.Args → Prop
  | createCollection, (db, coll, shardNum, replicaNum, description, indexes, params),
      (db', coll', shardNum', replicaNum', description', indexes', params') =>
      (db, coll, shardNum, replicaNum, description) =
          (db', coll', shardNum', replicaNum', description') ∧
        (∀ name, indexes.lastIndex name = indexes'.lastIndex name) ∧
        embeddingOfParams params = embeddingOfParams params'
  | rebuildIndex, (db, coll, params), (db', coll', params') =>
      (db, coll) = (db', coll') ∧ params.getD {} = params'.getD {}
  | upsert, (db, coll, documents, params), (db', coll', documents', params') =>
      (db, coll) = (db', coll') ∧ List.Forall₂ SameContent documents documents' ∧
        buildsIndex params = buildsIndex params'
  | query, (db, coll, ids, params), (db', coll', ids', params') =>
      (db, coll, ids) = (db', coll', ids') ∧
        self.option.readConsistency = self'.option.readConsistency ∧
        SameQuery (params.getD noQueryParams) (params'.getD noQueryParams)
  | dele, (db, coll, params), (db', coll', params') =>
      (db, coll) = (db', coll') ∧ Option.Rel SameDelete params params'
  | update, (db, coll, params), (db', coll', params') =>
      (db, coll) = (db', coll') ∧ Option.Rel SameUpdate params params'
  | search, (db, coll, ids, vectors, text, params), (db', coll', ids', vectors', text', params') =>
      (db, coll, ids, vectors) = (db', coll', ids', vectors') ∧
        self.option.readConsistency = self'.option.readConsistency ∧
        -- the keys of the texts are not sent
        text.flatMap (·.2) = text'.flatMap (·.2) ∧
        SameSearch (params.getD noSearchParams) (params'.getD noSearchParams)
  | _, args, args' => args = args'

/-! ### Documents -/

/-- The encoder loses nothing of a field: a field that is not set stands for an empty array. -/
lemma convertField2Proto_injective :
    Function.Injective fun field => convertField2Proto field {} := by
  have hback : Function.LeftInverse
      (fun p : Olama.Field =>
        if p.oneofVal = none then ⟨.strArr []⟩ else convertProto2Field p {})
      fun field => convertField2Proto field {} := by
    rintro ⟨s | n | d | l⟩
    case strArr =>
      simp only [convertField2Proto_strArr]
      by_cases hl : l = []
      · simp [hl]
      · simp [hl, convertProto2Field_strArr]
    all_goals rfl
  exact hback.injective

lemma encodeFields_same_iff {fields fields' : Map Str Field} :
    Map.Same (encodeFields fields) (encodeFields fields') ↔ Map.Same fields fields' :=
  Map.same_fill_copy_iff convertField2Proto_injective

lemma sameDocument_upsert_iff {doc doc' : Document} :
    SameDocument (upsertDocument doc) (upsertDocument doc') ↔ SameContent doc doc' := by
  rw [SameDocument, upsertDocument, upsertDocument, encodeFields_same_iff, SameContent]
  simp only [Olama.Document.mk.injEq, and_true]
  exact ⟨fun ⟨hfields, hid, hvector⟩ => ⟨hid.symm, hvector.symm, fun k => (hfields k).symm⟩,
    fun ⟨hid, hvector, hfields⟩ => ⟨fun k => (hfields k).symm, hid.symm, hvector.symm⟩⟩

/-! ### Indexes -/

lemma filterColumn_eq_iff (f f' : FilterIndex) :
    filterColumn f = filterColumn f' ↔ { f with elemType := [] } = { f' with elemType := [] } := by
  simp only [filterColumn, Olama.IndexColumn.mk.injEq, FilterIndex.mk.injEq, true_and, and_true]
  constructor
  · rintro ⟨hname, htype, hindex, -⟩
    exact ⟨hname, htype, hindex⟩
  · rintro ⟨hname, htype, hindex⟩
    -- the type of the elements is that of the field
    exact ⟨hname, htype, hindex, by rw [htype]⟩

lemma vectorColumn_eq_iff (v v' : VectorIndex) :
    vectorColumn v = vectorColumn v' ↔
      { v with indexCount := 0, elemType := [] } =
        { v' with indexCount := 0, elemType := [] } := by
  have hparams : ∀ p p' : IndexParams,
      ({ m := p.m, efConstruction := p.efConstruction, nlist := p.nList, nprobe := p.nProbe } :
          Olama.IndexParams) =
        { m := p'.m, efConstruction := p'.efConstruction, nlist := p'.nList,
          nprobe := p'.nProbe } ↔ p = p' := by
    rintro ⟨_, _, _, _⟩ ⟨_, _, _, _⟩
    simp only [Olama.IndexParams.mk.injEq, IndexParams.mk.injEq]
    constructor
    · rintro ⟨hm, hconstruction, hprobe, hlist⟩
      exact ⟨hm, hconstruction, hlist, hprobe⟩
    · rintro ⟨hm, hconstruction, hlist, hprobe⟩
      exact ⟨hm, hconstruction, hprobe, hlist⟩
  simp only [vectorColumn, Olama.IndexColumn.mk.injEq, Option.some_inj, hparams,
    VectorIndex.mk.injEq, and_true]

/-- Only a vector index has parameters. -/
lemma filterColumn_ne_vectorColumn (f : FilterIndex) (v : VectorIndex) :
    filterColumn f ≠ vectorColumn v :=
  fun h => nomatch congrArg (·.params) h

lemma lastColumn_eq_iff (indexes indexes' : Indexes) (name : Str) :
    lastColumn indexes name = lastColumn indexes' name ↔
      indexes.lastIndex name = indexes'.lastIndex name := by
  unfold lastColumn Indexes.lastIndex
  -- in each schema a filter index counts, or else a vector index, or there is none
  cases Map.lastWith (·.fieldName) indexes.filterIndex name <;>
    cases Map.lastWith (·.fieldName) indexes'.filterIndex name <;>
    cases Map.lastWith (·.fieldName) indexes.vectorIndex name <;>
    cases Map.lastWith (·.fieldName) indexes'.vectorIndex name <;>
    simp [filterColumn_eq_iff, vectorColumn_eq_iff, filterColumn_ne_vectorColumn,
      (filterColumn_ne_vectorColumn _ _).symm]

lemma requestEmbedding_eq_iff (params params' : Option CreateCollectionParams) :
    requestEmbedding params = requestEmbedding params' ↔
      embeddingOfParams params = embeddingOfParams params' := by
  unfold requestEmbedding embeddingOfParams
  rcases params with - | ⟨- | e⟩ <;> rcases params' with - | ⟨- | e'⟩ <;> simp

/-! ### Requests -/

section Requests

variable (self self' : RpcClient) (timeout timeout' : Int32)

lemma request_upsert (db coll : Str) (documents : List Document)
    (params : Option UpsertDocumentParams) :
    (self.upsert db coll documents params timeout).request =
      { database := db
        collection := coll
        documents := documents.map upsertDocument
        buildIndex := buildsIndex params } := by
  cases params <;> rfl

/-- The condition that a query sends. -/
def queryCond (ids : List Str) (params : QueryDocumentParams) : Olama.QueryCond where
  documentIds := ids
  filter := filterText params.filter
  retrieveVector := params.retrieveVector
  outputFields := params.outputFields
  offset := params.offset
  limit := params.limit

lemma request_query (db coll : Str) (ids : List Str) (params : Option QueryDocumentParams) :
    (self.query db coll ids params timeout).request =
      { database := db
        collection := coll
        readConsistency := self.option.readConsistency
        query := some (queryCond ids (params.getD noQueryParams)) } := by
  rcases params with - | ⟨- | f, _, _, _, _⟩ <;> rfl

/-- The parameters of the index that a search sends. -/
def requestSearchParams (p : SearchParms) : Olama.SearchParams where
  nprobe := p.nprobe.toUInt32
  ef := p.ef.toUInt32
  radius := p.radius

/-- The condition that a search sends. -/
def searchCond (ids : List Str) (vectors : List (List Single)) (items : List Str)
    (params : SearchDocumentParams) : Olama.SearchCond where
  documentIds := ids
  vectors := vectors
  embeddingItems := items
  filter := filterText params.filter
  retrieveVector := params.retrieveVector
  outputfields := params.outputFields
  limit := params.limit.toUInt64.toUInt32
  params := params.searchParams.map requestSearchParams

lemma request_search (db coll : Str) (ids : List Str) (vectors : List (List Single))
    (text : List (Str × List Str)) (params : Option SearchDocumentParams) :
    (self.search db coll ids vectors text params timeout).request =
      { database := db
        collection := coll
        readConsistency := self.option.readConsistency
        search := some
          (searchCond ids vectors (text.flatMap (·.2)) (params.getD noSearchParams)) } := by
  rcases params with - | ⟨- | f, - | p, _, _, _⟩ <;> rfl

/-- The limit that a deletion sends. -/
def sentLimit (limit : Int64) : Int64 := if limit > 0 then limit else 0

lemma sentLimit_eq_iff (n n' : Int64) :
    sentLimit n = sentLimit n' ↔ n = n' ∨ n ≤ 0 ∧ n' ≤ 0 := by
  simp only [sentLimit, gt_iff_lt, Int64.lt_iff_toInt_lt, Int64.le_iff_toInt_le,
    ← Int64.toInt_inj, apply_ite Int64.toInt, Int64.toInt_zero]
  split <;> split <;> omega

/-- The condition that a deletion sends. -/
def deleteCond (params : DeleteDocumentParams) : Olama.QueryCond where
  documentIds := params.documentIds
  filter := filterText params.filter
  limit := sentLimit params.limit

lemma request_dele (db coll : Str) (params : Option DeleteDocumentParams) :
    (self.dele db coll params timeout).request =
      { database := db, collection := coll, query := params.map deleteCond } := by
  rcases params with - | ⟨_, - | f, _⟩ <;> rfl

/-- The condition that an update sends. -/
def updateCond (params : UpdateDocumentParams) : Olama.QueryCond where
  documentIds := params.queryIds
  filter := filterText params.queryFilter

lemma request_update (db coll : Str) (params : Option UpdateDocumentParams) :
    (self.update db coll params timeout).request =
      { database := db
        collection := coll
        query := params.map updateCond
        update := params.map updateDocument } := by
  rcases params with - | ⟨_, - | f, _, _⟩ <;> rfl

lemma request_rebuildIndex (db coll : Str) (params : Option RebuildIndexParams) :
    (self.rebuildIndex db coll params timeout).request =
      { database := db
        collection := coll
        dropBeforeRebuild := (params.getD {}).dropBeforeRebuild
        throttle := (params.getD {}).throttle } := by
  cases params <;> rfl

lemma request_count (db coll : Str) (filter : Option Filter) :
    (self.count db coll filter timeout).request =
      { database := db
        collection := coll
        query := filter.map fun filter => { filter := filter.cond } } := by
  cases filter <;> rfl

lemma same_request_createCollection_iff (args args' : Method.createCollection.Args) :
    Method.createCollection.SameRequest
        (Method.createCollection.call self args timeout).request
        (Method.createCollection.call self' args' timeout').request ↔
      Method.createCollection.SameCall self self' args args' := by
  obtain ⟨db, coll, shardNum, replicaNum, description, indexes, params⟩ := args
  obtain ⟨db', coll', shardNum', replicaNum', description', indexes', params'⟩ := args'
  have hindexes : Map.Same (requestIndexes indexes) (requestIndexes indexes') ↔
      ∀ name, indexes.lastIndex name = indexes'.lastIndex name := by
    refine forall_congr' fun name => ?_
    rw [lookup_requestIndexes, lookup_requestIndexes, lastColumn_eq_iff]
  simp only [Method.SameRequest, Method.SameCall, Method.call, RpcClient.createCollection,
    hindexes, ← requestEmbedding_eq_iff, Olama.CreateCollectionRequest.mk.injEq, Prod.mk.injEq,
    true_and]
  constructor
  · rintro ⟨hlast, hdb, hcoll, hreplicaNum, hshardNum, hdescription, hembedding⟩
    exact ⟨⟨hdb, hcoll, hshardNum, hreplicaNum, hdescription⟩, hlast, hembedding⟩
  · rintro ⟨⟨hdb, hcoll, hshardNum, hreplicaNum, hdescription⟩, hlast, hembedding⟩
    exact ⟨hlast, hdb, hcoll, hreplicaNum, hshardNum, hdescription, hembedding⟩

lemma same_request_upsert_iff (args args' : Method.upsert.Args) :
    Method.upsert.SameRequest (Method.upsert.call self args timeout).request
        (Method.upsert.call self' args' timeout').request ↔
      Method.upsert.SameCall self self' args args' := by
  obtain ⟨db, coll, documents, params⟩ := args
  obtain ⟨db', coll', documents', params'⟩ := args'
  have hdocuments : List.Forall₂ SameDocument (documents.map upsertDocument)
      (documents'.map upsertDocument) ↔ List.Forall₂ SameContent documents documents' := by
    rw [List.forall₂_map_left_iff, List.forall₂_map_right_iff]
    simp only [sameDocument_upsert_iff]
  simp only [Method.SameRequest, Method.SameCall, Method.call, request_upsert, hdocuments,
    Olama.UpsertRequest.mk.injEq, Prod.mk.injEq, and_true]
  constructor
  · rintro ⟨hcontent, hdb, hcoll, hbuilds⟩
    exact ⟨⟨hdb, hcoll⟩, hcontent, hbuilds⟩
  · rintro ⟨⟨hdb, hcoll⟩, hcontent, hbuilds⟩
    exact ⟨hcontent, hdb, hcoll, hbuilds⟩

/-- The condition of a query tells its identifiers and parameters. -/
lemma queryCond_eq_iff (ids ids' : List Str) (params params' : QueryDocumentParams) :
    queryCond ids params = queryCond ids' params' ↔ ids = ids' ∧ SameQuery params params' := by
  simp only [queryCond, SameQuery, Olama.QueryCond.mk.injEq, QueryDocumentParams.mk.injEq,
    true_and]
  constructor
  · rintro ⟨hids, hretrieve, hfilter, hlimit, hoffset, hfields⟩
    exact ⟨hids, hfilter, hretrieve, hfields, hoffset, hlimit⟩
  · rintro ⟨hids, hfilter, hretrieve, hfields, hoffset, hlimit⟩
    exact ⟨hids, hretrieve, hfilter, hlimit, hoffset, hfields⟩

lemma same_request_query_iff (args args' : Method.query.Args) :
    Method.query.SameRequest (Method.query.call self args timeout).request
        (Method.query.call self' args' timeout').request ↔
      Method.query.SameCall self self' args args' := by
  obtain ⟨db, coll, ids, params⟩ := args
  obtain ⟨db', coll', ids', params'⟩ := args'
  simp only [Method.SameRequest, Method.SameCall, Method.call, request_query, queryCond_eq_iff,
    Olama.QueryRequest.mk.injEq, Option.some_inj, Prod.mk.injEq]
  constructor
  · rintro ⟨hdb, hcoll, ⟨hids, hparams⟩, hread⟩
    exact ⟨⟨hdb, hcoll, hids⟩, hread, hparams⟩
  · rintro ⟨⟨hdb, hcoll, hids⟩, hread, hparams⟩
    exact ⟨hdb, hcoll, ⟨hids, hparams⟩, hread⟩

/-- The parameters of a search lose nothing: a change of sign keeps the 32 bits. -/
lemma requestSearchParams_injective : Function.Injective requestSearchParams := by
  rintro ⟨⟨_⟩, ⟨_⟩, _⟩ ⟨⟨_⟩, ⟨_⟩, _⟩ h
  simpa [requestSearchParams] using h

/-- The condition of a search tells its identifiers, vectors and texts, and its parameters but
for the upper half of the limit. -/
lemma searchCond_eq_iff (ids ids' : List Str) (vectors vectors' : List (List Single))
    (items items' : List Str) (params params' : SearchDocumentParams) :
    searchCond ids vectors items params = searchCond ids' vectors' items' params' ↔
      (ids = ids' ∧ vectors = vectors') ∧ items = items' ∧ SameSearch params params' := by
  simp only [searchCond, SameSearch, Olama.SearchCond.mk.injEq, SearchDocumentParams.mk.injEq,
    (Option.map_injective requestSearchParams_injective).eq_iff,
    Wrap.toUInt64_toUInt32_inj_iff, true_and, and_true]
  constructor
  · rintro ⟨hvectors, hids, hparams, hfilter, hretrieve, hlimit, hfields, hitems⟩
    exact ⟨⟨hids, hvectors⟩, hitems, hfilter, hlimit, hparams, hretrieve, hfields⟩
  · rintro ⟨⟨hids, hvectors⟩, hitems, hfilter, hlimit, hparams, hretrieve, hfields⟩
    exact ⟨hvectors, hids, hparams, hfilter, hretrieve, hlimit, hfields, hitems⟩

lemma same_request_search_iff (args args' : Method.search.Args) :
    Method.search.SameRequest (Method.search.call self args timeout).request
        (Method.search.call self' args' timeout').request ↔
      Method.search.SameCall self self' args args' := by
  obtain ⟨db, coll, ids, vectors, text, params⟩ := args
  obtain ⟨db', coll', ids', vectors', text', params'⟩ := args'
  simp only [Method.SameRequest, Method.SameCall, Method.call, request_search,
    searchCond_eq_iff, Olama.SearchRequest.mk.injEq, Option.some_inj, Prod.mk.injEq]
  constructor
  · rintro ⟨hdb, hcoll, ⟨⟨hids, hvectors⟩, hitems, hparams⟩, hread⟩
    exact ⟨⟨hdb, hcoll, hids, hvectors⟩, hread, hitems, hparams⟩
  · rintro ⟨⟨hdb, hcoll, hids, hvectors⟩, hread, hitems, hparams⟩
    exact ⟨hdb, hcoll, ⟨⟨hids, hvectors⟩, hitems, hparams⟩, hread⟩

/-- The condition of a deletion tells its parameters but for a limit that is not positive. -/
lemma deleteCond_eq_iff (params params' : DeleteDocumentParams) :
    deleteCond params = deleteCond params' ↔ SameDelete params params' := by
  simp only [deleteCond, SameDelete, Olama.QueryCond.mk.injEq, sentLimit_eq_iff, true_and,
    and_true]
  exact and_left_comm

lemma same_request_dele_iff (args args' : Method.dele.Args) :
    Method.dele.SameRequest (Method.dele.call self args timeout).request
        (Method.dele.call self' args' timeout').request ↔
      Method.dele.SameCall self self' args args' := by
  obtain ⟨db, coll, params⟩ := args
  obtain ⟨db', coll', params'⟩ := args'
  have hquery : params.map deleteCond = params'.map deleteCond ↔
      Option.Rel SameDelete params params' := by
    cases params <;> cases params' <;> simp [deleteCond_eq_iff]
  simp only [Method.SameRequest, Method.SameCall, Method.call, request_dele, hquery,
    Olama.DeleteRequest.mk.injEq, Prod.mk.injEq, and_assoc]

lemma sameDocument_update_iff (params params' : UpdateDocumentParams) :
    SameDocument (updateDocument params) (updateDocument params') ↔
      params.updateVector = params'.updateVector ∧
        Map.Same params.updateFields params'.updateFields := by
  rw [SameDocument, updateDocument, updateDocument, encodeFields_same_iff]
  simp only [Olama.Document.mk.injEq, true_and, and_true]
  exact and_comm

/-- The condition and the content of an update tell its parameters. -/
lemma update_eq_iff (params params' : UpdateDocumentParams) :
    (updateCond params = updateCond params' ∧
        SameDocument (updateDocument params) (updateDocument params')) ↔
      SameUpdate params params' := by
  simp only [updateCond, SameUpdate, sameDocument_update_iff, Olama.QueryCond.mk.injEq, true_and,
    and_true]
  constructor
  · rintro ⟨⟨hids, hfilter⟩, hvector, hfields⟩
    exact ⟨hfilter, hids, hvector, hfields⟩
  · rintro ⟨hfilter, hids, hvector, hfields⟩
    exact ⟨⟨hids, hfilter⟩, hvector, hfields⟩

lemma same_request_update_iff (args args' : Method.update.Args) :
    Method.update.SameRequest (Method.update.call self args timeout).request
        (Method.update.call self' args' timeout').request ↔
      Method.update.SameCall self self' args args' := by
  obtain ⟨db, coll, params⟩ := args
  obtain ⟨db', coll', params'⟩ := args'
  have hboth : (params.map updateCond = params'.map updateCond ∧
      Option.Rel SameDocument (params.map updateDocument) (params'.map updateDocument)) ↔
        Option.Rel SameUpdate params params' := by
    cases params <;> cases params' <;> simp [update_eq_iff]
  simp only [Method.SameRequest, Method.SameCall, Method.call, request_update, ← hboth,
    Olama.UpdateRequest.mk.injEq, Prod.mk.injEq, and_true]
  constructor
  · rintro ⟨hupdate, hdb, hcoll, hquery⟩
    exact ⟨⟨hdb, hcoll⟩, hquery, hupdate⟩
  · rintro ⟨⟨hdb, hcoll⟩, hquery, hupdate⟩
    exact ⟨hupdate, hdb, hcoll, hquery⟩

/-- **What the requests tell apart.**  Two calls of a method, by any two clients, hand over the
same request exactly when their arguments differ in what the method does not put into it. -/
theorem Method.same_request_iff (m : Method) (args args' : m.Args) :
    m.SameRequest (m.call self args timeout).request (m.call self' args' timeout').request ↔
      m.SameCall self self' args args' := by
  cases m
  case createCollection => exact same_request_createCollection_iff self self' timeout timeout' _ _
  case upsert => exact same_request_upsert_iff self self' timeout timeout' _ _
  case query => exact same_request_query_iff self self' timeout timeout' _ _
  case dele => exact same_request_dele_iff self self' timeout timeout' _ _
  case update => exact same_request_update_iff self self' timeout timeout' _ _
  case search => exact same_request_search_iff self self' timeout timeout' _ _
  case rebuildIndex =>
    obtain ⟨db, coll, params⟩ := args
    obtain ⟨db', coll', params'⟩ := args'
    simp only [SameRequest, SameCall, call, request_rebuildIndex,
      Olama.RebuildIndexRequest.mk.injEq, Prod.mk.injEq, and_assoc]
    obtain ⟨dropBeforeRebuild, throttle⟩ := params.getD {}
    obtain ⟨dropBeforeRebuild', throttle'⟩ := params'.getD {}
    simp
  case count =>
    obtain ⟨db, coll, - | ⟨⟨text⟩⟩⟩ := args <;> obtain ⟨db', coll', - | ⟨⟨text'⟩⟩⟩ := args' <;>
      simp [SameRequest, SameCall, call, request_count]
  case listDatabases => exact iff_of_true rfl rfl
  case createDatabase | dropDatabase | listCollections =>
    simp [SameRequest, SameCall, call, RpcClient.createDatabase, RpcClient.dropDatabase,
      RpcClient.listCollections]
  case describeCollection | truncateCollection | dropCollection =>
    simp [SameRequest, SameCall, call, RpcClient.describeCollection,
      RpcClient.truncateCollection, RpcClient.dropCollection, Prod.ext_iff]

end Requests

/-! ### Sessions -/

/-- Two values that belong to one method, and are related there. -/
inductive AtOneMethod {T : Method → Type} (R : (m : Method) → T m → T m → Prop) :
    (Σ m, T m) → (Σ m, T m) → Prop
  | intro {m : Method} {x x' : T m} (h : R m x x') : AtOneMethod R ⟨m, x⟩ ⟨m, x'⟩

lemma atOneMethod_iff {T T' : Method → Type} {R : (m : Method) → T m → T m → Prop}
    {R' : (m : Method) → T' m → T' m → Prop} {f g : (m : Method) → T m → T' m}
    (h : ∀ m x x', R' m (f m x) (g m x') ↔ R m x x') (x x' : Σ m, T m) :
    AtOneMethod R' ⟨x.1, f x.1 x.2⟩ ⟨x'.1, g x'.1 x'.2⟩ ↔ AtOneMethod R x x' := by
  obtain ⟨m, x⟩ := x
  obtain ⟨m', x'⟩ := x'
  constructor
  · rintro ⟨hR⟩
    exact ⟨(h _ _ _).mp hR⟩
  · rintro ⟨hR⟩
    exact ⟨(h _ _ _).mpr hR⟩

/-- The method, the arguments and the timeout of a step that is a call. -/
def Step.made : Step → Option ((Σ m : Method, m.Args) × Option Int32)
  | call m args timeout => some (⟨m, args⟩, timeout)
  | _ => none

/-- The calls of a session, in their order. -/
def callsMade (steps : List Step) : List ((Σ m : Method, m.Args) × Option Int32) :=
  steps.filterMap Step.made

namespace Connection

/-- Two calls, each handed over by its client, look the same: they are for one address with one
entry of the interceptor, and have the same time to the deadline and the same request. -/
def SameHanded (k k' : Connection) (x x' : StubCall) : Prop :=
  (rpcTarget k.url = rpcTarget k'.url ∧
    k.factory.createClientInterceptor.entry = k'.factory.createClientInterceptor.entry) ∧
    x.timeout = x'.timeout ∧ AtOneMethod Method.SameRequest x.request x'.request

/-- Two clients talk to the same server with the same token. -/
def SameUser (k k' : Connection) : Prop :=
  rpcTarget k.url = rpcTarget k'.url ∧
    authToken (k.username, k.key) = authToken (k'.username, k'.key)

/-- Two calls, each by its client, mean the same and have the same time; a timeout that is left
out is a second, whatever the client is set to. -/
def CallsAgree (k k' : Connection) (x x' : (Σ m : Method, m.Args) × Option Int32) : Prop :=
  x.2.getD 1000 = x'.2.getD 1000 ∧
    AtOneMethod (Method.SameCall { option := k.clientOption } { option := k'.clientOption })
      x.1 x'.1

/-- What a call should hand over. -/
def askedBy (k : Connection) (channel : Channel) (x : (Σ m : Method, m.Args) × Option Int32) :
    StubCall where
  channel := channel
  timeout := x.2.getD 1000
  request := ⟨x.1.1, (x.1.1.call { option := k.clientOption } x.1.2 0).request⟩

lemma filterMap_asked (k : Connection) (channel : Channel) (steps : List Step) :
    steps.filterMap (k.asked channel) = (callsMade steps).map (k.askedBy channel) := by
  have hstep : ∀ i, k.asked channel i = i.made.map (k.askedBy channel) := by
    rintro (timeout | _ | ⟨m, args, timeout⟩) <;> rfl
  rw [callsMade, List.map_filterMap, funext hstep]

lemma entry_eq_iff (k k' : Connection) :
    k.factory.createClientInterceptor.entry = k'.factory.createClientInterceptor.entry ↔
      authToken (k.username, k.key) = authToken (k'.username, k'.key) :=
  ⟨congrArg Prod.snd, congrArg (Prod.mk _)⟩

lemma sameHanded_askedBy_iff (k k' : Connection) (channel channel' : Channel)
    (x x' : (Σ m : Method, m.Args) × Option Int32) :
    k.SameHanded k' (k.askedBy channel x) (k'.askedBy channel' x') ↔
      k.SameUser k' ∧ k.CallsAgree k' x x' := by
  have hcalls := atOneMethod_iff
    (fun m args args' => m.same_request_iff { option := k.clientOption }
      { option := k'.clientOption } 0 0 args args') x.1 x'.1
  rw [SameHanded, SameUser, CallsAgree, entry_eq_iff, ← hcalls]
  rfl

/-- The client of the same user, who leaves the scheme out of the address. -/
def schemelessClient : Connection := { localClient with url := "127.0.0.1:8100".toList }

/-- A query without parameters, between steps that hand over nothing. -/
def plainQuery : List Step :=
  [.setTimeout 5000, .call .query ("db".toList, "coll".toList, [], none) none, .closeConnection]

/-- The query with parameters that say nothing, and with the default timeout written out. -/
def wordyQuery : List Step :=
  [.call .query ("db".toList, "coll".toList, [],
    some { noQueryParams with filter := some {} }) (some 1000)]

end Connection

end VectorDb
