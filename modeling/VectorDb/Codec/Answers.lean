/-
What the caller can tell apart.

Of an answer the caller sees the value that the method returns and the result object.  Along a
run of calls with one object, two outcomes of each call show the caller the same exactly when
they agree in what the method reads (`runs_look_same_iff`).  A field that is not set reads like
an empty string, a count of affected documents like any other one that agrees with it modulo
`2 ^ 32`, a database without information like one that was created at the time `-1`, and a call
that did not reach the server like one that the server refused with the same text, except in the
two methods that list.
-/
import VectorDb.Codec.Collection
import VectorDb.Codec.Document
import VectorDb.Lib.Wrap

namespace VectorDb

/-! ### Documents -/

/-- The value that is read from a field; nothing is read as an empty string. -/
def storedValue (stored : Olama.Field) : Olama.OneofVal := stored.oneofVal.getD (.valStr [])

/-- A field that holds a value of a message. -/
def fieldOf : Olama.OneofVal → Field
  | .valStr s => ⟨.str s⟩
  | .valU64 n => ⟨.u64 n⟩
  | .valDouble d => ⟨.double d⟩
  | .valStrArr l => ⟨.strArr l⟩

lemma fieldOf_injective : Function.Injective fieldOf := by
  rintro (_ | _ | _ | _) (_ | _ | _ | _) h <;> cases h <;> rfl

lemma convertProto2Field_eq (stored : Olama.Field) :
    convertProto2Field stored {} = fieldOf (storedValue stored) := by
  rcases stored with ⟨- | ⟨_ | _ | _ | l⟩⟩
  case some.valStrArr => exact convertProto2Field_strArr l {}
  all_goals rfl

/-- The values of all fields are read the same. -/
def SameValues (stored stored' : Map Str Olama.Field) : Prop :=
  ∀ k, (stored.lookup k).map storedValue = (stored'.lookup k).map storedValue

lemma same_decodeFields_decodeFields_iff (stored stored' : Map Str Olama.Field) :
    Map.Same (decodeFields stored) (decodeFields stored') ↔ SameValues stored stored' := by
  refine forall_congr' fun k => ?_
  have hlookup : ∀ stored : Map Str Olama.Field, (decodeFields stored).lookup k =
      ((stored.lookup k).map storedValue).map fieldOf := by
    intro stored
    rw [decodeFields, Map.lookup_fill_copy (fun f => convertProto2Field f {}), Option.map_map]
    simp only [convertProto2Field_eq]
    rfl
  rw [hlookup, hlookup, (Option.map_injective fieldOf_injective).eq_iff]

/-- The documents differ at most in the order of their fields. -/
def SameRead (doc doc' : Document) : Prop :=
  Map.Same doc.fields doc'.fields ∧ { doc with fields := ∅ } = { doc' with fields := ∅ }

lemma SameRead.refl (doc : Document) : SameRead doc doc := ⟨fun _ => rfl, rfl⟩

/-- Behind related lists only the rest counts. -/
lemma forall₂_append_iff {α : Type} {R : α → α → Prop} {l l' : List α}
    (h : List.Forall₂ R l l') (a b : List α) :
    List.Forall₂ R (l ++ a) (l' ++ b) ↔ List.Forall₂ R a b := by
  induction h with
  | nil => rfl
  | cons hx _ ih =>
    rw [List.cons_append, List.cons_append, List.forall₂_cons, ih, and_iff_right hx]

/-- What `query` reads of the two documents is the same. -/
def SameForQuery (stored stored' : Olama.Document) : Prop :=
  stored.id = stored'.id ∧ stored.vector = stored'.vector ∧
    SameValues stored.fields stored'.fields

/-- What `search` reads of the two documents is the same; it reads the score too. -/
def SameForSearch (stored stored' : Olama.Document) : Prop :=
  SameForQuery stored stored' ∧ stored.score = stored'.score

lemma sameRead_queryDocument_iff (stored stored' : Olama.Document) :
    SameRead (queryDocument stored) (queryDocument stored') ↔ SameForQuery stored stored' := by
  simp only [SameRead, queryDocument, same_decodeFields_decodeFields_iff, Document.mk.injEq,
    SameForQuery]
  tauto

lemma sameRead_searchDocument_iff (stored stored' : Olama.Document) :
    SameRead (searchDocument stored) (searchDocument stored') ↔
      SameForSearch stored stored' := by
  simp only [SameRead, searchDocument, same_decodeFields_decodeFields_iff, Document.mk.injEq,
    SameForSearch, SameForQuery]
  tauto

/-! ### Collections -/

/-- The vector index that is read from the content of a column. -/
def ColumnContent.vectorIndex (size : UInt64) (c : ColumnContent) : VectorIndex :=
  let (dimension, metricType, params) := c.vector.getD (0, [], {})
  { fieldName := c.fieldName
    fieldType := c.fieldType
    indexType := c.indexType
    dimension := dimension
    metricType := metricType
    indexCount := size
    params :=
      { m := params.m
        efConstruction := params.efConstruction
        nList := params.nlist
        nProbe := params.nprobe } }

/-- The filter index that is read from the content of a column. -/
def ColumnContent.filterIndex (c : ColumnContent) : FilterIndex where
  fieldName := c.fieldName
  fieldType := c.fieldType
  indexType := c.indexType
  elemType := c.elements.getD []

/-- The contents of the vector columns of a message, in their order. -/
def vectorContents (item : Olama.CreateCollectionRequest) : List ColumnContent :=
  ((columns item).filter (·.fieldType = kVector)).map columnContent

/-- The contents of the other columns of a message, in their order. -/
def filterContents (item : Olama.CreateCollectionRequest) : List ColumnContent :=
  ((columns item).filter (·.fieldType ≠ kVector)).map columnContent

/-- The indexes are read from the contents of the columns. -/
lemma indexes_toCollection_contents (item : Olama.CreateCollectionRequest) :
    (toCollection item {}).indexes =
      { vectorIndex := (vectorContents item).map (ColumnContent.vectorIndex item.size)
        filterIndex := (filterContents item).map ColumnContent.filterIndex } := by
  rw [indexes_toCollection, vectorContents, filterContents, List.map_map, List.map_map]
  congr 1
  · refine List.map_congr_left fun col hcol => ?_
    have htype : col.fieldType = kVector := by simpa using (List.mem_filter.mp hcol).2
    rcases hparams : col.params with _ | p <;>
      simp [ColumnContent.vectorIndex, columnContent, columnVector, htype, hparams]
  · refine List.map_congr_left fun col _ => ?_
    by_cases harray : col.fieldType = kArray <;>
      simp [ColumnContent.filterIndex, columnContent, columnFilter, harray]

/-- The contents of the columns are those of the indexes. -/
lemma contents_indexes (item : Olama.CreateCollectionRequest) :
    (toCollection item {}).indexes.vectorIndex.map VectorIndex.content = vectorContents item ∧
      (toCollection item {}).indexes.filterIndex.map FilterIndex.content =
        filterContents item := by
  rw [indexes_toCollection, List.map_map, List.map_map]
  refine ⟨List.map_congr_left fun col hcol => ?_, List.map_congr_left fun col hcol => ?_⟩
  · exact content_columnVector item.size (by simpa using (List.mem_filter.mp hcol).2)
  · exact content_columnFilter (by simpa using (List.mem_filter.mp hcol).2)

/-- What `toCollection` reads of the two messages is the same: every attribute but the progress,
and the columns of each kind in their order. -/
structure SameForCollection (item item' : Olama.CreateCollectionRequest) : Prop where
  database : item.database = item'.database
  collection : item.collection = item'.collection
  aliasList : item.aliasList = item'.aliasList
  shardNum : item.shardNum = item'.shardNum
  replicaNum : item.replicaNum = item'.replicaNum
  description : item.description = item'.description
  size : item.size = item'.size
  createTime : item.createTime = item'.createTime
  status : (statusOf item).status = (statusOf item').status
  startTime : (statusOf item).startTime = (statusOf item').startTime
  embedding : embeddingOf item = embeddingOf item'
  vectors : vectorContents item = vectorContents item'
  filters : filterContents item = filterContents item'

lemma toCollection_eq_iff (item item' : Olama.CreateCollectionRequest) :
    toCollection item {} = toCollection item' {} ↔ SameForCollection item item' := by
  constructor
  · intro h
    have hstatus := congrArg Collection.indexStatus h
    rw [indexStatus_toCollection, indexStatus_toCollection] at hstatus
    have hcontents := contents_indexes item
    rw [h] at hcontents
    exact
      { database := congrArg Collection.database h
        collection := congrArg Collection.collectionName h
        aliasList := congrArg Collection.aliases h
        shardNum := congrArg Collection.shardNum h
        replicaNum := congrArg Collection.replicaNum h
        description := congrArg Collection.description h
        size := congrArg Collection.size h
        createTime := congrArg Collection.createTime h
        status := congrArg IndexStatus.status hstatus
        startTime := congrArg IndexStatus.startTime hstatus
        embedding := embeddingOf_eq h
        vectors := hcontents.1.symm.trans (contents_indexes item').1
        filters := hcontents.2.symm.trans (contents_indexes item').2 }
  · intro h
    have hindexes : (toCollection item {}).indexes = (toCollection item' {}).indexes := by
      rw [indexes_toCollection_contents, indexes_toCollection_contents, h.size, h.vectors,
        h.filters]
    have hstatus : (toCollection item {}).indexStatus = (toCollection item' {}).indexStatus := by
      rw [indexStatus_toCollection, indexStatus_toCollection, h.status, h.startTime]
    have hembedding : (toCollection item {}).embedding = (toCollection item' {}).embedding := by
      rw [embedding_toCollection, embedding_toCollection, h.embedding]
    rw [Collection.mk.injEq]
    exact ⟨h.database, h.collection, congrArg UInt64.toInt64 h.size, h.aliasList, h.shardNum,
      h.replicaNum, hindexes, hstatus, hembedding, h.description, h.size, h.createTime⟩

/-! ### Refusals -/

namespace Method

/-- The methods whose two texts differ, in one letter. -/
def Lists (m : Method) : Prop := m = listDatabases ∨ m = listCollections

/-- The caller cannot tell the two refusals apart. -/
def SameRefusal (m : Method) : Refusal → Refusal → Prop
  | .status text, .status text' => text = text'
  | .code text, .code text' => text = text'
  | .status text, .code text' => ¬ m.Lists ∧ text = text'
  | .code text, .status text' => ¬ m.Lists ∧ text = text'
  | .missing, .missing => True
  | _, _ => False

variable (m : Method) (self : RpcClient) (args : m.Args) (timeout : Int32)

lemma eq_describeCollection_of_missing {o : Outcome m.Resp} (h : m.refusal o = some .missing) :
    m = describeCollection := by
  by_contra hne
  have hcomplete : m.Complete o.response := by
    cases m
    case describeCollection => exact absurd rfl hne
    all_goals trivial
  unfold refusal at h
  split at h
  · simp at h
  · split at h
    · simp at h
    · simp at h

/-- Only the methods that list say which of the two checks failed. -/
lemma onStatus_append_eq_iff (text text' : Str) :
    (m.call self args timeout).onStatus.toList ++ text =
        (m.call self args timeout).onCode.toList ++ text' ↔ ¬ m.Lists ∧ text = text' := by
  cases m
  case listDatabases =>
    refine iff_of_false (fun h => ?_) (by simp [Lists])
    have hletter : ("Fail to list databases: ".toList ++ text)[21]? =
        ("Fail to list database: ".toList ++ text')[21]? := congrArg (·[21]?) h
    rw [List.getElem?_append_left (by decide), List.getElem?_append_left (by decide)] at hletter
    exact absurd hletter (by decide)
  case listCollections =>
    refine iff_of_false (fun h => ?_) (by simp [Lists])
    have hletter : ("Fail to list collections: ".toList ++ text)[23]? =
        ("Fail to list collection: ".toList ++ text')[23]? := congrArg (·[23]?) h
    rw [List.getElem?_append_left (by decide), List.getElem?_append_left (by decide)] at hletter
    exact absurd hletter (by decide)
  all_goals exact (List.append_right_inj _).trans (by simp [Lists])

/-- The texts are the same for refusals that the caller cannot tell apart; a part of an answer is
missing for `describeCollection` only. -/
lemma refusalText_eq_iff {a b : Refusal} (ha : a = .missing → m = describeCollection)
    (hb : b = .missing → m = describeCollection) :
    (m.call self args timeout).refusalText a = (m.call self args timeout).refusalText b ↔
      m.SameRefusal a b := by
  have hmissing : ∀ text : Str, m = describeCollection →
      (m.call self args timeout).onStatus.toList ++ text ≠ "Fail to get collection.".toList ∧
        (m.call self args timeout).onCode.toList ++ text ≠ "Fail to get collection.".toList := by
    rintro text rfl
    refine and_self_iff.mpr fun h => ?_
    have hletter : ("Fail to describe collection: ".toList ++ text)[8]? =
        ("Fail to get collection.".toList)[8]? := congrArg (·[8]?) h
    rw [List.getElem?_append_left (by decide)] at hletter
    exact absurd hletter (by decide)
  rcases a with text | text | _ <;> rcases b with text' | text' | _
  case status.status => exact List.append_right_inj _
  case status.code => exact m.onStatus_append_eq_iff self args timeout text text'
  case code.status =>
    refine eq_comm.trans ((m.onStatus_append_eq_iff self args timeout text' text).trans ?_)
    exact and_congr_right' eq_comm
  case code.code => exact List.append_right_inj _
  case status.missing => exact iff_of_false (hmissing text (hb rfl)).1 id
  case code.missing => exact iff_of_false (hmissing text (hb rfl)).2 id
  case missing.status => exact iff_of_false (hmissing text' (ha rfl)).1.symm id
  case missing.code => exact iff_of_false (hmissing text' (ha rfl)).2.symm id
  case missing.missing => exact iff_of_true rfl trivial

/-! ### Answers -/

/-- The creation time that `listDatabases` reads for a name. -/
def createTimeOf (response : Olama.DatabaseResponse) (name : Str) : Int64 :=
  ((response.info.lookup name).map (·.createTime)).getD (-1)

/-- Two counts that are received with 32 bits. -/
def SameCount (n n' : UInt64) : Prop := n.toNat % 2 ^ 32 = n'.toNat % 2 ^ 32

/-- What the method reads of two accepted answers is the same. -/
def SameAnswer : (m : Method) → m.Resp → m.Resp → Prop
  | createDatabase, response, response' => SameCount response.affectedCount response'.affectedCount
  | listDatabases, response, response' =>
      response.databases = response'.databases ∧
        ∀ name ∈ response.databases, createTimeOf response name = createTimeOf response' name
  | dropDatabase, response, response' => SameCount response.affectedCount response'.affectedCount
  | createCollection, response, response' => response.msg = response'.msg
  | listCollections, response, response' =>
      response.msg = response'.msg ∧
        List.Forall₂ SameForCollection response.collections response'.collections
  | describeCollection, response, response' =>
      response.msg = response'.msg ∧
        Option.Rel SameForCollection response.collection response'.collection
  | truncateCollection, response, response' =>
      response.msg = response'.msg ∧ SameCount response.affectedCount response'.affectedCount
  | dropCollection, response, response' =>
      response.msg = response'.msg ∧ SameCount response.affectedCount response'.affectedCount
  | rebuildIndex, response, response' =>
      response.msg = response'.msg ∧ response.taskIds = response'.taskIds
  | upsert, response, response' =>
      response.msg = response'.msg ∧ SameCount response.affectedCount response'.affectedCount
  | query, response, response' =>
      List.Forall₂ SameForQuery response.documents response'.documents ∧
        response.count = response'.count
  | dele, response, response' =>
      response.msg = response'.msg ∧ SameCount response.affectedCount response'.affectedCount
  | update, response, response' =>
      response.msg = response'.msg ∧ SameCount response.affectedCount response'.affectedCount
  | search, response, response' =>
      response.msg = response'.msg ∧ response.warning = response'.warning ∧
        List.Forall₂ (fun set set' : Olama.SearchResult =>
          List.Forall₂ SameForSearch set.documents set'.documents)
          response.results response'.results
  | count, response, response' =>
      response.msg = response'.msg ∧ response.count = response'.count

/-- The result objects differ at most in the order of the fields of documents. -/
def SameResult : (m : Method) → m.Res → m.Res → Prop
  | query, r, r' =>
      List.Forall₂ SameRead r.documents r'.documents ∧
        { r with documents := [] } = { r' with documents := [] }
  | search, r, r' =>
      List.Forall₂ (List.Forall₂ SameRead) r.documents r'.documents ∧
        { r with documents := [] } = { r' with documents := [] }
  | _, r, r' => r = r'

lemma SameResult.refl (r : m.Res) : m.SameResult r r := by
  cases m <;> simp [SameResult, SameRead.refl]

lemma sameResult_fail_iff (text text' : Str) {r r' : m.Res} (hr : m.SameResult r r') :
    m.SameResult ((fail text).object r) ((fail text').object r') ↔ text = text' := by
  cases m
  case query | search =>
    obtain ⟨hdocuments, hrest⟩ := hr
    simp_all [SameResult, CallResult.setSuccess, CallResult.setMessage]
  all_goals
    obtain rfl := hr
    simp [SameResult, CallResult.setSuccess, CallResult.setMessage]

/-- The two lists of databases are the same when the names and the times that are read are. -/
lemma listedDatabases_eq_iff (response response' : Olama.DatabaseResponse) :
    response.databases.map (RpcClient.listedDatabase response) =
        response'.databases.map (RpcClient.listedDatabase response') ↔
      response.databases = response'.databases ∧
        ∀ name ∈ response.databases, createTimeOf response name = createTimeOf response' name := by
  have hlisted : ∀ (response : Olama.DatabaseResponse) (name : Str),
      RpcClient.listedDatabase response name = ⟨name, createTimeOf response name⟩ := by
    intro response name
    cases hinfo : response.info.lookup name <;>
      simp [RpcClient.listedDatabase, createTimeOf, hinfo]
  simp only [funext (hlisted response), funext (hlisted response')]
  constructor
  · intro h
    have hnames : response.databases = response'.databases := by
      simpa [Function.comp_def] using congrArg (List.map Database.name) h
    rw [← hnames, List.map_inj_left] at h
    exact ⟨hnames, fun name hname => congrArg Database.createTime (h name hname)⟩
  · rintro ⟨hnames, htimes⟩
    rw [← hnames]
    exact List.map_inj_left.mpr fun name hname => by rw [htimes name hname]

/-- The paths of two accepted answers, on objects that the caller cannot tell apart. -/
lemma sameResult_accept_iff (memory : Int64) {response response' : m.Resp}
    (h : m.Complete response) (h' : m.Complete response') {r r' : m.Res}
    (hr : m.SameResult r r') :
    m.SameResult (((m.call self args timeout).accept memory response).object r)
        (((m.call self args timeout).accept memory response').object r') ↔
      m.SameAnswer response response' := by
  cases m
  case query =>
    obtain ⟨-, hrest⟩ := hr
    simp only [QueryDocumentResult.mk.injEq] at hrest
    simp [SameResult, SameAnswer, call, RpcClient.query, Exit.object,
      List.forall₂_map_left_iff, List.forall₂_map_right_iff, sameRead_queryDocument_iff, hrest]
  case search =>
    -- the result sets are added to those that the objects have
    have hdocuments : List.Forall₂ (List.Forall₂ SameRead)
        (r.documents ++ searchDocuments response) (r'.documents ++ searchDocuments response') ↔
          List.Forall₂ (fun set set' : Olama.SearchResult =>
            List.Forall₂ SameForSearch set.documents set'.documents)
            response.results response'.results := by
      rw [forall₂_append_iff hr.1]
      simp only [searchDocuments, List.forall₂_map_left_iff, List.forall₂_map_right_iff,
        sameRead_searchDocument_iff]
    rw [object_accept_search, object_accept_search]
    simp only [SameResult, SameAnswer, hdocuments, SearchDocumentResult.mk.injEq]
    tauto
  case describeCollection =>
    obtain rfl := hr
    obtain ⟨item, hitem⟩ := Option.isSome_iff_exists.mp h
    obtain ⟨item', hitem'⟩ := Option.isSome_iff_exists.mp h'
    rw [accept_describeCollection self timeout memory args hitem,
      accept_describeCollection self timeout memory args hitem']
    simp [SameResult, SameAnswer, hitem, hitem', Exit.object, CallResult.setSuccess,
      CallResult.setMessage, toCollection_eq_iff]
  case listCollections =>
    obtain rfl := hr
    have hcollections : ∀ l l' : List Olama.CreateCollectionRequest,
        (l.map fun c => toCollection c {}) = (l'.map fun c => toCollection c {}) ↔
          List.Forall₂ SameForCollection l l' := by
      intro l l'
      rw [← List.forall₂_eq_eq_eq, List.forall₂_map_left_iff, List.forall₂_map_right_iff]
      simp only [toCollection_eq_iff]
    simp [SameResult, SameAnswer, call, RpcClient.listCollections, Exit.object,
      CallResult.setSuccess, CallResult.setMessage, hcollections]
  case listDatabases =>
    obtain rfl := hr
    simp [SameResult, SameAnswer, call, RpcClient.listDatabases, Exit.object,
      CallResult.setSuccess, listedDatabases_eq_iff]
  all_goals
    obtain rfl := hr
    simp [SameResult, SameAnswer, SameCount, call, RpcClient.createDatabase,
      RpcClient.dropDatabase, RpcClient.createCollection, RpcClient.truncateCollection,
      RpcClient.dropCollection, RpcClient.rebuildIndex, RpcClient.upsert, RpcClient.dele,
      RpcClient.update, RpcClient.count, Exit.object, CallResult.setSuccess,
      CallResult.setMessage, Wrap.toUInt32_toInt32_inj_iff]

/-- What the method reads of two outcomes is the same. -/
def SameOutcome (m : Method) (o o' : Outcome m.Resp) : Prop :=
  match m.refusal o, m.refusal o' with
  | none, none => m.SameAnswer o.response o'.response
  | some refused, some refused' => m.SameRefusal refused refused'
  | _, _ => False

end Method

namespace Invocation

variable {m : Method}

/-- The invocation with another answer. -/
def answered (i : Invocation m) (outcome : Outcome m.Resp) : Invocation m :=
  { i with outcome := outcome }

/-- Two outcomes of a call, on objects that the caller cannot tell apart. -/
lemma same_step_iff (i : Invocation m) (outcome' : Outcome m.Resp) {r r' : m.Res}
    (hr : m.SameResult r r') :
    i.ret = (i.answered outcome').ret ∧
        m.SameResult (i.object r) ((i.answered outcome').object r') ↔
      m.SameOutcome i.outcome outcome' := by
  have haccepts' : (i.answered outcome').Accepts ↔ m.refusal outcome' = none :=
    accepts_iff (i.answered outcome')
  rw [Method.SameOutcome]
  cases h : m.refusal i.outcome with
  | none =>
    have hi := (accepts_iff i).mpr h
    cases h' : m.refusal outcome' with
    | none =>
      have hi' := haccepts'.mpr h'
      rw [ret_of_accepts hi, ret_of_accepts hi', and_iff_right rfl, object, object,
        exit_of_accepts hi, exit_of_accepts hi']
      exact m.sameResult_accept_iff i.self i.args i.timeout i.memory hi.2 hi'.2 hr
    | some refused' =>
      have hi' : ¬ (i.answered outcome').Accepts := by simp [haccepts', h']
      rw [ret_of_accepts hi, ret_of_not_accepts hi']
      simp
  | some refused =>
    have hi : ¬ i.Accepts := by simp [accepts_iff, h]
    cases h' : m.refusal outcome' with
    | none =>
      rw [ret_of_not_accepts hi, ret_of_accepts (haccepts'.mpr h')]
      simp
    | some refused' =>
      have hi' : ¬ (i.answered outcome').Accepts := by simp [haccepts', h']
      rw [ret_of_not_accepts hi, ret_of_not_accepts hi', and_iff_right rfl, object_of_refusal h,
        object_of_refusal (i := i.answered outcome') h', m.sameResult_fail_iff _ _ hr]
      refine m.refusalText_eq_iff i.self i.args i.timeout ?_ ?_
      · rintro rfl
        exact m.eq_describeCollection_of_missing h
      · rintro rfl
        exact m.eq_describeCollection_of_missing h'

/-- What the caller sees of the calls of a run on one object: after each of them the value
returned and the object. -/
def seen : m.Res → List (Invocation m) → List (ℤ × m.Res)
  | _, [] => []
  | r, i :: is => (i.ret, i.object r) :: seen (i.object r) is

/-- The caller cannot tell the two sights apart. -/
def SameSight (x x' : ℤ × m.Res) : Prop := x.1 = x'.1 ∧ m.SameResult x.2 x'.2

lemma same_run_iff (calls : List (Invocation m × Outcome m.Resp)) {r r' : m.Res}
    (hr : m.SameResult r r') :
    List.Forall₂ SameSight (seen r (calls.map Prod.fst))
        (seen r' (calls.map fun x => x.1.answered x.2)) ↔
      ∀ x ∈ calls, m.SameOutcome x.1.outcome x.2 := by
  induction calls generalizing r r' with
  | nil => simp [seen]
  | cons x calls ih =>
    have hstep := same_step_iff x.1 x.2 hr
    rw [List.map_cons, List.map_cons, seen, seen, List.forall₂_cons, List.forall_mem_cons,
      ← hstep]
    -- the rest of the run starts with objects that cannot be told apart
    exact and_congr_right fun hsame => ih hsame.2

/-- **What the caller can tell apart.**  A run of calls with one result object is answered in two
ways.  The caller sees the same values and the same objects all along exactly when the two
outcomes of each call agree in what the method reads: both are refused for reasons that cannot be
told apart, or both are accepted with the same content. -/
theorem runs_look_same_iff (calls : List (Invocation m × Outcome m.Resp)) (r : m.Res) :
    List.Forall₂ SameSight (seen r (calls.map Prod.fst))
        (seen r (calls.map fun x => x.1.answered x.2)) ↔
      ∀ x ∈ calls, m.SameOutcome x.1.outcome x.2 :=
  same_run_iff calls (.refl m r)

end Invocation

end VectorDb
