/-
Numbers on their way to the server and back.

The messages and the structures of the client give one number different types, and each
method converts between them without a check.  The results are exactly which counts of a
response reach the caller (`counts_reach_iff`) and which numbers of the parameters reach the
server (`numbers_kept_iff`).
-/
import VectorDb.Codec.Schema
import VectorDb.Lib.Wrap

namespace VectorDb

/-! ### Counts of the server -/

/-- The counts of a collection are the size in the message. -/
def SameCounts (item : Olama.CreateCollectionRequest) (collection : Collection) : Prop :=
  collection.documentCount.toInt = item.size.toNat ∧
    collection.size.toNat = item.size.toNat ∧
    ∀ v ∈ collection.indexes.vectorIndex, v.indexCount.toNat = item.size.toNat

/-- Only the number of documents has a type that is too small. -/
lemma sameCounts_toCollection (item : Olama.CreateCollectionRequest) :
    SameCounts item (toCollection item {}) ↔ item.size.toNat < 2 ^ 63 := by
  have hcount : ∀ v ∈ (toCollection item {}).indexes.vectorIndex,
      v.indexCount.toNat = item.size.toNat := by
    rw [indexes_toCollection]
    exact List.forall_mem_map.mpr fun _ _ => rfl
  have hsize : (toCollection item {}).size.toNat = item.size.toNat := rfl
  rw [SameCounts, and_iff_left ⟨hsize, hcount⟩]
  exact Wrap.toInt64_eq_iff item.size

namespace Method

/-- The counts that the caller reads are, as integers, those of the response. -/
def CountsReach : (m : Method) → m.Resp → m.Res → Prop
  | createDatabase, response, r => r.affectedCount.toInt = response.affectedCount.toNat
  | dropDatabase, response, r => r.affectedCount.toInt = response.affectedCount.toNat
  | truncateCollection, response, r => r.affectedCount.toInt = response.affectedCount.toNat
  | dropCollection, response, r => r.affectedCount.toInt = response.affectedCount.toNat
  | upsert, response, r => r.affectedCount.toInt = response.affectedCount.toNat
  | dele, response, r => r.affectedCount.toInt = response.affectedCount.toNat
  | update, response, r => r.affectedCount.toInt = response.affectedCount.toNat
  | query, response, r => r.total.toNat = response.count.toNat
  | count, response, r => r.count.toNat = response.count.toNat
  | describeCollection, response, r => ∃ item collection,
      response.collection = some item ∧ r.collection = some collection ∧
        SameCounts item collection
  | listCollections, response, r => List.Forall₂ SameCounts response.collections r.collections
  | _, _, _ => True

/-- The counts of the response fit into the members that receive them. -/
def CountsFit : (m : Method) → m.Resp → Prop
  | createDatabase, response => response.affectedCount.toNat < 2 ^ 31
  | dropDatabase, response => response.affectedCount.toNat < 2 ^ 31
  | truncateCollection, response => response.affectedCount.toNat < 2 ^ 31
  | dropCollection, response => response.affectedCount.toNat < 2 ^ 31
  | upsert, response => response.affectedCount.toNat < 2 ^ 31
  | dele, response => response.affectedCount.toNat < 2 ^ 31
  | update, response => response.affectedCount.toNat < 2 ^ 31
  | describeCollection, response => ∀ item ∈ response.collection, item.size.toNat < 2 ^ 63
  | listCollections, response => ∀ item ∈ response.collections, item.size.toNat < 2 ^ 63
  | _, _ => True

variable (m : Method) (self : RpcClient) (args : m.Args) (timeout : Int32) (memory : Int64)

lemma countsReach_accept {response : m.Resp} (h : m.Complete response) (r : m.Res) :
    m.CountsReach response (((m.call self args timeout).accept memory response).object r) ↔
      m.CountsFit response := by
  cases m
  case describeCollection =>
    obtain ⟨item, hitem⟩ := Option.isSome_iff_exists.mp h
    rw [accept_describeCollection self timeout memory args hitem]
    simp [CountsReach, CountsFit, hitem, Exit.object, sameCounts_toCollection]
  case listCollections =>
    have hall : List.Forall₂ SameCounts response.collections
        (response.collections.map fun item => toCollection item {}) ↔
          ∀ item ∈ response.collections, item.size.toNat < 2 ^ 63 := by
      rw [List.forall₂_map_right_iff, List.forall₂_same]
      simp only [sameCounts_toCollection]
    exact hall
  case query | count => exact iff_of_true rfl trivial
  case listDatabases | createCollection | rebuildIndex | search => exact Iff.rfl
  all_goals exact Wrap.toInt32_eq_iff _

end Method

/-- The counts of an accepted response reach the caller exactly when each of them is in the
range of the member that receives it: below `2 ^ 31` for the number of affected documents,
below `2 ^ 63` for the size of a collection. -/
theorem Invocation.counts_reach_iff {m : Method} (i : Invocation m) (h : i.Accepts)
    (r : m.Res) :
    m.CountsReach i.outcome.response (i.object r) ↔ m.CountsFit i.outcome.response := by
  rw [Invocation.object, Invocation.exit_of_accepts h]
  exact m.countsReach_accept i.self i.args i.timeout i.memory h.2 r

/-- A truncation of a collection of `n` documents. -/
def truncateAnswered (n : UInt64) : Invocation .truncateCollection where
  self := {}
  args := ("db".toList, "coll".toList)
  timeout := 5000
  memory := 0
  outcome := ⟨⟨0, []⟩, { affectedCount := n }⟩

theorem Invocation.counts_reach_truncate :
    Method.truncateCollection.CountsReach (truncateAnswered 100000).outcome.response
      ((truncateAnswered 100000).object ⟨false, [], 0⟩) := by
  have hfit : (100000 : UInt64).toNat < 2 ^ 31 := by decide
  exact (counts_reach_iff (truncateAnswered 100000) (by decide) ⟨false, [], 0⟩).mpr hfit

/-- The caller is told that a negative number of documents was affected. -/
theorem Invocation.affected_count_negative :
    ((truncateAnswered 2147483648).object ⟨false, [], 0⟩).affectedCount = -2147483648 ∧
      ¬ ∀ (m : Method) (i : Invocation m) (r : m.Res), i.Accepts →
        m.CountsReach i.outcome.response (i.object r) := by
  refine ⟨rfl, ?_⟩
  intro h
  have hreach : (2147483648 : UInt64).toUInt32.toInt32.toInt = (2147483648 : UInt64).toNat :=
    h .truncateCollection (truncateAnswered 2147483648) ⟨false, [], 0⟩ (by decide)
  exact absurd hreach (by decide)

/-! ### Numbers of the parameters -/

/-- The numbers of the query are those of its parameters. -/
def QueryNumbersKept (params : QueryDocumentParams) (request : Olama.QueryRequest) : Prop :=
  ∃ cond, request.query = some cond ∧ cond.limit.toInt = params.limit.toInt ∧
    cond.offset.toInt = params.offset.toInt

/-- The limit of the deletion is that of its parameters when it is positive, and otherwise the
request carries none, which reads as `0`. -/
def DeleteNumbersKept (params : DeleteDocumentParams) (request : Olama.DeleteRequest) : Prop :=
  ∃ cond, request.query = some cond ∧ cond.limit.toInt = max params.limit.toInt 0

/-- The throttle of the request is that of its parameters. -/
def RebuildNumbersKept (params : RebuildIndexParams) (request : Olama.RebuildIndexRequest) :
    Prop :=
  request.throttle.toInt = params.throttle.toInt

/-- The numbers of the search are those of its parameters. -/
def SearchNumbersKept (params : SearchDocumentParams) (request : Olama.SearchRequest) : Prop :=
  ∃ cond, request.search = some cond ∧ cond.limit.toNat = params.limit.toInt ∧
    ∀ searchParams ∈ params.searchParams, ∃ sent, cond.params = some sent ∧
      sent.nprobe.toNat = searchParams.nprobe.toInt ∧ sent.ef.toNat = searchParams.ef.toInt ∧
      sent.radius = searchParams.radius

/-- A limit that a search can carry. -/
def LimitFits (limit : Int64) : Prop := 0 ≤ limit.toInt ∧ limit.toInt < 2 ^ 32

/-- The numbers that a search can carry. -/
def SearchNumbersFit (params : SearchDocumentParams) : Prop :=
  LimitFits params.limit ∧ ∀ searchParams ∈ params.searchParams,
    0 ≤ searchParams.nprobe.toInt ∧ 0 ≤ searchParams.ef.toInt

/-- The number of documents that a query asks for. -/
def queryAsks (request : Olama.QueryRequest) : Option ℤ :=
  request.query.map fun cond => cond.limit.toInt

/-- The number of documents that a search asks for. -/
def searchAsks (request : Olama.SearchRequest) : Option ℤ :=
  request.search.map fun cond => (cond.limit.toNat : ℤ)

namespace RpcClient

variable (self : RpcClient) (db coll : Str) (ids : List Str) (timeout : Int32)

lemma query_numbers_kept (params : QueryDocumentParams) :
    QueryNumbersKept params (self.query db coll ids (some params) timeout).request :=
  ⟨_, rfl, rfl, rfl⟩

/-- Only a positive limit is carried, and it has the type of the parameter. -/
lemma dele_numbers_kept (params : DeleteDocumentParams) :
    DeleteNumbersKept params (self.dele db coll (some params) timeout).request := by
  refine ⟨_, rfl, ?_⟩
  show (if params.limit > 0 then params.limit else 0).toInt = max params.limit.toInt 0
  rw [apply_ite Int64.toInt, Int64.toInt_zero]
  simp only [gt_iff_lt, Int64.lt_iff_toInt_lt, Int64.toInt_zero]
  split <;> omega

variable (vectors : List (List Single)) (text : List (Str × List Str))

lemma search_numbers_kept_iff (params : SearchDocumentParams) :
    SearchNumbersKept params
        (self.search db coll ids vectors text (some params) timeout).request ↔
      SearchNumbersFit params := by
  obtain ⟨filter, searchParams, retrieveVector, outputFields, limit⟩ := params
  have hlimit := Wrap.toUInt64_toUInt32_eq_iff limit
  cases searchParams with
  | none =>
    constructor
    · rintro ⟨cond, hcond, hkept, -⟩
      obtain rfl := Option.some.inj hcond
      exact ⟨hlimit.mp hkept, by simp⟩
    · rintro ⟨hfits, -⟩
      exact ⟨_, rfl, hlimit.mpr hfits, by simp⟩
  | some searchParams =>
    constructor
    · rintro ⟨cond, hcond, hkept, hparams⟩
      obtain rfl := Option.some.inj hcond
      obtain ⟨sent, hsent, hnprobe, hef, -⟩ := hparams searchParams rfl
      obtain rfl := Option.some.inj hsent
      refine ⟨hlimit.mp hkept, ?_⟩
      intro x hx
      obtain rfl := Option.some.inj hx
      exact ⟨(Wrap.toUInt32_eq_iff _).mp hnprobe, (Wrap.toUInt32_eq_iff _).mp hef⟩
    · rintro ⟨hfits, hparams⟩
      refine ⟨_, rfl, hlimit.mpr hfits, ?_⟩
      intro x hx
      obtain rfl := Option.some.inj hx
      obtain ⟨hnprobe, hef⟩ := hparams searchParams rfl
      exact ⟨_, rfl, (Wrap.toUInt32_eq_iff _).mpr hnprobe, (Wrap.toUInt32_eq_iff _).mpr hef,
        rfl⟩

/-- A query and a search with one limit ask for the same number of documents exactly when
the search can carry the limit. -/
lemma asks_same_iff (limit : Int64) (params : QueryDocumentParams)
    (params' : SearchDocumentParams) :
    searchAsks (self.search db coll ids vectors text
          (some { params' with limit := limit }) timeout).request =
        queryAsks (self.query db coll ids (some { params with limit := limit }) timeout).request ↔
      LimitFits limit := by
  refine Iff.trans ?_ (Wrap.toUInt64_toUInt32_eq_iff limit)
  exact Option.some_inj

/-- Every call with parameters sends its request.  The numbers of `query`, `dele` and
`rebuildIndex` are always kept, where a deletion carries a limit only if it is positive; those
of `search` are kept exactly when the limit is between `0` and `2 ^ 32` and, if search
parameters are given, `nprobe` and `ef` are not negative.  So a limit asks `query` and `search`
for the same number of documents exactly when it is between `0` and `2 ^ 32`. -/
theorem numbers_kept_iff :
    (∀ params, QueryNumbersKept params
      (self.query db coll ids (some params) timeout).request) ∧
    (∀ params, DeleteNumbersKept params (self.dele db coll (some params) timeout).request) ∧
    (∀ params, RebuildNumbersKept params
      (self.rebuildIndex db coll (some params) timeout).request) ∧
    (∀ params, SearchNumbersKept params
        (self.search db coll ids vectors text (some params) timeout).request ↔
      SearchNumbersFit params) ∧
    (∀ (limit : Int64) (params : QueryDocumentParams) (params' : SearchDocumentParams),
      searchAsks (self.search db coll ids vectors text
            (some { params' with limit := limit }) timeout).request =
          queryAsks (self.query db coll ids
            (some { params with limit := limit }) timeout).request ↔
        LimitFits limit) :=
  ⟨self.query_numbers_kept db coll ids timeout, self.dele_numbers_kept db coll timeout,
    fun _ => rfl, self.search_numbers_kept_iff db coll ids timeout vectors text,
    self.asks_same_iff db coll ids timeout vectors text⟩

/-- A search with the limit `-1`, which a query carries as it is. -/
def searchAll : SearchDocumentParams where
  filter := none
  searchParams := none
  retrieveVector := false
  outputFields := []
  limit := -1

/-- The request asks for more than four billion documents. -/
theorem search_limit_wraps :
    searchAsks (search {} "db".toList "coll".toList [] [[]] [] (some searchAll) 5000).request =
        some 4294967295 ∧
      ¬ ∀ (self : RpcClient) (db coll : Str) (ids : List Str) (vectors : List (List Single))
          (text : List (Str × List Str)) (params : SearchDocumentParams) (timeout : Int32),
        SearchNumbersKept params
          (self.search db coll ids vectors text (some params) timeout).request := by
  refine ⟨rfl, ?_⟩
  intro h
  obtain ⟨cond, hcond, hkept, -⟩ :=
    h {} "db".toList "coll".toList [] [[]] [] searchAll 5000
  obtain rfl := Option.some.inj hcond
  exact absurd hkept (by decide)

end RpcClient

end VectorDb
