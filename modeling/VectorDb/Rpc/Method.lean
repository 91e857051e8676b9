/-
The fifteen methods of the client as one family.

A method has types for its arguments, its request, its response and its result object, and
`Method.call` is the call that it makes.  What the methods share is stated here, over all
of them: the paths on which they refuse an answer are failures (`exit_of_not_accepts`), the
path on which they accept one returns `0` (`ret_of_accepts`), and the flag and the message
are then written by all methods but a few (`success_of_accepts`).  An `Invocation` is one
use of a method together with all that it meets: the arguments, the answer of the server
and the content of the uninitialised memory.  A run of invocations of one method on one
result object is a run in the sense of `Reuse`.
-/
import VectorDb.Rpc.Database
import VectorDb.Rpc.Collection
import VectorDb.Rpc.Document
import VectorDb.Lib.Reuse

namespace VectorDb

/-- The methods of `RpcClient`. -/
inductive Method where
  | createDatabase
  | listDatabases
  | dropDatabase
  | createCollection
  | listCollections
  | describeCollection
  | truncateCollection
  | dropCollection
  | rebuildIndex
  | upsert
  | query
  | dele
  | update
  | search
  | count
deriving DecidableEq, Repr

namespace Method

open CallResult (success)

/-- The arguments of a method, in the order of its declaration, without the result object
and the timeout. -/
@[reducible] def Args : Method → Type
  | createDatabase => Str
  | listDatabases => Unit
  | dropDatabase => Str
  | createCollection =>
      Str × Str × UInt32 × UInt32 × Str × Indexes × Option CreateCollectionParams
  | listCollections => Str
  | describeCollection => Str × Str
  | truncateCollection => Str × Str
  | dropCollection => Str × Str
  | rebuildIndex => Str × Str × Option RebuildIndexParams
  | upsert => Str × Str × List Document × Option UpsertDocumentParams
  | query => Str × Str × List Str × Option QueryDocumentParams
  | dele => Str × Str × Option DeleteDocumentParams
  | update => Str × Str × Option UpdateDocumentParams
  | search => Str × Str × List Str × List (List Single) × List (Str × List Str) ×
      Option SearchDocumentParams
  | count => Str × Str × Option Filter

@[reducible] def Req : Method → Type
  | createDatabase => Olama.DatabaseRequest
  | listDatabases => Olama.DatabaseRequest
  | dropDatabase => Olama.DatabaseRequest
  | createCollection => Olama.CreateCollectionRequest
  | listCollections => Olama.ListCollectionsRequest
  | describeCollection => Olama.DescribeCollectionRequest
  | truncateCollection => Olama.TruncateCollectionRequest
  | dropCollection => Olama.DropCollectionRequest
  | rebuildIndex => Olama.RebuildIndexRequest
  | upsert => Olama.UpsertRequest
  | query => Olama.QueryRequest
  | dele => Olama.DeleteRequest
  | update => Olama.UpdateRequest
  | search => Olama.SearchRequest
  | count => Olama.CountRequest

@[reducible] def Resp : Method → Type
  | createDatabase => Olama.DatabaseResponse
  | listDatabases => Olama.DatabaseResponse
  | dropDatabase => Olama.DatabaseResponse
  | createCollection => Olama.CreateCollectionResponse
  | listCollections => Olama.ListCollectionsResponse
  | describeCollection => Olama.DescribeCollectionResponse
  | truncateCollection => Olama.TruncateCollectionResponse
  | dropCollection => Olama.DropCollectionResponse
  | rebuildIndex => Olama.RebuildIndexResponse
  | upsert => Olama.UpsertResponse
  | query => Olama.QueryResponse
  | dele => Olama.DeleteResponse
  | update => Olama.UpdateResponse
  | search => Olama.SearchResponse
  | count => Olama.CountResponse

@[reducible] def Res : Method → Type
  | createDatabase => CreateDatabaseResult
  | listDatabases => ListDatabaseResult
  | dropDatabase => DropDatabaseResult
  | createCollection => CreateCollectionResult
  | listCollections => ListCollectionResult
  | describeCollection => DescribeCollectionResult
  | truncateCollection => TruncateCollectionResult
  | dropCollection => DropCollectionResult
  | rebuildIndex => RebuildIndexResult
  | upsert => UpsertDocumentResult
  | query => QueryDocumentResult
  | dele => DeleteDocumentResult
  | update => UpdateDocumentResult
  | search => SearchDocumentResult
  | count => CountResult

instance instReply : (m : Method) → Reply m.Resp
  | createDatabase => inferInstanceAs (Reply Olama.DatabaseResponse)
  | listDatabases => inferInstanceAs (Reply Olama.DatabaseResponse)
  | dropDatabase => inferInstanceAs (Reply Olama.DatabaseResponse)
  | createCollection => inferInstanceAs (Reply Olama.CreateCollectionResponse)
  | listCollections => inferInstanceAs (Reply Olama.ListCollectionsResponse)
  | describeCollection => inferInstanceAs (Reply Olama.DescribeCollectionResponse)
  | truncateCollection => inferInstanceAs (Reply Olama.TruncateCollectionResponse)
  | dropCollection => inferInstanceAs (Reply Olama.DropCollectionResponse)
  | rebuildIndex => inferInstanceAs (Reply Olama.RebuildIndexResponse)
  | upsert => inferInstanceAs (Reply Olama.UpsertResponse)
  | query => inferInstanceAs (Reply Olama.QueryResponse)
  | dele => inferInstanceAs (Reply Olama.DeleteResponse)
  | update => inferInstanceAs (Reply Olama.UpdateResponse)
  | search => inferInstanceAs (Reply Olama.SearchResponse)
  | count => inferInstanceAs (Reply Olama.CountResponse)

instance instCallResult : (m : Method) → CallResult m.Res
  | createDatabase => inferInstanceAs (CallResult CreateDatabaseResult)
  | listDatabases => inferInstanceAs (CallResult ListDatabaseResult)
  | dropDatabase => inferInstanceAs (CallResult DropDatabaseResult)
  | createCollection => inferInstanceAs (CallResult CreateCollectionResult)
  | listCollections => inferInstanceAs (CallResult ListCollectionResult)
  | describeCollection => inferInstanceAs (CallResult DescribeCollectionResult)
  | truncateCollection => inferInstanceAs (CallResult TruncateCollectionResult)
  | dropCollection => inferInstanceAs (CallResult DropCollectionResult)
  | rebuildIndex => inferInstanceAs (CallResult RebuildIndexResult)
  | upsert => inferInstanceAs (CallResult UpsertDocumentResult)
  | query => inferInstanceAs (CallResult QueryDocumentResult)
  | dele => inferInstanceAs (CallResult DeleteDocumentResult)
  | update => inferInstanceAs (CallResult UpdateDocumentResult)
  | search => inferInstanceAs (CallResult SearchDocumentResult)
  | count => inferInstanceAs (CallResult CountResult)

/-- The call that a method makes. -/
def call (self : RpcClient) : (m : Method) → m.Args → Int32 → Call m.Req m.Resp m.Res
  | createDatabase, dbName, timeout => self.createDatabase dbName timeout
  | listDatabases, (), timeout => self.listDatabases timeout
  | dropDatabase, dbName, timeout => self.dropDatabase dbName timeout
  | createCollection, (db, coll, shardNum, replicaNum, description, indexes, params), timeout =>
      self.createCollection db coll shardNum replicaNum description indexes params timeout
  | listCollections, dbName, timeout => self.listCollections dbName timeout
  | describeCollection, (db, coll), timeout => self.describeCollection db coll timeout
  | truncateCollection, (db, coll), timeout => self.truncateCollection db coll timeout
  | dropCollection, (db, coll), timeout => self.dropCollection db coll timeout
  | rebuildIndex, (db, coll, params), timeout => self.rebuildIndex db coll params timeout
  | upsert, (db, coll, documents, params), timeout =>
      self.upsert db coll documents params timeout
  | query, (db, coll, documentIds, params), timeout =>
      self.query db coll documentIds params timeout
  | dele, (db, coll, params), timeout => self.dele db coll params timeout
  | update, (db, coll, params), timeout => self.update db coll params timeout
  | search, (db, coll, documentIds, vectors, text, params), timeout =>
      self.search db coll documentIds vectors text params timeout
  | count, (db, coll, filter), timeout => self.count db coll filter timeout

/-- The part of the response that a method asks for beyond the code is there:
`describeCollection` wants a collection. -/
def Complete : (m : Method) → m.Resp → Prop
  | describeCollection, response => response.collection.isSome
  | _, _ => True

instance (m : Method) (response : m.Resp) : Decidable (m.Complete response) :=
  match m with
  | createDatabase | listDatabases | dropDatabase | createCollection | listCollections
  | truncateCollection | dropCollection | rebuildIndex | upsert | query | dele | update
  | search | count => inferInstanceAs (Decidable True)
  | describeCollection => inferInstanceAs (Decidable (_ = true))

/-! ### The paths after the checks -/

variable (m : Method) (self : RpcClient) (args : m.Args) (timeout : Int32) (memory : Int64)

/-- The path of `describeCollection` when there is a collection. -/
lemma accept_describeCollection (args : describeCollection.Args)
    {response : describeCollection.Resp} {item : Olama.CreateCollectionRequest}
    (h : response.collection = some item) :
    ((describeCollection.call self args timeout).accept memory response) =
      ⟨0, [CallResult.setSuccess true, CallResult.setMessage response.msg,
        fun r => { r with collection := some (toCollection item {}) }]⟩ := by
  simp only [call, RpcClient.describeCollection, h]

lemma ret_accept {response : m.Resp} (h : m.Complete response) :
    ((m.call self args timeout).accept memory response).ret = 0 := by
  cases m
  case describeCollection =>
    obtain ⟨item, hitem⟩ := Option.isSome_iff_exists.mp h
    rw [accept_describeCollection self timeout memory args hitem]
  all_goals rfl

lemma accept_of_missing {response : m.Resp} (h : ¬ m.Complete response) :
    (m.call self args timeout).accept memory response =
      fail "Fail to get collection.".toList := by
  cases m
  case describeCollection =>
    have hnone : response.collection = none := by simpa [Complete] using h
    simp [call, RpcClient.describeCollection, hnone]
  all_goals exact absurd trivial h

/-- All methods but `query` set the flag when they accept an answer. -/
lemma success_accept {response : m.Resp} (h : m.Complete response) (r : m.Res) :
    success (((m.call self args timeout).accept memory response).object r) =
      if m = query then success r else true := by
  cases m
  case describeCollection =>
    obtain ⟨item, hitem⟩ := Option.isSome_iff_exists.mp h
    rw [accept_describeCollection self timeout memory args hitem]
    rfl
  case search => simp [call, RpcClient.search, Exit.object]
  all_goals rfl

end Method

/-- One use of the method `m` with everything that decides its course. -/
structure Invocation (m : Method) where
  /-- The client. -/
  self : RpcClient
  /-- The arguments. -/
  args : m.Args
  /-- The timeout. -/
  timeout : Int32
  /-- What an uninitialised local finds in its memory. -/
  memory : Int64
  /-- The status and the response of the server. -/
  outcome : Outcome m.Resp

namespace Invocation

open CallResult (success)

variable {m : Method}

/-- The path that the method takes. -/
def exit (i : Invocation m) : Exit m.Res :=
  (m.call i.self i.args i.timeout).resume i.memory i.outcome

/-- The value that the method returns. -/
def ret (i : Invocation m) : ℤ := i.exit.ret

/-- The result object after the call, from the one before. -/
def object (i : Invocation m) (r : m.Res) : m.Res := i.exit.object r

/-- The method accepts the answer: it passes both checks and has the part that the method
asks for. -/
def Accepts (i : Invocation m) : Prop :=
  Passes i.outcome ∧ m.Complete i.outcome.response

instance (i : Invocation m) : Decidable i.Accepts := inferInstanceAs (Decidable (_ ∧ _))

lemma exit_of_accepts {i : Invocation m} (h : i.Accepts) :
    i.exit = (m.call i.self i.args i.timeout).accept i.memory i.outcome.response :=
  resume_of_passes h.1 _ _

lemma exit_of_not_accepts {i : Invocation m} (h : ¬ i.Accepts) :
    ∃ text, i.exit = fail text := by
  by_cases hpass : Passes i.outcome
  · have hmissing := m.accept_of_missing i.self i.args i.timeout i.memory
      fun hcomplete => h ⟨hpass, hcomplete⟩
    exact ⟨_, (resume_of_passes hpass _ _).trans hmissing⟩
  · exact resume_of_not_passes hpass _ _

lemma ret_of_accepts {i : Invocation m} (h : i.Accepts) : i.ret = 0 := by
  rw [ret, exit_of_accepts h, m.ret_accept i.self i.args i.timeout i.memory h.2]

lemma ret_of_not_accepts {i : Invocation m} (h : ¬ i.Accepts) : i.ret = -1 := by
  obtain ⟨text, htext⟩ := exit_of_not_accepts h
  rw [ret, htext, fail_ret]

lemma success_of_accepts {i : Invocation m} (h : i.Accepts) (r : m.Res) :
    success (i.object r) = if m = .query then success r else true := by
  rw [object, exit_of_accepts h, m.success_accept i.self i.args i.timeout i.memory h.2]

lemma success_of_not_accepts {i : Invocation m} (h : ¬ i.Accepts) (r : m.Res) :
    success (i.object r) = false := by
  obtain ⟨text, htext⟩ := exit_of_not_accepts h
  rw [object, htext, success_fail]

end Invocation

end VectorDb
