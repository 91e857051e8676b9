/-
What a call leaves in the result object.

The statements are about all methods at once: when a call fails, when the flag agrees with
the value returned, and what of the earlier content of the object is still there after an
accepted answer.
-/
import VectorDb.Rpc.Method

namespace VectorDb

open CallResult (success message)

/-! ### Refusals -/

/-- The reason for which a method refuses an answer, with the text that came with it. -/
inductive Refusal where
  | status (text : Str)
  | code (text : Str)
  | missing
deriving DecidableEq, Repr

/-- The message that a call makes of a refusal. -/
def Call.refusalText {Req Resp Res : Type} (call : Call Req Resp Res) : Refusal → Str
  | .status text => call.onStatus.toList ++ text
  | .code text => call.onCode.toList ++ text
  | .missing => "Fail to get collection.".toList

namespace Method

/-- The reason for which the method refuses an answer, if it does. -/
def refusal (m : Method) (o : Outcome m.Resp) : Option Refusal :=
  if o.status.ok = false then some (.status o.status.errorMessage)
  else if Reply.code o.response ≠ 0 then some (.code (Reply.msg o.response))
  else if m.Complete o.response then none
  else some .missing

variable (m : Method) (self : RpcClient) (args : m.Args) (timeout : Int32)

lemma refusal_eq_none_iff (o : Outcome m.Resp) :
    m.refusal o = none ↔ Passes o ∧ m.Complete o.response := by
  unfold refusal Passes
  cases hok : o.status.ok with
  | false => simp
  | true =>
    by_cases hcode : Reply.code o.response = 0
    · simp [hcode]
    · simp [hcode]

/-- A refused answer leads to the failure with its text. -/
lemma resume_of_refusal {o : Outcome m.Resp} {refused : Refusal}
    (h : m.refusal o = some refused) (memory : Int64) :
    (m.call self args timeout).resume memory o =
      fail ((m.call self args timeout).refusalText refused) := by
  unfold refusal at h
  split at h
  · next hok =>
    have hrefused := Option.some.inj h
    subst hrefused
    rw [Call.resume, hok]
    rfl
  · next hok =>
    have hpass : ¬ (!o.status.ok) = true := by simpa using hok
    split at h
    · next hcode =>
      have hrefused := Option.some.inj h
      subst hrefused
      rw [Call.resume, if_neg hpass, if_pos hcode]
      rfl
    · next hcode =>
      split at h
      · cases h
      · -- both checks pass, but a part of the answer is missing
        next hmissing =>
        have hrefused := Option.some.inj h
        subst hrefused
        rw [Call.resume, if_neg hpass, if_neg hcode,
          m.accept_of_missing self args timeout memory hmissing]
        rfl

end Method

variable {m : Method}

namespace Invocation

lemma accepts_iff (i : Invocation m) : i.Accepts ↔ m.refusal i.outcome = none :=
  (m.refusal_eq_none_iff i.outcome).symm

lemma object_of_refusal {i : Invocation m} {refused : Refusal}
    (h : m.refusal i.outcome = some refused) (r : m.Res) :
    i.object r =
      (fail ((m.call i.self i.args i.timeout).refusalText refused) : Exit m.Res).object r := by
  rw [object, exit, m.resume_of_refusal i.self i.args i.timeout h]

/-! ### Failed calls -/

lemma ret_eq_iff (i : Invocation m) : i.ret = -1 ↔ ¬ i.Accepts := by
  by_cases h : i.Accepts
  · simp [ret_of_accepts h, h]
  · simp [ret_of_not_accepts h, h]

/-- A call fails exactly when a check fails or the response lacks what the method asks for,
and it then leaves the payload of the result object alone. -/
theorem failed_call_keeps_payload (i : Invocation m) (r : m.Res) :
    (i.ret = 0 ∨ i.ret = -1) ∧
    (i.ret = -1 ↔
      i.outcome.status.ok = false ∨ Reply.code i.outcome.response ≠ 0 ∨
        ¬ m.Complete i.outcome.response) ∧
    (i.ret = -1 → SamePayload r (i.object r)) := by
  refine ⟨?_, ?_, ?_⟩
  · by_cases h : i.Accepts
    · exact Or.inl (ret_of_accepts h)
    · exact Or.inr (ret_of_not_accepts h)
  · rw [ret_eq_iff, Accepts, Passes, not_and_or, not_and_or, Bool.not_eq_true, or_assoc]
  · intro h
    obtain ⟨text, htext⟩ := exit_of_not_accepts ((ret_eq_iff i).mp h)
    rw [object, htext]
    exact samePayload_fail text r

/-! ### The flag -/

/-- The flag is set after the call exactly when the call returned `0`. -/
def FlagReports (i : Invocation m) (r : m.Res) : Prop :=
  success (i.object r) = true ↔ i.ret = 0

lemma flagReports_iff (i : Invocation m) (r : m.Res) :
    i.FlagReports r ↔ (m = .query → i.Accepts → success r = true) := by
  unfold FlagReports
  by_cases h : i.Accepts
  · rw [success_of_accepts h, ret_of_accepts h]
    by_cases hq : m = .query <;> simp [h, hq]
  · rw [success_of_not_accepts h, ret_of_not_accepts h]
    simp [h]

/-- One call of `query` keeps the flag set only if it was set and the answer is accepted. -/
lemma success_object_query (i : Invocation .query) (r : Method.query.Res) :
    success (i.object r) = true ↔ success r = true ∧ i.Accepts := by
  by_cases h : i.Accepts
  · simp [success_of_accepts h, h]
  · simp [success_of_not_accepts h, h]

/-- After a run of calls of `query` the flag is set only if it was set at the start and no
call failed. -/
lemma success_after_query (r : Method.query.Res) (is : List (Invocation .query)) :
    success (Reuse.after object r is) = true ↔
      success r = true ∧ ∀ i ∈ is, i.Accepts := by
  induction is generalizing r with
  | nil => simp
  | cons i is ih =>
    rw [Reuse.after_cons, ih, success_object_query, List.forall_mem_cons, and_assoc]

/-- The flag agrees with the value returned, for one call and along a run, exactly when no
`query` that is answered finds the flag down: it is up at the start, and no earlier call of
the run failed. -/
theorem flag_agrees_with_ret_iff (m : Method) :
    (∀ (i : Invocation m) (r : m.Res),
      i.FlagReports r ↔ (m = .query → i.Accepts → success r = true)) ∧
    (∀ (r : m.Res) (is : List (Invocation m)),
      Reuse.Always object FlagReports r is ↔
        (m = .query → ∀ pre i post, is = pre ++ i :: post → i.Accepts →
          success r = true ∧ ∀ j ∈ pre, j.Accepts)) := by
  refine ⟨flagReports_iff, ?_⟩
  intro r is
  rw [Reuse.always_congr flagReports_iff, Reuse.always_iff]
  cases m
  case query =>
    constructor
    · intro h _ pre i post heq hi
      exact (success_after_query r pre).mp (h pre i post heq rfl hi)
    · intro h pre i post heq _ hi
      exact (success_after_query r pre).mpr (h rfl pre i post heq hi)
  all_goals simp

/-- A query without parameters that is answered with code `0` and no documents. -/
def answeredQuery : Invocation .query where
  self := {}
  args := ("db".toList, "coll".toList, ["0001".toList], none)
  timeout := 5000
  memory := 0
  outcome := ⟨⟨0, []⟩, {}⟩

/-- After a failed query, a query that is answered returns `0` and leaves the flag down. -/
theorem query_leaves_flag_down :
    answeredQuery.ret = 0 ∧ answeredQuery.object ⟨false, [], [], 0⟩ = ⟨false, [], [], 0⟩ ∧
      ¬ ∀ (m : Method) (i : Invocation m) (r : m.Res), i.FlagReports r := by
  refine ⟨rfl, rfl, ?_⟩
  intro h
  have hflag := h .query answeredQuery ⟨false, [], [], 0⟩
  exact Bool.false_ne_true (hflag.mpr rfl)

end Invocation

/-! ### The history of the object -/

namespace Method

/-- The members of the result object that an accepted answer leaves as they were (for
`search`, that it only adds to) agree. -/
def AgreesOnKept : (m : Method) → m.Res → m.Res → Prop
  | createDatabase, r, r' => r.message = r'.message
  | listDatabases, r, r' => r.message = r'.message
  | dropDatabase, r, r' => r.message = r'.message
  | query, r, r' => r.success = r'.success ∧ r.message = r'.message
  | search, r, r' => r.documents = r'.documents
  | _, _, _ => True

/-- The list that `search` makes of the result sets of a response. -/
def searchDocuments (response : Olama.SearchResponse) : List (List Document) :=
  response.results.map fun resultSet => resultSet.documents.map searchDocument

/-- The loop of `search` adds one list for each result set. -/
lemma foldl_documents (sets : List Olama.SearchResult) (r : SearchDocumentResult) :
    (sets.map fun resultSet (r : SearchDocumentResult) =>
      { r with documents := r.documents ++ [resultSet.documents.map searchDocument] }).foldl
        (fun r assign => assign r) r =
      { r with documents := r.documents ++
          sets.map fun resultSet => resultSet.documents.map searchDocument } := by
  induction sets generalizing r with
  | nil => simp
  | cons s sets ih =>
    rw [List.map_cons, List.foldl_cons, ih]
    simp

variable (self : RpcClient) (timeout : Int32)

lemma object_accept_search (args : search.Args) (memory : Int64) (response : search.Resp)
    (r : search.Res) :
    ((search.call self args timeout).accept memory response).object r =
      { success := true
        message := response.msg
        warning := response.warning
        documents := r.documents ++ searchDocuments response } := by
  simp [call, RpcClient.search, Exit.object, foldl_documents, searchDocuments,
    CallResult.setSuccess, CallResult.setMessage]

/-- Two runs of one call on different objects. -/
lemma object_accept_eq_iff (m : Method) (args : m.Args) (memory memory' : Int64)
    {response : m.Resp} (h : m.Complete response) (r r' : m.Res) :
    ((m.call self args timeout).accept memory response).object r =
        ((m.call self args timeout).accept memory' response).object r' ↔
      m.AgreesOnKept r r' ∧ (m = createDatabase → memory = memory') := by
  cases m
  case createDatabase =>
    simp [call, RpcClient.createDatabase, AgreesOnKept, Exit.object, CallResult.setSuccess]
  case describeCollection =>
    obtain ⟨item, hitem⟩ := Option.isSome_iff_exists.mp h
    rw [accept_describeCollection self timeout memory args hitem,
      accept_describeCollection self timeout memory' args hitem]
    simp [AgreesOnKept, Exit.object, CallResult.setSuccess, CallResult.setMessage]
  case search =>
    rw [object_accept_search, object_accept_search]
    simp [AgreesOnKept]
  -- the other methods assign each member, or leave it, once
  all_goals
    simp [call, RpcClient.listDatabases, RpcClient.dropDatabase, RpcClient.createCollection,
      RpcClient.listCollections, RpcClient.truncateCollection, RpcClient.dropCollection,
      RpcClient.rebuildIndex, RpcClient.upsert, RpcClient.query, RpcClient.dele,
      RpcClient.update, RpcClient.count, AgreesOnKept, Exit.object, CallResult.setSuccess,
      CallResult.setMessage]

end Method

namespace Invocation

/-- The same invocation in a memory that holds something else. -/
def inMemory (i : Invocation m) (memory : Int64) : Invocation m := { i with memory := memory }

lemma object_eq_iff {i : Invocation m} (h : i.Accepts) (memory' : Int64) (r r' : m.Res) :
    i.object r = (i.inMemory memory').object r' ↔
      m.AgreesOnKept r r' ∧ (m = .createDatabase → i.memory = memory') := by
  have h' : (i.inMemory memory').Accepts := h
  rw [object, object, exit_of_accepts h, exit_of_accepts h']
  exact Method.object_accept_eq_iff i.self i.timeout m i.args i.memory memory' h.2 r r'

/-- A successful call gives what it gives for the object `fresh`. -/
def AsFresh (fresh : m.Res) (i : Invocation m) (r : m.Res) : Prop :=
  i.Accepts → i.object r = i.object fresh

/-- A successful call finds an object that agrees with `fresh` on what the method keeps. -/
def FindsFresh (fresh : m.Res) (i : Invocation m) (r : m.Res) : Prop :=
  i.Accepts → m.AgreesOnKept r fresh

lemma asFresh_iff (fresh : m.Res) (i : Invocation m) (r : m.Res) :
    i.AsFresh fresh r ↔ i.FindsFresh fresh r := by
  refine forall_congr' fun h => (object_eq_iff h i.memory r fresh).trans ?_
  simp

/-- After a successful search the documents are those of its response. -/
def HoldsOwnDocuments (i : Invocation .search) (r : Method.search.Res) : Prop :=
  i.Accepts → (i.object r).documents = Method.searchDocuments i.outcome.response

/-- A successful search finds no documents in the object. -/
def FindsNoDocuments (i : Invocation .search) (r : Method.search.Res) : Prop :=
  i.Accepts → r.documents = []

lemma documents_object_query {i : Invocation .query} (h : i.Accepts) (r : Method.query.Res) :
    (i.object r).documents = i.outcome.response.documents.map queryDocument := by
  rw [object, exit_of_accepts h]
  rfl

lemma documents_object_search {i : Invocation .search} (h : i.Accepts)
    (r : Method.search.Res) :
    (i.object r).documents =
      r.documents ++ Method.searchDocuments i.outcome.response := by
  rw [object, exit_of_accepts h, Method.object_accept_search]

lemma holdsOwnDocuments_iff (i : Invocation .search) (r : Method.search.Res) :
    i.HoldsOwnDocuments r ↔ i.FindsNoDocuments r := by
  refine forall_congr' ?_
  intro h
  rw [documents_object_search h]
  exact List.append_left_eq_self

/-! What a run keeps of the object at its start depends on its answers. -/

/-- The message that a refused call leaves. -/
def refusalText (i : Invocation m) : Option Str :=
  (m.refusal i.outcome).map (m.call i.self i.args i.timeout).refusalText

/-- The message after calls that write it only when they are refused: that of the last refusal,
or the one at the start. -/
def messageLeft (text : Str) (is : List (Invocation m)) : Str :=
  (is.filterMap refusalText).getLast?.getD text

/-- The result sets that the accepted calls of a run have added. -/
def documentsAdded (is : List (Invocation .search)) : List (List Document) :=
  (is.filter fun i => i.Accepts).flatMap fun i => Method.searchDocuments i.outcome.response

lemma message_object_of_refusalText {i : Invocation m} {text : Str}
    (h : i.refusalText = some text) (r : m.Res) : message (i.object r) = text := by
  obtain ⟨refused, hrefused, rfl⟩ := Option.map_eq_some_iff.mp h
  rw [object_of_refusal hrefused, fail_object, CallResult.message_setMessage]

lemma messageLeft_cons (text : Str) (i : Invocation m) (is : List (Invocation m)) :
    messageLeft text (i :: is) = messageLeft (i.refusalText.getD text) is := by
  unfold messageLeft
  cases h : i.refusalText with
  | none => rw [List.filterMap_cons_none h, Option.getD_none]
  | some t =>
    rw [List.filterMap_cons_some h, List.getLast?_cons, Option.getD_some, Option.getD_some]

lemma message_after (hkeeps : ∀ (i : Invocation m) (r : m.Res), i.Accepts →
      message (i.object r) = message r) (r : m.Res) (is : List (Invocation m)) :
    message (Reuse.after object r is) = messageLeft (message r) is := by
  induction is generalizing r with
  | nil => rfl
  | cons i is ih =>
    rw [Reuse.after_cons, ih, messageLeft_cons]
    congr 1
    cases h : i.refusalText with
    | none =>
      have hi : i.Accepts := (accepts_iff i).mpr (Option.map_eq_none_iff.mp h)
      exact hkeeps i r hi
    | some text => exact message_object_of_refusalText h r

lemma documents_after (r : Method.search.Res) (is : List (Invocation .search)) :
    (Reuse.after object r is).documents = r.documents ++ documentsAdded is := by
  induction is generalizing r with
  | nil => simp [documentsAdded]
  | cons i is ih =>
    rw [Reuse.after_cons, ih]
    by_cases hi : i.Accepts
    · simp [documents_object_search hi, documentsAdded, hi]
    · obtain ⟨text, htext⟩ := exit_of_not_accepts hi
      have hdocuments : (i.object r).documents = r.documents := by
        rw [object, htext]
        rfl
      simp [hdocuments, documentsAdded, hi]

/-- After the calls `is` on the object `r`, what the method keeps is that of `fresh`. -/
def KeptAfter : (m : Method) → m.Res → List (Invocation m) → m.Res → Prop
  | .createDatabase, r, is, fresh => messageLeft r.message is = fresh.message
  | .listDatabases, r, is, fresh => messageLeft r.message is = fresh.message
  | .dropDatabase, r, is, fresh => messageLeft r.message is = fresh.message
  | .query, r, is, fresh =>
      (fresh.success = true ↔ r.success = true ∧ ∀ i ∈ is, i.Accepts) ∧
        messageLeft r.message is = fresh.message
  | .search, r, is, fresh => r.documents ++ documentsAdded is = fresh.documents
  | _, _, _, _ => True

lemma agreesOnKept_after_iff (m : Method) (r fresh : m.Res) (is : List (Invocation m)) :
    m.AgreesOnKept (Reuse.after object r is) fresh ↔ KeptAfter m r is fresh := by
  -- four methods keep the message when they accept an answer
  have hmessage : (m = .createDatabase ∨ m = .listDatabases ∨ m = .dropDatabase ∨ m = .query) →
      message (Reuse.after object r is) = messageLeft (message r) is := by
    intro hm
    refine message_after (fun i r hi => ?_) r is
    rw [object, exit_of_accepts hi]
    rcases hm with rfl | rfl | rfl | rfl <;> rfl
  cases m
  case createDatabase | listDatabases | dropDatabase =>
    have hleft := hmessage (by simp)
    exact Eq.congr_left hleft
  case query =>
    have hleft := hmessage (by simp)
    have hflag : (Reuse.after object r is).success = true ↔
        r.success = true ∧ ∀ i ∈ is, i.Accepts := success_after_query r is
    refine and_congr ?_ (Eq.congr_left hleft)
    rw [Bool.eq_iff_iff, hflag]
    exact ⟨Iff.symm, Iff.symm⟩
  case search => exact Eq.congr_left (documents_after r is)
  all_goals exact Iff.rfl

/-- A successful call gives what it gives for the object `fresh` in another memory. -/
def AsFreshIn (fresh : m.Res) (other : Invocation m → Int64) (i : Invocation m) (r : m.Res) :
    Prop :=
  i.Accepts → i.object r = (i.inMemory (other i)).object fresh

lemma always_asFreshIn_iff (fresh r : m.Res) (other : Invocation m → Int64)
    (is : List (Invocation m)) :
    Reuse.Always object (AsFreshIn fresh other) r is ↔
      ∀ pre i post, is = pre ++ i :: post → i.Accepts →
        KeptAfter m r pre fresh ∧ (m = .createDatabase → i.memory = other i) := by
  rw [Reuse.always_iff]
  refine forall_congr' fun pre => forall_congr' fun i => forall_congr' fun post =>
    forall_congr' fun _ => forall_congr' fun h => ?_
  rw [object_eq_iff h, agreesOnKept_after_iff]

lemma always_holdsOwnDocuments_iff (r : Method.search.Res) (is : List (Invocation .search)) :
    Reuse.Always object HoldsOwnDocuments r is ↔
      ∀ pre i post, is = pre ++ i :: post → i.Accepts →
        r.documents = [] ∧ ∀ j ∈ pre, j.Accepts → j.outcome.response.results = [] := by
  rw [Reuse.always_congr holdsOwnDocuments_iff, Reuse.always_iff]
  refine forall_congr' fun pre => forall_congr' fun i => forall_congr' fun post =>
    forall_congr' fun _ => forall_congr' fun h => ?_
  rw [documents_after, List.append_eq_nil_iff]
  simp [documentsAdded, Method.searchDocuments]

/-- What a successful call makes of two objects is the same exactly when the objects agree
on what the method keeps (and, for `createDatabase`, the uninitialised memory does).  So,
along a run, each successful call gives what it gives for a fresh object exactly when the
object that it finds agrees with the fresh one on what is kept; a successful `search` gives
the documents of its own response exactly when it finds no documents.  What is kept there is
told by the object at the start and the answers before the call: the message of the last
refusal, for `query` also whether there was one, and for `search` the accepted result sets. -/
theorem accepted_object_independent_iff (m : Method) :
    (∀ (i : Invocation m) (memory' : Int64) (r r' : m.Res), i.Accepts →
      (i.object r = (i.inMemory memory').object r' ↔
        m.AgreesOnKept r r' ∧ (m = .createDatabase → i.memory = memory'))) ∧
    (∀ (fresh r : m.Res) (is : List (Invocation m)),
      Reuse.Always object (AsFresh fresh) r is ↔
        Reuse.Always object (FindsFresh fresh) r is) ∧
    (∀ (r : Method.search.Res) (is : List (Invocation .search)),
      Reuse.Always object HoldsOwnDocuments r is ↔
        Reuse.Always object FindsNoDocuments r is) ∧
    (∀ (fresh r : m.Res) (other : Invocation m → Int64) (is : List (Invocation m)),
      Reuse.Always object (AsFreshIn fresh other) r is ↔
        ∀ pre i post, is = pre ++ i :: post → i.Accepts →
          KeptAfter m r pre fresh ∧ (m = .createDatabase → i.memory = other i)) ∧
    (∀ (r : Method.search.Res) (is : List (Invocation .search)),
      Reuse.Always object HoldsOwnDocuments r is ↔
        ∀ pre i post, is = pre ++ i :: post → i.Accepts →
          r.documents = [] ∧ ∀ j ∈ pre, j.Accepts → j.outcome.response.results = []) :=
  ⟨fun _ memory' r r' h => object_eq_iff h memory' r r',
    fun fresh => Reuse.always_congr (asFresh_iff fresh),
    Reuse.always_congr holdsOwnDocuments_iff,
    always_asFreshIn_iff, always_holdsOwnDocuments_iff⟩

/-- A search that is answered with one empty result set. -/
def answeredSearch : Invocation .search where
  self := {}
  args := ("db".toList, "coll".toList, [], [[]], [], none)
  timeout := 5000
  memory := 0
  outcome := ⟨⟨0, []⟩, { results := [{}] }⟩

/-- A second search with the same object returns the result set of the first one too. -/
theorem search_keeps_earlier_documents :
    (answeredSearch.object ⟨false, [], [], []⟩).documents = [[]] ∧
      (answeredSearch.object (answeredSearch.object ⟨false, [], [], []⟩)).documents = [[], []] ∧
      ¬ ∀ (m : Method) (i : Invocation m) (r r' : m.Res), i.Accepts →
        i.object r = i.object r' := by
  refine ⟨rfl, rfl, ?_⟩
  intro h
  have heq := h .search answeredSearch ⟨false, [], [], []⟩ ⟨false, [], [], [[]]⟩ (by decide)
  have hdocs : ([[]] : List (List Document)) = [[], []] :=
    congrArg SearchDocumentResult.documents heq
  simp at hdocs

end Invocation

end VectorDb
