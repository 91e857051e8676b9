/-
The constructor and the library: `rpc_client.cpp`.

The constructor hands the channel its limits and a factory of interceptors that knows the
credentials.  For each call the library makes an interceptor, which writes the token into the
metadata of the request.  Which calls the library delivers is not for the client to say: the
library is a parameter, and what it promises is named.  The results are what of a session can
reach the server (`session_traffic`), and which credentials the token tells apart
(`authToken_eq_iff`).
-/
import VectorDb.Lib.Separator
import VectorDb.Rpc.Stub
import Mathlib.Data.List.Perm.Subperm

namespace VectorDb

/-! ### The interceptor -/

/-- A point of a call at which the library runs the interceptors.  The code asks for one of
them. -/
inductive HookPoint where
  | preSendInitialMetadata
  | other (id : ℕ)
deriving DecidableEq, Repr

/-- The metadata of a request, with its entries in the order of their insertion. -/
abbrev Metadata : Type := List (Str × Str)

structure AuthInterceptor where
  authToken : Str
deriving DecidableEq, Repr

namespace AuthInterceptor

/-- `AuthInterceptor::AuthInterceptor`. -/
def new (username apiKey : Str) : AuthInterceptor where
  authToken := "Bearer account=".toList ++ username ++ "&api_key=".toList ++ apiKey

/-- The entry that the interceptor inserts. -/
def entry (self : AuthInterceptor) : Str × Str := ("authorization".toList, self.authToken)

/-- `AuthInterceptor::Intercept`, on a batch with the given hook points. -/
def intercept (self : AuthInterceptor) (hooks : List HookPoint) (metadata : Metadata) :
    Metadata :=
  if .preSendInitialMetadata ∈ hooks then metadata ++ [self.entry] else metadata

end AuthInterceptor

structure AuthInterceptorFactory where
  username : Str
  apiKey : Str
deriving DecidableEq, Repr

namespace AuthInterceptorFactory

/-- `AuthInterceptorFactory::CreateClientInterceptor`. -/
def createClientInterceptor (self : AuthInterceptorFactory) : AuthInterceptor :=
  .new self.username self.apiKey

/-- The metadata of one call, which the library runs through some batches. -/
def metadata (self : AuthInterceptorFactory) (batches : List (List HookPoint)) : Metadata :=
  batches.foldl (fun md hooks => self.createClientInterceptor.intercept hooks md) []

/-- Each batch that sends the initial metadata inserts the entry once. -/
lemma metadata_eq (self : AuthInterceptorFactory) (batches : List (List HookPoint)) :
    self.metadata batches =
      List.replicate (batches.countP fun hooks => .preSendInitialMetadata ∈ hooks)
        self.createClientInterceptor.entry := by
  have hfrom : ∀ md : Metadata,
      batches.foldl (fun md hooks => self.createClientInterceptor.intercept hooks md) md =
        md ++ List.replicate (batches.countP fun hooks => .preSendInitialMetadata ∈ hooks)
          self.createClientInterceptor.entry := by
    induction batches with
    | nil => simp
    | cons hooks batches ih =>
      intro md
      rw [List.foldl_cons, ih]
      by_cases hhook : HookPoint.preSendInitialMetadata ∈ hooks
      · simp [AuthInterceptor.intercept, hhook, List.replicate_succ]
      · simp [AuthInterceptor.intercept, hhook]
  exact hfrom []

end AuthInterceptorFactory

/-! ### The token -/

/-- The token of some credentials. -/
def authToken (c : Str × Str) : Str := (AuthInterceptor.new c.1 c.2).authToken

/-- The text between the two parts of a token. -/
def keySeparator : Str := "&api_key=".toList

lemma authToken_eq (c : Str × Str) :
    authToken c = "Bearer account=".toList ++ Separator.join keySeparator c.1 c.2 := by
  have hassoc : ∀ a u s k : Str, a ++ u ++ s ++ k = a ++ (u ++ (s ++ k)) := by
    intro a u s k
    simp
  exact hassoc _ _ _ _

/-- **Which credentials share a token.**  Two users have the same token exactly when they have
the same credentials, or when the name of one is the name of the other one followed by
`&api_key=` and a part of its key; so names without that text share no token. -/
theorem authToken_eq_iff (c c' : Str × Str) :
    (authToken c = authToken c' ↔
      c = c' ∨ Separator.Later keySeparator c c' ∨ Separator.Later keySeparator c' c) ∧
    (¬ keySeparator <:+: c.1 → ¬ keySeparator <:+: c'.1 →
      (authToken c = authToken c' ↔ c = c')) := by
  have hsep : Separator.Unbordered keySeparator := by
    show '&' ∉ "api_key=".toList
    decide
  have hiff : authToken c = authToken c' ↔
      c = c' ∨ Separator.Later keySeparator c c' ∨ Separator.Later keySeparator c' c := by
    rw [authToken_eq, authToken_eq, List.append_right_inj, Separator.join_eq_join_iff hsep]
  refine ⟨hiff, ?_⟩
  intro hname hname'
  rw [hiff]
  constructor
  · rintro (heq | hlater | hlater)
    · exact heq
    · exact absurd hlater.isInfix hname'
    · exact absurd hlater.isInfix hname
  · exact Or.inl

/-! ### The library -/

/-- The channel arguments. -/
structure ChannelArguments where
  maxReceiveMessageSize : Int32
  maxSendMessageSize : Int32
  /-- The time in milliseconds before the first attempt to connect again. -/
  initialReconnectBackoff : Int32
deriving DecidableEq, Repr

/-- What the library makes of the calls that a session hands over. -/
structure Library where
  /-- The calls that reach the server, by their positions, in the order in which they come. -/
  arrivals : List StubCall → List ℕ
  /-- The batches in which the interceptor of the call at a position is run. -/
  batches : List StubCall → ℕ → List (List HookPoint)
  /-- The length of a request in bytes. -/
  size : (Σ m : Method, m.Req) → ℕ

namespace Library

variable (lib : Library)

/-- The initial metadata of a call that reaches the server has been sent once. -/
def SendsMetadataOnce : Prop :=
  ∀ calls, ∀ n ∈ lib.arrivals calls,
    (lib.batches calls n).countP (fun hooks => .preSendInitialMetadata ∈ hooks) = 1

/-- No call reaches the server twice. -/
def AtMostOnce : Prop := ∀ calls, (lib.arrivals calls).Nodup

/-- A request above the limit of the channel is not sent. -/
def KeepsSendLimit (args : ChannelArguments) : Prop :=
  ∀ calls, ∀ n ∈ lib.arrivals calls, ∀ call ∈ calls[n]?,
    (lib.size call.request : ℤ) ≤ args.maxSendMessageSize.toInt

end Library

/-- Distinct positions of a list give some of its entries, in some order. -/
lemma subperm_of_positions {α : Type} (l : List α) {positions : List ℕ} (h : positions.Nodup) :
    (positions.filterMap (l[·]?)).Subperm l := by
  have hall : (List.range l.length).filterMap (l[·]?) = l := by
    induction l with
    | nil => rfl
    | cons x l ih =>
      have hhead : (x :: l)[0]? = some x := rfl
      rw [List.length_cons, List.range_succ_eq_map, List.filterMap_cons_some hhead,
        List.filterMap_map]
      exact congrArg (x :: ·) ih
  -- the positions beyond the end give nothing
  have hinside : positions.filterMap (l[·]?) =
      (positions.filter (· < l.length)).filterMap (l[·]?) := by
    rw [List.filterMap_filter]
    refine List.filterMap_congr fun n _ => ?_
    by_cases hn : n < l.length
    · simp [hn]
    · simp [Nat.le_of_not_lt hn]
  obtain ⟨positions', hperm, hsub⟩ : (positions.filter (· < l.length)).Subperm
      (List.range l.length) := by
    refine List.subperm_of_subset (h.filter _) fun n hn => ?_
    simpa using (List.mem_filter.mp hn).2
  rw [hinside]
  have hsub' := hsub.filterMap (l[·]?)
  rw [hall] at hsub'
  exact ⟨_, hperm.filterMap _, hsub'⟩

/-! ### What reaches the server -/

/-- All arguments of the constructor, and what the library answers. -/
structure Connection extends Construction where
  url : Str
  username : Str
  key : Str

/-- A message at the server. -/
structure Message where
  /-- The address that the channel was created for. -/
  target : Str
  metadata : Metadata
  /-- The time to the deadline that the call was given. -/
  timeout : Int32
  request : Σ m : Method, m.Req

namespace Connection

/-- The local `rpcTarget` of the constructor. -/
def rpcTarget (url : Str) : Str :=
  -- `url.find("http://") == 0`
  if "http://".toList <+: url then url.drop 7 else url

/-- The factory that the constructor gives to the channel. -/
def factory (k : Connection) : AuthInterceptorFactory := ⟨k.username, k.key⟩

/-- The arguments that the constructor gives to the channel. -/
def channelArgs (k : Connection) : ChannelArguments where
  maxReceiveMessageSize := 16 * 1024 * 1024
  maxSendMessageSize := 16 * 1024 * 1024
  initialReconnectBackoff := k.clientOption.timeout

/-- The message of a call. -/
def message (k : Connection) (metadata : Metadata) (call : StubCall) : Message :=
  ⟨rpcTarget k.url, metadata, call.timeout, call.request⟩

/-- The messages of a session that reach the server. -/
def traffic (k : Connection) (lib : Library) (c : LiveClient) (steps : List Step) :
    List Message :=
  (lib.arrivals (handed c steps)).filterMap fun n =>
    (handed c steps)[n]?.map
      (k.message (k.factory.metadata (lib.batches (handed c steps) n)))

/-- The message that a step should lead to, by the arguments of the constructor and its own
ones. -/
def expected (k : Connection) (channel : Channel) (i : Step) : Option Message :=
  (k.asked channel i).map (k.message [("authorization".toList, authToken (k.username, k.key))])

variable {k : Connection} {lib : Library}

lemma traffic_eq (honce : lib.SendsMetadataOnce) (c : LiveClient) (steps : List Step) :
    k.traffic lib c steps =
      (lib.arrivals (handed c steps)).filterMap
        (((handed c steps).map
          (k.message [("authorization".toList, authToken (k.username, k.key))]))[·]?) := by
  refine List.filterMap_congr fun n hn => ?_
  have hmetadata : k.factory.metadata (lib.batches (handed c steps) n) =
      [("authorization".toList, authToken (k.username, k.key))] := by
    rw [AuthInterceptorFactory.metadata_eq, honce _ n hn]
    rfl
  rw [hmetadata, List.getElem?_map]

lemma size_le_of_mem_traffic (hlimit : lib.KeepsSendLimit k.channelArgs) {c : LiveClient}
    {steps : List Step} {x : Message} (hx : x ∈ k.traffic lib c steps) :
    lib.size x.request ≤ 16 * 1024 * 1024 := by
  obtain ⟨n, hn, hmessage⟩ := List.mem_filterMap.mp hx
  obtain ⟨call, hcall, rfl⟩ := Option.map_eq_some_iff.mp hmessage
  have hsize := hlimit _ n hn call hcall
  have hvalue : k.channelArgs.maxSendMessageSize.toInt = 16777216 := rfl
  show lib.size call.request ≤ _
  omega

/-- **The traffic of a session.**  A session hands to the library what its calls ask for: in
their order, each call once, over the channel of the constructor, with its own timeout or a
second, and with a request that no step of the session influences.  Of these calls some reach
the server, each at most once, at the address of the constructor, with the session's token once
and not above the limit on what is sent; and nothing else reaches it. -/
theorem session_traffic (honce : lib.SendsMetadataOnce) (hatmost : lib.AtMostOnce)
    (hlimit : lib.KeepsSendLimit k.channelArgs) (steps : List Step) :
    ∀ c ∈ k.client, ∀ channel ∈ k.channel,
      handed c steps = steps.filterMap (k.asked channel) ∧
      (k.traffic lib c steps).Subperm (steps.filterMap (k.expected channel)) ∧
      ∀ x ∈ k.traffic lib c steps, lib.size x.request ≤ 16 * 1024 * 1024 := by
  intro c hc channel hchannel
  have hhanded : handed c steps = steps.filterMap (k.asked channel) :=
    Construction.handed_eq hc hchannel steps
  refine ⟨hhanded, ?_, fun x hx => size_le_of_mem_traffic hlimit hx⟩
  have hexpected : (handed c steps).map
      (k.message [("authorization".toList, authToken (k.username, k.key))]) =
        steps.filterMap (k.expected channel) := by
    rw [hhanded, List.map_filterMap]
    rfl
  rw [traffic_eq honce, hexpected]
  exact subperm_of_positions _ (hatmost _)

/-- A client of a local server. -/
def localClient : Connection where
  toConstruction := Construction.plain
  url := "http://127.0.0.1:8100".toList
  username := "root".toList
  key := "key".toList

/-- Two counts, with the connection closed between them. -/
def countTwice : List Step :=
  [.call .count ("db".toList, "coll".toList, none) none, .setTimeout 5000, .closeConnection,
    .call .count ("db".toList, "coll".toList, none) (some 2000)]

/-- All calls come through, in three batches each.  The requests have ten bytes. -/
def countLibrary : Library where
  arrivals calls := List.range calls.length
  batches _ _ := [[.other 0, .preSendInitialMetadata], [.other 1], [.other 2]]
  size _ := 10

theorem session_traffic_local :
    ∃ c channel, localClient.client = some c ∧ localClient.channel = some channel ∧
      handed c countTwice = countTwice.filterMap (localClient.asked channel) ∧
      (localClient.traffic countLibrary c countTwice).Subperm
        (countTwice.filterMap (localClient.expected channel)) ∧
      ∀ x ∈ localClient.traffic countLibrary c countTwice,
        countLibrary.size x.request ≤ 16 * 1024 * 1024 :=
  ⟨_, _, rfl, rfl, session_traffic (fun _ _ _ => rfl) (fun _ => List.nodup_range)
    (fun _ _ _ _ _ => show (10 : ℤ) ≤ (16 * 1024 * 1024 : Int32).toInt by decide)
    countTwice _ rfl _ rfl⟩

end Connection

end VectorDb
