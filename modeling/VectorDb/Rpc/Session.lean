/-
Runs of a client.

A client is constructed, and then `setTimeout`, `closeConnection` and the RPC methods are
called in any order.  The channel to the server has two owners, the member `grpcChannel_` and
the stub, and it is open as long as either of them refers to it.  The results are when the
waits of a run are those that the configured timeout asks for (`waits_in_force_iff`) and when
nothing is sent after the connection was closed (`silent_after_close_iff`), where the stub is
taken to send each call as long as its channel is open.
-/
import VectorDb.Rpc.Method

namespace VectorDb

/-! ### The client object -/

/-- A channel to the server, by its identity. -/
structure Channel where
  id : ℕ
deriving DecidableEq, Repr

/-- The generated stub, with its own reference to the channel it was created from. -/
structure Stub where
  channel : Channel
deriving DecidableEq, Repr

/-- The client with the members that hold its connection. -/
structure LiveClient extends RpcClient where
  grpcChannel : Option Channel
  stub : Stub

namespace LiveClient

/-- The references to channels that the client holds. -/
def references (c : LiveClient) : List Channel := c.grpcChannel.toList ++ [c.stub.channel]

/-- A channel is open as long as a reference to it remains. -/
def Open (c : LiveClient) (channel : Channel) : Prop := channel ∈ c.references

instance (c : LiveClient) (channel : Channel) : Decidable (c.Open channel) :=
  inferInstanceAs (Decidable (_ ∈ _))

/-- `RpcClient::setTimeout`. -/
def setTimeout (c : LiveClient) (timeout : Int32) : LiveClient :=
  { c with option := { c.option with timeout := timeout } }

/-- `RpcClient::closeConnection`. -/
def closeConnection (c : LiveClient) : LiveClient := { c with grpcChannel := none }

lemma open_stub (c : LiveClient) : c.Open c.stub.channel := by
  simp [Open, references]

end LiveClient

/-- The arguments that decide the course of the constructor, and what the library answers. -/
structure Construction where
  /-- The pointer to the options. -/
  option : Option ClientOption
  /-- The channel that is created, or the null pointer. -/
  channel : Option Channel
  /-- The channel connects before the deadline. -/
  connected : Bool

namespace Construction

/-- The member `option_` of the new client. -/
def clientOption (b : Construction) : ClientOption :=
  match b.option with
  | none => {}
  | some option => option

/-- The time in milliseconds for which the constructor waits for the connection.  It throws
without waiting when there is no channel. -/
def wait (b : Construction) : Option ℤ :=
  -- `gpr_time_from_seconds(option_.timeout / 1000)`
  b.channel.map fun _ => (b.clientOption.timeout / 1000).toInt * 1000

/-- `RpcClient::RpcClient`, with `none` for an exception. -/
def client (b : Construction) : Option LiveClient :=
  match b.channel with
  | none => none
  | some channel =>
      if b.connected then
        some { option := b.clientOption, grpcChannel := some channel, stub := ⟨channel⟩ }
      else
        none

lemma client_eq_some {b : Construction} {c : LiveClient} (h : b.client = some c) :
    ∃ channel, b.channel = some channel ∧ c.stub.channel = channel := by
  unfold client at h
  cases hchannel : b.channel with
  | none => simp [hchannel] at h
  | some channel =>
    simp only [hchannel, Option.ite_none_right_eq_some, Option.some.injEq] at h
    obtain ⟨-, rfl⟩ := h
    exact ⟨channel, rfl, rfl⟩

end Construction

/-! ### The steps of a run -/

/-- The default of the timeout argument. -/
def Method.defaultTimeout : Method → Int32
  | createDatabase | listDatabases | dropDatabase | createCollection | listCollections
  | describeCollection | truncateCollection | dropCollection | rebuildIndex | upsert | query
  | dele | update | search | count => 1000

/-- One use of the client.  The timeout of a call is `none` when the caller leaves it at its
default. -/
inductive Step where
  | setTimeout (timeout : Int32)
  | closeConnection
  | call (m : Method) (args : m.Args) (timeout : Option Int32)

namespace Step

/-- The client after the step; the RPC methods do not write to it. -/
def next : Step → LiveClient → LiveClient
  | setTimeout timeout, c => c.setTimeout timeout
  | closeConnection, c => c.closeConnection
  | call _ _ _, c => c

/-- The call that a method makes of the client, with the timeout or its default. -/
def rpc (m : Method) (args : m.Args) (timeout : Option Int32) (c : LiveClient) :
    Call m.Req m.Resp m.Res :=
  m.call c.toRpcClient args (timeout.getD m.defaultTimeout)

/-- The time in milliseconds from now to the deadline of the call. -/
def wait : Step → LiveClient → Option ℤ
  | call m args timeout, c => some (rpc m args timeout c).timeout.toInt
  | _, _ => none

/-- The channel over which the step sends a request, and the request, when the stub sends each
call as long as its channel is open. -/
def sends : Step → LiveClient → Option (Channel × Σ m : Method, m.Req)
  | call m args timeout, c =>
      if c.Open c.stub.channel then
        some (c.stub.channel, ⟨m, (rpc m args timeout c).request⟩)
      else
        none
  | _, _ => none

/-- The step is a call of an RPC method. -/
def IsCall : Step → Prop
  | call _ _ _ => True
  | _ => False

/-- The stub keeps its channel. -/
lemma stub_next (i : Step) (c : LiveClient) : (i.next c).stub = c.stub := by
  cases i <;> rfl

lemma stub_after (c : LiveClient) (steps : List Step) :
    (Reuse.after next c steps).stub = c.stub := by
  induction steps generalizing c with
  | nil => rfl
  | cons i steps ih => rw [Reuse.after_cons, ih, stub_next]

/-- A call sends its request: the channel of the stub is always open. -/
lemma sends_call (m : Method) (args : m.Args) (timeout : Option Int32) (c : LiveClient) :
    (call m args timeout).sends c =
      some (c.stub.channel, ⟨m, (rpc m args timeout c).request⟩) :=
  if_pos c.open_stub

end Step

/-! ### The timeout in force -/

/-- The timeout in force after some steps: the latest one that was set, or the one at the
start. -/
def timeoutInForce (timeout : Int32) (steps : List Step) : Int32 :=
  steps.foldl (fun t i => match i with | .setTimeout t' => t' | _ => t) timeout

/-- The time for which a step should wait when `timeout` is in force. -/
def Step.required (timeout : Int32) : Step → Option ℤ
  | .call _ _ own => some (own.getD timeout).toInt
  | _ => none

/-- The options of the client hold the timeout in force, though no call reads it there. -/
theorem timeout_after (c : LiveClient) (steps : List Step) :
    (Reuse.after Step.next c steps).option.timeout =
      timeoutInForce c.option.timeout steps := by
  induction steps generalizing c with
  | nil => rfl
  | cons i steps ih =>
    rw [Reuse.after_cons, ih]
    cases i <;> rfl

/-- A method waits for the time that it is called with. -/
lemma Method.timeout_call (m : Method) (self : RpcClient) (args : m.Args) (timeout : Int32) :
    (m.call self args timeout).timeout = timeout := by
  cases m <;> rfl

lemma Method.defaultTimeout_eq (m : Method) : m.defaultTimeout = 1000 := by
  cases m <;> rfl

/-- No call looks at the options for its timeout. -/
lemma Step.wait_call (m : Method) (args : m.Args) (timeout : Option Int32) (c : LiveClient) :
    (call m args timeout).wait c = some (timeout.getD 1000).toInt := by
  rw [wait, rpc, m.timeout_call, m.defaultTimeout_eq]

lemma Step.wait_eq_required_iff (i : Step) (c : LiveClient) (timeout : Int32) :
    i.wait c = i.required timeout ↔ ∀ m args, i = .call m args none → timeout = 1000 := by
  rcases i with t | _ | ⟨m, args, _ | own⟩
  · exact iff_of_true rfl (by simp)
  · exact iff_of_true rfl (by simp)
  · rw [wait_call, required, Option.some_inj, Int32.toInt_inj]
    constructor
    · intro h _ _ _
      exact h.symm
    · intro h
      exact (h m args rfl).symm
  · refine iff_of_true ?_ (by simp)
    rw [wait_call, required]
    rfl

/-- A division by a thousand loses nothing exactly when there is no remainder. -/
lemma seconds_eq_iff (t : Int32) : (t / 1000).toInt * 1000 = t.toInt ↔ (1000 : ℤ) ∣ t.toInt := by
  have hne : (1000 : Int32) ≠ -1 := by decide
  have hthousand : (1000 : Int32).toInt = 1000 := rfl
  rw [Int32.toInt_div_of_ne_right _ _ hne, hthousand]
  constructor
  · intro h
    rw [← h]
    exact Int.dvd_mul_left _ _
  · exact Int.tdiv_mul_cancel

namespace Construction

variable (b : Construction) (steps : List Step)

/-- Every wait of the run is for the timeout in force. -/
def WaitsInForce : Prop :=
  (∀ w ∈ b.wait, w = b.clientOption.timeout.toInt) ∧
  ∀ c ∈ b.client, ∀ pre i post, steps = pre ++ i :: post →
    i.wait (Reuse.after Step.next c pre) =
      i.required (timeoutInForce b.clientOption.timeout pre)

lemma wait_iff :
    (∀ w ∈ b.wait, w = b.clientOption.timeout.toInt) ↔
      (b.channel.isSome = true → (1000 : ℤ) ∣ b.clientOption.timeout.toInt) := by
  rw [← seconds_eq_iff, wait]
  cases b.channel <;> simp

/-- **The timeout in force.**  All waits of a run are for the timeout in force exactly when
the option's timeout is a whole number of seconds and every call that leaves its timeout at
the default is made while the timeout in force is a second. -/
theorem waits_in_force_iff :
    b.WaitsInForce steps ↔
      (b.channel.isSome = true → (1000 : ℤ) ∣ b.clientOption.timeout.toInt) ∧
      (b.client.isSome = true → ∀ pre m args post, steps = pre ++ .call m args none :: post →
        timeoutInForce b.clientOption.timeout pre = 1000) := by
  refine and_congr b.wait_iff ?_
  constructor
  · intro h hclient pre m args post heq
    obtain ⟨c, hc⟩ := Option.isSome_iff_exists.mp hclient
    exact (Step.wait_eq_required_iff _ _ _).mp (h c hc pre _ post heq) m args rfl
  · intro h c hc pre i post heq
    refine (Step.wait_eq_required_iff _ _ _).mpr ?_
    rintro m args rfl
    exact h (Option.isSome_iff_exists.mpr ⟨c, hc⟩) pre m args post heq

/-! ### Traffic after the close -/

/-- No step after a `closeConnection` sends a request over the channel. -/
def SilentAfterClose : Prop :=
  ∀ c ∈ b.client, ∀ channel ∈ b.channel, ∀ pre i post, steps = pre ++ i :: post →
    .closeConnection ∈ pre →
      ∀ request, i.sends (Reuse.after Step.next c pre) ≠ some (channel, request)

/-- **No traffic after the close.**  Nothing is sent over the channel after the connection
was closed exactly when no RPC method is called after that. -/
theorem silent_after_close_iff :
    b.SilentAfterClose steps ↔
      (b.client.isSome = true → ∀ pre i post, steps = pre ++ i :: post →
        .closeConnection ∈ pre → ¬ i.IsCall) := by
  constructor
  · intro h hclient pre i post heq hclose hcall
    obtain ⟨c, hc⟩ := Option.isSome_iff_exists.mp hclient
    obtain ⟨channel, hchannel, hstub⟩ := client_eq_some hc
    cases i with
    | call m args timeout =>
      have hsends := Step.sends_call m args timeout (Reuse.after Step.next c pre)
      rw [Step.stub_after, hstub] at hsends
      exact h c hc channel hchannel pre _ post heq hclose _ hsends
    | setTimeout timeout => exact hcall
    | closeConnection => exact hcall
  · intro h c hc channel _ pre i post heq hclose request hsends
    have hcall := h (Option.isSome_iff_exists.mpr ⟨c, hc⟩) pre i post heq hclose
    cases i with
    | call m args timeout => exact hcall trivial
    | setTimeout timeout => simp [Step.sends] at hsends
    | closeConnection => simp [Step.sends] at hsends

/-- A client with the default options, over a channel that connects. -/
def plain : Construction where
  option := none
  channel := some ⟨0⟩
  connected := true

/-- `setTimeout(5000)`, and then a `createCollection` that is given no timeout. -/
def slowCreate : List Step :=
  [.setTimeout 5000,
    .call .createCollection ("db".toList, "coll".toList, 3, 0, "test collection".toList, {},
      none) none]

/-- The collection is waited for a second, not five; and a client whose option is half a
second does not wait at all. -/
theorem set_timeout_ignored :
    (∀ c, slowCreate.map (fun i => i.wait c) = [none, some 1000]) ∧
      timeoutInForce 5000 [.setTimeout 5000] = 5000 ∧
      ({ plain with option := some { timeout := 500 } } : Construction).wait = some 0 ∧
      ¬ ∀ (b : Construction) (steps : List Step), b.WaitsInForce steps := by
  refine ⟨fun _ => rfl, rfl, rfl, ?_⟩
  intro h
  have hwaits := (h plain slowCreate).2 _ rfl [.setTimeout 5000] _ [] rfl
  exact absurd hwaits (by decide)

/-- `closeConnection`, and then an `upsert` of nothing. -/
def upsertAfterClose : List Step :=
  [.closeConnection, .call .upsert ("db".toList, "coll".toList, [], none) none]

/-- The stub still has the channel, so the request is sent. -/
theorem upsert_after_close_sends :
    (∀ c ∈ plain.client, c.closeConnection.grpcChannel = none ∧
      upsertAfterClose.map (fun i => ((i.sends c.closeConnection).map Prod.fst)) =
        [none, some ⟨0⟩]) ∧
      ¬ ∀ (b : Construction) (steps : List Step), b.SilentAfterClose steps := by
  refine ⟨?_, ?_⟩
  · intro c hc
    obtain rfl := Option.some.inj hc
    exact ⟨rfl, rfl⟩
  · intro h
    exact h plain upsertAfterClose _ rfl ⟨0⟩ rfl [.closeConnection] _ [] rfl (by simp) _ rfl

end Construction

end VectorDb
