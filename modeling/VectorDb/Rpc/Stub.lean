/-
What a client hands to its stub.

Each method builds a request, sets the deadline of a context and hands both to the stub.  What
becomes of them then is up to the library, and nothing is said about that here.  Of the client
a call depends on the stub and on the consistency only, which no step writes; so the calls that
a session hands over are those that the constructor and the arguments ask for (`handed_eq`).
-/
import VectorDb.Rpc.Session

namespace VectorDb

/-- What a method hands to the stub. -/
structure StubCall where
  /-- The channel of the stub. -/
  channel : Channel
  /-- The time in milliseconds from now to the deadline of the context. -/
  timeout : Int32
  request : Σ m : Method, m.Req

/-- What a call of a method hands over. -/
def Method.stubCall (m : Method) (args : m.Args) (timeout : Option Int32) (c : LiveClient) :
    StubCall where
  channel := c.stub.channel
  timeout := (Step.rpc m args timeout c).timeout
  request := ⟨m, (Step.rpc m args timeout c).request⟩

/-- What a step hands over. -/
def Step.hands : Step → LiveClient → Option StubCall
  | call m args timeout, c => some (m.stubCall args timeout c)
  | _, _ => none

/-- A stub that sends each call over its open channel sends what it is handed. -/
lemma Step.sends_eq (i : Step) (c : LiveClient) :
    i.sends c = (i.hands c).map fun call => (call.channel, call.request) := by
  cases i with
  | call m args timeout => exact sends_call m args timeout c
  | setTimeout timeout => rfl
  | closeConnection => rfl

/-- The calls that a session hands over, from a client on. -/
def handed : LiveClient → List Step → List StubCall
  | _, [] => []
  | c, i :: steps => (i.hands c).toList ++ handed (i.next c) steps

/-- What a step should hand over, by the arguments of the constructor and its own ones. -/
def Construction.asked (b : Construction) (channel : Channel) : Step → Option StubCall
  | .call m args timeout => some
      { channel := channel
        timeout := timeout.getD 1000
        request := ⟨m, (m.call { option := b.clientOption } args 0).request⟩ }
  | _ => none

/-- Of the client a request depends on the consistency only. -/
lemma Method.request_congr (m : Method) {self self' : RpcClient}
    (h : self.option.readConsistency = self'.option.readConsistency) (args : m.Args)
    (timeout timeout' : Int32) :
    (m.call self args timeout).request = (m.call self' args timeout').request := by
  cases m
  case query => simp only [call, RpcClient.query, h]
  case search => simp only [call, RpcClient.search, h]
  all_goals rfl

lemma Method.stubCall_eq (m : Method) (self : RpcClient) {c : LiveClient}
    (h : c.option.readConsistency = self.option.readConsistency) (args : m.Args)
    (timeout : Option Int32) :
    m.stubCall args timeout c =
      ⟨c.stub.channel, timeout.getD 1000, ⟨m, (m.call self args 0).request⟩⟩ := by
  have htimeout : (Step.rpc m args timeout c).timeout = timeout.getD 1000 := by
    rw [Step.rpc, m.timeout_call, m.defaultTimeout_eq]
  have hrequest : (Step.rpc m args timeout c).request = (m.call self args 0).request :=
    m.request_congr h args _ _
  rw [stubCall, htimeout, hrequest]

/-- The constructor stores the options. -/
lemma Construction.option_client {b : Construction} {c : LiveClient} (h : c ∈ b.client) :
    c.option = b.clientOption := by
  unfold client at h
  cases hchannel : b.channel with
  | none => simp [hchannel] at h
  | some channel =>
    simp only [hchannel, Option.mem_def, Option.ite_none_right_eq_some, Option.some.injEq] at h
    rw [← h.2]

lemma Step.readConsistency_next (i : Step) (c : LiveClient) :
    (i.next c).option.readConsistency = c.option.readConsistency := by
  cases i <;> rfl

lemma Step.hands_eq {b : Construction} {c : LiveClient}
    (h : c.option.readConsistency = b.clientOption.readConsistency) (i : Step) :
    i.hands c = b.asked c.stub.channel i := by
  cases i with
  | setTimeout timeout => rfl
  | closeConnection => rfl
  | call m args timeout =>
    have hcall := m.stubCall_eq { option := b.clientOption } h args timeout
    exact congrArg some hcall

lemma handed_eq_of_readConsistency {b : Construction} {c : LiveClient}
    (h : c.option.readConsistency = b.clientOption.readConsistency) (steps : List Step) :
    handed c steps = steps.filterMap (b.asked c.stub.channel) := by
  induction steps generalizing c with
  | nil => rfl
  | cons i steps ih =>
    have hnext : (i.next c).option.readConsistency = b.clientOption.readConsistency :=
      (i.readConsistency_next c).trans h
    rw [handed, i.hands_eq h, ih hnext, Step.stub_next]
    cases hcall : b.asked c.stub.channel i with
    | none => rw [List.filterMap_cons_none hcall]; rfl
    | some call => rw [List.filterMap_cons_some hcall]; rfl

/-- A session hands over what its calls ask for, in their order, each once; no other step hands
over anything, and none influences a later call. -/
theorem Construction.handed_eq {b : Construction} {c : LiveClient} {channel : Channel}
    (hc : c ∈ b.client) (hchannel : channel ∈ b.channel) (steps : List Step) :
    handed c steps = steps.filterMap (b.asked channel) := by
  obtain ⟨channel', hchannel', hstub⟩ := client_eq_some hc
  obtain rfl : channel' = channel := Option.some.inj (hchannel'.symm.trans hchannel)
  rw [← hstub]
  exact handed_eq_of_readConsistency (by rw [option_client hc]) steps

end VectorDb
