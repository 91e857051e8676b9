/-
One call of an RPC method.

A method builds a request, sends it with a deadline, and finishes according to the outcome.
It finishes on one of several paths; a path is the return code and the assignments that it
makes through the result pointer, in their order.  All methods make the same two checks
after the request, so these are written once (`Call.resume`), and a method is given by what
differs: the request, the texts of its two errors and the path of an accepted answer.
-/
import VectorDb.Types.Basic

namespace VectorDb

/-- The status of a remote call; the code `0` is `OK`. -/
structure Status where
  /-- The status code. -/
  code : Int32
  /-- The error message. -/
  errorMessage : Str
deriving DecidableEq, Repr

/-- `Status::ok`. -/
def Status.ok (s : Status) : Bool := s.code == 0

/-- What the stub hands back: the status and the response, which may hold anything when the
call failed. -/
structure Outcome (Resp : Type) where
  /-- The status of the call. -/
  status : Status
  /-- The response message. -/
  response : Resp

/-- The code and the message that every response carries. -/
class Reply (Resp : Type) where
  code : Resp → Int32
  msg : Resp → Str

/-- The flag and the message that every result object carries, and the assignments to
them. -/
class CallResult (Res : Type) where
  success : Res → Bool
  message : Res → Str
  setSuccess : Bool → Res → Res
  setMessage : Str → Res → Res
  success_setSuccess : ∀ b r, success (setSuccess b r) = b := by intros; rfl
  success_setMessage : ∀ s r, success (setMessage s r) = success r := by intros; rfl
  message_setSuccess : ∀ b r, message (setSuccess b r) = message r := by intros; rfl
  message_setMessage : ∀ s r, message (setMessage s r) = s := by intros; rfl

attribute [simp] CallResult.success_setSuccess CallResult.success_setMessage
  CallResult.message_setSuccess CallResult.message_setMessage

/-- A path to the end of a method. -/
structure Exit (Res : Type) where
  /-- The value returned. -/
  ret : ℤ
  /-- The assignments to members of the result object. -/
  assigns : List (Res → Res)

/-- The result object after the assignments of a path. -/
def Exit.object {Res : Type} (e : Exit Res) (r : Res) : Res :=
  e.assigns.foldl (fun r assign => assign r) r

/-- A call: what is sent, with which timeout in milliseconds, and how the method goes on
with the answer. -/
structure Call (Req Resp Res : Type) where
  /-- The request. -/
  request : Req
  /-- The time from now to the deadline. -/
  timeout : Int32
  /-- The text before the error message of a status that is not `OK`. -/
  onStatus : String
  /-- The text before the message of a response whose code is not `0`. -/
  onCode : String
  /-- The path taken after both checks.  The first argument is what the memory of an
  uninitialised local happens to hold. -/
  accept : Int64 → Resp → Exit Res

section Checks

variable {Req Resp Res : Type} [Reply Resp] [CallResult Res]

/-- The path of a failure. -/
def fail (text : Str) : Exit Res :=
  ⟨-1, [CallResult.setSuccess false, CallResult.setMessage text]⟩

/-- The path from the answer of the stub to the end of the method. -/
def Call.resume (call : Call Req Resp Res) (memory : Int64) (o : Outcome Resp) : Exit Res :=
  if !o.status.ok then
    fail (call.onStatus.toList ++ o.status.errorMessage)
  else if Reply.code o.response ≠ 0 then
    fail (call.onCode.toList ++ Reply.msg o.response)
  else
    call.accept memory o.response

/-- Everything in the result object but the flag and the message is the same. -/
def SamePayload (r r' : Res) : Prop :=
  r' = CallResult.setMessage (CallResult.message r')
    (CallResult.setSuccess (CallResult.success r') r)

@[simp] lemma fail_ret (text : Str) : (fail text : Exit Res).ret = -1 := rfl

@[simp] lemma fail_object (text : Str) (r : Res) :
    (fail text).object r = CallResult.setMessage text (CallResult.setSuccess false r) := rfl

lemma samePayload_fail (text : Str) (r : Res) : SamePayload r ((fail text).object r) := by
  simp [SamePayload]

lemma success_fail (text : Str) (r : Res) :
    CallResult.success ((fail text).object r) = false := by
  simp

/-- The two checks pass. -/
def Passes (o : Outcome Resp) : Prop :=
  o.status.ok = true ∧ Reply.code o.response = 0

instance (o : Outcome Resp) : Decidable (Passes o) :=
  inferInstanceAs (Decidable (_ ∧ _))

lemma resume_of_passes {o : Outcome Resp} (h : Passes o) (call : Call Req Resp Res)
    (memory : Int64) : call.resume memory o = call.accept memory o.response := by
  simp [Call.resume, h.1, h.2]

/-- When a check fails, the path is one of the failures. -/
lemma resume_of_not_passes {o : Outcome Resp} (h : ¬ Passes o) (call : Call Req Resp Res)
    (memory : Int64) : ∃ text, call.resume memory o = fail text := by
  unfold Call.resume
  cases hok : o.status.ok with
  | false => exact ⟨_, rfl⟩
  | true =>
    have hcode : Reply.code o.response ≠ 0 := fun hcode => h ⟨hok, hcode⟩
    exact ⟨call.onCode.toList ++ Reply.msg o.response, by simp [hcode]⟩

lemma passes_of_ret_eq_zero {o : Outcome Resp} {call : Call Req Resp Res} {memory : Int64}
    (h : (call.resume memory o).ret = 0) : Passes o := by
  by_contra hpass
  obtain ⟨text, htext⟩ := resume_of_not_passes hpass call memory
  rw [htext, fail_ret] at h
  omega

end Checks

end VectorDb
