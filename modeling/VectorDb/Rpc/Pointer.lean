/-
The result pointer of a call.

The declarations of eleven methods let the caller leave the result object out: the pointer is
then null.  Here the assignments of a path are made through the pointer, where a null pointer
stops the call.  With an object a call does what `VectorDb.Rpc.Method` says of it
(`through_some`); without one it stops on every path, because every path assigns something
(`Invocation.assigns_ne_nil`).
-/
import VectorDb.Rpc.Method

namespace VectorDb

variable {Res : Type}

/-- Make assignments through a pointer: what it points to afterwards, or `none` when a null
pointer is dereferenced. -/
def assignThrough : List (Res → Res) → Option Res → Option (Option Res)
  | [], result => some result
  | _ :: _, none => none
  | assign :: rest, some r => assignThrough rest (some (assign r))

/-- Go along a path with a result pointer: the value returned and what the pointer points to
afterwards, or `none` when a null pointer is dereferenced. -/
def Exit.through (e : Exit Res) (result : Option Res) : Option (ℤ × Option Res) :=
  (assignThrough e.assigns result).map fun result => (e.ret, result)

lemma assignThrough_some (assigns : List (Res → Res)) (r : Res) :
    assignThrough assigns (some r) = some (some (assigns.foldl (fun r assign => assign r) r)) := by
  induction assigns generalizing r with
  | nil => rfl
  | cons assign rest ih => exact ih (assign r)

/-- With an object the path is the one without pointers. -/
lemma Exit.through_some (e : Exit Res) (r : Res) :
    e.through (some r) = some (e.ret, some (e.object r)) := by
  rw [Exit.through, assignThrough_some]
  rfl

/-- Without one, the first assignment is fatal. -/
lemma Exit.through_none {e : Exit Res} (h : e.assigns ≠ []) : e.through none = none := by
  rw [Exit.through]
  cases hassigns : e.assigns with
  | nil => exact absurd hassigns h
  | cons assign rest => rfl

/-- The default of the result argument: the null pointer, or `none` when the argument must be
given. -/
def Method.defaultResult : (m : Method) → Option (Option m.Res)
  | .createDatabase | .listDatabases | .dropDatabase | .listCollections => none
  | .createCollection | .describeCollection | .truncateCollection | .dropCollection
  | .rebuildIndex | .upsert | .query | .dele | .update | .search | .count => some none

lemma Method.defaultResult_eq_some {m : Method} {result : Option m.Res}
    (h : m.defaultResult = some result) : result = none := by
  cases m <;> simp [defaultResult] at h <;> exact h.symm

lemma Method.assigns_accept_ne_nil (m : Method) (self : RpcClient) (args : m.Args)
    (timeout : Int32) (memory : Int64) {response : m.Resp} (h : m.Complete response) :
    ((m.call self args timeout).accept memory response).assigns ≠ [] := by
  cases m
  case describeCollection =>
    obtain ⟨item, hitem⟩ := Option.isSome_iff_exists.mp h
    rw [accept_describeCollection self timeout memory args hitem]
    exact List.cons_ne_nil _ _
  all_goals exact List.cons_ne_nil _ _

namespace Invocation

variable {m : Method}

/-- Every path of every method assigns something. -/
lemma assigns_ne_nil (i : Invocation m) : i.exit.assigns ≠ [] := by
  by_cases h : i.Accepts
  · rw [exit_of_accepts h]
    exact m.assigns_accept_ne_nil i.self i.args i.timeout i.memory h.2
  · obtain ⟨text, htext⟩ := exit_of_not_accepts h
    rw [htext]
    exact List.cons_ne_nil _ _

/-- The call returns what it returns with an object. -/
def ReturnsWith (i : Invocation m) (result : Option m.Res) : Prop :=
  ∃ result', i.exit.through result = some (i.ret, result')

lemma returnsWith_some (i : Invocation m) (r : m.Res) : i.ReturnsWith (some r) :=
  ⟨some (i.object r), i.exit.through_some r⟩

/-- No call that leaves the result object out ever returns: whatever its other arguments and
whatever the answer, it dereferences the null pointer.  With any object it returns. -/
theorem default_result_dereferenced (m : Method) (result : Option m.Res)
    (h : m.defaultResult = some result) (i : Invocation m) :
    i.exit.through result = none ∧ ¬ i.ReturnsWith result ∧ ∀ r, i.ReturnsWith (some r) := by
  obtain rfl := Method.defaultResult_eq_some h
  have hnull : i.exit.through none = none := Exit.through_none i.assigns_ne_nil
  refine ⟨hnull, ?_, i.returnsWith_some⟩
  rintro ⟨result', hreturns⟩
  exact Option.some_ne_none _ (hreturns.symm.trans hnull)

/-- `cli.createCollection(dbName, collectionName, 3, 0, "test collection", indexes)`, with a
schema without indexes and an answer that is accepted. -/
def createTestCollection : Invocation .createCollection where
  self := {}
  args := ("db".toList, "coll".toList, 3, 0, "test collection".toList, {}, none)
  timeout := 1000
  memory := 0
  outcome := ⟨⟨0, []⟩, {}⟩

theorem default_result_createCollection : ¬ createTestCollection.ReturnsWith none :=
  (default_result_dereferenced .createCollection none rfl createTestCollection).2.1

/-- The call would return `0`, but does not return. -/
theorem create_collection_without_result :
    createTestCollection.ret = 0 ∧ createTestCollection.exit.through none = none ∧
      ¬ ∀ (m : Method) (result : Option m.Res), m.defaultResult = some result →
        ∀ i : Invocation m, i.ReturnsWith result := by
  refine ⟨rfl, rfl, ?_⟩
  intro h
  have hnull : createTestCollection.exit.through none = none := rfl
  obtain ⟨result', hreturns⟩ := h .createCollection none rfl createTestCollection
  exact Option.some_ne_none _ (hreturns.symm.trans hnull)

end Invocation

end VectorDb
