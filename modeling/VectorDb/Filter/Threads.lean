/-
Filters that several threads extend.

The calls of `filter.cpp` are cut into the accesses that `Filter::assemblyCond` makes to `cond`
while it holds the mutex of the filter.  Threads that call the builder in any interleaving of
these accesses build what one thread builds that makes their calls in some order
(`thread_outcomes_iff`), the text is at no moment that of half a call (`text_at_every_moment`),
each condition ends up in it exactly once (`every_condition_once`), and no thread is kept waiting
for ever (`threads_finish`).
-/
import Mathlib.Algebra.BigOperators.Group.Finset.Basic
import VectorDb.Filter.Parse
import VectorDb.Lib.Mutex

namespace VectorDb

open Interleaving (partOf Interleaves)
open Mutex (Config)

/-- A call of one of the four methods that extend a filter. -/
structure CondCall where
  /-- Which of the four it is. -/
  op : CondOp
  /-- Its argument. -/
  condition : Str
deriving DecidableEq, Repr

/-- The filter after the call. -/
def CondCall.apply (c : CondCall) (f : Filter) : Filter := c.op.apply f c.condition

namespace Filter

/-- Where a call of `Filter::assemblyCond` stands while it holds the mutex. -/
inductive At where
  /-- Before the test of `cond.empty()`. -/
  | test (condition operation : Str)
  /-- In the branch of an empty filter. -/
  | first (condition operation : Str)
  /-- In the branch of a filter that has a text. -/
  | further (condition operation : Str)
  /-- With the text that is assigned to `cond`. -/
  | assign (text : Str)
  /-- At the end, where the lock goes out of scope. -/
  | leave
deriving DecidableEq, Repr

/-- The next access of `Filter::assemblyCond` to the filter. -/
def At.access : At → Filter → Option (At × Filter)
  | test condition operation, f =>
      if f.cond = [] then some (first condition operation, f)
      else some (further condition operation, f)
  | first condition operation, f =>
      if "not".toList <:+: operation then
        some (assign ("not (".toList ++ condition ++ ")".toList), f)
      else some (assign condition, f)
  | further condition operation, f =>
      some (assign (f.cond ++ " ".toList ++ operation ++ " (".toList ++ condition ++ ")".toList), f)
  | assign text, f => some (leave, { f with cond := text })
  | leave, _ => none

/-- The methods that extend a filter, access by access. -/
def lockedCond : Mutex.Method CondCall At Filter where
  enter c := .test c.condition c.op.operation
  access := At.access

/-- An assignment is the last access. -/
lemma runsOnce_assign (f : Filter) (text : Str) :
    lockedCond.RunsOnce (.assign text) f { f with cond := text } :=
  .write rfl (.unlock rfl)

/-- Run without interruption, the accesses are the call. -/
lemma lockedCond_atomically : lockedCond.Atomically CondCall.apply := by
  rintro ⟨op, condition⟩ f
  show lockedCond.RunsOnce (.test condition op.operation) f (op.apply f condition)
  rw [CondOp.apply_eq, assemblyCond]
  by_cases hcond : f.cond = []
  · have htest : lockedCond.access (.test condition op.operation) f =
        some (.first condition op.operation, f) := if_pos hcond
    rw [if_pos hcond]
    refine .quiet htest ?_
    by_cases hnot : "not".toList <:+: op.operation
    · have hfirst : lockedCond.access (.first condition op.operation) f =
          some (.assign ("not (".toList ++ condition ++ ")".toList), f) := if_pos hnot
      rw [if_pos hnot]
      exact .quiet hfirst (runsOnce_assign f _)
    · have hfirst : lockedCond.access (.first condition op.operation) f =
          some (.assign condition, f) := if_neg hnot
      rw [if_neg hnot]
      exact .quiet hfirst (runsOnce_assign f _)
  · have htest : lockedCond.access (.test condition op.operation) f =
        some (.further condition op.operation, f) := if_neg hcond
    rw [if_neg hcond]
    exact .quiet htest (.quiet rfl (runsOnce_assign f _))

section Text

variable {ι : Type} [DecidableEq ι]

/-- The filter and its threads after a schedule. -/
def concurrently (f : Filter) (programs : ι → List CondCall) (schedule : List ι) :
    Config ι CondCall At Filter :=
  lockedCond.after (.start At f programs) schedule

/-- The filter after calls that are made one after the other. -/
def sequentially (f : Filter) (calls : List (ι × CondCall)) : Filter :=
  calls.foldl (fun f x => x.2.apply f) f

/-- **The text at every moment.**  Wherever the threads stand, the text is that of a sequence of
whole calls: those begun so far, each thread's in the order of its program, where the call that
holds the mutex may not have taken effect yet. -/
theorem text_at_every_moment (f : Filter) (programs : ι → List CondCall) (schedule : List ι) :
    ∃ begun : List (ι × CondCall),
      (∀ i, partOf i begun ++ (concurrently f programs schedule).todo i = programs i) ∧
      ((concurrently f programs schedule).object = sequentially f begun ∨
        ∃ i place pre call, (concurrently f programs schedule).owner = some (i, place) ∧
          begun = pre ++ [(i, call)] ∧
          (concurrently f programs schedule).object = sequentially f pre) := by
  have hmoment := Mutex.Method.moment_after lockedCond_atomically (s := f)
    (c := .start At f programs) (w := []) (Or.inl ⟨rfl, rfl⟩) schedule
  refine ⟨_, fun i => lockedCond.partOf_order i (.start At f programs) schedule, ?_⟩
  rcases hmoment with ⟨-, hobject⟩ | ⟨i, place, pre, call, howner, hbegun, hobject | hobject, -⟩
  · exact Or.inl hobject
  · exact Or.inr ⟨i, place, pre, call, howner, hbegun, hobject⟩
  · exact Or.inl hobject

/-- **What threads can build.**  From any moment on, the filters that the threads can end with
are those of the sequences that make the calls begun so far and then the calls that are left,
each thread's in the order of its program. -/
theorem thread_outcomes_iff (f : Filter) (programs : ι → List CondCall) (past : List ι) :
    ∃ begun : List (ι × CondCall),
      (∀ i, partOf i begun ++ (concurrently f programs past).todo i = programs i) ∧
      ∀ result,
        (∃ schedule, (concurrently f programs (past ++ schedule)).Finished ∧
            (concurrently f programs (past ++ schedule)).object = result) ↔
          ∃ rest, Interleaves (concurrently f programs past).todo rest ∧
            sequentially f (begun ++ rest) = result := by
  have himplements := lockedCond_atomically.implements
  have hsettled := Mutex.Method.settled_after himplements (s := f)
    (c := .start At f programs) rfl past
  refine ⟨_, fun i => lockedCond.partOf_order i (.start At f programs) past, ?_⟩
  intro result
  have houtcomes := Mutex.Method.exists_finished_iff himplements hsettled result
  simp only [concurrently, Mutex.Method.after_append, sequentially, List.foldl_append]
  exact houtcomes

/-- The calls that are begun, in the order in which the threads lock the mutex. -/
def lockOrder (f : Filter) (programs : ι → List CondCall) (schedule : List ι) :
    List (ι × CondCall) :=
  lockedCond.order (.start At f programs) schedule

lemma object_of_finished {f : Filter} {programs : ι → List CondCall} {schedule : List ι}
    (h : (concurrently f programs schedule).Finished) :
    (concurrently f programs schedule).object =
      sequentially f (lockOrder f programs schedule) := by
  have hsettled := Mutex.Method.settled_after lockedCond_atomically.implements (s := f)
    (c := .start At f programs) rfl schedule
  have howner : (lockedCond.after (.start At f programs) schedule).owner = none := h.1
  rwa [Mutex.Method.Settled, howner] at hsettled

/-- **No thread waits for ever.**  Under every schedule in which each thread moves again and
again the threads finish after some number of moves, and from then on the filter is that of
their calls in some order that keeps each thread's own. -/
theorem threads_finish [Fintype ι] (f : Filter) (programs : ι → List CondCall)
    (schedule : ℕ → ι) (hfair : ∀ i n, ∃ k, schedule (n + k) = i) :
    ∃ n w, Interleaves programs w ∧ ∀ k ≥ n,
      (concurrently f programs ((List.range k).map schedule)).Finished ∧
      (concurrently f programs ((List.range k).map schedule)).object = sequentially f w := by
  have hsettled : lockedCond.Settled (.start At f programs) f := rfl
  obtain ⟨n, hn⟩ := Mutex.Method.finished_of_fair lockedCond_atomically.implements hsettled hfair
  refine ⟨n, lockOrder f programs ((List.range n).map schedule),
    Mutex.Method.interleaving_order hn, ?_⟩
  intro k hk
  obtain ⟨j, rfl⟩ := Nat.exists_eq_add_of_le hk
  have hstays : concurrently f programs ((List.range (n + j)).map schedule) =
      concurrently f programs ((List.range n).map schedule) := by
    rw [List.range_add, List.map_append, concurrently, Mutex.Method.after_append]
    exact Mutex.Method.after_finished hn _
  rw [hstays]
  exact ⟨hn, object_of_finished hn⟩

/-- One thread with a call to make, and one with two. -/
def unequalCalls : Bool → List CondCall
  | true => [⟨.orCond, "b=1".toList⟩]
  | false => [⟨.andCond, "c=1".toList⟩, ⟨.orNotCond, "d=1".toList⟩]

/-- Two threads that move in turn. -/
def inTurn (n : ℕ) : Bool := n % 2 == 1

theorem threads_finish_in_turn :
    ∃ n w, Interleaves unequalCalls w ∧ ∀ k ≥ n,
      (concurrently ⟨"a=1".toList⟩ unequalCalls ((List.range k).map inTurn)).Finished ∧
      (concurrently ⟨"a=1".toList⟩ unequalCalls ((List.range k).map inTurn)).object =
        sequentially ⟨"a=1".toList⟩ w := by
  refine threads_finish _ _ inTurn ?_
  intro i n
  cases i with
  | false => exact ⟨n, beq_eq_false_iff_ne.mpr (by omega)⟩
  | true => exact ⟨n + 1, beq_iff_eq.mpr (by omega)⟩

end Text

end Filter

namespace FilterText

open Precedence (Expr Operand appendToLast)

/-- The call with the text of its condition. -/
def Call.raw (c : Call) : CondCall := ⟨c.op, c.cond.text⟩

/-- The operand that the call adds. -/
def Call.operand (c : Call) : Operand Atom := FilterText.operand c.op c.cond.expr

/-- The operands of all groups of an expression. -/
def operands (e : Expr Atom) : List (Operand Atom) := e.groups.flatten

lemma flatten_addGroups (gs : List (List (Operand Atom))) (c : Call) :
    (addGroups gs c).flatten = gs.flatten ++ [c.operand] := by
  unfold addGroups
  split
  · rw [List.flatten_append]
    rfl
  · exact Precedence.flatten_appendToLast gs _

lemma flatten_foldl_addGroups (gs : List (List (Operand Atom))) (calls : List Call) :
    (calls.foldl addGroups gs).flatten = gs.flatten ++ calls.map Call.operand := by
  induction calls generalizing gs with
  | nil => simp
  | cons c calls ih =>
    rw [List.foldl_cons, ih, flatten_addGroups, List.append_assoc]
    rfl

section Threads

variable {ι : Type} [DecidableEq ι]

/-- Threads that call the builder with well-formed conditions. -/
def threads (f : Filter) (programs : ι → List Call) (schedule : List ι) :
    Config ι CondCall Filter.At Filter :=
  Filter.concurrently f (fun i => (programs i).map Call.raw) schedule

variable {f : Filter} {programs : ι → List Call} {schedule : List ι}

/-- They build the chain of their calls, in the order in which they lock the mutex. -/
lemma exists_chain (h : (threads f programs schedule).Finished) :
    ∃ w, Interleaves programs w ∧
      (Filter.lockOrder f (fun i => (programs i).map Call.raw) schedule).map Prod.snd =
        (w.map Prod.snd).map Call.raw ∧
      (threads f programs schedule).object = run f (w.map Prod.snd) := by
  have hobject := Filter.object_of_finished h
  obtain ⟨w, hw, horder⟩ := (Mutex.Method.interleaving_order h).exists_map
  refine ⟨w, hw, ?_, ?_⟩
  · rw [Filter.lockOrder, horder, List.map_map, List.map_map]
    rfl
  · rw [threads, hobject, Filter.lockOrder, horder, Filter.sequentially, run, List.foldl_map,
      List.foldl_map]
    rfl

omit f programs schedule in
lemma sum_operands [Fintype ι] {programs : ι → List Call} {w : List (ι × Call)}
    (hw : Interleaves programs w) :
    ∑ i, ((programs i).map Call.operand : Multiset (Operand Atom)) =
      ((w.map Prod.snd).map Call.operand : List (Operand Atom)) := by
  have hsum := congrArg (Multiset.mapAddMonoidHom Call.operand) hw.sum_eq
  rw [map_sum] at hsum
  exact hsum

/-- **Every condition once.**  However the threads are scheduled, the operands of the filter
they build are those of the filter they start with and one for each call of each thread: none
is lost and none is there twice.  When they start with an empty filter the condition of the
call that comes first takes its place without parentheses, unless the call negates it. -/
theorem every_condition_once [Fintype ι] (start : Option Cond)
    (h : (threads (startFilter start) programs schedule).Finished) :
    (∀ c, start = some c →
      ∃ e, read (threads (startFilter start) programs schedule).object.cond = some e ∧
        (operands e : Multiset (Operand Atom)) =
          operands c.expr + ∑ i, ((programs i).map Call.operand : Multiset (Operand Atom))) ∧
    (start = none →
      ((∀ i, programs i = []) ∧
        (threads (startFilter start) programs schedule).object.cond = []) ∨
      ∃ i first rest e, programs i = first :: rest ∧
        read (threads (startFilter start) programs schedule).object.cond = some e ∧
        (operands e : Multiset (Operand Atom)) + {first.operand} =
          (headGroups first).flatten +
            ∑ i, ((programs i).map Call.operand : Multiset (Operand Atom))) := by
  obtain ⟨w, hw, -, hobject⟩ := exists_chain h
  have hgroups := chain_groups start (w.map Prod.snd)
  rw [hobject, sum_operands hw]
  constructor
  · rintro c rfl
    obtain ⟨e, he, hflat⟩ := Option.map_eq_some_iff.mp hgroups
    refine ⟨e, he, ?_⟩
    rw [operands, hflat, flatten_foldl_addGroups, ← Multiset.coe_add]
    rfl
  · rintro rfl
    cases w with
    | nil => exact Or.inl ⟨fun i => (hw i).symm, rfl⟩
    | cons x w =>
      obtain ⟨i, first⟩ := x
      obtain ⟨e, he, hflat⟩ := Option.map_eq_some_iff.mp hgroups
      refine Or.inr ⟨i, first, partOf i w, e, hw.of_cons.1, he, ?_⟩
      -- the operand of the first call is replaced by its condition
      rw [operands, hflat, flatten_foldl_addGroups, List.map_cons, List.map_cons,
        ← Multiset.coe_add, add_assoc, add_comm (_ : Multiset (Operand Atom)) {first.operand}]
      rfl

/-- Two threads with one call each. -/
def twoCalls : Bool → List Call
  | false => [⟨.orCond, .ofText "b=1 or c=1" rfl⟩]
  | true => [⟨.andNotCond, .ofText "d=1" rfl⟩]

/-- The second thread has to wait for the first one twice, and then the first one has nothing
left to do. -/
def twoSchedule : List Bool :=
  [false, false, true, false, false, true, false, true, true, false, true, true, true]

theorem every_condition_once_two :
    ∃ e, read (threads (startFilter (some (.ofText "a=1" rfl))) twoCalls
        twoSchedule).object.cond = some e ∧
      (operands e : Multiset (Operand Atom)) =
        operands (Cond.ofText "a=1" rfl).expr +
          ∑ i, ((twoCalls i).map Call.operand : Multiset (Operand Atom)) :=
  (every_condition_once (some (.ofText "a=1" rfl)) ⟨by decide, by decide⟩).1 _ rfl

example : (threads ⟨"a=1".toList⟩ twoCalls twoSchedule).object.cond =
    "a=1 or (b=1 or c=1) and not (d=1)".toList := by decide

/-! ### Threads that agree on the connective -/

section Meaning

variable {D : Type} (sat : Atom → D → Prop)

end Meaning

/-- The threads of `twoCalls` with the same connective. -/
def twoAlternatives : Bool → List Call
  | false => [⟨.orCond, .ofText "e=1" rfl⟩]
  | true => [⟨.orNotCond, .ofText "f=1" rfl⟩]

end Threads

end FilterText

end VectorDb
