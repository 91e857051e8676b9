/-
Threads that share a client.

Each thread has a program of calls, each with a result object, and of `setTimeout` and
`closeConnection`.  A call hands its request to the stub and is blocked until the library
returns; then it makes the assignments of its path one by one, and returns.  A write to a member
of the client takes its time too.  Between any two of these steps other threads may move and
time may pass.  The arguments of the calls are values, which no thread writes to.

The client has no mutex, so its code does not order the accesses of different threads: two
accesses to one member or object, of which one is a write, are a data race.  There is none
exactly when no two threads set the timeout, close the connection or use the same result object;
and then each thread hands over, gets and returns what it would if it ran alone with the same
answers (`calls_do_not_interfere`).
-/
import VectorDb.Lib.Interleaving
import VectorDb.Rpc.Pointer
import VectorDb.Rpc.Stub

namespace VectorDb

open Interleaving (partOf)

variable {O ι : Type} {kind : O → Method}

/-- A call of a method, with the result object that it is given. -/
structure Use (kind : O → Method) where
  object : O
  args : (kind object).Args
  timeout : Option Int32

/-- A use of the client. -/
inductive Task (kind : O → Method) where
  | setTimeout (timeout : Int32)
  | closeConnection
  | call (u : Use kind)

/-- The calls among some tasks. -/
def calls (tasks : List (Task kind)) : List (Use kind) :=
  tasks.filterMap fun
    | .call u => some u
    | _ => none

/-- What a call of each method would meet: what the library returns, and the content of an
uninitialised local. -/
abbrev Answer : Type := (m : Method) → Outcome m.Resp × Int64

namespace Use

/-- The call with all that decides its course. -/
def invocation (u : Use kind) (self : RpcClient)
    (answer : Outcome (kind u.object).Resp × Int64) : Invocation (kind u.object) where
  self := self
  args := u.args
  timeout := u.timeout.getD (kind u.object).defaultTimeout
  memory := answer.2
  outcome := answer.1

/-- What it hands to the stub. -/
def stubCall (u : Use kind) (c : LiveClient) : StubCall :=
  (kind u.object).stubCall u.args u.timeout c

end Use

/-! ### Shared memory -/

/-- What the threads share: the members of the client and the result objects. -/
inductive Location (O : Type) where
  | timeout
  | readConsistency
  | grpcChannel
  | stub
  | object (o : O)

structure Access (O : Type) where
  location : Location O
  writes : Bool

/-- The members that a call reads. -/
def Method.reads : Method → List (Location O)
  | query | search => [.readConsistency, .stub]
  | _ => [.stub]

/-- What a task writes to. -/
def Task.target : Task kind → Location O
  | .setTimeout _ => .timeout
  | .closeConnection => .grpcChannel
  | .call u => .object u.object

lemma Method.target_ne_of_mem_reads {m : Method} {l : Location O} (hl : l ∈ m.reads)
    (task : Task kind) : task.target ≠ l := by
  have hmember : l = .readConsistency ∨ l = .stub := by
    cases m <;> simp [reads] at hl <;> simp [hl]
  rcases hmember with rfl | rfl <;> cases task <;> exact nofun

/-! ### Processes -/

/-- Where a thread stands. -/
inductive Phase (kind : O → Method) where
  /-- Between two tasks. -/
  | idle
  /-- The timeout is being set. -/
  | setting (timeout : Int32)
  /-- The reference to the channel is being released. -/
  | closing
  /-- The call of a client in this state has been handed over, with this deadline. -/
  | waiting (u : Use kind) (self : RpcClient) (deadline : ℤ)
  /-- The answer has come, and these assignments are left before the call returns `ret`. -/
  | writing (u : Use kind) (ret : ℤ) (left : List ((kind u.object).Res → (kind u.object).Res))

/-- The library has a call of the thread. -/
def Phase.isBlocked : Phase kind → Bool
  | .waiting _ _ _ => true
  | _ => false

/-- The client, the result objects and the threads. -/
structure Process (kind : O → Method) (ι : Type) where
  client : LiveClient
  objects : (o : O) → (kind o).Res
  /-- The time in milliseconds. -/
  clock : ℤ
  phase : ι → Phase kind
  todo : ι → List (Task kind)
  /-- The calls that have been handed over, each with its thread. -/
  handed : List (ι × StubCall)
  /-- The answers that have come to each thread. -/
  answered : ι → List Answer
  /-- The values that the calls of each thread have returned. -/
  returned : ι → List ℤ
  /-- The accesses to shared memory, each with its thread. -/
  accesses : List (ι × Access O)
  /-- The milliseconds for which each thread has been blocked. -/
  blocked : ι → ℕ

/-- What can happen. -/
inductive Event (ι : Type) where
  /-- A millisecond passes. -/
  | tick
  /-- A thread moves; if it is blocked, the library returns this answer, or not yet. -/
  | move (i : ι) (answer : Option Answer)

/-- The event is a move of the thread. -/
def Event.IsMove (e : Event ι) (i : ι) : Prop := ∃ answer, e = .move i answer

namespace Process

/-- Before the first event. -/
def start (client : LiveClient) (objects : (o : O) → (kind o).Res)
    (programs : ι → List (Task kind)) : Process kind ι where
  client := client
  objects := objects
  clock := 0
  phase _ := .idle
  todo := programs
  handed := []
  answered _ := []
  returned _ := []
  accesses := []
  blocked _ := 0

/-- A thread has run its program. -/
def Done (p : Process kind ι) (i : ι) : Prop := p.phase i = .idle ∧ p.todo i = []

/-- Two threads have accessed one location, one of them to write. -/
def Racing (p : Process kind ι) : Prop :=
  ∃ x ∈ p.accesses, ∃ y ∈ p.accesses,
    x.1 ≠ y.1 ∧ x.2.location = y.2.location ∧ x.2.writes = true

variable [DecidableEq O] [DecidableEq ι]

/-- A thread begins its next task. -/
def begin (i : ι) (p : Process kind ι) : Task kind → Process kind ι
  | .setTimeout timeout => { p with phase := Function.update p.phase i (.setting timeout) }
  | .closeConnection => { p with phase := Function.update p.phase i .closing }
  | .call u =>
      { p with
        phase := Function.update p.phase i (.waiting u p.client.toRpcClient
          (p.clock + (u.stubCall p.client).timeout.toInt))
        handed := p.handed ++ [(i, u.stubCall p.client)]
        accesses := p.accesses ++ (kind u.object).reads.map fun l => (i, ⟨l, false⟩) }

/-- A move of a thread. -/
def move (i : ι) (answer : Option Answer) (p : Process kind ι) : Process kind ι :=
  match p.phase i with
  | .idle =>
      match p.todo i with
      | [] => p
      | task :: rest => begin i { p with todo := Function.update p.todo i rest } task
  | .setting timeout =>
      { p with
        client := p.client.setTimeout timeout
        phase := Function.update p.phase i .idle
        accesses := p.accesses ++ [(i, ⟨.timeout, true⟩)] }
  | .closing =>
      { p with
        client := p.client.closeConnection
        phase := Function.update p.phase i .idle
        accesses := p.accesses ++ [(i, ⟨.grpcChannel, true⟩)] }
  | .waiting u self _ =>
      match answer with
      | none => p
      | some answer =>
          { p with
            phase := Function.update p.phase i
              (.writing u (u.invocation self (answer (kind u.object))).ret
                (u.invocation self (answer (kind u.object))).exit.assigns)
            answered := Function.update p.answered i (p.answered i ++ [answer]) }
  | .writing _ ret [] =>
      { p with
        phase := Function.update p.phase i .idle
        returned := Function.update p.returned i (p.returned i ++ [ret]) }
  | .writing u ret (assign :: left) =>
      { p with
        phase := Function.update p.phase i (.writing u ret left)
        objects := Function.update p.objects u.object (assign (p.objects u.object))
        accesses := p.accesses ++ [(i, ⟨.object u.object, true⟩)] }

/-- A millisecond passes. -/
def tick (p : Process kind ι) : Process kind ι :=
  { p with
    clock := p.clock + 1
    blocked := fun i => if (p.phase i).isBlocked then p.blocked i + 1 else p.blocked i }

def step : Event ι → Process kind ι → Process kind ι
  | .tick, p => p.tick
  | .move i answer, p => move i answer p

/-- The process after some events. -/
def run (client : LiveClient) (objects : (o : O) → (kind o).Res)
    (programs : ι → List (Task kind)) (events : List (Event ι)) : Process kind ι :=
  Reuse.after step (.start client objects programs) events

end Process

/-! ### What the calls should do -/

/-- A call and the answer that it got. -/
structure Completed (kind : O → Method) where
  use : Use kind
  answer : Answer

namespace Completed

/-- The call with all that decided its course. -/
def invocation (self : RpcClient) (d : Completed kind) : Invocation (kind d.use.object) :=
  d.use.invocation self (d.answer (kind d.use.object))

/-- The value that it returns. -/
def ret (self : RpcClient) (d : Completed kind) : ℤ := (d.invocation self).ret

variable [DecidableEq O]

/-- The result objects after it. -/
def write (self : RpcClient) (objects : (o : O) → (kind o).Res) (d : Completed kind) :
    (o : O) → (kind o).Res :=
  Function.update objects d.use.object ((d.invocation self).object (objects d.use.object))

/-- The result objects after calls that are made one after the other. -/
def writeAll (self : RpcClient) (objects : (o : O) → (kind o).Res)
    (done : List (Completed kind)) : (o : O) → (kind o).Res :=
  done.foldl (write self) objects

lemma writeAll_concat (self : RpcClient) (objects : (o : O) → (kind o).Res)
    (done : List (Completed kind)) (d : Completed kind) :
    writeAll self objects (done ++ [d]) = write self (writeAll self objects done) d := by
  simp [writeAll]

end Completed

/-- The path of a call does not depend on the client. -/
lemma Method.resume_congr (m : Method) (self self' : RpcClient) (args : m.Args)
    (timeout timeout' : Int32) (memory : Int64) (o : Outcome m.Resp) :
    (m.call self args timeout).resume memory o =
      (m.call self' args timeout').resume memory o := by
  cases m <;> rfl

lemma Use.exit_congr (u : Use kind) (self self' : RpcClient)
    (answer : Outcome (kind u.object).Resp × Int64) :
    (u.invocation self answer).exit = (u.invocation self' answer).exit :=
  (kind u.object).resume_congr self self' u.args _ _ answer.2 answer.1

/-- What a call hands over depends on the stub and the consistency only. -/
lemma Use.stubCall_congr (u : Use kind) {c c' : LiveClient} (hstub : c.stub = c'.stub)
    (hread : c.option.readConsistency = c'.option.readConsistency) :
    u.stubCall c = u.stubCall c' := by
  rw [stubCall, stubCall, Method.stubCall_eq _ c'.toRpcClient hread,
    Method.stubCall_eq _ c'.toRpcClient rfl, hstub]

lemma Use.timeout_stubCall (u : Use kind) (c : LiveClient) :
    (u.stubCall c).timeout = u.timeout.getD 1000 := by
  rw [stubCall, Method.stubCall_eq _ c.toRpcClient rfl]

/-! ### One event -/

namespace Process

variable [DecidableEq O] [DecidableEq ι]

/-- What a move can be. -/
lemma move_cases (i : ι) (answer : Option Answer) (p : Process kind ι) :
    move i answer p = p ∨
    (∃ task rest, p.phase i = .idle ∧ p.todo i = task :: rest ∧
      move i answer p = begin i { p with todo := Function.update p.todo i rest } task) ∨
    (∃ timeout, p.phase i = .setting timeout ∧
      move i answer p = { p with
        client := p.client.setTimeout timeout
        phase := Function.update p.phase i .idle
        accesses := p.accesses ++ [(i, ⟨.timeout, true⟩)] }) ∨
    (p.phase i = .closing ∧
      move i answer p = { p with
        client := p.client.closeConnection
        phase := Function.update p.phase i .idle
        accesses := p.accesses ++ [(i, ⟨.grpcChannel, true⟩)] }) ∨
    (∃ u self deadline got, p.phase i = .waiting u self deadline ∧ answer = some got ∧
      move i answer p = { p with
        phase := Function.update p.phase i
          (.writing u (u.invocation self (got (kind u.object))).ret
            (u.invocation self (got (kind u.object))).exit.assigns)
        answered := Function.update p.answered i (p.answered i ++ [got]) }) ∨
    (∃ u ret, p.phase i = .writing u ret [] ∧
      move i answer p = { p with
        phase := Function.update p.phase i .idle
        returned := Function.update p.returned i (p.returned i ++ [ret]) }) ∨
    (∃ u ret assign left, p.phase i = .writing u ret (assign :: left) ∧
      move i answer p = { p with
        phase := Function.update p.phase i (.writing u ret left)
        objects := Function.update p.objects u.object (assign (p.objects u.object))
        accesses := p.accesses ++ [(i, ⟨.object u.object, true⟩)] }) := by
  cases hphase : p.phase i with
  | idle =>
    cases htodo : p.todo i with
    | nil => exact .inl (by simp only [move, hphase, htodo])
    | cons task rest =>
      exact .inr (.inl ⟨task, rest, rfl, rfl, by simp only [move, hphase, htodo]⟩)
  | setting timeout =>
    exact .inr (.inr (.inl ⟨timeout, rfl, by simp only [move, hphase]⟩))
  | closing => exact .inr (.inr (.inr (.inl ⟨rfl, by simp only [move, hphase]⟩)))
  | waiting u self deadline =>
    cases answer with
    | none => exact .inl (by simp only [move, hphase])
    | some got =>
      exact .inr (.inr (.inr (.inr (.inl ⟨u, self, deadline, got, rfl, rfl,
        by simp only [move, hphase]⟩))))
  | writing u ret left =>
    cases left with
    | nil =>
      exact .inr (.inr (.inr (.inr (.inr (.inl ⟨u, ret, rfl, by simp only [move, hphase]⟩)))))
    | cons assign left =>
      exact .inr (.inr (.inr (.inr (.inr (.inr ⟨u, ret, assign, left, rfl,
        by simp only [move, hphase]⟩)))))

/-- No event writes what the calls read of the client. -/
lemma client_step (e : Event ι) (p : Process kind ι) :
    (step e p).client.stub = p.client.stub ∧
      (step e p).client.option.readConsistency = p.client.option.readConsistency := by
  rcases e with - | ⟨i, answer⟩
  · exact ⟨rfl, rfl⟩
  · rw [step]
    rcases move_cases i answer p with hmove | ⟨task, rest, -, -, hmove⟩ | ⟨timeout, -, hmove⟩ |
      ⟨-, hmove⟩ | ⟨u, self, deadline, got, -, -, hmove⟩ | ⟨u, ret, -, hmove⟩ |
      ⟨u, ret, assign, left, -, hmove⟩ <;> rw [hmove]
    · exact ⟨rfl, rfl⟩
    · cases task <;> exact ⟨rfl, rfl⟩
    all_goals exact ⟨rfl, rfl⟩

/-- The object that a thread may write to with its next move. -/
def Writes (p : Process kind ι) (i : ι) (o : O) : Prop :=
  ∃ u ret left, p.phase i = .writing u ret left ∧ u.object = o

/-- What a thread sees of a process, but for the time. -/
structure SameFor (i : ι) (p p' : Process kind ι) : Prop where
  phase : p'.phase i = p.phase i
  todo : p'.todo i = p.todo i
  handed : partOf i p'.handed = partOf i p.handed
  answered : p'.answered i = p.answered i
  returned : p'.returned i = p.returned i

omit [DecidableEq O] in
lemma SameFor.refl (i : ι) (p : Process kind ι) : SameFor i p p := ⟨rfl, rfl, rfl, rfl, rfl⟩

/-- A move of one thread changes nothing of another one. -/
lemma move_other {i j : ι} (hne : j ≠ i) (answer : Option Answer) (p : Process kind ι) :
    SameFor j p (move i answer p) ∧
      ∀ o, ¬ p.Writes i o → (move i answer p).objects o = p.objects o := by
  have hhanded : ∀ call, partOf j (p.handed ++ [(i, call)]) = partOf j p.handed := by
    intro call
    rw [Interleaving.partOf_append, Interleaving.partOf_cons_of_ne (Ne.symm hne)]
    simp
  rcases move_cases i answer p with hmove | ⟨task, rest, -, -, hmove⟩ | ⟨timeout, -, hmove⟩ |
    ⟨-, hmove⟩ | ⟨u, self, deadline, got, -, -, hmove⟩ | ⟨u, ret, -, hmove⟩ |
    ⟨u, ret, assign, left, hphase, hmove⟩ <;> rw [hmove]
  · exact ⟨.refl j p, fun _ _ => rfl⟩
  · cases task with
    | call u =>
      exact ⟨⟨Function.update_of_ne hne _ _, Function.update_of_ne hne _ _, hhanded _, rfl, rfl⟩,
        fun _ _ => rfl⟩
    | setTimeout timeout | closeConnection =>
      exact ⟨⟨Function.update_of_ne hne _ _, Function.update_of_ne hne _ _, rfl, rfl, rfl⟩,
        fun _ _ => rfl⟩
  · exact ⟨⟨Function.update_of_ne hne _ _, rfl, rfl, rfl, rfl⟩, fun _ _ => rfl⟩
  · exact ⟨⟨Function.update_of_ne hne _ _, rfl, rfl, rfl, rfl⟩, fun _ _ => rfl⟩
  · exact ⟨⟨Function.update_of_ne hne _ _, rfl, rfl, Function.update_of_ne hne _ _, rfl⟩,
      fun _ _ => rfl⟩
  · exact ⟨⟨Function.update_of_ne hne _ _, rfl, rfl, rfl, Function.update_of_ne hne _ _⟩,
      fun _ _ => rfl⟩
  · refine ⟨⟨Function.update_of_ne hne _ _, rfl, rfl, rfl, rfl⟩, ?_⟩
    intro o ho
    refine Function.update_of_ne ?_ _ _
    rintro rfl
    exact ho ⟨u, ret, _, hphase, rfl⟩

end Process

/-! ### Data races -/

/-- No two threads set the timeout, close the connection or give calls the same object. -/
def Separate (programs : ι → List (Task kind)) : Prop :=
  ∀ i j, ∀ task ∈ programs i, ∀ task' ∈ programs j, task.target = task'.target → i = j

namespace Phase

/-- The task that is under way. -/
def task : Phase kind → Option (Task kind)
  | idle => none
  | setting timeout => some (.setTimeout timeout)
  | closing => some .closeConnection
  | waiting u _ _ => some (.call u)
  | writing u _ _ => some (.call u)

/-- The task has still to write to its target. -/
def Owes : Phase kind → Task kind → Prop
  | writing _ _ [], _ => False
  | phase, task => phase.task = some task

lemma Owes.task_eq {phase : Phase kind} {task : Task kind} (h : phase.Owes task) :
    phase.task = some task := by
  cases phase with
  | writing u ret left =>
    cases left with
    | nil => exact h.elim
    | cons assign left => exact h
  | idle | setting timeout | closing | waiting u self deadline => exact h

lemma owes_writing {u : Use kind} {ret : ℤ}
    {left : List ((kind u.object).Res → (kind u.object).Res)} (h : left ≠ []) :
    (writing u ret left).Owes (.call u) := by
  cases left with
  | nil => exact (h rfl).elim
  | cons assign left => rfl

end Phase

section Races

variable {programs : ι → List (Task kind)}

/-- The accesses so far are those of the programs: each write is the one of some task, no read
is at the target of a task, and each task is still to come, has still to write, or has written. -/
structure Traced (programs : ι → List (Task kind)) (p : Process kind ι) : Prop where
  todo : ∀ i, ∀ task ∈ p.todo i, task ∈ programs i
  phase : ∀ i, ∀ task ∈ (p.phase i).task, task ∈ programs i
  write : ∀ x ∈ p.accesses, x.2.writes = true → ∃ task ∈ programs x.1, task.target = x.2.location
  read : ∀ x ∈ p.accesses, x.2.writes = false → ∀ task : Task kind, task.target ≠ x.2.location
  made : ∀ i, ∀ task ∈ programs i,
    task ∈ p.todo i ∨ (p.phase i).Owes task ∨ (i, ⟨task.target, true⟩) ∈ p.accesses

lemma traced_start (client : LiveClient) (objects : (o : O) → (kind o).Res) :
    Traced programs (.start client objects programs) where
  todo _ _ h := h
  phase _ _ h := nomatch h
  write _ h := nomatch h
  read _ h := nomatch h
  made _ _ h := .inl h

/-- Threads with separate programs do not race. -/
lemma Traced.not_racing {p : Process kind ι} (h : Traced programs p)
    (hseparate : Separate programs) : ¬ p.Racing := by
  rintro ⟨x, hx, y, hy, hne, hlocation, hwrites⟩
  obtain ⟨task, htask, htarget⟩ := h.write x hx hwrites
  cases hwrites' : y.2.writes with
  | true =>
    obtain ⟨task', htask', htarget'⟩ := h.write y hy hwrites'
    refine hne (hseparate _ _ task htask task' htask' ?_)
    rw [htarget, htarget', hlocation]
  | false => exact h.read y hy hwrites' task (htarget.trans hlocation)

/-- Threads that have run programs that are not separate have raced. -/
lemma Traced.racing {p : Process kind ι} (h : Traced programs p) (hdone : ∀ i, p.Done i)
    (hshared : ¬ Separate programs) : p.Racing := by
  have hmade : ∀ i, ∀ task ∈ programs i, (i, (⟨task.target, true⟩ : Access O)) ∈ p.accesses := by
    intro i task htask
    obtain ⟨hphase, htodo⟩ := hdone i
    rcases h.made i task htask with hleft | howes | hmade
    · rw [htodo] at hleft
      exact nomatch hleft
    · rw [hphase] at howes
      exact nomatch howes
    · exact hmade
  unfold Separate at hshared
  push Not at hshared
  obtain ⟨i, j, task, htask, task', htask', htarget, hne⟩ := hshared
  exact ⟨_, hmade i task htask, _, hmade j task' htask', hne, htarget, rfl⟩

variable [DecidableEq ι]

/-- A move that gives one thread a new phase, leaves it less to do and makes some accesses. -/
lemma Traced.move {p p' : Process kind ι} (h : Traced programs p) {i : ι}
    {todo : List (Task kind)} (phase : Phase kind) (new : List (Access O))
    (hphase : p'.phase = Function.update p.phase i phase)
    (htodo : p'.todo = Function.update p.todo i todo)
    (haccesses : p'.accesses = p.accesses ++ new.map (Prod.mk i))
    (hless : ∀ task ∈ todo, task ∈ p.todo i) (htask : ∀ task ∈ phase.task, task ∈ programs i)
    (hwrite : ∀ a ∈ new, a.writes = true → ∃ task ∈ programs i, task.target = a.location)
    (hread : ∀ a ∈ new, a.writes = false → ∀ task : Task kind, task.target ≠ a.location)
    (hmade : ∀ task, task ∈ p.todo i ∨ (p.phase i).Owes task →
      task ∈ todo ∨ phase.Owes task ∨ ⟨task.target, true⟩ ∈ new) :
    Traced programs p' where
  todo j task hj := by
    rw [htodo] at hj
    by_cases hji : j = i
    · subst hji
      rw [Function.update_self] at hj
      exact h.todo j task (hless task hj)
    · rw [Function.update_of_ne hji] at hj
      exact h.todo j task hj
  phase j task hj := by
    rw [hphase] at hj
    by_cases hji : j = i
    · subst hji
      rw [Function.update_self] at hj
      exact htask task hj
    · rw [Function.update_of_ne hji] at hj
      exact h.phase j task hj
  write x hx hwrites := by
    rw [haccesses, List.mem_append, List.mem_map] at hx
    rcases hx with hx | ⟨a, ha, rfl⟩
    · exact h.write x hx hwrites
    · exact hwrite a ha hwrites
  read x hx hreads := by
    rw [haccesses, List.mem_append, List.mem_map] at hx
    rcases hx with hx | ⟨a, ha, rfl⟩
    · exact h.read x hx hreads
    · exact hread a ha hreads
  made j task hj := by
    rw [hphase, htodo, haccesses, List.mem_append]
    by_cases hji : j = i
    · subst hji
      rw [Function.update_self, Function.update_self]
      rcases or_assoc.mpr (h.made j task hj) with hbefore | hlogged
      · rcases hmade task hbefore with hleft | howes | hnew
        · exact .inl hleft
        · exact .inr (.inl howes)
        · exact .inr (.inr (.inr (List.mem_map_of_mem hnew)))
      · exact .inr (.inr (.inl hlogged))
    · rw [Function.update_of_ne hji, Function.update_of_ne hji]
      rcases h.made j task hj with hleft | howes | hlogged
      · exact .inl hleft
      · exact .inr (.inl howes)
      · exact .inr (.inr (.inl hlogged))

/-- A thread begins a task: it has to write to the target of the task, and only reads so far. -/
lemma Traced.begin {p : Process kind ι} (h : Traced programs p) {i : ι} {task : Task kind}
    {rest : List (Task kind)} (hphase : p.phase i = .idle) (htodo : p.todo i = task :: rest) :
    Traced programs
      (Process.begin i { p with todo := Function.update p.todo i rest } task) := by
  have hless : ∀ task' ∈ rest, task' ∈ p.todo i := by
    intro task' hrest
    rw [htodo]
    exact List.mem_cons_of_mem _ hrest
  have htask : ∀ task' ∈ some task, task' ∈ programs i := by
    rintro _ ⟨⟩
    refine h.todo i task ?_
    rw [htodo]
    exact List.mem_cons_self
  have hmade : ∀ {phase : Phase kind} {new : List (Access O)}, phase.Owes task → ∀ task',
      task' ∈ p.todo i ∨ (p.phase i).Owes task' →
        task' ∈ rest ∨ phase.Owes task' ∨ ⟨task'.target, true⟩ ∈ new := by
    intro phase new howes task' hbefore
    rw [hphase, htodo, List.mem_cons] at hbefore
    rcases hbefore with (rfl | hrest) | hidle
    · exact .inr (.inl howes)
    · exact .inl hrest
    · exact nomatch hidle
  cases task with
  | setTimeout timeout =>
    exact h.move (.setting timeout) [] rfl rfl (by simp [Process.begin]) hless htask nofun nofun
      (hmade rfl)
  | closeConnection =>
    exact h.move .closing [] rfl rfl (by simp [Process.begin]) hless htask nofun nofun (hmade rfl)
  | call u =>
    refine h.move _ ((kind u.object).reads.map fun l => ⟨l, false⟩) rfl rfl
      (by simp [Process.begin]) hless htask ?_ ?_ (hmade rfl)
    · intro a ha hwrites
      obtain ⟨l, -, rfl⟩ := List.mem_map.mp ha
      exact nomatch hwrites
    · intro a ha _ task'
      obtain ⟨l, hl, rfl⟩ := List.mem_map.mp ha
      exact Method.target_ne_of_mem_reads hl task'

/-- A thread goes on with its task: it writes to the target, or still has to. -/
lemma Traced.continue {p p' : Process kind ι} (h : Traced programs p) {i : ι} {task : Task kind}
    {phase : Phase kind} (new : List (Access O)) (htask : (p.phase i).task = some task)
    (hphase : p'.phase = Function.update p.phase i phase) (htodo : p'.todo = p.todo)
    (haccesses : p'.accesses = p.accesses ++ new.map (Prod.mk i))
    (hsame : phase.task = none ∨ phase.task = some task)
    (hnew : ∀ a ∈ new, a = ⟨task.target, true⟩)
    (hmade : (p.phase i).Owes task → phase.Owes task ∨ new ≠ []) : Traced programs p' := by
  have hmem : task ∈ programs i := h.phase i task htask
  refine h.move phase new hphase (by rw [htodo, Function.update_eq_self]) haccesses
    (fun _ h => h) ?_ ?_ ?_ ?_
  · intro task' htask'
    rcases hsame with hnone | hsome
    · rw [hnone] at htask'
      exact nomatch htask'
    · rw [hsome] at htask'
      obtain rfl := Option.some.inj htask'
      exact hmem
  · intro a ha _
    rw [hnew a ha]
    exact ⟨task, hmem, rfl⟩
  · intro a ha hreads
    rw [hnew a ha] at hreads
    exact nomatch hreads
  · rintro task' (hleft | howes)
    · exact .inl hleft
    · obtain rfl : task' = task := by
        have htask' : (p.phase i).task = some task' := howes.task_eq
        exact Option.some.inj (htask'.symm.trans htask)
      rcases hmade howes with hstill | hne
      · exact .inr (.inl hstill)
      · obtain ⟨a, ha⟩ := List.exists_mem_of_ne_nil _ hne
        exact .inr (.inr (hnew a ha ▸ ha))

variable [DecidableEq O]

lemma traced_step {p : Process kind ι} (h : Traced programs p) (e : Event ι) :
    Traced programs (Process.step e p) := by
  rcases e with - | ⟨i, answer⟩
  · exact ⟨h.todo, h.phase, h.write, h.read, h.made⟩
  · rw [Process.step]
    rcases Process.move_cases i answer p with hmove | ⟨task, rest, hphase, htodo, hmove⟩ |
      ⟨timeout, hphase, hmove⟩ | ⟨hphase, hmove⟩ | ⟨u, self, deadline, got, hphase, -, hmove⟩ |
      ⟨u, ret, hphase, hmove⟩ | ⟨u, ret, assign, left, hphase, hmove⟩ <;> rw [hmove]
    · exact h
    · exact h.begin hphase htodo
    · exact h.continue [⟨.timeout, true⟩] (congrArg Phase.task hphase) rfl rfl rfl
        (.inl rfl) (by simp [Task.target]) fun _ => .inr (List.cons_ne_nil _ _)
    · exact h.continue [⟨.grpcChannel, true⟩] (congrArg Phase.task hphase) rfl rfl rfl
        (.inl rfl) (by simp [Task.target]) fun _ => .inr (List.cons_ne_nil _ _)
    · refine h.continue [] (congrArg Phase.task hphase) rfl rfl (by simp) (.inr rfl)
        nofun fun _ => .inl ?_
      -- every path assigns something
      have hne := (u.invocation self (got (kind u.object))).assigns_ne_nil
      exact Phase.owes_writing hne
    · refine h.continue [] (congrArg Phase.task hphase) rfl rfl (by simp) (.inl rfl)
        nofun fun howes => ?_
      rw [hphase] at howes
      exact howes.elim
    · refine h.continue [⟨.object u.object, true⟩] (congrArg Phase.task hphase) rfl rfl
        rfl (.inr rfl) (by simp [Task.target]) fun _ => .inr (List.cons_ne_nil _ _)

lemma traced_run (client : LiveClient) (objects : (o : O) → (kind o).Res)
    (events : List (Event ι)) : Traced programs (.run client objects programs events) :=
  Reuse.after_keeps (P := Traced programs) (fun e _ h => traced_step h e)
    (traced_start client objects) events

end Races

/-! ### The account of a thread -/

/-- The call that is under way. -/
def Phase.inCall : Phase kind → List (Use kind)
  | .waiting u _ _ => [u]
  | .writing u _ _ => [u]
  | _ => []

/-- No other thread is given the object. -/
def Own (programs : ι → List (Task kind)) (i : ι) (o : O) : Prop :=
  ∀ j, ∀ u ∈ calls (programs j), u.object = o → j = i

section Account

variable [DecidableEq O] [DecidableEq ι] (client : LiveClient)
  (objects : (o : O) → (kind o).Res) (program : List (Task kind)) (mine : O → Prop)

open Completed (writeAll)

/-- When the calls `done` are over, the answers that came and the objects of the thread agree
with that and with where it stands. -/
def Written (answered : List Answer) (now : (o : O) → (kind o).Res)
    (done : List (Completed kind)) : Phase kind → Prop
  | .writing u ret left =>
      ∃ answer before, answered = done.map (·.answer) ++ [answer] ∧
        ret = (Completed.mk u answer).ret client.toRpcClient ∧
        ((Completed.mk u answer).invocation client.toRpcClient).exit.assigns = before ++ left ∧
        ∀ o, mine o → now o =
          Function.update (writeAll client.toRpcClient objects done) u.object
            (before.foldl (fun r assign => assign r)
              (writeAll client.toRpcClient objects done u.object)) o
  | _ =>
      answered = done.map (·.answer) ∧
        ∀ o, mine o → now o = writeAll client.toRpcClient objects done o

/-- The calls `done` of the thread `i` are over, and what it has handed over and got back, its
objects and what it has left to do agree with that. -/
structure Account (p : Process kind ι) (i : ι) (done : List (Completed kind)) : Prop where
  calls : calls program = done.map (·.use) ++ (p.phase i).inCall ++ VectorDb.calls (p.todo i)
  handed : partOf i p.handed = (done.map (·.use) ++ (p.phase i).inCall).map (·.stubCall client)
  returned : p.returned i = done.map (·.ret client.toRpcClient)
  written : Written client objects mine (p.answered i) p.objects done (p.phase i)

variable {client objects program mine}

omit [DecidableEq ι] in
lemma Written.congr {answered : List Answer} {now now' : (o : O) → (kind o).Res}
    {done : List (Completed kind)} {phase : Phase kind}
    (h : Written client objects mine answered now done phase)
    (hobjects : ∀ o, mine o → now' o = now o) :
    Written client objects mine answered now' done phase := by
  cases phase with
  | writing u ret left =>
    obtain ⟨answer, before, hgot, hret, hassigns, hmine⟩ := h
    exact ⟨answer, before, hgot, hret, hassigns, fun o ho => (hobjects o ho).trans (hmine o ho)⟩
  | idle | setting timeout | closing | waiting u self deadline =>
    exact ⟨h.1, fun o ho => (hobjects o ho).trans (h.2 o ho)⟩

/-- The account is about what the thread sees only. -/
lemma Account.congr {p p' : Process kind ι} {i : ι} {done : List (Completed kind)}
    (h : Account client objects program mine p i done) (hsame : Process.SameFor i p p')
    (hobjects : ∀ o, mine o → p'.objects o = p.objects o) :
    Account client objects program mine p' i done where
  calls := by rw [hsame.phase, hsame.todo, h.calls]
  handed := by rw [hsame.handed, hsame.phase, h.handed]
  returned := hsame.returned.trans h.returned
  written := by
    rw [hsame.phase, hsame.answered]
    exact h.written.congr hobjects

/-- A thread writes to the objects of its program only. -/
lemma Account.exists_of_writes {p : Process kind ι} {i : ι} {done : List (Completed kind)}
    (h : Account client objects program mine p i done) {o : O} (ho : p.Writes i o) :
    ∃ u ∈ VectorDb.calls program, u.object = o := by
  obtain ⟨u, ret, left, hphase, hu⟩ := ho
  refine ⟨u, ?_, hu⟩
  rw [h.calls, hphase]
  simp [Phase.inCall]

omit [DecidableEq ι] in
lemma written_of_outside {answered : List Answer} {now : (o : O) → (kind o).Res}
    {done : List (Completed kind)} {phase : Phase kind} (hphase : phase.inCall = []) :
    Written client objects mine answered now done phase ↔
      answered = done.map (·.answer) ∧
        ∀ o, mine o → now o = writeAll client.toRpcClient objects done o := by
  cases phase with
  | writing u ret left => exact nomatch hphase
  | idle | setting timeout | closing | waiting u self deadline => exact Iff.rfl

/-- What a thread does outside of its calls leaves its account as it is. -/
lemma Account.outside {p p' : Process kind ι} {i : ι} {done : List (Completed kind)}
    (h : Account client objects program mine p i done) (phase : Phase kind)
    (hbefore : (p.phase i).inCall = []) (hafter : phase.inCall = [])
    (hphase : p'.phase = Function.update p.phase i phase)
    (htodo : VectorDb.calls (p'.todo i) = VectorDb.calls (p.todo i))
    (hhanded : p'.handed = p.handed) (hanswered : p'.answered = p.answered)
    (hreturned : p'.returned = p.returned) (hobjects : p'.objects = p.objects) :
    Account client objects program mine p' i done where
  calls := by rw [h.calls, hbefore, hphase, Function.update_self, hafter, htodo]
  handed := by rw [hhanded, h.handed, hbefore, hphase, Function.update_self, hafter]
  returned := by rw [hreturned, h.returned]
  written := by
    rw [hphase, Function.update_self, hanswered, hobjects, written_of_outside hafter]
    exact (written_of_outside hbefore).mp h.written

/-- What a move of the thread does to its account. -/
lemma Account.move {p : Process kind ι} {i : ι} {done : List (Completed kind)}
    (h : Account client objects program mine p i done) (hstub : p.client.stub = client.stub)
    (hread : p.client.option.readConsistency = client.option.readConsistency)
    (answer : Option Answer) :
    ∃ done', Account client objects program mine (Process.move i answer p) i done' := by
  have ⟨hcalls, hhanded, hreturned, hwritten⟩ := h
  rcases Process.move_cases i answer p with hmove | ⟨task, rest, hphase, htodo, hmove⟩ |
    ⟨timeout, hphase, hmove⟩ | ⟨hphase, hmove⟩ | ⟨u, self, deadline, got, hphase, -, hmove⟩ |
    ⟨u, ret, hphase, hmove⟩ | ⟨u, ret, assign, left, hphase, hmove⟩ <;> rw [hmove]
  · exact ⟨done, h⟩
  · -- the next task begins
    have hrest : VectorDb.calls (Function.update p.todo i rest i) = VectorDb.calls rest := by
      rw [Function.update_self]
    have hidle : (p.phase i).inCall = [] := congrArg Phase.inCall hphase
    cases task with
    | setTimeout timeout =>
      have htasks : VectorDb.calls (p.todo i) = VectorDb.calls rest := by
        rw [htodo]
        rfl
      exact ⟨done, h.outside (.setting timeout) hidle rfl rfl (hrest.trans htasks.symm) rfl rfl rfl
        rfl⟩
    | closeConnection =>
      have htasks : VectorDb.calls (p.todo i) = VectorDb.calls rest := by
        rw [htodo]
        rfl
      exact ⟨done, h.outside .closing hidle rfl rfl (hrest.trans htasks.symm) rfl rfl rfl rfl⟩
    | call u =>
      rw [hphase] at hcalls hhanded hwritten
      rw [htodo] at hcalls
      refine ⟨done, ?_, ?_, hreturned, ?_⟩ <;>
        simp only [Process.begin, Function.update_self]
      · rw [hcalls]
        simp [Phase.inCall, VectorDb.calls]
      · rw [Interleaving.partOf_append, Interleaving.partOf_cons_self, hhanded,
          u.stubCall_congr hstub hread]
        simp [Phase.inCall]
      · exact hwritten
  · -- the timeout is set
    exact ⟨done, h.outside .idle (congrArg Phase.inCall hphase) rfl rfl rfl rfl rfl rfl rfl⟩
  · -- the reference to the channel is gone
    exact ⟨done, h.outside .idle (congrArg Phase.inCall hphase) rfl rfl rfl rfl rfl rfl rfl⟩
  · -- the answer comes
    rw [hphase] at hcalls hhanded hwritten
    obtain ⟨hgot, hmine⟩ := hwritten
    have hexit := u.exit_congr self client.toRpcClient (got (kind u.object))
    refine ⟨done, ?_, ?_, hreturned, ?_⟩ <;> simp only [Function.update_self]
    · exact hcalls
    · exact hhanded
    · refine ⟨got, [], by rw [hgot], congrArg Exit.ret hexit, by rw [hexit]; rfl, ?_⟩
      intro o ho
      rw [hmine o ho, List.foldl_nil, Function.update_eq_self]
  · -- the call returns
    rw [hphase] at hcalls hhanded hwritten
    obtain ⟨met, before, hgot, hmet, hassigns, hmine⟩ := hwritten
    refine ⟨done ++ [⟨u, met⟩], ?_, ?_, ?_, ?_⟩ <;>
      simp only [Function.update_self, List.map_append]
    · rw [hcalls]
      simp [Phase.inCall]
    · rw [hhanded]
      simp [Phase.inCall]
    · rw [hreturned, hmet]
      rfl
    · refine ⟨by rw [hgot, List.map_append]; rfl, ?_⟩
      intro o ho
      have hobject : ∀ r, ((Completed.mk u met).invocation client.toRpcClient).object r =
          before.foldl (fun r assign => assign r) r := by
        intro r
        rw [Invocation.object, Exit.object, hassigns, List.append_nil]
      rw [hmine o ho, Completed.writeAll_concat, Completed.write, hobject]
  · -- one assignment is made
    rw [hphase] at hcalls hhanded hwritten
    obtain ⟨met, before, hgot, hmet, hassigns, hmine⟩ := hwritten
    refine ⟨done, ?_, ?_, hreturned, ?_⟩ <;> simp only [Function.update_self]
    · exact hcalls
    · exact hhanded
    · refine ⟨met, before ++ [assign], hgot, hmet, by simp [hassigns], ?_⟩
      intro o ho
      by_cases heq : o = u.object
      · subst heq
        rw [Function.update_self, Function.update_self, hmine _ ho, Function.update_self,
          List.foldl_append]
        rfl
      · rw [Function.update_of_ne heq, hmine o ho, Function.update_of_ne heq,
          Function.update_of_ne heq]

end Account

/-! ### Runs -/

section Runs

variable [DecidableEq O] [DecidableEq ι] {client : LiveClient}
  {objects : (o : O) → (kind o).Res} {programs : ι → List (Task kind)}

/-- All threads can give account, and the client reads as it did. -/
structure Accounts (client : LiveClient) (objects : (o : O) → (kind o).Res)
    (programs : ι → List (Task kind)) (p : Process kind ι) : Prop where
  stub : p.client.stub = client.stub
  readConsistency : p.client.option.readConsistency = client.option.readConsistency
  account : ∀ i, ∃ done, Account client objects (programs i) (Own programs i) p i done

lemma accounts_start : Accounts client objects programs (.start client objects programs) where
  stub := rfl
  readConsistency := rfl
  account _ := ⟨[], rfl, rfl, rfl, rfl, fun _ _ => rfl⟩

lemma accounts_step {p : Process kind ι} (h : Accounts client objects programs p)
    (e : Event ι) : Accounts client objects programs (Process.step e p) where
  stub := (Process.client_step e p).1.trans h.stub
  readConsistency := (Process.client_step e p).2.trans h.readConsistency
  account j := by
    obtain ⟨done, hdone⟩ := h.account j
    rcases e with - | ⟨i, answer⟩
    · exact ⟨done, hdone.calls, hdone.handed, hdone.returned, hdone.written⟩
    · by_cases hji : j = i
      · subst hji
        exact hdone.move h.stub h.readConsistency answer
      · -- the thread that moves writes to the objects of its program
        obtain ⟨hsame, hobjects⟩ := Process.move_other hji answer p
        refine ⟨done, hdone.congr hsame fun o ho => hobjects o fun hwrites => hji ?_⟩
        obtain ⟨done', hdone'⟩ := h.account i
        obtain ⟨u, hu, hobject⟩ := hdone'.exists_of_writes hwrites
        exact (ho i u hu hobject).symm

lemma accounts_run (events : List (Event ι)) :
    Accounts client objects programs (.run client objects programs events) :=
  Reuse.after_keeps (P := Accounts client objects programs) (fun e _ h => accounts_step h e)
    accounts_start events

/-- **Calls do not interfere.**  Threads that share a client have a data race by the time all
have run their programs, in whatever order they move, exactly when two of them set the timeout,
close the connection or use the same result object.  Otherwise none of their runs has a race,
and whatever the library answers and when, a thread that has run its program has handed over its
calls in their order, each once, has got the return values that belong to its answers, and finds
in its objects what its calls write one after the other; what other threads do with the client,
`setTimeout` and `closeConnection` included, makes no difference. -/
theorem calls_do_not_interfere (client : LiveClient) (objects : (o : O) → (kind o).Res)
    (programs : ι → List (Task kind)) (events : List (Event ι)) :
    ((∀ i, (Process.run client objects programs events).Done i) →
      ((Process.run client objects programs events).Racing ↔ ¬ Separate programs)) ∧
    (Separate programs →
      ¬ (Process.run client objects programs events).Racing ∧
      ∀ i, (Process.run client objects programs events).Done i →
        ∃ done : List (Completed kind), done.map (·.use) = calls (programs i) ∧
          done.map (·.answer) = (Process.run client objects programs events).answered i ∧
          partOf i (Process.run client objects programs events).handed =
            (calls (programs i)).map (·.stubCall client) ∧
          (Process.run client objects programs events).returned i =
            done.map (·.ret client.toRpcClient) ∧
          ∀ o, Own programs i o →
            (Process.run client objects programs events).objects o =
              Completed.writeAll client.toRpcClient objects done o) := by
  have htraced : Traced programs (.run client objects programs events) :=
    traced_run client objects events
  have haccounts : Accounts client objects programs (.run client objects programs events) :=
    accounts_run events
  refine ⟨fun hdone => ⟨fun hracing hseparate => htraced.not_racing hseparate hracing,
    htraced.racing hdone⟩, fun hseparate => ⟨htraced.not_racing hseparate, ?_⟩⟩
  intro i hdone
  obtain ⟨done, hcalls, hhanded, hreturned, hwritten⟩ := haccounts.account i
  rw [hdone.1] at hcalls hhanded hwritten
  rw [hdone.2] at hcalls
  obtain ⟨hgot, hmine⟩ := hwritten
  have huses : done.map (·.use) = calls (programs i) := by
    rw [hcalls]
    simp [Phase.inCall, calls]
  refine ⟨done, huses, hgot.symm, ?_, hreturned, hmine⟩
  rw [hhanded, ← huses]
  simp [Phase.inCall]

end Runs

/-- The result of a `count` and that of a `dropDatabase`. -/
def twoKinds : Bool → Method
  | false => .count
  | true => .dropDatabase

/-- One thread counts, the other one sets the timeout, drops a database and closes the
connection. -/
def twoPrograms : Bool → List (Task twoKinds)
  | false => [.call ⟨false, ("db".toList, "coll".toList, none), none⟩]
  | true => [.setTimeout 5000, .call ⟨true, "db".toList, none⟩, .closeConnection]

def twoObjects : (o : Bool) → (twoKinds o).Res
  | false => (⟨false, [], 0⟩ : CountResult)
  | true => (⟨false, [], 0⟩ : DropDatabaseResult)

/-- Each call succeeds with an empty response. -/
def emptyAnswer : Answer
  | .createDatabase | .listDatabases | .dropDatabase | .createCollection | .listCollections
  | .describeCollection | .truncateCollection | .dropCollection | .rebuildIndex | .upsert
  | .query | .dele | .update | .search | .count => (⟨⟨0, []⟩, {}⟩, 0)

/-- The threads take turns, and each answer needs a millisecond. -/
def turns : List (Event Bool) :=
  (List.replicate 10 [.move true none, .move false none, .tick, .move true (some emptyAnswer),
    .move false (some emptyAnswer)]).flatten

lemma separate_twoPrograms : Separate twoPrograms := by
  rintro (_ | _) (_ | _) task htask task' htask' htarget
  all_goals try rfl
  all_goals
    simp only [twoPrograms, List.mem_cons, List.not_mem_nil, or_false] at htask htask'
    rcases htask with rfl | rfl | rfl <;> rcases htask' with rfl | rfl | rfl <;> cases htarget

theorem calls_do_not_interfere_two :
    ((Process.run ⟨{}, none, ⟨⟨0⟩⟩⟩ twoObjects twoPrograms turns).Racing ↔
      ¬ Separate twoPrograms) ∧
    ¬ (Process.run ⟨{}, none, ⟨⟨0⟩⟩⟩ twoObjects twoPrograms turns).Racing ∧
    ∃ done : List (Completed twoKinds), done.map (·.use) = calls (twoPrograms false) ∧
      done.map (·.answer) =
        (Process.run ⟨{}, none, ⟨⟨0⟩⟩⟩ twoObjects twoPrograms turns).answered false ∧
      partOf false (Process.run ⟨{}, none, ⟨⟨0⟩⟩⟩ twoObjects twoPrograms turns).handed =
        (calls (twoPrograms false)).map (·.stubCall ⟨{}, none, ⟨⟨0⟩⟩⟩) ∧
      (Process.run ⟨{}, none, ⟨⟨0⟩⟩⟩ twoObjects twoPrograms turns).returned false =
        done.map (·.ret {}) ∧
      ∀ o, Own twoPrograms false o →
        (Process.run ⟨{}, none, ⟨⟨0⟩⟩⟩ twoObjects twoPrograms turns).objects o =
          Completed.writeAll {} twoObjects done o := by
  have h := calls_do_not_interfere ⟨{}, none, ⟨⟨0⟩⟩⟩ twoObjects twoPrograms turns
  have hdone : ∀ i, (Process.run ⟨{}, none, ⟨⟨0⟩⟩⟩ twoObjects twoPrograms turns).Done i := by
    rintro (_ | _) <;> exact ⟨rfl, rfl⟩
  have hrace := h.2 separate_twoPrograms
  exact ⟨h.1 hdone, hrace.1, hrace.2 false (hdone false)⟩

end VectorDb
