/-
Threads that share an object behind a mutex.

Every thread has a program, a list of calls to methods that hold the mutex of the object from
before their first access to after their last one.  A schedule lists the thread that is to move
at each step: it begins its next call, makes one access, or unlocks the mutex.  A thread that
has to wait, or has nothing left to do, stays where it is.

If each call has a known effect when it runs alone (`Implements`), then every run of the
threads is a sequential one: the calls take effect in the order in which the mutex was locked
(`settled_after`), which keeps the order of each program (`partOf_order`), and every order
that does so is the order of some schedule (`exists_schedule`).  If moreover each call writes
to the object at most once (`Atomically`), then the object is at every moment that of a sequence
of whole calls (`moment_after`).  A finite number of threads finish under every schedule in
which each of them moves again and again (`finished_of_fair`).
-/
import VectorDb.Lib.Interleaving
import VectorDb.Lib.Reuse

namespace Mutex

open Interleaving (partOf Interleaves partOf_nil partOf_append partOf_cons_self
  partOf_cons_of_ne)
open Reuse (upTo)

variable {ι C L S : Type}

/-- A method that holds the mutex. -/
structure Method (C L S : Type) where
  /-- Where the method stands when it has locked the mutex for a call. -/
  enter : C → L
  /-- One access to the object, or `none` when the method unlocks the mutex. -/
  access : L → S → Option (L × S)

/-- The threads and their object. -/
structure Config (ι C L S : Type) where
  /-- The object. -/
  object : S
  /-- The thread that holds the mutex, and where its method stands. -/
  owner : Option (ι × L)
  /-- The calls that each thread has not begun yet. -/
  todo : ι → List C

/-- Before the first step, with a program for each thread. -/
def Config.start (L : Type) (s : S) (programs : ι → List C) : Config ι C L S :=
  ⟨s, none, programs⟩

/-- No thread has anything left to do. -/
def Config.Finished (c : Config ι C L S) : Prop := c.owner = none ∧ ∀ i, c.todo i = []

namespace Method

variable (m : Method C L S)

/-- A method that stands at `l` and finds the object `s` leaves it as `t`. -/
inductive Runs : L → S → S → Prop
  | unlock {l s} (h : m.access l s = none) : Runs l s s
  | access {l l' s s' t} (h : m.access l s = some (l', s')) (hrest : Runs l' s' t) :
      Runs l s t

/-- Run alone, each call has the given effect on the object. -/
def Implements (effect : C → S → S) : Prop :=
  ∀ call s, m.Runs (m.enter call) s (effect call s)

variable {m}

lemma Runs.unlocked {l : L} {s t : S} (hruns : m.Runs l s t) (h : m.access l s = none) :
    s = t := by
  cases hruns with
  | unlock _ => rfl
  | access h' _ => simp [h] at h'

lemma Runs.accessed {l l' : L} {s s' t : S} (hruns : m.Runs l s t)
    (h : m.access l s = some (l', s')) : m.Runs l' s' t := by
  cases hruns with
  | unlock h' => simp [h] at h'
  | access h' hrest =>
    obtain ⟨rfl, rfl⟩ := Prod.mk.inj (Option.some.inj (h'.symm.trans h))
    exact hrest

/-! ### Schedules -/

variable [DecidableEq ι]

variable (m) in
/-- The step of a thread. -/
def step (i : ι) (c : Config ι C L S) : Config ι C L S :=
  match c.owner with
  | none =>
      match c.todo i with
      | [] => c
      | call :: rest =>
          { c with owner := some (i, m.enter call), todo := Function.update c.todo i rest }
  | some (j, l) =>
      if j = i then
        match m.access l c.object with
        | some (l', s) => { c with object := s, owner := some (j, l') }
        | none => { c with owner := none }
      else
        -- the mutex is held by another thread
        c

/-- The call that a thread begins with its step. -/
def begins (i : ι) (c : Config ι C L S) : List (ι × C) :=
  match c.owner, c.todo i with
  | none, call :: _ => [(i, call)]
  | _, _ => []

variable (m) in
/-- The calls that are begun along a schedule, in the order in which the mutex is locked. -/
def order : Config ι C L S → List ι → List (ι × C)
  | _, [] => []
  | c, i :: is => begins i c ++ order (m.step i c) is

variable (m) in
/-- The threads and their object after a schedule. -/
def after (c : Config ι C L S) (schedule : List ι) : Config ι C L S :=
  Reuse.after m.step c schedule

lemma after_cons (c : Config ι C L S) (i : ι) (schedule : List ι) :
    m.after c (i :: schedule) = m.after (m.step i c) schedule := rfl

lemma after_append (c : Config ι C L S) (first second : List ι) :
    m.after c (first ++ second) = m.after (m.after c first) second :=
  Reuse.after_append c first second

variable (m) in
/-- What a step can be: waiting, beginning a call, an access, or unlocking. -/
lemma step_cases (i : ι) (c : Config ι C L S) :
    (m.step i c = c ∧ begins i c = []) ∨
    (∃ call rest, c.owner = none ∧ c.todo i = call :: rest ∧ begins i c = [(i, call)] ∧
      m.step i c =
        { c with owner := some (i, m.enter call), todo := Function.update c.todo i rest }) ∨
    (∃ l l' s, c.owner = some (i, l) ∧ m.access l c.object = some (l', s) ∧
      begins i c = [] ∧ m.step i c = { c with object := s, owner := some (i, l') }) ∨
    (∃ l, c.owner = some (i, l) ∧ m.access l c.object = none ∧ begins i c = [] ∧
      m.step i c = { c with owner := none }) := by
  obtain ⟨s, owner, todo⟩ := c
  rcases owner with _ | ⟨j, l⟩
  · cases htodo : todo i with
    | nil => exact Or.inl ⟨by simp [step, htodo], by simp [begins, htodo]⟩
    | cons call rest =>
      exact Or.inr (Or.inl ⟨call, rest, rfl, htodo, by simp [begins, htodo], by simp [step, htodo]⟩)
  · by_cases hj : j = i
    · subst hj
      cases haccess : m.access l s with
      | none => exact Or.inr (Or.inr (Or.inr ⟨l, rfl, haccess, rfl, by simp [step, haccess]⟩))
      | some x =>
        exact Or.inr (Or.inr (Or.inl ⟨l, x.1, x.2, rfl, haccess, rfl, by simp [step, haccess]⟩))
    · exact Or.inl ⟨by simp [step, hj], rfl⟩

/-! ### Every run is sequential -/

/-- The calls that a thread has begun and those it has not are its program. -/
lemma todo_step (i j : ι) (c : Config ι C L S) :
    partOf i (begins j c) ++ (m.step j c).todo i = c.todo i := by
  rcases m.step_cases j c with ⟨hstep, hbegins⟩ | ⟨call, rest, -, htodo, hbegins, hstep⟩ |
    ⟨l, l', s, -, -, hbegins, hstep⟩ | ⟨l, -, -, hbegins, hstep⟩
  · rw [hstep, hbegins, partOf_nil, List.nil_append]
  · rw [hstep, hbegins]
    show partOf i [(j, call)] ++ Function.update c.todo j rest i = c.todo i
    by_cases hi : i = j
    · subst hi
      rw [partOf_cons_self, partOf_nil, Function.update_self, htodo]
      rfl
    · rw [partOf_cons_of_ne (Ne.symm hi), partOf_nil, Function.update_of_ne hi, List.nil_append]
  · rw [hstep, hbegins, partOf_nil, List.nil_append]
  · rw [hstep, hbegins, partOf_nil, List.nil_append]

variable (m) in
/-- Along a schedule each thread begins the calls of its program in their order. -/
theorem partOf_order (i : ι) (c : Config ι C L S) (schedule : List ι) :
    partOf i (m.order c schedule) ++ (m.after c schedule).todo i = c.todo i := by
  induction schedule generalizing c with
  | nil => rfl
  | cons j schedule ih =>
    rw [order, partOf_append, List.append_assoc, after_cons, ih, todo_step]

lemma interleaving_order {c : Config ι C L S} {schedule : List ι}
    (h : (m.after c schedule).Finished) : Interleaves c.todo (m.order c schedule) := by
  intro i
  rw [← m.partOf_order i c schedule, h.2 i, List.append_nil]

variable (m) in
/-- The object is `s`, or becomes `s` when the method that holds the mutex unlocks it. -/
def Settled (c : Config ι C L S) (s : S) : Prop :=
  match c.owner with
  | none => c.object = s
  | some (_, l) => m.Runs l c.object s

/-- The object after a sequence of calls that are made one after the other. -/
def total (effect : C → S → S) (s : S) (w : List (ι × C)) : S :=
  w.foldl (fun s x => effect x.2 s) s

variable {effect : C → S → S}

/-- A step leaves the settled object alone, unless it begins a call. -/
lemma settled_step (hm : m.Implements effect) {c : Config ι C L S} {s : S}
    (h : m.Settled c s) (i : ι) :
    m.Settled (m.step i c) (total effect s (begins i c)) := by
  rcases m.step_cases i c with ⟨hstep, hbegins⟩ | ⟨call, rest, howner, -, hbegins, hstep⟩ |
    ⟨l, l', s', howner, haccess, hbegins, hstep⟩ | ⟨l, howner, haccess, hbegins, hstep⟩
  · rw [hstep, hbegins]
    exact h
  · have hobject : c.object = s := by simpa [Settled, howner] using h
    rw [hstep, hbegins]
    show m.Runs (m.enter call) c.object (effect call s)
    rw [hobject]
    exact hm call s
  · have hruns : m.Runs l c.object s := by simpa [Settled, howner] using h
    rw [hstep, hbegins]
    exact hruns.accessed haccess
  · have hruns : m.Runs l c.object s := by simpa [Settled, howner] using h
    rw [hstep, hbegins]
    exact hruns.unlocked haccess

/-- **Every run is sequential.**  The calls take effect in the order in which the mutex is
locked. -/
theorem settled_after (hm : m.Implements effect) {c : Config ι C L S} {s : S}
    (h : m.Settled c s) (schedule : List ι) :
    m.Settled (m.after c schedule) (total effect s (m.order c schedule)) := by
  induction schedule generalizing c s with
  | nil => exact h
  | cons i schedule ih =>
    have hrest := ih (settled_step hm h i)
    rwa [total, total, ← List.foldl_append] at hrest

/-! ### The object while the mutex is held -/

omit [DecidableEq ι] in
lemma total_append (effect : C → S → S) (s : S) (w w' : List (ι × C)) :
    total effect s (w ++ w') = total effect (total effect s w) w' := List.foldl_append

/-- A method that stands at `l` and finds the object `s` makes it `t` with one access, and
leaves it alone with all others. -/
inductive RunsOnce (m : Method C L S) : L → S → S → Prop
  | unlock {l s} (h : m.access l s = none) : RunsOnce m l s s
  | quiet {l l' s t} (h : m.access l s = some (l', s)) (hrest : RunsOnce m l' s t) :
      RunsOnce m l s t
  | write {l l' s t} (h : m.access l s = some (l', t)) (hrest : RunsOnce m l' t t) :
      RunsOnce m l s t

variable (m) in
/-- Run alone, each call writes once, with the given effect on the object. -/
def Atomically (effect : C → S → S) : Prop :=
  ∀ call s, m.RunsOnce (m.enter call) s (effect call s)

lemma RunsOnce.runs {l : L} {s t : S} (h : m.RunsOnce l s t) : m.Runs l s t := by
  induction h with
  | unlock h => exact .unlock h
  | quiet h _ ih => exact .access h ih
  | write h _ ih => exact .access h ih

lemma Atomically.implements (hm : m.Atomically effect) : m.Implements effect :=
  fun call s => (hm call s).runs

lemma RunsOnce.accessed {l l' : L} {s s' t : S} (hruns : m.RunsOnce l s t)
    (h : m.access l s = some (l', s')) : (s' = s ∨ s' = t) ∧ m.RunsOnce l' s' t := by
  cases hruns with
  | unlock h' => simp [h] at h'
  | quiet h' hrest =>
    obtain ⟨rfl, rfl⟩ := Prod.mk.inj (Option.some.inj (h'.symm.trans h))
    exact ⟨Or.inl rfl, hrest⟩
  | write h' hrest =>
    obtain ⟨rfl, rfl⟩ := Prod.mk.inj (Option.some.inj (h'.symm.trans h))
    exact ⟨Or.inr rfl, hrest⟩

variable (m effect) in
/-- The calls `w` have been begun, and the object is that of all of them, or of all but the
one that holds the mutex. -/
def Moment (s : S) (c : Config ι C L S) (w : List (ι × C)) : Prop :=
  (c.owner = none ∧ c.object = total effect s w) ∨
  ∃ i l pre call, c.owner = some (i, l) ∧ w = pre ++ [(i, call)] ∧
    (c.object = total effect s pre ∨ c.object = total effect s w) ∧
    m.RunsOnce l c.object (total effect s w)

lemma moment_step (hm : m.Atomically effect) {s : S} {c : Config ι C L S}
    {w : List (ι × C)} (h : m.Moment effect s c w) (i : ι) :
    m.Moment effect s (m.step i c) (w ++ begins i c) := by
  rcases m.step_cases i c with ⟨hstep, hbegins⟩ | ⟨call, rest, howner, -, hbegins, hstep⟩ |
    ⟨l, l', s', howner, haccess, hbegins, hstep⟩ | ⟨l, howner, haccess, hbegins, hstep⟩
  · rw [hstep, hbegins, List.append_nil]
    exact h
  · rcases h with ⟨-, hobject⟩ | ⟨j, k, -, -, hheld, -⟩
    · rw [hstep, hbegins]
      refine Or.inr ⟨i, m.enter call, w, call, rfl, rfl, Or.inl hobject, ?_⟩
      rw [total_append]
      show m.RunsOnce (m.enter call) c.object (effect call (total effect s w))
      rw [hobject]
      exact hm call _
    · simp [howner] at hheld
  · rcases h with ⟨hfree, -⟩ | ⟨j, k, pre, call, hheld, hw, hobject, hruns⟩
    · simp [howner] at hfree
    · obtain ⟨rfl, rfl⟩ := Prod.mk.inj (Option.some.inj (howner.symm.trans hheld))
      obtain ⟨hs', hrest⟩ := hruns.accessed haccess
      rw [hstep, hbegins, List.append_nil]
      refine Or.inr ⟨i, l', pre, call, rfl, hw, ?_, hrest⟩
      rcases hs' with rfl | rfl
      · exact hobject
      · exact Or.inr rfl
  · rcases h with ⟨hfree, -⟩ | ⟨j, k, pre, call, hheld, hw, hobject, hruns⟩
    · simp [howner] at hfree
    · obtain ⟨rfl, rfl⟩ := Prod.mk.inj (Option.some.inj (howner.symm.trans hheld))
      rw [hstep, hbegins, List.append_nil]
      exact Or.inl ⟨rfl, hruns.runs.unlocked haccess⟩

/-- **No torn object.**  At every moment of a run the object is that of a sequence of whole
calls. -/
theorem moment_after (hm : m.Atomically effect) {s : S} {c : Config ι C L S}
    {w : List (ι × C)} (h : m.Moment effect s c w) (schedule : List ι) :
    m.Moment effect s (m.after c schedule) (w ++ m.order c schedule) := by
  induction schedule generalizing c w with
  | nil => simpa [order, after] using h
  | cons i schedule ih =>
    have hrest := ih (moment_step hm h i)
    rwa [List.append_assoc] at hrest

/-! ### Every sequence is a run -/

/-- The thread that holds the mutex can finish its call. -/
lemma exists_unlock {l : L} {s t : S} (h : m.Runs l s t) (i : ι) (todo : ι → List C) :
    ∃ schedule, m.after ⟨s, some (i, l), todo⟩ schedule = ⟨t, none, todo⟩ := by
  induction h with
  | unlock h =>
    refine ⟨[i], ?_⟩
    simp [after, step, h]
  | access h _ ih =>
    obtain ⟨schedule, hschedule⟩ := ih
    refine ⟨i :: schedule, ?_⟩
    rw [after_cons, ← hschedule]
    simp [step, h]

lemma exists_settled {c : Config ι C L S} {s : S} (h : m.Settled c s) :
    ∃ schedule, m.after c schedule = ⟨s, none, c.todo⟩ := by
  obtain ⟨object, owner, todo⟩ := c
  rcases owner with _ | ⟨i, l⟩
  · obtain rfl : object = s := h
    exact ⟨[], rfl⟩
  · exact exists_unlock h i todo

/-- **Every sequence is a run.**  From any state the rest of the programs can be run in any
order that keeps the order of each program. -/
theorem exists_schedule (hm : m.Implements effect) {c : Config ι C L S} {s : S}
    (h : m.Settled c s) {w : List (ι × C)} (hw : Interleaves c.todo w) :
    ∃ schedule, (m.after c schedule).Finished ∧
      (m.after c schedule).object = total effect s w := by
  obtain ⟨first, hfirst⟩ := exists_settled h
  induction w generalizing c s first with
  | nil =>
    refine ⟨first, ?_⟩
    rw [hfirst]
    exact ⟨⟨rfl, fun i => (hw i).symm⟩, rfl⟩
  | cons x w ih =>
    obtain ⟨i, call⟩ := x
    obtain ⟨htodo, hrest⟩ := hw.of_cons
    -- the thread locks the mutex and runs to the end of its call
    have hlock : m.step i ⟨s, none, c.todo⟩ =
        ⟨s, some (i, m.enter call), Function.update c.todo i (partOf i w)⟩ := by
      simp [step, htodo]
    obtain ⟨inside, hinside⟩ := exists_unlock (hm call s) i
      (Function.update c.todo i (partOf i w))
    obtain ⟨schedule, hfinished, hobject⟩ :=
      @ih ⟨effect call s, none, Function.update c.todo i (partOf i w)⟩ (effect call s) rfl hrest []
        rfl
    have hjoin : m.after c (first ++ i :: (inside ++ schedule)) =
        m.after ⟨effect call s, none, Function.update c.todo i (partOf i w)⟩ schedule := by
      rw [after_append, hfirst, after_cons, hlock, after_append, hinside]
    refine ⟨first ++ i :: (inside ++ schedule), ?_, ?_⟩
    · rw [hjoin]
      exact hfinished
    · rw [hjoin]
      exact hobject

/-- The objects that the threads can leave are those of the sequences of their calls. -/
theorem exists_finished_iff (hm : m.Implements effect) {c : Config ι C L S} {s : S}
    (h : m.Settled c s) (t : S) :
    (∃ schedule, (m.after c schedule).Finished ∧ (m.after c schedule).object = t) ↔
      ∃ w, Interleaves c.todo w ∧ total effect s w = t := by
  constructor
  · rintro ⟨schedule, hfinished, rfl⟩
    have hsettled := settled_after hm h schedule
    rw [Settled, hfinished.1] at hsettled
    exact ⟨_, interleaving_order hfinished, hsettled.symm⟩
  · rintro ⟨w, hw, rfl⟩
    exact exists_schedule hm h hw

/-! ### Schedules that let every thread move again and again -/

/-- Each thread moves after any number of moves. -/
def Fair (schedule : ℕ → ι) : Prop := ∀ i n, ∃ k, schedule (n + k) = i

omit [DecidableEq ι] in
lemma Fair.later {schedule : ℕ → ι} (h : Fair schedule) (n : ℕ) :
    Fair fun k => schedule (n + k) := by
  intro i k
  obtain ⟨k', hk'⟩ := h i (n + k)
  exact ⟨k', by rw [← hk', Nat.add_assoc]⟩

lemma after_upTo_add (c : Config ι C L S) (schedule : ℕ → ι) (n k : ℕ) :
    m.after c (upTo schedule (n + k)) =
      m.after (m.after c (upTo schedule n)) (upTo (fun k => schedule (n + k)) k) :=
  Reuse.after_upTo_add c schedule n k

/-- If all threads but those of `p` wait, then some thread of `p` is the first that does not. -/
lemma exists_turn {c : Config ι C L S} {p : ι → Prop} (hwait : ∀ i, ¬p i → m.step i c = c)
    {i : ι} (hi : p i) {schedule : ℕ → ι} (hfair : Fair schedule) :
    ∃ n j, p j ∧ m.after c (upTo schedule (n + 1)) = m.step j c := by
  have hkeep : ∀ j c', ¬p j → c' = c → m.step j c' = c := by
    rintro j c' hj rfl
    exact hwait j hj
  have hex : ∃ n, p (schedule n) := by
    obtain ⟨n, hn⟩ := hfair i 0
    exact ⟨0 + n, hn ▸ hi⟩
  obtain ⟨n, hn, hsame⟩ := Reuse.exists_first hkeep rfl hex
  refine ⟨n, schedule n, hn, ?_⟩
  rw [after, Reuse.after_upTo_succ, hsame]

/-- The mutex is unlocked. -/
lemma unlocked_of_fair {l : L} {s t : S} (h : m.Runs l s t) (i : ι) (todo : ι → List C)
    {schedule : ℕ → ι} (hfair : Fair schedule) :
    ∃ n, m.after ⟨s, some (i, l), todo⟩ (upTo schedule n) = ⟨t, none, todo⟩ := by
  induction h generalizing schedule with
  | @unlock l s h =>
    have hwait : ∀ j, ¬j = i → m.step j ⟨s, some (i, l), todo⟩ = ⟨s, some (i, l), todo⟩ :=
      fun j hj => if_neg (Ne.symm hj)
    obtain ⟨n, _, rfl, hturn⟩ := exists_turn hwait rfl hfair
    refine ⟨n + 1, ?_⟩
    rw [hturn]
    simp [step, h]
  | @access l l' s s' t h _ ih =>
    have hwait : ∀ j, ¬j = i → m.step j ⟨s, some (i, l), todo⟩ = ⟨s, some (i, l), todo⟩ :=
      fun j hj => if_neg (Ne.symm hj)
    obtain ⟨n, _, rfl, hturn⟩ := exists_turn hwait rfl hfair
    obtain ⟨k, hk⟩ := ih (hfair.later (n + 1))
    refine ⟨n + 1 + k, ?_⟩
    rw [after_upTo_add, hturn, ← hk]
    simp [step, h]

/-- A thread that begins a call has one call less to make. -/
lemma sum_length_begin [Fintype ι] {todo : ι → List C} {j : ι} {call : C} {rest : List C}
    (h : todo j = call :: rest) :
    ∑ i, (todo i).length = ∑ i, (Function.update todo j rest i).length + 1 := by
  have hothers : ∑ i ∈ Finset.univ.erase j, (todo i).length =
      ∑ i ∈ Finset.univ.erase j, (Function.update todo j rest i).length := by
    refine Finset.sum_congr rfl fun i hi => ?_
    rw [Function.update_of_ne (Finset.ne_of_mem_erase hi)]
  rw [← Finset.add_sum_erase _ _ (Finset.mem_univ j), hothers, h,
    ← Finset.add_sum_erase _ (fun i => (Function.update todo j rest i).length)
      (Finset.mem_univ j), Function.update_self, List.length_cons]
  omega

/-- **No thread waits for ever.**  A finite number of threads finish under every schedule in
which each of them moves again and again. -/
theorem finished_of_fair [Fintype ι] (hm : m.Implements effect) {c : Config ι C L S} {s : S}
    (h : m.Settled c s) {schedule : ℕ → ι} (hfair : Fair schedule) :
    ∃ n, (m.after c (upTo schedule n)).Finished := by
  -- on the number of calls that are left, from a moment when the mutex is free
  have hfree : ∀ (size : ℕ) (s : S) (todo : ι → List C), ∑ i, (todo i).length = size →
      ∀ schedule : ℕ → ι, Fair schedule →
        ∃ n, (m.after ⟨s, none, todo⟩ (upTo schedule n)).Finished := by
    intro size
    induction size with
    | zero =>
      intro s todo hsize schedule _
      refine ⟨0, rfl, fun i => ?_⟩
      have hi := Finset.sum_eq_zero_iff.mp hsize i (Finset.mem_univ i)
      exact List.length_eq_zero_iff.mp hi
    | succ size ih =>
      intro s todo hsize schedule hfair
      have hwait : ∀ j, ¬todo j ≠ [] → m.step j ⟨s, none, todo⟩ = ⟨s, none, todo⟩ := by
        intro j hj
        simp [step, not_not.mp hj]
      have hleft : ∑ i, (todo i).length ≠ 0 := by omega
      obtain ⟨i, -, hi⟩ := Finset.exists_ne_zero_of_sum_ne_zero hleft
      have hi' : todo i ≠ [] := fun hnil => hi (by rw [hnil, List.length_nil])
      obtain ⟨n, j, hj, hturn⟩ := exists_turn hwait hi' hfair
      obtain ⟨call, rest, htodo⟩ := List.exists_cons_of_ne_nil hj
      have hlock : m.step j ⟨s, none, todo⟩ =
          ⟨s, some (j, m.enter call), Function.update todo j rest⟩ := by
        simp [step, htodo]
      obtain ⟨k, hk⟩ := unlocked_of_fair (hm call s) j (Function.update todo j rest)
        (hfair.later (n + 1))
      have hless := sum_length_begin htodo
      obtain ⟨k', hk'⟩ := ih (effect call s) (Function.update todo j rest) (by omega) _
        ((hfair.later (n + 1)).later k)
      refine ⟨n + 1 + (k + k'), ?_⟩
      rw [after_upTo_add, after_upTo_add, hturn, hlock, hk]
      exact hk'
  obtain ⟨object, owner, todo⟩ := c
  rcases owner with _ | ⟨i, l⟩
  · exact hfree _ object todo rfl schedule hfair
  · obtain ⟨n, hn⟩ := unlocked_of_fair (show m.Runs l object s from h) i todo hfair
    obtain ⟨k, hk⟩ := hfree _ s todo rfl _ (hfair.later n)
    refine ⟨n + k, ?_⟩
    rw [after_upTo_add, hn]
    exact hk

/-- Threads that have finished stay so. -/
lemma after_finished {c : Config ι C L S} (h : c.Finished) (schedule : List ι) :
    m.after c schedule = c := by
  induction schedule with
  | nil => rfl
  | cons i schedule ih =>
    have hstep : m.step i c = c := by
      obtain ⟨object, owner, todo⟩ := c
      obtain ⟨rfl, htodo⟩ := h
      have hi : todo i = [] := htodo i
      simp [step, hi]
    rw [after_cons, hstep, ih]

end Method

end Mutex
