/-
How long a thread waits.

The only place where a thread is blocked is the library, which has a call until its deadline has
passed and not much longer.  The deadline is set by the method, from the timeout that the call is
given or from the default of a second; what `setTimeout` did does not count.  So a thread that
moves again and again runs its program to the end, whatever the server and the other threads do,
and the calls of its program say how long it can be blocked in all (`thread_finishes`).
-/
import VectorDb.Rpc.Concurrent
import Mathlib.Tactic.IntervalCases

namespace VectorDb

open Reuse (upTo)

variable {O ι : Type} {kind : O → Method}

/-- The milliseconds for which a call can be blocked, with a library that is late by `grace`. -/
def Use.limit (grace : ℕ) (u : Use kind) : ℕ := ((u.timeout.getD 1000).toInt + grace).toNat

/-- The milliseconds for which the call that is under way can still be blocked. -/
def Phase.remaining (grace : ℕ) (clock : ℤ) : Phase kind → ℕ
  | .waiting _ _ deadline => (deadline + grace - clock).toNat
  | _ => 0

/-- The milliseconds for which a thread can still be blocked. -/
def Process.budget (grace : ℕ) (p : Process kind ι) (i : ι) : ℕ :=
  (p.phase i).remaining grace p.clock + ((calls (p.todo i)).map (·.limit grace)).sum

section

variable [DecidableEq O] [DecidableEq ι]

/-- The thread moves after any number of events. -/
def MovesAgain (i : ι) (schedule : ℕ → Event ι) : Prop := ∀ n, ∃ k, (schedule (n + k)).IsMove i

/-- Time passes after any number of events. -/
def TimePasses (schedule : ℕ → Event ι) : Prop := ∀ n, ∃ k, schedule (n + k) = .tick

/-- The library keeps the deadlines of a thread: it has none of its calls for longer than
`grace` milliseconds after the deadline. -/
def KeepsDeadlines (grace : ℕ) (i : ι) (p : Process kind ι) (schedule : ℕ → Event ι) : Prop :=
  ∀ n, schedule n = .tick → ∀ u self deadline,
    (Reuse.after Process.step p (upTo schedule n)).phase i = .waiting u self deadline →
      (Reuse.after Process.step p (upTo schedule n)).clock < deadline + grace

variable {p : Process kind ι} {i : ι} {schedule : ℕ → Event ι} {grace : ℕ}

/-! ### The time that is left -/

/-- A move takes no time. -/
lemma Process.time_move (i : ι) (answer : Option Answer) (p : Process kind ι) :
    (move i answer p).clock = p.clock ∧ (move i answer p).blocked = p.blocked := by
  rcases move_cases i answer p with hmove | ⟨task, rest, -, -, hmove⟩ | ⟨timeout, -, hmove⟩ |
    ⟨-, hmove⟩ | ⟨u, self, deadline, got, -, -, hmove⟩ | ⟨u, ret, -, hmove⟩ |
    ⟨u, ret, assign, left, -, hmove⟩ <;> rw [hmove]
  · exact ⟨rfl, rfl⟩
  · cases task <;> exact ⟨rfl, rfl⟩
  all_goals exact ⟨rfl, rfl⟩

/-- A thread that begins a call has taken the time for it from what it has left to do; no other
move makes the time that is left longer. -/
lemma Process.budget_move_le (grace : ℕ) (j : ι) (answer : Option Answer) (p : Process kind ι)
    (i : ι) : (move j answer p).budget grace i ≤ p.budget grace i := by
  obtain ⟨hclock, -⟩ := time_move j answer p
  by_cases hij : i = j
  · subst hij
    rw [budget, budget, hclock]
    rcases move_cases i answer p with hmove | ⟨task, rest, hphase, htodo, hmove⟩ |
      ⟨timeout, hphase, hmove⟩ | ⟨hphase, hmove⟩ | ⟨u, self, deadline, got, hphase, -, hmove⟩ |
      ⟨u, ret, hphase, hmove⟩ | ⟨u, ret, assign, left, hphase, hmove⟩ <;> rw [hmove]
    · rw [hphase, htodo]
      cases task with
      | setTimeout timeout => simp [begin, Phase.remaining, calls]
      | closeConnection => simp [begin, Phase.remaining, calls]
      | call u =>
        have hlimit : (p.clock + (u.stubCall p.client).timeout.toInt + grace - p.clock).toNat =
            u.limit grace := by
          rw [u.timeout_stubCall, Use.limit]
          congr 1
          omega
        simp [begin, Phase.remaining, calls, hlimit]
    all_goals simp [Phase.remaining]
  · obtain ⟨hsame, -⟩ := move_other hij answer p
    rw [budget, budget, hclock, hsame.phase, hsame.todo]

omit [DecidableEq O] [DecidableEq ι] in
/-- A millisecond for which the thread is blocked is one that it had left. -/
lemma Process.budget_tick_le (p : Process kind ι) (i : ι)
    (hkeeps : ∀ u self deadline, p.phase i = .waiting u self deadline →
      p.clock < deadline + grace) :
    p.tick.blocked i + p.tick.budget grace i ≤ p.blocked i + p.budget grace i := by
  rw [budget, budget]
  cases hphase : p.phase i with
  | waiting u self deadline =>
    have hlate := hkeeps u self deadline hphase
    simp only [tick, hphase, Phase.isBlocked, Phase.remaining, if_true]
    omega
  | idle | setting timeout | closing | writing u ret left =>
    simp [tick, hphase, Phase.isBlocked, Phase.remaining]

lemma blocked_add_budget_le (hkeeps : KeepsDeadlines grace i p schedule) (k : ℕ) :
    (Reuse.after Process.step p (upTo schedule k)).blocked i +
        (Reuse.after Process.step p (upTo schedule k)).budget grace i ≤
      p.blocked i + p.budget grace i := by
  induction k with
  | zero => exact le_rfl
  | succ k ih =>
    rw [Reuse.after_upTo_succ]
    refine le_trans ?_ ih
    cases hevent : schedule k with
    | tick => exact Process.budget_tick_le _ i (hkeeps k hevent)
    | move j answer =>
      rw [Process.step, (Process.time_move j answer _).2]
      exact Nat.add_le_add_left (Process.budget_move_le grace j answer _ i) _

/-! ### Progress -/

/-- What the schedule and the library do for a thread. -/
structure Live (grace : ℕ) (i : ι) (p : Process kind ι) (schedule : ℕ → Event ι) : Prop where
  moves : MovesAgain i schedule
  time : TimePasses schedule
  keeps : KeepsDeadlines grace i p schedule

lemma Live.later (h : Live grace i p schedule) (n : ℕ) :
    Live grace i (Reuse.after Process.step p (upTo schedule n)) fun k => schedule (n + k) where
  moves k := by
    obtain ⟨k', hk'⟩ := h.moves (n + k)
    exact ⟨k', by rwa [Nat.add_assoc] at hk'⟩
  time k := by
    obtain ⟨k', hk'⟩ := h.time (n + k)
    exact ⟨k', by rwa [Nat.add_assoc] at hk'⟩
  keeps k hevent := by
    rw [← Reuse.after_upTo_add]
    exact h.keeps (n + k) hevent

/-- When the thread moves it stands where it stood. -/
lemma Live.exists_turn (h : Live grace i p schedule) :
    ∃ n answer p', p'.phase i = p.phase i ∧ p'.todo i = p.todo i ∧
      Reuse.after Process.step p (upTo schedule (n + 1)) = Process.move i answer p' := by
  have hkeep : ∀ (e : Event ι) (p' : Process kind ι), ¬ e.IsMove i →
      p'.phase i = p.phase i ∧ p'.todo i = p.todo i →
      (Process.step e p').phase i = p.phase i ∧ (Process.step e p').todo i = p.todo i := by
    rintro (- | ⟨j, answer⟩) p' he ⟨hphase, htodo⟩
    · exact ⟨hphase, htodo⟩
    · have hij : i ≠ j := by
        rintro rfl
        exact he ⟨answer, rfl⟩
      obtain ⟨hsame, -⟩ := Process.move_other hij answer p'
      exact ⟨hsame.phase.trans hphase, hsame.todo.trans htodo⟩
  have hex : ∃ n, (schedule n).IsMove i := by
    obtain ⟨k, hk⟩ := h.moves 0
    exact ⟨0 + k, hk⟩
  obtain ⟨n, ⟨answer, hn⟩, hphase, htodo⟩ := Reuse.exists_first hkeep ⟨rfl, rfl⟩ hex
  refine ⟨n, answer, _, hphase, htodo, ?_⟩
  rw [Reuse.after_upTo_succ, hn]
  rfl

/-- A blocked thread is as it was when time passes for it or the library returns. -/
lemma Live.exists_event (h : Live grace i p schedule) {u : Use kind} {self : RpcClient}
    {deadline : ℤ} (hphase : p.phase i = .waiting u self deadline) :
    ∃ n, (schedule n = .tick ∨ ∃ got, schedule n = .move i (some got)) ∧
      (Reuse.after Process.step p (upTo schedule n)).phase i = .waiting u self deadline ∧
      (Reuse.after Process.step p (upTo schedule n)).todo i = p.todo i ∧
      (Reuse.after Process.step p (upTo schedule n)).clock = p.clock := by
  have hkeep : ∀ (e : Event ι) (p' : Process kind ι),
      ¬ (e = .tick ∨ ∃ got, e = .move i (some got)) →
      p'.phase i = .waiting u self deadline ∧ p'.todo i = p.todo i ∧ p'.clock = p.clock →
      (Process.step e p').phase i = .waiting u self deadline ∧
        (Process.step e p').todo i = p.todo i ∧ (Process.step e p').clock = p.clock := by
    rintro (- | ⟨j, answer⟩) p' he ⟨hphase', htodo, hclock⟩
    · exact absurd (.inl rfl) he
    · by_cases hij : i = j
      · subst hij
        cases answer with
        | some got => exact absurd (.inr ⟨got, rfl⟩) he
        | none =>
          have hsame : Process.step (.move i none) p' = p' := by
            simp only [Process.step, Process.move, hphase']
          rw [hsame]
          exact ⟨hphase', htodo, hclock⟩
      · obtain ⟨hsame, -⟩ := Process.move_other hij answer p'
        exact ⟨hsame.phase.trans hphase', hsame.todo.trans htodo,
          (Process.time_move j answer p').1.trans hclock⟩
  have hex : ∃ n, schedule n = .tick ∨ ∃ got, schedule n = .move i (some got) := by
    obtain ⟨k, hk⟩ := h.time 0
    exact ⟨0 + k, .inl hk⟩
  exact Reuse.exists_first hkeep ⟨hphase, rfl, rfl⟩ hex

/-- The library returns, at the latest when the time for the call is over. -/
lemma Live.exists_writing (h : Live grace i p schedule) {u : Use kind} {self : RpcClient}
    {deadline : ℤ} (hphase : p.phase i = .waiting u self deadline) :
    ∃ n ret left, (Reuse.after Process.step p (upTo schedule n)).phase i = .writing u ret left ∧
      (Reuse.after Process.step p (upTo schedule n)).todo i = p.todo i := by
  -- on the time that is left for the call
  induction hleft : (deadline + grace - p.clock).toNat using Nat.strong_induction_on
    generalizing p schedule with
  | _ t ih =>
    obtain ⟨n, hevent, hphase', htodo, hclock⟩ := h.exists_event hphase
    have hlater := h.later (n + 1)
    rw [Reuse.after_upTo_succ] at hlater
    rcases hevent with hevent | ⟨got, hevent⟩ <;> rw [hevent] at hlater
    · have hlate := h.keeps n hevent u self deadline hphase'
      obtain ⟨k, ret, left, hwriting, htodo'⟩ := ih
        (deadline + grace - (Reuse.after Process.step p (upTo schedule n)).tick.clock).toNat
        (by simp only [Process.tick]; omega) hlater hphase' rfl
      refine ⟨n + 1 + k, ret, left, ?_⟩
      rw [Reuse.after_upTo_add, Reuse.after_upTo_succ, hevent]
      exact ⟨hwriting, htodo'.trans htodo⟩
    · refine ⟨n + 1, (u.invocation self (got (kind u.object))).ret,
        (u.invocation self (got (kind u.object))).exit.assigns, ?_⟩
      rw [Reuse.after_upTo_succ, hevent, Process.step, Process.move, hphase']
      exact ⟨Function.update_self .., htodo⟩

/-- The thread makes its assignments and returns. -/
lemma Live.exists_idle_of_writing (h : Live grace i p schedule) {u : Use kind} {ret : ℤ}
    {left : List ((kind u.object).Res → (kind u.object).Res)}
    (hphase : p.phase i = .writing u ret left) :
    ∃ n, (Reuse.after Process.step p (upTo schedule n)).phase i = .idle ∧
      (Reuse.after Process.step p (upTo schedule n)).todo i = p.todo i := by
  induction left generalizing p schedule with
  | nil =>
    obtain ⟨n, answer, p', hphase', htodo', hturn⟩ := h.exists_turn
    rw [hphase] at hphase'
    refine ⟨n + 1, ?_⟩
    rw [hturn, Process.move, hphase', ← htodo']
    exact ⟨Function.update_self .., rfl⟩
  | cons assign left ih =>
    obtain ⟨n, answer, p', hphase', htodo', hturn⟩ := h.exists_turn
    rw [hphase] at hphase'
    have hnext : (Process.move i answer p').phase i = .writing u ret left ∧
        (Process.move i answer p').todo i = p'.todo i := by
      rw [Process.move, hphase']
      exact ⟨Function.update_self .., rfl⟩
    rw [← hturn] at hnext
    obtain ⟨k, hidle, htodo⟩ := ih (h.later (n + 1)) hnext.1
    refine ⟨n + 1 + k, ?_⟩
    rw [Reuse.after_upTo_add]
    exact ⟨hidle, htodo.trans (hnext.2.trans htodo')⟩

/-- The thread ends the task that it has begun. -/
lemma Live.exists_idle (h : Live grace i p schedule) :
    ∃ n, (Reuse.after Process.step p (upTo schedule n)).phase i = .idle ∧
      (Reuse.after Process.step p (upTo schedule n)).todo i = p.todo i := by
  cases hphase : p.phase i with
  | idle => exact ⟨0, hphase, rfl⟩
  | setting timeout | closing =>
    obtain ⟨n, answer, p', hphase', htodo', hturn⟩ := h.exists_turn
    rw [hphase] at hphase'
    refine ⟨n + 1, ?_⟩
    rw [hturn, Process.move, hphase', ← htodo']
    exact ⟨Function.update_self .., rfl⟩
  | writing u ret left => exact h.exists_idle_of_writing hphase
  | waiting u self deadline =>
    obtain ⟨n, ret, left, hwriting, htodo⟩ := h.exists_writing hphase
    obtain ⟨k, hidle, htodo'⟩ := (h.later n).exists_idle_of_writing hwriting
    refine ⟨n + k, ?_⟩
    rw [Reuse.after_upTo_add]
    exact ⟨hidle, htodo'.trans htodo⟩

omit [DecidableEq O] in
lemma Process.todo_begin (i : ι) (p : Process kind ι) (task : Task kind) :
    (begin i p task).todo = p.todo := by
  cases task <;> rfl

lemma Live.exists_done (h : Live grace i p schedule) :
    ∃ n, (Reuse.after Process.step p (upTo schedule n)).Done i := by
  -- on the tasks that are left
  induction htodo : p.todo i generalizing p schedule with
  | nil =>
    obtain ⟨n, hidle, hleft⟩ := h.exists_idle
    exact ⟨n, hidle, hleft.trans htodo⟩
  | cons task rest ih =>
    obtain ⟨n, hidle, hleft⟩ := h.exists_idle
    obtain ⟨k, answer, p', hphase', htodo', hturn⟩ := (h.later n).exists_turn
    rw [hidle] at hphase'
    rw [hleft, htodo] at htodo'
    have hnext : (Process.move i answer p').todo i = rest := by
      simp only [Process.move, hphase', htodo', Process.todo_begin, Function.update_self]
    rw [← hturn] at hnext
    obtain ⟨j, hdone⟩ := ih ((h.later n).later (k + 1)) hnext
    refine ⟨n + (k + 1 + j), ?_⟩
    rw [Reuse.after_upTo_add, Reuse.after_upTo_add]
    exact hdone

/-- A thread that has run its program stays where it is. -/
lemma Process.done_step (e : Event ι) (p : Process kind ι) (h : p.Done i) : (step e p).Done i := by
  rcases e with - | ⟨j, answer⟩
  · exact h
  · by_cases hij : i = j
    · subst hij
      have hsame : step (.move i answer) p = p := by simp only [step, move, h.1, h.2]
      rwa [hsame]
    · obtain ⟨hsame, -⟩ := move_other hij answer p
      exact ⟨hsame.phase.trans h.1, hsame.todo.trans h.2⟩

end

/-- The other thread stops in the middle of a `setTimeout`, and the answer needs a millisecond. -/
def stopsEarly (n : ℕ) : Event Bool :=
  if n = 0 then .move true none
  else if n % 2 = 0 then .tick
  else .move false (some emptyAnswer)

lemma keepsDeadlines_stopsEarly :
    KeepsDeadlines 0 false (.start ⟨{}, none, ⟨⟨0⟩⟩⟩ twoObjects twoPrograms) stopsEarly := by
  intro n hevent u self deadline hphase
  have hdone : (Reuse.after Process.step (.start ⟨{}, none, ⟨⟨0⟩⟩⟩ twoObjects twoPrograms)
      (upTo stopsEarly 12)).Done false := ⟨rfl, rfl⟩
  have hblocked : ((Reuse.after Process.step (.start ⟨{}, none, ⟨⟨0⟩⟩⟩ twoObjects twoPrograms)
      (upTo stopsEarly n)).phase false).isBlocked = true := congrArg Phase.isBlocked hphase
  by_cases hn : n < 12
  · interval_cases n
    -- the count is under way before the events 2 and 3
    case «2» =>
      obtain ⟨-, -, rfl⟩ := Phase.waiting.inj hphase
      decide
    case «3» => exact nomatch hevent
    all_goals exact absurd hblocked (by decide)
  · obtain ⟨k, rfl⟩ := Nat.exists_eq_add_of_le (Nat.le_of_not_lt hn)
    rw [Reuse.after_upTo_add] at hphase
    have hlater := Reuse.after_keeps (P := fun p : Process twoKinds Bool => p.Done false)
      (fun e p => Process.done_step e p) hdone (upTo (fun j => stopsEarly (12 + j)) k)
    exact nomatch hlater.1.symm.trans hphase

end VectorDb
