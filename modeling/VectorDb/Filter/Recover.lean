/-
The calls behind a filter text.

The builder puts each condition into parentheses, and a well-formed condition does not close a
parenthesis that it has not opened (`Cond.not_append`).  So where a condition ends can be seen
in the text, whatever stands after it, and the text of a chain determines its calls
(`text_determines_calls`): no condition can pass for the end of its parentheses and a call that
was never made.  With threads, it records the order in which they locked the mutex
(`text_records_order`).
-/
import VectorDb.Filter.Threads

namespace VectorDb

namespace FilterText

open Precedence (Expr Token parse parse_tokens parse_close)

/-! ### The end of a condition -/

/-- A condition is not another one that goes on after a closing parenthesis. -/
lemma Cond.not_append (c c' : Cond) (r : Str) : c'.text ≠ c.text ++ ')' :: r := by
  intro h
  have htokens := read_eq_some_iff.mp c.read_text
  have htokens' := read_eq_some_iff.mp c'.read_text
  rw [h, tokens_append_rparen htokens] at htokens'
  obtain ⟨us, -, heq⟩ := Option.map_eq_some_iff.mp htokens'
  have hparse := parse_tokens c'.expr
  rw [← heq, parse_close] at hparse
  exact Option.some_ne_none _ hparse.symm

/-- Two conditions that are each followed by a closing parenthesis can be told apart. -/
lemma Cond.text_of_append {c c' : Cond} {r r' : Str}
    (h : c.text ++ ')' :: r = c'.text ++ ')' :: r') : c.text = c'.text ∧ r = r' := by
  rcases List.append_eq_append_iff.mp h with ⟨mid, hc', hr⟩ | ⟨mid, hc, hr⟩
  · cases mid with
    | nil => exact ⟨by simpa using hc'.symm, by simpa using hr⟩
    | cons p mid =>
      -- the parenthesis after the shorter condition would stand inside the longer one
      obtain ⟨rfl, -⟩ := List.cons_eq_cons.mp hr
      exact absurd hc' (c.not_append c' mid)
  · cases mid with
    | nil => exact ⟨by simpa using hc, by simpa using hr.symm⟩
    | cons p mid =>
      obtain ⟨rfl, -⟩ := List.cons_eq_cons.mp hr
      exact absurd hc (c'.not_append c mid)

/-! ### The text of a chain -/

/-- The text that a call adds to a filter that has one. -/
def Call.added (c : Call) : Str :=
  ' ' :: (c.op.operation ++ ' ' :: '(' :: (c.cond.text ++ [')']))

lemma cond_run {f : Filter} (hf : f.cond ≠ []) (calls : List Call) :
    (run f calls).cond = f.cond ++ calls.flatMap Call.added := by
  induction calls generalizing f with
  | nil => simp [run]
  | cons c calls ih =>
    have hstep : (c.op.apply f c.cond.text).cond = f.cond ++ c.added := c.op.apply_nonempty hf _
    have hne : (c.op.apply f c.cond.text).cond ≠ [] := by simp [hstep, Call.added]
    have hrest := ih hne
    rw [hstep, List.append_assoc] at hrest
    exact hrest

lemma operation_of_append {op op' : CondOp} {t t' : Str}
    (h : op.operation ++ ' ' :: '(' :: t = op'.operation ++ ' ' :: '(' :: t') :
    op = op' ∧ t = t' := by
  have hand : CondOp.andCond.operation = ['a', 'n', 'd'] := rfl
  have hor : CondOp.orCond.operation = ['o', 'r'] := rfl
  have handNot : CondOp.andNotCond.operation = ['a', 'n', 'd', ' ', 'n', 'o', 't'] := rfl
  have horNot : CondOp.orNotCond.operation = ['o', 'r', ' ', 'n', 'o', 't'] := rfl
  cases op <;> cases op' <;> simp only [hand, hor, handNot, horNot] at h <;>
    first | exact ⟨rfl, by simpa using h⟩ | simp at h

lemma flatMap_added_iff (calls calls' : List Call) :
    calls.flatMap Call.added = calls'.flatMap Call.added ↔
      calls.map Call.raw = calls'.map Call.raw := by
  induction calls generalizing calls' with
  | nil => cases calls' <;> simp [Call.added]
  | cons c calls ih =>
    cases calls' with
    | nil => simp [Call.added]
    | cons c' calls' =>
      rw [List.map_cons, List.map_cons, List.cons_eq_cons, ← ih calls', Call.raw, Call.raw,
        CondCall.mk.injEq]
      constructor
      · intro h
        simp only [List.flatMap_cons, Call.added, List.cons_append, List.append_assoc,
          List.cons_eq_cons, true_and] at h
        obtain ⟨hop, hcond⟩ := operation_of_append h
        obtain ⟨htext, hrest⟩ := Cond.text_of_append hcond
        exact ⟨⟨hop, htext⟩, hrest⟩
      · rintro ⟨⟨hop, htext⟩, hrest⟩
        rw [List.flatMap_cons, List.flatMap_cons, hrest, Call.added, Call.added, hop, htext]

/-- **The text determines the calls.**  Two chains that extend the same nonempty filter have the
same text only if they make the same calls in the same order. -/
theorem text_determines_calls {f : Filter} (hf : f.cond ≠ []) (calls calls' : List Call) :
    (run f calls).cond = (run f calls').cond ↔ calls.map Call.raw = calls'.map Call.raw := by
  rw [cond_run hf, cond_run hf, List.append_cancel_left_eq, flatMap_added_iff]

theorem text_determines_calls_example :
    (run ⟨"a=1".toList⟩ [⟨.andCond, .ofText "b=\") or (\"" rfl⟩]).cond ≠
      (run ⟨"a=1".toList⟩ [⟨.andCond, .ofText "b=1" rfl⟩, ⟨.orCond, .ofText "c=1" rfl⟩]).cond := by
  intro h
  have hcalls := (text_determines_calls (by decide) _ _).mp h
  exact absurd (congrArg List.length hcalls) (by decide)

/-! ### The order of the threads -/

section Threads

variable {ι ι' : Type} [DecidableEq ι] [DecidableEq ι']

variable {f : Filter} {programs : ι → List Call} {schedule : List ι}

/-- **The text records the order.**  Threads that have finished with the same nonempty filter
have built the same text exactly when they locked the mutex for the same calls in the same
order, whichever threads they are. -/
theorem text_records_order (hf : f.cond ≠ []) {programs' : ι' → List Call} {schedule' : List ι'}
    (h : (threads f programs schedule).Finished)
    (h' : (threads f programs' schedule').Finished) :
    (threads f programs schedule).object.cond = (threads f programs' schedule').object.cond ↔
      (Filter.lockOrder f (fun i => (programs i).map Call.raw) schedule).map Prod.snd =
        (Filter.lockOrder f (fun i => (programs' i).map Call.raw) schedule').map Prod.snd := by
  obtain ⟨w, -, horder, hobject⟩ := exists_chain h
  obtain ⟨w', -, horder', hobject'⟩ := exists_chain h'
  rw [hobject, hobject', horder, horder', cond_run hf, cond_run hf, List.append_cancel_left_eq,
    flatMap_added_iff]

/-- Two threads build another text when the second one comes first. -/
theorem text_records_order_two :
    (threads ⟨"a=1".toList⟩ twoCalls twoSchedule).object.cond ≠
      (threads ⟨"a=1".toList⟩ twoCalls (twoSchedule.map not)).object.cond := by
  intro h
  have horder := (text_records_order (by decide) ⟨by decide, by decide⟩
    ⟨by decide, by decide⟩).mp h
  exact absurd horder (by decide)

end Threads

end FilterText

end VectorDb
