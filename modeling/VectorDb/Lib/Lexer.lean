/-
Splitting a text into tokens, with quoted literals.

The characters are classified by a parameter: blanks separate tokens, a punctuation mark is
a token of its own, a quote opens a literal that runs to the next occurrence of the same
quote, and every other character belongs to a run with the characters of its class.  There
are no escapes: a literal cannot contain its quote.

The lexer goes through the text once.  A text whose last literal is not closed has no
tokens at all (`lex` returns `none`), and this is the only way to fail.  The lemmas below say
how the tokens of a text are put together from those of its parts: a closed text can be cut
at every blank and at every punctuation mark (`lex_append_cons`), and a literal is read as
one token whatever its contents (`lex_literal`).
-/
import Mathlib.Data.List.Count
import Mathlib.Algebra.Group.Nat.Even

namespace Lexer

/-- The classes of characters. -/
inductive Kind where
  | blank
  | punct
  | quote
  | run (k : ℕ)
deriving DecidableEq, Repr

/-- The tokens of a text. -/
inductive Tok where
  | punct (c : Char)
  | run (k : ℕ) (w : List Char)
  | lit (q : Char) (s : List Char)
deriving DecidableEq, Repr

/-- What the lexer is in the middle of. -/
inductive State where
  | between
  | run (k : ℕ) (w : List Char)
  | lit (q : Char) (s : List Char)
deriving DecidableEq, Repr

/-- The tokens that the end of the text completes; an open literal cannot be completed. -/
def State.flush : State → Option (List Tok)
  | .between => some []
  | .run k w => some [.run k w]
  | .lit _ _ => none

variable (kind : Char → Kind)

/-- Read the first character of a token. -/
def enter (c : Char) : List Tok × State :=
  match kind c with
  | .blank => ([], .between)
  | .punct => ([.punct c], .between)
  | .quote => ([], .lit c [])
  | .run k => ([], .run k [c])

/-- Read one character: the tokens it completes and the next state. -/
def step : State → Char → List Tok × State
  | .between, c => enter kind c
  | .run k w, c =>
      if kind c = .run k then ([], .run k (w ++ [c]))
      else (.run k w :: (enter kind c).1, (enter kind c).2)
  | .lit q s, c => if c = q then ([.lit q s], .between) else ([], .lit q (s ++ [c]))

/-- Read a text from a given state. -/
def scan : State → List Char → List Tok × State
  | st, [] => ([], st)
  | st, c :: cs =>
      ((step kind st c).1 ++ (scan (step kind st c).2 cs).1, (scan (step kind st c).2 cs).2)

/-- The tokens of a text, when all its literals are closed. -/
def lex (s : List Char) : Option (List Tok) :=
  (scan kind .between s).2.flush.map ((scan kind .between s).1 ++ ·)

variable {kind}

lemma scan_append (st : State) (s t : List Char) :
    scan kind st (s ++ t) =
      ((scan kind st s).1 ++ (scan kind (scan kind st s).2 t).1,
        (scan kind (scan kind st s).2 t).2) := by
  induction s generalizing st with
  | nil => simp [scan]
  | cons c s ih => simp [scan, ih]

@[simp] lemma lex_nil : lex kind [] = some [] := rfl

/-! ### Cutting a text -/

/-- The token of a separator. -/
def delim (kind : Char → Kind) (c : Char) : List Tok := (enter kind c).1

lemma enter_of_separator {c : Char} (hc : kind c = .blank ∨ kind c = .punct) :
    enter kind c = (delim kind c, .between) := by
  rcases hc with hc | hc <;> simp [enter, delim, hc]

/-- A separator completes whatever the end of the text would complete. -/
lemma step_separator {st : State} {ts : List Tok} {c : Char}
    (hc : kind c = .blank ∨ kind c = .punct) (hst : st.flush = some ts) :
    step kind st c = (ts ++ delim kind c, .between) := by
  have hne : ∀ k, kind c ≠ .run k := by
    intro k h
    rcases hc with hc | hc <;> simp [hc] at h
  cases st with
  | between =>
    obtain rfl : ts = [] := by simpa [State.flush] using hst.symm
    simpa [step] using enter_of_separator hc
  | run k w =>
    obtain rfl : ts = [.run k w] := by simpa [State.flush] using hst.symm
    simp [step, hne, enter_of_separator hc]
  | lit q s =>
    -- an open literal completes nothing
    simp [State.flush] at hst

/-- A closed text can be cut at a blank or at a punctuation mark. -/
lemma lex_append_cons {s : List Char} {ts : List Tok} (hs : lex kind s = some ts) {c : Char}
    (hc : kind c = .blank ∨ kind c = .punct) (t : List Char) :
    lex kind (s ++ c :: t) = (lex kind t).map (ts ++ delim kind c ++ ·) := by
  obtain ⟨us, hus, rfl⟩ := Option.map_eq_some_iff.mp hs
  have hstep := step_separator hc hus
  simp only [lex, scan_append, scan, hstep, List.append_assoc]
  rw [Option.map_map]
  congr 1

lemma lex_punct {c : Char} (hc : kind c = .punct) (t : List Char) :
    lex kind (c :: t) = (lex kind t).map (.punct c :: ·) := by
  have h := lex_append_cons lex_nil (Or.inr hc) t
  simpa [delim, enter, hc] using h

lemma lex_append_blank {s : List Char} {ts : List Tok} (hs : lex kind s = some ts) {c : Char}
    (hc : kind c = .blank) (t : List Char) :
    lex kind (s ++ c :: t) = (lex kind t).map (ts ++ ·) := by
  have h := lex_append_cons hs (Or.inl hc) t
  simpa [delim, enter, hc] using h

lemma lex_append_punct {s : List Char} {ts : List Tok} (hs : lex kind s = some ts) {c : Char}
    (hc : kind c = .punct) (t : List Char) :
    lex kind (s ++ c :: t) = (lex kind t).map (ts ++ .punct c :: ·) := by
  have h := lex_append_cons hs (Or.inr hc) t
  simpa [delim, enter, hc] using h

/-! ### Runs and literals -/

lemma scan_run {k : ℕ} {w : List Char} (hw : ∀ c ∈ w, kind c = .run k) (v : List Char) :
    scan kind (.run k v) w = ([], .run k (v ++ w)) := by
  induction w generalizing v with
  | nil => simp [scan]
  | cons c w ih =>
    have hc : kind c = .run k := hw c (by simp)
    simp [scan, step, hc, ih (fun d hd => hw d (by simp [hd]))]

/-- A nonempty run is one token. -/
lemma lex_run {k : ℕ} {w : List Char} (hne : w ≠ []) (hw : ∀ c ∈ w, kind c = .run k) :
    lex kind w = some [.run k w] := by
  cases w with
  | nil => exact absurd rfl hne
  | cons c w =>
    have hc : kind c = .run k := hw c (by simp)
    have hrest := scan_run (fun d hd => hw d (List.mem_cons_of_mem c hd)) [c]
    simp [lex, scan, step, enter, hc, hrest, State.flush]

lemma scan_literal {q : Char} {s : List Char} (hs : q ∉ s) (v t : List Char) :
    scan kind (.lit q v) (s ++ q :: t) =
      (.lit q (v ++ s) :: (scan kind .between t).1, (scan kind .between t).2) := by
  induction s generalizing v with
  | nil => simp [scan, step]
  | cons c s ih =>
    have hc : c ≠ q := fun h => hs (by simp [h])
    have hs' : q ∉ s := fun h => hs (by simp [h])
    simp [scan, step, hc, ih hs']

/-- A literal is one token, whatever stands between its quotes. -/
lemma lex_literal {q : Char} (hq : kind q = .quote) {s : List Char} (hs : q ∉ s)
    (t : List Char) :
    lex kind (q :: (s ++ q :: t)) = (lex kind t).map (.lit q s :: ·) := by
  simp [lex, scan, step, enter, hq, scan_literal hs, Option.map_map, Function.comp_def]

/-! ### The contents of the literals -/

/-- The contents of the literals among the tokens. -/
def literals : List Tok → List (List Char)
  | [] => []
  | .lit _ s :: ts => s :: literals ts
  | _ :: ts => literals ts

@[simp] lemma literals_append (ts us : List Tok) :
    literals (ts ++ us) = literals ts ++ literals us := by
  induction ts with
  | nil => rfl
  | cons t ts ih => cases t <;> simp [literals, ih]

lemma mem_literals {ts : List Tok} {s : List Char} :
    s ∈ literals ts ↔ ∃ q, .lit q s ∈ ts := by
  induction ts with
  | nil => simp [literals]
  | cons t ts ih => cases t <;> simp [literals, ih, exists_or]

/-- The state of an open literal: it was opened by a quote and does not contain it. -/
def State.Clean (kind : Char → Kind) : State → Prop
  | .lit q s => kind q = .quote ∧ q ∉ s
  | _ => True

/-- A literal token is delimited by a quote that it does not contain. -/
def Tok.Clean (kind : Char → Kind) : Tok → Prop
  | .lit q s => kind q = .quote ∧ q ∉ s
  | _ => True

variable (kind) in
lemma clean_enter (c : Char) :
    (∀ t ∈ (enter kind c).1, t.Clean kind) ∧ (enter kind c).2.Clean kind := by
  unfold enter
  cases hc : kind c <;> simp [Tok.Clean, State.Clean, hc]

lemma clean_step {st : State} (hst : st.Clean kind) (c : Char) :
    (∀ t ∈ (step kind st c).1, t.Clean kind) ∧ (step kind st c).2.Clean kind := by
  cases st with
  | between => exact clean_enter kind c
  | run k w =>
    by_cases hc : kind c = .run k
    · simp [step, hc, State.Clean]
    · obtain ⟨h1, h2⟩ := clean_enter kind c
      refine ⟨?_, by simpa [step, hc] using h2⟩
      simpa [step, hc, Tok.Clean] using h1
  | lit q s =>
    obtain ⟨hq, hs⟩ := hst
    by_cases hc : c = q
    · subst hc
      simp [step, State.Clean, Tok.Clean, hq, hs]
    · simp [step, hc, State.Clean, hq, hs, Ne.symm hc]

lemma clean_scan {st : State} (hst : st.Clean kind) (s : List Char) :
    (∀ t ∈ (scan kind st s).1, t.Clean kind) ∧ (scan kind st s).2.Clean kind := by
  induction s generalizing st with
  | nil => simpa [scan] using hst
  | cons c s ih =>
    obtain ⟨h1, h2⟩ := clean_step hst c
    obtain ⟨h3, h4⟩ := ih h2
    refine ⟨?_, h4⟩
    intro t ht
    rcases List.mem_append.mp ht with ht | ht
    · exact h1 t ht
    · exact h3 t ht

/-- No literal of a text contains its own quote. -/
lemma clean_of_lex {s : List Char} {ts : List Tok} (h : lex kind s = some ts) :
    ∀ t ∈ ts, t.Clean kind := by
  obtain ⟨us, hus, rfl⟩ := Option.map_eq_some_iff.mp h
  have hstart : State.between.Clean kind := trivial
  obtain ⟨h1, h2⟩ := clean_scan hstart s
  intro t ht
  rcases List.mem_append.mp ht with ht | ht
  · exact h1 t ht
  · cases hst : (scan kind .between s).2 with
    | between =>
      obtain rfl : us = [] := by simpa [hst, State.flush] using hus.symm
      simp at ht
    | run k w =>
      obtain rfl : us = [.run k w] := by simpa [hst, State.flush] using hus.symm
      obtain rfl : t = .run k w := by simpa using ht
      trivial
    | lit q v => simp [hst, State.flush] at hus

/-! ### Closed texts -/

/-- The lexer is inside a literal. -/
def State.inside : State → Bool
  | .lit _ _ => true
  | _ => false

lemma flush_isSome (st : State) : st.flush.isSome = !st.inside := by
  cases st <;> rfl

section OneQuote

variable {q : Char} (hq : ∀ c, kind c = .quote ↔ c = q)
include hq

/-- With a single kind of quote, each occurrence of it opens or closes a literal. -/
lemma inside_step {st : State} (hst : st.Clean kind) (c : Char) :
    (step kind st c).2.inside = (st.inside ^^ decide (c = q)) := by
  have henter : (enter kind c).2.inside = decide (c = q) := by
    unfold enter
    have hcq := hq c
    cases hc : kind c <;> simp_all [State.inside]
  cases st with
  | between => simpa [step, State.inside] using henter
  | run k w =>
    by_cases hc : kind c = .run k
    · have hcq : c ≠ q := fun h => by simp [(hq c).mpr h] at hc
      simp [step, hc, State.inside, hcq]
    · simpa [step, hc, State.inside] using henter
  | lit p s =>
    obtain rfl : p = q := (hq p).mp hst.1
    by_cases hc : c = p <;> simp [step, hc, State.inside]

lemma inside_scan {st : State} (hst : st.Clean kind) (s : List Char) :
    (scan kind st s).2.inside = (st.inside ^^ decide (¬ Even (s.count q))) := by
  induction s generalizing st with
  | nil => simp [scan]
  | cons c s ih =>
    have hstep := inside_step hq hst c
    rw [scan, ih (clean_step hst c).2, hstep]
    by_cases hc : c = q
    · subst hc
      have hcount : Even ((c :: s).count c) ↔ ¬ Even (s.count c) := by
        rw [List.count_cons_self, Nat.even_add_one]
      -- a quote flips the state of the lexer and the parity of the count
      have hflip : decide (¬ Even ((c :: s).count c)) = !decide (¬ Even (s.count c)) := by
        rw [← decide_not]
        exact decide_eq_decide.mpr (not_congr hcount)
      rw [hflip]
      cases st.inside <;> cases decide (¬ Even (s.count c)) <;> simp
    · simp [hc]

/-- A text is closed exactly when it has an even number of quotes. -/
lemma lex_isSome_iff_even (s : List Char) : (lex kind s).isSome ↔ Even (s.count q) := by
  have hstart : State.between.Clean kind := trivial
  have h := inside_scan hq hstart s
  rw [lex, Option.isSome_map, flush_isSome, h]
  simp [State.inside]

end OneQuote

end Lexer
