/-
Documents that are read and written again and again.

In a round the documents that a `query` finds are written back by an `upsert`, and the server
stores them unchanged.  One round loses an empty array and sets what was not set, so the stored
documents change; after two rounds they have settled (`rounds_settle`), and after one of them
exactly when no empty array was stored (`one_round_settles_iff`).
-/
import Mathlib.Logic.Function.Iterate
import VectorDb.Codec.Document

namespace VectorDb

/-! ### One field -/

/-- What becomes of a stored field in the end: an empty string if it was not set or an empty
array. -/
def settledField (stored : Olama.Field) : Olama.Field :=
  if stored.oneofVal = none ∨ stored.oneofVal = some (.valStrArr []) then
    ⟨some (.valStr [])⟩
  else stored

lemma rewritten_unset : rewritten ⟨none⟩ = ⟨some (.valStr [])⟩ := rfl

lemma rewritten_emptyArray : rewritten ⟨some (.valStrArr [])⟩ = ⟨none⟩ := rfl

lemma rewritten_settledField (stored : Olama.Field) :
    rewritten (settledField stored) = settledField stored := by
  unfold settledField
  rw [rewritten_eq_iff]
  split
  · simp
  · next h => exact not_or.mp h

/-- A field that is not an empty array has settled after one round. -/
lemma rewritten_eq_settledField_iff (stored : Olama.Field) :
    rewritten stored = settledField stored ↔ stored.oneofVal ≠ some (.valStrArr []) := by
  by_cases hunset : stored.oneofVal = none
  · obtain rfl : stored = ⟨none⟩ := by cases stored; exact congrArg _ hunset
    exact iff_of_true rfl (by simp)
  · by_cases hempty : stored.oneofVal = some (.valStrArr [])
    · obtain rfl : stored = ⟨some (.valStrArr [])⟩ := by cases stored; exact congrArg _ hempty
      refine iff_of_false ?_ (by simp)
      rw [rewritten_emptyArray, settledField, if_pos (Or.inr rfl)]
      simp
    · have hsettled : settledField stored = stored := if_neg (not_or.mpr ⟨hunset, hempty⟩)
      exact iff_of_true (by rw [hsettled, rewritten_eq_iff]; exact ⟨hunset, hempty⟩) hempty

lemma rewritten_rewritten (stored : Olama.Field) :
    rewritten (rewritten stored) = settledField stored := by
  by_cases hempty : stored.oneofVal = some (.valStrArr [])
  · obtain rfl : stored = ⟨some (.valStrArr [])⟩ := by cases stored; exact congrArg _ hempty
    rw [rewritten_emptyArray, rewritten_unset, settledField, if_pos (Or.inr rfl)]
  · rw [(rewritten_eq_settledField_iff stored).mpr hempty, rewritten_settledField]

lemma iterate_rewritten (n : ℕ) : rewritten^[n + 2] = settledField := by
  funext stored
  rw [Function.iterate_add_apply]
  show rewritten^[n] (rewritten (rewritten stored)) = _
  rw [rewritten_rewritten]
  exact Function.iterate_fixed (rewritten_settledField stored) n

/-! ### Rounds -/

/-- A round of reading and writing. -/
structure Round where
  /-- The call that reads. -/
  query : Invocation .query
  /-- Its result object before the call. -/
  result : QueryDocumentResult
  /-- The client that writes, with the other arguments of its call. -/
  client : RpcClient
  dbName : Str
  collectionName : Str
  params : Option UpsertDocumentParams
  timeout : Int32

/-- The documents that the round sends. -/
def Round.sent (r : Round) : List Olama.Document :=
  (r.client.upsert r.dbName r.collectionName
    (QueryDocumentResult.documents (r.query.object r.result)) r.params r.timeout).request.documents

/-- The server answers each query with the documents that it has, and stores what is sent
unchanged. -/
def Rounds (stored : ℕ → List Olama.Document) (round : ℕ → Round) : Prop :=
  ∀ n, (round n).query.Accepts ∧ (round n).query.outcome.response.documents = stored n ∧
    List.Forall₂ StoredAs (round n).sent (stored (n + 1))

/-- The document has the same id and vector, and its fields were changed by `f`.  The score is
left open: it is not stored. -/
def ChangedBy (f : Olama.Field → Olama.Field) (doc doc' : Olama.Document) : Prop :=
  doc'.id = doc.id ∧ doc'.vector = doc.vector ∧
    ∀ k, doc'.fields.lookup k = (doc.fields.lookup k).map f

/-- No stored field is an empty array. -/
def NoStoredEmptyArray (doc : Olama.Document) : Prop :=
  ∀ k value, doc.fields.lookup k = some value → value.oneofVal ≠ some (.valStrArr [])

lemma changedBy_next {f : Olama.Field → Olama.Field} {doc doc' doc'' : Olama.Document}
    (h : ChangedBy f doc doc')
    (hstored : StoredAs (upsertDocument (queryDocument doc')) doc'') :
    ChangedBy (rewritten ∘ f) doc doc'' := by
  obtain ⟨hid, hvector, hfields⟩ := h
  obtain ⟨hid', hvector', hfields'⟩ := hstored
  refine ⟨hid'.trans hid, hvector'.trans hvector, ?_⟩
  intro k
  rw [hfields' k]
  show (encodeFields (decodeFields doc'.fields)).lookup k = _
  rw [lookup_encodeFields, hfields k, Option.map_map]

/-- Two documents made of one, where one function changes the fields of both. -/
lemma storedAs_iff_of_changedBy {f g : Olama.Field → Olama.Field}
    {doc doc' doc'' : Olama.Document} (h : ChangedBy f doc doc') (h' : ChangedBy g doc doc'') :
    StoredAs doc' doc'' ↔ ∀ k value, doc.fields.lookup k = some value → g value = f value := by
  obtain ⟨hid, hvector, hfields⟩ := h
  obtain ⟨hid', hvector', hfields'⟩ := h'
  have hsame : Map.Same doc''.fields doc'.fields ↔
      ∀ k value, doc.fields.lookup k = some value → g value = f value := by
    refine forall_congr' ?_
    intro k
    rw [hfields k, hfields' k]
    cases doc.fields.lookup k with
    | none => simp
    | some value => simp
  exact (and_iff_right (hid'.trans hid.symm)).trans
    ((and_iff_right (hvector'.trans hvector.symm)).trans hsame)

section Lists

variable {α β γ : Type} {R : α → β → Prop} {S : β → γ → Prop} {T : α → γ → Prop}

lemma forall₂_trans (h : ∀ a b c, R a b → S b c → T a c) {as : List α} {bs : List β}
    {cs : List γ} (hR : List.Forall₂ R as bs) (hS : List.Forall₂ S bs cs) :
    List.Forall₂ T as cs := by
  induction hR generalizing cs with
  | nil =>
    cases hS
    exact .nil
  | cons hab _ ih =>
    obtain ⟨c, cs, hbc, hrest, rfl⟩ := List.forall₂_cons_left_iff.mp hS
    exact .cons (h _ _ _ hab hbc) (ih hrest)

lemma forall₂_iff_forall {P : α → Prop} (h : ∀ a b c, R a b → T a c → (S b c ↔ P a))
    {as : List α} {bs : List β} {cs : List γ} (hR : List.Forall₂ R as bs)
    (hT : List.Forall₂ T as cs) : List.Forall₂ S bs cs ↔ ∀ a ∈ as, P a := by
  induction hR generalizing cs with
  | nil =>
    cases hT
    simp
  | cons hab _ ih =>
    obtain ⟨c, cs, hac, hrest, rfl⟩ := List.forall₂_cons_left_iff.mp hT
    rw [List.forall₂_cons, h _ _ _ hab hac, ih hrest, List.forall_mem_cons]

end Lists

section Rounds

variable {stored : ℕ → List Olama.Document} {round : ℕ → Round}

/-- **Each round** rewrites the fields once more. -/
lemma changedBy_rounds (h : Rounds stored round) (n : ℕ) :
    List.Forall₂ (ChangedBy rewritten^[n]) (stored 0) (stored n) := by
  induction n with
  | zero =>
    rw [List.forall₂_same]
    intro doc _
    exact ⟨rfl, rfl, fun k => by simp⟩
  | succ n ih =>
    obtain ⟨haccepts, hfound, hstored⟩ := h n
    have hsent : (round n).sent = (stored n).map (upsertDocument ∘ queryDocument) := by
      rw [Round.sent, Invocation.documents_object_query haccepts, hfound, ← List.map_map]
      rfl
    rw [hsent, List.forall₂_map_left_iff] at hstored
    rw [Function.iterate_succ']
    refine forall₂_trans ?_ ih hstored
    intro doc doc' doc'' hdoc hdoc'
    exact changedBy_next hdoc hdoc'

/-- **Two rounds settle the documents.**  From the second round on the stored documents are
those that were there at the start, except that every field that was not set, or an empty array,
is an empty string. -/
theorem rounds_settle (h : Rounds stored round) (n : ℕ) :
    List.Forall₂ (ChangedBy settledField) (stored 0) (stored (n + 2)) := by
  rw [← iterate_rewritten n]
  exact changedBy_rounds h (n + 2)

lemma storedAs_settled_iff {doc doc' doc'' : Olama.Document}
    (h : ChangedBy rewritten^[1] doc doc') (h' : ChangedBy settledField doc doc'') :
    StoredAs doc' doc'' ↔ NoStoredEmptyArray doc := by
  rw [storedAs_iff_of_changedBy h h']
  refine forall₂_congr fun k value => imp_congr_right fun _ => ?_
  rw [← rewritten_eq_settledField_iff]
  exact eq_comm

/-- **When one round does.**  From the first round on the stored documents stay the same exactly
when no field of them was an empty array at the start. -/
theorem one_round_settles_iff (h : Rounds stored round) :
    (∀ n, List.Forall₂ StoredAs (stored 1) (stored (n + 1))) ↔
      ∀ doc ∈ stored 0, NoStoredEmptyArray doc := by
  have hone := changedBy_rounds h 1
  have hlater : ∀ n, List.Forall₂ StoredAs (stored 1) (stored (n + 2)) ↔
      ∀ doc ∈ stored 0, NoStoredEmptyArray doc := by
    intro n
    have htwo := changedBy_rounds h (n + 2)
    rw [iterate_rewritten] at htwo
    refine forall₂_iff_forall ?_ hone htwo
    intro doc doc' doc'' hdoc hdoc'
    exact storedAs_settled_iff hdoc hdoc'
  constructor
  · intro hsame
    exact (hlater 0).mp (hsame 1)
  · intro hnone n
    cases n with
    | zero =>
      rw [List.forall₂_same]
      intro doc _
      exact ⟨rfl, rfl, fun _ => rfl⟩
    | succ n => exact (hlater n).mpr hnone

end Rounds

/-- An empty array that is read and written again. -/
def reread : ℕ → List Olama.Document
  | 0 => [untaggedStored]
  | n + 1 => (reread n).map (upsertDocument ∘ queryDocument)

def rereadRound (n : ℕ) : Round where
  query := { findSample with outcome := ⟨⟨0, []⟩, { documents := reread n }⟩ }
  result := ⟨true, [], [], 0⟩
  client := {}
  dbName := "db".toList
  collectionName := "coll".toList
  params := none
  timeout := 5000

lemma rounds_reread : Rounds reread rereadRound := by
  intro n
  have haccepts : (rereadRound n).query.Accepts := ⟨⟨rfl, rfl⟩, trivial⟩
  refine ⟨haccepts, rfl, ?_⟩
  have hsent : (rereadRound n).sent = reread (n + 1) := by
    rw [Round.sent, Invocation.documents_object_query haccepts]
    exact List.map_map
  rw [hsent, List.forall₂_same]
  intro doc _
  exact ⟨rfl, rfl, fun _ => rfl⟩

theorem rounds_settle_reread :
    List.Forall₂ (ChangedBy settledField) (reread 0) (reread 2) :=
  rounds_settle rounds_reread 0

theorem one_round_settles_reread :
    ¬ ∀ n, List.Forall₂ StoredAs (reread 1) (reread (n + 1)) := by
  intro h
  have hnone := (one_round_settles_iff rounds_reread).mp h untaggedStored (by simp [reread])
  exact hnone "tags".toList ⟨some (.valStrArr [])⟩ rfl rfl

end VectorDb
