/-
Finite maps that are filled by a loop.

A map is an association list with distinct keys; the order of its entries is the order in
which it is iterated, and two maps that differ in the order only are the same finite map.
The loops considered here go through a list and assign, for each item, a value to a key.
The two facts about them are what a lookup returns afterwards (`lookup_fill_copy`, for a
loop that copies another map) and what the entries are up to their order
(`entries_fill`, for a loop whose keys are pairwise distinct), together with the converse
that a loop that makes one entry for each item had pairwise distinct keys (`nodup_of_length`).
When keys are repeated, the last item of each key is the one that counts (`lookup_fill_last`).
-/
import Mathlib.Data.List.AList
import Mathlib.Data.Finset.Card

/-- Finite maps from `K` to `V`, with an iteration order. -/
abbrev Map (K V : Type) : Type := AList fun _ : K => V

namespace Map

variable {K V W ι : Type} [DecidableEq K]

/-- For each item of the list in turn, assign the value `val` to the key `key`. -/
def fill (key : ι → K) (val : ι → V) (l : List ι) (m : Map K V) : Map K V :=
  l.foldl (fun m i => m.insert (key i) (val i)) m

/-- Two maps have the same value, or none, for each key. -/
def Same (m m' : Map K V) : Prop := ∀ k, m.lookup k = m'.lookup k

variable {key : ι → K} {val : ι → V}

@[simp] lemma fill_nil (m : Map K V) : fill key val [] m = m := rfl

@[simp] lemma fill_cons (i : ι) (l : List ι) (m : Map K V) :
    fill key val (i :: l) m = fill key val l (m.insert (key i) (val i)) := rfl

lemma fill_append (l l' : List ι) (m : Map K V) :
    fill key val (l ++ l') m = fill key val l' (fill key val l m) := List.foldl_append

/-- A loop is given by the list of the keys and values that it assigns. -/
lemma fill_eq_fill_pairs (l : List ι) (m : Map K V) :
    fill key val l m = fill Prod.fst Prod.snd (l.map fun i => (key i, val i)) m := by
  rw [fill, fill, List.foldl_map]

lemma mem_fill {l : List ι} {m : Map K V} {k : K} :
    k ∈ fill key val l m ↔ k ∈ m ∨ k ∈ l.map key := by
  induction l generalizing m with
  | nil => simp
  | cons i l ih =>
    rw [fill_cons, ih, AList.mem_insert, List.map_cons, List.mem_cons]
    tauto

lemma lookup_fill_of_notMem {l : List ι} {m : Map K V} {k : K} (hk : k ∉ l.map key) :
    (fill key val l m).lookup k = m.lookup k := by
  induction l generalizing m with
  | nil => rfl
  | cons i l ih =>
    rw [List.map_cons, List.mem_cons, not_or] at hk
    rw [fill_cons, ih hk.2, AList.lookup_insert_ne hk.1]

variable (val) in
/-- A key that occurs once is assigned its own value. -/
lemma lookup_fill {l : List ι} (hl : (l.map key).Nodup) {i : ι} (hi : i ∈ l) (m : Map K V) :
    (fill key val l m).lookup (key i) = some (val i) := by
  induction l generalizing m with
  | nil => simp at hi
  | cons j l ih =>
    rw [List.map_cons, List.nodup_cons] at hl
    rcases List.mem_cons.mp hi with rfl | hi
    · -- the later items have other keys and leave the value alone
      rw [fill_cons, lookup_fill_of_notMem hl.1, AList.lookup_insert]
    · exact ih hl.2 hi _

/-! ### Copying a map -/

omit [DecidableEq K] in
lemma nodup_keys (m : Map K V) : (m.entries.map Sigma.fst).Nodup := m.keys_nodup

lemma lookup_eq_some {m : Map K V} {k : K} {v : V} :
    m.lookup k = some v ↔ ⟨k, v⟩ ∈ m.entries := AList.mem_lookup_iff

lemma lookup_of_mem {m : Map K V} {e : Σ _ : K, V} (he : e ∈ m.entries) :
    m.lookup e.1 = some e.2 := lookup_eq_some.mpr he

/-- The loop `for (k, v) in m: m'[k] = f v` over an empty `m'`. -/
lemma lookup_fill_copy (f : V → W) (m : Map K V) (k : K) :
    (fill (fun e : Σ _ : K, V => e.1) (fun e => f e.2) m.entries (∅ : Map K W)).lookup k =
      (m.lookup k).map f := by
  cases hm : m.lookup k with
  | none =>
    have hk : k ∉ m.entries.map Sigma.fst := fun h =>
      absurd (AList.lookup_eq_none.mp hm) (not_not_intro (AList.mem_keys.mpr h))
    rw [lookup_fill_of_notMem hk]
    rfl
  | some v =>
    have hmem : (⟨k, v⟩ : Σ _ : K, V) ∈ m.entries := lookup_eq_some.mp hm
    exact lookup_fill (fun e : Σ _ : K, V => f e.2) (nodup_keys m) hmem ∅

/-- Copies that lose nothing of a value are the same only if the maps are. -/
lemma same_fill_copy_iff {f : V → W} (hf : Function.Injective f) {m m' : Map K V} :
    Same (fill (fun e : Σ _ : K, V => e.1) (fun e => f e.2) m.entries (∅ : Map K W))
        (fill (fun e : Σ _ : K, V => e.1) (fun e => f e.2) m'.entries ∅) ↔ Same m m' := by
  refine forall_congr' fun k => ?_
  rw [lookup_fill_copy, lookup_fill_copy]
  exact (Option.map_injective hf).eq_iff

/-! ### The entries made by a loop -/

variable (val) in
/-- A loop over pairwise distinct new keys adds one entry for each item. -/
lemma entries_fill {l : List ι} (hl : (l.map key).Nodup) {m : Map K V}
    (hm : ∀ i ∈ l, key i ∉ m) :
    (fill key val l m).entries.Perm (l.map (fun i => ⟨key i, val i⟩) ++ m.entries) := by
  induction l generalizing m with
  | nil => simp
  | cons i l ih =>
    rw [List.map_cons, List.nodup_cons] at hl
    have hi : key i ∉ m := hm i (by simp)
    have hrest : ∀ j ∈ l, key j ∉ m.insert (key i) (val i) := by
      intro j hj hmem
      rcases (AList.mem_insert _).mp hmem with h | h
      · exact hl.1 (h ▸ List.mem_map_of_mem hj)
      · exact hm j (by simp [hj]) h
    refine (ih hl.2 hrest).trans ?_
    rw [AList.entries_insert_of_notMem hi]
    exact List.perm_middle

lemma length_fill (l : List ι) :
    (fill key val l (∅ : Map K V)).entries.length = (l.map key).toFinset.card := by
  have hkeys : (fill key val l (∅ : Map K V)).keys.toFinset = (l.map key).toFinset := by
    ext k
    rw [List.mem_toFinset, List.mem_toFinset, ← AList.mem_keys, mem_fill]
    simp
  rw [← hkeys, List.toFinset_card_of_nodup (AList.keys_nodup _), AList.keys, List.keys,
    List.length_map]

/-- The last item with the key. -/
def lastWith (key : ι → K) (l : List ι) (k : K) : Option ι :=
  (l.filter fun i => key i = k).getLast?

/-- **The last item wins.** -/
lemma lookup_fill_last (l : List ι) (k : K) :
    (fill key val l (∅ : Map K V)).lookup k = (lastWith key l k).map val := by
  induction l using List.reverseRecOn with
  | nil => rfl
  | append_singleton l i ih =>
    rw [fill_append, fill_cons, fill_nil, lastWith, List.filter_append]
    by_cases hk : key i = k
    · subst hk
      simp [AList.lookup_insert]
    · have hne : k ≠ key i := fun h => hk h.symm
      rw [AList.lookup_insert_ne hne, ih]
      simp [lastWith, hk]

/-- Each entry was assigned by some item. -/
lemma exists_of_mem_fill {l : List ι} {e : Σ _ : K, V}
    (he : e ∈ (fill key val l (∅ : Map K V)).entries) : ∃ i ∈ l, e = ⟨key i, val i⟩ := by
  have hlookup := lookup_of_mem he
  rw [lookup_fill_last] at hlookup
  obtain ⟨i, hi, hval⟩ := Option.map_eq_some_iff.mp hlookup
  obtain ⟨hmem, hkey⟩ := List.mem_filter.mp (List.mem_of_getLast? hi)
  exact ⟨i, hmem, Sigma.ext (of_decide_eq_true hkey).symm (heq_of_eq hval.symm)⟩

lemma keys_fill_perm (l : List ι) :
    (fill key val l (∅ : Map K V)).keys.Perm (l.map key).dedup := by
  rw [List.perm_ext_iff_of_nodup (AList.keys_nodup _) (List.nodup_dedup _)]
  intro k
  rw [← AList.mem_keys, mem_fill, List.mem_dedup]
  simp

variable (val) in
/-- If the loop makes as many entries as there are items, the keys are pairwise distinct. -/
lemma nodup_of_length {l : List ι}
    (h : (fill key val l (∅ : Map K V)).entries.length = l.length) : (l.map key).Nodup := by
  rw [length_fill] at h
  have hcard : (l.map key).toFinset.card = (l.map key).length := by simpa using h
  exact Multiset.toFinset_card_eq_card_iff_nodup.mp hcard

end Map
