import Mathlib.Data.List.Perm.Subperm
import KeyNotation.Entries

/-!
# Merged entries

What `Entries.ofList` makes of a list of entries, told without the order of the insertions.

* `Entries.lookup_eq_lookup` — what stands under a key does not depend on the other entries;
* `Entries.mem_ofList_iff` — an entry stays if no later one has its key;
* `Entries.ofList_of_nodup`, `Entries.length_ofList_eq_iff` — nothing is merged where all keys
  differ, and only there are the entries as many as before;
* `Entries.ext_of_keys` — entries of different keys are known by their keys and by what stands
  under each.
-/

namespace KeyNotation

namespace Entries

variable {α : Type}

theorem mem_keys_of_mem {es : Entries α} {q : Text} {v : α} (h : (q, v) ∈ es) : q ∈ es.keys :=
  List.mem_map_of_mem (f := Prod.fst) h

theorem lookup_eq_none_iff {es : Entries α} {q : Text} : es.lookup q = none ↔ q ∉ es.keys := by
  rw [List.lookup_eq_none_iff]
  constructor
  · intro h hq
    obtain ⟨e, he, rfl⟩ := List.mem_map.1 hq
    exact bne_iff_ne.1 (h e he) rfl
  · intro h e he
    rw [bne_iff_ne]
    rintro rfl
    exact h (List.mem_map_of_mem he)

theorem mem_iff_lookup {es : Entries α} (h : es.keys.Nodup) {q : Text} {v : α} :
    (q, v) ∈ es ↔ es.lookup q = some v := by
  induction es with
  | nil => simp
  | cons e es ih =>
    obtain ⟨k, w⟩ := e
    rw [show keys ((k, w) :: es) = k :: keys es from rfl, List.nodup_cons] at h
    rw [lookup_cons_eq_ite, List.mem_cons, ih h.2, Prod.mk.injEq]
    by_cases hq : q = k
    · have hn : es.lookup q = none := lookup_eq_none_iff.2 (hq ▸ h.1)
      simp [hq ▸ hn, hq, eq_comm]
    · simp [hq]

/-- What is looked up depends on the entries of that key alone. -/
theorem lookup_eq_lookup {es es' : Entries α} {q : Text} (hn : es.keys.Nodup)
    (h : ∀ v, (q, v) ∈ es' ↔ (q, v) ∈ es) : es'.lookup q = es.lookup q := by
  cases hq : es'.lookup q with
  | some v =>
    obtain ⟨l₁, l₂, hl, -⟩ := List.lookup_eq_some_iff.1 hq
    have hmem : (q, v) ∈ es' := by simp [hl]
    exact ((mem_iff_lookup hn).1 ((h v).1 hmem)).symm
  | none =>
    refine (lookup_eq_none_iff.2 fun hk => ?_).symm
    obtain ⟨⟨k, v⟩, hmem, rfl⟩ := List.mem_map.1 hk
    exact lookup_eq_none_iff.1 hq (List.mem_map_of_mem ((h v).2 hmem))

/-- Of several entries with one key, the last one stays. -/
theorem mem_ofList_iff {l : List (Text × α)} {q : Text} {v : α} :
    (q, v) ∈ ofList l ↔ ∃ before after, l = before ++ (q, v) :: after ∧ ∀ e ∈ after, e.1 ≠ q := by
  rw [mem_iff_lookup (nodup_keys_ofList l), lookup_ofList, List.lookup_eq_some_iff]
  constructor
  · rintro ⟨after, before, hl, hne⟩
    refine ⟨before.reverse, after.reverse, ?_, fun e he => ?_⟩
    · rw [← List.reverse_reverse l, hl]
      simp
    · have := hne e (List.mem_reverse.1 he)
      exact Ne.symm (bne_iff_ne.1 this)
  · rintro ⟨before, after, rfl, hne⟩
    refine ⟨after.reverse, before.reverse, by simp, fun e he => ?_⟩
    exact bne_iff_ne.2 (Ne.symm (hne e (List.mem_reverse.1 he)))

theorem insert_of_not_mem {es : Entries α} {k : Text} (h : k ∉ es.keys) (v : α) :
    insert es k v = es ++ [(k, v)] := by
  induction es with
  | nil => rfl
  | cons e es ih =>
    obtain ⟨k', v'⟩ := e
    rw [show keys ((k', v') :: es) = k' :: keys es from rfl, List.mem_cons, not_or] at h
    rw [insert, if_neg (Ne.symm h.1), ih h.2, List.cons_append]

theorem foldl_insert_of_nodup (l : List (Text × α)) {es : Entries α} (h : (keys (es ++ l)).Nodup) :
    l.foldl (fun es (k, v) => insert es k v) es = es ++ l := by
  induction l generalizing es with
  | nil => simp
  | cons e l ih =>
    obtain ⟨k, v⟩ := e
    have hk : k ∉ es.keys := by
      unfold keys at h ⊢
      rw [List.map_append, List.nodup_append] at h
      exact fun hmem => h.2.2 k hmem k (List.mem_cons_self ..) rfl
    calc ((k, v) :: l).foldl (fun es (k, v) => insert es k v) es
        = l.foldl (fun es (k, v) => insert es k v) (es ++ [(k, v)]) := by
          rw [← insert_of_not_mem hk v]
          rfl
      _ = es ++ [(k, v)] ++ l := ih (by simpa using h)
      _ = es ++ (k, v) :: l := by simp

theorem ofList_of_nodup {l : List (Text × α)} (h : (keys l).Nodup) : ofList l = l :=
  foldl_insert_of_nodup l h

/-- The merged entries are as many as before only if no two had one key. -/
theorem length_ofList_eq_iff {l : List (Text × α)} :
    (ofList l).length = l.length ↔ (keys l).Nodup := by
  constructor
  · intro h
    have hn := nodup_keys_ofList l
    have hsub : (ofList l).keys ⊆ keys l := by
      intro q hq
      rw [keys_ofList] at hq
      exact List.mem_eraseDups.1 hq
    have hlen : (keys l).length ≤ (ofList l).keys.length := by
      simp [keys, h]
    have hperm : (ofList l).keys.Perm (keys l) := (hn.subperm hsub).perm_of_length_le hlen
    exact hperm.nodup_iff.1 hn
  · intro h
    rw [ofList_of_nodup h]

theorem ext_of_keys {es es' : Entries α} (hk : es.keys = es'.keys) (hn : es.keys.Nodup)
    (h : ∀ q v v', (q, v) ∈ es → (q, v') ∈ es' → v = v') : es = es' := by
  induction es generalizing es' with
  | nil =>
    cases es' with
    | nil => rfl
    | cons e' es' => cases hk
  | cons e es ih =>
    cases es' with
    | nil => cases hk
    | cons e' es' =>
      obtain ⟨k, v⟩ := e
      obtain ⟨k', v'⟩ := e'
      simp only [keys, List.map_cons, List.cons.injEq] at hk
      obtain ⟨rfl, hk⟩ := hk
      obtain rfl := h k v v' (List.mem_cons_self ..) (List.mem_cons_self ..)
      have hes := ih hk (List.nodup_cons.1 hn).2 fun q w w' hw hw' =>
        h q w w' (List.mem_cons_of_mem _ hw) (List.mem_cons_of_mem _ hw')
      rw [hes]

end Entries

end KeyNotation
