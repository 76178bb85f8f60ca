import Mathlib.Logic.Function.Iterate
import KeyNotation.Proofs.Json.NormalForm
import KeyNotation.Proofs.KeyPolicy.Regular

/-!
# Trees that are normalized again

A pass changes only keys that are not settled, and each such key loses a sign. So the passes come to
an end, and where all keys are regular there is nothing left to do after the first.

* `Json.SettlesWithin g n j` — an entry of `j` is settled, or its key weighs at most `n`: a pass
  lowers `n` by one;
* `Json.normalize_iterate_maxWeight` — after as many passes as the heaviest key weighs, one more
  changes nothing;
* `Json.normalize_normalize` — with regular keys this is so after one pass.
-/

namespace KeyNotation

namespace Json

/-! ## one pass -/

theorem exists_of_mem_objects_normalize {g : Toggles} {j : Json} {es' : Entries Json}
    (h : es' ∈ (j.normalize g).objects) : ∃ es ∈ j.objects, es' = normalizeObject g es := by
  induction j using ind with
  | scalar j hj =>
    rw [normalize_of_isScalar g hj, objects_of_isScalar hj] at h
    cases h
  | arr items ih =>
    rw [normalize_arr, mem_objects_arr] at h
    obtain ⟨v', hv', h⟩ := h
    obtain ⟨v, hv, rfl⟩ := List.mem_map.1 hv'
    obtain ⟨es, hes, rfl⟩ := ih v hv h
    exact ⟨es, objects_subset_arr hv hes, rfl⟩
  | obj es ih =>
    rw [normalize_obj, mem_objects_obj] at h
    rcases h with rfl | ⟨e', he', h⟩
    · exact ⟨es, mem_objects_self es, rfl⟩
    · obtain ⟨e, he, rfl⟩ := exists_mem_of_mem_normalizeObject he'
      obtain ⟨es₁, hes₁, rfl⟩ := ih e he h
      exact ⟨es₁, objects_subset_obj he hes₁, rfl⟩

theorem exists_of_mem_entries_normalize {g : Toggles} {j : Json} {e' : Text × Json}
    (h : e' ∈ (j.normalize g).entries) :
    ∃ e ∈ j.entries, e' = (keyOf g e.2 e.1, e.2.normalize g) := by
  obtain ⟨es', hes', he'⟩ := mem_entries.1 h
  obtain ⟨es, hes, rfl⟩ := exists_of_mem_objects_normalize hes'
  obtain ⟨e, he, rfl⟩ := exists_mem_of_mem_normalizeObject he'
  exact ⟨e, mem_entries.2 ⟨es, hes, he⟩, rfl⟩

theorem wellFormed_normalize (g : Toggles) (j : Json) : (j.normalize g).WellFormed := by
  rw [wellFormed_iff]
  intro es' hes'
  obtain ⟨es, -, rfl⟩ := exists_of_mem_objects_normalize hes'
  exact nodup_keys_normalizeObject g es

theorem settled_normalize_iff {g : Toggles} {k : Text} {v : Json} :
    Settled g (k, v.normalize g) ↔ Settled g (k, v) := by
  rw [Settled, Settled, keyOf_normalize]

/-! ## all passes -/

/-- Every entry of `j` is settled, or will be after at most `n` passes. -/
def SettlesWithin (g : Toggles) (n : Nat) (j : Json) : Prop :=
  ∀ e ∈ j.entries, Settled g e ∨ weight e.1 ≤ n

theorem settled_of_settlesWithin_zero {g : Toggles} {j : Json} (h : SettlesWithin g 0 j) :
    ∀ e ∈ j.entries, Settled g e := by
  intro e he
  by_contra hs
  have hlt := weight_keyOf_lt (mt settled_iff.2 hs)
  have hle := (h e he).resolve_left hs
  omega

theorem settlesWithin_normalize {g : Toggles} {n : Nat} {j : Json} (h : SettlesWithin g (n + 1) j) :
    SettlesWithin g n (j.normalize g) := by
  intro e' he'
  obtain ⟨⟨k, v⟩, he, rfl⟩ := exists_of_mem_entries_normalize he'
  by_cases hs : Settled g (k, v)
  · refine .inl (settled_normalize_iff.2 ?_)
    rwa [show keyOf g v k = k from hs]
  · have hlt := weight_keyOf_lt (mt settled_iff.2 hs)
    have hle := (h _ he).resolve_left hs
    exact .inr (Nat.le_of_lt_succ (hlt.trans_le hle))

theorem settlesWithin_iterate {g : Toggles} {n m : Nat} {j : Json}
    (h : SettlesWithin g (m + n) j) : SettlesWithin g m ((normalize g)^[n] j) := by
  induction n generalizing m with
  | zero => exact h
  | succ n ih =>
    rw [Function.iterate_succ_apply']
    refine settlesWithin_normalize (ih ?_)
    rwa [Nat.add_right_comm, Nat.add_assoc]

theorem wellFormed_iterate (g : Toggles) {j : Json} (h : j.WellFormed) (n : Nat) :
    ((normalize g)^[n] j).WellFormed := by
  cases n with
  | zero => exact h
  | succ n =>
    rw [Function.iterate_succ_apply']
    exact wellFormed_normalize g _

/-- The weight of the heaviest key. -/
def maxWeight (j : Json) : Nat := (j.entries.map fun e => weight e.1).max?.getD 0

theorem weight_le_maxWeight {j : Json} {e : Text × Json} (he : e ∈ j.entries) :
    weight e.1 ≤ j.maxWeight :=
  List.le_max?_getD_of_mem (List.mem_map_of_mem he)

/-- The tree must not have two entries of one key: where no key weighs anything, there would be no
pass to merge them. A tree that is read is so. -/
theorem normalize_iterate_maxWeight {g : Toggles} {j : Json} (h : j.WellFormed) :
    ((normalize g)^[j.maxWeight] j).normalize g = (normalize g)^[j.maxWeight] j := by
  have hstart : SettlesWithin g (0 + j.maxWeight) j := fun e he => by
    rw [Nat.zero_add]
    exact .inr (weight_le_maxWeight he)
  exact normalize_eq_self (wellFormed_iterate g h _)
    (settled_of_settlesWithin_zero (settlesWithin_iterate hstart))

theorem normalize_iterate_maxWeight_alias :
    let j := obj [("@@a", num (.int 1)), ("T:a-b[]", arr [])]
    j.WellFormed ∧ j.maxWeight = 3 ∧
      ((normalize .off)^[j.maxWeight] j).normalize .off = (normalize .off)^[j.maxWeight] j := by
  intro j
  have h : j.WellFormed := wellFormed_iff.2 (by decide)
  exact ⟨h, rfl, normalize_iterate_maxWeight h⟩

/-! ## trees with regular keys -/

theorem normalKey_keyOf_of_regular (g : Toggles) (v : Json) {k : Text} (h : Regular k) :
    NormalKey g v (keyOf g v k) := by
  cases v with
  | arr items => exact arraySettled_of_regular g h
  | obj es => exact objectSettled_of_regular g h
  | _ => exact bare_of_regular g h

theorem keyOf_keyOf_of_regular (g : Toggles) (v : Json) {k : Text} (h : Regular k) :
    keyOf g v (keyOf g v k) = keyOf g v k :=
  keyOf_eq_self (normalKey_keyOf_of_regular g v h)

theorem normalize_normalize {g : Toggles} {j : Json} (h : ∀ e ∈ j.entries, Regular e.1) :
    (j.normalize g).normalize g = j.normalize g := by
  refine normalize_eq_self (wellFormed_normalize g j) fun e' he' => ?_
  obtain ⟨⟨k, v⟩, he, rfl⟩ := exists_of_mem_entries_normalize he'
  rw [settled_normalize_iff]
  exact keyOf_keyOf_of_regular g v (h _ he)

theorem normalize_normalize_merged :
    let j := obj [("@a[]", arr [obj [("T:m", obj [])]]), ("aList", bool true)]
    (∀ e ∈ j.entries, Regular e.1) ∧ j.normalize .all = obj [("aList", bool true)] ∧
      (j.normalize .all).normalize .all = j.normalize .all := by
  intro j
  have h : ∀ e ∈ j.entries, Regular e.1 := by
    have ha : Regular "@a[]" :=
      ⟨['@'], "a", listMark, rfl, .inr rfl, .inr rfl, by decide, by decide, .inl (by decide)⟩
    have hlist : Regular "aList" :=
      ⟨[], "aList", [], rfl, .inl rfl, .inl rfl, by decide, by decide, .inl (by decide)⟩
    have hm : Regular "T:m" :=
      ⟨[], "T:m", [], rfl, .inl rfl, .inl rfl, by decide, by decide,
        .inr ⟨['T'], ['m'], rfl, by decide, by simp⟩⟩
    change ∀ e ∈ ([_, _, _] : List (Text × Json)), Regular e.1
    simp only [List.forall_mem_cons]
    exact ⟨ha, hlist, hm, fun _ he => nomatch he⟩
  exact ⟨h, rfl, normalize_normalize h⟩

end Json

end KeyNotation
