import KeyNotation.Proofs.Json.Normalize
import KeyNotation.Proofs.KeyPolicy.Settled

/-!
# Normal forms

A tree is left as it is if and only if no key in it has anything left to take off. Where a policy
does act on a key, the key loses a sign, so neither the case of its letters nor what it is merged
with can make it the key that it was.

* `Json.Settled g e` — the key of the entry `e` is as the policy of its value leaves it;
* `Json.NormalKey g v k` — the policy of the value `v` finds nothing to take off the key `k`;
* `Json.settled_iff` — an entry is settled if and only if its key is normal;
* `Json.normalize_eq_self_iff_settled` — the trees that are left as they are, by their entries;
* `Json.normalize_eq_self_iff` — the same with the signs that no key may have.
-/

namespace KeyNotation

namespace Json

/-! ## settled entries -/

def Settled (g : Toggles) (e : Text × Json) : Prop := keyOf g e.2 e.1 = e.1

/-- The policy of the value `v` finds nothing to take off the key `k`: no `@` in front and no
divider that is on, for arrays and objects no colon, and for arrays no list mark at the end and no
hyphen either. -/
def NormalKey (g : Toggles) (v : Json) (k : Text) : Prop :=
  match v with
  | arr _ => ArraySettled g k
  | obj _ => ObjectSettled g k
  | _ => Bare g k

theorem keyOf_eq_self {g : Toggles} {v : Json} {k : Text} (h : NormalKey g v k) :
    keyOf g v k = k := by
  cases v with
  | arr items => exact arrayKey_eq_self h
  | obj es => exact objectKey_eq_self h
  | _ => exact scalarKey_eq_self h

theorem weight_keyOf_lt {g : Toggles} {v : Json} {k : Text} (h : ¬ NormalKey g v k) :
    weight (keyOf g v k) < weight k := by
  cases v with
  | arr items => exact weight_arrayKey_lt h
  | obj es => exact weight_objectKey_lt h
  | _ => exact weight_scalarKey_lt h

theorem settled_iff {g : Toggles} {e : Text × Json} : Settled g e ↔ NormalKey g e.2 e.1 := by
  constructor
  · intro h
    by_contra hn
    have hlt := weight_keyOf_lt hn
    rw [show keyOf g e.2 e.1 = e.1 from h] at hlt
    exact lt_irrefl _ hlt
  · exact keyOf_eq_self

/-! ## trees of settled entries -/

theorem map_eq_self_iff {α : Type} {f : α → α} {l : List α} : l.map f = l ↔ ∀ a ∈ l, f a = a := by
  have h := List.map_inj_left (l := l) (f := f) (g := id)
  rwa [List.map_id] at h

/-- Entries that were merged would be fewer than before. -/
theorem normalizeObject_eq_self_iff {g : Toggles} {es : Entries Json} :
    normalizeObject g es = es ↔
      (Entries.keys es).Nodup ∧ ∀ e ∈ es, Settled g e ∧ e.2.normalize g = e.2 := by
  have hmap : (es.map fun e => (keyOf g e.2 e.1, e.2.normalize g)) = es ↔
      ∀ e ∈ es, Settled g e ∧ e.2.normalize g = e.2 := by
    rw [map_eq_self_iff]
    simp only [Prod.ext_iff, Settled]
  rw [← hmap]
  constructor
  · intro h
    -- as many entries as before, so that none were merged
    have hkeys : (es.map fun e => keyOf g e.2 e.1).Nodup := by
      rw [← length_normalizeObject_eq_iff, h]
    have hnodup := nodup_keys_normalizeObject g es
    rw [h] at hnodup
    rw [normalizeObject_of_nodup hkeys] at h
    exact ⟨hnodup, h⟩
  · rintro ⟨hnodup, h⟩
    rw [normalizeObject, h, Entries.ofList_of_nodup hnodup]

theorem forall_mem_entries_iff {j : Json} {p : Text × Json → Prop} :
    (∀ e ∈ j.entries, p e) ↔ ∀ es ∈ j.objects, ∀ e ∈ es, p e := by
  simp only [mem_entries]
  constructor
  · intro h es hes e he
    exact h e ⟨es, hes, he⟩
  · rintro h e ⟨es, hes, he⟩
    exact h es hes e he

theorem normalize_eq_self_iff_settled {g : Toggles} {j : Json} :
    j.normalize g = j ↔ j.WellFormed ∧ ∀ e ∈ j.entries, Settled g e := by
  rw [wellFormed_iff, forall_mem_entries_iff, ← forall₂_and]
  refine iff_forall_objects (fun _ h => normalize_of_isScalar g h) (fun items => ?_)
    (fun es => ?_) j
  · rw [normalize_arr, arr.injEq, map_eq_self_iff]
  · rw [normalize_obj, obj.injEq, normalizeObject_eq_self_iff, forall₂_and, and_assoc]

theorem normalize_eq_self {g : Toggles} {j : Json} (hwf : j.WellFormed)
    (h : ∀ e ∈ j.entries, Settled g e) : j.normalize g = j :=
  normalize_eq_self_iff_settled.2 ⟨hwf, h⟩

/-- The tree must not have two entries of one key, which would be merged whatever their keys. A tree
that is read is so. -/
theorem normalize_eq_self_iff {g : Toggles} {j : Json} (h : j.WellFormed) :
    j.normalize g = j ↔ ∀ e ∈ j.entries, NormalKey g e.2 e.1 := by
  simp only [normalize_eq_self_iff_settled, settled_iff]
  exact and_iff_right h

/-- With the toggles off, a hyphen may stay in the key of a scalar or an object, but not in that of
an array. -/
theorem normalize_ne_self_of_array_hyphen :
    let j := obj [("a-b", bool true), ("c-d", obj [("e-f", arr [])])]
    j.WellFormed ∧ (∃ e ∈ j.entries, ¬ NormalKey .off e.2 e.1) ∧ j.normalize .off ≠ j := by
  intro j
  have hwf : j.WellFormed := wellFormed_iff.2 (by decide)
  have hmem : ⟨"e-f", arr []⟩ ∈ j.entries :=
    List.mem_cons_of_mem _ (List.mem_cons_of_mem _ (List.mem_cons_self ..))
  have hn : ¬ NormalKey .off (arr []) "e-f" := fun h => h.2.2.2 '-' (by decide) (by decide)
  exact ⟨hwf, ⟨_, hmem, hn⟩, fun h => hn ((normalize_eq_self_iff hwf).1 h _ hmem)⟩

end Json

end KeyNotation
