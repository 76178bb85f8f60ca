import KeyNotation.Json.Normalize
import KeyNotation.Proofs.Json.Tree
import KeyNotation.Proofs.Merging

/-!
# Normalized trees

What `Json.normalize` makes of a tree, told without the entries being inserted one by one.

* `Json.LastUnder g es q v` — the last entry of `es` whose key is formatted as `q` has the value
  `v`;
* `Json.mem_normalizeObject_iff` — these are the entries that stay;
* `Json.Normalizes g j j'` — `j'` is `j` with formatted keys, at every depth;
* `Json.normalize_eq_iff` — `Json.normalize g j` is the one such tree.
-/

namespace KeyNotation

namespace Json

/-- The entries of an object, normalized and merged. -/
def normalizeObject (g : Toggles) (es : Entries Json) : Entries Json :=
  Entries.ofList (es.map fun e => (keyOf g e.2 e.1, e.2.normalize g))

theorem normalize_of_isScalar (g : Toggles) {j : Json} (h : j.IsScalar) : j.normalize g = j := by
  cases j with
  | arr items => cases h
  | obj es => cases h
  | _ => rfl

theorem normalize_arr (g : Toggles) (items : List Json) :
    (arr items).normalize g = arr (items.map (normalize g)) := by
  rw [normalize, normalizeItems_eq_map]

theorem normalize_obj (g : Toggles) (es : Entries Json) :
    (obj es).normalize g = obj (normalizeObject g es) := by
  rw [normalize, normalizeEntries_eq_map]
  rfl

theorem keyOf_normalize (g : Toggles) (v : Json) (k : Text) :
    keyOf g (v.normalize g) k = keyOf g v k := by
  cases v <;> rfl

theorem keys_map_keyOf (g : Toggles) (es : Entries Json) :
    Entries.keys (es.map fun e => (keyOf g e.2 e.1, e.2.normalize g)) =
      es.map fun e => keyOf g e.2 e.1 := by
  rw [Entries.keys, List.map_map]
  rfl

theorem keys_normalizeObject (g : Toggles) (es : Entries Json) :
    Entries.keys (normalizeObject g es) = (es.map fun e => keyOf g e.2 e.1).eraseDups := by
  rw [normalizeObject, Entries.keys_ofList, keys_map_keyOf]

theorem nodup_keys_normalizeObject (g : Toggles) (es : Entries Json) :
    (Entries.keys (normalizeObject g es)).Nodup :=
  Entries.nodup_keys_ofList _

theorem normalizeObject_of_nodup {g : Toggles} {es : Entries Json}
    (h : (es.map fun e => keyOf g e.2 e.1).Nodup) :
    normalizeObject g es = es.map fun e => (keyOf g e.2 e.1, e.2.normalize g) := by
  rw [← keys_map_keyOf] at h
  exact Entries.ofList_of_nodup h

/-- Entries whose keys are formatted alike are merged, so that there are fewer. -/
theorem length_normalizeObject_eq_iff {g : Toggles} {es : Entries Json} :
    (normalizeObject g es).length = es.length ↔ (es.map fun e => keyOf g e.2 e.1).Nodup := by
  rw [← keys_map_keyOf, ← Entries.length_ofList_eq_iff, List.length_map, normalizeObject]

/-- The last entry of `es` whose key is formatted as `q` has the value `v`. -/
def LastUnder (g : Toggles) (es : Entries Json) (q : Text) (v : Json) : Prop :=
  ∃ before k after, es = before ++ (k, v) :: after ∧ keyOf g v k = q ∧
    ∀ e ∈ after, keyOf g e.2 e.1 ≠ q

theorem mem_normalizeObject_iff {g : Toggles} {es : Entries Json} {q : Text} {w : Json} :
    (q, w) ∈ normalizeObject g es ↔ ∃ v, LastUnder g es q v ∧ w = v.normalize g := by
  rw [normalizeObject, Entries.mem_ofList_iff]
  constructor
  · rintro ⟨before', after', hl, hne⟩
    obtain ⟨before, rest, rfl, rfl, hrest⟩ := List.map_eq_append_iff.1 hl
    obtain ⟨⟨k, v⟩, after, rfl, he, rfl⟩ := List.map_eq_cons_iff.1 hrest
    obtain ⟨hk, hv⟩ := Prod.mk.inj he
    exact ⟨v, ⟨before, k, after, rfl, hk, fun e he => hne _ (List.mem_map_of_mem he)⟩, hv.symm⟩
  · rintro ⟨v, ⟨before, k, after, rfl, rfl, hne⟩, rfl⟩
    refine ⟨_, _, List.map_append, ?_⟩
    intro e' he'
    obtain ⟨e, he, rfl⟩ := List.mem_map.1 he'
    exact hne e he

theorem mem_of_lastUnder {g : Toggles} {es : Entries Json} {q : Text} {v : Json}
    (h : LastUnder g es q v) : ∃ k, (k, v) ∈ es ∧ keyOf g v k = q := by
  obtain ⟨before, k, after, rfl, hk, -⟩ := h
  exact ⟨k, by simp, hk⟩

theorem exists_mem_of_mem_normalizeObject {g : Toggles} {es : Entries Json} {e' : Text × Json}
    (h : e' ∈ normalizeObject g es) : ∃ e ∈ es, e' = (keyOf g e.2 e.1, e.2.normalize g) := by
  obtain ⟨q, w⟩ := e'
  obtain ⟨v, hlast, rfl⟩ := mem_normalizeObject_iff.1 h
  obtain ⟨k, hmem, rfl⟩ := mem_of_lastUnder hlast
  exact ⟨(k, v), hmem, rfl⟩

/-! ## the normalized tree -/

/-- `j'` is `j` with formatted keys: scalars stay and arrays keep their items in place. The keys of
an object are those that its entries are formatted to, each in its first place, and under each
stands what the last of these entries held. -/
inductive Normalizes (g : Toggles) : Json → Json → Prop
  | scalar {j : Json} (h : j.IsScalar) : Normalizes g j j
  | arr {items items' : List Json} (length : items'.length = items.length)
      (item : ∀ (i : Nat) v v', items[i]? = some v → items'[i]? = some v' → Normalizes g v v') :
      Normalizes g (arr items) (arr items')
  | obj {es es' : Entries Json}
      (keys : Entries.keys es' = (es.map fun e => keyOf g e.2 e.1).eraseDups)
      (value : ∀ q v v', LastUnder g es q v → (q, v') ∈ es' → Normalizes g v v') :
      Normalizes g (obj es) (obj es')

theorem normalizes_normalize (g : Toggles) (j : Json) : Normalizes g j (j.normalize g) := by
  induction j using ind with
  | scalar j h =>
    rw [normalize_of_isScalar g h]
    exact .scalar h
  | arr items ih =>
    rw [normalize_arr]
    refine .arr (List.length_map _) fun i v v' hv hv' => ?_
    rw [List.getElem?_map, hv] at hv'
    cases hv'
    exact ih v (List.mem_of_getElem? hv)
  | obj es ih =>
    rw [normalize_obj]
    refine .obj (keys_normalizeObject g es) fun q v v' hv hv' => ?_
    have hmem : (q, v.normalize g) ∈ normalizeObject g es := mem_normalizeObject_iff.2 ⟨v, hv, rfl⟩
    have hn := nodup_keys_normalizeObject g es
    rw [Entries.mem_iff_lookup hn] at hv' hmem
    obtain rfl := Option.some.inj (hmem.symm.trans hv')
    obtain ⟨k, hk, -⟩ := mem_of_lastUnder hv
    exact ih (k, v) hk

theorem eq_normalize_of_normalizes {g : Toggles} {j j' : Json} (h : Normalizes g j j') :
    j.normalize g = j' := by
  induction h with
  | scalar h => exact normalize_of_isScalar g h
  | @arr items items' length item ih =>
    rw [normalize_arr]
    congr 1
    refine List.ext_getElem? fun i => ?_
    rw [List.getElem?_map]
    rcases Nat.lt_or_ge i items.length with hlt | hge
    · have hv := List.getElem?_eq_getElem hlt
      have hv' := List.getElem?_eq_getElem (length ▸ hlt)
      rw [hv, hv', Option.map_some, ih i _ _ hv hv']
    · rw [List.getElem?_eq_none hge, List.getElem?_eq_none (length ▸ hge)]
      rfl
  | @obj es es' keys value ih =>
    rw [normalize_obj]
    congr 1
    refine Entries.ext_of_keys ((keys_normalizeObject g es).trans keys.symm)
      (nodup_keys_normalizeObject g es) fun q w v' hw hv' => ?_
    obtain ⟨v, hlast, rfl⟩ := mem_normalizeObject_iff.1 hw
    exact ih q v v' hlast hv'

/-- There is one tree that `j` normalizes to, and `normalize` finds it. -/
theorem normalize_eq_iff {g : Toggles} {j j' : Json} :
    j.normalize g = j' ↔ Normalizes g j j' := by
  constructor
  · rintro rfl
    exact normalizes_normalize g j
  · exact eq_normalize_of_normalizes

example : (obj [("@a[]", arr []), ("b", null), ("aList", bool true)]).normalize .off =
    obj [("aList", bool true), ("b", null)] := rfl

end Json

end KeyNotation
