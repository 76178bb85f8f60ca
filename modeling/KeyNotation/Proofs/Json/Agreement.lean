import KeyNotation.Proofs.Json.Normalize
import KeyNotation.Proofs.KeyPolicy.Agreement

/-!
# Trees under two settings

A toggle changes a tree only through the keys that hold its sign and, for the hyphen, are not those
of arrays. Two settings that differ in no such toggle normalize the tree alike.

* `Json.keyOf_eq_keyOf` — one key;
* `Json.normalize_eq_of_keyOf_eq` — trees whose keys are formatted alike are normalized alike;
* `Json.normalize_eq_normalize` — the toggles that a tree does not notice.
-/

namespace KeyNotation

namespace Json

variable {g g' : Toggles}

theorem keyOf_eq_keyOf {v : Json} {k : Text}
    (hunderline : g.underline = g'.underline ∨ '_' ∉ k)
    (hdollar : g.dollar = g'.dollar ∨ '$' ∉ k)
    (hhyphen : g.hyphen = g'.hyphen ∨ ((∀ items, v ≠ arr items) → '-' ∉ k)) :
    keyOf g v k = keyOf g' v k := by
  have hagree (h : ∀ items, v ≠ arr items) : AgreeOn g g' k := by
    intro d
    cases d with
    | hyphen => exact hhyphen.imp_right fun hk => hk h
    | underline => exact hunderline
    | dollar => exact hdollar
  cases v with
  | arr items =>
    refine arrayKey_eq_arrayKey fun d => ?_
    cases d with
    | hyphen => exact .inl rfl
    | underline => exact hunderline
    | dollar => exact hdollar
  | obj es => exact objectKey_eq_objectKey (hagree nofun)
  | _ => exact scalarKey_eq_scalarKey (hagree nofun)

/-- What two entries are merged to depends on their keys alone. -/
theorem normalize_eq_of_keyOf_eq {j : Json}
    (h : ∀ e ∈ j.entries, keyOf g e.2 e.1 = keyOf g' e.2 e.1) : j.normalize g = j.normalize g' := by
  induction j using ind with
  | scalar j hj => rw [normalize_of_isScalar g hj, normalize_of_isScalar g' hj]
  | arr items ih =>
    have hitems : items.map (normalize g) = items.map (normalize g') := by
      refine List.map_congr_left fun v hv => ih v hv fun e he => ?_
      exact h e (entries_subset_of_objects (objects_subset_arr hv) he)
    rw [normalize_arr, normalize_arr, hitems]
  | obj es ih =>
    have hentries : es.map (fun e => (keyOf g e.2 e.1, e.2.normalize g)) =
        es.map fun e => (keyOf g' e.2 e.1, e.2.normalize g') := by
      refine List.map_congr_left fun e he => ?_
      have hkey := h e (mem_entries_of_mem he)
      have hvalue := ih e he fun e' he' =>
        h e' (entries_subset_of_objects (objects_subset_obj he) he')
      rw [hkey, hvalue]
    rw [normalize_obj, normalize_obj, normalizeObject, normalizeObject, hentries]

/-- A toggle that the settings do not share has its sign in no key of the tree or, if it is the
hyphen, at most in keys of arrays. -/
theorem normalize_eq_normalize {j : Json}
    (hunderline : g.underline = g'.underline ∨ ∀ e ∈ j.entries, '_' ∉ e.1)
    (hdollar : g.dollar = g'.dollar ∨ ∀ e ∈ j.entries, '$' ∉ e.1)
    (hhyphen : g.hyphen = g'.hyphen ∨
      ∀ e ∈ j.entries, (∀ items, e.2 ≠ arr items) → '-' ∉ e.1) :
    j.normalize g = j.normalize g' := by
  apply normalize_eq_of_keyOf_eq
  intro e he
  apply keyOf_eq_keyOf
  · exact hunderline.imp_right fun h => h e he
  · exact hdollar.imp_right fun h => h e he
  · exact hhyphen.imp_right fun h => h e he

/-- The settings differ in the hyphen, which stands in the key of the array, and in the dollar, which
stands nowhere. The underline that they share is taken out by both. -/
theorem normalize_eq_normalize_mixed :
    let j := obj [("a-b[]", arr [obj [("@c_d", obj [("_e", null)])]]), ("cD", bool true)]
    let g : Toggles := ⟨true, true, false⟩
    let g' : Toggles := ⟨false, true, true⟩
    (∀ e ∈ j.entries, '$' ∉ e.1) ∧
      (∀ e ∈ j.entries, (∀ items, e.2 ≠ arr items) → '-' ∉ e.1) ∧
      j.normalize g' = obj [("aBlist", arr [obj [("cD", obj [("E", null)])]]), ("cD", bool true)] ∧
      j.normalize g = j.normalize g' := by
  intro j g g'
  have hdollar : ∀ e ∈ j.entries, '$' ∉ e.1 := by
    change ∀ e ∈ ([_, _, _, _] : List (Text × Json)), '$' ∉ e.1
    simp
  have hhyphen : ∀ e ∈ j.entries, (∀ items, e.2 ≠ arr items) → '-' ∉ e.1 := by
    change ∀ e ∈ ([_, _, _, _] : List (Text × Json)), (∀ items, e.2 ≠ arr items) → '-' ∉ e.1
    simp
  have hnormalized : j.normalize g' =
      obj [("aBlist", arr [obj [("cD", obj [("E", null)])]]), ("cD", bool true)] := by
    have harray : arrayKey g' "a-b[]" = "aBlist" := by decide +kernel
    have hobject : objectKey g' "@c_d" = "cD" := by decide +kernel
    have hscalar : scalarKey g' "_e" = "E" := by decide +kernel
    simp only [j, normalize, normalizeItems, normalizeEntries, keyOf, harray, hobject, hscalar]
    rfl
  exact ⟨hdollar, hhyphen, hnormalized,
    normalize_eq_normalize (.inl rfl) (.inr hdollar) (.inr hhyphen)⟩

end Json

end KeyNotation
