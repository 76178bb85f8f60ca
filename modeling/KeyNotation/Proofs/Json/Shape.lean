import Mathlib.Data.List.Forall2
import KeyNotation.Proofs.Json.Normalize

/-!
# The shape of a tree

The shape of a tree is all but the keys of its objects: how many entries an object has, how many
items an array has, what shape each of these has, and the scalars. Normalizing keeps the shape as
long as no two keys of one object are formatted alike, and no longer: a merge makes an object
smaller, and no other part of the tree can make up for that.

* `Json.SameShape j j'` — `j` and `j'` differ at most in the keys of their objects;
* `Json.KeysStayApart g es` — no two keys of the object `es` are formatted alike;
* `Json.sameShape_normalize_obj_iff` — what one object does to the shape;
* `Json.sameShape_normalize_iff` — the trees that keep their shape.
-/

namespace KeyNotation

namespace Json

inductive SameShape : Json → Json → Prop
  | scalar {j : Json} (h : j.IsScalar) : SameShape j j
  | arr {items items' : List Json} (h : List.Forall₂ SameShape items items') :
      SameShape (arr items) (arr items')
  | obj {es es' : Entries Json} (h : List.Forall₂ (fun e e' => SameShape e.2 e'.2) es es') :
      SameShape (obj es) (obj es')

/-- The keys of an object, each formatted by the policy of its value, are distinct. -/
def KeysStayApart (g : Toggles) (es : Entries Json) : Prop :=
  (es.map fun e => keyOf g e.2 e.1).Nodup

theorem sameShape_normalize_scalar (g : Toggles) {j : Json} (h : j.IsScalar) :
    SameShape j (j.normalize g) := by
  rw [normalize_of_isScalar g h]
  exact .scalar h

theorem sameShape_arr_iff {items items' : List Json} :
    SameShape (arr items) (arr items') ↔ List.Forall₂ SameShape items items' := by
  constructor
  · intro h
    cases h with
    | scalar h => cases h
    | arr h => exact h
  · exact .arr

theorem sameShape_obj_iff {es es' : Entries Json} :
    SameShape (obj es) (obj es') ↔ List.Forall₂ (fun e e' => SameShape e.2 e'.2) es es' := by
  constructor
  · intro h
    cases h with
    | scalar h => cases h
    | obj h => exact h
  · exact .obj

theorem sameShape_normalize_arr_iff {g : Toggles} {items : List Json} :
    SameShape (arr items) ((arr items).normalize g) ↔
      ∀ v ∈ items, SameShape v (v.normalize g) := by
  rw [normalize_arr, sameShape_arr_iff, List.forall₂_map_right_iff, List.forall₂_same]

/-- The values of a merged object may stand in the places of others, but then the object is shorter
than it was. -/
theorem sameShape_normalize_obj_iff {g : Toggles} {es : Entries Json} :
    SameShape (obj es) ((obj es).normalize g) ↔
      KeysStayApart g es ∧ ∀ e ∈ es, SameShape e.2 (e.2.normalize g) := by
  -- without a merge, every value stays in its place
  have hvalues (h : KeysStayApart g es) :
      SameShape (obj es) ((obj es).normalize g) ↔ ∀ e ∈ es, SameShape e.2 (e.2.normalize g) := by
    rw [normalize_obj, normalizeObject_of_nodup h, sameShape_obj_iff, List.forall₂_map_right_iff,
      List.forall₂_same]
  constructor
  · intro h
    have hentries := h
    rw [normalize_obj, sameShape_obj_iff] at hentries
    have hapart : KeysStayApart g es := length_normalizeObject_eq_iff.1 hentries.length_eq.symm
    exact ⟨hapart, (hvalues hapart).1 h⟩
  · rintro ⟨hapart, h⟩
    exact (hvalues hapart).2 h

theorem sameShape_normalize_iff {g : Toggles} {j : Json} :
    SameShape j (j.normalize g) ↔ ∀ es ∈ j.objects, KeysStayApart g es := by
  apply iff_forall_objects (motive := fun j => SameShape j (j.normalize g))
  · intro j h
    exact sameShape_normalize_scalar g h
  · intro items
    exact sameShape_normalize_arr_iff
  · intro es
    exact sameShape_normalize_obj_iff

end Json

end KeyNotation
