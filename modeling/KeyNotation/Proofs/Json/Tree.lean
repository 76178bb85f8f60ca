import Mathlib.Data.List.Basic
import KeyNotation.Json

/-!
# Trees of values

* `Json.ind` — induction over a tree, with the scalars in one case;
* `Json.objects j` — every object in `j`, at any depth;
* `Json.iff_forall_objects` — what is checked object by object is true of every object in `j`;
* `Json.entries j` — every entry of an object in `j`.
-/

namespace KeyNotation

namespace Json

def IsScalar : Json → Prop
  | arr _ => False
  | obj _ => False
  | _ => True

@[elab_as_elim]
theorem ind {motive : Json → Prop} (scalar : ∀ j, IsScalar j → motive j)
    (arr : ∀ items, (∀ v ∈ items, motive v) → motive (arr items))
    (obj : ∀ es : Entries Json, (∀ e ∈ es, motive e.2) → motive (obj es)) : ∀ j, motive j
  | .null => scalar _ trivial
  | .bool _ => scalar _ trivial
  | .num _ => scalar _ trivial
  | .str _ => scalar _ trivial
  | .arr items => arr items fun v _hv => ind scalar arr obj v
  | .obj es => obj es fun e _he => ind scalar arr obj e.2
termination_by j => sizeOf j
decreasing_by
  · have := List.sizeOf_lt_of_mem _hv
    simp only [Json.arr.sizeOf_spec]
    omega
  · have := List.sizeOf_lt_of_mem _he
    obtain ⟨k, v⟩ := e
    simp only [Prod.mk.sizeOf_spec, Json.obj.sizeOf_spec] at *
    omega

/-! ## the objects of a tree -/

mutual

/-- An object comes before the objects inside it. -/
def objects : Json → List (Entries Json)
  | null => []
  | bool _ => []
  | num _ => []
  | str _ => []
  | arr items => objectsOfItems items
  | obj es => es :: objectsOfEntries es

def objectsOfItems : List Json → List (Entries Json)
  | [] => []
  | v :: items => objects v ++ objectsOfItems items

def objectsOfEntries : Entries Json → List (Entries Json)
  | [] => []
  | (_, v) :: es => objects v ++ objectsOfEntries es

end

theorem objectsOfItems_eq_flatMap : ∀ items : List Json,
    objectsOfItems items = items.flatMap objects
  | [] => rfl
  | v :: items => by simp [objectsOfItems, objectsOfItems_eq_flatMap items]

theorem objectsOfEntries_eq_flatMap : ∀ es : Entries Json,
    objectsOfEntries es = es.flatMap fun e => e.2.objects
  | [] => rfl
  | (k, v) :: es => by simp [objectsOfEntries, objectsOfEntries_eq_flatMap es]

theorem objects_of_isScalar {j : Json} (h : j.IsScalar) : j.objects = [] := by
  cases j with
  | arr items => cases h
  | obj es => cases h
  | _ => rfl

theorem mem_objects_arr {items : List Json} {es : Entries Json} :
    es ∈ (arr items).objects ↔ ∃ v ∈ items, es ∈ v.objects := by
  simp [objects, objectsOfItems_eq_flatMap]

theorem mem_objects_obj {es es' : Entries Json} :
    es' ∈ (obj es).objects ↔ es' = es ∨ ∃ e ∈ es, es' ∈ e.2.objects := by
  simp [objects, objectsOfEntries_eq_flatMap]

theorem objects_subset_arr {items : List Json} {v : Json} (hv : v ∈ items) :
    v.objects ⊆ (arr items).objects := by
  intro es hes
  exact mem_objects_arr.2 ⟨v, hv, hes⟩

theorem objects_subset_obj {es : Entries Json} {e : Text × Json} (he : e ∈ es) :
    e.2.objects ⊆ (obj es).objects := by
  intro es' hes'
  exact mem_objects_obj.2 (.inr ⟨e, he, hes'⟩)

theorem mem_objects_self (es : Entries Json) : es ∈ (obj es).objects :=
  mem_objects_obj.2 (.inl rfl)

/-- What is true of a tree just when it is true of its parts and, at an object, `p` of the entries,
is that `p` is true of every object in the tree. -/
theorem iff_forall_objects {motive : Json → Prop} {p : Entries Json → Prop}
    (scalar : ∀ j, IsScalar j → motive j)
    (arr : ∀ items, motive (arr items) ↔ ∀ v ∈ items, motive v)
    (obj : ∀ es : Entries Json, motive (obj es) ↔ p es ∧ ∀ e ∈ es, motive e.2) (j : Json) :
    motive j ↔ ∀ es ∈ j.objects, p es := by
  induction j using ind with
  | scalar j h =>
    rw [objects_of_isScalar h]
    constructor
    · intro _ es hes
      cases hes
    · intro _
      exact scalar j h
  | arr items ih =>
    simp only [arr, mem_objects_arr]
    constructor
    · rintro h es ⟨v, hv, hes⟩
      exact (ih v hv).1 (h v hv) es hes
    · intro h v hv
      refine (ih v hv).2 ?_
      intro es hes
      exact h es ⟨v, hv, hes⟩
  | obj es ih =>
    simp only [obj, mem_objects_obj]
    constructor
    · rintro ⟨hp, h⟩ es' (rfl | ⟨e, he, hes⟩)
      · exact hp
      · exact (ih e he).1 (h e he) es' hes
    · intro h
      refine ⟨h es (.inl rfl), ?_⟩
      intro e he
      refine (ih e he).2 ?_
      intro es' hes
      exact h es' (.inr ⟨e, he, hes⟩)

theorem wellFormed_of_isScalar {j : Json} (h : j.IsScalar) : j.WellFormed := by
  cases j with
  | arr items => cases h
  | obj es => cases h
  | _ => trivial

theorem wellFormed_iff {j : Json} : j.WellFormed ↔ ∀ es ∈ j.objects, (Entries.keys es).Nodup := by
  refine iff_forall_objects (fun _ => wellFormed_of_isScalar) (fun items => ?_) (fun es => ?_) j
  · rw [WellFormed, wellFormedItems_iff]
  · rw [WellFormed, wellFormedEntries_iff]

/-! ## the entries of a tree -/

def entries (j : Json) : List (Text × Json) := j.objects.flatten

theorem mem_entries {j : Json} {e : Text × Json} : e ∈ j.entries ↔ ∃ es ∈ j.objects, e ∈ es :=
  List.mem_flatten

theorem entries_subset_of_objects {j j' : Json} (h : j'.objects ⊆ j.objects) :
    j'.entries ⊆ j.entries := by
  intro e he
  obtain ⟨es, hes, hmem⟩ := mem_entries.1 he
  exact mem_entries.2 ⟨es, h hes, hmem⟩

theorem mem_entries_of_mem {es : Entries Json} {e : Text × Json} (he : e ∈ es) :
    e ∈ (obj es).entries :=
  mem_entries.2 ⟨es, mem_objects_self es, he⟩

end Json

end KeyNotation
