import Mathlib.Data.List.Forall2
import KeyNotation.Json.Codec
import KeyNotation.Proofs.Json.Tree
import KeyNotation.Proofs.Merging

/-!
# Records that are written in another way

What a form says does not change with the order of its fields, with fields that no one asks for, or
with a field left out whose value goes without saying. This may be so at every record of a form, but
an object that stands for a variant has its one entry and no others.

* `Json.MayMiss name v` — a record that lacks the field `name` is read as if it had `v` there;
* `Json.Restated j j'` — `j'` is the form `j` with any number of such changes in each of its
  records;
* `Json.Finds es es'` — under the name of each field of `es` stands the same in `es'`, restated;
* `Json.exists_finds_of_restated` — so it does in every record that is restated;
* `Json.required_of_finds`, `Json.optional_of_finds`, `Json.defaulted_of_finds` — and the field is
  read as before.
-/

namespace KeyNotation

namespace Json

/-! ## changes to records -/

/-- The labels of the variants that hold something. -/
def contentLabels : List Text := [(Relation.like .empty).label, (Relation.regex true).label]

/-- The object stands for a variant and is not a record. -/
def IsVariant (es : Entries Json) : Prop := ∃ label ∈ contentLabels, ∃ v, es = [(label, v)]

def optionalFields : List Text := ["alias", "leading", "trailing"]

def defaultedFields : List Text := ["hyphen", "underline", "dollar"]

/-- A record that lacks the field is read as if it had `v` there. -/
def MayMiss (name : Text) (v : Json) : Prop :=
  name ∈ optionalFields ∧ v = null ∨ name ∈ defaultedFields ∧ v = bool false

mutual

inductive Restated : Json → Json → Prop
  | scalar {j : Json} (h : j.IsScalar) : Restated j j
  | arr {items items' : List Json} (h : List.Forall₂ Restated items items') :
      Restated (arr items) (arr items')
  | variant {label : Text} {v v' : Json} (hlabel : label ∈ contentLabels) (h : Restated v v') :
      Restated (obj [(label, v)]) (obj [(label, v')])
  /-- The fields that are kept and any unknown ones, in any order. -/
  | record {es kept unknown es' : Entries Json} (hrecord : ¬ IsVariant es)
      (hkept : RestatedFields es kept) (hunknown : ∀ e ∈ unknown, e.1 ∉ Entries.keys es)
      (horder : es'.Perm (kept ++ unknown)) : Restated (obj es) (obj es')

/-- Each field is kept and its value restated, or it is left out. -/
inductive RestatedFields : Entries Json → Entries Json → Prop
  | nil : RestatedFields [] []
  | keep {name : Text} {v v' : Json} {es kept : Entries Json} (h : Restated v v')
      (hes : RestatedFields es kept) : RestatedFields ((name, v) :: es) ((name, v') :: kept)
  | drop {name : Text} {v : Json} {es kept : Entries Json} (h : MayMiss name v)
      (hes : RestatedFields es kept) : RestatedFields ((name, v) :: es) kept

end

theorem restatedFields_refl {es : Entries Json} (h : ∀ e ∈ es, Restated e.2 e.2) :
    RestatedFields es es := by
  induction es with
  | nil => exact .nil
  | cons e es ih =>
    obtain ⟨he, hes⟩ := List.forall_mem_cons.1 h
    exact .keep he (ih hes)

theorem restated_refl (j : Json) : Restated j j := by
  induction j using ind with
  | scalar j h => exact .scalar h
  | arr items ih => exact .arr (List.forall₂_same.2 ih)
  | obj es ih =>
    by_cases hvariant : IsVariant es
    · obtain ⟨label, hlabel, v, rfl⟩ := hvariant
      exact .variant hlabel (ih _ (List.mem_singleton_self _))
    · have horder : es.Perm (es ++ []) := .of_eq (List.append_nil es).symm
      exact .record hvariant (restatedFields_refl ih) (List.forall_mem_nil _) horder

theorem eq_of_restated {j j' : Json} (h : Restated j j') (hj : j.IsScalar) : j' = j := by
  cases h with
  | scalar _ => rfl
  | arr _ => cases hj
  | variant _ _ => cases hj
  | record _ _ _ _ => cases hj

theorem exists_items_of_restated {items : List Json} {j' : Json} (h : Restated (arr items) j') :
    ∃ items', j' = arr items' ∧ List.Forall₂ Restated items items' := by
  cases h with
  | scalar h => cases h
  | arr h => exact ⟨_, rfl, h⟩

theorem exists_content_of_restated {label : Text} {v j' : Json} (hlabel : label ∈ contentLabels)
    (h : Restated (obj [(label, v)]) j') : ∃ v', j' = obj [(label, v')] ∧ Restated v v' := by
  cases h with
  | scalar h => cases h
  | variant _ h => exact ⟨_, rfl, h⟩
  | record hrecord _ _ _ => exact absurd ⟨label, hlabel, v, rfl⟩ hrecord

/-! ## what stands under a name -/

/-- Under the name of each field of `es` stands its value in `es'`, restated. Nothing stands there
only if the field may be missing. -/
def Finds (es es' : Entries Json) : Prop :=
  ∀ name v, (name, v) ∈ es →
    (∃ v', es'.lookup name = some v' ∧ Restated v v') ∨ (es'.lookup name = none ∧ MayMiss name v)

theorem keys_sublist_of_restatedFields {es kept : Entries Json} (h : RestatedFields es kept) :
    (Entries.keys kept).Sublist (Entries.keys es) := by
  induction es generalizing kept with
  | nil =>
    cases h
    exact .slnil
  | cons e es ih =>
    cases h with
    | keep _ hes => exact (ih hes).cons_cons _
    | drop _ hes => exact (ih hes).cons _

theorem finds_of_restatedFields {es kept : Entries Json} (hn : (Entries.keys es).Nodup)
    (h : RestatedFields es kept) : Finds es kept := by
  induction es generalizing kept with
  | nil => exact nofun
  | cons e es ih =>
    obtain ⟨k, w⟩ := e
    rw [Entries.keys, List.map_cons, ← Entries.keys, List.nodup_cons] at hn
    intro name v hmem
    have hne (htail : (name, v) ∈ es) : name ≠ k := by
      rintro rfl
      exact hn.1 (Entries.mem_keys_of_mem htail)
    cases h with
    | keep hw hes =>
      rw [Entries.lookup_cons_eq_ite]
      rcases List.mem_cons.1 hmem with heq | htail
      · cases heq
        exact .inl ⟨_, if_pos rfl, hw⟩
      · rw [if_neg (hne htail)]
        exact ih hn.2 hes name v htail
    | drop hmiss hes =>
      rcases List.mem_cons.1 hmem with heq | htail
      · cases heq
        refine .inr ⟨?_, hmiss⟩
        -- the name of the field that is left out stands nowhere else
        rw [Entries.lookup_eq_none_iff]
        exact fun hk => hn.1 ((keys_sublist_of_restatedFields hes).subset hk)
      · exact ih hn.2 hes name v htail

theorem exists_finds_of_restated {es : Entries Json} {j' : Json} (h : Restated (obj es) j')
    (hrecord : ¬ IsVariant es) (hn : (Entries.keys es).Nodup) :
    ∃ es', j' = obj es' ∧ Finds es es' := by
  cases h with
  | scalar h => cases h
  | variant hlabel _ => exact absurd ⟨_, hlabel, _, rfl⟩ hrecord
  | record _ hkept hunknown horder =>
    refine ⟨_, rfl, fun name v hmem => ?_⟩
    have hkeys := (keys_sublist_of_restatedFields hkept).nodup hn
    rw [Entries.lookup_eq_lookup hkeys fun w => ?_]
    · exact finds_of_restatedFields hn hkept name v hmem
    · -- an unknown field has another name
      rw [horder.mem_iff, List.mem_append, or_iff_left]
      exact fun hw => hunknown _ hw (Entries.mem_keys_of_mem hmem)

/-! ## fields that are read -/

theorem isRecord_obj (size : Nat) (es : Entries Json) : isRecord size (obj es) = true := rfl

theorem not_isVariant_cons_cons (e₁ e₂ : Text × Json) (es : Entries Json) :
    ¬ IsVariant (e₁ :: e₂ :: es) := by
  rintro ⟨label, -, v, h⟩
  cases h

variable {es es' : Entries Json} {name : Text} {α : Type} {decode? : Json → Option α}

theorem required_of_finds {v : Json} {a : α} (h : Finds es es') (i : Nat) (hmem : (name, v) ∈ es)
    (hname : name ∉ optionalFields ++ defaultedFields)
    (hdecode : ∀ v', Restated v v' → decode? v' = some a) :
    required decode? i name (obj es') = some a := by
  rcases h name v hmem with ⟨v', hlookup, hv⟩ | ⟨-, hmiss⟩
  · rw [required, field?, hlookup, Option.bind_some, hdecode v' hv]
  · refine absurd ?_ hname
    rw [List.mem_append]
    exact hmiss.imp And.left And.left

theorem optional_of_finds {encode : α → Json} {o : Option α} (h : Finds es es') (i : Nat)
    (hmem : (name, ofOption encode o) ∈ es) (hname : name ∉ defaultedFields)
    (hdecode : ∀ a v', Restated (encode a) v' → decode? v' = some a)
    (hencode : ∀ a, ∃ t, encode a = str t) : optional decode? i name (obj es') = some o := by
  rcases h name _ hmem with ⟨v', hlookup, hv⟩ | ⟨hlookup, hmiss⟩
  · rw [optional, field?, hlookup]
    cases o with
    | none =>
      rw [eq_of_restated hv trivial]
      rfl
    | some a =>
      obtain ⟨t, ht⟩ := hencode a
      have hread : decode? v' = some a := hdecode a v' hv
      rw [ofOption, ht] at hv
      rw [eq_of_restated hv trivial] at hread ⊢
      change (decode? (str t)).map some = some (some a)
      rw [hread, Option.map_some]
  · rw [optional, field?, hlookup]
    cases o with
    | none => rfl
    | some a =>
      obtain ⟨t, ht⟩ := hencode a
      rw [ofOption, ht] at hmiss
      rcases hmiss with ⟨-, hnull⟩ | ⟨hdefault, -⟩
      · cases hnull
      · exact absurd hdefault hname

theorem defaulted_of_finds {b : Bool} (h : Finds es es') (i : Nat) (hmem : (name, bool b) ∈ es) :
    defaulted bool? false i name (obj es') = some b := by
  rcases h name _ hmem with ⟨v', hlookup, hv⟩ | ⟨hlookup, hmiss⟩
  · rw [defaulted, field?, hlookup, eq_of_restated hv trivial]
    rfl
  · rw [defaulted, field?, hlookup]
    rcases hmiss with ⟨-, hnull⟩ | ⟨-, hfalse⟩
    · cases hnull
    · cases hfalse
      rfl

end Json

end KeyNotation
