import KeyNotation.Text

/-!
# Entries

The entries of an object or a table: keys with values, in the order in which the keys came first.
They are looked up with `List.lookup`.

* `Entries.insert es k v` — `es` with `v` under `k`: a new key comes last, a key that is there
  keeps its place;
* `Entries.ofList l` — the entries of `l` inserted one after the other, so that a key that comes
  more than once has the place of its first entry and the value of its last.
-/

namespace KeyNotation

abbrev Entries (α : Type) := List (Text × α)

namespace Entries

variable {α : Type}

def keys (es : Entries α) : List Text := es.map Prod.fst

def insert : Entries α → Text → α → Entries α
  | [], k, v => [(k, v)]
  | (k', v') :: es, k, v => if k' = k then (k, v) :: es else (k', v') :: insert es k v

def ofList (l : List (Text × α)) : Entries α := l.foldl (fun es (k, v) => insert es k v) []

theorem keys_insert (es : Entries α) (k : Text) (v : α) :
    (insert es k v).keys = if k ∈ es.keys then es.keys else es.keys ++ [k] := by
  induction es with
  | nil => simp [insert, keys]
  | cons e es ih =>
    obtain ⟨k', v'⟩ := e
    unfold keys at ih ⊢
    by_cases h : k' = k
    · simp [insert, h]
    · simp only [insert, h, if_false, List.map_cons, ih, List.mem_cons, Ne.symm h, false_or]
      split <;> simp

theorem lookup_cons_eq_ite (es : Entries α) (k q : Text) (v : α) :
    List.lookup q ((k, v) :: es) = if q = k then some v else es.lookup q := by
  by_cases h : q = k
  · simp [h]
  · simp [List.lookup_cons, h, beq_eq_false_iff_ne.2 h]

theorem lookup_insert (es : Entries α) (k q : Text) (v : α) :
    (insert es k v).lookup q = if q = k then some v else es.lookup q := by
  induction es with
  | nil => simp [insert, lookup_cons_eq_ite]
  | cons e es ih =>
    obtain ⟨k', v'⟩ := e
    by_cases h : k' = k
    · simp only [insert, h, if_true, lookup_cons_eq_ite]
      split <;> rfl
    · simp only [insert, h, if_false, lookup_cons_eq_ite, ih]
      grind

/-! ## entries of a list -/

/-- Of several entries with one key, the last one has the value. -/
theorem lookup_foldl_insert (l : List (Text × α)) (es : Entries α) (q : Text) :
    (l.foldl (fun es (k, v) => insert es k v) es).lookup q = (l.reverse ++ es).lookup q := by
  induction l generalizing es with
  | nil => rfl
  | cons e l ih =>
    obtain ⟨k, v⟩ := e
    rw [List.foldl_cons, ih, List.reverse_cons, List.append_assoc, List.lookup_append,
      List.lookup_append, lookup_insert, List.singleton_append, lookup_cons_eq_ite]

theorem lookup_ofList (l : List (Text × α)) (q : Text) :
    (ofList l).lookup q = l.reverse.lookup q := by
  rw [ofList, lookup_foldl_insert, List.append_nil]

/-- Of several entries with one key, the first one has the place. -/
theorem keys_foldl_insert (l : List (Text × α)) (es : Entries α) :
    keys (l.foldl (fun es (k, v) => insert es k v) es) =
      es.keys ++ ((keys l).filter (· ∉ es.keys)).eraseDups := by
  induction l generalizing es with
  | nil => simp [keys]
  | cons e l ih =>
    obtain ⟨k, v⟩ := e
    rw [List.foldl_cons, ih, keys_insert, show keys ((k, v) :: l) = k :: keys l from rfl]
    by_cases h : k ∈ es.keys
    · simp [h]
    · rw [if_neg h, List.filter_cons_of_pos (by simpa using h), List.eraseDups_cons,
        List.filter_filter, List.append_assoc, List.singleton_append]
      congr 3
      refine List.filter_congr fun a _ => ?_
      by_cases ha : a = k <;> simp [ha]

theorem keys_ofList (l : List (Text × α)) : (ofList l).keys = (keys l).eraseDups := by
  rw [ofList, keys_foldl_insert]
  rw [List.filter_eq_self.2 (by simp [keys])]
  rfl

theorem nodup_keys_insert {es : Entries α} (h : es.keys.Nodup) (k : Text) (v : α) :
    (insert es k v).keys.Nodup := by
  rw [keys_insert]
  split
  · exact h
  · rename_i hk
    rw [List.nodup_append]
    refine ⟨h, by simp, fun a ha b hb => ?_⟩
    obtain rfl : b = k := by simpa using hb
    rintro rfl
    exact hk ha

theorem nodup_keys_foldl_insert (l : List (Text × α)) {es : Entries α} (h : es.keys.Nodup) :
    (keys (l.foldl (fun es (k, v) => insert es k v) es)).Nodup := by
  induction l generalizing es with
  | nil => exact h
  | cons e l ih => exact ih (nodup_keys_insert h _ _)

theorem nodup_keys_ofList (l : List (Text × α)) : (ofList l).keys.Nodup :=
  nodup_keys_foldl_insert l (by simp [keys])

end Entries

end KeyNotation
