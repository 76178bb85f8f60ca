import KeyNotation.Json.Reader
import KeyNotation.Proofs.Json.Tree
import KeyNotation.Proofs.Merging

/-!
# Trees that are read

* `Json.wellFormed_of_read?` — a tree that is read has no two entries of one key in an object.
-/

namespace KeyNotation

namespace Json

theorem wellFormed_ofList {es : Entries Json} (h : ∀ e ∈ es, e.2.WellFormed) :
    (obj (Entries.ofList es)).WellFormed := by
  rw [WellFormed, wellFormedEntries_iff]
  refine ⟨Entries.nodup_keys_ofList es, ?_⟩
  rintro ⟨q, v⟩ he
  obtain ⟨before, after, rfl, -⟩ := Entries.mem_ofList_iff.1 he
  exact h (q, v) (by simp)

/-- What the three readers give back with `fuel` steps left. -/
structure ReadsWellFormed (fuel : Nat) : Prop where
  value : ∀ t v rest, readValue fuel t = some (v, rest) → v.WellFormed
  items : ∀ t items rest, readItems fuel t = some (items, rest) → ∀ v ∈ items, v.WellFormed
  entries : ∀ t es rest, readEntries fuel t = some (es, rest) → ∀ e ∈ es, e.2.WellFormed

variable {fuel : Nat} (ih : ReadsWellFormed fuel)

include ih in
theorem wellFormed_of_readValue (t : Text) {v : Json} {rest : Text}
    (h : readValue (fuel + 1) t = some (v, rest)) : v.WellFormed := by
  rw [readValue] at h
  split at h
  · cases h
    trivial
  · cases h
    trivial
  · cases h
    trivial
  · obtain ⟨⟨s, t⟩, -, h⟩ := Option.map_eq_some_iff.1 h
    cases h
    trivial
  · split at h
    · cases h
      trivial
    · obtain ⟨⟨items, t⟩, hitems, h⟩ := Option.map_eq_some_iff.1 h
      cases h
      exact wellFormedItems_iff.2 (ih.items _ _ _ hitems)
  · split at h
    · cases h
      exact ⟨List.nodup_nil, trivial⟩
    · obtain ⟨⟨es, t⟩, hes, h⟩ := Option.map_eq_some_iff.1 h
      cases h
      exact wellFormed_ofList (ih.entries _ _ _ hes)
  · obtain ⟨n, -, h⟩ := Option.map_eq_some_iff.1 h
    cases h
    trivial

include ih in
theorem wellFormed_of_readItems (t : Text) {items : List Json} {rest : Text}
    (h : readItems (fuel + 1) t = some (items, rest)) : ∀ v ∈ items, v.WellFormed := by
  rw [readItems] at h
  split at h
  · cases h
  · rename_i v t hv
    have hwf := ih.value _ _ _ hv
    split at h
    · obtain ⟨⟨items, t⟩, hitems, h⟩ := Option.map_eq_some_iff.1 h
      cases h
      exact List.forall_mem_cons.2 ⟨hwf, ih.items _ _ _ hitems⟩
    · cases h
      exact List.forall_mem_singleton.2 hwf
    · cases h

include ih in
theorem wellFormed_of_readEntries (t : Text) {es : Entries Json} {rest : Text}
    (h : readEntries (fuel + 1) t = some (es, rest)) : ∀ e ∈ es, e.2.WellFormed := by
  rw [readEntries] at h
  split at h
  · split at h
    · cases h
    · split at h
      · split at h
        · cases h
        · rename_i v t hv
          have hwf := ih.value _ _ _ hv
          split at h
          · obtain ⟨⟨es, t⟩, hes, h⟩ := Option.map_eq_some_iff.1 h
            cases h
            exact List.forall_mem_cons.2 ⟨hwf, ih.entries _ _ _ hes⟩
          · cases h
            exact List.forall_mem_singleton.2 hwf
          · cases h
      · cases h
  · cases h

theorem readsWellFormed (fuel : Nat) : ReadsWellFormed fuel := by
  induction fuel with
  | zero =>
    constructor
    · intro t v rest h
      cases h
    · intro t items rest h
      cases h
    · intro t es rest h
      cases h
  | succ fuel ih =>
    constructor
    · exact fun t v rest h => wellFormed_of_readValue ih t h
    · exact fun t items rest h => wellFormed_of_readItems ih t h
    · exact fun t es rest h => wellFormed_of_readEntries ih t h

theorem wellFormed_of_read? {t : Text} {j : Json} (h : read? t = some j) : j.WellFormed := by
  unfold read? at h
  split at h
  · rename_i v rest hv
    split at h
    · cases h
      exact (readsWellFormed _).value _ _ _ hv
    · cases h
  · cases h

end Json

end KeyNotation
