import KeyNotation.Proofs.Front
import KeyNotation.TableKey

/-!
# Table keys written and read

A name is read as far as it goes, and a colon is read only with a name behind it. So a whole text is
a table key in one way at most.

* `Name.read_eq_some_iff` — a name that is read ends where no more characters of names follow;
* `TableKey.read_eq_some_iff` — the same for a table key, with its alias;
* `TableKey.ofText?_eq_some_iff` — reading a whole text undoes writing.
-/

namespace KeyNotation

/-! ## names -/

theorem Name.read_eq_some_iff {t name rest : Text} :
    Name.read t = some (name, rest) ↔
      t = name ++ rest ∧ isName name = true ∧ ∀ c ∈ rest.head?, isNameChar c = false := by
  constructor
  · intro h
    cases t with
    | nil => cases h
    | cons c t =>
      simp only [Name.read, Option.ite_none_right_eq_some, Option.some.injEq, Prod.mk.injEq] at h
      obtain ⟨hc, hname, hrest⟩ := h
      obtain ⟨ht, hbody, hend⟩ := takeWhile_dropWhile_eq_iff.1 ⟨rfl, hrest⟩
      refine ⟨?_, ?_, hend⟩
      · rw [← hname, List.cons_append, ← ht]
      · rw [← hname]
        exact isName_cons.2 ⟨hc, hbody⟩
  · rintro ⟨rfl, hname, hend⟩
    obtain ⟨c, body, rfl⟩ := List.exists_cons_of_ne_nil (ne_nil_of_isName hname)
    obtain ⟨hc, hbody⟩ := isName_cons.1 hname
    obtain ⟨htake, hdrop⟩ := takeWhile_dropWhile_eq_iff.2 ⟨rfl, hbody, hend⟩
    simp only [List.cons_append, Name.read, if_pos hc, htake, hdrop]

namespace TableKey

/-! ## table keys -/

theorem readAlias_eq_some_iff {t a rest : Text} :
    readAlias t = some (a, rest) ↔ ∃ u, t = ':' :: u ∧ Name.read u = some (a, rest) := by
  constructor
  · intro h
    unfold readAlias at h
    split at h
    · rename_i u
      exact ⟨u, rfl, h⟩
    · cases h
  · rintro ⟨u, rfl, h⟩
    exact h

theorem read_of_alias {t table rest a rest' : Text} (ht : Name.read t = some (table, rest))
    (ha : readAlias rest = some (a, rest')) : read t = some (⟨table, some a⟩, rest') := by
  simp only [read, ht, ha]

theorem read_of_no_alias {t table rest : Text} (ht : Name.read t = some (table, rest))
    (ha : readAlias rest = none) : read t = some (⟨table, none⟩, rest) := by
  simp only [read, ht, ha]

theorem read_eq_some_iff {t rest : Text} {k : TableKey} :
    read t = some (k, rest) ↔
      t = k.render ++ rest ∧ k.Named ∧ (∀ c ∈ rest.head?, isNameChar c = false) ∧
        (k.aliased = none → readAlias rest = none) := by
  constructor
  · intro h
    refine ⟨(append_of_read h).symm, ?_⟩
    cases hn : Name.read t with
    | none =>
      simp only [read, hn] at h
      cases h
    | some p =>
      obtain ⟨table, rest'⟩ := p
      obtain ⟨-, htable, hend⟩ := Name.read_eq_some_iff.1 hn
      cases ha : readAlias rest' with
      | none =>
        rw [read_of_no_alias hn ha] at h
        cases h
        exact ⟨⟨htable, nofun⟩, hend, fun _ => ha⟩
      | some q =>
        obtain ⟨a, rest''⟩ := q
        rw [read_of_alias hn ha] at h
        cases h
        obtain ⟨u, -, hu⟩ := readAlias_eq_some_iff.1 ha
        obtain ⟨-, haname, haend⟩ := Name.read_eq_some_iff.1 hu
        refine ⟨⟨htable, fun a' ha' => ?_⟩, haend, nofun⟩
        rwa [← Option.some.inj ha']
  · rintro ⟨rfl, hnamed, hend, hnone⟩
    obtain ⟨table, _ | a⟩ := k
    · exact read_of_no_alias (Name.read_eq_some_iff.2 ⟨rfl, hnamed.1, hend⟩) (hnone rfl)
    · have hcolon : ∀ c ∈ (':' :: (a ++ rest)).head?, isNameChar c = false := by
        simp [isNameChar]
      have htable : Name.read (render ⟨table, some a⟩ ++ rest) = some (table, ':' :: (a ++ rest)) :=
        Name.read_eq_some_iff.2 ⟨by simp [render], hnamed.1, hcolon⟩
      have halias : readAlias (':' :: (a ++ rest)) = some (a, rest) :=
        readAlias_eq_some_iff.2 ⟨_, rfl, Name.read_eq_some_iff.2 ⟨rfl, hnamed.2 a rfl, hend⟩⟩
      exact read_of_alias htable halias

theorem ofText?_eq_some_iff {t : Text} {k : TableKey} :
    ofText? t = some k ↔ k.Named ∧ t = k.render := by
  have hread : ofText? t = some k ↔ read t = some (k, []) := by
    unfold ofText?
    split
    · rename_i hr
      simp [hr]
    · rename_i hr
      constructor
      · nofun
      · intro h
        exact absurd h (hr k)
  rw [hread, read_eq_some_iff, List.append_nil]
  constructor
  · rintro ⟨ht, hnamed, -, -⟩
    exact ⟨hnamed, ht⟩
  · rintro ⟨hnamed, ht⟩
    exact ⟨ht, hnamed, nofun, fun _ => rfl⟩

theorem not_mem_render {k : TableKey} (h : k.Named) {x : Char} (hx : isNameChar x = false)
    (hcolon : x ≠ ':') : x ∉ k.render := by
  obtain ⟨table, _ | a⟩ := k
  · exact not_mem_of_isName h.1 hx
  · simp [render, hcolon, not_mem_of_isName h.1 hx, not_mem_of_isName (h.2 a rfl) hx]

theorem render_ne_nil {k : TableKey} (h : k.Named) : k.render ≠ [] := by
  have htable : k.table ≠ [] := ne_nil_of_isName h.1
  obtain ⟨table, _ | a⟩ := k
  · exact htable
  · simp [render]

end TableKey

end KeyNotation
