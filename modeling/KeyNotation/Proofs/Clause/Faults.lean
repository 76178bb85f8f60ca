import KeyNotation.Proofs.Clause.Reading

/-!
# Keys that are refused

Whether a key has the form of a reference key is a matter of the key alone, and so is what is wrong
with it. The join and its table only say where the key stands. Whatever takes the negation off is
asked about one text, the key without its suffix.

* `Clause.Parts raw stem r` — `raw` is `stem`, the suffix of `r` and the terminator;
* `Clause.Faulty raw fault` — why `raw` is not of its form;
* `Clause.cut_eq_error_iff`, `Clause.cut_eq_ok_iff_parts` — what is cut from a key;
* `Clause.readWith_cases` — what comes of a key that is faulty, and of any other.
-/

namespace KeyNotation

namespace Clause

/-- The suffix is the longest that stands in front of the terminator, and no mark is left at the end
of the stem for a pattern that has room for one. -/
structure Parts (raw stem : Text) (r : Relation) : Prop where
  canonical : r.Canonical
  raw_eq : raw = stem ++ r.suffix ++ ['@']
  longest : Relation.Longest (stem ++ r.suffix) r
  unmarked : r.takesMark = true → ∀ w : Wildcard, ¬ [w.char] <:+ stem

/-- The terminator is missing, a mark stands twice or a question mark alone in front of a `$`, or
the stem uses a sign of logic that is not supported. -/
inductive Faulty : Text → Fault → Prop
  | noTerminator {raw : Text} (h : ¬ ['@'] <:+ raw) : Faulty raw .noTerminator
  | repeatedWildcard (front : Text) (w : Wildcard) :
      Faulty (front ++ [w.char, w.char, '$', '@']) (.repeatedWildcard w)
  | loneQuestion {front : Text} (h : ∀ w : Wildcard, ¬ [w.char] <:+ front) :
      Faulty (front ++ ['?', '$', '@']) .loneQuestion
  | logicSign {raw stem : Text} {r : Relation} (hparts : Parts raw stem r)
      (h : '&' ∈ stem ∨ '|' ∈ stem) : Faulty raw (.logicSign stem)

variable {raw body stem : Text} {r : Relation} {fault : Fault}

/-! ## the suffix -/

/-- A text that ends in `$` is a pattern. -/
theorem exists_like_of_longest (hl : Relation.Longest (stem ++ r.suffix) r)
    (hd : ['$'] <:+ stem ++ r.suffix) : ∃ m, r = .like m := by
  -- the pattern without marks has the `$` for its suffix, so that of `r` is no shorter
  have hlen : 1 ≤ r.suffix.length := hl (.like .empty) trivial hd
  have hdr : ['$'] <:+ r.suffix :=
    List.suffix_of_suffix_length_le hd (List.suffix_append _ _) hlen
  rcases Relation.eq_exact_or_plain_or_like r with rfl | hp | hlike
  · exact absurd hlen (by decide)
  · exact absurd hdr (Relation.not_dollar_suffix_of_plain r hp).2
  · exact hlike

theorem split_eq_ok_iff_parts :
    Relation.split body = .ok (stem, r) ↔ Parts (body ++ ['@']) stem r := by
  constructor
  · intro h
    obtain ⟨hc, hbody, hl⟩ := Relation.canonical_of_split h
    subst hbody
    refine ⟨hc, rfl, hl, fun htakes => ?_⟩
    obtain ⟨m, rfl, hm⟩ := Relation.takesMark_iff.1 htakes
    exact Relation.takeWildcard?_eq_none_iff.1 ((Relation.split_eq_like_iff.1 h).2.2 hm)
  · rintro ⟨hc, hraw, hl, hunmarked⟩
    obtain rfl : body = stem ++ r.suffix := List.append_cancel_right hraw
    by_cases hd : ['$'] <:+ stem ++ r.suffix
    · obtain ⟨m, rfl⟩ := exists_like_of_longest hl hd
      refine Relation.split_eq_like_iff.2 ⟨hc, rfl, fun hm => ?_⟩
      exact Relation.takeWildcard?_eq_none_iff.2 (hunmarked (Relation.takesMark_iff.2 ⟨m, rfl, hm⟩))
    · refine (Relation.split_eq_ok_iff fun fault h => ?_).2 ⟨hc, rfl, hl⟩
      rw [Relation.split_of_not_dollar hd] at h
      cases h

theorem split_of_parts (h : Parts raw stem r) :
    Relation.split (stem ++ r.suffix) = .ok (stem, r) := by
  rwa [split_eq_ok_iff_parts, ← h.raw_eq]

/-- A key has its parts in one way. -/
theorem parts_unique {stem' : Text} {r' : Relation} (h : Parts raw stem r)
    (h' : Parts raw stem' r') : stem' = stem ∧ r' = r := by
  have hbody : stem' ++ r'.suffix = stem ++ r.suffix :=
    List.append_cancel_right (h'.raw_eq.symm.trans h.raw_eq)
  have hsplit := split_of_parts h'
  rw [hbody, split_of_parts h] at hsplit
  cases hsplit
  exact ⟨rfl, rfl⟩

/-! ## cutting a key -/

theorem cut_eq_ok_iff_parts :
    cut raw = .ok (stem, r) ↔ Parts raw stem r ∧ '&' ∉ stem ∧ '|' ∉ stem := by
  rw [cut_eq_ok_iff]
  constructor
  · rintro ⟨body, rfl, hsplit, hlogic⟩
    exact ⟨split_eq_ok_iff_parts.1 hsplit, hlogic⟩
  · rintro ⟨hparts, hlogic⟩
    exact ⟨stem ++ r.suffix, hparts.raw_eq, split_of_parts hparts, hlogic⟩

theorem faulty_of_split (h : Relation.split body = .error fault) :
    Faulty (body ++ ['@']) fault := by
  rcases Relation.split_eq_error_iff.1 h with ⟨w, rfl, front, rfl⟩ | ⟨rfl, front, rfl, hn⟩
  · rw [List.append_assoc]
    exact .repeatedWildcard front w
  · rw [List.append_assoc]
    exact .loneQuestion (Relation.takeWildcard?_eq_none_iff.1 hn)

theorem faulty_of_cut (h : cut raw = .error fault) : Faulty raw fault := by
  by_cases hat : ['@'] <:+ raw
  · obtain ⟨body, rfl⟩ := hat
    cases hsplit : Relation.split body with
    | error fault' =>
      rw [cut_of_split_error hsplit] at h
      cases h
      exact faulty_of_split hsplit
    | ok p =>
      rw [cut_of_split_ok hsplit] at h
      split at h
      · rename_i hlogic
        cases h
        exact .logicSign (split_eq_ok_iff_parts.1 hsplit) hlogic
      · cases h
  · have hnone : ['@'].isSuffixOf? raw = none := isSuffixOf?_eq_none_iff.2 hat
    simp only [cut, hnone] at h
    cases h
    exact .noTerminator hat

theorem cut_of_faulty (h : Faulty raw fault) : cut raw = .error fault := by
  cases h with
  | noTerminator h => simp only [cut, isSuffixOf?_eq_none_iff.2 h]
  | repeatedWildcard front w =>
    have hsplit : Relation.split (front ++ [w.char, w.char, '$']) = .error (.repeatedWildcard w) :=
      Relation.split_eq_error_iff.2 (.inl ⟨w, rfl, front, rfl⟩)
    have hcut := cut_of_split_error hsplit
    rwa [List.append_assoc] at hcut
  | loneQuestion h =>
    rename_i front
    have hsplit : Relation.split (front ++ ['?', '$']) = .error .loneQuestion :=
      Relation.split_eq_error_iff.2
        (.inr ⟨rfl, front, rfl, Relation.takeWildcard?_eq_none_iff.2 h⟩)
    have hcut := cut_of_split_error hsplit
    rwa [List.append_assoc] at hcut
  | logicSign hparts h =>
    rw [hparts.raw_eq, cut_of_split_ok (split_of_parts hparts), if_pos h]

theorem cut_eq_error_iff : cut raw = .error fault ↔ Faulty raw fault :=
  ⟨faulty_of_cut, cut_of_faulty⟩

/-! ## reading a key -/

theorem readWith_eq_malformed_iff {reader : NegationReader} {kind : JoinKind} {table : Text} :
    readWith reader kind table raw = .error (.malformed ⟨kind.symbol, table, raw⟩ fault) ↔
      Faulty raw fault := by
  rw [← cut_eq_error_iff]
  constructor
  · intro h
    cases hcut : cut raw with
    | error fault' =>
      rw [readWith_of_cut_error hcut] at h
      cases h
      rfl
    | ok p =>
      rw [readWith_of_cut hcut] at h
      split at h
      · cases h
      · cases h
  · intro hcut
    exact readWith_of_cut_error hcut reader kind table

theorem readWith_trichotomy (reader : NegationReader) (kind : JoinKind) (table raw : Text) :
    (∃ c, readWith reader kind table raw = .ok c) ∨
      (∃ fault, readWith reader kind table raw =
        .error (.malformed ⟨kind.symbol, table, raw⟩ fault)) ∨
      ∃ name, readWith reader kind table raw = .error (.badName ⟨kind.symbol, table, raw⟩ name) := by
  cases hcut : cut raw with
  | error fault => exact .inr (.inl ⟨fault, readWith_of_cut_error hcut reader kind table⟩)
  | ok p =>
    rw [readWith_of_cut hcut]
    split
    · exact .inl ⟨_, rfl⟩
    · exact .inr (.inr ⟨_, rfl⟩)

/-- A key is faulty or has a stem and a relation, for every join, table and reader alike. The reader
is asked about the stem alone, and its field is checked. -/
theorem readWith_cases (raw : Text) :
    (∀ reader kind table, (∃ c, readWith reader kind table raw = .ok c) ∨
      (∃ fault, readWith reader kind table raw =
        .error (.malformed ⟨kind.symbol, table, raw⟩ fault)) ∨
      ∃ name, readWith reader kind table raw =
        .error (.badName ⟨kind.symbol, table, raw⟩ name)) ∧
    (∀ fault reader kind table, readWith reader kind table raw =
      .error (.malformed ⟨kind.symbol, table, raw⟩ fault) ↔ Faulty raw fault) ∧
    ((∀ fault, ¬ Faulty raw fault) → ∃ stem r,
      (∀ stem' r', Parts raw stem' r' ↔ stem' = stem ∧ r' = r) ∧
      (∀ reader kind table, readWith reader kind table raw =
        if isName (reader stem).key = true then .ok ⟨(reader stem).negated, r, (reader stem).key⟩
        else .error (.badName ⟨kind.symbol, table, raw⟩ (reader stem).key)) ∧
      ∀ reader reader' kind table, reader stem = reader' stem →
        readWith reader kind table raw = readWith reader' kind table raw) := by
  refine ⟨fun reader kind table => readWith_trichotomy reader kind table raw,
    fun fault reader kind table => readWith_eq_malformed_iff, fun hfault => ?_⟩
  cases hcut : cut raw with
  | error fault => exact absurd (cut_eq_error_iff.1 hcut) (hfault fault)
  | ok p =>
    obtain ⟨stem, r⟩ := p
    have hparts : Parts raw stem r := (cut_eq_ok_iff_parts.1 hcut).1
    refine ⟨stem, r, fun stem' r' => ⟨parts_unique hparts, ?_⟩, readWith_of_cut hcut, ?_⟩
    · rintro ⟨rfl, rfl⟩
      exact hparts
    · intro reader reader' kind table heq
      rw [readWith_of_cut hcut, readWith_of_cut hcut, heq]

/-- One sign of negation or several are the same where there is one. -/
theorem readWith_cases_negated :
    let raw : Text := ['!', 'a', '_', '%', '$', '@']
    (∀ fault, ¬ Faulty raw fault) ∧ Parts raw ['!', 'a'] (.like (.pair .underscore .percent)) ∧
      ∀ kind table, readWith (.repeated '!') kind table raw = readWith .bang kind table raw := by
  intro raw
  have hread : readWith .bang .app [] raw =
      .ok ⟨true, .like (.pair .underscore .percent), ['a']⟩ := by decide
  have hfault : ∀ fault, ¬ Faulty raw fault := by
    intro fault hfaulty
    have herror := ((readWith_cases raw).2.1 fault .bang .app []).2 hfaulty
    rw [hread] at herror
    cases herror
  obtain ⟨stem, r, hparts, -, hagree⟩ := (readWith_cases raw).2.2 hfault
  have hcut : Parts raw ['!', 'a'] (.like (.pair .underscore .percent)) :=
    (cut_eq_ok_iff_parts.1 (by decide)).1
  obtain ⟨rfl, rfl⟩ := (hparts _ _).1 hcut
  refine ⟨hfault, hcut, fun kind table => ?_⟩
  exact hagree (.repeated '!') .bang kind table rfl

end Clause

end KeyNotation
