import KeyNotation.Clause
import KeyNotation.Proofs.Relation.LongestSuffix

/-!
# Clauses written and read

`Clause.read` accepts the keys that `Clause.render` writes for well-formed clauses, and no others.
The field ends where the longest suffix begins, so all that has to be kept apart is an underscore
at the end of the field from a mark of a pattern.

* `Relation.split_append_suffix`, `Relation.not_underscore_of_split` — a suffix is read back behind
  a stem that ends like a name, but for an underscore in front of a pattern with room for a mark;
* `Clause.cut_eq_ok_iff`, `Clause.readWith_eq_ok_iff` — the parts of a key that is read;
* `Clause.wellFormed_of_read`, `Clause.read_render` — the two directions;
* `Clause.read_eq_ok_iff` — reading and writing undo each other.
-/

namespace KeyNotation

/-! ## suffixes behind a name -/

namespace Relation

theorem isNameChar_suffix_of_plain :
    ∀ r ∈ plain, ∀ c ∈ r.suffix, isNameChar c = false := by
  have h : plain.all (fun r => r.suffix.all fun c => !isNameChar c) = true := by decide
  simpa using h

theorem eq_underscore_of_isNameChar {w : Wildcard} (h : isNameChar w.char = true) :
    w = .underscore := by
  cases w with
  | underscore => rfl
  | percent => exact absurd h (by decide)
  | question => exact absurd h (by decide)

theorem takesMark_iff {r : Relation} :
    r.takesMark = true ↔ ∃ m : Marks, r = like m ∧ m.leading = none := by
  constructor
  · intro h
    cases r with
    | like m =>
      obtain ⟨_ | v, w⟩ := m
      · exact ⟨_, rfl, rfl⟩
      · cases h
    | _ => cases h
  · rintro ⟨⟨_ | v, w⟩, rfl, hl⟩
    · rfl
    · cases hl

theorem split_append_plain {stem : Text} {r : Relation} (hr : r ∈ exact :: plain)
    (hs : ∀ c, [c] <:+ stem → isNameChar c = true) :
    split (stem ++ r.suffix) = .ok (stem, r) := by
  have hd : ¬ ['$'] <:+ stem ++ r.suffix := by
    intro hd
    rcases Nat.lt_or_ge r.suffix.length 1 with hlt | hge
    · obtain ⟨c, hc, hcs⟩ := exists_mem_of_suffix_append hd hlt
      rw [List.mem_singleton] at hc
      rw [hc] at hcs
      exact absurd (hs '$' hcs) (by decide)
    · have hdr := List.suffix_of_suffix_length_le hd (List.suffix_append stem r.suffix) hge
      rcases List.mem_cons.1 hr with rfl | hp
      · exact absurd hge (by decide)
      · exact (not_dollar_suffix_of_plain r hp).2 hdr
  have hc : r.Canonical := by
    rcases List.mem_cons.1 hr with rfl | hp
    · trivial
    · exact canonical_of_plain r hp
  have hn : ∀ fault, split (stem ++ r.suffix) ≠ .error fault := by
    intro fault h
    rw [split_of_not_dollar hd] at h
    cases h
  refine (split_eq_ok_iff hn).2 ⟨hc, rfl, longest_of_not_dollar hd fun r' hp' hf => ?_⟩
  by_contra hlt
  obtain ⟨c, hcr, hcs⟩ := exists_mem_of_suffix_append hf (by omega)
  have := hs c hcs
  rw [isNameChar_suffix_of_plain r' hp' c hcr] at this
  cases this

theorem split_append_suffix {stem : Text} {r : Relation} (hc : r.Canonical)
    (hs : ∀ c, [c] <:+ stem → isNameChar c = true)
    (hm : r.takesMark = true → ¬ ['_'] <:+ stem) : split (stem ++ r.suffix) = .ok (stem, r) := by
  rcases eq_exact_or_plain_or_like r with rfl | hp | ⟨m, rfl⟩
  · exact split_append_plain (List.mem_cons_self ..) hs
  · exact split_append_plain (List.mem_cons_of_mem _ hp) hs
  · refine split_eq_like_iff.2 ⟨hc, rfl, fun hl => takeWildcard?_eq_none_iff.2 ?_⟩
    intro w hw
    obtain rfl := eq_underscore_of_isNameChar (hs w.char hw)
    exact hm (takesMark_iff.2 ⟨m, rfl, hl⟩) hw

/-- An underscore at the end of the stem would have been read as a mark. -/
theorem not_underscore_of_split {t stem : Text} {r : Relation} (h : split t = .ok (stem, r))
    (hm : r.takesMark = true) : ¬ ['_'] <:+ stem := by
  obtain ⟨m, rfl, hl⟩ := takesMark_iff.1 hm
  have hn := (split_eq_like_iff.1 h).2.2 hl
  exact takeWildcard?_eq_none_iff.1 hn .underscore

end Relation

/-! ## negation -/

theorem NegationReader.append_bang (t : Text) :
    (if (NegationReader.bang t).negated then ['!'] else []) ++ (NegationReader.bang t).key = t := by
  unfold NegationReader.bang
  split <;> rfl

theorem NegationReader.bang_append {key : Text} (hk : isName key = true) (negated : Bool) :
    NegationReader.bang ((if negated then ['!'] else []) ++ key) = ⟨negated, key⟩ := by
  cases negated with
  | true => rfl
  | false =>
    obtain ⟨c, t, rfl⟩ := List.exists_cons_of_ne_nil (ne_nil_of_isName hk)
    have hc : c ≠ '!' := by
      rintro rfl
      exact absurd hk (by simp [isName, isNameStart])
    simp [NegationReader.bang, hc]

namespace Clause

/-! ## reading -/

variable {raw body stem table : Text} {r : Relation} {fault : Fault}

theorem cut_of_split_error (h : Relation.split body = .error fault) :
    cut (body ++ ['@']) = .error fault := by
  have hb : ['@'].isSuffixOf? (body ++ ['@']) = some body :=
    List.isSuffixOf?_eq_some_iff_append_eq.2 rfl
  simp only [cut, hb, h]

theorem cut_of_split_ok (h : Relation.split body = .ok (stem, r)) :
    cut (body ++ ['@']) =
      if '&' ∈ stem ∨ '|' ∈ stem then .error (.logicSign stem) else .ok (stem, r) := by
  have hb : ['@'].isSuffixOf? (body ++ ['@']) = some body :=
    List.isSuffixOf?_eq_some_iff_append_eq.2 rfl
  simp only [cut, hb, h]

theorem cut_eq_ok_iff :
    cut raw = .ok (stem, r) ↔
      ∃ body, raw = body ++ ['@'] ∧ Relation.split body = .ok (stem, r) ∧
        '&' ∉ stem ∧ '|' ∉ stem := by
  constructor
  · intro h
    cases hb : ['@'].isSuffixOf? raw with
    | none =>
      simp only [cut, hb] at h
      cases h
    | some body =>
      obtain rfl := List.isSuffixOf?_eq_some_iff_append_eq.1 hb
      cases hs : Relation.split body with
      | error fault =>
        rw [cut_of_split_error hs] at h
        cases h
      | ok p =>
        rw [cut_of_split_ok hs] at h
        split at h
        · cases h
        · rename_i hlogic
          cases h
          exact ⟨body, rfl, hs, not_or.1 hlogic⟩
  · rintro ⟨body, rfl, hs, hlogic⟩
    rw [cut_of_split_ok hs, if_neg (not_or.2 hlogic)]

theorem readWith_of_cut (hcut : cut raw = .ok (stem, r)) (reader : NegationReader) (kind : JoinKind)
    (table : Text) :
    readWith reader kind table raw =
      if isName (reader stem).key = true then .ok ⟨(reader stem).negated, r, (reader stem).key⟩
      else .error (.badName ⟨kind.symbol, table, raw⟩ (reader stem).key) := by
  simp only [readWith, hcut]

theorem readWith_of_cut_error (hcut : cut raw = .error fault) (reader : NegationReader)
    (kind : JoinKind) (table : Text) :
    readWith reader kind table raw = .error (.malformed ⟨kind.symbol, table, raw⟩ fault) := by
  simp only [readWith, hcut]

theorem readWith_eq_ok_iff {reader : NegationReader} {kind : JoinKind} {c : Clause} :
    readWith reader kind table raw = .ok c ↔
      ∃ stem, cut raw = .ok (stem, c.relation) ∧ reader stem = ⟨c.negated, c.key⟩ ∧
        isName c.key = true := by
  constructor
  · intro h
    cases hcut : cut raw with
    | error fault =>
      rw [readWith_of_cut_error hcut] at h
      cases h
    | ok p =>
      obtain ⟨stem, r⟩ := p
      rw [readWith_of_cut hcut] at h
      split at h
      · rename_i hname
        cases h
        exact ⟨stem, rfl, rfl, hname⟩
      · cases h
  · rintro ⟨stem, hcut, hreader, hname⟩
    rw [readWith_of_cut hcut, hreader]
    exact if_pos hname

theorem wellFormed_of_read {kind : JoinKind} {table raw : Text} {c : Clause}
    (h : read kind table raw = .ok c) : c.WellFormed ∧ raw = c.render := by
  obtain ⟨stem, hcut, hbang, hname⟩ := readWith_eq_ok_iff.1 h
  obtain ⟨body, rfl, hsplit, -, -⟩ := cut_eq_ok_iff.1 hcut
  obtain ⟨hc, hbody, -⟩ := Relation.canonical_of_split hsplit
  have hstem : (if c.negated then ['!'] else []) ++ c.key = stem := by
    have := NegationReader.append_bang stem
    rwa [hbang] at this
  refine ⟨⟨hname, hc, fun htakes hlast => ?_⟩, ?_⟩
  · have hmark : ['_'] <:+ stem := by
      rw [← hstem]
      exact (List.singleton_suffix_iff_getLast?_eq_some.2 hlast).trans (List.suffix_append _ _)
    exact Relation.not_underscore_of_split hsplit htakes hmark
  · rw [hbody, ← hstem]
    rfl

theorem read_render {c : Clause} (h : c.WellFormed) (kind : JoinKind) (table : Text) :
    read kind table c.render = .ok c := by
  obtain ⟨hname, hc, htakes⟩ := h
  have hne := ne_nil_of_isName hname
  have hchars := forall_of_isName hname
  have hlast (x : Char) (hx : [x] <:+ (if c.negated then ['!'] else []) ++ c.key) :
      c.key.getLast? = some x := by
    rw [List.singleton_suffix_iff_getLast?_eq_some] at hx
    rwa [List.getLast?_append_of_ne_nil _ hne] at hx
  refine readWith_eq_ok_iff.2 ⟨(if c.negated then ['!'] else []) ++ c.key, ?_,
    NegationReader.bang_append hname c.negated, hname⟩
  have hlogic (x : Char) (hx : isNameChar x = false) (hbang : x ≠ '!') :
      x ∉ (if c.negated then ['!'] else []) ++ c.key := by
    intro hmem
    rcases List.mem_append.1 hmem with h | h
    · cases hn : c.negated <;> simp [hn] at h
      exact hbang h
    · exact not_mem_of_isName hname hx h
  refine cut_eq_ok_iff.2 ⟨_, rfl, ?_, hlogic '&' (by decide) (by decide),
    hlogic '|' (by decide) (by decide)⟩
  refine Relation.split_append_suffix hc (fun x hx => ?_) fun ht hx => htakes ht (hlast '_' hx)
  exact hchars x (List.mem_of_getLast? (hlast x hx))

/-- A key is read as `c` if and only if `c` is well formed and the key is what `c` is written as.
So every well-formed clause has one key, and no two keys have one clause. -/
theorem read_eq_ok_iff {kind : JoinKind} {table raw : Text} {c : Clause} :
    read kind table raw = .ok c ↔ c.WellFormed ∧ raw = c.render := by
  constructor
  · exact wellFormed_of_read
  · rintro ⟨h, rfl⟩
    exact read_render h kind table

example : read .app [] ['!', 'a', '_', '$', '@'] =
    .ok ⟨true, .like (.single .underscore), ['a']⟩ := by decide

end Clause

end KeyNotation
