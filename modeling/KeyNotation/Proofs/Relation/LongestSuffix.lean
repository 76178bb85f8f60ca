import KeyNotation.Proofs.Ending
import KeyNotation.Relation

/-!
# The longest suffix

The suffixes of the canonical relations overlap: `>` ends `<>`, `~` ends `*~`, and the `$` of a
pattern ends the same with one or two marks in front. `Relation.split` reads the longest one.

* `Relation.Longest t r` — no canonical relation could end `t` with a longer suffix than `r`;
* `Relation.split_eq_error_iff` — the texts that are refused, and why;
* `Relation.split_eq_ok_iff` — what is read from a text that is not refused;
* `Relation.split_eq_like_iff` — the same for patterns, with the marks told apart from the stem;
* `Relation.split_longest` — a text is refused for its marks, or read with the one longest suffix.
-/

namespace KeyNotation

namespace Relation

/-! ## the canonical relations -/

def canonicals : List Relation :=
  exact :: plain ++ [like .empty, like (.single .percent), like (.single .underscore),
    like (.pair .percent .underscore), like (.pair .percent .question),
    like (.pair .underscore .percent), like (.pair .underscore .question),
    like (.pair .question .percent), like (.pair .question .underscore)]

theorem mem_canonicals {r : Relation} : r ∈ canonicals ↔ r.Canonical := by
  constructor
  · revert r
    decide
  · intro h
    cases r with
    | like m =>
      obtain ⟨_ | v, _ | w⟩ := m
      · decide
      · cases w <;> revert h <;> decide
      · cases h
      · cases v <;> cases w <;> revert h <;> decide
    | regex b => cases b <;> decide
    | _ => decide

theorem eq_of_suffix_eq {r r' : Relation} (h : r.Canonical) (h' : r'.Canonical)
    (hs : r.suffix = r'.suffix) : r = r' := by
  have all : ∀ r ∈ canonicals, ∀ r' ∈ canonicals, r.suffix = r'.suffix → r = r' := by
    decide +kernel
  exact all r (mem_canonicals.2 h) r' (mem_canonicals.2 h') hs

theorem eq_exact_or_plain_or_like (r : Relation) : r = exact ∨ r ∈ plain ∨ ∃ m, r = like m := by
  cases r with
  | like m => exact .inr (.inr ⟨m, rfl⟩)
  | exact => exact .inl rfl
  | regex b => cases b <;> exact .inr (.inl (by decide))
  | _ => exact .inr (.inl (by decide))

theorem canonical_of_plain : ∀ r ∈ plain, r.Canonical := by decide

theorem not_dollar_suffix_of_plain : ∀ r ∈ plain, r.suffix ≠ [] ∧ ¬ ['$'] <:+ r.suffix := by
  decide

theorem dollar_suffix_like (m : Marks) : ['$'] <:+ (like m).suffix := List.suffix_append _ _

/-- None of the plain relations comes after one whose suffix is the end of its own. -/
theorem plain_pairwise : plain.Pairwise fun r r' => ¬ r.suffix <:+ r'.suffix := by decide

/-! ## the marks of a pattern -/

theorem takeWildcard?_eq_some_iff {t stem : Text} {w : Wildcard} :
    takeWildcard? t = some (stem, w) ↔ t = stem ++ [w.char] := by
  unfold takeWildcard?
  constructor
  · intro h
    obtain ⟨c, hc, h⟩ := Option.bind_eq_some_iff.1 h
    obtain ⟨v, hv, h⟩ := Option.bind_eq_some_iff.1 h
    obtain ⟨rfl, rfl⟩ : t.dropLast = stem ∧ v = w := by simpa using h
    rw [← Wildcard.ofChar?_eq_some_iff.1 hv]
    exact (List.dropLast_append_getLast? c hc).symm
  · rintro rfl
    simp [Wildcard.ofChar?_eq_some_iff.2 rfl]

theorem takeWildcard?_append_char (stem : Text) (w : Wildcard) :
    takeWildcard? (stem ++ [w.char]) = some (stem, w) :=
  takeWildcard?_eq_some_iff.2 rfl

theorem takeWildcard?_append_pair (stem : Text) (v w : Wildcard) :
    takeWildcard? (stem ++ [v.char, w.char]) = some (stem ++ [v.char], w) := by
  rw [takeWildcard?_eq_some_iff, List.append_assoc]
  rfl

theorem takeWildcard?_eq_none_iff {t : Text} :
    takeWildcard? t = none ↔ ∀ w : Wildcard, ¬ [w.char] <:+ t := by
  rw [Option.eq_none_iff_forall_ne_some]
  constructor
  · rintro h w ⟨stem, rfl⟩
    exact h (stem, w) (takeWildcard?_append_char stem w)
  · rintro h ⟨stem, w⟩ ht
    exact h w ⟨stem, (takeWildcard?_eq_some_iff.1 ht).symm⟩

/-- The marks are read as far as they go, but for a third one. -/
theorem splitMarks_eq_ok_iff {t stem : Text} {m : Marks} :
    splitMarks t = .ok (stem, m) ↔
      m.Canonical ∧ t = stem ++ m.render ∧ (m.leading = none → takeWildcard? stem = none) := by
  constructor
  · intro h
    unfold splitMarks at h
    split at h
    · rename_i hn
      cases h
      exact ⟨trivial, (List.append_nil _).symm, fun _ => hn⟩
    · rename_i hl
      rw [takeWildcard?_eq_some_iff] at hl
      split at h
      · rename_i hp
        rw [takeWildcard?_eq_some_iff] at hp
        split at h
        · cases h
        · rename_i hne
          cases h
          refine ⟨hne, ?_, nofun⟩
          rw [hl, hp, List.append_assoc]
          rfl
      · rename_i hn
        split at h
        · cases h
        · rename_i hq
          cases h
          exact ⟨hq, hl, fun _ => hn⟩
  · rintro ⟨hm, rfl, hs⟩
    obtain ⟨_ | v, _ | w⟩ := m
    · simp [splitMarks, Marks.render, hs rfl, Marks.empty]
    · have hw : w ≠ .question := hm
      simp [splitMarks, Marks.render, takeWildcard?_append_char, hs rfl, hw, Marks.single]
    · cases hm
    · have hvw : v ≠ w := hm
      simp [splitMarks, Marks.render, takeWildcard?_append_pair, takeWildcard?_append_char, hvw,
        Marks.pair]

theorem splitMarks_eq_error_iff {t : Text} {fault : Fault} :
    splitMarks t = .error fault ↔
      (∃ w, fault = .repeatedWildcard w ∧ [w.char, w.char] <:+ t) ∨
        (fault = .loneQuestion ∧ ∃ stem, t = stem ++ ['?'] ∧ takeWildcard? stem = none) := by
  constructor
  · intro h
    unfold splitMarks at h
    split at h
    · cases h
    · rename_i stem last hl
      rw [takeWildcard?_eq_some_iff] at hl
      split at h
      · rename_i stem' previous hp
        rw [takeWildcard?_eq_some_iff] at hp
        split at h
        · rename_i he
          cases h
          refine .inl ⟨last, rfl, stem', ?_⟩
          rw [hl, hp, he, List.append_assoc]
          rfl
        · cases h
      · rename_i hn
        split at h
        · rename_i hq
          cases h
          exact .inr ⟨rfl, stem, by rw [hl, hq]; rfl, hn⟩
        · cases h
  · rintro (⟨w, rfl, stem, rfl⟩ | ⟨rfl, stem, rfl, hn⟩)
    · simp [splitMarks, takeWildcard?_append_pair, takeWildcard?_append_char]
    · have hl : takeWildcard? (stem ++ ['?']) = some (stem, .question) :=
        takeWildcard?_append_char stem .question
      simp [splitMarks, hl, hn]

theorem length_render_le_of_suffix {stem : Text} {m m' : Marks} (hm : m.Canonical)
    (hs : m.leading = none → takeWildcard? stem = none) (h : m'.render <:+ stem ++ m.render) :
    m'.render.length ≤ m.render.length := by
  by_contra hlt
  have hn : takeWildcard? stem = none := by
    obtain ⟨_ | v, _ | w⟩ := m
    · exact hs rfl
    · exact hs rfl
    · cases hm
    · obtain ⟨_ | v', _ | w'⟩ := m' <;> simp [Marks.render] at hlt
  obtain ⟨c, hc, hcs⟩ := exists_mem_of_suffix_append h (by omega)
  obtain ⟨w, -, rfl⟩ := List.mem_map.1 hc
  exact takeWildcard?_eq_none_iff.1 hn w hcs

/-! ## the suffix of a text -/

/-- No canonical relation could end `t` with a suffix longer than that of `r`. -/
def Longest (t : Text) (r : Relation) : Prop :=
  ∀ r' : Relation, r'.Canonical → r'.suffix <:+ t → r'.suffix.length ≤ r.suffix.length

theorem longest_like {t stem : Text} {m : Marks} (hm : m.Canonical)
    (hs : m.leading = none → takeWildcard? stem = none) (ht : t = stem ++ (like m).suffix) :
    Longest t (like m) := by
  intro r' _ hf
  rcases eq_exact_or_plain_or_like r' with rfl | hp | ⟨m', rfl⟩
  · exact Nat.zero_le _
  · obtain ⟨hne, hd⟩ := not_dollar_suffix_of_plain r' hp
    have hdt : ['$'] <:+ t := by
      rw [ht]
      exact (dollar_suffix_like m).trans (List.suffix_append _ _)
    exact absurd (List.suffix_of_suffix_length_le hdt hf (List.length_pos_iff.2 hne)) hd
  · rw [ht, suffix, suffix, ← List.append_assoc, List.suffix_append_self_iff] at hf
    have := length_render_le_of_suffix hm hs hf
    simpa [suffix] using this

theorem longest_of_not_dollar {t : Text} {r : Relation} (hd : ¬ ['$'] <:+ t)
    (h : ∀ r' ∈ plain, r'.suffix <:+ t → r'.suffix.length ≤ r.suffix.length) : Longest t r := by
  intro r' _ hf
  rcases eq_exact_or_plain_or_like r' with rfl | hp | ⟨m', rfl⟩
  · exact Nat.zero_le _
  · exact h r' hp hf
  · exact absurd ((dollar_suffix_like m').trans hf) hd

theorem length_suffix_le_of_findSome? {t stem : Text} {r : Relation}
    (h : plain.findSome? (fun r => (r.suffix.isSuffixOf? t).map (·, r)) = some (stem, r)) :
    r ∈ plain ∧ t = stem ++ r.suffix ∧
      ∀ r' ∈ plain, r'.suffix <:+ t → r'.suffix.length ≤ r.suffix.length := by
  obtain ⟨l₁, a, l₂, hl, ha, hb⟩ := List.findSome?_eq_some_iff.1 h
  obtain ⟨stem', hs, he⟩ := Option.map_eq_some_iff.1 ha
  cases he
  have ht : stem ++ r.suffix = t := List.isSuffixOf?_eq_some_iff_append_eq.1 hs
  refine ⟨by simp [hl], ht.symm, fun r' hr' hf => ?_⟩
  rw [hl, List.mem_append, List.mem_cons] at hr'
  rcases hr' with h₁ | rfl | h₂
  · -- a relation that was tried before does not fit
    have hn := hb r' h₁
    rw [Option.map_eq_none_iff, isSuffixOf?_eq_none_iff] at hn
    exact absurd hf hn
  · exact le_rfl
  · have hp := plain_pairwise
    rw [hl, List.pairwise_append, List.pairwise_cons] at hp
    have hn := hp.2.1.1 r' h₂
    by_contra hlt
    exact hn (List.suffix_of_suffix_length_le ⟨stem, ht⟩ hf (by omega))

theorem split_append_dollar (body : Text) :
    split (body ++ ['$']) = (splitMarks body).map fun p => (p.1, like p.2) := by
  have hb : ['$'].isSuffixOf? (body ++ ['$']) = some body :=
    List.isSuffixOf?_eq_some_iff_append_eq.2 rfl
  simp only [split, hb]
  cases splitMarks body <;> rfl

theorem split_append_dollar_eq_ok_iff {body stem : Text} {r : Relation} :
    split (body ++ ['$']) = .ok (stem, r) ↔
      ∃ m, r = like m ∧ splitMarks body = .ok (stem, m) := by
  rw [split_append_dollar]
  cases splitMarks body with
  | error fault => simp [Except.map]
  | ok p =>
    simp only [Except.map, Except.ok.injEq, Prod.ext_iff]
    constructor
    · rintro ⟨hstem, hr⟩
      exact ⟨p.2, hr.symm, hstem, rfl⟩
    · rintro ⟨m, rfl, hstem, hm⟩
      exact ⟨hstem, by rw [hm]⟩

theorem split_append_dollar_eq_error_iff {body : Text} {fault : Fault} :
    split (body ++ ['$']) = .error fault ↔ splitMarks body = .error fault := by
  rw [split_append_dollar]
  cases splitMarks body <;> simp [Except.map]

theorem split_of_not_dollar {t : Text} (hd : ¬ ['$'] <:+ t) :
    split t =
      .ok ((plain.findSome? fun r => (r.suffix.isSuffixOf? t).map (·, r)).getD (t, exact)) := by
  simp only [split, isSuffixOf?_eq_none_iff.2 hd]

theorem canonical_of_split {t stem : Text} {r : Relation} (h : split t = .ok (stem, r)) :
    r.Canonical ∧ t = stem ++ r.suffix ∧ Longest t r := by
  by_cases hd : ['$'] <:+ t
  · obtain ⟨body, rfl⟩ := hd
    obtain ⟨m, rfl, hm⟩ := split_append_dollar_eq_ok_iff.1 h
    obtain ⟨hc, hb, hs⟩ := splitMarks_eq_ok_iff.1 hm
    have ht : body ++ ['$'] = stem ++ (like m).suffix := by
      rw [hb, List.append_assoc]
      rfl
    exact ⟨hc, ht, longest_like hc hs ht⟩
  · rw [split_of_not_dollar hd] at h
    cases hf : plain.findSome? fun r => (r.suffix.isSuffixOf? t).map (·, r) with
    | some p =>
      rw [hf] at h
      cases h
      obtain ⟨hp, ht, hl⟩ := length_suffix_le_of_findSome? hf
      exact ⟨canonical_of_plain r hp, ht, longest_of_not_dollar hd hl⟩
    | none =>
      rw [hf] at h
      cases h
      refine ⟨trivial, (List.append_nil _).symm, longest_of_not_dollar hd fun r' hr' hs => ?_⟩
      have hn := List.findSome?_eq_none_iff.1 hf r' hr'
      rw [Option.map_eq_none_iff, isSuffixOf?_eq_none_iff] at hn
      exact absurd hs hn

theorem split_eq_error_iff {t : Text} {fault : Fault} :
    split t = .error fault ↔
      (∃ w, fault = .repeatedWildcard w ∧ [w.char, w.char, '$'] <:+ t) ∨
        (fault = .loneQuestion ∧ ∃ stem, t = stem ++ ['?', '$'] ∧ takeWildcard? stem = none) := by
  constructor
  · intro h
    by_cases hd : ['$'] <:+ t
    · obtain ⟨body, rfl⟩ := hd
      rcases splitMarks_eq_error_iff.1 (split_append_dollar_eq_error_iff.1 h) with
        ⟨w, hw, stem, rfl⟩ | ⟨hq, stem, rfl, hn⟩
      · exact .inl ⟨w, hw, stem, by simp⟩
      · exact .inr ⟨hq, stem, by simp, hn⟩
    · rw [split_of_not_dollar hd] at h
      cases h
  · rintro (⟨w, hw, stem, rfl⟩ | ⟨hq, stem, rfl, hn⟩)
    · rw [show stem ++ [w.char, w.char, '$'] = stem ++ [w.char, w.char] ++ ['$'] by simp,
        split_append_dollar_eq_error_iff]
      exact splitMarks_eq_error_iff.2 (.inl ⟨w, hw, stem, rfl⟩)
    · rw [show stem ++ ['?', '$'] = stem ++ ['?'] ++ ['$'] by simp,
        split_append_dollar_eq_error_iff]
      exact splitMarks_eq_error_iff.2 (.inr ⟨hq, stem, rfl, hn⟩)

theorem split_eq_ok_iff {t stem : Text} {r : Relation} (h : ∀ fault, split t ≠ .error fault) :
    split t = .ok (stem, r) ↔ r.Canonical ∧ t = stem ++ r.suffix ∧ Longest t r := by
  refine ⟨canonical_of_split, ?_⟩
  rintro ⟨hc, ht, hl⟩
  cases hs : split t with
  | error fault => exact absurd hs (h fault)
  | ok p =>
    obtain ⟨stem', r'⟩ := p
    obtain ⟨hc', ht', hl'⟩ := canonical_of_split hs
    have hlen := Nat.le_antisymm (hl r' hc' ⟨stem', ht'.symm⟩) (hl' r hc ⟨stem, ht.symm⟩)
    obtain ⟨rfl, hr⟩ := List.append_inj' (ht'.symm.trans ht) hlen
    rw [eq_of_suffix_eq hc' hc hr]

theorem split_eq_like_iff {t stem : Text} {m : Marks} :
    split t = .ok (stem, like m) ↔
      m.Canonical ∧ t = stem ++ (like m).suffix ∧
        (m.leading = none → takeWildcard? stem = none) := by
  have marks (body : Text) :
      split (body ++ ['$']) = .ok (stem, like m) ↔ splitMarks body = .ok (stem, m) := by
    simp [split_append_dollar_eq_ok_iff]
  constructor
  · intro h
    obtain ⟨hm, ht, -⟩ := canonical_of_split h
    rw [ht, suffix, ← List.append_assoc, marks, splitMarks_eq_ok_iff] at h
    exact ⟨hm, ht, h.2.2⟩
  · rintro ⟨hm, rfl, hs⟩
    rw [suffix, ← List.append_assoc, marks, splitMarks_eq_ok_iff]
    exact ⟨hm, rfl, hs⟩

/-! ## the longest of the suffixes -/

/-- In front of the `$`, a mark stands twice, or a question mark without another mark. -/
def Mismarked (t : Text) : Prop :=
  (∃ w : Wildcard, [w.char, w.char, '$'] <:+ t) ∨
    ∃ stem, t = stem ++ ['?', '$'] ∧ ∀ w : Wildcard, ¬ [w.char] <:+ stem

theorem exists_split_eq_error_iff {t : Text} :
    (∃ fault, split t = .error fault) ↔ Mismarked t := by
  constructor
  · rintro ⟨fault, h⟩
    rcases split_eq_error_iff.1 h with ⟨w, -, hw⟩ | ⟨-, stem, ht, hn⟩
    · exact .inl ⟨w, hw⟩
    · exact .inr ⟨stem, ht, takeWildcard?_eq_none_iff.1 hn⟩
  · rintro (⟨w, hw⟩ | ⟨stem, ht, hn⟩)
    · exact ⟨.repeatedWildcard w, split_eq_error_iff.2 (.inl ⟨w, rfl, hw⟩)⟩
    · have hnone : takeWildcard? stem = none := takeWildcard?_eq_none_iff.2 hn
      exact ⟨.loneQuestion, split_eq_error_iff.2 (.inr ⟨rfl, stem, ht, hnone⟩)⟩

/-- No two canonical relations end a text with suffixes of one length. -/
theorem eq_of_length_suffix_eq {t : Text} {r r' : Relation} (hr : r.Canonical) (hr' : r'.Canonical)
    (h : r.suffix <:+ t) (h' : r'.suffix <:+ t) (hlen : r'.suffix.length = r.suffix.length) :
    r' = r := by
  have hs : r'.suffix <:+ r.suffix := List.suffix_of_suffix_length_le h' h hlen.le
  exact eq_of_suffix_eq hr' hr (hs.eq_of_length hlen)

/-- A text whose marks are in order is read with the one longest suffix that a canonical relation
can end it with. -/
theorem split_longest (t : Text) :
    ((∃ fault, split t = .error fault) ↔ Mismarked t) ∧
    (¬ Mismarked t → ∃ stem r, split t = .ok (stem, r) ∧ r.Canonical ∧ t = stem ++ r.suffix ∧
      ∀ r' : Relation, r'.Canonical → r'.suffix <:+ t →
        r'.suffix.length ≤ r.suffix.length ∧
          (r'.suffix.length = r.suffix.length → r' = r)) := by
  refine ⟨exists_split_eq_error_iff, fun hmarks => ?_⟩
  cases hs : split t with
  | error fault => exact absurd (exists_split_eq_error_iff.1 ⟨fault, hs⟩) hmarks
  | ok p =>
    obtain ⟨stem, r⟩ := p
    obtain ⟨hc, ht, hl⟩ := canonical_of_split hs
    refine ⟨stem, r, rfl, hc, ht, fun r' hc' hf => ⟨hl r' hc' hf, ?_⟩⟩
    exact eq_of_length_suffix_eq hc hc' ⟨stem, ht.symm⟩ hf

/-- Besides the two marks that are read, the suffixes with one mark and with none end the text. -/
theorem split_longest_pair :
    let t : Text := ['a', '?', '_', '$']
    let r : Relation := like (.pair .question .underscore)
    ¬ Mismarked t ∧ split t = .ok (['a'], r) ∧
      ∀ r' : Relation, r'.Canonical → r'.suffix <:+ t →
        r'.suffix.length ≤ 3 ∧ (r'.suffix.length = 3 → r' = r) := by
  intro t r
  have hsplit : split t = .ok (['a'], r) := by decide
  have hmarks : ¬ Mismarked t := by
    rw [← (split_longest t).1]
    rintro ⟨fault, hfault⟩
    rw [hsplit] at hfault
    cases hfault
  obtain ⟨stem, r₁, hs, -, -, hl⟩ := (split_longest t).2 hmarks
  rw [hsplit] at hs
  cases hs
  exact ⟨hmarks, hsplit, hl⟩

end Relation

end KeyNotation
