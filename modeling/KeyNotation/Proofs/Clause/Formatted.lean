import KeyNotation.Proofs.Clause.RoundTrip
import KeyNotation.Proofs.KeyFormat.Capitals
import KeyNotation.Proofs.KeyPolicy.Agreement

/-!
# Formatted reference keys

A reference key goes through the formats like any other key, and two of the dividers mean something
in it: the `$` of a pattern, and the underscore as one of its marks. Where a clause does without
them, its formatted key still says the same of the formatted field.

* `Clause.Survives g c` — reading `c` does not rest on a sign that `g` takes out;
* `Clause.agreeOn_render` — all that `g` can take out of the key of such a clause are underscores;
* `Clause.joined c` — `c` without the underscores of its field;
* `Clause.scalarKey_render`, `Clause.wellFormed_joined` — the formatted key of `c` is a key of
  `c.joined`, and is read as that;
* `Clause.read_scalarKey` — what is read from a formatted reference key.
-/

namespace KeyNotation

/-! ## one divider taken out of an ASCII key -/

theorem Toggles.signs_set_off (d : Divider) : (Toggles.off.set d true).signs = [d.sign] := by
  cases d <;> rfl

theorem scalarKey_set_of_mem {d : Divider} {key : Text} (hat : key.head? ≠ some '@')
    (hd : d.sign ∈ key) :
    scalarKey (Toggles.off.set d true) key = recaseLike key (capitalWords [d.sign] key) := by
  have hstem : (plainFormat (Toggles.off.set d true)).stem key = key := withoutAt_of_head hat
  have hname : stripDividers [d.sign] key = capitalWords [d.sign] key := if_pos hd
  have hany : [d.sign].any (· ∈ key) = true := by simpa using hd
  have hsigns : (plainFormat (Toggles.off.set d true)).dividers.signs = [d.sign] :=
    Toggles.signs_set_off d
  rw [scalarKey, KeyFormat.format, hstem, hsigns, hname]
  exact if_pos hany

section

variable {d : Divider} {x : Char} {t : Text}

theorem scalarKey_set_cons (hascii : IsAscii (x :: t)) (hat : x ≠ '@') (hd : d.sign ∈ x :: t) :
    scalarKey (Toggles.off.set d true) (x :: t) =
      if x = d.sign then capitals d.sign true t else x :: capitals d.sign false t := by
  have hhead : (x :: t).head? ≠ some '@' := fun h => hat (Option.some.inj h)
  rw [scalarKey_set_of_mem hhead hd, capitalWords_eq_capitals d.sign hascii]
  exact recaseLike_capitals (isAscii_cons.1 hascii).1 d.isSign_sign t

theorem scalarKey_set_append_signs (hascii : IsAscii (x :: t)) (hat : x ≠ '@')
    (hd : d.sign ∈ x :: t) {b : Text} (hsign : ∀ y ∈ b, isSign y = true) (hb : d.sign ∉ b) :
    scalarKey (Toggles.off.set d true) (x :: (t ++ b)) =
      scalarKey (Toggles.off.set d true) (x :: t) ++ b := by
  have hbascii : IsAscii b := fun y hy => ascii_of_isSign (hsign y hy)
  have hall : IsAscii (x :: (t ++ b)) := isAscii_append.2 ⟨hascii, hbascii⟩
  rw [scalarKey_set_cons hall hat (List.mem_append_left b hd), scalarKey_set_cons hascii hat hd,
    capitals_append_signs hsign hb, capitals_append_signs hsign hb]
  split
  · rfl
  · rfl

theorem map_toLower_scalarKey_set (hascii : IsAscii (x :: t)) (hat : x ≠ '@')
    (hd : d.sign ∈ x :: t) :
    (scalarKey (Toggles.off.set d true) (x :: t)).map Char.toLower =
      ((x :: t).filter (· ≠ d.sign)).map Char.toLower := by
  rw [scalarKey_set_cons hascii hat hd]
  by_cases hx : x = d.sign
  · rw [if_pos hx, List.filter_cons_of_neg (by simpa using hx), map_toLower_capitals]
  · rw [if_neg hx, List.filter_cons_of_pos (by simpa using hx), List.map_cons, List.map_cons,
      map_toLower_capitals]

end

/-! ## names -/

theorem isName_map_toLower (t : Text) : isName (t.map Char.toLower) = isName t := by
  have hstart (c : Char) : isNameStart c.toLower = isNameStart c :=
    LetterCase.apply_letter (fun c hc => by simp [isNameStart, hc]) .lower c
  have hchar (c : Char) : isNameChar c.toLower = isNameChar c :=
    LetterCase.apply_letter (fun c hc => by simp [isNameChar, Char.isAlphanum, hc]) .lower c
  cases t with
  | nil => rfl
  | cons c t => simp [isName, hstart, hchar, Function.comp_def]

theorem exists_cons_of_isName {t : Text} (h : isName t = true) :
    ∃ x u, t = x :: u ∧ x ≠ '@' ∧ IsAscii (x :: u) := by
  obtain ⟨x, u, rfl⟩ := List.exists_cons_of_ne_nil (ne_nil_of_isName h)
  refine ⟨x, u, rfl, ?_, fun y hy => ascii_of_isNameChar (forall_of_isName h y hy)⟩
  rintro rfl
  exact absurd (forall_of_isName h '@' (List.mem_cons_self ..)) (by decide)

namespace Relation

variable {r : Relation} {x : Char}

theorem isSign_of_mem_suffix (hc : r.Canonical) (h : x ∈ r.suffix) :
    isSign x = true ∧ x ≠ '-' := by
  have all : canonicals.all (fun r => r.suffix.all fun x => isSign x && x != '-') = true := by
    decide
  simp only [List.all_eq_true, Bool.and_eq_true, bne_iff_ne] at all
  exact all r (mem_canonicals.2 hc) x h

theorem exists_like_of_dollar (h : '$' ∈ r.suffix) : ∃ m, r = like m := by
  have hplain : ∀ r ∈ plain, '$' ∉ r.suffix := by decide
  rcases eq_exact_or_plain_or_like r with rfl | hp | hlike
  · exact absurd h List.not_mem_nil
  · exact absurd h (hplain r hp)
  · exact hlike

theorem exists_mark_of_underscore (h : '_' ∈ r.suffix) :
    ∃ m : Marks, r = like m ∧
      (m.leading = some .underscore ∨ m.trailing = some .underscore) := by
  rcases eq_exact_or_plain_or_like r with rfl | hp | ⟨m, rfl⟩
  · exact absurd h List.not_mem_nil
  · exact absurd (isNameChar_suffix_of_plain r hp '_' h) (by decide)
  · refine ⟨m, rfl, ?_⟩
    rcases List.mem_append.1 h with hmark | hdollar
    · obtain ⟨w, hw, hchar⟩ := List.mem_map.1 hmark
      have hunder : w = .underscore := eq_underscore_of_isNameChar (by rw [hchar]; decide)
      subst hunder
      rcases List.mem_append.1 hw with hl | ht
      · exact .inl (Option.mem_toList.1 hl)
      · exact .inr (Option.mem_toList.1 ht)
    · exact absurd hdollar (by decide)

end Relation

namespace Clause

variable {g : Toggles} {c : Clause}

/-! ## what the key of a clause holds -/

theorem render_true (r : Relation) (key : Text) :
    render ⟨true, r, key⟩ = '!' :: (key ++ (r.suffix ++ ['@'])) := by
  simp [render]

theorem render_false (r : Relation) (key : Text) :
    render ⟨false, r, key⟩ = key ++ (r.suffix ++ ['@']) := by
  simp [render]

theorem isSign_of_mem_back {r : Relation} (hc : r.Canonical) :
    ∀ x ∈ r.suffix ++ ['@'], isSign x = true := by
  intro x hx
  rcases List.mem_append.1 hx with hx | hx
  · exact (Relation.isSign_of_mem_suffix hc hx).1
  · rw [List.mem_singleton.1 hx]
    decide

theorem mem_render_iff {x : Char} (hbang : x ≠ '!') (hat : x ≠ '@') :
    x ∈ c.render ↔ x ∈ c.key ∨ x ∈ c.relation.suffix := by
  unfold render
  cases c.negated <;> simp [hbang, hat]

theorem not_mem_key {x : Char} (h : c.WellFormed) (hx : isNameChar x = false) : x ∉ c.key :=
  not_mem_of_isName h.1 hx

theorem head?_render_ne_at (h : c.WellFormed) : c.render.head? ≠ some '@' := by
  obtain ⟨y, t, hkey⟩ := List.exists_cons_of_ne_nil (ne_nil_of_isName h.1)
  have hy : y ≠ '@' := by
    rintro rfl
    exact not_mem_key h (x := '@') (by decide) (by simp [hkey])
  unfold render
  cases c.negated <;> simp [hkey, hy]

/-- The signs that `g` takes out are not needed to read `c`. Its pattern keeps its `$` and its
marks, and its field is more than its underscores. -/
structure Survives (g : Toggles) (c : Clause) : Prop where
  dollar : g.dollar = false ∨ ∀ m, c.relation ≠ .like m
  underline : g.underline = false ∨
    (∀ m, c.relation = .like m → m.leading ≠ some .underscore ∧ m.trailing ≠ some .underscore) ∧
      isName (c.key.filter (· ≠ '_')) = true

theorem agreeOn_render (h : c.WellFormed) (hs : c.Survives g) {on : Bool}
    (hon : g.underline = on ∨ '_' ∉ c.render) :
    AgreeOn g (Toggles.off.set .underline on) c.render := by
  intro d
  cases d with
  | hyphen =>
    refine .inr fun hmem => ?_
    rcases (mem_render_iff (by decide) (by decide)).1 hmem with hkey | hsuffix
    · exact not_mem_key h (x := '-') (by decide) hkey
    · exact (Relation.isSign_of_mem_suffix h.2.1 hsuffix).2 rfl
  | underline => exact hon
  | dollar =>
    refine hs.dollar.imp_right fun hlike hmem => ?_
    rcases (mem_render_iff (by decide) (by decide)).1 hmem with hkey | hsuffix
    · exact not_mem_key h (x := '$') (by decide) hkey
    · obtain ⟨m, hm⟩ := Relation.exists_like_of_dollar hsuffix
      exact hlike m hm

/-! ## the words of the field -/

/-- The field of `c` as one word. Behind a `!`, its first letter is not the first character of the
key and turns small with the rest of its word. -/
def joined (c : Clause) : Clause :=
  { c with
    key :=
      if c.negated then capitals '_' false c.key
      else scalarKey (Toggles.off.set .underline true) c.key }

theorem scalarKey_render (h : c.WellFormed) (hmem : '_' ∈ c.key)
    (hsuffix : '_' ∉ c.relation.suffix) :
    scalarKey (Toggles.off.set .underline true) c.render = c.joined.render := by
  obtain ⟨negated, r, key⟩ := c
  have hname : isName key = true := h.1
  obtain ⟨x, t, rfl, hat, hkey⟩ := exists_cons_of_isName hname
  have hsign : ∀ y ∈ r.suffix ++ ['@'], isSign y = true := isSign_of_mem_back h.2.1
  have hback : '_' ∉ r.suffix ++ ['@'] := by simpa using hsuffix
  cases negated with
  | false =>
    have hformat := scalarKey_set_append_signs (d := .underline) hkey hat hmem hsign hback
    rw [render_false, joined, render_false]
    exact hformat
  | true =>
    have hascii : IsAscii ('!' :: (x :: t ++ (r.suffix ++ ['@']))) := by
      refine isAscii_cons.2 ⟨by decide, isAscii_append.2 ⟨hkey, ?_⟩⟩
      exact fun y hy => ascii_of_isSign (hsign y hy)
    have hin : '_' ∈ '!' :: (x :: t ++ (r.suffix ++ ['@'])) :=
      List.mem_cons_of_mem _ (List.mem_append_left _ hmem)
    have hformat := scalarKey_set_cons (d := .underline) hascii (by decide) hin
    rw [if_neg (by decide), Divider.sign, capitals_append_signs hsign hback] at hformat
    rw [render_true, joined, render_true]
    exact hformat

theorem map_toLower_joined (h : c.WellFormed) (hmem : '_' ∈ c.key) :
    c.joined.key.map Char.toLower = (c.key.filter (· ≠ '_')).map Char.toLower := by
  obtain ⟨negated, r, key⟩ := c
  cases negated with
  | true => exact map_toLower_capitals '_' false key
  | false =>
    have hname : isName key = true := h.1
    obtain ⟨x, t, rfl, hat, hkey⟩ := exists_cons_of_isName hname
    exact map_toLower_scalarKey_set (d := .underline) hkey hat hmem

theorem wellFormed_joined (h : c.WellFormed) (hmem : '_' ∈ c.key)
    (hrest : isName (c.key.filter (· ≠ '_')) = true) : c.joined.WellFormed := by
  have hmap := map_toLower_joined h hmem
  have hname : isName c.joined.key = true := by
    rw [← isName_map_toLower, hmap, isName_map_toLower]
    exact hrest
  refine ⟨hname, h.2.1, fun _ hlast => ?_⟩
  -- no underscore is left, not even one in another case
  have hunder : '_' ∈ c.joined.key.map Char.toLower :=
    List.mem_map.2 ⟨'_', List.mem_of_getLast? hlast, by decide⟩
  rw [hmap] at hunder
  obtain ⟨y, hy, hlower⟩ := List.mem_map.1 hunder
  have hyu : y = '_' := LetterCase.eq_of_letter_eq (k := .lower) (by decide) hlower
  rw [hyu] at hy
  exact of_decide_eq_true (List.mem_filter.1 hy).2 rfl

theorem joined_key (h : c.WellFormed) (hmem : '_' ∈ c.key) :
    c.joined.key = scalarKey (Toggles.off.set .underline true) c.key ∨
      c.negated = true ∧ (∃ x ∈ c.key.head?, x.isUpper = true) ∧
        c.joined.key = LetterCase.lower.recaseFirst
          (scalarKey (Toggles.off.set .underline true) c.key) := by
  obtain ⟨negated, r, key⟩ := c
  cases negated with
  | false => exact .inl rfl
  | true =>
    have hname : isName key = true := h.1
    obtain ⟨x, t, rfl, hat, hkey⟩ := exists_cons_of_isName hname
    have hjoined : (joined ⟨true, r, x :: t⟩).key = capitals '_' false (x :: t) := rfl
    rw [hjoined, scalarKey_set_cons (d := .underline) hkey hat hmem, Divider.sign]
    by_cases hx : x = '_'
    · left
      rw [if_pos hx, hx, capitals_cons_self]
    · rw [if_neg hx, capitals_cons hx]
      by_cases hup : x.isUpper
      · right
        refine ⟨rfl, ⟨x, rfl, hup⟩, ?_⟩
        rw [LetterCase.lower.recaseFirst_of_ascii (isAscii_cons.1 hkey).1]
        rfl
      · left
        have hlower : x.toLower = x :=
          LetterCase.letter_lower_of_not_isUpper (isAscii_cons.1 hkey).1 hup
        rw [hlower]
        rfl

/-! ## reading a formatted key -/

/-- A formatted reference key says the same of the formatted field, as long as the clause survives
the format. In a negated key, a capital letter in front of the field may turn small: the key has
the `!` in front, and keeps that as its first character. -/
theorem read_scalarKey {kind : JoinKind} {table raw : Text} (h : read kind table raw = .ok c)
    (hs : c.Survives g) :
    ∃ c', read kind table (scalarKey g raw) = .ok c' ∧ c'.negated = c.negated ∧
      c'.relation = c.relation ∧
        (c'.key = scalarKey g c.key ∨
          c.negated = true ∧ (∃ x ∈ c.key.head?, x.isUpper = true) ∧
            c'.key = LetterCase.lower.recaseFirst (scalarKey g c.key)) := by
  obtain ⟨hc, rfl⟩ := wellFormed_of_read h
  have hkey {g' : Toggles} (hg : AgreeOn g g' c.render) :
      scalarKey g c.key = scalarKey g' c.key := by
    refine scalarKey_eq_scalarKey (hg.mono fun d hd => ?_)
    exact (mem_render_iff (by cases d <;> decide) (by cases d <;> decide)).2 (.inl hd)
  by_cases hu : g.underline = true ∧ '_' ∈ c.render
  · obtain ⟨hon, hmem⟩ := hu
    obtain ⟨hmarks, hrest⟩ := hs.underline.resolve_left (by rw [hon]; decide)
    have hsuffix : '_' ∉ c.relation.suffix := by
      intro hin
      obtain ⟨m, hm, hmark⟩ := Relation.exists_mark_of_underscore hin
      rcases hmark with hl | ht
      · exact (hmarks m hm).1 hl
      · exact (hmarks m hm).2 ht
    have hin : '_' ∈ c.key :=
      ((mem_render_iff (by decide) (by decide)).1 hmem).resolve_right hsuffix
    have hg := agreeOn_render hc hs (.inl hon)
    refine ⟨c.joined, ?_, rfl, rfl, ?_⟩
    · rw [scalarKey_eq_scalarKey hg, scalarKey_render hc hin hsuffix]
      exact read_render (wellFormed_joined hc hin hrest) kind table
    · rw [hkey hg]
      exact joined_key hc hin
  · -- nothing is taken out
    have hoff : g.underline = false ∨ '_' ∉ c.render := by
      by_cases hon : g.underline = true
      · exact .inr fun hmem => hu ⟨hon, hmem⟩
      · exact .inl (Bool.eq_false_iff.2 hon)
    have hg := agreeOn_render hc hs hoff
    have hself {t : Text} (hat : t.head? ≠ some '@') :
        scalarKey (Toggles.off.set .underline false) t = t :=
      scalarKey_eq_self ⟨hat, fun d hd => absurd hd List.not_mem_nil⟩
    have hhead : c.key.head? ≠ some '@' := by
      intro hat
      exact not_mem_key hc (x := '@') (by decide) (List.mem_of_head? hat)
    refine ⟨c, ?_, rfl, rfl, .inl ?_⟩
    · rw [scalarKey_eq_scalarKey hg, hself (head?_render_ne_at hc)]
      exact read_render hc kind table
    · rw [hkey hg, hself hhead]

/-- Formatted behind its `!`, the field is `userId`, and on its own it is `UserId`. -/
theorem read_scalarKey_negated :
    let c : Clause := ⟨true, .like (.single .percent), ['U', 's', 'e', 'r', '_', 'i', 'd']⟩
    let g : Toggles := ⟨true, true, false⟩
    read .app [] c.render = .ok c ∧ c.Survives g ∧
      scalarKey g c.render = ['!', 'u', 's', 'e', 'r', 'I', 'd', '%', '$', '@'] ∧
      scalarKey g c.key = ['U', 's', 'e', 'r', 'I', 'd'] ∧
      ∃ c', read .app [] (scalarKey g c.render) = .ok c' ∧ c'.negated = true ∧
        c'.relation = .like (.single .percent) ∧
          (c'.key = scalarKey g c.key ∨
            c.negated = true ∧ (∃ x ∈ c.key.head?, x.isUpper = true) ∧
              c'.key = LetterCase.lower.recaseFirst (scalarKey g c.key)) := by
  intro c g
  have hread : read .app [] c.render = .ok c := by decide
  have hs : c.Survives g := by
    refine ⟨.inl rfl, .inr ⟨fun m hm => ?_, by decide⟩⟩
    cases hm
    decide
  exact ⟨hread, hs, by decide +kernel, by decide +kernel, read_scalarKey hread hs⟩

end Clause

end KeyNotation
