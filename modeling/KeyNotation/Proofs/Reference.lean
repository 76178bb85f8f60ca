import KeyNotation.Proofs.Join.Entry
import KeyNotation.Reference

/-!
# References written and read

A reference path is read from its end. Its last two segments are a table key and a field, and a
slash parts them from whatever comes before.

* `Reference.lastSegment_eq_iff` — the last segment of a path;
* `Reference.Ends path r` — `path` ends with what the reference `r` is written as;
* `Reference.ofPath?_eq_some_iff` — these are the paths that `r` is read from;
* `Reference.ofEntry_render` — an entry that opens with the table key of a reference is read alike.
-/

namespace KeyNotation

namespace Reference

/-- What stands in front of a segment. -/
def IsFront (front : Text) : Prop := front = [] ∨ ['/'] <:+ front

theorem lastSegment_eq_iff {path segment : Text} :
    lastSegment path = segment ↔ '/' ∉ segment ∧ ∃ front, IsFront front ∧ path = front ++ segment := by
  cases hs : splitLast? '/' path with
  | none =>
    have hlast : lastSegment path = path := by simp only [lastSegment, hs]
    have hslash : '/' ∉ path := splitLast?_eq_none_iff.1 hs
    rw [hlast]
    constructor
    · rintro rfl
      exact ⟨hslash, [], .inl rfl, rfl⟩
    · rintro ⟨-, front, rfl | hfront, rfl⟩
      · rfl
      · have hmem : '/' ∈ front := hfront.subset (List.mem_singleton_self _)
        exact absurd (List.mem_append_left _ hmem) hslash
  | some p =>
    obtain ⟨a, b⟩ := p
    have hlast : lastSegment path = b := by simp only [lastSegment, hs]
    obtain ⟨rfl, hb⟩ := splitLast?_eq_some_iff.1 hs
    rw [hlast]
    constructor
    · rintro rfl
      exact ⟨hb, a ++ ['/'], .inr (List.suffix_append _ _), by simp⟩
    · rintro ⟨hsegment, front, rfl | ⟨a', rfl⟩, hpath⟩
      · rw [List.nil_append] at hpath
        rw [← hpath] at hsegment
        exact absurd (by simp) hsegment
      · have hsplit : splitLast? '/' (a ++ '/' :: b) = some (a', segment) :=
          splitLast?_eq_some_iff.2 ⟨by simpa using hpath, hsegment⟩
        rw [hs] at hsplit
        exact (Prod.mk.inj (Option.some.inj hsplit)).2

/-- The names of `r` are names, and `path` is `r` as it is written, with any segments in front. -/
def Ends (path : Text) (r : Reference) : Prop :=
  r.source.Named ∧ isName r.key = true ∧
    ∃ front, IsFront front ∧ path = front ++ r.source.render ++ '/' :: r.key

theorem ofPath?_eq_some_iff {path : Text} {r : Reference} : ofPath? path = some r ↔ Ends path r := by
  constructor
  · intro h
    unfold ofPath? at h
    split at h
    · cases h
    · rename_i front key hs
      obtain ⟨rfl, -⟩ := splitLast?_eq_some_iff.1 hs
      split at h
      · cases h
      · rename_i source hsource
        split at h
        · rename_i hkey
          cases h
          obtain ⟨hnamed, hlast⟩ := TableKey.ofText?_eq_some_iff.1 hsource
          obtain ⟨-, before, hbefore, rfl⟩ := lastSegment_eq_iff.1 hlast
          exact ⟨hnamed, hkey, before, hbefore, rfl⟩
        · cases h
  · rintro ⟨hnamed, hkey, front, hfront, rfl⟩
    have hs : splitLast? '/' (front ++ r.source.render ++ '/' :: r.key) =
        some (front ++ r.source.render, r.key) :=
      splitLast?_eq_some_iff.2 ⟨rfl, not_mem_of_isName hkey (by decide)⟩
    have hlast : lastSegment (front ++ r.source.render) = r.source.render :=
      lastSegment_eq_iff.2
        ⟨TableKey.not_mem_render hnamed (by decide) (by decide), front, hfront, rfl⟩
    have hsource : TableKey.ofText? r.source.render = some r.source :=
      TableKey.ofText?_eq_some_iff.2 ⟨hnamed, rfl⟩
    simp only [ofPath?, hs, hlast, hsource, if_pos hkey]

/-- An entry is cut from its front and a reference path from its end, and both read a table key
alike. -/
theorem ofEntry_render {r : Reference} (h : r.source.Named) (kind : JoinKind) {tail : Text}
    (htail : tail = [] ∨ ∃ t, tail = '/' :: t) :
    Join.ofEntry (kind.symbol ++ '/' :: (r.source.render ++ tail)) =
      .ok ⟨'/' :: (r.source.render ++ tail), kind, r.source, 1, []⟩ := by
  refine Join.ofEntry_of_asks ⟨rfl, rfl, h, 1, [], tail, .inl rfl, htail, ?_, .inl rfl⟩
  simp

/-- A reference is read from the paths that end with it and from no others, and its table key is
read from entries as well. -/
theorem ofPath_grammar :
    (∀ path r, ofPath? path = some r ↔ Ends path r) ∧
    ∀ path r, ofPath? path = some r → ∀ (kind : JoinKind) (tail : Text),
      (tail = [] ∨ ∃ t, tail = '/' :: t) →
        Join.ofEntry (kind.symbol ++ '/' :: (r.source.render ++ tail)) =
          .ok ⟨'/' :: (r.source.render ++ tail), kind, r.source, 1, []⟩ := by
  refine ⟨fun path r => ofPath?_eq_some_iff, ?_⟩
  intro path r h kind tail htail
  exact ofEntry_render (ofPath?_eq_some_iff.1 h).1 kind htail

theorem ofPath_grammar_aliased :
    let path : Text := "/[]/Moment:main/userId"
    let r : Reference := ⟨⟨"Moment", some "main"⟩, "userId"⟩
    ofPath? path = some r ∧ Ends path r ∧
      Join.ofEntry "</Moment:main/id@" = .ok ⟨"/Moment:main/id@", .left, r.source, 1, []⟩ := by
  intro path r
  have h : ofPath? path = some r := rfl
  have hends : Ends path r := (ofPath_grammar.1 path r).1 h
  exact ⟨h, hends, ofPath_grammar.2 path r h .left "/id@" (.inr ⟨"id@", rfl⟩)⟩

end Reference

end KeyNotation
