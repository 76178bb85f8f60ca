import Mathlib.Data.List.Nodup
import KeyNotation.Proofs.KeyFormat.Capitals
import KeyNotation.Proofs.KeyFormat.Signs

/-!
# The last divider

A format takes one divider after the other out of a key, and each pass writes all words anew. So the
words of the last divider alone can be seen in the end. For a key of ASCII, all passes come to one:
the other dividers are deleted, and the last one parts what is left into capital words.

* `capitals_congr` — a pass does not depend on the case of letters;
* `map_toLower_stripDividers` — the passes take nothing but the dividers out, up to case;
* `Toggles.last? g t`, `Toggles.keep g d t` — the last divider that does something to `t`, and `t`
  without the others;
* `stripDividers_eq_capitalWords` — all passes as the pass of the last divider;
* `KeyFormat.format_eq_capitalWords` — the formatted key.
-/

namespace KeyNotation

/-! ## passes and letter case -/

section

variable {x : Char} {t t' : Text}

theorem toLower_eq_iff {c : Char} (hx : isSign x = true) : c.toLower = x ↔ c = x := by
  constructor
  · exact LetterCase.eq_of_letter_eq (k := .lower) hx
  · rintro rfl
    exact LetterCase.letter_of_isSign .lower hx

theorem capitals_map_toLower (hx : isSign x = true) (start : Bool) (t : Text) :
    capitals x start (t.map Char.toLower) = capitals x start t := by
  induction t generalizing start with
  | nil => rfl
  | cons c t ih =>
    rw [List.map_cons]
    by_cases hc : c = x
    · have hlower : c.toLower = x := (toLower_eq_iff hx).2 hc
      rw [hlower, hc, capitals_cons_self, capitals_cons_self, ih]
    · have hlower : c.toLower ≠ x := mt (toLower_eq_iff hx).1 hc
      have hupper : c.toLower.toUpper = c.toUpper := LetterCase.upper.letter_letter .lower c
      have htwice : c.toLower.toLower = c.toLower := LetterCase.lower.letter_letter .lower c
      rw [capitals_cons hlower, capitals_cons hc, ih, hupper, htwice]

theorem capitals_congr (hx : isSign x = true) (h : t.map Char.toLower = t'.map Char.toLower)
    (start : Bool) : capitals x start t = capitals x start t' := by
  rw [← capitals_map_toLower hx start t, h, capitals_map_toLower hx start t']

theorem isAscii_capitals (x : Char) (start : Bool) (ht : IsAscii t) :
    IsAscii (capitals x start t) := by
  induction t generalizing start with
  | nil => exact ht
  | cons c t ih =>
    obtain ⟨hc, ht⟩ := isAscii_cons.1 ht
    by_cases hx : c = x
    · rw [hx, capitals_cons_self]
      exact ih true ht
    · rw [capitals_cons hx]
      refine isAscii_cons.2 ⟨?_, ih false ht⟩
      cases start with
      | true => exact LetterCase.upper.ascii_letter hc
      | false => exact LetterCase.lower.ascii_letter hc

theorem stripDivider_of_mem (ht : IsAscii t) (h : x ∈ t) : stripDivider t x = capitals x true t := by
  rw [stripDivider, if_pos h, capitalWords_eq_capitals x ht]

theorem stripDivider_of_not_mem (h : x ∉ t) : stripDivider t x = t := if_neg h

theorem isAscii_stripDivider (x : Char) (ht : IsAscii t) : IsAscii (stripDivider t x) := by
  by_cases h : x ∈ t
  · rw [stripDivider_of_mem ht h]
    exact isAscii_capitals x true ht
  · rwa [stripDivider_of_not_mem h]

theorem map_toLower_stripDivider (x : Char) (ht : IsAscii t) :
    (stripDivider t x).map Char.toLower = (t.filter (· ≠ x)).map Char.toLower := by
  by_cases h : x ∈ t
  · rw [stripDivider_of_mem ht h, map_toLower_capitals]
  · rw [stripDivider_of_not_mem h, filter_ne_of_not_mem h]

end

/-! ## all passes -/

section

variable {ds : List Char} {t : Text}

theorem stripDividers_append (ds ds' : List Char) (t : Text) :
    stripDividers (ds ++ ds') t = stripDividers ds' (stripDividers ds t) :=
  List.foldl_append ..

theorem isAscii_stripDividers (ds : List Char) (ht : IsAscii t) : IsAscii (stripDividers ds t) := by
  induction ds generalizing t with
  | nil => exact ht
  | cons d ds ih => exact ih (isAscii_stripDivider d ht)

/-- Signs can be deleted before or after the letters turn small. -/
theorem map_toLower_filter (hds : ∀ d ∈ ds, isSign d = true) (t : Text) :
    (t.filter (· ∉ ds)).map Char.toLower = (t.map Char.toLower).filter (· ∉ ds) := by
  rw [List.filter_map]
  refine congrArg _ (List.filter_congr fun c _ => ?_)
  have hmem : c.toLower ∈ ds ↔ c ∈ ds := by
    constructor
    · intro h
      have hc : c = c.toLower := (toLower_eq_iff (hds _ h)).1 rfl
      rwa [← hc] at h
    · intro h
      rwa [(toLower_eq_iff (hds c h)).2 rfl]
  simp [hmem]

/-- The induction is on the dividers that are still to be taken out. -/
theorem map_toLower_stripDividers (hds : ∀ d ∈ ds, isSign d = true) (ht : IsAscii t) :
    (stripDividers ds t).map Char.toLower = (t.filter (· ∉ ds)).map Char.toLower := by
  induction ds generalizing t with
  | nil => simp [stripDividers]
  | cons d ds ih =>
    have hrest : ∀ d' ∈ ds, isSign d' = true := fun d' hd' => hds d' (List.mem_cons_of_mem _ hd')
    rw [stripDividers_cons, ih hrest (isAscii_stripDivider d ht), map_toLower_filter hrest,
      map_toLower_stripDivider d ht, ← map_toLower_filter hrest, List.filter_filter]
    refine congrArg _ (List.filter_congr fun c _ => ?_)
    simp [Bool.and_comm]

/-- Of the dividers behind `d`, none is left to take out. -/
theorem stripDividers_eq_capitals {before after : List Char} {d : Char}
    (hds : ∀ x ∈ before ++ d :: after, isSign x = true) (ht : IsAscii t) (hd : d ∈ t)
    (hbefore : d ∉ before) (hafter : ∀ x ∈ after, x ∉ t) :
    stripDividers (before ++ d :: after) t = capitals d true (t.filter (· ∉ before)) := by
  obtain ⟨hsigns, hsigns'⟩ := List.forall_mem_append.1 hds
  obtain ⟨hsign, hafters⟩ := List.forall_mem_cons.1 hsigns'
  have hascii : IsAscii (stripDividers before t) := isAscii_stripDividers before ht
  have hmem : d ∈ stripDividers before t := by
    rw [← mem_signs_iff hsign, signs_stripDividers, List.mem_filter, mem_signs_iff hsign]
    exact ⟨hd, by simpa using hbefore⟩
  have hpass : stripDivider (stripDividers before t) d = capitals d true (t.filter (· ∉ before)) := by
    rw [stripDivider_of_mem hascii hmem]
    exact capitals_congr hsign (map_toLower_stripDividers hsigns ht) true
  have hnone : ∀ x ∈ after, x ∉ stripDivider (stripDividers before t) d := by
    intro x hx hxs
    have hxsign := hafters x hx
    rw [← mem_signs_iff hxsign, signs_stripDivider, signs_stripDividers] at hxs
    exact hafter x hx
      ((mem_signs_iff hxsign).1 (List.mem_of_mem_filter (List.mem_of_mem_filter hxs)))
  rw [stripDividers_append, stripDividers_cons, stripDividers_eq_self hnone, hpass]

end

/-! ## the last one -/

namespace Toggles

/-- The last divider that is on and stands in `t`. -/
def last? (g : Toggles) (t : Text) : Option Char := (g.signs.filter (· ∈ t)).getLast?

/-- The text `t` without the dividers that are on, except for `d`. -/
def keep (g : Toggles) (d : Char) (t : Text) : Text := t.filter fun c => c = d ∨ c ∉ g.signs

variable {g : Toggles} {t : Text} {d : Char}

theorem nodup_signs (g : Toggles) : g.signs.Nodup := by
  have hall : (Divider.all.map Divider.sign).Nodup := by decide
  exact hall.sublist (List.filter_sublist.map Divider.sign)

theorem last?_eq_none_iff : g.last? t = none ↔ ∀ d ∈ g.signs, d ∉ t := by
  rw [last?, List.getLast?_eq_none_iff, List.filter_eq_nil_iff]
  simp

theorem exists_of_last? (h : g.last? t = some d) :
    ∃ before after, g.signs = before ++ d :: after ∧ d ∈ t ∧ ∀ x ∈ after, x ∉ t := by
  obtain ⟨front, hfront⟩ := List.getLast?_eq_some_iff.1 h
  obtain ⟨l₁, l₂, hl, -, hlast⟩ := List.filter_eq_append_iff.1 hfront
  obtain ⟨before, after, rfl, -, hd, hnil⟩ := List.filter_eq_cons_iff.1 hlast
  refine ⟨l₁ ++ before, after, by rw [hl, List.append_assoc], by simpa using hd, ?_⟩
  simpa using List.filter_eq_nil_iff.1 hnil

end Toggles

theorem stripDividers_eq_capitalWords {g : Toggles} {t : Text} {d : Char} (ht : IsAscii t)
    (h : g.last? t = some d) : stripDividers g.signs t = capitalWords [d] (g.keep d t) := by
  obtain ⟨before, after, hsigns, hd, hafter⟩ := Toggles.exists_of_last? h
  have hnodup := g.nodup_signs
  rw [hsigns, List.nodup_middle, List.nodup_cons, List.mem_append, not_or] at hnodup
  have hds : ∀ x ∈ before ++ d :: after, isSign x = true := by
    intro x hx
    exact Toggles.isSign_of_mem_signs (hsigns ▸ hx)
  have hkeep : g.keep d t = t.filter (· ∉ before) := by
    refine List.filter_congr fun c hc => ?_
    rw [hsigns, decide_eq_decide]
    simp only [List.mem_append, List.mem_cons, not_or]
    constructor
    · rintro (rfl | ⟨hbefore, -, -⟩)
      · exact hnodup.1.1
      · exact hbefore
    · intro hbefore
      by_cases hcd : c = d
      · exact .inl hcd
      · exact .inr ⟨hbefore, hcd, fun hmem => hafter c hmem hc⟩
  have hascii : IsAscii (g.keep d t) := fun c hc => ht c (List.mem_of_mem_filter hc)
  rw [capitalWords_eq_capitals d hascii, hkeep, hsigns]
  exact stripDividers_eq_capitals hds ht hd hnodup.1.1 hafter

/-- The case of the letter that a text of ASCII starts with. -/
def startCase? : Text → Option LetterCase
  | [] => none
  | c :: _ => if c.isLower then some .lower else if c.isUpper then some .upper else none

theorem recaseLike_of_isAscii {model : Text} (h : IsAscii model) (t : Text) :
    recaseLike model t = recaseFirst (startCase? model) t := by
  cases model with
  | nil => rfl
  | cons c model =>
    rw [recaseLike, LetterCase.ofLetter?_of_ascii (isAscii_cons.1 h).1]
    rfl

namespace KeyFormat

theorem stem_suffix (f : KeyFormat) (key : Text) : f.stem key <:+ key := by
  have hcolon : afterColon key <:+ key := by
    unfold afterColon
    split
    · rename_i a hs
      obtain ⟨rfl, -⟩ := splitFirst?_eq_some_iff.1 hs
      exact (List.suffix_cons ':' a).trans (List.suffix_append _ _)
    · exact List.suffix_rfl
  have hat (t : Text) : withoutAt t <:+ t := by
    unfold withoutAt
    split
    · exact List.suffix_cons ..
    · exact List.suffix_rfl
  unfold stem
  split <;> split
  · exact (hat _).trans hcolon
  · exact hcolon
  · exact hat _
  · exact List.suffix_rfl

theorem isAscii_stem (f : KeyFormat) {key : Text} (h : IsAscii key) : IsAscii (f.stem key) :=
  fun c hc => h c ((f.stem_suffix key).subset hc)

variable {f : KeyFormat} {key : Text}

theorem format_of_last?_eq_none (h : f.dividers.last? (f.stem key) = none) :
    f.format key = recaseFirst f.first (f.stem key) := by
  have hnone := Toggles.last?_eq_none_iff.1 h
  have hany : f.dividers.signs.any (· ∈ f.stem key) = false := by simpa using hnone
  simp only [format, stripDividers_eq_self hnone, hany]
  cases f.first <;> rfl

theorem format_of_last?_eq_some (hkey : IsAscii key) {d : Char}
    (h : f.dividers.last? (f.stem key) = some d) :
    f.format key = recaseFirst (f.first.or (startCase? (f.stem key)))
      (capitalWords [d] (f.dividers.keep d (f.stem key))) := by
  have hstem := f.isAscii_stem hkey
  obtain ⟨before, after, hsigns, hd, -⟩ := Toggles.exists_of_last? h
  have hany : f.dividers.signs.any (· ∈ f.stem key) = true := by
    refine List.any_eq_true.2 ⟨d, ?_, by simpa using hd⟩
    simp [hsigns]
  simp only [format, stripDividers_eq_capitalWords hstem h, hany]
  cases f.first with
  | some k => rfl
  | none => exact recaseLike_of_isAscii hstem _

theorem map_toLower_recaseFirst (k : Option LetterCase) {t : Text} (ht : IsAscii t) :
    (recaseFirst k t).map Char.toLower = t.map Char.toLower := by
  cases k with
  | none => rfl
  | some k =>
    cases t with
    | nil => rfl
    | cons c t =>
      have hlower : (k.letter c).toLower = c.toLower := LetterCase.lower.letter_letter k c
      have hfirst : recaseFirst (some k) (c :: t) = k.letter c :: t :=
        k.recaseFirst_of_ascii (isAscii_cons.1 ht).1 t
      rw [hfirst, List.map_cons, List.map_cons, hlower]

/-- Only the stem has to be of ASCII. -/
theorem map_toLower_format_of_stem (f : KeyFormat) (hstem : IsAscii (f.stem key)) :
    (f.format key).map Char.toLower =
      ((f.stem key).filter (· ∉ f.dividers.signs)).map Char.toLower := by
  have hname : IsAscii (stripDividers f.dividers.signs (f.stem key)) := isAscii_stripDividers _ hstem
  rw [← map_toLower_stripDividers (fun _ => Toggles.isSign_of_mem_signs) hstem]
  unfold format
  cases f.first with
  | some k => exact map_toLower_recaseFirst (some k) hname
  | none =>
    dsimp only
    split
    · rw [recaseLike_of_isAscii hstem]
      exact map_toLower_recaseFirst _ hname
    · rfl

theorem map_toLower_format (f : KeyFormat) (hkey : IsAscii key) :
    (f.format key).map Char.toLower =
      ((f.stem key).filter (· ∉ f.dividers.signs)).map Char.toLower :=
  map_toLower_format_of_stem f (f.isAscii_stem hkey)

/-- The closed form of a format. A key without dividers is its stem. Any other is parted at its last
divider, and where the format asks for no case, its first letter is in the case that the stem has.
Up to case, nothing but the dividers is lost. -/
theorem format_eq_capitalWords (f : KeyFormat) {key : Text} (hkey : IsAscii key) :
    f.format key =
      (match f.dividers.last? (f.stem key) with
        | none => recaseFirst f.first (f.stem key)
        | some d => recaseFirst (f.first.or (startCase? (f.stem key)))
          (capitalWords [d] (f.dividers.keep d (f.stem key)))) ∧
    (f.format key).map Char.toLower =
      ((f.stem key).filter (· ∉ f.dividers.signs)).map Char.toLower := by
  refine ⟨?_, map_toLower_format f hkey⟩
  cases h : f.dividers.last? (f.stem key) with
  | none => exact format_of_last?_eq_none h
  | some d => exact format_of_last?_eq_some hkey h

/-- The words of the hyphen and of the underscore are gone in the end. -/
theorem format_eq_capitalWords_three :
    let f : KeyFormat := ⟨true, true, .all, none⟩
    let key : Text := ['T', ':', '@', 'A', '-', 'b', '_', 'C', '$', 'd', '-', 'E']
    IsAscii key ∧
      f.format key = recaseFirst (some .upper) (capitalWords ['$'] ['A', 'b', 'C', '$', 'd', 'E']) ∧
      f.format key = ['A', 'b', 'c', 'D', 'e'] ∧
      (f.format key).map Char.toLower = ['a', 'b', 'c', 'd', 'e'] := by
  intro f key
  have hkey : IsAscii key := by simp [IsAscii, key]
  obtain ⟨hformat, hletters⟩ := format_eq_capitalWords f hkey
  have hclosed : f.format key =
      recaseFirst (some .upper) (capitalWords ['$'] ['A', 'b', 'C', '$', 'd', 'E']) := hformat
  have hrest : IsAscii ['A', 'b', 'C', '$', 'd', 'E'] := by simp [IsAscii]
  refine ⟨hkey, hclosed, ?_, hletters⟩
  rw [hclosed, capitalWords_eq_capitals '$' hrest]
  rfl

end KeyFormat

end KeyNotation
