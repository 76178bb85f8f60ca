import KeyNotation.KeyFormat
import KeyNotation.Proofs.Casing.Ascii
import KeyNotation.Proofs.Words

/-!
# Capital words of ASCII

For a text of ASCII and a divider of one character, parting the text, casing the words and putting
them together comes to one pass over the text: what follows a divider is a capital letter, and all
else is small.

* `capitals x start t` — that pass over `t`, where `start` says that a word starts here;
* `capitalWords_eq_capitals` — it gives the capital words;
* `capitals_append_signs`, `map_toLower_capitals` — signs at the end stay, and nothing but the case
  of letters and the dividers is lost.
-/

namespace KeyNotation

def capitals (x : Char) : Bool → Text → Text
  | _, [] => []
  | start, c :: t =>
    if c = x then capitals x true t
    else (if start then c.toUpper else c.toLower) :: capitals x false t

variable {x : Char}

theorem capitals_cons_self (x : Char) (start : Bool) (t : Text) :
    capitals x start (x :: t) = capitals x true t := if_pos rfl

theorem capitals_cons {c : Char} (h : c ≠ x) (start : Bool) (t : Text) :
    capitals x start (c :: t) = (if start then c.toUpper else c.toLower) :: capitals x false t :=
  if_neg h

/-! ## the words -/

/-- The pass goes on after `a` with what it knows by then. -/
theorem exists_capitals_append (x : Char) (start : Bool) (a : Text) :
    ∃ start', ∀ b, capitals x start (a ++ b) = capitals x start a ++ capitals x start' b := by
  induction a generalizing start with
  | nil => exact ⟨start, fun b => rfl⟩
  | cons c a ih =>
    by_cases hc : c = x
    · obtain ⟨start', ha⟩ := ih true
      refine ⟨start', fun b => ?_⟩
      rw [List.cons_append, hc, capitals_cons_self, capitals_cons_self, ha]
    · obtain ⟨start', ha⟩ := ih false
      refine ⟨start', fun b => ?_⟩
      rw [List.cons_append, capitals_cons hc, capitals_cons hc, ha, List.cons_append]

theorem capitals_append_cons (x : Char) (start : Bool) (a b : Text) :
    capitals x start (a ++ x :: b) = capitals x start a ++ capitals x true b := by
  obtain ⟨start', ha⟩ := exists_capitals_append x start a
  rw [ha, capitals_cons_self]

/-- Inside a word, all is small. -/
theorem capitals_false_of_not_mem {w : Text} (h : x ∉ w) :
    capitals x false w = w.map Char.toLower := by
  induction w with
  | nil => rfl
  | cons c w ih =>
    obtain ⟨hc, hw⟩ := not_or.1 (mt List.mem_cons.2 h)
    rw [capitals_cons (Ne.symm hc), ih hw]
    rfl

theorem recaseWord_eq_capitals {w : Text} (h : x ∉ w) (hw : IsAscii w) :
    recaseWord (some .upper) (some .lower) w = capitals x true w := by
  have hlow : recaseWord (some .upper) (some .lower) w =
      LetterCase.upper.recaseFirst (w.map Char.toLower) :=
    congrArg LetterCase.upper.recaseFirst (LetterCase.lower.recase_of_isAscii hw)
  rw [hlow]
  cases w with
  | nil => rfl
  | cons c w =>
    obtain ⟨hc, hx⟩ := not_or.1 (mt List.mem_cons.2 h)
    have hascii : c.toLower.toNat < 0x80 :=
      LetterCase.lower.ascii_letter (isAscii_cons.1 hw).1
    have hfirst : Char.toUpper c.toLower = c.toUpper := LetterCase.upper.letter_letter .lower c
    rw [List.map_cons, LetterCase.upper.recaseFirst_of_ascii hascii, capitals_cons (Ne.symm hc),
      capitals_false_of_not_mem hx]
    exact congrArg (· :: w.map Char.toLower) hfirst

theorem capitalWords_eq_capitals (x : Char) {t : Text} (ht : IsAscii t) :
    capitalWords [x] t = capitals x true t := by
  rw [capitalWords_singleton]
  induction t using word_ind x with
  | last w hw => rw [words_of_not_mem hw, List.flatMap_singleton, recaseWord_eq_capitals hw ht]
  | word w rest hw ih =>
    obtain ⟨hascii, hrest⟩ := isAscii_append.1 ht
    rw [words_append_of_not_mem hw, List.flatMap_cons, recaseWord_eq_capitals hw hascii,
      ih (isAscii_cons.1 hrest).2, capitals_append_cons]

/-! ## what stays -/

theorem capitals_of_signs {b : Text} (hsign : ∀ c ∈ b, isSign c = true) (hx : x ∉ b)
    (start : Bool) : capitals x start b = b := by
  induction b generalizing start with
  | nil => rfl
  | cons c b ih =>
    obtain ⟨hc, hx⟩ := not_or.1 (mt List.mem_cons.2 hx)
    obtain ⟨hcs, hsign⟩ := List.forall_mem_cons.1 hsign
    have hupper : c.toUpper = c := LetterCase.upper.letter_of_isSign hcs
    have hlower : c.toLower = c := LetterCase.lower.letter_of_isSign hcs
    rw [capitals_cons (Ne.symm hc), ih hsign hx, hupper, hlower, ite_self]

theorem capitals_append_signs {b : Text} (hsign : ∀ c ∈ b, isSign c = true) (hx : x ∉ b)
    (start : Bool) (t : Text) : capitals x start (t ++ b) = capitals x start t ++ b := by
  obtain ⟨start', ht⟩ := exists_capitals_append x start t
  rw [ht, capitals_of_signs hsign hx]

theorem map_toLower_capitals (x : Char) (start : Bool) (t : Text) :
    (capitals x start t).map Char.toLower = (t.filter (· ≠ x)).map Char.toLower := by
  induction t generalizing start with
  | nil => rfl
  | cons c t ih =>
    by_cases hc : c = x
    · rw [hc, capitals_cons_self, ih, List.filter_cons_of_neg (by simp)]
    · rw [capitals_cons hc, List.map_cons, ih, List.filter_cons_of_pos (by simpa using hc),
        List.map_cons]
      have hlower (k : LetterCase) : (k.letter c).toLower = c.toLower :=
        LetterCase.lower.letter_letter k c
      cases start with
      | true => exact congrArg (· :: _) (hlower .upper)
      | false => exact congrArg (· :: _) (hlower .lower)

/-! ## the first character -/

theorem recaseLike_capitals {c x : Char} (hc : c.toNat < 0x80) (hx : isSign x = true) (t : Text) :
    recaseLike (c :: t) (capitals x true (c :: t)) =
      if c = x then capitals x true t else c :: capitals x false t := by
  by_cases hcx : c = x
  · rw [if_pos hcx, hcx, capitals_cons_self]
    have hnone : LetterCase.ofLetter? x = none :=
      LetterCase.ofLetter?_of_isSign hx
    rw [recaseLike, hnone]
    rfl
  · rw [if_neg hcx, capitals_cons hcx]
    exact recaseFirst_ofLetter? hc .upper (capitals x false t)

end KeyNotation
