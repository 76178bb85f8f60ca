import KeyNotation.Proofs.Casing.Ascii
import KeyNotation.Proofs.KeyFormat.Signs

/-!
# The first character of a formatted key

Each divider that is taken out of a key puts a capital letter in front of it. A format that asks for
no case makes up for that once, at the end, whatever the text behind the first character is.

* `capitalWords_cons` — the words of a text that starts with a character of ASCII;
* `Opens c t` — `t` starts with `c`, in either case;
* `Opens.stripDivider`, `Opens.stripDividers` — what one divider does to such a text, and what all
  of them do;
* `Opens.head?_recaseLike` — the first character gets its case back;
* `KeyFormat.head?_format` — the formatted key.
-/

namespace KeyNotation

/-! ## words -/

section

variable {c x : Char}

theorem recaseWord_cons (hc : c.toNat < 0x80) (w : Text) :
    ∃ w', recaseWord (some .upper) (some .lower) (c :: w) = c.toUpper :: w' := by
  have hlower : LetterCase.lower.recase (c :: w) = c.toLower :: Casing.lowerAfter [c] w :=
    LetterCase.lowerAfter_cons_of_ascii hc [] w
  have hascii : c.toLower.toNat < 0x80 := LetterCase.lower.ascii_letter hc
  have hfirst : c.toLower.toUpper = c.toUpper := LetterCase.upper.letter_letter .lower c
  refine ⟨Casing.lowerAfter [c] w, ?_⟩
  calc recaseWord (some .upper) (some .lower) (c :: w)
      = LetterCase.upper.recaseFirst (c.toLower :: Casing.lowerAfter [c] w) :=
        congrArg LetterCase.upper.recaseFirst hlower
    _ = c.toLower.toUpper :: Casing.lowerAfter [c] w :=
        LetterCase.upper.recaseFirst_of_ascii hascii _
    _ = c.toUpper :: Casing.lowerAfter [c] w := by rw [hfirst]

theorem words_cons (h : c ≠ x) (t : Text) : ∃ w ws, words [x] (c :: t) = (c :: w) :: ws := by
  have hcons {w : Text} (hw : x ∉ w) : x ∉ c :: w := by
    rw [List.mem_cons, not_or]
    exact ⟨Ne.symm h, hw⟩
  cases hs : splitFirst? x t with
  | none => exact ⟨t, [], words_of_not_mem (hcons (splitFirst?_eq_none_iff.1 hs))⟩
  | some p =>
    obtain ⟨w, rest⟩ := p
    obtain ⟨rfl, hw⟩ := splitFirst?_eq_some_iff.1 hs
    exact ⟨w, words [x] rest, words_append_of_not_mem (hcons hw) rest⟩

theorem capitalWords_cons (hc : c.toNat < 0x80) (h : c ≠ x) (t : Text) :
    ∃ t', capitalWords [x] (c :: t) = c.toUpper :: t' := by
  obtain ⟨w, ws, hwords⟩ := words_cons h t
  obtain ⟨w', hword⟩ := recaseWord_cons hc w
  rw [capitalWords_singleton, hwords, List.flatMap_cons, hword]
  exact ⟨_, rfl⟩

end

/-! ## all passes -/

def Opens (c : Char) (t : Text) : Prop := ∃ k : LetterCase, t.head? = some (k.letter c)

namespace Opens

variable {c x : Char} {t : Text}

theorem of_head? (hc : c.toNat < 0x80) (h : t.head? = some c) : Opens c t := by
  have hcase : ∃ k : LetterCase, k.letter c = c := by
    cases hk : LetterCase.ofLetter? c with
    | none => exact ⟨.lower, (LetterCase.letter_eq_self_iff hc).2 (.inl hk)⟩
    | some k => exact ⟨k, (LetterCase.letter_eq_self_iff hc).2 (.inr hk)⟩
  obtain ⟨k, hk⟩ := hcase
  exact ⟨k, by rw [h, hk]⟩

theorem stripDivider (hc : c.toNat < 0x80) (hx : isSign x = true) (hcx : c ≠ x) (h : Opens c t) :
    Opens c (stripDivider t x) := by
  by_cases hmem : x ∈ t
  · obtain ⟨k, hk⟩ := h
    obtain ⟨t', rfl⟩ := List.head?_eq_some_iff.1 hk
    have hletter : k.letter c ≠ x := fun he => hcx (LetterCase.eq_of_letter_eq hx he)
    obtain ⟨t'', hwords⟩ := capitalWords_cons (k.ascii_letter hc) hletter t'
    have hupper : (k.letter c).toUpper = c.toUpper := LetterCase.upper.letter_letter k c
    rw [KeyNotation.stripDivider, if_pos hmem, hwords, hupper]
    exact ⟨.upper, rfl⟩
  · rwa [KeyNotation.stripDivider, if_neg hmem]

/-- The induction is on the dividers that are still to be taken out. -/
theorem stripDividers (hc : c.toNat < 0x80) {ds : List Char} (hds : ∀ d ∈ ds, isSign d = true)
    (hcds : c ∉ ds) (h : Opens c t) : Opens c (stripDividers ds t) := by
  induction ds generalizing t with
  | nil => exact h
  | cons d ds ih =>
    obtain ⟨hd, hds⟩ := List.forall_mem_cons.1 hds
    obtain ⟨hcd, hcds⟩ := not_or.1 (mt List.mem_cons.2 hcds)
    exact ih hds hcds (h.stripDivider hc hd hcd)

theorem head?_recaseLike (hc : c.toNat < 0x80) {model : Text} (hmodel : model.head? = some c)
    (h : Opens c t) : (recaseLike model t).head? = some c := by
  obtain ⟨rest, rfl⟩ := List.head?_eq_some_iff.1 hmodel
  obtain ⟨k, hk⟩ := h
  obtain ⟨t', rfl⟩ := List.head?_eq_some_iff.1 hk
  rw [recaseLike, recaseFirst_ofLetter? hc k t']
  rfl

end Opens

namespace KeyFormat

/-- A stem that starts with a character of ASCII is formatted to a key that starts with the same
character, unless that is one of the dividers. -/
theorem head?_format {f : KeyFormat} (hf : f.first = none) {key : Text} {c : Char}
    (hc : c.toNat < 0x80) (hstem : (f.stem key).head? = some c) (hdivider : c ∉ f.dividers.signs) :
    (f.format key).head? = some c := by
  by_cases hany : f.dividers.signs.any (· ∈ f.stem key) = true
  · have hname : Opens c (stripDividers f.dividers.signs (f.stem key)) :=
      (Opens.of_head? hc hstem).stripDividers hc (fun _ => Toggles.isSign_of_mem_signs) hdivider
    simp only [format, hf, hany, if_true]
    exact hname.head?_recaseLike hc hstem
  · have hnone : ∀ d ∈ f.dividers.signs, d ∉ f.stem key := by simpa using hany
    rwa [format_eq_stem hf hnone]

/-- The sigma at the end of the first word is cased by the letters around it, and the first letter
is not. -/
theorem head?_format_small :
    let f : KeyFormat := ⟨true, true, ⟨true, true, false⟩, none⟩
    let key : Text := ['T', ':', '@', 'a', 'Σ', '-', 'ß', '_', 'C', '$']
    f.first = none ∧ 'a'.toNat < 0x80 ∧ (f.stem key).head? = some 'a' ∧
      'a' ∉ f.dividers.signs ∧ (f.format key).head? = some 'a' := by
  intro f key
  have hstem : (f.stem key).head? = some 'a' := by decide
  exact ⟨rfl, by decide, hstem, by decide, head?_format rfl (by decide) hstem (by decide)⟩

end KeyFormat

end KeyNotation
