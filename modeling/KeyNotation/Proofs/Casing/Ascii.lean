import Mathlib.Data.List.Basic
import KeyNotation.Casing.Sign
import KeyNotation.Name

/-!
# Letter case in ASCII

Casing takes a text of ASCII character by character, one for one, and looks at nothing around them.

* `IsAscii t` — all characters of `t` are of ASCII;
* `LetterCase.letter k c` — the case of a character of ASCII, which is one character;
* `LetterCase.letter_letter`, `LetterCase.apply_letter` — the last case counts, and tests that all
  letters pass do not see it;
* `LetterCase.recase_of_isAscii`, `LetterCase.recaseFirst_of_ascii` — texts of ASCII in a case;
* `recaseFirst_ofLetter?` — a character whose case was changed gets it back from itself.
-/

namespace KeyNotation

def IsAscii (t : Text) : Prop := ∀ c ∈ t, c.toNat < 0x80

theorem isAscii_append {t t' : Text} : IsAscii (t ++ t') ↔ IsAscii t ∧ IsAscii t' :=
  List.forall_mem_append

theorem isAscii_cons {c : Char} {t : Text} : IsAscii (c :: t) ↔ c.toNat < 0x80 ∧ IsAscii t :=
  List.forall_mem_cons

theorem ascii_of_isSign {c : Char} (h : isSign c = true) : c.toNat < 0x80 := by
  simp only [isSign, Bool.and_eq_true, decide_eq_true_eq] at h
  exact h.1.2

theorem not_isAlpha_of_isSign {c : Char} (h : isSign c = true) : c.isAlpha = false := by
  simp only [isSign, Bool.and_eq_true, Bool.not_eq_true'] at h
  exact h.2

namespace LetterCase

open Casing

def letter : LetterCase → Char → Char
  | upper => Char.toUpper
  | lower => Char.toLower

theorem ascii_letter (k : LetterCase) {c : Char} (hc : c.toNat < 0x80) :
    (k.letter c).toNat < 0x80 := by
  revert c
  apply forall_ascii
  cases k <;> decide +kernel

/-- Letters beyond ASCII count as none. -/
theorem letter_of_le (k : LetterCase) {c : Char} (hc : 0x80 ≤ c.toNat) : k.letter c = c := by
  have hbeyond : ¬ c.val ≤ 'z'.val := by
    rw [UInt32.le_iff_toNat_le]
    change ¬ c.toNat ≤ 122
    omega
  have hlower : ¬ c.val ≤ 'Z'.val := fun h => hbeyond (UInt32.le_trans h (by decide))
  cases k with
  | upper => exact dif_neg fun h => hbeyond h.2
  | lower => exact dif_neg fun h => hlower h.2

theorem ofChar_of_ascii (k : LetterCase) {c : Char} (hc : c.toNat < 0x80) :
    k.ofChar c = [k.letter c] := by
  cases k with
  | upper => exact if_pos hc
  | lower => exact if_pos hc

theorem letter_of_isSign (k : LetterCase) {c : Char} (h : isSign c = true) : k.letter c = c := by
  have hc := k.ofChar_of_isSign h
  rw [k.ofChar_of_ascii (ascii_of_isSign h)] at hc
  exact List.head_eq_of_cons_eq hc

theorem eq_of_letter_eq {k : LetterCase} {c x : Char} (hx : isSign x = true)
    (h : k.letter c = x) : c = x := by
  by_cases hc : c.toNat < 0x80
  · have hmem : x ∈ k.ofChar c := by
      rw [k.ofChar_of_ascii hc, h]
      exact List.mem_singleton_self x
    exact (eq_of_mem_ofChar hx hmem).symm
  · rwa [k.letter_of_le (by omega)] at h

theorem letter_letter (j k : LetterCase) (c : Char) : j.letter (k.letter c) = j.letter c := by
  by_cases hc : c.toNat < 0x80
  · revert c
    apply forall_ascii
    cases j <;> cases k <;> decide +kernel
  · rw [k.letter_of_le (by omega)]

theorem isAlpha_of_letter_ne {k : LetterCase} {c : Char} (h : k.letter c ≠ c) :
    c.isAlpha = true ∧ (k.letter c).isAlpha = true := by
  by_cases hc : c.toNat < 0x80
  · revert h
    revert c
    apply forall_ascii
    cases k <;> decide +kernel
  · exact absurd (k.letter_of_le (by omega)) h

/-- Small and capital letters pass the same tests, where all letters pass. -/
theorem apply_letter {p : Char → Bool} (hp : ∀ c, c.isAlpha = true → p c = true) (k : LetterCase)
    (c : Char) : p (k.letter c) = p c := by
  by_cases h : k.letter c = c
  · rw [h]
  · obtain ⟨hc, hletter⟩ := isAlpha_of_letter_ne h
    rw [hp c hc, hp (k.letter c) hletter]

theorem letter_lower_of_not_isUpper {c : Char} (hc : c.toNat < 0x80) :
    ¬ c.isUpper = true → lower.letter c = c := by
  revert c
  apply forall_ascii
  decide +kernel

theorem isUpper_of_letter_upper {c : Char} (hc : c.toNat < 0x80) :
    (upper.letter c).isAlpha = true → (upper.letter c).isUpper = true := by
  revert c
  apply forall_ascii
  decide +kernel

/-- Only a sigma is cased by what stands around it. -/
theorem lowerAfter_cons_of_ascii {c : Char} (hc : c.toNat < 0x80) (before t : Text) :
    lowerAfter before (c :: t) = c.toLower :: lowerAfter (c :: before) t := by
  have hsigma : c ≠ 'Σ' := by
    rintro rfl
    exact absurd hc (by decide)
  rw [lowerAfter, if_neg hsigma]
  exact congrArg (· ++ lowerAfter (c :: before) t) (lower.ofChar_of_ascii hc)

theorem lowerAfter_of_isAscii (before : Text) {t : Text} (ht : IsAscii t) :
    lowerAfter before t = t.map Char.toLower := by
  induction t generalizing before with
  | nil => rfl
  | cons c t ih =>
    obtain ⟨hc, ht⟩ := isAscii_cons.1 ht
    rw [lowerAfter_cons_of_ascii hc, ih (c :: before) ht, List.map_cons]

theorem recase_of_isAscii (k : LetterCase) {t : Text} (ht : IsAscii t) :
    k.recase t = t.map k.letter := by
  cases k with
  | lower => exact lowerAfter_of_isAscii [] ht
  | upper =>
    rw [List.map_eq_flatMap]
    exact List.flatMap_congr fun c hc => upper.ofChar_of_ascii (ht c hc)

theorem recaseFirst_of_ascii (k : LetterCase) {c : Char} (hc : c.toNat < 0x80) (t : Text) :
    k.recaseFirst (c :: t) = k.letter c :: t := by
  rw [recaseFirst, k.ofChar_of_ascii hc, List.singleton_append]

theorem ofLetter?_of_ascii {c : Char} (hc : c.toNat < 0x80) :
    ofLetter? c = if c.isLower then some lower else if c.isUpper then some upper else none := by
  rw [ofLetter?, isLowercase, isUppercase, if_pos hc, if_pos hc]

theorem ofLetter?_of_isSign {c : Char} (h : isSign c = true) : ofLetter? c = none := by
  obtain ⟨hupper, hlower⟩ := Bool.or_eq_false_iff.1 (not_isAlpha_of_isSign h)
  rw [ofLetter?_of_ascii (ascii_of_isSign h), hupper, hlower]
  rfl

/-- What is no letter is in either case, and a letter is in the case that it has. -/
theorem letter_eq_self_iff {k : LetterCase} {c : Char} (hc : c.toNat < 0x80) :
    k.letter c = c ↔ ofLetter? c = none ∨ ofLetter? c = some k := by
  revert c
  apply forall_ascii
  cases k <;> decide +kernel

end LetterCase

theorem ascii_of_isNameChar {c : Char} (h : isNameChar c = true) : c.toNat < 0x80 := by
  simp only [isNameChar, Char.isAlphanum, Bool.or_eq_true, beq_iff_eq] at h
  have hle {d : Char} (hd : d.toNat < 0x80) (hcd : c.val ≤ d.val) : c.toNat < 0x80 :=
    Nat.lt_of_le_of_lt (UInt32.le_iff_toNat_le.1 hcd) hd
  rcases h with (halpha | hdigit) | rfl
  · rcases Bool.or_eq_true_iff.1 halpha with hupper | hlower
    · exact hle (d := 'Z') (by decide) (of_decide_eq_true hupper).2
    · exact hle (d := 'z') (by decide) (of_decide_eq_true (Bool.and_eq_true_iff.1 hlower).2)
  · exact hle (d := '9') (by decide) (of_decide_eq_true (Bool.and_eq_true_iff.1 hdigit).2)
  · decide

theorem recaseFirst_ofLetter? {c : Char} (hc : c.toNat < 0x80) (k : LetterCase) (t : Text) :
    recaseFirst (LetterCase.ofLetter? c) (k.letter c :: t) = c :: t := by
  cases h : LetterCase.ofLetter? c with
  | none =>
    -- no letter at all, so that it was left as it is
    have hletter : k.letter c = c := (LetterCase.letter_eq_self_iff hc).2 (.inl h)
    rw [hletter]
    rfl
  | some j =>
    have hback : j.letter c = c := (LetterCase.letter_eq_self_iff hc).2 (.inr h)
    calc recaseFirst (some j) (k.letter c :: t)
        = j.letter (k.letter c) :: t := j.recaseFirst_of_ascii (k.ascii_letter hc) t
      _ = c :: t := by rw [LetterCase.letter_letter, hback]

end KeyNotation
