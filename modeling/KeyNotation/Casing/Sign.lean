import KeyNotation.Casing

/-!
# Signs and letter case

A sign is a character of ASCII that is neither a letter nor null. Casing leaves signs alone, and it
makes none of anything else.

* `Casing.forall_ascii` — laws of single characters of ASCII, checked one by one;
* `LetterCase.ofChar_of_isSign` — a sign is its own case;
* `LetterCase.eq_of_mem_ofChar` — a sign is in the case of no other character.
-/

namespace KeyNotation

def isSign (c : Char) : Bool := 0 < c.toNat && c.toNat < 0x80 && !c.isAlpha

namespace Casing

/-! ## the tables -/

/-- No character beyond ASCII is shifted onto a sign. -/
def avoidSigns (shifts : List (Span × Int)) : Bool :=
  shifts.all fun (s, n) =>
    0x80 ≤ s.first + n || (s.first == s.last && (Char.ofNat (s.first + n).toNat).isAlpha)

theorem avoidSigns_upperShifts : avoidSigns upperShifts = true := by decide +kernel

theorem avoidSigns_lowerShifts : avoidSigns lowerShifts = true := by decide +kernel

theorem upperExpansions_avoid_signs :
    (upperExpansions.all fun e => e.2.all fun x => !isSign x) = true := by decide +kernel

theorem lowerExpansions_avoid_signs :
    (lowerExpansions.all fun e => e.2.all fun x => !isSign x) = true := by decide +kernel

/-! ## characters -/

theorem isSign_eq_false_of_le {c : Char} (h : 0x80 ≤ c.toNat) : isSign c = false := by
  simp only [isSign, Bool.and_eq_false_iff, decide_eq_false_iff_not]
  exact .inl (.inr (by omega))

theorem toNat_ofNat_or (n : Nat) : (Char.ofNat n).toNat = n ∨ (Char.ofNat n).toNat = 0 := by
  by_cases h : n.isValidChar
  · have hn : Char.ofNat n = Char.ofNatAux n h := dif_pos h
    exact .inl (congrArg Char.toNat hn)
  · have hn : Char.ofNat n = '\x00' := dif_neg h
    exact .inr (congrArg Char.toNat hn)

theorem isSign_eq_false_of_eq_zero {c : Char} (h : c.toNat = 0) : isSign c = false := by
  simp [isSign, h]

theorem isSign_shift {shifts : List (Span × Int)} (h : avoidSigns shifts = true) {c : Char}
    (hc : 0x80 ≤ c.toNat) : isSign (shift shifts c) = false := by
  unfold shift
  split
  · rename_i s n hf
    have hs := List.find?_some hf
    have hn := List.all_eq_true.1 h _ (List.mem_of_find?_eq_some hf)
    simp only [Span.holds, Bool.and_eq_true, decide_eq_true_eq] at hs
    simp only [Bool.or_eq_true, decide_eq_true_eq, Bool.and_eq_true, beq_iff_eq] at hn
    cases hn with
    | inl hn =>
      cases toNat_ofNat_or (c.toNat + n).toNat with
      | inl ht => exact isSign_eq_false_of_le (by rw [ht]; omega)
      | inr ht => exact isSign_eq_false_of_eq_zero ht
    | inr hn =>
      rw [show c.toNat = s.first by omega]
      simp [isSign, hn.2]
  · exact isSign_eq_false_of_le hc

theorem isSign_of_mem_expand {expansions : List (Char × Text)} {shifts : List (Span × Int)}
    (he : (expansions.all fun e => e.2.all fun x => !isSign x) = true)
    (hs : avoidSigns shifts = true) {c x : Char} (hc : 0x80 ≤ c.toNat)
    (hx : x ∈ expand expansions shifts c) : isSign x = false := by
  unfold expand at hx
  split at hx
  · rename_i t ht
    obtain ⟨l₁, l₂, rfl, -⟩ := List.lookup_eq_some_iff.1 ht
    simp only [List.all_append, List.all_cons, Bool.and_eq_true] at he
    simpa using List.all_eq_true.1 he.2.1 x hx
  · obtain rfl := List.mem_singleton.1 hx
    exact isSign_shift hs hc

/-- A law of ASCII is checked character by character. -/
theorem forall_ascii {p : Char → Prop} (h : ∀ n < 0x80, p (Char.ofNat n)) (c : Char)
    (hc : c.toNat < 0x80) : p c := by
  have hp : p (Char.ofNat c.toNat) := h c.toNat hc
  rwa [Char.ofNat_toNat] at hp

theorem ascii_case {c : Char} (hc : c.toNat < 0x80) :
    (isSign c.toUpper = true → c.toUpper = c) ∧ (isSign c.toLower = true → c.toLower = c) ∧
      (isSign c = true → c.toUpper = c ∧ c.toLower = c) := by
  revert c
  apply forall_ascii
  decide +kernel

end Casing

namespace LetterCase

open Casing

theorem ofChar_of_isSign (k : LetterCase) {c : Char} (h : isSign c = true) : k.ofChar c = [c] := by
  have hc : c.toNat < 0x80 := by
    simp only [isSign, Bool.and_eq_true, decide_eq_true_eq] at h
    exact h.1.2
  obtain ⟨hu, hl⟩ := (ascii_case hc).2.2 h
  cases k <;> simp [ofChar, upperChar, lowerChar, hc, hu, hl]

theorem eq_of_mem_ofChar {k : LetterCase} {c x : Char} (hx : isSign x = true)
    (h : x ∈ k.ofChar c) : x = c := by
  by_cases hc : c.toNat < 0x80
  · obtain ⟨hu, hl, -⟩ := ascii_case hc
    cases k <;>
      simp only [ofChar, upperChar, lowerChar, hc, if_true, List.mem_singleton] at h <;>
      subst h
    · exact hu hx
    · exact hl hx
  · have hc' : 0x80 ≤ c.toNat := by omega
    cases k <;> simp only [ofChar, upperChar, lowerChar, hc, if_false] at h
    · have := isSign_of_mem_expand upperExpansions_avoid_signs avoidSigns_upperShifts hc' h
      simp [this] at hx
    · have := isSign_of_mem_expand lowerExpansions_avoid_signs avoidSigns_lowerShifts hc' h
      simp [this] at hx

end LetterCase

end KeyNotation
