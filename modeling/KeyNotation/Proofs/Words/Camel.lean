import KeyNotation.Casing.Sign
import KeyNotation.Proofs.Words
import KeyNotation.Words.Recase

/-!
# Small letters in front and capitals inside

A divider is taken out for good if casing the words around it cannot bring it back. That holds of
every character that is the upper or lower case of itself alone.

* `LetterCase.ofCharAt k before c after` — the character `c` in the case `k`, where it stands;
* `Apart x` — no character but `x` has `x` in its upper or lower case;
* `apart_iff` — the same for characters on their own; what is left is the sigma, which has two small
  forms;
* `Apart.not_mem_recase`, `Apart.not_mem_recaseFirst` — casing a text brings no such character in;
* `Apart.not_mem_joinWords` — such a divider is in no text whose words were made into one;
* `Apart.not_mem_camel`, `Apart.camel_ne_iff` — such a divider in the camel case of a text;
* `camel_of_mem_signCamels` — the camel cases at single signs.
-/

namespace KeyNotation

namespace LetterCase

open Casing

/-- The text before `c` is given from its last character on. -/
def ofCharAt (k : LetterCase) (before : Text) (c : Char) (after : Text) : Text :=
  match k with
  | upper => upperChar c
  | lower => if c = 'Σ' then [lowerSigma before after] else lowerChar c

theorem ofCharAt_nil (k : LetterCase) (c : Char) : k.ofCharAt [] c [] = k.ofChar c := by
  cases k with
  | upper => rfl
  | lower =>
    by_cases hc : c = 'Σ'
    · subst hc
      decide +kernel
    · exact if_neg hc

theorem lowerAfter_cons (before : Text) (c : Char) (t : Text) :
    lowerAfter before (c :: t) = lower.ofCharAt before c t ++ lowerAfter (c :: before) t := rfl

end LetterCase

/-! ## characters that are the case of themselves alone -/

/-- Both small forms of the sigma count as the lower case of the capital one. -/
def Apart (x : Char) : Prop :=
  ∀ (k : LetterCase) (before : Text) (c : Char) (after : Text),
    x ∈ k.ofCharAt before c after → c = x

theorem lowerSigma_eq_or (before after : Text) :
    Casing.lowerSigma before after = 'ς' ∨ Casing.lowerSigma before after = 'σ' := by
  unfold Casing.lowerSigma
  split
  · exact .inl rfl
  · exact .inr rfl

theorem apart_iff {x : Char} :
    Apart x ↔ (∀ (k : LetterCase) (c : Char), x ∈ k.ofChar c → c = x) ∧ x ≠ 'ς' := by
  constructor
  · intro h
    refine ⟨fun k c hx => h k [] c [] (by rwa [LetterCase.ofCharAt_nil]), ?_⟩
    rintro rfl
    have hfinal : 'ς' ∈ LetterCase.lower.ofCharAt ['a'] 'Σ' [] := by decide +kernel
    exact absurd (h .lower ['a'] 'Σ' [] hfinal) (by decide)
  · rintro ⟨h, hfinal⟩ k before c after hx
    -- the sigma alone is cased by what stands around it
    by_cases hsigma : k = .lower ∧ c = 'Σ'
    · obtain ⟨rfl, rfl⟩ := hsigma
      refine h .lower 'Σ' ?_
      have hx : x = Casing.lowerSigma before after := List.mem_singleton.1 hx
      have hsmall : x = 'σ' := by
        rcases lowerSigma_eq_or before after with hς | hσ
        · exact absurd (hx.trans hς) hfinal
        · exact hx.trans hσ
      rw [hsmall]
      decide +kernel
    · refine h k c ?_
      cases k with
      | upper => exact hx
      | lower =>
        have hc : c ≠ 'Σ' := fun hc => hsigma ⟨rfl, hc⟩
        rwa [LetterCase.ofCharAt, if_neg hc] at hx

theorem apart_of_isSign {x : Char} (hx : isSign x = true) : Apart x := by
  refine apart_iff.2 ⟨fun k c hmem => (LetterCase.eq_of_mem_ofChar hx hmem).symm, ?_⟩
  rintro rfl
  exact absurd hx (by decide)

/-! ## the divider in a text -/

theorem camel_of_not_mem {x : Char} {t : Text} (h : x ∉ t) : camel [x] t = t :=
  if_pos (.inr (cut?_singleton_eq_none_iff.2 h))

theorem camel_of_mem {x : Char} {t : Text} (h : x ∈ t) :
    camel [x] t = LetterCase.lower.recaseFirst (capitalWords [x] t) := by
  refine if_neg ?_
  rw [cut?_singleton_eq_none_iff, not_or]
  exact ⟨List.cons_ne_nil x [], not_not_intro h⟩

/-! ## casing brings nothing back -/

namespace Apart

variable {x : Char} {t : Text}

theorem not_mem_ofCharAt (hx : Apart x) (k : LetterCase) (before after : Text) {c : Char}
    (h : x ≠ c) : x ∉ k.ofCharAt before c after :=
  fun hmem => h (hx k before c after hmem).symm

theorem not_mem_lowerAfter (hx : Apart x) (before : Text) (h : x ∉ t) :
    x ∉ Casing.lowerAfter before t := by
  induction t generalizing before with
  | nil => exact List.not_mem_nil
  | cons c t ih =>
    obtain ⟨hc, ht⟩ := not_or.1 (mt List.mem_cons.2 h)
    rw [LetterCase.lowerAfter_cons, List.mem_append, not_or]
    exact ⟨hx.not_mem_ofCharAt .lower before t hc, ih (c :: before) ht⟩

theorem not_mem_recase (hx : Apart x) (k : LetterCase) (h : x ∉ t) : x ∉ k.recase t := by
  cases k with
  | lower => exact hx.not_mem_lowerAfter [] h
  | upper =>
    intro hmem
    obtain ⟨c, hc, hxc⟩ := List.mem_flatMap.1 hmem
    have hcx : c = x := hx .upper [] c [] hxc
    rw [hcx] at hc
    exact h hc

theorem not_mem_recaseFirst (hx : Apart x) (k : LetterCase) (h : x ∉ t) : x ∉ k.recaseFirst t := by
  cases t with
  | nil => exact List.not_mem_nil
  | cons c t =>
    obtain ⟨hc, ht⟩ := not_or.1 (mt List.mem_cons.2 h)
    rw [LetterCase.recaseFirst, List.mem_append, not_or, ← LetterCase.ofCharAt_nil]
    exact ⟨hx.not_mem_ofCharAt k [] [] hc, ht⟩

theorem not_mem_recaseWord (hx : Apart x) (first other : Option LetterCase) (h : x ∉ t) :
    x ∉ recaseWord first other t := by
  have hother : x ∉ recase other t := by
    cases other with
    | none => exact h
    | some k => exact hx.not_mem_recase k h
  cases first with
  | none => exact hother
  | some k => exact hx.not_mem_recaseFirst k hother

theorem not_mem_joinWords (hx : Apart x) (first other : Option LetterCase) (t : Text) :
    x ∉ joinWords [x] first other t := by
  rw [joinWords, if_neg (List.cons_ne_nil x []), List.mem_flatMap]
  rintro ⟨w, hw, hmem⟩
  have hword : x ∉ w := by
    intro hxw
    have hflat : x ∈ (words [x] t).flatten := List.mem_flatten.2 ⟨w, hw, hxw⟩
    rw [flatten_words] at hflat
    exact of_decide_eq_true (List.mem_filter.1 hflat).2 rfl
  exact hx.not_mem_recaseWord first other hword hmem

theorem not_mem_camel (hx : Apart x) (t : Text) : x ∉ camel [x] t := by
  by_cases h : x ∈ t
  · rw [camel_of_mem h]
    exact hx.not_mem_recaseFirst .lower (hx.not_mem_joinWords (some .upper) (some .lower) t)
  · rwa [camel_of_not_mem h]

theorem camel_ne_iff (hx : Apart x) : camel [x] t ≠ t ↔ x ∈ t := by
  constructor
  · intro hne
    by_contra h
    exact hne (camel_of_not_mem h)
  · intro h heq
    exact hx.not_mem_camel t (by rwa [heq])

end Apart

/-! ## words between signs -/

/-- The signs that words can stand between, each with the camel case that takes it out. -/
def signCamels : List (Char × (Text → Text)) :=
  [('-', camelHyphen), ('_', camelUnderline), ('$', camelDollar), ('.', camelDot),
    ('/', camelSlash)]

theorem eq_camel_of_mem_signCamels :
    ∀ e ∈ signCamels, isSign e.1 = true ∧ e.2 = camel [e.1] := by
  simp only [signCamels, List.forall_mem_cons]
  exact ⟨⟨rfl, rfl⟩, ⟨rfl, rfl⟩, ⟨rfl, rfl⟩, ⟨rfl, rfl⟩, ⟨rfl, rfl⟩, List.forall_mem_nil _⟩

/-- The sign is gone after one pass, so a second pass changes nothing. -/
theorem camel_of_mem_signCamels {x : Char} {f : Text → Text} (h : (x, f) ∈ signCamels) (t : Text) :
    x ∉ f t ∧ f (f t) = f t := by
  obtain ⟨hx, rfl⟩ : isSign x = true ∧ f = camel [x] := eq_camel_of_mem_signCamels _ h
  have hnot : x ∉ camel [x] t := (apart_of_isSign hx).not_mem_camel t
  exact ⟨hnot, camel_of_not_mem hnot⟩

theorem not_mem_slashWords (first : Option LetterCase) (t : Text) : '/' ∉ slashWords first t :=
  (apart_of_isSign rfl).not_mem_joinWords first (some .lower) t

/-! ## dividers taken out for good -/

/-- A divider that is the case of itself alone, such as any of the signs below, is taken out for
good. What has none is left as it is, and so a second time changes nothing. -/
theorem camel_camel :
    (∀ x ∈ ['-', '_', '$', '.', '/'], Apart x) ∧
    ∀ x, Apart x → ∀ t,
      x ∉ camel [x] t ∧ (camel [x] t ≠ t ↔ x ∈ t) ∧ camel [x] (camel [x] t) = camel [x] t := by
  constructor
  · intro x hx
    have hsigns : ∀ x ∈ ['-', '_', '$', '.', '/'], isSign x = true :=
      List.all_eq_true.1 (by decide)
    exact apart_of_isSign (hsigns x hx)
  · intro x hx t
    have hnot := hx.not_mem_camel t
    exact ⟨hnot, hx.camel_ne_iff, camel_of_not_mem hnot⟩

/-- The first word ends in a small sigma of the other form, and the second gets longer. -/
theorem camel_camel_dot :
    let t : Text := ['A', 'Σ', '.', 'ß', 'x']
    '.' ∈ ['-', '_', '$', '.', '/'] ∧ Apart '.' ∧ camel ['.'] t = ['a', 'ς', 'S', 'S', 'x'] ∧
      '.' ∉ camel ['.'] t ∧ (camel ['.'] t ≠ t ↔ '.' ∈ t) ∧
      camel ['.'] (camel ['.'] t) = camel ['.'] t := by
  intro t
  have hmem : '.' ∈ ['-', '_', '$', '.', '/'] := by decide
  have hdot : Apart '.' := camel_camel.1 '.' hmem
  have hwords : words ['.'] t = [['A', 'Σ'], ['ß', 'x']] := by cbv
  have hcamel : camel ['.'] t = ['a', 'ς', 'S', 'S', 'x'] := by
    rw [camel_of_mem (by decide), capitalWords_singleton, hwords]
    decide +kernel
  exact ⟨hmem, hdot, hcamel, camel_camel.2 '.' hdot t⟩

end KeyNotation
