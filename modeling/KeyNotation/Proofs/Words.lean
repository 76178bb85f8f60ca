import Mathlib.Data.List.Basic
import KeyNotation.Words

/-!
# Words between dividers

* `words_of_none`, `words_of_some` — a text without a divider is one word, any other has its first
  word in front of the first divider;
* `words_of_not_mem`, `words_append_of_not_mem` — the same where a single character divides, and
  `word_ind` is the induction on the words;
* `flatten_words` — the words are then all but that character.
-/

namespace KeyNotation

theorem words_of_none {d t : Text} (hd : d ≠ []) (h : cut? d t = none) : words d t = [t] := by
  rw [words, if_neg hd]
  split
  · rfl
  · rename_i hs
    rw [h] at hs
    cases hs

theorem words_of_some {d t word rest : Text} (hd : d ≠ []) (h : cut? d t = some (word, rest)) :
    words d t = word :: words d rest := by
  rw [words, if_neg hd]
  split
  · rename_i hn
    rw [h] at hn
    cases hn
  · rename_i hs
    rw [h] at hs
    cases hs
    rfl

/-! ## dividers of one character -/

theorem cut?_singleton (x : Char) (t : Text) : cut? [x] t = splitFirst? x t := by
  induction t with
  | nil => rfl
  | cons c t ih =>
    by_cases hx : x = c
    · simp [cut?, splitFirst?, hx]
    · simp [cut?, splitFirst?, hx, Ne.symm hx, ih]

theorem cut?_singleton_eq_none_iff {x : Char} {t : Text} : cut? [x] t = none ↔ x ∉ t := by
  rw [cut?_singleton, splitFirst?_eq_none_iff]

theorem cut?_singleton_eq_some_iff {x : Char} {t word rest : Text} :
    cut? [x] t = some (word, rest) ↔ t = word ++ x :: rest ∧ x ∉ word := by
  rw [cut?_singleton, splitFirst?_eq_some_iff]

theorem words_of_not_mem {x : Char} {t : Text} (h : x ∉ t) : words [x] t = [t] :=
  words_of_none (List.cons_ne_nil x []) (cut?_singleton_eq_none_iff.2 h)

theorem words_append_of_not_mem {x : Char} {word : Text} (h : x ∉ word) (rest : Text) :
    words [x] (word ++ x :: rest) = word :: words [x] rest :=
  words_of_some (List.cons_ne_nil x []) (cut?_singleton_eq_some_iff.2 ⟨rfl, h⟩)

/-- A text is one word, or a word and a divider in front of another text. -/
theorem word_ind (x : Char) {motive : Text → Prop} (last : ∀ word, x ∉ word → motive word)
    (word : ∀ word rest, x ∉ word → motive rest → motive (word ++ x :: rest)) (t : Text) :
    motive t := by
  induction t using words.induct [x] with
  | case1 t hd => cases hd
  | case2 t hd hn => exact last t (cut?_singleton_eq_none_iff.1 hn)
  | case3 t hd w rest hs ih =>
    obtain ⟨rfl, hw⟩ := cut?_singleton_eq_some_iff.1 hs
    exact word w rest hw ih

theorem filter_ne_of_not_mem {x : Char} {t : Text} (h : x ∉ t) : t.filter (· ≠ x) = t := by
  refine List.filter_eq_self.2 fun c hc => decide_eq_true ?_
  rintro rfl
  exact h hc

theorem flatten_words (x : Char) (t : Text) : (words [x] t).flatten = t.filter (· ≠ x) := by
  induction t using word_ind x with
  | last w hw => rw [words_of_not_mem hw, List.flatten_singleton, filter_ne_of_not_mem hw]
  | word w rest hw ih =>
    rw [words_append_of_not_mem hw, List.flatten_cons, ih, List.filter_append,
      filter_ne_of_not_mem hw, List.filter_cons_of_neg (by simp)]

end KeyNotation
