import Mathlib.Logic.ExistsUnique
import KeyNotation.Proofs.Words
import KeyNotation.Words.Recase

/-!
# Texts parted at a divider

A divider of several characters can overlap itself, and then there is more than one way to write a
text as words with the divider between them. The words that count are those that are closed as soon
as they can be.

* `Closes d w` — behind the word `w`, the divider `d` stands for the first time;
* `Parts d t ws` — `d` parts `t` into the words `ws`;
* `cut?_eq_some_iff`, `cut?_eq_none_iff` — the first place of a divider;
* `parts_iff` — every text is parted in one way, that of `words`;
* `words_append_cons` — a single character parts what is before it and what is behind it on their
  own;
* `joinWords_eq_flatMap` — the words of a text, each in its case, made into one.
-/

namespace KeyNotation

/-- In `w ++ d`, the divider `d` stands nowhere but at the end. -/
def Closes (d w : Text) : Prop := ∀ a b, w ++ d = a ++ (d ++ b) → b = []

/-- The text `t` is the words `ws` with `d` between them, each but the last ending at the first `d`
there is, and the last without any. -/
structure Parts (d t : Text) (ws : List Text) : Prop where
  ne_nil : ws ≠ []
  joined : d.intercalate ws = t
  closed : ∀ w ∈ ws.dropLast, Closes d w
  open_last : ∀ w ∈ ws.getLast?, ¬ d <:+: w

/-! ## the first place of a divider -/

section

variable {d t a b : Text}

theorem cut?_of_append {c : Char} {rest : Text} (h : d ++ rest = c :: t) :
    cut? d (c :: t) = some ([], rest) := by
  rw [cut?, if_pos ⟨rest, h⟩, ← h, List.drop_left]

theorem cut?_cons_of_not {c : Char} (h : ¬ d <+: c :: t) :
    cut? d (c :: t) = (cut? d t).map fun (a, b) => (c :: a, b) :=
  if_neg h

theorem cut?_eq_none_iff (hd : d ≠ []) : cut? d t = none ↔ ¬ d <:+: t := by
  induction t with
  | nil => simp [cut?, hd]
  | cons c t ih =>
    rw [List.infix_cons_iff, not_or]
    by_cases hstarts : d <+: c :: t
    · obtain ⟨rest, hrest⟩ := hstarts
      rw [cut?_of_append hrest, ← hrest]
      simp
    · simp [cut?_cons_of_not hstarts, hstarts, ih]

theorem closes_of_cut? (h : cut? d t = some (a, b)) : Closes d a := by
  induction t generalizing a with
  | nil => cases h
  | cons c t ih =>
    by_cases hstarts : d <+: c :: t
    · obtain ⟨rest, hrest⟩ := hstarts
      rw [cut?_of_append hrest] at h
      cases h
      intro x y hxy
      have hlen := congrArg List.length hxy
      simp only [List.length_append, List.length_nil] at hlen
      exact List.eq_nil_of_length_eq_zero (by omega)
    · rw [cut?_cons_of_not hstarts] at h
      obtain ⟨⟨a', b'⟩, hs, he⟩ := Option.map_eq_some_iff.1 h
      cases he
      intro x y hxy
      cases x with
      | nil =>
        -- then it would have been found in front of `c`
        have hfront : d <+: c :: (a' ++ d) := ⟨y, hxy.symm⟩
        rw [← append_of_cut? hs, ← List.append_assoc] at hstarts
        exact absurd (hfront.trans (List.prefix_append (c :: (a' ++ d)) b)) hstarts
      | cons z x => exact ih hs x y (List.cons.inj hxy).2

theorem cut?_append (hd : d ≠ []) (h : Closes d a) (b : Text) :
    cut? d (a ++ (d ++ b)) = some (a, b) := by
  induction a with
  | nil =>
    obtain ⟨c, u, rfl⟩ := List.exists_cons_of_ne_nil hd
    exact cut?_of_append rfl
  | cons c a ih =>
    have hstarts : ¬ d <+: c :: (a ++ (d ++ b)) := by
      intro hp
      have hfront : d <+: c :: (a ++ d) := by
        refine List.prefix_of_prefix_length_le hp ⟨b, by simp⟩ ?_
        simp only [List.length_cons, List.length_append]
        omega
      obtain ⟨y, hy⟩ := hfront
      obtain rfl : y = [] := h [] y hy.symm
      have hlen := congrArg List.length hy
      simp only [List.length_cons, List.length_append, List.length_nil] at hlen
      omega
    have ha : Closes d a := fun x y hxy => h (c :: x) y (congrArg (c :: ·) hxy)
    rw [List.cons_append, cut?_cons_of_not hstarts, ih ha]
    rfl

theorem cut?_eq_some_iff (hd : d ≠ []) :
    cut? d t = some (a, b) ↔ t = a ++ (d ++ b) ∧ Closes d a := by
  constructor
  · intro h
    exact ⟨(append_of_cut? h).symm, closes_of_cut? h⟩
  · rintro ⟨rfl, ha⟩
    exact cut?_append hd ha b

end

/-! ## partings -/

section

variable {d t w v : Text} {ws : List Text}

theorem parts_singleton_iff : Parts d t [w] ↔ w = t ∧ ¬ d <:+: w := by
  constructor
  · intro h
    exact ⟨by simpa using h.joined, h.open_last w rfl⟩
  · rintro ⟨hw, hopen⟩
    exact ⟨by simp, by simpa using hw, by simp, by simpa using hopen⟩

theorem parts_cons_cons_iff :
    Parts d t (w :: v :: ws) ↔
      Closes d w ∧ ∃ rest, t = w ++ (d ++ rest) ∧ Parts d rest (v :: ws) := by
  constructor
  · rintro ⟨-, hjoined, hclosed, hopen⟩
    rw [List.dropLast_cons_cons, List.forall_mem_cons] at hclosed
    rw [List.getLast?_cons_cons] at hopen
    refine ⟨hclosed.1, d.intercalate (v :: ws), ?_, by simp, rfl, hclosed.2, hopen⟩
    rw [← hjoined, List.intercalate_cons_cons, List.append_assoc]
  · rintro ⟨hw, rest, rfl, -, hjoined, hclosed, hopen⟩
    refine ⟨by simp, ?_, ?_, ?_⟩
    · rw [List.intercalate_cons_cons, hjoined, List.append_assoc]
    · rw [List.dropLast_cons_cons]
      exact List.forall_mem_cons.2 ⟨hw, hclosed⟩
    · rwa [List.getLast?_cons_cons]

theorem parts_words (hd : d ≠ []) (t : Text) : Parts d t (words d t) := by
  induction t using words.induct d with
  | case1 t hnil => exact absurd hnil hd
  | case2 t hd hn =>
    rw [words_of_none hd hn]
    exact parts_singleton_iff.2 ⟨rfl, (cut?_eq_none_iff hd).1 hn⟩
  | case3 t hd word rest hs ih =>
    obtain ⟨ht, hword⟩ := (cut?_eq_some_iff hd).1 hs
    rw [words_of_some hd hs]
    obtain ⟨v, ws, hws⟩ := List.exists_cons_of_ne_nil ih.ne_nil
    rw [hws] at ih ⊢
    exact parts_cons_cons_iff.2 ⟨hword, rest, ht, ih⟩

/-- The induction is on the words: each is the one in front of the first place of the divider. -/
theorem words_of_parts (hd : d ≠ []) (h : Parts d t ws) : words d t = ws := by
  induction ws generalizing t with
  | nil => exact absurd rfl h.ne_nil
  | cons w ws ih =>
    cases ws with
    | nil =>
      obtain ⟨rfl, hopen⟩ := parts_singleton_iff.1 h
      exact words_of_none hd ((cut?_eq_none_iff hd).2 hopen)
    | cons v ws =>
      obtain ⟨hw, rest, ht, hrest⟩ := parts_cons_cons_iff.1 h
      rw [words_of_some hd ((cut?_eq_some_iff hd).2 ⟨ht, hw⟩), ih hrest]

theorem parts_iff (hd : d ≠ []) : Parts d t ws ↔ words d t = ws := by
  constructor
  · exact words_of_parts hd
  · rintro rfl
    exact parts_words hd t

end

/-! ## dividers of one character -/

theorem words_append_cons (x : Char) (a b : Text) :
    words [x] (a ++ x :: b) = words [x] a ++ words [x] b := by
  induction a using word_ind x with
  | last w hw => rw [words_append_of_not_mem hw, words_of_not_mem hw, List.singleton_append]
  | word w rest hw ih =>
    rw [List.append_assoc, List.cons_append, words_append_of_not_mem hw,
      words_append_of_not_mem hw, ih, List.cons_append]

/-! ## words made into one -/

theorem joinWords_of_parts {d : Text} (hd : d ≠ []) (first other : Option LetterCase) {t : Text}
    {ws : List Text} (h : Parts d t ws) :
    joinWords d first other t = ws.flatMap fun w => recaseFirst first (recase other w) := by
  rw [joinWords, if_neg hd, words_of_parts hd h]
  rfl

theorem joinWords_append_cons (x : Char) (first other : Option LetterCase) (a b : Text) :
    joinWords [x] first other (a ++ x :: b) =
      joinWords [x] first other a ++ joinWords [x] first other b := by
  simp only [joinWords, List.cons_ne_nil, if_false, words_append_cons, List.flatMap_append]

/-- A divider parts a text in exactly one way, and the words of the text are made into one by
putting each in its case. At a divider of one character, the two sides are made into one on their
own. -/
theorem joinWords_eq_flatMap {d : Text} (hd : d ≠ []) (first other : Option LetterCase) (t : Text) :
    (∃! ws, Parts d t ws) ∧
    (∀ ws, Parts d t ws →
      joinWords d first other t = ws.flatMap fun w => recaseFirst first (recase other w)) ∧
    ∀ x, d = [x] → ∀ a b,
      joinWords d first other (a ++ d ++ b) =
        joinWords d first other a ++ joinWords d first other b := by
  refine ⟨⟨words d t, parts_words hd t, fun ws h => (words_of_parts hd h).symm⟩, ?_, ?_⟩
  · intro ws h
    exact joinWords_of_parts hd first other h
  · rintro x rfl a b
    rw [List.append_assoc, List.singleton_append]
    exact joinWords_append_cons x first other a b

/-- The divider `aa` overlaps itself, and its first place counts: `BaaaC` is not `Ba` and `C`. -/
theorem joinWords_eq_flatMap_overlap :
    let d : Text := ['a', 'a']
    let t : Text := ['B', 'a', 'a', 'a', 'C']
    d ≠ [] ∧ (∃! ws, Parts d t ws) ∧ Parts d t [['B'], ['a', 'C']] ∧
      joinWords d (some .upper) (some .lower) t = ['B', 'A', 'c'] ∧
      joinWords ['a'] (some .upper) none (['B', 'a'] ++ ['a'] ++ ['a', 'C']) =
        joinWords ['a'] (some .upper) none ['B', 'a'] ++
          joinWords ['a'] (some .upper) none ['a', 'C'] := by
  intro d t
  have hd : d ≠ [] := by decide
  obtain ⟨hunique, hjoin, -⟩ := joinWords_eq_flatMap hd (some .upper) (some .lower) t
  obtain ⟨-, -, hsides⟩ :=
    joinWords_eq_flatMap (List.cons_ne_nil 'a' []) (some .upper) none ['B', 'a']
  have hparts : Parts d t [['B'], ['a', 'C']] := (parts_iff hd).2 (by cbv)
  refine ⟨hd, hunique, hparts, ?_, hsides 'a' rfl _ _⟩
  rw [hjoin _ hparts]
  rfl

end KeyNotation
