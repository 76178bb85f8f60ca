/-!
# Texts

A text is a list of characters, so that its parts are those of a list. An ending is taken off with
`isSuffixOf?` of the library; what is added here cuts a text in two at one character.

* `splitFirst? c t` — `t` before and after the first `c`;
* `splitLast? c t` — `t` before and after the last `c`.

Both are characterised by an equivalence: the two halves with `c` between them give the text back,
and the half that was searched holds no `c`.
-/

namespace KeyNotation

abbrev Text := List Char

instance : Coe String Text := ⟨String.toList⟩

/-! ## cutting at a character -/

def splitFirst? (c : Char) : Text → Option (Text × Text)
  | [] => none
  | x :: t => if x = c then some ([], t) else (splitFirst? c t).map fun (a, b) => (x :: a, b)

def splitLast? (c : Char) : Text → Option (Text × Text)
  | [] => none
  | x :: t =>
    match splitLast? c t with
    | some (a, b) => some (x :: a, b)
    | none => if x = c then some ([], t) else none

theorem splitFirst?_eq_none_iff {c : Char} {t : Text} : splitFirst? c t = none ↔ c ∉ t := by
  induction t with
  | nil => simp [splitFirst?]
  | cons x t ih =>
    by_cases h : x = c
    · simp [splitFirst?, h]
    · simp [splitFirst?, h, ih, Ne.symm h]

theorem splitFirst?_eq_some_iff {c : Char} {t a b : Text} :
    splitFirst? c t = some (a, b) ↔ t = a ++ c :: b ∧ c ∉ a := by
  induction t generalizing a with
  | nil => simp [splitFirst?]
  | cons x t ih =>
    by_cases h : x = c
    · cases a <;> grind [splitFirst?]
    · cases a with
      | nil => simp [splitFirst?, h]
      | cons y a =>
        simp only [splitFirst?, h, if_false, Option.map_eq_some_iff, Prod.exists, Prod.mk.injEq,
          List.cons.injEq, List.cons_append, List.mem_cons, not_or]
        constructor
        · rintro ⟨a', b', hs, ⟨rfl, rfl⟩, rfl⟩
          exact ⟨⟨rfl, (ih.1 hs).1⟩, Ne.symm h, (ih.1 hs).2⟩
        · rintro ⟨⟨rfl, ht⟩, -, ha⟩
          exact ⟨a, b, ih.2 ⟨ht, ha⟩, ⟨rfl, rfl⟩, rfl⟩

theorem splitLast?_eq_none_iff {c : Char} {t : Text} : splitLast? c t = none ↔ c ∉ t := by
  induction t with
  | nil => simp [splitLast?]
  | cons x t ih => cases h : splitLast? c t <;> grind [splitLast?]

theorem splitLast?_eq_some_iff {c : Char} {t a b : Text} :
    splitLast? c t = some (a, b) ↔ t = a ++ c :: b ∧ c ∉ b := by
  induction t generalizing a with
  | nil => simp [splitLast?]
  | cons x t ih =>
    cases h : splitLast? c t with
    | some p =>
      obtain ⟨a', b'⟩ := p
      have hc : c ∈ t := by
        rw [← Decidable.not_not (p := c ∈ t), ← splitLast?_eq_none_iff]
        simp [h]
      cases a with
      | nil => grind [splitLast?]
      | cons y a =>
        have := @ih a
        grind [splitLast?]
    | none =>
      have := splitLast?_eq_none_iff.1 h
      cases a <;> grind [splitLast?]

end KeyNotation
