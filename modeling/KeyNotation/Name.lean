import KeyNotation.Text

/-!
# Names

A name is what a table, an alias or a field may be called: a letter or an underscore of ASCII,
then letters, digits and underscores.

* `isName t` — the whole text is a name;
* `Name.read t` — the longest name that `t` starts with, and the rest of `t`.
-/

namespace KeyNotation

def isNameStart (c : Char) : Bool := c.isAlpha || c == '_'

def isNameChar (c : Char) : Bool := c.isAlphanum || c == '_'

def isName : Text → Bool
  | [] => false
  | c :: t => isNameStart c && t.all isNameChar

theorem isName_cons {c : Char} {t : Text} :
    isName (c :: t) = true ↔ isNameStart c = true ∧ ∀ x ∈ t, isNameChar x = true := by
  simp [isName]

theorem isNameChar_of_isNameStart {c : Char} (h : isNameStart c = true) : isNameChar c = true := by
  simp only [isNameStart, isNameChar, Char.isAlphanum, Bool.or_eq_true] at h ⊢
  exact h.imp_left .inl

theorem forall_of_isName {t : Text} (h : isName t = true) : ∀ c ∈ t, isNameChar c = true := by
  cases t with
  | nil => simp
  | cons c t =>
    obtain ⟨hc, ht⟩ := isName_cons.1 h
    exact List.forall_mem_cons.2 ⟨isNameChar_of_isNameStart hc, ht⟩

theorem not_mem_of_isName {t : Text} (h : isName t = true) {x : Char} (hx : isNameChar x = false) :
    x ∉ t := by
  intro hmem
  rw [forall_of_isName h x hmem] at hx
  cases hx

theorem ne_nil_of_isName {t : Text} (h : isName t = true) : t ≠ [] := by
  rintro rfl
  simp [isName] at h

/-- The longest name at the front of a text, and what follows it. -/
def Name.read : Text → Option (Text × Text)
  | [] => none
  | c :: t =>
    if isNameStart c then some (c :: t.takeWhile isNameChar, t.dropWhile isNameChar) else none

theorem Name.append_of_read {t name rest : Text} (h : Name.read t = some (name, rest)) :
    name ++ rest = t := by
  cases t with
  | nil => simp [Name.read] at h
  | cons c t =>
    simp only [Name.read, Option.ite_none_right_eq_some, Option.some.injEq, Prod.mk.injEq] at h
    obtain ⟨-, rfl, rfl⟩ := h
    simp [List.takeWhile_append_dropWhile]

end KeyNotation
