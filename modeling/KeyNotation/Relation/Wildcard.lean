import KeyNotation.Text

/-!
# Wildcards

The marks that stand in front of the `$` of a pattern relation. A pattern has none, one or two of
them; a single one is trailing.
-/

namespace KeyNotation

inductive Wildcard where
  | percent
  | underscore
  | question
  deriving DecidableEq, Repr

namespace Wildcard

def char : Wildcard → Char
  | percent => '%'
  | underscore => '_'
  | question => '?'

def ofChar? : Char → Option Wildcard
  | '%' => some percent
  | '_' => some underscore
  | '?' => some question
  | _ => none

theorem ofChar?_eq_some_iff {c : Char} {w : Wildcard} : ofChar? c = some w ↔ c = w.char := by
  constructor
  · intro h
    unfold ofChar? at h
    split at h <;> simp_all [char] <;> subst h <;> rfl
  · rintro rfl
    cases w <;> rfl

end Wildcard

/-- The marks of a pattern, in the order in which they are written. -/
structure Marks where
  leading : Option Wildcard
  trailing : Option Wildcard
  deriving DecidableEq, Repr

namespace Marks

def empty : Marks := ⟨none, none⟩

def single (w : Wildcard) : Marks := ⟨none, some w⟩

def pair (leading trailing : Wildcard) : Marks := ⟨some leading, some trailing⟩

def render (m : Marks) : Text := (m.leading.toList ++ m.trailing.toList).map Wildcard.char

/-- Marks that a key can carry: none stands twice, and one alone is trailing and not the question
mark. -/
def Canonical : Marks → Prop
  | ⟨none, none⟩ => True
  | ⟨none, some w⟩ => w ≠ .question
  | ⟨some v, some w⟩ => v ≠ w
  | ⟨some _, none⟩ => False

instance : DecidablePred Canonical
  | ⟨none, none⟩ => inferInstanceAs (Decidable True)
  | ⟨none, some w⟩ => inferInstanceAs (Decidable (w ≠ .question))
  | ⟨some v, some w⟩ => inferInstanceAs (Decidable (v ≠ w))
  | ⟨some _, none⟩ => inferInstanceAs (Decidable False)

end Marks

end KeyNotation
