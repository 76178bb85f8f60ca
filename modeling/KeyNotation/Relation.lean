import KeyNotation.Error

/-!
# Relations

How the field of a reference key compares with the field that it refers to, and the suffix that
says so.

* `Relation.suffix r` — the suffix that `r` is written with;
* `Relation.Canonical r` — `r` has a suffix that reads back as `r`;
* `Relation.split t` — `t` without its longest suffix of a canonical relation, and that relation.
-/

namespace KeyNotation

inductive Relation where
  | exact
  | oneToMany
  | manyToOne
  | like (marks : Marks)
  | regex (caseSensitive : Bool)
  | greaterEqual
  | lessEqual
  | greater
  | less
  deriving DecidableEq, Repr

namespace Relation

def suffix : Relation → Text
  | exact => []
  | oneToMany => ['{', '}']
  | manyToOne => ['<', '>']
  | like m => m.render ++ ['$']
  | regex true => ['~']
  | regex false => ['*', '~']
  | greaterEqual => ['>', '=']
  | lessEqual => ['<', '=']
  | greater => ['>']
  | less => ['<']

def Canonical : Relation → Prop
  | like m => m.Canonical
  | _ => True

instance : DecidablePred Canonical := fun r => by
  cases r <;> unfold Canonical <;> infer_instance

/-- A mark in front of the suffix would be read as part of it. -/
def takesMark : Relation → Bool
  | like ⟨none, _⟩ => true
  | _ => false

/-! ## reading a suffix -/

/-- The relations but the patterns, each before those whose suffix is the end of its own. -/
def plain : List Relation :=
  [oneToMany, manyToOne, regex false, regex true, greaterEqual, lessEqual, greater, less]

def takeWildcard? (t : Text) : Option (Text × Wildcard) := do
  let w ← Wildcard.ofChar? (← t.getLast?)
  return (t.dropLast, w)

/-- The marks in front of a `$` that is taken off already. -/
def splitMarks (t : Text) : Except Fault (Text × Marks) :=
  match takeWildcard? t with
  | none => .ok (t, .empty)
  | some (stem, last) =>
    match takeWildcard? stem with
    | some (stem, previous) =>
      if previous = last then .error (.repeatedWildcard last) else .ok (stem, .pair previous last)
    | none => if last = .question then .error .loneQuestion else .ok (stem, .single last)

def split (t : Text) : Except Fault (Text × Relation) :=
  match ['$'].isSuffixOf? t with
  | some stem =>
    match splitMarks stem with
    | .ok (stem, marks) => .ok (stem, like marks)
    | .error fault => .error fault
  | none =>
    .ok ((plain.findSome? fun r => (r.suffix.isSuffixOf? t).map (·, r)).getD (t, exact))

end Relation

end KeyNotation
