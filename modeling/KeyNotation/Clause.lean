import KeyNotation.JoinKind
import KeyNotation.Name
import KeyNotation.Relation

/-!
# Clauses

A clause says that a field of the joined table relates to a field of another table. As a key of a
request it is written `!contactIdList<>@`: a negation, a field, the suffix of a relation, and the
terminator `@`.

* `Clause.render c` — the key that `c` is written as;
* `Clause.cut raw` — the key without terminator and suffix, and the relation of that suffix;
* `Clause.readWith reader kind table raw` — the clause that `raw` writes, where `reader` takes the
  negation off; `Clause.read` takes `NegationReader.bang`.
-/

namespace KeyNotation

/-! ## negation -/

/-- A key and whether it is negated, after the sign of that was taken off. -/
structure Negation where
  negated : Bool
  key : Text
  deriving DecidableEq, Repr

/-- Any function may say how negation is written. -/
abbrev NegationReader := Text → Negation

/-- One exclamation mark in front negates. -/
def NegationReader.bang : NegationReader
  | '!' :: key => ⟨true, key⟩
  | key => ⟨false, key⟩

/-- The sign `c` negates, written once or more often. -/
def NegationReader.repeated (c : Char) : NegationReader := fun key =>
  ⟨key.head? == some c, key.dropWhile (· == c)⟩

def NegationReader.never : NegationReader := fun key => ⟨false, key⟩

/-! ## clauses -/

structure Clause where
  negated : Bool
  relation : Relation
  key : Text
  deriving DecidableEq, Repr

namespace Clause

def render (c : Clause) : Text :=
  (if c.negated then ['!'] else []) ++ c.key ++ c.relation.suffix ++ ['@']

def cut (raw : Text) : Except Fault (Text × Relation) :=
  match ['@'].isSuffixOf? raw with
  | none => .error .noTerminator
  | some body =>
    match Relation.split body with
    | .error fault => .error fault
    | .ok (stem, relation) =>
      if '&' ∈ stem ∨ '|' ∈ stem then .error (.logicSign stem) else .ok (stem, relation)

def readWith (reader : NegationReader) (kind : JoinKind) (table raw : Text) :
    Except KeyError Clause :=
  match cut raw with
  | .error fault => .error (.malformed ⟨kind.symbol, table, raw⟩ fault)
  | .ok (stem, relation) =>
    let ⟨negated, key⟩ := reader stem
    if isName key then .ok ⟨negated, relation, key⟩
    else .error (.badName ⟨kind.symbol, table, raw⟩ key)

def read (kind : JoinKind) (table raw : Text) : Except KeyError Clause :=
  readWith .bang kind table raw

/-- A field that ends in an underscore would lend it to a pattern that can take one more mark. -/
def WellFormed (c : Clause) : Prop :=
  isName c.key = true ∧ c.relation.Canonical ∧
    (c.relation.takesMark = true → c.key.getLast? ≠ some '_')

instance : DecidablePred WellFormed := fun c => by unfold WellFormed; infer_instance

end Clause

end KeyNotation
