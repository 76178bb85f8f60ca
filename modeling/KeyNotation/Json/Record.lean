import KeyNotation.Json

/-!
# Records and variants in JSON

A record is an object with an entry for each field, in any order and among others, or an array of
the fields in their order. A variant is the text of its name or, if it holds something, an object
with one entry under that name.

* `Json.field? i name j` — the field of `j` that is called `name` and stands in place `i`;
* `Json.required`, `Json.optional`, `Json.defaulted` — a field read, where a missing one is an
  error, is nothing, or has a value;
* `Json.variant? j` — the name of a variant, and what it holds.
-/

namespace KeyNotation

namespace Json

variable {α : Type}

/-! ## scalars -/

def bool? : Json → Option Bool
  | bool b => some b
  | _ => none

def text? : Json → Option Text
  | str t => some t
  | _ => none

def ofWord (n : UInt32) : Json := num (.int n.toNat)

def word? : Json → Option UInt32
  | num (.int n) => if 0 ≤ n ∧ n < UInt32.size then some (UInt32.ofNat n.toNat) else none
  | _ => none

def ofOption (encode : α → Json) : Option α → Json
  | some a => encode a
  | none => null

/-- Null is nothing. -/
def option? (decode? : Json → Option α) : Json → Option (Option α)
  | null => some none
  | j => (decode? j).map some

def list? (decode? : Json → Option α) : Json → Option (List α)
  | arr items => items.mapM decode?
  | _ => none

/-! ## records -/

def field? (i : Nat) (name : Text) : Json → Option Json
  | obj entries => entries.lookup name
  | arr items => items[i]?
  | _ => none

/-- An object, or an array of as many items as the record has fields. -/
def isRecord (size : Nat) : Json → Bool
  | obj _ => true
  | arr items => items.length == size
  | _ => false

/-- An object, or an array of at most as many items as the record has fields. -/
def isPartialRecord (size : Nat) : Json → Bool
  | obj _ => true
  | arr items => items.length ≤ size
  | _ => false

def required (decode? : Json → Option α) (i : Nat) (name : Text) (j : Json) : Option α :=
  (j.field? i name).bind decode?

def optional (decode? : Json → Option α) (i : Nat) (name : Text) (j : Json) : Option (Option α) :=
  match j.field? i name with
  | some v => option? decode? v
  | none => some none

def defaulted (decode? : Json → Option α) (default : α) (i : Nat) (name : Text) (j : Json) :
    Option α :=
  match j.field? i name with
  | some v => decode? v
  | none => some default

/-! ## variants -/

def variant? : Json → Option (Text × Option Json)
  | str name => some (name, none)
  | obj [(name, v)] => some (name, some v)
  | _ => none

/-- What a variant holds is nothing. -/
def isUnit : Option Json → Bool
  | none => true
  | some null => true
  | some _ => false

/-- The member of `all` whose label the variant names. -/
def unitOf? (all : List α) (label : α → Text) (j : Json) : Option α :=
  match j.variant? with
  | some (name, content) => if isUnit content then all.find? (label · = name) else none
  | none => none

end Json

end KeyNotation
