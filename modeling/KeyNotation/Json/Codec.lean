import KeyNotation.Join
import KeyNotation.Json.Record
import KeyNotation.Toggles

/-!
# The JSON forms of the library's types

For each type `T`, `T.encode` gives the form of a value and `T.decode?` reads one. Kinds of join,
wildcards and relations are variants, all else are records. Texts are taken as they are: a decoded
name need not be a name.
-/

namespace KeyNotation

open Json

/-! ## variants -/

namespace JoinKind

def label : JoinKind → Text
  | app => "App"
  | left => "Left"
  | right => "Right"
  | cross => "Cross"
  | inner => "Inner"
  | full => "Full"
  | outer => "Outer"
  | side => "Side"
  | anti => "Anti"
  | foreign => "Foreign"
  | asof => "Asof"

def encode (k : JoinKind) : Json := str k.label

def decode? (j : Json) : Option JoinKind := unitOf? all label j

end JoinKind

namespace Wildcard

def all : List Wildcard := [percent, underscore, question]

theorem mem_all (w : Wildcard) : w ∈ all := by cases w <;> decide

def label : Wildcard → Text
  | percent => "Percent"
  | underscore => "Underscore"
  | question => "Question"

def encode (w : Wildcard) : Json := str w.label

def decode? (j : Json) : Option Wildcard := unitOf? all label j

end Wildcard

namespace Marks

def encode (m : Marks) : Json :=
  obj [("leading", ofOption Wildcard.encode m.leading),
    ("trailing", ofOption Wildcard.encode m.trailing)]

def decode? (j : Json) : Option Marks :=
  if j.isRecord 2 then do
    return { leading := ← optional Wildcard.decode? 0 "leading" j
             trailing := ← optional Wildcard.decode? 1 "trailing" j }
  else none

end Marks

namespace Relation

/-- The relations without content. -/
def units : List Relation :=
  [exact, oneToMany, manyToOne, greaterEqual, lessEqual, greater, less]

def label : Relation → Text
  | exact => "Exact"
  | oneToMany => "OneToMany"
  | manyToOne => "ManyToOne"
  | like _ => "Like"
  | regex _ => "Regex"
  | greaterEqual => "GreaterEqual"
  | lessEqual => "LessEqual"
  | greater => "Greater"
  | less => "Less"

def encode (r : Relation) : Json :=
  match r with
  | like m => obj [(r.label, m.encode)]
  | regex b => obj [(r.label, obj [("case_sensitive", bool b)])]
  | _ => str r.label

/-- The content of a regular expression has its field by name only. -/
def decode? (j : Json) : Option Relation :=
  match j.variant? with
  | some (name, some content) =>
    if name = (like .empty).label then (Marks.decode? content).map like
    else if name = (regex true).label then
      match content with
      | obj entries => (required bool? 0 "case_sensitive" (obj entries)).map regex
      | _ => none
    else unitOf? units label j
  | _ => unitOf? units label j

end Relation

/-! ## records -/

namespace Clause

def encode (c : Clause) : Json :=
  obj [("negated", bool c.negated), ("relation", c.relation.encode), ("key", str c.key)]

def decode? (j : Json) : Option Clause :=
  if j.isRecord 3 then do
    return { negated := ← required bool? 0 "negated" j
             relation := ← required Relation.decode? 1 "relation" j
             key := ← required text? 2 "key" j }
  else none

end Clause

namespace Reference

def encode (r : Reference) : Json :=
  obj [("table", str r.source.table), ("alias", ofOption str r.source.aliased), ("key", str r.key)]

def decode? (j : Json) : Option Reference :=
  if j.isRecord 3 then do
    return { source := { table := ← required text? 0 "table" j
                         aliased := ← optional text? 1 "alias" j }
             key := ← required text? 2 "key" j }
  else none

end Reference

namespace Join

def Binding.encode (b : Binding) : Json :=
  obj [("origin_key", str b.key), ("origin_value", str b.value), ("clause", b.clause.encode),
    ("target", b.target.encode)]

def Binding.decode? (j : Json) : Option Binding :=
  if j.isRecord 4 then do
    return { key := ← required text? 0 "origin_key" j
             value := ← required text? 1 "origin_value" j
             clause := ← required Clause.decode? 2 "clause" j
             target := ← required Reference.decode? 3 "target" j }
  else none

def encode (j : Join) : Json :=
  obj [("path", str j.path), ("join_type", j.kind.encode), ("table", str j.source.table),
    ("alias", ofOption str j.source.aliased), ("count", ofWord j.count),
    ("on_list", arr (j.clauses.map Clause.encode))]

def decode? (j : Json) : Option Join :=
  if j.isRecord 6 then do
    return { path := ← required text? 0 "path" j
             kind := ← required JoinKind.decode? 1 "join_type" j
             source := { table := ← required text? 2 "table" j
                         aliased := ← optional text? 3 "alias" j }
             count := ← required word? 4 "count" j
             clauses := ← required (list? Clause.decode?) 5 "on_list" j }
  else none

end Join

namespace Toggles

def encode (g : Toggles) : Json :=
  obj [("hyphen", bool g.hyphen), ("underline", bool g.underline), ("dollar", bool g.dollar)]

/-- A toggle that is not given is off. -/
def decode? (j : Json) : Option Toggles :=
  if j.isPartialRecord 3 then do
    return { hyphen := ← defaulted bool? false 0 "hyphen" j
             underline := ← defaulted bool? false 1 "underline" j
             dollar := ← defaulted bool? false 2 "dollar" j }
  else none

end Toggles

end KeyNotation
