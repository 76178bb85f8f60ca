import KeyNotation.Entries
import KeyNotation.Toml.Lexeme
import KeyNotation.Toml.Scalar

/-!
# TOML tables

The tree that a document stands for, and what may be put where. A table remembers how it came to be,
since that decides who may add to it.

* `Table.update through fresh f own path es` — the entries `es` with those of the table at the end
  of `path` changed by `f`. The path makes tables of origin `fresh` where there are none, and goes
  through those that `through` lets it; of an array of tables it takes the last one;
* `Table.assign key v es` — `es` with `v` under the key `key`.
-/

namespace KeyNotation

namespace Toml

/-- A table is named by a header of its own, or only goes between one and the root; or it is made by
the dots of a key; or it is written in braces. -/
inductive Origin where
  | header
  | implied
  | dotted
  | inline
  deriving DecidableEq, Repr

inductive Node where
  | scalar (s : Scalar)
  | array (items : List Node)
  | table (origin : Origin) (entries : List (Text × Node))
  | tables (elements : List (List (Text × Node)))

namespace Table

def update (through : Origin → Bool) (fresh : Origin)
    (f : Origin → Entries Node → Option (Entries Node)) :
    Origin → List Text → Entries Node → Option (Entries Node)
  | own, [], es => f own es
  | _, k :: path, es =>
    match es.lookup k with
    | none => (update through fresh f fresh path []).map fun sub => es ++ [(k, .table fresh sub)]
    | some (.table origin sub) =>
      if through origin then
        (update through fresh f origin path sub).map fun sub =>
          Entries.insert es k (.table origin sub)
      else none
    | some (.tables elements) =>
      match elements.getLast? with
      | some sub =>
        (update through fresh f .header path sub).map fun sub =>
          Entries.insert es k (.tables (elements.dropLast ++ [sub]))
      | none => none
    | some _ => none

/-- A header goes through every table that is not closed. -/
def headerThrough (origin : Origin) : Bool := origin != .inline

/-- A key goes through tables without a header only. -/
def keyThrough (origin : Origin) : Bool := origin == .implied || origin == .dotted

/-- A key with dots ends in a table that dots have made. No key is given a value twice. -/
def assign (key : Key) (v : Node) (es : Entries Node) : Option (Entries Node) :=
  update keyThrough .dotted
    (fun own es =>
      if key.front ≠ [] ∧ own ≠ .dotted then none
      else if key.last ∈ es.keys then none
      else some (es ++ [(key.last, v)]))
    .header key.front es

def assignAll (pairs : List (Key × Node)) : Option (Entries Node) :=
  pairs.foldlM (fun es (key, v) => assign key v es) []

/-- Gives the table at `key` a header. It may have entries, but none of its own. -/
def openTable (key : Key) (es : Entries Node) : Option (Entries Node) :=
  update headerThrough .implied
    (fun _ es =>
      match es.lookup key.last with
      | none => some (es ++ [(key.last, .table .header [])])
      | some (.table .implied sub) => some (Entries.insert es key.last (.table .header sub))
      | some _ => none)
    .header key.front es

/-- Adds an empty table to the array of tables at `key`. -/
def openElement (key : Key) (es : Entries Node) : Option (Entries Node) :=
  update headerThrough .implied
    (fun _ es =>
      match es.lookup key.last with
      | none => some (es ++ [(key.last, .tables [[]])])
      | some (.tables elements) =>
        some (Entries.insert es key.last (.tables (elements ++ [[]])))
      | some _ => none)
    .header key.front es

end Table

end Toml

end KeyNotation
