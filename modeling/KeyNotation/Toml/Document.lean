import KeyNotation.Toml.Table

/-!
# TOML documents

A document is a sequence of lines, each of which is empty, opens a table, or gives a key a value.

* `readValue` — reads a value: a scalar, an array or an inline table;
* `readLines t` — the lines of the text `t`;
* `Document.ofLines lines` — the root table that the lines build;
* `Document.ofText? t` — the root table of the text `t`.

As in the reader of JSON, a number that the length of the text bounds counts the calls.
-/

namespace KeyNotation

namespace Toml

/-! ## values -/

mutual

/-- Reads a value that holds values at most `depth` deep. -/
def readValue : Nat → Nat → Text → Option (Node × Text)
  | 0, _, _ => none
  | fuel + 1, depth, t =>
    match t with
    | '[' :: t =>
      match depth with
      | 0 => none
      | depth + 1 => (readItems fuel depth t).map fun (items, t) => (.array items, t)
    | '{' :: t =>
      match depth with
      | 0 => none
      | depth + 1 =>
        match skipSpace t with
        | '}' :: t => some (.table .inline [], t)
        | t =>
          match readPairs fuel depth t with
          | some (pairs, t) => (Table.assignAll pairs).map fun es => (.table .inline es, t)
          | none => none
    | t =>
      match t.head? with
      | some '"' => (readText t).map fun (s, t) => (.scalar (.text s), t)
      | some '\'' => (readText t).map fun (s, t) => (.scalar (.text s), t)
      | _ => (readToken t).map fun (s, t) => (.scalar s, t)

/-- Reads values up to the closing bracket, before which a comma may stand. -/
def readItems : Nat → Nat → Text → Option (List Node × Text)
  | 0, _, _ => none
  | fuel + 1, depth, t =>
    match skipLines t with
    | ']' :: t => some ([], t)
    | t =>
      match readValue fuel depth t with
      | none => none
      | some (v, t) =>
        match skipLines t with
        | ',' :: t => (readItems fuel depth t).map fun (items, t) => (v :: items, t)
        | ']' :: t => some ([v], t)
        | _ => none

/-- Reads keys with values up to the closing brace, before which no comma may stand. -/
def readPairs : Nat → Nat → Text → Option (List (Key × Node) × Text)
  | 0, _, _ => none
  | fuel + 1, depth, t =>
    match readKey t with
    | some (key, '=' :: t) =>
      match readValue fuel depth (skipSpace t) with
      | none => none
      | some (v, t) =>
        match skipSpace t with
        | ',' :: t => (readPairs fuel depth t).map fun (pairs, t) => ((key, v) :: pairs, t)
        | '}' :: t => some ([(key, v)], t)
        | _ => none
    | _ => none

end

/-! ## lines -/

inductive Line where
  | blank
  | table (key : Key)
  | element (key : Key)
  | pair (key : Key) (value : Node)

def readHeader (t : Text) : Option (Line × Text) :=
  match t with
  | '[' :: t =>
    match readKey t with
    | some (key, ']' :: ']' :: t) => some (.element key, t)
    | _ => none
  | t =>
    match readKey t with
    | some (key, ']' :: t) => some (.table key, t)
    | _ => none

/-- Reads a line without its end. -/
def readLine (t : Text) : Option (Line × Text) :=
  match skipSpace t with
  | [] => some (.blank, [])
  | '[' :: t => readHeader t
  | c :: t =>
    if c = '#' ∨ c = '\n' ∨ c = '\r' then some (.blank, c :: t)
    else
      match readKey (c :: t) with
      | some (key, '=' :: t) =>
        (readValue (2 * t.length + 2) depthLimit (skipSpace t)).map fun (v, t) => (.pair key v, t)
      | _ => none

def readLinesOf : Nat → Text → Option (List Line)
  | _, [] => some []
  | 0, _ => none
  | fuel + 1, t =>
    match readLine t with
    | none => none
    | some (line, t) =>
      match endLine? t with
      | none => none
      | some t => (readLinesOf fuel t).map (line :: ·)

/-- A byte order mark may stand in front of the first line. -/
def readLines (t : Text) : Option (List Line) :=
  let t := if t.head? = some '\ufeff' then t.tail else t
  readLinesOf t.length t

/-! ## documents -/

/-- The root table, and the path to the table that lines with a key belong to. -/
structure Document where
  root : Entries Node
  path : List Text

namespace Document

def addLine (d : Document) : Line → Option Document
  | .blank => some d
  | .table key => (Table.openTable key d.root).map (⟨·, key.front ++ [key.last]⟩)
  | .element key => (Table.openElement key d.root).map (⟨·, key.front ++ [key.last]⟩)
  | .pair key v =>
    (Table.update Table.headerThrough .implied (fun _ es => Table.assign key v es) .header d.path
      d.root).map (⟨·, d.path⟩)

def ofLines (lines : List Line) : Option (Entries Node) :=
  (lines.foldlM addLine ⟨[], []⟩).map (·.root)

def ofText? (t : Text) : Option (Entries Node) := (readLines t).bind ofLines

end Document

end Toml

end KeyNotation
