import KeyNotation.Clause
import KeyNotation.Json
import KeyNotation.ListMark
import KeyNotation.Reference

/-!
# Joins

A join adds a table to a query: the path it was asked for with, its kind, the table and its alias,
how many rows it returns, and the clauses that tie it to the other tables.

* `Join.create path mark table` — a join of given parts;
* `Join.ofEntry entry` — the join that an entry such as `</User:owner/id@` asks for;
* `Join.push`, `Join.bind` — the join with the clause of one key, or with the clauses of all
  reference keys of a request. Both fail without a join, so a caller keeps the one it had.
-/

namespace KeyNotation

structure Join where
  path : Text
  kind : JoinKind
  source : TableKey
  count : UInt32
  clauses : List Clause
  deriving DecidableEq, Repr

namespace Join

/-! ## making a join -/

def create (path mark table : Text) : Except KeyError Join :=
  match JoinKind.read mark with
  | .ok kind => .ok ⟨path, kind, ⟨table, none⟩, 1, []⟩
  | .error e => .error (e.locate table path)

/-- The kind that an entry opens with and the path after its mark. An entry that opens with its
path is a full join. -/
def openEntry : Text → Except KeyError (JoinKind × Text)
  | [] => .ok (.full, [])
  | c :: t =>
    if c = '/' then .ok (.full, c :: t)
    else
      match JoinKind.read [c] with
      | .ok kind => .ok (kind, t)
      | .error e => .error (e.locate [] (c :: t))

def firstSegment (path : Text) : Text := (path.dropWhile (· == '/')).takeWhile (· != '/')

/-- The first segment of a path, which may be marked as a list. -/
def sourceText (path : Text) : Text :=
  let segment := firstSegment path
  (listMark.isSuffixOf? segment).getD segment

def ofEntry (entry : Text) : Except KeyError Join :=
  match openEntry entry with
  | .error e => .error e
  | .ok (kind, path) =>
    let text := sourceText path
    if text = [] then .error (.malformed ⟨kind.symbol, [], entry⟩ .noTable)
    else
      match TableKey.ofText? text with
      | some source => .ok ⟨path, kind, source, 1, []⟩
      | none => .error (.badName ⟨kind.symbol, text, entry⟩ text)

def setAlias (j : Join) (a : Text) : Join := { j with source := { j.source with aliased := some a } }

def setCount (j : Join) (n : UInt32) : Join := { j with count := n }

/-- Whether more than one row may come back. A path with a list in it says so by itself. -/
def oneToMany (j : Join) : Bool := j.count != 1 || hasListMark j.path

def oneToOne (j : Join) : Bool := !j.oneToMany

/-! ## clauses -/

def append (j : Join) (cs : List Clause) : Join := { j with clauses := j.clauses ++ cs }

def push (j : Join) (raw : Text) : Except KeyError (Clause × Join) :=
  match Clause.read j.kind j.source.table raw with
  | .ok c => .ok (c, j.append [c])
  | .error e => .error e

/-- A clause with the reference that its request entry gave, and with that entry as written. -/
structure Binding where
  key : Text
  value : Text
  clause : Clause
  target : Reference
  deriving DecidableEq, Repr

def isReferenceKey (key : Text) : Bool := key.getLast? == some '@'

def bindEntry (reader : NegationReader) (j : Join) (key : Text) (value : Json) :
    Except KeyError Binding :=
  match value with
  | .str path =>
    match Reference.ofPath? path with
    | none => .error (.malformed ⟨j.kind.symbol, j.source.table, key⟩ .valueNotReference)
    | some target =>
      match Clause.readWith reader j.kind j.source.table key with
      | .ok clause => .ok ⟨key, path, clause, target⟩
      | .error e => .error e
  | _ => .error (.malformed ⟨j.kind.symbol, j.source.table, key⟩ .valueNotText)

/-- The bindings of the reference keys of a request, in its order; its other entries are conditions
of the caller. -/
def bindings (reader : NegationReader) (j : Join) (request : Entries Json) :
    Except KeyError (List Binding) :=
  (request.filter (isReferenceKey ·.1)).mapM fun (key, value) => bindEntry reader j key value

def bind (reader : NegationReader) (j : Join) (request : Entries Json) :
    Except KeyError (List Binding × Join) :=
  match bindings reader j request with
  | .ok bs => .ok (bs, j.append (bs.map (·.clause)))
  | .error e => .error e

end Join

end KeyNotation
