import KeyNotation.Error

/-!
# Kinds of join

A join path opens with one character, the mark of its kind. A text without characters marks a full
join as well.

* `JoinKind.mark k`, `JoinKind.symbol k` — the mark as a character and as a text;
* `JoinKind.ofText? t` — the kind that `t` marks, `JoinKind.read t` the same with the error;
* `JoinKind.isSql k`, `JoinKind.isLeft k` and so on, `JoinKind.cacheable k` — what a kind asks of the
  query, and `JoinKind.cacheable_eq` the kinds whose rows cannot be kept.
-/

namespace KeyNotation

inductive JoinKind where
  | app
  | left
  | right
  | cross
  | inner
  | full
  | outer
  | side
  | anti
  | foreign
  | asof
  deriving DecidableEq, Repr

namespace JoinKind

def all : List JoinKind :=
  [app, left, right, cross, inner, full, outer, side, anti, foreign, asof]

def mark : JoinKind → Char
  | app => '@'
  | left => '<'
  | right => '>'
  | cross => '*'
  | inner => '&'
  | full => '|'
  | outer => '!'
  | side => '^'
  | anti => '('
  | foreign => ')'
  | asof => '~'

def symbol (k : JoinKind) : Text := [k.mark]

def ofChar? (c : Char) : Option JoinKind := all.find? (·.mark = c)

def ofText? : Text → Option JoinKind
  | [] => some full
  | [c] => ofChar? c
  | _ => none

def read (t : Text) : Except KeyError JoinKind :=
  match ofText? t with
  | some k => .ok k
  | none => .error (.unknownJoin t [] [])

theorem mem_all (k : JoinKind) : k ∈ all := by cases k <;> decide

theorem ofChar?_mark (k : JoinKind) : ofChar? k.mark = some k := by cases k <;> rfl

theorem mark_injective {j k : JoinKind} (h : j.mark = k.mark) : j = k :=
  Option.some.inj (by rw [← ofChar?_mark j, h, ofChar?_mark])

theorem ofChar?_eq_some_iff {c : Char} {k : JoinKind} : ofChar? c = some k ↔ c = k.mark := by
  constructor
  · intro h
    simpa [eq_comm] using List.find?_some h
  · rintro rfl
    exact ofChar?_mark k

/-! ## what a kind asks of the query -/

def isApp (k : JoinKind) : Bool := k == app

/-- An app join is a query of its own, stitched in by the caller; all others are part of the
statement. -/
def isSql (k : JoinKind) : Bool := !k.isApp

def isLeft (k : JoinKind) : Bool := k == left

def isRight (k : JoinKind) : Bool := k == right

def isLeftOrRight (k : JoinKind) : Bool := k.isLeft || k.isRight

def isCross (k : JoinKind) : Bool := k == cross

def isInner (k : JoinKind) : Bool := k == inner

def isFull (k : JoinKind) : Bool := k == full

def isOuter (k : JoinKind) : Bool := k == outer

def isSide (k : JoinKind) : Bool := k == side

def isAnti (k : JoinKind) : Bool := k == anti

def isForeign (k : JoinKind) : Bool := k == foreign

def isAsof (k : JoinKind) : Bool := k == asof

/-- Whether the rows of the joined table may be kept and shared. The other kinds depend on rows
without a match, or on duplicate rows, which a kept result could hide. -/
def cacheable : JoinKind → Bool
  | app | left | right | inner | cross | foreign => true
  | full | outer | side | anti | asof => false

theorem cacheable_eq (k : JoinKind) :
    k.cacheable = !(k.isFull || k.isOuter || k.isAnti || k.isSide || k.isAsof) := by
  cases k <;> rfl

end JoinKind

end KeyNotation
