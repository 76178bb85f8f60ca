import KeyNotation.TableKey

/-!
# References

A reference path names a field of another table by its last two segments, `/Moment:main/userId`;
what stands before them is not read.

* `Reference.render r` — the two segments that `r` is written with;
* `Reference.ofPath? p` — the reference that the path `p` ends with.
-/

namespace KeyNotation

structure Reference where
  source : TableKey
  key : Text
  deriving DecidableEq, Repr

namespace Reference

def render (r : Reference) : Text := r.source.render ++ '/' :: r.key

/-- What follows the last slash of a path. -/
def lastSegment (path : Text) : Text :=
  match splitLast? '/' path with
  | some (_, segment) => segment
  | none => path

def ofPath? (path : Text) : Option Reference :=
  match splitLast? '/' path with
  | none => none
  | some (front, key) =>
    match TableKey.ofText? (lastSegment front) with
    | none => none
    | some source => if isName key then some ⟨source, key⟩ else none

end Reference

end KeyNotation
