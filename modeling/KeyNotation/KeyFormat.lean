import KeyNotation.Toggles
import KeyNotation.Words.Recase

/-!
# Key formats

A format takes the annotations off a key and makes one word of it.

* `KeyFormat.stem f key` — the key without the annotations that `f` takes off its front;
* `stripDividers signs t` — `t` without the signs, each taken out of all of `t` before the next;
* `KeyFormat.format f key` — the stem without dividers, and with the first character in the case
  that `f` asks for or, where it asks for none, in the case that the stem had.
-/

namespace KeyNotation

/-! ## annotations -/

def withoutAt : Text → Text
  | '@' :: t => t
  | t => t

/-- The alias of a key that has one. -/
def afterColon (t : Text) : Text :=
  match splitFirst? ':' t with
  | some (_, a) => a
  | none => t

def beforeColon (t : Text) : Text :=
  match splitFirst? ':' t with
  | some (a, _) => a
  | none => t

/-! ## dividers -/

def stripDivider (t : Text) (sign : Char) : Text := if sign ∈ t then capitalWords [sign] t else t

def stripDividers (signs : List Char) (t : Text) : Text := signs.foldl stripDivider t

/-- The text `t` with its first character in the case of the first character of `model`. -/
def recaseLike (model t : Text) : Text :=
  match model with
  | c :: _ => recaseFirst (LetterCase.ofLetter? c) t
  | [] => t

/-! ## formats -/

structure KeyFormat where
  /-- A key with an alias becomes its alias. -/
  takesAlias : Bool
  /-- A key loses the `@` in front. -/
  dropsAt : Bool
  dividers : Toggles
  first : Option LetterCase
  deriving DecidableEq, Repr

namespace KeyFormat

def stem (f : KeyFormat) (key : Text) : Text :=
  let key := if f.takesAlias then afterColon key else key
  if f.dropsAt then withoutAt key else key

def format (f : KeyFormat) (key : Text) : Text :=
  let stem := f.stem key
  let signs := f.dividers.signs
  let name := stripDividers signs stem
  match f.first with
  | some k => k.recaseFirst name
  | none => if signs.any (· ∈ stem) then recaseLike stem name else name

end KeyFormat

end KeyNotation
