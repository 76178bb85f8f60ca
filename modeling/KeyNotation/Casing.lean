import KeyNotation.Casing.Table

/-!
# Letter case

The upper and the lower case of characters and of texts, for all of Unicode. The case of a
character can take more than one character, so it is a text; that of a text is that of its
characters one by one, but for the sigma, whose lower case is another one at the end of a word.

* `LetterCase.ofChar k c` — the character `c` in the case `k`;
* `LetterCase.recase k t` — the text `t` in the case `k`;
* `LetterCase.recaseFirst k t` — `t` with its first character alone in the case `k`;
* `LetterCase.ofLetter? c` — the case that the letter `c` has, if it has one of the two.
-/

namespace KeyNotation

inductive LetterCase where
  | upper
  | lower
  deriving DecidableEq, Repr

namespace Casing

/-! ## characters -/

def shift (shifts : List (Span × Int)) (c : Char) : Char :=
  match shifts.find? (·.1.holds c.toNat) with
  | some (_, n) => Char.ofNat (c.toNat + n).toNat
  | none => c

/-- The case of a character beyond ASCII. -/
def expand (expansions : List (Char × Text)) (shifts : List (Span × Int)) (c : Char) : Text :=
  match expansions.lookup c with
  | some t => t
  | none => [shift shifts c]

def upperChar (c : Char) : Text :=
  if c.toNat < 0x80 then [c.toUpper] else expand upperExpansions upperShifts c

def lowerChar (c : Char) : Text :=
  if c.toNat < 0x80 then [c.toLower] else expand lowerExpansions lowerShifts c

def inSpans (spans : List Span) (c : Char) : Bool := spans.any (·.holds c.toNat)

def isLowercase (c : Char) : Bool :=
  if c.toNat < 0x80 then c.isLower else inSpans lowercaseSpans c

def isUppercase (c : Char) : Bool :=
  if c.toNat < 0x80 then c.isUpper else inSpans uppercaseSpans c

/-! ## texts -/

/-- The first character that casing does not pass over is a letter with case. -/
def meetsCased (t : Text) : Bool :=
  match t.dropWhile (inSpans caseIgnorableSpans) with
  | c :: _ => inSpans casedSpans c
  | [] => false

/-- The sigma at the end of a word has a letter before it and none after it. -/
def lowerSigma (before after : Text) : Char :=
  if meetsCased before && !meetsCased after then 'ς' else 'σ'

/-- The lower case of what follows `before`, which is given from its last character on. -/
def lowerAfter : Text → Text → Text
  | _, [] => []
  | before, c :: t =>
    (if c = 'Σ' then [lowerSigma before t] else lowerChar c) ++ lowerAfter (c :: before) t

end Casing

namespace LetterCase

open Casing

def ofChar : LetterCase → Char → Text
  | upper => upperChar
  | lower => lowerChar

def recase : LetterCase → Text → Text
  | upper, t => t.flatMap upperChar
  | lower, t => lowerAfter [] t

def recaseFirst (k : LetterCase) : Text → Text
  | [] => []
  | c :: t => k.ofChar c ++ t

def ofLetter? (c : Char) : Option LetterCase :=
  if isLowercase c then some lower else if isUppercase c then some upper else none

end LetterCase

/-! ## case that may be left as it is -/

def recase (k : Option LetterCase) (t : Text) : Text :=
  match k with
  | some k => k.recase t
  | none => t

def recaseFirst (k : Option LetterCase) (t : Text) : Text :=
  match k with
  | some k => k.recaseFirst t
  | none => t

end KeyNotation
