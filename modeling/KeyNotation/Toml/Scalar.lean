import KeyNotation.Digits
import KeyNotation.Words

/-!
# TOML scalars

A scalar other than a string is a token: characters up to the next blank, comma, bracket or comment.

* `Scalar.ofToken? t` — the scalar that the token `t` writes;
* `Integer.ofToken?`, `Real.isToken`, `Moment.isToken` — the three kinds with a grammar of their
  own. Of a real number and of a moment in time the token itself is kept.
-/

namespace KeyNotation

namespace Toml

inductive Scalar where
  | text (t : Text)
  | integer (n : Int)
  | real (token : Text)
  | boolean (b : Bool)
  | moment (token : Text)
  deriving DecidableEq, Repr

/-! ## digits -/

/-- Digits, of which two may have an underscore between them. -/
def isGrouped (base : Nat) (t : Text) : Bool :=
  (words ['_'] t).all fun group => group != [] && group.all (isDigitOf base)

def ungroup (t : Text) : Text := t.filter (· != '_')

/-- Digits that start with zero only if they are zero. -/
def isPlainDecimal (t : Text) : Bool := t == ['0'] || (isGrouped 10 t && t.head? != some '0')

def unsigned : Text → Text
  | '+' :: t => t
  | '-' :: t => t
  | t => t

def isNegative (t : Text) : Bool := t.head? == some '-'

/-! ## integers -/

namespace Integer

/-- An integer takes 64 bits. -/
def inRange (n : Int) : Option Int :=
  if -0x8000000000000000 ≤ n ∧ n < 0x8000000000000000 then some n else none

def ofDigits? (base : Nat) (digits : Text) : Option Int :=
  if isGrouped base digits then inRange (natOfDigits base (ungroup digits)) else none

/-- A base other than ten is named in front, and such a number has no sign. -/
def ofToken? : Text → Option Int
  | '0' :: 'x' :: t => ofDigits? 16 t
  | '0' :: 'o' :: t => ofDigits? 8 t
  | '0' :: 'b' :: t => ofDigits? 2 t
  | t =>
    if isPlainDecimal (unsigned t) then
      let n : Int := natOfDigits 10 (ungroup (unsigned t))
      inRange (if isNegative t then -n else n)
    else none

end Integer

/-! ## real numbers -/

namespace Real

/-- `mantissa * 10 ^ exponent` is too large for the 64 bits of a real number. The least such number
is halfway between the largest of them and the next power of two; far from it, the number of digits
settles the matter. -/
def overflows (mantissa : Nat) (exponent : Int) : Bool :=
  let size : Int := (Nat.toDigits 10 mantissa).length + exponent
  let limit := Nat.pow 2 1024 - Nat.pow 2 970
  if mantissa = 0 ∨ size < 300 then false
  else if 320 < size then true
  else if 0 ≤ exponent then limit ≤ mantissa * Nat.pow 10 exponent.toNat
  else limit * Nat.pow 10 (-exponent).toNat ≤ mantissa

def splitExponent (t : Text) : Text × Option Text :=
  match t.dropWhile (fun c => c != 'e' && c != 'E') with
  | _ :: exponent => (t.takeWhile (fun c => c != 'e' && c != 'E'), some exponent)
  | [] => (t, none)

def splitFraction (t : Text) : Text × Option Text :=
  match splitFirst? '.' t with
  | some (whole, fraction) => (whole, some fraction)
  | none => (t, none)

/-- A whole part with a fraction, an exponent or both. Only a number above zero must not be too
large. -/
def isDecimal (t : Text) : Bool :=
  let (front, exponent) := splitExponent (unsigned t)
  let (whole, fraction) := splitFraction front
  let power : Int :=
    match exponent with
    | some e =>
      let n : Int := natOfDigits 10 (ungroup (unsigned e))
      if isNegative e then -n else n
    | none => 0
  let places := ungroup (fraction.getD [])
  (exponent.isSome || fraction.isSome) && isPlainDecimal whole && fraction.all (isGrouped 10) &&
    exponent.all (isGrouped 10 ∘ unsigned) &&
    (isNegative t || !overflows (natOfDigits 10 (ungroup whole ++ places)) (power - places.length))

def isToken (t : Text) : Bool :=
  unsigned t == ['i', 'n', 'f'] || unsigned t == ['n', 'a', 'n'] || isDecimal t

end Real

/-! ## moments -/

namespace Moment

def isLeapYear (year : Nat) : Bool := year % 4 == 0 && (year % 100 != 0 || year % 400 == 0)

def daysOfMonth (year month : Nat) : Nat :=
  if month = 2 then if isLeapYear year then 29 else 28
  else if month ∈ [4, 6, 9, 11] then 30
  else 31

/-- Digits that write a number from `low` to `high`. -/
def isBetween (low high : Nat) (digits : Text) : Bool :=
  digits.all Char.isDigit && low ≤ natOfDigits 10 digits && natOfDigits 10 digits ≤ high

def isDate : Text → Bool
  | [y, y', y'', y''', '-', m, m', '-', d, d'] =>
    let year := [y, y', y'', y''']
    year.all Char.isDigit && isBetween 1 12 [m, m'] &&
      isBetween 1 (daysOfMonth (natOfDigits 10 year) (natOfDigits 10 [m, m'])) [d, d']
  | _ => false

/-- What follows a time with its fraction of a second. -/
def afterTime? : Text → Option Text
  | h :: h' :: ':' :: m :: m' :: ':' :: s :: s' :: t =>
    if isBetween 0 23 [h, h'] && isBetween 0 59 [m, m'] && isBetween 0 60 [s, s'] then
      match t with
      | '.' :: t =>
        if isDigits (t.takeWhile Char.isDigit) then some (t.dropWhile Char.isDigit) else none
      | t => some t
    else none
  | _ => none

def isTime (t : Text) : Bool := afterTime? t == some []

def isOffset : Text → Bool
  | ['Z'] => true
  | ['z'] => true
  | [sign, h, h', ':', m, m'] =>
    (sign == '+' || sign == '-') && isBetween 0 23 [h, h'] && isBetween 0 59 [m, m']
  | _ => false

/-- A time of a date, with or without the offset of its zone. -/
def isTimeOfDate (t : Text) : Bool :=
  match afterTime? t with
  | some [] => true
  | some t => isOffset t
  | none => false

def isToken (t : Text) : Bool :=
  isDate t || isTime t ||
    match t.drop 10 with
    | delimiter :: time =>
      isDate (t.take 10) && (delimiter == 'T' || delimiter == 't') && isTimeOfDate time
    | [] => false

end Moment

/-! ## tokens -/

def isTokenChar (c : Char) : Bool :=
  c.isAlphanum || c == '_' || c == '+' || c == '-' || c == '.' || c == ':'

def Scalar.ofToken? (t : Text) : Option Scalar :=
  if t = ['t', 'r', 'u', 'e'] then some (boolean true)
  else if t = ['f', 'a', 'l', 's', 'e'] then some (boolean false)
  else if Moment.isToken t then some (moment t)
  else if Real.isToken t then some (real t)
  else (Integer.ofToken? t).map integer

/-- Reads a token. A blank may stand between a date and its time. -/
def readToken (t : Text) : Option (Scalar × Text) :=
  let token := t.takeWhile isTokenChar
  let rest := t.dropWhile isTokenChar
  match rest with
  | ' ' :: after =>
    let time := after.takeWhile isTokenChar
    if Moment.isDate token ∧ time ≠ [] then
      if Moment.isTimeOfDate time then
        some (.moment (token ++ ' ' :: time), after.dropWhile isTokenChar)
      else none
    else (Scalar.ofToken? token).map (·, rest)
  | _ => (Scalar.ofToken? token).map (·, rest)

end Toml

end KeyNotation
