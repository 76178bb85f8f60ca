import KeyNotation.Digits
import KeyNotation.Json

/-!
# Reading JSON

* `Json.read? t` — the value that the whole text `t` holds.

Each reader takes what it reads off the front of a text and returns the rest. The readers of values
call each other; a number bounds how often, and the length of the text is bound enough, since of two
calls in a row one takes a character off.
-/

namespace KeyNotation

namespace Json

def isBlank (c : Char) : Bool := c == ' ' || c == '\t' || c == '\n' || c == '\r'

def skipBlanks (t : Text) : Text := t.dropWhile isBlank

/-! ## strings -/

/-- The character of two surrogates. -/
def charOfPair? (high low : Text) : Option Char :=
  if (high ++ low).all (isDigitOf 16) then
    let h := natOfDigits 16 high
    let l := natOfDigits 16 low
    if 0xD800 ≤ h ∧ h < 0xDC00 ∧ 0xDC00 ≤ l ∧ l < 0xE000 then
      charOfNat? (0x10000 + 0x400 * (h - 0xD800) + (l - 0xDC00))
    else none
  else none

def shortEscape? : Char → Option Char
  | '"' => some '"'
  | '\\' => some '\\'
  | '/' => some '/'
  | 'b' => some '\x08'
  | 'f' => some '\x0c'
  | 'n' => some '\n'
  | 'r' => some '\r'
  | 't' => some '\t'
  | _ => none

/-- Reads up to the closing quote, after the opening one. A character beyond the first 65536 may be
written as two surrogates. -/
def readString : Text → Option (Text × Text)
  | [] => none
  | '"' :: t => some ([], t)
  | '\\' :: 'u' :: a :: b :: c :: d :: t =>
    match charOfHex? [a, b, c, d] with
    | some x => (readString t).map fun (s, t) => (x :: s, t)
    | none =>
      match t with
      | '\\' :: 'u' :: a' :: b' :: c' :: d' :: t =>
        match charOfPair? [a, b, c, d] [a', b', c', d'] with
        | some x => (readString t).map fun (s, t) => (x :: s, t)
        | none => none
      | _ => none
  | '\\' :: c :: t =>
    match shortEscape? c with
    | some x => (readString t).map fun (s, t) => (x :: s, t)
    | none => none
  | c :: t => if c.toNat < 0x20 then none else (readString t).map fun (s, t) => (c :: s, t)

/-! ## numbers -/

def isNumberChar (c : Char) : Bool :=
  c.isDigit || c == '-' || c == '+' || c == '.' || c == 'e' || c == 'E'

/-- A digit, or digits that do not start with zero. -/
def isWhole : Text → Bool
  | ['0'] => true
  | '0' :: _ => false
  | t => isDigits t

def isExponent : Text → Bool
  | '+' :: t => isDigits t
  | '-' :: t => isDigits t
  | t => isDigits t

/-- What may follow the whole part of a decimal: a fraction, an exponent or both. -/
def isDecimalTail : Text → Bool
  | '.' :: t =>
    let rest := t.dropWhile Char.isDigit
    isDigits (t.takeWhile Char.isDigit) &&
      match rest with
      | [] => true
      | e :: t => (e == 'e' || e == 'E') && isExponent t
  | e :: t => (e == 'e' || e == 'E') && isExponent t
  | [] => false

/-- An integer without its sign. Zero with a minus sign, and what does not fit 64 bits, is kept as a
decimal. -/
def numberOfWhole (negative : Bool) (digits : Text) : Number :=
  let n := natOfDigits 10 digits
  if negative then
    if n = 0 then .decimal "-0.0"
    else if n ≤ 0x8000000000000000 then .int (-n)
    else .decimal ('-' :: digits)
  else if n < 0x10000000000000000 then .int n
  else .decimal digits

def numberOfLiteral? (literal : Text) : Option Number :=
  let negative := literal.head? == some '-'
  let t := if negative then literal.tail else literal
  let whole := t.takeWhile Char.isDigit
  let tail := t.dropWhile Char.isDigit
  if !isWhole whole then none
  else if tail = [] then some (numberOfWhole negative whole)
  else if isDecimalTail tail then some (.decimal literal)
  else none

/-! ## values -/

mutual

def readValue : Nat → Text → Option (Json × Text)
  | 0, _ => none
  | fuel + 1, t =>
    match skipBlanks t with
    | 'n' :: 'u' :: 'l' :: 'l' :: t => some (null, t)
    | 't' :: 'r' :: 'u' :: 'e' :: t => some (bool true, t)
    | 'f' :: 'a' :: 'l' :: 's' :: 'e' :: t => some (bool false, t)
    | '"' :: t => (readString t).map fun (s, t) => (str s, t)
    | '[' :: t =>
      match skipBlanks t with
      | ']' :: t => some (arr [], t)
      | t => (readItems fuel t).map fun (items, t) => (arr items, t)
    | '{' :: t =>
      match skipBlanks t with
      | '}' :: t => some (obj [], t)
      | t => (readEntries fuel t).map fun (entries, t) => (obj (Entries.ofList entries), t)
    | t =>
      (numberOfLiteral? (t.takeWhile isNumberChar)).map fun n =>
        (num n, t.dropWhile isNumberChar)

/-- Reads values up to the closing bracket. -/
def readItems : Nat → Text → Option (List Json × Text)
  | 0, _ => none
  | fuel + 1, t =>
    match readValue fuel t with
    | none => none
    | some (v, t) =>
      match skipBlanks t with
      | ',' :: t => (readItems fuel t).map fun (items, t) => (v :: items, t)
      | ']' :: t => some ([v], t)
      | _ => none

/-- Reads entries up to the closing brace. -/
def readEntries : Nat → Text → Option (List (Text × Json) × Text)
  | 0, _ => none
  | fuel + 1, t =>
    match skipBlanks t with
    | '"' :: t =>
      match readString t with
      | none => none
      | some (k, t) =>
        match skipBlanks t with
        | ':' :: t =>
          match readValue fuel t with
          | none => none
          | some (v, t) =>
            match skipBlanks t with
            | ',' :: t => (readEntries fuel t).map fun (entries, t) => ((k, v) :: entries, t)
            | '}' :: t => some ([(k, v)], t)
            | _ => none
        | _ => none
    | _ => none

end

def read? (t : Text) : Option Json :=
  match readValue (2 * t.length + 2) t with
  | some (v, rest) => if skipBlanks rest = [] then some v else none
  | none => none

end Json

end KeyNotation
