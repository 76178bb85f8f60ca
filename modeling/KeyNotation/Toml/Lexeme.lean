import KeyNotation.Digits

/-!
# TOML lexemes

Blanks, comments, line ends, strings and keys. Each reader takes what it reads off the front of a
text and returns the rest.

* `skipSpace`, `skipLines` — the text after blanks, and after blanks, comments and line ends;
* `endLine? t` — the next line, if nothing but blanks and a comment is left of this one;
* `readText t` — a string of any of the four kinds;
* `readKey t` — a key of one or more parts, with dots between them.
-/

namespace KeyNotation

namespace Toml

/-! ## blanks and lines -/

def isSpace (c : Char) : Bool := c == ' ' || c == '\t'

def skipSpace (t : Text) : Text := t.dropWhile isSpace

def newline? : Text → Option Text
  | '\n' :: t => some t
  | '\r' :: '\n' :: t => some t
  | _ => none

/-- A character that may stand in a comment and, but for the sign that ends it, in a string. -/
def isPrintable (c : Char) : Bool := c == '\t' || (0x20 ≤ c.toNat && c.toNat != 0x7F)

def skipComment : Text → Text
  | '#' :: t => t.dropWhile isPrintable
  | t => t

def endLine? (t : Text) : Option Text :=
  match skipComment (skipSpace t) with
  | [] => some []
  | t => newline? t

/-- The text after blanks, comments and line ends, where `commented` says that it starts in a
comment. -/
def skipLinesFrom : Bool → Text → Text
  | _, [] => []
  | _, '\n' :: t => skipLinesFrom false t
  | _, '\r' :: '\n' :: t => skipLinesFrom false t
  | true, c :: t => if isPrintable c then skipLinesFrom true t else c :: t
  | false, c :: t =>
    if isSpace c then skipLinesFrom false t
    else if c = '#' then skipLinesFrom true t
    else c :: t

def skipLines (t : Text) : Text := skipLinesFrom false t

/-! ## strings -/

def shortEscape? : Char → Option Char
  | '"' => some '"'
  | '\\' => some '\\'
  | 'b' => some '\x08'
  | 'f' => some '\x0c'
  | 'n' => some '\n'
  | 'r' => some '\r'
  | 't' => some '\t'
  | _ => none

/-- Reads what follows the backslash of an escape. -/
def readEscape : Text → Option (Char × Text)
  | 'u' :: a :: b :: c :: d :: t => (charOfHex? [a, b, c, d]).map (·, t)
  | 'U' :: a :: b :: c :: d :: e :: f :: g :: h :: t =>
    (charOfHex? [a, b, c, d, e, f, g, h]).map (·, t)
  | c :: t => (shortEscape? c).map (·, t)
  | [] => none

theorem length_of_readEscape {t rest : Text} {c : Char} (h : readEscape t = some (c, rest)) :
    rest.length < t.length := by
  unfold readEscape at h
  split at h
  · obtain ⟨x, -, hx⟩ := Option.map_eq_some_iff.1 h
    obtain ⟨-, rfl⟩ := Prod.mk.inj hx
    simp
    omega
  · obtain ⟨x, -, hx⟩ := Option.map_eq_some_iff.1 h
    obtain ⟨-, rfl⟩ := Prod.mk.inj hx
    simp
    omega
  · obtain ⟨x, -, hx⟩ := Option.map_eq_some_iff.1 h
    obtain ⟨-, rfl⟩ := Prod.mk.inj hx
    simp
  · simp at h

/-- Reads up to the closing quote of a string on one line. -/
def readBasic (t : Text) : Option (Text × Text) :=
  match t with
  | [] => none
  | '"' :: t => some ([], t)
  | '\\' :: t =>
    match _h : readEscape t with
    | some (x, rest) => (readBasic rest).map fun (s, t) => (x :: s, t)
    | none => none
  | c :: t => if isPrintable c then (readBasic t).map fun (s, t) => (c :: s, t) else none
termination_by t.length
decreasing_by
  · have := length_of_readEscape _h
    simp
    omega
  · simp

/-- Reads up to the closing quote of a string without escapes on one line. -/
def readLiteral : Text → Option (Text × Text)
  | [] => none
  | '\'' :: t => some ([], t)
  | c :: t => if isPrintable c then (readLiteral t).map fun (s, t) => (c :: s, t) else none

/-- Whether a string on several lines has a line end taken out just now. A backslash at the end of a
line does that, with all blanks and line ends that follow: first the line end is awaited, then the
rest is skipped. -/
inductive LineFold where
  | absent
  | awaited
  | skipping
  deriving DecidableEq

/-- Reads up to the three closing quotes of a string on several lines. Two more may stand before
them. -/
def readLongBasic (fold : LineFold) (t : Text) : Option (Text × Text) :=
  match fold, t with
  | .awaited, '\n' :: t => readLongBasic .skipping t
  | .awaited, '\r' :: '\n' :: t => readLongBasic .skipping t
  | .awaited, c :: t => if isSpace c then readLongBasic .awaited t else none
  | _, [] => none
  | .skipping, '\n' :: t => readLongBasic .skipping t
  | .skipping, '\r' :: '\n' :: t => readLongBasic .skipping t
  | .skipping, ' ' :: t => readLongBasic .skipping t
  | .skipping, '\t' :: t => readLongBasic .skipping t
  | _, '"' :: '"' :: '"' :: '"' :: '"' :: t => some (['"', '"'], t)
  | _, '"' :: '"' :: '"' :: '"' :: t => some (['"'], t)
  | _, '"' :: '"' :: '"' :: t => some ([], t)
  | _, '\\' :: c :: t =>
    if isSpace c ∨ c = '\n' ∨ c = '\r' then readLongBasic .awaited (c :: t)
    else
      match _h : readEscape (c :: t) with
      | some (x, rest) => (readLongBasic .absent rest).map fun (s, t) => (x :: s, t)
      | none => none
  | _, '\r' :: '\n' :: t => (readLongBasic .absent t).map fun (s, t) => ('\n' :: s, t)
  | _, c :: t =>
    if (isPrintable c ∧ c ≠ '\\') ∨ c = '\n' then
      (readLongBasic .absent t).map fun (s, t) => (c :: s, t)
    else none
termination_by t.length
decreasing_by
  all_goals try have := length_of_readEscape _h
  all_goals simp only [List.length_cons] at *
  all_goals omega

/-- Reads up to the three closing quotes of a string without escapes on several lines. -/
def readLongLiteral : Text → Option (Text × Text)
  | [] => none
  | '\'' :: '\'' :: '\'' :: '\'' :: '\'' :: t => some (['\'', '\''], t)
  | '\'' :: '\'' :: '\'' :: '\'' :: t => some (['\''], t)
  | '\'' :: '\'' :: '\'' :: t => some ([], t)
  | '\r' :: '\n' :: t => (readLongLiteral t).map fun (s, t) => ('\n' :: s, t)
  | c :: t =>
    if isPrintable c ∨ c = '\n' then (readLongLiteral t).map fun (s, t) => (c :: s, t) else none

/-- The line end right after the opening quotes is not part of a string on several lines. -/
def afterNewline (t : Text) : Text := (newline? t).getD t

def readText : Text → Option (Text × Text)
  | '"' :: '"' :: '"' :: t => readLongBasic .absent (afterNewline t)
  | '"' :: t => readBasic t
  | '\'' :: '\'' :: '\'' :: t => readLongLiteral (afterNewline t)
  | '\'' :: t => readLiteral t
  | _ => none

/-! ## keys -/

/-- The tables that a key goes through, and its name in the last of them. -/
structure Key where
  front : List Text
  last : Text
  deriving DecidableEq, Repr

/-- How many parts a key may have, and how deep values may be nested. -/
def depthLimit : Nat := 79

def isBareKeyChar (c : Char) : Bool := c.isAlphanum || c == '_' || c == '-'

def readKeyPart : Text → Option (Text × Text)
  | '"' :: t => readBasic t
  | '\'' :: t => readLiteral t
  | t =>
    if t.takeWhile isBareKeyChar = [] then none
    else some (t.takeWhile isBareKeyChar, t.dropWhile isBareKeyChar)

/-- Reads a key of at most `parts` parts, and the blanks around it. -/
def readKeyOf : Nat → Text → Option (Key × Text)
  | 0, _ => none
  | parts + 1, t =>
    match readKeyPart (skipSpace t) with
    | none => none
    | some (part, t) =>
      match skipSpace t with
      | '.' :: t => (readKeyOf parts t).map fun (key, t) => (⟨part :: key.front, key.last⟩, t)
      | t => some (⟨[], part⟩, t)

def readKey (t : Text) : Option (Key × Text) := readKeyOf depthLimit t

end Toml

end KeyNotation
