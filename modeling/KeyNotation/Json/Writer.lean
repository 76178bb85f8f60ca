import KeyNotation.Json

/-!
# Writing JSON

Compact text, without blanks. In a string the quote, the backslash and the control characters below
the blank are escaped, and nothing else.
-/

namespace KeyNotation

def Number.write : Number → Text
  | int n => (if n < 0 then ['-'] else []) ++ Nat.toDigits 10 n.natAbs
  | decimal literal => literal

namespace Json

def escape (c : Char) : Text :=
  match c with
  | '"' => ['\\', '"']
  | '\\' => ['\\', '\\']
  | '\x08' => ['\\', 'b']
  | '\x0c' => ['\\', 'f']
  | '\n' => ['\\', 'n']
  | '\r' => ['\\', 'r']
  | '\t' => ['\\', 't']
  | c =>
    if c.toNat < 0x20 then
      ['\\', 'u', '0', '0', Nat.digitChar (c.toNat / 16), Nat.digitChar (c.toNat % 16)]
    else [c]

def quote (t : Text) : Text := '"' :: t.flatMap escape ++ ['"']

mutual

def write : Json → Text
  | null => "null"
  | bool true => "true"
  | bool false => "false"
  | num n => n.write
  | str t => quote t
  | arr items => '[' :: writeItems items ++ [']']
  | obj entries => '{' :: writeEntries entries ++ ['}']

def writeItems : List Json → Text
  | [] => []
  | [v] => v.write
  | v :: items => v.write ++ ',' :: writeItems items

def writeEntries : Entries Json → Text
  | [] => []
  | [(k, v)] => quote k ++ ':' :: v.write
  | (k, v) :: entries => quote k ++ ':' :: v.write ++ ',' :: writeEntries entries

end

end Json

end KeyNotation
