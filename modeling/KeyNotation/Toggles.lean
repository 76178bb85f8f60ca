import KeyNotation.Text

/-!
# Toggles

Three signs may part the words of a key; the toggles say which of them a key loses.

* `Toggles.signs g` — the signs that are on, in the order in which they are taken out.
-/

namespace KeyNotation

inductive Divider where
  | hyphen
  | underline
  | dollar
  deriving DecidableEq, Repr

namespace Divider

def all : List Divider := [hyphen, underline, dollar]

def sign : Divider → Char
  | hyphen => '-'
  | underline => '_'
  | dollar => '$'

end Divider

structure Toggles where
  hyphen : Bool
  underline : Bool
  dollar : Bool
  deriving DecidableEq, Repr

namespace Toggles

def off : Toggles := ⟨false, false, false⟩

def all : Toggles := ⟨true, true, true⟩

def get (g : Toggles) : Divider → Bool
  | .hyphen => g.hyphen
  | .underline => g.underline
  | .dollar => g.dollar

def set (g : Toggles) (d : Divider) (on : Bool) : Toggles :=
  match d with
  | .hyphen => { g with hyphen := on }
  | .underline => { g with underline := on }
  | .dollar => { g with dollar := on }

def any (g : Toggles) : Bool := Divider.all.any g.get

def signs (g : Toggles) : List Char := (Divider.all.filter g.get).map Divider.sign

end Toggles

end KeyNotation
