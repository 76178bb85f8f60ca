import KeyNotation.Text

/-!
# Digits

Numbers and characters that are written with the digits of a base.

* `natOfDigits b t` — the number that the digits `t` write in base `b`;
* `digit? b c` — the value of the digit `c`, if it is one of base `b`;
* `charOfNat? n` — the character of number `n`, if `n` is the number of one.
-/

namespace KeyNotation

/-- The digits of a base up to sixteen, letters in either case. -/
def digit? (base : Nat) (c : Char) : Option Nat :=
  let value? :=
    if c.isDigit then some (c.toNat - '0'.toNat)
    else if 'a' ≤ c ∧ c ≤ 'f' then some (c.toNat - 'a'.toNat + 10)
    else if 'A' ≤ c ∧ c ≤ 'F' then some (c.toNat - 'A'.toNat + 10)
    else none
  value?.filter (· < base)

def isDigitOf (base : Nat) (c : Char) : Bool := (digit? base c).isSome

/-- Any other character counts as zero. -/
def natOfDigits (base : Nat) (t : Text) : Nat :=
  t.foldl (fun n c => base * n + (digit? base c).getD 0) 0

/-- One or more decimal digits. -/
def isDigits (t : Text) : Bool := t != [] && t.all Char.isDigit

def charOfNat? (n : Nat) : Option Char := if n.isValidChar then some (Char.ofNat n) else none

/-- The character whose number the digits write in base sixteen. -/
def charOfHex? (digits : Text) : Option Char :=
  if digits.all (isDigitOf 16) then charOfNat? (natOfDigits 16 digits) else none

end KeyNotation
