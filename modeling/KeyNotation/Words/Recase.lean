import KeyNotation.Casing
import KeyNotation.Words

/-!
# Words made into one

* `joinWords d first other t` — the words of `t`, each in the case `other` and then with its first
  character in the case `first`, without the dividers `d`;
* `lowerWords d first t` — the words in lower case, each with its first character in the case `first`;
* `capitalWords d t` — the words in lower case, each with a capital letter, `A-b-cd` as `ABCd`;
* `camel d t` — the same with a small letter in front, `A-b-cd` as `aBCd`. A text without dividers
  is one word already and left as it is;
* `camelHyphen t` and so on — the camel case of a text that one sign parts;
* `slashWords first t` — the words between slashes, each with its first character in the case
  `first`, the first word as well.
-/

namespace KeyNotation

def recaseWord (first other : Option LetterCase) (word : Text) : Text :=
  recaseFirst first (recase other word)

/-- A text that cannot be parted is left as it is. -/
def joinWords (d : Text) (first other : Option LetterCase) (t : Text) : Text :=
  if d = [] then t else (words d t).flatMap (recaseWord first other)

def lowerWords (d : Text) (first : Option LetterCase) (t : Text) : Text :=
  joinWords d first (some .lower) t

def capitalWords (d t : Text) : Text := lowerWords d (some .upper) t

theorem capitalWords_singleton (x : Char) (t : Text) :
    capitalWords [x] t = (words [x] t).flatMap (recaseWord (some .upper) (some .lower)) := by
  rw [capitalWords, lowerWords, joinWords, if_neg (List.cons_ne_nil x [])]

def camel (d t : Text) : Text :=
  if d = [] ∨ cut? d t = none then t else LetterCase.lower.recaseFirst (capitalWords d t)

/-! ## words between signs -/

def camelHyphen (t : Text) : Text := camel ['-'] t

def camelUnderline (t : Text) : Text := camel ['_'] t

def camelDollar (t : Text) : Text := camel ['$'] t

def camelDot (t : Text) : Text := camel ['.'] t

def camelSlash (t : Text) : Text := camel ['/'] t

def slashWords (first : Option LetterCase) (t : Text) : Text := lowerWords ['/'] first t

end KeyNotation
