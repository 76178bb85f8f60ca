import KeyNotation.KeyFormat
import KeyNotation.ListMark

/-!
# Key policies

How a key is formatted depends on what it is the key of.

* `arrayKey g key`, `objectKey g key`, `scalarKey g key` — the key of an array, of an object, and of
  any other value, under the toggles `g`;
* `tableName name`, `variableName name` — the table of a table key, and the name of a variable that
  is to hold it.
-/

namespace KeyNotation

/-- The key of a list of what `stem` is the key of. -/
def plural (stem : Text) : Text := if stem = [] then "list" else stem ++ "List"

/-- A list mark at the end becomes part of the word. -/
def pluralOfMark (key : Text) : Text :=
  match listMark.isSuffixOf? key with
  | some stem => plural stem
  | none => key

def plainFormat (g : Toggles) : KeyFormat := ⟨false, true, g, none⟩

/-- An alias is taken as it is written. Without one, an array loses its hyphens in any case. -/
def arrayKey (g : Toggles) (key : Text) : Text :=
  match splitFirst? ':' ((listMark.isSuffixOf? key).getD key) with
  | some (_, a) => a
  | none => (plainFormat { g with hyphen := true }).format (pluralOfMark key)

def objectKey (g : Toggles) (key : Text) : Text :=
  match splitFirst? ':' key with
  | some (_, a) => a
  | none => (plainFormat g).format key

def scalarKey (g : Toggles) (key : Text) : Text := (plainFormat g).format key

def tableName (name : Text) : Text := beforeColon name

def variableName (name : Text) : Text :=
  KeyFormat.format ⟨true, true, ⟨true, true, false⟩, some .upper⟩ (pluralOfMark name)

end KeyNotation
