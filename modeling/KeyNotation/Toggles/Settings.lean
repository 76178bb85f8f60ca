import KeyNotation.Error
import KeyNotation.Toggles
import KeyNotation.Toml.Document

/-!
# Toggles from a document

The `format` table of a TOML document sets the toggles. Whatever else the document holds is for
others to read, and a toggle that is not set is off.

* `Toggles.ofDocument root` — the toggles of the document with the root table `root`;
* `Toggles.ofToml t` — the toggles of the document that `t` writes.
-/

namespace KeyNotation

open Toml

namespace Toggles

def boolOf : Option Node → Except SettingsFault Bool
  | none => .ok false
  | some (.scalar (.boolean b)) => .ok b
  | some _ => .error .toggleNotBoolean

def ofNodes (hyphen underline dollar : Option Node) : Except SettingsFault Toggles := do
  return ⟨← boolOf hyphen, ← boolOf underline, ← boolOf dollar⟩

/-- An array gives the toggles in their order. A moment is a table of its own kind, in which no
toggle is set. -/
def ofNode : Node → Except SettingsFault Toggles
  | .table _ es =>
    ofNodes (es.lookup "hyphen".toList) (es.lookup "underline".toList) (es.lookup "dollar".toList)
  | .array items => ofNodes items[0]? items[1]? items[2]?
  | .scalar (.moment _) => .ok off
  | _ => .error .formatNotTable

def ofDocument (root : Entries Node) : Except SettingsFault Toggles :=
  match root.lookup "format".toList with
  | some node => ofNode node
  | none => .ok off

def ofToml (t : Text) : Except KeyError Toggles :=
  match Document.ofText? t with
  | none => .error (.settings .notToml)
  | some root => (ofDocument root).mapError .settings

end Toggles

end KeyNotation
