import KeyNotation.Json
import KeyNotation.KeyPolicy

/-!
# Normalizing a tree

Every key of every object is formatted by the policy of its value. Keys that become the same make
one entry, in the place of the first and with the value of the last.

* `Json.keyOf g v key` — the key `key` of the value `v`, formatted;
* `Json.normalize g j` — the tree `j` with all keys formatted.
-/

namespace KeyNotation

namespace Json

def keyOf (g : Toggles) (v : Json) (key : Text) : Text :=
  match v with
  | arr _ => arrayKey g key
  | obj _ => objectKey g key
  | _ => scalarKey g key

mutual

def normalize (g : Toggles) : Json → Json
  | null => null
  | bool b => bool b
  | num n => num n
  | str t => str t
  | arr items => arr (normalizeItems g items)
  | obj entries => obj (Entries.ofList (normalizeEntries g entries))

def normalizeItems (g : Toggles) : List Json → List Json
  | [] => []
  | v :: items => v.normalize g :: normalizeItems g items

/-- The entries one by one, before those of one key are merged. -/
def normalizeEntries (g : Toggles) : List (Text × Json) → List (Text × Json)
  | [] => []
  | (k, v) :: entries => (keyOf g v k, v.normalize g) :: normalizeEntries g entries

end

theorem normalizeItems_eq_map (g : Toggles) : ∀ items : List Json,
    normalizeItems g items = items.map (normalize g)
  | [] => rfl
  | v :: items => by simp [normalizeItems, normalizeItems_eq_map g items]

theorem normalizeEntries_eq_map (g : Toggles) : ∀ entries : List (Text × Json),
    normalizeEntries g entries = entries.map fun e => (keyOf g e.2 e.1, e.2.normalize g)
  | [] => rfl
  | (k, v) :: entries => by simp [normalizeEntries, normalizeEntries_eq_map g entries]

end Json

end KeyNotation
