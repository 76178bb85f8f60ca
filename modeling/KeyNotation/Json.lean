import KeyNotation.Entries

/-!
# JSON values

Objects keep the order of their entries. A number is an integer or the text of a decimal, which is
written as it was read.

* `Json.WellFormed j` — no object in `j` has two entries of one key.
-/

namespace KeyNotation

inductive Number where
  | int (n : Int)
  | decimal (literal : Text)
  deriving DecidableEq, Repr

inductive Json where
  | null
  | bool (b : Bool)
  | num (n : Number)
  | str (t : Text)
  | arr (items : List Json)
  | obj (entries : List (Text × Json))

namespace Json

mutual

def WellFormed : Json → Prop
  | null => True
  | bool _ => True
  | num _ => True
  | str _ => True
  | arr items => WellFormedItems items
  | obj entries => (Entries.keys entries).Nodup ∧ WellFormedEntries entries

def WellFormedItems : List Json → Prop
  | [] => True
  | v :: items => v.WellFormed ∧ WellFormedItems items

def WellFormedEntries : Entries Json → Prop
  | [] => True
  | (_, v) :: entries => v.WellFormed ∧ WellFormedEntries entries

end

theorem wellFormedItems_iff : ∀ {items : List Json},
    WellFormedItems items ↔ ∀ v ∈ items, v.WellFormed
  | [] => by simp [WellFormedItems]
  | v :: items => by simp [WellFormedItems, @wellFormedItems_iff items]

theorem wellFormedEntries_iff : ∀ {entries : Entries Json},
    WellFormedEntries entries ↔ ∀ e ∈ entries, e.2.WellFormed
  | [] => by simp [WellFormedEntries]
  | (k, v) :: entries => by
    simp [WellFormedEntries, @wellFormedEntries_iff entries]

end Json

end KeyNotation
