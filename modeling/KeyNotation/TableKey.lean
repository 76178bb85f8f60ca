import KeyNotation.Name

/-!
# Table keys

A table key is a table and, if it is given one, the alias it goes by: `Moment` or `Moment:main`.

* `TableKey.render k` — the key as it is written;
* `TableKey.read t` — the longest table key that `t` starts with, and the rest of `t`;
* `TableKey.ofText? t` — the whole text read as a table key.
-/

namespace KeyNotation

structure TableKey where
  table : Text
  aliased : Option Text
  deriving DecidableEq, Repr

namespace TableKey

def render (k : TableKey) : Text :=
  match k.aliased with
  | some a => k.table ++ ':' :: a
  | none => k.table

/-- The names of `k` are names. -/
def Named (k : TableKey) : Prop := isName k.table = true ∧ ∀ a ∈ k.aliased, isName a = true

instance (k : TableKey) : Decidable k.Named := by unfold Named; infer_instance

/-- A colon without a name behind it is no alias and stays unread. -/
def readAlias : Text → Option (Text × Text)
  | ':' :: t => Name.read t
  | _ => none

def read (t : Text) : Option (TableKey × Text) :=
  match Name.read t with
  | none => none
  | some (table, rest) =>
    match readAlias rest with
    | some (a, rest) => some (⟨table, some a⟩, rest)
    | none => some (⟨table, none⟩, rest)

def ofText? (t : Text) : Option TableKey :=
  match read t with
  | some (k, []) => some k
  | _ => none

theorem append_of_read {t rest : Text} {k : TableKey} (h : read t = some (k, rest)) :
    k.render ++ rest = t := by
  unfold read at h
  split at h
  · simp at h
  · rename_i table r hr
    have hn := Name.append_of_read hr
    split at h
    · rename_i a r' ha
      obtain ⟨rfl, rfl⟩ : TableKey.mk table (some a) = k ∧ r' = rest := by simpa using h
      unfold readAlias at ha
      split at ha
      · rw [← hn, ← Name.append_of_read ha]
        simp [render]
      · simp at ha
    · obtain ⟨rfl, rfl⟩ : TableKey.mk table none = k ∧ r = rest := by simpa using h
      exact hn

end TableKey

end KeyNotation
