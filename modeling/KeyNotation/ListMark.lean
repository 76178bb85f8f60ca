import KeyNotation.Text

/-!
# The list mark

`[]` at the end of a key or of a path segment says that it stands for a list.

* `hasListMark t` — the mark stands somewhere in `t`.
-/

namespace KeyNotation

def listMark : Text := ['[', ']']

def hasListMark : Text → Bool
  | [] => false
  | c :: t => listMark.isPrefixOf (c :: t) || hasListMark t

theorem hasListMark_iff {t : Text} : hasListMark t = true ↔ listMark <:+: t := by
  induction t with
  | nil => simp [hasListMark, listMark]
  | cons c t ih =>
    rw [hasListMark, Bool.or_eq_true, ih, List.isPrefixOf_iff_prefix, List.infix_cons_iff]

end KeyNotation
