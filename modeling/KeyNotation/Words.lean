import KeyNotation.Text

/-!
# Words

A divider of one or more characters parts a text into words. It is looked for from the left, and a
place that is part of one divider is not part of the next.

* `cut? d t` — `t` before and after the first place where `d` stands;
* `words d t` — the words of `t` between the dividers `d`.
-/

namespace KeyNotation

def cut? (d : Text) : Text → Option (Text × Text)
  | [] => none
  | c :: t =>
    if d <+: c :: t then some ([], (c :: t).drop d.length)
    else (cut? d t).map fun (a, b) => (c :: a, b)

theorem append_of_cut? {d t a b : Text} (h : cut? d t = some (a, b)) : a ++ (d ++ b) = t := by
  induction t generalizing a with
  | nil => simp [cut?] at h
  | cons c t ih =>
    unfold cut? at h
    split at h
    · rename_i hstarts
      cases h
      exact List.prefix_iff_eq_append.1 hstarts
    · obtain ⟨⟨a', b'⟩, hs, he⟩ := Option.map_eq_some_iff.1 h
      obtain ⟨rfl, rfl⟩ : c :: a' = a ∧ b' = b := by simpa using he
      rw [List.cons_append, ih hs]

/-- Without a divider, a text is one word. -/
def words (d t : Text) : List Text :=
  if d = [] then [t]
  else
    match _h : cut? d t with
    | none => [t]
    | some (word, rest) => word :: words d rest
termination_by t.length
decreasing_by
  rename_i hd
  have := congrArg List.length (append_of_cut? _h)
  have := List.length_pos_iff.2 hd
  simp only [List.length_append] at *
  omega

end KeyNotation
