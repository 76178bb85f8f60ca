import Mathlib.Data.List.Infix
import KeyNotation.Text

/-!
# Endings of texts

What a reader that works from the end of a text needs to know.

* `isSuffixOf?_eq_none_iff` — an ending that cannot be taken off;
* `exists_mem_of_suffix_append` — an ending that is too long for `s` takes the last character of
  what stands in front of `s`.
-/

namespace KeyNotation

theorem isSuffixOf?_eq_none_iff {d t : Text} : d.isSuffixOf? t = none ↔ ¬ d <:+ t := by
  rw [Option.eq_none_iff_forall_ne_some]
  simp only [ne_eq, List.isSuffixOf?_eq_some_iff_append_eq]
  exact not_exists.symm

theorem exists_mem_of_suffix_append {stem s d : Text} (h : d <:+ stem ++ s)
    (hlt : s.length < d.length) : ∃ c ∈ d, [c] <:+ stem := by
  obtain ⟨front, rfl⟩ :=
    List.suffix_of_suffix_length_le (List.suffix_append stem s) h (by omega)
  have hne : front ≠ [] := by
    rintro rfl
    exact absurd hlt (by simp)
  have hlast : [front.getLast hne] <:+ front :=
    ⟨front.dropLast, List.dropLast_append_getLast hne⟩
  exact ⟨front.getLast hne, List.mem_append_left _ (List.getLast_mem hne),
    hlast.trans (List.suffix_append_self_iff.1 h)⟩

end KeyNotation
