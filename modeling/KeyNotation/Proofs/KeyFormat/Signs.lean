import KeyNotation.KeyPolicy
import KeyNotation.Proofs.Casing.Signs
import KeyNotation.Proofs.Words

/-!
# The signs of a formatted key

A format takes its dividers out of the stem of a key. Whatever else it does to the words, the other
signs of the stem stay.

* `KeyFormat.signs_format` — the signs of a formatted key;
* `KeyFormat.mem_format_iff` — the same for one sign;
* `KeyFormat.format_eq_stem` — a stem without dividers is left as it is.
-/

namespace KeyNotation

theorem signs_filter (p : Char → Bool) (t : Text) : signs (t.filter p) = (signs t).filter p :=
  List.filter_comm ..

theorem signs_capitalWords (x : Char) (t : Text) :
    signs (capitalWords [x] t) = (signs t).filter (· ≠ x) := by
  have hword (w : Text) : signs (recaseWord (some .upper) (some .lower) w) = signs w := by
    rw [recaseWord, signs_recaseFirst, signs_recase]
  rw [capitalWords_singleton, signs_flatMap hword, flatten_words, signs_filter]

theorem signs_stripDivider (t : Text) (x : Char) :
    signs (stripDivider t x) = (signs t).filter (· ≠ x) := by
  unfold stripDivider
  split
  · exact signs_capitalWords x t
  · rename_i hx
    exact (filter_ne_of_not_mem fun h => hx (List.mem_of_mem_filter h)).symm

theorem stripDividers_cons (d : Char) (ds : List Char) (t : Text) :
    stripDividers (d :: ds) t = stripDividers ds (stripDivider t d) := rfl

theorem signs_stripDividers (ds : List Char) (t : Text) :
    signs (stripDividers ds t) = (signs t).filter (· ∉ ds) := by
  induction ds generalizing t with
  | nil => simp [stripDividers]
  | cons d ds ih =>
    rw [stripDividers_cons, ih, signs_stripDivider, List.filter_filter]
    refine List.filter_congr fun c _ => ?_
    simp [Bool.and_comm]

theorem signs_recaseLike (model t : Text) : signs (recaseLike model t) = signs t := by
  cases model with
  | nil => rfl
  | cons c model => exact signs_recaseFirst _ t

/-! ## dividers -/

theorem Divider.isSign_sign (d : Divider) : isSign d.sign = true := by cases d <;> decide

theorem Toggles.mem_signs_iff {g : Toggles} {x : Char} :
    x ∈ g.signs ↔ ∃ d : Divider, g.get d = true ∧ d.sign = x := by
  simp only [Toggles.signs, List.mem_map, List.mem_filter]
  constructor
  · rintro ⟨d, ⟨-, hd⟩, hx⟩
    exact ⟨d, hd, hx⟩
  · rintro ⟨d, hd, hx⟩
    exact ⟨d, ⟨by cases d <;> decide, hd⟩, hx⟩

theorem Toggles.isSign_of_mem_signs {g : Toggles} {d : Char} (h : d ∈ g.signs) :
    isSign d = true := by
  obtain ⟨e, -, rfl⟩ := mem_signs_iff.1 h
  exact e.isSign_sign

theorem stripDividers_eq_self {ds : List Char} {t : Text} (h : ∀ d ∈ ds, d ∉ t) :
    stripDividers ds t = t := by
  induction ds with
  | nil => rfl
  | cons d ds ih =>
    rw [stripDividers_cons, stripDivider, if_neg (h d (List.mem_cons_self ..))]
    exact ih fun d' hd' => h d' (List.mem_cons_of_mem _ hd')

namespace KeyFormat

theorem signs_format (f : KeyFormat) (key : Text) :
    signs (f.format key) = (signs (f.stem key)).filter (· ∉ f.dividers.signs) := by
  rw [← signs_stripDividers]
  unfold format
  cases f.first with
  | some k => exact k.signs_recaseFirst _
  | none =>
    dsimp only
    split
    · exact signs_recaseLike _ _
    · rfl

theorem mem_format_iff {f : KeyFormat} {key : Text} {x : Char} (hx : isSign x = true) :
    x ∈ f.format key ↔ x ∈ f.stem key ∧ x ∉ f.dividers.signs := by
  rw [← mem_signs_iff hx, signs_format, List.mem_filter, mem_signs_iff hx]
  simp

theorem format_eq_stem {f : KeyFormat} (hf : f.first = none) {key : Text}
    (h : ∀ d ∈ f.dividers.signs, d ∉ f.stem key) : f.format key = f.stem key := by
  have hn : f.dividers.signs.any (· ∈ f.stem key) = false := by
    simpa using h
  simp only [format, hf, stripDividers_eq_self h, hn]
  rfl

end KeyFormat

end KeyNotation
