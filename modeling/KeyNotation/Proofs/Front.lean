import Mathlib.Data.List.TakeWhile
import KeyNotation.Text

/-!
# Fronts of texts

What a reader that works from the front of a text needs to know.

* `takeWhile_dropWhile_eq_iff` — where the front ends whose characters pass a test;
* `dropWhile_eq_iff`, `takeWhile_eq_iff` — taking one character off as often as it stands in front,
  and going on to the first place where it stands.
-/

namespace KeyNotation

theorem takeWhile_dropWhile_eq_iff {p : Char → Bool} {t a b : Text} :
    t.takeWhile p = a ∧ t.dropWhile p = b ↔
      t = a ++ b ∧ (∀ c ∈ a, p c = true) ∧ ∀ c ∈ b.head?, p c = false := by
  constructor
  · rintro ⟨rfl, rfl⟩
    refine ⟨List.takeWhile_append_dropWhile.symm, fun c hc => List.mem_takeWhile_imp hc, ?_⟩
    intro c hc
    simpa [Option.mem_def.1 hc] using List.head?_dropWhile_not p t
  · rintro ⟨rfl, ha, hb⟩
    rw [List.takeWhile_append_of_pos ha, List.dropWhile_append_of_pos ha]
    cases b with
    | nil => simp
    | cons c b => simp [hb c rfl]

theorem dropWhile_eq_iff {x : Char} {t b : Text} :
    t.dropWhile (· == x) = b ↔ ∃ n, t = List.replicate n x ++ b ∧ b.head? ≠ some x := by
  constructor
  · intro h
    obtain ⟨ht, hfront, hhead⟩ := takeWhile_dropWhile_eq_iff.1 ⟨rfl, h⟩
    have hall : ∀ c ∈ t.takeWhile (· == x), c = x := by simpa using hfront
    refine ⟨(t.takeWhile (· == x)).length, ?_, ?_⟩
    · rwa [← List.eq_replicate_iff.2 ⟨rfl, hall⟩]
    · intro hx
      simpa using hhead x hx
  · rintro ⟨n, rfl, hhead⟩
    refine (takeWhile_dropWhile_eq_iff.2 ⟨rfl, ?_, ?_⟩).2
    · intro c hc
      simp [List.eq_of_mem_replicate hc]
    · intro c hc
      have hne : c ≠ x := by
        rintro rfl
        exact hhead hc
      simpa using hne

theorem takeWhile_eq_iff {x : Char} {t a : Text} :
    t.takeWhile (· != x) = a ↔ ∃ b, t = a ++ b ∧ x ∉ a ∧ (b = [] ∨ ∃ u, b = x :: u) := by
  constructor
  · intro h
    obtain ⟨ht, hfront, hhead⟩ := takeWhile_dropWhile_eq_iff.1 ⟨h, rfl⟩
    refine ⟨t.dropWhile (· != x), ht, fun hx => by simpa using hfront x hx, ?_⟩
    cases hb : t.dropWhile (· != x) with
    | nil => exact .inl rfl
    | cons c u =>
      have hc : c = x := by simpa [hb] using hhead
      exact .inr ⟨u, by rw [hc]⟩
  · rintro ⟨b, rfl, ha, hb⟩
    refine (takeWhile_dropWhile_eq_iff.2 ⟨rfl, ?_, ?_⟩).1
    · intro c hc
      have hne : c ≠ x := by
        rintro rfl
        exact ha hc
      simpa using hne
    · rcases hb with rfl | ⟨u, rfl⟩ <;> simp

end KeyNotation
